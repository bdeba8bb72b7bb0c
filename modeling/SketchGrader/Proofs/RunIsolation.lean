import SketchGrader.Proofs.SessionChange

/-!
# Runs do not see what came before them

A runner keeps its recorder, its clock and a stop request from one run to the next. A run starts
with nothing of the recorder and of the stop request. All that it has from the clock is how much
later than the start it is, and that is the same whatever the clock shows.
-/

namespace SketchGrader.Live

/-- A session in which everything happened `offset` later. -/
def Session.shifted (offset : Int) (s : Session) : Session :=
  { s with
    clock := s.clock.advance offset
    recorder := { s.recorder with startedAt := s.recorder.startedAt.map (· + offset) } }

/-- The session of a new runner with the tick and the plan of this one. -/
def Session.fresh (s : Session) : Session := { clock := ⟨0, s.clock.tick⟩, plan := s.plan }

theorem advance_advance (c : Clock) (a b : Int) :
    (c.advance a).advance b = (c.advance b).advance a := by
  have sum : c.now + a + b = c.now + b + a := by omega
  simp only [Clock.advance, sum]

theorem look_shifted (offset : Int) (s : Session) :
    (s.shifted offset).look = (s.look.1, s.look.2.shifted offset) := by
  rcases s with ⟨⟨events, startedAt, isRecording⟩, clock, plan, stopRequested⟩
  cases startedAt with
  | none => rfl
  | some start =>
      have since : clock.now + offset - (start + offset) = clock.now - start := by omega
      have later : clock.now + offset + clock.tick = clock.now + clock.tick + offset := by omega
      simp only [Session.shifted, Session.look, Recorder.elapsed, Option.map_some, Clock.read,
        Clock.advance, since, later]

theorem record_shifted (offset : Int) (s : Session) (event : Event) :
    (s.shifted offset).record event =
      ((s.record event).1, (s.record event).2.shifted offset) := by
  have recording : (s.shifted offset).recorder.isRecording = s.recorder.isRecording := rfl
  cases hr : s.recorder.isRecording with
  | false => rw [Session.record_of_idle hr, Session.record_of_idle (recording.trans hr)]
  | true =>
      rw [Session.record_of_recording hr, Session.record_of_recording (recording.trans hr),
        look_shifted]
      rfl

theorem shifted_unnoticed (offset : Int) : Unnoticed (Session.shifted offset) where
  seen _ _ := rfl
  advance s ms := by simp only [Session.shifted, advance_advance]
  look := look_shifted offset
  record := record_shifted offset

/-- A run begins as on a new runner, later by what the clock shows. -/
theorem begin_eq_change (setup : Setup) (session : Session) :
    begin setup session =
      (begin setup session.fresh).change (Session.shifted session.clock.now) := by
  have started : 0 + session.clock.now = session.clock.now := by omega
  have read : 0 + session.clock.tick + session.clock.now =
      session.clock.now + session.clock.tick := by omega
  simp only [begin, State.change, Session.shifted, Session.fresh, Recorder.start, Clock.read,
    Clock.advance, Option.map_some, started, read]

theorem finish_shifted (setup : Setup) (offset : Int) (ran : Passes) (opening : List Mark) :
    (finish setup opening (ran.change (Session.shifted offset))).session =
      (finish setup opening ran).session.shifted offset := by
  rw [finish_session, finish_session, told_change (shifted_unnoticed offset)]
  rfl

/-- A run gives what it gives on a new runner, and leaves the runner as it leaves a new one. -/
theorem run_fresh (setup : Setup) (session : Session) (p : Program) (limit : Option Int) :
    let here := run setup session p limit
    let new := run setup session.fresh p limit
    here.marks = new.marks ∧ here.result = new.result ∧
      here.session = new.session.shifted session.clock.now := by
  have unnoticed := shifted_unnoticed session.clock.now
  have same := @finish_change setup _ unnoticed
    (bodies setup p (limit.getD setup.maxIterations) (begin setup session.fresh))
    (fun _ => rfl) rfl (opening (limit.getD setup.maxIterations))
  simp only [run_eq]
  rw [begin_eq_change, bodies_change unnoticed (fun _ => rfl)]
  exact ⟨same.1, same.2, finish_shifted _ _ _ _⟩

theorem run_not_recording (setup : Setup) (session : Session) (p : Program)
    (limit : Option Int) : (run setup session p limit).session.recorder.isRecording = false := by
  rcases run_steps setup session p limit with ⟨t, _, ends⟩
  rw [ends.session]
  rfl

section
variable {setup : Setup}

theorem tick_tell (s : State) (kind : MarkKind) (mark : Mark) :
    (s.tell setup kind mark).2.session.clock.tick = s.session.clock.tick := by
  unfold State.tell
  split_ifs
  · rfl
  · rfl

theorem tick_look (s : Session) : s.look.2.clock.tick = s.clock.tick := by
  unfold Session.look Recorder.elapsed
  split
  · rfl
  · rfl

theorem Step.tick {s t : State} {marks : List Mark} (h : Step setup s marks t) :
    t.session.clock.tick = s.session.clock.tick := by
  cases h with
  | report => rfl
  | execute => exact tick_tell _ _ _
  | pause ms =>
      unfold State.pause
      split_ifs
      · rfl
      · rfl
  | look => exact tick_look _
  | @record event stamped session recorded =>
      rw [tick_tell]
      cases hr : s.session.recorder.isRecording with
      | false =>
          rw [Session.record_of_idle hr] at recorded
          cases recorded
      | true =>
          rw [Session.record_of_recording hr] at recorded
          cases recorded
          exact tick_look _
  | pass => exact tick_tell _ _ _
  | halt => exact tick_tell _ _ _

theorem Steps.tick {s t : State} {marks : List Mark} (h : Steps setup s marks t) :
    t.session.clock.tick = s.session.clock.tick := by
  induction h with
  | refl => rfl
  | cons step _ ih => rw [ih, step.tick]

theorem run_tick (session : Session) (p : Program) (limit : Option Int) :
    (run setup session p limit).session.clock.tick = session.clock.tick := by
  rcases run_steps setup session p limit with ⟨t, steps, ends⟩
  rw [ends.session]
  exact steps.tick

end

/-- What can be done with a runner. -/
inductive Use where
  | run (p : Program) (limit : Option Int) (plan : StopPlan)
  | stop
  | elapse (ms : Int)

/-- What a runner keeps after it has been used. A run that breaks down is a use as well. -/
def Session.use (setup : Setup) (s : Session) : Use → Session
  | .run p limit plan => (Live.run setup { s with plan } p limit).session
  | .stop => s.stop
  | .elapse ms => { s with clock := s.clock.advance ms }

/-- What a runner keeps after it has been used many times. -/
def Session.useAll (setup : Setup) (s : Session) (uses : List Use) : Session :=
  uses.foldl (Session.use setup) s

theorem use_tick (setup : Setup) (s : Session) (use : Use) :
    (s.use setup use).clock.tick = s.clock.tick := by
  cases use with
  | run p limit plan => exact run_tick _ p limit
  | stop => rfl
  | elapse ms => rfl

theorem useAll_tick (setup : Setup) (s : Session) (uses : List Use) :
    (s.useAll setup uses).clock.tick = s.clock.tick := by
  unfold Session.useAll
  induction uses generalizing s with
  | nil => rfl
  | cons use rest ih =>
      rw [List.foldl_cons, ih]
      exact use_tick setup s use

/-- However a runner has been used and whatever its clock shows by now, the next run leaves the
marks and gives the result of the first run of a new runner whose clock shows 0 and has the same
tick. It also leaves the runner as it would leave the new one, only later, and not recording. -/
theorem runs_are_isolated (setup : Setup) (first : Session) (uses : List Use) (now : Int)
    (plan : StopPlan) (p : Program) (limit : Option Int) :
    let used := first.useAll setup uses
    let next := run setup { used with clock := { used.clock with now }, plan } p limit
    let new := run setup { clock := ⟨0, first.clock.tick⟩, plan } p limit
    next.marks = new.marks ∧ next.result = new.result ∧
      next.session = new.session.shifted now ∧ next.session.recorder.isRecording = false := by
  intro used next new
  have tick : used.clock.tick = first.clock.tick := useAll_tick setup first uses
  have fresh : Session.fresh { used with clock := { used.clock with now }, plan } =
      { clock := ⟨0, first.clock.tick⟩, plan } := by
    simp only [Session.fresh, tick]
  have same := run_fresh setup { used with clock := { used.clock with now }, plan } p limit
  rw [fresh] at same
  exact ⟨same.1, same.2.1, same.2.2, run_not_recording _ _ _ _⟩

end SketchGrader.Live
