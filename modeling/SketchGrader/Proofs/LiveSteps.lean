import SketchGrader.Proofs.LiveAgreement

/-!
# The steps of a live run

A live run is a sequence of small steps, each with the marks that it leaves. Between two steps the
run looks at nothing but its state. What every step keeps is therefore kept by a whole run, whoever
stops it and wherever it halts.
-/

namespace SketchGrader.Live

/-- The time since the start of the recording, and the session after the clock has been read. -/
def Session.look (s : Session) : Int × Session :=
  ((s.recorder.elapsed s.clock).1, { s with clock := (s.recorder.elapsed s.clock).2 })

/-- The event as it is recorded, if it is, and the session from then on. -/
def Session.record (s : Session) (event : Event) : Option Event × Session :=
  ((s.recorder.record s.clock event).1,
    { s with
      recorder := (s.recorder.record s.clock event).2.1
      clock := (s.recorder.record s.clock event).2.2 })

theorem Session.record_of_idle {s : Session} (h : s.recorder.isRecording = false)
    (event : Event) : s.record event = (none, s) := by
  simp only [record, Recorder.record, h, Bool.false_eq_true, if_false]

theorem Session.record_of_recording {s : Session} (h : s.recorder.isRecording = true)
    (event : Event) :
    s.record event =
      let stamped := event.shift (s.look.1 - event.time)
      (some stamped,
        { s.look.2 with
          recorder := { s.recorder with events := s.recorder.events ++ [stamped] } }) := by
  simp only [record, look, Recorder.record, h, if_true]

theorem observe_eq (setup : Setup) (origin : Body) (s : State) (kind : EventKind) (pin : Int) :
    s.observe setup origin kind pin =
      match s.machine.board.get? pin with
      | none => ([], { s with session := s.session.look.2 })
      | some state =>
        match s.emission.observe state pin kind origin s.session.look.1 with
        | (none, emission) => ([], { s with session := s.session.look.2, emission })
        | (some event, emission) =>
          match s.session.look.2.record event with
          | (none, session) => ([], { s with session, emission })
          | (some stamped, session) =>
            let told := State.tell setup { s with session, emission } .event (.event stamped)
            (.notice (.recorded stamped) :: told.1, told.2) := by
  simp only [State.observe, Session.record, Session.look]
  cases s.machine.board.get? pin with
  | none => rfl
  | some state =>
      simp only
      rcases s.emission.observe state pin kind origin
        (s.session.recorder.elapsed s.session.clock).1 with ⟨_ | event, emission⟩
      · rfl
      · simp only
        rcases s.session.recorder.record (s.session.recorder.elapsed s.session.clock).2 event with
          ⟨_ | stamped, recorder, clock⟩
        · rfl
        · rfl

/-- One step of a live run. -/
inductive Step (setup : Setup) : State → List Mark → State → Prop where
  | report (s : State) (notices : List Notice) : Step setup s (notices.map Mark.notice) s
  /-- A statement changes the machine and is shown; nobody has asked for a stop before. -/
  | execute (s : State) (machine : Machine) (number : Int) (statement : Statement) :
      s.session.stopRequested = false →
      Step setup s
        (State.tell setup { s with machine } .statement
          (.statement number statement machine.board.lights)).1
        (State.tell setup { s with machine } .statement
          (.statement number statement machine.board.lights)).2
  | pause (s : State) (ms : Int) : Step setup s (s.pause setup ms).1 (s.pause setup ms).2
  /-- The clock is read for a look at a pin. -/
  | look (s : State) (emission : Emission) :
      Step setup s [] { s with session := s.session.look.2, emission }
  | record (s : State) {event stamped : Event} {session : Session} :
      s.session.record event = (some stamped, session) →
      Step setup s
        (.notice (.recorded stamped) ::
          (State.tell setup { s with session } .event (.event stamped)).1)
        (State.tell setup { s with session } .event (.event stamped)).2
  | pass (s : State) (count : Nat) :
      Step setup s (s.tell setup .iteration (.iteration count)).1
        (s.tell setup .iteration (.iteration count)).2
  | halt (s : State) (fault : Fault) :
      Step setup s (s.tell setup .halted (.halted fault)).1
        (s.tell setup .halted (.halted fault)).2

/-- Steps one after the other, with the marks of all of them. -/
inductive Steps (setup : Setup) : State → List Mark → State → Prop where
  | refl (s : State) : Steps setup s [] s
  | cons {s t u : State} {a b : List Mark} :
      Step setup s a t → Steps setup t b u → Steps setup s (a ++ b) u

section
variable {setup : Setup}

theorem Step.steps {s t : State} {marks : List Mark} (h : Step setup s marks t) :
    Steps setup s marks t := by
  rw [← List.append_nil marks]
  exact .cons h (.refl t)

theorem Steps.trans {s t u : State} {a b : List Mark} (first : Steps setup s a t)
    (second : Steps setup t b u) : Steps setup s (a ++ b) u := by
  induction first with
  | refl s => exact second
  | cons step _ ih =>
      rw [List.append_assoc]
      exact .cons step (ih second)

theorem stepPause_steps (s : State) :
    Steps setup s (s.stepPause setup).1 (s.stepPause setup).2 := by
  unfold State.stepPause
  split_ifs
  · exact .refl s
  · exact (Step.pause s setup.stepDelayMs).steps

theorem observe_steps (s : State) (origin : Body) (kind : EventKind) (pin : Int) :
    Steps setup s (s.observe setup origin kind pin).1 (s.observe setup origin kind pin).2 := by
  rw [observe_eq]
  split
  next => exact (Step.look s s.emission).steps
  next =>
    split
    next emission _ => exact (Step.look s emission).steps
    next event emission _ =>
      have looked := (@Step.look setup s emission).steps
      split
      next session hr =>
        cases hi : s.session.look.2.recorder.isRecording with
        | false =>
            rw [Session.record_of_idle hi] at hr
            cases hr
            exact looked
        | true =>
            rw [Session.record_of_recording hi] at hr
            cases hr
      next stamped session hr => exact looked.trans (Step.record _ hr).steps

theorem settle_steps {s : State} (unstopped : s.session.stopRequested = false)
    (machine : Machine) (origin : Body) (number : Int) (statement : Statement) :
    Steps setup s (State.settle setup origin { s with machine } number statement).1
      (State.settle setup origin { s with machine } number statement).2 := by
  have executed := (@Step.execute setup s machine number statement unstopped).steps
  cases hw : statement.isWait with
  | true =>
      cases statement with
      | wait ms =>
          rw [settle_wait]
          exact executed.trans (Step.pause _ ms).steps
      | _ => cases hw
  | false =>
      rw [settle_of_not_wait hw]
      cases statement.writtenPin? with
      | none =>
          simp only [List.append_nil]
          exact executed.trans (stepPause_steps _)
      | some pin => exact (executed.trans (observe_steps _ origin _ pin)).trans (stepPause_steps _)

theorem line_steps {s : State} (unstopped : s.session.stopRequested = false) (origin : Body)
    (number : Int) (text : Text) :
    Steps setup s (line setup origin s number text).marks
      (line setup origin s number text).state := by
  unfold line
  split
  next => exact .refl s
  next => exact .refl s
  next statement machine _ =>
    exact (Step.report s _).steps.trans (settle_steps unstopped machine origin number statement)

theorem andThen_steps {s : State} {p : Progress} {next : State → Progress}
    (first : Steps setup s p.marks p.state)
    (second : Steps setup p.state (next p.state).marks (next p.state).state) :
    Steps setup s (p.andThen next).marks (p.andThen next).state := by
  by_cases hf : p.ending = .finished
  · rw [andThen_of_finished hf]
    exact first.trans second
  · rw [andThen_of_not_finished hf]
    exact first

theorem lines_steps (origin : Body) (s : State) (body : List (Int × Text)) :
    Steps setup s (lines setup origin s body).marks (lines setup origin s body).state := by
  induction body generalizing s with
  | nil => exact .refl s
  | cons numbered rest ih =>
      rw [lines]
      split_ifs with h
      · exact .refl s
      · apply andThen_steps
        · exact line_steps (eq_false_of_ne_true h) origin numbered.1 numbered.2
        · exact ih _

theorem passes_steps (body : List (Int × Text)) (s : State) (done count : Nat) :
    Steps setup s (passes setup body s done count).progress.marks
      (passes setup body s done count).progress.state := by
  induction count generalizing s done with
  | zero => exact .refl s
  | succ count ih =>
      have pass := @lines_steps setup .loop s body
      by_cases hf : (lines setup .loop s body).ending = .finished
      · rw [passes_of_finished hf]
        exact (pass.trans (Step.pass _ (done + 1)).steps).trans (ih _ _)
      · rw [passes_of_not_finished hf]
        exact pass

theorem bodies_steps (p : Program) (limit : Int) (s : State) :
    Steps setup s (bodies setup p limit s).progress.marks
      (bodies setup p limit s).progress.state := by
  have first := @lines_steps setup .setup s (p.statementLines .setup)
  by_cases hf : (lines setup .setup s (p.statementLines .setup)).ending = .finished
  · cases hp : p.isLooping with
    | false =>
        rw [bodies_of_plain hp]
        exact first
    | true =>
        rw [bodies_of_looping hp hf]
        exact first.trans (passes_steps _ _ 0 limit.toNat)
  · rw [bodies_of_not_finished hf]
    exact first

end

/-- Where a run begins: the recorder is started and no stop is asked for. -/
def begin (setup : Setup) (session : Session) : State where
  session :=
    { session with
      recorder := (session.recorder.start session.clock).1
      clock := (session.recorder.start session.clock).2
      stopRequested := false }
  machine := Machine.ofPins setup.usablePins

/-- The marks that open a run. -/
def opening (limit : Int) : List Mark := [.notice .recordingStarted, .notice (.runStarted limit)]

theorem run_eq (setup : Setup) (session : Session) (p : Program) (limit : Option Int) :
    run setup session p limit =
      finish setup (opening (limit.getD setup.maxIterations))
        (bodies setup p (limit.getD setup.maxIterations) (begin setup session)) := rfl

/-- The fault that a part of a run ended with. -/
def Ending.fault? : Ending → Option Fault
  | .halted (.fault f) => some f
  | _ => none

/-- What is shown when the passes are over: a learner's mistake, if they came to a halt with one. -/
def Passes.told (setup : Setup) (ran : Passes) : List Mark × State :=
  match ran.progress.ending with
  | .halted (.fault f) =>
    (.notice (.runHalted f) :: (ran.progress.state.tell setup .halted (.halted f)).1,
      (ran.progress.state.tell setup .halted (.halted f)).2)
  | _ => ([], ran.progress.state)

section
variable {setup : Setup}

theorem told_of_not_fault {ran : Passes} (h : ran.progress.ending.fault? = none) :
    ran.told setup = ([], ran.progress.state) := by
  unfold Passes.told
  split
  next f hf =>
    rw [hf] at h
    cases h
  next => rfl

theorem told_of_breakdown {ran : Passes} {b : Breakdown}
    (h : ran.progress.ending = .halted (.breakdown b)) :
    ran.told setup = ([], ran.progress.state) := by
  apply told_of_not_fault
  rw [h]
  rfl

theorem finish_of_breakdown {ran : Passes} {b : Breakdown}
    (h : ran.progress.ending = .halted (.breakdown b)) (opening : List Mark) :
    finish setup opening ran =
      ⟨.error b, opening ++ ran.progress.marks,
        { ran.progress.state.session with
          recorder := ran.progress.state.session.recorder.stop }⟩ := by
  simp only [finish, h]

theorem finish_of_result {ran : Passes}
    (h : ∀ b, ran.progress.ending ≠ .halted (.breakdown b)) (opening : List Mark) :
    finish setup opening ran =
      let s := (ran.told setup).2.session
      let fault := ran.progress.ending.fault?
      ⟨.ok ⟨s.recorder.stop.sequence, ran.iterations, s.stopRequested, fault⟩,
        opening ++ ran.progress.marks ++ (ran.told setup).1 ++
          [.notice (.runFinished ran.iterations s.stopRequested (fault.map Fault.kind))],
        { s with recorder := s.recorder.stop }⟩ := by
  obtain ⟨⟨marks, state, ending⟩, iterations⟩ := ran
  cases ending with
  | finished => simp only [finish, Passes.told, Ending.fault?, List.append_nil]
  | stopped => simp only [finish, Passes.told, Ending.fault?, List.append_nil]
  | halted halt =>
      cases halt with
      | breakdown b => exact (h b rfl).elim
      | fault f => rfl

theorem finish_session (opening : List Mark) (ran : Passes) :
    (finish setup opening ran).session =
      { (ran.told setup).2.session with
        recorder := (ran.told setup).2.session.recorder.stop } := by
  by_cases hb : ∃ b, ran.progress.ending = .halted (.breakdown b)
  · rcases hb with ⟨b, hb⟩
    rw [finish_of_breakdown hb, told_of_breakdown hb]
  · rw [finish_of_result (not_exists.mp hb)]

theorem finish_marks (opening : List Mark) (ran : Passes) :
    ∃ notices : List Notice, (finish setup opening ran).marks =
      opening ++ (ran.progress.marks ++ ((ran.told setup).1 ++ notices.map Mark.notice)) := by
  by_cases hb : ∃ b, ran.progress.ending = .halted (.breakdown b)
  · rcases hb with ⟨b, hb⟩
    rw [finish_of_breakdown hb, told_of_breakdown hb]
    exact ⟨[], by simp⟩
  · rw [finish_of_result (not_exists.mp hb)]
    simp only [List.append_assoc]
    exact ⟨[_], rfl⟩

theorem told_steps (ran : Passes) :
    Steps setup ran.progress.state (ran.told setup).1 (ran.told setup).2 := by
  unfold Passes.told
  split
  next f _ => exact (Step.report _ [.runHalted f]).steps.trans (Step.halt _ f).steps
  next => exact .refl _

end

/-- A run that went through its marks to the state `s`. -/
structure EndsIn (r : Run) (s : State) : Prop where
  session : r.session = { s.session with recorder := s.session.recorder.stop }
  result : ∀ result, r.result = .ok result →
    result.sequence = s.session.recorder.sequence ∧ result.stopped = s.session.stopRequested

theorem finish_steps {setup : Setup} {s : State} {ran : Passes}
    (h : Steps setup s ran.progress.marks ran.progress.state) (limit : Int) :
    ∃ t, Steps setup s (finish setup (opening limit) ran).marks t ∧
      EndsIn (finish setup (opening limit) ran) t := by
  have opened := (@Step.report setup s [.recordingStarted, .runStarted limit]).steps
  rcases @finish_marks setup (opening limit) ran with ⟨notices, hmarks⟩
  have closed := (told_steps ran).trans (@Step.report setup _ notices).steps
  refine ⟨(ran.told setup).2, ?_, finish_session _ ran, ?_⟩
  · rw [hmarks]
    exact opened.trans (h.trans closed)
  · intro result hr
    by_cases hb : ∃ b, ran.progress.ending = .halted (.breakdown b)
    · rcases hb with ⟨b, hb⟩
      rw [finish_of_breakdown hb] at hr
      cases hr
    · rw [finish_of_result (not_exists.mp hb)] at hr
      cases hr
      exact ⟨rfl, rfl⟩

/-- A run takes steps from its beginning, and they leave all of its marks. -/
theorem run_steps (setup : Setup) (session : Session) (p : Program) (limit : Option Int) :
    ∃ t, Steps setup (begin setup session) (run setup session p limit).marks t ∧
      EndsIn (run setup session p limit) t := by
  rw [run_eq]
  exact finish_steps (bodies_steps p _ _) _

end SketchGrader.Live
