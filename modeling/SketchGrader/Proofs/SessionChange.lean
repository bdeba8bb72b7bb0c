import SketchGrader.Proofs.LiveSteps

/-!
# Changes of a session that a run does not notice

A live run uses its session in four ways: it counts marks, moves the clock by pausing, reads the
time since the start, and records events. A change of sessions that commutes with these four
commutes with the execution of a line, which then leaves the same marks. If the change also keeps
the stop request, it commutes with the execution of a whole program.
-/

namespace SketchGrader.Live

/-- A change of sessions that is not noticed in the course of a run. -/
structure Unnoticed (change : Session → Session) : Prop where
  seen : ∀ s kind, (change s).seen kind = change (s.seen kind)
  advance : ∀ s ms, { change s with clock := (change s).clock.advance ms } =
    change { s with clock := s.clock.advance ms }
  look : ∀ s, (change s).look = (s.look.1, change s.look.2)
  record : ∀ s event, (change s).record event = ((s.record event).1, change (s.record event).2)

/-- The state with a changed session. -/
def State.change (change : Session → Session) (s : State) : State :=
  { s with session := change s.session }

/-- A part of a run that comes to a changed session. -/
def Progress.change (change : Session → Session) (p : Progress) : Progress :=
  { p with state := p.state.change change }

/-- Passes that come to a changed session. -/
def Passes.change (change : Session → Session) (ran : Passes) : Passes :=
  { ran with progress := ran.progress.change change }

section
variable {setup : Setup} {change : Session → Session} (h : Unnoticed change)
include h

theorem tell_change (s : State) (kind : MarkKind) (mark : Mark) :
    (s.change change).tell setup kind mark =
      ((s.tell setup kind mark).1, (s.tell setup kind mark).2.change change) := by
  unfold State.tell
  split_ifs
  · simp only [State.change, h.seen]
  · rfl

theorem pause_change (s : State) (ms : Int) :
    (s.change change).pause setup ms =
      ((s.pause setup ms).1, (s.pause setup ms).2.change change) := by
  unfold State.pause
  split_ifs
  · simp only [State.change, h.advance, h.seen]
  · rfl

theorem stepPause_change (s : State) :
    (s.change change).stepPause setup =
      ((s.stepPause setup).1, (s.stepPause setup).2.change change) := by
  unfold State.stepPause
  split_ifs
  · rfl
  · exact pause_change h s setup.stepDelayMs

theorem observe_change (origin : Body) (s : State) (kind : EventKind) (pin : Int) :
    (s.change change).observe setup origin kind pin =
      ((s.observe setup origin kind pin).1,
        (s.observe setup origin kind pin).2.change change) := by
  rw [observe_eq, observe_eq]
  have looked : (s.change change).session.look =
      (s.session.look.1, change s.session.look.2) := h.look s.session
  have machine : (s.change change).machine = s.machine := rfl
  have emission : (s.change change).emission = s.emission := rfl
  rw [looked, machine, emission]
  cases s.machine.board.get? pin with
  | none => rfl
  | some state =>
      simp only
      rcases s.emission.observe state pin kind origin s.session.look.1 with ⟨_ | event, memory⟩
      · rfl
      · simp only [h.record]
        rcases s.session.look.2.record event with ⟨_ | stamped, session⟩
        · rfl
        · have told := @tell_change setup change h ⟨session, s.machine, memory⟩ .event
            (.event stamped)
          simp only [State.change] at told ⊢
          rw [told]

theorem settle_change (origin : Body) (s : State) (number : Int) (statement : Statement) :
    (s.change change).settle setup origin number statement =
      ((s.settle setup origin number statement).1,
        (s.settle setup origin number statement).2.change change) := by
  have machine : (s.change change).machine = s.machine := rfl
  cases hw : statement.isWait with
  | true =>
      cases statement with
      | wait ms => simp only [settle_wait, machine, tell_change h, pause_change h]
      | _ => cases hw
  | false =>
      simp only [settle_of_not_wait hw, machine, tell_change h]
      cases statement.writtenPin? with
      | none => simp only [stepPause_change h]
      | some pin => simp only [observe_change h, stepPause_change h]

/-- A line leaves the same marks and ends in the same way. -/
theorem line_change (origin : Body) (s : State) (number : Int) (text : Text) :
    line setup origin (s.change change) number text =
      (line setup origin s number text).change change := by
  have machine : (s.change change).machine = s.machine := rfl
  unfold line
  rw [machine]
  split
  next => rfl
  next => rfl
  next statement m _ =>
    have settled := @settle_change setup change h origin { s with machine := m } number statement
    simp only [State.change, Progress.change] at settled ⊢
    rw [settled]

end

section
variable {setup : Setup} {change : Session → Session} (h : Unnoticed change) (ran : Passes)
include h

theorem told_change :
    (ran.change change).told setup =
      ((ran.told setup).1, (ran.told setup).2.change change) := by
  have ending : (ran.change change).progress.ending = ran.progress.ending := rfl
  have state : (ran.change change).progress.state = ran.progress.state.change change := rfl
  unfold Passes.told
  rw [ending]
  split
  next f _ => simp only [state, tell_change h]
  next => rfl

/-- A run with the same stop request at its end has the same marks and the same result. -/
theorem finish_change (events : ∀ s, (change s).recorder.events = s.recorder.events)
    (asked : (change (ran.told setup).2.session).stopRequested =
      (ran.told setup).2.session.stopRequested) (opening : List Mark) :
    (finish setup opening (ran.change change)).marks = (finish setup opening ran).marks ∧
      (finish setup opening (ran.change change)).result =
        (finish setup opening ran).result := by
  by_cases hb : ∃ b, ran.progress.ending = .halted (.breakdown b)
  · rcases hb with ⟨b, hb⟩
    have hc : (ran.change change).progress.ending = .halted (.breakdown b) := hb
    rw [finish_of_breakdown hb, finish_of_breakdown hc]
    exact ⟨rfl, rfl⟩
  · have hb := not_exists.mp hb
    have hc : ∀ b, (ran.change change).progress.ending ≠ .halted (.breakdown b) := hb
    have sequence : ∀ s, (change s).recorder.stop.sequence = s.recorder.stop.sequence := by
      intro s
      simp only [Recorder.sequence, Recorder.stop, events]
    rw [finish_of_result hb, finish_of_result hc]
    simp only [told_change h, State.change, asked, sequence]
    exact ⟨rfl, rfl⟩

end

theorem andThen_change {change : Session → Session} (p : Progress) {next next' : State → Progress}
    (h : p.ending = .finished → next' (p.state.change change) = (next p.state).change change) :
    (p.change change).andThen next' = (p.andThen next).change change := by
  by_cases hf : p.ending = .finished
  · have hc : (p.change change).ending = .finished := hf
    have hs : (p.change change).state = p.state.change change := rfl
    rw [andThen_of_finished hf, andThen_of_finished hc, hs, h hf]
    rfl
  · have hc : (p.change change).ending ≠ .finished := hf
    rw [andThen_of_not_finished hf, andThen_of_not_finished hc]

section
variable {setup : Setup} {change : Session → Session} {s s' : State}

theorem passes_of_finished_change (h : Unnoticed change) {body : List (Int × Text)}
    (same : lines setup .loop s' body = (lines setup .loop s body).change change)
    (hf : (lines setup .loop s body).ending = .finished) (done count : Nat) :
    passes setup body s' done (count + 1) =
      let pass := lines setup .loop s body
      let told := pass.state.tell setup .iteration (.iteration (done + 1))
      let rest := passes setup body (told.2.change change) (done + 1) count
      ⟨{ rest.progress with marks := pass.marks ++ told.1 ++ rest.progress.marks },
        rest.iterations⟩ := by
  have hc : (lines setup .loop s' body).ending = .finished := by
    rw [same]
    exact hf
  rw [passes_of_finished hc, same]
  simp only [Progress.change, tell_change h]

theorem passes_of_not_finished_change {body : List (Int × Text)}
    (same : lines setup .loop s' body = (lines setup .loop s body).change change)
    (hf : (lines setup .loop s body).ending ≠ .finished) (done count : Nat) :
    passes setup body s' done (count + 1) =
      ⟨(lines setup .loop s body).change change, done⟩ := by
  have hc : (lines setup .loop s' body).ending ≠ .finished := by
    rw [same]
    exact hf
  rw [passes_of_not_finished hc, same]

variable {p : Program}
  (same : lines setup .setup s' (p.statementLines .setup) =
    (lines setup .setup s (p.statementLines .setup)).change change)
include same

theorem bodies_of_looping_change (hp : p.isLooping = true)
    (hf : (lines setup .setup s (p.statementLines .setup)).ending = .finished) (limit : Int) :
    bodies setup p limit s' =
      let first := lines setup .setup s (p.statementLines .setup)
      let rest := passes setup (p.statementLines .loop) (first.state.change change) 0 limit.toNat
      ⟨⟨first.marks ++ rest.progress.marks, rest.progress.state, rest.progress.ending⟩,
        rest.iterations⟩ := by
  have hc : (lines setup .setup s' (p.statementLines .setup)).ending = .finished := by
    rw [same]
    exact hf
  rw [bodies_of_looping hp hc, same]
  rfl

theorem bodies_of_not_finished_change
    (hf : (lines setup .setup s (p.statementLines .setup)).ending ≠ .finished) (limit : Int) :
    bodies setup p limit s' =
      ⟨(lines setup .setup s (p.statementLines .setup)).change change, 0⟩ := by
  have hc : (lines setup .setup s' (p.statementLines .setup)).ending ≠ .finished := by
    rw [same]
    exact hf
  rw [bodies_of_not_finished hc, same]

end

section
variable {setup : Setup} {change : Session → Session} (h : Unnoticed change)
variable (keeps : ∀ s, (change s).stopRequested = s.stopRequested)
include h keeps

theorem lines_change (origin : Body) (s : State) (body : List (Int × Text)) :
    lines setup origin (s.change change) body = (lines setup origin s body).change change := by
  induction body generalizing s with
  | nil => rfl
  | cons numbered rest ih =>
      have asked : (s.change change).session.stopRequested = s.session.stopRequested :=
        keeps s.session
      rw [lines, lines, asked]
      split_ifs
      · rfl
      · rw [line_change h]
        apply andThen_change
        intro _
        exact ih _

theorem passes_change (body : List (Int × Text)) (s : State) (done count : Nat) :
    passes setup body (s.change change) done count =
      (passes setup body s done count).change change := by
  induction count generalizing s done with
  | zero => rfl
  | succ count ih =>
      have same := @lines_change setup change h keeps .loop s body
      by_cases hf : (lines setup .loop s body).ending = .finished
      · rw [passes_of_finished hf, passes_of_finished_change h same hf]
        simp only [ih]
        rfl
      · rw [passes_of_not_finished hf, passes_of_not_finished_change same hf]
        rfl

/-- A program leaves the same marks, makes as many passes and ends in the same way. -/
theorem bodies_change (p : Program) (limit : Int) (s : State) :
    bodies setup p limit (s.change change) = (bodies setup p limit s).change change := by
  have same := @lines_change setup change h keeps .setup s (p.statementLines .setup)
  cases hp : p.isLooping with
  | false =>
      rw [bodies_of_plain hp, bodies_of_plain hp, same]
      rfl
  | true =>
      by_cases hf : (lines setup .setup s (p.statementLines .setup)).ending = .finished
      · rw [bodies_of_looping hp hf, bodies_of_looping_change same hp hf]
        simp only [passes_change h keeps]
        rfl
      · rw [bodies_of_not_finished hf, bodies_of_not_finished_change same hf]
        rfl

end

end SketchGrader.Live
