import SketchGrader.Proofs.StopBoundary

/-!
# A stop between two passes

A run looks for a stop request in front of every line, and nowhere else. If the loop body has a
line, a stop that is asked for when a pass is counted therefore ends the run before the next pass
leaves a mark. A loop body without a line, such as one that holds only a comment, is repeated all
the same.
-/

namespace SketchGrader.Live

theorem split_behind {a b before after : List Mark} {mark : Mark}
    (split : a ++ b = before ++ mark :: after) (absent : mark ∉ a) :
    ∃ middle, before = a ++ middle ∧ b = middle ++ mark :: after := by
  rcases List.append_eq_append_iff.mp split with ⟨middle, hbefore, hb⟩ | ⟨middle, ha, hmark⟩
  · exact ⟨middle, hbefore, hb⟩
  · rcases middle with _ | ⟨other, middle⟩
    · rw [List.append_nil] at ha
      exact ⟨[], by rw [ha, List.append_nil], hmark.symm⟩
    · rw [List.cons_append, List.cons.injEq] at hmark
      rw [ha, hmark.1] at absent
      simp at absent

theorem split_within {a b before after : List Mark} {mark : Mark}
    (split : a ++ b = before ++ mark :: after) (absent : mark ∉ b) :
    ∃ more, a = before ++ mark :: more ∧ after = more ++ b := by
  rcases List.append_eq_append_iff.mp split with ⟨middle, -, hb⟩ | ⟨middle, ha, hmark⟩
  · simp [hb] at absent
  · rcases middle with _ | ⟨other, more⟩
    · simp only [List.nil_append] at hmark
      simp [← hmark] at absent
    · simp only [List.cons_append, List.cons.injEq] at hmark
      rcases hmark with ⟨rfl, hafter⟩
      exact ⟨more, ha, hafter⟩

section
variable {setup : Setup}

/-! ## Lines count no passes -/

theorem tally_tell {mark : Mark} {counted : MarkKind} (h : mark.kind? ≠ some counted)
    (s : State) (kind : MarkKind) : Mark.tally counted (s.tell setup kind mark).1 = 0 := by
  unfold State.tell
  split_ifs
  · simp [Mark.tally, h]
  · rfl

theorem shown_tell (s : State) (kind : MarkKind) (mark : Mark) :
    (s.tell setup kind mark).1 = [] ∨ (s.tell setup kind mark).1 = [mark] := by
  unfold State.tell
  split_ifs
  · exact .inr rfl
  · exact .inl rfl

theorem tally_pause (s : State) (ms : Int) :
    Mark.tally .iteration (s.pause setup ms).1 = 0 := by
  unfold State.pause
  split_ifs <;> rfl

theorem tally_stepPause (s : State) : Mark.tally .iteration (s.stepPause setup).1 = 0 := by
  unfold State.stepPause
  split_ifs
  · rfl
  · exact tally_pause s setup.stepDelayMs

theorem tally_observe (origin : Body) (s : State) (kind : EventKind) (pin : Int) :
    Mark.tally .iteration (s.observe setup origin kind pin).1 = 0 := by
  rw [observe_eq]
  split
  next => rfl
  next =>
    split
    next => rfl
    next =>
      split
      next => rfl
      next stamped session _ =>
        have told := @tally_tell setup (.event stamped) .iteration (by simp [Mark.kind?])
        simp only
        rw [← List.singleton_append, Mark.tally_append, told]
        rfl

theorem tally_settle (origin : Body) (s : State) (number : Int) (statement : Statement) :
    Mark.tally .iteration (s.settle setup origin number statement).1 = 0 := by
  have shown := @tally_tell setup (.statement number statement s.machine.board.lights)
    .iteration (by simp [Mark.kind?]) s .statement
  cases hw : statement.isWait with
  | true =>
      cases statement with
      | wait ms =>
          rw [settle_wait]
          simp [shown, tally_pause]
      | _ => cases hw
  | false =>
      rw [settle_of_not_wait hw]
      simp only [Mark.tally_append, shown, tally_stepPause]
      cases statement.writtenPin? with
      | none => rfl
      | some pin => simp only [tally_observe]

theorem tally_line (origin : Body) (s : State) (number : Int) (text : Text) :
    Mark.tally .iteration (line setup origin s number text).marks = 0 := by
  unfold line
  split
  next => rfl
  next => rfl
  next statement machine _ =>
    simp [tally_settle]

theorem tally_lines (origin : Body) (s : State) (body : List (Int × Text)) :
    Mark.tally .iteration (lines setup origin s body).marks = 0 := by
  induction body generalizing s with
  | nil => rfl
  | cons numbered rest ih =>
      rw [lines]
      split_ifs
      · rfl
      · by_cases hf : (line setup origin s numbered.1 numbered.2).ending = .finished
        · rw [andThen_of_finished hf]
          simp [tally_line, ih]
        · rw [andThen_of_not_finished hf]
          exact tally_line origin s numbered.1 numbered.2

theorem not_mem_of_tally {marks : List Mark} (h : Mark.tally .iteration marks = 0) (k : Nat) :
    .iteration k ∉ marks := by
  intro hm
  exact List.countP_eq_zero.mp h _ hm rfl

/-! ## The pass behind a stop request -/

theorem lines_of_asked {origin : Body} {s : State} {body : List (Int × Text)}
    (asked : s.session.stopRequested = true) (repeats : body ≠ []) :
    lines setup origin s body = ⟨[], s, .stopped⟩ := by
  cases body with
  | nil => exact (repeats rfl).elim
  | cons numbered rest => simp only [lines, asked, if_true]

theorem passes_of_asked {body : List (Int × Text)} (repeats : body ≠ []) {s : State}
    (asked : s.session.stopRequested = true) (done count : Nat) :
    (passes setup body s done count).progress.marks = [] ∧
      (passes setup body s done count).iterations = done ∧
      ∀ halt, (passes setup body s done count).progress.ending ≠ .halted halt := by
  cases count with
  | zero => exact ⟨rfl, rfl, by simp [passes]⟩
  | succ count =>
      have stopped := @lines_of_asked setup .loop s body asked repeats
      have hf : (lines setup .loop s body).ending ≠ .finished := by simp [stopped]
      rw [passes_of_not_finished hf, stopped]
      exact ⟨rfl, rfl, by simp⟩

/-- Where a stop is asked for at the count of a pass, nothing follows. -/
theorem passes_stop {body : List (Int × Text)} (repeats : body ≠ []) {s : State}
    {done count k : Nat} {before after : List Mark}
    (split : (passes setup body s done count).progress.marks = before ++ .iteration k :: after)
    (will : s.session.WillStop (before ++ [.iteration k])) :
    after = [] ∧ (passes setup body s done count).iterations = k ∧
      ∀ halt, (passes setup body s done count).progress.ending ≠ .halted halt := by
  induction count generalizing s done before with
  | zero => simp [passes] at split
  | succ count ih =>
      have absent := not_mem_of_tally (@tally_lines setup .loop s body) k
      have pass := @lines_steps setup .loop s body
      by_cases hf : (lines setup .loop s body).ending = .finished
      · rw [passes_of_finished hf] at split ⊢
        simp only [List.append_assoc] at split
        rcases split_behind split absent with ⟨middle, rfl, hrest⟩
        rw [List.append_assoc, ← pass.willStop] at will
        have counted := (@Step.pass setup (lines setup .loop s body).state (done + 1)).willStop
        rcases shown_tell (lines setup .loop s body).state .iteration (.iteration (done + 1)) with
          unseen | seen
        · rw [unseen] at hrest counted
          exact ih hrest ((counted _).mpr will)
        · rw [seen] at hrest counted
          rcases middle with _ | ⟨mark, middle⟩
          · -- The stop is asked for at the count of this pass.
            rw [List.nil_append, List.singleton_append, List.cons.injEq] at hrest
            rcases hrest with ⟨same, rfl⟩
            cases same
            have asked := willStop_nil.mp ((counted []).mpr will)
            exact passes_of_asked repeats asked (done + 1) count
          · simp only [List.cons_append, List.cons.injEq] at hrest
            rcases hrest with ⟨rfl, hrest⟩
            exact ih hrest ((counted _).mpr will)
      · rw [passes_of_not_finished hf] at split
        have present : .iteration k ∈ (lines setup .loop s body).marks := by
          rw [split]
          exact List.mem_append_right before List.mem_cons_self
        exact (absent present).elim

theorem bodies_stop {p : Program} (repeats : p.statementLines .loop ≠ []) {s : State}
    {limit : Int} {k : Nat} {before after : List Mark}
    (split : (bodies setup p limit s).progress.marks = before ++ .iteration k :: after)
    (will : s.session.WillStop (before ++ [.iteration k])) :
    after = [] ∧ (bodies setup p limit s).iterations = k ∧
      ∀ halt, (bodies setup p limit s).progress.ending ≠ .halted halt := by
  have absent := not_mem_of_tally
    (@tally_lines setup .setup s (p.statementLines .setup)) k
  have alone : (lines setup .setup s (p.statementLines .setup)).marks ≠
      before ++ .iteration k :: after := by
    intro h
    simp [h] at absent
  by_cases hf : (lines setup .setup s (p.statementLines .setup)).ending = .finished
  · cases hp : p.isLooping with
    | false =>
        rw [bodies_of_plain hp] at split
        exact (alone split).elim
    | true =>
        rw [bodies_of_looping hp hf] at split ⊢
        rcases split_behind split absent with ⟨middle, rfl, hrest⟩
        rw [List.append_assoc, ← (lines_steps .setup s (p.statementLines .setup)).willStop] at will
        exact passes_stop repeats hrest will
  · rw [bodies_of_not_finished hf] at split
    exact (alone split).elim

theorem fault?_of_unhalted {ending : Ending} (h : ∀ halt, ending ≠ .halted halt) :
    ending.fault? = none := by
  cases ending with
  | halted halt => exact (h halt rfl).elim
  | _ => rfl

theorem tally_told (ran : Passes) : Mark.tally .iteration (ran.told setup).1 = 0 := by
  unfold Passes.told
  split
  next f _ =>
    rw [← List.singleton_append, Mark.tally_append, tally_tell (by simp [Mark.kind?])]
    rfl
  next => rfl

/-- The end of a run counts no pass, and shows nothing unless the run came to a halt. -/
theorem finish_closing (opening : List Mark) (ran : Passes) :
    ∃ closing, (finish setup opening ran).marks =
        opening ++ (ran.progress.marks ++ closing) ∧
      Mark.tally .iteration closing = 0 ∧
      ((∀ halt, ran.progress.ending ≠ .halted halt) → Mark.trace closing = []) := by
  rcases @finish_marks setup opening ran with ⟨notices, hmarks⟩
  refine ⟨_, hmarks, ?_, ?_⟩
  · rw [Mark.tally_append, tally_told, Mark.tally_notices]
  · intro unhalted
    rw [told_of_not_fault (fault?_of_unhalted unhalted)]
    exact Mark.trace_notices notices

end

/-- A stop that is asked for when a pass is counted ends the looping, if the loop body has a line
to execute: nothing more is seen of the run, and its result counts that pass as the last. -/
theorem stop_ends_looping (setup : Setup) (session : Session) (p : Program) (limit : Option Int)
    (repeats : p.statementLines .loop ≠ []) (k : Nat) (before after : List Mark)
    (split : (run setup session p limit).marks = before ++ .iteration k :: after)
    (asks : session.plan.Asks (before ++ [.iteration k])) :
    Mark.trace after = [] ∧
      ∃ result, (run setup session p limit).result = .ok result ∧ result.iterations = k ∧
        result.stopped = true ∧ result.fault = none := by
  have requested : (run setup session p limit).session.stopRequested = true := by
    rw [run_asks, split, List.append_cons]
    exact asks.append after
  rw [run_eq] at split requested ⊢
  rcases finish_closing (opening (limit.getD setup.maxIterations))
    (bodies setup p (limit.getD setup.maxIterations) (begin setup session)) with
    ⟨closing, hmarks, uncounted, silent⟩
  rw [hmarks] at split
  rcases split_behind split (by simp [opening]) with ⟨middle, rfl, hrest⟩
  rcases split_within hrest (not_mem_of_tally uncounted k) with ⟨more, hmore, rfl⟩
  have will : (begin setup session).session.WillStop (middle ++ [.iteration k]) := by
    rw [List.append_assoc] at asks
    exact .inr ((StopPlan.asks_notices session.plan [_, _] _).mp asks)
  rcases bodies_stop repeats hmore will with ⟨nothing, last, unhalted⟩
  constructor
  · rw [Mark.trace_append, nothing, silent unhalted]
    rfl
  · rw [finish_stopRequested] at requested
    rw [finish_of_result fun b => unhalted (.breakdown b)]
    exact ⟨_, rfl, last, requested, fault?_of_unhalted unhalted⟩

/-- The first of three passes asks for a stop when it is counted. -/
theorem stop_ends_looping_dimmer :
    let ran := run { usablePins := [9] } { plan := { iteration := some 1 } } dimmer (some 3)
    ∃ before after, dimmer.statementLines .loop ≠ [] ∧
      ran.marks = before ++ .iteration 1 :: after ∧
      (∃ result, ran.result = .ok result ∧ result.iterations = 1 ∧ result.stopped = true ∧
        result.fault = none) ∧
      Mark.trace after = [] := by
  intro ran
  have lines : dimmer.statementLines .loop ≠ [] := by decide +kernel
  have split : ran.marks = ran.marks.take 17 ++ .iteration 1 :: ran.marks.drop 18 := by
    decide +kernel
  have asks : StopPlan.Asks { iteration := some 1 } (ran.marks.take 17 ++ [.iteration 1]) :=
    ⟨.iteration, 0, rfl, by decide +kernel⟩
  have ended := stop_ends_looping _ _ dimmer _ lines 1 _ _ split asks
  exact ⟨_, _, lines, split, ended.2, ended.1⟩

/-- A loop body with a comment and no line. -/
def idle : Program := { loopBody := "// idle".toList }

/-- A loop body without a line is repeated although a stop was asked for at the first count. -/
theorem stop_does_not_end_idle_looping :
    ¬ ∀ (setup : Setup) (session : Session) (p : Program) (limit : Option Int) (k : Nat)
      (before after : List Mark),
      (run setup session p limit).marks = before ++ .iteration k :: after →
      session.plan.Asks (before ++ [.iteration k]) →
      (∃ result, (run setup session p limit).result = .ok result ∧ result.iterations = k) ∧
        ∀ n, .iteration n ∉ after := by
  intro claim
  have split : (run {} { plan := { iteration := some 1 } } idle (some 3)).marks =
      [.notice .recordingStarted, .notice (.runStarted 3)] ++ .iteration 1 ::
        [.iteration 2, .iteration 3, .notice (.runFinished 3 true none)] := by
    decide +kernel
  have ended := claim {} { plan := { iteration := some 1 } } idle (some 3) 1 _ _ split
    ⟨.iteration, 0, rfl, by decide⟩
  exact ended.2 2 List.mem_cons_self

end SketchGrader.Live
