import SketchGrader.Proofs.Script

/-!
# Leniency of replays

A replay leaves a write out before anything else of it is looked at. The machine looks at other
things first, at the timer and at the value, and only then at the direction of the pin. So a replay
does not leave out just what the machine refuses for want of an output: where a pin is usable and no
output, it also excuses a timer that does not run and a value out of range, and nothing else.
-/

namespace SketchGrader

/-- The class of a mistake; a breakdown of the grader has none. -/
def Problem.kind? : Problem → Option FaultKind
  | cause c => some c.kind
  | breakdown _ => none

/-! ## Writes without an output -/

namespace Machine

/-- Whether a statement is a write to a usable pin that is no output. -/
def missesOutput (m : Machine) (statement : Statement) : Bool :=
  statement.writtenPin?.any fun pin => (m.direction? pin).any (· != .output)

theorem missesOutput_eq_isSome (m : Machine) (statement : Statement) :
    m.missesOutput statement = (Replay.dropped? m.board statement).isSome := by
  rw [Bool.eq_iff_iff, Option.isSome_iff_exists]
  simp only [missesOutput, Option.any_eq_true, bne_iff_ne, Replay.dropped?_eq_some]

/-- Whether a mistake of this class may be found in a write whose pin is usable. -/
def excusable : FaultKind → Bool
  | .undeclaredPin | .uninitializedTimer | .invalidValue => true
  | _ => false

theorem excusable_eq_true {kind : FaultKind} :
    excusable kind = true ↔
      kind = .undeclaredPin ∨ kind = .uninitializedTimer ∨ kind = .invalidValue := by
  cases kind <;> simp [excusable]

/-- A computation that ends with a mistake that may be found in a write. -/
def Refused {α : Type} (x : Except Problem α) : Prop :=
  ∃ cause, x = .error (.cause cause) ∧ excusable cause.kind = true

theorem refused_of_require {α : Type} (condition : Bool) {cause : Cause}
    (hc : excusable cause.kind = true) {next : Unit → Except Problem α} (h : Refused (next ())) :
    Refused (require condition cause >>= next) := by
  cases condition with
  | true => exact h
  | false => exact ⟨cause, rfl, hc⟩

theorem refused_of_not_output {α : Type} {direction : Direction} (h : direction ≠ .output)
    {pin : Int} {call : String} (next : Unit → Except Problem α) :
    Refused (require (direction == .output) (.notOutput pin call) >>= next) := by
  rw [beq_false_of_ne h]
  exact ⟨.notOutput pin call, rfl, rfl⟩

theorem refused_of_pinState {α : Type} {m : Machine} {pin : Int} {state : PinState}
    (hs : m.board.get? pin = some state) {next : PinState → Except Problem α}
    (h : Refused (next state)) : Refused (m.pinState pin >>= next) := by
  rw [pinState_eq_ok.mpr hs]
  exact h

/-- A write that a replay leaves out is refused, for its timer, its value or its direction. -/
theorem exec_of_dropped {m : Machine} {statement : Statement} {pin : Int}
    (h : Replay.dropped? m.board statement = some pin) (limits : Limits) :
    Refused (m.exec limits statement) := by
  obtain ⟨hw, direction, known, hd⟩ := Replay.dropped?_eq_some.mp h
  obtain ⟨state, hs, rfl⟩ := Option.map_eq_some_iff.mp known
  cases statement with
  | digitalWrite q word =>
      cases hw
      exact refused_of_pinState hs (refused_of_require _ rfl (refused_of_not_output hd _))
  | setDuty q percent =>
      cases hw
      exact refused_of_pinState hs (refused_of_require _ rfl (refused_of_not_output hd _))
  | timerPwm timer q duty =>
      cases hw
      exact refused_of_require _ rfl
        (refused_of_pinState hs (refused_of_require _ rfl (refused_of_not_output hd _)))
  | _ => cases hw

/-! ## What is refused for want of an output -/

/-- A computation that asks for an output only where the condition holds. -/
def AsksOnlyIf {α : Type} (condition : Prop) (x : Except Problem α) : Prop :=
  ∀ problem, x = .error problem → problem.kind? = some .undeclaredPin → condition

theorem AsksOnlyIf.bind {α β : Type} {condition : Prop} {x : Except Problem α}
    {f : α → Except Problem β} (first : AsksOnlyIf condition x)
    (next : ∀ a, x = .ok a → AsksOnlyIf condition (f a)) : AsksOnlyIf condition (x >>= f) := by
  intro problem h kind
  cases hx : x with
  | error other =>
      rw [hx] at h
      cases h
      exact first problem hx kind
  | ok a =>
      rw [hx] at h
      exact next a hx problem h kind

theorem asksOnlyIf_require {P : Prop} (condition : Bool) {cause : Cause}
    (h : cause.kind = .undeclaredPin → condition = false → P) :
    AsksOnlyIf P (require condition cause) := by
  intro problem hr kind
  cases condition with
  | true => cases hr
  | false =>
      cases hr
      exact h (Option.some.inj kind) rfl

theorem asksOnlyIf_pinState {P : Prop} (m : Machine) (pin : Int) :
    AsksOnlyIf P (m.pinState pin) := by
  intro problem h kind
  unfold pinState at h
  split at h
  next => cases h
  next => split at h <;> cases h <;> cases kind

theorem asksOnlyIf_computed {P : Prop} {α : Type} (x : Except Breakdown α) :
    AsksOnlyIf P (computed x) := by
  intro problem h kind
  cases x with
  | ok a => cases h
  | error b =>
      cases h
      cases kind

theorem asksOnlyIf_pure {P : Prop} {α : Type} (a : α) : AsksOnlyIf P (pure a) := by
  intro problem h
  cases h

theorem asksOnlyIf_other {P : Prop} {α : Type} {cause : Cause} (h : cause.kind ≠ .undeclaredPin) :
    AsksOnlyIf P (.error (.cause cause) : Except Problem α) := by
  intro problem hc kind
  cases hc
  exact absurd (Option.some.inj kind) h

/-- The last check of a write asks for an output, and no other check does. -/
theorem asksOnlyIf_output {m : Machine} {statement : Statement} {pin : Int} {state : PinState}
    (writes : statement.writtenPin? = some pin) (hs : m.pinState pin = .ok state) (cause : Cause) :
    AsksOnlyIf (m.missesOutput statement = true)
      (require (state.direction == .output) cause) := by
  apply asksOnlyIf_require
  intro _ missing
  have known : m.direction? pin = some state.direction := by
    rw [direction?, pinState_eq_ok.mp hs, Option.map_some]
  simpa [missesOutput, writes, known] using missing

theorem exec_asksOnlyIf (limits : Limits) (m : Machine) (statement : Statement) :
    AsksOnlyIf (m.missesOutput statement = true) (m.exec limits statement) := by
  have other : ∀ (condition : Bool) {cause : Cause}, cause.kind ≠ .undeclaredPin →
      AsksOnlyIf (m.missesOutput statement = true) (require condition cause) :=
    fun condition _ h => asksOnlyIf_require condition fun kind => absurd kind h
  cases statement with
  | pinMode pin mode =>
      refine (asksOnlyIf_pinState m pin).bind fun state _ => ?_
      split_ifs
      · exact asksOnlyIf_pure _
      · exact asksOnlyIf_pure _
      · exact asksOnlyIf_other (by simp [Cause.kind])
  | digitalWrite pin word =>
      refine (asksOnlyIf_pinState m pin).bind fun state hs => ?_
      refine (other _ (by simp [Cause.kind])).bind fun _ _ => ?_
      refine (asksOnlyIf_output rfl hs _).bind fun _ _ => ?_
      exact asksOnlyIf_pure _
  | setDuty pin percent =>
      refine (asksOnlyIf_pinState m pin).bind fun state hs => ?_
      refine (other _ (by simp [Cause.kind])).bind fun _ _ => ?_
      refine (asksOnlyIf_output rfl hs _).bind fun _ _ => ?_
      refine (asksOnlyIf_computed _).bind fun _ _ => ?_
      exact asksOnlyIf_pure _
  | timerPwm timer pin duty =>
      refine (other _ (by simp [Cause.kind])).bind fun _ _ => ?_
      refine (asksOnlyIf_pinState m pin).bind fun state hs => ?_
      refine (other _ (by simp [Cause.kind])).bind fun _ _ => ?_
      refine (asksOnlyIf_output rfl hs _).bind fun _ _ => ?_
      refine (asksOnlyIf_computed _).bind fun _ _ => ?_
      refine (asksOnlyIf_computed _).bind fun _ _ => ?_
      exact asksOnlyIf_pure _
  | wait ms => exact (other _ (by simp [Cause.kind])).bind fun _ _ => asksOnlyIf_pure _
  | analogWrite pin value => exact asksOnlyIf_other (by simp [Cause.kind])
  | timerStart timer period => exact asksOnlyIf_pure _
  | timerStop timer => exact asksOnlyIf_pure _
  | conditional text => exact asksOnlyIf_pure _

end Machine

/-! ## Replays that execute every statement -/

namespace Replay

/-- Which problems of a statement are excused. -/
abbrev Rule := Machine → Statement → Problem → Bool

/-- Executes the statement of a line; one that fails is left out if it is excused. -/
def attempt (excused : Rule) (limits : Limits) (s : State) (cue : Cue) :
    Except Halt (List Event × State) :=
  match Statement.ofLine? cue.text with
  | .error problem => .error (problem.atLine cue.number)
  | .ok none => .ok ([], s)
  | .ok (some statement) =>
    match s.machine.exec limits statement with
    | .ok machine => .ok (settle cue.origin s machine statement)
    | .error problem =>
      if excused s.machine statement problem then .ok ([], s)
      else .error (problem.atLine cue.number)

/-- Executes the statements of a script. -/
def attemptAll (excused : Rule) (limits : Limits) (s : State) :
    List Cue → Except Halt (List Event × State)
  | [] => .ok ([], s)
  | cue :: rest => do
    let (events, s) ← attempt excused limits s cue
    let (more, s) ← attemptAll excused limits s rest
    return (events ++ more, s)

/-- The timeline of a program if every statement is executed. -/
def attemptTimeline (excused : Rule) (usable : List Int) (limits : Limits) (p : Program)
    (iterations : Int) : Except Halt Sequence := do
  let (events, _) ← attemptAll excused limits (start usable) (p.script (max 1 iterations).toNat)
  return ⟨events, lastTime events, p.isLooping⟩

/-- Excuses what is refused for want of an output. -/
def excusesUndeclared : Rule := fun _ _ problem => problem.kind? == some .undeclaredPin

/-- Excuses what is refused for want of an output, and also a timer that does not run and a value
out of range if the statement is a write to a usable pin that is no output. -/
def excusesMissing : Rule := fun m statement problem =>
  problem.kind? == some .undeclaredPin ||
    m.missesOutput statement &&
      (problem.kind? == some .uninitializedTimer || problem.kind? == some .invalidValue)

/-- What is refused is excused exactly if it is a write without an output. -/
theorem excusesMissing_eq {limits : Limits} {m : Machine} {statement : Statement}
    {problem : Problem} (h : m.exec limits statement = .error problem) :
    excusesMissing m statement problem = m.missesOutput statement := by
  cases hm : m.missesOutput statement with
  | false =>
      have kind : problem.kind? ≠ some .undeclaredPin := by
        intro kind
        rw [Machine.exec_asksOnlyIf limits m statement problem h kind] at hm
        cases hm
      simp [excusesMissing, hm, kind]
  | true =>
      have dropped : (dropped? m.board statement).isSome = true :=
        (m.missesOutput_eq_isSome statement).symm.trans hm
      obtain ⟨pin, hd⟩ := Option.isSome_iff_exists.mp dropped
      obtain ⟨cause, he, excusable⟩ := Machine.exec_of_dropped hd limits
      rw [h] at he
      cases he
      obtain kind | kind | kind := Machine.excusable_eq_true.mp excusable <;>
        simp [excusesMissing, Problem.kind?, kind, hm]

/-- What a part of a replay comes to: its events and where it stands, or why it ended. -/
def Progress.outcome (p : Progress) : Except Halt (List Event × State) :=
  p.result.map (p.events, ·)

theorem result_of_outcome {p : Progress} {events : List Event} {s : State}
    (h : p.outcome = .ok (events, s)) : p.result = .ok s := by
  unfold Progress.outcome at h
  cases hp : p.result with
  | error halt =>
      rw [hp] at h
      cases h
  | ok t =>
      rw [hp] at h
      cases h
      rfl

theorem outcome_andThen (p : Progress) (next : State → Progress) :
    (p.andThen next).outcome = (do
      let (events, s) ← p.outcome
      let (more, s) ← (next s).outcome
      return (events ++ more, s)) := by
  cases hp : p.result with
  | error halt =>
      rw [andThen_of_error hp, Progress.outcome, hp]
      rfl
  | ok s =>
      rw [andThen_of_ok hp, Progress.outcome, Progress.outcome, hp]
      change _ = (next s).outcome >>= fun q => pure (p.events ++ q.1, q.2)
      cases hn : (next s).result with
      | error halt => simp only [Progress.outcome, hn]; rfl
      | ok t => simp only [Progress.outcome, hn]; rfl

/-- Executing a statement and excusing it afterwards is leaving it out in the first place. -/
theorem outcome_line (limits : Limits) (s : State) (cue : Cue) :
    (line limits cue.origin s cue.number cue.text).outcome =
      attempt excusesMissing limits s cue := by
  cases hl : Statement.ofLine? cue.text with
  | error problem =>
      simp only [line, attempt, hl]
      rfl
  | ok found =>
      cases found with
      | none =>
          simp only [line, attempt, hl]
          rfl
      | some statement =>
          have misses := s.machine.missesOutput_eq_isSome statement
          cases hd : dropped? s.machine.board statement with
          | some pin =>
              obtain ⟨cause, he, -⟩ := Machine.exec_of_dropped hd limits
              simp only [line, attempt, hl, hd, he, excusesMissing_eq he, misses]
              rfl
          | none =>
              cases he : s.machine.exec limits statement with
              | ok machine =>
                  simp only [line, attempt, hl, hd, he]
                  rfl
              | error problem =>
                  simp only [line, attempt, hl, hd, he, excusesMissing_eq he, misses]
                  rfl

theorem outcome_follow (limits : Limits) (s : State) (cues : List Cue) :
    (follow limits s cues).outcome = attemptAll excusesMissing limits s cues := by
  induction cues generalizing s with
  | nil => rfl
  | cons cue rest ih => simp only [follow, outcome_andThen, outcome_line, ih, attemptAll]

theorem extract_eq_attempt (usable : List Int) (limits : Limits) (p : Program) (iterations : Int) :
    (extract usable limits p iterations).outcome =
      attemptTimeline excusesMissing usable limits p iterations := by
  rw [attemptTimeline, ← outcome_follow, extract, run_eq_follow]
  simp only [Progress.outcome]
  cases (follow limits (start usable) (p.script (max 1 iterations).toNat)).result <;> rfl

/-! ## The stricter rule -/

theorem attempt_of_error {excused : Rule} {limits : Limits} {s : State} {cue : Cue}
    {statement : Statement} {problem : Problem}
    (reads : Statement.ofLine? cue.text = .ok (some statement))
    (fails : s.machine.exec limits statement = .error problem) :
    attempt excused limits s cue =
      if excused s.machine statement problem then .ok ([], s)
      else .error (problem.atLine cue.number) := by
  simp only [attempt, reads, fails]

/-- The two rules judge a line alike unless it is a write without an output that is refused for its
timer or its value. -/
theorem attempt_eq_or_refused (limits : Limits) (s : State) (cue : Cue) :
    attempt excusesMissing limits s cue = attempt excusesUndeclared limits s cue ∨
      ∃ statement problem, Statement.ofLine? cue.text = .ok (some statement) ∧
        s.machine.missesOutput statement = true ∧
        s.machine.exec limits statement = .error problem ∧
        (problem.kind? = some .uninitializedTimer ∨ problem.kind? = some .invalidValue) := by
  cases hl : Statement.ofLine? cue.text with
  | error problem => exact .inl (by simp only [attempt, hl])
  | ok found =>
      cases found with
      | none => exact .inl (by simp only [attempt, hl])
      | some statement =>
          cases he : s.machine.exec limits statement with
          | ok machine => exact .inl (by simp only [attempt, hl, he])
          | error problem =>
              by_cases differs : s.machine.missesOutput statement = true ∧
                  (problem.kind? = some .uninitializedTimer ∨ problem.kind? = some .invalidValue)
              · exact .inr ⟨statement, problem, rfl, differs.1, he, differs.2⟩
              · have same : excusesMissing s.machine statement problem =
                    excusesUndeclared s.machine statement problem := by
                  have other : (s.machine.missesOutput statement &&
                      (problem.kind? == some .uninitializedTimer ||
                        problem.kind? == some .invalidValue)) = false := by
                    simpa using differs
                  rw [excusesMissing, other, Bool.or_false]
                  rfl
                rw [attempt_of_error hl he, attempt_of_error hl he, same]
                exact .inl rfl

theorem attemptAll_cons {excused : Rule} {limits : Limits} {s t : State} {cue : Cue}
    {events : List Event} (h : attempt excused limits s cue = .ok (events, t)) (rest : List Cue) :
    attemptAll excused limits s (cue :: rest) =
      (attemptAll excused limits t rest).map fun more => (events ++ more.1, more.2) := by
  rw [attemptAll, h]
  change (attemptAll excused limits t rest).bind _ = _
  cases attemptAll excused limits t rest with
  | error halt => rfl
  | ok more => rfl

theorem attemptAll_cons_error {excused : Rule} {limits : Limits} {s : State} {cue : Cue}
    {halt : Halt} (h : attempt excused limits s cue = .error halt) (rest : List Cue) :
    attemptAll excused limits s (cue :: rest) = .error halt := by
  rw [attemptAll, h]
  rfl

/-- Where the stricter rule ends a replay for a write without an output. -/
def EndsForMissing (limits : Limits) (s : State) (cues : List Cue) : Prop :=
  ∃ done cue rest t statement problem, cues = done ++ cue :: rest ∧
    (follow limits s done).result = .ok t ∧
    Statement.ofLine? cue.text = .ok (some statement) ∧
    t.machine.missesOutput statement = true ∧
    t.machine.exec limits statement = .error problem ∧
    (problem.kind? = some .uninitializedTimer ∨ problem.kind? = some .invalidValue) ∧
    attemptAll excusesUndeclared limits s cues = .error (problem.atLine cue.number)

/-- Up to such an end the two rules give the same. -/
theorem attemptAll_eq_or_ends (limits : Limits) (s : State) (cues : List Cue) :
    attemptAll excusesMissing limits s cues = attemptAll excusesUndeclared limits s cues ∨
      EndsForMissing limits s cues := by
  induction cues generalizing s with
  | nil => exact .inl rfl
  | cons cue rest ih =>
      obtain same | ⟨statement, problem, reads, misses, fails, kind⟩ :=
        attempt_eq_or_refused limits s cue
      · cases hc : attempt excusesUndeclared limits s cue with
        | error halt =>
            rw [hc] at same
            rw [attemptAll_cons_error same, attemptAll_cons_error hc]
            exact .inl rfl
        | ok done =>
            obtain ⟨events, t⟩ := done
            rw [hc] at same
            have hp : (line limits cue.origin s cue.number cue.text).result = .ok t :=
              result_of_outcome ((outcome_line limits s cue).trans same)
            rw [attemptAll_cons same, attemptAll_cons hc]
            obtain later | ⟨done, cue', rest', t', statement, problem, rfl, ht', ending⟩ := ih t
            · exact .inl (by rw [later])
            · obtain ⟨reads, misses, fails, kind, ends⟩ := ending
              refine .inr ⟨cue :: done, cue', rest', t', statement, problem, rfl, ?_, reads, misses,
                fails, kind, ?_⟩
              · rw [follow, andThen_of_ok hp]
                exact ht'
              · rw [attemptAll_cons hc, ends]
                rfl
      · have strict : excusesUndeclared s.machine statement problem = false := by
          obtain kind | kind := kind <;> simp [excusesUndeclared, kind]
        have ends :
            attempt excusesUndeclared limits s cue = .error (problem.atLine cue.number) := by
          rw [attempt_of_error reads fails, strict]
          rfl
        exact .inr ⟨[], cue, rest, s, statement, problem, rfl, rfl, reads, misses, fails, kind,
          attemptAll_cons_error ends rest⟩

/-- A statement that fails and is not excused ends a replay. -/
theorem follow_of_refused {limits : Limits} {s t : State} {done rest : List Cue} {cue : Cue}
    {statement : Statement} {problem : Problem} (reached : (follow limits s done).result = .ok t)
    (reads : Statement.ofLine? cue.text = .ok (some statement))
    (fails : t.machine.exec limits statement = .error problem)
    (heeded : excusesMissing t.machine statement problem = false) :
    (follow limits s (done ++ cue :: rest)).result = .error (problem.atLine cue.number) := by
  have heeds : dropped? t.machine.board statement = none := by
    rw [excusesMissing_eq fails, Machine.missesOutput_eq_isSome] at heeded
    simpa using heeded
  have ends : (line limits cue.origin t cue.number cue.text).result =
      .error (problem.atLine cue.number) := by
    simp only [line, reads, heeds, fails]
  rw [follow_append, andThen_of_ok reached, follow, andThen_of_error ends]
  exact ends

/-- A replay is lenient about missing outputs only. It comes to the same, to the same events or the
same fault, as executing every statement and leaving one out exactly if it is refused for want of an
output, or if it is a write to a usable pin that is no output and is refused for its timer or its
value. Every other problem of a statement ends the replay. So it differs from excusing nothing but
missing outputs only where that ends at a write of this kind. -/
theorem replay_is_lenient_about_outputs (usable : List Int) (limits : Limits) (p : Program)
    (iterations : Int) :
    (extract usable limits p iterations).outcome =
        attemptTimeline excusesMissing usable limits p iterations ∧
      (∀ done cue rest s statement problem,
        p.script (max 1 iterations).toNat = done ++ cue :: rest →
        (follow limits (start usable) done).result = .ok s →
        Statement.ofLine? cue.text = .ok (some statement) →
        s.machine.exec limits statement = .error problem →
        excusesMissing s.machine statement problem = false →
        (extract usable limits p iterations).outcome = .error (problem.atLine cue.number)) ∧
      ((extract usable limits p iterations).outcome =
          attemptTimeline excusesUndeclared usable limits p iterations ∨
        EndsForMissing limits (start usable) (p.script (max 1 iterations).toNat)) := by
  refine ⟨extract_eq_attempt usable limits p iterations, ?_, ?_⟩
  · intro done cue rest s statement problem script reached reads fails heeded
    rw [extract_eq_error, script]
    exact follow_of_refused reached reads fails heeded
  · rw [extract_eq_attempt, attemptTimeline, attemptTimeline]
    obtain same | ends :=
      attemptAll_eq_or_ends limits (start usable) (p.script (max 1 iterations).toNat)
    · exact .inl (by rw [same])
    · exact .inr ends

/-- A write of a bad value to a pin that is not declared, and a wait that is too short. -/
def sloppy : Program := { setupBody := "digitalWrite(13, UP);\ndelay(-1);".toList }

/-- The write is excused and the wait is not. -/
theorem replay_is_lenient_about_outputs_sloppy :
    (follow {} (start [13]) ((sloppy.script 1).take 1)).result = .ok (start [13]) ∧
      Machine.exec {} (start [13]).machine (.digitalWrite 13 "UP".toList) =
        .error (.cause (.badKeyword .level "UP")) ∧
      Machine.exec {} (start [13]).machine (.wait (-1)) =
        .error (.cause (.waitOutOfRange (-1) 10000)) ∧
      (extract [13] {} sloppy 1).outcome = .error (.fault ⟨2, .waitOutOfRange (-1) 10000⟩) ∧
      EndsForMissing {} (start [13]) (sloppy.script 1) := by
  have reached : (follow {} (start [13]) ((sloppy.script 1).take 1)).result = .ok (start [13]) := by
    decide +kernel
  have fails : Machine.exec {} (start [13]).machine (.wait (-1)) =
      .error (.cause (.waitOutOfRange (-1) 10000)) := by
    decide +kernel
  have script : sloppy.script (max 1 1 : Int).toNat =
      (sloppy.script 1).take 1 ++ [⟨.setup, 2, "delay(-1);".toList⟩] := by
    decide +kernel
  obtain ⟨-, ends, same | stricter⟩ := replay_is_lenient_about_outputs [13] {} sloppy 1
  · exact absurd same (by decide +kernel)
  · exact ⟨reached, by decide +kernel, fails,
      ends _ _ _ _ _ _ script reached (by decide +kernel) fails (by decide +kernel), stricter⟩

/-- Leaving out just what is refused for want of an output is not what a replay does: this ends at a
bad value, which a replay does not look at. -/
theorem bad_values_without_output_are_excused :
    ¬ ∀ (usable : List Int) (limits : Limits) (p : Program) (iterations : Int),
      (extract usable limits p iterations).outcome =
        attemptTimeline excusesUndeclared usable limits p iterations := by
  intro claim
  have strict : attemptTimeline excusesUndeclared [13] {}
      { setupBody := "digitalWrite(13, UP);".toList } 1 =
        .error (.fault ⟨1, .badKeyword .level "UP"⟩) := by
    decide +kernel
  have lenient : (extract [13] {} { setupBody := "digitalWrite(13, UP);".toList } 1).outcome =
      .ok ⟨[], 0, false⟩ := by
    decide +kernel
  have same := claim [13] {} { setupBody := "digitalWrite(13, UP);".toList } 1
  rw [strict, lenient] at same
  cases same

end Replay

end SketchGrader
