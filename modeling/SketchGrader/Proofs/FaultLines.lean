import SketchGrader.Proofs.History
import SketchGrader.Proofs.LiveAgreement
import SketchGrader.Proofs.SourceLines

/-!
# Lines of faults

The pin check, a replay and a live run go through the statement lines of a program one after the
other, and the first line that does not pass ends them. The fault that is reported then carries the
number of this line, which is the number of the source line that the statement stands in.
-/

namespace SketchGrader

theorem Problem.atLine_eq_fault {line : Int} {problem : Problem} {fault : Fault}
    (h : problem.atLine line = .fault fault) :
    problem = .cause fault.cause ∧ fault.line = line := by
  cases problem with
  | cause c =>
      cases h
      exact ⟨rfl, rfl⟩
  | breakdown b => cases h

/-! ## The pin check -/

namespace PinUse

theorem checkUses_fault {declared : List (Int × Text)} {needed : Direction} {line : Int}
    {uses : List Use} {fault : Fault}
    (h : checkUses declared needed line uses = .error (.fault fault)) : fault.line = line := by
  induction uses with
  | nil => cases h
  | cons use rest ih =>
      rw [checkUses] at h
      split at h
      next => cases h
      next =>
        split_ifs at h
        · exact ih h
        · cases h
          rfl

theorem checkLine_fault {declared : List (Int × Text)} {line : Int × Text} {fault : Fault}
    (h : checkLine declared line = .error (.fault fault)) : fault.line = line.1 := by
  unfold checkLine at h
  split at h
  next =>
    cases h
    rfl
  next =>
    cases ho : checkUses declared .output line.1 (Text.findWords outputUse? none line.2) with
    | error halt =>
        rw [ho] at h
        cases h
        exact checkUses_fault ho
    | ok u =>
        rw [ho] at h
        exact checkUses_fault h

/-- The check ends at the first line that does not pass. -/
theorem checkLines_error {declared : List (Int × Text)} {lines : List (Int × Text)} {halt : Halt}
    (h : checkLines declared lines = .error halt) :
    ∃ before line after, lines = before ++ line :: after ∧
      checkLines declared before = .ok () ∧ checkLine declared line = .error halt := by
  induction lines with
  | nil => cases h
  | cons line rest ih =>
      cases hl : checkLine declared line with
      | error other =>
          rw [checkLines, hl] at h
          cases h
          exact ⟨[], line, rest, rfl, rfl, hl⟩
      | ok u =>
          rw [checkLines, hl] at h
          obtain ⟨before, line', after, rfl, hbefore, hline⟩ := ih h
          refine ⟨line :: before, line', after, rfl, ?_, hline⟩
          rw [checkLines, hl]
          exact hbefore

theorem check_fault {p : Program} {fault : Fault} (h : check p = .error (.fault fault)) :
    ∃ declared before text after, declarations (p.statementLines .setup) = .ok declared ∧
      p.statementLines .setup ++ p.statementLines .loop = before ++ (fault.line, text) :: after ∧
      checkLines declared before = .ok () ∧
      checkLine declared (fault.line, text) = .error (.fault fault) := by
  unfold check at h
  split at h
  next => cases h
  next declared hd =>
    obtain ⟨before, ⟨number, text⟩, after, hlines, hbefore, hline⟩ := checkLines_error h
    have hnumber : fault.line = number := checkLine_fault hline
    subst hnumber
    exact ⟨declared, before, text, after, hd, hlines, hbefore, hline⟩

end PinUse

/-! ## Replays -/

/-- The text of a line cannot be read, or its statement cannot be executed on the machine, for the
given cause. -/
def Machine.Refuses (limits : Limits) (m : Machine) (text : Text) (cause : Cause) : Prop :=
  Statement.ofLine? text = .error (.cause cause) ∨
    ∃ statement, Statement.ofLine? text = .ok (some statement) ∧
      m.exec limits statement = .error (.cause cause)

namespace Replay

theorem line_fault {limits : Limits} {origin : Body} {s : State} {number : Int} {text : Text}
    {fault : Fault} (h : (line limits origin s number text).result = .error (.fault fault)) :
    fault.line = number ∧ s.machine.Refuses limits text fault.cause := by
  unfold line at h
  split at h
  next problem hl =>
    obtain ⟨rfl, hline⟩ := Problem.atLine_eq_fault (Except.error.inj h)
    exact ⟨hline, .inl hl⟩
  next => cases h
  next statement hl =>
    split at h
    next => cases h
    next =>
      split at h
      next problem he =>
        obtain ⟨rfl, hline⟩ := Problem.atLine_eq_fault (Except.error.inj h)
        exact ⟨hline, .inr ⟨statement, hl, he⟩⟩
      next => cases h

/-- A replay ends at the first line that cannot be executed. -/
theorem follow_error {limits : Limits} {s : State} {cues : List Cue} {halt : Halt}
    (h : (follow limits s cues).result = .error halt) :
    ∃ before cue after t, cues = before ++ cue :: after ∧
      (follow limits s before).result = .ok t ∧
      (line limits cue.origin t cue.number cue.text).result = .error halt := by
  induction cues generalizing s with
  | nil => cases h
  | cons cue rest ih =>
      cases hl : (line limits cue.origin s cue.number cue.text).result with
      | error other =>
          rw [follow, andThen_of_error hl, hl] at h
          cases h
          exact ⟨[], cue, rest, s, rfl, rfl, hl⟩
      | ok s' =>
          rw [follow, andThen_of_ok hl] at h
          obtain ⟨before, cue', after, t, rfl, hbefore, hline⟩ := ih h
          refine ⟨cue :: before, cue', after, t, rfl, ?_, hline⟩
          rw [follow, andThen_of_ok hl]
          exact hbefore

theorem extract_fault {usable : List Int} {limits : Limits} {p : Program} {n : Int} {fault : Fault}
    (h : (extract usable limits p n).outcome = .error (.fault fault)) :
    ∃ before b text after s,
      p.script (max 1 n).toNat = before ++ ⟨b, fault.line, text⟩ :: after ∧
      (follow limits (start usable) before).result = .ok s ∧
      s.machine.Refuses limits text fault.cause := by
  obtain ⟨before, ⟨b, number, text⟩, after, s, hscript, hbefore, hline⟩ :=
    follow_error (extract_eq_error.mp h)
  obtain ⟨hnumber, refuses⟩ := line_fault hline
  have hnumber : fault.line = number := hnumber
  subst hnumber
  exact ⟨before, b, text, after, s, hscript, hbefore, refuses⟩

end Replay

/-! ## Live runs -/

namespace Machine

/-- Executes lines one after the other. -/
def execAll (limits : Limits) (m : Machine) : List Cue → Except Halt Machine
  | [] => .ok m
  | cue :: rest =>
    match m.execLine limits cue.number cue.text with
    | .error halt => .error halt
    | .ok (_, m) => m.execAll limits rest

theorem execAll_append {limits : Limits} {m m' : Machine} {a : List Cue}
    (h : m.execAll limits a = .ok m') (b : List Cue) :
    m.execAll limits (a ++ b) = m'.execAll limits b := by
  induction a generalizing m with
  | nil =>
      cases h
      rfl
  | cons cue rest ih =>
      rw [execAll] at h
      rw [List.cons_append, execAll]
      split at h
      next => cases h
      next => exact ih h

theorem execLine_fault {limits : Limits} {m : Machine} {number : Int} {text : Text} {fault : Fault}
    (h : m.execLine limits number text = .error (.fault fault)) :
    fault.line = number ∧ m.Refuses limits text fault.cause := by
  unfold execLine at h
  split at h
  next problem hl =>
    obtain ⟨rfl, hline⟩ := Problem.atLine_eq_fault (Except.error.inj h)
    exact ⟨hline, .inl hl⟩
  next => cases h
  next statement hl =>
    split at h
    next problem he =>
      obtain ⟨rfl, hline⟩ := Problem.atLine_eq_fault (Except.error.inj h)
      exact ⟨hline, .inr ⟨statement, hl, he⟩⟩
    next => cases h

end Machine

namespace Live

section
variable {setup : Setup}

theorem tell_machine (s : State) (kind : MarkKind) (mark : Mark) :
    (s.tell setup kind mark).2.machine = s.machine := by
  unfold State.tell
  split_ifs <;> rfl

theorem pause_machine (s : State) (ms : Int) : (s.pause setup ms).2.machine = s.machine := by
  unfold State.pause
  split_ifs <;> rfl

theorem stepPause_machine (s : State) : (s.stepPause setup).2.machine = s.machine := by
  unfold State.stepPause
  split_ifs
  · rfl
  · exact pause_machine s setup.stepDelayMs

theorem observe_machine (s : State) (origin : Body) (kind : EventKind) (pin : Int) :
    (s.observe setup origin kind pin).2.machine = s.machine := by
  unfold State.observe
  simp only
  split
  next => rfl
  next =>
    split
    next => rfl
    next =>
      split
      next => rfl
      next => exact tell_machine _ _ _

/-- What follows the execution of a statement leaves the machine alone. -/
theorem settle_machine (s : State) (origin : Body) (number : Int) (statement : Statement) :
    (s.settle setup origin number statement).2.machine = s.machine := by
  cases hw : statement.isWait with
  | true =>
      cases statement with
      | wait ms => rw [settle_wait]; exact (pause_machine _ ms).trans (tell_machine s _ _)
      | _ => cases hw
  | false =>
      rw [settle_of_not_wait hw]
      refine (stepPause_machine _).trans ?_
      cases statement.writtenPin? with
      | none => exact tell_machine s _ _
      | some pin => exact (observe_machine _ origin _ pin).trans (tell_machine s _ _)

/-- A part of a live run goes through its lines: if it finished, all of them are executed, and if it
came to a halt, all in front of one that cannot be. -/
structure GoesThrough (limits : Limits) (m : Machine) (cues : List Cue) (p : Progress) : Prop where
  finished : p.ending = .finished → m.execAll limits cues = .ok p.state.machine
  halted : ∀ halt, p.ending = .halted halt → ∃ before cue after m',
    cues = before ++ cue :: after ∧ m.execAll limits before = .ok m' ∧
      m'.execLine limits cue.number cue.text = .error halt

theorem GoesThrough.of_finished {limits : Limits} {m : Machine} {cues : List Cue} {p : Progress}
    (hf : p.ending = .finished) (all : m.execAll limits cues = .ok p.state.machine) :
    GoesThrough limits m cues p := by
  refine ⟨fun _ => all, ?_⟩
  intro halt hq
  rw [hf] at hq
  cases hq

theorem line_goesThrough (s : State) (cue : Cue) :
    GoesThrough setup.limits s.machine [cue]
      (line setup cue.origin s cue.number cue.text) := by
  cases he : s.machine.execLine setup.limits cue.number cue.text with
  | error halt =>
      have hline : line setup cue.origin s cue.number cue.text = ⟨[], s, .halted halt⟩ := by
        simp only [line, he]
      rw [hline]
      constructor
      · intro hq
        cases hq
      · intro other hq
        cases hq
        exact ⟨[], cue, [], s.machine, rfl, rfl, he⟩
  | ok done =>
      obtain ⟨found, m⟩ := done
      have hall : s.machine.execAll setup.limits [cue] = .ok m := by
        simp only [Machine.execAll, he]
      cases found with
      | none =>
          obtain ⟨-, rfl⟩ | ⟨statement, hs, -⟩ := Machine.execLine_ok he
          · have hline : line setup cue.origin s cue.number cue.text = ⟨[], s, .finished⟩ := by
              simp only [line, he]
            rw [hline]
            exact .of_finished rfl hall
          · cases hs
      | some statement =>
          have hm := @settle_machine setup { s with machine := m } cue.origin cue.number statement
          simp only [line, he]
          exact .of_finished rfl (by rw [hall, hm])

/-- Two parts one after the other go through the lines of both. -/
theorem GoesThrough.andThen {limits : Limits} {m : Machine} {a b : List Cue} {p : Progress}
    (h : GoesThrough limits m a p) (next : State → Progress)
    (hnext : p.ending = .finished → GoesThrough limits p.state.machine b (next p.state)) :
    GoesThrough limits m (a ++ b) (p.andThen next) := by
  by_cases hf : p.ending = .finished
  · have all := h.finished hf
    rw [andThen_of_finished hf]
    refine ⟨?_, ?_⟩
    · intro hq
      rw [Machine.execAll_append all]
      exact (hnext hf).finished hq
    · intro halt hq
      obtain ⟨before, cue, after, m', rfl, hbefore, hcue⟩ := (hnext hf).halted halt hq
      refine ⟨a ++ before, cue, after, m', by rw [List.append_assoc], ?_, hcue⟩
      rw [Machine.execAll_append all]
      exact hbefore
  · rw [andThen_of_not_finished hf]
    refine ⟨fun hq => absurd hq hf, ?_⟩
    intro halt hq
    obtain ⟨before, cue, after, m', rfl, hbefore, hcue⟩ := h.halted halt hq
    exact ⟨before, cue, after ++ b, m', by rw [List.append_assoc, List.cons_append], hbefore, hcue⟩

theorem GoesThrough.stopped {limits : Limits} {m : Machine} {a : List Cue} {p : Progress}
    (h : GoesThrough limits m a p) (hf : p.ending ≠ .finished) (b : List Cue) :
    GoesThrough limits m (a ++ b) p := by
  have both : GoesThrough limits m (a ++ b) (p.andThen fun _ => p) :=
    h.andThen _ fun hq => absurd hq hf
  rwa [andThen_of_not_finished hf] at both

theorem follow_goesThrough (s : State) (cues : List Cue) :
    GoesThrough setup.limits s.machine cues (follow setup s cues) := by
  induction cues generalizing s with
  | nil => exact .of_finished rfl rfl
  | cons cue rest ih =>
      rw [follow]
      split_ifs
      · constructor
        · intro hq
          cases hq
        · intro halt hq
          cases hq
      · exact (line_goesThrough s cue).andThen _ fun _ => ih _

theorem lines_goesThrough (p : Program) (b : Body) (s : State) :
    GoesThrough setup.limits s.machine (p.cues b) (lines setup b s (p.statementLines b)) := by
  rw [lines_eq_follow]
  exact follow_goesThrough s (p.cues b)

theorem passes_goesThrough (p : Program) (s : State) (done count : Nat) :
    GoesThrough setup.limits s.machine (List.replicate count (p.cues .loop)).flatten
      (passes setup (p.statementLines .loop) s done count).progress := by
  induction count generalizing s done with
  | zero => exact .of_finished rfl rfl
  | succ count ih =>
      have first := @lines_goesThrough setup p .loop s
      rw [List.replicate_succ, List.flatten_cons]
      by_cases hf : (lines setup .loop s (p.statementLines .loop)).ending = .finished
      · let pass := lines setup .loop s (p.statementLines .loop)
        let told := pass.state.tell setup .iteration (.iteration (done + 1))
        have rest := ih told.2 (done + 1)
        rw [show told.2.machine = pass.state.machine from tell_machine _ _ _] at rest
        have both := first.andThen (fun _ =>
          (passes setup (p.statementLines .loop) told.2 (done + 1) count).progress) fun _ => rest
        rw [andThen_of_finished hf] at both
        rw [passes_of_finished hf]
        exact ⟨both.finished, both.halted⟩
      · rw [passes_of_not_finished hf]
        exact first.stopped hf _

theorem bodies_goesThrough (p : Program) (limit : Int) (s : State) :
    GoesThrough setup.limits s.machine (p.script limit.toNat) (bodies setup p limit s).progress := by
  have first := @lines_goesThrough setup p .setup s
  cases hp : p.isLooping with
  | false =>
      rw [bodies_of_plain hp, Program.script, Program.cues_of_not_looping hp,
        List.flatten_replicate_nil, List.append_nil]
      exact first
  | true =>
      by_cases hf : (lines setup .setup s (p.statementLines .setup)).ending = .finished
      · have both := first.andThen (fun s =>
          (passes setup (p.statementLines .loop) s 0 limit.toNat).progress)
          fun _ => passes_goesThrough p _ 0 limit.toNat
        rw [andThen_of_finished hf] at both
        rw [bodies_of_looping hp hf]
        exact ⟨both.finished, both.halted⟩
      · rw [bodies_of_not_finished hf]
        exact first.stopped hf _

/-- A run gives a fault only if its passes came to a halt with it. -/
theorem finish_fault {opening : List Mark} {ran : Passes} {result : RunResult} {fault : Fault}
    (h : (finish setup opening ran).result = .ok result) (hf : result.fault = some fault) :
    ran.progress.ending = .halted (.fault fault) := by
  unfold finish at h
  simp only at h
  split at h
  next => cases h
  next other hother =>
    cases h
    cases hf
    exact hother
  next =>
    cases h
    cases hf

theorem run_fault {session : Session} {p : Program} {limit : Option Int} {result : RunResult}
    {fault : Fault} (h : (run setup session p limit).result = .ok result)
    (hf : result.fault = some fault) :
    ∃ count before b text after m,
      p.script count = before ++ ⟨b, fault.line, text⟩ :: after ∧
      (Machine.ofPins setup.usablePins).execAll setup.limits before = .ok m ∧
      m.Refuses setup.limits text fault.cause := by
  obtain ⟨before, ⟨b, number, text⟩, after, m, hscript, hbefore, hcue⟩ :=
    (bodies_goesThrough p _ _).halted _ (finish_fault h hf)
  obtain ⟨hnumber, refuses⟩ := Machine.execLine_fault hcue
  have hnumber : fault.line = number := hnumber
  subst hnumber
  exact ⟨_, before, b, text, after, m, hscript, hbefore, refuses⟩

end

end Live

/-! ## Reported lines -/

namespace Program

theorem mem_script {p : Program} {count : Nat} {cue : Cue} (h : cue ∈ p.script count) :
    (cue.number, cue.text) ∈ p.statementLines cue.origin := by
  have inBody : ∀ b, cue ∈ p.cues b → (cue.number, cue.text) ∈ p.statementLines cue.origin := by
    intro b hb
    obtain ⟨line, hline, rfl⟩ := List.mem_map.mp hb
    exact hline
  rw [script, List.mem_append, List.mem_flatten] at h
  obtain h | ⟨body, hbody, h⟩ := h
  · exact inBody .setup h
  · rw [List.eq_of_mem_replicate hbody] at h
    exact inBody .loop h

theorem mem_of_script_eq {p : Program} {count : Nat} {before after : List Cue} {b : Body}
    {number : Int} {text : Text} (h : p.script count = before ++ ⟨b, number, text⟩ :: after) :
    (number, text) ∈ p.statementLines b := by
  have hcue : (⟨b, number, text⟩ : Cue) ∈ p.script count := by simp [h]
  exact mem_script hcue

end Program

/-- The lines that are reported are those of the source. Blanking the comments keeps every
character in its place, line ends included. Every statement line of a program stands, trimmed, in
the source line that has its number, whether or not the pins are used well. A fault of the pin
check, of a replay or of a live run carries the number of the first statement line that does not
pass: all lines in front of it go well, and it is this line that cannot be accepted or executed. -/
theorem Program.reported_lines_are_source_lines {source : Text} {p : Program}
    (h : Source.draft source = .ok p) :
    ((Source.stripComments source).length = source.length ∧
      ∀ i : Nat, (Source.stripComments source)[i]? = some '\n' ↔ source[i]? = some '\n') ∧
    (∀ b number text, (number, text) ∈ p.statementLines b →
      Source.StandsAt source number text) ∧
    (∀ fault, PinUse.check p = .error (.fault fault) →
      ∃ declared before text after,
        PinUse.declarations (p.statementLines .setup) = .ok declared ∧
        p.statementLines .setup ++ p.statementLines .loop = before ++ (fault.line, text) :: after ∧
        PinUse.checkLines declared before = .ok () ∧
        PinUse.checkLine declared (fault.line, text) = .error (.fault fault)) ∧
    (∀ usable limits n fault,
      (Replay.extract usable limits p n).outcome = .error (.fault fault) →
      ∃ before b text after s, (fault.line, text) ∈ p.statementLines b ∧
        p.script (max 1 n).toNat = before ++ ⟨b, fault.line, text⟩ :: after ∧
        (Replay.follow limits (Replay.start usable) before).result = .ok s ∧
        s.machine.Refuses limits text fault.cause) ∧
    (∀ setup session limit result fault,
      (Live.run setup session p limit).result = .ok result → result.fault = some fault →
      ∃ count before b text after m, (fault.line, text) ∈ p.statementLines b ∧
        p.script count = before ++ ⟨b, fault.line, text⟩ :: after ∧
        (Machine.ofPins setup.usablePins).execAll setup.limits before = .ok m ∧
        m.Refuses setup.limits text fault.cause) := by
  refine ⟨⟨Source.length_stripComments source, Source.getElem?_stripComments_newline source⟩,
    fun b number text => standsAt h, fun fault => PinUse.check_fault, ?_, ?_⟩
  · intro usable limits n fault hextract
    obtain ⟨before, b, text, after, s, hscript, hbefore, refuses⟩ := Replay.extract_fault hextract
    exact ⟨before, b, text, after, s, mem_of_script_eq hscript, hscript, hbefore, refuses⟩
  · intro setup session limit result fault hrun hfault
    obtain ⟨count, before, b, text, after, m, hscript, hbefore, refuses⟩ :=
      Live.run_fault hrun hfault
    exact ⟨count, before, b, text, after, m, mem_of_script_eq hscript, hscript, hbefore, refuses⟩

/-- A sketch whose body begins in the middle of a line, behind a comment of two lines. -/
def Source.crowded : Text :=
  ("/* blink\n   twice */ void setup() \x7b pinMode(9, OUTPUT);\n  delay(5); // \"\n" ++
    "  digitalWrite(8, HIGH);\n\x7d\n").toList

/-- The three statements stand in lines 2 to 4, and the pin that is not declared is reported in
line 4. -/
theorem Program.reported_lines_are_source_lines_crowded :
    ∃ p, Source.draft Source.crowded = .ok p ∧
      p.statementLines .setup =
        [(2, "pinMode(9, OUTPUT);".toList), (3, "delay(5);".toList),
          (4, "digitalWrite(8, HIGH);".toList)] ∧
      (∀ line ∈ p.statementLines .setup, Source.StandsAt Source.crowded line.1 line.2) ∧
      PinUse.check p = .error (.fault ⟨4, .undeclaredUse 8 "digitalWrite" .output⟩) ∧
      ∃ before text after,
        p.statementLines .setup ++ p.statementLines .loop = before ++ (4, text) :: after := by
  have drafted : Source.draft Source.crowded = .ok
      ⟨(" pinMode(9, OUTPUT);\n  delay(5);     \n" ++ "  digitalWrite(8, HIGH);\n").toList, [], 2, 1,
        [.loop]⟩ := by
    decide +kernel
  obtain ⟨-, stands, checked, -⟩ := reported_lines_are_source_lines drafted
  have refused : PinUse.check
      ⟨(" pinMode(9, OUTPUT);\n  delay(5);     \n" ++ "  digitalWrite(8, HIGH);\n").toList, [], 2, 1,
        [.loop]⟩ = .error (.fault ⟨4, .undeclaredUse 8 "digitalWrite" .output⟩) := by
    decide +kernel
  obtain ⟨declared, before, text, after, -, split, -⟩ := checked _ refused
  refine ⟨_, drafted, by decide +kernel, ?_, refused, before, text, after, split⟩
  intro line hline
  exact stands .setup line.1 line.2 hline

end SketchGrader
