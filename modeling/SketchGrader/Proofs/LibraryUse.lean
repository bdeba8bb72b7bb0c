import SketchGrader.Proofs.CallGrammar

/-!
# Timers and their libraries

The library check goes through the lines of a source and looks for the name of a timer in each. A
statement on a timer is a piece of such a line, so the check sees it, and the library is included in
a line above. There is one gap: a line that begins with an include is not searched for timers,
whatever follows on it.
-/

namespace SketchGrader

open Text

/-! ## Pieces of a line -/

namespace Text

theorem hasPart_iff {part t : Text} : hasPart part t = true ↔ part <:+: t := by
  induction t with
  | nil => simp [hasPart]
  | cons c rest ih => simp [hasPart, List.infix_cons_iff, ih]

/-- A piece of a text is a piece in lower case, too. -/
theorem lower_isInfix {part t : Text} (h : part <:+: t) : lower part <:+: lower t := by
  obtain ⟨front, back, rfl⟩ := h
  exact ⟨lower front, lower back, by simp only [lower, List.flatMap_append]⟩

end Text

/-! ## What the library check accepts -/

namespace Library

theorem mem_headers_of_missing? {headers : List Text} {line : Text} {timer : Timer}
    (h : missing? headers line = none) (hm : mentions timer line = true) :
    lower timer.header.toList ∈ headers := by
  have listed : timer ∈ Timer.all := by cases timer <;> decide
  have passed := List.find?_eq_none.mp h timer listed
  simpa [hm] using passed

/-- A line that mentions a timer comes behind one that includes the timer's library, unless the
library was included before. -/
theorem checkFrom_eq_ok {headers : List Text} {number : Nat} {texts : List Text}
    (h : checkFrom headers number texts = .ok ()) {i : Nat} {line : Text} {timer : Timer}
    (hline : texts[i]? = some line) (code : included? line = none)
    (hm : mentions timer line = true) :
    lower timer.header.toList ∈ headers ∨
      ∃ j above written, j < i ∧ texts[j]? = some above ∧ included? above = some written ∧
        lower written = lower timer.header.toList := by
  induction texts generalizing headers number i with
  | nil => cases hline
  | cons first rest ih =>
      rw [checkFrom] at h
      cases i with
      | zero =>
          obtain rfl : first = line := Option.some.inj hline
          rw [code] at h
          dsimp only at h
          split at h
          next => cases h
          next hmissing => exact .inl (mem_headers_of_missing? hmissing hm)
      | succ k =>
          have later : (∃ j above written, j < k ∧ rest[j]? = some above ∧
              included? above = some written ∧ lower written = lower timer.header.toList) →
              ∃ j above written, j < k + 1 ∧ (first :: rest)[j]? = some above ∧
                included? above = some written ∧ lower written = lower timer.header.toList := by
            rintro ⟨j, above, written, hj, habove, hwritten, hsame⟩
            exact ⟨j + 1, above, written, by omega, habove, hwritten, hsame⟩
          split at h
          next written hfirst =>
            obtain hmem | found := ih h hline
            · obtain hsame | hmem := List.mem_cons.mp hmem
              · exact .inr ⟨0, first, written, by omega, rfl, hfirst, hsame.symm⟩
              · exact .inl hmem
            · exact .inr (later found)
          next =>
            split at h
            next => cases h
            next => exact (ih h hline).imp_right later

/-- The line with this number, counted from 1, includes the header, in any case. -/
def IncludesAt (source : Text) (number : Int) (header : Text) : Prop :=
  1 ≤ number ∧ ∃ line written,
    (lines (Source.stripComments source))[(number - 1).toNat]? = some line ∧
      included? line = some written ∧ lower written = lower header

end Library

/-! ## Statements on timers -/

/-- The timer of a statement on a timer. -/
def Statement.timer? : Statement → Option Timer
  | timerStart timer _ => some timer
  | timerPwm timer _ _ => some timer
  | timerStop timer => some timer
  | _ => none

namespace Callee

/-- The timer of a call on a timer. -/
def timer? : Callee → Option Timer
  | timerStart timer => some timer
  | timerPwm timer => some timer
  | timerStop timer => some timer
  | _ => none

theorem timer?_of_statement? {callee : Callee} {args : List Token} {statement : Statement}
    (h : callee.statement? args = some (.ok statement)) : statement.timer? = callee.timer? := by
  have named := ofStatement?_of_statement? h
  cases statement with
  | conditional text => cases named
  | _ =>
      cases named
      rfl

/-- A call on a timer is named after it. -/
theorem label_isPrefix_key {callee : Callee} {timer : Timer} (h : callee.timer? = some timer) :
    lower timer.label.toList ++ ['.'] <+: callee.key.toList := by
  cases callee with
  | timerStart timer' | timerPwm timer' | timerStop timer' =>
      cases h
      cases timer <;> decide
  | _ => cases h

end Callee

namespace Call

/-- The name of a call is a piece of the line that it is read from. -/
theorem name_isInfix {line : Text} {call : Call}
    (h : (Token.tokenize (trim (Line.uncomment line))).bind ofTokens? = some call) :
    call.name <:+: line := by
  obtain ⟨tokens, hread, hcall⟩ := Option.bind_eq_some_iff.mp h
  obtain ⟨-, ending, -, rfl⟩ := ofTokens?_iff.mp hcall
  obtain ⟨blanks, rest, -, htext, -, -⟩ := Token.readAll_eq_cons hread
  have name : call.name <:+: trimRight (trim (Line.uncomment line)) :=
    ⟨blanks, rest, by rw [htext, List.append_assoc]⟩
  have code : trimRight (trim (Line.uncomment line)) <:+: Line.uncomment line :=
    (trimRight_isPrefix _).isInfix.trans (trim_isInfix _)
  exact (name.trans code).trans (Line.uncommentFrom_isPrefix none ' ' line).isInfix

end Call

/-- A line on which a timer's statement is read mentions the timer. -/
theorem Library.mentions_of_read {text whole : Text} {statement : Statement} {timer : Timer}
    (within : text <:+: whole) (hread : Statement.ofLine? text = .ok (some statement))
    (htimer : statement.timer? = some timer) : mentions timer whole = true := by
  obtain rfl | ⟨call, callee, hcall, hcallee, hstatement⟩ :=
    Statement.ofText_eq_ok (Statement.ofLine?_eq_ok hread)
  · cases htimer
  · rw [Callee.timer?_of_statement? hstatement] at htimer
    have named : lower timer.label.toList ++ ['.'] <:+: lower call.name := by
      rw [Callee.find?_iff.mp hcallee]
      exact (Callee.label_isPrefix_key htimer).isInfix
    rw [mentions, hasPart_iff]
    exact named.trans (lower_isInfix ((Call.name_isInfix hcall).trans within))

/-- In an accepted program the library of every timer that a statement uses is included, at the
latest in the line of the statement, unless this line includes another header. -/
theorem Program.timers_have_libraries {source : Text} {p : Program}
    (accepted : Program.ofSource source = .ok p) {b : Body} {number : Int} {text : Text}
    (hline : (number, text) ∈ p.statementLines b) {statement : Statement}
    (hread : Statement.ofLine? text = .ok (some statement)) {timer : Timer}
    (htimer : statement.timer? = some timer)
    (alone : ∀ header, Library.IncludesAt source number header →
      lower header = lower timer.header.toList) :
    ∃ n ≤ number, Library.IncludesAt source n timer.header.toList := by
  obtain ⟨hdraft, -⟩ := Program.ofSource_eq_ok accepted
  obtain ⟨-, -, checked, -⟩ := Source.draft_eq_ok.mp hdraft
  obtain ⟨positive, -, whole, hwhole, within, -⟩ := Program.standsAt hdraft hline
  cases hinclude : Library.included? whole with
  | some written =>
      have same := alone written ⟨positive, whole, written, hwhole, hinclude, rfl⟩
      exact ⟨number, Int.le_refl _, positive, whole, written, hwhole, hinclude, same⟩
  | none =>
      have mentioned := Library.mentions_of_read within hread htimer
      obtain hnone | ⟨j, above, written, hj, habove, hwritten, hsame⟩ :=
        Library.checkFrom_eq_ok checked hwhole hinclude mentioned
      · cases hnone
      · have index : ((j : Int) + 1 - 1).toNat = j := by omega
        exact ⟨j + 1, by omega, by omega, above, written, by rwa [index], hwritten, hsame⟩

/-- A library included in the line that uses it, its header in letters of another case. -/
def Source.crowdedInclude : Text :=
  ("#include <Servo.h>\n # include \"TIMERONE.h\" void setup() \x7b TIMER1.Stop ( )\n\x7d\n").toList

def Program.crowdedInclude : Program where
  setupBody := " TIMER1.Stop ( )\n".toList
  setupLine := 2
  absent := [.loop]

theorem Program.timers_have_libraries_crowded :
    Program.ofSource Source.crowdedInclude = .ok crowdedInclude ∧
      (2, "TIMER1.Stop ( )".toList) ∈ crowdedInclude.statementLines .setup ∧
      Statement.ofLine? "TIMER1.Stop ( )".toList = .ok (some (.timerStop .one)) ∧
      (∀ header, Library.IncludesAt Source.crowdedInclude 2 header →
        lower header = lower Timer.one.header.toList) ∧
      ∃ n ≤ 2, Library.IncludesAt Source.crowdedInclude n Timer.one.header.toList := by
  have accepted : Program.ofSource Source.crowdedInclude = .ok crowdedInclude := by decide +kernel
  have line : (2, "TIMER1.Stop ( )".toList) ∈ crowdedInclude.statementLines .setup := by
    decide +kernel
  have read : Statement.ofLine? "TIMER1.Stop ( )".toList = .ok (some (.timerStop .one)) := by
    decide +kernel
  have included : (lines (Source.stripComments Source.crowdedInclude))[1]?.bind Library.included? =
      some "TIMERONE.h".toList := by
    decide +kernel
  have alone : ∀ header, Library.IncludesAt Source.crowdedInclude 2 header →
      lower header = lower Timer.one.header.toList := by
    rintro header ⟨-, whole, written, hwhole, hwritten, hsame⟩
    rw [show (2 - 1 : Int).toNat = 1 from rfl] at hwhole
    rw [hwhole, Option.bind_some, hwritten] at included
    rw [← hsame, Option.some.inj included]
    decide +kernel
  exact ⟨accepted, line, read, alone, timers_have_libraries accepted line read rfl alone⟩

/-- A timer that is used in the line of a foreign include. -/
def Source.foreignInclude : Text :=
  ("#include <Servo.h> void setup() \x7b Timer1.stop(); \x7d\n").toList

/-- Behind a foreign include, a timer passes the check without its library. -/
theorem Program.timers_behind_includes_are_not_covered :
    ¬ ∀ (source : Text) (p : Program) (b : Body) (number : Int) (text : Text)
      (statement : Statement) (timer : Timer), Program.ofSource source = .ok p →
      (number, text) ∈ p.statementLines b →
      Statement.ofLine? text = .ok (some statement) → statement.timer? = some timer →
      ∃ n ≤ number, Library.IncludesAt source n timer.header.toList := by
  intro claim
  have included : (lines (Source.stripComments Source.foreignInclude))[0]?.bind Library.included? =
      some "Servo.h".toList := by
    decide +kernel
  obtain ⟨n, bound, positive, whole, written, hwhole, hwritten, hsame⟩ :=
    claim Source.foreignInclude ⟨" Timer1.stop(); ".toList, [], 1, 1, [.loop]⟩ .setup 1
      "Timer1.stop();".toList (.timerStop .one) .one (by decide +kernel) (by decide +kernel)
      (by decide +kernel) rfl
  rw [show (n - 1).toNat = 0 by omega] at hwhole
  rw [hwhole, Option.bind_some, hwritten] at included
  rw [Option.some.inj included] at hsame
  exact absurd hsame (by decide +kernel)

end SketchGrader
