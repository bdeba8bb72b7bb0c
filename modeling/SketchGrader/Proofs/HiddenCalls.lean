import SketchGrader.Proofs.CallGrammar

/-!
# Calls behind a condition

An `if` with its condition is read as conditional syntax and has no effect. Behind the condition
nothing may follow but an opening brace, so that no call is passed over. There is one gap: the end
of the condition is looked for from the end of the line, and a line that ends with another closing
parenthesis is taken whole, with all that stands between.
-/

namespace SketchGrader

open Text

namespace Line

/-! ## The end of a condition -/

/-- Nothing but an optional brace, behind any blanks. -/
theorem endsWithBrace_trimLeft {t : Text} :
    endsWithBrace (trimLeft t) = true ↔ ∃ blanks brace, t = blanks ++ brace ∧
      (∀ c ∈ blanks, isBlank c = true) ∧ (brace = [] ∨ brace = ['{']) := by
  constructor
  · intro h
    refine ⟨t.takeWhile isBlank, trimLeft t, List.takeWhile_append_dropWhile.symm, ?_, ?_⟩
    · intro c hc
      exact List.mem_takeWhile_imp hc
    · simpa [endsWithBrace] using h
  · rintro ⟨blanks, brace, rfl, hblanks, rfl | rfl⟩
    · rw [trimLeft_blanks hblanks]
      rfl
    · rw [trimLeft_blanks hblanks]
      decide

theorem isBlank_or_brace {t : Text} (h : endsWithBrace (trimLeft t) = true) {c : Char}
    (hc : c ∈ t) : isBlank c = true ∨ c = '{' := by
  obtain ⟨blanks, brace, rfl, hblanks, hbrace⟩ := endsWithBrace_trimLeft.mp h
  obtain blank | hc := List.mem_append.mp hc
  · exact .inl (hblanks c blank)
  · obtain rfl | rfl := hbrace
    · cases hc
    · exact .inr (List.mem_singleton.mp hc)

theorem closesCondition_parts {t : Text} (h : closesCondition t = true) :
    ∃ inner blanks brace, t.reverse = brace ++ (blanks ++ ')' :: inner) ∧
      (∀ c ∈ blanks, isBlank c = true) ∧ (brace = [] ∨ brace = ['{']) ∧ '\n' ∉ inner := by
  have blanks (body : Text) : ∀ c ∈ body.takeWhile isBlank, isBlank c = true :=
    fun _ hc => List.mem_takeWhile_imp hc
  unfold closesCondition at h
  dsimp only at h
  split at h
  next inner hinner =>
    have hline : '\n' ∉ inner := by simpa using h
    split at hinner
    next body hbody =>
      refine ⟨inner, body.takeWhile isBlank, ['{'], ?_, blanks body, .inr rfl, hline⟩
      rw [hbody, ← hinner, List.takeWhile_append_dropWhile]
      rfl
    next =>
      refine ⟨inner, t.reverse.takeWhile isBlank, [], ?_, blanks t.reverse, .inl rfl, hline⟩
      rw [← hinner, List.takeWhile_append_dropWhile]
      rfl
  next => cases h

theorem closesCondition_of_parts {t inner blanks brace : Text}
    (ht : t.reverse = brace ++ (blanks ++ ')' :: inner)) (hblanks : ∀ c ∈ blanks, isBlank c = true)
    (hbrace : brace = [] ∨ brace = ['{']) (hline : '\n' ∉ inner) : closesCondition t = true := by
  have reached : (blanks ++ ')' :: inner).dropWhile isBlank = ')' :: inner := by
    rw [List.dropWhile_append_of_pos hblanks]
    rfl
  unfold closesCondition
  dsimp only
  rw [ht]
  obtain rfl | rfl := hbrace
  · -- Neither a blank nor the parenthesis is mistaken for a brace.
    have first : ∀ rest, blanks ++ ')' :: inner = '{' :: rest → False := by
      intro rest hrest
      cases blanks with
      | nil => exact absurd (List.cons.inj hrest).1 (by decide)
      | cons b blanks =>
          have blank := hblanks b List.mem_cons_self
          rw [(List.cons.inj hrest).1] at blank
          exact absurd blank (by decide)
    simp [reached, hline]
  · simp [reached, hline]

/-- A text that closes a condition has a last parenthesis, with blanks and a brace behind it. -/
theorem closesCondition_iff {t : Text} :
    closesCondition t = true ↔ ∃ inner behind, t = inner ++ ')' :: behind ∧
      endsWithBrace (trimLeft behind) = true ∧ '\n' ∉ inner := by
  constructor
  · intro h
    obtain ⟨inner, blanks, brace, ht, hblanks, hbrace, hline⟩ := closesCondition_parts h
    refine ⟨inner.reverse, blanks.reverse ++ brace, ?_, ?_, by simpa using hline⟩
    · rw [← List.reverse_reverse t, ht]
      obtain rfl | rfl := hbrace <;> simp
    · exact endsWithBrace_trimLeft.mpr ⟨_, brace, rfl, by simpa using hblanks, hbrace⟩
  · rintro ⟨inner, behind, rfl, hbehind, hline⟩
    obtain ⟨blanks, brace, rfl, hblanks, hbrace⟩ := endsWithBrace_trimLeft.mp hbehind
    have ht : (inner ++ ')' :: (blanks ++ brace)).reverse =
        brace ++ (blanks.reverse ++ ')' :: inner.reverse) := by
      obtain rfl | rfl := hbrace <;> simp
    exact closesCondition_of_parts ht (by simpa using hblanks) hbrace (by simpa using hline)

/-- Behind any parenthesis of a text that closes a condition, there is nothing more than a brace,
or the condition is closed once more. -/
theorem closesCondition_append {inner behind : Text}
    (h : closesCondition (inner ++ ')' :: behind) = true) :
    endsWithBrace (trimLeft behind) = true ∨ closesCondition behind = true := by
  obtain ⟨inner', behind', heq, hbrace, hline⟩ := closesCondition_iff.mp h
  obtain ⟨more, hinner, hmore⟩ | ⟨more, hinner, hmore⟩ := List.append_eq_append_iff.mp heq
  · cases more with
    | nil =>
        obtain rfl := (List.cons.inj hmore).2
        exact .inl hbrace
    | cons c more =>
        obtain ⟨-, rfl⟩ := List.cons.inj hmore
        refine .inr (closesCondition_iff.mpr ⟨more, behind', rfl, hbrace, ?_⟩)
        rw [hinner] at hline
        intro hmem
        exact hline (List.mem_append_right inner (List.mem_cons_of_mem c hmem))
  · cases more with
    | nil =>
        obtain rfl := (List.cons.inj hmore).2
        exact .inl hbrace
    | cons c more =>
        obtain ⟨-, rfl⟩ := List.cons.inj hmore
        have closing : ')' ∈ more ++ ')' :: behind := by simp
        obtain blank | brace := isBlank_or_brace hbrace closing
        · exact absurd blank (by decide)
        · exact absurd brace (by decide)

theorem closesCondition_of_behind {inner behind : Text} (single : '\n' ∉ inner ++ ')' :: behind)
    (h : endsWithBrace (trimLeft behind) = true ∨ closesCondition behind = true) :
    closesCondition (inner ++ ')' :: behind) = true := by
  obtain hbrace | hcloses := h
  · refine closesCondition_iff.mpr ⟨inner, behind, rfl, hbrace, ?_⟩
    intro hmem
    exact single (List.mem_append_left _ hmem)
  · obtain ⟨more, behind', rfl, hbrace, -⟩ := closesCondition_iff.mp hcloses
    refine closesCondition_iff.mpr ⟨inner ++ ')' :: more, behind', by simp, hbrace, ?_⟩
    intro hmem
    apply single
    rw [show inner ++ ')' :: (more ++ ')' :: behind') = inner ++ ')' :: more ++ ')' :: behind' by
      simp]
    exact List.mem_append_left _ hmem

/-! ## Lines with a condition -/

/-- What follows the parenthesis that opens the condition of an `if`. -/
def condition? (t : Text) : Option Text :=
  (afterAnyCase "if".toList (afterElse (afterCloser t))).bind (afterBlanksAnd ['('])

/-- What follows the parenthesis that matches an opening one in front of the text; `depth` counts
those that were opened since. -/
def behindMatch? : Nat → Text → Option Text
  | _, [] => none
  | depth, '(' :: rest => behindMatch? (depth + 1) rest
  | 0, ')' :: rest => some rest
  | depth + 1, ')' :: rest => behindMatch? depth rest
  | depth, _ :: rest => behindMatch? depth rest

theorem behindMatch?_eq_some {depth : Nat} {t behind : Text}
    (h : behindMatch? depth t = some behind) : ∃ inner, t = inner ++ ')' :: behind := by
  fun_induction behindMatch? depth t with
  | case1 => cases h
  | case3 rest =>
      cases h
      exact ⟨[], rfl⟩
  | case2 _ rest ih | case4 _ rest ih | case5 _ _ rest _ _ _ ih =>
      obtain ⟨inner, rfl⟩ := ih h
      exact ⟨_ :: inner, rfl⟩

theorem isIf_eq {t rest : Text} (h : condition? t = some rest) : isIf t = closesCondition rest := by
  rw [condition?] at h
  rw [isIf, h]

/-- Behind the `else` of an `else if` there is more than a brace. -/
theorem isElse_eq_false {t rest : Text} (h : condition? t = some rest) : isElse t = false := by
  obtain ⟨behind, hif, -⟩ := Option.bind_eq_some_iff.mp h
  rw [isElse]
  split
  next rest' helse =>
    obtain ⟨c, more, hcloser, hc, -⟩ := afterAnyCase_cons helse
    rw [afterElse, helse, Option.bind_some] at hif
    split at hif
    next hblanks =>
      rw [eq_trimLeft_of_afterBlanks hblanks] at hif
      obtain ⟨d, more', htrim, -, hmore⟩ := afterAnyCase_cons hif
      obtain ⟨e, more'', rfl, -, -⟩ := afterAnyCase_cons hmore
      simp [htrim, endsWithBrace]
    next =>
      obtain ⟨d, more', hcloser', hd, -⟩ := afterAnyCase_cons hif
      obtain ⟨rfl, -⟩ := List.cons.inj (hcloser.symm.trans hcloser')
      exact absurd (hc.symm.trans hd) (by decide)
  next => rfl

theorem isBrace_eq_false {t rest : Text} (h : condition? t = some rest) : isBrace t = false := by
  rw [Bool.eq_false_iff]
  intro brace
  obtain ⟨behind, hif, -⟩ := Option.bind_eq_some_iff.mp h
  cases t with
  | nil => cases brace
  | cons c more =>
      simp only [isBrace, Bool.and_eq_true, Bool.or_eq_true, beq_iff_eq] at brace
      obtain ⟨rfl | rfl, hmore⟩ := brace
      · cases hif
      · rw [show afterCloser ('}' :: more) = trimLeft more from rfl] at hif
        obtain hmore | hmore := hmore
        · rw [hmore] at hif
          cases hif
        · rw [hmore] at hif
          cases hif

/-- An `if` with a condition is no other conditional syntax. -/
theorem isConditional_eq {t rest : Text} (h : condition? t = some rest) :
    isConditional t = closesCondition rest := by
  rw [isConditional, isIf_eq h, isElse_eq_false h, isBrace_eq_false h, Bool.or_false,
    Bool.or_false]

end Line

namespace Statement

/-- Exactly the lines with conditional syntax are read as such. -/
theorem ofLine?_eq_conditional {line : Text} (filled : trim (Line.uncomment line) ≠ [])
    {text : Text} : ofLine? line = .ok (some (.conditional text)) ↔
      text = trim (Line.uncomment line) ∧ Line.isConditional text = true := by
  constructor
  · intro h
    have read := ofLine?_eq_ok h
    cases plain : Line.isConditional (trim (Line.uncomment line)) with
    | false =>
        obtain ⟨call, callee, -, -, hstatement⟩ := call_of_ofText plain read
        cases Callee.ofStatement?_of_statement? hstatement
    | true =>
        rw [ofText, if_pos plain] at read
        cases read
        exact ⟨rfl, plain⟩
  · rintro ⟨rfl, h⟩
    rw [ofLine?_of_filled filled, ofText, if_pos h]
    rfl

end Statement

/-- Whether the name of a call stands somewhere in a text, in any case, and a parenthesis is opened
behind it. -/
def Callee.OccursIn (t : Text) : Prop :=
  ∃ callee before name blanks after, t = before ++ name ++ blanks ++ '(' :: after ∧
    lower name = (key callee).toList ∧ ∀ c ∈ blanks, isBlank c = true

theorem Callee.not_occursIn {t : Text} (h : Line.endsWithBrace (trimLeft t) = true) :
    ¬ OccursIn t := by
  rintro ⟨callee, before, name, blanks, after, rfl, -, -⟩
  obtain blank | brace := Line.isBlank_or_brace (c := '(') h (by simp)
  · exact absurd blank (by decide)
  · exact absurd brace (by decide)

/-- What an `if` can hide behind its condition. Read as conditional syntax, it has nothing there but
a brace, and no call, unless the line closes another parenthesis at its end; and if it closes one,
it is read as conditional syntax with all that stands there. -/
theorem Statement.calls_hide_behind_parentheses {line rest behind : Text}
    (opened : Line.condition? (trim (Line.uncomment line)) = some rest)
    (matched : Line.behindMatch? 0 rest = some behind) :
    (∀ text, ofLine? line = .ok (some (.conditional text)) →
      Line.endsWithBrace (trimLeft behind) = true ∧ ¬ Callee.OccursIn behind ∨
        Line.closesCondition behind = true) ∧
      ('\n' ∉ rest →
        Line.endsWithBrace (trimLeft behind) = true ∨ Line.closesCondition behind = true →
        ofLine? line = .ok (some (.conditional (trim (Line.uncomment line))))) := by
  obtain ⟨inner, rfl⟩ := Line.behindMatch?_eq_some matched
  have filled : trim (Line.uncomment line) ≠ [] := by
    intro empty
    rw [empty] at opened
    cases opened
  have conditional := Line.isConditional_eq opened
  constructor
  · intro text hread
    obtain ⟨rfl, hconditional⟩ := (ofLine?_eq_conditional filled).mp hread
    rw [conditional] at hconditional
    exact (Line.closesCondition_append hconditional).imp_left
      fun brace => ⟨brace, Callee.not_occursIn brace⟩
  · intro single hbehind
    refine (ofLine?_eq_conditional filled).mpr ⟨rfl, ?_⟩
    rw [conditional]
    exact Line.closesCondition_of_behind single hbehind

theorem Statement.calls_hide_behind_parentheses_nested :
    Line.condition? (trim (Line.uncomment "\x7d Else IF((x) > f(1)) \x7b // delay(5)".toList)) =
        some "(x) > f(1)) \x7b".toList ∧
      Line.behindMatch? 0 "(x) > f(1)) \x7b".toList = some " \x7b".toList ∧
      ofLine? "\x7d Else IF((x) > f(1)) \x7b // delay(5)".toList =
        .ok (some (.conditional "\x7d Else IF((x) > f(1)) \x7b".toList)) ∧
      ¬ Callee.OccursIn " \x7b".toList := by
  have opened : Line.condition?
      (trim (Line.uncomment "\x7d Else IF((x) > f(1)) \x7b // delay(5)".toList)) =
        some "(x) > f(1)) \x7b".toList := by
    decide +kernel
  have matched : Line.behindMatch? 0 "(x) > f(1)) \x7b".toList = some " \x7b".toList := by
    decide +kernel
  have read : ofLine? "\x7d Else IF((x) > f(1)) \x7b // delay(5)".toList =
      .ok (some (.conditional "\x7d Else IF((x) > f(1)) \x7b".toList)) := by
    decide +kernel
  obtain ⟨-, hidden⟩ | closes := (calls_hide_behind_parentheses opened matched).1 _ read
  · exact ⟨opened, matched, read, hidden⟩
  · exact absurd closes (by decide +kernel)

/-- A call behind a condition is passed over if the line ends with its parenthesis. -/
theorem Statement.unterminated_calls_are_hidden :
    ¬ ∀ (line text rest behind : Text), ofLine? line = .ok (some (.conditional text)) →
      Line.isIf text = true → Line.condition? text = some rest →
      Line.behindMatch? 0 rest = some behind → ¬ Callee.OccursIn behind := by
  intro claim
  refine claim "if (x) digitalWrite(13, HIGH)".toList "if (x) digitalWrite(13, HIGH)".toList
    "x) digitalWrite(13, HIGH)".toList " digitalWrite(13, HIGH)".toList (by decide +kernel)
    (by decide +kernel) (by decide +kernel) (by decide +kernel) ?_
  exact ⟨.digitalWrite, " ".toList, "digitalWrite".toList, [], "13, HIGH)".toList,
    by decide +kernel, by decide +kernel, by intro c hc; cases hc⟩

end SketchGrader
