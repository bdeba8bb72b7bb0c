import SketchGrader.Proofs.Patterns
import SketchGrader.Proofs.Uncommented

/-!
# Statement lines and source lines

A body is a contiguous piece of the source without comments. The line in which it begins is counted
at its opening brace, and its own lines are counted from there, so each of them stands in the source
line whose number it is given.
-/

namespace SketchGrader

namespace Text

/-! ## Lines of a piece -/

theorem split_ne_nil (separator : Char) (t : Text) : split separator t ≠ [] := by
  cases t with
  | nil => simp [split]
  | cons c rest =>
      rw [split]
      split_ifs
      · simp
      · split <;> simp

@[simp] theorem lines_newline (t : Text) : lines ('\n' :: t) = [] :: lines t := by
  simp only [lines, split, if_true]

/-- A character that ends no line goes to the front of the first line. -/
theorem lines_cons {c : Char} (hc : c ≠ '\n') (t : Text) :
    ∃ first more, lines t = first :: more ∧ lines (c :: t) = (c :: first) :: more := by
  obtain ⟨first, more, h⟩ := List.exists_cons_of_ne_nil (split_ne_nil '\n' t)
  exact ⟨first, more, h, by simp only [lines, split, if_neg hc, h]⟩

/-- A line feed behind a line without one ends that line. -/
theorem lines_ended {line : Text} (h : '\n' ∉ line) (rest : Text) :
    lines (line ++ '\n' :: rest) = line :: lines rest := by
  induction line with
  | nil => exact lines_newline rest
  | cons c line ih =>
      rw [List.mem_cons, not_or] at h
      obtain ⟨hc, hline⟩ := h
      obtain ⟨first, more, hrest, hcons⟩ := lines_cons (Ne.symm hc) (line ++ '\n' :: rest)
      rw [ih hline, List.cons.injEq] at hrest
      rw [List.cons_append, hcons, ← hrest.1, ← hrest.2]

theorem newline_notMem_lines {t line : Text} (h : line ∈ lines t) : '\n' ∉ line := by
  induction t generalizing line with
  | nil =>
      rw [List.mem_singleton.mp h]
      exact List.not_mem_nil
  | cons c t ih =>
      by_cases hc : c = '\n'
      · rw [hc, lines_newline, List.mem_cons] at h
        obtain rfl | h := h
        · exact List.not_mem_nil
        · exact ih h
      · obtain ⟨first, more, ht, hct⟩ := lines_cons hc t
        rw [hct, List.mem_cons] at h
        obtain rfl | h := h
        · have hfirst : '\n' ∉ first := ih (ht ▸ List.mem_cons_self)
          rw [List.mem_cons, not_or]
          exact ⟨Ne.symm hc, hfirst⟩
        · exact ih (ht ▸ List.mem_cons_of_mem first h)

theorem length_lines (t : Text) : (lines t).length = t.count '\n' + 1 := by
  induction t with
  | nil => rfl
  | cons c rest ih =>
      by_cases hc : c = '\n'
      · rw [hc, lines_newline, List.length_cons, ih, List.count_cons_self]
      · obtain ⟨first, more, hrest, hcons⟩ := lines_cons hc rest
        rw [hrest] at ih
        rw [hcons, List.count_cons_of_ne hc]
        exact ih

/-- Every line of a text is the end of a line of what it is the end of. -/
theorem lines_behind (front : Text) {t line : Text} {i : Nat} (h : (lines t)[i]? = some line) :
    ∃ whole, (lines (front ++ t))[front.count '\n' + i]? = some whole ∧ line <:+ whole := by
  induction front with
  | nil => exact ⟨line, by simpa using h, List.suffix_rfl⟩
  | cons c front ih =>
      obtain ⟨whole, hwhole, hline⟩ := ih
      by_cases hc : c = '\n'
      · have index : (c :: front).count '\n' + i = front.count '\n' + i + 1 := by
          rw [hc, List.count_cons_self]
          omega
        refine ⟨whole, ?_, hline⟩
        rw [index, hc, List.cons_append, lines_newline, List.getElem?_cons_succ]
        exact hwhole
      · obtain ⟨first, more, hrest, hcons⟩ := lines_cons hc (front ++ t)
        rw [List.cons_append, hcons, List.count_cons_of_ne hc]
        rw [hrest] at hwhole
        cases hindex : front.count '\n' + i with
        | zero =>
            rw [hindex, List.getElem?_cons_zero, Option.some.injEq] at hwhole
            refine ⟨c :: first, List.getElem?_cons_zero, ?_⟩
            rw [hwhole]
            exact hline.trans (List.suffix_cons c whole)
        | succ k =>
            rw [hindex, List.getElem?_cons_succ] at hwhole
            exact ⟨whole, by rwa [List.getElem?_cons_succ], hline⟩

/-- Every line of a text is the beginning of a line of what it is the beginning of. -/
theorem lines_before (back : Text) {t line : Text} {i : Nat} (h : (lines t)[i]? = some line) :
    ∃ whole, (lines (t ++ back))[i]? = some whole ∧ line <+: whole := by
  induction t generalizing i line with
  | nil =>
      obtain ⟨first, more, hfirst⟩ := List.exists_cons_of_ne_nil (split_ne_nil '\n' back)
      cases i with
      | zero =>
          cases h
          exact ⟨first, by rw [List.nil_append, lines, hfirst]; rfl, List.nil_prefix⟩
      | succ k => cases h
  | cons c t ih =>
      by_cases hc : c = '\n'
      · rw [hc, lines_newline] at h
        rw [hc, List.cons_append, lines_newline]
        cases i with
        | zero =>
            cases h
            exact ⟨[], rfl, List.nil_prefix⟩
        | succ k => exact ih h
      · obtain ⟨first, more, ht, hct⟩ := lines_cons hc t
        obtain ⟨first', more', htb, hctb⟩ := lines_cons hc (t ++ back)
        rw [hct] at h
        rw [List.cons_append, hctb]
        cases i with
        | zero =>
            cases h
            have hzero : (lines t)[0]? = some first := by rw [ht]; rfl
            obtain ⟨whole, hwhole, hfirst⟩ := ih hzero
            rw [htb] at hwhole
            cases hwhole
            exact ⟨c :: first', rfl, List.cons_prefix_cons.mpr ⟨rfl, hfirst⟩⟩
        | succ k =>
            have hsucc : (lines t)[k + 1]? = some line := by rw [ht]; exact h
            obtain ⟨whole, hwhole, hline⟩ := ih hsucc
            rw [htb] at hwhole
            exact ⟨whole, hwhole, hline⟩

/-- Every line of a piece of a text stands in a line of the text. -/
theorem lines_within (front back : Text) {t line : Text} {i : Nat}
    (h : (lines t)[i]? = some line) :
    ∃ whole, (lines (front ++ t ++ back))[front.count '\n' + i]? = some whole ∧
      line <:+: whole := by
  obtain ⟨part, hpart, hline⟩ := lines_behind front h
  obtain ⟨whole, hwhole, hpart'⟩ := lines_before back hpart
  exact ⟨whole, hwhole, hline.isInfix.trans hpart'.isInfix⟩

end Text

/-! ## Where the bodies stand -/

namespace Source

open Text

/-- A header ends with its opening brace, and the rest stands behind it. -/
theorem header?_isSuffix {b : Body} {t rest : Text} (h : header? b t = some ((), rest)) :
    '{' :: rest <:+ t := by
  simp only [header?, Option.bind_eq_bind, Option.bind_eq_some_iff, Option.pure_def,
    Option.some.injEq, Prod.mk.injEq, true_and] at h
  obtain ⟨t₁, h₁, t₂, h₂, t₃, h₃, t₄, h₄, t₅, h₅, t₆, h₆, rfl⟩ := h
  have parameters : ((after "void".toList (trimLeft t₄)).getD (trimLeft t₄)) <:+ t₄ := by
    cases hv : after "void".toList (trimLeft t₄) with
    | none => exact trimLeft_isSuffix t₄
    | some inside => exact (after_isSuffix hv).trans (trimLeft_isSuffix t₄)
  have name : t₃ <:+ t := (after_isSuffix h₃).trans
    ((afterBlanks_isSuffix h₂).trans (after_isSuffix h₁))
  have opened : t₄ <:+ t :=
    (List.suffix_cons '(' t₄).trans ((afterBlanksAnd_isSuffix h₄).trans name)
  have closed : t₅ <:+ t :=
    (List.suffix_cons ')' t₅).trans ((afterBlanksAnd_isSuffix h₅).trans (parameters.trans opened))
  exact (afterBlanksAnd_isSuffix h₆).trans closed

theorem findWord_header {b : Body} {before : Option Char} {t rest : Text}
    (h : findWord (header? b) before t = some ((), rest)) : '{' :: rest <:+ t := by
  obtain ⟨place, hplace, hfound⟩ := findWord_eq_some h
  exact (header?_isSuffix hfound).trans hplace

theorem blockText_isPrefix (depth : Nat) (quote : Option Char) (before : Char) (t : Text) :
    blockText depth quote before t <+: t := by
  induction t generalizing depth quote before with
  | nil => exact List.nil_prefix
  | cons c rest ih =>
      have kept : ∀ depth' quote', c :: blockText depth' quote' c rest <+: c :: rest :=
        fun depth' quote' => List.cons_prefix_cons.mpr ⟨rfl, ih depth' quote' c⟩
      cases quote with
      | some q =>
          simp only [blockText]
          split_ifs
          · exact kept depth none
          · exact kept depth (some q)
      | none =>
          simp only [blockText]
          split_ifs
          · exact kept depth (some c)
          · exact kept (depth + 1) none
          · exact List.nil_prefix
          · exact kept (depth - 1) none
          · exact kept depth none

/-- A body is a piece of the source without comments, and its line is counted in front of it. -/
theorem body?_eq_some {b : Body} {clean text : Text} {first : Int}
    (h : body? b clean = some (text, first)) :
    ∃ front back, clean = front ++ text ++ back ∧ first = front.count '\n' + 1 := by
  obtain ⟨⟨⟨⟩, rest⟩, hfound, hbody⟩ := Option.map_eq_some_iff.mp h
  obtain ⟨rfl, rfl⟩ := Prod.mk.inj hbody
  obtain ⟨front, hfront⟩ := (List.suffix_cons '{' rest).trans (findWord_header hfound)
  obtain ⟨back, hback⟩ := blockText_isPrefix 1 none '{' rest
  refine ⟨front, back, by rw [List.append_assoc, hback, hfront], ?_⟩
  rw [← hfront, List.count_append]
  omega

/-- Each body of a program is the one that was cut out, or empty. -/
theorem program_eq_ok {clean : Text} {p : Program} (h : program clean = .ok p) (b : Body) :
    body? b clean = some (p.body b, p.firstLine b) ∨ p.body b = [] := by
  unfold program at h
  split at h
  next => cases h
  next s sl l ll hs hl =>
    cases h
    cases b with
    | setup => exact .inl hs
    | loop => exact .inl hl
  next s sl hs hl =>
    cases h
    cases b with
    | setup => exact .inl hs
    | loop => exact .inr rfl
  next l ll hs hl =>
    cases h
    cases b with
    | setup => exact .inr rfl
    | loop => exact .inl hl

theorem draft_eq_ok {source : Text} {p : Program} :
    draft source = .ok p ↔ trim source ≠ [] ∧ Bracket.check source = .ok () ∧
      Library.check source = .ok () ∧ program (stripComments source) = .ok p := by
  by_cases blank : trim source = []
  · simp [draft, blank, bind, Except.bind]
  · cases hb : Bracket.check source with
    | error f => simp [draft, blank, hb, bind, Except.bind]
    | ok u =>
        cases hl : Library.check source with
        | error f => simp [draft, blank, hb, hl, bind, Except.bind]
        | ok v => simp [draft, blank, hb, hl, bind, Except.bind]

end Source

/-! ## Where the statements stand -/

namespace Program

theorem mem_numbered {first number : Int} {texts : List Text} {text : Text}
    (h : (number, text) ∈ numbered first texts) :
    ∃ (i : Nat) (raw : Text), texts[i]? = some raw ∧ number = first + i ∧
      text = Text.trim raw ∧ text ≠ [] := by
  induction texts generalizing first with
  | nil => cases h
  | cons raw rest ih =>
      have later : (number, text) ∈ numbered (first + 1) rest →
          ∃ (i : Nat) (raw' : Text), (raw :: rest)[i]? = some raw' ∧ number = first + i ∧
            text = Text.trim raw' ∧ text ≠ [] := by
        intro h'
        obtain ⟨i, raw', hraw, hnumber, htext, hne⟩ := ih h'
        refine ⟨i + 1, raw', hraw, ?_, htext, hne⟩
        rw [hnumber]
        omega
      simp only [numbered] at h
      split_ifs at h with skipped
      · exact later h
      · obtain hhead | htail := List.mem_cons.mp h
        · obtain ⟨rfl, rfl⟩ := Prod.mk.inj hhead
          refine ⟨0, raw, rfl, (Int.add_zero _).symm, rfl, ?_⟩
          intro empty
          simp [empty] at skipped
        · exact later htail

/-- A statement line is a piece of the line of the source that has its number. -/
theorem statementLines_within {clean : Text} {p : Program} (h : Source.program clean = .ok p)
    {b : Body} {number : Int} {text : Text} (hline : (number, text) ∈ p.statementLines b) :
    1 ≤ number ∧ ∃ whole, (Text.lines clean)[(number - 1).toNat]? = some whole ∧
      text <:+: whole ∧ Text.trim text = text := by
  obtain ⟨i, raw, hraw, rfl, rfl, hne⟩ := mem_numbered hline
  obtain hbody | hempty := Source.program_eq_ok h b
  · obtain ⟨front, back, hclean, hfirst⟩ := Source.body?_eq_some hbody
    obtain ⟨whole, hwhole, hraw'⟩ := Text.lines_within front back hraw
    have index : (p.firstLine b + i - 1).toNat = front.count '\n' + i := by omega
    refine ⟨by omega, whole, ?_, (Text.trim_isInfix raw).trans hraw', Text.trim_trim raw⟩
    rw [index, hclean]
    exact hwhole
  · rw [hempty] at hraw
    cases i with
    | zero =>
        cases hraw
        exact absurd rfl hne
    | succ k => cases hraw

end Program

theorem Program.ofSource_eq_ok {source : Text} {p : Program} (h : ofSource source = .ok p) :
    Source.draft source = .ok p ∧ PinUse.check p = .ok () := by
  unfold ofSource read at h
  split at h
  next => cases h
  next p' hdraft =>
    dsimp only at h
    split at h
    next => cases h
    next hcheck =>
      cases h
      exact ⟨hdraft, hcheck⟩

/-- Once comments are blanked, a text stands trimmed in the source line with the given number. -/
def Source.StandsAt (source : Text) (number : Int) (text : Text) : Prop :=
  1 ≤ number ∧ number ≤ (Text.lines source).length ∧
    ∃ whole, (Text.lines (stripComments source))[(number - 1).toNat]? = some whole ∧
      text <:+: whole ∧ Text.trim text = text

theorem Program.standsAt {source : Text} {p : Program} (h : Source.draft source = .ok p)
    {b : Body} {number : Int} {text : Text} (hline : (number, text) ∈ p.statementLines b) :
    Source.StandsAt source number text := by
  obtain ⟨-, -, -, hprogram⟩ := Source.draft_eq_ok.mp h
  obtain ⟨positive, whole, hwhole, htext, htrim⟩ := statementLines_within hprogram hline
  have count : (Text.lines (Source.stripComments source)).length = (Text.lines source).length := by
    rw [Text.length_lines, Text.length_lines, Source.count_newline_stripComments]
  obtain ⟨bound, -⟩ := List.getElem?_eq_some_iff.mp hwhole
  exact ⟨positive, by omega, whole, hwhole, htext, htrim⟩

end SketchGrader
