import Mathlib.Data.List.DropRight
import Mathlib.Data.List.TakeWhile
import SketchGrader.Text.Pattern

/-!
# What patterns read

A recogniser splits the text in front of it: what it read, and the rest that it gives back. The
lemmas here say for each building block which texts it reads, so that a pattern is understood by
putting them together.
-/

namespace SketchGrader.Text

/-! ## Blanks -/

theorem trimLeft_isSuffix (t : Text) : trimLeft t <:+ t := List.dropWhile_suffix isBlank

theorem trimRight_isPrefix (t : Text) : trimRight t <+: t := List.rdropWhile_prefix isBlank t

theorem trim_isInfix (t : Text) : trim t <:+: t :=
  (trimRight_isPrefix (trimLeft t)).isInfix.trans (trimLeft_isSuffix t).isInfix

theorem trimLeft_blanks {blanks : Text} (h : ∀ c ∈ blanks, isBlank c = true) (t : Text) :
    trimLeft (blanks ++ t) = trimLeft t :=
  List.dropWhile_append_of_pos h

theorem trimLeft_cons {c : Char} (h : isBlank c = false) (t : Text) :
    trimLeft (c :: t) = c :: t :=
  List.dropWhile_cons_of_neg (by simp [h])

/-- Nothing is trimmed at the front of a text that does not begin with a blank. -/
theorem trimLeft_eq_self {t : Text} (h : ∀ c ∈ t.head?, isBlank c = false) : trimLeft t = t := by
  cases t with
  | nil => rfl
  | cons c rest => exact trimLeft_cons (h c rfl) rest

theorem head?_trimLeft (t : Text) : ∀ c ∈ (trimLeft t).head?, isBlank c = false := by
  intro c hc
  have h := List.head?_dropWhile_not isBlank t
  rw [trimLeft, Option.mem_def] at hc
  rw [hc] at h
  simpa using h

/-- A beginning of a text that does not begin with a blank does not begin with one. -/
theorem head?_of_isPrefix {s t : Text} (hs : s <+: t) (ht : ∀ c ∈ t.head?, isBlank c = false) :
    ∀ c ∈ s.head?, isBlank c = false := by
  intro c hc
  obtain ⟨more, rfl⟩ := hs
  apply ht
  rw [List.head?_append, Option.mem_def.mp hc]
  rfl

theorem head?_trim (t : Text) : ∀ c ∈ (trim t).head?, isBlank c = false :=
  head?_of_isPrefix (trimRight_isPrefix (trimLeft t)) (head?_trimLeft t)

@[simp] theorem trim_trim (t : Text) : trim (trim t) = trim t := by
  rw [trim, trimLeft_eq_self (head?_trim t), trim]
  exact List.rdropWhile_idempotent isBlank (trimLeft t)

/-! ## Fixed texts and words -/

theorem after_eq_some {word t rest : Text} : after word t = some rest ↔ t = word ++ rest := by
  induction word generalizing t with
  | nil => simp [after, eq_comm]
  | cons w word ih =>
      cases t with
      | nil => simp [after]
      | cons c more =>
          by_cases h : c = w
          · simp [after, h, ih]
          · simp [after, h]

theorem afterAnyCase_eq_some {word t rest : Text} :
    afterAnyCase word t = some rest ↔
      ∃ written, t = written ++ rest ∧ written.map foldCase = word := by
  induction word generalizing t with
  | nil => simp [afterAnyCase, eq_comm]
  | cons w word ih =>
      cases t with
      | nil => simp [afterAnyCase]
      | cons c more =>
          by_cases h : foldCase c = w
          · simp only [afterAnyCase, h, beq_self_eq_true, if_true, ih]
            constructor
            · rintro ⟨written, rfl, rfl⟩
              exact ⟨c :: written, rfl, by rw [List.map_cons, h]⟩
            · rintro ⟨written, ht, hw⟩
              cases written with
              | nil => cases hw
              | cons d written =>
                  obtain ⟨rfl, rfl⟩ := List.cons.inj ht
                  exact ⟨written, rfl, (List.cons.inj hw).2⟩
          · simp only [afterAnyCase, beq_iff_eq, h, if_false, reduceCtorEq, false_iff]
            rintro ⟨written, ht, hw⟩
            cases written with
            | nil => cases hw
            | cons d written =>
                obtain ⟨rfl, -⟩ := List.cons.inj ht
                exact h (List.cons.inj hw).1

theorem afterAnyCase_cons {w : Char} {word t rest : Text}
    (h : afterAnyCase (w :: word) t = some rest) :
    ∃ c more, t = c :: more ∧ foldCase c = w ∧ afterAnyCase word more = some rest := by
  cases t with
  | nil => cases h
  | cons c more =>
      rw [afterAnyCase] at h
      split_ifs at h with hc
      exact ⟨c, more, rfl, beq_iff_eq.mp hc, h⟩

theorem after_isSuffix {word t rest : Text} (h : after word t = some rest) : rest <:+ t := by
  rw [after_eq_some.mp h]
  exact List.suffix_append word rest

theorem eq_trimLeft_of_afterBlanks {t rest : Text} (h : afterBlanks t = some rest) :
    rest = trimLeft t := by
  cases t with
  | nil => cases h
  | cons c more =>
      rw [afterBlanks] at h
      split_ifs at h with hc
      rw [trimLeft, List.dropWhile_cons_of_pos hc]
      exact (Option.some.inj h).symm

theorem afterBlanks_isSuffix {t rest : Text} (h : afterBlanks t = some rest) : rest <:+ t := by
  rw [eq_trimLeft_of_afterBlanks h]
  exact trimLeft_isSuffix t

theorem afterBlanksAnd_eq_some {word t rest : Text} :
    afterBlanksAnd word t = some rest ↔ trimLeft t = word ++ rest := after_eq_some

theorem afterBlanksAnd_isSuffix {word t rest : Text} (h : afterBlanksAnd word t = some rest) :
    word ++ rest <:+ t := by
  rw [← afterBlanksAnd_eq_some.mp h]
  exact trimLeft_isSuffix t

/-! ## Runs -/

theorem takeWhile_stops {accept : Char → Bool} {found rest : Text}
    (accepted : ∀ c ∈ found, accept c = true) (stops : ∀ c ∈ rest.head?, accept c = false) :
    (found ++ rest).takeWhile accept = found ∧ (found ++ rest).dropWhile accept = rest := by
  rw [List.takeWhile_append_of_pos accepted, List.dropWhile_append_of_pos accepted]
  cases rest with
  | nil => simp
  | cons c more =>
      have stop : ¬ accept c = true := by simp [stops c rfl]
      rw [List.takeWhile_cons_of_neg stop, List.dropWhile_cons_of_neg stop, List.append_nil]
      exact ⟨rfl, rfl⟩

theorem run_append {accept : Char → Bool} {found rest : Text} (filled : found ≠ [])
    (accepted : ∀ c ∈ found, accept c = true) (stops : ∀ c ∈ rest.head?, accept c = false) :
    run accept (found ++ rest) = some (found, rest) := by
  obtain ⟨taken, left⟩ := takeWhile_stops accepted stops
  rw [run, taken, left]
  cases found with
  | nil => exact absurd rfl filled
  | cons c more => rfl

/-! ## Searches -/

section
variable {α : Type} {recognise : Text → Option (α × Text)}

/-- A find is made at some place of the text. -/
theorem findWord_eq_some {before : Option Char} {t : Text} {found : α × Text}
    (h : findWord recognise before t = some found) :
    ∃ place, place <:+ t ∧ recognise place = some found := by
  induction t generalizing before with
  | nil => cases h
  | cons c rest ih =>
      have later : ∀ before', findWord recognise before' rest = some found →
          ∃ place, place <:+ c :: rest ∧ recognise place = some found := by
        intro before' h'
        obtain ⟨place, hplace, hfound⟩ := ih h'
        exact ⟨place, hplace.trans (List.suffix_cons c rest), hfound⟩
      rw [findWord] at h
      split_ifs at h
      · exact later _ h
      · split at h
        next found' hr =>
          cases h
          exact ⟨c :: rest, List.suffix_rfl, hr⟩
        next => exact later _ h

end

end SketchGrader.Text
