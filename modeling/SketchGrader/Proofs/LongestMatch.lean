import SketchGrader.Proofs.Lexing

/-!
# The longest token

Where a text begins with several tokens, as `13OUT` begins with `1` and with `13`, the longest one
is read. With the forms of the tokens this says all about reading: a text is cut into the given
tokens if and only if each of them is the longest one at its place and only blanks stand in front
of it.
-/

namespace SketchGrader

namespace Text

/-- No word goes on here. -/
def Stops (t : Text) : Prop := ∀ c ∈ t.head?, isWord c = false ∧ c ≠ '.'

theorem stops_nil : Stops [] := by
  intro c hc
  cases hc

theorem stops_blank {c : Char} (h : isBlank c = true) (t : Text) : Stops (c :: t) := by
  intro d hd
  cases hd
  refine ⟨isWord_of_isBlank h, ?_⟩
  rintro rfl
  cases h

end Text

namespace Token

open Text

/-! ## The characters of a token -/

theorem IsNamePart.isWord {part : Text} (h : IsNamePart part) :
    ∀ c ∈ part, Text.isWord c = true := by
  obtain ⟨c, rest, rfl, starts, hrest⟩ := h
  exact List.forall_mem_cons.mpr ⟨isWord_of_startsName starts, hrest⟩

theorem forall_isMark (p : Char → Prop) (h : p '(' ∧ p ')' ∧ p ',' ∧ p ';') {c : Char}
    (hmark : isMark c = true) : p c := by
  simp only [isMark, Bool.or_eq_true, beq_iff_eq] at hmark
  obtain ((rfl | rfl) | rfl) | rfl := hmark
  · exact h.1
  · exact h.2.1
  · exact h.2.2.1
  · exact h.2.2.2

/-- A token does not begin with a blank, and it goes on with word characters and dots. -/
theorem Lexeme.eq_cons {token : Token} (h : Lexeme token) :
    ∃ c rest, token.text = c :: rest ∧ isBlank c = false ∧
      ∀ d ∈ rest, isWord d = true ∨ d = '.' := by
  cases h with
  | num h =>
      obtain ⟨digits, filled, hdigits, rfl | ⟨sign, hsign, rfl⟩⟩ := h
      · obtain ⟨c, rest, rfl⟩ := List.exists_cons_of_ne_nil filled
        obtain ⟨hc, hrest⟩ := List.forall_mem_cons.mp hdigits
        exact ⟨c, rest, rfl, isBlank_of_isDigit hc,
          fun d hd => .inl (isWord_of_isDigit (hrest d hd))⟩
      · have solid : isBlank sign = false := by
          obtain rfl | rfl := hsign
          all_goals rfl
        exact ⟨sign, digits, rfl, solid, fun d hd => .inl (isWord_of_isDigit (hdigits d hd))⟩
  | name h =>
      obtain ⟨c, rest, rfl, starts, hrest⟩ | ⟨front, back, rfl, hfront, hback⟩ := h
      · exact ⟨c, rest, rfl, isBlank_of_isWord (isWord_of_startsName starts),
          fun d hd => .inl (hrest d hd)⟩
      · obtain ⟨c, rest, rfl, starts, hrest⟩ := hfront
        refine ⟨c, rest ++ '.' :: back, rfl, isBlank_of_isWord (isWord_of_startsName starts), ?_⟩
        rw [List.forall_mem_append, List.forall_mem_cons]
        exact ⟨fun d hd => .inl (hrest d hd), .inr rfl, fun d hd => .inl (hback.isWord d hd)⟩
  | @mark c h =>
      have solid : isBlank c = false :=
        forall_isMark (fun c => isBlank c = false) ⟨rfl, rfl, rfl, rfl⟩ h
      exact ⟨c, [], rfl, solid, List.forall_mem_nil _⟩

theorem Lexeme.append_ne_nil {token : Token} (h : Lexeme token) (rest : Text) :
    token.text ++ rest ≠ [] := by
  obtain ⟨c, more, htext, -, -⟩ := h.eq_cons
  rw [htext]
  exact List.cons_ne_nil c (more ++ rest)

theorem Lexeme.isBlank {token : Token} (h : Lexeme token) :
    ∀ c ∈ token.text, Text.isBlank c = false := by
  obtain ⟨c, rest, htext, solid, hrest⟩ := h.eq_cons
  rw [htext, List.forall_mem_cons]
  refine ⟨solid, fun d hd => ?_⟩
  obtain word | rfl := hrest d hd
  · exact isBlank_of_isWord word
  · rfl

/-! ## What is read at one place -/

theorem isDigit_of_startsName {c : Char} (h : startsName c = true) : isDigit c = false :=
  forall_ascii (fun c => startsName c = true → isDigit c = false) (by decide)
    (ascii_of_startsName h) h

/-- A character of a class that holds no signs is no sign. -/
theorem isSign_eq_false {p : Char → Bool} {c : Char} (h : p c = true) (minus : p '-' = false)
    (plus : p '+' = false) : (c == '-' || c == '+') = false := by
  rw [Bool.or_eq_false_iff, beq_eq_false_iff_ne, beq_eq_false_iff_ne]
  constructor
  · rintro rfl
    rw [minus] at h
    cases h
  · rintro rfl
    rw [plus] at h
    cases h

theorem next?_mark {c : Char} (h : isMark c = true) (rest : Text) :
    next? (c :: rest) = some (mark c, rest) :=
  forall_isMark (fun c => next? (c :: rest) = some (mark c, rest)) ⟨rfl, rfl, rfl, rfl⟩ h

theorem takeWhile_isPrefix_spanName (t : Text) : t.takeWhile isWord <+: (spanName t).1 := by
  unfold spanName
  split
  next =>
    split_ifs
    · exact List.prefix_append _ _
    · exact List.prefix_rfl
  next => exact List.prefix_rfl

/-- A name that a text begins with is read whole, and possibly more behind it. -/
theorem isPrefix_spanName {name : Text} (h : IsFullName name) (rest : Text) :
    name <+: (spanName (name ++ rest)).1 := by
  obtain part | ⟨front, back, rfl, hfront, hback⟩ := h
  · have taken : (name ++ rest).takeWhile isWord = name ++ rest.takeWhile isWord :=
      List.takeWhile_append_of_pos part.isWord
    have read := takeWhile_isPrefix_spanName (name ++ rest)
    rw [taken] at read
    exact (List.prefix_append name _).trans read
  · -- The first word ends at the dot, so the second one is read behind it.
    have word := hback.isWord
    obtain ⟨d, more, rfl, starts, -⟩ := hback
    have dot : ∀ c ∈ ('.' :: (d :: more ++ rest)).head?, isWord c = false := by
      intro c hc
      cases hc
      decide
    obtain ⟨taken, left⟩ := takeWhile_stops hfront.isWord dot
    have goesOn : (d :: more ++ rest).takeWhile isWord = d :: more ++ rest.takeWhile isWord :=
      List.takeWhile_append_of_pos word
    rw [List.cons_append] at taken left goesOn
    have written : front ++ '.' :: d :: more ++ rest = front ++ '.' :: d :: (more ++ rest) := by
      simp
    simp only [written, spanName, taken, left, starts, if_true, goesOn]
    exact ⟨rest.takeWhile isWord, by simp⟩

/-- From a text that begins with a token, one of its kind is read that is at least as long. -/
theorem exists_next? {token : Token} (h : Lexeme token) (rest : Text) :
    ∃ found behind, next? (token.text ++ rest) = some (found, behind) ∧
      found.kind = token.kind ∧ token.text <+: found.text := by
  cases h with
  | num h =>
      obtain ⟨digits, filled, hdigits, hwritten⟩ := h
      obtain ⟨d, more, rfl⟩ := List.exists_cons_of_ne_nil filled
      obtain ⟨hd, hmore⟩ := List.forall_mem_cons.mp hdigits
      obtain rfl | ⟨sign, hsign, rfl⟩ := hwritten
      · have taken : (more ++ rest).takeWhile isDigit = more ++ rest.takeWhile isDigit :=
          List.takeWhile_append_of_pos hmore
        refine ⟨⟨.num, d :: (more ++ rest.takeWhile isDigit)⟩, (more ++ rest).dropWhile isDigit,
          ?_, rfl, ⟨rest.takeWhile isDigit, rfl⟩⟩
        simp only [List.cons_append, next?, isSign_eq_false hd rfl rfl, hd, Bool.false_eq_true,
          if_false, if_true, taken]
      · have taken : (d :: more ++ rest).takeWhile isDigit = d :: more ++ rest.takeWhile isDigit :=
          List.takeWhile_append_of_pos hdigits
        have signed : (sign == '-' || sign == '+') = true := by
          simpa only [Bool.or_eq_true, beq_iff_eq] using hsign
        rw [List.cons_append] at taken
        refine ⟨⟨.num, sign :: d :: (more ++ rest.takeWhile isDigit)⟩,
          (d :: (more ++ rest)).dropWhile isDigit, ?_, rfl, ⟨rest.takeWhile isDigit, rfl⟩⟩
        simp only [List.cons_append, next?, signed, if_true, taken]
  | @name name h =>
      have longer := isPrefix_spanName h rest
      have begins : ∃ c more, name = c :: more ∧ startsName c = true := by
        obtain ⟨c, more, rfl, starts, -⟩ | ⟨_, back, rfl, ⟨c, more, rfl, starts, -⟩, -⟩ := h
        · exact ⟨c, more, rfl, starts⟩
        · exact ⟨c, more ++ '.' :: back, rfl, starts⟩
      obtain ⟨c, more, rfl, starts⟩ := begins
      refine ⟨⟨.name, (spanName (c :: more ++ rest)).1⟩, (spanName (c :: more ++ rest)).2, ?_, rfl,
        longer⟩
      simp only [List.cons_append, next?, isSign_eq_false starts rfl rfl,
        isDigit_of_startsName starts, starts, Bool.false_eq_true, if_false, if_true]
  | mark h => exact ⟨_, _, next?_mark h rest, rfl, List.prefix_rfl⟩

/-- No longer token stands at the beginning of the text. -/
def Longest (token : Token) (t : Text) : Prop :=
  ∀ other, Lexeme other → other.text <+: t → other.text.length ≤ token.text.length

/-- The longest token at the beginning of a text is read, and nothing else. -/
theorem next?_eq_some_iff {t rest : Text} {token : Token} :
    next? t = some (token, rest) ↔ Lexeme token ∧ t = token.text ++ rest ∧ Longest token t := by
  constructor
  · intro h
    obtain ⟨written, lexeme⟩ := next?_eq_some h
    refine ⟨lexeme, written, fun other hother begins => ?_⟩
    obtain ⟨more, rfl⟩ := begins
    obtain ⟨found, behind, hfound, -, longer⟩ := exists_next? hother more
    rw [h] at hfound
    cases hfound
    exact longer.length_le
  · rintro ⟨lexeme, rfl, longest⟩
    obtain ⟨⟨kind, text⟩, behind, hfound, hkind, longer⟩ := exists_next? lexeme rest
    obtain ⟨written, hlexeme⟩ := next?_eq_some hfound
    have same : token.text = text :=
      longer.eq_of_length_le (longest _ hlexeme ⟨behind, written.symm⟩)
    cases same
    cases hkind
    rw [hfound, List.append_cancel_left written]

/-- A token is the longest where no word goes on behind it. -/
theorem longest_of_stops {token : Token} {rest : Text} (h : Lexeme token) (stops : Stops rest) :
    Longest token (token.text ++ rest) := by
  intro other hother begins
  by_contra longer
  obtain ⟨more, hmore⟩ : token.text <+: other.text :=
    List.prefix_of_prefix_length_le (List.prefix_append _ _) begins (by omega)
  rw [← hmore, List.prefix_append_right_inj] at begins
  cases more with
  | nil =>
      rw [List.append_nil] at hmore
      rw [hmore] at longer
      exact longer (Nat.le_refl _)
  | cons c more =>
      obtain ⟨first, behind, htext, -, -⟩ := h.eq_cons
      obtain ⟨_, chars, hchars, -, words⟩ := hother.eq_cons
      rw [← hmore, htext, List.cons_append] at hchars
      obtain ⟨-, rfl⟩ := List.cons.inj hchars
      obtain ⟨behindMore, rfl⟩ := begins
      obtain ⟨noWord, noDot⟩ := stops c rfl
      obtain word | dot := words c (by simp)
      · rw [noWord] at word
        cases word
      · exact noDot dot

/-- A token is the longest, if nothing goes on with it. A mark ends by itself. -/
theorem longest_of_ends {token : Token} {rest : Text} (h : Lexeme token)
    (ends : token.kind = .punct ∨ Stops rest) : Longest token (token.text ++ rest) := by
  obtain hkind | stops := ends
  · cases h with
    | num => cases hkind
    | name => cases hkind
    | mark h => exact (next?_eq_some_iff.mp (next?_mark h rest)).2.2
  · exact longest_of_stops h stops

/-! ## What is read of a whole text -/

/-- The text is cut into the tokens: each is the longest one at its place, and only blanks stand in
front of it. -/
inductive Cut : List Token → Text → Prop
  | nil : Cut [] []
  | cons {blanks rest : Text} {token : Token} {tokens : List Token}
      (hblanks : ∀ c ∈ blanks, isBlank c = true) (lexeme : Lexeme token)
      (longest : Longest token (token.text ++ rest)) (others : Cut tokens rest) :
      Cut (token :: tokens) (blanks ++ (token.text ++ rest))

theorem trimLeft_lexeme {blanks : Text} {token : Token} (hblanks : ∀ c ∈ blanks, isBlank c = true)
    (h : Lexeme token) (rest : Text) :
    trimLeft (blanks ++ (token.text ++ rest)) = token.text ++ rest := by
  obtain ⟨c, more, htext, solid, -⟩ := h.eq_cons
  rw [trimLeft_blanks hblanks, htext]
  exact trimLeft_cons solid _

theorem eq_nil_of_readAll {t : Text} (h : readAll t = some []) : t = [] := by
  by_contra filled
  rw [readAll_eq filled] at h
  obtain ⟨found, -, hread⟩ := Option.bind_eq_some_iff.mp h
  obtain ⟨tokens, -, hcons⟩ := Option.map_eq_some_iff.mp hread
  cases hcons

/-- Reading is cutting at the longest tokens. -/
theorem readAll_eq_some_iff {t : Text} {tokens : List Token} :
    readAll t = some tokens ↔ Cut tokens t := by
  constructor
  · intro h
    induction tokens generalizing t with
    | nil =>
        rw [eq_nil_of_readAll h]
        exact .nil
    | cons token tokens ih =>
        obtain ⟨rest, hnext, hrest⟩ := next?_of_readAll h
        obtain ⟨lexeme, written, longest⟩ := next?_eq_some_iff.mp hnext
        have laid : t = t.takeWhile isBlank ++ (token.text ++ rest) := by
          rw [← written]
          exact List.takeWhile_append_dropWhile.symm
        rw [written] at longest
        rw [laid]
        exact .cons (fun c hc => List.mem_takeWhile_imp hc) lexeme longest (ih hrest)
  · intro h
    induction h with
    | nil => exact readAll_nil
    | @cons blanks rest token tokens hblanks lexeme longest _ ih =>
        have found : next? (token.text ++ rest) = some (token, rest) :=
          next?_eq_some_iff.mpr ⟨lexeme, rfl, longest⟩
        have filled : blanks ++ (token.text ++ rest) ≠ [] :=
          List.append_ne_nil_of_right_ne_nil blanks (lexeme.append_ne_nil rest)
        rw [readAll_eq filled, trimLeft_lexeme hblanks lexeme, found, Option.bind_some, ih]
        rfl

theorem Cut.isBlank_getLast? {t : Text} {tokens : List Token} (h : Cut tokens t) :
    ∀ c ∈ t.getLast?, isBlank c = false := by
  induction h with
  | nil =>
      intro c hc
      cases hc
  | @cons blanks rest token tokens _ lexeme _ _ ih =>
      intro c hc
      rw [List.getLast?_append_of_ne_nil _ (lexeme.append_ne_nil rest)] at hc
      cases rest with
      | nil =>
          rw [List.append_nil] at hc
          exact lexeme.isBlank c (List.mem_of_getLast? hc)
      | cons d more =>
          rw [List.getLast?_append_of_ne_nil _ (List.cons_ne_nil d more)] at hc
          exact ih c hc

/-- No blanks stand at the end of a text that is cut into tokens. -/
theorem Cut.trimRight_eq {t : Text} {tokens : List Token} (h : Cut tokens t) : trimRight t = t := by
  apply List.rdropWhile_eq_self_iff.mpr
  intro filled blank
  rw [h.isBlank_getLast? _ (List.getLast_mem_getLast? filled)] at blank
  cases blank

theorem tokenize_of_cut {t : Text} {tokens : List Token} (h : Cut tokens t) :
    tokenize t = some tokens := by
  rw [tokenize, h.trimRight_eq]
  exact readAll_eq_some_iff.mpr h

end Token

end SketchGrader
