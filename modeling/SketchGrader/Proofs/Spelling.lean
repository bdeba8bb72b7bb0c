import Mathlib.Data.List.Chain
import SketchGrader.Proofs.CallGrammar
import SketchGrader.Proofs.LongestMatch

/-!
# Spellings of a statement

A call may be written in many ways: its name and its keyword in any case, its numbers with a sign
and with zeros in front, blanks around all its parts, with or without a semicolon, and with a
comment behind it. All of them are read as the same statement.
-/

namespace SketchGrader

open Text

/-! ## How calls are written -/

namespace Text

/-- The same text up to the case of ASCII letters. -/
def SameLetters (a b : Text) : Prop := a.map Char.toLower = b.map Char.toLower

/-- What an identifier may go on with. -/
def isIdentifierChar (c : Char) : Bool := c.isAlphanum || c == '_'

/-- An ASCII identifier: a letter or an underscore, then letters, digits and underscores. -/
def isIdentifier : Text → Bool
  | [] => false
  | c :: rest => (c.isAlpha || c == '_') && rest.all isIdentifierChar

/-- The decimal digits of a number, with zeros in front. -/
def decimal (zeros n : Nat) : Text := List.replicate zeros '0' ++ Nat.toDigits 10 n

/-- A whole number in decimal, with an optional sign and within the limit on digits. -/
inductive Numeral : Int → Text → Prop
  | bare {zeros n : Nat} (short : (decimal zeros n).length ≤ numeralLimit) :
      Numeral n (decimal zeros n)
  | plus {zeros n : Nat} (short : (decimal zeros n).length ≤ numeralLimit) :
      Numeral n ('+' :: decimal zeros n)
  | minus {zeros n : Nat} (short : (decimal zeros n).length ≤ numeralLimit) :
      Numeral (-n) ('-' :: decimal zeros n)

/-- Words in a row, with blanks in front of each. -/
inductive Spaced : List Text → Text → Prop
  | nil : Spaced [] []
  | cons {blanks word t : Text} {words : List Text} (hblanks : ∀ c ∈ blanks, isBlank c = true)
      (rest : Spaced words t) : Spaced (word :: words) (blanks ++ (word ++ t))

end Text

/-- The arguments of a call that stands for a statement, as they are written. -/
inductive Callee.Spells : Callee → List Text → Statement → Prop
  | pinMode {pin : Int} {keyword a b : Text} (ha : Numeral pin a)
      (hkeyword : isIdentifier keyword = true) (hb : SameLetters b keyword) :
      Spells .pinMode [a, b] (.pinMode pin (keyword.map Char.toUpper))
  | digitalWrite {pin : Int} {keyword a b : Text} (ha : Numeral pin a)
      (hkeyword : isIdentifier keyword = true) (hb : SameLetters b keyword) :
      Spells .digitalWrite [a, b] (.digitalWrite pin (keyword.map Char.toUpper))
  | setDuty {pin percent : Int} {a b : Text} (ha : Numeral pin a) (hb : Numeral percent b) :
      Spells .setDuty [a, b] (.setDuty pin percent)
  | analogWrite {pin value : Int} {a b : Text} (ha : Numeral pin a) (hb : Numeral value b) :
      Spells .analogWrite [a, b] (.analogWrite pin value)
  | delay {ms : Int} {a : Text} (ha : Numeral ms a) : Spells .delay [a] (.wait ms)
  | timerStart (timer : Timer) : Spells (.timerStart timer) [] (.timerStart timer none)
  | timerPeriod {period : Int} {a : Text} (ha : Numeral period a) :
      Spells (.timerStart .one) [a] (.timerStart .one (some period))
  | timerPwm (timer : Timer) {pin duty : Int} {a b : Text} (ha : Numeral pin a)
      (hb : Numeral duty b) : Spells (.timerPwm timer) [a, b] (.timerPwm timer pin duty)
  | timerStop (timer : Timer) : Spells (.timerStop timer) [] (.timerStop timer)

/-- A line on which the statement is written: the name of its call in any case, its arguments
between parentheses and with commas, an optional semicolon, blanks around all of these, and an
optional comment. -/
inductive Statement.Writes (statement : Statement) : Text → Prop
  | intro {callee : Callee} {name : Text} {args ending : List Text} {code margin comment : Text}
      (named : SameLetters name callee.key.toList) (spelled : callee.Spells args statement)
      (hending : ending = [] ∨ ending = [[';']])
      (laid : Spaced (name :: ['('] :: (args.intersperse [','] ++ [')'] :: ending)) code)
      (hmargin : ∀ c ∈ margin, isBlank c = true)
      (hcomment : comment = [] ∨ ∃ remark, comment = '/' :: '/' :: remark) :
      Writes statement (code ++ (margin ++ comment))

/-! ## ASCII characters -/

namespace Text

theorem lowerChar_of_ascii {c : Char} (ascii : c.toNat < 128) : lowerChar c = [c.toLower] :=
  forall_ascii (fun c => lowerChar c = [c.toLower]) (by decide) ascii

theorem upperChar_of_ascii {c : Char} (ascii : c.toNat < 128) : upperChar c = [c.toUpper] :=
  forall_ascii (fun c => upperChar c = [c.toUpper]) (by decide) ascii

theorem foldCase_of_ascii {c : Char} (ascii : c.toNat < 128) : foldCase c = c.toLower :=
  forall_ascii (fun c => foldCase c = c.toLower) (by decide) ascii

theorem toUpper_toLower {c : Char} (ascii : c.toNat < 128) : c.toLower.toUpper = c.toUpper :=
  forall_ascii (fun c => c.toLower.toUpper = c.toUpper) (by decide) ascii

theorem toLower_of_wide {c : Char} (wide : ¬ c.toNat < 128) : c.toLower = c := by
  apply dif_neg
  rintro ⟨-, h⟩
  have : c.toNat ≤ 90 := UInt32.le_iff_toNat_le.mp h
  omega

theorem ascii_of_toLower {c : Char} (h : c.toLower.toNat < 128) : c.toNat < 128 := by
  by_contra wide
  rw [toLower_of_wide wide] at h
  exact wide h

/-- A property of characters that does not depend on the case of ASCII letters. -/
theorem caseless {α : Type} (f : Char → α)
    (h : ∀ n < 128, f (Char.ofNat n).toLower = f (Char.ofNat n)) (c : Char) :
    f c.toLower = f c := by
  by_cases ascii : c.toNat < 128
  · exact forall_ascii (fun c => f c.toLower = f c) h ascii
  · rw [toLower_of_wide ascii]

/-! ## Identifiers and names -/

theorem isIdentifier_map_toLower (t : Text) :
    isIdentifier (t.map Char.toLower) = isIdentifier t := by
  cases t with
  | nil => rfl
  | cons c rest =>
      have first := caseless (fun c => c.isAlpha || c == '_') (by decide) c
      have others : (rest.map Char.toLower).all isIdentifierChar = rest.all isIdentifierChar := by
        rw [List.all_map]
        exact congrArg rest.all (funext (caseless isIdentifierChar (by decide)))
      simp only [List.map_cons, isIdentifier, others]
      rw [first]

theorem SameLetters.isIdentifier_eq {a b : Text} (h : SameLetters a b) :
    isIdentifier a = isIdentifier b := by
  rw [← isIdentifier_map_toLower a, h, isIdentifier_map_toLower]

theorem ascii_of_isIdentifierChar {c : Char} (h : isIdentifierChar c = true) : c.toNat < 128 := by
  have below {bound : UInt32} (hb : bound.toNat < 128) (hc : c.val ≤ bound) : c.toNat < 128 :=
    (UInt32.le_iff_toNat_le.mp hc).trans_lt hb
  obtain word | underscore := (Bool.or_eq_true _ _).mp h
  · obtain letter | digit := (Bool.or_eq_true _ _).mp word
    · obtain upper | lower := (Bool.or_eq_true _ _).mp letter
      · exact below (by decide) (of_decide_eq_true upper).2
      · exact below (by decide) (of_decide_eq_true ((Bool.and_eq_true _ _).mp lower).2)
    · exact below (by decide) (of_decide_eq_true ((Bool.and_eq_true _ _).mp digit).2)
  · rw [beq_iff_eq.mp underscore]
    decide

theorem isWord_of_isIdentifierChar {c : Char} (h : isIdentifierChar c = true) : isWord c = true :=
  forall_ascii (fun c => isIdentifierChar c = true → isWord c = true) (by decide)
    (ascii_of_isIdentifierChar h) h

theorem eq_cons_of_isIdentifier {t : Text} (h : isIdentifier t = true) :
    (∃ c rest, t = c :: rest ∧ startsName c = true) ∧ ∀ c ∈ t, isIdentifierChar c = true := by
  cases t with
  | nil => cases h
  | cons c rest =>
      rw [isIdentifier, Bool.and_eq_true] at h
      have first : isIdentifierChar c = true := by
        rw [isIdentifierChar, Char.isAlphanum, Bool.or_right_comm, h.1, Bool.true_or]
      have starts : startsName c = true :=
        forall_ascii (fun c => (c.isAlpha || c == '_') = true → startsName c = true) (by decide)
          (ascii_of_isIdentifierChar first) h.1
      exact ⟨⟨c, rest, rfl, starts⟩, List.forall_mem_cons.mpr ⟨first, List.all_eq_true.mp h.2⟩⟩

/-- A name: an identifier, or two of them with a dot in between. -/
def IsName (t : Text) : Prop :=
  isIdentifier t = true ∨
    ∃ a b, t = a ++ '.' :: b ∧ isIdentifier a = true ∧ isIdentifier b = true

theorem SameLetters.isName {a b : Text} (h : SameLetters a b) (hb : IsName b) : IsName a := by
  obtain hb | ⟨front, back, rfl, hfront, hback⟩ := hb
  · exact .inl (h.isIdentifier_eq.trans hb)
  · rw [SameLetters, List.map_append] at h
    obtain ⟨front', rest, rfl, hfront', hrest⟩ := List.map_eq_append_iff.mp h
    obtain ⟨dot, back', rfl, hdot, hback'⟩ := List.map_eq_cons_iff.mp hrest
    have same : dot = '.' := by
      have ascii : dot.toNat < 128 := ascii_of_toLower (by rw [hdot]; decide)
      exact forall_ascii (fun c => c.toLower = Char.toLower '.' → c = '.') (by decide) ascii hdot
    rw [same]
    exact .inr ⟨front', back', rfl, (SameLetters.isIdentifier_eq hfront').trans hfront,
      (SameLetters.isIdentifier_eq hback').trans hback⟩

/-! ## Numerals -/

theorem ascii_of_isDigit {c : Char} (h : c.isDigit = true) : c.toNat < 128 :=
  ascii_of_isIdentifierChar (by simp [isIdentifierChar, Char.isAlphanum, h])

theorem isDigit_of_ascii {c : Char} (h : c.isDigit = true) : isDigit c = true :=
  forall_ascii (fun c => c.isDigit = true → isDigit c = true) (by decide) (ascii_of_isDigit h) h

theorem isDigit_of_mem_decimal {zeros n : Nat} {c : Char} (h : c ∈ decimal zeros n) :
    c.isDigit = true := by
  obtain h | h := List.mem_append.mp h
  · rw [List.eq_of_mem_replicate h]
    rfl
  · exact Nat.isDigit_of_mem_toDigits (by decide) (by decide) h

theorem decimal_ne_nil (zeros n : Nat) : decimal zeros n ≠ [] := by
  intro h
  exact Nat.toDigits_ne_nil (List.append_eq_nil_iff.mp h).2

/-- ASCII digits count as usual. -/
theorem natOfDigits_of_ascii {digits : Text} (h : ∀ c ∈ digits, c.isDigit = true) :
    natOfDigits digits = Nat.ofDigitChars 10 digits 0 := by
  rw [natOfDigits, Nat.ofDigitChars_eq_foldl]
  refine List.foldl_ext _ _ 0 fun acc c hc => ?_
  have value : (digitValue? c).getD 0 = c.toNat - '0'.toNat :=
    forall_ascii (fun c => c.isDigit = true → (digitValue? c).getD 0 = c.toNat - '0'.toNat)
      (by decide) (ascii_of_isDigit (h c hc)) (h c hc)
  rw [value]

theorem natOfDigits_decimal (zeros n : Nat) : natOfDigits (decimal zeros n) = n := by
  rw [natOfDigits_of_ascii fun _ => isDigit_of_mem_decimal, decimal, Nat.ofDigitChars_append,
    Nat.ofDigitChars_replicate_zero, Nat.mul_zero,
    Nat.ofDigitChars_toDigits (by decide) (by decide)]

theorem Numeral.value {n : Int} {t : Text} (h : Numeral n t) : Token.value t = .ok n := by
  cases h with
  | @bare zeros n short =>
      rw [Token.value_of_digits short (decimal_ne_nil zeros n)
        fun c hc => isDigit_of_ascii (isDigit_of_mem_decimal hc), natOfDigits_decimal]
  | plus short => rw [Token.value_of_plus short, natOfDigits_decimal]
  | minus short => rw [Token.value_of_minus short, natOfDigits_decimal]

end Text

/-! ## Tokens -/

namespace Token

/-- The tokens that calls are written with. -/
inductive Plain : Token → Prop
  | mark {c : Char} (h : isMark c = true) : Plain (mark c)
  | name {t : Text} (h : IsName t) : Plain ⟨.name, t⟩
  | num {n : Int} {t : Text} (h : Numeral n t) : Plain ⟨.num, t⟩

theorem isNamePart_of_isIdentifier {t : Text} (h : isIdentifier t = true) : IsNamePart t := by
  obtain ⟨⟨c, rest, rfl, starts⟩, hchars⟩ := eq_cons_of_isIdentifier h
  exact ⟨c, rest, rfl, starts, fun d hd =>
    isWord_of_isIdentifierChar (hchars d (List.mem_cons_of_mem c hd))⟩

theorem isNumeral_of_numeral {n : Int} {t : Text} (h : Numeral n t) : IsNumeral t := by
  have hdigits (zeros n : Nat) : ∀ c ∈ decimal zeros n, isDigit c = true :=
    fun c hc => isDigit_of_ascii (isDigit_of_mem_decimal hc)
  cases h with
  | bare => exact ⟨_, decimal_ne_nil _ _, hdigits _ _, .inl rfl⟩
  | plus => exact ⟨_, decimal_ne_nil _ _, hdigits _ _, .inr ⟨'+', .inr rfl, rfl⟩⟩
  | minus => exact ⟨_, decimal_ne_nil _ _, hdigits _ _, .inr ⟨'-', .inl rfl, rfl⟩⟩

theorem Plain.lexeme {token : Token} (h : Plain token) : Lexeme token := by
  cases h with
  | mark h => exact .mark h
  | num h => exact .num (isNumeral_of_numeral h)
  | name h =>
      obtain h | ⟨front, back, rfl, hfront, hback⟩ := h
      · exact .name (.inl (isNamePart_of_isIdentifier h))
      · exact .name (.inr ⟨front, back, rfl, isNamePart_of_isIdentifier hfront,
          isNamePart_of_isIdentifier hback⟩)

theorem head?_of_plain {token : Token} (h : Plain token) (rest : Text) :
    token.text ≠ [] ∧ ∀ c ∈ (token.text ++ rest).head?, isBlank c = false := by
  obtain ⟨c, more, htext, solid, -⟩ := h.lexeme.eq_cons
  rw [htext]
  refine ⟨List.cons_ne_nil c more, ?_⟩
  intro d hd
  cases hd
  exact solid

/-- Words end in front of a mark and at the end of a row. -/
theorem stops_of_spaced {tokens : List Token} {t : Text} (h : Spaced (tokens.map (·.text)) t)
    (lexemes : ∀ token ∈ tokens, Lexeme token)
    (marked : ∀ token ∈ tokens.head?, token.kind = .punct) : Stops t := by
  cases tokens with
  | nil =>
      cases h
      exact stops_nil
  | cons token rest =>
      cases h with
      | @cons blanks _ behind _ hblanks _ =>
          cases blanks with
          | cons b more => exact stops_blank (hblanks b List.mem_cons_self) _
          | nil =>
              cases lexemes token List.mem_cons_self with
              | mark hmark =>
                  intro c hc
                  cases hc
                  exact forall_isMark (fun c => isWord c = false ∧ c ≠ '.') (by decide) hmark
              | name => cases marked _ rfl
              | num => cases marked _ rfl

/-- One of two neighbours is a mark. -/
def Apart (a b : Token) : Prop := a.kind = .punct ∨ b.kind = .punct

/-- A row is cut into its tokens, if no two words stand side by side. -/
theorem cut_of_spaced {tokens : List Token} {t : Text} (h : Spaced (tokens.map (·.text)) t)
    (lexemes : ∀ token ∈ tokens, Lexeme token) (apart : tokens.IsChain Apart) : Cut tokens t := by
  induction tokens generalizing t with
  | nil =>
      cases h
      exact .nil
  | cons token rest ih =>
      obtain ⟨lexeme, others⟩ := List.forall_mem_cons.mp lexemes
      cases h with
      | @cons blanks _ behind _ hblanks hrest =>
          have ends : token.kind = .punct ∨ Stops behind := by
            by_cases hkind : token.kind = .punct
            · exact .inl hkind
            · refine .inr (stops_of_spaced hrest others ?_)
              intro next hnext
              cases rest with
              | nil => cases hnext
              | cons b more =>
                  cases hnext
                  exact (List.isChain_cons_cons.mp apart).1.resolve_left hkind
          exact .cons hblanks lexeme (longest_of_ends lexeme ends) (ih hrest others apart.of_cons)

/-- What neither opens a string nor a comment. -/
def isQuiet (c : Char) : Bool := c != '"' && c != '\'' && c != '/'

theorem isQuiet_of_isBlank {c : Char} (h : isBlank c = true) : isQuiet c = true := by
  have apart {d : Char} (hd : isBlank d = false) : c ≠ d := by
    rintro rfl
    rw [h] at hd
    cases hd
  simp [isQuiet, apart (d := '"') rfl, apart (d := '\'') rfl, apart (d := '/') rfl]

theorem isQuiet_of_plain {token : Token} (h : Plain token) :
    ∀ c ∈ token.text, isQuiet c = true := by
  have identifier {t : Text} (ht : isIdentifier t = true) : ∀ c ∈ t, isQuiet c = true := by
    intro c hc
    have hc := (eq_cons_of_isIdentifier ht).2 c hc
    exact forall_ascii (fun c => isIdentifierChar c = true → isQuiet c = true) (by decide)
      (ascii_of_isIdentifierChar hc) hc
  have digits {zeros n : Nat} : ∀ c ∈ decimal zeros n, isQuiet c = true := by
    intro c hc
    have hc := isDigit_of_mem_decimal hc
    exact forall_ascii (fun c => c.isDigit = true → isQuiet c = true) (by decide)
      (ascii_of_isDigit hc) hc
  cases h with
  | mark h =>
      intro c hc
      obtain rfl := List.mem_singleton.mp hc
      exact forall_isMark (fun c => isQuiet c = true) (by decide) h
  | name h =>
      obtain h | ⟨a, b, rfl, ha, hb⟩ := h
      · exact identifier h
      · exact List.forall_mem_append.mpr
          ⟨identifier ha, List.forall_mem_cons.mpr ⟨rfl, identifier hb⟩⟩
  | num h =>
      cases h with
      | bare => exact digits
      | plus => exact List.forall_mem_cons.mpr ⟨rfl, digits⟩
      | minus => exact List.forall_mem_cons.mpr ⟨rfl, digits⟩

theorem isQuiet_of_spaced {tokens : List Token} {t : Text} (h : Spaced (tokens.map (·.text)) t)
    (plain : ∀ token ∈ tokens, Plain token) : ∀ c ∈ t, isQuiet c = true := by
  induction tokens generalizing t with
  | nil =>
      cases h
      intro c hc
      cases hc
  | cons token rest ih =>
      obtain ⟨hplain, others⟩ := List.forall_mem_cons.mp plain
      cases h with
      | cons hblanks hrest =>
          rw [List.forall_mem_append, List.forall_mem_append]
          exact ⟨fun c hc => isQuiet_of_isBlank (hblanks c hc), isQuiet_of_plain hplain,
            ih hrest others⟩

end Token

/-! ## Around the call -/

namespace Text

/-- A row ends with its last word. -/
theorem Spaced.eq_append {words : List Text} {word t : Text} (h : Spaced words t)
    (last : words.getLast? = some word) : ∃ front, t = front ++ word := by
  induction h with
  | nil => cases last
  | @cons blanks first behind rest _ hrest ih =>
      cases rest with
      | nil =>
          obtain rfl : first = word := Option.some.inj last
          cases hrest
          exact ⟨blanks, by rw [List.append_nil]⟩
      | cons second more =>
          rw [List.getLast?_cons_cons] at last
          obtain ⟨front, rfl⟩ := ih last
          exact ⟨blanks ++ (first ++ front), by simp only [List.append_assoc]⟩

theorem trimRight_margin {c : Char} {margin : Text} (front : Text) (solid : isBlank c = false)
    (hmargin : ∀ c ∈ margin, isBlank c = true) :
    trimRight (front ++ [c] ++ margin) = front ++ [c] := by
  have blanks : ∀ c ∈ margin.reverse, isBlank c = true := by simpa using hmargin
  rw [trimRight, List.reverse_append, List.dropWhile_append_of_pos blanks, List.reverse_concat,
    List.dropWhile_cons_of_neg (by simp [solid]), List.reverse_cons, List.reverse_reverse]

end Text

namespace Line

/-- Code without quotes and slashes is kept, and a comment behind it is dropped. -/
theorem uncommentFrom_of_quiet {code comment : Text} (quiet : ∀ c ∈ code, Token.isQuiet c = true)
    (hcomment : comment = [] ∨ ∃ remark, comment = '/' :: '/' :: remark) (before : Char) :
    uncommentFrom none before (code ++ comment) = code := by
  induction code generalizing before with
  | nil =>
      obtain rfl | ⟨remark, rfl⟩ := hcomment
      · rfl
      · rfl
  | cons c rest ih =>
      obtain ⟨hc, hrest⟩ := List.forall_mem_cons.mp quiet
      simp only [Token.isQuiet, Bool.and_eq_true, bne_iff_ne] at hc
      obtain ⟨⟨double, single⟩, slash⟩ := hc
      rw [List.cons_append, uncommentFrom]
      simp only [beq_eq_false_iff_ne.mpr double, beq_eq_false_iff_ne.mpr single,
        beq_eq_false_iff_ne.mpr slash, Bool.or_self, Bool.false_and, Bool.false_eq_true, if_false,
        ih hrest c]

/-- A line that begins with another letter is no conditional syntax. -/
theorem isConditional_of_head {c : Char} (rest : Text) (noElse : foldCase c ≠ 'e')
    (noIf : foldCase c ≠ 'i') (noOpener : c ≠ '{') (noCloser : c ≠ '}') :
    isConditional (c :: rest) = false := by
  have closer : afterCloser (c :: rest) = c :: rest := by
    unfold afterCloser
    split
    next heq => exact absurd (List.cons.inj heq).1 noCloser
    next => rfl
  have missed {w : Char} (h : foldCase c ≠ w) (word : Text) :
      afterAnyCase (w :: word) (c :: rest) = none := if_neg (by simpa using h)
  have noElse' : afterAnyCase "else".toList (c :: rest) = none := missed noElse _
  have stays : afterElse (c :: rest) = c :: rest := by
    rw [afterElse, noElse']
    rfl
  have isIf' : isIf (c :: rest) = false := by
    rw [isIf, closer, stays, show afterAnyCase "if".toList (c :: rest) = none from missed noIf _]
    rfl
  have isElse' : isElse (c :: rest) = false := by rw [isElse, closer, noElse']
  have isBrace' : isBrace (c :: rest) = false := by simp [isBrace, noOpener, noCloser]
  rw [isConditional, isIf', isElse', isBrace']
  rfl

/-- What is read of a line: neither the blanks around its code nor the comment. -/
theorem trim_uncomment {blanks code margin comment : Text}
    (hblanks : ∀ c ∈ blanks, isBlank c = true) (hmargin : ∀ c ∈ margin, isBlank c = true)
    (hcomment : comment = [] ∨ ∃ remark, comment = '/' :: '/' :: remark)
    (quiet : ∀ c ∈ code, Token.isQuiet c = true) (first : ∀ c ∈ code.head?, isBlank c = false)
    (last : ∃ front c, code = front ++ [c] ∧ isBlank c = false) :
    trim (uncomment (blanks ++ code ++ (margin ++ comment))) = code := by
  have all : ∀ c ∈ blanks ++ code ++ margin, Token.isQuiet c = true := by
    rw [List.forall_mem_append, List.forall_mem_append]
    exact ⟨⟨fun c hc => Token.isQuiet_of_isBlank (hblanks c hc), quiet⟩,
      fun c hc => Token.isQuiet_of_isBlank (hmargin c hc)⟩
  obtain ⟨front, c, rfl, solid⟩ := last
  have begins : trimLeft (front ++ [c] ++ margin) = front ++ [c] ++ margin := by
    apply trimLeft_eq_self
    intro d hd
    apply first d
    cases front with
    | nil => exact hd
    | cons => exact hd
  rw [← List.append_assoc, uncomment, uncommentFrom_of_quiet all hcomment, trim,
    List.append_assoc, trimLeft_blanks hblanks, begins, trimRight_margin front solid hmargin]

end Line

/-! ## Reading what is written -/

namespace Callee

theorem key_isName (callee : Callee) : IsName callee.key.toList := by
  cases callee with
  | timerStart timer | timerPwm timer | timerStop timer =>
      refine .inr ⟨(timer.label.toList).map Char.toLower, ?_⟩
      cases timer <;> exact ⟨_, rfl, rfl, rfl⟩
  | _ => exact .inl rfl

theorem map_toLower_of_named {callee : Callee} {name : Text}
    (named : SameLetters name callee.key.toList) : name.map Char.toLower = callee.key.toList := by
  rw [named]
  cases callee with
  | timerStart timer | timerPwm timer | timerStop timer => cases timer <;> rfl
  | _ => rfl

theorem ascii_of_named {callee : Callee} {name : Text}
    (named : SameLetters name callee.key.toList) : ∀ c ∈ name, c.toNat < 128 := by
  intro c hc
  apply ascii_of_toLower
  apply key_ascii callee
  rw [← map_toLower_of_named named]
  exact List.mem_map_of_mem hc

theorem key_head (callee : Callee) :
    ∃ k more, callee.key.toList = k :: more ∧ k ≠ 'e' ∧ k ≠ 'i' ∧ k ≠ '{' ∧ k ≠ '}' := by
  cases callee with
  | timerStart timer | timerPwm timer | timerStop timer =>
      cases timer <;> exact ⟨_, _, rfl, by decide⟩
  | _ => exact ⟨_, _, rfl, by decide⟩

/-- No call begins as conditional syntax does. -/
theorem isConditional_of_named {callee : Callee} {name : Text}
    (named : SameLetters name callee.key.toList) (rest : Text) :
    Line.isConditional (name ++ rest) = false := by
  obtain ⟨k, more, hkey, noElse, noIf, noOpener, noCloser⟩ := key_head callee
  have hname := (map_toLower_of_named named).trans hkey
  have ascii := ascii_of_named named
  obtain ⟨c, others, rfl, rfl, -⟩ := List.map_eq_cons_iff.mp hname
  have fold : foldCase c = c.toLower := foldCase_of_ascii (ascii c List.mem_cons_self)
  apply Line.isConditional_of_head
  · rwa [fold]
  · rwa [fold]
  · rintro rfl
    exact noOpener rfl
  · rintro rfl
    exact noCloser rfl

end Callee

namespace Text

theorem lower_of_ascii {t : Text} (ascii : ∀ c ∈ t, c.toNat < 128) :
    lower t = t.map Char.toLower := by
  rw [lower, List.map_eq_flatMap]
  exact List.flatMap_congr fun c hc => lowerChar_of_ascii (ascii c hc)

theorem upper_of_ascii {t : Text} (ascii : ∀ c ∈ t, c.toNat < 128) :
    upper t = t.map Char.toUpper := by
  rw [upper, List.map_eq_flatMap]
  exact List.flatMap_congr fun c hc => upperChar_of_ascii (ascii c hc)

theorem ascii_of_isIdentifier {t : Text} (h : isIdentifier t = true) : ∀ c ∈ t, c.toNat < 128 :=
  fun c hc => ascii_of_isIdentifierChar ((eq_cons_of_isIdentifier h).2 c hc)

/-- In upper case the case of the letters is lost. -/
theorem SameLetters.upper_eq {a b : Text} (h : SameLetters a b) (hb : isIdentifier b = true) :
    upper a = b.map Char.toUpper := by
  have ha : isIdentifier a = true := h.isIdentifier_eq.trans hb
  have raised {t : Text} (ht : isIdentifier t = true) :
      t.map Char.toUpper = (t.map Char.toLower).map Char.toUpper := by
    rw [List.map_map]
    exact List.map_congr_left fun c hc => (toUpper_toLower (ascii_of_isIdentifier ht c hc)).symm
  rw [upper_of_ascii (ascii_of_isIdentifier ha), raised ha, h, ← raised hb]

end Text

namespace Callee

theorem find?_of_named {callee : Callee} {name : Text}
    (named : SameLetters name callee.key.toList) : find? name = some callee :=
  find?_iff.mpr ((lower_of_ascii (ascii_of_named named)).trans (map_toLower_of_named named))

theorem keywordOf_of_name {role : KeywordRole} {keyword b : Text}
    (hkeyword : isIdentifier keyword = true) (hb : SameLetters b keyword) :
    keywordOf role ⟨.name, b⟩ = .ok (keyword.map Char.toUpper) := by
  rw [keywordOf, if_pos rfl, hb.upper_eq hkeyword]

/-- The written arguments are tokens from which the call gives the statement. -/
theorem Spells.tokens {callee : Callee} {args : List Text} {statement : Statement}
    (h : callee.Spells args statement) :
    ∃ tokens : List Token, tokens.map (·.text) = args ∧
      (∀ token ∈ tokens, token.Plain ∧ (token.kind = .num ∨ token.kind = .name)) ∧
      callee.statement? tokens = some (.ok statement) := by
  have num {n : Int} {t : Text} (ht : Numeral n t) :
      Token.Plain ⟨.num, t⟩ ∧ (TokenKind.num = .num ∨ TokenKind.num = .name) :=
    ⟨.num ht, .inl rfl⟩
  have word {b keyword : Text} (hk : isIdentifier keyword = true) (hb : SameLetters b keyword) :
      Token.Plain ⟨.name, b⟩ ∧ (TokenKind.name = .num ∨ TokenKind.name = .name) :=
    ⟨.name (.inl (hb.isIdentifier_eq.trans hk)), .inr rfl⟩
  have pin {n : Int} {t : Text} (ht : Numeral n t) : pinOf ⟨.num, t⟩ = .ok n :=
    pinOf_of_num rfl ht.value
  have number {role : NumberRole} {n : Int} {t : Text} (ht : Numeral n t) :
      numberOf role ⟨.num, t⟩ = .ok n :=
    numberOf_of_num rfl ht.value
  cases h with
  | @pinMode _ _ a b ha hk hb =>
      refine ⟨[⟨.num, a⟩, ⟨.name, b⟩], rfl, by simp [num ha, word hk hb], ?_⟩
      rw [statement?, pin ha, keywordOf_of_name hk hb]
      rfl
  | @digitalWrite _ _ a b ha hk hb =>
      refine ⟨[⟨.num, a⟩, ⟨.name, b⟩], rfl, by simp [num ha, word hk hb], ?_⟩
      rw [statement?, pin ha, keywordOf_of_name hk hb]
      rfl
  | @setDuty _ _ a b ha hb =>
      refine ⟨[⟨.num, a⟩, ⟨.num, b⟩], rfl, by simp [num ha, num hb], ?_⟩
      rw [statement?, pin ha, number hb]
      rfl
  | @analogWrite _ _ a b ha hb =>
      refine ⟨[⟨.num, a⟩, ⟨.num, b⟩], rfl, by simp [num ha, num hb], ?_⟩
      rw [statement?, pin ha, number hb]
      rfl
  | @delay _ a ha =>
      refine ⟨[⟨.num, a⟩], rfl, by simp [num ha], ?_⟩
      rw [statement?, number ha]
      rfl
  | timerStart timer => exact ⟨[], rfl, by simp, by cases timer <;> rfl⟩
  | @timerPeriod _ a ha =>
      refine ⟨[⟨.num, a⟩], rfl, by simp [num ha], ?_⟩
      rw [statement?, number ha]
      rfl
  | @timerPwm timer _ _ a b ha hb =>
      refine ⟨[⟨.num, a⟩, ⟨.num, b⟩], rfl, by simp [num ha, num hb], ?_⟩
      rw [statement?, pin ha, number hb]
      rfl
  | timerStop timer => exact ⟨[], rfl, by simp, by cases timer <;> rfl⟩

end Callee

/-! ## Rows of tokens -/

namespace Call

open Token

/-- The tokens of a call in a row. -/
def row (name : Text) (args ending : List Token) : List Token :=
  ⟨.name, name⟩ :: mark '(' :: (args.intersperse (mark ',') ++ mark ')' :: ending)

theorem map_intersperse {α β : Type} (f : α → β) (separator : α) (l : List α) :
    (l.intersperse separator).map f = (l.map f).intersperse (f separator) := by
  induction l with
  | nil => rfl
  | cons a rest ih =>
      cases rest with
      | nil => rfl
      | cons b rest =>
          simp only [List.intersperse_cons_cons, List.map_cons] at ih ⊢
          rw [ih]

theorem mem_of_mem_intersperse {α : Type} {a separator : α} {l : List α}
    (h : a ∈ l.intersperse separator) : a ∈ l ∨ a = separator := by
  induction l with
  | nil => cases h
  | cons b rest ih =>
      cases rest with
      | nil => exact .inl h
      | cons c rest =>
          rw [List.intersperse_cons_cons, List.mem_cons, List.mem_cons] at h
          obtain rfl | rfl | later := h
          · exact .inl List.mem_cons_self
          · exact .inr rfl
          · exact (ih later).imp_left (List.mem_cons_of_mem b)

theorem map_text_row (name : Text) (args ending : List Token) :
    (row name args ending).map (·.text) =
      name :: ['('] :: ((args.map (·.text)).intersperse [','] ++ [')'] ::
        ending.map (·.text)) := by
  rw [row, List.map_cons, List.map_cons, List.map_append, map_intersperse]
  rfl

theorem isChain_mark {tokens : List Token} (h : tokens.IsChain Apart) (c : Char) :
    (mark c :: tokens).IsChain Apart :=
  List.isChain_cons.mpr ⟨fun _ _ => .inl rfl, h⟩

section
variable {name : Text} {args ending : List Token} (hending : ending = [] ∨ ending = [mark ';'])
include hending

/-- In a call no two words stand side by side. -/
theorem isChain_row : (row name args ending).IsChain Apart := by
  have closing : (mark ')' :: ending).IsChain Apart := by
    obtain rfl | rfl := hending
    · exact .singleton _
    · exact isChain_mark (.singleton _) ')'
  have inner : (args.intersperse (mark ',') ++ mark ')' :: ending).IsChain Apart := by
    induction args with
    | nil => exact closing
    | cons a rest ih =>
        cases rest with
        | nil => exact .cons_cons (.inr rfl) closing
        | cons b more =>
            rw [List.intersperse_cons_cons]
            exact .cons_cons (.inr rfl) (isChain_mark ih ',')
  exact .cons_cons (.inr rfl) (isChain_mark inner '(')

theorem plain_of_mem_row (hname : IsName name) (hargs : ∀ arg ∈ args, arg.Plain) :
    ∀ token ∈ row name args ending, token.Plain := by
  intro token h
  simp only [row, List.mem_cons, List.mem_append] at h
  obtain rfl | rfl | inside | rfl | last := h
  · exact .name hname
  · exact .mark rfl
  · obtain arg | rfl := mem_of_mem_intersperse inside
    · exact hargs token arg
    · exact .mark rfl
  · exact .mark rfl
  · obtain rfl | rfl := hending
    · cases last
    · obtain rfl := List.mem_singleton.mp last
      exact .mark rfl

theorem exists_last_of_row {t : Text} (h : Spaced ((row name args ending).map (·.text)) t) :
    ∃ front c, t = front ++ [c] ∧ isBlank c = false := by
  have shape : (row name args ending).map (·.text) =
      (name :: ['('] :: (args.map (·.text)).intersperse [',']) ++
        [')'] :: ending.map (·.text) := map_text_row name args ending
  rw [shape] at h
  obtain rfl | rfl := hending
  · obtain ⟨front, rfl⟩ := h.eq_append (by rw [List.getLast?_append]; rfl)
    exact ⟨front, ')', rfl, rfl⟩
  · obtain ⟨front, rfl⟩ := h.eq_append (by rw [List.getLast?_append]; rfl)
    exact ⟨front, ';', rfl, rfl⟩

/-- A row of the tokens of a call is cut into these tokens. -/
theorem tokenize_of_row (hname : IsName name) (hargs : ∀ arg ∈ args, arg.Plain) {t : Text}
    (h : Spaced ((row name args ending).map (·.text)) t) :
    tokenize t = some (row name args ending) := by
  have plain := plain_of_mem_row hending hname hargs
  exact tokenize_of_cut (cut_of_spaced h (fun token hmem => (plain token hmem).lexeme)
    (isChain_row hending))

end

end Call

namespace Statement

/-- The code of a written call gives its statement. -/
theorem ofText_of_row {callee : Callee} {name behind : Text} {args ending : List Token}
    {statement : Statement} (named : SameLetters name callee.key.toList)
    (hargs : ∀ arg ∈ args, arg.Plain ∧ (arg.kind = .num ∨ arg.kind = .name))
    (hending : ending = [] ∨ ending = [Token.mark ';'])
    (laid : Spaced ((Call.row name args ending).map (·.text)) (name ++ behind))
    (hstatement : callee.statement? args = some (.ok statement)) :
    ofText (name ++ behind) = .ok statement := by
  have plain : Line.isConditional (name ++ behind) = false :=
    Callee.isConditional_of_named named behind
  have tokens : Token.tokenize (name ++ behind) = some (Call.row name args ending) :=
    Call.tokenize_of_row hending (named.isName callee.key_isName)
      (fun arg harg => (hargs arg harg).1) laid
  have call : Call.ofTokens? (Call.row name args ending) = some ⟨name, args⟩ :=
    Call.ofTokens?_iff.mpr ⟨fun arg harg => (hargs arg harg).2, ending, hending, rfl⟩
  simp only [ofText, plain, Bool.false_eq_true, if_false, tokens, Option.bind_some, call,
    Callee.find?_of_named named, hstatement]

/-- Every way of writing a call is read as its statement, at the line where it stands. -/
theorem every_spelling_is_read {statement : Statement} {line : Text}
    (h : statement.Writes line) (number : Int) :
    read number line = .ok (some ⟨statement, number⟩) := by
  cases h with
  | @intro callee name args ending code margin comment named spelled hending laid hmargin
      hcomment =>
      obtain ⟨tokens, rfl, hargs, hstatement⟩ := spelled.tokens
      have marked : ∃ marks, (marks = [] ∨ marks = [Token.mark ';']) ∧
          marks.map (·.text) = ending := by
        obtain rfl | rfl := hending
        · exact ⟨[], .inl rfl, rfl⟩
        · exact ⟨[Token.mark ';'], .inr rfl, rfl⟩
      obtain ⟨marks, hmarks, rfl⟩ := marked
      rw [← Call.map_text_row] at laid
      have plain := Call.plain_of_mem_row hmarks (named.isName callee.key_isName)
        fun arg harg => (hargs arg harg).1
      cases laid with
      | @cons blanks _ behind _ hblanks hrest =>
          have tight : Spaced ((Call.row name tokens marks).map (·.text)) (name ++ behind) :=
            .cons (List.forall_mem_nil _) hrest
          obtain ⟨nonempty, first⟩ :=
            Token.head?_of_plain (plain ⟨.name, name⟩ List.mem_cons_self) behind
          have text : trim (Line.uncomment (blanks ++ (name ++ behind) ++ (margin ++ comment))) =
              name ++ behind :=
            Line.trim_uncomment hblanks hmargin hcomment (Token.isQuiet_of_spaced tight plain)
              first (Call.exists_last_of_row hmarks tight)
          have filled : name ++ behind ≠ [] := by
            simp only [ne_eq, List.append_eq_nil_iff, not_and]
            exact fun empty => absurd empty nonempty
          rw [Statement.read, ofLine?_of_filled (by rw [text]; exact filled), text,
            ofText_of_row named hargs hmarks tight hstatement]
          rfl

/-- A spelling with letters of both cases, blanks beyond ASCII, a sign, a leading zero, no blank
where none is needed, and a comment with a quote in it. -/
theorem every_spelling_is_read_loud :
    Writes (.digitalWrite 13 "HIGH".toList)
        "  DigitalWRITE\u3000(+013 ,hIgH)\t; // it's on".toList ∧
      read 7 "  DigitalWRITE\u3000(+013 ,hIgH)\t; // it's on".toList =
        .ok (some ⟨.digitalWrite 13 "HIGH".toList, 7⟩) := by
  have blank {t : Text} (h : t.all isBlank = true) : ∀ c ∈ t, isBlank c = true :=
    List.all_eq_true.mp h
  obtain ⟨code, hcode⟩ : ∃ code, code = "  ".toList ++ ("DigitalWRITE".toList ++
      ("\u3000".toList ++ (['('] ++ ([] ++ ("+013".toList ++ (" ".toList ++ ([','] ++ ([] ++
      ("hIgH".toList ++ ([] ++ ([')'] ++ ("\t".toList ++ ([';'] ++ []))))))))))))) := ⟨_, rfl⟩
  have laid : Spaced ("DigitalWRITE".toList :: ['('] ::
      (["+013".toList, "hIgH".toList].intersperse [','] ++ [')'] :: [[';']])) code := by
    rw [hcode]
    exact .cons (blank rfl) (.cons (blank rfl) (.cons (blank rfl) (.cons (blank rfl)
      (.cons (blank rfl) (.cons (blank rfl) (.cons (blank rfl) .nil))))))
  have pin : Numeral 13 "+013".toList := by
    have short : (decimal 1 13).length ≤ numeralLimit := by decide
    have written : '+' :: decimal 1 13 = "+013".toList := by decide
    exact written ▸ Numeral.plus short
  have spelled : Callee.Spells .digitalWrite ["+013".toList, "hIgH".toList]
      (.digitalWrite 13 ("high".toList.map Char.toUpper)) :=
    .digitalWrite pin (by decide) (by unfold SameLetters; decide)
  have writes := Writes.intro (by unfold SameLetters; decide) spelled (.inr rfl) laid
    (blank (t := " ".toList) rfl) (.inr ⟨" it's on".toList, rfl⟩)
  have line : code ++ (" ".toList ++ '/' :: '/' :: " it's on".toList) =
      "  DigitalWRITE\u3000(+013 ,hIgH)\t; // it's on".toList := by
    rw [hcode]
    decide +kernel
  have keyword : "high".toList.map Char.toUpper = "HIGH".toList := by decide
  rw [line, keyword] at writes
  exact ⟨writes, every_spelling_is_read writes 7⟩

end Statement

end SketchGrader
