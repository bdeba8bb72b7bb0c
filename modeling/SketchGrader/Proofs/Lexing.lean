import SketchGrader.Proofs.Patterns
import SketchGrader.Sketch.Statement

/-!
# Tokens and the text they come from

A token is the beginning of the text it is read from and has the form of its kind. A call is read
from the tokens that it is written with. So a line on which a call is read begins with the name of
the call, and its arguments follow in the order in which they are read.
-/

namespace SketchGrader

namespace Text

/-- Whether the runs cover all code points from `low` up to `high`. -/
def spans (low high : Nat) : List Nat → Bool
  | first :: after :: rest => Nat.ble first low && (Nat.ble high after || spans low high rest)
  | _ => false

theorem inRuns_of_spans {low high n : Nat} {runs : List Nat} (h : spans low high runs = true)
    (hlow : low ≤ n) (hhigh : n < high) : inRuns runs n = true := by
  fun_induction spans low high runs with
  | case1 first after rest ih =>
      simp only [Bool.and_eq_true, Bool.or_eq_true, Nat.ble_eq] at h
      have inside : ¬ n < first := by omega
      rw [inRuns, if_neg inside, Bool.or_eq_true, decide_eq_true_eq]
      exact h.2.imp (fun _ => by omega) fun hrest => ih hrest
  | case2 => cases h

/-- A digit is one of ASCII or one of the ten that begin with a script's zero. -/
theorem range_of_isDigit {c : Char} (h : isDigit c = true) :
    (48 ≤ c.toNat ∧ c.toNat ≤ 57) ∨
      ∃ start ∈ scriptZeros, 128 ≤ c.toNat ∧ start ≤ c.toNat ∧ c.toNat < start + 10 := by
  obtain ⟨value, hv⟩ := Option.isSome_iff_exists.mp h
  simp only [digitValue?] at hv
  split_ifs at hv with ascii range
  · simp only [Bool.and_eq_true, decide_eq_true_eq] at range
    exact .inl range
  · obtain ⟨start, hfind, -⟩ := Option.map_eq_some_iff.mp hv
    have range := List.find?_some hfind
    simp only [Bool.and_eq_true, decide_eq_true_eq] at range
    exact .inr ⟨start, List.mem_of_find?_eq_some hfind, by omega, range⟩

/-- The digits of every script are among the word characters. -/
theorem spans_scriptZeros :
    (scriptZeros.all fun start => spans start (start + 10) alphanumericRuns) = true := by
  decide +kernel

theorem isWord_of_isDigit {c : Char} (h : isDigit c = true) : isWord c = true := by
  obtain range | ⟨start, hstart, beyond, low, high⟩ := range_of_isDigit h
  · have ascii : c.toNat < 128 := by omega
    simp [isWord, ascii, range]
  · have ascii : ¬ c.toNat < 128 := by omega
    have covered := List.all_eq_true.mp spans_scriptZeros start hstart
    rw [isWord, if_neg ascii]
    exact inRuns_of_spans covered low high

theorem forall_ascii (p : Char → Prop) (h : ∀ n < 128, p (Char.ofNat n)) {c : Char}
    (ascii : c.toNat < 128) : p c := by
  have all := h c.toNat ascii
  rwa [Char.ofNat_toNat] at all

/-- The blanks beyond ASCII. -/
def wideBlanks : List Nat := [0x85, 0xA0, 0x1680, 0x2000, 0x2001, 0x2002, 0x2003, 0x2004, 0x2005,
  0x2006, 0x2007, 0x2008, 0x2009, 0x200A, 0x2028, 0x2029, 0x202F, 0x205F, 0x3000]

theorem inRuns_wideBlanks : (wideBlanks.all fun n => !inRuns alphanumericRuns n) = true := by
  decide +kernel

theorem isWord_of_isBlank {c : Char} (h : isBlank c = true) : isWord c = false := by
  by_cases ascii : c.toNat < 128
  · exact forall_ascii (fun c => isBlank c = true → isWord c = false) (by decide) ascii h
  · have wide : c.toNat ∈ wideBlanks := by
      simp only [isBlank, Bool.or_eq_true, Bool.and_eq_true, decide_eq_true_eq, beq_iff_eq] at h
      simp only [wideBlanks, List.mem_cons, List.not_mem_nil, or_false]
      omega
    rw [isWord, if_neg ascii]
    simpa using List.all_eq_true.mp inRuns_wideBlanks _ wide

theorem isBlank_of_isWord {c : Char} (h : isWord c = true) : isBlank c = false := by
  rw [Bool.eq_false_iff]
  intro blank
  rw [isWord_of_isBlank blank] at h
  cases h

theorem isBlank_of_isDigit {c : Char} (h : isDigit c = true) : isBlank c = false :=
  isBlank_of_isWord (isWord_of_isDigit h)

end Text

namespace Token

open Text

theorem spanName_append (t : Text) : (spanName t).1 ++ (spanName t).2 = t := by
  unfold spanName
  split
  next c rest hdrop =>
    split_ifs
    · rw [List.append_assoc, List.cons_append, List.takeWhile_append_dropWhile, ← hdrop,
        List.takeWhile_append_dropWhile]
    · rw [← hdrop, List.takeWhile_append_dropWhile]
  next => exact List.takeWhile_append_dropWhile

/-- A number as a token: digits behind at most one sign. -/
def IsNumeral (numeral : Text) : Prop :=
  ∃ digits, digits ≠ [] ∧ (∀ c ∈ digits, isDigit c = true) ∧
    (numeral = digits ∨ ∃ sign, (sign = '-' ∨ sign = '+') ∧ numeral = sign :: digits)

/-- One part of a name: an ASCII letter or an underscore, then word characters of any script. -/
def IsNamePart (part : Text) : Prop :=
  ∃ c rest, part = c :: rest ∧ startsName c = true ∧ ∀ d ∈ rest, isWord d = true

/-- A name as a token: one part, or two with a dot in between. -/
def IsFullName (name : Text) : Prop :=
  IsNamePart name ∨
    ∃ front back, name = front ++ '.' :: back ∧ IsNamePart front ∧ IsNamePart back

/-- A token that is written as its kind wants. -/
inductive Lexeme : Token → Prop
  | num {numeral : Text} (h : IsNumeral numeral) : Lexeme ⟨.num, numeral⟩
  | name {name : Text} (h : IsFullName name) : Lexeme ⟨.name, name⟩
  | mark {c : Char} (h : isMark c = true) : Lexeme (mark c)

theorem Lexeme.isNumeral {token : Token} (h : Lexeme token) (hkind : token.kind = .num) :
    IsNumeral token.text := by
  cases h with
  | num h => exact h
  | name => cases hkind
  | mark => cases hkind

theorem isNamePart_takeWhile {c : Char} (starts : startsName c = true) (rest : Text) :
    IsNamePart ((c :: rest).takeWhile isWord) := by
  rw [List.takeWhile_cons_of_pos (isWord_of_startsName starts)]
  exact ⟨c, rest.takeWhile isWord, rfl, starts, fun d hd => List.mem_takeWhile_imp hd⟩

theorem isFullName_spanName {c : Char} (starts : startsName c = true) (rest : Text) :
    IsFullName (spanName (c :: rest)).1 := by
  have front := isNamePart_takeWhile starts rest
  unfold spanName
  split
  next d more _ =>
    split_ifs with hd
    · exact .inr ⟨_, _, rfl, front, isNamePart_takeWhile hd more⟩
    · exact .inl front
  next => exact .inl front

/-- A token is the beginning of the text that it is read from. -/
theorem next?_eq_some {t rest : Text} {token : Token} (h : next? t = some (token, rest)) :
    t = token.text ++ rest ∧ Lexeme token := by
  cases t with
  | nil => cases h
  | cons c more =>
      have digits : more.takeWhile isDigit ++ more.dropWhile isDigit = more :=
        List.takeWhile_append_dropWhile
      have allDigits : ∀ d ∈ more.takeWhile isDigit, isDigit d = true :=
        fun d hd => List.mem_takeWhile_imp hd
      simp only [next?] at h
      split_ifs at h with hsign hdigit hname hmark
      · split at h
        next => cases h
        next hne =>
          cases h
          refine ⟨by rw [List.cons_append, digits], .num ?_⟩
          refine ⟨more.takeWhile isDigit, hne, allDigits, .inr ⟨c, ?_, rfl⟩⟩
          simpa only [Bool.or_eq_true, beq_iff_eq] using hsign
      · cases h
        refine ⟨by rw [List.cons_append, digits], .num ?_⟩
        exact ⟨c :: more.takeWhile isDigit, List.cons_ne_nil _ _,
          List.forall_mem_cons.mpr ⟨hdigit, allDigits⟩, .inl rfl⟩
      · cases h
        exact ⟨(spanName_append (c :: more)).symm, .name (isFullName_spanName hname more)⟩
      · cases h
        exact ⟨rfl, .mark hmark⟩

@[simp] theorem readAll_nil : readAll [] = some [] := by
  rw [readAll]
  rfl

theorem readAll_eq {t : Text} (filled : t ≠ []) :
    readAll t =
      (next? (trimLeft t)).bind fun found => (readAll found.2).map (found.1 :: ·) := by
  rw [readAll, if_neg (by simpa using filled)]
  split
  next hnone => rw [hnone]; rfl
  next hsome => rw [hsome]; rfl

theorem next?_of_readAll {t : Text} {token : Token} {tokens : List Token}
    (h : readAll t = some (token :: tokens)) :
    ∃ rest, next? (trimLeft t) = some (token, rest) ∧ readAll rest = some tokens := by
  have filled : t ≠ [] := by
    rintro rfl
    rw [readAll_nil] at h
    cases h
  rw [readAll_eq filled] at h
  obtain ⟨⟨token', rest⟩, hnext, hread⟩ := Option.bind_eq_some_iff.mp h
  obtain ⟨tokens', hrest, hcons⟩ := Option.map_eq_some_iff.mp hread
  obtain ⟨rfl, rfl⟩ := List.cons.inj hcons
  exact ⟨rest, hnext, hrest⟩

/-- The first token stands behind blanks, and the others are read from the rest. -/
theorem readAll_eq_cons {t : Text} {token : Token} {tokens : List Token}
    (h : readAll t = some (token :: tokens)) :
    ∃ blanks rest, (∀ c ∈ blanks, isBlank c = true) ∧ t = blanks ++ (token.text ++ rest) ∧
      Lexeme token ∧ readAll rest = some tokens := by
  obtain ⟨rest, hnext, hrest⟩ := next?_of_readAll h
  obtain ⟨htext, lexeme⟩ := next?_eq_some hnext
  refine ⟨t.takeWhile isBlank, rest, fun c hc => List.mem_takeWhile_imp hc, ?_, lexeme, hrest⟩
  rw [← htext]
  exact List.takeWhile_append_dropWhile.symm

theorem lexeme_of_readAll {t : Text} {tokens : List Token} (h : readAll t = some tokens) :
    ∀ token ∈ tokens, Lexeme token := by
  induction tokens generalizing t with
  | nil => exact List.forall_mem_nil _
  | cons first rest ih =>
      obtain ⟨blanks, behind, -, -, hfirst, hrest⟩ := readAll_eq_cons h
      exact List.forall_mem_cons.mpr ⟨hfirst, ih hrest⟩

end Token

/-! ## The form of a call -/

namespace Call

open Token

/-- The tokens are those of the call: its name, an opening parenthesis, its arguments with commas
between them, a closing parenthesis and at most one semicolon. An argument is a number or a
name. -/
def Form (tokens : List Token) (call : Call) : Prop :=
  (∀ arg ∈ call.args, arg.kind = .num ∨ arg.kind = .name) ∧
    ∃ ending, (ending = [] ∨ ending = [mark ';']) ∧
      tokens = ⟨.name, call.name⟩ :: mark '(' ::
        (call.args.intersperse (mark ',') ++ mark ')' :: ending)

theorem kind_ne_punct {token : Token} :
    token.kind ≠ .punct ↔ token.kind = .num ∨ token.kind = .name := by
  cases token.kind <;> simp

/-- Arguments that are read from a list with commas are what the commas stand between. -/
theorem eq_intersperse_of_separated {inner args : List Token} (h : separated inner = some args) :
    inner = args.intersperse (mark ',') ∧ ∀ arg ∈ args, arg.kind ≠ .punct := by
  fun_induction separated inner generalizing args with
  | case1 => cases h
  | case2 => cases h
  | case3 arg hkind =>
      cases h
      exact ⟨rfl, by simpa using hkind⟩
  | case4 arg comma rest hsep ih =>
      obtain ⟨hkind, rfl⟩ := hsep
      obtain ⟨others, hothers, rfl⟩ := Option.map_eq_some_iff.mp h
      obtain ⟨rfl, hkinds⟩ := ih hothers
      refine ⟨?_, List.forall_mem_cons.mpr ⟨hkind, hkinds⟩⟩
      cases others with
      | nil => cases hothers
      | cons b more => rw [List.intersperse_cons_cons]
  | case5 => cases h

theorem separated_intersperse {args : List Token} (filled : args ≠ [])
    (hkinds : ∀ arg ∈ args, arg.kind ≠ .punct) :
    separated (args.intersperse (mark ',')) = some args := by
  induction args with
  | nil => exact absurd rfl filled
  | cons a rest ih =>
      obtain ⟨hkind, hothers⟩ := List.forall_mem_cons.mp hkinds
      cases rest with
      | nil => exact if_neg hkind
      | cons b more =>
          rw [List.intersperse_cons_cons, separated, if_pos ⟨hkind, rfl⟩,
            ih (List.cons_ne_nil b more) hothers]
          rfl

/-- Every second token, from the first on. -/
def everySecond : List Token → List Token
  | [] => []
  | [token] => [token]
  | token :: _ :: rest => token :: everySecond rest

theorem everySecond_cons (token : Token) (rest : List Token) :
    everySecond (token :: rest) = token :: everySecond rest.tail := by
  cases rest <;> rfl

theorem getElem?_everySecond (tokens : List Token) (i : Nat) :
    (everySecond tokens)[i]? = tokens[2 * i]? := by
  induction i generalizing tokens with
  | zero =>
      cases tokens with
      | nil => rfl
      | cons token rest => rw [everySecond_cons]; rfl
  | succ i ih =>
      cases tokens with
      | nil => rfl
      | cons token rest =>
          rw [everySecond_cons, List.getElem?_cons_succ, ih, List.getElem?_tail, Nat.mul_succ,
            List.getElem?_cons_succ]

/-- Of tokens with commas between them the arguments stand at the even places and the commas at the
odd ones, and there is one argument more. -/
theorem separated_eq_everySecond (inner : List Token) :
    let args := everySecond inner
    let commas := everySecond inner.tail
    separated inner =
      if (∀ arg ∈ args, arg.kind ≠ .punct) ∧ (∀ comma ∈ commas, comma = mark ',') ∧
          args.length = commas.length + 1 then
        some args
      else none := by
  fun_induction separated inner with
  | case1 => rfl
  | case2 arg hkind => simp [everySecond, hkind]
  | case3 arg hkind => simp [everySecond, hkind]
  | case4 arg comma rest hsep ih =>
      obtain ⟨hkind, rfl⟩ := hsep
      rw [ih, List.tail_cons, everySecond_cons, List.tail_cons, everySecond_cons]
      simp only [List.forall_mem_cons, List.length_cons, Nat.add_right_cancel_iff, hkind, ne_eq,
        not_false_eq_true, true_and]
      split_ifs <;> rfl
  | case5 arg comma rest hsep =>
      rw [List.tail_cons, everySecond_cons, List.tail_cons, everySecond_cons]
      refine (if_neg ?_).symm
      rintro ⟨hargs, hcommas, -⟩
      exact hsep ⟨(List.forall_mem_cons.mp hargs).1, (List.forall_mem_cons.mp hcommas).1⟩

/-- At most one semicolon is left out at the end. -/
theorem withoutSemicolon_append (tokens : List Token) :
    ∃ ending, (ending = [] ∨ ending = [mark ';']) ∧
      tokens = withoutSemicolon tokens ++ ending := by
  unfold withoutSemicolon
  split_ifs with hlast
  · exact ⟨[mark ';'], .inr rfl, (List.dropLast_append_getLast? _ hlast).symm⟩
  · exact ⟨[], .inl rfl, (List.append_nil tokens).symm⟩

theorem withoutSemicolon_closed {ending : List Token} (body : List Token)
    (h : ending = [] ∨ ending = [mark ';']) :
    withoutSemicolon (body ++ mark ')' :: ending) = body ++ [mark ')'] := by
  have other : mark ')' ≠ mark ';' := by decide
  obtain rfl | rfl := h
  · rw [withoutSemicolon, List.getLast?_concat, if_neg (by simpa using other)]
  · have written : body ++ [mark ')', mark ';'] = (body ++ [mark ')']) ++ [mark ';'] := by simp
    rw [written, withoutSemicolon, List.getLast?_concat, if_pos rfl, List.dropLast_concat]

/-- A call is read from exactly the tokens that have its form. -/
theorem ofTokens?_iff {tokens : List Token} {call : Call} :
    ofTokens? tokens = some call ↔ Form tokens call := by
  obtain ⟨name, args⟩ := call
  constructor
  · intro h
    obtain ⟨ending, hending, hsemi⟩ := withoutSemicolon_append tokens
    rw [ofTokens?] at h
    split at h
    next token opener rest heq =>
      split_ifs at h with hshape
      obtain ⟨hname, rfl, hlast⟩ := hshape
      have closed : rest.dropLast ++ [mark ')'] = rest := List.dropLast_append_getLast? _ hlast
      have written : tokens =
          ⟨.name, token.text⟩ :: mark '(' :: (rest.dropLast ++ mark ')' :: ending) := by
        rw [hsemi, heq, ← hname, ← closed, List.dropLast_concat]
        simp
      split at h
      next hnone =>
        cases h
        rw [hnone] at written
        exact ⟨by simp, ending, hending, written⟩
      next =>
        obtain ⟨args', hargs, heq'⟩ := Option.map_eq_some_iff.mp h
        cases heq'
        obtain ⟨hinner, hkinds⟩ := eq_intersperse_of_separated hargs
        rw [hinner] at written
        exact ⟨fun arg harg => kind_ne_punct.mp (hkinds arg harg), ending, hending, written⟩
    next => cases h
  · rintro ⟨hkinds, ending, hending, rfl⟩
    have stripped := withoutSemicolon_closed
      (⟨.name, name⟩ :: mark '(' :: args.intersperse (mark ',')) hending
    simp only [List.cons_append] at stripped
    simp only [ofTokens?, stripped, List.getLast?_concat, List.dropLast_concat, and_self, if_true]
    split
    next hnone =>
      cases args with
      | nil => rfl
      | cons a rest => cases rest <;> simp at hnone
    next hsome =>
      have filled : args ≠ [] := by
        rintro rfl
        exact hsome rfl
      rw [separated_intersperse filled fun arg harg => kind_ne_punct.mpr (hkinds arg harg)]
      rfl

theorem mem_intersperse {α : Type} {a : α} {l : List α} (separator : α) (h : a ∈ l) :
    a ∈ l.intersperse separator := by
  induction l with
  | nil => cases h
  | cons b rest ih =>
      cases rest with
      | nil => exact h
      | cons c rest =>
          rw [List.intersperse_cons_cons]
          obtain rfl | later := List.mem_cons.mp h
          · exact List.mem_cons_self
          · exact List.mem_cons_of_mem _ (List.mem_cons_of_mem _ (ih later))

theorem Form.mem_tokens {tokens : List Token} {call : Call} (h : Form tokens call) {arg : Token}
    (harg : arg ∈ call.args) : arg ∈ tokens := by
  obtain ⟨-, ending, -, rfl⟩ := h
  have inside := List.mem_append_left (mark ')' :: ending) (mem_intersperse (mark ',') harg)
  exact List.mem_cons_of_mem _ (List.mem_cons_of_mem _ inside)

/-- With two arguments, a comma follows the first. -/
theorem ofTokens?_pair {tokens : List Token} {name : Text} {a b : Token}
    (h : ofTokens? tokens = some ⟨name, [a, b]⟩) :
    ∃ rest, tokens = ⟨.name, name⟩ :: mark '(' :: a :: mark ',' :: rest := by
  obtain ⟨-, ending, -, rfl⟩ := ofTokens?_iff.mp h
  exact ⟨b :: mark ')' :: ending, rfl⟩

end Call

end SketchGrader
