import SketchGrader.Proofs.Effect
import SketchGrader.Proofs.Lexing
import SketchGrader.Proofs.SourceLines

/-!
# Pins that the check covers

The pin check looks for calls with patterns, and a run reads the same calls from tokens. On a line
that is read as a call with a pin, the patterns find this pin, whatever the case of the name, the
blanks between the parts and the script of the digits. So in an accepted program every pin that is
driven was declared, and no analog write is left. There is one gap: a pattern reads a pin from its
digits, while a token may have a sign in front of them.
-/

namespace SketchGrader

namespace Text

theorem lowerChar_eq_foldCase {c : Char} (ascii : ∀ d ∈ lowerChar c, d.toNat < 128) :
    lowerChar c = [foldCase c] := by
  simp only [lowerChar, foldCase] at ascii ⊢
  split_ifs at ascii ⊢ with capital dotted kelvin long dotless
  all_goals simp_all

/-- A name that is an ASCII word in lower case is matched by the word in any case. -/
theorem map_foldCase_of_lower {name word : Text} (ascii : ∀ c ∈ word, c.toNat < 128)
    (h : lower name = word) : name.map foldCase = word := by
  induction name generalizing word with
  | nil => exact h
  | cons c rest ih =>
      have split : lowerChar c ++ lower rest = word := h
      subst split
      have first : lowerChar c = [foldCase c] :=
        lowerChar_eq_foldCase fun d hd => ascii d (List.mem_append_left _ hd)
      have others := ih (fun d hd => ascii d (List.mem_append_right _ hd)) rfl
      rw [List.map_cons, others, first]
      rfl

section
variable {α : Type} {recognise : Text → Option (α × Text)}

theorem findWord_front {t : Text} {found : α × Text} (filled : t ≠ [])
    (h : recognise t = some found) : findWord recognise none t = some found := by
  obtain ⟨c, rest, rfl⟩ := List.exists_cons_of_ne_nil filled
  simp [findWord, h]

theorem mem_findWords_front {t behind : Text} {found : α} (filled : t ≠ [])
    (h : recognise t = some (found, behind)) : found ∈ findWords recognise none t := by
  obtain ⟨c, rest, rfl⟩ := List.exists_cons_of_ne_nil filled
  rw [findWords]
  simp only [Option.any_none, Bool.false_eq_true, if_false, h]
  split_ifs
  · exact List.mem_cons_self
  · exact List.mem_cons_self

end

end Text

open Text

/-! ## How a call begins -/

/-- A text that begins with a name, an opening parenthesis, an argument and a comma. Blanks may
stand in front of all but the name. -/
inductive Opens (name arg : Text) : Text → Prop
  | intro {b₁ b₂ b₃ : Text} (more : Text) (h₁ : ∀ c ∈ b₁, isBlank c = true)
      (h₂ : ∀ c ∈ b₂, isBlank c = true) (h₃ : ∀ c ∈ b₃, isBlank c = true) :
      Opens name arg (name ++ (b₁ ++ '(' :: (b₂ ++ (arg ++ (b₃ ++ ',' :: more)))))

theorem Opens.of_isPrefix {name arg s t : Text} (h : Opens name arg s) (hs : s <+: t) :
    Opens name arg t := by
  obtain ⟨rest, rfl⟩ := hs
  obtain ⟨more, h₁, h₂, h₃⟩ := h
  simpa only [List.append_assoc, List.cons_append] using Opens.intro (more ++ rest) h₁ h₂ h₃

theorem Line.uncommentFrom_isPrefix (quote : Option Char) (before : Char) (t : Text) :
    uncommentFrom quote before t <+: t := by
  have keep : ∀ {c : Char} {s rest : Text}, s <+: rest → c :: s <+: c :: rest :=
    (List.prefix_cons_inj _).mpr
  fun_induction uncommentFrom quote before t with
  | case1 => exact List.nil_prefix
  | case2 _ _ _ _ _ ih => exact keep ih
  | case3 _ _ _ _ _ ih => exact keep ih
  | case4 _ _ _ _ ih => exact keep ih
  | case5 => exact List.nil_prefix
  | case6 _ _ _ _ _ ih => exact keep ih

namespace Call

/-- A call with two arguments opens the line that it is read from. -/
theorem opens_line {line name : Text} {a b : Token} (front : ∀ c ∈ line.head?, isBlank c = false)
    (h : (Token.tokenize (trim (Line.uncomment line))).bind ofTokens? = some ⟨name, [a, b]⟩) :
    Opens name a.text line ∧ (a.kind = .num → Token.IsNumeral a.text) := by
  obtain ⟨tokens, hread, hcall⟩ := Option.bind_eq_some_iff.mp h
  obtain ⟨others, rfl⟩ := ofTokens?_pair hcall
  rw [Token.tokenize] at hread
  have code : Line.uncomment line <+: line := Line.uncommentFrom_isPrefix none ' ' line
  rw [trim, trimLeft_eq_self (head?_of_isPrefix code front)] at hread
  have part : trimRight (trimRight (Line.uncomment line)) <+: line :=
    ((trimRight_isPrefix _).trans (trimRight_isPrefix _)).trans code
  obtain ⟨b₀, r₀, h₀, hname, -, hread⟩ := Token.readAll_eq_cons hread
  obtain ⟨b₁, r₁, h₁, rfl, -, hread⟩ := Token.readAll_eq_cons hread
  obtain ⟨b₂, r₂, h₂, rfl, lexeme, hread⟩ := Token.readAll_eq_cons hread
  obtain ⟨b₃, r₃, h₃, rfl, -, -⟩ := Token.readAll_eq_cons hread
  have nothing : b₀ = [] := by
    cases b₀ with
    | nil => rfl
    | cons c more =>
        have blank := h₀ c List.mem_cons_self
        have solid := head?_of_isPrefix part front c (by rw [hname]; rfl)
        rw [blank] at solid
        cases solid
  rw [hname, nothing] at part
  exact ⟨(Opens.intro r₃ h₁ h₂ h₃).of_isPrefix part, lexeme.isNumeral⟩

end Call

/-! ## What the patterns find -/

namespace PinUse

/-- The names of the calls that drive their first argument. -/
abbrev drivers : List String := ["digitalwrite", "setdutycycle", "timer0.pwm", "timer1.pwm"]

theorem afterBlanksAnd_mark {blanks : Text} {c : Char} (hblanks : ∀ c ∈ blanks, isBlank c = true)
    (solid : isBlank c = false) (rest : Text) :
    afterBlanksAnd [c] (blanks ++ c :: rest) = some rest := by
  rw [afterBlanksAnd_eq_some, trimLeft_blanks hblanks, trimLeft_cons solid]
  rfl

/-- Of names that do not begin with each other, the one that a text begins with is found. -/
theorem afterAny_eq_some {names : List String} {name : String} {written : Text} (rest : Text)
    (hmem : name ∈ names)
    (apart : names.Pairwise fun a b => ¬ a.toList <+: b.toList ∧ ¬ b.toList <+: a.toList)
    (h : written.map foldCase = name.toList) :
    afterAny names (written ++ rest) = some rest := by
  have found : afterAnyCase name.toList (written ++ rest) = some rest :=
    afterAnyCase_eq_some.mpr ⟨written, rfl, h⟩
  induction names with
  | nil => cases hmem
  | cons first others ih =>
      obtain rfl | hmem := List.mem_cons.mp hmem
      · rw [afterAny, List.findSome?_cons_of_isSome (by rw [found]; rfl), found]
      · obtain ⟨hfirst, hothers⟩ := List.pairwise_cons.mp apart
        have missed : afterAnyCase first.toList (written ++ rest) = none := by
          rw [Option.eq_none_iff_forall_ne_some]
          intro rest' hmatch
          obtain ⟨written', ht, h'⟩ := afterAnyCase_eq_some.mp hmatch
          have hprefix : written' <+: written ++ rest := ⟨rest', ht.symm⟩
          obtain shorter | longer :=
            List.prefix_or_prefix_of_prefix hprefix (List.prefix_append written rest)
          · exact (hfirst name hmem).1 (h ▸ h' ▸ shorter.map foldCase)
          · exact (hfirst name hmem).2 (h ▸ h' ▸ longer.map foldCase)
        rw [afterAny, List.findSome?_cons_of_isNone (by rw [missed]; rfl)]
        exact ih hmem hothers

section
variable {name digits t : Text} (filled : digits ≠ [])
  (hdigits : ∀ c ∈ digits, isDigit c = true)
include filled hdigits

theorem trimLeft_digits {blanks : Text} (hblanks : ∀ c ∈ blanks, isBlank c = true) (rest : Text) :
    trimLeft (blanks ++ (digits ++ rest)) = digits ++ rest := by
  obtain ⟨d, more, rfl⟩ := List.exists_cons_of_ne_nil filled
  rw [trimLeft_blanks hblanks]
  exact trimLeft_cons (isBlank_of_isDigit (hdigits d List.mem_cons_self)) _

theorem firstPin?_eq_some {b₁ b₂ b₃ : Text} (more : Text) (h₁ : ∀ c ∈ b₁, isBlank c = true)
    (h₂ : ∀ c ∈ b₂, isBlank c = true) (h₃ : ∀ c ∈ b₃, isBlank c = true) :
    firstPin? (b₁ ++ '(' :: (b₂ ++ (digits ++ (b₃ ++ ',' :: more)))) =
      some (digits, ',' :: more) := by
  have stops : ∀ c ∈ (b₃ ++ ',' :: more).head?, isDigit c = false := by
    intro c hc
    cases b₃ with
    | nil =>
        cases hc
        decide
    | cons d rest =>
        cases hc
        rw [Bool.eq_false_iff]
        intro digit
        have blank := h₃ c List.mem_cons_self
        rw [isBlank_of_isDigit digit] at blank
        cases blank
  have comma : trimLeft (b₃ ++ ',' :: more) = ',' :: more := by
    rw [trimLeft_blanks h₃]
    exact trimLeft_cons (by decide) more
  rw [firstPin?, afterBlanksAnd_mark h₁ (by decide), Option.bind_eq_bind, Option.bind_some,
    trimLeft_digits filled hdigits h₂, run_append filled hdigits stops, Option.bind_eq_bind,
    Option.bind_some]
  simp only [comma]
  rfl

theorem outputUse?_of_opens {key : String} (h : Opens name digits t) (hkey : key ∈ drivers)
    (hname : name.map foldCase = key.toList) :
    ∃ use behind, outputUse? t = some (use, behind) ∧ use.pin = digits := by
  obtain ⟨more, h₁, h₂, h₃⟩ := h
  rw [outputUse?, afterAny_eq_some _ hkey (by decide) hname, Option.bind_eq_bind,
    Option.bind_some, firstPin?_eq_some filled hdigits more h₁ h₂ h₃]
  exact ⟨_, more, rfl, rfl⟩

theorem legacyUse?_of_opens (h : Opens name digits t)
    (hname : name.map foldCase = "analogwrite".toList) : ∃ found, legacyUse? t = some found := by
  obtain ⟨more, h₁, h₂, h₃⟩ := h
  rw [legacyUse?, afterAnyCase_eq_some.mpr ⟨name, rfl, hname⟩, Option.bind_eq_bind,
    Option.bind_some, afterBlanksAnd_mark h₁ (by decide), Option.bind_some,
    trimLeft_digits filled hdigits h₂]
  obtain ⟨d, others, rfl⟩ := List.exists_cons_of_ne_nil filled
  have word : isWord d = true := isWord_of_isDigit (hdigits d List.mem_cons_self)
  rw [List.cons_append, run, List.takeWhile_cons_of_pos word]
  exact ⟨_, rfl⟩

end

/-! ## What the check accepts -/

theorem checkUses_eq_ok {declared : List (Int × Text)} {needed : Direction} {line : Int}
    {uses : List Use} (h : checkUses declared needed line uses = .ok ()) :
    ∀ use ∈ uses, ∃ pin, Token.value use.pin = .ok pin ∧ (pin, needed.name.toList) ∈ declared := by
  induction uses with
  | nil => nofun
  | cons first rest ih =>
      rw [checkUses] at h
      split at h
      next => cases h
      next pin hpin =>
        split_ifs at h with hdeclared
        intro use hu
        obtain rfl | hu := List.mem_cons.mp hu
        · exact ⟨pin, hpin, List.contains_iff_mem.mp hdeclared⟩
        · exact ih h use hu

theorem checkLine_eq_ok {declared : List (Int × Text)} {line : Int × Text}
    (h : checkLine declared line = .ok ()) :
    findWord legacyUse? none line.2 = none ∧
      checkUses declared .output line.1 (findWords outputUse? none line.2) = .ok () := by
  unfold checkLine at h
  split at h
  next => cases h
  next hlegacy =>
    refine ⟨hlegacy, ?_⟩
    cases ho : checkUses declared .output line.1 (findWords outputUse? none line.2) with
    | error halt =>
        rw [ho] at h
        cases h
    | ok u => rfl

theorem checkLines_eq_ok {declared : List (Int × Text)} {lines : List (Int × Text)}
    (h : checkLines declared lines = .ok ()) :
    ∀ line ∈ lines, checkLine declared line = .ok () := by
  induction lines with
  | nil => nofun
  | cons first rest ih =>
      rw [checkLines] at h
      cases hfirst : checkLine declared first with
      | error halt =>
          rw [hfirst] at h
          cases h
      | ok u =>
          rw [hfirst] at h
          intro line hline
          obtain rfl | hline := List.mem_cons.mp hline
          · exact hfirst
          · exact ih h line hline

theorem mem_readPins {α : Type} {written : List (Text × α)} {pins : List (Int × α)}
    (h : readPins written = .ok pins) :
    ∀ pin a, (pin, a) ∈ pins → ∃ digits, (digits, a) ∈ written ∧ Token.value digits = .ok pin := by
  induction written generalizing pins with
  | nil =>
      cases h
      nofun
  | cons first rest ih =>
      obtain ⟨digits, b⟩ := first
      rw [readPins] at h
      cases hvalue : Token.value digits with
      | error breakdown =>
          rw [hvalue] at h
          cases h
      | ok value =>
          cases hrest : readPins rest with
          | error breakdown =>
              rw [hvalue, hrest] at h
              cases h
          | ok others =>
              rw [hvalue, hrest] at h
              cases h
              intro pin a hmem
              obtain heq | hmem := List.mem_cons.mp hmem
              · cases heq
                exact ⟨digits, List.mem_cons_self, hvalue⟩
              · obtain ⟨digits', hd, hv⟩ := ih hrest pin a hmem
                exact ⟨digits', List.mem_cons_of_mem _ hd, hv⟩

/-- The setup body of the program declares the pin as an output. -/
def DeclaresOutput (p : Program) (pin : Int) : Prop :=
  ∃ line ∈ p.statementLines .setup, ∃ digits,
    (digits, "OUTPUT".toList) ∈ findWords declaration? none line.2 ∧ Token.value digits = .ok pin

/-- A program that passes the check has no analog write and declares all pins that it drives, as
far as the patterns find them. -/
theorem check_eq_ok {p : Program} (h : check p = .ok ()) {b : Body} {line : Int × Text}
    (hline : line ∈ p.statementLines b) :
    findWord legacyUse? none line.2 = none ∧
      ∀ use ∈ findWords outputUse? none line.2, ∃ pin, Token.value use.pin = .ok pin ∧
        DeclaresOutput p pin := by
  unfold check at h
  split at h
  next => cases h
  next declared hdeclared =>
    have hmem : line ∈ p.statementLines .setup ++ p.statementLines .loop := by
      cases b with
      | setup => exact List.mem_append_left _ hline
      | loop => exact List.mem_append_right _ hline
    obtain ⟨hlegacy, huses⟩ := checkLine_eq_ok (checkLines_eq_ok h line hmem)
    refine ⟨hlegacy, ?_⟩
    intro use hu
    obtain ⟨pin, hpin, hpinDeclared⟩ := checkUses_eq_ok huses use hu
    obtain ⟨digits, hdigits, hvalue⟩ := mem_readPins hdeclared pin _ hpinDeclared
    obtain ⟨line', hline', hfound⟩ := List.mem_flatMap.mp hdigits
    exact ⟨pin, hpin, line', hline', digits, hfound, hvalue⟩

end PinUse

/-! ## Statements that name a pin -/

namespace Callee

theorem pinned_eq_ok {α : Type} {a : Token} {x : Except Problem α} {f : Int → α → Statement}
    {statement : Statement} (h : (do return f (← pinOf a) (← x)) = Except.ok statement) :
    ∃ pin v, pinOf a = .ok pin ∧ statement = f pin v := by
  obtain ⟨pin, hpin, hrest⟩ := bind_eq_ok.mp h
  obtain ⟨v, -, hv⟩ := bind_eq_ok.mp hrest
  exact ⟨pin, v, hpin, (Except.ok.inj hv).symm⟩

/-- A statement that drives a pin, or writes an analog value to it, comes from a call whose first
argument is the pin. -/
theorem statement?_cases {callee : Callee} {args : List Token} {statement : Statement}
    (h : callee.statement? args = some (.ok statement)) :
    (statement.writtenPin? = none ∧ ∀ pin value, statement ≠ .analogWrite pin value) ∨
      ∃ a b pin, args = [a, b] ∧ pinOf a = .ok pin ∧
        (callee.key ∈ PinUse.drivers ∧ statement.writtenPin? = some pin ∨
          callee.key = "analogwrite" ∧ ∃ value, statement = .analogWrite pin value) := by
  unfold statement? at h
  split at h
  next a b =>
    obtain ⟨pin, mode, -, rfl⟩ := pinned_eq_ok (Option.some.inj h)
    exact .inl ⟨rfl, nofun⟩
  next a b =>
    obtain ⟨pin, level, ha, rfl⟩ := pinned_eq_ok (Option.some.inj h)
    exact .inr ⟨a, b, pin, rfl, ha, .inl ⟨by decide, rfl⟩⟩
  next a b =>
    obtain ⟨pin, percent, ha, rfl⟩ := pinned_eq_ok (Option.some.inj h)
    exact .inr ⟨a, b, pin, rfl, ha, .inl ⟨by decide, rfl⟩⟩
  next a b =>
    obtain ⟨pin, value, ha, rfl⟩ := pinned_eq_ok (Option.some.inj h)
    exact .inr ⟨a, b, pin, rfl, ha, .inr ⟨rfl, value, rfl⟩⟩
  next a =>
    obtain ⟨ms, -, hms⟩ := bind_eq_ok.mp (Option.some.inj h)
    cases hms
    exact .inl ⟨rfl, nofun⟩
  next timer =>
    cases h
    exact .inl ⟨rfl, nofun⟩
  next a =>
    obtain ⟨period, -, hperiod⟩ := bind_eq_ok.mp (Option.some.inj h)
    cases hperiod
    exact .inl ⟨rfl, nofun⟩
  next timer a b =>
    obtain ⟨pin, duty, ha, rfl⟩ := pinned_eq_ok (Option.some.inj h)
    refine .inr ⟨a, b, pin, rfl, ha, .inl ⟨?_, rfl⟩⟩
    cases timer with
    | one => decide
    | zero => decide
  next timer =>
    cases h
    exact .inl ⟨rfl, nofun⟩
  next => cases h

theorem pinOf_eq_ok {arg : Token} {pin : Int} (h : pinOf arg = .ok pin) :
    arg.kind = .num ∧ Token.value arg.text = .ok pin := by
  unfold pinOf at h
  split_ifs at h with hkind
  refine ⟨hkind, ?_⟩
  unfold readNumber at h
  split at h
  next n hn =>
    cases h
    exact hn
  next => cases h

theorem key_ascii (callee : Callee) : ∀ c ∈ callee.key.toList, c.toNat < 128 := by
  have checked : (callee.key.toList.all fun c => c.toNat < 128) = true := by
    cases callee with
    | timerStart timer | timerPwm timer | timerStop timer => cases timer <;> decide
    | _ => decide
  intro c hc
  exact of_decide_eq_true (List.all_eq_true.mp checked c hc)

/-- A call is looked up by its name in any case. -/
theorem find?_eq_some {name : Text} {callee : Callee} (h : find? name = some callee) :
    name.map foldCase = callee.key.toList := by
  have found := List.find?_some h
  exact map_foldCase_of_lower (key_ascii callee) (beq_iff_eq.mp found).symm

end Callee

namespace Statement

theorem call_of_ofText {text : Text} {statement : Statement}
    (plain : Line.isConditional text = false) (h : ofText text = .ok statement) :
    ∃ call callee, (Token.tokenize text).bind Call.ofTokens? = some call ∧
      Callee.find? call.name = some callee ∧
      callee.statement? call.args = some (.ok statement) := by
  rw [ofText, if_neg (Bool.eq_false_iff.mp plain)] at h
  dsimp only at h
  split at h
  next => cases h
  next call hcall =>
    split at h
    next => cases h
    next callee hcallee =>
      split at h
      next => cases h
      next result hresult =>
        rw [h] at hresult
        exact ⟨call, callee, hcall, hcallee, hresult⟩

theorem ofText_eq_ok {text : Text} {statement : Statement} (h : ofText text = .ok statement) :
    statement = .conditional text ∨ ∃ call callee,
      (Token.tokenize text).bind Call.ofTokens? = some call ∧
        Callee.find? call.name = some callee ∧
        callee.statement? call.args = some (.ok statement) := by
  cases plain : Line.isConditional text with
  | true =>
      rw [ofText, if_pos plain] at h
      exact .inl (Except.ok.inj h).symm
  | false => exact .inr (call_of_ofText plain h)

theorem ofLine?_eq_ok {line : Text} {statement : Statement}
    (h : ofLine? line = .ok (some statement)) :
    ofText (trim (Line.uncomment line)) = .ok statement := by
  unfold ofLine? at h
  split at h
  next => cases h
  next =>
    cases ht : ofText (trim (Line.uncomment line)) with
    | error problem =>
        rw [ht] at h
        cases h
    | ok other =>
        rw [ht] at h
        cases h
        rfl

end Statement

namespace PinUse

/-- Whether the first argument of the call on a line is written with a sign. -/
def signsPin (line : Text) : Bool :=
  match (Token.tokenize (trim (Line.uncomment line))).bind Call.ofTokens? with
  | some ⟨_, arg :: _⟩ => arg.text.head? == some '-' || arg.text.head? == some '+'
  | _ => false

theorem digits_of_unsigned {line name : Text} {arg : Token} {args : List Token}
    (unsigned : signsPin line = false)
    (h : (Token.tokenize (trim (Line.uncomment line))).bind Call.ofTokens? =
      some ⟨name, arg :: args⟩) (numeral : Token.IsNumeral arg.text) :
    arg.text ≠ [] ∧ ∀ c ∈ arg.text, isDigit c = true := by
  obtain ⟨digits, filled, hdigits, written | ⟨sign, hsign, written⟩⟩ := numeral
  · rw [written]
    exact ⟨filled, hdigits⟩
  · simp only [signsPin, h, written, List.head?_cons, Bool.or_eq_false_iff, beq_eq_false_iff_ne,
      ne_eq, Option.some.injEq] at unsigned
    exact absurd hsign (not_or.mpr unsigned)

end PinUse

/-- In an accepted program no analog write is left, and every pin that a statement drives is
declared as an output in the setup body, unless the statement writes its pin with a sign. -/
theorem Program.written_pins_are_declared {source : Text} {p : Program}
    (accepted : Program.ofSource source = .ok p) {b : Body} {number : Int} {text : Text}
    (hline : (number, text) ∈ p.statementLines b) {statement : Statement}
    (hread : Statement.ofLine? text = .ok (some statement))
    (unsigned : PinUse.signsPin text = false) :
    (∀ pin value, statement ≠ .analogWrite pin value) ∧
      ∀ pin, statement.writtenPin? = some pin → PinUse.DeclaresOutput p pin := by
  obtain ⟨hlegacy, huses⟩ := PinUse.check_eq_ok (Program.ofSource_eq_ok accepted).2 hline
  obtain ⟨-, raw, -, -, htext, filled⟩ := Program.mem_numbered hline
  have front : ∀ c ∈ text.head?, isBlank c = false := htext ▸ head?_trim raw
  obtain rfl | ⟨⟨name, args⟩, callee, hcall, hcallee, hstatement⟩ :=
    Statement.ofText_eq_ok (Statement.ofLine?_eq_ok hread)
  · exact ⟨nofun, nofun⟩
  obtain ⟨hnone, hanalog⟩ | ⟨a, arg, pin, rfl, hpin, hcases⟩ := Callee.statement?_cases hstatement
  · refine ⟨hanalog, ?_⟩
    intro pin hpin
    rw [hnone] at hpin
    cases hpin
  obtain ⟨opens, numeral⟩ := Call.opens_line front hcall
  obtain ⟨hkind, hvalue⟩ := Callee.pinOf_eq_ok hpin
  obtain ⟨hne, hdigits⟩ := PinUse.digits_of_unsigned unsigned hcall (numeral hkind)
  have hname := Callee.find?_eq_some hcallee
  obtain ⟨hkey, hwritten⟩ | ⟨hkey, -⟩ := hcases
  · obtain ⟨use, behind, hfound, huse⟩ := PinUse.outputUse?_of_opens hne hdigits opens hkey hname
    obtain ⟨pin', hpin', declares⟩ := huses use (mem_findWords_front filled hfound)
    have same : pin' = pin := by
      rw [huse, hvalue] at hpin'
      exact (Except.ok.inj hpin').symm
    refine ⟨?_, ?_⟩
    · rintro q value rfl
      cases hwritten
    · intro q hq
      rw [hwritten] at hq
      cases hq
      exact same ▸ declares
  · rw [hkey] at hname
    obtain ⟨found, hfound⟩ := PinUse.legacyUse?_of_opens hne hdigits opens hname
    rw [findWord_front filled hfound] at hlegacy
    cases hlegacy

/-- A pin in two spellings: with a leading zero where it is declared, and with a digit of another
script where it is driven. -/
def Source.spelledPin : Text :=
  ("#include <TimerOne.h>\nvoid setup() \x7b\n  PINMODE ( 09 , Output );\n" ++
    "  TIMER1.Pwm( \u0669 , 512); // dim\n\x7d\n").toList

def Program.spelledPin : Program where
  setupBody := ("\n  PINMODE ( 09 , Output );\n  TIMER1.Pwm( \u0669 , 512);       \n").toList
  setupLine := 2
  absent := [.loop]

theorem Program.written_pins_are_declared_spelled :
    Program.ofSource Source.spelledPin = .ok spelledPin ∧
      (4, "TIMER1.Pwm( \u0669 , 512);".toList) ∈ spelledPin.statementLines .setup ∧
      Statement.ofLine? "TIMER1.Pwm( \u0669 , 512);".toList =
        .ok (some (.timerPwm .one 9 512)) ∧
      PinUse.signsPin "TIMER1.Pwm( \u0669 , 512);".toList = false ∧
      PinUse.DeclaresOutput spelledPin 9 := by
  have accepted : Program.ofSource Source.spelledPin = .ok spelledPin := by decide +kernel
  have line : (4, "TIMER1.Pwm( \u0669 , 512);".toList) ∈ spelledPin.statementLines .setup := by
    decide +kernel
  have read : Statement.ofLine? "TIMER1.Pwm( \u0669 , 512);".toList =
      .ok (some (.timerPwm .one 9 512)) := by
    decide +kernel
  have unsigned : PinUse.signsPin "TIMER1.Pwm( \u0669 , 512);".toList = false := by
    decide +kernel
  obtain ⟨-, declares⟩ := written_pins_are_declared accepted line read unsigned
  exact ⟨accepted, line, read, unsigned, declares 9 rfl⟩

/-- A pin with a sign that is driven and nowhere declared. -/
def Source.signedPin : Text :=
  ("void setup() \x7b\n  digitalWrite(+13, HIGH);\n\x7d\n").toList

/-- With a sign in front of it, a pin passes the check without a declaration. -/
theorem Program.signed_pins_are_not_covered :
    ¬ ∀ (source : Text) (p : Program) (b : Body) (number : Int) (text : Text)
      (statement : Statement), Program.ofSource source = .ok p →
      (number, text) ∈ p.statementLines b →
      Statement.ofLine? text = .ok (some statement) →
      (∀ pin value, statement ≠ .analogWrite pin value) ∧
        ∀ pin, statement.writtenPin? = some pin → PinUse.DeclaresOutput p pin := by
  intro claim
  have lines : Program.statementLines
      ⟨("\n  digitalWrite(+13, HIGH);\n").toList, [], 1, 1, [.loop]⟩ .setup =
      [(2, "digitalWrite(+13, HIGH);".toList)] := by
    decide +kernel
  have read : Statement.ofLine? "digitalWrite(+13, HIGH);".toList =
      .ok (some (.digitalWrite 13 "HIGH".toList)) := by
    decide +kernel
  obtain ⟨line, hline, digits, hfound, -⟩ :=
    (claim Source.signedPin _ .setup 2 _ _ (by decide +kernel)
      (lines ▸ List.mem_singleton_self _) read).2 13 rfl
  have undeclared :
      findWords PinUse.declaration? none "digitalWrite(+13, HIGH);".toList = [] := by
    decide +kernel
  rw [lines, List.mem_singleton] at hline
  rw [hline, undeclared] at hfound
  cases hfound

end SketchGrader
