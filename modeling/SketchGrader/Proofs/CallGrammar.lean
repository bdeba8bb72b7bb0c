import SketchGrader.Proofs.PinCoverage

/-!
# The grammar of calls

A line that is no conditional syntax is read as a call. Its tokens have to form one: a name, an
opening parenthesis, arguments with commas between them, a closing parenthesis and at most one
semicolon. The name has to be in the table, the number of arguments has to be one that the call
takes, and each argument has to be of the kind that its place wants. Which of these fails first
decides the class of the mistake.
-/

namespace SketchGrader

open Text

/-! ## Numbers -/

namespace Token

/-- Every number among the tokens of a text is a numeral. -/
theorem isNumeral_of_readAll {t : Text} {tokens : List Token} (h : readAll t = some tokens) :
    ∀ token ∈ tokens, token.kind = .num → IsNumeral token.text := by
  intro token hmem
  exact (lexeme_of_readAll h token hmem).isNumeral

section
variable {digits : Text} (short : digits.length ≤ numeralLimit)
include short

theorem value_of_digits (filled : digits ≠ []) (hdigits : ∀ c ∈ digits, isDigit c = true) :
    value digits = .ok (natOfDigits digits) := by
  obtain ⟨d, rest, rfl⟩ := List.exists_cons_of_ne_nil filled
  have hd : isDigit d = true := hdigits d List.mem_cons_self
  have minus : (some d == some '-') = false := by
    rw [Option.some_beq_some, beq_eq_false_iff_ne]
    rintro rfl
    cases hd
  have plus : (some d == some '+') = false := by
    rw [Option.some_beq_some, beq_eq_false_iff_ne]
    rintro rfl
    cases hd
  have fits : ¬ (d :: rest).length > numeralLimit := by omega
  simp only [value, List.head?_cons, minus, plus, Bool.or_self, Bool.false_eq_true, if_false,
    if_neg fits]

theorem value_of_plus : value ('+' :: digits) = .ok (natOfDigits digits) := by
  have fits : ¬ digits.length > numeralLimit := by omega
  simp [value, fits]

theorem value_of_minus : value ('-' :: digits) = .ok (-(natOfDigits digits : Int)) := by
  have fits : ¬ digits.length > numeralLimit := by omega
  simp [value, fits]

end

/-- A numeral denotes a number unless it has too many digits. -/
theorem value_of_isNumeral {numeral : Text} (h : IsNumeral numeral)
    (short : numeral.countP isDigit ≤ numeralLimit) : ∃ n, value numeral = .ok n := by
  obtain ⟨digits, filled, hdigits, hwritten⟩ := h
  have count : digits.countP isDigit = digits.length := List.countP_eq_length.mpr hdigits
  obtain rfl | ⟨sign, hsign, rfl⟩ := hwritten
  · exact ⟨_, value_of_digits (by omega) filled hdigits⟩
  · rw [List.countP_cons] at short
    obtain rfl | rfl := hsign
    · exact ⟨_, value_of_minus (by omega)⟩
    · exact ⟨_, value_of_plus (by omega)⟩

end Token

/-! ## Arguments in their places -/

/-- What a place of a call holds. -/
inductive Place where
  | pin
  | number
  | keyword
  deriving DecidableEq, Repr

/-- The kind of token that a place wants. -/
def Place.kind : Place → TokenKind
  | pin | number => .num
  | keyword => .name

/-- What reading a line comes to: a statement, or a mistake of some class. -/
inductive Ruling where
  | accepted
  | refused (kind : FaultKind)
  deriving DecidableEq, Repr

/-- A reading has this ruling. -/
def Ruling.Of (r : Except Problem Statement) : Ruling → Prop
  | accepted => ∃ statement, r = .ok statement
  | refused kind => ∃ cause, r = .error (.cause cause) ∧ cause.kind = kind

namespace Callee

/-- The places of a call with all its arguments. -/
def places : Callee → List Place
  | pinMode | digitalWrite => [.pin, .keyword]
  | setDuty | analogWrite | timerPwm _ => [.pin, .number]
  | delay | timerStart .one => [.number]
  | timerStart .zero | timerStop _ => []

/-- A call is found by its name in lower case. -/
theorem find?_iff {name : Text} {callee : Callee} :
    find? name = some callee ↔ lower name = callee.key.toList := by
  constructor
  · intro h
    have found := List.find?_some h
    exact (beq_iff_eq.mp found).symm
  · intro h
    rw [find?, h]
    cases callee with
    | timerStart timer | timerPwm timer | timerStop timer => cases timer <;> rfl
    | _ => rfl

/-- What an argument gives depends on whether it is of the kind that its place wants. -/
structure Admits {α : Type} (place : Place) (arg : Token) (r : Except Problem α) : Prop where
  fits : arg.kind = place.kind → ∃ a, r = .ok a
  refused : arg.kind ≠ place.kind → ∃ cause, r = .error (.cause cause) ∧ cause.kind = .invalidValue

/-- A numeral that can be read. -/
def Legible (arg : Token) : Prop := arg.kind = .num → ∃ n, Token.value arg.text = .ok n

theorem readNumber_of_value {numeral : Text} {n : Int} (h : Token.value numeral = .ok n) :
    readNumber numeral = .ok n := by
  rw [readNumber, h]

theorem pinOf_of_num {arg : Token} {n : Int} (hkind : arg.kind = .num)
    (h : Token.value arg.text = .ok n) : pinOf arg = .ok n := by
  rw [pinOf, if_pos hkind, readNumber_of_value h]

theorem pinOf_of_not_num {arg : Token} (hkind : arg.kind ≠ .num) :
    pinOf arg = .error (.cause (.pinNotNumber (String.ofList arg.text))) :=
  if_neg hkind

theorem numberOf_of_num {role : NumberRole} {arg : Token} {n : Int} (hkind : arg.kind = .num)
    (h : Token.value arg.text = .ok n) : numberOf role arg = .ok n := by
  rw [numberOf, if_pos hkind, readNumber_of_value h]

theorem numberOf_admits {role : NumberRole} {arg : Token} (legible : Legible arg) :
    Admits .number arg (numberOf role arg) := by
  constructor
  · intro hkind
    obtain ⟨n, hn⟩ := legible hkind
    exact ⟨n, numberOf_of_num hkind hn⟩
  · intro hkind
    exact ⟨_, if_neg hkind, rfl⟩

theorem keywordOf_admits (role : KeywordRole) (arg : Token) :
    Admits .keyword arg (keywordOf role arg) := by
  constructor
  · intro hkind
    exact ⟨_, if_pos hkind⟩
  · intro hkind
    exact ⟨_, if_neg hkind, rfl⟩

/-- The ruling on arguments in their places: a pin comes first, then the others. -/
structure Settles (entries : List (Place × Token)) (r : Except Problem Statement) : Prop where
  accepted : (∀ entry ∈ entries, entry.2.kind = entry.1.kind) → Ruling.accepted.Of r
  badPin : (∃ entry ∈ entries, entry.1 = .pin ∧ entry.2.kind ≠ .num) →
    (Ruling.refused .invalidPin).Of r
  badValue : (∀ entry ∈ entries, entry.1 = .pin → entry.2.kind = .num) →
    (∃ entry ∈ entries, entry.2.kind ≠ entry.1.kind) → (Ruling.refused .invalidValue).Of r

theorem settles_nothing (statement : Statement) (places : List Place) :
    Settles (places.zip []) (.ok statement) := by
  rw [List.zip_nil_right]
  exact ⟨fun _ => ⟨statement, rfl⟩, by simp, by simp⟩

theorem settles_single {α : Type} {place : Place} {a : Token} {x : Except Problem α}
    (other : place ≠ .pin) (h : Admits place a x) (f : α → Statement) :
    Settles [(place, a)] (do return f (← x)) := by
  constructor
  · intro fit
    obtain ⟨v, rfl⟩ := h.fits (by simpa using fit)
    exact ⟨f v, rfl⟩
  · intro bad
    exact absurd (by simpa using bad : place = .pin ∧ a.kind ≠ .num).1 other
  · rintro - bad
    obtain ⟨cause, rfl, hcause⟩ := h.refused (by simpa using bad)
    exact ⟨cause, rfl, hcause⟩

theorem settles_pair {α : Type} {place : Place} {a b : Token} {x : Except Problem α}
    (other : place ≠ .pin) (legible : Legible a) (h : Admits place b x)
    (f : Int → α → Statement) :
    Settles [(.pin, a), (place, b)] (do return f (← pinOf a) (← x)) := by
  constructor
  · intro fit
    simp only [List.forall_mem_cons, List.not_mem_nil, false_implies, implies_true,
      and_true] at fit
    obtain ⟨n, hn⟩ := legible fit.1
    obtain ⟨v, rfl⟩ := h.fits fit.2
    rw [pinOf_of_num fit.1 hn]
    exact ⟨f n v, rfl⟩
  · intro bad
    have hkind : a.kind ≠ .num := by simpa [other] using bad
    rw [pinOf_of_not_num hkind]
    exact ⟨_, rfl, rfl⟩
  · intro pins bad
    have hkind : a.kind = .num := pins _ List.mem_cons_self rfl
    obtain ⟨n, hn⟩ := legible hkind
    have wrong : b.kind ≠ place.kind := by simpa [Place.kind, hkind] using bad
    obtain ⟨cause, rfl, hcause⟩ := h.refused wrong
    rw [pinOf_of_num hkind hn]
    exact ⟨cause, rfl, hcause⟩

/-- With a number of arguments that the call takes, its places decide the ruling. -/
theorem statement?_settles {callee : Callee} {args : List Token}
    (arity : args.length ∈ callee.arities) (legible : ∀ arg ∈ args, Legible arg) :
    ∃ r, callee.statement? args = some r ∧ Settles (callee.places.zip args) r := by
  have two (h : args.length ∈ [2]) :
      ∃ a b, args = [a, b] ∧ Legible a ∧ Legible b := by
    obtain ⟨a, b, rfl⟩ := List.length_eq_two.mp (List.mem_singleton.mp h)
    exact ⟨a, b, rfl, by simpa using legible⟩
  cases callee with
  | pinMode =>
      obtain ⟨a, b, rfl, ha, -⟩ := two arity
      exact ⟨_, rfl, settles_pair (by decide) ha (keywordOf_admits .mode b) _⟩
  | digitalWrite =>
      obtain ⟨a, b, rfl, ha, -⟩ := two arity
      exact ⟨_, rfl, settles_pair (by decide) ha (keywordOf_admits .level b) _⟩
  | setDuty =>
      obtain ⟨a, b, rfl, ha, hb⟩ := two arity
      exact ⟨_, rfl, settles_pair (by decide) ha (numberOf_admits hb) _⟩
  | analogWrite =>
      obtain ⟨a, b, rfl, ha, hb⟩ := two arity
      exact ⟨_, rfl, settles_pair (by decide) ha (numberOf_admits hb) _⟩
  | timerPwm timer =>
      obtain ⟨a, b, rfl, ha, hb⟩ := two arity
      exact ⟨_, rfl, settles_pair (by decide) ha (numberOf_admits hb) _⟩
  | delay =>
      obtain ⟨a, rfl⟩ := List.length_eq_one_iff.mp (List.mem_singleton.mp arity)
      exact ⟨_, rfl, settles_single (by decide) (numberOf_admits (legible a (by simp))) _⟩
  | timerStop timer =>
      obtain rfl := List.length_eq_zero_iff.mp (List.mem_singleton.mp arity)
      exact ⟨_, rfl, settles_nothing _ _⟩
  | timerStart timer =>
      cases timer with
      | zero =>
          obtain rfl := List.length_eq_zero_iff.mp (List.mem_singleton.mp arity)
          exact ⟨_, rfl, settles_nothing _ _⟩
      | one =>
          obtain none | one := List.mem_pair.mp arity
          · obtain rfl := List.length_eq_zero_iff.mp none
            exact ⟨_, rfl, settles_nothing _ _⟩
          · obtain ⟨a, rfl⟩ := List.length_eq_one_iff.mp one
            exact ⟨_, rfl, settles_single (by decide) (numberOf_admits (legible a (by simp))) _⟩

theorem arity_of_statement? {callee : Callee} {args : List Token} {r : Except Problem Statement}
    (h : callee.statement? args = some r) : args.length ∈ callee.arities := by
  unfold statement? at h
  split at h
  case h_6 timer => cases timer <;> exact List.mem_cons_self
  case h_7 => exact List.mem_cons_of_mem 0 List.mem_cons_self
  case h_10 => cases h
  all_goals exact List.mem_cons_self

/-- The call that a statement comes from. -/
def ofStatement? : Statement → Option Callee
  | .pinMode .. => some pinMode
  | .digitalWrite .. => some digitalWrite
  | .setDuty .. => some setDuty
  | .analogWrite .. => some analogWrite
  | .timerStart timer _ => some (timerStart timer)
  | .timerPwm timer _ _ => some (timerPwm timer)
  | .timerStop timer => some (timerStop timer)
  | .wait _ => some delay
  | .conditional _ => none

theorem ofStatement?_of_statement? {callee : Callee} {args : List Token} {statement : Statement}
    (h : callee.statement? args = some (.ok statement)) : ofStatement? statement = some callee := by
  unfold statement? at h
  split at h
  case h_5 | h_7 =>
    obtain ⟨n, -, hn⟩ := bind_eq_ok.mp (Option.some.inj h)
    cases hn
    rfl
  case h_6 | h_9 =>
    cases h
    rfl
  case h_10 => cases h
  all_goals
    obtain ⟨pin, v, -, rfl⟩ := pinned_eq_ok (Option.some.inj h)
    rfl

/-- The text is written as the call with these arguments, as far as its form, its name and the
number of its arguments go. -/
def CalledIn (callee : Callee) (text : Text) (args : List Token) : Prop :=
  ∃ tokens name, Token.tokenize text = some tokens ∧ Call.Form tokens ⟨name, args⟩ ∧
    lower name = callee.key.toList ∧ args.length ∈ callee.arities

end Callee

/-! ## Rulings on lines -/

namespace Statement

/-- The rulings of the grammar. -/
inductive Judged (text : Text) : Ruling → Prop
  | accepted {callee : Callee} {args : List Token} (h : callee.CalledIn text args)
      (fit : ∀ entry ∈ callee.places.zip args, entry.2.kind = entry.1.kind) :
      Judged text .accepted
  | unrecognized (h : ¬ ∃ callee args, Callee.CalledIn callee text args) :
      Judged text (.refused .unrecognized)
  | badPin {callee : Callee} {args : List Token} (h : callee.CalledIn text args)
      (bad : ∃ entry ∈ callee.places.zip args, entry.1 = .pin ∧ entry.2.kind ≠ .num) :
      Judged text (.refused .invalidPin)
  | badValue {callee : Callee} {args : List Token} (h : callee.CalledIn text args)
      (pins : ∀ entry ∈ callee.places.zip args, entry.1 = .pin → entry.2.kind = .num)
      (bad : ∃ entry ∈ callee.places.zip args, entry.2.kind ≠ entry.1.kind) :
      Judged text (.refused .invalidValue)

theorem exists_judged (text : Text) : ∃ ruling, Judged text ruling := by
  by_cases called : ∃ callee args, Callee.CalledIn callee text args
  · obtain ⟨callee, args, h⟩ := called
    by_cases pins : ∀ entry ∈ callee.places.zip args, entry.1 = .pin → entry.2.kind = .num
    · by_cases fit : ∀ entry ∈ callee.places.zip args, entry.2.kind = entry.1.kind
      · exact ⟨_, .accepted h fit⟩
      · push Not at fit
        exact ⟨_, .badValue h pins fit⟩
    · push Not at pins
      exact ⟨_, .badPin h pins⟩
  · exact ⟨_, .unrecognized called⟩

/-- What is read from a line that holds a call. -/
theorem ofText_of_calledIn {text : Text} (plain : Line.isConditional text = false)
    (legible : ∀ tokens, Token.tokenize text = some tokens → ∀ token ∈ tokens,
      Callee.Legible token)
    {callee : Callee} {args : List Token} (h : callee.CalledIn text args) :
    Callee.Settles (callee.places.zip args) (ofText text) := by
  obtain ⟨tokens, name, htokens, hform, hname, harity⟩ := h
  obtain ⟨r, hr, settles⟩ := Callee.statement?_settles harity
    fun arg harg => legible tokens htokens arg (hform.mem_tokens harg)
  have read : ofText text = r := by
    simp only [ofText, plain, Bool.false_eq_true, if_false, htokens, Option.bind_some,
      Call.ofTokens?_iff.mpr hform, Callee.find?_iff.mpr hname, hr]
  rwa [read]

theorem ofText_of_not_calledIn {text : Text} (plain : Line.isConditional text = false)
    (h : ¬ ∃ callee args, Callee.CalledIn callee text args) :
    (Ruling.refused .unrecognized).Of (ofText text) := by
  rw [ofText, if_neg (by rw [plain]; exact Bool.false_ne_true)]
  dsimp only
  split
  next => exact ⟨_, rfl, rfl⟩
  next call hcall =>
    split
    next => exact ⟨_, rfl, rfl⟩
    next callee hcallee =>
      split
      next => exact ⟨_, rfl, rfl⟩
      next r hr =>
        obtain ⟨tokens, htokens, hform⟩ := Option.bind_eq_some_iff.mp hcall
        exact absurd ⟨callee, call.args, tokens, call.name, htokens, Call.ofTokens?_iff.mp hform,
          Callee.find?_iff.mp hcallee, Callee.arity_of_statement? hr⟩ h

/-- Reading follows the grammar. -/
theorem ofText_of_judged {text : Text} (plain : Line.isConditional text = false)
    (legible : ∀ tokens, Token.tokenize text = some tokens → ∀ token ∈ tokens,
      Callee.Legible token)
    {ruling : Ruling} (h : Judged text ruling) : ruling.Of (ofText text) := by
  cases h with
  | accepted h fit => exact (ofText_of_calledIn plain legible h).accepted fit
  | unrecognized h => exact ofText_of_not_calledIn plain h
  | badPin h bad => exact (ofText_of_calledIn plain legible h).badPin bad
  | badValue h pins bad => exact (ofText_of_calledIn plain legible h).badValue pins bad

/-- Reading the line with this number has this ruling: the statement stands in the line, and a
mistake is reported at it. -/
def ReadsAs (number : Int) (line : Text) : Ruling → Prop
  | .accepted => ∃ statement, read number line = .ok (some ⟨statement, number⟩)
  | .refused kind => ∃ cause, read number line = .error (.fault ⟨number, cause⟩) ∧
      cause.kind = kind

theorem ReadsAs.unique {number : Int} {line : Text} {v w : Ruling} (hv : ReadsAs number line v)
    (hw : ReadsAs number line w) : v = w := by
  cases v with
  | accepted =>
      obtain ⟨statement, hs⟩ := hv
      cases w with
      | accepted => rfl
      | refused kind =>
          obtain ⟨cause, hc, -⟩ := hw
          rw [hs] at hc
          cases hc
  | refused kind =>
      obtain ⟨cause, hc, rfl⟩ := hv
      cases w with
      | accepted =>
          obtain ⟨statement, hs⟩ := hw
          rw [hc] at hs
          cases hs
      | refused kind =>
          obtain ⟨cause', hc', rfl⟩ := hw
          rw [hc] at hc'
          cases hc'
          rfl

theorem ofLine?_of_filled {line : Text} (filled : trim (Line.uncomment line) ≠ []) :
    ofLine? line = (ofText (trim (Line.uncomment line))).map some := by
  unfold ofLine?
  split
  next hnil => exact absurd hnil filled
  next => rfl

theorem readsAs_of_ruling {line : Text} (filled : trim (Line.uncomment line) ≠ [])
    (number : Int) {ruling : Ruling}
    (h : ruling.Of (ofText (trim (Line.uncomment line)))) : ReadsAs number line ruling := by
  have read := ofLine?_of_filled filled
  cases ruling with
  | accepted =>
      obtain ⟨statement, hs⟩ := h
      rw [hs] at read
      exact ⟨statement, by rw [Statement.read, read]; rfl⟩
  | refused kind =>
      obtain ⟨cause, hc, hkind⟩ := h
      rw [hc] at read
      exact ⟨cause, by rw [Statement.read, read]; rfl, hkind⟩

/-- A line that holds code, but no conditional syntax and no numeral beyond the limit, is read with
exactly the ruling of the grammar, and there always is one. -/
theorem reading_follows_grammar {line : Text} (filled : trim (Line.uncomment line) ≠ [])
    (plain : Line.isConditional (trim (Line.uncomment line)) = false)
    (short : ∀ tokens, Token.tokenize (trim (Line.uncomment line)) = some tokens →
      ∀ token ∈ tokens, token.kind = .num → token.text.countP isDigit ≤ numeralLimit)
    (number : Int) :
    (∃ ruling, ReadsAs number line ruling) ∧
      ∀ ruling, ReadsAs number line ruling ↔ Judged (trim (Line.uncomment line)) ruling := by
  have legible : ∀ tokens, Token.tokenize (trim (Line.uncomment line)) = some tokens →
      ∀ token ∈ tokens, Callee.Legible token := by
    intro tokens htokens token hmem hkind
    exact Token.value_of_isNumeral (Token.isNumeral_of_readAll htokens token hmem hkind)
      (short tokens htokens token hmem hkind)
  have sound : ∀ ruling, Judged (trim (Line.uncomment line)) ruling →
      ReadsAs number line ruling :=
    fun _ h => readsAs_of_ruling filled number (ofText_of_judged plain legible h)
  obtain ⟨settled, hsettled⟩ := exists_judged (trim (Line.uncomment line))
  refine ⟨⟨settled, sound settled hsettled⟩, fun ruling => ⟨?_, sound ruling⟩⟩
  intro h
  rw [h.unique (sound settled hsettled)]
  exact hsettled

/-- A pin that is no number is found before the value behind it, which is no keyword. -/
theorem reading_follows_grammar_symbolic :
    trim (Line.uncomment "digitalWrite(LED, 5); // on".toList) = "digitalWrite(LED, 5);".toList ∧
      Line.isConditional "digitalWrite(LED, 5);".toList = false ∧
      Token.tokenize "digitalWrite(LED, 5);".toList =
        some [⟨.name, "digitalWrite".toList⟩, Token.mark '(', ⟨.name, "LED".toList⟩,
          Token.mark ',', ⟨.num, ['5']⟩, Token.mark ')', Token.mark ';'] ∧
      ReadsAs 3 "digitalWrite(LED, 5); // on".toList (.refused .invalidPin) ∧
      Judged "digitalWrite(LED, 5);".toList (.refused .invalidPin) := by
  have text : trim (Line.uncomment "digitalWrite(LED, 5); // on".toList) =
      "digitalWrite(LED, 5);".toList := by
    decide +kernel
  have plain : Line.isConditional "digitalWrite(LED, 5);".toList = false := by
    decide +kernel
  have tokens : Token.tokenize "digitalWrite(LED, 5);".toList =
      some [⟨.name, "digitalWrite".toList⟩, Token.mark '(', ⟨.name, "LED".toList⟩,
        Token.mark ',', ⟨.num, ['5']⟩, Token.mark ')', Token.mark ';'] := by
    decide +kernel
  have reads : ReadsAs 3 "digitalWrite(LED, 5); // on".toList (.refused .invalidPin) :=
    ⟨.pinNotNumber "LED", by decide +kernel, rfl⟩
  obtain ⟨-, judged⟩ := reading_follows_grammar (by rw [text]; decide) (by rw [text]; exact plain)
    (by
      rw [text, tokens]
      intro _ h
      cases h
      decide) 3
  rw [text] at judged
  exact ⟨text, plain, tokens, reads, (judged _).mp reads⟩

end Statement

end SketchGrader
