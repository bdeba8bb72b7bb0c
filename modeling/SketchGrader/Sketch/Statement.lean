import SketchGrader.Sketch.Token
import SketchGrader.Text.Casing
import SketchGrader.Text.Pattern

/-!
# Statements

One line holds one statement: a call from a fixed table, or a piece of conditional syntax, which is
recognised and has no effect. Reading a line gives the statement, nothing for a line without code,
or the reason why it is neither.
-/

namespace SketchGrader

/-- What a line can ask for. Keywords are kept in upper case. -/
inductive Statement where
  | pinMode (pin : Int) (mode : Text)
  | digitalWrite (pin : Int) (level : Text)
  | setDuty (pin percent : Int)
  | analogWrite (pin value : Int)
  | timerStart (timer : Timer) (period : Option Int)
  | timerPwm (timer : Timer) (pin duty : Int)
  | timerStop (timer : Timer)
  | wait (ms : Int)
  | conditional (text : Text)
  deriving DecidableEq, Repr

namespace Statement

/-- The pin of a statement that drives a pin. -/
def writtenPin? : Statement → Option Int
  | digitalWrite pin _ => some pin
  | setDuty pin _ => some pin
  | timerPwm _ pin _ => some pin
  | _ => none

def typeName : Statement → String
  | pinMode .. => "PinMode"
  | digitalWrite .. => "DigitalWrite"
  | setDuty .. => "SetDutyCycle"
  | analogWrite .. => "AnalogWrite"
  | timerStart .. => "TimerInitialize"
  | timerPwm .. => "TimerPwm"
  | timerStop _ => "TimerStop"
  | wait _ => "Wait"
  | conditional _ => "Conditional"

end Statement

/-! ## Comments at the end of a line -/

namespace Line

/-- Drops a comment at the end of a line. `quote` is the open quote, if any, and `before` the
character in front; a quote behind a backslash does not close. -/
def uncommentFrom (quote : Option Char) (before : Char) : Text → Text
  | [] => []
  | c :: rest =>
    match quote with
    | some q =>
      if c == q && before != '\\' then c :: uncommentFrom none c rest
      else c :: uncommentFrom (some q) c rest
    | none =>
      if c == '"' || c == '\'' then c :: uncommentFrom (some c) c rest
      else if c == '/' && rest.head? == some '/' then []
      else c :: uncommentFrom none c rest

def uncomment (line : Text) : Text := uncommentFrom none ' ' line

/-! ## Conditional syntax -/

open Text

/-- Whether nothing follows but an optional opening brace. -/
def endsWithBrace (t : Text) : Bool := t.isEmpty || t == ['{']

/-- The rest after a closing brace and blanks, or the text itself if it begins otherwise. -/
def afterCloser : Text → Text
  | '}' :: rest => trimLeft rest
  | t => t

/-- The rest after `else` and blanks, or the text itself if it begins otherwise. -/
def afterElse (t : Text) : Text :=
  match (afterAnyCase "else".toList t).bind afterBlanks with
  | some rest => rest
  | none => t

/-- Whether a condition is closed by a parenthesis on its own line, with nothing behind it but
blanks and an optional opening brace. -/
def closesCondition (t : Text) : Bool :=
  let body := match t.reverse with
    | '{' :: rest => rest
    | reversed => reversed
  match body.dropWhile isBlank with
  | ')' :: inner => !inner.contains '\n'
  | _ => false

/-- An `if` with a condition in parentheses, possibly behind a closing brace and an `else`. -/
def isIf (t : Text) : Bool :=
  match (afterAnyCase "if".toList (afterElse (afterCloser t))).bind (afterBlanksAnd ['(']) with
  | some rest => closesCondition rest
  | none => false

/-- An `else` alone, possibly behind a closing brace. -/
def isElse (t : Text) : Bool :=
  match afterAnyCase "else".toList (afterCloser t) with
  | some rest => endsWithBrace (trimLeft rest)
  | none => false

/-- A brace alone, possibly with a semicolon. -/
def isBrace : Text → Bool
  | c :: rest => (c == '{' || c == '}') && (trimLeft rest == [] || trimLeft rest == [';'])
  | [] => false

/-- Whether a trimmed line is conditional syntax. -/
def isConditional (t : Text) : Bool := isIf t || isElse t || isBrace t

end Line

/-! ## Calls -/

/-- A call as written: a name and its arguments. -/
structure Call where
  name : Text
  args : List Token
  deriving DecidableEq, Repr

namespace Call

/-- The arguments of a non-empty list with commas between them. -/
def separated : List Token → Option (List Token)
  | [] => none
  | [arg] => if arg.kind = .punct then none else some [arg]
  | arg :: comma :: rest =>
    if arg.kind ≠ .punct ∧ comma = Token.mark ',' then (separated rest).map (arg :: ·) else none

def withoutSemicolon (tokens : List Token) : List Token :=
  if tokens.getLast? = some (Token.mark ';') then tokens.dropLast else tokens

/-- A name, an opening parenthesis, arguments with commas between them, a closing parenthesis and
at most one semicolon. -/
def ofTokens? (tokens : List Token) : Option Call :=
  match withoutSemicolon tokens with
  | name :: opener :: rest =>
    if name.kind = .name ∧ opener = Token.mark '(' ∧ rest.getLast? = some (Token.mark ')') then
      match rest.dropLast with
      | [] => some ⟨name.text, []⟩
      | inner => (separated inner).map (⟨name.text, ·⟩)
    else none
  | _ => none

end Call

/-- The calls of the dialect. -/
inductive Callee where
  | pinMode
  | digitalWrite
  | setDuty
  | analogWrite
  | delay
  | timerStart (timer : Timer)
  | timerPwm (timer : Timer)
  | timerStop (timer : Timer)
  deriving DecidableEq, Repr

namespace Callee

/-- The name in lower case, by which a call is looked up. -/
def key : Callee → String
  | pinMode => "pinmode"
  | digitalWrite => "digitalwrite"
  | setDuty => "setdutycycle"
  | analogWrite => "analogwrite"
  | delay => "delay"
  | timerStart .one => "timer1.initialize"
  | timerStart .zero => "timer0.initialize"
  | timerPwm .one => "timer1.pwm"
  | timerPwm .zero => "timer0.pwm"
  | timerStop .one => "timer1.stop"
  | timerStop .zero => "timer0.stop"

/-- The numbers of arguments that a call takes. -/
def arities : Callee → List Nat
  | pinMode | digitalWrite | setDuty | analogWrite | timerPwm _ => [2]
  | delay => [1]
  | timerStart .one => [0, 1]
  | timerStart .zero | timerStop _ => [0]

/-- The call as it is shown when it has the wrong number of arguments. -/
def pattern : Callee → String
  | pinMode => "pinMode(pin, OUTPUT)"
  | digitalWrite => "digitalWrite(pin, HIGH)"
  | setDuty => "setDutyCycle(pin, 0-100)"
  | analogWrite => "analogWrite(pin, value)"
  | delay => "delay(ms)"
  | timerStart .one => "Timer1.initialize(20000)"
  | timerStart .zero => "Timer0.initialize()"
  | timerPwm .one => "Timer1.pwm(pin, 0-1023)"
  | timerPwm .zero => "Timer0.pwm(pin, 0-255)"
  | timerStop .one => "Timer1.stop()"
  | timerStop .zero => "Timer0.stop()"

def all : List Callee :=
  [pinMode, digitalWrite, setDuty, analogWrite, delay, timerStart .one, timerStart .zero,
    timerPwm .one, timerPwm .zero, timerStop .one, timerStop .zero]

/-- The call with the given name, in any case. -/
def find? (name : Text) : Option Callee :=
  all.find? fun callee => callee.key.toList == Text.lower name

def readNumber (numeral : Text) : Except Problem Int :=
  match Token.value numeral with
  | .ok n => .ok n
  | .error b => .error (.breakdown b)

def pinOf (arg : Token) : Except Problem Int :=
  if arg.kind = .num then readNumber arg.text
  else .error (.cause (.pinNotNumber (String.ofList arg.text)))

def numberOf (role : NumberRole) (arg : Token) : Except Problem Int :=
  if arg.kind = .num then readNumber arg.text
  else .error (.cause (.notNumber role (String.ofList arg.text)))

/-- The keyword that an argument gives, in upper case. -/
def keywordOf (role : KeywordRole) (arg : Token) : Except Problem Text :=
  if arg.kind = .name then .ok (Text.upper arg.text)
  else .error (.cause (.badKeyword role (String.ofList arg.text)))

/-- The statement of a call with its arguments, `none` if their number is wrong. The arguments are
read from left to right. -/
def statement? (callee : Callee) (args : List Token) : Option (Except Problem Statement) :=
  match callee, args with
  | pinMode, [a, b] => some do return .pinMode (← pinOf a) (← keywordOf .mode b)
  | digitalWrite, [a, b] => some do return .digitalWrite (← pinOf a) (← keywordOf .level b)
  | setDuty, [a, b] => some do return .setDuty (← pinOf a) (← numberOf .duty b)
  | analogWrite, [a, b] => some do return .analogWrite (← pinOf a) (← numberOf .analogValue b)
  | delay, [a] => some do return .wait (← numberOf .delay a)
  | timerStart timer, [] => some (.ok (.timerStart timer none))
  | timerStart .one, [a] => some do return .timerStart .one (some (← numberOf .period a))
  | timerPwm timer, [a, b] => some do return .timerPwm timer (← pinOf a) (← numberOf .duty b)
  | timerStop timer, [] => some (.ok (.timerStop timer))
  | _, _ => none

end Callee

namespace Statement

/-- Reads trimmed, non-empty text without a comment. -/
def ofText (text : Text) : Except Problem Statement :=
  if Line.isConditional text then .ok (.conditional text)
  else
    let unknown := Problem.cause (.unknownCall (String.ofList text))
    match (Token.tokenize text).bind Call.ofTokens? with
    | none => .error unknown
    | some call =>
      match Callee.find? call.name with
      | none => .error unknown
      | some callee =>
        match callee.statement? call.args with
        | none => .error (.cause (.wrongArity (String.ofList text) callee.pattern))
        | some result => result

/-- Reads one line; a line that is blank or only a comment holds no statement. -/
def ofLine? (line : Text) : Except Problem (Option Statement) :=
  match Text.trim (Line.uncomment line) with
  | [] => .ok none
  | text => (ofText text).map some

/-- A statement with the line it stands in. -/
structure Placed where
  statement : Statement
  line : Int
  deriving DecidableEq, Repr

/-- Reads the line with the given number. A mistake is reported at this line. -/
def read (number : Int) (line : Text) : Except Halt (Option Placed) :=
  match ofLine? line with
  | .error problem => .error (problem.atLine number)
  | .ok found => .ok (found.map (⟨·, number⟩))

end Statement

end SketchGrader
