import SketchGrader.Text.Basic

/-!
# What can go wrong with a sketch

A `Cause` is a mistake in a sketch, a `Fault` is a cause with the line it is reported at. A
`Breakdown` is a limit of the grader itself and never the learner's mistake. Each wording stands in
one place only. The limit on digits is one of reading a numeral (`Breakdown.numeralTooLong`); a
message shows a number with all its digits, however many there are.
-/

namespace SketchGrader

/-! ## What mistakes are about -/

/-- The two timers of a board that can drive a pin. Each comes with a library that a sketch must
include. -/
inductive Timer where
  | one
  | zero
  deriving DecidableEq, Repr

namespace Timer

/-- The name that sketches use. -/
def label : Timer → String
  | one => "Timer1"
  | zero => "Timer0"

def header : Timer → String
  | one => "TimerOne.h"
  | zero => "TimerZero.h"

/-- The raw duty value that means always on. -/
def rawMax : Timer → Nat
  | one => 1023
  | zero => 255

def includeLine (t : Timer) : String := "#include <" ++ t.header ++ ">"

def startExample : Timer → String
  | one => "Timer1.initialize(20000);"
  | zero => "Timer0.initialize();"

/-- Both timers, in the order in which they are checked and shown. -/
def all : List Timer := [one, zero]

end Timer

inductive BracketMistake where
  | extraCloser (found : Char)
  | wrongCloser (expected found : Char)
  | openLeft (opener : Char)
  deriving DecidableEq, Repr

/-- The direction a pin is declared with. -/
inductive Direction where
  | unset
  | input
  | output
  deriving DecidableEq, Repr

def Direction.name : Direction → String
  | unset => "UNSET"
  | input => "INPUT"
  | output => "OUTPUT"

def Direction.ofName? (name : String) : Option Direction :=
  [unset, input, output].find? fun d => d.name == name

/-- The two places of a call that hold a keyword. -/
inductive KeywordRole where
  | mode
  | level
  deriving DecidableEq, Repr

def KeywordRole.name : KeywordRole → String
  | mode => "mode"
  | level => "value"

def KeywordRole.choices : KeywordRole → String
  | mode => "INPUT or OUTPUT"
  | level => "HIGH or LOW"

/-- The places of a call that hold a number other than a pin. -/
inductive NumberRole where
  | duty
  | analogValue
  | delay
  | period
  deriving DecidableEq, Repr

def NumberRole.name : NumberRole → String
  | duty => "duty cycle"
  | analogValue => "value"
  | delay => "delay value"
  | period => "period"

/-! ## Mistakes -/

inductive FaultKind where
  | emptySource
  | brackets
  | missingLibrary
  | missingEntryPoints
  | undeclaredPin
  | invalidPin
  | invalidValue
  | legacyStatement
  | uninitializedTimer
  | unrecognized
  deriving DecidableEq, Repr

def FaultKind.name : FaultKind → String
  | emptySource => "EmptySource"
  | brackets => "SyntaxError"
  | missingLibrary => "MissingLibraryDeclaration"
  | missingEntryPoints => "MissingEntryPoints"
  | undeclaredPin => "UndeclaredPinUsage"
  | invalidPin => "InvalidPinNumber"
  | invalidValue => "InvalidDirectionOrValue"
  | legacyStatement => "UnsupportedLegacyStatement"
  | uninitializedTimer => "UninitializedTimer"
  | unrecognized => "UnrecognizedStatement"

/-- The mistakes that a sketch can contain. -/
inductive Cause where
  | emptySource
  | brackets (mistake : BracketMistake) (column : Nat)
  | missingLibrary (timer : Timer)
  | missingEntryPoints
  /-- The retired analog write; `pin` is its first argument as written. -/
  | legacyWrite (pin : String)
  /-- A pin used in a call without the declaration that the call needs. -/
  | undeclaredUse (pin : Int) (call : String) (needed : Direction)
  /-- A pin written while it is not an output. -/
  | notOutput (pin : Int) (call : String)
  | pinUnavailable (pin : Int) (available : String)
  | pinNotNumber (written : String)
  | notNumber (role : NumberRole) (written : String)
  | badKeyword (role : KeywordRole) (written : String)
  | dutyOutOfRange (percent highest : Int)
  | rawDutyOutOfRange (duty highest : Int)
  | waitOutOfRange (ms highest : Int)
  | timerNotStarted (timer : Timer)
  | unknownCall (written : String)
  | wrongArity (written pattern : String)
  deriving DecidableEq, Repr

namespace Cause

def kind : Cause → FaultKind
  | emptySource => .emptySource
  | brackets .. => .brackets
  | missingLibrary _ => .missingLibrary
  | missingEntryPoints => .missingEntryPoints
  | legacyWrite _ => .legacyStatement
  | undeclaredUse .. => .undeclaredPin
  | notOutput .. => .undeclaredPin
  | pinUnavailable .. => .invalidPin
  | pinNotNumber _ => .invalidPin
  | notNumber .. => .invalidValue
  | badKeyword .. => .invalidValue
  | dutyOutOfRange .. => .invalidValue
  | rawDutyOutOfRange .. => .invalidValue
  | waitOutOfRange .. => .invalidValue
  | timerNotStarted _ => .uninitializedTimer
  | unknownCall _ => .unrecognized
  | wrongArity .. => .unrecognized

/-- The calls that are offered when one is not understood. -/
def supportedCalls : String :=
  "pinMode, digitalWrite, setDutyCycle, delay, Timer1.initialize, Timer1.pwm, " ++
    "Timer1.stop, Timer0.initialize, Timer0.pwm, Timer0.stop, if/else statements"

def suggestion : Cause → Option String
  | emptySource => some "Write a setup() and a loop() function."
  | brackets .. => none
  | missingLibrary _ => some "Add it at the top of your code."
  | missingEntryPoints => some "At least one is required."
  | legacyWrite pin =>
    some ("Use setDutyCycle(pin, dutyCycle) instead, where dutyCycle is 0-100%. " ++
      s!"Example: setDutyCycle({pin}, 50);")
  | undeclaredUse pin _ needed =>
    let direction := needed.name
    some s!"Add: pinMode({pin}, {direction});"
  | notOutput pin _ => some s!"Add: pinMode({pin}, OUTPUT);"
  | pinUnavailable _ available => some s!"Use pins {available}."
  | pinNotNumber _ => none
  | notNumber .. => none
  | badKeyword role _ => some ("Use " ++ role.choices ++ ".")
  | dutyOutOfRange _ highest => some s!"Use values 0-{highest}."
  | rawDutyOutOfRange _ highest => some s!"Use 0-{highest}."
  | waitOutOfRange _ highest => some s!"Use values 0-{highest}ms."
  | timerNotStarted timer => some ("Add: " ++ timer.startExample)
  | unknownCall _ => some ("Supported: " ++ supportedCalls)
  | wrongArity _ pattern => some s!"Example: {pattern};"

def column? : Cause → Option Nat
  | brackets _ column => some column
  | _ => none

end Cause

def BracketMistake.text : BracketMistake → String
  | extraCloser found => s!"Unmatched closing bracket '{found}'"
  | wrongCloser expected found => s!"Mismatched brackets. Expected '{expected}' but found '{found}'"
  | openLeft opener => s!"Unmatched opening bracket '{opener}'"

/-- A mistake and the line it is reported at, counted from 1; line 0 is no line. -/
structure Fault where
  line : Int
  cause : Cause
  deriving DecidableEq, Repr

namespace Fault

def kind (f : Fault) : FaultKind := f.cause.kind

/-- What is wrong, without the line and without the correction. -/
def detail (f : Fault) : String :=
  match f.cause with
  | .emptySource => "Code is empty."
  | .brackets mistake column =>
    let said := mistake.text
    let line := f.line
    s!"Syntax error: {said} at line {line}, column {column}"
  | .missingLibrary timer =>
    timer.label ++ " methods are used but " ++ timer.includeLine ++ " is missing."
  | .missingEntryPoints => "Missing both setup() and loop() functions."
  | .legacyWrite _ => "analogWrite() is not supported."
  | .undeclaredUse pin call needed =>
    let direction := needed.name
    s!"Pin {pin} is used in {call}() but not declared as {direction}."
  | .notOutput pin call => s!"Pin {pin} must be set to OUTPUT mode before using {call}()."
  | .pinUnavailable pin _ => s!"Pin {pin} is not available."
  | .pinNotNumber written => s!"Pin \"{written}\" must be a pin number."
  | .notNumber role written =>
    let place := role.name
    s!"Invalid {place} \"{written}\": expected a number."
  | .badKeyword role written =>
    let place := role.name
    s!"Invalid {place} \"{written}\"."
  | .dutyOutOfRange percent _ => s!"Invalid duty cycle \"{percent}\"."
  | .rawDutyOutOfRange duty _ => s!"Duty cycle {duty} invalid."
  | .waitOutOfRange ms _ => s!"Invalid delay value \"{ms}\"."
  | .timerNotStarted timer => timer.label ++ " must be initialized first."
  | .unknownCall written => s!"Unrecognized command \"{written}\"."
  | .wrongArity written _ => s!"Wrong number of arguments in \"{written}\"."

def suggestion (f : Fault) : Option String := f.cause.suggestion

/-- The whole message: the line unless there is none or the detail names it, the detail, and the
correction. -/
def message (f : Fault) : String :=
  let line := f.line
  let head := if f.cause.column?.isSome || line == 0 then "" else s!"Line {line}: "
  let tail := match f.suggestion with
    | some correction => " " ++ correction
    | none => ""
  head ++ f.detail ++ tail

end Fault

/-! ## Limits of the grader -/

/-- The limits of the grader itself. -/
inductive Breakdown where
  /-- A numeral with more digits than are read. -/
  | numeralTooLong (digits : Nat)
  /-- The range of available pins was asked of a board without pins. -/
  | noPins
  /-- A quotient of integers beyond the largest double. -/
  | quotientTooLarge
  /-- A computation whose double is infinite, where an integer is needed. -/
  | infiniteResult
  /-- A computation whose double is not a number, where an integer is needed. -/
  | undefinedResult
  /-- An integer beyond the largest double. -/
  | integerTooLarge
  deriving DecidableEq, Repr

/-- The most digits that a numeral may have. -/
def numeralLimit : Nat := 4300

def Breakdown.message : Breakdown → String
  | numeralTooLong digits =>
    s!"Exceeds the limit ({numeralLimit} digits) for integer string conversion: " ++
      s!"value has {digits} digits; use sys.set_int_max_str_digits() to increase the limit"
  | noPins => "tuple index out of range"
  | quotientTooLarge => "integer division result too large for a float"
  | infiniteResult => "cannot convert float infinity to integer"
  | undefinedResult => "cannot convert float NaN to integer"
  | integerTooLarge => "int too large to convert to float"

/-- Why a statement cannot be read or executed, before its line is known. -/
inductive Problem where
  | cause (cause : Cause)
  | breakdown (breakdown : Breakdown)
  deriving DecidableEq, Repr

/-- Why a sketch cannot be parsed or a run cannot go on. -/
inductive Halt where
  | fault (fault : Fault)
  | breakdown (breakdown : Breakdown)
  deriving DecidableEq, Repr

def Problem.atLine (line : Int) : Problem → Halt
  | cause c => .fault ⟨line, c⟩
  | breakdown b => .breakdown b

/-- What goes well in two steps goes well in the first and then in the second. -/
@[simp] theorem bind_eq_ok {ε α β : Type} {x : Except ε α} {f : α → Except ε β} {b : β} :
    (x >>= f) = .ok b ↔ ∃ a, x = .ok a ∧ f a = .ok b := by
  cases x with
  | error e => simp [bind, Except.bind]
  | ok a => simp [bind, Except.bind]

end SketchGrader
