import SketchGrader.Number.Double

/-!
# The shortest decimal of a double

A double is shown with the fewest digits that read back to it, of two such decimals the nearer one.
Powers of ten from the fourth below the point to the fifteenth above it are written out.
-/

namespace SketchGrader.Shortest

/-- The digits and the place of the point: the number is `0.digits · 10 ^ scale`. -/
structure Decimal where
  digits : Nat
  length : Nat
  scale : Int
  deriving DecidableEq, Repr

/-- Multiplies by ten until the ratio is at least a tenth; gives the negated number of steps. -/
def smallScale : Nat → Nat → Nat → Int
  | 0, _, _ => 0
  | fuel + 1, n, d => if d ≤ 10 * n then 0 else smallScale fuel (10 * n) d - 1

/-- The least `k` with `n / d < 10 ^ k`. -/
def scaleOf (n d : Nat) : Int :=
  if d ≤ n then ((Nat.toDigits 10 (n / d)).length : Int) else smallScale 400 n d

/-- The number `n / d · 10 ^ e` as a ratio. -/
def timesTen (n d : Nat) (e : Int) : Nat × Nat :=
  if 0 ≤ e then (n * Nat.pow 10 e.toNat, d) else (n, d * Nat.pow 10 (-e).toNat)

/-- Whether `digits · 10 ^ (scale - length)` is read as the given double. -/
def readsBack (x : Double) (digits length : Nat) (scale : Int) : Bool :=
  let (n, d) := timesTen digits 1 (scale - length)
  Double.ofRatio? x.negative n d == some x

/-- The decimal with the given number of digits that reads back, if there is one. -/
def withLength? (x : Double) (n d : Nat) (scale : Int) (length : Nat) : Option Decimal :=
  let (p, q) := timesTen n d (length - scale)
  let low := p / q
  let low? := readsBack x low length scale
  let high? := readsBack x (low + 1) length scale
  let nearLow := 2 * (p % q) < q || (2 * (p % q) == q && low % 2 == 0)
  if low? && (!high? || nearLow) then some ⟨low, length, scale⟩
  else if high? then some ⟨low + 1, length, scale⟩
  else none

/-- The shortest decimal of a double other than zero. -/
def select (x : Double) : Decimal :=
  let (n, d) := Double.shifted x.mantissa x.exponent
  let scale := scaleOf n d
  ((List.range 17).findSome? fun i => withLength? x n d scale (i + 1)).getD
    ⟨(timesTen n d (17 - scale)).1 / (timesTen n d (17 - scale)).2, 17, scale⟩

def exponentText (e : Int) : String :=
  let digits := toString e.natAbs
  (if e < 0 then "e-" else "e+") ++ (if digits.length < 2 then "0" else "") ++ digits

def layout (decimal : Decimal) : String :=
  let carried := (Nat.toDigits 10 decimal.digits).length - decimal.length
  let digits := ((Nat.toDigits 10 decimal.digits).reverse.dropWhile (· == '0')).reverse
  let point := decimal.scale + carried
  let e := point - 1
  if -4 ≤ e && e < 16 then
    if point ≤ 0 then "0." ++ "".pushn '0' (-point).toNat ++ String.ofList digits
    else if point.toNat ≥ digits.length then
      String.ofList digits ++ "".pushn '0' (point.toNat - digits.length) ++ ".0"
    else String.ofList (digits.take point.toNat) ++ "." ++ String.ofList (digits.drop point.toNat)
  else
    let fraction := digits.drop 1
    String.ofList (digits.take 1) ++
      (if fraction.isEmpty then "" else "." ++ String.ofList fraction)
      ++ exponentText e

def render (x : Float) : String :=
  match Double.ofBits? x.toBits.toNat with
  | none => if x.isNaN then "nan" else if x < 0 then "-inf" else "inf"
  | some d =>
    let magnitude := if d.mantissa == 0 then "0.0" else layout (select d)
    if d.negative then "-" ++ magnitude else magnitude

end SketchGrader.Shortest
