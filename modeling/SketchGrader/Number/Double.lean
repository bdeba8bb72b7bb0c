/-!
# Double precision by exact arithmetic

A finite double is a mantissa of at most 53 bits times a power of two. Rounding takes an exact
ratio to the nearest double, a tie to the even mantissa, and says when the result is too large.
Everything is integer arithmetic, so the rounding can be reasoned about.
-/

namespace SketchGrader

/-- The finite double `± mantissa · 2 ^ exponent`. -/
structure Double where
  negative : Bool
  mantissa : Nat
  exponent : Int
  deriving DecidableEq, Repr

namespace Double

/-- The integer nearest to `n / d`; a half goes to the even neighbour. -/
def nearestQuotient (n d : Nat) : Nat :=
  let q := n / d
  let r := n % d
  if d < 2 * r || (2 * r == d && q % 2 == 1) then q + 1 else q

/-- The number `n · 2 ^ e` as a ratio of naturals. -/
def shifted (n : Nat) (e : Int) : Nat × Nat :=
  if 0 ≤ e then (n <<< e.toNat, 1) else (n, 1 <<< (-e).toNat)

/-- The largest power of two, as an exponent, that is not above `n / d`. -/
def floorLog (n d : Nat) : Int :=
  let e : Int := (n.log2 : Int) - (d.log2 : Int)
  let (p, q) := shifted d e
  if p ≤ n * q then e else e - 1

/-- The double nearest to `± n / d`; `none` if that is beyond the largest one. -/
def ofRatio? (negative : Bool) (n d : Nat) : Option Double :=
  if n == 0 then some ⟨negative, 0, -1074⟩
  else
    let e := max (floorLog n d - 52) (-1074)
    let (p, q) := shifted n (-e)
    let m := nearestQuotient p (q * d)
    let rounded : Double :=
      if m == 1 <<< 53 then ⟨negative, 1 <<< 52, e + 1⟩ else ⟨negative, m, e⟩
    if rounded.exponent > 971 then none else some rounded

def ofRat? (q : Rat) : Option Double := ofRatio? (decide (q < 0)) q.num.natAbs q.den

def toRat (x : Double) : Rat :=
  let (p, q) := shifted x.mantissa x.exponent
  mkRat (if x.negative then -(p : Int) else p) q

/-- The value of the double nearest to a rational number. -/
def nearest? (q : Rat) : Option Rat := (ofRat? q).map toRat

/-- The 64 bits: the sign, eleven bits of exponent, and the mantissa without its leading bit. -/
def bits (x : Double) : Nat :=
  let sign := if x.negative then 1 <<< 63 else 0
  if x.mantissa < 1 <<< 52 then sign + x.mantissa
  else sign + (x.exponent + 1075).toNat <<< 52 + (x.mantissa - 1 <<< 52)

def ofBits? (b : Nat) : Option Double :=
  let negative := b >>> 63 % 2 == 1
  let field : Nat := b >>> 52 % 1 <<< 11
  let fraction : Nat := b % 1 <<< 52
  if field == 1 <<< 11 - 1 then none
  else if field == 0 then some ⟨negative, fraction, -1074⟩
  else some ⟨negative, 1 <<< 52 + fraction, (field : Int) - 1075⟩

end Double

/-- The integer part of a rational number, towards zero. -/
def truncate (q : Rat) : Int := q.num.tdiv q.den

/-- The exact value of a machine number, `none` for an infinity or an undefined one. -/
def exactValue? (x : Float) : Option Rat := (Double.ofBits? x.toBits.toNat).map Double.toRat

/-- The machine number nearest to `± digits · 10 ^ exponent`, an infinity if that is too large. -/
def floatOfDecimal (negative : Bool) (digits : Nat) (exponent : Int) : Float :=
  let size := (Nat.toDigits 10 digits).length
  let magnitude : Option Double :=
    if digits == 0 || exponent + size < -400 then some ⟨negative, 0, -1074⟩
    else if exponent > 400 then none
    else if 0 ≤ exponent then Double.ofRatio? negative (digits * Nat.pow 10 exponent.toNat) 1
    else Double.ofRatio? negative digits (Nat.pow 10 (-exponent).toNat)
  match magnitude with
  | some x => Float.ofBits (UInt64.ofNat x.bits)
  | none => if negative then -1.0 / 0.0 else 1.0 / 0.0

end SketchGrader
