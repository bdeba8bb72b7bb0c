import SketchGrader.Number.Double
import SketchGrader.Sketch.Fault

/-!
# Numbers for weighing

The counts of a comparison are weighed into a score. This is done in machine numbers, or exactly in
rational numbers; the formula is the same, and what it needs of the numbers is collected here.
-/

namespace SketchGrader

/-- Numbers in which counts are weighed. -/
class Weighing (α : Type) extends OfScientific α, NatCast α, Add α, Mul α, Div α where
  /-- The integer nearest to a positive number, a half upwards. -/
  round : α → Except Breakdown Int

/-- Machine numbers. The half is added as a machine number, and the sum may be no number. -/
instance : Weighing Float where
  ofScientific := OfScientific.ofScientific
  natCast := Float.ofNat
  add := Float.add
  mul := Float.mul
  div := Float.div
  round x :=
    let shifted := x + 0.5
    match exactValue? shifted with
    | some q => .ok (truncate q)
    | none => .error (if shifted.isNaN then .undefinedResult else .infiniteResult)

/-- Exact numbers. -/
instance : Weighing Rat where
  ofScientific := OfScientific.ofScientific
  natCast n := Rat.ofInt n
  add := Rat.add
  mul := Rat.mul
  div := Rat.div
  round x := .ok (truncate (x + 1 / 2))

end SketchGrader
