import Mathlib.Algebra.Order.Archimedean.Basic
import Mathlib.Algebra.Order.Field.Power
import Mathlib.Data.Nat.Cast.Order.Field
import Mathlib.Data.Rat.Cast.Order
import Mathlib.Data.Rat.Floor
import Mathlib.Tactic.GCongr
import Mathlib.Tactic.Linarith
import Mathlib.Tactic.NormNum
import Mathlib.Tactic.Positivity
import Mathlib.Tactic.Ring
import SketchGrader.Board.Pin
import SketchGrader.Sketch.Fault

/-!
# Rounding in conversions

Rounding to a double fails only for numbers that are beyond the largest one, and it at most doubles
a number. A conversion rounds three times, so it goes well for every number that is not close to
the largest double, and its result is moderate again.

Where it goes well, it moves a number by a tiny part of its size only.
-/

namespace SketchGrader

theorem natAbs_div_den (q : ℚ) : ((q.num.natAbs : Nat) : ℚ) / q.den = |q| := by
  rw [Nat.cast_natAbs, Int.cast_abs, ← Nat.abs_cast q.den, ← abs_div, Rat.num_div_den]

namespace Double

/-- Rounding to an integer gives the quotient without remainder, or one more. -/
theorem abs_nearestQuotient_sub_le {n d : Nat} (hd : d ≠ 0) :
    |(nearestQuotient n d : ℚ) - n / d| ≤ 1 := by
  have positive : (0 : ℚ) < d := by exact_mod_cast Nat.pos_of_ne_zero hd
  have low : ((n / d : Nat) : ℚ) ≤ n / d := Nat.cast_div_le
  have high : (n : ℚ) / d ≤ (n / d : Nat) + 1 := by
    rw [div_le_iff₀ positive, add_one_mul]
    exact_mod_cast (Nat.lt_div_mul_add (Nat.pos_of_ne_zero hd)).le
  have cases : nearestQuotient n d = n / d ∨ nearestQuotient n d = n / d + 1 := by
    unfold nearestQuotient
    dsimp only
    split_ifs
    · exact .inr rfl
    · exact .inl rfl
  rw [abs_le]
  obtain h | h := cases
  · rw [h]
    constructor <;> linarith
  · rw [h]
    push_cast
    constructor <;> linarith

theorem shifted_snd_ne_zero (n : Nat) (e : Int) : (shifted n e).2 ≠ 0 := by
  unfold shifted
  split_ifs
  · exact one_ne_zero
  · rw [Nat.shiftLeft_eq]
    positivity

theorem shifted_ratio (n : Nat) (e : Int) :
    ((shifted n e).1 : ℚ) / (shifted n e).2 = n * 2 ^ e := by
  unfold shifted
  split_ifs with h
  · have he : e = (e.toNat : Int) := (Int.toNat_of_nonneg h).symm
    rw [Nat.shiftLeft_eq, he]
    push_cast
    rw [div_one, zpow_natCast, Int.toNat_natCast]
  · have he : e = -((-e).toNat : Int) := by omega
    rw [Nat.shiftLeft_eq, he, neg_neg]
    push_cast
    rw [zpow_neg, zpow_natCast, one_mul, Int.toNat_natCast, div_eq_mul_inv]

theorem floorLog_le {n d k : Nat} (hn : n ≠ 0) (hd : d ≠ 0) (h : (n : ℚ) / d < 2 ^ k) :
    floorLog n d ≤ k := by
  have hd' : (0 : ℚ) < d := by exact_mod_cast Nat.pos_of_ne_zero hd
  rw [div_lt_iff₀ hd'] at h
  have below : n < 2 ^ k * d := by exact_mod_cast h
  have small : n < 2 ^ (k + (d.log2 + 1)) := by
    calc
      n < 2 ^ k * d := below
      _ ≤ 2 ^ k * 2 ^ (d.log2 + 1) := Nat.mul_le_mul_left _ Nat.lt_log2_self.le
      _ = 2 ^ (k + (d.log2 + 1)) := (Nat.pow_add ..).symm
  have hlog : n.log2 < k + (d.log2 + 1) := (Nat.log2_lt hn).mpr small
  unfold floorLog
  dsimp only
  split_ifs <;> omega

theorem abs_toRat (x : Double) : |x.toRat| = x.mantissa * 2 ^ x.exponent := by
  have positive : (0 : ℚ) ≤ x.mantissa * 2 ^ x.exponent := by positivity
  unfold toRat
  dsimp only
  rw [Rat.mkRat_eq_div]
  split_ifs
  · push_cast
    rw [neg_div, shifted_ratio, abs_neg, abs_of_nonneg positive]
  · push_cast
    rw [shifted_ratio, abs_of_nonneg positive]

/-- A rounded mantissa with its exponent. A mantissa that is rounded up to 54 bits is halved, and the
exponent is one larger. -/
def fitted (negative : Bool) (m : Nat) (e : Int) : Double :=
  if m == 1 <<< 53 then ⟨negative, 1 <<< 52, e + 1⟩ else ⟨negative, m, e⟩

theorem abs_fitted (negative : Bool) (m : Nat) (e : Int) :
    |(fitted negative m e).toRat| = m * 2 ^ e := by
  unfold fitted
  split_ifs with hm
  · have twice : 1 <<< 53 = 2 * 1 <<< 52 := by decide
    rw [abs_toRat, beq_iff_eq.mp hm, zpow_add_one₀ two_ne_zero, twice]
    push_cast
    ring
  · exact abs_toRat _

theorem exponent_fitted_le (negative : Bool) (m : Nat) (e : Int) :
    (fitted negative m e).exponent ≤ e + 1 := by
  unfold fitted
  split_ifs <;> dsimp only <;> omega

/-- The exponent of the double nearest to a ratio, before its mantissa is fitted. -/
def exponentOf (n d : Nat) : Int := max (floorLog n d - 52) (-1074)

/-- The mantissa that belongs to it. -/
def mantissaOf (n d : Nat) : Nat :=
  nearestQuotient (shifted n (-exponentOf n d)).1 ((shifted n (-exponentOf n d)).2 * d)

theorem ofRatio?_eq {negative : Bool} {n d : Nat} (hn : n ≠ 0) :
    ofRatio? negative n d =
      if (fitted negative (mantissaOf n d) (exponentOf n d)).exponent > 971 then none
      else some (fitted negative (mantissaOf n d) (exponentOf n d)) := by
  unfold ofRatio?
  rw [if_neg (by simpa using hn)]
  rfl

theorem abs_of_ofRatio? {negative : Bool} {n d : Nat} (hn : n ≠ 0) {x : Double}
    (h : ofRatio? negative n d = some x) :
    |x.toRat| = mantissaOf n d * 2 ^ exponentOf n d := by
  rw [ofRatio?_eq hn] at h
  split_ifs at h
  cases h
  exact abs_fitted _ _ _

/-- The rounded mantissa is wrong by at most one. -/
theorem abs_mantissaOf_sub_le {n d : Nat} (hd : d ≠ 0) :
    |(mantissaOf n d : ℚ) * 2 ^ exponentOf n d - n / d| ≤ 2 ^ exponentOf n d := by
  have unit : (0 : ℚ) < 2 ^ exponentOf n d := by positivity
  have ratio : ((shifted n (-exponentOf n d)).1 : ℚ) / ((shifted n (-exponentOf n d)).2 * d : Nat) *
      2 ^ exponentOf n d = n / d := by
    push_cast
    rw [← div_div, shifted_ratio, zpow_neg, div_mul_eq_mul_div, inv_mul_cancel_right₀ unit.ne']
  have quotient := @abs_nearestQuotient_sub_le (shifted n (-exponentOf n d)).1
    ((shifted n (-exponentOf n d)).2 * d) (Nat.mul_ne_zero (shifted_snd_ne_zero _ _) hd)
  calc
    |(mantissaOf n d : ℚ) * 2 ^ exponentOf n d - n / d|
      = |(mantissaOf n d : ℚ) - (shifted n (-exponentOf n d)).1 /
          ((shifted n (-exponentOf n d)).2 * d : Nat)| * 2 ^ exponentOf n d := by
        rw [← ratio, ← sub_mul, abs_mul, abs_of_pos unit]
    _ ≤ 1 * 2 ^ exponentOf n d := by
        gcongr
        exact quotient
    _ = 2 ^ exponentOf n d := one_mul _

theorem unit_le {n d k : Nat} (hn : n ≠ 0) (hd : d ≠ 0) (h : (n : ℚ) / d < 2 ^ k) :
    (2 : ℚ) ^ exponentOf n d ≤ 2 ^ k / 2 ^ 52 := by
  have hlog : floorLog n d ≤ k := floorLog_le hn hd h
  have small : exponentOf n d ≤ (k : Int) - 52 := by
    unfold exponentOf
    omega
  calc
    (2 : ℚ) ^ exponentOf n d ≤ 2 ^ ((k : Int) - 52) := zpow_le_zpow_right₀ one_le_two small
    _ = 2 ^ k / 2 ^ 52 := by
      rw [zpow_sub₀ two_ne_zero, zpow_natCast]
      rfl

theorem ofRatio?_bounded (negative : Bool) {n d k : Nat} (hd : d ≠ 0)
    (h : (n : ℚ) / d < 2 ^ k) (hk : k ≤ 1000) :
    ∃ x, ofRatio? negative n d = some x ∧ |x.toRat| ≤ 2 ^ (k + 1) := by
  by_cases hn : n = 0
  · refine ⟨⟨negative, 0, -1074⟩, by rw [hn]; rfl, ?_⟩
    rw [abs_toRat, Nat.cast_zero, zero_mul]
    positivity
  · have hlog : floorLog n d ≤ k := floorLog_le hn hd h
    have small := exponent_fitted_le negative (mantissaOf n d) (exponentOf n d)
    have below : ¬ (fitted negative (mantissaOf n d) (exponentOf n d)).exponent > 971 := by
      unfold exponentOf at *
      omega
    have hx : ofRatio? negative n d = some (fitted negative (mantissaOf n d) (exponentOf n d)) := by
      rw [ofRatio?_eq hn, if_neg below]
    have unit : (2 : ℚ) ^ exponentOf n d ≤ 2 ^ k := by
      have positive : (0 : ℚ) < 2 ^ k := by positivity
      have := unit_le hn hd h
      linarith
    refine ⟨_, hx, ?_⟩
    calc
      _ = (mantissaOf n d : ℚ) * 2 ^ exponentOf n d := abs_fitted _ _ _
      _ ≤ n / d + 2 ^ exponentOf n d := by
        have near := (abs_le.mp (@abs_mantissaOf_sub_le n d hd)).2
        linarith
      _ ≤ 2 ^ k + 2 ^ k := add_le_add h.le unit
      _ = 2 ^ (k + 1) := by rw [pow_succ, mul_two]

theorem nearest?_bounded {q : ℚ} {k : Nat} (h : |q| < 2 ^ k) (hk : k ≤ 1000) :
    ∃ x, nearest? q = some x ∧ |x| ≤ 2 ^ (k + 1) := by
  obtain ⟨x, hx, bound⟩ := ofRatio?_bounded (decide (q < 0)) q.den_nz (natAbs_div_den q ▸ h) hk
  exact ⟨x.toRat, by rw [nearest?, ofRat?, hx, Option.map_some], bound⟩

theorem toRat_nonneg {x : Double} (h : x.negative = false) : 0 ≤ x.toRat := by
  unfold toRat
  dsimp only
  rw [h, Rat.mkRat_eq_div]
  simp only [Bool.false_eq_true, if_false]
  positivity

theorem negative_of_ofRatio? {negative : Bool} {n d : Nat} {x : Double}
    (h : ofRatio? negative n d = some x) : x.negative = negative := by
  by_cases hn : n = 0
  · subst hn
    cases h
    rfl
  · rw [ofRatio?_eq hn] at h
    split_ifs at h
    cases h
    unfold fitted
    split_ifs <;> rfl

theorem ofRatio?_near {n d : Nat} (hd : d ≠ 0) {x : Double}
    (h : ofRatio? false n d = some x) :
    |x.toRat - n / d| ≤ ((n : ℚ) / d + 1) / 2 ^ 51 := by
  have nonneg := toRat_nonneg (negative_of_ofRatio? h)
  by_cases hn : n = 0
  · subst hn
    cases h
    rw [← abs_of_nonneg nonneg, abs_toRat, Nat.cast_zero, zero_mul, zero_div, sub_zero, abs_zero]
    positivity
  · -- The unit of the mantissa is found from the power of two that is next to the ratio.
    have size : (1 : ℚ) ≤ n / d + 1 := by
      have : (0 : ℚ) ≤ n / d := by positivity
      linarith
    obtain ⟨k, low, high⟩ := exists_nat_pow_near size one_lt_two
    have unit := @unit_le n d (k + 1) hn hd (by linarith)
    have exact := @abs_mantissaOf_sub_le n d hd
    rw [← abs_of_ofRatio? hn h, abs_of_nonneg nonneg] at exact
    calc
      |x.toRat - n / d| ≤ 2 ^ (k + 1) / 2 ^ 52 := exact.trans unit
      _ = 2 ^ k / 2 ^ 51 := by ring
      _ ≤ (n / d + 1) / 2 ^ 51 := by gcongr

theorem nearest?_near {q x : ℚ} (nonneg : 0 ≤ q) (h : nearest? q = some x) :
    0 ≤ x ∧ |x - q| ≤ (q + 1) / 2 ^ 51 := by
  obtain ⟨y, hy, rfl⟩ := Option.map_eq_some_iff.mp h
  rw [ofRat?, decide_eq_false (not_lt.mpr nonneg)] at hy
  have near := ofRatio?_near q.den_nz hy
  rw [natAbs_div_den, abs_of_nonneg nonneg] at near
  exact ⟨toRat_nonneg (negative_of_ofRatio? hy), near⟩

end Double

theorem truncate_of_nonneg {q : ℚ} (h : 0 ≤ q) : truncate q = ⌊q⌋ := by
  rw [truncate, Int.tdiv_eq_ediv_of_nonneg (Rat.num_nonneg.mpr h), Rat.floor_def']

theorem abs_truncate_le (q : ℚ) : |(truncate q : ℚ)| ≤ |q| := by
  have whole : (truncate q).natAbs * q.den ≤ q.num.natAbs := by
    rw [truncate, Int.natAbs_tdiv, Int.natAbs_natCast]
    exact Nat.div_mul_le_self _ _
  have positive : (0 : ℚ) < q.den := by exact_mod_cast q.den_pos
  calc
    |(truncate q : ℚ)| = ((truncate q).natAbs : ℚ) := by rw [Nat.cast_natAbs, Int.cast_abs]
    _ ≤ (q.num.natAbs : ℚ) / q.den := by
      rw [le_div_iff₀ positive]
      exact_mod_cast whole
    _ = |q| := natAbs_div_den q

namespace Scale

theorem double_bounded (tooLarge : Breakdown) {q : ℚ} {k : Nat} (h : |q| < 2 ^ k)
    (hk : k ≤ 1000) : ∃ x, double tooLarge q = .ok x ∧ |x| ≤ 2 ^ (k + 1) := by
  obtain ⟨x, hx, bound⟩ := Double.nearest?_bounded h hk
  exact ⟨x, by simp only [double, hx], bound⟩

theorem roundHalfUp_bounded {x : ℚ} {k : Nat} (h : |x| ≤ 2 ^ k) (hk : k < 1000) :
    ∃ n, roundHalfUp x = .ok n ∧ |(n : ℚ)| ≤ 2 ^ (k + 2) := by
  have one : (1 : ℚ) ≤ 2 ^ k := one_le_pow₀ one_le_two
  have size : |x| + 1 / 2 < 2 ^ (k + 1) := by
    rw [pow_succ]
    linarith
  unfold roundHalfUp
  split_ifs with hx
  · rw [abs_of_nonneg hx] at size
    obtain ⟨y, hy, bound⟩ := double_bounded .infiniteResult (q := x + 1 / 2)
      (by rwa [abs_of_nonneg (by linarith)]) (by omega)
    exact ⟨truncate y, by rw [hy]; rfl, (abs_truncate_le y).trans bound⟩
  · rw [abs_of_neg (not_le.mp hx)] at size
    obtain ⟨y, hy, bound⟩ := double_bounded .infiniteResult (q := -x + 1 / 2)
      (by rwa [abs_of_nonneg (by linarith)]) (by omega)
    refine ⟨-truncate y, by rw [hy]; rfl, ?_⟩
    rw [Int.cast_neg, abs_neg]
    exact (abs_truncate_le y).trans bound

theorem convert_bounded {value : ℚ} {whole k : Nat} (h : |value / whole| < 2 ^ k)
    (full l : Nat) (hfull : full < 2 ^ l) (hk : k + l < 900) :
    ∃ n, convert value whole full = .ok n ∧ |(n : ℚ)| ≤ 2 ^ (k + l + 4) := by
  obtain ⟨ratio, hratio, small⟩ := double_bounded .quotientTooLarge h (by omega)
  have grown : |ratio * full| < 2 ^ (k + 1 + l) := by
    have positive : (0 : ℚ) < 2 ^ (k + 1) := by positivity
    have below : (full : ℚ) < 2 ^ l := by exact_mod_cast hfull
    calc
      |ratio * full| = |ratio| * full := by rw [abs_mul, Nat.abs_cast]
      _ ≤ 2 ^ (k + 1) * full := by gcongr
      _ < 2 ^ (k + 1) * 2 ^ l := by gcongr
      _ = 2 ^ (k + 1 + l) := (pow_add ..).symm
  obtain ⟨scaled, hscaled, moderate⟩ := double_bounded .infiniteResult grown (by omega)
  obtain ⟨n, hn, bound⟩ := roundHalfUp_bounded moderate (by omega)
  refine ⟨n, ?_, bound.trans (pow_le_pow_right₀ one_le_two (by omega))⟩
  simp only [convert, hratio, hscaled, hn, bind, Except.bind]

/-- The percentage that a raw duty shows as has a pulse width. -/
theorem percentToPwm_of_raw {timer : Timer} {raw percent : Int} (nonneg : 0 ≤ raw)
    (le : raw ≤ timer.rawMax) (h : convert raw timer.rawMax 100 = .ok percent) :
    ∃ pwm, percentToPwm percent = .ok pwm := by
  have share : |(raw : ℚ) / timer.rawMax| < 2 ^ 1 := by
    have positive : (0 : ℚ) < timer.rawMax := by cases timer <;> norm_num [Timer.rawMax]
    have low : (0 : ℚ) ≤ raw := by exact_mod_cast nonneg
    have high : (raw : ℚ) ≤ timer.rawMax := by exact_mod_cast le
    rw [abs_of_nonneg (div_nonneg low positive.le), div_lt_iff₀ positive]
    linarith
  obtain ⟨n, hn, bound⟩ := convert_bounded share 100 7 (by decide) (by decide)
  rw [h, Except.ok.injEq] at hn
  subst hn
  have part : |(percent : ℚ) / (100 : Nat)| < 2 ^ 12 := by
    rw [abs_div]
    norm_num at bound ⊢
    linarith
  obtain ⟨pwm, hpwm, -⟩ := convert_bounded part 255 8 (by decide) (by decide)
  exact ⟨pwm, hpwm⟩

end Scale

end SketchGrader
