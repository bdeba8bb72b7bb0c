import SketchGrader.Proofs.Judging
import SketchGrader.Proofs.Rounding
import SketchGrader.Proofs.Script

/-!
# Shown duties

The duty that a pin shows and the pulse width that drives it are rounded from one number, each on
its own scale. The coarser scale of percentages may show zero for a pulse width, but never the other
way round: in every replay a pin without a pulse width shows a duty of zero.
-/

namespace SketchGrader

namespace Scale

theorem double_near {tooLarge : Breakdown} {q x : ℚ} (nonneg : 0 ≤ q)
    (h : double tooLarge q = .ok x) : 0 ≤ x ∧ |x - q| ≤ (q + 1) / 2 ^ 51 := by
  unfold double at h
  split at h
  next y hy =>
    cases h
    exact Double.nearest?_near nonneg hy
  next => cases h

theorem roundHalfUp_near {x : ℚ} {n : Int} (nonneg : 0 ≤ x) (h : roundHalfUp x = .ok n) :
    |(n : ℚ) - x| ≤ 1 / 2 + (x + 2) / 2 ^ 51 := by
  rw [roundHalfUp, if_pos nonneg] at h
  obtain ⟨y, hy, hn⟩ := bind_eq_ok.mp h
  obtain ⟨positive, near⟩ := double_near (by linarith) hy
  have whole : n = ⌊y⌋ := by
    rw [← truncate_of_nonneg positive]
    exact (Except.ok.inj hn).symm
  have below : (n : ℚ) ≤ y := whole ▸ Int.floor_le y
  have above : y - 1 < n := whole ▸ Int.sub_one_lt_floor y
  rw [abs_le] at near ⊢
  constructor <;> linarith [near.1, near.2]

/-- A conversion is off by a half, and by what three roundings to a double add. -/
theorem convert_near {value : ℚ} {whole full : Nat} {n : Int} (nonneg : 0 ≤ value)
    (h : convert value whole full = .ok n) :
    |(n : ℚ) - value / whole * full| ≤ 1 / 2 + (value / whole * full + full + 1) / 2 ^ 48 := by
  obtain ⟨ratio, hratio, h⟩ := bind_eq_ok.mp h
  obtain ⟨scaled, hscaled, h⟩ := bind_eq_ok.mp h
  obtain ⟨positive, first⟩ := double_near (div_nonneg nonneg whole.cast_nonneg) hratio
  obtain ⟨positive', second⟩ := double_near (mul_nonneg positive full.cast_nonneg) hscaled
  have third := roundHalfUp_near positive' h
  have first' : |ratio * full - value / whole * full| ≤
      (value / whole * full + full) / 2 ^ 51 := by
    rw [← sub_mul, abs_mul, Nat.abs_cast]
    calc
      |ratio - value / whole| * full ≤ (value / whole + 1) / 2 ^ 51 * full := by gcongr
      _ = (value / whole * full + full) / 2 ^ 51 := by ring
  have share : 0 ≤ value / whole * full := by positivity
  have count : (0 : ℚ) ≤ full := full.cast_nonneg
  rw [abs_le] at first' second third ⊢
  constructor <;> linarith [first'.1, first'.2, second.1, second.2, third.1, third.2]

/-- Every percentage above zero has a pulse width that drives the pin. -/
theorem percentToPwm_pos {percent pwm : Int} (h : percentToPwm percent = .ok pwm)
    (positive : 0 < percent) : 0 < pwm := by
  have one : (1 : ℚ) ≤ percent := by exact_mod_cast positive
  have near := (abs_le.mp (convert_near (by linarith) h)).1
  have above : (0 : ℚ) < pwm := by
    norm_num at near
    linarith
  exact_mod_cast above

/-- A raw duty without a pulse width shows as zero percent. -/
theorem percent_eq_zero_of_raw {timer : Timer} {raw pwm percent : Int} (nonneg : 0 ≤ raw)
    (hpwm : convert raw timer.rawMax 255 = .ok pwm)
    (hpercent : convert raw timer.rawMax 100 = .ok percent) (undriven : pwm ≤ 0) :
    percent = 0 := by
  have low : (0 : ℚ) ≤ raw := by exact_mod_cast nonneg
  have none : (pwm : ℚ) ≤ 0 := by exact_mod_cast undriven
  have share : 0 ≤ (raw : ℚ) / timer.rawMax := by positivity
  have driven := (abs_le.mp (convert_near low hpwm)).1
  have shown := abs_le.mp (convert_near low hpercent)
  norm_num at driven shown
  have below : (percent : ℚ) < 1 := by linarith
  have above : (-1 : ℚ) < percent := by linarith
  have below' : percent < 1 := by exact_mod_cast below
  have above' : -1 < percent := by exact_mod_cast above
  omega

end Scale

namespace PinState

/-- A pin without a pulse width shows a duty of zero. -/
def Consistent (s : PinState) : Prop := s.pwm ≤ 0 → s.duty = 0

/-- Whether a pin is on, and the duty it shows. -/
def shown (s : PinState) : Bool × Int := (s.isOn, s.duty)

theorem consistent_drive (s : PinState) {pwm duty : Int} (h : pwm ≤ 0 → duty = 0) :
    (s.drive pwm duty).Consistent := by
  intro undriven
  have width : max 0 (min 255 pwm) ≤ 0 := undriven
  exact h (by omega)

/-- Consistent pins look alike if they show the same and a pulse width drives both or neither. -/
theorem appearance_eq_iff {s t : PinState} (hs : s.Consistent) (ht : t.Consistent) :
    s.appearance = t.appearance ↔ s.shown = t.shown ∧ (0 < s.pwm ↔ 0 < t.pwm) := by
  unfold Consistent at hs ht
  simp only [appearance, shown, Prod.mk.injEq]
  by_cases driven : 0 < s.pwm <;> by_cases driven' : 0 < t.pwm
  · simp [driven, driven']
  · simp [driven, driven']
  · simp [driven, driven']
  · have zero := hs (by omega)
    have zero' := ht (by omega)
    simp [driven, driven', zero, zero']

/-- Where a pulse width drives one of two pins that show the same, both are on at zero percent. -/
theorem shown_of_half_driven {s t : PinState} (hs : s.Consistent) (ht : t.Consistent)
    (same : s.shown = t.shown) (half : ¬ (0 < s.pwm ↔ 0 < t.pwm)) : t.shown = (true, 0) := by
  unfold Consistent at hs ht
  by_cases driven : 0 < s.pwm
  · have zero := ht (by omega)
    rw [← same]
    have duty : s.duty = t.duty := congrArg Prod.snd same
    simp [shown, isOn, driven, duty, zero]
  · have driven' : 0 < t.pwm := by omega
    have zero := hs (by omega)
    have duty : s.duty = t.duty := congrArg Prod.snd same
    simp [shown, isOn, driven', ← duty, zero]

end PinState

namespace Machine

/-- Every pin of the machine is consistent. -/
def Consistent (m : Machine) : Prop :=
  ∀ q state, m.board.get? q = some state → state.Consistent

theorem consistent_ofPins (usable : List Int) : (ofPins usable).Consistent := by
  intro q state hs
  have fresh : (Board.ofPins usable).get? q = some state := hs
  rw [Board.get?_ofPins] at fresh
  split_ifs at fresh
  cases fresh
  intro
  rfl

/-- Only a pulse width changes the duty, and the two are rounded from one number. -/
theorem consistent_onPin {limits : Limits} {m : Machine} {statement : Statement} {e : Effect}
    (permitted : m.Permits limits statement) (h : statement.HasEffect e) (q : Int) {s : PinState}
    (hs : s.Consistent) : (e.onPin q s).Consistent := by
  cases h with
  | declare hd =>
      rw [Effect.onPin]
      split_ifs
      · exact hs
      · exact hs
  | level hon =>
      rw [Effect.onPin]
      split_ifs
      · exact hs
      · exact hs
  | @duty pin percent pwm hpwm =>
      obtain ⟨⟨nonneg, -⟩, -⟩ := permitted
      have rounded : pwm ≤ 0 → percent = 0 := by
        intro undriven
        by_contra shown
        have driven := Scale.percentToPwm_pos hpwm (by omega)
        omega
      rw [Effect.onPin]
      split_ifs
      · exact s.consistent_drive rounded
      · exact hs
  | pulse hpwm hpercent =>
      obtain ⟨-, ⟨nonneg, -⟩, -⟩ := permitted
      rw [Effect.onPin]
      split_ifs
      · exact s.consistent_drive (Scale.percent_eq_zero_of_raw nonneg hpwm hpercent)
      · exact hs
  | _ => exact hs

theorem Consistent.after {limits : Limits} {m : Machine} (h : m.Consistent)
    {statement : Statement} {e : Effect} (permitted : m.Permits limits statement)
    (heff : statement.HasEffect e) : (m.after e).Consistent := by
  intro q state hs
  rw [get?_after] at hs
  obtain ⟨before, hb, rfl⟩ := Option.map_eq_some_iff.mp hs
  exact consistent_onPin permitted heff q (h q before hb)

end Machine

namespace Replay

theorem consistent_line {limits : Limits} {origin : Body} {s s' : State} {number : Int}
    {text : Text} (consistent : s.machine.Consistent)
    (h : (line limits origin s number text).result = .ok s') : s'.machine.Consistent := by
  obtain ⟨-, -, rfl⟩ | ⟨e, ⟨statement, -, -, permitted, heff⟩, htake⟩ := line_ok h
  · exact consistent
  · rw [machine_of_take htake]
    exact consistent.after permitted heff

theorem consistent_follow {limits : Limits} {s s' : State} {cues : List Cue}
    (consistent : s.machine.Consistent) (h : (follow limits s cues).result = .ok s') :
    s'.machine.Consistent := by
  induction cues generalizing s with
  | nil =>
      cases h
      exact consistent
  | cons cue rest ih =>
      obtain ⟨t, hp, h⟩ := follow_cons_ok h
      exact ih (consistent_line consistent hp) h

end Replay

end SketchGrader
