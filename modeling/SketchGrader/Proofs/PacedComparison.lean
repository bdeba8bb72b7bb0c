import SketchGrader.Proofs.ChangeLog
import SketchGrader.Proofs.Judging
import SketchGrader.Proofs.Rounding

/-!
# A timeline compared with its own events, later

The events of a live run are those of the timeline, each later by some pauses. Aligned with the
timeline they agree in pin, state and duty, so only the gaps can tell the two apart: a gap is longer
by the pauses between its two events. The counts and the differences follow from that.
-/

namespace SketchGrader

/-! ## Duties of a replay -/

namespace Replay

/-- The duty of an event is that of the write that gives it, and a write with a duty goes through
only if the duty has a pulse width. -/
theorem scaledDuty_of_take {limits : Limits} {s : State} {text : Text} {origin : Body}
    {e : Effect} {event : Event} (acts : Acts limits s.machine text e)
    (h : event ∈ (s.take origin e).1) : ∃ width, event.scaledDuty = .ok width := by
  obtain ⟨statement, -, -, permitted, effect⟩ := acts
  cases e with
  | level pin on =>
      obtain ⟨state, -, -, rfl⟩ := mem_observe h
      have zero : Scale.percentToPwm 0 = .ok 0 := by decide +kernel
      exact ⟨0, zero⟩
  | drive pin pwm duty =>
      obtain ⟨state, hs, -, rfl⟩ := mem_observe h
      rw [Machine.get?_after] at hs
      obtain ⟨before, -, rfl⟩ := Option.map_eq_some_iff.mp hs
      have shown : (eventOf s.clock origin .pwm pin
          ((Effect.drive pin pwm duty).onPin pin before)).scaledDuty =
            Scale.percentToPwm duty := by
        simp only [eventOf, Event.scaledDuty, Effect.onPin, PinState.drive, if_true,
          Option.getD_some]
      rw [shown]
      cases effect with
      | duty given => exact ⟨pwm, given⟩
      | pulse _ given => exact Scale.percentToPwm_of_raw permitted.2.1.1 permitted.2.1.2 given
  | elapse ms => cases h
  | idle => cases h
  | declare pin direction => cases h
  | timer timer state => cases h

theorem scaledDuty_of_follow {limits : Limits} {s : State} {cues : List Cue} {event : Event}
    (h : event ∈ (follow limits s cues).events) : ∃ width, event.scaledDuty = .ok width := by
  obtain ⟨done, cue, rest, t, -, -, given⟩ := mem_follow h
  obtain ⟨e, acts, taken, -⟩ := acts_of_mem_line given
  exact scaledDuty_of_take acts taken

end Replay

/-! ## Pairs that can differ in their gaps only -/

namespace EventPair

/-- A pair that shows the same, at whatever times. -/
structure Alike (p : EventPair) : Prop where
  pin_eq : p.target.pin = p.candidate.pin
  state_eq : p.target.isOn = p.candidate.isOn
  duty_eq : p.target.scaledDuty = p.candidate.scaledDuty
  scales : ∃ width, p.target.scaledDuty = .ok width

end EventPair

namespace Judgement

variable {α : Type} [Weighing α] {settings : CompareSettings α} {tolerance : Int}

theorem ofPair_of_alike (lenient : 0 ≤ settings.pwmTolerance) {p : EventPair} (h : p.Alike) :
    ofPair settings tolerance p = .ok ⟨true, true, true, intervalAgrees settings tolerance p⟩ := by
  have duties : pwmAgrees settings p.target p.candidate = .ok true := by
    obtain ⟨width, hwidth⟩ := h.scales
    have same : ((width - width).natAbs : Int) ≤ settings.pwmTolerance := by omega
    unfold pwmAgrees
    rw [← h.duty_eq, hwidth]
    split_ifs
    · simp only [bind, Except.bind, pure, Except.pure, same, decide_true]
    · rfl
  unfold ofPair
  rw [duties, h.pin_eq, h.state_eq]
  simp only [bind, Except.bind, pure, Except.pure, beq_self_eq_true]

/-- The difference of a pair that can differ in its gap only. -/
def slip (settings : CompareSettings α) (tolerance : Int) (p : EventPair) : List Difference :=
  differences p ⟨true, true, true, intervalAgrees settings tolerance p⟩

theorem slip_of_none {p : EventPair} (h : p.gaps? = none) :
    intervalAgrees settings tolerance p = true ∧ slip settings tolerance p = [] := by
  have agrees : intervalAgrees settings tolerance p = true := by
    unfold intervalAgrees
    rw [h]
  exact ⟨agrees, by simp only [slip, differences, agrees, if_true, List.nil_append]⟩

theorem slip_of_some {p : EventPair} {t c : Int} (h : p.gaps? = some (t, c)) :
    intervalAgrees settings tolerance p =
        decide (((t - c).natAbs : Int) ≤ allowedGap settings tolerance t) ∧
      slip settings tolerance p =
        if ((t - c).natAbs : Int) ≤ allowedGap settings tolerance t then []
        else [.gaps p.index p.target.pin t c] := by
  have agrees : intervalAgrees settings tolerance p =
      decide (((t - c).natAbs : Int) ≤ allowedGap settings tolerance t) := by
    unfold intervalAgrees
    rw [h]
  refine ⟨agrees, ?_⟩
  simp only [slip, differences, agrees, h, if_true, List.nil_append, decide_eq_true_eq]

/-- Every pair whose gaps disagree gives one difference. -/
theorem countP_intervalAgrees (pairs : List EventPair) :
    pairs.countP (intervalAgrees settings tolerance) +
      (pairs.flatMap (slip settings tolerance)).length = pairs.length := by
  induction pairs with
  | nil => rfl
  | cons p rest ih =>
      rw [List.countP_cons, List.flatMap_cons, List.length_append, List.length_cons]
      cases hp : p.gaps? with
      | none =>
          rw [(slip_of_none hp).1, (slip_of_none hp).2, List.length_nil, if_pos rfl]
          omega
      | some gaps =>
          obtain ⟨t, c⟩ := gaps
          rw [(slip_of_some hp).1, (slip_of_some hp).2]
          by_cases h : ((t - c).natAbs : Int) ≤ allowedGap settings tolerance t
          · rw [decide_eq_true h, if_pos rfl, if_pos h, List.length_nil]
            omega
          · rw [decide_eq_false h, if_neg Bool.false_ne_true, if_neg h, List.length_singleton]
            omega

end Judgement

namespace Verdict

open EventPair (alignFrom)
open Judgement (allowedGap intervalAgrees slip)

variable {α : Type} [Weighing α] {settings : CompareSettings α} {tolerance : Int}

theorem judge_of_alike (lenient : 0 ≤ settings.pwmTolerance) {pairs : List EventPair}
    (h : ∀ p ∈ pairs, p.Alike) :
    judge settings tolerance pairs =
      .ok (pairs.map fun p =>
        (p, ⟨true, true, true, intervalAgrees settings tolerance p⟩)) := by
  induction pairs with
  | nil => rfl
  | cons p rest ih =>
      obtain ⟨hp, hrest⟩ := List.forall_mem_cons.mp h
      rw [judge, Judgement.ofPair_of_alike lenient hp, ih hrest]
      rfl

/-- The counts of a comparison in which some gaps differ and nothing else does. -/
def slipped (total slips : Nat) : Details := ⟨total - slips, total, total, total, total⟩

theorem ofEvents_of_alike (lenient : 0 ≤ settings.pwmTolerance) {ts cs : List Event}
    (same : ts.length = cs.length) (h : ∀ p ∈ alignFrom 0 ts cs, p.Alike) :
    let slips := (alignFrom 0 ts cs).flatMap (slip settings tolerance)
    ofEvents settings tolerance ts cs =
      (weigh settings (slipped ts.length slips.length)).map fun score =>
        ⟨decide (settings.passScore ≤ score), score, slips,
          slipped ts.length slips.length⟩ := by
  intro slips
  have size : (alignFrom 0 ts cs).length = ts.length := by
    rw [EventPair.length_alignFrom, ← same, Nat.min_self]
  have count : (alignFrom 0 ts cs).countP (intervalAgrees settings tolerance) =
      ts.length - slips.length := by
    have total : (alignFrom 0 ts cs).countP (intervalAgrees settings tolerance) + slips.length =
        (alignFrom 0 ts cs).length := Judgement.countP_intervalAgrees _
    omega
  have details : Details.ofJudgements ((alignFrom 0 ts cs).map fun p =>
      ⟨true, true, true, intervalAgrees settings tolerance p⟩) =
        slipped ts.length slips.length := by
    simp only [Details.ofJudgements, slipped, List.countP_map, Function.comp_def,
      List.countP_true, List.length_map, size, count]
  unfold ofEvents
  rw [judge_of_alike lenient h]
  simp only [bind, Except.bind, List.map_map, Function.comp_def, details]
  cases weigh settings (slipped ts.length slips.length) with
  | error b => rfl
  | ok score =>
      simp only [same, beq_self_eq_true, Bool.true_and, if_true, List.nil_append,
        List.flatMap_map]
      rfl

/-- The score of a comparison with the given counts; two timelines without events agree. -/
def scored (settings : CompareSettings α) (d : Details) : Except Halt Int :=
  if d.total = 0 then .ok 100 else (weigh settings d).mapError .breakdown

theorem scored_of_total {total slips : Nat} (h : total ≠ 0) :
    scored settings (slipped total slips) =
      (weigh settings (slipped total slips)).mapError .breakdown := if_neg h

end Verdict

/-! ## A timeline and its delayed events -/

namespace EventPair

open Replay (delayed)

/-- The pair of an event and its delayed form, as both timelines are shifted to their beginnings. -/
def paced (pause offset offset' : Int) (index : Nat) (a : Nat × Event)
    (next : Option (Nat × Event)) : EventPair :=
  ⟨index, a.2.shift offset, (delayed pause a).shift offset',
    next.map fun b => (b.2.shift offset, (delayed pause b).shift offset')⟩

section
variable (pause offset offset' : Int)

theorem alignFrom_paced_cons (index : Nat) (a : Nat × Event) (rest : List (Nat × Event)) :
    alignFrom index ((a :: rest).map fun r => r.2.shift offset)
        ((a :: rest).map fun r => (delayed pause r).shift offset') =
      paced pause offset offset' index a rest.head? ::
        alignFrom (index + 1) (rest.map fun r => r.2.shift offset)
          (rest.map fun r => (delayed pause r).shift offset') := by
  cases rest <;> rfl

theorem gaps?_paced (index : Nat) (a : Nat × Event) (next : Option (Nat × Event)) :
    (paced pause offset offset' index a next).gaps? = next.map fun b =>
      (b.2.time - a.2.time, b.2.time - a.2.time + pause * ((b.1 : Int) - a.1)) := by
  cases next with
  | none => rfl
  | some b =>
      have target : b.2.time + offset - (a.2.time + offset) = b.2.time - a.2.time := by omega
      have candidate : b.2.time + pause * b.1 + offset' - (a.2.time + pause * a.1 + offset') =
          b.2.time - a.2.time + pause * ((b.1 : Int) - a.1) := by
        rw [Int.mul_sub]
        omega
      simp only [gaps?, paced, Option.map_some, Event.shift, delayed, target, candidate]

theorem alike_of_mem_paced {rs : List (Nat × Event)}
    (scales : ∀ r ∈ rs, ∃ width, r.2.scaledDuty = .ok width) (index : Nat) :
    ∀ p ∈ alignFrom index (rs.map fun r => r.2.shift offset)
      (rs.map fun r => (delayed pause r).shift offset'), p.Alike := by
  induction rs generalizing index with
  | nil => exact List.forall_mem_nil _
  | cons a rest ih =>
      obtain ⟨ha, hrest⟩ := List.forall_mem_cons.mp scales
      rw [alignFrom_paced_cons]
      exact List.forall_mem_cons.mpr ⟨⟨rfl, rfl, rfl, ha⟩, ih hrest (index + 1)⟩

end

end EventPair

namespace Verdict

open EventPair (alignFrom)
open Judgement (allowedGap slip)
open Replay (delayed)

variable {α : Type} [Weighing α] {settings : CompareSettings α} {tolerance pause : Int}

/-- Between two events the pauses make the gap longer than is allowed. -/
def Slips (settings : CompareSettings α) (tolerance pause : Int) (a b : Nat × Event) : Prop :=
  allowedGap settings tolerance (b.2.time - a.2.time) < ((pause * ((b.1 : Int) - a.1)).natAbs : Int)

instance (settings : CompareSettings α) (tolerance pause : Int) :
    DecidableRel (Slips settings tolerance pause) := fun _ _ => inferInstanceAs (Decidable (_ < _))

/-- The difference at an index where the gap between two events is longer by some pauses. -/
def lateGap (pause : Int) (index : Nat) (a b : Nat × Event) : Difference :=
  .gaps index a.2.pin (b.2.time - a.2.time)
    (b.2.time - a.2.time + pause * ((b.1 : Int) - a.1))

/-- The gaps between neighbouring events that are late, as differences, in order and one each. -/
def lateGaps (pause : Int) (late : Nat × Event → Nat × Event → Prop) [DecidableRel late]
    (rs : List (Nat × Event)) : List Difference :=
  ((rs.zip rs.tail).zipIdx.filter fun x => late x.1.1 x.1.2).map fun x =>
    lateGap pause x.2 x.1.1 x.1.2

theorem mem_neighbours {rs : List (Nat × Event)} {a b : Nat × Event} {i : Nat} :
    ((a, b), i) ∈ (rs.zip rs.tail).zipIdx ↔ rs[i]? = some a ∧ rs[i + 1]? = some b := by
  rw [List.mem_zipIdx_iff_getElem?, List.getElem?_zip_eq_some, List.getElem?_tail]

section
variable {late late' : Nat × Event → Nat × Event → Prop} [DecidableRel late] [DecidableRel late']
variable {rs : List (Nat × Event)}

theorem lateGaps_congr (h : ∀ i a b, rs[i]? = some a → rs[i + 1]? = some b →
    (late a b ↔ late' a b)) : lateGaps pause late rs = lateGaps pause late' rs := by
  unfold lateGaps
  congr 1
  apply List.filter_congr
  rintro ⟨⟨a, b⟩, i⟩ hx
  obtain ⟨ha, hb⟩ := mem_neighbours.mp hx
  exact decide_eq_decide.mpr (h i a b ha hb)

theorem lateGaps_eq_nil_iff : lateGaps pause late rs = [] ↔
    ∀ i a b, rs[i]? = some a → rs[i + 1]? = some b → ¬ late a b := by
  rw [lateGaps, List.map_eq_nil_iff, List.filter_eq_nil_iff]
  constructor
  · intro none i a b ha hb far
    exact none _ (mem_neighbours.mpr ⟨ha, hb⟩) (decide_eq_true far)
  · rintro none ⟨⟨a, b⟩, i⟩ hx far
    obtain ⟨ha, hb⟩ := mem_neighbours.mp hx
    exact none i a b ha hb (of_decide_eq_true far)

end

/-- What is told of the pairs, one after the other, are the gaps that slip. -/
theorem slips_eq (offset offset' : Int) (rs : List (Nat × Event)) :
    (alignFrom 0 (rs.map fun r => r.2.shift offset)
        (rs.map fun r => (delayed pause r).shift offset')).flatMap (slip settings tolerance) =
      lateGaps pause (Slips settings tolerance pause) rs := by
  have apart (gap extra : Int) : (gap - (gap + extra)).natAbs = extra.natAbs := by omega
  unfold lateGaps
  generalize 0 = index
  induction rs generalizing index with
  | nil => rfl
  | cons a rest ih =>
      have gaps := EventPair.gaps?_paced pause offset offset' index a rest.head?
      rw [EventPair.alignFrom_paced_cons, List.flatMap_cons, ih]
      cases rest with
      | nil =>
          rw [(Judgement.slip_of_none gaps).2]
          rfl
      | cons b rest =>
          have neighbours : (a :: b :: rest).zip (a :: b :: rest).tail =
              (a, b) :: (b :: rest).zip (b :: rest).tail := rfl
          rw [(Judgement.slip_of_some gaps).2, apart, neighbours, List.zipIdx_cons,
            List.filter_cons]
          by_cases far : Slips settings tolerance pause a b
          · rw [if_neg (Int.not_le.mpr far), if_pos (decide_eq_true far)]
            rfl
          · rw [if_pos (Int.not_lt.mp far), if_neg (mt of_decide_eq_true far)]
            rfl

/-- A timeline is compared with its own events, each later by the pauses in front of it. The
differences are the gaps that the pauses make too long, and the counts follow from their number. -/
theorem compare_paced (lenient : 0 ≤ settings.pwmTolerance) (passable : settings.passScore ≤ 100)
    (pause : Int) {rs : List (Nat × Event)}
    (scales : ∀ r ∈ rs, ∃ width, r.2.scaledDuty = .ok width) {target candidate : Sequence}
    (ht : target.events = rs.map (·.2)) (hc : candidate.events = rs.map (delayed pause))
    (override : Option Int) :
    let slips := lateGaps pause (Slips settings (override.getD settings.toleranceMs) pause) rs
    (compare settings target candidate override).outcome =
      (scored settings (slipped rs.length slips.length)).map fun score =>
        ⟨decide (settings.passScore ≤ score), score, slips, slipped rs.length slips.length⟩ := by
  intro slips
  obtain ⟨offset, hoffset⟩ := normalize_eq_shift target.events
  obtain ⟨offset', hoffset'⟩ := normalize_eq_shift candidate.events
  rw [ht, List.map_map, Function.comp_def] at hoffset
  rw [hc, List.map_map, Function.comp_def] at hoffset'
  by_cases hrs : rs = []
  -- Two timelines without events agree without being compared; the full score passes.
  · subst hrs
    simp only [compare, ht, hc, List.map_nil, List.isEmpty_nil]
    simp [slips, lateGaps, scored, slipped, passable, Except.map]
  · have alike := EventPair.alike_of_mem_paced pause offset offset' scales 0
    have full : rs.length ≠ 0 := fun h => hrs (List.length_eq_zero_iff.mp h)
    rw [compare_of_ne_nil (by simpa [ht] using hrs) (by simpa [hc] using hrs), ht, hc, hoffset,
      hoffset', ofEvents_of_alike lenient (by simp only [List.length_map]) alike, slips_eq,
      scored_of_total full, List.length_map]
    generalize weigh settings _ = score
    cases score with
    | error b => rfl
    | ok n => rfl

end Verdict

end SketchGrader
