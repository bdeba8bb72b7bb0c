import Mathlib.Data.List.Basic
import SketchGrader.Proofs.Judging

/-!
# Every pair is accounted for

A verdict counts the pairs that agree in a respect and tells the others. Both are compared here with
the rule of the respect, stated for the events at an index. The count is the number of indices at
which the rule holds, and the differences of the class are at the other indices, one each.
-/

namespace SketchGrader

/-! ## The rules -/

/-- The time from the event at an index to the next one. -/
def gapAt? (events : List Event) (i : Nat) : Option Int :=
  events[i]?.bind fun e => events[i + 1]?.map fun e' => e'.time - e.time

theorem gapAt?_shift (events : List Event) (offset : Int) (i : Nat) :
    gapAt? (events.map fun e => e.shift offset) i = gapAt? events i := by
  have gap (x y : Int) : x + offset - (y + offset) = x - y := by omega
  simp only [gapAt?, List.getElem?_map]
  cases events[i]? with
  | none => rfl
  | some e =>
      cases events[i + 1]? with
      | none => rfl
      | some e' => exact congrArg some (gap _ _)

theorem gapAt?_eq_none_iff {events : List Event} {i : Nat} :
    gapAt? events i = none ↔ events.length ≤ i + 1 := by
  simp only [gapAt?, Option.bind_eq_none_iff, Option.map_eq_none_iff, List.getElem?_eq_none_iff]
  constructor
  · intro h
    by_cases inside : i < events.length
    · exact h _ (List.getElem?_eq_getElem inside)
    · omega
  · intro h _ _
    exact h

namespace Respect

variable {α : Type} [Weighing α]

/-- The rule of a respect for the events at an index. Duties are compared only if both events are
driven by a pulse width, and gaps only before the last event of the shorter timeline. -/
def Holds (settings : CompareSettings α) (tolerance : Int) (ts cs : List Event) (i : Nat) :
    Respect → Prop
  | pin => ts[i]?.map (·.pin) = cs[i]?.map (·.pin)
  | state => ts[i]?.map (·.isOn) = cs[i]?.map (·.isOn)
  | pwm => ∀ t ∈ ts[i]?, ∀ c ∈ cs[i]?, t.kind = .pwm → c.kind = .pwm →
      ∃ wanted ∈ t.scaledDuty.toOption, ∃ found ∈ c.scaledDuty.toOption,
        ((wanted - found).natAbs : Int) ≤ settings.pwmTolerance
  | interval => i + 1 = min ts.length cs.length ∨ ∃ t ∈ gapAt? ts i, ∃ c ∈ gapAt? cs i,
      ((t - c).natAbs : Int) ≤
        if t < settings.simultaneousBelowMs then settings.simultaneousToleranceMs else tolerance

instance (settings : CompareSettings α) (tolerance : Int) (ts cs : List Event) (i : Nat) :
    DecidablePred (Holds settings tolerance ts cs i)
  | pin => inferInstanceAs (Decidable (_ = _))
  | state => inferInstanceAs (Decidable (_ = _))
  | pwm => inferInstanceAs (Decidable (∀ t ∈ ts[i]?, ∀ c ∈ cs[i]?, _ → _ →
      ∃ wanted ∈ t.scaledDuty.toOption, ∃ found ∈ c.scaledDuty.toOption, _))
  | interval => inferInstanceAs (Decidable (_ ∨ ∃ t ∈ gapAt? ts i, ∃ c ∈ gapAt? cs i, _))

section
variable {settings : CompareSettings α} {tolerance : Int} {ts cs : List Event} {i : Nat}
variable {p : EventPair} {j : Judgement}

/-- The rules look at gaps and not at times, so both timelines may be moved. -/
theorem holds_shift (a b : Int) (r : Respect) :
    r.Holds settings tolerance (ts.map fun e => e.shift a) (cs.map fun e => e.shift b) i ↔
      r.Holds settings tolerance ts cs i := by
  cases r with
  | pin =>
      simp only [Holds, List.getElem?_map]
      cases ts[i]? <;> cases cs[i]? <;> exact Iff.rfl
  | state =>
      simp only [Holds, List.getElem?_map]
      cases ts[i]? <;> cases cs[i]? <;> exact Iff.rfl
  | pwm =>
      simp only [Holds, List.getElem?_map]
      cases ts[i]? <;> cases cs[i]? <;> simp [Event.shift, Event.scaledDuty]
  | interval => simp only [Holds, List.length_map, gapAt?_shift]

theorem holds_pwm (ht : ts[i]? = some p.target) (hc : cs[i]? = some p.candidate) {agrees : Bool}
    (h : Judgement.pwmAgrees settings p.target p.candidate = .ok agrees) :
    agrees = true ↔ pwm.Holds settings tolerance ts cs i := by
  unfold Judgement.pwmAgrees at h
  simp only [Holds, ht, hc, Option.mem_some_iff, forall_eq']
  by_cases both : p.target.kind = .pwm ∧ p.candidate.kind = .pwm
  · rw [if_pos both] at h
    obtain ⟨wanted, hw, h⟩ := bind_eq_ok.mp h
    obtain ⟨found, hf, h⟩ := bind_eq_ok.mp h
    cases h
    simp [both, hw, hf, Except.toOption]
  · rw [if_neg both] at h
    cases h
    exact iff_of_true rfl fun target candidate => (both ⟨target, candidate⟩).elim

theorem holds_interval (h : (EventPair.alignFrom 0 ts cs)[i]? = some p) :
    Judgement.intervalAgrees settings tolerance p = true ↔
      interval.Holds settings tolerance ts cs i := by
  obtain ⟨-, ht, hc, hnext⟩ := EventPair.getElem?_alignFrom_eq_some.mp h
  have target := (List.getElem?_eq_some_iff.mp ht).1
  have candidate := (List.getElem?_eq_some_iff.mp hc).1
  have gaps : p.gaps? = (gapAt? ts i).bind fun t => (gapAt? cs i).map (t, ·) := by
    simp only [EventPair.gaps?, hnext, gapAt?, ht, hc, Option.bind_some]
    cases ts[i + 1]? <;> cases cs[i + 1]? <;> rfl
  unfold Judgement.intervalAgrees Holds
  rw [gaps]
  cases hts : gapAt? ts i with
  | none =>
      have short := gapAt?_eq_none_iff.mp hts
      exact iff_of_true rfl (.inl (by omega))
  | some t =>
      have long : ¬ ts.length ≤ i + 1 := by simp [← gapAt?_eq_none_iff, hts]
      cases hcs : gapAt? cs i with
      | none =>
          have short := gapAt?_eq_none_iff.mp hcs
          exact iff_of_true rfl (.inl (by omega))
      | some c =>
          have long' : ¬ cs.length ≤ i + 1 := by simp [← gapAt?_eq_none_iff, hcs]
          have inner : i + 1 ≠ min ts.length cs.length := by omega
          simp only [inner, Option.mem_some_iff, exists_eq_left', false_or]
          exact decide_eq_true_iff

/-- A pair is judged by the rules. -/
theorem agrees_iff_holds (hp : (EventPair.alignFrom 0 ts cs)[i]? = some p)
    (hj : Judgement.ofPair settings tolerance p = .ok j) (r : Respect) :
    j.agrees r = true ↔ r.Holds settings tolerance ts cs i := by
  obtain ⟨-, ht, hc, -⟩ := EventPair.getElem?_alignFrom_eq_some.mp hp
  obtain ⟨pin, state, pwm, interval⟩ := Judgement.ofPair_eq_ok hj
  cases r with
  | pin => simp [Judgement.agrees, Holds, pin, ht, hc]
  | state => simp [Judgement.agrees, Holds, state, ht, hc]
  | pwm => exact holds_pwm ht hc pwm
  | interval => exact (Bool.eq_iff_iff.mp interval).trans (holds_interval hp)

end

theorem kind_injective {r s : Respect} (h : r.kind = s.kind) : r = s := by
  cases r <;> cases s <;> cases h <;> rfl

end Respect

/-! ## The differences of a pair -/

/-- The place of a class among the differences of one pair. -/
def DifferenceKind.rank : DifferenceKind → Nat
  | length => 0
  | pin => 1
  | state => 2
  | pwm => 3
  | timing => 4

/-- The order of differences: the lengths come first, then the pairs by their index, and the
differences of one pair by their class. -/
def Difference.Precedes (d e : Difference) : Prop :=
  match d.index?, e.index? with
  | none, some _ => True
  | some i, some k => i < k ∨ i = k ∧ d.kind.rank < e.kind.rank
  | _, none => False

theorem Difference.precedes_of_index {d e : Difference} {i k : Nat} (hd : d.index? = some i)
    (he : e.index? = some k) (h : i < k ∨ i = k ∧ d.kind.rank < e.kind.rank) : d.Precedes e := by
  unfold Precedes
  rw [hd, he]
  exact h

namespace Judgement

variable {α : Type} [Weighing α] {settings : CompareSettings α} {tolerance : Int}

/-- Among the differences of a pair those of a class are what is told in the one respect. -/
theorem filter_differences (p : EventPair) (j : Judgement) (r : Respect) :
    (j.differences p).filter (fun d => d.kind = r.kind) =
      if j.agrees r then [] else told p r := by
  have single (s : Respect) :
      (if j.agrees s then [] else told p s).filter (fun d => d.kind = r.kind) =
        if s = r then (if j.agrees r then [] else told p r) else [] := by
    by_cases h : s = r
    · subst h
      rw [if_pos rfl]
      apply List.filter_eq_self.mpr
      intro d hd
      exact decide_eq_true (kind_of_mem_ite hd).1
    · rw [if_neg h]
      apply List.filter_eq_nil_iff.mpr
      intro d hd same
      exact h (Respect.kind_injective ((kind_of_mem_ite hd).1.symm.trans (of_decide_eq_true same)))
  rw [differences_eq, List.filter_flatMap]
  simp only [single]
  cases r <;> simp [Respect.all]

theorem differences_ordered (p : EventPair) (j : Judgement) :
    (j.differences p).Pairwise Difference.Precedes := by
  have ranked : Respect.all.Pairwise fun r s => r.kind.rank < s.kind.rank := by decide
  rw [differences_eq]
  apply List.pairwise_flatMap.mpr
  constructor
  · intro r _
    cases j.agrees r with
    | true => exact List.Pairwise.nil
    | false =>
        cases r with
        | pin => exact List.pairwise_singleton _ _
        | state => exact List.pairwise_singleton _ _
        | pwm => exact List.pairwise_singleton _ _
        | interval => cases h : p.gaps? <;> simp [told, h]
  · apply ranked.imp
    intro r s below d hd e he
    obtain ⟨hdkind, hdindex⟩ := kind_of_mem_ite hd
    obtain ⟨hekind, heindex⟩ := kind_of_mem_ite he
    rw [← hdkind, ← hekind] at below
    exact Difference.precedes_of_index hdindex heindex (.inr ⟨rfl, below⟩)

/-- In each respect in which a judged pair disagrees, one thing is told about it. -/
theorem told_of_disagrees {p : EventPair} {j : Judgement}
    (h : ofPair settings tolerance p = .ok j) {r : Respect} (hr : j.agrees r = false) :
    (told p r).map (·.index?) = [some p.index] := by
  cases r with
  | pin => rfl
  | state => rfl
  | pwm => rfl
  | interval =>
      have judged : intervalAgrees settings tolerance p = false :=
        (ofPair_eq_ok h).2.2.2.symm.trans hr
      cases hgaps : p.gaps? with
      | none =>
          rw [intervalAgrees, hgaps] at judged
          cases judged
      | some gaps => simp only [told, hgaps]; rfl

end Judgement

/-! ## The verdict -/

namespace Verdict

open EventPair (alignFrom)

theorem map_eq_map_range {α β : Type} {l : List α} {f : α → β} {g : Nat → β}
    (h : ∀ i x, l[i]? = some x → f x = g i) : l.map f = (List.range l.length).map g := by
  apply List.ext_getElem?
  intro i
  rw [List.getElem?_map, List.getElem?_map]
  by_cases hi : i < l.length
  · rw [List.getElem?_range hi, List.getElem?_eq_getElem hi]
    exact congrArg some (h i _ (List.getElem?_eq_getElem hi))
  · rw [List.getElem?_eq_none (by omega), List.getElem?_eq_none (by simpa using hi)]
    rfl

section
variable {α : Type} [Weighing α] (settings : CompareSettings α) (tolerance : Int)
variable (ts cs : List Event)

/-- A pair stands at its index, is judged by the rules there, and is told once in each respect in
which it disagrees. -/
structure Ruled (i : Nat) (x : EventPair × Judgement) : Prop where
  index_eq : x.1.index = i
  agrees_iff : ∀ r, x.2.agrees r = true ↔ r.Holds settings tolerance ts cs i
  told_once : ∀ r, x.2.agrees r = false → (Judgement.told x.1 r).map (·.index?) = [some i]

/-- A verdict accounts for every pair once: it counts the indices at which the rule of a respect
holds and tells the others, in order. -/
structure Accounts (v : Verdict) : Prop where
  total : v.details.total = min ts.length cs.length
  counted : ∀ r : Respect, r.count v.details =
    (List.range (min ts.length cs.length)).countP fun i => r.Holds settings tolerance ts cs i
  listed : ∀ r : Respect, (v.differences.filter fun d => d.kind = r.kind).map (·.index?) =
    ((List.range (min ts.length cs.length)).filter fun i =>
      ¬ r.Holds settings tolerance ts cs i).map some
  ordered : v.differences.Pairwise Difference.Precedes
  lengths : ∃ rest, (∀ d ∈ rest, d.kind ≠ .length) ∧ v.differences =
    if ts.length = cs.length then rest else .lengths ts.length cs.length :: rest
  matched : v.matched = true → ts.length = cs.length

end

section
variable {α : Type} [Weighing α] {settings : CompareSettings α} {tolerance : Int}
variable {ts cs : List Event} {judged : List (EventPair × Judgement)}

theorem ruled_of_judge (h : judge settings tolerance (alignFrom 0 ts cs) = .ok judged) {i : Nat}
    {x : EventPair × Judgement} (hx : judged[i]? = some x) :
    Ruled settings tolerance ts cs i x := by
  obtain ⟨pairs, judgements⟩ := judge_eq_ok h
  have hj := judgements x (List.mem_of_getElem? hx)
  have hp : (alignFrom 0 ts cs)[i]? = some x.1 := by rw [← pairs, List.getElem?_map, hx]; rfl
  have index : x.1.index = i := by
    rw [(EventPair.getElem?_alignFrom_eq_some.mp hp).1, Nat.zero_add]
  refine ⟨index, Respect.agrees_iff_holds hp hj, ?_⟩
  intro r hr
  rw [Judgement.told_of_disagrees hj hr, index]

variable (ruled : ∀ i x, judged[i]? = some x → Ruled settings tolerance ts cs i x)
include ruled

theorem count_of_ruled (r : Respect) :
    r.count (Details.ofJudgements (judged.map Prod.snd)) =
      (List.range judged.length).countP fun i => r.Holds settings tolerance ts cs i := by
  have agree : (judged.map fun x => x.2.agrees r) =
      (List.range judged.length).map fun i => decide (r.Holds settings tolerance ts cs i) := by
    apply map_eq_map_range
    intro i x hx
    exact Bool.eq_iff_iff.mpr (((ruled i x hx).agrees_iff r).trans decide_eq_true_iff.symm)
  calc
    r.count (Details.ofJudgements (judged.map Prod.snd))
      = (judged.map fun x => x.2.agrees r).countP id := by
        rw [Details.count_ofJudgements, List.countP_map, List.countP_map]; rfl
    _ = _ := by rw [agree, List.countP_map]; rfl

theorem told_of_ruled (r : Respect) :
    ((judged.flatMap fun x => x.2.differences x.1).filter fun d => d.kind = r.kind).map (·.index?) =
      ((List.range judged.length).filter fun i =>
        ¬ r.Holds settings tolerance ts cs i).map some := by
  have rows : (judged.map fun x =>
      ((x.2.differences x.1).filter fun d => d.kind = r.kind).map (·.index?)) =
        (List.range judged.length).map fun i =>
          if r.Holds settings tolerance ts cs i then [] else [some i] := by
    apply map_eq_map_range
    intro i x hx
    rw [Judgement.filter_differences]
    by_cases holds : r.Holds settings tolerance ts cs i
    · rw [if_pos (((ruled i x hx).agrees_iff r).mpr holds), if_pos holds]
      rfl
    · have disagrees := Bool.eq_false_iff.mpr (mt ((ruled i x hx).agrees_iff r).mp holds)
      rw [disagrees, if_neg Bool.false_ne_true, if_neg holds]
      exact (ruled i x hx).told_once r disagrees
  rw [List.filter_flatMap, List.map_flatMap, List.flatMap_def, rows]
  generalize List.range judged.length = indices
  induction indices with
  | nil => rfl
  | cons i rest ih =>
      rw [List.map_cons, List.flatten_cons, ih, List.filter_cons]
      by_cases holds : r.Holds settings tolerance ts cs i <;> simp [holds]

theorem ordered_of_ruled :
    (judged.flatMap fun x => x.2.differences x.1).Pairwise Difference.Precedes := by
  have indices : (judged.map fun x => x.1.index) = (List.range judged.length).map id :=
    map_eq_map_range fun i x hx => (ruled i x hx).index_eq
  have ascending : (judged.map fun x => x.1.index).Pairwise (· < ·) := by
    rw [indices, List.map_id]
    exact List.pairwise_lt_range
  apply List.pairwise_flatMap.mpr
  refine ⟨fun x _ => Judgement.differences_ordered x.1 x.2, ?_⟩
  apply (List.pairwise_map.mp ascending).imp
  intro x y below d hd e he
  exact Difference.precedes_of_index (Judgement.index?_of_differences hd)
    (Judgement.index?_of_differences he) (.inl below)

theorem accounts_of_ruled (size : judged.length = min ts.length cs.length) (score : Int) :
    Accounts settings tolerance ts cs
      (assemble settings ts.length cs.length judged score) := by
  have indexed : ∀ d ∈ judged.flatMap fun x => x.2.differences x.1, ∃ i, d.index? = some i := by
    intro d hd
    obtain ⟨x, -, hd⟩ := List.mem_flatMap.mp hd
    exact ⟨x.1.index, Judgement.index?_of_differences hd⟩
  have split := differences_assemble settings ts.length cs.length judged score
  constructor
  case total =>
    rw [← size]
    exact List.length_map _
  case counted =>
    intro r
    rw [← size]
    exact count_of_ruled ruled r
  case listed =>
    intro r
    have other : (Difference.lengths ts.length cs.length).kind ≠ r.kind := by
      cases r <;> exact DifferenceKind.noConfusion
    rw [← size, ← told_of_ruled ruled r, split]
    by_cases same : ts.length = cs.length
    · rw [if_pos same]
    · have dropped : ¬ decide ((Difference.lengths ts.length cs.length).kind = r.kind) = true :=
        mt of_decide_eq_true other
      rw [if_neg same, List.filter_cons, if_neg dropped]
  case ordered =>
    rw [split]
    by_cases same : ts.length = cs.length
    · rw [if_pos same]
      exact ordered_of_ruled ruled
    · rw [if_neg same]
      refine List.pairwise_cons.mpr ⟨?_, ordered_of_ruled ruled⟩
      intro d hd
      obtain ⟨i, hi⟩ := indexed d hd
      unfold Difference.Precedes
      rw [hi]
      trivial
  case lengths =>
    refine ⟨_, ?_, split⟩
    intro d hd length
    obtain ⟨i, hi⟩ := indexed d hd
    cases d <;> cases length <;> cases hi
  case matched =>
    intro matched
    exact beq_iff_eq.mp ((Bool.and_eq_true _ _).mp matched).1

end

/-- Of two timelines with events, the shorter one gives the number of pairs. In each respect the
verdict counts the indices at which the rule holds and tells the others, one difference each and in
order; a difference in length is told once and first, and only timelines of one length match. -/
theorem verdict_accounts_for_pairs {α : Type} [Weighing α] (settings : CompareSettings α)
    (target candidate : Sequence) (override : Option Int) (ht : target.events ≠ [])
    (hc : candidate.events ≠ []) (v : Verdict)
    (h : (compare settings target candidate override).outcome = .ok v) :
    v.Accounts settings (override.getD settings.toleranceMs) target.events candidate.events := by
  rw [compare_of_ne_nil ht hc, mapError_eq_ok] at h
  obtain ⟨judged, score, hjudged, -, rfl⟩ := ofEvents_eq_ok h
  obtain ⟨offset, hoffset⟩ := normalize_eq_shift target.events
  obtain ⟨offset', hoffset'⟩ := normalize_eq_shift candidate.events
  have size : judged.length = min target.events.length candidate.events.length := by
    rw [← List.length_map, (judge_eq_ok hjudged).1, EventPair.length_alignFrom, length_normalize,
      length_normalize]
  rw [length_normalize, length_normalize]
  -- The pairs are judged on times counted from the beginning; the rules do not see the difference.
  apply accounts_of_ruled _ size
  intro i x hx
  obtain ⟨index, agrees, told⟩ := ruled_of_judge hjudged hx
  refine ⟨index, ?_, told⟩
  intro r
  rw [agrees, hoffset, hoffset', Respect.holds_shift]

/-- A timeline of three events. -/
def lampAndGlow : Sequence :=
  ⟨[⟨0, 13, true, .digital, .loop, none⟩, ⟨1000, 9, true, .pwm, .loop, some 50⟩,
    ⟨1005, 13, false, .digital, .loop, none⟩], 1005, true⟩

/-- A candidate for it with a wrong pin and a wrong gap, then a wrong state and a wrong duty, then a
gap that is short enough to be wrong, and an event too many. -/
def muddledLamp : Sequence :=
  ⟨[⟨350, 12, true, .digital, .loop, none⟩, ⟨1550, 9, false, .pwm, .loop, some 10⟩,
    ⟨1610, 13, false, .digital, .loop, none⟩, ⟨1700, 13, true, .digital, .loop, none⟩], 1700, true⟩

theorem verdict_accounts_for_pairs_muddled :
    let v : Verdict := ⟨false, 67, [.lengths 3 4, .pins 0 13 12, .gaps 0 13 1000 1200,
      .states 1 9 true false, .duties 1 9 (some 50) (some 10)], ⟨2, 2, 2, 2, 3⟩⟩
    (compare ({} : CompareSettings Rat) lampAndGlow muddledLamp none).outcome = .ok v ∧
      v.Accounts ({} : CompareSettings Rat) 50 lampAndGlow.events muddledLamp.events := by
  intro v
  have compared : (compare ({} : CompareSettings Rat) lampAndGlow muddledLamp none).outcome =
      .ok v := by decide +kernel
  exact ⟨compared, verdict_accounts_for_pairs {} lampAndGlow muddledLamp none (by decide)
    (by decide) v compared⟩

end Verdict

end SketchGrader
