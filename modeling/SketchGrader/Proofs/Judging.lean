import Mathlib.Data.List.Induction
import Mathlib.Data.Rat.Floor
import SketchGrader.Grading.Compare

/-!
# What a verdict consists of

Two timelines are aligned index by index, every pair is judged on its own, and the verdict is put
together from the judgements. Each step is described here once: the pair at an index, what it is
judged on and what is told about it, one respect after the other, and the verdict as a whole.
-/

namespace SketchGrader

/-! ## Computations that succeed -/

section
variable {ε ζ β γ : Type} {x : Except ε β}

theorem exists_of_map_eq_ok {f : β → γ} {c : γ} (h : x.map f = .ok c) :
    ∃ b, x = .ok b ∧ f b = c := by
  cases x with
  | error e => cases h
  | ok b => exact ⟨b, rfl, Except.ok.inj h⟩

@[simp] theorem mapError_eq_ok {f : ε → ζ} {b : β} : x.mapError f = .ok b ↔ x = .ok b := by
  cases x <;> simp [Except.mapError]

theorem mapError_map (f : β → γ) (g : ε → ζ) : (x.map f).mapError g = (x.mapError g).map f := by
  cases x <;> rfl

end

/-! ## Aligned events -/

namespace EventPair

theorem alignFrom_cons (index : Nat) (t c : Event) (ts cs : List Event) :
    alignFrom index (t :: ts) (c :: cs) =
      ⟨index, t, c, (ts.zip cs)[0]?⟩ :: alignFrom (index + 1) ts cs := by
  cases ts <;> cases cs <;> rfl

theorem getElem?_zip (ts cs : List Event) (i : Nat) :
    (ts.zip cs)[i]? = ts[i]?.bind fun t => cs[i]?.map (t, ·) := by
  rw [List.zip, List.getElem?_zipWith]
  cases ts[i]? <;> cases cs[i]? <;> rfl

/-- The pair at an index consists of the events at that index and, if both lists go on, of the
events behind them. -/
theorem getElem?_alignFrom (index : Nat) (ts cs : List Event) (i : Nat) :
    (alignFrom index ts cs)[i]? = (ts.zip cs)[i]?.map fun x =>
      ⟨index + i, x.1, x.2, (ts.zip cs)[i + 1]?⟩ := by
  -- The first index grows as the lists are read, so it is not fixed.
  induction ts generalizing index cs i with
  | nil => rfl
  | cons t ts ih =>
      cases cs with
      | nil => rfl
      | cons c cs =>
          rw [alignFrom_cons]
          cases i with
          | zero => rfl
          | succ i =>
              have place : index + 1 + i = index + (i + 1) := by omega
              simp only [List.getElem?_cons_succ, List.zip_cons_cons, ih, place]

@[simp] theorem length_alignFrom (index : Nat) (ts cs : List Event) :
    (alignFrom index ts cs).length = min ts.length cs.length := by
  induction ts generalizing index cs with
  | nil => exact (Nat.zero_min _).symm
  | cons t ts ih =>
      cases cs with
      | nil => rfl
      | cons c cs =>
          rw [alignFrom_cons, List.length_cons, ih, List.length_cons, List.length_cons]
          omega

theorem getElem?_alignFrom_eq_some {index i : Nat} {ts cs : List Event} {p : EventPair} :
    (alignFrom index ts cs)[i]? = some p ↔ p.index = index + i ∧ ts[i]? = some p.target ∧
      cs[i]? = some p.candidate ∧ p.next = ts[i + 1]?.bind fun t => cs[i + 1]?.map (t, ·) := by
  rw [getElem?_alignFrom, ← getElem?_zip]
  constructor
  · intro h
    obtain ⟨x, hx, rfl⟩ := Option.map_eq_some_iff.mp h
    obtain ⟨ht, hc⟩ := List.getElem?_zip_eq_some.mp hx
    exact ⟨rfl, ht, hc, rfl⟩
  · rintro ⟨hindex, ht, hc, hnext⟩
    have both : (ts.zip cs)[i]? = some (p.target, p.candidate) :=
      List.getElem?_zip_eq_some.mpr ⟨ht, hc⟩
    rw [both, ← hindex, ← hnext]
    rfl

end EventPair

/-! ## Respects -/

/-- The respects in which a pair is judged. -/
inductive Respect where
  | pin
  | state
  | pwm
  | interval
  deriving DecidableEq, Repr

namespace Respect

/-- The respects in the order in which differences are told. -/
def all : List Respect := [pin, state, pwm, interval]

/-- The class of the differences in a respect. -/
def kind : Respect → DifferenceKind
  | pin => .pin
  | state => .state
  | pwm => .pwm
  | interval => .timing

/-- How many pairs agree in a respect. -/
def count (d : Details) : Respect → Nat
  | pin => d.pinMatches
  | state => d.stateMatches
  | pwm => d.pwmMatches
  | interval => d.intervalMatches

end Respect

namespace Judgement

/-- Whether a judged pair agrees in a respect. -/
def agrees (j : Judgement) : Respect → Bool
  | .pin => j.pin
  | .state => j.state
  | .pwm => j.pwm
  | .interval => j.interval

/-- What is told about a pair that disagrees in a respect. -/
def told (p : EventPair) : Respect → List Difference
  | .pin => [.pins p.index p.target.pin p.candidate.pin]
  | .state => [.states p.index p.target.pin p.target.isOn p.candidate.isOn]
  | .pwm => [.duties p.index p.target.pin p.target.duty p.candidate.duty]
  | .interval => p.gaps?.toList.map fun (t, c) => .gaps p.index p.target.pin t c

theorem differences_eq (p : EventPair) (j : Judgement) :
    j.differences p = Respect.all.flatMap fun r => if j.agrees r then [] else told p r := by
  unfold differences
  cases h : p.gaps? with
  | none =>
      simp only [Respect.all, List.flatMap_cons, List.flatMap_nil, List.append_nil,
        List.append_assoc, agrees, told, h, Option.toList_none, List.map_nil]
  | some gaps =>
      simp only [Respect.all, List.flatMap_cons, List.flatMap_nil, List.append_nil,
        List.append_assoc, agrees, told, h, Option.toList_some, List.map_cons, List.map_nil]

theorem kind_of_told {p : EventPair} {r : Respect} {d : Difference} (h : d ∈ told p r) :
    d.kind = r.kind ∧ d.index? = some p.index := by
  cases r with
  | pin => cases List.mem_singleton.mp h; exact ⟨rfl, rfl⟩
  | state => cases List.mem_singleton.mp h; exact ⟨rfl, rfl⟩
  | pwm => cases List.mem_singleton.mp h; exact ⟨rfl, rfl⟩
  | interval =>
      obtain ⟨gaps, -, rfl⟩ := List.mem_map.mp h
      exact ⟨rfl, rfl⟩

theorem kind_of_mem_ite {p : EventPair} {j : Judgement} {r : Respect} {d : Difference}
    (h : d ∈ if j.agrees r then [] else told p r) : d.kind = r.kind ∧ d.index? = some p.index := by
  cases hr : j.agrees r with
  | true =>
      rw [if_pos hr] at h
      cases h
  | false =>
      rw [hr, if_neg Bool.false_ne_true] at h
      exact kind_of_told h

theorem index?_of_differences {p : EventPair} {j : Judgement} {d : Difference}
    (h : d ∈ j.differences p) : d.index? = some p.index := by
  rw [differences_eq] at h
  obtain ⟨r, -, h⟩ := List.mem_flatMap.mp h
  exact (kind_of_mem_ite h).2

end Judgement

@[simp] theorem Details.count_ofJudgements (judged : List Judgement) (r : Respect) :
    r.count (Details.ofJudgements judged) = judged.countP (·.agrees r) := by
  cases r <;> rfl

/-- The counts with one more judgement. -/
def Details.add (d : Details) (j : Judgement) : Details where
  intervalMatches := d.intervalMatches + if j.interval then 1 else 0
  pinMatches := d.pinMatches + if j.pin then 1 else 0
  stateMatches := d.stateMatches + if j.state then 1 else 0
  pwmMatches := d.pwmMatches + if j.pwm then 1 else 0
  total := d.total + 1

theorem Details.ofJudgements_concat (judged : List Judgement) (j : Judgement) :
    ofJudgements (judged ++ [j]) = (ofJudgements judged).add j := by
  simp only [ofJudgements, add, List.countP_append, List.countP_singleton, List.length_append,
    List.length_singleton]

/-! ## Verdicts -/

namespace Judgement

variable {α : Type} [Weighing α] {settings : CompareSettings α} {tolerance : Int}

theorem ofPair_eq_map (p : EventPair) :
    ofPair settings tolerance p = (pwmAgrees settings p.target p.candidate).map fun pwm =>
      ⟨p.target.pin == p.candidate.pin, p.target.isOn == p.candidate.isOn, pwm,
        intervalAgrees settings tolerance p⟩ := by
  unfold ofPair
  cases pwmAgrees settings p.target p.candidate <;> rfl

theorem ofPair_eq_ok {p : EventPair} {j : Judgement} (h : ofPair settings tolerance p = .ok j) :
    j.pin = (p.target.pin == p.candidate.pin) ∧ j.state = (p.target.isOn == p.candidate.isOn) ∧
      pwmAgrees settings p.target p.candidate = .ok j.pwm ∧
        j.interval = intervalAgrees settings tolerance p := by
  rw [ofPair_eq_map] at h
  obtain ⟨pwm, agrees, rfl⟩ := exists_of_map_eq_ok h
  exact ⟨rfl, rfl, agrees, rfl⟩

end Judgement

namespace Verdict

open EventPair (alignFrom)

variable {α : Type} [Weighing α] {settings : CompareSettings α} {tolerance : Int}

theorem judge_cons (p : EventPair) (rest : List EventPair) :
    judge settings tolerance (p :: rest) = (Judgement.ofPair settings tolerance p).bind fun j =>
      (judge settings tolerance rest).map ((p, j) :: ·) := by
  rw [judge]
  cases Judgement.ofPair settings tolerance p with
  | error b => rfl
  | ok j => cases judge settings tolerance rest <;> rfl

/-- Every pair is judged, on its own and in its place. -/
theorem judge_eq_ok {pairs : List EventPair} {judged : List (EventPair × Judgement)}
    (h : judge settings tolerance pairs = .ok judged) :
    judged.map Prod.fst = pairs ∧
      ∀ x ∈ judged, Judgement.ofPair settings tolerance x.1 = .ok x.2 := by
  induction pairs generalizing judged with
  | nil =>
      cases h
      exact ⟨rfl, List.forall_mem_nil _⟩
  | cons p rest ih =>
      rw [judge_cons] at h
      obtain ⟨j, hp, h⟩ := bind_eq_ok.mp h
      obtain ⟨behind, hrest, rfl⟩ := exists_of_map_eq_ok h
      obtain ⟨pairs, judgements⟩ := ih hrest
      exact ⟨congrArg (p :: ·) pairs, List.forall_mem_cons.mpr ⟨hp, judgements⟩⟩

/-- The verdict on two timelines with the given numbers of events. -/
def assemble (settings : CompareSettings α) (events events' : Nat)
    (judged : List (EventPair × Judgement)) (score : Int) : Verdict where
  matched := events == events' && decide (settings.passScore ≤ score)
  score := score
  differences := (if events == events' then [] else [.lengths events events']) ++
    judged.flatMap fun x => x.2.differences x.1
  details := Details.ofJudgements (judged.map Prod.snd)

theorem differences_assemble (settings : CompareSettings α) (events events' : Nat)
    (judged : List (EventPair × Judgement)) (score : Int) :
    (assemble settings events events' judged score).differences =
      if events = events' then judged.flatMap fun x => x.2.differences x.1
      else .lengths events events' :: judged.flatMap fun x => x.2.differences x.1 := by
  by_cases same : events = events' <;> simp [assemble, same]

/-- What is gathered from the pairs judged so far, and what one more pair adds to it. -/
def gather (sofar : Details × List Difference) (x : EventPair × Judgement) :
    Details × List Difference :=
  (sofar.1.add x.2, sofar.2 ++ x.2.differences x.1)

/-- The counts and differences of a verdict are gathered pair by pair. -/
theorem assemble_eq_foldl (settings : CompareSettings α) (events events' : Nat)
    (judged : List (EventPair × Judgement)) (score : Int) :
    let v := assemble settings events events' judged score
    (v.details, v.differences) = judged.foldl gather
      ({}, if events == events' then [] else [.lengths events events']) := by
  induction judged using List.reverseRecOn with
  | nil => simp [assemble, Details.ofJudgements]
  | append_singleton judged x ih =>
      rw [List.foldl_concat, ← ih]
      simp only [assemble, gather, List.map_append, List.map_singleton,
        Details.ofJudgements_concat, List.flatMap_append, List.flatMap_singleton,
        List.append_assoc]

theorem ofEvents_eq (ts cs : List Event) :
    ofEvents settings tolerance ts cs =
      (judge settings tolerance (alignFrom 0 ts cs)).bind fun judged =>
        (weigh settings (Details.ofJudgements (judged.map Prod.snd))).map
          (assemble settings ts.length cs.length judged) := by
  unfold ofEvents
  cases judge settings tolerance (alignFrom 0 ts cs) with
  | error b => rfl
  | ok judged =>
      simp only [bind, Except.bind]
      cases weigh settings (Details.ofJudgements (judged.map Prod.snd)) <;> rfl

theorem ofEvents_eq_ok {ts cs : List Event} {v : Verdict}
    (h : ofEvents settings tolerance ts cs = .ok v) :
    ∃ judged score, judge settings tolerance (alignFrom 0 ts cs) = .ok judged ∧
      weigh settings (Details.ofJudgements (judged.map Prod.snd)) = .ok score ∧
        v = assemble settings ts.length cs.length judged score := by
  rw [ofEvents_eq] at h
  obtain ⟨judged, hjudged, h⟩ := bind_eq_ok.mp h
  obtain ⟨score, hscore, rfl⟩ := exists_of_map_eq_ok h
  exact ⟨judged, score, hjudged, hscore, rfl⟩

theorem compare_of_ne_nil {target candidate : Sequence} (ht : target.events ≠ [])
    (hc : candidate.events ≠ []) (override : Option Int) :
    (compare settings target candidate override).outcome =
      (ofEvents settings (override.getD settings.toleranceMs) (normalize target.events)
        (normalize candidate.events)).mapError .breakdown := by
  unfold compare
  rw [List.isEmpty_eq_false_iff.mpr ht, List.isEmpty_eq_false_iff.mpr hc]
  dsimp only
  cases ofEvents settings (override.getD settings.toleranceMs) (normalize target.events)
      (normalize candidate.events) with
  | error b => rfl
  | ok v => rfl

/-- Counting from the first event moves all events by the same time, so it changes no gap. -/
theorem normalize_eq_shift (events : List Event) :
    ∃ offset, normalize events = events.map fun e => e.shift offset := by
  cases events with
  | nil => exact ⟨0, rfl⟩
  | cons first rest => exact ⟨-first.time, rfl⟩

@[simp] theorem length_normalize (events : List Event) :
    (normalize events).length = events.length := by
  obtain ⟨offset, h⟩ := normalize_eq_shift events
  rw [h, List.length_map]

/-! ## Exact scores -/

/-- In exact numbers the weighed share is a rational number, and rounding it cannot fail. -/
theorem weigh_exact (settings : CompareSettings Rat) {d : Details} (h : d.total ≠ 0) :
    weigh settings d =
      .ok (truncate ((settings.intervalWeight * (d.intervalMatches : ℚ) +
        settings.pinWeight * d.pinMatches + settings.stateWeight * d.stateMatches +
          settings.pwmWeight * d.pwmMatches) / d.total * 100 + 1 / 2)) :=
  if_neg h

end Verdict

end SketchGrader
