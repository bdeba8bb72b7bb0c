import Mathlib.Data.List.Forall2
import Mathlib.Tactic.GCongr
import Mathlib.Tactic.Positivity
import SketchGrader.Proofs.Judging
import SketchGrader.Proofs.Rounding

/-!
# Looser tolerances

A looser comparison judges the same pairs, and every pair at least as well. So differences in duty
and timing may go away and nothing else changes in what is told, the counts of these two respects
may grow, and with them the score.
-/

namespace SketchGrader

/-- Two computations fail alike, or both succeed and their results are related. -/
inductive Outcomes {ε α β : Type} (R : α → β → Prop) : Except ε α → Except ε β → Prop
  | error (e : ε) : Outcomes R (.error e) (.error e)
  | ok {a : α} {b : β} : R a b → Outcomes R (.ok a) (.ok b)

namespace Outcomes

variable {ε α β γ δ : Type} {R : α → β → Prop} {S : γ → δ → Prop}
variable {x : Except ε α} {y : Except ε β}

theorem bind {f : α → Except ε γ} {g : β → Except ε δ} (h : Outcomes R x y)
    (step : ∀ a b, R a b → Outcomes S (f a) (g b)) : Outcomes S (x.bind f) (y.bind g) := by
  cases h with
  | error e => exact .error e
  | ok related => exact step _ _ related

theorem map {f : α → γ} {g : β → δ} (h : Outcomes R x y) (step : ∀ a b, R a b → S (f a) (g b)) :
    Outcomes S (x.map f) (y.map g) := by
  cases h with
  | error e => exact .error e
  | ok related => exact .ok (step _ _ related)

theorem mapError {ζ : Type} (f : ε → ζ) (h : Outcomes R x y) :
    Outcomes R (x.mapError f) (y.mapError f) := by
  cases h with
  | error e => exact .error (f e)
  | ok related => exact .ok related

theorem related {a : α} {b : β} (h : Outcomes R x y) (hx : x = .ok a) (hy : y = .ok b) : R a b := by
  subst hx hy
  cases h with
  | ok related => exact related

end Outcomes

/-! ## Lists that are related member by member -/

section
variable {α β γ : Type} {l : List α} {l' : List β}

theorem countP_le_of_forall₂ {p : α → Bool} {q : β → Bool}
    (h : List.Forall₂ (fun x y => p x = true → q y = true) l l') : l.countP p ≤ l'.countP q := by
  induction h with
  | nil => exact Nat.le_refl _
  | @cons x y l l' head _ ih =>
      rw [List.countP_cons, List.countP_cons]
      split_ifs with hx hy
      · omega
      · exact (hy (head hx)).elim
      · omega
      · omega

theorem flatMap_sublist_of_forall₂ {f : α → List γ} {g : β → List γ}
    (h : List.Forall₂ (fun x y => (g y).Sublist (f x)) l l') :
    (l'.flatMap g).Sublist (l.flatMap f) := by
  induction h with
  | nil => exact List.Sublist.refl _
  | cons head _ ih =>
      rw [List.flatMap_cons, List.flatMap_cons]
      exact head.append ih

theorem flatMap_eq_of_forall₂ {f : α → List γ} {g : β → List γ}
    (h : List.Forall₂ (fun x y => g y = f x) l l') : l'.flatMap g = l.flatMap f := by
  induction h with
  | nil => rfl
  | cons head _ ih => rw [List.flatMap_cons, List.flatMap_cons, head, ih]

end

/-! ## Pairs -/

/-- The respects in which there is a tolerance. -/
def Respect.Tolerant (r : Respect) : Prop := r = .pwm ∨ r = .interval

/-- A difference in which no tolerance is involved. -/
def Difference.strict (d : Difference) : Bool := d.kind != .pwm && d.kind != .timing

/-- A comparison is at least as loose as another one: its tolerances are at least as large, and the
other settings are the same. The usual tolerance is given for this comparison or by the settings. -/
structure Loosens {α : Type} [Weighing α] (s : CompareSettings α) (override : Option Int)
    (s' : CompareSettings α) (override' : Option Int) : Prop where
  usual : override.getD s.toleranceMs ≤ override'.getD s'.toleranceMs
  simultaneous : s.simultaneousToleranceMs ≤ s'.simultaneousToleranceMs
  pwm : s.pwmTolerance ≤ s'.pwmTolerance
  rest : s' = { s with
    toleranceMs := s'.toleranceMs
    simultaneousToleranceMs := s'.simultaneousToleranceMs
    pwmTolerance := s'.pwmTolerance }

namespace Judgement

/-- A pair is judged at least as well, and as before where there is no tolerance. -/
structure Eases (j j' : Judgement) : Prop where
  kept : ∀ r, j.agrees r = true → j'.agrees r = true
  fixed : ∀ r, ¬ r.Tolerant → j'.agrees r = j.agrees r

theorem Eases.differences_sublist {j j' : Judgement} (h : j.Eases j') (p : EventPair) :
    (j'.differences p).Sublist (j.differences p) := by
  rw [differences_eq, differences_eq]
  apply flatMap_sublist_of_forall₂
  apply List.forall₂_same.mpr
  intro r _
  cases hr : j.agrees r with
  | true =>
      rw [if_pos rfl, if_pos (h.kept r hr)]
  | false =>
      rw [if_neg Bool.false_ne_true]
      split_ifs
      · exact List.nil_sublist _
      · exact List.Sublist.refl _

theorem filter_strict_told (p : EventPair) {r : Respect} (h : r.Tolerant) :
    (told p r).filter Difference.strict = [] := by
  apply List.filter_eq_nil_iff.mpr
  intro d hd
  have kind := (kind_of_told hd).1
  obtain rfl | rfl := h
  · simp [Difference.strict, kind, Respect.kind]
  · simp [Difference.strict, kind, Respect.kind]

theorem Eases.filter_strict {j j' : Judgement} (h : j.Eases j') (p : EventPair) :
    (j'.differences p).filter Difference.strict = (j.differences p).filter Difference.strict := by
  rw [differences_eq, differences_eq, List.filter_flatMap, List.filter_flatMap]
  apply flatMap_eq_of_forall₂
  apply List.forall₂_same.mpr
  intro r _
  by_cases tolerant : r.Tolerant
  · have silent := filter_strict_told p tolerant
    split_ifs <;> simp only [silent, List.filter_nil]
  · rw [h.fixed r tolerant]

section
variable {α : Type} [Weighing α] {s s' : CompareSettings α} {override override' : Option Int}

theorem pwmAgrees_loosened (h : Loosens s override s' override') (t c : Event) :
    Outcomes (fun a b => a = true → b = true) (pwmAgrees s t c) (pwmAgrees s' t c) := by
  have wider := h.pwm
  unfold pwmAgrees
  split_ifs
  · cases t.scaledDuty with
    | error b => exact .error b
    | ok wanted =>
        cases c.scaledDuty with
        | error b => exact .error b
        | ok found =>
            apply Outcomes.ok
            intro near
            apply decide_eq_true
            exact (of_decide_eq_true near).trans wider
  · exact .ok id

theorem allowedGap_loosened (h : Loosens s override s' override') (gap : Int) :
    allowedGap s (override.getD s.toleranceMs) gap ≤
      allowedGap s' (override'.getD s'.toleranceMs) gap := by
  have threshold : s'.simultaneousBelowMs = s.simultaneousBelowMs := by rw [h.rest]
  unfold allowedGap
  rw [threshold]
  split_ifs
  · exact h.simultaneous
  · exact h.usual

theorem intervalAgrees_loosened (h : Loosens s override s' override') (p : EventPair)
    (agrees : intervalAgrees s (override.getD s.toleranceMs) p = true) :
    intervalAgrees s' (override'.getD s'.toleranceMs) p = true := by
  unfold intervalAgrees at agrees ⊢
  cases hgaps : p.gaps? with
  | none => rfl
  | some gaps =>
      rw [hgaps] at agrees
      apply decide_eq_true
      exact (of_decide_eq_true agrees).trans (allowedGap_loosened h gaps.1)

theorem ofPair_loosened (h : Loosens s override s' override') (p : EventPair) :
    Outcomes Eases (ofPair s (override.getD s.toleranceMs) p)
      (ofPair s' (override'.getD s'.toleranceMs) p) := by
  rw [ofPair_eq_map, ofPair_eq_map]
  apply (pwmAgrees_loosened h p.target p.candidate).map
  intro a b pwm
  constructor
  case kept =>
    intro r agrees
    cases r with
    | pin => exact agrees
    | state => exact agrees
    | pwm => exact pwm agrees
    | interval => exact intervalAgrees_loosened h p agrees
  case fixed =>
    intro r strict
    cases r with
    | pin => rfl
    | state => rfl
    | pwm => exact (strict (.inl rfl)).elim
    | interval => exact (strict (.inr rfl)).elim

end

end Judgement

/-! ## Verdicts -/

/-- At least as many pairs agree in duty and in timing, and as many as before in the rest. -/
structure Details.Eases (d d' : Details) : Prop where
  total : d'.total = d.total
  pins : d'.pinMatches = d.pinMatches
  states : d'.stateMatches = d.stateMatches
  duties : d.pwmMatches ≤ d'.pwmMatches
  intervals : d.intervalMatches ≤ d'.intervalMatches

/-- The same differences are told, except for some in duty or timing. -/
structure Verdict.Eases (v v' : Verdict) : Prop where
  sublist : v'.differences.Sublist v.differences
  strict : v'.differences.filter Difference.strict = v.differences.filter Difference.strict
  details : v.details.Eases v'.details

/-- A verdict that is also at least as good. -/
structure Verdict.Improves (v v' : Verdict) : Prop extends v.Eases v' where
  score : v.score ≤ v'.score
  matched : v.matched = true → v'.matched = true

/-- No weight is negative. -/
structure CompareSettings.NonnegWeights (s : CompareSettings Rat) : Prop where
  interval : 0 ≤ s.intervalWeight
  pin : 0 ≤ s.pinWeight
  state : 0 ≤ s.stateWeight
  pwm : 0 ≤ s.pwmWeight

namespace Verdict

/-- The same pair, judged at least as well. -/
def EasesPair (x y : EventPair × Judgement) : Prop := y.1 = x.1 ∧ x.2.Eases y.2

theorem Eases.refl (v : Verdict) : v.Eases v :=
  ⟨List.Sublist.refl _, rfl, rfl, rfl, rfl, Nat.le_refl _, Nat.le_refl _⟩

section
variable {judged judged' : List (EventPair × Judgement)}
  (h : List.Forall₂ EasesPair judged judged')
include h

theorem count_le_of_eased (r : Respect) :
    r.count (Details.ofJudgements (judged.map Prod.snd)) ≤
      r.count (Details.ofJudgements (judged'.map Prod.snd)) := by
  rw [Details.count_ofJudgements, Details.count_ofJudgements, List.countP_map, List.countP_map]
  apply countP_le_of_forall₂
  exact h.imp fun _ _ eased => eased.2.kept r

theorem count_eq_of_eased {r : Respect} (strict : ¬ r.Tolerant) :
    r.count (Details.ofJudgements (judged'.map Prod.snd)) =
      r.count (Details.ofJudgements (judged.map Prod.snd)) := by
  -- Where there is no tolerance the judgements are the same, so the other direction holds too.
  apply Nat.le_antisymm _ (count_le_of_eased h r)
  rw [Details.count_ofJudgements, Details.count_ofJudgements, List.countP_map, List.countP_map]
  apply countP_le_of_forall₂
  apply h.flip.imp
  intro y x eased agrees
  exact (eased.2.fixed r strict).symm.trans agrees

theorem details_eases : (Details.ofJudgements (judged.map Prod.snd)).Eases
    (Details.ofJudgements (judged'.map Prod.snd)) := by
  have pin : ¬ Respect.pin.Tolerant := by rintro (h | h) <;> cases h
  have state : ¬ Respect.state.Tolerant := by rintro (h | h) <;> cases h
  constructor
  case total => simp only [Details.ofJudgements, List.length_map, h.length_eq]
  case pins => exact count_eq_of_eased h pin
  case states => exact count_eq_of_eased h state
  case duties => exact count_le_of_eased h .pwm
  case intervals => exact count_le_of_eased h .interval

theorem assemble_eases {α : Type} [Weighing α] (s s' : CompareSettings α) (events events' : Nat)
    (score score' : Int) :
    (assemble s events events' judged score).Eases (assemble s' events events' judged' score') := by
  have sublist : (judged'.flatMap fun x => x.2.differences x.1).Sublist
      (judged.flatMap fun x => x.2.differences x.1) := by
    apply flatMap_sublist_of_forall₂
    apply h.imp
    rintro ⟨p, j⟩ ⟨q, j'⟩ ⟨same, eased⟩
    obtain rfl : q = p := same
    exact eased.differences_sublist q
  have strict : (judged'.flatMap fun x => x.2.differences x.1).filter Difference.strict =
      (judged.flatMap fun x => x.2.differences x.1).filter Difference.strict := by
    rw [List.filter_flatMap, List.filter_flatMap]
    apply flatMap_eq_of_forall₂
    apply h.imp
    rintro ⟨p, j⟩ ⟨q, j'⟩ ⟨same, eased⟩
    obtain rfl : q = p := same
    exact eased.filter_strict q
  constructor
  case sublist => exact (List.Sublist.refl _).append sublist
  case strict => simp only [assemble, List.filter_append, strict]
  case details => exact details_eases h

end

section
variable {α : Type} [Weighing α] {s s' : CompareSettings α} {override override' : Option Int}

/-- Every pair is judged at least as well, or judging fails at the same pair. -/
theorem judge_loosened (h : Loosens s override s' override') (pairs : List EventPair) :
    Outcomes (List.Forall₂ EasesPair) (judge s (override.getD s.toleranceMs) pairs)
      (judge s' (override'.getD s'.toleranceMs) pairs) := by
  induction pairs with
  | nil => exact .ok .nil
  | cons p rest ih =>
      rw [judge_cons, judge_cons]
      apply (Judgement.ofPair_loosened h p).bind
      intro j j' eased
      apply ih.map
      intro behind behind' easedBehind
      exact .cons ⟨rfl, eased⟩ easedBehind

/-- A comparison that goes well goes well with looser tolerances too, unless the counts it then
comes to cannot be weighed. -/
theorem ofEvents_eases (h : Loosens s override s' override') {ts cs : List Event} {v : Verdict}
    (hv : ofEvents s (override.getD s.toleranceMs) ts cs = .ok v) :
    (∃ v', ofEvents s' (override'.getD s'.toleranceMs) ts cs = .ok v' ∧ v.Eases v') ∨
      ∃ d b, v.details.Eases d ∧ weigh s' d = .error b ∧
        ofEvents s' (override'.getD s'.toleranceMs) ts cs = .error b := by
  obtain ⟨judged, score, hjudged, -, rfl⟩ := ofEvents_eq_ok hv
  have eased := judge_loosened h (EventPair.alignFrom 0 ts cs)
  rw [hjudged] at eased
  rw [ofEvents_eq]
  cases hjudged' : judge s' (override'.getD s'.toleranceMs) (EventPair.alignFrom 0 ts cs) with
  | error b =>
      rw [hjudged'] at eased
      cases eased
  | ok judged' =>
      rw [hjudged'] at eased
      have eased := eased.related rfl rfl
      cases hscore' : weigh s' (Details.ofJudgements (judged'.map Prod.snd)) with
      | error b =>
          right
          refine ⟨_, b, details_eases eased, hscore', ?_⟩
          rw [Except.bind, hscore']
          rfl
      | ok score' =>
          left
          refine ⟨_, ?_, assemble_eases eased s s' ts.length cs.length score score'⟩
          rw [Except.bind, hscore']
          rfl

/-- Timelines without events are not compared, so the settings do not matter for them. -/
theorem compare_of_nil {target candidate : Sequence}
    (h : target.events = [] ∨ candidate.events = []) (s s' : CompareSettings α)
    (override override' : Option Int) :
    ∃ v, (compare s target candidate override).outcome = .ok v ∧
      (compare s' target candidate override').outcome = .ok v := by
  unfold compare
  cases ht : target.events with
  | nil => cases candidate.events <;> exact ⟨_, rfl, rfl⟩
  | cons t ts =>
      cases hc : candidate.events with
      | nil => exact ⟨_, rfl, rfl⟩
      | cons c cs =>
          rw [ht, hc] at h
          obtain h | h := h <;> cases h

end

/-! ## Scores -/

theorem truncate_mono {q r : ℚ} (nonneg : 0 ≤ q) (h : q ≤ r) : truncate q ≤ truncate r := by
  rw [truncate_of_nonneg nonneg, truncate_of_nonneg (nonneg.trans h)]
  exact Int.floor_mono h

theorem weigh_le {s : CompareSettings Rat} (nonneg : s.NonnegWeights) {d d' : Details}
    (eased : d.Eases d') : Outcomes (· ≤ ·) (weigh s d) (weigh s d') := by
  obtain ⟨total, pins, states, duties, intervals⟩ := eased
  by_cases h : d.total = 0
  · have h' : d'.total = 0 := total.trans h
    rw [weigh, weigh, if_pos h, if_pos h']
    exact .ok (Int.le_refl _)
  · have h' : d'.total ≠ 0 := fun none => h (total.symm.trans none)
    obtain ⟨interval, pin, state, pwm⟩ := nonneg
    rw [weigh_exact s h, weigh_exact s h', total, pins, states]
    apply Outcomes.ok
    apply truncate_mono
    · positivity
    · gcongr

theorem ofEvents_improves {s s' : CompareSettings Rat} {override override' : Option Int}
    (h : Loosens s override s' override') (nonneg : s.NonnegWeights) (ts cs : List Event) :
    Outcomes Improves (ofEvents s (override.getD s.toleranceMs) ts cs)
      (ofEvents s' (override'.getD s'.toleranceMs) ts cs) := by
  have weights (d : Details) : weigh s' d = weigh s d := by
    rw [h.rest]
    rfl
  have pass : s'.passScore = s.passScore := by rw [h.rest]
  rw [ofEvents_eq, ofEvents_eq]
  apply (judge_loosened h _).bind
  intro judged judged' eased
  rw [weights]
  apply (weigh_le nonneg (details_eases eased)).map
  intro score score' higher
  refine ⟨assemble_eases eased s s' ts.length cs.length score score', higher, ?_⟩
  intro matched
  obtain ⟨same, enough⟩ := (Bool.and_eq_true _ _).mp matched
  apply (Bool.and_eq_true _ _).mpr
  refine ⟨same, decide_eq_true ?_⟩
  rw [pass]
  exact (of_decide_eq_true enough).trans higher

/-- Loosening a tolerance never hurts. Whatever numbers the weights are, the looser verdict tells
the same differences except for some in duty or timing and counts at least as many pairs, and there
is one unless its counts cannot be weighed. In exact numbers, with weights that are not negative, it
fails only as the stricter one does, its score is not lower, and a match stays one. -/
theorem loosening_never_hurts (target candidate : Sequence) (override override' : Option Int) :
    (∀ (α : Type) [Weighing α] (s s' : CompareSettings α), Loosens s override s' override' →
      ∀ v, (compare s target candidate override).outcome = .ok v →
        (∃ v', (compare s' target candidate override').outcome = .ok v' ∧ v.Eases v') ∨
          ∃ d b, v.details.Eases d ∧ weigh s' d = .error b ∧
            (compare s' target candidate override').outcome = .error (.breakdown b)) ∧
      ∀ s s' : CompareSettings Rat, Loosens s override s' override' → s.NonnegWeights →
        Outcomes Improves (compare s target candidate override).outcome
          (compare s' target candidate override').outcome := by
  by_cases empty : target.events = [] ∨ candidate.events = []
  · constructor
    · intro α _ s s' _ v hv
      obtain ⟨w, hw, hw'⟩ := compare_of_nil empty s s' override override'
      cases hv.symm.trans hw
      exact .inl ⟨v, hw', Eases.refl v⟩
    · intro s s' _ _
      obtain ⟨w, hw, hw'⟩ := compare_of_nil empty s s' override override'
      rw [hw, hw']
      exact .ok ⟨Eases.refl w, Int.le_refl _, id⟩
  · obtain ⟨ht, hc⟩ := not_or.mp empty
    constructor
    · intro α _ s s' h v hv
      rw [compare_of_ne_nil ht hc, mapError_eq_ok] at hv
      rw [compare_of_ne_nil ht hc]
      obtain ⟨v', hv', eased⟩ | ⟨d, b, eased, unweighed, hb⟩ := ofEvents_eases h hv
      · exact .inl ⟨v', mapError_eq_ok.mpr hv', eased⟩
      · refine .inr ⟨d, b, eased, unweighed, ?_⟩
        rw [hb]
        rfl
    · intro s s' h nonneg
      rw [compare_of_ne_nil ht hc, compare_of_ne_nil ht hc]
      exact (ofEvents_improves h nonneg _ _).mapError Halt.breakdown

/-- A late second event and a duty that is too low are both let pass by looser tolerances. -/
theorem loosening_never_hurts_dimmed :
    let dimmer : Sequence := ⟨[⟨0, 9, true, .pwm, .loop, some 50⟩,
      ⟨1000, 9, true, .pwm, .loop, some 90⟩, ⟨1004, 13, true, .digital, .loop, none⟩], 1004, true⟩
    let dimmed : Sequence := ⟨[⟨0, 9, true, .pwm, .loop, some 30⟩,
      ⟨1080, 9, true, .pwm, .loop, some 20⟩, ⟨1090, 12, true, .digital, .loop, none⟩], 1090, true⟩
    let strict : Verdict := ⟨false, 72, [.duties 0 9 (some 50) (some 30), .gaps 0 9 1000 1080,
      .duties 1 9 (some 90) (some 20), .pins 2 13 12], ⟨2, 2, 3, 1, 3⟩⟩
    let loose : Verdict := ⟨true, 88, [.duties 1 9 (some 90) (some 20), .pins 2 13 12],
      ⟨3, 2, 3, 2, 3⟩⟩
    (compare ({} : CompareSettings Rat) dimmer dimmed none).outcome = .ok strict ∧
      (compare { pwmTolerance := 60 : CompareSettings Rat } dimmer dimmed (some 80)).outcome =
        .ok loose ∧ strict.Improves loose := by
  intro dimmer dimmed strict loose
  have before : (compare ({} : CompareSettings Rat) dimmer dimmed none).outcome = .ok strict := by
    decide +kernel
  have after : (compare { pwmTolerance := 60 : CompareSettings Rat } dimmer dimmed
      (some 80)).outcome = .ok loose := by decide +kernel
  have looser : Loosens ({} : CompareSettings Rat) none { pwmTolerance := 60 } (some 80) :=
    ⟨by decide, by decide, by decide, rfl⟩
  have nonneg : ({} : CompareSettings Rat).NonnegWeights :=
    ⟨by decide +kernel, by decide +kernel, by decide +kernel, by decide +kernel⟩
  exact ⟨before, after, ((loosening_never_hurts dimmer dimmed none (some 80)).2 {} _ looser
    nonneg).related before after⟩

end Verdict

end SketchGrader
