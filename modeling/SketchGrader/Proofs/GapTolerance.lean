import SketchGrader.Proofs.PairAccounts

/-!
# Gaps within the tolerance

A gap is told if it differs by more than is allowed for it, and counted otherwise. A target gap
close to zero has a tolerance of its own, and this one takes the place of the usual tolerance even
if it is the smaller one. So of the gaps within the usual tolerance some may be told: those close to
zero that are not within their own.
-/

namespace SketchGrader

theorem gapAt?_normalize (events : List Event) (i : Nat) :
    gapAt? (normalize events) i = gapAt? events i := by
  obtain ⟨offset, h⟩ := Verdict.normalize_eq_shift events
  rw [h, gapAt?_shift]

theorem exists_gapAt? {events : List Event} {i : Nat} :
    (∃ gap, gapAt? events i = some gap) ↔ i + 1 < events.length := by
  rw [← Option.isSome_iff_exists, ← not_iff_not, Bool.not_eq_true, Option.isSome_eq_false_iff,
    Option.isNone_iff_eq_none, gapAt?_eq_none_iff, not_lt]

namespace Verdict

variable {α : Type} [Weighing α] {settings : CompareSettings α}

/-- A verdict tells the gap behind the event at an index as a difference. -/
def TellsGap (v : Verdict) (i : Nat) : Prop :=
  ∃ d ∈ v.differences, d.kind = .timing ∧ d.index? = some i

instance (v : Verdict) : DecidablePred v.TellsGap :=
  fun _ => inferInstanceAs (Decidable (∃ d ∈ v.differences, _))

theorem accounts_of_ofEvents {tolerance : Int} {ts cs : List Event} {v : Verdict}
    (h : ofEvents settings tolerance ts cs = .ok v) : v.Accounts settings tolerance ts cs := by
  obtain ⟨judged, score, hjudged, -, rfl⟩ := ofEvents_eq_ok h
  have size : judged.length = min ts.length cs.length := by
    rw [← List.length_map, (judge_eq_ok hjudged).1, EventPair.length_alignFrom]
  exact accounts_of_ruled (fun i x hx => ruled_of_judge hjudged hx) size score

section
variable {tolerance : Int} {ts cs : List Event} {v : Verdict}

theorem Accounts.tellsGap_iff (accounts : v.Accounts settings tolerance ts cs) (i : Nat) :
    v.TellsGap i ↔ i < min ts.length cs.length ∧
      ¬ Respect.interval.Holds settings tolerance ts cs i := by
  have told : v.TellsGap i ↔
      some i ∈ (v.differences.filter fun d => d.kind = Respect.interval.kind).map (·.index?) := by
    simp only [List.mem_map, List.mem_filter, decide_eq_true_iff, and_assoc]
    rfl
  rw [told, accounts.listed]
  simp

/-- The gaps that are not told are counted. -/
theorem Accounts.count_gaps (accounts : v.Accounts settings tolerance ts cs) :
    v.details.intervalMatches =
      (List.range (min ts.length cs.length)).countP fun i => ¬ v.TellsGap i := by
  refine (accounts.counted .interval).trans (List.countP_congr ?_)
  intro i hi
  rw [decide_eq_true_iff, decide_eq_true_iff, accounts.tellsGap_iff, not_and, not_not]
  exact ⟨fun holds _ => holds, fun holds => holds (List.mem_range.mp hi)⟩

/-- A gap does not hold if both timelines have one and they differ by more than is allowed. -/
theorem not_holds_interval (i : Nat) :
    (i < min ts.length cs.length ∧ ¬ Respect.interval.Holds settings tolerance ts cs i) ↔
      ∃ t ∈ gapAt? ts i, ∃ c ∈ gapAt? cs i,
        Judgement.allowedGap settings tolerance t < ((t - c).natAbs : Int) := by
  constructor
  · rintro ⟨inside, fails⟩
    obtain ⟨inner, apart⟩ := not_or.mp fails
    obtain ⟨t, ht⟩ := exists_gapAt?.mpr (show i + 1 < ts.length by omega)
    obtain ⟨c, hc⟩ := exists_gapAt?.mpr (show i + 1 < cs.length by omega)
    refine ⟨t, ht, c, hc, ?_⟩
    by_contra near
    exact apart ⟨t, ht, c, hc, not_lt.mp near⟩
  · rintro ⟨t, ht, c, hc, far⟩
    have target := exists_gapAt?.mp ⟨t, ht⟩
    have candidate := exists_gapAt?.mp ⟨c, hc⟩
    refine ⟨by omega, ?_⟩
    rintro (last | ⟨t', ht', c', hc', near⟩)
    · omega
    · obtain rfl : t' = t := Option.some.inj (ht'.symm.trans ht)
      obtain rfl : c' = c := Option.some.inj (hc'.symm.trans hc)
      exact not_le.mpr far near

end

section
variable {target candidate : Sequence} {override : Option Int} {v : Verdict}

/-- Without events on one side there are no pairs, and at most the lengths are told. -/
theorem compare_of_empty (empty : target.events = [] ∨ candidate.events = [])
    (h : (compare settings target candidate override).outcome = .ok v) :
    v.details = {} ∧ ∀ d ∈ v.differences, d.kind = .length := by
  unfold compare at h
  cases ht : target.events with
  | nil =>
      rw [ht] at h
      cases hc : candidate.events with
      | nil =>
          rw [hc] at h
          cases h
          exact ⟨rfl, List.forall_mem_nil _⟩
      | cons c cs =>
          rw [hc] at h
          cases h
          exact ⟨rfl, List.forall_mem_singleton.mpr rfl⟩
  | cons t ts =>
      obtain hc : candidate.events = [] := by simpa [ht] using empty
      rw [ht, hc] at h
      cases h
      exact ⟨rfl, List.forall_mem_singleton.mpr rfl⟩

/-- A gap is told exactly if it differs by more than is allowed for it. -/
theorem tellsGap_iff (h : (compare settings target candidate override).outcome = .ok v) (i : Nat) :
    v.TellsGap i ↔ ∃ t ∈ gapAt? target.events i, ∃ c ∈ gapAt? candidate.events i,
      Judgement.allowedGap settings (override.getD settings.toleranceMs) t <
        ((t - c).natAbs : Int) := by
  by_cases empty : target.events = [] ∨ candidate.events = []
  · have silent : ¬ v.TellsGap i := by
      rintro ⟨d, hd, timing, -⟩
      cases timing.symm.trans ((compare_of_empty empty h).2 d hd)
    refine iff_of_false silent ?_
    rintro ⟨t, ht, c, hc, -⟩
    obtain empty | empty := empty
    · rw [empty] at ht
      cases ht
    · rw [empty] at hc
      cases hc
  · obtain ⟨ht, hc⟩ := not_or.mp empty
    rw [compare_of_ne_nil ht hc, mapError_eq_ok] at h
    rw [(accounts_of_ofEvents h).tellsGap_iff, not_holds_interval, gapAt?_normalize,
      gapAt?_normalize]

theorem intervalMatches_eq (h : (compare settings target candidate override).outcome = .ok v) :
    v.details.intervalMatches =
      (List.range (min target.events.length candidate.events.length)).countP fun i =>
        ¬ v.TellsGap i := by
  by_cases empty : target.events = [] ∨ candidate.events = []
  · have none : min target.events.length candidate.events.length = 0 := by
      obtain empty | empty := empty <;> simp [empty]
    rw [(compare_of_empty empty h).1, none]
    rfl
  · obtain ⟨ht, hc⟩ := not_or.mp empty
    rw [compare_of_ne_nil ht hc, mapError_eq_ok] at h
    rw [(accounts_of_ofEvents h).count_gaps, length_normalize, length_normalize]

end

/-- The gaps that are not told are those that are counted. A gap within the tolerance in force is
told exactly if the target gap is close to zero and the difference is beyond the tolerance for such
gaps; so all gaps within the tolerance are counted unless this one is smaller. -/
theorem gaps_within_tolerance_are_counted (settings : CompareSettings α)
    (target candidate : Sequence) (override : Option Int) (v : Verdict)
    (h : (compare settings target candidate override).outcome = .ok v) :
    v.details.intervalMatches =
        ((List.range (min target.events.length candidate.events.length)).countP fun i =>
          ¬ v.TellsGap i) ∧
      ∀ i, ∀ t ∈ gapAt? target.events i, ∀ c ∈ gapAt? candidate.events i,
        ((t - c).natAbs : Int) ≤ override.getD settings.toleranceMs →
          (v.TellsGap i ↔ t < settings.simultaneousBelowMs ∧
            settings.simultaneousToleranceMs < ((t - c).natAbs : Int)) := by
  refine ⟨intervalMatches_eq h, ?_⟩
  intro i t ht c hc within
  have told : v.TellsGap i ↔
      Judgement.allowedGap settings (override.getD settings.toleranceMs) t <
        ((t - c).natAbs : Int) := by
    rw [tellsGap_iff h, Option.mem_def.mp ht, Option.mem_def.mp hc]
    simp only [Option.mem_some_iff, exists_eq_left']
  rw [told, Judgement.allowedGap]
  split_ifs with near
  · exact (and_iff_right near).symm
  · exact iff_of_false (not_lt.mpr within) fun both => near both.1

/-- Four events of which three come almost at once. -/
def burst : Sequence :=
  ⟨[⟨0, 13, true, .digital, .loop, none⟩, ⟨5, 12, true, .digital, .loop, none⟩,
    ⟨10, 11, true, .digital, .loop, none⟩, ⟨1010, 13, false, .digital, .loop, none⟩], 1010, true⟩

/-- A candidate for it in which every gap is too long, by 85, 150 and 190 milliseconds. -/
def stretchedBurst : Sequence :=
  ⟨[⟨0, 13, true, .digital, .loop, none⟩, ⟨90, 12, true, .digital, .loop, none⟩,
    ⟨245, 11, true, .digital, .loop, none⟩, ⟨1435, 13, false, .digital, .loop, none⟩], 1435, true⟩

/-- With a tolerance of 200 the first and the last gap are counted and the second one is told. -/
theorem gaps_within_tolerance_are_counted_burst :
    ∃ v : Verdict,
      (compare ({} : CompareSettings Rat) burst stretchedBurst (some 200)).outcome = .ok v ∧
        ¬ v.TellsGap 0 ∧ v.TellsGap 1 ∧ ¬ v.TellsGap 2 := by
  have compared : (compare ({} : CompareSettings Rat) burst stretchedBurst (some 200)).outcome =
      .ok ⟨true, 90, [.gaps 1 12 5 155], ⟨3, 4, 4, 4, 4⟩⟩ := by decide +kernel
  have law := (gaps_within_tolerance_are_counted {} burst stretchedBurst (some 200) _ compared).2
  refine ⟨_, compared, ?_, ?_, ?_⟩
  · exact mt (law 0 5 rfl 90 rfl (by decide)).mp (by decide)
  · exact (law 1 5 rfl 155 rfl (by decide)).mpr (by decide)
  · exact mt (law 2 1000 rfl 1190 rfl (by decide)).mp (by decide)

/-- A gap of 155 instead of 5 milliseconds is within a tolerance of 200, and it is told. -/
theorem near_gap_within_tolerance_is_told :
    let target : Sequence :=
      ⟨[⟨0, 13, true, .digital, .loop, none⟩, ⟨5, 12, true, .digital, .loop, none⟩], 5, true⟩
    let candidate : Sequence :=
      ⟨[⟨0, 13, true, .digital, .loop, none⟩, ⟨155, 12, true, .digital, .loop, none⟩], 155, true⟩
    gapAt? target.events 0 = some 5 ∧ gapAt? candidate.events 0 = some 155 ∧
      ((5 - 155 : Int).natAbs : Int) ≤ 200 ∧
        (compare ({} : CompareSettings Rat) target candidate (some 200)).outcome =
          .ok ⟨true, 80, [.gaps 0 13 5 155], ⟨1, 2, 2, 2, 2⟩⟩ := by
  decide +kernel

end Verdict

end SketchGrader
