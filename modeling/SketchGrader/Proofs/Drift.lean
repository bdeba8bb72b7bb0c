import SketchGrader.Proofs.ComparedPart
import SketchGrader.Proofs.GapTolerance

/-!
# Drift

A verdict looks at each gap on its own, the feedback at the time since the first event. An event is
as late as the gaps in front of it are too long altogether. So gaps that are all within their
tolerances can still add up to a time that the feedback finds wrong, and how far this can go is the
sum of the tolerances.
-/

namespace SketchGrader

/-- By how much the gap behind an event is too long in the candidate. -/
def gapError (ts cs : List Event) (i : Nat) : Int := (gapAt? cs i).getD 0 - (gapAt? ts i).getD 0

/-- The errors of the gaps in front of an event, added up with their signs. -/
def drift (ts cs : List Event) : Nat → Int
  | 0 => 0
  | i + 1 => drift ts cs i + gapError ts cs i

/-- What is allowed for the gaps in front of an event, added up. -/
def allowance {α : Type} [Weighing α] (settings : CompareSettings α) (ts : List Event) : Nat → Int
  | 0 => 0
  | i + 1 => allowance settings ts i +
      Judgement.allowedGap settings settings.toleranceMs ((gapAt? ts i).getD 0)

theorem gapAt?_eq {events : List Event} {i : Nat} {e e' : Event} (h : events[i]? = some e)
    (h' : events[i + 1]? = some e') : gapAt? events i = some (e'.time - e.time) := by
  rw [gapAt?, h, Option.bind_some, h', Option.map_some]

theorem getElem?_pred {events : List Event} {i : Nat} {e' : Event}
    (h : events[i + 1]? = some e') : ∃ e, events[i]? = some e := by
  have inside := (List.getElem?_eq_some_iff.mp h).1
  exact ⟨_, List.getElem?_eq_getElem (by omega)⟩

/-- The drift of an event is how late it is, with times counted from the first event. -/
theorem drift_eq {ts cs : List Event} {first first' : Event} (hfirst : ts[0]? = some first)
    (hfirst' : cs[0]? = some first') {i : Nat} {t c : Event} (ht : ts[i]? = some t)
    (hc : cs[i]? = some c) :
    drift ts cs i = (c.time - first'.time) - (t.time - first.time) := by
  induction i generalizing t c with
  | zero =>
      cases ht.symm.trans hfirst
      cases hc.symm.trans hfirst'
      rw [drift]
      omega
  | succ i ih =>
      obtain ⟨t', ht'⟩ := getElem?_pred ht
      obtain ⟨c', hc'⟩ := getElem?_pred hc
      have before := ih ht' hc'
      rw [drift, gapError, gapAt?_eq ht' ht, gapAt?_eq hc' hc, Option.getD_some, Option.getD_some]
      omega

theorem drift_normalize {ts cs : List Event} {i : Nat} {t c : Event}
    (ht : (normalize ts)[i]? = some t) (hc : (normalize cs)[i]? = some c) :
    drift ts cs i = c.time - t.time := by
  cases ts with
  | nil => cases ht
  | cons first ts =>
      cases cs with
      | nil => cases hc
      | cons first' cs =>
          rw [normalize_cons, List.getElem?_map, Option.map_eq_some_iff] at ht hc
          obtain ⟨t, ht, rfl⟩ := ht
          obtain ⟨c, hc, rfl⟩ := hc
          exact drift_eq rfl rfl ht hc

/-- Gaps that are not told keep the drift within the sum of their tolerances. -/
theorem drift_le_allowance {α : Type} [Weighing α] {settings : CompareSettings α}
    {target candidate : Sequence} {v : Verdict}
    (h : (Verdict.compare settings target candidate none).outcome = .ok v)
    (quiet : ∀ i, ¬ v.TellsGap i) {i : Nat}
    (inside : i < min target.events.length candidate.events.length) :
    ((drift target.events candidate.events i).natAbs : Int) ≤
      allowance settings target.events i := by
  induction i with
  | zero => exact Int.le_refl 0
  | succ i ih =>
      have before := ih (by omega)
      obtain ⟨t, ht⟩ := exists_gapAt?.mpr (show i + 1 < target.events.length by omega)
      obtain ⟨c, hc⟩ := exists_gapAt?.mpr (show i + 1 < candidate.events.length by omega)
      have near : ((t - c).natAbs : Int) ≤
          Judgement.allowedGap settings settings.toleranceMs t := by
        by_contra far
        exact quiet i ((Verdict.tellsGap_iff h i).mpr ⟨t, ht, c, hc, not_le.mp far⟩)
      rw [drift, allowance, gapError, ht, hc, Option.getD_some, Option.getD_some]
      omega

namespace Feedback

theorem timingHint_mem_hints {sameLength onTime : Bool} {missing extra : List Int} :
    timingHint ∈ hints sameLength onTime missing extra ↔ onTime = false := by
  have never (pins : String) : timingHint ≠ "Your program never changes pin(s) " ++ pins := by
    intro same
    have letter := congrArg (fun text => text.toList.head?) same
    simp [timingHint] at letter
  have extras (pins : String) : timingHint ≠ "Pin(s) " ++ pins ++ " should not change" := by
    intro same
    have letter := congrArg (fun text => text.toList.head?) same
    simp [timingHint] at letter
  have number : timingHint ≠ "Check the number of pin state changes in your code" := by decide
  have said (silent : Bool) (text : String) :
      timingHint ∈ (if silent then [] else [text]) ↔ silent = false ∧ timingHint = text := by
    cases silent <;> simp
  rw [hints, List.mem_append, List.mem_append, List.mem_append, said, said, said, said]
  simp only [never, extras, number, and_false, or_false, false_or, and_true]

theorem issuesFrom_eq {tolerance : Int} {late : Nat → Int} {ts cs : List Event} {index : Nat}
    (h : ∀ i t c, ts[i]? = some t → cs[i]? = some c →
      ((t.time - c.time).natAbs : Int) = late (index + i)) :
    (issuesFrom tolerance index ts cs).map (fun x => (x.index, x.difference)) =
      ((List.range' index (min ts.length cs.length)).filter fun i => tolerance < late i).map
        fun i => (i, late i) := by
  induction ts generalizing index cs with
  | nil => simp [issuesFrom]
  | cons t ts ih =>
      cases cs with
      | nil => simp [issuesFrom]
      | cons c cs =>
          have now : ((t.time - c.time).natAbs : Int) = late index := h 0 t c rfl rfl
          have later := @ih cs (index + 1) fun i t' c' ht' hc' => by
            rw [Nat.add_assoc, Nat.add_comm 1]
            exact h (i + 1) t' c' ht' hc'
          rw [List.length_cons, List.length_cons, Nat.add_min_add_right, List.range'_succ,
            List.filter_cons, issuesFrom, now]
          by_cases wrong : tolerance < late index
          · rw [if_pos wrong, if_pos (decide_eq_true wrong), List.map_cons, List.map_cons, later]
          · rw [if_neg wrong, if_neg (mt of_decide_eq_true wrong), later]

section
variable {α : Type} [Weighing α] {settings : CompareSettings α} {target candidate : Sequence}

/-- The events that the feedback finds at the wrong time. -/
theorem issues_eq :
    (issuesFrom settings.toleranceMs 0 (normalize target.events)
      (normalize candidate.events)).map (fun x => (x.index, x.difference)) =
      ((List.range (min target.events.length candidate.events.length)).filter fun i =>
        settings.toleranceMs < ((drift target.events candidate.events i).natAbs : Int)).map
          fun i => (i, ((drift target.events candidate.events i).natAbs : Int)) := by
  have late (i : Nat) (t c : Event) (ht : (normalize target.events)[i]? = some t)
      (hc : (normalize candidate.events)[i]? = some c) : ((t.time - c.time).natAbs : Int) =
        ((drift target.events candidate.events (0 + i)).natAbs : Int) := by
    rw [Nat.zero_add, drift_normalize ht hc]
    omega
  rw [@issuesFrom_eq _ (fun i => ((drift target.events candidate.events i).natAbs : Int)) _ _ _
    late, Verdict.length_normalize, Verdict.length_normalize, List.range_eq_range']

theorem analyze_eq_ok {f : Feedback} (h : analyze settings target candidate = .ok f) :
    f.timingIssues = issuesFrom settings.toleranceMs 0 (normalize target.events)
        (normalize candidate.events) ∧
      (timingHint ∈ f.suggestions ↔ f.timingIssues ≠ []) := by
  obtain ⟨mean, -, h⟩ := bind_eq_ok.mp h
  cases h
  refine ⟨rfl, timingHint_mem_hints.trans ?_⟩
  rw [List.isEmpty_eq_false_iff]

theorem analyze_of_on_time (h : issuesFrom settings.toleranceMs 0 (normalize target.events)
    (normalize candidate.events) = []) : ∃ f, analyze settings target candidate = .ok f := by
  unfold analyze
  dsimp only
  rw [h]
  exact ⟨_, rfl⟩

end

/-- Where no gap is told, the drift of an event is at most the sum of what is allowed for the gaps
in front of it. Whatever the gaps are, the feedback names the events whose drift is beyond the usual
tolerance, with their drift, and speaks of the timing exactly if there are some. So it is given,
with nothing to say about the timing, as long as the drift stays within the tolerance. -/
theorem feedback_finds_drift {α : Type} [Weighing α] (settings : CompareSettings α)
    (target candidate : Sequence) :
    let late (i : Nat) : Int := (drift target.events candidate.events i).natAbs
    let pairs := List.range (min target.events.length candidate.events.length)
    (∀ v, (Verdict.compare settings target candidate none).outcome = .ok v →
      (∀ d ∈ v.differences, d.kind ≠ .timing) →
        ∀ i ∈ pairs, late i ≤ allowance settings target.events i) ∧
    (∀ f, analyze settings target candidate = .ok f →
      f.timingIssues.map (fun x => (x.index, x.difference)) =
          (pairs.filter fun i => settings.toleranceMs < late i).map (fun i => (i, late i)) ∧
        (timingHint ∈ f.suggestions ↔ f.timingIssues ≠ [])) ∧
    ((∀ i ∈ pairs, late i ≤ settings.toleranceMs) →
      ∃ f, analyze settings target candidate = .ok f ∧ f.timingIssues = [] ∧
        timingHint ∉ f.suggestions) := by
  intro late pairs
  refine ⟨?_, ?_, ?_⟩
  · intro v h quiet i hi
    have untold (k : Nat) : ¬ v.TellsGap k := by
      rintro ⟨d, hd, timing, -⟩
      exact quiet d hd timing
    exact drift_le_allowance h untold (List.mem_range.mp hi)
  · intro f hf
    obtain ⟨issues, hint⟩ := analyze_eq_ok hf
    exact ⟨by rw [issues]; exact issues_eq, hint⟩
  · intro within
    have none : issuesFrom settings.toleranceMs 0 (normalize target.events)
        (normalize candidate.events) = [] := by
      apply List.map_eq_nil_iff.mp (issues_eq.trans _)
      rw [List.map_eq_nil_iff, List.filter_eq_nil_iff]
      intro i hi wrong
      exact not_lt.mpr (within i hi) (of_decide_eq_true wrong)
    obtain ⟨f, hf⟩ := analyze_of_on_time none
    obtain ⟨issues, hint⟩ := analyze_eq_ok hf
    exact ⟨f, hf, issues.trans none, fun said => hint.mp said (issues.trans none)⟩

/-- Three events a second apart. -/
def metronome : Sequence :=
  ⟨[⟨0, 13, true, .digital, .loop, none⟩, ⟨1000, 13, false, .digital, .loop, none⟩,
    ⟨2000, 13, true, .digital, .loop, none⟩], 2000, true⟩

/-- A candidate for it whose second gap makes up for half of the first one. -/
def unsteadyMetronome : Sequence :=
  ⟨[⟨70, 13, true, .digital, .loop, none⟩, ⟨1110, 13, false, .digital, .loop, none⟩,
    ⟨2090, 13, true, .digital, .loop, none⟩], 2090, true⟩

/-- The drift of 40 and then 20 milliseconds is within what is allowed for one and for two gaps, and
within the tolerance. -/
theorem feedback_finds_drift_unsteady :
    let late := drift metronome.events unsteadyMetronome.events
    (Verdict.compare ({} : CompareSettings Rat) metronome unsteadyMetronome none).outcome =
        .ok ⟨true, 100, [], ⟨3, 3, 3, 3, 3⟩⟩ ∧
      (List.range 3).map late = [0, 40, 20] ∧
      (∀ i ∈ List.range 3,
        ((late i).natAbs : Int) ≤ allowance ({} : CompareSettings Rat) metronome.events i) ∧
      ∃ f, analyze ({} : CompareSettings Rat) metronome unsteadyMetronome = .ok f ∧
        f.timingIssues = [] ∧ timingHint ∉ f.suggestions := by
  intro late
  have compared : (Verdict.compare ({} : CompareSettings Rat) metronome unsteadyMetronome
      none).outcome = .ok ⟨true, 100, [], ⟨3, 3, 3, 3, 3⟩⟩ := by decide +kernel
  obtain ⟨allowed, -, silent⟩ :=
    feedback_finds_drift ({} : CompareSettings Rat) metronome unsteadyMetronome
  exact ⟨compared, by decide, allowed _ compared (List.forall_mem_nil _), silent (by decide)⟩

/-- A candidate for it that is late by 40 milliseconds at every event. -/
def slowMetronome : Sequence :=
  ⟨[⟨0, 13, true, .digital, .loop, none⟩, ⟨1040, 13, false, .digital, .loop, none⟩,
    ⟨2080, 13, true, .digital, .loop, none⟩], 2080, true⟩

/-- Both gaps are within the tolerance of 50 milliseconds, and the last event is late by 80. -/
theorem good_gaps_drift_apart :
    (Verdict.compare ({} : CompareSettings Rat) metronome slowMetronome none).outcome =
        .ok ⟨true, 100, [], ⟨3, 3, 3, 3, 3⟩⟩ ∧
      (analyze ({} : CompareSettings Rat) metronome slowMetronome).map
          (fun f => (f.timingIssues, f.suggestions)) =
        .ok ([⟨2, 2000, 2080, 80⟩], [timingHint]) := by
  decide +kernel

end Feedback

end SketchGrader
