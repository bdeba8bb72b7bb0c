import Mathlib.Data.List.Basic
import SketchGrader.Grading.Feedback
import SketchGrader.Proofs.Judging

/-!
# What a comparison does not look at

Times are counted from the first event, so a timeline may begin at any time. Events without a
partner in the other timeline are not judged; they are told by a difference in length, and the
score is that of the events in front of them.
-/

namespace SketchGrader

/-- The timeline with all its events moved by a time; its duration is kept. -/
def Sequence.shift (s : Sequence) (offset : Int) : Sequence :=
  { s with events := s.events.map fun e => e.shift offset }

/-- The first events of a timeline. -/
def Sequence.take (s : Sequence) (count : Nat) : Sequence :=
  { s with events := s.events.take count }

/-! ## The beginning of a timeline -/

theorem normalize_cons (first : Event) (rest : List Event) :
    normalize (first :: rest) = (first :: rest).map fun e => e.shift (-first.time) := rfl

theorem normalize_shift (events : List Event) (offset : Int) :
    normalize (events.map fun e => e.shift offset) = normalize events := by
  cases events with
  | nil => rfl
  | cons first rest =>
      have moved (e : Event) :
          (e.shift offset).shift (-(first.shift offset).time) = e.shift (-first.time) := by
        have time : e.time + offset + -(first.time + offset) = e.time + -first.time := by omega
        simp only [Event.shift, time]
      rw [List.map_cons, normalize_cons, normalize_cons]
      simp only [List.map_cons, List.map_map, Function.comp_def, moved]

theorem Summary.ofSequence_shift (s : Sequence) (offset : Int) :
    ofSequence (s.shift offset) = ofSequence s := by
  simp only [ofSequence, Sequence.shift, List.length_map, List.map_map, List.countP_map]
  rfl

namespace Verdict

variable {α : Type} [Weighing α]

/-- A late start costs nothing: moving the target and the candidate, each as a whole, changes
neither the verdict nor the feedback. -/
theorem start_offsets_cost_nothing (settings : CompareSettings α) (target candidate : Sequence)
    (a b : Int) (override : Option Int) :
    compare settings (target.shift a) (candidate.shift b) override =
        compare settings target candidate override ∧
      Feedback.analyze settings (target.shift a) (candidate.shift b) =
        Feedback.analyze settings target candidate := by
  have target_eq : normalize (target.shift a).events = normalize target.events :=
    normalize_shift _ a
  have candidate_eq : normalize (candidate.shift b).events = normalize candidate.events :=
    normalize_shift _ b
  constructor
  · unfold compare
    rw [target_eq, candidate_eq]
    simp only [Sequence.shift, List.isEmpty_map, List.length_map]
  · unfold Feedback.analyze
    rw [target_eq, candidate_eq, Summary.ofSequence_shift, Summary.ofSequence_shift]

/-! ## The common part of two timelines -/

theorem normalize_take (events : List Event) (count : Nat) :
    normalize (events.take count) = (normalize events).take count := by
  cases events with
  | nil => cases count <;> rfl
  | cons first rest =>
      cases count with
      | zero => rfl
      | succ count =>
          rw [List.take_succ_cons, normalize_cons, normalize_cons, ← List.map_take,
            List.take_succ_cons]

/-- Aligned events are those with a partner. -/
theorem alignFrom_of_zip {ts cs ts' cs' : List Event} (h : ts.zip cs = ts'.zip cs')
    (index : Nat) : EventPair.alignFrom index ts cs = EventPair.alignFrom index ts' cs' := by
  apply List.ext_getElem?
  intro i
  rw [EventPair.getElem?_alignFrom, EventPair.getElem?_alignFrom, h]

/-- The verdict on the common part, where the whole timelines have the given numbers of events. -/
def withLengths (events events' : Nat) (v : Verdict) : Verdict :=
  if events = events' then v
  else { v with matched := false, differences := .lengths events events' :: v.differences }

theorem withLengths_assemble (settings : CompareSettings α) (events events' : Nat)
    (judged : List (EventPair × Judgement)) (score : Int) (common : Nat) :
    (assemble settings common common judged score).withLengths events events' =
      assemble settings events events' judged score := by
  by_cases same : events = events' <;> simp [withLengths, assemble, same]

theorem ofEvents_take (settings : CompareSettings α) (tolerance : Int) (ts cs : List Event) :
    ofEvents settings tolerance ts cs =
      (ofEvents settings tolerance (ts.take (min ts.length cs.length))
        (cs.take (min ts.length cs.length))).map (withLengths ts.length cs.length) := by
  have aligned := alignFrom_of_zip (@List.zip_eq_zip_take_min _ _ ts cs) 0
  have target : (ts.take (min ts.length cs.length)).length = min ts.length cs.length := by
    rw [List.length_take]
    omega
  have candidate : (cs.take (min ts.length cs.length)).length = min ts.length cs.length := by
    rw [List.length_take]
    omega
  rw [ofEvents_eq, ofEvents_eq, ← aligned, target, candidate]
  cases judge settings tolerance (EventPair.alignFrom 0 ts cs) with
  | error b => rfl
  | ok judged =>
      simp only [Except.bind]
      cases weigh settings (Details.ofJudgements (judged.map Prod.snd)) with
      | error b => rfl
      | ok score => simp only [Except.map, withLengths_assemble]

/-- Cutting two timelines to their common part leaves the difference in length out and nothing
else. -/
theorem compare_take (settings : CompareSettings α) {target candidate : Sequence}
    (ht : target.events ≠ []) (hc : candidate.events ≠ []) (override : Option Int) :
    let m := min target.events.length candidate.events.length
    (compare settings target candidate override).outcome =
      (compare settings (target.take m) (candidate.take m) override).outcome.map
        (withLengths target.events.length candidate.events.length) := by
  intro m
  have target_pos := List.length_pos_iff.mpr ht
  have candidate_pos := List.length_pos_iff.mpr hc
  have ht' : (target.take m).events ≠ [] := by
    apply List.ne_nil_of_length_pos
    rw [Sequence.take, List.length_take]
    omega
  have hc' : (candidate.take m).events ≠ [] := by
    apply List.ne_nil_of_length_pos
    rw [Sequence.take, List.length_take]
    omega
  have common := ofEvents_take settings (override.getD settings.toleranceMs)
    (normalize target.events) (normalize candidate.events)
  rw [length_normalize, length_normalize, ← normalize_take, ← normalize_take] at common
  rw [compare_of_ne_nil ht hc, compare_of_ne_nil ht' hc', common, mapError_map]
  rfl

theorem compare_of_events (settings : CompareSettings α) {target candidate target' candidate' :
    Sequence} (ht : target'.events = target.events) (hc : candidate'.events = candidate.events)
    (override : Option Int) :
    compare settings target' candidate' override = compare settings target candidate override := by
  unfold compare
  rw [ht, hc]

/-- The score and the counts of a comparison that goes well. -/
def credit (outcome : Except Halt Verdict) : Except Halt (Int × Details) :=
  outcome.map fun v => (v.score, v.details)

theorem credit_withLengths (outcome : Except Halt Verdict) (events events' : Nat) :
    credit (outcome.map (withLengths events events')) = credit outcome := by
  have kept (v : Verdict) : ((v.withLengths events events').score,
      (v.withLengths events events').details) = (v.score, v.details) := by
    unfold withLengths
    split_ifs <;> rfl
  cases outcome with
  | error halt => rfl
  | ok v => exact congrArg Except.ok (kept v)

/-- Timelines of different lengths are compared as far as both go: the verdict is that on their
first events, with a difference in length in front of the differences and without a match. So
timelines with the same first events get the same score and the same counts, whatever follows in the
longer one. -/
theorem partial_credit_is_common_part (settings : CompareSettings α)
    (target candidate : Sequence) (override : Option Int) (ht : target.events ≠ [])
    (hc : candidate.events ≠ [])
    (differ : target.events.length ≠ candidate.events.length) :
    let m := min target.events.length candidate.events.length
    (compare settings target candidate override).outcome =
        (compare settings (target.take m) (candidate.take m) override).outcome.map (fun v =>
          { v with
            matched := false
            differences :=
              .lengths target.events.length candidate.events.length :: v.differences }) ∧
      ∀ target' candidate' : Sequence,
        min target'.events.length candidate'.events.length = m →
        target'.events.take m = target.events.take m →
        candidate'.events.take m = candidate.events.take m →
        credit (compare settings target' candidate' override).outcome =
          credit (compare settings target candidate override).outcome := by
  intro m
  constructor
  · rw [compare_take settings ht hc]
    congr
    funext v
    exact if_neg differ
  · intro target' candidate' shared same same'
    have pos := List.length_pos_iff.mpr ht
    have pos' := List.length_pos_iff.mpr hc
    have target_ne : target'.events ≠ [] := List.ne_nil_of_length_pos (by omega)
    have candidate_ne : candidate'.events ≠ [] := List.ne_nil_of_length_pos (by omega)
    rw [compare_take settings ht hc, compare_take settings target_ne candidate_ne,
      credit_withLengths, credit_withLengths, shared]
    have target_eq : (target'.take m).events = (target.take m).events := same
    have candidate_eq : (candidate'.take m).events = (candidate.take m).events := same'
    rw [compare_of_events settings target_eq candidate_eq]

/-- The candidate goes on behind the end of the target, after a gap that is wrong. -/
theorem partial_credit_is_common_part_blink :
    let blink : Sequence :=
      ⟨[⟨0, 13, true, .digital, .loop, none⟩, ⟨1000, 13, false, .digital, .loop, none⟩], 1000, true⟩
    let longer : Sequence :=
      ⟨[⟨70, 13, true, .digital, .loop, none⟩, ⟨1170, 12, false, .digital, .loop, none⟩,
        ⟨9000, 12, true, .digital, .loop, none⟩], 9000, true⟩
    blink.events.length ≠ longer.events.length ∧
      (compare ({} : CompareSettings Rat) blink longer none).outcome =
        .ok ⟨false, 68, [.lengths 2 3, .gaps 0 13 1000 1100, .pins 1 13 12], ⟨1, 1, 2, 2, 2⟩⟩ := by
  intro blink longer
  have cut : (compare ({} : CompareSettings Rat) (blink.take 2) (longer.take 2) none).outcome =
      .ok ⟨false, 68, [.gaps 0 13 1000 1100, .pins 1 13 12], ⟨1, 1, 2, 2, 2⟩⟩ := by
    decide +kernel
  have whole := (partial_credit_is_common_part ({} : CompareSettings Rat) blink longer none
    (by decide) (by decide) (by decide)).1
  refine ⟨by decide, whole.trans ?_⟩
  exact congrArg (Except.map _) cut

end Verdict

end SketchGrader
