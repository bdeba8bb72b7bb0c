import Mathlib.Data.List.Basic
import Mathlib.Data.List.Induction
import SketchGrader.Proofs.LiveAgreement
import SketchGrader.Proofs.StopBoundary

/-!
# What a recorder keeps

A recorder is called in any order, and its clock may show anything at each call. Which events it
keeps, and with which times, can be read off the calls: an event is kept if it was passed while
recording and no later call forgot it, and its time is that since the last start, or 0 if the start
has been forgotten.
-/

namespace SketchGrader

namespace Recorder

/-- A call on a recorder. -/
inductive Call where
  | start
  | stop
  | clear
  | elapsed
  | record (event : Event)
  | build
  deriving DecidableEq, Repr

/-- A call, and the clock as the call finds it. -/
structure Visit where
  clock : Clock
  call : Call
  deriving DecidableEq, Repr

/-- The recorder after a call. Asking for the time or for the sequence does not change it. -/
def after (r : Recorder) (v : Visit) : Recorder :=
  match v.call with
  | .start => (r.start v.clock).1
  | .stop => r.stop
  | .clear => r.clear
  | .record event => (r.record v.clock event).2.1
  | .elapsed | .build => r

/-- A fresh recorder after a list of calls. -/
def afterAll (visits : List Visit) : Recorder := visits.foldl after {}

theorem afterAll_snoc (visits : List Visit) (v : Visit) :
    afterAll (visits ++ [v]) = (afterAll visits).after v := by
  rw [afterAll, List.foldl_append]
  rfl

/-! ## The calls -/

/-- Whether a call begins or ends the recording. -/
def Visit.switches? (v : Visit) : Option Bool :=
  match v.call with
  | .start => some true
  | .stop => some false
  | _ => none

/-- The start that a call sets or forgets. -/
def Visit.begins? (v : Visit) : Option (Option Int) :=
  match v.call with
  | .start => some (some v.clock.now)
  | .clear => some none
  | _ => none

/-- Whether a call forgets all events so far. -/
def Visit.forgets (v : Visit) : Bool := v.begins?.isSome

/-- Whether events are recorded after a list of calls. -/
def recording (visits : List Visit) : Bool := (latest Visit.switches? visits).getD false

/-- The time of the last start, unless it has been forgotten. -/
def begun (visits : List Visit) : Option Int := (latest Visit.begins? visits).join

/-- The time that a clock shows since the last start, 0 if there is none. -/
def since (visits : List Visit) (clock : Clock) : Int :=
  ((begun visits).map fun start => clock.now - start).getD 0

/-- The event that a call passes to a recording, with the time since the start. -/
def Visit.stamped? (before : List Visit) (v : Visit) : Option Event :=
  match v.call with
  | .record event =>
    if recording before then some { event with time := since before v.clock } else none
  | _ => none

/-- The event of the call at an index, unless a later call forgot it. -/
def noted? (visits : List Visit) (i : Nat) : Option Event :=
  if (visits.drop (i + 1)).any Visit.forgets then none
  else visits[i]?.bind (Visit.stamped? (visits.take i))

/-- The events that are kept, in the order in which they were passed. -/
def noted (visits : List Visit) : List Event :=
  (List.range visits.length).filterMap (noted? visits)

theorem recording_snoc (visits : List Visit) (v : Visit) :
    recording (visits ++ [v]) = v.switches?.getD (recording visits) := by
  rw [recording, latest_append, latest_singleton, Option.getD_or]
  rfl

theorem begun_snoc (visits : List Visit) (v : Visit) :
    begun (visits ++ [v]) = v.begins?.getD (begun visits) := by
  rw [begun, latest_append, latest_singleton]
  cases v.begins? <;> rfl

theorem noted?_snoc {visits : List Visit} {i : Nat} (inside : i < visits.length) (v : Visit) :
    noted? (visits ++ [v]) i = if v.forgets then none else noted? visits i := by
  have behind : (visits ++ [v]).drop (i + 1) = visits.drop (i + 1) ++ [v] :=
    List.drop_append_of_le_length inside
  rw [noted?, noted?, behind, List.any_append, List.getElem?_append_left inside,
    List.take_append_of_le_length (Nat.le_of_lt inside)]
  cases (visits.drop (i + 1)).any Visit.forgets <;> cases forgets : v.forgets <;> simp [forgets]

theorem noted?_length (visits : List Visit) (v : Visit) :
    noted? (visits ++ [v]) visits.length = v.stamped? visits := by
  have last : (visits ++ [v]).drop (visits.length + 1) = [] :=
    List.drop_eq_nil_of_le (Nat.le_of_eq (List.length_append.trans rfl))
  rw [noted?, last, List.getElem?_concat_length, List.take_left]
  rfl

/-- A call that forgets leaves nothing of what was there; every call adds what it passes to a
recording. -/
theorem noted_snoc (visits : List Visit) (v : Visit) :
    noted (visits ++ [v]) =
      (if v.forgets then [] else noted visits) ++ (v.stamped? visits).toList := by
  have earlier : (List.range visits.length).filterMap (noted? (visits ++ [v])) =
      if v.forgets then [] else noted visits := by
    have kept : (List.range visits.length).filterMap (noted? (visits ++ [v])) =
        (List.range visits.length).filterMap fun i =>
          if v.forgets then none else noted? visits i :=
      List.filterMap_congr fun i hi => noted?_snoc (List.mem_range.mp hi) v
    rw [kept]
    cases v.forgets with
    | true => exact List.filterMap_eq_nil_iff.mpr fun _ _ => rfl
    | false => rfl
  rw [noted, List.length_append, List.length_singleton, List.range_succ, List.filterMap_append,
    earlier, List.filterMap_cons, noted?_length]
  cases v.stamped? visits <;> rfl

/-! ## The recorder -/

theorem elapsed_fst (r : Recorder) (clock : Clock) :
    (r.elapsed clock).1 = (r.startedAt.map fun start => clock.now - start).getD 0 := by
  rw [elapsed]
  cases r.startedAt <;> rfl

theorem after_record (r : Recorder) (clock : Clock) (event : Event) :
    r.after ⟨clock, .record event⟩ =
      if r.isRecording then
        { r with events := r.events ++ [{ event with time := (r.elapsed clock).1 }] }
      else r := by
  have time : event.time + ((r.elapsed clock).1 - event.time) = (r.elapsed clock).1 := by omega
  change (r.record clock event).2.1 = _
  unfold record
  split_ifs
  · simp only [Event.shift, time]
  · rfl

/-- A recorder is in the state that belongs to a list of calls. -/
structure Tracks (r : Recorder) (visits : List Visit) : Prop where
  recording_eq : r.isRecording = recording visits
  begun_eq : r.startedAt = begun visits
  events_eq : r.events = noted visits

theorem Tracks.elapsed_eq {r : Recorder} {visits : List Visit} (h : r.Tracks visits)
    (clock : Clock) : (r.elapsed clock).1 = since visits clock := by
  rw [elapsed_fst, since, h.begun_eq]

theorem Tracks.events_record {r : Recorder} {visits : List Visit} (h : r.Tracks visits)
    (clock : Clock) (event : Event) :
    (r.after ⟨clock, .record event⟩).events =
      noted visits ++ (Visit.stamped? visits ⟨clock, .record event⟩).toList := by
  rw [after_record, Visit.stamped?, ← h.recording_eq, ← h.events_eq, ← h.elapsed_eq]
  cases r.isRecording with
  | true => rfl
  | false => exact (List.append_nil _).symm

theorem tracks_after {r : Recorder} {visits : List Visit} (h : r.Tracks visits) (v : Visit) :
    (r.after v).Tracks (visits ++ [v]) := by
  have recording_eq := recording_snoc visits v
  have begun_eq := begun_snoc visits v
  have events_eq := noted_snoc visits v
  rw [← h.recording_eq] at recording_eq
  rw [← h.begun_eq] at begun_eq
  obtain ⟨clock, call⟩ := v
  cases call with
  | start => exact ⟨recording_eq.symm, begun_eq.symm, events_eq.symm⟩
  | clear => exact ⟨recording_eq.symm, begun_eq.symm, events_eq.symm⟩
  | record event =>
      refine ⟨?_, ?_, (h.events_record clock event).trans events_eq.symm⟩
      · rw [recording_eq, after_record]
        split_ifs <;> rfl
      · rw [begun_eq, after_record]
        split_ifs <;> rfl
  | _ =>
      rw [← h.events_eq] at events_eq
      exact ⟨recording_eq.symm, begun_eq.symm, (events_eq.trans (List.append_nil _)).symm⟩

theorem tracks_afterAll (visits : List Visit) : (afterAll visits).Tracks visits := by
  induction visits using List.reverseRecOn with
  | nil => exact ⟨rfl, rfl, rfl⟩
  | append_singleton visits v ih =>
      rw [afterAll_snoc]
      exact tracks_after ih v

/-! ## Clocks that do not go backwards -/

/-- What holds of a recorder while its clock only goes forwards, up to the time it shows. -/
structure Steady (r : Recorder) (now : Int) : Prop where
  started : ∀ start ∈ r.startedAt, start ≤ now
  nonneg : ∀ e ∈ r.events, 0 ≤ e.time
  passed : ∀ e ∈ r.events, e.time ≤ (r.startedAt.map fun start => now - start).getD 0
  sorted : r.events.Pairwise fun a b => a.time ≤ b.time

theorem Steady.later {r : Recorder} {now now' : Int} (h : r.Steady now) (le : now ≤ now') :
    r.Steady now' := by
  refine ⟨fun start hs => Int.le_trans (h.started start hs) le, h.nonneg, ?_, h.sorted⟩
  intro e he
  have passed := h.passed e he
  cases hs : r.startedAt with
  | none => rwa [hs] at passed
  | some start =>
      rw [hs] at passed
      simp only [Option.map_some, Option.getD_some] at passed ⊢
      omega

theorem Steady.elapsed_nonneg {r : Recorder} {clock : Clock} (h : r.Steady clock.now) :
    0 ≤ (r.elapsed clock).1 := by
  rw [elapsed_fst]
  cases hs : r.startedAt with
  | none => exact Int.le_refl 0
  | some start =>
      have started := h.started start hs
      simp only [Option.map_some, Option.getD_some]
      omega

theorem steady_after {r : Recorder} {v : Visit} (h : r.Steady v.clock.now) :
    (r.after v).Steady v.clock.now := by
  obtain ⟨clock, call⟩ := v
  cases call with
  | start => exact ⟨fun _ hs => Int.le_of_eq (Option.some.inj hs).symm, nofun, nofun, .nil⟩
  | stop => exact ⟨h.started, h.nonneg, h.passed, h.sorted⟩
  | clear => exact ⟨nofun, nofun, nofun, .nil⟩
  | record event =>
      have elapsed := elapsed_fst r clock
      rw [after_record]
      split_ifs
      · refine ⟨h.started, ?_, ?_, ?_⟩
        · exact List.forall_mem_append.mpr ⟨h.nonneg,
            List.forall_mem_singleton.mpr h.elapsed_nonneg⟩
        · exact List.forall_mem_append.mpr ⟨h.passed,
            List.forall_mem_singleton.mpr (Int.le_of_eq elapsed)⟩
        · refine List.pairwise_append.mpr ⟨h.sorted, List.pairwise_singleton _ _, ?_⟩
          intro e he last hlast
          cases List.mem_singleton.mp hlast
          exact elapsed ▸ h.passed e he
      · exact h
  | elapsed => exact h
  | build => exact h

theorem steady_afterAll {visits : List Visit}
    (forwards : visits.Pairwise fun v w => v.clock.now ≤ w.clock.now) {now : Int}
    (reached : ∀ v ∈ visits, v.clock.now ≤ now) : (afterAll visits).Steady now := by
  induction visits using List.reverseRecOn generalizing now with
  | nil => exact ⟨nofun, nofun, nofun, .nil⟩
  | append_singleton visits v ih =>
      obtain ⟨forwards, -, before⟩ := List.pairwise_append.mp forwards
      have here : (afterAll visits).Steady v.clock.now :=
        ih forwards fun w hw => before w hw v (List.mem_singleton_self v)
      rw [afterAll_snoc]
      exact (steady_after here).later (reached v (by simp))

theorem exists_steady {visits : List Visit}
    (forwards : visits.Pairwise fun v w => v.clock.now ≤ w.clock.now) :
    ∃ now, (afterAll visits).Steady now := by
  obtain rfl | ⟨before, last, rfl⟩ := visits.eq_nil_or_concat'
  · exact ⟨0, steady_afterAll .nil nofun⟩
  · refine ⟨last.clock.now, steady_afterAll forwards ?_⟩
    refine List.forall_mem_append.mpr ⟨?_, List.forall_mem_singleton.mpr (Int.le_refl _)⟩
    intro v hv
    exact (List.pairwise_append.mp forwards).2.2 v hv last (List.mem_singleton_self last)

/-! ## The sequence -/

theorem le_lastTime {events : List Event} (sorted : events.Pairwise fun a b => a.time ≤ b.time)
    {e : Event} (h : e ∈ events) : e.time ≤ Replay.lastTime events := by
  induction events using List.reverseRecOn with
  | nil => cases h
  | append_singleton events last _ =>
      rw [Replay.lastTime, List.getLast?_concat]
      obtain h | h := List.mem_append.mp h
      · exact (List.pairwise_append.mp sorted).2.2 e h last (List.mem_singleton_self last)
      · cases List.mem_singleton.mp h
        exact Int.le_refl _

theorem exists_lastTime {events : List Event} (h : events ≠ []) :
    ∃ e ∈ events, e.time = Replay.lastTime events := by
  refine ⟨_, List.getLast_mem h, ?_⟩
  rw [Replay.lastTime, List.getLast?_eq_some_getLast h]
  rfl

/-- A recorder neither loses, doubles nor reorders events. Whatever the calls and whatever the clock
shows, its sequence has the events that were passed while recording since the last start or clear,
with nothing but their times changed, in the order of time; its duration is the largest time. If the
clock does not go backwards no time is negative, and the events are in the order in which they were
passed. -/
theorem recorder_keeps_events (visits : List Visit) :
    let sequence := (afterAll visits).sequence
    Live.StablyOrdered (noted visits) sequence.events ∧
      (noted visits = [] → sequence.totalMs = 0) ∧
      (noted visits ≠ [] → ∃ e ∈ noted visits, e.time = sequence.totalMs) ∧
      (∀ e ∈ noted visits, e.time ≤ sequence.totalMs) ∧
      (visits.Pairwise (fun v w => v.clock.now ≤ w.clock.now) →
        (∀ e ∈ noted visits, 0 ≤ e.time) ∧ sequence.events = noted visits) := by
  intro sequence
  have events := (tracks_afterAll visits).events_eq
  have ordered : Live.StablyOrdered (noted visits) sequence.events :=
    events ▸ Live.sequence_stablyOrdered (afterAll visits)
  have mem {e : Event} : e ∈ sequence.events ↔ e ∈ noted visits := ordered.perm.mem_iff
  refine ⟨ordered, ?_, ?_, ?_, ?_⟩
  · intro none
    have empty : sequence.events = [] := (none ▸ ordered.perm).eq_nil
    exact congrArg Replay.lastTime empty
  · intro some
    have full : sequence.events ≠ [] := fun empty => some (empty ▸ ordered.perm).symm.eq_nil
    obtain ⟨e, he, last⟩ := exists_lastTime full
    exact ⟨e, mem.mp he, last⟩
  · intro e he
    exact le_lastTime ordered.sorted (mem.mpr he)
  · intro forwards
    obtain ⟨now, steady⟩ := exists_steady forwards
    have kept : sequence.events = (afterAll visits).events := by
      rw [show sequence = _ from Live.sequence_of_sorted steady.sorted]
    exact ⟨events ▸ steady.nonneg, kept.trans events⟩

/-- The clear during a recording forgets the first event and the time of the start but not that there
is a recording, so the events behind it have the time 0, and the one behind the stop is not kept. -/
theorem recorder_keeps_events_cleared :
    let lamp (on : Bool) : Event := ⟨999, 13, on, .digital, .loop, none⟩
    let visits : List Visit := [⟨⟨5000, 1⟩, .start⟩, ⟨⟨5120, 1⟩, .record (lamp true)⟩,
      ⟨⟨5130, 1⟩, .clear⟩, ⟨⟨5140, 1⟩, .record (lamp false)⟩, ⟨⟨5140, 1⟩, .elapsed⟩,
      ⟨⟨5150, 1⟩, .record (lamp true)⟩, ⟨⟨5160, 1⟩, .stop⟩, ⟨⟨5170, 1⟩, .record (lamp false)⟩,
      ⟨⟨5180, 1⟩, .build⟩]
    visits.Pairwise (fun v w => v.clock.now ≤ w.clock.now) ∧
      noted visits = [{ lamp false with time := 0 }, { lamp true with time := 0 }] ∧
      (afterAll visits).sequence.events = noted visits := by
  intro lamp visits
  have forwards : visits.Pairwise fun v w => v.clock.now ≤ w.clock.now := by decide
  exact ⟨forwards, by decide, ((recorder_keeps_events visits).2.2.2.2 forwards).2⟩

end Recorder

end SketchGrader
