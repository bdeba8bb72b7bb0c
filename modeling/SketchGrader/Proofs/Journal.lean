import SketchGrader.Proofs.Script

/-!
# The journal of a replay

A journal lists the statements that a replay executes, each with the events it gives. It says which
statements stand in front of an event, and so how much later the event comes when every statement
other than a wait is followed by a pause.
-/

namespace SketchGrader

/-- Whether a statement only waits. -/
def Statement.isWait : Statement → Bool
  | wait _ => true
  | _ => false

namespace Replay

theorem settle_of_not_wait {statement : Statement} (h : statement.isWait = false)
    (origin : Body) (s : State) (machine : Machine) :
    settle origin s machine statement =
      match statement.writtenPin? with
      | none => ([], { s with machine })
      | some pin => State.observe { s with machine } origin (.ofStatement statement) pin := by
  cases statement with
  | wait ms => cases h
  | _ => rfl

/-- An executed statement, its line, and what it gave: one event or none. -/
structure Entry where
  line : Int
  statement : Statement
  events : List Event
  deriving DecidableEq, Repr

/-- The entry of a line, if it is executed. -/
def entries (limits : Limits) (s : State) (cue : Cue) : List Entry :=
  match Statement.ofLine? cue.text with
  | .ok (some statement) =>
    match dropped? s.machine.board statement, s.machine.exec limits statement with
    | none, .ok machine => [⟨cue.number, statement, (settle cue.origin s machine statement).1⟩]
    | _, _ => []
  | _ => []

/-- The entries of a script, up to the line that ends the replay if there is one. -/
def journal (limits : Limits) (s : State) : List Cue → List Entry
  | [] => []
  | cue :: rest =>
    entries limits s cue ++
      match (line limits cue.origin s cue.number cue.text).result with
      | .ok s => journal limits s rest
      | .error _ => []

/-- The number of entries that are followed by a pause. -/
def paces (steps : List Entry) : Nat := steps.countP fun entry => !entry.statement.isWait

/-- The events of a journal, each with the number of statements other than waits in front of it,
where `before` of them stand in front of the journal. -/
def ranked (before : Nat) : List Entry → List (Nat × Event)
  | [] => []
  | entry :: rest => entry.events.map (before, ·) ++ ranked (before + paces [entry]) rest

/-- An event as it is delayed by the pauses in front of it. -/
def delayed (pause : Int) (r : Nat × Event) : Event := r.2.shift (pause * r.1)

@[simp] theorem paces_append (a b : List Entry) : paces (a ++ b) = paces a + paces b :=
  List.countP_append

@[simp] theorem ranked_append (before : Nat) (a b : List Entry) :
    ranked before (a ++ b) = ranked before a ++ ranked (before + paces a) b := by
  induction a generalizing before with
  | nil => rfl
  | cons entry rest ih =>
      have h : paces (entry :: rest) = paces [entry] + paces rest := paces_append [entry] rest
      simp only [List.cons_append, ranked, ih, h, List.append_assoc, Nat.add_assoc]

theorem ranked_prefix {a b : List Entry} (h : a <+: b) (before : Nat) :
    ranked before a <+: ranked before b := by
  obtain ⟨rest, rfl⟩ := h
  exact ⟨_, (ranked_append before a rest).symm⟩

@[simp] theorem map_snd_ranked (before : Nat) (steps : List Entry) :
    (ranked before steps).map (·.2) = steps.flatMap (·.events) := by
  induction steps generalizing before with
  | nil => rfl
  | cons entry rest ih => simp [ranked, ih, Function.comp_def]

theorem map_delayed_zero (steps : List (Nat × Event)) :
    steps.map (delayed 0) = steps.map (·.2) := by
  simp [delayed, Event.shift]

@[simp] theorem entries_events (limits : Limits) (s : State) (cue : Cue) :
    (entries limits s cue).flatMap (·.events) =
      (line limits cue.origin s cue.number cue.text).events := by
  unfold entries line
  cases Statement.ofLine? cue.text with
  | error problem => rfl
  | ok found =>
      cases found with
      | none => rfl
      | some statement =>
          cases hd : dropped? s.machine.board statement with
          | some pin => simp only [hd, List.flatMap_nil]
          | none =>
              cases he : s.machine.exec limits statement with
              | error problem => simp only [hd, he, List.flatMap_nil]
              | ok machine => simp only [hd, he, List.flatMap_cons, List.flatMap_nil, List.append_nil]

theorem entries_cases (limits : Limits) (s : State) (cue : Cue) :
    entries limits s cue = [] ∨ ∃ entry, entries limits s cue = [entry] := by
  unfold entries
  split
  next =>
    split
    next => exact .inr ⟨_, rfl⟩
    next => exact .inl rfl
  next => exact .inl rfl

theorem ranked_entries (limits : Limits) (s : State) (cue : Cue) (before : Nat) :
    ranked before (entries limits s cue) =
      (line limits cue.origin s cue.number cue.text).events.map (before, ·) := by
  rw [← entries_events]
  obtain h | ⟨entry, h⟩ := entries_cases limits s cue
  · rw [h]
    rfl
  · simp [h, ranked]

theorem journal_events (limits : Limits) (s : State) (cues : List Cue) :
    (journal limits s cues).flatMap (·.events) = (follow limits s cues).events := by
  induction cues generalizing s with
  | nil => rfl
  | cons cue rest ih =>
      rw [journal, follow, List.flatMap_append, entries_events]
      cases hp : (line limits cue.origin s cue.number cue.text).result with
      | error halt => rw [andThen_of_error hp, List.flatMap_nil, List.append_nil]
      | ok t => rw [andThen_of_ok hp, ih]

/-! ## Order -/

/-- The statements in front of an event are not fewer than those in front of an earlier one. -/
theorem ranked_sorted (before : Nat) (steps : List Entry) :
    (ranked before steps).Pairwise (fun a b => a.1 ≤ b.1) ∧
      ∀ r ∈ ranked before steps, before ≤ r.1 := by
  induction steps generalizing before with
  | nil => simp [ranked]
  | cons entry rest ih =>
      obtain ⟨sorted, later⟩ := ih (before + paces [entry])
      have now : ∀ r ∈ entry.events.map (before, ·), r.1 = before := by
        intro r h
        obtain ⟨event, -, rfl⟩ := List.mem_map.mp h
        rfl
      rw [ranked, List.pairwise_append, List.forall_mem_append]
      refine ⟨⟨?_, sorted, ?_⟩, ?_, ?_⟩
      · apply List.pairwise_of_forall_mem_list
        intro a ha b hb
        exact Nat.le_of_eq ((now a ha).trans (now b hb).symm)
      · intro a ha b hb
        have hb' := later b hb
        rw [now a ha]
        omega
      · intro r h
        exact Nat.le_of_eq (now r h).symm
      · intro r h
        have := later r h
        omega

theorem rank_le_next {before : Nat} {steps : List Entry} {i : Nat} {a b : Nat × Event}
    (ha : (ranked before steps)[i]? = some a) (hb : (ranked before steps)[i + 1]? = some b) :
    a.1 ≤ b.1 := by
  obtain ⟨hi, rfl⟩ := List.getElem?_eq_some_iff.mp ha
  obtain ⟨hj, rfl⟩ := List.getElem?_eq_some_iff.mp hb
  exact List.pairwise_iff_getElem.mp (ranked_sorted before steps).1 i (i + 1) hi hj (by omega)

theorem line_clock_le {limits : Limits} {origin : Body} {s s' : State} {number : Int}
    {text : Text} (h : (line limits origin s number text).result = .ok s') :
    s.clock ≤ s'.clock := by
  obtain ⟨-, -, rfl⟩ | ⟨e, he, htake⟩ := line_ok h
  · exact Int.le_refl _
  · have hc : s'.clock = s.clock + e.duration := by rw [← take_clock s origin e, htake]
    have hd := he.duration_nonneg
    omega

/-- Delayed events come in the order of time: the clock and the pauses only grow. -/
theorem delayed_journal_sorted (limits : Limits) {pause : Int} (hpause : 0 ≤ pause)
    (s : State) (cues : List Cue) (before : Nat) :
    ((ranked before (journal limits s cues)).map (delayed pause)).Pairwise
        (fun a b => a.time ≤ b.time) ∧
      ∀ event ∈ (ranked before (journal limits s cues)).map (delayed pause),
        s.clock + pause * before ≤ event.time := by
  induction cues generalizing s before with
  | nil => simp [journal, ranked]
  | cons cue rest ih =>
      have now : ∀ event ∈ (ranked before (entries limits s cue)).map (delayed pause),
          event.time = s.clock + pause * before := by
        intro event h
        simp only [ranked_entries, List.map_map, List.mem_map, Function.comp_apply] at h
        obtain ⟨given, hgiven, rfl⟩ := h
        simp only [delayed, Event.shift, line_time hgiven]
      have first : ((ranked before (entries limits s cue)).map (delayed pause)).Pairwise
          (fun a b => a.time ≤ b.time) := by
        apply List.pairwise_of_forall_mem_list
        intro a ha b hb
        exact Int.le_of_eq ((now a ha).trans (now b hb).symm)
      simp only [journal, ranked_append, List.map_append, List.pairwise_append,
        List.forall_mem_append]
      cases hp : (line limits cue.origin s cue.number cue.text).result with
      | error halt =>
          refine ⟨⟨first, by simp [ranked], by simp [ranked]⟩, ?_, by simp [ranked]⟩
          intro event h
          exact Int.le_of_eq (now event h).symm
      | ok t =>
          obtain ⟨sorted, later⟩ := ih t (before + paces (entries limits s cue))
          have hc := line_clock_le hp
          have hk : pause * before ≤ pause * (before + paces (entries limits s cue) : Nat) :=
            Int.mul_le_mul_of_nonneg_left (by omega) hpause
          refine ⟨⟨first, sorted, ?_⟩, ?_, ?_⟩
          · intro a ha b hb
            have hb' := later b hb
            rw [now a ha]
            omega
          · intro event h
            exact Int.le_of_eq (now event h).symm
          · intro event h
            have := later event h
            omega

theorem follow_sorted (limits : Limits) (s : State) (cues : List Cue) :
    (follow limits s cues).events.Pairwise (fun a b => a.time ≤ b.time) ∧
      ∀ event ∈ (follow limits s cues).events, s.clock ≤ event.time := by
  have h := delayed_journal_sorted limits (Int.le_refl 0) s cues 0
  rw [map_delayed_zero, map_snd_ranked, journal_events] at h
  simpa using h

end Replay

end SketchGrader
