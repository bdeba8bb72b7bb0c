import SketchGrader.Proofs.Script

/-!
# What is remembered of a pin

A replay remembers how a pin looked when it last gave an event. Only writes to a pin change its
look, and every write is observed, so what is remembered of a pin is how it looks now.
-/

namespace SketchGrader

@[simp] theorem Emission.get?_set (memory : Emission) (pin q : Int) (look : Bool × Option Int) :
    (memory.set pin look).get? q = if q = pin then some look else memory.get? q := by
  obtain ⟨entries⟩ := memory
  by_cases hq : q = pin
  · simp [Emission.get?, Emission.set, hq]
  · have hp : (pin == q) = false := by simpa using Ne.symm hq
    simp only [Emission.get?, Emission.set, List.find?_cons, hp, hq, if_false]
    induction entries with
    | nil => rfl
    | cons entry rest ih =>
        by_cases hb : (entry.1 == q) = true
        · have kept : (entry.1 != pin) = true := by
            rw [beq_iff_eq.mp hb]
            simpa using hq
          simp [kept, hb]
        · by_cases kept : (entry.1 != pin) = true
          · simpa [kept, hb] using ih
          · simpa [kept, hb] using ih

/-- Only writes to a pin change its look. -/
theorem Effect.appearance_onPin {q : Int} {e : Effect} (h : e.writes q = false) (s : PinState) :
    (e.onPin q s).appearance = s.appearance := by
  obtain ⟨direction, hd⟩ := e.onPin_of_quiet h s
  rw [hd]
  rfl

namespace Replay

/-- The look of a pin, if it is usable. -/
def State.look? (s : State) (q : Int) : Option (Bool × Option Int) :=
  (s.machine.board.get? q).map PinState.appearance

theorem get?_observe (s : State) (origin : Body) (kind : EventKind) (pin q : Int) :
    (s.observe origin kind pin).2.emission.get? q =
      if q = pin then (s.look? q).or (s.emission.get? q) else s.emission.get? q := by
  cases hs : s.machine.board.get? pin with
  | none =>
      rw [observe_of_none hs]
      split_ifs with hq
      · simp [State.look?, hq, hs]
      · rfl
  | some state =>
      rw [observe_of_some hs]
      by_cases same : s.emission.get? pin = some state.appearance
      · rw [if_pos same]
        split_ifs with hq
        · simp [State.look?, hq, hs, same]
        · rfl
      · rw [if_neg same, Emission.get?_set]
        split_ifs with hq
        · simp [State.look?, hq, hs]
        · rfl

/-- After a write the look of the pin is remembered. -/
theorem get?_take (s : State) (origin : Body) (e : Effect) (q : Int) :
    (s.take origin e).2.emission.get? q =
      if e.writes q then ((s.take origin e).2.look? q).or (s.emission.get? q)
      else s.emission.get? q := by
  simp only [State.look?, machine_take]
  cases e with
  | level pin on =>
      rw [State.take, get?_observe]
      simp [Effect.writes, State.look?]
  | drive pin pwm duty =>
      rw [State.take, get?_observe]
      simp [Effect.writes, State.look?]
  | _ => rfl

theorem look?_take_of_quiet {e : Effect} {q : Int} (h : e.writes q = false) (s : State)
    (origin : Body) : (s.take origin e).2.look? q = s.look? q := by
  simp only [State.look?, machine_take, Machine.get?_after, Option.map_map]
  congr 1
  funext state
  exact Effect.appearance_onPin h state

/-- What is remembered of the pins is how they look. -/
def State.Current (s : State) : Prop :=
  ∀ q look, s.emission.get? q = some look → s.look? q = some look

theorem current_start (usable : List Int) : (start usable).Current := by
  intro q look h
  cases h

theorem current_take {s : State} (h : s.Current) (origin : Body) (e : Effect) :
    (s.take origin e).2.Current := by
  intro q look remembered
  rw [get?_take] at remembered
  split_ifs at remembered with hw
  · cases hl : (s.take origin e).2.look? q with
    | some now =>
        rw [hl] at remembered
        exact remembered
    | none =>
        rw [hl, Option.none_or] at remembered
        have before := h q look remembered
        simp only [State.look?, machine_take, Machine.get?_after, Option.map_eq_none_iff] at hl
        simp [State.look?, hl] at before
  · rw [look?_take_of_quiet (by simpa using hw)]
    exact h q look remembered

theorem current_takeAll {s : State} (h : s.Current) (acts : List Act) :
    (s.takeAll acts).2.Current := by
  induction acts generalizing s with
  | nil => exact h
  | cons act rest ih => exact ih (current_take h act.1 act.2)

theorem current_follow {limits : Limits} {s s' : State} (h : s.Current) {cues : List Cue}
    (hs : (follow limits s cues).result = .ok s') : s'.Current := by
  obtain ⟨acts, -, htake⟩ := follow_ok hs
  have current := current_takeAll h acts
  rwa [htake] at current

theorem takeAll_of_quiet {q : Int} {acts : List Act}
    (h : ∀ act ∈ acts, act.2.writes q = false) (s : State) :
    (s.takeAll acts).2.emission.get? q = s.emission.get? q ∧
      (s.takeAll acts).2.look? q = s.look? q := by
  induction acts generalizing s with
  | nil => exact ⟨rfl, rfl⟩
  | cons act rest ih =>
      obtain ⟨quiet, later⟩ := List.forall_mem_cons.mp h
      obtain ⟨memory, look⟩ := ih later (s.take act.1 act.2).2
      refine ⟨memory.trans ?_, look.trans (look?_take_of_quiet quiet s act.1)⟩
      simp [get?_take, quiet]

theorem memory_of_written {s : State} (h : s.Current) {q : Int} {acts : List Act}
    (written : ∃ act ∈ acts, act.2.writes q = true) :
    (s.takeAll acts).2.emission.get? q = (s.takeAll acts).2.look? q := by
  induction acts generalizing s with
  | nil => simp at written
  | cons act rest ih =>
      have current := current_take h act.1 act.2
      by_cases later : ∃ other ∈ rest, other.2.writes q = true
      · exact ih current later
      · have hw : act.2.writes q = true := by
          obtain ⟨other, hmem, hw⟩ := written
          obtain rfl | hmem := List.mem_cons.mp hmem
          · exact hw
          · exact (later ⟨other, hmem, hw⟩).elim
        have quiet : ∀ other ∈ rest, other.2.writes q = false := by simpa using later
        obtain ⟨memory, look⟩ := takeAll_of_quiet quiet (s.take act.1 act.2).2
        refine memory.trans (Eq.trans ?_ look.symm)
        have remembered := get?_take s act.1 act.2 q
        rw [if_pos hw] at remembered
        cases hl : (s.take act.1 act.2).2.look? q with
        | some now => rw [remembered, hl, Option.some_or]
        | none =>
            cases hm : (s.take act.1 act.2).2.emission.get? q with
            | none => rfl
            | some look => exact (current q look hm).symm.trans hl

end Replay

end SketchGrader
