import SketchGrader.Proofs.Appearance
import SketchGrader.Proofs.Journal

/-!
# The timeline as a change log

At every moment of a replay the last event of a pin tells whether the pin is on, and with which duty
while a pulse width drives it. The invariant speaks of three things for each pin: its state, what is
remembered of it, and its last event. A pin without an event has never been switched on.
-/

namespace SketchGrader

/-- The last event of a pin. -/
def lastEvent? (q : Int) (events : List Event) : Option Event :=
  (events.filter fun event => event.pin == q).getLast?

theorem lastEvent?_append (q : Int) (a b : List Event) :
    lastEvent? q (a ++ b) = (lastEvent? q b).or (lastEvent? q a) := by
  rw [lastEvent?, List.filter_append, List.getLast?_append]
  rfl

theorem lastEvent?_of_forall_ne {q : Int} {events : List Event}
    (h : ∀ event ∈ events, event.pin ≠ q) : lastEvent? q events = none := by
  have empty : events.filter (fun event => event.pin == q) = [] := by
    rw [List.filter_eq_nil_iff]
    intro event hmem
    simpa using h event hmem
  rw [lastEvent?, empty, List.getLast?_nil]

namespace PinState

theorem isOn_eq_of_appearance {s s' : PinState} (h : s.appearance = s'.appearance) :
    s.isOn = s'.isOn :=
  congrArg Prod.fst h

theorem driven_of_appearance {s s' : PinState} (h : s.appearance = s'.appearance)
    (driven : 0 < s'.pwm) : 0 < s.pwm ∧ s.duty = s'.duty := by
  have look : (if 0 < s.pwm then some s.duty else none) =
      if 0 < s'.pwm then some s'.duty else none := congrArg Prod.snd h
  rw [if_pos driven] at look
  split_ifs at look with here
  exact ⟨here, Option.some.inj look⟩

/-- The digital level of a pin does not show while a pulse width drives it. -/
theorem appearance_level {s : PinState} (driven : 0 < s.pwm) (on : Bool) :
    ({ s with level := on } : PinState).appearance = s.appearance := by
  simp [appearance, isOn, driven]

end PinState

namespace Replay

/-- How the state of a pin, what is remembered of it and its last event belong together. -/
inductive Told (state : PinState) (memory : Option (Bool × Option Int)) : Option Event → Prop
  | untouched : memory = none → state.level = false → state.pwm ≤ 0 → Told state memory none
  | shown {event : Event} : memory = some state.appearance → event.isOn = state.isOn →
      (0 < state.pwm → event.kind = .pwm ∧ event.duty = some state.duty) →
        Told state memory (some event)

theorem Told.isOn_eq {state : PinState} {memory : Option (Bool × Option Int)}
    {last : Option Event} (h : Told state memory last) :
    state.isOn = (last.map (·.isOn)).getD false := by
  cases h with
  | untouched _ low undriven =>
      simpa [PinState.isOn, low] using undriven
  | shown _ on _ => exact on.symm

theorem Told.driven {state : PinState} {memory : Option (Bool × Option Int)}
    {last : Option Event} (h : Told state memory last) (driven : 0 < state.pwm) :
    memory = some state.appearance ∧
      ∃ event, last = some event ∧ event.kind = .pwm ∧ event.duty = some state.duty := by
  cases h with
  | untouched _ _ undriven => omega
  | shown remembered _ duty => exact ⟨remembered, _, rfl, duty driven⟩

theorem Told.of_appearance {state state' : PinState} {memory : Option (Bool × Option Int)}
    {last : Option Event} (h : Told state memory last)
    (look : memory = some state'.appearance) : Told state' memory last := by
  cases h with
  | untouched forgotten _ _ =>
      rw [forgotten] at look
      cases look
  | shown remembered on duty =>
      have same : state.appearance = state'.appearance :=
        Option.some.inj (remembered.symm.trans look)
      refine .shown look (on.trans (PinState.isOn_eq_of_appearance same)) ?_
      intro driven
      obtain ⟨driven', hduty⟩ := PinState.driven_of_appearance same driven
      obtain ⟨kind, hevent⟩ := duty driven'
      exact ⟨kind, by rw [hevent, hduty]⟩

/-- Every pin is told by its last event. -/
def Faithful (s : State) (events : List Event) : Prop :=
  ∀ q state, s.machine.board.get? q = some state →
    Told state (s.emission.get? q) (lastEvent? q events)

theorem faithful_start (usable : List Int) : Faithful (start usable) [] := by
  intro q state hs
  have fresh : state = {} := by
    have hb : (Board.ofPins usable).get? q = some state := hs
    rw [Board.get?_ofPins] at hb
    split_ifs at hb
    exact (Option.some.inj hb).symm
  subst fresh
  exact .untouched rfl rfl (Int.le_refl 0)

/-- A pin that has been written to is told by its last event again. A digital event is given only
where no pulse width drives the pin, as the look of a driven pin does not change by its level. -/
theorem told_observe {s : State} {origin : Body} {kind : EventKind} {pin : Int}
    {state state' : PinState} {events : List Event}
    (h : Told state (s.emission.get? pin) (lastEvent? pin events))
    (hs : s.machine.board.get? pin = some state')
    (hkind : 0 < state'.pwm → kind = .pwm ∨ s.emission.get? pin = some state'.appearance) :
    Told state' ((s.observe origin kind pin).2.emission.get? pin)
      (lastEvent? pin (events ++ (s.observe origin kind pin).1)) := by
  rw [observe_of_some hs]
  by_cases same : s.emission.get? pin = some state'.appearance
  · rw [if_pos same, List.append_nil]
    exact h.of_appearance same
  · have given : lastEvent? pin [eventOf s.clock origin kind pin state'] =
        some (eventOf s.clock origin kind pin state') := by
      simp [lastEvent?, eventOf]
    rw [if_neg same, lastEvent?_append, given, Option.some_or, Emission.get?_set, if_pos rfl]
    refine .shown rfl rfl ?_
    intro driven
    obtain rfl | unchanged := hkind driven
    · exact ⟨rfl, rfl⟩
    · exact (same unchanged).elim

theorem Told.redirect {state : PinState} {memory : Option (Bool × Option Int)}
    {last : Option Event} (h : Told state memory last) (direction : Direction) :
    Told { state with direction } memory last := by
  cases h with
  | untouched forgotten low undriven => exact .untouched forgotten low undriven
  | shown remembered on duty => exact .shown remembered on duty

/-- A level written to a pin that a pulse width drives is no change of its look. -/
theorem Faithful.remembers_level {s : State} {events : List Event} (h : Faithful s events)
    {pin : Int} {on : Bool} {state : PinState}
    (hs : (s.machine.after (.level pin on)).board.get? pin = some state)
    (driven : 0 < state.pwm) : s.emission.get? pin = some state.appearance := by
  rw [Machine.get?_after] at hs
  obtain ⟨before, hb, hstate⟩ := Option.map_eq_some_iff.mp hs
  have leveled : state = { before with level := on } := hstate.symm.trans (if_pos rfl)
  subst leveled
  have look := PinState.appearance_level (s := before) driven on
  exact ((h pin before hb).driven driven).1.trans (congrArg some look.symm)

theorem faithful_take {s : State} {events : List Event} (h : Faithful s events) (origin : Body)
    (e : Effect) : Faithful (s.take origin e).2 (events ++ (s.take origin e).1) := by
  intro q state' hs'
  rw [machine_take] at hs'
  obtain ⟨state, hs, hstate⟩ := Option.map_eq_some_iff.mp ((Machine.get?_after _ e q).symm.trans hs')
  have told := h q state hs
  by_cases hw : e.writes q = true
  · cases e with
    | level pin on =>
        obtain rfl : q = pin := by simpa [Effect.writes] using hw
        exact @told_observe { s with machine := s.machine.after (.level q on) } origin .digital q
          state state' events told hs' fun driven => .inr (h.remembers_level hs' driven)
    | drive pin pwm duty =>
        obtain rfl : q = pin := by simpa [Effect.writes] using hw
        exact @told_observe { s with machine := s.machine.after (.drive q pwm duty) } origin .pwm q
          state state' events told hs' fun _ => .inl rfl
    | _ => cases hw
  · -- An effect on something else gives no event of this pin and keeps its look.
    have quiet : e.writes q = false := by simpa using hw
    have none : lastEvent? q (s.take origin e).1 = none := by
      apply lastEvent?_of_forall_ne
      intro event hmem
      obtain ⟨pin, kind, other, written, -, -, rfl, -⟩ := mem_take hmem
      rintro rfl
      exact hw written
    obtain ⟨direction, hd⟩ := e.onPin_of_quiet quiet state
    rw [get?_take, if_neg hw, lastEvent?_append, none, Option.none_or, ← hstate, hd]
    exact told.redirect direction

theorem faithful_takeAll {s : State} {events : List Event} (h : Faithful s events)
    (acts : List Act) : Faithful (s.takeAll acts).2 (events ++ (s.takeAll acts).1) := by
  induction acts generalizing s events with
  | nil =>
      rw [State.takeAll, List.append_nil]
      exact h
  | cons act rest ih =>
      have later := ih (faithful_take h act.1 act.2)
      rw [List.append_assoc] at later
      exact later

theorem undriven_of_digital {s : State} {events : List Event} (h : Faithful s events)
    {origin : Body} {e : Effect} {event : Event} (given : event ∈ (s.take origin e).1)
    (digital : event.kind = .digital) :
    ∃ state, (s.take origin e).2.machine.board.get? event.pin = some state ∧ state.pwm ≤ 0 := by
  obtain ⟨pin, kind, state', -, hs', changed, rfl, hlevel⟩ := mem_take given
  obtain ⟨on, rfl⟩ := hlevel digital
  refine ⟨state', (machine_take s origin _).symm ▸ hs', ?_⟩
  by_contra driven
  exact changed (h.remembers_level hs' (by omega))

/-! ## Moments of a replay -/

theorem follow_prefix {a b : List Cue} (h : a <+: b) (limits : Limits) (s : State) :
    (follow limits s a).events <+: (follow limits s b).events := by
  obtain ⟨rest, rfl⟩ := h
  rw [follow_append]
  cases hp : (follow limits s a).result with
  | error halt => exact ⟨[], by rw [andThen_of_error hp, List.append_nil]⟩
  | ok t =>
      rw [andThen_of_ok hp]
      exact List.prefix_append _ _

/-- Every event of a replay is given by a line that the replay comes to. -/
theorem mem_follow {limits : Limits} {s : State} {cues : List Cue} {event : Event}
    (h : event ∈ (follow limits s cues).events) :
    ∃ done cue rest t, cues = done ++ cue :: rest ∧ (follow limits s done).result = .ok t ∧
      event ∈ (line limits cue.origin t cue.number cue.text).events := by
  induction cues generalizing s with
  | nil => cases h
  | cons cue cues ih =>
      rw [follow] at h
      cases hp : (line limits cue.origin s cue.number cue.text).result with
      | error halt =>
          rw [andThen_of_error hp] at h
          exact ⟨[], cue, cues, s, rfl, rfl, h⟩
      | ok t =>
          rw [andThen_of_ok hp] at h
          obtain here | later := List.mem_append.mp h
          · exact ⟨[], cue, cues, s, rfl, rfl, here⟩
          · obtain ⟨done, next, rest, t', rfl, ht', given⟩ := ih later
            refine ⟨cue :: done, next, rest, t', rfl, ?_, given⟩
            rw [follow, andThen_of_ok hp, ht']

theorem isSome_follow {limits : Limits} {s t : State} {cues : List Cue}
    (h : (follow limits s cues).result = .ok t) (q : Int) :
    (t.machine.board.get? q).isSome = (s.machine.board.get? q).isSome := by
  obtain ⟨acts, -, htake⟩ := follow_ok h
  have hm := machine_takeAll s acts
  rw [htake] at hm
  rw [hm, Machine.get?_afterAll, Option.isSome_map]

theorem isSome_start {usable : List Int} {q : Int} :
    ((start usable).machine.board.get? q).isSome ↔ q ∈ usable := by
  change ((Board.ofPins usable).get? q).isSome ↔ q ∈ usable
  rw [Board.get?_ofPins]
  split_ifs with h <;> simp [h]

theorem follow_usable {usable : List Int} {limits : Limits} {cues : List Cue} {event : Event}
    (h : event ∈ (follow limits (start usable) cues).events) : event.pin ∈ usable := by
  obtain ⟨done, cue, rest, t, -, ht, given⟩ := mem_follow h
  obtain ⟨e, he, -⟩ := mem_line given
  obtain ⟨pin, kind, state, -, hs, -, rfl, -⟩ := mem_take he
  rw [Machine.get?_after] at hs
  obtain ⟨before, hb, -⟩ := Option.map_eq_some_iff.mp hs
  apply isSome_start.mp
  rw [← isSome_follow ht]
  exact Option.isSome_of_mem hb

theorem script_ordered (p : Program) (count : Nat) :
    (p.script count).Pairwise fun a b => a.origin = .loop → b.origin = .loop := by
  have setups : ∀ cue ∈ p.cues .setup, cue.origin ≠ .loop := by
    intro cue hc
    obtain ⟨entry, -, rfl⟩ := List.mem_map.mp hc
    exact nofun
  have loops : ∀ cue ∈ (List.replicate count (p.cues .loop)).flatten, cue.origin = .loop := by
    intro cue hc
    obtain ⟨body, hbody, hc⟩ := List.mem_flatten.mp hc
    rw [List.eq_of_mem_replicate hbody] at hc
    obtain ⟨entry, -, rfl⟩ := List.mem_map.mp hc
    rfl
  rw [Program.script, List.pairwise_append]
  refine ⟨?_, ?_, ?_⟩
  · apply List.pairwise_of_forall_mem_list
    intro a ha b _ isLoop
    exact (setups a ha isLoop).elim
  · apply List.pairwise_of_forall_mem_list
    intro a _ b hb _
    exact loops b hb
  · intro a ha b _ isLoop
    exact (setups a ha isLoop).elim

theorem follow_ordered {limits : Limits} {s : State} {cues : List Cue}
    (h : cues.Pairwise fun a b => a.origin = .loop → b.origin = .loop) :
    (follow limits s cues).events.Pairwise fun a b => a.origin = .loop → b.origin = .loop := by
  induction cues generalizing s with
  | nil => exact .nil
  | cons cue cues ih =>
      obtain ⟨first, later⟩ := List.pairwise_cons.mp h
      have here : (line limits cue.origin s cue.number cue.text).events.Pairwise
          fun a b => a.origin = .loop → b.origin = .loop := by
        apply List.pairwise_of_forall_mem_list
        intro a ha b hb
        rw [line_origin ha, line_origin hb]
        exact id
      rw [follow]
      cases hp : (line limits cue.origin s cue.number cue.text).result with
      | error halt =>
          rw [andThen_of_error hp]
          exact here
      | ok t =>
          rw [andThen_of_ok hp]
          refine List.pairwise_append.mpr ⟨here, ih later, ?_⟩
          intro a ha b hb
          obtain ⟨done, next, rest, t', hcues, -, given⟩ := mem_follow hb
          rw [line_origin ha, line_origin given]
          exact first next (by simp [hcues])

/-- The events of a replay are a faithful change log of the board, at every moment of the replay:
after every initial part of its script that goes well. Each usable pin is on exactly if its last
event says so, and while a pulse width drives it the last event has its duty. A line never gives a
digital event for a pin that a pulse width drives. The events come in the order of time and of the
bodies, and only usable pins have any. -/
theorem timeline_is_change_log (usable : List Int) (limits : Limits) (p : Program)
    (iterations : Int) (done : List Cue) (s : State)
    (part : done <+: p.script (max 1 iterations).toNat)
    (hs : (follow limits (start usable) done).result = .ok s) :
    let events := (follow limits (start usable) done).events
    events <+: (run usable limits p (max 1 iterations).toNat).events ∧
    (∀ q ∈ usable, ∃ state, s.machine.board.get? q = some state ∧
      state.isOn = ((lastEvent? q events).map (·.isOn)).getD false ∧
      (0 < state.pwm → ∃ event, lastEvent? q events = some event ∧ event.kind = .pwm ∧
        event.duty = some state.duty)) ∧
    (∀ (cue : Cue) (s' : State), (line limits cue.origin s cue.number cue.text).result = .ok s' →
      ∀ event ∈ (line limits cue.origin s cue.number cue.text).events, event.kind = .digital →
        ∃ state, s'.machine.board.get? event.pin = some state ∧ state.pwm ≤ 0) ∧
    events.Pairwise (fun a b => a.time ≤ b.time) ∧
    (∀ event ∈ events, 0 ≤ event.time) ∧
    events.Pairwise (fun a b => a.origin = .loop → b.origin = .loop) ∧
    (∀ event ∈ events, event.pin ∈ usable) := by
  intro events
  have faithful : Faithful s events := by
    obtain ⟨acts, -, htake⟩ := follow_ok hs
    have h := faithful_takeAll (faithful_start usable) acts
    rwa [htake] at h
  obtain ⟨sorted, later⟩ := follow_sorted limits (start usable) done
  refine ⟨?_, ?_, ?_, sorted, later, ?_, ?_⟩
  · rw [run_eq_follow]
    exact follow_prefix part limits (start usable)
  · intro q hq
    have known := isSome_start.mpr hq
    rw [← isSome_follow hs] at known
    obtain ⟨state, hstate⟩ := Option.isSome_iff_exists.mp known
    have told := faithful q state hstate
    exact ⟨state, hstate, told.isOn_eq, fun driven => (told.driven driven).2⟩
  · intro cue s' hs' event given digital
    obtain ⟨e, he, hline⟩ := mem_line given
    rw [hs'] at hline
    cases hline
    exact undriven_of_digital faithful he digital
  · exact follow_ordered ((script_ordered p _).sublist part.sublist)
  · intro event h
    exact follow_usable h

/-- A sketch that writes a level to a pin that a pulse width drives. -/
def overdriven : Program :=
  { setupBody := "pinMode(9, OUTPUT);".toList
    loopBody := "setDutyCycle(9, 40);\ndigitalWrite(9, HIGH);\nsetDutyCycle(9, 0);".toList }

/-- After the level has been written the last event is still the one of the pulse width. -/
theorem timeline_is_change_log_overdriven :
    ∃ s : State, (follow {} (start [9]) ((overdriven.script 1).take 3)).result = .ok s ∧
      ∃ state, s.machine.board.get? 9 = some state ∧ state.level = true ∧ 0 < state.pwm ∧
        ∃ event, lastEvent? 9 (follow {} (start [9]) ((overdriven.script 1).take 3)).events =
          some event ∧ event.kind = .pwm ∧ event.duty = some 40 := by
  have hs : (follow {} (start [9]) ((overdriven.script 1).take 3)).result =
      .ok ⟨⟨⟨[(9, ⟨.output, true, 102, 40⟩)]⟩, .stopped, .stopped⟩, ⟨[(9, true, some 40)]⟩, 0⟩ := by
    decide +kernel
  obtain ⟨-, pins, -⟩ := timeline_is_change_log [9] {} overdriven 1 _ _
    (List.take_prefix 3 (overdriven.script 1)) hs
  obtain ⟨state, hstate, -, told⟩ := pins 9 (by decide)
  cases hstate
  exact ⟨_, hs, _, rfl, rfl, by decide, told (by decide)⟩

end Replay

end SketchGrader
