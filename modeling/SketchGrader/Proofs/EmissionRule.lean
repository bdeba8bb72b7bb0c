import SketchGrader.Proofs.ChangeLog
import SketchGrader.Proofs.ShownDuty

/-!
# The rule of emission

What a replay remembers of a pin is how it looked right after the last line that gave an event of
it. So a write gives an event if there was none of its pin, or if the pin looks different from then.
For pins as they come about in a replay this means that they show something else, or that a pulse
width drives the pin at one of the two moments only. The second happens alone where the pulse width
is too small to show as a percentage.
-/

namespace SketchGrader.Replay

/-- The state of a pin behind a line, if the line gives an event of the pin. -/
def giving? (limits : Limits) (q : Int) (s t : State) (cue : Cue) : Option PinState :=
  if (line limits cue.origin s cue.number cue.text).events.any (·.pin == q) then
    t.machine.board.get? q
  else none

/-- The state of a pin right after the last line of a script that gives an event of the pin. -/
def lastGiving? (limits : Limits) (q : Int) (s : State) : List Cue → Option PinState
  | [] => none
  | cue :: rest =>
    match (line limits cue.origin s cue.number cue.text).result with
    | .error _ => none
    | .ok t => (lastGiving? limits q t rest).or (giving? limits q s t cue)

@[simp] theorem lastGiving?_cons {limits : Limits} {s t : State} {cue : Cue}
    (h : (line limits cue.origin s cue.number cue.text).result = .ok t) (q : Int)
    (rest : List Cue) :
    lastGiving? limits q s (cue :: rest) =
      (lastGiving? limits q t rest).or (giving? limits q s t cue) := by
  rw [lastGiving?, h]

theorem giving?_eq_none_iff {limits : Limits} {s t : State} {cue : Cue}
    (h : (line limits cue.origin s cue.number cue.text).result = .ok t) {q : Int} :
    giving? limits q s t cue = none ↔
      ∀ event ∈ (line limits cue.origin s cue.number cue.text).events, event.pin ≠ q := by
  constructor
  · intro none event given hq
    obtain ⟨e, he, ht⟩ := mem_line given
    obtain ⟨pin, kind, state, -, hs, -, rfl, -⟩ := mem_take he
    rw [h] at ht
    cases ht
    have any : (line limits cue.origin s cue.number cue.text).events.any (·.pin == q) = true :=
      List.any_eq_true.mpr ⟨_, given, beq_iff_eq.mpr hq⟩
    rw [giving?, if_pos any, machine_take, ← hq] at none
    exact Option.some_ne_none _ (hs.symm.trans none)
  · intro other
    rw [giving?, if_neg]
    simpa using other

/-- Only a pin without any event has no line that gave the last one. -/
theorem lastGiving?_eq_none_iff {limits : Limits} {s : State} {cues : List Cue} {q : Int} :
    lastGiving? limits q s cues = none ↔
      ∀ event ∈ (follow limits s cues).events, event.pin ≠ q := by
  induction cues generalizing s with
  | nil => simp [lastGiving?, follow]
  | cons cue rest ih =>
      cases hp : (line limits cue.origin s cue.number cue.text).result with
      | error halt =>
          rw [lastGiving?, hp, follow, andThen_of_error hp, line_events_of_error hp]
          simp
      | ok t =>
          rw [lastGiving?_cons hp, Option.or_eq_none_iff, ih, giving?_eq_none_iff hp, follow,
            andThen_of_ok hp, List.forall_mem_append, and_comm]

/-! ## The memory of a replay -/

theorem memory_observe (s : State) (origin : Body) (kind : EventKind) (pin q : Int) :
    (s.observe origin kind pin).2.emission.get? q =
      (if (s.observe origin kind pin).1.any (·.pin == q) then s.look? q else none).or
        (s.emission.get? q) := by
  cases hs : s.machine.board.get? pin with
  | none =>
      rw [observe_of_none hs]
      rfl
  | some state =>
      rw [observe_of_some hs]
      by_cases same : s.emission.get? pin = some state.appearance
      · rw [if_pos same]
        rfl
      · rw [if_neg same, Emission.get?_set]
        by_cases hq : q = pin
        · subst hq
          simp [eventOf, State.look?, hs]
        · simp [eventOf, hq, Ne.symm hq]

theorem memory_take (s : State) (origin : Body) (e : Effect) (q : Int) :
    (s.take origin e).2.emission.get? q =
      (if (s.take origin e).1.any (·.pin == q) then (s.take origin e).2.look? q else none).or
        (s.emission.get? q) := by
  simp only [State.look?, machine_take]
  cases e with
  | level pin on => exact memory_observe _ origin .digital pin q
  | drive pin pwm duty => exact memory_observe _ origin .pwm pin q
  | _ => rfl

theorem memory_line {limits : Limits} {s t : State} {cue : Cue}
    (h : (line limits cue.origin s cue.number cue.text).result = .ok t) (q : Int) :
    t.emission.get? q =
      ((giving? limits q s t cue).map PinState.appearance).or (s.emission.get? q) := by
  obtain ⟨-, hev, rfl⟩ | ⟨e, -, htake⟩ := line_ok h
  · simp [giving?, hev]
  · have memory := memory_take s cue.origin e q
    rw [htake] at memory
    rw [memory, giving?]
    split_ifs <;> rfl

/-- A replay remembers how a pin looked when it last gave an event. -/
theorem memory_follow {limits : Limits} {s s' : State} {cues : List Cue}
    (h : (follow limits s cues).result = .ok s') (q : Int) :
    s'.emission.get? q =
      ((lastGiving? limits q s cues).map PinState.appearance).or (s.emission.get? q) := by
  induction cues generalizing s with
  | nil =>
      cases h
      rfl
  | cons cue rest ih =>
      obtain ⟨t, hp, h⟩ := follow_cons_ok h
      rw [ih h, memory_line hp, lastGiving?_cons hp]
      cases lastGiving? limits q t rest with
      | none => rfl
      | some state => rfl

theorem consistent_lastGiving? {limits : Limits} {s : State} (consistent : s.machine.Consistent)
    {cues : List Cue} {q : Int} {state : PinState}
    (h : lastGiving? limits q s cues = some state) : state.Consistent := by
  induction cues generalizing s with
  | nil => cases h
  | cons cue rest ih =>
      cases hp : (line limits cue.origin s cue.number cue.text).result with
      | error halt =>
          rw [lastGiving?, hp] at h
          cases h
      | ok t =>
          have later := consistent_line consistent hp
          rw [lastGiving?_cons hp] at h
          obtain found | ⟨-, found⟩ := Option.or_eq_some_iff.mp h
          · exact ih later found
          · unfold giving? at found
            split_ifs at found
            exact later q state found

/-! ## Writes -/

theorem take_of_write {statement : Statement} {e : Effect} (heff : statement.HasEffect e)
    {q : Int} (writes : statement.writtenPin? = some q) (s : State) (origin : Body) :
    s.take origin e =
      State.observe { s with machine := s.machine.after e } origin (.ofStatement statement) q := by
  cases heff with
  | level => cases writes; rfl
  | duty => cases writes; rfl
  | pulse => cases writes; rfl
  | _ => cases writes

theorem direction?_of_permits {limits : Limits} {m : Machine} {statement : Statement}
    (permitted : m.Permits limits statement) {q : Int}
    (writes : statement.writtenPin? = some q) : m.direction? q = some .output := by
  cases statement with
  | digitalWrite pin word => cases writes; exact permitted
  | setDuty pin percent => cases writes; exact permitted.2
  | timerPwm timer pin raw => cases writes; exact permitted.2.2
  | _ => cases writes

/-- A write that is executed gives the event of its pin unless the pin looks as it is remembered. -/
theorem line_of_write {limits : Limits} {s s' : State} {cue : Cue} {statement : Statement} {q : Int}
    (h : (line limits cue.origin s cue.number cue.text).result = .ok s')
    (reads : Statement.ofLine? cue.text = .ok (some statement))
    (writes : statement.writtenPin? = some q) (kept : dropped? s.machine.board statement = none) :
    ∃ state, s'.machine.board.get? q = some state ∧
      (line limits cue.origin s cue.number cue.text).events =
        if s.emission.get? q = some state.appearance then []
        else [eventOf s.clock cue.origin (.ofStatement statement) q state] := by
  obtain ⟨rests, -⟩ | ⟨e, ⟨other, reads', -, permitted, heff⟩, htake⟩ := line_ok h
  · obtain blank | ⟨other, pin, reads', dropped⟩ := rests
    · rw [reads] at blank
      cases blank
    · rw [reads] at reads'
      cases reads'
      rw [kept] at dropped
      cases dropped
  · rw [reads] at reads'
    cases reads'
    obtain ⟨before, hb, -⟩ := Option.map_eq_some_iff.mp (direction?_of_permits permitted writes)
    have hs : (s.machine.after e).board.get? q = some (e.onPin q before) := by
      rw [Machine.get?_after, hb, Option.map_some]
    refine ⟨e.onPin q before, (machine_of_take htake).symm ▸ hs, ?_⟩
    rw [take_of_write heff writes, observe_of_some hs] at htake
    refine (congrArg Prod.fst htake).symm.trans ?_
    split_ifs <;> rfl

/-- A replay does not remember a pin as it looks if there was no event of the pin, or if it differs
from right after the last line that gave one: in what it shows, or in whether a pulse width drives
it. -/
theorem memory_ne_iff {usable : List Int} {limits : Limits} {done : List Cue} {s : State}
    (h : (follow limits (start usable) done).result = .ok s) (q : Int) {state : PinState}
    (consistent : state.Consistent) :
    s.emission.get? q ≠ some state.appearance ↔
      (∀ event ∈ (follow limits (start usable) done).events, event.pin ≠ q) ∨
        ∃ before ∈ lastGiving? limits q (start usable) done,
          before.shown ≠ state.shown ∨ ¬ (0 < before.pwm ↔ 0 < state.pwm) := by
  have memory : s.emission.get? q =
      (lastGiving? limits q (start usable) done).map PinState.appearance := by
    rw [memory_follow h q]
    exact Option.or_none
  rw [memory, ← lastGiving?_eq_none_iff]
  cases hbefore : lastGiving? limits q (start usable) done with
  | none => simp
  | some before =>
      have earlier := consistent_lastGiving? (Machine.consistent_ofPins usable) hbefore
      rw [Option.map_some, Ne, Option.some.injEq, PinState.appearance_eq_iff earlier consistent,
        Classical.not_and_iff_not_or_not]
      simp

/-- Whatever lines are followed, a pin without a pulse width has a duty of zero. Every line of a
replay that goes well is gone through, and its events stand behind those of the lines before it. An
executed write to a pin gives one event, of the pin as it is then, if no line before it gave one of
the pin, or if what the pin shows, whether it is on and with which duty, differs from right after
the last line that gave one, or if a pulse width drives the pin at just one of these two moments;
otherwise it gives none. Where nothing but the last is the case the pin is on and shows zero
percent. -/
theorem writes_give_events_by_rule (usable : List Int) (limits : Limits) :
    (∀ cues s, (follow limits (start usable) cues).result = .ok s →
      ∀ q state, s.machine.board.get? q = some state → state.pwm ≤ 0 → state.duty = 0) ∧
    ∀ (p : Program) (iterations : Int) (timeline : Sequence),
      (extract usable limits p iterations).outcome = .ok timeline →
      ∀ (done : List Cue) (cue : Cue) (rest : List Cue),
      p.script (max 1 iterations).toNat = done ++ cue :: rest →
      ∃ s s', (follow limits (start usable) done).result = .ok s ∧
        (line limits cue.origin s cue.number cue.text).result = .ok s' ∧
        timeline.events = (follow limits (start usable) done).events ++
          ((line limits cue.origin s cue.number cue.text).events ++
            (follow limits s' rest).events) ∧
        ∀ statement q, Statement.ofLine? cue.text = .ok (some statement) →
          statement.writtenPin? = some q → dropped? s.machine.board statement = none →
          ∃ state, s'.machine.board.get? q = some state ∧
            (line limits cue.origin s cue.number cue.text).events =
              (if (∀ event ∈ (follow limits (start usable) done).events, event.pin ≠ q) ∨
                  ∃ before ∈ lastGiving? limits q (start usable) done,
                    before.shown ≠ state.shown ∨ ¬ (0 < before.pwm ↔ 0 < state.pwm) then
                [eventOf s.clock cue.origin (.ofStatement statement) q state]
              else []) ∧
            ∀ before ∈ lastGiving? limits q (start usable) done,
              before.shown = state.shown → ¬ (0 < before.pwm ↔ 0 < state.pwm) →
                state.shown = (true, 0) := by
  have fresh : (start usable).machine.Consistent := Machine.consistent_ofPins usable
  constructor
  · intro cues s hs
    exact consistent_follow fresh hs
  · intro p iterations timeline h done cue rest script
    obtain ⟨⟨last, hlast⟩, rfl⟩ := extract_eq_ok.mp h
    rw [script] at hlast ⊢
    obtain ⟨s, hs, hlater⟩ := follow_append_ok hlast
    obtain ⟨s', hs', -⟩ := follow_cons_ok hlater
    refine ⟨s, s', hs, hs', ?_, ?_⟩
    · simp [follow, hs, hs']
    · intro statement q reads writes kept
      obtain ⟨state, hstate, given⟩ := line_of_write hs' reads writes kept
      have now : state.Consistent :=
        consistent_line (consistent_follow fresh hs) hs' q state hstate
      refine ⟨state, hstate, ?_, ?_⟩
      · rw [given, ← ite_not]
        simp only [memory_ne_iff hs q now]
      · intro before hbefore same half
        exact PinState.shown_of_half_driven (consistent_lastGiving? fresh hbefore) now same half

/-- A sketch that switches on a pin and then drives it with a pulse width below one percent. -/
def faint : Program :=
  { setupBody := ("pinMode(9, OUTPUT);\nTimer0.initialize();\n" ++
      "digitalWrite(9, HIGH);\nTimer0.pwm(9, 1);").toList }

/-- The last line of the sketch. -/
def faintPulse : Cue := ⟨.setup, 4, "Timer0.pwm(9, 1);".toList⟩

/-- Where the sketch stands in front of it: the pin is on, and no pulse width drives it. -/
def faintLit : State :=
  ⟨⟨⟨[(9, ⟨.output, true, 0, 0⟩)]⟩, .stopped, .running none⟩, ⟨[(9, true, none)]⟩, 0⟩

theorem follow_faint :
    (follow {} (start [9]) ((faint.script 1).take 3)).result = .ok faintLit := by
  decide +kernel

/-- The pulse width gives its one event by the rule, as no pulse width drove the pin before. -/
theorem writes_give_events_by_rule_faint :
    (extract [9] {} faint 1).outcome = .ok
      ⟨[⟨0, 9, true, .digital, .setup, none⟩, ⟨0, 9, true, .pwm, .setup, some 0⟩], 0, false⟩ ∧
    ∃ s s', (follow {} (start [9]) ((faint.script 1).take 3)).result = .ok s ∧
      (line {} .setup s 4 faintPulse.text).result = .ok s' ∧
      ∃ state, s'.machine.board.get? 9 = some state ∧
        (line {} .setup s 4 faintPulse.text).events =
          (if (∀ event ∈ (follow {} (start [9]) ((faint.script 1).take 3)).events,
                event.pin ≠ 9) ∨
              ∃ before ∈ lastGiving? {} 9 (start [9]) ((faint.script 1).take 3),
                before.shown ≠ state.shown ∨ ¬ (0 < before.pwm ↔ 0 < state.pwm) then
            [eventOf s.clock .setup .pwm 9 state]
          else []) := by
  have returns : (extract [9] {} faint 1).outcome = .ok
      ⟨[⟨0, 9, true, .digital, .setup, none⟩, ⟨0, 9, true, .pwm, .setup, some 0⟩], 0, false⟩ := by
    decide +kernel
  have script : faint.script (max 1 1 : Int).toNat = (faint.script 1).take 3 ++ [faintPulse] := by
    decide +kernel
  obtain ⟨s, s', hs, hs', -, rule⟩ :=
    (writes_give_events_by_rule [9] {}).2 faint 1 _ returns _ faintPulse [] script
  rw [follow_faint] at hs
  cases hs
  obtain ⟨state, hstate, given, -⟩ :=
    rule (.timerPwm .zero 9 1) 9 (by decide +kernel) rfl (by decide +kernel)
  exact ⟨returns, _, s', follow_faint, hs', state, hstate, given⟩

/-- A pulse width may give an event of a pin that has had one and shows just the same: it is on, and
its duty is zero percent as before. -/
theorem faint_pulse_shows_the_same :
    ∃ s s' before state,
      (follow {} (start [9]) ((faint.script 1).take 3)).result = .ok s ∧
      (line {} .setup s 4 faintPulse.text).result = .ok s' ∧
      lastGiving? {} 9 (start [9]) ((faint.script 1).take 3) = some before ∧
      s'.machine.board.get? 9 = some state ∧ before.shown = state.shown ∧
      (line {} .setup s 4 faintPulse.text).events =
        [⟨0, 9, true, .pwm, .setup, some 0⟩] := by
  refine ⟨faintLit,
    ⟨⟨⟨[(9, ⟨.output, true, 1, 0⟩)]⟩, .stopped, .running none⟩, ⟨[(9, true, some 0)]⟩, 0⟩,
    ⟨.output, true, 0, 0⟩, ⟨.output, true, 1, 0⟩, follow_faint, ?_, ?_, rfl, rfl, ?_⟩
  · decide +kernel
  · decide +kernel
  · decide +kernel

end SketchGrader.Replay
