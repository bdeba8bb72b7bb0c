import SketchGrader.Proofs.Assignments
import SketchGrader.Proofs.Latest

/-!
# The machine and its history

A machine is given lines and resets in any order. Its history is the list of the statements that
went through since the last reset. The history determines the machine: each field of a pin and each
timer holds what the latest statement on it gave. It also determines which statement can go through
next.
-/

namespace SketchGrader

namespace Statement

/-- The direction that a statement gives to a pin. -/
def declares? (q : Int) : Statement → Option Direction
  | pinMode pin mode => if q = pin then Direction.ofMode? mode else none
  | _ => none

/-- The digital level that a statement gives to a pin. -/
def levels? (q : Int) : Statement → Option Bool
  | digitalWrite pin word => if q = pin then levelOf? word else none
  | _ => none

/-- The pulse width and the duty that a statement gives to a pin. -/
def drives? (q : Int) : Statement → Option (Int × Int)
  | setDuty pin percent =>
    if q = pin then
      (Scale.percentToPwm percent).toOption.map fun pwm => (max 0 (min 255 pwm), percent)
    else none
  | timerPwm timer pin raw =>
    if q = pin then do
      let pwm ← (Scale.convert raw timer.rawMax 255).toOption
      let percent ← (Scale.convert raw timer.rawMax 100).toOption
      return (max 0 (min 255 pwm), percent)
    else none
  | _ => none

/-- The state that a statement gives to a timer. -/
def sets? (t : Timer) : Statement → Option TimerState
  | timerStart timer period => if t = timer then some (.running period) else none
  | timerStop timer => if t = timer then some .stopped else none
  | _ => none

theorem drives?_bounds {q : Int} {statement : Statement} {drive : Int × Int}
    (h : statement.drives? q = some drive) : 0 ≤ drive.1 ∧ drive.1 ≤ 255 := by
  have clamped : ∃ pwm, drive.1 = max 0 (min 255 pwm) := by
    unfold drives? at h
    split at h
    next pin percent =>
      split_ifs at h
      obtain ⟨pwm, -, rfl⟩ := Option.map_eq_some_iff.mp h
      exact ⟨pwm, rfl⟩
    next timer pin raw =>
      split_ifs at h
      simp only [Option.bind_eq_bind, Option.bind_eq_some_iff] at h
      obtain ⟨pwm, -, percent, -, given⟩ := h
      cases given
      exact ⟨pwm, rfl⟩
    next => cases h
  obtain ⟨pwm, hpwm⟩ := clamped
  omega

/-- What a statement gives is what its effect gives. -/
theorem HasEffect.gives {statement : Statement} {e : Effect} (h : statement.HasEffect e) :
    (∀ q, e.declared? q = statement.declares? q) ∧ (∀ q, e.leveled? q = statement.levels? q) ∧
      (∀ q, e.driven? q = statement.drives? q) ∧ ∀ t, e.timed? t = statement.sets? t := by
  cases h with
  | declare hd =>
      refine ⟨fun q => ?_, fun _ => rfl, fun _ => rfl, fun _ => rfl⟩
      simp only [Effect.declared?, declares?, hd]
  | level hon =>
      refine ⟨fun _ => rfl, fun q => ?_, fun _ => rfl, fun _ => rfl⟩
      simp only [Effect.leveled?, levels?, hon]
  | duty hpwm =>
      refine ⟨fun _ => rfl, fun _ => rfl, fun q => ?_, fun _ => rfl⟩
      simp only [Effect.driven?, drives?, hpwm, Except.toOption, Option.map_some]
  | pulse hpwm hpercent =>
      refine ⟨fun _ => rfl, fun _ => rfl, fun q => ?_, fun _ => rfl⟩
      simp only [Effect.driven?, drives?, hpwm, hpercent, Except.toOption]
      rfl
  | start timer period => exact ⟨fun _ => rfl, fun _ => rfl, fun _ => rfl, fun _ => rfl⟩
  | stop timer => exact ⟨fun _ => rfl, fun _ => rfl, fun _ => rfl, fun _ => rfl⟩
  | wait ms => exact ⟨fun _ => rfl, fun _ => rfl, fun _ => rfl, fun _ => rfl⟩
  | conditional text => exact ⟨fun _ => rfl, fun _ => rfl, fun _ => rfl, fun _ => rfl⟩

end Statement

/-- The state of a pin with a history. -/
def PinState.ofHistory (q : Int) (history : List Statement) : PinState where
  direction := (latest (Statement.declares? q) history).getD .unset
  level := (latest (Statement.levels? q) history).getD false
  pwm := ((latest (Statement.drives? q) history).getD (0, 0)).1
  duty := ((latest (Statement.drives? q) history).getD (0, 0)).2

theorem PinState.ofHistory_pwm_bounds (q : Int) (history : List Statement) :
    0 ≤ (PinState.ofHistory q history).pwm ∧ (PinState.ofHistory q history).pwm ≤ 255 := by
  unfold PinState.ofHistory
  cases hl : latest (Statement.drives? q) history with
  | none => simp
  | some drive =>
      obtain ⟨statement, -, hdrive⟩ := exists_of_latest hl
      exact Statement.drives?_bounds hdrive

/-- The state of a timer with a history. -/
def TimerState.ofHistory (t : Timer) (history : List Statement) : TimerState :=
  (latest (Statement.sets? t) history).getD .stopped

theorem PinState.ofHistory_append {statement : Statement} {e : Effect}
    (h : statement.HasEffect e) (q : Int) (history : List Statement) :
    PinState.ofHistory q (history ++ [statement]) = e.onPin q (PinState.ofHistory q history) := by
  obtain ⟨declares, levels, drives, -⟩ := h.gives
  rw [Effect.onPin_eq_settled]
  simp [PinState.ofHistory, Effect.settled, declares, levels, drives, Option.getD_or]

theorem TimerState.ofHistory_append {statement : Statement} {e : Effect}
    (h : statement.HasEffect e) (t : Timer) (history : List Statement) :
    TimerState.ofHistory t (history ++ [statement]) =
      e.onTimer t (TimerState.ofHistory t history) := by
  obtain ⟨-, -, -, sets⟩ := h.gives
  rw [Effect.onTimer_eq_latest]
  simp [TimerState.ofHistory, sets, Option.getD_or]

theorem Machine.execLine_ok {limits : Limits} {m m' : Machine} {number : Int} {text : Text}
    {found : Option Statement} (h : m.execLine limits number text = .ok (found, m')) :
    (found = none ∧ m' = m) ∨
      ∃ statement, found = some statement ∧ m.exec limits statement = .ok m' := by
  unfold execLine at h
  split at h
  next => cases h
  next =>
    cases h
    exact .inl ⟨rfl, rfl⟩
  next statement _ =>
    split at h
    next => cases h
    next machine hm =>
      cases h
      exact .inr ⟨statement, rfl, hm⟩

/-- What a machine is given. -/
inductive Prompt where
  | line (number : Int) (text : Text)
  | reset
  deriving DecidableEq, Repr

/-- A machine with its history. -/
structure Tracked where
  machine : Machine
  history : List Statement := []
  deriving DecidableEq, Repr

namespace Tracked

/-- A line that fails adds nothing to the history. -/
def serve (limits : Limits) (s : Tracked) : Prompt → Tracked
  | .line number text =>
    match s.machine.execLine limits number text with
    | .ok (found, machine) => ⟨machine, s.history ++ found.toList⟩
    | .error _ => s
  | .reset => ⟨s.machine.reset, []⟩

/-- A fresh machine after a number of prompts. -/
def ofPrompts (usable : List Int) (limits : Limits) (prompts : List Prompt) : Tracked :=
  prompts.foldl (serve limits) ⟨Machine.ofPins usable, []⟩

/-- The machine is as its history says. -/
structure Determined (usable : List Int) (s : Tracked) : Prop where
  pins : ∀ q, s.machine.board.get? q =
    if q ∈ usable then some (PinState.ofHistory q s.history) else none
  timers : ∀ t, s.machine.timer t = TimerState.ofHistory t s.history

theorem determined_fresh (usable : List Int) : Determined usable ⟨Machine.ofPins usable, []⟩ where
  pins := Board.get?_ofPins usable
  timers := by
    intro t
    cases t <;> rfl

theorem determined_reset {usable : List Int} {s : Tracked} (h : s.Determined usable) :
    Determined usable ⟨s.machine.reset, []⟩ where
  pins := by
    intro q
    rw [Machine.reset, Board.get?_reset, h.pins]
    split_ifs <;> rfl
  timers := by
    intro t
    cases t <;> rfl

theorem determined_exec {usable : List Int} {limits : Limits} {s : Tracked}
    (h : s.Determined usable) {statement : Statement} {m : Machine}
    (hm : s.machine.exec limits statement = .ok m) :
    Determined usable ⟨m, s.history ++ [statement]⟩ := by
  obtain ⟨-, e, he, rfl⟩ := Machine.exec_eq_ok.mp hm
  constructor
  · intro q
    rw [Machine.get?_after, h.pins, PinState.ofHistory_append he]
    split_ifs <;> rfl
  · intro t
    rw [Machine.timer_after, h.timers, TimerState.ofHistory_append he]

theorem determined_serve {usable : List Int} {limits : Limits} {s : Tracked}
    (h : s.Determined usable) (r : Prompt) : (s.serve limits r).Determined usable := by
  cases r with
  | reset => exact determined_reset h
  | line number text =>
      cases hx : s.machine.execLine limits number text with
      | error halt => simpa only [serve, hx] using h
      | ok result =>
          obtain ⟨found, m⟩ := result
          simp only [serve, hx]
          obtain ⟨rfl, rfl⟩ | ⟨statement, rfl, hm⟩ := Machine.execLine_ok hx
          · rw [Option.toList_none, List.append_nil]
            exact h
          · exact determined_exec h hm

theorem determined_ofPrompts (usable : List Int) (limits : Limits) (prompts : List Prompt) :
    (ofPrompts usable limits prompts).Determined usable := by
  have run : ∀ s : Tracked, s.Determined usable →
      (prompts.foldl (serve limits) s).Determined usable := by
    induction prompts with
    | nil => exact fun s h => h
    | cons r rest ih => exact fun s h => ih (s.serve limits r) (determined_serve h r)
  exact run _ (determined_fresh usable)

end Tracked

/-- What a statement needs of the history. -/
def Statement.Allowed (usable : List Int) (limits : Limits) (history : List Statement) :
    Statement → Prop
  | pinMode pin mode => pin ∈ usable ∧ (Direction.ofMode? mode).isSome
  | digitalWrite pin word =>
    pin ∈ usable ∧ latest (declares? pin) history = some .output ∧ (levelOf? word).isSome
  | setDuty pin percent =>
    pin ∈ usable ∧ latest (declares? pin) history = some .output ∧
      0 ≤ percent ∧ percent ≤ limits.maxDutyPercent
  | timerPwm timer pin raw =>
    pin ∈ usable ∧ latest (declares? pin) history = some .output ∧
      0 ≤ raw ∧ raw ≤ timer.rawMax ∧
        ∃ period, latest (sets? timer) history = some (.running period)
  | wait ms => 0 ≤ ms ∧ ms ≤ limits.maxWaitMs
  | _ => True

namespace Tracked

section
variable {usable : List Int} {s : Tracked} (h : s.Determined usable)

include h

theorem Determined.direction?_isSome {pin : Int} :
    (s.machine.direction? pin).isSome ↔ pin ∈ usable := by
  rw [Machine.direction?, h.pins, Option.isSome_map]
  split_ifs with hpin <;> simp [hpin]

theorem Determined.output {pin : Int} :
    s.machine.direction? pin = some .output ↔
      pin ∈ usable ∧ latest (Statement.declares? pin) s.history = some .output := by
  rw [Machine.direction?, h.pins]
  split_ifs with hpin
  · cases hl : latest (Statement.declares? pin) s.history with
    | none => simp [PinState.ofHistory, hl]
    | some direction => simp [PinState.ofHistory, hl, hpin]
  · simp [hpin]

theorem Determined.timer_running_iff {timer : Timer} {period : Option Int} :
    s.machine.timer timer = .running period ↔
      latest (Statement.sets? timer) s.history = some (.running period) := by
  rw [h.timers, TimerState.ofHistory]
  cases latest (Statement.sets? timer) s.history with
  | none => simp
  | some state => simp

theorem Determined.running {timer : Timer} :
    s.machine.timer timer ≠ .stopped ↔
      ∃ period, latest (Statement.sets? timer) s.history = some (.running period) := by
  simp only [← h.timer_running_iff]
  cases s.machine.timer timer <;> simp

theorem Determined.permits_iff {limits : Limits} {statement : Statement} {e : Effect}
    (he : statement.HasEffect e) :
    s.machine.Permits limits statement ↔ statement.Allowed usable limits s.history := by
  cases he with
  | declare hd =>
      simp only [Machine.Permits, Statement.Allowed, h.direction?_isSome, hd, Option.isSome_some,
        and_true]
  | level hon =>
      simp only [Machine.Permits, Statement.Allowed, h.output, hon, Option.isSome_some, and_true]
  | duty hpwm =>
      simp only [Machine.Permits, Statement.Allowed, h.output]
      rw [and_comm, and_assoc]
  | pulse hpwm hpercent =>
      simp only [Machine.Permits, Statement.Allowed, h.output, h.running]
      constructor
      · rintro ⟨running, ⟨low, high⟩, known, output⟩
        exact ⟨known, output, low, high, running⟩
      · rintro ⟨known, output, low, high, running⟩
        exact ⟨running, ⟨low, high⟩, known, output⟩
  | start timer period => exact Iff.rfl
  | stop timer => exact Iff.rfl
  | wait ms => exact Iff.rfl
  | conditional text => exact Iff.rfl

theorem Determined.exec_iff {limits : Limits} {statement : Statement} :
    (∃ m, s.machine.exec limits statement = .ok m) ↔
      statement.Allowed usable limits s.history ∧ ∃ e, statement.HasEffect e := by
  simp only [Machine.exec_eq_ok]
  constructor
  · rintro ⟨m, permitted, e, he, -⟩
    exact ⟨(h.permits_iff he).mp permitted, e, he⟩
  · rintro ⟨allowed, e, he⟩
    exact ⟨_, (h.permits_iff he).mpr allowed, e, he, rfl⟩

end

/-- After any lines and resets the machine is determined by the statements that went through since
the last reset. Every field of every pin and every timer is as the latest of them on it says. A line
that fails has assigned nothing, and a statement goes through exactly where the history allows
it. -/
theorem machine_determined_by_history (usable : List Int) (limits : Limits)
    (prompts : List Prompt) :
    let s := ofPrompts usable limits prompts
    (∀ q ∈ usable, ∃ state, s.machine.board.get? q = some state ∧
      state.direction = (latest (Statement.declares? q) s.history).getD .unset ∧
      state.level = (latest (Statement.levels? q) s.history).getD false ∧
      (state.pwm, state.duty) = (latest (Statement.drives? q) s.history).getD (0, 0) ∧
      0 ≤ state.pwm ∧ state.pwm ≤ 255) ∧
    (∀ q, q ∉ usable → s.machine.board.get? q = none) ∧
    (∀ timer period, s.machine.timer timer = .running period ↔
      latest (Statement.sets? timer) s.history = some (.running period)) ∧
    (∀ number text,
      match (Action.ofLine limits text).run.run s.machine with
      | (.ok found, m) => s.machine.execLine limits number text = .ok (found, m)
      | (.error problem, m) =>
        s.machine.execLine limits number text = .error (problem.atLine number) ∧
          m = s.machine) ∧
    (∀ statement, (∃ m, s.machine.exec limits statement = .ok m) ↔
      statement.Allowed usable limits s.history ∧ ∃ e, statement.HasEffect e) := by
  intro s
  have determined : s.Determined usable := determined_ofPrompts usable limits prompts
  refine ⟨?_, ?_, ?_, ?_, ?_⟩
  · intro q hq
    have hs := determined.pins q
    rw [if_pos hq] at hs
    exact ⟨_, hs, rfl, rfl, rfl, PinState.ofHistory_pwm_bounds q s.history⟩
  · intro q hq
    rw [determined.pins q, if_neg hq]
  · intro timer period
    exact determined.timer_running_iff
  · intro number text
    exact Action.run_ofLine limits s.machine number text
  · intro statement
    exact determined.exec_iff

/-- A pin keeps its duty when it is declared as input, and lines that fail do not count: a duty out
of range and a write to the input. -/
theorem machine_determined_by_history_redeclared :
    let prompts := [.line 1 "pinMode(9, OUTPUT);".toList, .line 2 "setDutyCycle(9, 40);".toList,
      .line 3 "setDutyCycle(9, 400);".toList, .line 4 "pinMode(9, INPUT);".toList,
      .line 5 "digitalWrite(9, HIGH);".toList]
    ∃ state, (ofPrompts [9] {} prompts).machine.board.get? 9 = some state ∧
      state.direction = .input ∧ state.level = false ∧ (state.pwm, state.duty) = (102, 40) := by
  intro prompts
  obtain ⟨state, hs, direction, level, drive, -⟩ :=
    (machine_determined_by_history [9] {} prompts).1 9 (by decide)
  refine ⟨state, hs, direction.trans ?_, level.trans ?_, drive.trans ?_⟩
  · decide +kernel
  · decide +kernel
  · decide +kernel

end Tracked

end SketchGrader
