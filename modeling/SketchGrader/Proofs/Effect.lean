import Mathlib.Tactic.SplitIfs
import SketchGrader.Board.Machine

/-!
# Effects of statements

Executing a statement has two sides. Whether it goes through depends on the statement, on the
directions of the pins and on the timers, and on nothing else of the machine. What it then changes
depends on the statement alone: one field of one pin, or one timer, or nothing.
-/

namespace SketchGrader

theorem PinSet.mem_insert {pin q : Int} {pins : List Int} :
    q ∈ insert pin pins ↔ q = pin ∨ q ∈ pins := by
  induction pins with
  | nil => simp [insert]
  | cons p rest ih =>
      simp only [insert]
      split_ifs with below same
      · simp
      · subst same
        simp
      · rw [List.mem_cons, ih, List.mem_cons, or_left_comm]

theorem PinSet.mem_ofList {q : Int} {pins : List Int} : q ∈ ofList pins ↔ q ∈ pins := by
  induction pins with
  | nil => simp [ofList]
  | cons p rest ih =>
      change q ∈ insert p (ofList rest) ↔ q ∈ p :: rest
      rw [mem_insert, ih, List.mem_cons]

namespace Board

@[simp] theorem get?_set (b : Board) (pin q : Int) (state : PinState) :
    (b.set pin state).get? q = if q = pin then (b.get? q).map fun _ => state else b.get? q := by
  obtain ⟨entries⟩ := b
  simp only [set, get?]
  induction entries with
  | nil => simp
  | cons entry rest ih =>
      simp only [List.map_cons, List.find?_cons]
      by_cases hq : q = pin
      · subst hq
        by_cases he : entry.1 = q
        · simp [he]
        · have hb : (entry.1 == q) = false := by simpa using he
          simpa [he, hb] using ih
      · by_cases he : entry.1 = pin
        · have hb : (pin == q) = false := by simpa using Ne.symm hq
          simpa [he, hq, hb] using ih
        · by_cases hb : (entry.1 == q) = true
          · simp [he, hq, hb]
          · simpa [he, hq, hb] using ih

@[simp] theorem get?_reset (b : Board) (q : Int) : b.reset.get? q = (b.get? q).map fun _ => {} := by
  obtain ⟨entries⟩ := b
  simp only [reset, get?]
  induction entries with
  | nil => rfl
  | cons entry rest ih =>
      simp only [List.map_cons, List.find?_cons]
      by_cases hb : (entry.1 == q) = true
      · simp [hb]
      · simpa [hb] using ih

@[simp] theorem get?_ofPins (usable : List Int) (q : Int) :
    (ofPins usable).get? q = if q ∈ usable then some {} else none := by
  have h : ∀ pins : List Int,
      Board.get? ⟨pins.map (·, {})⟩ q = if q ∈ pins then some {} else none := by
    intro pins
    induction pins with
    | nil => rfl
    | cons p rest ih =>
        simp only [get?, List.map_cons, List.find?_cons] at ih ⊢
        by_cases hp : p = q
        · simp [hp]
        · have hb : (p == q) = false := by simpa using hp
          simpa [hb, hp, Ne.symm hp] using ih
  rw [ofPins, h]
  simp only [PinSet.mem_ofList]

end Board

/-- The direction that a mode declares. -/
def Direction.ofMode? (mode : Text) : Option Direction :=
  if mode = "INPUT".toList then some .input
  else if mode = "OUTPUT".toList then some .output
  else none

/-- The level that a word gives. -/
def Statement.levelOf? (word : Text) : Option Bool :=
  if word = "HIGH".toList then some true
  else if word = "LOW".toList then some false
  else none

/-- What a statement changes when it goes through. -/
inductive Effect where
  | idle
  | elapse (ms : Int)
  | declare (pin : Int) (direction : Direction)
  | level (pin : Int) (on : Bool)
  | drive (pin pwm duty : Int)
  | timer (timer : Timer) (state : TimerState)
  deriving DecidableEq, Repr

/-- The effect of a statement. A statement that no machine executes has none. -/
inductive Statement.HasEffect : Statement → Effect → Prop
  | declare {pin : Int} {mode : Text} {direction : Direction} :
      Direction.ofMode? mode = some direction →
        HasEffect (.pinMode pin mode) (.declare pin direction)
  | level {pin : Int} {word : Text} {on : Bool} :
      levelOf? word = some on → HasEffect (.digitalWrite pin word) (.level pin on)
  | duty {pin percent pwm : Int} :
      Scale.percentToPwm percent = .ok pwm → HasEffect (.setDuty pin percent) (.drive pin pwm percent)
  | pulse {timer : Timer} {pin raw pwm percent : Int} :
      Scale.convert raw timer.rawMax 255 = .ok pwm → Scale.convert raw timer.rawMax 100 = .ok percent →
        HasEffect (.timerPwm timer pin raw) (.drive pin pwm percent)
  | start (timer : Timer) (period : Option Int) :
      HasEffect (.timerStart timer period) (.timer timer (.running period))
  | stop (timer : Timer) : HasEffect (.timerStop timer) (.timer timer .stopped)
  | wait (ms : Int) : HasEffect (.wait ms) (.elapse ms)
  | conditional (text : Text) : HasEffect (.conditional text) .idle

namespace Effect

/-- What an effect does to the state of a pin. -/
def onPin (q : Int) : Effect → PinState → PinState
  | declare pin direction, s => if q = pin then { s with direction } else s
  | level pin on, s => if q = pin then { s with level := on } else s
  | drive pin pwm duty, s => if q = pin then s.drive pwm duty else s
  | _, s => s

/-- What an effect does to a timer. -/
def onTimer (t : Timer) : Effect → TimerState → TimerState
  | timer other state, s => if t = other then state else s
  | _, s => s

/-- The milliseconds that an effect takes. -/
def duration : Effect → Int
  | elapse ms => ms
  | _ => 0

/-- Whether an effect is a write to a pin. -/
def writes (q : Int) : Effect → Bool
  | level pin _ => q == pin
  | drive pin _ _ => q == pin
  | _ => false

/-- Apart from writes only the direction of a pin changes. -/
theorem onPin_of_quiet {q : Int} {e : Effect} (h : e.writes q = false) (s : PinState) :
    ∃ direction, e.onPin q s = { s with direction } := by
  cases e with
  | level pin on =>
      have other : q ≠ pin := by simpa [writes] using h
      exact ⟨s.direction, if_neg other⟩
  | drive pin pwm duty =>
      have other : q ≠ pin := by simpa [writes] using h
      exact ⟨s.direction, if_neg other⟩
  | declare pin direction =>
      rw [onPin]
      split_ifs
      · exact ⟨direction, rfl⟩
      · exact ⟨s.direction, rfl⟩
  | _ => exact ⟨s.direction, rfl⟩

end Effect

namespace Machine

/-- The direction of a usable pin. -/
def direction? (m : Machine) (pin : Int) : Option Direction :=
  (m.board.get? pin).map (·.direction)

/-- Changes the state of a pin if it is usable. -/
def adjust (m : Machine) (pin : Int) (f : PinState → PinState) : Machine :=
  match m.board.get? pin with
  | some state => m.setPin pin (f state)
  | none => m

/-- The machine after an effect. -/
def after (m : Machine) : Effect → Machine
  | .declare pin direction => m.adjust pin fun s => { s with direction }
  | .level pin on => m.adjust pin fun s => { s with level := on }
  | .drive pin pwm duty => m.adjust pin fun s => s.drive pwm duty
  | .timer timer state => m.setTimer timer state
  | .idle | .elapse _ => m

/-- What a statement with an effect needs of the machine. -/
def Permits (limits : Limits) (m : Machine) : Statement → Prop
  | .pinMode pin _ => (m.direction? pin).isSome
  | .digitalWrite pin _ => m.direction? pin = some .output
  | .setDuty pin percent =>
    (0 ≤ percent ∧ percent ≤ limits.maxDutyPercent) ∧ m.direction? pin = some .output
  | .timerPwm timer pin duty =>
    m.timer timer ≠ .stopped ∧ (0 ≤ duty ∧ duty ≤ timer.rawMax) ∧
      m.direction? pin = some .output
  | .wait ms => 0 ≤ ms ∧ ms ≤ limits.maxWaitMs
  | _ => True

@[simp] theorem require_eq_ok {condition : Bool} {cause : Cause} {u : Unit} :
    require condition cause = .ok u ↔ condition = true := by
  simp [require]

@[simp] theorem pinState_eq_ok {m : Machine} {pin : Int} {state : PinState} :
    m.pinState pin = .ok state ↔ m.board.get? pin = some state := by
  unfold pinState
  split
  next s hs => simp [hs]
  next hs => split <;> simp [hs]

@[simp] theorem computed_eq_ok {α : Type} {x : Except Breakdown α} {a : α} :
    computed x = .ok a ↔ x = .ok a := by
  cases x <;> simp [computed]

theorem adjust_of_get? {m : Machine} {pin : Int} {state : PinState}
    (h : m.board.get? pin = some state) (f : PinState → PinState) :
    m.adjust pin f = m.setPin pin (f state) := by
  simp only [adjust, h]

theorem exec_pinMode {limits : Limits} {m m' : Machine} {pin : Int} {mode : Text} :
    m.exec limits (.pinMode pin mode) = .ok m' ↔
      (m.direction? pin).isSome ∧ ∃ d, Direction.ofMode? mode = some d ∧
        m.after (.declare pin d) = m' := by
  simp only [exec, bind_eq_ok, pinState_eq_ok, direction?, Option.isSome_map]
  cases hs : m.board.get? pin with
  | none =>
      simp only [reduceCtorEq, false_and, exists_false, Option.isSome_none, Bool.false_eq_true]
  | some state =>
      simp only [Option.some.injEq, exists_eq_left', Option.isSome_some, true_and, after,
        adjust_of_get? hs, Direction.ofMode?]
      split_ifs <;> simp [pure, Except.pure]

theorem exec_digitalWrite {limits : Limits} {m m' : Machine} {pin : Int} {word : Text} :
    m.exec limits (.digitalWrite pin word) = .ok m' ↔
      m.direction? pin = some .output ∧ ∃ on, Statement.levelOf? word = some on ∧
        m.after (.level pin on) = m' := by
  simp only [exec, bind_eq_ok, pinState_eq_ok, require_eq_ok, direction?]
  cases hs : m.board.get? pin with
  | none => simp only [reduceCtorEq, false_and, exists_false, Option.map_none]
  | some state =>
      simp only [Option.some.injEq, exists_eq_left', Option.map_some, after, adjust_of_get? hs,
        Statement.levelOf?, pure, Except.pure, Except.ok.injEq, beq_iff_eq, Bool.or_eq_true]
      split_ifs with high low
      · simp [high]
      · simp [low]
      · simp only [high, low, or_self, false_and, exists_false, and_false]

theorem exec_setDuty {limits : Limits} {m m' : Machine} {pin percent : Int} :
    m.exec limits (.setDuty pin percent) = .ok m' ↔
      ((0 ≤ percent ∧ percent ≤ limits.maxDutyPercent) ∧ m.direction? pin = some .output) ∧
        ∃ pwm, Scale.percentToPwm percent = .ok pwm ∧
          m.after (.drive pin pwm percent) = m' := by
  simp only [exec, bind_eq_ok, pinState_eq_ok, require_eq_ok, computed_eq_ok, direction?]
  cases hs : m.board.get? pin with
  | none => simp
  | some state =>
      simp [after, adjust_of_get? hs, pure, Except.pure, and_assoc]

theorem exec_timerPwm {limits : Limits} {m m' : Machine} {timer : Timer} {pin duty : Int} :
    m.exec limits (.timerPwm timer pin duty) = .ok m' ↔
      (m.timer timer ≠ .stopped ∧ (0 ≤ duty ∧ duty ≤ timer.rawMax) ∧
        m.direction? pin = some .output) ∧
        ∃ pwm, Scale.convert duty timer.rawMax 255 = .ok pwm ∧
          ∃ percent, Scale.convert duty timer.rawMax 100 = .ok percent ∧
            m.after (.drive pin pwm percent) = m' := by
  simp only [exec, bind_eq_ok, pinState_eq_ok, require_eq_ok, computed_eq_ok, direction?]
  cases hs : m.board.get? pin with
  | none => simp
  | some state =>
      simp [after, adjust_of_get? hs, pure, Except.pure, and_assoc]

theorem exec_wait {limits : Limits} {m m' : Machine} {ms : Int} :
    m.exec limits (.wait ms) = .ok m' ↔ (0 ≤ ms ∧ ms ≤ limits.maxWaitMs) ∧ m = m' := by
  simp [exec, pure, Except.pure]

/-- A statement goes through exactly where it is permitted, and leaves its effect. -/
theorem exec_eq_ok {limits : Limits} {m m' : Machine} {statement : Statement} :
    m.exec limits statement = .ok m' ↔
      m.Permits limits statement ∧ ∃ e, statement.HasEffect e ∧ m.after e = m' := by
  constructor
  · intro h
    cases statement with
    | pinMode pin mode =>
        obtain ⟨permitted, d, hd, rfl⟩ := exec_pinMode.mp h
        exact ⟨permitted, _, .declare hd, rfl⟩
    | digitalWrite pin word =>
        obtain ⟨permitted, on, hon, rfl⟩ := exec_digitalWrite.mp h
        exact ⟨permitted, _, .level hon, rfl⟩
    | setDuty pin percent =>
        obtain ⟨permitted, pwm, hpwm, rfl⟩ := exec_setDuty.mp h
        exact ⟨permitted, _, .duty hpwm, rfl⟩
    | timerPwm timer pin raw =>
        obtain ⟨permitted, pwm, hpwm, percent, hpercent, rfl⟩ := exec_timerPwm.mp h
        exact ⟨permitted, _, .pulse hpwm hpercent, rfl⟩
    | wait ms =>
        obtain ⟨permitted, rfl⟩ := exec_wait.mp h
        exact ⟨permitted, _, .wait ms, rfl⟩
    | analogWrite pin value => cases h
    | timerStart timer period => exact ⟨trivial, _, .start timer period, Except.ok.inj h⟩
    | timerStop timer => exact ⟨trivial, _, .stop timer, Except.ok.inj h⟩
    | conditional text => exact ⟨trivial, _, .conditional text, Except.ok.inj h⟩
  · rintro ⟨permitted, e, he, rfl⟩
    cases he with
    | declare hd => exact exec_pinMode.mpr ⟨permitted, _, hd, rfl⟩
    | level hon => exact exec_digitalWrite.mpr ⟨permitted, _, hon, rfl⟩
    | duty hpwm => exact exec_setDuty.mpr ⟨permitted, _, hpwm, rfl⟩
    | pulse hpwm hpercent => exact exec_timerPwm.mpr ⟨permitted, _, hpwm, _, hpercent, rfl⟩
    | wait ms => exact exec_wait.mpr ⟨permitted, rfl⟩
    | start timer period => rfl
    | stop timer => rfl
    | conditional text => rfl

theorem duration_nonneg {limits : Limits} {m : Machine} {statement : Statement} {e : Effect}
    (permitted : m.Permits limits statement) (h : statement.HasEffect e) : 0 ≤ e.duration := by
  cases h with
  | wait ms => exact permitted.1
  | _ => exact Int.le_refl 0

/-! ## The machine after an effect, pin by pin and timer by timer -/

@[simp] theorem get?_adjust (m : Machine) (pin q : Int) (f : PinState → PinState) :
    (m.adjust pin f).board.get? q =
      (m.board.get? q).map fun s => if q = pin then f s else s := by
  unfold adjust
  split
  next state hs =>
    rw [setPin, Board.get?_set]
    split_ifs with h
    · rw [h, hs]
      rfl
    · exact Option.map_id'.symm
  next hs =>
    split_ifs with h
    · rw [h, hs]
      rfl
    · exact Option.map_id'.symm

@[simp] theorem timer_adjust (m : Machine) (pin : Int) (f : PinState → PinState) (t : Timer) :
    (m.adjust pin f).timer t = m.timer t := by
  unfold adjust
  split <;> cases t <;> rfl

@[simp] theorem get?_setTimer (m : Machine) (t : Timer) (state : TimerState) (q : Int) :
    (m.setTimer t state).board.get? q = m.board.get? q := by
  cases t <;> rfl

@[simp] theorem timer_setTimer (m : Machine) (t u : Timer) (state : TimerState) :
    (m.setTimer t state).timer u = if u = t then state else m.timer u := by
  cases t <;> cases u <;> rfl

@[simp] theorem get?_after (m : Machine) (e : Effect) (q : Int) :
    (m.after e).board.get? q = (m.board.get? q).map (e.onPin q) := by
  cases e with
  | declare pin direction => exact get?_adjust m pin q _
  | level pin on => exact get?_adjust m pin q _
  | drive pin pwm duty => exact get?_adjust m pin q _
  | timer timer state =>
      rw [after, get?_setTimer]
      exact Option.map_id'.symm
  | idle => exact Option.map_id'.symm
  | elapse ms => exact Option.map_id'.symm

@[simp] theorem timer_after (m : Machine) (e : Effect) (t : Timer) :
    (m.after e).timer t = e.onTimer t (m.timer t) := by
  cases e with
  | timer timer state => exact timer_setTimer m timer t state
  | declare pin direction => exact timer_adjust m pin _ t
  | level pin on => exact timer_adjust m pin _ t
  | drive pin pwm duty => exact timer_adjust m pin _ t
  | idle => rfl
  | elapse ms => rfl

end Machine

end SketchGrader
