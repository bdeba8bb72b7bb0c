import SketchGrader.Proofs.Effect

/-!
# Checks and assignments

A statement is carried out by checks and by assignments to single fields, one after the other, and
an assignment stays even if a later check fails. All checks come in front of the first assignment,
so a statement that fails leaves the machine as it was.
-/

namespace SketchGrader

theorem Board.set_set (b : Board) (pin : Int) (first second : PinState) :
    (b.set pin first).set pin second = b.set pin second := by
  simp only [set, List.map_map]
  congr 2
  funext entry
  by_cases h : entry.1 = pin <;> simp [h]

/-- What changes a machine step by step and may fail. The changes made before a failure stay. -/
abbrev Action := ExceptT Problem (StateM Machine)

namespace Action

/-- Goes on only if a check passes. -/
def check {α : Type} (x : Except Problem α) : Action α := ExceptT.mk (pure x)

/-- Changes a field of a pin. -/
def assign (pin : Int) (f : PinState → PinState) : Action Unit :=
  modify fun m => m.adjust pin f

/-- Gives a pin a pulse width and then a duty. -/
def drive (pin pwm duty : Int) : Action Unit := do
  assign pin fun s => { s with pwm := max 0 (min 255 pwm) }
  assign pin fun s => { s with duty }

/-- Carries out a statement. -/
def ofStatement (limits : Limits) : Statement → Action Unit
  | .pinMode pin mode => do
    let m ← get
    let _ ← check (m.pinState pin)
    if mode = "INPUT".toList then assign pin fun s => { s with direction := .input }
    else if mode = "OUTPUT".toList then assign pin fun s => { s with direction := .output }
    else check (.error (.cause (.badKeyword .mode (String.ofList mode))))
  | .digitalWrite pin level => do
    let m ← get
    let state ← check (m.pinState pin)
    check (Machine.require (level == "HIGH".toList || level == "LOW".toList)
      (.badKeyword .level (String.ofList level)))
    check (Machine.require (state.direction == .output) (.notOutput pin "digitalWrite"))
    assign pin fun s => { s with level := level == "HIGH".toList }
  | .setDuty pin percent => do
    let m ← get
    let state ← check (m.pinState pin)
    check (Machine.require (0 ≤ percent && percent ≤ limits.maxDutyPercent)
      (.dutyOutOfRange percent limits.maxDutyPercent))
    check (Machine.require (state.direction == .output) (.notOutput pin "setDutyCycle"))
    let pwm ← check (Machine.computed (Scale.percentToPwm percent))
    drive pin pwm percent
  | .analogWrite pin _ => check (.error (.cause (.legacyWrite (toString pin))))
  | .timerStart timer period => modify fun m => m.setTimer timer (.running period)
  | .timerPwm timer pin duty => do
    let m ← get
    check (Machine.require (m.timer timer != .stopped) (.timerNotStarted timer))
    let state ← check (m.pinState pin)
    check (Machine.require (0 ≤ duty && duty ≤ timer.rawMax)
      (.rawDutyOutOfRange duty timer.rawMax))
    check (Machine.require (state.direction == .output) (.notOutput pin (timer.label ++ ".pwm")))
    let pwm ← check (Machine.computed (Scale.convert duty timer.rawMax 255))
    let percent ← check (Machine.computed (Scale.convert duty timer.rawMax 100))
    drive pin pwm percent
  | .timerStop timer => modify fun m => m.setTimer timer .stopped
  | .wait ms =>
    check (Machine.require (0 ≤ ms && ms ≤ limits.maxWaitMs) (.waitOutOfRange ms limits.maxWaitMs))
  | .conditional _ => pure ()

/-- An action that succeeds with the machine of an outcome, or fails as it does and leaves the
machine as it was. -/
def Does (a : Action Unit) (m : Machine) (outcome : Except Problem Machine) : Prop :=
  a.run.run m =
    match outcome with
    | .ok m' => (.ok (), m')
    | .error problem => (.error problem, m)

theorem run_bind {α β : Type} (a : Action α) (next : α → Action β) (m : Machine) :
    (a >>= next).run.run m =
      match a.run.run m with
      | (.ok value, m') => (next value).run.run m'
      | (.error problem, m') => (.error problem, m') := by
  change ExceptT.bindCont next (a m).1 (a m).2 =
    match a m with
    | (.ok value, m') => (next value).run.run m'
    | (.error problem, m') => (.error problem, m')
  obtain ⟨result, m'⟩ := a m
  cases result with
  | error problem => rfl
  | ok value => rfl

section
variable {m : Machine}

theorem Does.get {next : Machine → Action Unit} {outcome : Except Problem Machine}
    (h : (next m).Does m outcome) : Does (MonadState.get >>= next) m outcome := h

theorem Does.check {α : Type} {x : Except Problem α} {next : α → Action Unit}
    {outcome : α → Except Problem Machine} (h : ∀ a, x = .ok a → (next a).Does m (outcome a)) :
    Does (Action.check x >>= next) m (x >>= outcome) := by
  cases x with
  | error problem => rfl
  | ok a => exact h a rfl

theorem does_assign {pin : Int} {state : PinState} (h : m.pinState pin = .ok state)
    (f : PinState → PinState) : (assign pin f).Does m (.ok (m.setPin pin (f state))) := by
  rw [← Machine.adjust_of_get? (Machine.pinState_eq_ok.mp h)]
  rfl

theorem does_drive {pin : Int} {state : PinState} (h : m.pinState pin = .ok state)
    (pwm duty : Int) : (drive pin pwm duty).Does m (.ok (m.setPin pin (state.drive pwm duty))) := by
  have hs := Machine.pinState_eq_ok.mp h
  have twice : (m.adjust pin fun s => { s with pwm := max 0 (min 255 pwm) }).adjust pin
      (fun s => { s with duty }) = m.setPin pin (state.drive pwm duty) := by
    rw [Machine.adjust_of_get? hs, Machine.adjust, Machine.setPin, Board.get?_set, if_pos rfl, hs]
    simp only [Option.map_some, Machine.setPin, Board.set_set]
    rfl
  rw [← twice]
  rfl

/-- Carrying out a statement step by step gives what executing it gives. -/
theorem ofStatement_does (limits : Limits) (m : Machine) (statement : Statement) :
    (ofStatement limits statement).Does m (m.exec limits statement) := by
  cases statement with
  | pinMode pin mode =>
      refine .get (.check fun state hs => ?_)
      split_ifs
      · exact does_assign hs _
      · exact does_assign hs _
      · rfl
  | digitalWrite pin level =>
      refine .get (.check fun state hs => .check fun _ _ => .check fun _ _ => ?_)
      exact does_assign hs _
  | setDuty pin percent =>
      refine .get (.check fun state hs => .check fun _ _ => .check fun _ _ => .check fun pwm _ => ?_)
      exact does_drive hs pwm percent
  | timerPwm timer pin duty =>
      refine .get (.check fun _ _ => .check fun state hs => .check fun _ _ => .check fun _ _ =>
        .check fun pwm _ => .check fun percent _ => ?_)
      exact does_drive hs pwm percent
  | wait ms =>
      rw [ofStatement, Machine.exec]
      cases Machine.require (0 ≤ ms && ms ≤ limits.maxWaitMs)
          (.waitOutOfRange ms limits.maxWaitMs) with
      | error problem => rfl
      | ok u => rfl
  | analogWrite pin value => rfl
  | timerStart timer period => rfl
  | timerStop timer => rfl
  | conditional text => rfl

end

/-- Carries out the statement that a line holds, if any. -/
def ofLine (limits : Limits) (text : Text) : Action (Option Statement) :=
  match Statement.ofLine? text with
  | .error problem => check (.error problem)
  | .ok none => pure none
  | .ok (some statement) => do
    ofStatement limits statement
    return some statement

/-- A line either succeeds as it does on the machine at once, or fails so and leaves every pin and
every timer as it was. -/
theorem run_ofLine (limits : Limits) (m : Machine) (number : Int) (text : Text) :
    match (ofLine limits text).run.run m with
    | (.ok found, m') => m.execLine limits number text = .ok (found, m')
    | (.error problem, m') =>
      m.execLine limits number text = .error (problem.atLine number) ∧ m' = m := by
  unfold ofLine Machine.execLine
  cases Statement.ofLine? text with
  | error problem => exact ⟨rfl, rfl⟩
  | ok found =>
      cases found with
      | none => rfl
      | some statement =>
          have does := ofStatement_does limits m statement
          unfold Does at does
          simp only [run_bind, does]
          cases m.exec limits statement with
          | error problem => exact ⟨rfl, rfl⟩
          | ok m' => rfl

end Action

end SketchGrader
