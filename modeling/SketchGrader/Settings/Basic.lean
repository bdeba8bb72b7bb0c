import SketchGrader.Document.Datum
import SketchGrader.Number.Weighing

/-!
# Settings

What a teacher can adjust, with the values that hold when nothing is said. The document of some
settings has every field, whether its value is the usual one or not.
-/

namespace SketchGrader

/-- The ranges within which a sketch has to stay. -/
structure Limits where
  maxWaitMs : Int := 10000
  maxDutyPercent : Int := 100
  periodMinUs : Int := 10000
  periodMaxUs : Int := 50000
  deriving DecidableEq, Repr

/-- The pins that a sketch may use unless the settings say otherwise. -/
def defaultPins : List Int := [8, 9, 10, 11, 12, 13]

/-- How strictly two timelines are compared. The weights are machine numbers unless another kind is
asked for. -/
structure CompareSettings (α : Type := Float) [Weighing α] where
  toleranceMs : Int := 50
  simultaneousBelowMs : Int := 10
  simultaneousToleranceMs : Int := 100
  pwmTolerance : Int := 25
  passScore : Int := 80
  intervalWeight : α := 0.40
  pinWeight : α := 0.25
  stateWeight : α := 0.25
  pwmWeight : α := 0.10

structure LiveSettings where
  stepDelayMs : Int := 50
  maxIterations : Int := 1000
  deriving DecidableEq, Repr

structure LogSettings where
  enabled : Bool := true
  level : String := "INFO"
  file : Option String := none
  modules : List (String × String) := []
  deriving DecidableEq, Repr

structure Settings (α : Type := Float) [Weighing α] where
  usablePins : List Int := defaultPins
  limits : Limits := {}
  compare : CompareSettings α := {}
  live : LiveSettings := {}
  log : LogSettings := {}
  levelsPath : String := "config/levels.yaml"

/-! ## Settings as documents -/

def Limits.toDatum (l : Limits) : Datum :=
  .record [("max_wait_ms", .int l.maxWaitMs), ("max_duty_percent", .int l.maxDutyPercent),
    ("timer1_period_min_us", .int l.periodMinUs), ("timer1_period_max_us", .int l.periodMaxUs)]

def CompareSettings.toDatum (s : CompareSettings) : Datum :=
  .record [("tolerance_ms", .int s.toleranceMs),
    ("simultaneous_below_ms", .int s.simultaneousBelowMs),
    ("simultaneous_tolerance_ms", .int s.simultaneousToleranceMs),
    ("pwm_tolerance", .int s.pwmTolerance), ("pass_score", .int s.passScore),
    ("interval_weight", .real s.intervalWeight), ("pin_weight", .real s.pinWeight),
    ("state_weight", .real s.stateWeight), ("pwm_weight", .real s.pwmWeight)]

def LiveSettings.toDatum (s : LiveSettings) : Datum :=
  .record [("step_delay_ms", .int s.stepDelayMs), ("max_iterations", .int s.maxIterations)]

def LogSettings.toDatum (s : LogSettings) : Datum :=
  .record [("enabled", .bool s.enabled), ("level", .text s.level),
    ("file", match s.file with
      | some path => .text path
      | none => .null),
    ("modules", .record (s.modules.map fun entry => (entry.1, .text entry.2)))]

def Settings.toDatum (s : Settings) : Datum :=
  .record [("board", .record [("usable_pins", .list (s.usablePins.map .int))]),
    ("limits", s.limits.toDatum), ("validation", s.compare.toDatum), ("live", s.live.toDatum),
    ("logging", s.log.toDatum), ("levels_path", .text s.levelsPath)]

end SketchGrader
