import SketchGrader.Document.Checked
import SketchGrader.Settings.Basic

/-!
# Settings from documents

Each group of settings is a record; what is left out keeps its usual value.
-/

namespace SketchGrader

open Datum

def Limits.ofDatum : Datum → Checked Limits
  | .record fields =>
    let usual : Limits := {}
    Limits.mk
      <$> optional fields "max_wait_ms" usual.maxWaitMs checkInt
      <*> optional fields "max_duty_percent" usual.maxDutyPercent checkInt
      <*> optional fields "timer1_period_min_us" usual.periodMinUs checkInt
      <*> optional fields "timer1_period_max_us" usual.periodMaxUs checkInt
  | _ => .object .notRecord

def CompareSettings.ofDatum : Datum → Checked CompareSettings
  | .record fields =>
    let usual : CompareSettings := {}
    CompareSettings.mk
      <$> optional fields "tolerance_ms" usual.toleranceMs checkInt
      <*> optional fields "simultaneous_below_ms" usual.simultaneousBelowMs checkInt
      <*> optional fields "simultaneous_tolerance_ms" usual.simultaneousToleranceMs checkInt
      <*> optional fields "pwm_tolerance" usual.pwmTolerance checkInt
      <*> optional fields "pass_score" usual.passScore checkInt
      <*> optional fields "interval_weight" usual.intervalWeight checkFloat
      <*> optional fields "pin_weight" usual.pinWeight checkFloat
      <*> optional fields "state_weight" usual.stateWeight checkFloat
      <*> optional fields "pwm_weight" usual.pwmWeight checkFloat
  | _ => .object .notRecord

def usablePinsOfDatum : Datum → Checked (List Int)
  | .record fields => optional fields "usable_pins" defaultPins (checkList checkInt)
  | _ => .object .notRecord

def LiveSettings.ofDatum : Datum → Checked LiveSettings
  | .record fields =>
    let usual : LiveSettings := {}
    LiveSettings.mk
      <$> optional fields "step_delay_ms" usual.stepDelayMs checkInt
      <*> optional fields "max_iterations" usual.maxIterations checkInt
  | _ => .object .notRecord

def LogSettings.levels : List (String × String) :=
  ["DEBUG", "INFO", "WARNING", "ERROR"].map fun name => (name, name)

def LogSettings.ofDatum : Datum → Checked LogSettings
  | .record fields =>
    let usual : LogSettings := {}
    LogSettings.mk
      <$> optional fields "enabled" usual.enabled checkBool
      <*> optional fields "level" usual.level (checkChoice levels)
      <*> optional fields "file" usual.file checkOptionalText
      <*> optional fields "modules" usual.modules checkTable
  | _ => .object .notRecord

def Settings.ofDatum : Datum → Checked Settings
  | .record fields =>
    let usual : Settings := {}
    Settings.mk
      <$> optional fields "board" usual.usablePins usablePinsOfDatum
      <*> optional fields "limits" usual.limits Limits.ofDatum
      <*> optional fields "validation" usual.compare CompareSettings.ofDatum
      <*> optional fields "live" usual.live LiveSettings.ofDatum
      <*> optional fields "logging" usual.log LogSettings.ofDatum
      <*> optional fields "levels_path" usual.levelsPath checkText
  | _ => .object .notRecord

end SketchGrader
