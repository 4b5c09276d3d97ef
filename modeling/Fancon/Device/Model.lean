import Fancon.Fan.Curve

/-! # Fans and sensors

The objects of `fc::Fan`, `fc::Sensor` and their subclasses. A subclass is a `kind` that carries
the fields it adds. A fan holds its sensor by `shared_ptr`; the fields below are fixed once the
sensor is built, so the fan holds them as a value. The readings a sensor collects while it runs
are kept in `Fancon.Sensor.Average`.
-/
set_option autoImplicit false
set_option maxHeartbeats 250000
set_option maxRecDepth 120000

namespace Fancon

/-- `fc_pb::DevType`; a proto3 enum also holds values it has no name for. -/
inductive DevType
  | sys
  | dell
  | nvidia
  | other (value : I32)
deriving DecidableEq

/-! ## Sensors -/

structure SensorPaths where
  inputPath : Option String
  enablePath : Option String
  faultPath : Option String
  minPath : Option String
  maxPath : Option String
  critPath : Option String
deriving DecidableEq

/-- `SensorSysfs` and `SensorNV`. -/
inductive SensorKind
  | sysfs (paths : SensorPaths)
  | nvidia (id : U32)
deriving DecidableEq

structure Sensor where
  label : String
  ignore : Bool
  kind : SensorKind
deriving DecidableEq

/-- `hw_id`; a sysfs sensor is only asked for it once `valid` has seen its input path. -/
def Sensor.hwId (s : Sensor) : String :=
  match s.kind with
  | .sysfs p => p.inputPath.getD ""
  | .nvidia id => "NV:s" ++ toString id.val

/-! ## Fans -/

/-- The fields `FanSysfs` adds; `manual_flag` is the constant 1. -/
structure FanPaths where
  pwmPath : String
  rpmPath : String
  enablePath : String
  driverFlag : I32
deriving DecidableEq

inductive FanKind
  | sysfs (paths : FanPaths)
  | dell (paths : FanPaths)
  | nvidia (id : U32)
deriving DecidableEq

/-- The anonymous `smoothing` struct of `Fan`. -/
structure Smoothing where
  justStarted : Bool := true
  remIntervals : ℤ := 0
  targetedRpm : Rpm := 0
  topStickinessRemIntervals : ℤ := 0
deriving DecidableEq

/-- `milliseconds`, a signed 64-bit count. -/
abbrev Millis := {z : ℤ // -9223372036854775808 ≤ z ∧ z < 9223372036854775808}

instance Millis.instZero : Zero Millis := ⟨⟨0, by decide⟩⟩

structure Fan where
  label : String
  ignore : Bool
  sensor : Option Sensor
  rpmToPwm : RpmToPwm
  tempToRpm : TempToRpm
  startPwm : Pwm
  interval : Millis
  enabled : Bool
  smoothing : Smoothing
  kind : FanKind
deriving DecidableEq

namespace Fan

def hwId (f : Fan) : String :=
  match f.kind with
  | .sysfs p => p.pwmPath
  | .dell p => p.pwmPath
  | .nvidia id => "NV:f" ++ toString id.val

def type (f : Fan) : DevType :=
  match f.kind with
  | .sysfs _ => .sys
  | .dell _ => .dell
  | .nvidia _ => .nvidia

def tested (f : Fan) : Bool :=
  decide (PWM_MIN ≤ f.startPwm) && decide (f.startPwm ≤ PWM_MAX) && !f.rpmToPwm.entries.isEmpty

/-- `Fan::is_configured`, less its log line. -/
def isConfigured (f : Fan) : Bool :=
  let ce := f.tempToRpm.entries.isEmpty
  let se := f.sensor.isNone
  let si := f.sensor.any Sensor.ignore
  !(ce || se || si)

end Fan

/-! ## What a test changes -/

/-- The fields of a fan that a run of `Fan::test` sets. -/
structure TestResult where
  rpmToPwm : RpmToPwm
  startPwm : Pwm
  driverFlag : I32
  enabled : Bool
deriving DecidableEq

/-- The driver flag that `test_driver_enable_flag` finds; an NVIDIA fan has none. -/
def FanKind.withDriverFlag (driverFlag : I32) : FanKind → FanKind
  | .sysfs p => .sysfs { p with driverFlag := driverFlag }
  | .dell p => .dell { p with driverFlag := driverFlag }
  | .nvidia id => .nvidia id

def Fan.afterTest (f : Fan) (r : TestResult) : Fan :=
  { f with
    rpmToPwm := r.rpmToPwm
    startPwm := r.startPwm
    kind := f.kind.withDriverFlag r.driverFlag
    enabled := r.enabled }

theorem Fan.hwId_afterTest (f : Fan) (r : TestResult) : (f.afterTest r).hwId = f.hwId := by
  unfold Fan.hwId Fan.afterTest
  cases f.kind <;> rfl

end Fancon
