import Fancon.Device.Model
import Fancon.Controller.Settings
import Fancon.Fan.CurveText
import Fancon.Lib.UnorderedMap

/-! # Devices and their messages

`from` and `to` of the fans, the sensors and `Devices`. What a device is checked against while it
is loaded (the file system, the NVIDIA and the Dell driver) is an environment that stays the same
for the time of a load.
-/
set_option autoImplicit false
set_option maxHeartbeats 250000
set_option maxRecDepth 120000

namespace Fancon

/-! ## Messages -/

/-- `uint64`. -/
abbrev U64 := Fin 18446744073709551616

instance U64.neZero : NeZero (18446744073709551616 : ℕ) := ⟨by decide⟩

/-- `fc_pb::Fan`. -/
structure FanMsg where
  type : DevType := .sys
  label : String := ""
  sensor : String := ""
  tempToRpm : Text := []
  rpmToPwm : Text := []
  startPwm : U32 := 0
  interval : U64 := 0
  ignore : Bool := false
  driverFlag : I32 := 0
  pwmPath : String := ""
  rpmPath : String := ""
  enablePath : String := ""
  id : U32 := 0
deriving DecidableEq

structure SensorMsg where
  type : DevType := .sys
  label : String := ""
  inputPath : String := ""
  enablePath : String := ""
  faultPath : String := ""
  minPath : String := ""
  maxPath : String := ""
  critPath : String := ""
  id : U32 := 0
deriving DecidableEq

structure DevicesMsg where
  fan : List FanMsg := []
  sensor : List SensorMsg := []
deriving DecidableEq

structure ControllerMsg where
  config : ControllerConfig := {}
  devices : DevicesMsg := {}
deriving DecidableEq

/-! ## The environment -/

/-- What loading a device asks the system. -/
structure Env where
  /-- `fs::exists`. -/
  fileExists : String → Bool
  /-- `SMM` finds the fan whose number ends the path. -/
  smmFan : String → Bool
  /-- `NV::xnvlib->supported`. -/
  nvSupported : Bool
  /-- `xnvlib->pwm_percent.read(id)` has a value. -/
  nvPwm : U32 → Bool
  /-- `xnvlib->temp.read(id)` has a value. -/
  nvTemp : U32 → Bool
  /-- What `pwm_to_rpm` reads before the first entry. -/
  stray : Pwm → Rpm

/-! ## Sensors -/

/-- The sensor of a message, if there is one for its type. -/
def SensorMsg.build (env : Env) (s : SensorMsg) : Option Sensor :=
  match s.type with
  | .sys | .dell => some ⟨s.label, false, .sysfs
      ⟨s.inputPath, s.enablePath, s.faultPath, s.minPath, s.maxPath, s.critPath⟩⟩
  | .nvidia => if env.nvSupported then some ⟨s.label, false, .nvidia s.id⟩ else none
  | .other _ => none

def Sensor.valid (env : Env) (s : Sensor) : Bool :=
  match s.kind with
  | .sysfs p => p.inputPath.any env.fileExists
  | .nvidia id => env.nvTemp id

/-- `Sensor::to`; a path that is not set is left empty. -/
def Sensor.save (s : Sensor) : SensorMsg :=
  match s.kind with
  | .sysfs p =>
    { type := .sys, label := s.label, inputPath := p.inputPath.getD "",
      enablePath := p.enablePath.getD "", faultPath := p.faultPath.getD "",
      minPath := p.minPath.getD "", maxPath := p.maxPath.getD "",
      critPath := p.critPath.getD "" }
  | .nvidia id => { type := .nvidia, label := s.label, id := id }

def Sensor.deepEqual (s t : Sensor) : Bool := decide (s.save = t.save)

/-! ## Fans -/

/-- `milliseconds` of a `uint64`. -/
def Millis.ofU64 (n : U64) : Millis :=
  ⟨Int.bmod n.val 18446744073709551616, by
    have := Int.le_bmod (x := n.val) (m := 18446744073709551616) (by omega)
    have := Int.bmod_lt (x := n.val) (m := 18446744073709551616) (by omega)
    omega⟩

/-- `count()` as a `uint64`. -/
def Millis.toU64 (z : Millis) : U64 := ⟨(z.val % 18446744073709551616).toNat, by omega⟩

theorem Millis.val_ofU64 (n : U64) :
    (Millis.ofU64 n).val = Int.bmod n.val 18446744073709551616 := by
  unfold Millis.ofU64
  dsimp only

theorem Millis.val_toU64 (z : Millis) : (z.toU64.val : ℤ) = z.val % 18446744073709551616 := by
  simp only [Millis.toU64]
  omega

/-- The fan of a message, given what its subclass takes from it: `Fan::from` on a new object. -/
def FanMsg.fan (env : Env) (sensors : UnorderedMap String Sensor) (f : FanMsg) (kind : FanKind) :
    Fan where
  label := f.label
  ignore := f.ignore
  sensor := sensors.find? f.sensor
  rpmToPwm := RpmToPwm.read .empty f.rpmToPwm
  tempToRpm := TempToRpm.read env.stray (RpmToPwm.read .empty f.rpmToPwm) .empty f.tempToRpm
  startPwm := clampPwm f.startPwm
  interval := .ofU64 f.interval
  enabled := false
  smoothing := {}
  kind := kind

/-- What the subclass of a message's type takes from it. -/
def FanMsg.kind (env : Env) (f : FanMsg) : Option FanKind :=
  match f.type with
  | .sys => some (.sysfs ⟨f.pwmPath, f.rpmPath, f.enablePath, f.driverFlag⟩)
  | .dell => some (.dell ⟨f.pwmPath, f.rpmPath, f.enablePath, f.driverFlag⟩)
  | .nvidia => if env.nvSupported then some (.nvidia f.id) else none
  | .other _ => none

def FanMsg.build (env : Env) (sensors : UnorderedMap String Sensor) (f : FanMsg) : Option Fan :=
  (f.kind env).map (f.fan env sensors)

/-- `FanMsg.build`, unless a search runs off one of the texts. -/
def FanMsg.build? (env : Env) (sensors : UnorderedMap String Sensor) (f : FanMsg) :
    Option (Option Fan) :=
  match f.kind env with
  | none => some none
  | some kind =>
    (RpmToPwm.read? .empty f.rpmToPwm).bind fun rpmToPwm =>
      (TempToRpm.read? env.stray rpmToPwm .empty f.tempToRpm).map fun tempToRpm =>
        some { f.fan env sensors kind with rpmToPwm := rpmToPwm, tempToRpm := tempToRpm }

def Fan.valid (env : Env) (f : Fan) : Bool :=
  match f.kind with
  | .sysfs p => env.fileExists p.pwmPath && env.fileExists p.rpmPath
  | .dell p => env.fileExists p.pwmPath && env.fileExists p.rpmPath && env.smmFan p.pwmPath
  | .nvidia id => env.nvPwm id

/-- `Fan::to` of the base class. -/
def Fan.saveBase (f : Fan) : FanMsg where
  label := f.label
  sensor := (f.sensor.map Sensor.label).getD ""
  rpmToPwm := f.rpmToPwm.str
  tempToRpm := f.tempToRpm.str
  startPwm := f.startPwm
  interval := f.interval.toU64
  ignore := f.ignore

/-- `Fan::to`. -/
def Fan.save (f : Fan) : FanMsg :=
  match f.kind with
  | .sysfs p =>
    { f.saveBase with
      type := .sys, pwmPath := p.pwmPath, rpmPath := p.rpmPath
      enablePath := p.enablePath, driverFlag := p.driverFlag }
  | .dell p =>
    { f.saveBase with
      type := .dell, pwmPath := p.pwmPath, rpmPath := p.rpmPath
      enablePath := p.enablePath, driverFlag := p.driverFlag }
  | .nvidia id => { f.saveBase with type := .nvidia, id := id }

def Fan.deepEqual (f g : Fan) : Bool := decide (f.save = g.save)

/-! ## `Devices` -/

structure Devices where
  fans : UnorderedMap String Fan := .empty
  sensors : UnorderedMap String Sensor := .empty
deriving DecidableEq

/-- The part of `Devices::from` that fans and sensors share: a message whose device cannot be
built, is not valid or has a hardware id that was seen before is skipped. -/
def loadDevice {M D : Type} (build : M → Option D) (valid : D → Bool) (hwId : D → String)
    (put : UnorderedMap String D → D → UnorderedMap String D)
    (acc : List String × UnorderedMap String D) (msg : M) :
    List String × UnorderedMap String D :=
  match build msg with
  | none => acc
  | some dev =>
    if valid dev = true ∧ hwId dev ∉ acc.1 then (hwId dev :: acc.1, put acc.2 dev) else acc

def loadSensors (env : Env) (msgs : List SensorMsg) : List String × UnorderedMap String Sensor :=
  msgs.foldl (loadDevice (SensorMsg.build env) (Sensor.valid env) Sensor.hwId
    fun m s => m.emplace s.label s) ([], .empty)

def loadFans (env : Env) (sensors : List String × UnorderedMap String Sensor)
    (msgs : List FanMsg) : List String × UnorderedMap String Fan :=
  msgs.foldl (loadDevice (FanMsg.build env sensors.2) (Fan.valid env) Fan.hwId
    fun m f => m.insertOrAssign f.label f) (sensors.1, .empty)

/-- `Devices::from` on no devices, where each search for an item reaches to the end of its text. -/
def Devices.load (env : Env) (d : DevicesMsg) : Devices :=
  let sensors := loadSensors env d.sensor
  ⟨(loadFans env sensors d.fan).2, sensors.2⟩

def loadFan? (env : Env) (sensors : UnorderedMap String Sensor)
    (acc : List String × UnorderedMap String Fan) (msg : FanMsg) :
    Option (List String × UnorderedMap String Fan) :=
  (msg.build? env sensors).map fun dev => loadDevice (fun _ => dev) (Fan.valid env) Fan.hwId
    (fun m f => m.insertOrAssign f.label f) acc msg

/-- `Devices::from` on no devices, unless a search runs off a text. -/
def Devices.load? (env : Env) (d : DevicesMsg) : Option Devices :=
  let sensors := loadSensors env d.sensor
  (d.fan.foldlM (loadFan? env sensors.2) (sensors.1, .empty)).map fun fans =>
    ⟨fans.2, sensors.2⟩

/-- `Devices::to`. -/
def Devices.save (d : Devices) : DevicesMsg :=
  ⟨d.fans.entries.map fun e => e.2.save, d.sensors.entries.map fun e => e.2.save⟩

end Fancon
