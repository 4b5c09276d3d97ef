import Fancon.Controller.System
import Fancon.Lib.KeyedInserts

/-! # Enumeration

`Devices(true)`: the fans and sensors of the chips that libsensors detects, then the fans and
sensors of the NVIDIA GPUs. Every builder stores what it finds under a label that it makes from
names of the hardware. The maps that result are those of `Devices.enumerate`, for the devices
found.
-/
set_option autoImplicit false
set_option maxHeartbeats 250000
set_option maxRecDepth 120000

namespace Fancon

open KeyedInserts

/-! ## What is asked of the system -/

/-- The file system below the adapters, and the drivers, while the devices are enumerated. -/
structure Hwmon extends Env where
  /-- `Util::real_path`. -/
  realPath : String → Option String
  /-- `Util::read<int>`. -/
  readInt : String → Option I32
  /-- `Util::write(path, 1)`. -/
  writeOne : String → Bool
  /-- `SMM::found`. -/
  smmFound : Bool

/-- `dir / name`, for a name that is not an absolute path. -/
def joinPath (dir name : String) : String :=
  if dir.isEmpty || dir.toList.getLast? == some '/' then dir ++ name else dir ++ "/" ++ name

/-- `path::filename`. -/
def filename (p : String) : String :=
  .ofList (p.toList.reverse.takeWhile (· != '/')).reverse

/-- `Util::postfix_num<uint>`, which reads the last run of digits. -/
def postfixNum (s : Text) : Option U32 :=
  let digits := ((s.reverse.dropWhile fun c => !c.isDigit).takeWhile Char.isDigit).reverse
  if digits.isEmpty then none else U32.fromString digits

/-- `Util::read<int>(path).value_or(0) > 0`. -/
def Hwmon.positive (hw : Hwmon) (p : String) : Bool :=
  (hw.readInt p).any fun v => decide (0 < v.val)

/-! ## `FanSysfs` and `SensorSysfs` -/

namespace FanSysfs

variable (hw : Hwmon) (adapterPath : String) (id : U32)

def getPwmPath : String := (hw.realPath (joinPath adapterPath ("pwm" ++ toString id.val))).getD ""

def getRpmPath : String :=
  (hw.realPath (joinPath adapterPath ("fan" ++ toString id.val ++ "_input"))).getD ""

def getEnablePath : String := (hw.realPath (getPwmPath hw adapterPath id ++ "_enable")).getD ""

def isFaulty : Bool := hw.positive (joinPath adapterPath ("fan" ++ toString id.val ++ "_fault"))

def paths : FanPaths :=
  ⟨getPwmPath hw adapterPath id, getRpmPath hw adapterPath id, getEnablePath hw adapterPath id,
    ⟨2, by decide⟩⟩

/-- The constructor; that of `FanDell` only hands on to it. -/
def new (label : String) (isDell : Bool) : FoundFan where
  label := label
  kind := if isDell then .dell (paths hw adapterPath id) else .sysfs (paths hw adapterPath id)
  ignore := isFaulty hw adapterPath id

end FanSysfs

namespace SensorSysfs

variable (hw : Hwmon)

def isFaulty (p : SensorPaths) : Bool := p.faultPath.any hw.positive

def enable (p : SensorPaths) : Bool :=
  !(p.enablePath.bind hw.readInt).any (fun mode => decide (mode.val ≤ 0)) ||
    p.enablePath.any hw.writeOne

def paths (devPath : String) : SensorPaths where
  inputPath := hw.realPath (devPath ++ "_input")
  enablePath := hw.realPath (devPath ++ "_enable")
  faultPath := hw.realPath (devPath ++ "_fault")
  minPath := hw.realPath (devPath ++ "_min")
  maxPath := hw.realPath (devPath ++ "_max")
  critPath := hw.realPath (devPath ++ "_crit")

/-- The constructor. -/
def new (label devPath : String) : Sensor where
  label := label
  ignore := isFaulty hw (paths hw devPath) || !enable hw (paths hw devPath)
  kind := .sysfs (paths hw devPath)

end SensorSysfs

/-! ## The chips -/

inductive FeatureType
  | fan
  | temp
  | other
deriving DecidableEq

/-- The flags of a subfeature. -/
structure Subfeature where
  readable : Bool
  computeMapping : Bool

structure Feature where
  name : String
  /-- `sensors_get_label`. -/
  label : Option String
  type : FeatureType
  /-- The input subfeature for its type. -/
  input : Option Subfeature

structure Chip where
  path : String
  /-- `sensors_snprintf_chip_name`. -/
  name : String
  features : List Feature

/-- `SMM::is_smm_dell`. -/
def Hwmon.isSmmDell (hw : Hwmon) (chipName : String) : Bool :=
  "dell_smm".toList.isPrefixOf chipName.toList && hw.smmFound

namespace SensorChips

variable (hw : Hwmon)

def label (sc : Chip) (sf : Feature) : String :=
  filename sc.path ++ "/" ++ sf.label.getD sf.name

def readable (sf : Feature) : Bool := sf.input.any fun ssf => ssf.readable && ssf.computeMapping

def newFan (sc : Chip) (sf : Feature) : FoundFan :=
  FanSysfs.new hw sc.path ((postfixNum sf.name.toList).getD 0) (label sc sf) (hw.isSmmDell sc.name)

def newSensor (sc : Chip) (sf : Feature) : Sensor :=
  SensorSysfs.new hw (label sc sf) (sc.path ++ "/" ++ sf.name)

def enumerateFeature (sc : Chip) (d : Devices) (sf : Feature) : Devices :=
  match sf.type with
  | .other => d
  | .fan =>
    if readable sf && (newFan hw sc sf).fan.valid hw.toEnv then
      { d with fans := d.fans.insertOrAssign (label sc sf) (newFan hw sc sf).fan }
    else d
  | .temp =>
    if readable sf && (newSensor hw sc sf).valid hw.toEnv then
      { d with sensors := d.sensors.insertOrAssign (label sc sf) (newSensor hw sc sf) }
    else d

/-- `SensorChips::enumerate`. -/
def enumerate (chips : List Chip) (d : Devices) : Devices :=
  chips.foldl (fun d sc => sc.features.foldl (enumerateFeature hw sc) d) d

/-- The fan that is made for a feature. -/
def fan? (sc : Chip) (sf : Feature) : Option FoundFan :=
  if sf.type = .fan ∧ readable sf = true then some (newFan hw sc sf) else none

def sensor? (sc : Chip) (sf : Feature) : Option Sensor :=
  if sf.type = .temp ∧ readable sf = true then some (newSensor hw sc sf) else none

/-- The fans that are made, valid or not. -/
def fans (chips : List Chip) : List FoundFan :=
  chips.flatMap fun sc => sc.features.filterMap (fan? hw sc)

def sensors (chips : List Chip) : List Sensor :=
  chips.flatMap fun sc => sc.features.filterMap (sensor? hw sc)

end SensorChips

/-! ## The GPUs -/

structure Gpu where
  /-- `get_gpu_product_name`. -/
  productName : String
  /-- The answer to `NV_CTRL_BINARY_DATA_COOLERS_USED_BY_GPU`. -/
  coolers : Option (List UInt8)
  /-- The answer to `NV_CTRL_BINARY_DATA_THERMAL_SENSORS_USED_BY_GPU`. -/
  thermalSensors : Option (List UInt8)

/-- `LibXNvCtrl::from_binary_data`. -/
def fromBinaryData (data : List UInt8) : List U32 :=
  (data.takeWhile (· != 0)).map fun b => U32.wrap ((b.toNat : ℤ) - 1)

/-- The GPUs that `get_num_GPUs` counts. -/
def Hwmon.gpus (hw : Hwmon) (gpus : List Gpu) : List Gpu := if hw.nvSupported then gpus else []

/-- The number that is put in a label if a GPU has several devices. -/
def idStr (ids : List U32) (id : U32) : String := if ids.length > 1 then toString id.val else ""

namespace FanNV

def new (label : String) (id : U32) : FoundFan := ⟨label, .nvidia id, false⟩

/-- The fans that are made for one GPU. -/
def ofGpu (gpu : Gpu) : List FoundFan :=
  match gpu.coolers with
  | none => []
  | some data =>
    let fanIds := fromBinaryData data
    fanIds.map fun id => new (gpu.productName ++ idStr fanIds id) id

def fans (hw : Hwmon) (gpus : List Gpu) : List FoundFan := (hw.gpus gpus).flatMap ofGpu

/-- `FanNV::enumerate`. -/
def enumerate (hw : Hwmon) (gpus : List Gpu) (m : UnorderedMap String Fan) :
    UnorderedMap String Fan :=
  (hw.gpus gpus).foldl (fun m gpu =>
    (ofGpu gpu).foldl (fun m f => m.insertOrAssign f.label f.fan) m) m

end FanNV

namespace SensorNV

def new (label : String) (id : U32) : Sensor := ⟨label, false, .nvidia id⟩

def ofGpu (gpu : Gpu) : List Sensor :=
  match gpu.thermalSensors with
  | none => []
  | some data =>
    let sensorIds := fromBinaryData data
    sensorIds.map fun id => new (gpu.productName ++ idStr sensorIds id ++ "_temp") id

def sensors (hw : Hwmon) (gpus : List Gpu) : List Sensor := (hw.gpus gpus).flatMap ofGpu

/-- `SensorNV::enumerate`. -/
def enumerate (hw : Hwmon) (gpus : List Gpu) (m : UnorderedMap String Sensor) :
    UnorderedMap String Sensor :=
  (hw.gpus gpus).foldl (fun m gpu =>
    (ofGpu gpu).foldl (fun m s => m.insertOrAssign s.label s) m) m

end SensorNV

/-! ## `Devices(true)` -/

/-- `Devices(true)`, from what libsensors and the driver answer. -/
def Devices.enumerated (hw : Hwmon) (chips : List Chip) (gpus : List Gpu) : Devices :=
  let d := SensorChips.enumerate hw chips {}
  ⟨FanNV.enumerate hw gpus d.fans, SensorNV.enumerate hw gpus d.sensors⟩

/-- The devices that are put in the maps, in the order in which they are. -/
def foundBy (hw : Hwmon) (chips : List Chip) (gpus : List Gpu) : Found where
  fans := (SensorChips.fans hw chips).filter (fun f => f.fan.valid hw.toEnv) ++ FanNV.fans hw gpus
  sensors := (SensorChips.sensors hw chips).filter (Sensor.valid hw.toEnv) ++
    SensorNV.sensors hw gpus

section

variable (hw : Hwmon) (chips : List Chip) (gpus : List Gpu)

theorem fans_enumerateFeature (sc : Chip) (d : Devices) (sf : Feature) :
    (SensorChips.enumerateFeature hw sc d sf).fans =
      assignAll Fan.label (((SensorChips.fan? hw sc sf).toList.filter fun f =>
        f.fan.valid hw.toEnv).map FoundFan.fan) d.fans := by
  unfold SensorChips.enumerateFeature SensorChips.fan?
  cases sf.type with
  | other => rfl
  | temp => cases SensorChips.readable sf && (SensorChips.newSensor hw sc sf).valid hw.toEnv <;> rfl
  | fan =>
    cases SensorChips.readable sf with
    | false => rfl
    | true =>
      cases hvalid : (SensorChips.newFan hw sc sf).fan.valid hw.toEnv with
      | false => simp [hvalid, assignAll]
      | true =>
        simp only [Bool.and_self, true_and, if_pos, Option.toList_some,
          List.filter_cons, hvalid, List.filter_nil, List.map_cons, List.map_nil]
        rfl

theorem sensors_enumerateFeature (sc : Chip) (d : Devices) (sf : Feature) :
    (SensorChips.enumerateFeature hw sc d sf).sensors =
      assignAll Sensor.label ((SensorChips.sensor? hw sc sf).toList.filter
        (Sensor.valid hw.toEnv)) d.sensors := by
  unfold SensorChips.enumerateFeature SensorChips.sensor?
  cases sf.type with
  | other => rfl
  | fan => cases SensorChips.readable sf && (SensorChips.newFan hw sc sf).fan.valid hw.toEnv <;> rfl
  | temp =>
    cases SensorChips.readable sf with
    | false => rfl
    | true =>
      cases hvalid : (SensorChips.newSensor hw sc sf).valid hw.toEnv with
      | false => simp [hvalid, assignAll]
      | true =>
        simp only [Bool.and_self, true_and, if_pos, Option.toList_some,
          List.filter_cons, hvalid, List.filter_nil]
        rfl

theorem SensorChips.fans_enumerate (d : Devices) :
    (SensorChips.enumerate hw chips d).fans =
      assignAll Fan.label (((SensorChips.fans hw chips).filter fun f =>
        f.fan.valid hw.toEnv).map FoundFan.fan) d.fans := by
  have hchip : ∀ (d : Devices) (sc : Chip),
      (sc.features.foldl (SensorChips.enumerateFeature hw sc) d).fans =
        assignAll Fan.label (((sc.features.filterMap (SensorChips.fan? hw sc)).filter fun f =>
          f.fan.valid hw.toEnv).map FoundFan.fan) d.fans := fun d sc => by
    rw [foldl_assignAll Devices.fans (fans_enumerateFeature hw sc) d sc.features,
      List.filterMap_eq_flatMap_toList, List.filter_flatMap, List.map_flatMap]
  rw [SensorChips.enumerate, foldl_assignAll Devices.fans hchip d chips, SensorChips.fans,
    List.filter_flatMap, List.map_flatMap]

theorem SensorChips.sensors_enumerate (d : Devices) :
    (SensorChips.enumerate hw chips d).sensors =
      assignAll Sensor.label ((SensorChips.sensors hw chips).filter (Sensor.valid hw.toEnv))
        d.sensors := by
  have hchip : ∀ (d : Devices) (sc : Chip),
      (sc.features.foldl (SensorChips.enumerateFeature hw sc) d).sensors =
        assignAll Sensor.label ((sc.features.filterMap (SensorChips.sensor? hw sc)).filter
          (Sensor.valid hw.toEnv)) d.sensors := fun d sc => by
    rw [foldl_assignAll Devices.sensors (sensors_enumerateFeature hw sc) d sc.features,
      List.filterMap_eq_flatMap_toList, List.filter_flatMap]
  rw [SensorChips.enumerate, foldl_assignAll Devices.sensors hchip d chips, SensorChips.sensors,
    List.filter_flatMap]

theorem FanNV.enumerate_eq (m : UnorderedMap String Fan) :
    FanNV.enumerate hw gpus m =
      assignAll Fan.label ((FanNV.fans hw gpus).map FoundFan.fan) m := by
  have hgpu : ∀ (m : UnorderedMap String Fan) (gpu : Gpu),
      (FanNV.ofGpu gpu).foldl (fun m f => m.insertOrAssign f.label f.fan) m =
        assignAll Fan.label ((FanNV.ofGpu gpu).map FoundFan.fan) m := fun m gpu => by
    rw [assignAll, List.foldl_map]
    rfl
  rw [FanNV.fans, List.map_flatMap]
  exact foldl_assignAll (fun m => m) hgpu m (hw.gpus gpus)

theorem SensorNV.enumerate_eq (m : UnorderedMap String Sensor) :
    SensorNV.enumerate hw gpus m = assignAll Sensor.label (SensorNV.sensors hw gpus) m :=
  foldl_assignAll (fun m => m) (fun _ _ => rfl) m (hw.gpus gpus)

/-- **Enumeration puts in the maps what it finds, in the order in which it finds it.** -/
theorem Devices.enumerated_eq :
    Devices.enumerated hw chips gpus = Devices.enumerate (foundBy hw chips gpus) := by
  have hfans : (Devices.enumerate (foundBy hw chips gpus)).fans =
      assignAll Fan.label ((foundBy hw chips gpus).fans.map FoundFan.fan) .empty := by
    rw [assignAll, List.foldl_map]
    rfl
  have hsensors : (Devices.enumerate (foundBy hw chips gpus)).sensors =
      assignAll Sensor.label (foundBy hw chips gpus).sensors .empty := rfl
  rw [foundBy] at hfans hsensors
  rw [List.map_append, assignAll_append] at hfans
  rw [assignAll_append] at hsensors
  rw [Devices.enumerated, FanNV.enumerate_eq, SensorNV.enumerate_eq, SensorChips.fans_enumerate,
    SensorChips.sensors_enumerate, ← hfans, ← hsensors, foundBy]

end

end Fancon
