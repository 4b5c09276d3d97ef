import Fancon.Controller.Enumeration

/-! # Devices that are lost to their labels

What tells the devices apart is the hardware id, but the maps are keyed by labels, and nothing
keeps the labels apart: they are made of names of the hardware, or are what the user wrote. Of the
devices with one label, enumeration keeps the last; `from` keeps the first sensor and the last
fan, though its duplicates are told by the hardware id.
-/
set_option autoImplicit false
set_option maxHeartbeats 250000
set_option maxRecDepth 120000

namespace Fancon

open KeyedInserts

section

variable {D M : Type} {valid : D → Bool} {hwId label : D → String} {seen : List String}

variable {build : M → Option D} {put : UnorderedMap String D → D → UnorderedMap String D}

end

/-! ## The chips -/

def SensorChips.madeFans (hw : Hwmon) (chips : List Chip) : List Fan :=
  (SensorChips.fans hw chips).map FoundFan.fan

def FanNV.ids (hw : Hwmon) (gpus : List Gpu) : List U32 :=
  (hw.gpus gpus).flatMap fun gpu => (gpu.coolers.map fromBinaryData).getD []

def SensorNV.ids (hw : Hwmon) (gpus : List Gpu) : List U32 :=
  (hw.gpus gpus).flatMap fun gpu => (gpu.thermalSensors.map fromBinaryData).getD []

def FanNV.madeFans (hw : Hwmon) (gpus : List Gpu) : List Fan :=
  (FanNV.fans hw gpus).map FoundFan.fan

theorem FanNV.hwIds (hw : Hwmon) (gpus : List Gpu) :
    (FanNV.madeFans hw gpus).map Fan.hwId =
      (FanNV.ids hw gpus).map fun id => "NV:f" ++ toString id.val := by
  rw [FanNV.madeFans, FanNV.fans, FanNV.ids, List.map_flatMap, List.map_flatMap, List.map_flatMap]
  refine congrArg (fun f => List.flatMap f (hw.gpus gpus)) (funext fun gpu => ?_)
  unfold FanNV.ofGpu
  cases gpu.coolers with
  | none => rfl
  | some data =>
    simp only [List.map_map, Option.map_some, Option.getD_some]
    rfl

theorem SensorNV.hwIds (hw : Hwmon) (gpus : List Gpu) :
    (SensorNV.sensors hw gpus).map Sensor.hwId =
      (SensorNV.ids hw gpus).map fun id => "NV:s" ++ toString id.val := by
  rw [SensorNV.sensors, SensorNV.ids, List.map_flatMap, List.map_flatMap]
  refine congrArg (fun f => List.flatMap f (hw.gpus gpus)) (funext fun gpu => ?_)
  unfold SensorNV.ofGpu
  cases gpu.thermalSensors with
  | none => rfl
  | some data =>
    simp only [List.map_map, Option.map_some, Option.getD_some]
    rfl

/-- The hardware ids of the valid sensors of a message. -/
def sensorHwIds (env : Env) (d : DevicesMsg) : List String :=
  ((d.sensor.filterMap (SensorMsg.build env)).filter (Sensor.valid env)).map Sensor.hwId

end Fancon
