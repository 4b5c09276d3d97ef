import Fancon.Device.Serialise

/-! # The operations of the controller

Each operation as it runs from its call to its return, with nothing else in between. The task
thread of an enabled fan shows in two places only: it returns control when its task is erased,
and a test ends with `testComplete`. An operation that joins the thread of a running test while
it holds the task lock of that fan never returns, and a step whose behaviour is undefined has no
state after it; both are `none`. What a test writes to its fan while it runs is a step of its own,
`testWrites`, of which there may be any number.

Loops over a hash map take its keys at the start; no loop body adds one.
-/
set_option autoImplicit false
set_option maxHeartbeats 250000
set_option maxRecDepth 120000

namespace Fancon

/-- `FanTask`: the thread of an enabled fan or of a test. -/
structure Task where
  testing : Bool
deriving DecidableEq

structure Controller where
  settings : Settings := {}
  devices : Devices := {}
  tasks : SortedMap String Task := .empty

/-- Whether the device accepts a change of its control mode. -/
structure Driver where
  enables : Fan → Bool
  disables : Fan → Bool

/-! ## Control of one fan -/

def Fan.enableControl (drv : Driver) (f : Fan) : Bool × Fan :=
  if drv.enables f then (true, { f with enabled := true }) else (false, f)

def Fan.disableControl (drv : Driver) (f : Fan) : Fan :=
  if drv.disables f then { f with enabled := false } else f

def Fan.tryEnable (drv : Driver) (f : Fan) : Bool × Fan :=
  if f.ignore then (false, f)
  else
    let r := f.enableControl drv
    if !r.1 then (false, r.2.disableControl drv) else (true, r.2)

namespace Controller

def fan? (c : Controller) (l : String) : Option Fan := c.devices.fans.find? l

def setFan (c : Controller) (l : String) (f : Fan) : Controller :=
  { c with devices := { c.devices with fans := c.devices.fans.insertOrAssign l f } }

def setTasks (c : Controller) (tasks : SortedMap String Task) : Controller :=
  { c with tasks := tasks }

def testing? (c : Controller) (l : String) : Option Bool := (c.tasks.find? l).map Task.testing

variable (drv : Driver)

/-! ## `enable` -/

/-- `enable`, given what it does about the other Dell fans. -/
def enableWith (dellFans : String → Controller → Controller) (c : Controller) (l : String) :
    Controller :=
  match c.fan? l with
  | none => c
  | some f =>
    if c.tasks.contains f.label then c
    else
      let r := f.tryEnable drv
      let c := c.setFan l r.2
      if !r.1 || !r.2.isConfigured then c
      else
        let c := if f.type = .dell then dellFans f.label c else c
        c.setTasks (c.tasks.emplace f.label ⟨false⟩)

/-- `enable(f, false)`. -/
def enableAlone (c : Controller) (l : String) : Controller := enableWith drv (fun _ c => c) c l

def enableDellFan (exceptLabel : Option String) (c : Controller) (l : String) : Controller :=
  if (c.fan? l).any (fun f => decide (f.type = .dell)) ∧ exceptLabel ≠ some l then
    c.enableAlone drv l
  else c

def enableDellFans (exceptLabel : Option String) (c : Controller) : Controller :=
  c.devices.fans.keys.foldl (enableDellFan drv exceptLabel) c

/-- `enable(f, true)`. -/
def enable (c : Controller) (l : String) : Controller :=
  enableWith drv (fun label c => c.enableDellFans drv (some label)) c l

def enableAll (c : Controller) : Controller := c.devices.fans.keys.foldl (enableAlone drv) c

/-! ## `disable` -/

/-- `tasks.erase`: the thread of the fan is joined. It returns control of the fan; that of a test
does not end as long as the task lock is held. -/
def eraseTask (c : Controller) (l : String) : Option Controller :=
  match c.tasks.find? l with
  | none => some c
  | some task =>
    if task.testing then none
    else
      let c := c.setTasks (c.tasks.erase l)
      match c.fan? l with
      | some f => some (c.setFan l (f.disableControl drv))
      | none => some c

/-- `disable`, given what it does about the other Dell fans. -/
def disableWith (dellFans : String → Controller → Option Controller) (c : Controller)
    (l : String) : Option Controller :=
  if !c.tasks.contains l then some c
  else
    (c.eraseTask drv l).bind fun c =>
    match c.fan? l with
    | none => some c
    | some f =>
      let c := c.setFan l (f.disableControl drv)
      if f.type = .dell then dellFans l c else some c

/-- `disable(flabel, false)`. -/
def disableAlone (c : Controller) (l : String) : Option Controller :=
  disableWith drv (fun _ c => some c) c l

def disableDellFan (exceptLabel : Option String) (c : Controller) (l : String) :
    Option Controller :=
  if (c.fan? l).any (fun f => decide (f.type = .dell)) ∧ exceptLabel ≠ some l then
    c.disableAlone drv l
  else some c

def disableDellFans (exceptLabel : Option String) (c : Controller) : Option Controller :=
  c.devices.fans.keys.foldlM (disableDellFan drv exceptLabel) c

/-- `disable(flabel, true)`. -/
def disable (c : Controller) (l : String) : Option Controller :=
  disableWith drv (fun label c => c.disableDellFans drv (some label)) c l

def disableAll (c : Controller) : Option Controller :=
  c.tasks.keys.foldlM (disableAlone drv) c

/-! ## `test` -/

/-- `test`, up to the start of the test thread. A caller that blocks waits for the thread: while
it holds the task lock when it finds a test running, without it when it has started one. -/
def test (c : Controller) (l : String) (forced blocking : Bool) : Option Controller :=
  match c.fan? l with
  | none => some c
  | some f =>
    if f.ignore || (f.tested && !forced) then some c
    else if c.testing? f.label = some true then if blocking then none else some c
    else
      (c.eraseTask drv f.label).map fun c =>
      c.setTasks (c.tasks.emplace f.label ⟨true⟩)

/-- A running test writes to its fan: the driver flag and whether it is enabled as it begins, then
the start PWM, and the calibration as it ends. -/
def testWrites (c : Controller) (l : String) (r : TestResult) : Option Controller :=
  match c.testing? l, c.fan? l with
  | some true, some f => some (c.setFan l (f.afterTest r))
  | _, _ => none

/-- The end of a test thread with the result `r`, and of the thread it leaves to erase its task
and to enable the fan. -/
def testComplete (c : Controller) (l : String) (r : TestResult) : Option Controller :=
  match c.testing? l, c.fan? l with
  | some true, some f =>
    let c := c.setFan l (f.afterTest r)
    some ((c.setTasks (c.tasks.erase l)).enable drv l)
  | _, _ => none

/-! ## `recover` -/

def recoverFan (c : Controller) (l : String) : Controller :=
  match c.fan? l with
  | some f => c.setFan l (f.enableControl drv).2
  | none => c

def recover (c : Controller) : Controller := c.tasks.keys.foldl (recoverFan drv) c

/-! ## `merge` -/

/-- The loop body of `merge`: a device whose hardware id is there goes to `onMatch` with the key
of the match, if it is to replace it; any other is emplaced. -/
def mergeDevice {S D : Type} (get : S → UnorderedMap String D) (add : S → String → D → S)
    (hwId : D → String) (deepEqual : D → D → Bool) (replaceOnMatch deepCmp : Bool)
    (onMatch : S → String → String → D → Option S) (s : S) (e : Sigma fun _ : String => D) :
    Option S :=
  match (get s).entries.find? (fun p => hwId p.2 == hwId e.2) with
  | some old =>
    if replaceOnMatch && (!deepCmp || !deepEqual e.2 old.2) then onMatch s old.1 e.1 e.2
    else some s
  | none => some (add s e.1 e.2)

def addFan (c : Controller) (l : String) (f : Fan) : Controller :=
  { c with devices := { c.devices with fans := c.devices.fans.emplace l f } }

def reInsertFan (c : Controller) (oldKey newKey : String) (f : Fan) : Controller :=
  { c with devices :=
    { c.devices with fans := (c.devices.fans.remove oldKey).emplace newKey f } }

/-- A controller, and `dell_fan_enabled`. -/
abbrev MergeState := Controller × Bool

/-- `enable_fan`. -/
def enableMerged (s : MergeState) (l : String) : MergeState :=
  (s.1.enableAlone drv l, s.2 || (s.1.fan? l).any fun f => decide (f.type = .dell))

/-- What `merge` does about a fan that replaces one with its hardware id. -/
def onMatchFan (s : MergeState) (oldKey newKey : String) (f : Fan) : Option MergeState :=
  match s.1.testing? oldKey with
  | none =>
    let previouslyConfigured := (s.1.fan? oldKey).any Fan.isConfigured
    let s := (s.1.reInsertFan oldKey newKey f, s.2)
    if !previouslyConfigured && (s.1.fan? newKey).any Fan.isConfigured then
      some (enableMerged drv s newKey)
    else some s
  | some false =>
    (s.1.disableAlone drv oldKey).map fun c =>
    enableMerged drv (c.reInsertFan oldKey newKey f, s.2) newKey
  | some true =>
    (s.1.disableAlone drv oldKey).bind fun c =>
    ((c.reInsertFan oldKey newKey f).test drv newKey true false).map fun c => (c, s.2)

def mergeFan (replaceOnMatch deepCmp : Bool) :
    MergeState → (Sigma fun _ : String => Fan) → Option MergeState :=
  mergeDevice (fun s => s.1.devices.fans) (fun s l f => (s.1.addFan l f, s.2)) Fan.hwId
    Fan.deepEqual replaceOnMatch deepCmp (onMatchFan drv)

def mergeSensor (replaceOnMatch deepCmp : Bool) :
    UnorderedMap String Sensor → (Sigma fun _ : String => Sensor) →
      Option (UnorderedMap String Sensor) :=
  mergeDevice id (fun m l x => m.emplace l x) Sensor.hwId Sensor.deepEqual replaceOnMatch deepCmp
    fun m oldKey newKey x => some ((m.remove oldKey).emplace newKey x)

def merge (c : Controller) (d : Devices) (replaceOnMatch deepCmp : Bool) : Option Controller :=
  (d.fans.entries.foldlM (mergeFan drv replaceOnMatch deepCmp) (c, false)).bind fun s =>
  let c := if s.2 then s.1.enableDellFans drv none else s.1
  (d.sensors.entries.foldlM (mergeSensor replaceOnMatch deepCmp) c.devices.sensors).map
    fun sensors => { c with devices := { c.devices with sensors := sensors } }

/-! ## `remove_devices_not_in` -/

/-- The body of the first loop. A fan that is in none of the devices is disabled and erased, and
the loop goes on from the element that is gone: that is undefined, and nothing follows it. -/
def removeFanNotIn (ds : List Devices) (c : Controller) (l : String) : Option Controller :=
  if ds.any fun d => d.fans.contains l then some c
  else (c.disable drv l).bind fun _ => none

/-- The body of the second loop, with the same slip. -/
def removeSensorNotIn (ds : List Devices) (m : UnorderedMap String Sensor) (l : String) :
    Option (UnorderedMap String Sensor) :=
  if ds.any fun d => d.sensors.contains l then some m else none

def removeDevicesNotIn (ds : List Devices) (c : Controller) : Option Controller :=
  (c.devices.fans.keys.foldlM (removeFanNotIn drv ds) c).bind fun c =>
  (c.devices.sensors.keys.foldlM (removeSensorNotIn ds) c.devices.sensors).map fun sensors =>
  { c with devices := { c.devices with sensors := sensors } }

/-! ## `reload` and `set_devices` -/

/-- `read_config`: no message without a readable file. The result of `ParseFromString` is not
looked at. -/
def readConfig (parse : Text → Bool × ControllerMsg) (file : Option Text) :
    Option ControllerMsg :=
  file.map fun text => (parse text).2

/-- `reload`, given what is enumerated and what the config holds, each map of devices in the order
in which it is gone through. -/
def reloadFrom (enumerated : Devices) (conf : Option (ControllerConfig × Devices))
    (c : Controller) : Option Controller :=
  (c.merge drv enumerated false false).bind fun c =>
  match conf with
  | some (config, confDevs) =>
    (({ c with settings := c.settings.load config } : Controller).merge drv confDevs true
      true).bind (removeDevicesNotIn drv [enumerated, confDevs])
  | none => removeDevicesNotIn drv [enumerated] c

def reload (env : Env) (parse : Text → Bool × ControllerMsg) (enumerated : Devices)
    (file : Option Text) (c : Controller) : Option Controller :=
  c.reloadFrom drv enumerated
    ((readConfig parse file).map fun msg => (msg.config, Devices.load env msg.devices))

def setDevices (env : Env) (d : DevicesMsg) (c : Controller) : Option Controller :=
  (c.disableAll drv).map fun c =>
  ({ c with devices := Devices.load env d } : Controller).enableAll drv

end Controller

end Fancon
