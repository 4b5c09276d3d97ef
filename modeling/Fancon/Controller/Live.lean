import Fancon.Controller.System

/-! # Fan objects and the threads of tests

The controller with the identity of its fans. A task refers to a fan object and not to a label,
and so does the detached thread that a test leaves behind. The thread of a test takes its last
steps one by one, with any operation in between: `test` ends, `test_status` is reset,
`tests_running` is looked at, the file is written, the detached thread is spawned. That one erases
the task and then enables the fan.

An operation runs from its call to its return; it is `none` while it has to wait for a test. A
thread that refers to a destroyed fan has no next step. Writes to the config file are taken to
succeed.
-/
set_option autoImplicit false
set_option maxHeartbeats 250000
set_option maxRecDepth 120000

namespace Fancon

/-! ## Objects and threads -/

/-- A fan of `devices.fans`; no two objects ever have the same number. -/
structure FanObject where
  id : ℕ
  fan : Fan

/-- What the thread of a test does next. -/
inductive TestStep
  | test
  | reset
  | check
  | save
  | spawn
  | ended
deriving DecidableEq

/-- `test_status` is set. -/
def TestStep.testing : TestStep → Bool
  | .test | .reset => true
  | .check | .save | .spawn | .ended => false

/-- `FanTask`, with the fan it refers to and, for a test, where its thread is. -/
structure FanTask where
  fan : ℕ
  test : Option TestStep
deriving DecidableEq

def FanTask.testing (t : FanTask) : Bool := t.test.any TestStep.testing

/-- The thread that a test leaves behind; `erased` is whether it is past its `tasks.erase`. -/
structure Detached where
  fan : ℕ
  label : String
  erased : Bool := false
deriving DecidableEq

structure Live where
  settings : Settings := {}
  fans : UnorderedMap String FanObject := .empty
  sensors : UnorderedMap String Sensor := .empty
  tasks : SortedMap String FanTask := .empty
  detached : List Detached := []
  file : Option Text := none
  created : ℕ := 0

namespace Live

def object? (s : Live) (l : String) : Option FanObject := s.fans.find? l

def fan? (s : Live) (l : String) : Option Fan := (s.object? l).map FanObject.fan

/-- The fan object is still there under the label. -/
def Owns (s : Live) (l : String) (id : ℕ) : Prop := (s.object? l).map FanObject.id = some id

instance (s : Live) (l : String) (id : ℕ) : Decidable (s.Owns l id) :=
  inferInstanceAs (Decidable (_ = _))

/-- A change of the fan object under a label. -/
def setFan (s : Live) (l : String) (f : Fan) : Live :=
  { s with fans := s.fans.modify l fun o => { o with fan := f } }

def setTasks (s : Live) (tasks : SortedMap String FanTask) : Live := { s with tasks := tasks }

def testing? (s : Live) (l : String) : Option Bool := (s.tasks.find? l).map FanTask.testing

def addFan (s : Live) (l : String) (f : Fan) : Live :=
  { s with fans := s.fans.emplace l ⟨s.created, f⟩, created := s.created + 1 }

def removeFan (s : Live) (l : String) : Live := { s with fans := s.fans.remove l }

def reInsertFan (s : Live) (oldKey newKey : String) (f : Fan) : Live :=
  (s.removeFan oldKey).addFan newKey f

def testsRunning (s : Live) : ℕ := s.tasks.entries.countP fun e => e.2.testing

/-- `to`. -/
def msg (s : Live) : ControllerMsg where
  config := s.settings.save
  devices := ⟨s.fans.entries.map fun e => e.2.fan.save, s.sensors.entries.map fun e => e.2.save⟩

section

variable (drv : Driver) (parse : Text → Bool × ControllerMsg) (print : ControllerMsg → Text)

def toFile (s : Live) : Live := { s with file := some (print s.msg) }

/-! ## The last steps of a test -/

/-- The next step of the thread of a test whose `test_status` is reset. -/
def advance (s : Live) (l : String) : Option Live :=
  match s.tasks.find? l with
  | some ⟨id, some .check⟩ =>
    let next := if s.testsRunning = 0 then .save else .spawn
    some (s.setTasks (s.tasks.insert l ⟨id, some next⟩))
  | some ⟨id, some .save⟩ =>
    some ((s.toFile print).setTasks (s.tasks.insert l ⟨id, some .spawn⟩))
  | some ⟨id, some .spawn⟩ =>
    some { s with
      tasks := s.tasks.insert l ⟨id, some .ended⟩, detached := s.detached ++ [⟨id, l, false⟩] }
  | _ => none

/-- The thread runs to its end. -/
def finish (s : Live) (l : String) : Live :=
  (fun s => (advance print s l).getD s)^[3] s

/-- The thread of an enabled fan returns control as it ends. -/
def returnControl (s : Live) (l : String) (id : ℕ) : Live :=
  match s.object? l with
  | some o => if o.id = id then s.setFan l (o.fan.disableControl drv) else s
  | none => s

/-- `tasks.erase`: the thread of the fan is joined, which that of a test waits for until its
`test_status` is reset. -/
def eraseTask (s : Live) (l : String) : Option Live :=
  match s.tasks.find? l with
  | none => some s
  | some t =>
    if t.testing then none
    else
      let s := s.finish print l
      let s := s.setTasks (s.tasks.erase l)
      some (if t.test.isNone then s.returnControl drv l t.fan else s)

/-! ## `enable` -/

def enableWith (dellFans : String → Live → Live) (s : Live) (l : String) : Live :=
  match s.object? l with
  | none => s
  | some o =>
    if s.tasks.contains o.fan.label then s
    else
      let r := o.fan.tryEnable drv
      let s := s.setFan l r.2
      if !r.1 || !r.2.isConfigured then s
      else
        let s := if o.fan.type = .dell then dellFans o.fan.label s else s
        s.setTasks (s.tasks.emplace o.fan.label ⟨o.id, none⟩)

def enableAlone (s : Live) (l : String) : Live := enableWith drv (fun _ s => s) s l

def enableDellFan (exceptLabel : Option String) (s : Live) (l : String) : Live :=
  if (s.fan? l).any (fun f => decide (f.type = .dell)) ∧ exceptLabel ≠ some l then
    s.enableAlone drv l
  else s

def enableDellFans (exceptLabel : Option String) (s : Live) : Live :=
  s.fans.keys.foldl (enableDellFan drv exceptLabel) s

def enable (s : Live) (l : String) : Live :=
  enableWith drv (fun label s => s.enableDellFans drv (some label)) s l

def enableAll (s : Live) : Live := s.fans.keys.foldl (enableAlone drv) s

/-! ## `disable` -/

def disableWith (dellFans : String → Live → Option Live) (s : Live) (l : String) : Option Live :=
  if !s.tasks.contains l then some s
  else
    (s.eraseTask drv print l).bind fun s =>
    match s.fan? l with
    | none => some s
    | some f =>
      let s := s.setFan l (f.disableControl drv)
      if f.type = .dell then dellFans l s else some s

def disableAlone (s : Live) (l : String) : Option Live :=
  disableWith drv print (fun _ s => some s) s l

def disableDellFan (exceptLabel : Option String) (s : Live) (l : String) : Option Live :=
  if (s.fan? l).any (fun f => decide (f.type = .dell)) ∧ exceptLabel ≠ some l then
    s.disableAlone drv print l
  else some s

def disableDellFans (exceptLabel : Option String) (s : Live) : Option Live :=
  s.fans.keys.foldlM (disableDellFan drv print exceptLabel) s

def disable (s : Live) (l : String) : Option Live :=
  disableWith drv print (fun label s => s.disableDellFans drv print (some label)) s l

def disableAll (s : Live) : Option Live := s.tasks.keys.foldlM (disableAlone drv print) s

/-! ## `test` and `recover` -/

def test (s : Live) (l : String) (forced blocking : Bool) : Option Live :=
  match s.object? l with
  | none => some s
  | some o =>
    if o.fan.ignore || (o.fan.tested && !forced) then some s
    else if s.testing? o.fan.label = some true then if blocking then none else some s
    else
      (s.eraseTask drv print o.fan.label).map fun s =>
      s.setTasks (s.tasks.emplace o.fan.label ⟨o.id, some .test⟩)

def recoverFan (s : Live) (l : String) : Live :=
  match s.fan? l with
  | some f => s.setFan l (f.enableControl drv).2
  | none => s

def recover (s : Live) : Live := s.tasks.keys.foldl (recoverFan drv) s

/-! ## `merge` and `remove_devices_not_in` -/

abbrev Merging := Live × Bool

def enableMerged (s : Merging) (l : String) : Merging :=
  (s.1.enableAlone drv l, s.2 || (s.1.fan? l).any fun f => decide (f.type = .dell))

def onMatchFan (s : Merging) (oldKey newKey : String) (f : Fan) : Option Merging :=
  match s.1.testing? oldKey with
  | none =>
    let previouslyConfigured := (s.1.fan? oldKey).any Fan.isConfigured
    let s := (s.1.reInsertFan oldKey newKey f, s.2)
    if !previouslyConfigured && (s.1.fan? newKey).any Fan.isConfigured then
      some (enableMerged drv s newKey)
    else some s
  | some false =>
    (s.1.disableAlone drv print oldKey).map fun c =>
    enableMerged drv (c.reInsertFan oldKey newKey f, s.2) newKey
  | some true =>
    (s.1.disableAlone drv print oldKey).bind fun c =>
    ((c.reInsertFan oldKey newKey f).test drv print newKey true false).map fun c => (c, s.2)

def mergeFan (replaceOnMatch deepCmp : Bool) (s : Merging) (e : Sigma fun _ : String => Fan) :
    Option Merging :=
  match s.1.fans.entries.find? (fun p => p.2.fan.hwId == e.2.hwId) with
  | some old =>
    if replaceOnMatch && (!deepCmp || !e.2.deepEqual old.2.fan) then
      onMatchFan drv print s old.1 e.1 e.2
    else some s
  | none => some (s.1.addFan e.1 e.2, s.2)

def merge (s : Live) (d : Devices) (replaceOnMatch deepCmp : Bool) : Option Live :=
  (d.fans.entries.foldlM (mergeFan drv print replaceOnMatch deepCmp) (s, false)).bind fun m =>
  let s := if m.2 then m.1.enableDellFans drv none else m.1
  (d.sensors.entries.foldlM (Controller.mergeSensor replaceOnMatch deepCmp) s.sensors).map
    fun sensors => { s with sensors := sensors }

def removeFanNotIn (ds : List Devices) (s : Live) (l : String) : Option Live :=
  if ds.any fun d => d.fans.contains l then some s
  else (s.disable drv print l).bind fun _ => none

def removeDevicesNotIn (ds : List Devices) (s : Live) : Option Live :=
  (s.fans.keys.foldlM (removeFanNotIn drv print ds) s).bind fun s =>
  (s.sensors.keys.foldlM (Controller.removeSensorNotIn ds) s.sensors).map fun sensors =>
  { s with sensors := sensors }

/-! ## `reload` and `set_devices` -/

def reload (env : Env) (enumerated : Devices) (s : Live) : Option Live :=
  (s.merge drv print enumerated false false).bind fun s =>
  match Controller.readConfig parse s.file with
  | some msg =>
    let confDevs := Devices.load env msg.devices
    (({ s with settings := s.settings.load msg.config } : Live).merge drv print confDevs true
      true).bind (removeDevicesNotIn drv print [enumerated, confDevs])
  | none => removeDevicesNotIn drv print [enumerated] s

/-- `devices = Devices(false)` and `devices.from`. -/
def replaceDevices (s : Live) (d : Devices) : Live :=
  d.fans.entries.foldl (fun s e => s.addFan e.1 e.2)
    { s with fans := .empty, sensors := d.sensors }

def setDevices (env : Env) (d : DevicesMsg) (s : Live) : Option Live :=
  (s.disableAll drv print).map fun s =>
  ((s.replaceDevices (Devices.load env d)).toFile print).enableAll drv

end

end Live

/-! ## The system -/

/-- A client's operation, an edit of the config file, or a step of a test or of the detached thread
it leaves behind. -/
inductive Event
  | enable (label : String)
  | enableAll
  | disable (label : String)
  | disableAll
  | test (label : String) (forced blocking : Bool)
  | reload (env : Env) (found : Found)
  | setDevices (env : Env) (d : DevicesMsg)
  | recover
  | edit (file : Option Text)
  | testDone (label : String) (success : Bool) (result : TestResult)
  | reset (label : String)
  | advance (label : String)
  | detachedErase (thread : ℕ)
  | detachedEnable (thread : ℕ)

namespace Live

section

variable (drv : Driver) (parse : Text → Bool × ControllerMsg) (print : ControllerMsg → Text)

/-- `fan.test` returns; a test that fails has measured nothing. -/
def testDone (s : Live) (l : String) (success : Bool) (r : TestResult) : Option Live :=
  match s.tasks.find? l, s.object? l with
  | some ⟨id, some .test⟩, some o =>
    if o.id = id then
      let r := if success then r
        else { r with rpmToPwm := o.fan.rpmToPwm, startPwm := o.fan.startPwm }
      some ((s.setFan l (o.fan.afterTest r)).setTasks (s.tasks.insert l ⟨id, some .reset⟩))
    else none
  | _, _ => none

def reset (s : Live) (l : String) : Option Live :=
  match s.tasks.find? l with
  | some ⟨id, some .reset⟩ => some (s.setTasks (s.tasks.insert l ⟨id, some .check⟩))
  | _ => none

def detachedErase (s : Live) (i : ℕ) : Option Live :=
  match s.detached[i]? with
  | some d =>
    if d.erased = false ∧ s.Owns d.label d.fan then
      (s.eraseTask drv print d.label).map fun s =>
      { s with detached := s.detached.set i { d with erased := true } }
    else none
  | none => none

def detachedEnable (s : Live) (i : ℕ) : Option Live :=
  match s.detached[i]? with
  | some d =>
    if d.erased = true ∧ s.Owns d.label d.fan then
      let s := s.enable drv d.label
      some { s with detached := s.detached.eraseIdx i }
    else none
  | none => none

def perform (s : Live) : Event → Option Live
  | .enable l => some (s.enable drv l)
  | .enableAll => some (s.enableAll drv)
  | .disable l => s.disable drv print l
  | .disableAll => s.disableAll drv print
  | .test l forced blocking => s.test drv print l forced blocking
  | .reload env found => s.reload drv parse print env (Devices.enumerate found)
  | .setDevices env d => s.setDevices drv print env d
  | .recover => some (s.recover drv)
  | .edit file => some { s with file := file }
  | .testDone l success r => s.testDone l success r
  | .reset l => s.reset l
  | .advance l => s.advance print l
  | .detachedErase i => s.detachedErase drv print i
  | .detachedEnable i => s.detachedEnable drv i

/-- The runs in which the devices answer like one of the drivers. -/
def system (drivers : Driver → Prop) : Transition.System Live Event where
  init s := ∃ file, s = { file := file }
  step s e s' := ∃ drv, drivers drv ∧ s.perform drv parse print e = some s'

end

end Live

end Fancon
