import Fancon.Controller.System

/-! # Enable files

`enable_control` of a sysfs fan writes the flag of manual control to the enable file of the fan,
`disable_control` its driver flag, which a test reads from the file. The operations here are those
of the controller with the files beside it: without the files, each is the controller's
(`controller_perform`).
-/
set_option autoImplicit false
set_option maxHeartbeats 250000
set_option maxRecDepth 120000

namespace Fancon

/-! ## A fan and its enable file -/

def manualFlag : I32 := 1

/-- The driver flag of a fan that has an enable file. -/
def Fan.driverFlag? (f : Fan) : Option I32 :=
  match f.kind with
  | .sysfs p => some p.driverFlag
  | .dell _ | .nvidia _ => none

/-- What an enable file holds, whether `enable_control` has written to it and what it held after
every later `disable_control`. -/
structure EnableFile where
  content : I32
  taken : Bool := false
  handedBack : List I32 := []

/-- The flag of manual control is written; `flag` is the driver flag. -/
def EnableFile.take (file : EnableFile) (flag : Option I32) : EnableFile :=
  match flag with
  | some _ => { file with content := manualFlag, taken := true }
  | none => file

def EnableFile.handBack (file : EnableFile) (flag : Option I32) : EnableFile :=
  match flag with
  | some flag =>
    { file with
      content := flag
      handedBack := if file.taken then file.handedBack ++ [flag] else file.handedBack }
  | none => file

/-- The driver flag after `test_driver_enable_flag`. -/
def EnableFile.learn (file : EnableFile) (flag : I32) : I32 :=
  if file.content ≠ 0 ∧ file.content ≠ manualFlag then file.content else flag

structure FiledFan where
  fan : Fan
  file : EnableFile

namespace FiledFan

section

variable (drv : Driver) (x : FiledFan)

def enableControl : Bool × FiledFan :=
  if drv.enables x.fan then
    (true, ⟨{ x.fan with enabled := true }, x.file.take x.fan.driverFlag?⟩)
  else (false, x)

def disableControl : FiledFan :=
  if drv.disables x.fan then
    ⟨{ x.fan with enabled := false }, x.file.handBack x.fan.driverFlag?⟩
  else x

def tryEnable : Bool × FiledFan :=
  if x.fan.ignore then (false, x)
  else
    let r := x.enableControl drv
    if !r.1 then (false, r.2.disableControl drv) else (true, r.2)

/-- `test_driver_enable_flag`; `other` is what it finds for a fan without an enable file. -/
def testDriverEnableFlag (other : I32) : FiledFan :=
  let flag := (x.fan.driverFlag?.map x.file.learn).getD other
  { x with fan := { x.fan with kind := x.fan.kind.withDriverFlag flag } }

/-- `test`; `pwmTest` is the result of `set_pwm_test`, and `r` what is measured. -/
def test (pwmTest : Bool) (r : TestResult) : FiledFan :=
  let e := (x.testDriverEnableFlag r.driverFlag).enableControl drv
  if !e.1 || !pwmTest then e.2.disableControl drv
  else { e.2 with fan := { e.2.fan with rpmToPwm := r.rpmToPwm, startPwm := r.startPwm } }

end

theorem fan_enableControl (drv : Driver) (x : FiledFan) :
    ((x.enableControl drv).1, (x.enableControl drv).2.fan) = x.fan.enableControl drv := by
  unfold enableControl Fan.enableControl
  split_ifs <;> rfl

theorem fan_disableControl (drv : Driver) (x : FiledFan) :
    (x.disableControl drv).fan = x.fan.disableControl drv := by
  unfold disableControl Fan.disableControl
  split_ifs <;> rfl

theorem fan_tryEnable (drv : Driver) (x : FiledFan) :
    ((x.tryEnable drv).1, (x.tryEnable drv).2.fan) = x.fan.tryEnable drv := by
  unfold tryEnable Fan.tryEnable
  split_ifs
  · rfl
  · simp only [← fan_enableControl drv x, ← fan_disableControl]
    split_ifs <;> rfl

theorem enabled_of_enableControl (drv : Driver) (x : FiledFan) :
    ∃ b, (x.enableControl drv).2.fan = { x.fan with enabled := b } := by
  unfold enableControl
  split_ifs
  · exact ⟨true, rfl⟩
  · exact ⟨x.fan.enabled, rfl⟩

theorem enabled_of_disableControl (drv : Driver) (x : FiledFan) :
    ∃ b, (x.disableControl drv).fan = { x.fan with enabled := b } := by
  unfold disableControl
  split_ifs
  · exact ⟨false, rfl⟩
  · exact ⟨x.fan.enabled, rfl⟩

theorem fan_testDriverEnableFlag (x : FiledFan) (other : I32) : ∃ flag,
    (x.testDriverEnableFlag other).fan = { x.fan with kind := x.fan.kind.withDriverFlag flag } :=
  ⟨_, rfl⟩

/-- A test leaves the fan as one of the results of `afterTest`. -/
theorem fan_test (drv : Driver) (x : FiledFan) (pwmTest : Bool) (r : TestResult) :
    ∃ r', (x.test drv pwmTest r).fan = x.fan.afterTest r' := by
  obtain ⟨flag, hflag⟩ := fan_testDriverEnableFlag x r.driverFlag
  obtain ⟨b, hb⟩ := enabled_of_enableControl drv (x.testDriverEnableFlag r.driverFlag)
  unfold test
  simp only
  split_ifs
  · obtain ⟨b', hb'⟩ := enabled_of_disableControl drv
      ((x.testDriverEnableFlag r.driverFlag).enableControl drv).2
    refine ⟨⟨x.fan.rpmToPwm, x.fan.startPwm, flag, b'⟩, ?_⟩
    rw [hb', hb, hflag]
    rfl
  · refine ⟨⟨r.rpmToPwm, r.startPwm, flag, b⟩, ?_⟩
    rw [hb, hflag]
    rfl

end FiledFan

/-! ## The operations -/

structure Filed where
  controller : Controller
  files : String → EnableFile

/-- A call of one of the operations; a test ends with the result of `set_pwm_test` and what it
measures. -/
inductive FiledOperation
  | enable (label : String)
  | enableAll
  | disable (label : String)
  | disableAll
  | test (label : String) (forced blocking : Bool)
  | testComplete (label : String) (pwmTest : Bool) (result : TestResult)

namespace Filed

section

variable (drv : Driver)

def fan? (s : Filed) (l : String) : Option FiledFan :=
  (s.controller.fan? l).map fun f => ⟨f, s.files l⟩

def setFan (s : Filed) (l : String) (x : FiledFan) : Filed where
  controller := s.controller.setFan l x.fan
  files := Function.update s.files l x.file

def setTasks (s : Filed) (tasks : SortedMap String Task) : Filed :=
  { s with controller := s.controller.setTasks tasks }

def enableWith (dellFans : String → Filed → Filed) (s : Filed) (l : String) : Filed :=
  match s.fan? l with
  | none => s
  | some x =>
    if s.controller.tasks.contains x.fan.label then s
    else
      let r := x.tryEnable drv
      let s := s.setFan l r.2
      if !r.1 || !r.2.fan.isConfigured then s
      else
        let s := if x.fan.type = .dell then dellFans x.fan.label s else s
        s.setTasks (s.controller.tasks.emplace x.fan.label ⟨false⟩)

def enableAlone (s : Filed) (l : String) : Filed := enableWith drv (fun _ s => s) s l

def enableDellFan (exceptLabel : Option String) (s : Filed) (l : String) : Filed :=
  if (s.controller.fan? l).any (fun f => decide (f.type = .dell)) ∧ exceptLabel ≠ some l then
    s.enableAlone drv l
  else s

def enableDellFans (exceptLabel : Option String) (s : Filed) : Filed :=
  s.controller.devices.fans.keys.foldl (enableDellFan drv exceptLabel) s

def enable (s : Filed) (l : String) : Filed :=
  enableWith drv (fun label s => s.enableDellFans drv (some label)) s l

def enableAll (s : Filed) : Filed :=
  s.controller.devices.fans.keys.foldl (enableAlone drv) s

def eraseTask (s : Filed) (l : String) : Option Filed :=
  match s.controller.tasks.find? l with
  | none => some s
  | some task =>
    if task.testing then none
    else
      let s := s.setTasks (s.controller.tasks.erase l)
      match s.fan? l with
      | some x => some (s.setFan l (x.disableControl drv))
      | none => some s

def disableWith (dellFans : String → Filed → Option Filed) (s : Filed) (l : String) :
    Option Filed :=
  if !s.controller.tasks.contains l then some s
  else
    (s.eraseTask drv l).bind fun s =>
    match s.fan? l with
    | none => some s
    | some x =>
      let s := s.setFan l (x.disableControl drv)
      if x.fan.type = .dell then dellFans l s else some s

def disableAlone (s : Filed) (l : String) : Option Filed :=
  disableWith drv (fun _ s => some s) s l

def disableDellFan (exceptLabel : Option String) (s : Filed) (l : String) : Option Filed :=
  if (s.controller.fan? l).any (fun f => decide (f.type = .dell)) ∧ exceptLabel ≠ some l then
    s.disableAlone drv l
  else some s

def disableDellFans (exceptLabel : Option String) (s : Filed) : Option Filed :=
  s.controller.devices.fans.keys.foldlM (disableDellFan drv exceptLabel) s

def disable (s : Filed) (l : String) : Option Filed :=
  disableWith drv (fun label s => s.disableDellFans drv (some label)) s l

def disableAll (s : Filed) : Option Filed :=
  s.controller.tasks.keys.foldlM (disableAlone drv) s

def test (s : Filed) (l : String) (forced blocking : Bool) : Option Filed :=
  match s.fan? l with
  | none => some s
  | some x =>
    if x.fan.ignore || (x.fan.tested && !forced) then some s
    else if s.controller.testing? x.fan.label = some true then if blocking then none else some s
    else
      (s.eraseTask drv x.fan.label).map fun s =>
      s.setTasks (s.controller.tasks.emplace x.fan.label ⟨true⟩)

/-- The whole of a test. No other operation gets at the fan while its test is a task. -/
def testComplete (s : Filed) (l : String) (pwmTest : Bool) (r : TestResult) : Option Filed :=
  match s.controller.testing? l, s.fan? l with
  | some true, some x =>
    let s := s.setFan l (x.test drv pwmTest r)
    some ((s.setTasks (s.controller.tasks.erase l)).enable drv l)
  | _, _ => none

def perform (s : Filed) : FiledOperation → Option Filed
  | .enable l => some (s.enable drv l)
  | .enableAll => some (s.enableAll drv)
  | .disable l => s.disable drv l
  | .disableAll => s.disableAll drv
  | .test l forced blocking => s.test drv l forced blocking
  | .testComplete l pwmTest r => s.testComplete drv l pwmTest r

end

/-! ## Without the files -/

variable {drv : Driver} {s s' : Filed}

theorem controller_setFan (s : Filed) (l : String) (x : FiledFan) :
    (s.setFan l x).controller = s.controller.setFan l x.fan := rfl

theorem controller_enableWith {dellFans : String → Filed → Filed}
    {dellFans' : String → Controller → Controller}
    (h : ∀ l s, (dellFans l s).controller = dellFans' l s.controller) (s : Filed) (l : String) :
    (enableWith drv dellFans s l).controller =
      Controller.enableWith drv dellFans' s.controller l := by
  unfold enableWith Controller.enableWith
  cases hf : s.controller.fan? l with
  | none =>
    rw [fan?, hf]
    rfl
  | some f =>
    have htry := FiledFan.fan_tryEnable drv ⟨f, s.files l⟩
    rw [fan?, hf, Option.map_some]
    simp only [← htry]
    split_ifs
    · rfl
    · rfl
    · rw [← controller_setFan, ← h]
      rfl
    · rfl

theorem controller_enableAlone (s : Filed) (l : String) :
    (s.enableAlone drv l).controller = s.controller.enableAlone drv l :=
  controller_enableWith (fun _ _ => rfl) s l

theorem controller_enableDellFans (exceptLabel : Option String) (s : Filed) :
    (s.enableDellFans drv exceptLabel).controller =
      s.controller.enableDellFans drv exceptLabel := by
  refine (List.foldl_hom controller fun s l => ?_).symm
  unfold enableDellFan Controller.enableDellFan
  split_ifs
  · exact (controller_enableAlone s l).symm
  · rfl

theorem controller_enable (s : Filed) (l : String) :
    (s.enable drv l).controller = s.controller.enable drv l :=
  controller_enableWith (fun k s => controller_enableDellFans (some k) s) s l

theorem controller_enableAll (s : Filed) :
    (s.enableAll drv).controller = s.controller.enableAll drv :=
  (List.foldl_hom controller fun s l => (controller_enableAlone s l).symm).symm

theorem controller_eraseTask (s : Filed) (l : String) :
    (s.eraseTask drv l).map controller = s.controller.eraseTask drv l := by
  unfold eraseTask Controller.eraseTask
  cases s.controller.tasks.find? l with
  | none => rfl
  | some task =>
    simp only
    split_ifs
    · rfl
    · cases hf : s.controller.fan? l with
      | none =>
        simp only [fan?, setTasks, Controller.fan?_setTasks, hf, Option.map_none, Option.map_some]
      | some f =>
        simp only [fan?, setTasks, Controller.fan?_setTasks, hf, Option.map_some,
          controller_setFan, FiledFan.fan_disableControl]

theorem controller_disableWith {dellFans : String → Filed → Option Filed}
    {dellFans' : String → Controller → Option Controller}
    (h : ∀ l s, (dellFans l s).map controller = dellFans' l s.controller) (s : Filed)
    (l : String) : (disableWith drv dellFans s l).map controller =
      Controller.disableWith drv dellFans' s.controller l := by
  unfold disableWith Controller.disableWith
  rw [← controller_eraseTask]
  split_ifs
  · rfl
  · cases s.eraseTask drv l with
    | none => rfl
    | some t =>
      simp only [Option.bind_some, Option.map_some]
      cases hf : t.controller.fan? l with
      | none => simp only [fan?, hf, Option.map_none, Option.map_some]
      | some f =>
        simp only [fan?, hf, Option.map_some]
        split_ifs
        · rw [h, controller_setFan, FiledFan.fan_disableControl]
        · rw [Option.map_some, controller_setFan, FiledFan.fan_disableControl]

theorem controller_disableAlone (s : Filed) (l : String) :
    (s.disableAlone drv l).map controller = s.controller.disableAlone drv l :=
  controller_disableWith (fun _ _ => rfl) s l

theorem controller_disable (s : Filed) (l : String) :
    (s.disable drv l).map controller = s.controller.disable drv l := by
  refine controller_disableWith (fun k t => Loop.foldlM_map (fun s a => ?_) t _) s l
  unfold disableDellFan Controller.disableDellFan
  split_ifs
  · exact controller_disableAlone s a
  · rfl

theorem controller_disableAll (s : Filed) :
    (s.disableAll drv).map controller = s.controller.disableAll drv :=
  Loop.foldlM_map (fun s l => controller_disableAlone s l) s _

theorem controller_test (s : Filed) (l : String) (forced blocking : Bool) :
    (s.test drv l forced blocking).map controller =
      s.controller.test drv l forced blocking := by
  unfold test Controller.test
  cases hf : s.controller.fan? l with
  | none => simp only [fan?, hf, Option.map_none, Option.map_some]
  | some f =>
    simp only [fan?, hf, Option.map_some]
    split_ifs
    · rfl
    · rfl
    · rfl
    · rw [← controller_eraseTask, Option.map_map, Option.map_map]
      rfl

/-- Without the files, an operation is one of the controller. -/
theorem controller_perform (parse : Text → Bool × ControllerMsg) {op : FiledOperation}
    (h : s.perform drv op = some s') :
    ∃ op', s.controller.perform drv parse op' = some s'.controller := by
  cases op with
  | enable l =>
    refine ⟨.enable l, ?_⟩
    rw [Controller.perform, ← controller_enable]
    exact congrArg (Option.map controller) h
  | enableAll =>
    refine ⟨.enableAll, ?_⟩
    rw [Controller.perform, ← controller_enableAll]
    exact congrArg (Option.map controller) h
  | disable l =>
    exact ⟨.disable l, (controller_disable s l).symm.trans (congrArg (Option.map controller) h)⟩
  | disableAll =>
    exact ⟨.disableAll, (controller_disableAll s).symm.trans (congrArg (Option.map controller) h)⟩
  | test l forced blocking =>
    exact ⟨.test l forced blocking, (controller_test s l forced blocking).symm.trans
      (congrArg (Option.map controller) h)⟩
  | testComplete l pwmTest r =>
    change s.testComplete drv l pwmTest r = some s' at h
    unfold testComplete at h
    split at h
    · rename_i x ht hx
      obtain ⟨f, hf, rfl⟩ := Option.map_eq_some_iff.mp hx
      obtain ⟨r', hr⟩ := FiledFan.fan_test drv ⟨f, s.files l⟩ pwmTest r
      refine ⟨.testComplete l r', ?_⟩
      show s.controller.testComplete drv l r' = some s'.controller
      unfold Controller.testComplete
      rw [ht, hf, ← Option.some.inj h, controller_enable]
      simp only
      rw [← hr]
      rfl
    · cases h

end Filed

end Fancon
