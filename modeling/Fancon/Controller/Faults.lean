import Fancon.Controller.DellReload
import Fancon.Controller.Enumeration
import Fancon.Controller.Restart
import Fancon.Controller.Updates

/-! # Hardware that reports a fault

The constructors of `FanSysfs` and `SensorSysfs` that enumeration calls ignore a device whose fault
file reads a positive value. `from` fills objects that were made without a path and never looks at
the fault files, and only such objects have a curve and a sensor. So what runs after the start is
what the config says, faulty or not.
-/
set_option autoImplicit false
set_option maxHeartbeats 250000
set_option maxRecDepth 120000

namespace Fancon

open KeyedMerge Controller

/-! ## Fault files -/

/-- `path::parent_path`. -/
def parentPath (p : String) : String :=
  .ofList ((p.toList.reverse.dropWhile (· != '/')).drop 1).reverse

/-- What the fault file beside the PWM file reads, that of the fan with its number. -/
def FanPaths.isFaulty (hw : Hwmon) (p : FanPaths) : Bool :=
  FanSysfs.isFaulty hw (parentPath p.pwmPath) ((postfixNum p.pwmPath.toList).getD 0)

def FanKind.isFaulty (hw : Hwmon) : FanKind → Bool
  | .sysfs p => p.isFaulty hw
  | .dell p => p.isFaulty hw
  | .nvidia _ => false

def Sensor.isFaulty (hw : Hwmon) (s : Sensor) : Bool :=
  match s.kind with
  | .sysfs p => SensorSysfs.isFaulty hw p
  | .nvidia _ => false

/-- The fault file of the fan or that of its sensor reads a positive value. -/
def Fan.isFaulty (hw : Hwmon) (f : Fan) : Bool :=
  f.kind.isFaulty hw || f.sensor.any (Sensor.isFaulty hw)

/-- A fan of which a fault file was positive when the fan or its sensor was made: the one that its
constructor reads, if it was enumerated, or the one that its paths lead to. -/
inductive MadeFaulty (hw : Hwmon) (chips : List Chip) (f : Fan) : Prop
  | enumerated {sc : Chip} {sf : Feature} : sc ∈ chips → sf ∈ sc.features →
      FanSysfs.isFaulty hw sc.path ((postfixNum sf.name.toList).getD 0) = true →
      f.uncontrolled = (SensorChips.newFan hw sc sf).fan → MadeFaulty hw chips f
  | files : f.isFaulty hw = true → MadeFaulty hw chips f

/-! ## The start -/

/-- `reload(true)` of a new controller, and `enable_all`. -/
def startUp (drv drv' : Driver) (hw : Hwmon) (parse : Text → Bool × ControllerMsg)
    (chips : List Chip) (gpus : List Gpu) (file : Option Text) : Option Controller :=
  (({} : Controller).reload drv hw.toEnv parse (Devices.enumerated hw chips gpus) file).map
    (enableAll drv')

def NoFaultyTask (hw : Hwmon) (chips : List Chip) (c : Controller) : Prop :=
  ∀ l f, c.tasks.contains l = true → c.fan? l = some f → ¬ MadeFaulty hw chips f

/-- However the devices answer, after the start no task is that of a faulty fan. -/
def NeverUsesFaulty (hw : Hwmon) (parse : Text → Bool × ControllerMsg) (chips : List Chip)
    (gpus : List Gpu) (file : Option Text) : Prop :=
  ∀ drv drv', ∃ c, startUp drv drv' hw parse chips gpus file = some c ∧ NoFaultyTask hw chips c

/-- The devices of the config. -/
def configDevices (hw : Hwmon) (parse : Text → Bool × ControllerMsg) (file : Option Text) :
    Devices :=
  match readConfig parse file with
  | some msg => Devices.load hw.toEnv msg.devices
  | none => {}

/-- The fan of the config under the label finds it cleared by enumeration. -/
def Placed (found loaded : UnorderedMap String Fan) (l : String) : Prop :=
  ∃ before v after, messages Fan.save loaded = before ++ (l, v) :: after ∧
    LabelCleared Fan.save FanMsg.hwId .empty found before l v

/-! ## Where a fan with a curve is from -/

variable {drv drv' : Driver} {hw : Hwmon} {parse : Text → Bool × ControllerMsg}
  {chips : List Chip} {gpus : List Gpu} {found : Found} {file : Option Text} {c c' : Controller}

def FromConfig (loaded : Devices) (f : Fan) : Prop :=
  f.tempToRpm.entries = [] ∨
    ∃ x, loaded.fans.find? f.label = some x ∧ x.uncontrolled = f.uncontrolled

theorem steady_fromConfig (loaded : Devices) : Steady (FromConfig loaded) := by
  intro f g hgf h
  have hcurve : g.tempToRpm = f.tempToRpm := Fan.agree Fan.tempToRpm (fun _ => rfl) hgf
  rcases h with h | ⟨x, hx, hxf⟩
  · exact Or.inl (hcurve ▸ h)
  · exact Or.inr ⟨x, Fan.label_of_uncontrolled hgf ▸ hx, hxf.trans hgf.symm⟩

theorem fromConfig_enumerate (loaded : Devices) {l : String} {f : Fan}
    (h : (Devices.enumerate found).fans.find? l = some f) : FromConfig loaded f := by
  obtain ⟨x, -, -, rfl⟩ := Devices.find?_enumerate h
  exact Or.inl rfl

theorem fromConfig_load (env : Env) (d : DevicesMsg) {l : String} {f : Fan}
    (h : (Devices.load env d).fans.find? l = some f) : FromConfig (Devices.load env d) f :=
  Or.inr ⟨f, (Devices.fresh_load env d l f h).1.symm ▸ h, rfl⟩

/-- After a reload of a new controller a fan with a curve is one of the config. -/
theorem fromConfig_reload (h : ({} : Controller).reload drv hw.toEnv parse
    (Devices.enumerate found) file = some c) :
    AllFans (FromConfig (configDevices hw parse file)) c := by
  have hsteady := steady_fromConfig (configDevices hw parse file)
  have hstart : AllFans (FromConfig (configDevices hw parse file)) {} := fun _ _ hf => by cases hf
  obtain ⟨c₁, h₁, hrest⟩ := reload_parts h
  have hc₁ := hsteady.merge hstart (fun _ _ => fromConfig_enumerate _) h₁
  rcases hrest with ⟨-, rfl, -⟩ | ⟨msg, hfile, h₂, -⟩
  · exact hc₁
  · have hdevs : configDevices hw parse file = Devices.load hw.toEnv msg.devices := by
      simp only [configDevices, hfile]
    rw [hdevs] at hsteady hc₁ ⊢
    have hload : AllFans (FromConfig (Devices.load hw.toEnv msg.devices))
        { c₁ with settings := c₁.settings.load msg.config } := hc₁
    exact hsteady.merge hload (fun _ _ => fromConfig_load _ _) h₂

theorem curve_of_configured {f : Fan} (h : f.isConfigured = true) : f.tempToRpm.entries ≠ [] := by
  intro hnil
  simp [Fan.isConfigured, hnil] at h

/-! ## The start returns, and runs no test -/

theorem untested_start : Untested {} := fun _ h => by cases h

theorem untested_reload (h : ({} : Controller).reload drv hw.toEnv parse
    (Devices.enumerate found) file = some c) : Untested c := by
  obtain ⟨c₁, h₁, hrest⟩ := reload_parts h
  have hc₁ : Untested c₁ := fun l hl => untested_start l ((tests_of_merge h₁ l).mp hl)
  rcases hrest with ⟨-, rfl, -⟩ | ⟨msg, -, h₂, -⟩
  · exact hc₁
  · exact fun l hl => hc₁ l ((tests_of_merge h₂ l).mp hl)

theorem reload_start_returns (drv : Driver) (hw : Hwmon) (parse : Text → Bool × ControllerMsg)
    (found : Found) (file : Option Text) : ∃ c, ({} : Controller).reload drv hw.toEnv parse
      (Devices.enumerate found) file = some c := by
  cases file with
  | some text => exact reload_returns_start drv hw.toEnv parse found text
  | none =>
    obtain ⟨c₁, h₁⟩ := merge_returns_of_keep drv {} (Devices.enumerate found) false
    obtain ⟨-, hfound, hfound'⟩ := merge_steps h₁
    refine ⟨c₁, ?_⟩
    rw [Controller.reload, Controller.reloadFrom, h₁, Option.bind_some]
    refine removeDevicesNotIn_stays drv (fun l hl => ?_) fun l hl => ?_
    · rcases contains_of_merge hfound hl with h | h
      · cases h
      · simpa using h
    · rcases contains_of_merge hfound' hl with h | h
      · cases h
      · simpa using h

theorem startUp_cases (h : startUp drv drv' hw parse chips gpus file = some c') :
    ∃ c, ({} : Controller).reload drv hw.toEnv parse (Devices.enumerate (foundBy hw chips gpus))
      file = some c ∧ c' = c.enableAll drv' := by
  obtain ⟨c, hc, rfl⟩ := Option.map_eq_some_iff.mp h
  rw [Devices.enumerated_eq] at hc
  exact ⟨c, hc, rfl⟩

theorem startUp_returns (drv drv' : Driver) (hw : Hwmon) (parse : Text → Bool × ControllerMsg)
    (chips : List Chip) (gpus : List Gpu) (file : Option Text) :
    ∃ c, startUp drv drv' hw parse chips gpus file = some c := by
  obtain ⟨c, hc⟩ := reload_start_returns drv hw parse (foundBy hw chips gpus) file
  rw [← Devices.enumerated_eq] at hc
  exact ⟨c.enableAll drv', Option.map_eq_some_iff.mpr ⟨c, hc, rfl⟩⟩

/-! ## What runs after the start -/

section

variable {D M : Type} {save : D → M} {ident label : M → String} {hwId : D → String}
  {m found loaded n : UnorderedMap String D}

/-- A configured device that is listed has the message of the config. -/
theorem save_of_listed (h : Merged save ident label hwId m found loaded)
    (hreload : Reloaded save ident m found loaded n) {e : String × M}
    (he : e ∈ messages save loaded) {k : String} {w : M} (hw : view save n k = some w)
    (hid : ident w = ident e.2) : w = e.2 := by
  obtain ⟨m₁, hfound, hloaded⟩ := hreload
  refine hloaded.value_eq (hfound.distinct ((distinct_view h.ident).mpr h.distinct))
    (nodup_idents_messages h.ident h.distinctLoaded) (fun v w hvw => ?_) he hw hid
  by_contra hne
  exact hvw ⟨rfl, fun _ => hne⟩

end

/-- A fan with a curve that is there after the reload is that of the config, which is placed. -/
theorem placed_of_fan {f : Fan} {l : String} (h : ({} : Controller).reload drv hw.toEnv parse
    (Devices.enumerate found) file = some c) (hf : c.fan? l = some f)
    (hcurve : f.tempToRpm.entries ≠ []) :
    ∃ x, (configDevices hw parse file).fans.find? l = some x ∧ x.uncontrolled = f.uncontrolled ∧
      Placed (Devices.enumerate found).fans (configDevices hw parse file).fans l := by
  have hlabel := (wellFormed_start.reload h).labelled l f hf
  obtain ⟨x, hx, hxf⟩ := (fromConfig_reload h l f hf).resolve_left hcurve
  rw [hlabel] at hx
  refine ⟨x, hx, hxf, ?_⟩
  cases file with
  | none => cases hx
  | some text =>
    have hmem : (l, x.save) ∈ messages Fan.save (configDevices hw parse (some text)).fans :=
      List.mem_map.mpr ⟨⟨l, x⟩, UnorderedMap.mem_entries.mpr hx, rfl⟩
    obtain ⟨before, after, hsplit⟩ := List.append_of_mem hmem
    have hlisted : (FanMsg.hwId x.save, l) ∈ listing Fan.hwId c.devices.fans := by
      refine ⟨f, hf, ?_⟩
      rw [Fan.hwId_save]
      exact (Fan.hwId_of_uncontrolled hxf).symm
    have hends := (listing_of_listed (merged_fans wellFormed_start (.refl _) (.refl _))
      (reload_reloaded h) hsplit).mp hlisted
    exact ⟨before, x.save, after, hsplit, hends.2⟩

theorem noFaultyTask_of_config
    (hconfig : ∀ l x, (configDevices hw parse file).fans.find? l = some x →
      Placed (Devices.enumerated hw chips gpus).fans (configDevices hw parse file).fans l →
      x.ignore = false → x.isConfigured = true → x.isFaulty hw = false)
    (h : startUp drv drv' hw parse chips gpus file = some c') : NoFaultyTask hw chips c' := by
  obtain ⟨c, hc, rfl⟩ := startUp_cases h
  have hwf := wellFormed_start.reload hc
  have hmoves := @moves_enableAll drv' c
  intro l f hl hf hfaulty
  -- the task is no test, so its fan is configured and not ignored
  have htask : (c.enableAll drv').testing? l = some false := by
    cases ht : (c.enableAll drv').testing? l with
    | none => cases (testing?_eq_none.mp ht).symm.trans hl
    | some b =>
      cases b with
      | false => rfl
      | true => exact absurd ht ((untested_reload hc).controls hmoves.controls l)
  have htended : Tended c := Tended.reload (fun _ h => by cases h) wellFormed_start hc
  obtain ⟨f', hf', hignore, hconf⟩ := htended.moves hwf.labelled hmoves l htask
  obtain rfl := Option.some.inj (hf.symm.trans hf')
  obtain ⟨g, hg, hgf⟩ := hmoves.controls.fan?_back hf
  obtain ⟨hgignore, hgconf⟩ := same_of_uncontrolled hgf
  obtain ⟨x, hx, hxg, hplaced⟩ := placed_of_fan hc hg (curve_of_configured (hgconf.trans hconf))
  obtain ⟨hxignore, hxconf⟩ := same_of_uncontrolled (hxg.trans hgf)
  have hnot := hconfig l x hx (Devices.enumerated_eq hw chips gpus ▸ hplaced)
    (hxignore.trans hignore) (hxconf.trans hconf)
  cases hfaulty with
  | enumerated _ _ _ hnew =>
    have hcurve : f.uncontrolled.tempToRpm.entries = [] := hnew ▸ rfl
    exact curve_of_configured hconf hcurve
  | files hfiles =>
    rw [Fan.agree (Fan.isFaulty hw) (fun _ => rfl) (hxg.trans hgf), hfiles] at hnot
    cases hnot

/-- A fan of the config that is placed and configured is there after the reload. -/
theorem fan_of_placed {x : Fan} {l : String} (h : ({} : Controller).reload drv hw.toEnv parse
    (Devices.enumerate found) file = some c)
    (hx : (configDevices hw parse file).fans.find? l = some x)
    (hplaced : Placed (Devices.enumerate found).fans (configDevices hw parse file).fans l)
    (hconf : x.isConfigured = true) :
    ∃ f, c.fan? l = some f ∧ f.uncontrolled = x.uncontrolled := by
  cases file with
  | none => cases hx
  | some text =>
    obtain ⟨before, v, after, hsplit, hclear⟩ := hplaced
    have hmem : (l, v) ∈ messages Fan.save (configDevices hw parse (some text)).fans :=
      hsplit ▸ by simp
    have hmerged := merged_fans wellFormed_start (.refl (Devices.enumerate found))
      (.refl (Devices.load hw.toEnv (parse text).2.devices))
    have hreload := reload_reloaded h
    obtain ⟨f, hf, hid⟩ := (listing_of_listed hmerged hreload hsplit).mpr ⟨rfl, hclear⟩
    have hsave : f.save = v := save_of_listed hmerged hreload hmem
      (view_eq_some.mpr ⟨f, hf, rfl⟩) ((Fan.hwId_save f).trans hid)
    have hxv : x.save = v := by
      obtain ⟨p, hp, heq⟩ := List.mem_map.mp hmem
      obtain ⟨rfl, rfl⟩ := Prod.mk.inj heq
      have hpx := (UnorderedMap.mem_entries.mp hp).symm.trans hx
      rw [Option.some.inj hpx]
    -- the message has a curve, so the fan is not the enumerated one, which has none
    have hcurve : f.tempToRpm.entries ≠ [] := fun hnil => by
      have hstr := congrArg FanMsg.tempToRpm (hsave.trans hxv.symm)
      rw [Fan.tempToRpm_save, Fan.tempToRpm_save] at hstr
      refine mapStr_ne_nil _ _ (curve_of_configured hconf) (hstr.symm.trans ?_)
      rw [TempToRpm.str, hnil]
      rfl
    obtain ⟨y, hy, hyf, -⟩ := placed_of_fan h hf hcurve
    obtain rfl := Option.some.inj (hy.symm.trans hx)
    exact ⟨f, hf, hyf.symm⟩

/-- If such a fan is not ignored and can be enabled, it runs after the start. -/
theorem runs_of_placed {x : Fan} {l : String} (hdrv' : drv'.Enables)
    (hx : (configDevices hw parse file).fans.find? l = some x)
    (hplaced : Placed (Devices.enumerated hw chips gpus).fans (configDevices hw parse file).fans l)
    (hignore : x.ignore = false) (hconf : x.isConfigured = true)
    (h : startUp drv drv' hw parse chips gpus file = some c') :
    c'.tasks.contains l = true ∧ ∃ f, c'.fan? l = some f ∧ f.uncontrolled = x.uncontrolled := by
  obtain ⟨c, hc, rfl⟩ := startUp_cases h
  rw [Devices.enumerated_eq] at hplaced
  obtain ⟨f, hf, hfx⟩ := fan_of_placed hc hx hplaced hconf
  obtain ⟨hfignore, hfconf⟩ := same_of_uncontrolled hfx
  have hheld : (c.enableAll drv').testing? l ≠ none :=
    held_of_turns hdrv' (fun _ _ => Or.inr rfl) (fun _ _ => rfl)
      (wellFormed_start.reload hc).labelled ⟨f, hf, hfignore.trans hignore, hfconf.trans hconf⟩
      (UnorderedMap.mem_keys_iff.mpr ⟨f, hf⟩)
  refine ⟨?_, ?_⟩
  · rw [ne_eq, testing?_eq_none] at hheld
    simpa using hheld
  · obtain ⟨g, hg, hgf⟩ := (@controls_enableAll drv' c).fan? hf
    exact ⟨g, hg, hgf.trans hfx⟩

/-- **The start never uses faulty hardware exactly if the config names none.** A fan of the config
that is placed, configured and not ignored must have no positive fault file, nor its sensor. -/
theorem never_uses_faulty_iff (hw : Hwmon) (parse : Text → Bool × ControllerMsg)
    (chips : List Chip) (gpus : List Gpu) (file : Option Text) :
    NeverUsesFaulty hw parse chips gpus file ↔
      ∀ l x, (configDevices hw parse file).fans.find? l = some x →
        Placed (Devices.enumerated hw chips gpus).fans (configDevices hw parse file).fans l →
        x.ignore = false → x.isConfigured = true → x.isFaulty hw = false := by
  constructor
  · intro h l x hx hplaced hignore hconf
    obtain ⟨c, hc, hnone⟩ := h willingDriver willingDriver
    obtain ⟨htask, f, hf, hfx⟩ := runs_of_placed (fun _ => rfl) hx hplaced hignore hconf hc
    rw [← Fan.agree (Fan.isFaulty hw) (fun _ => rfl) hfx]
    exact Bool.eq_false_iff.mpr fun hfaulty => hnone l f htask hf (.files hfaulty)
  · intro hconfig drv drv'
    obtain ⟨c, hc⟩ := startUp_returns drv drv' hw parse chips gpus file
    exact ⟨c, hc, noFaultyTask_of_config hconfig hc⟩

/-! ## A sensor that reports a fault -/

/-- A system whose only fault file that reads anything is that of `temp1`. -/
def faultyHw : Hwmon where
  toEnv := readyEnv
  realPath := some
  readInt p := if p = "/sys/class/hwmon/hwmon0/temp1_fault" then some ⟨1, by decide⟩ else none
  writeOne _ := true
  smmFound := false

def faultyChip : Chip where
  path := "/sys/class/hwmon/hwmon0"
  name := "nct6775"
  features := [⟨"fan1", none, .fan, some ⟨true, true⟩⟩, ⟨"temp1", none, .temp, some ⟨true, true⟩⟩]

/-- A config in which the fan follows the sensor. -/
def faultyConfig : ControllerMsg := { devices := ⟨[{
    label := "hwmon0/fan1"
    sensor := "hwmon0/temp1"
    tempToRpm := "40: 800".toList
    rpmToPwm := "800: 100".toList
    pwmPath := "/sys/class/hwmon/hwmon0/pwm1"
    rpmPath := "/sys/class/hwmon/hwmon0/fan1_input" }], [{
    label := "hwmon0/temp1"
    inputPath := "/sys/class/hwmon/hwmon0/temp1_input"
    faultPath := "/sys/class/hwmon/hwmon0/temp1_fault" }]⟩ }

def faultyText : Text :=
  ("devices \x7b fan \x7b label: \"hwmon0/fan1\" sensor: \"hwmon0/temp1\" " ++
    "temp_to_rpm: \"40: 800\" rpm_to_pwm: \"800: 100\" " ++
    "pwm_path: \"/sys/class/hwmon/hwmon0/pwm1\" " ++
    "rpm_path: \"/sys/class/hwmon/hwmon0/fan1_input\" \x7d sensor \x7b " ++
    "label: \"hwmon0/temp1\" input_path: \"/sys/class/hwmon/hwmon0/temp1_input\" " ++
    "fault_path: \"/sys/class/hwmon/hwmon0/temp1_fault\" \x7d \x7d").toList

def parseFaulty : Text → Bool × ControllerMsg := parserOf [(faultyText, true, faultyConfig)]

theorem startUp_faulty : startUp willingDriver willingDriver faultyHw parseFaulty [faultyChip] []
      (some faultyText) =
    (({} : Controller).reloadFrom willingDriver (Devices.enumerated faultyHw [faultyChip] [])
      (some (faultyConfig.config, Devices.load readyEnv faultyConfig.devices))).map
      (enableAll willingDriver) := by
  rw [startUp, Controller.reload, readConfig, Option.map_some, parseFaulty, parserOf_self]
  rfl

/-- Enumeration ignores the sensor, and yet the fan of the config runs by it. -/
theorem start_uses_faulty :
    ((Devices.enumerated faultyHw [faultyChip] []).sensors.find? "hwmon0/temp1").any
      Sensor.ignore = true ∧
    ¬ NeverUsesFaulty faultyHw parseFaulty [faultyChip] [] (some faultyText) := by
  refine ⟨by decide +kernel, fun h => ?_⟩
  obtain ⟨c, hc, hnone⟩ := h willingDriver willingDriver
  have hrun : ((({} : Controller).reloadFrom willingDriver
      (Devices.enumerated faultyHw [faultyChip] [])
      (some (faultyConfig.config, Devices.load readyEnv faultyConfig.devices))).map
      (enableAll willingDriver)).all (fun c => c.tasks.contains "hwmon0/fan1" &&
        (c.fan? "hwmon0/fan1").any (Fan.isFaulty faultyHw)) = true := by decide +kernel
  rw [← startUp_faulty, hc] at hrun
  obtain ⟨htask, hfaulty⟩ := Bool.and_eq_true_iff.mp hrun
  obtain ⟨f, hf, hfaulty⟩ := (Option.any_eq_true _ _).mp hfaulty
  exact hnone _ f htask hf (.files hfaulty)

end Fancon
