import Fancon.Device.SaveLoad
import Fancon.Fan.CurveScan

/-! # Loading and then saving

`KeepsWritten env d m ps`: the message `d` is loaded, and afterwards, whether or not the fan of its
entry `m` is tested, the message that is saved still has that fan, with the sensor `m` names and a
curve point for each temperature of the points `ps`. It holds exactly when no search for an item
runs off its text, the sensor is loaded, or none is named, and the entry has a calibration, or no
points (`keeps_written_iff`).
-/
set_option autoImplicit false
set_option maxHeartbeats 250000
set_option maxRecDepth 120000

namespace Fancon

/-! ## Messages that are loaded -/

/-- The last item that a scan finds in a text ends it: of the calibration, and of the curve where
there is a calibration. -/
structure FanMsg.Readable (m : FanMsg) : Prop where
  rpmToPwm : Scan.Reader.EndsText (scannedMatches rpmReader m.rpmToPwm)
  tempToRpm : (RpmToPwm.read .empty m.rpmToPwm).entries ≠ [] →
    Scan.Reader.EndsText (scannedMatches tempReader m.tempToRpm)

/-- The texts of every fan whose type is supported are readable. -/
def Readable (env : Env) (msgs : List FanMsg) : Prop :=
  ∀ m ∈ msgs, m.kind env ≠ none → m.Readable

section

variable {env : Env} {sensors : UnorderedMap String Sensor}

theorem FanMsg.build?_eq_some {m : FanMsg} {dev : Option Fan} :
    m.build? env sensors = some dev ↔
      dev = m.build env sensors ∧ (m.kind env ≠ none → m.Readable) := by
  unfold FanMsg.build? FanMsg.build
  cases m.kind env with
  | none => simp [eq_comm]
  | some kind =>
    simp only [Option.bind_eq_some_iff, Option.map_eq_some_iff, RpmToPwm.read?_eq_some,
      TempToRpm.read?_eq_some]
    constructor
    · rintro ⟨rpmToPwm, ⟨rfl, hrpm⟩, tempToRpm, ⟨rfl, htemp⟩, rfl⟩
      exact ⟨rfl, fun _ => ⟨hrpm, htemp⟩⟩
    · rintro ⟨rfl, h⟩
      have hread := h (Option.some_ne_none kind)
      exact ⟨_, ⟨rfl, hread.rpmToPwm⟩, _, ⟨rfl, hread.tempToRpm⟩, rfl⟩

theorem foldlM_loadFan?_eq_some {msgs : List FanMsg}
    {acc fans : List String × UnorderedMap String Fan} :
    msgs.foldlM (loadFan? env sensors) acc = some fans ↔
      fans = msgs.foldl (loadDevice (FanMsg.build env sensors) (Fan.valid env) Fan.hwId
        fun m f => m.insertOrAssign f.label f) acc ∧ Readable env msgs := by
  induction msgs generalizing acc with
  | nil => simp [Readable, eq_comm]
  | cons m msgs ih =>
    have hcons : Readable env (m :: msgs) ↔
        (m.kind env ≠ none → m.Readable) ∧ Readable env msgs := List.forall_mem_cons
    simp only [List.foldlM_cons, Option.bind_eq_bind, Option.bind_eq_some_iff, loadFan?,
      Option.map_eq_some_iff, FanMsg.build?_eq_some, ih, hcons, List.foldl_cons]
    constructor
    · rintro ⟨_, ⟨_, ⟨rfl, hm⟩, rfl⟩, rfl, hmsgs⟩
      exact ⟨rfl, hm, hmsgs⟩
    · rintro ⟨rfl, hm, hmsgs⟩
      exact ⟨_, ⟨_, ⟨rfl, hm⟩, rfl⟩, rfl, hmsgs⟩

end

/-- **A message is loaded exactly when the texts of its fans are readable.** -/
theorem Devices.load?_eq_some {env : Env} {d : DevicesMsg} {devices : Devices} :
    Devices.load? env d = some devices ↔ devices = Devices.load env d ∧ Readable env d.fan := by
  simp only [Devices.load?, Option.map_eq_some_iff, foldlM_loadFan?_eq_some]
  constructor
  · rintro ⟨fans, ⟨rfl, hread⟩, rfl⟩
    exact ⟨rfl, hread⟩
  · rintro ⟨rfl, hread⟩
    exact ⟨_, ⟨rfl, hread⟩, rfl⟩

/-! ## What is written back -/

/-- The text is a written curve with a point at `t`. -/
def HasPoint (text : Text) (t : Temp) : Prop :=
  ∃ curve : TempToRpm, text = curve.str ∧ t ∈ curve.keys

/-- The devices, perhaps after a test of the fan under a label. -/
def Devices.tested (d : Devices) (label : String) : Option TestResult → Devices
  | none => d
  | some r => { d with fans := d.fans.modify label fun f => f.afterTest r }

/-- The sensor and the curve that `m` was written with are still there after a load and a save. -/
def KeepsWritten (env : Env) (d : DevicesMsg) (m : FanMsg) (ps : List CurvePoint) : Prop :=
  ∃ devices, Devices.load? env d = some devices ∧
    ∀ test : Option TestResult, ∃ saved ∈ (devices.tested m.label test).save.fan,
      saved.label = m.label ∧ saved.sensor = m.sensor ∧
        ∀ p ∈ ps, HasPoint saved.tempToRpm p.toTemp

/-- The entry `m` of the message `d` is a valid fan `f` with a hardware id and a label of its own,
and its curve is written as the points `ps`. -/
structure OwnFan (env : Env) (d : DevicesMsg) (m : FanMsg) (f : Fan) (ps : List CurvePoint) :
    Prop where
  built : m.build env (loadSensors env d.sensor).2 = some f
  valid : f.valid env = true
  unique : ∃ before after, d.fan = before ++ m :: after ∧ ∀ n ∈ before ++ after, ∀ g,
    n.build env (loadSensors env d.sensor).2 = some g → g.hwId ≠ f.hwId ∧ g.label ≠ f.label
  noSensor : ∀ n ∈ d.sensor, ∀ s, n.build env = some s → s.hwId ≠ f.hwId
  curve : m.tempToRpm = pointsText ps

section

variable {env : Env} {d : DevicesMsg} {m : FanMsg} {f : Fan} {ps : List CurvePoint}

theorem OwnFan.label (h : OwnFan env d m f ps) : f.label = m.label := (FanMsg.of_build h.built).1

theorem OwnFan.find? (h : OwnFan env d m f ps) :
    (Devices.load env d).fans.find? m.label = some f := by
  obtain ⟨before, after, hsplit, hother⟩ := h.unique
  show (loadFans env (loadSensors env d.sensor) d.fan).2.find? m.label = some f
  rw [loadFans, hsplit, ← h.label]
  refine find?_load_of_unique (putsUnder_insertOrAssign Fan.label) h.built h.valid ?_ hother
  intro hmem
  obtain ⟨n, hn, s, hs, hid⟩ := mem_hwIds_loadSensors hmem
  exact h.noSensor n hn s hs hid

theorem OwnFan.sensor_save (h : OwnFan env d m f ps) :
    f.save.sensor = m.sensor ↔
      m.sensor = "" ∨ ∃ s, (loadSensors env d.sensor).2.find? m.sensor = some s := by
  have hsensor : f.sensor = (loadSensors env d.sensor).2.find? m.sensor := by
    obtain ⟨-, -, kind, rfl⟩ := FanMsg.of_build h.built
    rfl
  rw [Fan.sensor_save, hsensor]
  constructor
  · intro heq
    cases hs : (loadSensors env d.sensor).2.find? m.sensor with
    | none =>
      rw [hs] at heq
      exact Or.inl heq.symm
    | some s => exact Or.inr ⟨s, rfl⟩
  · rintro (hempty | ⟨s, hs⟩)
    · cases hs : (loadSensors env d.sensor).2.find? m.sensor with
      | none => exact hempty.symm
      | some s => exact (find?_loadSensors hs).1.symm
    · rw [hs]
      exact (find?_loadSensors hs).1.symm

theorem OwnFan.hasPoint_save (h : OwnFan env d m f ps) :
    (∀ p ∈ ps, HasPoint f.save.tempToRpm p.toTemp) ↔
      ps = [] ∨ (RpmToPwm.read .empty m.rpmToPwm).entries ≠ [] := by
  have hcurve : f.tempToRpm = TempToRpm.read env.stray (RpmToPwm.read .empty m.rpmToPwm) .empty
      (pointsText ps) := by
    obtain ⟨-, -, kind, rfl⟩ := FanMsg.of_build h.built
    exact h.curve ▸ rfl
  rw [Fan.tempToRpm_save, hcurve]
  constructor
  · intro hpoints
    by_contra hnot
    obtain ⟨hps, hm⟩ := not_or.mp hnot
    obtain ⟨p, hp⟩ := List.exists_mem_of_ne_nil ps hps
    obtain ⟨curve, htext, hkey⟩ := hpoints p hp
    rw [TempToRpm.read, if_pos (by simpa using hm)] at htext
    exact TempToRpm.str_ne_nil hkey htext.symm
  · rintro (rfl | hm) p hp
    · cases hp
    · exact ⟨_, rfl, (TempToRpm.mem_keys_read_points hm _ _ _).mpr ⟨p, hp, rfl⟩⟩

theorem Devices.mem_save_fan {e : Devices} {saved : FanMsg} :
    saved ∈ e.save.fan ↔ ∃ l g, e.fans.find? l = some g ∧ g.save = saved := by
  constructor
  · intro h
    obtain ⟨x, hx, rfl⟩ := List.mem_map.mp h
    exact ⟨x.1, x.2, UnorderedMap.mem_entries.mp hx, rfl⟩
  · rintro ⟨l, g, hg, rfl⟩
    exact List.mem_map.mpr ⟨⟨l, g⟩, UnorderedMap.mem_entries.mpr hg, rfl⟩

/-- A test leaves the sensor and the curve that are written for a fan as they are. -/
theorem OwnFan.find?_tested (h : OwnFan env d m f ps) (test : Option TestResult) :
    ∃ g, ((Devices.load env d).tested m.label test).fans.find? m.label = some g ∧
      g.save.label = f.save.label ∧ g.save.sensor = f.save.sensor ∧
      g.save.tempToRpm = f.save.tempToRpm := by
  cases test with
  | none => exact ⟨f, h.find?, rfl, rfl, rfl⟩
  | some r =>
    refine ⟨f.afterTest r, ?_, ?_⟩
    · show ((Devices.load env d).fans.modify m.label _).find? m.label = _
      rw [UnorderedMap.find?_modify, if_pos rfl, h.find?]
      rfl
    · simp only [Fan.label_save, Fan.sensor_save, Fan.tempToRpm_save]
      exact ⟨rfl, rfl, rfl⟩

theorem OwnFan.save_of_keepsWritten (h : OwnFan env d m f ps) (hkeeps : KeepsWritten env d m ps) :
    Readable env d.fan ∧ f.save.sensor = m.sensor ∧
      ∀ p ∈ ps, HasPoint f.save.tempToRpm p.toTemp := by
  obtain ⟨devices, hload, hkeeps⟩ := hkeeps
  obtain ⟨rfl, hread⟩ := Devices.load?_eq_some.mp hload
  refine ⟨hread, ?_⟩
  obtain ⟨saved, hsaved, hlabel, hrest⟩ := hkeeps none
  obtain ⟨l, g, hg, rfl⟩ := Devices.mem_save_fan.mp hsaved
  have hl : l = m.label := by
    rw [← hlabel, Fan.label_save]
    exact (find?_loadFans hg).1
  obtain rfl : g = f := Option.some.inj (hg.symm.trans (hl ▸ h.find?))
  exact hrest

end

/-- **What was written is kept exactly when every text is readable, the named sensor is loaded and
a fan with points has a calibration.** -/
theorem keeps_written_iff (env : Env) (d : DevicesMsg) (m : FanMsg) (f : Fan)
    (ps : List CurvePoint) (h : OwnFan env d m f ps) :
    KeepsWritten env d m ps ↔ Readable env d.fan ∧
      (m.sensor = "" ∨ ∃ s, (loadSensors env d.sensor).2.find? m.sensor = some s) ∧
      (ps = [] ∨ (RpmToPwm.read .empty m.rpmToPwm).entries ≠ []) := by
  rw [← h.sensor_save, ← h.hasPoint_save]
  constructor
  · exact h.save_of_keepsWritten
  · rintro ⟨hread, hsensor, hpoints⟩
    refine ⟨_, Devices.load?_eq_some.mpr ⟨rfl, hread⟩, fun test => ?_⟩
    obtain ⟨g, hg, hlabel, hgsensor, hcurve⟩ := h.find?_tested test
    refine ⟨g.save, Devices.mem_save_fan.mpr ⟨_, g, hg, rfl⟩, ?_, hgsensor.trans hsensor, ?_⟩
    · rw [hlabel, Fan.label_save, h.label]
    · rw [hcurve]
      exact hpoints

/-! ## A fan that has not been tested yet -/

/-- `40: 800`. -/
def quietPoint : CurvePoint where
  temp := ['4', '0']
  beforeRpm := [' ']
  rpm := ['8', '0', '0']
  digits := by simp
  spaces := isSpace_beforeRpm
  tempInRange := by decide
  rpmInRange := by decide

/-- A fan entry with a sensor and a curve, as a user writes it before the first test. -/
def untestedMsg : FanMsg where
  label := "case"
  sensor := "k10temp"
  tempToRpm := pointsText [quietPoint]
  pwmPath := "/sys/pwm1"
  rpmPath := "/sys/fan1_input"
  enablePath := "/sys/pwm1_enable"
  driverFlag := 2

def untestedDevices : DevicesMsg := ⟨[untestedMsg], [coldSensor.save]⟩

def untestedFan : Fan := untestedMsg.fan readyEnv (loadSensors readyEnv [coldSensor.save]).2
  (.sysfs ⟨"/sys/pwm1", "/sys/fan1_input", "/sys/pwm1_enable", 2⟩)

theorem untested_ownFan :
    OwnFan readyEnv untestedDevices untestedMsg untestedFan [quietPoint] where
  built := rfl
  valid := rfl
  unique := ⟨[], [], rfl, fun n hn => nomatch hn⟩
  noSensor n hn s hs := by
    rw [List.mem_singleton.mp hn] at hs
    obtain rfl := Option.some.inj hs
    decide
  curve := rfl

theorem keeps_written_untested :
    OwnFan readyEnv untestedDevices untestedMsg untestedFan [quietPoint] ∧
    (KeepsWritten readyEnv untestedDevices untestedMsg [quietPoint] ↔
      Readable readyEnv untestedDevices.fan ∧
      (untestedMsg.sensor = "" ∨
        ∃ s, (loadSensors readyEnv untestedDevices.sensor).2.find? untestedMsg.sensor = some s) ∧
      ([quietPoint] = [] ∨ (RpmToPwm.read .empty untestedMsg.rpmToPwm).entries ≠ [])) :=
  ⟨untested_ownFan, keeps_written_iff _ _ _ _ _ untested_ownFan⟩

/-- The curve of the fan is not written back. -/
theorem loses_written : ¬ ∀ (env : Env) (d : DevicesMsg) (m : FanMsg) (f : Fan)
    (ps : List CurvePoint), OwnFan env d m f ps → KeepsWritten env d m ps := by
  intro h
  have hpoints := (untested_ownFan.save_of_keepsWritten (h _ _ _ _ _ untested_ownFan)).2.2
  rcases untested_ownFan.hasPoint_save.mp hpoints with h | h
  · cases h
  · exact h rfl

end Fancon
