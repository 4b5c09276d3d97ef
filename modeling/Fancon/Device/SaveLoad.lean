import Fancon.Device.Loading
import Fancon.Fan.CurvePoints

/-! # Saving and then loading

`SavesExactly env d`: loading the message of `d` gives devices that are deep-equal to those of `d`
under the same labels. For well-formed devices it holds exactly when no curve has a negative
temperature, no fan shares its hardware id with a sensor, and NVIDIA devices are supported where
there are any (`saves_exactly_iff`).
-/
set_option autoImplicit false
set_option maxHeartbeats 250000
set_option maxRecDepth 120000

namespace Fancon

/-! ## What a message says about its device -/

def SensorMsg.hwId (s : SensorMsg) : String :=
  match s.type with
  | .nvidia => "NV:s" ++ toString s.id.val
  | _ => s.inputPath

def FanMsg.hwId (f : FanMsg) : String :=
  match f.type with
  | .nvidia => "NV:f" ++ toString f.id.val
  | _ => f.pwmPath

@[simp] theorem Sensor.hwId_save (s : Sensor) : s.save.hwId = s.hwId := by
  obtain ⟨label, ignore, kind⟩ := s
  cases kind <;> rfl

@[simp] theorem Sensor.label_save (s : Sensor) : s.save.label = s.label := by
  obtain ⟨label, ignore, kind⟩ := s
  cases kind <;> rfl

section

variable (f : Fan)

@[simp] theorem Fan.hwId_save : f.save.hwId = f.hwId := by
  unfold Fan.save Fan.hwId
  cases f.kind <;> rfl

@[simp] theorem Fan.label_save : f.save.label = f.label := by
  unfold Fan.save
  cases f.kind <;> rfl

@[simp] theorem Fan.sensor_save : f.save.sensor = (f.sensor.map Sensor.label).getD "" := by
  unfold Fan.save
  cases f.kind <;> rfl

@[simp] theorem Fan.rpmToPwm_save : f.save.rpmToPwm = f.rpmToPwm.str := by
  unfold Fan.save
  cases f.kind <;> rfl

@[simp] theorem Fan.tempToRpm_save : f.save.tempToRpm = f.tempToRpm.str := by
  unfold Fan.save
  cases f.kind <;> rfl

@[simp] theorem Fan.startPwm_save : f.save.startPwm = f.startPwm := by
  unfold Fan.save
  cases f.kind <;> rfl

@[simp] theorem Fan.interval_save : f.save.interval = f.interval.toU64 := by
  unfold Fan.save
  cases f.kind <;> rfl

@[simp] theorem Fan.ignore_save : f.save.ignore = f.ignore := by
  unfold Fan.save
  cases f.kind <;> rfl

@[simp] theorem Fan.type_save : f.save.type = f.type := by
  unfold Fan.save Fan.type
  cases f.kind <;> rfl

end

theorem SensorMsg.of_build {env : Env} {m : SensorMsg} {s : Sensor} (h : m.build env = some s) :
    s.label = m.label ∧ s.hwId = m.hwId := by
  unfold SensorMsg.build at h
  unfold SensorMsg.hwId
  cases ht : m.type with
  | sys | dell =>
    rw [ht] at h
    obtain rfl := Option.some.inj h
    exact ⟨rfl, rfl⟩
  | nvidia =>
    rw [ht] at h
    simp only at h
    split_ifs at h
    obtain rfl := Option.some.inj h
    exact ⟨rfl, rfl⟩
  | other value =>
    rw [ht] at h
    cases h

theorem FanMsg.of_kind {env : Env} {m : FanMsg} {kind : FanKind} (h : m.kind env = some kind)
    (f : Fan) : ({ f with kind := kind } : Fan).hwId = m.hwId := by
  unfold FanMsg.kind at h
  unfold FanMsg.hwId Fan.hwId
  cases ht : m.type with
  | sys | dell =>
    rw [ht] at h
    obtain rfl := Option.some.inj h
    rfl
  | nvidia =>
    rw [ht] at h
    simp only at h
    split_ifs at h
    obtain rfl := Option.some.inj h
    rfl
  | other value =>
    rw [ht] at h
    cases h

theorem FanMsg.of_build {env : Env} {sensors : UnorderedMap String Sensor} {m : FanMsg} {f : Fan}
    (h : m.build env sensors = some f) :
    f.label = m.label ∧ f.hwId = m.hwId ∧ ∃ kind, f = m.fan env sensors kind := by
  obtain ⟨kind, hkind, rfl⟩ := Option.map_eq_some_iff.mp h
  exact ⟨rfl, FanMsg.of_kind hkind (m.fan env sensors kind), kind, rfl⟩

theorem Fan.save_eq {f g : Fan} (hkind : f.kind = g.kind) (hbase : f.saveBase = g.saveBase) :
    f.save = g.save := by
  unfold Fan.save
  rw [hkind, hbase]

theorem Millis.ofU64_toU64 (z : Millis) : Millis.ofU64 z.toU64 = z := by
  have h := z.property
  apply Subtype.ext
  rw [Millis.val_ofU64, Millis.val_toU64, Int.bmod_def]
  push_cast
  split_ifs <;> omega

/-! ## Saving and loading one device -/

/-- The device of an NVIDIA type is only loaded where it is supported. -/
def Env.Supports (env : Env) (type : DevType) : Prop := type = .nvidia → env.nvSupported = true

def Sensor.type (s : Sensor) : DevType := s.save.type

theorem Sensor.build_save {env : Env} {s : Sensor} (hsup : env.Supports s.type)
    (hvalid : s.valid env = true) :
    ∃ s', s.save.build env = some s' ∧ s'.save = s.save ∧ s'.valid env = true := by
  obtain ⟨label, ignore, kind⟩ := s
  cases kind with
  | sysfs p =>
    refine ⟨_, rfl, rfl, ?_⟩
    obtain ⟨q, hq, hexists⟩ := (Option.any_eq_true _ _).mp hvalid
    simpa [Sensor.valid, Sensor.save, hq] using hexists
  | nvidia id => exact ⟨_, if_pos (hsup rfl), rfl, hvalid⟩

theorem Fan.kind_save {env : Env} {f : Fan} (hsup : env.Supports f.type) :
    f.save.kind env = some f.kind := by
  unfold FanMsg.kind
  rw [Fan.type_save]
  unfold Fan.type at hsup ⊢
  unfold Fan.save
  cases hk : f.kind with
  | sysfs p => rfl
  | dell p => rfl
  | nvidia id =>
    rw [hk] at hsup
    exact if_pos (hsup rfl)

theorem Fan.valid_eq_of_kind {env : Env} {f g : Fan} (h : f.kind = g.kind) :
    f.valid env = g.valid env := by
  unfold Fan.valid
  rw [h]

/-- The curve, the calibration and the start PWM of a fan can be written and read back. -/
structure Fan.Readable (f : Fan) : Prop where
  pwms : ∀ e ∈ f.rpmToPwm.entries, e.2 ≤ PWM_MAX
  curve : f.rpmToPwm.entries = [] → f.tempToRpm = .empty
  start : f.startPwm ≤ PWM_MAX

theorem Fan.saveBase_fan {env : Env} {sensors : UnorderedMap String Sensor} {f : Fan}
    (hf : f.Readable) (hnonneg : ∀ e ∈ f.tempToRpm.entries, 0 ≤ e.1.val)
    (hsensor : ((sensors.find? f.save.sensor).map Sensor.label).getD "" = f.save.sensor)
    (kind : FanKind) : (f.save.fan env sensors kind).saveBase = f.saveBase := by
  have hrpm : RpmToPwm.read .empty f.rpmToPwm.str = f.rpmToPwm := RpmToPwm.read_str hf.pwms
  have hcurve : TempToRpm.read env.stray f.rpmToPwm .empty f.tempToRpm.str = f.tempToRpm := by
    by_cases hempty : f.rpmToPwm.entries = []
    · rw [hf.curve hempty, TempToRpm.read, if_pos (by simp [hempty])]
    · exact TempToRpm.read_str hempty hnonneg
  rw [Fan.sensor_save] at hsensor
  simp only [Fan.saveBase, FanMsg.fan, Fan.label_save, Fan.sensor_save, Fan.rpmToPwm_save,
    Fan.tempToRpm_save, Fan.startPwm_save, Fan.interval_save, Fan.ignore_save, hrpm, hcurve,
    clampPwm_of_le hf.start, Millis.ofU64_toU64, hsensor]

theorem Fan.build_save {env : Env} {sensors : UnorderedMap String Sensor} {f : Fan}
    (hsup : env.Supports f.type) (hf : f.Readable)
    (hnonneg : ∀ e ∈ f.tempToRpm.entries, 0 ≤ e.1.val)
    (hsensor : ((sensors.find? f.save.sensor).map Sensor.label).getD "" = f.save.sensor) :
    ∃ f', f.save.build env sensors = some f' ∧ f'.save = f.save ∧
      f'.valid env = f.valid env := by
  refine ⟨f.save.fan env sensors f.kind, ?_, Fan.save_eq rfl ?_, Fan.valid_eq_of_kind rfl⟩
  · rw [FanMsg.build, Fan.kind_save hsup, Option.map_some]
  · exact Fan.saveBase_fan hf hnonneg hsensor f.kind

/-! ## Saving and loading devices -/

/-- Devices as a config can hold them. -/
structure Devices.Saveable (env : Env) (d : Devices) : Prop where
  fanLabels : ∀ l f, d.fans.find? l = some f → f.label = l
  sensorLabels : ∀ l s, d.sensors.find? l = some s → s.label = l
  fanHwIds : ∀ k l f g, d.fans.find? k = some f → d.fans.find? l = some g →
    f.hwId = g.hwId → k = l
  sensorHwIds : ∀ k l s t, d.sensors.find? k = some s → d.sensors.find? l = some t →
    s.hwId = t.hwId → k = l
  fansValid : ∀ l f, d.fans.find? l = some f → f.valid env = true
  sensorsValid : ∀ l s, d.sensors.find? l = some s → s.valid env = true
  sensorsKnown : ∀ l f s, d.fans.find? l = some f → f.sensor = some s →
    d.sensors.find? s.label = some s
  pwms : ∀ l f, d.fans.find? l = some f → ∀ e ∈ f.rpmToPwm.entries, e.2 ≤ PWM_MAX
  curves : ∀ l f, d.fans.find? l = some f →
    ∃ stray m src, f.tempToRpm = TempToRpm.read stray m .empty src
  calibrated : ∀ l f, d.fans.find? l = some f → f.rpmToPwm.entries = [] → f.tempToRpm = .empty
  startPwms : ∀ l f, d.fans.find? l = some f → f.startPwm ≤ PWM_MAX

def DeepEqualMaps {D : Type} (deepEqual : D → D → Bool) (m n : UnorderedMap String D) : Prop :=
  ∀ l, (m.contains l = n.contains l) ∧
    ∀ x y, m.find? l = some x → n.find? l = some y → deepEqual x y = true

def SavesExactly (env : Env) (d : Devices) : Prop :=
  DeepEqualMaps Fan.deepEqual d.fans (Devices.load env d.save).fans ∧
    DeepEqualMaps Sensor.deepEqual d.sensors (Devices.load env d.save).sensors

theorem Devices.Saveable.readable {env : Env} {d : Devices} (hd : d.Saveable env) {l : String}
    {f : Fan} (h : d.fans.find? l = some f) : f.Readable where
  pwms := hd.pwms l f h
  curve := hd.calibrated l f h
  start := hd.startPwms l f h

section

variable {env : Env} {d : Devices}

theorem SensorMsg.of_build_save (s t : Sensor) (h : s.save.build env = some t) :
    t.label = s.label ∧ t.hwId = s.hwId := by
  simpa using SensorMsg.of_build h

theorem FanMsg.of_build_save {sensors : UnorderedMap String Sensor} (f g : Fan)
    (h : f.save.build env sensors = some g) : g.label = f.label ∧ g.hwId = f.hwId := by
  obtain ⟨hlabel, hid, -⟩ := FanMsg.of_build h
  exact ⟨hlabel.trans f.label_save, hid.trans f.hwId_save⟩

theorem Devices.Saveable.find?_loadSensors (hd : d.Saveable env)
    (hsup : ∀ l s, d.sensors.find? l = some s → env.Supports s.type) {l : String} {s : Sensor}
    (h : d.sensors.find? l = some s) :
    ∃ s', (loadSensors env d.save.sensor).2.find? l = some s' ∧ s'.save = s.save := by
  obtain ⟨s', hbuild, hsave, hvalid⟩ := Sensor.build_save (hsup l s h) (hd.sensorsValid l s h)
  exact ⟨s', find?_load_save (putsUnder_emplace Sensor.label) hd.sensorLabels hd.sensorHwIds
    SensorMsg.of_build_save h hbuild hvalid (by simp), hsave⟩

theorem Devices.Saveable.find?_of_find?_loadSensors (hd : d.Saveable env) {l : String} {t : Sensor}
    (h : (loadSensors env d.save.sensor).2.find? l = some t) :
    ∃ s, d.sensors.find? l = some s ∧ s.save.build env = some t := by
  obtain ⟨s, hs, hbuild, -⟩ := find?_of_find?_load_save (putsUnder_emplace Sensor.label)
    hd.sensorLabels SensorMsg.of_build_save h
  exact ⟨s, hs, hbuild⟩

theorem Devices.Saveable.sensor_found (hd : d.Saveable env)
    (hsup : ∀ l s, d.sensors.find? l = some s → env.Supports s.type) {l : String} {f : Fan}
    (h : d.fans.find? l = some f) :
    (((loadSensors env d.save.sensor).2.find? f.save.sensor).map Sensor.label).getD "" =
      f.save.sensor := by
  rw [Fan.sensor_save]
  cases hs : f.sensor with
  | none =>
    cases hfind : (loadSensors env d.save.sensor).2.find? "" with
    | none => simp [hfind]
    | some t =>
      obtain ⟨hlabel, -⟩ := Fancon.find?_loadSensors hfind
      simp [hfind, ← hlabel]
  | some s =>
    obtain ⟨t, ht, hsave⟩ := hd.find?_loadSensors hsup (hd.sensorsKnown l f s h hs)
    have hlabel : t.label = s.label := by rw [← Sensor.label_save, hsave, Sensor.label_save]
    simp [ht, hlabel]

theorem Devices.Saveable.find?_loadFans (hd : d.Saveable env)
    (hsup : ∀ l s, d.sensors.find? l = some s → env.Supports s.type)
    (hsupf : ∀ l f, d.fans.find? l = some f → env.Supports f.type)
    (hids : ∀ k l f s, d.fans.find? k = some f → d.sensors.find? l = some s → f.hwId ≠ s.hwId)
    {l : String} {f : Fan} (hnonneg : ∀ e ∈ f.tempToRpm.entries, 0 ≤ e.1.val)
    (h : d.fans.find? l = some f) :
    ∃ f', (Devices.load env d.save).fans.find? l = some f' ∧ f'.save = f.save := by
  obtain ⟨f', hbuild, hsave, hvalid⟩ := Fan.build_save (hsupf l f h) (hd.readable h) hnonneg
    (hd.sensor_found hsup h)
  refine ⟨f', find?_load_save (putsUnder_insertOrAssign Fan.label) hd.fanLabels hd.fanHwIds
    FanMsg.of_build_save h hbuild (hvalid.trans (hd.fansValid l f h)) ?_, hsave⟩
  intro hmem
  obtain ⟨msg, hmsg, s, hs, hid⟩ := mem_hwIds_loadSensors hmem
  obtain ⟨e, he, rfl⟩ := List.mem_map.mp hmsg
  have heq := (SensorMsg.of_build_save e.2 s hs).2
  exact hids _ _ _ _ h (UnorderedMap.mem_entries.mp he) (hid.symm.trans heq)

theorem Devices.Saveable.find?_of_find?_loadFans (hd : d.Saveable env) {l : String} {g : Fan}
    (h : (Devices.load env d.save).fans.find? l = some g) :
    ∃ f, d.fans.find? l = some f ∧ f.save.build env (loadSensors env d.save.sensor).2 = some g ∧
      g.hwId ∉ (loadSensors env d.save.sensor).1 :=
  find?_of_find?_load_save (putsUnder_insertOrAssign Fan.label) hd.fanLabels
    FanMsg.of_build_save h

/-! ## When the round trip is exact -/

theorem deepEqualMaps_of_find? {D : Type} {deepEqual : D → D → Bool} {m n : UnorderedMap String D}
    (hto : ∀ l x, m.find? l = some x → ∃ y, n.find? l = some y ∧ deepEqual x y = true)
    (hfrom : ∀ l y, n.find? l = some y → ∃ x, m.find? l = some x) :
    DeepEqualMaps deepEqual m n := by
  refine fun l => ⟨?_, fun x y hx hy => ?_⟩
  · rw [Bool.eq_iff_iff, UnorderedMap.contains_iff, UnorderedMap.contains_iff]
    constructor
    · rintro ⟨x, hx⟩
      obtain ⟨y, hy, -⟩ := hto l x hx
      exact ⟨y, hy⟩
    · rintro ⟨y, hy⟩
      exact hfrom l y hy
  · obtain ⟨y', hy', heq⟩ := hto l x hx
    exact Option.some.inj (hy'.symm.trans hy) ▸ heq

theorem DeepEqualMaps.find? {D : Type} {deepEqual : D → D → Bool} {m n : UnorderedMap String D}
    (h : DeepEqualMaps deepEqual m n) {l : String} {x : D} (hx : m.find? l = some x) :
    ∃ y, n.find? l = some y ∧ deepEqual x y = true := by
  have hmem : n.contains l = true := (h l).1 ▸ UnorderedMap.contains_iff.mpr ⟨x, hx⟩
  obtain ⟨y, hy⟩ := UnorderedMap.contains_iff.mp hmem
  exact ⟨y, hy, (h l).2 x y hx hy⟩

theorem Devices.Saveable.fan_of_savesExactly (hd : d.Saveable env) (h : SavesExactly env d)
    {l : String} {f : Fan} (hf : d.fans.find? l = some f) :
    ∃ g, f.save.build env (loadSensors env d.save.sensor).2 = some g ∧
      g.hwId ∉ (loadSensors env d.save.sensor).1 ∧ f.save = g.save := by
  obtain ⟨g, hg, heq⟩ := h.1.find? hf
  obtain ⟨f', hf', hbuild, hnew⟩ := hd.find?_of_find?_loadFans hg
  obtain rfl := Option.some.inj (hf.symm.trans hf')
  exact ⟨g, hbuild, hnew, of_decide_eq_true heq⟩

theorem Devices.Saveable.sensor_of_savesExactly (hd : d.Saveable env) (h : SavesExactly env d)
    {l : String} {s : Sensor} (hs : d.sensors.find? l = some s) :
    ∃ t, s.save.build env = some t ∧ t.hwId ∈ (loadSensors env d.save.sensor).1 := by
  obtain ⟨t, ht, -⟩ := h.2.find? hs
  obtain ⟨s', hs', hbuild⟩ := hd.find?_of_find?_loadSensors ht
  obtain rfl := Option.some.inj (hs.symm.trans hs')
  exact ⟨t, hbuild, (Fancon.find?_loadSensors ht).2.2.1⟩

theorem supports_of_kind {m : FanMsg} {kind : FanKind} (h : m.kind env = some kind) :
    env.Supports m.type := by
  intro htype
  rw [FanMsg.kind, htype] at h
  simp only at h
  split_ifs at h with hnv
  exact hnv

theorem supports_of_build {m : SensorMsg} {s : Sensor} (h : m.build env = some s) :
    env.Supports m.type := by
  intro htype
  rw [SensorMsg.build, htype] at h
  simp only at h
  split_ifs at h with hnv
  exact hnv

/-- No negative temperature survives. -/
theorem Devices.Saveable.nonneg_of_savesExactly (hd : d.Saveable env) (h : SavesExactly env d)
    {l : String} {f : Fan} (hf : d.fans.find? l = some f) :
    ∀ e ∈ f.tempToRpm.entries, 0 ≤ e.1.val := by
  obtain ⟨g, hbuild, -, hsave⟩ := hd.fan_of_savesExactly h hf
  obtain ⟨-, -, kind, rfl⟩ := FanMsg.of_build hbuild
  have htext := congrArg FanMsg.tempToRpm hsave
  rw [Fan.tempToRpm_save, Fan.tempToRpm_save] at htext
  have hminus : '-' ∉ f.tempToRpm.str := by
    rw [htext, TempToRpm.minus_mem_str]
    rintro ⟨e, he, hneg⟩
    have hkey : e.1 ∈ (TempToRpm.read env.stray (RpmToPwm.read .empty f.save.rpmToPwm) .empty
        f.save.tempToRpm).keys := List.mem_map_of_mem he
    rw [Fan.tempToRpm_save] at hkey
    exact absurd (TempToRpm.nonneg_of_mem_keys_read_str hkey) (not_le.mpr hneg)
  intro e he
  by_contra hneg
  exact hminus ((TempToRpm.minus_mem_str _).mpr ⟨e, he, not_le.mp hneg⟩)

end

/-- **Saving and loading well-formed devices is exact exactly when no curve has a negative
temperature, no fan shares its hardware id with a sensor and the NVIDIA devices are supported.** -/
theorem saves_exactly_iff (env : Env) (d : Devices) (hd : d.Saveable env) :
    SavesExactly env d ↔
      (∀ l f, d.fans.find? l = some f →
        (∀ e ∈ f.tempToRpm.entries, 0 ≤ e.1.val) ∧ env.Supports f.type) ∧
      (∀ l s, d.sensors.find? l = some s → env.Supports s.type) ∧
      ∀ k l f s, d.fans.find? k = some f → d.sensors.find? l = some s → f.hwId ≠ s.hwId := by
  constructor
  · intro h
    refine ⟨fun l f hf => ⟨hd.nonneg_of_savesExactly h hf, ?_⟩, fun l s hs => ?_, ?_⟩
    · obtain ⟨g, hbuild, -⟩ := hd.fan_of_savesExactly h hf
      obtain ⟨kind, hkind, -⟩ := Option.map_eq_some_iff.mp hbuild
      exact f.type_save ▸ supports_of_kind hkind
    · obtain ⟨t, hbuild, -⟩ := hd.sensor_of_savesExactly h hs
      exact supports_of_build hbuild
    · intro k l f s hf hs
      obtain ⟨g, hg, hnew, -⟩ := hd.fan_of_savesExactly h hf
      obtain ⟨t, ht, hseen⟩ := hd.sensor_of_savesExactly h hs
      rw [(FanMsg.of_build_save f g hg).2] at hnew
      rw [(SensorMsg.of_build_save s t ht).2] at hseen
      exact fun heq => hnew (heq ▸ hseen)
  · rintro ⟨hfans, hsensors, hids⟩
    constructor
    · refine deepEqualMaps_of_find? (fun l f hf => ?_) fun l g hg => ?_
      · obtain ⟨g, hg, hsave⟩ := hd.find?_loadFans hsensors (fun l f hf => (hfans l f hf).2) hids
          (hfans l f hf).1 hf
        exact ⟨g, hg, decide_eq_true hsave.symm⟩
      · obtain ⟨f, hf, -⟩ := hd.find?_of_find?_loadFans hg
        exact ⟨f, hf⟩
    · refine deepEqualMaps_of_find? (fun l s hs => ?_) fun l t ht => ?_
      · obtain ⟨t, ht, hsave⟩ := hd.find?_loadSensors hsensors hs
        exact ⟨t, ht, decide_eq_true hsave.symm⟩
      · obtain ⟨s, hs, -⟩ := hd.find?_of_find?_loadSensors ht
        exact ⟨s, hs⟩

/-! ## A curve with a negative temperature -/

def readyEnv : Env where
  fileExists _ := true
  smmFan _ := true
  nvSupported := true
  nvPwm _ := true
  nvTemp _ := true
  stray := id

def coldSensor : Sensor := ⟨"k10temp", false, .sysfs ⟨"/sys/temp1_input", "", "", "", "", ""⟩⟩

/-- A fan whose curve was written in degrees Fahrenheit. -/
def coldFan : Fan where
  label := "case"
  ignore := false
  sensor := some coldSensor
  rpmToPwm := .ofItems [(1000, 255)]
  tempToRpm := TempToRpm.read id (.ofItems [(1000, 255)]) .empty "14f: 800".toList
  startPwm := 60
  interval := 0
  enabled := false
  smoothing := {}
  kind := .sysfs ⟨"/sys/pwm1", "/sys/fan1_input", "/sys/pwm1_enable", 2⟩

def coldDevices : Devices where
  fans := UnorderedMap.empty.insertOrAssign "case" coldFan
  sensors := UnorderedMap.empty.insertOrAssign "k10temp" coldSensor

theorem coldFan_entries : coldFan.tempToRpm.entries = [(⟨-10, by decide⟩, 800)] := by
  decide +kernel

theorem coldDevices_fans {l : String} {f : Fan} (h : coldDevices.fans.find? l = some f) :
    l = "case" ∧ f = coldFan := by
  change (UnorderedMap.empty.insertOrAssign "case" coldFan).find? l = some f at h
  rw [UnorderedMap.find?_insertOrAssign] at h
  split_ifs at h with hl
  · exact ⟨hl, (Option.some.inj h).symm⟩
  · cases h

theorem coldDevices_sensors {l : String} {s : Sensor}
    (h : coldDevices.sensors.find? l = some s) : l = "k10temp" ∧ s = coldSensor := by
  change (UnorderedMap.empty.insertOrAssign "k10temp" coldSensor).find? l = some s at h
  rw [UnorderedMap.find?_insertOrAssign] at h
  split_ifs at h with hl
  · exact ⟨hl, (Option.some.inj h).symm⟩
  · cases h

theorem coldDevices_fan : coldDevices.fans.find? "case" = some coldFan :=
  (UnorderedMap.find?_insertOrAssign ..).trans (if_pos rfl)

theorem coldDevices_sensor : coldDevices.sensors.find? "k10temp" = some coldSensor :=
  (UnorderedMap.find?_insertOrAssign ..).trans (if_pos rfl)

theorem coldDevices_saveable : coldDevices.Saveable readyEnv where
  fanLabels l f h := by
    obtain ⟨rfl, rfl⟩ := coldDevices_fans h
    rfl
  sensorLabels l s h := by
    obtain ⟨rfl, rfl⟩ := coldDevices_sensors h
    rfl
  fanHwIds k l f g hf hg _ := (coldDevices_fans hf).1.trans (coldDevices_fans hg).1.symm
  sensorHwIds k l s t hs ht _ := (coldDevices_sensors hs).1.trans (coldDevices_sensors ht).1.symm
  fansValid l f h := by
    obtain ⟨rfl, rfl⟩ := coldDevices_fans h
    rfl
  sensorsValid l s h := by
    obtain ⟨rfl, rfl⟩ := coldDevices_sensors h
    rfl
  sensorsKnown l f s h hs := by
    obtain ⟨rfl, rfl⟩ := coldDevices_fans h
    obtain rfl := Option.some.inj hs
    exact coldDevices_sensor
  pwms l f h := by
    obtain ⟨rfl, rfl⟩ := coldDevices_fans h
    have hentries : coldFan.rpmToPwm.entries = [(1000, 255)] := by decide
    simp [hentries, PWM_MAX]
  curves l f h := by
    obtain ⟨rfl, rfl⟩ := coldDevices_fans h
    exact ⟨id, .ofItems [(1000, 255)], "14f: 800".toList, rfl⟩
  calibrated l f h hempty := by
    obtain ⟨rfl, rfl⟩ := coldDevices_fans h
    exact absurd hempty (by decide)
  startPwms l f h := by
    obtain ⟨rfl, rfl⟩ := coldDevices_fans h
    decide

theorem saves_exactly_cold : coldDevices.Saveable readyEnv ∧
    (SavesExactly readyEnv coldDevices ↔
      (∀ l f, coldDevices.fans.find? l = some f →
        (∀ e ∈ f.tempToRpm.entries, 0 ≤ e.1.val) ∧ readyEnv.Supports f.type) ∧
      (∀ l s, coldDevices.sensors.find? l = some s → readyEnv.Supports s.type) ∧
      ∀ k l f s, coldDevices.fans.find? k = some f → coldDevices.sensors.find? l = some s →
        f.hwId ≠ s.hwId) :=
  ⟨coldDevices_saveable, saves_exactly_iff readyEnv coldDevices coldDevices_saveable⟩

/-- The point at −10 degrees is loaded as one at 10 degrees. -/
theorem saves_inexactly : ¬ ∀ (env : Env) (d : Devices), d.Saveable env → SavesExactly env d := by
  intro h
  have hnonneg := coldDevices_saveable.nonneg_of_savesExactly
    (h readyEnv coldDevices coldDevices_saveable) coldDevices_fan
  rw [coldFan_entries] at hnonneg
  exact absurd (hnonneg _ List.mem_cons_self) (by decide)

end Fancon
