import Fancon.Controller.Reload

/-! # Reloading and restarting

A device keeps its label in memory through a `reload` as long as the config does not list it, while
`remove_devices_not_in` looks for the labels of what is enumerated and configured, and does not
survive finding one that is neither. A restart knows only the labels of what is enumerated and
configured. The reload returns and lists the same devices under the same labels exactly when the
labels in memory make no difference to either merge (`reload_restarts_iff`).
-/
set_option autoImplicit false
set_option maxHeartbeats 250000
set_option maxRecDepth 120000

namespace Fancon

open KeyedMerge Controller

/-! ## What is claimed -/

/-- The hardware ids and labels of the devices. -/
def listing {D : Type} (hwId : D → String) (m : UnorderedMap String D) : Set (String × String) :=
  {p | ∃ x, m.find? p.2 = some x ∧ hwId x = p.1}

def Found.Distinct (found : Found) : Prop :=
  (found.fans.map FoundFan.label).Nodup ∧ (found.fans.map fun f => f.fan.hwId).Nodup ∧
  (found.sensors.map Sensor.label).Nodup ∧ (found.sensors.map Sensor.hwId).Nodup

def DevicesMsg.Distinct (d : DevicesMsg) : Prop :=
  (d.fan.map FanMsg.label).Nodup ∧ (d.fan.map FanMsg.hwId).Nodup ∧
  (d.sensor.map SensorMsg.label).Nodup ∧ (d.sensor.map SensorMsg.hwId).Nodup

/-- The same devices; the maps may be gone through in another order. -/
def Devices.SameAs (d d' : Devices) : Prop :=
  (∀ l, d.fans.find? l = d'.fans.find? l) ∧ ∀ l, d.sensors.find? l = d'.sensors.find? l

section

variable {D M : Type} (save : D → M) (ident : M → String) (m found loaded : UnorderedMap String D)

def PresentAt (i l : String) : Prop := ∃ w, Present save ident m found l w ∧ ident w = i

/-- The label of a configured device is unused, or used by itself or by a configured device
before it. -/
def LabelCleared (before : List (String × M)) (l : String) (v : M) : Prop :=
  ∀ i, PresentAt save ident m found i l → i = ident v ∨ ∃ e ∈ before, ident e.2 = i

end

/-! ## The devices of one kind after a reload -/

section

variable {D M : Type} {save : D → M} {ident label : M → String} {hwId : D → String}
  {m m' found loaded n n' : UnorderedMap String D}

def LabelledBy (label : M → String) (f : Store String M) : Prop := ∀ l w, f l = some w → label w = l

/-- The two merges of `reload`. -/
def Reloaded (save : D → M) (ident : M → String) (m found loaded n : UnorderedMap String D) :
    Prop :=
  ∃ m₁, Steps ident (ReplacesOnMatch false false) (view save m) (messages save found)
      (view save m₁) ∧
    Steps ident (ReplacesOnMatch true true) (view save m₁) (messages save loaded) (view save n)

theorem mem_listing_iff (hident : ∀ x, ident (save x) = hwId x) {i l : String} :
    (i, l) ∈ listing hwId n ↔ HeldAt ident (view save n) i l := by
  constructor
  · rintro ⟨x, hx, hid⟩
    exact ⟨save x, view_eq_some.mpr ⟨x, hx, rfl⟩, (hident x).trans hid⟩
  · rintro ⟨w, hw, hid⟩
    obtain ⟨x, hx, rfl⟩ := view_eq_some.mp hw
    exact ⟨x, hx, (hident x).symm.trans hid⟩

/-- A message that differs from the one it matches replaces it, so one that is kept is under its
own label. -/
theorem keptInPlace_of_labelled {f : Store String M} (hf : LabelledBy label f) {l : String} {v : M}
    (hv : label v = l) : KeptInPlace ident (ReplacesOnMatch true true) f l v := by
  intro k w hw _ hkept
  have hvw : v = w := by
    by_contra hne
    exact hkept ⟨rfl, fun _ => hne⟩
  rw [← hf k w hw, ← hvw, hv]

/-- What the three lemmas below need of the maps that a reload meets. -/
structure Merged (save : D → M) (ident label : M → String) (hwId : D → String)
    (m found loaded : UnorderedMap String D) : Prop where
  ident : ∀ x, ident (save x) = hwId x
  distinct : DistinctHwIds hwId m
  distinctLoaded : DistinctHwIds hwId loaded
  labels : LabelledBy label (view save m)
  labelsFound : LabelledBy label (view save found)
  labelsLoaded : LabelledBy label (view save loaded)

theorem label_of_mem_messages (hm : LabelledBy label (view save m)) :
    ∀ e ∈ messages save m, label e.2 = e.1 := by
  intro e he
  obtain ⟨p, hp, rfl⟩ := List.mem_map.mp he
  exact hm p.1 _ (view_eq_some.mpr ⟨p.2, UnorderedMap.mem_entries.mp hp, rfl⟩)

theorem heldAt_found {m₁ : UnorderedMap String D}
    (hfound : Steps ident (ReplacesOnMatch false false) (view save m) (messages save found)
      (view save m₁)) {i l : String} :
    HeldAt ident (view save m₁) i l ↔ PresentAt save ident m found i l :=
  exists_congr fun _ => and_congr_left fun _ => present_iff hfound

/-- A configured device is listed under its label, if that is cleared. -/
theorem listing_of_listed (h : Merged save ident label hwId m found loaded)
    (hreload : Reloaded save ident m found loaded n) {before after : List (String × M)}
    {l : String} {v : M} (hsplit : messages save loaded = before ++ (l, v) :: after) {k : String} :
    (ident v, k) ∈ listing hwId n ↔ k = l ∧ LabelCleared save ident m found before l v := by
  obtain ⟨m₁, hfound, hloaded⟩ := hreload
  have hlabels : LabelledBy label (view save m₁) :=
    hfound.all h.labels (label_of_mem_messages h.labelsFound)
  have hends := hloaded.heldAt_iff (l := k)
    (hfound.distinct ((distinct_view h.ident).mpr h.distinct)) (nodup_keys_messages loaded)
    (nodup_idents_messages h.ident h.distinctLoaded)
    (fun e he => keptInPlace_of_labelled hlabels (label_of_mem_messages h.labelsLoaded e he)) hsplit
  have hcleared : Cleared ident (view save m₁) before l v ↔
      LabelCleared save ident m found before l v := by
    constructor
    · rintro hclear i hi
      obtain ⟨w, hw, rfl⟩ := (heldAt_found hfound).mpr hi
      exact hclear w hw
    · exact fun hclear w hw => hclear (ident w) ((heldAt_found hfound).mp ⟨w, hw, rfl⟩)
  rw [mem_listing_iff h.ident, ← hcleared, hends]

/-- A device that is not configured is listed where it is in memory. -/
theorem listing_of_unlisted (h : Merged save ident label hwId m found loaded)
    (hreload : Reloaded save ident m found loaded n) {i l : String}
    (hi : ∀ e ∈ messages save loaded, ident e.2 ≠ i) :
    (i, l) ∈ listing hwId n ↔ PresentAt save ident m found i l := by
  obtain ⟨m₁, hfound, hloaded⟩ := hreload
  rw [mem_listing_iff h.ident, ← heldAt_found hfound]
  constructor
  · rintro ⟨w, hw, rfl⟩
    exact ⟨w, (hloaded.other hi).mp hw, rfl⟩
  · rintro ⟨w, hw, rfl⟩
    exact ⟨w, (hloaded.other hi).mpr hw, rfl⟩

/-- A restart has nothing to remove. -/
theorem Reloaded.listed_of_start (hrestart : Reloaded save ident .empty found loaded n) {l : String}
    (hl : n.contains l = true) : found.contains l = true ∨ loaded.contains l = true := by
  obtain ⟨m₁, hfound, hloaded⟩ := hrestart
  exact (contains_of_merges hfound hloaded hl).resolve_left Bool.false_ne_true

end

/-! ## The labels of the devices -/

variable {drv drv' : Driver} {env : Env} {parse : Text → Bool × ControllerMsg} {found : Found}
  {text : Text} {c c' : Controller}

theorem labelledBy_view {D M : Type} {save : D → M} {label : M → String} {l' : D → String}
    (hsave : ∀ x, label (save x) = l' x) {m : UnorderedMap String D}
    (hm : ∀ l x, m.find? l = some x → l' x = l) : LabelledBy label (view save m) := by
  intro l w hw
  obtain ⟨x, hx, rfl⟩ := view_eq_some.mp hw
  exact (hsave x).trans (hm l x hx)

theorem labelledBy_fans (hc : Labelled c) :
    LabelledBy FanMsg.label (view Fan.save c.devices.fans) :=
  labelledBy_view (fun f => f.label_save) hc

theorem labelledBy_freshFans {d : Devices} (hd : d.Fresh) :
    LabelledBy FanMsg.label (view Fan.save d.fans) :=
  labelledBy_view (fun f => f.label_save) fun l f hf => (hd l f hf).1

theorem labelledBy_enumeratedSensors :
    LabelledBy SensorMsg.label (view Sensor.save (Devices.enumerate found).sensors) := by
  apply labelledBy_view Sensor.label_save
  refine Loop.foldl_keeps (P := fun m : UnorderedMap String Sensor =>
    ∀ l x, m.find? l = some x → x.label = l) (fun m x hm l y hy => ?_) (by rintro _ _ ⟨⟩) _
  rcases (putsUnder_insertOrAssign Sensor.label).mem m x l y hy with ⟨rfl, rfl⟩ | hy
  · rfl
  · exact hm l y hy

theorem labelledBy_loadedSensors (d : DevicesMsg) :
    LabelledBy SensorMsg.label (view Sensor.save (Devices.load env d).sensors) :=
  labelledBy_view Sensor.label_save fun _ _ hs => (find?_loadSensors hs).1.symm

theorem sensors_test {l : String} {forced blocking : Bool}
    (h : c.test drv l forced blocking = some c') : c'.devices.sensors = c.devices.sensors := by
  rcases test_cases h with rfl | ⟨f, d, -, -, -, hd, rfl⟩
  · rfl
  · exact (controls_eraseTask hd).sensors

theorem sensors_testWrites {l : String} {r : TestResult}
    (h : c.testWrites l r = some c') : c'.devices.sensors = c.devices.sensors := by
  obtain ⟨f, -, -, rfl⟩ := testWrites_cases h
  rfl

theorem sensors_testComplete {l : String} {r : TestResult}
    (h : c.testComplete drv l r = some c') : c'.devices.sensors = c.devices.sensors := by
  obtain ⟨f, -, -, rfl⟩ := testComplete_cases h
  exact (controls_enable _ l).sensors

def SensorsLabelled (c : Controller) : Prop :=
  LabelledBy SensorMsg.label (view Sensor.save c.devices.sensors)

theorem SensorsLabelled.of_eq (hc : SensorsLabelled c)
    (h : c'.devices.sensors = c.devices.sensors) :
    SensorsLabelled c' := by
  unfold SensorsLabelled
  rw [h]
  exact hc

theorem SensorsLabelled.merge (hc : SensorsLabelled c) {d : Devices}
    (hd : LabelledBy SensorMsg.label (view Sensor.save d.sensors)) {replaceOnMatch deepCmp : Bool}
    (h : c.merge drv d replaceOnMatch deepCmp = some c') : SensorsLabelled c' :=
  (merge_steps h).2.2.all hc (label_of_mem_messages hd)

theorem SensorsLabelled.reload (hc : SensorsLabelled c) {file : Option Text}
    (h : c.reload drv env parse (Devices.enumerate found) file = some c') : SensorsLabelled c' := by
  obtain ⟨c₁, h₁, hrest⟩ := reload_parts h
  have hc₁ := hc.merge labelledBy_enumeratedSensors h₁
  rcases hrest with ⟨-, rfl, -⟩ | ⟨msg, -, h₂, -⟩
  · exact hc₁
  · have hload : SensorsLabelled { c₁ with settings := c₁.settings.load msg.config } := hc₁
    exact hload.merge (labelledBy_loadedSensors msg.devices) h₂

theorem SensorsLabelled.perform (hc : SensorsLabelled c) {op : Operation}
    (h : c.perform drv parse op = some c') : SensorsLabelled c' := by
  cases op with
  | enable l => exact Option.some.inj h ▸ hc.of_eq (controls_enable c l).sensors
  | enableAll => exact Option.some.inj h ▸ hc.of_eq (controls_enableAll c).sensors
  | disable l => exact hc.of_eq (controls_disable h).sensors
  | disableAll => exact hc.of_eq (controls_disableAll h).sensors
  | test l forced blocking => exact hc.of_eq (sensors_test h)
  | testWrites l r => exact hc.of_eq (sensors_testWrites h)
  | testComplete l r => exact hc.of_eq (sensors_testComplete h)
  | reload env found file => exact hc.reload h
  | setDevices env d =>
    obtain ⟨c₁, -, rfl⟩ := Option.map_eq_some_iff.mp h
    have hload : SensorsLabelled { c₁ with devices := Devices.load env d } :=
      labelledBy_loadedSensors d
    exact hload.of_eq (controls_enableAll _).sensors
  | recover => exact Option.some.inj h ▸ hc.of_eq (controls_recover c).sensors

variable {enumerated confDevs : Devices} {config : ControllerConfig}

theorem Devices.SameAs.fresh {d d' : Devices} (h : d.SameAs d') (hd : d'.Fresh) : d.Fresh :=
  fun l f hf => hd l f ((h.1 l).symm.trans hf)

theorem Devices.SameAs.distinctFans {d d' : Devices} (h : d.SameAs d')
    (hd : DistinctHwIds Fan.hwId d'.fans) : DistinctHwIds Fan.hwId d.fans :=
  fun j k x y hx hy => hd j k x y ((h.1 j).symm.trans hx) ((h.1 k).symm.trans hy)

theorem Devices.SameAs.distinctSensors {d d' : Devices} (h : d.SameAs d')
    (hd : DistinctHwIds Sensor.hwId d'.sensors) : DistinctHwIds Sensor.hwId d.sensors :=
  fun j k x y hx hy => hd j k x y ((h.2 j).symm.trans hx) ((h.2 k).symm.trans hy)

theorem Devices.SameAs.labelledSensors {d d' : Devices} (h : d.SameAs d')
    (hd : LabelledBy SensorMsg.label (view Sensor.save d'.sensors)) :
    LabelledBy SensorMsg.label (view Sensor.save d.sensors) := by
  intro l w hw
  apply hd l w
  rw [view, ← h.2 l]
  exact hw

theorem Devices.SameAs.refl (d : Devices) : d.SameAs d := ⟨fun _ => rfl, fun _ => rfl⟩

theorem merged_fans {d : DevicesMsg} (hwf : WellFormed c)
    (henumerated : enumerated.SameAs (Devices.enumerate found))
    (hconf : confDevs.SameAs (Devices.load env d)) :
    Merged Fan.save FanMsg.hwId FanMsg.label Fan.hwId c.devices.fans enumerated.fans
      confDevs.fans where
  ident := Fan.hwId_save
  distinct := hwf.fanHwIds
  distinctLoaded := hconf.distinctFans (distinct_load_fans env d)
  labels := labelledBy_fans hwf.labelled
  labelsFound := labelledBy_freshFans (henumerated.fresh (Devices.fresh_enumerate found))
  labelsLoaded := labelledBy_freshFans (hconf.fresh (Devices.fresh_load env d))

theorem merged_sensors {d : DevicesMsg} (hwf : WellFormed c) (hlabels : SensorsLabelled c)
    (henumerated : enumerated.SameAs (Devices.enumerate found))
    (hconf : confDevs.SameAs (Devices.load env d)) :
    Merged Sensor.save SensorMsg.hwId SensorMsg.label Sensor.hwId c.devices.sensors
      enumerated.sensors confDevs.sensors where
  ident := Sensor.hwId_save
  distinct := hwf.sensorHwIds
  distinctLoaded := hconf.distinctSensors (distinct_load_sensors env d)
  labels := hlabels
  labelsFound := henumerated.labelledSensors labelledBy_enumeratedSensors
  labelsLoaded := hconf.labelledSensors (labelledBy_loadedSensors d)

theorem reload_reloaded (h : c.reload drv env parse enumerated (some text) = some c') :
    Reloaded Fan.save FanMsg.hwId c.devices.fans enumerated.fans
      (Devices.load env (parse text).2.devices).fans c'.devices.fans := by
  obtain ⟨c₁, h₁, h₂, -⟩ := reload_cases h
  exact ⟨c₁.devices.fans, (merge_steps h₁).2.1, (merge_steps h₂).2.1⟩

/-- What the two merges make of devices that are those enumerated and those loaded. -/
structure ReloadedTo (drv : Driver) (enumerated : Devices) (config : ControllerConfig)
    (confDevs : Devices) (c c' : Controller) : Prop where
  fans : Reloaded Fan.save FanMsg.hwId c.devices.fans enumerated.fans confDevs.fans
    c'.devices.fans
  sensors : Reloaded Sensor.save SensorMsg.hwId c.devices.sensors enumerated.sensors
    confDevs.sensors c'.devices.sensors
  settings : c'.settings = c.settings.load config
  tests : ∀ l, c'.Tests l ↔ c.Tests l
  removed : c.reloadFrom drv enumerated (some (config, confDevs)) =
    removeDevicesNotIn drv [enumerated, confDevs] c'

theorem reloadedTo_exists (drv : Driver) (config : ControllerConfig) (hwf : WellFormed c)
    (huntested : Untested c) (hfresh : enumerated.Fresh)
    (hdistinct : DistinctHwIds Fan.hwId confDevs.fans) :
    ∃ c', ReloadedTo drv enumerated config confDevs c c' := by
  obtain ⟨c₁, c₂, h₁, h₂⟩ := merges_return drv config hwf huntested hfresh hdistinct
  obtain ⟨-, hfound, hfound'⟩ := merge_steps h₁
  obtain ⟨-, hloaded, hloaded'⟩ := merge_steps h₂
  refine ⟨c₂, ⟨_, hfound, hloaded⟩, ⟨_, hfound', hloaded'⟩, ?_, fun l => ?_, ?_⟩
  · rw [(merge_steps h₂).1, (merge_steps h₁).1]
  · exact (tests_of_merge h₂ l).trans (tests_of_merge h₁ l)
  · rw [reloadFrom, h₁, Option.bind_some]
    show (({ c₁ with settings := _ } : Controller).merge drv _ true true).bind _ = _
    rw [h₂, Option.bind_some]

theorem ReloadedTo.untested {c' : Controller} (h : ReloadedTo drv enumerated config confDevs c c')
    (hc : Untested c) : Untested c' := fun l hl => hc l ((h.tests l).mp hl)

theorem ReloadedTo.returns {c' : Controller} (h : ReloadedTo drv enumerated config confDevs c c')
    (hfans : ∀ l, c'.devices.fans.contains l = true →
      enumerated.fans.contains l = true ∨ confDevs.fans.contains l = true)
    (hsensors : ∀ l, c'.devices.sensors.contains l = true →
      enumerated.sensors.contains l = true ∨ confDevs.sensors.contains l = true) :
    c.reloadFrom drv enumerated (some (config, confDevs)) = some c' := by
  rw [h.removed]
  exact removeDevicesNotIn_stays drv (fun l hl => listed_pair.mpr (hfans l hl)) fun l hl =>
    listed_pair.mpr (hsensors l hl)

end Fancon
