import Fancon.Controller.ManualControl
import Fancon.Controller.Restart

/-! # Reloading again

Clients ask for a reload also where nothing was edited. A device changes nothing in its turn of
`merge` if what is there under its hardware id is not replaced, and its label is taken if nothing
is (`Idle`). After a reload that is so of all devices it reads, unless one was crowded out; so the
next one with the same inputs leaves the controller as it finds it, whatever fans were enabled or
disabled in between (`reload_again`). So does a reload of the config that the controller wrote
itself, if its devices are saved exactly (`reload_saved`). No test may be running: it would write to
its fan before it ends.
-/
set_option autoImplicit false
set_option maxHeartbeats 250000
set_option maxRecDepth 120000

namespace Fancon

open KeyedMerge Controller

/-! ## Devices that change nothing -/

section

variable {D M S : Type} {get : S → UnorderedMap String D} {add : S → String → D → S}
  {hwId : D → String} {deepEqual : D → D → Bool} {onMatch : S → String → String → D → Option S}
  {save : D → M} {ident : M → String} {blocked : S → String → Prop}
  {replaceOnMatch deepCmp : Bool} {m found : UnorderedMap String D} {l : String} {x : D}

/-- The device is there, or its label is taken. -/
def HasPlace (save : D → M) (ident : M → String) (f : Store String M) (l : String) (x : D) : Prop :=
  (∃ w, f l = some w) ∨ Holds ident f (ident (save x))

/-- A device whose turn changes nothing. -/
structure Idle (save : D → M) (ident : M → String) (replaceOnMatch deepCmp : Bool)
    (f : Store String M) (l : String) (x : D) : Prop where
  place : HasPlace save ident f l x
  kept : ¬ Replaces ident (ReplacesOnMatch replaceOnMatch deepCmp) f (save x)

theorem mergeDevice_stays (spec : MergeSpec get add hwId deepEqual onMatch save ident blocked)
    (hadd : ∀ s l x, (get s).contains l = true → add s l x = s) {s : S}
    {e : Sigma fun _ : String => D}
    (h : Idle save ident replaceOnMatch deepCmp (view save (get s)) e.1 e.2) :
    mergeDevice get add hwId deepEqual replaceOnMatch deepCmp onMatch s e = some s := by
  rcases mergeDevice_cases replaceOnMatch deepCmp spec s e with
    ⟨hnew, heq⟩ | ⟨k, y, hy, hid, ⟨-, heq⟩ | ⟨hrep, -⟩⟩
  · rcases h.place with htaken | hheld
    · rw [heq, hadd s e.1 e.2 (contains_iff_view.mpr htaken)]
    · rw [spec.ident_save] at hheld
      exact absurd hheld hnew
  · exact heq
  · refine absurd ⟨k, save y, view_eq_some.mpr ⟨y, hy, rfl⟩, ?_, hrep⟩ h.kept
    rw [spec.ident_save, spec.ident_save, hid]

theorem idle_of_keep {f : Store String M} (h : HasPlace save ident f l x) :
    Idle save ident false deepCmp f l x where
  place := h
  kept := by
    rintro ⟨_, _, _, _, hrep, _⟩
    cases hrep

end

section

variable {drv : Driver} {c c' : Controller} {d : Devices} {replaceOnMatch deepCmp : Bool}

/-- No device of `d` changes anything in its turn. -/
structure AllIdle (c : Controller) (d : Devices) (replaceOnMatch deepCmp : Bool) : Prop where
  fans : ∀ l f, d.fans.find? l = some f →
    Idle Fan.save FanMsg.hwId replaceOnMatch deepCmp (view Fan.save c.devices.fans) l f
  sensors : ∀ l x, d.sensors.find? l = some x →
    Idle Sensor.save SensorMsg.hwId replaceOnMatch deepCmp
      (view Sensor.save c.devices.sensors) l x

theorem addFan_of_contains {l : String} (f : Fan) (h : c.devices.fans.contains l = true) :
    c.addFan l f = c := by
  obtain ⟨g, hg⟩ := UnorderedMap.contains_iff.mp h
  rw [addFan, UnorderedMap.emplace_of_some hg]

theorem merge_stays (drv : Driver) (h : AllIdle c d replaceOnMatch deepCmp) :
    c.merge drv d replaceOnMatch deepCmp = some c := by
  have hfans : d.fans.entries.foldlM (mergeFan drv replaceOnMatch deepCmp) (c, false) =
      some (c, false) := by
    refine Loop.foldlM_stays fun e he => ?_
    refine mergeDevice_stays (mergeFan_spec drv) (fun s l f hl => ?_)
      (h.fans e.1 e.2 (UnorderedMap.mem_entries.mp he))
    rw [addFan_of_contains f hl]
  have hsensors : d.sensors.entries.foldlM (mergeSensor replaceOnMatch deepCmp)
      c.devices.sensors = some c.devices.sensors := by
    refine Loop.foldlM_stays fun e he => ?_
    refine mergeDevice_stays mergeSensor_spec (fun m l x hl => ?_)
      (h.sensors e.1 e.2 (UnorderedMap.mem_entries.mp he))
    obtain ⟨y, hy⟩ := UnorderedMap.contains_iff.mp hl
    exact UnorderedMap.emplace_of_some hy x
  rw [merge, hfans, Option.bind_some]
  show Option.map _ (d.sensors.entries.foldlM _ c.devices.sensors) = _
  rw [hsensors, Option.map_some]
  rfl

/-! ## A reload in which nothing happens -/

/-- All devices of `d` are there, or their labels are taken. -/
structure NoneJoins (c : Controller) (d : Devices) : Prop where
  fans : ∀ l f, d.fans.find? l = some f →
    HasPlace Fan.save FanMsg.hwId (view Fan.save c.devices.fans) l f
  sensors : ∀ l x, d.sensors.find? l = some x →
    HasPlace Sensor.save SensorMsg.hwId (view Sensor.save c.devices.sensors) l x

theorem NoneJoins.idle (h : NoneJoins c d) (deepCmp : Bool) : AllIdle c d false deepCmp where
  fans l f hf := idle_of_keep (h.fans l f hf)
  sensors l x hx := idle_of_keep (h.sensors l x hx)

/-- Every device is under a label of one of the sources. -/
def AllListed (c : Controller) (ds : List Devices) : Prop :=
  (∀ l, c.devices.fans.contains l = true → (ds.any fun d => d.fans.contains l) = true) ∧
    ∀ l, c.devices.sensors.contains l = true → (ds.any fun d => d.sensors.contains l) = true

variable {env : Env} {parse : Text → Bool × ControllerMsg} {enumerated : Devices}
  {file : Option Text}

theorem reload_stays_unread (drv : Driver) (hread : readConfig parse file = none)
    (hfound : NoneJoins c enumerated) (hlisted : AllListed c [enumerated]) :
    c.reload drv env parse enumerated file = some c := by
  rw [reload, reloadFrom, merge_stays drv (hfound.idle false), Option.bind_some, hread]
  exact removeDevicesNotIn_stays drv hlisted.1 hlisted.2

theorem reload_stays (drv : Driver) {msg : ControllerMsg}
    (hread : readConfig parse file = some msg) (hfound : NoneJoins c enumerated)
    (hsettings : c.settings.load msg.config = c.settings)
    (hloaded : AllIdle c (Devices.load env msg.devices) true true)
    (hlisted : AllListed c [enumerated, Devices.load env msg.devices]) :
    c.reload drv env parse enumerated file = some c := by
  rw [reload, reloadFrom, merge_stays drv (hfound.idle false), Option.bind_some, hread]
  show (({ c with settings := c.settings.load msg.config } : Controller).merge drv _ true
    true).bind _ = _
  rw [hsettings]
  show (c.merge drv _ true true).bind _ = _
  rw [merge_stays drv hloaded, Option.bind_some]
  exact removeDevicesNotIn_stays drv hlisted.1 hlisted.2

/-! ## What a reload leaves -/

theorem allListed_of_remove {ds : List Devices} (h : removeDevicesNotIn drv ds c = some c') :
    AllListed c' ds := by
  obtain ⟨hfans, hsensors, rfl⟩ := removeDevicesNotIn_eq_some.mp h
  exact ⟨hfans, hsensors⟩

/-- After a merge that replaces what differs, nothing differs. -/
theorem not_replaces_of_steps {D M : Type} {save : D → M} {ident : M → String} {hwId : D → String}
    (hident : ∀ x, ident (save x) = hwId x) {m n loaded : UnorderedMap String D}
    (hs : Steps ident (ReplacesOnMatch true true) (view save m) (messages save loaded)
      (view save n))
    (hm : DistinctHwIds hwId m) (hdistinct : DistinctHwIds hwId loaded) {l : String} {x : D}
    (hx : loaded.find? l = some x) :
    ¬ Replaces ident (ReplacesOnMatch true true) (view save n) (save x) := by
  rintro ⟨k, w, hw, hid, -, hdiffers⟩
  have hmem : (l, save x) ∈ messages save loaded :=
    List.mem_map.mpr ⟨⟨l, x⟩, UnorderedMap.mem_entries.mpr hx, rfl⟩
  have hsame : w = save x :=
    hs.value_eq ((distinct_view hident).mpr hm) (nodup_idents_messages hident hdistinct)
      (fun v w hkeep => by
        by_contra hne
        exact hkeep ⟨rfl, fun _ => hne⟩) hmem hw hid
  exact hdiffers rfl hsame.symm

/-- What a reload reads is what it leaves, as far as there was room. -/
theorem allIdle_of_reload {found : Found} {msg : ControllerMsg} (hwf : WellFormed c)
    (h : c.reload drv env parse (Devices.enumerate found) file = some c')
    (hread : readConfig parse file = some msg)
    (hjoins : NoneJoins c' (Devices.load env msg.devices)) :
    AllIdle c' (Devices.load env msg.devices) true true ∧
      AllListed c' [Devices.enumerate found, Devices.load env msg.devices] ∧
      c'.settings = c.settings.load msg.config := by
  obtain ⟨c₁, h₁, ⟨hnone, -⟩ | ⟨msg', hread', h₂, h₃⟩⟩ := reload_parts h
  · cases hnone.symm.trans hread
  · obtain rfl := Option.some.inj (hread'.symm.trans hread)
    have hwf₁ := (hwf.merge (Devices.fresh_enumerate found) h₁).withSettings
      (c₁.settings.load msg'.config)
    obtain ⟨hsettings, hfans, hsensors⟩ := merge_steps h₂
    refine ⟨⟨fun l f hf => ⟨hjoins.fans l f hf, ?_⟩, fun l x hx => ⟨hjoins.sensors l x hx, ?_⟩⟩,
      allListed_of_remove h₃, ?_⟩
    · exact not_replaces_of_steps Fan.hwId_save hfans hwf₁.fanHwIds (distinct_load_fans _ _) hf
    · exact not_replaces_of_steps Sensor.hwId_save hsensors hwf₁.sensorHwIds
        (distinct_load_sensors _ _) hx
    · rw [hsettings, (merge_steps h₁).1]

/-! ## Operations that leave the devices alone -/

/-- Settings and devices are the same, but for control modes. -/
structure DevicesKept (c c' : Controller) : Prop where
  settings : c'.settings = c.settings
  fans : view Fan.save c'.devices.fans = view Fan.save c.devices.fans
  sensors : c'.devices.sensors = c.devices.sensors

theorem DevicesKept.refl (c : Controller) : DevicesKept c c := ⟨rfl, rfl, rfl⟩

theorem DevicesKept.trans {a b : Controller} (hab : DevicesKept a b) (hbc : DevicesKept b c) :
    DevicesKept a c where
  settings := hbc.settings.trans hab.settings
  fans := hbc.fans.trans hab.fans
  sensors := hbc.sensors.trans hab.sensors

theorem DevicesKept.of_controls (h : Controls c c') : DevicesKept c c' where
  settings := h.settings
  fans := view_fans_of_controls h
  sensors := h.sensors

theorem DevicesKept.noneJoins (h : DevicesKept c c') (hd : NoneJoins c d) : NoneJoins c' d where
  fans l f hf := by
    rw [h.fans]
    exact hd.fans l f hf
  sensors l x hx := by
    rw [h.sensors]
    exact hd.sensors l x hx

theorem DevicesKept.allIdle (h : DevicesKept c c')
    (hd : AllIdle c d replaceOnMatch deepCmp) : AllIdle c' d replaceOnMatch deepCmp where
  fans l f hf := by
    rw [h.fans]
    exact hd.fans l f hf
  sensors l x hx := by
    rw [h.sensors]
    exact hd.sensors l x hx

theorem DevicesKept.allListed (h : DevicesKept c c') {ds : List Devices} (hd : AllListed c ds) :
    AllListed c' ds := by
  refine ⟨fun l hl => hd.1 l ?_, fun l hl => hd.2 l ?_⟩
  · obtain ⟨w, hw⟩ : ∃ w, view Fan.save c'.devices.fans l = some w := contains_iff_view.mp hl
    rw [h.fans] at hw
    exact contains_iff_view.mpr ⟨w, hw⟩
  · rwa [h.sensors] at hl

/-- An operation that leaves the devices alone, up to its return. -/
def Operation.keepsDevices : Operation → Bool
  | .testWrites .. | .testComplete .. | .reload .. | .setDevices .. => false
  | _ => true

/-- An operation that replaces no device and starts no test. -/
def Operation.startsNothing : Operation → Bool
  | .test .. | .reload .. | .setDevices .. => false
  | _ => true

theorem devicesKept_perform {op : Operation} (hquiet : op.keepsDevices = true)
    (h : c.perform drv parse op = some c') : DevicesKept c c' := by
  cases op with
  | enable l => exact Option.some.inj h ▸ .of_controls (controls_enable c l)
  | enableAll => exact Option.some.inj h ▸ .of_controls (controls_enableAll c)
  | disable l => exact .of_controls (controls_disable h)
  | disableAll => exact .of_controls (controls_disableAll h)
  | test l forced blocking =>
    rcases test_cases h with rfl | ⟨f, t, -, -, -, ht, rfl⟩
    · exact .refl c'
    · exact (DevicesKept.of_controls (controls_eraseTask ht)).trans ⟨rfl, rfl, rfl⟩
  | testWrites l r => cases hquiet
  | testComplete l r => cases hquiet
  | reload env found file => cases hquiet
  | setDevices env d => cases hquiet
  | recover => exact Option.some.inj h ▸ .of_controls (controls_recover c)

/-- The steps in which no device is replaced and no test starts. -/
def quietSystem (parse : Text → Bool × ControllerMsg) (drivers : Driver → Prop) :
    Transition.System Controller Operation where
  init := (system parse drivers).init
  step c op c' := op.startsNothing = true ∧ (system parse drivers).step c op c'

theorem quiet_step (huntested : Untested c) {op : Operation} (hquiet : op.startsNothing = true)
    (h : c.perform drv parse op = some c') : DevicesKept c c' ∧ Untested c' := by
  have hcontrols : Controls c c' → DevicesKept c c' ∧ Untested c' := fun hcontrols =>
    ⟨.of_controls hcontrols, fun l hl => huntested l ((hcontrols.tests l).mp hl)⟩
  cases op with
  | enable l => exact hcontrols (Option.some.inj h ▸ controls_enable c l)
  | enableAll => exact hcontrols (Option.some.inj h ▸ controls_enableAll c)
  | disable l => exact hcontrols (controls_disable h)
  | disableAll => exact hcontrols (controls_disableAll h)
  | test l forced blocking => cases hquiet
  | testWrites l r =>
    obtain ⟨f, htest, -⟩ := testWrites_cases h
    exact absurd htest (huntested l)
  | testComplete l r =>
    obtain ⟨f, htest, -⟩ := testComplete_cases h
    exact absurd htest (huntested l)
  | reload env found file => cases hquiet
  | setDevices env d => cases hquiet
  | recover => exact hcontrols (Option.some.inj h ▸ controls_recover c)

theorem devicesKept_of_steps {drivers : Driver → Prop} (huntested : Untested c)
    (h : Transition.Steps (quietSystem parse drivers) c c') : DevicesKept c c' := by
  suffices hrun : DevicesKept c c' ∧ Untested c' from hrun.1
  induction h with
  | refl => exact ⟨.refl c, huntested⟩
  | tail _ hstep ih =>
    obtain ⟨op, hquiet, drv, -, hop⟩ := hstep
    obtain ⟨hkept, htests⟩ := quiet_step ih.2 hquiet hop
    exact ⟨ih.1.trans hkept, htests⟩

theorem Settings.load_load (s : Settings) (config : ControllerConfig) :
    (s.load config).load config = s.load config := by
  unfold Settings.load
  split_ifs <;> rfl

theorem Settings.load_save (s : Settings) : s.load s.save = s := by
  unfold Settings.load Settings.save
  exact Settings.mk.injEq .. ▸ ⟨ite_self _, rfl, rfl, rfl, rfl⟩

/-- **With no test running, a reload that reads what the last one read leaves the controller as it
finds it, unless a device was crowded out.** -/
theorem reload_again (drv drv' : Driver) (env : Env) (parse : Text → Bool × ControllerMsg)
    (drivers : Driver → Prop) (found : Found) (file : Option Text) (c c₁ c₂ : Controller)
    (hc : Transition.Reachable (system parse drivers) c)
    (hreload : c.reload drv env parse (Devices.enumerate found) file = some c₁)
    (huntested : Untested c₁) (hfound : NoneJoins c₁ (Devices.enumerate found))
    (hlisted : ∀ msg, readConfig parse file = some msg →
      NoneJoins c₁ (Devices.load env msg.devices))
    (hquiet : Transition.Steps (quietSystem parse drivers) c₁ c₂) :
    c₂.reload drv' env parse (Devices.enumerate found) file = some c₂ := by
  have hsame := devicesKept_of_steps huntested hquiet
  cases hread : readConfig parse file with
  | none =>
    refine reload_stays_unread drv' hread (hsame.noneJoins hfound) (hsame.allListed ?_)
    obtain ⟨t, -, ⟨-, -, hremove⟩ | ⟨msg, hmsg, -⟩⟩ := reload_parts hreload
    · exact allListed_of_remove hremove
    · cases hmsg.symm.trans hread
  | some msg =>
    obtain ⟨hidle, hall, hsettings⟩ :=
      allIdle_of_reload (wellFormed_of_reachable hc) hreload hread (hlisted msg hread)
    refine reload_stays drv' hread (hsame.noneJoins hfound) ?_ (hsame.allIdle hidle)
      (hsame.allListed hall)
    rw [hsame.settings, hsettings, Settings.load_load]

/-! ## The controller's own config -/

/-- `Controller::to`: what `to_file` prints. -/
def Controller.save (c : Controller) : ControllerMsg := ⟨c.settings.save, c.devices.save⟩

theorem mem_of_deepEqualMaps {D : Type} {deepEqual : D → D → Bool} {m n : UnorderedMap String D}
    (h : DeepEqualMaps deepEqual m n) {l : String} {y : D} (hy : n.find? l = some y) :
    ∃ x, m.find? l = some x ∧ deepEqual x y = true := by
  obtain ⟨hcontains, hequal⟩ := h l
  obtain ⟨x, hx⟩ := UnorderedMap.contains_iff.mp
    (hcontains.trans (UnorderedMap.contains_iff.mpr ⟨y, hy⟩))
  exact ⟨x, hx, hequal x y hx hy⟩

theorem idle_of_deepEqualMaps {D M : Type} {deepEqual : D → D → Bool} {save : D → M}
    {ident : M → String} {hwId : D → String} (hident : ∀ x, ident (save x) = hwId x)
    (hdeep : ∀ x y, deepEqual x y = true ↔ save x = save y) {m n : UnorderedMap String D}
    (hm : DistinctHwIds hwId m) (h : DeepEqualMaps deepEqual m n) {l : String} {y : D}
    (hy : n.find? l = some y) : Idle save ident true true (view save m) l y := by
  obtain ⟨x, hx, hxy⟩ := mem_of_deepEqualMaps h hy
  have hsame : save x = save y := (hdeep x y).mp hxy
  have hview : view save m l = some (save x) := view_eq_some.mpr ⟨x, hx, rfl⟩
  refine ⟨Or.inl ⟨save x, hview⟩, ?_⟩
  rintro ⟨k, w, hw, hid, -, hdiffers⟩
  obtain rfl : k = l :=
    (distinct_view hident).mpr hm k l w (save x) hw hview (by rw [hid, hsame])
  obtain rfl := Option.some.inj (hw.symm.trans hview)
  exact hdiffers rfl hsame.symm

/-- What is saved exactly changes nothing when it is loaded again. -/
theorem allIdle_of_savesExactly (hwf : WellFormed c) (h : SavesExactly env c.devices) :
    AllIdle c (Devices.load env c.devices.save) true true where
  fans _ _ := idle_of_deepEqualMaps Fan.hwId_save (fun _ _ => decide_eq_true_iff)
    hwf.fanHwIds h.1
  sensors _ _ := idle_of_deepEqualMaps Sensor.hwId_save (fun _ _ => decide_eq_true_iff)
    hwf.sensorHwIds h.2

theorem allListed_of_savesExactly (h : SavesExactly env c.devices) (enumerated : Devices) :
    AllListed c [enumerated, Devices.load env c.devices.save] := by
  refine ⟨fun l hl => ?_, fun l hl => ?_⟩
  · rw [(h.1 l).1] at hl
    exact listed_pair.mpr (Or.inr hl)
  · rw [(h.2 l).1] at hl
    exact listed_pair.mpr (Or.inr hl)

/-- **With no test running, a reload of the config that the controller wrote leaves the controller
as it finds it.** -/
theorem reload_saved (drv : Driver) (env : Env) (parse : Text → Bool × ControllerMsg)
    (drivers : Driver → Prop) (found : Found) (text : Text) (c c' : Controller)
    (hc : Transition.Reachable (system parse drivers) c) (huntested : Untested c)
    (htext : (parse text).2 = c.save) (hsave : SavesExactly env c.devices)
    (hfound : NoneJoins c (Devices.enumerate found))
    (hquiet : Transition.Steps (quietSystem parse drivers) c c') :
    c'.reload drv env parse (Devices.enumerate found) (some text) = some c' := by
  have hsame := devicesKept_of_steps huntested hquiet
  have hwf := wellFormed_of_reachable hc
  have hread : readConfig parse (some text) = some c.save := congrArg some htext
  refine reload_stays drv hread (hsame.noneJoins hfound) ?_
    (hsame.allIdle (allIdle_of_savesExactly hwf hsave))
    (hsame.allListed (allListed_of_savesExactly hsave (Devices.enumerate found)))
  rw [hsame.settings]
  exact c.settings.load_save

end

theorem noneJoins_of_entries {c : Controller} {d : Devices}
    (hfans : ∀ e ∈ d.fans.entries, ∃ p ∈ c.devices.fans.entries, p.2.hwId = e.2.hwId)
    (hsensors : ∀ e ∈ d.sensors.entries, ∃ p ∈ c.devices.sensors.entries,
      p.2.hwId = e.2.hwId) : NoneJoins c d where
  fans l f hf := by
    obtain ⟨p, hp, hid⟩ := hfans ⟨l, f⟩ (UnorderedMap.mem_entries.mpr hf)
    refine Or.inr ⟨p.1, p.2.save, view_eq_some.mpr ⟨p.2, UnorderedMap.mem_entries.mp hp, rfl⟩, ?_⟩
    rw [Fan.hwId_save, Fan.hwId_save, hid]
  sensors l x hx := by
    obtain ⟨p, hp, hid⟩ := hsensors ⟨l, x⟩ (UnorderedMap.mem_entries.mpr hx)
    refine Or.inr ⟨p.1, p.2.save, view_eq_some.mpr ⟨p.2, UnorderedMap.mem_entries.mp hp, rfl⟩, ?_⟩
    rw [Sensor.hwId_save, Sensor.hwId_save, hid]

/-- The fan of `oneFan` was renamed by the config and is disabled before the next reload. -/
theorem reload_again_renamed :
    ∃ c₂, renamed.disable willingDriver "cpu" = some c₂ ∧
      c₂.reload willingDriver readyEnv parseRenamed (Devices.enumerate oneFan)
        (some renamedText) = some c₂ := by
  obtain ⟨c₂, hdisable⟩ := disable_returns willingDriver renamed_untested "cpu"
  refine ⟨c₂, hdisable, reload_again willingDriver willingDriver readyEnv parseRenamed
    (fun _ => True) oneFan (some renamedText) {} renamed c₂ (.init rfl) reload_renamed
    renamed_untested
    (noneJoins_of_entries (by decide +kernel) (by decide +kernel)) (fun msg hmsg => ?_) ?_⟩
  · obtain rfl := Option.some.inj hmsg
    simp only [parseRenamed_renamed]
    exact noneJoins_of_entries (by decide +kernel) (by decide +kernel)
  · exact .single ⟨.disable "cpu", rfl, willingDriver, trivial, hdisable⟩

theorem deepEqualMaps_of_entries {D : Type} {deepEqual : D → D → Bool}
    {m n : UnorderedMap String D}
    (hto : ∀ e ∈ m.entries, ∃ p ∈ n.entries, p.1 = e.1 ∧ deepEqual e.2 p.2 = true)
    (hfrom : ∀ p ∈ n.entries, ∃ e ∈ m.entries, e.1 = p.1) : DeepEqualMaps deepEqual m n := by
  refine deepEqualMaps_of_find? (fun l x hx => ?_) fun l y hy => ?_
  · obtain ⟨⟨k, z⟩, hp, rfl, heq⟩ := hto ⟨l, x⟩ (UnorderedMap.mem_entries.mpr hx)
    exact ⟨z, UnorderedMap.mem_entries.mp hp, heq⟩
  · obtain ⟨⟨k, z⟩, he, rfl⟩ := hfrom ⟨l, y⟩ (UnorderedMap.mem_entries.mpr hy)
    exact ⟨z, UnorderedMap.mem_entries.mp he⟩

/-- What `to_file` prints for the fan of `caseMsg`. -/
def savedText : Text :=
  ("config \x7b update_interval: 500 dynamic: true smoothing_intervals: 4 " ++
    "top_stickiness_intervals: 4 temp_averaging_intervals: 8 \x7d devices \x7b fan \x7b " ++
    "label: \"case\" sensor: \"k10temp\" temp_to_rpm: \"40: 800\" rpm_to_pwm: \"800: 100\" " ++
    "driver_flag: 2 pwm_path: \"/sys/pwm1\" rpm_path: \"/sys/fan1_input\" " ++
    "enable_path: \"/sys/pwm1_enable\" \x7d sensor \x7b label: \"k10temp\" " ++
    "input_path: \"/sys/temp1_input\" \x7d \x7d").toList

def parseCase : Text → Bool × ControllerMsg :=
  parserOf [(savedText, true, ⟨⟨500, true, 4, 4, 8⟩, caseDevices "40: 800"⟩)]

theorem parseCase_saved : (parseCase savedText).2 = (caseController "40: 800").save := by
  rw [parseCase, parserOf_self]
  decide +kernel

theorem case_untested : Untested (caseController "40: 800") := untested_of_keys (by decide +kernel)

theorem case_reachable_system :
    Transition.Reachable (system parseCase fun _ => True) (caseController "40: 800") :=
  .step (a := .setDevices readyEnv (caseDevices "40: 800")) (.init rfl) trivial
    ⟨willingDriver, trivial, setDevices_case "40: 800"⟩

theorem case_savesExactly : SavesExactly readyEnv (caseController "40: 800").devices :=
  ⟨deepEqualMaps_of_entries (by decide +kernel) (by decide +kernel),
    deepEqualMaps_of_entries (by decide +kernel) (by decide +kernel)⟩

/-- The fan is disabled between the save and the reload, and stays so. -/
theorem reload_saved_case :
    ∃ c', (caseController "40: 800").disable willingDriver "case" = some c' ∧
      c'.reload willingDriver readyEnv parseCase (Devices.enumerate oneFan) (some savedText) =
        some c' := by
  obtain ⟨c', hdisable⟩ := disable_returns willingDriver case_untested "case"
  refine ⟨c', hdisable, reload_saved willingDriver readyEnv parseCase (fun _ => True) oneFan
    savedText (caseController "40: 800") c' case_reachable_system case_untested parseCase_saved
    case_savesExactly (noneJoins_of_entries (by decide +kernel) (by decide +kernel)) ?_⟩
  exact .single ⟨.disable "case", rfl, willingDriver, trivial, hdisable⟩

end Fancon
