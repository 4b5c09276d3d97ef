import Fancon.Controller.Faults
import Fancon.Controller.ReloadAgain

/-! # A restart from the saved config

A restart enumerates the devices under the labels that the hardware gives them, and then merges the
config that was saved. That gives back the saved settings and exactly the saved devices if and only
if all that is enumerated was saved and no saved device finds its label in use by one whose turn
comes later (`restart_saved_iff`); the turns come in the order in which the map of loaded devices is
gone through. Two fans that swapped their labels are such a case.
-/
set_option autoImplicit false
set_option maxHeartbeats 250000
set_option maxRecDepth 120000

namespace Fancon

open KeyedMerge Controller

/-- The settings are those of `c` and `GetDevices` answers the same, up to its order. -/
structure Restored (c c' : Controller) : Prop where
  settings : c'.settings = c.settings
  fans : view Fan.save c'.devices.fans = view Fan.save c.devices.fans
  sensors : view Sensor.save c'.devices.sensors = view Sensor.save c.devices.sensors

theorem Restored.kept {c c₁ c₂ : Controller} (hkept : DevicesKept c₁ c₂) :
    Restored c c₂ ↔ Restored c c₁ := by
  constructor
  · intro h
    exact ⟨hkept.settings.symm.trans h.settings, hkept.fans.symm.trans h.fans,
      hkept.sensors ▸ h.sensors⟩
  · intro h
    exact ⟨hkept.settings.trans h.settings, hkept.fans.trans h.fans, hkept.sensors ▸ h.sensors⟩

/-! ## The devices of one kind -/

section

variable {D M : Type} {save : D → M} {ident label : M → String} {hwId : D → String}
  {m found loaded n : UnorderedMap String D}

/-- The enumerated devices are saved ones, and each saved one finds its label cleared by them. -/
structure NotInTheWay (save : D → M) (ident : M → String) (m found loaded : UnorderedMap String D) :
    Prop where
  known : ∀ i l, PresentAt save ident .empty found i l → Holds ident (view save m) i
  cleared : ∀ before l v after, messages save loaded = before ++ (l, v) :: after →
    LabelCleared save ident .empty found before l v

theorem mem_messages_of_view {l : String} {w : M} (h : view save m l = some w) :
    (l, w) ∈ messages save m := by
  obtain ⟨x, hx, rfl⟩ := view_eq_some.mp h
  exact List.mem_map.mpr ⟨⟨l, x⟩, UnorderedMap.mem_entries.mpr hx, rfl⟩

theorem view_of_mem_messages {l : String} {w : M} (h : (l, w) ∈ messages save m) :
    view save m l = some w := by
  obtain ⟨e, he, heq⟩ := List.mem_map.mp h
  obtain ⟨rfl, rfl⟩ := Prod.mk.inj heq
  exact view_eq_some.mpr ⟨e.2, UnorderedMap.mem_entries.mp he, rfl⟩

theorem mem_listing_of_view (h : Merged save ident label hwId .empty found loaded) {l : String}
    {w : M} (hw : view save n l = some w) : (ident w, l) ∈ listing hwId n :=
  (mem_listing_iff h.ident).mpr ⟨w, hw, rfl⟩

theorem notInTheWay_of_view (h : Merged save ident label hwId .empty found loaded)
    (hrestart : Reloaded save ident .empty found loaded n)
    (hloaded : view save loaded = view save m) (hview : view save n = view save m) :
    NotInTheWay save ident m found loaded where
  known i l hi := by
    by_cases hlisted : ∃ e ∈ messages save loaded, ident e.2 = i
    · obtain ⟨e, he, rfl⟩ := hlisted
      exact ⟨e.1, e.2, hloaded ▸ view_of_mem_messages he, rfl⟩
    · have hnot : ∀ e ∈ messages save loaded, ident e.2 ≠ i := fun e he h => hlisted ⟨e, he, h⟩
      obtain ⟨w, hw, hid⟩ := (mem_listing_iff h.ident).mp
        ((listing_of_unlisted h hrestart hnot).mpr hi)
      exact ⟨l, w, hview ▸ hw, hid⟩
  cleared before l v after hsplit := by
    have hmem : (l, v) ∈ messages save loaded := hsplit ▸ by simp
    have hn : view save n l = some v := by
      rw [hview, ← hloaded]
      exact view_of_mem_messages hmem
    exact ((listing_of_listed h hrestart hsplit).mp (mem_listing_of_view h hn)).2

theorem view_of_notInTheWay (h : Merged save ident label hwId .empty found loaded)
    (hrestart : Reloaded save ident .empty found loaded n)
    (hloaded : view save loaded = view save m) (hfree : NotInTheWay save ident m found loaded) :
    view save n = view save m := by
  have hplaced : ∀ l v, (l, v) ∈ messages save loaded → view save n l = some v := by
    intro l v hmem
    obtain ⟨before, after, hsplit⟩ := List.append_of_mem hmem
    obtain ⟨w, hw, hid⟩ := (mem_listing_iff h.ident).mp
      ((listing_of_listed h hrestart hsplit).mpr ⟨rfl, hfree.cleared before l v after hsplit⟩)
    rw [hw, save_of_listed h hrestart hmem hw hid]
  funext l
  apply Option.ext
  intro w
  rw [← hloaded]
  constructor
  · intro hw
    by_cases hlisted : ∃ e ∈ messages save loaded, ident e.2 = ident w
    · obtain ⟨⟨k, v⟩, he, hid⟩ := hlisted
      obtain ⟨before, after, hsplit⟩ := List.append_of_mem he
      have hkey := mem_listing_of_view h hw
      rw [← hid] at hkey
      obtain ⟨rfl, -⟩ := (listing_of_listed h hrestart hsplit).mp hkey
      rw [save_of_listed h hrestart he hw hid.symm]
      exact view_of_mem_messages he
    · have hnot : ∀ e ∈ messages save loaded, ident e.2 ≠ ident w :=
        fun e he h => hlisted ⟨e, he, h⟩
      have hpresent := (listing_of_unlisted h hrestart hnot).mp (mem_listing_of_view h hw)
      obtain ⟨k, v, hv, hid⟩ := hfree.known _ _ hpresent
      rw [← hloaded] at hv
      exact absurd hid (hnot (k, v) (mem_messages_of_view hv))
  · intro hw
    exact hplaced l w (mem_messages_of_view hw)

theorem view_eq_iff (h : Merged save ident label hwId .empty found loaded)
    (hrestart : Reloaded save ident .empty found loaded n)
    (hloaded : view save loaded = view save m) :
    view save n = view save m ↔ NotInTheWay save ident m found loaded :=
  ⟨notInTheWay_of_view h hrestart hloaded, view_of_notInTheWay h hrestart hloaded⟩

theorem view_of_find? (h : ∀ l, m.find? l = n.find? l) : view save m = view save n :=
  funext fun l => congrArg (Option.map save) (h l)

theorem view_of_deepEqualMaps {deepEqual : D → D → Bool}
    (hdeep : ∀ x y, deepEqual x y = true ↔ save x = save y) (h : DeepEqualMaps deepEqual m n) :
    view save n = view save m := by
  funext l
  cases hm : m.find? l with
  | none =>
    have hn : n.find? l = none := by
      have hcontains := (h l).1
      unfold UnorderedMap.contains at hcontains
      rw [hm] at hcontains
      exact Option.isNone_iff_eq_none.mp (by rw [← Option.not_isSome, ← hcontains]; rfl)
    rw [view, view, hm, hn]
  | some x =>
    obtain ⟨y, hy, hxy⟩ := h.find? hm
    rw [view, view, hm, hy, Option.map_some, Option.map_some, (hdeep x y).mp hxy]

end

/-! ## The settings -/

variable {drv : Driver} {env : Env} {parse : Text → Bool × ControllerMsg} {found : Found}
  {text : Text} {c c' : Controller}

/-- The control loop sleeps between its turns. -/
def Paced (c : Controller) : Prop := 0 < c.settings.updateInterval

theorem Paced.of_settings (hc : Paced c) (h : c'.settings = c.settings) : Paced c' := by
  unfold Paced
  rw [h]
  exact hc

theorem paced_load (s : Settings) (config : ControllerConfig) (h : 0 < s.updateInterval) :
    0 < (s.load config).updateInterval := by
  show 0 < if 0 < config.updateInterval then config.updateInterval else s.updateInterval
  split_ifs with hconfig
  · exact hconfig
  · exact h

theorem Paced.reload {enumerated : Devices} {file : Option Text} (hc : Paced c)
    (h : c.reload drv env parse enumerated file = some c') : Paced c' := by
  obtain ⟨c₁, h₁, hrest⟩ := reload_parts h
  have hc₁ := hc.of_settings (merge_steps h₁).1
  rcases hrest with ⟨-, rfl, -⟩ | ⟨msg, -, h₂, -⟩
  · exact hc₁
  · have hload : Paced { c₁ with settings := c₁.settings.load msg.config } :=
      paced_load c₁.settings msg.config hc₁
    exact hload.of_settings (merge_steps h₂).1

theorem Paced.perform {op : Operation} (hc : Paced c)
    (hop : c.perform drv parse op = some c') : Paced c' := by
  by_cases hquiet : op.keepsDevices = true
  · exact hc.of_settings (devicesKept_perform hquiet hop).settings
  cases op with
  | reload env found file => exact hc.reload hop
  | setDevices env d =>
    obtain ⟨t, ht, rfl⟩ := Option.map_eq_some_iff.mp hop
    have hset : Paced { t with devices := Devices.load env d } :=
      hc.of_settings (controls_disableAll ht).settings
    exact hset.of_settings (controls_enableAll _).settings
  | testWrites l r =>
    obtain ⟨f, -, -, rfl⟩ := testWrites_cases hop
    exact hc
  | testComplete l r =>
    obtain ⟨f, -, -, rfl⟩ := testComplete_cases hop
    exact hc.of_settings (controls_enable _ l).settings
  | enable l => exact absurd rfl hquiet
  | enableAll => exact absurd rfl hquiet
  | disable l => exact absurd rfl hquiet
  | disableAll => exact absurd rfl hquiet
  | test l forced blocking => exact absurd rfl hquiet
  | recover => exact absurd rfl hquiet

theorem paced_of_reachable {drivers : Driver → Prop}
    (h : Transition.Reachable (system parse drivers) c) : Paced c := by
  apply Transition.ReachableWhen.invariant Paced ?_ ?_ h
  · rintro _ rfl
    exact (by decide : (0 : U32) < 500)
  · rintro c op c' hc - ⟨drv, -, hop⟩
    exact hc.perform hop

theorem load_saved (s : Settings) (hc : Paced c) : s.load c.settings.save = c.settings := by
  have hpaced : 0 < c.settings.save.updateInterval := hc
  unfold Settings.load
  rw [if_pos hpaced]
  rfl

/-! ## The restart -/

/-- **What a restart makes of the config that the controller saved are the saved settings and
devices, exactly when no enumerated device is new or in the way of a saved one, in whatever order
the maps of devices are gone through.** -/
theorem restart_saved_iff (drv : Driver) (env : Env) (parse : Text → Bool × ControllerMsg)
    (drivers : Driver → Prop) (found : Found) (text : Text) (enumerated confDevs : Devices)
    (c : Controller) (hc : Transition.Reachable (system parse drivers) c)
    (htext : (parse text).2 = c.save) (hsave : SavesExactly env c.devices)
    (henumerated : enumerated.SameAs (Devices.enumerate found))
    (hconf : confDevs.SameAs (Devices.load env c.save.devices)) :
    ∃ c₁, ({} : Controller).reloadFrom drv enumerated
        (some ((parse text).2.config, confDevs)) = some c₁ ∧
      ∀ c₂, Transition.Steps (quietSystem parse drivers) c₁ c₂ →
        (Restored c c₂ ↔
          NotInTheWay Fan.save FanMsg.hwId c.devices.fans enumerated.fans confDevs.fans ∧
          NotInTheWay Sensor.save SensorMsg.hwId c.devices.sensors enumerated.sensors
            confDevs.sensors) := by
  have hfresh := henumerated.fresh (Devices.fresh_enumerate found)
  have hdistinct := hconf.distinctFans (distinct_load_fans env _)
  obtain ⟨c₁, h₁⟩ := reloadedTo_exists drv (parse text).2.config wellFormed_start untested_start
    hfresh hdistinct
  refine ⟨c₁, h₁.returns (fun l => h₁.fans.listed_of_start) (fun l => h₁.sensors.listed_of_start),
    fun c₂ hquiet => ?_⟩
  have hstart : SensorsLabelled {} := fun _ _ hw => by cases hw
  have hloadedFans : view Fan.save confDevs.fans = view Fan.save c.devices.fans :=
    (view_of_find? hconf.1).trans (view_of_deepEqualMaps (fun _ _ => decide_eq_true_iff) hsave.1)
  have hloadedSensors : view Sensor.save confDevs.sensors = view Sensor.save c.devices.sensors :=
    (view_of_find? hconf.2).trans (view_of_deepEqualMaps (fun _ _ => decide_eq_true_iff) hsave.2)
  rw [Restored.kept (devicesKept_of_steps (h₁.untested untested_start) hquiet),
    ← view_eq_iff (merged_fans wellFormed_start henumerated hconf) h₁.fans hloadedFans,
    ← view_eq_iff (merged_sensors wellFormed_start hstart henumerated hconf) h₁.sensors
      hloadedSensors]
  constructor
  · intro h
    exact ⟨h.fans, h.sensors⟩
  · rintro ⟨hviewFans, hviewSensors⟩
    refine ⟨?_, hviewFans, hviewSensors⟩
    rw [h₁.settings, htext]
    exact load_saved _ (paced_of_reachable hc)

/-- The fan of `oneFan` was saved under another label, and is there under it after a restart and a
disable. -/
theorem restart_saved_case :
    ∃ c₁, ({} : Controller).reloadFrom willingDriver (Devices.enumerate oneFan)
        (some ((parseCase savedText).2.config,
          Devices.load readyEnv (caseController "40: 800").save.devices)) = some c₁ ∧
      ∀ c₂, Transition.Steps (quietSystem parseCase fun _ => True) c₁ c₂ →
        (Restored (caseController "40: 800") c₂ ↔
          NotInTheWay Fan.save FanMsg.hwId (caseController "40: 800").devices.fans
            (Devices.enumerate oneFan).fans
            (Devices.load readyEnv (caseController "40: 800").save.devices).fans ∧
          NotInTheWay Sensor.save SensorMsg.hwId (caseController "40: 800").devices.sensors
            (Devices.enumerate oneFan).sensors
            (Devices.load readyEnv (caseController "40: 800").save.devices).sensors) :=
  restart_saved_iff willingDriver readyEnv parseCase (fun _ => True) oneFan savedText
    (Devices.enumerate oneFan) (Devices.load readyEnv (caseController "40: 800").save.devices)
    (caseController "40: 800") case_reachable_system parseCase_saved case_savesExactly
    (.refl _) (.refl _)

end Fancon
