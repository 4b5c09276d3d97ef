import Fancon.Controller.Merge
import Fancon.Lib.Transition

/-! # Runs of the controller

A run starts before the first `reload`, with no devices, and takes the operations one after the
other, each from its call to its return. What is enumerated, what the file says and how the
devices answer may differ from one operation to the next. In every state of a run the fans are
stored under their labels, no hardware id is held twice, and a fan under test is there and not
ignored (`WellFormed`).
-/
set_option autoImplicit false
set_option maxHeartbeats 250000
set_option maxRecDepth 120000

namespace Fancon

/-! ## Enumeration -/

/-- A fan as its constructor leaves it; `ignore` is set if it is faulty. -/
structure FoundFan where
  label : String
  kind : FanKind
  ignore : Bool

def FoundFan.fan (f : FoundFan) : Fan where
  label := f.label
  ignore := f.ignore
  sensor := none
  rpmToPwm := .empty
  tempToRpm := .empty
  startPwm := 0
  interval := 0
  enabled := false
  smoothing := {}
  kind := f.kind

/-- The devices that are put in the maps, in the order in which they are found. -/
structure Found where
  fans : List FoundFan := []
  sensors : List Sensor := []

/-- `Devices(true)`. -/
def Devices.enumerate (found : Found) : Devices where
  fans := found.fans.foldl (fun m f => m.insertOrAssign f.label f.fan) .empty
  sensors := found.sensors.foldl (fun m s => m.insertOrAssign s.label s) .empty

def Devices.Fresh (d : Devices) : Prop :=
  ∀ l f, d.fans.find? l = some f → f.label = l ∧ f.enabled = false

/-- An enumerated fan is one that is found, under its label. -/
theorem Devices.find?_enumerate {found : Found} {l : String} {f : Fan}
    (h : (Devices.enumerate found).fans.find? l = some f) :
    ∃ x ∈ found.fans, x.label = l ∧ f = x.fan := by
  refine Loop.foldl_keeps_mem (P := fun m : UnorderedMap String Fan =>
    ∀ l f, m.find? l = some f → ∃ x ∈ found.fans, x.label = l ∧ f = x.fan)
    (fun m x hx hm l f hf => ?_) (by rintro _ _ ⟨⟩) l f h
  rw [UnorderedMap.find?_insertOrAssign] at hf
  split_ifs at hf with hl
  · exact ⟨x, hx, hl.symm, (Option.some.inj hf).symm⟩
  · exact hm l f hf

theorem Devices.fresh_enumerate (found : Found) : (Devices.enumerate found).Fresh := by
  intro l f h
  obtain ⟨x, -, hl, rfl⟩ := Devices.find?_enumerate h
  exact ⟨hl, rfl⟩

theorem FanMsg.enabled_of_build {env : Env} {sensors : UnorderedMap String Sensor} {m : FanMsg}
    {f : Fan} (h : m.build env sensors = some f) : f.enabled = false := by
  obtain ⟨kind, -, rfl⟩ := Option.map_eq_some_iff.mp h
  rfl

theorem Devices.fresh_load (env : Env) (d : DevicesMsg) : (Devices.load env d).Fresh := by
  intro l f h
  obtain ⟨hl, -, -, m, -, hm⟩ := find?_loadFans h
  exact ⟨hl.symm, FanMsg.enabled_of_build hm⟩

/-! ## The operations -/

/-- A call of an operation, with what it meets in the outside world. -/
inductive Operation
  | enable (label : String)
  | enableAll
  | disable (label : String)
  | disableAll
  | test (label : String) (forced blocking : Bool)
  | testWrites (label : String) (result : TestResult)
  | testComplete (label : String) (result : TestResult)
  | reload (env : Env) (found : Found) (file : Option Text)
  | setDevices (env : Env) (d : DevicesMsg)
  | recover

def Operation.endsTest : Operation → Bool
  | .testComplete .. => true
  | _ => false

namespace Controller

variable (drv : Driver) (parse : Text → Bool × ControllerMsg)

def perform (c : Controller) : Operation → Option Controller
  | .enable l => some (c.enable drv l)
  | .enableAll => some (c.enableAll drv)
  | .disable l => c.disable drv l
  | .disableAll => c.disableAll drv
  | .test l forced blocking => c.test drv l forced blocking
  | .testWrites l r => c.testWrites l r
  | .testComplete l r => c.testComplete drv l r
  | .reload env found file => c.reload drv env parse (Devices.enumerate found) file
  | .setDevices env d => c.setDevices drv env d
  | .recover => some (c.recover drv)

/-- The runs in which the devices answer like one of the drivers. -/
def system (drivers : Driver → Prop) : Transition.System Controller Operation where
  init c := c = {}
  step c op c' := ∃ drv, drivers drv ∧ c.perform drv parse op = some c'

/-! ## What holds in every state -/

def Labelled (c : Controller) : Prop := ∀ l f, c.fan? l = some f → f.label = l

structure WellFormed (c : Controller) : Prop where
  labelled : Labelled c
  fanHwIds : DistinctHwIds Fan.hwId c.devices.fans
  sensorHwIds : DistinctHwIds Sensor.hwId c.devices.sensors
  testsKnown : ∀ l, c.Tests l → ∃ f, c.fan? l = some f ∧ f.ignore = false

variable {drv parse} {c c' : Controller}

theorem wellFormed_start : WellFormed {} where
  labelled _ _ h := nomatch h
  fanHwIds _ _ _ _ h := nomatch h
  sensorHwIds _ _ _ _ h := nomatch h
  testsKnown _ h := nomatch h

theorem Labelled.controls (hc : Labelled c) (h : Controls c c') : Labelled c' := by
  intro l g hg
  obtain ⟨f, hf, hfg⟩ := h.fan?_back hg
  rw [← Fan.label_of_uncontrolled hfg]
  exact hc l f hf

theorem WellFormed.controls (hc : WellFormed c) (h : Controls c c') : WellFormed c' where
  labelled := hc.labelled.controls h
  fanHwIds := by
    rw [← distinct_view Fan.hwId_save, view_fans_of_controls h, distinct_view Fan.hwId_save]
    exact hc.fanHwIds
  sensorHwIds := by
    rw [h.sensors]
    exact hc.sensorHwIds
  testsKnown l hl := by
    obtain ⟨f, hf, hignore⟩ := hc.testsKnown l ((h.tests l).mp hl)
    obtain ⟨g, hg, hfg⟩ := h.fan? hf
    exact ⟨g, hg, (Fan.ignore_of_uncontrolled hfg).trans hignore⟩

theorem WellFormed.withSettings (hc : WellFormed c) (settings : Settings) :
    WellFormed { c with settings := settings } :=
  ⟨hc.labelled, hc.fanHwIds, hc.sensorHwIds, hc.testsKnown⟩

/-! ## Tests -/

/-- The thread that is joined is not that of a test, and its label has no task any more. -/
theorem eraseTask_untested {l : String} (h : c.eraseTask drv l = some c') :
    ¬ c.Tests l ∧ c'.tasks.find? l = none := by
  have hnone : (c.tasks.erase l).find? l = none := by rw [SortedMap.find?_erase, if_pos rfl]
  rcases eraseTask_cases h with ⟨ht, rfl⟩ | ⟨hl, -, rfl⟩ | ⟨f, hl, -, rfl⟩
  · rw [tests_iff, ht]
    exact ⟨nofun, rfl⟩
  · exact ⟨hl, hnone⟩
  · exact ⟨hl, hnone⟩

theorem tests_emplace (l : String) (k : String) :
    (c.setTasks (c.tasks.emplace l ⟨true⟩)).Tests k ↔
      c.Tests k ∨ k = l ∧ c.tasks.find? l = none := by
  rw [tests_iff, tests_iff, tasks_setTasks, SortedMap.find?_emplace]
  split_ifs with hk
  · subst hk
    cases c.tasks.find? k <;> simp
  · simp [hk]

theorem WellFormed.test (hc : WellFormed c) {l : String} {forced blocking : Bool}
    (h : c.test drv l forced blocking = some c') : WellFormed c' := by
  rcases test_cases h with rfl | ⟨f, d, hf, hignore, -, hd, rfl⟩
  · exact hc
  · have hcontrols := controls_eraseTask hd
    have hwf := hc.controls hcontrols
    refine ⟨hwf.labelled, hwf.fanHwIds, hwf.sensorHwIds, fun k hk => ?_⟩
    rcases (tests_emplace _ _).mp hk with hk | ⟨rfl, -⟩
    · exact hwf.testsKnown k hk
    · rw [hc.labelled l f hf]
      obtain ⟨g, hg, hgf⟩ := hcontrols.fan? hf
      exact ⟨g, hg, (Fan.ignore_of_uncontrolled hgf).trans hignore⟩

/-- A fan with its label, hardware id and `ignore` takes the place of another. -/
theorem WellFormed.setFan (hc : WellFormed c) {l : String} {f g : Fan} (hf : c.fan? l = some f)
    (hlabel : g.label = f.label) (hid : g.hwId = f.hwId) (hignore : g.ignore = f.ignore) :
    WellFormed (c.setFan l g) where
  labelled k x hx := by
    rw [fan?_setFan] at hx
    split_ifs at hx with hk
    · obtain rfl := Option.some.inj hx
      rw [hlabel, hk]
      exact hc.labelled l f hf
    · exact hc.labelled k x hx
  fanHwIds := by
    have hback : ∀ k x, (c.setFan l g).fan? k = some x →
        ∃ y, c.fan? k = some y ∧ y.hwId = x.hwId := by
      intro k x hx
      rw [fan?_setFan] at hx
      split_ifs at hx with hk
      · obtain rfl := Option.some.inj hx
        exact ⟨f, hk ▸ hf, hid.symm⟩
      · exact ⟨x, hx, rfl⟩
    intro j k x y hx hy hxy
    obtain ⟨x', hx', hxid⟩ := hback j x hx
    obtain ⟨y', hy', hyid⟩ := hback k y hy
    exact hc.fanHwIds j k x' y' hx' hy' (hxid.trans (hxy.trans hyid.symm))
  sensorHwIds := hc.sensorHwIds
  testsKnown k hk := by
    obtain ⟨x, hx, hxignore⟩ := hc.testsKnown k hk
    rw [fan?_setFan]
    split_ifs with hkl
    · rw [hkl, hf] at hx
      obtain rfl := Option.some.inj hx
      exact ⟨g, rfl, hignore.trans hxignore⟩
    · exact ⟨x, hx, hxignore⟩

theorem WellFormed.erase (hc : WellFormed c) (l : String) :
    WellFormed (c.setTasks (c.tasks.erase l)) where
  labelled := hc.labelled
  fanHwIds := hc.fanHwIds
  sensorHwIds := hc.sensorHwIds
  testsKnown k hk := by
    rw [tests_iff, tasks_setTasks, SortedMap.find?_erase] at hk
    split_ifs at hk
    exact hc.testsKnown k (tests_iff.mpr hk)

theorem WellFormed.testWrites (hc : WellFormed c) {l : String} {r : TestResult}
    (h : c.testWrites l r = some c') : WellFormed c' := by
  obtain ⟨f, -, hf, rfl⟩ := testWrites_cases h
  exact hc.setFan hf rfl (f.hwId_afterTest r) rfl

theorem WellFormed.testComplete (hc : WellFormed c) {l : String} {r : TestResult}
    (h : c.testComplete drv l r = some c') : WellFormed c' := by
  obtain ⟨f, -, hf, rfl⟩ := testComplete_cases h
  have hset := hc.setFan (g := f.afterTest r) hf rfl (f.hwId_afterTest r) rfl
  exact (hset.erase l).controls (controls_enable _ l)

/-! ## `merge` -/

theorem mergeFan_cases {replaceOnMatch deepCmp : Bool} {s s' : MergeState}
    {e : Sigma fun _ : String => Fan} (h : mergeFan drv replaceOnMatch deepCmp s e = some s') :
    s' = (s.1.addFan e.1 e.2, s.2) ∨ s' = s ∨ ∃ old x, s.1.fan? old = some x ∧
      x.hwId = e.2.hwId ∧ ReplacesOnMatch replaceOnMatch deepCmp e.2.save x.save ∧
      ¬ s.1.Tests old ∧ onMatchFan drv s old e.1 e.2 = some s' := by
  rcases mergeDevice_cases replaceOnMatch deepCmp (mergeFan_spec drv) s e with
    ⟨-, heq⟩ | ⟨l, x, hx, hid, ⟨-, heq⟩ | ⟨hrep, heq⟩⟩
  · exact Or.inl (Option.some.inj (heq.symm.trans h)).symm
  · exact Or.inr (Or.inl (Option.some.inj (heq.symm.trans h)).symm)
  · have hmatch := heq.symm.trans h
    refine Or.inr (Or.inr ⟨l, x, hx, hid, hrep, fun ht => ?_, hmatch⟩)
    rw [onMatchFan_eq_none.mpr ht] at hmatch
    cases hmatch

theorem fan?_addFan_of_some {l k : String} {f g : Fan} (h : c.fan? k = some g) :
    (c.addFan l f).fan? k = some g := by
  show (c.devices.fans.emplace l f).find? k = some g
  cases hl : c.devices.fans.find? l with
  | none =>
    rw [UnorderedMap.find?_emplace_of_none hl, if_neg]
    · exact h
    · rintro rfl
      exact nomatch hl.symm.trans h
  | some x =>
    rw [UnorderedMap.emplace_of_some hl]
    exact h

theorem fan?_addFan {l k : String} {f g : Fan} (h : (c.addFan l f).fan? k = some g) :
    k = l ∧ g = f ∨ c.fan? k = some g :=
  (putsUnder_emplace fun _ : Fan => l).mem c.devices.fans f k g h

theorem fan?_reInsertFan {old new k : String} {f g : Fan}
    (h : (c.reInsertFan old new f).fan? k = some g) :
    k = new ∧ g = f ∨ k ≠ old ∧ c.fan? k = some g := by
  rcases (putsUnder_emplace fun _ : Fan => new).mem (c.devices.fans.remove old) f k g h with h | h
  · exact Or.inl h
  · rw [UnorderedMap.find?_remove] at h
    split_ifs at h with hk
    exact Or.inr ⟨hk, h⟩

theorem fan?_reInsertFan_of_ne {old new k : String} {f g : Fan} (hk : k ≠ old)
    (h : c.fan? k = some g) : (c.reInsertFan old new f).fan? k = some g := by
  refine fan?_addFan_of_some (c := { c with devices :=
    { c.devices with fans := c.devices.fans.remove old } }) ?_
  show (c.devices.fans.remove old).find? k = some g
  rw [UnorderedMap.find?_remove, if_neg hk]
  exact h

theorem Labelled.reInsertFan (hc : Labelled c) {old new : String} {f : Fan} (hf : f.label = new) :
    Labelled (c.reInsertFan old new f) := by
  intro l g hg
  rcases fan?_reInsertFan hg with ⟨rfl, rfl⟩ | ⟨-, hg⟩
  · exact hf
  · exact hc l g hg

theorem WellFormed.mergeFan {s s' : MergeState} (hs : WellFormed s.1)
    {replaceOnMatch deepCmp : Bool} {e : Sigma fun _ : String => Fan} (he : e.2.label = e.1)
    (h : mergeFan drv replaceOnMatch deepCmp s e = some s') : WellFormed s'.1 := by
  have hdistinct : DistinctHwIds Fan.hwId s'.1.devices.fans := by
    rw [← distinct_view Fan.hwId_save]
    exact (mergeDevice_step (mergeFan_spec drv) h).1.distinct
      ((distinct_view Fan.hwId_save).mpr hs.fanHwIds)
  rcases mergeFan_cases h with rfl | rfl | ⟨old, x, -, -, -, htests, hmatch⟩
  · refine ⟨fun l f hf => ?_, hdistinct, hs.sensorHwIds, fun l hl => ?_⟩
    · rcases fan?_addFan hf with ⟨rfl, rfl⟩ | hf
      · exact he
      · exact hs.labelled l f hf
    · obtain ⟨f, hf, hignore⟩ := hs.testsKnown l hl
      exact ⟨f, fan?_addFan_of_some hf, hignore⟩
  · exact hs
  · obtain ⟨c, hbefore, hafter⟩ := onMatchFan_controls hmatch
    have hc := hs.controls hbefore
    rw [← distinct_view Fan.hwId_save, view_fans_of_controls hafter,
      distinct_view Fan.hwId_save] at hdistinct
    refine WellFormed.controls
      ⟨hc.labelled.reInsertFan he, hdistinct, hc.sensorHwIds, fun l hl => ?_⟩ hafter
    obtain ⟨f, hf, hignore⟩ := hc.testsKnown l hl
    have hl' : l ≠ old := by
      rintro rfl
      exact htests ((hbefore.tests l).mp hl)
    exact ⟨f, fan?_reInsertFan_of_ne hl' hf, hignore⟩

theorem WellFormed.withSensors (hc : WellFormed c) {sensors : UnorderedMap String Sensor}
    (hs : DistinctHwIds Sensor.hwId sensors) :
    WellFormed { c with devices := { c.devices with sensors := sensors } } :=
  ⟨hc.labelled, hc.fanHwIds, hs, hc.testsKnown⟩

theorem WellFormed.merge (hc : WellFormed c) {d : Devices} (hd : d.Fresh)
    {replaceOnMatch deepCmp : Bool} (h : c.merge drv d replaceOnMatch deepCmp = some c') :
    WellFormed c' := by
  obtain ⟨-, -, hsensors⟩ := merge_steps h
  -- in the loop the sensors are those from before, behind it any with distinct ids
  have hfans : ∀ sensors, DistinctHwIds Sensor.hwId sensors →
      WellFormed { c' with devices := { c'.devices with sensors := sensors } } := by
    refine merge_keeps (P := WellFormed) (Q := fun t => ∀ sensors,
      DistinctHwIds Sensor.hwId sensors →
        WellFormed { t with devices := { t.devices with sensors := sensors } })
      (fun t t' e he ht hstep => ht.mergeFan (hd e.1 e.2 he).1 hstep)
      (fun t ht _ hs => ht.withSensors hs) (fun t ht _ hs => ?_) (fun t _ ht => ht) hc h
    exact (ht.controls (controls_enableDellFans none t)).withSensors hs
  apply hfans c'.devices.sensors
  rw [← distinct_view Sensor.hwId_save]
  exact hsensors.distinct ((distinct_view Sensor.hwId_save).mpr hc.sensorHwIds)

/-! ## Every operation -/

theorem WellFormed.reload (hc : WellFormed c) {env : Env} {found : Found} {file : Option Text}
    (h : c.reload drv env parse (Devices.enumerate found) file = some c') : WellFormed c' := by
  obtain ⟨c₁, h₁, ⟨-, rfl, -⟩ | ⟨msg, -, h₂, -⟩⟩ := reload_parts h
  · exact hc.merge (Devices.fresh_enumerate found) h₁
  · have hwf₁ := hc.merge (Devices.fresh_enumerate found) h₁
    exact (hwf₁.withSettings _).merge (Devices.fresh_load env msg.devices) h₂

theorem disableWith_untested {dellFans : String → Controller → Option Controller} {l : String}
    (h : disableWith drv dellFans c l = some c') : ¬ c.Tests l := by
  rcases disableWith_cases h with ⟨hnone, -⟩ | ⟨d, -, hd, -⟩
  · rw [tests_iff, hnone]
    exact nofun
  · exact (eraseTask_untested hd).1

theorem disableAll_untested (h : c.disableAll drv = some c') (l : String) : ¬ c'.Tests l := by
  have hcontrols := controls_disableAll h
  rw [hcontrols.tests]
  intro hl
  have hmem : l ∈ c.tasks.keys := by
    rw [← SortedMap.contains_iff, SortedMap.contains, tests_iff.mp hl]
    rfl
  obtain ⟨t, t', ht, hturn⟩ := Loop.foldlM_turn_returns (P := Controls c)
    (fun _ _ _ ht hstep => ht.trans (controls_disableAlone hstep)) (Controls.refl c) h hmem
  exact disableWith_untested hturn ((ht.tests l).mpr hl)

theorem wellFormed_setDevices {env : Env} {d : DevicesMsg}
    (h : c.setDevices drv env d = some c') : WellFormed c' := by
  obtain ⟨c₁, h₁, rfl⟩ := Option.map_eq_some_iff.mp h
  have hload : WellFormed { c₁ with devices := Devices.load env d } :=
    ⟨fun l f hf => (Devices.fresh_load env d l f hf).1, distinct_load_fans env d,
      distinct_load_sensors env d, fun l hl => absurd hl (disableAll_untested h₁ l)⟩
  exact hload.controls (controls_enableAll _)

theorem WellFormed.perform (hc : WellFormed c) {op : Operation}
    (h : c.perform drv parse op = some c') : WellFormed c' := by
  cases op with
  | enable l => exact Option.some.inj h ▸ hc.controls (controls_enable c l)
  | enableAll => exact Option.some.inj h ▸ hc.controls (controls_enableAll c)
  | disable l => exact hc.controls (controls_disable h)
  | disableAll => exact hc.controls (controls_disableAll h)
  | test l forced blocking => exact hc.test h
  | testWrites l r => exact hc.testWrites h
  | testComplete l r => exact hc.testComplete h
  | reload env found file => exact hc.reload h
  | setDevices env d => exact wellFormed_setDevices h
  | recover => exact Option.some.inj h ▸ hc.controls (controls_recover c)

/-- **Every state of every run is well formed.** -/
theorem wellFormed_of_reachable {drivers : Driver → Prop} {ok : Controller → Operation → Prop}
    (h : Transition.ReachableWhen (system parse drivers) ok c) : WellFormed c := by
  refine Transition.ReachableWhen.invariant WellFormed ?_ ?_ h
  · rintro _ rfl
    exact wellFormed_start
  · rintro c op c' hc - ⟨drv, -, hstep⟩
    exact hc.perform hstep

end Controller

end Fancon
