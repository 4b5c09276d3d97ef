import Fancon.Controller.ReloadAgain
import Fancon.Service.Requests

/-! # What the subscribers of `SubscribeDevices` are told

A subscriber is sent the devices, and then its callback is registered; from then on it is told of
every change that notifies the device observers. That is the end of a reload, and each time the
config is written: in `set_devices`, and at the end of a test if no other one is running. What
changes between the first message and the registration is not told. A subscriber that misses
nothing there has always been sent the labels that `GetDevices` lists, and while no test is
running the very devices (`subscribers_told`).
-/
set_option autoImplicit false
set_option maxHeartbeats 250000
set_option maxRecDepth 120000

namespace Fancon

open KeyedMerge

namespace Service

open Controller

/-! ## Operations that tell -/

/-- `tests_running`. -/
def testsRunning (tasks : SortedMap String Task) : ℕ := tasks.entries.countP fun e => e.2.testing

/-- What an operation from one state to another passes to `notify_devices_observers`. A test that
ends has given up its test status before the other tests are counted. -/
def told (c : Controller) (op : Operation) (c' : Controller) : Option Devices :=
  match op with
  | .reload .. => some c'.devices
  | .setDevices env d => some (Devices.load env d)
  | .testComplete l r =>
    if testsRunning (c.tasks.erase l) = 0 then
      (c.fan? l).map fun f => (c.setFan l (f.afterTest r)).devices
    else none
  | _ => none

theorem told_eq_none {op : Operation} (h : op.keepsDevices = true) (c c' : Controller) :
    told c op c' = none := by
  cases op <;> first | rfl | cases h

/-! ## Subscribers -/

/-- A client of `SubscribeDevices`, with the devices of the last message it was sent. -/
inductive Subscriber
  | absent
  | sent (last : Devices)
  | registered (last : Devices)

def Subscriber.tell (told : Option Devices) : Subscriber → Subscriber
  | .registered last => .registered (told.getD last)
  | s => s

structure Subscribed where
  controller : Controller
  subscriber : Subscriber

/-- An operation, or a step of `SubscribeDevices`. -/
inductive DeviceEvent
  | perform (op : Operation)
  | send
  | register
  | leave

def nextTelling (drv : Driver) (parse : Text → Bool × ControllerMsg) (s : Subscribed) :
    DeviceEvent → Option Subscribed
  | .perform op =>
    (s.controller.perform drv parse op).map fun c =>
    ⟨c, s.subscriber.tell (told s.controller op c)⟩
  | .send => some { s with subscriber := .sent s.controller.devices }
  | .register =>
    match s.subscriber with
    | .sent last => some { s with subscriber := .registered last }
    | _ => none
  | .leave => some { s with subscriber := .absent }

def deviceSystem (parse : Text → Bool × ControllerMsg) (drivers : Driver → Prop) :
    Transition.System Subscribed DeviceEvent where
  init s := s = ⟨{}, .absent⟩
  step s e s' := ∃ drv, drivers drv ∧ nextTelling drv parse s e = some s'

/-- No operation replaces or tests devices between a first message and the registration. -/
def MissesNothing (s : Subscribed) (e : DeviceEvent) : Prop :=
  ∀ last op, s.subscriber = .sent last → e = .perform op → op.keepsDevices = true

/-! ## Devices that list the same -/

variable {drv : Driver} {parse : Text → Bool × ControllerMsg} {c c' : Controller} {d : Devices}

/-- The messages are those of the controller, in some order. -/
structure SameListing (d : Devices) (c : Controller) : Prop where
  fans : view Fan.save d.fans = view Fan.save c.devices.fans
  sensors : view Sensor.save d.sensors = view Sensor.save c.devices.sensors

/-- The labels are those of the controller, in some order. -/
def SameLabels (d : Devices) (c : Controller) : Prop :=
  ∀ l, d.fans.contains l = c.devices.fans.contains l

/-- Each fan is stored under its label. -/
def LabelledDevices (d : Devices) : Prop := ∀ l f, d.fans.find? l = some f → f.label = l

theorem sameListing_refl (c : Controller) : SameListing c.devices c := ⟨rfl, rfl⟩

theorem SameListing.kept (h : SameListing d c) (hkept : DevicesKept c c') : SameListing d c' where
  fans := h.fans.trans hkept.fans.symm
  sensors := by
    rw [hkept.sensors]
    exact h.sensors

theorem SameListing.sameLabels (h : SameListing d c) : SameLabels d c := by
  intro l
  have hview (m : UnorderedMap String Fan) := @contains_iff_view _ _ Fan.save m l
  rw [Bool.eq_iff_iff, hview, hview, h.fans]

theorem SameLabels.kept (h : SameLabels d c) (hkept : DevicesKept c c') : SameLabels d c' := by
  intro l
  have hview (m : UnorderedMap String Fan) := @contains_iff_view _ _ Fan.save m l
  rw [h l, Bool.eq_iff_iff, hview, hview, hkept.fans]

/-! ## What one operation tells -/

theorem untested_of_keeps {op : Operation} (hquiet : op.keepsDevices = true)
    (hop : c.perform drv parse op = some c') (h : Untested c') : Untested c := by
  have hcontrols : Controls c c' → Untested c := fun hc l hl => h l ((hc.tests l).mpr hl)
  cases op with
  | enable l => exact hcontrols (Option.some.inj hop ▸ controls_enable c l)
  | enableAll => exact hcontrols (Option.some.inj hop ▸ controls_enableAll c)
  | disable l => exact hcontrols (controls_disable hop)
  | disableAll => exact hcontrols (controls_disableAll hop)
  | test l forced blocking =>
    rcases test_cases hop with rfl | ⟨f, t, -, -, -, ht, rfl⟩
    · exact h
    · refine absurd ((tests_emplace f.label f.label).mpr (Or.inr ⟨rfl, ?_⟩)) (h f.label)
      exact (eraseTask_untested ht).2
  | testWrites l r => cases hquiet
  | testComplete l r => cases hquiet
  | reload env found file => cases hquiet
  | setDevices env d => cases hquiet
  | recover => exact hcontrols (Option.some.inj hop ▸ controls_recover c)

theorem testing_of_testsRunning {tasks : SortedMap String Task} (h : testsRunning tasks ≠ 0) :
    ∃ l, tasks.find? l = some ⟨true⟩ := by
  obtain ⟨⟨l, task⟩, he, htesting⟩ := List.countP_pos_iff.mp (Nat.pos_of_ne_zero h)
  obtain rfl : task = ⟨true⟩ := by
    cases task
    exact congrArg Task.mk htesting
  exact ⟨l, SortedMap.find?_eq_some.mpr he⟩

theorem contains_setFan {l : String} {f : Fan} (hf : c.fan? l = some f) (g : Fan) (k : String) :
    (c.setFan l g).devices.fans.contains k = c.devices.fans.contains k := by
  show ((c.setFan l g).fan? k).isSome = (c.fan? k).isSome
  rw [fan?_setFan]
  split_ifs with hk
  · rw [hk, hf, Option.isSome_some, Option.isSome_some]
  · rfl

/-- An operation leaves the devices alone, or tells what it leaves, or it is a step of a test that
keeps its label and leaves one running. -/
theorem told_cases {op : Operation} (hwf : WellFormed c)
    (hop : c.perform drv parse op = some c') :
    (op.keepsDevices = true ∧ DevicesKept c c' ∧ (Untested c' → Untested c)) ∨
      op.keepsDevices = false ∧
        ((∃ d, told c op c' = some d ∧ LabelledDevices d ∧ SameListing d c') ∨
          told c op c' = none ∧ ¬ Untested c' ∧ ∀ d, SameLabels d c → SameLabels d c') := by
  by_cases hquiet : op.keepsDevices = true
  · exact Or.inl ⟨hquiet, devicesKept_perform hquiet hop, untested_of_keeps hquiet hop⟩
  refine Or.inr ⟨Bool.eq_false_iff.mpr hquiet, ?_⟩
  cases op with
  | reload env found file =>
    exact Or.inl ⟨c'.devices, rfl, (hwf.perform hop).labelled, sameListing_refl c'⟩
  | setDevices env d =>
    obtain ⟨t, -, rfl⟩ := Option.map_eq_some_iff.mp hop
    refine Or.inl ⟨Devices.load env d, rfl, fun l f hf => (Devices.fresh_load env d l f hf).1, ?_⟩
    exact (sameListing_refl ({ t with devices := Devices.load env d } : Controller)).kept
      (.of_controls (controls_enableAll _))
  | testWrites l r =>
    obtain ⟨f, htest, hf, rfl⟩ := testWrites_cases hop
    exact Or.inr ⟨rfl, fun h => h l htest, fun d hd k =>
      (hd k).trans (contains_setFan hf (f.afterTest r) k).symm⟩
  | testComplete l r =>
    obtain ⟨f, htest, hf, rfl⟩ := testComplete_cases hop
    have henable : Controls ((c.setFan l (f.afterTest r)).setTasks (c.tasks.erase l))
        (((c.setFan l (f.afterTest r)).setTasks (c.tasks.erase l)).enable drv l) :=
      controls_enable _ l
    have htasks : DevicesKept (c.setFan l (f.afterTest r))
        ((c.setFan l (f.afterTest r)).setTasks (c.tasks.erase l)) := ⟨rfl, rfl, rfl⟩
    have hkept := htasks.trans (.of_controls henable)
    by_cases hrunning : testsRunning (c.tasks.erase l) = 0
    · refine Or.inl ⟨(c.setFan l (f.afterTest r)).devices, ?_, ?_, ?_⟩
      · show (if testsRunning (c.tasks.erase l) = 0 then _ else none) = _
        rw [if_pos hrunning, hf, Option.map_some]
      · intro k g hg
        have hg' : (c.setFan l (f.afterTest r)).fan? k = some g := hg
        rw [fan?_setFan] at hg'
        split_ifs at hg' with hk
        · obtain rfl := Option.some.inj hg'
          exact (hwf.labelled l f hf).trans hk.symm
        · exact hwf.labelled k g hg'
      · exact (sameListing_refl (c.setFan l (f.afterTest r))).kept hkept
    · refine Or.inr ⟨if_neg hrunning, ?_, fun d hd => ?_⟩
      · obtain ⟨k, hk⟩ := testing_of_testsRunning hrunning
        exact fun h => h k ((henable.tests k).mpr (tests_iff.mpr hk))
      · refine SameLabels.kept (fun k => (hd k).trans ?_) hkept
        exact (contains_setFan hf (f.afterTest r) k).symm
  | enable l => exact absurd rfl hquiet
  | enableAll => exact absurd rfl hquiet
  | disable l => exact absurd rfl hquiet
  | disableAll => exact absurd rfl hquiet
  | test l forced blocking => exact absurd rfl hquiet
  | recover => exact absurd rfl hquiet

/-! ## Every step -/

/-- What a subscriber has been told about a controller. -/
def Subscriber.Informed (c : Controller) : Subscriber → Prop
  | .absent => True
  | .sent last => LabelledDevices last ∧ SameListing last c
  | .registered last =>
    LabelledDevices last ∧ SameLabels last c ∧ (Untested c → SameListing last c)

structure Told (s : Subscribed) : Prop where
  wellFormed : WellFormed s.controller
  informed : s.subscriber.Informed s.controller

theorem told_start : Told ⟨{}, .absent⟩ := ⟨wellFormed_start, trivial⟩

theorem informed_perform {op : Operation} {sub : Subscriber} (hwf : WellFormed c)
    (hsub : sub.Informed c) (hok : MissesNothing ⟨c, sub⟩ (.perform op))
    (hop : c.perform drv parse op = some c') : (sub.tell (told c op c')).Informed c' := by
  cases sub with
  | absent => trivial
  | sent last =>
    obtain ⟨hlabelled, hlisting⟩ := hsub
    exact ⟨hlabelled, hlisting.kept (devicesKept_perform (hok last op rfl rfl) hop)⟩
  | registered last =>
    obtain ⟨hlabelled, hlabels, hlisting⟩ := hsub
    show (Subscriber.registered ((told c op c').getD last)).Informed c'
    rcases told_cases hwf hop with
      ⟨hquiet, hkept, huntested⟩ | ⟨-, ⟨d, htold, hd, hsame⟩ | ⟨htold, htesting, hkept⟩⟩
    · rw [told_eq_none hquiet]
      exact ⟨hlabelled, hlabels.kept hkept, fun h => (hlisting (huntested h)).kept hkept⟩
    · rw [htold]
      exact ⟨hd, hsame.sameLabels, fun _ => hsame⟩
    · rw [htold]
      exact ⟨hlabelled, hkept last hlabels, fun h => absurd h htesting⟩

theorem Told.next {s s' : Subscribed} (hs : Told s) {e : DeviceEvent} (hok : MissesNothing s e)
    (h : nextTelling drv parse s e = some s') : Told s' := by
  obtain ⟨c, sub⟩ := s
  cases e with
  | perform op =>
    obtain ⟨c', hop, rfl⟩ := Option.map_eq_some_iff.mp h
    exact ⟨hs.wellFormed.perform hop, informed_perform hs.wellFormed hs.informed hok hop⟩
  | send =>
    obtain rfl := Option.some.inj h
    exact ⟨hs.wellFormed, hs.wellFormed.labelled, sameListing_refl c⟩
  | register =>
    cases sub with
    | absent => cases h
    | registered last => cases h
    | sent last =>
      obtain rfl := Option.some.inj h
      obtain ⟨hlabelled, hlisting⟩ := hs.informed
      exact ⟨hs.wellFormed, hlabelled, hlisting.sameLabels, fun _ => hlisting⟩
  | leave =>
    obtain rfl := Option.some.inj h
    exact ⟨hs.wellFormed, trivial⟩

theorem told_of_reachable {parse : Text → Bool × ControllerMsg} {drivers : Driver → Prop}
    {s : Subscribed}
    (h : Transition.ReachableWhen (deviceSystem parse drivers) MissesNothing s) : Told s := by
  apply Transition.ReachableWhen.invariant Told ?_ ?_ h
  · rintro s rfl
    exact told_start
  · rintro s e s' hs hok ⟨drv, -, hnext⟩
    exact hs.next hok hnext

/-! ## The messages -/

theorem perm_of_view {D M : Type} {save : D → M} {m m' : UnorderedMap String D}
    (h : view save m = view save m') :
    (m.entries.map fun e => save e.2).Perm (m'.entries.map fun e => save e.2) := by
  have hmapped : ∀ l, (m.mapValues save).find? l = (m'.mapValues save).find? l := fun l => by
    rw [UnorderedMap.find?_mapValues, UnorderedMap.find?_mapValues]
    exact congrFun h l
  have hperm := (UnorderedMap.perm_of_find? hmapped).map Sigma.snd
  have hvalues : ∀ m : UnorderedMap String D,
      (m.mapValues save).entries.map Sigma.snd = m.entries.map fun e => save e.2 := fun m =>
    List.map_map
  rwa [hvalues, hvalues] at hperm

theorem labels_of_labelled (h : LabelledDevices d) :
    d.save.fan.map FanMsg.label = d.fans.keys := listed_eq (c := { devices := d }) h

theorem perm_of_sameLabels (hwf : WellFormed c) (hlabelled : LabelledDevices d)
    (h : SameLabels d c) : (d.save.fan.map FanMsg.label).Perm (listed c) := by
  rw [labels_of_labelled hlabelled, listed_eq hwf.labelled]
  apply (List.perm_ext_iff_of_nodup d.fans.nodupKeys c.devices.fans.nodupKeys).mpr
  intro l
  have hl := Bool.eq_iff_iff.mp (h l)
  rw [UnorderedMap.contains_iff, UnorderedMap.contains_iff] at hl
  exact UnorderedMap.mem_keys_iff.trans (hl.trans UnorderedMap.mem_keys_iff.symm)

/-- **In every run in which no device is replaced or tested between the first message to a
subscriber and its registration, the last message it was sent names the fans that `GetDevices`
lists; while no test is running it is what `GetDevices` answers, in some order.** -/
theorem subscribers_told (parse : Text → Bool × ControllerMsg) (drivers : Driver → Prop)
    (s : Subscribed) (h : Transition.ReachableWhen (deviceSystem parse drivers) MissesNothing s)
    (d : Devices) (hd : s.subscriber = .registered d) :
    (d.save.fan.map FanMsg.label).Perm (listed s.controller) ∧
    (Untested s.controller →
      d.save.fan.Perm (getDevices s.controller).fan ∧
      d.save.sensor.Perm (getDevices s.controller).sensor) := by
  have hs := told_of_reachable h
  have hinformed := hs.informed
  rw [hd] at hinformed
  obtain ⟨hlabelled, hlabels, hlisting⟩ := hinformed
  refine ⟨perm_of_sameLabels hs.wellFormed hlabelled hlabels, fun huntested => ?_⟩
  have hsame := hlisting huntested
  exact ⟨perm_of_view hsame.fans, perm_of_view hsame.sensors⟩

/-- The devices are set after the registration. -/
theorem subscribers_told_case :
    ((Devices.load readyEnv (caseDevices "40: 800")).save.fan.map FanMsg.label).Perm
      (listed (caseController "40: 800")) ∧
    (Untested (caseController "40: 800") →
      (Devices.load readyEnv (caseDevices "40: 800")).save.fan.Perm
        (getDevices (caseController "40: 800")).fan ∧
      (Devices.load readyEnv (caseDevices "40: 800")).save.sensor.Perm
        (getDevices (caseController "40: 800")).sensor) := by
  refine subscribers_told (fun _ => (true, {})) (fun _ => True)
    ⟨caseController "40: 800", .registered (Devices.load readyEnv (caseDevices "40: 800"))⟩ ?_ _ rfl
  have hstart : (deviceSystem (fun _ => (true, {})) fun _ => True).init ⟨{}, .absent⟩ := rfl
  have hsent : Transition.ReachableWhen (deviceSystem (fun _ => (true, {})) fun _ => True)
      MissesNothing ⟨{}, .sent {}⟩ := by
    refine .step (a := .send) (.init hstart) ?_ ⟨willingDriver, trivial, rfl⟩
    intro last op h
    cases h
  have hregistered : Transition.ReachableWhen (deviceSystem (fun _ => (true, {})) fun _ => True)
      MissesNothing ⟨{}, .registered {}⟩ := by
    refine .step (a := .register) hsent ?_ ⟨willingDriver, trivial, rfl⟩
    intro last op _ he
    cases he
  refine .step (a := .perform (.setDevices readyEnv (caseDevices "40: 800"))) hregistered ?_
    ⟨willingDriver, trivial, ?_⟩
  · intro last op h
    cases h
  · exact congrArg (Option.map fun c => Subscribed.mk c
      (.registered (Devices.load readyEnv (caseDevices "40: 800")))) (setDevices_case "40: 800")

end Service

end Fancon
