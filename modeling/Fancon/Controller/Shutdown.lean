import Fancon.Controller.ManualControl
import Fancon.Controller.Tasks

/-! # Shutting down

When the service stops, the destructor of the controller disables all fans, which ends the tasks and
gives back the fans that have one. Then its members are destroyed: `watcher`, whose thread is
detached by that, and at last `devices`, where the destructors of the fans give back what is still
enabled. So a fan stays under manual control only if every call of its `disable_control` fails
(`shutdown_gives_back`). What the detached watcher does until the process ends is left out.
-/
set_option autoImplicit false
set_option maxHeartbeats 250000
set_option maxRecDepth 120000

namespace Fancon

/-- The destructors of a fan give it back if it is enabled: that of its class, and for a `FanDell`
then that of `FanSysfs`, which writes as `sysfs` says. -/
def Fan.destroy (drv sysfs : Driver) (f : Fan) : Fan :=
  let f := if f.enabled then f.disableControl drv else f
  if f.enabled && f.type = .dell then f.disableControl sysfs else f

theorem Fan.enabled_disableControl (drv : Driver) (f : Fan) :
    (f.disableControl drv).enabled = true ↔ f.enabled = true ∧ drv.disables f = false := by
  unfold Fan.disableControl
  split_ifs with hdrv
  · simp [hdrv]
  · simp [Bool.eq_false_of_not_eq_true hdrv]

theorem Fan.disableControl_kept {drv : Driver} {f : Fan}
    (h : (f.disableControl drv).enabled = true) : f.disableControl drv = f := by
  have hrefused := ((Fan.enabled_disableControl drv f).mp h).2
  rw [Fan.disableControl, hrefused]
  rfl

theorem Fan.disableControl_disabled (drv : Driver) {f : Fan} (h : f.enabled = false) :
    f.disableControl drv = f := by
  unfold Fan.disableControl
  split_ifs
  · rw [← h]
  · rfl

theorem Fan.disableControl_again (drv : Driver) (f : Fan) :
    (f.disableControl drv).disableControl drv = f.disableControl drv := by
  cases henabled : (f.disableControl drv).enabled with
  | false => exact Fan.disableControl_disabled drv henabled
  | true => rw [Fan.disableControl_kept henabled, Fan.disableControl_kept henabled]

theorem Fan.type_disableControl (drv : Driver) (f : Fan) :
    (f.disableControl drv).type = f.type := by
  unfold Fan.disableControl
  split_ifs
  · rfl
  · rfl

/-- Without the tests of `enabled`, which only save calls that change nothing. -/
theorem Fan.destroy_eq (drv sysfs : Driver) (f : Fan) : f.destroy drv sysfs =
    if f.type = .dell then (f.disableControl drv).disableControl sysfs
    else f.disableControl drv := by
  have hown : (if f.enabled then f.disableControl drv else f) = f.disableControl drv := by
    split_ifs with henabled
    · rfl
    · exact (Fan.disableControl_disabled drv (Bool.eq_false_of_not_eq_true henabled)).symm
  rw [Fan.destroy]
  simp only [hown, Fan.type_disableControl]
  cases henabled : (f.disableControl drv).enabled with
  | false => simp [Fan.disableControl_disabled sysfs henabled]
  | true => simp

/-- A fan outlives its destructors enabled only if all of them ask in vain. -/
theorem Fan.enabled_destroy (drv sysfs : Driver) (f : Fan) :
    (f.destroy drv sysfs).enabled = true ↔
      f.enabled = true ∧ drv.disables f = false ∧ (f.type = .dell → sysfs.disables f = false) := by
  rw [Fan.destroy_eq, ← and_assoc, ← Fan.enabled_disableControl]
  split_ifs with hdell
  · rw [Fan.enabled_disableControl]
    refine and_congr_right fun hkept => ?_
    rw [Fan.disableControl_kept hkept]
    exact ⟨fun hrefused _ => hrefused, fun hrefused => hrefused hdell⟩
  · exact ⟨fun hkept => ⟨hkept, fun h => absurd h hdell⟩, And.left⟩

namespace Controller

variable {drv : Driver} {c c' : Controller}

/-- `~Controller`, and then the destruction of `devices`, where the fans may answer otherwise
(`atEnd`) than to `disable_all`. -/
def shutdown (drv atEnd sysfs : Driver) (c : Controller) : Option Controller :=
  (c.disableAll drv).map fun c =>
    { c with devices.fans := c.devices.fans.mapValues (Fan.destroy atEnd sysfs) }

/-! ## Disabling all -/

/-- Whether the label has a task, and its fan. -/
def held (c : Controller) (l : String) : Bool × Option Fan := (c.tasks.contains l, c.fan? l)

theorem fan?_eraseTask {l : String} (h : c.eraseTask drv l = some c')
    (htask : c.tasks.find? l ≠ none) : c'.fan? l = (c.fan? l).map (Fan.disableControl drv) := by
  rcases eraseTask_cases h with ⟨hnone, -⟩ | ⟨-, hf, rfl⟩ | ⟨f, -, hf, rfl⟩
  · exact absurd hnone htask
  · rw [fan?_setTasks, hf]
    rfl
  · rw [fan?_setFan, if_pos rfl, hf]
    rfl

theorem fan?_disableAlone {l : String} (h : c.disableAlone drv l = some c') :
    c'.fan? l = if c.tasks.contains l then (c.fan? l).map (Fan.disableControl drv)
      else c.fan? l := by
  rcases disableWith_cases h with ⟨hnone, rfl⟩ | ⟨d, htask, hd, hcases⟩
  · rw [SortedMap.contains, hnone]
    rfl
  · have hcontains : c.tasks.contains l = true := Option.isSome_iff_ne_none.mpr htask
    rw [if_pos hcontains, ← fan?_eraseTask hd htask]
    obtain ⟨-, rfl⟩ | ⟨g, hg, hset⟩ := hcases
    · rfl
    · have hset' : c' = d.setFan l (g.disableControl drv) := by
        split_ifs at hset
        · exact (Option.some.inj hset).symm
        · exact hset
      have hgiven := hg.symm.trans (fan?_eraseTask hd htask)
      obtain ⟨f, -, rfl⟩ := Option.map_eq_some_iff.mp hgiven.symm
      rw [hset', fan?_setFan, if_pos rfl, hg, Fan.disableControl_again]

theorem fan?_disableAlone_of_ne {l k : String} (h : c.disableAlone drv l = some c')
    (hk : k ≠ l) : c'.fan? k = c.fan? k := by
  rcases disableWith_cases h with ⟨-, rfl⟩ | ⟨d, -, hd, ⟨-, rfl⟩ | ⟨f, -, hset⟩⟩
  · rfl
  · exact fan?_eraseTask_of_ne hd hk
  · have hset' : c' = d.setFan l (f.disableControl drv) := by
      split_ifs at hset
      · exact (Option.some.inj hset).symm
      · exact hset
    rw [hset', fan?_setFan, if_neg hk]
    exact fan?_eraseTask_of_ne hd hk

def ended (drv : Driver) (held : Bool × Option Fan) : Bool × Option Fan :=
  (false, if held.1 then held.2.map (Fan.disableControl drv) else held.2)

/-- Disabling one fan ends its task and gives it back, and leaves the others. -/
theorem held_disableAlone {l : String} (h : c.disableAlone drv l = some c') (k : String) :
    c'.held k = if k = l then ended drv (c.held l) else c.held k := by
  by_cases hk : k = l
  · have hended : c'.tasks.contains l = false :=
      congrArg Option.isSome (Controller.stops_disableAlone h).2
    rw [if_pos hk, hk, held, hended, fan?_disableAlone h]
    rfl
  · rw [if_neg hk, held, SortedMap.contains, Controller.tasks_disableAlone h hk,
      fan?_disableAlone_of_ne h hk]
    rfl

theorem fan?_disableAll (h : c.disableAll drv = some c') (l : String) :
    c'.fan? l = if c.tasks.contains l then (c.fan? l).map (Fan.disableControl drv)
      else c.fan? l := by
  have hturn : ∀ (s : Controller) k s' j, True → s.disableAlone drv k = some s' →
      s'.held j = if j = k then ended drv (s.held k) else s.held j :=
    fun s k s' j _ hstep => held_disableAlone hstep j
  have hloop : c'.held l = if l ∈ c.tasks.keys then ended drv (c.held l) else c.held l :=
    Loop.foldlM_pointwise (fun _ _ _ _ _ => trivial) hturn trivial c.tasks.keys_nodup h l
  have hfan := congrArg Prod.snd hloop
  by_cases hl : c.tasks.contains l = true
  · rw [if_pos (SortedMap.contains_iff.mp hl)] at hfan
    exact hfan
  · rw [if_neg (mt SortedMap.contains_iff.mpr hl)] at hfan
    rw [if_neg hl]
    exact hfan

/-! ## What is given back -/

/-- No task is left, and every fan is as its destructors leave it, after `disable_all` if it had a
task. It is then under manual control exactly if it was and each of these calls has failed. -/
structure GivenBack (drv atEnd sysfs : Driver) (c c' : Controller) : Prop where
  tasks : ∀ l, c'.tasks.contains l = false
  fans : ∀ l, c'.fan? l = (c.fan? l).map fun f =>
    (if c.tasks.contains l then f.disableControl drv else f).destroy atEnd sysfs
  manual : ∀ l f f', c.fan? l = some f → c'.fan? l = some f' → (f'.enabled = true ↔
    f.enabled = true ∧ (c.tasks.contains l = true → drv.disables f = false) ∧
      atEnd.disables f = false ∧ (f.type = .dell → sysfs.disables f = false))

theorem fan?_shutdown {atEnd sysfs : Driver} (h : c.shutdown drv atEnd sysfs = some c')
    (l : String) : c'.fan? l = (c.fan? l).map fun f =>
      (if c.tasks.contains l then f.disableControl drv else f).destroy atEnd sysfs := by
  obtain ⟨d, hd, rfl⟩ := Option.map_eq_some_iff.mp h
  refine (UnorderedMap.find?_mapValues (Fan.destroy atEnd sysfs) d.devices.fans l).trans ?_
  show (d.fan? l).map (Fan.destroy atEnd sysfs) = _
  rw [fan?_disableAll hd l]
  cases c.tasks.contains l with
  | true => exact Option.map_map _ _ _
  | false => rfl

theorem tasks_shutdown {atEnd sysfs : Driver} (h : c.shutdown drv atEnd sysfs = some c')
    (l : String) : c'.tasks.contains l = false := by
  obtain ⟨d, hd, rfl⟩ := Option.map_eq_some_iff.mp h
  exact congrArg Option.isSome (tasks_disableAll hd l)

theorem manual_shutdown {atEnd sysfs : Driver} (h : c.shutdown drv atEnd sysfs = some c')
    {l : String} {f f' : Fan} (hf : c.fan? l = some f) (hf' : c'.fan? l = some f') :
    f'.enabled = true ↔
      f.enabled = true ∧ (c.tasks.contains l = true → drv.disables f = false) ∧
        atEnd.disables f = false ∧ (f.type = .dell → sysfs.disables f = false) := by
  rw [fan?_shutdown h, hf] at hf'
  obtain rfl := Option.some.inj hf'
  cases htask : c.tasks.contains l with
  | false => simpa using Fan.enabled_destroy atEnd sysfs f
  | true =>
    simp only [if_true, true_implies]
    rw [Fan.enabled_destroy, Fan.enabled_disableControl, and_assoc]
    refine and_congr_right fun henabled => and_congr_right fun hrefused => ?_
    rw [Fan.disableControl_kept ((Fan.enabled_disableControl drv f).mpr ⟨henabled, hrefused⟩)]

theorem disableAll_returns (drv : Driver) (h : Untested c) : ∃ c', c.disableAll drv = some c' := by
  have hturn : ∀ s k, Untested s → ∃ s', s.disableAlone drv k = some s' ∧ Untested s' := by
    intro s k hs
    obtain ⟨s', hs'⟩ := disableAlone_isSome drv (hs k)
    exact ⟨s', hs', hs.controls (controls_disableAlone hs')⟩
  obtain ⟨c', hc', -⟩ := Loop.foldlM_returns_keeping hturn h c.tasks.keys
  exact ⟨c', hc'⟩

/-- **Shutting down with no test running returns, ends every task and gives back every fan, with a
task or without; a fan stays under manual control exactly if each call of its `disable_control` has
failed.** -/
theorem shutdown_gives_back (drv atEnd sysfs : Driver) (c : Controller) (htest : Untested c) :
    ∃ c', c.shutdown drv atEnd sysfs = some c' ∧ GivenBack drv atEnd sysfs c c' := by
  obtain ⟨d, hd⟩ := disableAll_returns drv htest
  obtain ⟨c', h⟩ : ∃ c', c.shutdown drv atEnd sysfs = some c' := ⟨_, congrArg (Option.map _) hd⟩
  exact ⟨c', h, tasks_shutdown h, fan?_shutdown h, fun _ _ _ hf hf' => manual_shutdown h hf hf'⟩

def bareMsg : FanMsg := { caseMsg "" with label := "bare", pwmPath := "/sys/pwm2" }

/-- A fan with a task, and one under manual control without a task. -/
def shutController : Controller :=
  ({ devices := Devices.load readyEnv ⟨[caseMsg "40: 800", bareMsg], [coldSensor.save]⟩ }
    : Controller).enableAll willingDriver

/-- A driver that takes no control back. -/
def refusingDriver : Driver := ⟨fun _ => true, fun _ => false⟩

/-- What `disable_all` is refused, and what it leaves alone, the destructors give back. -/
theorem shutdown_gives_back_case :
    shutController.tasks.keys = ["case"] ∧
      (shutController.fan? "case").any Fan.enabled = true ∧
      (shutController.fan? "bare").any Fan.enabled = true ∧
      ∃ c', shutController.shutdown refusingDriver willingDriver willingDriver = some c' ∧
        ∀ l f, shutController.fan? l = some f →
          ∀ f', c'.fan? l = some f' → f'.enabled = false := by
  refine ⟨by decide +kernel, by decide +kernel, by decide +kernel, ?_⟩
  obtain ⟨c', h, hback⟩ := shutdown_gives_back refusingDriver willingDriver willingDriver
    shutController (untested_of_keys (by decide +kernel))
  refine ⟨c', h, fun l f hf f' hf' => Bool.eq_false_of_not_eq_true fun henabled => ?_⟩
  obtain ⟨-, -, hrefused, -⟩ := (hback.manual l f f' hf hf').mp henabled
  cases hrefused

end Controller

end Fancon
