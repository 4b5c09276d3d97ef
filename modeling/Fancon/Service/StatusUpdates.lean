import Fancon.Controller.DellFans
import Fancon.Service.Board

/-! # What the subscribers of `SubscribeFanStatus` are told

A subscriber is sent the status of each fan, one after the other, and then its callback is
registered; from then on it is told by `notify_status_observers`: the task of an enabled fan calls
it at each turn of its loop, `disable` for each fan it has stopped and `test` for the fan it has
begun to test. Nothing tells that a fan was enabled but its own task, and nothing tells that a test
has ended. What is disabled or tested before the registration is not told. To a subscriber that
misses nothing there, and as long as the devices are not replaced, the last status it was told of a
fan is its status; or the fan is enabled, and the next turn of its task tells it; or the fan was
reported as testing, and was not enabled at the end of its test (`monitor_current`).
-/
set_option autoImplicit false
set_option maxHeartbeats 250000
set_option maxRecDepth 120000

namespace Fancon

namespace Service

open Controller

/-! ## A controller and a subscriber -/

/-- `told` are the last statuses that the subscriber was sent, `left` the fans whose first message
it was not sent yet. -/
structure Monitored where
  controller : Controller
  told : String → Option FanStatus
  left : List String
  registered : Bool

namespace Monitored

/-- `notify_status_observers`. -/
def notify (m : Monitored) (l : String) : Monitored :=
  if m.registered = true ∧ (m.controller.fan? l).isSome then
    { m with told := Function.update m.told l (some (m.controller.status l)) }
  else m

variable (drv : Driver)

/-- What `disable` does about the device. -/
def disableDevice (dellFans : String → Monitored → Option Monitored) (l : String) (m : Monitored) :
    Option Monitored :=
  match m.controller.fan? l with
  | none => some m
  | some f =>
    let m := { m with controller := m.controller.setFan l (f.disableControl drv) }
    if f.type = .dell then dellFans l m else some m

def disableWith (dellFans : String → Monitored → Option Monitored) (m : Monitored) (l : String) :
    Option Monitored :=
  if !m.controller.tasks.contains l then some m
  else
    (m.controller.eraseTask drv l).bind fun c =>
    (disableDevice drv dellFans l { m with controller := c }).map fun m => m.notify l

def disableAlone (m : Monitored) (l : String) : Option Monitored :=
  disableWith drv (fun _ m => some m) m l

def disableDellFan (exceptLabel : Option String) (m : Monitored) (l : String) :
    Option Monitored :=
  if (m.controller.fan? l).any (fun f => decide (f.type = .dell)) ∧ exceptLabel ≠ some l then
    m.disableAlone drv l
  else some m

def disableDellFans (exceptLabel : Option String) (m : Monitored) : Option Monitored :=
  m.controller.devices.fans.keys.foldlM (disableDellFan drv exceptLabel) m

def disable (m : Monitored) (l : String) : Option Monitored :=
  disableWith drv (fun label m => m.disableDellFans drv (some label)) m l

def disableAll (m : Monitored) : Option Monitored :=
  m.controller.tasks.keys.foldlM (disableAlone drv) m

def test (m : Monitored) (l : String) (forced blocking : Bool) : Option Monitored :=
  match m.controller.fan? l with
  | none => some m
  | some f =>
    if f.ignore || (f.tested && !forced) then some m
    else if m.controller.testing? f.label = some true then if blocking then none else some m
    else
      (m.controller.eraseTask drv f.label).map fun c =>
      ({ m with controller := c.setTasks (c.tasks.emplace f.label ⟨true⟩) } : Monitored).notify
        f.label

end Monitored

/-- The next of the first messages, the registration, an operation that replaces no devices, or a
turn of the loop of an enabled fan. -/
inductive MonitorEvent
  | send
  | register
  | enable (label : String)
  | enableAll
  | disable (label : String)
  | disableAll
  | test (label : String) (forced blocking : Bool)
  | testWrites (label : String) (result : TestResult)
  | testComplete (label : String) (result : TestResult)
  | recover
  | turn (label : String)

def nextMonitored (drv : Driver) (m : Monitored) : MonitorEvent → Option Monitored
  | .send =>
    match m.left with
    | [] => none
    | l :: rest => some { m with
        told := Function.update m.told l (some (m.controller.status l))
        left := rest }
  | .register =>
    match m.left with
    | [] => if m.registered then none else some { m with registered := true }
    | _ :: _ => none
  | .enable l => some { m with controller := m.controller.enable drv l }
  | .enableAll => some { m with controller := m.controller.enableAll drv }
  | .disable l => m.disable drv l
  | .disableAll => m.disableAll drv
  | .test l forced blocking => m.test drv l forced blocking
  | .testWrites l r => (m.controller.testWrites l r).map fun c => { m with controller := c }
  | .testComplete l r =>
    (m.controller.testComplete drv l r).map fun c => { m with controller := c }
  | .recover => some { m with controller := m.controller.recover drv }
  | .turn l => if m.controller.status l = .enabled then some (m.notify l) else none

/-- A subscriber that is still to be sent everything. -/
def subscribe (c : Controller) : Monitored where
  controller := c
  told _ := none
  left := c.devices.fans.keys
  registered := false

/-- The runs that start with a call of `SubscribeFanStatus`, in any state of the service. -/
def monitorSystem (parse : Text → Bool × ControllerMsg) (drivers : Driver → Prop) :
    Transition.System Monitored MonitorEvent where
  init m := ∃ c, Transition.Reachable (system parse drivers) c ∧ m = subscribe c
  step m e m' := ∃ drv, drivers drv ∧ nextMonitored drv m e = some m'

/-- The events that tell a status other than that of an enabled fan. -/
def MonitorEvent.stops : MonitorEvent → Bool
  | .disable _ | .disableAll | .test .. => true
  | _ => false

/-- No fan is disabled and no test is begun before the registration. -/
def MissesNoStop (m : Monitored) (e : MonitorEvent) : Prop :=
  m.registered = false → e.stops = false

/-! ## Without the subscriber -/

variable {drv : Driver} {c c' : Controller} {m m' : Monitored} {l k : String}

@[simp] theorem controller_notify (m : Monitored) (l : String) :
    (m.notify l).controller = m.controller := by
  unfold Monitored.notify
  split_ifs <;> rfl

/-- What no operation changes: whether the subscriber is registered, and whose first messages it was
not sent yet. -/
def Monitored.window (m : Monitored) : Bool × List String := (m.registered, m.left)

@[simp] theorem window_notify (m : Monitored) (l : String) : (m.notify l).window = m.window := by
  unfold Monitored.notify
  split_ifs <;> rfl

theorem controller_disableWith {dellFans : String → Monitored → Option Monitored}
    {dellFans' : String → Controller → Option Controller}
    (hdell : ∀ m : Monitored, (dellFans l m).map Monitored.controller = dellFans' l m.controller) :
    (m.disableWith drv dellFans l).map Monitored.controller =
      Controller.disableWith drv dellFans' m.controller l := by
  have hnotify : ∀ x : Option Monitored,
      (x.map fun m => m.notify l).map Monitored.controller = x.map Monitored.controller := by
    intro x
    cases x with
    | none => rfl
    | some m => rw [Option.map_some, Option.map_some, controller_notify, Option.map_some]
  unfold Monitored.disableWith Controller.disableWith
  split_ifs
  · rfl
  · cases m.controller.eraseTask drv l with
    | none => rfl
    | some c =>
      rw [Option.bind_some, Option.bind_some, hnotify, Monitored.disableDevice]
      cases c.fan? l with
      | none => rfl
      | some f =>
        simp only
        split_ifs
        · exact hdell _
        · rfl

theorem controller_disableAlone (m : Monitored) (l : String) :
    (m.disableAlone drv l).map Monitored.controller = m.controller.disableAlone drv l :=
  controller_disableWith fun _ => rfl

theorem controller_disableDellFans (exceptLabel : Option String) (m : Monitored) :
    (m.disableDellFans drv exceptLabel).map Monitored.controller =
      m.controller.disableDellFans drv exceptLabel := by
  refine Loop.foldlM_map (fun m l => ?_) m _
  unfold Monitored.disableDellFan Controller.disableDellFan
  split_ifs
  · exact controller_disableAlone m l
  · rfl

theorem controller_disable (m : Monitored) (l : String) :
    (m.disable drv l).map Monitored.controller = m.controller.disable drv l :=
  controller_disableWith fun m => controller_disableDellFans (some l) m

theorem controller_disableAll (m : Monitored) :
    (m.disableAll drv).map Monitored.controller = m.controller.disableAll drv :=
  Loop.foldlM_map controller_disableAlone m _

theorem controller_test (m : Monitored) (l : String) (forced blocking : Bool) :
    (m.test drv l forced blocking).map Monitored.controller =
      m.controller.test drv l forced blocking := by
  unfold Monitored.test Controller.test
  cases m.controller.fan? l with
  | none => rfl
  | some f =>
    simp only
    split_ifs
    · rfl
    · rfl
    · rfl
    · rw [Option.map_map]
      exact congrArg (fun g => (m.controller.eraseTask drv f.label).map g)
        (funext fun c => controller_notify _ f.label)

/-! ## What is told of one fan -/

/-- The last status that was told is that of the fan, or the fan is enabled, or it was being tested
and was not enabled afterwards. -/
def Current (m : Monitored) (k : String) : Prop :=
  (m.controller.fan? k).isSome = true →
    m.told k = some (m.controller.status k) ∨ m.controller.status k = .enabled ∨
      m.told k = some .testing ∧ m.controller.status k = .disabled

theorem isSome_fan?_of_controls (h : Controls c c') (k : String) :
    (c'.fan? k).isSome = (c.fan? k).isSome := by
  have hfan := congrArg Option.isSome (h.fans k)
  rwa [Option.isSome_map, Option.isSome_map] at hfan

/-- What is told stays current if the fan keeps its status or is enabled. -/
theorem Current.controls (hk : Current m k) (h : Controls m.controller c)
    (hs : c.status k = m.controller.status k ∨ c.status k = .enabled) :
    Current { m with controller := c } k := by
  intro hfan
  rcases hs with hs | hs
  · have hk := hk (isSome_fan?_of_controls h k ▸ hfan)
    rw [← hs] at hk
    exact hk
  · exact Or.inr (Or.inl hs)

theorem told_notify (hm : m.registered = true) (hfan : (m.controller.fan? l).isSome = true)
    (k : String) :
    (m.notify l).told k = if k = l then some (m.controller.status l) else m.told k := by
  unfold Monitored.notify
  rw [if_pos ⟨hm, hfan⟩]
  exact Function.update_apply ..

theorem current_notify (hm : m.registered = true) (l : String) : Current (m.notify l) l := by
  intro hfan
  rw [controller_notify] at hfan ⊢
  rw [told_notify hm hfan, if_pos rfl]
  exact Or.inl rfl

theorem Current.notify (hk : Current m k) (l : String) : Current (m.notify l) k := by
  by_cases hkl : m.registered = true ∧ k = l
  · exact hkl.2 ▸ current_notify hkl.1 k
  · intro hfan
    rw [controller_notify] at hfan ⊢
    have htold : (m.notify l).told k = m.told k := by
      unfold Monitored.notify
      split_ifs with hm
      · exact Function.update_of_ne (fun heq => hkl ⟨hm.1, heq⟩) ..
      · rfl
    rw [htold]
    exact hk hfan

/-! ## `disable` -/

theorem status_of_testing? (h : c'.testing? k = c.testing? k) : c'.status k = c.status k := by
  rw [status_eq, status_eq, h]

theorem testing?_eraseTask (h : c.eraseTask drv l = some c') (hk : k ≠ l) :
    c'.testing? k = c.testing? k := testing?_of_tasks (tasks_eraseTask h hk)

/-- A registered subscriber was told what is current of the fan. -/
def Heard (k : String) (m : Monitored) : Prop := m.registered = true ∧ Current m k

theorem Heard.notify (h : Heard k m) (l : String) : Heard k (m.notify l) :=
  ⟨(congrArg Prod.fst (window_notify m l)).trans h.1, h.2.notify l⟩

/-- `disable` is what it does about the device, and ends with telling of its fan. -/
theorem disableWith_keeps {dellFans : String → Monitored → Option Monitored} {P : Monitored → Prop}
    (hdell : ∀ m m', dellFans l m = some m' → P m → P m')
    (hset : ∀ c f, c.fan? l = some f → P { m with controller := c } →
      P { m with controller := c.setFan l (f.disableControl drv) })
    (herase : ∀ c, m.controller.eraseTask drv l = some c → P { m with controller := c })
    (h : m.disableWith drv dellFans l = some m') : m' = m ∨ ∃ n, P n ∧ m' = n.notify l := by
  unfold Monitored.disableWith at h
  split_ifs at h with hcontains
  · exact Or.inl (Option.some.inj h).symm
  obtain ⟨c, hc, h⟩ := Option.bind_eq_some_iff.mp h
  obtain ⟨n, hn, rfl⟩ := Option.map_eq_some_iff.mp h
  refine Or.inr ⟨n, ?_, rfl⟩
  unfold Monitored.disableDevice at hn
  cases hf : c.fan? l with
  | none =>
    simp only [hf] at hn
    exact Option.some.inj hn ▸ herase c hc
  | some f =>
    simp only [hf] at hn
    split_ifs at hn
    · exact hdell _ n hn (hset c f hf (herase c hc))
    · exact Option.some.inj hn ▸ hset c f hf (herase c hc)

theorem window_disableWith {dellFans : String → Monitored → Option Monitored}
    (hdell : ∀ m m', dellFans l m = some m' → m'.window = m.window)
    (h : m.disableWith drv dellFans l = some m') : m'.window = m.window := by
  have hkeeps := disableWith_keeps (P := fun n => n.window = m.window)
    (fun n n' hn hw => (hdell n n' hn).trans hw) (fun _ _ _ _ => rfl) (fun _ _ => rfl) h
  rcases hkeeps with rfl | ⟨n, hn, rfl⟩
  · rfl
  · exact (window_notify n l).trans hn

theorem window_disableAlone (h : m.disableAlone drv l = some m') : m'.window = m.window := by
  have h : m.disableWith drv (fun _ m => some m) l = some m' := h
  exact window_disableWith (fun _ _ h => by rw [Option.some.inj h]) h

theorem window_disableDellFans {exceptLabel : Option String}
    (h : m.disableDellFans drv exceptLabel = some m') : m'.window = m.window := by
  refine Loop.foldlM_keeps (P := fun n => n.window = m.window) (fun n l n' hn h => ?_) rfl h
  unfold Monitored.disableDellFan at h
  split_ifs at h
  · exact (window_disableAlone h).trans hn
  · exact Option.some.inj h ▸ hn

theorem window_disable (h : m.disable drv l = some m') : m'.window = m.window :=
  window_disableWith (fun _ _ h => window_disableDellFans h) h

theorem window_disableAll (h : m.disableAll drv = some m') : m'.window = m.window :=
  Loop.foldlM_keeps (P := fun n => n.window = m.window)
    (fun _ _ _ hn h => (window_disableAlone h).trans hn) rfl h

theorem Heard.disableWith {dellFans : String → Monitored → Option Monitored} (hk : Heard k m)
    (hwindow : ∀ m m', dellFans l m = some m' → m'.window = m.window)
    (hdell : ∀ m m', dellFans l m = some m' → Heard k m → Heard k m')
    (h : m.disableWith drv dellFans l = some m') : Heard k m' := by
  refine ⟨(congrArg Prod.fst (window_disableWith hwindow h)).trans hk.1, ?_⟩
  by_cases hkl : k = l
  · subst hkl
    have hkeeps := disableWith_keeps (P := fun n => n.registered = true)
      (fun n n' hn hr => (congrArg Prod.fst (hwindow n n' hn)).trans hr) (fun _ _ _ hr => hr)
      (fun _ _ => hk.1) h
    rcases hkeeps with rfl | ⟨n, hn, rfl⟩
    · exact hk.2
    · exact current_notify hn k
  · have hkeeps := disableWith_keeps (P := Heard k) hdell
      (fun c f hf hc => ⟨hk.1, hc.2.controls
        (controls_setFan hf (Fan.uncontrolled_disableControl drv f)) (Or.inl rfl)⟩)
      (fun c hc => ⟨hk.1, hk.2.controls (controls_eraseTask hc)
        (Or.inl (status_of_testing? (testing?_eraseTask hc hkl)))⟩) h
    rcases hkeeps with rfl | ⟨n, hn, rfl⟩
    · exact hk.2
    · exact (hn.notify l).2

theorem Heard.disableAlone (hk : Heard k m) (h : m.disableAlone drv l = some m') : Heard k m' := by
  have h : m.disableWith drv (fun _ m => some m) l = some m' := h
  refine hk.disableWith ?_ ?_ h
  · rintro n _ ⟨rfl⟩
    rfl
  · rintro n _ ⟨rfl⟩ hn
    exact hn

theorem Heard.disableDellFans {exceptLabel : Option String} (hk : Heard k m)
    (h : m.disableDellFans drv exceptLabel = some m') : Heard k m' := by
  refine Loop.foldlM_keeps (P := Heard k) (fun m l m' hk h => ?_) hk h
  unfold Monitored.disableDellFan at h
  split_ifs at h
  · exact hk.disableAlone h
  · exact Option.some.inj h ▸ hk

theorem Heard.disable (hk : Heard k m) (h : m.disable drv l = some m') : Heard k m' :=
  hk.disableWith (fun _ _ h => window_disableDellFans h) (fun _ _ h hk => hk.disableDellFans h) h

theorem Heard.disableAll (hk : Heard k m) (h : m.disableAll drv = some m') : Heard k m' :=
  Loop.foldlM_keeps (P := Heard k) (fun _ _ _ hk h => hk.disableAlone h) hk h

/-! ## `enable`, `test` and its end -/

theorem raised_enable (hc : Labelled c) (l k : String) :
    (c.enable drv l).status k = c.status k ∨ (c.enable drv l).status k = .enabled := by
  rw [status_enable hc]
  by_cases hk : (board drv c).enables l k = true
  · exact Or.inr (if_pos hk)
  · exact Or.inl (if_neg hk)

theorem raised_enableAll (hc : Labelled c) (k : String) :
    (c.enableAll drv).status k = c.status k ∨ (c.enableAll drv).status k = .enabled := by
  rw [status_enableAll hc]
  by_cases hk : c.status k = .disabled ∧ (board drv c).willing k = true
  · exact Or.inr (if_pos hk)
  · exact Or.inl (if_neg hk)

theorem window_test {forced blocking : Bool} (h : m.test drv l forced blocking = some m') :
    m'.window = m.window := by
  unfold Monitored.test at h
  cases hf : m.controller.fan? l with
  | none =>
    simp only [hf] at h
    rw [Option.some.inj h]
  | some f =>
    simp only [hf] at h
    split_ifs at h
    · rw [Option.some.inj h]
    · rw [Option.some.inj h]
    · obtain ⟨c, -, rfl⟩ := Option.map_eq_some_iff.mp h
      exact window_notify _ f.label

theorem Heard.test {forced blocking : Bool} (hk : Heard k m)
    (h : m.test drv l forced blocking = some m') : Heard k m' := by
  refine ⟨(congrArg Prod.fst (window_test h)).trans hk.1, ?_⟩
  unfold Monitored.test at h
  cases hf : m.controller.fan? l with
  | none =>
    simp only [hf] at h
    exact Option.some.inj h ▸ hk.2
  | some f =>
    simp only [hf] at h
    split_ifs at h
    · exact Option.some.inj h ▸ hk.2
    · exact Option.some.inj h ▸ hk.2
    · obtain ⟨c, he, rfl⟩ := Option.map_eq_some_iff.mp h
      by_cases hkl : k = f.label
      · subst hkl
        apply current_notify
        exact hk.1
      have htesting : (c.setTasks (c.tasks.emplace f.label ⟨true⟩)).testing? k =
          m.controller.testing? k := by
        rw [testing?_emplace, if_neg hkl, testing?_eraseTask he hkl]
      refine Current.notify (fun hfan => ?_) f.label
      have hfan' : (m.controller.fan? k).isSome = true :=
        isSome_fan?_of_controls (controls_eraseTask he) k ▸ hfan
      have hk := hk.2 hfan'
      rw [← status_of_testing? htesting] at hk
      exact hk

theorem Current.testWrites {r : TestResult} (hk : Current m k)
    (h : m.controller.testWrites l r = some c) : Current { m with controller := c } k := by
  obtain ⟨f, -, hf, rfl⟩ := testWrites_cases h
  intro hfan
  apply hk
  show (m.controller.fan? k).isSome = true
  change ((m.controller.setFan l (f.afterTest r)).fan? k).isSome = true at hfan
  rw [fan?_setFan] at hfan
  split_ifs at hfan with hkl
  · rw [hkl, hf]
    rfl
  · exact hfan

theorem Current.testComplete {r : TestResult} (hk : Current m k) (hc : Labelled m.controller)
    (h : m.controller.testComplete drv l r = some c) : Current { m with controller := c } k := by
  obtain ⟨f, htest, hf, rfl⟩ := testComplete_cases h
  have hlabelled : Labelled ((m.controller.setFan l (f.afterTest r)).setTasks
      (m.controller.tasks.erase l)) := by
    intro i g hg
    rw [fan?_setTasks, fan?_setFan] at hg
    split_ifs at hg with hi
    · obtain rfl := Option.some.inj hg
      exact (hc l f hf).trans hi.symm
    · exact hc i g hg
  have hended : Current ⟨(m.controller.setFan l (f.afterTest r)).setTasks
      (m.controller.tasks.erase l), m.told, m.left, m.registered⟩ k := by
    intro hfan
    by_cases hkl : k = l
    · subst hkl
      have hstatus : m.controller.status k = .testing := status_eq_testing.mpr htest
      have htold := hk (by rw [hf]; rfl)
      rw [hstatus] at htold
      refine Or.inr (Or.inr ⟨?_, ?_⟩)
      · rcases htold with htold | habsurd | ⟨-, habsurd⟩
        · exact htold
        · cases habsurd
        · cases habsurd
      · apply status_eq_disabled.mpr
        rw [testing?, tasks_setTasks, SortedMap.find?_erase, if_pos rfl, Option.map_none]
    · have htesting : ((m.controller.setFan l (f.afterTest r)).setTasks
          (m.controller.tasks.erase l)).testing? k = m.controller.testing? k := by
        rw [testing?, tasks_setTasks, SortedMap.find?_erase, if_neg hkl, testing?]
      rw [fan?_setTasks, fan?_setFan, if_neg hkl] at hfan
      have hk := hk hfan
      rw [← status_of_testing? htesting] at hk
      exact hk
  exact hended.controls (controls_enable _ l) (raised_enable hlabelled l k)

/-! ## Every step -/

theorem some_controller {x : Option Monitored} {y : Option Controller}
    (hxy : x.map Monitored.controller = y) (hx : x = some m) : y = some m.controller := by
  rw [← hxy, hx, Option.map_some]

/-- The subscriber aside, each step is an operation of the controller or leaves that alone. -/
theorem perform_of_next (parse : Text → Bool × ControllerMsg) {e : MonitorEvent}
    (h : nextMonitored drv m e = some m') : m'.controller = m.controller ∨
      ∃ op, m.controller.perform drv parse op = some m'.controller := by
  cases e with
  | send =>
    simp only [nextMonitored] at h
    split at h
    · cases h
    · exact Or.inl (Option.some.inj h ▸ rfl)
  | register =>
    simp only [nextMonitored] at h
    split at h
    · split_ifs at h
      exact Or.inl (Option.some.inj h ▸ rfl)
    · cases h
  | enable l =>
    obtain rfl := Option.some.inj h
    exact Or.inr ⟨.enable l, rfl⟩
  | enableAll =>
    obtain rfl := Option.some.inj h
    exact Or.inr ⟨.enableAll, rfl⟩
  | disable l => exact Or.inr ⟨.disable l, some_controller (controller_disable m l) h⟩
  | disableAll => exact Or.inr ⟨.disableAll, some_controller (controller_disableAll m) h⟩
  | test l forced blocking =>
    exact Or.inr ⟨.test l forced blocking, some_controller (controller_test m l forced blocking) h⟩
  | testWrites l r =>
    obtain ⟨c, hc, rfl⟩ := Option.map_eq_some_iff.mp h
    exact Or.inr ⟨.testWrites l r, hc⟩
  | testComplete l r =>
    obtain ⟨c, hc, rfl⟩ := Option.map_eq_some_iff.mp h
    exact Or.inr ⟨.testComplete l r, hc⟩
  | recover =>
    obtain rfl := Option.some.inj h
    exact Or.inr ⟨.recover, rfl⟩
  | turn l =>
    obtain ⟨-, heq⟩ := Option.ite_none_right_eq_some.mp h
    obtain rfl := Option.some.inj heq
    exact Or.inl (controller_notify m l)

/-- What the subscriber was told of the fan is current, or it was not sent its first message yet;
it is registered only after that. -/
structure Followed (m : Monitored) : Prop where
  wellFormed : WellFormed m.controller
  sent : m.registered = true → m.left = []
  current : ∀ k, k ∈ m.left ∨ Current m k

theorem followed_subscribe (hc : WellFormed c) : Followed (subscribe c) where
  wellFormed := hc
  sent h := by cases h
  current k := by
    by_cases hk : k ∈ c.devices.fans.keys
    · exact Or.inl hk
    · refine Or.inr fun hfan => absurd ?_ hk
      exact UnorderedMap.mem_keys_iff.mpr (Option.isSome_iff_exists.mp hfan)

theorem Followed.heard (hm : Followed m) (h : m.registered = true) (k : String) : Heard k m := by
  refine ⟨h, (hm.current k).resolve_left ?_⟩
  rw [hm.sent h]
  exact List.not_mem_nil

/-- A step that leaves the window alone and every fan current is followed. -/
theorem Followed.of_window (hm : Followed m) (hwf : WellFormed m'.controller)
    (hwindow : m'.window = m.window) (hk : ∀ k, Current m k → Current m' k) : Followed m' := by
  obtain ⟨hregistered, hleft⟩ := Prod.mk.inj hwindow
  refine ⟨hwf, ?_, fun k => ?_⟩
  · rw [hregistered, hleft]
    exact hm.sent
  · rw [hleft]
    exact (hm.current k).imp_right (hk k)

/-- A step that tells a status is heard by a registered subscriber. -/
theorem Followed.of_heard (hm : Followed m) (hwf : WellFormed m'.controller)
    (hwindow : m'.window = m.window) (hregistered : m.registered = true)
    (hk : ∀ k, Heard k m → Heard k m') : Followed m' := by
  have hregistered' := (congrArg Prod.fst hwindow).trans hregistered
  refine ⟨hwf, fun _ => (congrArg Prod.snd hwindow).trans (hm.sent hregistered), fun k => ?_⟩
  exact Or.inr (hk k (hm.heard hregistered k)).2

theorem Followed.send {l : String} {rest : List String} (hm : Followed m)
    (hleft : m.left = l :: rest) : Followed { m with
      told := Function.update m.told l (some (m.controller.status l))
      left := rest } := by
  refine ⟨hm.wellFormed, fun h => ?_, fun k => ?_⟩
  · cases hleft.symm.trans (hm.sent h)
  by_cases hkl : k = l
  · refine Or.inr fun _ => Or.inl ?_
    rw [hkl]
    exact Function.update_self ..
  · have hk := hm.current k
    rw [hleft, List.mem_cons, or_iff_right hkl] at hk
    refine hk.imp_right fun hk hfan => ?_
    have htold : Function.update m.told l (some (m.controller.status l)) k = m.told k :=
      Function.update_of_ne hkl ..
    show Function.update m.told l _ k = _ ∨ _ ∨ Function.update m.told l _ k = _ ∧ _
    rw [htold]
    exact hk hfan

theorem Followed.next (parse : Text → Bool × ControllerMsg) (hm : Followed m) {e : MonitorEvent}
    (hok : MissesNoStop m e) (h : nextMonitored drv m e = some m') : Followed m' := by
  have hwf : WellFormed m'.controller := by
    rcases perform_of_next parse h with heq | ⟨op, hop⟩
    · rw [heq]
      exact hm.wellFormed
    · exact hm.wellFormed.perform hop
  have hregistered : e.stops = true → m.registered = true := by
    intro hstops
    by_contra hnot
    cases hstops.symm.trans (hok (Bool.eq_false_iff.mpr hnot))
  cases e with
  | send =>
    simp only [nextMonitored] at h
    split at h
    · cases h
    · rename_i l rest hleft
      exact Option.some.inj h ▸ hm.send hleft
  | register =>
    simp only [nextMonitored] at h
    split at h
    · rename_i hleft
      split_ifs at h
      obtain rfl := Option.some.inj h
      exact ⟨hm.wellFormed, fun _ => hleft, hm.current⟩
    · cases h
  | enable l =>
    obtain rfl := Option.some.inj h
    exact hm.of_window hwf rfl fun k hk =>
      hk.controls (controls_enable _ l) (raised_enable hm.wellFormed.labelled l k)
  | enableAll =>
    obtain rfl := Option.some.inj h
    exact hm.of_window hwf rfl fun k hk =>
      hk.controls (controls_enableAll _) (raised_enableAll hm.wellFormed.labelled k)
  | disable l =>
    exact hm.of_heard hwf (window_disable h) (hregistered rfl) fun k hk => hk.disable h
  | disableAll =>
    exact hm.of_heard hwf (window_disableAll h) (hregistered rfl) fun k hk => hk.disableAll h
  | test l forced blocking =>
    exact hm.of_heard hwf (window_test h) (hregistered rfl) fun k hk => hk.test h
  | testWrites l r =>
    obtain ⟨c, hc, rfl⟩ := Option.map_eq_some_iff.mp h
    exact hm.of_window hwf rfl fun k hk => hk.testWrites hc
  | testComplete l r =>
    obtain ⟨c, hc, rfl⟩ := Option.map_eq_some_iff.mp h
    exact hm.of_window hwf rfl fun k hk => hk.testComplete hm.wellFormed.labelled hc
  | recover =>
    obtain rfl := Option.some.inj h
    refine hm.of_window hwf rfl fun k hk =>
      hk.controls (controls_recover _) (Or.inl (status_of_testing? ?_))
    exact testing?_of_tasks (by rw [tasks_recover])
  | turn l =>
    obtain ⟨-, heq⟩ := Option.ite_none_right_eq_some.mp h
    obtain rfl := Option.some.inj heq
    exact hm.of_window hwf (window_notify m l) fun k hk => hk.notify l

theorem followed_of_reachable {parse : Text → Bool × ControllerMsg} {drivers : Driver → Prop}
    (h : Transition.ReachableWhen (monitorSystem parse drivers) MissesNoStop m) : Followed m := by
  apply Transition.ReachableWhen.invariant Followed ?_ ?_ h
  · rintro m ⟨c, hc, rfl⟩
    exact followed_subscribe (sound_of_reachable hc).wellFormed
  · rintro m e m' hm hok ⟨drv, -, hnext⟩
    exact hm.next parse hok hnext

/-- **In every run in which no device is replaced, and none is disabled or tested before the
registration, the last status that a registered subscriber was told of a listed fan is its status;
or the fan is enabled, and the next turn of its task tells that; or the fan was reported as testing
and its task ended with the test.** -/
theorem monitor_current (parse : Text → Bool × ControllerMsg) (drivers : Driver → Prop)
    (m : Monitored)
    (h : Transition.ReachableWhen (monitorSystem parse drivers) MissesNoStop m)
    (hregistered : m.registered = true) (l : String) (hl : l ∈ listed m.controller) :
    m.told l = some (m.controller.status l) ∨
    (m.controller.status l = .enabled ∧ ∀ drv, ∃ m', nextMonitored drv m (.turn l) = some m' ∧
      m'.controller = m.controller ∧ m'.told l = some .enabled) ∨
    m.told l = some .testing ∧ m.controller.status l = .disabled := by
  have hm := followed_of_reachable h
  obtain ⟨f, hf⟩ := (mem_listed hm.wellFormed.labelled).mp hl
  have hfan : (m.controller.fan? l).isSome = true := Option.isSome_iff_exists.mpr ⟨f, hf⟩
  rcases (hm.heard hregistered l).2 hfan with htold | henabled | htested
  · exact Or.inl htold
  · refine Or.inr (Or.inl ⟨henabled, fun drv => ⟨m.notify l, if_pos henabled, ?_, ?_⟩⟩)
    · exact controller_notify m l
    · rw [told_notify hregistered hfan, if_pos rfl, henabled]
  · exact Or.inr (Or.inr htested)

def missesNoStop (m : Monitored) (e : MonitorEvent) : Bool := m.registered || !e.stops

theorem missesNoStop_ok (m : Monitored) (e : MonitorEvent) (h : missesNoStop m e = true) :
    MissesNoStop m e := by
  intro hm
  simpa [missesNoStop, hm] using h

/-- The fan is disabled after the registration. -/
theorem monitor_current_case :
    ∃ m : Monitored, (m.registered = true ∧ m.controller.status "case" = .disabled) ∧
      m.told "case" = some .disabled := by
  have hrun : ((Transition.run (nextMonitored willingDriver) missesNoStop
      (subscribe (caseController "40: 800")) [.enableAll, .send, .register, .disable "case"]).map
      fun m => decide (m.registered = true ∧ m.controller.status "case" = .disabled ∧
        m.told "case" ≠ some .testing ∧ "case" ∈ listed m.controller)) = some true := by
    decide +kernel
  obtain ⟨m, hm, hp⟩ := Option.map_eq_some_iff.mp hrun
  obtain ⟨hregistered, hdisabled, htesting, hlisted⟩ := of_decide_eq_true hp
  have hreach : Transition.ReachableWhen (monitorSystem (fun _ => (true, {})) fun _ => True)
      MissesNoStop m :=
    Transition.run_reachableWhen (S := monitorSystem (fun _ => (true, {})) fun _ => True)
      (fun _ _ _ hnext => ⟨willingDriver, trivial, hnext⟩) missesNoStop_ok
      (.init ⟨_, reachable_case _ "40: 800", rfl⟩) hm
  refine ⟨m, ⟨hregistered, hdisabled⟩, ?_⟩
  rcases monitor_current _ _ m hreach hregistered "case" hlisted with
    htold | ⟨henabled, -⟩ | ⟨htold, -⟩
  · rw [htold, hdisabled]
  · cases hdisabled.symm.trans henabled
  · exact absurd htold htesting

end Service

end Fancon
