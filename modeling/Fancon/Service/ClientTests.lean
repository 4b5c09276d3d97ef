import Fancon.Controller.ReloadAgain
import Fancon.Service.Board

/-! # `fancon test`

The client starts a thread for each listed fan, and each thread requests the test of its own. The
service takes the requests in any order; a request that starts a test is answered when that has
ended, and meanwhile other requests are taken and other tests write to their fans and end. If no
test was running before, no thread is ever blocked for good, and in whatever order all that happens,
what is left once all are answered is the same: each fan that was to be tested has what its own test
ended with, and but for control modes nothing else has changed (`tests_in_any_order`).
-/
set_option autoImplicit false
set_option maxHeartbeats 250000
set_option maxRecDepth 120000

namespace Fancon

namespace Service

open Controller

/-! ## The threads of the client -/

/-- Where a thread of `Client::test` is: before its request, in it, or past it. -/
inductive ClientThread
  | ready
  | waiting
  | answered
deriving DecidableEq

def ClientThread.after : Answer → ClientThread
  | .now _ => .answered
  | .afterTest _ => .waiting

/-- `results` are what the tests that have ended ended with. -/
structure ClientRun where
  controller : Controller
  threads : String → ClientThread
  results : String → Option TestResult

/-- The request of a thread, or what a test does meanwhile. -/
inductive ClientStep
  | request (label : String)
  | testWrites (label : String) (result : TestResult)
  | testComplete (label : String) (result : TestResult)

/-- The end of a test answers the request that waits for it. -/
def nextClient (drv : Driver) (forced : Bool) (s : ClientRun) : ClientStep → Option ClientRun
  | .request l =>
    if s.threads l = .ready then
      (test drv s.controller l forced).map fun r =>
      { s with
        controller := r.1
        threads := Function.update s.threads l (.after r.2) }
    else none
  | .testWrites l r => (s.controller.testWrites l r).map fun c => { s with controller := c }
  | .testComplete l r =>
    (s.controller.testComplete drv l r).map fun c =>
    { controller := c
      threads :=
        if s.threads l = .waiting then Function.update s.threads l .answered else s.threads
      results := Function.update s.results l (some r) }

/-- One thread for each listed fan. -/
def clientStart (c : Controller) : ClientRun where
  controller := c
  threads l := if l ∈ listed c then .ready else .answered
  results _ := none

def clientSystem (drivers : Driver → Prop) (forced : Bool) (c : Controller) :
    Transition.System ClientRun ClientStep where
  init s := s = clientStart c
  step s e s' := ∃ drv, drivers drv ∧ nextClient drv forced s e = some s'

/-- Whether `Controller::test` tests the fan. -/
def wanted (forced : Bool) (c : Controller) (l : String) : Bool :=
  (c.fan? l).any fun f => !f.ignore && (!f.tested || forced)

/-- A fan but for its control mode, after the test with this result, if there is one. -/
def testedFan (result : Option TestResult) (f : Fan) : Fan :=
  (result.elim f f.afterTest).uncontrolled

/-! ## One request -/

variable {drv : Driver} {c c' : Controller} {l k : String} {forced : Bool}

/-- A fan that is not under test is left alone, or its test starts. -/
theorem test_step_cases (hc : Labelled c) (hl : ¬ c.Tests l) {a : Answer}
    (h : test drv c l forced = some (c', a)) :
    (wanted forced c l = false ∧ c' = c ∧ ClientThread.after a = .answered) ∨
    (wanted forced c l = true ∧ ClientThread.after a = .waiting ∧
      c'.settings = c.settings ∧ c'.devices.sensors = c.devices.sensors ∧
      (∀ k, (c'.fan? k).map Fan.uncontrolled = (c.fan? k).map Fan.uncontrolled) ∧
      ∀ k, c'.Tests k ↔ c.Tests k ∨ k = l) := by
  rcases onFan_cases h with ⟨hnone, rfl, rfl⟩ | ⟨f, hf, h⟩
  · refine Or.inl ⟨?_, rfl, rfl⟩
    rw [wanted, hnone, Option.any_none]
  obtain rfl := hc l f hf
  obtain ⟨d, hd, heq⟩ := Option.map_eq_some_iff.mp h
  obtain ⟨rfl, rfl⟩ := Prod.mk.inj heq
  have hskip : wanted forced c f.label = !(f.ignore || (f.tested && !forced)) := by
    simp [wanted, hf, Bool.not_and, Bool.not_or]
  unfold Controller.test at hd
  simp only [hf] at hd
  rw [hskip]
  by_cases hgo : (f.ignore || (f.tested && !forced)) = true
  · rw [if_pos hgo] at hd
    rw [if_pos hgo, hgo]
    exact Or.inl ⟨rfl, (Option.some.inj hd).symm, rfl⟩
  · have htesting : ¬ c.testing? f.label = some true := hl
    rw [if_neg hgo, if_neg htesting] at hd
    obtain ⟨e, he, rfl⟩ := Option.map_eq_some_iff.mp hd
    have hcontrols := controls_eraseTask he
    rw [if_neg hgo, Bool.eq_false_iff.mpr hgo]
    refine Or.inr ⟨rfl, rfl, hcontrols.settings, hcontrols.sensors, hcontrols.fans, fun k => ?_⟩
    rw [tests_emplace, hcontrols.tests, and_iff_left (eraseTask_untested he).2]

theorem test_step_returns (hc : Labelled c) (hl : ¬ c.Tests l) :
    (test drv c l forced).isSome = true := by
  unfold test onFan
  cases hf : c.fan? l with
  | none => rfl
  | some f =>
    obtain ⟨c', hc'⟩ : ∃ c', c.test drv l forced true = some c' :=
      (test_answered hc l forced).mpr fun _ => mt status_eq_testing.mp hl
    simp only [hc', Option.map_some, Option.isSome_some]

/-! ## One fan through the run -/

theorem testedFan_afterTest (w : Option TestResult) (r : TestResult) {f g : Fan}
    (h : g.uncontrolled = testedFan w f) : (g.afterTest r).uncontrolled = testedFan (some r) f := by
  have hagree := Fan.agree (fun g => (g.afterTest r).uncontrolled) (fun _ => rfl) h
  rw [hagree]
  cases w with
  | none => rfl
  | some w =>
    unfold testedFan Fan.afterTest Fan.uncontrolled FanKind.withDriverFlag
    cases f.kind <;> rfl

/-- The fan is as before, but for its control mode and the last result that was written to it. -/
def FanIs (c₀ : Controller) (w : Option TestResult) (c : Controller) (l : String) : Prop :=
  (c.fan? l).map Fan.uncontrolled = (c₀.fan? l).map (testedFan w)

/-- What is so of each fan: its test runs while its thread waits, and it has ended with a result if
the thread was answered and the test was wanted. -/
def Served (c₀ : Controller) (forced : Bool) (s : ClientRun) (l : String) : Prop :=
  match s.threads l with
  | .ready => ¬ s.controller.Tests l ∧ s.results l = none ∧ FanIs c₀ none s.controller l
  | .waiting => s.controller.Tests l ∧ s.results l = none ∧ wanted forced c₀ l = true ∧
      ∃ w, FanIs c₀ w s.controller l
  | .answered => ¬ s.controller.Tests l ∧ (s.results l).isSome = wanted forced c₀ l ∧
      FanIs c₀ (s.results l) s.controller l

theorem wanted_of_fanIs {c₀ : Controller} (h : FanIs c₀ none c l) :
    wanted forced c l = wanted forced c₀ l := by
  have hwanted : ∀ c : Controller, wanted forced c l =
      ((c.fan? l).map Fan.uncontrolled).any fun f => !f.ignore && (!f.tested || forced) := by
    intro c
    rw [Option.any_map]
    rfl
  rw [hwanted, hwanted, h]
  rfl

/-- A step that leaves the fan and its thread alone. -/
theorem Served.of_same {c₀ : Controller} {s s' : ClientRun} (h : Served c₀ forced s k)
    (hthread : s'.threads k = s.threads k) (hresult : s'.results k = s.results k)
    (hfan : (s'.controller.fan? k).map Fan.uncontrolled =
      (s.controller.fan? k).map Fan.uncontrolled)
    (htests : s'.controller.Tests k ↔ s.controller.Tests k) : Served c₀ forced s' k := by
  unfold Served FanIs at *
  rw [hthread, hresult, hfan, htests]
  exact h

structure Serving (c₀ : Controller) (forced : Bool) (s : ClientRun) : Prop where
  wellFormed : WellFormed s.controller
  settings : s.controller.settings = c₀.settings
  sensors : s.controller.devices.sensors = c₀.devices.sensors
  ready : ∀ l, s.threads l = .ready → l ∈ listed c₀
  served : ∀ l, Served c₀ forced s l

theorem serving_start (hc : WellFormed c) (huntested : Untested c) :
    Serving c forced (clientStart c) where
  wellFormed := hc
  settings := rfl
  sensors := rfl
  ready l hl := by
    by_contra hnot
    cases (if_neg hnot).symm.trans hl
  served l := by
    have huncontrolled : FanIs c none c l := rfl
    unfold Served clientStart
    by_cases hl : l ∈ listed c
    · simp only [hl, if_true]
      exact ⟨huntested l, trivial, huncontrolled⟩
    · have hnone : c.fan? l = none := Option.eq_none_iff_forall_ne_some.mpr fun f hf =>
        hl ((mem_listed hc.labelled).mpr ⟨f, hf⟩)
      simp only [hl, if_false, wanted, hnone, Option.any_none, Option.isSome_none]
      exact ⟨huntested l, trivial, huncontrolled⟩

/-- The thread of a fan under test waits. -/
theorem Serving.waiting {c₀ : Controller} {s : ClientRun} (hs : Serving c₀ forced s)
    (hl : s.controller.Tests l) :
    s.threads l = .waiting ∧ s.results l = none ∧ wanted forced c₀ l = true ∧
      ∃ w, FanIs c₀ w s.controller l := by
  have hserved := hs.served l
  unfold Served at hserved
  cases ht : s.threads l with
  | ready =>
    simp only [ht] at hserved
    exact absurd hl hserved.1
  | waiting =>
    simp only [ht] at hserved
    exact ⟨rfl, hserved.2⟩
  | answered =>
    simp only [ht] at hserved
    exact absurd hl hserved.1

theorem Serving.request {c₀ : Controller} {s s' : ClientRun} (hs : Serving c₀ forced s)
    (h : nextClient drv forced s (.request l) = some s') : Serving c₀ forced s' := by
  obtain ⟨hready, h⟩ := Option.ite_none_right_eq_some.mp h
  obtain ⟨⟨c, a⟩, htest, rfl⟩ := Option.map_eq_some_iff.mp h
  have hserved := hs.served l
  unfold Served at hserved
  simp only [hready] at hserved
  obtain ⟨huntested, hresult, hfan⟩ := hserved
  have hwf : WellFormed c := by
    have hstep : (test drv s.controller l forced).map Prod.fst =
        s.controller.test drv l forced true :=
      fst_onFan fun hnone => by rw [Controller.test, hnone]
    rw [htest] at hstep
    exact hs.wellFormed.test hstep.symm
  have hready' : ∀ k, Function.update s.threads l (.after a) k = .ready → k ∈ listed c₀ := by
    intro k hk
    by_cases hkl : k = l
    · exact hkl ▸ hs.ready l hready
    · rw [Function.update_of_ne hkl] at hk
      exact hs.ready k hk
  rcases test_step_cases hs.wellFormed.labelled huntested htest with
    ⟨hskip, rfl, hanswered⟩ | ⟨hgo, hwaiting, hsettings, hsensors, hfans, htests⟩
  · refine ⟨hwf, hs.settings, hs.sensors, hready', fun k => ?_⟩
    by_cases hk : k = l
    · subst hk
      unfold Served
      simp only [Function.update_self, hanswered]
      rw [hresult, ← wanted_of_fanIs hfan, hskip]
      exact ⟨huntested, rfl, hfan⟩
    · exact (hs.served k).of_same (Function.update_of_ne hk ..) rfl rfl Iff.rfl
  · refine ⟨hwf, hsettings.trans hs.settings, hsensors.trans hs.sensors, hready', fun k => ?_⟩
    by_cases hk : k = l
    · subst hk
      unfold Served
      simp only [Function.update_self, hwaiting]
      rw [← wanted_of_fanIs hfan]
      exact ⟨(htests k).mpr (Or.inr rfl), hresult, hgo, none, (hfans k).trans hfan⟩
    · refine (hs.served k).of_same (Function.update_of_ne hk ..) rfl (hfans k) ?_
      rw [htests, or_iff_left hk]

theorem Serving.testWrites {c₀ : Controller} {s s' : ClientRun} {r : TestResult}
    (hs : Serving c₀ forced s) (h : nextClient drv forced s (.testWrites l r) = some s') :
    Serving c₀ forced s' := by
  obtain ⟨c, hwrites, rfl⟩ := Option.map_eq_some_iff.mp h
  have hwf := hs.wellFormed.testWrites hwrites
  obtain ⟨f, htest, hf, rfl⟩ := testWrites_cases hwrites
  refine ⟨hwf, hs.settings, hs.sensors, hs.ready, fun k => ?_⟩
  by_cases hk : k = l
  · subst hk
    obtain ⟨hthread, hresult, hgo, w, hfan⟩ := hs.waiting htest
    unfold Served
    simp only [hthread]
    refine ⟨htest, hresult, hgo, some r, ?_⟩
    unfold FanIs at hfan ⊢
    rw [hf] at hfan
    obtain ⟨f₀, hf₀, hsame⟩ := Option.map_eq_some_iff.mp hfan.symm
    rw [fan?_setFan_self, hf₀]
    exact congrArg some (testedFan_afterTest w r hsame.symm)
  · refine (hs.served k).of_same rfl rfl ?_ Iff.rfl
    rw [fan?_setFan, if_neg hk]

theorem Serving.testComplete {c₀ : Controller} {s s' : ClientRun} {r : TestResult}
    (hs : Serving c₀ forced s) (h : nextClient drv forced s (.testComplete l r) = some s') :
    Serving c₀ forced s' := by
  obtain ⟨c, hcomplete, rfl⟩ := Option.map_eq_some_iff.mp h
  have hwf := hs.wellFormed.testComplete hcomplete
  obtain ⟨f, htest, hf, rfl⟩ := testComplete_cases hcomplete
  obtain ⟨hthread, -, hgo, w, hfan⟩ := hs.waiting htest
  have hcontrols := @controls_enable drv
    ((s.controller.setFan l (f.afterTest r)).setTasks (s.controller.tasks.erase l)) l
  refine ⟨hwf, hcontrols.settings.trans hs.settings, hcontrols.sensors.trans hs.sensors,
    fun k hk => ?_, fun k => ?_⟩
  · apply hs.ready k
    by_cases hkl : k = l
    · simp [hkl, hthread] at hk
    · simpa [hkl, hthread] using hk
  have htests : ∀ k, (((s.controller.setFan l (f.afterTest r)).setTasks
      (s.controller.tasks.erase l)).enable drv l).Tests k ↔ k ≠ l ∧ s.controller.Tests k := by
    intro k
    rw [hcontrols.tests, tests_iff, tasks_setTasks, SortedMap.find?_erase, tests_iff]
    split_ifs with hk <;> simp [hk]
  by_cases hk : k = l
  · subst hk
    unfold Served
    simp only [if_pos hthread, Function.update_self]
    refine ⟨fun hk => ((htests k).mp hk).1 rfl, hgo.symm, ?_⟩
    unfold FanIs at hfan ⊢
    rw [hf] at hfan
    obtain ⟨f₀, hf₀, hsame⟩ := Option.map_eq_some_iff.mp hfan.symm
    rw [hcontrols.fans, fan?_setTasks, fan?_setFan_self, hf₀]
    exact congrArg some (testedFan_afterTest w r hsame.symm)
  · refine (hs.served k).of_same ?_ (Function.update_of_ne hk ..) ?_ ?_
    · show (if _ then _ else s.threads) k = _
      rw [if_pos hthread, Function.update_of_ne hk]
    · rw [hcontrols.fans, fan?_setTasks, fan?_setFan, if_neg hk]
    · rw [htests, and_iff_right hk]

theorem Serving.answered {c₀ : Controller} {s : ClientRun} (hs : Serving c₀ forced s)
    (hc : Labelled c₀) (hall : ∀ l ∈ listed c₀, s.threads l = .answered) (l : String) :
    s.threads l = .answered := by
  by_cases hl : l ∈ listed c₀
  · exact hall l hl
  have hnone : c₀.fan? l = none := Option.eq_none_iff_forall_ne_some.mpr fun f hf =>
    hl ((mem_listed hc).mpr ⟨f, hf⟩)
  have hserved := hs.served l
  unfold Served at hserved
  cases ht : s.threads l with
  | ready => exact absurd (hs.ready l ht) hl
  | waiting =>
    simp only [ht, wanted, hnone, Option.any_none] at hserved
    exact absurd hserved.2.2.1 Bool.false_ne_true
  | answered => rfl

theorem serving_of_reachable {drivers : Driver → Prop} {s : ClientRun} (hc : WellFormed c)
    (huntested : Untested c)
    (h : Transition.Reachable (clientSystem drivers forced c) s) : Serving c forced s := by
  refine Transition.ReachableWhen.invariant (Serving c forced) ?_ ?_ h
  · rintro s rfl
    exact serving_start hc huntested
  · rintro s e s' hs - ⟨drv, -, hnext⟩
    cases e with
    | request l => exact hs.request hnext
    | testWrites l r => exact hs.testWrites hnext
    | testComplete l r => exact hs.testComplete hnext

/-! ## All of them -/

/-- **If no test is running when the client starts, then whatever the order in which requests are
taken and tests go on, every request can be taken, and one waits exactly while its fan is under
test. Once all are answered no fan is under test, each fan that was to be tested has what its own
test ended with, and all else is as it was, but for control modes.** -/
theorem tests_in_any_order (drivers drivers' : Driver → Prop)
    (parse : Text → Bool × ControllerMsg) (c : Controller)
    (hc : Transition.Reachable (system parse drivers) c) (huntested : Untested c) (forced : Bool)
    (s : ClientRun) (h : Transition.Reachable (clientSystem drivers' forced c) s) :
    (∀ drv l, s.threads l = .ready → (nextClient drv forced s (.request l)).isSome = true) ∧
    (∀ l, s.threads l = .waiting ↔ s.controller.status l = .testing) ∧
    ((∀ l ∈ listed c, s.threads l = .answered) →
      (∀ l, (s.results l).isSome = wanted forced c l) ∧
      (∀ l, (s.controller.fan? l).map Fan.uncontrolled =
        (c.fan? l).map (testedFan (s.results l))) ∧
      s.controller.settings = c.settings ∧ s.controller.devices.sensors = c.devices.sensors) := by
  have hwf := (sound_of_reachable hc).wellFormed
  have hs := serving_of_reachable hwf huntested h
  refine ⟨fun drv l hready => ?_, fun l => ?_, fun hall => ⟨fun l => ?_, fun l => ?_,
    hs.settings, hs.sensors⟩⟩
  · have hserved := hs.served l
    unfold Served at hserved
    simp only [hready] at hserved
    rw [nextClient, if_pos hready, Option.isSome_map]
    exact test_step_returns hs.wellFormed.labelled hserved.1
  · rw [status_eq_testing]
    constructor
    · intro hwaiting
      have hserved := hs.served l
      unfold Served at hserved
      simp only [hwaiting] at hserved
      exact hserved.1
    · exact fun hl => (hs.waiting hl).1
  · have hserved := hs.served l
    unfold Served at hserved
    simp only [hs.answered hwf.labelled hall l] at hserved
    exact hserved.2.1
  · have hserved := hs.served l
    unfold Served at hserved
    simp only [hs.answered hwf.labelled hall l] at hserved
    exact hserved.2.2

/-! ## Two fans -/

def pairDevices : DevicesMsg where
  fan := [Controller.caseMsg "40: 800",
    { Controller.caseMsg "40: 800" with
      label := "rear", pwmPath := "/sys/pwm2", rpmPath := "/sys/fan2_input"
      enablePath := "/sys/pwm2_enable" }]
  sensor := [coldSensor.save]

def pairController : Controller :=
  ({ devices := Devices.load readyEnv pairDevices } : Controller).enableAll willingDriver

theorem pair_reachable (parse : Text → Bool × ControllerMsg) :
    Transition.Reachable (system parse fun _ => True) pairController :=
  .step (.init ⟨willingDriver, readyEnv, {}, none, trivial, reload_start willingDriver parse⟩)
    trivial (a := .request (.setDevices readyEnv pairDevices))
    ⟨willingDriver, ⟨fun _ => 0, fun _ => 0⟩, trivial, rfl⟩

def pairResult (startPwm : Pwm) : TestResult where
  rpmToPwm := RpmToPwm.read .empty "900: 120".toList
  startPwm := startPwm
  driverFlag := 1
  enabled := true

/-- Both tests run at once, and the one that starts last ends first. -/
def pairSteps : List ClientStep := [.request "rear", .testWrites "rear" (pairResult 0),
  .request "case", .testComplete "case" (pairResult 50), .testComplete "rear" (pairResult 60)]

theorem tests_in_any_order_pair : ∃ s : ClientRun,
    (∀ l ∈ listed pairController, s.threads l = .answered) ∧
    (s.controller.fan? "case").map Fan.uncontrolled =
      (pairController.fan? "case").map (testedFan (some (pairResult 50))) ∧
    (s.controller.fan? "rear").map Fan.uncontrolled =
      (pairController.fan? "rear").map (testedFan (some (pairResult 60))) := by
  have hrun : ((Transition.run (nextClient willingDriver true) (fun _ _ => true)
      (clientStart pairController) pairSteps).map fun s =>
        decide ((∀ l ∈ listed pairController, s.threads l = .answered) ∧
          s.results "case" = some (pairResult 50) ∧ s.results "rear" = some (pairResult 60))) =
      some true := by decide +kernel
  obtain ⟨s, hs, hp⟩ := Option.map_eq_some_iff.mp hrun
  obtain ⟨hall, hcase, hrear⟩ := of_decide_eq_true hp
  have hreach : Transition.Reachable (clientSystem (fun _ => True) true pairController) s :=
    Transition.run_reachableWhen (S := clientSystem (fun _ => True) true pairController)
      (fun _ _ _ hnext => ⟨willingDriver, trivial, hnext⟩) (fun _ _ _ => trivial) (.init rfl) hs
  obtain ⟨-, hfans, -⟩ := (tests_in_any_order _ _ (fun _ => (true, {})) pairController
    (pair_reachable _) (untested_of_keys (by decide +kernel)) true s hreach).2.2 hall
  refine ⟨s, hall, ?_, ?_⟩
  · rw [hfans, hcase]
  · rw [hfans, hrear]

end Service

end Fancon
