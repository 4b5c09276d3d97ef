import Fancon.Controller.ManualControl
import Fancon.Controller.Tasks
import Fancon.Fan.Iterators
import Fancon.Fan.Measured

/-! # The fans that the control loop updates

`is_configured` does not look at `rpm_to_pwm`. A fan with an empty one never has a curve: loading
reads no curve for it, and a test that succeeds leaves at least the point of `test_stopped`. So
every fan that a task updates has its sensor and both its maps (`updates_safely`).
-/
set_option autoImplicit false
set_option maxHeartbeats 250000
set_option maxRecDepth 120000

namespace Fancon

/-! ## The results of a test -/

namespace Calibrator

variable {σ : Type} (C : Calibrator σ)

theorem mappingLoop_ne_nil : ∀ {turns : ℕ} {target : Pwm} {pwmToRpm : PwmToRpm} {s : σ}
    {r : PwmToRpm × σ}, pwmToRpm.entries ≠ [] →
    (C.mappingLoop turns target pwmToRpm s).result = some r → r.1.entries ≠ []
  | 0, _, _, _, _, _, h => nomatch h
  | n + 1, target, pwmToRpm, s, r, hne, h => by
      by_cases htarget : target ≤ PWM_MAX
      · rw [mappingLoop, if_pos htarget] at h
        refine mappingLoop_ne_nil ?_ h
        cases (C.stabilise target s).1 with
        | none => exact hne
        | some rpm => exact pwmToRpm.insert_ne_nil target rpm
      · rw [mappingLoop, if_neg htarget] at h
        obtain rfl := Option.some.inj h
        exact hne

/-- A test leaves `rpm_to_pwm` as it was or with a point. -/
theorem test_rpmToPwm {turns : ℕ} {startPwm : Pwm} {rpmToPwm : RpmToPwm} {s : σ}
    {o : TestOutcome σ} (h : (C.test turns startPwm rpmToPwm s).result = some o) :
    o.rpmToPwm = rpmToPwm ∨ o.rpmToPwm.entries ≠ [] := by
  cases htaken : (C.takeControl (C.getPwm s).2).1 with
  | false =>
    simp only [test, htaken, Bool.not_false, if_true] at h
    obtain rfl := Option.some.inj h
    exact Or.inl rfl
  | true =>
    simp only [test, htaken, Bool.not_true, Bool.false_eq_true, if_false, result_andThen] at h
    obtain ⟨r, -, h⟩ := Option.bind_eq_some_iff.mp h
    obtain ⟨r₁, hstart, h⟩ := Option.bind_eq_some_iff.mp h
    obtain ⟨r₂, hmin, h⟩ := Option.bind_eq_some_iff.mp h
    obtain ⟨r₃, hmapping, h⟩ := Option.bind_eq_some_iff.mp h
    have ho : o.rpmToPwm = .ofMeasured r₃.1 := by
      obtain rfl : (⟨true, r₁.1, .ofMeasured r₃.1, _⟩ : TestOutcome σ) = o := Option.some.inj h
      rfl
    obtain ⟨t, -, rfl⟩ := Option.map_eq_some_iff.mp hstart
    obtain ⟨t', -, rfl⟩ := Option.map_eq_some_iff.mp hmin
    rw [ho]
    refine Or.inr (RpmToPwm.ofMeasured_ne_nil (C.mappingLoop_ne_nil ?_ hmapping))
    exact SortedMap.foldl_insert_ne_nil (SortedMap.insert_ne_nil _ _ _) _

end Calibrator

/-- The result is one of `Fan::test` on some device; the mode it leaves the device in may be any. -/
def TestGives (f : Fan) (r : TestResult) : Prop :=
  ∃ (σ : Type) (C : Calibrator σ) (turns : ℕ) (s : σ) (o : TestOutcome σ),
    (C.test turns f.startPwm f.rpmToPwm s).result = some o ∧ r.rpmToPwm = o.rpmToPwm ∧
    r.startPwm = o.startPwm

theorem TestGives.rpmToPwm {f : Fan} {r : TestResult} (h : TestGives f r) :
    r.rpmToPwm = f.rpmToPwm ∨ r.rpmToPwm.entries ≠ [] := by
  obtain ⟨σ, C, turns, s, o, ho, hmap, -⟩ := h
  rw [hmap]
  exact C.test_rpmToPwm ho

namespace Controller

/-! ## What holds of every fan -/

def AllFans (P : Fan → Prop) (c : Controller) : Prop := ∀ l f, c.fan? l = some f → P f

/-- What every fan that is found or loaded has, and keeps whatever its control mode. -/
structure Lasting (P : Fan → Prop) : Prop where
  uncontrolled : ∀ {f g : Fan}, g.uncontrolled = f.uncontrolled → P f → P g
  found : ∀ f : FoundFan, P f.fan
  built : ∀ {env sensors msg f}, FanMsg.build env sensors msg = some f → P f

variable {drv : Driver} {parse : Text → Bool × ControllerMsg} {c c' : Controller} {P : Fan → Prop}

/-- What a fan keeps whatever its control mode. -/
def Steady (P : Fan → Prop) : Prop := ∀ f g : Fan, g.uncontrolled = f.uncontrolled → P f → P g

theorem Lasting.steady (hP : Lasting P) : Steady P := fun _ _ => hP.uncontrolled

theorem Steady.controls (hP : Steady P) (h : AllFans P c) (hcontrols : Controls c c') :
    AllFans P c' := by
  intro l g hg
  obtain ⟨f, hf, hfg⟩ := hcontrols.fan?_back hg
  exact hP f g hfg.symm (h l f hf)

theorem Lasting.enumerate (hP : Lasting P) (found : Found) {l : String} {f : Fan}
    (h : (Devices.enumerate found).fans.find? l = some f) : P f := by
  obtain ⟨x, -, -, rfl⟩ := Devices.find?_enumerate h
  exact hP.found x

theorem Lasting.load (hP : Lasting P) (env : Env) (d : DevicesMsg) {l : String} {f : Fan}
    (h : (Devices.load env d).fans.find? l = some f) : P f := by
  obtain ⟨-, -, -, m, -, hm⟩ := find?_loadFans h
  exact hP.built hm

theorem Steady.mergeFan (hP : Steady P) {s s' : MergeState} (h : AllFans P s.1)
    {replaceOnMatch deepCmp : Bool} {e : Sigma fun _ : String => Fan} (he : P e.2)
    (hturn : mergeFan drv replaceOnMatch deepCmp s e = some s') : AllFans P s'.1 := by
  rcases mergeFan_cases hturn with rfl | rfl | ⟨old, x, -, -, -, -, hmatch⟩
  · intro l f hf
    rcases fan?_addFan hf with ⟨-, rfl⟩ | hf
    · exact he
    · exact h l f hf
  · exact h
  · obtain ⟨d, hbefore, hafter⟩ := onMatchFan_controls hmatch
    have hd := hP.controls h hbefore
    refine hP.controls (fun l f hf => ?_) hafter
    rcases fan?_reInsertFan hf with ⟨-, rfl⟩ | ⟨-, hf⟩
    · exact he
    · exact hd l f hf

theorem Steady.merge (hP : Steady P) (h : AllFans P c) {d : Devices}
    (hd : ∀ l f, d.fans.find? l = some f → P f) {replaceOnMatch deepCmp : Bool}
    (hmerge : c.merge drv d replaceOnMatch deepCmp = some c') : AllFans P c' :=
  merge_keeps (fun _ _ e he ht hstep => hP.mergeFan ht (hd e.1 e.2 he) hstep) (fun _ ht => ht)
    (fun t ht => hP.controls ht (controls_enableDellFans none t)) (fun _ _ ht => ht) h hmerge

theorem Lasting.perform (hP : Lasting P) (h : AllFans P c) {op : Operation}
    (htest : ∀ l r, op = .testWrites l r ∨ op = .testComplete l r → ∀ f, c.fan? l = some f →
      P (f.afterTest r))
    (hop : c.perform drv parse op = some c') : AllFans P c' := by
  have hsteady := hP.steady
  cases op with
  | enable l => exact Option.some.inj hop ▸ hsteady.controls h (controls_enable c l)
  | enableAll => exact Option.some.inj hop ▸ hsteady.controls h (controls_enableAll c)
  | disable l => exact hsteady.controls h (controls_disable hop)
  | disableAll => exact hsteady.controls h (controls_disableAll hop)
  | test l forced blocking =>
    rcases test_cases hop with rfl | ⟨f, d, -, -, -, hd, rfl⟩
    · exact h
    · have hd' : AllFans P d := hsteady.controls h (controls_eraseTask hd)
      exact hd'
  | testWrites l r =>
    obtain ⟨f, -, hf, rfl⟩ := testWrites_cases hop
    intro k g hg
    rw [fan?_setFan] at hg
    split_ifs at hg
    · exact Option.some.inj hg ▸ htest l r (.inl rfl) f hf
    · exact h k g hg
  | testComplete l r =>
    obtain ⟨f, -, hf, rfl⟩ := testComplete_cases hop
    refine hsteady.controls (fun k g hg => ?_) (controls_enable _ l)
    rw [fan?_setTasks, fan?_setFan] at hg
    split_ifs at hg
    · exact Option.some.inj hg ▸ htest l r (.inr rfl) f hf
    · exact h k g hg
  | reload env found file =>
    obtain ⟨c₁, h₁, hrest⟩ := reload_parts hop
    have hc₁ := hsteady.merge h (fun l f => hP.enumerate found) h₁
    rcases hrest with ⟨-, rfl, -⟩ | ⟨msg, -, h₂, -⟩
    · exact hc₁
    · have hload : AllFans P { c₁ with settings := c₁.settings.load msg.config } := hc₁
      exact hsteady.merge hload (fun l f => hP.load env msg.devices) h₂
  | setDevices env d =>
    obtain ⟨c₁, -, rfl⟩ := Option.map_eq_some_iff.mp hop
    have hload : AllFans P { c₁ with devices := Devices.load env d } :=
      fun l f => hP.load env d
    exact hsteady.controls hload (controls_enableAll _)
  | recover => exact Option.some.inj hop ▸ hsteady.controls h (controls_recover c)

/-! ## Fans with a curve -/

/-- A fan with a curve has a calibration. -/
def Calibrated (f : Fan) : Prop := f.tempToRpm.entries ≠ [] → f.rpmToPwm.entries ≠ []

theorem TempToRpm.read_of_empty (stray : Pwm → Rpm) {m : RpmToPwm} (h : m.entries = [])
    (curve : TempToRpm) (src : Text) : TempToRpm.read stray m curve src = curve := by
  simp [TempToRpm.read, h]

theorem calibrated_lasting : Lasting Calibrated where
  uncontrolled {f g} h hf := by
    have hcurve : g.tempToRpm = f.tempToRpm := Fan.agree Fan.tempToRpm (fun _ => rfl) h
    have hmap : g.rpmToPwm = f.rpmToPwm := Fan.agree Fan.rpmToPwm (fun _ => rfl) h
    rw [Calibrated, hcurve, hmap]
    exact hf
  found _ h := absurd rfl h
  built {env sensors msg f} h := by
    obtain ⟨kind, -, rfl⟩ := Option.map_eq_some_iff.mp h
    intro hcurve hmap
    have hmap' : (RpmToPwm.read .empty msg.rpmToPwm).entries = [] := hmap
    apply hcurve
    show (TempToRpm.read env.stray (RpmToPwm.read .empty msg.rpmToPwm) .empty
      msg.tempToRpm).entries = []
    rw [TempToRpm.read_of_empty env.stray hmap']
    rfl

theorem Calibrated.afterTest {f : Fan} (h : Calibrated f) {r : TestResult}
    (hr : r.rpmToPwm = f.rpmToPwm ∨ r.rpmToPwm.entries ≠ []) : Calibrated (f.afterTest r) := by
  intro hcurve
  show r.rpmToPwm.entries ≠ []
  rcases hr with heq | hne
  · rw [heq]
    exact h hcurve
  · exact hne

/-! ## Every run -/

/-- While a test runs its fan has the calibration from before or the new one. -/
def TestWritesPoints (f : Fan) (r : TestResult) : Prop :=
  r.rpmToPwm = f.rpmToPwm ∨ ∃ m : PwmToRpm, m.entries ≠ [] ∧ r.rpmToPwm = .ofMeasured m

theorem TestWritesPoints.rpmToPwm {f : Fan} {r : TestResult} (h : TestWritesPoints f r) :
    r.rpmToPwm = f.rpmToPwm ∨ r.rpmToPwm.entries ≠ [] := by
  rcases h with heq | ⟨m, hm, heq⟩
  · exact Or.inl heq
  · exact Or.inr (heq ▸ RpmToPwm.ofMeasured_ne_nil hm)

/-- The runs in which a test writes what `Fan::test` does, and ends with a result of it. -/
def testingSystem (parse : Text → Bool × ControllerMsg) (drivers : Driver → Prop) :
    Transition.System Controller Operation where
  init := (system parse drivers).init
  step c op c' := (system parse drivers).step c op c' ∧
    (∀ l r, op = .testWrites l r → ∀ f, c.fan? l = some f → TestWritesPoints f r) ∧
    ∀ l r, op = .testComplete l r → ∀ f, c.fan? l = some f → TestGives f r

/-- Every task that runs `update` is that of a fan with a sensor, a curve and a calibration, and
whatever it reads, in whatever state of its smoothing, it dereferences only elements of its maps. -/
def UpdatesSafely (c : Controller) : Prop :=
  ∀ l, c.testing? l = some false → ∃ f, c.fan? l = some f ∧ f.sensor.isSome = true ∧
    f.tempToRpm.entries ≠ [] ∧ f.rpmToPwm.entries ≠ [] ∧
    ∀ (cfg : Settings) (fresh : Bool) (read : Option Temp) (getRpm : Rpm) (smoothing : Smoothing)
      (h : TempHistory),
      ({ f with smoothing := smoothing } : Fan).updateAt cfg fresh read getRpm h ≠
        .error .outside

theorem of_isConfigured {f : Fan} (h : f.isConfigured = true) :
    f.sensor.isSome = true ∧ f.tempToRpm.entries ≠ [] := by
  unfold Fan.isConfigured at h
  simp only [Bool.not_eq_true', Bool.or_eq_false_iff, List.isEmpty_eq_false_iff,
    Option.isNone_eq_false_iff] at h
  exact ⟨h.1.2, h.1.1⟩

/-- **In every state of every run the control loop looks only into maps that are not empty.** -/
theorem updates_safely (parse : Text → Bool × ControllerMsg) (drivers : Driver → Prop)
    (c : Controller) (hc : Transition.Reachable (testingSystem parse drivers) c) :
    UpdatesSafely c := by
  obtain ⟨-, htended, hcalibrated⟩ : WellFormed c ∧ Tended c ∧ AllFans Calibrated c := by
    refine Transition.ReachableWhen.invariant
      (fun c => WellFormed c ∧ Tended c ∧ AllFans Calibrated c) ?_ ?_ hc
    · rintro _ rfl
      refine ⟨wellFormed_start, fun l hl => ?_, fun l f hf => ?_⟩
      · cases hl
      · cases hf
    · rintro c op c' ⟨hwf, ht, hfans⟩ - ⟨⟨drv, -, hstep⟩, hwrites, hends⟩
      refine ⟨hwf.perform hstep, ht.perform hwf hstep,
        calibrated_lasting.perform hfans (fun l r hop f hf => (hfans l f hf).afterTest ?_) hstep⟩
      rcases hop with hop | hop
      · exact (hwrites l r hop f hf).rpmToPwm
      · exact (hends l r hop f hf).rpmToPwm
  intro l hl
  obtain ⟨f, hf, -, hconf⟩ := htended l hl
  obtain ⟨hsensor, hcurve⟩ := of_isConfigured hconf
  have hmap := hcalibrated l f hf hcurve
  refine ⟨f, hf, hsensor, hcurve, hmap, fun cfg fresh read getRpm smoothing h => ?_⟩
  exact Fan.updateAt_ne_outside (f := { f with smoothing := smoothing }) hsensor hcurve hmap cfg
    fresh read getRpm h

/-! ## A run that enables a fan -/

theorem case_reachable_testing (parse : Text → Bool × ControllerMsg) (curve : String) :
    Transition.Reachable (testingSystem parse fun _ => True) (caseController curve) := by
  refine .step (a := .setDevices readyEnv (caseDevices curve)) (.init rfl) trivial
    ⟨⟨willingDriver, trivial, setDevices_case curve⟩, ?_, ?_⟩
  · intro l r h
    cases h
  · intro l r h
    cases h

theorem updates_safely_case : UpdatesSafely (caseController "40: 800") :=
  updates_safely (fun _ => (false, {})) (fun _ => True) (caseController "40: 800")
    (case_reachable_testing (fun _ => (false, {})) "40: 800")

end Controller

end Fancon
