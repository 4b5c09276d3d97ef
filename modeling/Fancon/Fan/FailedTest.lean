import Fancon.Fan.Writes

/-! # What a test that fails leaves

`Fan::test` reads the PWM of the fan, takes control and writes 0, or 255 to a fan that is at 0, to
see whether it is read back. If it is not, the test fails: nothing that was measured before is
replaced, but the fan is left at the PWM that was tried (`failed_test_harmless_iff`).
-/
set_option autoImplicit false
set_option maxHeartbeats 250000
set_option maxRecDepth 120000

namespace Fancon

/-! ## `Fan::test` -/

/-- What a test may set, and the curve. -/
structure TestFields where
  rpmToPwm : RpmToPwm
  startPwm : Pwm
  tempToRpm : TempToRpm

structure TestEnd (σ : Type) where
  success : Bool
  fields : TestFields
  device : σ

/-- `Fan::test`; once control has been taken `calibrate` measures, which may not end. -/
def FanDevice.test {σ : Type} (dev : FanDevice σ)
    (calibrate : Pwm → TestFields → σ → Option (TestFields × σ)) (fields : TestFields) (s : σ) :
    Option (TestEnd σ) :=
  let pre := dev.getPwm s
  let taken := dev.takeControl pre.2
  if !taken.1 then some ⟨false, fields, (dev.disableControl taken.2).2⟩
  else (calibrate pre.1 fields taken.2).map fun r => ⟨true, r.1, r.2⟩

/-- The four phases, and the PWM from before written again. -/
def Calibrator.calibrate {σ : Type} (C : Calibrator σ) (turns : ℕ) (prePwm : Pwm)
    (fields : TestFields) (s : σ) : Option (TestFields × σ) :=
  (C.testStopped .empty s).result.bind fun r =>
  (C.testStart turns r.1 r.2).result.bind fun r =>
  let startPwm := r.1
  (C.testRunningMin turns startPwm r.2.1 r.2.2).result.bind fun r =>
  (C.testMapping turns startPwm r.1 r.2).result.map fun r =>
  (⟨.ofMeasured r.1, startPwm, fields.tempToRpm⟩, (C.setPwm prePwm r.2).2)

/-- The test of `Fan.Calibration`, less its commands. -/
theorem Calibrator.test_result {σ : Type} (C : Calibrator σ) (turns : ℕ) (fields : TestFields)
    (s : σ) : (C.test turns fields.startPwm fields.rpmToPwm s).result =
      (C.toFanDevice.test (C.calibrate turns) fields s).map fun e =>
        ⟨e.success, e.fields.startPwm, e.fields.rpmToPwm, e.device⟩ := by
  unfold test FanDevice.test calibrate
  dsimp only
  split_ifs
  · rfl
  · simp only [result_andThen, Option.map_eq_bind, Function.comp_def, Option.bind_assoc,
      Option.bind_some]

/-! ## The PWM that is tried -/

/-- 0, or 255 for a fan that is at 0. -/
def probePwm (pwm : Pwm) : Pwm := if pwm ≠ PWM_MIN then PWM_MIN else PWM_MAX

theorem FanDevice.readsBack_eq {σ : Type} (dev : FanDevice σ) (target : Pwm) (n : ℕ) (s : σ) :
    dev.readsBack target n s =
      Retry.run (fun s => (decide ((dev.getPwm s).1 = target), (dev.getPwm s).2)) n s := by
  induction n generalizing s with
  | zero => rfl
  | succ n ih =>
    unfold readsBack Retry.run
    simp only [decide_eq_true_eq, ih]

namespace Hardware

variable {σ : Type} (hw : Hardware σ)

/-- One read, and whether it gives the PWM. -/
def reads (pwm : Pwm) (s : σ) : Bool × σ :=
  let p := hw.getPwm s
  (decide (p.1 = pwm), p.2)

/-- What `set_pwm_test` writes. -/
def probeValue (kind : FanKind) (s : σ) : U32 := kind.pwmValue (probePwm (hw.getPwm s).1)

/-- Whether it is taken. -/
def probe (kind : FanKind) (s : σ) : Bool × σ :=
  hw.writePwm (hw.probeValue kind s) (hw.getPwm s).2

/-- The PWM that is tried is taken, is not read back in ten reads and is another one than that from
before. -/
def ProbeLeft (kind : FanKind) (s : σ) : Prop :=
  let pre := hw.getPwm s
  let e := hw.enableControl pre.2
  let w := hw.probe kind e.2
  e.1 = true ∧ w.1 = true ∧ Retry.AllFail (hw.reads (probePwm (hw.getPwm e.2).1)) 10 w.2 ∧
    hw.probeValue kind e.2 ≠ kind.pwmValue pre.1

/-- A test that fails keeps what was measured, and what it last wrote, if anything, is the PWM from
before. -/
def FailsHarmlessly (kind : FanKind)
    (calibrate : Pwm → TestFields → Written σ → Option (TestFields × Written σ))
    (fields : TestFields) (s : σ) : Prop :=
  ∀ e, (hw.fan kind).test calibrate fields ⟨s, none⟩ = some e → e.success = false →
    e.fields = fields ∧
      (e.device.last = none ∨ e.device.last = some (kind.pwmValue (hw.getPwm s).1))

theorem setPwmTest_eq (kind : FanKind) (w : Written σ) : (hw.fan kind).setPwmTest w =
    let r := hw.setValue (hw.probeValue kind w.device) (ask hw.getPwm w).2
    if !r.1 then (false, r.2)
    else Retry.run (ask (hw.reads (probePwm (hw.getPwm w.device).1))) 10 r.2 := by
  rw [probeValue, ← hw.setPwm_eq]
  unfold FanDevice.setPwmTest
  simp only [FanDevice.readsBack_eq]
  rfl

theorem last_setPwmTest (kind : FanKind) (w : Written σ) :
    ((hw.fan kind).setPwmTest w).2.last =
      if (hw.probe kind w.device).1 then some (hw.probeValue kind w.device) else w.last := by
  have hlast : (hw.setValue (hw.probeValue kind w.device) (ask hw.getPwm w).2).2.last =
      if (hw.probe kind w.device).1 then some (hw.probeValue kind w.device) else w.last :=
    hw.last_setValue _ _
  rw [hw.setPwmTest_eq, ← hlast]
  dsimp only
  split_ifs
  · rfl
  · exact last_ask_run _ 10 _

/-- A PWM that is taken is then only read. -/
theorem setPwmTest_of_taken {kind : FanKind} {w : Written σ}
    (h : (hw.probe kind w.device).1 = true) : ((hw.fan kind).setPwmTest w).1 = false ↔
      Retry.AllFail (hw.reads (probePwm (hw.getPwm w.device).1)) 10
        (hw.probe kind w.device).2 := by
  have hset : hw.setValue (hw.probeValue kind w.device) (ask hw.getPwm w).2 =
      (true, ⟨(hw.probe kind w.device).2, some (hw.probeValue kind w.device)⟩) :=
    hw.setValue_of_written h
  rw [hw.setPwmTest_eq, hset]
  exact Retry.run_eq_false_iff.trans allFail_ask

theorem takeControl_of_refused {kind : FanKind} {w : Written σ}
    (h : (hw.enableControl w.device).1 = false) :
    (hw.fan kind).takeControl w = (false, (ask hw.enableControl w).2) := by
  have hrefused : (!((hw.fan kind).enableControl w).1) = true := congrArg not h
  exact if_pos hrefused

theorem takeControl_of_given {kind : FanKind} {w : Written σ}
    (h : (hw.enableControl w.device).1 = true) :
    (hw.fan kind).takeControl w = (hw.fan kind).setPwmTest (ask hw.enableControl w).2 := by
  have hgiven : (!((hw.fan kind).enableControl w).1) = false := congrArg not h
  exact if_neg (Bool.eq_false_iff.mp hgiven)

/-! ## The whole test -/

/-- A test fails as it could not take control, and only hands it back. -/
theorem test_eq_fail {kind : FanKind}
    {calibrate : Pwm → TestFields → Written σ → Option (TestFields × Written σ)}
    {fields : TestFields} {w : Written σ} {e : TestEnd (Written σ)}
    (h : (hw.fan kind).test calibrate fields w = some e) (hfails : e.success = false) :
    ((hw.fan kind).takeControl (ask hw.getPwm w).2).1 = false ∧ e.fields = fields ∧
      e.device.last = ((hw.fan kind).takeControl (ask hw.getPwm w).2).2.last := by
  unfold FanDevice.test at h
  dsimp only at h
  split_ifs at h with htaken
  · obtain rfl := Option.some.inj h
    rw [Bool.not_eq_true'] at htaken
    exact ⟨htaken, rfl, rfl⟩
  · obtain ⟨r, -, rfl⟩ := Option.map_eq_some_iff.mp h
    cases hfails

theorem test_eq_some {kind : FanKind} {w : Written σ}
    (calibrate : Pwm → TestFields → Written σ → Option (TestFields × Written σ))
    (fields : TestFields) (h : ((hw.fan kind).takeControl (ask hw.getPwm w).2).1 = false) :
    ∃ e, (hw.fan kind).test calibrate fields w = some e ∧ e.success = false ∧
      e.device.last = ((hw.fan kind).takeControl (ask hw.getPwm w).2).2.last := by
  have hnot : (!((hw.fan kind).takeControl (ask hw.getPwm w).2).1) = true := congrArg not h
  exact ⟨_, if_pos hnot, rfl, rfl⟩

/-- **A test that fails leaves the fan as it was exactly if the PWM that it tries is not left.** -/
theorem failed_test_harmless_iff (kind : FanKind)
    (calibrate : Pwm → TestFields → Written σ → Option (TestFields × Written σ))
    (fields : TestFields) (s : σ) :
    hw.FailsHarmlessly kind calibrate fields s ↔ ¬ hw.ProbeLeft kind s := by
  let w : Written σ := (ask hw.getPwm ⟨s, none⟩).2
  constructor
  · rintro h ⟨hgiven, htaken, hreads, hne⟩
    have htake : (hw.fan kind).takeControl w = _ := hw.takeControl_of_given hgiven
    have hfailed := (congrArg Prod.fst htake).trans ((hw.setPwmTest_of_taken htaken).mpr hreads)
    obtain ⟨t, ht, hfails, hlast⟩ := hw.test_eq_some calibrate fields hfailed
    have hprobe := (hw.last_setPwmTest kind (ask hw.enableControl w).2).trans (if_pos htaken)
    rw [htake, hprobe] at hlast
    rcases (h t ht hfails).2 with hnone | hsame
    · exact Option.some_ne_none _ (hlast.symm.trans hnone)
    · exact hne (Option.some.inj (hlast.symm.trans hsame))
  · intro hnot t ht hfails
    obtain ⟨htake, hfields, hlast⟩ := hw.test_eq_fail ht hfails
    refine ⟨hfields, ?_⟩
    rw [hlast]
    cases hgiven : (hw.enableControl w.device).1 with
    | false =>
      rw [hw.takeControl_of_refused hgiven]
      exact Or.inl rfl
    | true =>
      rw [hw.takeControl_of_given hgiven] at htake ⊢
      rw [hw.last_setPwmTest]
      split_ifs with htaken
      · refine Or.inr (by_contra fun hne => hnot ⟨hgiven, htaken, ?_, fun h => hne ?_⟩)
        · exact (hw.setPwmTest_of_taken htaken).mp htake
        · exact congrArg some h
      · exact Or.inl rfl

end Hardware

/-! ## A fan that the firmware keeps -/

/-- Every PWM is taken, and the firmware goes on with its own. -/
def firmwareKept : Hardware Unit where
  enableControl s := (true, s)
  disableControl s := (true, s)
  writePwm _ s := (true, s)
  getPwm s := (100, s)
  getRpm s := (1000, s)

/-- The fan was last told to stop, and has no enable file to be handed back with. -/
theorem stopped_by_failed_test : ¬ ∀ (σ : Type) (hw : Hardware σ) (kind : FanKind)
    (calibrate : Pwm → TestFields → Written σ → Option (TestFields × Written σ))
    (fields : TestFields) (s : σ), hw.FailsHarmlessly kind calibrate fields s := by
  intro h
  have hlast := h Unit firmwareKept (.sysfs ⟨"pwm1", "fan1_input", "", 0⟩) (fun _ _ _ => none)
    ⟨.empty, 0, .empty⟩ () ⟨false, ⟨.empty, 0, .empty⟩, ⟨(), some 0⟩⟩ rfl rfl
  exact absurd hlast.2 (by decide)

end Fancon
