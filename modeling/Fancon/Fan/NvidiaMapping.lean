import Fancon.Fan.Stabilised
import Fancon.Fan.Writes

/-! # Mapping an NVIDIA fan

The NVIDIA driver takes and reports percentages. `set_stabilised_pwm` asks for the PWM it set to be
read back, and the way from a PWM to a percentage and back truncates twice: only multiples of 51
survive it. `test_mapping` goes up by twos to 254 and then to 255, so a point is lost for nearly
every PWM it visits (`mapping_recorded_iff`).
-/
set_option autoImplicit false
set_option maxHeartbeats 250000
set_option maxRecDepth 120000

namespace Fancon

/-! ## The driver -/

/-- What an NVIDIA fan asks its driver. -/
structure NvDriver (σ : Type) where
  writePercent : Percent → σ → Bool × σ
  readPercent : σ → Option Percent × σ
  readRpm : σ → Option Rpm × σ
  writeEnable : Bool → σ → Bool × σ
  /-- What an undefined conversion of a percentage reads. -/
  stray : Percent → Pwm

/-- `FanNV::percent_to_pwm`. -/
def percentToPwm (stray : Percent → Pwm) (percent : Percent) : Pwm :=
  (U32.ofInt? (percent.val * 255 / 100 : ℕ)).getD (stray percent)

/-- The PWM that is read back once `pwm` has been written. -/
def readBack (stray : Percent → Pwm) (pwm : Pwm) : Pwm := percentToPwm stray (pwmToPercent pwm)

theorem readBack_eq_iff (stray : Percent → Pwm) {pwm : Pwm} (h : pwm ≤ PWM_MAX) :
    readBack stray pwm = pwm ↔ 51 ∣ pwm.val := by
  have hle : pwm.val ≤ 255 := h
  have hfit := U32.ofInt?_eq_some (z := ((pwm.val * 100 / 255 * 255 / 100 : ℕ) : ℤ))
    (by omega) (by omega)
  rw [readBack, percentToPwm, pwmToPercent, hfit, Option.getD_some, Fin.ext_iff]
  show ((pwm.val * 100 / 255 * 255 / 100 : ℕ) : ℤ).toNat = pwm.val ↔ _
  omega

/-- What a `FanNV` finds under it. -/
def NvDriver.hardware {σ : Type} (drv : NvDriver σ) : Hardware σ where
  enableControl := drv.writeEnable true
  disableControl := drv.writeEnable false
  writePwm := drv.writePercent
  getPwm s :=
    let r := drv.readPercent s
    (percentToPwm drv.stray (r.1.getD 0), r.2)
  getRpm s :=
    let r := drv.readRpm s
    (r.1.getD 0, r.2)

/-- A driver that takes every percentage, reports the last one written, and whose RPM comes to rest
when the two are only read. -/
structure SteadyDriver (σ : Type) extends NvDriver σ where
  last : σ → Percent
  accepts : ∀ percent s, (writePercent percent s).1 = true ∧
    last (writePercent percent s).2 = percent
  reports : ∀ s, (readPercent s).1 = some (last s) ∧ last (readPercent s).2 = last s
  readRpm_last : ∀ s, last (readRpm s).2 = last s
  settles : ∀ s, ∃ rpm N, ∀ n, N ≤ n →
    (readRpm (readPercent ((fun t => (readRpm (readPercent t).2).2)^[n] s)).2).1 = rpm

namespace SteadyDriver

variable {σ : Type} (drv : SteadyDriver σ)

/-- The fan over the driver. -/
def fan (id : U32) : FanDevice (Written σ) := drv.hardware.fan (.nvidia id)

/-! ## A stabilised PWM -/

/-- The state of the driver after one turn of `set_stabilised_pwm`. -/
def poll (s : σ) : σ := (drv.readRpm (drv.readPercent s).2).2

theorem last_poll (s : σ) : drv.last (drv.poll s) = drv.last s :=
  (drv.readRpm_last _).trans (drv.reports s).2

variable {drv} {id : U32}

theorem turn_fan (w : Written σ) (n : ℕ) :
    (drv.fan id).turn^[n] w = ⟨drv.poll^[n] w.device, w.last⟩ := by
  induction n with
  | zero => rfl
  | succ n ih => rw [Function.iterate_succ_apply', ih, Function.iterate_succ_apply']; rfl

theorem last_turn (w : Written σ) (n : ℕ) :
    drv.last ((drv.fan id).turn^[n] w).device = drv.last w.device := by
  rw [turn_fan]
  induction n with
  | zero => rfl
  | succ n ih => rw [Function.iterate_succ_apply']; exact (drv.last_poll _).trans ih

theorem getPwm_fan (w : Written σ) :
    ((drv.fan id).getPwm w).1 = percentToPwm drv.stray (drv.last w.device) := by
  simp only [fan, Hardware.fan, Hardware.ask, NvDriver.hardware, (drv.reports w.device).1,
    Option.getD_some]

theorem pwmAt_fan (w : Written σ) (n : ℕ) :
    (drv.fan id).pwmAt w n = percentToPwm drv.stray (drv.last w.device) := by
  rw [FanDevice.pwmAt, getPwm_fan, last_turn]

variable (drv id) in
theorem rpmAt_fan (cur : Rpm) (w : Written σ) : ∃ N, ∀ n, N ≤ n →
    FanDevice.stable ((drv.fan id).rpmAt cur w n) ((drv.fan id).rpmAt cur w (n + 1)) = true := by
  obtain ⟨rpm, N, hN⟩ := drv.settles w.device
  have hrpm : ∀ n, N ≤ n → (drv.fan id).rpmAt cur w (n + 1) = rpm.getD 0 := by
    intro n hn
    show (drv.readRpm (drv.readPercent ((drv.fan id).turn^[n] w).device).2).1.getD 0 = _
    rw [turn_fan]
    exact congrArg (Option.getD · 0) (hN n hn)
  refine ⟨N + 1, fun n hn => ?_⟩
  obtain ⟨m, rfl⟩ := Nat.exists_eq_add_one_of_ne_zero (by omega : n ≠ 0)
  rw [hrpm m (by omega), hrpm (m + 1) (by omega)]
  exact FanDevice.stable_self _

variable (drv id) in
/-- The write is taken, and every turn of the loop reads what the driver makes of the PWM. -/
theorem setStabilisedPwm_fan (pwm : Pwm) (w : Written σ) : ∃ cur w',
    (∀ k, (drv.fan id).pwmAt w' k = readBack drv.stray pwm) ∧ ∀ turns,
      (drv.fan id).setStabilisedPwm turns pwm w = (drv.fan id).loopFrom pwm cur w' turns 0 := by
  have hset : (drv.fan id).setPwm pwm w =
      (true, ⟨(drv.writePercent (pwmToPercent pwm) w.device).2, some (pwmToPercent pwm)⟩) :=
    drv.hardware.setValue_of_written (drv.accepts (pwmToPercent pwm) w.device).1
  refine ⟨_, _, ?_, FanDevice.setStabilisedPwm_accepted (by rw [hset])⟩
  intro k
  rw [pwmAt_fan, hset, readBack]
  apply congrArg (percentToPwm drv.stray)
  exact (drv.readRpm_last _).trans (drv.accepts _ _).2

variable (id) in
/-- A PWM that reads back gets an RPM. -/
theorem exists_setStabilisedPwm {pwm : Pwm} (h : readBack drv.stray pwm = pwm) (w : Written σ) :
    ∃ turns rpm w', (drv.fan id).setStabilisedPwm turns pwm w = some (some rpm, w') := by
  obtain ⟨cur, w', hpwm, hloop⟩ := setStabilisedPwm_fan drv id pwm w
  obtain ⟨N, hN⟩ := rpmAt_fan drv id cur w'
  obtain ⟨turns, rpm, w'', hend⟩ := FanDevice.loopFrom_settles (fun k => (hpwm k).trans h) hN
  exact ⟨turns, rpm, w'', (hloop turns).trans hend⟩

variable (id) in
/-- A PWM that does not read back gets none. -/
theorem exists_setStabilisedPwm_none {pwm : Pwm} (h : readBack drv.stray pwm ≠ pwm)
    (w : Written σ) : ∃ turns w', (drv.fan id).setStabilisedPwm turns pwm w = some (none, w') := by
  obtain ⟨cur, w', hpwm, hloop⟩ := setStabilisedPwm_fan drv id pwm w
  have hmoved : (drv.fan id).pwmAt w' 0 ≠ pwm := by
    rw [hpwm]
    exact h
  have hstart : ∀ n ≤ 0, (drv.fan id).reachedAt cur w' n ≤ 3 := by
    intro n hn
    rw [Nat.le_zero.mp hn]
    exact Nat.zero_le 3
  obtain ⟨w'', hend⟩ := FanDevice.loopFrom_gives_up hmoved hstart Nat.zero_lt_one
  exact ⟨1, w'', (hloop 1).trans hend⟩

/-- An RPM is only returned for a PWM that reads back, and nothing only for one that does not. -/
theorem isSome_setStabilisedPwm {turns : ℕ} {pwm : Pwm} {w w' : Written σ} {r : Option Rpm}
    (h : (drv.fan id).setStabilisedPwm turns pwm w = some (r, w')) :
    r.isSome = true ↔ readBack drv.stray pwm = pwm := by
  obtain ⟨cur, w₁, hpwm, hloop⟩ := setStabilisedPwm_fan drv id pwm w
  rw [hloop] at h
  cases r with
  | none =>
    obtain ⟨n, hn⟩ := FanDevice.of_loopFrom_none h
    rw [hpwm] at hn
    simp [hn]
  | some rpm =>
    obtain ⟨n, hheld, hreached, -⟩ := FanDevice.of_loopFrom_some h
    have hpos : 0 < n := by
      rcases Nat.eq_zero_or_pos n with rfl | hpos
      · exact absurd hreached (Nat.not_lt_zero 3)
      · exact hpos
    have hback := hheld 0 le_rfl hpos
    rw [hpwm] at hback
    simp [hback]

variable (drv id) in
theorem returns (pwm : Pwm) (w : Written σ) :
    ∃ turns, ((drv.fan id).setStabilisedPwm turns pwm w).isSome = true := by
  by_cases h : readBack drv.stray pwm = pwm
  · obtain ⟨turns, rpm, w', hend⟩ := exists_setStabilisedPwm id h w
    exact ⟨turns, by rw [hend]; rfl⟩
  · obtain ⟨turns, w', hend⟩ := exists_setStabilisedPwm_none id h w
    exact ⟨turns, by rw [hend]; rfl⟩

variable (drv id) in
/-- The fan as one that can be calibrated; `stray` is what an empty `optional<Rpm>` reads. -/
def calibrator (stray : Rpm) : Calibrator (Written σ) where
  toFanDevice := drv.fan id
  stabilise pwm w :=
    ((drv.fan id).setStabilisedPwm (Nat.find (returns drv id pwm w)) pwm w).get
      (Nat.find_spec (returns drv id pwm w))
  stabilise_returns _ _ := ⟨_, (Option.some_get _).symm⟩
  stray := stray

theorem isSome_stabilise (stray : Rpm) {pwm : Pwm} (hpwm : pwm ≤ PWM_MAX) (w : Written σ) :
    ((drv.calibrator id stray).stabilise pwm w).1.isSome = true ↔ 51 ∣ pwm.val := by
  obtain ⟨turns, hturns⟩ := (drv.calibrator id stray).stabilise_returns pwm w
  rw [← readBack_eq_iff drv.stray hpwm]
  exact isSome_setStabilisedPwm hturns

end SteadyDriver

/-! ## The targets of `test_mapping` -/

/-- The target `test_mapping` starts with. -/
def mappingStart (startPwm : Pwm) : Pwm :=
  min (startPwm + if startPwm % 2 ≠ 0 then 1 else 2) PWM_MAX

/-- From 254 on there is only the target 255, up to the two values that wrap around. -/
theorem val_mappingStart (startPwm : Pwm) : (mappingStart startPwm).val = if 254 ≤ startPwm.val ∧
    startPwm.val < 4294967294 then 255 else (startPwm.val / 2 * 2 + 2) % 4294967296 := by
  have hlt := startPwm.isLt
  have hmod : (startPwm % 2).val = startPwm.val % 2 := rfl
  have hodd : (startPwm + 1).val = (startPwm.val + 1) % 4294967296 := rfl
  have heven : (startPwm + 2).val = (startPwm.val + 2) % 4294967296 := rfl
  have hmax : PWM_MAX.val = 255 := rfl
  have hzero : startPwm % 2 = 0 ↔ startPwm.val % 2 = 0 := by
    rw [← hmod, Fin.val_eq_zero_iff]
  have hmin : ∀ p : Pwm, (min p PWM_MAX).val = min p.val 255 := fun p => Fin.coe_min p PWM_MAX
  rw [mappingStart, hmin]
  by_cases hpar : startPwm % 2 = 0
  · have hval := hzero.mp hpar
    rw [if_neg (not_not.mpr hpar), heven]
    split_ifs <;> omega
  · have hval := mt hzero.mpr hpar
    rw [if_pos hpar, hodd]
    split_ifs <;> omega

namespace Calibrator

variable {σ : Type} (C : Calibrator σ)

theorem testMapping_eq (turns : ℕ) (startPwm : Pwm) (pwmToRpm : PwmToRpm) (s : σ) :
    C.testMapping turns startPwm pwmToRpm s =
      C.mappingLoop turns (mappingStart startPwm) pwmToRpm s := rfl

/-- The calls of `set_stabilised_pwm` that the loop makes, each with what it returns. -/
def mappingCalls : ℕ → Pwm → σ → List (Pwm × Option Rpm)
  | 0, _, _ => []
  | n + 1, target, s =>
    if target ≤ PWM_MAX then
      let r := C.stabilise target s
      (target, r.1) :: mappingCalls n (target + if target < PWM_MAX - 1 then 2 else 1) r.2
    else []

/-- Every point that `test_mapping` visits gets an RPM, and has an entry when it has ended. -/
def MappingRecorded (startPwm : Pwm) (pwmToRpm : PwmToRpm) (s : σ) : Prop :=
  ∃ turns r, (C.testMapping turns startPwm pwmToRpm s).result = some r ∧
    (∀ call ∈ C.mappingCalls turns (mappingStart startPwm) s, call.2.isSome = true) ∧
    ∀ target ∈ (C.testMapping turns startPwm pwmToRpm s).commands, target ∈ r.1.keys

theorem commands_mappingLoop (turns : ℕ) (target : Pwm) (pwmToRpm : PwmToRpm) (s : σ) :
    (C.mappingLoop turns target pwmToRpm s).commands =
      (C.mappingCalls turns target s).map Prod.fst := by
  induction turns generalizing target pwmToRpm s with
  | zero => rfl
  | succ n ih =>
    unfold mappingLoop mappingCalls
    split_ifs with hloop
    · exact congrArg (target :: ·) (ih _ _ _)
    · exact congrArg (target :: ·) (ih _ _ _)
    · rfl

theorem mem_mappingCalls {turns : ℕ} {target : Pwm} {s : σ} {call : Pwm × Option Rpm}
    (h : call ∈ C.mappingCalls turns target s) :
    call.1 ≤ PWM_MAX ∧ ∃ s', call.2 = (C.stabilise call.1 s').1 := by
  induction turns generalizing target s with
  | zero => cases h
  | succ n ih =>
    unfold mappingCalls at h
    split_ifs at h with hloop
    · rcases List.mem_cons.mp h with rfl | h
      · exact ⟨hloop, s, rfl⟩
      · exact ih h
    · rcases List.mem_cons.mp h with rfl | h
      · exact ⟨hloop, s, rfl⟩
      · exact ih h
    · cases h

theorem mappingCalls_max (s : σ) :
    C.mappingCalls 2 PWM_MAX s = [(PWM_MAX, (C.stabilise PWM_MAX s).1)] := by
  rw [mappingCalls, if_pos le_rfl]
  exact congrArg (_ :: ·) (if_neg (by decide))

theorem mappingLoop_max {rpm : Rpm} {s : σ} (h : (C.stabilise PWM_MAX s).1 = some rpm)
    (pwmToRpm : PwmToRpm) : C.mappingLoop 2 PWM_MAX pwmToRpm s =
      .command PWM_MAX (.done (pwmToRpm.insert PWM_MAX rpm, (C.stabilise PWM_MAX s).2)) := by
  rw [mappingLoop, if_pos le_rfl]
  dsimp only
  rw [h]
  exact congrArg (Phase.command PWM_MAX) (if_neg (by decide))

/-- Going up by twos from an even PWM in range the loop does not end before it has visited 254. -/
theorem visits_254 {turns : ℕ} {target : Pwm} {pwmToRpm : PwmToRpm} {s : σ}
    (hend : (C.mappingLoop turns target pwmToRpm s).result.isSome = true)
    (heven : target.val % 2 = 0) (hle : target.val ≤ 254) :
    (254 : Pwm) ∈ (C.mappingLoop turns target pwmToRpm s).commands := by
  induction turns generalizing target pwmToRpm s with
  | zero => cases hend
  | succ n ih =>
    have hloop : target ≤ PWM_MAX := Fin.le_def.mpr (by change target.val ≤ 255; omega)
    unfold mappingLoop at hend ⊢
    rw [if_pos hloop] at hend ⊢
    by_cases hlast : target < PWM_MAX - 1
    · have hlt : target.val < 254 := hlast
      have hval := val_add_two hloop
      rw [if_pos hlast] at hend ⊢
      exact List.mem_cons_of_mem _ (ih hend (by omega) (by omega))
    · have hge : 254 ≤ target.val := not_lt.mp hlast
      obtain rfl : target = 254 := Fin.ext (by change target.val = 254; omega)
      exact List.mem_cons_self

end Calibrator

namespace SteadyDriver

variable {σ : Type} {drv : SteadyDriver σ} {id : U32} {stray : Rpm}

/-- Where 254 is visited it gets no RPM. -/
theorem start_of_mappingRecorded {startPwm : Pwm} {pwmToRpm : PwmToRpm} {w : Written σ}
    (h : (drv.calibrator id stray).MappingRecorded startPwm pwmToRpm w) :
    254 ≤ startPwm.val ∧ startPwm.val < 4294967294 := by
  obtain ⟨turns, r, hend, hcalls, -⟩ := h
  by_contra hstart
  have hval := val_mappingStart startPwm
  rw [if_neg hstart] at hval
  have hlt := startPwm.isLt
  have hvisits : (254 : Pwm) ∈ ((drv.calibrator id stray).mappingLoop turns
      (mappingStart startPwm) pwmToRpm w).commands :=
    (drv.calibrator id stray).visits_254 (Option.isSome_of_eq_some hend) (by omega) (by omega)
  rw [Calibrator.commands_mappingLoop] at hvisits
  obtain ⟨call, hcall, hfst⟩ := List.mem_map.mp hvisits
  obtain ⟨hle, w', hsnd⟩ := (drv.calibrator id stray).mem_mappingCalls hcall
  have hdvd := (isSome_stabilise stray hle w').mp (hsnd ▸ hcalls call hcall)
  rw [hfst] at hdvd
  exact absurd hdvd (by decide)

/-- Where only 255 is visited it gets its RPM. -/
theorem mappingRecorded_of_start {startPwm : Pwm} (h : 254 ≤ startPwm.val ∧
    startPwm.val < 4294967294) (pwmToRpm : PwmToRpm) (w : Written σ) :
    (drv.calibrator id stray).MappingRecorded startPwm pwmToRpm w := by
  have hval := val_mappingStart startPwm
  rw [if_pos h] at hval
  have hstart : mappingStart startPwm = PWM_MAX := Fin.ext hval
  obtain ⟨rpm, hrpm⟩ := Option.isSome_iff_exists.mp
    ((isSome_stabilise stray (le_refl PWM_MAX) w).mpr (by decide))
  have hcalls := (drv.calibrator id stray).mappingCalls_max w
  have hloop := (drv.calibrator id stray).mappingLoop_max hrpm pwmToRpm
  unfold Calibrator.MappingRecorded
  simp only [Calibrator.testMapping_eq, hstart]
  refine ⟨2, (pwmToRpm.insert PWM_MAX rpm, ((drv.calibrator id stray).stabilise PWM_MAX w).2),
    congrArg Phase.result hloop, ?_, ?_⟩
  · rw [hcalls]
    intro call hcall
    rw [List.mem_singleton.mp hcall, hrpm]
    rfl
  · rw [hloop]
    intro target htarget
    exact SortedMap.mem_keys_insert.mpr (Or.inl (List.mem_singleton.mp htarget))

/-- **The mapping of an NVIDIA fan records every point it visits exactly if it starts so high that
255 is the only one.** -/
theorem mapping_recorded_iff (drv : SteadyDriver σ) (id : U32) (stray : Rpm) (startPwm : Pwm)
    (pwmToRpm : PwmToRpm) (w : Written σ) :
    (drv.calibrator id stray).MappingRecorded startPwm pwmToRpm w ↔
      254 ≤ startPwm.val ∧ startPwm.val < 4294967294 :=
  ⟨start_of_mappingRecorded, fun h => mappingRecorded_of_start h pwmToRpm w⟩

end SteadyDriver

/-! ## A fan that is as fast as it is told -/

/-- The state is the last percentage, and the RPM is 20 times it. -/
def promptDriver : SteadyDriver Percent where
  writePercent percent _ := (true, percent)
  readPercent s := (some s, s)
  readRpm s := (some (s * 20), s)
  writeEnable _ s := (true, s)
  stray _ := 0
  last s := s
  accepts _ _ := ⟨rfl, rfl⟩
  reports _ := ⟨rfl, rfl⟩
  readRpm_last _ := rfl
  settles s := ⟨some (s * 20), 0, fun n _ => by
    rw [Function.iterate_fixed (f := fun t : Percent => t) rfl n]⟩

/-- A fan that starts at 100: of its targets, 104 is not recorded. -/
theorem mapping_not_recorded :
    ((promptDriver.calibrator 0 0).stabilise 104 ⟨0, none⟩).1 = none ∧
    ¬ (promptDriver.calibrator 0 0).MappingRecorded 100 .empty ⟨0, none⟩ := by
  refine ⟨?_, fun h => absurd (SteadyDriver.start_of_mappingRecorded h) (by decide)⟩
  rw [← Option.not_isSome_iff_eq_none, SteadyDriver.isSome_stabilise 0 (by decide)]
  decide

end Fancon
