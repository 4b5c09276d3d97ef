import Fancon.Fan.Calibration

/-! # The PWM at which a fan starts

`test_start` raises the PWM by two until an attempt reports an RPM, and records what the last
attempt reported. After the last one, at PWM 254, the loop ends whatever it reported; if that was
nothing, because the driver refused the PWM or altered it, an empty `optional` is dereferenced
(`records_start_iff`).
-/
set_option autoImplicit false
set_option maxHeartbeats 250000
set_option maxRecDepth 120000

namespace Fancon

/-! ## What the attempts leave -/

/-- The first outcome with an RPM above 0, or else the last one. -/
def settle : Option Rpm → List (Option Rpm) → Option Rpm
  | curRpm, [] => curRpm
  | _, outcome :: outcomes =>
    if outcome = none ∨ outcome = some 0 then settle outcome outcomes else outcome

/-- Some attempt reports an RPM above 0. -/
def ReportsRpm (outcomes : List (Option Rpm)) : Prop := ∃ rpm, some rpm ∈ outcomes ∧ 0 < rpm

theorem settle_of_reportsRpm {outcomes : List (Option Rpm)} (h : ReportsRpm outcomes)
    (curRpm : Option Rpm) : ∃ rpm, settle curRpm outcomes = some rpm ∧ 0 < rpm := by
  obtain ⟨rpm, hmem, hpos⟩ := h
  induction outcomes generalizing curRpm with
  | nil => cases hmem
  | cons outcome outcomes ih =>
    rw [settle]
    split_ifs with hnothing
    · apply ih outcome
      rcases List.mem_cons.mp hmem with rfl | hmem
      · rcases hnothing with hnone | hzero
        · cases hnone
        · exact absurd (Option.some.inj hzero) hpos.ne'
      · exact hmem
    · rw [not_or] at hnothing
      obtain ⟨r, rfl⟩ := Option.ne_none_iff_exists'.mp hnothing.1
      exact ⟨r, rfl, Fin.pos_of_ne_zero fun hr => hnothing.2 (congrArg some hr)⟩

theorem settle_of_not_reportsRpm {outcomes : List (Option Rpm)} (h : ¬ ReportsRpm outcomes)
    (curRpm : Option Rpm) : settle curRpm outcomes = outcomes.getLast?.getD curRpm := by
  induction outcomes generalizing curRpm with
  | nil => rfl
  | cons outcome outcomes ih =>
    have hnothing : outcome = none ∨ outcome = some 0 := by
      by_contra hnot
      rw [not_or] at hnot
      obtain ⟨r, rfl⟩ := Option.ne_none_iff_exists'.mp hnot.1
      exact h ⟨r, List.mem_cons_self, Fin.pos_of_ne_zero fun hr => hnot.2 (congrArg some hr)⟩
    rw [settle, if_pos hnothing, ih fun ⟨r, hr, hpos⟩ => h ⟨r, List.mem_cons_of_mem _ hr, hpos⟩]
    cases outcomes with
    | nil => rfl
    | cons o os =>
      rw [List.getLast?_cons_cons, List.getLast?_eq_some_getLast (List.cons_ne_nil o os)]
      rfl

namespace Calibrator

variable {σ : Type} (C : Calibrator σ)

/-- What so many attempts report, one after the other and each at a PWM two above the last. -/
def outcomes : ℕ → Pwm → σ → List (Option Rpm)
  | 0, _, _ => []
  | n + 1, pwm, s =>
    let r := C.stabilise pwm s
    r.1 :: outcomes n (pwm + 2) r.2

/-- `test_start`, where the `optional` it dereferences may be empty. -/
def testStartAt (turns : ℕ) (pwmToRpm : PwmToRpm) (s : σ) :
    Phase (Option (Pwm × PwmToRpm × σ)) :=
  (C.startLoop turns (some 0) PWM_MIN s).map fun r => r.1.map fun curRpm =>
    let p := C.getPwm r.2
    (p.1, pwmToRpm.insert p.1 curRpm, p.2)

/-- The 128 attempts at the PWMs from 0 to 254. -/
def attempts (s : σ) : List (Option Rpm) := C.outcomes 128 PWM_MIN s

/-- The RPM that is recorded for `start_pwm` was reported, and is above 0 if one reported was. -/
def RecordsStart (pwmToRpm : PwmToRpm) (s : σ) : Prop :=
  ∃ turns start measured s', (C.testStartAt turns pwmToRpm s).result =
      some (some (start, measured, s')) ∧
    ∃ rpm, measured.find? start = some rpm ∧ (ReportsRpm (C.attempts s) → 0 < rpm)

/-- Where nothing empty is dereferenced, this is `test_start`. -/
theorem testStart_of_at {turns : ℕ} {pwmToRpm : PwmToRpm} {s : σ} {r : Pwm × PwmToRpm × σ}
    (h : (C.testStartAt turns pwmToRpm s).result = some (some r)) :
    (C.testStart turns pwmToRpm s).result = some r := by
  obtain ⟨⟨curRpm, s'⟩, hloop, h⟩ := Option.map_eq_some_iff.mp h
  obtain ⟨rpm, rfl, rfl⟩ := Option.map_eq_some_iff.mp h
  rw [testStart, Phase.map, hloop]
  rfl

/-! ## The loop -/

theorem startLoop_ends (turns : ℕ) {curRpm : Option Rpm} {pwm : Pwm} (s : σ)
    (h : (curRpm = none ∨ curRpm = some 0) → ¬ pwm ≤ PWM_MAX) :
    C.startLoop (turns + 1) curRpm pwm s = .done (curRpm, s) := by
  rw [startLoop, if_neg fun hloop => h hloop.1 hloop.2]

/-- The loop leaves what the attempts that remain come to. -/
theorem startLoop_settles {attempts turns : ℕ} {curRpm : Option Rpm} {pwm : Pwm} {s : σ}
    (hcur : curRpm = none ∨ curRpm = some 0) (hpwm : pwm.val + 2 * attempts = 256)
    (hturns : attempts < turns) :
    ((C.startLoop turns curRpm pwm s).result.map Prod.fst) =
      some (settle curRpm (C.outcomes attempts pwm s)) := by
  induction attempts generalizing turns curRpm pwm s with
  | zero =>
    obtain ⟨n, rfl⟩ := Nat.exists_eq_add_one_of_ne_zero hturns.ne'
    have hout : ¬ pwm ≤ PWM_MAX := not_le.mpr (Fin.lt_def.mpr (by change 255 < pwm.val; omega))
    rw [C.startLoop_ends n s fun _ => hout]
    rfl
  | succ attempts ih =>
    obtain ⟨n, rfl⟩ := Nat.exists_eq_add_one_of_ne_zero (Nat.ne_of_gt (Nat.zero_lt_of_lt hturns))
    have hle : pwm ≤ PWM_MAX := Fin.le_def.mpr (by change pwm.val ≤ 255; omega)
    have hval := val_add_two hle
    rw [startLoop, if_pos ⟨hcur, hle⟩, outcomes, settle]
    split_ifs with hnothing
    · exact ih hnothing (by omega) (by omega)
    · cases n with
      | zero => omega
      | succ n =>
        have hends : C.startLoop (n + 1) (C.stabilise pwm s).1 (pwm + 2) (C.stabilise pwm s).2 =
            .done _ := C.startLoop_ends n _ fun h => absurd h hnothing
        exact congrArg (fun p => p.result.map Prod.fst) hends

theorem getLast?_outcomes (n : ℕ) (pwm : Pwm) (s : σ) :
    ∃ last, (C.outcomes (n + 1) pwm s).getLast? = some last :=
  ⟨_, List.getLast?_eq_some_getLast (List.cons_ne_nil _ _)⟩

theorem startLoop_attempts (s : σ) : ((C.startLoop 129 (some 0) PWM_MIN s).result.map Prod.fst) =
    some (settle (some 0) (C.attempts s)) :=
  C.startLoop_settles (Or.inr rfl) rfl (by decide)

/-- Nothing empty is dereferenced only if the attempts settle on an RPM. -/
theorem settle_ne_none {turns : ℕ} {pwmToRpm : PwmToRpm} {s : σ} {r : Pwm × PwmToRpm × σ}
    (h : (C.testStartAt turns pwmToRpm s).result = some (some r)) :
    settle (some 0) (C.attempts s) ≠ none := by
  obtain ⟨⟨curRpm, s'⟩, hloop, h⟩ := Option.map_eq_some_iff.mp h
  obtain ⟨rpm, rfl, -⟩ := Option.map_eq_some_iff.mp h
  have hsettled := C.startLoop_attempts s
  have hunique := C.startLoop_unique turns 129 (some 0) PWM_MIN s (by rw [hloop]; rfl)
    (Option.isSome_map.symm.trans (congrArg Option.isSome hsettled))
  rw [← hunique, hloop] at hsettled
  exact fun hnone => absurd (hsettled.trans (congrArg some hnone)) (by simp)

theorem records_start_of_settle {s : σ} {rpm : Rpm}
    (hrpm : settle (some 0) (C.attempts s) = some rpm)
    (hpos : ReportsRpm (C.attempts s) → 0 < rpm) (pwmToRpm : PwmToRpm) :
    C.RecordsStart pwmToRpm s := by
  obtain ⟨⟨curRpm, s'⟩, hloop, hcur⟩ := Option.map_eq_some_iff.mp (C.startLoop_attempts s)
  obtain rfl : curRpm = some rpm := hcur.trans hrpm
  let p := C.getPwm s'
  refine ⟨129, p.1, pwmToRpm.insert p.1 rpm, p.2, ?_, rpm, ?_, hpos⟩
  · rw [testStartAt, Phase.map, hloop]
    rfl
  · exact (SortedMap.find?_insert _ _ _ _).trans (if_pos rfl)

/-- **The start test records an observation exactly if some attempt reports an RPM above 0 or the
last attempt reports anything.** -/
theorem records_start_iff (pwmToRpm : PwmToRpm) (s : σ) : C.RecordsStart pwmToRpm s ↔
    ReportsRpm (C.attempts s) ∨ (C.attempts s).getLast? ≠ some none := by
  obtain ⟨last, hlast⟩ := C.getLast?_outcomes 127 PWM_MIN s
  have hnot : ¬ ReportsRpm (C.attempts s) → settle (some 0) (C.attempts s) = last := fun h => by
    rw [settle_of_not_reportsRpm h, attempts, hlast, Option.getD_some]
  rw [show (C.attempts s).getLast? = some last from hlast]
  constructor
  · rintro ⟨turns, start, measured, s', hresult, -⟩
    by_contra hnothing
    rw [not_or, not_not] at hnothing
    exact C.settle_ne_none hresult ((hnot hnothing.1).trans (Option.some.inj hnothing.2))
  · intro h
    by_cases hreports : ReportsRpm (C.attempts s)
    · obtain ⟨rpm, hrpm, hpos⟩ := settle_of_reportsRpm hreports (some 0)
      exact C.records_start_of_settle hrpm (fun _ => hpos) pwmToRpm
    · obtain ⟨rpm, hrpm⟩ := Option.ne_none_iff_exists'.mp
        fun hnone => h.resolve_left hreports (congrArg some hnone)
      exact C.records_start_of_settle ((hnot hreports).trans hrpm)
        (fun hr => absurd hr hreports) pwmToRpm

end Calibrator

/-! ## A driver that only turns the fan on and off -/

def onOffDevice : FanDevice Pwm where
  enableControl s := (true, s)
  disableControl s := (true, s)
  setPwm pwm _ := (true, if pwm = 0 then 0 else PWM_MAX)
  getPwm s := (s, s)
  getRpm s := (0, s)

/-- A PWM other than 0 and 255 is altered, and no RPM is ever seen. -/
def onOffFan : Calibrator Pwm where
  toFanDevice := onOffDevice
  stabilise pwm _ :=
    let set := if pwm = 0 then 0 else PWM_MAX
    (if set = pwm then some 0 else none, set)
  stabilise_returns pwm s := by
    have hstable : FanDevice.stable 0 0 = true := by decide
    refine ⟨5, ?_⟩
    simp only [FanDevice.setStabilisedPwm, onOffDevice]
    generalize (if pwm = 0 then 0 else PWM_MAX) = set
    by_cases hset : set = pwm <;> simp [FanDevice.stabiliseLoop, hset, hstable]
  stray := 0

/-- The last attempt, at PWM 254, leaves nothing to record. -/
theorem start_records_nothing : ¬ ∀ (σ : Type) (C : Calibrator σ) (pwmToRpm : PwmToRpm) (s : σ),
    C.RecordsStart pwmToRpm s := by
  intro h
  obtain ⟨turns, start, measured, s', hresult, -⟩ := h Pwm onOffFan .empty 0
  exact onOffFan.settle_ne_none hresult (by decide)

end Fancon
