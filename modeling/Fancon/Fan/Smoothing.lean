import Fancon.Device.Model
import Fancon.Controller.Settings

/-! # `Fan::smooth_rpm`

The smoothing state machine, branch by branch. The counters are set from `uint` settings through
`int`. The constant 0.1 is taken as one tenth.
-/
set_option autoImplicit false
set_option maxHeartbeats 250000
set_option maxRecDepth 120000

namespace Fancon

/-- The request is too small a change to smooth: `rpm_delta < 0.1 * max_rpm`. -/
def minorChange (rpmDelta : I32) (maxRpm : Rpm) : Bool :=
  decide (10 * rpmDelta.val < (maxRpm.val : ℤ))

/-- The smoothed step: `targeted_rpm += rpm_delta / rem_intervals--`. -/
def smoothStep (rpmDelta : I32) (s : Smoothing) : Except Fault (Rpm × Smoothing) :=
  if s.remIntervals = 0 then .error .divisionByZero
  else
    let targeted : Rpm := s.targetedRpm + U32.wrap (rpmDelta.val.tdiv s.remIntervals)
    .ok (targeted, { s with targetedRpm := targeted, remIntervals := s.remIntervals - 1 })

def Smoothing.start (cfg : Settings) (rpm : Rpm) : Smoothing where
  justStarted := false
  remIntervals := (U32.toI32 cfg.smoothingIntervals).val
  topStickinessRemIntervals := (U32.toI32 cfg.topStickinessIntervals).val
  targetedRpm := rpm

/-- Reset stickiness when the RPM increases. -/
def Smoothing.resetStickiness (cfg : Settings) (rpmDelta : I32) (s : Smoothing) : Smoothing :=
  if rpmDelta.val < 0 then s
  else { s with topStickinessRemIntervals := (U32.toI32 cfg.topStickinessIntervals).val }

/-- Restart smoothing on a target change. -/
def Smoothing.restart (cfg : Settings) (rpm : Rpm) (s : Smoothing) : Smoothing :=
  if rpm ≠ s.targetedRpm ∨ s.targetedRpm ≤ 0 then
    { s with remIntervals := (U32.toI32 cfg.smoothingIntervals).val }
  else s

/-- `smooth_rpm` past the stickiness test: minor changes at once, others step by step. -/
def smoothChange (cfg : Settings) (rpmToPwm : RpmToPwm) (rpm : Rpm) (rpmDelta : I32)
    (s : Smoothing) : Except Fault (Rpm × Smoothing) :=
  match rpmToPwm.entries.getLast? with
  | none => .error .undefined
  | some max =>
    if minorChange rpmDelta max.1 then .ok (rpm, { s with targetedRpm := rpm })
    else smoothStep rpmDelta (s.restart cfg rpm)

def smoothRpm (cfg : Settings) (rpmToPwm : RpmToPwm) (rpm : Rpm) (s : Smoothing) :
    Except Fault (Rpm × Smoothing) :=
  let rpmDelta := U32.toI32 (rpm - s.targetedRpm)
  if rpmDelta.val = 0 then .ok (rpm, s)
  else if s.justStarted then .ok (rpm, .start cfg rpm)
  else if rpmDelta.val < 0 ∧ 0 < s.topStickinessRemIntervals then
    .ok (s.targetedRpm,
      { s with topStickinessRemIntervals := s.topStickinessRemIntervals - 1 })
  else smoothChange cfg rpmToPwm rpm rpmDelta (s.resetStickiness cfg rpmDelta)

@[simp] theorem Smoothing.resetStickiness_targetedRpm (cfg : Settings) (rpmDelta : I32)
    (s : Smoothing) : (s.resetStickiness cfg rpmDelta).targetedRpm = s.targetedRpm := by
  unfold Smoothing.resetStickiness
  split_ifs <;> rfl

theorem Smoothing.restart_remIntervals {cfg : Settings} {rpm : Rpm} {s : Smoothing}
    (h : rpm ≠ s.targetedRpm) :
    (s.restart cfg rpm).remIntervals = (U32.toI32 cfg.smoothingIntervals).val := by
  simp [Smoothing.restart, h]

theorem smoothStep_ne_division {rpmDelta : I32} {s : Smoothing} (h : s.remIntervals ≠ 0) :
    smoothStep rpmDelta s ≠ .error .divisionByZero := by
  simp [smoothStep, h]

/-- A request that differs from the target restarts the interval count, so the divisor is always
the configured number of intervals. -/
theorem smoothChange_ne_division {cfg : Settings} (hcfg : cfg.smoothingIntervals ≠ 0)
    {rpmToPwm : RpmToPwm} {rpm : Rpm} {rpmDelta : I32} {s : Smoothing}
    (hne : rpm ≠ s.targetedRpm) :
    smoothChange cfg rpmToPwm rpm rpmDelta s ≠ .error .divisionByZero := by
  have hrem : (U32.toI32 cfg.smoothingIntervals).val ≠ 0 := fun h => hcfg (U32.toI32_eq_zero.mp h)
  unfold smoothChange
  cases rpmToPwm.entries.getLast? with
  | none => simp
  | some max =>
    by_cases hminor : minorChange rpmDelta max.1
    · simp [hminor]
    · simpa [hminor] using smoothStep_ne_division (Smoothing.restart_remIntervals hne ▸ hrem)

theorem smoothRpm_ne_division {cfg : Settings} (hcfg : cfg.smoothingIntervals ≠ 0)
    (rpmToPwm : RpmToPwm) (rpm : Rpm) (s : Smoothing) :
    smoothRpm cfg rpmToPwm rpm s ≠ .error .divisionByZero := by
  simp only [smoothRpm]
  split_ifs with hdelta hstart hsticky
  · simp
  · simp
  · simp
  · apply smoothChange_ne_division hcfg
    rw [Smoothing.resetStickiness_targetedRpm]
    intro heq
    rw [heq, sub_self] at hdelta
    exact hdelta (U32.toI32_eq_zero.mpr rfl)

end Fancon
