import Fancon.Fan.Smoothing

/-! # Runs of `smooth_rpm`

A run is one request after the other. What a call does is said once (`SmoothTurn`): it leaves the
target, holds it, moves it to the request, or moves it by a part of the difference.

In any run the target moves towards the request and not past it, and after a request for more speed
it does not fall before as many lower requests as configured were held back (`smooth_run_sticks`).
-/
set_option autoImplicit false
set_option maxHeartbeats 250000
set_option maxRecDepth 120000

namespace Fancon

/-! ## Runs -/

/-- A call of `smooth_rpm`: the target before it and after it, the request and what is returned. -/
structure SmoothCall where
  previous : Rpm
  request : Rpm
  returned : Rpm
  targeted : Rpm
deriving DecidableEq

def smoothRun (cfg : Settings) (rpmToPwm : RpmToPwm) :
    List Rpm → Smoothing → Except Fault (List SmoothCall × Smoothing)
  | [], s => .ok ([], s)
  | rpm :: rpms, s =>
    (smoothRpm cfg rpmToPwm rpm s).bind fun (returned, s') =>
    (smoothRun cfg rpmToPwm rpms s').map fun (calls, last) =>
    (⟨s.targetedRpm, rpm, returned, s'.targetedRpm⟩ :: calls, last)

/-! ## One call -/

/-- `rpm_delta`. -/
def Smoothing.delta (s : Smoothing) (rpm : Rpm) : ℤ := (U32.toI32 (rpm - s.targetedRpm)).val

/-- The states that a call for `rpm` can lead to. -/
inductive SmoothTurn (cfg : Settings) (maxRpm rpm : Rpm) (s : Smoothing) : Smoothing → Prop
  | same : rpm = s.targetedRpm → SmoothTurn cfg maxRpm rpm s s
  | started : s.delta rpm ≠ 0 → s.justStarted = true → SmoothTurn cfg maxRpm rpm s (.start cfg rpm)
  | held : s.delta rpm < 0 → s.justStarted = false → 0 < s.topStickinessRemIntervals →
      SmoothTurn cfg maxRpm rpm s
        { s with topStickinessRemIntervals := s.topStickinessRemIntervals - 1 }
  | lowered : s.delta rpm < 0 → s.justStarted = false → s.topStickinessRemIntervals ≤ 0 →
      SmoothTurn cfg maxRpm rpm s { s with targetedRpm := rpm }
  | raised : 0 < s.delta rpm → s.justStarted = false → 10 * s.delta rpm < maxRpm.val →
      SmoothTurn cfg maxRpm rpm s
        { s with
          targetedRpm := rpm
          topStickinessRemIntervals := (U32.toI32 cfg.topStickinessIntervals).val }
  | approached : 0 < s.delta rpm → s.justStarted = false → maxRpm.val ≤ 10 * s.delta rpm →
      SmoothTurn cfg maxRpm rpm s
        { s with
          remIntervals := (U32.toI32 cfg.smoothingIntervals).val - 1
          targetedRpm := s.targetedRpm +
            U32.wrap ((s.delta rpm).tdiv (U32.toI32 cfg.smoothingIntervals).val)
          topStickinessRemIntervals := (U32.toI32 cfg.topStickinessIntervals).val }

theorem Smoothing.delta_eq_zero {s : Smoothing} {rpm : Rpm} :
    s.delta rpm = 0 ↔ rpm = s.targetedRpm :=
  U32.toI32_eq_zero.trans sub_eq_zero

section
variable {cfg : Settings} {rpmToPwm : RpmToPwm} {max : Rpm × Pwm} {rpm : Rpm} {s : Smoothing}

/-- A request for more, past the stickiness test. -/
theorem smoothChange_of_pos (hmax : rpmToPwm.entries.getLast? = some max)
    (hn : cfg.smoothingIntervals ≠ 0) (hstart : s.justStarted = false) (hpos : 0 < s.delta rpm) :
    ∃ s', smoothChange cfg rpmToPwm rpm (U32.toI32 (rpm - s.targetedRpm))
        (s.resetStickiness cfg (U32.toI32 (rpm - s.targetedRpm))) = .ok (s'.targetedRpm, s') ∧
      SmoothTurn cfg max.1 rpm s s' := by
  have hnot : ¬ (U32.toI32 (rpm - s.targetedRpm)).val < 0 := not_lt.mpr hpos.le
  have hreset : s.resetStickiness cfg (U32.toI32 (rpm - s.targetedRpm)) =
      { s with topStickinessRemIntervals := (U32.toI32 cfg.topStickinessIntervals).val } :=
    if_neg hnot
  have hrem : (U32.toI32 cfg.smoothingIntervals).val ≠ 0 := fun h => hn (U32.toI32_eq_zero.mp h)
  have hne : rpm ≠ s.targetedRpm := fun h => hpos.ne' (Smoothing.delta_eq_zero.mpr h)
  rw [hreset, smoothChange, hmax]
  simp only [minorChange, decide_eq_true_eq]
  split_ifs with hminor
  · exact ⟨_, rfl, .raised hpos hstart hminor⟩
  · refine ⟨_, ?_, .approached hpos hstart (not_lt.mp hminor)⟩
    simp only [Smoothing.restart, ne_eq, hne, not_false_eq_true, true_or, if_true, smoothStep,
      if_neg hrem]
    rfl

/-- A request for less, past the stickiness test, is always a minor change. -/
theorem smoothChange_of_neg (hmax : rpmToPwm.entries.getLast? = some max)
    (hneg : s.delta rpm < 0) :
    smoothChange cfg rpmToPwm rpm (U32.toI32 (rpm - s.targetedRpm))
        (s.resetStickiness cfg (U32.toI32 (rpm - s.targetedRpm))) =
      .ok (rpm, { s with targetedRpm := rpm }) := by
  have hneg' : (U32.toI32 (rpm - s.targetedRpm)).val < 0 := hneg
  have hreset : s.resetStickiness cfg (U32.toI32 (rpm - s.targetedRpm)) = s := if_pos hneg'
  have hminor : minorChange (U32.toI32 (rpm - s.targetedRpm)) max.1 = true :=
    decide_eq_true (by omega)
  rw [hreset, smoothChange, hmax]
  exact if_pos hminor

theorem smoothRpm_turn (hmax : rpmToPwm.entries.getLast? = some max)
    (hn : cfg.smoothingIntervals ≠ 0) (rpm : Rpm) (s : Smoothing) :
    ∃ s', smoothRpm cfg rpmToPwm rpm s = .ok (s'.targetedRpm, s') ∧
      SmoothTurn cfg max.1 rpm s s' := by
  simp only [smoothRpm]
  split_ifs with hzero hstart hsticky
  · obtain rfl := Smoothing.delta_eq_zero.mp hzero
    exact ⟨s, rfl, .same rfl⟩
  · exact ⟨.start cfg rpm, rfl, .started hzero hstart⟩
  · exact ⟨_, rfl, .held hsticky.1 (Bool.eq_false_iff.mpr hstart) hsticky.2⟩
  · have hstart := Bool.eq_false_iff.mpr hstart
    rcases lt_or_gt_of_ne hzero with hneg | hpos
    · have hfree : s.topStickinessRemIntervals ≤ 0 := not_lt.mp fun h => hsticky ⟨hneg, h⟩
      exact ⟨_, smoothChange_of_neg hmax hneg, .lowered hneg hstart hfree⟩
    · exact smoothChange_of_pos hmax hn hstart hpos

theorem smoothRun_cons (hmax : rpmToPwm.entries.getLast? = some max)
    (hn : cfg.smoothingIntervals ≠ 0) (rpm : Rpm) (s : Smoothing) :
    ∃ s', SmoothTurn cfg max.1 rpm s s' ∧ ∀ rpms, smoothRun cfg rpmToPwm (rpm :: rpms) s =
      (smoothRun cfg rpmToPwm rpms s').map fun r =>
        (⟨s.targetedRpm, rpm, s'.targetedRpm, s'.targetedRpm⟩ :: r.1, r.2) := by
  obtain ⟨s', hcall, hturn⟩ := smoothRpm_turn hmax hn rpm s
  refine ⟨s', hturn, fun rpms => ?_⟩
  rw [smoothRun, hcall]
  rfl

end

/-! ## The target moves towards the request -/

section
variable {cfg : Settings} {maxRpm rpm : Rpm} {s s' : Smoothing}

theorem Smoothing.delta_of_small (hs : s.targetedRpm.val < 2147483648)
    (hrpm : rpm.val < 2147483648) : s.delta rpm = (rpm.val : ℤ) - s.targetedRpm.val := by
  have hval := U32.toI32_val (rpm - s.targetedRpm)
  unfold Smoothing.delta
  rw [hval]
  split_ifs <;> omega

theorem U32.toI32_of_small {x : U32} (hx : x.val < 2147483648) : (U32.toI32 x).val = x.val := by
  rw [U32.toI32_val, if_pos hx]

/-- With fewer than `2^31` intervals the part of a rise that is taken at once is no more than it. -/
theorem SmoothTurn.approached_targeted (hn : cfg.smoothingIntervals.val < 2147483648)
    (hpos : 0 < s.delta rpm) (hs : s.targetedRpm.val < 2147483648)
    (hrpm : rpm.val < 2147483648) :
    (s.targetedRpm + U32.wrap ((s.delta rpm).tdiv (U32.toI32 cfg.smoothingIntervals).val)).val =
      s.targetedRpm.val + (rpm.val - s.targetedRpm.val) / cfg.smoothingIntervals.val := by
  have hdelta := Smoothing.delta_of_small hs hrpm
  have hrise : s.delta rpm = ((rpm.val - s.targetedRpm.val : ℕ) : ℤ) := by omega
  have hpart := Nat.div_le_self (rpm.val - s.targetedRpm.val) cfg.smoothingIntervals.val
  rw [hrise, U32.toI32_of_small hn, ← Int.ofNat_tdiv]
  generalize (rpm.val - s.targetedRpm.val) / cfg.smoothingIntervals.val = part at hpart ⊢
  rw [Fin.val_add]
  simp only [U32.wrap]
  omega

theorem SmoothTurn.between (h : SmoothTurn cfg maxRpm rpm s s')
    (hn : cfg.smoothingIntervals.val < 2147483648) (hs : s.targetedRpm.val < 2147483648)
    (hrpm : rpm.val < 2147483648) :
    s.targetedRpm ≤ s'.targetedRpm ∧ s'.targetedRpm ≤ rpm ∨
      rpm ≤ s'.targetedRpm ∧ s'.targetedRpm ≤ s.targetedRpm := by
  have hdelta := Smoothing.delta_of_small hs hrpm
  cases h with
  | same heq => exact Or.inl ⟨le_rfl, heq.ge⟩
  | started => exact (le_total s.targetedRpm rpm).imp (⟨·, le_rfl⟩) (⟨le_rfl, ·⟩)
  | held hneg => exact Or.inr ⟨Fin.le_def.mpr (by simp only; omega), le_rfl⟩
  | lowered hneg => exact Or.inr ⟨le_rfl, Fin.le_def.mpr (by simp only; omega)⟩
  | raised hpos => exact Or.inl ⟨Fin.le_def.mpr (by simp only; omega), le_rfl⟩
  | approached hpos =>
    have hval := approached_targeted hn hpos hs hrpm
    have hpart := Nat.div_le_self (rpm.val - s.targetedRpm.val) cfg.smoothingIntervals.val
    rw [Fin.le_def, Fin.le_def, hval]
    generalize (rpm.val - s.targetedRpm.val) / cfg.smoothingIntervals.val = part at hpart ⊢
    exact Or.inl ⟨by omega, by omega⟩

end

/-! ## What is claimed of every run -/

/-- What is returned is the new target, between the one before and the request. -/
def SmoothCall.Within (c : SmoothCall) : Prop :=
  c.returned = c.targeted ∧
    (c.previous ≤ c.targeted ∧ c.targeted ≤ c.request ∨
      c.request ≤ c.targeted ∧ c.targeted ≤ c.previous)

/-- A request for less that is not followed. -/
def SmoothCall.held (c : SmoothCall) : Bool :=
  decide (c.request < c.previous ∧ c.returned = c.previous ∧ c.targeted = c.previous)

/-- Between a request for more and the next fall of the target so many requests are held. -/
def Sticks (intervals : ℕ) (calls : List SmoothCall) : Prop :=
  ∀ before up between down after, calls = before ++ up :: (between ++ down :: after) →
    up.previous < up.request → (∀ c ∈ between, c.previous ≤ c.targeted) →
    down.targeted < down.previous → intervals ≤ between.countP SmoothCall.held

section
variable {cfg : Settings} {rpmToPwm : RpmToPwm} {max : Rpm × Pwm} {s s' : Smoothing}

/-- The stickiness that is left, of a fan that has been started. -/
structure Smoothing.Sticky (cfg : Settings) (s : Smoothing) : Prop where
  running : s.justStarted = false
  left : s.topStickinessRemIntervals ≤ (U32.toI32 cfg.topStickinessIntervals).val

theorem SmoothTurn.of_rise {maxRpm rpm : Rpm} (h : SmoothTurn cfg maxRpm rpm s s')
    (hs : s.targetedRpm.val < 2147483648) (hrpm : rpm.val < 2147483648)
    (hrise : s.targetedRpm < rpm) : s'.justStarted = false ∧
      s'.topStickinessRemIntervals = (U32.toI32 cfg.topStickinessIntervals).val := by
  have hdelta := Smoothing.delta_of_small hs hrpm
  have hlt : s.targetedRpm.val < rpm.val := hrise
  cases h with
  | same heq => exact absurd heq hrise.ne'
  | started => simp only [Smoothing.start, and_self]
  | held hneg => omega
  | lowered hneg => omega
  | raised _ hrunning => simp only [hrunning, and_self]
  | approached _ hrunning => simp only [hrunning, and_self]

/-- A call that does not lower the target of a running fan holds the request or leaves no less
stickiness. -/
theorem Smoothing.Sticky.turn {maxRpm rpm : Rpm} (hsticky : s.Sticky cfg)
    (h : SmoothTurn cfg maxRpm rpm s s') (hs : s.targetedRpm.val < 2147483648)
    (hrpm : rpm.val < 2147483648) :
    s'.Sticky cfg ∧ (s.topStickinessRemIntervals ≤ s'.topStickinessRemIntervals ∨
      SmoothCall.held ⟨s.targetedRpm, rpm, s'.targetedRpm, s'.targetedRpm⟩ = true ∧
        s.topStickinessRemIntervals ≤ s'.topStickinessRemIntervals + 1) := by
  have hdelta := Smoothing.delta_of_small hs hrpm
  have hleft := hsticky.left
  cases h with
  | same => exact ⟨hsticky, Or.inl le_rfl⟩
  | started _ hstart => exact absurd hstart (by rw [hsticky.running]; exact Bool.false_ne_true)
  | held hneg =>
    have hlower : rpm < s.targetedRpm := Fin.lt_def.mpr (by omega)
    exact ⟨⟨hsticky.running, by simp only; omega⟩,
      Or.inr ⟨decide_eq_true ⟨hlower, rfl, rfl⟩, by simp only; omega⟩⟩
  | lowered => exact ⟨⟨hsticky.running, hleft⟩, Or.inl le_rfl⟩
  | raised | approached =>
    exact ⟨⟨hsticky.running, by simp only [le_refl]⟩, Or.inl (by simpa only using hleft)⟩

/-- The target of a running fan falls only when no stickiness is left. -/
theorem Smoothing.Sticky.left_of_fall {maxRpm rpm : Rpm} (hsticky : s.Sticky cfg)
    (h : SmoothTurn cfg maxRpm rpm s s') (hn : cfg.smoothingIntervals.val < 2147483648)
    (hs : s.targetedRpm.val < 2147483648) (hrpm : rpm.val < 2147483648)
    (hfall : s'.targetedRpm < s.targetedRpm) : s.topStickinessRemIntervals ≤ 0 := by
  have hdelta := Smoothing.delta_of_small hs hrpm
  have hfall' : s'.targetedRpm.val < s.targetedRpm.val := hfall
  cases h with
  | same => exact absurd hfall (lt_irrefl _)
  | started _ hstart => exact absurd hstart (by rw [hsticky.running]; exact Bool.false_ne_true)
  | held => exact absurd hfall (lt_irrefl _)
  | lowered _ _ hleft => exact hleft
  | raised hpos =>
    simp only at hfall'
    omega
  | approached hpos =>
    rw [SmoothTurn.approached_targeted hn hpos hs hrpm] at hfall'
    exact absurd hfall' (Nat.le_add_right _ _).not_gt

/-! ## Every run -/

theorem SmoothTurn.small {maxRpm rpm : Rpm} (h : SmoothTurn cfg maxRpm rpm s s')
    (hn : cfg.smoothingIntervals.val < 2147483648) (hs : s.targetedRpm.val < 2147483648)
    (hrpm : rpm.val < 2147483648) : s'.targetedRpm.val < 2147483648 := by
  rcases h.between hn hs hrpm with ⟨-, hle⟩ | ⟨-, hle⟩
  · exact (Fin.le_def.mp hle).trans_lt hrpm
  · exact (Fin.le_def.mp hle).trans_lt hs

/-- The calls of a run, from the turns that they make. -/
inductive SmoothTurns (cfg : Settings) (maxRpm : Rpm) : Smoothing → List SmoothCall → Prop
  | nil {s : Smoothing} : SmoothTurns cfg maxRpm s []
  | cons {s s' : Smoothing} {rpm : Rpm} {calls : List SmoothCall} :
      rpm.val < 2147483648 → SmoothTurn cfg maxRpm rpm s s' → SmoothTurns cfg maxRpm s' calls →
      SmoothTurns cfg maxRpm s (⟨s.targetedRpm, rpm, s'.targetedRpm, s'.targetedRpm⟩ :: calls)

theorem smoothRun_turns (hmax : rpmToPwm.entries.getLast? = some max)
    (hn : cfg.smoothingIntervals ≠ 0) {rpms : List Rpm} (hrpms : ∀ rpm ∈ rpms, rpm.val < 2147483648)
    (s : Smoothing) : ∃ calls last, smoothRun cfg rpmToPwm rpms s = .ok (calls, last) ∧
      calls.map SmoothCall.request = rpms ∧ SmoothTurns cfg max.1 s calls := by
  induction rpms generalizing s with
  | nil => exact ⟨[], s, rfl, rfl, .nil⟩
  | cons rpm rpms ih =>
    obtain ⟨s', hturn, hcons⟩ := smoothRun_cons hmax hn rpm s
    obtain ⟨calls, last, hrun, hrequests, hturns⟩ :=
      ih (fun r hr => hrpms r (List.mem_cons_of_mem rpm hr)) s'
    refine ⟨_, last, (hcons rpms).trans ?_, ?_, .cons (hrpms rpm List.mem_cons_self) hturn hturns⟩
    · rw [hrun]
      rfl
    · rw [List.map_cons, hrequests]

theorem SmoothTurns.within {maxRpm : Rpm} {calls : List SmoothCall}
    (h : SmoothTurns cfg maxRpm s calls) (hn : cfg.smoothingIntervals.val < 2147483648)
    (hs : s.targetedRpm.val < 2147483648) : ∀ c ∈ calls, c.Within := by
  induction h with
  | nil => exact nofun
  | cons hrpm hturn _ ih =>
    intro c hc
    rcases List.mem_cons.mp hc with rfl | hc
    · exact ⟨rfl, hturn.between hn hs hrpm⟩
    · exact ih (hturn.small hn hs hrpm) c hc

/-- Up to the next fall of the target all the stickiness that is left is used. -/
theorem SmoothTurns.left_le_held {maxRpm : Rpm} {between after : List SmoothCall}
    {down : SmoothCall} (h : SmoothTurns cfg maxRpm s (between ++ down :: after))
    (hsticky : s.Sticky cfg) (hn : cfg.smoothingIntervals.val < 2147483648)
    (hs : s.targetedRpm.val < 2147483648) (hfall : down.targeted < down.previous) :
    s.topStickinessRemIntervals ≤ between.countP SmoothCall.held := by
  induction between generalizing s with
  | nil =>
    cases h with
    | cons hrpm hturn _ => exact hsticky.left_of_fall hturn hn hs hrpm hfall
  | cons c between ih =>
    cases h with
    | cons hrpm hturn hturns =>
      obtain ⟨hsticky', hleft⟩ := hsticky.turn hturn hs hrpm
      have hrest := ih hturns hsticky' (hturn.small hn hs hrpm)
      rcases hleft with hleft | ⟨hheld, hleft⟩
      · apply (hleft.trans hrest).trans
        exact_mod_cast (List.sublist_cons_self _ between).countP_le
      · rw [List.countP_cons_of_pos hheld]
        push_cast
        omega

theorem SmoothTurns.sticks {maxRpm : Rpm} {calls : List SmoothCall}
    (h : SmoothTurns cfg maxRpm s calls) (hn : cfg.smoothingIntervals.val < 2147483648)
    (hsticky : cfg.topStickinessIntervals.val < 2147483648)
    (hs : s.targetedRpm.val < 2147483648) : Sticks cfg.topStickinessIntervals.val calls := by
  intro before up between down after hcalls hrise _ hfall
  induction before generalizing s calls with
  | nil =>
    subst hcalls
    cases h with
    | cons hrpm hturn hturns =>
      obtain ⟨hrunning, hleft⟩ := hturn.of_rise hs hrpm hrise
      have hheld := hturns.left_le_held ⟨hrunning, hleft.le⟩ hn (hturn.small hn hs hrpm) hfall
      rw [hleft, U32.toI32_of_small hsticky] at hheld
      exact_mod_cast hheld
  | cons c before ih =>
    subst hcalls
    cases h with
    | cons hrpm hturn hturns => exact ih hturns (hturn.small hn hs hrpm) rfl

/-- **In every run the target moves towards the request and not past it, and after a request for
more it stays up for the configured number of lower requests.** -/
theorem smooth_run_sticks (cfg : Settings) (hn : cfg.smoothingIntervals ≠ 0)
    (hn' : cfg.smoothingIntervals.val < 2147483648)
    (hsticky : cfg.topStickinessIntervals.val < 2147483648) (rpmToPwm : RpmToPwm)
    (hne : rpmToPwm.entries ≠ []) (s : Smoothing) (hs : s.targetedRpm.val < 2147483648)
    (rpms : List Rpm) (hrpms : ∀ rpm ∈ rpms, rpm.val < 2147483648) :
    ∃ calls last, smoothRun cfg rpmToPwm rpms s = .ok (calls, last) ∧
      calls.map SmoothCall.request = rpms ∧ (∀ c ∈ calls, c.Within) ∧
      Sticks cfg.topStickinessIntervals.val calls := by
  obtain ⟨calls, last, hrun, hrequests, hturns⟩ :=
    smoothRun_turns (List.getLast?_eq_some_getLast hne) hn hrpms s
  exact ⟨calls, last, hrun, hrequests, hturns.within hn' hs, hturns.sticks hn' hsticky hs⟩

end

/-- A fan with two calibrated points. -/
def twoPoints : RpmToPwm := .ofItems [(1000, 100), (2000, 200)]

/-- A fan that is started, sped up and slowed down. -/
theorem smooth_run_sticks_default :
    ∃ calls last, smoothRun {} twoPoints [1000, 2000, 500, 500, 2000, 500] {} = .ok (calls, last) ∧
      calls.map SmoothCall.request = [1000, 2000, 500, 500, 2000, 500] ∧
      (∀ c ∈ calls, c.Within) ∧ Sticks 4 calls :=
  smooth_run_sticks {} (by decide) (by decide) (by decide) twoPoints (by decide) {} (by decide)
    [1000, 2000, 500, 500, 2000, 500] fun rpm hrpm => by fin_cases hrpm <;> decide

end Fancon
