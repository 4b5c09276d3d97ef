import Fancon.Fan.SmoothingRuns
import Fancon.Lib.ShrinkingGap

/-! # The number of smoothing intervals

`smoothing_intervals` is the number of calls over which a change of RPM is smoothed. But each call
for another RPM than the target starts counting the intervals anew, so with `n` of them each call
takes the `n`-th part of what is left, until what is left is a minor change. So a request for more
is reached in `n` calls only if the rise is narrow enough for that (`finishes_in_time_iff`).

From `2^31` on the setting is negative as an `int`: the target then moves away from the request,
until the difference of the two overflows, or not at all.
-/
set_option autoImplicit false
set_option maxHeartbeats 250000
set_option maxRecDepth 120000

namespace Fancon

/-! ## What is claimed -/

/-- Of so many calls for `rpm` one returns it. -/
def Reaches (cfg : Settings) (rpmToPwm : RpmToPwm) (rpm : Rpm) (calls : ℕ) (s : Smoothing) : Prop :=
  ∃ made last, smoothRun cfg rpmToPwm (List.replicate calls rpm) s = .ok (made, last) ∧
    ∃ c ∈ made, c.returned = rpm

def FinishesInTime (cfg : Settings) (rpmToPwm : RpmToPwm) (rpm : Rpm) (s : Smoothing) : Prop :=
  Reaches cfg rpmToPwm rpm cfg.smoothingIntervals.val s

/-- The widest rise of which so many intervals leave no more than a minor change before the last
call. -/
def widestRise (intervals : ℕ) (maxRpm : Rpm) : ℕ :=
  (ShrinkingGap.widen intervals)^[intervals - 1] ((maxRpm.val - 1) / 10)

/-- The rise is reached in time. -/
def RiseFits (intervals : U32) (maxRpm : Rpm) (rise : ℕ) : Prop :=
  if intervals.val < 2147483648 then intervals.val = 1 ∨ rise ≤ widestRise intervals.val maxRpm
  else 10 * rise < maxRpm.val ∨ 4294967296 ≤ rise + intervals.val

instance (intervals : U32) (maxRpm : Rpm) (rise : ℕ) :
    Decidable (RiseFits intervals maxRpm rise) := by
  unfold RiseFits
  infer_instance

/-! ## The gap between the target and the request -/

/-- What the target is below the request, modulo `2^32`. -/
def Smoothing.gap (s : Smoothing) (rpm : Rpm) : ℕ := (rpm - s.targetedRpm : U32).val

section
variable {cfg : Settings} {rpmToPwm : RpmToPwm} {max : Rpm × Pwm} {maxRpm rpm : Rpm}
  {s s' : Smoothing}

theorem Smoothing.delta_eq (s : Smoothing) (rpm : Rpm) : s.delta rpm =
    if s.gap rpm < 2147483648 then (s.gap rpm : ℤ) else (s.gap rpm : ℤ) - 4294967296 :=
  U32.toI32_val _

theorem Smoothing.gap_eq_zero : s.gap rpm = 0 ↔ s.targetedRpm = rpm := by
  rw [Smoothing.gap, Fin.val_eq_zero_iff, sub_eq_zero]
  exact eq_comm

theorem Smoothing.gap_lt (s : Smoothing) (rpm : Rpm) : s.gap rpm < 4294967296 :=
  (rpm - s.targetedRpm : U32).isLt

/-- A target that moves by a part of the gap leaves the rest of it. -/
theorem Smoothing.gap_of_moved (rpm : Rpm) {part : ℤ}
    (htargeted : s'.targetedRpm = s.targetedRpm + U32.wrap part) (hlow : part ≤ s.gap rpm)
    (hhigh : s.gap rpm < 4294967296 + part) : (s'.gap rpm : ℤ) = s.gap rpm - part := by
  have hleft : (rpm - s.targetedRpm : U32).val = s.gap rpm := rfl
  rw [Smoothing.gap, htargeted, ← sub_sub]
  generalize s.gap rpm = gap at hlow hhigh hleft ⊢
  simp only [U32.wrap, Fin.sub_def]
  omega

/-- What a call for more leads to. -/
theorem SmoothTurn.of_pos (h : SmoothTurn cfg maxRpm rpm s s') (hrunning : s.justStarted = false)
    (hpos : 0 < s.delta rpm) : s'.targetedRpm = rpm ∧ 10 * s.delta rpm < maxRpm.val ∨
      maxRpm.val ≤ 10 * s.delta rpm ∧ s'.justStarted = false ∧
      s'.topStickinessRemIntervals = (U32.toI32 cfg.topStickinessIntervals).val ∧
      s'.targetedRpm = s.targetedRpm +
        U32.wrap ((s.delta rpm).tdiv (U32.toI32 cfg.smoothingIntervals).val) := by
  cases h with
  | same heq => exact absurd (Smoothing.delta_eq_zero.mpr heq) hpos.ne'
  | started _ hstart => exact absurd hstart (by rw [hrunning]; exact Bool.false_ne_true)
  | held hneg => omega
  | lowered hneg => omega
  | raised _ _ hminor => exact Or.inl ⟨rfl, hminor⟩
  | approached _ _ hmajor => exact Or.inr ⟨hmajor, hrunning, by simp only, rfl⟩

/-- What a call for less leads to. -/
theorem SmoothTurn.of_neg (h : SmoothTurn cfg maxRpm rpm s s') (hrunning : s.justStarted = false)
    (hneg : s.delta rpm < 0) : s'.targetedRpm = rpm ∨
      0 < s.topStickinessRemIntervals ∧
      s' = { s with topStickinessRemIntervals := s.topStickinessRemIntervals - 1 } := by
  cases h with
  | same heq => exact absurd (Smoothing.delta_eq_zero.mpr heq) hneg.ne
  | started _ hstart => exact absurd hstart (by rw [hrunning]; exact Bool.false_ne_true)
  | held _ _ hsticky => exact Or.inr ⟨hsticky, rfl⟩
  | lowered => exact Or.inl rfl
  | raised hpos => omega
  | approached hpos => omega

/-! ## Runs of one request -/

theorem smoothRun_returns (hmax : rpmToPwm.entries.getLast? = some max)
    (hn : cfg.smoothingIntervals ≠ 0) (rpms : List Rpm) (s : Smoothing) :
    ∃ r, smoothRun cfg rpmToPwm rpms s = .ok r := by
  induction rpms generalizing s with
  | nil => exact ⟨_, rfl⟩
  | cons rpm rpms ih =>
    obtain ⟨s', -, hcons⟩ := smoothRun_cons hmax hn rpm s
    obtain ⟨r, hr⟩ := ih s'
    exact ⟨_, by rw [hcons, hr]; rfl⟩

theorem not_reaches_zero : ¬ Reaches cfg rpmToPwm rpm 0 s := by
  rintro ⟨made, last, hrun, c, hc, -⟩
  obtain ⟨rfl, -⟩ := Prod.ext_iff.mp (Except.ok.inj hrun)
  cases hc

theorem reaches_succ (hmax : rpmToPwm.entries.getLast? = some max)
    (hn : cfg.smoothingIntervals ≠ 0) (rpm : Rpm) (s : Smoothing) :
    ∃ s', SmoothTurn cfg max.1 rpm s s' ∧ ∀ calls, Reaches cfg rpmToPwm rpm (calls + 1) s ↔
      s'.targetedRpm = rpm ∨ Reaches cfg rpmToPwm rpm calls s' := by
  obtain ⟨s', hturn, hcons⟩ := smoothRun_cons hmax hn rpm s
  refine ⟨s', hturn, fun calls => ?_⟩
  obtain ⟨⟨made, last⟩, hrun⟩ := smoothRun_returns hmax hn (List.replicate calls rpm) s'
  have hfirst := hcons (List.replicate calls rpm)
  rw [hrun] at hfirst
  constructor
  · rintro ⟨made', last', hrun', c, hc, hreturned⟩
    rw [List.replicate_succ, hfirst] at hrun'
    obtain ⟨rfl, -⟩ := Prod.ext_iff.mp (Except.ok.inj hrun')
    rcases List.mem_cons.mp hc with rfl | hc
    · exact Or.inl hreturned
    · exact Or.inr ⟨made, last, hrun, c, hc, hreturned⟩
  · intro h
    refine ⟨_, _, hfirst, ?_⟩
    rcases h with h | ⟨made', last', hrun', c, hc, hreturned⟩
    · exact ⟨_, List.mem_cons_self, h⟩
    · obtain ⟨rfl, -⟩ := Prod.ext_iff.mp (Except.ok.inj (hrun.symm.trans hrun'))
      exact ⟨c, List.mem_cons_of_mem _ hc, hreturned⟩

/-- A request for more is returned at once if the rise is a minor change. -/
theorem reaches_of_rise (hmax : rpmToPwm.entries.getLast? = some max)
    (hn : cfg.smoothingIntervals ≠ 0) (hrunning : s.justStarted = false) (hpos : 0 < s.gap rpm)
    (hgap : s.gap rpm < 2147483648) :
    10 * s.gap rpm < max.1.val ∧ (∀ calls, Reaches cfg rpmToPwm rpm (calls + 1) s) ∨
      max.1.val ≤ 10 * s.gap rpm ∧ ∃ s', s'.justStarted = false ∧
        s'.topStickinessRemIntervals = (U32.toI32 cfg.topStickinessIntervals).val ∧
        s'.targetedRpm = s.targetedRpm +
          U32.wrap ((s.gap rpm : ℤ).tdiv (U32.toI32 cfg.smoothingIntervals).val) ∧
        ∀ calls, Reaches cfg rpmToPwm rpm (calls + 1) s ↔
          s'.targetedRpm = rpm ∨ Reaches cfg rpmToPwm rpm calls s' := by
  obtain ⟨s', hturn, hsucc⟩ := reaches_succ hmax hn rpm s
  have hdelta := s.delta_eq rpm
  rw [if_pos hgap] at hdelta
  rcases hturn.of_pos hrunning (by omega) with
    ⟨heq, hminor⟩ | ⟨hmajor, hrunning', hsticky, htargeted⟩
  · exact Or.inl ⟨by omega, fun calls => (hsucc calls).mpr (Or.inl heq)⟩
  · rw [hdelta] at htargeted
    exact Or.inr ⟨by omega, s', hrunning', hsticky, htargeted, hsucc⟩

/-! ## Fewer than `2^31` intervals -/

theorem gap_of_approached (hn : cfg.smoothingIntervals.val < 2147483648)
    (hgap : s.gap rpm < 2147483648) (htargeted : s'.targetedRpm = s.targetedRpm +
      U32.wrap ((s.gap rpm : ℤ).tdiv (U32.toI32 cfg.smoothingIntervals).val)) :
    s'.gap rpm = ShrinkingGap.shrink cfg.smoothingIntervals.val (s.gap rpm) := by
  have hpart := Nat.div_le_self (s.gap rpm) cfg.smoothingIntervals.val
  rw [U32.toI32_of_small hn, ← Int.ofNat_tdiv] at htargeted
  rw [ShrinkingGap.shrink]
  generalize s.gap rpm / cfg.smoothingIntervals.val = part at hpart htargeted ⊢
  have hmoved := Smoothing.gap_of_moved rpm htargeted (by omega) (by omega)
  omega

/-- With two intervals or more a request for more is returned once what is left is a minor
change. -/
theorem reaches_iff_minor (hmax : rpmToPwm.entries.getLast? = some max)
    (hn : 2 ≤ cfg.smoothingIntervals.val) (hn' : cfg.smoothingIntervals.val < 2147483648)
    (hrunning : s.justStarted = false) (hpos : 0 < s.gap rpm) (hgap : s.gap rpm < 2147483648)
    (calls : ℕ) : Reaches cfg rpmToPwm rpm (calls + 1) s ↔
      ∃ j ≤ calls, 10 * (ShrinkingGap.shrink cfg.smoothingIntervals.val)^[j] (s.gap rpm) <
        max.1.val := by
  have hne : cfg.smoothingIntervals ≠ 0 := fun h => absurd (h ▸ hn) (by decide)
  induction calls generalizing s with
  | zero =>
    rcases reaches_of_rise hmax hne hrunning hpos hgap with
      ⟨hminor, hreaches⟩ | ⟨hmajor, s', -, -, htargeted, hsucc⟩
    · exact iff_of_true (hreaches 0) ⟨0, le_rfl, hminor⟩
    · have hleft := gap_of_approached hn' hgap htargeted
      have hpos' : 0 < s'.gap rpm := hleft ▸ ShrinkingGap.shrink_pos hn hpos
      rw [hsucc, or_iff_left not_reaches_zero]
      refine iff_of_false (fun heq => hpos'.ne' (Smoothing.gap_eq_zero.mpr heq)) ?_
      rintro ⟨j, hj, hminor⟩
      obtain rfl := Nat.le_zero.mp hj
      exact hmajor.not_gt hminor
  | succ calls ih =>
    rcases reaches_of_rise hmax hne hrunning hpos hgap with
      ⟨hminor, hreaches⟩ | ⟨hmajor, s', hrunning', -, htargeted, hsucc⟩
    · exact iff_of_true (hreaches _) ⟨0, Nat.zero_le _, hminor⟩
    · have hleft := gap_of_approached hn' hgap htargeted
      have hpos' : 0 < s'.gap rpm := hleft ▸ ShrinkingGap.shrink_pos hn hpos
      have hle : s'.gap rpm ≤ s.gap rpm := hleft ▸ ShrinkingGap.shrink_le _ _
      rw [hsucc, or_iff_right fun heq => hpos'.ne' (Smoothing.gap_eq_zero.mpr heq)]
      apply (ih hrunning' hpos' (hle.trans_lt hgap)).trans
      rw [hleft]
      constructor
      · rintro ⟨j, hj, hminor⟩
        exact ⟨j + 1, Nat.succ_le_succ hj, by rwa [Function.iterate_succ_apply]⟩
      · rintro ⟨_ | j, hj, hminor⟩
        · exact absurd hminor hmajor.not_gt
        · rw [Function.iterate_succ_apply] at hminor
          exact ⟨j, Nat.le_of_succ_le_succ hj, hminor⟩

theorem reaches_iff_of_small (hmax : rpmToPwm.entries.getLast? = some max)
    (hn : cfg.smoothingIntervals ≠ 0) (hn' : cfg.smoothingIntervals.val < 2147483648)
    (hrunning : s.justStarted = false) (hpos : 0 < s.gap rpm) (hgap : s.gap rpm < 2147483648) :
    FinishesInTime cfg rpmToPwm rpm s ↔ cfg.smoothingIntervals.val = 1 ∨
      s.gap rpm ≤ widestRise cfg.smoothingIntervals.val max.1 := by
  have hn0 : cfg.smoothingIntervals.val ≠ 0 := fun h => hn (Fin.ext h)
  obtain ⟨calls, hcalls⟩ := Nat.exists_eq_add_one_of_ne_zero hn0
  rw [FinishesInTime, hcalls]
  cases calls with
  | zero =>
    refine iff_of_true ?_ (Or.inl rfl)
    rcases reaches_of_rise hmax hn hrunning hpos hgap with
      ⟨-, hreaches⟩ | ⟨-, s', -, -, htargeted, hsucc⟩
    · exact hreaches 0
    · refine (hsucc 0).mpr (Or.inl (Smoothing.gap_eq_zero.mp ?_))
      rw [gap_of_approached hn' hgap htargeted, hcalls, ShrinkingGap.shrink, zero_add, Nat.div_one,
        Nat.sub_self]
  | succ calls =>
    have hn2 : 2 ≤ cfg.smoothingIntervals.val := by omega
    rw [reaches_iff_minor hmax hn2 hn' hrunning hpos hgap, or_iff_right (by omega), widestRise,
      ← hcalls, Nat.sub_eq_of_eq_add hcalls, ← ShrinkingGap.exists_shrink_le_iff hn2]
    refine exists_congr fun j => and_congr_right fun _ => ?_
    have hleft := ShrinkingGap.shrink_iterate_pos hn2 hpos j
    omega

/-! ## `2^31` intervals and more -/

/-- The target then moves away from the request. -/
theorem gap_of_parted (hn : 2147483648 ≤ cfg.smoothingIntervals.val)
    (hgap : s.gap rpm < 2147483648) (htargeted : s'.targetedRpm = s.targetedRpm +
      U32.wrap ((s.gap rpm : ℤ).tdiv (U32.toI32 cfg.smoothingIntervals).val)) :
    s'.gap rpm = s.gap rpm + s.gap rpm / (4294967296 - cfg.smoothingIntervals.val) := by
  have hlt := cfg.smoothingIntervals.isLt
  have hpart := Nat.div_le_self (s.gap rpm) (4294967296 - cfg.smoothingIntervals.val)
  have hnegative : (U32.toI32 cfg.smoothingIntervals).val =
      -((4294967296 - cfg.smoothingIntervals.val : ℕ) : ℤ) := by
    rw [U32.toI32_val, if_neg (not_lt.mpr hn)]
    omega
  rw [hnegative, Int.tdiv_neg, ← Int.ofNat_tdiv] at htargeted
  generalize s.gap rpm / (4294967296 - cfg.smoothingIntervals.val) = part at hpart htargeted ⊢
  have hmoved := Smoothing.gap_of_moved rpm htargeted (by omega) (by omega)
  omega

theorem not_reaches_of_stuck (hmax : rpmToPwm.entries.getLast? = some max)
    (hn : 2147483648 ≤ cfg.smoothingIntervals.val) (hrunning : s.justStarted = false)
    (hpos : 0 < s.gap rpm) (hmajor : max.1.val ≤ 10 * s.gap rpm)
    (hstuck : s.gap rpm + cfg.smoothingIntervals.val < 4294967296) (calls : ℕ) :
    ¬ Reaches cfg rpmToPwm rpm calls s := by
  have hne : cfg.smoothingIntervals ≠ 0 := fun h => absurd (h ▸ hn) (by decide)
  induction calls generalizing s with
  | zero => exact not_reaches_zero
  | succ calls ih =>
    have hgap : s.gap rpm < 2147483648 := by omega
    rcases reaches_of_rise hmax hne hrunning hpos hgap with
      ⟨hminor, -⟩ | ⟨-, s', hrunning', -, htargeted, hsucc⟩
    · omega
    · have hsame := gap_of_parted hn hgap htargeted
      rw [Nat.div_eq_of_lt (by omega), add_zero] at hsame
      rw [hsucc, not_or]
      exact ⟨fun heq => hpos.ne' (hsame ▸ Smoothing.gap_eq_zero.mpr heq),
        ih hrunning' (hsame ▸ hpos) (hsame ▸ hmajor) (hsame ▸ hstuck)⟩

/-- Where the difference has overflowed, the request is one for less, and is returned after the
stickiness. -/
theorem reaches_of_overflow (hmax : rpmToPwm.entries.getLast? = some max)
    (hn : cfg.smoothingIntervals ≠ 0) (hrunning : s.justStarted = false)
    (hgap : 2147483648 ≤ s.gap rpm) {calls : ℕ}
    (hcalls : s.topStickinessRemIntervals.toNat < calls) : Reaches cfg rpmToPwm rpm calls s := by
  induction calls generalizing s with
  | zero => omega
  | succ calls ih =>
    obtain ⟨s', hturn, hsucc⟩ := reaches_succ hmax hn rpm s
    have hdelta := s.delta_eq rpm
    rw [if_neg (not_lt.mpr hgap)] at hdelta
    have hlt := s.gap_lt rpm
    rw [hsucc]
    apply (hturn.of_neg hrunning (by omega)).imp_right
    rintro ⟨hsticky, rfl⟩
    exact ih hrunning hgap (by simp only; omega)

theorem reaches_of_parted (hmax : rpmToPwm.entries.getLast? = some max)
    (hn : 2147483648 ≤ cfg.smoothingIntervals.val) (hrunning : s.justStarted = false)
    (hgap : s.gap rpm < 2147483648) (hparts : 4294967296 ≤ s.gap rpm + cfg.smoothingIntervals.val)
    {calls : ℕ} (hcalls : 2147483648 - s.gap rpm +
      (U32.toI32 cfg.topStickinessIntervals).val.toNat + 1 ≤ calls) :
    Reaches cfg rpmToPwm rpm calls s := by
  have hne : cfg.smoothingIntervals ≠ 0 := fun h => absurd (h ▸ hn) (by decide)
  induction calls generalizing s with
  | zero => omega
  | succ calls ih =>
    have hlt := cfg.smoothingIntervals.isLt
    rcases reaches_of_rise hmax hne hrunning (by omega) hgap with
      ⟨-, hreaches⟩ | ⟨-, s', hrunning', hsticky, htargeted, hsucc⟩
    · exact hreaches calls
    · have hwider := gap_of_parted hn hgap htargeted
      have hpart : 0 < s.gap rpm / (4294967296 - cfg.smoothingIntervals.val) :=
        Nat.div_pos (by omega) (by omega)
      refine (hsucc calls).mpr (Or.inr ?_)
      by_cases hgap' : s'.gap rpm < 2147483648
      · exact ih hrunning' hgap' (by omega) (by omega)
      · exact reaches_of_overflow hmax hne hrunning' (not_lt.mp hgap') (by omega)

theorem reaches_iff_of_large (hmax : rpmToPwm.entries.getLast? = some max)
    (hn : 2147483648 ≤ cfg.smoothingIntervals.val) (hrunning : s.justStarted = false)
    (hpos : 0 < s.gap rpm) (hgap : s.gap rpm < 2147483648) :
    FinishesInTime cfg rpmToPwm rpm s ↔
      10 * s.gap rpm < max.1.val ∨ 4294967296 ≤ s.gap rpm + cfg.smoothingIntervals.val := by
  have hne : cfg.smoothingIntervals ≠ 0 := fun h => absurd (h ▸ hn) (by decide)
  constructor
  · intro h
    by_contra hnot
    obtain ⟨hmajor, hstuck⟩ := not_or.mp hnot
    exact not_reaches_of_stuck hmax hn hrunning hpos (not_lt.mp hmajor) (not_le.mp hstuck) _ h
  · rintro (hminor | hparts)
    · obtain ⟨calls, hcalls⟩ := Nat.exists_eq_add_one_of_ne_zero
        (by omega : cfg.smoothingIntervals.val ≠ 0)
      rcases reaches_of_rise hmax hne hrunning hpos hgap with ⟨-, hreaches⟩ | ⟨hmajor, -⟩
      · rw [FinishesInTime, hcalls]
        exact hreaches calls
      · omega
    · have hsticky := (U32.toI32 cfg.topStickinessIntervals).property.2
      exact reaches_of_parted hmax hn hrunning hgap hparts (by omega)

/-- **A request for more is reached within the configured number of intervals exactly when the rise
is narrow enough for the calls to come down to a minor change.** -/
theorem finishes_in_time_iff (cfg : Settings) (hn : cfg.smoothingIntervals ≠ 0)
    (rpmToPwm : RpmToPwm) (hne : rpmToPwm.entries ≠ []) (s : Smoothing)
    (hrunning : s.justStarted = false) (rpm : Rpm) (hrpm : rpm.val < 2147483648)
    (hrise : s.targetedRpm < rpm) :
    FinishesInTime cfg rpmToPwm rpm s ↔
      RiseFits cfg.smoothingIntervals (rpmToPwm.entries.getLast hne).1
        (rpm.val - s.targetedRpm.val) := by
  have hlt : s.targetedRpm.val < rpm.val := hrise
  have hgap : s.gap rpm = rpm.val - s.targetedRpm.val := Fin.sub_val_of_le hrise.le
  have hmax := List.getLast?_eq_some_getLast hne
  rw [RiseFits, ← hgap]
  split_ifs with hn'
  · exact reaches_iff_of_small hmax hn hn' hrunning (by omega) (by omega)
  · exact reaches_iff_of_large hmax (not_lt.mp hn') hrunning (by omega) (by omega)

end

/-! ## Two calibrated points -/

/-- A fan that turns at 1000 RPM. -/
def slowSmoothing : Smoothing := ⟨false, 0, 1000, 0⟩

/-- The widest rise that the default of 4 intervals allows: three calls bring it down to 199 RPM. -/
theorem finishes_in_time_rise : FinishesInTime {} twoPoints 1470 slowSmoothing :=
  (finishes_in_time_iff {} (by decide) twoPoints (by decide) slowSmoothing rfl 1470 (by decide)
    (by decide)).mpr (by decide)

/-- With 4 intervals a request for 2000 RPM has come to 1682 RPM after the fourth call. -/
theorem four_intervals_too_few :
    ¬ ∀ (cfg : Settings) (rpmToPwm : RpmToPwm) (s : Smoothing) (rpm : Rpm),
      cfg.smoothingIntervals ≠ 0 → rpmToPwm.entries ≠ [] → s.justStarted = false →
      rpm.val < 2147483648 → s.targetedRpm < rpm → FinishesInTime cfg rpmToPwm rpm s := by
  intro h
  have hfinishes := h {} twoPoints slowSmoothing 2000 (by decide) (by decide) rfl (by decide)
    (by decide)
  have hmax : twoPoints.entries.getLast? = some (2000, 200) := by decide
  have hfits := (reaches_iff_of_small hmax (by decide) (by decide) rfl (by decide)
    (by decide)).mp hfinishes
  revert hfits
  decide

end Fancon
