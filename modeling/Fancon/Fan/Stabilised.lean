import Fancon.Fan.Calibration
import Fancon.Lib.Streak

/-! # What a stabilised reading says

`set_stabilised_pwm` reads the PWM and the RPM in turns. It counts the readings in a row that are
within a tenth of the one before, gives up at the first PWM that is not the one it set, and
returns the fourth such reading (`stabilised_reading_stable`). Below 2^31 the difference it takes
modulo 2^32 and casts back to `int` is the true one.
-/
set_option autoImplicit false
set_option maxHeartbeats 250000
set_option maxRecDepth 120000

namespace Fancon

/-! ## A reading within a tenth of the one before -/

def WithinTenth (prev cur : Rpm) : Prop := 10 * |(cur.val : ℤ) - prev.val| ≤ cur.val

theorem toI32_sub {prev cur : Rpm} (hprev : prev.val < 2147483648) (hcur : cur.val < 2147483648) :
    (U32.toI32 (cur - prev)).val = (cur.val : ℤ) - prev.val := by
  have hval : (cur - prev).val = (4294967296 - prev.val + cur.val) % 4294967296 := by
    rw [Fin.sub_def]
  rw [U32.toI32_val]
  split_ifs <;> omega

theorem stable_iff {prev cur : Rpm} (hprev : prev.val < 2147483648)
    (hcur : cur.val < 2147483648) : FanDevice.stable prev cur = true ↔ WithinTenth prev cur := by
  rw [FanDevice.stable, decide_eq_true_iff, toI32_sub hprev hcur, WithinTenth]

/-- The last four of the readings up to number `n` were each within a tenth of the one before. -/
def FourStable (rpms : ℕ → Rpm) (n : ℕ) : Prop :=
  4 ≤ n ∧ ∀ i, n - 4 ≤ i → i < n → WithinTenth (rpms i) (rpms (i + 1))

namespace FanDevice

variable {σ : Type} (dev : FanDevice σ)

/-! ## The loop turn by turn -/

/-- What one turn of the loop leaves of the fan. -/
def turn (s : σ) : σ := (dev.getRpm (dev.getPwm s).2).2

/-- The PWM that turn `k` reads. -/
def pwmAt (s : σ) (k : ℕ) : Pwm := (dev.getPwm (dev.turn^[k] s)).1

/-- The RPM read before turn `k`. -/
def rpmAt (cur : Rpm) (s : σ) : ℕ → Rpm
  | 0 => cur
  | k + 1 => (dev.getRpm (dev.getPwm (dev.turn^[k] s)).2).1

/-- `reached` before turn `k`. -/
def reachedAt (cur : Rpm) (s : σ) (k : ℕ) : ℕ :=
  Streak.length (fun i => stable (dev.rpmAt cur s i) (dev.rpmAt cur s (i + 1))) k

/-- The loop from turn `k` on. -/
def loopFrom (pwm : Pwm) (cur : Rpm) (s : σ) (turns k : ℕ) : Option (Option Rpm × σ) :=
  dev.stabiliseLoop pwm turns (dev.rpmAt cur s k) (dev.reachedAt cur s k) (dev.turn^[k] s)

variable {dev} {pwm : Pwm} {cur : Rpm} {s : σ}

theorem loopFrom_stable {k : ℕ} (h : 3 < dev.reachedAt cur s k) (turns : ℕ) :
    dev.loopFrom pwm cur s (turns + 1) k = some (some (dev.rpmAt cur s k), dev.turn^[k] s) := by
  rw [loopFrom, stabiliseLoop, if_neg (not_le.mpr h)]

theorem loopFrom_moved {k : ℕ} (h : dev.reachedAt cur s k ≤ 3) (hpwm : dev.pwmAt s k ≠ pwm)
    (turns : ℕ) : dev.loopFrom pwm cur s (turns + 1) k =
      some (none, (dev.getPwm (dev.turn^[k] s)).2) := by
  rw [loopFrom, stabiliseLoop, if_pos h]
  exact if_pos hpwm

theorem loopFrom_turn {k : ℕ} (h : dev.reachedAt cur s k ≤ 3) (hpwm : dev.pwmAt s k = pwm)
    (turns : ℕ) : dev.loopFrom pwm cur s (turns + 1) k =
      dev.loopFrom pwm cur s turns (k + 1) := by
  rw [loopFrom, stabiliseLoop, if_pos h, loopFrom, Function.iterate_succ_apply']
  exact if_neg (not_not.mpr hpwm)

/-- A loop that ends with a reading has held the PWM in every turn, and ends at four in a row. -/
theorem of_loopFrom_some {turns k : ℕ} {r : Rpm} {s' : σ}
    (h : dev.loopFrom pwm cur s turns k = some (some r, s')) :
    ∃ n, (∀ i, k ≤ i → i < n → dev.pwmAt s i = pwm) ∧ 3 < dev.reachedAt cur s n ∧
      r = dev.rpmAt cur s n ∧ s' = dev.turn^[n] s := by
  induction turns generalizing k with
  | zero => cases h
  | succ turns ih =>
    by_cases hreached : dev.reachedAt cur s k ≤ 3
    · by_cases hpwm : dev.pwmAt s k = pwm
      · rw [loopFrom_turn hreached hpwm] at h
        obtain ⟨n, hheld, hend⟩ := ih h
        refine ⟨n, fun i hi hn => ?_, hend⟩
        rcases hi.eq_or_lt with rfl | hi
        · exact hpwm
        · exact hheld i hi hn
      · rw [loopFrom_moved hreached hpwm] at h
        cases h
    · have hlt : 3 < dev.reachedAt cur s k := not_le.mp hreached
      rw [loopFrom_stable hlt] at h
      obtain ⟨rfl, rfl⟩ : dev.rpmAt cur s k = r ∧ dev.turn^[k] s = s' := by
        simpa using h
      exact ⟨k, fun i hi hn => absurd hn (not_lt.mpr hi), hlt, rfl, rfl⟩

/-- A loop that ends without a reading has read another PWM. -/
theorem of_loopFrom_none {turns k : ℕ} {s' : σ}
    (h : dev.loopFrom pwm cur s turns k = some (none, s')) : ∃ n, dev.pwmAt s n ≠ pwm := by
  induction turns generalizing k with
  | zero => cases h
  | succ turns ih =>
    by_cases hreached : dev.reachedAt cur s k ≤ 3
    · by_cases hpwm : dev.pwmAt s k = pwm
      · rw [loopFrom_turn hreached hpwm] at h
        exact ih h
      · exact ⟨k, hpwm⟩
    · rw [loopFrom_stable (not_le.mp hreached)] at h
      cases h

variable (dev pwm cur s) in
/-- Up to a turn before which the loop does not end it goes on to that turn. -/
theorem loopFrom_reaches {n : ℕ} (h : ∀ i < n, dev.reachedAt cur s i ≤ 3 ∧ dev.pwmAt s i = pwm)
    (turns : ℕ) : dev.loopFrom pwm cur s (turns + n) 0 = dev.loopFrom pwm cur s turns n := by
  induction n generalizing turns with
  | zero => rfl
  | succ n ih =>
    obtain ⟨hreached, hpwm⟩ := h n (Nat.lt_succ_self n)
    rw [← loopFrom_turn hreached hpwm, ← ih fun i hi => h i (hi.trans (Nat.lt_succ_self n))]
    congr 1
    omega

/-! ## `set_stabilised_pwm` -/

theorem setStabilisedPwm_refused (h : (dev.setPwm pwm s).1 = false) (turns : ℕ) :
    dev.setStabilisedPwm turns pwm s = some (none, (dev.setPwm pwm s).2) := by
  simp [setStabilisedPwm, h]

theorem setStabilisedPwm_accepted (h : (dev.setPwm pwm s).1 = true) (turns : ℕ) :
    dev.setStabilisedPwm turns pwm s =
      dev.loopFrom pwm (dev.getRpm (dev.setPwm pwm s).2).1 (dev.getRpm (dev.setPwm pwm s).2).2
        turns 0 := by
  simp only [setStabilisedPwm, h, Bool.not_true, Bool.false_eq_true, if_false]
  rfl

/-- The loop gives up at a PWM that is not the one it set, if it reads it before four in a row. -/
theorem loopFrom_gives_up {k : ℕ} (hpwm : dev.pwmAt s k ≠ pwm)
    (hreached : ∀ n ≤ k, dev.reachedAt cur s n ≤ 3) {turns : ℕ} (hturns : k < turns) :
    ∃ s', dev.loopFrom pwm cur s turns 0 = some (none, s') := by
  have hex : ∃ j, dev.pwmAt s j ≠ pwm := ⟨k, hpwm⟩
  have hle : Nat.find hex ≤ k := Nat.find_min' hex hpwm
  obtain ⟨m, rfl⟩ := Nat.exists_eq_add_of_lt (hle.trans_lt hturns)
  have hreach := dev.loopFrom_reaches pwm cur s (n := Nat.find hex)
    (fun i hi => ⟨hreached i (hi.le.trans hle), not_not.mp (Nat.find_min hex hi)⟩) (m + 1)
  refine ⟨(dev.getPwm (dev.turn^[Nat.find hex] s)).2, ?_⟩
  rw [show Nat.find hex + m + 1 = m + 1 + Nat.find hex by omega, hreach]
  exact loopFrom_moved (hreached _ hle) (Nat.find_spec hex) m

/-- A fan that keeps the PWM and whose RPM settles gets a reading. -/
theorem loopFrom_settles (hpwm : ∀ k, dev.pwmAt s k = pwm) {N : ℕ}
    (hsettled : ∀ k, N ≤ k → stable (dev.rpmAt cur s k) (dev.rpmAt cur s (k + 1)) = true) :
    ∃ turns r s', dev.loopFrom pwm cur s turns 0 = some (some r, s') := by
  have hex : ∃ n, 3 < dev.reachedAt cur s n := Streak.exists_le_length hsettled 4
  have hreach := dev.loopFrom_reaches pwm cur s (n := Nat.find hex)
    (fun i hi => ⟨not_lt.mp (Nat.find_min hex hi), hpwm i⟩) 1
  exact ⟨_, _, _, hreach.trans (loopFrom_stable (Nat.find_spec hex) 0)⟩

end FanDevice

/-! ## A fan with given answers -/

/-- A fan that answers with two sequences; the state is how many of the RPMs and of the PWMs have
been read. -/
def answering (accepts : Bool) (rpms : ℕ → Rpm) (pwms : ℕ → Pwm) : FanDevice (ℕ × ℕ) where
  enableControl s := (true, s)
  disableControl s := (true, s)
  setPwm _ s := (accepts, s)
  getPwm s := (pwms s.2, s.1, s.2 + 1)
  getRpm s := (rpms s.1, s.1 + 1, s.2)

section Answering

variable {accepts : Bool} {rpms : ℕ → Rpm} {pwms : ℕ → Pwm}

theorem turn_answering (k : ℕ) : (answering accepts rpms pwms).turn^[k] (1, 0) = (k + 1, k) := by
  induction k with
  | zero => rfl
  | succ k ih => rw [Function.iterate_succ_apply', ih]; rfl

theorem pwmAt_answering (k : ℕ) : (answering accepts rpms pwms).pwmAt (1, 0) k = pwms k := by
  rw [FanDevice.pwmAt, turn_answering]
  rfl

theorem rpmAt_answering (k : ℕ) :
    (answering accepts rpms pwms).rpmAt (rpms 0) (1, 0) k = rpms k := by
  cases k with
  | zero => rfl
  | succ k => rw [FanDevice.rpmAt, turn_answering]; rfl

theorem fourStable_iff (hrpm : ∀ k, (rpms k).val < 2147483648) (n : ℕ) :
    FourStable rpms n ↔ 3 < (answering accepts rpms pwms).reachedAt (rpms 0) (1, 0) n := by
  rw [FanDevice.reachedAt, ← Nat.succ_le_iff, Streak.le_length_iff, FourStable]
  refine and_congr_right fun _ => forall_congr' fun i => imp_congr_right fun _ =>
    imp_congr_right fun _ => ?_
  rw [rpmAt_answering, rpmAt_answering, stable_iff (hrpm i) (hrpm (i + 1))]

/-- What a fan with given answers has left unread when a reading is returned: the reading is the
last RPM, the four up to it were stable, and the PWMs read were all the one that was set. -/
structure StableReading (rpms : ℕ → Rpm) (pwms : ℕ → Pwm) (pwm : Pwm) (r : Rpm) (s : ℕ × ℕ) :
    Prop where
  last : ∃ n, s.1 = n + 1 ∧ r = rpms n ∧ FourStable rpms n
  held : ∀ k < s.2, pwms k = pwm

/-- **A reading that is returned is the last one, stable, and taken under the PWM that was set; a
PWM that is another one, before four stable readings, gives none.** -/
theorem stabilised_reading_stable (accepts : Bool) (rpms : ℕ → Rpm) (pwms : ℕ → Pwm) (pwm : Pwm)
    (hrpm : ∀ k, (rpms k).val < 2147483648) :
    (∀ turns r s, (answering accepts rpms pwms).setStabilisedPwm turns pwm (0, 0) =
      some (some r, s) → StableReading rpms pwms pwm r s) ∧
    ∀ k, pwms k ≠ pwm → (∀ n ≤ k, ¬ FourStable rpms n) → ∀ turns, k < turns →
      ∃ s, (answering accepts rpms pwms).setStabilisedPwm turns pwm (0, 0) = some (none, s) := by
  cases accepts with
  | false =>
    have hrefused : ∀ turns, (answering false rpms pwms).setStabilisedPwm turns pwm (0, 0) =
        some (none, (0, 0)) := FanDevice.setStabilisedPwm_refused rfl
    refine ⟨fun turns r s h => ?_, fun k _ _ turns _ => ⟨_, hrefused turns⟩⟩
    rw [hrefused turns] at h
    cases h
  | true =>
    have haccepted : ∀ turns, (answering true rpms pwms).setStabilisedPwm turns pwm (0, 0) =
        (answering true rpms pwms).loopFrom pwm (rpms 0) (1, 0) turns 0 :=
      FanDevice.setStabilisedPwm_accepted rfl
    constructor
    · intro turns r s h
      rw [haccepted] at h
      obtain ⟨n, hheld, hreached, rfl, rfl⟩ := FanDevice.of_loopFrom_some h
      rw [turn_answering]
      refine ⟨⟨n, rfl, rpmAt_answering n, (fourStable_iff hrpm n).mpr hreached⟩, fun k hk => ?_⟩
      rw [← hheld k (Nat.zero_le k) hk, pwmAt_answering]
    · intro k hk hfour turns hturns
      rw [haccepted]
      refine FanDevice.loopFrom_gives_up (k := k) ?_ (fun n hn => ?_) hturns
      · rwa [pwmAt_answering]
      · exact not_lt.mp fun hlt => hfour n hn ((fourStable_iff hrpm n).mpr hlt)

/-- A fan that stands still for three readings and then runs. -/
def startingRpms (k : ℕ) : Rpm := if k < 3 then 0 else 800

theorem stabilised_reading_starting :
    StableReading startingRpms (fun _ => 100) 100 800 (8, 7) ∧
    ∃ s, (answering true startingRpms fun k => if k < 5 then 100 else 0).setStabilisedPwm 6 100
      (0, 0) = some (none, s) := by
  have hrpm : ∀ k, (startingRpms k).val < 2147483648 := by
    intro k
    unfold startingRpms
    split_ifs <;> decide
  refine ⟨(stabilised_reading_stable true startingRpms (fun _ => 100) 100 hrpm).1 20 800 (8, 7)
    (by decide), ?_⟩
  refine (stabilised_reading_stable true startingRpms (fun k => if k < 5 then 100 else 0) 100
    hrpm).2 5 (by decide) (fun n hn hfour => ?_) 6 (by decide)
  have hjump : ¬ WithinTenth (startingRpms 2) (startingRpms 3) := by
    unfold WithinTenth
    decide
  exact hjump (hfour.2 2 (by omega) (by have := hfour.1; omega))

end Answering

end Fancon
