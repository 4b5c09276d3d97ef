import Mathlib

/-! # Trying again until an attempt succeeds

An attempt changes the state and says whether it succeeded. A retry makes attempts up to the first
that succeeds, and at most so many. It fails exactly if that many attempts, each in the state that
the one before it left, all fail.
-/
set_option autoImplicit false
set_option maxHeartbeats 250000
set_option maxRecDepth 120000

namespace Retry

variable {σ τ : Type}

def run (attempt : σ → Bool × σ) : ℕ → σ → Bool × σ
  | 0, s => (false, s)
  | n + 1, s =>
    let r := attempt s
    if r.1 then (true, r.2) else run attempt n r.2

/-- The state after so many attempts, whatever they come to. -/
def after (attempt : σ → Bool × σ) (n : ℕ) (s : σ) : σ := (fun s => (attempt s).2)^[n] s

def AllFail (attempt : σ → Bool × σ) (n : ℕ) (s : σ) : Prop :=
  ∀ i < n, (attempt (after attempt i s)).1 = false

variable {attempt : σ → Bool × σ}

theorem allFail_zero (s : σ) : AllFail attempt 0 s := fun i hi => absurd hi (Nat.not_lt_zero i)

theorem allFail_succ {n : ℕ} {s : σ} :
    AllFail attempt (n + 1) s ↔ (attempt s).1 = false ∧ AllFail attempt n (attempt s).2 := by
  constructor
  · exact fun h => ⟨h 0 (Nat.zero_lt_succ n), fun i hi => h (i + 1) (Nat.succ_lt_succ hi)⟩
  · rintro ⟨hfirst, hrest⟩ i hi
    cases i with
    | zero => exact hfirst
    | succ i => exact hrest i (Nat.lt_of_succ_lt_succ hi)

/-- **A retry fails exactly if all the attempts it may make fail.** -/
theorem run_eq_false_iff {n : ℕ} {s : σ} : (run attempt n s).1 = false ↔ AllFail attempt n s := by
  induction n generalizing s with
  | zero => exact ⟨fun _ => allFail_zero s, fun _ => rfl⟩
  | succ n ih =>
    unfold run
    dsimp only
    rw [allFail_succ]
    split_ifs with hr
    · exact ⟨nofun, fun h => absurd (h.1.symm.trans hr) Bool.false_ne_true⟩
    · rw [ih]
      exact ⟨fun h => ⟨Bool.eq_false_iff.mpr hr, h⟩, And.right⟩

/-- What every attempt keeps is kept by a retry. -/
theorem run_keeps {P : σ → Prop} (hstep : ∀ s, P s → P (attempt s).2) (n : ℕ) {s : σ} (hs : P s) :
    P (run attempt n s).2 := by
  induction n generalizing s with
  | zero => exact hs
  | succ n ih =>
    unfold run
    dsimp only
    split_ifs
    · exact hstep s hs
    · exact ih (hstep s hs)

/-- Attempts on a part of the state, which the rest has no influence on. -/
theorem allFail_iff_of_part {attempt' : τ → Bool × τ} (part : σ → τ)
    (h : ∀ s, (attempt s).1 = (attempt' (part s)).1 ∧
      part (attempt s).2 = (attempt' (part s)).2) {n : ℕ} {s : σ} :
    AllFail attempt n s ↔ AllFail attempt' n (part s) := by
  induction n generalizing s with
  | zero => exact ⟨fun _ => allFail_zero _, fun _ => allFail_zero _⟩
  | succ n ih => rw [allFail_succ, allFail_succ, (h s).1, ih, (h s).2]

end Retry
