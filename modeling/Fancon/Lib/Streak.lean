import Mathlib

/-! # Counting how often in a row something happened

A counter that goes up with every event of a kind and falls back to 0 with every other one has
reached `m` exactly when the last `m` events were of that kind.
-/
set_option autoImplicit false
set_option maxHeartbeats 250000
set_option maxRecDepth 120000

namespace Streak

/-- The counter after `n` events, of which those with `p` count. -/
def length (p : ℕ → Bool) : ℕ → ℕ
  | 0 => 0
  | n + 1 => if p n then length p n + 1 else 0

theorem le_length_iff {p : ℕ → Bool} {m n : ℕ} :
    m ≤ length p n ↔ m ≤ n ∧ ∀ i, n - m ≤ i → i < n → p i = true := by
  induction n generalizing m with
  | zero =>
    rw [length]
    exact ⟨fun h => ⟨h, fun i _ hi => absurd hi (Nat.not_lt_zero i)⟩, And.left⟩
  | succ n ih =>
    cases m with
    | zero => exact ⟨fun _ => ⟨Nat.zero_le _, fun i hle hlt => by omega⟩, fun _ => Nat.zero_le _⟩
    | succ m =>
      rw [length]
      split_ifs with hp
      · rw [Nat.succ_le_succ_iff, ih, Nat.succ_le_succ_iff, Nat.succ_sub_succ]
        refine and_congr_right fun hmn => ⟨fun h i hle hlt => ?_, fun h i hle hlt => ?_⟩
        · rcases Nat.lt_succ_iff_lt_or_eq.mp hlt with hlt | rfl
          · exact h i hle hlt
          · exact hp
        · exact h i hle (hlt.trans (Nat.lt_succ_self n))
      · refine ⟨fun h => absurd h (Nat.not_succ_le_zero m), fun h => absurd (h.2 n ?_ ?_) hp⟩
        · omega
        · exact Nat.lt_succ_self n

/-- Where every event counts from some time on, the counter reaches every bound. -/
theorem exists_le_length {p : ℕ → Bool} {N : ℕ} (h : ∀ n, N ≤ n → p n = true) (m : ℕ) :
    ∃ n, m ≤ length p n :=
  ⟨N + m, le_length_iff.mpr ⟨by omega, fun i hi _ => h i (by omega)⟩⟩

end Streak
