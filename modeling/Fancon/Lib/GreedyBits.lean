import Mathlib

/-! # Bits by subtraction from the top

Going down from bit `n - 1`, a bit is set if its value fits what is left, and is then subtracted.
Below `2 ^ n` this finds the binary digits and leaves nothing. From `2 ^ n` on every bit is set,
whatever the digits are, and what the bits do not make up is left over.
-/
set_option autoImplicit false
set_option maxHeartbeats 250000
set_option maxRecDepth 120000

namespace GreedyBits

/-- The bits that have been decided, and what is left of the number. -/
structure State where
  set : ℕ → Bool
  rest : ℕ

def takeBit (i : ℕ) (s : State) : State :=
  if 2 ^ i ≤ s.rest then ⟨Function.update s.set i true, s.rest - 2 ^ i⟩
  else ⟨Function.update s.set i false, s.rest⟩

def takeBits : ℕ → State → State
  | 0, s => s
  | n + 1, s => takeBits n (takeBit n s)

variable {n : ℕ} {s : State}

theorem set_takeBit_of_ne {i j : ℕ} (h : j ≠ i) : (takeBit i s).set j = s.set j := by
  unfold takeBit
  split_ifs <;> exact Function.update_of_ne h _ _

theorem set_takeBit_self (i : ℕ) : (takeBit i s).set i = decide (2 ^ i ≤ s.rest) := by
  unfold takeBit
  split_ifs with h <;> simp [h]

/-- The bits from `n` on stay as they are. -/
theorem set_takeBits_of_le {j : ℕ} (h : n ≤ j) : (takeBits n s).set j = s.set j := by
  induction n generalizing s with
  | zero => rfl
  | succ n ih => rw [takeBits, ih (by omega), set_takeBit_of_ne (by omega)]

/-- The top bit of what is left is its binary digit, and what is left then are the lower digits. -/
theorem takeBit_of_lt (h : s.rest < 2 ^ (n + 1)) :
    (takeBit n s).set n = s.rest.testBit n ∧ (takeBit n s).rest = s.rest % 2 ^ n := by
  rw [set_takeBit_self, Nat.testBit_eq_decide_div_mod_eq]
  rw [Nat.pow_succ] at h
  unfold takeBit
  split_ifs with hle
  · have hdiv : s.rest / 2 ^ n = 1 :=
      Nat.div_eq_of_lt_le (by omega) (by omega)
    have hmod := Nat.div_add_mod s.rest (2 ^ n)
    rw [hdiv, Nat.mul_one] at hmod
    refine ⟨by simp [hdiv, hle], ?_⟩
    show s.rest - 2 ^ n = s.rest % 2 ^ n
    omega
  · rw [Nat.div_eq_of_lt (not_le.mp hle), Nat.mod_eq_of_lt (not_le.mp hle)]
    exact ⟨by simp [hle], rfl⟩

/-- **Below `2 ^ n` the bits are the binary digits.** -/
theorem takeBits_of_lt (h : s.rest < 2 ^ n) : (takeBits n s).rest = 0 ∧
    ∀ i < n, (takeBits n s).set i = s.rest.testBit i := by
  induction n generalizing s with
  | zero => exact ⟨Nat.lt_one_iff.mp h, fun i hi => absurd hi (Nat.not_lt_zero i)⟩
  | succ n ih =>
    obtain ⟨htop, hrest⟩ := takeBit_of_lt h
    obtain ⟨hzero, hset⟩ := ih (s := takeBit n s) (hrest ▸ Nat.mod_lt _ (Nat.two_pow_pos n))
    refine ⟨hzero, fun i hi => ?_⟩
    rcases Nat.lt_succ_iff_lt_or_eq.mp hi with hlt | rfl
    · rw [takeBits, hset i hlt, hrest, Nat.testBit_mod_two_pow, decide_eq_true hlt, Bool.true_and]
    · rw [takeBits, set_takeBits_of_le le_rfl, htop]

/-- **From `2 ^ n` on all bits are set.** -/
theorem takeBits_of_le (h : 2 ^ n ≤ s.rest) : (takeBits n s).rest = s.rest - (2 ^ n - 1) ∧
    ∀ i < n, (takeBits n s).set i = true := by
  induction n generalizing s with
  | zero => exact ⟨rfl, fun i hi => absurd hi (Nat.not_lt_zero i)⟩
  | succ n ih =>
    rw [Nat.pow_succ] at h
    have hpos := Nat.two_pow_pos n
    have hrest : (takeBit n s).rest = s.rest - 2 ^ n := by
      rw [takeBit, if_pos (by omega)]
    obtain ⟨hleft, hset⟩ := ih (s := takeBit n s) (by omega)
    refine ⟨?_, fun i hi => ?_⟩
    · rw [takeBits, hleft, hrest, Nat.pow_succ]
      omega
    · rcases Nat.lt_succ_iff_lt_or_eq.mp hi with hlt | rfl
      · exact hset i hlt
      · rw [takeBits, set_takeBits_of_le le_rfl, set_takeBit_self]
        exact decide_eq_true (by omega)

end GreedyBits
