import Mathlib

/-! # A gap that closes by an `n`-th of itself

Every step takes the integer `n`-th part of what is left off a gap. The widest gap that `k` steps
bring down to `t` is found going backwards from `t`: `shrink` and `widen` are a Galois connection,
and so are their iterates.
-/
set_option autoImplicit false
set_option maxHeartbeats 250000
set_option maxRecDepth 120000

namespace ShrinkingGap

def shrink (n d : ℕ) : ℕ := d - d / n

/-- The widest gap that one step brings down to `t`. -/
def widen (n t : ℕ) : ℕ := t * n / (n - 1)

theorem shrink_le (n d : ℕ) : shrink n d ≤ d := Nat.sub_le _ _

theorem shrink_pos {n d : ℕ} (hn : 2 ≤ n) (hd : 0 < d) : 0 < shrink n d :=
  Nat.sub_pos_of_lt (Nat.div_lt_self hd hn)

theorem shrink_gc {n : ℕ} (hn : 2 ≤ n) : GaloisConnection (shrink n) (widen n) := by
  intro d t
  obtain ⟨m, rfl⟩ : ∃ m, n = m + 1 := ⟨n - 1, by omega⟩
  have hm : 0 < m := by omega
  -- with `d = (m + 1) * q + r`, what is left is `m * q + r`
  have hd := Nat.div_add_mod d (m + 1)
  have hr : d % (m + 1) < m + 1 := Nat.mod_lt d (Nat.succ_pos m)
  have hleft : shrink (m + 1) d = m * (d / (m + 1)) + d % (m + 1) := by
    unfold shrink
    rw [Nat.sub_eq_iff_eq_add (Nat.div_le_self _ _)]
    nlinarith
  have hprod : d * m + d % (m + 1) = (m * (d / (m + 1)) + d % (m + 1)) * (m + 1) := by
    conv_lhs => rw [← hd]
    rw [Nat.mul_add_mod, Nat.mod_mod]
    ring
  rw [widen, Nat.add_sub_cancel, Nat.le_div_iff_mul_le hm, hleft]
  constructor
  · intro h
    calc d * m ≤ (m * (d / (m + 1)) + d % (m + 1)) * (m + 1) := by omega
      _ ≤ t * (m + 1) := Nat.mul_le_mul_right _ h
  · intro h
    by_contra hgt
    have hsucc := Nat.mul_le_mul_right (m + 1) (not_le.mp hgt)
    rw [← hprod, Nat.succ_mul] at hsucc
    omega

theorem iterate_gc {α : Type} [Preorder α] {l u : α → α} (h : GaloisConnection l u) (k : ℕ) :
    GaloisConnection l^[k] u^[k] := by
  induction k with
  | zero => exact GaloisConnection.id
  | succ k ih =>
    rw [Function.iterate_succ', Function.iterate_succ]
    exact ih.compose h

theorem shrink_iterate_antitone (n d : ℕ) : Antitone fun k => (shrink n)^[k] d :=
  antitone_nat_of_succ_le fun k => by
    rw [Function.iterate_succ_apply']
    exact shrink_le n _

theorem shrink_iterate_pos {n d : ℕ} (hn : 2 ≤ n) (hd : 0 < d) (k : ℕ) :
    0 < (shrink n)^[k] d := by
  induction k with
  | zero => exact hd
  | succ k ih =>
    rw [Function.iterate_succ_apply']
    exact shrink_pos hn ih

/-- Within `k` steps a gap comes down to `t` exactly if it is no wider than the widest such gap. -/
theorem exists_shrink_le_iff {n : ℕ} (hn : 2 ≤ n) {d t k : ℕ} :
    (∃ j ≤ k, (shrink n)^[j] d ≤ t) ↔ d ≤ (widen n)^[k] t := by
  rw [← iterate_gc (shrink_gc hn) k d t]
  constructor
  · rintro ⟨j, hj, h⟩
    exact (shrink_iterate_antitone n d hj).trans h
  · exact fun h => ⟨k, le_rfl, h⟩

end ShrinkingGap
