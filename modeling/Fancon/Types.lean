import Mathlib

/-! # The machine integers of the source

`uint` is 32 bits wide and wraps around (`U32`); `int` is 32 bits wide and its overflow is
undefined, so a sum of two of them is partial (`I32.add?`). PWM, RPM and percent values are
`uint`, temperatures are `int`.
-/
set_option autoImplicit false
set_option maxHeartbeats 250000
set_option maxRecDepth 120000

namespace Fancon

/-- `uint`. -/
abbrev U32 := Fin 4294967296

instance U32.neZero : NeZero (4294967296 : ℕ) := ⟨by decide⟩

/-- `int`. -/
abbrev I32 := {z : ℤ // -2147483648 ≤ z ∧ z < 2147483648}

abbrev Pwm := U32
abbrev Rpm := U32
abbrev Percent := U32
abbrev Temp := I32

/-! ## Conversions -/

/-- Conversion to `int`: modulo `2^32`, into the signed range. -/
def I32.wrap (z : ℤ) : I32 :=
  ⟨Int.bmod z 4294967296, by have := Int.le_bmod (x := z) (m := 4294967296) (by omega); omega,
    by have := Int.bmod_lt (x := z) (m := 4294967296) (by omega); omega⟩

instance I32.instOfNat (n : ℕ) : OfNat I32 n := ⟨I32.wrap n⟩

/-- Conversion of an `int` to `uint`. -/
def U32.wrap (z : ℤ) : U32 := ⟨(z % 4294967296).toNat, by omega⟩

/-- `static_cast<int>` of a `uint`. -/
def U32.toI32 (x : U32) : I32 := I32.wrap x.val

/-- The sum of two `int`s; an overflow has no defined result. -/
def I32.add? (a b : I32) : Option I32 :=
  if h : -2147483648 ≤ a.val + b.val ∧ a.val + b.val < 2147483648 then some ⟨a.val + b.val, h⟩
  else none

theorem I32.add?_eq_some {a b s : I32} : I32.add? a b = some s ↔ a.val + b.val = s.val := by
  unfold I32.add?
  split_ifs with h
  · simp [Subtype.ext_iff]
  · have hs := s.property
    simp only [false_iff]
    omega

theorem U32.toI32_eq_zero {x : U32} : (U32.toI32 x).val = 0 ↔ x = 0 := by
  have hx := x.isLt
  have hzero : (0 : U32).val = 0 := rfl
  rw [Fin.ext_iff, hzero]
  simp only [U32.toI32, I32.wrap, Int.bmod_def]
  push_cast
  split_ifs <;> omega

theorem U32.toI32_val (x : U32) : (U32.toI32 x).val =
    if x.val < 2147483648 then (x.val : ℤ) else (x.val : ℤ) - 4294967296 := by
  have hx := x.isLt
  simp only [U32.toI32, I32.wrap, Int.bmod_def]
  push_cast
  split_ifs <;> omega

/-- A `double` holding an integer, converted to `uint`; out of range it has no defined result. -/
def U32.ofInt? (z : ℤ) : Option U32 :=
  if h : 0 ≤ z ∧ z < 4294967296 then some ⟨z.toNat, by omega⟩ else none

theorem U32.ofInt?_eq_some {z : ℤ} (hl : 0 ≤ z) (hu : z < 4294967296) :
    U32.ofInt? z = some ⟨z.toNat, by omega⟩ := dif_pos ⟨hl, hu⟩

/-- How a computation of the source can fail to have a result. -/
inductive Fault
  | divisionByZero
  | undefined
deriving DecidableEq

/-! ## PWM bounds -/

def PWM_MIN : Pwm := 0
def PWM_MAX : Pwm := 255

/-- `std::clamp(pwm, PWM_MIN, PWM_MAX)`. -/
def clampPwm (pwm : Pwm) : Pwm :=
  if pwm < PWM_MIN then PWM_MIN else if PWM_MAX < pwm then PWM_MAX else pwm

theorem clampPwm_of_le {pwm : Pwm} (h : pwm ≤ PWM_MAX) : clampPwm pwm = pwm := by
  have hmin : ¬ pwm < PWM_MIN := Fin.not_lt_zero pwm
  rw [clampPwm, if_neg hmin, if_neg (not_lt.mpr h)]

end Fancon
