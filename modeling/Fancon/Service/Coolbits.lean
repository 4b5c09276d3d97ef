import Fancon.Controller.PostfixNum
import Fancon.Lib.GreedyBits

/-! # The coolbits value

`LibXNvCtrl::enable_fan_control_coolbit` takes the bits of the value apart from the top down, takes
a remainder for a mistake in the value, and sets bit 2. From 32 on all five bits are found set and
31 is written, so that options are switched on that were off (`coolbits_fixed_iff`).
-/
set_option autoImplicit false
set_option maxHeartbeats 250000
set_option maxRecDepth 120000

namespace Fancon

/-! ## `enable_fan_control_coolbit` -/

def cbVal (i : ℕ) : U32 := [1, 2, 4, 8, 16].getD i 0

/-- `cbSet` and `curv`. -/
structure Coolbits where
  cbSet : ℕ → Bool
  curv : U32

/-- One turn of the loop over the bits. -/
def Coolbits.take (c : Coolbits) (i : ℕ) : Coolbits :=
  let set := decide (1 ≤ c.curv / cbVal i)
  ⟨Function.update c.cbSet i set, if set then c.curv - cbVal i else c.curv⟩

/-- The loop, from the top bit down. -/
def decompose (initialv : U32) : Coolbits :=
  [4, 3, 2, 1, 0].foldl Coolbits.take ⟨fun _ => false, initialv⟩

/-- The value it decides on. -/
def newCoolbits (initialv : U32) : U32 :=
  let c := decompose initialv
  let newv := if 0 < c.curv then initialv - c.curv else initialv
  if !c.cbSet 2 then newv + cbVal 2 else newv

/-- `enable_fan_control_coolbit`, of the line that `nvidia-xconfig` prints: the value it writes. -/
def enableFanControlCoolbit (l : Text) : Option U32 :=
  if l = [] then none
  else
    let initialv := (Util.postfixNum l).getD 0
    if newCoolbits initialv ≠ initialv then some (newCoolbits initialv) else none

/-- The bits are those of the value, bit 2 is set and no other one is changed, and this is written
if it is another value. -/
structure CoolbitsFixed (v : U32) : Prop where
  bits : ∀ i < 5, (decompose v).cbSet i = v.val.testBit i
  value : (newCoolbits v).val = v.val % 32 ||| 4
  written : ∀ l, l ≠ [] → (Util.postfixNum l).getD 0 = v → ∀ w,
    enableFanControlCoolbit l = some w ↔ w.val = (v.val % 32 ||| 4) ∧ w ≠ v

/-! ## The bits -/

def Coolbits.toState (c : Coolbits) : GreedyBits.State := ⟨c.cbSet, c.curv.val⟩

theorem val_cbVal {i : ℕ} (hi : i < 5) : (cbVal i).val = 2 ^ i := by
  interval_cases i <;> rfl

/-- A turn is one of the greedy search for bits. -/
theorem Coolbits.toState_take (c : Coolbits) {i : ℕ} (hi : i < 5) :
    (c.take i).toState = GreedyBits.takeBit i c.toState := by
  have hval := val_cbVal hi
  have hset : 1 ≤ c.curv / cbVal i ↔ 2 ^ i ≤ c.curv.val := by
    rw [← hval, Fin.le_def, Fin.div_val]
    exact Nat.one_le_div_iff (hval ▸ Nat.two_pow_pos i)
  unfold Coolbits.take GreedyBits.takeBit Coolbits.toState
  by_cases hle : 2 ^ i ≤ c.curv.val
  · have hsub : (c.curv - cbVal i).val = c.curv.val - 2 ^ i := by
      rw [Fin.sub_val_of_le (Fin.le_def.mpr (hval ▸ hle)), hval]
    simp only [hset, hle, decide_true, if_true, hsub]
  · simp only [hset, hle, decide_false, Bool.false_eq_true, if_false]

theorem toState_decompose (v : U32) :
    (decompose v).toState = GreedyBits.takeBits 5 ⟨fun _ => false, v.val⟩ := by
  unfold decompose
  simp only [List.foldl_cons, List.foldl_nil, Coolbits.toState_take _ (show (0 : ℕ) < 5 by decide),
    Coolbits.toState_take _ (show 1 < 5 by decide), Coolbits.toState_take _ (show 2 < 5 by decide),
    Coolbits.toState_take _ (show 3 < 5 by decide), Coolbits.toState_take _ (show 4 < 5 by decide)]
  rfl

/-- Below 32 the bits are those of the value, and nothing is left. -/
theorem decompose_of_lt {v : U32} (h : v.val < 32) :
    (decompose v).curv = 0 ∧ ∀ i < 5, (decompose v).cbSet i = v.val.testBit i := by
  have hstate := toState_decompose v
  obtain ⟨hrest, hset⟩ := GreedyBits.takeBits_of_lt (n := 5) (s := ⟨fun _ => false, v.val⟩) h
  refine ⟨Fin.ext ?_, fun i hi => ?_⟩
  · exact (congrArg GreedyBits.State.rest hstate).trans hrest
  · exact (congrFun (congrArg GreedyBits.State.set hstate) i).trans (hset i hi)

/-- From 32 on all bits are set, and all but 31 is left. -/
theorem decompose_of_le {v : U32} (h : 32 ≤ v.val) :
    (decompose v).curv.val = v.val - 31 ∧ ∀ i < 5, (decompose v).cbSet i = true := by
  have hstate := toState_decompose v
  obtain ⟨hrest, hset⟩ := GreedyBits.takeBits_of_le (n := 5) (s := ⟨fun _ => false, v.val⟩) h
  refine ⟨?_, fun i hi => ?_⟩
  · exact (congrArg GreedyBits.State.rest hstate).trans hrest
  · exact (congrFun (congrArg GreedyBits.State.set hstate) i).trans (hset i hi)

/-! ## The value -/

theorem or_four {n : ℕ} (h : n < 32) : n ||| 4 = if n.testBit 2 then n else n + 4 := by
  have hall : ∀ n : Fin 32, n.val ||| 4 = if n.val.testBit 2 then n.val else n.val + 4 := by decide
  exact hall ⟨n, h⟩

theorem newCoolbits_of_lt {v : U32} (h : v.val < 32) : (newCoolbits v).val = v.val ||| 4 := by
  obtain ⟨hcurv, hset⟩ := decompose_of_lt h
  have hadd : (v + cbVal 2).val = v.val + 4 := by
    rw [Fin.val_add, val_cbVal (by decide)]
    omega
  simp only [newCoolbits, hcurv, lt_irrefl, if_false, hset 2 (by decide), or_four h]
  cases v.val.testBit 2 with
  | true => rfl
  | false => exact hadd

theorem newCoolbits_of_le {v : U32} (h : 32 ≤ v.val) : (newCoolbits v).val = 31 := by
  obtain ⟨hcurv, hset⟩ := decompose_of_le h
  have hpos : 0 < (decompose v).curv := Fin.lt_def.mpr (by rw [hcurv, Fin.val_zero]; omega)
  have hsub : (v - (decompose v).curv).val = v.val - (decompose v).curv.val :=
    Fin.sub_val_of_le (Fin.le_def.mpr (by omega))
  simp only [newCoolbits, hpos, if_true, hset 2 (by decide), Bool.not_true, Bool.false_eq_true,
    if_false, hsub, hcurv]
  omega

/-- The low five bits of a number are all set exactly if they make up 31. -/
theorem mod_32_eq_iff {n : ℕ} : n % 32 = 31 ↔ ∀ i < 5, n.testBit i = true := by
  have hlow : ∀ i, (n % 32).testBit i = (decide (i < 5) && n.testBit i) := fun i =>
    Nat.testBit_mod_two_pow n 5 i
  have hones : ∀ i, (31 : ℕ).testBit i = decide (i < 5) := Nat.testBit_two_pow_sub_one 5
  constructor
  · intro h i hi
    have hbit := hlow i
    rw [h, hones, decide_eq_true hi, Bool.true_and] at hbit
    exact hbit.symm
  · intro h
    refine Nat.eq_of_testBit_eq fun i => ?_
    rw [hlow, hones]
    by_cases hi : i < 5
    · rw [h i hi, Bool.and_true]
    · rw [decide_eq_false hi, Bool.false_and]

/-- Where the value is the right one it is also written as it should be. -/
theorem CoolbitsFixed.of_value {v : U32}
    (hbits : ∀ i < 5, (decompose v).cbSet i = v.val.testBit i)
    (hvalue : (newCoolbits v).val = v.val % 32 ||| 4) : CoolbitsFixed v where
  bits := hbits
  value := hvalue
  written l hl hv w := by
    rw [enableFanControlCoolbit, if_neg hl, hv]
    dsimp only
    split_ifs with hne
    · rw [Option.some.injEq, ← hvalue, Fin.val_inj]
      exact ⟨fun h => ⟨h.symm, h ▸ hne⟩, fun h => h.1.symm⟩
    · refine ⟨nofun, fun h => absurd ?_ h.2⟩
      rw [← hvalue, Fin.val_inj] at h
      exact h.1.trans (not_not.mp hne)

/-- **Only bit 2 is changed exactly if the value is below 32 or has its low five bits set.** -/
theorem coolbits_fixed_iff (v : U32) : CoolbitsFixed v ↔ v.val < 32 ∨ v.val % 32 = 31 := by
  constructor
  · intro h
    by_cases hlt : v.val < 32
    · exact Or.inl hlt
    · refine Or.inr (mod_32_eq_iff.mpr fun i hi => ?_)
      rw [← h.bits i hi]
      exact (decompose_of_le (not_lt.mp hlt)).2 i hi
  · intro h
    by_cases hlt : v.val < 32
    · refine .of_value (decompose_of_lt hlt).2 ?_
      rw [newCoolbits_of_lt hlt, Nat.mod_eq_of_lt hlt]
    · have hones := h.resolve_left hlt
      refine .of_value (fun i hi => ?_) ?_
      · rw [(decompose_of_le (not_lt.mp hlt)).2 i hi, mod_32_eq_iff.mp hones i hi]
      · rw [newCoolbits_of_le (not_lt.mp hlt), hones]
        rfl

/-- For 36, which has bit 2 set, 31 is written. -/
theorem coolbits_overwritten :
    enableFanControlCoolbit "Option \"Coolbits\" \"36\"".toList = some 31 ∧
    ¬ CoolbitsFixed 36 := by
  refine ⟨by decide, fun h => absurd h.value (by decide)⟩

end Fancon
