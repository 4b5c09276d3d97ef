import Fancon.Fan.Curve

/-! # Interpolation between two curve points

Between two points of the curve dynamic mode should follow the straight line through them. `update`
weighs the RPM difference by the temperature over the sum of the two temperatures of the segment,
not by its distance from the floor over their distance, and takes the difference as a `uint`. How
far that is above the line, before `floor`, is a closed expression in the temperature and the two
points (`drift`). The selected RPM is within one of the line if the drift is at least zero and below
one, and only if it is above minus one and below two (`interpolates_of_drift`).
-/
set_option autoImplicit false
set_option maxHeartbeats 250000
set_option maxRecDepth 120000

namespace Fancon

/-! ## What is claimed -/

/-- The straight line through two curve points. -/
def interpolated (temp : Temp) (floor ceil : Temp × Rpm) : ℚ :=
  floor.2.val + (temp.val - floor.1.val) * ((ceil.2.val : ℚ) - floor.2.val) /
    (ceil.1.val - floor.1.val)

/-- The RPM that dynamic mode selects is less than one from the line. -/
def Interpolates (tempToRpm : TempToRpm) (temp : Temp) (floor ceil : Temp × Rpm) : Prop :=
  ∃ r, selectRpm true tempToRpm temp = some r ∧ |(r.val : ℚ) - interpolated temp floor ceil| < 1

/-! ## The drift from the line -/

/-- `temp_range_weight * rpm_range`. -/
def dynamicOffset (temp : Temp) (floor ceil : Temp × Rpm) : ℚ :=
  (temp.val : ℚ) / (floor.1.val + ceil.1.val) * ((ceil.2 - floor.2 : Rpm).val : ℚ)

/-- How much the weight of the source is above that of the line. -/
def weightError (temp : Temp) (floor ceil : Temp × Rpm) : ℚ :=
  floor.1.val * (floor.1.val + ceil.1.val - 2 * temp.val) /
    ((floor.1.val + ceil.1.val) * (ceil.1.val - floor.1.val))

/-- What a falling segment gains because its RPM difference wraps around. -/
def wrapError (temp : Temp) (floor ceil : Temp × Rpm) : ℚ :=
  if ceil.2 < floor.2 then 4294967296 * temp.val / (floor.1.val + ceil.1.val) else 0

/-- How far above the line the source is. -/
def drift (temp : Temp) (floor ceil : Temp × Rpm) : ℚ :=
  ((ceil.2.val : ℚ) - floor.2.val) * weightError temp floor ceil + wrapError temp floor ceil

/-- The sum of the temperatures is an `int` other than zero. -/
def Weighable (floor ceil : Temp × Rpm) : Prop :=
  (-2147483648 ≤ floor.1.val + ceil.1.val ∧ floor.1.val + ceil.1.val < 2147483648) ∧
  floor.1.val + ceil.1.val ≠ 0

variable {tempToRpm : TempToRpm} {temp : Temp} {floor ceil : Temp × Rpm}

theorem rpmRange_cast (x y : Rpm) :
    ((y - x : Rpm).val : ℚ) = (y.val : ℚ) - x.val + if y < x then 4294967296 else 0 := by
  have hx := x.isLt
  have hy := y.isLt
  split_ifs with h
  · have hlt : y.val < x.val := h
    have hval : (y - x : Rpm).val + x.val = y.val + 4294967296 := by omega
    have hcast : ((y - x : Rpm).val : ℚ) + x.val = y.val + 4294967296 := by exact_mod_cast hval
    linarith
  · have hle : x.val ≤ y.val := not_lt.mp h
    have hval : (y - x : Rpm).val + x.val = y.val := by omega
    have hcast : ((y - x : Rpm).val : ℚ) + x.val = y.val := by exact_mod_cast hval
    linarith

/-- The offset of the source is that of the line and the drift. -/
theorem dynamicOffset_eq (temp : Temp) (hsum : floor.1.val + ceil.1.val ≠ 0)
    (hlt : floor.1.val < ceil.1.val) :
    dynamicOffset temp floor ceil =
      interpolated temp floor ceil - floor.2.val + drift temp floor ceil := by
  have hsum' : (floor.1.val : ℚ) + ceil.1.val ≠ 0 := by exact_mod_cast hsum
  have hlt' : (floor.1.val : ℚ) < ceil.1.val := by exact_mod_cast hlt
  have hgap : (ceil.1.val : ℚ) - floor.1.val ≠ 0 := by linarith
  unfold dynamicOffset interpolated drift weightError wrapError
  rw [rpmRange_cast]
  split_ifs
  all_goals
    field_simp
    ring

theorem interpolated_mem (hlt : floor.1.val < temp.val) (hgt : temp.val < ceil.1.val) :
    0 ≤ interpolated temp floor ceil ∧ interpolated temp floor ceil ≤ 4294967295 := by
  have hl : (floor.1.val : ℚ) < temp.val := by exact_mod_cast hlt
  have hg : (temp.val : ℚ) < ceil.1.val := by exact_mod_cast hgt
  have hgap : (0 : ℚ) < ceil.1.val - floor.1.val := by linarith
  have hf : ((floor.2.val : ℕ) : ℚ) ≤ 4294967295 := by exact_mod_cast Nat.le_pred_of_lt floor.2.isLt
  have hc : ((ceil.2.val : ℕ) : ℚ) ≤ 4294967295 := by exact_mod_cast Nat.le_pred_of_lt ceil.2.isLt
  have hline : interpolated temp floor ceil =
      ((ceil.1.val - temp.val) * floor.2.val + (temp.val - floor.1.val) * ceil.2.val) /
        (ceil.1.val - floor.1.val) := by
    unfold interpolated
    field_simp
    ring
  rw [hline, le_div_iff₀ hgap, div_le_iff₀ hgap]
  constructor
  · rw [zero_mul]
    exact add_nonneg (mul_nonneg (by linarith) (by positivity))
      (mul_nonneg (by linarith) (by positivity))
  · have hfloor := mul_le_mul_of_nonneg_left hf (sub_nonneg.mpr hg.le)
    have hceil := mul_le_mul_of_nonneg_left hc (sub_nonneg.mpr hl.le)
    linarith

/-! ## Within one RPM of the line -/

theorem selectRpm_between (hseg : [floor, ceil] <:+: tempToRpm.entries) (hlt : floor.1 < temp)
    (hgt : temp < ceil.1) : selectRpm true tempToRpm temp = dynamicRpm temp floor ceil := by
  obtain ⟨init, rest, hinit⟩ := hseg
  have hentries : tempToRpm.entries = init ++ floor :: ceil :: rest := by simp [← hinit]
  obtain ⟨hb, ho⟩ := tempToRpm.split_between hentries hlt hgt.le
  simp [selectRpm, hb, ho, (ne_of_gt hgt : ceil.1 ≠ temp)]

theorem U32.ofInt?_val {z : ℤ} {r : U32} (h : U32.ofInt? z = some r) : (r.val : ℤ) = z := by
  unfold U32.ofInt? at h
  split_ifs at h with hz
  obtain rfl := Option.some.inj h
  exact Int.toNat_of_nonneg hz.1

theorem dynamicRpm_eq_some {r : Rpm} (h : dynamicRpm temp floor ceil = some r) :
    Weighable floor ceil ∧ (r.val : ℤ) = floor.2.val + ⌊dynamicOffset temp floor ceil⌋ := by
  obtain ⟨sum, hsum, h⟩ := Option.bind_eq_some_iff.mp h
  have hval := I32.add?_eq_some.mp hsum
  have hfits := sum.property
  split_ifs at h with hzero
  refine ⟨⟨by omega, by omega⟩, ?_⟩
  have hr := U32.ofInt?_val h
  rw [← hval] at hr
  push_cast at hr
  exact hr

theorem dynamicRpm_of_weighable (h : Weighable floor ceil) :
    dynamicRpm temp floor ceil =
      U32.ofInt? (floor.2.val + ⌊dynamicOffset temp floor ceil⌋) := by
  obtain ⟨hfits, hzero⟩ := h
  have hsum : I32.add? floor.1 ceil.1 = some ⟨floor.1.val + ceil.1.val, hfits⟩ :=
    I32.add?_eq_some.mpr rfl
  rw [dynamicRpm, hsum, Option.bind_some]
  simp only [hzero, if_false, dynamicOffset, Int.cast_add]

/-- The distance from the line is the drift less what `floor` cuts off. -/
theorem floor_sub_interpolated (hsum : floor.1.val + ceil.1.val ≠ 0)
    (hlt : floor.1.val < ceil.1.val) :
    (floor.2.val : ℚ) + ⌊dynamicOffset temp floor ceil⌋ - interpolated temp floor ceil =
      drift temp floor ceil - Int.fract (dynamicOffset temp floor ceil) := by
  have hoffset := dynamicOffset_eq temp hsum hlt
  have hfloor := Int.floor_add_fract (dynamicOffset temp floor ceil)
  linarith

theorem interpolates_iff_fract (hseg : [floor, ceil] <:+: tempToRpm.entries)
    (hlt : floor.1 < temp) (hgt : temp < ceil.1) :
    Interpolates tempToRpm temp floor ceil ↔ Weighable floor ceil ∧
      |drift temp floor ceil - Int.fract (dynamicOffset temp floor ceil)| < 1 := by
  have hl : floor.1.val < temp.val := hlt
  have hg : temp.val < ceil.1.val := hgt
  unfold Interpolates
  rw [selectRpm_between hseg hlt hgt]
  constructor
  · rintro ⟨r, hr, hnear⟩
    obtain ⟨hweigh, hval⟩ := dynamicRpm_eq_some hr
    have hcast : (r.val : ℚ) = floor.2.val + ⌊dynamicOffset temp floor ceil⌋ := by
      exact_mod_cast hval
    rw [hcast, floor_sub_interpolated hweigh.2 (hl.trans hg)] at hnear
    exact ⟨hweigh, hnear⟩
  · rintro ⟨hweigh, hnear⟩
    rw [← floor_sub_interpolated hweigh.2 (hl.trans hg), abs_lt] at hnear
    have hmem : 0 ≤ interpolated temp floor ceil ∧ interpolated temp floor ceil ≤ 4294967295 :=
      interpolated_mem hl hg
    have hlow : (-1 : ℚ) < (floor.2.val + ⌊dynamicOffset temp floor ceil⌋ : ℤ) := by
      push_cast
      linarith [hnear.1, hmem.1]
    have hhigh : ((floor.2.val + ⌊dynamicOffset temp floor ceil⌋ : ℤ) : ℚ) < 4294967296 := by
      push_cast
      linarith [hnear.2, hmem.2]
    have hlow' : -1 < (floor.2.val : ℤ) + ⌊dynamicOffset temp floor ceil⌋ := by exact_mod_cast hlow
    have hhigh' : (floor.2.val : ℤ) + ⌊dynamicOffset temp floor ceil⌋ < 4294967296 := by
      exact_mod_cast hhigh
    have hrpm := U32.ofInt?_eq_some (by omega) hhigh'
    refine ⟨_, (dynamicRpm_of_weighable hweigh).trans hrpm, ?_⟩
    have hval := U32.ofInt?_val hrpm
    have hcast := congrArg (Int.cast : ℤ → ℚ) hval
    push_cast at hcast
    rw [hcast]
    exact abs_lt.mpr hnear

/-- **Dynamic mode is within one RPM of the line if the drift is at least zero and below one, and
only if it is above minus one and below two.** -/
theorem interpolates_of_drift (tempToRpm : TempToRpm) (temp : Temp) (floor ceil : Temp × Rpm)
    (hseg : [floor, ceil] <:+: tempToRpm.entries) (hlt : floor.1 < temp) (hgt : temp < ceil.1) :
    (Weighable floor ceil ∧ 0 ≤ drift temp floor ceil ∧ drift temp floor ceil < 1 →
      Interpolates tempToRpm temp floor ceil) ∧
    (Interpolates tempToRpm temp floor ceil →
      Weighable floor ceil ∧ -1 < drift temp floor ceil ∧ drift temp floor ceil < 2) := by
  have hlow := Int.fract_nonneg (dynamicOffset temp floor ceil)
  have hhigh := Int.fract_lt_one (dynamicOffset temp floor ceil)
  rw [interpolates_iff_fract hseg hlt hgt, abs_lt]
  constructor
  · rintro ⟨hweigh, hnonneg, hsmall⟩
    exact ⟨hweigh, by linarith, by linarith⟩
  · rintro ⟨hweigh, hbelow, habove⟩
    exact ⟨hweigh, by linarith, by linarith⟩

/-! ## Kinds of segments -/

/-- A rising segment from zero degrees, the middle of one, and a level one have no drift. -/
theorem drift_of_rising (hrising : floor.2 ≤ ceil.2)
    (hexact : floor.1.val = 0 ∨ floor.1.val + ceil.1.val = 2 * temp.val ∨ floor.2 = ceil.2) :
    drift temp floor ceil = 0 := by
  unfold drift weightError wrapError
  rw [if_neg (not_lt.mpr hrising), add_zero]
  rcases hexact with h | h | h
  · rw [h]
    simp
  · have hmid : (floor.1.val : ℚ) + ceil.1.val - 2 * temp.val = 0 := by
      have hcast : (floor.1.val : ℚ) + ceil.1.val = 2 * temp.val := by exact_mod_cast h
      linarith
    rw [hmid]
    simp
  · rw [h]
    simp

theorem dynamicOffset_nonneg (hpos : 0 ≤ floor.1.val) (hl : floor.1.val < temp.val)
    (hg : temp.val < ceil.1.val) : 0 ≤ dynamicOffset temp floor ceil ∧
      (dynamicOffset temp floor ceil < 1 →
        (temp.val : ℤ) * (ceil.2 - floor.2 : Rpm).val < floor.1.val + ceil.1.val) := by
  have hsum : (0 : ℚ) < floor.1.val + ceil.1.val := by
    exact_mod_cast (by omega : 0 < floor.1.val + ceil.1.val)
  have htemp : (0 : ℚ) ≤ temp.val := by exact_mod_cast (by omega : 0 ≤ temp.val)
  refine ⟨mul_nonneg (div_nonneg htemp hsum.le) (Nat.cast_nonneg _), fun hsmall => ?_⟩
  rw [dynamicOffset, div_mul_eq_mul_div, div_lt_one hsum] at hsmall
  exact_mod_cast hsmall

theorem interpolated_falling (hl : floor.1.val < temp.val) (hg : temp.val < ceil.1.val)
    (hfalling : ceil.2.val < floor.2.val) : interpolated temp floor ceil ≤ floor.2.val ∧
      ((floor.2.val : ℚ) - interpolated temp floor ceil < 1 →
        (temp.val - floor.1.val) * ((floor.2.val : ℤ) - ceil.2.val) <
          ceil.1.val - floor.1.val) := by
  have hgap : (0 : ℚ) < ceil.1.val - floor.1.val := by
    have hcast : (floor.1.val : ℚ) < ceil.1.val := by exact_mod_cast hl.trans hg
    linarith
  have hfall : (floor.2.val : ℚ) - interpolated temp floor ceil =
      (temp.val - floor.1.val) * ((floor.2.val : ℚ) - ceil.2.val) /
        (ceil.1.val - floor.1.val) := by
    unfold interpolated
    ring
  constructor
  · have ht : (floor.1.val : ℚ) ≤ temp.val := by exact_mod_cast hl.le
    have hr : (ceil.2.val : ℚ) ≤ floor.2.val := by exact_mod_cast hfalling.le
    have hfall0 := div_nonneg (mul_nonneg (sub_nonneg.mpr ht) (sub_nonneg.mpr hr)) hgap.le
    rw [← hfall] at hfall0
    linarith
  · intro hsmall
    rw [hfall, div_lt_one hgap] at hsmall
    exact_mod_cast hsmall

/-- Above zero degrees a falling segment is never followed. -/
theorem not_interpolates_falling (hseg : [floor, ceil] <:+: tempToRpm.entries)
    (hlt : floor.1 < temp) (hgt : temp < ceil.1) (hpos : 0 ≤ floor.1.val)
    (hfalling : ceil.2 < floor.2) : ¬ Interpolates tempToRpm temp floor ceil := by
  have hl : floor.1.val < temp.val := hlt
  have hg : temp.val < ceil.1.val := hgt
  have hd : ceil.2.val < floor.2.val := hfalling
  rintro ⟨r, hr, hnear⟩
  rw [selectRpm_between hseg hlt hgt] at hr
  obtain ⟨⟨hfits, -⟩, hval⟩ := dynamicRpm_eq_some hr
  have hcast : (r.val : ℚ) = floor.2.val + ⌊dynamicOffset temp floor ceil⌋ := by
    exact_mod_cast hval
  rw [hcast, abs_lt] at hnear
  obtain ⟨hoffset, hsmall⟩ := dynamicOffset_nonneg hpos hl hg
  obtain ⟨hline, hnarrow⟩ := interpolated_falling hl hg hd
  -- the selected RPM is above the floor and the line below it, so both are within one of it
  have hfloor : (0 : ℚ) ≤ ⌊dynamicOffset temp floor ceil⌋ := by
    exact_mod_cast Int.floor_nonneg.mpr hoffset
  have hnarrow := hnarrow (by linarith [hnear.2])
  have hlt1 : ⌊dynamicOffset temp floor ceil⌋ < 1 := by
    have hlt1 : ((⌊dynamicOffset temp floor ceil⌋ : ℤ) : ℚ) < 1 := by linarith [hnear.2]
    exact_mod_cast hlt1
  have hsmall := hsmall (by simpa using Int.floor_lt.mp hlt1)
  have hrange : ((ceil.2 - floor.2 : Rpm).val : ℤ) + floor.2.val = ceil.2.val + 4294967296 := by
    omega
  have hc := ceil.1.property
  have hwide : ((ceil.2 - floor.2 : Rpm).val : ℤ) < 2147483648 := by nlinarith
  nlinarith

/-! ## The curve of the README -/

theorem interpolates_readme :
    Interpolates readmeCurve ⟨40, by decide⟩ (⟨30, by decide⟩, 800) (⟨50, by decide⟩, 1200) := by
  have hdrift : drift ⟨40, by decide⟩ (⟨30, by decide⟩, 800) (⟨50, by decide⟩, 1200) = 0 :=
    drift_of_rising (by decide) (Or.inr (Or.inl (by decide)))
  refine (interpolates_of_drift readmeCurve ⟨40, by decide⟩ (⟨30, by decide⟩, 800)
    (⟨50, by decide⟩, 1200) ⟨[], [], rfl⟩ (by decide) (by decide)).1 ?_
  rw [hdrift]
  exact ⟨⟨by decide, by decide⟩, le_rfl, zero_lt_one⟩

/-- At 31 degrees 955 RPM are selected, where the line is at 820. -/
theorem readme_misses_line :
    ¬ ∀ (tempToRpm : TempToRpm) (temp : Temp) (floor ceil : Temp × Rpm),
      [floor, ceil] <:+: tempToRpm.entries → floor.1 < temp → temp < ceil.1 →
      Interpolates tempToRpm temp floor ceil := by
  intro h
  obtain ⟨r, hr, hnear⟩ := h readmeCurve ⟨31, by decide⟩ (⟨30, by decide⟩, 800)
    (⟨50, by decide⟩, 1200) ⟨[], [], rfl⟩ (by decide) (by decide)
  have hselected : selectRpm true readmeCurve ⟨31, by decide⟩ = some 955 := by decide +kernel
  obtain rfl := Option.some.inj (hselected.symm.trans hr)
  norm_num [interpolated, abs_lt] at hnear

end Fancon
