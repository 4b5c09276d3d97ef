import Fancon.Fan.CurveText

/-! # Percent speeds of a curve

1% is the minimum running RPM and 100% the maximum one; the percentages in between should span the
range between the two. `percent_to_rpm` divides the percentage by 100 before it multiplies, so they
all give the minimum running RPM. That is within one RPM of what they should give only where the
share of the range is below one RPM (`percent_spans_iff`).
-/
set_option autoImplicit false
set_option maxHeartbeats 250000
set_option maxRecDepth 120000

namespace Fancon

/-- `Fan::percent_to_rpm`, which throws if there is nothing to convert with. -/
def percentToRpm? (m : RpmToPwm) (percent : Percent) : Option Rpm :=
  if 0 < percent ∧ m.entries.isEmpty then none else some (percentToRpm m percent)

/-- What a percentage should give, and that no smaller one gives more. -/
def SpansRange (m : RpmToPwm) (percent : Percent) : Prop :=
  ∃ rpm, percentToRpm? m percent = some rpm ∧ (percent = 0 → rpm = 0) ∧
    (percent = 1 → rpm = m.range.1) ∧ (100 ≤ percent → rpm = m.range.2) ∧
    (1 < percent → percent < 100 →
      |(rpm.val : ℚ) -
        (m.range.1.val + percent.val * ((m.range.2.val : ℚ) - m.range.1.val) / 100)| < 1) ∧
    ∀ q ≤ percent, ∃ r ≤ rpm, percentToRpm? m q = some r

variable {m : RpmToPwm} {percent : Percent}

theorem percentToRpm?_of_ne (hne : m.entries ≠ []) (percent : Percent) :
    percentToRpm? m percent = some (percentToRpm m percent) :=
  if_neg fun h => hne (List.isEmpty_iff.mp h.2)

theorem range_le (m : RpmToPwm) : m.range.1 ≤ m.range.2 := by
  obtain ⟨entries, hsorted⟩ := m
  match entries, hsorted with
  | [], _ => exact le_rfl
  | [first], _ => exact le_rfl
  | first :: second :: rest, hsorted =>
    obtain ⟨hfirst, hrest⟩ := List.pairwise_cons.mp hsorted
    have hlast : ∀ e ∈ (second :: rest).getLast?, second.1 ≤ e.1 := by
      intro e he
      rcases List.mem_cons.mp (List.mem_of_getLast? he) with rfl | he
      · exact le_rfl
      · exact ((List.pairwise_cons.mp hrest).1 e he).le
    obtain ⟨e, he⟩ := Option.ne_none_iff_exists'.mp
      (List.getLast?_eq_none_iff.not.mpr (List.cons_ne_nil second rest))
    have hrange : RpmToPwm.range ⟨first :: second :: rest, hsorted⟩ =
        (if first.1 = 0 then second.1 else first.1, e.1) := by
      simp only [RpmToPwm.range]
      rw [List.getLast?_cons_cons, he]
      rfl
    rw [hrange]
    simp only
    split_ifs
    · exact hlast e he
    · exact (hfirst second List.mem_cons_self).le.trans (hlast e he)

theorem percentToRpm_zero (m : RpmToPwm) : percentToRpm m 0 = 0 := if_pos le_rfl

theorem percentToRpm_low (h0 : 0 < percent) (h : percent < 100) :
    percentToRpm m percent = m.range.1 := by
  have hval : percent.val < 100 := h
  have hdiv : percent / 100 = 0 := Fin.ext (Nat.div_eq_of_lt hval)
  unfold percentToRpm
  rw [if_neg (not_le.mpr h0)]
  simp only
  rw [if_neg h.not_gt]
  split_ifs
  · rfl
  · rw [hdiv, zero_mul, zero_add]

theorem percentToRpm_full (h : 100 ≤ percent) : percentToRpm m percent = m.range.2 := by
  have h0 : ¬ percent ≤ 0 := fun h0 => absurd (h.trans h0) (by decide)
  have hcapped : (if 100 < percent then 100 else percent) = (100 : Percent) := by
    split_ifs with h100
    · rfl
    · exact le_antisymm (not_lt.mp h100) h
  unfold percentToRpm
  rw [if_neg h0]
  simp only
  rw [hcapped, if_neg (by decide), show (100 : Percent) / 100 = 1 from rfl, one_mul,
    sub_add_cancel]

/-- A larger percentage gives no lower speed. -/
theorem percentToRpm_mono (m : RpmToPwm) : Monotone (percentToRpm m) := by
  intro p q hpq
  rcases eq_or_lt_of_le (Fin.zero_le p) with rfl | hp
  · rw [percentToRpm_zero]
    exact Fin.zero_le _
  · have hq : 0 < q := hp.trans_le hpq
    by_cases hq100 : q < 100
    · rw [percentToRpm_low hp (hpq.trans_lt hq100), percentToRpm_low hq hq100]
    · rw [percentToRpm_full (not_lt.mp hq100)]
      by_cases hp100 : p < 100
      · rw [percentToRpm_low hp hp100]
        exact range_le m
      · rw [percentToRpm_full (not_lt.mp hp100)]

/-- The minimum running RPM is within one RPM of a percentage whose share of the range is less. -/
theorem low_within_iff (m : RpmToPwm) (percent : Percent) :
    |(m.range.1.val : ℚ) -
        (m.range.1.val + percent.val * ((m.range.2.val : ℚ) - m.range.1.val) / 100)| < 1 ↔
      percent.val * (m.range.2.val - m.range.1.val) < 100 := by
  have hle : m.range.1.val ≤ m.range.2.val := range_le m
  have hshare : (0 : ℚ) ≤ percent.val * ((m.range.2.val : ℚ) - m.range.1.val) / 100 := by
    have hcast : (m.range.1.val : ℚ) ≤ m.range.2.val := by exact_mod_cast hle
    exact div_nonneg (mul_nonneg (Nat.cast_nonneg _) (sub_nonneg.mpr hcast)) (by norm_num)
  rw [sub_add_cancel_left, abs_neg, abs_of_nonneg hshare, div_lt_one (by norm_num),
    ← Nat.cast_sub hle]
  exact_mod_cast Iff.rfl

/-- **A percentage spans the running range exactly when it is at an end of it, or its share is below
one RPM.** -/
theorem percent_spans_iff (m : RpmToPwm) (hne : m.entries ≠ []) (percent : Percent) :
    SpansRange m percent ↔
      (1 < percent → percent < 100 → percent.val * (m.range.2.val - m.range.1.val) < 100) := by
  have hgives := percentToRpm?_of_ne hne
  constructor
  · rintro ⟨rpm, hrpm, -, -, -, hspans, -⟩ h1 h100
    obtain rfl := Option.some.inj ((hgives percent).symm.trans hrpm)
    have hwithin := hspans h1 h100
    rw [percentToRpm_low (lt_trans (by decide) h1) h100] at hwithin
    exact (low_within_iff m percent).mp hwithin
  · intro hshare
    refine ⟨_, hgives percent, ?_, ?_, percentToRpm_full, fun h1 h100 => ?_, fun q hq =>
      ⟨_, percentToRpm_mono m hq, hgives q⟩⟩
    · rintro rfl
      exact percentToRpm_zero m
    · rintro rfl
      exact percentToRpm_low (by decide) (by decide)
    · rw [percentToRpm_low (lt_trans (by decide) h1) h100]
      exact (low_within_iff m percent).mpr (hshare h1 h100)

/-! ## The calibration of the README -/

def readmeRpmToPwm : RpmToPwm :=
  SortedMap.ofItems [(0, 0), (3206, 128), (4954, 180), (7281, 255)]

theorem percent_spans_readme : SpansRange readmeRpmToPwm 100 :=
  (percent_spans_iff readmeRpmToPwm (by decide) 100).mpr fun _ h => absurd h (by decide)

/-- 50% gives 3206 RPM, the lowest running speed, in place of 5243.5. -/
theorem half_gives_minimum :
    ¬ ∀ (m : RpmToPwm), m.entries ≠ [] → ∀ percent, SpansRange m percent := by
  intro h
  obtain ⟨rpm, hrpm, -, -, -, hspans, -⟩ := h readmeRpmToPwm (by decide) 50
  have hgiven : percentToRpm? readmeRpmToPwm 50 = some 3206 := by decide
  obtain rfl := Option.some.inj (hgiven.symm.trans hrpm)
  have hwithin := hspans (by decide) (by decide)
  have hrange : readmeRpmToPwm.range = (3206, 7281) := by decide
  rw [hrange] at hwithin
  norm_num [abs_lt] at hwithin

end Fancon
