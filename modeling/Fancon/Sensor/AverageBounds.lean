import Fancon.Sensor.Readings

/-! # Whether an average lies among the readings

`get_average_temp` divides the sum, an `int`, by the number of readings, a `size_t`. The sum is
converted to 64 bits without a sign for that, so a negative one is 2^64 too large. What is left of
2^64 over the number of readings is a multiple of 2^32 if that number divides 2^32, and the average
is that of the readings. Otherwise it is moved, and no longer among readings that are all equal
(`average_between_when`).
-/
set_option autoImplicit false
set_option maxHeartbeats 250000
set_option maxRecDepth 120000

namespace Fancon

/-- Not below all of the readings, and not above all of them. -/
structure Between (temps : List Temp) (avg : Temp) : Prop where
  least : ∃ lo ∈ temps, lo.val ≤ avg.val
  greatest : ∃ hi ∈ temps, avg.val ≤ hi.val

/-- The sum is not negative, or the number of readings is a power of two, up to 2^32. -/
def DividesEvenly (temps : List Temp) : Prop := 0 ≤ total temps ∨ temps.length ∣ 4294967296

/-- All readings are the same, as the first one leaves them. -/
def AllEqual (temps : List Temp) : Prop := ∀ t ∈ temps, ∀ u ∈ temps, t = u

/-! ## Readings on both sides of the mean -/

section Mean

variable {temps : List Temp}

theorem sum_map_length_mul (temps : List Temp) :
    (temps.map fun t => (temps.length : ℤ) * t.val).sum = temps.length * total temps := by
  rw [List.sum_map_mul_left, total]

theorem sum_map_total (temps : List Temp) :
    (temps.map fun _ => total temps).sum = temps.length * total temps := by
  rw [List.map_const', List.sum_replicate, nsmul_eq_mul]

theorem exists_le_mean (hne : temps ≠ []) : ∃ lo ∈ temps, temps.length * lo.val ≤ total temps :=
  List.exists_le_of_sum_le hne (fun t : Temp => (temps.length : ℤ) * t.val) (fun _ => total temps)
    (by rw [sum_map_length_mul, sum_map_total])

theorem exists_mean_le (hne : temps ≠ []) : ∃ hi ∈ temps, total temps ≤ temps.length * hi.val :=
  List.exists_le_of_sum_le hne (fun _ => total temps) (fun t : Temp => (temps.length : ℤ) * t.val)
    (by rw [sum_map_length_mul, sum_map_total])

end Mean

/-! ## The average of the source -/

theorem I32.wrap_sub_mul (z k : ℤ) : I32.wrap (z - k * 4294967296) = I32.wrap z := by
  apply Subtype.ext
  simp only [I32.wrap, Int.bmod_def]
  push_cast
  split_ifs <;> omega

theorem I32.exists_wrap (z : ℤ) : ∃ k, (I32.wrap z).val = z - k * 4294967296 :=
  ⟨z.bdiv 4294967296, Int.bmod_eq_self_sub_bdiv_mul z 4294967296⟩

section Average

variable {temps : List Temp}

theorem averageTemp_eq (hsum : -2147483648 ≤ total temps ∧ total temps < 2147483648) :
    averageTemp temps =
      I32.wrap (total temps % 18446744073709551616 / temps.length) := by
  have hwrap : (I32.wrap (temps.map Subtype.val).sum).val = total temps := I32.wrap_val hsum
  have hpos : 0 ≤ total temps % 18446744073709551616 := Int.emod_nonneg _ (by decide)
  unfold averageTemp
  dsimp only
  rw [hwrap, Int.natCast_ediv, Int.toNat_of_nonneg hpos]

/-- A sum that is not negative is divided as it is. -/
theorem averageTemp_of_nonneg (hsum : -2147483648 ≤ total temps ∧ total temps < 2147483648)
    (hpos : 0 ≤ total temps) : (averageTemp temps).val = total temps / temps.length := by
  have hlow := Int.ediv_nonneg hpos (Int.natCast_nonneg temps.length)
  have hhigh := Int.ediv_le_self (temps.length : ℤ) hpos
  rw [averageTemp_eq hsum, Int.emod_eq_of_lt hpos (by omega), I32.wrap_val (by omega)]

/-- A negative one is divided with 2^64 on top. -/
theorem averageTemp_of_neg (hsum : -2147483648 ≤ total temps ∧ total temps < 2147483648)
    (hneg : total temps < 0) : averageTemp temps =
      I32.wrap ((18446744073709551616 + total temps) / temps.length) := by
  rw [averageTemp_eq hsum, show total temps % 18446744073709551616 =
    18446744073709551616 + total temps by omega]

/-- By a divisor of 2^32, 2^64 leaves no trace. -/
theorem averageTemp_of_dvd (hne : temps ≠ [])
    (hsum : -2147483648 ≤ total temps ∧ total temps < 2147483648) (hneg : total temps < 0)
    (hdvd : temps.length ∣ 4294967296) :
    (averageTemp temps).val = total temps / temps.length := by
  have hlength : (0 : ℤ) < temps.length := Int.natCast_pos.mpr (List.length_pos_iff.mpr hne)
  obtain ⟨c, hc⟩ := hdvd
  have hpow : (18446744073709551616 : ℤ) = temps.length * (c * 4294967296) := by
    have hcast : (4294967296 : ℤ) = temps.length * c := by exact_mod_cast hc
    rw [← mul_assoc, ← hcast]
    norm_num
  have hdiv : (18446744073709551616 + total temps) / temps.length =
      total temps / temps.length + c * 4294967296 := by
    rw [add_comm, hpow, Int.add_mul_ediv_left _ _ hlength.ne']
  have hlow : -2147483648 ≤ total temps / temps.length := by
    rw [Int.le_ediv_iff_mul_le hlength]
    nlinarith [hsum.1]
  have hhigh : total temps / temps.length < 0 := Int.ediv_neg_of_neg_of_pos hneg hlength
  rw [averageTemp_of_neg hsum hneg, hdiv, ← I32.wrap_sub_mul _ c, add_sub_cancel_right,
    I32.wrap_val (by omega)]

theorem averageTemp_val (hne : temps ≠ [])
    (hsum : -2147483648 ≤ total temps ∧ total temps < 2147483648) (h : DividesEvenly temps) :
    (averageTemp temps).val = total temps / temps.length := by
  by_cases hneg : total temps < 0
  · exact averageTemp_of_dvd hne hsum hneg (h.resolve_left (not_le.mpr hneg))
  · exact averageTemp_of_nonneg hsum (not_lt.mp hneg)

theorem between_of_dividesEvenly (hne : temps ≠ [])
    (hsum : -2147483648 ≤ total temps ∧ total temps < 2147483648) (h : DividesEvenly temps) :
    Between temps (averageTemp temps) := by
  have hlength : (0 : ℤ) < temps.length := Int.natCast_pos.mpr (List.length_pos_iff.mpr hne)
  obtain ⟨lo, hlo, hle⟩ := exists_le_mean hne
  obtain ⟨hi, hhi, hge⟩ := exists_mean_le hne
  refine ⟨⟨lo, hlo, ?_⟩, ⟨hi, hhi, ?_⟩⟩
  · rw [averageTemp_val hne hsum h]
    exact (Int.le_ediv_iff_mul_le hlength).mpr (by rwa [mul_comm])
  · rw [averageTemp_val hne hsum h]
    exact Int.ediv_le_of_le_mul hlength (by rwa [mul_comm])

/-- Of equal readings the average is 2^64 over their number above them, within 2^32. -/
theorem dividesEvenly_of_between (hne : temps ≠ [])
    (hsum : -2147483648 ≤ total temps ∧ total temps < 2147483648) (hequal : AllEqual temps)
    (h : Between temps (averageTemp temps)) : DividesEvenly temps := by
  by_contra hnot
  obtain ⟨hneg, hdvd⟩ := not_or.mp hnot
  have hneg : total temps < 0 := not_le.mp hneg
  have hlength : (0 : ℤ) < temps.length := Int.natCast_pos.mpr (List.length_pos_iff.mpr hne)
  obtain ⟨v, hv⟩ := List.exists_mem_of_ne_nil temps hne
  have htotal : total temps = temps.length * v.val := by
    rw [List.eq_replicate_of_mem fun t ht => hequal t ht v hv]
    simp [total]
  have havg : (averageTemp temps).val = v.val := by
    obtain ⟨⟨lo, hlo, hle⟩, ⟨hi, hhi, hge⟩⟩ := h
    rw [hequal lo hlo v hv] at hle
    rw [hequal hi hhi v hv] at hge
    omega
  have hdiv : (18446744073709551616 + total temps) / temps.length =
      18446744073709551616 / temps.length + v.val := by
    rw [htotal, Int.add_mul_ediv_left _ _ hlength.ne']
  obtain ⟨k, hk⟩ := I32.exists_wrap ((18446744073709551616 + total temps) / temps.length)
  rw [← averageTemp_of_neg hsum hneg, havg, hdiv] at hk
  -- what 2^64 leaves over is a multiple of 2^32 below the number of readings
  have hmoved : 18446744073709551616 / (temps.length : ℤ) = k * 4294967296 := by omega
  have hv : v.val ≤ -1 := by
    by_contra hpos
    nlinarith
  have hmany : (temps.length : ℤ) ≤ 2147483648 := by nlinarith [hsum.1]
  have hrest := Int.emod_add_mul_ediv 18446744073709551616 (temps.length : ℤ)
  have hlow := Int.emod_nonneg 18446744073709551616 hlength.ne'
  have hhigh := Int.emod_lt_of_pos 18446744073709551616 hlength
  rw [hmoved, ← mul_assoc] at hrest
  have hwhole : (temps.length : ℤ) * k = 4294967296 := by omega
  exact hdvd (Int.natCast_dvd_natCast.mp ⟨k, hwhole.symm⟩)

end Average

/-! ## `get_average_temp` -/

/-- What is left of `get_average_temp` once the sensor has been read and the history averaged. -/
theorem averaged_eq_ok {h : TempHistory} {avg : Temp} {r : Temp × TempHistory}
    (hr : (if h.tempHistory.length = 0 then .error Fault.divisionByZero
      else .ok (avg, { h with lastAvgTemp := avg })) = Except.ok r) :
    h.tempHistory ≠ [] ∧ r = (avg, { h with lastAvgTemp := avg }) := by
  split_ifs at hr with hlength
  exact ⟨mt (congrArg List.length) hlength, (Except.ok.inj hr).symm⟩

theorem getAverageTemp_averaged {n : U32} {read : Option Temp} {h : TempHistory}
    {r : Temp × TempHistory} (hr : getAverageTemp n false read h = .ok r) :
    ∃ avg, avg = averageTemp (h.record n read).tempHistory ∧
      (if (h.record n read).tempHistory.length = 0 then .error Fault.divisionByZero
      else .ok (avg, { h.record n read with lastAvgTemp := avg })) = Except.ok r := by
  refine ⟨averageTemp (h.record n read).tempHistory, rfl, ?_⟩
  rw [← hr, getAverageTemp]
  exact (if_neg Bool.false_ne_true).symm

/-- What is assigned to `last_avg_temp` is the average over the history, which is not empty. -/
theorem getAverageTemp_spec {n : U32} {read : Option Temp} {h : TempHistory}
    {r : Temp × TempHistory} (hr : getAverageTemp n false read h = .ok r) :
    r.2.tempHistory ≠ [] ∧ r.2.lastAvgTemp = averageTemp r.2.tempHistory := by
  obtain ⟨avg, havg, hr⟩ := getAverageTemp_averaged hr
  obtain ⟨hne, hr⟩ := averaged_eq_ok hr
  rw [hr]
  exact ⟨hne, havg⟩

/-- **The average that is assigned lies between the lowest and the highest reading if the sum is
not negative, or the number of readings divides 2^32. Of equal readings it does only then.** -/
theorem average_between_when {n : U32} {read : Option Temp} {h : TempHistory}
    {r : Temp × TempHistory} (hr : getAverageTemp n false read h = .ok r)
    (hsum : -2147483648 ≤ total r.2.tempHistory ∧ total r.2.tempHistory < 2147483648) :
    (DividesEvenly r.2.tempHistory → Between r.2.tempHistory r.2.lastAvgTemp) ∧
    (AllEqual r.2.tempHistory → Between r.2.tempHistory r.2.lastAvgTemp →
      DividesEvenly r.2.tempHistory) := by
  obtain ⟨hne, havg⟩ := getAverageTemp_spec hr
  rw [havg]
  exact ⟨between_of_dividesEvenly hne hsum, dividesEvenly_of_between hne hsum⟩

/-- Four readings below zero. -/
theorem average_between_cold :
    Between (List.replicate 4 (I32.wrap (-7))) (I32.wrap (-7)) := by
  have hread : getAverageTemp 4 false (some (I32.wrap (-7))) {} =
      .ok (I32.wrap (-7), ⟨List.replicate 4 (I32.wrap (-7)), 0, I32.wrap (-7)⟩) := by decide
  exact (average_between_when hread (by decide)).1 (Or.inr (by decide))

/-- If the first reading is 1 degree below zero and three are averaged, 1431655764 comes out. -/
theorem average_outside :
    (getAverageTemp 3 false (some (I32.wrap (-1))) {}).map Prod.fst = .ok 1431655764 ∧
    ¬ ∀ (n : U32) (read : Option Temp) (h : TempHistory) (r : Temp × TempHistory),
      getAverageTemp n false read h = .ok r →
      -2147483648 ≤ total r.2.tempHistory ∧ total r.2.tempHistory < 2147483648 →
      Between r.2.tempHistory r.2.lastAvgTemp := by
  refine ⟨by decide, fun hall => ?_⟩
  have hread : getAverageTemp 3 false (some (I32.wrap (-1))) {} =
      .ok (1431655764, ⟨List.replicate 3 (I32.wrap (-1)), 0, 1431655764⟩) := by decide
  obtain ⟨hi, hmem, hle⟩ := (hall 3 _ _ _ hread (by decide)).greatest
  have hbelow : ∀ hi ∈ List.replicate 3 (I32.wrap (-1)), hi.val < 1431655764 := by decide
  exact absurd hle (not_le.mpr (hbelow hi hmem))

end Fancon
