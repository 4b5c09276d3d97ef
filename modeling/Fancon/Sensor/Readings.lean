import Fancon.Sensor.Average

/-! # The average of the last readings

`get_average_temp` with its undefined cases: a write past the end of the history, and a sum that is
no `int`. The history begins as copies of the first reading, which later ones are to overwrite in
turn, so that the average is that of the last readings. The write index wraps around one write too
late: after the history has been filled once, the next reading is written past its end. So the
average is right up to there, if no sum overflows, and in no longer run (`averages_iff`).
-/
set_option autoImplicit false
set_option maxHeartbeats 250000
set_option maxRecDepth 120000

namespace Fancon

/-! ## The source with its undefined cases -/

/-- `std::accumulate` from the `int` 0. -/
def accumulate? (temps : List Temp) : Option I32 := temps.foldlM I32.add? 0

/-- `temp_history` after a successful read; what is written has to be an element of it. -/
def TempHistory.recordAt (tempAveragingIntervals : U32) (h : TempHistory) (temp : Temp) :
    Option TempHistory :=
  if h.tempHistory ≠ [] ∧ h.tempHistory.length ≤ h.tempHistoryI then none
  else some (h.record tempAveragingIntervals (some temp))

/-- `Sensor::get_average_temp`, where the last read is not fresh and the next one succeeds. -/
def getAverageTempAt (tempAveragingIntervals : U32) (temp : Temp) (h : TempHistory) :
    Option (Temp × TempHistory) :=
  (h.recordAt tempAveragingIntervals temp).bind fun h =>
  if h.tempHistory.length = 0 then none
  else
    (accumulate? h.tempHistory).map fun sum =>
    let avg := I32.wrap (((sum.val % 18446744073709551616).toNat / h.tempHistory.length : ℕ) : ℤ)
    (avg, { h with lastAvgTemp := avg })

/-- One reading after the other, each with the setting at its time. -/
def readings (h : TempHistory) (rs : List (U32 × Temp)) : Option TempHistory :=
  rs.foldlM (fun h r => (getAverageTempAt r.1 r.2 h).map Prod.snd) h

/-! ## What is claimed -/

/-- The last `n` readings after the first one, or all of them and copies of the first. -/
def window (n : ℕ) (first : Temp) (rest : List Temp) : List Temp :=
  rest.drop (rest.length - n) ++ List.replicate (n - min rest.length n) first

def total (temps : List Temp) : ℤ := (temps.map Subtype.val).sum

/-- Every access of the run is defined, and the last average is the mean of the window. -/
def Averages (tempAveragingIntervals : U32) (first : Temp) (rest : List (U32 × Temp)) : Prop :=
  ∃ h, readings {} ((tempAveragingIntervals, first) :: rest) = some h ∧
    h.lastAvgTemp.val =
      total (window tempAveragingIntervals.val first (rest.map Prod.snd)) /
        tempAveragingIntervals.val

/-! ## Sums -/

theorem I32.wrap_val {z : ℤ} (h : -2147483648 ≤ z ∧ z < 2147483648) : (I32.wrap z).val = z := by
  simp only [I32.wrap, Int.bmod_def]
  push_cast
  split_ifs <;> omega

theorem I32.add?_isSome_iff {a b : I32} : (I32.add? a b).isSome = true ↔
    -2147483648 ≤ a.val + b.val ∧ a.val + b.val < 2147483648 := by
  unfold I32.add?
  split_ifs with h <;> simp [h]

theorem total_cons (t : Temp) (ts : List Temp) : total (t :: ts) = t.val + total ts :=
  List.sum_cons

theorem total_nonneg {temps : List Temp} (h : ∀ t ∈ temps, 0 ≤ t.val) : 0 ≤ total temps := by
  refine List.sum_nonneg fun z hz => ?_
  obtain ⟨t, ht, rfl⟩ := List.mem_map.mp hz
  exact h t ht

theorem foldlM_add?_val {temps : List Temp} {s r : I32} (h : temps.foldlM I32.add? s = some r) :
    r.val = s.val + total temps := by
  induction temps generalizing s with
  | nil =>
    obtain rfl := Option.some.inj h
    exact (add_zero _).symm
  | cons t ts ih =>
    rw [List.foldlM_cons] at h
    obtain ⟨s', hs', h⟩ := Option.bind_eq_some_iff.mp h
    rw [ih h, ← I32.add?_eq_some.mp hs', total_cons, add_assoc]

theorem foldlM_add?_isSome {temps : List Temp} {s : I32} (hs : 0 ≤ s.val)
    (h : ∀ t ∈ temps, 0 ≤ t.val) :
    (temps.foldlM I32.add? s).isSome = true ↔ s.val + total temps < 2147483648 := by
  induction temps generalizing s with
  | nil =>
    have hlt := s.property.2
    simpa [total] using hlt
  | cons t ts ih =>
    have ht : 0 ≤ t.val := h t List.mem_cons_self
    have hts := total_nonneg fun x hx => h x (List.mem_cons_of_mem t hx)
    rw [List.foldlM_cons, total_cons]
    cases hadd : I32.add? s t with
    | none =>
      have hover := mt I32.add?_isSome_iff.mpr (by rw [hadd]; exact Bool.false_ne_true)
      have hlow := s.property.1
      simp only [Option.bind_eq_bind, Option.bind_none, Option.isSome_none, Bool.false_eq_true,
        false_iff]
      omega
    | some s' =>
      have hval := I32.add?_eq_some.mp hadd
      have hrec := ih (s := s') (by omega) fun x hx => h x (List.mem_cons_of_mem t hx)
      rw [← hval] at hrec
      simp only [Option.bind_eq_bind, Option.bind_some]
      rw [hrec, add_assoc]

theorem accumulate?_val {temps : List Temp} {sum : I32} (h : accumulate? temps = some sum) :
    sum.val = total temps := by
  have hval := foldlM_add?_val h
  rwa [show (0 : I32).val = 0 from rfl, zero_add] at hval

theorem accumulate?_isSome {temps : List Temp} (h : ∀ t ∈ temps, 0 ≤ t.val) :
    (accumulate? temps).isSome = true ↔ total temps < 2147483648 := by
  have hiff := foldlM_add?_isSome (s := 0) le_rfl h
  rwa [show (0 : I32).val = 0 from rfl, zero_add] at hiff

/-- Where all is defined, this is `get_average_temp`. -/
theorem getAverageTemp_of_at {tempAveragingIntervals : U32} {temp : Temp} {h : TempHistory}
    {r : Temp × TempHistory} (hr : getAverageTempAt tempAveragingIntervals temp h = some r) :
    getAverageTemp tempAveragingIntervals false (some temp) h = .ok r := by
  obtain ⟨h', hrecord, hr⟩ := Option.bind_eq_some_iff.mp hr
  unfold TempHistory.recordAt at hrecord
  split_ifs at hrecord
  obtain rfl := Option.some.inj hrecord
  split_ifs at hr with hlength
  obtain ⟨sum, hsum, rfl⟩ := Option.map_eq_some_iff.mp hr
  have hwrap : I32.wrap (((h.record tempAveragingIntervals (some temp)).tempHistory.map
      Subtype.val).sum) = sum := by
    have hval : sum.val = ((h.record tempAveragingIntervals (some temp)).tempHistory.map
        Subtype.val).sum := accumulate?_val hsum
    rw [← hval]
    exact Subtype.ext (I32.wrap_val sum.property)
  simp only [getAverageTemp, Bool.false_eq_true, if_false, averageTemp]
  rw [if_neg hlength, hwrap]

/-! ## One reading -/

variable {tempAveragingIntervals interval : U32} {first temp avg : Temp} {temps : List Temp} {n : ℕ}

theorem window_of_le (h : temps.length ≤ n) :
    window n first temps = temps ++ List.replicate (n - temps.length) first := by
  rw [window, Nat.sub_eq_zero_of_le h, List.drop_zero, Nat.min_eq_left h]

theorem length_window (first : Temp) (h : temps.length ≤ n) :
    (window n first temps).length = n := by
  rw [window_of_le h, List.length_append, List.length_replicate]
  omega

theorem window_nonneg (hfirst : 0 ≤ first.val) (h : ∀ t ∈ temps, 0 ≤ t.val) :
    ∀ t ∈ window n first temps, 0 ≤ t.val := by
  intro t ht
  rcases List.mem_append.mp ht with ht | ht
  · exact h t (List.mem_of_mem_drop ht)
  · exact (List.eq_of_mem_replicate ht) ▸ hfirst

/-- While there are slots left, a reading takes the place of the first copy. -/
theorem window_append (h : temps.length < n) :
    (window n first temps).set temps.length temp = window n first (temps ++ [temp]) := by
  have hlen : (temps ++ [temp]).length ≤ n := by
    rw [List.length_append, List.length_singleton]
    exact h
  obtain ⟨m, hm⟩ := Nat.exists_eq_add_of_lt h
  have hslots : n - temps.length = m + 1 := by omega
  have hrest : n - (temps ++ [temp]).length = m := by
    rw [List.length_append, List.length_singleton]
    omega
  rw [window_of_le h.le, window_of_le hlen, hslots, hrest, List.set_append_right _ _ le_rfl,
    Nat.sub_self, List.replicate_succ, List.set_cons_zero, List.append_assoc,
    List.singleton_append]

/-- The mean of a history, as the source computes it. -/
theorem average_of_accumulate (hnonneg : ∀ t ∈ temps, 0 ≤ t.val) {sum : I32}
    (h : accumulate? temps = some sum) :
    (I32.wrap (((sum.val % 18446744073709551616).toNat / temps.length : ℕ) : ℤ)).val =
      total temps / temps.length := by
  have hlow : 0 ≤ sum.val := (accumulate?_val h).symm ▸ total_nonneg hnonneg
  have hhigh := sum.property.2
  have hmod : (sum.val % 18446744073709551616).toNat = sum.val.toNat := by omega
  have hquot : sum.val.toNat / temps.length < 2147483648 :=
    (Nat.div_le_self _ _).trans_lt (by omega)
  have hmin : (-2147483648 : ℤ) ≤ (sum.val.toNat / temps.length : ℕ) :=
    le_trans (by norm_num) (Int.natCast_nonneg _)
  rw [hmod, I32.wrap_val ⟨hmin, by exact_mod_cast hquot⟩, ← accumulate?_val h, Int.natCast_div,
    Int.toNat_of_nonneg hlow]

/-- The history after the first reading and those of `temps`. -/
def filled (n : ℕ) (first : Temp) (temps : List Temp) (avg : Temp) : TempHistory :=
  ⟨window n first temps, temps.length, avg⟩

/-- What a read gives whose history is then that of the first reading and `temps`. -/
def GivesMean (n : ℕ) (first : Temp) (temps : List Temp) (r : Temp × TempHistory) : Prop :=
  total (window n first temps) < 2147483648 ∧
    r.1.val = total (window n first temps) / n ∧ r.2 = filled n first temps r.1

/-- With the history in place, a read is defined if the sum fits, and gives the mean. -/
theorem givesMean_of_record {h : TempHistory} (hn : n ≠ 0) (hlen : temps.length ≤ n)
    (hnonneg : ∀ t ∈ window n first temps, 0 ≤ t.val)
    (hrecord : h.recordAt interval temp = some (filled n first temps avg))
    {r : Temp × TempHistory} :
    getAverageTempAt interval temp h = some r ↔ GivesMean n first temps r := by
  have hlength := length_window first hlen
  rw [getAverageTempAt, hrecord, Option.bind_some]
  simp only [filled, hlength, if_neg hn]
  rw [Option.map_eq_some_iff]
  constructor
  · rintro ⟨sum, hsum, rfl⟩
    have hmean := average_of_accumulate hnonneg hsum
    rw [hlength] at hmean
    exact ⟨(accumulate?_isSome hnonneg).mp (Option.isSome_iff_exists.mpr ⟨sum, hsum⟩), hmean, rfl⟩
  · rintro ⟨hfits, hmean, hr⟩
    obtain ⟨sum, hsum⟩ := Option.isSome_iff_exists.mp ((accumulate?_isSome hnonneg).mpr hfits)
    have hmean' := average_of_accumulate hnonneg hsum
    rw [hlength] at hmean'
    have havg := Subtype.ext (hmean'.trans hmean.symm)
    exact ⟨sum, hsum, Prod.ext havg (by rw [hr, ← havg]; rfl)⟩

/-- Another reading finds a slot, or it is written past the end. -/
theorem recordAt_filled (interval : U32) (first temp avg : Temp) (hn : n ≠ 0)
    (hlen : temps.length ≤ n) : (filled n first temps avg).recordAt interval temp =
      if temps.length < n then some (filled n first (temps ++ [temp]) avg) else none := by
  have hlength := length_window first hlen
  have hne : window n first temps ≠ [] := by
    intro hnil
    rw [hnil] at hlength
    exact hn hlength.symm
  rw [TempHistory.recordAt]
  simp only [filled, hlength]
  split_ifs with houtside hlt hlt
  · exact absurd houtside.2 (not_le.mpr hlt)
  · rfl
  · rw [TempHistory.record, if_pos hne, hlength, if_pos hlt, window_append hlt, List.length_append]
    rfl
  · exact absurd ⟨hne, not_lt.mp hlt⟩ houtside

/-! ## Runs -/

theorem readings_append (h : TempHistory) (rs : List (U32 × Temp)) (r : U32 × Temp) :
    readings h (rs ++ [r]) =
      (readings h rs).bind fun h => (getAverageTempAt r.1 r.2 h).map Prod.snd := by
  unfold readings
  rw [List.foldlM_append]
  simp only [List.foldlM_cons, List.foldlM_nil, Option.bind_eq_bind, Option.pure_def,
    Option.bind_fun_some]

theorem exists_map_snd {o : Option (Temp × TempHistory)} {h : TempHistory}
    (ho : ∀ r, o = some r ↔ GivesMean n first temps r) : o.map Prod.snd = some h ↔
      total (window n first temps) < 2147483648 ∧
      h.lastAvgTemp.val = total (window n first temps) / n ∧
      h = filled n first temps h.lastAvgTemp := by
  rw [Option.map_eq_some_iff]
  constructor
  · rintro ⟨r, hr, rfl⟩
    obtain ⟨hfits, hmean, heq⟩ := (ho r).mp hr
    have hlast : r.2.lastAvgTemp = r.1 := by rw [heq]; rfl
    rw [hlast]
    exact ⟨hfits, hmean, heq⟩
  · rintro ⟨hfits, hmean, heq⟩
    exact ⟨(h.lastAvgTemp, h), (ho _).mpr ⟨hfits, hmean, heq⟩, rfl⟩

/-- The sums of all windows up to `temps` fit. -/
def SumsFit (n : ℕ) (first : Temp) (temps : List Temp) : Prop :=
  ∀ before, before <+: temps → total (window n first before) < 2147483648

instance (n : ℕ) (first : Temp) (temps : List Temp) : Decidable (SumsFit n first temps) :=
  decidable_of_iff (∀ before ∈ temps.inits, total (window n first before) < 2147483648)
    ⟨fun h before hb => h before ((List.mem_inits _ _).mpr hb),
      fun h before hb => h before ((List.mem_inits _ _).mp hb)⟩

theorem sumsFit_append : SumsFit n first (temps ++ [temp]) ↔
    SumsFit n first temps ∧ total (window n first (temps ++ [temp])) < 2147483648 := by
  constructor
  · exact fun h => ⟨fun before hb => h before (hb.trans (List.prefix_append _ _)),
      h _ (List.prefix_refl _)⟩
  · rintro ⟨h, hlast⟩ before hb
    rcases List.prefix_concat_iff.mp hb with rfl | hb
    · exact hlast
    · exact h before hb

/-- A run reads `rest` with a mean at the end, and its history is in place. -/
def ReadsTo (n : ℕ) (first : Temp) (rest : List Temp) (h : TempHistory) : Prop :=
  rest.length ≤ n ∧ SumsFit n first rest ∧
    h.lastAvgTemp.val = total (window n first rest) / n ∧ h = filled n first rest h.lastAvgTemp

theorem exists_readsTo (hfirst : 0 ≤ first.val) (hnonneg : ∀ t ∈ temps, 0 ≤ t.val)
    (hlen : temps.length ≤ n) (hfits : SumsFit n first temps) : ∃ h, ReadsTo n first temps h := by
  have hlow := total_nonneg (window_nonneg (n := n) hfirst hnonneg)
  have hhigh := hfits temps (List.prefix_refl _)
  have hmean : 0 ≤ total (window n first temps) / n := Int.ediv_nonneg hlow (Int.natCast_nonneg n)
  have hle : total (window n first temps) / n ≤ total (window n first temps) :=
    Int.ediv_le_self _ hlow
  exact ⟨filled n first temps ⟨total (window n first temps) / n, by omega⟩, hlen, hfits, rfl, rfl⟩

/-- One more reading, after a run that got to `temps`. -/
theorem reads_filled (hn : n ≠ 0) (hfirst : 0 ≤ first.val)
    (hnonneg : ∀ t ∈ temps ++ [temp], 0 ≤ t.val) (hlen : temps.length ≤ n)
    (hfits : SumsFit n first temps) {h : TempHistory} :
    (getAverageTempAt interval temp (filled n first temps avg)).map Prod.snd = some h ↔
      ReadsTo n first (temps ++ [temp]) h := by
  have hrecord := recordAt_filled interval first temp avg hn hlen
  unfold ReadsTo
  rw [sumsFit_append, List.length_append, List.length_singleton]
  by_cases hlt : temps.length < n
  · rw [if_pos hlt] at hrecord
    have hgives := fun r => givesMean_of_record (r := r) hn (by simpa using hlt)
      (window_nonneg hfirst hnonneg) hrecord
    rw [exists_map_snd hgives]
    simp only [Nat.succ_le_iff.mpr hlt, hfits, true_and]
  · rw [if_neg hlt] at hrecord
    have hfull : ¬ temps.length + 1 ≤ n := hlt
    rw [getAverageTempAt, hrecord]
    simp [hfull]

theorem readings_first (hn : tempAveragingIntervals.val ≠ 0) (hfirst : 0 ≤ first.val)
    {h : TempHistory} : readings {} [(tempAveragingIntervals, first)] = some h ↔
      ReadsTo tempAveragingIntervals.val first [] h := by
  have hrecord : ({} : TempHistory).recordAt tempAveragingIntervals first =
      some (filled tempAveragingIntervals.val first [] 0) := by
    rw [TempHistory.recordAt, if_neg fun h => h.1 rfl, filled, window_of_le (Nat.zero_le _)]
    rfl
  have hgives := fun r => givesMean_of_record (r := r) hn (Nat.zero_le _)
    (window_nonneg hfirst (by simp)) hrecord
  have hfits : SumsFit tempAveragingIntervals.val first [] ↔
      total (window tempAveragingIntervals.val first []) < 2147483648 := by
    refine ⟨fun h => h [] (List.prefix_refl _), fun h before hb => ?_⟩
    rw [List.prefix_nil.mp hb]
    exact h
  rw [← List.nil_append [(tempAveragingIntervals, first)], readings_append]
  unfold ReadsTo
  rw [hfits]
  simpa [readings] using exists_map_snd (h := h) hgives

/-- A run is defined up to the reading that finds all slots filled, if no sum overflows. -/
theorem readings_eq_some (hn : tempAveragingIntervals.val ≠ 0) (hfirst : 0 ≤ first.val)
    (rest : List (U32 × Temp)) (hrest : ∀ r ∈ rest, 0 ≤ r.2.val) {h : TempHistory} :
    readings {} ((tempAveragingIntervals, first) :: rest) = some h ↔
      ReadsTo tempAveragingIntervals.val first (rest.map Prod.snd) h := by
  induction rest using List.reverseRecOn generalizing h with
  | nil => exact readings_first hn hfirst
  | append_singleton rest r ih =>
    have hbefore : ∀ x ∈ rest, 0 ≤ x.2.val := fun x hx => hrest x (List.mem_append_left _ hx)
    have hnonneg : ∀ t ∈ rest.map Prod.snd ++ [r.2], 0 ≤ t.val := by
      rw [← List.map_singleton, ← List.map_append]
      intro t ht
      obtain ⟨x, hx, rfl⟩ := List.mem_map.mp ht
      exact hrest x hx
    rw [← List.cons_append, readings_append, List.map_append, List.map_singleton,
      Option.bind_eq_some_iff]
    constructor
    · rintro ⟨h', hrun, hread⟩
      obtain ⟨hlen, hfits, -, heq⟩ := (ih hbefore).mp hrun
      rw [heq] at hread
      exact (reads_filled hn hfirst hnonneg hlen hfits).mp hread
    · intro hread
      have hlen : (rest.map Prod.snd).length ≤ tempAveragingIntervals.val :=
        le_trans (by simp) hread.1
      have hfits := (sumsFit_append.mp hread.2.1).1
      obtain ⟨h', hrun⟩ := exists_readsTo hfirst
        (fun t ht => hnonneg t (List.mem_append_left _ ht)) hlen hfits
      refine ⟨h', (ih hbefore).mpr hrun, ?_⟩
      rw [hrun.2.2.2]
      exact (reads_filled hn hfirst hnonneg hlen hfits).mpr hread

/-- **The average is that of the last readings exactly in runs that fill the history at most once
and whose sums fit.** -/
theorem averages_iff (tempAveragingIntervals : U32) (hsize : tempAveragingIntervals ≠ 0)
    (first : Temp) (rest : List (U32 × Temp)) (hfirst : 0 ≤ first.val)
    (hrest : ∀ r ∈ rest, 0 ≤ r.2.val) :
    Averages tempAveragingIntervals first rest ↔
      rest.length ≤ tempAveragingIntervals.val ∧
        SumsFit tempAveragingIntervals.val first (rest.map Prod.snd) := by
  have hn : tempAveragingIntervals.val ≠ 0 := fun h0 => hsize (Fin.ext h0)
  constructor
  · rintro ⟨h, hrun, -⟩
    obtain ⟨hlen, hfits, -⟩ := (readings_eq_some hn hfirst rest hrest).mp hrun
    exact ⟨by simpa using hlen, hfits⟩
  · rintro ⟨hlen, hfits⟩
    have hnonneg : ∀ t ∈ rest.map Prod.snd, 0 ≤ t.val := by
      intro t ht
      obtain ⟨x, hx, rfl⟩ := List.mem_map.mp ht
      exact hrest x hx
    obtain ⟨h, hreads⟩ := exists_readsTo hfirst hnonneg (by simpa using hlen) hfits
    exact ⟨h, (readings_eq_some hn hfirst rest hrest).mpr hreads, hreads.2.2.1⟩

/-! ## A history of one reading -/

theorem averages_twice : Averages 1 40 [(1, 50)] :=
  (averages_iff 1 (by decide) 40 [(1, 50)] (by decide) (by decide)).mpr ⟨by decide, by decide⟩

/-- The third reading is written past the end of a history of one. -/
theorem third_reading_outside :
    ¬ ∀ tempAveragingIntervals : U32, tempAveragingIntervals ≠ 0 →
      ∀ (first : Temp) (rest : List (U32 × Temp)), 0 ≤ first.val → (∀ r ∈ rest, 0 ≤ r.2.val) →
        Averages tempAveragingIntervals first rest := by
  intro h
  obtain ⟨_, hrun, -⟩ := h 1 (by decide) 40 [(1, 50), (1, 60)] (by decide) (by decide)
  have hnone : readings {} [(1, 40), (1, 50), (1, 60)] = none := by decide
  cases hnone.symm.trans hrun

end Fancon
