import Fancon.Types
import Fancon.Lib.SortedMap

/-! # From a temperature to a PWM: the curve lookup of `Fan::update` and `Fan::find_closest_pwm`

`selectRpm` is the RPM `update` hands to `set`, before smoothing; `findClosestPwm` is the PWM it
then commands. Both are partial where the source has no defined result: an iterator past the end
of an empty map is dereferenced, the two temperatures of a segment overflow `int` when added, or a
`double` outside `uint` is converted to an RPM. `double` arithmetic is exact rational arithmetic.

The curve lookup never selects a slower speed at a hotter temperature exactly when no segment that
it interpolates has temperatures whose sum overflows (`hotter_never_slower`).
-/
set_option autoImplicit false
set_option maxHeartbeats 250000
set_option maxRecDepth 120000

namespace Fancon

abbrev TempToRpm := SortedMap Temp Rpm
abbrev RpmToPwm := SortedMap Rpm Pwm

/-! ## The lookups of the source -/

/-- The RPM between two curve points, with the weight `update` computes. -/
def dynamicRpm (temp : Temp) (floor ceil : Temp × Rpm) : Option Rpm :=
  let rpmRange : Rpm := ceil.2 - floor.2
  (I32.add? floor.1 ceil.1).bind fun sum =>
    if sum.val = 0 then none
    else
      let tempRangeWeight : ℚ := (temp.val : ℚ) / (sum.val : ℚ)
      U32.ofInt? (floor.2.val + ⌊tempRangeWeight * (rpmRange.val : ℚ)⌋)

/-- The RPM `Fan::update` selects at an average temperature. -/
def selectRpm (dynamic : Bool) (tempToRpm : TempToRpm) (temp : Temp) : Option Rpm :=
  match tempToRpm.onward temp, (tempToRpm.before temp).getLast? with
  | [], last => last.map Prod.snd
  | floor :: _, none => some floor.2
  | floor :: _, some prev =>
    if floor.1 = temp then some floor.2
    else if !dynamic then some prev.2
    else dynamicRpm temp prev floor

/-- Nearest of the two neighbours of a requested RPM, the lower one on a tie. -/
def closerPwm (rpm : Rpm) (le ge : Rpm × Pwm) : Pwm :=
  if rpm - le.1 ≤ ge.1 - rpm then le.2 else ge.2

/-- The start-up rule at the end of `find_closest_pwm`. -/
def startIfStopped (startPwm : Pwm) (getRpm : Rpm) (pwm : Pwm) : Pwm :=
  if 0 < pwm ∧ pwm < startPwm ∧ getRpm = 0 then startPwm else pwm

/-- `Fan::find_closest_pwm`, for a fan whose current reading is `getRpm`. -/
def findClosestPwm (rpmToPwm : RpmToPwm) (startPwm : Pwm) (getRpm rpm : Rpm) : Option Pwm :=
  match rpmToPwm.onward rpm, (rpmToPwm.before rpm).getLast? with
  | ge :: _, none => some ge.2
  | ge :: _, some le => some (startIfStopped startPwm getRpm (closerPwm rpm le ge))
  | [], some le => some (startIfStopped startPwm getRpm le.2)
  | [], none => none

/-! ## Interpolation within a segment -/

theorem dynamicRpm_eq {temp : Temp} {floor ceil : Temp × Rpm} {sum : I32}
    (hsum : I32.add? floor.1 ceil.1 = some sum) (hpos : 0 < sum.val) :
    dynamicRpm temp floor ceil =
      U32.ofInt?
        (floor.2.val + ⌊(temp.val : ℚ) / sum.val * ((ceil.2 - floor.2 : Rpm).val : ℚ)⌋) := by
  simp [dynamicRpm, hsum, hpos.ne']

/-- Within a segment of non-negative temperatures the interpolated offset stays in the range. -/
theorem weight_floor_mem {t s : ℤ} (range : ℕ) (ht : 0 ≤ t) (hts : t ≤ s) (hs : 0 < s) :
    0 ≤ ⌊(t : ℚ) / s * range⌋ ∧ ⌊(t : ℚ) / s * range⌋ ≤ range := by
  have hs' : (0 : ℚ) < s := by exact_mod_cast hs
  have ht' : (0 : ℚ) ≤ t := by exact_mod_cast ht
  have hle : (t : ℚ) / s ≤ 1 := (div_le_one hs').mpr (by exact_mod_cast hts)
  have hr : (0 : ℚ) ≤ range := by positivity
  constructor
  · exact Int.floor_nonneg.mpr (mul_nonneg (div_nonneg ht' hs'.le) hr)
  · have h : (t : ℚ) / s * range ≤ (range : ℤ) := by
      simpa using mul_le_mul_of_nonneg_right hle hr
    exact_mod_cast Int.floor_le_ceil _ |>.trans (Int.ceil_le.mpr h)

theorem weight_floor_mono {t u s : ℤ} (range : ℕ) (htu : t ≤ u) (hs : 0 < s) :
    ⌊(t : ℚ) / s * range⌋ ≤ ⌊(u : ℚ) / s * range⌋ := by
  have hs' : (0 : ℚ) < s := by exact_mod_cast hs
  have htu' : (t : ℚ) ≤ u := by exact_mod_cast htu
  apply Int.floor_le_floor
  gcongr

theorem dynamicRpm_spec {temp : Temp} {floor ceil : Temp × Rpm} {sum : I32}
    (hsum : I32.add? floor.1 ceil.1 = some sum) (hf : 0 ≤ floor.1.val) (hft : floor.1 < temp)
    (htc : temp < ceil.1) (hrpm : floor.2 ≤ ceil.2) :
    ∃ r, dynamicRpm temp floor ceil = some r ∧ floor.2 ≤ r ∧ r ≤ ceil.2 ∧
      (r.val : ℤ) =
        floor.2.val + ⌊(temp.val : ℚ) / sum.val * ((ceil.2 - floor.2 : Rpm).val : ℚ)⌋ := by
  have hs := I32.add?_eq_some.mp hsum
  have hft' : floor.1.val < temp.val := hft
  have htc' : temp.val < ceil.1.val := htc
  have hrpm' : floor.2.val ≤ ceil.2.val := hrpm
  have hrange : ((ceil.2 - floor.2 : Rpm).val) = ceil.2.val - floor.2.val := by omega
  obtain ⟨hlow, hhigh⟩ := weight_floor_mem (t := temp.val) (s := sum.val)
    (ceil.2 - floor.2 : Rpm).val (by omega) (by omega) (by omega)
  have hc := ceil.2.isLt
  rw [dynamicRpm_eq hsum (by omega), U32.ofInt?_eq_some (by omega) (by omega)]
  exact ⟨_, rfl, by rw [Fin.le_def]; simp only; omega, by rw [Fin.le_def]; simp only; omega,
    by simp only; omega⟩

/-! ## The curve lookup is monotone -/

/-- Every segment that dynamic mode interpolates has temperatures whose sum fits `int`. -/
def SegmentSumsFit (dynamic : Bool) (tempToRpm : TempToRpm) : Prop :=
  dynamic = true → ∀ floor ceil, [floor, ceil] <:+: tempToRpm.entries →
    floor.1.val + 1 < ceil.1.val → floor.1.val + ceil.1.val < 2147483648

theorem segment_consecutive {tempToRpm : TempToRpm} {temp : Temp} {prev floor : Temp × Rpm}
    {rest : List (Temp × Rpm)} (hp : (tempToRpm.before temp).getLast? = some prev)
    (hf : tempToRpm.onward temp = floor :: rest) : [prev, floor] <:+: tempToRpm.entries := by
  obtain ⟨init, hinit⟩ := List.getLast?_eq_some_iff.mp hp
  exact ⟨init, rest, by rw [← tempToRpm.before_append_onward temp, hinit, hf]; simp⟩

section Monotone
variable {tempToRpm : TempToRpm} {dynamic : Bool}

theorem selectRpm_bounds (hpos : ∀ e ∈ tempToRpm.entries, 0 ≤ e.1.val)
    (hmono : tempToRpm.ValuesMonotone) (hfit : SegmentSumsFit dynamic tempToRpm)
    (hne : tempToRpm.entries ≠ []) (temp : Temp) :
    ∃ r, selectRpm dynamic tempToRpm temp = some r ∧
      (∀ e, (tempToRpm.before temp).getLast? = some e → e.2 ≤ r) ∧
      ∀ e, (tempToRpm.onward temp).head? = some e → r ≤ e.2 := by
  cases ho : tempToRpm.onward temp with
  | nil =>
    obtain ⟨e, he⟩ | ⟨e, he⟩ := tempToRpm.last_or_head temp hne
    · exact ⟨e.2, by simp [selectRpm, ho, he], by simp [he], by simp⟩
    · simp [ho] at he
  | cons floor rest =>
    have hmem : floor ∈ tempToRpm.onward temp := by simp [ho]
    cases hp : (tempToRpm.before temp).getLast? with
    | none => exact ⟨floor.2, by simp [selectRpm, ho, hp], by simp, by simp⟩
    | some prev =>
      have hle : prev.2 ≤ floor.2 := hmono.last_le_head hp (by rw [ho]; rfl)
      by_cases heq : floor.1 = temp
      · exact ⟨floor.2, by simp [selectRpm, ho, hp, heq], by simpa using hle, by simp⟩
      · cases dynamic with
        | false => exact ⟨prev.2, by simp [selectRpm, ho, hp, heq], by simp, by simpa using hle⟩
        | true =>
          have hlt : prev.1 < temp := SortedMap.lt_of_mem_before (List.mem_of_getLast? hp)
          have hgt : temp < floor.1 :=
            lt_of_le_of_ne (SortedMap.le_of_mem_onward hmem) (Ne.symm heq)
          have hprev : prev ∈ tempToRpm.entries :=
            (List.takeWhile_sublist _).subset (List.mem_of_getLast? hp)
          have hsum := hfit rfl prev floor (segment_consecutive hp ho)
            (by have h1 : prev.1.val < temp.val := hlt
                have h2 : temp.val < floor.1.val := hgt
                omega)
          have hp0 := hpos prev hprev
          have hadd : I32.add? prev.1 floor.1 =
              some ⟨prev.1.val + floor.1.val, by have := floor.1.property; omega, hsum⟩ :=
            I32.add?_eq_some.mpr rfl
          obtain ⟨r, hr, hlow, hhigh, -⟩ := dynamicRpm_spec hadd hp0 hlt hgt hle
          exact ⟨r, by simp [selectRpm, ho, hp, heq, hr], by simpa using hlow, by simpa using hhigh⟩

theorem selectRpm_segment (hpos : ∀ e ∈ tempToRpm.entries, 0 ≤ e.1.val)
    (hmono : tempToRpm.ValuesMonotone) (hfit : SegmentSumsFit dynamic tempToRpm)
    (hne : tempToRpm.entries ≠ []) {t u : Temp} (htu : t ≤ u)
    (hsame : tempToRpm.before t = tempToRpm.before u) :
    ((selectRpm dynamic tempToRpm t).getD 0) ≤ (selectRpm dynamic tempToRpm u).getD 0 := by
  have hon : tempToRpm.onward t = tempToRpm.onward u :=
    List.append_cancel_left (by
      rw [tempToRpm.before_append_onward, hsame, tempToRpm.before_append_onward])
  cases ho : tempToRpm.onward u with
  | nil => simp [selectRpm, hon, ho, hsame]
  | cons floor rest =>
    cases hp : (tempToRpm.before u).getLast? with
    | none => simp [selectRpm, hon, ho, hsame, hp]
    | some prev =>
      have huf : u ≤ floor.1 := SortedMap.le_of_mem_onward (by rw [ho]; simp)
      by_cases hut : floor.1 = u
      · obtain ⟨r, hr, -, hhigh⟩ := selectRpm_bounds hpos hmono hfit hne t
        have hru : selectRpm dynamic tempToRpm u = some floor.2 := by simp [selectRpm, ho, hp, hut]
        rw [hr, hru]
        exact hhigh floor (by rw [hon, ho]; rfl)
      · have hft : floor.1 ≠ t := fun h => hut (le_antisymm (h ▸ htu) huf)
        cases dynamic with
        | false => simp [selectRpm, hon, ho, hsame, hp, hut, hft]
        | true =>
          have hlt : prev.1 < t := SortedMap.lt_of_mem_before (by
            rw [hsame]; exact List.mem_of_getLast? hp)
          have hgt : u < floor.1 := lt_of_le_of_ne huf (Ne.symm hut)
          have hp0 := hpos prev ((List.takeWhile_sublist _).subset (List.mem_of_getLast? hp))
          have hsum := hfit rfl prev floor (segment_consecutive hp ho)
            (by have h1 : prev.1.val < t.val := hlt
                have h2 : t.val ≤ u.val := htu
                have h3 : u.val < floor.1.val := hgt
                omega)
          have hle : prev.2 ≤ floor.2 := hmono.last_le_head hp (by rw [ho]; rfl)
          obtain ⟨sum, hadd⟩ : ∃ sum, I32.add? prev.1 floor.1 = some sum :=
            ⟨⟨prev.1.val + floor.1.val, by have := floor.1.property; omega, hsum⟩,
              I32.add?_eq_some.mpr rfl⟩
          have hs := I32.add?_eq_some.mp hadd
          obtain ⟨r, hr, -, -, hrv⟩ := dynamicRpm_spec hadd hp0 hlt (htu.trans_lt hgt) hle
          obtain ⟨q, hq, -, -, hqv⟩ := dynamicRpm_spec hadd hp0 (hlt.trans_le htu) hgt hle
          have hw := weight_floor_mono (s := sum.val) (floor.2 - prev.2 : Rpm).val
            (show t.val ≤ u.val from htu)
            (by have h1 : prev.1.val < t.val := hlt
                have h2 : t.val ≤ u.val := htu
                have h3 : u.val < floor.1.val := hgt
                omega)
          simp only [selectRpm, hon, ho, hsame, hp, hut, hft, hr, hq, if_false, Bool.not_true,
            Bool.false_eq_true, Option.getD_some]
          rw [Fin.le_def]
          omega

theorem selectRpm_mono (hpos : ∀ e ∈ tempToRpm.entries, 0 ≤ e.1.val)
    (hmono : tempToRpm.ValuesMonotone) (hfit : SegmentSumsFit dynamic tempToRpm)
    (hne : tempToRpm.entries ≠ []) {t u : Temp} (htu : t ≤ u) :
    ∃ r q, selectRpm dynamic tempToRpm t = some r ∧ selectRpm dynamic tempToRpm u = some q ∧
      r ≤ q := by
  have hb := selectRpm_bounds hpos hmono hfit hne
  have h : Monotone fun t => (selectRpm dynamic tempToRpm t).getD 0 := by
    refine SortedMap.monotone_of_segments hmono _ (fun k e he => ?_) (fun k e he => ?_)
      (fun k l hkl hkeq => selectRpm_segment hpos hmono hfit hne hkl hkeq)
    · obtain ⟨r, hr, hlow, -⟩ := hb k
      simpa [hr] using hlow e he
    · obtain ⟨r, hr, -, hhigh⟩ := hb k
      simpa [hr] using hhigh e he
  obtain ⟨r, hr, -⟩ := hb t
  obtain ⟨q, hq, -⟩ := hb u
  exact ⟨r, q, hr, hq, by simpa [hr, hq] using h htu⟩

end Monotone

/-! ## The nearest calibrated point is monotone -/

/-- The entry `find_closest_pwm` picks, before the start-up rule. -/
def nearestPwm (rpmToPwm : RpmToPwm) (rpm : Rpm) : Option Pwm :=
  match rpmToPwm.onward rpm, (rpmToPwm.before rpm).getLast? with
  | ge :: _, none => some ge.2
  | ge :: _, some le => some (closerPwm rpm le ge)
  | [], last => last.map Prod.snd

theorem findClosestPwm_eq (rpmToPwm : RpmToPwm) (startPwm : Pwm) (getRpm rpm : Rpm) :
    findClosestPwm rpmToPwm startPwm getRpm rpm =
      if rpmToPwm.before rpm = [] then nearestPwm rpmToPwm rpm
      else (nearestPwm rpmToPwm rpm).map (startIfStopped startPwm getRpm) := by
  unfold findClosestPwm nearestPwm
  cases ho : rpmToPwm.onward rpm <;> cases hb : rpmToPwm.before rpm using List.reverseRecOn <;>
    simp

theorem le_startIfStopped (startPwm : Pwm) (getRpm : Rpm) (pwm : Pwm) :
    pwm ≤ startIfStopped startPwm getRpm pwm := by
  unfold startIfStopped
  split_ifs with h
  · exact h.2.1.le
  · exact le_rfl

theorem startIfStopped_mono (startPwm : Pwm) (getRpm : Rpm) :
    Monotone (startIfStopped startPwm getRpm) := by
  intro p q hpq
  by_cases hp : 0 < p ∧ p < startPwm ∧ getRpm = 0
  · rw [startIfStopped, if_pos hp]
    by_cases hq : q < startPwm
    · rw [startIfStopped, if_pos ⟨hp.1.trans_le hpq, hq, hp.2.2⟩]
    · exact (not_lt.mp hq).trans (le_startIfStopped startPwm getRpm q)
  · calc startIfStopped startPwm getRpm p = p := if_neg hp
      _ ≤ q := hpq
      _ ≤ _ := le_startIfStopped startPwm getRpm q

section Nearest
variable {rpmToPwm : RpmToPwm}

theorem closerPwm_mem (rpm : Rpm) (le ge : Rpm × Pwm) (h : le.2 ≤ ge.2) :
    le.2 ≤ closerPwm rpm le ge ∧ closerPwm rpm le ge ≤ ge.2 := by
  unfold closerPwm
  split_ifs
  · exact ⟨le_rfl, h⟩
  · exact ⟨h, le_rfl⟩

/-- A higher request between the same two entries cannot go back to the lower one. -/
theorem closerPwm_mono {r q : Rpm} {le ge : Rpm × Pwm} (hl : le.1 < r) (hrq : r ≤ q)
    (hq : q ≤ ge.1) (h : le.2 ≤ ge.2) : closerPwm r le ge ≤ closerPwm q le ge := by
  unfold closerPwm
  split_ifs with h1 h2 h2
  · exact le_rfl
  · exact h
  · exfalso
    have e1 : le.1.val < r.val := hl
    have e2 : r.val ≤ q.val := hrq
    have e3 : q.val ≤ ge.1.val := hq
    have e4 : (q - le.1 : Rpm).val ≤ (ge.1 - q : Rpm).val := h2
    have e5 : ¬ (r - le.1 : Rpm).val ≤ (ge.1 - r : Rpm).val := h1
    omega
  · exact le_rfl

theorem nearestPwm_bounds (hmono : rpmToPwm.ValuesMonotone) (hne : rpmToPwm.entries ≠ [])
    (rpm : Rpm) :
    ∃ p, nearestPwm rpmToPwm rpm = some p ∧
      (∀ e, (rpmToPwm.before rpm).getLast? = some e → e.2 ≤ p) ∧
      ∀ e, (rpmToPwm.onward rpm).head? = some e → p ≤ e.2 := by
  cases ho : rpmToPwm.onward rpm with
  | nil =>
    obtain ⟨e, he⟩ | ⟨e, he⟩ := rpmToPwm.last_or_head rpm hne
    · exact ⟨e.2, by simp [nearestPwm, ho, he], by simp [he], by simp⟩
    · simp [ho] at he
  | cons ge rest =>
    cases hp : (rpmToPwm.before rpm).getLast? with
    | none => exact ⟨ge.2, by simp [nearestPwm, ho, hp], by simp, by simp⟩
    | some le =>
      obtain ⟨hlow, hhigh⟩ := closerPwm_mem rpm le ge (hmono.last_le_head hp (by rw [ho]; rfl))
      exact ⟨closerPwm rpm le ge, by simp [nearestPwm, ho, hp], by simpa using hlow,
        by simpa using hhigh⟩

theorem nearestPwm_mono (hmono : rpmToPwm.ValuesMonotone) (hne : rpmToPwm.entries ≠ []) :
    Monotone fun rpm => (nearestPwm rpmToPwm rpm).getD 0 := by
  have hb := nearestPwm_bounds hmono hne
  refine SortedMap.monotone_of_segments hmono _ (fun k e he => ?_) (fun k e he => ?_)
    fun r q hrq hsame => ?_
  · obtain ⟨p, hp, hlow, -⟩ := hb k
    simpa [hp] using hlow e he
  · obtain ⟨p, hp, -, hhigh⟩ := hb k
    simpa [hp] using hhigh e he
  · have hon : rpmToPwm.onward r = rpmToPwm.onward q :=
      List.append_cancel_left (by
        rw [rpmToPwm.before_append_onward, hsame, rpmToPwm.before_append_onward])
    cases ho : rpmToPwm.onward q with
    | nil => simp [nearestPwm, hon, ho, hsame]
    | cons ge rest =>
      cases hp : (rpmToPwm.before q).getLast? with
      | none => simp [nearestPwm, hon, ho, hsame, hp]
      | some le =>
        have hl : le.1 < r := SortedMap.lt_of_mem_before (by
          rw [hsame]; exact List.mem_of_getLast? hp)
        have hq : q ≤ ge.1 := SortedMap.le_of_mem_onward (by rw [ho]; simp)
        simpa [nearestPwm, hon, ho, hsame, hp] using
          closerPwm_mono hl hrq hq (hmono.last_le_head hp (by rw [ho]; rfl))

theorem findClosestPwm_mono (hmono : rpmToPwm.ValuesMonotone) (hne : rpmToPwm.entries ≠ [])
    (startPwm : Pwm) (getRpm : Rpm) {r q : Rpm} (hrq : r ≤ q) :
    ∃ p p', findClosestPwm rpmToPwm startPwm getRpm r = some p ∧
      findClosestPwm rpmToPwm startPwm getRpm q = some p' ∧ p ≤ p' := by
  obtain ⟨n, hn, -⟩ := nearestPwm_bounds hmono hne r
  obtain ⟨n', hn', -⟩ := nearestPwm_bounds hmono hne q
  have hle : n ≤ n' := by simpa [hn, hn'] using nearestPwm_mono hmono hne hrq
  have hpre := rpmToPwm.before_prefix hrq
  rw [findClosestPwm_eq, findClosestPwm_eq, hn, hn']
  by_cases hr : rpmToPwm.before r = []
  · by_cases hq : rpmToPwm.before q = []
    · exact ⟨n, n', by simp [hr], by simp [hq], hle⟩
    · exact ⟨n, _, by simp [hr], by simp [hq], hle.trans (le_startIfStopped startPwm getRpm n')⟩
  · have hq : rpmToPwm.before q ≠ [] := fun h => hr (List.prefix_nil.mp (h ▸ hpre))
    exact ⟨_, _, by simp [hr], by simp [hq], startIfStopped_mono startPwm getRpm hle⟩

end Nearest

/-! ## Hotter never means slower -/

/-- At a hotter average temperature `update` selects no lower RPM, and no calibrated fan gets a
lower PWM for it. -/
def HotterNeverSlower (dynamic : Bool) (tempToRpm : TempToRpm) : Prop :=
  ∀ t u : Temp, t ≤ u → ∃ r q,
    selectRpm dynamic tempToRpm t = some r ∧ selectRpm dynamic tempToRpm u = some q ∧ r ≤ q ∧
    ∀ (rpmToPwm : RpmToPwm) (startPwm : Pwm) (getRpm : Rpm),
      rpmToPwm.entries ≠ [] → rpmToPwm.ValuesMonotone →
      ∃ p p', findClosestPwm rpmToPwm startPwm getRpm r = some p ∧
        findClosestPwm rpmToPwm startPwm getRpm q = some p' ∧ p ≤ p'

/-- Just above the floor of a segment whose temperatures overflow when added, nothing is
selected. -/
theorem selectRpm_overflow {tempToRpm : TempToRpm} {floor ceil : Temp × Rpm}
    (hseg : [floor, ceil] <:+: tempToRpm.entries) (hgap : floor.1.val + 1 < ceil.1.val)
    (hover : 2147483648 ≤ floor.1.val + ceil.1.val) :
    ∃ t : Temp, selectRpm true tempToRpm t = none := by
  obtain ⟨init, rest, hinit⟩ := hseg
  have hf := floor.1.property
  have hc := ceil.1.property
  have ht : -2147483648 ≤ floor.1.val + 1 ∧ floor.1.val + 1 < 2147483648 := by omega
  refine ⟨⟨floor.1.val + 1, ht⟩, ?_⟩
  have hlt : floor.1 < (⟨floor.1.val + 1, ht⟩ : Temp) := by
    show floor.1.val < floor.1.val + 1
    omega
  have hle : (⟨floor.1.val + 1, ht⟩ : Temp) < ceil.1 := hgap
  have hentries : tempToRpm.entries = init ++ floor :: ceil :: rest := by simp [← hinit]
  obtain ⟨hb, ho⟩ := tempToRpm.split_between hentries hlt hle.le
  have hadd : I32.add? floor.1 ceil.1 = none := dif_neg (by omega)
  simp [selectRpm, hb, ho, (ne_of_gt hle : ceil.1 ≠ _), dynamicRpm, hadd]

/-- **Hotter never means slower exactly when no interpolated segment overflows.** -/
theorem hotter_never_slower_iff (dynamic : Bool) (tempToRpm : TempToRpm)
    (hne : tempToRpm.entries ≠ []) (hpos : ∀ e ∈ tempToRpm.entries, 0 ≤ e.1.val)
    (hmono : tempToRpm.ValuesMonotone) :
    HotterNeverSlower dynamic tempToRpm ↔ SegmentSumsFit dynamic tempToRpm := by
  constructor
  · rintro h rfl floor ceil hseg hgap
    by_contra hover
    obtain ⟨t, ht⟩ := selectRpm_overflow hseg hgap (by omega)
    obtain ⟨r, -, hr, -⟩ := h t t le_rfl
    simp [ht] at hr
  · intro hfit t u htu
    obtain ⟨r, q, hr, hq, hrq⟩ := selectRpm_mono hpos hmono hfit hne htu
    exact ⟨r, q, hr, hq, hrq, fun _ startPwm getRpm hne' hmono' =>
      findClosestPwm_mono hmono' hne' startPwm getRpm hrq⟩

/-- The curve of the README's interpolation example. -/
def readmeCurve : TempToRpm := SortedMap.ofItems [(⟨30, by decide⟩, 800), (⟨50, by decide⟩, 1200)]

theorem hotter_never_slower_readme :
    HotterNeverSlower true readmeCurve ↔ SegmentSumsFit true readmeCurve :=
  hotter_never_slower_iff true readmeCurve (by decide) (by decide)
    (by unfold SortedMap.ValuesMonotone; decide)

/-- Two points above `2^30`, whose sum does not fit `int`. -/
def scorchingCurve : TempToRpm :=
  SortedMap.ofItems [(⟨1073741824, by decide⟩, 800), (⟨1073741834, by decide⟩, 1200)]

theorem hotter_never_slower_fails :
    scorchingCurve.entries ≠ [] ∧ (∀ e ∈ scorchingCurve.entries, 0 ≤ e.1.val) ∧
      scorchingCurve.ValuesMonotone ∧ ¬ HotterNeverSlower true scorchingCurve := by
  refine ⟨by decide, by decide, by unfold SortedMap.ValuesMonotone; decide, fun h => ?_⟩
  obtain ⟨r, -, hr, -⟩ := h ⟨1073741829, by decide⟩ ⟨1073741829, by decide⟩ le_rfl
  have hnone : selectRpm true scorchingCurve ⟨1073741829, by decide⟩ = none := by decide
  simp [hnone] at hr

end Fancon
