import Fancon.Fan.ControlLoop

/-! # `Fan::update` on iterators

The lookups of `update`, `smooth_rpm` and `find_closest_pwm` as the source makes them: positions in
the maps that are moved, compared and dereferenced. To dereference one that denotes no element is a
slip of its own. With a sensor and two non-empty maps none is made, and `update` is what
`Fan.update` says (`updateAt_eq`).
-/
set_option autoImplicit false
set_option maxHeartbeats 250000
set_option maxRecDepth 120000

namespace Fancon

/-! ## The lookups of the source -/

inductive Slip
  | outside
  | fault (f : Fault)
deriving DecidableEq

/-- `*it`. -/
def deref {K V : Type} [LinearOrder K] (m : SortedMap K V) (it : ℤ) : Except Slip (K × V) :=
  match m.deref? it with
  | some e => .ok e
  | none => .error .outside

/-- `Fan::update` between reading the sensor and `set`. -/
def selectRpmAt (dynamic : Bool) (tempToRpm : TempToRpm) (temp : Temp) : Except Slip Rpm :=
  let floorIt := tempToRpm.lowerBound temp
  if floorIt = tempToRpm.endPos then (deref tempToRpm (floorIt - 1)).map Prod.snd
  else if floorIt = 0 then (deref tempToRpm floorIt).map Prod.snd
  else
    (deref tempToRpm floorIt).bind fun floor =>
    if floor.1 = temp then .ok floor.2
    else
      let floorIt := if temp.val < floor.1.val then floorIt - 1 else floorIt
      (deref tempToRpm floorIt).bind fun floor =>
      if !dynamic then .ok floor.2
      else
        (deref tempToRpm (floorIt + 1)).bind fun ceil =>
        (orUndefined (dynamicRpm temp floor ceil)).mapError .fault

def findClosestPwmAt (rpmToPwm : RpmToPwm) (startPwm : Pwm) (getRpm rpm : Rpm) : Except Slip Pwm :=
  let geIt := rpmToPwm.lowerBound rpm
  if geIt = 0 then (deref rpmToPwm geIt).map Prod.snd
  else
    (deref rpmToPwm (geIt - 1)).bind fun le =>
    (if geIt ≠ rpmToPwm.endPos then
      (deref rpmToPwm geIt).map fun ge => closerPwm rpm le ge
    else .ok le.2).map (startIfStopped startPwm getRpm)

def smoothChangeAt (cfg : Settings) (rpmToPwm : RpmToPwm) (rpm : Rpm) (rpmDelta : I32)
    (s : Smoothing) : Except Slip (Rpm × Smoothing) :=
  (deref rpmToPwm (rpmToPwm.endPos - 1)).bind fun max =>
  if minorChange rpmDelta max.1 then .ok (rpm, { s with targetedRpm := rpm })
  else (smoothStep rpmDelta (s.restart cfg rpm)).mapError .fault

def smoothRpmAt (cfg : Settings) (rpmToPwm : RpmToPwm) (rpm : Rpm) (s : Smoothing) :
    Except Slip (Rpm × Smoothing) :=
  let rpmDelta := U32.toI32 (rpm - s.targetedRpm)
  if rpmDelta.val = 0 then .ok (rpm, s)
  else if s.justStarted then .ok (rpm, .start cfg rpm)
  else if rpmDelta.val < 0 ∧ 0 < s.topStickinessRemIntervals then
    .ok (s.targetedRpm,
      { s with topStickinessRemIntervals := s.topStickinessRemIntervals - 1 })
  else smoothChangeAt cfg rpmToPwm rpm rpmDelta (s.resetStickiness cfg rpmDelta)

/-- `Fan::update`, up to the PWM it hands to `set_pwm`; `sensor` is dereferenced first. -/
def Fan.updateAt (cfg : Settings) (fresh : Bool) (read : Option Temp) (getRpm : Rpm) (f : Fan)
    (h : TempHistory) : Except Slip (Pwm × Fan × TempHistory) :=
  match f.sensor with
  | none => .error .outside
  | some _ =>
    ((getAverageTemp cfg.tempAveragingIntervals fresh read h).mapError .fault).bind fun (temp, h) =>
    (selectRpmAt cfg.dynamic f.tempToRpm temp).bind fun rpm =>
    (smoothRpmAt cfg f.rpmToPwm rpm f.smoothing).bind fun (rpm, smoothing) =>
    (findClosestPwmAt f.rpmToPwm f.startPwm getRpm rpm).map fun target =>
    (target, { f with smoothing := smoothing }, h)

/-! ## The lookups find an element -/

theorem deref_of_some {K V : Type} [LinearOrder K] {m : SortedMap K V} {it : ℤ} {e : K × V}
    (h : m.deref? it = some e) : deref m it = .ok e := by rw [deref, h]

theorem selectRpmAt_eq (dynamic : Bool) {tempToRpm : TempToRpm} (hne : tempToRpm.entries ≠ [])
    (temp : Temp) : selectRpmAt dynamic tempToRpm temp =
      (orUndefined (selectRpm dynamic tempToRpm temp)).mapError .fault := by
  have hfloor := tempToRpm.deref?_lowerBound temp
  have hprev := tempToRpm.deref?_lowerBound_pred temp
  cases ho : tempToRpm.onward temp with
  | nil =>
    obtain ⟨last, hlast⟩ | ⟨e, he⟩ := tempToRpm.last_or_head temp hne
    · have hend := SortedMap.lowerBound_eq_endPos.mpr ho
      have hselect : selectRpm dynamic tempToRpm temp = some last.2 := by
        simp [selectRpm, ho, hlast]
      simp only [selectRpmAt]
      rw [if_pos hend, deref_of_some (hprev.trans hlast), hselect]
      rfl
    · simp [ho] at he
  | cons floor rest =>
    have hend : tempToRpm.lowerBound temp ≠ tempToRpm.endPos := by
      rw [ne_eq, SortedMap.lowerBound_eq_endPos, ho]
      simp
    have hat := deref_of_some (hfloor.trans (congrArg List.head? ho))
    cases hp : (tempToRpm.before temp).getLast? with
    | none =>
      have hbegin := SortedMap.lowerBound_eq_zero.mpr (List.getLast?_eq_none_iff.mp hp)
      have hselect : selectRpm dynamic tempToRpm temp = some floor.2 := by simp [selectRpm, ho, hp]
      simp only [selectRpmAt]
      rw [if_neg hend, if_pos hbegin, hat, hselect]
      rfl
    | some prev =>
      have hbegin : tempToRpm.lowerBound temp ≠ 0 := by
        rw [ne_eq, SortedMap.lowerBound_eq_zero]
        rintro hnil
        simp [hnil] at hp
      have hprevAt := deref_of_some (hprev.trans hp)
      simp only [selectRpmAt]
      rw [if_neg hend, if_neg hbegin, hat]
      by_cases heq : floor.1 = temp
      · have hselect : selectRpm dynamic tempToRpm temp = some floor.2 := by
          simp [selectRpm, ho, hp, heq]
        rw [hselect]
        exact if_pos heq
      · have hmem : floor ∈ tempToRpm.onward temp := by simp [ho]
        have hlt : temp < floor.1 :=
          lt_of_le_of_ne (SortedMap.le_of_mem_onward hmem) (Ne.symm heq)
        have hlt' : temp.val < floor.1.val := hlt
        have hnext : tempToRpm.lowerBound temp - 1 + 1 = tempToRpm.lowerBound temp := by omega
        simp only [Except.bind, if_neg heq, if_pos hlt', hprevAt, hnext, hat]
        cases dynamic <;> simp [selectRpm, ho, hp, heq, orUndefined, Except.mapError]

theorem findClosestPwmAt_eq {rpmToPwm : RpmToPwm} (hne : rpmToPwm.entries ≠ []) (startPwm : Pwm)
    (getRpm rpm : Rpm) : findClosestPwmAt rpmToPwm startPwm getRpm rpm =
      (orUndefined (findClosestPwm rpmToPwm startPwm getRpm rpm)).mapError .fault := by
  have hge := rpmToPwm.deref?_lowerBound rpm
  have hle := rpmToPwm.deref?_lowerBound_pred rpm
  cases hp : (rpmToPwm.before rpm).getLast? with
  | none =>
    have hbegin := SortedMap.lowerBound_eq_zero.mpr (List.getLast?_eq_none_iff.mp hp)
    obtain ⟨le, hle'⟩ | ⟨ge, hge'⟩ := rpmToPwm.last_or_head rpm hne
    · rw [hp] at hle'
      cases hle'
    · obtain ⟨rest, ho⟩ : ∃ rest, rpmToPwm.onward rpm = ge :: rest := List.head?_eq_some_iff.mp hge'
      simp only [findClosestPwmAt, if_pos hbegin, deref_of_some (hge.trans hge')]
      simp [findClosestPwm, ho, hp, orUndefined, Except.mapError, Except.map]
  | some le =>
    have hbegin : rpmToPwm.lowerBound rpm ≠ 0 := by
      rw [ne_eq, SortedMap.lowerBound_eq_zero]
      rintro hnil
      simp [hnil] at hp
    have hleAt := deref_of_some (hle.trans hp)
    cases ho : rpmToPwm.onward rpm with
    | nil =>
      have hend := SortedMap.lowerBound_eq_endPos.mpr ho
      simp only [findClosestPwmAt, if_neg hbegin, hleAt, Except.bind]
      simp [findClosestPwm, ho, hp, hend, orUndefined, Except.mapError, Except.map]
    | cons ge rest =>
      have hend : rpmToPwm.lowerBound rpm ≠ rpmToPwm.endPos := by
        rw [ne_eq, SortedMap.lowerBound_eq_endPos, ho]
        simp
      have hgeAt := deref_of_some (hge.trans (congrArg List.head? ho))
      simp only [findClosestPwmAt, if_neg hbegin, hleAt, hgeAt, Except.bind]
      simp [findClosestPwm, ho, hp, hend, orUndefined, Except.mapError, Except.map]

theorem smoothRpmAt_eq (cfg : Settings) {rpmToPwm : RpmToPwm} (hne : rpmToPwm.entries ≠ [])
    (rpm : Rpm) (s : Smoothing) :
    smoothRpmAt cfg rpmToPwm rpm s = (smoothRpm cfg rpmToPwm rpm s).mapError .fault := by
  have hmax : rpmToPwm.deref? (rpmToPwm.endPos - 1) = some (rpmToPwm.entries.getLast hne) := by
    rw [SortedMap.deref?_endPos_pred, List.getLast?_eq_some_getLast hne]
  have hchange : ∀ rpmDelta t, smoothChangeAt cfg rpmToPwm rpm rpmDelta t =
      (smoothChange cfg rpmToPwm rpm rpmDelta t).mapError .fault := by
    intro rpmDelta t
    rw [smoothChangeAt, smoothChange, deref_of_some hmax, List.getLast?_eq_some_getLast hne]
    simp only [Except.bind]
    split_ifs <;> rfl
  simp only [smoothRpmAt, smoothRpm, hchange]
  split_ifs <;> rfl

theorem mapError_bind {α β : Type} (x : Except Fault α) (g : α → Except Fault β) :
    (x.bind g).mapError Slip.fault = (x.mapError .fault).bind fun a => (g a).mapError .fault := by
  cases x <;> rfl

theorem mapError_map {α β : Type} (x : Except Fault α) (g : α → β) :
    (x.map g).mapError Slip.fault = (x.mapError .fault).map g := by
  cases x <;> rfl

/-- **With a sensor and two non-empty maps every iterator that is dereferenced denotes an element
of its map.** -/
theorem Fan.updateAt_eq {f : Fan} (hsensor : f.sensor.isSome = true)
    (hcurve : f.tempToRpm.entries ≠ []) (hmap : f.rpmToPwm.entries ≠ []) (cfg : Settings)
    (fresh : Bool) (read : Option Temp) (getRpm : Rpm) (h : TempHistory) :
    f.updateAt cfg fresh read getRpm h = (f.update cfg fresh read getRpm h).mapError .fault := by
  obtain ⟨sensor, hs⟩ := Option.isSome_iff_exists.mp hsensor
  simp only [Fan.updateAt, hs, Fan.update, mapError_bind, mapError_map,
    selectRpmAt_eq cfg.dynamic hcurve, smoothRpmAt_eq cfg hmap, findClosestPwmAt_eq hmap]

theorem Fan.updateAt_ne_outside {f : Fan} (hsensor : f.sensor.isSome = true)
    (hcurve : f.tempToRpm.entries ≠ []) (hmap : f.rpmToPwm.entries ≠ []) (cfg : Settings)
    (fresh : Bool) (read : Option Temp) (getRpm : Rpm) (h : TempHistory) :
    f.updateAt cfg fresh read getRpm h ≠ .error .outside := by
  rw [Fan.updateAt_eq hsensor hcurve hmap]
  cases f.update cfg fresh read getRpm h <;> simp [Except.mapError]

end Fancon
