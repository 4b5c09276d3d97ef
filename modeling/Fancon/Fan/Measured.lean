import Fancon.Fan.Calibration

/-! # The points of a calibration

A calibration leaves the RPM that was measured at each PWM. `rpm_to_pwm_from` sorts the RPMs and
pairs them with the PWMs in order, so that the RPM only increases with the PWM; of a run of equal
RPMs the last one is kept (`of_measured_ascends`).
-/
set_option autoImplicit false
set_option maxHeartbeats 250000
set_option maxRecDepth 120000

namespace Fancon

section
variable {m : PwmToRpm}

theorem RpmToPwm.ofMeasured_ne_nil (h : m.entries ≠ []) :
    (RpmToPwm.ofMeasured m).entries ≠ [] := by
  refine SortedMap.ofItems_ne_nil fun hnil => h ?_
  rcases List.zip_eq_nil_iff.mp hnil with hrpms | hpwms
  · have hlen := congrArg List.length hrpms
    rw [List.length_mergeSort, List.length_map] at hlen
    exact List.eq_nil_of_length_eq_zero hlen
  · rw [SortedMap.keys, List.map_map] at hpwms
    exact List.map_eq_nil_iff.mp hpwms

/-- The measured RPMs in order. -/
def sortedRpms (m : PwmToRpm) : List Rpm :=
  (m.entries.map Prod.snd).mergeSort fun a b => decide (a ≤ b)

theorem sortedRpms_pairwise (m : PwmToRpm) : (sortedRpms m).Pairwise (· ≤ ·) := by
  have hsorted := @List.pairwise_mergeSort Rpm (fun a b => decide (a ≤ b))
    (fun a b c hab hbc => decide_eq_true ((of_decide_eq_true hab).trans (of_decide_eq_true hbc)))
    (fun a b => by simpa using le_total a b) (m.entries.map Prod.snd)
  exact hsorted.imp of_decide_eq_true

theorem map_clampPwm_keys (hrange : ∀ pwm ∈ m.keys, pwm ≤ PWM_MAX) :
    m.keys.map clampPwm = m.keys := by
  rw [List.map_congr_left fun pwm hpwm => clampPwm_of_le (hrange pwm hpwm), List.map_id']

/-- The items that are put into the map. -/
def measuredItems (m : PwmToRpm) : List (Rpm × Pwm) := (sortedRpms m).zip m.keys

theorem length_sortedRpms (m : PwmToRpm) : (sortedRpms m).length = m.keys.length := by
  rw [sortedRpms, List.length_mergeSort, SortedMap.keys, List.length_map, List.length_map]

theorem measuredItems_fst (m : PwmToRpm) : (measuredItems m).map Prod.fst = sortedRpms m :=
  List.map_fst_zip (length_sortedRpms m).le

theorem measuredItems_snd (m : PwmToRpm) : (measuredItems m).map Prod.snd = m.keys :=
  List.map_snd_zip (length_sortedRpms m).ge

theorem ofMeasured_eq (hrange : ∀ pwm ∈ m.keys, pwm ≤ PWM_MAX) :
    RpmToPwm.ofMeasured m = SortedMap.ofItems (measuredItems m) := by
  rw [RpmToPwm.ofMeasured, map_clampPwm_keys hrange]
  rfl

theorem measuredItems_pairwise (m : PwmToRpm) :
    (measuredItems m).Pairwise fun a b => a.1 ≤ b.1 ∧ a.2 < b.2 := by
  have hrpms := sortedRpms_pairwise m
  rw [← measuredItems_fst, List.pairwise_map] at hrpms
  have hpwms : m.keys.Pairwise (· < ·) := List.pairwise_map.mpr m.sorted
  rw [← measuredItems_snd, List.pairwise_map] at hpwms
  exact hrpms.and hpwms

/-- RPMs that ascend with the PWM are already in order. -/
theorem measuredItems_of_ascending (h : (m.entries.map Prod.snd).Pairwise (· < ·)) :
    measuredItems m = m.entries.map Prod.swap := by
  have hsorted : sortedRpms m = m.entries.map Prod.snd :=
    List.mergeSort_of_pairwise (h.imp fun hab => decide_eq_true hab.le)
  rw [measuredItems, hsorted, SortedMap.keys, List.zip_map']
  rfl

theorem ofMeasured_of_ascending (hrange : ∀ pwm ∈ m.keys, pwm ≤ PWM_MAX)
    (h : (m.entries.map Prod.snd).Pairwise (· < ·)) :
    (RpmToPwm.ofMeasured m).entries = m.entries.map Prod.swap := by
  rw [ofMeasured_eq hrange, measuredItems_of_ascending h]
  exact SortedMap.ofItems_sorted (List.pairwise_map.mpr (List.pairwise_map.mp h))

end

/-- **The keys are the measured RPMs and the PWMs are measured ones that ascend with them; RPMs that
ascend with the PWM keep their own.** -/
theorem of_measured_ascends (m : PwmToRpm) (hrange : ∀ pwm ∈ m.keys, pwm ≤ PWM_MAX) :
    (∀ rpm, rpm ∈ (RpmToPwm.ofMeasured m).keys ↔ rpm ∈ m.entries.map Prod.snd) ∧
      ((RpmToPwm.ofMeasured m).entries.Pairwise fun a b => a.2 < b.2) ∧
      (∀ e ∈ (RpmToPwm.ofMeasured m).entries, e.2 ∈ m.keys) ∧
      ((m.entries.map Prod.snd).Pairwise (· < ·) →
        (RpmToPwm.ofMeasured m).entries = m.entries.map Prod.swap) ∧
      (m.entries ≠ [] → (RpmToPwm.ofMeasured m).entries ≠ []) := by
  refine ⟨fun rpm => ?_, ?_, fun e he => ?_, ofMeasured_of_ascending hrange,
    RpmToPwm.ofMeasured_ne_nil⟩
  · rw [ofMeasured_eq hrange, SortedMap.mem_keys_ofItems, measuredItems_fst]
    exact List.mem_mergeSort
  · rw [ofMeasured_eq hrange]
    exact SortedMap.ofItems_values_ascend (measuredItems_pairwise m)
  · rw [ofMeasured_eq hrange] at he
    rw [← measuredItems_snd]
    exact List.mem_map_of_mem (SortedMap.mem_of_mem_ofItems he)

/-- A fan that turns no faster at PWM 200 than at PWM 100. -/
def levelMeasured : PwmToRpm := .ofItems [(0, 0), (100, 900), (200, 900), (255, 1500)]

theorem of_measured_level :
    (∀ rpm, rpm ∈ (RpmToPwm.ofMeasured levelMeasured).keys ↔
      rpm ∈ levelMeasured.entries.map Prod.snd) ∧
      ((RpmToPwm.ofMeasured levelMeasured).entries.Pairwise fun a b => a.2 < b.2) ∧
      (∀ e ∈ (RpmToPwm.ofMeasured levelMeasured).entries, e.2 ∈ levelMeasured.keys) ∧
      ((levelMeasured.entries.map Prod.snd).Pairwise (· < ·) →
        (RpmToPwm.ofMeasured levelMeasured).entries = levelMeasured.entries.map Prod.swap) ∧
      (levelMeasured.entries ≠ [] → (RpmToPwm.ofMeasured levelMeasured).entries ≠ []) :=
  of_measured_ascends levelMeasured fun pwm hpwm => by
    have hkeys : levelMeasured.keys = [0, 100, 200, 255] := by decide
    rw [hkeys] at hpwm
    fin_cases hpwm <;> decide

end Fancon
