import Fancon.Fan.CurveText
import Fancon.Lib.Nearest

/-! # The closest calibrated point

`find_closest_pwm` looks the requested RPM up among the keys of `rpm_to_pwm`, `pwm_to_rpm` a PWM
among its values. Both are to find the nearest entry.

The first does, but returns early for a request at or below the first key, before the rule that
gives a stopped fan its start PWM (`picks_nearest_iff`). The second never takes the first entry for
a PWM between the first two, and for a PWM below the first one it steps before the first entry
(`converts_pwm_iff`).
-/
set_option autoImplicit false
set_option maxHeartbeats 250000
set_option maxRecDepth 120000

namespace Fancon

open Nearest

/-! ## `find_closest_pwm` -/

/-- How far the key of an entry is from a request, and then the key itself. -/
def keyDist (rpm : Rpm) (e : Rpm × Pwm) : ℕ ×ₗ ℕ := toLex (Nat.dist e.1.val rpm.val, e.1.val)

/-- The PWM is that of the nearest key, the lower one on a tie, or the start PWM where that is
positive, below the start PWM, and the fan does not turn. So no stopped fan is commanded with a
positive PWM below its start PWM. -/
def PicksNearest (m : RpmToPwm) (startPwm : Pwm) (getRpm rpm : Rpm) : Prop :=
  ∃ e, IsNearest (keyDist rpm) m.entries e ∧
    findClosestPwm m startPwm getRpm rpm =
      some (if 0 < e.2 ∧ e.2 < startPwm ∧ getRpm = 0 then startPwm else e.2) ∧
    (getRpm = 0 → ∀ pwm ∈ findClosestPwm m startPwm getRpm rpm, 0 < pwm → startPwm ≤ pwm)

section
variable {m : RpmToPwm} {startPwm : Pwm} {getRpm rpm : Rpm}

theorem keyDist_le {a b : Rpm × Pwm} (hab : a.1 < b.1)
    (h : Nat.dist a.1.val rpm.val ≤ Nat.dist b.1.val rpm.val) : keyDist rpm a ≤ keyDist rpm b := by
  apply Prod.Lex.toLex_le_toLex.mpr
  rcases h.lt_or_eq with hlt | heq
  · exact Or.inl hlt
  · exact Or.inr ⟨heq, hab.le⟩

theorem keyDist_lt {a b : Rpm × Pwm}
    (h : Nat.dist a.1.val rpm.val < Nat.dist b.1.val rpm.val) : keyDist rpm a ≤ keyDist rpm b :=
  Prod.Lex.toLex_le_toLex.mpr (Or.inl h)

/-- Before the request the keys come nearer. -/
theorem keyDist_before (m : RpmToPwm) (rpm : Rpm) :
    (m.before rpm).Pairwise fun a b => keyDist rpm b ≤ keyDist rpm a := by
  refine (m.sorted.sublist (List.takeWhile_sublist _)).imp_of_mem fun {a b} _ hb hab => ?_
  have hlt : a.1.val < b.1.val := hab
  have hle : b.1.val < rpm.val := SortedMap.lt_of_mem_before hb
  exact keyDist_lt (by simp only [Nat.dist]; omega)

/-- From the request on they go away. -/
theorem keyDist_onward (m : RpmToPwm) (rpm : Rpm) :
    (m.onward rpm).Pairwise fun a b => keyDist rpm a ≤ keyDist rpm b := by
  refine (m.sorted.sublist (List.dropWhile_sublist _)).imp_of_mem fun {a b} ha _ hab => ?_
  have hlt : a.1.val < b.1.val := hab
  have hle : rpm.val ≤ a.1.val := SortedMap.le_of_mem_onward ha
  exact keyDist_le hab (by simp only [Nat.dist]; omega)

theorem isNearest_closer {le ge : Rpm × Pwm} {rest : List (Rpm × Pwm)}
    (hle : (m.before rpm).getLast? = some le) (hge : m.onward rpm = ge :: rest) :
    ∃ e, IsNearest (keyDist rpm) m.entries e ∧ e.2 = closerPwm rpm le ge := by
  have hbelow : le.1.val < rpm.val := SortedMap.lt_of_mem_before (List.mem_of_getLast? hle)
  have habove : rpm.val ≤ ge.1.val :=
    SortedMap.le_of_mem_onward (by rw [hge]; exact List.mem_cons_self)
  have hlast := isNearest_getLast (keyDist_before m rpm) hle
  have hhead := isNearest_cons (hge ▸ keyDist_onward m rpm)
  rw [← m.before_append_onward rpm, hge, closerPwm]
  split_ifs with hcloser
  · have hcloser' : (rpm - le.1 : Rpm).val ≤ (ge.1 - rpm : Rpm).val := hcloser
    have hdist : Nat.dist le.1.val rpm.val ≤ Nat.dist ge.1.val rpm.val := by
      simp only [Nat.dist]
      omega
    exact ⟨le, hlast.append_left hhead (keyDist_le (Fin.lt_def.mpr (by omega)) hdist), rfl⟩
  · have hcloser' : ¬ (rpm - le.1 : Rpm).val ≤ (ge.1 - rpm : Rpm).val := hcloser
    have hdist : Nat.dist ge.1.val rpm.val < Nat.dist le.1.val rpm.val := by
      simp only [Nat.dist]
      omega
    exact ⟨ge, hlast.append_right hhead (keyDist_lt hdist), rfl⟩

/-- Above the first key the nearest entry is found, and the fan is started. -/
theorem findClosestPwm_above (m : RpmToPwm) (startPwm : Pwm) (getRpm : Rpm)
    (habove : m.before rpm ≠ []) : ∃ e, IsNearest (keyDist rpm) m.entries e ∧
      findClosestPwm m startPwm getRpm rpm = some (startIfStopped startPwm getRpm e.2) := by
  have hlast := List.getLast?_eq_some_getLast habove
  generalize (m.before rpm).getLast habove = le at hlast
  cases hon : m.onward rpm with
  | nil =>
    have hentries := m.before_append_onward rpm
    rw [hon, List.append_nil] at hentries
    exact ⟨le, hentries ▸ isNearest_getLast (keyDist_before m rpm) hlast,
      by simp only [findClosestPwm, hon, hlast]⟩
  | cons ge rest =>
    obtain ⟨e, hnearest, he⟩ := isNearest_closer hlast hon
    exact ⟨e, hnearest, by simp only [findClosestPwm, hon, hlast, he]⟩

/-- At or below the first key the first entry is the nearest one, and its PWM is returned as it
is. -/
theorem findClosestPwm_below {first : Rpm × Pwm} {rest : List (Rpm × Pwm)}
    (hentries : m.entries = first :: rest) (hbelow : m.before rpm = []) (startPwm : Pwm)
    (getRpm : Rpm) : IsNearest (keyDist rpm) m.entries first ∧
      findClosestPwm m startPwm getRpm rpm = some first.2 := by
  have hon := m.before_append_onward rpm
  rw [hbelow, List.nil_append] at hon
  have hon' := hon.trans hentries
  have hrising := keyDist_onward m rpm
  rw [hon'] at hrising
  exact ⟨hentries ▸ isNearest_cons hrising, by simp [findClosestPwm, hon', hbelow]⟩

theorem before_eq_nil_iff {first : Rpm × Pwm} {rest : List (Rpm × Pwm)}
    (hentries : m.entries = first :: rest) : m.before rpm = [] ↔ rpm ≤ first.1 := by
  rw [SortedMap.before, hentries, List.takeWhile_cons]
  split_ifs with hlt
  · exact iff_of_false not_false (not_le.mpr (of_decide_eq_true hlt))
  · exact iff_of_true rfl (not_lt.mp fun h => hlt (decide_eq_true h))

theorem le_of_startIfStopped {pwm : Pwm} (hpos : 0 < startIfStopped startPwm 0 pwm) :
    startPwm ≤ startIfStopped startPwm 0 pwm := by
  unfold startIfStopped at hpos ⊢
  split_ifs at hpos ⊢ with h
  · exact le_rfl
  · exact not_lt.mp fun hlt => h ⟨hpos, hlt, rfl⟩

/-- **The nearest point is picked and a stopped fan started, exactly where the request is above the
first key or the first PWM needs no start.** -/
theorem picks_nearest_iff (m : RpmToPwm) (hne : m.entries ≠ []) (startPwm : Pwm)
    (getRpm rpm : Rpm) : PicksNearest m startPwm getRpm rpm ↔
      ∀ first ∈ m.entries.head?, rpm ≤ first.1 → 0 < first.2 → first.2 < startPwm →
        getRpm ≠ 0 := by
  obtain ⟨first, rest, hentries⟩ := List.exists_cons_of_ne_nil hne
  have hhead : ∀ e ∈ m.entries.head?, e = first := by simp [hentries]
  by_cases hbelow : m.before rpm = []
  · obtain ⟨hnearest, hpick⟩ := findClosestPwm_below hentries hbelow startPwm getRpm
    have hle := (before_eq_nil_iff hentries).mp hbelow
    constructor
    · rintro ⟨-, -, -, hstarts⟩ e he - hpos hlt hstopped
      obtain rfl := hhead e he
      exact (hstarts hstopped e.2 hpick hpos).not_gt hlt
    · intro h
      have hfirst := h first (by rw [hentries]; rfl) hle
      refine ⟨first, hnearest, ?_, fun hstopped pwm hpwm hpos => ?_⟩
      · rw [hpick, if_neg fun hstart => hfirst hstart.1 hstart.2.1 hstart.2.2]
      · obtain rfl := Option.some.inj (hpick.symm.trans hpwm)
        exact not_lt.mp fun hlt => hfirst hpos hlt hstopped
  · obtain ⟨e, hnearest, hpick⟩ := findClosestPwm_above m startPwm getRpm hbelow
    refine iff_of_true ⟨e, hnearest, hpick, ?_⟩ ?_
    · rintro rfl pwm hpwm hpos
      obtain rfl := Option.some.inj (hpick.symm.trans hpwm)
      exact le_of_startIfStopped hpos
    · intro e he hle
      obtain rfl := hhead e he
      exact absurd ((before_eq_nil_iff hentries).mpr hle) hbelow

end

/-- A fan that turns from PWM 40 on and starts at PWM 60. -/
def slowStart : RpmToPwm := .ofItems [(500, 40), (1000, 100)]

theorem picks_nearest_slow : PicksNearest slowStart 60 0 700 :=
  (picks_nearest_iff slowStart (by decide) 60 0 700).mpr fun first hfirst hle => by
    obtain rfl : (500, 40) = first := Option.some.inj hfirst
    exact absurd hle (by decide)

/-- While it is stopped a request for 300 RPM commands PWM 40. -/
theorem stopped_fan_not_started : ¬ ∀ (m : RpmToPwm) (startPwm : Pwm) (getRpm rpm : Rpm),
    m.entries ≠ [] → PicksNearest m startPwm getRpm rpm := by
  intro h
  obtain ⟨-, -, -, hstarts⟩ := h slowStart 60 0 300 (by decide)
  exact absurd (hstarts rfl 40 (by decide) (by decide)) (by decide)

/-! ## `pwm_to_rpm` -/

def valueDist (pwm : Pwm) (e : Rpm × Pwm) : ℕ := Nat.dist e.2.val pwm.val

/-- An entry nearest to the clamped PWM is found, and its key leads back to a PWM of the map while
the fan turns. -/
def ConvertsPwm (m : RpmToPwm) (pwm : Pwm) : Prop :=
  ∃ rpm, pwmToRpm m pwm = some rpm ∧
    (∃ e, IsNearest (valueDist (clampPwm pwm)) m.entries e ∧ e.1 = rpm) ∧
    ((∃ e ∈ m.entries, e.2 = pwm) → ∀ startPwm getRpm, getRpm ≠ 0 →
      findClosestPwm m startPwm getRpm rpm = some pwm)

/-- The PWM is not below the first one, and if it is strictly between the first two it is no nearer
to the first. -/
def PwmCovered (m : RpmToPwm) (pwm : Pwm) : Prop :=
  (∀ first ∈ m.entries.head?, first.2 ≤ clampPwm pwm) ∧
    ∀ first second rest, m.entries = first :: second :: rest → first.2 < clampPwm pwm →
      clampPwm pwm < second.2 →
      Nat.dist second.2.val (clampPwm pwm).val ≤ Nat.dist first.2.val (clampPwm pwm).val

section
variable {m : RpmToPwm} {pwm : Pwm} {begin : Rpm × Pwm}

/-- The entries that the loop passes. -/
def passed (m : RpmToPwm) (pwm : Pwm) : List (Rpm × Pwm) :=
  m.entries.takeWhile fun e => decide (e.2 < pwm)

/-- The entries from the one on at which the loop returns. -/
def ahead (m : RpmToPwm) (pwm : Pwm) : List (Rpm × Pwm) :=
  m.entries.dropWhile fun e => decide (e.2 < pwm)

theorem passed_append_ahead (m : RpmToPwm) (pwm : Pwm) :
    passed m pwm ++ ahead m pwm = m.entries := List.takeWhile_append_dropWhile

theorem lt_of_mem_passed {e : Rpm × Pwm} (h : e ∈ passed m pwm) : e.2 < pwm := by
  simpa using List.mem_takeWhile_imp h

theorem lt_of_passed_cons {e : Rpm × Pwm} {es : List (Rpm × Pwm)} (h : passed m pwm = e :: es) :
    e.2 < pwm :=
  lt_of_mem_passed (h ▸ List.mem_cons_self)

theorem pwmToRpmLoop_passes {es rest : List (Rpm × Pwm)} (hes : ∀ e ∈ es, e.2 < pwm)
    (last : Option (Rpm × Pwm)) : pwmToRpmLoop pwm begin last (es ++ rest) =
      pwmToRpmLoop pwm begin (es.getLast?.or last) rest := by
  induction es generalizing last with
  | nil => rfl
  | cons e es ih =>
    have hlt := hes e List.mem_cons_self
    rw [List.cons_append, pwmToRpmLoop, if_neg hlt.ne, if_neg hlt.not_gt,
      ih fun d hd => hes d (List.mem_cons_of_mem e hd)]
    cases es with
    | nil => rfl
    | cons d es =>
      rw [List.getLast?_cons_cons, List.getLast?_eq_some_getLast (List.cons_ne_nil d es)]
      rfl

theorem pwmToRpmLoop_eq (m : RpmToPwm) (pwm : Pwm) (begin : Rpm × Pwm) :
    pwmToRpmLoop pwm begin none m.entries =
      pwmToRpmLoop pwm begin (passed m pwm).getLast? (ahead m pwm) := by
  conv_lhs => rw [← passed_append_ahead m pwm]
  rw [pwmToRpmLoop_passes fun _ he => lt_of_mem_passed he, Option.or_none]

theorem le_head_ahead {it : Rpm × Pwm} {rest : List (Rpm × Pwm)} (h : ahead m pwm = it :: rest) :
    pwm ≤ it.2 := by
  have hhead := List.head?_dropWhile_not (fun e : Rpm × Pwm => decide (e.2 < pwm)) m.entries
  rw [show m.entries.dropWhile (fun e => decide (e.2 < pwm)) = it :: rest from h] at hhead
  simpa using hhead

theorem valueDist_passed (hmono : m.ValuesMonotone) (pwm : Pwm) :
    (passed m pwm).Pairwise fun a b => valueDist pwm b ≤ valueDist pwm a := by
  refine (hmono.sublist (List.takeWhile_sublist _)).imp_of_mem fun {a b} _ hb hab => ?_
  have hle : a.2.val ≤ b.2.val := hab
  have hlt : b.2.val < pwm.val := lt_of_mem_passed hb
  simp only [valueDist, Nat.dist]
  omega

theorem valueDist_ahead (hmono : m.ValuesMonotone) (pwm : Pwm) :
    (ahead m pwm).Pairwise fun a b => valueDist pwm a ≤ valueDist pwm b := by
  have hsub : (ahead m pwm).Pairwise fun a b => a.2 ≤ b.2 :=
    hmono.sublist (List.dropWhile_sublist _)
  cases hahead : ahead m pwm with
  | nil => exact List.Pairwise.nil
  | cons it rest =>
    have hit : pwm.val ≤ it.2.val := le_head_ahead hahead
    rw [hahead] at hsub
    refine hsub.imp_of_mem fun {a b} ha _ hab => ?_
    have hle : a.2.val ≤ b.2.val := hab
    have hfirst : it.2.val ≤ a.2.val := by
      rcases List.mem_cons.mp ha with rfl | ha
      · exact le_rfl
      · exact (List.pairwise_cons.mp hsub).1 a ha
    simp only [valueDist, Nat.dist]
    omega

theorem pwmToRpm_eq {first : Rpm × Pwm} {rest : List (Rpm × Pwm)}
    (hentries : m.entries = first :: rest) (pwm : Pwm) : pwmToRpm m pwm =
      pwmToRpmLoop (clampPwm pwm) first (passed m (clampPwm pwm)).getLast?
        (ahead m (clampPwm pwm)) := by
  rw [← pwmToRpmLoop_eq, pwmToRpm, hentries]
  rfl

/-- The loop stops at an entry with a greater PWM, after the last one that it has passed. -/
theorem nearest_of_stop (hmono : m.ValuesMonotone) {last it : Rpm × Pwm}
    {rest : List (Rpm × Pwm)} (hlast : (passed m pwm).getLast? = some last)
    (hahead : ahead m pwm = it :: rest) (hstop : pwm < it.2) :
    IsNearest (valueDist pwm) m.entries
      (if it.2 - pwm < pwm - last.2 then it else last) := by
  have hbelow : last.2.val < pwm.val := lt_of_mem_passed (List.mem_of_getLast? hlast)
  have habove : pwm.val < it.2.val := hstop
  have hnear := isNearest_getLast (valueDist_passed hmono pwm) hlast
  have hnear' := isNearest_cons (hahead ▸ valueDist_ahead hmono pwm)
  rw [← passed_append_ahead m pwm, hahead]
  split_ifs with hcloser
  · have hcloser' : (it.2 - pwm : Pwm).val < (pwm - last.2 : Pwm).val := hcloser
    exact hnear.append_right hnear' (by simp only [valueDist, Nat.dist]; omega)
  · have hcloser' : ¬ (it.2 - pwm : Pwm).val < (pwm - last.2 : Pwm).val := hcloser
    exact hnear.append_left hnear' (by simp only [valueDist, Nat.dist]; omega)

theorem valueDist_eq_zero {e : Rpm × Pwm} : valueDist pwm e = 0 ↔ e.2 = pwm := by
  rw [valueDist, Fin.ext_iff]
  simp only [Nat.dist]
  omega

theorem isNearest_of_hit {e : Rpm × Pwm} (he : e ∈ m.entries) (hhit : e.2 = pwm) :
    IsNearest (valueDist pwm) m.entries e :=
  ⟨he, fun _ _ => (valueDist_eq_zero.mpr hhit).le.trans (Nat.zero_le _)⟩

/-- No entry is strictly between the first two. -/
theorem not_hit_between (hmono : m.ValuesMonotone) {first second e : Rpm × Pwm}
    {rest : List (Rpm × Pwm)} (hentries : m.entries = first :: second :: rest)
    (he : e ∈ m.entries) (hlow : first.2 < e.2) : second.2 ≤ e.2 := by
  rw [SortedMap.ValuesMonotone, hentries] at hmono
  rw [hentries] at he
  rcases List.mem_cons.mp he with rfl | he
  · exact absurd hlow (lt_irrefl _)
  · rcases List.mem_cons.mp he with rfl | he
    · exact le_rfl
    · exact (List.pairwise_cons.mp (List.pairwise_cons.mp hmono).2).1 e he

/-- The nearest entry is found, where it is said to be. -/
def FindsNearest (m : RpmToPwm) (pwm : Pwm) : Prop :=
  PwmCovered m pwm ∧ ∃ e, IsNearest (valueDist (clampPwm pwm)) m.entries e ∧
    pwmToRpm m pwm = some e.1

section
variable {first it : Rpm × Pwm} {rest after : List (Rpm × Pwm)}

theorem eq_first (hentries : m.entries = first :: rest) {e : Rpm × Pwm}
    (he : e ∈ m.entries.head?) : first = e := by
  rw [hentries] at he
  exact Option.some.inj he

theorem covered_of_low (hentries : m.entries = first :: rest) (hlow : first.2 < clampPwm pwm)
    (h : ∀ second rest', m.entries = first :: second :: rest' → second.2 ≤ clampPwm pwm) :
    PwmCovered m pwm := by
  constructor
  · intro e he
    exact eq_first hentries he ▸ hlow.le
  · intro d second rest' hentries' _ habove
    obtain ⟨rfl, -⟩ := List.cons.inj (hentries.symm.trans hentries')
    exact absurd habove (h second rest' hentries').not_gt

theorem findsNearest_of_end (hmono : m.ValuesMonotone) (hentries : m.entries = first :: rest)
    (hahead : ahead m (clampPwm pwm) = []) : FindsNearest m pwm := by
  have hall := passed_append_ahead m (clampPwm pwm)
  rw [hahead, List.append_nil] at hall
  have hlow : ∀ e ∈ m.entries, e.2 < clampPwm pwm := fun e he => lt_of_mem_passed (hall ▸ he)
  refine ⟨covered_of_low hentries (hlow first (hentries ▸ List.mem_cons_self))
    fun second rest' hentries' => ?_, m.entries.getLast (hentries ▸ List.cons_ne_nil _ _), ?_, ?_⟩
  · have hmem : second ∈ m.entries := by
      rw [hentries']
      exact List.mem_cons_of_mem _ List.mem_cons_self
    exact (hlow second hmem).le
  · have hnearest := valueDist_passed hmono (clampPwm pwm)
    rw [hall] at hnearest
    exact isNearest_getLast hnearest (List.getLast?_eq_some_getLast _)
  · rw [pwmToRpm_eq hentries, hahead, hall, pwmToRpmLoop, List.getLast?_eq_some_getLast]
    rfl

theorem findsNearest_of_hit (hmono : m.ValuesMonotone) (hentries : m.entries = first :: rest)
    (hlow : first.2 < clampPwm pwm) (hahead : ahead m (clampPwm pwm) = it :: after)
    (hhit : it.2 = clampPwm pwm) : FindsNearest m pwm := by
  have hmem : it ∈ m.entries := by
    rw [← passed_append_ahead m (clampPwm pwm), hahead]
    exact List.mem_append_right _ List.mem_cons_self
  refine ⟨covered_of_low hentries hlow fun second rest' hentries' => ?_, it,
    isNearest_of_hit hmem hhit, ?_⟩
  · exact (not_hit_between hmono hentries' hmem (hlow.trans_eq hhit.symm)).trans_eq hhit
  · rw [pwmToRpm_eq hentries, hahead, pwmToRpmLoop, if_pos hhit]

/-- What the loop returns where it stops at a greater PWM. -/
theorem pwmToRpm_of_stop {last : Rpm × Pwm} (hentries : m.entries = first :: rest)
    (hlast : (passed m (clampPwm pwm)).getLast? = some last)
    (hahead : ahead m (clampPwm pwm) = it :: after) (hstop : clampPwm pwm < it.2) :
    pwmToRpm m pwm = some (if last = first ∨ it.2 - clampPwm pwm < clampPwm pwm - last.2 then it.1
      else last.1) := by
  rw [pwmToRpm_eq hentries, hlast, hahead, pwmToRpmLoop, if_neg hstop.ne', if_pos hstop,
    Option.map_some]

/-- With no entry passed the loop hits the first one or steps before it. -/
theorem pwmToRpm_of_none_passed (hentries : m.entries = first :: rest)
    (hpassed : passed m (clampPwm pwm) = []) :
    clampPwm pwm < first.2 ∧ pwmToRpm m pwm = none ∨ FindsNearest m pwm := by
  have hahead := (passed_append_ahead m (clampPwm pwm)).trans hentries
  rw [hpassed, List.nil_append] at hahead
  have hloop := pwmToRpm_eq hentries pwm
  rw [hpassed, hahead, List.getLast?_nil, pwmToRpmLoop] at hloop
  rcases (le_head_ahead hahead).lt_or_eq with hlt | hhit
  · rw [if_neg hlt.ne', if_pos hlt] at hloop
    exact Or.inl ⟨hlt, hloop⟩
  · rw [if_pos hhit.symm] at hloop
    refine Or.inr ⟨⟨fun e he => ?_, fun d second rest' hentries' hlow => ?_⟩, first,
      isNearest_of_hit (hentries ▸ List.mem_cons_self) hhit.symm, hloop⟩
    · exact eq_first hentries he ▸ hhit.ge
    · obtain ⟨rfl, -⟩ := List.cons.inj (hentries.symm.trans hentries')
      exact absurd hhit hlow.ne'

/-- With one entry passed the loop takes the next one, though the first may be nearer. -/
theorem pwmToRpm_of_one_passed (hmono : m.ValuesMonotone) (hentries : m.entries = first :: rest)
    (hpassed : passed m (clampPwm pwm) = [first]) :
    (∃ second after, ahead m (clampPwm pwm) = second :: after ∧ clampPwm pwm < second.2 ∧
      pwmToRpm m pwm = some second.1) ∨ FindsNearest m pwm := by
  have hlow := lt_of_passed_cons hpassed
  cases hahead : ahead m (clampPwm pwm) with
  | nil => exact Or.inr (findsNearest_of_end hmono hentries hahead)
  | cons second after =>
    rcases (le_head_ahead hahead).lt_or_eq with hstop | hhit
    · have hlast : (passed m (clampPwm pwm)).getLast? = some first := by rw [hpassed]; rfl
      have hloop := pwmToRpm_of_stop hentries hlast hahead hstop
      rw [if_pos (Or.inl rfl)] at hloop
      exact Or.inl ⟨second, after, rfl, hstop, hloop⟩
    · exact Or.inr (findsNearest_of_hit hmono hentries hlow hahead hhit.symm)

/-- With more entries passed the loop compares its neighbours. -/
theorem findsNearest_of_more_passed (hmono : m.ValuesMonotone) {e : Rpm × Pwm}
    {es : List (Rpm × Pwm)} (hentries : m.entries = first :: rest)
    (hpassed : passed m (clampPwm pwm) = first :: e :: es) : FindsNearest m pwm := by
  have hlow : ∀ d ∈ first :: e :: es, d.2 < clampPwm pwm := by
    rw [← hpassed]
    exact fun d hd => lt_of_mem_passed hd
  have hlow0 := hlow first List.mem_cons_self
  cases hahead : ahead m (clampPwm pwm) with
  | nil => exact findsNearest_of_end hmono hentries hahead
  | cons it after =>
    rcases (le_head_ahead hahead).lt_or_eq with hstop | hhit
    · have hlast := List.getLast?_eq_some_getLast (List.cons_ne_nil e es)
      generalize (e :: es).getLast _ = last at hlast
      have hlast' : (passed m (clampPwm pwm)).getLast? = some last := by
        rw [hpassed, List.getLast?_cons_cons, hlast]
      have hne : last ≠ first := by
        have hsorted : (passed m (clampPwm pwm)).Pairwise fun a b => a.1 < b.1 :=
          m.sorted.sublist (List.takeWhile_sublist _)
        rw [hpassed] at hsorted
        rintro rfl
        exact absurd ((List.pairwise_cons.mp hsorted).1 last (List.mem_of_getLast? hlast))
          (lt_irrefl _)
      refine ⟨covered_of_low hentries hlow0 fun second rest' hentries' => ?_, _,
        nearest_of_stop hmono hlast' hahead hstop, ?_⟩
      · have hsplit := (passed_append_ahead m (clampPwm pwm)).trans hentries'
        rw [hpassed] at hsplit
        obtain ⟨rfl, -⟩ := List.cons.inj (List.cons.inj hsplit).2
        exact (hlow e (List.mem_cons_of_mem _ List.mem_cons_self)).le
      · rw [pwmToRpm_of_stop hentries hlast' hahead hstop]
        simp only [hne, false_or]
        split_ifs <;> rfl
    · exact findsNearest_of_hit hmono hentries hlow0 hahead hhit.symm

end

/-- The key of an entry leads back to its PWM. -/
theorem findClosestPwm_key {e : Rpm × Pwm} (he : e ∈ m.entries) (startPwm : Pwm) {getRpm : Rpm}
    (hturns : getRpm ≠ 0) : findClosestPwm m startPwm getRpm e.1 = some e.2 := by
  have hhit : ∀ d, IsNearest (keyDist e.1) m.entries d → d = e := by
    intro d hd
    have hle := Prod.Lex.toLex_le_toLex.mp (hd.2 e he)
    refine m.key_inj hd.1 he (Fin.ext ?_)
    simp only [Nat.dist] at hle
    omega
  by_cases hbelow : m.before e.1 = []
  · obtain ⟨first, rest, hentries⟩ := List.exists_cons_of_ne_nil (List.ne_nil_of_mem he)
    obtain ⟨hnearest, hpick⟩ := findClosestPwm_below hentries hbelow startPwm getRpm
    rw [hpick, hhit first hnearest]
  · obtain ⟨d, hnearest, hpick⟩ := findClosestPwm_above m startPwm getRpm hbelow
    rw [hpick, hhit d hnearest, startIfStopped, if_neg fun h => hturns h.2.2]

/-- What is found for a PWM of the map leads back to it. -/
theorem FindsNearest.converts (h : FindsNearest m pwm) (hrange : ∀ e ∈ m.entries, e.2 ≤ PWM_MAX) :
    ConvertsPwm m pwm := by
  obtain ⟨-, e, hnearest, hfound⟩ := h
  refine ⟨e.1, hfound, ⟨e, hnearest, rfl⟩, ?_⟩
  rintro ⟨d, hd, rfl⟩ startPwm getRpm hturns
  rw [clampPwm_of_le (hrange d hd)] at hnearest
  have hhit : e.2 = d.2 := valueDist_eq_zero.mp
    (Nat.le_zero.mp ((hnearest.2 d hd).trans_eq (valueDist_eq_zero.mpr rfl)))
  rw [findClosestPwm_key hnearest.1 startPwm hturns, hhit]

/-- The loop takes the second entry where that is no farther than the first. -/
theorem converts_second_iff (hmono : m.ValuesMonotone) (hrange : ∀ e ∈ m.entries, e.2 ≤ PWM_MAX)
    {first second : Rpm × Pwm} {after : List (Rpm × Pwm)}
    (hpassed : passed m (clampPwm pwm) = [first])
    (hahead : ahead m (clampPwm pwm) = second :: after) (habove : clampPwm pwm < second.2)
    (hfound : pwmToRpm m pwm = some second.1) : ConvertsPwm m pwm ↔ PwmCovered m pwm := by
  have hentries := (passed_append_ahead m (clampPwm pwm)).symm
  rw [hpassed, hahead] at hentries
  have hlow := lt_of_passed_cons hpassed
  have hsecond : second ∈ m.entries := by
    rw [hentries]
    exact List.mem_cons_of_mem _ List.mem_cons_self
  constructor
  · rintro ⟨rpm, hfound', ⟨e, hnearest, rfl⟩, -⟩
    obtain rfl := m.key_inj hnearest.1 hsecond (Option.some.inj (hfound'.symm.trans hfound))
    refine ⟨fun d hd => eq_first hentries hd ▸ hlow.le, fun d second' rest hentries' _ _ => ?_⟩
    obtain ⟨rfl, hrest⟩ := List.cons.inj (hentries.symm.trans hentries')
    obtain ⟨rfl, -⟩ := List.cons.inj hrest
    exact hnearest.2 first (hentries ▸ List.mem_cons_self)
  · intro hcovered
    have hcloser := hcovered.2 first second after hentries hlow habove
    have hnearest := (isNearest_cons (List.pairwise_singleton _ first)).append_right
      (isNearest_cons (hahead ▸ valueDist_ahead hmono (clampPwm pwm))) hcloser
    have hfinds : FindsNearest m pwm := ⟨hcovered, second, hentries ▸ hnearest, hfound⟩
    exact hfinds.converts hrange

/-- **The entry with the nearest PWM is found exactly where the PWM is not below the first one and
not nearer to the first than to the second.** -/
theorem converts_pwm_iff (m : RpmToPwm) (hne : m.entries ≠ []) (hmono : m.ValuesMonotone)
    (hrange : ∀ e ∈ m.entries, e.2 ≤ PWM_MAX) (pwm : Pwm) :
    ConvertsPwm m pwm ↔ PwmCovered m pwm := by
  obtain ⟨first, rest, hentries⟩ := List.exists_cons_of_ne_nil hne
  have hfinds : FindsNearest m pwm → (ConvertsPwm m pwm ↔ PwmCovered m pwm) := fun h =>
    iff_of_true (h.converts hrange) h.1
  cases hpassed : passed m (clampPwm pwm) with
  | nil =>
    rcases pwmToRpm_of_none_passed hentries hpassed with ⟨hbefore, hnone⟩ | h
    · refine iff_of_false ?_ fun hcovered => ?_
      · rintro ⟨rpm, hfound, -⟩
        cases hnone.symm.trans hfound
      · exact (hcovered.1 first (by rw [hentries]; rfl)).not_gt hbefore
    · exact hfinds h
  | cons d passed' =>
    have hsplit := (passed_append_ahead m (clampPwm pwm)).trans hentries
    rw [hpassed] at hsplit
    obtain ⟨rfl, -⟩ := List.cons.inj hsplit
    cases passed' with
    | cons e es => exact hfinds (findsNearest_of_more_passed hmono hentries hpassed)
    | nil =>
      rcases pwmToRpm_of_one_passed hmono hentries hpassed with
        ⟨second, after, hahead, habove, hfound⟩ | h
      · exact converts_second_iff hmono hrange hpassed hahead habove hfound
      · exact hfinds h

end

theorem slowStart_monotone : slowStart.ValuesMonotone := by
  unfold SortedMap.ValuesMonotone
  decide

theorem slowStart_entries : slowStart.entries = [(500, 40), (1000, 100)] := by decide

theorem slowStart_range : ∀ e ∈ slowStart.entries, e.2 ≤ PWM_MAX := by
  intro e he
  rw [slowStart_entries] at he
  fin_cases he <;> decide

theorem converts_pwm_hit : ConvertsPwm slowStart 100 :=
  (converts_pwm_iff slowStart (by decide) slowStart_monotone slowStart_range 100).mpr <| by
    constructor
    · intro first hfirst
      obtain rfl : (500, 40) = first := Option.some.inj hfirst
      decide
    · intro first second rest hentries _ habove
      obtain ⟨-, hrest⟩ := List.cons.inj (slowStart_entries.symm.trans hentries)
      obtain ⟨rfl, -⟩ := List.cons.inj hrest
      exact absurd habove (by decide)

/-- PWM 50 gives 1000 RPM, the key of PWM 100, although PWM 40 is nearer. -/
theorem second_entry_taken : ¬ ∀ (m : RpmToPwm) (pwm : Pwm), m.entries ≠ [] →
    m.ValuesMonotone → (∀ e ∈ m.entries, e.2 ≤ PWM_MAX) → ConvertsPwm m pwm := by
  intro h
  obtain ⟨rpm, hfound, ⟨e, hnearest, rfl⟩, -⟩ :=
    h slowStart 50 (by decide) slowStart_monotone slowStart_range
  have hsecond : pwmToRpm slowStart 50 = some 1000 := by decide
  have hkey : e.1 = 1000 := Option.some.inj (hfound.symm.trans hsecond)
  have hmem : ((1000, 100) : Rpm × Pwm) ∈ slowStart.entries := by decide
  obtain rfl := slowStart.key_inj hnearest.1 hmem hkey
  exact absurd (hnearest.2 (500, 40) (by decide)) (by decide)

end Fancon
