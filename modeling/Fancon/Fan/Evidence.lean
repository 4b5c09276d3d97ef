import Fancon.Fan.StartTest

/-! # What a calibration rests on

A successful test sorts the speeds it measured and the PWMs it measured them at and pairs them. Each
point that it measured was reported by the device during that test (`calibration_observed`): when
the fan was to stop, by the last attempt of `test_start`, above the start PWM, or on the way down
from it while the fan still ran, with two later PWMs at which it ran as well. Without a speed from
`test_start` an empty `optional` is dereferenced, and on the way down the counter may pass 0.
-/
set_option autoImplicit false
set_option maxHeartbeats 250000
set_option maxRecDepth 120000

namespace Fancon

namespace Calibrator

variable {σ : Type} (C : Calibrator σ)

/-! ## What a test sees -/

/-- What `set_stabilised_pwm` returns at one PWM after the other. -/
def tried : List Pwm → σ → List (Pwm × Option Rpm)
  | [], _ => []
  | pwm :: pwms, s => (pwm, (C.stabilise pwm s).1) :: tried pwms (C.stabilise pwm s).2

def afterTrying (pwms : List Pwm) (s : σ) : σ := pwms.foldl (fun s pwm => (C.stabilise pwm s).2) s

/-- The fan when a test has taken control of it. -/
def controlled (s : σ) : σ := (C.takeControl (C.getPwm s).2).2

/-- The speed and the fan when it was to stop. -/
def whenStopped (s : σ) : Rpm × σ := C.getRpm (C.stabilise PWM_MIN (C.controlled s)).2

/-- The fan when `test_start` begins. -/
def beforeStart (s : σ) : σ := (C.getPwm (C.whenStopped s).2).2

end Calibrator

/-- What a test has seen: the point it read when the fan was to stop, and what the attempts of the
other phases reported at the PWMs they tried. -/
structure Seen where
  stopped : Pwm × Rpm
  started : List (Pwm × Option Rpm)
  lowered : List (Pwm × Option Rpm)
  mapped : List (Pwm × Option Rpm)

namespace Calibrator

variable {σ : Type} (C : Calibrator σ)

/-- What a test of the fan sees if its phases try these PWMs. -/
def seen (s : σ) (starts lowers maps : List Pwm) : Seen :=
  let s₁ := (C.getPwm (C.afterTrying starts (C.beforeStart s))).2
  let s₂ := C.afterTrying lowers s₁
  ⟨((C.getPwm (C.whenStopped s).2).1, (C.whenStopped s).1), C.tried starts (C.beforeStart s),
    C.tried lowers s₁, C.tried maps s₂⟩

/-- `start_pwm`, if `test_start` tries these PWMs. -/
def startPwmAfter (s : σ) (starts : List Pwm) : Pwm :=
  (C.getPwm (C.afterTrying starts (C.beforeStart s))).1

/-- Some attempt of `test_start` reports an RPM above 0, or the last one reports anything. -/
def StartSeen (s : σ) : Prop :=
  ReportsRpm (C.attempts (C.beforeStart s)) ∨
    (C.attempts (C.beforeStart s)).getLast? ≠ some none

end Calibrator

/-! ## Evidence -/

/-- Where a measured point comes from. -/
inductive Seen.Evidence (t : Seen) (startPwm : Pwm) : Pwm → Rpm → Prop
  | stopped : Evidence t startPwm t.stopped.1 t.stopped.2
  /-- The last attempt of `test_start`, recorded under the PWM read afterwards. -/
  | started {pwm : Pwm} {rpm : Rpm} : t.started.getLast? = some (pwm, some rpm) →
      Evidence t startPwm startPwm rpm
  /-- A speed on the way down, and two of later attempts: the fan still ran. -/
  | lowered {pwm pwm' pwm'' : Pwm} {rpm rpm' rpm'' : Rpm} : 0 < rpm → 0 < rpm' → 0 < rpm'' →
      [(pwm, some rpm), (pwm', some rpm'), (pwm'', some rpm'')].Sublist t.lowered →
      Evidence t startPwm pwm rpm
  | mapped {pwm : Pwm} {rpm : Rpm} : (pwm, some rpm) ∈ t.mapped → Evidence t startPwm pwm rpm

def Seen.Evidenced (t : Seen) (startPwm : Pwm) (pwmToRpm : PwmToRpm) : Prop :=
  ∀ pwm rpm, pwmToRpm.find? pwm = some rpm → t.Evidence startPwm pwm rpm

/-- So many PWMs from one downwards, in steps of 2. -/
def downFrom : Pwm → ℕ → List Pwm
  | _, 0 => []
  | pwm, n + 1 => pwm :: downFrom (pwm - 2) n

/-- Where the phases of a test go: `test_running_min` down from the start PWM, and lower with each
attempt until it passes 0; `test_mapping` above the start PWM, if there is room, up to 255. -/
structure Tries (startPwm : Pwm) (lowers maps : List Pwm) : Prop where
  down : lowers = downFrom startPwm lowers.length
  lower : lowers.length ≤ startPwm.val / 2 + 1 → lowers.Pairwise (· > ·)
  up : ∀ pwm ∈ maps, pwm ≤ PWM_MAX ∧
    (startPwm.val + 2 < 4294967296 → startPwm < pwm ∨ pwm = PWM_MAX)

variable {σ : Type} {C : Calibrator σ} {t : Seen} {start pwm : Pwm} {rpm : Rpm}
  {pwmToRpm : PwmToRpm}

theorem Seen.Evidenced.insert (h : t.Evidenced start pwmToRpm)
    (hpoint : t.Evidence start pwm rpm) : t.Evidenced start (pwmToRpm.insert pwm rpm) := by
  intro p r hr
  rw [SortedMap.find?_insert] at hr
  split_ifs at hr with hp
  · obtain rfl := Option.some.inj hr
    exact hp ▸ hpoint
  · exact h p r hr

theorem Seen.Evidenced.foldl_insert {items : List (Pwm × Rpm)} (h : t.Evidenced start pwmToRpm)
    (hitems : ∀ e ∈ items, t.Evidence start e.1 e.2) :
    t.Evidenced start (items.foldl (fun m e => m.insert e.1 e.2) pwmToRpm) := by
  induction items generalizing pwmToRpm with
  | nil => exact h
  | cons e items ih =>
    obtain ⟨he, hitems⟩ := List.forall_mem_cons.mp hitems
    exact ih (h.insert he) hitems

/-! ## Going down -/

theorem downFrom_lower {n : ℕ} (h : 2 * n ≤ pwm.val + 2) : ∀ p ∈ downFrom pwm n, p ≤ pwm := by
  induction n generalizing pwm with
  | zero => exact nofun
  | succ n ih =>
    intro p hp
    rcases List.mem_cons.mp hp with rfl | hp
    · exact le_refl p
    · by_cases htwo : 2 ≤ pwm
      · have hval := val_sub_two htwo
        have hle : 2 ≤ pwm.val := htwo
        have hp := ih (by omega) p hp
        have hp' : p.val ≤ (pwm - 2).val := hp
        exact Fin.le_def.mpr (by omega)
      · have hlt : pwm.val < 2 := not_le.mp htwo
        obtain rfl : n = 0 := by omega
        cases hp

theorem downFrom_pairwise {n : ℕ} (h : n ≤ pwm.val / 2 + 1) :
    (downFrom pwm n).Pairwise (· > ·) := by
  induction n generalizing pwm with
  | zero => exact .nil
  | succ n ih =>
    by_cases htwo : 2 ≤ pwm
    · have hval := val_sub_two htwo
      have hle : 2 ≤ pwm.val := htwo
      refine List.pairwise_cons.mpr ⟨fun p hp => ?_, ih (by omega)⟩
      have hp' : p.val ≤ (pwm - 2).val := downFrom_lower (by omega) p hp
      exact Fin.lt_def.mpr (by omega)
    · have hlt : pwm.val < 2 := not_le.mp htwo
      obtain rfl : n = 0 := by omega
      exact List.pairwise_singleton _ _

namespace Calibrator

/-! ## `test_start` -/

section

variable {s : σ} {turns : ℕ}

/-- The loop leaves what its last attempt reported. -/
theorem startLoop_tried {cur : Option Rpm} {target : Pwm} {r : Option Rpm × σ}
    (h : (C.startLoop turns cur target s).result = some r) :
    r.2 = C.afterTrying (C.startLoop turns cur target s).commands s ∧
      r.1 = (((C.tried (C.startLoop turns cur target s).commands s).getLast?.map Prod.snd).getD
        cur) := by
  induction turns generalizing cur target s with
  | zero => cases h
  | succ turns ih =>
    rw [startLoop] at h ⊢
    split_ifs at h ⊢ with hloop
    · obtain ⟨hleft, hlast⟩ := ih h
      refine ⟨hleft, hlast.trans ?_⟩
      simp only [Phase.command, tried, List.getLast?_cons]
      cases (C.tried (C.startLoop turns (C.stabilise target s).1 (target + 2)
        (C.stabilise target s).2).commands (C.stabilise target s).2).getLast? <;> rfl
    · obtain rfl := Option.some.inj h
      exact ⟨rfl, rfl⟩

/-- If some attempt counts, so does the last one. -/
theorem startLoop_seen (hseen : C.StartSeen s) {r : Option Rpm × σ}
    (h : (C.startLoop turns (some 0) PWM_MIN (C.beforeStart s)).result = some r) :
    ∃ rpm, r.1 = some rpm := by
  have hsettled := C.startLoop_attempts (C.beforeStart s)
  have hends : (C.startLoop 129 (some 0) PWM_MIN (C.beforeStart s)).result.isSome = true :=
    Option.isSome_map.symm.trans (congrArg Option.isSome hsettled)
  rw [← C.startLoop_unique turns 129 _ _ _ (by rw [h]; rfl) hends, h] at hsettled
  have hr : r.1 = settle (some 0) (C.attempts (C.beforeStart s)) := Option.some.inj hsettled
  obtain ⟨last, hlast⟩ := C.getLast?_outcomes 127 PWM_MIN (C.beforeStart s)
  by_cases hreports : ReportsRpm (C.attempts (C.beforeStart s))
  · obtain ⟨rpm, hrpm, -⟩ := settle_of_reportsRpm hreports (some 0)
    exact ⟨rpm, hr.trans hrpm⟩
  · rw [settle_of_not_reportsRpm hreports, attempts, hlast] at hr
    have hsome := hseen.resolve_left hreports
    rw [attempts, hlast] at hsome
    obtain ⟨rpm, hrpm⟩ := Option.ne_none_iff_exists'.mp fun hnone => hsome (congrArg some hnone)
    exact ⟨rpm, hr.trans hrpm⟩

/-! ## `test_running_min` -/

/-- The results are the attempts at which the fan ran. -/
theorem runningMinLoop_tried {target : Pwm} {results : List (Pwm × Rpm)}
    {r : List (Pwm × Rpm) × σ} (h : (C.runningMinLoop turns target results s).result = some r) :
    let tries := (C.runningMinLoop turns target results s).commands
    r.2 = C.afterTrying tries s ∧ tries = downFrom target tries.length ∧
      ∃ more, r.1 = results ++ more ∧ (∀ e ∈ more, 0 < e.2) ∧
        (more.map fun e => (e.1, some e.2)).Sublist (C.tried tries s) := by
  induction turns generalizing target results s with
  | zero => cases h
  | succ turns ih =>
    have hmin : PWM_MIN ≤ target := Fin.zero_le target
    rw [runningMinLoop, if_pos hmin] at h ⊢
    cases hrpm : (C.stabilise target s).1 with
    | none =>
      simp only [hrpm] at h ⊢
      obtain ⟨hleft, hdown, more, hmore, hpos, hsub⟩ := ih h
      exact ⟨hleft, congrArg (target :: ·) hdown, more, hmore, hpos, hsub.cons _⟩
    | some rpm =>
      simp only [hrpm] at h ⊢
      split_ifs at h ⊢ with hstopped
      · obtain rfl := Option.some.inj h
        exact ⟨rfl, rfl, [], (List.append_nil _).symm, fun _ he => absurd he List.not_mem_nil,
          List.nil_sublist _⟩
      · obtain ⟨hleft, hdown, more, hmore, hpos, hsub⟩ := ih h
        refine ⟨hleft, congrArg (target :: ·) hdown, (target, rpm) :: more, ?_, ?_, ?_⟩
        · rw [hmore, List.append_assoc]
          rfl
        · exact List.forall_mem_cons.mpr ⟨not_le.mp hstopped, hpos⟩
        · show ((target, some rpm) :: _).Sublist ((target, (C.stabilise target s).1) :: _)
          rw [hrpm]
          exact hsub.cons_cons _

end

/-- Behind a result that is saved there are two others. -/
theorem two_behind {α : Type} {results : List α} {e : α}
    (he : e ∈ results.take (results.length - 2)) : ∃ a b, [e, a, b].Sublist results := by
  have hlength : (results.drop (results.length - 2)).length = 2 := by
    have hpos := List.length_pos_of_mem he
    rw [List.length_take] at hpos
    rw [List.length_drop]
    omega
  obtain ⟨a, b, hab⟩ := List.length_eq_two.mp hlength
  refine ⟨a, b, ?_⟩
  rw [← List.take_append_drop (results.length - 2) results, hab]
  exact (List.singleton_sublist.mpr he).append (List.Sublist.refl [a, b])

theorem evidence_lowered {results : List (Pwm × Rpm)} (hpos : ∀ e ∈ results, 0 < e.2)
    (hsub : (results.map fun e => (e.1, some e.2)).Sublist t.lowered) {e : Pwm × Rpm}
    (he : e ∈ results.take (results.length - 2)) : t.Evidence start e.1 e.2 := by
  obtain ⟨a, b, hthree⟩ := two_behind he
  have hmem := fun x hx => hpos x (hthree.subset hx)
  have hmapped := (hthree.map fun e : Pwm × Rpm => (e.1, some e.2)).trans hsub
  exact .lowered (hmem e (by simp)) (hmem a (by simp)) (hmem b (by simp)) hmapped

/-! ## `test_mapping` -/

/-- The loop goes up from its target; a point it leaves is one it was given or has measured. -/
theorem mappingLoop_tried {turns : ℕ} {target : Pwm} {s : σ} {r : PwmToRpm × σ}
    (h : (C.mappingLoop turns target pwmToRpm s).result = some r) :
    let tries := (C.mappingLoop turns target pwmToRpm s).commands
    (∀ pwm ∈ tries, target ≤ pwm ∧ pwm ≤ PWM_MAX) ∧
      (∀ pwm rpm, r.1.find? pwm = some rpm →
        pwmToRpm.find? pwm = some rpm ∨ (pwm, some rpm) ∈ C.tried tries s) ∧
      ∀ pwm, pwmToRpm.contains pwm = true → r.1.contains pwm = true := by
  induction turns generalizing target pwmToRpm s with
  | zero => cases h
  | succ turns ih =>
    by_cases hle : target ≤ PWM_MAX
    · rw [mappingLoop, if_pos hle] at h ⊢
      obtain ⟨hup, hfrom, hkept⟩ := ih h
      have hnext : target.val < (target + if target < PWM_MAX - 1 then 2 else 1 : Pwm).val := by
        split_ifs
        · rw [val_add_two hle]
          omega
        · rw [val_add_one hle]
          omega
      refine ⟨fun pwm hpwm => ?_, fun pwm rpm hr => ?_, fun pwm hpwm => hkept pwm ?_⟩
      · rcases List.mem_cons.mp hpwm with rfl | hpwm
        · exact ⟨le_refl _, hle⟩
        · obtain ⟨hmore, hmax⟩ := hup pwm hpwm
          exact ⟨(Fin.lt_def.mpr hnext).le.trans hmore, hmax⟩
      · rcases hfrom pwm rpm hr with hgiven | htried
        · cases hrpm : (C.stabilise target s).1 with
          | none =>
            rw [hrpm] at hgiven
            exact Or.inl hgiven
          | some speed =>
            rw [hrpm, SortedMap.find?_insert] at hgiven
            split_ifs at hgiven with hpwm
            · rw [hpwm, ← hgiven, ← hrpm]
              exact Or.inr List.mem_cons_self
            · exact Or.inl hgiven
        · exact Or.inr (List.mem_cons_of_mem _ htried)
      · cases (C.stabilise target s).1 with
        | none => exact hpwm
        | some speed =>
          rw [SortedMap.contains_iff] at hpwm ⊢
          exact SortedMap.mem_keys_insert.mpr (Or.inr hpwm)
    · rw [mappingLoop, if_neg hle] at h ⊢
      obtain rfl := Option.some.inj h
      exact ⟨nofun, fun _ _ hr => Or.inl hr, fun _ hpwm => hpwm⟩

/-- From the first PWM of `test_mapping` on all are above the start PWM or 255, if the addition
stays in range. -/
theorem first_mapped (hstart : start.val + 2 < 4294967296)
    (hpwm : min (start + if start % 2 ≠ 0 then 1 else 2) PWM_MAX ≤ pwm) (hmax : pwm ≤ PWM_MAX) :
    start < pwm ∨ pwm = PWM_MAX := by
  have hmore : start < start + if start % 2 ≠ 0 then 1 else 2 := by
    rw [Fin.lt_def, Fin.val_add]
    split_ifs
    · show start.val < (start.val + 1) % 4294967296
      omega
    · show start.val < (start.val + 2) % 4294967296
      omega
  rcases min_choice (start + if start % 2 ≠ 0 then 1 else 2) PWM_MAX with hmin | hmin
  · rw [hmin] at hpwm
    exact Or.inl (hmore.trans_le hpwm)
  · rw [hmin] at hpwm
    exact Or.inr (le_antisymm hmax hpwm)

/-! ## `test` -/

/-- `test_start` records what its last attempt reported. -/
theorem testStart_tried {turns : ℕ} {s : σ} {r : Pwm × PwmToRpm × σ} (hseen : C.StartSeen s)
    (h : (C.testStart turns pwmToRpm (C.beforeStart s)).result = some r) :
    let starts := (C.testStart turns pwmToRpm (C.beforeStart s)).commands
    r.1 = C.startPwmAfter s starts ∧
      r.2.2 = (C.getPwm (C.afterTrying starts (C.beforeStart s))).2 ∧
      ∃ pwm rpm, (C.tried starts (C.beforeStart s)).getLast? = some (pwm, some rpm) ∧
        r.2.1 = pwmToRpm.insert r.1 rpm := by
  obtain ⟨⟨cur, t⟩, hloop, rfl⟩ := Option.map_eq_some_iff.mp h
  obtain ⟨rpm, hrpm⟩ := startLoop_seen hseen hloop
  obtain ⟨hleft, hlast⟩ := startLoop_tried hloop
  obtain rfl : cur = some rpm := hrpm
  obtain rfl : t = _ := hleft
  have hsome : ∃ e, (C.tried (C.startLoop turns (some 0) PWM_MIN (C.beforeStart s)).commands
      (C.beforeStart s)).getLast? = some e := by
    cases turns with
    | zero => cases hloop
    | succ turns =>
      have hfirst : ((some 0 : Option Rpm) = none ∨ (some 0 : Option Rpm) = some 0) ∧
          PWM_MIN ≤ PWM_MAX := ⟨Or.inr rfl, by decide⟩
      rw [startLoop, if_pos hfirst]
      exact ⟨_, List.getLast?_eq_some_getLast (List.cons_ne_nil _ _)⟩
  obtain ⟨⟨pwm, outcome⟩, he⟩ := hsome
  rw [he] at hlast
  obtain rfl : some rpm = outcome := hlast
  exact ⟨rfl, rfl, pwm, rpm, he, rfl⟩

theorem testRunningMin_tried {turns : ℕ} {s : σ} {r : PwmToRpm × σ}
    (hmap : t.Evidenced start pwmToRpm)
    (h : (C.testRunningMin turns start pwmToRpm s).result = some r)
    (hseen : t.lowered = C.tried (C.testRunningMin turns start pwmToRpm s).commands s) :
    let lowers := (C.testRunningMin turns start pwmToRpm s).commands
    r.2 = C.afterTrying lowers s ∧ lowers = downFrom start lowers.length ∧
      t.Evidenced start r.1 ∧
      ∀ pwm, pwmToRpm.contains pwm = true → r.1.contains pwm = true := by
  obtain ⟨⟨results, u⟩, hloop, rfl⟩ := Option.map_eq_some_iff.mp h
  obtain ⟨hleft, hdown, more, hmore, hpos, hsub⟩ := runningMinLoop_tried hloop
  obtain rfl : results = more := hmore
  refine ⟨hleft, hdown, ?_, fun pwm hpwm => ?_⟩
  · exact hmap.foldl_insert fun e he => evidence_lowered hpos (hseen ▸ hsub) he
  · rw [SortedMap.contains_iff] at hpwm ⊢
    exact (SortedMap.mem_keys_foldl_insert ..).mpr (Or.inl hpwm)

theorem phases_andThen {α β : Type} {p : Phase α} {a : α} (h : p.result = some a)
    (next : α → Calibration β) : (p.andThen next).phases = p.commands :: (next a).phases := by
  rw [Phase.andThen, h]

theorem ofMeasured_evidence {measured : PwmToRpm} (h : t.Evidenced start measured) :
    ∀ e ∈ (RpmToPwm.ofMeasured measured).entries, (∃ pwm, t.Evidence start pwm e.1) ∧
      ∃ pwm rpm, t.Evidence start pwm rpm ∧ e.2 = clampPwm pwm := by
  intro e he
  have hitem := List.of_mem_zip (SortedMap.mem_of_mem_ofItems he)
  refine ⟨?_, ?_⟩
  · obtain ⟨p, hp, hrpm⟩ := List.mem_map.mp (List.mem_mergeSort.mp hitem.1)
    exact ⟨p.1, hrpm ▸ h p.1 p.2 (SortedMap.find?_eq_some.mpr hp)⟩
  · obtain ⟨pwm, hpwm, hclamp⟩ := List.mem_map.mp hitem.2
    obtain ⟨p, hp, rfl⟩ := List.mem_map.mp hpwm
    exact ⟨p.1, p.2, h p.1 p.2 (SortedMap.find?_eq_some.mpr hp), hclamp.symm⟩

/-- **Each point that a successful test has measured, and so each speed and each PWM of the fan's
map, was reported by the device during that test; one on the way down from the start PWM is saved
only if the fan was seen to run at two of the later attempts.** -/
theorem calibration_observed (C : Calibrator σ) (turns : ℕ) (startPwm : Pwm) (rpmToPwm : RpmToPwm)
    (s : σ) (o : TestOutcome σ) (hseen : C.StartSeen s)
    (h : (C.test turns startPwm rpmToPwm s).result = some o) (hok : o.success = true) :
    ∃ starts lowers maps measured,
      (C.test turns startPwm rpmToPwm s).phases = [[PWM_MIN], starts, lowers, maps] ∧
      o.startPwm = C.startPwmAfter s starts ∧ Tries o.startPwm lowers maps ∧
      o.rpmToPwm = .ofMeasured measured ∧ measured.contains o.startPwm = true ∧
      (C.seen s starts lowers maps).Evidenced o.startPwm measured ∧
      ∀ e ∈ o.rpmToPwm.entries,
        (∃ pwm, (C.seen s starts lowers maps).Evidence o.startPwm pwm e.1) ∧
        ∃ pwm rpm, (C.seen s starts lowers maps).Evidence o.startPwm pwm rpm ∧
          e.2 = clampPwm pwm := by
  cases htaken : (C.takeControl (C.getPwm s).2).1 with
  | false =>
    simp only [test, htaken, Bool.not_false, if_true] at h
    obtain rfl := Option.some.inj h
    cases hok
  | true =>
    rw [C.test_of_taken htaken] at h ⊢
    have hstopped : (C.testStopped .empty (C.takeControl (C.getPwm s).2).2).result =
        some (SortedMap.insert .empty (C.getPwm (C.whenStopped s).2).1 (C.whenStopped s).1,
          C.beforeStart s) := rfl
    rw [result_andThen, hstopped] at h
    obtain ⟨r₁, hstart, h⟩ := Option.bind_eq_some_iff.mp ((result_andThen _ _).symm.trans h)
    obtain ⟨r₂, hmin, h⟩ := Option.bind_eq_some_iff.mp ((result_andThen _ _).symm.trans h)
    obtain ⟨r₃, hmapping, h⟩ := Option.bind_eq_some_iff.mp ((result_andThen _ _).symm.trans h)
    obtain rfl := Option.some.inj h
    rw [phases_andThen hstopped, phases_andThen hstart, phases_andThen hmin,
      phases_andThen hmapping]
    refine ⟨_, _, _, r₃.1, rfl, ?_⟩
    generalize hstarts : (C.testStart turns _ (C.beforeStart s)).commands = starts
    generalize hlowers : (C.testRunningMin turns r₁.1 r₁.2.1 r₁.2.2).commands = lowers
    generalize hmaps : (C.testMapping turns r₁.1 r₂.1 r₂.2).commands = maps
    obtain ⟨hstartPwm, hs₁, pwm, rpm, hlast, hmap₁⟩ := testStart_tried hseen hstart
    rw [hstarts] at hstartPwm hs₁ hlast
    -- the points in the order in which the phases record them
    have hpoints₀ : (C.seen s starts lowers maps).Evidenced r₁.1
        (SortedMap.insert .empty (C.getPwm (C.whenStopped s).2).1 (C.whenStopped s).1) :=
      Seen.Evidenced.insert (fun _ _ hnone => by cases hnone) .stopped
    have hpoints₁ : (C.seen s starts lowers maps).Evidenced r₁.1 r₁.2.1 := by
      rw [hmap₁]
      exact hpoints₀.insert (.started hlast)
    have hlowered : (C.seen s starts lowers maps).lowered = C.tried lowers r₁.2.2 := by
      rw [hs₁]
      rfl
    obtain ⟨hs₂, hdown, hpoints₂, hkept₂⟩ := testRunningMin_tried hpoints₁ hmin (hlowers ▸ hlowered)
    rw [hlowers] at hs₂ hdown
    have hmapped : (C.seen s starts lowers maps).mapped = C.tried maps r₂.2 := by
      rw [hs₂, hs₁]
      rfl
    obtain ⟨hup, hfrom, hkept₃⟩ := mappingLoop_tried hmapping
    rw [show (C.mappingLoop turns _ r₂.1 r₂.2).commands = maps from hmaps] at hup hfrom
    have hpoints₃ : (C.seen s starts lowers maps).Evidenced r₁.1 r₃.1 := fun p r hr =>
      (hfrom p r hr).elim (hpoints₂ p r) fun htried => .mapped (hmapped ▸ htried)
    refine ⟨hstartPwm, ⟨hdown, fun hlength => ?_, fun p hp => ⟨(hup p hp).2, fun hroom => ?_⟩⟩,
      rfl, hkept₃ _ (hkept₂ _ ?_), hpoints₃, ofMeasured_evidence hpoints₃⟩
    · rw [hdown]
      exact downFrom_pairwise hlength
    · exact first_mapped hroom (hup p hp).1 (hup p hp).2
    · rw [hmap₁]
      exact SortedMap.contains_iff.mpr (SortedMap.mem_keys_insert.mpr (Or.inl rfl))

end Calibrator

/-! ## A fan that stops below PWM 40 -/

def stoppingSpeed (pwm : Pwm) : Rpm := if pwm < 40 then 0 else 10 * pwm

def stoppingDevice : FanDevice Pwm where
  enableControl s := (true, s)
  disableControl s := (true, s)
  setPwm pwm _ := (true, pwm)
  getPwm s := (s, s)
  getRpm s := (stoppingSpeed s, s)

theorem stoppingDevice_returns (pwm s : Pwm) :
    stoppingDevice.setStabilisedPwm 5 pwm s = some (some (stoppingSpeed pwm), pwm) := by
  simp [FanDevice.setStabilisedPwm, FanDevice.stabiliseLoop, stoppingDevice, FanDevice.stable_self]

def stoppingFan : Calibrator Pwm where
  toFanDevice := stoppingDevice
  stabilise pwm _ := (some (stoppingSpeed pwm), pwm)
  stabilise_returns pwm s := ⟨5, stoppingDevice_returns pwm s⟩
  stray := 0

theorem stoppingFan_seen : stoppingFan.StartSeen 100 :=
  Or.inl ⟨400, by decide +kernel, by decide⟩

theorem calibration_observed_stopping : ∃ o starts lowers maps measured,
    (stoppingFan.test 257 0 .empty 100).result = some o ∧
      (stoppingFan.test 257 0 .empty 100).phases = [[PWM_MIN], starts, lowers, maps] ∧
      Tries o.startPwm lowers maps ∧ measured.contains o.startPwm = true ∧
      (stoppingFan.seen 100 starts lowers maps).Evidenced o.startPwm measured := by
  have hends : ((stoppingFan.test 257 0 .empty 100).result.any TestOutcome.success) = true := by
    decide +kernel
  obtain ⟨o, ho, hok⟩ := (Option.any_eq_true ..).mp hends
  obtain ⟨starts, lowers, maps, measured, hphases, -, htries, -, hstart, hevidence, -⟩ :=
    stoppingFan.calibration_observed 257 0 .empty 100 o stoppingFan_seen ho hok
  exact ⟨o, starts, lowers, maps, measured, ho, hphases, htries, hstart, hevidence⟩

end Fancon
