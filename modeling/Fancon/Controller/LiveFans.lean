import Fancon.Controller.LiveReload
import Fancon.Controller.ManualControl

/-! # The fans that tasks refer to

An entry of `tasks` always refers to the fan object that `devices.fans` owns under its label, for
that fan is only destroyed once the task is erased. The detached thread of a test is not erased
with the task: a reload that replaces or removes the fan meanwhile, or a `set_devices`, leaves it
with a destroyed fan. In the runs without such a step every fan referred to is alive
(`fans_alive`).
-/
set_option autoImplicit false
set_option maxHeartbeats 250000
set_option maxRecDepth 120000

namespace Fancon

namespace Live

variable {drv : Driver} {parse : Text → Bool × ControllerMsg} {print : ControllerMsg → Text}
  {s s' : Live}

/-- Every fan referred to is alive, and the fans of tests that complete have the property `Q`. -/
structure Guarded (Q : String → Fan → Prop) (s : Live) : Prop where
  labelled : Labelled s
  tasks : ∀ l t, s.tasks.find? l = some t → s.Owns l t.fan
  detached : ∀ d ∈ s.detached, s.Owns d.label d.fan
  kept : ∀ l o, s.Completing l → s.object? l = some o → Q l o.fan

/-- The property does not look at the control mode. -/
def IgnoresControl (Q : String → Fan → Prop) : Prop :=
  ∀ l f g, f.uncontrolled = g.uncontrolled → Q l f → Q l g

variable {Q : String → Fan → Prop}

theorem Guarded.object?_of_completing (h : Guarded Q s) {l : String} (hl : s.Completing l) :
    ∃ o, s.object? l = some o := by
  rcases hl with ⟨d, hd, rfl⟩ | ⟨t, -, ht, -⟩
  · obtain ⟨o, ho, -⟩ := Option.map_eq_some_iff.mp (h.detached d hd)
    exact ⟨o, ho⟩
  · obtain ⟨o, ho, -⟩ := Option.map_eq_some_iff.mp (h.tasks l t ht)
    exact ⟨o, ho⟩

theorem Guarded.move {enables : String → Prop} (h : Guarded Q s) (hQ : IgnoresControl Q)
    (hmove : Move print enables s s') : Guarded Q s' where
  labelled := hmove.sameFans.labelled h.labelled
  tasks l t ht := by
    apply hmove.sameFans.owns
    rcases hmove.find?_tasks ht with hold | ⟨_, _, hold, -⟩ | ⟨-, -, k, o, ho, hlabel, hfan⟩
    · exact h.tasks l t hold
    · have howner := h.tasks l _ hold
      exact howner
    · have hk : k = l := (h.labelled k o ho).symm.trans hlabel
      rw [← hk, hfan, Owns, ho, Option.map_some]
  detached d hd := by
    apply hmove.sameFans.owns
    rcases hmove.mem_detached hd with hd | ⟨_, hold, -⟩
    · exact h.detached d hd
    · have howner := h.tasks d.label _ hold
      exact howner
  kept l o' hl ho' := by
    obtain ⟨o, ho, -, hfan⟩ := hmove.sameFans.symm.object? ho'
    exact hQ l _ _ hfan (h.kept l o (hmove.completing hl) ho)

theorem Guarded.moves {enables : String → Prop} (h : Guarded Q s) (hQ : IgnoresControl Q)
    (hmoves : Moves print enables s s') : Guarded Q s' := by
  induction hmoves with
  | refl => exact h
  | tail _ hmove ih => exact ih.move hQ hmove

theorem owns_addFan {l k : String} {f : Fan} {id : ℕ} (h : s.Owns k id) :
    (s.addFan l f).Owns k id := by
  obtain ⟨o, ho, rfl⟩ := Option.map_eq_some_iff.mp h
  exact Option.map_eq_some_iff.mpr ⟨o, object?_addFan_of_some ho, rfl⟩

theorem Guarded.addFan (h : Guarded Q s) {l : String} {f : Fan} (hf : f.label = l) :
    Guarded Q (s.addFan l f) where
  labelled := h.labelled.addFan hf
  tasks k t ht := owns_addFan (h.tasks k t ht)
  detached d hd := owns_addFan (h.detached d hd)
  kept k o hk ho := by
    obtain ⟨o', ho'⟩ := h.object?_of_completing hk
    rw [object?_addFan_of_some ho'] at ho
    exact Option.some.inj ho ▸ h.kept k o' hk ho'

theorem owns_removeFan {l k : String} {id : ℕ} (hk : k ≠ l) (h : s.Owns k id) :
    (s.removeFan l).Owns k id := by
  rw [Owns, object?_removeFan, if_neg hk]
  exact h

/-- A fan without a task whose test does not complete is destroyed. -/
theorem Guarded.removeFan (h : Guarded Q s) {l : String} (hgone : s.tasks.find? l = none)
    (hl : ∀ o, s.object? l = some o → ¬ Q l o.fan) : Guarded Q (s.removeFan l) where
  labelled := h.labelled.removeFan l
  tasks k t ht := by
    refine owns_removeFan ?_ (h.tasks k t ht)
    rintro rfl
    cases hgone.symm.trans ht
  detached d hd := by
    refine owns_removeFan ?_ (h.detached d hd)
    rintro rfl
    obtain ⟨o, ho⟩ := h.object?_of_completing (Or.inl ⟨d, hd, rfl⟩)
    exact hl o ho (h.kept d.label o (Or.inl ⟨d, hd, rfl⟩) ho)
  kept k o hk ho := by
    rw [object?_removeFan] at ho
    split_ifs at ho
    exact h.kept k o hk ho

theorem Guarded.keptBy (hQ : IgnoresControl Q) : KeptBy print (Guarded Q) where
  moves _ _ h hmoves := h.moves hQ hmoves
  rest _ _ _ h := ⟨h.labelled, h.tasks, h.detached, h.kept⟩
  add _ _ _ hf h := h.addFan hf

/-- What holds in every run. -/
abbrev Alive (s : Live) : Prop := Guarded (fun _ _ => True) s

theorem Guarded.alive (h : Guarded Q s) : Alive s := 
  ⟨h.labelled, h.tasks, h.detached, fun _ _ _ _ => trivial⟩

/-! ## The steps that keep it -/

/-- A reload keeps every fan whose test completes: no entry of the config with its hardware id
differs from it, and it is listed. `set_devices` is called when no test completes. -/
def SparesCompleting (parse : Text → Bool × ControllerMsg) (s : Live) : Event → Prop
  | .reload env found => ∀ l o, s.Completing l → s.object? l = some o →
      (∀ d, s.config? parse env = some d → ∀ e ∈ d.fans.entries, e.2.hwId = o.fan.hwId →
        e.2.save = o.fan.save) ∧ s.Listed parse env found l
  | .setDevices _ _ => ∀ l, ¬ s.Completing l
  | _ => True

theorem Alive.test (h : Alive s) {l : String} {forced blocking : Bool}
    (htest : s.test drv print l forced blocking = some s') : Alive s' := by
  rcases test_cases htest with rfl | ⟨o, t, ho, -, hmoves, -, rfl⟩
  · exact h
  · have ht := h.moves (fun _ _ _ _ _ => trivial) hmoves
    refine ⟨ht.labelled, fun k task hk => ?_, ht.detached, fun _ _ _ _ => trivial⟩
    rw [setTasks, SortedMap.find?_insert] at hk
    split_ifs at hk with hlabel
    · obtain rfl := Option.some.inj hk
      obtain ⟨o', ho', hid, -⟩ := (Moves.sameFans hmoves).object? ho
      rw [hlabel, h.labelled l o ho, ← hid]
      exact Option.map_eq_some_iff.mpr ⟨o', ho', rfl⟩
    · exact ht.tasks k task hk

theorem Alive.reload (h : Alive s) {env : Env} {found : Found}
    (hspares : SparesCompleting parse s (.reload env found))
    (hreload : s.reload drv parse print env (Devices.enumerate found) = some s') : Alive s' := by
  let Q : String → Fan → Prop := fun _ f =>
    ∀ d, s.config? parse env = some d → ∀ e ∈ d.fans.entries, e.2.hwId = f.hwId →
      e.2.save = f.save
  have hQ : IgnoresControl Q := by
    intro l f g hfg hsame d hd e he hid
    rw [← Fan.save_of_uncontrolled hfg]
    exact hsame d hd e he (hid.trans (Fan.hwId_of_uncontrolled hfg).symm)
  have hs : Guarded Q s := ⟨h.labelled, h.tasks, h.detached, fun l o hl ho => (hspares l o hl ho).1⟩
  refine (reload_keeps (Guarded.keptBy hQ) (fun d hd t e he old o ht ho hid hdeep hgone => ?_)
    hs hreload).alive
  refine (ht.removeFan hgone fun o' ho' hq => ?_).addFan (label_of_config hd he)
  obtain rfl := Option.some.inj (ho.symm.trans ho')
  exact hdeep (hq d hd e he hid.symm)

theorem alive_setDevices {env : Env} {d : DevicesMsg}
    (hspares : ∀ l, ¬ s.Completing l)
    (hset : s.setDevices drv print env d = some s') : Alive s' := by
  obtain ⟨t, ht, rfl⟩ := Option.map_eq_some_iff.mp hset
  obtain ⟨hmoves, hidle⟩ := moves_disableAll ht
  have hdetached : ∀ x ∈ t.detached, False := fun x hx =>
    hspares x.label (hmoves.completing (Or.inl ⟨x, hx, rfl⟩))
  have hempty : Alive { t with fans := .empty, sensors := (Devices.load env d).sensors } :=
    ⟨fun _ _ ho => (nomatch ho), fun l task hl => (by cases (hidle l).symm.trans hl),
      fun x hx => (hdetached x hx).elim, fun _ _ _ _ => trivial⟩
  have hfill : Alive (t.replaceDevices (Devices.load env d)) := by
    refine Loop.foldl_keeps_mem (P := Alive) (fun u e he hu => ?_) hempty
    exact hu.addFan (Devices.fresh_load env d e.1 e.2 (UnorderedMap.mem_entries.mp he)).1
  have hfile : Alive ((t.replaceDevices (Devices.load env d)).toFile print) :=
    ⟨hfill.labelled, hfill.tasks, hfill.detached, hfill.kept⟩
  have hall : ∀ u : Live, AllMoves print u (u.enableAll drv) := allMoves_enableAll
  exact hfile.moves (fun _ _ _ _ _ => trivial) (hall _)

theorem owns_setFan {l k : String} {f : Fan} {id : ℕ} (h : s.Owns k id) :
    (s.setFan l f).Owns k id := by
  obtain ⟨o, ho, rfl⟩ := Option.map_eq_some_iff.mp h
  rw [Owns, object?_setFan]
  split_ifs with hk
  · rw [← hk, ho]
    rfl
  · rw [ho]
    rfl

/-- The thread of a test goes on with the fan it has. -/
theorem Alive.insert (h : Alive s) {l : String} {id : ℕ} {pc pc' : Option TestStep}
    (ht : s.tasks.find? l = some ⟨id, pc⟩) : Alive (s.setTasks (s.tasks.insert l ⟨id, pc'⟩)) := by
  refine ⟨h.labelled, fun k task hk => ?_, h.detached, fun _ _ _ _ => trivial⟩
  rw [setTasks, SortedMap.find?_insert] at hk
  split_ifs at hk with hkl
  · obtain rfl := Option.some.inj hk
    rw [hkl]
    have howner := h.tasks l _ ht
    exact howner
  · exact h.tasks k task hk

theorem Alive.testDone (h : Alive s) {l : String} {success : Bool} {r : TestResult}
    (hdone : s.testDone l success r = some s') : Alive s' := by
  obtain ⟨o, r', ht, ho, -, -, rfl⟩ := testDone_cases hdone
  exact Alive.insert (s := s.setFan l _) ⟨h.labelled.afterTest ho r',
    fun k task hk => owns_setFan (h.tasks k task hk),
    fun d hd => owns_setFan (h.detached d hd), fun _ _ _ _ => trivial⟩ ht

theorem Alive.reset (h : Alive s) {l : String} (hreset : s.reset l = some s') : Alive s' := by
  obtain ⟨id, ht, rfl⟩ := reset_cases hreset
  exact h.insert ht

theorem Alive.detachedErase (h : Alive s) {i : ℕ}
    (herase : s.detachedErase drv print i = some s') : Alive s' := by
  obtain ⟨d, t, -, howns, ht, rfl⟩ := detachedErase_cases herase
  obtain ⟨hmoves, -⟩ := moves_eraseTask ht
  have hlive := h.moves (fun _ _ _ _ _ => trivial) hmoves
  refine ⟨hlive.labelled, hlive.tasks, fun x hx => ?_, fun _ _ _ _ => trivial⟩
  rcases List.mem_or_eq_of_mem_set hx with hx | rfl
  · exact hlive.detached x hx
  · exact (Moves.sameFans hmoves).owns howns

theorem Alive.detachedEnable (h : Alive s) {i : ℕ}
    (henable : s.detachedEnable drv i = some s') : Alive s' := by
  obtain ⟨d, -, -, rfl⟩ := detachedEnable_cases henable
  have hmoves : AllMoves (fun _ => []) s (s.enable drv d.label) := allMoves_enable s d.label
  have hlive := h.moves (fun _ _ _ _ _ => trivial) hmoves
  exact ⟨hlive.labelled, hlive.tasks,
    fun x hx => hlive.detached x (List.mem_of_mem_eraseIdx hx), fun _ _ _ _ => trivial⟩

/-! ## Every run -/

theorem Alive.perform (h : Alive s) {e : Event} (hspares : SparesCompleting parse s e)
    (hstep : s.perform drv parse print e = some s') : Alive s' := by
  have hmoves : ∀ {t : Live}, AllMoves print s t → Alive t :=
    h.moves fun _ _ _ _ _ => trivial
  cases e with
  | enable l => exact Option.some.inj hstep ▸ hmoves (allMoves_enable s l)
  | enableAll => exact Option.some.inj hstep ▸ hmoves (allMoves_enableAll s)
  | disable l => exact hmoves (moves_disable hstep).1.all
  | disableAll => exact hmoves (moves_disableAll hstep).1.all
  | test l forced blocking => exact h.test hstep
  | reload env found => exact h.reload hspares hstep
  | setDevices env d => exact alive_setDevices hspares hstep
  | recover => exact Option.some.inj hstep ▸ hmoves (allMoves_recover s)
  | edit file =>
    exact Option.some.inj hstep ▸ ⟨h.labelled, h.tasks, h.detached, fun _ _ _ _ => trivial⟩
  | testDone l success r => exact h.testDone hstep
  | reset l => exact h.reset hstep
  | advance l => exact hmoves (.single (.advance hstep))
  | detachedErase i => exact h.detachedErase hstep
  | detachedEnable i => exact h.detachedEnable hstep

/-- What a test of the fan measures. -/
def caseResult : TestResult := ⟨.ofItems [(1200, 255)], 60, 2, true⟩

/-- The fan is set up and tested; the test has left its thread behind. -/
def testCase : List Event :=
  [.setDevices readyEnv (Controller.caseDevices "40: 800"), .test "case" true false,
    .testDone "case" true caseResult, .reset "case", .advance "case", .advance "case",
    .advance "case"]

/-- No task and no detached thread. -/
def idle (s : Live) : Bool := s.tasks.entries.isEmpty && s.detached.isEmpty

/-- The state after the events. -/
def after (parse : Text → Bool × ControllerMsg) (print : ControllerMsg → Text)
    (test : Live → Event → Bool) (es : List Event) : Option Live :=
  Transition.run (perform willingDriver parse print) test {} es

theorem reachableWhen_after {ok : Live → Event → Prop} {test : Live → Event → Bool}
    (htest : ∀ s e, test s e = true → ok s e) {es : List Event}
    (h : after parse print test es = some s) :
    Transition.ReachableWhen (system parse print fun _ => True) ok s :=
  Transition.run_reachableWhen (S := system parse print fun _ => True)
    (fun _ _ _ hstep => ⟨willingDriver, trivial, hstep⟩) htest (.init ⟨none, rfl⟩) h

theorem untested_of_all (h : (s.detached.isEmpty &&
    s.tasks.entries.all fun e => e.2.test.isNone) = true) (k : String) : ¬ s.UnderTest k := by
  obtain ⟨hdetached, htasks⟩ := Bool.and_eq_true_iff.mp h
  rintro (⟨d, hd, -⟩ | ⟨t, pc, ht, hpc⟩)
  · rw [List.isEmpty_iff.mp hdetached] at hd
    cases hd
  · have hnone := List.all_eq_true.mp htasks _ (SortedMap.find?_eq_some.mp ht)
    rw [hpc] at hnone
    cases hnone

end Live

end Fancon
