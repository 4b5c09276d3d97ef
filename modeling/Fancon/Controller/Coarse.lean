import Fancon.Controller.LiveFans

/-! # Tests that complete at once

`Controller` takes the end of a test as one operation, `Live` as the steps of two threads. In a run
of `Live` in which nothing falls between these steps, each call is the operation of `Controller`
that it names, and the steps together are its `testComplete`: without the numbers of the fan objects
and the threads both give the same, and one has to wait exactly if the other has to
(`coarse_runs_refine`).
-/
set_option autoImplicit false
set_option maxHeartbeats 250000
set_option maxRecDepth 120000

namespace Fancon

namespace Live

/-! ## Without numbers and threads -/

/-- The controller of a state; a task is that of a test as long as `test_status` is set. -/
def controller (s : Live) : Controller where
  settings := s.settings
  devices := ⟨s.fans.mapValues FanObject.fan, s.sensors⟩
  tasks := s.tasks.mapValues fun t => ⟨t.testing⟩

variable {drv : Driver} {parse : Text → Bool × ControllerMsg} {print : ControllerMsg → Text}
  {s s' : Live}

theorem fan?_controller (s : Live) (l : String) : s.controller.fan? l = s.fan? l :=
  UnorderedMap.find?_mapValues ..

theorem keys_controller (s : Live) : s.controller.devices.fans.keys = s.fans.keys :=
  UnorderedMap.keys_mapValues ..

theorem find?_tasks_controller (s : Live) (l : String) :
    s.controller.tasks.find? l = (s.tasks.find? l).map fun t => ⟨t.testing⟩ :=
  SortedMap.find?_mapValues ..

theorem contains_tasks_controller (s : Live) (l : String) :
    s.controller.tasks.contains l = s.tasks.contains l := SortedMap.contains_mapValues ..

theorem testing?_controller (s : Live) (l : String) :
    s.controller.testing? l = s.testing? l := by
  rw [Controller.testing?, find?_tasks_controller, Option.map_map]
  rfl

theorem controller_setTasks (s : Live) (tasks : SortedMap String FanTask) :
    (s.setTasks tasks).controller =
      s.controller.setTasks (tasks.mapValues fun t => ⟨t.testing⟩) := rfl

theorem controller_emplace (s : Live) (l : String) (t : FanTask) :
    (s.setTasks (s.tasks.emplace l t)).controller =
      s.controller.setTasks (s.controller.tasks.emplace l ⟨t.testing⟩) := by
  rw [controller_setTasks, SortedMap.mapValues_emplace]
  rfl

theorem controller_erase (s : Live) (l : String) :
    (s.setTasks (s.tasks.erase l)).controller =
      s.controller.setTasks (s.controller.tasks.erase l) := by
  rw [controller_setTasks, SortedMap.mapValues_erase]
  rfl

theorem controller_setFan {l : String} {o : FanObject} (ho : s.object? l = some o) (f : Fan) :
    (s.setFan l f).controller = s.controller.setFan l f := by
  have ho : s.fans.find? l = some o := ho
  have hfans : (s.fans.modify l fun o => { o with fan := f }).mapValues FanObject.fan =
      (s.fans.mapValues FanObject.fan).insertOrAssign l f := by
    rw [UnorderedMap.modify, ho]
    exact UnorderedMap.mapValues_insertOrAssign FanObject.fan s.fans l { o with fan := f }
  simp only [controller, setFan, hfans]
  rfl

theorem controller_enableWith {dellFans : String → Live → Live}
    {dellFans' : String → Controller → Controller}
    (h : ∀ l s, (dellFans l s).controller = dellFans' l s.controller) (s : Live) (l : String) :
    (enableWith drv dellFans s l).controller =
      Controller.enableWith drv dellFans' s.controller l := by
  unfold enableWith Controller.enableWith
  rw [fan?_controller, fan?]
  cases ho : s.object? l with
  | none => rfl
  | some o =>
    simp only [Option.map_some, contains_tasks_controller]
    split_ifs
    · rfl
    · exact controller_setFan ho _
    · rw [controller_emplace, h, controller_setFan ho]
      rfl
    · rw [controller_emplace, controller_setFan ho]
      rfl

theorem controller_enableAlone (s : Live) (l : String) :
    (s.enableAlone drv l).controller = s.controller.enableAlone drv l :=
  controller_enableWith (fun _ _ => rfl) s l

theorem controller_enableDellFans (exceptLabel : Option String) (s : Live) :
    (s.enableDellFans drv exceptLabel).controller =
      s.controller.enableDellFans drv exceptLabel := by
  rw [enableDellFans, Controller.enableDellFans, keys_controller]
  refine (List.foldl_hom controller fun s l => ?_).symm
  unfold enableDellFan Controller.enableDellFan
  rw [fan?_controller]
  split_ifs
  · exact (controller_enableAlone s l).symm
  · rfl

theorem controller_enable (s : Live) (l : String) :
    (s.enable drv l).controller = s.controller.enable drv l :=
  controller_enableWith (fun k s => controller_enableDellFans (some k) s) s l

theorem controller_enableAll (s : Live) :
    (s.enableAll drv).controller = s.controller.enableAll drv := by
  rw [enableAll, Controller.enableAll, keys_controller]
  exact (List.foldl_hom controller fun s l => (controller_enableAlone s l).symm).symm

/-- No test has anything left to do but to measure. -/
structure AtRest (s : Live) : Prop where
  guarded : Guarded (fun _ _ => False) s
  measuring : ∀ l t, s.tasks.find? l = some t → t.test ≠ some .reset

theorem AtRest.not_completing (h : AtRest s) (l : String) : ¬ s.Completing l := by
  intro hl
  obtain ⟨o, ho⟩ := h.guarded.object?_of_completing hl
  exact h.guarded.kept l o hl ho

theorem AtRest.detached_eq (h : AtRest s) : s.detached = [] := by
  apply List.eq_nil_iff_forall_not_mem.mpr
  exact fun d hd => h.not_completing d.label (Or.inl ⟨d, hd, rfl⟩)

theorem AtRest.task (h : AtRest s) {l : String} {t : FanTask} (ht : s.tasks.find? l = some t) :
    t.test = none ∧ t.testing = false ∨ t.test = some .test ∧ t.testing = true := by
  obtain ⟨id, pc⟩ := t
  have hreset := h.measuring l _ ht
  cases pc with
  | none => exact Or.inl ⟨rfl, rfl⟩
  | some pc =>
    cases pc with
    | test => exact Or.inr ⟨rfl, rfl⟩
    | reset => exact absurd rfl hreset
    | check | save | spawn | ended =>
      exact absurd (Or.inr ⟨_, _, ht, rfl, rfl⟩) (h.not_completing l)

theorem AtRest.object (h : AtRest s) {l : String} {t : FanTask} (ht : s.tasks.find? l = some t) :
    ∃ o, s.object? l = some o ∧ o.id = t.fan := Option.map_eq_some_iff.mp (h.guarded.tasks l t ht)

theorem ignoresControl_false : IgnoresControl fun _ _ => False := fun _ _ _ _ h => h

theorem AtRest.moves {enables : String → Prop} (h : AtRest s) (hmoves : Moves print enables s s') :
    AtRest s' := by
  induction hmoves with
  | refl => exact h
  | tail _ hmove ih =>
    refine ⟨ih.guarded.move ignoresControl_false hmove, fun l t ht => ?_⟩
    rcases hmove.find?_tasks ht with hold | ⟨pc, pc', hold, -, hpc, -⟩ | ⟨hnone, -⟩
    · exact ih.measuring l t hold
    · exact absurd (Or.inr ⟨_, pc, hold, rfl, hpc⟩) (ih.not_completing l)
    · rw [hnone]
      exact nofun

theorem AtRest.removeFan (h : AtRest s) {l : String} (hgone : s.tasks.find? l = none) :
    AtRest (s.removeFan l) :=
  ⟨h.guarded.removeFan hgone fun _ _ => id, h.measuring⟩

variable (print) in
theorem atRest_keptBy : KeptBy print AtRest where
  moves _ _ h hmoves := h.moves hmoves
  rest _ _ _ h := ⟨⟨h.guarded.labelled, h.guarded.tasks, h.guarded.detached, h.guarded.kept⟩,
    h.measuring⟩
  add _ _ _ hf h := ⟨h.guarded.addFan hf, h.measuring⟩

theorem AtRest.reInsertFan (h : AtRest s) {old new : String} {f : Fan} (hf : f.label = new)
    (hgone : s.tasks.find? old = none) : AtRest (s.reInsertFan old new f) :=
  (atRest_keptBy fun _ => []).add _ _ _ hf (h.removeFan hgone)

/-! ## `disable` and `test` -/

variable (print) in
theorem controller_eraseTask (h : AtRest s) (l : String) :
    (s.eraseTask drv print l).map controller = s.controller.eraseTask drv l := by
  unfold eraseTask Controller.eraseTask
  rw [find?_tasks_controller]
  cases ht : s.tasks.find? l with
  | none => rfl
  | some t =>
    simp only [Option.map_some]
    rcases h.task ht with ⟨htest, htesting⟩ | ⟨-, htesting⟩
    · obtain ⟨o, ho, hid⟩ := h.object ht
      have hnone : s.tasks.find? l = some ⟨t.fan, none⟩ := by
        rw [ht, ← htest]
      have hfinish : s.finish print l = s := finish_enabled hnone
      have hset : (s.setTasks (s.tasks.erase l)).object? l = some o := ho
      simp only [htesting, Bool.false_eq_true, if_false, hfinish, htest, Option.isNone_none,
        if_true, Option.map_some, returnControl, hset, hid]
      rw [controller_setFan hset, controller_erase, Controller.fan?_setTasks, fan?_controller,
        fan?, ho, Option.map_some]
    · simp only [htesting, if_true, Option.map_none]

variable (print) in
theorem controller_disableWith {dellFans : String → Live → Option Live}
    {dellFans' : String → Controller → Option Controller}
    (hdell : ∀ l s, AtRest s → (dellFans l s).map controller = dellFans' l s.controller)
    (h : AtRest s) (l : String) : (disableWith drv print dellFans s l).map controller =
      Controller.disableWith drv dellFans' s.controller l := by
  unfold disableWith Controller.disableWith
  rw [← controller_eraseTask print h, contains_tasks_controller]
  split_ifs
  · rfl
  · cases ht : s.eraseTask drv print l with
    | none => rfl
    | some t =>
      have hrest := h.moves (moves_eraseTask ht).1
      simp only [Option.bind_some, Option.map_some, fan?_controller]
      cases hf : t.fan? l with
      | none => rfl
      | some f =>
        obtain ⟨o, ho, rfl⟩ := fan?_eq_some.mp hf
        have hset : Moves print (fun _ => True) t (t.setFan l (o.fan.disableControl drv)) :=
          .single (.control ho (Fan.uncontrolled_disableControl drv o.fan) fun _ =>
            Or.inr trivial)
        simp only
        rw [← controller_setFan ho]
        split_ifs
        · exact hdell _ _ (hrest.moves hset)
        · rfl

variable (print) in
theorem controller_disableAlone (h : AtRest s) (l : String) :
    (s.disableAlone drv print l).map controller = s.controller.disableAlone drv l :=
  controller_disableWith print (fun _ _ _ => rfl) h l

variable (print) in
theorem controller_disable (h : AtRest s) (l : String) :
    (s.disable drv print l).map controller = s.controller.disable drv l := by
  refine controller_disableWith print (fun k t ht => ?_) h l
  rw [disableDellFans, Controller.disableDellFans, keys_controller]
  refine Loop.foldlM_map_keeping (P := AtRest) (fun u a _ hu => ?_)
    (fun u a _ u' hu hstep => ?_) ht
  · unfold disableDellFan Controller.disableDellFan
    rw [fan?_controller]
    split_ifs
    · exact controller_disableAlone print hu a
    · rfl
  · unfold disableDellFan at hstep
    split_ifs at hstep
    · exact hu.moves (moves_disableAlone hstep).1
    · exact Option.some.inj hstep ▸ hu

variable (print) in
theorem controller_disableAll (h : AtRest s) :
    (s.disableAll drv print).map controller = s.controller.disableAll drv := by
  have hkeys : s.controller.tasks.keys = s.tasks.keys := SortedMap.keys_mapValues ..
  rw [disableAll, Controller.disableAll, hkeys]
  exact Loop.foldlM_map_keeping (P := AtRest) (fun u a _ hu => controller_disableAlone print hu a)
    (fun u a _ u' hu hstep => hu.moves (moves_disableAlone hstep).1) h

variable (print) in
theorem controller_test (h : AtRest s) (l : String) (forced blocking : Bool) :
    (s.test drv print l forced blocking).map controller =
      s.controller.test drv l forced blocking := by
  unfold test Controller.test
  rw [fan?_controller, fan?]
  cases ho : s.object? l with
  | none => rfl
  | some o =>
    simp only [Option.map_some, testing?_controller]
    split_ifs
    · rfl
    · rfl
    · rfl
    · rw [← controller_eraseTask print h, Option.map_map, Option.map_map]
      refine Option.map_congr fun t _ => ?_
      exact controller_emplace t _ _

theorem AtRest.of_alive (h : Alive s) (hidle : ∀ l, ¬ s.Completing l)
    (hmeasuring : ∀ l t, s.tasks.find? l = some t → t.test ≠ some .reset) : AtRest s :=
  ⟨⟨h.labelled, h.tasks, h.detached, fun l _ hl _ => hidle l hl⟩, hmeasuring⟩

theorem AtRest.test (h : AtRest s) {l : String} {forced blocking : Bool}
    (htest : s.test drv print l forced blocking = some s') : AtRest s' := by
  have halive := h.guarded.alive.test htest
  rcases test_cases htest with rfl | ⟨o, t, -, -, hmoves, -, rfl⟩
  · exact h
  · have ht := h.moves hmoves
    have htask : ∀ k task, (t.setTasks (t.tasks.insert o.fan.label ⟨o.id, some .test⟩)).tasks.find?
        k = some task → task.test = some .test ∨ t.tasks.find? k = some task := by
      intro k task hk
      rw [setTasks, SortedMap.find?_insert] at hk
      split_ifs at hk
      · exact Or.inl (Option.some.inj hk ▸ rfl)
      · exact Or.inr hk
    refine .of_alive halive (fun k hk => ?_) (fun k task hk => ?_)
    · rcases hk with ⟨d, hd, -⟩ | ⟨task, pc, hk, hpc, htesting⟩
      · have hnil : d ∈ t.detached := hd
        rw [ht.detached_eq] at hnil
        cases hnil
      · rcases htask k task hk with hnew | hold
        · obtain rfl := Option.some.inj (hnew.symm.trans hpc)
          cases htesting
        · exact ht.not_completing k (Or.inr ⟨task, pc, hold, hpc, htesting⟩)
    · rcases htask k task hk with hnew | hold
      · rw [hnew]
        intro hreset
        cases hreset
      · exact ht.measuring k task hold

/-! ## `merge` -/

theorem AtRest.mergeFan {m m' : Merging} (h : AtRest m.1) {replaceOnMatch deepCmp : Bool}
    {e : Sigma fun _ : String => Fan} (he : e.2.label = e.1)
    (hturn : mergeFan drv print replaceOnMatch deepCmp m e = some m') : AtRest m'.1 := by
  rcases mergeFan_cases hturn with rfl | rfl | ⟨-, old, o, t, -, -, -, hbefore, hgone, hafter⟩
  · exact (atRest_keptBy print).add _ _ _ he h
  · exact h
  · exact ((h.moves hbefore).reInsertFan he hgone).moves hafter

theorem AtRest.merge (h : AtRest s) {d : Devices} (hd : d.Fresh) {replaceOnMatch deepCmp : Bool}
    (hmerge : s.merge drv print d replaceOnMatch deepCmp = some s') : AtRest s' := by
  refine (atRest_keptBy print).merge hd (fun _ t e he old o ht _ _ _ hgone => ?_) h hmerge
  exact ht.reInsertFan (hd e.1 e.2 (UnorderedMap.mem_entries.mp he)).1 hgone

/-! ## `reload` and `set_devices` -/

theorem AtRest.withSettings (h : AtRest s) (settings : Settings) :
    AtRest { s with settings := settings } :=
  (atRest_keptBy fun _ => []).rest s settings s.sensors h

theorem AtRest.setDevices (h : AtRest s) {env : Env} {d : DevicesMsg}
    (hset : s.setDevices drv print env d = some s') : AtRest s' := by
  have halive := alive_setDevices h.not_completing hset
  obtain ⟨t, ht, rfl⟩ := Option.map_eq_some_iff.mp hset
  obtain ⟨hmoves, hidle⟩ := moves_disableAll ht
  have hload : (t.replaceDevices (Devices.load env d)).tasks = t.tasks ∧
      (t.replaceDevices (Devices.load env d)).detached = t.detached := by
    unfold replaceDevices
    refine Loop.foldl_keeps (P := fun u : Live => u.tasks = t.tasks ∧ u.detached = t.detached)
      (fun u e hu => ?_) ?_ _
    · exact hu
    · exact ⟨rfl, rfl⟩
  have hall : ∀ u : Live, AllMoves print u (u.enableAll drv) := allMoves_enableAll
  have huntested : ∀ l, ¬ (((t.replaceDevices (Devices.load env d)).toFile print).enableAll
      drv).UnderTest l := by
    intro l hl
    rcases Moves.underTest (hall _) hl with ⟨x, hx, -⟩ | ⟨task, pc, htask, -⟩
    · have hx : x ∈ (t.replaceDevices (Devices.load env d)).detached := hx
      rw [hload.2, (h.moves hmoves).detached_eq] at hx
      cases hx
    · have htask : (t.replaceDevices (Devices.load env d)).tasks.find? l = some task := htask
      rw [hload.1, hidle l] at htask
      cases htask
  refine .of_alive halive (fun l hl => huntested l ?_) (fun l task hl hreset => huntested l ?_)
  · exact hl.imp_right fun ⟨task, pc, htask, hpc, _⟩ => ⟨task, pc, htask, hpc⟩
  · exact Or.inr ⟨task, .reset, hl, hreset⟩

/-! ## The end of a test -/

/-- What a test leaves; one that fails has measured nothing. -/
def testResult (s : Live) (l : String) (success : Bool) (r : TestResult) : TestResult :=
  match s.fan? l with
  | some f => if success then r else { r with rpmToPwm := f.rpmToPwm, startPwm := f.startPwm }
  | none => r

/-- The last steps of a test and of the thread that it leaves behind, with nothing in between. -/
def completeTest (drv : Driver) (print : ControllerMsg → Text) (s : Live) (l : String)
    (success : Bool) (r : TestResult) : Option Live :=
  (s.testDone l success r).bind fun s =>
  (s.reset l).bind fun s =>
  ((s.finish print l).detachedErase drv print 0).bind fun s =>
  s.detachedEnable drv 0

variable (print) in
theorem finish_check {l : String} {id : ℕ} (ht : s.tasks.find? l = some ⟨id, some .check⟩) :
    ∃ file, s.finish print l =
      { s with
        tasks := s.tasks.insert l ⟨id, some .ended⟩
        detached := s.detached ++ [⟨id, l, false⟩]
        file := file } := by
  show ∃ file, (fun s => (advance print s l).getD s) ((fun s => (advance print s l).getD s)
    ((fun s => (advance print s l).getD s) s)) = _
  by_cases hrunning : s.testsRunning = 0
  · refine ⟨some (print s.msg), ?_⟩
    simp [advance, ht, hrunning, setTasks, toFile, SortedMap.find?_insert,
      SortedMap.insert_insert]
    rfl
  · refine ⟨s.file, ?_⟩
    simp [advance, ht, hrunning, setTasks, SortedMap.find?_insert, SortedMap.insert_insert]

/-- A thread that has ended is erased, and the fan stays as it is. -/
theorem eraseTask_ended {l : String} {id : ℕ} (ht : s.tasks.find? l = some ⟨id, some .ended⟩) :
    s.eraseTask drv print l = some (s.setTasks (s.tasks.erase l)) := by
  have hstep : (advance print s l).getD s = s := by
    simp [advance, ht]
  have hfinish : s.finish print l = s :=
    Function.iterate_fixed (f := fun t => (advance print t l).getD t) hstep 3
  unfold eraseTask
  simp only [ht, hfinish]
  rfl

/-- The state in which the detached thread enables the fan. -/
def beforeEnable (s : Live) (l : String) (o : FanObject) (r : TestResult) (file : Option Text) :
    Live :=
  { (s.setFan l (o.fan.afterTest r)).setTasks (s.tasks.erase l) with
    detached := [⟨o.id, l, true⟩], file := file }

variable (drv print) in
theorem completeTest_eq (h : AtRest s) {l : String} {o : FanObject} (success : Bool)
    (r : TestResult) (ht : s.tasks.find? l = some ⟨o.id, some .test⟩)
    (ho : s.object? l = some o) : ∃ file, s.completeTest drv print l success r =
      (s.beforeEnable l o (s.testResult l success r) file).detachedEnable drv 0 := by
  have hfan : s.fan? l = some o.fan := fan?_eq_some.mpr ⟨o, ho, rfl⟩
  let s₁ : Live := (s.setFan l (o.fan.afterTest (s.testResult l success r))).setTasks
    (s.tasks.insert l ⟨o.id, some .reset⟩)
  have hdone : s.testDone l success r = some s₁ := by
    unfold testDone
    simp only [ht, ho, if_true, s₁, testResult, hfan]
  let s₂ : Live := s₁.setTasks (s.tasks.insert l ⟨o.id, some .check⟩)
  have hreset : s₁.reset l = some s₂ := by
    have ht₁ : s₁.tasks.find? l = some ⟨o.id, some .reset⟩ := by
      rw [show s₁.tasks = s.tasks.insert l ⟨o.id, some .reset⟩ from rfl, SortedMap.find?_insert,
        if_pos rfl]
    have hinsert : s₁.tasks.insert l ⟨o.id, some .check⟩ =
        s.tasks.insert l ⟨o.id, some .check⟩ := SortedMap.insert_insert ..
    unfold reset
    simp only [ht₁, hinsert, s₂]
  have ht₂ : s₂.tasks.find? l = some ⟨o.id, some .check⟩ := by
    rw [show s₂.tasks = s.tasks.insert l ⟨o.id, some .check⟩ from rfl, SortedMap.find?_insert,
      if_pos rfl]
  obtain ⟨file, hfinish⟩ := finish_check print ht₂
  refine ⟨file, ?_⟩
  let s₃ : Live :=
    { s₂ with
      tasks := s.tasks.insert l ⟨o.id, some .ended⟩
      detached := [⟨o.id, l, false⟩]
      file := file }
  have hs₃ : s₂.finish print l = s₃ := by
    have hinsert : s₂.tasks.insert l ⟨o.id, some .ended⟩ =
        s.tasks.insert l ⟨o.id, some .ended⟩ := SortedMap.insert_insert ..
    have hdetached : s₂.detached = [] := h.detached_eq
    rw [hfinish, hinsert, hdetached]
    rfl
  have ht₃ : s₃.tasks.find? l = some ⟨o.id, some .ended⟩ := by
    rw [show s₃.tasks = s.tasks.insert l ⟨o.id, some .ended⟩ from rfl, SortedMap.find?_insert,
      if_pos rfl]
  have howns : s₃.Owns l o.id := by
    have hset := object?_setFan_self ho (o.fan.afterTest (s.testResult l success r))
    exact congrArg (Option.map FanObject.id) hset
  have herase : s₃.detachedErase drv print 0 =
      some (s.beforeEnable l o (s.testResult l success r) file) := by
    have hget : s₃.detached[0]? = some ⟨o.id, l, false⟩ := rfl
    unfold detachedErase
    simp only [hget, eraseTask_ended ht₃, howns, and_true, if_true, Option.map_some]
    have hrest : s₃.tasks.erase l = s.tasks.erase l := SortedMap.erase_insert ..
    rw [hrest]
    rfl
  rw [completeTest, hdone, Option.bind_some, hreset, Option.bind_some, hs₃, herase,
    Option.bind_some]

theorem detachedEnable_beforeEnable {l : String} {o : FanObject} (ho : s.object? l = some o)
    (r : TestResult) (file : Option Text) : (s.beforeEnable l o r file).detachedEnable drv 0 =
      some { (s.beforeEnable l o r file).enable drv l with
        detached := ((s.beforeEnable l o r file).enable drv l).detached.eraseIdx 0 } := by
  have howns : (s.beforeEnable l o r file).Owns l o.id := by
    have hset := object?_setFan_self ho (o.fan.afterTest r)
    exact congrArg (Option.map FanObject.id) hset
  have hget : (s.beforeEnable l o r file).detached[0]? = some ⟨o.id, l, true⟩ := rfl
  unfold detachedEnable
  simp only [hget, howns, and_true, if_true]

/-- A test that is measuring, or nothing to complete. -/
theorem AtRest.completing_cases (h : AtRest s) (l : String) :
    (∃ o, s.tasks.find? l = some ⟨o.id, some .test⟩ ∧ s.object? l = some o) ∨
      s.testing? l ≠ some true ∧ ∀ id, s.tasks.find? l ≠ some ⟨id, some .test⟩ := by
  cases ht : s.tasks.find? l with
  | none => exact Or.inr ⟨by simp [testing?, ht], fun _ => nofun⟩
  | some t =>
    obtain ⟨o, ho, hid⟩ := h.object ht
    rcases h.task ht with ⟨htest, htesting⟩ | ⟨htest, -⟩
    · refine Or.inr ⟨by simp [testing?, ht, htesting], fun id heq => ?_⟩
      rw [Option.some.inj heq] at htest
      cases htest
    · refine Or.inl ⟨o, ?_, ho⟩
      rw [hid, ← htest]

theorem testDone_eq_none {l : String} {success : Bool} {r : TestResult}
    (h : ∀ id, s.tasks.find? l ≠ some ⟨id, some .test⟩) : s.testDone l success r = none := by
  refine Option.eq_none_iff_forall_ne_some.mpr fun s' hs' => ?_
  obtain ⟨o, -, ht, -⟩ := testDone_cases hs'
  exact h o.id ht

theorem detached_enableWith {dellFans : String → Live → Live}
    (hdell : ∀ l s, (dellFans l s).detached = s.detached) (s : Live) (l : String) :
    (enableWith drv dellFans s l).detached = s.detached := by
  unfold enableWith
  cases s.object? l with
  | none => rfl
  | some o =>
    simp only
    split_ifs
    · rfl
    · rfl
    · exact hdell _ _
    · rfl

theorem detached_enable (s : Live) (l : String) : (s.enable drv l).detached = s.detached := by
  refine detached_enableWith (fun k t => ?_) s l
  refine Loop.foldl_keeps (P := fun u : Live => u.detached = t.detached) (fun u i hu => ?_) ?_ _
  · unfold enableDellFan
    split_ifs
    · exact (detached_enableWith (fun _ _ => rfl) u i).trans hu
    · exact hu
  · rfl

/-- A test has been there before, and its thread took steps only past the reset. -/
theorem Moves.find?_test {enables : String → Prop} (h : Moves print enables s s') {l : String}
    {t : FanTask} {pc : TestStep} (ht : s'.tasks.find? l = some t) (hpc : t.test = some pc) :
    s.tasks.find? l = some t ∨
      ∃ pc', s.tasks.find? l = some ⟨t.fan, some pc'⟩ ∧ pc'.testing = false := by
  induction h generalizing t pc with
  | refl => exact Or.inl ht
  | tail _ hmove ih =>
    rcases hmove.find?_tasks ht with hold | ⟨pc₁, -, hold, -, htesting, -⟩ | ⟨hnone, -⟩
    · exact ih hold hpc
    · rcases ih hold rfl with hfirst | hfirst
      · exact Or.inr ⟨pc₁, hfirst, htesting⟩
      · exact Or.inr hfirst
    · cases hnone.symm.trans hpc

theorem AtRest.completeTest (h : AtRest s) {l : String} {success : Bool} {r : TestResult}
    (hend : s.completeTest drv print l success r = some s') : AtRest s' := by
  have halive : Alive s' := by
    obtain ⟨s₁, h₁, hrest⟩ := Option.bind_eq_some_iff.mp hend
    obtain ⟨s₂, h₂, hrest⟩ := Option.bind_eq_some_iff.mp hrest
    obtain ⟨s₃, h₃, h₄⟩ := Option.bind_eq_some_iff.mp hrest
    have hfinish : AllMoves print s₂ (s₂.finish print l) := moves_finish s₂ l
    have hended : Alive (s₂.finish print l) :=
      ((h.guarded.alive.testDone h₁).reset h₂).moves (fun _ _ _ _ _ => trivial) hfinish
    exact (hended.detachedErase h₃).detachedEnable h₄
  rcases h.completing_cases l with ⟨o, ht, ho⟩ | ⟨-, hnone⟩
  · obtain ⟨file, heq⟩ := completeTest_eq drv print h success r ht ho
    rw [heq, detachedEnable_beforeEnable ho] at hend
    obtain rfl := Option.some.inj hend
    have htask : ∀ k t pc, ((s.beforeEnable l o (s.testResult l success r) file).enable
        drv l).tasks.find? k = some t → t.test = some pc → pc = .test := by
      intro k t pc hk hpc
      have hbefore : ∀ x, (s.tasks.erase l).find? k = some x → s.tasks.find? k = some x := by
        intro x hx
        rw [SortedMap.find?_erase] at hx
        split_ifs at hx
        exact hx
      have hmoves : ∀ t : Live, AllMoves print t (t.enable drv l) := fun t => allMoves_enable t l
      rcases Moves.find?_test (hmoves _) hk hpc with hold | ⟨pc', hold, htesting⟩
      · rcases h.task (hbefore t hold) with ⟨htest, -⟩ | ⟨htest, -⟩
        · cases htest.symm.trans hpc
        · exact (Option.some.inj (htest.symm.trans hpc)).symm
      · exact absurd (Or.inr ⟨_, pc', hbefore _ hold, rfl, htesting⟩) (h.not_completing k)
    refine .of_alive halive (fun k hk => ?_) (fun k t hk hreset => ?_)
    · rcases hk with ⟨d, hd, -⟩ | ⟨t, pc, hk, hpc, htesting⟩
      · have hnil : d ∈ ((s.beforeEnable l o (s.testResult l success r) file).enable
            drv l).detached.eraseIdx 0 := hd
        rw [detached_enable] at hnil
        cases hnil
      · obtain rfl := htask k t pc hk hpc
        cases htesting
    · cases htask k t _ hk hreset
  · rw [Live.completeTest, testDone_eq_none hnone] at hend
    cases hend

end Live

/-! ## Runs of whole calls -/

/-- A client's call or an edit of the file, and no step of a thread. -/
def Event.isCall : Event → Bool
  | .testDone .. | .reset _ | .advance _ | .detachedErase _ | .detachedEnable _ => false
  | _ => true

namespace Live

variable {drv : Driver} {parse : Text → Bool × ControllerMsg} {print : ControllerMsg → Text}
  {s s' : Live}

theorem AtRest.call (h : AtRest s) {e : Event} (hcall : e.isCall = true)
    (hstep : s.perform drv parse print e = some s') : AtRest s' := by
  have hall : ∀ {t : Live}, AllMoves print s t → AtRest t := h.moves
  cases e with
  | enable l => exact Option.some.inj hstep ▸ hall (allMoves_enable s l)
  | enableAll => exact Option.some.inj hstep ▸ hall (allMoves_enableAll s)
  | disable l => exact h.moves (moves_disable hstep).1
  | disableAll => exact h.moves (moves_disableAll hstep).1
  | test l forced blocking => exact h.test hstep
  | reload env found =>
    have hlabel : ∀ d, s.config? parse env = some d → ∀ e ∈ d.fans.entries, e.2.label = e.1 :=
      fun d hd e he => label_of_config hd he
    exact reload_keeps (atRest_keptBy print) (fun d hd t e he _ _ ht _ _ _ hgone =>
      ht.reInsertFan (hlabel d hd e he) hgone) h hstep
  | setDevices env d => exact h.setDevices hstep
  | recover => exact Option.some.inj hstep ▸ hall (allMoves_recover s)
  | edit file =>
    exact Option.some.inj hstep ▸ .of_alive
      ⟨h.guarded.labelled, h.guarded.tasks, h.guarded.detached, fun _ _ _ _ => trivial⟩
      h.not_completing h.measuring
  | testDone _ _ _ | reset _ | advance _ | detachedErase _ | detachedEnable _ => cases hcall

end Live

end Fancon
