import Fancon.Controller.Operations
import Fancon.Device.SaveLoad
import Fancon.Lib.Loop

/-! # What the operations leave alone

`enable` and `disable`, alone or in loops, are made of changes of the control mode of fans, starts
of the tasks of configured fans and ends of such tasks (`Moves`). So they change nothing but the
control mode of fans and the tasks of enabled fans (`Controls`).
-/
set_option autoImplicit false
set_option maxHeartbeats 250000
set_option maxRecDepth 120000

namespace Fancon

/-- A fan but for its control mode. -/
def Fan.uncontrolled (f : Fan) : Fan := { f with enabled := false }

@[simp] theorem Fan.uncontrolled_enableControl (drv : Driver) (f : Fan) :
    (f.enableControl drv).2.uncontrolled = f.uncontrolled := by
  unfold Fan.enableControl
  split_ifs <;> rfl

@[simp] theorem Fan.uncontrolled_disableControl (drv : Driver) (f : Fan) :
    (f.disableControl drv).uncontrolled = f.uncontrolled := by
  unfold Fan.disableControl
  split_ifs <;> rfl

@[simp] theorem Fan.uncontrolled_tryEnable (drv : Driver) (f : Fan) :
    (f.tryEnable drv).2.uncontrolled = f.uncontrolled := by
  unfold Fan.tryEnable
  split_ifs
  · rfl
  · simp only
    split_ifs <;> simp

theorem Fan.ignore_of_tryEnable {drv : Driver} {f : Fan} (h : (f.tryEnable drv).1 = true) :
    f.ignore = false := by
  unfold Fan.tryEnable at h
  split_ifs at h with hignore
  exact Bool.eq_false_iff.mpr hignore

section

variable {f g : Fan}

/-- What the control mode has no part in is the same if nothing but the control mode differs. -/
theorem Fan.agree {α : Type} (p : Fan → α) (hp : ∀ f : Fan, p f.uncontrolled = p f)
    (h : f.uncontrolled = g.uncontrolled) : p f = p g := by
  rw [← hp f, h, hp g]

theorem Fan.label_of_uncontrolled (h : f.uncontrolled = g.uncontrolled) : f.label = g.label :=
  Fan.agree Fan.label (fun _ => rfl) h

theorem Fan.ignore_of_uncontrolled (h : f.uncontrolled = g.uncontrolled) : f.ignore = g.ignore :=
  Fan.agree Fan.ignore (fun _ => rfl) h

theorem Fan.type_of_uncontrolled (h : f.uncontrolled = g.uncontrolled) : f.type = g.type :=
  Fan.agree Fan.type (fun _ => rfl) h

theorem Fan.hwId_of_uncontrolled (h : f.uncontrolled = g.uncontrolled) : f.hwId = g.hwId :=
  Fan.agree Fan.hwId (fun _ => rfl) h

theorem Fan.isConfigured_of_uncontrolled (h : f.uncontrolled = g.uncontrolled) :
    f.isConfigured = g.isConfigured :=
  Fan.agree Fan.isConfigured (fun _ => rfl) h

theorem Fan.save_of_uncontrolled (h : f.uncontrolled = g.uncontrolled) : f.save = g.save :=
  Fan.agree Fan.save (fun _ => Fan.save_eq rfl rfl) h

end

namespace Controller

theorem fan?_setFan (c : Controller) (l k : String) (f : Fan) :
    (c.setFan l f).fan? k = if k = l then some f else c.fan? k :=
  UnorderedMap.find?_insertOrAssign ..

theorem fan?_setFan_self (c : Controller) (l : String) (f : Fan) :
    (c.setFan l f).fan? l = some f := by rw [fan?_setFan, if_pos rfl]

@[simp] theorem fan?_setTasks (c : Controller) (tasks : SortedMap String Task) :
    (c.setTasks tasks).fan? = c.fan? := rfl

@[simp] theorem tasks_setTasks (c : Controller) (tasks : SortedMap String Task) :
    (c.setTasks tasks).tasks = tasks := rfl

@[simp] theorem tasks_setFan (c : Controller) (l : String) (f : Fan) :
    (c.setFan l f).tasks = c.tasks := rfl

def Tests (c : Controller) (l : String) : Prop := c.testing? l = some true

theorem tests_iff {c : Controller} {l : String} : c.Tests l ↔ c.tasks.find? l = some ⟨true⟩ := by
  unfold Tests testing?
  cases c.tasks.find? l with
  | none => simp
  | some task =>
    obtain ⟨testing⟩ := task
    simp

/-- `c'` differs from `c` in the control mode of fans and in tasks that are not tests. -/
structure Controls (c c' : Controller) : Prop where
  settings : c'.settings = c.settings
  sensors : c'.devices.sensors = c.devices.sensors
  fans : ∀ l, (c'.fan? l).map Fan.uncontrolled = (c.fan? l).map Fan.uncontrolled
  tests : ∀ l, c'.Tests l ↔ c.Tests l

theorem Controls.refl (c : Controller) : Controls c c := ⟨rfl, rfl, fun _ => rfl, fun _ => Iff.rfl⟩

theorem Controls.trans {a b c : Controller} (hab : Controls a b) (hbc : Controls b c) :
    Controls a c where
  settings := hbc.settings.trans hab.settings
  sensors := hbc.sensors.trans hab.sensors
  fans l := (hbc.fans l).trans (hab.fans l)
  tests l := (hbc.tests l).trans (hab.tests l)

theorem Controls.fan? {c c' : Controller} (h : Controls c c') {l : String} {f : Fan}
    (hf : c.fan? l = some f) : ∃ g, c'.fan? l = some g ∧ g.uncontrolled = f.uncontrolled := by
  have hl := h.fans l
  rw [hf] at hl
  exact Option.map_eq_some_iff.mp hl

theorem Controls.fan?_back {c c' : Controller} (h : Controls c c') {l : String} {g : Fan}
    (hg : c'.fan? l = some g) : ∃ f, c.fan? l = some f ∧ f.uncontrolled = g.uncontrolled := by
  have hl := h.fans l
  rw [hg] at hl
  exact Option.map_eq_some_iff.mp hl.symm

theorem Controls.save {c c' : Controller} (h : Controls c c') (l : String) :
    (c'.fan? l).map Fan.save = (c.fan? l).map Fan.save := by
  cases hf : c.fan? l with
  | none =>
    have hl := h.fans l
    rw [hf] at hl
    rw [Option.map_eq_none_iff.mp hl]
  | some f =>
    obtain ⟨g, hg, heq⟩ := h.fan? hf
    rw [hg]
    exact congrArg some (Fan.save_of_uncontrolled heq)

theorem controls_setFan {c : Controller} {l : String} {f g : Fan} (hf : c.fan? l = some f)
    (hg : g.uncontrolled = f.uncontrolled) : Controls c (c.setFan l g) where
  settings := rfl
  sensors := rfl
  fans k := by
    rw [fan?_setFan]
    split_ifs with hk
    · rw [hk, hf]
      exact congrArg some hg
    · rfl
  tests _ := Iff.rfl

theorem controls_emplace {c : Controller} {l : String} :
    Controls c (c.setTasks (c.tasks.emplace l ⟨false⟩)) where
  settings := rfl
  sensors := rfl
  fans _ := rfl
  tests k := by
    rw [tests_iff, tests_iff, tasks_setTasks, SortedMap.find?_emplace]
    split_ifs with hk
    · rw [hk]
      cases c.tasks.find? l <;> simp
    · rfl

theorem controls_erase {c : Controller} {l : String} (hl : ¬ c.Tests l) :
    Controls c (c.setTasks (c.tasks.erase l)) where
  settings := rfl
  sensors := rfl
  fans _ := rfl
  tests k := by
    rw [tests_iff] at hl ⊢
    rw [tests_iff, tasks_setTasks, SortedMap.find?_erase]
    split_ifs with hk
    · subst hk
      simpa using hl
    · rfl

/-! ## The changes that `enable` and `disable` are made of -/

/-- A change of the control mode of a fan, the start of the task of a configured fan, or the end of
a task that is not a test. -/
inductive Move : Controller → Controller → Prop
  | control {c : Controller} {l : String} {f g : Fan} :
      c.fan? l = some f → g.uncontrolled = f.uncontrolled → Move c (c.setFan l g)
  | start {c : Controller} {l : String} {f : Fan} :
      c.fan? l = some f → f.ignore = false → f.isConfigured = true →
      Move c (c.setTasks (c.tasks.emplace f.label ⟨false⟩))
  | stop {c : Controller} {l : String} : ¬ c.Tests l → Move c (c.setTasks (c.tasks.erase l))

abbrev Moves : Controller → Controller → Prop := Relation.ReflTransGen Move

theorem Moves.controls {c c' : Controller} (h : Moves c c') : Controls c c' := by
  induction h with
  | refl => exact Controls.refl c
  | tail _ hmove ih =>
    apply ih.trans
    cases hmove with
    | control hf hg => exact controls_setFan hf hg
    | start _ _ _ => exact controls_emplace
    | stop hl => exact controls_erase hl

variable {drv : Driver}

/-! ## What `disable` and a test can do -/

theorem eraseTask_cases {c c' : Controller} {l : String} (h : c.eraseTask drv l = some c') :
    (c.tasks.find? l = none ∧ c' = c) ∨
      (¬ c.Tests l ∧ c.fan? l = none ∧ c' = c.setTasks (c.tasks.erase l)) ∨
      ∃ f, ¬ c.Tests l ∧ c.fan? l = some f ∧
        c' = (c.setTasks (c.tasks.erase l)).setFan l (f.disableControl drv) := by
  unfold eraseTask at h
  cases ht : c.tasks.find? l with
  | none =>
    rw [ht] at h
    exact Or.inl ⟨rfl, (Option.some.inj h).symm⟩
  | some task =>
    rw [ht] at h
    simp only [fan?_setTasks] at h
    split_ifs at h with htest
    have hl : ¬ c.Tests l := by
      intro hl
      rw [tests_iff, ht] at hl
      exact htest (congrArg Task.testing (Option.some.inj hl))
    cases hf : c.fan? l with
    | none =>
      rw [hf] at h
      exact Or.inr (Or.inl ⟨hl, rfl, (Option.some.inj h).symm⟩)
    | some f =>
      rw [hf] at h
      exact Or.inr (Or.inr ⟨f, hl, rfl, (Option.some.inj h).symm⟩)

theorem fan?_eraseTask_of_ne {c c' : Controller} {l k : String} (h : c.eraseTask drv l = some c')
    (hk : k ≠ l) : c'.fan? k = c.fan? k := by
  rcases eraseTask_cases h with ⟨-, rfl⟩ | ⟨-, -, rfl⟩ | ⟨f, -, -, rfl⟩
  · rfl
  · rfl
  · rw [fan?_setFan, if_neg hk]
    rfl

theorem disableWith_cases {dellFans : String → Controller → Option Controller} {c c' : Controller}
    {l : String} (h : disableWith drv dellFans c l = some c') :
    (c.tasks.find? l = none ∧ c' = c) ∨ ∃ d, c.tasks.find? l ≠ none ∧
      c.eraseTask drv l = some d ∧ ((d.fan? l = none ∧ c' = d) ∨ ∃ f, d.fan? l = some f ∧
        if f.type = .dell then dellFans l (d.setFan l (f.disableControl drv)) = some c'
        else c' = d.setFan l (f.disableControl drv)) := by
  unfold disableWith at h
  split_ifs at h with hcontains
  · have hnone : c.tasks.find? l = none := by simpa [SortedMap.contains] using hcontains
    exact Or.inl ⟨hnone, (Option.some.inj h).symm⟩
  · have hsome : c.tasks.find? l ≠ none := by
      intro hnone
      simp [SortedMap.contains, hnone] at hcontains
    obtain ⟨d, hd, h⟩ := Option.bind_eq_some_iff.mp h
    refine Or.inr ⟨d, hsome, hd, ?_⟩
    cases hf : d.fan? l with
    | none =>
      rw [hf] at h
      exact Or.inl ⟨rfl, (Option.some.inj h).symm⟩
    | some f =>
      rw [hf] at h
      simp only at h
      refine Or.inr ⟨f, rfl, ?_⟩
      split_ifs at h ⊢
      · exact h
      · exact (Option.some.inj h).symm

theorem test_cases {c c' : Controller} {l : String} {forced blocking : Bool}
    (h : c.test drv l forced blocking = some c') :
    c' = c ∨ ∃ f d, c.fan? l = some f ∧ f.ignore = false ∧ (f.tested = true → forced = true) ∧
      c.eraseTask drv f.label = some d ∧ c' = d.setTasks (d.tasks.emplace f.label ⟨true⟩) := by
  unfold Controller.test at h
  cases hf : c.fan? l with
  | none =>
    rw [hf] at h
    exact Or.inl (Option.some.inj h).symm
  | some f =>
    rw [hf] at h
    simp only at h
    split_ifs at h with hskip
    · exact Or.inl (Option.some.inj h).symm
    · exact Or.inl (Option.some.inj h).symm
    · obtain ⟨d, hd, rfl⟩ := Option.map_eq_some_iff.mp h
      obtain ⟨hignore, htested⟩ : f.ignore = false ∧ (f.tested = true → forced = true) := by
        simpa using hskip
      exact Or.inr ⟨f, d, rfl, hignore, htested, hd, rfl⟩

theorem testComplete_cases {c c' : Controller} {l : String} {r : TestResult}
    (h : c.testComplete drv l r = some c') : ∃ f, c.testing? l = some true ∧ c.fan? l = some f ∧
      c' = ((c.setFan l (f.afterTest r)).setTasks (c.tasks.erase l)).enable drv l := by
  unfold Controller.testComplete at h
  split at h
  · rename_i f htest hf
    exact ⟨f, htest, hf, (Option.some.inj h).symm⟩
  · cases h

theorem testWrites_cases {c c' : Controller} {l : String} {r : TestResult}
    (h : c.testWrites l r = some c') : ∃ f, c.testing? l = some true ∧ c.fan? l = some f ∧
      c' = c.setFan l (f.afterTest r) := by
  unfold Controller.testWrites at h
  split at h
  · rename_i f htest hf
    exact ⟨f, htest, hf, (Option.some.inj h).symm⟩
  · cases h

/-! ## `enable` -/

theorem moves_enableWith {dellFans : String → Controller → Controller}
    (hdell : ∀ l c, Moves c (dellFans l c)) (c : Controller) (l : String) :
    Moves c (enableWith drv dellFans c l) := by
  unfold enableWith
  cases hf : c.fan? l with
  | none => exact .refl
  | some f =>
    have hset : Moves c (c.setFan l (f.tryEnable drv).2) :=
      .single (.control hf (Fan.uncontrolled_tryEnable drv f))
    have hstart : ∀ d, Moves (c.setFan l (f.tryEnable drv).2) d → f.ignore = false →
        (f.tryEnable drv).2.isConfigured = true →
        Moves c (d.setTasks (d.tasks.emplace f.label ⟨false⟩)) := by
      intro d hd hignore hconf
      obtain ⟨g, hg, hgf⟩ := hd.controls.fan? (fan?_setFan_self c l _)
      have hgf' := hgf.trans (Fan.uncontrolled_tryEnable drv f)
      have hsame : g.ignore = f.ignore := Fan.ignore_of_uncontrolled hgf'
      have hgconf : g.isConfigured = true := (Fan.isConfigured_of_uncontrolled hgf).trans hconf
      rw [← Fan.label_of_uncontrolled hgf']
      exact (hset.trans hd).tail (.start hg (hsame.trans hignore) hgconf)
    simp only
    split_ifs with htask hskip htype
    · exact .refl
    · exact hset
    all_goals
      obtain ⟨henabled, hconf⟩ : (f.tryEnable drv).1 = true ∧
        (f.tryEnable drv).2.isConfigured = true := by simpa using hskip
    · exact hstart _ (hdell _ _) (Fan.ignore_of_tryEnable henabled) hconf
    · exact hstart _ .refl (Fan.ignore_of_tryEnable henabled) hconf

theorem moves_enableAlone (c : Controller) (l : String) : Moves c (c.enableAlone drv l) :=
  moves_enableWith (fun _ _ => .refl) c l

theorem moves_enableDellFans (exceptLabel : Option String) (c : Controller) :
    Moves c (c.enableDellFans drv exceptLabel) := by
  refine Loop.foldl_keeps (P := Moves c) (fun s l hs => ?_) .refl _
  unfold enableDellFan
  split_ifs
  · exact hs.trans (moves_enableAlone s l)
  · exact hs

theorem moves_enable (c : Controller) (l : String) : Moves c (c.enable drv l) :=
  moves_enableWith (fun _ c => moves_enableDellFans _ c) c l

theorem moves_enableAll (c : Controller) : Moves c (c.enableAll drv) :=
  Loop.foldl_keeps (P := Moves c) (fun s l hs => hs.trans (moves_enableAlone s l)) .refl _

theorem controls_enableAlone (c : Controller) (l : String) : Controls c (c.enableAlone drv l) :=
  (moves_enableAlone c l).controls

theorem controls_enableDellFans (exceptLabel : Option String) (c : Controller) :
    Controls c (c.enableDellFans drv exceptLabel) := (moves_enableDellFans exceptLabel c).controls

theorem controls_enable (c : Controller) (l : String) : Controls c (c.enable drv l) :=
  (moves_enable c l).controls

theorem controls_enableAll (c : Controller) : Controls c (c.enableAll drv) :=
  (moves_enableAll c).controls

/-! ## `disable` -/

theorem moves_eraseTask {c c' : Controller} {l : String} (h : c.eraseTask drv l = some c') :
    Moves c c' := by
  rcases eraseTask_cases h with ⟨-, rfl⟩ | ⟨hl, -, rfl⟩ | ⟨f, hl, hf, rfl⟩
  · exact .refl
  · exact .single (.stop hl)
  · have hcontrol := Move.control (c := c.setTasks (c.tasks.erase l)) hf
      (Fan.uncontrolled_disableControl drv f)
    exact (Relation.ReflTransGen.single (.stop hl)).tail hcontrol

theorem moves_disableWith {dellFans : String → Controller → Option Controller}
    (hdell : ∀ l c c', dellFans l c = some c' → Moves c c') {c c' : Controller} {l : String}
    (h : disableWith drv dellFans c l = some c') : Moves c c' := by
  rcases disableWith_cases h with ⟨-, rfl⟩ | ⟨d, -, hd, ⟨-, rfl⟩ | ⟨f, hf, hset⟩⟩
  · exact .refl
  · exact moves_eraseTask hd
  · have hcontrol := (moves_eraseTask hd).tail
      (.control hf (Fan.uncontrolled_disableControl drv f))
    split_ifs at hset
    · exact hcontrol.trans (hdell _ _ _ hset)
    · exact hset ▸ hcontrol

theorem moves_disableAlone {c c' : Controller} {l : String}
    (h : c.disableAlone drv l = some c') : Moves c c' :=
  moves_disableWith (fun _ _ _ h => Option.some.inj h ▸ .refl) h

theorem moves_disable {c c' : Controller} {l : String} (h : c.disable drv l = some c') :
    Moves c c' := by
  refine moves_disableWith (fun k d d' hd => ?_) h
  refine Loop.foldlM_keeps (P := Moves d) (fun s a s' hs hstep => ?_) .refl hd
  unfold disableDellFan at hstep
  split_ifs at hstep
  · exact hs.trans (moves_disableAlone hstep)
  · exact Option.some.inj hstep ▸ hs

theorem moves_disableAll {c c' : Controller} (h : c.disableAll drv = some c') : Moves c c' :=
  Loop.foldlM_keeps (P := Moves c) (fun _ _ _ hs hstep => hs.trans (moves_disableAlone hstep))
    .refl h

theorem controls_eraseTask {c c' : Controller} {l : String} (h : c.eraseTask drv l = some c') :
    Controls c c' := (moves_eraseTask h).controls

theorem controls_disableAlone {c c' : Controller} {l : String}
    (h : c.disableAlone drv l = some c') : Controls c c' := (moves_disableAlone h).controls

theorem controls_disable {c c' : Controller} {l : String} (h : c.disable drv l = some c') :
    Controls c c' := (moves_disable h).controls

theorem controls_disableAll {c c' : Controller} (h : c.disableAll drv = some c') :
    Controls c c' := (moves_disableAll h).controls

/-! ## What a reload can do -/

/-- What holds before a merge and after every turn of its loop gives what holds after it, if the
sensors do not matter for that. -/
theorem merge_keeps {P Q : Controller → Prop} {d : Devices} {replaceOnMatch deepCmp : Bool}
    (hturn : ∀ (t t' : MergeState) (e : Sigma fun _ : String => Fan),
      d.fans.find? e.1 = some e.2 → P t.1 → mergeFan drv replaceOnMatch deepCmp t e = some t' →
      P t'.1)
    (hend : ∀ t, P t → Q t) (hdell : ∀ t, P t → Q (t.enableDellFans drv none))
    (hsensors : ∀ t sensors, Q t → Q { t with devices := { t.devices with sensors := sensors } })
    {c c' : Controller} (h : P c) (hmerge : c.merge drv d replaceOnMatch deepCmp = some c') :
    Q c' := by
  unfold merge at hmerge
  obtain ⟨s, hs, hmerge⟩ := Option.bind_eq_some_iff.mp hmerge
  obtain ⟨sensors, -, rfl⟩ := Option.map_eq_some_iff.mp hmerge
  have hloop : P s.1 := by
    refine Loop.foldlM_keeps_turns (P := fun t : MergeState => P t.1)
      (fun t e t' hbefore ht hstep => ?_) h hs
    obtain ⟨before, after, hsplit, -⟩ := hbefore
    have he : e ∈ d.fans.entries := hsplit ▸ by simp
    exact hturn t t' e (UnorderedMap.mem_entries.mp he) ht hstep
  apply hsensors
  split_ifs
  · exact hdell s.1 hloop
  · exact hend s.1 hloop

theorem removeFanNotIn_eq_some {ds : List Devices} {c c' : Controller} {l : String} :
    removeFanNotIn drv ds c l = some c' ↔ (ds.any fun d => d.fans.contains l) = true ∧ c' = c := by
  unfold removeFanNotIn
  split_ifs with hlisted
  · rw [Option.some_inj, and_iff_right hlisted, eq_comm]
  · refine iff_of_false (fun h => ?_) fun h => hlisted h.1
    obtain ⟨d, -, hnone⟩ := Option.bind_eq_some_iff.mp h
    cases hnone

theorem removeSensorNotIn_eq_some {ds : List Devices} {m m' : UnorderedMap String Sensor}
    {l : String} : removeSensorNotIn ds m l = some m' ↔
      (ds.any fun d => d.sensors.contains l) = true ∧ m' = m := by
  unfold removeSensorNotIn
  split_ifs with hlisted
  · rw [Option.some_inj, and_iff_right hlisted, eq_comm]
  · exact iff_of_false not_false fun h => hlisted h.1

/-- `remove_devices_not_in` returns if there is nothing to remove. -/
theorem removeDevicesNotIn_eq_some {ds : List Devices} {c c' : Controller} :
    removeDevicesNotIn drv ds c = some c' ↔
      (∀ l, c.devices.fans.contains l = true → (ds.any fun d => d.fans.contains l) = true) ∧
      (∀ l, c.devices.sensors.contains l = true →
        (ds.any fun d => d.sensors.contains l) = true) ∧ c' = c := by
  have hkeys : ∀ {D : Type} {m : UnorderedMap String D} {l : String},
      l ∈ m.keys ↔ m.contains l = true :=
    UnorderedMap.mem_keys_iff.trans UnorderedMap.contains_iff.symm
  have hfans : ∀ {d : Controller}, c.devices.fans.keys.foldlM (removeFanNotIn drv ds) c = some d ↔
      (∀ l ∈ c.devices.fans.keys, (ds.any fun d => d.fans.contains l) = true) ∧ d = c :=
    Loop.foldlM_eq_some_of_stays fun s l s' => @removeFanNotIn_eq_some drv ds s s' l
  have hsensors : ∀ {m : UnorderedMap String Sensor},
      c.devices.sensors.keys.foldlM (removeSensorNotIn ds) c.devices.sensors = some m ↔
        (∀ l ∈ c.devices.sensors.keys, (ds.any fun d => d.sensors.contains l) = true) ∧
          m = c.devices.sensors :=
    Loop.foldlM_eq_some_of_stays fun m l m' => @removeSensorNotIn_eq_some ds m m' l
  unfold removeDevicesNotIn
  simp only [hkeys] at hfans hsensors
  constructor
  · intro h
    obtain ⟨d, hd, hloop⟩ := Option.bind_eq_some_iff.mp h
    obtain ⟨hlisted, rfl⟩ := hfans.mp hd
    obtain ⟨m, hm, rfl⟩ := Option.map_eq_some_iff.mp hloop
    obtain ⟨hlisted', rfl⟩ := hsensors.mp hm
    exact ⟨hlisted, hlisted', rfl⟩
  · rintro ⟨hlisted, hlisted', rfl⟩
    rw [hfans.mpr ⟨hlisted, rfl⟩, Option.bind_some, hsensors.mpr ⟨hlisted', rfl⟩]
    rfl

/-- A reload that returns has merged and removed nothing. -/
theorem reload_parts {env : Env} {parse : Text → Bool × ControllerMsg} {enumerated : Devices}
    {file : Option Text} {c c' : Controller}
    (h : c.reload drv env parse enumerated file = some c') :
    ∃ c₁, c.merge drv enumerated false false = some c₁ ∧
      ((readConfig parse file = none ∧ c' = c₁ ∧
          removeDevicesNotIn drv [enumerated] c' = some c') ∨
        ∃ msg, readConfig parse file = some msg ∧
          ({ c₁ with settings := c₁.settings.load msg.config } : Controller).merge drv
            (Devices.load env msg.devices) true true = some c' ∧
          removeDevicesNotIn drv [enumerated, Devices.load env msg.devices] c' = some c') := by
  unfold reload reloadFrom at h
  obtain ⟨c₁, h₁, h⟩ := Option.bind_eq_some_iff.mp h
  refine ⟨c₁, h₁, ?_⟩
  cases hmsg : readConfig parse file with
  | none =>
    simp only [hmsg, Option.map_none] at h
    obtain ⟨-, -, rfl⟩ := removeDevicesNotIn_eq_some.mp h
    exact Or.inl ⟨rfl, rfl, h⟩
  | some msg =>
    simp only [hmsg, Option.map_some] at h
    obtain ⟨c₂, h₂, h⟩ := Option.bind_eq_some_iff.mp h
    obtain ⟨-, -, rfl⟩ := removeDevicesNotIn_eq_some.mp h
    exact Or.inr ⟨msg, rfl, h₂, h⟩

/-! ## `recover` -/

theorem moves_recover (c : Controller) : Moves c (c.recover drv) := by
  refine Loop.foldl_keeps (P := Moves c) (fun s l hs => ?_) .refl _
  unfold recoverFan
  cases hf : s.fan? l with
  | none => exact hs
  | some f => exact hs.tail (.control hf (Fan.uncontrolled_enableControl drv f))

theorem controls_recover (c : Controller) : Controls c (c.recover drv) := (moves_recover c).controls

end Controller

end Fancon
