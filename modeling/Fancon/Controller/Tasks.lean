import Fancon.Controller.System

/-! # The fans of the tasks

`disable` only ends tasks (`Stops`), and the one it is called for has ended when it returns. In
every state of a run, a task that is not a test is that of a fan that is there, not ignored and
configured (`tended_of_reachable`).
-/
set_option autoImplicit false
set_option maxHeartbeats 250000
set_option maxRecDepth 120000

namespace Fancon

namespace Controller

variable {drv : Driver} {parse : Text → Bool × ControllerMsg} {c c' : Controller}

/-! ## Tasks that end -/

def Stops (c c' : Controller) : Prop :=
  ∀ k t, c'.tasks.find? k = some t → c.tasks.find? k = some t

theorem Stops.refl (c : Controller) : Stops c c := fun _ _ h => h

theorem Stops.trans {a b c : Controller} (hab : Stops a b) (hbc : Stops b c) : Stops a c :=
  fun k t h => hab k t (hbc k t h)

theorem Stops.gone (h : Stops c c') {k : String} (hk : c.tasks.find? k = none) :
    c'.tasks.find? k = none := by
  refine Option.eq_none_iff_forall_ne_some.mpr fun t ht => ?_
  rw [h k t ht] at hk
  cases hk

theorem stops_erase (c : Controller) (l : String) : Stops c (c.setTasks (c.tasks.erase l)) := by
  intro k t h
  rw [tasks_setTasks, SortedMap.find?_erase] at h
  split_ifs at h
  exact h

theorem stops_eraseTask {l : String} (h : c.eraseTask drv l = some c') : Stops c c' := by
  rcases eraseTask_cases h with ⟨-, rfl⟩ | ⟨-, -, rfl⟩ | ⟨f, -, -, rfl⟩
  · exact Stops.refl c'
  · exact stops_erase c l
  · exact stops_erase c l

theorem tasks_eraseTask {l k : String} (h : c.eraseTask drv l = some c') (hk : k ≠ l) :
    c'.tasks.find? k = c.tasks.find? k := by
  have herase : (c.tasks.erase l).find? k = c.tasks.find? k := by
    rw [SortedMap.find?_erase, if_neg hk]
  rcases eraseTask_cases h with ⟨-, rfl⟩ | ⟨-, -, rfl⟩ | ⟨f, -, -, rfl⟩
  · rfl
  · exact herase
  · exact herase

/-- `disable` ends tasks, among them that of its label. -/
theorem stops_disableWith {dellFans : String → Controller → Option Controller}
    (hdell : ∀ l c c', dellFans l c = some c' → Stops c c') {l : String}
    (h : disableWith drv dellFans c l = some c') : Stops c c' ∧ c'.tasks.find? l = none := by
  rcases disableWith_cases h with ⟨hnone, rfl⟩ | ⟨d, -, hd, ⟨-, rfl⟩ | ⟨f, -, hset⟩⟩
  · exact ⟨Stops.refl c', hnone⟩
  · exact ⟨stops_eraseTask hd, (eraseTask_untested hd).2⟩
  · have herase := stops_eraseTask hd
    have hgone := (eraseTask_untested hd).2
    split_ifs at hset
    · have hrest : Stops (d.setFan l (f.disableControl drv)) c' := hdell _ _ _ hset
      exact ⟨herase.trans hrest, hrest.gone hgone⟩
    · exact hset ▸ ⟨herase, hgone⟩

theorem stops_disableAlone {l : String} (h : c.disableAlone drv l = some c') :
    Stops c c' ∧ c'.tasks.find? l = none :=
  stops_disableWith (fun _ c _ h => Option.some.inj h ▸ Stops.refl c) h

theorem tasks_disableAlone {l k : String} (h : c.disableAlone drv l = some c') (hk : k ≠ l) :
    c'.tasks.find? k = c.tasks.find? k := by
  rcases disableWith_cases h with ⟨-, rfl⟩ | ⟨d, -, hd, ⟨-, rfl⟩ | ⟨f, -, hset⟩⟩
  · rfl
  · exact tasks_eraseTask hd hk
  · have herase := tasks_eraseTask hd hk
    split_ifs at hset
    · exact Option.some.inj hset ▸ herase
    · exact hset ▸ herase

theorem stops_disable {l : String} (h : c.disable drv l = some c') :
    Stops c c' ∧ c'.tasks.find? l = none := by
  refine stops_disableWith (fun k d d' hd => ?_) h
  refine Loop.foldlM_keeps (P := Stops d) (fun s a s' hs hstep => ?_) (Stops.refl d) hd
  unfold disableDellFan at hstep
  split_ifs at hstep
  · exact hs.trans (stops_disableAlone hstep).1
  · exact Option.some.inj hstep ▸ hs

theorem tasks_disableAll (h : c.disableAll drv = some c') (k : String) :
    c'.tasks.find? k = none := by
  have hall : ∀ (ks : List String) (d d' : Controller), ks.foldlM (disableAlone drv) d = some d' →
      Stops d d' ∧ ∀ k ∈ ks, d'.tasks.find? k = none := by
    intro ks
    induction ks with
    | nil =>
      intro d d' hd
      exact Option.some.inj hd ▸ ⟨Stops.refl d, nofun⟩
    | cons l ks ih =>
      intro d d' hd
      rw [List.foldlM_cons] at hd
      obtain ⟨e, he, hd⟩ := Option.bind_eq_some_iff.mp hd
      obtain ⟨hstops, hgone⟩ := stops_disableAlone he
      obtain ⟨hrest, hks⟩ := ih e d' hd
      refine ⟨hstops.trans hrest, fun k hk => ?_⟩
      rcases List.mem_cons.mp hk with rfl | hk
      · exact hrest.gone hgone
      · exact hks k hk
  obtain ⟨hstops, hgone⟩ := hall _ _ _ h
  by_cases hk : k ∈ c.tasks.keys
  · exact hgone k hk
  · apply hstops.gone
    have hcontains : ¬ c.tasks.contains k = true := fun h => hk (SortedMap.contains_iff.mp h)
    simpa [SortedMap.contains] using hcontains

/-! ## The fan of an enabled task -/

def Tended (c : Controller) : Prop :=
  ∀ l, c.testing? l = some false → ∃ f, c.fan? l = some f ∧ f.ignore = false ∧
    f.isConfigured = true

theorem testing?_of_none {l : String} (h : c.tasks.find? l = none) : c.testing? l = none := by
  rw [testing?, h, Option.map_none]

theorem testing?_eq_none {l : String} : c.testing? l = none ↔ c.tasks.contains l = false := by
  rw [testing?, Option.map_eq_none_iff, SortedMap.contains]
  cases c.tasks.find? l <;> simp

theorem Stops.testing? (h : Stops c c') {k : String} {b : Bool} (hk : c'.testing? k = some b) :
    c.testing? k = some b := by
  obtain ⟨t, ht, rfl⟩ := Option.map_eq_some_iff.mp hk
  exact Option.map_eq_some_iff.mpr ⟨t, h k t ht, rfl⟩

theorem testing?_emplace (c : Controller) (l k : String) (b : Bool) :
    (c.setTasks (c.tasks.emplace l ⟨b⟩)).testing? k =
      if k = l then some ((c.testing? l).getD b) else c.testing? k := by
  rw [testing?, tasks_setTasks, SortedMap.find?_emplace]
  split_ifs
  · rw [testing?]
    cases c.tasks.find? l <;> rfl
  · rfl

/-- The fans of `c'` agree with those of `c` in what enabling looks at. -/
theorem Tended.of_fans (h : Tended c) (htasks : ∀ l, c'.testing? l = some false →
    c.testing? l = some false)
    (hfans : ∀ l f, c'.testing? l = some false → c.fan? l = some f → ∃ g, c'.fan? l = some g ∧
      g.ignore = f.ignore ∧ g.isConfigured = f.isConfigured) : Tended c' := by
  intro l hl
  obtain ⟨f, hf, hignore, hconf⟩ := h l (htasks l hl)
  obtain ⟨g, hg, hgignore, hgconf⟩ := hfans l f hl hf
  exact ⟨g, hg, hgignore.trans hignore, hgconf.trans hconf⟩

theorem same_of_uncontrolled {f g : Fan} (h : g.uncontrolled = f.uncontrolled) :
    g.ignore = f.ignore ∧ g.isConfigured = f.isConfigured :=
  ⟨Fan.ignore_of_uncontrolled h, Fan.isConfigured_of_uncontrolled h⟩

theorem Tended.move (h : Tended c) (hc : Labelled c) (hmove : Move c c') : Tended c' := by
  have hcontrols : Controls c c' := Moves.controls (.single hmove)
  cases hmove with
  | control _ _ =>
    refine h.of_fans (fun _ => id) fun l f _ hf => ?_
    obtain ⟨g, hg, hgf⟩ := hcontrols.fan? hf
    exact ⟨g, hg, same_of_uncontrolled hgf⟩
  | @start l f hf hignore hconf =>
    intro k hk
    rw [testing?_emplace] at hk
    split_ifs at hk with hkl
    · subst hkl
      exact ⟨f, (hc l f hf).symm ▸ hf, hignore, hconf⟩
    · exact h k hk
  | @stop l _ => exact h.of_fans (fun k hk => (stops_erase c l).testing? hk) fun _ f _ hf =>
      ⟨f, hf, rfl, rfl⟩

theorem Tended.moves (h : Tended c) (hc : Labelled c) (hmoves : Moves c c') : Tended c' := by
  induction hmoves with
  | refl => exact h
  | tail hbefore hmove ih => exact ih.move (hc.controls (Moves.controls hbefore)) hmove

theorem Tended.test (h : Tended c) (hc : Labelled c) {l : String} {forced blocking : Bool}
    (htest : c.test drv l forced blocking = some c') : Tended c' := by
  rcases test_cases htest with rfl | ⟨f, d, -, -, -, hd, rfl⟩
  · exact h
  · have hd' := h.moves hc (moves_eraseTask hd)
    intro k hk
    rw [testing?_emplace, testing?_of_none (eraseTask_untested hd).2] at hk
    split_ifs at hk
    · cases hk
    · exact hd' k hk

theorem Tended.testWrites (h : Tended c) {l : String} {r : TestResult}
    (htest : c.testWrites l r = some c') : Tended c' := by
  obtain ⟨f, -, hf, rfl⟩ := testWrites_cases htest
  refine h.of_fans (fun _ => id) fun k g _ hg => ?_
  rw [fan?_setFan]
  split_ifs with hk
  · rw [hk, hf] at hg
    obtain rfl := Option.some.inj hg
    exact ⟨_, rfl, rfl, rfl⟩
  · exact ⟨g, hg, rfl, rfl⟩

theorem Tended.testComplete (h : Tended c) (hwf : WellFormed c) {l : String} {r : TestResult}
    (htest : c.testComplete drv l r = some c') : Tended c' := by
  obtain ⟨f, -, hf, rfl⟩ := testComplete_cases htest
  have hset := hwf.setFan (g := f.afterTest r) hf rfl (f.hwId_afterTest r) rfl
  refine Tended.moves ?_ (hset.erase l).labelled (moves_enable _ l)
  refine h.of_fans (fun k hk => (stops_erase (c.setFan l (f.afterTest r)) l).testing? hk)
    fun k g _ hg => ?_
  rw [fan?_setTasks, fan?_setFan]
  split_ifs with hk
  · rw [hk, hf] at hg
    obtain rfl := Option.some.inj hg
    exact ⟨_, rfl, rfl, rfl⟩
  · exact ⟨g, hg, rfl, rfl⟩

/-! ## `merge` -/

theorem Tended.reInsertFan (h : Tended c) {old new : String} (f : Fan)
    (hold : c.testing? old = none) : Tended (c.reInsertFan old new f) := by
  refine h.of_fans (fun _ => id) fun l g hl hg => ⟨g, fan?_reInsertFan_of_ne ?_ hg, rfl, rfl⟩
  rintro rfl
  cases hold.symm.trans hl

theorem Tended.mergeFan {s s' : MergeState} (h : Tended s.1) (hwf : WellFormed s.1)
    {replaceOnMatch deepCmp : Bool} {e : Sigma fun _ : String => Fan} (he : e.2.label = e.1)
    (hturn : mergeFan drv replaceOnMatch deepCmp s e = some s') : Tended s'.1 := by
  rcases mergeFan_cases hturn with rfl | rfl | ⟨old, x, -, -, -, -, hmatch⟩
  · exact h.of_fans (fun _ => id) fun l f _ hf => ⟨f, fan?_addFan_of_some hf, rfl, rfl⟩
  · exact h
  · rcases onMatchFan_cases hmatch with ⟨hnone, rfl | ⟨-, rfl⟩⟩ | ⟨-, d, hd, rfl⟩
    · exact h.reInsertFan e.2 hnone
    · exact (h.reInsertFan e.2 hnone).moves (hwf.labelled.reInsertFan he) (moves_enableAlone _ _)
    · have hmoves := moves_disableAlone hd
      have hlabelled := hwf.labelled.controls hmoves.controls
      have hnone := testing?_of_none (stops_disableAlone hd).2
      exact ((h.moves hwf.labelled hmoves).reInsertFan e.2 hnone).moves (hlabelled.reInsertFan he)
        (moves_enableAlone _ _)

theorem Tended.merge (h : Tended c) (hwf : WellFormed c) {d : Devices} (hd : d.Fresh)
    {replaceOnMatch deepCmp : Bool} (hmerge : c.merge drv d replaceOnMatch deepCmp = some c') :
    Tended c' := by
  refine merge_keeps (P := fun t => WellFormed t ∧ Tended t) (Q := Tended)
    (fun t t' e he ht hstep => ?_) (fun t ht => ht.2) (fun t ht => ?_) (fun t sensors ht => ht)
    ⟨hwf, h⟩ hmerge
  · have hlabel := (hd e.1 e.2 he).1
    exact ⟨ht.1.mergeFan hlabel hstep, ht.2.mergeFan ht.1 hlabel hstep⟩
  · exact ht.2.moves ht.1.labelled (moves_enableDellFans none t)

/-! ## `reload` and `set_devices` -/

theorem Tended.reload (h : Tended c) (hwf : WellFormed c) {env : Env} {found : Found}
    {file : Option Text}
    (hreload : c.reload drv env parse (Devices.enumerate found) file = some c') : Tended c' := by
  obtain ⟨c₁, h₁, hrest⟩ := reload_parts hreload
  have hwf₁ := hwf.merge (Devices.fresh_enumerate found) h₁
  have hc₁ := h.merge hwf (Devices.fresh_enumerate found) h₁
  rcases hrest with ⟨-, rfl, -⟩ | ⟨msg, -, h₂, -⟩
  · exact hc₁
  · have hload : Tended { c₁ with settings := c₁.settings.load msg.config } := hc₁
    exact hload.merge (hwf₁.withSettings _) (Devices.fresh_load env msg.devices) h₂

theorem tended_setDevices {env : Env} {d : DevicesMsg} (h : c.setDevices drv env d = some c') :
    Tended c' := by
  obtain ⟨c₁, h₁, rfl⟩ := Option.map_eq_some_iff.mp h
  have hidle : Tended { c₁ with devices := Devices.load env d } := by
    intro l hl
    cases (testing?_of_none (tasks_disableAll h₁ l)).symm.trans hl
  exact hidle.moves (fun l f hf => (Devices.fresh_load env d l f hf).1) (moves_enableAll _)

/-! ## Every run -/

theorem Tended.perform (h : Tended c) (hwf : WellFormed c) {op : Operation}
    (hop : c.perform drv parse op = some c') : Tended c' := by
  cases op with
  | enable l => exact Option.some.inj hop ▸ h.moves hwf.labelled (moves_enable c l)
  | enableAll => exact Option.some.inj hop ▸ h.moves hwf.labelled (moves_enableAll c)
  | disable l => exact h.moves hwf.labelled (moves_disable hop)
  | disableAll => exact h.moves hwf.labelled (moves_disableAll hop)
  | test l forced blocking => exact h.test hwf.labelled hop
  | testWrites l r => exact h.testWrites hop
  | testComplete l r => exact h.testComplete hwf hop
  | reload env found file => exact h.reload hwf hop
  | setDevices env d => exact tended_setDevices hop
  | recover => exact Option.some.inj hop ▸ h.moves hwf.labelled (moves_recover c)

/-- **In every state of every run the fan of an enabled task is configured.** -/
theorem tended_of_reachable {drivers : Driver → Prop} {ok : Controller → Operation → Prop}
    (h : Transition.ReachableWhen (system parse drivers) ok c) : Tended c := by
  refine (Transition.ReachableWhen.invariant (fun c => WellFormed c ∧ Tended c) ?_ ?_ h).2
  · rintro _ rfl
    exact ⟨wellFormed_start, fun _ h => by cases h⟩
  · rintro c op c' ⟨hwf, hc⟩ - ⟨drv, -, hstep⟩
    exact ⟨hwf.perform hstep, hc.perform hwf hstep⟩

end Controller

end Fancon
