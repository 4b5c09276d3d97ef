import Fancon.Controller.System

/-! # Fans under manual control

`enable` takes control of a fan before it asks whether the fan is configured, and does not give it
back when it is not. So a fan may be left under manual control with no task. It is not as long as
every call of `enable` is made on a fan that is settled: one that has a task, is ignored or is
configured (`manual_fans_have_tasks`).
-/
set_option autoImplicit false
set_option maxHeartbeats 250000
set_option maxRecDepth 120000

namespace Fancon

namespace Controller

/-! ## Settled fans -/

/-- The fan of a label has a task, is ignored or is configured. -/
def Settled (c : Controller) (l : String) : Prop :=
  ∀ f, c.fan? l = some f → c.tasks.contains f.label = false → f.ignore = false →
    f.isConfigured = true

def DellSettled (c : Controller) (exceptLabel : Option String) : Prop :=
  ∀ l f, c.fan? l = some f → f.type = .dell → exceptLabel ≠ some l → Settled c l

def EnableSettled (c : Controller) (l : String) : Prop :=
  Settled c l ∧ ∀ f, c.fan? l = some f → c.tasks.contains f.label = false → f.ignore = false →
    f.type = .dell → DellSettled c (some f.label)

/-- If `e` replaces an enabled fan in this turn of the loop of `merge`, the fan that is then
enabled is settled. -/
def TurnSettled (s : MergeState) (e : Sigma fun _ : String => Fan) : Prop :=
  ∀ old x c, s.1.fan? old = some x → x.hwId = e.2.hwId →
    ReplacesOnMatch true true e.2.save x.save → s.1.testing? old = some false →
    s.1.disableAlone willingDriver old = some c → Settled (c.reInsertFan old e.1 e.2) e.1

def MergeSettled (c : Controller) (d : Devices) : Prop :=
  (∀ s e, Loop.Turn (mergeFan willingDriver true true) (c, false) d.fans.entries s e →
    TurnSettled s e) ∧
  ∀ s, d.fans.entries.foldlM (mergeFan willingDriver true true) (c, false) = some s →
    s.2 = true → DellSettled s.1 none

/-- Every call of `enable` that the operation makes is on a settled fan. -/
def EnablesSettled (parse : Text → Bool × ControllerMsg) (c : Controller) : Operation → Prop
  | .enable l => EnableSettled c l
  | .enableAll => ∀ l, Settled c l
  | .testComplete l r => ∀ f, c.testing? l = some true → c.fan? l = some f →
      EnableSettled ((c.setFan l (f.afterTest r)).setTasks (c.tasks.erase l)) l
  | .reload env found (some text) => ∀ c₁,
      c.merge willingDriver (Devices.enumerate found) false false = some c₁ →
      MergeSettled { c₁ with settings := c₁.settings.load (parse text).2.config }
        (Devices.load env (parse text).2.devices)
  | .setDevices env d => ∀ l f, (Devices.load env d).fans.find? l = some f → f.ignore = false →
      f.isConfigured = true
  | .disable _ | .disableAll | .test _ _ _ | .testWrites _ _ | .reload _ _ none | .recover => True

variable {c c' : Controller}

theorem Settled.controls {l : String} (hs : Settled c l) (h : Controls c c')
    (htasks : ∀ k, c.tasks.contains k = true → c'.tasks.contains k = true) : Settled c' l := by
  intro g hg hfree hignore
  obtain ⟨f, hf, hfg⟩ := h.fan?_back hg
  have hlabel := Fan.label_of_uncontrolled hfg
  rw [← Fan.isConfigured_of_uncontrolled hfg]
  refine hs f hf ?_ ((Fan.ignore_of_uncontrolled hfg).trans hignore)
  rw [hlabel]
  cases hc : c.tasks.contains g.label with
  | false => rfl
  | true =>
    rw [htasks _ hc] at hfree
    cases hfree

theorem DellSettled.controls {exceptLabel : Option String} (hs : DellSettled c exceptLabel)
    (h : Controls c c') (htasks : ∀ k, c.tasks.contains k = true → c'.tasks.contains k = true) :
    DellSettled c' exceptLabel := by
  intro l g hg htype hl
  obtain ⟨f, hf, hfg⟩ := h.fan?_back hg
  exact (hs l f hf ((Fan.type_of_uncontrolled hfg).trans htype) hl).controls h htasks

/-! ## The fans under manual control -/

/-- A fan under manual control has a task, unless its label is one of `p`. -/
def Driven (p : String → Prop) (c : Controller) : Prop :=
  ∀ l f, c.fan? l = some f → f.enabled = true → c.tasks.contains l = true ∨ p l

theorem Driven.mono {p q : String → Prop} (h : Driven p c) (hpq : ∀ l, p l → q l) : Driven q c :=
  fun l f hf henabled => (h l f hf henabled).imp_right (hpq l)

theorem Driven.setFan {p : String → Prop} (h : Driven p c) {l : String} {f : Fan}
    (hf : f.enabled = true → c.tasks.contains l = true ∨ p l) : Driven p (c.setFan l f) := by
  intro k g hg henabled
  rw [fan?_setFan] at hg
  split_ifs at hg with hk
  · obtain rfl := Option.some.inj hg
    exact hk ▸ hf henabled
  · exact h k g hg henabled

theorem Driven.emplace {p : String → Prop} {l : String} (h : Driven (fun k => p k ∨ k = l) c)
    (t : Task) : Driven p (c.setTasks (c.tasks.emplace l t)) := by
  intro k f hf henabled
  rw [tasks_setTasks, SortedMap.contains_emplace]
  rcases h k f hf henabled with h | h | h
  · exact Or.inl (Or.inl h)
  · exact Or.inr h
  · exact Or.inl (Or.inr h)

/-! ## `enable` -/

theorem driven_enableWith_of_free {p : String → Prop}
    {dellFans : String → Controller → Controller} {l : String} {f : Fan} (hf : c.fan? l = some f)
    (hlabel : f.label = l) (hfree : c.tasks.contains f.label = false) (hignore : f.ignore = false)
    (hconf : f.isConfigured = true) (h : Driven (fun k => p k ∨ k = l) c)
    (hdell : f.type = .dell → Driven (fun k => p k ∨ k = l)
      (dellFans f.label (c.setFan l { f with enabled := true }))) :
    Driven p (enableWith willingDriver dellFans c l) := by
  have htry : f.tryEnable willingDriver = (true, { f with enabled := true }) := by
    simp [Fan.tryEnable, Fan.enableControl, willingDriver, hignore]
  have hconf' : ({ f with enabled := true } : Fan).isConfigured = true := hconf
  unfold enableWith
  simp only [hf, hfree, htry, hconf', Bool.not_true, Bool.or_self, Bool.false_eq_true, if_false]
  rw [hlabel] at hdell ⊢
  split_ifs with htype
  · exact (hdell htype).emplace _
  · exact (h.setFan fun _ => Or.inr (Or.inr rfl)).emplace _

theorem driven_enableWith_of_idle {p : String → Prop}
    {dellFans : String → Controller → Controller} {l : String}
    (hidle : ∀ f, c.fan? l = some f → c.tasks.contains f.label = true ∨ f.ignore = true)
    (h : Driven p c) : Driven p (enableWith willingDriver dellFans c l) := by
  unfold enableWith
  cases hf : c.fan? l with
  | none => exact h
  | some f =>
    simp only
    split_ifs with htask hskip
    · exact h
    all_goals
      have hignore : f.ignore = true := (hidle f hf).resolve_left htask
      have htry : f.tryEnable willingDriver = (false, f) := by simp [Fan.tryEnable, hignore]
    · rw [htry]
      exact h.setFan (h l f hf)
    all_goals simp [htry] at hskip

/-- `enable` of a settled fan leaves no fan undriven. -/
theorem driven_enableWith {p : String → Prop} {dellFans : String → Controller → Controller}
    {l : String} (hc : Labelled c) (hs : Settled c l) (h : Driven p c)
    (hdell : ∀ f, c.fan? l = some f → c.tasks.contains f.label = false → f.ignore = false →
      f.type = .dell → Driven (fun k => p k ∨ k = l)
        (dellFans f.label (c.setFan l { f with enabled := true }))) :
    Driven p (enableWith willingDriver dellFans c l) := by
  by_cases hfree : ∃ f, c.fan? l = some f ∧ c.tasks.contains f.label = false ∧ f.ignore = false
  · obtain ⟨f, hf, hfree, hignore⟩ := hfree
    exact driven_enableWith_of_free hf (hc l f hf) hfree hignore (hs f hf hfree hignore)
      (h.mono fun _ => Or.inl) (hdell f hf hfree hignore)
  · refine driven_enableWith_of_idle (fun f hf => ?_) h
    by_contra hnot
    obtain ⟨htask, hignore⟩ := not_or.mp hnot
    exact hfree ⟨f, hf, Bool.eq_false_iff.mpr htask, Bool.eq_false_iff.mpr hignore⟩

theorem driven_enableAlone {p : String → Prop} {l : String} (hc : Labelled c) (hs : Settled c l)
    (h : Driven p c) : Driven p (c.enableAlone willingDriver l) :=
  driven_enableWith hc hs h fun _ _ _ _ _ =>
    (h.mono fun _ => Or.inl).setFan fun _ => Or.inr (Or.inr rfl)

theorem tasks_enableAlone (drv : Driver) (c : Controller) (l : String) {k : String}
    (hk : c.tasks.contains k = true) : (c.enableAlone drv l).tasks.contains k = true := by
  unfold enableAlone enableWith
  cases c.fan? l with
  | none => exact hk
  | some f =>
    simp only
    split_ifs
    · exact hk
    · exact hk
    · exact SortedMap.contains_emplace.mpr (Or.inl hk)
    · exact SortedMap.contains_emplace.mpr (Or.inl hk)

theorem driven_enableDellFans {p : String → Prop} {exceptLabel : Option String} (hc : Labelled c)
    (hs : DellSettled c exceptLabel) (h : Driven p c) :
    Driven p (c.enableDellFans willingDriver exceptLabel) := by
  refine (Loop.foldl_keeps (P := fun t => Labelled t ∧ DellSettled t exceptLabel ∧ Driven p t)
    (fun t k ht => ?_) ⟨hc, hs, h⟩ _).2.2
  obtain ⟨hlabelled, hsettled, hdriven⟩ := ht
  unfold enableDellFan
  split_ifs with hdell
  · obtain ⟨f, hf, htype⟩ := (Option.any_eq_true _ _).mp hdell.1
    have hk := hsettled k f hf (of_decide_eq_true htype) hdell.2
    have hcontrols := @controls_enableAlone willingDriver t k
    exact ⟨hlabelled.controls hcontrols,
      hsettled.controls hcontrols fun _ => tasks_enableAlone willingDriver t k,
      driven_enableAlone hlabelled hk hdriven⟩
  · exact ⟨hlabelled, hsettled, hdriven⟩

theorem EnableSettled.driven_dell {p : String → Prop} {l : String} {f : Fan} (hc : Labelled c)
    (hs : EnableSettled c l) (hf : c.fan? l = some f) (hfree : c.tasks.contains f.label = false)
    (hignore : f.ignore = false) (h : Driven (fun k => p k ∨ k = l) c) (htype : f.type = .dell) :
    Driven (fun k => p k ∨ k = l) ((c.setFan l { f with enabled := true }).enableDellFans
      willingDriver (some f.label)) := by
  have hcontrols : Controls c (c.setFan l { f with enabled := true }) := controls_setFan hf rfl
  exact driven_enableDellFans (hc.controls hcontrols)
    ((hs.2 f hf hfree hignore htype).controls hcontrols fun _ => id)
    (h.setFan fun _ => Or.inr (Or.inr rfl))

theorem driven_enable {p : String → Prop} {l : String} (hc : Labelled c) (hs : EnableSettled c l)
    (h : Driven p c) : Driven p (c.enable willingDriver l) :=
  driven_enableWith hc hs.1 h fun _ hf hfree hignore htype =>
    hs.driven_dell hc hf hfree hignore (h.mono fun _ => Or.inl) htype

theorem driven_enableAll {p : String → Prop} (hc : Labelled c) (hs : ∀ l, Settled c l)
    (h : Driven p c) : Driven p (c.enableAll willingDriver) := by
  refine (Loop.foldl_keeps (P := fun t => Labelled t ∧ (∀ l, Settled t l) ∧ Driven p t)
    (fun t k ht => ?_) ⟨hc, hs, h⟩ _).2.2
  obtain ⟨hlabelled, hsettled, hdriven⟩ := ht
  have hcontrols := @controls_enableAlone willingDriver t k
  exact ⟨hlabelled.controls hcontrols,
    fun l => (hsettled l).controls hcontrols fun _ => tasks_enableAlone willingDriver t k,
    driven_enableAlone hlabelled (hsettled k) hdriven⟩

/-! ## `disable` -/

/-- A fan whose task is erased is not under manual control any more. -/
theorem driven_eraseTask {p : String → Prop} {l : String}
    (h : c.eraseTask willingDriver l = some c') (hc : Driven p c) : Driven p c' := by
  have herase : Driven (fun k => p k ∨ k = l) (c.setTasks (c.tasks.erase l)) := by
    intro k f hf henabled
    rw [tasks_setTasks, SortedMap.contains_erase]
    by_cases hk : k = l
    · exact Or.inr (Or.inr hk)
    · exact (hc k f hf henabled).imp (fun h => ⟨hk, h⟩) Or.inl
  rcases eraseTask_cases h with ⟨-, rfl⟩ | ⟨-, hf, rfl⟩ | ⟨f, -, -, rfl⟩
  · exact hc
  · intro k f hk henabled
    apply (herase k f hk henabled).imp_right
    refine fun h => h.resolve_right ?_
    rintro rfl
    rw [fan?_setTasks, hf] at hk
    cases hk
  · intro k g hg henabled
    rw [fan?_setFan] at hg
    split_ifs at hg with hk
    · obtain rfl := Option.some.inj hg
      cases henabled
    · exact (herase k g hg henabled).imp_right fun h => h.resolve_right hk

theorem driven_disableWith {p : String → Prop} {dellFans : String → Controller → Option Controller}
    (hdell : ∀ k t t', dellFans k t = some t' → Driven p t → Driven p t') {l : String}
    (h : disableWith willingDriver dellFans c l = some c') (hc : Driven p c) : Driven p c' := by
  rcases disableWith_cases h with ⟨-, rfl⟩ | ⟨d, -, hd, ⟨-, rfl⟩ | ⟨f, -, hset⟩⟩
  · exact hc
  · exact driven_eraseTask hd hc
  · have hdriven : Driven p (d.setFan l (f.disableControl willingDriver)) :=
      (driven_eraseTask hd hc).setFan fun henabled => nomatch henabled
    split_ifs at hset
    · exact hdell _ _ _ hset hdriven
    · exact hset ▸ hdriven

theorem driven_disableAlone {p : String → Prop} {l : String}
    (h : c.disableAlone willingDriver l = some c') (hc : Driven p c) : Driven p c' :=
  driven_disableWith (fun _ _ _ h ht => Option.some.inj h ▸ ht) h hc

theorem driven_disable {p : String → Prop} {l : String} (h : c.disable willingDriver l = some c')
    (hc : Driven p c) : Driven p c' := by
  refine driven_disableWith (fun k t t' ht hdriven => ?_) h hc
  refine Loop.foldlM_keeps (fun s j s' hs hstep => ?_) hdriven ht
  unfold disableDellFan at hstep
  split_ifs at hstep
  · exact driven_disableAlone hstep hs
  · exact Option.some.inj hstep ▸ hs

theorem driven_disableAll {p : String → Prop} (h : c.disableAll willingDriver = some c')
    (hc : Driven p c) : Driven p c' :=
  Loop.foldlM_keeps (fun _ _ _ hs hstep => driven_disableAlone hstep hs) hc h

/-! ## `test` and `recover` -/

theorem driven_test {p : String → Prop} {l : String} {forced blocking : Bool}
    (h : c.test willingDriver l forced blocking = some c') (hc : Driven p c) : Driven p c' := by
  rcases test_cases h with rfl | ⟨f, d, -, -, -, hd, rfl⟩
  · exact hc
  · exact ((driven_eraseTask hd hc).mono fun _ => Or.inl).emplace _

theorem driven_testWrites {p : String → Prop} {l : String} {r : TestResult}
    (h : c.testWrites l r = some c') (hc : Driven p c) : Driven p c' := by
  obtain ⟨f, htests, -, rfl⟩ := testWrites_cases h
  intro k x hx henabled
  rw [fan?_setFan] at hx
  split_ifs at hx with hk
  · refine Or.inl ?_
    show c.tasks.contains k = true
    rw [hk, SortedMap.contains, tests_iff.mp htests]
    rfl
  · exact hc k x hx henabled

theorem driven_testComplete {p : String → Prop} {l : String} {r : TestResult} (hwf : WellFormed c)
    (hs : ∀ f, c.testing? l = some true → c.fan? l = some f →
      EnableSettled ((c.setFan l (f.afterTest r)).setTasks (c.tasks.erase l)) l)
    (h : c.testComplete willingDriver l r = some c') (hc : Driven p c) : Driven p c' := by
  obtain ⟨f, htests, hf, rfl⟩ := testComplete_cases h
  have hsettled := hs f htests hf
  obtain ⟨g, hg, hignore⟩ := hwf.testsKnown l htests
  obtain rfl := Option.some.inj (hf.symm.trans hg)
  have hwf' := (hwf.setFan (g := f.afterTest r) hf rfl (f.hwId_afterTest r) rfl).erase l
  have hfan : ((c.setFan l (f.afterTest r)).setTasks (c.tasks.erase l)).fan? l =
      some (f.afterTest r) := by
    rw [fan?_setTasks, fan?_setFan, if_pos rfl]
  have hlabel : (f.afterTest r).label = l := hwf.labelled l f hf
  have hfree : ((c.setFan l (f.afterTest r)).setTasks (c.tasks.erase l)).tasks.contains
      (f.afterTest r).label = false := by
    rw [Bool.eq_false_iff, hlabel, tasks_setTasks, ne_eq, SortedMap.contains_erase]
    exact fun h => h.1 rfl
  have hdriven : Driven (fun k => p k ∨ k = l)
      ((c.setFan l (f.afterTest r)).setTasks (c.tasks.erase l)) := by
    intro k x hx henabled
    rw [tasks_setTasks, SortedMap.contains_erase]
    rw [fan?_setTasks, fan?_setFan] at hx
    split_ifs at hx with hk
    · exact Or.inr (Or.inr hk)
    · exact (hc k x hx henabled).imp (fun h => ⟨hk, h⟩) Or.inl
  exact driven_enableWith_of_free hfan hlabel hfree hignore
    (hsettled.1 _ hfan hfree hignore) hdriven
    (hsettled.driven_dell hwf'.labelled hfan hfree hignore hdriven)

/-- Only fans that have a task are brought under manual control again. -/
theorem driven_recover {p : String → Prop} (drv : Driver) (hc : Driven p c) :
    Driven p (c.recover drv) := by
  refine (Loop.foldl_keeps_mem (P := fun t => t.tasks = c.tasks ∧ Driven p t)
    (fun t l hl ht => ?_) ⟨rfl, hc⟩).2
  obtain ⟨htasks, hdriven⟩ := ht
  unfold recoverFan
  cases hf : t.fan? l with
  | none => exact ⟨htasks, hdriven⟩
  | some f =>
    refine ⟨htasks, hdriven.setFan fun _ => Or.inl ?_⟩
    rw [htasks]
    exact SortedMap.contains_iff.mpr hl

/-! ## `merge` -/

theorem driven_addFan {p : String → Prop} {l : String} {f : Fan} (hf : f.enabled = false)
    (hc : Driven p c) : Driven p (c.addFan l f) := by
  intro k g hg henabled
  rcases fan?_addFan hg with ⟨-, rfl⟩ | hg
  · rw [hf] at henabled
    cases henabled
  · exact hc k g hg henabled

theorem driven_reInsertFan {p : String → Prop} {old new : String} {f : Fan}
    (hf : f.enabled = false) (hc : Driven p c) : Driven p (c.reInsertFan old new f) := by
  intro k g hg henabled
  rcases fan?_reInsertFan hg with ⟨-, rfl⟩ | ⟨-, hg⟩
  · rw [hf] at henabled
    cases henabled
  · exact hc k g hg henabled

theorem settled_of_isConfigured {l : String} (h : (c.fan? l).any Fan.isConfigured = true) :
    Settled c l := by
  intro f hf _ _
  rw [hf] at h
  exact h

theorem driven_mergeFan {p : String → Prop} {s s' : MergeState} {replaceOnMatch deepCmp : Bool}
    {e : Sigma fun _ : String => Fan} (hs : Labelled s.1)
    (he : e.2.label = e.1 ∧ e.2.enabled = false)
    (hturn : replaceOnMatch = true → deepCmp = true ∧ TurnSettled s e)
    (h : mergeFan willingDriver replaceOnMatch deepCmp s e = some s') (hc : Driven p s.1) :
    Driven p s'.1 := by
  rcases mergeFan_cases h with rfl | rfl | ⟨old, x, hx, hid, hrep, -, hmatch⟩
  · exact driven_addFan he.2 hc
  · exact hc
  · obtain ⟨rfl, hsettled⟩ := hturn hrep.1
    obtain rfl := hrep.1
    rcases onMatchFan_cases hmatch with ⟨-, rfl | ⟨hconf, rfl⟩⟩ | ⟨htask, d, hd, rfl⟩
    · exact driven_reInsertFan he.2 hc
    · exact driven_enableAlone (hs.reInsertFan he.1) (settled_of_isConfigured hconf)
        (driven_reInsertFan he.2 hc)
    · have hlabelled : Labelled d := hs.controls (controls_disableAlone hd)
      exact driven_enableAlone (hlabelled.reInsertFan he.1) (hsettled old x d hx hid hrep htask hd)
        (driven_reInsertFan he.2 (driven_disableAlone hd hc))

theorem driven_merge {p : String → Prop} {d : Devices} {replaceOnMatch deepCmp : Bool}
    (hwf : WellFormed c) (hd : d.Fresh)
    (hs : replaceOnMatch = true → deepCmp = true ∧ MergeSettled c d)
    (h : c.merge willingDriver d replaceOnMatch deepCmp = some c') (hc : Driven p c) :
    Driven p c' := by
  unfold Controller.merge at h
  obtain ⟨s, hloop, h⟩ := Option.bind_eq_some_iff.mp h
  obtain ⟨sensors, -, rfl⟩ := Option.map_eq_some_iff.mp h
  obtain ⟨hwf', hdell, hdriven⟩ : WellFormed s.1 ∧ (s.2 = true → replaceOnMatch = true) ∧
      Driven p s.1 := by
    refine Loop.foldlM_keeps_turns (P := fun t : MergeState => WellFormed t.1 ∧
      (t.2 = true → replaceOnMatch = true) ∧ Driven p t.1) (fun t e t' hturn ht hstep => ?_)
      ⟨hwf, fun h => absurd h Bool.false_ne_true, hc⟩ hloop
    obtain ⟨hwf, hdell, hdriven⟩ := ht
    have he : e ∈ d.fans.entries := by
      obtain ⟨before, after, hsplit, -⟩ := hturn
      exact hsplit ▸ by simp
    have hfresh := hd e.1 e.2 (UnorderedMap.mem_entries.mp he)
    refine ⟨hwf.mergeFan hfresh.1 hstep, fun ht' => ?_, ?_⟩
    · rcases mergeFan_cases hstep with rfl | rfl | ⟨_, _, -, -, hrep, -⟩
      · exact hdell ht'
      · exact hdell ht'
      · exact hrep.1
    · refine driven_mergeFan hwf.labelled hfresh (fun hreplace => ?_) hstep hdriven
      obtain ⟨rfl, hsettled⟩ := hs hreplace
      subst hreplace
      exact ⟨rfl, hsettled.1 t e hturn⟩
  show Driven p (if s.2 then s.1.enableDellFans willingDriver none else s.1)
  split_ifs with hs₂
  · obtain ⟨rfl, hsettled⟩ := hs (hdell hs₂)
    obtain rfl := hdell hs₂
    exact driven_enableDellFans hwf'.labelled (hsettled.2 s hloop hs₂) hdriven
  · exact hdriven

/-! ## `reload` and `set_devices` -/

theorem driven_reload {p : String → Prop} {parse : Text → Bool × ControllerMsg} {env : Env}
    {found : Found} {file : Option Text} (hwf : WellFormed c)
    (hs : EnablesSettled parse c (.reload env found file))
    (h : c.reload willingDriver env parse (Devices.enumerate found) file = some c')
    (hc : Driven p c) : Driven p c' := by
  obtain ⟨c₁, h₁, hrest⟩ := reload_parts h
  have hfresh := Devices.fresh_enumerate found
  have hwf₁ := hwf.merge hfresh h₁
  have hc₁ := driven_merge hwf hfresh (fun h => absurd h Bool.false_ne_true) h₁ hc
  rcases hrest with ⟨-, rfl, -⟩ | ⟨msg, hmsg, h₂, -⟩
  · exact hc₁
  · cases file with
    | none => cases hmsg
    | some text =>
      obtain rfl := Option.some.inj hmsg
      exact driven_merge (hwf₁.withSettings _) (Devices.fresh_load env _)
        (fun _ => ⟨rfl, hs c₁ h₁⟩) h₂ hc₁

theorem driven_setDevices {p : String → Prop} {env : Env} {d : DevicesMsg}
    (hs : ∀ l f, (Devices.load env d).fans.find? l = some f → f.ignore = false →
      f.isConfigured = true) (h : c.setDevices willingDriver env d = some c') : Driven p c' := by
  obtain ⟨c₁, -, rfl⟩ := Option.map_eq_some_iff.mp h
  have hfresh := Devices.fresh_load env d
  refine driven_enableAll (c := { c₁ with devices := Devices.load env d })
    (fun l f hf => (hfresh l f hf).1) (fun l f hf _ => hs l f hf) fun l f hf henabled => ?_
  rw [(hfresh l f hf).2] at henabled
  cases henabled

/-! ## Every run -/

theorem driven_perform {p : String → Prop} {parse : Text → Bool × ControllerMsg} {op : Operation}
    (hwf : WellFormed c) (hs : EnablesSettled parse c op)
    (h : c.perform willingDriver parse op = some c') (hc : Driven p c) : Driven p c' := by
  cases op with
  | enable l => exact Option.some.inj h ▸ driven_enable hwf.labelled hs hc
  | enableAll => exact Option.some.inj h ▸ driven_enableAll hwf.labelled hs hc
  | disable l => exact driven_disable h hc
  | disableAll => exact driven_disableAll h hc
  | test l forced blocking => exact driven_test h hc
  | testWrites l r => exact driven_testWrites h hc
  | testComplete l r => exact driven_testComplete hwf hs h hc
  | reload env found file => exact driven_reload hwf hs h hc
  | setDevices env d => exact driven_setDevices hs h
  | recover => exact Option.some.inj h ▸ driven_recover willingDriver hc

/-- The runs in which every write to a device succeeds. -/
def writableSystem (parse : Text → Bool × ControllerMsg) : Transition.System Controller Operation :=
  system parse fun drv => drv = willingDriver

def ManualFansHaveTasks (c : Controller) : Prop :=
  ∀ l f, c.fan? l = some f → f.enabled = true → c.tasks.contains l = true

/-- **In a run whose every call of `enable` is on a settled fan, every fan under manual control has
a task.** -/
theorem manual_fans_have_tasks (parse : Text → Bool × ControllerMsg) (c : Controller)
    (hc : Transition.ReachableWhen (writableSystem parse) (EnablesSettled parse) c) :
    ManualFansHaveTasks c := by
  have hdriven : Driven (fun _ => False) c := by
    refine (Transition.ReachableWhen.invariant (fun c => WellFormed c ∧ Driven _ c)
      ?_ ?_ hc).2
    · rintro _ rfl
      exact ⟨wellFormed_start, fun _ _ hf => nomatch hf⟩
    · rintro c op c' ⟨hwf, hdriven⟩ hs ⟨_, rfl, hstep⟩
      exact ⟨hwf.perform hstep, driven_perform hwf hs hstep hdriven⟩
  exact fun l f hf henabled => (hdriven l f hf henabled).resolve_right id

/-! ## Loading one fan and enabling it -/

/-- The entry of a fan with a calibration and the given curve, for the sensor `k10temp`. -/
def caseMsg (curve : String) : FanMsg where
  label := "case"
  sensor := "k10temp"
  tempToRpm := curve.toList
  rpmToPwm := "800: 100".toList
  pwmPath := "/sys/pwm1"
  rpmPath := "/sys/fan1_input"
  enablePath := "/sys/pwm1_enable"
  driverFlag := 2

def caseDevices (curve : String) : DevicesMsg := ⟨[caseMsg curve], [coldSensor.save]⟩

def caseController (curve : String) : Controller :=
  ({ devices := Devices.load readyEnv (caseDevices curve) } : Controller).enableAll willingDriver

theorem setDevices_case (curve : String) :
    ({} : Controller).setDevices willingDriver readyEnv (caseDevices curve) =
      some (caseController curve) := rfl

theorem case_reachable (parse : Text → Bool × ControllerMsg) {curve : String}
    (hs : EnablesSettled parse {} (.setDevices readyEnv (caseDevices curve))) :
    Transition.ReachableWhen (writableSystem parse) (EnablesSettled parse)
      (caseController curve) :=
  .step (.init rfl) hs ⟨willingDriver, rfl, setDevices_case curve⟩

theorem configured_case (parse : Text → Bool × ControllerMsg) :
    EnablesSettled parse {} (.setDevices readyEnv (caseDevices "40: 800")) := by
  intro l f hf _
  obtain ⟨-, -, -, m, hm, hbuild⟩ := find?_loadFans hf
  rw [List.mem_singleton.mp hm] at hbuild
  obtain rfl := Option.some.inj hbuild
  decide +kernel

theorem manual_fans_have_tasks_case : ManualFansHaveTasks (caseController "40: 800") :=
  manual_fans_have_tasks (fun _ => (false, {})) _ (case_reachable _ (configured_case _))

/-- A fan with no curve is under manual control after `set_devices` and has no task. -/
theorem unconfigured_left_in_manual :
    ¬ ∀ (parse : Text → Bool × ControllerMsg) (c : Controller),
      Transition.Reachable (writableSystem parse) c → ManualFansHaveTasks c := by
  intro h
  have hreachable : Transition.Reachable (writableSystem fun _ => (false, {}))
      (caseController "") :=
    .step (a := .setDevices readyEnv (caseDevices "")) (.init rfl) trivial
      ⟨willingDriver, rfl, setDevices_case ""⟩
  have hmanual : ((caseController "").fan? "case").any Fan.enabled = true := by decide +kernel
  have htask : (caseController "").tasks.contains "case" = false := by decide +kernel
  obtain ⟨f, hf, henabled⟩ := (Option.any_eq_true _ _).mp hmanual
  rw [h _ _ hreachable "case" f hf henabled] at htask
  cases htask

end Controller

end Fancon
