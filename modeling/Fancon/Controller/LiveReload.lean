import Fancon.Controller.LiveMoves

/-! # Fan objects in a reload

A reload adds the fans that are new and puts an entry of the config in the place of the fan with its
hardware id; all else it does is made of `Moves`. What these three keep, a reload that returns keeps
(`reload_keeps`); one that removes a fan does not return.
-/
set_option autoImplicit false
set_option maxHeartbeats 250000
set_option maxRecDepth 120000

namespace Fancon

namespace Live

variable {drv : Driver} {parse : Text → Bool × ControllerMsg} {print : ControllerMsg → Text}
  {s s' : Live}

/-- Moves that may enable every fan. -/
abbrev AllMoves (print : ControllerMsg → Text) : Live → Live → Prop := Moves print fun _ => True

theorem mayEnable_all (s : Live) (l : String) : MayEnable (fun _ => True) s l :=
  fun _ _ _ => ⟨trivial, trivial⟩

theorem mayEnableDell_all (s : Live) (exceptLabel : Option String) :
    MayEnableDell (fun _ => True) s exceptLabel := fun _ _ _ _ _ _ => ⟨trivial, trivial⟩

theorem allMoves_enable (s : Live) (l : String) : AllMoves print s (s.enable drv l) :=
  moves_enable (mayEnable_all s l) fun _ _ _ _ _ => mayEnableDell_all s _

theorem allMoves_enableAll (s : Live) : AllMoves print s (s.enableAll drv) :=
  moves_enableAll (mayEnable_all s)

theorem allMoves_recover (s : Live) : AllMoves print s (s.recover drv) :=
  moves_recover fun _ _ => trivial

theorem Moves.all {enables : String → Prop} (h : Moves print enables s s') :
    AllMoves print s s' := h.mono fun _ _ => trivial

/-! ## `merge` -/

/-- A fan is replaced once its task has ended. -/
theorem onMatchFan_cases {m m' : Merging} {old new : String} {f : Fan}
    (h : onMatchFan drv print m old new f = some m') : ∃ t, AllMoves print m.1 t ∧
      t.tasks.find? old = none ∧ AllMoves print (t.reInsertFan old new f) m'.1 := by
  have henable : ∀ (t : Live) (b : Bool), AllMoves print t (enableMerged drv (t, b) new).1 :=
    fun t _ => moves_enableAlone (mayEnable_all t new)
  unfold onMatchFan at h
  cases ht : m.1.testing? old with
  | none =>
    rw [ht] at h
    have hnone : m.1.tasks.find? old = none := Option.map_eq_none_iff.mp ht
    refine ⟨m.1, .refl, hnone, ?_⟩
    simp only at h
    split_ifs at h
    · exact Option.some.inj h ▸ henable _ _
    · exact Option.some.inj h ▸ .refl
  | some testing =>
    rw [ht] at h
    cases testing with
    | false =>
      obtain ⟨t, ht, rfl⟩ := Option.map_eq_some_iff.mp h
      obtain ⟨hmoves, hgone⟩ := moves_disableAlone ht
      exact ⟨t, hmoves.all, hgone, henable _ _⟩
    | true =>
      obtain ⟨t, hdisable, h⟩ := Option.bind_eq_some_iff.mp h
      have hcontains : m.1.tasks.contains old = true := by
        obtain ⟨task, htask, -⟩ := Option.map_eq_some_iff.mp ht
        rw [SortedMap.contains, htask]
        rfl
      unfold disableAlone disableWith at hdisable
      rw [hcontains] at hdisable
      obtain ⟨u, hu, -⟩ := Option.bind_eq_some_iff.mp hdisable
      exact absurd ht (moves_eraseTask hu).2.2

theorem mergeFan_cases {replaceOnMatch deepCmp : Bool} {m m' : Merging}
    {e : Sigma fun _ : String => Fan}
    (h : mergeFan drv print replaceOnMatch deepCmp m e = some m') :
    m' = (m.1.addFan e.1 e.2, m.2) ∨ m' = m ∨
      replaceOnMatch = true ∧ ∃ old o t, m.1.object? old = some o ∧ o.fan.hwId = e.2.hwId ∧
        (deepCmp = true → e.2.save ≠ o.fan.save) ∧ AllMoves print m.1 t ∧
        t.tasks.find? old = none ∧ AllMoves print (t.reInsertFan old e.1 e.2) m'.1 := by
  unfold mergeFan at h
  cases hfind : m.1.fans.entries.find? (fun p => p.2.fan.hwId == e.2.hwId) with
  | none =>
    rw [hfind] at h
    exact Or.inl (Option.some.inj h).symm
  | some old =>
    rw [hfind] at h
    simp only at h
    split_ifs at h with hreplace
    · obtain ⟨hreplace, hdeep⟩ := Bool.and_eq_true_iff.mp hreplace
      have hold : m.1.object? old.1 = some old.2 :=
        UnorderedMap.mem_entries.mp (List.mem_of_find?_eq_some hfind)
      have hid : old.2.fan.hwId = e.2.hwId := by simpa using List.find?_some hfind
      obtain ⟨t, hbefore, hgone, hafter⟩ := onMatchFan_cases h
      refine Or.inr (Or.inr ⟨hreplace, old.1, old.2, t, hold, hid, fun hcmp => ?_, hbefore, hgone,
        hafter⟩)
      simpa [hcmp, Fan.deepEqual] using hdeep
    · exact Or.inr (Or.inl (Option.some.inj h).symm)

/-- A property that the parts of a reload keep. -/
structure KeptBy (print : ControllerMsg → Text) (P : Live → Prop) : Prop where
  moves : ∀ t t', P t → AllMoves print t t' → P t'
  rest : ∀ t settings sensors, P t → P { t with settings := settings, sensors := sensors }
  add : ∀ t l f, f.label = l → P t → P (t.addFan l f)

theorem KeptBy.merge {P : Live → Prop} (hP : KeptBy print P) {d : Devices} (hd : d.Fresh)
    {replaceOnMatch deepCmp : Bool}
    (hreplace : replaceOnMatch = true → ∀ t, ∀ e ∈ d.fans.entries, ∀ old o, P t →
      t.object? old = some o → o.fan.hwId = e.2.hwId → (deepCmp = true → e.2.save ≠ o.fan.save) →
      t.tasks.find? old = none → P (t.reInsertFan old e.1 e.2))
    (hs : P s) (h : s.merge drv print d replaceOnMatch deepCmp = some s') : P s' := by
  unfold Live.merge at h
  obtain ⟨m, hm, h⟩ := Option.bind_eq_some_iff.mp h
  obtain ⟨sensors, -, rfl⟩ := Option.map_eq_some_iff.mp h
  have hloop : P m.1 := by
    refine Loop.foldlM_keeps_turns (P := fun m : Merging => P m.1)
      (fun m e m' hturn hm hstep => ?_) hs hm
    obtain ⟨before, after, hsplit, -⟩ := hturn
    have he : e ∈ d.fans.entries := hsplit ▸ by simp
    rcases mergeFan_cases hstep with rfl | rfl |
      ⟨hrep, old, o, t, ho, hid, hdeep, hbefore, hgone, hafter⟩
    · exact hP.add _ _ _ (hd e.1 e.2 (UnorderedMap.mem_entries.mp he)).1 hm
    · exact hm
    · obtain ⟨o', ho', -, hfan⟩ := (Moves.sameFans hbefore).object? ho
      refine hP.moves _ _ (hreplace hrep t e he old o' (hP.moves _ _ hm hbefore) ho' ?_ ?_ hgone)
        hafter
      · rw [Fan.hwId_of_uncontrolled hfan, hid]
      · rw [Fan.save_of_uncontrolled hfan]
        exact hdeep
  apply hP.rest
  split_ifs
  · exact hP.moves _ _ hloop (moves_enableDellFans (mayEnableDell_all _ _))
  · exact hloop

/-- What is enumerated is only added. -/
theorem file_mergeFound {d : Devices} (h : s.merge drv print d false false = some s') :
    s'.file = s.file := by
  unfold Live.merge at h
  obtain ⟨m, hm, h⟩ := Option.bind_eq_some_iff.mp h
  obtain ⟨sensors, -, rfl⟩ := Option.map_eq_some_iff.mp h
  obtain ⟨hfile, hflag⟩ : m.1.file = s.file ∧ m.2 = false := by
    refine Loop.foldlM_keeps (P := fun m : Merging => m.1.file = s.file ∧ m.2 = false)
      (fun m e m' hm hstep => ?_) ⟨rfl, rfl⟩ hm
    rcases mergeFan_cases hstep with rfl | rfl | ⟨hrep, -⟩
    · exact hm
    · exact hm
    · cases hrep
  rw [hflag]
  exact hfile

/-! ## `reload` -/

/-- The devices of the config file. -/
def config? (parse : Text → Bool × ControllerMsg) (env : Env) (s : Live) : Option Devices :=
  (Controller.readConfig parse s.file).map fun msg => Devices.load env msg.devices

/-- A fan is enumerated under the label, or the config has an entry for it. -/
def Listed (parse : Text → Bool × ControllerMsg) (env : Env) (found : Found) (s : Live)
    (l : String) : Prop :=
  (Devices.enumerate found).fans.contains l = true ∨
    ∃ d, s.config? parse env = some d ∧ d.fans.contains l = true

theorem removeFanNotIn_eq_some {ds : List Devices} {l : String} :
    removeFanNotIn drv print ds s l = some s' ↔
      (ds.any fun d => d.fans.contains l) = true ∧ s' = s := by
  unfold removeFanNotIn
  split_ifs with hlisted
  · rw [Option.some_inj, and_iff_right hlisted, eq_comm]
  · refine iff_of_false (fun h => ?_) fun h => hlisted h.1
    obtain ⟨t, -, hnone⟩ := Option.bind_eq_some_iff.mp h
    cases hnone

/-- A reload that returns has removed nothing. -/
theorem eq_of_removeDevicesNotIn {ds : List Devices}
    (h : removeDevicesNotIn drv print ds s = some s') : s' = s := by
  obtain ⟨t, ht, hloop⟩ := Option.bind_eq_some_iff.mp h
  obtain ⟨-, rfl⟩ := (Loop.foldlM_eq_some_of_stays fun t l t' =>
    @removeFanNotIn_eq_some drv print t t' ds l).mp ht
  obtain ⟨sensors, hsensors, rfl⟩ := Option.map_eq_some_iff.mp hloop
  obtain ⟨-, rfl⟩ := (Loop.foldlM_eq_some_of_stays fun m l m' =>
    @Controller.removeSensorNotIn_eq_some ds m m' l).mp hsensors
  rfl

theorem reload_keeps {P : Live → Prop} (hP : KeptBy print P) {env : Env} {found : Found}
    (hreplace : ∀ d, s.config? parse env = some d → ∀ t, ∀ e ∈ d.fans.entries, ∀ old o, P t →
      t.object? old = some o → o.fan.hwId = e.2.hwId → e.2.save ≠ o.fan.save →
      t.tasks.find? old = none → P (t.reInsertFan old e.1 e.2))
    (hs : P s) (h : s.reload drv parse print env (Devices.enumerate found) = some s') : P s' := by
  unfold Live.reload at h
  obtain ⟨s₁, h₁, h⟩ := Option.bind_eq_some_iff.mp h
  have hs₁ : P s₁ := hP.merge (Devices.fresh_enumerate found)
    (fun h => by cases h) hs h₁
  have hread : Controller.readConfig parse s₁.file = Controller.readConfig parse s.file := by
    rw [file_mergeFound h₁]
  rw [hread] at h
  cases hc : Controller.readConfig parse s.file with
  | none =>
    rw [hc] at h
    exact eq_of_removeDevicesNotIn h ▸ hs₁
  | some msg =>
    rw [hc] at h
    obtain ⟨s₂, h₂, h⟩ := Option.bind_eq_some_iff.mp h
    have hconfig : s.config? parse env = some (Devices.load env msg.devices) := by
      rw [config?, hc, Option.map_some]
    have hs₂ : P s₂ := hP.merge (Devices.fresh_load env msg.devices)
      (fun _ t e he old o ht ho hid hdeep hgone =>
        hreplace _ hconfig t e he old o ht ho hid (hdeep rfl) hgone)
      (hP.rest s₁ (s₁.settings.load msg.config) s₁.sensors hs₁) h₂
    exact eq_of_removeDevicesNotIn h ▸ hs₂

/-! ## The labels -/

theorem Labelled.addFan (h : Labelled s) {l : String} {f : Fan} (hf : f.label = l) :
    Labelled (s.addFan l f) := by
  intro k o ho
  rcases object?_addFan ho with ⟨rfl, rfl⟩ | ho
  · exact hf
  · exact h k o ho

theorem Labelled.removeFan (h : Labelled s) (l : String) : Labelled (s.removeFan l) := by
  intro k o ho
  rw [object?_removeFan] at ho
  split_ifs at ho
  exact h k o ho

theorem labelled_keptBy : KeptBy print Labelled where
  moves _ _ h hmoves := (Moves.sameFans hmoves).labelled h
  rest _ _ _ h := h
  add _ _ _ hf h := h.addFan hf

theorem label_of_config {env : Env} {d : Devices} (hd : s.config? parse env = some d)
    {e : Sigma fun _ : String => Fan} (he : e ∈ d.fans.entries) : e.2.label = e.1 := by
  obtain ⟨msg, -, rfl⟩ := Option.map_eq_some_iff.mp hd
  exact (Devices.fresh_load env msg.devices e.1 e.2 (UnorderedMap.mem_entries.mp he)).1

theorem labelled_replaceDevices (s : Live) (env : Env) (d : DevicesMsg) :
    Labelled (s.replaceDevices (Devices.load env d)) := by
  refine Loop.foldl_keeps_mem (P := Labelled) (fun u e he hu => ?_) fun _ _ ho => nomatch ho
  exact hu.addFan (Devices.fresh_load env d e.1 e.2 (UnorderedMap.mem_entries.mp he)).1

theorem Labelled.afterTest (h : Labelled s) {l : String} {o : FanObject}
    (ho : s.object? l = some o) (r : TestResult) : Labelled (s.setFan l (o.fan.afterTest r)) := by
  intro k x hx
  rw [object?_setFan] at hx
  split_ifs at hx with hk
  · rw [ho] at hx
    obtain rfl := Option.some.inj hx
    rw [hk]
    exact h l o ho
  · exact h k x hx

theorem Labelled.perform (h : Labelled s) {e : Event}
    (hstep : s.perform drv parse print e = some s') : Labelled s' := by
  have hmoves : ∀ {t : Live}, AllMoves print s t → Labelled t := fun ht =>
    (Moves.sameFans ht).labelled h
  cases e with
  | enable l => exact Option.some.inj hstep ▸ hmoves (allMoves_enable s l)
  | enableAll => exact Option.some.inj hstep ▸ hmoves (allMoves_enableAll s)
  | disable l => exact hmoves (moves_disable hstep).1.all
  | disableAll => exact hmoves (moves_disableAll hstep).1.all
  | test l forced blocking =>
    rcases test_cases hstep with rfl | ⟨o, t, -, -, ht, -, rfl⟩
    · exact h
    · have ht' : Labelled t := hmoves ht.all
      exact ht'
  | reload env found =>
    refine reload_keeps labelled_keptBy (fun d hd t e he old o ht _ _ _ _ => ?_) h hstep
    exact (ht.removeFan old).addFan (label_of_config hd he)
  | setDevices env d =>
    obtain ⟨t, -, rfl⟩ := Option.map_eq_some_iff.mp hstep
    have hfile : Labelled ((t.replaceDevices (Devices.load env d)).toFile print) :=
      labelled_replaceDevices t env d
    have hall : ∀ u : Live, AllMoves print u (u.enableAll drv) := allMoves_enableAll
    exact (Moves.sameFans (hall _)).labelled hfile
  | recover => exact Option.some.inj hstep ▸ hmoves (allMoves_recover s)
  | edit file => exact Option.some.inj hstep ▸ h
  | testDone l success r =>
    obtain ⟨o, r', -, ho, -, -, rfl⟩ := testDone_cases hstep
    exact h.afterTest ho r'
  | reset l =>
    obtain ⟨id, -, rfl⟩ := reset_cases hstep
    exact h
  | advance l => exact hmoves (.single (.advance hstep))
  | detachedErase i =>
    obtain ⟨d, t, -, -, ht, rfl⟩ := detachedErase_cases hstep
    have ht' : Labelled t := hmoves (moves_eraseTask ht).1.all
    exact ht'
  | detachedEnable i =>
    obtain ⟨d, -, -, rfl⟩ := detachedEnable_cases hstep
    have hd : Labelled (s.enable drv d.label) := hmoves (allMoves_enable s d.label)
    exact hd

theorem labelled_of_reachable {drivers : Driver → Prop} {ok : Live → Event → Prop}
    (hs : Transition.ReachableWhen (system parse print drivers) ok s) : Labelled s := by
  refine Transition.ReachableWhen.invariant Labelled ?_ ?_ hs
  · rintro _ ⟨file, rfl⟩ l o ho
    cases ho
  · rintro s e s' h - ⟨drv, -, hstep⟩
    exact h.perform hstep

end Live

end Fancon
