import Fancon.Controller.DellFans
import Fancon.Controller.Restart

/-! # Dell fans after a reload

A reload enables a fan that it replaces only if that one had a task or was not configured, and it
enables no fan that is new. So it may leave out a Dell fan while others keep their tasks, unless a
Dell fan of the config takes the place of one in memory that is enabled or not configured yet, or
all that are enabled are replaced (`dell_fans_together`).
-/
set_option autoImplicit false
set_option maxHeartbeats 250000
set_option maxRecDepth 120000

namespace Fancon

open KeyedMerge

namespace Controller

variable {drv : Driver} {c c' : Controller}

/-! ## The turns of `merge` -/

def Matches (replaceOnMatch deepCmp : Bool) (c : Controller) (e : Sigma fun _ : String => Fan)
    (old : String) (x : Fan) : Prop :=
  c.fan? old = some x ∧ x.hwId = e.2.hwId ∧ ReplacesOnMatch replaceOnMatch deepCmp e.2.save x.save

/-- `c'` is `c` after the task of `l` has ended. -/
structure Freed (c : Controller) (l : String) (c' : Controller) : Prop where
  controls : Controls c c'
  free : c'.testing? l = none
  others : ∀ k, k ≠ l → c'.testing? k = c.testing? k

/-- One turn of the loop over the fans. -/
inductive MergeTurn (drv : Driver) (replaceOnMatch deepCmp : Bool) (t : MergeState)
    (e : Sigma fun _ : String => Fan) : MergeState → Prop
  | add : (∀ l x, t.1.fan? l = some x → x.hwId ≠ e.2.hwId) →
      MergeTurn drv replaceOnMatch deepCmp t e (t.1.addFan e.1 e.2, t.2)
  | keep {old : String} {x : Fan} : t.1.fan? old = some x → x.hwId = e.2.hwId →
      ¬ ReplacesOnMatch replaceOnMatch deepCmp e.2.save x.save →
      MergeTurn drv replaceOnMatch deepCmp t e t
  | put {old : String} {x : Fan} : Matches replaceOnMatch deepCmp t.1 e old x →
      t.1.testing? old = none →
      (x.isConfigured = true ∨
        ((t.1.reInsertFan old e.1 e.2).fan? e.1).any Fan.isConfigured = false) →
      MergeTurn drv replaceOnMatch deepCmp t e (t.1.reInsertFan old e.1 e.2, t.2)
  | enable {old : String} {x : Fan} {c : Controller} : Matches replaceOnMatch deepCmp t.1 e old x →
      Freed t.1 old c →
      (t.1.testing? old = some false ∨ t.1.testing? old = none ∧ x.isConfigured = false ∧
        ((t.1.reInsertFan old e.1 e.2).fan? e.1).any Fan.isConfigured = true) →
      MergeTurn drv replaceOnMatch deepCmp t e
        (enableMerged drv (c.reInsertFan old e.1 e.2, t.2) e.1)

theorem mergeTurn_of_mergeFan {replaceOnMatch deepCmp : Bool} {t t' : MergeState}
    {e : Sigma fun _ : String => Fan}
    (h : mergeFan drv replaceOnMatch deepCmp t e = some t') :
    MergeTurn drv replaceOnMatch deepCmp t e t' := by
  rcases mergeDevice_cases replaceOnMatch deepCmp (mergeFan_spec drv) t e with
    ⟨hnew, heq⟩ | ⟨old, x, hx, hid, ⟨hrep, heq⟩ | ⟨hrep, heq⟩⟩
  · obtain rfl := Option.some.inj (heq.symm.trans h)
    refine .add fun l x hx hid => hnew ⟨l, x.save, view_eq_some.mpr ⟨x, hx, rfl⟩, ?_⟩
    rw [Fan.hwId_save, hid]
  · obtain rfl := Option.some.inj (heq.symm.trans h)
    exact .keep hx hid hrep
  · have hmatch := heq.symm.trans h
    have hmatches : Matches replaceOnMatch deepCmp t.1 e old x := ⟨hx, hid, hrep⟩
    have hold : t.1.fan? old = some x := hx
    cases ht : t.1.testing? old with
    | none =>
      unfold onMatchFan at hmatch
      rw [ht] at hmatch
      simp only [hold, Option.any_some] at hmatch
      split_ifs at hmatch with hconf
      · obtain rfl := Option.some.inj hmatch
        obtain ⟨hprev, hnew⟩ := Bool.and_eq_true_iff.mp hconf
        refine .enable hmatches ⟨Controls.refl _, ht, fun _ _ => rfl⟩ (Or.inr ⟨ht, ?_, hnew⟩)
        simpa using hprev
      · obtain rfl := Option.some.inj hmatch
        refine .put hmatches ht ?_
        cases hprev : x.isConfigured with
        | true => exact Or.inl rfl
        | false =>
          rw [hprev] at hconf
          simpa using hconf
    | some b =>
      rcases onMatchFan_cases hmatch with ⟨hnone, -⟩ | ⟨hfalse, c, hc, rfl⟩
      · cases ht.symm.trans hnone
      · exact .enable hmatches ⟨controls_disableAlone hc,
          testing?_of_none (stops_disableAlone hc).2,
          fun k hk => testing?_of_tasks (tasks_disableAlone hc hk)⟩ (Or.inl hfalse)

theorem fan?_reInsertFan_self {old new : String} {f g : Fan}
    (h : (c.reInsertFan old new f).fan? new = some g) :
    g = f ∧ (new = old ∨ c.fan? new = none) ∨ new ≠ old ∧ c.fan? new = some g := by
  rcases fan?_reInsertFan h with ⟨-, rfl⟩ | h
  · by_cases hnew : new = old
    · exact Or.inl ⟨rfl, Or.inl hnew⟩
    · cases hc : c.fan? new with
      | none => exact Or.inl ⟨rfl, Or.inr rfl⟩
      | some y =>
        rw [fan?_reInsertFan_of_ne hnew hc] at h
        exact Or.inr ⟨hnew, h⟩
  · exact Or.inr h

/-- The turn enables a Dell fan, and `dell_fan_enabled` is set. -/
def EnablesDell (replaceOnMatch deepCmp : Bool) (t : MergeState)
    (e : Sigma fun _ : String => Fan) : Prop :=
  ∃ old x g, Matches replaceOnMatch deepCmp t.1 e old x ∧
    (t.1.reInsertFan old e.1 e.2).fan? e.1 = some g ∧ g.type = .dell ∧
    (t.1.testing? old = some false ∨
      t.1.testing? old = none ∧ x.isConfigured = false ∧ g.isConfigured = true)

/-- The turn puts a Dell fan that can be enabled under its label and does not enable it: the fan is
new, or it replaces a configured one that has no task. -/
def LeavesOut (replaceOnMatch deepCmp : Bool) (t : MergeState)
    (e : Sigma fun _ : String => Fan) : Prop :=
  e.2.Grouped ∧
    ((∀ l x, t.1.fan? l = some x → x.hwId ≠ e.2.hwId) ∧ t.1.fan? e.1 = none ∨
    ∃ old x, Matches replaceOnMatch deepCmp t.1 e old x ∧ t.1.testing? old = none ∧
      x.isConfigured = true ∧ (e.1 = old ∨ t.1.fan? e.1 = none))

theorem enableMerged_dell {s : MergeState} {l : String} {g : Fan} (hg : s.1.fan? l = some g)
    (htype : g.type = .dell) : (enableMerged drv s l).2 = true := by
  simp [enableMerged, hg, htype]

theorem flag_of_enableMerged {s : MergeState} {l : String}
    (h : (enableMerged drv s l).2 = false) :
    s.2 = false ∧ ∀ g, s.1.fan? l = some g → g.type ≠ .dell := by
  obtain ⟨hs, hdell⟩ := Bool.or_eq_false_iff.mp h
  refine ⟨hs, fun g hg htype => ?_⟩
  rw [hg] at hdell
  simp [htype] at hdell

theorem flag_of_mergeTurn {replaceOnMatch deepCmp : Bool} {t t' : MergeState}
    {e : Sigma fun _ : String => Fan} (h : MergeTurn drv replaceOnMatch deepCmp t e t')
    (ht' : t'.2 = false) : t.2 = false := by
  cases h with
  | add _ => exact ht'
  | keep _ _ _ => exact ht'
  | put _ _ _ => exact ht'
  | enable _ _ _ => exact (flag_of_enableMerged ht').1

/-- The label of a fan that is not a Dell fan is enabled. -/
theorem testing?_enableMerged (hdrv : drv.Enables) {s : MergeState} (hs : Labelled s.1) {l : String}
    (hother : ∀ g, s.1.fan? l = some g → g.type ≠ .dell) {k : String} {f : Fan}
    (hf : s.1.fan? k = some f) (htype : f.type = .dell) :
    (enableMerged drv s l).1.testing? k = s.1.testing? k := by
  rcases testing?_enableAlone hdrv hs l k with heq | ⟨rfl, -⟩
  · exact heq
  · exact absurd htype (hother f hf)

section

variable {replaceOnMatch deepCmp : Bool} {t t' : MergeState} {e : Sigma fun _ : String => Fan}

theorem fan?_addFan_cases {l k : String} {f g : Fan} (h : (c.addFan l f).fan? k = some g) :
    k = l ∧ g = f ∧ c.fan? l = none ∨ c.fan? k = some g := by
  rcases fan?_addFan h with ⟨rfl, rfl⟩ | h
  · cases hk : c.fan? k with
    | none => exact Or.inl ⟨rfl, rfl, rfl⟩
    | some x =>
      rw [fan?_addFan_of_some hk] at h
      exact Or.inr h
  · exact Or.inr h

/-- A turn that neither leaves out a Dell fan nor enables one leaves every Dell fan held. -/
theorem AllHeld.mergeTurn (h : AllHeld t.1) (hdrv : drv.Enables) (hc : Labelled t.1)
    (he : e.2.label = e.1) (hturn : MergeTurn drv replaceOnMatch deepCmp t e t')
    (ht' : t'.2 = false) (hout : ¬ LeavesOut replaceOnMatch deepCmp t e) : AllHeld t'.1 := by
  cases hturn with
  | add hnew =>
    intro k g hg hgrouped
    rcases fan?_addFan_cases hg with ⟨-, rfl, hfree⟩ | hg
    · exact absurd ⟨hgrouped, Or.inl ⟨hnew, hfree⟩⟩ hout
    · exact h k g hg hgrouped
  | keep _ _ _ => exact h
  | @put old x hmatch hnone hquiet =>
    intro k g hg hgrouped
    rcases fan?_reInsertFan hg with ⟨rfl, rfl⟩ | ⟨hk, hg'⟩
    · rcases fan?_reInsertFan_self hg with ⟨-, hfree⟩ | ⟨-, hg'⟩
      · rcases hquiet with hconf | hconf
        · exact absurd ⟨hgrouped, Or.inr ⟨old, x, hmatch, hnone, hconf, hfree⟩⟩ hout
        · rw [hg, Option.any_some, hgrouped.2.2] at hconf
          cases hconf
      · exact h _ _ hg' hgrouped
    · exact h k g hg' hgrouped
  | @enable old x d hmatch hfreed _ =>
    obtain ⟨-, hother⟩ := flag_of_enableMerged ht'
    have hlabelled : Labelled (d.reInsertFan old e.1 e.2) :=
      (hc.controls hfreed.controls).reInsertFan he
    have hheld : AllHeld (d.reInsertFan old e.1 e.2) := by
      intro k g hg hgrouped
      have hback : k ≠ old ∧ d.fan? k = some g := by
        rcases fan?_reInsertFan hg with ⟨rfl, rfl⟩ | h
        · exact absurd hgrouped.1 (hother _ hg)
        · exact h
      obtain ⟨f, hf, hf'⟩ := hfreed.controls.back hback.2 hgrouped
      show d.testing? k ≠ none
      rw [hfreed.others k hback.1]
      exact h k f hf hf'
    exact hheld.grow (controls_enableAlone _ _) fun l hl =>
      testing?_enableAlone_grow hdrv hlabelled _ hl

/-- The Dell fans that have a task had it in `c`. -/
def EnabledBefore (c c' : Controller) : Prop :=
  ∀ l f, c'.fan? l = some f → f.type = .dell → c'.testing? l = some false →
    ∃ f₀, c.fan? l = some f₀ ∧ f.uncontrolled = f₀.uncontrolled ∧ c.testing? l = some false

theorem EnabledBefore.mergeTurn (h : EnabledBefore c t.1) (hdrv : drv.Enables)
    (hc : Labelled t.1) (htended : Tended t.1) (he : e.2.label = e.1)
    (hturn : MergeTurn drv replaceOnMatch deepCmp t e t') (ht' : t'.2 = false) :
    EnabledBefore c t'.1 := by
  cases hturn with
  | add _ =>
    intro k g hg htype htask
    rcases fan?_addFan_cases hg with ⟨rfl, -, hfree⟩ | hg
    · obtain ⟨f, hf, -⟩ := htended _ htask
      cases hfree.symm.trans hf
    · exact h k g hg htype htask
  | keep _ _ _ => exact h
  | @put old x hmatch hnone _ =>
    intro k g hg htype htask
    obtain ⟨f, hf, -⟩ := htended k htask
    have hk : k ≠ old := by
      rintro rfl
      cases hnone.symm.trans htask
    rw [fan?_reInsertFan_of_ne hk hf] at hg
    obtain rfl := Option.some.inj hg
    exact h k f hf htype htask
  | @enable old x d hmatch hfreed _ =>
    obtain ⟨-, hother⟩ := flag_of_enableMerged ht'
    have hlabelled : Labelled (d.reInsertFan old e.1 e.2) :=
      (hc.controls hfreed.controls).reInsertFan he
    intro k g hg htype htask
    have hmerged : Controls (d.reInsertFan old e.1 e.2)
        (enableMerged drv (d.reInsertFan old e.1 e.2, t.2) e.1).1 :=
      enableMerged_controls (d.reInsertFan old e.1 e.2, t.2) e.1
    obtain ⟨y, hy, hyg⟩ := hmerged.fan?_back hg
    have hytype := (grouped_of_uncontrolled hyg).1.mpr htype
    rw [testing?_enableMerged hdrv (s := (d.reInsertFan old e.1 e.2, t.2)) hlabelled hother hy
      hytype] at htask
    have htask : d.testing? k = some false := htask
    have hk : k ≠ old := by
      rintro rfl
      cases hfreed.free.symm.trans htask
    rw [hfreed.others k hk] at htask
    obtain ⟨f, hf, -⟩ := htended k htask
    obtain ⟨z, hz, hzf⟩ := hfreed.controls.fan? hf
    rw [fan?_reInsertFan_of_ne hk hz] at hy
    obtain rfl := Option.some.inj hy
    have hftype := (grouped_of_uncontrolled hzf).1.mp hytype
    obtain ⟨f₀, hf₀, hsame, htask₀⟩ := h k f hf hftype htask
    exact ⟨f₀, hf₀, hyg.symm.trans (hzf.trans hsame), htask₀⟩

end

/-! ## What is claimed of a reload -/

/-- The fan of the config can be enabled, and the reload does not: no fan with its hardware id is in
memory or enumerated, or the one in memory has another message, is configured and has no task. -/
def LeftOut (c : Controller) (enumerated : Devices) (f : Fan) : Prop :=
  f.Grouped ∧
    ((∀ l, ¬ PresentAt Fan.save FanMsg.hwId c.devices.fans enumerated.fans f.hwId l) ∨
    ∃ l x, c.fan? l = some x ∧ x.hwId = f.hwId ∧ x.save ≠ f.save ∧ c.testing? l = none ∧
      x.isConfigured = true)

/-- A Dell fan of the config replaces a fan in memory that is enabled, or that has no task and is
not configured yet; it keeps the label of that fan, or its own is in use nowhere. -/
def TakesOver (c : Controller) (enumerated confDevs : Devices) : Prop :=
  ∃ k f l x, confDevs.fans.find? k = some f ∧ f.type = .dell ∧ c.fan? l = some x ∧
    x.hwId = f.hwId ∧ x.save ≠ f.save ∧
    (k = l ∨ c.fan? k = none ∧ enumerated.fans.find? k = none) ∧
    (c.testing? l = some false ∨
      c.testing? l = none ∧ x.isConfigured = false ∧ f.isConfigured = true)

/-- An entry of `d` with its hardware id and another message replaces the fan. -/
def ReplacedBy (d : Devices) (f : Fan) : Prop :=
  ∃ k g, d.fans.find? k = some g ∧ g.hwId = f.hwId ∧ g.save ≠ f.save

/-- The Dell fan that is enabled under a label. -/
def DellEnabled (c : Controller) (l : String) (f : Fan) : Prop :=
  c.fan? l = some f ∧ f.type = .dell ∧ c.testing? l = some false

/-- A reload that reads a config leaves out no Dell fan, has a Dell fan take over or replaces every
Dell fan that is enabled. -/
def DellKept (parse : Text → Bool × ControllerMsg) (c : Controller) : Operation → Prop
  | .reload env found (some text) =>
    (∀ k f, (Devices.load env (parse text).2.devices).fans.find? k = some f →
      ¬ LeftOut c (Devices.enumerate found) f) ∨
    TakesOver c (Devices.enumerate found) (Devices.load env (parse text).2.devices) ∨
    ∀ l f, DellEnabled c l f → ReplacedBy (Devices.load env (parse text).2.devices) f
  | .enable _ | .enableAll | .disable _ | .disableAll | .test _ _ _ | .testWrites _ _
  | .testComplete _ _ | .reload _ _ none | .setDevices _ _ | .recover => True

/-- No turn of the merge leaves out a Dell fan, one enables one, or every Dell fan that is enabled
is replaced. -/
def MergesTogether (drv : Driver) (c : Controller) (d : Devices) : Prop :=
  (∀ t e, Loop.Turn (mergeFan drv true true) (c, false) d.fans.entries t e →
    ¬ LeavesOut true true t e) ∨
  (∃ t e, Loop.Turn (mergeFan drv true true) (c, false) d.fans.entries t e ∧
    EnablesDell true true t e) ∨
  ∀ l f, DellEnabled c l f → ReplacedBy d f

theorem fan?_reInsertFan_new {old new : String} {f : Fan}
    (h : new = old ∨ c.fan? new = none) : (c.reInsertFan old new f).fan? new = some f := by
  have hfree : (c.devices.fans.remove old).find? new = none := by
    rw [UnorderedMap.find?_remove]
    rcases h with rfl | h
    · exact if_pos rfl
    · split_ifs
      · rfl
      · exact h
  show ((c.devices.fans.remove old).emplace new f).find? new = some f
  rw [UnorderedMap.find?_emplace_of_none hfree, if_pos rfl]

/-- Ending a task before the fan is replaced makes no difference to the type of the fan that is then
under the new label. -/
theorem dell_of_freed {old new : String} {f g : Fan} {d : Controller} (h : Controls c d)
    (hg : (c.reInsertFan old new f).fan? new = some g) (htype : g.type = .dell) :
    ∃ g', (d.reInsertFan old new f).fan? new = some g' ∧ g'.type = .dell := by
  rcases fan?_reInsertFan_self hg with ⟨rfl, hfree⟩ | ⟨hne, hg⟩
  · refine ⟨g, fan?_reInsertFan_new (hfree.imp_right fun hnone => ?_), htype⟩
    refine Option.eq_none_iff_forall_ne_some.mpr fun y hy => ?_
    obtain ⟨x, hx, -⟩ := h.fan?_back hy
    cases hnone.symm.trans hx
  · obtain ⟨y, hy, hyg⟩ := h.fan? hg
    exact ⟨y, fan?_reInsertFan_of_ne hne hy, (grouped_of_uncontrolled hyg).1.mpr htype⟩

theorem enablesDell_flag {t t' : MergeState} {e : Sigma fun _ : String => Fan}
    (hids : DistinctHwIds Fan.hwId t.1.devices.fans) (h : EnablesDell true true t e)
    (hturn : mergeFan drv true true t e = some t') : t'.2 = true := by
  obtain ⟨old, x, g, ⟨hx, hid, hrep⟩, hg, htype, hcall⟩ := h
  have hsame : ∀ l y, t.1.fan? l = some y → y.hwId = e.2.hwId → l = old ∧ y = x := by
    intro l y hy hyid
    obtain rfl := hids l old y x hy hx (hyid.trans hid.symm)
    exact ⟨rfl, Option.some.inj (hy.symm.trans hx)⟩
  cases mergeTurn_of_mergeFan hturn with
  | add hnew => exact absurd hid (hnew old x hx)
  | keep hy hyid hnot =>
    obtain ⟨-, rfl⟩ := hsame _ _ hy hyid
    exact absurd hrep hnot
  | put hmatch hnone hquiet =>
    obtain ⟨rfl, rfl⟩ := hsame _ _ hmatch.1 hmatch.2.1
    rcases hcall with hfalse | ⟨-, hconf, hgconf⟩
    · cases hnone.symm.trans hfalse
    · rcases hquiet with hconf' | hgconf'
      · cases hconf.symm.trans hconf'
      · rw [hg, Option.any_some, hgconf] at hgconf'
        cases hgconf'
  | enable hmatch hfreed _ =>
    obtain ⟨rfl, -⟩ := hsame _ _ hmatch.1 hmatch.2.1
    obtain ⟨g', hg', htype'⟩ := dell_of_freed hfreed.controls hg htype
    exact enableMerged_dell hg' htype'

section

variable {replaceOnMatch deepCmp : Bool} {d : Devices} {s : MergeState}

theorem flag_of_loop {es : List (Sigma fun _ : String => Fan)} {t : MergeState}
    (h : es.foldlM (mergeFan drv replaceOnMatch deepCmp) t = some s) (ht : t.2 = true) :
    s.2 = true := by
  refine Loop.foldlM_keeps (P := fun t : MergeState => t.2 = true) (fun t e t' ht hstep => ?_) ht h
  cases ht' : t'.2 with
  | true => rfl
  | false => cases ht.symm.trans (flag_of_mergeTurn (mergeTurn_of_mergeFan hstep) ht')

theorem wellFormed_loop {es : List (Sigma fun _ : String => Fan)} {t : MergeState}
    (ht : WellFormed t.1) (hes : ∀ e ∈ es, e.2.label = e.1)
    (h : es.foldlM (mergeFan drv replaceOnMatch deepCmp) t = some s) : WellFormed s.1 := by
  refine Loop.foldlM_keeps_turns (P := fun t : MergeState => WellFormed t.1)
    (fun t e t' hturn ht hstep => ?_) ht h
  obtain ⟨before, after, hsplit, -⟩ := hturn
  exact ht.mergeFan (hes e (hsplit ▸ by simp)) hstep

/-- What the states of the loop satisfy in which `dell_fan_enabled` is not set. -/
theorem loop_keeps {P : Controller → Prop} (hwf : WellFormed c) (htended : Tended c)
    (hfresh : d.Fresh)
    (hturn : ∀ t e t', WellFormed t.1 → Tended t.1 → e.2.label = e.1 →
      Loop.Turn (mergeFan drv replaceOnMatch deepCmp) (c, false) d.fans.entries t e →
      MergeTurn drv replaceOnMatch deepCmp t e t' → t'.2 = false → P t.1 → P t'.1)
    (hc : P c) (hloop : d.fans.entries.foldlM (mergeFan drv replaceOnMatch deepCmp) (c, false) =
      some s) (hs : s.2 = false) : P s.1 := by
  have hall : WellFormed s.1 ∧ Tended s.1 ∧ (s.2 = false → P s.1) := by
    refine Loop.foldlM_keeps_turns
      (P := fun t : MergeState => WellFormed t.1 ∧ Tended t.1 ∧ (t.2 = false → P t.1))
      (fun t e t' ht hkept hstep => ?_) ⟨hwf, htended, fun _ => hc⟩ hloop
    obtain ⟨hwf', htended', hP⟩ := hkept
    obtain ⟨before, after, hsplit, -⟩ := id ht
    have he : e ∈ d.fans.entries := hsplit ▸ by simp
    have hlabel := (hfresh e.1 e.2 (UnorderedMap.mem_entries.mp he)).1
    have hmerge := mergeTurn_of_mergeFan hstep
    exact ⟨hwf'.mergeFan hlabel hstep, htended'.mergeFan hwf' hlabel hstep, fun ht' =>
      hturn t e t' hwf' htended' hlabel ht hmerge ht' (hP (flag_of_mergeTurn hmerge ht'))⟩
  exact hall.2.2 hs

theorem allHeld_loop (hdrv : drv.Enables) (hwf : WellFormed c) (htended : Tended c)
    (hfresh : d.Fresh)
    (hout : ∀ t e, Loop.Turn (mergeFan drv replaceOnMatch deepCmp) (c, false) d.fans.entries t e →
      ¬ LeavesOut replaceOnMatch deepCmp t e) (hc : AllHeld c)
    (hloop : d.fans.entries.foldlM (mergeFan drv replaceOnMatch deepCmp) (c, false) = some s)
    (hs : s.2 = false) : AllHeld s.1 :=
  loop_keeps hwf htended hfresh (fun t e _ hwf' _ hlabel ht hturn ht' h =>
    h.mergeTurn hdrv hwf'.labelled hlabel hturn ht' (hout t e ht)) hc hloop hs

theorem enabledBefore_loop (hdrv : drv.Enables) (hwf : WellFormed c) (htended : Tended c)
    (hfresh : d.Fresh)
    (hloop : d.fans.entries.foldlM (mergeFan drv replaceOnMatch deepCmp) (c, false) = some s)
    (hs : s.2 = false) : EnabledBefore c s.1 :=
  loop_keeps (P := EnabledBefore c) hwf htended hfresh
    (fun _ _ _ hwf' htended' hlabel _ hturn ht' h =>
      h.mergeTurn hdrv hwf'.labelled htended' hlabel hturn ht')
    (fun _ f hf _ htask => ⟨f, hf, rfl, htask⟩) hloop hs

theorem NoneEnabled.of_enabledBefore (h : NoneEnabled c) (hbefore : EnabledBefore c c') :
    NoneEnabled c' := by
  intro l f hf htype htask
  obtain ⟨f₀, hf₀, hsame, htask₀⟩ := hbefore l f hf htype htask
  exact h l f₀ hf₀ ((grouped_of_uncontrolled hsame).1.mp htype) htask₀

/-- `merge` keeps the Dell fans together if the loop does when it sets no flag. -/
theorem together_merge (hdrv : drv.Enables) (hwf : WellFormed c) (hfresh : d.Fresh)
    (hmerge : c.merge drv d replaceOnMatch deepCmp = some c')
    (hloop : ∀ s, d.fans.entries.foldlM (mergeFan drv replaceOnMatch deepCmp) (c, false) = some s →
      s.2 = false → Together s.1) : Together c' := by
  unfold Controller.merge at hmerge
  obtain ⟨s, hs, hmerge⟩ := Option.bind_eq_some_iff.mp hmerge
  obtain ⟨sensors, -, rfl⟩ := Option.map_eq_some_iff.mp hmerge
  show Together (if s.2 then s.1.enableDellFans drv none else s.1)
  cases hflag : s.2 with
  | false => exact hloop s hs hflag
  | true =>
    have hwf' : WellFormed s.1 := wellFormed_loop (t := (c, false)) hwf
      (fun e he => (hfresh e.1 e.2 (UnorderedMap.mem_entries.mp he)).1) hs
    exact Or.inl (allHeld_enableDellFans hdrv hwf'.labelled)

end

theorem unconfigured_enumerate (found : Found) {l : String} {f : Fan}
    (h : (Devices.enumerate found).fans.find? l = some f) : f.isConfigured = false := by
  obtain ⟨x, -, -, rfl⟩ := Devices.find?_enumerate h
  rfl

/-- The enumerated devices are not configured, so the first merge of a reload leaves out none. -/
theorem Together.mergeFound (h : Together c) (hdrv : drv.Enables) (hwf : WellFormed c)
    (htended : Tended c) {found : Found}
    (hmerge : c.merge drv (Devices.enumerate found) false false = some c') : Together c' := by
  refine together_merge hdrv hwf (Devices.fresh_enumerate found) hmerge fun s hs hflag => ?_
  rcases h with h | h
  · refine Or.inl (allHeld_loop hdrv hwf htended (Devices.fresh_enumerate found)
      (fun t e ht hout => ?_) h hs hflag)
    obtain ⟨before, after, hsplit, -⟩ := ht
    have he : e ∈ (Devices.enumerate found).fans.entries := hsplit ▸ by simp
    have hconf := unconfigured_enumerate found (UnorderedMap.mem_entries.mp he)
    rw [hout.1.2.2] at hconf
    cases hconf
  · exact Or.inr (h.of_enabledBefore
      (enabledBefore_loop hdrv hwf htended (Devices.fresh_enumerate found) hs hflag))

/-- The merge with the loaded devices. -/
theorem Together.mergeLoaded (h : Together c) (hdrv : drv.Enables) (hwf : WellFormed c)
    (htended : Tended c) {env : Env} {d : DevicesMsg}
    (hmerges : ∀ s, (Devices.load env d).fans.entries.foldlM (mergeFan drv true true) (c, false) =
      some s → MergesTogether drv c (Devices.load env d))
    (hmerge : c.merge drv (Devices.load env d) true true = some c') : Together c' := by
  have hfresh := Devices.fresh_load env d
  refine together_merge hdrv hwf hfresh hmerge fun s hs hflag => ?_
  have hbefore := enabledBefore_loop hdrv hwf htended hfresh hs hflag
  rcases hmerges s hs with hout | ⟨t, e, ht, hcall⟩ | hreplaced
  · rcases h with h | h
    · exact Or.inl (allHeld_loop hdrv hwf htended hfresh hout h hs hflag)
    · exact Or.inr (h.of_enabledBefore hbefore)
  · obtain ⟨t', after, hturn, hrest⟩ := ht.split hs
    obtain ⟨before, after', hsplit, hfirst⟩ := ht
    have hwf' : WellFormed t.1 := by
      refine wellFormed_loop (t := (c, false)) hwf (fun e he => ?_) hfirst
      have hmem : e ∈ (Devices.load env d).fans.entries :=
        hsplit ▸ List.mem_append_left _ he
      exact (hfresh e.1 e.2 (UnorderedMap.mem_entries.mp hmem)).1
    rw [flag_of_loop hrest (enablesDell_flag hwf'.fanHwIds hcall hturn)] at hflag
    cases hflag
  · refine Or.inr fun l f hf htype htask => ?_
    obtain ⟨f₀, hf₀, hsame, htask₀⟩ := hbefore l f hf htype htask
    obtain ⟨k, g, hg, hid, hdiffers⟩ :=
      hreplaced l f₀ ⟨hf₀, (grouped_of_uncontrolled hsame).1.mp htype, htask₀⟩
    have hsave := Fan.save_of_uncontrolled hsame
    have hsteps := mergeDevices_steps (mergeFan_spec drv) hs
    have hnew : f.save = g.save := hsteps.value_eq ((distinct_view Fan.hwId_save).mpr hwf.fanHwIds)
      (nodup_idents_messages Fan.hwId_save (distinct_load_fans env d))
      (fun v w hnot => by_contra fun hne => hnot ⟨rfl, fun _ => hne⟩)
      (List.mem_map.mpr ⟨⟨k, g⟩, UnorderedMap.mem_entries.mpr hg, rfl⟩)
      (view_eq_some.mpr ⟨f, hf, rfl⟩)
      (by rw [hsave, Fan.hwId_save, Fan.hwId_save, hid])
    exact absurd (hnew.symm.trans hsave) hdiffers

/-! ## The merge with the enumerated devices -/

/-- `c₁` is `c` with devices of `d` added. -/
structure Joined (c : Controller) (d : Devices) (c₁ : Controller) : Prop where
  tasks : c₁.tasks = c.tasks
  kept : ∀ l f, c.fan? l = some f → c₁.fan? l = some f
  back : ∀ l f, c₁.fan? l = some f → c.fan? l = some f ∨ d.fans.find? l = some f

theorem joined_of_merge {d : Devices} {deepCmp : Bool} {c₁ : Controller}
    (h : c.merge drv d false deepCmp = some c₁) : Joined c d c₁ := by
  unfold Controller.merge at h
  obtain ⟨s, hs, h⟩ := Option.bind_eq_some_iff.mp h
  obtain ⟨sensors, -, rfl⟩ := Option.map_eq_some_iff.mp h
  have hloop : Joined c d s.1 ∧ s.2 = false := by
    refine Loop.foldlM_keeps_turns (P := fun t : MergeState => Joined c d t.1 ∧ t.2 = false)
      (fun t e t' hturn ht hstep => ?_) ⟨⟨rfl, fun _ _ => id, fun _ _ => Or.inl⟩, rfl⟩ hs
    obtain ⟨before, after, hsplit, -⟩ := hturn
    have he : d.fans.find? e.1 = some e.2 := UnorderedMap.mem_entries.mp (hsplit ▸ by simp)
    cases mergeTurn_of_mergeFan hstep with
    | add _ =>
      refine ⟨⟨ht.1.tasks, fun l f hf => fan?_addFan_of_some (ht.1.kept l f hf), fun l f hf => ?_⟩,
        ht.2⟩
      rcases fan?_addFan hf with ⟨rfl, rfl⟩ | hf
      · exact Or.inr he
      · exact ht.1.back l f hf
    | keep _ _ _ => exact ht
    | put hmatch _ _ => cases hmatch.2.2.1
    | enable hmatch _ _ => cases hmatch.2.2.1
  rw [hloop.2]
  exact ⟨hloop.1.tasks, hloop.1.kept, hloop.1.back⟩

theorem Joined.testing? {d : Devices} {c₁ : Controller} (h : Joined c d c₁) (l : String) :
    c₁.testing? l = c.testing? l := by
  rw [Controller.testing?, h.tasks, ← Controller.testing?]

/-! ## A fan until its turn comes -/

/-- The fan under the label is still `f`, and its task is the same. -/
def Remains (c : Controller) (l : String) (f : Fan) (task : Option Bool) : Prop :=
  ∃ g, c.fan? l = some g ∧ g.uncontrolled = f.uncontrolled ∧ c.testing? l = task

theorem Remains.enableAlone {l : String} {f : Fan} {task : Option Bool} (h : Remains c l f task)
    (hdrv : drv.Enables) (hc : Labelled c) (hidle : task = none → f.isConfigured = false)
    (k : String) : Remains (c.enableAlone drv k) l f task := by
  obtain ⟨g, hg, hgf, htask⟩ := h
  have hcontrols : Controls c (c.enableAlone drv k) := controls_enableAlone c k
  obtain ⟨x, hx, hxg⟩ := hcontrols.fan? hg
  refine ⟨x, hx, hxg.trans hgf, ?_⟩
  rcases testing?_enableAlone hdrv hc k l with heq | ⟨rfl, hnone, ⟨y, hy, -, hconf⟩, -⟩
  · exact heq.trans htask
  · obtain rfl := Option.some.inj (hg.symm.trans hy)
    rw [Fan.isConfigured_of_uncontrolled hgf, hidle (htask.symm.trans hnone)] at hconf
    cases hconf

theorem Remains.mergeTurn {replaceOnMatch deepCmp : Bool} {t t' : MergeState}
    {e : Sigma fun _ : String => Fan} {l : String} {f : Fan} {task : Option Bool}
    (h : Remains t.1 l f task) (hdrv : drv.Enables) (hc : Labelled t.1) (he : e.2.label = e.1)
    (hidle : task = none → f.isConfigured = false) (hid : f.hwId ≠ e.2.hwId)
    (hturn : MergeTurn drv replaceOnMatch deepCmp t e t') : Remains t'.1 l f task := by
  obtain ⟨g, hg, hgf, htask⟩ := h
  have hold : ∀ old x, Matches replaceOnMatch deepCmp t.1 e old x → l ≠ old := by
    rintro old x hmatch rfl
    obtain rfl := Option.some.inj (hg.symm.trans hmatch.1)
    exact hid ((Fan.hwId_of_uncontrolled hgf).symm.trans hmatch.2.1)
  cases hturn with
  | add _ => exact ⟨g, fan?_addFan_of_some hg, hgf, htask⟩
  | keep _ _ _ => exact ⟨g, hg, hgf, htask⟩
  | put hmatch _ _ => exact ⟨g, fan?_reInsertFan_of_ne (hold _ _ hmatch) hg, hgf, htask⟩
  | @enable old x d hmatch hfreed _ =>
    have hl := hold _ _ hmatch
    obtain ⟨y, hy, hyg⟩ := hfreed.controls.fan? hg
    have hremains : Remains (d.reInsertFan old e.1 e.2) l f task :=
      ⟨y, fan?_reInsertFan_of_ne hl hy, hyg.trans hgf, (hfreed.others l hl).trans htask⟩
    exact hremains.enableAlone hdrv ((hc.controls hfreed.controls).reInsertFan he) hidle e.1

section

variable {d : Devices} {t : MergeState} {e : Sigma fun _ : String => Fan}

/-- The entries before the one whose turn it is have other hardware ids. -/
theorem before_of_turn (hd : DistinctHwIds Fan.hwId d.fans)
    (hturn : Loop.Turn (mergeFan drv true true) (c, false) d.fans.entries t e) :
    ∃ before : List (Sigma fun _ : String => Fan),
      (∀ b ∈ before, d.fans.find? b.1 = some b.2 ∧ b.1 ≠ e.1 ∧ b.2.hwId ≠ e.2.hwId) ∧
      d.fans.find? e.1 = some e.2 ∧
      before.foldlM (mergeFan drv true true) (c, false) = some t := by
  obtain ⟨before, after, hsplit, hloop⟩ := hturn
  have hkeys : (d.fans.entries.map Sigma.fst).Nodup := d.fans.keys_nodup
  have hids := nodup_hwIds_iff.mpr hd
  rw [hsplit, List.map_append, List.map_cons] at hkeys hids
  refine ⟨before, fun b hb => ⟨?_, fun heq => ?_, fun heq => ?_⟩, ?_, hloop⟩
  · exact UnorderedMap.mem_entries.mp (hsplit ▸ List.mem_append_left _ hb)
  · exact List.disjoint_of_nodup_append hkeys (List.mem_map_of_mem hb) (heq ▸ List.mem_cons_self)
  · exact List.disjoint_of_nodup_append hids (List.mem_map_of_mem hb) (heq ▸ List.mem_cons_self)
  · exact UnorderedMap.mem_entries.mp (hsplit ▸ by simp)

/-- What the turns before its own make of the fan that an entry replaces. -/
theorem remains_at_turn (hdrv : drv.Enables) (hwf : WellFormed c) (hfresh : d.Fresh)
    (hd : DistinctHwIds Fan.hwId d.fans)
    (hturn : Loop.Turn (mergeFan drv true true) (c, false) d.fans.entries t e) {l : String}
    {f : Fan} (hf : c.fan? l = some f) (hid : f.hwId = e.2.hwId)
    (hidle : c.testing? l = none → f.isConfigured = false) : Remains t.1 l f (c.testing? l) := by
  obtain ⟨before, hbefore, -, hloop⟩ := before_of_turn hd hturn
  have hall : WellFormed t.1 ∧ Remains t.1 l f (c.testing? l) := by
    refine Loop.foldlM_keeps_turns
      (P := fun t : MergeState => WellFormed t.1 ∧ Remains t.1 l f (c.testing? l))
      (s := (c, false)) (fun u b u' hu hP hstep => ?_) ⟨hwf, f, hf, rfl, rfl⟩ hloop
    obtain ⟨first, last, hsplit, -⟩ := hu
    obtain ⟨hb, -, hids⟩ := hbefore b (hsplit ▸ by simp)
    have hlabel := (hfresh b.1 b.2 hb).1
    exact ⟨hP.1.mergeFan hlabel hstep, hP.2.mergeTurn hdrv hP.1.labelled hlabel hidle
      (fun heq => hids (heq.symm.trans hid)) (mergeTurn_of_mergeFan hstep)⟩
  exact hall.2

/-- The messages with the hardware id of an entry are the same when its turn comes. -/
theorem view_at_turn (hd : DistinctHwIds Fan.hwId d.fans)
    (hturn : Loop.Turn (mergeFan drv true true) (c, false) d.fans.entries t e) {l : String}
    {w : FanMsg} (hw : w.hwId = e.2.hwId) :
    view Fan.save t.1.devices.fans l = some w ↔ view Fan.save c.devices.fans l = some w := by
  obtain ⟨before, hbefore, -, hloop⟩ := before_of_turn hd hturn
  refine (mergeDevices_steps (mergeFan_spec drv) hloop).other fun b hb => ?_
  obtain ⟨x, hx, rfl⟩ := List.mem_map.mp hb
  rw [Fan.hwId_save, hw]
  exact (hbefore x hx).2.2

/-- A label that is in use nowhere is so when the turn of its entry comes. -/
theorem free_at_turn (hd : DistinctHwIds Fan.hwId d.fans)
    (hturn : Loop.Turn (mergeFan drv true true) (c, false) d.fans.entries t e)
    (hfree : c.fan? e.1 = none) : t.1.fan? e.1 = none := by
  obtain ⟨before, hbefore, -, hloop⟩ := before_of_turn hd hturn
  refine Option.eq_none_iff_forall_ne_some.mpr fun x hx => ?_
  rcases (mergeDevices_steps (mergeFan_spec drv) hloop).key_mem
    (view_eq_some.mpr ⟨x, hx, rfl⟩) with ⟨w, hw⟩ | ⟨b, hb, heq⟩
  · obtain ⟨y, hy, -⟩ := view_eq_some.mp hw
    cases hfree.symm.trans hy
  · obtain ⟨b, hmem, rfl⟩ := List.mem_map.mp hb
    exact (hbefore b hmem).2.1 heq

end

/-! ## `reload` -/

section

variable {parse : Text → Bool × ControllerMsg} {env : Env} {found : Found} {text : Text}
  {c₁ : Controller}

/-- In the turn of an entry that leaves out its fan, the reload does so. -/
theorem leftOut_of_leavesOut (hdrv : drv.Enables) (hwf₁ : WellFormed c₁)
    (hjoined : Joined c (Devices.enumerate found) c₁) (hfound : Steps FanMsg.hwId
      (ReplacesOnMatch false false) (view Fan.save c.devices.fans)
      (messages Fan.save (Devices.enumerate found).fans) (view Fan.save c₁.devices.fans))
    {d : DevicesMsg}
    {t : MergeState} {e : Sigma fun _ : String => Fan}
    (hturn : Loop.Turn (mergeFan drv true true) (c₁, false) (Devices.load env d).fans.entries t e)
    (hout : LeavesOut true true t e) : LeftOut c (Devices.enumerate found) e.2 := by
  obtain ⟨hgrouped, ⟨hnew, -⟩ | ⟨old, x, ⟨hx, hid, -, hdiffers⟩, hnone, hconf, -⟩⟩ := hout
  · refine ⟨hgrouped, Or.inl fun l hl => ?_⟩
    obtain ⟨w, hw, hwid⟩ := (heldAt_found hfound).mpr hl
    obtain ⟨x, hx, rfl⟩ := view_eq_some.mp
      ((view_at_turn (distinct_load_fans env d) hturn hwid).mpr hw)
    exact hnew l x hx ((Fan.hwId_save x).symm.trans hwid)
  · obtain ⟨y, hy, hsave⟩ := view_eq_some.mp ((view_at_turn (distinct_load_fans env d) hturn
      ((Fan.hwId_save x).trans hid)).mp (view_eq_some.mpr ⟨x, hx, rfl⟩))
    have hyid : y.hwId = e.2.hwId := by rw [← hid, ← Fan.hwId_save, hsave, Fan.hwId_save]
    have hremains := remains_at_turn hdrv hwf₁ (Devices.fresh_load env d)
      (distinct_load_fans env d) hturn hy hyid
    -- a task, or no curve, would still be there when the turn comes
    have hidle : c₁.testing? old = none := by
      by_contra htask
      obtain ⟨-, -, -, heq⟩ := hremains fun h => absurd h htask
      exact htask (heq.symm.trans hnone)
    have hyconf : y.isConfigured = true := by
      by_contra hnot
      obtain ⟨g, hg, hgy, -⟩ := hremains fun _ => Bool.eq_false_iff.mpr hnot
      obtain rfl := Option.some.inj (hg.symm.trans hx)
      exact hnot ((Fan.isConfigured_of_uncontrolled hgy).symm.trans hconf)
    refine ⟨hgrouped, Or.inr ⟨old, y, ?_, hyid, ?_, (hjoined.testing? old).symm.trans hidle,
      hyconf⟩⟩
    · refine (hjoined.back old y hy).resolve_right fun henumerated => ?_
      rw [unconfigured_enumerate found henumerated] at hyconf
      cases hyconf
    · rw [hsave]
      exact fun heq => hdiffers rfl heq.symm

/-- The turn of the fan that takes over enables it. -/
theorem enablesDell_of_takesOver (hdrv : drv.Enables) (hwf₁ : WellFormed c₁)
    (hjoined : Joined c (Devices.enumerate found) c₁) {d : DevicesMsg}
    (h : TakesOver c (Devices.enumerate found) (Devices.load env d)) {s : MergeState}
    (hloop : (Devices.load env d).fans.entries.foldlM (mergeFan drv true true) (c₁, false) =
      some s) : ∃ t e, Loop.Turn (mergeFan drv true true) (c₁, false)
        (Devices.load env d).fans.entries t e ∧ EnablesDell true true t e := by
  obtain ⟨k, f, l, x, hf, htype, hx, hid, hdiffers, hlabel, hcall⟩ := h
  obtain ⟨before, after, hsplit⟩ := List.append_of_mem
    (UnorderedMap.mem_entries (e := ⟨k, f⟩) |>.mpr hf)
  rw [hsplit, List.foldlM_append] at hloop
  obtain ⟨t, ht, -⟩ := Option.bind_eq_some_iff.mp hloop
  have hturn : Loop.Turn (mergeFan drv true true) (c₁, false) (Devices.load env d).fans.entries t
      ⟨k, f⟩ := ⟨before, after, hsplit, ht⟩
  have hdistinct := distinct_load_fans env d
  have hidle : c₁.testing? l = none → x.isConfigured = false := by
    rw [hjoined.testing?]
    rintro hnone
    rcases hcall with htask | ⟨-, hconf, -⟩
    · cases hnone.symm.trans htask
    · exact hconf
  obtain ⟨g, hg, hgx, htask⟩ := remains_at_turn hdrv hwf₁ (Devices.fresh_load env d) hdistinct
    hturn (hjoined.kept l x hx) hid hidle
  rw [hjoined.testing?] at htask
  have hnew : (t.1.reInsertFan l k f).fan? k = some f := by
    refine fan?_reInsertFan_new (hlabel.imp_right fun hfree => free_at_turn hdistinct hturn ?_)
    refine Option.eq_none_iff_forall_ne_some.mpr fun y hy => ?_
    rcases hjoined.back k y hy with hy | hy
    · cases hfree.1.symm.trans hy
    · cases hfree.2.symm.trans hy
  refine ⟨t, ⟨k, f⟩, hturn, l, g, f,
    ⟨hg, (Fan.hwId_of_uncontrolled hgx).trans hid, rfl, fun _ => ?_⟩, hnew, htype, ?_⟩
  · rw [Fan.save_of_uncontrolled hgx]
    exact hdiffers.symm
  · rw [htask, Fan.isConfigured_of_uncontrolled hgx]
    exact hcall

theorem mergesTogether_of_kept (hdrv : drv.Enables) (htended : Tended c) (hwf₁ : WellFormed c₁)
    (hjoined : Joined c (Devices.enumerate found) c₁) (hfound : Steps FanMsg.hwId
      (ReplacesOnMatch false false) (view Fan.save c.devices.fans)
      (messages Fan.save (Devices.enumerate found).fans) (view Fan.save c₁.devices.fans))
    (hkept : DellKept parse c (.reload env found (some text))) {s : MergeState}
    (hloop : (Devices.load env (parse text).2.devices).fans.entries.foldlM
      (mergeFan drv true true) (c₁, false) = some s) :
    MergesTogether drv c₁ (Devices.load env (parse text).2.devices) := by
  rcases hkept with hnone | htakes | hreplaced
  · refine Or.inl fun t e hturn hout => ?_
    obtain ⟨-, -, he, -⟩ := before_of_turn (distinct_load_fans env _) hturn
    exact hnone e.1 e.2 he (leftOut_of_leavesOut hdrv hwf₁ hjoined hfound hturn hout)
  · exact Or.inr (Or.inl (enablesDell_of_takesOver hdrv hwf₁ hjoined htakes hloop))
  · refine Or.inr (Or.inr fun l f ⟨hf, htype, htask⟩ => hreplaced l f ⟨?_, htype, ?_⟩)
    · rw [hjoined.testing?] at htask
      obtain ⟨g, hg, -⟩ := htended l htask
      rw [hjoined.kept l g hg] at hf
      rwa [← Option.some.inj hf]
    · rwa [hjoined.testing?] at htask

theorem Together.reload (h : Together c) (hdrv : drv.Enables) (hwf : WellFormed c)
    (htended : Tended c) {file : Option Text} (hkept : DellKept parse c (.reload env found file))
    (hreload : c.reload drv env parse (Devices.enumerate found) file = some c') : Together c' := by
  obtain ⟨c₁, h₁, hrest⟩ := reload_parts hreload
  have hfresh := Devices.fresh_enumerate found
  have htogether := h.mergeFound hdrv hwf htended h₁
  have hwf₁ := hwf.merge hfresh h₁
  have htended₁ := htended.merge hwf hfresh h₁
  rcases hrest with ⟨-, rfl, -⟩ | ⟨msg, hmsg, h₂, -⟩
  · exact htogether
  · cases file with
    | none => cases hmsg
    | some text =>
      obtain rfl := Option.some.inj hmsg
      have hload : Together { c₁ with settings := c₁.settings.load (parse text).2.config } :=
        htogether
      have hjoined := joined_of_merge h₁
      exact hload.mergeLoaded hdrv (hwf₁.withSettings _) htended₁ (fun s hs =>
        mergesTogether_of_kept hdrv htended (hwf₁.withSettings _)
          ⟨hjoined.tasks, hjoined.kept, hjoined.back⟩ (merge_steps h₁).2.1 hkept hs) h₂

end

/-! ## Every run -/

theorem Together.perform (h : Together c) (hdrv : drv.Enables) (hwf : WellFormed c)
    (htended : Tended c) {parse : Text → Bool × ControllerMsg} {op : Operation}
    (hkept : DellKept parse c op) (hop : c.perform drv parse op = some c') : Together c' := by
  cases op with
  | enable l => exact Option.some.inj hop ▸ h.enable hdrv hwf.labelled l
  | enableAll => exact Option.some.inj hop ▸ Or.inl (allHeld_enableAll hdrv hwf.labelled)
  | disable l => exact h.disable hop
  | disableAll => exact Or.inr (noneEnabled_of_idle (tasks_disableAll hop))
  | test l forced blocking => exact h.test hop
  | testWrites l r => exact h.testWrites hop
  | testComplete l r => exact h.testComplete hdrv hwf hop
  | reload env found file => exact h.reload hdrv hwf htended hkept hop
  | setDevices env d =>
    obtain ⟨c₁, -, rfl⟩ := Option.map_eq_some_iff.mp hop
    exact Or.inl (allHeld_enableAll hdrv fun l f hf => (Devices.fresh_load env d l f hf).1)
  | recover => exact Option.some.inj hop ▸ h.recover drv

/-- **Dell fans are controlled together in every run whose reloads leave none out, have one take
over or replace all that are enabled.** -/
theorem dell_fans_together (parse : Text → Bool × ControllerMsg) (c : Controller)
    (hc : Transition.ReachableWhen (system parse Driver.Enables) (DellKept parse) c)
    (huntested : Untested c) : ControlledTogether c := by
  have hrun : WellFormed c ∧ Tended c ∧ Together c := by
    refine Transition.ReachableWhen.invariant
      (fun c => WellFormed c ∧ Tended c ∧ Together c) ?_ ?_ hc
    · rintro _ rfl
      exact ⟨wellFormed_start, (fun _ h => by cases h), Or.inr fun _ _ hf => nomatch hf⟩
    · rintro c op c' ⟨hwf, htended, h⟩ hkept ⟨drv, hdrv, hop⟩
      exact ⟨hwf.perform hop, htended.perform hwf hop, h.perform hdrv hwf htended hkept hop⟩
  exact hrun.2.2.controlled huntested

/-! ## Two Dell fans -/

def dellPaths (n : String) : FanPaths :=
  ⟨"/sys/pwm" ++ n, "/sys/fan" ++ n ++ "_input", "/sys/pwm" ++ n ++ "_enable", 2⟩

def dellFound : Found where
  fans := [⟨"fan1", .dell (dellPaths "1"), false⟩, ⟨"fan2", .dell (dellPaths "2"), false⟩]

/-- The entry of a Dell fan with a calibration and a curve. -/
def dellMsg (n : String) (startPwm : U32) (ignore : Bool) : FanMsg where
  type := .dell
  label := "fan" ++ n
  sensor := "k10temp"
  tempToRpm := "40: 800".toList
  rpmToPwm := "800: 100".toList
  startPwm := startPwm
  ignore := ignore
  driverFlag := 2
  pwmPath := (dellPaths n).pwmPath
  rpmPath := (dellPaths n).rpmPath
  enablePath := (dellPaths n).enablePath

/-- The entry of the Dell fan, up to its end. -/
def dellEntry (n : String) : Text :=
  ("fan \x7b type: DELL label: \"fan" ++ n ++ "\" sensor: \"k10temp\" temp_to_rpm: \"40: 800\" " ++
    "rpm_to_pwm: \"800: 100\" driver_flag: 2 pwm_path: \"/sys/pwm" ++ n ++ "\" rpm_path: " ++
    "\"/sys/fan" ++ n ++ "_input\" enable_path: \"/sys/pwm" ++ n ++ "_enable\" ").toList

/-- A text with more fields in two places. -/
def withFields (first second last fields₁ fields₂ : Text) : Text :=
  first ++ fields₁ ++ second ++ fields₂ ++ last

theorem withFields_ne {first second last fields₁ fields₂ others₁ others₂ : Text}
    (h : fields₁.length + fields₂.length ≠ others₁.length + others₂.length) :
    withFields first second last fields₁ fields₂ ≠
      withFields first second last others₁ others₂ := by
  intro heq
  have hlength := congrArg List.length heq
  simp only [withFields, List.length_append] at hlength
  omega

/-- The text of both entries and of their sensor, with more fields in each entry. -/
def dellText : Text → Text → Text :=
  withFields ("devices \x7b ".toList ++ dellEntry "1") ("\x7d ".toList ++ dellEntry "2")
    "\x7d sensor \x7b label: \"k10temp\" input_path: \"/sys/temp1_input\" \x7d \x7d".toList

def bothText : Text := dellText [] []

def startText : Text := dellText "start_pwm: 60 ".toList []

def ignoredText : Text := dellText [] "ignore: true ".toList

def dellDevices (startPwm : U32) (ignore : Bool) : DevicesMsg :=
  ⟨[dellMsg "1" startPwm false, dellMsg "2" 0 ignore], [coldSensor.save]⟩

def parseDell : Text → Bool × ControllerMsg := parserOf
  [(bothText, true, { devices := dellDevices 0 false }),
    (startText, true, { devices := dellDevices 60 false }),
    (ignoredText, true, { devices := dellDevices 0 true })]

theorem parseDell_both : parseDell bothText = (true, { devices := dellDevices 0 false }) :=
  parserOf_self _ _ _

theorem parseDell_start : parseDell startText = (true, { devices := dellDevices 60 false }) := by
  have hboth : startText ≠ bothText := withFields_ne (by decide)
  rw [parseDell, parserOf_of_ne hboth, parserOf_self]

theorem parseDell_ignored : parseDell ignoredText = (true, { devices := dellDevices 0 true }) := by
  have hboth : ignoredText ≠ bothText := withFields_ne (by decide)
  have hstart : ignoredText ≠ startText := withFields_ne (by decide)
  rw [parseDell, parserOf_of_ne hboth, parserOf_of_ne hstart, parserOf_self]

/-- The state after a text of these devices is read. -/
def dellAfter (c : Controller) (d : DevicesMsg) : Controller :=
  (c.reloadFrom willingDriver (Devices.enumerate dellFound)
    (some ({}, Devices.load readyEnv d))).getD c

theorem reload_dellAfter {text : Text} {d : DevicesMsg}
    (htext : parseDell text = (true, { devices := d }))
    (h : (c.reloadFrom willingDriver (Devices.enumerate dellFound)
      (some ({}, Devices.load readyEnv d))).isSome = true) :
    c.reload willingDriver readyEnv parseDell (Devices.enumerate dellFound) (some text) =
      some (dellAfter c d) := by
  obtain ⟨c', hc'⟩ := Option.isSome_iff_exists.mp h
  rw [dellAfter, hc', Option.getD_some, Controller.reload, readConfig, Option.map_some, htext]
  exact hc'

/-- Both fans, enabled. -/
def bothDell : Controller :=
  ({ devices := Devices.load readyEnv (dellDevices 0 false) } : Controller).enableAll willingDriver

/-- A fan that is enabled is not left out. -/
theorem not_leftOut_of_enabled (hwf : WellFormed c) {enumerated : Devices} {l : String} {f x : Fan}
    (hx : c.fan? l = some x) (hid : x.hwId = f.hwId) (htask : c.testing? l = some false) :
    ¬ LeftOut c enumerated f := by
  rintro ⟨-, hnone | ⟨k, y, hy, hyid, -, hidle, -⟩⟩
  · refine hnone l ⟨x.save, Or.inl (view_eq_some.mpr ⟨x, hx, rfl⟩), ?_⟩
    rw [Fan.hwId_save, hid]
  · obtain rfl := hwf.fanHwIds l k x y hx hy (hid.trans hyid.symm)
    cases htask.symm.trans hidle

theorem bothDell_wellFormed : WellFormed bothDell := wellFormed_setDevices
  (rfl : ({} : Controller).setDevices willingDriver readyEnv (dellDevices 0 false) = some bothDell)

theorem dellKept_both :
    DellKept parseDell bothDell (.reload readyEnv dellFound (some startText)) := by
  refine Or.inl fun k f hf => ?_
  rw [parseDell_start] at hf
  have hall : ∀ e ∈ (Devices.load readyEnv (dellDevices 60 false)).fans.entries,
      ∃ p ∈ bothDell.devices.fans.entries, p.2.hwId = e.2.hwId ∧
        bothDell.testing? p.1 = some false := by decide +kernel
  obtain ⟨⟨l, x⟩, hp, hid, htask⟩ := hall ⟨k, f⟩ (UnorderedMap.mem_entries.mpr hf)
  exact not_leftOut_of_enabled bothDell_wellFormed (UnorderedMap.mem_entries.mp hp) hid htask

/-- Both fans with another start PWM for the first. -/
def bothReloaded : Controller := dellAfter bothDell (dellDevices 60 false)

/-- Two fans that can be enabled are, and a reload replaces the first. -/
theorem dell_fans_together_both :
    (∀ e ∈ bothReloaded.devices.fans.entries, e.2.Grouped) ∧
    bothReloaded.devices.fans.contains "fan1" = true ∧
    bothReloaded.devices.fans.contains "fan2" = true ∧ ControlledTogether bothReloaded := by
  have hboth : Transition.ReachableWhen (system parseDell Driver.Enables) (DellKept parseDell)
      bothDell := .step (a := .setDevices readyEnv (dellDevices 0 false)) (.init rfl) trivial
    ⟨willingDriver, fun _ => rfl, rfl⟩
  have hreload : Transition.ReachableWhen (system parseDell Driver.Enables) (DellKept parseDell)
      bothReloaded :=
    .step (a := .reload readyEnv dellFound (some startText)) hboth dellKept_both
      ⟨willingDriver, fun _ => rfl, reload_dellAfter parseDell_start (by decide +kernel)⟩
  exact ⟨by decide +kernel, by decide +kernel, by decide +kernel,
    dell_fans_together parseDell _ hreload (untested_of_keys (by decide +kernel))⟩

/-- The second fan is ignored at first. -/
def ignoredDell : Controller := dellAfter {} (dellDevices 0 true)

def wantedDell : Controller := dellAfter ignoredDell (dellDevices 0 false)

theorem reachable_wantedDell :
    Transition.Reachable (system parseDell Driver.Enables) wantedDell := by
  have hignored : Transition.Reachable (system parseDell Driver.Enables) ignoredDell :=
    .step (a := .reload readyEnv dellFound (some ignoredText)) (.init rfl) trivial
      ⟨willingDriver, fun _ => rfl, reload_dellAfter parseDell_ignored (by decide +kernel)⟩
  exact .step (a := .reload readyEnv dellFound (some bothText)) hignored trivial
    ⟨willingDriver, fun _ => rfl, reload_dellAfter parseDell_both (by decide +kernel)⟩

/-- A fan that is no longer ignored is left without a task, though the other has one. -/
theorem dell_fan_left_out :
    ¬ ∀ (parse : Text → Bool × ControllerMsg) (c : Controller),
      Transition.Reachable (system parse Driver.Enables) c → Untested c → ControlledTogether c := by
  intro h
  have hfirst : (wantedDell.fan? "fan1").any (fun f => decide f.Grouped) = true := by
    decide +kernel
  have hsecond : (wantedDell.fan? "fan2").any (fun f => decide f.Grouped) = true := by
    decide +kernel
  have htasks : wantedDell.tasks.keys = ["fan1"] := by decide +kernel
  obtain ⟨f, hf, hfgrouped⟩ := (Option.any_eq_true _ _).mp hfirst
  obtain ⟨g, hg, hggrouped⟩ := (Option.any_eq_true _ _).mp hsecond
  have hin := SortedMap.contains_iff.mpr (htasks.symm ▸ List.mem_singleton_self "fan1")
  have huntested : Untested wantedDell := untested_of_keys (by decide +kernel)
  rcases h parseDell wantedDell reachable_wantedDell huntested with hall | hnone
  · have hcontains := SortedMap.contains_iff.mp (hall "fan2" g hg (of_decide_eq_true hggrouped))
    rw [htasks] at hcontains
    simp at hcontains
  · rw [hnone "fan1" f hf (of_decide_eq_true hfgrouped)] at hin
    cases hin

end Controller

end Fancon
