import Fancon.Controller.DellReload

/-! # A reload respects which fans are on

The turns of `merge` for the other devices leave a fan and its task alone: they end the task of
the fan they replace, and start one under their own label. So what becomes of a task is decided by
the turn of the fan's own entry (`merge_respects_enabled`). A Dell fan is the exception, for one
that is enabled enables them all.
-/
set_option autoImplicit false
set_option maxHeartbeats 250000
set_option maxRecDepth 120000

namespace Fancon

open KeyedMerge

/-- Devices as they are built for a merge: every fan under its label, no hardware id twice. -/
structure Incoming where
  devices : Devices
  labelled : ∀ l f, devices.fans.find? l = some f → f.label = l
  fanHwIds : DistinctHwIds Fan.hwId devices.fans

/-- `Devices::from` of a message. -/
def Incoming.load (env : Env) (d : DevicesMsg) : Incoming where
  devices := Devices.load env d
  labelled l f hf := (Devices.fresh_load env d l f hf).1
  fanHwIds := distinct_load_fans env d

namespace Controller

variable {drv : Driver} {c c' : Controller}

/-! ## What is claimed -/

/-- The fan is `f` under its label in `c` and `g` in the merged devices. -/
structure Respected (c c' : Controller) (l : String) (f g : Fan) : Prop where
  held : ∃ x, c'.fan? l = some x ∧ x.hwId = f.hwId
  enabled : c.tasks.contains l = true → c'.tasks.contains l = true
  disabled : c.tasks.contains l = false → f.isConfigured = true → c'.tasks.contains l = false
  configured : c.tasks.contains l = false → f.isConfigured = false → g.deepEqual f = false →
    c'.tasks.contains l = true

/-! ## The turns of the other devices -/

/-- The fan under the label and its task. -/
def Stays (c : Controller) (l : String) (f : Fan) (task : Option Bool) : Prop :=
  ∃ g, c.fan? l = some g ∧ g.uncontrolled = f.uncontrolled ∧ c.testing? l = task

theorem Stays.controls {l : String} {f : Fan} {task : Option Bool} (h : Stays c l f task)
    (hcontrols : Controls c c') (htask : c'.testing? l = c.testing? l) : Stays c' l f task := by
  obtain ⟨g, hg, hgf, hl⟩ := h
  obtain ⟨x, hx, hxg⟩ := hcontrols.fan? hg
  exact ⟨x, hx, hxg.trans hgf, htask.trans hl⟩

theorem Stays.enableAlone {l k : String} {f : Fan} {task : Option Bool} (h : Stays c l f task)
    (hdrv : drv.Enables) (hc : Labelled c) (hk : k ≠ l) : Stays (c.enableAlone drv k) l f task := by
  apply h.controls (controls_enableAlone c k)
  rcases testing?_enableAlone hdrv hc k l with heq | ⟨hlk, -⟩
  · exact heq
  · exact absurd hlk.symm hk

/-- Dell fans are enabled without touching the others. -/
theorem Stays.enableDellFans {l : String} {f : Fan} {task : Option Bool} (h : Stays c l f task)
    (hdrv : drv.Enables) (hc : Labelled c) (htype : f.type ≠ .dell) :
    Stays (c.enableDellFans drv none) l f task := by
  have hall : Labelled (c.enableDellFans drv none) ∧
      Stays (c.enableDellFans drv none) l f task := by
    refine Loop.foldl_keeps (P := fun s => Labelled s ∧ Stays s l f task) (fun s k hs => ?_)
      ⟨hc, h⟩ _
    unfold enableDellFan
    split_ifs with hdell
    · refine ⟨hs.1.controls (controls_enableAlone s k), hs.2.enableAlone hdrv hs.1 ?_⟩
      rintro rfl
      obtain ⟨g, hg, hgf, -⟩ := hs.2
      rw [hg, Option.any_some] at hdell
      exact htype ((grouped_of_uncontrolled hgf).1.mp (of_decide_eq_true hdell.1))
    · exact hs
  exact hall.2

section

variable {t t' : MergeState} {e : Sigma fun _ : String => Fan} {l : String} {f : Fan}
  {task : Option Bool}

/-- The turn of another label and another hardware id. -/
theorem Stays.mergeTurn (h : Stays t.1 l f task) (hdrv : drv.Enables) (hc : Labelled t.1)
    (he : e.2.label = e.1) (hlabel : e.1 ≠ l) (hid : e.2.hwId ≠ f.hwId)
    (hturn : MergeTurn drv true true t e t') : Stays t'.1 l f task := by
  obtain ⟨g, hg, hgf, hl⟩ := h
  have hold : ∀ old x, Matches true true t.1 e old x → l ≠ old := by
    rintro old x hmatch rfl
    obtain rfl := Option.some.inj (hg.symm.trans hmatch.1)
    exact hid (hmatch.2.1.symm.trans (Fan.hwId_of_uncontrolled hgf))
  cases hturn with
  | add _ => exact ⟨g, fan?_addFan_of_some hg, hgf, hl⟩
  | keep _ _ _ => exact ⟨g, hg, hgf, hl⟩
  | put hmatch _ _ => exact ⟨g, fan?_reInsertFan_of_ne (hold _ _ hmatch) hg, hgf, hl⟩
  | @enable old x d hmatch hfreed _ =>
    have hne := hold _ _ hmatch
    obtain ⟨y, hy, hyg⟩ := hfreed.controls.fan? hg
    have hstays : Stays (d.reInsertFan old e.1 e.2) l f task :=
      ⟨y, fan?_reInsertFan_of_ne hne hy, hyg.trans hgf, (hfreed.others l hne).trans hl⟩
    exact hstays.enableAlone hdrv ((hc.controls hfreed.controls).reInsertFan he) hlabel

/-- The turns of devices with other labels and other hardware ids. -/
theorem Stays.mergeFans {es : List (Sigma fun _ : String => Fan)} (h : Stays t.1 l f task)
    (hdrv : drv.Enables) (hwf : WellFormed t.1)
    (hes : ∀ e ∈ es, e.2.label = e.1 ∧ e.1 ≠ l ∧ e.2.hwId ≠ f.hwId)
    (hloop : es.foldlM (mergeFan drv true true) t = some t') :
    WellFormed t'.1 ∧ Stays t'.1 l f task := by
  refine Loop.foldlM_keeps_turns (P := fun s : MergeState => WellFormed s.1 ∧ Stays s.1 l f task)
    (fun s e s' hturn hs hstep => ?_) ⟨hwf, h⟩ hloop
  obtain ⟨before, after, hsplit, -⟩ := hturn
  obtain ⟨hlabel, hne, hid⟩ := hes e (hsplit ▸ by simp)
  exact ⟨hs.1.mergeFan hlabel hstep,
    hs.2.mergeTurn hdrv hs.1.labelled hlabel hne hid (mergeTurn_of_mergeFan hstep)⟩

/-! ## The turn of the fan itself -/

/-- What the turn of a fan that can be enabled makes of its task. -/
inductive OwnTurn (f g : Fan) (task : Option Bool) : Fan → Option Bool → Prop
  | keep : g.deepEqual f = true → OwnTurn f g task f task
  | put : task = none → f.isConfigured = true → OwnTurn f g task g none
  | enable : (task = some false ∨ task = none ∧ f.isConfigured = false) →
      OwnTurn f g task g (some false)

theorem OwnTurn.fan {g f' : Fan} {task' : Option Bool} (h : OwnTurn f g task f' task') :
    f' = f ∨ f' = g := by
  cases h with
  | keep _ => exact Or.inl rfl
  | put _ _ => exact Or.inr rfl
  | enable _ => exact Or.inr rfl

theorem Stays.ownTurn {g : Fan} (h : Stays t.1 l f task) (hdrv : drv.Enables)
    (hwf : WellFormed t.1) (hlabel : g.label = l) (hid : f.hwId = g.hwId)
    (hconf : g.isConfigured = true) (hignore : g.ignore = false)
    (hturn : MergeTurn drv true true t ⟨l, g⟩ t') :
    ∃ f' task', OwnTurn f g task f' task' ∧ Stays t'.1 l f' task' := by
  obtain ⟨y, hy, hyf, rfl⟩ := h
  have hyid : y.hwId = g.hwId := (Fan.hwId_of_uncontrolled hyf).trans hid
  have hyconf := (same_of_uncontrolled hyf).2
  have hsame : ∀ old x, t.1.fan? old = some x → x.hwId = g.hwId → l = old ∧ y = x := by
    intro old x hx hxid
    obtain rfl := hwf.fanHwIds old l x y hx hy (hxid.trans hyid.symm)
    exact ⟨rfl, Option.some.inj (hy.symm.trans hx)⟩
  cases hturn with
  | add hnew => exact absurd hyid (hnew l y hy)
  | keep hx hxid hnot =>
    obtain ⟨rfl, rfl⟩ := hsame _ _ hx hxid
    refine ⟨f, _, .keep (decide_eq_true ?_), y, hy, hyf, rfl⟩
    by_contra hdiffers
    exact hnot ⟨rfl, fun _ heq => hdiffers (heq.trans (Fan.save_of_uncontrolled hyf))⟩
  | put hmatch hnone hquiet =>
    obtain ⟨rfl, rfl⟩ := hsame _ _ hmatch.1 hmatch.2.1
    have hput := fan?_reInsertFan_new (c := t.1) (f := g) (Or.inl (Eq.refl l))
    refine ⟨g, none, .put hnone ?_, g, hput, rfl, hnone⟩
    rw [hput, Option.any_some, hconf] at hquiet
    exact hyconf.symm.trans (hquiet.resolve_right nofun)
  | @enable old x d hmatch hfreed hcall =>
    obtain ⟨rfl, rfl⟩ := hsame _ _ hmatch.1 hmatch.2.1
    have hput := fan?_reInsertFan_new (c := d) (f := g) (Or.inl (Eq.refl l))
    have hlabelled : Labelled (d.reInsertFan l l g) :=
      (hwf.labelled.controls hfreed.controls).reInsertFan hlabel
    have hcontrols : Controls (d.reInsertFan l l g) ((d.reInsertFan l l g).enableAlone drv l) :=
      controls_enableAlone _ l
    obtain ⟨x, hx, hxg⟩ := hcontrols.fan? hput
    have hstarted : ((d.reInsertFan l l g).enableAlone drv l).testing? l = some false := by
      rcases testing?_enableAlone hdrv hlabelled l l with heq | ⟨-, -, -, heq⟩
      · exact absurd (heq.trans hfreed.free)
          (testing?_enableAlone_self hdrv hlabelled ⟨g, hput, hignore, hconf⟩)
      · exact heq
    refine ⟨g, some false, .enable ?_, x, hx, hxg, hstarted⟩
    exact hcall.imp_right fun h => ⟨h.1, hyconf.symm.trans h.2.1⟩

end

/-! ## `merge` -/

theorem OwnTurn.respected {l : String} {f g : Fan} (hid : f.hwId = g.hwId)
    (huntested : ¬ c.Tests l) {f' : Fan} {task' : Option Bool}
    (h : OwnTurn f g (c.testing? l) f' task') (hstays : Stays c' l f' task') :
    Respected c c' l f g := by
  obtain ⟨x, hx, hxf, htask⟩ := hstays
  have hnone : c.tasks.contains l = false → c.testing? l = none := testing?_eq_none.mpr
  have hsome : c.tasks.contains l = true → c.testing? l = some false := by
    intro hcontains
    cases hl : c.testing? l with
    | none =>
      rw [testing?_eq_none.mp hl] at hcontains
      cases hcontains
    | some b =>
      cases b with
      | false => rfl
      | true => exact absurd hl huntested
  have hhas : task' = some false → c'.tasks.contains l = true := by
    rintro rfl
    refine (Bool.not_eq_false _).mp fun hcontains => ?_
    cases htask.symm.trans (testing?_eq_none.mpr hcontains)
  have hfree : task' = none → c'.tasks.contains l = false := by
    rintro rfl
    exact testing?_eq_none.mp htask
  have hxid := Fan.hwId_of_uncontrolled hxf
  cases h with
  | keep hdeep =>
    refine ⟨⟨x, hx, hxid⟩, fun h => hhas (hsome h), fun h _ => hfree (hnone h), fun _ _ hnot => ?_⟩
    cases hdeep.symm.trans hnot
  | put hidle hconf =>
    refine ⟨⟨x, hx, hxid.trans hid.symm⟩, fun h => ?_, fun _ _ => hfree rfl, fun _ hnot => ?_⟩
    · cases hidle.symm.trans (hsome h)
    · cases hconf.symm.trans hnot
  | enable hcall =>
    refine ⟨⟨x, hx, hxid.trans hid.symm⟩, fun _ => hhas rfl, fun h hconf => ?_,
      fun _ _ _ => hhas rfl⟩
    rcases hcall with henabled | ⟨-, hnot⟩
    · cases (hnone h).symm.trans henabled
    · cases hconf.symm.trans hnot

theorem respected_of_merge (hdrv : drv.Enables) (hwf : WellFormed c) (huntested : Untested c)
    (d : Incoming) {l : String} {f g : Fan} (hf : c.fan? l = some f)
    (hg : d.devices.fans.find? l = some g) (hid : f.hwId = g.hwId) (hftype : f.type ≠ .dell)
    (hgtype : g.type ≠ .dell) (hconf : g.isConfigured = true) (hignore : g.ignore = false)
    (hmerge : c.merge drv d.devices true true = some c') : Respected c c' l f g := by
  unfold Controller.merge at hmerge
  obtain ⟨s, hs, hmerge⟩ := Option.bind_eq_some_iff.mp hmerge
  obtain ⟨sensors, -, rfl⟩ := Option.map_eq_some_iff.mp hmerge
  obtain ⟨before, after, hsplit, hother⟩ := UnorderedMap.split_at hg
  have hes : ∀ e ∈ before ++ after, e.2.label = e.1 ∧ e.1 ≠ l ∧ e.2.hwId ≠ g.hwId := by
    intro e he
    obtain ⟨hne, hmem⟩ := hother e he
    exact ⟨d.labelled e.1 e.2 hmem, hne, fun heq => hne (d.fanHwIds e.1 l e.2 g hmem hg heq)⟩
  rw [hsplit, List.foldlM_append] at hs
  obtain ⟨t, ht, hs⟩ := Option.bind_eq_some_iff.mp hs
  rw [List.foldlM_cons] at hs
  obtain ⟨t', ht', hs⟩ := Option.bind_eq_some_iff.mp hs
  have hstart : Stays ((c, false) : MergeState).1 l f (c.testing? l) := ⟨f, hf, rfl, rfl⟩
  obtain ⟨hwft, hstays⟩ := hstart.mergeFans hdrv hwf
    (fun e he => hid ▸ hes e (List.mem_append_left _ he)) ht
  obtain ⟨f', task', hown, hstays⟩ := hstays.ownTurn hdrv hwft (d.labelled l g hg) hid hconf hignore
    (mergeTurn_of_mergeFan ht')
  have hf' : f'.hwId = g.hwId ∧ f'.type ≠ .dell := by
    rcases hown.fan with rfl | rfl
    · exact ⟨hid, hftype⟩
    · exact ⟨rfl, hgtype⟩
  obtain ⟨hwfs, hstays⟩ := hstays.mergeFans hdrv (hwft.mergeFan (d.labelled l g hg) ht')
    (fun e he => hf'.1 ▸ hes e (List.mem_append_right _ he)) hs
  apply hown.respected hid (huntested l)
  show Stays (if s.2 then s.1.enableDellFans drv none else s.1) l f' task'
  split_ifs
  · exact hstays.enableDellFans hdrv hwfs.labelled hf'.2
  · exact hstays

/-- **After `merge` a fan that is configured and not ignored has a task if it had one, and if it
had none and was not configured before; it has none if it had none and was configured.** -/
theorem merge_respects_enabled (parse : Text → Bool × ControllerMsg) (hdrv : drv.Enables)
    (c : Controller) (hc : Transition.Reachable (system parse fun _ => True) c)
    (huntested : Untested c) (d : Incoming) (l : String) (f g : Fan) (hf : c.fan? l = some f)
    (hg : d.devices.fans.find? l = some g) (hid : f.hwId = g.hwId) (hftype : f.type ≠ .dell)
    (hgtype : g.type ≠ .dell) (hconf : g.isConfigured = true) (hignore : g.ignore = false) :
    ∃ c', c.merge drv d.devices true true = some c' ∧ Respected c c' l f g := by
  have hwf : WellFormed c := wellFormed_of_reachable hc
  obtain ⟨c', hmerge⟩ := (merge_returns drv hwf.fanHwIds d.fanHwIds).mpr
    fun _ _ _ k _ _ _ _ => huntested k
  exact ⟨c', hmerge, respected_of_merge hdrv hwf huntested d hf hg hid hftype hgtype hconf hignore
    hmerge⟩

/-! ## A fan that gets its curve -/

/-- A fan with the given curve and one with the given label. -/
def caseAnd (curve label : String) : DevicesMsg :=
  ⟨[caseMsg curve, { caseMsg "40: 800" with label := label, pwmPath := "/sys/pwm2" }],
    [coldSensor.save]⟩

def caseIdle : Controller :=
  ({ devices := Devices.load readyEnv (caseAnd "" "front") } : Controller).enableAll willingDriver

def caseBefore : Fan := (caseIdle.fan? "case").get (by decide +kernel)

def caseAfter : Fan :=
  ((Devices.load readyEnv (caseAnd "40: 800" "rear")).fans.find? "case").get (by decide +kernel)

/-- The fan is given a curve while the other one is renamed. -/
theorem merge_respects_enabled_case :
    ∃ c', caseIdle.merge willingDriver (Devices.load readyEnv (caseAnd "40: 800" "rear")) true
      true = some c' ∧ Respected caseIdle c' "case" caseBefore caseAfter :=
  merge_respects_enabled (fun _ => (true, {})) (fun _ => rfl) caseIdle
    (.step (a := .setDevices readyEnv (caseAnd "" "front")) (.init rfl) trivial
      ⟨willingDriver, trivial, rfl⟩)
    (untested_of_keys (by decide +kernel)) (Incoming.load readyEnv (caseAnd "40: 800" "rear"))
    "case" caseBefore caseAfter (Option.some_get _).symm (Option.some_get _).symm
    (by decide +kernel) (by decide +kernel) (by decide +kernel) (by decide +kernel)
    (by decide +kernel)

end Controller

end Fancon
