import Fancon.Controller.EnableFiles
import Fancon.Controller.ManualControl
import Fancon.Controller.Restart
import Fancon.Controller.Tasks

/-! # Control is handed back

The driver flag of a fan that is found is 2 until a test reads another automatic mode from the
enable file, which it cannot once control was taken. So the mode that was found is handed back as
long as every call of `enable` that takes control of a sysfs fan finds the driver flag equal to that
mode (`modes_handed_back`).
-/
set_option autoImplicit false
set_option maxHeartbeats 250000
set_option maxRecDepth 120000

namespace Fancon

/-! ## A fan that restores the mode -/

/-- Writes to enable files succeed. -/
def Driver.WritesFiles (drv : Driver) : Prop :=
  ∀ f : Fan, f.driverFlag? ≠ none → drv.enables f = true ∧ drv.disables f = true

/-- The file holds `m` or the flag of manual control, and `disable_control` would write `m` once
control was taken. -/
structure FiledFan.Restores (m : I32) (x : FiledFan) : Prop where
  idle : x.fan.enabled = false → x.file.content = m
  held : x.fan.enabled = true → x.file.content = manualFlag ∧ x.file.taken = true
  known : x.file.taken = true → x.fan.driverFlag? = some m
  handed : ∀ v ∈ x.file.handedBack, v = m

namespace FiledFan

variable {drv : Driver} {x : FiledFan} {m : I32}

theorem driverFlag?_enableControl (drv : Driver) (x : FiledFan) :
    (x.enableControl drv).2.fan.driverFlag? = x.fan.driverFlag? := by
  obtain ⟨b, hb⟩ := enabled_of_enableControl drv x
  rw [hb]
  rfl

theorem driverFlag?_disableControl (drv : Driver) (x : FiledFan) :
    (x.disableControl drv).fan.driverFlag? = x.fan.driverFlag? := by
  obtain ⟨b, hb⟩ := enabled_of_disableControl drv x
  rw [hb]
  rfl

theorem driverFlag?_tryEnable (drv : Driver) (x : FiledFan) :
    (x.tryEnable drv).2.fan.driverFlag? = x.fan.driverFlag? := by
  unfold tryEnable
  split_ifs
  · rfl
  · simp only
    split_ifs
    · rw [driverFlag?_disableControl, driverFlag?_enableControl]
    · exact driverFlag?_enableControl drv x

theorem Restores.enableControl (h : x.Restores m) (hdrv : drv.WritesFiles)
    (hflag : x.fan.driverFlag? = some m) : (x.enableControl drv).1 = true ∧
      (x.enableControl drv).2.Restores m ∧ (x.enableControl drv).2.file.taken = true := by
  have heq : x.enableControl drv = (true, ⟨{ x.fan with enabled := true },
      { x.file with content := manualFlag, taken := true }⟩) := by
    rw [FiledFan.enableControl, if_pos (hdrv x.fan (by rw [hflag]; exact nofun)).1, hflag]
    rfl
  rw [heq]
  exact ⟨rfl, ⟨nofun, fun _ => ⟨rfl, rfl⟩, fun _ => hflag, h.handed⟩, rfl⟩

theorem Restores.disableControl (h : x.Restores m) (hdrv : drv.WritesFiles)
    (htaken : x.file.taken = true) :
    (x.disableControl drv).Restores m ∧ (x.disableControl drv).file.taken = true := by
  have hflag := h.known htaken
  have heq : x.disableControl drv = ⟨{ x.fan with enabled := false },
      { x.file with content := m, handedBack := x.file.handedBack ++ [m] }⟩ := by
    rw [FiledFan.disableControl, if_pos (hdrv x.fan (by rw [hflag]; exact nofun)).2, hflag,
      EnableFile.handBack]
    simp only [htaken, if_true]
  rw [heq]
  refine ⟨⟨fun _ => rfl, nofun, fun _ => hflag, fun v hv => ?_⟩, htaken⟩
  rcases List.mem_append.mp hv with hv | hv
  · exact h.handed v hv
  · exact List.mem_singleton.mp hv

theorem Restores.tryEnable (h : x.Restores m) (hdrv : drv.WritesFiles)
    (hflag : x.fan.ignore = false → x.fan.driverFlag? = some m) :
    (x.tryEnable drv).2.Restores m ∧
      ((x.tryEnable drv).1 = true ∨ x.file.taken = true →
        (x.tryEnable drv).2.file.taken = true) := by
  unfold FiledFan.tryEnable
  split_ifs with hignore
  · exact ⟨h, fun htaken => htaken.resolve_left nofun⟩
  · obtain ⟨hok, hrestores, htaken⟩ :=
      h.enableControl hdrv (hflag (Bool.eq_false_iff.mpr hignore))
    simp only [hok, Bool.not_true, Bool.false_eq_true, if_false]
    exact ⟨hrestores, fun _ => htaken⟩

/-- What a test reads from the file is the mode, unless control was taken. -/
theorem Restores.learn (h : x.Restores m) (hm : 2 ≤ m.val) {flag : I32}
    (hflag : x.fan.driverFlag? = some flag) : x.file.learn flag = m := by
  cases henabled : x.fan.enabled with
  | true =>
    obtain ⟨hcontent, htaken⟩ := h.held henabled
    have hknown : flag = m := Option.some.inj (hflag.symm.trans (h.known htaken))
    rw [EnableFile.learn, if_neg fun hc => hc.2 hcontent, hknown]
  | false =>
    have hcontent := h.idle henabled
    rw [EnableFile.learn, if_pos, hcontent]
    rw [hcontent]
    refine ⟨?_, ?_⟩ <;> rintro rfl <;> exact absurd hm (by decide)

theorem Restores.test (h : x.Restores m) (hdrv : drv.WritesFiles) (hm : 2 ≤ m.val)
    (hflag : x.fan.driverFlag? ≠ none) (pwmTest : Bool) (r : TestResult) :
    (x.test drv pwmTest r).Restores m ∧ (x.test drv pwmTest r).file.taken = true := by
  obtain ⟨flag, hflag⟩ := Option.ne_none_iff_exists'.mp hflag
  have hlearn : (x.testDriverEnableFlag r.driverFlag).fan.driverFlag? = some m := by
    rw [testDriverEnableFlag, hflag, Option.map_some, Option.getD_some, h.learn hm hflag]
    unfold Fan.driverFlag? at hflag ⊢
    simp only
    cases hkind : x.fan.kind with
    | sysfs p => rfl
    | dell p => rw [hkind] at hflag; cases hflag
    | nvidia id => rw [hkind] at hflag; cases hflag
  have hread : (x.testDriverEnableFlag r.driverFlag).Restores m :=
    ⟨h.idle, h.held, fun _ => hlearn, h.handed⟩
  obtain ⟨hok, hrestores, htaken⟩ := hread.enableControl hdrv hlearn
  unfold FiledFan.test
  simp only [hok, Bool.not_true, Bool.false_or]
  split_ifs
  · exact hrestores.disableControl hdrv htaken
  · exact ⟨⟨hrestores.idle, hrestores.held, hrestores.known, hrestores.handed⟩, htaken⟩

end FiledFan

namespace Filed

variable {drv : Driver} {mode : String → I32} {s s' : Filed}

/-- Every sysfs fan restores its mode, and control was taken of those that are enabled. -/
def Restores (mode : String → I32) (s : Filed) : Prop :=
  ∀ l x, s.fan? l = some x → x.fan.driverFlag? ≠ none →
    x.Restores (mode l) ∧ (s.controller.testing? l = some false → x.file.taken = true)

/-- Whoever takes control of the fan knows the mode. -/
def Known (mode : String → I32) (c : Controller) (l : String) : Prop :=
  ∀ f, c.fan? l = some f → c.tasks.contains l = false → f.ignore = false →
    f.driverFlag? ≠ none → f.driverFlag? = some (mode l)

theorem fan?_eq_some {l : String} {x : FiledFan} :
    s.fan? l = some x ↔ s.controller.fan? l = some x.fan ∧ s.files l = x.file := by
  rw [fan?, Option.map_eq_some_iff]
  constructor
  · rintro ⟨f, hf, rfl⟩
    exact ⟨hf, rfl⟩
  · rintro ⟨hf, hfile⟩
    exact ⟨x.fan, hf, by rw [hfile]⟩

theorem fan?_setFan (s : Filed) (l k : String) (x : FiledFan) :
    (s.setFan l x).fan? k = if k = l then some x else s.fan? k := by
  rw [fan?, controller_setFan, Controller.fan?_setFan]
  split_ifs with hk
  · rw [Option.map_some, hk]
    simp only [setFan, Function.update_self]
  · simp only [setFan, Function.update_of_ne hk]
    rfl

theorem driverFlag?_of_uncontrolled {f g : Fan} (h : f.uncontrolled = g.uncontrolled) :
    f.driverFlag? = g.driverFlag? :=
  Fan.agree Fan.driverFlag? (fun _ => rfl) h

theorem Known.controls {c c' : Controller} {l : String} (h : Known mode c l)
    (hc : Controller.Controls c c')
    (htasks : ∀ k, c.tasks.contains k = true → c'.tasks.contains k = true) : Known mode c' l := by
  intro g hg hfree hignore hflag
  obtain ⟨f, hf, hfg⟩ := hc.fan?_back hg
  have hsame := driverFlag?_of_uncontrolled hfg
  rw [← hsame] at hflag ⊢
  refine h f hf ?_ ((Controller.same_of_uncontrolled hfg).1.trans hignore) hflag
  exact Bool.eq_false_iff.mpr fun hcontains => by cases (htasks l hcontains).symm.trans hfree

theorem Restores.setFan (h : Restores mode s) {l : String} {y : FiledFan}
    (hy : y.fan.driverFlag? ≠ none → y.Restores (mode l) ∧
      (s.controller.testing? l = some false → y.file.taken = true)) :
    Restores mode (s.setFan l y) := by
  intro k x hx hflag
  rw [fan?_setFan] at hx
  split_ifs at hx with hk
  · obtain rfl := Option.some.inj hx
    subst hk
    exact hy hflag
  · exact h k x hx hflag

theorem Restores.erase (h : Restores mode s) (l : String) :
    Restores mode (s.setTasks (s.controller.tasks.erase l)) := fun k x hx hflag =>
  ⟨(h k x hx hflag).1, fun ht =>
    (h k x hx hflag).2 ((Controller.stops_erase s.controller l).testing? ht)⟩

theorem Restores.emplace (h : Restores mode s) {l : String} {b : Bool}
    (hl : b = false → ∀ x, s.fan? l = some x → x.fan.driverFlag? ≠ none → x.file.taken = true) :
    Restores mode (s.setTasks (s.controller.tasks.emplace l ⟨b⟩)) := by
  intro k x hx hflag
  refine ⟨(h k x hx hflag).1, fun ht => ?_⟩
  have ht : (s.controller.setTasks (s.controller.tasks.emplace l ⟨b⟩)).testing? k = some false := ht
  rw [Controller.testing?_emplace] at ht
  split_ifs at ht with hk
  · subst hk
    cases hold : s.controller.testing? k with
    | none =>
      rw [hold, Option.getD_none] at ht
      exact hl (Option.some.inj ht) x hx hflag
    | some b' =>
      rw [hold, Option.getD_some] at ht
      exact (h k x hx hflag).2 (hold.trans ht)
  · exact (h k x hx hflag).2 ht

/-! ## `enable` -/

theorem driverFlag?_of_dell {f : Fan} (h : f.type = .dell) : f.driverFlag? = none := by
  unfold Fan.type at h
  unfold Fan.driverFlag?
  cases hkind : f.kind with
  | sysfs p =>
    rw [hkind] at h
    cases h
  | dell p => rfl
  | nvidia id => rfl

theorem uncontrolled_tryEnable (drv : Driver) (x : FiledFan) :
    (x.tryEnable drv).2.fan.uncontrolled = x.fan.uncontrolled := by
  have hfan : (x.tryEnable drv).2.fan = (x.fan.tryEnable drv).2 :=
    congrArg Prod.snd (FiledFan.fan_tryEnable drv x)
  rw [hfan, Fan.uncontrolled_tryEnable]

/-- `try_enable` on a fan without a task. -/
theorem Restores.tried (h : Restores mode s) (hdrv : drv.WritesFiles) {l : String} {x : FiledFan}
    (hx : s.fan? l = some x) (hknown : Known mode s.controller l)
    (hfree : s.controller.tasks.contains l = false) :
    Restores mode (s.setFan l (x.tryEnable drv).2) ∧
      ((x.tryEnable drv).1 = true → x.fan.driverFlag? ≠ none →
        (x.tryEnable drv).2.file.taken = true) := by
  have htry : x.fan.driverFlag? ≠ none → (x.tryEnable drv).2.Restores (mode l) ∧
      ((x.tryEnable drv).1 = true ∨ x.file.taken = true →
        (x.tryEnable drv).2.file.taken = true) := fun hflag =>
    (h l x hx hflag).1.tryEnable hdrv fun hignore =>
      hknown x.fan (fan?_eq_some.mp hx).1 hfree hignore hflag
  refine ⟨h.setFan fun hflag => ?_, fun hok hflag => (htry hflag).2 (Or.inl hok)⟩
  rw [FiledFan.driverFlag?_tryEnable] at hflag
  refine ⟨(htry hflag).1, fun ht => ?_⟩
  cases (Controller.testing?_eq_none.mpr hfree).symm.trans ht

theorem Restores.enableWith (h : Restores mode s) (hdrv : drv.WritesFiles)
    (hlabelled : s.controller.Labelled) {l : String} (hknown : Known mode s.controller l)
    {dellFans : String → Filed → Filed}
    (hdell : ∀ t, Restores mode t → t.controller.Labelled →
      Restores mode (dellFans l t) ∧ Controller.Controls t.controller (dellFans l t).controller) :
    Restores mode (enableWith drv dellFans s l) := by
  unfold Filed.enableWith
  cases hx : s.fan? l with
  | none => exact h
  | some x =>
    obtain ⟨hf, -⟩ := fan?_eq_some.mp hx
    simp only [hlabelled l x.fan hf]
    split_ifs with hcontains htry htype
    · exact h
    all_goals obtain ⟨hset, htaken⟩ := h.tried hdrv hx hknown (Bool.eq_false_iff.mpr hcontains)
    · exact hset
    · have hcontrols : Controller.Controls s.controller
          (s.setFan l (x.tryEnable drv).2).controller :=
        Controller.controls_setFan hf (uncontrolled_tryEnable drv x)
      obtain ⟨hrestores, hrest⟩ := hdell _ hset (hlabelled.controls hcontrols)
      refine hrestores.emplace fun _ y hy hflag => absurd ?_ hflag
      obtain ⟨f, hf', hfy⟩ := (hcontrols.trans hrest).fan?_back (fan?_eq_some.mp hy).1
      obtain rfl := Option.some.inj (hf.symm.trans hf')
      rw [← driverFlag?_of_uncontrolled hfy, driverFlag?_of_dell htype]
    · refine hset.emplace fun _ y hy hflag => ?_
      rw [fan?_setFan, if_pos rfl] at hy
      obtain rfl := Option.some.inj hy
      rw [FiledFan.driverFlag?_tryEnable] at hflag
      refine htaken ?_ hflag
      rw [Bool.or_eq_true, not_or] at htry
      simpa using htry.1

theorem Restores.enableAlone (h : Restores mode s) (hdrv : drv.WritesFiles)
    (hlabelled : s.controller.Labelled) {l : String} (hknown : Known mode s.controller l) :
    Restores mode (s.enableAlone drv l) :=
  h.enableWith hdrv hlabelled hknown fun t ht _ => ⟨ht, .refl t.controller⟩

theorem controls_enableAlone (s : Filed) (l : String) :
    Controller.Controls s.controller (s.enableAlone drv l).controller := by
  rw [controller_enableAlone]
  exact Controller.controls_enableAlone s.controller l

/-- The Dell fans have no enable file. -/
theorem Restores.enableDellFans (h : Restores mode s) (hdrv : drv.WritesFiles)
    (hlabelled : s.controller.Labelled) (exceptLabel : Option String) :
    Restores mode (s.enableDellFans drv exceptLabel) := by
  have hall : Restores mode (s.enableDellFans drv exceptLabel) ∧
      (s.enableDellFans drv exceptLabel).controller.Labelled := by
    refine Loop.foldl_keeps (P := fun t : Filed => Restores mode t ∧ t.controller.Labelled)
      (fun t k ht => ?_) ⟨h, hlabelled⟩ _
    unfold enableDellFan
    split_ifs with hdell
    · obtain ⟨f, hf, htype⟩ := (Option.any_eq_true _ _).mp hdell.1
      have hknown : Known mode t.controller k := by
        intro g hg _ _ hflag
        obtain rfl := Option.some.inj (hf.symm.trans hg)
        exact absurd (driverFlag?_of_dell (of_decide_eq_true htype)) hflag
      exact ⟨ht.1.enableAlone hdrv ht.2 hknown, ht.2.controls (controls_enableAlone t k)⟩
    · exact ht
  exact hall.1

theorem Restores.enable (h : Restores mode s) (hdrv : drv.WritesFiles)
    (hlabelled : s.controller.Labelled) {l : String} (hknown : Known mode s.controller l) :
    Restores mode (s.enable drv l) := by
  refine h.enableWith hdrv hlabelled hknown fun t ht hlt => ⟨ht.enableDellFans hdrv hlt _, ?_⟩
  rw [controller_enableDellFans]
  exact Controller.controls_enableDellFans _ t.controller

theorem Restores.enableAll (h : Restores mode s) (hdrv : drv.WritesFiles)
    (hlabelled : s.controller.Labelled) (hknown : ∀ l, Known mode s.controller l) :
    Restores mode (s.enableAll drv) := by
  have hall : Restores mode (s.enableAll drv) ∧ (s.enableAll drv).controller.Labelled ∧
      ∀ l, Known mode (s.enableAll drv).controller l := by
    refine Loop.foldl_keeps (P := fun t : Filed => Restores mode t ∧ t.controller.Labelled ∧
      ∀ l, Known mode t.controller l) (fun t k ht => ?_) ⟨h, hlabelled, hknown⟩ _
    obtain ⟨hrestores, hlt, hkt⟩ := ht
    have hcontrols : Controller.Controls t.controller (t.enableAlone drv k).controller :=
      controls_enableAlone t k
    refine ⟨hrestores.enableAlone hdrv hlt (hkt k), hlt.controls hcontrols, fun l =>
      (hkt l).controls hcontrols fun i hi => ?_⟩
    rw [controller_enableAlone]
    exact Controller.tasks_enableAlone drv t.controller k hi
  exact hall.1

/-! ## `disable` and `test` -/

theorem Restores.disabled (h : Restores mode s) (hdrv : drv.WritesFiles) {l : String}
    {x : FiledFan} (hx : s.fan? l = some x)
    (htaken : x.fan.driverFlag? ≠ none → x.file.taken = true) :
    Restores mode (s.setFan l (x.disableControl drv)) ∧
      (x.fan.driverFlag? ≠ none → (x.disableControl drv).file.taken = true) := by
  have hdisable : x.fan.driverFlag? ≠ none → (x.disableControl drv).Restores (mode l) ∧
      (x.disableControl drv).file.taken = true := fun hflag =>
    (h l x hx hflag).1.disableControl hdrv (htaken hflag)
  refine ⟨h.setFan fun hflag => ?_, fun hflag => (hdisable hflag).2⟩
  rw [FiledFan.driverFlag?_disableControl] at hflag
  exact ⟨(hdisable hflag).1, fun _ => (hdisable hflag).2⟩

theorem Restores.eraseTask (h : Restores mode s) (hdrv : drv.WritesFiles) {l : String}
    (herase : s.eraseTask drv l = some s') : Restores mode s' ∧
      (s.controller.tasks.contains l = true → ∀ x, s'.fan? l = some x →
        x.fan.driverFlag? ≠ none → x.file.taken = true) := by
  unfold Filed.eraseTask at herase
  cases ht : s.controller.tasks.find? l with
  | none =>
    rw [ht] at herase
    obtain rfl := Option.some.inj herase
    refine ⟨h, fun hcontains => ?_⟩
    rw [SortedMap.contains, ht] at hcontains
    cases hcontains
  | some task =>
    rw [ht] at herase
    simp only at herase
    split_ifs at herase with htesting
    have hfalse : s.controller.testing? l = some false := by
      rw [Controller.testing?, ht, Option.map_some, Bool.eq_false_iff.mpr htesting]
    cases hx : (s.setTasks (s.controller.tasks.erase l)).fan? l with
    | none =>
      rw [hx] at herase
      obtain rfl := Option.some.inj herase
      refine ⟨h.erase l, fun _ y hy => ?_⟩
      cases hx.symm.trans hy
    | some x =>
      rw [hx] at herase
      obtain rfl := Option.some.inj herase
      obtain ⟨hrestores, htaken⟩ := (h.erase l).disabled hdrv hx fun hflag =>
        (h l x hx hflag).2 hfalse
      refine ⟨hrestores, fun _ y hy hflag => ?_⟩
      rw [fan?_setFan, if_pos rfl] at hy
      obtain rfl := Option.some.inj hy
      rw [FiledFan.driverFlag?_disableControl] at hflag
      exact htaken hflag

theorem Restores.disableWith (h : Restores mode s) (hdrv : drv.WritesFiles) {l : String}
    {dellFans : String → Filed → Option Filed}
    (hdell : ∀ t t', Restores mode t → dellFans l t = some t' → Restores mode t')
    (hdisable : disableWith drv dellFans s l = some s') : Restores mode s' := by
  unfold Filed.disableWith at hdisable
  split_ifs at hdisable with hcontains
  · exact Option.some.inj hdisable ▸ h
  · obtain ⟨t, ht, hrest⟩ := Option.bind_eq_some_iff.mp hdisable
    obtain ⟨hrestores, htaken⟩ := h.eraseTask hdrv ht
    cases hx : t.fan? l with
    | none =>
      rw [hx] at hrest
      exact Option.some.inj hrest ▸ hrestores
    | some x =>
      rw [hx] at hrest
      obtain ⟨hset, -⟩ := hrestores.disabled hdrv hx (htaken (by simpa using hcontains) x hx)
      simp only at hrest
      split_ifs at hrest
      · exact hdell _ _ hset hrest
      · exact Option.some.inj hrest ▸ hset

theorem Restores.disableAlone (h : Restores mode s) (hdrv : drv.WritesFiles) {l : String}
    (hdisable : s.disableAlone drv l = some s') : Restores mode s' := by
  refine h.disableWith hdrv (fun t t' ht hsome => ?_) hdisable
  exact Option.some.inj hsome ▸ ht

theorem Restores.disable (h : Restores mode s) (hdrv : drv.WritesFiles) {l : String}
    (hdisable : s.disable drv l = some s') : Restores mode s' := by
  refine h.disableWith hdrv (fun t t' ht hloop => ?_) hdisable
  refine Loop.foldlM_keeps (P := Restores mode) (fun u k u' hu hstep => ?_) ht hloop
  unfold disableDellFan at hstep
  split_ifs at hstep
  · exact hu.disableAlone hdrv hstep
  · exact Option.some.inj hstep ▸ hu

theorem Restores.test (h : Restores mode s) (hdrv : drv.WritesFiles) {l : String}
    {forced blocking : Bool} (htest : s.test drv l forced blocking = some s') :
    Restores mode s' := by
  unfold Filed.test at htest
  cases hx : s.fan? l with
  | none =>
    rw [hx] at htest
    exact Option.some.inj htest ▸ h
  | some x =>
    rw [hx] at htest
    simp only at htest
    split_ifs at htest
    · exact Option.some.inj htest ▸ h
    · exact Option.some.inj htest ▸ h
    · obtain ⟨t, ht, rfl⟩ := Option.map_eq_some_iff.mp htest
      exact (h.eraseTask hdrv ht).1.emplace nofun

theorem driverFlag?_afterTest (f : Fan) (r : TestResult) :
    (f.afterTest r).driverFlag? = f.driverFlag?.map fun _ => r.driverFlag := by
  unfold Fan.driverFlag? Fan.afterTest
  cases f.kind <;> rfl

theorem Restores.testComplete (h : Restores mode s) (hdrv : drv.WritesFiles)
    (hmode : ∀ l, 2 ≤ (mode l).val) (hlabelled : s.controller.Labelled) {l : String}
    {pwmTest : Bool} {r : TestResult} (htest : s.testComplete drv l pwmTest r = some s') :
    Restores mode s' := by
  unfold Filed.testComplete at htest
  split at htest
  · rename_i x ht hx
    obtain rfl := Option.some.inj htest
    obtain ⟨r', hr⟩ := FiledFan.fan_test drv x pwmTest r
    have hflags : (x.test drv pwmTest r).fan.driverFlag? ≠ none → x.fan.driverFlag? ≠ none := by
      rw [hr, driverFlag?_afterTest]
      exact mt fun hnone => by rw [hnone, Option.map_none]
    have hdone : x.fan.driverFlag? ≠ none → (x.test drv pwmTest r).Restores (mode l) ∧
        (x.test drv pwmTest r).file.taken = true := fun hflag =>
      (h l x hx hflag).1.test hdrv (hmode l) hflag pwmTest r
    have hset : Restores mode (s.setFan l (x.test drv pwmTest r)) := h.setFan fun hflag =>
      ⟨(hdone (hflags hflag)).1, fun _ => (hdone (hflags hflag)).2⟩
    have hself : ((s.setFan l (x.test drv pwmTest r)).setTasks
        (s.controller.tasks.erase l)).controller.fan? l = some (x.test drv pwmTest r).fan :=
      Controller.fan?_setFan_self s.controller l _
    refine (hset.erase l).enable hdrv (fun k g hg => ?_) fun g hg _ _ hflag => ?_
    · have hg : (s.controller.setFan l (x.test drv pwmTest r).fan).fan? k = some g := hg
      rw [Controller.fan?_setFan] at hg
      split_ifs at hg with hk
      · obtain rfl := Option.some.inj hg
        rw [hr, hk]
        exact hlabelled l x.fan (fan?_eq_some.mp hx).1
      · exact hlabelled k g hg
    · obtain rfl := Option.some.inj (hself.symm.trans hg)
      obtain ⟨hrestores, htaken⟩ := hdone (hflags hflag)
      exact hrestores.known htaken
  · cases htest

/-! ## Every run -/

/-- Every call of `enable` that takes control of a sysfs fan knows the mode. -/
def TakesKnown (mode : String → I32) (s : Filed) : FiledOperation → Prop
  | .enable l => Known mode s.controller l
  | .enableAll => ∀ l, Known mode s.controller l
  | .disable _ | .disableAll | .test _ _ _ | .testComplete _ _ _ => True

theorem Restores.perform (h : Restores mode s) (hdrv : drv.WritesFiles)
    (hmode : ∀ l, 2 ≤ (mode l).val) (hlabelled : s.controller.Labelled) {op : FiledOperation}
    (hknown : TakesKnown mode s op) (hop : s.perform drv op = some s') : Restores mode s' := by
  cases op with
  | enable l => exact Option.some.inj hop ▸ h.enable hdrv hlabelled hknown
  | enableAll => exact Option.some.inj hop ▸ h.enableAll hdrv hlabelled hknown
  | disable l => exact h.disable hdrv hop
  | disableAll =>
    exact Loop.foldlM_keeps (P := Restores mode) (fun _ _ _ ht hstep => ht.disableAlone hdrv hstep)
      h hop
  | test l forced blocking => exact h.test hdrv hop
  | testComplete l pwmTest r => exact h.testComplete hdrv hmode hlabelled hop

/-- Before the first operation: no fan has a task or is controlled, no driver flag is configured
and every enable file holds its mode. -/
structure Starts (mode : String → I32) (s : Filed) : Prop where
  wellFormed : s.controller.WellFormed
  idle : ∀ l, s.controller.tasks.find? l = none
  fans : ∀ l f, s.controller.fan? l = some f →
    f.enabled = false ∧ ∀ flag, f.driverFlag? = some flag → flag = 2
  files : ∀ l, s.files l = { content := mode l }

def fileSystem (mode : String → I32) : Transition.System Filed FiledOperation where
  init := Starts mode
  step s op s' := ∃ drv : Driver, drv.WritesFiles ∧ s.perform drv op = some s'

/-- Whenever `disable_control` followed an `enable_control`, the file of the fan held its mode. -/
def HandsBack (mode : String → I32) (s : Filed) : Prop :=
  ∀ l f, s.controller.fan? l = some f → f.driverFlag? ≠ none →
    ∀ v ∈ (s.files l).handedBack, v = mode l

theorem Starts.restores (h : Starts mode s) : Restores mode s := by
  rintro l ⟨f, file⟩ hx _
  obtain ⟨hf, hfile⟩ := fan?_eq_some.mp hx
  obtain ⟨henabled, -⟩ := h.fans l f hf
  obtain rfl := (h.files l).symm.trans hfile
  refine ⟨⟨fun _ => rfl, fun htrue => ?_, fun htaken => ?_, fun v hv => ?_⟩, fun ht => ?_⟩
  · cases henabled.symm.trans htrue
  · cases htaken
  · cases hv
  · cases (Controller.testing?_of_none (h.idle l)).symm.trans ht

/-- **Every sysfs fan is handed back in its mode if it is never enabled before the mode is known.**
-/
theorem modes_handed_back (mode : String → I32) (hmode : ∀ l, 2 ≤ (mode l).val) (s : Filed)
    (hs : Transition.ReachableWhen (fileSystem mode) (TakesKnown mode) s) : HandsBack mode s := by
  have hrun : s.controller.WellFormed ∧ Restores mode s := by
    refine Transition.ReachableWhen.invariant
      (fun s => s.controller.WellFormed ∧ Restores mode s) ?_ ?_ hs
    · exact fun s hs => ⟨hs.wellFormed, hs.restores⟩
    · rintro s op s' ⟨hwf, h⟩ hknown ⟨drv, hdrv, hop⟩
      obtain ⟨op', hop'⟩ := controller_perform (fun _ => (false, {})) hop
      exact ⟨hwf.perform hop', h.perform hdrv hmode hwf.labelled hknown hop⟩
  intro l f hf hflag v hv
  exact (hrun.2 l ⟨f, s.files l⟩ (fan?_eq_some.mpr ⟨hf, rfl⟩) hflag).1.handed v hv

/-! ## One fan -/

def oneFiled (m : I32) : Filed where
  controller := { devices := Devices.enumerate oneFan }
  files _ := { content := m }

theorem writesFiles_willingDriver : willingDriver.WritesFiles := fun _ _ => ⟨rfl, rfl⟩

/-- Devices as they are found or loaded, before the first task. -/
theorem starts_fresh {d : Devices} (hfresh : d.Fresh) (hfans : DistinctHwIds Fan.hwId d.fans)
    (hsensors : DistinctHwIds Sensor.hwId d.sensors)
    (hflags : ∀ e ∈ d.fans.entries, e.2.driverFlag? = some 2) (m : I32) :
    Starts (fun _ => m) { controller := { devices := d }, files := fun _ => { content := m } } where
  wellFormed := ⟨fun l f hf => (hfresh l f hf).1, hfans, hsensors, fun _ h => nomatch h⟩
  idle _ := rfl
  fans l f hf := ⟨(hfresh l f hf).2, fun _ hflag =>
    Option.some.inj (hflag.symm.trans (hflags ⟨l, f⟩ (UnorderedMap.mem_entries.mpr hf)))⟩
  files _ := rfl

theorem starts_oneFiled (m : I32) : Starts (fun _ => m) (oneFiled m) :=
  starts_fresh (Devices.fresh_enumerate oneFan)
    ((nodup_hwIds_iff (m := (Devices.enumerate oneFan).fans)).mp (by decide))
    ((nodup_hwIds_iff (m := (Devices.enumerate oneFan).sensors)).mp (by decide)) (by decide) m

/-- The state after an operation that returns. -/
def after (s : Filed) (op : FiledOperation) : Filed := (s.perform willingDriver op).getD s

theorem perform_after {s : Filed} {op : FiledOperation}
    (h : (s.perform willingDriver op).isSome = true) :
    s.perform willingDriver op = some (s.after op) := by
  obtain ⟨t, ht⟩ := Option.isSome_iff_exists.mp h
  rw [after, ht, Option.getD_some]

theorem reachable_after {s : Filed} (hs : Transition.Reachable (fileSystem mode) s)
    (op : FiledOperation) (h : (s.perform willingDriver op).isSome = true) :
    Transition.Reachable (fileSystem mode) (s.after op) :=
  .step (a := op) hs trivial ⟨willingDriver, writesFiles_willingDriver, perform_after h⟩

/-- A configured fan in mode `m` with the driver flag 2. -/
def caseFiled (m : I32) : Filed where
  controller := { devices := Devices.load readyEnv (Controller.caseDevices "40: 800") }
  files _ := { content := m }

theorem starts_caseFiled (m : I32) : Starts (fun _ => m) (caseFiled m) :=
  starts_fresh (Devices.fresh_load _ _) (distinct_load_fans _ _)
    (distinct_load_sensors _ _) (by decide +kernel) m

def caseResult : TestResult := ⟨SortedMap.ofItems [(800, 100)], 100, 2, true⟩

/-- Its first task is a test, which reads mode 5 from the file and after which it is enabled. -/
def caseTested : Filed :=
  ((caseFiled 5).after (.test "case" true false)).after (.testComplete "case" true caseResult)

theorem modes_handed_back_one :
    ((caseTested.after (.disable "case")).files "case").handedBack = [5, 5] ∧
      HandsBack (fun _ => 5) (caseTested.after (.disable "case")) := by
  refine ⟨by decide +kernel, modes_handed_back (fun _ => 5) (fun _ => by decide) _ ?_⟩
  have hstep : ∀ s op, TakesKnown (fun _ => 5) s op → (s.perform willingDriver op).isSome = true →
      Transition.ReachableWhen (fileSystem fun _ => 5) (TakesKnown fun _ => 5) s →
      Transition.ReachableWhen (fileSystem fun _ => 5) (TakesKnown fun _ => 5) (s.after op) :=
    fun s op hknown h hs =>
      .step hs hknown ⟨willingDriver, writesFiles_willingDriver, perform_after h⟩
  have htested := hstep _ (.test "case" true false) trivial (by decide +kernel)
    (.init (starts_caseFiled 5))
  have hdone := hstep _ (.testComplete "case" true caseResult) trivial (by decide +kernel) htested
  exact hstep _ (.disable "case") trivial (by decide +kernel) hdone

/-- A start, `enable_all`, and a test that fails. -/
def failedTest (m : I32) : Filed :=
  (((oneFiled m).after .enableAll).after (.test "hwmon0/fan1" true false)).after
    (.testComplete "hwmon0/fan1" false ⟨.empty, 0, 0, false⟩)

theorem failedTest_reachable : Transition.Reachable (fileSystem fun _ => 5) (failedTest 5) := by
  have hstart : Transition.Reachable (fileSystem fun _ => 5) (oneFiled 5) :=
    .init (starts_oneFiled 5)
  have henabled := reachable_after hstart .enableAll rfl
  have htested := reachable_after henabled (.test "hwmon0/fan1" true false) (by decide +kernel)
  exact reachable_after htested _ (by decide +kernel)

/-- The fan was in mode 5, and the test that fails leaves it in mode 2. -/
theorem mode_lost_one :
    ¬ ∀ mode : String → I32, (∀ l, 2 ≤ (mode l).val) → ∀ s,
      Transition.Reachable (fileSystem mode) s → HandsBack mode s := by
  intro h
  have hfan : ((failedTest 5).controller.fan? "hwmon0/fan1").any
      (fun f => f.driverFlag?.isSome) = true := by decide +kernel
  have hfile : ((failedTest 5).files "hwmon0/fan1").handedBack = [2] := by decide +kernel
  obtain ⟨f, hf, hflag⟩ := (Option.any_eq_true _ _).mp hfan
  have hback := h (fun _ => 5) (fun _ => by decide) _ failedTest_reachable "hwmon0/fan1" f hf
    (Option.isSome_iff_ne_none.mp hflag) 2 (hfile ▸ List.mem_singleton_self 2)
  exact absurd hback (by decide)

end Filed

end Fancon
