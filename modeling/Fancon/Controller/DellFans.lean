import Fancon.Controller.ManualControl
import Fancon.Controller.Tasks

/-! # Dell fans are controlled together

Every operation but `reload` leaves either all or none of the Dell fans that can be enabled with a
task (`Together`).
-/
set_option autoImplicit false
set_option maxHeartbeats 250000
set_option maxRecDepth 120000

namespace Fancon

/-- A Dell fan that `enable` gives a task. -/
def Fan.Grouped (f : Fan) : Prop := f.type = .dell ∧ f.ignore = false ∧ f.isConfigured = true

instance (f : Fan) : Decidable f.Grouped :=
  inferInstanceAs (Decidable (f.type = .dell ∧ f.ignore = false ∧ f.isConfigured = true))

/-- `enable_control` succeeds. -/
def Driver.Enables (drv : Driver) : Prop := ∀ f, drv.enables f = true

namespace Controller

variable {drv : Driver} {c c' : Controller}

/-! ## What is claimed -/

def ControlledTogether (c : Controller) : Prop :=
  (∀ l f, c.fan? l = some f → f.Grouped → c.tasks.contains l = true) ∨
  ∀ l f, c.fan? l = some f → f.Grouped → c.tasks.contains l = false

/-! ## All Dell fans or none -/

/-- Every Dell fan that can be enabled has a task or is under test. -/
def AllHeld (c : Controller) : Prop :=
  ∀ l f, c.fan? l = some f → f.Grouped → c.testing? l ≠ none

def NoneEnabled (c : Controller) : Prop :=
  ∀ l f, c.fan? l = some f → f.type = .dell → c.testing? l ≠ some false

def Together (c : Controller) : Prop := AllHeld c ∨ NoneEnabled c

theorem Together.controlled (h : Together c) (huntested : Untested c) : ControlledTogether c := by
  rcases h with h | h
  · refine Or.inl fun l f hf hgrouped => ?_
    have hheld := h l f hf hgrouped
    rw [ne_eq, testing?_eq_none] at hheld
    simpa using hheld
  · refine Or.inr fun l f hf hgrouped => testing?_eq_none.mp ?_
    have hnot := h l f hf hgrouped.1
    cases ht : c.testing? l with
    | none => rfl
    | some b =>
      cases b with
      | false => exact absurd ht hnot
      | true => exact absurd ht (huntested l)

theorem grouped_of_uncontrolled {f g : Fan} (h : g.uncontrolled = f.uncontrolled) :
    (g.type = .dell ↔ f.type = .dell) ∧ (g.Grouped ↔ f.Grouped) := by
  obtain ⟨hignore, hconf⟩ := same_of_uncontrolled h
  rw [Fan.Grouped, Fan.Grouped, hignore, hconf, Fan.type_of_uncontrolled h]
  exact ⟨Iff.rfl, Iff.rfl⟩

/-- The tasks of the Dell fans are the same. -/
def SameDell (c c' : Controller) : Prop :=
  Controls c c' ∧ ∀ l f, c.fan? l = some f → f.type = .dell → c'.testing? l = c.testing? l

theorem Together.sameDell (h : Together c) (hsame : SameDell c c') : Together c' := by
  obtain ⟨hcontrols, htasks⟩ := hsame
  rcases h with h | h
  · refine Or.inl fun l g hg hgrouped => ?_
    obtain ⟨f, hf, hfg⟩ := hcontrols.fan?_back hg
    have hf' := (grouped_of_uncontrolled hfg).2.mpr hgrouped
    rw [htasks l f hf hf'.1]
    exact h l f hf hf'
  · refine Or.inr fun l g hg htype => ?_
    obtain ⟨f, hf, hfg⟩ := hcontrols.fan?_back hg
    have hf' := (grouped_of_uncontrolled hfg).1.mpr htype
    rw [htasks l f hf hf']
    exact h l f hf hf'

theorem AllHeld.grow (h : AllHeld c) (hcontrols : Controls c c')
    (htasks : ∀ l, c.testing? l ≠ none → c'.testing? l ≠ none) : AllHeld c' := by
  intro l g hg hgrouped
  obtain ⟨f, hf, hfg⟩ := hcontrols.fan?_back hg
  exact htasks l (h l f hf ((grouped_of_uncontrolled hfg).2.mpr hgrouped))

theorem NoneEnabled.shrink (h : NoneEnabled c) (hcontrols : Controls c c') (hstops : Stops c c') :
    NoneEnabled c' := by
  intro l g hg htype hl
  obtain ⟨f, hf, hfg⟩ := hcontrols.fan?_back hg
  exact h l f hf ((grouped_of_uncontrolled hfg).1.mpr htype) (hstops.testing? hl)

/-! ## `enable` -/

def CanEnable (c : Controller) (l : String) : Prop :=
  ∃ f, c.fan? l = some f ∧ f.ignore = false ∧ f.isConfigured = true

/-- What `enable` does to the tasks: nothing, or the fan can be enabled and has none, and its task
is started after what is done about the Dell fans. -/
theorem enableWith_cases (hdrv : drv.Enables) (hc : Labelled c)
    (dellFans : String → Controller → Controller) (l : String) :
    (c.testing? l ≠ none ∨ ¬ CanEnable c l) ∧
      (∀ k, (enableWith drv dellFans c l).testing? k = c.testing? k) ∨
    c.testing? l = none ∧ ∃ f, c.fan? l = some f ∧ f.ignore = false ∧ f.isConfigured = true ∧
      enableWith drv dellFans c l =
        let d := c.setFan l { f with enabled := true }
        let d := if f.type = .dell then dellFans l d else d
        d.setTasks (d.tasks.emplace l ⟨false⟩) := by
  cases hf : c.fan? l with
  | none =>
    refine Or.inl ⟨Or.inr ?_, fun k => ?_⟩
    · rintro ⟨f, hf', -⟩
      rw [hf] at hf'
      cases hf'
    · rw [enableWith, hf]
  | some f =>
    obtain rfl := hc l f hf
    cases ht : c.testing? f.label with
    | some b =>
      have hcontains : c.tasks.contains f.label = true := by
        refine (Bool.not_eq_false _).mp fun h => ?_
        cases (testing?_eq_none.mpr h).symm.trans ht
      refine Or.inl ⟨Or.inl nofun, fun k => ?_⟩
      simp only [enableWith, hf, hcontains, if_true]
    | none =>
      have hfree : c.tasks.contains f.label = false := testing?_eq_none.mp ht
      cases hignore : f.ignore with
      | true =>
        refine Or.inl ⟨Or.inr ?_, fun k => ?_⟩
        · rintro ⟨g, hg, hgignore, -⟩
          obtain rfl := Option.some.inj (hf.symm.trans hg)
          rw [hignore] at hgignore
          cases hgignore
        · simp only [enableWith, hf, hfree, Fan.tryEnable, hignore, if_true, Bool.not_false,
            Bool.true_or, Bool.false_eq_true, if_false]
          rfl
      | false =>
        have htry : f.tryEnable drv = (true, { f with enabled := true }) := by
          simp [Fan.tryEnable, Fan.enableControl, hdrv f, hignore]
        have hsame : ({ f with enabled := true } : Fan).isConfigured = f.isConfigured := rfl
        cases hconf : f.isConfigured with
        | false =>
          refine Or.inl ⟨Or.inr ?_, fun k => ?_⟩
          · rintro ⟨g, hg, -, hgconf⟩
            obtain rfl := Option.some.inj (hf.symm.trans hg)
            rw [hconf] at hgconf
            cases hgconf
          · simp only [enableWith, hf, hfree, htry, hsame, hconf, Bool.not_true,
              Bool.not_false, Bool.or_true, Bool.false_eq_true, if_false, if_true]
            rfl
        | true =>
          refine Or.inr ⟨rfl, f, rfl, hignore, hconf, ?_⟩
          simp only [enableWith, hf, hfree, htry, hsame, hconf, Bool.not_true, Bool.or_self,
            Bool.false_eq_true, if_false]

theorem testing?_enableAlone (hdrv : drv.Enables) (hc : Labelled c) (l k : String) :
    (c.enableAlone drv l).testing? k = c.testing? k ∨
    k = l ∧ c.testing? l = none ∧ CanEnable c l ∧
      (c.enableAlone drv l).testing? k = some false := by
  rcases enableWith_cases hdrv hc (fun _ c => c) l with
    ⟨-, hsame⟩ | ⟨hnone, f, hf, hignore, hconf, heq⟩
  · exact Or.inl (hsame k)
  · have hstate : c.enableAlone drv l = (c.setFan l { f with enabled := true }).setTasks
        ((c.setFan l { f with enabled := true }).tasks.emplace l ⟨false⟩) := by
      rw [enableAlone, heq]
      simp only [ite_self]
    rw [hstate, testing?_emplace]
    split_ifs with hk
    · refine Or.inr ⟨hk, hnone, ⟨f, hf, hignore, hconf⟩, ?_⟩
      show some ((c.testing? l).getD false) = some false
      rw [hnone, Option.getD_none]
    · exact Or.inl rfl

theorem testing?_enableAlone_grow (hdrv : drv.Enables) (hc : Labelled c) (l : String) {k : String}
    (hk : c.testing? k ≠ none) : (c.enableAlone drv l).testing? k ≠ none := by
  rcases testing?_enableAlone hdrv hc l k with heq | ⟨-, -, -, heq⟩
  · rwa [heq]
  · rw [heq]
    exact nofun

theorem testing?_enableAlone_self (hdrv : drv.Enables) (hc : Labelled c) {l : String}
    (h : CanEnable c l) :
    (c.enableAlone drv l).testing? l ≠ none := by
  rcases enableWith_cases hdrv hc (fun _ c => c) l with ⟨hidle, hsame⟩ | ⟨-, f, -, -, -, heq⟩
  · rw [enableAlone, hsame]
    exact hidle.resolve_right (not_not.mpr h)
  · rw [enableAlone, heq]
    simp only
    rw [testing?_emplace, if_pos rfl]
    exact nofun

theorem canEnable_of_grouped {l : String} {f : Fan} (hf : c.fan? l = some f) (h : f.Grouped) :
    CanEnable c l := ⟨f, hf, h.2⟩

theorem CanEnable.controls {l : String} (h : CanEnable c l) (hcontrols : Controls c c') :
    CanEnable c' l := by
  obtain ⟨f, hf, hignore, hconf⟩ := h
  obtain ⟨g, hg, hgf⟩ := hcontrols.fan? hf
  obtain ⟨hgignore, hgconf⟩ := same_of_uncontrolled hgf
  exact ⟨g, hg, hgignore.trans hignore, hgconf.trans hconf⟩

theorem Controls.back {l : String} {g : Fan} (h : Controls c c') (hg : c'.fan? l = some g)
    (hgrouped : g.Grouped) : ∃ f, c.fan? l = some f ∧ f.Grouped := by
  obtain ⟨f, hf, hfg⟩ := h.fan?_back hg
  exact ⟨f, hf, (grouped_of_uncontrolled hfg).2.mpr hgrouped⟩

/-- A turn of a loop of `enable` calls. -/
theorem held_of_turns (hdrv : drv.Enables) {turn : Controller → String → Controller} {l : String}
    (hturn : ∀ s k, turn s k = s ∨ turn s k = s.enableAlone drv k)
    (hself : ∀ s, Controls c s → turn s l = s.enableAlone drv l) (hc : Labelled c)
    (hl : CanEnable c l) {ks : List String} (hmem : l ∈ ks) :
    (ks.foldl turn c).testing? l ≠ none := by
  refine Loop.foldl_establishes (P := Controls c) (Q := fun s => s.testing? l ≠ none)
    (fun s k hs => ?_) (fun s k hs hheld => ?_) (fun s hs => ?_) (Controls.refl c) hmem
  · rcases hturn s k with heq | heq
    · rwa [heq]
    · exact heq ▸ hs.trans (controls_enableAlone s k)
  · rcases hturn s k with heq | heq
    · rwa [heq]
    · exact heq ▸ testing?_enableAlone_grow hdrv (hc.controls hs) k hheld
  · exact hself s hs ▸ testing?_enableAlone_self hdrv (hc.controls hs) (hl.controls hs)

theorem held_enableDellFans (hdrv : drv.Enables) (hc : Labelled c)
    {exceptLabel : Option String} {l : String} {f : Fan} (hf : c.fan? l = some f)
    (hgrouped : f.Grouped) (hl : exceptLabel ≠ some l) :
    (c.enableDellFans drv exceptLabel).testing? l ≠ none := by
  refine held_of_turns hdrv (fun s k => ?_) (fun s hs => ?_) hc (canEnable_of_grouped hf hgrouped)
    (UnorderedMap.mem_keys_iff.mpr ⟨f, hf⟩)
  · unfold enableDellFan
    split_ifs
    · exact Or.inr rfl
    · exact Or.inl rfl
  · obtain ⟨g, hg, hgf⟩ := hs.fan? hf
    refine if_pos ⟨?_, hl⟩
    rw [hg]
    exact decide_eq_true ((grouped_of_uncontrolled hgf).1.mpr hgrouped.1)

theorem allHeld_enableDellFans (hdrv : drv.Enables) (hc : Labelled c) :
    AllHeld (c.enableDellFans drv none) := by
  intro l g hg hgrouped
  obtain ⟨f, hf, hf'⟩ := (controls_enableDellFans none c).back hg hgrouped
  exact held_enableDellFans hdrv hc hf hf' nofun

theorem allHeld_enableAll (hdrv : drv.Enables) (hc : Labelled c) : AllHeld (c.enableAll drv) := by
  intro l g hg hgrouped
  obtain ⟨f, hf, hf'⟩ := (controls_enableAll c).back hg hgrouped
  exact held_of_turns hdrv (fun s k => Or.inr rfl) (fun s _ => rfl) hc (canEnable_of_grouped hf hf')
    (UnorderedMap.mem_keys_iff.mpr ⟨f, hf⟩)

/-- `enable` of a Dell fan that can be enabled enables them all. -/
theorem allHeld_enable (hdrv : drv.Enables) (hc : Labelled c) {l : String} {f : Fan}
    (hf : c.fan? l = some f) (hgrouped : f.Grouped) (hnone : c.testing? l = none) :
    AllHeld (c.enable drv l) := by
  intro k g hg hkgrouped
  obtain ⟨f', hf', hgrouped'⟩ := (controls_enable c l).back hg hkgrouped
  rcases enableWith_cases hdrv hc (fun label c => c.enableDellFans drv (some label)) l with
    ⟨hidle, -⟩ | ⟨-, f₀, hf₀, -, -, heq⟩
  · exact absurd (canEnable_of_grouped hf hgrouped) (hidle.resolve_left (not_not.mpr hnone))
  · obtain rfl := Option.some.inj (hf.symm.trans hf₀)
    have hset : Controls c (c.setFan l { f with enabled := true }) := controls_setFan hf rfl
    rw [Controller.enable, heq]
    simp only [if_pos hgrouped.1]
    rw [testing?_emplace]
    split_ifs with hk
    · exact nofun
    · obtain ⟨f'', hf'', heq''⟩ := hset.fan? hf'
      exact held_enableDellFans hdrv (hc.controls hset) hf''
        ((grouped_of_uncontrolled heq'').2.mpr hgrouped') fun hkl => hk (Option.some.inj hkl).symm

theorem Together.enable (h : Together c) (hdrv : drv.Enables) (hc : Labelled c) (l : String) :
    Together (c.enable drv l) := by
  have hcontrols : Controls c (c.enable drv l) := controls_enable c l
  rcases enableWith_cases hdrv hc (fun label c => c.enableDellFans drv (some label)) l with
    ⟨-, hsame⟩ | ⟨hnone, f, hf, hignore, hconf, heq⟩
  · exact h.sameDell ⟨hcontrols, fun k _ _ _ => hsame k⟩
  · by_cases htype : f.type = .dell
    · exact Or.inl (allHeld_enable hdrv hc hf ⟨htype, hignore, hconf⟩ hnone)
    · refine h.sameDell ⟨hcontrols, fun k g hg hgtype => ?_⟩
      have hk : k ≠ l := by
        rintro rfl
        obtain rfl := Option.some.inj (hf.symm.trans hg)
        exact htype hgtype
      rw [Controller.enable, heq]
      simp only [if_neg htype]
      rw [testing?_emplace, if_neg hk]
      rfl

/-! ## `disable` -/

theorem noneEnabled_disableDellFans {d : Controller} {exceptLabel : Option String}
    (h : c.disableDellFans drv exceptLabel = some d) {l : String} {f : Fan}
    (hf : c.fan? l = some f) (htype : f.type = .dell) (hl : exceptLabel ≠ some l) :
    d.tasks.find? l = none := by
  refine Loop.foldlM_establishes (P := Controls c) (Q := fun s => s.tasks.find? l = none)
    (fun s k s' hs hstep => ?_) (fun s k s' _ hgone hstep => ?_) (fun s s' hs hstep => ?_)
    (Controls.refl c) (UnorderedMap.mem_keys_iff.mpr ⟨f, hf⟩) h
  · unfold disableDellFan at hstep
    split_ifs at hstep
    · exact hs.trans (controls_disableAlone hstep)
    · exact Option.some.inj hstep ▸ hs
  · unfold disableDellFan at hstep
    split_ifs at hstep
    · exact (stops_disableAlone hstep).1.gone hgone
    · exact Option.some.inj hstep ▸ hgone
  · obtain ⟨g, hg, hgf⟩ := hs.fan? hf
    have hdell : (s.fan? l).any (fun f => decide (f.type = .dell)) = true := by
      rw [hg]
      exact decide_eq_true ((grouped_of_uncontrolled hgf).1.mpr htype)
    rw [disableDellFan, if_pos ⟨hdell, hl⟩] at hstep
    exact (stops_disableAlone hstep).2

/-- A `disable` that ends the task of a Dell fan ends those of all. -/
theorem noneEnabled_disable {l : String} {f : Fan} (hf : c.fan? l = some f) (htype : f.type = .dell)
    (ht : c.testing? l ≠ none) (h : c.disable drv l = some c') : NoneEnabled c' := by
  have hcontrols := controls_disable h
  have hgone := (stops_disable h).2
  rcases disableWith_cases h with ⟨hnone, -⟩ | ⟨d, -, hd, hdevice⟩
  · exact absurd (testing?_of_none hnone) ht
  obtain ⟨g, hg, hgf⟩ := (controls_eraseTask hd).fan? hf
  rcases hdevice with ⟨hmissing, -⟩ | ⟨x, hx, hset⟩
  · cases hmissing.symm.trans hg
  obtain rfl := Option.some.inj (hg.symm.trans hx)
  rw [if_pos ((grouped_of_uncontrolled hgf).1.mpr htype)] at hset
  intro k x hx hxtype hk
  by_cases hkl : k = l
  · subst hkl
    cases (testing?_of_none hgone).symm.trans hk
  · obtain ⟨y, hy, hyx⟩ := hcontrols.fan?_back hx
    have hbefore := (controls_eraseTask hd).trans
      (controls_setFan hg (Fan.uncontrolled_disableControl drv g))
    obtain ⟨z, hz, hzy⟩ := hbefore.fan? hy
    have hztype := (grouped_of_uncontrolled (hzy.trans hyx)).1.mpr hxtype
    have hnone := noneEnabled_disableDellFans hset hz hztype fun h => hkl (Option.some.inj h).symm
    cases (testing?_of_none hnone).symm.trans hk

theorem testing?_of_tasks {k : String} (h : c'.tasks.find? k = c.tasks.find? k) :
    c'.testing? k = c.testing? k := by rw [testing?, testing?, h]

/-- `disable` leaves no Dell fan enabled, or it ends no task but that of its label. -/
theorem disable_cases {l : String} (h : c.disable drv l = some c') :
    NoneEnabled c' ∨ (c.testing? l = none ∨ ∀ f, c.fan? l = some f → f.type ≠ .dell) ∧
      ∀ k, k ≠ l → c'.testing? k = c.testing? k := by
  by_cases hdell : c.testing? l ≠ none ∧ ∃ f, c.fan? l = some f ∧ f.type = .dell
  · obtain ⟨hheld, f, hf, htype⟩ := hdell
    exact Or.inl (noneEnabled_disable hf htype hheld h)
  · refine Or.inr ⟨?_, fun k hk => testing?_of_tasks ?_⟩
    · by_cases hheld : c.testing? l = none
      · exact Or.inl hheld
      · exact Or.inr fun f hf htype => hdell ⟨hheld, f, hf, htype⟩
    · rcases disableWith_cases h with ⟨-, rfl⟩ | ⟨d, hheld, hd, ⟨-, rfl⟩ | ⟨g, hg, hset⟩⟩
      · rfl
      · exact tasks_eraseTask hd hk
      · obtain ⟨f, hf, hfg⟩ := (controls_eraseTask hd).fan?_back hg
        have hgtype : g.type ≠ .dell := by
          intro htype
          refine hdell ⟨?_, f, hf, (grouped_of_uncontrolled hfg).1.mpr htype⟩
          simpa [Controller.testing?] using hheld
        rw [if_neg hgtype] at hset
        rw [hset, tasks_setFan]
        exact tasks_eraseTask hd hk

theorem Together.disable (h : Together c) {l : String} (hop : c.disable drv l = some c') :
    Together c' := by
  rcases disable_cases hop with hnone | ⟨hl, hothers⟩
  · exact Or.inr hnone
  · refine h.sameDell ⟨controls_disable hop, fun k f hf htype => ?_⟩
    by_cases hk : k = l
    · subst hk
      have hnone := hl.resolve_right fun hother => hother f hf htype
      rw [hnone]
      exact testing?_of_none (stops_disable hop).2
    · exact hothers k hk

theorem noneEnabled_of_idle (h : ∀ l, c.tasks.find? l = none) : NoneEnabled c := by
  intro l _ _ _ hl
  cases (testing?_of_none (h l)).symm.trans hl

/-! ## `test` and `recover` -/

theorem Together.test (h : Together c) {l : String} {forced blocking : Bool}
    (hop : c.test drv l forced blocking = some c') : Together c' := by
  rcases test_cases hop with rfl | ⟨f, d, -, -, -, hd, rfl⟩
  · exact h
  · have hcontrols := controls_eraseTask hd
    have htasks : ∀ k, (d.setTasks (d.tasks.emplace f.label ⟨true⟩)).testing? k =
        if k = f.label then some true else c.testing? k := by
      intro k
      rw [testing?_emplace, testing?_of_none (eraseTask_untested hd).2, Option.getD_none]
      split_ifs with hk
      · rfl
      · exact testing?_of_tasks (tasks_eraseTask hd hk)
    rcases h with h | h
    · refine Or.inl fun k g hg hgrouped => ?_
      obtain ⟨x, hx, hxgrouped⟩ := hcontrols.back hg hgrouped
      rw [htasks]
      split_ifs
      · exact nofun
      · exact h k x hx hxgrouped
    · refine Or.inr fun k g hg htype => ?_
      obtain ⟨x, hx, hxg⟩ := hcontrols.fan?_back hg
      rw [htasks]
      split_ifs
      · exact nofun
      · exact h k x hx ((grouped_of_uncontrolled hxg).1.mpr htype)

theorem Together.testWrites (h : Together c) {l : String} {r : TestResult}
    (hop : c.testWrites l r = some c') : Together c' := by
  obtain ⟨f, htest, hf, rfl⟩ := testWrites_cases hop
  have hback : ∀ k g, (c.setFan l (f.afterTest r)).fan? k = some g →
      k = l ∨ c.fan? k = some g := by
    intro k g hg
    rw [fan?_setFan] at hg
    split_ifs at hg with hk
    · exact Or.inl hk
    · exact Or.inr hg
  have htested : (c.setFan l (f.afterTest r)).testing? l = some true := htest
  rcases h with h | h
  · refine Or.inl fun k g hg hgrouped => ?_
    rcases hback k g hg with rfl | hg
    · exact htested ▸ nofun
    · exact h k g hg hgrouped
  · refine Or.inr fun k g hg htype => ?_
    rcases hback k g hg with rfl | hg
    · exact htested ▸ nofun
    · exact h k g hg htype

theorem Together.testComplete (h : Together c) (hdrv : drv.Enables) (hwf : WellFormed c)
    {l : String} {r : TestResult} (hop : c.testComplete drv l r = some c') : Together c' := by
  obtain ⟨f, -, hf, rfl⟩ := testComplete_cases hop
  have hset : Labelled ((c.setFan l (f.afterTest r)).setTasks (c.tasks.erase l)) :=
    ((hwf.setFan (g := f.afterTest r) hf rfl (f.hwId_afterTest r) rfl).erase l).labelled
  have hnone : ((c.setFan l (f.afterTest r)).setTasks (c.tasks.erase l)).testing? l = none := by
    rw [testing?, tasks_setTasks, SortedMap.find?_erase, if_pos rfl, Option.map_none]
  have hfan : ((c.setFan l (f.afterTest r)).setTasks (c.tasks.erase l)).fan? l =
      some (f.afterTest r) := fan?_setFan_self c l _
  by_cases hgrouped : (f.afterTest r).Grouped
  · exact Or.inl (allHeld_enable hdrv hset hfan hgrouped hnone)
  · refine Together.enable ?_ hdrv hset l
    have hback : ∀ k g, k ≠ l →
        ((c.setFan l (f.afterTest r)).setTasks (c.tasks.erase l)).fan? k = some g →
        c.fan? k = some g := by
      intro k g hk hg
      rwa [fan?_setTasks, fan?_setFan, if_neg hk] at hg
    have htasks : ∀ k, k ≠ l →
        ((c.setFan l (f.afterTest r)).setTasks (c.tasks.erase l)).testing? k = c.testing? k := by
      intro k hk
      exact testing?_of_tasks (by rw [tasks_setTasks, SortedMap.find?_erase, if_neg hk])
    rcases h with h | h
    · refine Or.inl fun k g hg hkgrouped => ?_
      have hk : k ≠ l := by
        rintro rfl
        obtain rfl := Option.some.inj (hfan.symm.trans hg)
        exact hgrouped hkgrouped
      rw [htasks k hk]
      exact h k g (hback k g hk hg) hkgrouped
    · refine Or.inr fun k g hg htype => ?_
      by_cases hk : k = l
      · rw [hk, hnone]
        simp
      · rw [htasks k hk]
        exact h k g (hback k g hk hg) htype

theorem tasks_recover (drv : Driver) (c : Controller) : (c.recover drv).tasks = c.tasks := by
  refine Loop.foldl_keeps (P := fun s : Controller => s.tasks = c.tasks) (fun s l hs => ?_) rfl _
  unfold recoverFan
  cases s.fan? l with
  | none => exact hs
  | some f => exact hs

theorem Together.recover (h : Together c) (drv : Driver) : Together (c.recover drv) :=
  h.sameDell ⟨controls_recover c, fun k _ _ _ => testing?_of_tasks (by rw [tasks_recover])⟩

end Controller

end Fancon
