import Fancon.Controller.LiveFans

/-! # What a disable lasts against

After a `disable` of a label has returned, the tests that were started before still take their last
steps. The detached thread of a test enables its fan, and if that is a Dell fan, all of them; a
`disable` does not stop it. Where no test of the label is on its way, and for a Dell fan none of
another one that can be enabled, the fan stays disabled until a client enables it
(`disable_lasts`).
-/
set_option autoImplicit false
set_option maxHeartbeats 250000
set_option maxRecDepth 120000

namespace Fancon

namespace Live

variable {drv : Driver} {parse : Text → Bool × ControllerMsg} {print : ControllerMsg → Text}
  {s s' : Live} {l : String}

/-! ## Disabled fans -/

/-- The label has no task, and its fan is under the control of the driver. -/
def Disabled (s : Live) (l : String) : Prop :=
  s.tasks.contains l = false ∧ ∀ o, s.object? l = some o → o.fan.enabled = false

/-- The completion steps of tests, and what a client may call that is not to enable a fan. -/
def Later : Event → Prop
  | .disable _ | .disableAll | .recover | .edit _ | .testDone _ _ _ | .reset _ | .advance _
  | .detachedErase _ | .detachedEnable _ => True
  | .enable _ | .enableAll | .test _ _ _ | .reload _ _ | .setDevices _ _ => False

/-- The runs that go on from a state without a request to enable a fan. -/
def laterSystem (parse : Text → Bool × ControllerMsg) (print : ControllerMsg → Text)
    (drivers : Driver → Prop) (start : Live) : Transition.System Live Event where
  init s := s = start
  step s e s' := Later e ∧ (system parse print drivers).step s e s'

/-- A Dell fan that is enabled along with the others. -/
def CanEnableDell (s : Live) (l : String) : Prop :=
  ∃ o, s.object? l = some o ∧ o.fan.type = .dell ∧ o.fan.ignore = false

/-- A test whose detached thread will enable the Dell fans other than its own. -/
def EnablesOtherDell (s : Live) (l : String) : Prop :=
  s.UnderTest l ∧ ∃ o, s.object? l = some o ∧ o.fan.type = .dell ∧ o.fan.ignore = false ∧
    o.fan.isConfigured = true

/-- No test that is on its way will enable the fan. -/
structure Unattended (s : Live) (l : String) : Prop where
  untested : ¬ s.UnderTest l
  others : s.CanEnableDell l → ∀ k, k ≠ l → ¬ s.EnablesOtherDell k

/-- When a `disable` is final: no test on its way will enable the fan, and if the fan is under
manual control, it has a task and the driver takes it back. -/
structure Lasts (drv : Driver) (s : Live) (l : String) : Prop where
  unattended : Unattended s l
  released : ∀ o, s.object? l = some o → o.fan.enabled = true →
    s.tasks.contains l = true ∧ drv.disables o.fan = true

/-! ## What keeps a fan disabled -/

/-- The fans of `s'` agree with those of `s` in what enabling Dell fans looks at. -/
def SameRoles (s s' : Live) : Prop :=
  ∀ k o', s'.object? k = some o' → ∃ o, s.object? k = some o ∧ o.fan.type = o'.fan.type ∧
    o.fan.ignore = o'.fan.ignore ∧ o.fan.isConfigured = o'.fan.isConfigured

theorem SameFans.sameRoles (h : SameFans s s') : SameRoles s s' := by
  intro k o' ho'
  obtain ⟨o, ho, -, hfan⟩ := h.symm.object? ho'
  exact ⟨o, ho, Fan.type_of_uncontrolled hfan, Fan.ignore_of_uncontrolled hfan,
    Fan.isConfigured_of_uncontrolled hfan⟩

theorem sameRoles_afterTest {o : FanObject} (ho : s.object? l = some o) (r : TestResult) :
    SameRoles s (s.setFan l (o.fan.afterTest r)) := by
  intro k o' ho'
  rw [object?_setFan] at ho'
  split_ifs at ho' with hk
  · rw [ho] at ho'
    obtain rfl := Option.some.inj ho'
    refine ⟨o, hk ▸ ho, ?_, rfl, rfl⟩
    unfold Fan.type Fan.afterTest FanKind.withDriverFlag
    cases o.fan.kind <;> rfl
  · exact ⟨o', ho', rfl, rfl, rfl⟩

theorem Unattended.of_frame (h : Unattended s l) (hsame : SameRoles s s')
    (htests : ∀ k, s'.UnderTest k → s.UnderTest k) : Unattended s' l where
  untested hl := h.untested (htests l hl)
  others := by
    rintro ⟨o', ho', htype, hignore⟩ k hk ⟨hunder, x', hx', hxtype, hxignore, hxconf⟩
    obtain ⟨o, ho, hotype, hoignore, -⟩ := hsame l o' ho'
    obtain ⟨x, hx, htype', hignore', hconf'⟩ := hsame k x' hx'
    exact h.others ⟨o, ho, hotype.trans htype, hoignore.trans hignore⟩ k hk
      ⟨htests k hunder, x, hx, htype'.trans hxtype, hignore'.trans hxignore, hconf'.trans hxconf⟩

/-- A fan that is under manual control was so before, or may be enabled. -/
theorem Move.enabled {enables : String → Prop} (h : Move print enables s s') {o' : FanObject}
    (ho' : s'.object? l = some o') (henabled : o'.fan.enabled = true) :
    (∃ o, s.object? l = some o ∧ o.fan.enabled = true) ∨ enables l := by
  cases h with
  | @control k o g ho _ hcontrol =>
    rw [object?_setFan] at ho'
    split_ifs at ho' with hk
    · rw [ho] at ho'
      obtain rfl := Option.some.inj ho'
      rcases hcontrol henabled with hold | hnew
      · exact Or.inl ⟨o, hk ▸ ho, hold⟩
      · exact Or.inr (hk ▸ hnew)
    · exact Or.inl ⟨o', ho', henabled⟩
  | start _ _ => exact Or.inl ⟨o', ho', henabled⟩
  | advance hadvance =>
    obtain ⟨id, ⟨-, rfl⟩ | ⟨-, rfl⟩ | ⟨-, rfl⟩⟩ := advance_cases hadvance
    all_goals exact Or.inl ⟨o', ho', henabled⟩
  | stop _ => exact Or.inl ⟨o', ho', henabled⟩

theorem Moves.enabled {enables : String → Prop} (h : Moves print enables s s')
    (hl : ¬ enables l) (hs : ∀ o, s.object? l = some o → o.fan.enabled = false) :
    ∀ o, s'.object? l = some o → o.fan.enabled = false := by
  induction h with
  | refl => exact hs
  | tail _ hmove ih =>
    intro o' ho'
    refine Bool.eq_false_iff.mpr fun henabled => ?_
    rcases hmove.enabled ho' henabled with ⟨o, ho, hold⟩ | hnew
    · exact Bool.false_ne_true ((ih o ho).symm.trans hold)
    · exact hl hnew

/-- What holds from the return of the `disable` on. -/
structure StaysDisabled (s : Live) (l : String) : Prop where
  labelled : Labelled s
  unattended : Unattended s l
  gone : s.tasks.find? l = none
  released : ∀ o, s.object? l = some o → o.fan.enabled = false

theorem StaysDisabled.moves (h : StaysDisabled s l) (hmoves : Moves print (· ≠ l) s s') :
    StaysDisabled s' l where
  labelled := (Moves.sameFans hmoves).labelled h.labelled
  unattended := h.unattended.of_frame (Moves.sameFans hmoves).sameRoles
    fun _ hk => Moves.underTest hmoves hk
  gone := Moves.gone hmoves (fun hl => hl rfl) h.gone
  released := Moves.enabled hmoves (fun hl => hl rfl) h.released

theorem StaysDisabled.stops (h : StaysDisabled s l)
    (hmoves : Moves print (fun _ => False) s s') : StaysDisabled s' l :=
  h.moves (Moves.mono hmoves fun _ => False.elim)

theorem StaysDisabled.disabled (h : StaysDisabled s l) : Disabled s l :=
  ⟨by rw [SortedMap.contains, h.gone]; rfl, h.released⟩

/-! ## The steps of tests -/

theorem underTest_insert {k : String} {id : ℕ} {pc pc' : TestStep}
    (ht : s.tasks.find? k = some ⟨id, some pc⟩) {j : String}
    (hj : (s.setTasks (s.tasks.insert k ⟨id, some pc'⟩)).UnderTest j) : s.UnderTest j := by
  rcases hj with hj | ⟨t, p, hjt, hp⟩
  · exact Or.inl hj
  · rw [setTasks, SortedMap.find?_insert] at hjt
    split_ifs at hjt with hjk
    · exact Or.inr ⟨_, pc, hjk ▸ ht, rfl⟩
    · exact Or.inr ⟨t, p, hjt, hp⟩

/-- A test of another label goes on. -/
theorem StaysDisabled.insert (h : StaysDisabled s l) {k : String} {id : ℕ} {pc pc' : TestStep}
    (ht : s.tasks.find? k = some ⟨id, some pc⟩) :
    StaysDisabled (s.setTasks (s.tasks.insert k ⟨id, some pc'⟩)) l where
  labelled := h.labelled
  unattended := h.unattended.of_frame (SameFans.refl s).sameRoles fun _ hj => underTest_insert ht hj
  gone := by
    rw [setTasks, SortedMap.find?_insert, if_neg]
    · exact h.gone
    · rintro rfl
      exact h.unattended.untested (Or.inr ⟨_, pc, ht, rfl⟩)
  released := h.released

theorem StaysDisabled.testDone (h : StaysDisabled s l) {k : String} {success : Bool}
    {r : TestResult} (hdone : s.testDone k success r = some s') : StaysDisabled s' l := by
  obtain ⟨o, r', ht, ho, -, -, rfl⟩ := testDone_cases hdone
  have hk : l ≠ k := by
    rintro rfl
    exact h.unattended.untested (Or.inr ⟨_, .test, ht, rfl⟩)
  refine StaysDisabled.insert (s := s.setFan k (o.fan.afterTest r')) ⟨h.labelled.afterTest ho r',
    h.unattended.of_frame (sameRoles_afterTest ho r') fun _ => id, h.gone, fun x hx => ?_⟩ ht
  rw [object?_setFan, if_neg hk] at hx
  exact h.released x hx

theorem StaysDisabled.detachedErase (h : StaysDisabled s l) {i : ℕ}
    (herase : s.detachedErase drv print i = some s') : StaysDisabled s' l := by
  obtain ⟨d, t, hd, -, ht, rfl⟩ := detachedErase_cases herase
  obtain ⟨hmoves, -⟩ := moves_eraseTask ht
  have hstays := h.stops hmoves
  refine ⟨hstays.labelled, h.unattended.of_frame (Moves.sameFans hmoves).sameRoles ?_, hstays.gone,
    hstays.released⟩
  rintro k (⟨x, hx, rfl⟩ | hk)
  · rcases List.mem_or_eq_of_mem_set hx with hx | rfl
    · exact Moves.underTest hmoves (Or.inl ⟨x, hx, rfl⟩)
    · exact Or.inl ⟨d, hd, rfl⟩
  · exact Moves.underTest hmoves (Or.inr hk)

/-- The detached thread enables a fan other than that of the label, and no other Dell fan unless
the label is that of no Dell fan. -/
theorem StaysDisabled.detachedEnable (h : StaysDisabled s l) {i : ℕ}
    (henable : s.detachedEnable drv i = some s') : StaysDisabled s' l := by
  obtain ⟨d, hd, -, rfl⟩ := detachedEnable_cases henable
  have hunder : s.UnderTest d.label := Or.inl ⟨d, hd, rfl⟩
  have hlabel : d.label ≠ l := fun hl => h.unattended.untested (hl ▸ hunder)
  have hmay : MayEnable (· ≠ l) s d.label := fun o ho _ =>
    ⟨hlabel, (h.labelled d.label o ho).symm ▸ hlabel⟩
  have hmoves : Moves (fun _ => []) (· ≠ l) s (s.enable drv d.label) := by
    refine moves_enable hmay fun o ho hignore hconf htype k x hx hxtype _ hxignore => ?_
    have hk : k ≠ l := by
      rintro rfl
      exact h.unattended.others ⟨x, hx, hxtype, hxignore⟩ d.label hlabel
        ⟨hunder, o, ho, htype, hignore, hconf⟩
    exact ⟨hk, (h.labelled k x hx).symm ▸ hk⟩
  have hstays := h.moves hmoves
  refine ⟨hstays.labelled, hstays.unattended.of_frame (SameFans.refl _).sameRoles ?_, hstays.gone,
    hstays.released⟩
  rintro k (⟨x, hx, rfl⟩ | hk)
  · exact Or.inl ⟨x, List.mem_of_mem_eraseIdx hx, rfl⟩
  · exact Or.inr hk

theorem StaysDisabled.perform (h : StaysDisabled s l) {e : Event} (he : Later e)
    (hstep : s.perform drv parse print e = some s') : StaysDisabled s' l := by
  cases e with
  | disable k => exact h.stops (moves_disable hstep).1
  | disableAll => exact h.stops (moves_disableAll hstep).1
  | recover =>
    have hmoves : Moves print (· ≠ l) s (s.recover drv) := by
      refine moves_recover fun k hk hkl => ?_
      have hcontains := SortedMap.contains_iff.mpr hk
      rw [hkl, SortedMap.contains, h.gone] at hcontains
      cases hcontains
    exact Option.some.inj hstep ▸ h.moves hmoves
  | edit file =>
    exact Option.some.inj hstep ▸ ⟨h.labelled, ⟨h.unattended.untested, h.unattended.others⟩,
      h.gone, h.released⟩
  | testDone k success r => exact h.testDone hstep
  | reset k =>
    obtain ⟨id, ht, rfl⟩ := reset_cases hstep
    exact h.insert ht
  | advance k => exact h.stops (.single (.advance hstep))
  | detachedErase i => exact h.detachedErase hstep
  | detachedEnable i => exact h.detachedEnable hstep
  | enable _ => exact he.elim
  | enableAll => exact he.elim
  | test _ _ _ => exact he.elim
  | reload _ _ => exact he.elim
  | setDevices _ _ => exact he.elim

/-! ## The `disable` itself -/

theorem eq_of_uncontrolled {f g : Fan} (h : f.uncontrolled = g.uncontrolled)
    (henabled : f.enabled = g.enabled) : f = g := by
  have hf : f = { f.uncontrolled with enabled := f.enabled } := rfl
  rw [hf, h, henabled]
  rfl

theorem released_of_disableControl {f g : Fan} (h : g.uncontrolled = f.uncontrolled)
    (hf : f.enabled = true) (hdrv : drv.disables f = true) :
    (g.disableControl drv).enabled = false := by
  refine Bool.eq_false_iff.mpr fun henabled => ?_
  have hg : g = f := eq_of_uncontrolled h ((Fan.enabled_of_disableControl henabled).trans hf.symm)
  rw [hg, Fan.disableControl, if_pos hdrv] at henabled
  cases henabled

/-- A `disable` of a fan with a task gives control of it back. -/
theorem released_of_disable {o : FanObject} (ho : s.object? l = some o)
    (hcontains : s.tasks.contains l = true) (henabled : o.fan.enabled = true)
    (hdrv : drv.disables o.fan = true)
    (h : s.disable drv print l = some s') : ∀ o', s'.object? l = some o' →
      o'.fan.enabled = false := by
  unfold Live.disable disableWith at h
  rw [hcontains] at h
  obtain ⟨t, ht, h⟩ := Option.bind_eq_some_iff.mp h
  obtain ⟨hmoves, -⟩ := moves_eraseTask ht
  obtain ⟨x, hx, -, hfan⟩ := (Moves.sameFans hmoves).object? ho
  have hf : t.fan? l = some x.fan := fan?_eq_some.mpr ⟨x, hx, rfl⟩
  rw [hf] at h
  have hset : ∀ o', (t.setFan l (x.fan.disableControl drv)).object? l = some o' →
      o'.fan.enabled = false := by
    intro o' ho'
    rw [object?_setFan_self hx] at ho'
    obtain rfl := Option.some.inj ho'
    exact released_of_disableControl hfan henabled hdrv
  simp only at h
  split_ifs at h
  · exact Moves.enabled (moves_disableDellFans h) id hset
  · exact Option.some.inj h ▸ hset

theorem staysDisabled_of_disable (hs : Labelled s) (hlasts : Lasts drv s l)
    (h : s.disable drv print l = some s') : StaysDisabled s' l := by
  obtain ⟨hmoves, hgone⟩ := moves_disable h
  refine ⟨(Moves.sameFans hmoves).labelled hs, hlasts.unattended.of_frame
    (Moves.sameFans hmoves).sameRoles fun _ hk => Moves.underTest hmoves hk, hgone, ?_⟩
  cases ho : s.object? l with
  | none =>
    intro o' ho'
    obtain ⟨o, hold, -⟩ := (Moves.sameFans hmoves).symm.object? ho'
    cases ho.symm.trans hold
  | some o =>
    cases henabled : o.fan.enabled with
    | true =>
      obtain ⟨hcontains, hdrv⟩ := hlasts.released o ho henabled
      exact released_of_disable ho hcontains henabled hdrv h
    | false =>
      refine Moves.enabled hmoves id fun x hx => ?_
      obtain rfl := Option.some.inj (ho.symm.trans hx)
      exact henabled

/-- **A disable lasts, if no test on its way will enable the fan and the fan is given back.** -/
theorem disable_lasts (drivers : Driver → Prop) (parse : Text → Bool × ControllerMsg)
    (print : ControllerMsg → Text) (drv : Driver) (l : String) (s s₁ s₂ : Live)
    (hs : Transition.Reachable (system parse print drivers) s) (hlasts : Lasts drv s l)
    (hdisable : s.disable drv print l = some s₁)
    (hlater : Transition.Reachable (laterSystem parse print drivers s₁) s₂) : Disabled s₂ l := by
  refine StaysDisabled.disabled (Transition.ReachableWhen.invariant (fun s => StaysDisabled s l)
    ?_ ?_ hlater)
  · rintro _ rfl
    exact staysDisabled_of_disable (labelled_of_reachable hs) hlasts hdisable
  · rintro s e s' h - ⟨he, drv', -, hstep⟩
    exact h.perform he hstep

/-! ## A disable before and after a test -/

/-- The fan is set up and enabled. -/
def enabledCase : List Event := [.setDevices readyEnv (Controller.caseDevices "40: 800")]

theorem disable_lasts_case : ∃ s s₁,
    after (fun _ => (true, {})) (fun _ => []) (fun _ _ => true) enabledCase = some s ∧
      s.disable willingDriver (fun _ => []) "case" = some s₁ ∧ Disabled s₁ "case" := by
  obtain ⟨s, hs⟩ := Option.isSome_iff_exists.mp
    (by decide +kernel : (after (fun _ => (true, {})) (fun _ => []) (fun _ _ => true)
      enabledCase).isSome = true)
  have hcase : (after (fun _ => (true, {})) (fun _ => []) (fun _ _ => true) enabledCase).all
      (fun s => (s.detached.isEmpty && s.tasks.entries.all fun e => e.2.test.isNone) &&
        s.tasks.contains "case" &&
        (s.disable willingDriver (fun _ => []) "case").isSome) = true := by decide +kernel
  rw [hs, Option.all_some] at hcase
  obtain ⟨hcase, hreturns⟩ := Bool.and_eq_true_iff.mp hcase
  obtain ⟨huntested, htask⟩ := Bool.and_eq_true_iff.mp hcase
  obtain ⟨s₁, hdisable⟩ := Option.isSome_iff_exists.mp hreturns
  have hlasts : Lasts willingDriver s "case" :=
    ⟨⟨untested_of_all huntested _, fun _ k _ hk => untested_of_all huntested k hk.1⟩,
      fun _ _ _ => ⟨htask, rfl⟩⟩
  exact ⟨s, s₁, hs, hdisable, disable_lasts (fun _ => True) _ _ willingDriver "case" s s₁ s₁
    (reachableWhen_after (fun _ _ _ => trivial) hs) hlasts hdisable (.init rfl)⟩

/-- A disable returns while the thread that the test left behind has yet to run. -/
theorem disable_undone : ¬ ∀ (drivers : Driver → Prop) (parse : Text → Bool × ControllerMsg)
    (print : ControllerMsg → Text) (drv : Driver) (l : String) (s s₁ s₂ : Live),
    Transition.Reachable (system parse print drivers) s → drivers drv →
    s.disable drv print l = some s₁ →
    Transition.Reachable (laterSystem parse print drivers s₁) s₂ → Disabled s₂ l := by
  intro h
  obtain ⟨s, hs⟩ := Option.isSome_iff_exists.mp
    (by decide +kernel : (after (fun _ => (true, {})) (fun _ => []) (fun _ _ => true)
      testCase).isSome = true)
  have hlater : (after (fun _ => (true, {})) (fun _ => []) (fun _ _ => true) testCase).all
      (fun s => (s.disable willingDriver (fun _ => []) "case").any fun s₁ =>
        (s₁.detachedErase willingDriver (fun _ => []) 0).any fun t =>
          (t.detachedEnable willingDriver 0).any fun s₂ => s₂.tasks.contains "case") = true := by
    decide +kernel
  rw [hs, Option.all_some] at hlater
  obtain ⟨s₁, hdisable, hlater⟩ := (Option.any_eq_true _ _).mp hlater
  obtain ⟨t, herase, hlater⟩ := (Option.any_eq_true _ _).mp hlater
  obtain ⟨s₂, henable, htask⟩ := (Option.any_eq_true _ _).mp hlater
  have hreach : Transition.Reachable
      (laterSystem (fun _ => (true, {})) (fun _ => []) (fun _ => True) s₁) s₂ :=
    .step (a := .detachedEnable 0) (.step (a := .detachedErase 0) (.init rfl) trivial
      ⟨trivial, willingDriver, trivial, herase⟩) trivial ⟨trivial, willingDriver, trivial, henable⟩
  have hdisabled := h (fun _ => True) _ _ willingDriver "case" s s₁ s₂
    (reachableWhen_after (fun _ _ _ => trivial) hs) trivial hdisable hreach
  cases hdisabled.1.symm.trans htask

end Live

end Fancon
