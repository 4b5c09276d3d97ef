import Fancon.Controller.Live

/-! # What the operations do to the threads

The operations, apart from the loop of `merge` over the fans and the removal of devices, are made
of changes of the control mode of fans, starts of the tasks of enabled fans, steps of the threads
of tests and ends of threads (`Moves`). None of these destroys a fan object, and a test only goes
on towards its end.
-/
set_option autoImplicit false
set_option maxHeartbeats 250000
set_option maxRecDepth 120000

namespace Fancon

/-- A fan object but for the control mode of the fan. -/
def FanObject.uncontrolled (o : FanObject) : ℕ × Fan := (o.id, o.fan.uncontrolled)

/-- Giving control back does not take it. -/
theorem Fan.enabled_of_disableControl {drv : Driver} {f : Fan}
    (h : (f.disableControl drv).enabled = true) : f.enabled = true := by
  unfold Fan.disableControl at h
  split_ifs at h
  exact h

namespace Live

variable {drv : Driver} {print : ControllerMsg → Text} {s s' : Live}

/-! ## The fans -/

theorem object?_setFan (s : Live) (l k : String) (f : Fan) :
    (s.setFan l f).object? k =
      if k = l then (s.object? l).map (fun o => { o with fan := f }) else s.object? k :=
  UnorderedMap.find?_modify ..

theorem object?_setFan_self {l : String} {o : FanObject} (h : s.object? l = some o) (f : Fan) :
    (s.setFan l f).object? l = some { o with fan := f } := by
  rw [object?_setFan, if_pos rfl, h, Option.map_some]

theorem fan?_eq_some {l : String} {f : Fan} :
    s.fan? l = some f ↔ ∃ o, s.object? l = some o ∧ o.fan = f := Option.map_eq_some_iff

theorem object?_removeFan (s : Live) (l k : String) :
    (s.removeFan l).object? k = if k = l then none else s.object? k :=
  UnorderedMap.find?_remove ..

theorem object?_addFan_of_some {l k : String} {f : Fan} {o : FanObject}
    (h : s.object? k = some o) : (s.addFan l f).object? k = some o := by
  show (s.fans.emplace l ⟨s.created, f⟩).find? k = some o
  cases hl : s.fans.find? l with
  | none =>
    rw [UnorderedMap.find?_emplace_of_none hl, if_neg]
    · exact h
    · rintro rfl
      cases hl.symm.trans h
  | some x =>
    rw [UnorderedMap.emplace_of_some hl]
    exact h

theorem object?_addFan {l k : String} {f : Fan} {o : FanObject}
    (h : (s.addFan l f).object? k = some o) :
    k = l ∧ o = ⟨s.created, f⟩ ∨ s.object? k = some o := by
  change (s.fans.emplace l ⟨s.created, f⟩).find? k = some o at h
  cases hl : s.fans.find? l with
  | none =>
    rw [UnorderedMap.find?_emplace_of_none hl] at h
    split_ifs at h with hk
    · exact Or.inl ⟨hk, (Option.some.inj h).symm⟩
    · exact Or.inr h
  | some x =>
    rw [UnorderedMap.emplace_of_some hl] at h
    exact Or.inr h

def Labelled (s : Live) : Prop := ∀ l o, s.object? l = some o → o.fan.label = l

def SameFans (s s' : Live) : Prop :=
  ∀ l, (s'.object? l).map FanObject.uncontrolled = (s.object? l).map FanObject.uncontrolled

theorem SameFans.refl (s : Live) : SameFans s s := fun _ => rfl

theorem SameFans.trans {a b c : Live} (hab : SameFans a b) (hbc : SameFans b c) : SameFans a c :=
  fun l => (hbc l).trans (hab l)

theorem SameFans.object? (h : SameFans s s') {l : String} {o : FanObject}
    (ho : s.object? l = some o) : ∃ o', s'.object? l = some o' ∧ o'.id = o.id ∧
      o'.fan.uncontrolled = o.fan.uncontrolled := by
  have hl := h l
  rw [ho] at hl
  obtain ⟨o', ho', heq⟩ := Option.map_eq_some_iff.mp hl
  obtain ⟨hid, hfan⟩ := Prod.mk.inj heq
  exact ⟨o', ho', hid, hfan⟩

theorem SameFans.symm (h : SameFans s s') : SameFans s' s := fun l => (h l).symm

theorem SameFans.owns (h : SameFans s s') {l : String} {id : ℕ} (hl : s.Owns l id) :
    s'.Owns l id := by
  obtain ⟨o, ho, rfl⟩ := Option.map_eq_some_iff.mp hl
  obtain ⟨o', ho', hid, -⟩ := h.object? ho
  exact Option.map_eq_some_iff.mpr ⟨o', ho', hid⟩

theorem SameFans.labelled (h : SameFans s s') (hs : Labelled s) : Labelled s' := by
  intro l o' ho'
  obtain ⟨o, ho, -, hfan⟩ := h.symm.object? ho'
  rw [← Fan.label_of_uncontrolled hfan]
  exact hs l o ho

theorem sameFans_setFan {l : String} {o : FanObject} {g : Fan} (ho : s.object? l = some o)
    (hg : g.uncontrolled = o.fan.uncontrolled) : SameFans s (s.setFan l g) := by
  intro k
  rw [object?_setFan]
  split_ifs with hk
  · rw [hk, ho, Option.map_some, Option.map_some, Option.map_some, FanObject.uncontrolled, hg]
    rfl
  · rfl

/-! ## Tests on their way -/

/-- The test of the label has reset its `test_status`, and its last step is not taken. -/
def Completing (s : Live) (l : String) : Prop :=
  (∃ d ∈ s.detached, d.label = l) ∨
    ∃ t pc, s.tasks.find? l = some t ∧ t.test = some pc ∧ pc.testing = false

/-- The label has a test, or a test has left a thread for it. -/
def UnderTest (s : Live) (l : String) : Prop :=
  (∃ d ∈ s.detached, d.label = l) ∨ ∃ t pc, s.tasks.find? l = some t ∧ t.test = some pc

theorem advance_cases {l : String} (h : s.advance print l = some s') :
    ∃ id, s.tasks.find? l = some ⟨id, some .check⟩ ∧
        s' = s.setTasks (s.tasks.insert l
          ⟨id, some (if s.testsRunning = 0 then .save else .spawn)⟩) ∨
      s.tasks.find? l = some ⟨id, some .save⟩ ∧
        s' = (s.toFile print).setTasks (s.tasks.insert l ⟨id, some .spawn⟩) ∨
      s.tasks.find? l = some ⟨id, some .spawn⟩ ∧
        s' = { s with
          tasks := s.tasks.insert l ⟨id, some .ended⟩
          detached := s.detached ++ [⟨id, l, false⟩] } := by
  unfold advance at h
  split at h
  · rename_i id ht
    exact ⟨id, Or.inl ⟨ht, (Option.some.inj h).symm⟩⟩
  · rename_i id ht
    exact ⟨id, Or.inr (Or.inl ⟨ht, (Option.some.inj h).symm⟩)⟩
  · rename_i id ht
    exact ⟨id, Or.inr (Or.inr ⟨ht, (Option.some.inj h).symm⟩)⟩
  · cases h

/-- One of the changes; `enables` are the labels of the fans that may be enabled. -/
inductive Move (print : ControllerMsg → Text) (enables : String → Prop) : Live → Live → Prop
  | control {s : Live} {l : String} {o : FanObject} {g : Fan} : s.object? l = some o →
      g.uncontrolled = o.fan.uncontrolled → (g.enabled = true → o.fan.enabled = true ∨ enables l) →
      Move print enables s (s.setFan l g)
  | start {s : Live} {l : String} {o : FanObject} : s.object? l = some o → enables o.fan.label →
      Move print enables s (s.setTasks (s.tasks.emplace o.fan.label ⟨o.id, none⟩))
  | advance {s s' : Live} {l : String} : s.advance print l = some s' → Move print enables s s'
  | stop {s : Live} {l : String} :
      (∀ id pc, s.tasks.find? l = some ⟨id, some pc⟩ → pc = .ended) →
      Move print enables s (s.setTasks (s.tasks.erase l))

abbrev Moves (print : ControllerMsg → Text) (enables : String → Prop) : Live → Live → Prop :=
  Relation.ReflTransGen (Move print enables)

variable {enables : String → Prop}

theorem sameFans_advance {l : String} (h : s.advance print l = some s') : SameFans s s' := by
  obtain ⟨id, ⟨-, rfl⟩ | ⟨-, rfl⟩ | ⟨-, rfl⟩⟩ := advance_cases h <;> exact SameFans.refl s

theorem Move.sameFans (h : Move print enables s s') : SameFans s s' := by
  cases h with
  | control ho hg _ => exact sameFans_setFan ho hg
  | start _ _ => exact SameFans.refl s
  | advance h => exact sameFans_advance h
  | stop _ => exact SameFans.refl s

theorem Moves.sameFans (h : Moves print enables s s') : SameFans s s' := by
  induction h with
  | refl => exact SameFans.refl s
  | tail _ hmove ih => exact ih.trans hmove.sameFans

/-- What the entry of `l` becomes when the thread of its test takes a step. -/
theorem find?_advance {l : String} (h : s.advance print l = some s') :
    ∃ id pc pc', s.tasks.find? l = some ⟨id, some pc⟩ ∧ pc.testing = false ∧
      pc'.testing = false ∧ s'.tasks = s.tasks.insert l ⟨id, some pc'⟩ ∧
      (s'.detached = s.detached ∨ s'.detached = s.detached ++ [⟨id, l, false⟩]) := by
  obtain ⟨id, ⟨ht, rfl⟩ | ⟨ht, rfl⟩ | ⟨ht, rfl⟩⟩ := advance_cases h
  · refine ⟨id, .check, _, ht, rfl, ?_, rfl, Or.inl rfl⟩
    split_ifs <;> rfl
  · exact ⟨id, .save, .spawn, ht, rfl, rfl, rfl, Or.inl rfl⟩
  · exact ⟨id, .spawn, .ended, ht, rfl, rfl, rfl, Or.inr rfl⟩

/-- Where an entry of `tasks` comes from. -/
theorem Move.find?_tasks (h : Move print enables s s') {l : String} {t : FanTask}
    (ht : s'.tasks.find? l = some t) :
    s.tasks.find? l = some t ∨
    (∃ pc pc', s.tasks.find? l = some ⟨t.fan, some pc⟩ ∧ t.test = some pc' ∧
      pc.testing = false ∧ pc'.testing = false) ∨
    t.test = none ∧ enables l ∧ ∃ k o, s.object? k = some o ∧ o.fan.label = l ∧ t.fan = o.id := by
  cases h with
  | control _ _ _ => exact Or.inl ht
  | @start k o ho hk =>
    rw [setTasks, SortedMap.find?_emplace] at ht
    split_ifs at ht with hl
    · cases hold : s.tasks.find? o.fan.label with
      | none =>
        rw [hold] at ht
        obtain rfl := Option.some.inj ht
        exact Or.inr (Or.inr ⟨rfl, hl ▸ hk, k, o, ho, hl.symm, rfl⟩)
      | some old =>
        rw [hold] at ht
        exact Or.inl (hl ▸ hold.trans ht)
    · exact Or.inl ht
  | advance h =>
    obtain ⟨id, pc, pc', hold, hpc, hpc', htasks, -⟩ := find?_advance h
    rw [htasks, SortedMap.find?_insert] at ht
    split_ifs at ht with hl
    · obtain rfl := Option.some.inj ht
      exact Or.inr (Or.inl ⟨pc, pc', hl ▸ hold, rfl, hpc, hpc'⟩)
    · exact Or.inl ht
  | stop _ =>
    rw [setTasks, SortedMap.find?_erase] at ht
    split_ifs at ht
    exact Or.inl ht

theorem Move.mem_detached (h : Move print enables s s') {d : Detached} (hd : d ∈ s'.detached) :
    d ∈ s.detached ∨ ∃ pc, s.tasks.find? d.label = some ⟨d.fan, some pc⟩ ∧ pc.testing = false := by
  cases h with
  | control _ _ _ => exact Or.inl hd
  | start _ _ => exact Or.inl hd
  | advance h =>
    obtain ⟨id, pc, pc', hold, hpc, -, -, hdetached⟩ := find?_advance h
    rcases hdetached with heq | heq
    · exact Or.inl (heq ▸ hd)
    · rw [heq, List.mem_append, List.mem_singleton] at hd
      rcases hd with hd | rfl
      · exact Or.inl hd
      · exact Or.inr ⟨pc, hold, hpc⟩
  | stop _ => exact Or.inl hd

theorem Move.completing (h : Move print enables s s') {l : String} (hl : s'.Completing l) :
    s.Completing l := by
  rcases hl with ⟨d, hd, rfl⟩ | ⟨t, pc, ht, hpc, htesting⟩
  · rcases h.mem_detached hd with hd | ⟨pc, ht, hpc⟩
    · exact Or.inl ⟨d, hd, rfl⟩
    · exact Or.inr ⟨_, pc, ht, rfl, hpc⟩
  · rcases h.find?_tasks ht with hold | ⟨pc, -, hold, -, hpc', -⟩ | ⟨hnone, -⟩
    · exact Or.inr ⟨t, pc, hold, hpc, htesting⟩
    · exact Or.inr ⟨_, pc, hold, rfl, hpc'⟩
    · cases hnone.symm.trans hpc

theorem Move.underTest (h : Move print enables s s') {l : String} (hl : s'.UnderTest l) :
    s.UnderTest l := by
  rcases hl with ⟨d, hd, rfl⟩ | ⟨t, pc, ht, hpc⟩
  · rcases h.mem_detached hd with hd | ⟨pc, ht, -⟩
    · exact Or.inl ⟨d, hd, rfl⟩
    · exact Or.inr ⟨_, pc, ht, rfl⟩
  · rcases h.find?_tasks ht with hold | ⟨pc, -, hold, -⟩ | ⟨hnone, -⟩
    · exact Or.inr ⟨t, pc, hold, hpc⟩
    · exact Or.inr ⟨_, pc, hold, rfl⟩
    · cases hnone.symm.trans hpc

theorem Moves.completing (h : Moves print enables s s') {l : String} (hl : s'.Completing l) :
    s.Completing l := by
  induction h with
  | refl => exact hl
  | tail _ hmove ih => exact ih (hmove.completing hl)

theorem Moves.underTest (h : Moves print enables s s') {l : String} (hl : s'.UnderTest l) :
    s.UnderTest l := by
  induction h with
  | refl => exact hl
  | tail _ hmove ih => exact ih (hmove.underTest hl)

theorem Moves.mono {enables' : String → Prop} (h : Moves print enables s s')
    (hle : ∀ l, enables l → enables' l) : Moves print enables' s s' := by
  refine Relation.ReflTransGen.mono (fun a b hmove => ?_) _ _ h
  cases hmove with
  | control ho hg henabled => exact .control ho hg fun h => (henabled h).imp_right (hle _)
  | start ho hl => exact .start ho (hle _ hl)
  | advance h => exact .advance h
  | stop h => exact .stop h

/-- A label that may not be enabled gets no task. -/
theorem Moves.gone (h : Moves print enables s s') {l : String} (hl : ¬ enables l)
    (hgone : s.tasks.find? l = none) : s'.tasks.find? l = none := by
  induction h with
  | refl => exact hgone
  | tail _ hmove ih =>
    refine Option.eq_none_iff_forall_ne_some.mpr fun t ht => ?_
    rcases hmove.find?_tasks ht with hold | ⟨pc, -, hold, -⟩ | ⟨-, henables, -⟩
    · cases ih.symm.trans hold
    · cases ih.symm.trans hold
    · exact hl henables

/-! ## `enable` -/

/-- The label is that of no fan, of an ignored one, or of one that may be enabled. -/
def MayEnable (enables : String → Prop) (s : Live) (l : String) : Prop :=
  ∀ o, s.object? l = some o → o.fan.ignore = false → enables l ∧ enables o.fan.label

def MayEnableDell (enables : String → Prop) (s : Live) (exceptLabel : Option String) : Prop :=
  ∀ l o, s.object? l = some o → o.fan.type = .dell → exceptLabel ≠ some l →
    o.fan.ignore = false → enables l ∧ enables o.fan.label

theorem MayEnable.sameFans {l : String} (h : MayEnable enables s l) (hsame : SameFans s s') :
    MayEnable enables s' l := by
  intro o' ho' hignore
  obtain ⟨o, ho, -, hfan⟩ := hsame.symm.object? ho'
  obtain ⟨hl, hlabel⟩ := h o ho ((Fan.ignore_of_uncontrolled hfan).trans hignore)
  exact ⟨hl, Fan.label_of_uncontrolled hfan ▸ hlabel⟩

theorem MayEnableDell.sameFans {exceptLabel : Option String}
    (h : MayEnableDell enables s exceptLabel) (hsame : SameFans s s') :
    MayEnableDell enables s' exceptLabel := by
  intro l o' ho' htype hexcept hignore
  obtain ⟨o, ho, -, hfan⟩ := hsame.symm.object? ho'
  obtain ⟨hl, hlabel⟩ := h l o ho ((Fan.type_of_uncontrolled hfan).trans htype) hexcept
    ((Fan.ignore_of_uncontrolled hfan).trans hignore)
  exact ⟨hl, Fan.label_of_uncontrolled hfan ▸ hlabel⟩

theorem moves_enableWith {dellFans : String → Live → Live} {l : String}
    (hl : MayEnable enables s l)
    (hdell : ∀ o t, s.object? l = some o → o.fan.ignore = false → o.fan.isConfigured = true →
      o.fan.type = .dell → Moves print enables s t →
      Moves print enables t (dellFans o.fan.label t)) :
    Moves print enables s (enableWith drv dellFans s l) := by
  unfold enableWith
  cases ho : s.object? l with
  | none => exact .refl
  | some o =>
    have hset : Moves print enables s (s.setFan l (o.fan.tryEnable drv).2) := by
      refine .single (.control ho (Fan.uncontrolled_tryEnable drv o.fan) fun henabled => ?_)
      cases hignore : o.fan.ignore with
      | true =>
        rw [Fan.tryEnable, if_pos hignore] at henabled
        exact Or.inl henabled
      | false => exact Or.inr (hl o ho hignore).1
    simp only
    split_ifs with htask hskip htype
    · exact .refl
    · exact hset
    all_goals
      obtain ⟨henabled, hconf⟩ : (o.fan.tryEnable drv).1 = true ∧
        (o.fan.tryEnable drv).2.isConfigured = true := by simpa using hskip
      have hignore := Fan.ignore_of_tryEnable henabled
      have hstart : ∀ t, Moves print enables (s.setFan l (o.fan.tryEnable drv).2) t →
          Moves print enables s (t.setTasks (t.tasks.emplace o.fan.label ⟨o.id, none⟩)) := by
        intro t ht
        obtain ⟨o', ho', hid, hfan⟩ := (Moves.sameFans (hset.trans ht)).object? ho
        have hlabel : o'.fan.label = o.fan.label := Fan.label_of_uncontrolled hfan
        rw [← hlabel, ← hid]
        exact (hset.trans ht).tail (.start ho' (hlabel ▸ (hl o ho hignore).2))
    · refine hstart _ (hdell o _ ho hignore ?_ htype hset)
      have hsame := Fan.isConfigured_of_uncontrolled (Fan.uncontrolled_tryEnable drv o.fan)
      exact hsame.symm.trans hconf
    · exact hstart _ .refl

theorem moves_enableAlone {l : String} (hl : MayEnable enables s l) :
    Moves print enables s (s.enableAlone drv l) :=
  moves_enableWith hl fun _ _ _ _ _ _ _ => .refl

theorem moves_enableDellFans {exceptLabel : Option String}
    (h : MayEnableDell enables s exceptLabel) :
    Moves print enables s (s.enableDellFans drv exceptLabel) := by
  refine Loop.foldl_keeps (P := Moves print enables s) (fun t l ht => ?_) .refl _
  unfold enableDellFan
  split_ifs with hdell
  · obtain ⟨hdell, hexcept⟩ := hdell
    obtain ⟨f, hf, htype⟩ := (Option.any_eq_true _ _).mp hdell
    obtain ⟨o, ho, rfl⟩ := fan?_eq_some.mp hf
    refine ht.trans (moves_enableAlone fun o' ho' => ?_)
    obtain rfl := Option.some.inj (ho.symm.trans ho')
    exact h.sameFans ht.sameFans l o ho (of_decide_eq_true htype) hexcept
  · exact ht

theorem moves_enable {l : String} (hl : MayEnable enables s l)
    (hdell : ∀ o, s.object? l = some o → o.fan.ignore = false → o.fan.isConfigured = true →
      o.fan.type = .dell → MayEnableDell enables s (some o.fan.label)) :
    Moves print enables s (s.enable drv l) :=
  moves_enableWith hl fun o _ ho hignore hconf htype ht =>
    moves_enableDellFans ((hdell o ho hignore hconf htype).sameFans (Moves.sameFans ht))

theorem moves_enableAll (h : ∀ l, MayEnable enables s l) :
    Moves print enables s (s.enableAll drv) :=
  Loop.foldl_keeps (P := Moves print enables s)
    (fun _ l ht => ht.trans (moves_enableAlone ((h l).sameFans (Moves.sameFans ht)))) .refl _

/-! ## `disable` -/

/-- How many steps the thread of a test is from its end. -/
def stepsLeft : TestStep → ℕ
  | .check => 3
  | .save => 2
  | .spawn => 1
  | _ => 0

theorem stepsLeft_advance (print : ControllerMsg → Text) {l : String} {id : ℕ} {pc : TestStep}
    {n : ℕ}
    (ht : s.tasks.find? l = some ⟨id, some pc⟩) (hpc : pc.testing = false)
    (hn : stepsLeft pc ≤ n + 1) : ∃ pc',
      ((s.advance print l).getD s).tasks.find? l = some ⟨id, some pc'⟩ ∧ pc'.testing = false ∧
        stepsLeft pc' ≤ n := by
  unfold advance
  rw [ht]
  cases pc with
  | test => cases hpc
  | reset => cases hpc
  | check =>
    have hleft : stepsLeft .check = 3 := rfl
    refine ⟨if s.testsRunning = 0 then .save else .spawn, ?_, ?_, ?_⟩
    · simp [setTasks, SortedMap.find?_insert]
    · split_ifs <;> rfl
    · split_ifs <;> simp only [stepsLeft] at * <;> omega
  | save => exact ⟨.spawn, by simp [setTasks, SortedMap.find?_insert], rfl, by
      simp only [stepsLeft] at *; omega⟩
  | spawn => exact ⟨.ended, by simp [SortedMap.find?_insert], rfl, Nat.zero_le n⟩
  | ended => exact ⟨.ended, ht, rfl, Nat.zero_le n⟩

theorem moves_finish (s : Live) (l : String) : Moves print enables s (s.finish print l) := by
  have hstep : ∀ t : Live, Moves print enables t ((advance print t l).getD t) := by
    intro t
    cases h : advance print t l with
    | none => exact .refl
    | some t' => exact .single (.advance h)
  exact (hstep s).trans ((hstep _).trans (hstep _))

theorem finish_test {l : String} {id : ℕ} {pc : TestStep}
    (ht : s.tasks.find? l = some ⟨id, some pc⟩) (hpc : pc.testing = false) :
    (s.finish print l).tasks.find? l = some ⟨id, some .ended⟩ := by
  have hleft : stepsLeft pc ≤ 3 := by cases pc <;> simp [stepsLeft]
  obtain ⟨pc₁, ht₁, hpc₁, hleft₁⟩ := stepsLeft_advance print ht hpc hleft
  obtain ⟨pc₂, ht₂, hpc₂, hleft₂⟩ := stepsLeft_advance print ht₁ hpc₁ hleft₁
  obtain ⟨pc₃, ht₃, hpc₃, hleft₃⟩ := stepsLeft_advance print ht₂ hpc₂ hleft₂
  have hended : pc₃ = .ended := by
    cases pc₃ <;> simp_all [stepsLeft, TestStep.testing]
  exact hended ▸ ht₃

theorem finish_enabled {l : String} {id : ℕ} (ht : s.tasks.find? l = some ⟨id, none⟩) :
    s.finish print l = s := by
  have hstep : (advance print s l).getD s = s := by
    simp [advance, ht]
  exact Function.iterate_fixed (f := fun t => (advance print t l).getD t) hstep 3

theorem tasks_returnControl (s : Live) (l : String) (id : ℕ) :
    (s.returnControl drv l id).tasks = s.tasks := by
  unfold returnControl
  cases s.object? l with
  | none => rfl
  | some o =>
    simp only
    split_ifs <;> rfl

theorem moves_returnControl (s : Live) (l : String) (id : ℕ) :
    Moves print enables s (s.returnControl drv l id) := by
  unfold returnControl
  cases ho : s.object? l with
  | none => exact .refl
  | some o =>
    simp only
    split_ifs
    · exact .single (.control ho (Fan.uncontrolled_disableControl drv o.fan) fun h =>
        Or.inl (Fan.enabled_of_disableControl h))
    · exact .refl

/-- What `tasks.erase` does, if it does not wait. -/
theorem moves_eraseTask {l : String} (h : s.eraseTask drv print l = some s') :
    Moves print (fun _ => False) s s' ∧ s'.tasks.find? l = none ∧
      s.testing? l ≠ some true := by
  unfold eraseTask at h
  cases ht : s.tasks.find? l with
  | none =>
    rw [ht] at h
    obtain rfl := Option.some.inj h
    exact ⟨.refl, ht, by simp [testing?, ht]⟩
  | some t =>
    obtain ⟨id, pc⟩ := t
    rw [ht] at h
    simp only at h
    by_cases htesting : FanTask.testing ⟨id, pc⟩ = true
    · rw [if_pos htesting] at h
      cases h
    · rw [if_neg htesting] at h
      obtain rfl := Option.some.inj h
      have hended : ∀ i p, (s.finish print l).tasks.find? l = some ⟨i, some p⟩ → p = .ended := by
        intro i p hp
        cases pc with
        | none =>
          rw [finish_enabled ht, ht] at hp
          cases Option.some.inj hp
        | some pc =>
          rw [finish_test ht (by simpa [FanTask.testing] using htesting)] at hp
          obtain ⟨-, h⟩ := FanTask.mk.inj (Option.some.inj hp)
          exact (Option.some.inj h).symm
      have hstop : Moves print (fun _ => False) s _ := (moves_finish s l).tail (.stop hended)
      have hgone : ((s.finish print l).tasks.erase l).find? l = none := by
        rw [SortedMap.find?_erase, if_pos rfl]
      refine ⟨?_, ?_, by simpa [testing?, ht] using htesting⟩
      · split_ifs
        · exact hstop.trans (moves_returnControl _ l id)
        · exact hstop
      · split_ifs
        · rw [tasks_returnControl]
          exact hgone
        · exact hgone

/-- `disable` starts no task, and that of its label is gone when it returns. -/
theorem moves_disableWith {dellFans : String → Live → Option Live}
    (hdell : ∀ l s s', dellFans l s = some s' → Moves print (fun _ => False) s s') {l : String}
    (h : disableWith drv print dellFans s l = some s') :
    Moves print (fun _ => False) s s' ∧ s'.tasks.find? l = none := by
  unfold disableWith at h
  split_ifs at h with hcontains
  · obtain rfl := Option.some.inj h
    exact ⟨.refl, by simpa [SortedMap.contains] using hcontains⟩
  · obtain ⟨t, ht, h⟩ := Option.bind_eq_some_iff.mp h
    obtain ⟨herase, hgone, -⟩ := moves_eraseTask ht
    cases hf : t.fan? l with
    | none =>
      rw [hf] at h
      exact Option.some.inj h ▸ ⟨herase, hgone⟩
    | some f =>
      obtain ⟨o, ho, rfl⟩ := fan?_eq_some.mp hf
      have hset : Move print (fun _ => False) t (t.setFan l (o.fan.disableControl drv)) :=
        .control ho (Fan.uncontrolled_disableControl drv o.fan) fun h =>
          Or.inl (Fan.enabled_of_disableControl h)
      rw [hf] at h
      simp only at h
      split_ifs at h
      · have hrest := hdell _ _ _ h
        exact ⟨(herase.tail hset).trans hrest, Moves.gone hrest id hgone⟩
      · exact Option.some.inj h ▸ ⟨herase.tail hset, hgone⟩

theorem moves_disableAlone {l : String} (h : s.disableAlone drv print l = some s') :
    Moves print (fun _ => False) s s' ∧ s'.tasks.find? l = none :=
  moves_disableWith (fun _ _ _ h => Option.some.inj h ▸ .refl) h

theorem moves_disableDellFans {exceptLabel : Option String}
    (h : s.disableDellFans drv print exceptLabel = some s') :
    Moves print (fun _ => False) s s' := by
  refine Loop.foldlM_keeps (P := Moves print (fun _ => False) s) (fun u a u' hu hstep => ?_)
    .refl h
  unfold disableDellFan at hstep
  split_ifs at hstep
  · exact hu.trans (moves_disableAlone hstep).1
  · exact Option.some.inj hstep ▸ hu

theorem moves_disable {l : String} (h : s.disable drv print l = some s') :
    Moves print (fun _ => False) s s' ∧ s'.tasks.find? l = none :=
  moves_disableWith (fun _ _ _ ht => moves_disableDellFans ht) h

theorem moves_disableAll (h : s.disableAll drv print = some s') :
    Moves print (fun _ => False) s s' ∧ ∀ l, s'.tasks.find? l = none := by
  have hmoves : Moves print (fun _ => False) s s' :=
    Loop.foldlM_keeps (P := Moves print (fun _ => False) s)
      (fun _ _ _ ht hstep => ht.trans (moves_disableAlone hstep).1) .refl h
  refine ⟨hmoves, fun l => ?_⟩
  by_cases hl : l ∈ s.tasks.keys
  · exact Loop.foldlM_establishes (P := fun _ => True) (Q := fun t => t.tasks.find? l = none)
      (fun _ _ _ _ _ => trivial)
      (fun _ _ _ _ ht hstep => Moves.gone (moves_disableAlone hstep).1 id ht)
      (fun _ _ _ hstep => (moves_disableAlone hstep).2) trivial hl h
  · apply Moves.gone hmoves id
    have hcontains : ¬ s.tasks.contains l = true := fun h => hl (SortedMap.contains_iff.mp h)
    simpa [SortedMap.contains] using hcontains

/-! ## `test` and `recover` -/

/-- `test` ends the task of the fan and starts that of the test, or it does nothing. -/
theorem test_cases {l : String} {forced blocking : Bool}
    (h : s.test drv print l forced blocking = some s') :
    s' = s ∨ ∃ o t, s.object? l = some o ∧ o.fan.ignore = false ∧
      Moves print (fun _ => False) s t ∧ t.tasks.find? o.fan.label = none ∧
      s' = t.setTasks (t.tasks.insert o.fan.label ⟨o.id, some .test⟩) := by
  unfold test at h
  cases ho : s.object? l with
  | none =>
    rw [ho] at h
    exact Or.inl (Option.some.inj h).symm
  | some o =>
    rw [ho] at h
    simp only at h
    split_ifs at h with hskip
    · exact Or.inl (Option.some.inj h).symm
    · exact Or.inl (Option.some.inj h).symm
    · obtain ⟨t, ht, rfl⟩ := Option.map_eq_some_iff.mp h
      obtain ⟨hmoves, hgone, -⟩ := moves_eraseTask ht
      simp only [Bool.or_eq_true, not_or, Bool.not_eq_true] at hskip
      refine Or.inr ⟨o, t, rfl, hskip.1, hmoves, hgone, ?_⟩
      rw [SortedMap.emplace, if_neg (by simp [SortedMap.contains, hgone])]

theorem moves_recover (h : ∀ l ∈ s.tasks.keys, enables l) :
    Moves print enables s (s.recover drv) := by
  refine Loop.foldl_keeps_mem (P := Moves print enables s) (fun t l hl ht => ?_) .refl
  unfold recoverFan
  cases hf : t.fan? l with
  | none => exact ht
  | some f =>
    obtain ⟨o, ho, rfl⟩ := fan?_eq_some.mp hf
    exact ht.tail (.control ho (Fan.uncontrolled_enableControl drv o.fan) fun _ => Or.inr (h l hl))

/-! ## The last steps of a test -/

theorem testDone_cases {l : String} {success : Bool} {r : TestResult}
    (h : s.testDone l success r = some s') : ∃ o r', s.tasks.find? l = some ⟨o.id, some .test⟩ ∧
      s.object? l = some o ∧ (success = true → r' = r) ∧
      (success = false → r'.rpmToPwm = o.fan.rpmToPwm ∧ r'.startPwm = o.fan.startPwm) ∧
      s' = (s.setFan l (o.fan.afterTest r')).setTasks
        (s.tasks.insert l ⟨o.id, some .reset⟩) := by
  unfold testDone at h
  split at h
  · rename_i id o ht ho
    by_cases hid : o.id = id
    · rw [if_pos hid] at h
      subst hid
      refine ⟨o, _, ht, ho, fun hs => if_pos hs, fun hs => ?_, (Option.some.inj h).symm⟩
      rw [hs]
      exact ⟨rfl, rfl⟩
    · rw [if_neg hid] at h
      cases h
  · cases h

theorem reset_cases {l : String} (h : s.reset l = some s') : ∃ id,
    s.tasks.find? l = some ⟨id, some .reset⟩ ∧
      s' = s.setTasks (s.tasks.insert l ⟨id, some .check⟩) := by
  unfold reset at h
  split at h
  · rename_i id ht
    exact ⟨id, ht, (Option.some.inj h).symm⟩
  · cases h

theorem detachedErase_cases {i : ℕ} (h : s.detachedErase drv print i = some s') : ∃ d t,
    d ∈ s.detached ∧ s.Owns d.label d.fan ∧ s.eraseTask drv print d.label = some t ∧
      s' = { t with detached := t.detached.set i { d with erased := true } } := by
  unfold detachedErase at h
  split at h
  · rename_i d hd
    split_ifs at h with hstep
    obtain ⟨t, ht, rfl⟩ := Option.map_eq_some_iff.mp h
    exact ⟨d, t, List.mem_of_getElem? hd, hstep.2, ht, rfl⟩
  · cases h

theorem detachedEnable_cases {i : ℕ} (h : s.detachedEnable drv i = some s') : ∃ d,
    d ∈ s.detached ∧ s.Owns d.label d.fan ∧
      s' = { s.enable drv d.label with
        detached := (s.enable drv d.label).detached.eraseIdx i } := by
  unfold detachedEnable at h
  split at h
  · rename_i d hd
    split_ifs at h with hstep
    exact ⟨d, List.mem_of_getElem? hd, hstep.2, (Option.some.inj h).symm⟩
  · cases h

end Live

end Fancon
