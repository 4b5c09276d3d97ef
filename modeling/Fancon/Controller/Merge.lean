import Fancon.Controller.Frames
import Fancon.Lib.KeyedMerge

/-! # `Controller::merge` keeps every device

The loop of `merge` over fans and the one over sensors are merges by identity of the messages of
the devices, the identity being the hardware id. `merge` returns and keeps every hardware id
exactly when each device it places finds its label free and no fan that is replaced is under test
(`merges_all_iff`).
-/
set_option autoImplicit false
set_option maxHeartbeats 250000
set_option maxRecDepth 120000

namespace Fancon

open KeyedMerge Controller

/-! ## One turn of the loop -/

section

variable {S D M : Type} {save : D → M}

/-- The messages of the devices of a map. -/
def view (save : D → M) (m : UnorderedMap String D) : Store String M := fun l =>
  (m.find? l).map save

theorem view_eq_some {m : UnorderedMap String D} {l : String} {w : M} :
    view save m l = some w ↔ ∃ x, m.find? l = some x ∧ save x = w := Option.map_eq_some_iff

theorem view_emplace (m : UnorderedMap String D) (l : String) (x : D) :
    view save (m.emplace l x) = place (view save m) l (save x) := by
  funext k
  cases hl : m.find? l with
  | none =>
    have hfree : view save m l = none := by rw [view, hl, Option.map_none]
    rw [place_of_free hfree, view, UnorderedMap.find?_emplace_of_none hl]
    by_cases hk : k = l
    · rw [if_pos hk, hk, Function.update_self, Option.map_some]
    · rw [if_neg hk, Function.update_of_ne hk]
      rfl
  | some y =>
    have htaken : view save m l = some (save y) := by rw [view, hl, Option.map_some]
    rw [place_of_taken htaken, UnorderedMap.emplace_of_some hl]

theorem view_remove (m : UnorderedMap String D) (l : String) :
    view save (m.remove l) = drop (view save m) l := by
  funext k
  rw [view, UnorderedMap.find?_remove, drop]
  by_cases hk : k = l
  · rw [if_pos hk, hk, Function.update_self, Option.map_none]
  · rw [if_neg hk, Function.update_of_ne hk]
    rfl

/-- A message replaces a matching one; with `deep_cmp` only if they differ. -/
def ReplacesOnMatch (replaceOnMatch deepCmp : Bool) (v w : M) : Prop :=
  replaceOnMatch = true ∧ (deepCmp = true → v ≠ w)

/-- What the parameters of the loop of `merge` do to the messages; `blocked` are the labels whose
device cannot be replaced, for the loop never gets past it. -/
structure MergeSpec (get : S → UnorderedMap String D) (add : S → String → D → S)
    (hwId : D → String) (deepEqual : D → D → Bool)
    (onMatch : S → String → String → D → Option S) (save : D → M) (ident : M → String)
    (blocked : S → String → Prop) : Prop where
  ident_save : ∀ x, ident (save x) = hwId x
  deepEqual_iff : ∀ x y, deepEqual x y = true ↔ save x = save y
  view_add : ∀ s l x, view save (get (add s l x)) = place (view save (get s)) l (save x)
  blocked_add : ∀ s l x k, blocked (add s l x) k ↔ blocked s k
  view_onMatch : ∀ s old new x s', onMatch s old new x = some s' →
    view save (get s') = place (drop (view save (get s)) old) new (save x)
  blocked_onMatch : ∀ s old new x s', onMatch s old new x = some s' →
    ∀ k, blocked s' k ↔ blocked s k
  onMatch_none : ∀ s old new x, onMatch s old new x = none ↔ blocked s old

variable {get : S → UnorderedMap String D} {add : S → String → D → S} {hwId : D → String}
  {deepEqual : D → D → Bool} {onMatch : S → String → String → D → Option S} {ident : M → String}
  {blocked : S → String → Prop} {replaceOnMatch deepCmp : Bool}

theorem mergeDevice_cases (replaceOnMatch deepCmp : Bool)
    (spec : MergeSpec get add hwId deepEqual onMatch save ident blocked) (s : S)
    (e : Sigma fun _ : String => D) :
    (¬ Holds ident (view save (get s)) (hwId e.2) ∧
      mergeDevice get add hwId deepEqual replaceOnMatch deepCmp onMatch s e =
        some (add s e.1 e.2)) ∨
    ∃ l x, (get s).find? l = some x ∧ hwId x = hwId e.2 ∧
      ((¬ ReplacesOnMatch replaceOnMatch deepCmp (save e.2) (save x) ∧
        mergeDevice get add hwId deepEqual replaceOnMatch deepCmp onMatch s e = some s) ∨
      (ReplacesOnMatch replaceOnMatch deepCmp (save e.2) (save x) ∧
        mergeDevice get add hwId deepEqual replaceOnMatch deepCmp onMatch s e =
          onMatch s l e.1 e.2)) := by
  unfold mergeDevice
  cases hfind : (get s).entries.find? (fun p => hwId p.2 == hwId e.2) with
  | none =>
    refine Or.inl ⟨?_, rfl⟩
    rintro ⟨l, w, hw, hid⟩
    obtain ⟨x, hx, rfl⟩ := view_eq_some.mp hw
    have hne := List.find?_eq_none.mp hfind ⟨l, x⟩ (UnorderedMap.mem_entries.mpr hx)
    rw [spec.ident_save] at hid
    exact hne (beq_iff_eq.mpr hid)
  | some old =>
    have hmem := UnorderedMap.mem_entries.mp (List.mem_of_find?_eq_some hfind)
    have hid : hwId old.2 = hwId e.2 := by simpa using List.find?_some hfind
    refine Or.inr ⟨old.1, old.2, hmem, hid, ?_⟩
    have hrep : (replaceOnMatch && (!deepCmp || !deepEqual e.2 old.2)) = true ↔
        ReplacesOnMatch replaceOnMatch deepCmp (save e.2) (save old.2) := by
      rw [ReplacesOnMatch, ne_eq, ← spec.deepEqual_iff]
      cases replaceOnMatch <;> cases deepCmp <;> simp
    simp only
    split_ifs with h
    · exact Or.inr ⟨hrep.mp h, rfl⟩
    · exact Or.inl ⟨fun hr => h (hrep.mpr hr), rfl⟩

theorem mergeDevice_step (spec : MergeSpec get add hwId deepEqual onMatch save ident blocked)
    {s s' : S} {e : Sigma fun _ : String => D}
    (h : mergeDevice get add hwId deepEqual replaceOnMatch deepCmp onMatch s e = some s') :
    Step ident (ReplacesOnMatch replaceOnMatch deepCmp) (view save (get s)) e.1 (save e.2)
      (view save (get s')) ∧ ∀ k, blocked s' k ↔ blocked s k := by
  rcases mergeDevice_cases replaceOnMatch deepCmp spec s e with
    ⟨hnew, heq⟩ | ⟨l, x, hx, hid, ⟨hrep, heq⟩ | ⟨hrep, heq⟩⟩
  · obtain rfl := Option.some.inj (heq.symm.trans h)
    rw [spec.view_add]
    exact ⟨.add (by rwa [spec.ident_save]), spec.blocked_add s e.1 e.2⟩
  · obtain rfl := Option.some.inj (heq.symm.trans h)
    refine ⟨.keep (view_eq_some.mpr ⟨x, hx, rfl⟩) ?_ hrep, fun _ => Iff.rfl⟩
    rw [spec.ident_save, spec.ident_save, hid]
  · have hmatch := heq.symm.trans h
    rw [spec.view_onMatch _ _ _ _ _ hmatch]
    refine ⟨.move (view_eq_some.mpr ⟨x, hx, rfl⟩) ?_ hrep, spec.blocked_onMatch _ _ _ _ _ hmatch⟩
    rw [spec.ident_save, spec.ident_save, hid]

/-! ## The loop -/

def messages (save : D → M) (m : UnorderedMap String D) : List (String × M) :=
  m.entries.map fun e => (e.1, save e.2)

theorem mergeDevices_steps (spec : MergeSpec get add hwId deepEqual onMatch save ident blocked)
    {es : List (Sigma fun _ : String => D)} {s s' : S}
    (h : es.foldlM (mergeDevice get add hwId deepEqual replaceOnMatch deepCmp onMatch) s =
      some s') :
    Steps ident (ReplacesOnMatch replaceOnMatch deepCmp) (view save (get s))
      (es.map fun e => (e.1, save e.2)) (view save (get s')) := by
  induction es generalizing s with
  | nil =>
    obtain rfl := Option.some.inj h
    exact .nil
  | cons e es ih =>
    rw [List.foldlM_cons] at h
    obtain ⟨t, ht, h⟩ := Option.bind_eq_some_iff.mp h
    exact .cons (mergeDevice_step spec ht).1 (ih h)

/-- The loop returns when no device that is replaced is blocked. -/
theorem mergeDevices_returns (replaceOnMatch deepCmp : Bool)
    (spec : MergeSpec get add hwId deepEqual onMatch save ident blocked) {s : S}
    (es : List (Sigma fun _ : String => D)) (hs : Distinct ident (view save (get s)))
    (hids : (es.map fun e => hwId e.2).Nodup) :
    (∃ s', es.foldlM (mergeDevice get add hwId deepEqual replaceOnMatch deepCmp onMatch) s =
      some s') ↔
    ∀ e ∈ es, ∀ l w, view save (get s) l = some w → ident w = hwId e.2 →
      ReplacesOnMatch replaceOnMatch deepCmp (save e.2) w → ¬ blocked s l := by
  induction es generalizing s with
  | nil => simp
  | cons e es ih =>
    obtain ⟨hnot, hids⟩ := List.nodup_cons.mp hids
    rw [List.foldlM_cons]
    cases ht : mergeDevice get add hwId deepEqual replaceOnMatch deepCmp onMatch s e with
    | none =>
      simp only [Option.bind_eq_bind, Option.bind_none, reduceCtorEq, exists_false, false_iff]
      intro hall
      rcases mergeDevice_cases replaceOnMatch deepCmp spec s e with
        ⟨-, heq⟩ | ⟨l, x, hx, hid, ⟨-, heq⟩ | ⟨hrep, heq⟩⟩
      · cases heq.symm.trans ht
      · cases heq.symm.trans ht
      · have hblocked := (spec.onMatch_none _ _ _ _).mp (heq.symm.trans ht)
        refine hall e List.mem_cons_self l (save x) (view_eq_some.mpr ⟨x, hx, rfl⟩) ?_ hrep hblocked
        rw [spec.ident_save, hid]
    | some t =>
      obtain ⟨hstep, hblocked⟩ := mergeDevice_step spec ht
      have hother : ∀ e' ∈ es, hwId e'.2 ≠ ident (save e.2) := fun e' he' heq =>
        hnot (List.mem_map.mpr ⟨e', he', heq.trans (spec.ident_save e.2)⟩)
      rw [Option.bind_eq_bind, Option.bind_some, ih (hstep.distinct hs) hids]
      constructor
      · intro hall e' he' l w hw hid hrep hb
        rcases List.mem_cons.mp he' with rfl | he'
        · rcases mergeDevice_cases replaceOnMatch deepCmp spec s e' with
            ⟨hnew, -⟩ | ⟨k, x, hx, hxid, ⟨hkeep, -⟩ | ⟨-, heq⟩⟩
          · exact hnew ⟨l, w, hw, hid⟩
          · have hkl := hs k l (save x) w (view_eq_some.mpr ⟨x, hx, rfl⟩) hw
              (by rw [spec.ident_save, hxid, hid])
            obtain rfl := Option.some.inj
              ((view_eq_some.mpr ⟨x, hkl ▸ hx, rfl⟩).symm.trans hw)
            exact hkeep hrep
          · have hkl := hs k l (save x) w (view_eq_some.mpr ⟨x, hx, rfl⟩) hw
              (by rw [spec.ident_save, hxid, hid])
            have hnone := (spec.onMatch_none s k e'.1 e'.2).mpr (hkl ▸ hb)
            rw [heq, hnone] at ht
            cases ht
        · have hne : ident w ≠ ident (save e.2) := hid ▸ hother e' he'
          exact hall e' he' l w ((hstep.other hne).mpr hw) hid hrep ((hblocked l).mpr hb)
      · intro hall e' he' l w hw hid hrep hb
        have hne : ident w ≠ ident (save e.2) := hid ▸ hother e' he'
        exact hall e' (List.mem_cons_of_mem _ he') l w ((hstep.other hne).mp hw) hid hrep
          ((hblocked l).mp hb)

end

/-! ## The two loops of `merge` -/

variable {drv : Driver}

theorem view_fans_of_controls {c c' : Controller} (h : Controls c c') :
    view Fan.save c'.devices.fans = view Fan.save c.devices.fans :=
  funext fun l => h.save l

theorem enableMerged_controls (s : MergeState) (l : String) :
    Controls s.1 (enableMerged drv s l).1 := controls_enableAlone s.1 l

/-- `disable` of a fan under test does not return. -/
theorem disableAlone_of_tests {c : Controller} {l : String} (h : c.Tests l) :
    c.disableAlone drv l = none := by
  have htask := tests_iff.mp h
  have hcontains : c.tasks.contains l = true := by simp [SortedMap.contains, htask]
  have herase : c.eraseTask drv l = none := by simp [eraseTask, htask]
  simp [disableAlone, disableWith, hcontains, herase]

theorem eraseTask_returns (drv : Driver) {c : Controller} {l : String} (h : ¬ c.Tests l) :
    ∃ c', c.eraseTask drv l = some c' := by
  unfold eraseTask
  cases ht : c.tasks.find? l with
  | none => exact ⟨c, rfl⟩
  | some task =>
    have hnot : ¬ task.testing = true := by
      intro htest
      refine h (tests_iff.mpr ?_)
      rw [ht]
      obtain ⟨testing⟩ := task
      exact congrArg (fun b => some (Task.mk b)) htest
    simp only [if_neg hnot]
    cases (c.setTasks (c.tasks.erase l)).fan? l <;> exact ⟨_, rfl⟩

theorem disableWith_returns {dellFans : String → Controller → Option Controller} {c : Controller}
    {l : String} (h : ¬ c.Tests l)
    (hdell : ∀ c', Controls c c' → ∃ c'', dellFans l c' = some c'') :
    ∃ c', disableWith drv dellFans c l = some c' := by
  obtain ⟨d, hd⟩ := eraseTask_returns drv h
  have herase := controls_eraseTask hd
  unfold disableWith
  split_ifs
  · exact ⟨c, rfl⟩
  · rw [hd, Option.bind_some]
    cases hf : d.fan? l with
    | none => exact ⟨d, rfl⟩
    | some f =>
      have hset := controls_setFan hf (Fan.uncontrolled_disableControl drv f)
      simp only
      split_ifs
      · exact hdell _ (herase.trans hset)
      · exact ⟨_, rfl⟩

theorem disableAlone_isSome (drv : Driver) {c : Controller} {l : String} (h : ¬ c.Tests l) :
    ∃ c', c.disableAlone drv l = some c' := disableWith_returns h fun c' _ => ⟨c', rfl⟩

def Untested (c : Controller) : Prop := ∀ l, ¬ c.Tests l

theorem untested_of_keys {c : Controller}
    (h : (c.tasks.keys.all fun l => c.testing? l == some false) = true) :
    Untested c := by
  intro l hl
  have hcontains : c.tasks.contains l = true := by
    rw [SortedMap.contains, tests_iff.mp hl]
    rfl
  have hnot := List.all_eq_true.mp h l (SortedMap.contains_iff.mp hcontains)
  rw [testing?, tests_iff.mp hl] at hnot
  cases hnot

theorem Untested.controls {c c' : Controller} (h : Untested c) (hcontrols : Controls c c') :
    Untested c' := fun l hl => h l ((hcontrols.tests l).mp hl)

theorem disable_returns (drv : Driver) {c : Controller} (h : Untested c) (l : String) :
    ∃ c', c.disable drv l = some c' := by
  refine disableWith_returns (h l) fun d hd => ?_
  have hturn : ∀ s k, Untested s →
      ∃ s', disableDellFan drv (some l) s k = some s' ∧ Untested s' := by
    intro s k hs
    unfold disableDellFan
    split_ifs
    · obtain ⟨s', hs'⟩ := disableAlone_isSome drv (hs k)
      exact ⟨s', hs', hs.controls (controls_disableAlone hs')⟩
    · exact ⟨s, rfl, hs⟩
  obtain ⟨d', hd', -⟩ := Loop.foldlM_returns_keeping hturn (h.controls hd) d.devices.fans.keys
  exact ⟨d', hd'⟩

theorem view_reInsertFan (c : Controller) (oldKey newKey : String) (f : Fan) :
    view Fan.save (c.reInsertFan oldKey newKey f).devices.fans =
      place (drop (view Fan.save c.devices.fans) oldKey) newKey f.save := by
  show view Fan.save ((c.devices.fans.remove oldKey).emplace newKey f) = _
  rw [view_emplace, view_remove]

theorem onMatchFan_cases {s s' : MergeState} {old new : String} {f : Fan}
    (h : onMatchFan drv s old new f = some s') :
    s.1.testing? old = none ∧ (s' = (s.1.reInsertFan old new f, s.2) ∨
      ((s.1.reInsertFan old new f).fan? new).any Fan.isConfigured = true ∧
        s' = enableMerged drv (s.1.reInsertFan old new f, s.2) new) ∨
    s.1.testing? old = some false ∧ ∃ c, s.1.disableAlone drv old = some c ∧
      s' = enableMerged drv (c.reInsertFan old new f, s.2) new := by
  unfold onMatchFan at h
  cases ht : s.1.testing? old with
  | none =>
    rw [ht] at h
    simp only at h
    refine Or.inl ⟨rfl, ?_⟩
    split_ifs at h with hconf
    · exact Or.inr ⟨(Bool.and_eq_true_iff.mp hconf).2, (Option.some.inj h).symm⟩
    · exact Or.inl (Option.some.inj h).symm
  | some testing =>
    rw [ht] at h
    cases testing with
    | false =>
      obtain ⟨c, hc, hs'⟩ := Option.map_eq_some_iff.mp h
      exact Or.inr ⟨rfl, c, hc, hs'.symm⟩
    | true =>
      obtain ⟨c, hc, -⟩ := Option.bind_eq_some_iff.mp h
      rw [disableAlone_of_tests ht] at hc
      cases hc

/-- A replacement is a re-insertion, with changes of control around it. -/
theorem onMatchFan_controls {s s' : MergeState} {old new : String} {f : Fan}
    (h : onMatchFan drv s old new f = some s') :
    ∃ c, Controls s.1 c ∧ Controls (c.reInsertFan old new f) s'.1 := by
  rcases onMatchFan_cases h with ⟨-, rfl | ⟨-, rfl⟩⟩ | ⟨-, c, hc, rfl⟩
  · exact ⟨s.1, Controls.refl _, Controls.refl _⟩
  · exact ⟨s.1, Controls.refl _, enableMerged_controls (_, s.2) new⟩
  · exact ⟨c, controls_disableAlone hc, enableMerged_controls (_, s.2) new⟩

theorem onMatchFan_eq_none {s : MergeState} {old new : String} {f : Fan} :
    onMatchFan drv s old new f = none ↔ s.1.Tests old := by
  constructor
  · intro h
    unfold onMatchFan at h
    cases ht : s.1.testing? old with
    | none =>
      rw [ht] at h
      simp only at h
      split_ifs at h
    | some testing =>
      rw [ht] at h
      cases testing with
      | false =>
        obtain ⟨c, hc⟩ := disableAlone_isSome drv (c := s.1) (l := old) (by
          rw [Tests, ht]
          simp)
        rw [hc] at h
        cases h
      | true => exact ht
  · intro ht
    have htesting : s.1.testing? old = some true := ht
    simp only [onMatchFan, htesting, disableAlone_of_tests ht, Option.bind_none]

theorem mergeFan_spec (drv : Driver) : MergeSpec (fun s : MergeState => s.1.devices.fans)
    (fun s l f => (s.1.addFan l f, s.2)) Fan.hwId Fan.deepEqual (onMatchFan drv) Fan.save
    FanMsg.hwId (fun s l => s.1.Tests l) where
  ident_save := Fan.hwId_save
  deepEqual_iff _ _ := decide_eq_true_iff
  view_add s l f := view_emplace s.1.devices.fans l f
  blocked_add _ _ _ _ := Iff.rfl
  view_onMatch s old new f s' h := by
    obtain ⟨c, hbefore, hafter⟩ := onMatchFan_controls h
    rw [view_fans_of_controls hafter, view_reInsertFan, view_fans_of_controls hbefore]
  blocked_onMatch s old new f s' h k := by
    obtain ⟨c, hbefore, hafter⟩ := onMatchFan_controls h
    rw [hafter.tests k, ← hbefore.tests k]
    rfl
  onMatch_none _ _ _ _ := onMatchFan_eq_none

theorem mergeSensor_spec : MergeSpec (id : UnorderedMap String Sensor → _)
    (fun m l x => m.emplace l x) Sensor.hwId Sensor.deepEqual
    (fun m oldKey newKey x => some ((m.remove oldKey).emplace newKey x)) Sensor.save
    SensorMsg.hwId (fun _ _ => False) where
  ident_save := Sensor.hwId_save
  deepEqual_iff _ _ := decide_eq_true_iff
  view_add m l x := view_emplace m l x
  blocked_add _ _ _ _ := Iff.rfl
  view_onMatch m old new x m' h := by
    obtain rfl := Option.some.inj h
    show view Sensor.save ((m.remove old).emplace new x) = _
    rw [view_emplace, view_remove]
    rfl
  blocked_onMatch _ _ _ _ _ _ _ := Iff.rfl
  onMatch_none _ _ _ _ := by simp

/-! ## `merge` -/

def hwIds {D : Type} (hwId : D → String) (m : UnorderedMap String D) : Set String :=
  {i | ∃ l x, m.find? l = some x ∧ hwId x = i}

/-- After `merge` each hardware id from before and each of `d` is held by exactly one entry. -/
def MergesAll (drv : Driver) (c : Controller) (d : Devices) (deepCmp : Bool) : Prop :=
  ∃ c', c.merge drv d true deepCmp = some c' ∧
    (DistinctHwIds Fan.hwId c'.devices.fans ∧
      hwIds Fan.hwId c'.devices.fans = hwIds Fan.hwId c.devices.fans ∪ hwIds Fan.hwId d.fans) ∧
    DistinctHwIds Sensor.hwId c'.devices.sensors ∧
      hwIds Sensor.hwId c'.devices.sensors =
        hwIds Sensor.hwId c.devices.sensors ∪ hwIds Sensor.hwId d.sensors

section

variable {D M : Type} {hwId : D → String} {save : D → M} {ident : M → String}

theorem distinct_view (hident : ∀ x, ident (save x) = hwId x) {m : UnorderedMap String D} :
    Distinct ident (view save m) ↔ DistinctHwIds hwId m := by
  constructor
  · intro h k l x y hx hy heq
    refine h k l (save x) (save y) (view_eq_some.mpr ⟨x, hx, rfl⟩)
      (view_eq_some.mpr ⟨y, hy, rfl⟩) ?_
    rw [hident, hident, heq]
  · intro h k l v w hv hw heq
    obtain ⟨x, hx, rfl⟩ := view_eq_some.mp hv
    obtain ⟨y, hy, rfl⟩ := view_eq_some.mp hw
    rw [hident, hident] at heq
    exact h k l x y hx hy heq

theorem holds_view (hident : ∀ x, ident (save x) = hwId x) {m : UnorderedMap String D}
    {i : String} : Holds ident (view save m) i ↔ i ∈ hwIds hwId m := by
  constructor
  · rintro ⟨l, v, hv, rfl⟩
    obtain ⟨x, hx, rfl⟩ := view_eq_some.mp hv
    exact ⟨l, x, hx, (hident x).symm⟩
  · rintro ⟨l, x, hx, rfl⟩
    exact ⟨l, save x, view_eq_some.mpr ⟨x, hx, rfl⟩, hident x⟩

theorem mem_hwIds_iff_messages (hident : ∀ x, ident (save x) = hwId x) {m : UnorderedMap String D}
    {i : String} : (∃ e ∈ messages save m, ident e.2 = i) ↔ i ∈ hwIds hwId m := by
  constructor
  · rintro ⟨e, he, rfl⟩
    obtain ⟨p, hp, rfl⟩ := List.mem_map.mp he
    exact ⟨p.1, p.2, UnorderedMap.mem_entries.mp hp, (hident p.2).symm⟩
  · rintro ⟨l, x, hx, rfl⟩
    exact ⟨(l, save x), List.mem_map.mpr ⟨⟨l, x⟩, UnorderedMap.mem_entries.mpr hx, rfl⟩, hident x⟩

theorem nodup_keys_messages (m : UnorderedMap String D) :
    ((messages save m).map Prod.fst).Nodup := by
  rw [messages, List.map_map]
  exact m.keys_nodup

theorem nodup_hwIds_iff {m : UnorderedMap String D} :
    (m.entries.map fun e => hwId e.2).Nodup ↔ DistinctHwIds hwId m := by
  constructor
  · intro h k l x y hx hy heq
    have hxy := List.inj_on_of_nodup_map h (UnorderedMap.mem_entries (e := ⟨k, x⟩).mpr hx)
      (UnorderedMap.mem_entries (e := ⟨l, y⟩).mpr hy) heq
    exact congrArg Sigma.fst hxy
  · intro h
    refine List.Nodup.map_on ?_ m.nodupKeys.nodup
    rintro ⟨k, x⟩ hx ⟨l, y⟩ hy heq
    have hkl := h k l x y (UnorderedMap.mem_entries.mp hx) (UnorderedMap.mem_entries.mp hy) heq
    exact m.nodupKeys.eq_of_fst_eq hx hy hkl

theorem nodup_idents_messages (hident : ∀ x, ident (save x) = hwId x) {m : UnorderedMap String D}
    (h : DistinctHwIds hwId m) : ((messages save m).map fun e => ident e.2).Nodup := by
  rw [messages, List.map_map]
  simpa only [Function.comp_def, hident] using nodup_hwIds_iff.mpr h

/-- A loop of `merge` that returns keeps every hardware id exactly when the devices fit. -/
theorem hwIds_of_steps (hident : ∀ x, ident (save x) = hwId x)
    {replaceOnMatch deepCmp : Bool} {m n src : UnorderedMap String D}
    (hs : Steps ident (ReplacesOnMatch replaceOnMatch deepCmp) (view save m) (messages save src)
      (view save n)) (hm : DistinctHwIds hwId m) (hsrc : DistinctHwIds hwId src) :
    DistinctHwIds hwId n ∧ (hwIds hwId n = hwIds hwId m ∪ hwIds hwId src ↔
      Fits ident (ReplacesOnMatch replaceOnMatch deepCmp) (view save m) (messages save src)) := by
  have hm' := (distinct_view hident).mpr hm
  refine ⟨(distinct_view hident).mp (hs.distinct hm'), ?_⟩
  rw [← hs.holds_iff hm' (nodup_keys_messages src) (nodup_idents_messages hident hsrc),
    Set.ext_iff]
  simp only [Set.mem_union, holds_view hident, mem_hwIds_iff_messages hident]

end

theorem mergeFans_rest {replaceOnMatch deepCmp : Bool} {es : List (Sigma fun _ : String => Fan)}
    {s s' : MergeState} (h : es.foldlM (mergeFan drv replaceOnMatch deepCmp) s = some s') :
    s'.1.settings = s.1.settings ∧ s'.1.devices.sensors = s.1.devices.sensors := by
  refine Loop.foldlM_keeps (P := fun t : MergeState => t.1.settings = s.1.settings ∧
    t.1.devices.sensors = s.1.devices.sensors) (fun t e t' ht hstep => ?_) ⟨rfl, rfl⟩ h
  rcases mergeDevice_cases replaceOnMatch deepCmp (mergeFan_spec drv) t e with
    ⟨-, heq⟩ | ⟨l, x, -, -, ⟨-, heq⟩ | ⟨-, heq⟩⟩
  · obtain rfl := Option.some.inj (heq.symm.trans hstep)
    exact ht
  · obtain rfl := Option.some.inj (heq.symm.trans hstep)
    exact ht
  · obtain ⟨c, hbefore, hafter⟩ := onMatchFan_controls (heq.symm.trans hstep)
    exact ⟨hafter.settings.trans (hbefore.settings.trans ht.1),
      hafter.sensors.trans (hbefore.sensors.trans ht.2)⟩

theorem tests_of_merge {c c' : Controller} {d : Devices} {replaceOnMatch deepCmp : Bool}
    (h : c.merge drv d replaceOnMatch deepCmp = some c') (l : String) : c'.Tests l ↔ c.Tests l := by
  unfold merge at h
  obtain ⟨s, hs, h⟩ := Option.bind_eq_some_iff.mp h
  obtain ⟨sensors, -, rfl⟩ := Option.map_eq_some_iff.mp h
  have hloop : s.1.Tests l ↔ c.Tests l := by
    refine Loop.foldlM_keeps (P := fun t : MergeState => t.1.Tests l ↔ c.Tests l)
      (fun t e t' ht hstep => ?_) Iff.rfl hs
    exact ((mergeDevice_step (mergeFan_spec drv) hstep).2 l).trans ht
  show (if s.2 then s.1.enableDellFans drv none else s.1).Tests l ↔ _
  split_ifs
  · exact ((controls_enableDellFans none s.1).tests l).trans hloop
  · exact hloop

/-- `merge` is a merge of the fans and one of the sensors. -/
theorem merge_steps {c c' : Controller} {d : Devices} {replaceOnMatch deepCmp : Bool}
    (h : c.merge drv d replaceOnMatch deepCmp = some c') :
    c'.settings = c.settings ∧
    Steps FanMsg.hwId (ReplacesOnMatch replaceOnMatch deepCmp) (view Fan.save c.devices.fans)
      (messages Fan.save d.fans) (view Fan.save c'.devices.fans) ∧
    Steps SensorMsg.hwId (ReplacesOnMatch replaceOnMatch deepCmp)
      (view Sensor.save c.devices.sensors) (messages Sensor.save d.sensors)
      (view Sensor.save c'.devices.sensors) := by
  unfold merge at h
  obtain ⟨s, hs, h⟩ := Option.bind_eq_some_iff.mp h
  obtain ⟨sensors, hsensors, rfl⟩ := Option.map_eq_some_iff.mp h
  obtain ⟨hsettings, hrest⟩ := mergeFans_rest hs
  have hdell : Controls s.1 (if s.2 then s.1.enableDellFans drv none else s.1) := by
    split_ifs
    · exact controls_enableDellFans none s.1
    · exact Controls.refl s.1
  have hsteps := mergeDevices_steps (mergeFan_spec drv) hs
  refine ⟨hdell.settings.trans hsettings, ?_, ?_⟩
  · rw [← view_fans_of_controls hdell] at hsteps
    exact hsteps
  · rw [hdell.sensors, hrest] at hsensors
    exact mergeDevices_steps mergeSensor_spec hsensors

theorem mergeDevices_isSome {S D M : Type} {get : S → UnorderedMap String D}
    {add : S → String → D → S} {hwId : D → String} {deepEqual : D → D → Bool}
    {onMatch : S → String → String → D → Option S} {save : D → M} {ident : M → String}
    {blocked : S → String → Prop} (replaceOnMatch deepCmp : Bool)
    (spec : MergeSpec get add hwId deepEqual onMatch save ident blocked)
    (h : replaceOnMatch = true → ∀ s l, ¬ blocked s l) (es : List (Sigma fun _ : String => D))
    (s : S) :
    ∃ s', es.foldlM (mergeDevice get add hwId deepEqual replaceOnMatch deepCmp onMatch) s =
      some s' := by
  refine Loop.foldlM_returns (fun s e => ?_) s es
  rcases mergeDevice_cases replaceOnMatch deepCmp spec s e with
    ⟨-, heq⟩ | ⟨l, x, -, -, ⟨-, heq⟩ | ⟨hrep, heq⟩⟩
  · exact ⟨_, heq⟩
  · exact ⟨_, heq⟩
  · rw [heq]
    refine Option.ne_none_iff_exists'.mp fun hnone => ?_
    exact h hrep.1 s l ((spec.onMatch_none _ _ _ _).mp hnone)

theorem mergeSensors_returns (replaceOnMatch deepCmp : Bool) (d m : UnorderedMap String Sensor) :
    ∃ m', d.entries.foldlM (mergeSensor replaceOnMatch deepCmp) m = some m' :=
  mergeDevices_isSome replaceOnMatch deepCmp mergeSensor_spec (fun _ _ _ h => h) d.entries m

theorem merge_isSome_iff {c : Controller} {d : Devices} {replaceOnMatch deepCmp : Bool} :
    (∃ c', c.merge drv d replaceOnMatch deepCmp = some c') ↔
      ∃ s', d.fans.entries.foldlM (mergeFan drv replaceOnMatch deepCmp) (c, false) = some s' := by
  constructor
  · rintro ⟨c', h⟩
    obtain ⟨s, hs, -⟩ := Option.bind_eq_some_iff.mp h
    exact ⟨s, hs⟩
  · rintro ⟨s, hs⟩
    obtain ⟨m, hm⟩ := mergeSensors_returns replaceOnMatch deepCmp d.sensors
      (if s.2 then s.1.enableDellFans drv none else s.1).devices.sensors
    simp only [merge, hs, Option.bind_some, hm, Option.map_some]
    exact ⟨_, rfl⟩

theorem merge_returns_of_keep (drv : Driver) (c : Controller) (d : Devices) (deepCmp : Bool) :
    ∃ c', c.merge drv d false deepCmp = some c' :=
  merge_isSome_iff.mpr (mergeDevices_isSome false deepCmp (mergeFan_spec drv) (fun h => by cases h)
    d.fans.entries (c, false))

def ReplacesUntested (c : Controller) (d : Devices) (replaceOnMatch deepCmp : Bool) : Prop :=
  ∀ k f, d.fans.find? k = some f → ∀ l g, c.fan? l = some g → g.hwId = f.hwId →
    ReplacesOnMatch replaceOnMatch deepCmp f.save g.save → ¬ c.Tests l

theorem merge_returns (drv : Driver) {c : Controller} {d : Devices} {replaceOnMatch deepCmp : Bool}
    (hc : DistinctHwIds Fan.hwId c.devices.fans) (hd : DistinctHwIds Fan.hwId d.fans) :
    (∃ c', c.merge drv d replaceOnMatch deepCmp = some c') ↔
      ReplacesUntested c d replaceOnMatch deepCmp := by
  have hfans := mergeDevices_returns replaceOnMatch deepCmp (mergeFan_spec drv)
    (s := (c, false)) d.fans.entries ((distinct_view Fan.hwId_save).mpr hc) (nodup_hwIds_iff.mpr hd)
  rw [merge_isSome_iff]
  refine hfans.trans ⟨fun h k f hf l g hg hid hrep => ?_, fun h e he l w hw hid hrep => ?_⟩
  · exact h ⟨k, f⟩ (UnorderedMap.mem_entries.mpr hf) l g.save (view_eq_some.mpr ⟨g, hg, rfl⟩)
      ((Fan.hwId_save g).trans hid) hrep
  · obtain ⟨g, hg, rfl⟩ := view_eq_some.mp hw
    exact h e.1 e.2 (UnorderedMap.mem_entries.mp he) l g hg ((Fan.hwId_save g).symm.trans hid) hrep

/-- Each device that is placed finds its label free: it is unused, used by the device itself, or
by one that an earlier device replaces. -/
def DevicesFit {D M : Type} (save : D → M) (ident : M → String) (deepCmp : Bool)
    (m src : UnorderedMap String D) : Prop :=
  Fits ident (ReplacesOnMatch true deepCmp) (view save m) (messages save src)

/-- **`merge` loses no device exactly when the labels fit and no fan it replaces is under
test.** -/
theorem merges_all_iff (drv : Driver) (c : Controller) (d : Devices) (deepCmp : Bool)
    (hc : DistinctHwIds Fan.hwId c.devices.fans) (hd : DistinctHwIds Fan.hwId d.fans)
    (hs : DistinctHwIds Sensor.hwId c.devices.sensors)
    (hds : DistinctHwIds Sensor.hwId d.sensors) :
    MergesAll drv c d deepCmp ↔
      DevicesFit Fan.save FanMsg.hwId deepCmp c.devices.fans d.fans ∧
      DevicesFit Sensor.save SensorMsg.hwId deepCmp c.devices.sensors d.sensors ∧
      ReplacesUntested c d true deepCmp := by
  constructor
  · rintro ⟨c', h, ⟨-, hfans⟩, -, hsensors⟩
    obtain ⟨-, hfanSteps, hsensorSteps⟩ := merge_steps h
    exact ⟨(hwIds_of_steps Fan.hwId_save hfanSteps hc hd).2.mp hfans,
      (hwIds_of_steps Sensor.hwId_save hsensorSteps hs hds).2.mp hsensors,
      (merge_returns drv hc hd).mp ⟨c', h⟩⟩
  · rintro ⟨hfans, hsensors, huntested⟩
    obtain ⟨c', h⟩ := (merge_returns drv hc hd).mpr huntested
    obtain ⟨-, hfanSteps, hsensorSteps⟩ := merge_steps h
    obtain ⟨hfan, hfanIds⟩ := hwIds_of_steps Fan.hwId_save hfanSteps hc hd
    obtain ⟨hsensor, hsensorIds⟩ := hwIds_of_steps Sensor.hwId_save hsensorSteps hs hds
    exact ⟨c', h, ⟨hfan, hfanIds.mpr hfans⟩, hsensor, hsensorIds.mpr hsensors⟩

/-! ## Two fans that swap their labels -/

def plainFan (label pwmPath : String) : Fan where
  label := label
  ignore := false
  sensor := none
  rpmToPwm := .empty
  tempToRpm := .empty
  startPwm := 0
  interval := 0
  enabled := false
  smoothing := {}
  kind := .sysfs ⟨pwmPath, "", "", 0⟩

def twoFans (label label' : String) : Devices where
  fans := (UnorderedMap.empty.insertOrAssign label (plainFan label "/sys/pwm1")).insertOrAssign
    label' (plainFan label' "/sys/pwm2")

def frontRear : Devices := twoFans "front" "rear"

def rearFront : Devices := twoFans "rear" "front"

theorem frontRear_distinct : DistinctHwIds Fan.hwId frontRear.fans :=
  nodup_hwIds_iff.mp (by decide)

theorem rearFront_distinct : DistinctHwIds Fan.hwId rearFront.fans :=
  nodup_hwIds_iff.mp (by decide)

theorem noSensors_distinct : DistinctHwIds Sensor.hwId UnorderedMap.empty :=
  nodup_hwIds_iff.mp (by decide)

def willingDriver : Driver := ⟨fun _ => true, fun _ => true⟩

theorem merges_all_swapped :
    MergesAll willingDriver { devices := frontRear } rearFront true ↔
      DevicesFit Fan.save FanMsg.hwId true frontRear.fans rearFront.fans ∧
      DevicesFit Sensor.save SensorMsg.hwId true frontRear.sensors rearFront.sensors ∧
      ReplacesUntested { devices := frontRear } rearFront true true :=
  merges_all_iff willingDriver { devices := frontRear } rearFront true frontRear_distinct
    rearFront_distinct noSensors_distinct noSensors_distinct

/-- The first fan finds its new label held by the second one and is lost. -/
theorem merge_loses_swapped :
    ¬ ∀ (drv : Driver) (c : Controller) (d : Devices) (deepCmp : Bool),
      DistinctHwIds Fan.hwId c.devices.fans → DistinctHwIds Fan.hwId d.fans →
      DistinctHwIds Sensor.hwId c.devices.sensors → DistinctHwIds Sensor.hwId d.sensors →
      MergesAll drv c d deepCmp := by
  intro h
  obtain ⟨c', hmerge, ⟨-, hids⟩, -⟩ := h willingDriver { devices := frontRear } rearFront false
    frontRear_distinct rearFront_distinct noSensors_distinct noSensors_distinct
  obtain ⟨-, hsteps, -⟩ := merge_steps hmerge
  have hfits := (hwIds_of_steps Fan.hwId_save hsteps frontRear_distinct
    rearFront_distinct).2.mp hids
  have hplaced : Replaces FanMsg.hwId (ReplacesOnMatch true false) (view Fan.save frontRear.fans)
      (plainFan "front" "/sys/pwm2").save :=
    ⟨"rear", (plainFan "rear" "/sys/pwm2").save, by decide +kernel, by decide, rfl, nofun⟩
  have hclash := hfits [] "front" (plainFan "front" "/sys/pwm2").save
    [("rear", (plainFan "rear" "/sys/pwm1").save)] (by decide +kernel) (Or.inr hplaced)
    (plainFan "front" "/sys/pwm1").save (by decide +kernel)
  rcases hclash with h | ⟨e, he, -⟩
  · exact absurd h (by decide)
  · cases he

end Fancon
