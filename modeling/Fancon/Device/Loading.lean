import Fancon.Device.Serialise

/-! # What `Devices::from` keeps

The loops over the sensors and over the fans of a message share their shape, and so do the facts
about them: every entry comes from a message and is stored under its own label, and a message
whose device is valid and shares neither label nor hardware id with another one is kept.
-/
set_option autoImplicit false
set_option maxHeartbeats 250000
set_option maxRecDepth 120000

namespace Fancon

/-- What `emplace` and `insert_or_assign` under the label have in common. -/
structure PutsUnder {D : Type} (label : D → String)
    (put : UnorderedMap String D → D → UnorderedMap String D) : Prop where
  other : ∀ m x l, l ≠ label x → (put m x).find? l = m.find? l
  new : ∀ m x, m.find? (label x) = none → (put m x).find? (label x) = some x
  mem : ∀ m x l y, (put m x).find? l = some y → l = label x ∧ y = x ∨ m.find? l = some y

theorem putsUnder_insertOrAssign {D : Type} (label : D → String) :
    PutsUnder label fun m x => m.insertOrAssign (label x) x where
  other m x l h := by rw [UnorderedMap.find?_insertOrAssign, if_neg h]
  new m x _ := by rw [UnorderedMap.find?_insertOrAssign, if_pos rfl]
  mem m x l y h := by
    rw [UnorderedMap.find?_insertOrAssign] at h
    split_ifs at h with hl
    · exact Or.inl ⟨hl, (Option.some.inj h).symm⟩
    · exact Or.inr h

theorem putsUnder_emplace {D : Type} (label : D → String) :
    PutsUnder label fun m x => m.emplace (label x) x where
  other m x l h := by
    cases hx : m.find? (label x) with
    | none => rw [UnorderedMap.find?_emplace_of_none hx, if_neg h]
    | some w => rw [UnorderedMap.emplace_of_some hx]
  new m x h := by rw [UnorderedMap.find?_emplace_of_none h, if_pos rfl]
  mem m x l y h := by
    cases hx : m.find? (label x) with
    | none => exact (putsUnder_insertOrAssign label).mem m x l y (by
        rwa [UnorderedMap.find?_emplace_of_none hx,
          ← UnorderedMap.find?_insertOrAssign] at h)
    | some w => exact Or.inr (by rwa [UnorderedMap.emplace_of_some hx] at h)

def DistinctHwIds {D : Type} (hwId : D → String) (m : UnorderedMap String D) : Prop :=
  ∀ k l x y, m.find? k = some x → m.find? l = some y → hwId x = hwId y → k = l

section

variable {M D : Type} {build : M → Option D} {valid : D → Bool} {hwId label : D → String}
  {put : UnorderedMap String D → D → UnorderedMap String D}

theorem loadDevice_none {acc : List String × UnorderedMap String D} {msg : M}
    (h : build msg = none) : loadDevice build valid hwId put acc msg = acc := by
  simp [loadDevice, h]

theorem loadDevice_some {acc : List String × UnorderedMap String D} {msg : M} {x : D}
    (h : build msg = some x) : loadDevice build valid hwId put acc msg =
      if valid x = true ∧ hwId x ∉ acc.1 then (hwId x :: acc.1, put acc.2 x) else acc := by
  simp [loadDevice, h]

theorem mem_hwIds_load_iff {msgs : List M} {acc : List String × UnorderedMap String D}
    {u : String} : u ∈ (msgs.foldl (loadDevice build valid hwId put) acc).1 ↔
      u ∈ acc.1 ∨ ∃ x ∈ msgs.filterMap build, valid x = true ∧ hwId x = u := by
  induction msgs generalizing acc with
  | nil => simp
  | cons msg msgs ih =>
    rw [List.foldl_cons, ih]
    cases hb : build msg with
    | none => rw [loadDevice_none hb, List.filterMap_cons_none hb]
    | some x =>
      rw [loadDevice_some hb, List.filterMap_cons_some hb, List.exists_mem_cons_iff, ← or_assoc]
      apply or_congr_left
      split_ifs with hx
      · rw [List.mem_cons, or_comm]
        exact or_congr_right ⟨fun h => ⟨hx.1, h.symm⟩, fun h => h.2.symm⟩
      · constructor
        · exact Or.inl
        · rintro (h | ⟨hvalid, rfl⟩)
          · exact h
          · by_contra hnew
            exact hx ⟨hvalid, hnew⟩

theorem mem_hwIds_load {msgs : List M} {acc : List String × UnorderedMap String D} {u : String}
    (h : u ∈ (msgs.foldl (loadDevice build valid hwId put) acc).1) :
    u ∈ acc.1 ∨ ∃ msg ∈ msgs, ∃ x, build msg = some x ∧ hwId x = u := by
  apply (mem_hwIds_load_iff.mp h).imp_right
  rintro ⟨x, hx, -, hid⟩
  obtain ⟨msg, hmsg, hbuild⟩ := List.mem_filterMap.mp hx
  exact ⟨msg, hmsg, x, hbuild, hid⟩

theorem subset_hwIds_load (msgs : List M) (acc : List String × UnorderedMap String D) :
    acc.1 ⊆ (msgs.foldl (loadDevice build valid hwId put) acc).1 :=
  fun _ hu => mem_hwIds_load_iff.mpr (Or.inl hu)

/-- An entry is from before, or it comes from a valid message, is stored under its label, and its
hardware id has now been seen for the first time. -/
theorem find?_load (hput : PutsUnder label put) {msgs : List M}
    {acc : List String × UnorderedMap String D} {l : String} {y : D}
    (h : (msgs.foldl (loadDevice build valid hwId put) acc).2.find? l = some y) :
    acc.2.find? l = some y ∨ l = label y ∧ valid y = true ∧ hwId y ∉ acc.1 ∧
      hwId y ∈ (msgs.foldl (loadDevice build valid hwId put) acc).1 ∧
      ∃ msg ∈ msgs, build msg = some y := by
  induction msgs generalizing acc with
  | nil => exact Or.inl h
  | cons msg msgs ih =>
    rw [List.foldl_cons] at h ⊢
    cases hb : build msg with
    | none =>
      rw [loadDevice_none hb] at h ⊢
      apply (ih h).imp_right
      rintro ⟨hl, hv, hold, hseen, m, hm, hy⟩
      exact ⟨hl, hv, hold, hseen, m, List.mem_cons_of_mem _ hm, hy⟩
    | some x =>
      rw [loadDevice_some hb] at h ⊢
      split_ifs at h ⊢ with hx
      · rcases ih h with h | ⟨hl, hv, hold, hseen, m, hm, hy⟩
        · rcases hput.mem _ _ _ _ h with ⟨rfl, rfl⟩ | h
          · exact Or.inr ⟨rfl, hx.1, hx.2, subset_hwIds_load _ _ List.mem_cons_self,
              msg, List.mem_cons_self, hb⟩
          · exact Or.inl h
        · exact Or.inr ⟨hl, hv, fun hmem => hold (List.mem_cons_of_mem _ hmem), hseen, m,
            List.mem_cons_of_mem _ hm, hy⟩
      · apply (ih h).imp_right
        rintro ⟨hl, hv, hold, hseen, m, hm, hy⟩
        exact ⟨hl, hv, hold, hseen, m, List.mem_cons_of_mem _ hm, hy⟩

theorem distinct_load (hput : PutsUnder label put) {msgs : List M}
    {acc : List String × UnorderedMap String D}
    (hseen : ∀ l x, acc.2.find? l = some x → hwId x ∈ acc.1)
    (hdistinct : DistinctHwIds hwId acc.2) :
    DistinctHwIds hwId (msgs.foldl (loadDevice build valid hwId put) acc).2 := by
  induction msgs generalizing acc with
  | nil => exact hdistinct
  | cons msg msgs ih =>
    rw [List.foldl_cons]
    cases hb : build msg with
    | none =>
      rw [loadDevice_none hb]
      exact ih hseen hdistinct
    | some x =>
      rw [loadDevice_some hb]
      split_ifs with hx
      · refine ih (fun l y hy => ?_) (fun k l y z hy hz hid => ?_)
        · rcases hput.mem _ _ _ _ hy with ⟨-, rfl⟩ | hy
          · exact List.mem_cons_self
          · exact List.mem_cons_of_mem _ (hseen l y hy)
        · rcases hput.mem _ _ _ _ hy with ⟨rfl, rfl⟩ | hold
          · rcases hput.mem _ _ _ _ hz with ⟨rfl, rfl⟩ | hold
            · rfl
            · exact absurd (hid ▸ hseen l z hold) hx.2
          · rcases hput.mem _ _ _ _ hz with ⟨rfl, rfl⟩ | hold'
            · exact absurd (hid ▸ hseen k y hold) hx.2
            · exact hdistinct k l y z hold hold' hid
      · exact ih hseen hdistinct

theorem find?_load_other (hput : PutsUnder label put) {msgs : List M}
    {acc : List String × UnorderedMap String D} {l : String}
    (h : ∀ msg ∈ msgs, ∀ x, build msg = some x → label x ≠ l) :
    (msgs.foldl (loadDevice build valid hwId put) acc).2.find? l = acc.2.find? l := by
  induction msgs generalizing acc with
  | nil => rfl
  | cons msg msgs ih =>
    rw [List.foldl_cons, ih fun m hm => h m (List.mem_cons_of_mem _ hm)]
    cases hb : build msg with
    | none => rw [loadDevice_none hb]
    | some x =>
      rw [loadDevice_some hb]
      split_ifs
      · exact hput.other _ _ _ (Ne.symm (h msg List.mem_cons_self x hb))
      · rfl

/-- **A valid message with a label and a hardware id of its own is kept.** -/
theorem find?_load_of_unique (hput : PutsUnder label put) {before after : List M} {msg : M} {x : D}
    {uids : List String} (hx : build msg = some x) (hvalid : valid x = true)
    (hnew : hwId x ∉ uids)
    (hother : ∀ m ∈ before ++ after, ∀ y, build m = some y →
      hwId y ≠ hwId x ∧ label y ≠ label x) :
    ((before ++ msg :: after).foldl (loadDevice build valid hwId put) (uids, .empty)).2.find?
      (label x) = some x := by
  have hbefore : ∀ m ∈ before, ∀ y, build m = some y → hwId y ≠ hwId x ∧ label y ≠ label x :=
    fun m hm => hother m (List.mem_append_left _ hm)
  have hafter : ∀ m ∈ after, ∀ y, build m = some y → hwId y ≠ hwId x ∧ label y ≠ label x :=
    fun m hm => hother m (List.mem_append_right _ hm)
  rw [List.foldl_append, List.foldl_cons,
    find?_load_other hput fun m hm y hy => (hafter m hm y hy).2, loadDevice_some hx, if_pos]
  · apply hput.new
    exact find?_load_other hput fun m hm y hy => (hbefore m hm y hy).2
  · refine ⟨hvalid, fun hmem => ?_⟩
    rcases mem_hwIds_load hmem with h | ⟨m, hm, y, hy, hid⟩
    · exact hnew h
    · exact (hbefore m hm y hy).1 hid

variable {m : UnorderedMap String D} {save : D → M}

/-- A device whose message is valid when it is built again is found again under its label. -/
theorem find?_load_save (hput : PutsUnder label put) {uids : List String}
    (hlabels : ∀ l x, m.find? l = some x → label x = l)
    (hids : ∀ k l x y, m.find? k = some x → m.find? l = some y → hwId x = hwId y → k = l)
    (hbuild : ∀ x y, build (save x) = some y → label y = label x ∧ hwId y = hwId x)
    {l : String} {x x' : D} (h : m.find? l = some x) (hx : build (save x) = some x')
    (hvalid : valid x' = true) (hnew : hwId x ∉ uids) :
    ((m.entries.map fun e => save e.2).foldl (loadDevice build valid hwId put)
      (uids, .empty)).2.find? l = some x' := by
  obtain ⟨before, after, hsplit, hother⟩ := UnorderedMap.split_at h
  obtain ⟨hlabel, hid⟩ := hbuild x x' hx
  have hl : label x' = l := hlabel.trans (hlabels l x h)
  rw [hsplit, List.map_append, List.map_cons, ← hl]
  apply find?_load_of_unique hput hx hvalid (hid ▸ hnew)
  rw [← List.map_append]
  rintro msg hmsg y hy
  obtain ⟨e, he, rfl⟩ := List.mem_map.mp hmsg
  obtain ⟨hne, hmem⟩ := hother e he
  obtain ⟨hylabel, hyid⟩ := hbuild e.2 y hy
  rw [hyid, hylabel, hid, hl, hlabels _ _ hmem]
  exact ⟨fun heq => hne (hids _ _ _ _ hmem h heq), hne⟩

theorem find?_of_find?_load_save (hput : PutsUnder label put) {uids : List String}
    (hlabels : ∀ l x, m.find? l = some x → label x = l)
    (hbuild : ∀ x y, build (save x) = some y → label y = label x ∧ hwId y = hwId x)
    {l : String} {y : D} (h : ((m.entries.map fun e => save e.2).foldl
      (loadDevice build valid hwId put) (uids, .empty)).2.find? l = some y) :
    ∃ x, m.find? l = some x ∧ build (save x) = some y ∧ hwId y ∉ uids := by
  rcases find?_load hput h with h | ⟨hl, -, hold, -, msg, hmsg, hy⟩
  · cases h
  · obtain ⟨e, he, rfl⟩ := List.mem_map.mp hmsg
    have hmem := UnorderedMap.mem_entries.mp he
    have hkey : l = e.1 := hl.trans ((hbuild e.2 y hy).1.trans (hlabels _ _ hmem))
    exact ⟨e.2, hkey ▸ hmem, hy, hold⟩

end

/-! ## The two loops -/

theorem find?_loadSensors {env : Env} {msgs : List SensorMsg} {l : String} {s : Sensor}
    (h : (loadSensors env msgs).2.find? l = some s) :
    l = s.label ∧ s.valid env = true ∧ s.hwId ∈ (loadSensors env msgs).1 ∧
      ∃ msg ∈ msgs, msg.build env = some s := by
  rcases find?_load (putsUnder_emplace Sensor.label) h with h | ⟨hl, hv, -, hseen, hmsg⟩
  · cases h
  · exact ⟨hl, hv, hseen, hmsg⟩

theorem find?_loadFans {env : Env} {sensors : List String × UnorderedMap String Sensor}
    {msgs : List FanMsg} {l : String} {f : Fan}
    (h : (loadFans env sensors msgs).2.find? l = some f) :
    l = f.label ∧ f.valid env = true ∧ f.hwId ∉ sensors.1 ∧
      ∃ msg ∈ msgs, msg.build env sensors.2 = some f := by
  rcases find?_load (putsUnder_insertOrAssign Fan.label) h with h | ⟨hl, hv, hold, -, hmsg⟩
  · cases h
  · exact ⟨hl, hv, hold, hmsg⟩

theorem distinct_load_sensors (env : Env) (d : DevicesMsg) :
    DistinctHwIds Sensor.hwId (Devices.load env d).sensors :=
  distinct_load (putsUnder_emplace Sensor.label) (fun _ _ h => nomatch h) fun _ _ _ _ h => nomatch h

theorem distinct_load_fans (env : Env) (d : DevicesMsg) :
    DistinctHwIds Fan.hwId (Devices.load env d).fans :=
  distinct_load (putsUnder_insertOrAssign Fan.label) (fun _ _ h => nomatch h)
    fun _ _ _ _ h => nomatch h

theorem mem_hwIds_loadSensors {env : Env} {msgs : List SensorMsg} {u : String}
    (h : u ∈ (loadSensors env msgs).1) :
    ∃ msg ∈ msgs, ∃ s, msg.build env = some s ∧ s.hwId = u := by
  rcases mem_hwIds_load h with h | h
  · cases h
  · exact h

end Fancon
