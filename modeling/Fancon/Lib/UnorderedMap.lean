import Mathlib

/-! # Hash maps

An `unordered_map` is an association list whose order, which is the order of iteration, means
nothing. The operations are told apart by what they do to a key that is already there.
-/
set_option autoImplicit false
set_option maxHeartbeats 250000
set_option maxRecDepth 120000

/-- `unordered_map`. -/
abbrev UnorderedMap (K V : Type) := AList fun _ : K => V

namespace UnorderedMap

variable {K V : Type} [DecidableEq K]

def empty : UnorderedMap K V := ∅

def find? (m : UnorderedMap K V) (k : K) : Option V := m.lookup k

def contains (m : UnorderedMap K V) (k : K) : Bool := (m.find? k).isSome

def insertOrAssign (m : UnorderedMap K V) (k : K) (v : V) : UnorderedMap K V := m.insert k v

/-- `emplace`, which keeps the value of a key that is there. -/
def emplace (m : UnorderedMap K V) (k : K) (v : V) : UnorderedMap K V :=
  if m.contains k then m else m.insert k v

/-- `erase`. -/
def remove (m : UnorderedMap K V) (k : K) : UnorderedMap K V := m.erase k

/-- A change of the object stored under a key. -/
def modify (m : UnorderedMap K V) (k : K) (f : V → V) : UnorderedMap K V :=
  match m.find? k with
  | some v => m.insert k (f v)
  | none => m

@[simp] theorem find?_empty (k : K) : (empty : UnorderedMap K V).find? k = none := rfl

theorem find?_insertOrAssign (m : UnorderedMap K V) (k x : K) (v : V) :
    (m.insertOrAssign k v).find? x = if x = k then some v else m.find? x := by
  split_ifs with h
  · exact h ▸ AList.lookup_insert m
  · exact AList.lookup_insert_ne h

theorem contains_iff {m : UnorderedMap K V} {k : K} :
    m.contains k = true ↔ ∃ v, m.find? k = some v :=
  Option.isSome_iff_exists

theorem find?_emplace_of_none {m : UnorderedMap K V} {k : K} (h : m.find? k = none) (v : V)
    (x : K) : (m.emplace k v).find? x = if x = k then some v else m.find? x := by
  rw [emplace, if_neg (by simp [contains, h])]
  exact find?_insertOrAssign m k x v

theorem emplace_of_some {m : UnorderedMap K V} {k : K} {w : V} (h : m.find? k = some w) (v : V) :
    m.emplace k v = m := if_pos (contains_iff.mpr ⟨w, h⟩)

theorem find?_remove (m : UnorderedMap K V) (k x : K) :
    (m.remove k).find? x = if x = k then none else m.find? x := by
  split_ifs with h
  · exact h ▸ AList.lookup_erase k m
  · exact AList.lookup_erase_ne h

theorem find?_modify (m : UnorderedMap K V) (k x : K) (f : V → V) :
    (m.modify k f).find? x = if x = k then (m.find? k).map f else m.find? x := by
  unfold modify
  cases h : m.find? k with
  | none =>
    split_ifs with hx
    · exact hx ▸ h
    · rfl
  | some v => exact find?_insertOrAssign m k x (f v)

theorem perm_of_find? {m m' : UnorderedMap K V} (h : ∀ k, m.find? k = m'.find? k) :
    m.entries.Perm m'.entries := by
  apply List.lookup_ext m.nodupKeys m'.nodupKeys
  intro k v
  have hk : m.entries.dlookup k = m'.entries.dlookup k := h k
  rw [hk]

def mapValues {W : Type} (f : V → W) (m : UnorderedMap K V) : UnorderedMap K W :=
  ⟨m.entries.map (.map id fun _ => f), m.nodupKeys.map₂ (fun _ => f) m.entries⟩

theorem find?_mapValues {W : Type} (f : V → W) (m : UnorderedMap K V) (k : K) :
    (m.mapValues f).find? k = (m.find? k).map f :=
  List.dlookup_map₂ (l := m.entries) (f := fun _ => f) k

omit [DecidableEq K] in
theorem keys_mapValues {W : Type} (f : V → W) (m : UnorderedMap K V) :
    (m.mapValues f).keys = m.keys := List.map₂_keys (fun _ => f) m.entries

theorem contains_mapValues {W : Type} (f : V → W) (m : UnorderedMap K V) (k : K) :
    (m.mapValues f).contains k = m.contains k := by
  rw [contains, find?_mapValues, Option.isSome_map, contains]

theorem mapValues_remove {W : Type} (f : V → W) (m : UnorderedMap K V) (k : K) :
    (m.remove k).mapValues f = (m.mapValues f).remove k := by
  apply AList.ext
  show (m.entries.eraseP _).map _ = (m.entries.map _).eraseP _
  rw [List.eraseP_map]
  rfl

theorem mapValues_insertOrAssign {W : Type} (f : V → W) (m : UnorderedMap K V) (k : K) (v : V) :
    (m.insertOrAssign k v).mapValues f = (m.mapValues f).insertOrAssign k (f v) := by
  apply AList.ext
  have hrest := congrArg AList.entries (mapValues_remove f m k)
  exact congrArg (List.cons (⟨k, f v⟩ : Sigma fun _ : K => W)) hrest

theorem mapValues_emplace {W : Type} (f : V → W) (m : UnorderedMap K V) (k : K) (v : V) :
    (m.emplace k v).mapValues f = (m.mapValues f).emplace k (f v) := by
  unfold emplace
  rw [contains_mapValues]
  split_ifs
  · rfl
  · exact mapValues_insertOrAssign f m k v

theorem mem_entries {m : UnorderedMap K V} {e : Sigma fun _ : K => V} :
    e ∈ m.entries ↔ m.find? e.1 = some e.2 := AList.mem_lookup_iff.symm

theorem mem_keys_iff {m : UnorderedMap K V} {k : K} : k ∈ m.keys ↔ ∃ v, m.find? k = some v := by
  rw [← AList.mem_keys, ← AList.lookup_isSome]
  exact Option.isSome_iff_exists

theorem split_at {m : UnorderedMap K V} {k : K} {v : V} (h : m.find? k = some v) :
    ∃ before after, m.entries = before ++ ⟨k, v⟩ :: after ∧
      ∀ e ∈ before ++ after, e.1 ≠ k ∧ m.find? e.1 = some e.2 := by
  obtain ⟨before, after, hsplit⟩ := List.append_of_mem (mem_entries (e := ⟨k, v⟩).mpr h)
  refine ⟨before, after, hsplit, fun e he => ⟨fun hk => ?_, mem_entries.mp ?_⟩⟩
  · have hnodup := m.nodupKeys
    have hmem := List.mem_keys_of_mem he
    rw [hsplit, List.nodupKeys_middle] at hnodup
    rw [hk] at hmem
    exact List.notMem_keys_of_nodupKeys_cons hnodup hmem
  · rw [hsplit]
    rcases List.mem_append.mp he with he | he
    · exact List.mem_append_left _ he
    · exact List.mem_append_right _ (List.mem_cons_of_mem _ he)

end UnorderedMap
