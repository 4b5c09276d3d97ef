import Mathlib

/-! # Ordered maps as strictly sorted lists of entries

The `std::map` of the source: entries in ascending key order, at most one a key. An iterator into
the map is the split of its entries at that position, so `lowerBound` is given by the two halves
`before k` (keys below `k`) and `onward k` (the element the iterator denotes, and what follows).

* `insert`: `m[k] = v`, replacing the value of a present key.
* `ofItems`: the map left by assigning a list of items in order.
* `monotone_of_segments`: a lookup that stays between its two neighbouring entries and is monotone
  between neighbours is monotone.
-/
set_option autoImplicit false
set_option maxHeartbeats 250000
set_option maxRecDepth 120000

structure SortedMap (K V : Type) [LinearOrder K] where
  entries : List (K × V)
  sorted : entries.Pairwise fun a b => a.1 < b.1

namespace SortedMap

variable {K V : Type} [LinearOrder K]

@[ext] theorem ext {m n : SortedMap K V} (h : m.entries = n.entries) : m = n := by
  cases m
  cases n
  congr

instance [DecidableEq V] : DecidableEq (SortedMap K V) :=
  fun m n => decidable_of_iff (m.entries = n.entries) ⟨ext, congrArg entries⟩

def empty : SortedMap K V := ⟨[], List.Pairwise.nil⟩

@[simp] theorem entries_empty : (empty : SortedMap K V).entries = [] := rfl

def keys (m : SortedMap K V) : List K := m.entries.map Prod.fst

/-! ## Assignment -/

def insertEntry (k : K) (v : V) : List (K × V) → List (K × V)
  | [] => [(k, v)]
  | e :: es =>
    if k < e.1 then (k, v) :: e :: es
    else if k = e.1 then (k, v) :: es
    else e :: insertEntry k v es

theorem mem_insertEntry {k : K} {v : V} {es : List (K × V)} (hs : es.Pairwise fun a b => a.1 < b.1)
    {x : K × V} : x ∈ insertEntry k v es ↔ x = (k, v) ∨ x ∈ es ∧ x.1 ≠ k := by
  induction es with
  | nil => simp [insertEntry]
  | cons e es ih =>
    have hrest := (List.pairwise_cons.mp hs).1
    simp only [insertEntry]
    split_ifs with hlt heq
    · have hne : ∀ y ∈ e :: es, y.1 ≠ k := by
        intro y hy
        rcases List.mem_cons.mp hy with rfl | hy
        · exact (ne_of_lt hlt).symm
        · exact (ne_of_lt (hlt.trans (hrest y hy))).symm
      rw [List.mem_cons]
      exact or_congr_right ⟨fun h => ⟨h, hne x h⟩, And.left⟩
    · have hne : ∀ y ∈ es, y.1 ≠ k := fun y hy => (ne_of_lt (heq ▸ hrest y hy)).symm
      rw [List.mem_cons, List.mem_cons]
      constructor
      · rintro (h | h)
        · exact Or.inl h
        · exact Or.inr ⟨Or.inr h, hne x h⟩
      · rintro (h | ⟨rfl | h, hx⟩)
        · exact Or.inl h
        · exact absurd heq.symm hx
        · exact Or.inr h
    · rw [List.mem_cons, ih (List.pairwise_cons.mp hs).2, List.mem_cons]
      constructor
      · rintro (rfl | h | ⟨h, hx⟩)
        · exact Or.inr ⟨Or.inl rfl, fun h => heq h.symm⟩
        · exact Or.inl h
        · exact Or.inr ⟨Or.inr h, hx⟩
      · rintro (h | ⟨rfl | h, hx⟩)
        · exact Or.inr (Or.inl h)
        · exact Or.inl rfl
        · exact Or.inr (Or.inr ⟨h, hx⟩)

theorem insertEntry_sorted (k : K) (v : V) {es : List (K × V)}
    (hs : es.Pairwise fun a b => a.1 < b.1) :
    (insertEntry k v es).Pairwise fun a b => a.1 < b.1 := by
  induction es with
  | nil => simp [insertEntry]
  | cons e es ih =>
    obtain ⟨hrest, hes⟩ := List.pairwise_cons.mp hs
    simp only [insertEntry]
    split_ifs with hlt heq
    · refine List.pairwise_cons.mpr ⟨fun y hy => ?_, hs⟩
      rcases List.mem_cons.mp hy with rfl | hy
      · exact hlt
      · exact hlt.trans (hrest y hy)
    · exact List.pairwise_cons.mpr ⟨fun y hy => heq ▸ hrest y hy, hes⟩
    · refine List.pairwise_cons.mpr ⟨fun y hy => ?_, ih hes⟩
      rcases (mem_insertEntry hes).mp hy with rfl | ⟨hy, -⟩
      · exact lt_of_le_of_ne (not_lt.mp hlt) (Ne.symm heq)
      · exact hrest y hy

/-- `m[k] = v`. -/
def insert (m : SortedMap K V) (k : K) (v : V) : SortedMap K V :=
  ⟨insertEntry k v m.entries, insertEntry_sorted k v m.sorted⟩

theorem mem_insert {m : SortedMap K V} {k : K} {v : V} {x : K × V} :
    x ∈ (m.insert k v).entries ↔ x = (k, v) ∨ x ∈ m.entries ∧ x.1 ≠ k :=
  mem_insertEntry m.sorted

theorem mem_keys_insert {m : SortedMap K V} {k x : K} {v : V} :
    x ∈ (m.insert k v).keys ↔ x = k ∨ x ∈ m.keys := by
  simp only [keys, List.mem_map, mem_insert]
  constructor
  · rintro ⟨e, rfl | ⟨he, -⟩, rfl⟩
    · exact Or.inl rfl
    · exact Or.inr ⟨e, he, rfl⟩
  · rintro (rfl | ⟨e, he, rfl⟩)
    · exact ⟨(x, v), Or.inl rfl, rfl⟩
    · by_cases hk : e.1 = k
      · exact ⟨(k, v), Or.inl rfl, hk.symm⟩
      · exact ⟨e, Or.inr ⟨he, hk⟩, rfl⟩

/-- Assigning a key above every present key appends the entry. -/
theorem insertEntry_append {k : K} {v : V} {es : List (K × V)} (h : ∀ e ∈ es, e.1 < k) :
    insertEntry k v es = es ++ [(k, v)] := by
  induction es with
  | nil => rfl
  | cons e es ih =>
    have he : e.1 < k := h e List.mem_cons_self
    simp only [insertEntry, if_neg (not_lt.mpr he.le), if_neg (ne_of_gt he), List.cons_append]
    rw [ih fun x hx => h x (List.mem_cons_of_mem e hx)]

def ofItems (items : List (K × V)) : SortedMap K V :=
  items.foldl (fun m e => m.insert e.1 e.2) empty

theorem mem_keys_foldl_insert (items : List (K × V)) (m : SortedMap K V) (x : K) :
    x ∈ (items.foldl (fun m e => m.insert e.1 e.2) m).keys ↔
      x ∈ m.keys ∨ x ∈ items.map Prod.fst := by
  induction items generalizing m with
  | nil => simp
  | cons e items ih =>
    rw [List.foldl_cons, ih, mem_keys_insert, List.map_cons, List.mem_cons]
    tauto

theorem ne_nil_of_mem_keys {m : SortedMap K V} {k : K} (h : k ∈ m.keys) : m.entries ≠ [] := by
  intro hnil
  rw [keys, hnil] at h
  cases h

theorem insert_ne_nil (m : SortedMap K V) (k : K) (v : V) : (m.insert k v).entries ≠ [] :=
  ne_nil_of_mem_keys (mem_keys_insert.mpr (Or.inl rfl))

theorem foldl_insert_ne_nil {m : SortedMap K V} (h : m.entries ≠ []) (items : List (K × V)) :
    (items.foldl (fun m e => m.insert e.1 e.2) m).entries ≠ [] := by
  obtain ⟨e, he⟩ := List.exists_mem_of_ne_nil _ h
  exact ne_nil_of_mem_keys ((mem_keys_foldl_insert items m e.1).mpr
    (Or.inl (List.mem_map.mpr ⟨e, he, rfl⟩)))

theorem ofItems_ne_nil {items : List (K × V)} (h : items ≠ []) : (ofItems items).entries ≠ [] := by
  obtain ⟨e, he⟩ := List.exists_mem_of_ne_nil _ h
  exact ne_nil_of_mem_keys ((mem_keys_foldl_insert items empty e.1).mpr
    (Or.inr (List.mem_map.mpr ⟨e, he, rfl⟩)))

theorem foldl_insert_sorted (items : List (K × V)) (m : SortedMap K V)
    (h : (m.entries ++ items).Pairwise fun a b => a.1 < b.1) :
    (items.foldl (fun m e => m.insert e.1 e.2) m).entries = m.entries ++ items := by
  induction items generalizing m with
  | nil => simp
  | cons e items ih =>
    have hlt : ∀ x ∈ m.entries, x.1 < e.1 := fun x hx =>
      (List.pairwise_append.mp h).2.2 x hx e List.mem_cons_self
    have hins : (m.insert e.1 e.2).entries = m.entries ++ [e] := insertEntry_append hlt
    rw [List.foldl_cons, ih, hins, List.append_assoc, List.singleton_append]
    rw [hins, List.append_assoc, List.singleton_append]
    exact h

theorem ofItems_entries (m : SortedMap K V) : ofItems m.entries = m :=
  ext (foldl_insert_sorted m.entries empty m.sorted)

theorem mem_keys_ofItems {items : List (K × V)} {x : K} :
    x ∈ (ofItems items).keys ↔ x ∈ items.map Prod.fst :=
  (mem_keys_foldl_insert items empty x).trans (or_iff_right List.not_mem_nil)

theorem mem_foldl_insert (items : List (K × V)) (m : SortedMap K V) {x : K × V}
    (h : x ∈ (items.foldl (fun m e => m.insert e.1 e.2) m).entries) :
    x ∈ m.entries ∨ x ∈ items := by
  induction items generalizing m with
  | nil => exact Or.inl h
  | cons e items ih =>
    rcases ih (m.insert e.1 e.2) h with h | h
    · rcases mem_insert.mp h with rfl | ⟨h, -⟩
      · exact Or.inr List.mem_cons_self
      · exact Or.inl h
    · exact Or.inr (List.mem_cons_of_mem e h)

theorem mem_of_mem_ofItems {items : List (K × V)} {x : K × V}
    (h : x ∈ (ofItems items).entries) : x ∈ items :=
  (mem_foldl_insert items empty h).resolve_left List.not_mem_nil

/-- Items with ascending keys and strictly ascending values give a map with strictly ascending
values, even where a key is assigned more than once. -/
theorem ofItems_values_ascend [LinearOrder V] {items : List (K × V)}
    (h : items.Pairwise fun a b => a.1 ≤ b.1 ∧ a.2 < b.2) :
    (ofItems items).entries.Pairwise fun a b => a.2 < b.2 := by
  have hall : ∀ ⦃a⦄, a ∈ items → ∀ ⦃b⦄, b ∈ items → a.1 < b.1 → a.2 < b.2 :=
    List.Pairwise.forall_of_forall_of_flip (fun x _ hlt => absurd hlt (lt_irrefl _))
      (h.imp fun hab _ => hab.2) (h.imp fun hab hlt => absurd hlt hab.1.not_gt)
  exact (ofItems items).sorted.imp_of_mem fun ha hb hlt =>
    hall (mem_of_mem_ofItems ha) (mem_of_mem_ofItems hb) hlt

theorem ofItems_sorted {items : List (K × V)} (h : items.Pairwise fun a b => a.1 < b.1) :
    (ofItems items).entries = items :=
  foldl_insert_sorted items empty h

/-! ## Lookup and removal -/

def find? (m : SortedMap K V) (k : K) : Option V :=
  (m.entries.find? fun e => e.1 == k).map Prod.snd

def contains (m : SortedMap K V) (k : K) : Bool := (m.find? k).isSome

theorem keys_nodup (m : SortedMap K V) : m.keys.Nodup :=
  List.pairwise_map.mpr (m.sorted.imp fun h => ne_of_lt h)

theorem key_inj (m : SortedMap K V) {a b : K × V} (ha : a ∈ m.entries) (hb : b ∈ m.entries)
    (h : a.1 = b.1) : a = b := List.inj_on_of_nodup_map m.keys_nodup ha hb h

theorem find?_eq_some {m : SortedMap K V} {k : K} {v : V} :
    m.find? k = some v ↔ (k, v) ∈ m.entries := by
  unfold find?
  constructor
  · intro h
    obtain ⟨e, he, rfl⟩ := Option.map_eq_some_iff.mp h
    have hk : e.1 = k := by simpa using List.find?_some he
    exact hk ▸ List.mem_of_find?_eq_some he
  · intro h
    obtain ⟨e, he⟩ := Option.isSome_iff_exists.mp
      (List.find?_isSome.mpr ⟨(k, v), h, by simp⟩ : (m.entries.find? fun e => e.1 == k).isSome)
    have hk : e.1 = k := by simpa using List.find?_some he
    have hev := m.key_inj (List.mem_of_find?_eq_some he) h hk
    simp [he, hev]

theorem find?_eq_none {m : SortedMap K V} {k : K} :
    m.find? k = none ↔ ∀ e ∈ m.entries, e.1 ≠ k := by
  simp [find?, List.find?_eq_none]

theorem contains_iff {m : SortedMap K V} {k : K} : m.contains k = true ↔ k ∈ m.keys := by
  rw [contains, Option.isSome_iff_exists, keys, List.mem_map]
  constructor
  · rintro ⟨v, h⟩
    exact ⟨(k, v), find?_eq_some.mp h, rfl⟩
  · rintro ⟨e, he, rfl⟩
    exact ⟨e.2, find?_eq_some.mpr he⟩

theorem find?_insert (m : SortedMap K V) (k : K) (v : V) (x : K) :
    (m.insert k v).find? x = if x = k then some v else m.find? x := by
  split_ifs with h
  · subst h
    exact find?_eq_some.mpr (mem_insert.mpr (Or.inl rfl))
  · refine Option.ext fun w => ?_
    rw [find?_eq_some, find?_eq_some, mem_insert]
    simp [h]

def erase (m : SortedMap K V) (k : K) : SortedMap K V :=
  ⟨m.entries.filter fun e => e.1 ≠ k, m.sorted.filter _⟩

theorem mem_erase {m : SortedMap K V} {k : K} {x : K × V} :
    x ∈ (m.erase k).entries ↔ x ∈ m.entries ∧ x.1 ≠ k := by
  simp [erase]

theorem find?_erase (m : SortedMap K V) (k x : K) :
    (m.erase k).find? x = if x = k then none else m.find? x := by
  split_ifs with h
  · subst h
    exact find?_eq_none.mpr fun e he => (mem_erase.mp he).2
  · refine Option.ext fun w => ?_
    rw [find?_eq_some, find?_eq_some, mem_erase]
    simp [h]

/-- `emplace`, which keeps the value of a key that is there. -/
def emplace (m : SortedMap K V) (k : K) (v : V) : SortedMap K V :=
  if m.contains k then m else m.insert k v

theorem find?_emplace (m : SortedMap K V) (k : K) (v : V) (x : K) :
    (m.emplace k v).find? x = if x = k then some ((m.find? k).getD v) else m.find? x := by
  unfold emplace
  cases h : m.find? k with
  | some w =>
    rw [if_pos (by simp [contains, h])]
    split_ifs with hx
    · rw [hx, h]
      rfl
    · rfl
  | none =>
    rw [if_neg (by simp [contains, h]), find?_insert]
    rfl

theorem contains_emplace {m : SortedMap K V} {k x : K} {v : V} :
    (m.emplace k v).contains x = true ↔ m.contains x = true ∨ x = k := by
  rw [contains, contains, find?_emplace]
  split_ifs with hx
  · simp [hx]
  · simp [hx]

theorem contains_erase {m : SortedMap K V} {k x : K} :
    (m.erase k).contains x = true ↔ x ≠ k ∧ m.contains x = true := by
  rw [contains, contains, find?_erase]
  split_ifs with hx
  · simp [hx]
  · simp [hx]

/-! ## Other values under the same keys -/

def mapValues {W : Type} (f : V → W) (m : SortedMap K V) : SortedMap K W :=
  ⟨m.entries.map (Prod.map id f), List.pairwise_map.mpr m.sorted⟩

theorem keys_mapValues {W : Type} (f : V → W) (m : SortedMap K V) :
    (m.mapValues f).keys = m.keys := by
  simp [keys, mapValues]

theorem find?_mapValues {W : Type} (f : V → W) (m : SortedMap K V) (k : K) :
    (m.mapValues f).find? k = (m.find? k).map f := by
  unfold find? mapValues
  rw [List.find?_map, Option.map_map, Option.map_map]
  rfl

theorem contains_mapValues {W : Type} (f : V → W) (m : SortedMap K V) (k : K) :
    (m.mapValues f).contains k = m.contains k := by
  rw [contains, find?_mapValues, Option.isSome_map, contains]

theorem map_insertEntry {W : Type} (f : V → W) (k : K) (v : V) (es : List (K × V)) :
    (insertEntry k v es).map (Prod.map id f) = insertEntry k (f v) (es.map (Prod.map id f)) := by
  induction es with
  | nil => rfl
  | cons e es ih =>
    rw [List.map_cons]
    simp only [insertEntry, Prod.map_fst, id_eq]
    split_ifs
    · rfl
    · rfl
    · rw [List.map_cons, ih]

theorem mapValues_insert {W : Type} (f : V → W) (m : SortedMap K V) (k : K) (v : V) :
    (m.insert k v).mapValues f = (m.mapValues f).insert k (f v) :=
  ext (map_insertEntry f k v m.entries)

theorem mapValues_erase {W : Type} (f : V → W) (m : SortedMap K V) (k : K) :
    (m.erase k).mapValues f = (m.mapValues f).erase k := by
  apply ext
  show (m.entries.filter _).map _ = (m.entries.map _).filter _
  rw [List.filter_map]
  rfl

theorem mapValues_emplace {W : Type} (f : V → W) (m : SortedMap K V) (k : K) (v : V) :
    (m.emplace k v).mapValues f = (m.mapValues f).emplace k (f v) := by
  unfold emplace
  rw [contains_mapValues]
  split_ifs
  · rfl
  · exact mapValues_insert f m k v

theorem ext_find? {m n : SortedMap K V} (h : ∀ k, m.find? k = n.find? k) : m = n := by
  apply ext
  have hmem : ∀ e, e ∈ m.entries ↔ e ∈ n.entries := fun e => by
    rw [← find?_eq_some, ← find?_eq_some, h]
  have hnodup : ∀ m : SortedMap K V, m.entries.Nodup := fun m => m.keys_nodup.of_map _
  refine ((List.perm_ext_iff_of_nodup (hnodup m) (hnodup n)).mpr hmem).eq_of_pairwise
    (fun a b _ _ hab hba => ?_) m.sorted n.sorted
  exact absurd hba hab.not_gt

theorem insert_insert (m : SortedMap K V) (k : K) (v w : V) :
    (m.insert k v).insert k w = m.insert k w := by
  refine ext_find? fun x => ?_
  rw [find?_insert, find?_insert, find?_insert]
  split_ifs <;> rfl

theorem erase_insert (m : SortedMap K V) (k : K) (v : V) : (m.insert k v).erase k = m.erase k := by
  refine ext_find? fun x => ?_
  rw [find?_erase, find?_erase, find?_insert]
  split_ifs <;> rfl

/-! ## The lower bound -/

/-- The entries before `lower_bound(k)`. -/
def before (m : SortedMap K V) (k : K) : List (K × V) :=
  m.entries.takeWhile fun e => decide (e.1 < k)

/-- The entries from `lower_bound(k)` on; its head is the element the iterator denotes. -/
def onward (m : SortedMap K V) (k : K) : List (K × V) :=
  m.entries.dropWhile fun e => decide (e.1 < k)

theorem before_append_onward (m : SortedMap K V) (k : K) :
    m.before k ++ m.onward k = m.entries := List.takeWhile_append_dropWhile

theorem lt_of_mem_before {m : SortedMap K V} {k : K} {e : K × V} (h : e ∈ m.before k) :
    e.1 < k := by
  simpa using List.mem_takeWhile_imp h

theorem le_of_mem_onward {m : SortedMap K V} {k : K} {e : K × V} (h : e ∈ m.onward k) :
    k ≤ e.1 := by
  have hsort : (m.onward k).Pairwise fun a b => a.1 < b.1 :=
    m.sorted.sublist (List.dropWhile_sublist _)
  cases ho : m.onward k with
  | nil => simp [ho] at h
  | cons d ds =>
    have hd : k ≤ d.1 := by
      have := List.head?_dropWhile_not (fun e : K × V => decide (e.1 < k)) m.entries
      rw [show m.entries.dropWhile (fun e => decide (e.1 < k)) = d :: ds from ho] at this
      simpa using this
    rw [ho] at h hsort
    rcases List.mem_cons.mp h with rfl | h
    · exact hd
    · exact hd.trans ((List.pairwise_cons.mp hsort).1 e h).le

theorem before_prefix (m : SortedMap K V) {k l : K} (h : k ≤ l) : m.before k <+: m.before l := by
  unfold before
  induction m.entries with
  | nil => simp
  | cons e es ih =>
    by_cases hk : e.1 < k
    · simp only [List.takeWhile_cons, decide_eq_true hk, decide_eq_true (hk.trans_le h), if_true]
      exact (List.prefix_cons_inj e).mpr ih
    · simp only [List.takeWhile_cons, decide_eq_false hk, Bool.false_eq_true, if_false]
      exact List.nil_prefix

theorem last_or_head (m : SortedMap K V) (k : K) (hne : m.entries ≠ []) :
    (∃ e, (m.before k).getLast? = some e) ∨ ∃ e, (m.onward k).head? = some e := by
  rw [← before_append_onward m k] at hne
  cases hb : m.before k with
  | nil =>
    cases ho : m.onward k with
    | nil => simp [hb, ho] at hne
    | cons e es => exact Or.inr ⟨e, rfl⟩
  | cons e es => exact Or.inl (Option.isSome_iff_exists.mp (by simp))

/-- The split at a key never reorders: two keys with different splits have an entry between. -/
theorem head_mem_before (m : SortedMap K V) {k l : K} (hkl : k ≤ l)
    (hne : m.before k ≠ m.before l) : ∃ e, (m.onward k).head? = some e ∧ e ∈ m.before l := by
  obtain ⟨r, hr⟩ := m.before_prefix hkl
  have hsplit : m.onward k = r ++ m.onward l := by
    have h := (m.before_append_onward k).trans (m.before_append_onward l).symm
    rw [← hr, List.append_assoc] at h
    exact List.append_cancel_left h
  cases r with
  | nil => exact absurd (by simpa using hr) hne
  | cons e r => exact ⟨e, by rw [hsplit]; rfl, by rw [← hr]; simp⟩

theorem split_between (m : SortedMap K V) {init rest : List (K × V)} {e d : K × V} {k : K}
    (h : m.entries = init ++ e :: d :: rest) (he : e.1 < k) (hd : k ≤ d.1) :
    m.before k = init ++ [e] ∧ m.onward k = d :: rest := by
  have hinit : ∀ x ∈ init ++ [e], x.1 < k := by
    have hp := h ▸ m.sorted
    intro x hx
    rcases List.mem_append.mp hx with hx | hx
    · exact ((List.pairwise_append.mp hp).2.2 x hx e List.mem_cons_self).trans he
    · exact (List.mem_singleton.mp hx) ▸ he
  have hsplit : m.entries = (init ++ [e]) ++ d :: rest := by simp [h]
  constructor
  · rw [before, hsplit, List.takeWhile_append_of_pos (by simpa using hinit)]
    simp [not_lt.mpr hd]
  · rw [onward, hsplit, List.dropWhile_append_of_pos (by simpa using hinit)]
    simp [not_lt.mpr hd]

/-! ## Iterators -/

/-- The element that an iterator at position `i` denotes; `begin()` is at 0, `end()` at the size. -/
def deref? (m : SortedMap K V) (i : ℤ) : Option (K × V) :=
  if 0 ≤ i then m.entries[i.toNat]? else none

def endPos (m : SortedMap K V) : ℤ := m.entries.length

def lowerBound (m : SortedMap K V) (k : K) : ℤ := (m.before k).length

theorem deref?_natCast (m : SortedMap K V) (n : ℕ) : m.deref? n = m.entries[n]? := by
  simp [deref?]

theorem deref?_lowerBound (m : SortedMap K V) (k : K) :
    m.deref? (m.lowerBound k) = (m.onward k).head? := by
  rw [lowerBound, deref?_natCast, ← m.before_append_onward k,
    List.getElem?_append_right (le_refl _), Nat.sub_self, List.head?_eq_getElem?]

theorem deref?_pred {m : SortedMap K V} {es rest : List (K × V)} (h : m.entries = es ++ rest) :
    m.deref? ((es.length : ℤ) - 1) = es.getLast? := by
  rw [List.getLast?_eq_getElem?]
  cases es with
  | nil => simp [deref?]
  | cons e es =>
    have hpos : ((e :: es).length : ℤ) - 1 = (es.length : ℕ) := by simp
    have hlen : es.length < (e :: es).length := by simp
    rw [hpos, deref?_natCast, h, List.getElem?_append_left hlen]
    rfl

theorem deref?_lowerBound_pred (m : SortedMap K V) (k : K) :
    m.deref? (m.lowerBound k - 1) = (m.before k).getLast? :=
  deref?_pred (m.before_append_onward k).symm

theorem deref?_endPos_pred (m : SortedMap K V) : m.deref? (m.endPos - 1) = m.entries.getLast? :=
  deref?_pred (List.append_nil _).symm

theorem lowerBound_eq_endPos {m : SortedMap K V} {k : K} :
    m.lowerBound k = m.endPos ↔ m.onward k = [] := by
  rw [lowerBound, endPos, ← m.before_append_onward k, List.length_append, ← List.length_eq_zero_iff]
  omega

theorem lowerBound_eq_zero {m : SortedMap K V} {k : K} : m.lowerBound k = 0 ↔ m.before k = [] := by
  rw [lowerBound, ← List.length_eq_zero_iff]
  omega

/-! ## Lookups between neighbours -/

def ValuesMonotone [LE V] (m : SortedMap K V) : Prop := m.entries.Pairwise fun a b => a.2 ≤ b.2

theorem ValuesMonotone.le_last [Preorder V] {m : SortedMap K V} (hv : m.ValuesMonotone) {k : K}
    {e l : K × V} (he : e ∈ m.before k) (hl : (m.before k).getLast? = some l) : e.2 ≤ l.2 := by
  obtain ⟨init, hinit⟩ := List.getLast?_eq_some_iff.mp hl
  have hp : (init ++ [l]).Pairwise fun a b : K × V => a.2 ≤ b.2 :=
    hinit ▸ hv.sublist (List.takeWhile_sublist _)
  rw [hinit, List.mem_append, List.mem_singleton] at he
  rcases he with he | rfl
  · exact (List.pairwise_append.mp hp).2.2 e he l List.mem_cons_self
  · exact le_rfl

theorem ValuesMonotone.last_le_head [LE V] {m : SortedMap K V} (hv : m.ValuesMonotone) {k : K}
    {e d : K × V} (he : (m.before k).getLast? = some e) (hd : (m.onward k).head? = some d) :
    e.2 ≤ d.2 := by
  have hp : (m.before k ++ m.onward k).Pairwise fun a b : K × V => a.2 ≤ b.2 :=
    (m.before_append_onward k).symm ▸ hv
  exact (List.pairwise_append.mp hp).2.2 e (List.mem_of_getLast? he) d (List.mem_of_head? hd)

/-- A lookup bounded by its two neighbours and monotone between two neighbours is monotone. -/
theorem monotone_of_segments [Preorder V] {m : SortedMap K V} (hv : m.ValuesMonotone)
    (g : K → V)
    (hlow : ∀ k e, (m.before k).getLast? = some e → e.2 ≤ g k)
    (hhigh : ∀ k e, (m.onward k).head? = some e → g k ≤ e.2)
    (hseg : ∀ k l, k ≤ l → m.before k = m.before l → g k ≤ g l) : Monotone g := by
  intro k l hkl
  by_cases heq : m.before k = m.before l
  · exact hseg k l hkl heq
  · obtain ⟨e, he, hmem⟩ := m.head_mem_before hkl heq
    obtain ⟨d, hd⟩ : ∃ d, (m.before l).getLast? = some d :=
      ⟨_, List.getLast?_eq_some_getLast (List.ne_nil_of_mem hmem)⟩
    calc g k ≤ e.2 := hhigh k e he
      _ ≤ d.2 := hv.le_last hmem hd
      _ ≤ g l := hlow l d hd

end SortedMap
