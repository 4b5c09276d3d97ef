import Mathlib

/-! # Merging into a store by identity

A store maps keys to values, and each value has an identity. A merge takes its values one by one:
a value whose identity is not stored is placed under its key, one whose identity is stored either
leaves the store alone or first removes the stored value, which may be under another key. Placing
a value under a key that is taken loses it. Which merges lose nothing is a condition on the store
before the merge (`Fits`).
-/
set_option autoImplicit false
set_option maxHeartbeats 250000
set_option maxRecDepth 120000

namespace KeyedMerge

variable {K V I : Type} [DecidableEq K]

abbrev Store (K V : Type) := K → Option V

def place (f : Store K V) (k : K) (v : V) : Store K V :=
  if f k = none then Function.update f k (some v) else f

def drop (f : Store K V) (k : K) : Store K V := Function.update f k none

def Holds (ident : V → I) (f : Store K V) (i : I) : Prop := ∃ k v, f k = some v ∧ ident v = i

def Distinct (ident : V → I) (f : Store K V) : Prop :=
  ∀ k l v w, f k = some v → f l = some w → ident v = ident w → k = l

def Replaces (ident : V → I) (replace : V → V → Prop) (f : Store K V) (v : V) : Prop :=
  ∃ l w, f l = some w ∧ ident w = ident v ∧ replace v w

inductive Step (ident : V → I) (replace : V → V → Prop) (f : Store K V) (k : K) (v : V) :
    Store K V → Prop
  | add : ¬ Holds ident f (ident v) → Step ident replace f k v (place f k v)
  | keep {l : K} {w : V} : f l = some w → ident w = ident v → ¬ replace v w →
      Step ident replace f k v f
  | move {l : K} {w : V} : f l = some w → ident w = ident v → replace v w →
      Step ident replace f k v (place (drop f l) k v)

inductive Steps (ident : V → I) (replace : V → V → Prop) :
    Store K V → List (K × V) → Store K V → Prop
  | nil {f : Store K V} : Steps ident replace f [] f
  | cons {f g h : Store K V} {k : K} {v : V} {rest : List (K × V)} :
      Step ident replace f k v g → Steps ident replace g rest h →
      Steps ident replace f ((k, v) :: rest) h

/-- Each value that is placed finds its key free: what is there has its own identity, or one that
a value before it replaces. -/
def Fits (ident : V → I) (replace : V → V → Prop) (f : Store K V) (src : List (K × V)) : Prop :=
  ∀ before k v after, src = before ++ (k, v) :: after →
    (¬ Holds ident f (ident v) ∨ Replaces ident replace f v) → ∀ w, f k = some w →
    ident w = ident v ∨ ∃ e ∈ before, ident e.2 = ident w ∧ Replaces ident replace f e.2

theorem place_of_free {f : Store K V} {k : K} (h : f k = none) (v : V) :
    place f k v = Function.update f k (some v) := if_pos h

theorem place_of_taken {f : Store K V} {k : K} {w : V} (h : f k = some w) (v : V) :
    place f k v = f := if_neg (by simp [h])

theorem place_eq_some {f : Store K V} {k l : K} {v w : V} (h : place f k v l = some w) :
    f l = some w ∨ f k = none ∧ l = k ∧ w = v := by
  unfold place at h
  split_ifs at h with hk
  · by_cases hl : l = k
    · subst hl
      rw [Function.update_self] at h
      exact Or.inr ⟨hk, rfl, (Option.some.inj h).symm⟩
    · rw [Function.update_of_ne hl] at h
      exact Or.inl h
  · exact Or.inl h

theorem drop_eq_some {f : Store K V} {k l : K} {w : V} :
    drop f k l = some w ↔ l ≠ k ∧ f l = some w := by
  unfold drop
  by_cases hl : l = k
  · subst hl
    simp
  · simp [hl]

theorem place_of_eq_some {f : Store K V} {k l : K} {v w : V} (h : f l = some w) :
    place f k v l = some w := by
  cases hk : f k with
  | some x => rw [place_of_taken hk, h]
  | none =>
    have hl : l ≠ k := by
      rintro rfl
      rw [hk] at h
      cases h
    rw [place_of_free hk, Function.update_of_ne hl, h]

section

variable {ident : V → I} {replace : V → V → Prop} {f g h : Store K V} {k : K} {v : V}

theorem Step.other (hs : Step ident replace f k v g) {l : K} {w : V}
    (hw : ident w ≠ ident v) : g l = some w ↔ f l = some w := by
  have hplace : ∀ f' : Store K V, place f' k v l = some w ↔ f' l = some w := by
    refine fun f' => ⟨fun h => ?_, place_of_eq_some⟩
    rcases place_eq_some h with h | ⟨-, -, rfl⟩
    · exact h
    · exact absurd rfl hw
  cases hs with
  | add _ => exact hplace f
  | keep _ _ _ => rfl
  | @move l' w' hl' hid _ =>
    rw [hplace, drop_eq_some]
    refine ⟨And.right, fun h => ⟨?_, h⟩⟩
    rintro rfl
    rw [hl'] at h
    exact hw (Option.some.inj h ▸ hid)

theorem Step.distinct (hs : Step ident replace f k v g) (hf : Distinct ident f) :
    Distinct ident g := by
  have hplace : ∀ f' : Store K V, Distinct ident f' → ¬ Holds ident f' (ident v) →
      Distinct ident (place f' k v) := by
    intro f' hf' hnew a b x y hx hy hid
    rcases place_eq_some hx with hx' | ⟨-, rfl, rfl⟩
    · rcases place_eq_some hy with hy' | ⟨-, -, rfl⟩
      · exact hf' a b x y hx' hy' hid
      · exact absurd ⟨a, x, hx', hid⟩ hnew
    · rcases place_eq_some hy with hy' | ⟨-, rfl, -⟩
      · exact absurd ⟨b, y, hy', hid.symm⟩ hnew
      · rfl
  cases hs with
  | add hnew => exact hplace f hf hnew
  | keep _ _ _ => exact hf
  | @move l w hl hid _ =>
    refine hplace _ ?_ ?_
    · exact fun a b x y hx hy => hf a b x y (drop_eq_some.mp hx).2 (drop_eq_some.mp hy).2
    · rintro ⟨a, x, hx, hxid⟩
      obtain ⟨hne, hx⟩ := drop_eq_some.mp hx
      exact hne (hf a l x w hx hl (hxid.trans hid.symm))

theorem Step.holds_other (hs : Step ident replace f k v g) {i : I}
    (hi : i ≠ ident v) : Holds ident g i ↔ Holds ident f i := by
  constructor
  · rintro ⟨l, w, hw, rfl⟩
    exact ⟨l, w, (hs.other hi).mp hw, rfl⟩
  · rintro ⟨l, w, hw, rfl⟩
    exact ⟨l, w, (hs.other hi).mpr hw, rfl⟩

theorem Step.replaces_other (hs : Step ident replace f k v g) {w : V}
    (hw : ident w ≠ ident v) : Replaces ident replace g w ↔ Replaces ident replace f w := by
  constructor
  · rintro ⟨l, x, hx, hid, hrep⟩
    exact ⟨l, x, (hs.other (hid ▸ hw)).mp hx, hid, hrep⟩
  · rintro ⟨l, x, hx, hid, hrep⟩
    exact ⟨l, x, (hs.other (hid ▸ hw)).mpr hx, hid, hrep⟩

def FreeFor (ident : V → I) (f : Store K V) (k : K) (v : V) : Prop :=
  ∀ w, f k = some w → ident w = ident v

theorem Step.holds_self (hs : Step ident replace f k v g) (hf : Distinct ident f) :
    Holds ident g (ident v) ↔
      ((¬ Holds ident f (ident v) ∨ Replaces ident replace f v) → FreeFor ident f k v) := by
  have hplaced : ∀ f' : Store K V, ¬ Holds ident f' (ident v) →
      (Holds ident (place f' k v) (ident v) ↔ f' k = none) := by
    intro f' hnew
    constructor
    · rintro ⟨l, w, hw, hid⟩
      rcases place_eq_some hw with hw | ⟨hk, -, -⟩
      · exact absurd ⟨l, w, hw, hid⟩ hnew
      · exact hk
    · intro hk
      exact ⟨k, v, by rw [place_of_free hk, Function.update_self], rfl⟩
  cases hs with
  | add hnew =>
    rw [hplaced f hnew]
    constructor
    · intro hk _ w hw
      rw [hk] at hw
      cases hw
    · intro hfree
      by_contra hk
      obtain ⟨w, hw⟩ := Option.ne_none_iff_exists'.mp hk
      exact hnew ⟨k, w, hw, hfree (Or.inl hnew) w hw⟩
  | @keep l w hl hid hrep =>
    refine ⟨fun _ hplace => ?_, fun _ => ⟨l, w, hl, hid⟩⟩
    rcases hplace with hnew | ⟨l', w', hl', hid', hrep'⟩
    · exact absurd ⟨l, w, hl, hid⟩ hnew
    · obtain rfl := hf l l' w w' hl hl' (hid.trans hid'.symm)
      obtain rfl := Option.some.inj (hl.symm.trans hl')
      exact absurd hrep' hrep
  | @move l w hl hid hrep =>
    have hnew : ¬ Holds ident (drop f l) (ident v) := by
      rintro ⟨a, x, hx, hxid⟩
      obtain ⟨hne, hx⟩ := drop_eq_some.mp hx
      exact hne (hf a l x w hx hl (hxid.trans hid.symm))
    rw [hplaced _ hnew]
    constructor
    · intro hk _ x hx
      by_cases hkl : k = l
      · subst hkl
        obtain rfl := Option.some.inj (hl.symm.trans hx)
        exact hid
      · exact absurd (hk.symm.trans (drop_eq_some.mpr ⟨hkl, hx⟩)) (by simp)
    · intro hfree
      by_contra hk
      obtain ⟨x, hx⟩ := Option.ne_none_iff_exists'.mp hk
      obtain ⟨hne, hx⟩ := drop_eq_some.mp hx
      have hxid := hfree (Or.inr ⟨l, w, hl, hid, hrep⟩) x hx
      exact hne (hf k l x w hx hl (hxid.trans hid.symm))

/-! ## Whole merges -/

theorem Steps.distinct {src : List (K × V)} (hs : Steps ident replace f src g)
    (hf : Distinct ident f) : Distinct ident g := by
  induction hs with
  | nil => exact hf
  | cons hstep _ ih => exact ih (hstep.distinct hf)

theorem Steps.holds_le {src : List (K × V)} (hs : Steps ident replace f src g) {i : I}
    (hi : Holds ident g i) : Holds ident f i ∨ ∃ e ∈ src, ident e.2 = i := by
  induction hs with
  | nil => exact Or.inl hi
  | @cons f f' _ k v rest hstep _ ih =>
    rcases ih hi with h | ⟨e, he, rfl⟩
    · by_cases hiv : i = ident v
      · exact Or.inr ⟨(k, v), List.mem_cons_self, hiv.symm⟩
      · exact Or.inl ((hstep.holds_other hiv).mp h)
    · exact Or.inr ⟨e, List.mem_cons_of_mem _ he, rfl⟩

def HeadFits (ident : V → I) (replace : V → V → Prop) (f : Store K V) (k : K) (v : V) : Prop :=
  (¬ Holds ident f (ident v) ∨ Replaces ident replace f v) → FreeFor ident f k v

theorem placed_other {w : V} (hs : Step ident replace f k v g) (hw : ident w ≠ ident v) :
    (¬ Holds ident g (ident w) ∨ Replaces ident replace g w) ↔
      (¬ Holds ident f (ident w) ∨ Replaces ident replace f w) := by
  rw [hs.holds_other hw, hs.replaces_other hw]

/-- A value of the merged identity that is stored under another key was there before and was not
replaced. -/
theorem Step.kept (hs : Step ident replace f k v g) (hf : Distinct ident f) {l : K} {w : V}
    (hl : l ≠ k) (hw : ident w = ident v) (hg : g l = some w) :
    f l = some w ∧ ¬ Replaces ident replace f v := by
  have hplace : ∀ f' : Store K V, place f' k v l = some w → f' l = some w := by
    intro f' h
    rcases place_eq_some h with h | ⟨-, rfl, -⟩
    · exact h
    · exact absurd rfl hl
  cases hs with
  | add hnew => exact absurd ⟨l, w, hplace f hg, hw⟩ hnew
  | @keep l' w' hl' hid hrep =>
    refine ⟨hg, ?_⟩
    rintro ⟨a, x, hx, hxid, hxrep⟩
    obtain rfl := hf l' a w' x hl' hx (hid.trans hxid.symm)
    obtain rfl := Option.some.inj (hl'.symm.trans hx)
    exact hrep hxrep
  | @move l' w' hl' hid _ =>
    obtain ⟨hne, hfl⟩ := drop_eq_some.mp (hplace _ hg)
    exact absurd (hf l l' w w' hfl hl' (hw.trans hid.symm)) hne

theorem fits_cons {rest : List (K × V)} (hs : Step ident replace f k v g) (hf : Distinct ident f)
    (hkeys : ∀ e ∈ rest, e.1 ≠ k) (hids : ∀ e ∈ rest, ident e.2 ≠ ident v) :
    Fits ident replace f ((k, v) :: rest) ↔
      HeadFits ident replace f k v ∧ Fits ident replace g rest := by
  constructor
  · intro hfits
    refine ⟨fun hplaced w hw => ?_, ?_⟩
    · rcases hfits [] k v rest rfl hplaced w hw with h | ⟨e, he, -⟩
      · exact h
      · cases he
    · rintro before k₂ v₂ after rfl hplaced w hw
      have hmem : (k₂, v₂) ∈ before ++ (k₂, v₂) :: after := by simp
      have hv₂ := hids _ hmem
      have hbefore : ∀ e ∈ before, ident e.2 ≠ ident v := fun e he =>
        hids e (List.mem_append_left _ he)
      have hhead := hfits ((k, v) :: before) k₂ v₂ after rfl ((placed_other hs hv₂).mp hplaced) w
      by_cases hwv : ident w = ident v
      · obtain ⟨hfw, hkept⟩ := hs.kept hf (hkeys _ hmem) hwv hw
        rcases hhead hfw with h | ⟨e, he, hid, hrep⟩
        · exact Or.inl h
        · rcases List.mem_cons.mp he with rfl | he
          · exact absurd hrep hkept
          · exact absurd (hid.trans hwv) (hbefore e he)
      · rcases hhead ((hs.other hwv).mp hw) with h | ⟨e, he, hid, hrep⟩
        · exact Or.inl h
        · rcases List.mem_cons.mp he with rfl | he
          · exact absurd hid.symm hwv
          · exact Or.inr ⟨e, he, hid, (hs.replaces_other (hbefore e he)).mpr hrep⟩
  · rintro ⟨hhead, hrest⟩ before k₂ v₂ after hsplit hplaced w hw
    cases before with
    | nil =>
      obtain ⟨hkv, -⟩ := List.cons.inj hsplit
      obtain ⟨rfl, rfl⟩ := Prod.mk.inj hkv
      exact Or.inl (hhead hplaced w hw)
    | cons e before =>
      obtain ⟨rfl, rfl⟩ := List.cons.inj hsplit
      have hmem : (k₂, v₂) ∈ before ++ (k₂, v₂) :: after := by simp
      have hv₂ := hids _ hmem
      have hbefore : ∀ e ∈ before, ident e.2 ≠ ident v := fun e he =>
        hids e (List.mem_append_left _ he)
      have htail := hrest before k₂ v₂ after rfl ((placed_other hs hv₂).mpr hplaced) w
      by_cases hrep : ident w = ident v ∧ Replaces ident replace f v
      · exact Or.inr ⟨(k, v), List.mem_cons_self, hrep.1.symm, hrep.2⟩
      · have hgw : g k₂ = some w := by
          by_cases hwv : ident w = ident v
          · cases hs with
            | add hnew => exact absurd ⟨k₂, w, hw, hwv⟩ hnew
            | keep _ _ _ => exact hw
            | move hl hid hr => exact absurd ⟨hwv, _, _, hl, hid, hr⟩ hrep
          · exact (hs.other hwv).mpr hw
        rcases htail hgw with h | ⟨e, he, hid, hr⟩
        · exact Or.inl h
        · exact Or.inr ⟨e, List.mem_cons_of_mem _ he, hid,
            (hs.replaces_other (hbefore e he)).mp hr⟩

/-- **A merge keeps every identity exactly when its values fit.** -/
theorem Steps.holds_iff {src : List (K × V)} (hs : Steps ident replace f src g)
    (hf : Distinct ident f) (hkeys : (src.map Prod.fst).Nodup)
    (hids : (src.map fun e => ident e.2).Nodup) :
    (∀ i, Holds ident g i ↔ Holds ident f i ∨ ∃ e ∈ src, ident e.2 = i) ↔
      Fits ident replace f src := by
  induction hs with
  | nil => simp [Fits]
  | @cons f f' g k v rest hstep hrest ih =>
    obtain ⟨hk, hkeys⟩ := List.nodup_cons.mp hkeys
    obtain ⟨hi, hids⟩ := List.nodup_cons.mp hids
    have hk' : ∀ e ∈ rest, e.1 ≠ k := fun e he heq => hk (List.mem_map.mpr ⟨e, he, heq⟩)
    have hi' : ∀ e ∈ rest, ident e.2 ≠ ident v := fun e he heq =>
      hi (List.mem_map.mpr ⟨e, he, heq⟩)
    rw [fits_cons hstep hf hk' hi', ← ih (hstep.distinct hf) hkeys hids, HeadFits,
      ← hstep.holds_self hf]
    constructor
    · intro hall
      have hself : Holds ident f' (ident v) := by
        have hv := (hall (ident v)).mpr (Or.inr ⟨(k, v), List.mem_cons_self, rfl⟩)
        rcases hrest.holds_le hv with h | ⟨e, he, heq⟩
        · exact h
        · exact absurd heq (hi' e he)
      refine ⟨hself, fun i => ⟨hrest.holds_le, fun h => (hall i).mpr ?_⟩⟩
      rcases h with h | ⟨e, he, rfl⟩
      · by_cases hiv : i = ident v
        · exact Or.inr ⟨(k, v), List.mem_cons_self, hiv.symm⟩
        · exact Or.inl ((hstep.holds_other hiv).mp h)
      · exact Or.inr ⟨e, List.mem_cons_of_mem _ he, rfl⟩
    · rintro ⟨hself, hall⟩ i
      rw [hall i]
      by_cases hiv : i = ident v
      · subst hiv
        exact ⟨fun _ => Or.inr ⟨(k, v), List.mem_cons_self, rfl⟩, fun _ => Or.inl hself⟩
      · rw [hstep.holds_other hiv]
        simp only [List.mem_cons, exists_eq_or_imp, Ne.symm hiv, false_or]

/-! ## What a merge keeps -/

theorem Steps.other {src : List (K × V)} (hs : Steps ident replace f src g) {l : K} {w : V}
    (hw : ∀ e ∈ src, ident e.2 ≠ ident w) : g l = some w ↔ f l = some w := by
  induction hs with
  | nil => exact Iff.rfl
  | cons hstep _ ih =>
    rw [ih fun e he => hw e (List.mem_cons_of_mem _ he)]
    exact hstep.other (hw _ List.mem_cons_self).symm

theorem Step.value_eq (hs : Step ident replace f k v g) (hf : Distinct ident f)
    (hrep : ∀ v w, ¬ replace v w → v = w) {l : K} {w : V} (hl : g l = some w)
    (hid : ident w = ident v) : w = v := by
  cases hs with
  | add hnew =>
    rcases place_eq_some hl with hl | ⟨-, -, rfl⟩
    · exact absurd ⟨l, w, hl, hid⟩ hnew
    · rfl
  | @keep l' w' hl' hid' hkept =>
    obtain rfl := hf l l' w w' hl hl' (hid.trans hid'.symm)
    obtain rfl := Option.some.inj (hl.symm.trans hl')
    exact (hrep v w hkept).symm
  | @move l' w' hl' hid' _ =>
    rcases place_eq_some hl with hl | ⟨-, -, rfl⟩
    · obtain ⟨hne, hl⟩ := drop_eq_some.mp hl
      exact absurd (hf l l' w w' hl hl' (hid.trans hid'.symm)) hne
    · rfl

/-- Where every value that differs replaces, a stored value with a merged identity is the merged
one. -/
theorem Steps.value_eq {src : List (K × V)} (hs : Steps ident replace f src g)
    (hf : Distinct ident f) (hids : (src.map fun e => ident e.2).Nodup)
    (hrep : ∀ v w, ¬ replace v w → v = w) {e : K × V} (he : e ∈ src) {l : K} {w : V}
    (hl : g l = some w) (hid : ident w = ident e.2) : w = e.2 := by
  induction hs with
  | nil => cases he
  | @cons f f' g k v rest hstep hrest ih =>
    obtain ⟨hi, hids⟩ := List.nodup_cons.mp hids
    rcases List.mem_cons.mp he with rfl | he
    · refine hstep.value_eq hf hrep ((hrest.other fun e he => ?_).mp hl) hid
      rw [hid]
      exact fun heq => hi (List.mem_map.mpr ⟨e, he, heq⟩)
    · exact ih (hstep.distinct hf) hids he hl

theorem Step.unique (hs : Step ident replace f k v g) (ht : Step ident replace f k v h)
    (hf : Distinct ident f) : g = h := by
  have hsame : ∀ l l' w w', f l = some w → ident w = ident v → f l' = some w' →
      ident w' = ident v → l = l' ∧ w = w' := by
    intro l l' w w' hw hid hw' hid'
    obtain rfl := hf l l' w w' hw hw' (hid.trans hid'.symm)
    exact ⟨rfl, Option.some.inj (hw.symm.trans hw')⟩
  cases hs with
  | add hnew =>
    cases ht with
    | add _ => rfl
    | keep hl hid _ => exact absurd ⟨_, _, hl, hid⟩ hnew
    | move hl hid _ => exact absurd ⟨_, _, hl, hid⟩ hnew
  | keep hl hid hkept =>
    cases ht with
    | add hnew => exact absurd ⟨_, _, hl, hid⟩ hnew
    | keep _ _ _ => rfl
    | move hl' hid' hrep =>
      obtain ⟨-, rfl⟩ := hsame _ _ _ _ hl hid hl' hid'
      exact absurd hrep hkept
  | move hl hid hrep =>
    cases ht with
    | add hnew => exact absurd ⟨_, _, hl, hid⟩ hnew
    | keep hl' hid' hkept =>
      obtain ⟨-, rfl⟩ := hsame _ _ _ _ hl hid hl' hid'
      exact absurd hrep hkept
    | move hl' hid' _ =>
      obtain ⟨rfl, -⟩ := hsame _ _ _ _ hl hid hl' hid'
      rfl

/-- What a merge makes of a store is determined. -/
theorem Steps.unique {src : List (K × V)} (hs : Steps ident replace f src g)
    (ht : Steps ident replace f src h) (hf : Distinct ident f) : g = h := by
  induction hs with
  | nil =>
    cases ht
    rfl
  | cons hstep _ ih =>
    cases ht with
    | cons hstep' hrest' =>
      obtain rfl := hstep.unique hstep' hf
      exact ih hrest' (hstep.distinct hf)

theorem Steps.key_mem {src : List (K × V)} (hs : Steps ident replace f src g) {l : K} {w : V}
    (hl : g l = some w) : (∃ x, f l = some x) ∨ ∃ e ∈ src, e.1 = l := by
  induction hs with
  | nil => exact Or.inl ⟨w, hl⟩
  | @cons f f' g k v rest hstep _ ih =>
    rcases ih hl with ⟨x, hx⟩ | ⟨e, he, hel⟩
    · have hplace : ∀ f₀ : Store K V, (∀ a y, f₀ a = some y → f a = some y) →
          place f₀ k v l = some x → (∃ x, f l = some x) ∨ ∃ e ∈ (k, v) :: rest, e.1 = l := by
        intro f₀ hf₀ hp
        rcases place_eq_some hp with hp | ⟨-, rfl, -⟩
        · exact Or.inl ⟨x, hf₀ l x hp⟩
        · exact Or.inr ⟨_, List.mem_cons_self, rfl⟩
      cases hstep with
      | add _ => exact hplace f (fun _ _ h => h) hx
      | keep _ _ _ => exact Or.inl ⟨x, hx⟩
      | move _ _ _ => exact hplace _ (fun _ _ h => (drop_eq_some.mp h).2) hx
    · exact Or.inr ⟨e, List.mem_cons_of_mem _ he, hel⟩

theorem Steps.all {P : K → V → Prop} {src : List (K × V)} (hs : Steps ident replace f src g)
    (hf : ∀ l w, f l = some w → P l w) (hsrc : ∀ e ∈ src, P e.1 e.2) :
    ∀ l w, g l = some w → P l w := by
  induction hs with
  | nil => exact hf
  | @cons f f' g k v rest hstep _ ih =>
    refine ih (fun l w hw => ?_) fun e he => hsrc e (List.mem_cons_of_mem _ he)
    have hv : P k v := hsrc (k, v) List.mem_cons_self
    cases hstep with
    | add _ =>
      rcases place_eq_some hw with hw | ⟨-, rfl, rfl⟩
      · exact hf l w hw
      · exact hv
    | keep _ _ _ => exact hf l w hw
    | move _ _ _ =>
      rcases place_eq_some hw with hw | ⟨-, rfl, rfl⟩
      · exact hf l w (drop_eq_some.mp hw).2
      · exact hv

/-- The first of the values with its identity whose key is free, if the identity is not held. -/
def Joins (ident : V → I) (f : Store K V) (src : List (K × V)) (l : K) (w : V) : Prop :=
  f l = none ∧ ¬ Holds ident f (ident w) ∧ ∃ before after, src = before ++ (l, w) :: after ∧
    ∀ e ∈ before, ident e.2 = ident w → f e.1 ≠ none

omit [DecidableEq K] in
theorem joins_cons_of_idle {rest : List (K × V)} (hv : Holds ident f (ident v) ∨ f k ≠ none)
    {l : K} {w : V} : Joins ident f ((k, v) :: rest) l w ↔ Joins ident f rest l w := by
  constructor
  · rintro ⟨hl, hw, before, after, hsplit, hbefore⟩
    cases before with
    | nil =>
      obtain ⟨hkv, -⟩ := List.cons.inj hsplit
      obtain ⟨rfl, rfl⟩ := Prod.mk.inj hkv
      exact (hv.elim hw fun h => h hl).elim
    | cons e before =>
      obtain ⟨-, rfl⟩ := List.cons.inj hsplit
      exact ⟨hl, hw, before, after, rfl, fun e he => hbefore e (List.mem_cons_of_mem _ he)⟩
  · rintro ⟨hl, hw, before, after, rfl, hbefore⟩
    refine ⟨hl, hw, (k, v) :: before, after, rfl, fun e he hid => ?_⟩
    rcases List.mem_cons.mp he with rfl | he
    · exact hv.elim (fun h => absurd (hid ▸ h) hw) id
    · exact hbefore e he hid

theorem joins_cons_of_placed {rest : List (K × V)} (hk : f k = none)
    (hv : ¬ Holds ident f (ident v)) (hkeys : ∀ e ∈ rest, e.1 ≠ k) {l : K} {w : V} :
    Joins ident f ((k, v) :: rest) l w ↔
      l = k ∧ w = v ∨ Joins ident (Function.update f k (some v)) rest l w := by
  have hself : Function.update f k (some v) k = some v := Function.update_self ..
  have hne : ∀ a, a ≠ k → Function.update f k (some v) a = f a := fun a ha =>
    Function.update_of_ne ha ..
  constructor
  · rintro ⟨hl, hw, before, after, hsplit, hbefore⟩
    cases before with
    | nil =>
      obtain ⟨hkv, -⟩ := List.cons.inj hsplit
      obtain ⟨rfl, rfl⟩ := Prod.mk.inj hkv
      exact Or.inl ⟨rfl, rfl⟩
    | cons e before =>
      obtain ⟨rfl, rfl⟩ := List.cons.inj hsplit
      have hvw : ident v ≠ ident w := fun h => hbefore (k, v) List.mem_cons_self h hk
      have hlk := hkeys (l, w) (by simp)
      refine Or.inr ⟨(hne l hlk).trans hl, ?_, before, after, rfl, fun e he hid => ?_⟩
      · rintro ⟨a, x, hx, hid⟩
        by_cases ha : a = k
        · subst ha
          rw [hself] at hx
          exact hvw (Option.some.inj hx ▸ hid)
        · rw [hne a ha] at hx
          exact hw ⟨a, x, hx, hid⟩
      · rw [hne e.1 (hkeys e (by simp [he]))]
        exact hbefore e (List.mem_cons_of_mem _ he) hid
  · rintro (⟨rfl, rfl⟩ | ⟨hl, hw, before, after, rfl, hbefore⟩)
    · exact ⟨hk, hv, [], rest, rfl, fun _ he => by cases he⟩
    · have hlk := hkeys (l, w) (by simp)
      have hvw : ident v ≠ ident w := fun h => hw ⟨k, v, hself, h⟩
      refine ⟨(hne l hlk).symm.trans hl, ?_, (k, v) :: before, after, rfl, fun e he hid => ?_⟩
      · rintro ⟨a, x, hx, hid⟩
        have ha : a ≠ k := by
          rintro rfl
          rw [hk] at hx
          cases hx
        exact hw ⟨a, x, (hne a ha).trans hx, hid⟩
      · rcases List.mem_cons.mp he with rfl | he
        · exact absurd hid hvw
        · rw [← hne e.1 (hkeys e (by simp [he]))]
          exact hbefore e he hid

/-- What a merge that replaces nothing leaves in the store. -/
theorem Steps.joined_iff {src : List (K × V)} (hs : Steps ident replace f src g)
    (hrep : ∀ v w, ¬ replace v w) (hkeys : (src.map Prod.fst).Nodup) {l : K} {w : V} :
    g l = some w ↔ f l = some w ∨ Joins ident f src l w := by
  induction hs with
  | nil => simp [Joins]
  | @cons f f' g k v rest hstep _ ih =>
    obtain ⟨hk, hkeys⟩ := List.nodup_cons.mp hkeys
    have hk' : ∀ e ∈ rest, e.1 ≠ k := fun e he heq => hk (List.mem_map.mpr ⟨e, he, heq⟩)
    rw [ih hkeys]
    cases hstep with
    | add hnew =>
      cases hfk : f k with
      | some x =>
        rw [place_of_taken hfk, joins_cons_of_idle (Or.inr (by simp [hfk]))]
      | none =>
        rw [place_of_free hfk, joins_cons_of_placed hfk hnew hk', ← or_assoc]
        refine or_congr ?_ Iff.rfl
        by_cases hl : l = k
        · subst hl
          simp [hfk, eq_comm]
        · simp [hl]
    | keep hl hid _ => rw [joins_cons_of_idle (Or.inl ⟨_, _, hl, hid⟩)]
    | move _ _ hr => exact absurd hr (hrep _ _)

/-! ## Where a merge puts its values -/

def HeldAt (ident : V → I) (f : Store K V) (i : I) (l : K) : Prop := ∃ w, f l = some w ∧ ident w = i

/-- A value whose turn comes after those of `before` finds its key free or used by itself. -/
def Cleared (ident : V → I) (f : Store K V) (before : List (K × V)) (k : K) (v : V) : Prop :=
  ∀ w, f k = some w → ident w = ident v ∨ ∃ e ∈ before, ident e.2 = ident w

/-- A stored value that is not replaced is under the key of the value that matches it. -/
def KeptInPlace (ident : V → I) (replace : V → V → Prop) (f : Store K V) (k : K) (v : V) : Prop :=
  ∀ l w, f l = some w → ident w = ident v → ¬ replace v w → l = k

theorem Step.heldAt_self (hs : Step ident replace f k v g) (hf : Distinct ident f)
    (hkept : KeptInPlace ident replace f k v) {l : K} :
    HeldAt ident g (ident v) l ↔ l = k ∧ FreeFor ident f k v := by
  have hplace : ∀ l, HeldAt ident g (ident v) l → l = k := by
    rintro l ⟨w, hw, hid⟩
    by_contra hl
    obtain ⟨hfl, hnot⟩ := hs.kept hf hl hid hw
    exact hl (hkept l w hfl hid fun hrep => hnot ⟨l, w, hfl, hid, hrep⟩)
  constructor
  · intro h
    have hl := hplace l h
    obtain ⟨w, hw, hid⟩ := h
    refine ⟨hl, fun x hx => ?_⟩
    have hfree := (hs.holds_self hf).mp ⟨l, w, hw, hid⟩
    by_cases hplaced : ¬ Holds ident f (ident v) ∨ Replaces ident replace f v
    · exact hfree hplaced x hx
    · obtain ⟨hholds, hnot⟩ := not_or.mp hplaced
      obtain ⟨a, y, hy, hyid⟩ := not_not.mp hholds
      have ha : a = k := hkept a y hy hyid fun hrep => hnot ⟨a, y, hy, hyid, hrep⟩
      subst ha
      obtain rfl := Option.some.inj (hx.symm.trans hy)
      exact hyid
  · rintro ⟨rfl, hfree⟩
    obtain ⟨a, w, hw, hid⟩ := (hs.holds_self hf).mpr fun _ => hfree
    exact hplace a ⟨w, hw, hid⟩ ▸ ⟨w, hw, hid⟩

theorem cleared_cons (hs : Step ident replace f k v g) (hf : Distinct ident f)
    (hkept : KeptInPlace ident replace f k v) {before : List (K × V)} {k' : K} {v' : V}
    (hk : k' ≠ k) :
    Cleared ident g before k' v' ↔ Cleared ident f ((k, v) :: before) k' v' := by
  constructor
  · intro h w hw
    by_cases hid : ident w = ident v
    · exact Or.inr ⟨(k, v), List.mem_cons_self, hid.symm⟩
    · rcases h w ((hs.other hid).mpr hw) with h | ⟨e, he, heq⟩
      · exact Or.inl h
      · exact Or.inr ⟨e, List.mem_cons_of_mem _ he, heq⟩
  · intro h w hw
    have hid : ident w ≠ ident v := by
      intro hid
      obtain ⟨hfk, hnot⟩ := hs.kept hf hk hid hw
      exact hk (hkept k' w hfk hid fun hrep => hnot ⟨k', w, hfk, hid, hrep⟩)
    rcases h w ((hs.other hid).mp hw) with h | ⟨e, he, heq⟩
    · exact Or.inl h
    · rcases List.mem_cons.mp he with rfl | he
      · exact absurd heq.symm hid
      · exact Or.inr ⟨e, he, heq⟩

/-- **A merged value ends under its key exactly when the key is cleared before its turn.** -/
theorem Steps.heldAt_iff {src before after : List (K × V)} (hs : Steps ident replace f src g)
    (hf : Distinct ident f) (hkeys : (src.map Prod.fst).Nodup)
    (hids : (src.map fun e => ident e.2).Nodup)
    (hkept : ∀ e ∈ src, KeptInPlace ident replace f e.1 e.2)
    (hsplit : src = before ++ (k, v) :: after) {l : K} :
    HeldAt ident g (ident v) l ↔ l = k ∧ Cleared ident f before k v := by
  induction hs generalizing before with
  | nil => simp at hsplit
  | @cons f f' g k₀ v₀ rest hstep hrest ih =>
    obtain ⟨hk, hkeys⟩ := List.nodup_cons.mp hkeys
    obtain ⟨hi, hids⟩ := List.nodup_cons.mp hids
    have hi' : ∀ e ∈ rest, ident e.2 ≠ ident v₀ := fun e he heq =>
      hi (List.mem_map.mpr ⟨e, he, heq⟩)
    have hkept₀ := hkept _ List.mem_cons_self
    cases before with
    | nil =>
      obtain ⟨hkv, rfl⟩ := List.cons.inj hsplit
      obtain ⟨rfl, rfl⟩ := Prod.mk.inj hkv
      have hsame : HeldAt ident g (ident v₀) l ↔ HeldAt ident f' (ident v₀) l := by
        refine exists_congr fun w => and_congr_left fun hid => ?_
        exact hrest.other fun e he => hid ▸ hi' e he
      rw [hsame, hstep.heldAt_self hf hkept₀]
      simp [Cleared, FreeFor]
    | cons e before =>
      obtain ⟨rfl, rfl⟩ := List.cons.inj hsplit
      have hmem : (k, v) ∈ before ++ (k, v) :: after := by simp
      have hkne : k ≠ k₀ := fun h => hk (List.mem_map.mpr ⟨_, hmem, h⟩)
      rw [ih (hstep.distinct hf) hkeys hids ?_ rfl, cleared_cons hstep hf hkept₀ hkne]
      intro e he l w hw hid
      have hne : ident w ≠ ident v₀ := hid ▸ hi' e he
      exact hkept e (List.mem_cons_of_mem _ he) l w ((hstep.other hne).mp hw) hid

end

end KeyedMerge
