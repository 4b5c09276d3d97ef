import Mathlib

/-! # Nearest elements of a list

Nearest is what has the least distance, in any linear order of distances. A list that first comes
nearer and then goes away has its nearest element where the two parts meet.
-/
set_option autoImplicit false
set_option maxHeartbeats 250000
set_option maxRecDepth 120000

namespace Nearest

variable {α β : Type} [LinearOrder β] {dist : α → β} {l r : List α} {a b : α}

def IsNearest (dist : α → β) (l : List α) (a : α) : Prop := a ∈ l ∧ ∀ b ∈ l, dist a ≤ dist b

theorem IsNearest.unique (ha : IsNearest dist l a) (hb : IsNearest dist l b)
    (hinj : dist a = dist b → a = b) : a = b :=
  hinj (le_antisymm (ha.2 b hb.1) (hb.2 a ha.1))

theorem isNearest_getLast (h : l.Pairwise fun x y => dist y ≤ dist x) (ha : l.getLast? = some a) :
    IsNearest dist l a := by
  obtain ⟨init, rfl⟩ := List.getLast?_eq_some_iff.mp ha
  refine ⟨List.mem_append_right _ List.mem_cons_self, fun b hb => ?_⟩
  rcases List.mem_append.mp hb with hb | hb
  · exact (List.pairwise_append.mp h).2.2 b hb a List.mem_cons_self
  · rw [List.mem_singleton.mp hb]

theorem isNearest_cons (h : (a :: l).Pairwise fun x y => dist x ≤ dist y) :
    IsNearest dist (a :: l) a := by
  refine ⟨List.mem_cons_self, fun b hb => ?_⟩
  rcases List.mem_cons.mp hb with rfl | hb
  · exact le_rfl
  · exact (List.pairwise_cons.mp h).1 b hb

theorem IsNearest.append_left (ha : IsNearest dist l a) (hb : IsNearest dist r b)
    (h : dist a ≤ dist b) : IsNearest dist (l ++ r) a := by
  refine ⟨List.mem_append_left _ ha.1, fun c hc => ?_⟩
  rcases List.mem_append.mp hc with hc | hc
  · exact ha.2 c hc
  · exact h.trans (hb.2 c hc)

theorem IsNearest.append_right (ha : IsNearest dist l a) (hb : IsNearest dist r b)
    (h : dist b ≤ dist a) : IsNearest dist (l ++ r) b := by
  refine ⟨List.mem_append_right _ hb.1, fun c hc => ?_⟩
  rcases List.mem_append.mp hc with hc | hc
  · exact h.trans (ha.2 c hc)
  · exact hb.2 c hc

end Nearest
