import Mathlib

/-! # Who waits for whom

Threads that each wait for the next one around a circle are in a deadlock. The relation stays
without a circle while new edges only leave a thread that no edge enters.
-/
set_option autoImplicit false
set_option maxHeartbeats 250000
set_option maxRecDepth 120000

namespace WaitGraph

open Relation

variable {α : Type} {r w : α → α → Prop}

def Acyclic (r : α → α → Prop) : Prop := ∀ a, ¬ TransGen r a a

theorem Acyclic.mono (h : Acyclic r) (hle : ∀ a b, w a b → r a b) : Acyclic w :=
  fun a hcycle => h a (TransGen.mono hle a a hcycle)

/-- The edges that are new leave `n`, which none enters. -/
theorem Acyclic.add_source {n : α} (h : Acyclic r) (henters : ∀ a, ¬ w a n)
    (hold : ∀ a b, a ≠ n → w a b → r a b) : Acyclic w := by
  have hne : ∀ a b, TransGen w a b → b ≠ n := by
    rintro a b hab rfl
    cases hab with
    | single h => exact henters a h
    | tail _ h => exact henters _ h
  have hback : ∀ a b, a ≠ n → TransGen w a b → TransGen r a b := by
    intro a b ha hab
    induction hab with
    | single h => exact .single (hold a _ ha h)
    | tail hbefore h ih => exact .tail ih (hold _ _ (hne a _ hbefore) h)
  intro a hcycle
  exact h a (hback a a (hne a a hcycle) hcycle)

/-- Only edges that lead on from an edge and on to another can be on a circle. -/
theorem acyclic_of_inner (h : Acyclic r)
    (hinner : ∀ a b, w a b → (∃ c, w c a) → (∃ c, w b c) → r a b) : Acyclic w := by
  have hpath : ∀ a b, TransGen w a b → (∃ c, w c a) → (∃ c, w b c) → TransGen r a b := by
    intro a b hab hinto honward
    induction hab with
    | single h => exact .single (hinner a _ h hinto honward)
    | @tail b d hbefore h ih =>
      have hbetween : ∃ c, w c b := by
        cases hbefore with
        | single h' => exact ⟨a, h'⟩
        | tail _ h' => exact ⟨_, h'⟩
      exact .tail (ih ⟨_, h⟩) (hinner _ _ h hbetween honward)
  intro a hcycle
  have hleaves : ∃ c, w a c := by
    obtain ⟨c, hac, -⟩ := TransGen.head'_iff.mp hcycle
    exact ⟨c, hac⟩
  have henters : ∃ c, w c a := by
    obtain ⟨c, -, hca⟩ := TransGen.tail'_iff.mp hcycle
    exact ⟨c, hca⟩
  exact h a (hpath a a hcycle henters hleaves)

end WaitGraph
