import Fancon.Lib.UnorderedMap

/-! # Maps that are filled from a list

A map is filled from a list of objects, each under the key it carries, while it is an id that
tells the objects apart. Of the objects with one key the map is left with the last if it assigns
and with the first if it emplaces, so that every id stays exactly if no two keys are the same.
-/
set_option autoImplicit false
set_option maxHeartbeats 250000
set_option maxRecDepth 120000

namespace KeyedInserts

variable {K V I : Type} {key : V → K} {id : V → I}

/-! ## The last object with its key -/

/-- `y` comes after every other object with its key. -/
def LastOf (key : V → K) (xs : List V) (y : V) : Prop :=
  ∃ before after, xs = before ++ y :: after ∧ ∀ z ∈ after, key z ≠ key y

theorem LastOf.mem {xs : List V} {y : V} (h : LastOf key xs y) : y ∈ xs := by
  obtain ⟨before, after, rfl, -⟩ := h
  exact List.mem_append_right _ List.mem_cons_self

variable [DecidableEq K]

def assignAll (key : V → K) (xs : List V) (m : UnorderedMap K V) : UnorderedMap K V :=
  xs.foldl (fun m x => m.insertOrAssign (key x) x) m

theorem assignAll_append (xs ys : List V) (m : UnorderedMap K V) :
    assignAll key (xs ++ ys) m = assignAll key ys (assignAll key xs m) := List.foldl_append

/-- A loop whose turns assign lists assigns the lists in their order. -/
theorem foldl_assignAll {σ α : Type} {step : σ → α → σ} (view : σ → UnorderedMap K V)
    {f : α → List V} (h : ∀ s a, view (step s a) = assignAll key (f a) (view s)) (s : σ)
    (as : List α) : view (as.foldl step s) = assignAll key (as.flatMap f) (view s) := by
  induction as generalizing s with
  | nil => rfl
  | cons a as ih => rw [List.foldl_cons, ih, h, List.flatMap_cons, assignAll_append]

def Holds (id : V → I) (m : UnorderedMap K V) (i : I) : Prop := ∃ k y, m.find? k = some y ∧ id y = i

end KeyedInserts
