import Mathlib

/-! # Counting threads

Of any number of threads only finitely many are at the places that matter. `Count p threads n` says
that `n` threads are at a place with `p`; a thread that moves changes the count by whether it
enters or leaves such places.
-/
set_option autoImplicit false
set_option maxHeartbeats 250000
set_option maxRecDepth 120000

namespace ThreadCount

variable {ι π : Type} [DecidableEq ι] {p : π → Prop} {threads : ι → π} {n : ℕ} {i : ι} {pc : π}

def Count (p : π → Prop) (threads : ι → π) (n : ℕ) : Prop :=
  ∃ at_ : Finset ι, at_.card = n ∧ ∀ i, i ∈ at_ ↔ p (threads i)

omit [DecidableEq ι] in
theorem count_none (h : ∀ i, ¬ p (threads i)) : Count p threads 0 :=
  ⟨∅, rfl, fun i => ⟨fun hi => absurd hi (Finset.notMem_empty i), fun hi => absurd hi (h i)⟩⟩

omit [DecidableEq ι] in
theorem Count.eq_zero_iff (h : Count p threads n) : n = 0 ↔ ∀ i, ¬ p (threads i) := by
  obtain ⟨at_, rfl, hat⟩ := h
  rw [Finset.card_eq_zero, Finset.eq_empty_iff_forall_notMem]
  exact forall_congr' fun i => not_congr (hat i)

omit [DecidableEq ι] in
theorem Count.pos (h : Count p threads n) (hi : p (threads i)) : 0 < n :=
  Nat.pos_of_ne_zero fun hn => h.eq_zero_iff.mp hn i hi

theorem Count.stays (h : Count p threads n) (hi : p pc ↔ p (threads i)) :
    Count p (Function.update threads i pc) n := by
  obtain ⟨at_, hcard, hat⟩ := h
  refine ⟨at_, hcard, fun j => ?_⟩
  by_cases hj : j = i
  · subst hj
    rw [Function.update_self, hi]
    exact hat j
  · rw [Function.update_of_ne hj]
    exact hat j

theorem Count.enters (h : Count p threads n) (hi : ¬ p (threads i)) (hpc : p pc) :
    Count p (Function.update threads i pc) (n + 1) := by
  obtain ⟨at_, rfl, hat⟩ := h
  refine ⟨insert i at_, Finset.card_insert_of_notMem fun hmem => hi ((hat i).mp hmem),
    fun j => ?_⟩
  rw [Finset.mem_insert]
  by_cases hj : j = i
  · subst hj
    rw [Function.update_self]
    exact ⟨fun _ => hpc, fun _ => Or.inl rfl⟩
  · rw [Function.update_of_ne hj, ← hat j]
    exact ⟨fun h => h.resolve_left hj, Or.inr⟩

theorem Count.leaves (h : Count p threads (n + 1)) (hi : p (threads i)) (hpc : ¬ p pc) :
    Count p (Function.update threads i pc) n := by
  obtain ⟨at_, hcard, hat⟩ := h
  refine ⟨at_.erase i, ?_, fun j => ?_⟩
  · rw [Finset.card_erase_of_mem ((hat i).mpr hi), hcard, Nat.add_sub_cancel]
  · rw [Finset.mem_erase]
    by_cases hj : j = i
    · subst hj
      rw [Function.update_self]
      exact ⟨fun h => absurd rfl h.1, fun h => absurd h hpc⟩
    · rw [Function.update_of_ne hj, ← hat j]
      exact ⟨And.right, fun h => ⟨hj, h⟩⟩

end ThreadCount
