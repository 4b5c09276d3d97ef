import Mathlib

/-! # Shared mutexes

A shared mutex is held for writing by one thread or for reading by any number of them. What a
thread holds is its mode; `Fits` says that a mutex knows at least of the threads that hold it, and
every operation keeps it.
-/
set_option autoImplicit false
set_option maxHeartbeats 250000
set_option maxRecDepth 120000

namespace SharedMutex

inductive Mode
  | free
  | read
  | write
deriving DecidableEq

structure Lock (T : Type) where
  writer : Option T := none
  readers : Finset T := ∅

variable {T : Type} [DecidableEq T]

/-! ## Operations; one that has to wait gives nothing -/

def Lock.lockRead (m : Lock T) (t : T) : Option (Lock T) :=
  if m.writer = none then some { m with readers := insert t m.readers } else none

def Lock.lockWrite (m : Lock T) (t : T) : Option (Lock T) :=
  if m.writer = none ∧ m.readers = ∅ then some { m with writer := some t } else none

def Lock.unlockRead (m : Lock T) (t : T) : Lock T := { m with readers := m.readers.erase t }

def Lock.unlockWrite (m : Lock T) : Lock T := { m with writer := none }

/-! ## Exclusion -/

/-- The mutex knows of every thread that holds it, and not of readers next to a writer. -/
structure Fits (mode : T → Mode) (m : Lock T) : Prop where
  reads : ∀ t, mode t = .read → t ∈ m.readers
  writes : ∀ t, mode t = .write → m.writer = some t
  exclusive : m.writer ≠ none → m.readers = ∅

variable {mode : T → Mode} {m m' : Lock T} {t u : T}

omit [DecidableEq T] in
theorem fits_free : Fits (fun _ : T => Mode.free) {} := ⟨nofun, nofun, fun _ => rfl⟩

theorem of_update {a b : Mode} (hu : Function.update mode t a u = b) (hba : b ≠ a) :
    u ≠ t ∧ mode u = b := by
  have hut : u ≠ t := by
    rintro rfl
    rw [Function.update_self] at hu
    exact hba hu.symm
  rw [Function.update_of_ne hut] at hu
  exact ⟨hut, hu⟩

theorem Fits.lockRead (h : Fits mode m) (hl : m.lockRead t = some m') :
    Fits (Function.update mode t .read) m' := by
  unfold Lock.lockRead at hl
  split_ifs at hl with hw
  obtain rfl := Option.some.inj hl
  refine ⟨fun u hu => ?_, fun u hu => ?_, fun hne => absurd hw hne⟩
  · by_cases hut : u = t
    · exact Finset.mem_insert.mpr (Or.inl hut)
    · rw [Function.update_of_ne hut] at hu
      exact Finset.mem_insert_of_mem (h.reads u hu)
  · exact h.writes u (of_update hu nofun).2

theorem Fits.lockWrite (h : Fits mode m) (hl : m.lockWrite t = some m') :
    Fits (Function.update mode t .write) m' := by
  unfold Lock.lockWrite at hl
  split_ifs at hl with hw
  obtain rfl := Option.some.inj hl
  refine ⟨fun u hu => h.reads u (of_update hu nofun).2, fun u hu => ?_, fun _ => hw.2⟩
  by_cases hut : u = t
  · rw [hut]
  · rw [Function.update_of_ne hut] at hu
    have hwriter := h.writes u hu
    rw [hw.1] at hwriter
    cases hwriter

theorem Fits.drop (h : Fits mode m) (t : T) : Fits (Function.update mode t .free) m :=
  ⟨fun u hu => h.reads u (of_update hu nofun).2, fun u hu => h.writes u (of_update hu nofun).2,
    h.exclusive⟩

theorem Fits.unlockRead (h : Fits mode m) (t : T) :
    Fits (Function.update mode t .free) (m.unlockRead t) := by
  refine ⟨fun u hu => ?_, (h.drop t).writes, fun hne => ?_⟩
  · obtain ⟨hut, hu⟩ := of_update hu nofun
    exact Finset.mem_erase.mpr ⟨hut, h.reads u hu⟩
  · rw [Lock.unlockRead, h.exclusive hne, Finset.erase_empty]

omit [DecidableEq T] in
theorem Fits.writer_unique (h : Fits mode m) (ht : mode t = .write) (hu : mode u = .write) :
    t = u := Option.some.inj ((h.writes t ht).symm.trans (h.writes u hu))

theorem Fits.unlockWrite (h : Fits mode m) (ht : mode t = .write) :
    Fits (Function.update mode t .free) m.unlockWrite := by
  refine ⟨(h.drop t).reads, fun u hu => ?_, fun hne => absurd rfl hne⟩
  obtain ⟨hut, hu⟩ := of_update hu nofun
  exact absurd (h.writer_unique hu ht) hut

omit [DecidableEq T] in
theorem Fits.writer_eq_none (h : Fits mode m) (ht : mode t = .read) : m.writer = none := by
  by_contra hw
  have hmem := h.reads t ht
  rw [h.exclusive hw] at hmem
  cases hmem

/-! ## Moves of a thread -/

/-- What a thread does with the mutex in a step, where it holds it as `a` before and as `b`
after. -/
inductive Moves (t : T) (m : Lock T) : Mode → Mode → Lock T → Prop
  | stay {a : Mode} : Moves t m a a m
  | lockWrite {m' : Lock T} : m.lockWrite t = some m' → Moves t m .free .write m'
  | unlockWrite : Moves t m .write .free m.unlockWrite

theorem Fits.moves {a b : Mode} (h : Fits mode m) (ht : mode t = a) (hm : Moves t m a b m') :
    Fits (Function.update mode t b) m' := by
  cases hm with
  | stay =>
    rw [← ht, Function.update_eq_self]
    exact h
  | lockWrite hl => exact h.lockWrite hl
  | unlockWrite => exact h.unlockWrite ht

/-- The mutex is locked for writing only by a thread that knows of it. -/
def Known (mode : T → Mode) (m : Lock T) : Prop := ∀ t, m.writer = some t → mode t = .write

theorem Known.moves {a b : Mode} (h : Known mode m) (ht : mode t = a) (hm : Moves t m a b m') :
    Known (Function.update mode t b) m' := by
  cases hm with
  | stay =>
    rw [← ht, Function.update_eq_self]
    exact h
  | lockWrite hl =>
    unfold Lock.lockWrite at hl
    split_ifs at hl
    obtain rfl := Option.some.inj hl
    intro u hu
    obtain rfl := Option.some.inj hu
    exact Function.update_self ..
  | unlockWrite => exact nofun

theorem Fits.lockWrite_eq_none (h : Fits mode m) (ht : mode t = .write) : m.lockWrite u = none := by
  unfold Lock.lockWrite
  rw [h.writes t ht]
  rfl

end SharedMutex
