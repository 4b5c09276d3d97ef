import Fancon.Lib.ThreadCount
import Fancon.Lib.Transition

/-! # The lock of an observer list

`device_observers` and `status_observers` have a `RemovableMutex` each. Its counter is positive
while notifiers iterate and negative while a subscriber removes itself. Both sides look at the
counter first and change it in a second step, and the removal lock is a temporary that is gone
before `erase` is called. So a notifier may iterate while an observer is erased; it does not if
what was seen of the counter still holds when it is changed, and no notifier starts between the end
of the removal lock and that of the `erase` (`removal_excludes`).
-/
set_option autoImplicit false
set_option maxHeartbeats 250000
set_option maxRecDepth 120000

namespace Fancon

open ThreadCount

/-! ## Threads -/

/-- Where a thread is in a call that notifies the observers, or in a subscription. `load` and
`removalLoad` are about to look at the counter, `loaded` and `removalLoaded` have seen that they may
go on. -/
inductive ObserverPc
  | idle
  | load
  | loaded
  | iterating (called : ℕ)
  | subscribed
  | removalLoad
  | removalLoaded
  | removalHeld
  | unguarded
  | erasing
deriving DecidableEq

/-- The observers of a list are known by the threads of their subscriptions. -/
structure ObserverState where
  counter : ℤ := 0
  observers : List ℕ := []
  threads : ℕ → ObserverPc := fun _ => .idle

namespace ObserverState

def goto (s : ObserverState) (n : ℕ) (pc : ObserverPc) : ObserverState :=
  { s with threads := Function.update s.threads n pc }

/-- `ScopedCounter`, when it is made and when it goes out of scope. -/
def count (s : ObserverState) (change : ℤ) : ObserverState :=
  { s with counter := s.counter + change }

/-- The next step of the thread `n`. -/
def threadStep (s : ObserverState) (n : ℕ) : Option ObserverState :=
  match s.threads n with
  | .idle | .subscribed => none
  | .load => some (if s.counter < 0 then s else s.goto n .loaded)
  | .loaded => some ((s.count 1).goto n (.iterating 0))
  | .iterating called =>
    if called < s.observers.length then some (s.goto n (.iterating (called + 1)))
    else some ((s.count (-1)).goto n .idle)
  | .removalLoad => some (if s.counter > 0 then s else s.goto n .removalLoaded)
  | .removalLoaded => some ((s.count (-1)).goto n .removalHeld)
  -- nothing keeps the result of `acquire_removal_lock`, whose destructor runs at once
  | .removalHeld => some ((s.count 1).goto n .unguarded)
  | .unguarded => some (s.goto n .erasing)
  | .erasing => some ({ s with observers := s.observers.erase n }.goto n .idle)

end ObserverState

inductive ObserverAction
  | notify (n : ℕ)
  | subscribe (n : ℕ)
  | cancel (n : ℕ)
  | thread (n : ℕ)

def ObserverState.next (s : ObserverState) : ObserverAction → Option ObserverState
  | .notify n =>
    if s.threads n = .idle then some (if s.observers.isEmpty then s else s.goto n .load) else none
  | .subscribe n =>
    if s.threads n = .idle then
      some ({ s with observers := s.observers ++ [n] }.goto n .subscribed)
    else none
  | .cancel n => if s.threads n = .subscribed then some (s.goto n .removalLoad) else none
  | .thread n => s.threadStep n

def observerSystem : Transition.System ObserverState ObserverAction :=
  Transition.ofStep {} ObserverState.next

/-! ## What is claimed -/

def ObserverPc.Iterates (pc : ObserverPc) : Prop := ∃ called, pc = .iterating called

/-- A thread iterates over the observers while another erases one of them. -/
def ErasesInUse (s : ObserverState) : Prop :=
  ∃ m n, (s.threads m).Iterates ∧ s.threads n = .erasing

/-- The removal lock of the thread is gone and its `erase` has not returned. -/
def ObserverPc.Removes (pc : ObserverPc) : Prop := pc = .unguarded ∨ pc = .erasing

/-- What a thread saw of the counter holds when it changes it, and a notifier does not start while
an observer is removed. -/
def StillGuarded (s : ObserverState) : ObserverAction → Prop
  | .thread n =>
    match s.threads n with
    | .loaded => 0 ≤ s.counter ∧ ∀ m, ¬ (s.threads m).Removes
    | .removalLoaded => s.counter ≤ 0
    | _ => True
  | .notify _ | .subscribe _ | .cancel _ => True

/-! ## What the counter counts -/

namespace ObserverState

variable {s s' : ObserverState}

/-- The counter is the number of iterating threads less that of removal locks, and nothing is
removed while a thread iterates. -/
structure Guards (s : ObserverState) (iterating removing : ℕ) : Prop where
  iterates : Count ObserverPc.Iterates s.threads iterating
  holds : Count (· = .removalHeld) s.threads removing
  counter : s.counter = iterating - removing
  excludes : iterating = 0 ∨ removing = 0 ∧ ∀ n, ¬ (s.threads n).Removes

theorem guards_start : Guards {} 0 0 where
  iterates := count_none fun _ => by rintro ⟨_, h⟩; cases h
  holds := count_none fun _ h => by cases h
  counter := rfl
  excludes := Or.inl rfl

theorem Guards.not_erasesInUse {i r : ℕ} (h : Guards s i r) : ¬ ErasesInUse s := by
  rintro ⟨m, n, hm, hn⟩
  rcases h.excludes with hi | ⟨-, hnone⟩
  · exact h.iterates.eq_zero_iff.mp hi m hm
  · exact hnone n (Or.inr hn)

/-- No thread removes an observer once one has moved, unless it removes one itself. -/
theorem not_removes_goto {n : ℕ} {pc : ObserverPc} (hpc : pc.Removes → (s.threads n).Removes)
    (hnone : ∀ m, ¬ (s.threads m).Removes) (m : ℕ) : ¬ ((s.goto n pc).threads m).Removes := by
  show ¬ (Function.update s.threads n pc m).Removes
  rw [Function.update_apply]
  split_ifs
  · exact fun h => hnone n (hpc h)
  · exact hnone m

/-- A thread moves between places that neither iterate nor hold or removed anything. -/
theorem Guards.goto {i r n : ℕ} {pc : ObserverPc} (h : Guards s i r)
    (hiterates : pc.Iterates ↔ (s.threads n).Iterates)
    (hholds : pc = .removalHeld ↔ s.threads n = .removalHeld)
    (hremoves : pc.Removes → (s.threads n).Removes) : Guards (s.goto n pc) i r where
  iterates := h.iterates.stays hiterates
  holds := h.holds.stays hholds
  counter := h.counter
  excludes := h.excludes.imp_right fun ⟨hr, hnone⟩ => ⟨hr, not_removes_goto hremoves hnone⟩

/-! ## Every step -/

/-- A notifier that may still start finds no thread that removes or holds the removal lock. -/
theorem Guards.start {i r n : ℕ} (h : Guards s i r) (hpc : s.threads n = .loaded)
    (hcounter : 0 ≤ s.counter) (hnone : ∀ m, ¬ (s.threads m).Removes) :
    Guards ((s.count 1).goto n (.iterating 0)) (i + 1) r where
  iterates := h.iterates.enters (by simp [hpc, ObserverPc.Iterates]) ⟨0, rfl⟩
  holds := h.holds.stays (by simp [hpc])
  counter := by
    show s.counter + 1 = _
    rw [h.counter]
    push_cast
    ring
  excludes := by
    refine Or.inr ⟨?_, not_removes_goto (by simp [ObserverPc.Removes]) hnone⟩
    rcases h.excludes with hi | ⟨hr, -⟩
    · have hle := h.counter ▸ hcounter
      omega
    · exact hr

/-- The removal lock is taken while no thread iterates. -/
theorem Guards.hold {i r n : ℕ} (h : Guards s i r) (hpc : s.threads n = .removalLoaded)
    (hcounter : s.counter ≤ 0) : Guards ((s.count (-1)).goto n .removalHeld) i (r + 1) where
  iterates := h.iterates.stays (by simp [hpc, ObserverPc.Iterates])
  holds := h.holds.enters (by simp [hpc]) rfl
  counter := by
    show s.counter + -1 = _
    rw [h.counter]
    push_cast
    ring
  excludes := by
    apply Or.inl
    rcases h.excludes with hi | ⟨hr, -⟩
    · exact hi
    · have hle := h.counter ▸ hcounter
      omega

/-- While the removal lock is held no thread iterates, and none does right after it. -/
theorem Guards.release {i r n : ℕ} (h : Guards s i r) (hpc : s.threads n = .removalHeld) :
    ∃ r', Guards ((s.count 1).goto n .unguarded) i r' := by
  have hpos : 0 < r := h.holds.pos hpc
  obtain ⟨r', rfl⟩ := Nat.exists_eq_add_of_lt hpos
  rw [Nat.zero_add] at h
  refine ⟨r', h.iterates.stays (by simp [hpc, ObserverPc.Iterates]),
    h.holds.leaves hpc (by simp), ?_, Or.inl ?_⟩
  · show s.counter + 1 = _
    rw [h.counter]
    push_cast
    ring
  · rcases h.excludes with hi | ⟨hr, -⟩
    · exact hi
    · omega

theorem Guards.finish {i r n called : ℕ} (h : Guards s i r)
    (hpc : s.threads n = .iterating called) :
    ∃ i', Guards ((s.count (-1)).goto n .idle) i' r := by
  have hpos : 0 < i := h.iterates.pos ⟨called, hpc⟩
  obtain ⟨i', rfl⟩ := Nat.exists_eq_add_of_lt hpos
  rw [Nat.zero_add] at h
  refine ⟨i', h.iterates.leaves ⟨called, hpc⟩ (by simp [ObserverPc.Iterates]),
    h.holds.stays (by simp [hpc]), ?_, ?_⟩
  · show s.counter + -1 = _
    rw [h.counter]
    push_cast
    ring
  · rcases h.excludes with hi | ⟨hr, hnone⟩
    · omega
    · exact Or.inr ⟨hr, not_removes_goto (by simp [ObserverPc.Removes]) hnone⟩

theorem Guards.threadStep {i r n : ℕ} (h : Guards s i r) (hok : StillGuarded s (.thread n))
    (hstep : s.threadStep n = some s') : ∃ i' r', Guards s' i' r' := by
  unfold ObserverState.threadStep at hstep
  unfold StillGuarded at hok
  cases hpc : s.threads n with
  | idle =>
    rw [hpc] at hstep
    cases hstep
  | subscribed =>
    rw [hpc] at hstep
    cases hstep
  | load =>
    simp only [hpc] at hstep
    obtain rfl := Option.some.inj hstep
    split_ifs
    · exact ⟨i, r, h⟩
    · exact ⟨i, r, h.goto (by simp [hpc, ObserverPc.Iterates]) (by simp [hpc])
        (by simp [ObserverPc.Removes])⟩
  | loaded =>
    simp only [hpc] at hstep hok
    obtain rfl := Option.some.inj hstep
    exact ⟨i + 1, r, h.start hpc hok.1 hok.2⟩
  | iterating called =>
    simp only [hpc] at hstep
    split_ifs at hstep
    · obtain rfl := Option.some.inj hstep
      exact ⟨i, r, h.goto (by simp [hpc, ObserverPc.Iterates]) (by simp [hpc])
        (by simp [ObserverPc.Removes])⟩
    · obtain rfl := Option.some.inj hstep
      obtain ⟨i', h'⟩ := h.finish hpc
      exact ⟨i', r, h'⟩
  | removalLoad =>
    simp only [hpc] at hstep
    obtain rfl := Option.some.inj hstep
    split_ifs
    · exact ⟨i, r, h⟩
    · exact ⟨i, r, h.goto (by simp [hpc, ObserverPc.Iterates]) (by simp [hpc])
        (by simp [ObserverPc.Removes])⟩
  | removalLoaded =>
    simp only [hpc] at hstep hok
    obtain rfl := Option.some.inj hstep
    exact ⟨i, r + 1, h.hold hpc hok⟩
  | removalHeld =>
    simp only [hpc] at hstep
    obtain rfl := Option.some.inj hstep
    obtain ⟨r', h'⟩ := h.release hpc
    exact ⟨i, r', h'⟩
  | unguarded =>
    simp only [hpc] at hstep
    obtain rfl := Option.some.inj hstep
    exact ⟨i, r, h.goto (by simp [hpc, ObserverPc.Iterates]) (by simp [hpc])
      (by simp [hpc, ObserverPc.Removes])⟩
  | erasing =>
    simp only [hpc] at hstep
    obtain rfl := Option.some.inj hstep
    have herased : Guards { s with observers := s.observers.erase n } i r :=
      ⟨h.iterates, h.holds, h.counter, h.excludes⟩
    exact ⟨i, r, herased.goto (by simp [hpc, ObserverPc.Iterates]) (by simp [hpc])
      (by simp [ObserverPc.Removes])⟩

theorem Guards.next {i r : ℕ} (h : Guards s i r) {a : ObserverAction} (hok : StillGuarded s a)
    (hstep : s.next a = some s') : ∃ i' r', Guards s' i' r' := by
  cases a with
  | notify n =>
    simp only [ObserverState.next] at hstep
    split_ifs at hstep with hidle hempty
    · exact ⟨i, r, Option.some.inj hstep ▸ h⟩
    · obtain rfl := Option.some.inj hstep
      exact ⟨i, r, h.goto (by simp [hidle, ObserverPc.Iterates]) (by simp [hidle])
        (by simp [ObserverPc.Removes])⟩
  | subscribe n =>
    simp only [ObserverState.next] at hstep
    split_ifs at hstep with hidle
    obtain rfl := Option.some.inj hstep
    have hadded : Guards { s with observers := s.observers ++ [n] } i r :=
      ⟨h.iterates, h.holds, h.counter, h.excludes⟩
    exact ⟨i, r, hadded.goto (by simp [hidle, ObserverPc.Iterates]) (by simp [hidle])
      (by simp [ObserverPc.Removes])⟩
  | cancel n =>
    simp only [ObserverState.next] at hstep
    split_ifs at hstep with hsub
    obtain rfl := Option.some.inj hstep
    exact ⟨i, r, h.goto (by simp [hsub, ObserverPc.Iterates]) (by simp [hsub])
      (by simp [ObserverPc.Removes])⟩
  | thread n => exact h.threadStep hok hstep

/-! ## Runs -/

/-- **In a run whose steps are still guarded no thread erases an observer while another
iterates.** -/
theorem removal_excludes (s : ObserverState)
    (h : Transition.ReachableWhen observerSystem StillGuarded s) : ¬ ErasesInUse s := by
  have hguards : ∃ i r, Guards s i r := by
    refine Transition.ReachableWhen.invariant (fun s => ∃ i r, Guards s i r) ?_ ?_ h
    · rintro _ rfl
      exact ⟨0, 0, guards_start⟩
    · rintro s a s' ⟨i, r, hs⟩ hok hstep
      exact hs.next hok hstep
  obtain ⟨i, r, hs⟩ := hguards
  exact hs.not_erasesInUse

/-- The state after the actions, one after the other. -/
def afterActions (as : List ObserverAction) : ObserverState :=
  (Transition.run ObserverState.next (fun _ _ => true) {} as).getD {}

/-- The only subscriber is told of a change while it waits to remove itself. -/
theorem removal_excludes_waiting :
    ¬ ErasesInUse (afterActions [.subscribe 0, .notify 1, .thread 1, .thread 1, .cancel 0,
      .thread 0]) := by
  have hloaded : Transition.ReachableWhen observerSystem StillGuarded
      (afterActions [.subscribe 0, .notify 1, .thread 1]) :=
    .step (a := .thread 1) (.step (a := .notify 1) (.step (a := .subscribe 0) (.init rfl)
      trivial rfl) trivial rfl) trivial rfl
  have hstart : StillGuarded (afterActions [.subscribe 0, .notify 1, .thread 1]) (.thread 1) := by
    refine ⟨by decide, fun m => ?_⟩
    have hthreads : (afterActions [.subscribe 0, .notify 1, .thread 1]).threads =
        Function.update (Function.update (Function.update (fun _ => ObserverPc.idle) 0 .subscribed)
          1 .load) 1 .loaded := rfl
    rw [hthreads]
    simp only [Function.update_apply]
    split_ifs <;> simp [ObserverPc.Removes]
  exact removal_excludes _ (.step (a := .thread 0) (.step (a := .cancel 0)
    (.step (a := .thread 1) hloaded hstart rfl) trivial rfl) trivial rfl)

/-- A notifier starts after the removal lock is gone and before the observer is erased. -/
theorem lock_gone_before_erase :
    ¬ ∀ s, Transition.Reachable observerSystem s → ¬ ErasesInUse s := by
  intro h
  obtain ⟨s, hs, hp⟩ := Transition.reachable_of_run {} ObserverState.next
    [.subscribe 0, .cancel 0, .thread 0, .thread 0, .thread 0, .notify 1, .thread 1, .thread 1,
      .thread 0]
    (fun s => decide (s.threads 1 = .iterating 0 ∧ s.threads 0 = .erasing)) (by decide +kernel)
  obtain ⟨hiterates, herases⟩ := of_decide_eq_true hp
  exact h s hs ⟨1, 0, ⟨0, hiterates⟩, herases⟩

end ObserverState

end Fancon
