import Fancon.Lib.Transition

/-! # Joining a test

A client that calls `test` for a fan under test registers its callbacks with the status of that
test: each is called with the current value and then appended to the observers. The task lock keeps
such clients apart, but the test thread sets the value and calls the observers without it, so an
update may fall between the two steps of a registration, and an observer may be appended to the
vector that the test thread is going through. Every observer hears the final status if none is
appended while one is still to be called, and each one is appended before the last update, or was
called with what that has set (`joiners_hear_final`).
-/
set_option autoImplicit false
set_option maxHeartbeats 250000
set_option maxRecDepth 120000

namespace Fancon

/-! ## The status and its updates -/

/-- `operator=` and `operator+=` of `ObservableNumber`. -/
inductive StatusUpdate
  | set (v : ℤ)
  | add (v : ℤ)
deriving DecidableEq

def StatusUpdate.apply (value : ℤ) : StatusUpdate → ℤ
  | .set v => v
  | .add v => value + v

/-- The updates of `Fan::test`. -/
def testUpdates (success : Bool) : List StatusUpdate :=
  if success then [.set 0, .add 20, .add 30, .add 25, .set 100] else [.set (-1)]

def finalStatus (success : Bool) : ℤ := if success then 100 else -1

theorem foldl_testUpdates (success : Bool) (value : ℤ) :
    (testUpdates success).foldl StatusUpdate.apply value = finalStatus success := by
  cases success <;> rfl

/-- Where the test thread is: before its next update, in the loop over the observers that were
there at its start, past the end of the test, or in memory that an append during the loop may
have freed. -/
inductive TesterPc
  | update (rest : List StatusUpdate)
  | notify (next stop : ℕ) (rest : List StatusUpdate)
  | ended
  | freed
deriving DecidableEq

/-- The updates that have not begun. -/
def TesterPc.rest : TesterPc → List StatusUpdate
  | .update rest | .notify _ _ rest => rest
  | .ended | .freed => []

/-- The loop over the observers has one left to call. -/
def TesterPc.calling : TesterPc → Bool
  | .notify next stop _ => decide (next < stop)
  | .update _ | .ended | .freed => false

/-- Where a client is that joins the test with some callbacks left to register. -/
inductive JoinPc
  | idle
  | lock (callbacks : ℕ)
  | register (callbacks : ℕ)
  | append (heard : ℤ) (callbacks : ℕ)
deriving DecidableEq

/-- An observer is known by the values it has been called with. `holder` has the task lock of the
fan; `testing` is whether its task still has the `test_status`. -/
structure SharedStatus where
  value : ℤ
  observers : List (List ℤ)
  tester : TesterPc
  testing : Bool := true
  holder : Option ℕ := none
  clients : ℕ → JoinPc := fun _ => .idle

inductive StatusAction
  | join (client callbacks : ℕ)
  | client (client : ℕ)
  | tester

namespace SharedStatus

def goto (s : SharedStatus) (n : ℕ) (pc : JoinPc) : SharedStatus :=
  { s with clients := Function.update s.clients n pc }

/-- The next step of the test thread. Only it takes `update_mutex`. The loop goes on in the vector
that was there at its start: an append since then may have moved the observers. -/
def testerStep (s : SharedStatus) : Option SharedStatus :=
  match s.tester with
  | .update (u :: rest) =>
    some { s with value := u.apply s.value, tester := .notify 0 s.observers.length rest }
  | .notify next stop rest =>
    if next < stop then
      if s.observers.length = stop then
        some { s with
          observers := s.observers.modify next fun heard => heard ++ [s.value]
          tester := .notify (next + 1) stop rest }
      else some { s with tester := .freed }
    else some { s with tester := .update rest }
  | .update [] =>
    if s.holder = none then some { s with testing := false, tester := .ended } else none
  | .ended | .freed => none

/-- The next step of a client; one that blocks takes none after its last registration. -/
def clientStep (s : SharedStatus) (n : ℕ) : Option SharedStatus :=
  match s.clients n with
  | .idle => none
  | .lock callbacks =>
    if s.holder = none then
      some (if s.testing then { s with holder := some n }.goto n (.register callbacks)
        else s.goto n .idle)
    else none
  | .register 0 => some ({ s with holder := none }.goto n .idle)
  | .register (callbacks + 1) => some (s.goto n (.append s.value callbacks))
  | .append heard callbacks =>
    some ({ s with observers := s.observers ++ [[heard]] }.goto n (.register callbacks))

def next (s : SharedStatus) : StatusAction → Option SharedStatus
  | .join n callbacks => if s.clients n = .idle then some (s.goto n (.lock callbacks)) else none
  | .client n => s.clientStep n
  | .tester => s.testerStep

/-- A test that starts with the observers of the client that called it. -/
def started (value : ℤ) (callbacks : ℕ) (success : Bool) : SharedStatus where
  value := value
  observers := List.replicate callbacks []
  tester := .update (testUpdates success)

def system (value : ℤ) (callbacks : ℕ) (success : Bool) :
    Transition.System SharedStatus StatusAction :=
  Transition.ofStep (started value callbacks success) next

/-! ## What is claimed -/

/-- No observer is called where the vector no longer is, and once all updates are done, every
registered observer has been called with the value. -/
def AllHear (final : ℤ) (s : SharedStatus) : Prop :=
  s.tester ≠ .freed ∧
    ((s.tester = .update [] ∨ s.tester = .ended) → ∀ heard ∈ s.observers, final ∈ heard)

/-- An observer is appended while the test thread has none left to call, and while an update is
still to begin, or it was called with the value that the last one has set. -/
def JoinsInTime (s : SharedStatus) : StatusAction → Prop
  | .client n =>
    match s.clients n with
    | .append heard _ => s.tester.calling = false ∧ (s.tester.rest = [] → heard = s.value)
    | _ => True
  | .join _ _ | .tester => True

/-! ## The invariant -/

variable {final : ℤ} {s s' : SharedStatus}

/-- The loop of the test thread will still call the observer at this place. -/
def Pending (s : SharedStatus) (k : ℕ) : Prop :=
  ∃ next stop rest, s.tester = .notify next stop rest ∧ next ≤ k ∧ k < stop

structure Hears (final : ℤ) (s : SharedStatus) : Prop where
  safe : s.tester ≠ .freed
  intact : ∀ next stop rest, s.tester = .notify next stop rest → next < stop →
    s.observers.length = stop
  ends : s.tester.rest.foldl StatusUpdate.apply s.value = final
  told : s.tester.rest = [] → ∀ k heard, s.observers[k]? = some heard →
    final ∈ heard ∨ s.Pending k

theorem hears_start (value : ℤ) (callbacks : ℕ) (success : Bool) :
    Hears (finalStatus success) (started value callbacks success) where
  safe h := by cases h
  intact _ _ _ h := by cases h
  ends := foldl_testUpdates success value
  told hrest := by cases success <;> cases hrest

theorem Hears.allHear (h : Hears final s) : AllHear final s := by
  refine ⟨h.safe, fun hdone heard hmem => ?_⟩
  obtain ⟨k, hk⟩ := List.getElem?_of_mem hmem
  have hrest : s.tester.rest = [] := by
    rcases hdone with heq | heq <;> rw [heq] <;> rfl
  apply (h.told hrest k heard hk).resolve_right
  rintro ⟨next, stop, rest, heq, -⟩
  rcases hdone with heq' | heq' <;> cases heq'.symm.trans heq

/-- A step that leaves the status, its observers and the test thread alone. -/
theorem Hears.of_eq (h : Hears final s) (hvalue : s'.value = s.value)
    (hobservers : s'.observers = s.observers) (htester : s'.tester = s.tester) :
    Hears final s' where
  safe := by
    rw [htester]
    exact h.safe
  intact := by
    rw [htester, hobservers]
    exact h.intact
  ends := by
    rw [htester, hvalue]
    exact h.ends
  told := by
    rw [htester, hobservers]
    intro hrest k heard hk
    refine (h.told hrest k heard hk).imp_right fun ⟨next, stop, rest, heq, hnext⟩ => ?_
    exact ⟨next, stop, rest, htester.trans heq, hnext⟩

/-! ## Every step -/

theorem Hears.testerStep (h : Hears final s) (hstep : s.testerStep = some s') : Hears final s' := by
  unfold SharedStatus.testerStep at hstep
  split at hstep
  · -- an update calls all observers that are there
    rename_i u rest htester
    obtain rfl := Option.some.inj hstep
    have hends := h.ends
    rw [htester] at hends
    refine ⟨TesterPc.noConfusion, fun next stop rest' heq _ => (TesterPc.notify.inj heq).2.1, hends,
      fun _ k heard hk => Or.inr ⟨0, _, rest, rfl, Nat.zero_le k, ?_⟩⟩
    exact (List.getElem?_eq_some_iff.mp hk).1
  · rename_i next stop rest htester
    have hends := h.ends
    rw [htester] at hends
    split_ifs at hstep with hnext hlen
    · obtain rfl := Option.some.inj hstep
      refine ⟨TesterPc.noConfusion, fun next' stop' rest' heq _ => ?_, hends,
        fun hrest k heard hk => ?_⟩
      · rw [← (TesterPc.notify.inj heq).2.1]
        exact (List.length_modify ..).trans hlen
      have hrest : rest = [] := hrest
      have hfinal : s.value = final := by
        rw [hrest] at hends
        exact hends
      change (s.observers.modify next fun heard => heard ++ [s.value])[k]? = some heard at hk
      rw [List.getElem?_modify] at hk
      obtain ⟨before, hbefore, rfl⟩ := Option.map_eq_some_iff.mp hk
      split_ifs with hnk
      · exact Or.inl (List.mem_append_right _ (List.mem_singleton.mpr hfinal.symm))
      · have htold := h.told (by rw [htester]; exact hrest) k before hbefore
        apply htold.imp_right
        rintro ⟨next', stop', rest', heq, hle, hlt⟩
        obtain ⟨rfl, rfl, rfl⟩ := TesterPc.notify.inj (htester.symm.trans heq)
        exact ⟨next + 1, stop, rest, rfl, by omega, hlt⟩
    · exact absurd (h.intact next stop rest htester hnext) hlen
    · obtain rfl := Option.some.inj hstep
      refine ⟨TesterPc.noConfusion, fun _ _ _ heq => TesterPc.noConfusion heq, hends,
        fun hrest k heard hk => Or.inl ?_⟩
      apply (h.told (by rw [htester]; exact hrest) k heard hk).resolve_right
      rintro ⟨next', stop', rest', heq, hle, hlt⟩
      obtain ⟨rfl, rfl, -⟩ := TesterPc.notify.inj (htester.symm.trans heq)
      omega
  · rename_i htester
    split_ifs at hstep
    obtain rfl := Option.some.inj hstep
    have hends := h.ends
    rw [htester] at hends
    refine ⟨TesterPc.noConfusion, fun _ _ _ heq => TesterPc.noConfusion heq, hends,
      fun _ k heard hk => Or.inl ?_⟩
    apply (h.told (by rw [htester]; rfl) k heard hk).resolve_right
    rintro ⟨next, stop, rest, heq, -⟩
    cases htester.symm.trans heq
  · cases hstep
  · cases hstep

theorem Hears.clientStep {n : ℕ} (h : Hears final s) (hok : JoinsInTime s (.client n))
    (hstep : s.clientStep n = some s') : Hears final s' := by
  unfold SharedStatus.clientStep at hstep
  unfold JoinsInTime at hok
  cases hpc : s.clients n with
  | idle =>
    rw [hpc] at hstep
    cases hstep
  | lock callbacks =>
    simp only [hpc] at hstep
    split_ifs at hstep
    · exact Option.some.inj hstep ▸ h.of_eq rfl rfl rfl
    · exact Option.some.inj hstep ▸ h.of_eq rfl rfl rfl
  | register callbacks =>
    cases callbacks with
    | zero =>
      simp only [hpc] at hstep
      exact Option.some.inj hstep ▸ h.of_eq rfl rfl rfl
    | succ callbacks =>
      simp only [hpc] at hstep
      exact Option.some.inj hstep ▸ h.of_eq rfl rfl rfl
  | append heard callbacks =>
    simp only [hpc] at hstep hok
    obtain rfl := Option.some.inj hstep
    obtain ⟨hcalling, hlate⟩ := hok
    refine ⟨h.safe, fun next stop rest heq hlt => ?_, h.ends, fun hrest k heard' hk => ?_⟩
    · change s.tester = .notify next stop rest at heq
      rw [heq] at hcalling
      exact absurd hlt (of_decide_eq_false hcalling)
    have hrest : s.tester.rest = [] := hrest
    change (s.observers ++ [[heard]])[k]? = some heard' at hk
    by_cases hlast : k < s.observers.length
    · rw [List.getElem?_append_left hlast] at hk
      apply (h.told hrest k heard' hk).imp_right
      rintro ⟨next, stop, rest, heq, hnext⟩
      exact ⟨next, stop, rest, heq, hnext⟩
    · rw [List.getElem?_append_right (by omega)] at hk
      have hmem := List.mem_of_getElem? hk
      obtain rfl := List.mem_singleton.mp hmem
      have hfinal := h.ends
      rw [hrest] at hfinal
      refine Or.inl (List.mem_singleton.mpr ?_)
      rw [hlate hrest]
      exact hfinal.symm

theorem Hears.next (h : Hears final s) {a : StatusAction} (hok : JoinsInTime s a)
    (hstep : s.next a = some s') : Hears final s' := by
  cases a with
  | join n callbacks =>
    simp only [SharedStatus.next] at hstep
    split_ifs at hstep
    exact Option.some.inj hstep ▸ h.of_eq rfl rfl rfl
  | client n => exact h.clientStep hok hstep
  | tester => exact h.testerStep hstep

/-! ## Runs -/

/-- **In a run in which observers are appended in time, all of them hear the final status.** -/
theorem joiners_hear_final (value : ℤ) (callbacks : ℕ) (success : Bool) (s : SharedStatus)
    (h : Transition.ReachableWhen (system value callbacks success) JoinsInTime s) :
    AllHear (finalStatus success) s := by
  have hhears : Hears (finalStatus success) s := by
    refine Transition.ReachableWhen.invariant (Hears (finalStatus success)) ?_ ?_ h
    · rintro _ rfl
      exact hears_start value callbacks success
    · exact fun s a s' hs hok hstep => hs.next hok hstep
  exact hhears.allHear

def joinsInTime (s : SharedStatus) : StatusAction → Bool
  | .client n =>
    match s.clients n with
    | .append heard _ =>
      !s.tester.calling && (!decide (s.tester.rest = []) || decide (heard = s.value))
    | _ => true
  | .join _ _ | .tester => true

theorem joinsInTime_ok (s : SharedStatus) (a : StatusAction) (h : joinsInTime s a = true) :
    JoinsInTime s a := by
  cases a with
  | client n =>
    unfold joinsInTime at h
    unfold JoinsInTime
    cases hpc : s.clients n with
    | append heard callbacks =>
      simp only [hpc, Bool.and_eq_true, Bool.not_eq_true'] at h ⊢
      refine ⟨h.1, fun hrest => ?_⟩
      simpa [hrest] using h.2
    | idle => simp only [hpc]
    | lock callbacks => simp only [hpc]
    | register callbacks => simp only [hpc]
  | join n callbacks => trivial
  | tester => trivial

/-- A client joins after the first update. -/
theorem joiners_hear_final_early :
    ∃ s, (s.tester = .ended ∧ s.observers.length = 2) ∧ AllHear 100 s := by
  obtain ⟨s, hs, hp⟩ := Transition.reachableWhen_of_run (started 0 1 true) next joinsInTime_ok
    (List.replicate 3 .tester ++ .join 0 1 :: List.replicate 4 (.client 0) ++
      List.replicate 17 .tester)
    (fun s => decide (s.tester = .ended ∧ s.observers.length = 2)) (by decide +kernel)
  exact ⟨s, of_decide_eq_true hp, joiners_hear_final 0 1 true s hs⟩

/-- The last update falls between the two steps of a registration. -/
theorem joiner_misses_final :
    ¬ ∀ (value : ℤ) (callbacks : ℕ) (success : Bool) (s : SharedStatus),
      Transition.Reachable (system value callbacks success) s →
      AllHear (finalStatus success) s := by
  intro h
  obtain ⟨s, hs, hp⟩ := Transition.reachable_of_run (started 0 1 true) next
    (List.replicate 12 .tester ++ [.join 0 1, .client 0, .client 0] ++ List.replicate 3 .tester ++
      [.client 0])
    (fun s => decide (s.tester = .update [] ∧ [75] ∈ s.observers)) (by decide +kernel)
  obtain ⟨hdone, hmem⟩ := of_decide_eq_true hp
  have hheard := (h 0 1 true s hs).2 (Or.inl hdone) [75] hmem
  exact absurd hheard (by decide)

end SharedStatus

end Fancon
