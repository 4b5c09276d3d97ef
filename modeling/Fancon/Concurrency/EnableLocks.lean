import Fancon.Lib.Transition
import Fancon.Lib.WaitGraph

/-! # The locks of concurrent `enable` calls

`enable` keeps the task lock of its label to its end. With `enable_all_dell` a call for a Dell fan
enables the others before, and each of them takes its own lock meanwhile. So calls may wait for
each other in a circle. They do not if a call that begins to enable the others is for a fan that
no call has yet to enable on its way through the Dell fans (`enable_never_deadlocks`).
-/
set_option autoImplicit false
set_option maxHeartbeats 250000
set_option maxRecDepth 120000

namespace Fancon

open WaitGraph

/-- Where a call of `enable` is. `others` is in `enable_dell_fans` and about to lock the first of
the labels that are left, `otherHeld` has locked it. -/
inductive EnablePc
  | idle
  | lock (label : String) (allDell : Bool)
  | held (label : String) (allDell : Bool)
  | others (label : String) (rest : List String)
  | otherHeld (label other : String) (rest : List String)
deriving DecidableEq

namespace EnablePc

def holds : EnablePc → List String
  | .idle | .lock _ _ => []
  | .held l _ | .others l _ => [l]
  | .otherHeld l k _ => [k, l]

def waits : EnablePc → Option String
  | .lock l _ | .others _ (l :: _) => some l
  | _ => none

/-- The Dell fans that the call has yet to lock. -/
def ahead : EnablePc → List String
  | .others _ rest | .otherHeld _ _ rest => rest
  | _ => []

/-- The label from which the call enables the other Dell fans. -/
def entered : EnablePc → Option String
  | .others l _ | .otherHeld l _ _ => some l
  | _ => none

/-- A call that waits while it holds a lock is on its way through the Dell fans: it waits for one of
those ahead, and holds the lock of its own label only. -/
theorem of_waits_holding {pc : EnablePc} {k l : String} (hwaits : pc.waits = some k)
    (hholds : l ∈ pc.holds) : k ∈ pc.ahead ∧ pc.entered = some l := by
  cases pc with
  | idle => cases hwaits
  | lock b allDell => cases hholds
  | held b allDell => cases hwaits
  | otherHeld b e rest => cases hwaits
  | others b rest =>
    cases rest with
    | nil => cases hwaits
    | cons e rest =>
      obtain rfl := Option.some.inj hwaits
      exact ⟨List.mem_cons_self, congrArg some (List.mem_singleton.mp hholds).symm⟩

end EnablePc

structure EnableState where
  locks : String → Option ℕ := fun _ => none
  tasks : String → Bool
  calls : ℕ → EnablePc := fun _ => .idle

inductive EnableAction
  | call (n : ℕ) (label : String) (allDell : Bool)
  | step (n : ℕ) (succeeds : Bool)

namespace EnableState

def goto (s : EnableState) (n : ℕ) (pc : EnablePc) : EnableState :=
  { s with calls := Function.update s.calls n pc }

def setLock (s : EnableState) (l : String) (holder : Option ℕ) : EnableState :=
  { s with locks := Function.update s.locks l holder }

def addTask (s : EnableState) (l : String) : EnableState :=
  { s with tasks := Function.update s.tasks l true }

/-- The next step of a call; `succeeds` is what `try_enable` and `is_configured` say. `dell` are the
labels of the Dell fans as a loop over the fans meets them. -/
def callStep (dell : List String) (s : EnableState) (n : ℕ) (succeeds : Bool) :
    Option EnableState :=
  match s.calls n with
  | .idle => none
  | .lock l allDell =>
    if s.locks l = none then some ((s.setLock l (some n)).goto n (.held l allDell)) else none
  | .held l allDell =>
    if s.tasks l || !succeeds then some ((s.setLock l none).goto n .idle)
    else if decide (l ∈ dell) && allDell then some (s.goto n (.others l (dell.filter (· ≠ l))))
    else some (((s.addTask l).setLock l none).goto n .idle)
  | .others l [] => some (((s.addTask l).setLock l none).goto n .idle)
  | .others l (k :: rest) =>
    if s.locks k = none then some ((s.setLock k (some n)).goto n (.otherHeld l k rest)) else none
  | .otherHeld l k rest =>
    if s.tasks k || !succeeds then some ((s.setLock k none).goto n (.others l rest))
    else some (((s.addTask k).setLock k none).goto n (.others l rest))

def next (dell : List String) (s : EnableState) : EnableAction → Option EnableState
  | .call n l allDell => if s.calls n = .idle then some (s.goto n (.lock l allDell)) else none
  | .step n succeeds => s.callStep dell n succeeds

def system (dell : List String) (tasks : String → Bool) :
    Transition.System EnableState EnableAction :=
  Transition.ofStep { tasks := tasks } (next dell)

/-! ## What is claimed -/

/-- `m` waits for a lock that `n` holds. -/
def WaitsFor (s : EnableState) (m n : ℕ) : Prop :=
  ∃ l, (s.calls m).waits = some l ∧ s.locks l = some n

/-- No call begins to enable the other Dell fans from a label that another one has yet to lock on
its way through them. -/
def EntersClear (dell : List String) (s : EnableState) : EnableAction → Prop
  | .step n succeeds =>
    match s.calls n with
    | .held l allDell => s.tasks l = false → succeeds = true → l ∈ dell → allDell = true →
        ∀ m, l ∉ (s.calls m).ahead
    | _ => True
  | .call _ _ _ => True

/-! ## The invariant -/

variable {dell : List String} {s s' : EnableState} {n : ℕ}

/-- The label that `n` enables the others from is still ahead of `m`. -/
def Before (s : EnableState) (m n : ℕ) : Prop :=
  ∃ l, (s.calls n).entered = some l ∧ l ∈ (s.calls m).ahead

structure Ordered (s : EnableState) : Prop where
  holds : ∀ l n, s.locks l = some n → l ∈ (s.calls n).holds
  acyclic : Acyclic s.Before

theorem ordered_start (tasks : String → Bool) : Ordered { tasks := tasks } where
  holds _ _ h := nomatch h
  acyclic := by
    intro n hcycle
    obtain ⟨m, ⟨l, -, hl⟩, -⟩ := Relation.TransGen.head'_iff.mp hcycle
    cases hl

/-- A call that waits while it is waited for is on its way through the Dell fans. -/
theorem Ordered.acyclic_waitsFor (h : Ordered s) : Acyclic s.WaitsFor := by
  refine acyclic_of_inner h.acyclic fun m n hwaits hinto honward => ?_
  obtain ⟨l, hm, hn⟩ := hwaits
  obtain ⟨c, k, -, hc⟩ := hinto
  obtain ⟨d, j, hj, -⟩ := honward
  have hahead := (EnablePc.of_waits_holding hm (h.holds k m hc)).1
  have hentered := (EnablePc.of_waits_holding hj (h.holds l n hn)).2
  exact ⟨l, hentered, hahead⟩

/-! ## Every step -/

theorem calls_goto (s : EnableState) (n m : ℕ) (pc : EnablePc) :
    (s.goto n pc).calls m = if m = n then pc else s.calls m := Function.update_apply _ _ _ _

/-- A call goes on: what it then holds is locked for it, and it has no more labels ahead. -/
theorem Ordered.moved {pc : EnablePc} (h : Ordered s) (hcalls : s'.calls = (s.goto n pc).calls)
    (hlocks : ∀ l m, s'.locks l = some m → l ∈ ((s.goto n pc).calls m).holds)
    (hahead : pc.ahead ⊆ (s.calls n).ahead)
    (hentered : ∀ l, pc.entered = some l → (s.calls n).entered = some l) : Ordered s' where
  holds l m hm := by
    rw [hcalls]
    exact hlocks l m hm
  acyclic := by
    apply h.acyclic.mono
    rintro a b ⟨l, hb, ha⟩
    rw [hcalls, calls_goto] at ha hb
    refine ⟨l, ?_, ?_⟩
    · split_ifs at hb with hbn
      · exact hbn ▸ hentered l hb
      · exact hb
    · split_ifs at ha with han
      · exact han ▸ hahead ha
      · exact ha

section

variable {pc : EnablePc} {k : String}

theorem Ordered.goto (h : Ordered s) (hholds : (s.calls n).holds ⊆ pc.holds)
    (hahead : pc.ahead ⊆ (s.calls n).ahead)
    (hentered : ∀ l, pc.entered = some l → (s.calls n).entered = some l) :
    Ordered (s.goto n pc) := by
  refine h.moved rfl (fun l m hm => ?_) hahead hentered
  have hold := h.holds l m hm
  rw [calls_goto]
  split_ifs with hmn
  · exact hholds (hmn ▸ hold)
  · exact hold

theorem Ordered.acquire (h : Ordered s) (hk : k ∈ pc.holds) (hholds : (s.calls n).holds ⊆ pc.holds)
    (hahead : pc.ahead ⊆ (s.calls n).ahead)
    (hentered : ∀ l, pc.entered = some l → (s.calls n).entered = some l) :
    Ordered ((s.setLock k (some n)).goto n pc) := by
  refine h.moved rfl (fun l m hm => ?_) hahead hentered
  change Function.update s.locks k (some n) l = some m at hm
  rw [Function.update_apply] at hm
  rw [calls_goto]
  split_ifs at hm with hlk
  · obtain rfl := Option.some.inj hm
    rw [if_pos rfl, hlk]
    exact hk
  · have hold := h.holds l m hm
    split_ifs with hmn
    · exact hholds (hmn ▸ hold)
    · exact hold

theorem Ordered.release (h : Ordered s) (hholds : ∀ l ∈ (s.calls n).holds, l ≠ k → l ∈ pc.holds)
    (hahead : pc.ahead ⊆ (s.calls n).ahead)
    (hentered : ∀ l, pc.entered = some l → (s.calls n).entered = some l) :
    Ordered ((s.setLock k none).goto n pc) := by
  refine h.moved rfl (fun l m hm => ?_) hahead hentered
  change Function.update s.locks k none l = some m at hm
  rw [Function.update_apply] at hm
  rw [calls_goto]
  split_ifs at hm with hlk
  have hold := h.holds l m hm
  split_ifs with hmn
  · exact hholds l (hmn ▸ hold) hlk
  · exact hold

theorem Ordered.addTask (h : Ordered s) (l : String) : Ordered (s.addTask l) :=
  ⟨h.holds, h.acyclic⟩

/-- A call begins to enable the other Dell fans; none of those on their way waits for its label. -/
theorem Ordered.enter {l : String} {allDell : Bool} (h : Ordered s)
    (hpc : s.calls n = .held l allDell) (hclear : ∀ m, l ∉ (s.calls m).ahead) :
    Ordered (s.goto n (.others l (dell.filter (· ≠ l)))) where
  holds k m hm := by
    have hold := h.holds k m hm
    rw [calls_goto]
    split_ifs with hmn
    · rw [hmn, hpc] at hold
      exact hold
    · exact hold
  acyclic := by
    have henters : ∀ a, ¬ (s.goto n (.others l (dell.filter (· ≠ l)))).Before a n := by
      rintro a ⟨k, hk, ha⟩
      rw [calls_goto, if_pos rfl] at hk
      obtain rfl := Option.some.inj hk
      rw [calls_goto] at ha
      split_ifs at ha
      · simp [EnablePc.ahead] at ha
      · exact hclear a ha
    refine h.acyclic.add_source henters fun a b ha hab => ?_
    obtain ⟨k, hb, hk⟩ := id hab
    have hbn : b ≠ n := by
      rintro rfl
      exact henters a hab
    rw [calls_goto, if_neg hbn] at hb
    rw [calls_goto, if_neg ha] at hk
    exact ⟨k, hb, hk⟩

end

theorem Ordered.callStep {succeeds : Bool} (h : Ordered s)
    (hok : EntersClear dell s (.step n succeeds)) (hstep : s.callStep dell n succeeds = some s') :
    Ordered s' := by
  unfold EnableState.callStep at hstep
  unfold EntersClear at hok
  cases hpc : s.calls n with
  | idle =>
    rw [hpc] at hstep
    cases hstep
  | lock l allDell =>
    simp only [hpc] at hstep
    split_ifs at hstep
    obtain rfl := Option.some.inj hstep
    exact h.acquire List.mem_cons_self (by simp [hpc, EnablePc.holds]) (by simp [EnablePc.ahead])
      (by simp [EnablePc.entered])
  | held l allDell =>
    simp only [hpc] at hstep hok
    split_ifs at hstep with hreturns hothers
    · obtain rfl := Option.some.inj hstep
      exact h.release (by simp [hpc, EnablePc.holds]) (by simp [EnablePc.ahead])
        (by simp [EnablePc.entered])
    · obtain rfl := Option.some.inj hstep
      obtain ⟨htask, hsucceeds⟩ : s.tasks l = false ∧ succeeds = true := by simpa using hreturns
      obtain ⟨hdell, hall⟩ : l ∈ dell ∧ allDell = true := by simpa using hothers
      exact h.enter hpc (hok htask hsucceeds hdell hall)
    · obtain rfl := Option.some.inj hstep
      exact (h.addTask l).release (by simp [EnableState.addTask, hpc, EnablePc.holds])
        (by simp [EnablePc.ahead]) (by simp [EnablePc.entered])
  | others l rest =>
    cases rest with
    | nil =>
      simp only [hpc] at hstep
      obtain rfl := Option.some.inj hstep
      exact (h.addTask l).release (by simp [EnableState.addTask, hpc, EnablePc.holds])
        (by simp [EnablePc.ahead]) (by simp [EnablePc.entered])
    | cons k rest =>
      simp only [hpc] at hstep
      split_ifs at hstep
      obtain rfl := Option.some.inj hstep
      exact h.acquire List.mem_cons_self (by simp [hpc, EnablePc.holds])
        (by simp [hpc, EnablePc.ahead]) (by simp [hpc, EnablePc.entered])
  | otherHeld l k rest =>
    simp only [hpc] at hstep
    split_ifs at hstep
    · obtain rfl := Option.some.inj hstep
      exact h.release (by simp [hpc, EnablePc.holds]) (by simp [hpc, EnablePc.ahead])
        (by simp [hpc, EnablePc.entered])
    · obtain rfl := Option.some.inj hstep
      exact (h.addTask k).release (by simp [EnableState.addTask, hpc, EnablePc.holds])
        (by simp [EnableState.addTask, hpc, EnablePc.ahead])
        (by simp [EnableState.addTask, hpc, EnablePc.entered])

theorem Ordered.next {a : EnableAction} (h : Ordered s) (hok : EntersClear dell s a)
    (hstep : s.next dell a = some s') : Ordered s' := by
  cases a with
  | call n l allDell =>
    simp only [EnableState.next] at hstep
    split_ifs at hstep with hidle
    obtain rfl := Option.some.inj hstep
    exact h.goto (by simp [hidle, EnablePc.holds]) (by simp [EnablePc.ahead])
      (by simp [EnablePc.entered])
  | step n succeeds => exact h.callStep hok hstep

/-! ## Runs -/

/-- **In a run in which every call enters clear no calls wait for each other in a circle.** -/
theorem enable_never_deadlocks (dell : List String) (tasks : String → Bool) (s : EnableState)
    (h : Transition.ReachableWhen (system dell tasks) (EntersClear dell) s) :
    Acyclic s.WaitsFor := by
  have hordered : Ordered s := by
    refine Transition.ReachableWhen.invariant Ordered ?_ ?_ h
    · rintro _ rfl
      exact ordered_start tasks
    · exact fun s a s' hs hok hstep => hs.next hok hstep
  exact hordered.acyclic_waitsFor

def twoDell : List String := ["fan1", "fan2"]

def afterSteps (as : List EnableAction) : EnableState :=
  (Transition.run (next twoDell) (fun _ _ => true) { tasks := fun _ => false } as).getD
    { tasks := fun _ => false }

/-- A call that enables both fans waits for one that enables the second alone. -/
theorem enable_never_deadlocks_alone :
    Acyclic (afterSteps [.call 1 "fan2" false, .step 1 true, .call 0 "fan1" true, .step 0 true,
      .step 0 true]).WaitsFor := by
  have hlocked : Transition.ReachableWhen (system twoDell fun _ => false) (EntersClear twoDell)
      (afterSteps [.call 1 "fan2" false, .step 1 true, .call 0 "fan1" true, .step 0 true]) :=
    .step (a := .step 0 true) (.step (a := .call 0 "fan1" true) (.step (a := .step 1 true)
      (.step (a := .call 1 "fan2" false) (.init rfl) trivial rfl) trivial rfl) trivial rfl)
      trivial rfl
  refine enable_never_deadlocks twoDell (fun _ => false) _
    (.step (a := .step 0 true) hlocked (fun _ _ _ _ m => ?_) rfl)
  have hcalls : (afterSteps [.call 1 "fan2" false, .step 1 true, .call 0 "fan1" true,
      .step 0 true]).calls = Function.update (Function.update (Function.update (Function.update
        (fun _ => EnablePc.idle) 1 (.lock "fan2" false)) 1 (.held "fan2" false)) 0
          (.lock "fan1" true)) 0 (.held "fan1" true) := rfl
  rw [hcalls]
  simp only [Function.update_apply]
  split_ifs <;> simp [EnablePc.ahead]

/-- Each of two calls enables both fans. -/
theorem enable_deadlocks :
    ¬ ∀ (dell : List String) (tasks : String → Bool) (s : EnableState),
      Transition.Reachable (system dell tasks) s → Acyclic s.WaitsFor := by
  intro h
  obtain ⟨s, hs, hp⟩ := Transition.reachable_of_run { tasks := fun _ => false } (next twoDell)
    [.call 0 "fan1" true, .call 1 "fan2" true, .step 0 true, .step 1 true, .step 0 true,
      .step 1 true]
    (fun s => decide (((s.calls 0).waits = some "fan2" ∧ s.locks "fan2" = some 1) ∧
      (s.calls 1).waits = some "fan1" ∧ s.locks "fan1" = some 0)) (by decide +kernel)
  obtain ⟨h01, h10⟩ := of_decide_eq_true hp
  exact h twoDell (fun _ => false) s hs 0 (.tail (.single ⟨"fan2", h01⟩) ⟨"fan1", h10⟩)

end EnableState

end Fancon
