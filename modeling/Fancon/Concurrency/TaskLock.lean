import Fancon.Lib.SharedMutex
import Fancon.Lib.Transition

/-! # The lock of a fan's task

The threads that take `tasks_mutex[label]` for one label: any number of clients that call `enable`,
`disable`, `test` and `status`, the thread of the fan's task, and the thread a test leaves behind.
A step ends where another thread may see a difference: at a lock, a join, a look at `run`, at the
task or at the observers. A call that returns before it takes the lock is left out.

`tasks.erase` and the blocking `test` join the thread of the task under the write lock, and that
thread takes the read lock to notify status observers or at the end of a test. So they can wait
for each other; they do not if a thread that is joined has no lock left to take
(`never_deadlocked`).
-/
set_option autoImplicit false
set_option maxHeartbeats 250000
set_option maxRecDepth 120000

namespace Fancon

open SharedMutex

/-! ## Threads -/

/-- Where the thread of a task is: in the loop of an enabled fan, or in a test. -/
inductive TaskPc
  | check
  | notify
  | statusLock
  | statusHeld
  | update
  | finish
  | testing
  | resetLock
  | resetHeld
  | save
  | spawn
  | ended
deriving DecidableEq

def TaskPc.mode : TaskPc → Mode
  | .statusHeld | .resetHeld => .read
  | _ => .free

/-- `FanTask`; `testing` is whether its `test_status` is set. -/
structure TaskThread where
  testing : Bool
  run : Bool := true
  pc : TaskPc
deriving DecidableEq

def enabledTask : TaskThread := { testing := false, pc := .check }
def testTask : TaskThread := { testing := true, pc := .testing }

/-- What a thread does once it has notified the status observers: nothing more, or it goes on with
a `test` that may be blocking. -/
abbrev AfterNotify := Option Bool

/-- Where a thread is in an operation. `Lock` waits for the mutex, `Held` has it, `Join` waits for
the thread of the task. `clean` is what a test leaves behind. -/
inductive Pc
  | idle
  | statusLock
  | statusHeld
  | enableLock
  | enableHeld
  | disableLock
  | disableHeld
  | disableJoin
  | testLock (blocking : Bool)
  | testHeld (blocking : Bool)
  | testRunningJoin
  | testEraseJoin (blocking : Bool)
  | notify (after : AfterNotify)
  | notifyLock (after : AfterNotify)
  | notifyHeld (after : AfterNotify)
  | testEndLock (blocking : Bool)
  | testEndHeld (blocking : Bool)
  | testEndJoin
  | cleanLock
  | cleanHeld
  | cleanJoin
deriving DecidableEq

namespace Pc

def mode : Pc → Mode
  | .statusHeld | .notifyHeld _ | .testEndHeld _ | .testEndJoin => .read
  | .enableHeld | .disableHeld | .disableJoin | .testHeld _ | .testRunningJoin | .testEraseJoin _
  | .cleanHeld | .cleanJoin => .write
  | _ => .free

def joins : Pc → Bool
  | .disableJoin | .testRunningJoin | .testEraseJoin _ | .testEndJoin | .cleanJoin => true
  | _ => false

end Pc

def AfterNotify.pc : AfterNotify → Pc
  | none => .idle
  | some blocking => .testEndLock blocking

theorem AfterNotify.mode_pc (after : AfterNotify) : after.pc.mode = .free := by
  cases after <;> rfl

/-! ## States -/

structure LabelState where
  lock : Lock (Option ℕ) := {}
  observers : ℕ := 0
  task : Option TaskThread := none
  agents : ℕ → Pc := fun _ => .idle

namespace LabelState

/-- What the threads hold; `none` is the thread of the task. -/
def mode (s : LabelState) : Option ℕ → Mode
  | none => (s.task.map fun t => t.pc.mode).getD .free
  | some n => (s.agents n).mode

def goto (s : LabelState) (n : ℕ) (pc : Pc) : LabelState :=
  { s with agents := Function.update s.agents n pc }

def acquireRead (s : LabelState) (n : ℕ) (pc : Pc) : Option LabelState :=
  (s.lock.lockRead (some n)).map fun lock => { s.goto n pc with lock := lock }

def acquireWrite (s : LabelState) (n : ℕ) (pc : Pc) : Option LabelState :=
  (s.lock.lockWrite (some n)).map fun lock => { s.goto n pc with lock := lock }

def releaseRead (s : LabelState) (n : ℕ) (pc : Pc) : LabelState :=
  { s.goto n pc with lock := s.lock.unlockRead (some n) }

def releaseWrite (s : LabelState) (n : ℕ) (pc : Pc) : LabelState :=
  { s.goto n pc with lock := s.lock.unlockWrite }

def withTask (s : LabelState) (task : Option TaskThread) : LabelState := { s with task := task }

/-- `run = false`, with which a join begins. -/
def stop (s : LabelState) : LabelState :=
  s.withTask (s.task.map fun t => { t with run := false })

def taskEnded (s : LabelState) : Bool := s.task.all fun t => decide (t.pc = .ended)

/-! ## Steps -/

/-- The next step of the thread `n`; `succeeds` is what `try_enable` and `is_configured` say. -/
def agentStep (s : LabelState) (n : ℕ) (succeeds : Bool) : Option LabelState :=
  match s.agents n with
  | .idle => none
  | .statusLock => s.acquireRead n .statusHeld
  | .statusHeld => some (s.releaseRead n .idle)
  | .enableLock => s.acquireWrite n .enableHeld
  | .enableHeld =>
    if s.task.isNone && succeeds then some ((s.withTask (some enabledTask)).releaseWrite n .idle)
    else some (s.releaseWrite n .idle)
  | .disableLock => s.acquireWrite n .disableHeld
  | .disableHeld =>
    if s.task.isSome then some (s.stop.goto n .disableJoin) else some (s.releaseWrite n .idle)
  | .disableJoin =>
    if s.taskEnded then some ((s.withTask none).releaseWrite n (.notify none)) else none
  | .testLock blocking => s.acquireWrite n (.testHeld blocking)
  | .testHeld blocking =>
    match s.task with
    | none => some ((s.withTask (some testTask)).releaseWrite n (.notify (some blocking)))
    | some t =>
      if t.testing then
        if blocking then some (s.stop.goto n .testRunningJoin) else some (s.releaseWrite n .idle)
      else some (s.stop.goto n (.testEraseJoin blocking))
  | .testRunningJoin => if s.taskEnded then some (s.releaseWrite n .idle) else none
  | .testEraseJoin blocking =>
    if s.taskEnded then
      some ((s.withTask (some testTask)).releaseWrite n (.notify (some blocking)))
    else none
  | .notify after =>
    if s.observers = 0 then some (s.goto n after.pc) else some (s.goto n (.notifyLock after))
  | .notifyLock after => s.acquireRead n (.notifyHeld after)
  | .notifyHeld after => some (s.releaseRead n after.pc)
  | .testEndLock blocking => s.acquireRead n (.testEndHeld blocking)
  | .testEndHeld blocking =>
    if s.task.isSome && blocking then some (s.stop.goto n .testEndJoin)
    else some (s.releaseRead n .idle)
  | .testEndJoin => if s.taskEnded then some (s.releaseRead n .idle) else none
  | .cleanLock => s.acquireWrite n .cleanHeld
  | .cleanHeld =>
    if s.task.isSome then some (s.stop.goto n .cleanJoin) else some (s.releaseWrite n .enableLock)
  | .cleanJoin =>
    if s.taskEnded then some ((s.withTask none).releaseWrite n .enableLock) else none

/-- The next step of the thread of the task `t`; a test leaves the thread `helper` behind. -/
def taskStep (s : LabelState) (t : TaskThread) (helper : ℕ) : Option LabelState :=
  let at_ (pc : TaskPc) := s.withTask (some { t with pc := pc })
  match t.pc with
  | .check => some (at_ (if t.run then .notify else .finish))
  | .notify => some (at_ (if s.observers = 0 then .update else .statusLock))
  | .statusLock =>
    (s.lock.lockRead none).map fun lock => { at_ .statusHeld with lock := lock }
  | .statusHeld => some { at_ .update with lock := s.lock.unlockRead none }
  | .update => some (at_ .check)
  | .finish => some (at_ .ended)
  | .testing => some (at_ .resetLock)
  | .resetLock =>
    (s.lock.lockRead none).map fun lock => { at_ .resetHeld with lock := lock }
  | .resetHeld =>
    some { s.withTask (some { t with testing := false, pc := .save }) with
      lock := s.lock.unlockRead none }
  | .save => some (at_ .spawn)
  | .spawn => if s.agents helper = .idle then some ((at_ .ended).goto helper .cleanLock) else none
  | .ended => none

end LabelState

inductive Call
  | status
  | enable
  | disable
  | test (blocking : Bool)

def Call.pc : Call → Pc
  | .status => .statusLock
  | .enable => .enableLock
  | .disable => .disableLock
  | .test blocking => .testLock blocking

inductive LabelAction
  | call (client : ℕ) (call : Call)
  | agent (n : ℕ) (succeeds : Bool)
  | task (helper : ℕ)
  | subscribe
  | unsubscribe

def LabelState.next (s : LabelState) : LabelAction → Option LabelState
  | .call client call =>
    if s.agents client = .idle then some (s.goto client call.pc) else none
  | .agent n succeeds => s.agentStep n succeeds
  | .task helper => s.task.bind fun t => s.taskStep t helper
  | .subscribe => some { s with observers := s.observers + 1 }
  | .unsubscribe => some { s with observers := s.observers - 1 }

def labelSystem : Transition.System LabelState LabelAction :=
  Transition.ofStep {} LabelState.next

/-! ## Waiting for each other -/

/-- A thread that holds the mutex waits to join that of the task, which waits for the mutex. -/
def Deadlocked (s : LabelState) : Prop :=
  ∃ n t, (s.agents n).joins = true ∧ (s.agents n).mode ≠ .free ∧ s.task = some t ∧
    (t.pc = .statusLock ∨ t.pc = .resetLock) ∧ s.lock.writer ≠ none

/-- The thread of the task has to take the mutex before it can end, even if it is told to stop: it
has yet to complete a test, or to look up a status. -/
def StillLocks (t : TaskThread) : Prop :=
  t.pc = .testing ∨ t.pc = .resetLock ∨ t.pc = .statusLock

instance (t : TaskThread) : Decidable (StillLocks t) := inferInstanceAs (Decidable (_ ∨ _ ∨ _))

/-- The next step of a thread is a join under the write lock. -/
def StartsJoin (task : TaskThread) : Pc → Prop
  | .disableHeld | .cleanHeld => True
  | .testHeld blocking => task.testing = true → blocking = true
  | _ => False

/-- No step begins to join, under the write lock, a thread that still has to take the mutex, and
a thread that is joined so finds no observers to notify. -/
def JoinsSafely (s : LabelState) : LabelAction → Prop
  | .agent n _ => ∀ t, s.task = some t → StartsJoin t (s.agents n) → ¬ StillLocks t
  | .task _ => ∀ n t, (s.agents n).joins = true → (s.agents n).mode = .write →
      s.task = some t → t.pc = .notify → s.observers = 0
  | .call _ _ | .subscribe | .unsubscribe => True

namespace LabelState

variable {s s' : LabelState}

/-! ## Who holds what after a step -/

theorem mode_goto (s : LabelState) (n : ℕ) (pc : Pc) :
    (s.goto n pc).mode = Function.update s.mode (some n) pc.mode := by
  funext k
  cases k with
  | none => rfl
  | some m =>
    by_cases hm : m = n
    · subst hm
      simp [mode, goto]
    · simp [mode, goto, Function.update_of_ne, hm]

theorem mode_withTask (s : LabelState) (task : Option TaskThread) :
    (s.withTask task).mode =
      Function.update s.mode none ((task.map fun t => t.pc.mode).getD .free) := by
  funext k
  cases k <;> rfl

theorem mode_stop (s : LabelState) : s.stop.mode = s.mode := by
  funext k
  cases k with
  | none =>
    simp only [mode, stop, withTask]
    cases s.task <;> rfl
  | some m => rfl

inductive AgentMoves (s : LabelState) (n : ℕ) : LabelState → Prop
  | goto {pc : Pc} : pc.mode = (s.agents n).mode → (pc.mode = .write → pc.joins = false) →
      AgentMoves s n (s.goto n pc)
  | join {pc : Pc} : pc.mode = (s.agents n).mode →
      (pc.mode = .write → ∀ t, s.task = some t → StartsJoin t (s.agents n)) →
      AgentMoves s n (s.stop.goto n pc)
  | lockRead {pc : Pc} {lock : Lock (Option ℕ)} : s.lock.lockRead (some n) = some lock →
      pc.mode = .read → AgentMoves s n { s.goto n pc with lock := lock }
  | lockWrite {pc : Pc} {lock : Lock (Option ℕ)} : s.lock.lockWrite (some n) = some lock →
      pc.mode = .write → pc.joins = false → AgentMoves s n { s.goto n pc with lock := lock }
  | unlockRead {pc : Pc} : pc.mode = .free → AgentMoves s n (s.releaseRead n pc)
  | unlockWrite {pc : Pc} : (s.agents n).mode = .write → pc.mode = .free →
      AgentMoves s n (s.releaseWrite n pc)
  | replace {pc : Pc} {task : Option TaskThread} : (s.agents n).mode = .write → pc.mode = .free →
      (task.map fun t => t.pc.mode).getD .free = .free →
      AgentMoves s n ((s.withTask task).releaseWrite n pc)

theorem agentMoves_acquireRead {n : ℕ} {pc : Pc} (h : s.acquireRead n pc = some s')
    (hpc : pc.mode = .read) : AgentMoves s n s' := by
  obtain ⟨lock, hlock, rfl⟩ := Option.map_eq_some_iff.mp h
  exact .lockRead hlock hpc

theorem agentMoves_acquireWrite {n : ℕ} {pc : Pc} (h : s.acquireWrite n pc = some s')
    (hpc : pc.mode = .write) (hjoins : pc.joins = false) : AgentMoves s n s' := by
  obtain ⟨lock, hlock, rfl⟩ := Option.map_eq_some_iff.mp h
  exact .lockWrite hlock hpc hjoins

theorem agentMoves_of_step {n : ℕ} {succeeds : Bool} (h : s.agentStep n succeeds = some s') :
    AgentMoves s n s' := by
  unfold agentStep at h
  cases hpc : s.agents n <;> rw [hpc] at h <;> simp only at h
  case idle => cases h
  case statusLock | notifyLock | testEndLock => exact agentMoves_acquireRead h rfl
  case enableLock | disableLock | testLock | cleanLock => exact agentMoves_acquireWrite h rfl rfl
  case statusHeld =>
    obtain rfl := Option.some.inj h
    exact .unlockRead rfl
  case notifyHeld after =>
    obtain rfl := Option.some.inj h
    exact .unlockRead (AfterNotify.mode_pc after)
  case enableHeld =>
    split_ifs at h
    · obtain rfl := Option.some.inj h
      exact .replace (by rw [hpc]; rfl) rfl rfl
    · obtain rfl := Option.some.inj h
      exact .unlockWrite (by rw [hpc]; rfl) rfl
  case disableHeld | cleanHeld =>
    split_ifs at h
    · obtain rfl := Option.some.inj h
      exact .join (by rw [hpc]; rfl) fun _ _ _ => by rw [hpc]; trivial
    · obtain rfl := Option.some.inj h
      exact .unlockWrite (by rw [hpc]; rfl) rfl
  case disableJoin | testEraseJoin | cleanJoin =>
    split_ifs at h
    obtain rfl := Option.some.inj h
    exact .replace (by rw [hpc]; rfl) rfl rfl
  case testRunningJoin =>
    split_ifs at h
    obtain rfl := Option.some.inj h
    exact .unlockWrite (by rw [hpc]; rfl) rfl
  case testHeld blocking =>
    cases htask : s.task with
    | none =>
      rw [htask] at h
      obtain rfl := Option.some.inj h
      exact .replace (by rw [hpc]; rfl) rfl rfl
    | some t =>
      rw [htask] at h
      simp only at h
      split_ifs at h with htesting hblocking
      · obtain rfl := Option.some.inj h
        exact .join (by rw [hpc]; rfl) fun _ _ _ => by rw [hpc]; exact fun _ => hblocking
      · obtain rfl := Option.some.inj h
        exact .unlockWrite (by rw [hpc]; rfl) rfl
      · obtain rfl := Option.some.inj h
        refine .join (by rw [hpc]; rfl) fun _ t' ht' => ?_
        obtain rfl := Option.some.inj (htask.symm.trans ht')
        rw [hpc]
        exact fun h => absurd h htesting
  case notify after =>
    split_ifs at h
    · obtain rfl := Option.some.inj h
      exact .goto (by rw [hpc, AfterNotify.mode_pc]; rfl) fun hw => by
        rw [AfterNotify.mode_pc] at hw
        cases hw
    · obtain rfl := Option.some.inj h
      exact .goto (by rw [hpc]; rfl) fun _ => rfl
  case testEndHeld =>
    split_ifs at h
    · obtain rfl := Option.some.inj h
      exact .join (by rw [hpc]; rfl) nofun
    · obtain rfl := Option.some.inj h
      exact .unlockRead rfl
  case testEndJoin =>
    split_ifs at h
    obtain rfl := Option.some.inj h
    exact .unlockRead rfl

/-! ## The invariant -/

/-- The mutex fits what the threads hold, and a thread that is joined under the write lock has been
told to stop and does not take the mutex any more. -/
structure Inv (s : LabelState) : Prop where
  fits : Fits s.mode s.lock
  joined : ∀ n t, (s.agents n).joins = true → (s.agents n).mode = .write → s.task = some t →
    t.run = false ∧ ¬ StillLocks t

theorem inv_start : Inv {} where
  fits := by
    have hmode : ({} : LabelState).mode = fun _ => Mode.free := by
      funext k
      cases k <;> rfl
    rw [hmode]
    exact fits_free
  joined _ _ h := nomatch h

theorem mode_some {n : ℕ} : s.mode (some n) = (s.agents n).mode := rfl

/-- A thread other than `n` that joins under the write lock did so before `n` moved. -/
theorem Inv.joined_of_goto (hs : Inv s) {n m : ℕ} {pc : Pc} {t : TaskThread}
    (hpc : pc.mode = .write → pc.joins = false) (hj : ((s.goto n pc).agents m).joins = true)
    (hw : ((s.goto n pc).agents m).mode = .write) (ht : s.task = some t) :
    t.run = false ∧ ¬ StillLocks t := by
  by_cases hmn : m = n
  · subst hmn
    have hself : (s.goto m pc).agents m = pc := Function.update_self ..
    rw [hself] at hj hw
    rw [hpc hw] at hj
    cases hj
  · have hother : (s.goto n pc).agents m = s.agents m := Function.update_of_ne hmn ..
    rw [hother] at hj hw
    exact hs.joined m t hj hw ht

/-- The thread `n` goes on, and the mutex changes so as to fit what `n` holds then. -/
theorem Inv.withLock (hs : Inv s) {n : ℕ} {pc : Pc} {lock : Lock (Option ℕ)}
    (hfits : Fits (Function.update s.mode (some n) pc.mode) lock)
    (hjoins : pc.mode = .write → pc.joins = false) : Inv { s.goto n pc with lock := lock } where
  fits := by
    show Fits (s.goto n pc).mode lock
    rw [mode_goto]
    exact hfits
  joined _ _ hj hw ht := hs.joined_of_goto hjoins hj hw ht

/-- The thread `n` begins a join. -/
theorem Inv.join (hs : Inv s) {n : ℕ} {pc : Pc} (hmode : pc.mode = (s.agents n).mode)
    (hlocks : pc.mode = .write → ∀ t, s.task = some t → ¬ StillLocks t) :
    Inv (s.stop.goto n pc) where
  fits := by
    rw [mode_goto, hmode, mode_stop, ← mode_some, Function.update_eq_self]
    exact hs.fits
  joined m t hj hw ht := by
    obtain ⟨t', ht', rfl⟩ := Option.map_eq_some_iff.mp ht
    refine ⟨rfl, ?_⟩
    by_cases hmn : m = n
    · subst hmn
      have hself : (s.stop.goto m pc).agents m = pc := Function.update_self ..
      rw [hself] at hw
      exact hlocks hw t' ht'
    · have hother : (s.stop.goto n pc).agents m = s.agents m := Function.update_of_ne hmn ..
      rw [hother] at hj hw
      exact (hs.joined m t' hj hw ht').2

/-- The thread `n`, the only one with the write lock, replaces the task and lets go. -/
theorem Inv.replace (hs : Inv s) {n : ℕ} {pc : Pc} {task : Option TaskThread}
    (hmode : (s.agents n).mode = .write) (hpc : pc.mode = .free)
    (htask : (task.map fun t => t.pc.mode).getD .free = .free) :
    Inv ((s.withTask task).releaseWrite n pc) where
  fits := by
    show Fits ((s.withTask task).goto n pc).mode _
    rw [mode_goto, mode_withTask, hpc, htask]
    apply (hs.fits.drop none).unlockWrite
    rw [Function.update_of_ne (by simp)]
    exact hmode
  joined m t hj hw ht := by
    by_cases hmn : m = n
    · subst hmn
      have hself : ((s.withTask task).releaseWrite m pc).agents m = pc := Function.update_self ..
      rw [hself, hpc] at hw
      cases hw
    · have hother : ((s.withTask task).releaseWrite n pc).agents m = s.agents m :=
        Function.update_of_ne hmn ..
      rw [hother] at hw
      exact absurd (Option.some.inj (hs.fits.writer_unique (t := some m) (u := some n) hw hmode))
        hmn

theorem Inv.agentMoves (hs : Inv s) {n : ℕ} (h : AgentMoves s n s')
    (hok : ∀ t, s.task = some t → StartsJoin t (s.agents n) → ¬ StillLocks t) :
    Inv s' := by
  cases h with
  | @goto pc hmode hjoins =>
    refine ⟨?_, fun m t hj hw ht => hs.joined_of_goto hjoins hj hw ht⟩
    rw [mode_goto, hmode, ← mode_some, Function.update_eq_self]
    exact hs.fits
  | join hmode hstarts => exact hs.join hmode fun hw t ht => hok t ht (hstarts hw t ht)
  | lockRead hlock hpc =>
    refine hs.withLock ?_ (by rw [hpc]; nofun)
    rw [hpc]
    exact hs.fits.lockRead hlock
  | lockWrite hlock hpc hjoins =>
    refine hs.withLock ?_ fun _ => hjoins
    rw [hpc]
    exact hs.fits.lockWrite hlock
  | unlockRead hpc =>
    refine hs.withLock ?_ (by rw [hpc]; nofun)
    rw [hpc]
    exact hs.fits.unlockRead (some n)
  | unlockWrite hmode hpc =>
    refine hs.withLock ?_ (by rw [hpc]; nofun)
    rw [hpc]
    exact hs.fits.unlockWrite hmode
  | replace hmode hpc htask => exact hs.replace hmode hpc htask

theorem Inv.withThread (hs : Inv s) {t t' : TaskThread} {lock : Lock (Option ℕ)} {helper : ℕ}
    (ht : s.task = some t) (hfits : Fits (Function.update s.mode none t'.pc.mode) lock)
    (hok : JoinsSafely s (.task helper))
    (hpast : t.run = false → (t.pc = .notify → s.observers = 0) → ¬ StillLocks t →
      t'.run = false ∧ ¬ StillLocks t') :
    Inv { s.withTask (some t') with lock := lock } where
  fits := by
    show Fits (s.withTask (some t')).mode lock
    rw [mode_withTask]
    exact hfits
  joined m x hj hw hx := by
    obtain rfl := Option.some.inj hx
    obtain ⟨hrun, hlocks⟩ := hs.joined m t hj hw ht
    exact hpast hrun (hok m t hj hw ht) hlocks

theorem mode_none {t : TaskThread} (ht : s.task = some t) : s.mode none = t.pc.mode := by
  simp [mode, ht]

theorem Inv.withPc (hs : Inv s) {t : TaskThread} {pc : TaskPc} {helper : ℕ} (ht : s.task = some t)
    (hmode : pc.mode = t.pc.mode) (hok : JoinsSafely s (.task helper))
    (hpast : t.run = false → (t.pc = .notify → s.observers = 0) → ¬ StillLocks t →
      ¬ StillLocks { t with pc := pc }) :
    Inv (s.withTask (some { t with pc := pc })) := by
  have hfits : Fits (Function.update s.mode none pc.mode) s.lock := by
    rw [hmode, ← mode_none ht, Function.update_eq_self]
    exact hs.fits
  exact hs.withThread ht hfits hok fun hrun hnone h => ⟨hrun, hpast hrun hnone h⟩

theorem not_stillLocks {t : TaskThread} (h : t.pc ∉ [TaskPc.testing, .resetLock, .statusLock]) :
    ¬ StillLocks t := by
  simp only [List.mem_cons, List.not_mem_nil, or_false] at h
  exact h

theorem Inv.taskStep (hs : Inv s) {t : TaskThread} (ht : s.task = some t) {helper : ℕ}
    (hok : JoinsSafely s (.task helper)) (h : s.taskStep t helper = some s') : Inv s' := by
  unfold LabelState.taskStep at h
  cases hpc : t.pc <;> rw [hpc] at h <;> simp only at h
  case check =>
    obtain rfl := Option.some.inj h
    refine hs.withPc ht ?_ hok fun hrun _ _ => not_stillLocks ?_
    · rw [hpc]
      split_ifs <;> rfl
    · simp [hrun]
  case notify =>
    obtain rfl := Option.some.inj h
    refine hs.withPc ht ?_ hok fun _ hnone _ => not_stillLocks ?_
    · rw [hpc]
      split_ifs <;> rfl
    · simp [hnone hpc]
  case statusLock =>
    obtain ⟨lock, hlock, rfl⟩ := Option.map_eq_some_iff.mp h
    exact hs.withThread ht (hs.fits.lockRead hlock) hok fun hrun _ _ =>
      ⟨hrun, not_stillLocks (by simp)⟩
  case statusHeld =>
    obtain rfl := Option.some.inj h
    exact hs.withThread ht (hs.fits.unlockRead none) hok fun hrun _ _ =>
      ⟨hrun, not_stillLocks (by simp)⟩
  case update =>
    obtain rfl := Option.some.inj h
    exact hs.withPc ht (by rw [hpc]; rfl) hok fun _ _ _ => not_stillLocks (by simp)
  case finish =>
    obtain rfl := Option.some.inj h
    exact hs.withPc ht (by rw [hpc]; rfl) hok fun _ _ _ => not_stillLocks (by simp)
  case testing =>
    obtain rfl := Option.some.inj h
    exact hs.withPc ht (by rw [hpc]; rfl) hok fun _ _ hlocks => absurd (Or.inl hpc) hlocks
  case resetLock =>
    obtain ⟨lock, hlock, rfl⟩ := Option.map_eq_some_iff.mp h
    exact hs.withThread ht (hs.fits.lockRead hlock) hok fun hrun _ _ =>
      ⟨hrun, not_stillLocks (by simp)⟩
  case resetHeld =>
    obtain rfl := Option.some.inj h
    exact @Inv.withThread s hs t { t with testing := false, pc := .save } _ helper ht
      (hs.fits.unlockRead none) hok fun hrun _ _ => ⟨hrun, not_stillLocks (by simp)⟩
  case save =>
    obtain rfl := Option.some.inj h
    exact hs.withPc ht (by rw [hpc]; rfl) hok fun _ _ _ => not_stillLocks (by simp)
  case spawn =>
    split_ifs at h with hidle
    obtain rfl := Option.some.inj h
    have hended : Inv (s.withTask (some { t with pc := .ended })) :=
      hs.withPc ht (by rw [hpc]; rfl) hok fun _ _ _ => not_stillLocks (by simp)
    have hmoves : AgentMoves (s.withTask (some { t with pc := .ended })) helper
        ((s.withTask (some { t with pc := .ended })).goto helper .cleanLock) :=
      .goto (by change _ = (s.agents helper).mode; rw [hidle]; rfl) nofun
    refine hended.agentMoves hmoves fun _ _ hstarts => ?_
    change StartsJoin _ (s.agents helper) at hstarts
    rw [hidle] at hstarts
    cases hstarts
  case ended => cases h

/-! ## Runs -/

theorem Inv.next (hs : Inv s) {a : LabelAction} (hok : JoinsSafely s a) (h : s.next a = some s') :
    Inv s' := by
  cases a with
  | call client call =>
    simp only [LabelState.next] at h
    split_ifs at h with hidle
    obtain rfl := Option.some.inj h
    have hmode : call.pc.mode = (s.agents client).mode := by
      rw [hidle]
      cases call <;> rfl
    refine hs.agentMoves (.goto hmode fun hw => ?_) fun t _ hstarts => ?_
    · rw [hmode, hidle] at hw
      cases hw
    · rw [hidle] at hstarts
      cases hstarts
  | agent n succeeds => exact hs.agentMoves (agentMoves_of_step h) hok
  | task helper =>
    obtain ⟨t, ht, h⟩ := Option.bind_eq_some_iff.mp h
    exact hs.taskStep ht hok h
  | subscribe =>
    obtain rfl := Option.some.inj h
    exact ⟨hs.fits, hs.joined⟩
  | unsubscribe =>
    obtain rfl := Option.some.inj h
    exact ⟨hs.fits, hs.joined⟩

theorem Inv.not_deadlocked (hs : Inv s) : ¬ Deadlocked s := by
  rintro ⟨n, t, hjoins, hholds, ht, hwaits, hwriter⟩
  cases hmode : (s.agents n).mode with
  | free => exact hholds hmode
  | read => exact hwriter (hs.fits.writer_eq_none (t := some n) hmode)
  | write =>
    apply (hs.joined n t hjoins hmode ht).2
    rcases hwaits with hpc | hpc
    · exact Or.inr (Or.inr hpc)
    · exact Or.inr (Or.inl hpc)

/-- **In a run that joins safely no thread waits for a task thread that waits for it.** -/
theorem never_deadlocked (s : LabelState)
    (h : Transition.ReachableWhen labelSystem JoinsSafely s) : ¬ Deadlocked s := by
  have hinv : Inv s := by
    refine Transition.ReachableWhen.invariant Inv ?_ ?_ h
    · rintro _ rfl
      exact inv_start
    · exact fun s a s' hs hok hstep => hs.next hok hstep
  exact hinv.not_deadlocked

/-- A test for `JoinsSafely`, which fails on some safe steps too. -/
def joinsSafely (s : LabelState) : LabelAction → Bool
  | .agent _ _ => s.task.all fun t => !decide (StillLocks t)
  | .task _ => decide (s.observers = 0) || s.task.all fun t => !decide (t.pc = .notify)
  | .call _ _ | .subscribe | .unsubscribe => true

theorem joinsSafely_ok (s : LabelState) (a : LabelAction) (h : joinsSafely s a = true) :
    JoinsSafely s a := by
  cases a with
  | agent n succeeds =>
    intro t ht _
    rw [joinsSafely, ht] at h
    simpa using h
  | task helper =>
    intro n t _ _ ht hpc
    rw [joinsSafely, ht, Bool.or_eq_true] at h
    rcases h with h | h
    · exact of_decide_eq_true h
    · simp [hpc] at h
  | call client call => trivial
  | subscribe => trivial
  | unsubscribe => trivial

/-- A fan is enabled and observed, and disabled once its thread is past the notification. -/
theorem never_deadlocked_disable :
    ∃ s, (s.agents 1 = .disableJoin ∧ s.observers = 1) ∧ ¬ Deadlocked s := by
  obtain ⟨s, hs, hp⟩ := Transition.reachableWhen_of_run {} LabelState.next joinsSafely_ok
    [.call 0 .enable, .agent 0 true, .agent 0 true, .task 5, .task 5, .subscribe, .task 5,
      .call 1 .disable, .agent 1 true, .agent 1 true, .task 5]
    (fun s => decide (s.agents 1 = .disableJoin ∧ s.observers = 1)) (by decide +kernel)
  exact ⟨s, of_decide_eq_true hp, never_deadlocked s hs⟩

/-- A second blocking test begins before the first one waits for its own. -/
theorem second_test_deadlocks :
    ¬ ∀ s, Transition.Reachable labelSystem s → ¬ Deadlocked s := by
  intro h
  obtain ⟨s, hs, hp⟩ := Transition.reachable_of_run {} LabelState.next
    [.call 0 (.test true), .agent 0 true, .agent 0 true, .call 1 (.test true), .agent 1 true,
      .agent 1 true, .task 5]
    (fun s => decide (s.agents 1 = .testRunningJoin ∧
      s.task = some ⟨true, false, .resetLock⟩ ∧ s.lock.writer = some (some 1)))
    (by decide +kernel)
  obtain ⟨hjoin, htask, hwriter⟩ := of_decide_eq_true hp
  refine h s hs ⟨1, _, ?_, ?_, htask, Or.inr rfl, ?_⟩
  · rw [hjoin]
    rfl
  · rw [hjoin]
    nofun
  · rw [hwriter]
    nofun

end LabelState

end Fancon
