import Fancon.Lib.SharedMutex
import Fancon.Lib.Transition

/-! # The lock of the config file

The threads that take `config_mutex`, which is not recursive: the watcher, any number of clients
that call `reload`, `set_devices`, `test` and `nv_init`, and the threads of tests. The config file
changes at any time; only the time of its last write matters here.

The watcher holds the mutex while it calls `reload`, and `read_config` takes it again. So the
watcher waits for itself at every tick that finds the file modified (`noticed_never_completes`),
and no thread does while no tick finds it so (`locks_safely`).
-/
set_option autoImplicit false
set_option maxHeartbeats 250000
set_option maxRecDepth 120000

namespace Fancon

open SharedMutex

/-! ## Threads -/

inductive ConfigThread
  | watcher
  | client (n : ℕ)
  | test (k : ℕ)
deriving DecidableEq

/-- What follows once an operation is done with the tasks: `to_file`, or nothing. -/
inductive AfterTasks
  | done
  | save
deriving DecidableEq

/-- Where a thread is in an operation. `Lock` waits for the mutex; after it the thread has it. In
`tasks` it works on the tasks without having locked the mutex, and in `join` it waits for the
thread of a test to end. -/
inductive ConfigPc
  | idle
  | readLock
  | readHeld
  | tasks (after : AfterTasks)
  | join (test : ℕ) (after : AfterTasks)
  | saveLock
  | saveOpen
  | saveRecord
  | saveClose
deriving DecidableEq

namespace ConfigPc

def mode : ConfigPc → Mode
  | .readHeld | .saveOpen | .saveRecord | .saveClose => .write
  | _ => .free

def wants : ConfigPc → Bool
  | .readLock | .saveLock => true
  | _ => false

def joins : ConfigPc → Option ℕ
  | .join test _ => some test
  | _ => none

theorem mode_of_wants {pc : ConfigPc} (h : pc.wants = true) : pc.mode = .free := by
  cases pc <;> first | rfl | cases h

theorem mode_of_joins {pc : ConfigPc} {k : ℕ} (h : pc.joins = some k) : pc.mode = .free := by
  cases pc <;> first | rfl | cases h

end ConfigPc

def AfterTasks.pc : AfterTasks → ConfigPc
  | .done => .idle
  | .save => .saveLock

theorem AfterTasks.mode_pc (after : AfterTasks) : after.pc.mode = .free := by
  cases after <;> rfl

inductive WatcherPc
  | start
  | lock
  | held
  | noticed
  | reload (pc : ConfigPc)
  | sleep
deriving DecidableEq

namespace WatcherPc

/-- The guard of the loop has the mutex until the end of the tick. -/
def mode : WatcherPc → Mode
  | .held | .noticed | .reload _ => .write
  | _ => .free

def wants : WatcherPc → Bool
  | .lock => true
  | .reload pc => pc.wants
  | _ => false

def joins : WatcherPc → Option ℕ
  | .reload pc => pc.joins
  | _ => none

def reloads : WatcherPc → Bool
  | .noticed | .reload _ => true
  | _ => false

end WatcherPc

/-- Where the thread of a test is: `count` is past `test_status.reset()`. -/
inductive TestPc
  | testing
  | count
  | saves (pc : ConfigPc)
  | ended
deriving DecidableEq

namespace TestPc

def mode : TestPc → Mode
  | .saves pc => pc.mode
  | _ => .free

def wants : TestPc → Bool
  | .saves pc => pc.wants
  | _ => false

/-- The thread may still have to lock the mutex in `to_file`. -/
def stillSaves : TestPc → Bool
  | .testing | .count | .saves .saveLock => true
  | _ => false

theorem mode_of_wants {pc : TestPc} (h : pc.wants = true) : pc.mode = .free := by
  cases pc with
  | saves pc => exact ConfigPc.mode_of_wants h
  | testing | count | ended => rfl

end TestPc

/-! ## States -/

structure ConfigState where
  lock : Lock ConfigThread := {}
  /-- `last_write_time` of the file, if it exists. -/
  file : Option ℕ
  configWriteTime : ℕ
  watcher : WatcherPc := .start
  clients : ℕ → ConfigPc := fun _ => .idle
  tests : List TestPc := []

namespace ConfigState

def mode (s : ConfigState) : ConfigThread → Mode
  | .watcher => s.watcher.mode
  | .client n => (s.clients n).mode
  | .test k => (s.tests[k]?.map TestPc.mode).getD .free

def wants (s : ConfigState) : ConfigThread → Bool
  | .watcher => s.watcher.wants
  | .client n => (s.clients n).wants
  | .test k => (s.tests[k]?.map TestPc.wants).getD false

/-- The test whose thread the thread waits to join. -/
def joins (s : ConfigState) : ConfigThread → Option ℕ
  | .watcher => s.watcher.joins
  | .client n => (s.clients n).joins
  | .test _ => none

def updateConfigWriteTime (s : ConfigState) : ConfigState :=
  match s.file with
  | none => s
  | some time => { s with configWriteTime := time }

def configFileModified (s : ConfigState) : Bool :=
  match s.file with
  | none => false
  | some time => decide (s.configWriteTime ≠ time)

def testsRunning (s : ConfigState) : ℕ := s.tests.countP fun pc => decide (pc = .testing)

/-! ## Steps -/

/-- What a thread chooses where it can: to go on, to join the thread of a test, to start a test, or
the time at which the file is written. -/
inductive Choice
  | proceed
  | join (test : ℕ)
  | test
  | write (time : ℕ)

def written (s : ConfigState) : Choice → ConfigState
  | .write time => { s with file := some time }
  | _ => s

def opStep (s : ConfigState) (t : ConfigThread) (choice : Choice) :
    ConfigPc → Option (ConfigState × ConfigPc)
  | .idle => none
  | .readLock => (s.lock.lockWrite t).map fun lock => ({ s with lock := lock }, .readHeld)
  | .readHeld =>
    some ({ s.updateConfigWriteTime with lock := s.lock.unlockWrite }, .tasks .done)
  | .tasks after =>
    match choice with
    | .join k => if k < s.tests.length then some (s, .join k after) else none
    | .test =>
      if after = .done then some ({ s with tests := s.tests ++ [.testing] }, .tasks after) else none
    | _ => some (s, after.pc)
  | .join k after => if s.tests[k]? = some .ended then some (s, .tasks after) else none
  | .saveLock => (s.lock.lockWrite t).map fun lock => ({ s with lock := lock }, .saveOpen)
  | .saveOpen => some (s.written choice, .saveRecord)
  | .saveRecord => some (s.updateConfigWriteTime, .saveClose)
  -- what the stream has buffered is written when it is destroyed, before the guard is
  | .saveClose => some ({ s.written choice with lock := s.lock.unlockWrite }, .idle)

def clientStep (s : ConfigState) (n : ℕ) (choice : Choice) : Option ConfigState :=
  (s.opStep (.client n) choice (s.clients n)).map fun r =>
    { r.1 with clients := Function.update r.1.clients n r.2 }

def testStep (s : ConfigState) (k : ℕ) (choice : Choice) : TestPc → Option ConfigState
  | .testing => some { s with tests := s.tests.set k .count }
  | .count =>
    some { s with tests := s.tests.set k (if s.testsRunning = 0 then .saves .saveLock else .ended) }
  | .saves .idle => some { s with tests := s.tests.set k .ended }
  | .saves pc => (s.opStep (.test k) choice pc).map fun r =>
      { r.1 with tests := r.1.tests.set k (.saves r.2) }
  | .ended => none

def watcherStep (s : ConfigState) (choice : Choice) : Option ConfigState :=
  match s.watcher with
  | .start => some { s.updateConfigWriteTime with watcher := .lock }
  | .lock =>
    (s.lock.lockWrite .watcher).map fun lock => { s with lock := lock, watcher := .held }
  | .held =>
    if s.configFileModified then some { s with watcher := .noticed }
    else some { s with lock := s.lock.unlockWrite, watcher := .sleep }
  -- `reload` first merges the enumerated devices, which replaces none and joins nothing
  | .noticed => some { s.updateConfigWriteTime with watcher := .reload .readLock }
  | .reload .idle => some { s with lock := s.lock.unlockWrite, watcher := .sleep }
  | .reload pc => (s.opStep .watcher choice pc).map fun r => { r.1 with watcher := .reload r.2 }
  | .sleep => some { s with watcher := .lock }

end ConfigState

open ConfigState (Choice)

/-- The operations of a client; `initialised` is what `NV::init` says. -/
inductive ConfigCall
  | reload
  | setDevices
  | test
  | nvInit (initialised : Bool)

def ConfigCall.pc : ConfigCall → ConfigPc
  | .reload => .readLock
  | .setDevices => .tasks .save
  | .test => .tasks .done
  | .nvInit initialised => if initialised then .readLock else .idle

inductive ConfigAction
  | call (client : ℕ) (call : ConfigCall)
  | client (n : ℕ) (choice : Choice)
  | test (k : ℕ) (choice : Choice)
  | watcher (choice : Choice)
  | file (time : Option ℕ)

def ConfigState.next (s : ConfigState) : ConfigAction → Option ConfigState
  | .call n call =>
    if s.clients n = .idle then some { s with clients := Function.update s.clients n call.pc }
    else none
  | .client n choice => s.clientStep n choice
  | .test k choice => s.tests[k]?.bind (s.testStep k choice)
  | .watcher choice => s.watcherStep choice
  | .file time => some { s with file := time }

/-- The threads once the controller is constructed. -/
def configSystem (file : Option ℕ) (configWriteTime : ℕ) :
    Transition.System ConfigState ConfigAction :=
  Transition.ofStep { file, configWriteTime } ConfigState.next

/-! ## Waiting for oneself -/

/-- No thread waits for the mutex that it has, none that has it waits for the thread of a test that
may lock it, and the watcher can complete a reload it has begun. -/
structure LocksSafely (s : ConfigState) : Prop where
  own : ∀ t, s.wants t = true → s.lock.writer ≠ some t
  joining : ∀ t k pc, s.lock.writer = some t → s.joins t = some k → s.tests[k]? = some pc →
    pc.stillSaves = false
  completes : s.watcher.reloads = true →
    ∃ s', Transition.Reachable (Transition.ofStep s ConfigState.next) s' ∧ s'.watcher = .sleep

/-- A tick of the watcher does not find the file modified. -/
def Unmodified (s : ConfigState) : ConfigAction → Prop
  | .watcher _ => s.watcher = .held → s.configFileModified = false
  | .call _ _ | .client _ _ | .test _ _ | .file _ => True

namespace ConfigState

variable {s s' : ConfigState}

/-! ## What an operation changes -/

/-- A step of an operation: what it does with the mutex, and the tests it starts. -/
structure OpMoves (s : ConfigState) (t : ConfigThread) (pc : ConfigPc) (s' : ConfigState)
    (pc' : ConfigPc) : Prop where
  lock : Moves t s.lock pc.mode pc'.mode s'.lock
  watcher : s'.watcher = s.watcher
  clients : s'.clients = s.clients
  tests : ∃ n, s'.tests = s.tests ++ List.replicate n .testing

@[simp] theorem updateConfigWriteTime_lock : s.updateConfigWriteTime.lock = s.lock := by
  unfold updateConfigWriteTime
  cases s.file <;> rfl

@[simp] theorem updateConfigWriteTime_watcher :
    s.updateConfigWriteTime.watcher = s.watcher := by
  unfold updateConfigWriteTime
  cases s.file <;> rfl

@[simp] theorem updateConfigWriteTime_clients :
    s.updateConfigWriteTime.clients = s.clients := by
  unfold updateConfigWriteTime
  cases s.file <;> rfl

@[simp] theorem updateConfigWriteTime_tests : s.updateConfigWriteTime.tests = s.tests := by
  unfold updateConfigWriteTime
  cases s.file <;> rfl

@[simp] theorem written_lock {choice : Choice} : (s.written choice).lock = s.lock := by
  cases choice <;> rfl

@[simp] theorem written_watcher {choice : Choice} : (s.written choice).watcher = s.watcher := by
  cases choice <;> rfl

@[simp] theorem written_clients {choice : Choice} : (s.written choice).clients = s.clients := by
  cases choice <;> rfl

@[simp] theorem written_tests {choice : Choice} : (s.written choice).tests = s.tests := by
  cases choice <;> rfl

theorem opMoves_of_step {t : ConfigThread} {choice : Choice} {pc pc' : ConfigPc}
    (h : s.opStep t choice pc = some (s', pc')) : OpMoves s t pc s' pc' := by
  have hsame : ∃ n, s.tests = s.tests ++ List.replicate n TestPc.testing := ⟨0, by simp⟩
  cases pc with
  | idle => cases h
  | readLock | saveLock =>
    obtain ⟨lock, hlock, h⟩ := Option.map_eq_some_iff.mp h
    obtain ⟨rfl, rfl⟩ := Prod.mk.inj h
    exact ⟨.lockWrite hlock, rfl, rfl, hsame⟩
  | readHeld =>
    obtain ⟨rfl, rfl⟩ := Prod.mk.inj (Option.some.inj h)
    exact ⟨.unlockWrite, by simp, by simp, by simp⟩
  | saveOpen =>
    obtain ⟨rfl, rfl⟩ := Prod.mk.inj (Option.some.inj h)
    exact ⟨by rw [written_lock]; exact .stay, by simp, by simp, by simp⟩
  | saveRecord =>
    obtain ⟨rfl, rfl⟩ := Prod.mk.inj (Option.some.inj h)
    exact ⟨by rw [updateConfigWriteTime_lock]; exact .stay, by simp, by simp, by simp⟩
  | saveClose =>
    obtain ⟨rfl, rfl⟩ := Prod.mk.inj (Option.some.inj h)
    exact ⟨.unlockWrite, by simp, by simp, by simp⟩
  | join k after =>
    simp only [opStep] at h
    split_ifs at h
    obtain ⟨rfl, rfl⟩ := Prod.mk.inj (Option.some.inj h)
    exact ⟨.stay, rfl, rfl, hsame⟩
  | tasks after =>
    simp only [opStep] at h
    cases choice with
    | join k =>
      simp only at h
      split_ifs at h
      obtain ⟨rfl, rfl⟩ := Prod.mk.inj (Option.some.inj h)
      exact ⟨.stay, rfl, rfl, hsame⟩
    | test =>
      simp only at h
      split_ifs at h
      obtain ⟨rfl, rfl⟩ := Prod.mk.inj (Option.some.inj h)
      exact ⟨.stay, rfl, rfl, 1, rfl⟩
    | proceed | write time =>
      obtain ⟨rfl, rfl⟩ := Prod.mk.inj (Option.some.inj h)
      exact ⟨by rw [AfterTasks.mode_pc]; exact .stay, rfl, rfl, hsame⟩

/-! ## Who holds the mutex after a step -/

theorem mode_append {tests : List TestPc} {n k : ℕ} :
    ((tests ++ List.replicate n TestPc.testing)[k]?.map TestPc.mode).getD .free =
      (tests[k]?.map TestPc.mode).getD .free := by
  by_cases hk : k < tests.length
  · rw [List.getElem?_append_left hk]
  · rw [List.getElem?_append_right (by omega), List.getElem?_replicate,
      List.getElem?_eq_none (by omega)]
    split_ifs <;> rfl

theorem OpMoves.mode {t : ConfigThread} {pc pc' : ConfigPc} (h : OpMoves s t pc s' pc') :
    s'.mode = s.mode := by
  funext u
  cases u with
  | watcher => rw [ConfigState.mode, ConfigState.mode, h.watcher]
  | client n => rw [ConfigState.mode, ConfigState.mode, h.clients]
  | test k =>
    obtain ⟨n, htests⟩ := h.tests
    rw [ConfigState.mode, ConfigState.mode, htests, mode_append]

theorem mode_withClient (s : ConfigState) (n : ℕ) (pc : ConfigPc) :
    ({ s with clients := Function.update s.clients n pc } : ConfigState).mode =
      Function.update s.mode (.client n) pc.mode := by
  funext u
  cases u with
  | client m =>
    by_cases hm : m = n
    · subst hm
      simp [mode]
    · simp [mode, Function.update_of_ne, hm]
  | watcher | test k => simp [mode]

theorem mode_withTest (s : ConfigState) (k : ℕ) (hk : k < s.tests.length) (pc : TestPc) :
    ({ s with tests := s.tests.set k pc } : ConfigState).mode =
      Function.update s.mode (.test k) pc.mode := by
  funext u
  cases u with
  | test m =>
    by_cases hm : m = k
    · subst hm
      simp [mode, hk]
    · have hkm : k ≠ m := fun h => hm h.symm
      simp [mode, Function.update_of_ne, hm, List.getElem?_set_ne hkm]
  | watcher | client n => simp [mode]

theorem mode_withWatcher (s : ConfigState) (pc : WatcherPc) :
    ({ s with watcher := pc } : ConfigState).mode =
      Function.update s.mode .watcher pc.mode := by
  funext u
  cases u <;> simp [mode]

/-! ## The invariant -/

/-- The mutex is locked by the thread that holds it, and a watcher that reloads has not got past
the lock of `read_config`. -/
structure LockInv (s : ConfigState) : Prop where
  fits : Fits s.mode s.lock
  known : Known s.mode s.lock
  reload : ∀ pc, s.watcher = .reload pc → pc = .readLock

theorem lockInv_start (file : Option ℕ) (configWriteTime : ℕ) :
    LockInv { file, configWriteTime } where
  fits := by
    have hmode : ({ file, configWriteTime } : ConfigState).mode = fun _ => Mode.free := by
      funext t
      cases t <;> rfl
    rw [hmode]
    exact fits_free
  known := nofun
  reload := nofun

theorem LockInv.client (hs : LockInv s) {n : ℕ} {choice : Choice}
    (h : s.clientStep n choice = some s') : LockInv s' ∧ s'.watcher = s.watcher := by
  obtain ⟨⟨r, pc⟩, hop, rfl⟩ := Option.map_eq_some_iff.mp h
  have hmoves := opMoves_of_step hop
  have hfits := hs.fits.moves (t := .client n) rfl hmoves.lock
  have hknown := hs.known.moves (t := .client n) rfl hmoves.lock
  rw [← hmoves.mode, ← mode_withClient] at hfits hknown
  exact ⟨⟨hfits, hknown, fun pc hpc => hs.reload pc (hmoves.watcher.symm.trans hpc)⟩,
    hmoves.watcher⟩

theorem LockInv.withTest (hs : LockInv s) {k : ℕ} {pc pc' : TestPc} (hk : s.tests[k]? = some pc)
    (hmode : pc'.mode = pc.mode) : LockInv { s with tests := s.tests.set k pc' } := by
  have hpc : s.mode (.test k) = pc.mode := by simp [mode, hk]
  have hsame : ({ s with tests := s.tests.set k pc' } : ConfigState).mode = s.mode := by
    rw [mode_withTest s k (List.getElem?_eq_some_iff.mp hk).1, hmode, ← hpc,
      Function.update_eq_self]
  exact ⟨by rw [hsame]; exact hs.fits, by rw [hsame]; exact hs.known, hs.reload⟩

theorem LockInv.test (hs : LockInv s) {k : ℕ} {pc : TestPc} (hk : s.tests[k]? = some pc)
    {choice : Choice} (h : s.testStep k choice pc = some s') :
    LockInv s' ∧ s'.watcher = s.watcher := by
  cases pc with
  | testing =>
    obtain rfl := Option.some.inj h
    exact ⟨hs.withTest hk rfl, rfl⟩
  | count =>
    obtain rfl := Option.some.inj h
    refine ⟨hs.withTest hk ?_, rfl⟩
    split_ifs <;> rfl
  | ended => cases h
  | saves pc =>
    by_cases hidle : pc = .idle
    · subst hidle
      obtain rfl := Option.some.inj h
      exact ⟨hs.withTest hk rfl, rfl⟩
    · have hstep : s.testStep k choice (.saves pc) = (s.opStep (.test k) choice pc).map fun r =>
          { r.1 with tests := r.1.tests.set k (.saves r.2) } := by
        cases pc <;> first | rfl | exact absurd rfl hidle
      rw [hstep] at h
      obtain ⟨⟨r, pc'⟩, hop, rfl⟩ := Option.map_eq_some_iff.mp h
      have hmoves := opMoves_of_step hop
      have hmode : s.mode (.test k) = pc.mode := by simp [ConfigState.mode, hk, TestPc.mode]
      have hfits := hs.fits.moves hmode hmoves.lock
      have hknown := hs.known.moves hmode hmoves.lock
      have hlen : k < r.tests.length := by
        obtain ⟨n, htests⟩ := hmoves.tests
        have hlt := (List.getElem?_eq_some_iff.mp hk).1
        rw [htests, List.length_append]
        omega
      have hmode' := mode_withTest r k hlen (.saves pc')
      rw [hmoves.mode] at hmode'
      exact ⟨⟨by rw [hmode']; exact hfits, by rw [hmode']; exact hknown,
        fun pc hpc => hs.reload pc (hmoves.watcher.symm.trans hpc)⟩, hmoves.watcher⟩

theorem LockInv.updateConfigWriteTime (hs : LockInv s) : LockInv s.updateConfigWriteTime := by
  have hmode : s.updateConfigWriteTime.mode = s.mode := by
    funext t
    cases t <;> simp [mode]
  exact ⟨by rw [hmode, updateConfigWriteTime_lock]; exact hs.fits,
    by rw [hmode, updateConfigWriteTime_lock]; exact hs.known, by simpa using hs.reload⟩

theorem LockInv.withWatcher (hs : LockInv s) {pc : WatcherPc} {lock : Lock ConfigThread}
    (hmoves : Moves .watcher s.lock s.watcher.mode pc.mode lock)
    (hpc : ∀ op, pc = .reload op → op = .readLock) :
    LockInv { s with lock := lock, watcher := pc } := by
  have hfits := hs.fits.moves (t := .watcher) rfl hmoves
  have hknown := hs.known.moves (t := .watcher) rfl hmoves
  rw [← mode_withWatcher] at hfits hknown
  exact ⟨hfits, hknown, hpc⟩

/-- In `reload` the watcher waits for the mutex that it has. -/
theorem LockInv.reload_stops (hs : LockInv s) {pc : ConfigPc} (hpc : s.watcher = .reload pc)
    (choice : Choice) : s.watcherStep choice = none := by
  obtain rfl := hs.reload pc hpc
  have hmode : s.mode .watcher = .write := by rw [mode, hpc]; rfl
  simp only [watcherStep, hpc, opStep, hs.fits.lockWrite_eq_none hmode, Option.map_none]

theorem LockInv.watcher (hs : LockInv s) {choice : Choice} (h : s.watcherStep choice = some s') :
    LockInv s' := by
  cases hpc : s.watcher with
  | start =>
    simp only [watcherStep, hpc] at h
    obtain rfl := Option.some.inj h
    exact hs.updateConfigWriteTime.withWatcher (by simp [hpc]; exact .stay) nofun
  | lock =>
    simp only [watcherStep, hpc] at h
    obtain ⟨lock, hlock, rfl⟩ := Option.map_eq_some_iff.mp h
    exact hs.withWatcher (by rw [hpc]; exact .lockWrite hlock) nofun
  | held =>
    simp only [watcherStep, hpc] at h
    split_ifs at h
    · obtain rfl := Option.some.inj h
      exact hs.withWatcher (by rw [hpc]; exact .stay) nofun
    · obtain rfl := Option.some.inj h
      exact hs.withWatcher (by rw [hpc]; exact .unlockWrite) nofun
  | noticed =>
    simp only [watcherStep, hpc] at h
    obtain rfl := Option.some.inj h
    refine hs.updateConfigWriteTime.withWatcher (by simp [hpc]; exact .stay) fun op hop => ?_
    exact (WatcherPc.reload.inj hop).symm
  | reload pc =>
    rw [hs.reload_stops hpc] at h
    cases h
  | sleep =>
    simp only [watcherStep, hpc] at h
    obtain rfl := Option.some.inj h
    exact hs.withWatcher (by rw [hpc]; exact .stay) nofun

theorem reloads_of_step {choice : Choice} (h : s.watcherStep choice = some s')
    (hs' : s'.watcher.reloads = true) :
    s.watcher.reloads = true ∨ s.watcher = .held ∧ s.configFileModified = true := by
  cases hpc : s.watcher with
  | start | sleep =>
    simp only [watcherStep, hpc] at h
    obtain rfl := Option.some.inj h
    cases hs'
  | lock =>
    simp only [watcherStep, hpc] at h
    obtain ⟨lock, -, rfl⟩ := Option.map_eq_some_iff.mp h
    cases hs'
  | held =>
    simp only [watcherStep, hpc] at h
    split_ifs at h with hmodified
    · exact Or.inr ⟨rfl, hmodified⟩
    · obtain rfl := Option.some.inj h
      cases hs'
  | noticed | reload pc => exact Or.inl rfl

/-! ## Runs -/

theorem LockInv.next (hs : LockInv s) {a : ConfigAction} (h : s.next a = some s') :
    LockInv s' := by
  cases a with
  | call n call =>
    simp only [ConfigState.next] at h
    split_ifs at h with hidle
    obtain rfl := Option.some.inj h
    have hcall : call.pc.mode = s.mode (.client n) := by
      rw [mode, hidle]
      cases call with
      | nvInit initialised => cases initialised <;> rfl
      | reload | setDevices | test => rfl
    have hsame := mode_withClient s n call.pc
    rw [hcall, Function.update_eq_self] at hsame
    exact ⟨by rw [hsame]; exact hs.fits, by rw [hsame]; exact hs.known, hs.reload⟩
  | client n choice => exact (hs.client h).1
  | test k choice =>
    obtain ⟨pc, hk, h⟩ := Option.bind_eq_some_iff.mp h
    exact (hs.test hk h).1
  | watcher choice => exact hs.watcher h
  | file time =>
    obtain rfl := Option.some.inj h
    exact ⟨hs.fits, hs.known, hs.reload⟩

/-- Only the watcher's own steps move it. -/
theorem LockInv.watcher_stays (hs : LockInv s) {a : ConfigAction} (h : s.next a = some s')
    (hother : ∀ choice, a ≠ .watcher choice) : s'.watcher = s.watcher := by
  cases a with
  | call n call =>
    simp only [ConfigState.next] at h
    split_ifs at h
    obtain rfl := Option.some.inj h
    rfl
  | client n choice => exact (hs.client h).2
  | test k choice =>
    obtain ⟨pc, hk, h⟩ := Option.bind_eq_some_iff.mp h
    exact (hs.test hk h).2
  | watcher choice => exact absurd rfl (hother choice)
  | file time =>
    obtain rfl := Option.some.inj h
    rfl

theorem LockInv.reloads_of_next (hs : LockInv s) {a : ConfigAction} (h : s.next a = some s')
    (hok : Unmodified s a) (hs' : s'.watcher.reloads = true) : s.watcher.reloads = true := by
  by_cases hwatcher : ∃ choice, a = .watcher choice
  · obtain ⟨choice, rfl⟩ := hwatcher
    rcases reloads_of_step h hs' with hs | ⟨hheld, hmodified⟩
    · exact hs
    · rw [hok hheld] at hmodified
      cases hmodified
  · rwa [hs.watcher_stays h fun choice ha => hwatcher ⟨choice, ha⟩] at hs'

theorem LockInv.reloads_stays (hs : LockInv s) {a : ConfigAction} (h : s.next a = some s')
    (hreloads : s.watcher.reloads = true) : s'.watcher.reloads = true := by
  by_cases hwatcher : ∃ choice, a = .watcher choice
  · obtain ⟨choice, rfl⟩ := hwatcher
    have hstep : s.watcherStep choice = some s' := h
    cases hpc : s.watcher with
    | start | lock | held | sleep =>
      rw [hpc] at hreloads
      cases hreloads
    | noticed =>
      simp only [watcherStep, hpc] at hstep
      obtain rfl := Option.some.inj hstep
      rfl
    | reload pc =>
      rw [hs.reload_stops hpc] at hstep
      cases hstep
  · rwa [hs.watcher_stays h fun choice ha => hwatcher ⟨choice, ha⟩]

/-- A thread that waits for the mutex does not hold it, unless it is the watcher in `reload`. -/
theorem mode_of_wants {t : ConfigThread} (h : s.watcher.reloads = false)
    (ht : s.wants t = true) : s.mode t = .free := by
  cases t with
  | watcher =>
    rw [wants] at ht
    rw [mode]
    cases hpc : s.watcher with
    | lock => rfl
    | start | held | noticed | sleep =>
      rw [hpc] at ht
      cases ht
    | reload pc =>
      rw [hpc] at h
      cases h
  | client n => exact ConfigPc.mode_of_wants ht
  | test k =>
    rw [wants] at ht
    rw [mode]
    cases hk : s.tests[k]? with
    | none => rfl
    | some pc =>
      rw [hk] at ht
      exact TestPc.mode_of_wants ht

theorem mode_of_joins {t : ConfigThread} {k : ℕ} (h : s.watcher.reloads = false)
    (ht : s.joins t = some k) : s.mode t = .free := by
  cases t with
  | watcher =>
    rw [joins] at ht
    cases hpc : s.watcher with
    | start | lock | held | noticed | sleep =>
      rw [hpc] at ht
      cases ht
    | reload pc =>
      rw [hpc] at h
      cases h
  | client n => exact ConfigPc.mode_of_joins ht
  | test m => cases ht

theorem LockInv.locksSafely (hs : LockInv s) (h : s.watcher.reloads = false) : LocksSafely s where
  own t ht hwriter := by
    have hmode := hs.known t hwriter
    rw [mode_of_wants h ht] at hmode
    cases hmode
  joining t k pc hwriter hjoins _ := by
    have hmode := hs.known t hwriter
    rw [mode_of_joins h hjoins] at hmode
    cases hmode
  completes hreloads := by
    rw [h] at hreloads
    cases hreloads

end ConfigState

section

variable {file : Option ℕ} {configWriteTime : ℕ} {s : ConfigState}

theorem lockInv_of_reachable (h : Transition.Reachable (configSystem file configWriteTime) s) :
    ConfigState.LockInv s := by
  refine Transition.ReachableWhen.invariant ConfigState.LockInv ?_ ?_ h
  · rintro _ rfl
    exact ConfigState.lockInv_start file configWriteTime
  · exact fun s a s' hs _ hstep => hs.next hstep

/-- **While no tick finds the file modified, no thread waits for a mutex that it has.** -/
theorem locks_safely (file : Option ℕ) (configWriteTime : ℕ) (s : ConfigState)
    (h : Transition.ReachableWhen (configSystem file configWriteTime) Unmodified s) :
    LocksSafely s := by
  have hinv : ConfigState.LockInv s ∧ s.watcher.reloads = false := by
    refine Transition.ReachableWhen.invariant
      (fun s => ConfigState.LockInv s ∧ s.watcher.reloads = false) ?_ ?_ h
    · rintro _ rfl
      exact ⟨ConfigState.lockInv_start file configWriteTime, rfl⟩
    · rintro s a s' ⟨hs, hreloads⟩ hok hstep
      refine ⟨hs.next hstep, ?_⟩
      by_contra hne
      have hbefore := hs.reloads_of_next hstep hok (Bool.eq_true_of_not_eq_false hne)
      rw [hreloads] at hbefore
      cases hbefore
  exact hinv.1.locksSafely hinv.2

def unmodified (s : ConfigState) : ConfigAction → Bool
  | .watcher _ => !decide (s.watcher = .held) || !s.configFileModified
  | .call _ _ | .client _ _ | .test _ _ | .file _ => true

theorem unmodified_ok (s : ConfigState) (a : ConfigAction) (h : unmodified s a = true) :
    Unmodified s a := by
  cases a with
  | watcher choice =>
    intro hheld
    rw [unmodified, hheld] at h
    simpa using h
  | call n call => trivial
  | client n choice => trivial
  | test k choice => trivial
  | file time => trivial

theorem locks_safely_saved :
    ∃ s, (s.file = some 2 ∧ s.watcher = .held) ∧ LocksSafely s := by
  obtain ⟨s, hs, hp⟩ := Transition.reachableWhen_of_run { file := some 1, configWriteTime := 0 }
    ConfigState.next unmodified_ok
    [.watcher .proceed, .watcher .proceed, .watcher .proceed, .call 0 .setDevices,
      .client 0 .proceed, .client 0 .proceed, .client 0 (.write 2), .client 0 .proceed,
      .client 0 .proceed, .watcher .proceed, .watcher .proceed]
    (fun s => decide (s.file = some 2 ∧ s.watcher = .held)) (by decide +kernel)
  exact ⟨s, of_decide_eq_true hp, locks_safely _ _ s hs⟩

/-- A tick that has noticed a change never completes its reload. -/
theorem noticed_never_completes (hs : Transition.Reachable (configSystem file configWriteTime) s)
    (hreloads : s.watcher.reloads = true) : ¬ LocksSafely s := by
  intro hsafe
  obtain ⟨s', hs', hsleep⟩ := hsafe.completes hreloads
  have hinv : ConfigState.LockInv s' ∧ s'.watcher.reloads = true := by
    refine Transition.ReachableWhen.invariant
      (fun s => ConfigState.LockInv s ∧ s.watcher.reloads = true) ?_ ?_ hs'
    · rintro _ rfl
      exact ⟨lockInv_of_reachable hs, hreloads⟩
    · rintro s a s' ⟨hs, hreloads⟩ _ hstep
      exact ⟨hs.next hstep, hs.reloads_stays hstep hreloads⟩
  rw [hsleep] at hinv
  cases hinv.2

/-- The file changes after the watcher has recorded its time. -/
theorem changed_file_locks_unsafely :
    ¬ ∀ file configWriteTime s, Transition.Reachable (configSystem file configWriteTime) s →
      LocksSafely s := by
  intro h
  obtain ⟨s, hs, hp⟩ := Transition.reachable_of_run { file := some 1, configWriteTime := 0 }
    ConfigState.next
    [.watcher .proceed, .file (some 2), .watcher .proceed, .watcher .proceed, .watcher .proceed]
    (fun s => decide (s.watcher = .reload .readLock ∧ s.lock.writer = some .watcher))
    (by decide +kernel)
  obtain ⟨hpc, hwriter⟩ := of_decide_eq_true hp
  have hwants : s.wants .watcher = true := by
    rw [ConfigState.wants, hpc]
    rfl
  exact (h (some 1) 0 s hs).own .watcher hwants hwriter

end

end Fancon
