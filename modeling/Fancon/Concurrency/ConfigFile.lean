import Fancon.Lib.Transition
import Fancon.Fan.Text

/-! # The config file and the time of its last write

The constructor, the watcher and any number of threads that call `reload` or `to_file` read and
write the config file, and so may others. `read_config` records the time of the last write after
the text was read, the watcher records it when it starts and before it reloads, and `to_file`
before its stream is closed.
-/
set_option autoImplicit false
set_option maxHeartbeats 250000
set_option maxRecDepth 120000

namespace Fancon

/-- The text of a file and the time of its last write. -/
structure TimedText where
  text : Text
  time : ℕ
deriving DecidableEq

namespace ConfigFile

inductive Agent
  | constructor
  | watcher
  | client (n : ℕ)
deriving DecidableEq

/-- Where a thread is: in none of the functions, before its start, in the watcher's function, in
`read_config`, or in `to_file` with what its stream still holds. -/
inductive Pc
  | resting
  | unspawned
  | starting
  | checking
  | modified
  | locking
  | opened
  | loaded
  | saving
  | writing (rest : Text)
  | closing (rest : Text)
deriving DecidableEq

structure State where
  file : Option TimedText
  writeTime : Option ℕ := none
  loaded : Option Text := none
  lock : Option Agent := none
  pc : Agent → Pc

inductive Action
  | write (text : Text) (time : ℕ)
  | reload (n : ℕ)
  | save (n : ℕ)
  | lock (a : Agent)
  | load (a : Agent)
  | fail (a : Agent)
  | record (a : Agent)
  | start
  | tick
  | check
  | update
  | openFile (n : ℕ) (out : Text) (time : ℕ)
  | flush (n count time : ℕ)
  | recordSave (n : ℕ)
  | close (n time : ℕ)

namespace State

variable (s : State)

def updateConfigWriteTime : State :=
  match s.file with
  | some f => { s with writeTime := some f.time }
  | none => s

def configFileModified : Bool :=
  match s.file with
  | some f => s.writeTime != some f.time
  | none => false

def goto (a : Agent) (p : Pc) : State := { s with pc := Function.update s.pc a p }

/-- `read_config` or the tick it belongs to returns. After its `reload` the constructor spawns the
watcher. -/
def finish (a : Agent) : State :=
  let s := if a = .constructor then s.goto .watcher .starting else s
  { s.goto a .resting with lock := none }

/-- A write gives the file a later time. -/
def Later (time : ℕ) : Prop := ∀ f, s.file = some f → f.time < time

instance (time : ℕ) : Decidable (s.Later time) :=
  match h : s.file with
  | none => isTrue fun f hf => by cases h.symm.trans hf
  | some g => decidable_of_iff (g.time < time)
      ⟨fun hg f hf => by cases h.symm.trans hf; exact hg, fun hl => hl g h⟩

/-- `n` more characters of the output reach the file. -/
def append (text : Text) (time : ℕ) : State :=
  { s with file := s.file.map fun f => ⟨f.text ++ text, time⟩ }

/-- One step of a thread, or a write by someone else. -/
def next : Action → Option State
  | .write text time => if s.Later time then some { s with file := some ⟨text, time⟩ } else none
  | .reload n =>
    if s.pc .constructor = .resting ∧ s.pc (.client n) = .resting then
      some (s.goto (.client n) .locking)
    else none
  | .save n =>
    if s.pc .constructor = .resting ∧ s.pc (.client n) = .resting then
      some (s.goto (.client n) .saving)
    else none
  -- the watcher has the mutex already; what a second `lock_guard` does then is undefined, and may
  -- be to go on
  | .lock a =>
    if s.pc a = .locking ∧ (s.lock = none ∨ a = .watcher ∧ s.lock = some .watcher) then
      some (if s.file.isSome then { s.goto a .opened with lock := some a } else s.finish a)
    else none
  | .load a =>
    if s.pc a = .opened then
      some { s.goto a .loaded with loaded := s.file.map TimedText.text }
    else none
  | .fail a => if s.pc a = .opened then some (s.goto a .loaded) else none
  | .record a =>
    if s.pc a = .loaded then some (s.updateConfigWriteTime.finish a) else none
  | .start =>
    if s.pc .watcher = .starting then
      some (s.updateConfigWriteTime.goto .watcher .resting)
    else none
  | .tick =>
    if s.pc .watcher = .resting ∧ s.lock = none then
      some { s.goto .watcher .checking with lock := some .watcher }
    else none
  | .check =>
    if s.pc .watcher = .checking then
      some (if s.configFileModified then s.goto .watcher .modified else s.finish .watcher)
    else none
  | .update =>
    if s.pc .watcher = .modified then some (s.updateConfigWriteTime.goto .watcher .locking)
    else none
  | .openFile n out time =>
    if s.pc (.client n) = .saving ∧ s.lock = none ∧ s.Later time then
      some { s.goto (.client n) (.writing out) with
        lock := some (.client n), file := some ⟨[], time⟩ }
    else none
  | .flush n count time =>
    if 0 < count ∧ s.Later time then
      match s.pc (.client n) with
      | .writing rest =>
        if count ≤ rest.length then
          some ((s.append (rest.take count) time).goto (.client n) (.writing (rest.drop count)))
        else none
      | .closing rest =>
        if count ≤ rest.length then
          some ((s.append (rest.take count) time).goto (.client n) (.closing (rest.drop count)))
        else none
      | _ => none
    else none
  | .recordSave n =>
    match s.pc (.client n) with
    | .writing rest => some (s.updateConfigWriteTime.goto (.client n) (.closing rest))
    | _ => none
  | .close n time =>
    match s.pc (.client n) with
    | .closing rest =>
      if rest = [] then some (s.finish (.client n))
      else if s.Later time then some ((s.append rest time).finish (.client n))
      else none
    | _ => none

/-- What each action does, and when. -/
inductive Step : Action → State → Prop
  | write {text : Text} {time : ℕ} : s.Later time →
      Step (.write text time) { s with file := some ⟨text, time⟩ }
  | reload {n : ℕ} : s.pc .constructor = .resting → s.pc (.client n) = .resting →
      Step (.reload n) (s.goto (.client n) .locking)
  | save {n : ℕ} : s.pc .constructor = .resting → s.pc (.client n) = .resting →
      Step (.save n) (s.goto (.client n) .saving)
  | lock {a : Agent} : s.pc a = .locking →
      (s.lock = none ∨ a = .watcher ∧ s.lock = some .watcher) → s.file.isSome = true →
      Step (.lock a) { s.goto a .opened with lock := some a }
  | lockMissing {a : Agent} : s.pc a = .locking →
      (s.lock = none ∨ a = .watcher ∧ s.lock = some .watcher) → s.file = none →
      Step (.lock a) (s.finish a)
  | load {a : Agent} : s.pc a = .opened →
      Step (.load a) { s.goto a .loaded with loaded := s.file.map TimedText.text }
  | fail {a : Agent} : s.pc a = .opened → Step (.fail a) (s.goto a .loaded)
  | record {a : Agent} : s.pc a = .loaded → Step (.record a) (s.updateConfigWriteTime.finish a)
  | start : s.pc .watcher = .starting →
      Step .start (s.updateConfigWriteTime.goto .watcher .resting)
  | tick : s.pc .watcher = .resting → s.lock = none →
      Step .tick { s.goto .watcher .checking with lock := some .watcher }
  | modified : s.pc .watcher = .checking → s.configFileModified = true →
      Step .check (s.goto .watcher .modified)
  | unmodified : s.pc .watcher = .checking → s.configFileModified = false →
      Step .check (s.finish .watcher)
  | update : s.pc .watcher = .modified →
      Step .update (s.updateConfigWriteTime.goto .watcher .locking)
  | openFile {n time : ℕ} {out : Text} : s.pc (.client n) = .saving → s.lock = none →
      s.Later time → Step (.openFile n out time)
        { s.goto (.client n) (.writing out) with
          lock := some (.client n), file := some ⟨[], time⟩ }
  | flush {n count time : ℕ} {rest : Text} : 0 < count → s.Later time →
      s.pc (.client n) = .writing rest → count ≤ rest.length → Step (.flush n count time)
        ((s.append (rest.take count) time).goto (.client n) (.writing (rest.drop count)))
  | flushClosing {n count time : ℕ} {rest : Text} : 0 < count → s.Later time →
      s.pc (.client n) = .closing rest → count ≤ rest.length → Step (.flush n count time)
        ((s.append (rest.take count) time).goto (.client n) (.closing (rest.drop count)))
  | recordSave {n : ℕ} {rest : Text} : s.pc (.client n) = .writing rest →
      Step (.recordSave n) (s.updateConfigWriteTime.goto (.client n) (.closing rest))
  | close {n time : ℕ} : s.pc (.client n) = .closing [] →
      Step (.close n time) (s.finish (.client n))
  | closeRest {n time : ℕ} {rest : Text} : s.pc (.client n) = .closing rest → rest ≠ [] →
      s.Later time → Step (.close n time) ((s.append rest time).finish (.client n))

variable {s}

theorem step_of_next {s' : State} {x : Action} (h : s.next x = some s') : s.Step x s' := by
  cases x with
  | write text time =>
    simp only [next] at h
    split_ifs at h with hlater
    exact Option.some.inj h ▸ .write hlater
  | reload n =>
    simp only [next] at h
    split_ifs at h with hpc
    exact Option.some.inj h ▸ .reload hpc.1 hpc.2
  | save n =>
    simp only [next] at h
    split_ifs at h with hpc
    exact Option.some.inj h ▸ .save hpc.1 hpc.2
  | lock a =>
    simp only [next] at h
    split_ifs at h with hlock hfile
    · exact Option.some.inj h ▸ .lock hlock.1 hlock.2 hfile
    · have hmissing := Option.not_isSome_iff_eq_none.mp hfile
      exact Option.some.inj h ▸ .lockMissing hlock.1 hlock.2 hmissing
  | load a =>
    simp only [next] at h
    split_ifs at h with hpc
    exact Option.some.inj h ▸ .load hpc
  | fail a =>
    simp only [next] at h
    split_ifs at h with hpc
    exact Option.some.inj h ▸ .fail hpc
  | record a =>
    simp only [next] at h
    split_ifs at h with hpc
    exact Option.some.inj h ▸ .record hpc
  | start =>
    simp only [next] at h
    split_ifs at h with hpc
    exact Option.some.inj h ▸ .start hpc
  | tick =>
    simp only [next] at h
    split_ifs at h with hpc
    exact Option.some.inj h ▸ .tick hpc.1 hpc.2
  | check =>
    simp only [next] at h
    split_ifs at h with hpc hmod
    · exact Option.some.inj h ▸ .modified hpc hmod
    · exact Option.some.inj h ▸ .unmodified hpc (Bool.eq_false_iff.mpr hmod)
  | update =>
    simp only [next] at h
    split_ifs at h with hpc
    exact Option.some.inj h ▸ .update hpc
  | openFile n out time =>
    simp only [next] at h
    split_ifs at h with hpc
    exact Option.some.inj h ▸ .openFile hpc.1 hpc.2.1 hpc.2.2
  | flush n count time =>
    simp only [next] at h
    split_ifs at h with hcount
    split at h
    · rename_i rest hpc
      split_ifs at h with hle
      exact Option.some.inj h ▸ .flush hcount.1 hcount.2 hpc hle
    · rename_i rest hpc
      split_ifs at h with hle
      exact Option.some.inj h ▸ .flushClosing hcount.1 hcount.2 hpc hle
    · cases h
  | recordSave n =>
    simp only [next] at h
    split at h
    · exact Option.some.inj h ▸ .recordSave (by assumption)
    · cases h
  | close n time =>
    simp only [next] at h
    split at h
    · rename_i rest hpc
      split_ifs at h with hrest hlater
      · exact Option.some.inj h ▸ .close (hrest ▸ hpc)
      · exact Option.some.inj h ▸ .closeRest hpc hrest hlater
    · cases h

/-! ## What the parts change -/

@[simp] theorem file_goto (a : Agent) (p : Pc) : (s.goto a p).file = s.file := rfl

@[simp] theorem writeTime_goto (a : Agent) (p : Pc) : (s.goto a p).writeTime = s.writeTime := rfl

@[simp] theorem loaded_goto (a : Agent) (p : Pc) : (s.goto a p).loaded = s.loaded := rfl

@[simp] theorem lock_goto (a : Agent) (p : Pc) : (s.goto a p).lock = s.lock := rfl

theorem pc_goto (a b : Agent) (p : Pc) : (s.goto a p).pc b = if b = a then p else s.pc b :=
  Function.update_apply ..

@[simp] theorem file_finish (a : Agent) : (s.finish a).file = s.file := by
  unfold finish
  split_ifs <;> rfl

@[simp] theorem writeTime_finish (a : Agent) : (s.finish a).writeTime = s.writeTime := by
  unfold finish
  split_ifs <;> rfl

@[simp] theorem loaded_finish (a : Agent) : (s.finish a).loaded = s.loaded := by
  unfold finish
  split_ifs <;> rfl

@[simp] theorem lock_finish (a : Agent) : (s.finish a).lock = none := rfl

theorem pc_finish (a b : Agent) : (s.finish a).pc b =
    if b = a then .resting
    else if a = .constructor ∧ b = .watcher then .starting else s.pc b := by
  unfold finish
  simp only
  rw [pc_goto]
  split_ifs with hb ha hab hab
  · rfl
  · rw [pc_goto, if_pos hab.2]
  · rw [pc_goto, if_neg fun hb' => hab ⟨ha, hb'⟩]
  · exact absurd hab.1 ha
  · rfl

@[simp] theorem file_updateConfigWriteTime : s.updateConfigWriteTime.file = s.file := by
  unfold updateConfigWriteTime
  split <;> simp_all

@[simp] theorem loaded_updateConfigWriteTime : s.updateConfigWriteTime.loaded = s.loaded := by
  unfold updateConfigWriteTime
  split <;> rfl

@[simp] theorem lock_updateConfigWriteTime : s.updateConfigWriteTime.lock = s.lock := by
  unfold updateConfigWriteTime
  split <;> rfl

@[simp] theorem pc_updateConfigWriteTime : s.updateConfigWriteTime.pc = s.pc := by
  unfold updateConfigWriteTime
  split <;> rfl

theorem writeTime_updateConfigWriteTime {f : TimedText} (h : s.file = some f) :
    s.updateConfigWriteTime.writeTime = some f.time := by
  unfold updateConfigWriteTime
  rw [h]

end State

/-- Before the constructor's first `reload`. -/
def begin (file : Option TimedText) : State where
  file := file
  pc
    | .constructor => .locking
    | .watcher => .unspawned
    | .client _ => .resting

def configSystem : Transition.System State Action where
  init s := ∃ file, s = begin file
  step s a s' := s.next a = some s'

/-- The state after a step that can be taken. -/
def State.after (s : State) (x : Action) : State := (s.next x).getD s

theorem reachable_after {ok : State → Action → Prop} {s : State}
    (hs : Transition.ReachableWhen configSystem ok s) {x : Action} (hok : ok s x)
    (h : (s.next x).isSome = true) : Transition.ReachableWhen configSystem ok (s.after x) := by
  obtain ⟨t, ht⟩ := Option.isSome_iff_exists.mp h
  refine .step (a := x) hs hok ?_
  show s.next x = some (s.after x)
  rw [State.after, ht, Option.getD_some]

end ConfigFile

end Fancon
