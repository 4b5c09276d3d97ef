import Fancon.Concurrency.ConfigFile

/-! # Edits of the config file

An edit may be made after `read_config` has read the text and before it records the time of the
last write, or before the watcher records it for the first time. Then the time that is recorded is
that of a text that was not read. In a run in which this does not happen no edit is missed
(`edits_noticed`).
-/
set_option autoImplicit false
set_option maxHeartbeats 250000
set_option maxRecDepth 120000

namespace Fancon

namespace ConfigFile

/-- No thread is in one of the functions; the watcher may not have begun. -/
def Quiet (s : State) : Prop := ∀ a, s.pc a = .resting ∨ s.pc a = .starting

/-- If the file was not written since the time that is recorded, its text is the one that was last
loaded. -/
def Noticed (s : State) : Prop :=
  ∀ f, s.file = some f → s.writeTime = some f.time → s.loaded = some f.text

/-- The file holds the text that was last loaded. -/
def Unedited (s : State) : Prop := ∀ f, s.file = some f → s.loaded = some f.text

def Action.saves : Action → Bool
  | .save _ | .openFile _ _ _ | .flush _ _ _ | .recordSave _ | .close _ _ => true
  | .write _ _ | .reload _ | .lock _ | .load _ | .fail _ | .record _ | .start | .tick | .check
  | .update => false

/-- Nothing is saved, and when `read_config` or the start of the watcher records the time of the
last write, the text last loaded is still there. -/
def RecordsRead (s : State) (x : Action) : Prop :=
  x.saves = false ∧
  match x with
  | .record _ | .start => Unedited s
  | _ => True

/-! ## The invariant -/

def Pc.reloading : Pc → Bool
  | .locking | .opened | .loaded => true
  | .resting | .unspawned | .starting | .checking | .modified | .saving | .writing _
  | .closing _ => false

def Pc.saving? : Pc → Bool
  | .saving | .writing _ | .closing _ => true
  | .resting | .unspawned | .starting | .checking | .modified | .locking | .opened
  | .loaded => false

/-- No thread saves, the time that is recorded is not later than that of the file, and an edit goes
unnoticed only while the watcher reloads. -/
structure Watched (s : State) : Prop where
  unsaved : ∀ a, (s.pc a).saving? = false
  earlier : ∀ t, s.writeTime = some t → ∃ f, s.file = some f ∧ t ≤ f.time
  noticed : (s.pc .watcher).reloading = false → Noticed s

variable {s s' : State}

theorem watched_begin (file : Option TimedText) : Watched (begin file) where
  unsaved a := by cases a <;> rfl
  earlier _ h := nomatch h
  noticed _ _ _ h := nomatch h

theorem Noticed.of_unedited (h : Unedited s) : Noticed s := fun f hf _ => h f hf

theorem unsaved_goto (h : ∀ a, (s.pc a).saving? = false) {a : Agent} {p : Pc}
    (hp : p.saving? = false) (b : Agent) : ((s.goto a p).pc b).saving? = false := by
  rw [State.pc_goto]
  split_ifs
  · exact hp
  · exact h b

theorem unsaved_finish (h : ∀ a, (s.pc a).saving? = false) (a b : Agent) :
    ((s.finish a).pc b).saving? = false := by
  rw [State.pc_finish]
  split_ifs
  · rfl
  · rfl
  · exact h b

/-- A thread goes on and leaves file, time and text alone. -/
theorem Watched.goto (h : Watched s) {a : Agent} {p : Pc} (hp : p.saving? = false)
    (hwatcher : a = .watcher → (s.pc .watcher).reloading = true → p.reloading = true) :
    Watched (s.goto a p) where
  unsaved := unsaved_goto h.unsaved hp
  earlier := h.earlier
  noticed hpc := by
    refine h.noticed (Bool.eq_false_iff.mpr fun hold => ?_)
    rw [State.pc_goto] at hpc
    split_ifs at hpc with ha
    · cases (hwatcher ha.symm hold).symm.trans hpc
    · cases hold.symm.trans hpc

theorem Watched.withLock (h : Watched s) (lock : Option Agent) : Watched { s with lock := lock } :=
  ⟨h.unsaved, h.earlier, h.noticed⟩

theorem Watched.finish (h : Watched s) (hnoticed : Noticed s) (a : Agent) :
    Watched (s.finish a) where
  unsaved := unsaved_finish h.unsaved a
  earlier t ht := by
    rw [State.writeTime_finish] at ht
    rw [State.file_finish]
    exact h.earlier t ht
  noticed _ := by
    unfold Noticed
    rw [State.file_finish, State.writeTime_finish, State.loaded_finish]
    exact hnoticed

theorem earlier_updateConfigWriteTime (h : Watched s) (t : ℕ)
    (ht : s.updateConfigWriteTime.writeTime = some t) : ∃ f, s.file = some f ∧ t ≤ f.time := by
  cases hf : s.file with
  | none =>
    rw [State.updateConfigWriteTime, hf] at ht
    obtain ⟨f, hf', -⟩ := h.earlier t ht
    cases hf.symm.trans hf'
  | some f =>
    rw [State.writeTime_updateConfigWriteTime hf] at ht
    exact ⟨f, rfl, (Option.some.inj ht).ge⟩

theorem Unedited.record (h : Unedited s) : Unedited s.updateConfigWriteTime := by
  intro f hf
  rw [State.file_updateConfigWriteTime] at hf
  rw [State.loaded_updateConfigWriteTime]
  exact h f hf

theorem Watched.record (h : Watched s) (hunedited : Unedited s) :
    Watched s.updateConfigWriteTime where
  unsaved a := by
    rw [State.pc_updateConfigWriteTime]
    exact h.unsaved a
  earlier t ht := by
    rw [State.file_updateConfigWriteTime]
    exact earlier_updateConfigWriteTime h t ht
  noticed _ := .of_unedited hunedited.record

/-- A write gives the file a time that is not the recorded one. -/
theorem Watched.write (h : Watched s) {text : Text} {time : ℕ} (hlater : s.Later time) :
    Watched { s with file := some ⟨text, time⟩ } := by
  refine ⟨h.unsaved, fun t ht => ?_, fun _ f hf ht => ?_⟩
  · obtain ⟨f, hf, hle⟩ := h.earlier t ht
    exact ⟨_, rfl, hle.trans (hlater f hf).le⟩
  · obtain rfl := Option.some.inj hf
    obtain ⟨g, hg, hle⟩ := h.earlier time ht
    exact absurd (hlater g hg) hle.not_gt

theorem Watched.load (h : Watched s) (a : Agent) :
    Watched { s.goto a .loaded with loaded := s.file.map TimedText.text } := by
  refine ⟨unsaved_goto h.unsaved rfl, h.earlier, fun _ f hf _ => ?_⟩
  have hf : s.file = some f := hf
  show s.file.map TimedText.text = some f.text
  rw [hf, Option.map_some]

/-- The watcher records the time of an edit before it reloads. -/
theorem Watched.update (h : Watched s) :
    Watched (s.updateConfigWriteTime.goto .watcher .locking) := by
  refine ⟨unsaved_goto (fun b => ?_) rfl, fun t ht => ?_, fun hnot => ?_⟩
  · rw [State.pc_updateConfigWriteTime]
    exact h.unsaved b
  · rw [State.file_goto, State.file_updateConfigWriteTime]
    exact earlier_updateConfigWriteTime h t ht
  · rw [State.pc_goto, if_pos rfl] at hnot
    cases hnot

theorem Watched.next (h : Watched s) {x : Action} (hx : RecordsRead s x)
    (hs : s.next x = some s') : Watched s' := by
  obtain ⟨hsaves, hread⟩ := hx
  cases State.step_of_next hs with
  | save | openFile | flush | flushClosing | recordSave | close | closeRest => cases hsaves
  | write hlater => exact h.write hlater
  | reload => exact h.goto rfl nofun
  | lock => exact (h.goto (p := .opened) rfl fun _ _ => rfl).withLock _
  | lockMissing _ _ hfile => exact h.finish (fun f hf => by cases hfile.symm.trans hf) _
  | load => exact h.load _
  | fail => exact h.goto rfl fun _ _ => rfl
  | record =>
    have hunedited : Unedited s := hread
    exact (h.record hunedited).finish (.of_unedited hunedited.record) _
  | start hpc =>
    have hunedited : Unedited s := hread
    refine (h.record hunedited).goto rfl fun _ hold => ?_
    rw [State.pc_updateConfigWriteTime, hpc] at hold
    cases hold
  | tick hpc =>
    refine (h.goto (p := .checking) rfl fun _ hold => ?_).withLock _
    rw [hpc] at hold
    cases hold
  | modified hpc =>
    refine h.goto rfl fun _ hold => ?_
    rw [hpc] at hold
    cases hold
  | unmodified hpc =>
    refine h.finish (h.noticed ?_) _
    rw [hpc]
    rfl
  | update => exact h.update

/-- **When nothing is going on, no edit was missed, if the time that is recorded always was that of
a text that was read.** -/
theorem edits_noticed (s : State) (hs : Transition.ReachableWhen configSystem RecordsRead s)
    (hquiet : Quiet s) : Noticed s := by
  have hwatched : Watched s := by
    refine hs.invariant Watched ?_ fun s x s' h hx hstep => h.next hx hstep
    rintro _ ⟨file, rfl⟩
    exact watched_begin file
  apply hwatched.noticed
  rcases hquiet .watcher with hpc | hpc <;> rw [hpc] <;> rfl

/-! ## An edit during the first reload -/

/-- The constructor has loaded the text of the file. -/
def loadedFirst : State :=
  ((begin (some ⟨"a".toList, 1⟩)).after (.lock .constructor)).after (.load .constructor)

/-- It records the time of the last write, and the watcher begins. -/
def recorded (s : State) : State := (s.after (.record .constructor)).after .start

theorem loadedFirst_reachable {ok : State → Action → Prop}
    (hok : ∀ s x, x = .lock .constructor ∨ x = .load .constructor → ok s x) :
    Transition.ReachableWhen configSystem ok loadedFirst :=
  reachable_after (reachable_after (.init ⟨_, rfl⟩) (hok _ _ (Or.inl rfl)) rfl)
    (hok _ _ (Or.inr rfl)) rfl

/-- Someone writes the file, and a request reloads it. -/
def reloadedEdit (s : State) : State :=
  ((((s.after (.write "b".toList 2)).after (.reload 0)).after (.lock (.client 0))).after
    (.load (.client 0))).after (.record (.client 0))

theorem edits_noticed_first : (reloadedEdit (recorded loadedFirst)).writeTime = some 2 ∧
    Noticed (reloadedEdit (recorded loadedFirst)) := by
  refine ⟨rfl, ?_⟩
  have hloaded : Transition.ReachableWhen configSystem RecordsRead loadedFirst :=
    loadedFirst_reachable fun s x hx => by rcases hx with rfl | rfl <;> exact ⟨rfl, trivial⟩
  have hunedited : Unedited loadedFirst := fun f hf => by cases hf; rfl
  have hrecord := reachable_after (x := .record .constructor) hloaded ⟨rfl, hunedited⟩ rfl
  have hstart := reachable_after (x := .start) hrecord ⟨rfl, fun f hf => by cases hf; rfl⟩ rfl
  have hedit := reachable_after (x := .write "b".toList 2) hstart ⟨rfl, trivial⟩ (by decide)
  have hreload := reachable_after (x := .reload 0) hedit ⟨rfl, trivial⟩ rfl
  have hlock := reachable_after (x := .lock (.client 0)) hreload ⟨rfl, trivial⟩ rfl
  have hload := reachable_after (x := .load (.client 0)) hlock ⟨rfl, trivial⟩ rfl
  have hdone := reachable_after (x := .record (.client 0)) hload
    ⟨rfl, fun f hf => by cases hf; rfl⟩ rfl
  refine edits_noticed _ hdone fun a => ?_
  cases a with
  | constructor => exact Or.inl rfl
  | watcher => exact Or.inl rfl
  | client n => exact Or.inl (by cases n <;> rfl)

/-- The text is replaced after it was read and before the time is recorded. -/
theorem edit_missed_first :
    ¬ ∀ s, Transition.ReachableWhen configSystem (fun _ x => x.saves = false) s → Quiet s →
      Noticed s := by
  intro h
  have hloaded : Transition.ReachableWhen configSystem (fun _ x => x.saves = false) loadedFirst :=
    loadedFirst_reachable fun s x hx => by rcases hx with rfl | rfl <;> rfl
  have hedited := reachable_after (x := .write "b".toList 2) hloaded rfl (by decide)
  have hrecord := reachable_after (x := .record .constructor) hedited rfl (by decide)
  have hstart := reachable_after (x := .start) hrecord rfl (by decide)
  have hquiet : Quiet (recorded (loadedFirst.after (.write "b".toList 2))) := fun a => by
    cases a <;> exact Or.inl rfl
  have hnoticed := h _ hstart hquiet ⟨"b".toList, 2⟩ rfl rfl
  exact absurd hnoticed (by decide)

end ConfigFile

end Fancon
