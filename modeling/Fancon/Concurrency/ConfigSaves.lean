import Fancon.Concurrency.ConfigFile

/-! # Saves of the config file

`to_file` records the time of the last write while its stream may still hold output, and the stream
is closed before the mutex is released. So the watcher takes the save for an edit if the last of the
output reaches the file after the time was recorded. In a run in which it does not, a tick never
finds the file modified unless someone else writes it (`saves_unnoticed`).
-/
set_option autoImplicit false
set_option maxHeartbeats 250000
set_option maxRecDepth 120000

namespace Fancon

namespace ConfigFile

/-- The watcher has the mutex and is about to ask whether the file was modified. -/
def Unmodified (s : State) : Prop := s.pc .watcher = .checking → s.configFileModified = false

def Action.external : Action → Bool
  | .write _ _ => true
  | .reload _ | .save _ | .lock _ | .load _ | .fail _ | .record _ | .start | .tick | .check
  | .update | .openFile _ _ _ | .flush _ _ _ | .recordSave _ | .close _ _ => false

/-- Only the controller writes the file, and when `to_file` records the time of the last write, all
of the output has reached the file. -/
def RecordsFlushed (s : State) (x : Action) : Prop :=
  x.external = false ∧
  match x with
  | .recordSave n => s.pc (.client n) = .writing []
  | _ => True

/-! ## The invariant -/

/-- The threads that have the mutex. -/
def Pc.holds : Pc → Bool
  | .checking | .modified | .opened | .loaded | .writing _ | .closing _ => true
  | .resting | .unspawned | .starting | .locking | .saving => false

def Pc.calm : Pc → Bool
  | .resting | .unspawned | .starting | .checking => true
  | .modified | .locking | .opened | .loaded | .saving | .writing _ | .closing _ => false

/-- Between the opening of a stream and the record of the time that follows. -/
def Opened (s : State) : Prop := ∃ a rest, s.pc a = .writing rest

/-- The time that is recorded is that of the file, except in the middle of a save. -/
structure Saved (s : State) : Prop where
  held : ∀ a, (s.pc a).holds = true → s.lock = some a
  calm : (s.pc .watcher).calm = true
  begun : ∀ a, a ≠ .constructor → s.pc a ≠ (begin none).pc a → s.pc .constructor = .resting
  flushed : ∀ a rest, s.pc a = .closing rest → rest = []
  recorded : s.pc .constructor = .resting → ¬ Opened s →
    ∀ f, s.file = some f → s.writeTime = some f.time

variable {s s' : State}

theorem saved_begin (file : Option TimedText) : Saved (begin file) where
  held a h := by cases a <;> cases h
  calm := rfl
  begun a ha h := by cases a <;> first | exact absurd rfl ha | exact absurd rfl h
  flushed a _ h := by cases a <;> cases h
  recorded h := nomatch h

theorem configFileModified_eq_false (h : ∀ f, s.file = some f → s.writeTime = some f.time) :
    s.configFileModified = false := by
  unfold State.configFileModified
  cases hf : s.file with
  | none => rfl
  | some f => simp [h f hf]

/-- The time that is recorded is that of the file. -/
def Recorded (s : State) : Prop := ∀ f, s.file = some f → s.writeTime = some f.time

theorem Saved.recorded_of_checking (h : Saved s) (hpc : s.pc .watcher = .checking) :
    Recorded s := by
  have hlock := h.held .watcher (by rw [hpc]; rfl)
  refine h.recorded (h.begun .watcher nofun ?_) ?_
  · rw [hpc]
    exact nofun
  · rintro ⟨a, rest, ha⟩
    have hlock' := h.held a (by rw [ha]; rfl)
    obtain rfl := Option.some.inj (hlock.symm.trans hlock')
    cases hpc.symm.trans ha

/-- The watcher that has the mutex finds the file as the time says. -/
theorem Saved.unmodified (h : Saved s) : Unmodified s :=
  fun hpc => configFileModified_eq_false (h.recorded_of_checking hpc)

/-! ## Every step -/

theorem recorded_updateConfigWriteTime (s : State) : Recorded s.updateConfigWriteTime := by
  intro f hf
  rw [State.file_updateConfigWriteTime] at hf
  exact State.writeTime_updateConfigWriteTime hf

/-- A thread goes on, and the mutex may change hands. -/
theorem Saved.move (h : Saved s) {a : Agent} {p : Pc} {lock : Option Agent}
    (hothers : ∀ b, b ≠ a → (s.pc b).holds = true → lock = some b)
    (hself : p.holds = true → lock = some a)
    (hwatcher : a = .watcher → p.calm = true)
    (hconstructor : a = .constructor → s.pc .constructor ≠ .resting ∧ p ≠ .resting)
    (hbegun : a ≠ .constructor → s.pc .constructor = .resting)
    (hclosing : ∀ rest, p = .closing rest → rest = [])
    (hopen : ∀ rest, s.pc a = .writing rest → (∀ rest', p ≠ .writing rest') → Recorded s) :
    Saved { s.goto a p with lock := lock } where
  held b hb := by
    have hb : ((s.goto a p).pc b).holds = true := hb
    rw [State.pc_goto] at hb
    split_ifs at hb with hba
    · exact hba ▸ hself hb
    · exact hothers b hba hb
  calm := by
    show ((s.goto a p).pc .watcher).calm = true
    rw [State.pc_goto]
    split_ifs with ha
    · exact hwatcher ha.symm
    · exact h.calm
  begun b hb hpc := by
    have hpc : (s.goto a p).pc b ≠ (begin none).pc b := hpc
    show (s.goto a p).pc .constructor = .resting
    rw [State.pc_goto] at hpc ⊢
    split_ifs with ha
    · rw [if_neg fun hba => hb (hba.trans ha.symm)] at hpc
      exact absurd (h.begun b hb hpc) (hconstructor ha.symm).1
    · exact hbegun fun hac => ha hac.symm
  flushed b rest hb := by
    have hb : (s.goto a p).pc b = .closing rest := hb
    rw [State.pc_goto] at hb
    split_ifs at hb
    · exact hclosing rest hb
    · exact h.flushed b rest hb
  recorded hresting hopened := by
    have hresting : (s.goto a p).pc .constructor = .resting := hresting
    rw [State.pc_goto] at hresting
    split_ifs at hresting with ha
    · exact absurd hresting (hconstructor ha.symm).2
    · by_cases hwriting : ∃ rest, s.pc a = .writing rest
      · obtain ⟨rest, hrest⟩ := hwriting
        refine hopen rest hrest fun rest' hp => hopened ⟨a, rest', ?_⟩
        show (s.goto a p).pc a = .writing rest'
        rw [State.pc_goto, if_pos rfl, hp]
      · apply h.recorded hresting
        rintro ⟨b, rest, hb⟩
        refine hopened ⟨b, rest, ?_⟩
        show (s.goto a p).pc b = .writing rest
        rw [State.pc_goto, if_neg]
        · exact hb
        · rintro rfl
          exact hwriting ⟨rest, hb⟩

theorem Saved.finish (h : Saved s) {a : Agent} (hlock : ∀ b, b ≠ a → s.lock ≠ some b)
    (hbegun : a ≠ .constructor → s.pc .constructor = .resting) (hrecorded : Recorded s) :
    Saved (s.finish a) where
  held b hb := by
    rw [State.pc_finish] at hb
    split_ifs at hb with hba hab
    · cases hb
    · cases hb
    · exact absurd (h.held b hb) (hlock b hba)
  calm := by
    rw [State.pc_finish]
    split_ifs
    · rfl
    · rfl
    · exact h.calm
  begun _ _ _ := by
    rw [State.pc_finish]
    split_ifs with ha hab
    · rfl
    · exact absurd hab.1.symm ha
    · exact hbegun fun hac => ha hac.symm
  flushed b rest hb := by
    rw [State.pc_finish] at hb
    split_ifs at hb
    exact h.flushed b rest hb
  recorded _ _ f hf := by
    rw [State.file_finish] at hf
    rw [State.writeTime_finish]
    exact hrecorded f hf

theorem Saved.record (h : Saved s) : Saved s.updateConfigWriteTime where
  held a ha := by
    rw [State.pc_updateConfigWriteTime] at ha
    rw [State.lock_updateConfigWriteTime]
    exact h.held a ha
  calm := by
    rw [State.pc_updateConfigWriteTime]
    exact h.calm
  begun a ha hpc := by
    rw [State.pc_updateConfigWriteTime] at hpc ⊢
    exact h.begun a ha hpc
  flushed a rest ha := by
    rw [State.pc_updateConfigWriteTime] at ha
    exact h.flushed a rest ha
  recorded _ _ := recorded_updateConfigWriteTime s

/-- The file changes in the middle of a save. -/
theorem Saved.withFile (h : Saved s) (hopened : Opened s) (file : Option TimedText) :
    Saved { s with file := file } :=
  ⟨h.held, h.calm, h.begun, h.flushed, fun _ hnot => absurd hopened hnot⟩

theorem Saved.others (h : Saved s) {a : Agent} (ha : (s.pc a).holds = true) {b : Agent}
    (hb : b ≠ a) : s.lock ≠ some b := by
  rw [h.held a ha]
  exact fun hab => hb (Option.some.inj hab).symm

theorem Saved.withLoaded (h : Saved s) (loaded : Option Text) : Saved { s with loaded := loaded } :=
  ⟨h.held, h.calm, h.begun, h.flushed, h.recorded⟩

theorem Saved.not_watcher (h : Saved s) {a : Agent} (ha : (s.pc a).calm = false) :
    a ≠ .watcher := by
  rintro rfl
  cases h.calm.symm.trans ha

/-- A client is in a function only after the constructor. -/
theorem Saved.begun_of_pc (h : Saved s) {a : Agent} {p : Pc} (hpc : s.pc a = p)
    (hp : p ≠ .resting ∧ p ≠ .unspawned) (ha : a ≠ .constructor) :
    s.pc .constructor = .resting := by
  apply h.begun a ha
  rw [hpc]
  cases a with
  | constructor => exact absurd rfl ha
  | watcher => exact hp.2
  | client n => exact hp.1

theorem Saved.read (h : Saved s) {a : Agent} (hpc : s.pc a = .opened) :
    Saved (s.goto a .loaded) := by
  have hholds : (s.pc a).holds = true := by
    rw [hpc]
    rfl
  refine h.move (fun b _ hb => h.held b hb) (fun _ => h.held a hholds)
    (fun hw => absurd hw (h.not_watcher ?_)) (fun hc => ⟨fun hr => ?_, nofun⟩)
    (h.begun_of_pc hpc ⟨nofun, nofun⟩) nofun fun rest hrest _ => ?_
  · rw [hpc]
    rfl
  · cases (hc ▸ hpc).symm.trans hr
  · cases hpc.symm.trans hrest

/-- A client calls `reload` or `to_file`. -/
theorem Saved.call (h : Saved s) {n : ℕ} {p : Pc} (hpc : s.pc (.client n) = .resting)
    (hbegun : s.pc .constructor = .resting) (hholds : p.holds = false)
    (hclosing : ∀ rest, p ≠ .closing rest) : Saved (s.goto (.client n) p) := by
  refine h.move (fun b _ hb => h.held b hb) (fun hp => ?_) nofun nofun (fun _ => hbegun)
    (fun rest hp => absurd hp (hclosing rest)) fun rest hrest _ => ?_
  · cases hholds.symm.trans hp
  · cases hpc.symm.trans hrest

/-- `read_config` takes the mutex to read the file. -/
theorem Saved.lockToRead (h : Saved s) {a : Agent} (hpc : s.pc a = .locking)
    (hfree : s.lock = none) : Saved { s.goto a .opened with lock := some a } := by
  refine h.move (fun b _ hb => ?_) (fun _ => rfl) (fun hw => ?_) (fun hc => ⟨fun hr => ?_, nofun⟩)
    (h.begun_of_pc hpc ⟨nofun, nofun⟩) nofun fun rest hrest _ => ?_
  · cases hfree.symm.trans (h.held b hb)
  · exact absurd hw (h.not_watcher (by rw [hpc]; rfl))
  · cases (hc ▸ hpc).symm.trans hr
  · cases hpc.symm.trans hrest

theorem Saved.tick (h : Saved s) (hpc : s.pc .watcher = .resting) (hfree : s.lock = none) :
    Saved { s.goto .watcher .checking with lock := some .watcher } := by
  refine h.move (fun b _ hb => ?_) (fun _ => rfl) (fun _ => rfl) nofun (fun hw => ?_) nofun
    fun rest hrest _ => ?_
  · cases hfree.symm.trans (h.held b hb)
  · apply h.begun .watcher hw
    rw [hpc]
    exact nofun
  · cases hpc.symm.trans hrest

theorem Saved.start (h : Saved s) (hpc : s.pc .watcher = .starting) :
    Saved (s.updateConfigWriteTime.goto .watcher .resting) := by
  have hupdated : s.updateConfigWriteTime.pc .watcher = .starting := by
    rw [State.pc_updateConfigWriteTime, hpc]
  exact h.record.move (fun b _ hb => h.record.held b hb) nofun (fun _ => rfl) nofun
    (h.record.begun_of_pc hupdated ⟨nofun, nofun⟩) nofun
    fun _ _ _ => recorded_updateConfigWriteTime s

/-- `read_config` records the time and returns. -/
theorem Saved.recordRead (h : Saved s) {a : Agent} (hpc : s.pc a = .loaded) :
    Saved (s.updateConfigWriteTime.finish a) := by
  have hupdated : s.updateConfigWriteTime.pc a = .loaded := by
    rw [State.pc_updateConfigWriteTime, hpc]
  exact h.record.finish (fun b => h.record.others (by rw [hupdated]; rfl))
    (h.record.begun_of_pc hupdated ⟨nofun, nofun⟩) (recorded_updateConfigWriteTime s)

theorem Saved.openFile (h : Saved s) {n time : ℕ} {out : Text}
    (hpc : s.pc (.client n) = .saving) (hfree : s.lock = none) :
    Saved { s.goto (.client n) (.writing out) with
      lock := some (.client n), file := some ⟨[], time⟩ } := by
  have hopened : Saved { s.goto (.client n) (.writing out) with lock := some (.client n) } := by
    refine h.move (fun b _ hb => ?_) (fun _ => rfl) nofun nofun
      (h.begun_of_pc hpc ⟨nofun, nofun⟩) nofun fun rest hrest _ => ?_
    · cases hfree.symm.trans (h.held b hb)
    · cases hpc.symm.trans hrest
  exact hopened.withFile ⟨.client n, out, by simp [State.pc_goto]⟩ _

/-- Output reaches the file before the time is recorded. -/
theorem Saved.flush (h : Saved s) {n time : ℕ} {rest rest' text : Text}
    (hpc : s.pc (.client n) = .writing rest) :
    Saved ((s.append text time).goto (.client n) (.writing rest')) :=
  (h.withFile ⟨_, rest, hpc⟩ _).move (fun b _ hb => h.held b hb)
    (fun _ => h.held _ (by rw [hpc]; rfl)) nofun nofun (h.begun_of_pc hpc ⟨nofun, nofun⟩) nofun
    fun _ _ hnot => absurd rfl (hnot _)

/-- `to_file` records the time when nothing is left in its stream. -/
theorem Saved.recordSave (h : Saved s) {n : ℕ} (hpc : s.pc (.client n) = .writing []) :
    Saved (s.updateConfigWriteTime.goto (.client n) (.closing [])) := by
  have hupdated : s.updateConfigWriteTime.pc (.client n) = .writing [] := by
    rw [State.pc_updateConfigWriteTime, hpc]
  refine h.record.move (fun b _ hb => h.record.held b hb) (fun _ => h.record.held _ ?_) nofun
    nofun (h.record.begun_of_pc hupdated ⟨nofun, nofun⟩) (fun rest hrest => ?_)
    fun _ _ _ => recorded_updateConfigWriteTime s
  · rw [hupdated]
    rfl
  · cases hrest
    rfl

theorem Saved.close (h : Saved s) {n : ℕ} (hpc : s.pc (.client n) = .closing []) :
    Saved (s.finish (.client n)) := by
  have hbegun := h.begun_of_pc hpc ⟨nofun, nofun⟩ nofun
  refine h.finish (fun b => h.others (by rw [hpc]; rfl)) (fun _ => hbegun) ?_
  apply h.recorded hbegun
  rintro ⟨b, rest, hb⟩
  have hlock := h.held b (by rw [hb]; rfl)
  obtain rfl := Option.some.inj ((h.held _ (by rw [hpc]; rfl)).symm.trans hlock)
  cases hpc.symm.trans hb

theorem Saved.next (h : Saved s) {x : Action} (hx : RecordsFlushed s x)
    (hs : s.next x = some s') : Saved s' := by
  obtain ⟨hexternal, hflushed⟩ := hx
  cases State.step_of_next hs with
  | write => cases hexternal
  | reload hresting hpc | save hresting hpc => exact h.call hpc hresting rfl nofun
  | lock hpc hlock =>
    refine h.lockToRead hpc (hlock.resolve_right fun hw => h.not_watcher ?_ hw.1)
    rw [hpc]
    rfl
  | lockMissing hpc hlock hfile =>
    have hfree : s.lock = none :=
      hlock.resolve_right fun hw => h.not_watcher (by rw [hpc]; rfl) hw.1
    refine h.finish (fun b _ => by rw [hfree]; exact nofun) (h.begun_of_pc hpc ⟨nofun, nofun⟩)
      fun f hf => ?_
    cases hfile.symm.trans hf
  | load hpc => exact (h.read hpc).withLoaded _
  | fail hpc => exact h.read hpc
  | record hpc => exact h.recordRead hpc
  | start hpc => exact h.start hpc
  | tick hpc hfree => exact h.tick hpc hfree
  | modified hpc hmod => cases (h.unmodified hpc).symm.trans hmod
  | unmodified hpc =>
    exact h.finish (fun b => h.others (by rw [hpc]; rfl)) (h.begun_of_pc hpc ⟨nofun, nofun⟩)
      (h.recorded_of_checking hpc)
  | update hpc =>
    have hcalm := h.calm
    rw [hpc] at hcalm
    cases hcalm
  | openFile hpc hfree => exact h.openFile hpc hfree
  | flush _ _ hpc => exact h.flush hpc
  -- a stream that is being closed has nothing left
  | flushClosing hcount _ hpc hle =>
    obtain rfl := h.flushed _ _ hpc
    exact absurd hle hcount.not_ge
  | recordSave hpc =>
    obtain rfl := Pc.writing.inj (hpc.symm.trans hflushed)
    exact h.recordSave hpc
  | close hpc => exact h.close hpc
  | closeRest hpc hrest => exact absurd (h.flushed _ _ hpc) hrest

/-- **No tick finds the file modified, if every save has flushed its output when it records the
time.** -/
theorem saves_unnoticed (s : State) (hs : Transition.ReachableWhen configSystem RecordsFlushed s) :
    Unmodified s := by
  refine (hs.invariant Saved ?_ fun s x s' h hx hstep => h.next hx hstep).unmodified
  rintro _ ⟨file, rfl⟩
  exact saved_begin file

/-! ## A save of one character -/

/-- Without a file to read the constructor returns, the watcher begins, and a client opens the
stream. -/
def streamOpened : State :=
  ((((begin none).after (.lock .constructor)).after .start).after (.save 0)).after
    (.openFile 0 "a".toList 1)

/-- The time is recorded, the stream is closed, and the watcher takes the mutex. -/
def ticked (s : State) : State := ((s.after (.recordSave 0)).after (.close 0 2)).after .tick

theorem streamOpened_reachable {ok : State → Action → Prop}
    (hok : ∀ s x, x.external = false → (∀ n, x ≠ .recordSave n) → ok s x) :
    Transition.ReachableWhen configSystem ok streamOpened := by
  have hlock := reachable_after (x := .lock .constructor) (.init ⟨none, rfl⟩)
    (hok _ _ rfl nofun) rfl
  have hstart := reachable_after (x := .start) hlock (hok _ _ rfl nofun) rfl
  have hsave := reachable_after (x := .save 0) hstart (hok _ _ rfl nofun) rfl
  exact reachable_after (x := .openFile 0 "a".toList 1) hsave (hok _ _ rfl nofun) rfl

theorem recordsFlushed_of_ne {x : Action} (hx : x.external = false)
    (hne : ∀ n, x ≠ .recordSave n) (s : State) : RecordsFlushed s x := by
  refine ⟨hx, ?_⟩
  cases x with
  | recordSave n => exact absurd rfl (hne n)
  | _ => trivial

theorem saves_unnoticed_flushed : Unmodified (ticked (streamOpened.after (.flush 0 1 2))) := by
  have hopened : Transition.ReachableWhen configSystem RecordsFlushed streamOpened :=
    streamOpened_reachable fun s x hx hne => recordsFlushed_of_ne hx hne s
  have hflush := reachable_after (x := .flush 0 1 2) hopened
    (recordsFlushed_of_ne (x := .flush 0 1 2) rfl nofun _) rfl
  have hrecord := reachable_after (x := .recordSave 0) hflush ⟨rfl, rfl⟩ rfl
  have hclose := reachable_after (x := .close 0 2) hrecord
    (recordsFlushed_of_ne (x := .close 0 2) rfl nofun _) rfl
  exact saves_unnoticed _ (reachable_after (x := .tick) hclose
    (recordsFlushed_of_ne (x := .tick) rfl nofun _) rfl)

/-- The output is still in the buffer when the time is recorded, and reaches the file after. -/
theorem save_noticed_unflushed :
    ¬ ∀ s, Transition.ReachableWhen configSystem (fun _ x => x.external = false) s →
      Unmodified s := by
  intro h
  have hopened : Transition.ReachableWhen configSystem (fun _ x => x.external = false)
      streamOpened := streamOpened_reachable fun _ _ hx _ => hx
  have hrecord := reachable_after (x := .recordSave 0) hopened rfl rfl
  have hclose := reachable_after (x := .close 0 2) hrecord rfl (by decide)
  have htick := reachable_after (x := .tick) hclose rfl rfl
  have hunmodified := h (ticked streamOpened) htick rfl
  exact absurd hunmodified (by decide)

end ConfigFile

end Fancon
