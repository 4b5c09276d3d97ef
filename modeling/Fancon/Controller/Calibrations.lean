import Fancon.Controller.LiveFans

/-! # What becomes of measured calibrations

The result of a test is kept in its fan, and written by the last test that finds no other running.
Until then the config file holds the calibration from before, and a reload puts that back in the
place of the result. In the runs whose reloads leave the fans with their results, both the fans
and the file hold every result once all tests have taken their last steps (`calibrations_kept`).
-/
set_option autoImplicit false
set_option maxHeartbeats 250000
set_option maxRecDepth 120000

namespace Fancon

/-- What a test measures. -/
abbrev Measurement := RpmToPwm × Pwm

def Fan.calibration (f : Fan) : Measurement := (f.rpmToPwm, f.startPwm)

def TestResult.calibration (r : TestResult) : Measurement := (r.rpmToPwm, r.startPwm)

/-- The thread of a test may still write the file. -/
def TestStep.mayWrite : TestStep → Bool
  | .test | .reset | .check | .save => true
  | .spawn | .ended => false

/-! ## Runs of tests -/

/-- Neither the config file is edited nor the devices are set by a client. -/
def Event.leavesConfig : Event → Bool
  | .setDevices _ _ | .edit _ => false
  | _ => true

/-- The controller, with the last result that a successful test of each label has had. -/
structure Calibrating where
  live : Live
  measured : String → Option Measurement := fun _ => none

namespace Calibrating

def measures (c : Calibrating) : Event → String → Option Measurement
  | .testDone l true r => Function.update c.measured l (some r.calibration)
  | _ => c.measured

def next (drv : Driver) (parse : Text → Bool × ControllerMsg) (print : ControllerMsg → Text)
    (c : Calibrating) (e : Event) : Option Calibrating :=
  if e.leavesConfig then (c.live.perform drv parse print e).map fun s => ⟨s, c.measures e⟩ else none

/-- The runs from a state without tests in which no one else writes the config file. -/
def system (parse : Text → Bool × ControllerMsg) (print : ControllerMsg → Text)
    (drivers : Driver → Prop) : Transition.System Calibrating Event where
  init c := Transition.Reachable (Live.system parse print drivers) c.live ∧
    (∀ l, ¬ c.live.UnderTest l) ∧ ∀ l, c.measured l = none
  step c e c' := ∃ drv, drivers drv ∧ c.next drv parse print e = some c'

end Calibrating

namespace Live

variable {drv : Driver} {parse : Text → Bool × ControllerMsg} {print : ControllerMsg → Text}
  {s s' : Live} {measured : String → Option Measurement}

/-- The config file was written with the calibration as that of the label. -/
def FileHolds (print : ControllerMsg → Text) (s : Live) (l : String) (r : Measurement) : Prop :=
  ∃ msg, s.file = some (print msg) ∧ ∃ f ∈ msg.devices.fan,
    f.label = l ∧ f.rpmToPwm = r.1.str ∧ f.startPwm = r.2

/-- Some test may still write the file. -/
def WriteDue (s : Live) : Prop :=
  ∃ l id pc, s.tasks.find? l = some ⟨id, some pc⟩ ∧ pc.mayWrite = true

/-! ## The invariant -/

theorem calibration_of_uncontrolled {f g : Fan} (h : f.uncontrolled = g.uncontrolled) :
    f.calibration = g.calibration :=
  Fan.agree Fan.calibration (fun _ => rfl) h

/-- Every result is that of the fan of its label, which moreover has the property `Q`, and the file
holds every result unless a test may still write it. -/
structure Remembers (print : ControllerMsg → Text) (Q : String → Measurement → Fan → Prop)
    (measured : String → Option Measurement) (s : Live) : Prop where
  labelled : Labelled s
  memory : ∀ l r, measured l = some r → ∃ o, s.object? l = some o ∧ o.fan.calibration = r ∧
    Q l r o.fan
  file : s.WriteDue ∨ ∀ l r, measured l = some r → s.FileHolds print l r

/-- The property does not look at the control mode. -/
def RemembersUncontrolled (Q : String → Measurement → Fan → Prop) : Prop :=
  ∀ l r f g, f.uncontrolled = g.uncontrolled → Q l r f → Q l r g

variable {Q : String → Measurement → Fan → Prop}

/-- `to_file` writes every result. -/
theorem Remembers.fileHolds (h : Remembers print Q measured s) {l : String} {r : Measurement}
    (hl : measured l = some r) : (s.toFile print).FileHolds print l r := by
  obtain ⟨o, ho, rfl, -⟩ := h.memory l r hl
  refine ⟨s.msg, rfl, o.fan.save, List.mem_map.mpr ⟨⟨l, o⟩, UnorderedMap.mem_entries.mpr ho, rfl⟩,
    ?_⟩
  rw [← h.labelled l o ho]
  unfold Fan.save
  cases o.fan.kind <;> exact ⟨rfl, rfl, rfl⟩

theorem testing_of_testsRunning (h : s.testsRunning ≠ 0) :
    ∃ k id pc, s.tasks.find? k = some ⟨id, some pc⟩ ∧ pc.testing = true := by
  obtain ⟨⟨k, id, pc⟩, hmem, htesting⟩ := List.countP_pos_iff.mp (Nat.pos_of_ne_zero h)
  obtain ⟨p, rfl, hp⟩ := (Option.any_eq_true _ _).mp (htesting : pc.any TestStep.testing = true)
  exact ⟨k, id, p, SortedMap.find?_eq_some.mpr hmem, hp⟩

theorem mayWrite_of_testing {pc : TestStep} (h : pc.testing = true) : pc.mayWrite = true := by
  cases pc <;> first | rfl | cases h

/-- The test of another label that may still write the file is not affected by a step of `l`. -/
theorem WriteDue.insert (h : s.WriteDue) {l : String} {id : ℕ} {pc : TestStep}
    (ht : s.tasks.find? l = some ⟨id, some pc⟩) (hpc : pc.mayWrite = false) (t : FanTask) :
    ∃ k i p, (s.tasks.insert l t).find? k = some ⟨i, some p⟩ ∧ p.mayWrite = true := by
  obtain ⟨k, i, p, hk, hp⟩ := h
  refine ⟨k, i, p, ?_, hp⟩
  rw [SortedMap.find?_insert, if_neg]
  · exact hk
  · rintro rfl
    obtain ⟨-, hpp⟩ := FanTask.mk.inj (Option.some.inj (ht.symm.trans hk))
    rw [Option.some.inj hpp, hp] at hpc
    cases hpc

theorem Remembers.advance (h : Remembers print Q measured s) {l : String}
    (hstep : s.advance print l = some s') : Remembers print Q measured s' := by
  obtain ⟨id, ⟨ht, rfl⟩ | ⟨ht, rfl⟩ | ⟨ht, rfl⟩⟩ := advance_cases hstep
  · refine ⟨h.labelled, h.memory, Or.inl ?_⟩
    by_cases hrunning : s.testsRunning = 0
    · refine ⟨l, id, .save, ?_, rfl⟩
      rw [setTasks, SortedMap.find?_insert, if_pos rfl, if_pos hrunning]
    · obtain ⟨k, i, pc, hk, hpc⟩ := testing_of_testsRunning hrunning
      refine ⟨k, i, pc, ?_, mayWrite_of_testing hpc⟩
      rw [setTasks, SortedMap.find?_insert, if_neg]
      · exact hk
      · rintro rfl
        obtain ⟨-, hp⟩ := FanTask.mk.inj (Option.some.inj (ht.symm.trans hk))
        rw [← Option.some.inj hp] at hpc
        cases hpc
  · exact ⟨h.labelled, h.memory, Or.inr fun k r hk => h.fileHolds hk⟩
  · exact ⟨h.labelled, h.memory, h.file.imp_left fun hdue => hdue.insert ht rfl _⟩

theorem Remembers.move {enables : String → Prop} (h : Remembers print Q measured s)
    (hQ : RemembersUncontrolled Q) (hmove : Move print enables s s') :
    Remembers print Q measured s' := by
  have hmemory : ∀ l r, measured l = some r → ∃ o, s'.object? l = some o ∧
      o.fan.calibration = r ∧ Q l r o.fan := by
    intro l r hl
    obtain ⟨o, ho, hr, hq⟩ := h.memory l r hl
    obtain ⟨o', ho', -, hfan⟩ := hmove.sameFans.object? ho
    exact ⟨o', ho', (calibration_of_uncontrolled hfan).trans hr, hQ l r _ _ hfan.symm hq⟩
  have hlabelled := hmove.sameFans.labelled h.labelled
  cases hmove with
  | control _ _ _ => exact ⟨hlabelled, hmemory, h.file⟩
  | @start k o _ _ =>
    refine ⟨hlabelled, hmemory, h.file.imp_left fun ⟨l, id, pc, ht, hpc⟩ => ⟨l, id, pc, ?_, hpc⟩⟩
    rw [setTasks, SortedMap.find?_emplace]
    split_ifs with hl
    · rw [← hl, ht]
      rfl
    · exact ht
  | advance hstep => exact h.advance hstep
  | @stop k hended =>
    refine ⟨hlabelled, hmemory, h.file.imp_left fun ⟨l, id, pc, ht, hpc⟩ => ⟨l, id, pc, ?_, hpc⟩⟩
    rw [setTasks, SortedMap.find?_erase, if_neg]
    · exact ht
    · rintro rfl
      rw [hended id pc ht] at hpc
      cases hpc

theorem Remembers.moves {enables : String → Prop} (h : Remembers print Q measured s)
    (hQ : RemembersUncontrolled Q) (hmoves : Moves print enables s s') :
    Remembers print Q measured s' := by
  induction hmoves with
  | refl => exact h
  | tail _ hmove ih => exact ih.move hQ hmove

theorem Remembers.keptBy (hQ : RemembersUncontrolled Q) :
    KeptBy print (Remembers print Q measured) where
  moves _ _ h hmoves := h.moves hQ hmoves
  rest _ _ _ h := ⟨h.labelled, h.memory, h.file⟩
  add t l f hf h := by
    refine ⟨h.labelled.addFan hf, fun k r hk => ?_, h.file⟩
    obtain ⟨o, ho, hr⟩ := h.memory k r hk
    exact ⟨o, object?_addFan_of_some ho, hr⟩

/-- A fan without a result is removed. -/
theorem Remembers.removeFan (h : Remembers print Q measured s) {l : String}
    (hl : ∀ o r, s.object? l = some o → ¬ Q l r o.fan) :
    Remembers print Q measured (s.removeFan l) := by
  refine ⟨h.labelled.removeFan l, fun k r hk => ?_, h.file⟩
  obtain ⟨o, ho, hr, hq⟩ := h.memory k r hk
  refine ⟨o, ?_, hr, hq⟩
  rw [object?_removeFan, if_neg]
  · exact ho
  · rintro rfl
    exact hl o r ho hq

theorem object?_addFan_self {l : String} (h : s.object? l = none) (f : Fan) :
    (s.addFan l f).object? l = some ⟨s.created, f⟩ := by
  show (s.fans.emplace l ⟨s.created, f⟩).find? l = _
  rw [UnorderedMap.find?_emplace_of_none h, if_pos rfl]

/-- A fan takes the place of another, with its result if it has one. -/
theorem Remembers.reInsertFan (h : Remembers print Q measured s) {old new : String} {f : Fan}
    (hf : f.label = new) (hold : ∀ o r, measured old = some r → s.object? old = some o →
      Q old r o.fan → new = old ∧ f.calibration = r ∧ Q old r f) :
    Remembers print Q measured (s.reInsertFan old new f) := by
  refine ⟨(h.labelled.removeFan old).addFan hf, fun k r hk => ?_, h.file⟩
  obtain ⟨o, ho, hr, hq⟩ := h.memory k r hk
  by_cases hkold : k = old
  · subst hkold
    obtain ⟨rfl, hr', hq'⟩ := hold o r hk ho hq
    refine ⟨_, object?_addFan_self ?_ f, hr', hq'⟩
    rw [object?_removeFan, if_pos rfl]
  · refine ⟨o, object?_addFan_of_some ?_, hr, hq⟩
    rw [object?_removeFan, if_neg hkold]
    exact ho

/-! ## The steps that keep it -/

/-- A reload leaves every fan with its result: the fan is listed, and an entry of the config with
its hardware id that differs from it has its label and the result. -/
def KeepsResults (parse : Text → Bool × ControllerMsg) (c : Calibrating) : Event → Prop
  | .reload env found => ∀ l r o, c.measured l = some r → c.live.object? l = some o →
      (∀ d, c.live.config? parse env = some d → ∀ e ∈ d.fans.entries, e.2.hwId = o.fan.hwId →
        e.2.save = o.fan.save ∨ e.1 = l ∧ e.2.calibration = r) ∧ c.live.Listed parse env found l
  | _ => True

/-- What holds in every run. -/
abbrev Recalls (print : ControllerMsg → Text) (measured : String → Option Measurement)
    (s : Live) : Prop := Remembers print (fun _ _ _ => True) measured s

theorem Remembers.recalls (h : Remembers print Q measured s) : Recalls print measured s := by
  refine ⟨h.labelled, fun l r hl => ?_, h.file⟩
  obtain ⟨o, ho, hr, -⟩ := h.memory l r hl
  exact ⟨o, ho, hr, trivial⟩

theorem distinct_config {env : Env} {d : Devices} (hd : s.config? parse env = some d) :
    DistinctHwIds Fan.hwId d.fans := by
  obtain ⟨msg, -, rfl⟩ := Option.map_eq_some_iff.mp hd
  exact distinct_load_fans env msg.devices

theorem Recalls.reload (h : Recalls print measured s) {env : Env} {found : Found}
    (hkeeps : KeepsResults parse ⟨s, measured⟩ (.reload env found))
    (hreload : s.reload drv parse print env (Devices.enumerate found) = some s') :
    Recalls print measured s' := by
  let Q : String → Measurement → Fan → Prop := fun l r f =>
    ∀ d, s.config? parse env = some d → ∀ e ∈ d.fans.entries, e.2.hwId = f.hwId →
      e.2.save = f.save ∨ e.1 = l ∧ e.2.calibration = r
  have hQ : RemembersUncontrolled Q := by
    intro l r f g hfg hsame d hd e he hid
    rw [← Fan.save_of_uncontrolled hfg]
    exact hsame d hd e he (hid.trans (Fan.hwId_of_uncontrolled hfg).symm)
  have hs : Remembers print Q measured s := by
    refine ⟨h.labelled, fun l r hl => ?_, h.file⟩
    obtain ⟨o, ho, hr, -⟩ := h.memory l r hl
    exact ⟨o, ho, hr, (hkeeps l r o hl ho).1⟩
  refine (reload_keeps (Remembers.keptBy hQ) (fun d hd t e he old o ht ho hid hdeep _ => ?_)
    hs hreload).recalls
  refine ht.reInsertFan (label_of_config hd he) fun o' r _ ho' hq => ?_
  obtain rfl := Option.some.inj (ho.symm.trans ho')
  rcases hq d hd e he hid.symm with hsame | ⟨hlabel, hr⟩
  · exact absurd hsame hdeep
  · refine ⟨hlabel, hr, fun d' hd' x hx hxid => ?_⟩
    obtain rfl := Option.some.inj (hd.symm.trans hd')
    have hentry := distinct_config hd x.1 e.1 x.2 e.2 (UnorderedMap.mem_entries.mp hx)
      (UnorderedMap.mem_entries.mp he) hxid
    have hx' := UnorderedMap.mem_entries.mp hx
    rw [hentry, UnorderedMap.mem_entries.mp he] at hx'
    exact Or.inl (congrArg Fan.save (Option.some.inj hx').symm)

theorem Recalls.test (h : Recalls print measured s) {l : String} {forced blocking : Bool}
    (htest : s.test drv print l forced blocking = some s') : Recalls print measured s' := by
  rcases test_cases htest with rfl | ⟨o, t, -, -, hmoves, -, rfl⟩
  · exact h
  · have ht := h.moves (fun _ _ _ _ _ _ => trivial) hmoves
    refine ⟨ht.labelled, ht.memory, Or.inl ⟨o.fan.label, o.id, .test, ?_, rfl⟩⟩
    rw [setTasks, SortedMap.find?_insert, if_pos rfl]

/-- The result of a test is that of its fan from then on. -/
theorem Recalls.testDone {c : Calibrating} (h : Recalls print c.measured c.live) {l : String}
    {success : Bool} {r : TestResult} (hdone : c.live.testDone l success r = some s') :
    Recalls print (c.measures (.testDone l success r)) s' := by
  obtain ⟨o, r', ht, ho, hsuccess, hfailure, rfl⟩ := testDone_cases hdone
  refine ⟨h.labelled.afterTest ho r', fun k q hk => ?_, Or.inl ⟨l, o.id, .reset, ?_, rfl⟩⟩
  · by_cases hkl : k = l
    · subst hkl
      refine ⟨_, object?_setFan_self ho _, ?_, trivial⟩
      cases success with
      | true =>
        rw [hsuccess rfl]
        rw [Calibrating.measures, Function.update_self] at hk
        exact Option.some.inj hk
      | false =>
        obtain ⟨hrpm, hstart⟩ := hfailure rfl
        obtain ⟨x, hx, hq, -⟩ := h.memory k q hk
        obtain rfl := Option.some.inj (ho.symm.trans hx)
        rw [← hq]
        exact Prod.ext hrpm hstart
    · have hold : c.measured k = some q := by
        cases success with
        | true => rwa [Calibrating.measures, Function.update_of_ne hkl] at hk
        | false => exact hk
      obtain ⟨x, hx, hq, -⟩ := h.memory k q hold
      refine ⟨x, ?_, hq, trivial⟩
      show (c.live.setFan l _).object? k = some x
      rw [object?_setFan, if_neg hkl]
      exact hx
  · rw [setTasks, SortedMap.find?_insert, if_pos rfl]

theorem Recalls.next {c c' : Calibrating} (h : Recalls print c.measured c.live) {e : Event}
    (hkeeps : KeepsResults parse c e) (hstep : c.next drv parse print e = some c') :
    Recalls print c'.measured c'.live := by
  unfold Calibrating.next at hstep
  split_ifs at hstep with hleaves
  obtain ⟨s', hs', rfl⟩ := Option.map_eq_some_iff.mp hstep
  have hmoves : ∀ {t : Live}, AllMoves print c.live t → Recalls print c.measured t :=
    h.moves fun _ _ _ _ _ _ => trivial
  cases e with
  | enable l => exact Option.some.inj hs' ▸ hmoves (allMoves_enable _ l)
  | enableAll => exact Option.some.inj hs' ▸ hmoves (allMoves_enableAll _)
  | disable l => exact hmoves (moves_disable hs').1.all
  | disableAll => exact hmoves (moves_disableAll hs').1.all
  | test l forced blocking => exact h.test hs'
  | reload env found => exact h.reload hkeeps hs'
  | setDevices _ _ => cases hleaves
  | recover => exact Option.some.inj hs' ▸ hmoves (allMoves_recover _)
  | edit _ => cases hleaves
  | testDone l success r => exact h.testDone hs'
  | reset l =>
    obtain ⟨id, ht, rfl⟩ := reset_cases hs'
    refine ⟨h.labelled, h.memory, Or.inl ⟨l, id, .check, ?_, rfl⟩⟩
    rw [setTasks, SortedMap.find?_insert, if_pos rfl]
  | advance l => exact hmoves (.single (.advance hs'))
  | detachedErase i =>
    obtain ⟨d, t, -, -, ht, rfl⟩ := detachedErase_cases hs'
    have hlive : Recalls print c.measured t := hmoves (moves_eraseTask ht).1.all
    exact ⟨hlive.labelled, hlive.memory, hlive.file⟩
  | detachedEnable i =>
    obtain ⟨d, -, -, rfl⟩ := detachedEnable_cases hs'
    have hlive : Recalls print c.measured (c.live.enable drv d.label) :=
      hmoves (allMoves_enable _ _)
    exact ⟨hlive.labelled, hlive.memory, hlive.file⟩

/-! ## Every run -/

/-- The entry of one of two fans, with the calibration from before the tests. -/
def pairMsg (n : String) : FanMsg where
  label := "fan" ++ n
  rpmToPwm := "800: 100".toList
  pwmPath := "/sys/pwm" ++ n
  rpmPath := "/sys/fan" ++ n ++ "_input"
  enablePath := "/sys/pwm" ++ n ++ "_enable"
  driverFlag := 2

def pairDevices : DevicesMsg := ⟨[pairMsg "1", pairMsg "2"], []⟩

/-- The message of the two fans, which is what the config file holds before their tests. -/
def pairConfig : ControllerMsg :=
  (({} : Live).replaceDevices (Devices.load readyEnv pairDevices)).msg

/-- The entry with what both tests measure. -/
def testedMsg (n : String) : FanMsg :=
  { pairMsg n with rpmToPwm := "1200: 255".toList, startPwm := 60 }

def testedConfig : ControllerMsg :=
  (({} : Live).replaceDevices (Devices.load readyEnv ⟨[testedMsg "1", testedMsg "2"], []⟩)).msg

/-- Two texts for the two messages that are written. -/
def pairPrint (m : ControllerMsg) : Text := if m = pairConfig then "old".toList else "new".toList

def pairParse (text : Text) : Bool × ControllerMsg :=
  (true, if text = "old".toList then pairConfig else testedConfig)

def pairStart : Live :=
  (({} : Live).setDevices willingDriver pairPrint readyEnv pairDevices).getD {}

/-- The state after the events, with the devices of `pairDevices`. -/
def calibrated (test : Calibrating → Event → Bool) (es : List Event) : Option Calibrating :=
  Transition.run (Calibrating.next willingDriver pairParse pairPrint) test
    ⟨pairStart, fun _ => none⟩ es

end Live

end Fancon
