import Fancon.Controller.Updates

/-! # The commands of the control loop

Whatever an enabled task reads, and whatever the settings are by then, it hands `set_pwm` a PWM of
the calibration of its fan, or the PWM at which the fan starts if it stands still at a lower one.
Nothing is clamped on the way: the PWMs of a config are when it is read, and those of a test when
they are recorded, but the starting PWM of a test is the one that the device reports. On devices
that report PWMs in range every command of every run is in range (`commands_in_range`).
-/
set_option autoImplicit false
set_option maxHeartbeats 250000
set_option maxRecDepth 120000

namespace Fancon

/-! ## The loop of a task -/

/-- What one turn of the loop finds: the settings, the sensor and what the fan answers. -/
structure LoopTurn where
  cfg : Settings
  fresh : Bool
  read : Option Temp
  getRpm : Rpm
  history : TempHistory

/-- The loop of an enabled task: what the fan answers in each turn, and the PWM it is given. A turn
without a defined result is the last one. -/
def Fan.loop : Fan → List LoopTurn → List (Rpm × Pwm)
  | _, [] => []
  | f, t :: ts =>
    match f.update t.cfg t.fresh t.read t.getRpm t.history with
    | .ok (target, f, _) => (t.getRpm, target) :: f.loop ts
    | .error _ => []

/-- What `find_closest_pwm` can choose for a fan. -/
inductive Fan.Commands (f : Fan) (getRpm : Rpm) : Pwm → Prop
  | calibrated {e : Rpm × Pwm} : e ∈ f.rpmToPwm.entries → f.Commands getRpm e.2
  | starting {e : Rpm × Pwm} : e ∈ f.rpmToPwm.entries → 0 < e.2 → e.2 < f.startPwm → getRpm = 0 →
      f.Commands getRpm f.startPwm

theorem Fan.commands_smoothing {f : Fan} {smoothing : Smoothing} {getRpm : Rpm} {pwm : Pwm}
    (h : ({ f with smoothing := smoothing } : Fan).Commands getRpm pwm) :
    f.Commands getRpm pwm := by
  cases h with
  | calibrated he => exact .calibrated he
  | starting he hpos hlt hstopped => exact .starting he hpos hlt hstopped

theorem Fan.commands_startIfStopped {f : Fan} {e : Rpm × Pwm} (he : e ∈ f.rpmToPwm.entries)
    (getRpm : Rpm) : f.Commands getRpm (startIfStopped f.startPwm getRpm e.2) := by
  unfold startIfStopped
  split_ifs with h
  · exact .starting he h.1 h.2.1 h.2.2
  · exact .calibrated he

theorem Fan.commands_findClosestPwm {f : Fan} {getRpm rpm : Rpm} {pwm : Pwm}
    (h : findClosestPwm f.rpmToPwm f.startPwm getRpm rpm = some pwm) : f.Commands getRpm pwm := by
  have honward : ∀ e ∈ f.rpmToPwm.onward rpm, e ∈ f.rpmToPwm.entries := fun e he =>
    (List.dropWhile_sublist _).subset he
  have hbefore : ∀ e, (f.rpmToPwm.before rpm).getLast? = some e → e ∈ f.rpmToPwm.entries :=
    fun e he => (List.takeWhile_sublist _).subset (List.mem_of_getLast? he)
  unfold findClosestPwm at h
  split at h
  · next ge _ hge _ =>
    obtain rfl := Option.some.inj h
    exact .calibrated (honward ge (by rw [hge]; exact List.mem_cons_self))
  · next ge _ le hge hle =>
    obtain rfl := Option.some.inj h
    unfold closerPwm
    split_ifs
    · exact f.commands_startIfStopped (hbefore le hle) getRpm
    · exact f.commands_startIfStopped (honward ge (by rw [hge]; exact List.mem_cons_self)) getRpm
  · next le _ hle =>
    obtain rfl := Option.some.inj h
    exact f.commands_startIfStopped (hbefore le hle) getRpm
  · cases h

/-- An update commands what `find_closest_pwm` chooses and changes the smoothing alone. -/
theorem Fan.update_cases {cfg : Settings} {fresh : Bool} {read : Option Temp} {getRpm : Rpm}
    {f f' : Fan} {h h' : TempHistory} {target : Pwm}
    (hupdate : f.update cfg fresh read getRpm h = .ok (target, f', h')) :
    f.Commands getRpm target ∧ f' = { f with smoothing := f'.smoothing } := by
  obtain ⟨⟨temp, h₁⟩, -, hupdate⟩ := bind_eq_ok hupdate
  obtain ⟨rpm, -, hupdate⟩ := bind_eq_ok hupdate
  obtain ⟨⟨smoothed, smoothing⟩, -, hupdate⟩ := bind_eq_ok hupdate
  cases hclosest : findClosestPwm f.rpmToPwm f.startPwm getRpm smoothed with
  | none =>
    simp only [hclosest, orUndefined, Except.map] at hupdate
    cases hupdate
  | some pwm =>
    simp only [hclosest, orUndefined, Except.map] at hupdate
    cases hupdate
    exact ⟨Fan.commands_findClosestPwm hclosest, rfl⟩

theorem Fan.loop_commands (turns : List LoopTurn) (f : Fan) :
    ∀ e ∈ f.loop turns, f.Commands e.1 e.2 := by
  induction turns generalizing f with
  | nil => intro e he; cases he
  | cons t ts ih =>
    intro e he
    unfold Fan.loop at he
    split at he
    · next target f' h' hupdate =>
      obtain ⟨hcommand, hf'⟩ := Fan.update_cases hupdate
      rcases List.mem_cons.mp he with rfl | he
      · exact hcommand
      · rw [hf'] at he
        exact Fan.commands_smoothing (ih _ e he)
    · cases he

/-! ## Fans whose commands are in range -/

structure Fan.InRange (f : Fan) : Prop where
  points : ∀ e ∈ f.rpmToPwm.entries, e.2 ≤ PWM_MAX
  startPwm : f.startPwm ≤ PWM_MAX

theorem Fan.InRange.command {f : Fan} (h : f.InRange) {getRpm : Rpm} {pwm : Pwm}
    (hcommand : f.Commands getRpm pwm) : pwm ≤ PWM_MAX := by
  cases hcommand with
  | calibrated he => exact h.points _ he
  | starting => exact h.startPwm

theorem clampPwm_le (pwm : Pwm) : clampPwm pwm ≤ PWM_MAX := by
  unfold clampPwm
  split_ifs with hlow hhigh
  · exact Fin.zero_le _
  · exact le_rfl
  · exact not_lt.mp hhigh

theorem RpmToPwm.read_in_range {m : RpmToPwm} (h : ∀ e ∈ m.entries, e.2 ≤ PWM_MAX) (src : Text) :
    ∀ e ∈ (m.read src).entries, e.2 ≤ PWM_MAX := by
  refine Loop.foldl_keeps (P := fun m : RpmToPwm => ∀ e ∈ m.entries, e.2 ≤ PWM_MAX) ?_ h _
  intro m item hm
  unfold RpmToPwm.insertItem
  split
  · intro e he
    rcases SortedMap.mem_insert.mp he with rfl | ⟨he, -⟩
    · exact clampPwm_le _
    · exact hm e he
  · exact hm

theorem RpmToPwm.ofMeasured_in_range (m : PwmToRpm) :
    ∀ e ∈ (RpmToPwm.ofMeasured m).entries, e.2 ≤ PWM_MAX := by
  intro e he
  have hitem := SortedMap.mem_of_mem_ofItems he
  obtain ⟨pwm, -, hpwm⟩ := List.mem_map.mp (List.of_mem_zip hitem).2
  exact hpwm ▸ clampPwm_le pwm

/-- A test records measured points and a PWM that the device has reported, or nothing. -/
theorem Calibrator.test_cases {σ : Type} (C : Calibrator σ) {turns : ℕ} {startPwm : Pwm}
    {rpmToPwm : RpmToPwm} {s : σ} {o : TestOutcome σ}
    (h : (C.test turns startPwm rpmToPwm s).result = some o) :
    o.rpmToPwm = rpmToPwm ∧ o.startPwm = startPwm ∨
      (∃ m, o.rpmToPwm = .ofMeasured m) ∧ ∃ s', o.startPwm = (C.getPwm s').1 := by
  cases htaken : (C.takeControl (C.getPwm s).2).1 with
  | false =>
    simp only [test, htaken, Bool.not_false, if_true] at h
    obtain rfl := Option.some.inj h
    exact Or.inl ⟨rfl, rfl⟩
  | true =>
    rw [C.test_of_taken htaken, result_andThen] at h
    obtain ⟨r, -, h⟩ := Option.bind_eq_some_iff.mp h
    rw [result_andThen] at h
    obtain ⟨r₁, hstart, h⟩ := Option.bind_eq_some_iff.mp h
    rw [result_andThen] at h
    obtain ⟨r₂, -, h⟩ := Option.bind_eq_some_iff.mp h
    rw [result_andThen] at h
    obtain ⟨r₃, -, h⟩ := Option.bind_eq_some_iff.mp h
    obtain ⟨t, -, rfl⟩ := Option.map_eq_some_iff.mp hstart
    obtain rfl := Option.some.inj h
    exact Or.inr ⟨⟨r₃.1, rfl⟩, t.2, rfl⟩

/-- The result is one of `Fan::test` on some device that reports PWMs in range. -/
def TestGivesInRange (f : Fan) (r : TestResult) : Prop :=
  ∃ (σ : Type) (C : Calibrator σ) (turns : ℕ) (s : σ) (o : TestOutcome σ),
    (∀ t, (C.getPwm t).1 ≤ PWM_MAX) ∧
    (C.test turns f.startPwm f.rpmToPwm s).result = some o ∧ r.rpmToPwm = o.rpmToPwm ∧
    r.startPwm = o.startPwm

theorem Fan.InRange.afterTest {f : Fan} (h : f.InRange) {r : TestResult}
    (hr : TestGivesInRange f r) : (f.afterTest r).InRange := by
  obtain ⟨σ, C, turns, s, o, hdevice, ho, hmap, hstart⟩ := hr
  have hpoints : (f.afterTest r).rpmToPwm = o.rpmToPwm := hmap
  have hpwm : (f.afterTest r).startPwm = o.startPwm := hstart
  rcases C.test_cases ho with ⟨hkeep, hsame⟩ | ⟨⟨m, hm⟩, t, ht⟩
  · refine ⟨?_, ?_⟩
    · rw [hpoints, hkeep]
      exact h.points
    · rw [hpwm, hsame]
      exact h.startPwm
  · refine ⟨?_, ?_⟩
    · rw [hpoints, hm]
      exact RpmToPwm.ofMeasured_in_range m
    · rw [hpwm, ht]
      exact hdevice t

/-- While a test runs its fan has the calibration and the start PWM from before or new ones, of
which the device reported the start PWM. -/
def TestWritesInRange (f : Fan) (r : TestResult) : Prop :=
  (r.rpmToPwm = f.rpmToPwm ∨ ∃ m : PwmToRpm, r.rpmToPwm = .ofMeasured m) ∧
    (r.startPwm = f.startPwm ∨ r.startPwm ≤ PWM_MAX)

theorem Fan.InRange.testWrites {f : Fan} (h : f.InRange) {r : TestResult}
    (hr : TestWritesInRange f r) : (f.afterTest r).InRange := by
  obtain ⟨hmap, hstart⟩ := hr
  refine ⟨?_, ?_⟩
  · show ∀ e ∈ r.rpmToPwm.entries, e.2 ≤ PWM_MAX
    rcases hmap with hkeep | ⟨m, hm⟩
    · rw [hkeep]
      exact h.points
    · rw [hm]
      exact RpmToPwm.ofMeasured_in_range m
  · show r.startPwm ≤ PWM_MAX
    rcases hstart with hkeep | hle
    · rw [hkeep]
      exact h.startPwm
    · exact hle

namespace Controller

theorem inRange_lasting : Lasting Fan.InRange where
  uncontrolled {f g} h hf := by
    have hmap : g.rpmToPwm = f.rpmToPwm := Fan.agree Fan.rpmToPwm (fun _ => rfl) h
    have hstart : g.startPwm = f.startPwm := Fan.agree Fan.startPwm (fun _ => rfl) h
    exact ⟨hmap ▸ hf.points, hstart ▸ hf.startPwm⟩
  found f := by
    refine ⟨fun e he => ?_, Fin.zero_le _⟩
    cases he
  built {env sensors msg f} h := by
    obtain ⟨kind, -, rfl⟩ := Option.map_eq_some_iff.mp h
    refine ⟨RpmToPwm.read_in_range (m := .empty) (fun e he => ?_) msg.rpmToPwm, ?_⟩
    · cases he
    · exact clampPwm_le msg.startPwm

/-! ## Every run -/

/-- The runs in which fans are calibrated by `Fan::test` on devices that report PWMs in range. -/
def inRangeSystem (parse : Text → Bool × ControllerMsg) (drivers : Driver → Prop) :
    Transition.System Controller Operation where
  init := (system parse drivers).init
  step c op c' := (system parse drivers).step c op c' ∧
    (∀ l r, op = .testWrites l r → ∀ f, c.fan? l = some f → TestWritesInRange f r) ∧
    ∀ l r, op = .testComplete l r → ∀ f, c.fan? l = some f → TestGivesInRange f r

/-- Every task that runs `update` is that of a fan in use, and from whatever state of its smoothing
its loop commands calibrated PWMs, or the starting one of a fan that stands still, all in range. -/
def CommandsInRange (c : Controller) : Prop :=
  ∀ l, c.testing? l = some false → ∃ f, c.fan? l = some f ∧ f.ignore = false ∧
    f.isConfigured = true ∧ ∀ (smoothing : Smoothing) (turns : List LoopTurn),
      ∀ e ∈ ({ f with smoothing := smoothing } : Fan).loop turns,
        f.Commands e.1 e.2 ∧ PWM_MIN ≤ e.2 ∧ e.2 ≤ PWM_MAX

/-- **In every state of every run each task commands calibrated PWMs in range.** -/
theorem commands_in_range (parse : Text → Bool × ControllerMsg) (drivers : Driver → Prop)
    (c : Controller) (hc : Transition.Reachable (inRangeSystem parse drivers) c) :
    CommandsInRange c := by
  obtain ⟨-, htended, hrange⟩ : WellFormed c ∧ Tended c ∧ AllFans Fan.InRange c := by
    refine Transition.ReachableWhen.invariant
      (fun c => WellFormed c ∧ Tended c ∧ AllFans Fan.InRange c) ?_ ?_ hc
    · rintro _ rfl
      refine ⟨wellFormed_start, fun l hl => ?_, fun l f hf => ?_⟩
      · cases hl
      · cases hf
    · rintro c op c' ⟨hwf, ht, hfans⟩ - ⟨⟨drv, -, hstep⟩, hwrites, hends⟩
      refine ⟨hwf.perform hstep, ht.perform hwf hstep,
        inRange_lasting.perform hfans (fun l r hop f hf => ?_) hstep⟩
      rcases hop with hop | hop
      · exact (hfans l f hf).testWrites (hwrites l r hop f hf)
      · exact (hfans l f hf).afterTest (hends l r hop f hf)
  intro l hl
  obtain ⟨f, hf, hignore, hconf⟩ := htended l hl
  refine ⟨f, hf, hignore, hconf, fun smoothing turns e he => ?_⟩
  have hcommand : f.Commands e.1 e.2 :=
    Fan.commands_smoothing (Fan.loop_commands turns _ e he)
  exact ⟨hcommand, Fin.zero_le _, (hrange l f hf).command hcommand⟩

theorem commands_in_range_case : CommandsInRange (caseController "40: 800") := by
  refine commands_in_range (fun _ => (false, {})) (fun _ => True) (caseController "40: 800") ?_
  refine .step (a := .setDevices readyEnv (caseDevices "40: 800")) (.init rfl) trivial
    ⟨⟨willingDriver, trivial, setDevices_case "40: 800"⟩, ?_, ?_⟩
  · intro l r h
    cases h
  · intro l r h
    cases h

end Controller

end Fancon
