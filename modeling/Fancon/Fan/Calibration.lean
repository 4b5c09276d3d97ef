import Fancon.Fan.Curve

/-! # The calibration of a fan: `Fan::test`

A fan answers as it likes: what it is asked changes a state of its own, on which the next answer
depends. `set_stabilised_pwm` is taken to return. The loops of the four phases are given a number
of turns, and a phase that does not end in them has no result.

`test_running_min` goes down from the PWM at which the fan started until the fan stops, and past 0
if it does not. A calibration stays in range and ends exactly when it stops in time
(`calibrates_safely_iff`).
-/
set_option autoImplicit false
set_option maxHeartbeats 250000
set_option maxRecDepth 120000

namespace Fancon

abbrev PwmToRpm := SortedMap Pwm Rpm

/-! ## Fans -/

/-- The answers of a fan with the states `σ`. -/
structure FanDevice (σ : Type) where
  enableControl : σ → Bool × σ
  disableControl : σ → Bool × σ
  setPwm : Pwm → σ → Bool × σ
  getPwm : σ → Pwm × σ
  getRpm : σ → Rpm × σ

namespace FanDevice

variable {σ : Type} (dev : FanDevice σ)

/-- `abs(int(cur - prev)) <= STABILISED_THRESHOLD * cur`, for the threshold of a tenth. -/
def stable (prev cur : Rpm) : Bool := decide (10 * |(U32.toI32 (cur - prev)).val| ≤ (cur.val : ℤ))

theorem stable_self (rpm : Rpm) : stable rpm rpm = true := by
  have hzero : (U32.toI32 (rpm - rpm)).val = 0 := U32.toI32_eq_zero.mpr (sub_self rpm)
  rw [stable, decide_eq_true_iff, hzero, abs_zero, mul_zero]
  exact Int.natCast_nonneg _

/-- The loop of `set_stabilised_pwm`, for at most the given number of turns. -/
def stabiliseLoop (pwm : Pwm) : ℕ → Rpm → ℕ → σ → Option (Option Rpm × σ)
  | 0, _, _, _ => none
  | n + 1, cur, reached, s =>
    if reached ≤ 3 then
      let p := dev.getPwm s
      if p.1 ≠ pwm then some (none, p.2)
      else
        let r := dev.getRpm p.2
        stabiliseLoop pwm n r.1 (if stable cur r.1 then reached + 1 else 0) r.2
    else some (some cur, s)

def setStabilisedPwm (turns : ℕ) (pwm : Pwm) (s : σ) : Option (Option Rpm × σ) :=
  let w := dev.setPwm pwm s
  if !w.1 then some (none, w.2)
  else
    let r := dev.getRpm w.2
    dev.stabiliseLoop pwm turns r.1 0 r.2

/-- The loop of `set_pwm_test`. -/
def readsBack (target : Pwm) : ℕ → σ → Bool × σ
  | 0, s => (false, s)
  | n + 1, s =>
    let p := dev.getPwm s
    if p.1 = target then (true, p.2) else readsBack target n p.2

def setPwmTest (s : σ) : Bool × σ :=
  let p := dev.getPwm s
  let target := if p.1 ≠ PWM_MIN then PWM_MIN else PWM_MAX
  let w := dev.setPwm target p.2
  if !w.1 then (false, w.2) else dev.readsBack target 10 w.2

/-- `enable_control() && set_pwm_test()`. -/
def takeControl (s : σ) : Bool × σ :=
  let e := dev.enableControl s
  if !e.1 then (false, e.2) else dev.setPwmTest e.2

end FanDevice

/-- A fan on which every `set_stabilised_pwm` returns, with what it then returns. -/
structure Calibrator (σ : Type) extends FanDevice σ where
  stabilise : Pwm → σ → Option Rpm × σ
  stabilise_returns : ∀ pwm s, ∃ turns,
    toFanDevice.setStabilisedPwm turns pwm s = some (stabilise pwm s)
  /-- What reading an empty `optional<Rpm>` gives. -/
  stray : Rpm

/-! ## Phases -/

/-- The PWMs that a phase has commanded with `set_stabilised_pwm`, and what it leaves if it has
ended. -/
structure Phase (α : Type) where
  commands : List Pwm
  result : Option α

namespace Phase

variable {α β : Type}

def done (a : α) : Phase α := ⟨[], some a⟩

def unfinished : Phase α := ⟨[], none⟩

def command (pwm : Pwm) (rest : Phase α) : Phase α := ⟨pwm :: rest.commands, rest.result⟩

def map (f : α → β) (p : Phase α) : Phase β := ⟨p.commands, p.result.map f⟩

end Phase

/-- The commands of the phases of a test, and what it leaves if it has ended. -/
structure Calibration (α : Type) where
  phases : List (List Pwm)
  result : Option α

def Phase.andThen {α β : Type} (p : Phase α) (next : α → Calibration β) : Calibration β :=
  match p.result with
  | none => ⟨[p.commands], none⟩
  | some a => ⟨p.commands :: (next a).phases, (next a).result⟩

namespace Calibrator

variable {σ : Type} (C : Calibrator σ)

def testStopped (pwmToRpm : PwmToRpm) (s : σ) : Phase (PwmToRpm × σ) :=
  let r := C.getRpm (C.stabilise PWM_MIN s).2
  let p := C.getPwm r.2
  .command PWM_MIN (.done (pwmToRpm.insert p.1 r.1, p.2))

def startLoop : ℕ → Option Rpm → Pwm → σ → Phase (Option Rpm × σ)
  | 0, _, _, _ => .unfinished
  | n + 1, curRpm, targetPwm, s =>
    if (curRpm = none ∨ curRpm = some 0) ∧ targetPwm ≤ PWM_MAX then
      let r := C.stabilise targetPwm s
      .command targetPwm (startLoop n r.1 (targetPwm + 2) r.2)
    else .done (curRpm, s)

/-- `test_start`, which leaves `start_pwm` as well. -/
def testStart (turns : ℕ) (pwmToRpm : PwmToRpm) (s : σ) : Phase (Pwm × PwmToRpm × σ) :=
  (C.startLoop turns (some 0) PWM_MIN s).map fun r =>
    let p := C.getPwm r.2
    (p.1, pwmToRpm.insert p.1 (r.1.getD C.stray), p.2)

def runningMinLoop : ℕ → Pwm → List (Pwm × Rpm) → σ → Phase (List (Pwm × Rpm) × σ)
  | 0, _, _, _ => .unfinished
  | n + 1, targetPwm, results, s =>
    if PWM_MIN ≤ targetPwm then
      let r := C.stabilise targetPwm s
      .command targetPwm (match r.1 with
        | none => runningMinLoop n (targetPwm - 2) results r.2
        | some rpm =>
          if rpm ≤ 0 then .done (results, r.2)
          else runningMinLoop n (targetPwm - 2) (results ++ [(targetPwm, rpm)]) r.2)
    else .done (results, s)

/-- `test_running_min`; all but the last two results are saved. -/
def testRunningMin (turns : ℕ) (startPwm : Pwm) (pwmToRpm : PwmToRpm) (s : σ) :
    Phase (PwmToRpm × σ) :=
  (C.runningMinLoop turns startPwm [] s).map fun r =>
    ((r.1.take (r.1.length - 2)).foldl (fun m e => m.insert e.1 e.2) pwmToRpm, r.2)

def mappingLoop : ℕ → Pwm → PwmToRpm → σ → Phase (PwmToRpm × σ)
  | 0, _, _, _ => .unfinished
  | n + 1, target, pwmToRpm, s =>
    if target ≤ PWM_MAX then
      let r := C.stabilise target s
      .command target (mappingLoop n (target + if target < PWM_MAX - 1 then 2 else 1)
        (match r.1 with
          | some rpm => pwmToRpm.insert target rpm
          | none => pwmToRpm) r.2)
    else .done (pwmToRpm, s)

/-- `test_mapping`. -/
def testMapping (turns : ℕ) (startPwm : Pwm) (pwmToRpm : PwmToRpm) (s : σ) :
    Phase (PwmToRpm × σ) :=
  C.mappingLoop turns (min (startPwm + if startPwm % 2 ≠ 0 then 1 else 2) PWM_MAX) pwmToRpm s

end Calibrator

/-- `rpm_to_pwm_from` of the measured points: the speeds in order, with the PWMs in order. -/
def RpmToPwm.ofMeasured (pwmToRpm : PwmToRpm) : RpmToPwm :=
  SortedMap.ofItems (((pwmToRpm.entries.map Prod.snd).mergeSort fun a b => decide (a ≤ b)).zip
    (pwmToRpm.keys.map clampPwm))

/-- The fields of the fan that a test sets, and whether it succeeded. -/
structure TestOutcome (σ : Type) where
  success : Bool
  startPwm : Pwm
  rpmToPwm : RpmToPwm
  device : σ

/-- `Fan::test`, with a number of turns for each of its loops. -/
def Calibrator.test {σ : Type} (C : Calibrator σ) (turns : ℕ) (startPwm : Pwm)
    (rpmToPwm : RpmToPwm) (s : σ) : Calibration (TestOutcome σ) :=
  let pre := C.getPwm s
  let taken := C.takeControl pre.2
  if !taken.1 then ⟨[], some ⟨false, startPwm, rpmToPwm, (C.disableControl taken.2).2⟩⟩
  else
    (C.testStopped .empty taken.2).andThen fun r =>
    (C.testStart turns r.1 r.2).andThen fun r =>
    let startPwm := r.1
    (C.testRunningMin turns startPwm r.2.1 r.2.2).andThen fun r =>
    (C.testMapping turns startPwm r.1 r.2).andThen fun r =>
    ⟨[], some ⟨true, startPwm, .ofMeasured r.1, (C.setPwm pre.1 r.2).2⟩⟩

/-! ## What is claimed -/

/-- The test has ended, and each of its phases made at most 256 calls of `set_stabilised_pwm`, with
PWMs in range. -/
structure Calibration.Safe {α : Type} (c : Calibration α) : Prop where
  ends : c.result.isSome = true
  phases : ∀ commands ∈ c.phases, commands.length ≤ 256 ∧
    ∀ pwm ∈ commands, PWM_MIN ≤ pwm ∧ pwm ≤ PWM_MAX

def CalibratesSafely {σ : Type} (C : Calibrator σ) (startPwm : Pwm) (rpmToPwm : RpmToPwm)
    (s : σ) : Prop :=
  ∃ turns, (C.test turns startPwm rpmToPwm s).Safe

/-- What `test_running_min` starts with: `start_pwm`, the points measured so far and the fan. It is
not reached if control of the fan cannot be taken. -/
def Calibrator.beforeRunningMin {σ : Type} (C : Calibrator σ) (s : σ) :
    Option (Pwm × PwmToRpm × σ) :=
  let taken := C.takeControl (C.getPwm s).2
  if taken.1 then
    (C.testStopped .empty taken.2).result.bind fun r => (C.testStart 256 r.1 r.2).result
  else none

/-- Going down by twos from a PWM, the fan stops before the PWM passes 0. -/
inductive Calibrator.Stops {σ : Type} (C : Calibrator σ) : Pwm → σ → Prop
  | here {pwm : Pwm} {s : σ} : (C.stabilise pwm s).1 = some 0 → C.Stops pwm s
  | lower {pwm : Pwm} {s : σ} : 2 ≤ pwm → C.Stops (pwm - 2) (C.stabilise pwm s).2 → C.Stops pwm s

/-! ## Counting by twos -/

theorem val_add_two {pwm : Pwm} (h : pwm ≤ PWM_MAX) : (pwm + 2).val = pwm.val + 2 := by
  have hle : pwm.val ≤ 255 := h
  rw [Fin.val_add]
  show (pwm.val + 2) % 4294967296 = _
  omega

theorem val_add_one {pwm : Pwm} (h : pwm ≤ PWM_MAX) : (pwm + 1).val = pwm.val + 1 := by
  have hle : pwm.val ≤ 255 := h
  rw [Fin.val_add]
  show (pwm.val + 1) % 4294967296 = _
  omega

theorem val_sub_two {pwm : Pwm} (h : 2 ≤ pwm) : (pwm - 2).val = pwm.val - 2 :=
  Fin.sub_val_of_le h

/-- Below 2 the counter wraps around to a PWM that is out of range. -/
theorem sub_two_out_of_range {pwm : Pwm} (h : ¬ 2 ≤ pwm) : ¬ pwm - 2 ≤ PWM_MAX := by
  have hlt : pwm.val < 2 := not_le.mp h
  have hval : (pwm - 2).val = pwm.val + 4294967294 := by
    rw [Fin.sub_def]
    show (4294967296 - 2 + pwm.val) % 4294967296 = _
    omega
  intro hle
  have hle' : (pwm - 2).val ≤ 255 := hle
  omega

/-! ## Phases that end in range -/

/-- The phase has ended after at most so many commands, all in range. -/
structure Phase.Within {α : Type} (p : Phase α) (bound : ℕ) : Prop where
  ends : p.result.isSome = true
  length : p.commands.length ≤ bound
  inRange : ∀ pwm ∈ p.commands, pwm ≤ PWM_MAX

namespace Phase

variable {α β : Type} {p : Phase α} {bound : ℕ}

theorem within_done (a : α) (bound : ℕ) : (done a).Within bound :=
  ⟨rfl, Nat.zero_le _, nofun⟩

theorem Within.command (h : p.Within bound) {pwm : Pwm} (hpwm : pwm ≤ PWM_MAX) :
    (p.command pwm).Within (bound + 1) where
  ends := h.ends
  length := Nat.succ_le_succ h.length
  inRange q hq := by
    rcases List.mem_cons.mp hq with rfl | hq
    · exact hpwm
    · exact h.inRange q hq

theorem Within.map (h : p.Within bound) (f : α → β) : (p.map f).Within bound where
  ends := by
    rw [Phase.map, Option.isSome_map]
    exact h.ends
  length := h.length
  inRange := h.inRange

theorem Within.mono (h : p.Within bound) {bound' : ℕ} (hb : bound ≤ bound') : p.Within bound' :=
  ⟨h.ends, h.length.trans hb, h.inRange⟩

end Phase

namespace Calibrator

variable {σ : Type} (C : Calibrator σ)

theorem testStopped_within (pwmToRpm : PwmToRpm) (s : σ) : (C.testStopped pwmToRpm s).Within 1 :=
  (Phase.within_done _ 0).command (Fin.zero_le _)

/-! ## `test_start` -/

theorem startLoop_within : ∀ (turns : ℕ) (curRpm : Option Rpm) (pwm : Pwm) (s : σ),
    257 - pwm.val < 2 * turns → (C.startLoop turns curRpm pwm s).Within ((257 - pwm.val) / 2)
  | 0, _, _, _, h => by omega
  | n + 1, curRpm, pwm, s, h => by
      unfold startLoop
      split_ifs with hloop
      · have hval := val_add_two hloop.2
        have hle : pwm.val ≤ 255 := hloop.2
        have hrest := startLoop_within n (C.stabilise pwm s).1 (pwm + 2) (C.stabilise pwm s).2
          (by omega)
        exact (hrest.command hloop.2).mono (by omega)
      · exact Phase.within_done _ _

/-- How many turns it is given does not change what a loop that ends does. -/
theorem startLoop_unique : ∀ (m n : ℕ) (curRpm : Option Rpm) (pwm : Pwm) (s : σ),
    (C.startLoop m curRpm pwm s).result.isSome = true →
    (C.startLoop n curRpm pwm s).result.isSome = true →
    C.startLoop m curRpm pwm s = C.startLoop n curRpm pwm s
  | 0, _, _, _, _, h, _ => by cases h
  | _, 0, _, _, _, _, h => by cases h
  | m + 1, n + 1, curRpm, pwm, s, hm, hn => by
      unfold startLoop at hm hn ⊢
      split_ifs at hm hn ⊢
      · exact congrArg (Phase.command pwm) (startLoop_unique m n _ _ _ hm hn)
      · rfl

/-! ## `test_running_min` -/

theorem runningMinLoop_turn (n : ℕ) (pwm : Pwm) (results : List (Pwm × Rpm)) (s : σ) :
    (C.stabilise pwm s).1 = some 0 ∧ C.runningMinLoop (n + 1) pwm results s =
      .command pwm (.done (results, (C.stabilise pwm s).2)) ∨
    (C.stabilise pwm s).1 ≠ some 0 ∧ ∃ results', C.runningMinLoop (n + 1) pwm results s =
      .command pwm (C.runningMinLoop n (pwm - 2) results' (C.stabilise pwm s).2) := by
  have hmin : PWM_MIN ≤ pwm := Fin.zero_le pwm
  simp only [runningMinLoop, if_pos hmin]
  cases (C.stabilise pwm s).1 with
  | none => exact Or.inr ⟨nofun, results, rfl⟩
  | some rpm =>
    by_cases hrpm : rpm ≤ 0
    · obtain rfl : rpm = 0 := le_antisymm hrpm (Fin.zero_le rpm)
      exact Or.inl ⟨rfl, rfl⟩
    · simp only [if_neg hrpm]
      refine Or.inr ⟨fun h => hrpm ?_, results ++ [(pwm, rpm)], rfl⟩
      rw [Option.some.inj h]

/-- A fan that stops in time ends the loop before the counter wraps around. -/
theorem runningMinLoop_within {pwm : Pwm} {s : σ} (h : C.Stops pwm s) (hpwm : pwm ≤ PWM_MAX)
    {turns : ℕ} (results : List (Pwm × Rpm)) (hturns : pwm.val < 2 * turns) :
    (C.runningMinLoop turns pwm results s).Within (pwm.val / 2 + 1) := by
  induction h generalizing turns results with
  | @here pwm s hstops =>
    obtain ⟨n, rfl⟩ := Nat.exists_eq_add_one_of_ne_zero (by omega : turns ≠ 0)
    rcases C.runningMinLoop_turn n pwm results s with ⟨-, heq⟩ | ⟨hruns, -⟩
    · rw [heq]
      exact ((Phase.within_done _ 0).command hpwm).mono (by omega)
    · exact absurd hstops hruns
  | @lower pwm s htwo _ ih =>
    obtain ⟨n, rfl⟩ := Nat.exists_eq_add_one_of_ne_zero (by omega : turns ≠ 0)
    have hval := val_sub_two htwo
    have htwo' : 2 ≤ pwm.val := htwo
    have hpwm' : pwm.val ≤ 255 := hpwm
    have hlower : (pwm - 2).val ≤ 255 := by omega
    rcases C.runningMinLoop_turn n pwm results s with ⟨-, heq⟩ | ⟨-, results', heq⟩
    · rw [heq]
      exact ((Phase.within_done _ 0).command hpwm).mono (by omega)
    · rw [heq]
      exact ((ih hlower results' (by omega)).command hpwm).mono (by omega)

/-- If the loop ends with all its commands in range, the fan stopped in time. -/
theorem stops_of_runningMinLoop {turns : ℕ} {pwm : Pwm} {results : List (Pwm × Rpm)} {s : σ}
    (hend : (C.runningMinLoop turns pwm results s).result.isSome = true)
    (hrange : ∀ p ∈ (C.runningMinLoop turns pwm results s).commands, p ≤ PWM_MAX) :
    pwm ≤ PWM_MAX ∧ C.Stops pwm s := by
  induction turns generalizing pwm results s with
  | zero => cases hend
  | succ n ih =>
    rcases C.runningMinLoop_turn n pwm results s with ⟨hstops, heq⟩ | ⟨-, results', heq⟩
    · rw [heq] at hrange
      exact ⟨hrange pwm List.mem_cons_self, .here hstops⟩
    · rw [heq] at hend hrange
      obtain ⟨hlower, hstops⟩ := ih hend fun p hp => hrange p (List.mem_cons_of_mem _ hp)
      have htwo : 2 ≤ pwm := by
        by_contra hlt
        exact sub_two_out_of_range hlt hlower
      exact ⟨hrange pwm List.mem_cons_self, .lower htwo hstops⟩

/-! ## `test_mapping` -/

theorem mappingLoop_within : ∀ (turns : ℕ) (target : Pwm) (pwmToRpm : PwmToRpm) (s : σ),
    256 - target.val < turns →
      (C.mappingLoop turns target pwmToRpm s).Within (256 - target.val)
  | 0, _, _, _, h => by omega
  | n + 1, target, pwmToRpm, s, h => by
      unfold mappingLoop
      split_ifs with hloop hstep
      · have hval := val_add_two hloop
        have hle : target.val ≤ 255 := hloop
        exact ((mappingLoop_within n (target + 2) _ _ (by omega)).command hloop).mono (by omega)
      · have hval := val_add_one hloop
        have hle : target.val ≤ 255 := hloop
        exact ((mappingLoop_within n (target + 1) _ _ (by omega)).command hloop).mono (by omega)
      · exact Phase.within_done _ _

theorem testMapping_within {turns : ℕ} (hturns : 256 < turns) (startPwm : Pwm)
    (pwmToRpm : PwmToRpm) (s : σ) : (C.testMapping turns startPwm pwmToRpm s).Within 256 :=
  (C.mappingLoop_within turns _ pwmToRpm s (by omega)).mono (by omega)

/-! ## The whole test -/

theorem result_andThen {α β : Type} (p : Phase α) (next : α → Calibration β) :
    (p.andThen next).result = p.result.bind fun a => (next a).result := by
  unfold Phase.andThen
  cases p.result <;> rfl

theorem andThen_safe_iff {α β : Type} {p : Phase α} {next : α → Calibration β} :
    (p.andThen next).Safe ↔ p.Within 256 ∧ ∀ a, p.result = some a → (next a).Safe := by
  unfold Phase.andThen
  cases hp : p.result with
  | none =>
    refine ⟨fun h => absurd h.ends (by simp), fun h => ?_⟩
    have hends := h.1.ends
    rw [hp] at hends
    cases hends
  | some a =>
    constructor
    · intro h
      obtain ⟨hlength, hrange⟩ := h.phases p.commands List.mem_cons_self
      refine ⟨⟨by simp [hp], hlength, fun pwm hpwm => (hrange pwm hpwm).2⟩, ?_⟩
      rintro _ ⟨rfl⟩
      exact ⟨h.ends, fun commands hc => h.phases commands (List.mem_cons_of_mem _ hc)⟩
    · rintro ⟨hp', hnext⟩
      refine ⟨(hnext a rfl).ends, fun commands hc => ?_⟩
      rcases List.mem_cons.mp hc with rfl | hc
      · exact ⟨hp'.length, fun pwm hpwm => ⟨Fin.zero_le _, hp'.inRange pwm hpwm⟩⟩
      · exact (hnext a rfl).phases commands hc

theorem testStart_within {turns : ℕ} (hturns : 256 ≤ turns) (pwmToRpm : PwmToRpm) (s : σ) :
    (C.testStart turns pwmToRpm s).Within 256 := by
  have hmin : PWM_MIN.val = 0 := rfl
  exact ((C.startLoop_within turns (some 0) PWM_MIN s (by omega)).map _).mono (by omega)

theorem testStart_unique {m n : ℕ} {pwmToRpm : PwmToRpm} {s : σ}
    (hm : (C.testStart m pwmToRpm s).result.isSome = true)
    (hn : (C.testStart n pwmToRpm s).result.isSome = true) :
    C.testStart m pwmToRpm s = C.testStart n pwmToRpm s := by
  unfold testStart Phase.map at hm hn ⊢
  rw [Option.isSome_map] at hm hn
  rw [C.startLoop_unique m n (some 0) PWM_MIN s hm hn]

theorem test_of_not_taken {s : σ} (h : (C.takeControl (C.getPwm s).2).1 = false) (turns : ℕ)
    (startPwm : Pwm) (rpmToPwm : RpmToPwm) : (C.test turns startPwm rpmToPwm s).Safe := by
  unfold test
  simp only [h, Bool.not_false, if_true]
  exact ⟨rfl, nofun⟩

theorem test_of_taken {s : σ} (h : (C.takeControl (C.getPwm s).2).1 = true) (turns : ℕ)
    (startPwm : Pwm) (rpmToPwm : RpmToPwm) : C.test turns startPwm rpmToPwm s =
      (C.testStopped .empty (C.takeControl (C.getPwm s).2).2).andThen fun r =>
      (C.testStart turns r.1 r.2).andThen fun r =>
      (C.testRunningMin turns r.1 r.2.1 r.2.2).andThen fun r₁ =>
      (C.testMapping turns r.1 r₁.1 r₁.2).andThen fun r₂ =>
      ⟨[], some ⟨true, r.1, .ofMeasured r₂.1, (C.setPwm (C.getPwm s).1 r₂.2).2⟩⟩ := by
  unfold test
  simp only [h, Bool.not_true, Bool.false_eq_true, if_false]

theorem beforeRunningMin_eq_some {s : σ} {r : Pwm × PwmToRpm × σ} :
    C.beforeRunningMin s = some r ↔ (C.takeControl (C.getPwm s).2).1 = true ∧
      ∃ r₀, (C.testStopped .empty (C.takeControl (C.getPwm s).2).2).result = some r₀ ∧
        (C.testStart 256 r₀.1 r₀.2).result = some r := by
  unfold beforeRunningMin
  dsimp only
  split_ifs with h
  · simp [h, Option.bind_eq_some_iff]
  · simp [h]

theorem testRunningMin_within {turns : ℕ} {start : Pwm} {pwmToRpm : PwmToRpm} {s : σ}
    (h : C.Stops start s) (hstart : start ≤ PWM_MAX) (hturns : 256 ≤ turns) :
    (C.testRunningMin turns start pwmToRpm s).Within 256 := by
  have hle : start.val ≤ 255 := hstart
  exact ((C.runningMinLoop_within h hstart [] (by omega)).map _).mono (by omega)

theorem stops_of_testRunningMin {turns : ℕ} {start : Pwm} {pwmToRpm : PwmToRpm} {s : σ}
    (h : (C.testRunningMin turns start pwmToRpm s).Within 256) :
    start ≤ PWM_MAX ∧ C.Stops start s := by
  have hends := h.ends
  rw [testRunningMin, Phase.map, Option.isSome_map] at hends
  exact C.stops_of_runningMinLoop hends h.inRange

/-- **A calibration ends in range exactly when a fan that is calibrated starts at a PWM in range
and, going down from it, stops before the PWM passes 0.** -/
theorem calibrates_safely_iff (startPwm : Pwm) (rpmToPwm : RpmToPwm) (s : σ) :
    CalibratesSafely C startPwm rpmToPwm s ↔
      ∀ start pwmToRpm s', C.beforeRunningMin s = some (start, pwmToRpm, s') →
        start ≤ PWM_MAX ∧ C.Stops start s' := by
  constructor
  · rintro ⟨turns, hsafe⟩ start pwmToRpm s' hbefore
    obtain ⟨htaken, r₀, hstopped, hstart⟩ := C.beforeRunningMin_eq_some.mp hbefore
    rw [C.test_of_taken htaken] at hsafe
    have hsafe := (andThen_safe_iff.mp hsafe).2 _ hstopped
    obtain ⟨hwithin, hsafe⟩ := andThen_safe_iff.mp hsafe
    have hsame := C.testStart_unique (n := 256) hwithin.ends (by rw [hstart]; rfl)
    have hsafe := hsafe _ ((congrArg Phase.result hsame).trans hstart)
    exact C.stops_of_testRunningMin (andThen_safe_iff.mp hsafe).1
  · intro h
    refine ⟨257, ?_⟩
    cases htaken : (C.takeControl (C.getPwm s).2).1 with
    | false => exact C.test_of_not_taken htaken _ _ _
    | true =>
      rw [C.test_of_taken htaken]
      refine andThen_safe_iff.mpr ⟨(C.testStopped_within _ _).mono (by decide), ?_⟩
      intro r₀ hstopped
      have hwithin := C.testStart_within (show 256 ≤ 257 by decide) r₀.1 r₀.2
      refine andThen_safe_iff.mpr ⟨hwithin, ?_⟩
      rintro ⟨start, m, s'⟩ hstart
      have hsame := C.testStart_unique hwithin.ends
        (C.testStart_within (le_refl 256) r₀.1 r₀.2).ends
      obtain ⟨hle, hstops⟩ := h start m s' (C.beforeRunningMin_eq_some.mpr
        ⟨htaken, r₀, hstopped, (congrArg Phase.result hsame).symm.trans hstart⟩)
      refine andThen_safe_iff.mpr ⟨C.testRunningMin_within hstops hle (by decide), ?_⟩
      intro r₁ _
      refine andThen_safe_iff.mpr ⟨C.testMapping_within (by decide) _ _ _, ?_⟩
      exact fun _ _ => ⟨rfl, nofun⟩

end Calibrator

/-! ## A fan that does not stop -/

def steadyDevice : FanDevice Pwm where
  enableControl s := (true, s)
  disableControl s := (true, s)
  setPwm pwm _ := (true, pwm)
  getPwm s := (s, s)
  getRpm s := (1000, s)

theorem steadyDevice_returns (pwm s : Pwm) :
    steadyDevice.setStabilisedPwm 5 pwm s = some (some 1000, pwm) := by
  have hstable : FanDevice.stable 1000 1000 = true := by decide
  simp [FanDevice.setStabilisedPwm, FanDevice.stabiliseLoop, steadyDevice, hstable]

def steadyFan : Calibrator Pwm where
  toFanDevice := steadyDevice
  stabilise pwm _ := (some 1000, pwm)
  stabilise_returns pwm s := ⟨5, steadyDevice_returns pwm s⟩
  stray := 0

theorem steadyFan_never_stops {pwm s : Pwm} : ¬ steadyFan.Stops pwm s := by
  intro h
  induction h with
  | here hstops => exact absurd (Option.some.inj hstops) (by decide)
  | lower _ _ ih => exact ih

/-- A fan that never stops is driven past 0. -/
theorem calibration_leaves_range :
    ¬ ∀ (σ : Type) (C : Calibrator σ) (startPwm : Pwm) (rpmToPwm : RpmToPwm) (s : σ),
      CalibratesSafely C startPwm rpmToPwm s := by
  intro h
  obtain ⟨turns, hsafe⟩ := h Pwm steadyFan 0 .empty 100
  have htaken : (steadyFan.takeControl (steadyFan.getPwm 100).2).1 = true := by decide
  rw [steadyFan.test_of_taken htaken] at hsafe
  have hsafe := (Calibrator.andThen_safe_iff.mp hsafe).2 _ rfl
  obtain ⟨hwithin, hsafe⟩ := Calibrator.andThen_safe_iff.mp hsafe
  obtain ⟨r, hr⟩ := Option.isSome_iff_exists.mp hwithin.ends
  have hwithin := (Calibrator.andThen_safe_iff.mp (hsafe r hr)).1
  exact steadyFan_never_stops (steadyFan.stops_of_testRunningMin hwithin).2

end Fancon
