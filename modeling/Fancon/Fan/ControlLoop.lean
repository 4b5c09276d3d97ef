import Fancon.Lib.Transition
import Fancon.Sensor.Average
import Fancon.Fan.Smoothing

/-! # Runs of `Fan::update`

The control loop: any number of fans, several of which may share a sensor, are updated in any
order, and configs are loaded in between. `DividesSafely c` says that from any state the loop can
be in when `c` is loaded, no sequence of updates executes a division by zero. It holds exactly of
the messages with a positive number of smoothing intervals and of temperature averaging intervals
(`divides_safely_iff`).
-/
set_option autoImplicit false
set_option maxHeartbeats 250000
set_option maxRecDepth 120000

namespace Fancon

def orUndefined {α : Type} : Option α → Except Fault α
  | some a => .ok a
  | none => .error .undefined

@[simp] theorem orUndefined_ne_division {α : Type} (o : Option α) :
    orUndefined o ≠ .error .divisionByZero := by
  cases o <;> simp [orUndefined]

/-- `Fan::update`, up to the PWM it hands to `set_pwm`. -/
def Fan.update (cfg : Settings) (fresh : Bool) (read : Option Temp) (getRpm : Rpm) (f : Fan)
    (h : TempHistory) : Except Fault (Pwm × Fan × TempHistory) :=
  (getAverageTemp cfg.tempAveragingIntervals fresh read h).bind fun (temp, h) =>
  (orUndefined (selectRpm cfg.dynamic f.tempToRpm temp)).bind fun rpm =>
  (smoothRpm cfg f.rpmToPwm rpm f.smoothing).bind fun (rpm, smoothing) =>
  (orUndefined (findClosestPwm f.rpmToPwm f.startPwm getRpm rpm)).map fun target =>
  (target, { f with smoothing := smoothing }, h)

/-- The fans, the sensor object each of them points to, and what these have collected. -/
structure LoopState where
  fans : ℕ → Fan
  sensorOf : ℕ → ℕ
  histories : ℕ → TempHistory

/-- One call of `update` whose sensor is read successfully. -/
structure UpdateCall where
  fan : ℕ
  fresh : Bool
  read : Temp
  getRpm : Rpm

def LoopState.update (cfg : Settings) (w : LoopState) (call : UpdateCall) :
    Except Fault LoopState :=
  let sensor := w.sensorOf call.fan
  ((w.fans call.fan).update cfg call.fresh (some call.read) call.getRpm (w.histories sensor)).map
    fun (_, f, h) =>
    { w with
      fans := Function.update w.fans call.fan f
      histories := Function.update w.histories sensor h }

theorem LoopState.update_ok {cfg : Settings} {w : LoopState} {call : UpdateCall} {target : Pwm}
    {f : Fan} {h : TempHistory}
    (hf : (w.fans call.fan).update cfg call.fresh (some call.read) call.getRpm
      (w.histories (w.sensorOf call.fan)) = .ok (target, f, h)) :
    w.update cfg call = .ok
      { w with
        fans := Function.update w.fans call.fan f
        histories := Function.update w.histories (w.sensorOf call.fan) h } := by
  rw [LoopState.update, hf]
  rfl

def LoopState.updates (cfg : Settings) : LoopState → List UpdateCall → Except Fault LoopState
  | w, [] => .ok w
  | w, call :: calls => (w.update cfg call).bind fun w => w.updates cfg calls

/-- Fans that have not been updated and sensors that have not been read. -/
def LoopState.Fresh (w : LoopState) : Prop :=
  ∀ i, (w.fans i).smoothing = {} ∧ w.histories i = {}

inductive LoopEvent
  | load (c : ControllerConfig)
  | update (call : UpdateCall)

def loopSystem : Transition.System (Settings × LoopState) LoopEvent where
  init p := p.1 = {} ∧ p.2.Fresh
  step p e p' :=
    match e with
    | .load c => p' = (p.1.load c, p.2)
    | .update call =>
      (p.2.fans call.fan).isConfigured = true ∧ p.2.update p.1 call = .ok p'.2 ∧ p'.1 = p.1

/-- Once `c` is loaded, no sequence of updates of configured fans divides by zero. -/
def DividesSafely (c : ControllerConfig) : Prop :=
  ∀ p, Transition.Reachable loopSystem p → ∀ calls : List UpdateCall,
    (∀ call ∈ calls, (p.2.fans call.fan).isConfigured = true) →
    p.2.updates (p.1.load c) calls ≠ .error .divisionByZero

/-! ## Positive interval counts are enough -/

theorem bind_ne_error {α β : Type} {e : Fault} {x : Except Fault α} {g : α → Except Fault β}
    (hx : x ≠ .error e) (hg : ∀ a, g a ≠ .error e) : x.bind g ≠ .error e := by
  cases x with
  | error e' => exact fun h => hx (by simpa [Except.bind] using h)
  | ok a => exact hg a

theorem map_ne_error {α β : Type} {e : Fault} {x : Except Fault α} (g : α → β)
    (hx : x ≠ .error e) : x.map g ≠ .error e := by
  cases x with
  | error e' => exact fun h => hx (by simpa [Except.map] using h)
  | ok a => simp [Except.map]

theorem Fan.update_ne_division {cfg : Settings} (hs : cfg.smoothingIntervals ≠ 0)
    (ht : cfg.tempAveragingIntervals ≠ 0) (fresh : Bool) (temp : Temp) (getRpm : Rpm) (f : Fan)
    (h : TempHistory) : f.update cfg fresh (some temp) getRpm h ≠ .error .divisionByZero := by
  obtain ⟨r, havg⟩ := getAverageTemp_ok fresh temp h ht
  refine bind_ne_error (by rw [havg]; simp) fun _ => ?_
  refine bind_ne_error (orUndefined_ne_division _) fun rpm => ?_
  refine bind_ne_error (smoothRpm_ne_division hs f.rpmToPwm rpm f.smoothing) fun _ => ?_
  exact map_ne_error _ (orUndefined_ne_division _)

theorem LoopState.updates_ne_division {cfg : Settings} (hs : cfg.smoothingIntervals ≠ 0)
    (ht : cfg.tempAveragingIntervals ≠ 0) (calls : List UpdateCall) (w : LoopState) :
    w.updates cfg calls ≠ .error .divisionByZero := by
  induction calls generalizing w with
  | nil => simp [LoopState.updates]
  | cons call calls ih =>
    refine bind_ne_error ?_ ih
    exact map_ne_error _ (Fan.update_ne_division hs ht _ _ _ _ _)

/-! ## Zero interval counts reach a division by zero -/

theorem bind_eq_of_ok {α β : Type} {x : Except Fault α} {a : α} {g : α → Except Fault β}
    {r : Except Fault β} (hx : x = .ok a) (hg : g a = r) : x.bind g = r := by
  rw [hx, ← hg]
  rfl

theorem bind_eq_error {α β : Type} {x : Except Fault α} {e : Fault} (hx : x = .error e)
    (g : α → Except Fault β) : x.bind g = .error e := by
  rw [hx]
  rfl

theorem map_eq_error {α β : Type} {x : Except Fault α} {e : Fault} (hx : x = .error e)
    (g : α → β) : x.map g = .error e := by
  rw [hx]
  rfl

theorem Fan.update_error_of_smoothRpm {cfg : Settings} {fresh : Bool} {read : Option Temp}
    {getRpm rpm : Rpm} {f : Fan} {h h' : TempHistory} {temp : Temp} {e : Fault}
    (havg : getAverageTemp cfg.tempAveragingIntervals fresh read h = .ok (temp, h'))
    (hrpm : selectRpm cfg.dynamic f.tempToRpm temp = some rpm)
    (he : smoothRpm cfg f.rpmToPwm rpm f.smoothing = .error e) :
    f.update cfg fresh read getRpm h = .error e := by
  refine bind_eq_of_ok havg (bind_eq_of_ok ?_ (bind_eq_error he _))
  rw [hrpm, orUndefined]

theorem Fan.update_error_of_getAverageTemp {cfg : Settings} {fresh : Bool} {read : Option Temp}
    {getRpm : Rpm} {f : Fan} {h : TempHistory} {e : Fault}
    (he : getAverageTemp cfg.tempAveragingIntervals fresh read h = .error e) :
    f.update cfg fresh read getRpm h = .error e := by
  exact bind_eq_error he _

theorem LoopState.updates_singleton_error {cfg : Settings} {w : LoopState} {call : UpdateCall}
    {e : Fault} (he : (w.fans call.fan).update cfg call.fresh (some call.read) call.getRpm
      (w.histories (w.sensorOf call.fan)) = .error e) : w.updates cfg [call] = .error e := by
  exact bind_eq_error (map_eq_error he _) _

/-- A fan that turns at 1000 RPM up to 10 degrees and at 2000 RPM from 20 degrees on. -/
def risingFan : Fan where
  label := "fan"
  ignore := false
  sensor := some ⟨"sensor", false, .nvidia 0⟩
  rpmToPwm := .ofItems [(1000, 100), (2000, 200)]
  tempToRpm := .ofItems [(10, 1000), (20, 2000)]
  startPwm := 0
  interval := 0
  enabled := true
  smoothing := {}
  kind := .nvidia 0

def risingLoop : LoopState where
  fans _ := risingFan
  sensorOf _ := 0
  histories _ := {}

def risingCall (read : Temp) : UpdateCall := ⟨0, false, read, 0⟩

theorem risingLoop_fresh : risingLoop.Fresh := fun _ => ⟨rfl, rfl⟩

theorem updates_averaging_zero {cfg : Settings} (h : cfg.tempAveragingIntervals = 0) (read : Temp) :
    risingLoop.updates cfg [risingCall read] = .error .divisionByZero := by
  refine LoopState.updates_singleton_error (Fan.update_error_of_getAverageTemp ?_)
  rw [h]
  rfl

def unaveraged : ControllerConfig := { tempAveragingIntervals := 1, smoothingIntervals := 1 }

/-- The fan and its sensor after an update at 10 degrees. -/
def slowFan : Fan :=
  { risingFan with smoothing := ⟨false, 1, 1000, 0⟩ }

def slowHistory : TempHistory := ⟨[10], 0, 10⟩

theorem risingFan_update :
    risingFan.update (({} : Settings).load unaveraged) false (some 10) 0 {} =
      .ok (100, slowFan, slowHistory) := by
  decide +kernel

def slowLoop : LoopState :=
  { risingLoop with
    fans := Function.update risingLoop.fans 0 slowFan
    histories := Function.update risingLoop.histories 0 slowHistory }

theorem slowLoop_reachable :
    Transition.Reachable loopSystem (({} : Settings).load unaveraged, slowLoop) := by
  have hstart : Transition.Reachable loopSystem ({}, risingLoop) := .init ⟨rfl, risingLoop_fresh⟩
  have hload : Transition.Reachable loopSystem (({} : Settings).load unaveraged, risingLoop) :=
    .step (a := .load unaveraged) hstart trivial rfl
  refine .step (a := .update (risingCall 10)) hload trivial ⟨rfl, ?_, rfl⟩
  exact LoopState.update_ok risingFan_update

/-- The request has risen by more than a tenth of the full speed, so the rise is divided over the
intervals of the settings. -/
theorem slowFan_smoothRpm {cfg : Settings} (h : cfg.smoothingIntervals = 0) :
    smoothRpm cfg slowFan.rpmToPwm 2000 slowFan.smoothing = .error .divisionByZero := by
  have hdelta : U32.toI32 (2000 - slowFan.smoothing.targetedRpm) = 1000 := by decide
  have hmax : slowFan.rpmToPwm.entries.getLast? = some (2000, 200) := by decide
  have hrem : ((slowFan.smoothing.resetStickiness cfg 1000).restart cfg
      2000).remIntervals = (U32.toI32 cfg.smoothingIntervals).val :=
    Smoothing.restart_remIntervals (by simp [slowFan])
  rw [h, U32.toI32_eq_zero.mpr rfl] at hrem
  have hchange : smoothChange cfg slowFan.rpmToPwm 2000 1000
      (slowFan.smoothing.resetStickiness cfg 1000) = .error .divisionByZero := by
    rw [smoothChange, hmax]
    exact (if_neg (by decide)).trans (if_pos hrem)
  simp only [smoothRpm, hdelta]
  rw [if_neg (by decide), if_neg (by decide), if_neg (by decide), hchange]

theorem slowHistory_average (n : U32) :
    getAverageTemp n false (some 20) slowHistory =
      .ok (20, ⟨[20], 1, 20⟩) := by
  have hrecord : slowHistory.record n (some 20) =
      ⟨[20], 1, 10⟩ := rfl
  have havg : averageTemp [20] = 20 := by decide +kernel
  simp [getAverageTemp, hrecord, havg]

theorem slowFan_selectRpm (dynamic : Bool) :
    selectRpm dynamic slowFan.tempToRpm 20 = some 2000 := by
  cases dynamic <;> decide

theorem updates_smoothing_zero {cfg : Settings} (h : cfg.smoothingIntervals = 0) :
    slowLoop.updates cfg [risingCall 20] = .error .divisionByZero := by
  apply LoopState.updates_singleton_error
  have hfan : slowLoop.fans 0 = slowFan := by simp [slowLoop]
  have hhistory : slowLoop.histories 0 = slowHistory := by simp [slowLoop]
  show (slowLoop.fans 0).update cfg false _ 0 (slowLoop.histories 0) = _
  rw [hfan, hhistory]
  exact Fan.update_error_of_smoothRpm (slowHistory_average _) (slowFan_selectRpm _)
    (slowFan_smoothRpm h)

/-- **Once a config is loaded the control loop divides safely exactly when both of its interval
counts are positive.** -/
theorem divides_safely_iff (c : ControllerConfig) :
    DividesSafely c ↔ c.smoothingIntervals ≠ 0 ∧ c.tempAveragingIntervals ≠ 0 := by
  constructor
  · intro h
    refine ⟨fun hs => ?_, fun ht => ?_⟩
    · refine h _ slowLoop_reachable [risingCall 20] ?_ (updates_smoothing_zero hs)
      rintro call hcall
      rw [List.mem_singleton.mp hcall]
      rfl
    · exact h ({}, risingLoop) (.init ⟨rfl, risingLoop_fresh⟩) [risingCall 10]
        (fun _ _ => rfl) (updates_averaging_zero ht _)
  · rintro ⟨hs, ht⟩ p - calls -
    exact LoopState.updates_ne_division hs ht calls p.2

/-- The message with no field set is accepted and does not divide safely. -/
theorem unset_config_divides_by_zero : ¬ DividesSafely {} := fun h =>
  h ({}, risingLoop) (.init ⟨rfl, risingLoop_fresh⟩) [risingCall 10]
    (fun _ _ => rfl) (updates_averaging_zero rfl _)

end Fancon
