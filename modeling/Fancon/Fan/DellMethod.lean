import Fancon.Device.SaveLoad
import Fancon.Fan.Writes

/-! # The control method of a Dell fan

`FanDell::test_driver_enable_flag` tries the manual commands until one of them gives control, and
keeps the command in `driver_flag`. `FanDell::mode` reads the flag as the number of a method, and
takes every other value for method 2. So the flag the test leaves always stands for method 2, and
a method found is remembered exactly if it is that one (`method_remembered_iff`).
-/
set_option autoImplicit false
set_option maxHeartbeats 250000
set_option maxRecDepth 120000

namespace Fancon

/-- The commands of `SMM::Cmd` that take control and give it back. -/
inductive SmmCmd
  | manualControl1
  | autoControl1
  | manualControl3
  | autoControl3
  | manualControl2
  | autoControl2
deriving DecidableEq

namespace SmmCmd

def value : SmmCmd → U32
  | manualControl1 => 0x30a3
  | autoControl1 => 0x31a3
  | manualControl3 => 0x32a3
  | autoControl3 => 0x33a3
  | manualControl2 => 0x34a3
  | autoControl2 => 0x35a3

/-- The command of the same number that gives control back. -/
def auto : SmmCmd → SmmCmd
  | manualControl1 | autoControl1 => autoControl1
  | manualControl2 | autoControl2 => autoControl2
  | manualControl3 | autoControl3 => autoControl3

end SmmCmd

/-- `FanDell::mode`. -/
def FanPaths.mode (p : FanPaths) (enable : Bool) : SmmCmd :=
  if p.driverFlag = 1 then if enable then .manualControl1 else .autoControl1
  else if p.driverFlag = 3 then if enable then .manualControl3 else .autoControl3
  else if enable then .manualControl2 else .autoControl2

/-- What a Dell fan asks the firmware and its files. -/
structure DellDriver (σ : Type) where
  smmSend : SmmCmd → σ → Bool × σ
  writePwm : U32 → σ → Bool × σ
  getPwm : σ → Pwm × σ
  getRpm : σ → Rpm × σ

/-- A Dell fan over a device with the states `σ`. -/
structure DellFan (σ : Type) where
  paths : FanPaths
  enabled : Bool
  device : σ

def DellFan.setFlag {σ : Type} (s : DellFan σ) (flag : I32) : DellFan σ :=
  { s with paths := { s.paths with driverFlag := flag } }

namespace DellDriver

variable {σ : Type} (drv : DellDriver σ)

/-- An answer of the device. -/
def ask {α : Type} (answer : σ → α × σ) (s : DellFan σ) : α × DellFan σ :=
  let r := answer s.device
  (r.1, { s with device := r.2 })

/-- `FanDell::enable_control`. -/
def enableControl (s : DellFan σ) : Bool × DellFan σ :=
  let r := ask (drv.smmSend (s.paths.mode true)) s
  if r.1 then (true, { r.2 with enabled := true }) else (false, r.2)

/-- `FanDell::disable_control`. -/
def disableControl (s : DellFan σ) : Bool × DellFan σ :=
  let r := ask (drv.smmSend (s.paths.mode false)) s
  if r.1 then (true, { r.2 with enabled := false }) else (false, r.2)

/-- What `FanSysfs::set_pwm` finds under a Dell fan. -/
def hardware : Hardware (DellFan σ) where
  enableControl := drv.enableControl
  disableControl := drv.disableControl
  writePwm value := ask (drv.writePwm value)
  getPwm := ask drv.getPwm
  getRpm := ask drv.getRpm

def setPwm (pwm : Pwm) (s : DellFan σ) : DellFan σ :=
  (drv.hardware.setPwmSysfs pwm ⟨s, none⟩).2.device

/-! ## `test_driver_enable_flag` -/

/-- The PWM, min or max, furthest away from the current one. -/
def furthestPwm (cur : Pwm) : Pwm := if PWM_MAX - cur < cur - PWM_MIN then PWM_MIN else PWM_MAX

/-- One turn of the loop, up to the assignment of the flag: whether the command was sent and the
PWM set under it read back. -/
def tryControl (m : SmmCmd) (s : DellFan σ) : Bool × DellFan σ :=
  let sent := ask (drv.smmSend m) s
  if !sent.1 then (false, sent.2)
  else
    let cur := ask drv.getPwm sent.2
    let targetPwm := furthestPwm cur.1
    let read := ask drv.getPwm (drv.setPwm targetPwm cur.2)
    (decide (read.1 = targetPwm), read.2)

/-- The loop, with `found`. -/
def findControl : List SmmCmd → DellFan σ → Bool × DellFan σ
  | [], s => (false, s)
  | m :: ms, s =>
    let r := drv.tryControl m s
    if r.1 then (true, r.2.setFlag m.value.toI32) else findControl ms r.2

/-- The manual commands in the order they are tried. -/
def manualControls : List SmmCmd := [.manualControl2, .manualControl1, .manualControl3]

def testDriverEnableFlag (s : DellFan σ) : DellFan σ :=
  if 1 ≤ s.paths.driverFlag.val ∧ s.paths.driverFlag.val ≤ 3 then s
  else
    let r := drv.findControl manualControls s
    if r.1 then r.2 else r.2.setFlag 2

/-! ## The method the fan answers to -/

/-- The first command that is sent and under which the PWM reads back. -/
def firstControl : List SmmCmd → DellFan σ → Option SmmCmd
  | [], _ => none
  | m :: ms, s =>
    let r := drv.tryControl m s
    if r.1 then some m else firstControl ms r.2

/-- The manual command of a fan: method 2 if none is found. -/
def manualControl (s : DellFan σ) : SmmCmd :=
  (drv.firstControl manualControls s).getD .manualControl2

/-- The flag stands for the method of a manual command. -/
def StandsFor (p : FanPaths) (m : SmmCmd) : Prop := p.mode true = m ∧ p.mode false = m.auto

/-- After the test the flag stands for the method found, and so does the flag of every fan that is
loaded from a config this one was saved to. -/
structure MethodRemembered (s : DellFan σ) : Prop where
  tested : StandsFor (drv.testDriverEnableFlag s).paths (drv.manualControl s)
  loaded : ∀ (f : Fan) (env : Env) (sensors : UnorderedMap String Sensor),
    f.kind = .dell (drv.testDriverEnableFlag s).paths →
      ∃ g p, f.save.build env sensors = some g ∧ g.kind = .dell p ∧
        StandsFor p (drv.manualControl s)

/-- Method 2 gives control, or neither of the others does, tried one after the other. -/
def SecondOrNone (s : DellFan σ) : Prop :=
  let second := drv.tryControl .manualControl2 s
  let first := drv.tryControl .manualControl1 second.2
  second.1 = true ∨ first.1 = false ∧ (drv.tryControl .manualControl3 first.2).1 = false

theorem manualControl_eq_iff (s : DellFan σ) :
    drv.manualControl s = .manualControl2 ↔ drv.SecondOrNone s := by
  unfold manualControl manualControls SecondOrNone
  simp only [firstControl]
  split_ifs with h₂ h₁ h₃
  · exact ⟨fun _ => Or.inl h₂, fun _ => rfl⟩
  · exact ⟨nofun, fun h => absurd h (by simp [h₂, h₁])⟩
  · exact ⟨nofun, fun h => absurd h (by simp [h₂, h₃])⟩
  · exact ⟨fun _ => Or.inr ⟨Bool.eq_false_iff.mpr h₁, Bool.eq_false_iff.mpr h₃⟩, fun _ => rfl⟩

/-! ## What the flag stands for after the test -/

/-- A flag that numbers neither method 1 nor method 3 stands for method 2. -/
theorem standsFor_second {p : FanPaths} (h₁ : p.driverFlag ≠ 1) (h₃ : p.driverFlag ≠ 3) :
    StandsFor p .manualControl2 := by
  simp [StandsFor, FanPaths.mode, h₁, h₃, SmmCmd.auto]

theorem StandsFor.unique {p : FanPaths} {m m' : SmmCmd} (h : StandsFor p m)
    (h' : StandsFor p m') : m = m' :=
  h.1.symm.trans h'.1

/-- No command is the number of a method. -/
theorem toI32_value_ne (m : SmmCmd) : m.value.toI32 ≠ 1 ∧ m.value.toI32 ≠ 3 := by
  cases m <;> decide

theorem findControl_standsFor (ms : List SmmCmd) (s : DellFan σ)
    (h : (drv.findControl ms s).1 = true) :
    StandsFor (drv.findControl ms s).2.paths .manualControl2 := by
  induction ms generalizing s with
  | nil => cases h
  | cons m ms ih =>
    unfold findControl at h ⊢
    dsimp only at h ⊢
    split_ifs at h ⊢ with hm
    · exact standsFor_second (toI32_value_ne m).1 (toI32_value_ne m).2
    · exact ih _ h

theorem testDriverEnableFlag_standsFor {s : DellFan σ}
    (h : ¬ (1 ≤ s.paths.driverFlag.val ∧ s.paths.driverFlag.val ≤ 3)) :
    StandsFor (drv.testDriverEnableFlag s).paths .manualControl2 := by
  unfold testDriverEnableFlag
  rw [if_neg h]
  dsimp only
  split_ifs with hfound
  · exact drv.findControl_standsFor _ s hfound
  · exact standsFor_second (p := (DellFan.setFlag _ 2).paths) (show (2 : I32) ≠ 1 by decide)
      (show (2 : I32) ≠ 3 by decide)

/-- A Dell fan is loaded with the flag it was saved with. -/
theorem build_save_dell (env : Env) (sensors : UnorderedMap String Sensor) {f : Fan}
    {p : FanPaths} (hf : f.kind = .dell p) :
    ∃ g, f.save.build env sensors = some g ∧ g.kind = .dell p := by
  have hsup : env.Supports f.type := by
    intro htype
    unfold Fan.type at htype
    rw [hf] at htype
    cases htype
  refine ⟨f.save.fan env sensors f.kind, ?_, hf⟩
  rw [FanMsg.build, Fan.kind_save hsup, Option.map_some]

/-- **The test of a Dell fan remembers the method it finds exactly if method 2 gives control or
none of the three does.** -/
theorem method_remembered_iff (s : DellFan σ)
    (h : ¬ (1 ≤ s.paths.driverFlag.val ∧ s.paths.driverFlag.val ≤ 3)) :
    drv.MethodRemembered s ↔ drv.SecondOrNone s := by
  have htest := drv.testDriverEnableFlag_standsFor h
  rw [← drv.manualControl_eq_iff]
  constructor
  · exact fun hrem => hrem.tested.unique htest
  · intro hm
    rw [← hm] at htest
    refine ⟨htest, fun f env sensors hf => ?_⟩
    obtain ⟨g, hg, hkind⟩ := build_save_dell env sensors hf
    exact ⟨g, _, hg, hkind, htest⟩

end DellDriver

/-! ## A fan that answers to one method -/

/-- The state: whether control was taken, and the PWM. -/
def answersTo (method : SmmCmd) : DellDriver (Bool × Pwm) where
  smmSend m s := if m = method then (true, true, s.2) else (false, s)
  writePwm value s := if s.1 then (true, s.1, value) else (false, s)
  getPwm s := (s.2, s)
  getRpm s := (0, s)

/-- A fan with a flag that no method has. -/
def unknownMethod : DellFan (Bool × Pwm) :=
  ⟨⟨"pwm1", "fan1_input", "pwm1_enable", 0⟩, false, (false, 0)⟩

theorem method_remembered_second : (answersTo .manualControl2).MethodRemembered unknownMethod :=
  ((answersTo .manualControl2).method_remembered_iff unknownMethod (by decide)).mpr
    (Or.inl (by decide))

/-- Method 1 gives control and is found, and control is taken by method 2 from then on. -/
theorem first_method_forgotten :
    ¬ (1 ≤ unknownMethod.paths.driverFlag.val ∧ unknownMethod.paths.driverFlag.val ≤ 3) ∧
    (answersTo .manualControl1).manualControl unknownMethod = .manualControl1 ∧
    ¬ (answersTo .manualControl1).MethodRemembered unknownMethod := by
  refine ⟨by decide, by decide, fun h => ?_⟩
  exact absurd h.tested.1 (by decide)

end Fancon
