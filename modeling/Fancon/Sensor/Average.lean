import Fancon.Device.Model

/-! # `Sensor::get_average_temp`

The readings a sensor has collected, and the average over them. The history is sized at the first
successful read; a later read overwrites the slot at `tempHistoryI`. The slot index may run one
past the end, and the write then lands outside the vector and leaves its elements and its size as
they were, which is what `List.set` does.
-/
set_option autoImplicit false
set_option maxHeartbeats 250000
set_option maxRecDepth 120000

namespace Fancon

/-- The fields of `Sensor` that `get_average_temp` maintains. -/
structure TempHistory where
  tempHistory : List Temp := []
  tempHistoryI : ℕ := 0
  lastAvgTemp : Temp := 0
deriving DecidableEq

/-- `accumulate(temp_history) / temp_history.size()`: an `int` sum, divided as `size_t`, kept as
`int`. -/
def averageTemp (tempHistory : List Temp) : Temp :=
  let sum := I32.wrap (tempHistory.map Subtype.val).sum
  I32.wrap (((sum.val % 18446744073709551616).toNat / tempHistory.length : ℕ) : ℤ)

/-- The history after a read; a failed one (`none`) is only logged. -/
def TempHistory.record (tempAveragingIntervals : U32) (h : TempHistory) :
    Option Temp → TempHistory
  | none => h
  | some temp =>
    if h.tempHistory ≠ [] then
      { h with
        tempHistory := h.tempHistory.set h.tempHistoryI temp
        tempHistoryI := if h.tempHistoryI < h.tempHistory.length then h.tempHistoryI + 1 else 0 }
    else { h with tempHistory := List.replicate tempAveragingIntervals.val temp }

/-- `Sensor::get_average_temp`; `fresh` is whether the last read is recent enough to reuse. -/
def getAverageTemp (tempAveragingIntervals : U32) (fresh : Bool) (read : Option Temp)
    (h : TempHistory) : Except Fault (Temp × TempHistory) :=
  if fresh then .ok (h.lastAvgTemp, h)
  else
    let h := h.record tempAveragingIntervals read
    if h.tempHistory.length = 0 then .error .divisionByZero
    else
      let avg := averageTemp h.tempHistory
      .ok (avg, { h with lastAvgTemp := avg })

theorem bind_eq_ok {α β : Type} {x : Except Fault α} {g : α → Except Fault β} {b : β}
    (h : x.bind g = .ok b) : ∃ a, x = .ok a ∧ g a = .ok b := by
  cases x with
  | error e => cases h
  | ok a => exact ⟨a, rfl, h⟩

theorem map_eq_ok {α β : Type} {x : Except Fault α} {g : α → β} {b : β}
    (h : x.map g = .ok b) : ∃ a, x = .ok a ∧ g a = b := by
  cases x with
  | error e => cases h
  | ok a => exact ⟨a, rfl, Except.ok.inj h⟩

/-- A successful read leaves a non-empty history, the first one unless the size is zero. -/
theorem TempHistory.record_length_ne_zero {tempAveragingIntervals : U32} (h : TempHistory)
    (temp : Temp) (hsize : tempAveragingIntervals ≠ 0) :
    (h.record tempAveragingIntervals (some temp)).tempHistory.length ≠ 0 := by
  have hval : tempAveragingIntervals.val ≠ 0 := fun h0 => hsize (Fin.ext h0)
  by_cases hne : h.tempHistory = []
  · simp only [TempHistory.record, hne, ne_eq, not_true, if_false, List.length_replicate]
    exact hval
  · simp only [TempHistory.record, ne_eq, hne, not_false_iff, if_true, List.length_set]
    exact fun h0 => hne (List.eq_nil_of_length_eq_zero h0)

theorem getAverageTemp_ok {tempAveragingIntervals : U32} (fresh : Bool) (temp : Temp)
    (h : TempHistory) (hsize : tempAveragingIntervals ≠ 0) :
    ∃ r, getAverageTemp tempAveragingIntervals fresh (some temp) h = .ok r := by
  cases fresh with
  | true => exact ⟨_, rfl⟩
  | false => exact ⟨_, if_neg (h.record_length_ne_zero temp hsize)⟩

end Fancon
