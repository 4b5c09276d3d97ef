import Fancon.Lib.Refresh
import Fancon.Sensor.FailedReads

/-! # Reads that are shared

The fans that follow a sensor share it, and each of their tasks asks it for the average temperature
in every turn. `fresh` is true for 200 ms, in whole milliseconds, after the last read; until then
the average of that read is returned. The clock counts nanoseconds. Under the lock of the sensor
the calls come one after the other, whatever fans they are for. So a sensor is not read more often
than every 201 ms however many fans follow it, and between two reads all of them get the same
temperature (`reads_shared`). For that the first read has to succeed, with an average over at least
one reading: then later reads may fail and every call returns. The history of `getAverageTemp` is
not changed by a read that is written one past its end.
-/
set_option autoImplicit false
set_option maxHeartbeats 250000
set_option maxRecDepth 120000

namespace Fancon

/-! ## The clock -/

/-- A call of `get_average_temp`: the setting, the clock in `fresh`, what a read gives and the clock
after it. -/
structure TimedCall where
  tempAveragingIntervals : U32
  now : ℤ
  read : Option Temp
  readTime : ℤ

/-- The fields of `Sensor` that `get_average_temp` maintains, with the time of the last read. -/
structure TimedSensor where
  history : TempHistory := {}
  lastReadTime : ℤ := 0

namespace TimedSensor

/-- `fresh`: `duration_cast` to milliseconds drops the rest. -/
def fresh (s : TimedSensor) (now : ℤ) : Bool :=
  decide ((now - s.lastReadTime).tdiv 1000000 ≤ 200)

/-- `get_average_temp`; a read that fails is noted like one that succeeds. -/
def getAverageTemp (s : TimedSensor) (call : TimedCall) : Except Fault (Temp × TimedSensor) :=
  (Fancon.getAverageTemp call.tempAveragingIntervals (s.fresh call.now) call.read s.history).map
    fun (avg, history) =>
    (avg, ⟨history, if s.fresh call.now then s.lastReadTime else call.readTime⟩)

/-- The calls of all fans that follow the sensor, in the order in which they get its lock. -/
def run : List TimedCall → TimedSensor → Except Fault (List (Refresh.Turn Temp))
  | [], _ => .ok []
  | call :: calls, s =>
    (s.getAverageTemp call).bind fun (avg, s') =>
    (run calls s').map fun turns => ⟨call.now, !s.fresh call.now, call.readTime, avg⟩ :: turns

end TimedSensor

/-- How long a read is reused. -/
def freshFor : ℤ := 201000000

theorem tdiv_million_le (d : ℤ) : d.tdiv 1000000 ≤ 200 ↔ d < freshFor := by
  have hsign : (1000000 : ℤ).sign = 1 := rfl
  rw [Int.tdiv_eq_ediv, hsign, freshFor]
  split_ifs <;> omega

theorem TimedSensor.fresh_iff (s : TimedSensor) (now : ℤ) :
    s.fresh now = true ↔ now < s.lastReadTime + freshFor := by
  rw [TimedSensor.fresh, decide_eq_true_iff, tdiv_million_le]
  omega

/-! ## Runs -/

/-- The call without its times. -/
def TimedCall.untimed (call : TimedCall) (turn : Refresh.Turn Temp) : ReadCall :=
  ⟨call.tempAveragingIntervals, !turn.refreshed, call.read⟩

/-- The turns are those of the calls. -/
structure TurnsOf (calls : List TimedCall) (h : TempHistory) (turns : List (Refresh.Turn Temp)) :
    Prop where
  times : turns.map (fun t => (t.now, t.noted)) = calls.map fun c => (c.now, c.readTime)
  averages : ∃ made, averageRun (List.zipWith TimedCall.untimed calls turns) h = .ok made ∧
    made.map AverageCall.returned = turns.map Refresh.Turn.value

section

variable {call : TimedCall} {calls : List TimedCall} {s s' : TimedSensor} {avg : Temp}
  {turns : List (Refresh.Turn Temp)}

/-- A call returns what it keeps, and sets the time if it reads. -/
theorem TimedSensor.getAverageTemp_cases (h : s.getAverageTemp call = .ok (avg, s')) :
    Fancon.getAverageTemp call.tempAveragingIntervals (s.fresh call.now) call.read s.history =
      .ok (avg, s'.history) ∧ avg = s'.history.lastAvgTemp ∧
    (s.fresh call.now = true ∧ s' = s ∨
      s.fresh call.now = false ∧ s'.lastReadTime = call.readTime) := by
  obtain ⟨⟨avg', history⟩, hcall, heq⟩ := map_eq_ok h
  cases heq
  have hkept : avg = history.lastAvgTemp :=
    @getAverageTemp_returned ⟨call.tempAveragingIntervals, s.fresh call.now, call.read⟩
      s.history history avg hcall
  refine ⟨hcall, hkept, ?_⟩
  cases hfresh : s.fresh call.now with
  | false => exact Or.inr ⟨rfl, rfl⟩
  | true =>
    have hsame := @getAverageTemp_fresh ⟨call.tempAveragingIntervals, true, call.read⟩ s.history rfl
    rw [hfresh] at hcall
    obtain ⟨-, rfl⟩ := Prod.ext_iff.mp (Except.ok.inj (hsame.symm.trans hcall))
    exact Or.inl ⟨rfl, rfl⟩

theorem run_cons (h : TimedSensor.run (call :: calls) s = .ok turns) :
    ∃ avg s' rest, s.getAverageTemp call = .ok (avg, s') ∧ TimedSensor.run calls s' = .ok rest ∧
      turns = ⟨call.now, !s.fresh call.now, call.readTime, avg⟩ :: rest := by
  obtain ⟨⟨avg, s'⟩, hcall, h⟩ := bind_eq_ok h
  obtain ⟨rest, hrest, heq⟩ := map_eq_ok h
  exact ⟨avg, s', rest, hcall, hrest, heq.symm⟩

/-- The timed run is one of `averageRun`, with what the clock says for `fresh`. -/
theorem turnsOf_run (h : TimedSensor.run calls s = .ok turns) : TurnsOf calls s.history turns := by
  induction calls generalizing s turns with
  | nil =>
    cases h
    exact ⟨rfl, [], rfl, rfl⟩
  | cons call calls ih =>
    obtain ⟨avg, s', rest, hcall, hrest, rfl⟩ := run_cons h
    obtain ⟨htimes, made, hmade, hreturned⟩ := ih hrest
    obtain ⟨hcall, hkept, -⟩ := TimedSensor.getAverageTemp_cases hcall
    refine ⟨?_, ⟨⟨call.tempAveragingIntervals, s.fresh call.now, call.read⟩, s.history,
      s'.history.lastAvgTemp, s'.history⟩ :: made, ?_, ?_⟩
    · rw [List.map_cons, List.map_cons, htimes]
    · have huntimed : call.untimed ⟨call.now, !s.fresh call.now, call.readTime, avg⟩ =
          ⟨call.tempAveragingIntervals, s.fresh call.now, call.read⟩ := by
        rw [TimedCall.untimed, Bool.not_not]
      rw [List.zipWith_cons_cons, huntimed, averageRun_cons hcall, hmade]
      rfl
    · rw [List.map_cons, List.map_cons, hreturned, hkept]

/-- With a reading every call returns and leaves one, whether it reads, fails to or does not. -/
theorem getAverageTemp_leaves {tempAveragingIntervals : U32} {fresh : Bool} {read : Option Temp}
    {h : TempHistory} (hread : (h.record tempAveragingIntervals read).tempHistory ≠ [])
    (hfresh : fresh = true → h.tempHistory ≠ []) :
    ∃ avg h', getAverageTemp tempAveragingIntervals fresh read h = .ok (avg, h') ∧
      h'.tempHistory ≠ [] := by
  cases fresh with
  | true => exact ⟨_, _, rfl, hfresh rfl⟩
  | false => exact ⟨_, _, if_neg (mt List.eq_nil_of_length_eq_zero hread), hread⟩

theorem TimedSensor.getAverageTemp_ok (s : TimedSensor) (call : TimedCall)
    (hread : (s.history.record call.tempAveragingIntervals call.read).tempHistory ≠ [])
    (hfresh : s.fresh call.now = true → s.history.tempHistory ≠ []) :
    ∃ avg s', s.getAverageTemp call = .ok (avg, s') ∧ s'.history.tempHistory ≠ [] := by
  obtain ⟨avg, history, hcall, hread'⟩ := getAverageTemp_leaves hread hfresh
  exact ⟨avg, ⟨history, _⟩, congrArg (Except.map _) hcall, hread'⟩

/-- A reading stays one: later ones take the place of others. -/
theorem TempHistory.record_ne_nil {h : TempHistory} (hread : h.tempHistory ≠ [])
    (tempAveragingIntervals : U32) (read : Option Temp) :
    (h.record tempAveragingIntervals read).tempHistory ≠ [] := by
  cases read with
  | none => exact hread
  | some temp =>
    rw [TempHistory.record, if_pos hread]
    exact fun hnil => hread ((List.set_eq_nil_iff _ _).mp hnil)

theorem TimedSensor.run_ok (hread : s.history.tempHistory ≠ []) :
    ∃ turns, TimedSensor.run calls s = .ok turns := by
  induction calls generalizing s with
  | nil => exact ⟨[], rfl⟩
  | cons call calls ih =>
    obtain ⟨avg, s', hcall, hread'⟩ :=
      s.getAverageTemp_ok call (TempHistory.record_ne_nil hread _ _) fun _ => hread
    obtain ⟨turns, hturns⟩ := ih hread'
    refine ⟨⟨call.now, !s.fresh call.now, call.readTime, avg⟩ :: turns, ?_⟩
    rw [TimedSensor.run, hcall]
    exact congrArg (Except.map _) hturns

/-- The calls are turns of a value that is reused for 201 ms. -/
theorem turns_run (hclock : ∀ c ∈ calls, c.now ≤ c.readTime)
    (h : TimedSensor.run calls s = .ok turns) :
    Refresh.Turns freshFor s.lastReadTime s.history.lastAvgTemp turns := by
  induction calls generalizing s turns with
  | nil =>
    cases h
    exact .nil
  | cons call calls ih =>
    obtain ⟨avg, s', rest, hcall, hrest, rfl⟩ := run_cons h
    have hturns := ih (fun c hc => hclock c (List.mem_cons_of_mem _ hc)) hrest
    obtain ⟨-, hkept, ⟨hfresh, rfl⟩ | ⟨hstale, htime⟩⟩ := TimedSensor.getAverageTemp_cases hcall
    · rw [hfresh, hkept]
      exact .reuse ((s'.fresh_iff call.now).mp hfresh) hturns
    · have hdue : s.lastReadTime + freshFor ≤ call.now := by
        rw [← not_lt, ← s.fresh_iff, hstale]
        exact Bool.false_ne_true
      rw [hstale, hkept]
      rw [htime] at hturns
      exact .refresh hdue (hclock call List.mem_cons_self) hturns

end

/-! ## What the fans get -/

/-- What the fans that follow a sensor get from it. -/
structure ReadsShared (calls : List TimedCall) (turns : List (Refresh.Turn Temp)) : Prop where
  turnsOf : TurnsOf calls {} turns
  /-- Two reads are 201 ms apart for each one from the first to the second. -/
  apart : ∀ (i n : ℕ) (a b : Refresh.Turn Temp), (Refresh.refreshes turns)[i]? = some a →
    (Refresh.refreshes turns)[i + (n + 1)]? = some b → a.noted + (n + 1) * freshFor ≤ b.now
  /-- Every call returns what the last read gave, which is less than 201 ms old. -/
  shared : ∀ before t after, turns = before ++ t :: after →
    ∃ r, (Refresh.refreshes (before ++ [t])).getLast? = some r ∧ t.value = r.value ∧
      t.now < r.noted + freshFor

/-- The first call comes when the clock has run for 201 ms, and its read succeeds with an average
over at least one reading. -/
structure TimedCall.Starts (call : TimedCall) : Prop where
  stale : freshFor ≤ call.now
  reads : call.read.isSome = true
  intervals : call.tempAveragingIntervals ≠ 0

theorem TimedCall.Starts.run_ok {call : TimedCall} (hstarts : call.Starts)
    (calls : List TimedCall) : ∃ turns, TimedSensor.run (call :: calls) {} = .ok turns := by
  obtain ⟨temp, htemp⟩ := Option.isSome_iff_exists.mp hstarts.reads
  have hfresh : ¬ TimedSensor.fresh {} call.now = true := by
    rw [TimedSensor.fresh_iff, not_lt, zero_add]
    exact hstarts.stale
  have hsize := TempHistory.record_length_ne_zero {} temp hstarts.intervals
  rw [← htemp] at hsize
  obtain ⟨avg, s', hcall, hread⟩ := TimedSensor.getAverageTemp_ok {} call
    (fun hnil => hsize (congrArg List.length hnil)) fun hf => absurd hf hfresh
  obtain ⟨turns, hturns⟩ : ∃ turns, TimedSensor.run calls s' = .ok turns := TimedSensor.run_ok hread
  refine ⟨⟨call.now, !TimedSensor.fresh {} call.now, call.readTime, avg⟩ :: turns, ?_⟩
  rw [TimedSensor.run, hcall]
  exact congrArg (Except.map _) hturns

/-- **However many fans follow a sensor whose first read succeeds, every call returns, the sensor is
not read more often than every 201 ms, and between two reads all of them get the same
temperature.** -/
theorem reads_shared (calls : List TimedCall) (hclock : ∀ c ∈ calls, c.now ≤ c.readTime)
    (hstart : ∀ c ∈ calls.head?, c.Starts) :
    ∃ turns, TimedSensor.run calls {} = .ok turns ∧ ReadsShared calls turns := by
  have hreturns : ∃ turns, TimedSensor.run calls {} = .ok turns := by
    cases calls with
    | nil => exact ⟨[], rfl⟩
    | cons call calls => exact (hstart call rfl).run_ok calls
  obtain ⟨turns, hrun⟩ := hreturns
  have hturns := turns_run hclock hrun
  have hdue : ∀ t ∈ turns.head?, (0 : ℤ) + freshFor ≤ t.now := by
    intro t ht
    cases calls with
    | nil =>
      cases hrun
      cases ht
    | cons call calls =>
      obtain ⟨avg, s', rest, -, -, rfl⟩ := run_cons hrun
      obtain rfl := Option.some.inj ht
      rw [zero_add]
      exact (hstart call rfl).stale
  refine ⟨turns, hrun, turnsOf_run hrun, fun i n a b ha hb => hturns.refreshes_apart ha hb, ?_⟩
  intro before t after heq
  rcases hturns.last_refresh (by decide) before t after heq with hread | ⟨hnone, -⟩
  · exact hread
  · exact absurd hnone (hturns.first_refreshed hdue heq)

/-- Three fans ask within 200 ms, the first of them twice more later, when the read fails once. -/
def threeFans : List TimedCall :=
  [⟨2, 1000000000, sysfsRead (some 40000), 1000050000⟩, ⟨2, 1000100000, none, 1000100000⟩,
    ⟨2, 1200000000, none, 1200000000⟩, ⟨2, 1500000000, sysfsRead (some 60000), 1500040000⟩,
    ⟨2, 1800000000, sysfsRead none, 1800040000⟩]

def threeFansTurns : List (Refresh.Turn Temp) :=
  [⟨1000000000, true, 1000050000, 40⟩, ⟨1000100000, false, 1000100000, 40⟩,
    ⟨1200000000, false, 1200000000, 40⟩, ⟨1500000000, true, 1500040000, 50⟩,
    ⟨1800000000, true, 1800040000, 50⟩]

theorem reads_shared_three : ReadsShared threeFans threeFansTurns := by
  have hclock : ∀ c ∈ threeFans, c.now ≤ c.readTime := by decide
  have hstarts : ∀ c ∈ threeFans.head?, c.Starts := by
    intro c hc
    obtain rfl := Option.some.inj hc
    exact ⟨by decide, rfl, by decide⟩
  have hrun : TimedSensor.run threeFans {} = .ok threeFansTurns := by decide +kernel
  obtain ⟨turns, hturns, hshared⟩ := reads_shared threeFans hclock hstarts
  obtain rfl := Except.ok.inj (hturns.symm.trans hrun)
  exact hshared

end Fancon
