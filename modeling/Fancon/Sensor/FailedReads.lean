import Fancon.Sensor.Average

/-! # Reads that fail

A read that fails is logged and the average is taken over what was read before. That is harmless
once something was: the history stays as it is and so does the average. Before the first success
the history is empty, and the average divides by its size. So reads may fail exactly if the first
one does not (`failures_harmless_iff`).
-/
set_option autoImplicit false
set_option maxHeartbeats 250000
set_option maxRecDepth 120000

namespace Fancon

/-! ## Runs of `get_average_temp` -/

/-- `SensorSysfs::read`, of what the input file holds. -/
def sysfsRead (input : Option Temp) : Option Temp :=
  input.map fun temp => ⟨temp.val.tdiv 1000, by
    have h := temp.property
    have hsign : (1000 : ℤ).sign = 1 := rfl
    rw [Int.tdiv_eq_ediv, hsign]
    split_ifs <;> constructor <;> omega⟩

/-- What a call finds: the setting, whether the last read is recent, and what a read gives. -/
structure ReadCall where
  tempAveragingIntervals : U32
  fresh : Bool
  read : Option Temp
deriving DecidableEq

def ReadCall.fails (c : ReadCall) : Bool := !c.fresh && c.read.isNone

structure AverageCall where
  call : ReadCall
  previous : TempHistory
  returned : Temp
  history : TempHistory

def averageRun : List ReadCall → TempHistory → Except Fault (List AverageCall)
  | [], _ => .ok []
  | call :: calls, h =>
    (getAverageTemp call.tempAveragingIntervals call.fresh call.read h).bind fun (avg, h') =>
    (averageRun calls h').map fun made => ⟨call, h, avg, h'⟩ :: made

/-! ## What is claimed -/

/-- No call divides by zero, and those that fail to read leave the readings and return what the call
before them returned. -/
def FailuresHarmless (calls : List ReadCall) : Prop :=
  ∃ made, averageRun calls {} = .ok made ∧ made.map AverageCall.call = calls ∧
    (∀ c ∈ made, c.call.fails = true → c.history.tempHistory = c.previous.tempHistory ∧
      c.history.tempHistoryI = c.previous.tempHistoryI) ∧
    ∀ before c, [before, c] <:+: made → c.call.fails = true → c.returned = before.returned

/-- The first call that reads succeeds. -/
def FirstReadSucceeds (calls : List ReadCall) : Prop :=
  ((calls.find? fun c => !c.fresh).all fun c => c.read.isSome) = true

instance (calls : List ReadCall) : Decidable (FirstReadSucceeds calls) :=
  inferInstanceAs (Decidable (_ = true))

/-! ## One call -/

/-- Something was read, and the last average is of what was. -/
structure TempHistory.Settled (h : TempHistory) : Prop where
  read : h.tempHistory ≠ []
  averaged : h.lastAvgTemp = averageTemp h.tempHistory

section
variable {call : ReadCall} {h h' : TempHistory} {avg : Temp}

/-- What is returned is kept. -/
theorem getAverageTemp_returned
    (hcall : getAverageTemp call.tempAveragingIntervals call.fresh call.read h = .ok (avg, h')) :
    avg = h'.lastAvgTemp := by
  unfold getAverageTemp at hcall
  simp only at hcall
  split_ifs at hcall
  · obtain ⟨rfl, rfl⟩ := Prod.ext_iff.mp (Except.ok.inj hcall)
    rfl
  · obtain ⟨rfl, rfl⟩ := Prod.ext_iff.mp (Except.ok.inj hcall)
    rfl

theorem getAverageTemp_fresh (hfresh : call.fresh = true) :
    getAverageTemp call.tempAveragingIntervals call.fresh call.read h = .ok (h.lastAvgTemp, h) :=
  if_pos hfresh

/-- Without a reading a failed read divides by zero. -/
theorem getAverageTemp_unread (hfails : call.fails = true) (hunread : h.tempHistory = []) :
    getAverageTemp call.tempAveragingIntervals call.fresh call.read h = .error .divisionByZero := by
  obtain ⟨hfresh, hread⟩ := Bool.and_eq_true_iff.mp hfails
  rw [getAverageTemp, if_neg (by simpa using hfresh), Option.isNone_iff_eq_none.mp hread]
  exact if_pos (congrArg List.length hunread)

/-- Once something was read, a failed read changes nothing. -/
theorem TempHistory.Settled.getAverageTemp_failed (hsettled : h.Settled)
    (hfails : call.fails = true) :
    getAverageTemp call.tempAveragingIntervals call.fresh call.read h = .ok (h.lastAvgTemp, h) := by
  obtain ⟨hfresh, hread⟩ := Bool.and_eq_true_iff.mp hfails
  have hsize : ¬ h.tempHistory.length = 0 := fun hnil =>
    hsettled.read (List.eq_nil_of_length_eq_zero hnil)
  rw [getAverageTemp, if_neg (by simpa using hfresh), Option.isNone_iff_eq_none.mp hread]
  simp only [TempHistory.record, if_neg hsize, ← hsettled.averaged]

/-- A read that succeeds leaves a reading. -/
theorem getAverageTemp_read (hn : call.tempAveragingIntervals ≠ 0) (hfresh : call.fresh = false)
    (hread : call.read ≠ none) : ∃ avg h', h'.Settled ∧
      getAverageTemp call.tempAveragingIntervals call.fresh call.read h = .ok (avg, h') := by
  obtain ⟨temp, htemp⟩ := Option.ne_none_iff_exists'.mp hread
  have hsize := h.record_length_ne_zero temp hn
  rw [htemp, hfresh]
  refine ⟨_, _, ?_, if_neg hsize⟩
  exact ⟨fun hnil => hsize (congrArg List.length hnil), rfl⟩

theorem TempHistory.Settled.getAverageTemp_ok (hsettled : h.Settled)
    (hn : call.tempAveragingIntervals ≠ 0) :
    ∃ avg h', h'.Settled ∧ (call.fails = true → h' = h) ∧
      getAverageTemp call.tempAveragingIntervals call.fresh call.read h = .ok (avg, h') := by
  by_cases hfails : call.fails = true
  · exact ⟨_, h, hsettled, fun _ => rfl, hsettled.getAverageTemp_failed hfails⟩
  · cases hfresh : call.fresh with
    | true =>
      exact ⟨_, h, hsettled, fun _ => rfl, hfresh ▸ getAverageTemp_fresh hfresh⟩
    | false =>
      have hread : call.read ≠ none := fun hnone => hfails (by simp [ReadCall.fails, hfresh, hnone])
      obtain ⟨avg, h', hsettled', hcall⟩ := getAverageTemp_read (h := h) hn hfresh hread
      exact ⟨avg, h', hsettled', fun hf => absurd hf hfails, hfresh ▸ hcall⟩

end

/-! ## Runs -/

/-- The calls of a run in which a failed read changes nothing. -/
inductive AverageTurns : TempHistory → List AverageCall → Prop
  | nil {h : TempHistory} : AverageTurns h []
  | cons {call : ReadCall} {h h' : TempHistory} {made : List AverageCall} :
      (call.fails = true → h' = h) → AverageTurns h' made →
      AverageTurns h (⟨call, h, h'.lastAvgTemp, h'⟩ :: made)

section
variable {calls : List ReadCall} {h : TempHistory} {made : List AverageCall}

theorem AverageTurns.unchanged (hturns : AverageTurns h made) :
    ∀ c ∈ made, c.call.fails = true → c.history = c.previous := by
  induction hturns with
  | nil => exact fun c hc => absurd hc List.not_mem_nil
  | cons hsame _ ih =>
    intro c hc
    rcases List.mem_cons.mp hc with rfl | hc
    · exact hsame
    · exact ih c hc

theorem AverageTurns.returns_again (hturns : AverageTurns h made) :
    ∀ before c, [before, c] <:+: made → c.call.fails = true → c.returned = before.returned := by
  induction hturns with
  | nil =>
    intro before c hpair
    exact absurd (List.infix_nil.mp hpair) (List.cons_ne_nil _ _)
  | cons _ hturns ih =>
    intro before c hpair hfails
    rcases List.infix_cons_iff.mp hpair with hpair | hpair
    · obtain ⟨rfl, hnext⟩ := List.cons_prefix_cons.mp hpair
      cases hturns with
      | nil => exact absurd (List.prefix_nil.mp hnext) (List.cons_ne_nil _ _)
      | cons hsame _ =>
        obtain ⟨rfl, -⟩ := List.cons_prefix_cons.mp hnext
        simp only [hsame hfails]
    · exact ih before c hpair hfails

theorem averageRun_cons {call : ReadCall} {avg : Temp} {h' : TempHistory}
    (hcall : getAverageTemp call.tempAveragingIntervals call.fresh call.read h = .ok (avg, h'))
    (calls : List ReadCall) : averageRun (call :: calls) h =
      (averageRun calls h').map fun made => ⟨call, h, h'.lastAvgTemp, h'⟩ :: made := by
  rw [averageRun, hcall, ← getAverageTemp_returned hcall]
  rfl

/-- A run that returns, with a failed read changing nothing. -/
def RunsOn (calls : List ReadCall) (h : TempHistory) : Prop :=
  ∃ made, averageRun calls h = .ok made ∧ made.map AverageCall.call = calls ∧ AverageTurns h made

theorem RunsOn.cons {call : ReadCall} {avg : Temp} {h' : TempHistory} (hruns : RunsOn calls h')
    (hcall : getAverageTemp call.tempAveragingIntervals call.fresh call.read h = .ok (avg, h'))
    (hsame : call.fails = true → h' = h) : RunsOn (call :: calls) h := by
  obtain ⟨made, hrun, hcalls, hturns⟩ := hruns
  refine ⟨_, (averageRun_cons hcall calls).trans ?_, ?_, .cons hsame hturns⟩
  · rw [hrun]
    rfl
  · rw [List.map_cons, hcalls]

theorem TempHistory.Settled.runsOn (hsettled : h.Settled)
    (hn : ∀ c ∈ calls, c.tempAveragingIntervals ≠ 0) : RunsOn calls h := by
  induction calls generalizing h with
  | nil => exact ⟨[], rfl, rfl, .nil⟩
  | cons call calls ih =>
    obtain ⟨avg, h', hsettled', hsame, hcall⟩ :=
      hsettled.getAverageTemp_ok (hn call List.mem_cons_self)
    exact (ih hsettled' fun c hc => hn c (List.mem_cons_of_mem call hc)).cons hcall hsame

/-- Before anything was read a run returns if the first read succeeds, and else divides by zero. -/
theorem runsOn_unread (hunread : h.tempHistory = [])
    (hn : ∀ c ∈ calls, c.tempAveragingIntervals ≠ 0) :
    (FirstReadSucceeds calls → RunsOn calls h) ∧
      (¬ FirstReadSucceeds calls → averageRun calls h = .error .divisionByZero) := by
  induction calls with
  | nil => exact ⟨fun _ => ⟨[], rfl, rfl, .nil⟩, fun hnot => absurd rfl hnot⟩
  | cons call calls ih =>
    have hrest := ih fun c hc => hn c (List.mem_cons_of_mem call hc)
    unfold FirstReadSucceeds at hrest ⊢
    cases hfresh : call.fresh with
    | true =>
      have hcall := getAverageTemp_fresh (h := h) hfresh
      have hsame : call.fails = true → h = h := fun _ => rfl
      rw [List.find?_cons_of_neg (by simp [hfresh])]
      refine ⟨fun hread => (hrest.1 hread).cons hcall hsame, fun hnot => ?_⟩
      rw [averageRun_cons hcall, hrest.2 hnot]
      rfl
    | false =>
      rw [List.find?_cons_of_pos (by simp [hfresh]), Option.all_some]
      constructor
      · intro hread
        obtain ⟨avg, h', hsettled, hcall⟩ := getAverageTemp_read (h := h)
          (hn call List.mem_cons_self) hfresh (Option.isSome_iff_ne_none.mp hread)
        have hsucceeds : call.fails = true → h' = h := fun hfails => by
          rw [ReadCall.fails, Option.isNone_eq_false_iff.mpr hread, Bool.and_false] at hfails
          cases hfails
        exact (hsettled.runsOn fun c hc => hn c (List.mem_cons_of_mem call hc)).cons hcall hsucceeds
      · intro hread
        have hfails : call.fails = true := by simpa [ReadCall.fails, hfresh] using hread
        rw [averageRun, getAverageTemp_unread hfails hunread]
        rfl

end

/-- **Failed reads are harmless exactly if the first read does not fail.** -/
theorem failures_harmless_iff (calls : List ReadCall)
    (hn : ∀ c ∈ calls, c.tempAveragingIntervals ≠ 0) :
    FailuresHarmless calls ↔ FirstReadSucceeds calls := by
  obtain ⟨hruns, hdivides⟩ := runsOn_unread (h := {}) rfl hn
  constructor
  · rintro ⟨made, hrun, -⟩
    by_contra hnot
    cases (hdivides hnot).symm.trans hrun
  · intro hread
    obtain ⟨made, hrun, hcalls, hturns⟩ := hruns hread
    refine ⟨made, hrun, hcalls, fun c hc hfails => ?_, hturns.returns_again⟩
    rw [hturns.unchanged c hc hfails]
    exact ⟨rfl, rfl⟩

theorem failures_harmless_later :
    FailuresHarmless [⟨8, false, sysfsRead (some 40000)⟩, ⟨8, false, sysfsRead none⟩] :=
  (failures_harmless_iff _ fun c hc => by fin_cases hc <;> decide).mpr (by decide)

/-- A sensor whose input file cannot be read at first. -/
theorem first_failure_divides : ¬ ∀ calls : List ReadCall,
    (∀ c ∈ calls, c.tempAveragingIntervals ≠ 0) → FailuresHarmless calls := by
  intro h
  obtain ⟨made, hrun, -⟩ := h [⟨8, false, sysfsRead none⟩] fun c hc => by
    rw [List.mem_singleton.mp hc]
    decide
  have hdivides : averageRun [⟨8, false, sysfsRead none⟩] {} = .error .divisionByZero := rfl
  cases hdivides.symm.trans hrun

end Fancon
