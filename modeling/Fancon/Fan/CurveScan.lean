import Fancon.Fan.CurveText
import Fancon.Lib.ScanMatches

/-! # Which items the scans of a curve read

`next_item` resumes one character behind the end of a match. The temperature item takes the spaces
behind its RPM, so where spaces alone separate two items, the character that is passed over is the
first digit of the next one. No search runs off the text exactly when the last item that is found
ends it (`RpmToPwm.read?_eq_some`, `TempToRpm.read?_eq_some`); otherwise each search is read as
reaching to the end of the text.
-/
set_option autoImplicit false
set_option maxHeartbeats 250000
set_option maxRecDepth 120000

namespace Fancon

/-- The matches a scanning loop goes through: `next_item` passes over the character behind each. -/
def scannedMatches {α : Type} (R : Scan.Reader Char α) (src : Text) : List (Scan.Match Char α) :=
  R.matchesOf 1 src

/-- `rpm_to_pwm_from` inserts the items of the matches it goes through. -/
theorem RpmToPwm.read_eq (m : RpmToPwm) (src : Text) :
    m.read src = ((scannedMatches rpmReader src).map Scan.Match.item).foldl insertItem m := by
  rw [RpmToPwm.read, Scan.Reader.scan_eq_map]
  rfl

/-- `temp_to_rpm_from` of a tested fan inserts the items of the matches it goes through. -/
theorem TempToRpm.read_eq (stray : Pwm → Rpm) {m : RpmToPwm} (hm : m.entries.isEmpty = false)
    (curve : TempToRpm) (src : Text) :
    curve.read stray m src =
      ((scannedMatches tempReader src).map Scan.Match.item).foldl (insertItem stray m) curve := by
  rw [TempToRpm.read, hm, Scan.Reader.scan_eq_map]
  rfl

theorem RpmToPwm.read?_eq_some {m x : RpmToPwm} {src : Text} :
    m.read? src = some x ↔
      x = m.read src ∧ Scan.Reader.EndsText (scannedMatches rpmReader src) := by
  simp only [RpmToPwm.read?, Option.map_eq_some_iff, Scan.Reader.scan?_eq_some]
  constructor
  · rintro ⟨items, ⟨rfl, hends⟩, rfl⟩
    exact ⟨rfl, hends⟩
  · rintro ⟨rfl, hends⟩
    exact ⟨_, ⟨rfl, hends⟩, rfl⟩

/-- The search behind the item runs off the text. -/
example : RpmToPwm.read? .empty "800: 100 ".toList = none := by decide +kernel

theorem TempToRpm.read?_eq_some {stray : Pwm → Rpm} {m : RpmToPwm} {curve x : TempToRpm}
    {src : Text} : curve.read? stray m src = some x ↔ x = curve.read stray m src ∧
      (m.entries ≠ [] → Scan.Reader.EndsText (scannedMatches tempReader src)) := by
  by_cases hm : m.entries = []
  · simp [TempToRpm.read?, TempToRpm.read, hm, eq_comm]
  · simp only [TempToRpm.read?, TempToRpm.read, List.isEmpty_iff, hm, if_false,
      Option.map_eq_some_iff, Scan.Reader.scan?_eq_some, ne_eq, not_false_eq_true, true_imp_iff]
    constructor
    · rintro ⟨items, ⟨rfl, hends⟩, rfl⟩
      exact ⟨rfl, hends⟩
    · rintro ⟨rfl, hends⟩
      exact ⟨_, ⟨rfl, hends⟩, rfl⟩

/-! ## Items and runs of digits -/

theorem readDigits_cons {d : Char} {s ds rest : Text} (hd : d.isDigit = true)
    (h : readDigits s = some (ds, rest)) : readDigits (d :: s) = some (d :: ds, rest) := by
  unfold readDigits at h ⊢
  split_ifs at h with hne
  obtain ⟨rfl, rfl⟩ := Prod.ext_iff.mp (Option.some.inj h)
  rw [List.takeWhile_cons_of_pos hd, List.dropWhile_cons_of_pos hd, if_neg (List.cons_ne_nil _ _)]

theorem tempReader_readsWholeRuns : tempReader.ReadsWholeRuns fun c => c.isDigit = true := by
  intro d s hd h
  obtain ⟨⟨item, rest⟩, hread⟩ := Option.ne_none_iff_exists'.mp h
  obtain ⟨⟨temp, s₁⟩, htemp, hread⟩ := Option.bind_eq_some_iff.mp hread
  obtain ⟨s₂, hcolon, hread⟩ := Option.bind_eq_some_iff.mp hread
  obtain ⟨⟨rpm, s₃⟩, hrpm, -⟩ := Option.map_eq_some_iff.mp hread
  show readTempItem (d :: s) ≠ none
  simp [readTempItem, readDigits_cons hd htemp, hcolon, hrpm]

theorem rpmReader_readsWholeRuns : rpmReader.ReadsWholeRuns fun c => c.isDigit = true := by
  intro d s hd h
  obtain ⟨⟨item, rest⟩, hread⟩ := Option.ne_none_iff_exists'.mp h
  obtain ⟨⟨rpm, s₁⟩, hrpm, hread⟩ := Option.bind_eq_some_iff.mp hread
  obtain ⟨s₂, hcolon, hread⟩ := Option.bind_eq_some_iff.mp hread
  obtain ⟨⟨pwm, s₃⟩, hpwm, -⟩ := Option.map_eq_some_iff.mp hread
  show readRpmItem (d :: s) ≠ none
  simp [readRpmItem, readDigits_cons hd hrpm, hcolon, hpwm]

/-! ## Items read whole -/

/-- The scan goes through the leftmost matches that do not overlap, and reads no item from the
middle of a run of digits behind the item before it. -/
structure ReadsItemsWhole {α : Type} (R : Scan.Reader Char α) (src : Text) : Prop where
  leftmost : scannedMatches R src = R.leftmostMatches src
  whole : ∀ m next, [m, next] <:+: scannedMatches R src → ∀ before d,
    m.rest = before ++ d :: next.start → d.isDigit = false

/-- Behind none of the leftmost matches does an item start at once. -/
def ItemsApart {α : Type} (R : Scan.Reader Char α) (src : Text) : Prop :=
  ∀ m ∈ R.leftmostMatches src, R.read m.rest = none

theorem readsItemsWhole_iff {α : Type} {R : Scan.Reader Char α}
    (hR : R.ReadsWholeRuns fun c => c.isDigit = true) (src : Text) :
    ReadsItemsWhole R src ↔ ItemsApart R src := by
  constructor
  · intro h
    exact (R.matchesOf_one_eq_iff src).mp h.leftmost
  · intro h
    have heq : scannedMatches R src = R.leftmostMatches src := (R.matchesOf_one_eq_iff src).mpr h
    refine ⟨heq, fun m next hpair before d hbefore => ?_⟩
    rw [heq] at hpair
    exact Bool.eq_false_iff.mpr (R.not_run_between hR hpair hbefore)

/-- **Each scan reads every item whole exactly when no item starts where the one before it
ends.** -/
theorem curve_items_whole_iff (src : Text) :
    (ReadsItemsWhole tempReader src ↔ ItemsApart tempReader src) ∧
      (ReadsItemsWhole rpmReader src ↔ ItemsApart rpmReader src) :=
  ⟨readsItemsWhole_iff tempReader_readsWholeRuns src,
    readsItemsWhole_iff rpmReader_readsWholeRuns src⟩

/-- The second point of `40: 800 50: 1200` is read as `0: 1200`, and the second item of
`1000:1002000:100` as `000:100`. -/
theorem curve_items_cut :
    (∃ m, scannedMatches tempReader "40: 800 50: 1200".toList =
      [m, ⟨"0: 1200".toList, ⟨['0'], false, "1200".toList, false, false⟩, []⟩]) ∧
    ¬ ReadsItemsWhole tempReader "40: 800 50: 1200".toList ∧
    ¬ ReadsItemsWhole rpmReader "1000:1002000:100".toList := by
  refine ⟨⟨⟨"40: 800 50: 1200".toList, ⟨"40".toList, false, "800".toList, false, false⟩,
    "50: 1200".toList⟩, by decide +kernel⟩, fun h => ?_, fun h => ?_⟩
  · exact absurd h.leftmost (by decide +kernel)
  · exact absurd h.leftmost (by decide +kernel)

end Fancon
