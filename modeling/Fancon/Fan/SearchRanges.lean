import Fancon.Fan.CurveText

/-! # The ranges that the parsers search

After a match the loops of `temp_to_rpm_from` and `rpm_to_pwm_from` search again, from the character
behind the match up to the end of the match, not up to the end of the text. Unless the match ends
the text, that range starts behind its end (`parsers_stay_inside_iff`); so no text of two items is
read within its bounds (`length_scan_of_stays_inside`).
-/
set_option autoImplicit false
set_option maxHeartbeats 250000
set_option maxRecDepth 120000

namespace Fancon

variable {α : Type}

/-! ## The searches of a loop -/

/-- The characters from one position up to another. -/
def Text.range (src : Text) (start next : ℕ) : Text := (src.take next).drop start

/-- `start_it` after a match that ends there; `next_it` is that end. -/
def Text.startAfter (src : Text) (matchEnd : ℕ) : ℕ :=
  if matchEnd ≠ src.length then matchEnd + 1 else matchEnd

/-- The ranges `start_it`, `next_it` that a loop searches for the items of a reader. What a search
of no valid range gives is undefined, and no search is known to follow it. -/
inductive Searches (R : Scan.Reader Char α) (src : Text) : ℕ → ℕ → Prop
  | first : Searches R src 0 src.length
  | nextItem {start next : ℕ} {item : α} {rest : Text} :
      Searches R src start next → start ≤ next → next ≤ src.length →
      R.search (src.range start next) = some (item, rest) →
      Searches R src (src.startAfter (next - rest.length)) (next - rest.length)

/-- The ranges that `rpm_to_pwm_from` searches. -/
def RpmToPwm.Searched (src : Text) : ℕ → ℕ → Prop := Searches rpmReader src

/-- The ranges that `temp_to_rpm_from` searches; it returns early for an untested fan. -/
def TempToRpm.Searched (m : RpmToPwm) (src : Text) (start next : ℕ) : Prop :=
  m.entries.isEmpty = false ∧ Searches tempReader src start next

/-- Every search is of a valid range of the text. -/
def StaysInside (searched : ℕ → ℕ → Prop) (src : Text) : Prop :=
  ∀ start next, searched start next → start ≤ next ∧ next ≤ src.length

/-- The leftmost item, if the text has one, ends the text. -/
def LeftmostEnds (R : Scan.Reader Char α) (src : Text) : Prop :=
  ∀ item rest, R.search src = some (item, rest) → rest = []

/-! ## One reader -/

variable {R : Scan.Reader Char α} {src : Text}

theorem range_whole (src : Text) : src.range 0 src.length = src := by
  rw [Text.range, List.drop_zero, List.take_length]

theorem range_end (src : Text) : src.range src.length src.length = [] := by
  rw [Text.range, List.take_length, List.drop_length]

/-- Then the only ranges searched are the whole text and the empty one at its end. -/
theorem searches_of_leftmostEnds (h : LeftmostEnds R src) {start next : ℕ}
    (hs : Searches R src start next) : (start = 0 ∨ start = src.length) ∧ next = src.length := by
  induction hs with
  | first => exact ⟨Or.inl rfl, rfl⟩
  | @nextItem start next item rest _ hle _ hsearch ih =>
    obtain ⟨hstart, rfl⟩ := ih
    have hrest : rest = [] := by
      rcases hstart with rfl | rfl
      · rw [range_whole] at hsearch
        exact h item rest hsearch
      · rw [range_end] at hsearch
        cases hsearch
    subst hrest
    exact ⟨Or.inr (if_neg (not_not.mpr rfl)), rfl⟩

theorem stays_inside_searches_iff :
    StaysInside (Searches R src) src ↔ LeftmostEnds R src := by
  constructor
  · intro h item rest hsearch
    have hshorter := R.search_shorter hsearch
    have hnext := Searches.first.nextItem (Nat.zero_le _) le_rfl
      ((congrArg R.search (range_whole src)).trans hsearch)
    have hinside := (h _ _ hnext).1
    by_contra hrest
    have hpos := List.length_pos_iff.mpr hrest
    rw [Text.startAfter, if_pos (by omega)] at hinside
    omega
  · intro h start next hs
    obtain ⟨hstart, rfl⟩ := searches_of_leftmostEnds h hs
    rcases hstart with rfl | rfl
    · exact ⟨Nat.zero_le _, le_rfl⟩
    · exact ⟨le_rfl, le_rfl⟩

/-- A text with two items is not searched within its bounds. -/
theorem length_scan_of_stays_inside (h : StaysInside (Searches R src) src) :
    (R.scan src).length ≤ 1 := by
  rw [R.scan_eq]
  cases hsearch : R.search src with
  | none => exact Nat.zero_le 1
  | some r =>
    obtain ⟨item, rest⟩ := r
    obtain rfl := stays_inside_searches_iff.mp h item rest hsearch
    exact le_rfl

/-! ## The two parsers -/

/-- **The parsers search within the text exactly if the leftmost item of each, where it has one,
ends the text; an untested fan reads no temperatures.** -/
theorem parsers_stay_inside_iff (m : RpmToPwm) (src : Text) :
    StaysInside (RpmToPwm.Searched src) src ∧ StaysInside (TempToRpm.Searched m src) src ↔
      LeftmostEnds rpmReader src ∧ (m.entries = [] ∨ LeftmostEnds tempReader src) := by
  apply and_congr stays_inside_searches_iff
  rw [← stays_inside_searches_iff, ← List.isEmpty_iff]
  cases hempty : m.entries.isEmpty with
  | true => exact ⟨fun _ => Or.inl rfl, fun _ _ _ h => absurd (h.1.symm.trans hempty) (by decide)⟩
  | false => exact ⟨fun h => Or.inr fun start next hs => h start next ⟨hempty, hs⟩,
      fun h start next hs => (h.resolve_left (by decide)) start next hs.2⟩

/-- Behind the first item of the text, the next search starts one past its end. -/
theorem second_item_outside : ¬ ∀ (m : RpmToPwm) (src : Text),
    StaysInside (RpmToPwm.Searched src) src ∧ StaysInside (TempToRpm.Searched m src) src := by
  intro h
  have hends := stays_inside_searches_iff.mp (h .empty "1000: 100, 2000: 200".toList).1
  have hsearch : rpmReader.search "1000: 100, 2000: 200".toList =
      some (("1000".toList, "100".toList), ", 2000: 200".toList) := by decide
  exact absurd (hends _ _ hsearch) (by decide)

end Fancon
