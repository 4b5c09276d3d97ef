import Fancon.Types
import Fancon.Lib.Scan

/-! # Decimal items in a text

The pieces that the regular expressions of `Fan.cpp` are made of, each reading as much as it can
from the start of a text. None of them needs to give anything back: what follows a greedy piece
in either expression never starts with an element that piece takes.
-/
set_option autoImplicit false
set_option maxHeartbeats 250000
set_option maxRecDepth 120000

namespace Fancon

/-- The characters of a `string`. -/
abbrev Text := List Char

/-! ## Characters -/

/-- `\s`. -/
def isSpace (c : Char) : Bool :=
  decide (c = ' ' ∨ c = '\t' ∨ c = '\n' ∨ c = '\r' ∨ c.toNat = 11 ∨ c.toNat = 12)

theorem isDigit_of_isSpace {c : Char} (h : isSpace c = true) : c.isDigit = false := by
  simp only [isSpace, decide_eq_true_eq] at h
  rcases h with rfl | rfl | rfl | rfl | h | h
  · decide
  · decide
  · decide
  · decide
  all_goals
    simp only [Char.isDigit, Bool.and_eq_false_iff, decide_eq_false_iff_not, ge_iff_le,
      UInt32.le_iff_toNat_le]
    left
    show ¬ _ ≤ c.toNat
    rw [h]
    decide

/-- The text does not start with a character of the class `p`. -/
def StartsOutside (p : Char → Bool) (s : Text) : Prop := ∀ c ∈ s.head?, p c = false

theorem startsOutside_nil (p : Char → Bool) : StartsOutside p [] := fun _ h => nomatch h

theorem startsOutside_cons {p : Char → Bool} {c : Char} {s : Text} :
    StartsOutside p (c :: s) ↔ p c = false := by
  simp [StartsOutside]

theorem StartsOutside.append {p : Char → Bool} {s t : Text} (hs : ∀ c ∈ s, p c = false)
    (ht : StartsOutside p t) : StartsOutside p (s ++ t) := by
  cases s with
  | nil => exact ht
  | cons c s => exact startsOutside_cons.mpr (hs c List.mem_cons_self)

theorem startsOutside_digits {ds : Text} (hds : ∀ c ∈ ds, c.isDigit = true) (hne : ds ≠ [])
    (s : Text) : StartsOutside isSpace (ds ++ s) := by
  obtain ⟨d, ds, rfl⟩ := List.exists_cons_of_ne_nil hne
  refine startsOutside_cons.mpr (Bool.eq_false_iff.mpr fun hspace => ?_)
  have hdigit := hds d List.mem_cons_self
  rw [isDigit_of_isSpace hspace] at hdigit
  exact Bool.false_ne_true hdigit

theorem dropWhile_of_startsOutside {p : Char → Bool} {s : Text} (h : StartsOutside p s) :
    s.dropWhile p = s := by
  cases s with
  | nil => rfl
  | cons c s => rw [List.dropWhile_cons_of_neg (by simp [startsOutside_cons.mp h])]

theorem takeWhile_of_startsOutside {p : Char → Bool} {s : Text} (h : StartsOutside p s) :
    s.takeWhile p = [] := by
  cases s with
  | nil => rfl
  | cons c s => rw [List.takeWhile_cons_of_neg (by simp [startsOutside_cons.mp h])]

/-! ## The pieces -/

/-- `\d+`. -/
def readDigits (s : Text) : Option (Text × Text) :=
  if s.takeWhile Char.isDigit = [] then none
  else some (s.takeWhile Char.isDigit, s.dropWhile Char.isDigit)

/-- `\d{1,3}`. -/
def readShortDigits (s : Text) : Option (Text × Text) :=
  let ds := (s.take 3).takeWhile Char.isDigit
  if ds = [] then none else some (ds, s.drop ds.length)

/-- `\s*`. -/
def readSpaces (s : Text) : Text := s.dropWhile isSpace

/-- An optional character of the class `p`. -/
def readOptional (p : Char → Bool) : Text → Bool × Text
  | [] => (false, [])
  | c :: s => if p c then (true, s) else (false, c :: s)

/-- `:`. -/
def readColon : Text → Option Text
  | ':' :: s => some s
  | _ => none

/-- `(PWM)?`. -/
def readPwmUnit : Text → Bool × Text
  | 'P' :: 'W' :: 'M' :: s => (true, s)
  | s => (false, s)

theorem readDigits_append {ds s : Text} (hds : ∀ c ∈ ds, c.isDigit = true) (hne : ds ≠ [])
    (hs : StartsOutside Char.isDigit s) : readDigits (ds ++ s) = some (ds, s) := by
  have htake : (ds ++ s).takeWhile Char.isDigit = ds := by
    rw [List.takeWhile_append_of_pos hds, takeWhile_of_startsOutside hs, List.append_nil]
  have hdrop : (ds ++ s).dropWhile Char.isDigit = s := by
    rw [List.dropWhile_append_of_pos hds, dropWhile_of_startsOutside hs]
  rw [readDigits, htake, hdrop, if_neg hne]

theorem readDigits_of_startsOutside {s : Text} (h : StartsOutside Char.isDigit s) :
    readDigits s = none := by
  rw [readDigits, takeWhile_of_startsOutside h, if_pos rfl]

theorem readShortDigits_append {ds s : Text} (hds : ∀ c ∈ ds, c.isDigit = true) (hne : ds ≠ [])
    (hlen : ds.length ≤ 3) (hs : StartsOutside Char.isDigit s) :
    readShortDigits (ds ++ s) = some (ds, s) := by
  have htake : ((ds ++ s).take 3).takeWhile Char.isDigit = ds := by
    have houtside : StartsOutside Char.isDigit (s.take (3 - ds.length)) := by
      intro c hc
      apply hs c
      cases s with
      | nil => simp at hc
      | cons d s =>
        cases hlen' : 3 - ds.length with
        | zero => simp [hlen'] at hc
        | succ n => simpa [hlen'] using hc
    rw [List.take_append, List.take_of_length_le hlen, List.takeWhile_append_of_pos hds]
    rw [takeWhile_of_startsOutside houtside, List.append_nil]
  rw [readShortDigits, htake, if_neg hne, List.drop_left]

theorem readSpaces_append {ws s : Text} (hws : ∀ c ∈ ws, isSpace c = true)
    (hs : StartsOutside isSpace s) : readSpaces (ws ++ s) = s := by
  rw [readSpaces, List.dropWhile_append_of_pos hws, dropWhile_of_startsOutside hs]

theorem readOptional_of_startsOutside {p : Char → Bool} {s : Text} (h : StartsOutside p s) :
    readOptional p s = (false, s) := by
  cases s with
  | nil => rfl
  | cons c s => rw [readOptional, if_neg (by simp [startsOutside_cons.mp h])]

theorem readPwmUnit_of_startsOutside {s : Text} (h : StartsOutside (· == 'P') s) :
    readPwmUnit s = (false, s) := by
  unfold readPwmUnit
  split
  · exact absurd (startsOutside_cons.mp h) (by simp)
  · rfl

/-! ## What is left is never longer -/

theorem readDigits_shorter {s ds rest : Text} (h : readDigits s = some (ds, rest)) :
    rest.length < s.length := by
  unfold readDigits at h
  split_ifs at h with hne
  simp only [Option.some.injEq, Prod.mk.injEq] at h
  obtain ⟨rfl, rfl⟩ := h
  have hlen := congrArg List.length (List.takeWhile_append_dropWhile (p := Char.isDigit) (l := s))
  rw [List.length_append] at hlen
  have hpos := List.length_pos_iff.mpr hne
  omega

theorem readShortDigits_le {s ds rest : Text} (h : readShortDigits s = some (ds, rest)) :
    rest.length ≤ s.length := by
  unfold readShortDigits at h
  simp only at h
  split_ifs at h
  simp only [Option.some.injEq, Prod.mk.injEq] at h
  obtain ⟨-, rfl⟩ := h
  simp

theorem readSpaces_le (s : Text) : (readSpaces s).length ≤ s.length :=
  List.length_dropWhile_le _ _

theorem readOptional_le (p : Char → Bool) (s : Text) : (readOptional p s).2.length ≤ s.length := by
  cases s with
  | nil => exact le_rfl
  | cons c s =>
    rw [readOptional]
    split_ifs
    · exact Nat.le_succ _
    · exact le_rfl

theorem readColon_le {s rest : Text} (h : readColon s = some rest) : rest.length ≤ s.length := by
  unfold readColon at h
  split at h
  · obtain rfl := Option.some.inj h
    exact Nat.le_succ _
  · cases h

theorem readPwmUnit_le (s : Text) : (readPwmUnit s).2.length ≤ s.length := by
  unfold readPwmUnit
  split
  · simp only [List.length_cons]
    omega
  · exact le_rfl

/-! ## Numbers -/

/-- `Util::from_string<uint>`, of digits. -/
def U32.fromString (ds : Text) : Option U32 :=
  if h : Nat.ofDigitChars 10 ds 0 < 4294967296 then some ⟨Nat.ofDigitChars 10 ds 0, h⟩ else none

/-- `Util::from_string<int>`, of digits. -/
def I32.fromString (ds : Text) : Option I32 :=
  if h : Nat.ofDigitChars 10 ds 0 < 2147483648 then
    some ⟨(Nat.ofDigitChars 10 ds 0 : ℕ), by omega, by omega⟩
  else none

/-- A `uint` as it is written to a stream. -/
def U32.digits (n : U32) : Text := Nat.toDigits 10 n.val

/-- An `int` as it is written to a stream. -/
def I32.digits (z : I32) : Text :=
  if z.val < 0 then '-' :: Nat.toDigits 10 z.val.natAbs else Nat.toDigits 10 z.val.natAbs

theorem isDigit_of_mem_toDigits {n : ℕ} : ∀ c ∈ Nat.toDigits 10 n, c.isDigit = true :=
  fun _ hc => Nat.isDigit_of_mem_toDigits (by decide) (by decide) hc

theorem U32.fromString_digits (n : U32) : U32.fromString n.digits = some n := by
  rw [U32.fromString, U32.digits, Nat.ofDigitChars_ten_toDigits, dif_pos n.isLt]

theorem I32.digits_of_nonneg {z : I32} (h : 0 ≤ z.val) : z.digits = Nat.toDigits 10 z.val.natAbs :=
  if_neg (not_lt.mpr h)

theorem I32.fromString_digits {z : I32} (h : 0 ≤ z.val) : I32.fromString z.digits = some z := by
  have hz := z.property
  have hval : Nat.ofDigitChars 10 z.digits 0 = z.val.natAbs := by
    rw [I32.digits_of_nonneg h, Nat.ofDigitChars_ten_toDigits]
  rw [I32.fromString, dif_pos (by omega)]
  refine congrArg some (Subtype.ext ?_)
  simp only [hval]
  omega

end Fancon
