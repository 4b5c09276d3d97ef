import Fancon.Fan.Text
import Fancon.Fan.Curve

/-! # Curves as text

`Fan::temp_to_rpm_from` and `Fan::rpm_to_pwm_from` scan a text for items, `Util::map_str` writes
one. A search behind an item is given the end of that item as the end of its range, and it starts
behind it, so nothing stops it at the end of the text. `RpmToPwm.read?` and `TempToRpm.read?` have
no result where a search runs off the text; `RpmToPwm.read` and `TempToRpm.read` are what is read
where each search reaches to the end of the text.
-/
set_option autoImplicit false
set_option maxHeartbeats 250000
set_option maxRecDepth 120000

namespace Fancon

/-! ## The items -/

/-- The groups of `(\d+)\s*([fF])?[cC]?\s*[:]\s*(\d+)\s*(%)?(PWM)?`. -/
structure TempItem where
  temp : Text
  isFahrenheit : Bool
  rpm : Text
  isPercent : Bool
  isPwm : Bool
deriving DecidableEq

/-- `\s*([fF])?[cC]?\s*`. -/
def readTempUnit (s : Text) : Bool × Text :=
  let r := readOptional (fun c => c == 'f' || c == 'F') (readSpaces s)
  (r.1, readSpaces (readOptional (fun c => c == 'c' || c == 'C') r.2).2)

/-- `\s*(%)?(PWM)?`. -/
def readRpmUnit (s : Text) : Bool × Bool × Text :=
  let r := readOptional (· == '%') (readSpaces s)
  (r.1, readPwmUnit r.2)

def readTempItem (s : Text) : Option (TempItem × Text) :=
  (readDigits s).bind fun temp =>
  let unit := readTempUnit temp.2
  (readColon unit.2).bind fun s =>
  (readDigits (readSpaces s)).map fun rpm =>
  let suffix := readRpmUnit rpm.2
  (⟨temp.1, unit.1, rpm.1, suffix.1, suffix.2.1⟩, suffix.2.2)

/-- The groups of `(\d+)\s*:\s*(\d{1,3})`. -/
def readRpmItem (s : Text) : Option ((Text × Text) × Text) :=
  (readDigits s).bind fun rpm =>
  (readColon (readSpaces rpm.2)).bind fun s =>
  (readShortDigits (readSpaces s)).map fun pwm =>
  ((rpm.1, pwm.1), pwm.2)

theorem readTempUnit_le (s : Text) : (readTempUnit s).2.length ≤ s.length :=
  (readSpaces_le _).trans <| (readOptional_le _ _).trans <|
    (readOptional_le _ _).trans (readSpaces_le s)

theorem readRpmUnit_le (s : Text) : (readRpmUnit s).2.2.length ≤ s.length :=
  (readPwmUnit_le _).trans <| (readOptional_le _ _).trans (readSpaces_le s)

theorem readTempItem_shorter {s : Text} {a : TempItem} {rest : Text}
    (h : readTempItem s = some (a, rest)) : rest.length < s.length := by
  obtain ⟨⟨temp, s₁⟩, htemp, h⟩ := Option.bind_eq_some_iff.mp h
  obtain ⟨s₂, hcolon, h⟩ := Option.bind_eq_some_iff.mp h
  obtain ⟨⟨rpm, s₃⟩, hrpm, h⟩ := Option.map_eq_some_iff.mp h
  obtain ⟨-, rfl⟩ := Prod.ext_iff.mp h
  have h₁ := readDigits_shorter htemp
  have h₂ := (readColon_le hcolon).trans (readTempUnit_le s₁)
  have h₃ := (readDigits_shorter hrpm).trans_le (readSpaces_le s₂)
  exact (readRpmUnit_le s₃).trans_lt (h₃.trans_le (h₂.trans h₁.le))

theorem readRpmItem_shorter {s : Text} {a : Text × Text} {rest : Text}
    (h : readRpmItem s = some (a, rest)) : rest.length < s.length := by
  obtain ⟨⟨rpm, s₁⟩, hrpm, h⟩ := Option.bind_eq_some_iff.mp h
  obtain ⟨s₂, hcolon, h⟩ := Option.bind_eq_some_iff.mp h
  obtain ⟨⟨pwm, s₃⟩, hpwm, h⟩ := Option.map_eq_some_iff.mp h
  obtain ⟨-, rfl⟩ := Prod.ext_iff.mp h
  have h₁ := readDigits_shorter hrpm
  have h₂ := (readColon_le hcolon).trans (readSpaces_le s₁)
  have h₃ := (readShortDigits_le hpwm).trans (readSpaces_le s₂)
  exact h₃.trans_lt (h₂.trans_lt h₁)

def tempReader : Scan.Reader Char TempItem := ⟨readTempItem, readTempItem_shorter⟩

def rpmReader : Scan.Reader Char (Text × Text) := ⟨readRpmItem, readRpmItem_shorter⟩

theorem tempReader_skips {c : Char} (h : c.isDigit = false) : tempReader.Skips c := fun s => by
  show readTempItem (c :: s) = none
  rw [readTempItem, readDigits_of_startsOutside (startsOutside_cons.mpr h)]
  rfl

theorem rpmReader_skips {c : Char} (h : c.isDigit = false) : rpmReader.Skips c := fun s => by
  show readRpmItem (c :: s) = none
  rw [readRpmItem, readDigits_of_startsOutside (startsOutside_cons.mpr h)]
  rfl

/-! ## `rpm_to_pwm_from` -/

/-- One turn of the loop; an item whose numbers are out of range is only logged. -/
def RpmToPwm.insertItem (m : RpmToPwm) (item : Text × Text) : RpmToPwm :=
  match U32.fromString item.1, U32.fromString item.2 with
  | some rpm, some pwm => m.insert rpm (clampPwm pwm)
  | _, _ => m

def RpmToPwm.read (m : RpmToPwm) (src : Text) : RpmToPwm :=
  (rpmReader.scan src).foldl RpmToPwm.insertItem m

/-- `rpm_to_pwm_from`, unless a search runs off the text. -/
def RpmToPwm.read? (m : RpmToPwm) (src : Text) : Option RpmToPwm :=
  (rpmReader.scan? src).map fun items => items.foldl RpmToPwm.insertItem m

/-! ## `temp_to_rpm_from` -/

/-- The minimum running RPM and the maximum one. -/
def RpmToPwm.range (m : RpmToPwm) : Rpm × Rpm :=
  let minRunning :=
    match m.entries with
    | first :: second :: _ => if first.1 = 0 then second.1 else first.1
    | [first] => first.1
    | [] => 0
  (minRunning, (m.entries.getLast?.map Prod.fst).getD 0)

/-- `Fan::percent_to_rpm`, of a fan with a non-empty `rpm_to_pwm`. -/
def percentToRpm (m : RpmToPwm) (percent : Percent) : Rpm :=
  if percent ≤ 0 then 0
  else
    let percent := if 100 < percent then 100 else percent
    let range := m.range.2 - m.range.1
    if percent = 1 then m.range.1 else percent / 100 * range + m.range.1

/-- The loop of `pwm_to_rpm`. `last` is `prev(it)`, which there is none of before the first entry;
a result that is read from there is undefined. -/
def pwmToRpmLoop (pwm : Pwm) (begin : Rpm × Pwm) :
    Option (Rpm × Pwm) → List (Rpm × Pwm) → Option Rpm
  | last, [] => last.map Prod.fst
  | last, it :: rest =>
    if it.2 = pwm then some it.1
    else if pwm < it.2 then
      last.map fun last => if last = begin ∨ it.2 - pwm < pwm - last.2 then it.1 else last.1
    else pwmToRpmLoop pwm begin (some it) rest

/-- `Fan::pwm_to_rpm`, of a fan with a non-empty `rpm_to_pwm`. -/
def pwmToRpm (m : RpmToPwm) (pwm : Pwm) : Option Rpm :=
  m.entries.head?.bind fun begin => pwmToRpmLoop (clampPwm pwm) begin none m.entries

/-- `(5.0 / 9.0) * (temp - 32.0)`, kept as `int`. -/
def celsiusOfFahrenheit (temp : Temp) : Temp :=
  ⟨(5 * (temp.val - 32)).tdiv 9, by
    have h := temp.property
    have hsign : (9 : ℤ).sign = 1 := rfl
    rw [Int.tdiv_eq_ediv, hsign]
    split_ifs <;> constructor <;> omega⟩

/-- The RPM of an item: as written, or converted from a percentage or a PWM. `stray` stands for what
an undefined conversion reads. -/
def TempItem.toRpm (stray : Pwm → Rpm) (m : RpmToPwm) (item : TempItem) (rpm : Rpm) : Rpm :=
  if item.isPercent then percentToRpm m rpm
  else if item.isPwm then (pwmToRpm m rpm).getD (stray rpm)
  else rpm

def TempItem.toTemp (item : TempItem) : Option Temp :=
  (I32.fromString item.temp).map fun temp =>
    if item.isFahrenheit then celsiusOfFahrenheit temp else temp

/-- One turn of the loop; an item whose numbers are out of range is only logged. -/
def TempToRpm.insertItem (stray : Pwm → Rpm) (m : RpmToPwm) (curve : TempToRpm) (item : TempItem) :
    TempToRpm :=
  match item.toTemp, U32.fromString item.rpm with
  | some temp, some rpm => curve.insert temp (item.toRpm stray m rpm)
  | _, _ => curve

def TempToRpm.read (stray : Pwm → Rpm) (m : RpmToPwm) (curve : TempToRpm) (src : Text) :
    TempToRpm :=
  if m.entries.isEmpty then curve
  else (tempReader.scan src).foldl (TempToRpm.insertItem stray m) curve

/-- `temp_to_rpm_from`, unless a search runs off the text. -/
def TempToRpm.read? (stray : Pwm → Rpm) (m : RpmToPwm) (curve : TempToRpm) (src : Text) :
    Option TempToRpm :=
  if m.entries.isEmpty then some curve
  else (tempReader.scan? src).map fun items => items.foldl (TempToRpm.insertItem stray m) curve

/-! ## `map_str` -/

def mapStr {K V : Type} (key : K → Text) (val : V → Text) (entries : List (K × V)) : Text :=
  [',', ' '].intercalate (entries.map fun e => key e.1 ++ ':' :: ' ' :: val e.2)

theorem mapStr_ne_nil {K V : Type} (key : K → Text) (val : V → Text) {entries : List (K × V)}
    (h : entries ≠ []) : mapStr key val entries ≠ [] := by
  cases entries with
  | nil => exact absurd rfl h
  | cons e es => cases es <;> simp [mapStr, List.intercalate]

def RpmToPwm.str (m : RpmToPwm) : Text := mapStr U32.digits U32.digits m.entries

def TempToRpm.str (m : TempToRpm) : Text := mapStr I32.digits U32.digits m.entries

end Fancon
