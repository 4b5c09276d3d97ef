import Fancon.Fan.CurveText

/-! # Curve texts are read point by point

A user writes a curve as points joined by commas; `map_str` writes one as `temp: rpm` entries
joined by a comma and a space. Both are read back point by point. A written curve is the same
again after reading exactly when it has no negative temperature, because the minus sign is not
part of an item.
-/
set_option autoImplicit false
set_option maxHeartbeats 250000
set_option maxRecDepth 120000

namespace Fancon

/-! ## Points as a user writes them -/

inductive TempUnit
  | none
  | celsius
  | upperCelsius
  | fahrenheit
  | upperFahrenheit

def TempUnit.text : TempUnit → Text
  | .none => []
  | .celsius => ['c']
  | .upperCelsius => ['C']
  | .fahrenheit => ['f']
  | .upperFahrenheit => ['F']

def TempUnit.isFahrenheit : TempUnit → Bool
  | .fahrenheit => true
  | .upperFahrenheit => true
  | _ => false

inductive RpmUnit
  | rpm
  | percent
  | pwm
deriving DecidableEq

def RpmUnit.text : RpmUnit → Text
  | .rpm => []
  | .percent => ['%']
  | .pwm => ['P', 'W', 'M']

/-- A temperature and a speed with their units, spaces around them. -/
structure CurveItem where
  lead : Text := []
  temp : Text
  beforeTempUnit : Text := []
  tempUnit : TempUnit := .none
  beforeColon : Text := []
  beforeRpm : Text := []
  rpm : Text
  beforeRpmUnit : Text := []
  rpmUnit : RpmUnit := .rpm
  trail : Text := []
  digits : ∀ s ∈ [temp, rpm], s ≠ [] ∧ ∀ c ∈ s, c.isDigit = true
  spaces : ∀ s ∈ [lead, beforeTempUnit, beforeColon, beforeRpm, beforeRpmUnit, trail],
    ∀ c ∈ s, isSpace c = true

/-- A well-formed point: an item whose numbers are in range. -/
structure CurvePoint extends CurveItem where
  tempInRange : Nat.ofDigitChars 10 temp 0 < 2147483648
  rpmInRange : Nat.ofDigitChars 10 rpm 0 < 4294967296

namespace CurveItem

def text (p : CurveItem) : Text :=
  p.lead ++ (p.temp ++ (p.beforeTempUnit ++ (p.tempUnit.text ++ (p.beforeColon ++
    ':' :: (p.beforeRpm ++ (p.rpm ++ (p.beforeRpmUnit ++ (p.rpmUnit.text ++ p.trail))))))))

def item (p : CurveItem) : TempItem :=
  ⟨p.temp, p.tempUnit.isFahrenheit, p.rpm, decide (p.rpmUnit = .percent),
    decide (p.rpmUnit = .pwm)⟩

end CurveItem

theorem startsOutside_colon {p : Char → Bool} (h : p ':' = false) (s : Text) :
    StartsOutside p (':' :: s) :=
  startsOutside_cons.mpr h

theorem readTempUnit_text (u : TempUnit) {before after : Text}
    (hbefore : ∀ c ∈ before, isSpace c = true) (hafter : ∀ c ∈ after, isSpace c = true)
    (s : Text) :
    readTempUnit (before ++ (u.text ++ (after ++ ':' :: s))) = (u.isFahrenheit, ':' :: s) := by
  have hcolon : readSpaces (':' :: s) = ':' :: s := dropWhile_of_startsOutside
    (startsOutside_colon (by decide) s)
  have hend : readSpaces (after ++ ':' :: s) = ':' :: s :=
    readSpaces_append hafter (startsOutside_colon (by decide) s)
  have hunit : ∀ c : Char, isSpace c = false →
      readSpaces (before ++ ([c] ++ (after ++ ':' :: s))) = c :: (after ++ ':' :: s) := fun c hc =>
    readSpaces_append hbefore (startsOutside_cons.mpr hc)
  have hnotC : readOptional (fun c => c == 'c' || c == 'C') (after ++ ':' :: s) =
      (false, after ++ ':' :: s) := by
    refine readOptional_of_startsOutside (.append (fun c hc => ?_) (startsOutside_colon rfl s))
    have hspace := hafter c hc
    by_contra hne
    simp only [Bool.not_eq_false, Bool.or_eq_true, beq_iff_eq] at hne
    rcases hne with rfl | rfl <;> exact absurd hspace (by decide)
  cases u with
  | none =>
    have hskip : readSpaces (before ++ ([] ++ (after ++ ':' :: s))) = ':' :: s := by
      rw [List.nil_append, ← List.append_assoc]
      refine readSpaces_append (fun c hc => ?_) (startsOutside_colon (by decide) s)
      exact (List.mem_append.mp hc).elim (hbefore c) (hafter c)
    simp only [readTempUnit, TempUnit.text, hskip]
    exact congrArg (Prod.mk false) hcolon
  | celsius | upperCelsius =>
    simp only [readTempUnit, TempUnit.text]
    rw [hunit]
    · exact congrArg (Prod.mk false) hend
    · decide
  | fahrenheit | upperFahrenheit =>
    simp only [readTempUnit, TempUnit.text]
    rw [hunit]
    · exact congrArg (Prod.mk true) ((congrArg (fun r => readSpaces r.2) hnotC).trans hend)
    · decide

theorem readRpmUnit_text (u : RpmUnit) {before after rest : Text}
    (hbefore : ∀ c ∈ before, isSpace c = true) (hafter : ∀ c ∈ after, isSpace c = true)
    (hrest : rest = [] ∨ ∃ tail, rest = ',' :: tail) :
    ∃ left : Text, (∀ c ∈ left, isSpace c = true) ∧
      readRpmUnit (before ++ (u.text ++ (after ++ rest))) =
        (decide (u = .percent), decide (u = .pwm), left ++ rest) := by
  have houtside : ∀ q : Char → Bool, q ',' = false → StartsOutside q rest := by
    rintro q hq
    rcases hrest with rfl | ⟨tail, rfl⟩
    · exact startsOutside_nil q
    · exact startsOutside_cons.mpr hq
  cases u with
  | rpm =>
    refine ⟨[], by simp, ?_⟩
    have hskip : readSpaces (before ++ ([] ++ (after ++ rest))) = rest := by
      rw [List.nil_append, ← List.append_assoc]
      refine readSpaces_append (fun c hc => ?_) (houtside _ (by decide))
      exact (List.mem_append.mp hc).elim (hbefore c) (hafter c)
    simp only [readRpmUnit, RpmUnit.text, hskip]
    rw [readOptional_of_startsOutside (houtside _ (by decide))]
    rw [readPwmUnit_of_startsOutside (houtside _ (by decide))]
    rfl
  | percent =>
    refine ⟨after, hafter, ?_⟩
    have hskip : readSpaces (before ++ (['%'] ++ (after ++ rest))) = '%' :: (after ++ rest) :=
      readSpaces_append hbefore (startsOutside_cons.mpr (by decide))
    have hpwm : StartsOutside (· == 'P') (after ++ rest) := by
      refine .append (fun c hc => ?_) (houtside _ (by decide))
      have hspace := hafter c hc
      by_contra hne
      simp only [Bool.not_eq_false, beq_iff_eq] at hne
      exact absurd (hne ▸ hspace) (by decide)
    simp only [readRpmUnit, RpmUnit.text, hskip, readOptional]
    exact congrArg (fun r : Bool × Text => (true, r)) (readPwmUnit_of_startsOutside hpwm)
  | pwm =>
    refine ⟨after, hafter, ?_⟩
    have hskip : readSpaces (before ++ (['P', 'W', 'M'] ++ (after ++ rest))) =
        'P' :: 'W' :: 'M' :: (after ++ rest) :=
      readSpaces_append hbefore (startsOutside_cons.mpr (by decide))
    simp only [readRpmUnit, RpmUnit.text, hskip]
    rfl

namespace CurveItem

variable (p : CurveItem)

theorem isDigit_temp : ∀ c ∈ p.temp, c.isDigit = true := (p.digits _ (by simp)).2

theorem isDigit_rpm : ∀ c ∈ p.rpm, c.isDigit = true := (p.digits _ (by simp)).2

theorem startsOutside_tempUnit {before after : Text} (hbefore : ∀ c ∈ before, isSpace c = true)
    (hafter : ∀ c ∈ after, isSpace c = true) (u : TempUnit) (s : Text) :
    StartsOutside Char.isDigit (before ++ (u.text ++ (after ++ ':' :: s))) := by
  refine .append (fun c hc => isDigit_of_isSpace (hbefore c hc)) (.append (fun c hc => ?_)
    (.append (fun c hc => isDigit_of_isSpace (hafter c hc)) (startsOutside_colon rfl s)))
  cases u <;> simp only [TempUnit.text, List.mem_singleton, List.not_mem_nil] at hc <;>
    exact hc ▸ rfl

theorem startsOutside_rpmUnit {before after rest : Text}
    (hbefore : ∀ c ∈ before, isSpace c = true) (hafter : ∀ c ∈ after, isSpace c = true)
    (hrest : rest = [] ∨ ∃ tail, rest = ',' :: tail) (u : RpmUnit) :
    StartsOutside Char.isDigit (before ++ (u.text ++ (after ++ rest))) := by
  refine .append (fun c hc => isDigit_of_isSpace (hbefore c hc)) (.append (fun c hc => ?_)
    (.append (fun c hc => isDigit_of_isSpace (hafter c hc)) ?_))
  · cases u <;> simp only [RpmUnit.text, List.mem_cons, List.not_mem_nil, or_false] at hc
    · exact hc ▸ rfl
    · rcases hc with rfl | rfl | rfl <;> rfl
  · rcases hrest with rfl | ⟨tail, rfl⟩
    · exact startsOutside_nil _
    · exact startsOutside_cons.mpr rfl

theorem holds : tempReader.Holds ',' p.text p.item := by
  intro rest hrest
  have hspaces := p.spaces
  simp only [List.mem_cons, List.not_mem_nil, or_false, forall_eq_or_imp, forall_eq] at hspaces
  obtain ⟨hlead, hbefore, hcolon, hrpm, hunit, htrail⟩ := hspaces
  obtain ⟨left, hleft, hsuffix⟩ := readRpmUnit_text p.rpmUnit hunit htrail hrest
  have hskips : ∀ {s : Text}, (∀ c ∈ s, isSpace c = true) → ∀ c ∈ s, tempReader.Skips c :=
    fun h c hc => tempReader_skips (isDigit_of_isSpace (h c hc))
  refine ⟨left, hskips hleft, ?_⟩
  have htemp := readDigits_append p.isDigit_temp (p.digits _ (by simp)).1
    (startsOutside_tempUnit hbefore hcolon p.tempUnit (p.beforeRpm ++ (p.rpm ++
      (p.beforeRpmUnit ++ (p.rpmUnit.text ++ (p.trail ++ rest))))))
  have hdigits := readDigits_append p.isDigit_rpm (p.digits _ (by simp)).1
    (startsOutside_rpmUnit hunit htrail hrest p.rpmUnit)
  have hrpmStart : readSpaces (p.beforeRpm ++ (p.rpm ++ (p.beforeRpmUnit ++ (p.rpmUnit.text ++
      (p.trail ++ rest))))) = p.rpm ++ (p.beforeRpmUnit ++ (p.rpmUnit.text ++
        (p.trail ++ rest))) :=
    readSpaces_append hrpm (startsOutside_digits p.isDigit_rpm (p.digits _ (by simp)).1 _)
  have hread : readTempItem (p.temp ++ (p.beforeTempUnit ++ (p.tempUnit.text ++ (p.beforeColon ++
      ':' :: (p.beforeRpm ++ (p.rpm ++ (p.beforeRpmUnit ++ (p.rpmUnit.text ++
        (p.trail ++ rest))))))))) = some (p.item, left ++ rest) := by
    rw [readTempItem, htemp, Option.bind_some]
    simp only [readTempUnit_text p.tempUnit hbefore hcolon, readColon, Option.bind_some, hrpmStart,
      hdigits, Option.map_some, hsuffix]
    rfl
  have hsearch := (tempReader.search_skip (hskips hlead) _).trans (tempReader.search_of_read hread)
  simpa only [text, List.append_assoc, List.cons_append] using hsearch

end CurveItem

def pointsText (ps : List CurvePoint) : Text := [','].intercalate (ps.map fun p => p.text)

theorem scan_pointsText (ps : List CurvePoint) :
    tempReader.scan (pointsText ps) = ps.map fun p => p.item := by
  have hscan := tempReader.scan_intercalate [] (tempReader_skips (c := ',') rfl)
    (by simp) (ps.map fun p => (p.text, p.item)) (by
      simp only [List.mem_map]
      rintro _ ⟨p, -, rfl⟩
      exact p.holds)
  rwa [List.map_map, List.map_map] at hscan

/-! ## What is written is read back -/

theorem isSpace_beforeRpm :
    ∀ s ∈ [[], [], [], [' '], [], []], ∀ c ∈ s, isSpace c = true := by
  simp [isSpace]

/-- The item of a written curve entry. The minus sign of a negative temperature is no part of
it. -/
def writtenItem (e : Temp × Rpm) : CurveItem where
  temp := Nat.toDigits 10 e.1.val.natAbs
  beforeRpm := [' ']
  rpm := e.2.digits
  digits := by
    have hrpm : ∀ c ∈ U32.digits e.2, c.isDigit = true := isDigit_of_mem_toDigits
    have hne : U32.digits e.2 ≠ [] := Nat.toDigits_ne_nil
    simpa using ⟨isDigit_of_mem_toDigits, hne, hrpm⟩
  spaces := isSpace_beforeRpm

theorem entry_holds (e : Temp × Rpm) : tempReader.Holds ','
    (I32.digits e.1 ++ ':' :: ' ' :: U32.digits e.2) (writtenItem e).item := by
  have hholds := (writtenItem e).holds
  have htext : (writtenItem e).text =
      Nat.toDigits 10 e.1.val.natAbs ++ ':' :: ' ' :: U32.digits e.2 := by
    simp [CurveItem.text, writtenItem, TempUnit.text, RpmUnit.text]
  rw [htext] at hholds
  unfold I32.digits
  split_ifs
  · have hminus : ∀ c ∈ ['-'], tempReader.Skips c := by simpa using tempReader_skips rfl
    have hskip := Scan.Reader.Holds.skip hminus hholds
    exact hskip
  · exact hholds

theorem scan_str (m : TempToRpm) :
    tempReader.scan m.str = m.entries.map fun e => (writtenItem e).item := by
  have hscan := tempReader.scan_intercalate [' '] (tempReader_skips (c := ',') rfl)
    (by simpa using tempReader_skips rfl)
    (m.entries.map fun e => (I32.digits e.1 ++ ':' :: ' ' :: U32.digits e.2, (writtenItem e).item))
    (by
      simp only [List.mem_map]
      rintro _ ⟨e, -, rfl⟩
      exact entry_holds e)
  rwa [List.map_map, List.map_map] at hscan

/-! ## The temperatures of a curve that was read -/

theorem TempToRpm.mem_keys_insertItem {stray : Pwm → Rpm} {m : RpmToPwm} {curve : TempToRpm}
    {item : TempItem} {t : Temp} : t ∈ (TempToRpm.insertItem stray m curve item).keys →
      t ∈ curve.keys ∨ item.toTemp = some t := by
  unfold TempToRpm.insertItem
  split
  · rename_i temp rpm htemp _
    rw [SortedMap.mem_keys_insert]
    rintro (rfl | h)
    · exact Or.inr htemp
    · exact Or.inl h
  · exact Or.inl

theorem TempToRpm.mem_keys_foldl {stray : Pwm → Rpm} {m : RpmToPwm} (items : List TempItem)
    {curve : TempToRpm} {t : Temp}
    (h : t ∈ (items.foldl (TempToRpm.insertItem stray m) curve).keys) :
    t ∈ curve.keys ∨ ∃ item ∈ items, item.toTemp = some t := by
  induction items generalizing curve with
  | nil => exact Or.inl h
  | cons item items ih =>
    rcases ih h with h | ⟨i, hi, ht⟩
    · exact (TempToRpm.mem_keys_insertItem h).imp_right fun ht =>
        ⟨item, List.mem_cons_self, ht⟩
    · exact Or.inr ⟨i, List.mem_cons_of_mem _ hi, ht⟩

theorem I32.fromString_nonneg {ds : Text} {z : I32} (h : I32.fromString ds = some z) :
    0 ≤ z.val := by
  unfold I32.fromString at h
  split_ifs at h
  obtain rfl := Option.some.inj h
  exact Int.natCast_nonneg _

theorem TempToRpm.exists_item_of_mem_keys_read {stray : Pwm → Rpm} {m : RpmToPwm} {src : Text}
    {t : Temp} (h : t ∈ (TempToRpm.read stray m .empty src).keys) :
    ∃ item ∈ tempReader.scan src, item.toTemp = some t := by
  unfold TempToRpm.read at h
  split_ifs at h
  · simp [SortedMap.keys] at h
  · rcases TempToRpm.mem_keys_foldl _ h with h | h
    · simp [SortedMap.keys] at h
    · exact h

/-! ## Reading the points of a user -/

def CurvePoint.toTemp (p : CurvePoint) : Temp :=
  let temp : Temp := ⟨(Nat.ofDigitChars 10 p.temp 0 : ℕ), by omega, by
    have h := p.tempInRange
    omega⟩
  if p.tempUnit.isFahrenheit then celsiusOfFahrenheit temp else temp

theorem CurvePoint.item_toTemp (p : CurvePoint) : p.item.toTemp = some p.toTemp := by
  have htemp : I32.fromString p.item.temp = some _ := dif_pos p.tempInRange
  exact congrArg (Option.map _) htemp

theorem CurvePoint.mem_keys_insertItem (stray : Pwm → Rpm) (m : RpmToPwm) (curve : TempToRpm)
    (p : CurvePoint) (t : Temp) : t ∈ (TempToRpm.insertItem stray m curve p.item).keys ↔
      t = p.toTemp ∨ t ∈ curve.keys := by
  have hrpm : U32.fromString p.item.rpm = some ⟨Nat.ofDigitChars 10 p.rpm 0, p.rpmInRange⟩ :=
    dif_pos p.rpmInRange
  simp only [TempToRpm.insertItem, p.item_toTemp, hrpm]
  exact SortedMap.mem_keys_insert

/-- The curve of a tested fan has a point for every temperature of the text. -/
theorem TempToRpm.mem_keys_read_points {m : RpmToPwm} (hm : m.entries ≠ []) (stray : Pwm → Rpm)
    (ps : List CurvePoint) (t : Temp) :
    t ∈ (TempToRpm.read stray m .empty (pointsText ps)).keys ↔ ∃ p ∈ ps, p.toTemp = t := by
  have hfold : ∀ (qs : List CurvePoint) (curve : TempToRpm),
      t ∈ ((qs.map fun p => p.item).foldl (TempToRpm.insertItem stray m) curve).keys ↔
        t ∈ curve.keys ∨ ∃ p ∈ qs, p.toTemp = t := by
    intro qs
    induction qs with
    | nil => simp
    | cons q qs ih =>
      intro curve
      rw [List.map_cons, List.foldl_cons, ih, q.mem_keys_insertItem]
      simp only [List.mem_cons, exists_eq_or_imp, eq_comm (a := t)]
      tauto
  rw [TempToRpm.read, if_neg (by simpa using hm), scan_pointsText, hfold]
  simp [SortedMap.keys]

/-! ## Reading what was written -/

theorem TempToRpm.insertItem_written {stray : Pwm → Rpm} {m : RpmToPwm} {curve : TempToRpm}
    {e : Temp × Rpm} (h : 0 ≤ e.1.val) :
    TempToRpm.insertItem stray m curve (writtenItem e).item = curve.insert e.1 e.2 := by
  have htemp : (writtenItem e).item.toTemp = some e.1 := by
    have hdigits := I32.fromString_digits h
    rw [I32.digits_of_nonneg h] at hdigits
    exact congrArg (Option.map _) hdigits
  have hrpm : U32.fromString (writtenItem e).item.rpm = some e.2 := U32.fromString_digits e.2
  simp only [TempToRpm.insertItem, htemp, hrpm]
  rfl

theorem TempToRpm.read_str {stray : Pwm → Rpm} {m : RpmToPwm} {curve : TempToRpm}
    (hm : m.entries ≠ []) (h : ∀ e ∈ curve.entries, 0 ≤ e.1.val) :
    TempToRpm.read stray m .empty curve.str = curve := by
  have hassign : (curve.entries.map fun e => (writtenItem e).item).foldl
      (TempToRpm.insertItem stray m) .empty = .ofItems curve.entries := by
    rw [List.foldl_map]
    exact List.foldl_ext _ _ _ fun acc e he => insertItem_written (h e he)
  rw [TempToRpm.read, if_neg (by simpa using hm), scan_str, hassign]
  exact curve.ofItems_entries

/-- A curve that is read from a written one has lost the signs. -/
theorem TempToRpm.nonneg_of_mem_keys_read_str {stray : Pwm → Rpm} {m : RpmToPwm}
    {curve : TempToRpm} {t : Temp} (h : t ∈ (TempToRpm.read stray m .empty curve.str).keys) :
    0 ≤ t.val := by
  obtain ⟨item, hitem, ht⟩ := TempToRpm.exists_item_of_mem_keys_read h
  rw [scan_str, List.mem_map] at hitem
  obtain ⟨e, -, rfl⟩ := hitem
  obtain ⟨temp, htemp, rfl⟩ := Option.map_eq_some_iff.mp ht
  exact I32.fromString_nonneg htemp

theorem TempToRpm.str_ne_nil {curve : TempToRpm} {t : Temp} (h : t ∈ curve.keys) :
    curve.str ≠ [] := by
  intro hnil
  have hscan := scan_str curve
  rw [hnil] at hscan
  have hentries : curve.entries = [] := List.map_eq_nil_iff.mp hscan.symm
  simp [SortedMap.keys, hentries] at h

theorem mem_intercalate_of_not_mem {c : Char} {sep : Text} (hsep : c ∉ sep) (ts : List Text) :
    c ∈ sep.intercalate ts ↔ ∃ t ∈ ts, c ∈ t := by
  induction ts with
  | nil => simp
  | cons t ts ih =>
    cases ts with
    | nil => simp
    | cons u us =>
      rw [List.intercalate_cons_cons, List.mem_append, List.mem_append, ih]
      simp [hsep]

theorem minus_not_mem_toDigits (n : ℕ) : '-' ∉ Nat.toDigits 10 n := fun h =>
  absurd (isDigit_of_mem_toDigits '-' h) (by decide)

theorem I32.minus_mem_digits (z : I32) : '-' ∈ z.digits ↔ z.val < 0 := by
  unfold I32.digits
  split_ifs with h
  · simp [h]
  · simp [h, minus_not_mem_toDigits]

theorem TempToRpm.minus_mem_str (curve : TempToRpm) :
    '-' ∈ curve.str ↔ ∃ e ∈ curve.entries, e.1.val < 0 := by
  rw [TempToRpm.str, mapStr, mem_intercalate_of_not_mem (by decide)]
  have hentry : ∀ e : Temp × Rpm, '-' ∈ I32.digits e.1 ++ ':' :: ' ' :: U32.digits e.2 ↔
      e.1.val < 0 := by
    intro e
    have hrpm : '-' ∉ U32.digits e.2 := minus_not_mem_toDigits _
    simp [I32.minus_mem_digits, hrpm]
  simp only [List.mem_map, exists_exists_and_eq_and, hentry]

/-! ## The same for `rpm_to_pwm` -/

theorem rpmEntry_holds {e : Rpm × Pwm} (h : e.2 ≤ PWM_MAX) : rpmReader.Holds ','
    (U32.digits e.1 ++ ':' :: ' ' :: U32.digits e.2) (U32.digits e.1, U32.digits e.2) := by
  intro rest hrest
  refine ⟨[], by simp, rpmReader.search_of_read ?_⟩
  have houtside : StartsOutside Char.isDigit rest := by
    rcases hrest with rfl | ⟨tail, rfl⟩
    · exact startsOutside_nil _
    · exact startsOutside_cons.mpr rfl
  have hrpm := readDigits_append (s := ':' :: ' ' :: (U32.digits e.2 ++ rest))
    (isDigit_of_mem_toDigits (n := e.1.val)) Nat.toDigits_ne_nil (startsOutside_colon rfl _)
  have hlen : (U32.digits e.2).length ≤ 3 := by
    have hval : e.2.val ≤ 255 := h
    exact (Nat.length_toDigits_le_iff (by decide) (by decide)).mpr (by omega)
  have hpwm := readShortDigits_append (isDigit_of_mem_toDigits (n := e.2.val))
    Nat.toDigits_ne_nil hlen houtside
  have hcolon : readSpaces (':' :: ' ' :: (U32.digits e.2 ++ rest)) =
      ':' :: ' ' :: (U32.digits e.2 ++ rest) :=
    dropWhile_of_startsOutside (startsOutside_colon (by decide) _)
  have hblank : ∀ c ∈ [' '], isSpace c = true := by simp [isSpace]
  have hspace : readSpaces (' ' :: (U32.digits e.2 ++ rest)) = U32.digits e.2 ++ rest :=
    readSpaces_append hblank
      (startsOutside_digits isDigit_of_mem_toDigits Nat.toDigits_ne_nil rest)
  show readRpmItem ((U32.digits e.1 ++ ':' :: ' ' :: U32.digits e.2) ++ rest) = _
  rw [List.append_assoc, List.cons_append, List.cons_append]
  show (readDigits (Nat.toDigits 10 e.1.val ++ _)).bind _ = _
  rw [hrpm, Option.bind_some, hcolon, readColon, Option.bind_some, hspace]
  show Option.map _ (readShortDigits (Nat.toDigits 10 e.2.val ++ _)) = _
  rw [hpwm]
  rfl

theorem RpmToPwm.insertItem_digits {m : RpmToPwm} {e : Rpm × Pwm} (h : e.2 ≤ PWM_MAX) :
    m.insertItem (U32.digits e.1, U32.digits e.2) = m.insert e.1 e.2 := by
  simp only [RpmToPwm.insertItem, U32.fromString_digits, clampPwm_of_le h]

theorem RpmToPwm.read_str {m : RpmToPwm} (h : ∀ e ∈ m.entries, e.2 ≤ PWM_MAX) :
    RpmToPwm.read .empty m.str = m := by
  have hscan := rpmReader.scan_intercalate [' '] (rpmReader_skips (c := ',') rfl)
    (by simpa using rpmReader_skips rfl)
    (m.entries.map fun e => (U32.digits e.1 ++ ':' :: ' ' :: U32.digits e.2,
      (U32.digits e.1, U32.digits e.2)))
    (by
      simp only [List.mem_map]
      rintro _ ⟨e, he, rfl⟩
      exact rpmEntry_holds (h e he))
  rw [List.map_map, List.map_map] at hscan
  have hassign : (m.entries.map fun e => (U32.digits e.1, U32.digits e.2)).foldl
      RpmToPwm.insertItem .empty = .ofItems m.entries := by
    rw [List.foldl_map]
    exact List.foldl_ext _ _ _ fun acc e he => insertItem_digits (h e he)
  rw [RpmToPwm.read]
  exact (congrArg (List.foldl RpmToPwm.insertItem SortedMap.empty) hscan).trans
    (hassign.trans m.ofItems_entries)

end Fancon
