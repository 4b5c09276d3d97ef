import Fancon.Controller.Enumeration

/-! # The number at the end of a name

`Util::postfix_num` goes back through a name with a predicate that remembers whether it has seen a
digit, and parses from where it stops. Fan ids are made of what it finds. That is the last run of
digits in the name, wherever it stands (`postfix_num_last_run`).
-/
set_option autoImplicit false
set_option maxHeartbeats 250000
set_option maxRecDepth 120000

namespace Fancon

namespace Util

/-! ## `postfix_num` -/

/-- The predicate, with `found` before and after. -/
def inPostfix (found : Bool) (c : Char) : Bool × Bool :=
  if c.isDigit then (true, true) else (!found, found)

/-- `find_if_not` over the characters from the back: how many it passes. -/
def passed : Bool → Text → ℕ
  | _, [] => 0
  | found, c :: s =>
    let r := inPostfix found c
    if r.1 then passed r.2 s + 1 else 0

/-- `from_chars` into a `uint`, which takes no sign and stops at the end of the digits. -/
def fromChars (s : Text) : Option U32 := (readDigits s).bind fun r => U32.fromString r.1

def postfixNum (s : Text) : Option U32 :=
  fromChars (s.drop (s.length - passed false s.reverse))

/-! ## The last run of digits -/

/-- The last maximal run of digits in a text. -/
structure LastRun (s run : Text) : Prop where
  digits : ∀ c ∈ run, c.isDigit = true
  ne_nil : run ≠ []
  split : ∃ before after, s = before ++ (run ++ after) ∧
    (∀ c ∈ before.getLast?, c.isDigit = false) ∧ ∀ c ∈ after, c.isDigit = false

theorem passed_nondigits {a : Text} (ha : ∀ c ∈ a, c.isDigit = false) (s : Text) :
    passed false (a ++ s) = a.length + passed false s := by
  induction a with
  | nil => rw [List.nil_append, List.length_nil, Nat.zero_add]
  | cons c a ih =>
    have hc := ha c List.mem_cons_self
    simp only [List.cons_append, passed, inPostfix, hc, List.length_cons]
    rw [if_pos (by rfl), if_neg Bool.false_ne_true,
      ih fun d hd => ha d (List.mem_cons_of_mem _ hd)]
    omega

theorem passed_digits {ds : Text} (hds : ∀ c ∈ ds, c.isDigit = true) {s : Text}
    (hs : StartsOutside Char.isDigit s) : passed true (ds ++ s) = ds.length := by
  induction ds with
  | nil =>
    cases s with
    | nil => rfl
    | cons c s => simp [passed, inPostfix, startsOutside_cons.mp hs]
  | cons c ds ih =>
    have hc := hds c List.mem_cons_self
    simp only [List.cons_append, passed, inPostfix, hc, if_true, List.length_cons]
    rw [ih fun d hd => hds d (List.mem_cons_of_mem _ hd)]

/-- The first digit from the back is passed like all that follow it. -/
theorem passed_first {ds : Text} (hds : ∀ c ∈ ds, c.isDigit = true) (hne : ds ≠ []) (s : Text) :
    passed false (ds ++ s) = passed true (ds ++ s) := by
  obtain ⟨d, ds, rfl⟩ := List.exists_cons_of_ne_nil hne
  have hd := hds d List.mem_cons_self
  simp only [List.cons_append, passed, inPostfix, hd, if_true]

theorem LastRun.passed {s run : Text} (h : LastRun s run) : ∃ before after,
    s = before ++ (run ++ after) ∧ (∀ c ∈ after, c.isDigit = false) ∧
      Util.passed false s.reverse = run.length + after.length := by
  obtain ⟨before, after, rfl, hbefore, hafter⟩ := h.split
  refine ⟨before, after, rfl, hafter, ?_⟩
  have hrun : ∀ c ∈ run.reverse, c.isDigit = true := fun c hc => h.digits c (List.mem_reverse.mp hc)
  have hout : StartsOutside Char.isDigit before.reverse := by
    intro c hc
    rw [List.head?_reverse] at hc
    exact hbefore c hc
  rw [List.reverse_append, List.reverse_append, List.append_assoc,
    passed_nondigits fun c hc => hafter c (List.mem_reverse.mp hc),
    passed_first hrun (List.reverse_ne_nil_iff.mpr h.ne_nil), passed_digits hrun hout,
    List.length_reverse, List.length_reverse, Nat.add_comm]

/-- Where there is a last run, its value is the result if it fits. -/
theorem postfixNum_of_lastRun {s run : Text} (h : LastRun s run) :
    postfixNum s = U32.fromString run := by
  obtain ⟨before, after, rfl, hafter, hpassed⟩ := h.passed
  have hout : StartsOutside Char.isDigit after := fun c hc => hafter c (List.mem_of_mem_head? hc)
  have hdrop : (before ++ (run ++ after)).drop ((before ++ (run ++ after)).length -
      (run.length + after.length)) = run ++ after := by
    rw [List.length_append, List.length_append, Nat.add_sub_cancel, List.drop_left]
  rw [postfixNum, hpassed, hdrop, fromChars, readDigits_append h.digits h.ne_nil hout]
  rfl

theorem postfixNum_of_nondigits {s : Text} (h : ∀ c ∈ s, c.isDigit = false) :
    postfixNum s = none := by
  have hpassed := passed_nondigits (a := s.reverse) (fun c hc => h c (List.mem_reverse.mp hc)) []
  rw [List.append_nil, List.length_reverse] at hpassed
  have hout : StartsOutside Char.isDigit s := fun c hc => h c (List.mem_of_mem_head? hc)
  rw [postfixNum, hpassed]
  simp only [passed, Nat.add_zero, Nat.sub_self, List.drop_zero]
  rw [fromChars, readDigits_of_startsOutside hout]
  rfl

/-- The digits at the end of a text are its last run. -/
theorem lastRun_of_digit (s : Text) {d : Char} (hd : d.isDigit = true) :
    LastRun (s ++ [d]) ((s ++ [d]).rtakeWhile Char.isDigit) := by
  refine ⟨?_, ?_, (s ++ [d]).rdropWhile Char.isDigit, [], ?_, ?_, List.forall_mem_nil _⟩
  · exact fun c hc => List.mem_rtakeWhile_imp hc
  · rw [List.rtakeWhile_concat_pos _ _ _ hd]
    simp
  · rw [List.append_nil, List.rdropWhile_append_rtakeWhile]
  · intro c hc
    have hne : (s ++ [d]).rdropWhile Char.isDigit ≠ [] := List.ne_nil_of_mem
      (List.mem_of_getLast? hc)
    have hlast := List.rdropWhile_last_not Char.isDigit (s ++ [d]) hne
    rw [List.getLast?_eq_some_getLast hne] at hc
    obtain rfl := Option.some.inj hc
    exact Bool.eq_false_iff.mpr hlast

/-- A character behind it that is no digit leaves the last run as it is. -/
theorem LastRun.concat {s run : Text} (h : LastRun s run) {d : Char} (hd : d.isDigit = false) :
    LastRun (s ++ [d]) run := by
  obtain ⟨before, after, rfl, hbefore, hafter⟩ := h.split
  refine ⟨h.digits, h.ne_nil, before, after ++ [d], ?_, hbefore, ?_⟩
  · rw [List.append_assoc, List.append_assoc]
  · intro c hc
    rcases List.mem_append.mp hc with hc | hc
    · exact hafter c hc
    · rw [List.mem_singleton.mp hc]
      exact hd

/-- A text has no digit, or a last run of them. -/
theorem nondigits_or_lastRun (s : Text) :
    (∀ c ∈ s, c.isDigit = false) ∨ ∃ run, LastRun s run := by
  induction s using List.reverseRecOn with
  | nil => exact Or.inl (List.forall_mem_nil _)
  | append_singleton s d ih =>
    by_cases hd : d.isDigit = true
    · exact Or.inr ⟨_, lastRun_of_digit s hd⟩
    · have hd' := Bool.eq_false_iff.mpr hd
      rcases ih with hnone | ⟨run, hrun⟩
      · exact Or.inl (List.forall_mem_append.mpr ⟨hnone, List.forall_mem_singleton.mpr hd'⟩)
      · exact Or.inr ⟨run, hrun.concat hd'⟩

/-- The number a run of digits stands for. -/
def runValue (run : Text) : ℕ := Nat.ofDigitChars 10 run 0

theorem fromString_eq_some {run : Text} {v : U32} :
    U32.fromString run = some v ↔ runValue run = v.val := by
  unfold U32.fromString
  split_ifs with h
  · rw [Option.some.injEq, Fin.ext_iff]
    rfl
  · exact ⟨nofun, fun heq => absurd (heq ▸ v.isLt : runValue run < 4294967296) h⟩

theorem fromString_eq_none {run : Text} :
    U32.fromString run = none ↔ 4294967296 ≤ runValue run := by
  unfold U32.fromString
  split_ifs with h
  · exact ⟨nofun, fun hle => absurd h (not_lt.mpr hle)⟩
  · exact ⟨fun _ => not_lt.mp h, fun _ => rfl⟩

/-- **`postfix_num` finds the value of the last run of digits, and nothing exactly if there is none
or its value does not fit.** -/
theorem postfix_num_last_run (s : Text) :
    (∀ v, postfixNum s = some v ↔ ∃ run, LastRun s run ∧ runValue run = v.val) ∧
    (postfixNum s = none ↔ (∀ c ∈ s, c.isDigit = false) ∨
      ∃ run, LastRun s run ∧ 4294967296 ≤ runValue run) := by
  refine ⟨fun v => ⟨fun hv => ?_, ?_⟩, fun hv => ?_, ?_⟩
  · rcases nondigits_or_lastRun s with h | ⟨run, hrun⟩
    · rw [postfixNum_of_nondigits h] at hv
      cases hv
    · rw [postfixNum_of_lastRun hrun] at hv
      exact ⟨run, hrun, fromString_eq_some.mp hv⟩
  · rintro ⟨run, hrun, hvalue⟩
    rw [postfixNum_of_lastRun hrun]
    exact fromString_eq_some.mpr hvalue
  · rcases nondigits_or_lastRun s with h | ⟨run, hrun⟩
    · exact Or.inl h
    · rw [postfixNum_of_lastRun hrun] at hv
      exact Or.inr ⟨run, hrun, fromString_eq_none.mp hv⟩
  · rintro (h | ⟨run, hrun, hle⟩)
    · exact postfixNum_of_nondigits h
    · rw [postfixNum_of_lastRun hrun]
      exact fromString_eq_none.mpr hle

example : postfixNum "/sys/class/hwmon/hwmon3/pwm12_max".toList = some 12 := by decide

/-- From the back, the first run of digits is the last one. -/
theorem LastRun.of_reverse {s run : Text} (h : LastRun s run) :
    (s.reverse.dropWhile fun c => !c.isDigit).takeWhile Char.isDigit = run.reverse := by
  obtain ⟨before, after, rfl, hbefore, hafter⟩ := h.split
  have hrun : ∀ c ∈ run.reverse, c.isDigit = true := fun c hc => h.digits c (List.mem_reverse.mp hc)
  have hskip : ∀ c ∈ after.reverse, (!c.isDigit) = true := by
    intro c hc
    rw [hafter c (List.mem_reverse.mp hc)]
    rfl
  have hstop : StartsOutside (fun c => !c.isDigit) (run.reverse ++ before.reverse) := by
    obtain ⟨d, ds, hds⟩ := List.exists_cons_of_ne_nil (List.reverse_ne_nil_iff.mpr h.ne_nil)
    rw [hds, List.cons_append, startsOutside_cons, hrun d (hds ▸ List.mem_cons_self)]
    rfl
  have hout : StartsOutside Char.isDigit before.reverse := fun c hc =>
    hbefore c (List.head?_reverse ▸ hc)
  rw [List.reverse_append, List.reverse_append, List.append_assoc,
    List.dropWhile_append_of_pos hskip, dropWhile_of_startsOutside hstop,
    List.takeWhile_append_of_pos hrun, takeWhile_of_startsOutside hout, List.append_nil]

/-- The id that the enumeration takes from a name is the number `postfix_num` finds. -/
theorem postfixNum_eq (s : Text) : Fancon.postfixNum s = postfixNum s := by
  rcases nondigits_or_lastRun s with hnone | ⟨run, hrun⟩
  · have hdrop : (s.reverse.dropWhile fun c => !c.isDigit) = [] :=
      List.dropWhile_eq_nil_iff.mpr fun c hc => by rw [hnone c (List.mem_reverse.mp hc)]; rfl
    rw [postfixNum_of_nondigits hnone, Fancon.postfixNum, hdrop]
    rfl
  · rw [postfixNum_of_lastRun hrun]
    simp only [Fancon.postfixNum, hrun.of_reverse, List.reverse_reverse, List.isEmpty_iff,
      hrun.ne_nil, if_false]

end Util

end Fancon
