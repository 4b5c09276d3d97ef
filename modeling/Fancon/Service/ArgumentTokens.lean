import Fancon.Service.ArgumentValues

/-! # The command line, token by token

The loop of `read_args` skips over the values that it takes. As a token that names an option is
never taken for a value, what it leaves can be said without the loop: the values of an option are
the tokens that name none and stand right behind one that names it, and the last one counts
(`read_args_reads`).
-/
set_option autoImplicit false
set_option maxHeartbeats 250000
set_option maxRecDepth 120000

namespace Fancon

variable {emptyGroup : Bool} {a b : ArgName} {args : Args} {s v : Text} {rest tokens : List Text}

/-- The option that a token names. -/
def names (emptyGroup : Bool) (s : Text) : Option ArgName := (rmatch emptyGroup s).2

/-- The values that the tokens give an option. -/
def given (emptyGroup : Bool) (a : ArgName) : List Text → List Text
  | s :: v :: rest =>
    if names emptyGroup s = some a ∧ a.potentialValue = true ∧ names emptyGroup v = none then
      (rmatch emptyGroup v).1 :: given emptyGroup a (v :: rest)
    else given emptyGroup a (v :: rest)
  | _ => []

theorem given_cons_of_not (h : names emptyGroup s = some a → a.potentialValue = false) :
    given emptyGroup a (s :: rest) = given emptyGroup a rest := by
  cases rest with
  | nil => rfl
  | cons v rest =>
    rw [given, if_neg]
    rintro ⟨hs, hvalue, -⟩
    rw [h hs] at hvalue
    cases hvalue

theorem given_cons_of_named (h : names emptyGroup v ≠ none) :
    given emptyGroup a (s :: v :: rest) = given emptyGroup a (v :: rest) := by
  rw [given, if_neg]
  rintro ⟨-, -, hv⟩
  exact h hv

/-- A token that is taken for a value gives none itself. -/
theorem given_cons_value (hs : names emptyGroup s = some b) (hb : b.potentialValue = true)
    (hv : names emptyGroup v = none) : given emptyGroup a (s :: v :: rest) =
      if a = b then (rmatch emptyGroup v).1 :: given emptyGroup a rest
      else given emptyGroup a rest := by
  have hrest : given emptyGroup a (v :: rest) = given emptyGroup a rest :=
    given_cons_of_not fun h => by cases hv.symm.trans h
  rw [given, hrest]
  by_cases hab : a = b
  · rw [if_pos hab, if_pos ⟨by rw [hs, hab], hab ▸ hb, hv⟩]
  · rw [if_neg hab, if_neg]
    rintro ⟨h, -⟩
    exact hab (Option.some.inj (h.symm.trans hs))

/-! ## The values -/

theorem readLoop_given (tokens : List Text) (args : Args) (a : ArgName) :
    (readLoop emptyGroup tokens args a).value =
      (given emptyGroup a tokens).getLastD (args a).value := by
  fun_induction readLoop emptyGroup tokens args with
  | case1 args => rfl
  | case2 s rest args hs ih =>
    rw [ih, given_cons_of_not fun h => by cases hs.symm.trans h]
  | case3 s args b hs hvalue =>
    rw [Args.value_checkNeedsValue, Args.value_trigger]
    rfl
  | case4 s args b hs hvalue v rest hv ih =>
    rw [ih, given_cons_value hs hvalue hv]
    by_cases hab : a = b
    · rw [if_pos hab, hab, Args.value_setValue_self, List.getLastD_cons]
    · rw [if_neg hab, Args.value_setValue_of_ne _ _ hab, Args.value_trigger]
  | case5 s args b hs hvalue v rest d hv ih =>
    have hnamed : names emptyGroup v ≠ none := fun h => by cases hv.symm.trans h
    rw [ih, given_cons_of_named hnamed, Args.value_checkNeedsValue, Args.value_trigger]
  | case6 s rest args b hs hvalue ih =>
    rw [ih, Args.value_trigger, given_cons_of_not]
    intro h
    obtain rfl := Option.some.inj (hs.symm.trans h)
    exact Bool.eq_false_iff.mpr hvalue

/-! ## The options -/

theorem trigger_of_ne (h : a ≠ b) (args : Args) : args.trigger b a = args a :=
  Function.update_of_ne h ..

theorem setValue_of_ne (h : a ≠ b) (args : Args) (value : Text) :
    args.setValue b value a = args a :=
  Function.update_of_ne h ..

theorem checkNeedsValue_of_ne (h : a ≠ b) (args : Args) : args.checkNeedsValue b a = args a := by
  unfold Args.checkNeedsValue
  split_ifs
  · exact Function.update_of_ne h ..
  · rfl

theorem triggered_trigger (args : Args) (a : ArgName) : (args.trigger a a).triggered = true := by
  rw [Args.trigger, Function.update_self]

/-- An option that needs no value, or has one, stays triggered. -/
theorem triggered_checkNeedsValue (h : a.needsValue = false ∨ (args a).value ≠ []) :
    (args.checkNeedsValue a a).triggered = (args a).triggered := by
  rw [Args.checkNeedsValue, if_neg]
  rw [Bool.and_eq_true, List.isEmpty_iff]
  rintro ⟨hneeds, hempty⟩
  rcases h with h | h
  · cases h.symm.trans hneeds
  · exact h hempty

theorem readLoop_unnamed (h : ∀ s ∈ tokens, names emptyGroup s ≠ some a) (args : Args) :
    readLoop emptyGroup tokens args a = args a := by
  have hne : ∀ {s b}, s ∈ tokens → (rmatch emptyGroup s).2 = some b → a ≠ b := by
    rintro s b hs hb rfl
    exact h s hs hb
  fun_induction readLoop emptyGroup tokens args with
  | case1 args => rfl
  | case2 s rest args hs ih =>
    exact ih (fun t ht => h t (List.mem_cons_of_mem _ ht)) fun ht => hne (List.mem_cons_of_mem _ ht)
  | case3 s args b hs hvalue =>
    have hab := hne List.mem_cons_self hs
    rw [checkNeedsValue_of_ne hab, trigger_of_ne hab]
  | case4 s args b hs hvalue v rest hv ih =>
    have hab := hne List.mem_cons_self hs
    have hlater : ∀ t ∈ rest, t ∈ s :: v :: rest := fun t ht =>
      List.mem_cons_of_mem _ (List.mem_cons_of_mem _ ht)
    rw [ih (fun t ht => h t (hlater t ht)) fun ht => hne (hlater _ ht), setValue_of_ne hab,
      trigger_of_ne hab]
  | case5 s args b hs hvalue v rest d hv ih =>
    have hab := hne List.mem_cons_self hs
    rw [ih (fun t ht => h t (List.mem_cons_of_mem _ ht)) fun ht => hne (List.mem_cons_of_mem _ ht),
      checkNeedsValue_of_ne hab, trigger_of_ne hab]
  | case6 s rest args b hs hvalue ih =>
    have hab := hne List.mem_cons_self hs
    rw [ih (fun t ht => h t (List.mem_cons_of_mem _ ht)) fun ht => hne (List.mem_cons_of_mem _ ht),
      trigger_of_ne hab]

/-- An option that is or will be triggered ends so, if it needs no value or ends with one. -/
theorem readLoop_triggered
    (hvalue : a.needsValue = false ∨ (readLoop emptyGroup tokens args a).value ≠ [])
    (h : (args a).triggered = true ∨ ∃ s ∈ tokens, names emptyGroup s = some a) :
    (readLoop emptyGroup tokens args a).triggered = true := by
  fun_induction readLoop emptyGroup tokens args with
  | case1 args =>
    refine h.resolve_right ?_
    rintro ⟨_, hs, _⟩
    cases hs
  | case2 s rest args hs ih =>
    refine ih hvalue (h.imp id ?_)
    rintro ⟨t, ht, hta⟩
    rcases List.mem_cons.mp ht with rfl | ht
    · cases hs.symm.trans hta
    · exact ⟨t, ht, hta⟩
  | case3 s args b hs hpotential =>
    by_cases hab : a = b
    · subst hab
      rw [Args.value_checkNeedsValue] at hvalue
      rw [triggered_checkNeedsValue hvalue, triggered_trigger]
    · rw [checkNeedsValue_of_ne hab, trigger_of_ne hab]
      refine h.resolve_right ?_
      rintro ⟨t, ht, hta⟩
      obtain rfl := List.mem_singleton.mp ht
      exact hab (Option.some.inj (hta.symm.trans hs))
  | case4 s args b hs hpotential v rest hv ih =>
    apply ih hvalue
    by_cases hab : a = b
    · subst hab
      left
      rw [Args.setValue, Function.update_self]
      exact triggered_trigger args a
    · rw [setValue_of_ne hab, trigger_of_ne hab]
      refine h.imp id ?_
      rintro ⟨t, ht, hta⟩
      rcases List.mem_cons.mp ht with rfl | ht
      · exact absurd (Option.some.inj (hta.symm.trans hs)) hab
      rcases List.mem_cons.mp ht with rfl | ht
      · cases hv.symm.trans hta
      · exact ⟨t, ht, hta⟩
  | case5 s args b hs hpotential v rest d hv ih =>
    apply ih hvalue
    by_cases hab : a = b
    · subst hab
      by_cases hlater : ∃ t ∈ v :: rest, names emptyGroup t = some a
      · exact Or.inr hlater
      · -- the value does not change any more
        have hnot : ∀ t ∈ v :: rest, names emptyGroup t ≠ some a := fun t ht hta =>
          hlater ⟨t, ht, hta⟩
        rw [readLoop_unnamed hnot, Args.value_checkNeedsValue] at hvalue
        left
        rw [triggered_checkNeedsValue hvalue, triggered_trigger]
    · rw [checkNeedsValue_of_ne hab, trigger_of_ne hab]
      refine h.imp id ?_
      rintro ⟨t, ht, hta⟩
      rcases List.mem_cons.mp ht with rfl | ht
      · exact absurd (Option.some.inj (hta.symm.trans hs)) hab
      · exact ⟨t, ht, hta⟩
  | case6 s rest args b hs hpotential ih =>
    apply ih hvalue
    by_cases hab : a = b
    · subst hab
      exact Or.inl (triggered_trigger args a)
    · rw [trigger_of_ne hab]
      refine h.imp id ?_
      rintro ⟨t, ht, hta⟩
      rcases List.mem_cons.mp ht with rfl | ht
      · exact absurd (Option.some.inj (hta.symm.trans hs)) hab
      · exact ⟨t, ht, hta⟩

/-- **Whatever the arguments, the value of an option is the last token that names none right behind
one that names it, or its default; an option that is named is triggered unless it needs a value and
has none, and one that is not named is left alone.** -/
theorem read_args_reads (emptyGroup : Bool) (argv : List Text) (a : ArgName) :
    (readArgs emptyGroup argv a).value =
      (given emptyGroup a (argv.map lower)).getLastD (Args.initial a).value ∧
    ((∃ s ∈ argv.map lower, names emptyGroup s = some a) →
      (readArgs emptyGroup argv a).triggered = false →
        a.needsValue = true ∧ (readArgs emptyGroup argv a).value = []) ∧
    ((∀ s ∈ argv.map lower, names emptyGroup s ≠ some a) →
      readArgs emptyGroup argv a = Args.initial a) := by
  refine ⟨readLoop_given _ _ a, fun hnamed huntriggered => ?_, fun h => readLoop_unnamed h _⟩
  by_contra hnot
  have hvalue : a.needsValue = false ∨ (readArgs emptyGroup argv a).value ≠ [] := by
    by_cases hneeds : a.needsValue = true
    · exact Or.inr fun hempty => hnot ⟨hneeds, hempty⟩
    · exact Or.inl (Bool.eq_false_iff.mpr hneeds)
  have htriggered : (readArgs emptyGroup argv a).triggered = true :=
    readLoop_triggered hvalue (Or.inr hnamed)
  cases huntriggered.symm.trans htriggered

example : given true .enable ["-e".toList, "rear".toList, "status".toList, "rear".toList] =
    ["rear".toList] := by decide +kernel

end Fancon
