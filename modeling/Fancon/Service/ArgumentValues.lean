import Fancon.Service.Arguments

/-! # How a value on the command line arrives

An option with a value takes the token behind it. The token has been written in lower case by
then, and one with a space inside does not match as a whole, so that an empty text is stored. A
value arrives as it was typed exactly if it has neither capitals nor inner spaces
(`value_arrives_iff`).
-/
set_option autoImplicit false
set_option maxHeartbeats 250000
set_option maxRecDepth 120000

namespace Fancon

/-! ## Lower case -/

theorem isAlpha_of_isSpace {c : Char} (h : isSpace c = true) : c.isAlpha = false := by
  simp only [isSpace, decide_eq_true_eq] at h
  rcases h with rfl | rfl | rfl | rfl | h | h
  · decide
  · decide
  · decide
  · decide
  all_goals
    have hval : c.val.toNat = c.toNat := rfl
    simp only [Char.isAlpha, Char.isUpper, Char.isLower, Bool.or_eq_false_iff,
      Bool.and_eq_false_iff, decide_eq_false_iff_not, ge_iff_le, UInt32.le_iff_toNat_le, hval, h]
    decide

/-- A character that stands for no letter is none of the class `p` in lower case either. -/
theorem toLower_class {p : Char → Bool} (hp : ∀ c, p c = true → c.isAlpha = false) (c : Char) :
    p c.toLower = p c := by
  by_cases hupper : c.isUpper = true
  · have halpha : c.isAlpha = true := by rw [Char.isAlpha, hupper, Bool.true_or]
    have hlower : c.toLower.isAlpha = true := by rw [Char.isAlpha_toLower_eq_isAlpha, halpha]
    have hnot : ∀ d : Char, d.isAlpha = true → p d = false := by
      intro d hd
      refine Bool.eq_false_iff.mpr fun h => ?_
      rw [hp d h] at hd
      exact Bool.false_ne_true hd
    rw [hnot _ hlower, hnot _ halpha]
  · rw [Char.toLower_eq_of_not_isUpper hupper]

theorem isSpace_toLower (c : Char) : isSpace c.toLower = isSpace c :=
  toLower_class (fun _ => isAlpha_of_isSpace) c

theorem isAlpha_of_isLead {c : Char} (h : isLead c = true) : c.isAlpha = false := by
  rcases Bool.or_eq_true_iff.mp h with h | h
  · exact isAlpha_of_isSpace h
  · rw [beq_iff_eq.mp h]
    decide

theorem isLead_toLower (c : Char) : isLead c.toLower = isLead c :=
  toLower_class (fun _ => isAlpha_of_isLead) c

def NoCapitals (s : Text) : Prop := ∀ c ∈ s, c.isUpper = false

instance (s : Text) : Decidable (NoCapitals s) :=
  List.decidableBAll (fun c : Char => c.isUpper = false) s

theorem noCapitals_lower (s : Text) : NoCapitals (lower s) := by
  intro c hc
  obtain ⟨d, -, rfl⟩ := List.mem_map.mp hc
  exact Char.isUpper_toLower_eq_false d

theorem lower_of_noCapitals {s : Text} (h : NoCapitals s) : lower s = s := by
  calc lower s = s.map id := List.map_congr_left fun c hc =>
        Char.toLower_eq_of_not_isUpper (Bool.eq_false_iff.mp (h c hc))
    _ = s := List.map_id s

/-! ## Without leading dashes and surrounding spaces -/

/-- A text less its leading dashes and spaces and its trailing spaces. -/
def strip (s : Text) : Text := (s.dropWhile isLead).rdropWhile isSpace

def NoSpaces (s : Text) : Prop := ∀ c ∈ s, isSpace c = false

instance (s : Text) : Decidable (NoSpaces s) :=
  List.decidableBAll (fun c : Char => isSpace c = false) s

theorem rdropWhile_append_of_all {α : Type} {p : α → Bool} {t : List α} (h : ∀ c ∈ t, p c = true)
    (g : List α) : (g ++ t).rdropWhile p = g.rdropWhile p := by
  rw [List.rdropWhile, List.reverse_append, List.dropWhile_append_of_pos, List.rdropWhile]
  exact fun c hc => h c (List.mem_reverse.mp hc)

/-- What stands in front of the trailing spaces has none in it exactly if behind the first word
there are only spaces. -/
theorem word_iff (l : Text) : (l.dropWhile fun c => !isSpace c).all isSpace = true ↔
    NoSpaces (l.rdropWhile isSpace) := by
  constructor
  · intro h c hc
    have hsplit : l.rdropWhile isSpace = (l.takeWhile fun c => !isSpace c).rdropWhile isSpace := by
      conv_lhs => rw [← List.takeWhile_append_dropWhile (p := fun c => !isSpace c) (l := l)]
      exact rdropWhile_append_of_all (List.all_eq_true.mp h) _
    rw [hsplit] at hc
    have hmem := (List.rdropWhile_prefix isSpace _).subset hc
    simpa using List.mem_takeWhile_imp hmem
  · intro h
    have hsplit : l.rdropWhile isSpace ++ l.rtakeWhile isSpace = l :=
      List.rdropWhile_append_rtakeWhile
    have hdrop : l.dropWhile (fun c => !isSpace c) =
        (l.rtakeWhile isSpace).dropWhile fun c => !isSpace c := by
      conv_lhs => rw [← hsplit]
      exact List.dropWhile_append_of_pos fun c hc => by rw [h c hc]; rfl
    rw [hdrop, List.all_eq_true]
    exact fun c hc => List.mem_rtakeWhile_imp ((List.dropWhile_sublist _).subset hc)

/-- If it has no spaces in it, it is the first word. -/
theorem word_eq {l : Text} (h : NoSpaces (l.rdropWhile isSpace)) :
    (l.takeWhile fun c => !isSpace c) = l.rdropWhile isSpace := by
  have hsplit : l.rdropWhile isSpace ++ l.rtakeWhile isSpace = l :=
    List.rdropWhile_append_rtakeWhile
  have htrail : (l.rtakeWhile isSpace).takeWhile (fun c => !isSpace c) = [] := by
    refine takeWhile_of_startsOutside fun c hc => ?_
    rw [List.mem_rtakeWhile_imp (List.mem_of_mem_head? hc)]
    rfl
  conv_lhs => rw [← hsplit]
  rw [List.takeWhile_append_of_pos fun c hc => by rw [h c hc]; rfl, htrail, List.append_nil]

theorem noCapitals_strip {s : Text} (h : NoCapitals s) : NoCapitals (strip s) := by
  intro c hc
  apply h
  exact (List.dropWhile_sublist _).subset ((List.rdropWhile_prefix isSpace _).subset hc)

theorem strip_lower (s : Text) : strip (lower s) = lower (strip s) := by
  have hlead : isLead ∘ Char.toLower = isLead := funext isLead_toLower
  have hspace : isSpace ∘ Char.toLower = isSpace := funext isSpace_toLower
  simp only [strip, lower, List.rdropWhile, List.dropWhile_map, ← List.map_reverse, hlead, hspace]

theorem strip_strip {s : Text} (h : NoSpaces (strip s)) : strip (strip s) = strip s := by
  have hlead : (strip s).dropWhile isLead = strip s := by
    refine dropWhile_of_startsOutside fun c hc => ?_
    have hprefix : strip s <+: s.dropWhile isLead := List.rdropWhile_prefix isSpace _
    have hhead : (s.dropWhile isLead).head? = some c := by
      obtain ⟨trail, htrail⟩ := hprefix
      rw [← htrail, List.head?_append, hc]
      rfl
    have hnot := List.head?_dropWhile_not isLead s
    rw [hhead] at hnot
    simpa using hnot
  have hspace : (strip s).rdropWhile isSpace = strip s :=
    List.rdropWhile_eq_self_iff.mpr fun hne => by
      rw [h _ (List.getLast_mem hne)]
      exact Bool.false_ne_true
  rw [strip, hlead, hspace]

theorem noSpaces_lower_iff {s : Text} : NoSpaces (lower s) ↔ NoSpaces s := by
  simp only [NoSpaces, lower, List.forall_mem_map, isSpace_toLower]

/-! ## What a token stands for -/

section Match

variable {emptyGroup : Bool} {s : Text}

theorem rmatch_of_spaces (h : ¬ NoSpaces (strip s)) : rmatch emptyGroup s = ([], none) := by
  rw [rmatch, if_neg (mt (word_iff _).mp h)]

theorem rmatch_of_word (h : NoSpaces (strip s)) : rmatch emptyGroup s =
    if strip s = [] ∧ emptyGroup = false then (s, none)
    else ((ArgName.shortToKey (strip s)).getD (strip s), ArgName.lookup (strip s)) := by
  rw [rmatch, if_pos ((word_iff _).mpr h), word_eq h]
  rfl

theorem rmatch_snd (h : NoSpaces (strip s)) :
    (rmatch emptyGroup s).2 = ArgName.lookup (strip s) := by
  rw [rmatch_of_word h]
  split_ifs with hempty
  · rw [hempty.1]
    exact (by decide : none = ArgName.lookup [])
  · rfl

/-- A token that stands for a value stands for what it is stripped. -/
theorem strip_rmatch (h : NoSpaces (strip s)) (hs : ArgName.lookup (strip s) = none) :
    strip (rmatch emptyGroup s).1 = strip s := by
  rw [rmatch_of_word h]
  split_ifs
  · rfl
  · rw [ArgName.shortToKey_of_lookup hs]
    exact strip_strip h

theorem noCapitals_rmatch (h : NoCapitals s) (hs : (rmatch emptyGroup s).2 = none) :
    NoCapitals (rmatch emptyGroup s).1 := by
  by_cases hspaces : NoSpaces (strip s)
  · rw [rmatch_snd hspaces] at hs
    rw [rmatch_of_word hspaces]
    split_ifs
    · exact h
    · rw [ArgName.shortToKey_of_lookup hs]
      exact noCapitals_strip h
  · rw [rmatch_of_spaces hspaces]
    exact nofun

end Match

/-! ## The loop -/

section Loop

variable {emptyGroup : Bool}

/-- What the values have before the loop, and what is stored has for every token that is stored,
they have after the loop. -/
theorem readLoop_keeps {P : ArgName → Text → Prop} {tokens : List Text} {args : Args}
    (hset : ∀ s ∈ tokens, ∀ v ∈ tokens, ∀ a, (rmatch emptyGroup s).2 = some a →
      (rmatch emptyGroup v).2 = none → P a (rmatch emptyGroup v).1)
    (hargs : ∀ a, P a (args a).value) (a : ArgName) :
    P a (readLoop emptyGroup tokens args a).value := by
  fun_induction readLoop emptyGroup tokens args with
  | case1 args => exact hargs a
  | case2 s rest args hs ih =>
    exact ih (fun t ht v hv => hset t (List.mem_cons_of_mem _ ht) v (List.mem_cons_of_mem _ hv))
      hargs
  | case3 s args b hs hvalue =>
    rw [Args.value_checkNeedsValue, Args.value_trigger]
    exact hargs a
  | case4 s args b hs hvalue v rest hv ih =>
    have hlater : ∀ t ∈ rest, t ∈ s :: v :: rest := fun t ht =>
      List.mem_cons_of_mem _ (List.mem_cons_of_mem _ ht)
    refine ih (fun t ht u hu => hset t (hlater t ht) u (hlater u hu)) fun c => ?_
    by_cases hc : c = b
    · subst hc
      rw [Args.value_setValue_self]
      exact hset s List.mem_cons_self v (List.mem_cons_of_mem _ List.mem_cons_self) c hs hv
    · rw [Args.value_setValue_of_ne _ _ hc, Args.value_trigger]
      exact hargs c
  | case5 s args b hs hvalue v rest d hv ih =>
    refine ih (fun t ht u hu => hset t (List.mem_cons_of_mem _ ht) u (List.mem_cons_of_mem _ hu))
      fun c => ?_
    rw [Args.value_checkNeedsValue, Args.value_trigger]
    exact hargs c
  | case6 s rest args b hs hvalue ih =>
    refine ih (fun t ht v hv => hset t (List.mem_cons_of_mem _ ht) v (List.mem_cons_of_mem _ hv))
      fun c => ?_
    rw [Args.value_trigger]
    exact hargs c

/-- The loop comes to every token that names an option, with what the tokens before it left. -/
theorem readLoop_append {opt : Text} {o : ArgName} (ho : (rmatch emptyGroup opt).2 = some o)
    (before rest : List Text) (args : Args) :
    readLoop emptyGroup (before ++ opt :: rest) args =
      readLoop emptyGroup (opt :: rest) (readLoop emptyGroup before args) := by
  fun_induction readLoop emptyGroup before args with
  | case1 args => rfl
  | case2 s before args hs ih =>
    rw [List.cons_append, readLoop, hs]
    exact ih
  | case3 s args b hs hvalue =>
    rw [List.singleton_append, readLoop, hs]
    simp only [hvalue, if_true, ho]
  | case4 s args b hs hvalue v before hv ih =>
    rw [List.cons_append, List.cons_append, readLoop, hs]
    simp only [hvalue, if_true, hv]
    exact ih
  | case5 s args b hs hvalue v before d hv ih =>
    rw [List.cons_append, List.cons_append, readLoop, hs]
    simp only [hvalue, if_true, hv]
    exact ih
  | case6 s before args b hs hvalue ih =>
    rw [List.cons_append, readLoop, hs]
    simp only [hvalue]
    exact ih

/-- An option with a token behind it that names none takes it for its value. -/
theorem readLoop_value {opt val : Text} {o : ArgName} (ho : (rmatch emptyGroup opt).2 = some o)
    (hp : o.potentialValue = true) (hv : (rmatch emptyGroup val).2 = none) (after : List Text)
    (args : Args) : readLoop emptyGroup (opt :: val :: after) args =
      readLoop emptyGroup after ((args.trigger o).setValue o (rmatch emptyGroup val).1) := by
  rw [readLoop, ho]
  simp only [hp, if_true, hv]

/-- Where an option is not named its value stays. -/
theorem value_readLoop {tokens : List Text} {o : ArgName}
    (h : ∀ t ∈ tokens, (rmatch emptyGroup t).2 ≠ some o) (args : Args) :
    (readLoop emptyGroup tokens args o).value = (args o).value :=
  readLoop_keeps (P := fun a value => a = o → value = (args o).value)
    (fun s hs _ _ _ hsa _ hao => absurd (hsa.trans (congrArg some hao)) (h s hs))
    (fun _ hao => by rw [hao]) o rfl

theorem noCapitals_initial (a : ArgName) : NoCapitals (Args.initial a).value := by
  cases a <;> decide

/-- No value that is read holds a capital. -/
theorem noCapitals_readArgs (argv : List Text) (a : ArgName) :
    NoCapitals (readArgs emptyGroup argv a).value := by
  refine readLoop_keeps (P := fun _ value => NoCapitals value) (fun s _ v hv b _ hvb => ?_)
    (fun b => ?_) a
  · obtain ⟨u, -, rfl⟩ := List.mem_map.mp hv
    exact noCapitals_rmatch (noCapitals_lower u) hvb
  · exact noCapitals_initial b

end Loop

/-! ## Values that arrive as typed -/

/-- The option keeps the value behind it: what `read_args` has stored once it has read it, and
what is left at the end if the option is not named again. The operation is not carried out on all
fans then if the value is not empty. -/
structure ValueArrives (emptyGroup : Bool) (before : List Text) (opt val : Text)
    (after : List Text) (o : ArgName) : Prop where
  stored : strip (readArgs emptyGroup (before ++ [opt, val]) o).value = strip val
  kept : (∀ t ∈ after, (rmatch emptyGroup (lower t)).2 ≠ some o) →
    strip (readArgs emptyGroup (before ++ opt :: val :: after) o).value = strip val
  addressed : (∀ t ∈ after, (rmatch emptyGroup (lower t)).2 ≠ some o) → strip val ≠ [] →
    ∀ connected offers, (clientRun connected offers
      (readArgs emptyGroup (before ++ opt :: val :: after))).onAllFans ≠ some o

/-- Less leading dashes and surrounding spaces the token has neither capitals nor spaces. -/
def TypedPlainly (val : Text) : Prop := NoCapitals (strip val) ∧ NoSpaces (strip val)

section Values

variable {emptyGroup : Bool} {opt val : Text} {o : ArgName}

theorem readArgs_value (ho : (rmatch emptyGroup (lower opt)).2 = some o)
    (hp : o.potentialValue = true) (hv : (rmatch emptyGroup (lower val)).2 = none)
    (before after : List Text) :
    readArgs emptyGroup (before ++ opt :: val :: after) = readLoop emptyGroup (after.map lower)
      (((readArgs emptyGroup before).trigger o).setValue o (rmatch emptyGroup (lower val)).1) := by
  rw [readArgs, List.map_append, List.map_cons, List.map_cons, readLoop_append ho,
    readLoop_value ho hp hv]
  rfl

/-- A value that names no option is what is left of it once it is stored. -/
theorem value_readArgs (ho : (rmatch emptyGroup (lower opt)).2 = some o)
    (hp : o.potentialValue = true) (hv : (rmatch emptyGroup (lower val)).2 = none)
    (before : List Text) {after : List Text}
    (hafter : ∀ t ∈ after, (rmatch emptyGroup (lower t)).2 ≠ some o) :
    (readArgs emptyGroup (before ++ opt :: val :: after) o).value =
      (rmatch emptyGroup (lower val)).1 := by
  rw [readArgs_value ho hp hv, value_readLoop, Args.value_setValue_self]
  intro t ht
  obtain ⟨u, hu, rfl⟩ := List.mem_map.mp ht
  exact hafter u hu

/-- A value that arrives was typed plainly. -/
theorem typedPlainly_of_stored (ho : (rmatch emptyGroup (lower opt)).2 = some o)
    (hp : o.potentialValue = true) {before : List Text}
    (h : strip (readArgs emptyGroup (before ++ [opt, val]) o).value = strip val) :
    TypedPlainly val := by
  refine ⟨h ▸ noCapitals_strip (noCapitals_readArgs _ o), ?_⟩
  by_contra hspaces
  have hlower : ¬ NoSpaces (strip (lower val)) := by
    rw [strip_lower, noSpaces_lower_iff]
    exact hspaces
  have hmatch : rmatch emptyGroup (lower val) = ([], none) := rmatch_of_spaces hlower
  rw [value_readArgs ho hp (by rw [hmatch]) before (List.forall_mem_nil _), hmatch] at h
  rw [← h] at hspaces
  exact hspaces nofun

variable (emptyGroup) in
/-- A value that was typed plainly and names no option stands for itself. -/
theorem rmatch_of_typedPlainly (h : TypedPlainly val) (hv : ArgName.lookup (strip val) = none) :
    (rmatch emptyGroup (lower val)).2 = none ∧
      strip (rmatch emptyGroup (lower val)).1 = strip val := by
  have hsame : strip (lower val) = strip val := by
    rw [strip_lower]
    exact lower_of_noCapitals h.1
  have hspaces : NoSpaces (strip (lower val)) := hsame ▸ h.2
  rw [rmatch_snd hspaces, strip_rmatch hspaces (hsame ▸ hv), hsame]
  exact ⟨hv, rfl⟩

/-- **A value arrives as it was typed exactly if it has neither capitals nor inner spaces.** -/
theorem value_arrives_iff (emptyGroup : Bool) (before after : List Text) (opt val : Text)
    (o : ArgName) (ho : (rmatch emptyGroup (lower opt)).2 = some o) (hp : o.potentialValue = true)
    (hv : ArgName.lookup (strip val) = none) :
    ValueArrives emptyGroup before opt val after o ↔ TypedPlainly val := by
  constructor
  · exact fun h => typedPlainly_of_stored ho hp h.stored
  · intro h
    obtain ⟨hmatch, hstrip⟩ := rmatch_of_typedPlainly emptyGroup h hv
    refine ⟨?_, fun hafter => ?_, fun hafter hne connected offers hall => hne ?_⟩
    · rw [value_readArgs ho hp hmatch before (List.forall_mem_nil _)]
      exact hstrip
    · rw [value_readArgs ho hp hmatch before hafter]
      exact hstrip
    · have hempty := addressed_clientRun connected offers _ o hall
      rw [value_readArgs ho hp hmatch before hafter] at hempty
      rw [← hstrip, hempty]
      rfl

end Values

theorem value_arrives_plain : ValueArrives false [] "--enable".toList "cpu-fan".toList [] .enable :=
  (value_arrives_iff false [] [] "--enable".toList "cpu-fan".toList .enable (by decide) (by decide)
    (by decide)).mpr ⟨by decide, by decide⟩

/-- `fancon enable "CPU Fan"` enables all fans, and `fancon --config /home/Me/fancon.conf` reads
another path. -/
theorem value_lost :
    clientRun true false (readArgs false ["enable".toList, "CPU Fan".toList]) = .enableAll ∧
    ¬ ValueArrives false [] "enable".toList "CPU Fan".toList [] .enable ∧
    ¬ ValueArrives false [] "--config".toList "/home/Me/fancon.conf".toList [] .config := by
  refine ⟨by decide, fun h => ?_, fun h => ?_⟩
  · exact absurd h.stored (by decide)
  · exact absurd h.stored (by decide)

end Fancon
