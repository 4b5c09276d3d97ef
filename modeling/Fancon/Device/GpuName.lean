import Fancon.Fan.Text

/-! # The product name of a GPU

`LibXNvCtrl::get_gpu_product_name` passes over the titles in front of a name. It searches for each
title behind the ones before, and adds the length of the title to what the search returns, which
is the end of the name if there is no such title. The iterators are positions; what is read at or
behind the end is undefined, and a parameter.
-/
set_option autoImplicit false
set_option maxHeartbeats 250000
set_option maxRecDepth 120000

namespace Fancon

/-! ## `get_gpu_product_name` -/

def titles : List Text := ["GeForce".toList, "GTX".toList, "GRID".toList, "Quadro".toList]

/-- `std::search`: where a text first occurs, or the end. -/
def searchTitle (t : Text) : Text → ℕ
  | [] => 0
  | c :: s => if t <+: c :: s then 0 else searchTitle t s + 1

/-- `begIt`, the positions that iterators have been set to, and those that were dereferenced. -/
structure NameScan where
  begIt : ℕ
  advanced : List ℕ
  derefs : List ℕ

/-- One turn of the loop over the titles. -/
def passTitle (stray : ℕ → Char) (name : Text) (s : NameScan) (t : Text) : NameScan :=
  let found := s.begIt + searchTitle t (name.drop s.begIt)
  let newBegIt := found + t.length
  if name.getD newBegIt (stray newBegIt) = ' ' then
    { begIt := if newBegIt + 1 ≠ name.length then newBegIt + 1 else s.begIt
      advanced := s.advanced ++ [found, newBegIt, newBegIt + 1]
      derefs := s.derefs ++ [newBegIt] }
  else
    { begIt := s.begIt
      advanced := s.advanced ++ [found, newBegIt]
      derefs := s.derefs ++ [newBegIt] }

def scanName (stray : ℕ → Char) (name : Text) : NameScan :=
  titles.foldl (passTitle stray name) ⟨0, [], []⟩

/-- The part of the name that is kept, with `replace`. -/
def underscored (s : Text) : Text := s.map fun c => if c = ' ' then '_' else c

def gpuProductName (stray : ℕ → Char) (name : Text) : Text :=
  underscored (name.drop (scanName stray name).begIt)

/-! ## Within the name -/

/-- No iterator leaves the name, and none is dereferenced at its end. -/
structure NameScan.Within (s : NameScan) (name : Text) : Prop where
  begIt : s.begIt ≤ name.length
  advanced : ∀ p ∈ s.advanced, p ≤ name.length
  derefs : ∀ p ∈ s.derefs, p < name.length

/-- The text starts with none of the titles and a space. -/
def Untitled (s : Text) : Prop := ∀ t ∈ titles, ¬ t ++ [' '] <+: s

/-- The scan stays within the name, and the label is an untitled end of it with underscores. -/
structure TrimmedWithin (stray : ℕ → Char) (name : Text) : Prop where
  within : (scanName stray name).Within name
  label : ∃ rest, rest <:+ name ∧ gpuProductName stray name = underscored rest ∧ Untitled rest

/-- What is behind the first occurrence of a title. -/
def behindTitle (t : Text) : Text → Option Text
  | [] => none
  | c :: s => if t <+: c :: s then some ((c :: s).drop t.length) else behindTitle t s

/-- Each of the titles occurs in what is left of the name, with a character behind it. What is left
is what follows the title if that character is a space and not the last one, and in the end starts
with no title and space. -/
def TitlesInside : List Text → Text → Prop
  | [], rest => Untitled rest
  | t :: ts, rest => ∃ c after, behindTitle t rest = some (c :: after) ∧
      TitlesInside ts (if c = ' ' ∧ after ≠ [] then after else rest)

theorem searchTitle_of_none {t s : Text} (h : behindTitle t s = none) :
    searchTitle t s = s.length := by
  induction s with
  | nil => rfl
  | cons c s ih =>
    rw [behindTitle] at h
    split_ifs at h with hprefix
    rw [searchTitle, if_neg hprefix, ih h, List.length_cons]

theorem searchTitle_of_some {t s behind : Text} (h : behindTitle t s = some behind) :
    s.drop (searchTitle t s + t.length) = behind ∧
      searchTitle t s + t.length + behind.length = s.length := by
  induction s with
  | nil => cases h
  | cons c s ih =>
    rw [behindTitle] at h
    split_ifs at h with hprefix
    · obtain rfl := Option.some.inj h
      have hle := hprefix.length_le
      rw [searchTitle, if_pos hprefix, Nat.zero_add, List.length_drop]
      exact ⟨rfl, by omega⟩
    · obtain ⟨hdrop, hlen⟩ := ih h
      rw [searchTitle, if_neg hprefix, List.length_cons]
      refine ⟨?_, by omega⟩
      rw [show searchTitle t s + 1 + t.length = searchTitle t s + t.length + 1 by omega]
      exact hdrop

theorem NameScan.Within.record {s : NameScan} {name : Text} (hs : s.Within name) {b d : ℕ}
    {ps : List ℕ} (hb : b ≤ name.length) (hps : ∀ p ∈ ps, p ≤ name.length) (hd : d < name.length) :
    (⟨b, s.advanced ++ ps, s.derefs ++ [d]⟩ : NameScan).Within name where
  begIt := hb
  advanced p hp := (List.mem_append.mp hp).elim (hs.advanced p) (hps p)
  derefs p hp := (List.mem_append.mp hp).elim (hs.derefs p) fun h => List.mem_singleton.mp h ▸ hd

section Scan

variable {stray : ℕ → Char} {name : Text} {s : NameScan} {t : Text}

variable (stray) in
/-- A title with a character behind it is passed within the name. -/
theorem passTitle_inside (hs : s.Within name) {c : Char} {after : Text}
    (h : behindTitle t (name.drop s.begIt) = some (c :: after)) :
    (passTitle stray name s t).Within name ∧ name.drop (passTitle stray name s t).begIt =
      if c = ' ' ∧ after ≠ [] then after else name.drop s.begIt := by
  obtain ⟨hdrop, hlen⟩ := searchTitle_of_some h
  have hbeg := hs.begIt
  rw [List.length_drop, List.length_cons] at hlen
  rw [List.drop_drop, ← Nat.add_assoc] at hdrop
  have hlen' : s.begIt + searchTitle t (name.drop s.begIt) + t.length + (after.length + 1) =
      name.length := by omega
  unfold passTitle
  generalize s.begIt + searchTitle t (name.drop s.begIt) = found at hdrop hlen' ⊢
  have hread : name.getD (found + t.length) (stray (found + t.length)) = c := by
    rw [List.getD_eq_getElem?_getD, ← List.head?_drop, hdrop]
    rfl
  have hnext : name.drop (found + t.length + 1) = after := by
    rw [← List.drop_drop, hdrop]
    rfl
  have hlast : found + t.length + 1 ≠ name.length ↔ after ≠ [] := by
    rw [← List.length_pos_iff]
    omega
  simp only [hread, hlast]
  by_cases hspace : c = ' '
  · rw [if_pos hspace]
    refine ⟨hs.record ?_ (by simp; omega) (by omega), ?_⟩
    · split_ifs <;> omega
    · simp only [hspace, true_and]
      split_ifs
      · exact hnext
      · rfl
  · rw [if_neg hspace, if_neg fun hboth => hspace hboth.1]
    exact ⟨hs.record hbeg (by simp; omega) (by omega), rfl⟩

variable (stray) in
/-- A title that does not occur, or ends the name, takes the scan to its end or behind it. -/
theorem passTitle_outside (hs : s.begIt ≤ name.length) (ht : t ≠ [])
    (h : ∀ c after, behindTitle t (name.drop s.begIt) ≠ some (c :: after)) :
    ∃ p ∈ (passTitle stray name s t).derefs, name.length ≤ p := by
  have hpos := List.length_pos_iff.mpr ht
  have hend : name.length ≤ s.begIt + searchTitle t (name.drop s.begIt) + t.length := by
    cases hbehind : behindTitle t (name.drop s.begIt) with
    | none =>
      rw [searchTitle_of_none hbehind, List.length_drop]
      omega
    | some behind =>
      cases behind with
      | nil =>
        have hlen := (searchTitle_of_some hbehind).2
        rw [List.length_drop, List.length_nil] at hlen
        omega
      | cons c after => exact absurd hbehind (h c after)
  refine ⟨_, ?_, hend⟩
  unfold passTitle
  dsimp only
  split_ifs <;> exact List.mem_append_right _ (List.mem_singleton_self _)

/-- What has been dereferenced stays on record. -/
theorem derefs_foldl (ts : List Text) {p : ℕ} (hp : p ∈ s.derefs) :
    p ∈ (ts.foldl (passTitle stray name) s).derefs := by
  induction ts generalizing s with
  | nil => exact hp
  | cons t ts ih =>
    apply ih
    unfold passTitle
    dsimp only
    split_ifs <;> exact List.mem_append_left _ hp

variable (stray) in
/-- The scan stays within the name and leaves an untitled end exactly if the titles occur. -/
theorem foldl_passTitle_iff {ts : List Text} (hts : ∀ t ∈ ts, t ≠ []) (hs : s.Within name) :
    ((ts.foldl (passTitle stray name) s).Within name ∧
      Untitled (name.drop (ts.foldl (passTitle stray name) s).begIt)) ↔
    TitlesInside ts (name.drop s.begIt) := by
  induction ts generalizing s with
  | nil => exact and_iff_right hs
  | cons t ts ih =>
    rw [List.foldl_cons, TitlesInside]
    by_cases h : ∃ c after, behindTitle t (name.drop s.begIt) = some (c :: after)
    · obtain ⟨c, after, hbehind⟩ := h
      obtain ⟨hwithin, hrest⟩ := passTitle_inside stray hs hbehind
      rw [ih (fun u hu => hts u (List.mem_cons_of_mem _ hu)) hwithin, hrest]
      constructor
      · exact fun hinside => ⟨c, after, hbehind, hinside⟩
      · rintro ⟨d, after', hbehind', hinside⟩
        obtain ⟨rfl, rfl⟩ := List.cons.inj (Option.some.inj (hbehind'.symm.trans hbehind))
        exact hinside
    · have hnot : ∀ c after, behindTitle t (name.drop s.begIt) ≠ some (c :: after) :=
        fun c after hbehind => h ⟨c, after, hbehind⟩
      obtain ⟨p, hp, hle⟩ := passTitle_outside stray hs.begIt (hts t List.mem_cons_self) hnot
      constructor
      · exact fun hboth => absurd (hboth.1.derefs p (derefs_foldl ts hp)) (not_lt.mpr hle)
      · rintro ⟨c, after, hbehind, -⟩
        exact absurd hbehind (hnot c after)

end Scan

/-! ## The label -/

theorem eq_of_suffix_of_length {rest rest' name : Text} (h : rest <:+ name) (h' : rest' <:+ name)
    (hlen : rest.length = rest'.length) : rest = rest' :=
  (List.suffix_of_suffix_length_le h h' hlen.le).eq_of_length hlen

/-- The end of the name that the label stands for is what was left of it. -/
theorem label_iff (stray : ℕ → Char) (name : Text) :
    (∃ rest, rest <:+ name ∧ gpuProductName stray name = underscored rest ∧ Untitled rest) ↔
      Untitled (name.drop (scanName stray name).begIt) := by
  constructor
  · rintro ⟨rest, hsuffix, heq, huntitled⟩
    have hlen := congrArg List.length heq
    simp only [gpuProductName, underscored, List.length_map] at hlen
    rwa [eq_of_suffix_of_length (List.drop_suffix _ _) hsuffix hlen]
  · exact fun h => ⟨_, List.drop_suffix _ _, rfl, h⟩

/-- **A product name is trimmed within its bounds exactly if all of the titles occur in it, one
behind the other and none at the end, and what is left starts with none of them.** -/
theorem trimmed_within_iff (stray : ℕ → Char) (name : Text) :
    TrimmedWithin stray name ↔ TitlesInside titles name := by
  have hstart : NameScan.Within ⟨0, [], []⟩ name :=
    ⟨Nat.zero_le _, List.forall_mem_nil _, List.forall_mem_nil _⟩
  have hts : ∀ t ∈ titles, t ≠ [] := by decide
  rw [← List.drop_zero (l := name), ← foldl_passTitle_iff stray hts hstart, List.drop_zero]
  constructor
  · exact fun h => ⟨h.within, (label_iff stray name).mp h.label⟩
  · exact fun h => ⟨h.1, (label_iff stray name).mpr h.2⟩

/-- There is no `GRID` behind the titles of `GeForce GTX 1080`, which has 16 characters. -/
theorem trimmed_outside :
    20 ∈ (scanName (fun _ => 'x') "GeForce GTX 1080".toList).derefs ∧
    ¬ TrimmedWithin (fun _ => 'x') "GeForce GTX 1080".toList := by
  have hderef : 20 ∈ (scanName (fun _ => 'x') "GeForce GTX 1080".toList).derefs := by decide
  exact ⟨hderef, fun h => absurd (h.within.derefs 20 hderef) (by decide)⟩

end Fancon
