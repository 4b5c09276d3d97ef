import Mathlib

/-! # Reading the items of a text one after the other

A reader recognises one item at the start of a text. A scan searches the leftmost place where it
succeeds, passes over the item and over the one element after it, and searches again. Texts that
alternate items and separators are read item by item.
-/
set_option autoImplicit false
set_option maxHeartbeats 250000
set_option maxRecDepth 120000

namespace Scan

/-- A reader of one item at the start of a text; what it reads is not empty. -/
structure Reader (ι α : Type) where
  read : List ι → Option (α × List ι)
  shorter : ∀ {s : List ι} {a : α} {rest : List ι}, read s = some (a, rest) →
    rest.length < s.length

namespace Reader

variable {ι α : Type} (R : Reader ι α)

/-- The leftmost item, and the text after it. -/
def search : List ι → Option (α × List ι)
  | [] => none
  | c :: s =>
    match R.read (c :: s) with
    | some r => some r
    | none => search s

theorem search_shorter {s : List ι} {a : α} {rest : List ι} (h : R.search s = some (a, rest)) :
    rest.length < s.length := by
  induction s with
  | nil => cases h
  | cons c s ih =>
    unfold search at h
    cases hr : R.read (c :: s) with
    | some r =>
      rw [hr] at h
      exact R.shorter (hr.trans h)
    | none =>
      rw [hr] at h
      exact (ih h).trans (Nat.lt_succ_self _)

theorem search_of_read {s : List ι} {r : α × List ι} (h : R.read s = some r) :
    R.search s = some r := by
  cases s with
  | nil => exact absurd (R.shorter h) (Nat.not_lt_zero _)
  | cons c s => rw [search, h]

def scanUpTo : ℕ → List ι → List α
  | 0, _ => []
  | n + 1, s =>
    match R.search s with
    | none => []
    | some (a, rest) => a :: scanUpTo n (rest.drop 1)

/-- The items of a text; it has no more of them than elements. -/
def scan (s : List ι) : List α := R.scanUpTo s.length s

theorem scanUpTo_eq_of_le {n m : ℕ} {s : List ι} (hn : s.length ≤ n) (hm : s.length ≤ m) :
    R.scanUpTo n s = R.scanUpTo m s := by
  induction n generalizing m s with
  | zero =>
    obtain rfl : s = [] := List.eq_nil_of_length_eq_zero (by omega)
    cases m <;> rfl
  | succ n ih =>
    cases m with
    | zero =>
      obtain rfl : s = [] := List.eq_nil_of_length_eq_zero (by omega)
      rfl
    | succ m =>
      unfold scanUpTo
      cases hs : R.search s with
      | none => rfl
      | some r =>
        have hlt : r.2.length < s.length := R.search_shorter hs
        have hdrop : (r.2.drop 1).length ≤ r.2.length := by simp
        exact congrArg (r.1 :: ·) (ih (by omega) (by omega))

theorem scan_eq (s : List ι) :
    R.scan s = match R.search s with
      | none => []
      | some (a, rest) => a :: R.scan (rest.drop 1) := by
  unfold scan
  cases s with
  | nil => rfl
  | cons c s =>
    rw [List.length_cons, scanUpTo]
    cases hs : R.search (c :: s) with
    | none => rfl
    | some r =>
      have hlt : r.2.length < (c :: s).length := R.search_shorter hs
      have hdrop : (r.2.drop 1).length ≤ r.2.length := by simp
      rw [List.length_cons] at hlt
      exact congrArg (r.1 :: ·) (R.scanUpTo_eq_of_le (by omega) le_rfl)

/-! ## A scan that does not know where the text ends

Only the first search knows it. A later one that finds no item runs off the text, unless the item
before ended it.
-/

/-- The items behind an item, where `s` is the text behind it. -/
def resumeUpTo : ℕ → List ι → Option (List α)
  | _, [] => some []
  | 0, _ :: _ => none
  | n + 1, _ :: s =>
    match R.search s with
    | none => none
    | some (a, rest) => (resumeUpTo n rest).map (a :: ·)

/-- The items of a text, where no search runs off it. -/
def scan? (s : List ι) : Option (List α) :=
  match R.search s with
  | none => some []
  | some (a, rest) => (R.resumeUpTo rest.length rest).map (a :: ·)

/-! ## Elements at which no item starts -/

def Skips (c : ι) : Prop := ∀ s, R.read (c :: s) = none

theorem search_skip {junk : List ι} (h : ∀ c ∈ junk, R.Skips c) (s : List ι) :
    R.search (junk ++ s) = R.search s := by
  induction junk with
  | nil => rfl
  | cons c junk ih =>
    rw [List.cons_append, search, h c List.mem_cons_self]
    exact ih fun d hd => h d (List.mem_cons_of_mem _ hd)

theorem scan_skip {junk : List ι} (h : ∀ c ∈ junk, R.Skips c) (s : List ι) :
    R.scan (junk ++ s) = R.scan s := by
  rw [R.scan_eq (junk ++ s), R.search_skip h, ← R.scan_eq]

theorem scan_junk {junk : List ι} (h : ∀ c ∈ junk, R.Skips c) : R.scan junk = [] := by
  have hskip := R.scan_skip h []
  rwa [List.append_nil] at hskip

/-! ## Pieces joined by a separator -/

/-- The piece `p` holds the one item `a`: before a separator, or at the end, the leftmost item is
`a`, and what is left of the piece after it holds no further one. -/
def Holds (sep : ι) (p : List ι) (a : α) : Prop :=
  ∀ rest : List ι, (rest = [] ∨ ∃ tail, rest = sep :: tail) →
    ∃ left, (∀ c ∈ left, R.Skips c) ∧ R.search (p ++ rest) = some (a, left ++ rest)

variable {R}

theorem Holds.skip {sep : ι} {junk p : List ι} {a : α} (hjunk : ∀ c ∈ junk, R.Skips c)
    (h : R.Holds sep p a) : R.Holds sep (junk ++ p) a := by
  intro rest hrest
  obtain ⟨left, hleft, hsearch⟩ := h rest hrest
  refine ⟨left, hleft, ?_⟩
  rw [List.append_assoc, R.search_skip hjunk, hsearch]

theorem Holds.scan_last {sep : ι} {p : List ι} {a : α} (h : R.Holds sep p a) : R.scan p = [a] := by
  obtain ⟨left, hleft, hsearch⟩ := h [] (Or.inl rfl)
  rw [List.append_nil, List.append_nil] at hsearch
  rw [R.scan_eq, hsearch]
  exact congrArg (a :: ·) (R.scan_junk fun c hc => hleft c (List.mem_of_mem_drop hc))

theorem Holds.scan_cons {sep : ι} (hsep : R.Skips sep) {p : List ι} {a : α} (h : R.Holds sep p a)
    (tail : List ι) : R.scan (p ++ sep :: tail) = a :: R.scan tail := by
  obtain ⟨left, hleft, hsearch⟩ := h (sep :: tail) (Or.inr ⟨tail, rfl⟩)
  rw [R.scan_eq, hsearch]
  apply congrArg (a :: ·)
  cases left with
  | nil => rfl
  | cons c left =>
    have hskip : ∀ d ∈ left ++ [sep], R.Skips d := by
      intro d hd
      rcases List.mem_append.mp hd with hd | hd
      · exact hleft d (List.mem_cons_of_mem _ hd)
      · exact List.mem_singleton.mp hd ▸ hsep
    have hscan := R.scan_skip hskip tail
    rwa [List.append_assoc] at hscan

/-- A text of pieces that hold one item each is read item by item. -/
theorem scan_intercalate {sep : ι} (junk : List ι) (hsep : R.Skips sep)
    (hjunk : ∀ c ∈ junk, R.Skips c) (ps : List (List ι × α))
    (h : ∀ p ∈ ps, R.Holds sep p.1 p.2) :
    R.scan ((sep :: junk).intercalate (ps.map Prod.fst)) = ps.map Prod.snd := by
  induction ps with
  | nil => rfl
  | cons p ps ih =>
    cases ps with
    | nil =>
      rw [List.map_singleton, List.intercalate_singleton]
      exact (h p List.mem_cons_self).scan_last
    | cons q qs =>
      have htail := ih fun x hx => h x (List.mem_cons_of_mem _ hx)
      rw [List.map_cons, List.map_cons, List.intercalate_cons_cons, List.append_assoc]
      rw [← List.map_cons, List.cons_append]
      rw [(h p List.mem_cons_self).scan_cons hsep, R.scan_skip hjunk, htail]
      rfl

end Reader

end Scan
