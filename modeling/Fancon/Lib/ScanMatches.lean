import Fancon.Lib.Scan

/-! # Where the items of a scan stand

The matches of a text, each with the text from its start and the text after its end. Two searches
that resume at different places find the same matches exactly when no match is directly followed
by an item.
-/
set_option autoImplicit false
set_option maxHeartbeats 250000
set_option maxRecDepth 120000

namespace Scan

/-- An item where it stands: the text from its start, and the text after its end. -/
structure Match (ι α : Type) where
  start : List ι
  item : α
  rest : List ι
deriving DecidableEq

namespace Reader

variable {ι α : Type} (R : Reader ι α)

/-- The leftmost match. -/
def searchMatch : List ι → Option (Match ι α)
  | [] => none
  | c :: s =>
    match R.read (c :: s) with
    | some (a, rest) => some ⟨c :: s, a, rest⟩
    | none => searchMatch s

def matchesUpTo (skip : ℕ) : ℕ → List ι → List (Match ι α)
  | 0, _ => []
  | n + 1, s =>
    match R.searchMatch s with
    | none => []
    | some m => m :: matchesUpTo skip n (m.rest.drop skip)

/-- The matches of a text, where each search resumes `skip` elements behind the match before. -/
def matchesOf (skip : ℕ) (s : List ι) : List (Match ι α) := R.matchesUpTo skip s.length s

/-- The leftmost matches that do not overlap: each search resumes where the match before ends. -/
def leftmostMatches (s : List ι) : List (Match ι α) := R.matchesOf 0 s

theorem searchMatch_of_read {s rest : List ι} {a : α} (h : R.read s = some (a, rest)) :
    R.searchMatch s = some ⟨s, a, rest⟩ := by
  cases s with
  | nil => exact absurd (R.shorter h) (Nat.not_lt_zero _)
  | cons c s => rw [searchMatch, h]

theorem searchMatch_cons {c : ι} {s : List ι} (h : R.read (c :: s) = none) :
    R.searchMatch (c :: s) = R.searchMatch s := by
  rw [searchMatch, h]

/-- A match reads at its start, it starts within the text, and no element before it starts one. -/
theorem searchMatch_spec {s : List ι} {m : Match ι α} (h : R.searchMatch s = some m) :
    R.read m.start = some (m.item, m.rest) ∧ ∃ before, s = before ++ m.start ∧
      ∀ pre post, before = pre ++ post → post ≠ [] → R.read (post ++ m.start) = none := by
  induction s with
  | nil => cases h
  | cons c s ih =>
    cases hr : R.read (c :: s) with
    | some r =>
      obtain rfl := Option.some.inj ((R.searchMatch_of_read hr).symm.trans h)
      refine ⟨hr, [], rfl, fun pre post hnil hpost => ?_⟩
      exact absurd (List.append_eq_nil_iff.mp hnil.symm).2 hpost
    | none =>
      obtain ⟨hread, before, rfl, hnone⟩ := ih ((R.searchMatch_cons hr).symm.trans h)
      refine ⟨hread, c :: before, rfl, fun pre post hsplit hpost => ?_⟩
      cases pre with
      | nil =>
        obtain rfl : c :: before = post := hsplit
        exact hr
      | cons d pre => exact hnone pre post (List.cons.inj hsplit).2 hpost

theorem searchMatch_start_le {s : List ι} {m : Match ι α} (h : R.searchMatch s = some m) :
    m.start.length ≤ s.length := by
  obtain ⟨-, before, rfl, -⟩ := R.searchMatch_spec h
  simp

theorem searchMatch_shorter {s : List ι} {m : Match ι α} (h : R.searchMatch s = some m) :
    m.rest.length < s.length :=
  (R.shorter (R.searchMatch_spec h).1).trans_le (R.searchMatch_start_le h)

theorem matchesUpTo_eq_of_le (skip : ℕ) {n k : ℕ} {s : List ι} (hn : s.length ≤ n)
    (hk : s.length ≤ k) : R.matchesUpTo skip n s = R.matchesUpTo skip k s := by
  induction n generalizing k s with
  | zero =>
    obtain rfl : s = [] := List.eq_nil_of_length_eq_zero (by omega)
    cases k <;> rfl
  | succ n ih =>
    cases k with
    | zero =>
      obtain rfl : s = [] := List.eq_nil_of_length_eq_zero (by omega)
      rfl
    | succ k =>
      unfold matchesUpTo
      cases hs : R.searchMatch s with
      | none => rfl
      | some m =>
        have hlt : m.rest.length < s.length := R.searchMatch_shorter hs
        have hdrop : (m.rest.drop skip).length ≤ m.rest.length := by simp
        exact congrArg (m :: ·) (ih (by omega) (by omega))

theorem matchesOf_none {skip : ℕ} {s : List ι} (h : R.searchMatch s = none) :
    R.matchesOf skip s = [] := by
  unfold matchesOf
  cases s with
  | nil => rfl
  | cons c s => rw [List.length_cons, matchesUpTo, h]

theorem matchesOf_some {skip : ℕ} {s : List ι} {m : Match ι α} (h : R.searchMatch s = some m) :
    R.matchesOf skip s = m :: R.matchesOf skip (m.rest.drop skip) := by
  unfold matchesOf
  cases s with
  | nil => cases h
  | cons c s =>
    have hlt : m.rest.length < (c :: s).length := R.searchMatch_shorter h
    have hdrop : (m.rest.drop skip).length ≤ m.rest.length := by simp
    rw [List.length_cons] at hlt
    rw [List.length_cons, matchesUpTo, h]
    exact congrArg (m :: ·) (R.matchesUpTo_eq_of_le skip (by omega) le_rfl)

/-- Induction along the matches of a text. -/
theorem matches_induction {P : List ι → Prop} (skip : ℕ)
    (none : ∀ s, R.searchMatch s = none → P s)
    (some : ∀ s m, R.searchMatch s = some m → P (m.rest.drop skip) → P s) (s : List ι) : P s := by
  induction hn : s.length using Nat.strong_induction_on generalizing s with
  | _ n ih =>
    cases hs : R.searchMatch s with
    | none => exact none s hs
    | some m =>
      have hlt := R.searchMatch_shorter hs
      refine some s m hs (ih _ ?_ _ rfl)
      rw [List.length_drop]
      omega

/-! ## The items alone -/

theorem search_eq_map (s : List ι) :
    R.search s = (R.searchMatch s).map fun m => (m.item, m.rest) := by
  induction s with
  | nil => rfl
  | cons c s ih =>
    cases hr : R.read (c :: s) with
    | some r => rw [R.search_of_read hr, R.searchMatch_of_read hr]; rfl
    | none => rw [search, hr, R.searchMatch_cons hr]; exact ih

/-- A scan reads the items of the matches it finds by resuming one element behind each. -/
theorem scan_eq_map (s : List ι) : R.scan s = (R.matchesOf 1 s).map Match.item := by
  induction s using R.matches_induction 1 with
  | none s hs => rw [R.scan_eq, R.search_eq_map, hs, R.matchesOf_none hs]; rfl
  | some s m hs ih =>
    rw [R.scan_eq, R.search_eq_map, hs, R.matchesOf_some hs, List.map_cons, ← ih]
    rfl

/-- The last of the matches, if there is one, ends the text. -/
def EndsText (ms : List (Match ι α)) : Prop := ∀ m ∈ ms.getLast?, m.rest = []

instance [DecidableEq ι] (ms : List (Match ι α)) : Decidable (EndsText ms) :=
  match h : ms.getLast? with
  | none => isTrue fun m hm => by rw [h] at hm; cases hm
  | some m => decidable_of_iff (m.rest = []) (by simp [EndsText, h])

theorem endsText_nil : EndsText ([] : List (Match ι α)) := nofun

theorem endsText_singleton {m : Match ι α} : EndsText [m] ↔ m.rest = [] := by
  simp [EndsText]

theorem endsText_cons_cons {m n : Match ι α} {ms : List (Match ι α)} :
    EndsText (m :: n :: ms) ↔ EndsText (n :: ms) := by
  simp [EndsText]

theorem resumeUpTo_of_ends {n : ℕ} {m : Match ι α} {items : List α} (hrest : m.rest = []) :
    R.resumeUpTo n m.rest = some items ↔
      items = R.scan (m.rest.drop 1) ∧ EndsText (m :: R.matchesOf 1 (m.rest.drop 1)) := by
  have hmatches : R.matchesOf 1 (m.rest.drop 1) = [] := R.matchesOf_none (by rw [hrest]; rfl)
  rw [R.scan_eq_map, hmatches, endsText_singleton, hrest, resumeUpTo, Option.some.injEq]
  exact ⟨fun h => ⟨h.symm, rfl⟩, fun h => h.1.symm⟩

theorem resumeUpTo_eq_some {n : ℕ} {m : Match ι α} {items : List α} (hn : m.rest.length ≤ n) :
    R.resumeUpTo n m.rest = some items ↔
      items = R.scan (m.rest.drop 1) ∧ EndsText (m :: R.matchesOf 1 (m.rest.drop 1)) := by
  induction n generalizing m items with
  | zero => exact R.resumeUpTo_of_ends (List.eq_nil_of_length_eq_zero (by omega))
  | succ n ih =>
    cases hrest : m.rest with
    | nil => exact hrest ▸ R.resumeUpTo_of_ends hrest
    | cons c s =>
      rw [List.drop_one, List.tail_cons, resumeUpTo, R.scan_eq, R.search_eq_map]
      cases hs : R.searchMatch s with
      | none =>
        rw [R.matchesOf_none hs, endsText_singleton, hrest]
        simp
      | some next =>
        have hlt : next.rest.length < s.length := R.searchMatch_shorter hs
        have hle : next.rest.length ≤ n := by
          rw [hrest, List.length_cons] at hn
          omega
        rw [R.matchesOf_some hs, endsText_cons_cons]
        simp only [Option.map_some, Option.map_eq_some_iff, ih hle]
        constructor
        · rintro ⟨tail, ⟨rfl, hends⟩, rfl⟩
          exact ⟨rfl, hends⟩
        · rintro ⟨rfl, hends⟩
          exact ⟨_, ⟨rfl, hends⟩, rfl⟩

/-- **A scan that does not know where the text ends reads it exactly when the last item it finds
ends it.** -/
theorem scan?_eq_some {s : List ι} {items : List α} :
    R.scan? s = some items ↔ items = R.scan s ∧ EndsText (R.matchesOf 1 s) := by
  rw [scan?, R.scan_eq, R.search_eq_map]
  cases hs : R.searchMatch s with
  | none =>
    rw [R.matchesOf_none hs]
    simp [endsText_nil, eq_comm]
  | some m =>
    rw [R.matchesOf_some hs]
    simp only [Option.map_some, Option.map_eq_some_iff, R.resumeUpTo_eq_some le_rfl]
    constructor
    · rintro ⟨tail, ⟨rfl, hends⟩, rfl⟩
      exact ⟨rfl, hends⟩
    · rintro ⟨rfl, hends⟩
      exact ⟨_, ⟨rfl, hends⟩, rfl⟩

/-! ## Resuming one element behind a match -/

theorem start_le_of_mem {skip : ℕ} {s : List ι} {m : Match ι α} (h : m ∈ R.matchesOf skip s) :
    m.start.length ≤ s.length := by
  induction s using R.matches_induction skip with
  | none s hs => rw [R.matchesOf_none hs] at h; cases h
  | some s first hs ih =>
    rw [R.matchesOf_some hs] at h
    rcases List.mem_cons.mp h with rfl | h
    · exact R.searchMatch_start_le hs
    · have hle := ih h
      have hlt := R.searchMatch_shorter hs
      rw [List.length_drop] at hle
      omega

/-- Where no item starts at once, the element that is passed over does not matter. -/
theorem leftmostMatches_drop {s : List ι} (h : R.read s = none) :
    R.leftmostMatches (s.drop 1) = R.leftmostMatches s := by
  cases s with
  | nil => rfl
  | cons c s =>
    have hsearch := R.searchMatch_cons h
    show R.matchesOf 0 s = R.matchesOf 0 (c :: s)
    cases hs : R.searchMatch s with
    | none => rw [R.matchesOf_none hs, R.matchesOf_none (hsearch.trans hs)]
    | some m => rw [R.matchesOf_some hs, R.matchesOf_some (hsearch.trans hs)]

/-- Where an item starts at once, it is lost. -/
theorem matchesOf_drop_ne {s : List ι} (h : R.read s ≠ none) :
    R.matchesOf 1 (s.drop 1) ≠ R.leftmostMatches s := by
  obtain ⟨⟨a, rest⟩, hr⟩ := Option.ne_none_iff_exists'.mp h
  intro heq
  have hmem : ⟨s, a, rest⟩ ∈ R.matchesOf 1 (s.drop 1) := by
    rw [heq, leftmostMatches, R.matchesOf_some (R.searchMatch_of_read hr)]
    exact List.mem_cons_self
  have hle : s.length ≤ (s.drop 1).length := R.start_le_of_mem hmem
  have hpos := R.shorter hr
  rw [List.length_drop] at hle
  omega

/-- **Passing over an element after each match loses nothing exactly when none of the leftmost
matches is directly followed by an item.** -/
theorem matchesOf_one_eq_iff (s : List ι) :
    R.matchesOf 1 s = R.leftmostMatches s ↔ ∀ m ∈ R.leftmostMatches s, R.read m.rest = none := by
  induction s using R.matches_induction 1 with
  | none s hs => simp [leftmostMatches, R.matchesOf_none hs]
  | some s m hs ih =>
    have href : R.leftmostMatches s = m :: R.leftmostMatches m.rest := R.matchesOf_some hs
    rw [href, R.matchesOf_some hs, List.cons_inj_right, List.forall_mem_cons]
    by_cases hnext : R.read m.rest = none
    · rw [← R.leftmostMatches_drop hnext, ih]
      exact ⟨fun h => ⟨hnext, h⟩, fun h => h.2⟩
    · exact ⟨fun h => absurd h (R.matchesOf_drop_ne hnext), fun h => absurd h.1 hnext⟩

/-! ## Runs that a match cannot start in the middle of -/

/-- What starts with a run of the class `p` and reads without its first element reads with it. -/
def ReadsWholeRuns (p : ι → Prop) : Prop :=
  ∀ d s, p d → R.read s ≠ none → R.read (d :: s) ≠ none

/-- Between the start of a search and the match it finds there is no run the match cuts. -/
theorem not_run_before_start {p : ι → Prop} (hp : R.ReadsWholeRuns p) {s before : List ι} {d : ι}
    {m : Match ι α} (hs : R.searchMatch s = some m) (hbefore : s = before ++ d :: m.start) :
    ¬ p d := by
  intro hd
  obtain ⟨hread, before', hsplit, hnone⟩ := R.searchMatch_spec hs
  have heq : before' = before ++ [d] := by
    have hall : before' ++ m.start = before ++ [d] ++ m.start := by
      rw [← hsplit, hbefore, List.append_assoc]
      rfl
    exact List.append_cancel_right hall
  refine hp d m.start hd ?_ (hnone before [d] heq (List.cons_ne_nil _ _))
  rw [hread]
  exact Option.some_ne_none _

/-- **No leftmost match starts in the middle of a run behind the match before it.** -/
theorem not_run_between {p : ι → Prop} (hp : R.ReadsWholeRuns p) {s : List ι} {m next : Match ι α}
    (h : [m, next] <:+: R.leftmostMatches s) {before : List ι} {d : ι}
    (hbefore : m.rest = before ++ d :: next.start) : ¬ p d := by
  induction s using R.matches_induction 0 with
  | none s hs =>
    rw [leftmostMatches, R.matchesOf_none hs] at h
    exact absurd (List.infix_nil.mp h) (List.cons_ne_nil _ _)
  | some s first hs ih =>
    have href : R.leftmostMatches s = first :: R.leftmostMatches first.rest := R.matchesOf_some hs
    rw [href] at h
    rcases List.infix_cons_iff.mp h with h | h
    · obtain ⟨rfl, htail⟩ := List.cons_prefix_cons.mp h
      cases hnext : R.searchMatch m.rest with
      | none =>
        rw [leftmostMatches, R.matchesOf_none hnext] at htail
        exact absurd (List.prefix_nil.mp htail) (List.cons_ne_nil _ _)
      | some n =>
        rw [leftmostMatches, R.matchesOf_some hnext] at htail
        obtain ⟨rfl, -⟩ := List.cons_prefix_cons.mp htail
        exact R.not_run_before_start hp hnext hbefore
    · exact ih h

end Reader

end Scan
