import Mathlib

/-! # A value that is reused while it is fresh

A reader looks at the clock, and reuses the value of the last refresh if that was less than `ttl`
ago; else it refreshes the value and notes the time. `Turns` are what the readers of one such
value get, one after the other. The `i`-th refresh comes `i` times `ttl` after the first
(`Turns.refreshes_apart`), and every turn returns the value of the last refresh before it, which is
less than `ttl` old (`Turns.last_refresh`).
-/
set_option autoImplicit false
set_option maxHeartbeats 250000
set_option maxRecDepth 120000

namespace Refresh

/-- When the clock was looked at, whether the value was refreshed and when that was noted. -/
structure Turn (α : Type) where
  now : ℤ
  refreshed : Bool
  noted : ℤ
  value : α
deriving DecidableEq

/-- The turns after a refresh that was noted at some time. -/
inductive Turns {α : Type} (ttl : ℤ) : ℤ → α → List (Turn α) → Prop
  | nil {last : ℤ} {v : α} : Turns ttl last v []
  | reuse {last now noted : ℤ} {v : α} {ts : List (Turn α)} :
      now < last + ttl → Turns ttl last v ts → Turns ttl last v (⟨now, false, noted, v⟩ :: ts)
  | refresh {last now noted : ℤ} {v w : α} {ts : List (Turn α)} :
      last + ttl ≤ now → now ≤ noted → Turns ttl noted w ts →
      Turns ttl last v (⟨now, true, noted, w⟩ :: ts)

variable {α : Type} {ttl last : ℤ} {v : α} {ts : List (Turn α)}

def refreshes (ts : List (Turn α)) : List (Turn α) := ts.filter Turn.refreshed

@[simp] theorem refreshes_reuse (now noted : ℤ) (w : α) (ts : List (Turn α)) :
    refreshes (⟨now, false, noted, w⟩ :: ts) = refreshes ts := rfl

@[simp] theorem refreshes_refresh (now noted : ℤ) (w : α) (ts : List (Turn α)) :
    refreshes (⟨now, true, noted, w⟩ :: ts) = ⟨now, true, noted, w⟩ :: refreshes ts := rfl

/-- The `i`-th refresh waits for `i + 1` times the `ttl`. -/
theorem Turns.refresh_after (h : Turns ttl last v ts) :
    ∀ (i : ℕ) (t : Turn α), (refreshes ts)[i]? = some t → last + (i + 1) * ttl ≤ t.now := by
  induction h with
  | nil =>
    intro i t ht
    cases ht
  | reuse _ _ ih => exact ih
  | @refresh last now noted v w ts hdue hnoted _ ih =>
    intro i t ht
    rw [refreshes_refresh] at ht
    cases i with
    | zero =>
      obtain rfl := Option.some.inj ht
      show last + ((0 : ℕ) + 1) * ttl ≤ now
      push_cast
      omega
    | succ i =>
      have hafter := ih i t ht
      calc last + ((i + 1 : ℕ) + 1) * ttl = last + ttl + (i + 1) * ttl := by push_cast; ring
        _ ≤ noted + (i + 1) * ttl := by omega
        _ ≤ t.now := hafter

/-- The turns that come after one of the refreshes. -/
theorem Turns.after_refresh (h : Turns ttl last v ts) :
    ∀ (i : ℕ) (t : Turn α), (refreshes ts)[i]? = some t →
      ∃ rest, Turns ttl t.noted t.value rest ∧ refreshes rest = (refreshes ts).drop (i + 1) := by
  induction h with
  | nil =>
    intro i t ht
    cases ht
  | reuse _ _ ih => exact ih
  | @refresh last now noted v w ts _ _ hts ih =>
    intro i t ht
    rw [refreshes_refresh] at ht ⊢
    cases i with
    | zero =>
      obtain rfl := Option.some.inj ht
      exact ⟨ts, hts, rfl⟩
    | succ i => exact ih i t ht

/-- Between two refreshes there is the `ttl` for each refresh from the one to the other. -/
theorem Turns.refreshes_apart (h : Turns ttl last v ts) {i n : ℕ} {a b : Turn α}
    (ha : (refreshes ts)[i]? = some a) (hb : (refreshes ts)[i + (n + 1)]? = some b) :
    a.noted + (n + 1) * ttl ≤ b.now := by
  obtain ⟨rest, hrest, heq⟩ := h.after_refresh i a ha
  have hb' : (refreshes rest)[n]? = some b := by
    rw [heq, List.getElem?_drop, ← hb]
    congr 1
    omega
  exact hrest.refresh_after n b hb'

/-- A turn returns the value of the last refresh, or what was there before the first one, and that
is less than the `ttl` old. -/
theorem Turns.last_refresh (httl : 0 < ttl) (h : Turns ttl last v ts) :
    ∀ (before : List (Turn α)) (t : Turn α) (after : List (Turn α)), ts = before ++ t :: after →
      (∃ r, (refreshes (before ++ [t])).getLast? = some r ∧ t.value = r.value ∧
        t.now < r.noted + ttl) ∨
      (refreshes (before ++ [t]) = [] ∧ t.value = v ∧ t.now < last + ttl) := by
  induction h with
  | nil =>
    intro before t after heq
    cases before <;> cases heq
  | reuse hfresh _ ih =>
    intro before t after heq
    cases before with
    | nil =>
      cases heq
      exact Or.inr ⟨rfl, rfl, hfresh⟩
    | cons b before =>
      cases heq
      exact ih before t after rfl
  | @refresh last now noted v w ts _ hnoted _ ih =>
    intro before t after heq
    cases before with
    | nil =>
      cases heq
      refine Or.inl ⟨_, rfl, rfl, ?_⟩
      show now < noted + ttl
      omega
    | cons b before =>
      cases heq
      rw [List.cons_append, refreshes_refresh]
      rcases ih before t after rfl with ⟨r, hlast, hvalue, hfresh⟩ | ⟨hnone, hvalue, hfresh⟩
      · refine Or.inl ⟨r, ?_, hvalue, hfresh⟩
        rw [List.getLast?_cons, hlast, Option.getD_some]
      · rw [hnone]
        exact Or.inl ⟨_, rfl, hvalue, hfresh⟩

/-- If the first turn finds the value too old, it refreshes it. -/
theorem Turns.first_refreshed (h : Turns ttl last v ts)
    (hdue : ∀ t ∈ ts.head?, last + ttl ≤ t.now) {before after : List (Turn α)} {t : Turn α}
    (heq : ts = before ++ t :: after) : refreshes (before ++ [t]) ≠ [] := by
  cases h with
  | nil => cases before <;> cases heq
  | reuse hfresh _ => exact absurd hfresh (not_lt.mpr (hdue _ rfl))
  | refresh _ _ _ =>
    cases before with
    | nil =>
      cases heq
      exact List.cons_ne_nil _ _
    | cons b before =>
      cases heq
      exact List.cons_ne_nil _ _

end Refresh
