import Mathlib

/-! # Loops over a list

What every turn keeps is kept by the loop, for loops whose turns always return and for loops whose
turns may not.
-/
set_option autoImplicit false
set_option maxHeartbeats 250000
set_option maxRecDepth 120000

namespace Loop

variable {σ α : Type}

theorem foldl_keeps {step : σ → α → σ} {P : σ → Prop} (hstep : ∀ s a, P s → P (step s a))
    {s : σ} (hs : P s) (as : List α) : P (as.foldl step s) := by
  induction as generalizing s with
  | nil => exact hs
  | cons a as ih => exact ih (hstep s a hs)

theorem foldl_keeps_mem {step : σ → α → σ} {P : σ → Prop} {s : σ} {as : List α}
    (hstep : ∀ s, ∀ a ∈ as, P s → P (step s a)) (hs : P s) : P (as.foldl step s) := by
  induction as generalizing s with
  | nil => exact hs
  | cons a as ih =>
    exact ih (fun t b hb => hstep t b (List.mem_cons_of_mem _ hb))
      (hstep s a List.mem_cons_self hs)

theorem foldlM_keeps {step : σ → α → Option σ} {P : σ → Prop}
    (hstep : ∀ s a s', P s → step s a = some s' → P s') {s s' : σ} {as : List α} (hs : P s)
    (h : as.foldlM step s = some s') : P s' := by
  induction as generalizing s with
  | nil =>
    obtain rfl := Option.some.inj h
    exact hs
  | cons a as ih =>
    rw [List.foldlM_cons] at h
    obtain ⟨t, ht, h⟩ := Option.bind_eq_some_iff.mp h
    exact ih (hstep s a t hs ht) h

/-- What the turn of one element brings about and every turn keeps holds after the loop. -/
theorem foldl_establishes {step : σ → α → σ} {P Q : σ → Prop} (hP : ∀ s b, P s → P (step s b))
    (hQ : ∀ s b, P s → Q s → Q (step s b)) {a : α} (hturn : ∀ s, P s → Q (step s a)) {s : σ}
    (hs : P s) {as : List α} (ha : a ∈ as) : Q (as.foldl step s) := by
  induction as generalizing s with
  | nil => cases ha
  | cons b as ih =>
    rcases List.mem_cons.mp ha with rfl | ha
    · exact (foldl_keeps (P := fun t => P t ∧ Q t) (fun t c ht => ⟨hP t c ht.1, hQ t c ht.1 ht.2⟩)
        ⟨hP s a hs, hturn s hs⟩ as).2
    · exact ih (hP s b hs) ha

theorem foldlM_establishes {step : σ → α → Option σ} {P Q : σ → Prop}
    (hP : ∀ s b s', P s → step s b = some s' → P s')
    (hQ : ∀ s b s', P s → Q s → step s b = some s' → Q s') {a : α}
    (hturn : ∀ s s', P s → step s a = some s' → Q s') {s s' : σ} (hs : P s) {as : List α}
    (ha : a ∈ as) (h : as.foldlM step s = some s') : Q s' := by
  induction as generalizing s with
  | nil => cases ha
  | cons b as ih =>
    rw [List.foldlM_cons] at h
    obtain ⟨t, ht, hrest⟩ := Option.bind_eq_some_iff.mp h
    rcases List.mem_cons.mp ha with rfl | ha
    · have hboth : P s' ∧ Q s' := foldlM_keeps (P := fun t => P t ∧ Q t)
        (fun u c u' hu hstep => ⟨hP u c u' hu.1 hstep, hQ u c u' hu.1 hu.2 hstep⟩)
        ⟨hP s a t hs ht, hturn s t hs ht⟩ hrest
      exact hboth.2
    · exact ih (hP s b t hs ht) ha hrest

theorem foldlM_stays {step : σ → α → Option σ} {s : σ} {as : List α}
    (h : ∀ a ∈ as, step s a = some s) : as.foldlM step s = some s := by
  induction as with
  | nil => rfl
  | cons a as ih =>
    rw [List.foldlM_cons, h a List.mem_cons_self]
    exact ih fun b hb => h b (List.mem_cons_of_mem _ hb)

/-- A loop whose turns leave the state alone or do not return. -/
theorem foldlM_eq_some_of_stays {step : σ → α → Option σ} {p : α → Prop}
    (h : ∀ s a s', step s a = some s' ↔ p a ∧ s' = s) {s s' : σ} {as : List α} :
    as.foldlM step s = some s' ↔ (∀ a ∈ as, p a) ∧ s' = s := by
  induction as generalizing s with
  | nil => simp [eq_comm]
  | cons a as ih =>
    rw [List.foldlM_cons]
    show (step s a).bind _ = some s' ↔ _
    simp only [Option.bind_eq_some_iff, h, ih, List.forall_mem_cons]
    constructor
    · rintro ⟨t, ⟨ha, rfl⟩, has, rfl⟩
      exact ⟨⟨ha, has⟩, rfl⟩
    · rintro ⟨⟨ha, has⟩, rfl⟩
      exact ⟨s', ⟨ha, rfl⟩, has, rfl⟩

theorem foldlM_returns {step : σ → α → Option σ} (h : ∀ s a, ∃ s', step s a = some s') (s : σ)
    (as : List α) : ∃ s', as.foldlM step s = some s' := by
  induction as generalizing s with
  | nil => exact ⟨s, rfl⟩
  | cons a as ih =>
    obtain ⟨t, ht⟩ := h s a
    rw [List.foldlM_cons, ht]
    exact ih t

theorem foldlM_returns_keeping {step : σ → α → Option σ} {P : σ → Prop}
    (h : ∀ s a, P s → ∃ s', step s a = some s' ∧ P s') {s : σ} (hs : P s) (as : List α) :
    ∃ s', as.foldlM step s = some s' ∧ P s' := by
  induction as generalizing s with
  | nil => exact ⟨s, rfl, hs⟩
  | cons a as ih =>
    obtain ⟨t, ht, hpt⟩ := h s a hs
    rw [List.foldlM_cons, ht]
    exact ih hpt

theorem foldlM_map {τ : Type} {step : σ → α → Option σ} {step' : τ → α → Option τ} {f : σ → τ}
    (h : ∀ s a, (step s a).map f = step' (f s) a) (s : σ) (as : List α) :
    (as.foldlM step s).map f = as.foldlM step' (f s) := by
  induction as generalizing s with
  | nil => rfl
  | cons a as ih =>
    rw [List.foldlM_cons, List.foldlM_cons, ← h s a]
    cases step s a with
    | none => rfl
    | some t => exact ih t

/-- A loop whose turns are those of another one, as long as what they keep holds. -/
theorem foldlM_map_keeping {τ : Type} {step : σ → α → Option σ} {step' : τ → α → Option τ}
    {f : σ → τ} {P : σ → Prop} {as : List α}
    (h : ∀ s, ∀ a ∈ as, P s → (step s a).map f = step' (f s) a)
    (hP : ∀ s, ∀ a ∈ as, ∀ s', P s → step s a = some s' → P s') {s : σ} (hs : P s) :
    (as.foldlM step s).map f = as.foldlM step' (f s) := by
  induction as generalizing s with
  | nil => rfl
  | cons a as ih =>
    rw [List.foldlM_cons, List.foldlM_cons, ← h s a List.mem_cons_self hs]
    cases ha : step s a with
    | none => rfl
    | some t =>
      exact ih (fun u b hb => h u b (List.mem_cons_of_mem a hb))
        (fun u b hb => hP u b (List.mem_cons_of_mem a hb)) (hP s a List.mem_cons_self t hs ha)

/-! ## Turns that each see one key -/

/-- Each turn changes what is seen at its own key only, and from that alone. -/
theorem foldl_pointwise {κ β : Type} [DecidableEq κ] {turn : σ → κ → σ} {P : σ → Prop}
    {see : σ → κ → β} {upd : κ → β → β} (hP : ∀ s k, P s → P (turn s k))
    (hturn : ∀ s k j, P s → see (turn s k) j = if j = k then upd k (see s k) else see s j) {s : σ}
    (hs : P s) {ks : List κ} (hnodup : ks.Nodup) (j : κ) :
    see (ks.foldl turn s) j = if j ∈ ks then upd j (see s j) else see s j := by
  induction ks generalizing s with
  | nil => rfl
  | cons k ks ih =>
    obtain ⟨hk, hnodup⟩ := List.nodup_cons.mp hnodup
    rw [List.foldl_cons, ih (hP s k hs) hnodup, hturn s k j hs]
    by_cases hj : j = k
    · subst hj
      rw [if_neg hk, if_pos rfl, if_pos List.mem_cons_self]
    · rw [if_neg hj]
      simp only [List.mem_cons, hj, false_or]

theorem foldlM_pointwise {κ β : Type} [DecidableEq κ] {turn : σ → κ → Option σ} {P : σ → Prop}
    {see : σ → κ → β} {upd : κ → β → β} (hP : ∀ s k s', P s → turn s k = some s' → P s')
    (hturn : ∀ s k s' j, P s → turn s k = some s' →
      see s' j = if j = k then upd k (see s k) else see s j) {s s' : σ}
    (hs : P s) {ks : List κ} (hnodup : ks.Nodup) (h : ks.foldlM turn s = some s') (j : κ) :
    see s' j = if j ∈ ks then upd j (see s j) else see s j := by
  induction ks generalizing s with
  | nil => exact Option.some.inj h ▸ rfl
  | cons k ks ih =>
    obtain ⟨hk, hnodup⟩ := List.nodup_cons.mp hnodup
    rw [List.foldlM_cons] at h
    obtain ⟨t, ht, h⟩ := Option.bind_eq_some_iff.mp h
    rw [ih (hP s k t hs ht) hnodup h, hturn s k t j hs ht]
    by_cases hj : j = k
    · subst hj
      rw [if_neg hk, if_pos rfl, if_pos List.mem_cons_self]
    · rw [if_neg hj]
      simp only [List.mem_cons, hj, false_or]

/-- The turn of `a` is made in the state `t`. -/
def Turn (step : σ → α → Option σ) (s : σ) (as : List α) (t : σ) (a : α) : Prop :=
  ∃ before after, as = before ++ a :: after ∧ before.foldlM step s = some t

theorem Turn.head {step : σ → α → Option σ} {s : σ} {a : α} {as : List α} :
    Turn step s (a :: as) s a := ⟨[], as, rfl, rfl⟩

theorem Turn.tail {step : σ → α → Option σ} {s s' t : σ} {a b : α} {as : List α}
    (hs : step s a = some s') (h : Turn step s' as t b) : Turn step s (a :: as) t b := by
  obtain ⟨before, after, rfl, ht⟩ := h
  refine ⟨a :: before, after, rfl, ?_⟩
  rw [List.foldlM_cons, hs]
  exact ht

theorem Turn.split {step : σ → α → Option σ} {s s' t : σ} {a : α} {as : List α}
    (h : Turn step s as t a) (hall : as.foldlM step s = some s') :
    ∃ t', ∃ after : List α, step t a = some t' ∧ after.foldlM step t' = some s' := by
  obtain ⟨before, after, rfl, ht⟩ := h
  rw [List.foldlM_append, ht, Option.bind_eq_bind, Option.bind_some, List.foldlM_cons] at hall
  obtain ⟨t', ht', hall⟩ := Option.bind_eq_some_iff.mp hall
  exact ⟨t', after, ht', hall⟩

theorem foldlM_keeps_turns {step : σ → α → Option σ} {P : σ → Prop} {s s' : σ} {as : List α}
    (hstep : ∀ t a t', Turn step s as t a → P t → step t a = some t' → P t') (hs : P s)
    (h : as.foldlM step s = some s') : P s' := by
  induction as generalizing s with
  | nil =>
    obtain rfl := Option.some.inj h
    exact hs
  | cons a as ih =>
    rw [List.foldlM_cons] at h
    obtain ⟨t, ht, h⟩ := Option.bind_eq_some_iff.mp h
    exact ih (fun u b u' hu => hstep u b u' (hu.tail ht)) (hstep s a t .head hs ht) h

theorem foldlM_turn_returns {step : σ → α → Option σ} {P : σ → Prop}
    (hstep : ∀ s a s', P s → step s a = some s' → P s') {s s' : σ} {as : List α} (hs : P s)
    (h : as.foldlM step s = some s') {a : α} (ha : a ∈ as) : ∃ t t', P t ∧ step t a = some t' := by
  induction as generalizing s with
  | nil => cases ha
  | cons b as ih =>
    rw [List.foldlM_cons] at h
    obtain ⟨t, ht, h⟩ := Option.bind_eq_some_iff.mp h
    rcases List.mem_cons.mp ha with rfl | ha
    · exact ⟨s, t, hs, ht⟩
    · exact ih (hstep s b t hs ht) h ha

end Loop
