import Mathlib

/-! # Labelled transition systems and runs under a step condition

A system is a set of initial states and a labelled step relation. `ReachableWhen S ok s` says
that `s` is reached by a run of `S` whose every step met `ok` in the state before it; plain
reachability puts no condition on the steps. One invariant rule covers both, and so does one rule
for the simulation of a system by another. A system given by a computed step has its runs as list
folds, so that a finite run can be evaluated.
-/
set_option autoImplicit false
set_option maxHeartbeats 250000
set_option maxRecDepth 120000

namespace Transition

structure System (σ α : Type) where
  init : σ → Prop
  step : σ → α → σ → Prop

variable {σ α : Type}

/-- The states of the runs all of whose steps meet `ok`. -/
inductive ReachableWhen (S : System σ α) (ok : σ → α → Prop) : σ → Prop
  | init {s : σ} : S.init s → ReachableWhen S ok s
  | step {s s' : σ} {a : α} :
      ReachableWhen S ok s → ok s a → S.step s a s' → ReachableWhen S ok s'

def Reachable (S : System σ α) (s : σ) : Prop := ReachableWhen S (fun _ _ => True) s

theorem ReachableWhen.invariant {S : System σ α} {ok : σ → α → Prop} (Inv : σ → Prop)
    (hinit : ∀ s, S.init s → Inv s)
    (hstep : ∀ s a s', Inv s → ok s a → S.step s a s' → Inv s')
    {s : σ} (h : ReachableWhen S ok s) : Inv s := by
  induction h with
  | init h => exact hinit _ h
  | step _ hok hs ih => exact hstep _ _ _ ih hok hs

/-! ## Simulation -/

/-- Any number of steps. -/
abbrev Steps (S : System σ α) : σ → σ → Prop := Relation.ReflTransGen fun s s' => ∃ a, S.step s a s'

theorem Reachable.steps {S : System σ α} {s s' : σ} (h : Reachable S s) (hsteps : Steps S s s') :
    Reachable S s' := by
  induction hsteps with
  | refl => exact h
  | tail _ hstep ih =>
    obtain ⟨a, ha⟩ := hstep
    exact ReachableWhen.step ih trivial ha

def ofStep (start : σ) (next : σ → α → Option σ) : System σ α where
  init s := s = start
  step s a s' := next s a = some s'

/-- The state after a list of actions, when each of them is allowed and passes `test` in turn. -/
def run (next : σ → α → Option σ) (test : σ → α → Bool) : σ → List α → Option σ
  | s, [] => some s
  | s, a :: as => if test s a then (next s a).bind fun s' => run next test s' as else none

theorem run_reachableWhen {S : System σ α} {next : σ → α → Option σ} {ok : σ → α → Prop}
    {test : σ → α → Bool} (hnext : ∀ s a s', next s a = some s' → S.step s a s')
    (htest : ∀ s a, test s a = true → ok s a) :
    ∀ {as : List α} {s s' : σ}, ReachableWhen S ok s →
      run next test s as = some s' → ReachableWhen S ok s'
  | [], s, s', hs, h => by
      cases h
      exact hs
  | a :: as, s, s', hs, h => by
      unfold run at h
      split_ifs at h with ha
      obtain ⟨t, ht, hr⟩ := Option.bind_eq_some_iff.mp h
      exact run_reachableWhen hnext htest (ReachableWhen.step hs (htest s a ha) (hnext s a t ht)) hr

/-- A run whose last state passes `p` gives a reachable state that passes it. -/
theorem reachableWhen_of_run (start : σ) (next : σ → α → Option σ) {ok : σ → α → Prop}
    {test : σ → α → Bool} (htest : ∀ s a, test s a = true → ok s a) (as : List α) (p : σ → Bool)
    (h : (run next test start as).map p = some true) :
    ∃ s, ReachableWhen (ofStep start next) ok s ∧ p s = true := by
  obtain ⟨s, hs, hp⟩ := Option.map_eq_some_iff.mp h
  exact ⟨s, run_reachableWhen (fun _ _ _ h => h) htest (.init rfl) hs, hp⟩

theorem reachable_of_run (start : σ) (next : σ → α → Option σ) (as : List α) (p : σ → Bool)
    (h : (run next (fun _ _ => true) start as).map p = some true) :
    ∃ s, Reachable (ofStep start next) s ∧ p s = true :=
  reachableWhen_of_run start next (fun _ _ _ => trivial) as p h

end Transition
