import Mathlib.Logic.Basic

namespace AgentsAtScale.Transition

variable {σ α : Type} {step : σ → α → Option σ} {ok : σ → α → Prop}

/-- `Reach step ok s t`: some run of steps that all meet `ok` leads from `s` to `t`. -/
inductive Reach (step : σ → α → Option σ) (ok : σ → α → Prop) (s : σ) : σ → Prop
  | refl : Reach step ok s s
  | tail : Reach step ok s t → ok t a → step t a = some u → Reach step ok s u

abbrev Reaches (step : σ → α → Option σ) : σ → σ → Prop := Reach step fun _ _ => True

theorem Reach.trans {s t u : σ} (h : Reach step ok s t) (k : Reach step ok t u) :
    Reach step ok s u := by
  induction k with
  | refl => exact h
  | tail _ hok hstep ih => exact .tail ih hok hstep

theorem Reach.head {s t u : σ} {a : α} (hok : ok s a) (hstep : step s a = some t)
    (h : Reach step ok t u) : Reach step ok s u :=
  Reach.trans (.tail .refl hok hstep) h

theorem Reach.mono {ok' : σ → α → Prop} {s t : σ} (h : Reach step ok s t) (himp : ∀ s a, ok s a → ok' s a) :
    Reach step ok' s t := by
  induction h with
  | refl => exact .refl
  | tail _ hok hstep ih => exact .tail ih (himp _ _ hok) hstep

theorem Reach.invariant {I : σ → Prop} {s t : σ} (h : Reach step ok s t) (init : I s)
    (keep : ∀ s a t, I s → ok s a → step s a = some t → I t) : I t := by
  induction h with
  | refl => exact init
  | tail _ hok hstep ih => exact keep _ _ _ ih hok hstep

theorem Reach.simulate {σ' α' : Type} {step' : σ' → α' → Option σ'} {ok' : σ' → α' → Prop}
    {R : σ → σ' → Prop} {s t : σ} {s' : σ'} (h : Reach step ok s t) (init : R s s')
    (keep : ∀ s a t s', R s s' → ok s a → step s a = some t → ∃ t', Reach step' ok' s' t' ∧ R t t') :
    ∃ t', Reach step' ok' s' t' ∧ R t t' := by
  induction h with
  | refl => exact ⟨s', .refl, init⟩
  | tail _ hok hstep ih =>
    obtain ⟨u', hu', hR⟩ := ih
    obtain ⟨t', ht', hR'⟩ := keep _ _ _ u' hR hok hstep
    exact ⟨t', hu'.trans ht', hR'⟩

def run (step : σ → α → Option σ) (ok : σ → α → Prop) [∀ s a, Decidable (ok s a)] :
    σ → List α → Option σ
  | s, [] => some s
  | s, a :: as => if ok s a then (step s a).bind fun t => run step ok t as else none

theorem reach_of_run [∀ s a, Decidable (ok s a)] {s t : σ} {as : List α}
    (h : run step ok s as = some t) : Reach step ok s t := by
  induction as generalizing s with
  | nil => cases h; exact .refl
  | cons a as ih =>
    simp only [run] at h
    split at h
    · rename_i hok
      obtain ⟨u, hstep, hrun⟩ := Option.bind_eq_some_iff.mp h
      exact Reach.trans (.tail .refl hok hstep) (ih hrun)
    · cases h

theorem reach_of_any (step : σ → α → Option σ) (ok : σ → α → Prop) [∀ s a, Decidable (ok s a)]
    (s : σ) (as : List α) (p : σ → Bool) (h : (run step ok s as).any p = true) :
    ∃ t, Reach step ok s t ∧ p t = true := by
  cases hrun : run step ok s as with
  | none =>
    rw [hrun] at h
    cases h
  | some t =>
    rw [hrun] at h
    exact ⟨t, reach_of_run hrun, h⟩

end AgentsAtScale.Transition
