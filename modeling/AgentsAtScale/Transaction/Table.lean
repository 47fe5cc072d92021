import Mathlib.Algebra.BigOperators.Group.Finset.Basic
import Mathlib.Algebra.BigOperators.Group.Finset.Piecewise

open scoped BigOperators

namespace AgentsAtScale.Transaction

/-- A finite table.  One row at most per key holds by construction. -/
structure Table (κ ρ : Type) where
  keys : Finset κ
  row : κ → Option ρ
  mem_keys : ∀ k, k ∈ keys ↔ (row k).isSome

namespace Table

variable {κ ρ : Type} [DecidableEq κ]

def update (t : Table κ ρ) (k : κ) (r : ρ) : Table κ ρ where
  keys := t.keys
  row k' := if k' = k then (t.row k).map fun _ => r else t.row k'
  mem_keys k' := by
    rw [t.mem_keys]
    split
    · subst k'; simp
    · rfl

def ofList (rows : List (κ × ρ)) : Table κ ρ where
  keys := (rows.map Prod.fst).toFinset
  row k := (rows.find? fun r => r.1 = k).map Prod.snd
  mem_keys k := by
    simp only [List.mem_toFinset, List.mem_map, Option.isSome_map, List.find?_isSome, decide_eq_true_eq]

@[simp] theorem keys_update (t : Table κ ρ) (k : κ) (r : ρ) : (t.update k r).keys = t.keys := rfl

@[simp] theorem row_update_self (t : Table κ ρ) (k : κ) (r : ρ) :
    (t.update k r).row k = (t.row k).map fun _ => r := by simp [update]

theorem row_update_of_ne (t : Table κ ρ) {k k' : κ} (h : k' ≠ k) (r : ρ) :
    (t.update k r).row k' = t.row k' := by simp [update, h]

def modify (t : Table κ ρ) (k : κ) (g : ρ → ρ) : Table κ ρ :=
  match t.row k with
  | none => t
  | some r => t.update k (g r)

theorem modify_of_some {t : Table κ ρ} {k : κ} {r : ρ} (h : t.row k = some r) (g : ρ → ρ) :
    t.modify k g = t.update k (g r) := by simp [modify, h]

theorem row_modify (t : Table κ ρ) (k k' : κ) (g : ρ → ρ) :
    (t.modify k g).row k' = (t.row k').map fun r => if k' = k then g r else r := by
  by_cases hk : k' = k
  · subst k'
    cases h : t.row k with
    | none => simp [modify, h]
    | some r => simp [modify, h]
  · cases h : t.row k with
    | none => simp [modify, h, hk]
    | some r => simp [modify, h, hk, row_update_of_ne]

def sum {M : Type} [AddCommMonoid M] (t : Table κ ρ) (f : κ → ρ → M) : M :=
  ∑ k ∈ t.keys, (t.row k).elim 0 (f k)

theorem sum_update {M : Type} [AddCommMonoid M] {t : Table κ ρ} {k : κ} {r₀ : ρ}
    (h : t.row k = some r₀) (r : ρ) (f : κ → ρ → M) :
    (t.update k r).sum f + f k r₀ = t.sum f + f k r := by
  have hk : k ∈ t.keys := by simp [t.mem_keys, h]
  have rest : ∑ x ∈ t.keys.erase k, ((t.update k r).row x).elim 0 (f x) =
      ∑ x ∈ t.keys.erase k, (t.row x).elim 0 (f x) := by
    apply Finset.sum_congr rfl
    intro x hx
    rw [row_update_of_ne t (Finset.ne_of_mem_erase hx)]
  unfold sum
  rw [keys_update, ← Finset.add_sum_erase _ _ hk, ← Finset.add_sum_erase _ _ hk, rest,
    row_update_self, h]
  simp only [Option.map_some, Option.elim_some]
  exact add_right_comm _ _ _ |>.trans (by rw [add_comm (f k r), add_right_comm])

theorem sum_modify {M : Type} [AddCommMonoid M] {t : Table κ ρ} {k : κ} {r : ρ}
    (h : t.row k = some r) (g : ρ → ρ) (f : κ → ρ → M) :
    (t.modify k g).sum f + f k r = t.sum f + f k (g r) := by
  rw [modify_of_some h]
  exact sum_update h _ f

theorem of_row_ofList {rows : List (κ × ρ)} {P : κ → ρ → Prop} (h : ∀ r ∈ rows, P r.1 r.2)
    {k : κ} {r : ρ} (hr : (ofList rows).row k = some r) : P k r := by
  simp only [ofList, Option.map_eq_some_iff] at hr
  obtain ⟨x, hx, rfl⟩ := hr
  have hk : x.1 = k := by simpa using List.find?_some hx
  rw [← hk]
  exact h x (List.mem_of_find?_eq_some hx)

def All (t : Table κ ρ) (P : κ → ρ → Prop) : Prop := ∀ k r, t.row k = some r → P k r

instance (t : Table κ ρ) (P : κ → ρ → Prop) [∀ k r, Decidable (P k r)] : Decidable (t.All P) :=
  decidable_of_iff (∀ k ∈ t.keys, (t.row k).all fun r => decide (P k r)) <| by
    constructor
    · intro h k r hr
      have hk : k ∈ t.keys := by simp [t.mem_keys, hr]
      simpa [hr] using h k hk
    · intro h k _
      cases hr : t.row k with
      | none => rfl
      | some r => simpa using h k r hr

end Table

end AgentsAtScale.Transaction
