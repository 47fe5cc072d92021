import AgentsAtScale.Transaction.Basic
import AgentsAtScale.Program.Transition
import Mathlib.Logic.Function.Basic

/-! Transactions side by side.  Every transaction works on row versions of its
own until it commits; row locks last until it ends. -/

namespace AgentsAtScale.Transaction

open Program Transition

section

variable {S K : Type} {R : K → Type} {ι : Type} [RowStore S K R ι]

open RowStore

def image (writes : List (Sigma R)) (s : S) : S :=
  writes.foldr (fun w s => store s w.1 w.2) s

def RowOp.locks (s : S) : RowOp K R ι → Option K
  | .lock k => (fetch s k).map fun _ => k
  | .write k _ => (fetch s k).map fun _ => k
  | .read _ | .insert _ => none

def RowOp.key : RowOp K R ι → Option K
  | .read k => some k
  | .lock k => some k
  | .write k _ => some k
  | .insert _ => none

theorem fetch_image_congr {s s' : S} {k : K} (h : fetch s k = fetch s' k) (writes : List (Sigma R)) :
    fetch (image writes s) k = fetch (image writes s') k := by
  induction writes with
  | nil => exact h
  | cons w writes ih =>
    simp only [image, List.foldr_cons] at ih ⊢
    by_cases hk : k = w.1
    · subst hk
      rw [fetch_store_self, fetch_store_self, ih]
    · rw [fetch_store_of_ne _ _ _ _ hk, fetch_store_of_ne _ _ _ _ hk, ih]

theorem fetch_image_of_forall_ne (s : S) {k : K} {writes : List (Sigma R)}
    (h : ∀ w ∈ writes, w.1 ≠ k) : fetch (image writes s) k = fetch s k := by
  induction writes with
  | nil => rfl
  | cons w writes ih =>
    simp only [image, List.foldr_cons] at ih ⊢
    rw [fetch_store_of_ne _ _ _ _ (h w (by simp)).symm]
    apply ih
    intro w' hw'
    exact h w' (by simp [hw'])

theorem fetch_image_eq_none (s : S) (k : K) (writes : List (Sigma R)) :
    fetch (image writes s) k = none ↔ fetch s k = none := by
  induction writes with
  | nil => rfl
  | cons w writes ih =>
    simp only [image, List.foldr_cons] at ih ⊢
    by_cases hk : k = w.1
    · subst hk
      rw [fetch_store_self, Option.map_eq_none_iff, ih]
    · rw [fetch_store_of_ne _ _ _ _ hk, ih]

theorem fetch_foldl_record (s : S) (is : List ι) (k : K) : fetch (is.foldl record s) k = fetch s k := by
  induction is generalizing s with
  | nil => rfl
  | cons i is ih => rw [List.foldl_cons, ih, fetch_record]

theorem store_foldl_record (s : S) (is : List ι) (k : K) (r : R k) :
    store (is.foldl record s) k r = is.foldl record (store s k r) := by
  induction is generalizing s with
  | nil => rfl
  | cons i is ih => rw [List.foldl_cons, List.foldl_cons, ih, store_record]

end

/-- A transaction under way: the rest of its program, its row versions (newest
first), its inserted rows (oldest first) and what its plain reads returned
(newest first). -/
structure Active (K : Type) (R : K → Type) (ι ε α : Type) where
  rest : RowProg K R ι (Except ε α)
  writes : List (Sigma R) := []
  inserts : List ι := []
  reads : List (Sigma fun k => Option (R k)) := []

structure Sys (Tid S K : Type) (R : K → Type) (ι ε α : Type) where
  committed : S
  active : Tid → Option (Active K R ι ε α)
  owner : K → Option Tid
  history : List (Tid × α)

inductive Act (Tid : Type)
  | begin (t : Tid)
  | exec (t : Tid)
  | commit (t : Tid)
  | abort (t : Tid)

section

variable {Tid S K : Type} {R : K → Type} {ι ε α : Type} [RowStore S K R ι]
  [DecidableEq Tid] [DecidableEq K]

open RowStore

def Active.publish (x : Active K R ι ε α) (s : S) : S :=
  x.inserts.foldl record (image x.writes s)

def Active.advance (x : Active K R ι ε α) (s : S) : Active K R ι ε α :=
  match x.rest with
  | .ret _ => x
  | .op (.read k) f =>
    { x with
      rest := f (fetch (image x.writes s) k)
      reads := ⟨k, fetch (image x.writes s) k⟩ :: x.reads }
  | .op (.lock k) f => { x with rest := f (fetch (image x.writes s) k) }
  | .op (.write k r) f => { x with rest := f (), writes := ⟨k, r⟩ :: x.writes }
  | .op (.insert i) f => { x with rest := f (), inserts := x.inserts ++ [i] }

omit [DecidableEq Tid] [DecidableEq K] in
theorem Active.fetch_publish (x : Active K R ι ε α) (s : S) (k : K) :
    fetch (x.publish s) k = fetch (image x.writes s) k := fetch_foldl_record _ _ _

namespace Sys

def start (s : S) : Sys Tid S K R ι ε α where
  committed := s
  active _ := none
  owner _ := none
  history := []

def release (s : Sys Tid S K R ι ε α) (t : Tid) : Sys Tid S K R ι ε α :=
  { s with
    active := Function.update s.active t none
    owner := fun k => if s.owner k = some t then none else s.owner k }

/-- `exec` is not enabled while another transaction owns the row it has to lock. -/
def step (prog : Tid → Tx K R ι ε α) (s : Sys Tid S K R ι ε α) :
    Act Tid → Option (Sys Tid S K R ι ε α)
  | .begin t =>
    match s.active t with
    | none => some { s with active := Function.update s.active t (some { rest := (prog t).run }) }
    | some _ => none
  | .exec t =>
    match s.active t with
    | none => none
    | some x =>
      match x.rest with
      | .ret _ => none
      | .op o _ =>
        let s' := { s with active := Function.update s.active t (some (x.advance s.committed)) }
        match o.locks (image x.writes s.committed) with
        | none => some s'
        | some k =>
          if s.owner k = none ∨ s.owner k = some t then
            some { s' with owner := Function.update s.owner k (some t) }
          else none
  | .commit t =>
    match s.active t with
    | some x =>
      match x.rest with
      | .ret (.ok a) =>
        some { s.release t with
          committed := x.publish s.committed
          history := s.history ++ [(t, a)] }
      | _ => none
    | none => none
  | .abort t =>
    match s.active t with
    | some _ => some (s.release t)
    | none => none

variable {prog : Tid → Tx K R ι ε α} {s s' : Sys Tid S K R ι ε α} {t : Tid}

theorem step_begin (hs : s.step prog (.begin t) = some s') :
    s.active t = none ∧
      s' = { s with active := Function.update s.active t (some { rest := (prog t).run }) } := by
  simp only [step] at hs
  split at hs
  · rename_i hnone
    cases hs
    exact ⟨hnone, rfl⟩
  · cases hs

theorem step_abort (hs : s.step prog (.abort t) = some s') : s' = s.release t := by
  simp only [step] at hs
  split at hs
  · cases hs
    rfl
  · cases hs

omit [RowStore S K R ι] [DecidableEq K] in
theorem active_release {u : Tid} {x : Active K R ι ε α} (h : (s.release t).active u = some x) :
    u ≠ t ∧ s.active u = some x := by
  have hu : u ≠ t := by
    rintro rfl
    simp [release] at h
  exact ⟨hu, by simpa [release, hu] using h⟩

theorem step_exec (hs : s.step prog (.exec t) = some s') :
    ∃ x o f, s.active t = some x ∧ x.rest = .op o f ∧ s'.committed = s.committed ∧
      s'.history = s.history ∧
      s'.active = Function.update s.active t (some (x.advance s.committed)) ∧
      (∀ u k, s.owner k = some u → s'.owner k = some u) ∧
      (∀ u k, u ≠ t → s'.owner k = some u → s.owner k = some u) ∧
      ((∀ k, o ≠ .read k) → ∀ k, o.key = some k →
        s'.owner k = some t ∨ fetch s.committed k = none) := by
  simp only [step] at hs
  split at hs
  · cases hs
  · rename_i x hx
    split at hs
    · cases hs
    · rename_i o f hrest
      refine ⟨x, o, f, hx, hrest, ?_⟩
      split at hs
      · rename_i hlocks
        cases hs
        refine ⟨rfl, rfl, rfl, fun _ _ h => h, fun _ _ _ h => h, ?_⟩
        intro hread k hk
        right
        rw [← fetch_image_eq_none s.committed k x.writes]
        cases o with
        | read k' => exact absurd rfl (hread k')
        | lock k' => cases hk; simpa [RowOp.locks] using hlocks
        | write k' r => cases hk; simpa [RowOp.locks] using hlocks
        | insert i => cases hk
      · rename_i k₀ hlocks
        split at hs
        · rename_i hfree
          cases hs
          refine ⟨rfl, rfl, rfl, ?_, ?_, ?_⟩
          · intro u k hk
            by_cases h : k = k₀
            · subst h
              rcases hfree with hn | ht
              · rw [hn] at hk; cases hk
              · simp [← hk, ht]
            · simpa [h] using hk
          · intro u k hu hk
            by_cases h : k = k₀
            · subst h
              simp only [Function.update_self, Option.some.injEq] at hk
              exact absurd hk.symm hu
            · simpa [h] using hk
          · intro hread k hk
            left
            have hkey : o.key = some k₀ := by
              cases o with
              | lock k' =>
                simp only [RowOp.locks, Option.map_eq_some_iff] at hlocks
                obtain ⟨_, _, rfl⟩ := hlocks
                rfl
              | write k' r =>
                simp only [RowOp.locks, Option.map_eq_some_iff] at hlocks
                obtain ⟨_, _, rfl⟩ := hlocks
                rfl
              | read k' => cases hlocks
              | insert i => cases hlocks
            rw [hkey] at hk
            cases hk
            simp
        · cases hs

theorem step_commit (hs : s.step prog (.commit t) = some s') :
    ∃ x a, s.active t = some x ∧ x.rest = .ret (.ok a) ∧
      s' = { s.release t with
        committed := x.publish s.committed
        history := s.history ++ [(t, a)] } := by
  simp only [step] at hs
  split at hs
  · rename_i x hx
    split at hs
    · rename_i a hrest
      cases hs
      exact ⟨x, a, hx, hrest, rfl⟩
    · cases hs
  · cases hs

end Sys

end

end AgentsAtScale.Transaction
