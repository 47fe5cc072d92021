import Mathlib.Algebra.BigOperators.Group.List.Lemmas
import Mathlib.Algebra.Ring.Nat
import Mathlib.Data.List.Dedup
import Mathlib.Data.List.Induction

namespace AgentsAtScale.Data

section

variable {α κ : Type} [DecidableEq κ] (key : α → κ)

/-- The elements whose key no earlier element has. -/
def firsts : List α → List α
  | [] => []
  | a :: l => a :: (firsts l).filter (key · ≠ key a)

def alike (l : List α) (a : α) : List α := l.filter (key · = key a)

variable {key} {l : List α} {a b : α}

theorem mem_of_mem_firsts (h : a ∈ firsts key l) : a ∈ l := by
  induction l with
  | nil => exact h
  | cons b l ih =>
    obtain rfl | h := List.mem_cons.mp h
    · exact List.mem_cons_self
    · exact List.mem_cons_of_mem _ (ih (List.mem_of_mem_filter h))

theorem firsts_concat_of_not_mem (h : key a ∉ l.map key) :
    firsts key (l ++ [a]) = firsts key l ++ [a] := by
  induction l with
  | nil => rfl
  | cons b l ih =>
    rw [List.map_cons, List.mem_cons, not_or] at h
    rw [List.cons_append, firsts, firsts, ih h.2, List.filter_append]
    simp [h.1]

theorem firsts_concat_of_mem (h : key a ∈ l.map key) : firsts key (l ++ [a]) = firsts key l := by
  induction l with
  | nil => cases h
  | cons b l ih =>
    rw [List.cons_append, firsts, firsts]
    by_cases hmem : key a ∈ l.map key
    · rw [ih hmem]
    · have hkey : key a = key b := (List.mem_cons.mp h).resolve_right hmem
      rw [firsts_concat_of_not_mem hmem, List.filter_append]
      simp [hkey]

theorem keys_firsts (l : List α) : (firsts key l).map key = (l.map key).eraseDups := by
  induction l using List.reverseRecOn with
  | nil => rfl
  | append_singleton l a ih =>
    rw [List.map_append, List.eraseDups_append, ← ih, List.map_singleton, List.removeAll]
    by_cases hmem : key a ∈ l.map key
    · rw [firsts_concat_of_mem hmem, List.filter_cons_of_neg (by simpa using hmem), List.filter_nil,
        List.eraseDups_nil, List.append_nil]
    · rw [firsts_concat_of_not_mem hmem, List.filter_cons_of_pos (by simpa using hmem),
        List.map_append]
      rfl

theorem mem_keys_firsts {k : κ} : k ∈ (firsts key l).map key ↔ k ∈ l.map key := by
  rw [keys_firsts, List.mem_eraseDups]

theorem nodup_keys_firsts (l : List α) : ((firsts key l).map key).Nodup := by
  induction l with
  | nil => exact List.nodup_nil
  | cons a l ih =>
    refine List.nodup_cons.mpr ⟨?_, ih.sublist (List.filter_sublist.map key)⟩
    intro hmem
    obtain ⟨b, hb, hkey⟩ := List.mem_map.mp hmem
    exact of_decide_eq_true (List.mem_filter.mp hb).2 hkey

theorem find?_of_mem_firsts (h : a ∈ firsts key l) : l.find? (key · = key a) = some a := by
  induction l with
  | nil => cases h
  | cons b l ih =>
    obtain rfl | h := List.mem_cons.mp h
    · exact List.find?_cons_of_pos (decide_eq_true rfl)
    · obtain ⟨hmem, hkey⟩ := List.mem_filter.mp h
      rw [List.find?_cons_of_neg, ih hmem]
      exact fun heq => of_decide_eq_true hkey (of_decide_eq_true heq).symm

theorem alike_concat (l : List α) (a b : α) :
    alike key (l ++ [b]) a = if key b = key a then alike key l a ++ [b] else alike key l a := by
  rw [alike, List.filter_append, List.filter_singleton]
  split <;> simp [alike, *]

theorem alike_eq_nil (h : key a ∉ l.map key) : alike key l a = [] := by
  rw [alike, List.filter_eq_nil_iff]
  intro b hb hkey
  exact h (of_decide_eq_true hkey ▸ List.mem_map_of_mem hb)

theorem sum_length_alike (l : List α) :
    ((firsts key l).map fun a => (alike key l a).length).sum = l.length := by
  have hcount : ∀ a, (alike key l a).length = (l.map key).count (key a) := by
    intro a
    rw [alike, ← List.countP_eq_length_filter, List.count, List.countP_map]
    rfl
  have hperm : ((firsts key l).map key).Perm (l.map key).dedup := by
    rw [List.perm_ext_iff_of_nodup (nodup_keys_firsts l) (List.nodup_dedup _)]
    intro k
    rw [mem_keys_firsts, List.mem_dedup]
  calc ((firsts key l).map fun a => (alike key l a).length).sum
      = (((firsts key l).map key).map fun k => (l.map key).count k).sum := by
        rw [List.map_map]
        exact congrArg List.sum (List.map_congr_left fun a _ => hcount a)
    _ = ((l.map key).dedup.map fun k => (l.map key).count k).sum := (hperm.map _).sum_eq
    _ = (l.map key).length := List.sum_map_count_dedup_eq_length _
    _ = l.length := List.length_map _

end

end AgentsAtScale.Data
