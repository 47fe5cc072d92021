import Mathlib.Data.List.Sort
import Mathlib.Order.Bounds.Defs

namespace AgentsAtScale.Data

section

variable {α : Type} [LinearOrder α] {l s : List α} {k : ℕ}

theorem lt_countP_getElem (hs : s.SortedLE) (hk : k < s.length) : k < s.countP (· ≤ s[k]) := by
  have hprefix : (s.take (k + 1)).countP (· ≤ s[k]) = k + 1 := by
    rw [List.countP_eq_length.mpr, List.length_take, min_eq_left hk]
    intro a ha
    obtain ⟨i, hi, rfl⟩ := List.mem_iff_getElem.mp ha
    rw [List.getElem_take, decide_eq_true_eq]
    rw [List.length_take] at hi
    exact hs.getElem_le_getElem_of_le (by omega)
  exact hprefix.ge.trans (List.take_sublist _ _).countP_le

theorem countP_le_of_lt_getElem (hs : s.SortedLE) (hk : k < s.length) {a : α} (ha : a < s[k]) :
    s.countP (· ≤ a) ≤ k := by
  have hsuffix : (s.drop k).countP (· ≤ a) = 0 := by
    rw [List.countP_eq_zero]
    intro b hb
    obtain ⟨i, hi, rfl⟩ := List.mem_iff_getElem.mp hb
    rw [List.getElem_drop, decide_eq_true_eq, not_le]
    exact ha.trans_le (hs.getElem_le_getElem_of_le (by omega))
  calc s.countP (· ≤ a) = (s.take k).countP (· ≤ a) + (s.drop k).countP (· ≤ a) := by
        rw [← List.countP_append, List.take_append_drop]
    _ = (s.take k).countP (· ≤ a) := by rw [hsuffix, Nat.add_zero]
    _ ≤ (s.take k).length := List.countP_le_length
    _ ≤ k := List.length_take_le k s

theorem isLeast_insertionSort (l : List α) (hk : k < (l.insertionSort (· ≤ ·)).length) :
    IsLeast {a | a ∈ l ∧ k < l.countP (· ≤ a)} (l.insertionSort (· ≤ ·))[k] := by
  have hperm := l.perm_insertionSort (· ≤ ·)
  have hs := l.sortedLE_insertionSort
  refine ⟨⟨hperm.mem_iff.mp (List.getElem_mem hk), ?_⟩, ?_⟩
  · rw [← hperm.countP_eq]
    exact lt_countP_getElem hs hk
  · rintro a ⟨-, ha⟩
    rw [← hperm.countP_eq] at ha
    exact le_of_not_gt fun hlt => (countP_le_of_lt_getElem hs hk hlt).not_gt ha

end

end AgentsAtScale.Data
