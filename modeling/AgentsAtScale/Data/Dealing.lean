import Mathlib.Algebra.BigOperators.Group.List.Lemmas
import Mathlib.Data.Int.ModEq

namespace AgentsAtScale.Data

structure DealtTo (first : ℤ) (n k : ℕ) (i : ℤ) : Prop where
  first_le : first ≤ i
  emod_eq : (i - first) % n = k

namespace DealtTo

variable {first : ℤ} {n k k' : ℕ} {i j : ℤ}

theorem start (hk : k < n) : DealtTo first n k (first + k) where
  first_le := by omega
  emod_eq := by rw [add_sub_cancel_left, Int.emod_eq_of_lt (by omega) (by omega)]

theorem next (h : DealtTo first n k i) : DealtTo first n k (i + n) where
  first_le := h.first_le.trans (by omega)
  emod_eq := by rw [add_sub_right_comm, Int.add_emod_right, h.emod_eq]

theorem place_eq (h : DealtTo first n k i) (h' : DealtTo first n k' i) : k = k' :=
  Int.ofNat_inj.mp (h.emod_eq.symm.trans h'.emod_eq)

theorem exists_place (hn : 0 < n) (h : first ≤ i) : ∃ k < n, DealtTo first n k i := by
  have hpos : (0 : ℤ) < n := by omega
  have hnonneg := Int.emod_nonneg (i - first) hpos.ne'
  have hlt := Int.emod_lt_of_pos (i - first) hpos
  exact ⟨((i - first) % n).toNat, by omega, h, by omega⟩

theorem dvd_sub (h : DealtTo first n k i) (h' : DealtTo first n k j) : (n : ℤ) ∣ j - i := by
  have hsub := (Int.ModEq.dvd (h.emod_eq.trans h'.emod_eq.symm) : (n : ℤ) ∣ (j - first) - (i - first))
  rwa [sub_sub_sub_cancel_right] at hsub

theorem eq_of_lt_next (h : DealtTo first n k i) (h' : DealtTo first n k j) (hle : i ≤ j) (hlt : j < i + n) :
    j = i := by
  have hzero := Int.eq_zero_of_dvd_of_nonneg_of_lt (by omega) (by omega) (h.dvd_sub h')
  omega

theorem start_le (hk : k < n) (h : DealtTo first n k i) : first + k ≤ i := by
  by_contra hlt
  have heq := h.eq_of_lt_next (start hk) (by omega) (by have := h.first_le; omega)
  omega

end DealtTo

/-- How many of `total` things place `k` of `n` gets. -/
def share (total : ℤ) (n k : ℕ) : ℤ := total / n + if k < total % n then 1 else 0

theorem sum_ite_lt (n : ℕ) {r : ℤ} (hr : 0 ≤ r) :
    ((List.range n).map fun k : ℕ => if (k : ℤ) < r then (1 : ℤ) else 0).sum = min (n : ℤ) r := by
  induction n with
  | zero => simp [hr]
  | succ n ih =>
    rw [List.range_succ, List.map_append, List.sum_append, ih]
    by_cases hlt : (n : ℤ) < r <;> simp [hlt] <;> omega

theorem sum_share {n : ℕ} (hn : 0 < n) (total : ℤ) :
    ((List.range n).map (share total n)).sum = total := by
  have hpos : (0 : ℤ) < n := by omega
  have hmore := sum_ite_lt n (Int.emod_nonneg total hpos.ne')
  rw [min_eq_right (Int.emod_lt_of_pos total hpos).le] at hmore
  calc ((List.range n).map (share total n)).sum
      = ((List.range n).map fun _ => total / n).sum + total % n := by
        rw [← hmore, ← List.sum_map_add]
        rfl
    _ = n * (total / n) + total % n := by simp
    _ = total := Int.mul_ediv_add_emod total n

theorem share_le_succ (total : ℤ) (n k k' : ℕ) : share total n k ≤ share total n k' + 1 := by
  unfold share
  split <;> split <;> omega

end AgentsAtScale.Data
