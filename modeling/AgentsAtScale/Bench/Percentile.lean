import Mathlib.Data.Rat.Floor
import Mathlib.Tactic.Linarith
import Mathlib.Tactic.NormNum
import AgentsAtScale.Data.OrderStatistics

/-! The percentiles that the benchmark reports, over integer samples and in exact
arithmetic. -/

namespace AgentsAtScale.Bench

open Data

def roundHalfEven (x : ℚ) : ℤ :=
  let whole := ⌊x⌋
  if x - whole < 1 / 2 then whole
  else if 1 / 2 < x - whole then whole + 1
  else if whole % 2 = 0 then whole
  else whole + 1

def roundTenth (x : ℚ) : ℚ := roundHalfEven (x * 10) / 10

def sorted (values : List ℤ) : List ℤ := values.insertionSort (· ≤ ·)

def rank (pct : ℚ) (n : ℕ) : ℤ := max 0 (min (n - 1) (roundHalfEven (pct / 100 * n + 1 / 2) - 1))

def percentile (values : List ℤ) (pct : ℚ) : Option ℤ :=
  if values = [] then none
  else
    let ordered := sorted values
    -- rounding an integer to one digit leaves it as it is
    ordered[(rank pct ordered.length).toNat]?

structure Dist where
  p50 : Option ℤ
  p95 : Option ℤ
  p99 : Option ℤ
  mean : Option ℚ
  max : Option ℤ

def dist (values : List ℤ) : Dist where
  p50 := percentile values 50
  p95 := percentile values 95
  p99 := percentile values 99
  mean := if values = [] then none else some (roundTenth (values.sum / values.length))
  max := values.max?

theorem roundHalfEven_intCast_add_half (m : ℤ) :
    roundHalfEven (m + 1 / 2) = if m % 2 = 0 then m else m + 1 := by
  have hfloor : ⌊(m : ℚ) + 1 / 2⌋ = m := by
    rw [Int.floor_eq_iff]
    constructor <;> linarith
  rw [roundHalfEven, hfloor, if_neg (by linarith), if_neg (by linarith)]

theorem roundHalfEven_add_half {x : ℚ} (hx : ∀ m : ℤ, x ≠ m) : roundHalfEven (x + 1 / 2) = ⌈x⌉ := by
  have hlt : x < ⌈x⌉ := lt_of_le_of_ne (Int.le_ceil x) (hx _)
  have hgt : ⌈x⌉ - 1 < x := sub_lt_iff_lt_add.mpr (Int.ceil_lt_add_one x)
  by_cases hhalf : x + 1 / 2 < ⌈x⌉
  · have hfloor : ⌊x + 1 / 2⌋ = ⌈x⌉ - 1 := by
      rw [Int.floor_eq_iff]
      push_cast
      constructor <;> linarith
    rw [roundHalfEven, hfloor]
    push_cast
    rw [if_neg (by linarith), if_pos (by linarith), sub_add_cancel]
  · have hfloor : ⌊x + 1 / 2⌋ = ⌈x⌉ := by
      rw [Int.floor_eq_iff]
      constructor <;> linarith
    rw [roundHalfEven, hfloor, if_pos (by linarith)]

section

variable {pct : ℚ} {n : ℕ}

theorem ceil_bounds (hn : 0 < n) (h0 : 0 < pct) (h100 : pct ≤ 100) :
    1 ≤ ⌈pct / 100 * n⌉ ∧ ⌈pct / 100 * n⌉ ≤ n := by
  have hn' : (0 : ℚ) < n := by exact_mod_cast hn
  constructor
  · exact Int.one_le_ceil_iff.mpr (by positivity)
  · rw [Int.ceil_le, Int.cast_natCast]
    exact mul_le_of_le_one_left hn'.le (by linarith)

theorem rank_eq_ceil_sub_one (hn : 0 < n) (h0 : 0 < pct) (h100 : pct ≤ 100)
    (h : ∀ m : ℤ, pct / 100 * n = m → m % 2 = 1 → m = n) : rank pct n = ⌈pct / 100 * n⌉ - 1 := by
  obtain ⟨hone, hle⟩ := ceil_bounds hn h0 h100
  rw [rank]
  by_cases hint : ∃ m : ℤ, pct / 100 * n = m
  · obtain ⟨m, hm⟩ := hint
    rw [hm, Int.ceil_intCast] at hone hle
    rw [hm, roundHalfEven_intCast_add_half, Int.ceil_intCast]
    split
    · omega
    · have hm := h m hm (by omega)
      omega
  · rw [roundHalfEven_add_half (not_exists.mp hint)]
    omega

theorem rank_of_odd {m : ℕ} (hm : pct / 100 * n = m) (hodd : m % 2 = 1) (hlt : m < n) : rank pct n = m := by
  have hround := roundHalfEven_intCast_add_half m
  rw [if_neg (by omega), Int.cast_natCast] at hround
  rw [rank, hm, hround]
  omega

end

/-- The value is the least sample that at least `pct` percent of the samples do not exceed. -/
def NearestRank (values : List ℤ) (pct : ℚ) : ℤ → Prop :=
  IsLeast {v | v ∈ values ∧ pct / 100 * values.length ≤ values.countP (· ≤ v)}

/-- The samples at an odd rank and after it, where the rank is an exact percentage, differ. -/
def Misplaced (values : List ℤ) (pct : ℚ) : Prop :=
  ∃ m : ℕ, m % 2 = 1 ∧ pct / 100 * values.length = m ∧ m < values.length ∧
    (sorted values)[m - 1]? ≠ (sorted values)[m]?

@[simp]
theorem length_sorted (values : List ℤ) : (sorted values).length = values.length :=
  List.length_insertionSort _ _

theorem percentile_of_ne_nil {values : List ℤ} (hne : values ≠ []) (pct : ℚ) :
    percentile values pct = (sorted values)[(rank pct values.length).toNat]? := by
  rw [percentile, if_neg hne, ← length_sorted]

section

variable {values : List ℤ} {pct : ℚ} (hne : values ≠ []) (h0 : 0 < pct) (h100 : pct ≤ 100)
include hne h0 h100

theorem nearestRank_iff {v : ℤ} : NearestRank values pct v ↔
    (sorted values)[(⌈pct / 100 * values.length⌉ - 1).toNat]? = some v := by
  obtain ⟨hone, hle⟩ := ceil_bounds (List.length_pos_iff.mpr hne) h0 h100
  have hk : (⌈pct / 100 * values.length⌉ - 1).toNat < (sorted values).length := by
    rw [length_sorted]
    omega
  have hleast := isLeast_insertionSort values hk
  have hset : {a | a ∈ values ∧ (⌈pct / 100 * values.length⌉ - 1).toNat < values.countP (· ≤ a)} =
      {v | v ∈ values ∧ pct / 100 * values.length ≤ values.countP (· ≤ v)} := by
    ext a
    have hceil := @Int.ceil_le ℚ _ _ _ (values.countP (· ≤ a)) (pct / 100 * values.length)
    rw [Int.cast_natCast] at hceil
    rw [Set.mem_ofPred_eq, Set.mem_ofPred_eq, ← hceil]
    exact and_congr_right fun _ => by omega
  rw [hset] at hleast
  rw [List.getElem?_eq_getElem hk, Option.some_inj, eq_comm]
  exact ⟨fun h => h.unique hleast, fun h => h ▸ hleast⟩

theorem percentile_nearestRank_iff_getElem :
    (∃ v, percentile values pct = some v ∧ NearestRank values pct v) ↔
      (sorted values)[(rank pct values.length).toNat]? =
        (sorted values)[(⌈pct / 100 * values.length⌉ - 1).toNat]? := by
  obtain ⟨hone, hle⟩ := ceil_bounds (List.length_pos_iff.mpr hne) h0 h100
  obtain ⟨v, hv⟩ : ∃ v, (sorted values)[(⌈pct / 100 * values.length⌉ - 1).toNat]? = some v := by
    rw [← Option.isSome_iff_exists, isSome_getElem?, length_sorted]
    omega
  simp only [nearestRank_iff hne h0 h100, percentile_of_ne_nil hne, hv, Option.some_inj]
  constructor
  · rintro ⟨_, h, rfl⟩
    exact h
  · exact fun h => ⟨v, h, rfl⟩

theorem getElem_rank_iff : (sorted values)[(rank pct values.length).toNat]? =
    (sorted values)[(⌈pct / 100 * values.length⌉ - 1).toNat]? ↔ ¬Misplaced values pct := by
  by_cases hodd : ∃ m : ℕ, m % 2 = 1 ∧ pct / 100 * values.length = m ∧ m < values.length
  · obtain ⟨m, hm, hexact, hlt⟩ := hodd
    have hceil : (⌈pct / 100 * values.length⌉ - 1).toNat = m - 1 := by
      rw [hexact, Int.ceil_natCast]
      omega
    rw [rank_of_odd hexact hm hlt, hceil, Int.toNat_natCast]
    constructor
    · rintro heq ⟨m', -, hexact', -, hdiffer⟩
      obtain rfl : m' = m := by exact_mod_cast hexact'.symm.trans hexact
      exact hdiffer heq.symm
    · intro h
      by_contra hdiffer
      exact h ⟨m, hm, hexact, hlt, Ne.symm hdiffer⟩
  · rw [rank_eq_ceil_sub_one (List.length_pos_iff.mpr hne) h0 h100]
    · refine iff_of_true rfl ?_
      rintro ⟨m, hm, hexact, hlt, -⟩
      exact hodd ⟨m, hm, hexact, hlt⟩
    · intro m hexact hm
      have hle := (ceil_bounds (List.length_pos_iff.mpr hne) h0 h100).2
      have hpos := (ceil_bounds (List.length_pos_iff.mpr hne) h0 h100).1
      rw [hexact, Int.ceil_intCast] at hle hpos
      by_contra hne
      refine hodd ⟨m.toNat, by omega, ?_, by omega⟩
      rw [hexact]
      exact_mod_cast (Int.toNat_of_nonneg (by omega)).symm

end

theorem percentile_nearestRank_iff (values : List ℤ) (hne : values ≠ []) (pct : ℚ) (h1 : 1 ≤ pct)
    (h100 : pct ≤ 100) :
    (∀ v, NearestRank values pct v ↔
      (sorted values)[(⌈pct / 100 * values.length⌉ - 1).toNat]? = some v) ∧
    ((∃ v, percentile values pct = some v ∧ NearestRank values pct v) ↔ ¬Misplaced values pct) := by
  have h0 : 0 < pct := by linarith
  refine ⟨fun v => nearestRank_iff hne h0 h100, ?_⟩
  rw [percentile_nearestRank_iff_getElem hne h0 h100, getElem_rank_iff hne h0 h100]

theorem percentile_nearestRank_iff_sample :
    ∃ v, percentile [3, 1, 2] 50 = some v ∧ NearestRank [3, 1, 2] 50 v := by
  refine (percentile_nearestRank_iff [3, 1, 2] (by simp) 50 (by norm_num) (by norm_num)).2.mpr ?_
  rintro ⟨m, -, hexact, -⟩
  have htwice : (2 * m : ℚ) = 3 := by
    rw [← hexact]
    norm_num
  have : 2 * m = 3 := by exact_mod_cast htwice
  omega

theorem percentile_not_nearestRank :
    percentile [1, 2] 50 = some 2 ∧ NearestRank [1, 2] 50 1 ∧
      percentile ((List.range 20).map Int.ofNat) 95 = some 19 ∧
      NearestRank ((List.range 20).map Int.ofNat) 95 18 := by
  refine ⟨by decide +kernel, ?_, by decide +kernel, ?_⟩
  · exact (nearestRank_iff (by simp) (by norm_num) (by norm_num)).mpr (by decide +kernel)
  · exact (nearestRank_iff (by simp) (by norm_num) (by norm_num)).mpr (by decide +kernel)

theorem dist_nearestRank {values : List ℤ} (hne : values ≠ []) :
    (values.length % 4 ≠ 2 → ∃ v, (dist values).p50 = some v ∧ NearestRank values 50 v) ∧
    (values.length % 40 ≠ 20 → ∃ v, (dist values).p95 = some v ∧ NearestRank values 95 v) ∧
    (values.length % 200 ≠ 100 → ∃ v, (dist values).p99 = some v ∧ NearestRank values 99 v) := by
  have hreported : ∀ pct : ℕ, 0 < pct → pct ≤ 100 →
      (∀ m, m % 2 = 1 → pct * values.length ≠ 100 * m) →
      ∃ v, percentile values pct = some v ∧ NearestRank values pct v := by
    intro pct h0 h100 hodd
    have h0' : (0 : ℚ) < pct := by exact_mod_cast h0
    have h100' : (pct : ℚ) ≤ 100 := by exact_mod_cast h100
    rw [percentile_nearestRank_iff_getElem hne h0' h100', getElem_rank_iff hne h0' h100']
    rintro ⟨m, hm, hexact, -⟩
    refine hodd m hm ?_
    have : (pct * values.length : ℚ) = 100 * m := by linarith
    exact_mod_cast this
  refine ⟨fun h => hreported 50 ?_ ?_ ?_, fun h => hreported 95 ?_ ?_ ?_,
    fun h => hreported 99 ?_ ?_ ?_⟩ <;> omega

end AgentsAtScale.Bench
