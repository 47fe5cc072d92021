import Mathlib.Algebra.Group.Int.Defs

namespace AgentsAtScale.Data.Numerals

def splitSign : List Char → Int × List Char
  | '-' :: digits => (-1, digits)
  | '+' :: digits => (1, digits)
  | digits => (1, digits)

/-- The number of some decimal digits after a sign, if it fits a signed integer of the width. -/
def parseInt (width : Nat) (text : String) : Option Int :=
  let (sign, digits) := splitSign text.toList
  let value := sign * Nat.ofDigitChars 10 digits 0
  if digits ≠ [] ∧ digits.all Char.isDigit ∧ -2 ^ (width - 1) ≤ value ∧ value < 2 ^ (width - 1)
  then some value else none

variable {width : Nat}

theorem parseInt_bounds {text : String} {value : Int} (h : parseInt width text = some value) :
    -2 ^ (width - 1) ≤ value ∧ value < 2 ^ (width - 1) := by
  rw [parseInt] at h
  generalize splitSign text.toList = parts at h
  obtain ⟨hvalid, hvalue⟩ := Option.ite_none_right_eq_some.mp h
  cases hvalue
  exact hvalid.2.2

theorem splitSign_toDigits (value : Nat) : splitSign (Nat.toDigits 10 value) = (1, Nat.toDigits 10 value) := by
  have hdigit : ∀ c ∈ Nat.toDigits 10 value, c.isDigit = true :=
    fun c => Nat.isDigit_of_mem_toDigits (by decide) (by decide)
  generalize Nat.toDigits 10 value = digits at hdigit
  rw [splitSign.eq_def]
  split
  · exact absurd (hdigit '-' List.mem_cons_self) (by decide)
  · exact absurd (hdigit '+' List.mem_cons_self) (by decide)
  · rfl

theorem parseInt_of_digits {text : String} {sign : Int} {n : Nat}
    (htext : splitSign text.toList = (sign, Nat.toDigits 10 n))
    (h : -2 ^ (width - 1) ≤ sign * n ∧ sign * n < 2 ^ (width - 1)) :
    parseInt width text = some (sign * n) := by
  have hall : (Nat.toDigits 10 n).all Char.isDigit = true :=
    List.all_eq_true.mpr fun c => Nat.isDigit_of_mem_toDigits (by decide) (by decide)
  rw [parseInt, htext]
  dsimp only
  rw [Nat.ofDigitChars_ten_toDigits]
  exact if_pos ⟨Nat.toDigits_ne_nil, hall, h⟩

theorem parseInt_toString {n : Nat} (h : (n : Int) < 2 ^ (width - 1)) :
    parseInt width (toString n) = some (n : Int) := by
  have htext : splitSign (toString n).toList = (1, Nat.toDigits 10 n) := by
    rw [Nat.toString_eq_ofList_toDigits, String.toList_ofList, splitSign_toDigits]
  have hpos : (0 : Int) < 2 ^ (width - 1) := Int.pow_pos (by decide)
  rw [parseInt_of_digits htext ⟨by omega, by omega⟩, Int.one_mul]

theorem parseInt_repr {n : Int} (hlow : -2 ^ (width - 1) ≤ n) (hhigh : n < 2 ^ (width - 1)) :
    parseInt width n.repr = some n := by
  cases n with
  | ofNat m => exact parseInt_toString hhigh
  | negSucc m =>
    have htext : splitSign (Int.negSucc m).repr.toList = (-1, Nat.toDigits 10 (m + 1)) := by
      simp only [Int.repr, String.toList_append, Nat.repr_eq_ofList_toDigits, String.toList_ofList]
      rfl
    have hneg : (-1 : Int) * (m + 1 : Nat) = Int.negSucc m := by omega
    rw [parseInt_of_digits htext (by omega), hneg]

end AgentsAtScale.Data.Numerals
