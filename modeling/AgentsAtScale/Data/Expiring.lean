import Mathlib.Logic.Function.Basic
import Mathlib.Algebra.Group.Int.Defs

namespace AgentsAtScale.Expiring

open Function

variable {Key Value : Type}

structure Entry (Value : Type) where
  value : Value
  deadline : Int

abbrev Store (Key Value : Type) := Key → Option (Entry Value)

def find (store : Store Key Value) (now : Int) (key : Key) : Option Value :=
  (store key).bind fun entry => if now < entry.deadline then some entry.value else none

section

variable {store : Store Key Value} {now later : Int} {key : Key} {value : Value}

theorem find_eq_some : find store now key = some value ↔
    ∃ deadline, store key = some { value := value, deadline := deadline } ∧ now < deadline := by
  rw [find, Option.bind_eq_some_iff]
  constructor
  · rintro ⟨entry, hentry, hlive⟩
    split at hlive
    · rename_i h
      cases hlive
      exact ⟨entry.deadline, hentry, h⟩
    · cases hlive
  · rintro ⟨deadline, hentry, hlive⟩
    exact ⟨_, hentry, if_pos hlive⟩

theorem find_of_later (hle : now ≤ later) (h : find store later key = some value) :
    find store now key = some value := by
  obtain ⟨deadline, hentry, hlive⟩ := find_eq_some.mp h
  exact find_eq_some.mpr ⟨deadline, hentry, Int.lt_of_le_of_lt hle hlive⟩

theorem find_later (hle : now ≤ later) (h : ∀ entry, store key = some entry → later < entry.deadline) :
    find store later key = find store now key := by
  unfold find
  cases hentry : store key with
  | none => rfl
  | some entry =>
    have hlater := h entry hentry
    simp only [Option.bind_some, if_pos hlater, if_pos (Int.lt_of_le_of_lt hle hlater)]

end

section

variable [DecidableEq Key] {store : Store Key Value} {now deadline : Int} {key other : Key} {value : Value}

def put (store : Store Key Value) (key : Key) (value : Value) (deadline : Int) : Store Key Value :=
  update store key (some { value := value, deadline := deadline })

def drop (store : Store Key Value) (key : Key) : Store Key Value := update store key none

theorem find_put_self (h : now < deadline) : find (put store key value deadline) now key = some value := by
  simp [find, put, h]

theorem find_put_of_ne (h : other ≠ key) : find (put store key value deadline) now other = find store now other := by
  simp [find, put, update_of_ne h]

theorem find_drop_self : find (drop store key) now key = none := by simp [find, drop]

theorem find_drop_of_ne (h : other ≠ key) : find (drop store key) now other = find store now other := by
  simp [find, drop, update_of_ne h]

end

end AgentsAtScale.Expiring
