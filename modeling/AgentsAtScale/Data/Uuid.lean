import Mathlib.Data.Nat.Digits.Defs
import Mathlib.Data.Nat.Digits.Lemmas

namespace AgentsAtScale.Data.Uuid

def Within (lo hi c : Char) : Prop := lo.toNat ≤ c.toNat ∧ c.toNat ≤ hi.toNat

instance (lo hi c : Char) : Decidable (Within lo hi c) := inferInstanceAs (Decidable (_ ∧ _))

def hexValue (c : Char) : Option ℕ :=
  if Within '0' '9' c then some (c.toNat - '0'.toNat)
  else if Within 'a' 'f' c then some (c.toNat - 'a'.toNat + 10)
  else if Within 'A' 'F' c then some (c.toNat - 'A'.toNat + 10)
  else none

def group (digits : List Char) : List Char :=
  digits.take 8 ++ '-' :: ((digits.drop 8).take 4 ++ '-' :: ((digits.drop 12).take 4 ++
    '-' :: ((digits.drop 16).take 4 ++ '-' :: digits.drop 20)))

def hexDigits (u : BitVec 128) : List Char :=
  (List.range 32).map fun i => Nat.digitChar (u.toNat / 16 ^ (31 - i) % 16)

def toText (u : BitVec 128) : String := String.ofList (group (hexDigits u))

def ungroup (text : List Char) : Option (List Char) :=
  let digits := text.take 8 ++ (text.drop 9).take 4 ++ (text.drop 14).take 4 ++ (text.drop 19).take 4 ++
    text.drop 24
  if digits.length = 32 ∧ text = group digits then some digits else none

def parse (text : String) : Option (BitVec 128) := do
  let digits ← ungroup text.toList
  let values ← digits.mapM hexValue
  return BitVec.ofNat 128 (Nat.ofDigits 16 values.reverse)

theorem hexValue_cases {c : Char} {n : ℕ} (h : hexValue c = some n) :
    Within '0' '9' c ∧ n + 48 = c.toNat ∨ Within 'a' 'f' c ∧ n + 87 = c.toNat ∨
      Within 'A' 'F' c ∧ n + 55 = c.toNat := by
  unfold hexValue at h
  split at h
  · rename_i hc
    have := hc.1
    cases h
    exact .inl ⟨hc, by simp only [Char.reduceToNat] at this ⊢; omega⟩
  split at h
  · rename_i hc
    have := hc.1
    cases h
    exact .inr (.inl ⟨hc, by simp only [Char.reduceToNat] at this ⊢; omega⟩)
  split at h
  · rename_i hc
    have := hc.1
    cases h
    exact .inr (.inr ⟨hc, by simp only [Char.reduceToNat] at this ⊢; omega⟩)
  · cases h

theorem hexValue_lt {c : Char} {n : ℕ} (h : hexValue c = some n) : n < 16 := by
  have hcases := hexValue_cases h
  simp only [Within, Char.reduceToNat] at hcases
  omega

theorem hexValue_injective {c c' : Char} {n : ℕ} (h : hexValue c = some n) (h' : hexValue c' = some n)
    (hlower : ¬Within 'A' 'F' c) (hlower' : ¬Within 'A' 'F' c') : c = c' := by
  have hcases := hexValue_cases h
  have hcases' := hexValue_cases h'
  simp only [Within, Char.reduceToNat] at hcases hcases' hlower hlower'
  exact Char.toNat_inj.mp (by omega)

theorem ungroup_eq_some {text digits : List Char} (h : ungroup text = some digits) :
    digits.length = 32 ∧ text = group digits := by
  unfold ungroup at h
  dsimp only at h
  split at h
  · cases h
    assumption
  · cases h

theorem mapM_hexValue {digits : List Char} {values : List ℕ} (h : digits.mapM hexValue = some values) :
    List.Forall₂ (fun c n => hexValue c = some n) digits values := by
  induction digits generalizing values with
  | nil =>
    cases h
    exact .nil
  | cons c digits ih =>
    rw [List.mapM_cons, Option.bind_eq_bind, Option.bind_eq_some_iff] at h
    obtain ⟨n, hn, h⟩ := h
    rw [Option.bind_eq_bind, Option.bind_eq_some_iff] at h
    obtain ⟨rest, hrest, h⟩ := h
    cases h
    exact .cons hn (ih hrest)

theorem isSome_parse {text : String} {digits : List Char} (h : ungroup text.toList = some digits)
    (hdigits : ∀ c ∈ digits, (hexValue c).isSome) : (parse text).isSome := by
  have hvalues : (digits.mapM hexValue).isSome := by
    clear h
    induction digits with
    | nil => rfl
    | cons c digits ih =>
      obtain ⟨hc, hdigits⟩ := List.forall_mem_cons.mp hdigits
      obtain ⟨n, hn⟩ := Option.isSome_iff_exists.mp hc
      obtain ⟨values, hvalues⟩ := Option.isSome_iff_exists.mp (ih hdigits)
      simp [List.mapM_cons, hn, hvalues]
  obtain ⟨values, hvalues⟩ := Option.isSome_iff_exists.mp hvalues
  simp [parse, h, hvalues]

theorem values_lt {digits : List Char} {values : List ℕ}
    (h : List.Forall₂ (fun c n => hexValue c = some n) digits values) : ∀ n ∈ values, n < 16 := by
  induction h with
  | nil => simp
  | cons hc _ ih => exact List.forall_mem_cons.mpr ⟨hexValue_lt hc, ih⟩

theorem digits_eq {digits digits' : List Char} {values : List ℕ}
    (h : List.Forall₂ (fun c n => hexValue c = some n) digits values)
    (h' : List.Forall₂ (fun c n => hexValue c = some n) digits' values)
    (hlower : ∀ c ∈ digits, ¬Within 'A' 'F' c) (hlower' : ∀ c ∈ digits', ¬Within 'A' 'F' c) :
    digits = digits' := by
  induction h generalizing digits' with
  | nil =>
    cases h'
    rfl
  | cons hc _ ih =>
    cases h' with
    | cons hc' h' =>
      rw [List.forall_mem_cons] at hlower hlower'
      rw [hexValue_injective hc hc' hlower.1 hlower'.1, ih h' hlower.2 hlower'.2]

theorem ofDigits_lt {digits : List Char} {values : List ℕ} (hlength : digits.length = 32)
    (h : List.Forall₂ (fun c n => hexValue c = some n) digits values) :
    Nat.ofDigits 16 values.reverse < 2 ^ 128 := by
  have hbound := Nat.ofDigits_lt_base_pow_length (by decide : 1 < 16)
    fun n hn => values_lt h n (List.mem_reverse.mp hn)
  rw [List.length_reverse, ← h.length_eq, hlength] at hbound
  exact hbound

theorem digits_inj {a b : String} {digits digits' : List Char} {u : BitVec 128}
    (ha : parse a = some u) (hb : parse b = some u) (hdigits : ungroup a.toList = some digits)
    (hdigits' : ungroup b.toList = some digits') (hlower : ∀ c ∈ digits, ¬Within 'A' 'F' c)
    (hlower' : ∀ c ∈ digits', ¬Within 'A' 'F' c) : digits = digits' := by
  simp only [parse, hdigits, hdigits', Option.bind_eq_bind, Option.bind_some, Option.bind_eq_some_iff,
    Option.pure_def, Option.some.injEq] at ha hb
  obtain ⟨values, hvalues, rfl⟩ := ha
  obtain ⟨values', hvalues', heq⟩ := hb
  have hlength := (ungroup_eq_some hdigits).1
  have hlength' := (ungroup_eq_some hdigits').1
  have hall := mapM_hexValue hvalues
  have hall' := mapM_hexValue hvalues'
  have hvalue : Nat.ofDigits 16 values.reverse = Nat.ofDigits 16 values'.reverse := by
    have hnat := congrArg BitVec.toNat heq
    rw [BitVec.toNat_ofNat, BitVec.toNat_ofNat, Nat.mod_eq_of_lt (ofDigits_lt hlength hall),
      Nat.mod_eq_of_lt (ofDigits_lt hlength' hall')] at hnat
    exact hnat.symm
  have hsame : values = values' := by
    apply List.reverse_injective
    refine Nat.ofDigits_inj_of_len_eq (by decide) ?_ (fun n hn => values_lt hall n (List.mem_reverse.mp hn))
      (fun n hn => values_lt hall' n (List.mem_reverse.mp hn)) hvalue
    rw [List.length_reverse, List.length_reverse, ← hall.length_eq, ← hall'.length_eq, hlength, hlength']
  subst hsame
  exact digits_eq hall hall' hlower hlower'

end AgentsAtScale.Data.Uuid
