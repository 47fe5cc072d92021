import Mathlib.Logic.Function.Basic

namespace AgentsAtScale.Lease

open Function

variable {Key Token Owner : Type}

structure Lock (Token Owner : Type) where
  token : Token
  /-- Who stored the lock.  Nobody can read this. -/
  owner : Owner
  deriving DecidableEq

structure Leases (Key Token Owner : Type) where
  locks : Key → Option (Lock Token Owner)
  held : Owner → Option (Key × Token)

inductive Move (Key Token Owner : Type)
  | idle
  | acquire (p : Owner) (key : Key) (token : Token)
  | grab (p : Owner) (key : Key) (token : Token)
  | release (p : Owner) (key : Key) (token : Token)
  | abandon (p : Owner)
  | expire (key : Key)

namespace Leases

def Enabled (s : Leases Key Token Owner) : Move Key Token Owner → Prop
  | .acquire _ key _ => s.locks key = none
  | .grab _ key _ => s.locks key = none
  | .release p key token => s.held p = some (key, token)
  | .idle => True
  | .abandon _ => True
  | .expire _ => True

variable {s : Leases Key Token Owner} {m : Move Key Token Owner}

/-- Whoever believes to hold a lock has stored it. -/
def Exclusive (s : Leases Key Token Owner) : Prop :=
  ∀ p key token, s.held p = some (key, token) → ∃ lock, s.locks key = some lock ∧ lock.owner = p

theorem Exclusive.unique (h : s.Exclusive) {p q : Owner} {key : Key} {token token' : Token}
    (hp : s.held p = some (key, token)) (hq : s.held q = some (key, token')) : p = q := by
  obtain ⟨lock, hlock, rfl⟩ := h p key token hp
  obtain ⟨lock', hlock', rfl⟩ := h q key token' hq
  rw [hlock] at hlock'
  cases hlock'
  rfl

theorem Exclusive.key_ne (h : s.Exclusive) {p : Owner} {key key' : Key} {token : Token}
    (hp : s.held p = some (key, token)) (hfree : s.locks key' = none) : key ≠ key' := by
  rintro rfl
  obtain ⟨lock, hlock, -⟩ := h p key token hp
  cases hlock.symm.trans hfree

theorem Exclusive.owner_of_release (h : s.Exclusive) {p : Owner} {key : Key} {token : Token}
    {lock : Lock Token Owner} (he : s.Enabled (.release p key token))
    (hlock : s.locks key = some lock) : lock.owner = p := by
  obtain ⟨lock', hlock', howner⟩ := h p key token he
  rw [hlock] at hlock'
  cases hlock'
  exact howner

section

variable [DecidableEq Key] [DecidableEq Token] [DecidableEq Owner]

def apply (s : Leases Key Token Owner) : Move Key Token Owner → Leases Key Token Owner
  | .idle => s
  | .acquire p key token =>
    { locks := update s.locks key (some { token := token, owner := p })
      held := update s.held p (some (key, token)) }
  | .grab p key token =>
    { s with locks := update s.locks key (some { token := token, owner := p }) }
  | .release p key token =>
    { locks := update s.locks key ((s.locks key).filter (·.token ≠ token))
      held := update s.held p none }
  | .abandon p => { s with held := update s.held p none }
  | .expire key => { s with locks := update s.locks key none }

theorem release_or_expire {key : Key} {lock : Lock Token Owner} (he : s.Enabled m)
    (hlock : s.locks key = some lock) (hgone : (s.apply m).locks key ≠ some lock) :
    m = .expire key ∨ ∃ p token, m = .release p key token := by
  have hkey {key' : Key} {lock' : Option (Lock Token Owner)}
      (h : update s.locks key' lock' key ≠ some lock) : key = key' := by
    by_contra hne
    rw [update_of_ne hne] at h
    exact h hlock
  cases m with
  | idle => exact absurd hlock hgone
  | acquire p key' token =>
    cases hkey hgone
    cases hlock.symm.trans he
  | grab p key' token =>
    cases hkey hgone
    cases hlock.symm.trans he
  | release p key' token =>
    cases hkey hgone
    exact .inr ⟨p, token, rfl⟩
  | abandon p => exact absurd hlock hgone
  | expire key' =>
    cases hkey hgone
    exact .inl rfl

theorem Exclusive.apply (h : s.Exclusive) (he : s.Enabled m)
    (hexpire : ∀ key, m = .expire key → ∀ p token, s.held p ≠ some (key, token)) :
    (s.apply m).Exclusive := by
  intro q key token hq
  cases m with
  | idle => exact h q key token hq
  | acquire p key' token' =>
    simp only [Leases.apply, update_apply] at hq ⊢
    by_cases hqp : q = p
    · simp only [hqp, if_true, Option.some.injEq, Prod.mk.injEq] at hq
      exact ⟨_, if_pos hq.1.symm, hqp.symm⟩
    · rw [if_neg hqp] at hq
      obtain ⟨lock, hlock, howner⟩ := h q key token hq
      exact ⟨lock, by rw [if_neg (h.key_ne hq he), hlock], howner⟩
  | grab p key' token' =>
    obtain ⟨lock, hlock, howner⟩ := h q key token hq
    exact ⟨lock, by simp only [Leases.apply, update_of_ne (h.key_ne hq he), hlock], howner⟩
  | release p key' token' =>
    simp only [Leases.apply, update_apply] at hq ⊢
    by_cases hqp : q = p
    · simp [hqp] at hq
    · rw [if_neg hqp] at hq
      obtain ⟨lock, hlock, howner⟩ := h q key token hq
      have hne : key ≠ key' := by
        rintro rfl
        exact hqp (h.unique hq he)
      exact ⟨lock, by rw [if_neg hne, hlock], howner⟩
  | abandon p =>
    simp only [Leases.apply, update_apply] at hq ⊢
    by_cases hqp : q = p
    · simp [hqp] at hq
    · rw [if_neg hqp] at hq
      exact h q key token hq
  | expire key' =>
    obtain ⟨lock, hlock, howner⟩ := h q key token hq
    have hne : key ≠ key' := by
      rintro rfl
      exact hexpire key rfl q token hq
    exact ⟨lock, by simp only [Leases.apply, update_of_ne hne, hlock], howner⟩

/-- Whoever believes to hold a lock that another has stored has another token. -/
def Fenced (s : Leases Key Token Owner) : Prop :=
  ∀ p key token lock, s.held p = some (key, token) → s.locks key = some lock → lock.owner ≠ p →
    lock.token ≠ token

theorem Fenced.apply (h : s.Fenced)
    (hstore : ∀ p key token, m = .acquire p key token ∨ m = .grab p key token →
      ∀ q, q ≠ p → s.held q ≠ some (key, token)) :
    (s.apply m).Fenced := by
  intro q key token lock hq hlock howner
  cases m with
  | idle => exact h q key token lock hq hlock howner
  | acquire p key' token' =>
    simp only [Leases.apply, update_apply] at hq hlock
    by_cases hqp : q = p
    · simp only [hqp, if_true, Option.some.injEq, Prod.mk.injEq] at hq
      rw [if_pos hq.1.symm] at hlock
      cases hlock
      exact absurd hqp.symm howner
    · rw [if_neg hqp] at hq
      by_cases hkey : key = key'
      · subst hkey
        simp only [if_true, Option.some.injEq] at hlock
        subst hlock
        rintro rfl
        exact hstore p key _ (.inl rfl) q hqp hq
      · rw [if_neg hkey] at hlock
        exact h q key token lock hq hlock howner
  | grab p key' token' =>
    simp only [Leases.apply, update_apply] at hq hlock
    by_cases hkey : key = key'
    · subst hkey
      simp only [if_true, Option.some.injEq] at hlock
      subst hlock
      rintro rfl
      exact hstore p key _ (.inr rfl) q (Ne.symm howner) hq
    · rw [if_neg hkey] at hlock
      exact h q key token lock hq hlock howner
  | release p key' token' =>
    simp only [Leases.apply, update_apply] at hq hlock
    by_cases hqp : q = p
    · simp [hqp] at hq
    · rw [if_neg hqp] at hq
      by_cases hkey : key = key'
      · subst hkey
        simp only [if_true, Option.filter_eq_some_iff] at hlock
        exact h q key token lock hq hlock.1 howner
      · rw [if_neg hkey] at hlock
        exact h q key token lock hq hlock howner
  | abandon p =>
    simp only [Leases.apply, update_apply] at hq hlock
    by_cases hqp : q = p
    · simp [hqp] at hq
    · rw [if_neg hqp] at hq
      exact h q key token lock hq hlock howner
  | expire key' =>
    simp only [Leases.apply, update_apply] at hq hlock
    by_cases hkey : key = key'
    · simp [hkey] at hlock
    · rw [if_neg hkey] at hlock
      exact h q key token lock hq hlock howner

theorem Fenced.owner_of_release (h : s.Fenced) {p : Owner} {key : Key} {token : Token}
    {lock : Lock Token Owner} (he : s.Enabled (.release p key token))
    (hlock : s.locks key = some lock)
    (hgone : (s.apply (.release p key token)).locks key ≠ some lock) : lock.owner = p := by
  by_contra howner
  apply hgone
  simp only [Leases.apply, update_self, hlock]
  have := h p key token lock he hlock howner
  simp [Option.filter, this]

end

end Leases

end AgentsAtScale.Lease
