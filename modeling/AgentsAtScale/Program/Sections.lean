import Mathlib.Logic.Basic

/-! Critical sections.  A party works on one key at a time and keeps a memory while it does.
As long as nobody else works on the key, an invariant of what is stored there, given the
memory, holds across every interleaving. -/

namespace AgentsAtScale.Sections

variable {Party Key Value Memory : Type}

def Exclusive (works : Party → Option Key) : Prop :=
  ∀ p q key, works p = some key → works q = some key → p = q

/-- What is stored under a key meets the invariant with the memory of the party that works on
it, and without one when nobody does. -/
structure Guarded (R : Key → Value → Option Memory → Prop) (works : Party → Option Key)
    (memory : Party → Option Memory) (stored : Key → Value) : Prop where
  free : ∀ key, (∀ p, works p ≠ some key) → R key (stored key) none
  busy : ∀ p key, works p = some key → R key (stored key) (memory p)
  idle : ∀ p, works p = none → memory p = none

variable {R : Key → Value → Option Memory → Prop} {works works' : Party → Option Key}
  {memory memory' : Party → Option Memory} {stored stored' : Key → Value} {p : Party}

structure Local (p : Party) (works works' : Party → Option Key) (memory memory' : Party → Option Memory)
    (stored stored' : Key → Value) : Prop where
  works_eq : ∀ q, q ≠ p → works' q = works q
  memory_eq : ∀ q, q ≠ p → memory' q = memory q
  stored_eq : ∀ key, works p ≠ some key → stored' key = stored key

theorem Guarded.change (h : Guarded R works memory stored)
    (hlocal : Local p works works' memory memory' stored stored')
    (hexclusive : Exclusive works) (hexclusive' : Exclusive works')
    (hstay : ∀ key, works p = some key → works' p = some key → R key (stored' key) (memory' p))
    (hleave : ∀ key, works p = some key → works' p ≠ some key → R key (stored' key) none)
    (henter : ∀ key, works' p = some key → works p ≠ some key → memory' p = none)
    (hidle : works' p = none → memory' p = none) : Guarded R works' memory' stored' where
  free key hfree := by
    by_cases hp : works p = some key
    · exact hleave key hp (hfree p)
    · rw [hlocal.stored_eq key hp]
      refine h.free key fun q hq => ?_
      by_cases hqp : q = p
      · exact hp (hqp ▸ hq)
      · exact hfree q ((hlocal.works_eq q hqp).trans hq)
  busy q key hq := by
    by_cases hqp : q = p
    · subst hqp
      by_cases hp : works q = some key
      · exact hstay key hp hq
      · -- the key was free, since nobody else works on it now
        rw [henter key hq hp, hlocal.stored_eq key hp]
        refine h.free key fun q' hq' => ?_
        by_cases hqq : q' = q
        · exact hp (hqq ▸ hq')
        · exact hqq (hexclusive' q' q key ((hlocal.works_eq q' hqq).trans hq') hq)
    · rw [hlocal.works_eq q hqp] at hq
      have hp : works p ≠ some key := fun hp => hqp (hexclusive q p key hq hp)
      rw [hlocal.stored_eq key hp, hlocal.memory_eq q hqp]
      exact h.busy q key hq
  idle q hq := by
    by_cases hqp : q = p
    · subst hqp
      exact hidle hq
    · rw [hlocal.memory_eq q hqp]
      exact h.idle q ((hlocal.works_eq q hqp).symm.trans hq)

end AgentsAtScale.Sections
