import AgentsAtScale.Program.Basic

namespace AgentsAtScale.Program

structure Coupling (Op Op' : Type) (Reply : Op → Type) (Reply' : Op' → Type) where
  same : Op → Op' → Prop
  replies : (o : Op) → (o' : Op') → Reply o → Reply' o' → Prop

variable {Op Op' : Type} {Reply : Op → Type} {Reply' : Op' → Type}

def Coupling.flip (C : Coupling Op Op' Reply Reply') : Coupling Op' Op Reply' Reply where
  same o' o := C.same o o'
  replies o' o r' r := C.replies o o' r r'

/-- Under coupled replies the programs issue corresponding operations all along, and
return as `Q` says. -/
inductive Related (C : Coupling Op Op' Reply Reply') (Q : α → β → Prop) :
    Prog Op Reply α → Prog Op' Reply' β → Prop
  | ret {a : α} {b : β} : Q a b → Related C Q (.ret a) (.ret b)
  | op {o : Op} {o' : Op'} {k : Reply o → Prog Op Reply α} {k' : Reply' o' → Prog Op' Reply' β} :
      C.same o o' → (∀ r r', C.replies o o' r r' → Related C Q (k r) (k' r')) →
      Related C Q (.op o k) (.op o' k')

namespace Related

variable {C : Coupling Op Op' Reply Reply'} {Q : α → β → Prop} {R : γ → δ → Prop}
  {p : Prog Op Reply α} {q : Prog Op' Reply' β}

theorem bind {f : α → Prog Op Reply γ} {g : β → Prog Op' Reply' δ} (h : Related C Q p q)
    (hf : ∀ a b, Q a b → Related C R (f a) (g b)) : Related C R (p >>= f) (q >>= g) := by
  induction h with
  | ret h => exact hf _ _ h
  | op hsame _ ih => exact .op hsame ih

theorem bind_right {R : α → δ → Prop} {g : β → Prog Op' Reply' δ} (h : Related C Q p q)
    (hg : ∀ a b, Q a b → Related C R (.ret a) (g b)) : Related C R p (q >>= g) := by
  induction h with
  | ret h => exact hg _ _ h
  | op hsame _ ih => exact .op hsame ih

theorem flip {Q' : β → α → Prop} (h : Related C Q p q) (hQ : ∀ a b, Q a b → Q' b a) :
    Related C.flip Q' q p := by
  induction h with
  | ret h => exact .ret (hQ _ _ h)
  | op hsame _ ih => exact .op hsame fun r' r hr => ih r r' hr

end Related

end AgentsAtScale.Program
