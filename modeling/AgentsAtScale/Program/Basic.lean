import Mathlib.Logic.Basic

/-! Programs as trees of operations.  A program returns a value, or issues one
operation to its environment and goes on with the reply.  Monitors follow a
program along its operations and give it preconditions. -/

namespace AgentsAtScale.Program

inductive Prog (Op : Type) (Reply : Op → Type) (α : Type) : Type
  | ret : α → Prog Op Reply α
  | op : (o : Op) → (Reply o → Prog Op Reply α) → Prog Op Reply α

namespace Prog

variable {Op : Type} {Reply : Op → Type}

def bind : Prog Op Reply α → (α → Prog Op Reply β) → Prog Op Reply β
  | .ret a, f => f a
  | .op o k, f => .op o (fun r => (k r).bind f)

instance : Monad (Prog Op Reply) where
  pure := .ret
  bind := .bind

instance : LawfulMonad (Prog Op Reply) := by
  refine LawfulMonad.mk' _ ?_ ?_ ?_
  · intro α p
    induction p with
    | ret a => rfl
    | op o k ih => exact congrArg (Prog.op o) (funext ih)
  · intro α β a f
    rfl
  · intro α β γ p f g
    induction p with
    | ret a => rfl
    | op o k ih => exact congrArg (Prog.op o) (funext ih)

def call (o : Op) : Prog Op Reply (Reply o) := .op o .ret

def interpret (handle : (o : Op) → σ → Reply o × σ) : Prog Op Reply α → σ → α × σ
  | .ret a, s => (a, s)
  | .op o k, s => (k (handle o s).1).interpret handle (handle o s).2

theorem interpret_bind (handle : (o : Op) → σ → Reply o × σ) (p : Prog Op Reply α)
    (f : α → Prog Op Reply β) (s : σ) :
    (p >>= f).interpret handle s =
      (f (p.interpret handle s).1).interpret handle (p.interpret handle s).2 := by
  induction p generalizing s with
  | ret a => rfl
  | op o k ih => exact ih _ _

theorem interpret_invariant {handle : (o : Op) → σ → Reply o × σ} {I : σ → Prop}
    (keep : ∀ o s, I s → I (handle o s).2) (p : Prog Op Reply α) {s : σ} (h : I s) :
    I (p.interpret handle s).2 := by
  induction p generalizing s with
  | ret a => exact h
  | op o k ih => exact ih _ (keep o s h)

end Prog

/-- A monitor reads the operations of one program and their replies.  `allowed`
says which operation the program may issue next, `expected` which reply the
environment may give. -/
structure Monitor (Op : Type) (Reply : Op → Type) where
  State : Type
  next : State → (o : Op) → Reply o → State
  allowed : State → Op → Prop
  expected : State → (o : Op) → Reply o → Prop := fun _ _ _ => True

namespace Prog

variable {Op : Type} {Reply : Op → Type} {M : Monitor Op Reply}

/-- As long as the environment replies as expected, the program issues only
allowed operations and ends in `Q`. -/
def wp (M : Monitor Op Reply) (Q : M.State → α → Prop) : Prog Op Reply α → M.State → Prop
  | .ret a, m => Q m a
  | .op o k, m => M.allowed m o ∧ ∀ r, M.expected m o r → (k r).wp M Q (M.next m o r)

theorem wp_call {o : Op} {Q : M.State → Reply o → Prop} {m : M.State} (ho : M.allowed m o)
    (h : ∀ r, Q (M.next m o r) r) : (call o : Prog Op Reply (Reply o)).wp M Q m :=
  ⟨ho, fun r _ => h r⟩

theorem wp_mono {Q R : M.State → α → Prop} (p : Prog Op Reply α) (m : M.State)
    (h : ∀ m a, Q m a → R m a) (hp : p.wp M Q m) : p.wp M R m := by
  induction p generalizing m with
  | ret a => exact h m a hp
  | op o k ih => exact ⟨hp.1, fun r hr => ih r _ (hp.2 r hr)⟩

theorem wp_bind {Q : M.State → α → Prop} {R : M.State → β → Prop} (p : Prog Op Reply α)
    (f : α → Prog Op Reply β) (m : M.State) (hp : p.wp M Q m)
    (hf : ∀ m a, Q m a → (f a).wp M R m) : (p >>= f).wp M R m := by
  induction p generalizing m with
  | ret a => exact hf m a hp
  | op o k ih => exact ⟨hp.1, fun r hr => ih r _ (hp.2 r hr)⟩

def Uses (P : Op → Prop) : Prog Op Reply α → Prop
  | .ret _ => True
  | .op o k => P o ∧ ∀ r, (k r).Uses P

namespace Uses

variable {P : Op → Prop}

theorem ret (a : α) : (pure a : Prog Op Reply α).Uses P := trivial

theorem call {o : Op} (h : P o) : (Prog.call o : Prog Op Reply (Reply o)).Uses P :=
  ⟨h, fun _ => trivial⟩

theorem bind {p : Prog Op Reply α} {f : α → Prog Op Reply β} (hp : p.Uses P)
    (hf : ∀ a, (f a).Uses P) : (p >>= f).Uses P := by
  induction p with
  | ret a => exact hf a
  | op o k ih => exact ⟨hp.1, fun r => ih r (hp.2 r)⟩

theorem mono {Q : Op → Prop} {p : Prog Op Reply α} (h : ∀ o, P o → Q o) (hp : p.Uses P) :
    p.Uses Q := by
  induction p with
  | ret a => trivial
  | op o k ih => exact ⟨h o hp.1, fun r => ih r (hp.2 r)⟩

theorem interpret {handle : (o : Op) → σ → Reply o × σ} {I : σ → Prop} {p : Prog Op Reply α} {s : σ}
    (keep : ∀ o s, P o → I s → I (handle o s).2) (hp : p.Uses P) (h : I s) :
    I (p.interpret handle s).2 := by
  induction p generalizing s with
  | ret a => exact h
  | op o k ih => exact ih _ (hp.2 _) (keep o s hp.1 h)

theorem wp {I : M.State → Prop} {p : Prog Op Reply α} {m : M.State}
    (hallowed : ∀ m o, P o → I m → M.allowed m o)
    (hnext : ∀ m o r, P o → I m → I (M.next m o r)) (hp : p.Uses P) (hm : I m) :
    p.wp M (fun m' _ => I m') m := by
  induction p generalizing m with
  | ret a => exact hm
  | op o k ih => exact ⟨hallowed m o hp.1 hm, fun r _ => ih r (hp.2 r) (hnext m o r hp.1 hm)⟩

end Uses

end Prog

end AgentsAtScale.Program
