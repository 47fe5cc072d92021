import Mathlib.Data.List.Induction
import AgentsAtScale.Program.Basic

namespace AgentsAtScale.Program

variable {Op : Type} {Reply : Op → Type}

inductive Prog.Runs : Prog Op Reply α → List (Sigma Reply) → α → Prop
  | ret (a : α) : Runs (.ret a) [] a
  | op {o : Op} {k : Reply o → Prog Op Reply α} {reply : Reply o} {calls : List (Sigma Reply)}
      {a : α} (h : Runs (k reply) calls a) : Runs (.op o k) (⟨o, reply⟩ :: calls) a

theorem Prog.Runs.bind {p : Prog Op Reply α} {f : α → Prog Op Reply β} {calls calls' : List (Sigma Reply)}
    {a : α} {b : β} (hp : p.Runs calls a) (hf : (f a).Runs calls' b) :
    (p >>= f).Runs (calls ++ calls') b := by
  induction hp with
  | ret a => exact hf
  | op h ih => exact .op (ih hf)

theorem Prog.exists_runs_of {C : Sigma Reply → Prop} (h : ∀ o, ∃ reply, C ⟨o, reply⟩)
    (p : Prog Op Reply α) : ∃ calls a, p.Runs calls a ∧ ∀ call ∈ calls, C call := by
  induction p with
  | ret a => exact ⟨[], a, .ret a, by simp⟩
  | op o k ih =>
    obtain ⟨reply, hreply⟩ := h o
    obtain ⟨calls, a, hruns, hcalls⟩ := ih reply
    exact ⟨_, a, .op hruns, List.forall_mem_cons.mpr ⟨hreply, hcalls⟩⟩

/-- Some replies bring the program to the operation. -/
inductive Prog.Issues (o : Op) : Prog Op Reply α → Prop
  | here (k : Reply o → Prog Op Reply α) : Issues o (.op o k)
  | there {o' : Op} {k : Reply o' → Prog Op Reply α} (reply : Reply o') (h : Issues o (k reply)) :
      Issues o (.op o' k)

namespace Prog.Issues

variable {o : Op} {p : Prog Op Reply α} {f : α → Prog Op Reply β}

theorem bind_left (h : p.Issues o) : (p >>= f).Issues o := by
  induction h with
  | here k => exact .here _
  | there reply _ ih => exact .there reply ih

theorem bind_right {calls : List (Sigma Reply)} {a : α} (hp : p.Runs calls a) (hf : (f a).Issues o) :
    (p >>= f).Issues o := by
  induction hp with
  | ret a => exact hf
  | op _ ih => exact .there _ (ih hf)

end Prog.Issues

theorem Prog.Uses.of_runs {P : Op → Prop} {p : Prog Op Reply α} {calls : List (Sigma Reply)} {a : α}
    (hp : p.Uses P) (h : p.Runs calls a) : ∀ call ∈ calls, P call.1 := by
  induction h with
  | ret a => exact fun call hcall => absurd hcall List.not_mem_nil
  | op _ ih => exact List.forall_mem_cons.mpr ⟨hp.1, ih (hp.2 _)⟩

namespace Monitor

variable {M : Monitor Op Reply} {m : M.State} {calls : List (Sigma Reply)}

def after (M : Monitor Op Reply) (m : M.State) (calls : List (Sigma Reply)) : M.State :=
  calls.foldl (fun m call => M.next m call.1 call.2) m

theorem after_concat (call : Sigma Reply) :
    M.after m (calls ++ [call]) = M.next (M.after m calls) call.1 call.2 := by
  simp [after]

def Obeyed (M : Monitor Op Reply) (m : M.State) (calls : List (Sigma Reply)) : Prop :=
  ∀ before call rest, calls = before ++ call :: rest → M.allowed (M.after m before) call.1

theorem Obeyed.of_append {calls' : List (Sigma Reply)} (h : M.Obeyed m (calls ++ calls')) :
    M.Obeyed m calls := by
  rintro before call rest rfl
  exact h before call (rest ++ calls') (by simp)

theorem Obeyed.cons {call : Sigma Reply} (hallowed : M.allowed m call.1)
    (h : M.Obeyed (M.next m call.1 call.2) calls) : M.Obeyed m (call :: calls) := by
  intro before call' rest heq
  cases before with
  | nil =>
    cases heq
    exact hallowed
  | cons first before =>
    cases heq
    exact h before call' rest rfl

theorem Obeyed.invariant {I : List (Sigma Reply) → M.State → Prop} (hnil : I [] m)
    (hstep : ∀ calls m call, I calls m → M.allowed m call.1 →
      I (calls ++ [call]) (M.next m call.1 call.2))
    (h : M.Obeyed m calls) : I calls (M.after m calls) := by
  induction calls using List.reverseRecOn with
  | nil => exact hnil
  | append_singleton calls call ih =>
    rw [after_concat]
    exact hstep calls _ call (ih h.of_append) (h calls call [] rfl)

theorem obeyed_of_runs {p : Prog Op Reply α} {Q : M.State → α → Prop} {a : α}
    (hexpected : ∀ call ∈ calls, ∀ m, M.expected m call.1 call.2) (hp : p.wp M Q m)
    (h : p.Runs calls a) : M.Obeyed m calls ∧ Q (M.after m calls) a := by
  induction h generalizing m with
  | ret a =>
    refine ⟨fun before call rest heq => ?_, hp⟩
    cases before <;> cases heq
  | op h ih =>
    obtain ⟨hobeyed, hq⟩ := ih (fun call hcall => hexpected call (List.mem_cons_of_mem _ hcall))
      (hp.2 _ (hexpected _ List.mem_cons_self m))
    exact ⟨.cons hp.1 hobeyed, hq⟩

end Monitor

/-- The monitor that keeps all operations with their replies. -/
abbrev history (allowed : List (Sigma Reply) → Op → Prop) : Monitor Op Reply where
  State := List (Sigma Reply)
  next calls o reply := calls ++ [⟨o, reply⟩]
  allowed := allowed

theorem after_history {allowed : List (Sigma Reply) → Op → Prop} (calls calls' : List (Sigma Reply)) :
    (history allowed).after calls calls' = calls ++ calls' := by
  induction calls' generalizing calls with
  | nil => exact (List.append_nil calls).symm
  | cons call calls' ih => exact (ih _).trans (List.append_assoc calls [call] calls')

theorem wp_history_append (p : Prog Op Reply α) (calls : List (Sigma Reply)) :
    p.wp (history fun _ _ => True) (fun calls' _ => ∃ rest, calls' = calls ++ rest) calls := by
  induction p generalizing calls with
  | ret a => exact ⟨[], (List.append_nil calls).symm⟩
  | op o k ih =>
    refine ⟨trivial, fun reply _ => ?_⟩
    refine Prog.wp_mono _ _ ?_ (ih reply (calls ++ [⟨o, reply⟩]))
    rintro calls' _ ⟨rest, rfl⟩
    exact ⟨⟨o, reply⟩ :: rest, List.append_assoc ..⟩

theorem wp_history_op (o : Op) (k : Reply o → Prog Op Reply α) (calls : List (Sigma Reply)) :
    (Prog.op o k).wp (history fun _ _ => True)
      (fun calls' _ => ∃ reply rest, calls' = calls ++ ⟨o, reply⟩ :: rest) calls := by
  refine ⟨trivial, fun reply _ => ?_⟩
  refine Prog.wp_mono _ _ ?_ (wp_history_append (k reply) (calls ++ [⟨o, reply⟩]))
  rintro calls' _ ⟨rest, rfl⟩
  exact ⟨reply, rest, List.append_assoc ..⟩

end AgentsAtScale.Program
