import AgentsAtScale.Jobs.PythonDiscipline

namespace AgentsAtScale.Jobs

open Program Function Transition Lease

inductive Stack
  | adkGo (service : Service)
  | langgraphPython (service : Python.JobService)

def Stack.config (retryQueues : Nat) : Stack → Config
  | .adkGo service => service.config retryQueues
  | .langgraphPython service => service.config retryQueues

theorem Stack.config_follows (stack : Stack) (retryQueues : Nat) :
    (stack.config retryQueues).Follows lockRules := by
  cases stack with
  | adkGo service =>
    have h := service.config_follows retryQueues
    exact
      { worker := fun message => obeys_lockRules (h.worker message)
        publisher := fun id payload key => obeys_lockRules (h.publisher id payload key) }
  | langgraphPython service => exact service.config_follows_lockRules retryQueues

theorem one_run_per_conversation (stack : Stack) (retryQueues : Nat) (s : State)
    (h : Reach (step (stack.config retryQueues)) (fun s a => s.keepsLocks a) {} s) :
    (∀ conversation p q, s.agentConversation p = some conversation →
      s.agentConversation q = some conversation → p = q) ∧
    ∀ a t conversation lock, step (stack.config retryQueues) s a = some t →
      s.locks conversation = some lock → t.locks conversation ≠ some lock →
      a = .expireLock conversation ∨ ∃ reaction, a = .exec lock.owner reaction := by
  obtain ⟨hregular, hexclusive⟩ := exclusive_of_reach (stack.config_follows retryQueues) h
  constructor
  · intro conversation p q hp hq
    obtain ⟨token, hp⟩ := held_of_agentConversation hregular hp
    obtain ⟨token', hq⟩ := held_of_agentConversation hregular hq
    exact hexclusive.unique hp hq
  · intro a t conversation lock hstep hlock hgone
    obtain ⟨m, hmoves, henabled, ht⟩ := leases_step hregular hstep
    have hgone : (s.leases.apply m).locks conversation ≠ some lock := by
      rw [← ht]
      exact hgone
    rcases Leases.release_or_expire henabled hlock hgone with rfl | ⟨p, token, rfl⟩
    · cases hmoves
      exact .inl rfl
    · have howner := hexclusive.owner_of_release henabled hlock
      cases hmoves with
      | release hop => exact .inr ⟨_, by rw [howner]⟩

theorem one_run_per_conversation_sample :
    ∃ s, Reach (step ((Stack.adkGo Sample.service).config 2)) (fun s a => s.keepsLocks a) {} s ∧
      s.agentConversation 1 = some "u:s" ∧
      ∀ q, s.agentConversation q = some "u:s" → q = 1 := by
  obtain ⟨s, hs, hrun⟩ := reach_of_any (step ((Stack.adkGo Sample.service).config 2))
    (fun s a => s.keepsLocks a) {}
    (Sample.published ++ [.deliver 0, .exec 1 .done, .exec 1 .done] ++ Sample.started 1)
    (fun s => decide (s.agentConversation 1 = some "u:s")) (by decide +kernel)
  have hrun := of_decide_eq_true hrun
  refine ⟨s, hs, hrun, ?_⟩
  intro q hq
  exact (one_run_per_conversation (.adkGo Sample.service) 2 s hs).1 _ q 1 hq hrun

/-- A lock is acquired only while no other processing of the same job still
believes to hold it.  A request that fails or finds the lock taken acquires nothing. -/
def State.soleAcquirer (s : State) : Action → Bool
  | .exec _ (.failed _) => true
  | .exec pid _ =>
    match s.nextOp pid with
    | some (.acquireConversationLock conversation token) =>
      (s.locks conversation).isSome ||
        (List.range s.next).all fun q => q = pid || s.leases.held q ≠ some (conversation, token)
    | _ => true
  | _ => true

theorem not_held_of_soleAcquirer {s : State} {pid q : Nat} {reaction : Reaction}
    {conversation token : String} (hregular : Regular lockRules s)
    (hop : s.nextOp pid = some (.acquireConversationLock conversation token))
    (hfree : s.locks conversation = none) (hreaction : ∀ cause, reaction ≠ .failed cause)
    (hok : s.soleAcquirer (.exec pid reaction)) (hq : q ≠ pid) :
    s.leases.held q ≠ some (conversation, token) := by
  intro hheld
  obtain ⟨proc, hproc, -⟩ := Option.bind_eq_some_iff.mp hheld
  have hall : (List.range s.next).all fun q => q = pid || s.leases.held q ≠ some (conversation, token) := by
    cases reaction with
    | failed cause => exact absurd rfl (hreaction cause)
    | _ => simpa only [State.soleAcquirer, hop, hfree, Option.isSome_none, Bool.false_or] using hok
  simp only [List.all_eq_true, List.mem_range, Bool.or_eq_true, decide_eq_true_eq] at hall
  rcases hall q (hregular.numbered q proc hproc) with h | h
  · exact hq h
  · exact h hheld

theorem fenced_step {cfg : Config} {s t : State} {a : Action} (hregular : Regular lockRules s)
    (h : s.leases.Fenced) (hok : s.soleAcquirer a) (hstep : step cfg s a = some t) :
    t.leases.Fenced := by
  obtain ⟨m, hmoves, henabled, ht⟩ := leases_step hregular hstep
  rw [ht]
  apply h.apply
  intro p key token hm q hq
  rcases hm with rfl | rfl
  · cases hmoves with
    | acquire hop => exact not_held_of_soleAcquirer hregular hop henabled (by simp) hok hq
  · cases hmoves with
    | grab hop => exact not_held_of_soleAcquirer hregular hop henabled (by simp) hok hq

theorem fenced_of_reach {cfg : Config} {s : State} (hcfg : cfg.Follows lockRules)
    (h : Reach (step cfg) (fun s a => s.soleAcquirer a) {} s) :
    Regular lockRules s ∧ s.leases.Fenced := by
  apply h.invariant
  · refine ⟨.start, ?_⟩
    intro pid conversation token lock hheld
    cases hheld
  · rintro s a t ⟨hregular, hfenced⟩ hok hstep
    exact ⟨hregular.step hcfg hstep, fenced_step hregular hfenced hok hstep⟩

theorem release_fenced (stack : Stack) (retryQueues : Nat) (s t : State) (pid : Nat)
    (reaction : Reaction) (conversation : String) (lock : Lock)
    (h : Reach (step (stack.config retryQueues)) (fun s a => s.soleAcquirer a) {} s)
    (hstep : step (stack.config retryQueues) s (.exec pid reaction) = some t)
    (hlock : s.locks conversation = some lock) (hgone : t.locks conversation ≠ some lock) :
    lock.owner = pid := by
  obtain ⟨hregular, hfenced⟩ := fenced_of_reach (stack.config_follows retryQueues) h
  obtain ⟨m, hmoves, henabled, ht⟩ := leases_step hregular hstep
  have hgone : (s.leases.apply m).locks conversation ≠ some lock := by
    rw [← ht]
    exact hgone
  rcases Leases.release_or_expire henabled hlock hgone with rfl | ⟨p, token, rfl⟩
  · cases hmoves
  · cases hmoves
    exact hfenced.owner_of_release henabled hlock hgone

theorem release_fenced_sample :
    ∃ s t, Reach (step ((Stack.adkGo Sample.service).config 2)) (fun s a => s.soleAcquirer a) {} s ∧
      step ((Stack.adkGo Sample.service).config 2) s (.exec 1 .done) = some t ∧ s.running 2 = true ∧
      ∃ lock, s.locks "u:s" = some lock ∧ t.locks "u:s" = none ∧ lock.owner = 1 := by
  obtain ⟨s, hs, hrun⟩ := reach_of_any (step ((Stack.adkGo Sample.service).config 2))
    (fun s a => s.soleAcquirer a) {}
    (Sample.published ++ [.deliver 0, .redeliver 1, .deliver 0] ++
      [.exec 1 .done, .exec 1 .done, .exec 2 .done, .exec 2 .done] ++ Sample.started 1 ++
      Sample.finished 1 ++ [.exec 1 .done])
    (fun s => s.running 2 && ((s.locks "u:s").isSome &&
      (step ((Stack.adkGo Sample.service).config 2) s (.exec 1 .done)).any fun t =>
        (t.locks "u:s").isNone)) (by decide +kernel)
  obtain ⟨hrunning, hrun⟩ := Bool.and_eq_true_iff.mp hrun
  obtain ⟨hlock, hstep⟩ := Bool.and_eq_true_iff.mp hrun
  obtain ⟨lock, hlock⟩ := Option.isSome_iff_exists.mp hlock
  obtain ⟨t, hstep, hnone⟩ := (Option.any_eq_true _ _).mp hstep
  have hnone := Option.isNone_iff_eq_none.mp hnone
  refine ⟨s, t, hs, hstep, hrunning, lock, hlock, hnone, ?_⟩
  exact release_fenced _ 2 s t 1 .done "u:s" lock hs hstep hlock (by rw [hnone]; nofun)

/-- A lock expires, a second delivery of the same job acquires it anew, and the
first processing then removes the lock of the second, which is still running. -/
theorem release_removes_lock_of_duplicate :
    ∃ s t, Reaches (step ((Stack.adkGo Sample.service).config 2)) {} s ∧
      step ((Stack.adkGo Sample.service).config 2) s (.exec 1 .done) = some t ∧
      s.locks "u:s" = some { token := "job", owner := 2 } ∧ s.running 2 = true ∧
      t.locks "u:s" = none := by
  obtain ⟨s, hs, hrun⟩ := reach_of_any (step ((Stack.adkGo Sample.service).config 2))
    (fun _ _ => True) {}
    (Sample.published ++ [.deliver 0, .redeliver 1, .deliver 0] ++
      [.exec 1 .done, .exec 1 .done, .expireLock "u:s", .exec 2 .done, .exec 2 .done] ++
      Sample.started 1 ++ Sample.finished 1 ++ [.exec 1 .done])
    (fun s => decide (s.locks "u:s" = some { token := "job", owner := 2 }) && s.running 2 &&
      (step ((Stack.adkGo Sample.service).config 2) s (.exec 1 .done)).any fun t =>
        (t.locks "u:s").isNone) (by decide +kernel)
  simp only [Bool.and_eq_true, decide_eq_true_eq] at hrun
  obtain ⟨⟨hlock, hrunning⟩, hstep⟩ := hrun
  obtain ⟨t, hstep, hnone⟩ := (Option.any_eq_true _ _).mp hstep
  exact ⟨s, t, hs, hstep, hlock, hrunning, Option.isNone_iff_eq_none.mp hnone⟩

end AgentsAtScale.Jobs
