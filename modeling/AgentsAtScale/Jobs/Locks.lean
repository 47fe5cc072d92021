import AgentsAtScale.Jobs.SystemLaws

namespace AgentsAtScale.Jobs

open Program Function Transition Lease

def Role.LockAllowed (role : Role) (p : Progress) : Op → Prop
  | .acquireConversationLock _ token => token = role.jobId ∧ p.held = none
  | .releaseConversationLock conversation token => token = role.jobId ∧ p.held = some conversation
  | .agent call => p.held = some call.conversation
  | .invoke call => p.held = some call.conversation
  | _ => True

theorem Role.lockAllowed_of_allowed {s : Service} {role : Role} {p : Progress} {o : Op}
    (h : role.Allowed s p o) : role.LockAllowed p o := by
  rcases role.allowed_cases h with rfl | ⟨job, rfl, -, hjob⟩ | ⟨job, key, rfl, hjob⟩
  · trivial
  · cases o with
    | acquireConversationLock conversation token => exact ⟨hjob.1, hjob.2.1⟩
    | releaseConversationLock conversation token => exact hjob
    | agent call => exact hjob.1
    | invoke call => exact hjob.elim
    | _ => trivial
  · cases o <;> first | exact trivial | exact hjob.elim

def lockRules : Rules where
  allowed := Role.LockAllowed
  ended _ p _ := p.held = none

theorem obeys_lockRules {s : Service} {role : Role} {t : Task Outcome} {p : Progress}
    (h : Obeys s.rules role t p) : Obeys lockRules role t p := by
  apply h.mono
  · intro p o hallowed
    exact Role.lockAllowed_of_allowed hallowed
  · intro p a hended
    match role, a, hended with
    | .worker (.job _), _, hended => exact hended.1
    | .worker (.invalid _), _, hended => exact hended
    | .publisher _ _, .returned _, hended => exact hended.1

def Proc.lease (proc : Proc) : Option (String × String) :=
  proc.progress.held.map (·, proc.role.jobId)

def State.leases (s : State) : Leases String String Nat where
  locks := s.locks
  held pid := (s.procs pid).bind Proc.lease

inductive Moves (s : State) : Action → Move String String Nat → Prop
  | idle : Moves s a .idle
  | acquire : s.nextOp pid = some (.acquireConversationLock conversation token) →
    Moves s (.exec pid .done) (.acquire pid conversation token)
  | grab : s.nextOp pid = some (.acquireConversationLock conversation token) →
    Moves s (.exec pid (.lost cause)) (.grab pid conversation token)
  | release : s.nextOp pid = some (.releaseConversationLock conversation token) →
    Moves s (.exec pid reaction) (.release pid conversation token)
  | abandon : Moves s a (.abandon pid)
  | expire : Moves s (.expireLock conversation) (.expire conversation)

section

variable {cfg : Config} {s t u : State} {a : Action} {pid : Nat}

theorem leases_update {proc : Option Proc} (hlocks : t.locks = s.locks)
    (hprocs : t.procs = update s.procs pid proc) :
    t.leases = { s.leases with held := update s.leases.held pid (proc.bind Proc.lease) } := by
  have hheld : t.leases.held = update s.leases.held pid (proc.bind Proc.lease) := by
    funext q
    simp only [State.leases, hprocs, update_apply]
    split <;> rfl
  simp only [State.leases, hlocks] at hheld ⊢
  rw [hheld]

theorem leases_abandon (hlocks : t.locks = s.locks) (hprocs : t.procs = update s.procs pid proc)
    (hproc : proc.bind Proc.lease = none) : t.leases = s.leases.apply (.abandon pid) := by
  rw [leases_update hlocks hprocs, hproc]
  rfl

theorem locks_effect {o : Op}
    (hacquire : ∀ conversation token, o ≠ .acquireConversationLock conversation token)
    (hrelease : ∀ conversation token, o ≠ .releaseConversationLock conversation token) :
    (s.effect cfg pid o).locks = s.locks := by
  cases o with
  | acquireConversationLock conversation token => exact absurd rfl (hacquire conversation token)
  | releaseConversationLock conversation token => exact absurd rfl (hrelease conversation token)
  | nack requeue => cases requeue <;> rfl
  | retry job level =>
    simp only [State.effect]
    split <;> rfl
  | _ => rfl

section

variable {role : Role} {o : Op} {p p' : Progress} {rest : Task Outcome}

theorem leases_resume (hprocs : u.procs = s.procs) :
    (u.resume pid role o p p' rest).leases =
      { locks := u.locks, held := update s.leases.held pid (p'.held.map (·, role.jobId)) } := by
  have h := leases_update (s := { s with locks := u.locks }) (t := u.resume pid role o p p' rest)
    rfl (congrArg (update · pid _) hprocs)
  exact h

theorem leases_held {k : o.Reply → Task Outcome}
    (hproc : s.procs pid = some { role := role, rest := .op o k, progress := p }) :
    s.leases.held pid = p.held.map (·, role.jobId) := by
  simp only [State.leases, hproc]
  rfl

theorem leases_idle {k : o.Reply → Task Outcome}
    (hproc : s.procs pid = some { role := role, rest := .op o k, progress := p })
    (hprocs : u.procs = s.procs) (hlocks : u.locks = s.locks) (hheld : p'.held = p.held) :
    (u.resume pid role o p p' rest).leases = s.leases := by
  rw [leases_resume hprocs, hlocks, hheld, ← leases_held hproc, update_eq_self]
  rfl

end

theorem leases_acquire {role : Role} {p : Progress} {conversation token : String}
    {k : Op.Reply (.acquireConversationLock conversation token) → Task Outcome} {reaction : Reaction}
    {reply : Op.Reply (.acquireConversationLock conversation token)}
    (hproc : s.procs pid = some
      { role := role, rest := .op (.acquireConversationLock conversation token) k, progress := p })
    (hallowed : role.LockAllowed p (.acquireConversationLock conversation token))
    (hanswer : s.Answer cfg pid _ reaction reply u) :
    ∃ m, Moves s (.exec pid reaction) m ∧ s.leases.Enabled m ∧
      (u.resume pid role (.acquireConversationLock conversation token) p (p.next _ reply)
        (k reply)).leases = s.leases.apply m := by
  obtain ⟨rfl, -⟩ := hallowed
  cases hlock : s.locks conversation with
  | some lock =>
    have heffect : (s.effect cfg pid (.acquireConversationLock conversation role.jobId)).locks =
        s.locks := by
      simp only [State.effect, State.setLock, hlock, Option.some_or]
      rw [← hlock, update_eq_self]
    refine ⟨.idle, .idle, trivial, ?_⟩
    cases hanswer with
    | done hreply =>
      simp only [State.reply, hlock, Option.isNone_some] at hreply
      cases hreply
      exact leases_idle hproc State.sameHistory_effect.procs heffect rfl
    | failed hreply =>
      cases hreply
      exact leases_idle hproc rfl rfl (Progress.held_fail _)
    | lost hreply =>
      cases hreply
      exact leases_idle hproc State.sameHistory_effect.procs heffect (Progress.held_fail _)
  | none =>
    have heffect : (s.effect cfg pid (.acquireConversationLock conversation role.jobId)).locks =
        update s.locks conversation (some { token := role.jobId, owner := pid }) := by
      simp only [State.effect, State.setLock, hlock, Option.none_or]
    cases hanswer with
    | done hreply =>
      simp only [State.reply, hlock, Option.isNone_none] at hreply
      cases hreply
      refine ⟨.acquire pid conversation role.jobId, .acquire (nextOp_of_procs hproc), hlock, ?_⟩
      rw [leases_resume State.sameHistory_effect.procs, heffect]
      rfl
    | failed hreply =>
      cases hreply
      exact ⟨.idle, .idle, trivial, leases_idle hproc rfl rfl (Progress.held_fail _)⟩
    | lost hreply =>
      cases hreply
      refine ⟨.grab pid conversation role.jobId, .grab (nextOp_of_procs hproc), hlock, ?_⟩
      rw [leases_resume State.sameHistory_effect.procs, heffect]
      simp only [Progress.next, Progress.held_fail]
      rw [← leases_held hproc, update_eq_self]
      rfl

theorem leases_release {role : Role} {p : Progress} {conversation token : String}
    {k : Op.Reply (.releaseConversationLock conversation token) → Task Outcome} {reaction : Reaction}
    {reply : Op.Reply (.releaseConversationLock conversation token)}
    (hproc : s.procs pid = some
      { role := role, rest := .op (.releaseConversationLock conversation token) k, progress := p })
    (hallowed : role.LockAllowed p (.releaseConversationLock conversation token))
    (hanswer : s.Answer cfg pid _ reaction reply u) :
    ∃ m, Moves s (.exec pid reaction) m ∧ s.leases.Enabled m ∧
      (u.resume pid role (.releaseConversationLock conversation token) p (p.next _ reply)
        (k reply)).leases = s.leases.apply m := by
  obtain ⟨rfl, hheld⟩ := hallowed
  have henabled : s.leases.Enabled (.release pid conversation role.jobId) := by
    simp only [Leases.Enabled]
    rw [leases_held hproc, hheld]
    rfl
  have hremoved : ((s.effect cfg pid (.releaseConversationLock conversation role.jobId)).resume pid role
      (.releaseConversationLock conversation role.jobId) p (p.next _ reply) (k reply)).leases =
      s.leases.apply (.release pid conversation role.jobId) := by
    rw [leases_resume State.sameHistory_effect.procs]
    rfl
  cases hanswer with
  | done => exact ⟨_, .release (nextOp_of_procs hproc), henabled, hremoved⟩
  | failed =>
    refine ⟨.abandon pid, .abandon, trivial, ?_⟩
    rw [leases_resume rfl]
    rfl
  | lost => exact ⟨_, .release (nextOp_of_procs hproc), henabled, hremoved⟩

theorem leases_step (h : Regular lockRules s) (hstep : step cfg s a = some t) :
    ∃ m, Moves s a m ∧ s.leases.Enabled m ∧ t.leases = s.leases.apply m := by
  cases step_cases hstep with
  | publish => exact ⟨.abandon s.next, .abandon, trivial, leases_abandon rfl rfl rfl⟩
  | inject => exact ⟨.idle, .idle, trivial, rfl⟩
  | deliver => exact ⟨.abandon s.next, .abandon, trivial, leases_abandon rfl rfl rfl⟩
  | @exec pid role p reaction u o k reply hproc hanswer =>
    have hallowed := h.head hproc
    cases o with
    | acquireConversationLock conversation token => exact leases_acquire hproc hallowed hanswer
    | releaseConversationLock conversation token => exact leases_release hproc hallowed hanswer
    | _ =>
      refine ⟨.idle, .idle, trivial, leases_idle hproc hanswer.sameHistory.procs ?_ ?_⟩
      · cases hanswer <;> first | rfl | exact locks_effect nofun nofun
      · exact Progress.held_next reply nofun nofun
  | crash => exact ⟨.abandon _, .abandon, trivial, leases_abandon rfl rfl rfl⟩
  | redeliver => exact ⟨.idle, .idle, trivial, rfl⟩
  | expireRetry => exact ⟨.idle, .idle, trivial, rfl⟩
  | expireLock => exact ⟨.expire _, .expire, trivial, rfl⟩

theorem running_of_held {token conversation : String} (h : Regular lockRules s)
    (hheld : s.leases.held pid = some (conversation, token)) : s.running pid = true := by
  obtain ⟨⟨role, rest, p⟩, hproc, hlease⟩ := Option.bind_eq_some_iff.mp hheld
  have hobeys := h.obeys pid _ hproc
  cases rest with
  | ret a =>
    have : p.held = none := hobeys
    simp [Proc.lease, this] at hlease
  | op o k => simp [State.running, nextOp_of_procs hproc]

theorem held_of_agentConversation {conversation : String} (h : Regular lockRules s)
    (hrun : s.agentConversation pid = some conversation) :
    ∃ token, s.leases.held pid = some (conversation, token) := by
  obtain ⟨o, hop, hconversation⟩ := Option.bind_eq_some_iff.mp hrun
  obtain ⟨role, k, p, hproc⟩ := procs_of_nextOp hop
  have hallowed := h.head hproc
  have hheld : p.held = some conversation := by
    cases o with
    | agent call => exact hallowed.trans hconversation
    | invoke call => exact hallowed.trans hconversation
    | _ => cases hconversation
  exact ⟨role.jobId, by rw [leases_held hproc, hheld]; rfl⟩

end

/-- No lock expires while the processing that acquired it is running. -/
def State.keepsLocks (s : State) : Action → Bool
  | .expireLock conversation => (s.locks conversation).all fun lock => !s.running lock.owner
  | _ => true

theorem exclusive_step {cfg : Config} {s t : State} {a : Action} (hregular : Regular lockRules s)
    (h : s.leases.Exclusive) (hok : s.keepsLocks a) (hstep : step cfg s a = some t) :
    t.leases.Exclusive := by
  obtain ⟨m, hmoves, henabled, ht⟩ := leases_step hregular hstep
  rw [ht]
  apply h.apply henabled
  rintro conversation rfl pid token hheld
  cases hmoves
  obtain ⟨lock, hlock, rfl⟩ := h pid conversation token hheld
  have hrunning := running_of_held hregular hheld
  change s.locks conversation = some lock at hlock
  simp [State.keepsLocks, hlock, hrunning] at hok

theorem exclusive_of_reach {cfg : Config} {s : State} (hcfg : cfg.Follows lockRules)
    (h : Reach (step cfg) (fun s a => s.keepsLocks a) {} s) :
    Regular lockRules s ∧ s.leases.Exclusive := by
  apply h.invariant
  · refine ⟨.start, ?_⟩
    intro pid conversation token hheld
    cases hheld
  · intro s a t hs hok hstep
    exact ⟨hs.1.step hcfg hstep, exclusive_step hs.1 hs.2 hok hstep⟩

end AgentsAtScale.Jobs
