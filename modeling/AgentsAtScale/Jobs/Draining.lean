import AgentsAtScale.Jobs.Conversations

namespace AgentsAtScale.Jobs

open Program Function Transition

/-- The reaction with which an operation succeeds.  The agent completes at once. -/
def Op.success : Op → Reaction
  | .now => .time 0
  | .agent _ => .events []
  | .invoke _ => .result (.ok {})
  | _ => .done

def Op.reply : (o : Op) → o.Reply
  | .getJobStatus _ => Except.ok none
  | .setIdempotencyKeyNX _ _ => Except.ok true
  | .getIdempotencyKey _ => Except.ok none
  | .acquireConversationLock _ _ => Except.ok true
  | .agent _ => []
  | .invoke _ => Except.ok {}
  | .now => (0 : Int)
  | .setJobStatus _ _ => Except.ok ()
  | .setJobMetadata _ _ => Except.ok ()
  | .markJobTiming _ _ _ => Except.ok ()
  | .setJobTiming _ _ _ => Except.ok ()
  | .releaseIdempotencyKey _ => Except.ok ()
  | .releaseConversationLock _ _ => Except.ok ()
  | .publish _ => Except.ok ()
  | .retry _ _ => Except.ok ()
  | .deadLetter _ => Except.ok ()
  | .ack => Except.ok ()
  | .nack _ => Except.ok ()

namespace State

/-- Nothing fails, crashes or is added from outside.  A delivery is made again only when its
processing has ended without settling it. -/
def calm (s : State) : Action → Prop
  | .publish _ _ _ => False
  | .inject _ => False
  | .crash _ => False
  | .exec pid reaction => ∀ o, s.nextOp pid = some o → reaction = o.success
  | .deliver _ => True
  | .redeliver pid => s.running pid = false
  | .expireRetry _ => True
  | .expireLock _ => True

def bare (s : State) : State :=
  { status := s.status
    metadata := s.metadata
    timing := s.timing
    idempotency := s.idempotency
    locks := s.locks
    main := s.main
    retry := s.retry
    dead := s.dead
    unacked := s.unacked }

variable {cfg : Config} {s t : State} {pid : Nat} {o : Op}

theorem bare_effect : (s.effect cfg pid o).bare = s.bare.effect cfg pid o := by
  cases o with
  | nack requeue => cases requeue <;> rfl
  | retry job level =>
    simp only [effect]
    split <;> rfl
  | _ => rfl

theorem reply_bare : s.bare.reply cfg o = s.reply cfg o := by
  cases o <;> rfl

def handle (cfg : Config) (pid : Nat) (o : Op) (s : State) : o.Reply × State :=
  ((s.reply cfg o).getD o.reply, s.effect cfg pid o)

theorem answer_success : s.answer cfg pid o o.success = some (handle cfg pid o s) := by
  cases o with
  | retry job level =>
    simp only [Op.success, answer, reply, handle]
    split <;> rfl
  | _ => rfl

theorem handle_bare : handle cfg pid o s.bare = ((handle cfg pid o s).1, (handle cfg pid o s).2.bare) := by
  simp only [handle, reply_bare, bare_effect]

theorem exists_ended (cfg : Config) {role : Role} {rest : Task Outcome} {p : Progress}
    (h : s.procs pid = some { role := role, rest := rest, progress := p }) :
    ∃ t, Reach (step cfg) calm s t ∧ t.running pid = false ∧ (∀ q, q ≠ pid → t.procs q = s.procs q) ∧
      t.next = s.next ∧ t.bare = (rest.interpret (handle cfg pid) s.bare).2 := by
  induction rest generalizing s p with
  | ret outcome =>
    refine ⟨s, .refl, ?_, fun _ _ => rfl, rfl, rfl⟩
    simp only [running, nextOp, h, Option.isSome_none]
  | op o k ih =>
    let u := (handle cfg pid o s).2.resume pid role o p (p.next o (handle cfg pid o s).1)
      (k (handle cfg pid o s).1)
    have hsame : SameHistory s (handle cfg pid o s).2 := sameHistory_effect
    have hstep : step cfg s (.exec pid o.success) = some u := by
      simp only [step, h, answer_success, Option.map_some]
      rfl
    have hcalm : s.calm (.exec pid o.success) := by
      intro o' ho'
      cases (nextOp_of_procs h).symm.trans ho'
      rfl
    obtain ⟨t, ht, hended, hothers, hnext, hbare⟩ := ih (handle cfg pid o s).1 (s := u) procs_resume_self
    refine ⟨t, ht.head hcalm hstep, hended, ?_, ?_, ?_⟩
    · intro q hq
      rw [hothers q hq]
      exact procs_resume_of_ne hsame hq
    · exact hnext.trans hsame.next
    · rw [hbare, Prog.interpret, handle_bare]
      rfl

end State

open State

/-- A processing that succeeds settles its delivery, adds nothing to the queues, and
leaves its job and all finished jobs with a final status. -/
structure Drained (pid : Nat) (message : Message) (s t : State) : Prop where
  main : t.main = s.main
  retry : t.retry = s.retry
  unacked : t.unacked = s.unacked.filter (·.1 ≠ pid)
  terminal : ∀ id, isTerminal (s.status id) = true → isTerminal (t.status id) = true
  finished : ∀ job, message = .job job → isBlank job.id = false → job.payload.isSome = true →
    isTerminal (t.status job.id) = true

section

variable {cfg : Config} {pid : Nat} {s : State} {job : Job}

theorem isTerminal_update {status : String → Option Status} {id : String} {final : Status}
    (hfinal : isTerminal (some final) = true) (id' : String)
    (h : isTerminal (status id') = true) : isTerminal (update status id (some final) id') = true := by
  by_cases hid : id' = id
  · subst hid
    rw [update_self]
    exact hfinal
  · rw [update_of_ne hid]
    exact h

theorem isTerminal_update_self {status : String → Option Status} {id : String} {final : Status}
    (hfinal : isTerminal (some final) = true) : isTerminal (update status id (some final) id) = true := by
  rw [update_self]
  exact hfinal

theorem interpret_acquireConversationLock {conversation token : String}
    {f : Except String Bool → Task α} :
    (Store.acquireConversationLock conversation token >>= f).interpret (handle cfg pid) s =
      (f (.ok (s.locks conversation).isNone)).interpret (handle cfg pid)
        (s.effect cfg pid (.acquireConversationLock conversation token)) := rfl

theorem interpret_getJobStatus {id : String} {f : Except String (Option Status) → Task α} :
    (Store.getJobStatus id >>= f).interpret (handle cfg pid) s =
      (f (.ok (s.status id))).interpret (handle cfg pid) s := rfl

theorem isTerminal_finish {status : String → Option Status} {id : String} (id' : String)
    (h : isTerminal (status id') = true) :
    isTerminal (update (update status id (some .processing)) id (some .completed) id') = true := by
  rw [update_idem]
  exact isTerminal_update rfl id' h

namespace Service

theorem drained_ack (h : isTerminal (s.status job.id) = true) :
    Drained pid (.job job) s (ack.interpret (handle cfg pid) s).2 :=
  ⟨rfl, rfl, rfl, fun _ h => h, by rintro _ ⟨⟩ _ _; exact h⟩

theorem drained_deadLetter (err : String) :
    Drained pid (.job job) s ((deadLetter job err).interpret (handle cfg pid) s).2 :=
  ⟨rfl, rfl, rfl, isTerminal_update rfl, by rintro _ ⟨⟩ _ _; exact isTerminal_update_self rfl⟩

theorem drained_processRequest (svc : Service) {request : AgentRequest}
    (hfree : s.locks request.conversation = none) :
    Drained pid (.job job) s ((svc.processRequest job request).interpret (handle cfg pid) s).2 := by
  rw [processRequest, interpret_acquireConversationLock, hfree]
  exact ⟨rfl, rfl, rfl, isTerminal_finish, by rintro _ ⟨⟩ _ _; exact isTerminal_update_self rfl⟩

theorem drained_process (svc : Service)
    (hfree : ∀ request, decodeAgentRequest job.payload = .ok request →
      s.locks request.conversation = none) :
    Drained pid (.job job) s ((svc.process (.job job)).interpret (handle cfg pid) s).2 := by
  rw [process]
  split
  · rename_i hblank
    exact ⟨rfl, rfl, rfl, fun _ h => h, by rintro _ ⟨⟩ h; exact absurd (h.symm.trans hblank) Bool.false_ne_true⟩
  · rw [interpret_getJobStatus]
    dsimp only
    split
    · exact drained_ack ‹_›
    · rw [processUnfinished]
      split
      · exact drained_deadLetter _
      · split
        · exact drained_deadLetter _
        · split
          · exact drained_deadLetter _
          · exact drained_processRequest svc (hfree _ ‹_›)

end Service

namespace Python.JobService

def DrainsWith (cfg : Config) (pid : Nat) (job : Job) (s : State) (p : Task (Except String Unit)) :
    Prop :=
  (p.interpret (handle cfg pid) s).1 = .ok () ∧
    Drained pid (.job job) s (p.interpret (handle cfg pid) s).2

theorem drainsWith_deadLetter (err : String) : DrainsWith cfg pid job s (deadLetter job err) :=
  ⟨rfl, rfl, rfl, rfl, isTerminal_update rfl, by rintro _ ⟨⟩ _ _; exact isTerminal_update_self rfl⟩

theorem drainsWith_processRequest (svc : JobService) {request : AgentRequest}
    (hfree : s.locks request.conversation = none) :
    DrainsWith cfg pid job s (svc.processRequest job request) := by
  rw [DrainsWith, processRequest, interpret_acquireConversationLock, hfree]
  exact ⟨rfl, rfl, rfl, rfl, isTerminal_finish,
    by rintro _ ⟨⟩ _ _; exact isTerminal_update_self rfl⟩

theorem drainsWith_process (svc : JobService) {payload : Json}
    (hfree : ∀ request, validateRequest payload = .ok request → s.locks request.conversation = none) :
    DrainsWith cfg pid job s (svc.process job payload) := by
  rw [DrainsWith, process, interpret_getJobStatus]
  dsimp only
  split
  · rename_i hterminal
    exact ⟨rfl, rfl, rfl, rfl, fun _ h => h, by rintro _ ⟨⟩ _ _; exact hterminal⟩
  · split
    · exact drainsWith_deadLetter _
    · split
      · exact drainsWith_deadLetter _
      · exact drainsWith_processRequest svc (hfree _ ‹_›)

theorem drained_consume (svc : JobService)
    (hfree : ∀ payload request, job.payload = some payload → validateRequest payload = .ok request →
      s.locks request.conversation = none) :
    Drained pid (.job job) s ((svc.consume (.job job)).interpret (handle cfg pid) s).2 := by
  rw [consume]
  split
  · rename_i hpayload
    exact ⟨rfl, rfl, rfl, fun _ h => h, by rintro _ ⟨⟩ _ h; rw [hpayload] at h; cases h⟩
  · rename_i payload hpayload
    split
    · rename_i hid
      refine ⟨rfl, rfl, rfl, fun _ h => h, ?_⟩
      rintro _ ⟨⟩ h
      rw [hid] at h
      cases h
    · have hdrains : DrainsWith cfg pid job s (svc.process job payload) :=
        drainsWith_process svc fun request => hfree payload request hpayload
      obtain ⟨hok, hdrained⟩ := hdrains
      rw [Prog.interpret_bind, hok]
      exact hdrained

end Python.JobService

end

def Config.Drains (cfg : Config) : Prop :=
  ∀ message, ∃ conversation, ∀ pid (s : State), s.locks conversation = none →
    Drained pid message s ((cfg.process message).interpret (handle cfg pid) s).2

theorem Service.config_drains (svc : Service) (retryQueues : Nat) :
    (svc.config retryQueues).Drains := by
  intro message
  cases message with
  | invalid err => exact ⟨"", fun _ _ _ => ⟨rfl, rfl, rfl, fun _ h => h, nofun⟩⟩
  | job job =>
    refine ⟨(decodeAgentRequest job.payload).toOption.elim "" AgentRequest.conversation, ?_⟩
    intro pid s hfree
    change Drained pid _ s ((svc.process (.job job) >>= fun _ => pure Outcome.processed).interpret _ s).2
    rw [Prog.interpret_bind]
    apply drained_process
    intro request hrequest
    rw [hrequest] at hfree
    exact hfree

theorem Python.JobService.config_drains (svc : JobService) (retryQueues : Nat) :
    (svc.config retryQueues).Drains := by
  intro message
  cases message with
  | invalid err => exact ⟨"", fun _ _ _ => ⟨rfl, rfl, rfl, fun _ h => h, nofun⟩⟩
  | job job =>
    refine ⟨(job.payload.bind fun payload => (validateRequest payload).toOption).elim ""
      AgentRequest.conversation, ?_⟩
    intro pid s hfree
    change Drained pid _ s ((svc.consume (.job job) >>= fun _ => pure Outcome.processed).interpret _ s).2
    rw [Prog.interpret_bind]
    apply drained_consume
    intro payload request hpayload hrequest
    rw [hpayload, Option.bind_some, hrequest] at hfree
    exact hfree

theorem Stack.config_drains (stack : Stack) (retryQueues : Nat) :
    (stack.config retryQueues).Drains := by
  cases stack with
  | adkGo service => exact service.config_drains retryQueues
  | langgraphPython service => exact service.config_drains retryQueues

namespace State

variable {cfg : Config} {s t : State}

def idle (s : State) : Prop := ∀ pid, s.running pid = false

def pending (s : State) (job : Job) : Prop :=
  .job job ∈ s.main ∨ (∃ level, (level, job) ∈ s.retry) ∨
    ∃ pid, s.running pid = false ∧ (pid, .job job) ∈ s.unacked

structure Queues (s t : State) : Prop where
  unacked : ∀ pid message, s.running pid = false → (pid, message) ∈ s.unacked → (pid, message) ∈ t.unacked
  main : ∀ message ∈ s.main, message ∈ t.main
  retry : ∀ entry ∈ s.retry, entry ∈ t.retry

theorem Queues.effect {pid : Nat} (h : Queues s t) (hpid : s.running pid = true) (o : Op) :
    Queues s (t.effect cfg pid o) where
  unacked q message hq hmem := by
    have hne : q ≠ pid := by
      rintro rfl
      rw [hq] at hpid
      cases hpid
    have hkept := h.unacked q message hq hmem
    cases o with
    | ack => exact mem_unacked_settle.mpr ⟨hkept, hne⟩
    | nack requeue => cases requeue <;> exact mem_unacked_settle.mpr ⟨hkept, hne⟩
    | retry job level =>
      simp only [State.effect]
      split <;> exact hkept
    | _ => exact hkept
  main message hmem := by
    have hmain := h.main message hmem
    cases o with
    | publish job => exact List.mem_append_left _ hmain
    | nack requeue =>
      cases requeue with
      | true => exact List.mem_append_left _ hmain
      | false => exact hmain
    | retry job level =>
      simp only [State.effect]
      split <;> exact hmain
    | _ => exact hmain
  retry entry hmem := by
    have hretry := h.retry entry hmem
    cases o with
    | nack requeue => cases requeue <;> exact hretry
    | retry job level =>
      simp only [State.effect]
      split
      · exact hretry
      · exact List.mem_append_left _ hretry
    | _ => exact hretry

theorem running_of_none {pid : Nat} (h : s.procs pid = none) : s.running pid = false := by
  simp only [running, nextOp, h, Option.isSome_none]

theorem running_congr {pid : Nat} (h : t.procs pid = s.procs pid) : t.running pid = s.running pid := by
  simp only [running, nextOp, h]

theorem exists_ended_below (cfg : Config) (s : State) (n : Nat) :
    ∃ t, Reach (step cfg) calm s t ∧ Queues s t ∧ (∀ pid < n, t.running pid = false) ∧
      (∀ pid, n ≤ pid → t.procs pid = s.procs pid) ∧ t.next = s.next := by
  induction n with
  | zero => exact ⟨s, .refl, ⟨fun _ _ _ h => h, fun _ h => h, fun _ h => h⟩, nofun, fun _ _ => rfl, rfl⟩
  | succ n ih =>
    obtain ⟨t, ht, hqueues, hended, hrest, hnext⟩ := ih
    by_cases hrunning : s.running n = true
    · obtain ⟨role, rest, p, hproc⟩ : ∃ role rest p, s.procs n =
          some { role := role, rest := rest, progress := p } := by
        cases hproc : s.procs n with
        | none =>
          rw [running_of_none hproc] at hrunning
          cases hrunning
        | some proc => exact ⟨proc.role, proc.rest, proc.progress, rfl⟩
      obtain ⟨u, hu, huended, hothers, hunext, hbare⟩ :=
        exists_ended cfg ((hrest n (Nat.le_refl n)).trans hproc)
      have hkept : Queues s u.bare := by
        rw [hbare]
        exact Prog.interpret_invariant (I := Queues s) (fun o t h => h.effect hrunning o) _
          ⟨hqueues.unacked, hqueues.main, hqueues.retry⟩
      refine ⟨u, ht.trans hu, ⟨hkept.unacked, hkept.main, hkept.retry⟩, ?_, ?_, hunext.trans hnext⟩
      · intro pid hpid
        rcases Nat.lt_succ_iff_lt_or_eq.mp hpid with hlt | rfl
        · rw [running_congr (hothers pid (Nat.ne_of_lt hlt))]
          exact hended pid hlt
        · exact huended
      · intro pid hpid
        rw [hothers pid (Nat.ne_of_gt hpid)]
        exact hrest pid (Nat.le_of_succ_le hpid)
    · refine ⟨t, ht, hqueues, ?_, fun pid hpid => hrest pid (Nat.le_of_succ_le hpid), hnext⟩
      intro pid hpid
      rcases Nat.lt_succ_iff_lt_or_eq.mp hpid with hlt | rfl
      · exact hended pid hlt
      · rw [running_congr (hrest pid (Nat.le_refl pid))]
        exact eq_false_of_ne_true hrunning

theorem exists_idle (cfg : Config) (hnumbered : ∀ pid proc, s.procs pid = some proc → pid < s.next) :
    ∃ t, Reach (step cfg) calm s t ∧ Queues s t ∧ t.idle := by
  obtain ⟨t, ht, hqueues, hended, hrest, -⟩ := exists_ended_below cfg s s.next
  refine ⟨t, ht, hqueues, ?_⟩
  intro pid
  by_cases hpid : pid < s.next
  · exact hended pid hpid
  · apply running_of_none
    rw [hrest pid (Nat.le_of_not_lt hpid)]
    cases hproc : s.procs pid with
    | none => rfl
    | some proc => exact absurd (hnumbered pid proc hproc) hpid

theorem exists_requeued (cfg : Config) (hidle : s.idle) :
    ∃ t, Reach (step cfg) calm s t ∧ t.unacked = [] ∧ t.idle ∧ t.retry = s.retry ∧
      (∀ message ∈ s.main, message ∈ t.main) ∧
      ∀ pid message, (pid, message) ∈ s.unacked → message ∈ t.main := by
  induction hn : s.unacked.length using Nat.strongRecOn generalizing s with
  | ind n ih =>
    cases hunacked : s.unacked with
    | nil => exact ⟨s, .refl, hunacked, hidle, rfl, fun _ h => h, nofun⟩
    | cons first rest =>
      obtain ⟨pid, message⟩ := first
      have hlt : (s.requeue pid).unacked.length < n := by
        rw [← hn]
        apply List.length_filter_lt_length_iff_exists.mpr
        exact ⟨(pid, message), by rw [hunacked]; exact List.mem_cons_self, by simp⟩
      obtain ⟨t, ht, hnil, htidle, hretry, hmain, htaken⟩ := ih _ hlt (s := s.requeue pid) hidle rfl
      refine ⟨t, ht.head (a := .redeliver pid) (hidle pid) rfl, hnil, htidle, hretry, ?_, ?_⟩
      · intro message hmem
        exact hmain message (List.mem_append_left _ hmem)
      · intro q message' hmem
        rw [← hunacked] at hmem
        by_cases hq : q = pid
        · subst hq
          apply hmain _ (List.mem_append_right _ _)
          exact List.mem_map.mpr ⟨_, List.mem_filter.mpr ⟨hmem, by simp⟩, rfl⟩
        · exact htaken q message' (mem_unacked_settle.mpr ⟨hmem, hq⟩)

theorem exists_undelayed (cfg : Config) (hunacked : s.unacked = []) (hidle : s.idle) :
    ∃ t, Reach (step cfg) calm s t ∧ t.unacked = [] ∧ t.idle ∧ t.retry = [] ∧
      (∀ message ∈ s.main, message ∈ t.main) ∧ ∀ entry ∈ s.retry, .job entry.2 ∈ t.main := by
  induction hretry : s.retry generalizing s with
  | nil => exact ⟨s, .refl, hunacked, hidle, hretry, fun _ h => h, nofun⟩
  | cons entry rest ih =>
    obtain ⟨level, job⟩ := entry
    let u : State := { s with main := s.main ++ [.job job], retry := rest }
    have hstep : step cfg s (.expireRetry 0) = some u := by
      simp only [step, hretry, List.getElem?_cons_zero, List.eraseIdx_cons_zero]
      rfl
    obtain ⟨t, ht, htunacked, htidle, htretry, hmain, hjobs⟩ := ih (s := u) hunacked hidle rfl
    refine ⟨t, ht.head (a := .expireRetry 0) trivial hstep, htunacked, htidle, htretry, ?_, ?_⟩
    · intro message hmem
      exact hmain message (List.mem_append_left _ hmem)
    · intro e he
      rcases List.mem_cons.mp he with rfl | he
      · exact hmain _ (List.mem_append_right _ List.mem_cons_self)
      · exact hjobs e he

theorem exists_first_drained {message : Message} {rest : List Message} (hcfg : cfg.Drains)
    (hunacked : s.unacked = []) (hidle : s.idle) (hmain : s.main = message :: rest) :
    ∃ t, Reach (step cfg) calm s t ∧ t.main = rest ∧ t.retry = s.retry ∧ t.unacked = [] ∧ t.idle ∧
      (∀ id, isTerminal (s.status id) = true → isTerminal (t.status id) = true) ∧
      ∀ job, message = .job job → isBlank job.id = false → job.payload.isSome = true →
        isTerminal (t.status job.id) = true := by
  obtain ⟨conversation, hdrains⟩ := hcfg message
  let free := s.setLock conversation none
  let delivered : State :=
    { free.spawn (.worker message) (cfg.process message) with
      main := rest
      unacked := [(s.next, message)] }
  have hdeliver : step cfg free (.deliver 0) = some delivered := by
    have hfree : free.main = message :: rest := hmain
    simp only [step, hfree, List.getElem?_cons_zero, List.eraseIdx_cons_zero]
    simp only [delivered, free, setLock, hunacked, List.nil_append]
  have hproc : delivered.procs s.next =
      some { role := .worker message, rest := cfg.process message } := procs_spawn_self
  obtain ⟨t, ht, hended, hothers, -, hbare⟩ := exists_ended cfg hproc
  have hdrained : Drained s.next message delivered.bare t.bare := by
    rw [hbare]
    exact hdrains s.next delivered.bare (update_self ..)
  have hreach : Reach (step cfg) calm s t := by
    apply Reach.head (a := .expireLock conversation) trivial rfl
    exact ht.head (a := .deliver 0) trivial hdeliver
  refine ⟨t, hreach, hdrained.main, hdrained.retry, ?_, ?_, hdrained.terminal, hdrained.finished⟩
  · exact hdrained.unacked.trans (by simp [delivered, bare])
  · intro pid
    by_cases hpid : pid = s.next
    · rw [hpid]
      exact hended
    · have hsame : t.procs pid = s.procs pid :=
        (hothers pid hpid).trans (procs_spawn_of_ne (s := free) hpid)
      rw [running_congr hsame]
      exact hidle pid

theorem exists_drained (hcfg : cfg.Drains) (hunacked : s.unacked = []) (hidle : s.idle)
    (hretry : s.retry = []) :
    ∃ t, Reach (step cfg) calm s t ∧ t.main = [] ∧ t.retry = [] ∧ t.unacked = [] ∧ t.idle ∧
      (∀ id, isTerminal (s.status id) = true → isTerminal (t.status id) = true) ∧
      ∀ job, .job job ∈ s.main → isBlank job.id = false → job.payload.isSome = true →
        isTerminal (t.status job.id) = true := by
  induction hmain : s.main generalizing s with
  | nil => exact ⟨s, .refl, hmain, hretry, hunacked, hidle, fun _ h => h, nofun⟩
  | cons message rest ih =>
    obtain ⟨u, hu, humain, huretry, huunacked, huidle, hterminal, hfinished⟩ :=
      exists_first_drained hcfg hunacked hidle hmain
    obtain ⟨t, ht, hnil, hnoretry, hnounacked, htidle, hkept, hjobs⟩ :=
      ih huunacked huidle (huretry.trans hretry) humain
    refine ⟨t, hu.trans ht, hnil, hnoretry, hnounacked, htidle, fun id hid => hkept id (hterminal id hid), ?_⟩
    intro job hjob hid hpayload
    rcases List.mem_cons.mp hjob with hmessage | hjob
    · exact hkept job.id (hfinished job hmessage.symm hid hpayload)
    · exact hjobs job hjob hid hpayload

end State

/-- From every state that a deployment can reach, whatever has failed, crashed or been
redelivered before, the workers can still empty the queues and bring every job that waits in
them to a final status. -/
theorem drains_from_anywhere (stack : Stack) (retryQueues : Nat) (s : State)
    (h : Reaches (step (stack.config retryQueues)) {} s) :
    ∃ t, Reach (step (stack.config retryQueues)) State.calm s t ∧
      t.main = [] ∧ t.retry = [] ∧ t.unacked = [] ∧ t.idle ∧
      ∀ job, s.pending job → isBlank job.id = false → job.payload.isSome = true →
        isTerminal (t.status job.id) = true := by
  have hregular : Regular lockRules s := by
    apply h.invariant Regular.start
    intro s a t hs _ hstep
    exact hs.step (stack.config_follows retryQueues) hstep
  obtain ⟨s₁, h₁, hqueues, hidle₁⟩ :=
    State.exists_idle (stack.config retryQueues) hregular.numbered
  obtain ⟨s₂, h₂, hunacked₂, hidle₂, hretry₂, hmain₂, htaken⟩ :=
    State.exists_requeued (stack.config retryQueues) hidle₁
  obtain ⟨s₃, h₃, hunacked₃, hidle₃, hretry₃, hmain₃, hjobs⟩ :=
    State.exists_undelayed (stack.config retryQueues) hunacked₂ hidle₂
  obtain ⟨t, ht, hnil, hretry, hunacked, hidle, -, hfinished⟩ :=
    State.exists_drained (stack.config_drains retryQueues) hunacked₃ hidle₃ hretry₃
  refine ⟨t, ((h₁.trans h₂).trans h₃).trans ht, hnil, hretry, hunacked, hidle, ?_⟩
  intro job hjob
  apply hfinished
  obtain hmem | ⟨level, hmem⟩ | ⟨pid, hended, hmem⟩ := hjob
  · exact hmain₃ _ (hmain₂ _ (hqueues.main _ hmem))
  · apply hjobs (level, job)
    rw [hretry₂]
    exact hqueues.retry _ hmem
  · exact hmain₃ _ (htaken pid _ (hqueues.unacked pid _ hended hmem))

def Sample.sound : Message → Bool
  | .job job => job.id = "job" && job.payload.isSome
  | .invalid _ => false

theorem drains_from_anywhere_sample :
    ∃ s t, Reaches (step ((Stack.adkGo Sample.service).config 2)) {} s ∧
      (s.locks "u:s").isSome = true ∧ Reach (step ((Stack.adkGo Sample.service).config 2)) State.calm s t ∧
      t.main = [] ∧ isTerminal (t.status "job") = true := by
  obtain ⟨s, hs, hstate⟩ := reach_of_any (step Sample.config) (fun _ _ => True) {}
    (Sample.published ++ [.deliver 0, .exec 1 .done, .exec 1 .done, .crash 1])
    (fun s => (s.locks "u:s").isSome && s.main.any Sample.sound) (by decide +kernel)
  rw [Bool.and_eq_true, List.any_eq_true] at hstate
  obtain ⟨hlock, message, hmem, hjob⟩ := hstate
  cases message with
  | invalid err => cases hjob
  | job job =>
    simp only [Sample.sound, Bool.and_eq_true, decide_eq_true_eq] at hjob
    obtain ⟨t, ht, hmain, -, -, -, hfinished⟩ := drains_from_anywhere (.adkGo Sample.service) 2 s hs
    have hterminal := hfinished job (.inl hmem) (by rw [hjob.1]; decide +kernel) hjob.2
    rw [hjob.1] at hterminal
    exact ⟨s, t, hs, hlock, ht, hmain, hterminal⟩

end AgentsAtScale.Jobs
