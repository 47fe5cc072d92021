import AgentsAtScale.Jobs.Locks

namespace AgentsAtScale.Jobs

open Program Function Transition

def Op.checks : Op → Bool
  | .getJobStatus _ => true
  | .acquireConversationLock _ _ => true
  | .releaseConversationLock _ _ => true
  | .releaseIdempotencyKey _ => true
  | .retry _ _ => true
  | .deadLetter _ => true
  | .ack => true
  | .nack _ => true
  | _ => false

/-- A processing past its checks: it may store a status or run the agent next. -/
def Proc.engaged (proc : Proc) : Bool :=
  match proc.rest with
  | .ret _ => false
  | .op o _ => !o.checks && !proc.progress.final && !proc.progress.sent

namespace State

def engaged (s : State) (id : String) (pid : Nat) : Bool :=
  (s.procs pid).any fun proc => proc.role.jobId = id && proc.engaged

/-- The step takes a processing past its checks only while its job is not finished. -/
def entersUnfinished (s t : State) : Bool :=
  (List.range t.next).all fun pid =>
    (t.procs pid).all fun proc =>
      !proc.engaged || s.engaged proc.role.jobId pid || !isTerminal (s.status proc.role.jobId)

/-- A final status is stored only while no other processing of the job is past its
checks. -/
def settlesAlone (s : State) : Action → Bool
  | .exec pid _ =>
    match s.nextOp pid with
    | some (.setJobStatus id status) =>
      !isTerminal (some status) || (List.range s.next).all fun q => q = pid || !s.engaged id q
    | _ => true
  | _ => true

end State

def Action.honest : Action → Bool
  | .exec _ (.lost _) => false
  | _ => true

def Config.checksHold (cfg : Config) (s : State) (a : Action) : Bool :=
  a.honest && s.settlesAlone a && (step cfg s a).all fun t => s.entersUnfinished t

section

variable {svc : Service} {role : Role} {p : Progress} {o : Op}

theorem unsettled_of_agent {call : AgentCall} (h : role.Allowed svc p (.agent call)) :
    p.Unsettled := by
  rcases role.allowed_cases h with hnack | ⟨job, rfl, -, hjob⟩ | ⟨job, key, rfl, hjob⟩
  · cases hnack
  · exact ⟨hjob.2.1.final, hjob.2.1.sent⟩
  · exact hjob.elim

theorem not_allowed_invoke {call : AgentCall} : ¬ role.Allowed svc p (.invoke call) := by
  intro h
  rcases role.allowed_cases h with hnack | ⟨job, rfl, -, hjob⟩ | ⟨job, key, rfl, hjob⟩
  · cases hnack
  · exact hjob
  · exact hjob

end

section

variable {cfg : Config} {svc : Service} {s t u : State} {a : Action} {pid : Nat} {id : String}

theorem engaged_of_unsettled {role : Role} {o : Op} {k : o.Reply → Task Outcome} {p : Progress}
    (hproc : s.procs pid = some { role := role, rest := .op o k, progress := p })
    (ho : o.checks = false) (h : p.Unsettled) : s.engaged role.jobId pid = true := by
  simp [State.engaged, hproc, Proc.engaged, ho, h.1, h.2]

theorem engaged_of_nextOp_setJobStatus {status : Status}
    (hregular : Regular svc.rules s)
    (hop : s.nextOp pid = some (.setJobStatus id status)) : s.engaged id pid = true := by
  obtain ⟨role, k, p, hproc⟩ := procs_of_nextOp hop
  obtain ⟨rfl, h⟩ := unsettled_of_setJobStatus (hregular.head hproc)
  exact engaged_of_unsettled hproc rfl h

theorem engaged_of_nextOp_agent {o : Op}
    (hregular : Regular svc.rules s)
    (hop : s.nextOp pid = some o) (ho : o.agentConversation.isSome = true)
    (hid : s.jobId pid = some id) : s.engaged id pid = true := by
  obtain ⟨role, k, p, hproc⟩ := procs_of_nextOp hop
  simp only [State.jobId, hproc, Option.map_some, Option.some.injEq] at hid
  subst hid
  have hallowed := hregular.head hproc
  cases o with
  | agent call => exact engaged_of_unsettled hproc rfl (unsettled_of_agent hallowed)
  | invoke call => exact absurd hallowed not_allowed_invoke
  | _ => cases ho

def Settled (s : State) : Prop :=
  ∀ id, isTerminal (s.status id) = true → ∀ pid, s.engaged id pid = false

theorem final_next {status : Status} {p : Progress} (h : isTerminal (some status) = true) :
    (p.next (.setJobStatus id status) (.ok ())).final = true := by
  apply (Progress.raised_next (o := .setJobStatus id status) (.ok ())).final.trans
  simp only [Op.finalizes, h, Bool.or_true]

theorem settled_setJobStatus {role : Role} {status : Status} {p : Progress} {rest : Task Outcome}
    {k : Op.Reply (.setJobStatus id status) → Task Outcome} (hregular : Regular svc.rules s)
    (hprocs : u.procs = s.procs)
    (hproc : s.procs pid = some { role := role, rest := .op (.setJobStatus id status) k, progress := p })
    (halone : s.settlesAlone (.exec pid reaction)) (hterminal : isTerminal (some status) = true)
    (q : Nat) :
    (u.resume pid role (.setJobStatus id status) p (p.next (.setJobStatus id status) (.ok ()))
      rest).engaged id q = false := by
  simp only [State.engaged, State.resume, hprocs, update_apply]
  split
  · cases rest with
    | ret a => simp [Proc.engaged]
    | op o k => simp [Proc.engaged, final_next hterminal]
  · rename_i hq
    simp only [State.settlesAlone, nextOp_of_procs hproc, hterminal, Bool.not_true, Bool.false_or,
      List.all_eq_true, List.mem_range, Bool.or_eq_true, decide_eq_true_eq] at halone
    cases hproc' : s.procs q with
    | none => rfl
    | some proc =>
      have h := (halone q (hregular.numbered q proc hproc')).resolve_left hq
      simpa only [State.engaged, hproc', Bool.not_eq_true'] using h

theorem settled_step (hregular : Regular svc.rules s) (hregular' : Regular svc.rules t)
    (h : Settled s) (hok : cfg.checksHold s a) (hstep : step cfg s a = some t) : Settled t := by
  intro id hterminal pid
  simp only [Config.checksHold, hstep, Bool.and_eq_true, Option.all_some] at hok
  obtain ⟨⟨hhonest, halone⟩, henters⟩ := hok
  by_cases hsame : t.status id = s.status id
  · rw [hsame] at hterminal
    have hnot := h id hterminal pid
    by_contra hengaged
    simp only [Bool.not_eq_false, State.engaged] at hengaged
    obtain ⟨proc, hproc, hp⟩ := (Option.any_eq_true _ _).mp hengaged
    simp only [Bool.and_eq_true, decide_eq_true_eq] at hp
    simp only [State.entersUnfinished, List.all_eq_true, List.mem_range] at henters
    have := henters pid (hregular'.numbered pid proc hproc)
    simp [hproc, hp.1, hp.2, hnot, hterminal] at this
  · cases step_cases hstep with
    | exec hproc hanswer =>
      obtain ⟨status, rfl, hstatus⟩ := (status_answer hanswer id).resolve_left hsame
      cases hanswer with
      | done hreply =>
        cases hreply
        have hterminal : isTerminal (some status) = true := hstatus ▸ hterminal
        exact settled_setJobStatus hregular State.sameHistory_effect.procs hproc halone hterminal pid
      | failed => exact absurd rfl hsame
      | lost => cases hhonest
    | _ => exact absurd rfl hsame

theorem finished_step (hregular : Regular svc.rules s) (h : Settled s)
    (hterminal : isTerminal (s.status id) = true) (hstep : step cfg s a = some t) :
    t.status id = s.status id ∧ t.agentRuns id = s.agentRuns id := by
  constructor
  · rcases status_step hstep id with heq | ⟨pid, reaction, status, -, hop, -⟩
    · exact heq
    · have := engaged_of_nextOp_setJobStatus hregular hop
      rw [h id hterminal pid] at this
      cases this
  · rcases agentRuns_step hstep id with heq | ⟨pid, reaction, o, -, hop, ho, hid⟩
    · exact heq
    · have := engaged_of_nextOp_agent hregular hop ho hid
      rw [h id hterminal pid] at this
      cases this

structure Orderly (svc : Service) (s : State) : Prop where
  regular : Regular svc.rules s
  settled : Settled s

theorem orderly_step {queues : Nat} (h : Orderly svc s) (hok : (svc.config queues).checksHold s a)
    (hstep : step (svc.config queues) s a = some t) : Orderly svc t := by
  have hregular := h.regular.step (svc.config_follows queues) hstep
  exact ⟨hregular, settled_step h.regular hregular h.settled hok hstep⟩

theorem orderly_start : Orderly svc {} where
  regular := .start
  settled _ hterminal := by cases hterminal

end

theorem finished_stays (svc : Service) (queues : Nat) (s t : State) (id : String)
    (hs : Reach (step (svc.config queues)) (fun s a => (svc.config queues).checksHold s a) {} s)
    (hterminal : isTerminal (s.status id) = true)
    (ht : Reach (step (svc.config queues)) (fun s a => (svc.config queues).checksHold s a) s t) :
    t.status id = s.status id ∧ t.agentRuns id = s.agentRuns id := by
  have horderly : Orderly svc s :=
    hs.invariant orderly_start fun _ _ _ h hok hstep => orderly_step h hok hstep
  have hinv : Orderly svc t ∧ t.status id = s.status id ∧ t.agentRuns id = s.agentRuns id := by
    apply ht.invariant
    · exact ⟨horderly, rfl, rfl⟩
    · rintro u a v ⟨hu, hstatus, hruns⟩ hok hstep
      rw [← hstatus] at hterminal
      have hkept := finished_step hu.regular hu.settled hterminal hstep
      exact ⟨orderly_step hu hok hstep, hkept.1.trans hstatus, hkept.2.trans hruns⟩
  exact hinv.2

theorem finished_stays_sample :
    ∃ s t, Reach (step Sample.config) (fun s a => Sample.config.checksHold s a) {} s ∧
      Reach (step Sample.config) (fun s a => Sample.config.checksHold s a) s t ∧
      s.status "job" = some .completed ∧ s.running 2 = true ∧ t.running 2 = false ∧
      t.status "job" = some .completed ∧ t.agentRuns "job" = s.agentRuns "job" := by
  obtain ⟨s, hs, hrun⟩ := reach_of_any (step Sample.config)
    (fun s a => Sample.config.checksHold s a) {}
    (Sample.published ++ [.deliver 0, .redeliver 1, .deliver 0, .exec 1 .done, .exec 1 .done] ++
      Sample.started 1 ++ Sample.finished 1)
    (fun s => decide (s.status "job" = some .completed) && s.running 2 &&
      (run (step Sample.config) (fun s a => Sample.config.checksHold s a) s
        [.exec 2 .done, .exec 2 .done]).any fun t => !t.running 2) (by decide +kernel)
  simp only [Bool.and_eq_true, decide_eq_true_eq] at hrun
  obtain ⟨⟨hstatus, hrunning⟩, hrest⟩ := hrun
  obtain ⟨t, ht, hdone⟩ := reach_of_any _ _ _ _ _ hrest
  have h := finished_stays Sample.service 2 s t "job" hs (by rw [hstatus]; rfl) ht
  exact ⟨s, t, hs, ht, hstatus, hrunning, by simpa using hdone, h.1.trans hstatus, h.2⟩

def State.reliable (s : State) (a : Action) : Bool := a.honest && s.keepsLocks a

def Sample.overlapping : List Action :=
  Sample.published ++ [.deliver 0, .redeliver 1, .deliver 0, .exec 1 .done, .exec 2 .done] ++
    [.exec 1 .done] ++ Sample.started 1 ++ Sample.finished 1

def Sample.rerun : List Action :=
  [.exec 1 .done, .exec 1 .done, .exec 2 .done] ++ Sample.started 2 ++ [.exec 2 (.events [])]

/-- Two deliveries read the status before either has finished.  The second gets the
lock once the first has completed the job, overwrites its status and runs the agent
again. -/
theorem finished_job_runs_again :
    ∃ s t, Reach (step Sample.config) (fun s a => s.reliable a) {} s ∧
      Reach (step Sample.config) (fun s a => s.reliable a) s t ∧
      s.status "job" = some .completed ∧ s.agentRuns "job" = 1 ∧
      t.status "job" = some .processing ∧ t.agentRuns "job" = 2 := by
  obtain ⟨s, hs, hrun⟩ := reach_of_any (step Sample.config)
    (fun s a => s.reliable a) {} Sample.overlapping
    (fun s => decide (s.status "job" = some .completed) && decide (s.agentRuns "job" = 1) &&
      (run (step Sample.config) (fun s a => s.reliable a) s Sample.rerun).any
        fun t : State => decide (t.status "job" = some .processing) && decide (t.agentRuns "job" = 2))
    (by decide +kernel)
  simp only [Bool.and_eq_true, decide_eq_true_eq] at hrun
  obtain ⟨⟨hstatus, hruns⟩, hrest⟩ := hrun
  obtain ⟨t, ht, hagain⟩ := reach_of_any _ _ _ _ _ hrest
  simp only [Bool.and_eq_true, decide_eq_true_eq] at hagain
  exact ⟨s, t, hs, ht, hstatus, hruns, hagain.1, hagain.2⟩

end AgentsAtScale.Jobs
