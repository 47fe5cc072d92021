import AgentsAtScale.Jobs.Copies

namespace AgentsAtScale.Jobs

open Program Function Transition

structure Progress.Live (p : Progress) : Prop where
  sent : p.sent = false
  acked : p.acked = false
  unsent : p.unsent = false

structure Progress.Closed (p : Progress) : Prop where
  settled : p.sent = true ∨ p.acked = true
  unsent : p.unsent = false

inductive Attempts (p p' : Progress) : Op → Prop
  | idle {o : Op} : p'.failure = p.failure → p'.ran = p.ran → o.agentConversation = none → Attempts p p' o
  | fail {o : Op} : p.failure = none → p'.failure = some err → p'.ran = p.ran →
    o.agentConversation = none → Attempts p p' o
  | run : p.failure = none → p.ran = false → p'.failure = none → p'.ran = true →
    Attempts p p' (.agent call)
  | runFail : p.failure = none → p.ran = false → p'.failure = some err → p'.ran = true →
    Attempts p p' (.agent call)

structure Lives (s : State) (id : String) (l : Life) : Prop where
  copies : s.copies id = l.phase.copies
  failures : s.failures id = l.failures
  runs : s.agentRuns id = l.runs
  accepted : s.accepted id = l.phase.published
  closed : ∀ pid job rest p,
    s.procs pid = some { role := .worker (.job job), rest := rest, progress := p } →
    job.id = id → l.phase.holder ≠ some pid → p.Closed
  active : ∀ pid job failure ran, l.phase = .processing pid job failure ran →
    ∃ rest p, s.procs pid = some { role := .worker (.job job), rest := rest, progress := p } ∧
      job.id = id ∧ p.Live ∧ p.failure = failure ∧ p.ran = ran ∧
      (p.final = true → isTerminal (s.status id) = true)
  finished : l.phase = .finished → isTerminal (s.status id) = true

section

variable {cfg : Config} {svc : Service} {s t u : State} {pid : Nat} {id : String} {l : Life}

theorem Phase.processing_of_holder {phase : Phase} (h : phase.holder = some pid) :
    ∃ job failure ran, phase = .processing pid job failure ran := by
  cases phase with
  | processing pid' job failure ran =>
    cases h
    exact ⟨job, failure, ran, rfl⟩
  | _ => cases h

theorem Lives.procs_of_holder (h : Lives s id l) (hholder : l.phase.holder = some pid) :
    ∃ job rest p, s.procs pid = some { role := .worker (.job job), rest := rest, progress := p } ∧
      job.id = id ∧ p.Live := by
  obtain ⟨job, failure, ran, hphase⟩ := Phase.processing_of_holder hholder
  obtain ⟨rest, p, hproc, hid, hlive, -⟩ := h.active pid job failure ran hphase
  exact ⟨job, rest, p, hproc, hid, hlive⟩

theorem Lives.unpublished (h : Lives s id l) (haccepted : s.accepted id = false) :
    l.phase = .unpublished := by
  have hpublished := h.accepted.symm.trans haccepted
  cases hphase : l.phase <;> rw [hphase] at hpublished <;> first | rfl | cases hpublished

theorem Lives.frame (h : Lives s id l) (hcopies : t.copies id = s.copies id)
    (hfailures : t.failures id = s.failures id) (hruns : t.agentRuns id = s.agentRuns id)
    (haccepted : t.accepted id = s.accepted id)
    (hworkers : ∀ q job rest p, job.id = id →
      t.procs q = some { role := .worker (.job job), rest := rest, progress := p } →
      s.procs q = some { role := .worker (.job job), rest := rest, progress := p } ∨ p.Closed)
    (hholder : ∀ q, l.phase.holder = some q → t.procs q = s.procs q)
    (hstatus : t.status id = s.status id ∨ l.phase = .unpublished) : Lives t id l where
  copies := hcopies.trans h.copies
  failures := hfailures.trans h.failures
  runs := hruns.trans h.runs
  accepted := haccepted.trans h.accepted
  closed q job rest p hq hid hne := by
    rcases hworkers q job rest p hid hq with hq | hclosed
    · exact h.closed q job rest p hq hid hne
    · exact hclosed
  active q job failure ran hphase := by
    obtain ⟨rest, p, hq, hid, hlive, hfailure, hran, hfinal⟩ := h.active q job failure ran hphase
    refine ⟨rest, p, ?_, hid, hlive, hfailure, hran, ?_⟩
    · rw [hholder q (by rw [hphase]; rfl), hq]
    · rcases hstatus with hstatus | hnew
      · rwa [hstatus]
      · cases hphase.symm.trans hnew
  finished hphase := by
    rcases hstatus with hstatus | hnew
    · rw [hstatus]
      exact h.finished hphase
    · cases hphase.symm.trans hnew

section

variable {role : Role} {o : Op} {k : o.Reply → Task Outcome} {p p' : Progress} {reaction : Reaction}
  {reply : o.Reply} {rest : Task Outcome}

theorem failures_resume (hsame : State.SameHistory s u)
    (h : role.jobId ≠ id ∨ (∃ job key, role = .publisher job key) ∨ p'.failure = p.failure) :
    (u.resume pid role o p p' rest).failures id = s.failures id := by
  cases role with
  | publisher job key => exact congrFun hsame.failures id
  | worker message =>
    simp only [State.resume, State.record, hsame.failures]
    cases hnone : p.failure with
    | some err => rfl
    | none =>
      cases hsome : p'.failure with
      | none => rfl
      | some err =>
        rcases h with h | ⟨job, key, h⟩ | h
        · exact update_of_ne (Ne.symm h) ..
        · cases h
        · cases hnone.symm.trans (h.symm.trans hsome)

theorem failures_resume_fail {message : Message} {err : String} (hsame : State.SameHistory s u)
    (hid : (Role.worker message).jobId = id) (hnone : p.failure = none)
    (hsome : p'.failure = some err) :
    (u.resume pid (.worker message) o p p' rest).failures id = s.failures id ++ [err] := by
  subst hid
  simp only [State.resume, State.record, hsame.failures, hnone, hsome, update_self]

theorem agentRuns_resume (hsame : State.SameHistory s u)
    (h : role.jobId ≠ id ∨ o.agentConversation = none) :
    (u.resume pid role o p p' rest).agentRuns id = s.agentRuns id := by
  have counted (hne : role.jobId ≠ id) :
      update u.agentRuns role.jobId (u.agentRuns role.jobId + 1) id = s.agentRuns id := by
    rw [update_of_ne (Ne.symm hne), hsame.agentRuns]
  cases o with
  | agent call => exact counted (h.resolve_right nofun)
  | invoke call => exact counted (h.resolve_right nofun)
  | _ => exact congrFun hsame.agentRuns id

theorem agentRuns_resume_run {call : AgentCall} (hsame : State.SameHistory s u)
    (hid : role.jobId = id) :
    (u.resume pid role (.agent call) p p' rest).agentRuns id = s.agentRuns id + 1 := by
  subst hid
  simp only [State.resume, State.record, hsame.agentRuns, update_self]

theorem accepted_resume_of_ne (hsame : State.SameHistory s u)
    (h : ∀ job, o = .publish job → job.id ≠ id) :
    (u.resume pid role o p p' rest).accepted id = s.accepted id := by
  cases o with
  | publish job =>
    simp only [State.resume, State.record, hsame.accepted, update_of_ne (Ne.symm (h job rfl))]
  | _ => exact congrFun hsame.accepted id

theorem id_of_job? {job : Job} (h : role.Allowed svc p o) (ho : o.job? = some job) :
    job.id = role.jobId := by
  rcases role.allowed_cases h with rfl | ⟨job', rfl, -, hjob⟩ | ⟨job', key, rfl, hjob⟩
  · cases ho
  · cases o with
    | publish job => exact hjob.elim
    | retry job level =>
      cases ho
      exact Job.id_of_retry hjob
    | deadLetter job =>
      cases ho
      exact Job.id_of_deadLetter hjob
    | _ => cases ho
  · cases o with
    | publish job =>
      cases ho
      rw [hjob.1]
      rfl
    | retry job level => exact hjob.elim
    | deadLetter job => exact hjob.elim
    | _ => cases ho

theorem Lives.exec_frame (h : Lives s id l)
    (hproc : s.procs pid = some { role := role, rest := .op o k, progress := p })
    (hanswer : s.Answer cfg pid o reaction reply u) (hholder : l.phase.holder ≠ some pid)
    (hcopies : (u.resume pid role o p p' rest).copies id = s.copies id)
    (hfailures : role.jobId ≠ id ∨ (∃ job key, role = .publisher job key) ∨ p'.failure = p.failure)
    (hruns : role.jobId ≠ id ∨ o.agentConversation = none)
    (haccepted : ∀ job, o = .publish job → job.id ≠ id)
    (hclosed : ∀ job, role = .worker (.job job) → job.id = id → p'.Closed)
    (hstatus : u.status id = s.status id ∨ l.phase = .unpublished) :
    Lives (u.resume pid role o p p' rest) id l := by
  have hsame := hanswer.sameHistory
  refine h.frame hcopies (failures_resume hsame hfailures) (agentRuns_resume hsame hruns)
    (accepted_resume_of_ne hsame haccepted) ?_ ?_ hstatus
  · intro q job rest' p'' hid hq
    rcases procs_resume hsame hq with ⟨rfl, heq⟩ | ⟨-, hq⟩
    · cases heq
      exact .inr (hclosed job rfl hid)
    · exact .inl hq
  · intro q hq
    refine procs_resume_of_ne hsame ?_
    rintro rfl
    exact hholder hq

theorem Lives.exec_other (hregular : Regular svc.rules s) (h : Lives s id l)
    (hproc : s.procs pid = some { role := role, rest := .op o k, progress := p })
    (hanswer : s.Answer cfg pid o reaction reply u) (hid : role.jobId ≠ id) :
    Lives (u.resume pid role o p p' rest) id l := by
  have hallowed : role.Allowed svc p o := hregular.head hproc
  have hunacked (m : Message) (hmem : (pid, m) ∈ s.unacked) : m.jobId? ≠ some id := by
    obtain ⟨rest', p'', hm⟩ := hregular.manned pid m hmem
    cases hproc.symm.trans hm
    intro hm
    cases m with
    | job job => exact hid (Option.some.inj hm)
    | invalid err => cases hm
  refine h.exec_frame hproc hanswer ?_ ?_ (.inl hid) (.inl hid) ?_ ?_ ?_
  · intro hholder
    obtain ⟨job, rest', p'', hproc', rfl, -⟩ := h.procs_of_holder hholder
    cases hproc.symm.trans hproc'
    exact hid rfl
  · rw [copies_resume (.inr fun m hm => hunacked m (unacked_answer hanswer hm))]
    rcases hanswer.state with rfl | rfl
    · rfl
    · refine State.copies_effect (fun job hjob hjid => ?_) hunacked
      exact hid (by rw [← id_of_job? hallowed hjob, hjid])
  · rintro job rfl rfl
    exact hid (id_of_job? hallowed rfl).symm
  · rintro job rfl rfl
    exact absurd rfl hid
  · rcases status_answer hanswer id with heq | ⟨status, rfl, -⟩
    · exact .inl heq
    · exact absurd (unsettled_of_setJobStatus hallowed).1 hid

theorem Progress.Closed.not_live (h : p.Closed) : ¬ (p.sent = false ∧ p.acked = false) := by
  rintro ⟨hsent, hacked⟩
  rcases h.settled with h | h
  · cases hsent.symm.trans h
  · cases hacked.symm.trans h

theorem Progress.Closed.ops {job : Job} (h : p.Closed) (hallowed : job.Allowed svc p o) :
    o = .ack ∧ p.sent = true ∨ (∃ conversation token, o = .releaseConversationLock conversation token) ∨
      o = .now := by
  have hopen (hopen : p.Open) : False := h.not_live ⟨hopen.sent, hopen.acked⟩
  cases o with
  | ack => exact .inl ⟨rfl, h.settled.resolve_right (by rw [hallowed.1]; nofun)⟩
  | releaseConversationLock conversation token => exact .inr (.inl ⟨conversation, token, rfl⟩)
  | now => exact .inr (.inr rfl)
  | getJobStatus id => exact (hopen hallowed.2.toOpen).elim
  | acquireConversationLock conversation token => exact (hopen hallowed.2.2.toOpen).elim
  | setJobStatus id status => exact (hopen hallowed.2.1).elim
  | setJobMetadata id metadata => exact (hopen hallowed.2.toOpen).elim
  | markJobTiming id field ms => exact (hopen hallowed.2.toOpen).elim
  | setJobTiming id field value =>
    rcases hallowed.2 with hworking | ⟨-, hlive⟩
    · exact (hopen hworking.toOpen).elim
    · exact (h.not_live hlive).elim
  | agent call => exact (hopen hallowed.2.1.toOpen).elim
  | retry job' level => exact (hopen hallowed.1).elim
  | deadLetter job' => exact (h.not_live hallowed.1).elim
  | nack requeue => cases h.unsent.symm.trans hallowed.2.1
  | invoke call => exact hallowed.elim
  | publish job' => exact hallowed.elim
  | setIdempotencyKeyNX key id => exact hallowed.elim
  | getIdempotencyKey key => exact hallowed.elim
  | releaseIdempotencyKey key => exact hallowed.elim

theorem sentBy_of_sameHistory (hsame : State.SameHistory s u) : u.sentBy = s.sentBy := by
  funext q
  simp only [State.sentBy, hsame.procs]

theorem copies_settle_sent (h : s.sentBy pid = true) : (s.settle pid).copies id = s.copies id := by
  have hnone : (s.copies id).processing.filter (·.1 ≠ pid) = (s.copies id).processing := by
    apply List.filter_eq_self.mpr
    rintro ⟨q, m⟩ hmem
    simp only [State.copies, List.mem_filter, Bool.and_eq_true, Bool.not_eq_true'] at hmem
    refine decide_eq_true fun hq => ?_
    subst hq
    cases hmem.2.2.symm.trans h
  rw [State.copies_settle, hnone]

theorem copies_exec (hproc : s.procs pid = some { role := role, rest := .op o k, progress := p })
    (hanswer : s.Answer cfg pid o reaction reply u) (ho : o.toBroker = false)
    (hsent : p'.sent = p.sent) : (u.resume pid role o p p' rest).copies id = s.copies id := by
  have hsame := sentBy_of_sameHistory hanswer.sameHistory
  calc (u.resume pid role o p p' rest).copies id
      = u.copies id := copies_resume (.inl (by rw [hsame, sentBy_of_procs hproc, hsent]))
    _ = s.copies id := State.copies_congr (hanswer.sameQueues ho) fun q _ _ _ => congrFun hsame q

theorem Lives.exec_closed {job : Job} (h : Lives s id l) (hallowed : job.Allowed svc p o)
    (hproc : s.procs pid = some { role := .worker (.job job), rest := .op o k, progress := p })
    (hanswer : s.Answer cfg pid o reaction reply u) (hclosed : p.Closed) :
    Lives (u.resume pid (.worker (.job job)) o p (p.next o reply) rest) id l := by
  have hholder : l.phase.holder ≠ some pid := by
    intro hholder
    obtain ⟨job', rest', p', hproc', -, hlive⟩ := h.procs_of_holder hholder
    cases hproc.symm.trans hproc'
    exact hclosed.not_live ⟨hlive.sent, hlive.acked⟩
  rcases hclosed.ops hallowed with ⟨rfl, hp⟩ | ⟨conversation, token, rfl⟩ | rfl
  · refine h.exec_frame hproc hanswer hholder ?_ (.inr (.inr rfl)) (.inr rfl) nofun
      (fun _ _ _ => ⟨.inl hp, hclosed.unsent⟩) ?_
    · have hsent : u.sentBy pid = p.sent := by
        rw [sentBy_of_sameHistory hanswer.sameHistory, sentBy_of_procs hproc]
      have hresume : (u.resume pid (.worker (.job job)) .ack p (p.next .ack reply) rest).copies id =
          u.copies id := copies_resume (.inl hsent)
      rw [hresume]
      rcases hanswer.state with rfl | rfl
      · rfl
      · exact copies_settle_sent ((sentBy_of_procs hproc).trans hp)
    · exact .inl ((status_answer hanswer id).resolve_right nofun)
  · exact h.exec_frame hproc hanswer hholder (copies_exec hproc hanswer rfl rfl) (.inr (.inr rfl))
      (.inr rfl) nofun (fun _ _ _ => ⟨hclosed.settled, hclosed.unsent⟩)
      (.inl ((status_answer hanswer id).resolve_right nofun))
  · exact h.exec_frame hproc hanswer hholder (copies_exec hproc hanswer rfl rfl) (.inr (.inr rfl))
      (.inr rfl) nofun (fun _ _ _ => hclosed)
      (.inl ((status_answer hanswer id).resolve_right nofun))

theorem Lives.exec_publish {job : Job} {key : String} {log : List String} {n : Nat}
    {reply : Op.Reply (.publish job)} {k : Op.Reply (.publish job) → Task Outcome}
    (hregular : Regular svc.rules s) (h : Lives s job.id ⟨.unpublished, log, n⟩)
    (hproc : s.procs pid = some { role := .publisher job key, rest := .op (.publish job) k, progress := p })
    (hanswer : s.Answer cfg pid (.publish job) .done reply u) :
    Lives (u.resume pid (.publisher job key) (.publish job) p (p.next (.publish job) reply) rest) job.id
      ⟨.queued job.encoded, log, n⟩ := by
  have hsame := hanswer.sameHistory
  have hunacked (m : Message) (hmem : (pid, m) ∈ u.unacked) : m.jobId? ≠ some job.id := by
    obtain ⟨rest', p'', hm⟩ := hregular.manned pid m (unacked_answer hanswer hmem)
    cases hproc.symm.trans hm
  have hcopies : (u.resume pid (.publisher job key) (.publish job) p (p.next (.publish job) reply)
      rest).copies job.id = u.copies job.id := copies_resume (.inr hunacked)
  cases hanswer with
  | done hreply =>
    cases hreply
    refine
      { copies := ?_
        failures := (failures_resume hsame (.inr (.inl ⟨job, key, rfl⟩))).trans h.failures
        runs := (agentRuns_resume hsame (.inr rfl)).trans h.runs
        accepted := ?_
        closed := ?_
        active := by
          intro _ _ _ _ hphase
          cases hphase
        finished := by
          intro hphase
          cases hphase }
    · rw [hcopies]
      simp only [State.effect, State.copies_append_main, h.copies]
      exact congrArg (fun main => ({ main := main } : Copies)) (if_pos rfl)
    · simp [State.resume, State.record, Progress.next, Progress.send, Phase.published]
    · intro q job' rest' p' hq hid _
      rcases procs_resume hsame hq with ⟨rfl, heq⟩ | ⟨-, hq⟩
      · cases heq
      · refine h.closed q job' rest' p' hq hid ?_
        intro hholder
        cases hholder

theorem Lives.exec_publisher {job : Job} {key : String} {maxAttempts : Int} {queues : Nat}
    (hregular : Regular svc.rules s) (hdrawn : Drawn s) (h : Lives s job.id l)
    (hproc : s.procs pid = some { role := .publisher job key, rest := .op o k, progress := p })
    (hanswer : s.Answer cfg pid o reaction reply u) (hdone : o.toBroker = true → reaction = .done) :
    ∃ l', Lives (u.resume pid (.publisher job key) o p (p.next o reply) rest) job.id l' ∧
      (l' = l ∨ l.Next maxAttempts queues l') := by
  have hallowed : job.PublishAllowed key p o := hregular.head hproc
  obtain ⟨-, -, -, hattempt, hnew⟩ := hdrawn.publisher pid job key _ p hproc
  have hunpublished (hsent : p.sent = false) : l.phase = .unpublished := h.unpublished (hnew hsent)
  have hholder : l.phase.holder ≠ some pid := by
    intro hholder
    obtain ⟨job', rest', p', hproc', -⟩ := h.procs_of_holder hholder
    cases hproc.symm.trans hproc'
  have kept (ho : o.toBroker = false) (hsent : (p.next o reply).sent = p.sent)
      (hruns : o.agentConversation = none)
      (hstatus : u.status job.id = s.status job.id ∨ l.phase = .unpublished) :
      ∃ l', Lives (u.resume pid (.publisher job key) o p (p.next o reply) rest) job.id l' ∧
        (l' = l ∨ l.Next maxAttempts queues l') := by
    refine ⟨l, h.exec_frame hproc hanswer hholder (copies_exec hproc hanswer ho hsent)
      (.inr (.inl ⟨job, key, rfl⟩)) (.inr hruns) ?_ nofun hstatus, .inl rfl⟩
    rintro job' rfl
    cases ho
  have unchanged (ho : ∀ id status, o ≠ .setJobStatus id status) :
      u.status job.id = s.status job.id ∨ l.phase = .unpublished :=
    .inl ((status_answer hanswer job.id).resolve_right fun ⟨status, heq, _⟩ => ho _ _ heq)
  have hraised := Progress.raised_next (p := p) reply
  cases o with
  | publish job' =>
    obtain ⟨rfl, hopen, -⟩ := hallowed
    obtain rfl := hdone rfl
    obtain ⟨phase, log, n⟩ := l
    obtain rfl : phase = .unpublished := hunpublished hopen.sent
    exact ⟨_, h.exec_publish hregular hproc hanswer, .inr (.publish hattempt)⟩
  | setJobStatus id status =>
    refine kept rfl ?_ rfl (.inr (hunpublished hallowed.2.2))
    rw [hraised.sent]
    exact Bool.or_false _
  | markJobTiming id field ms =>
    refine kept rfl ?_ rfl (unchanged nofun)
    rw [hraised.sent]
    exact Bool.or_false _
  | now => exact kept rfl rfl rfl (unchanged nofun)
  | setIdempotencyKeyNX key id =>
    refine kept rfl ?_ rfl (unchanged nofun)
    rw [hraised.sent]
    exact Bool.or_false _
  | getIdempotencyKey key =>
    refine kept rfl ?_ rfl (unchanged nofun)
    rw [hraised.sent]
    exact Bool.or_false _
  | releaseIdempotencyKey key => exact kept rfl rfl rfl (unchanged nofun)
  | _ => exact hallowed.elim

theorem attempts_fail (err : String) (ho : o.agentConversation = none) :
    Attempts p (p.fail err) o := by
  unfold Progress.fail
  split
  · exact .idle rfl rfl ho
  · rename_i hnot
    simp only [Bool.or_eq_true, not_or, Bool.not_eq_true, Option.isSome_eq_false_iff,
      Option.isNone_iff_eq_none] at hnot
    exact .fail hnot.2 rfl rfl ho

theorem attempts_failOn (outcome : Except String Unit) (ho : o.agentConversation = none) :
    Attempts p (p.failOn outcome) o := by
  cases outcome with
  | error err => exact attempts_fail err ho
  | ok _ => exact .idle rfl rfl ho

theorem attempts_next {job : Job} (hallowed : job.Allowed svc p o) (reply : o.Reply) :
    Attempts p (p.next o reply) o := by
  cases o with
  | getJobStatus id =>
    cases reply with
    | error err => exact attempts_fail err rfl
    | ok status => exact .idle rfl rfl rfl
  | acquireConversationLock conversation token =>
    match reply with
    | .error err => exact attempts_fail err rfl
    | .ok true => exact .idle rfl rfl rfl
    | .ok false => exact .idle rfl rfl rfl
  | setJobStatus id status =>
    cases reply with
    | error err =>
      cases status with
      | processing => exact attempts_fail err rfl
      | completed => exact attempts_fail err rfl
      | waitingForConfirmation => exact attempts_fail err rfl
      | _ => exact .idle rfl rfl rfl
    | ok _ => cases status <;> exact .idle rfl rfl rfl
  | setJobMetadata id metadata => exact attempts_failOn reply rfl
  | markJobTiming id field ms => exact attempts_failOn reply rfl
  | setJobTiming id field value => exact attempts_failOn reply rfl
  | agent call =>
    obtain ⟨-, hworking, hran⟩ := hallowed
    simp only [Progress.next]
    split
    · rename_i err _
      unfold Progress.runFailed
      split
      · exact .run hworking.failure hran hworking.failure rfl
      · simp only [Progress.fail, hworking.refused, hworking.failure, Option.isSome_none,
          Bool.or_self, Bool.false_eq_true, if_false]
        exact .runFail hworking.failure hran rfl rfl
    · exact .run hworking.failure hran hworking.failure rfl
  | invoke call => exact hallowed.elim
  | publish job' => exact hallowed.elim
  | setIdempotencyKeyNX key id => exact hallowed.elim
  | getIdempotencyKey key => exact hallowed.elim
  | retry job' level => cases reply <;> exact .idle rfl rfl rfl
  | deadLetter job' => cases reply <;> exact .idle rfl rfl rfl
  | _ => exact .idle rfl rfl rfl

theorem terminal_of_final {job : Job} (hallowed : job.Allowed svc p o)
    (hanswer : s.Answer cfg pid o reaction reply u)
    (hfinal : p.final = true → isTerminal (s.status job.id) = true)
    (h : (p.next o reply).final = true) : isTerminal (u.status job.id) = true := by
  rw [(Progress.raised_next reply).final, Bool.or_eq_true] at h
  rcases status_answer hanswer job.id with heq | ⟨status, rfl, heq⟩
  · rw [heq]
    rcases h with h | h
    · exact hfinal h
    · cases hanswer with
      | done hreply =>
        cases o with
        | getJobStatus id =>
          cases hreply
          rw [← hallowed.1]
          exact h
        | setJobStatus id status =>
          cases hreply
          obtain ⟨rfl, -⟩ := hallowed
          have hstatus : (s.effect cfg pid (.setJobStatus job.id status)).status job.id =
            some status := update_self ..
          rw [← heq, hstatus]
          exact h
        | _ => cases h
      | failed hreply => cases (flags_error hreply).1.symm.trans h
      | lost hreply => cases (flags_error hreply).1.symm.trans h
      | time => cases h
      | events => cases h
      | result => cases h
  · rw [heq]
    rcases h with h | h
    · cases hallowed.2.1.final.symm.trans h
    · cases reply with
      | error err => cases h
      | ok _ => exact h

theorem flags_of_toBroker (ho : o.toBroker = false) (reply : o.Reply) :
    o.sends reply = false ∧ o.fails reply = false ∧ o.settles = false := by
  cases o with
  | publish job => cases ho
  | retry job level => cases ho
  | deadLetter job => cases ho
  | ack => cases ho
  | nack requeue => cases ho
  | _ => exact ⟨rfl, rfl, rfl⟩

theorem Lives.exec_working (rest : Task Outcome) {job : Job} {log : List String} {n : Nat}
    (h : Lives s job.id ⟨.processing pid job p.failure p.ran, log, n⟩)
    (hallowed : job.Allowed svc p o)
    (hproc : s.procs pid = some { role := .worker (.job job), rest := .op o k, progress := p })
    (hanswer : s.Answer cfg pid o reaction reply u) (ho : o.toBroker = false) :
    Lives (u.resume pid (.worker (.job job)) o p (p.next o reply) rest) job.id
      ⟨.processing pid job (p.next o reply).failure (p.next o reply).ran,
        (u.resume pid (.worker (.job job)) o p (p.next o reply) rest).failures job.id,
        (u.resume pid (.worker (.job job)) o p (p.next o reply) rest).agentRuns job.id⟩ := by
  have hsame := hanswer.sameHistory
  have hraised := Progress.raised_next (p := p) reply
  obtain ⟨hsends, hfails, hsettles⟩ := flags_of_toBroker ho reply
  obtain ⟨rest', p', hproc', -, hlive, -, -, hfinal⟩ := h.active pid job _ _ rfl
  cases hproc.symm.trans hproc'
  have hsent : (p.next o reply).sent = p.sent := by rw [hraised.sent, hsends, Bool.or_false]
  have hlive' : (p.next o reply).Live :=
    { sent := hsent.trans hlive.sent
      acked := by rw [hraised.acked, hsettles, hlive.acked]; rfl
      unsent := by rw [hraised.unsent, hfails, hlive.unsent]; rfl }
  exact
    { copies := (copies_exec hproc hanswer ho hsent).trans h.copies
      failures := rfl
      runs := rfl
      accepted := by
        refine (accepted_resume_of_ne hsame ?_).trans h.accepted
        rintro job' rfl
        cases ho
      closed := by
        intro q job' rest'' p'' hq hid hne
        rcases procs_resume hsame hq with ⟨rfl, -⟩ | ⟨-, hq⟩
        · exact absurd rfl hne
        · exact h.closed q job' rest'' p'' hq hid hne
      active := by
        rintro _ _ _ _ ⟨⟩
        exact ⟨rest, _, procs_resume_self, rfl, hlive', rfl, rfl,
          terminal_of_final (u := u) hallowed hanswer hfinal⟩
      finished := nofun }

theorem Lives.exec_attempt {job : Job} {log : List String} {n : Nat} {maxAttempts : Int}
    {queues : Nat} (h : Lives s job.id ⟨.processing pid job p.failure p.ran, log, n⟩)
    (hallowed : job.Allowed svc p o)
    (hproc : s.procs pid = some { role := .worker (.job job), rest := .op o k, progress := p })
    (hanswer : s.Answer cfg pid o reaction reply u) (ho : o.toBroker = false) :
    ∃ l', Lives (u.resume pid (.worker (.job job)) o p (p.next o reply) rest) job.id l' ∧
      (l' = ⟨.processing pid job p.failure p.ran, log, n⟩ ∨
        Life.Next maxAttempts queues ⟨.processing pid job p.failure p.ran, log, n⟩ l') := by
  have hsame := hanswer.sameHistory
  have hlives := h.exec_working rest hallowed hproc hanswer ho
  have hlog := h.failures
  have hn := h.runs
  have hid : (Role.worker (.job job)).jobId = job.id := rfl
  refine ⟨_, hlives, ?_⟩
  cases attempts_next hallowed reply with
  | idle hfailure hran hagent =>
    rw [failures_resume hsame (.inr (.inr hfailure)), agentRuns_resume hsame (.inr hagent), hfailure,
      hran, hlog, hn]
    exact .inl rfl
  | fail hnone hsome hran hagent =>
    rw [failures_resume_fail hsame hid hnone hsome, agentRuns_resume hsame (.inr hagent), hnone, hsome,
      hran, hlog, hn]
    exact .inr .fail
  | run hnone hfalse hnone' htrue =>
    rw [failures_resume hsame (.inr (.inr (hnone'.trans hnone.symm))), agentRuns_resume_run hsame hid,
      hnone, hfalse, hnone', htrue, hlog, hn]
    exact .inr .run
  | runFail hnone hfalse hsome htrue =>
    rw [failures_resume_fail hsame hid hnone hsome, agentRuns_resume_run hsame hid, hnone, hfalse,
      hsome, htrue, hlog, hn]
    exact .inr .runFail

theorem Lives.exec_handed {job : Job} {log : List String} {n : Nat} {failure : Option String}
    {ran : Bool} {phase : Phase} (h : Lives s job.id ⟨.processing pid job failure ran, log, n⟩)
    (hanswer : s.Answer cfg pid o reaction reply u)
    (hcopies : (u.resume pid (.worker (.job job)) o p p' rest).copies job.id = phase.copies)
    (hfailure : p'.failure = p.failure) (hagent : o.agentConversation = none)
    (ho : ∀ job', o ≠ .publish job') (hclosed : p'.Closed) (hholder : phase.holder = none)
    (hpublished : phase.published = true)
    (hfinished : phase = .finished → isTerminal (u.status job.id) = true) :
    Lives (u.resume pid (.worker (.job job)) o p p' rest) job.id ⟨phase, log, n⟩ := by
  have hsame := hanswer.sameHistory
  exact
    { copies := hcopies
      failures := (failures_resume hsame (.inr (.inr hfailure))).trans h.failures
      runs := (agentRuns_resume hsame (.inr hagent)).trans h.runs
      accepted := by
        refine (accepted_resume_of_ne hsame ?_).trans (h.accepted.trans hpublished.symm)
        intro job' heq
        exact absurd heq (ho job')
      closed := by
        intro q job' rest' p'' hq hid _
        rcases procs_resume hsame hq with ⟨rfl, heq⟩ | ⟨hne, hq⟩
        · cases heq
          exact hclosed
        · exact h.closed q job' rest' p'' hq hid fun heq => hne (Option.some.inj heq).symm
      active := by
        rintro q job' failure' ran' rfl
        cases hholder
      finished := hfinished }

theorem copies_handed (job : Job) (copies : Copies)
    (hcopies : u.copies id = { copies with processing := [(pid, .job job)] })
    (hsent : p'.sent = true) :
    (u.resume pid role o p p' rest).copies id = { copies with processing := [] } := by
  rw [copies_resume_sent hsent, hcopies]
  simp

theorem Lives.exec_retry {job job' : Job} {level : Int} {log : List String} {n : Nat}
    {reply : Op.Reply (.retry job' level)}
    (hqueues : cfg.retryQueues ≠ 0)
    (h : Lives s job.id ⟨.processing pid job p.failure p.ran, log, n⟩)
    (hallowed : job.Allowed svc p (.retry job' level)) (hlive : p.Live)
    (hanswer : s.Answer cfg pid (.retry job' level) .done reply u) :
    ∃ l', Lives (u.resume pid (.worker (.job job)) (.retry job' level) p (p.next _ reply) rest) job.id l' ∧
      Life.Next svc.options.maxAttempts cfg.retryQueues
        ⟨.processing pid job p.failure p.ran, log, n⟩ l' := by
  have hid := Job.id_of_retry hallowed
  refine ⟨⟨.delayed (retryLevel cfg.retryQueues level) job'.encoded, log, n⟩, ?_, ?_⟩
  · have hanswer' := hanswer
    cases hanswer with
    | done hreply =>
      simp only [State.reply, if_neg hqueues] at hreply
      cases hreply
      refine h.exec_handed hanswer' ?_ rfl rfl nofun ⟨.inl rfl, hlive.unsent⟩ rfl rfl nofun
      refine copies_handed job { retry := _ } ?_ rfl
      simp only [State.effect, if_neg hqueues, State.copies_append_retry, h.copies]
      exact congrArg (fun retry => ({ retry := retry, processing := [(pid, .job job)] } : Copies))
        (if_pos hid)
  · obtain ⟨-, hallowed⟩ := hallowed
    split at hallowed
    · rename_i hfailure
      obtain ⟨rfl, rfl, hmore⟩ := hallowed
      rw [hfailure]
      exact .retry hmore
    · rename_i hfailure
      obtain ⟨-, hran, rfl, rfl⟩ := hallowed
      rw [hfailure, hran]
      exact .busy

theorem Lives.exec_deadLetter {job job' : Job} {log : List String} {n : Nat} {queues : Nat}
    {reply : Op.Reply (.deadLetter job')}
    (h : Lives s job.id ⟨.processing pid job p.failure p.ran, log, n⟩)
    (hallowed : job.Allowed svc p (.deadLetter job')) (hlive : p.Live)
    (hanswer : s.Answer cfg pid (.deadLetter job') .done reply u) :
    ∃ l', Lives (u.resume pid (.worker (.job job)) (.deadLetter job') p (p.next _ reply) rest) job.id l' ∧
      Life.Next svc.options.maxAttempts queues ⟨.processing pid job p.failure p.ran, log, n⟩ l' := by
  have hid := Job.id_of_deadLetter hallowed
  refine ⟨⟨.dead job'.encoded, log, n⟩, ?_, ?_⟩
  · have hanswer' := hanswer
    cases hanswer with
    | done hreply =>
      cases hreply
      refine h.exec_handed hanswer' ?_ rfl rfl nofun ⟨.inl rfl, hlive.unsent⟩ rfl rfl nofun
      refine copies_handed job { dead := _ } ?_ rfl
      simp only [State.effect, State.copies_append_dead, h.copies]
      exact congrArg (fun dead => ({ dead := dead, processing := [(pid, .job job)] } : Copies))
        (if_pos hid)
  · obtain ⟨-, -, hallowed⟩ := hallowed
    split at hallowed
    · rename_i hfailure
      obtain ⟨rfl, hmore⟩ := hallowed
      rw [hfailure]
      exact .exhaust hmore
    · rename_i hfailure
      rw [hfailure]
      exact .refuse hallowed.2

theorem Lives.exec_ack {job : Job} {log : List String} {n : Nat} {queues : Nat}
    {maxAttempts : Int} {reply : Op.Reply .ack}
    (h : Lives s job.id ⟨.processing pid job p.failure p.ran, log, n⟩)
    (hallowed : job.Allowed svc p .ack) (hlive : p.Live)
    (hfinal : p.final = true → isTerminal (s.status job.id) = true)
    (hanswer : s.Answer cfg pid .ack .done reply u) :
    ∃ l', Lives (u.resume pid (.worker (.job job)) .ack p (p.next _ reply) rest) job.id l' ∧
      Life.Next maxAttempts queues ⟨.processing pid job p.failure p.ran, log, n⟩ l' := by
  obtain ⟨hp, hfailure⟩ := hallowed.2.resolve_right (by rw [hlive.sent]; nofun)
  refine ⟨⟨.finished, log, n⟩, ?_, ?_⟩
  · have hanswer' := hanswer
    cases hanswer with
    | done hreply =>
      refine h.exec_handed hanswer' ?_ rfl rfl nofun ⟨.inr rfl, hlive.unsent⟩ rfl rfl
        fun _ => hfinal hp
      have hunacked (m : Message) (hmem : (pid, m) ∈ (s.settle pid).unacked) :
          m.jobId? ≠ some job.id := absurd rfl (mem_unacked_settle.mp hmem).2
      refine (copies_resume (u := s.settle pid) (.inr hunacked)).trans ?_
      rw [State.copies_settle, h.copies]
      simp [Phase.copies]
  · rw [hfailure]
    exact .finish

theorem Lives.exec_holder {job : Job} {log : List String} {n : Nat} (hqueues : cfg.retryQueues ≠ 0)
    (h : Lives s job.id ⟨.processing pid job p.failure p.ran, log, n⟩)
    (hallowed : job.Allowed svc p o)
    (hproc : s.procs pid = some { role := .worker (.job job), rest := .op o k, progress := p })
    (hanswer : s.Answer cfg pid o reaction reply u) (hdone : o.toBroker = true → reaction = .done) :
    ∃ l', Lives (u.resume pid (.worker (.job job)) o p (p.next o reply) rest) job.id l' ∧
      (l' = ⟨.processing pid job p.failure p.ran, log, n⟩ ∨
        Life.Next svc.options.maxAttempts cfg.retryQueues
          ⟨.processing pid job p.failure p.ran, log, n⟩ l') := by
  obtain ⟨rest', p', hproc', -, hlive, -, -, hfinal⟩ := h.active pid job _ _ rfl
  cases hproc.symm.trans hproc'
  cases o with
  | retry job' level =>
    obtain rfl := hdone rfl
    obtain ⟨l', hlives, hnext⟩ := h.exec_retry hqueues hallowed hlive hanswer
    exact ⟨l', hlives, .inr hnext⟩
  | deadLetter job' =>
    obtain rfl := hdone rfl
    obtain ⟨l', hlives, hnext⟩ := h.exec_deadLetter hallowed hlive hanswer
    exact ⟨l', hlives, .inr hnext⟩
  | ack =>
    obtain rfl := hdone rfl
    obtain ⟨l', hlives, hnext⟩ := h.exec_ack hallowed hlive hfinal hanswer
    exact ⟨l', hlives, .inr hnext⟩
  | nack requeue => cases hlive.unsent.symm.trans hallowed.2.1
  | publish job' => exact hallowed.elim
  | _ => exact h.exec_attempt hallowed hproc hanswer rfl

theorem Lives.exec (hqueues : cfg.retryQueues ≠ 0) (hid : isBlank id = false)
    (hregular : Regular svc.rules s) (hdrawn : Drawn s) (h : Lives s id l)
    (hproc : s.procs pid = some { role := role, rest := .op o k, progress := p })
    (hanswer : s.Answer cfg pid o reaction reply u) (hdone : o.toBroker = true → reaction = .done) :
    ∃ l', Lives (u.resume pid role o p (p.next o reply) rest) id l' ∧
      (l' = l ∨ l.Next svc.options.maxAttempts cfg.retryQueues l') := by
  by_cases hrole : role.jobId = id
  · match role, hrole with
    | .publisher job key, rfl => exact h.exec_publisher hregular hdrawn hproc hanswer hdone
    | .worker (.invalid err), rfl => cases hid
    | .worker (.job job), rfl =>
      have hallowed : job.Allowed svc p o := by
        have hid : isBlank job.id = false := hid
        simpa only [Service.rules, Role.Allowed, hid, Bool.false_eq_true, if_false] using
          hregular.head hproc
      by_cases hholder : l.phase.holder = some pid
      · obtain ⟨phase, log, n⟩ := l
        obtain ⟨job', failure, ran, rfl⟩ := Phase.processing_of_holder hholder
        obtain ⟨rest', p', hproc', -, -, rfl, rfl, -⟩ := h.active pid job' failure ran rfl
        cases hproc.symm.trans hproc'
        exact h.exec_holder hqueues hallowed hproc hanswer hdone
      · have hclosed := h.closed pid job _ p hproc rfl hholder
        exact ⟨l, h.exec_closed hallowed hproc hanswer hclosed, .inl rfl⟩
  · exact ⟨l, h.exec_other hregular hproc hanswer hrole, .inl rfl⟩

end

theorem sentBy_spawn {role : Role} {program : Task Outcome} {q : Nat} (hq : q ≠ s.next) :
    (s.spawn role program).sentBy q = s.sentBy q := by
  simp only [State.sentBy, procs_spawn_of_ne hq]

theorem Lives.publish {payload : Option Json} {program : Task Outcome} {issued : String → Option Nat}
    {keys : String → String} {id' key : String} (hregular : Regular svc.rules s) (h : Lives s id l) :
    Lives { s.spawn (.publisher (Service.newJob id' payload) key) program with
      issued := issued
      keys := keys } id l := by
  refine h.frame ?_ rfl rfl rfl ?_ ?_ (.inl rfl)
  · refine State.copies_congr (s := s) ⟨rfl, rfl, rfl, rfl⟩ fun q m hmem _ => ?_
    obtain ⟨rest, p, hq⟩ := hregular.manned q m hmem
    exact sentBy_spawn (hregular.ne_next hq)
  · intro q job rest p _ hq
    rcases procs_spawn hq with ⟨-, heq⟩ | ⟨-, hq⟩
    · cases heq
    · exact .inl hq
  · intro q hq
    obtain ⟨job, rest, p, hproc, -⟩ := h.procs_of_holder hq
    exact procs_spawn_of_ne (hregular.ne_next hproc)

theorem filter_split {α : Type} {p : α → Bool} {l before after : List α} {a : α}
    (h : l = before ++ a :: after) (ha : p a = false) : (before ++ after).filter p = l.filter p := by
  simp [h, ha]

theorem filter_split_single {α : Type} {p : α → Bool} {l before after : List α} {a b : α}
    (h : l = before ++ a :: after) (ha : p a = true) (hl : l.filter p = [b]) :
    a = b ∧ (before ++ after).filter p = [] := by
  rw [h, List.filter_append, List.filter_cons_of_pos ha, List.append_eq_singleton_iff] at hl
  rcases hl with ⟨hbefore, hafter⟩ | ⟨-, hafter⟩
  · obtain ⟨rfl, hrest⟩ := List.cons.inj hafter
    exact ⟨rfl, by rw [List.filter_append, hbefore, hrest]; rfl⟩
  · cases hafter

theorem copies_deliver {before after : List Message} {message : Message} {program : Task Outcome}
    (hregular : Regular svc.rules s) :
    State.copies { s.spawn (.worker message) program with
      main := before ++ after
      unacked := s.unacked ++ [(s.next, message)] } id =
      { s.copies id with
        main := (before ++ after).filter (·.jobId? = some id)
        processing := (s.copies id).processing ++
          if message.jobId? = some id then [(s.next, message)] else [] } := by
  have hnew : (s.spawn (.worker message) program).sentBy s.next = false := by
    simp [State.sentBy, procs_spawn_self]
  have hold : s.unacked.filter (fun d => d.2.jobId? = some id &&
      !(s.spawn (.worker message) program).sentBy d.1) =
      s.unacked.filter fun d => d.2.jobId? = some id && !s.sentBy d.1 := by
    apply List.filter_congr
    rintro ⟨q, m⟩ hmem
    obtain ⟨rest, p, hq⟩ := hregular.manned q m hmem
    rw [sentBy_spawn (hregular.ne_next hq)]
  have hprocessing : (s.unacked ++ [(s.next, message)]).filter (fun d => d.2.jobId? = some id &&
      !(s.spawn (.worker message) program).sentBy d.1) = (s.copies id).processing ++
        if message.jobId? = some id then [(s.next, message)] else [] := by
    rw [List.filter_append, hold]
    simp [State.copies, List.filter_cons, hnew]
  rw [← hprocessing]
  rfl

theorem Phase.queued_of_main {phase : Phase} {message : Message}
    (h : message ∈ phase.copies.main) : ∃ job, phase = .queued job ∧ message = .job job := by
  cases phase with
  | queued job => exact ⟨job, rfl, List.mem_singleton.mp h⟩
  | _ => cases h

theorem Phase.delayed_of_retry {phase : Phase} {level : Nat} {job : Job}
    (h : (level, job) ∈ phase.copies.retry) : phase = .delayed level job := by
  cases phase with
  | delayed level' job' =>
    cases List.mem_singleton.mp h
    rfl
  | _ => cases h

theorem Lives.deliver {before after : List Message} {message : Message} {program : Task Outcome}
    {maxAttempts : Int} {queues : Nat} (hregular : Regular svc.rules s) (h : Lives s id l)
    (hmain : s.main = before ++ message :: after) :
    ∃ l', Lives { s.spawn (.worker message) program with
        main := before ++ after
        unacked := s.unacked ++ [(s.next, message)] } id l' ∧
      (l' = l ∨ l.Next maxAttempts queues l') := by
  have hcopies : s.main.filter (·.jobId? = some id) = l.phase.copies.main :=
    congrArg Copies.main h.copies
  by_cases hm : message.jobId? = some id
  · have hmem : message ∈ l.phase.copies.main := by
      rw [← hcopies, List.mem_filter, hmain]
      exact ⟨List.mem_append_right _ (.head _), decide_eq_true hm⟩
    obtain ⟨phase, log, n⟩ := l
    obtain ⟨job, rfl, rfl⟩ := Phase.queued_of_main hmem
    obtain ⟨-, hrest⟩ := filter_split_single hmain (decide_eq_true hm) hcopies
    refine ⟨⟨.processing s.next job none false, log, n⟩, ?_, .inr .deliver⟩
    exact
      { copies := by
          rw [copies_deliver hregular, if_pos hm, hrest, h.copies]
          rfl
        failures := h.failures
        runs := h.runs
        accepted := h.accepted
        closed := by
          intro q job' rest p hq hid hne
          rcases procs_spawn hq with ⟨rfl, -⟩ | ⟨-, hq⟩
          · exact absurd rfl hne
          · exact h.closed q job' rest p hq hid nofun
        active := by
          rintro _ _ _ _ ⟨⟩
          exact ⟨program, {}, procs_spawn_self, Option.some.inj hm, ⟨rfl, rfl, rfl⟩, rfl, rfl, nofun⟩
        finished := nofun }
  · refine ⟨l, h.frame ?_ rfl rfl rfl ?_ ?_ (.inl rfl), .inl rfl⟩
    · rw [copies_deliver hregular, if_neg hm, List.append_nil,
        filter_split hmain (decide_eq_false hm)]
      rfl
    · intro q job rest p hid hq
      rcases procs_spawn hq with ⟨-, heq⟩ | ⟨-, hq⟩
      · cases heq
        exact absurd (congrArg some hid) hm
      · exact .inl hq
    · intro q hq
      obtain ⟨job, rest, p, hproc, -⟩ := h.procs_of_holder hq
      exact procs_spawn_of_ne (hregular.ne_next hproc)

theorem Lives.inject {message : Message} {foreign : String → Bool} (h : Lives s id l)
    (hid : message.jobId? ≠ some id) :
    Lives { s with main := s.main ++ [message], foreign := foreign } id l := by
  refine h.frame ?_ rfl rfl rfl (fun _ _ _ _ _ hq => .inl hq) (fun _ _ => rfl) (.inl rfl)
  refine (State.copies_append_main message).trans ?_
  rw [if_neg hid, List.append_nil]

theorem Lives.expireRetry {before after : List (Nat × Job)} {level : Nat} {job : Job}
    {maxAttempts : Int} {queues : Nat} (h : Lives s id l)
    (hretry : s.retry = before ++ (level, job) :: after) :
    ∃ l', Lives { s with main := s.main ++ [.job job], retry := before ++ after } id l' ∧
      (l' = l ∨ l.Next maxAttempts queues l') := by
  have hcopies : s.retry.filter (·.2.id = id) = l.phase.copies.retry :=
    congrArg Copies.retry h.copies
  have happend : State.copies { s with main := s.main ++ [.job job], retry := before ++ after } id =
      { s.copies id with
        main := (s.copies id).main ++ if (Message.job job).jobId? = some id then [.job job] else []
        retry := (before ++ after).filter (·.2.id = id) } :=
    State.copies_append_main (s := { s with retry := before ++ after }) (.job job)
  by_cases hid : job.id = id
  · have hmem : (level, job) ∈ l.phase.copies.retry := by
      rw [← hcopies, List.mem_filter, hretry]
      exact ⟨List.mem_append_right _ (.head _), decide_eq_true hid⟩
    obtain ⟨phase, log, n⟩ := l
    obtain rfl : phase = .delayed level job := Phase.delayed_of_retry hmem
    obtain ⟨-, hrest⟩ := filter_split_single hretry (decide_eq_true hid) hcopies
    refine ⟨⟨.queued job, log, n⟩, ?_, .inr .expire⟩
    exact
      { copies := by
          have hm : (Message.job job).jobId? = some id := congrArg some hid
          rw [happend, if_pos hm, hrest, h.copies]
          rfl
        failures := h.failures
        runs := h.runs
        accepted := h.accepted
        closed := fun q job' rest p hq hid _ => h.closed q job' rest p hq hid nofun
        active := nofun
        finished := nofun }
  · refine ⟨l, h.frame ?_ rfl rfl rfl (fun _ _ _ _ _ hq => .inl hq) (fun _ _ => rfl) (.inl rfl), .inl rfl⟩
    have hm : (Message.job job).jobId? ≠ some id := fun heq => hid (Option.some.inj heq)
    rw [happend, if_neg hm, List.append_nil, filter_split hretry (decide_eq_false hid)]
    rfl

theorem Lives.crash (hregular : Regular svc.rules s) (h : Lives s id l)
    (hworker : ∀ message rest p,
      s.procs pid ≠ some { role := .worker message, rest := rest, progress := p }) :
    Lives { s.requeue pid with procs := update s.procs pid none } id l := by
  have hunacked (m : Message) (hmem : (pid, m) ∈ s.unacked) : m.jobId? ≠ some id := by
    obtain ⟨rest, p, hm⟩ := hregular.manned pid m hmem
    exact absurd hm (hworker m rest p)
  refine h.frame ?_ rfl rfl rfl ?_ ?_ (.inl rfl)
  · calc State.copies { s.requeue pid with procs := update s.procs pid none } id
        = (s.requeue pid).copies id := by
          refine State.copies_congr (s := s.requeue pid) ⟨rfl, rfl, rfl, rfl⟩ fun q m hmem _ => ?_
          simp only [State.sentBy, update_of_ne (mem_unacked_settle.mp hmem).2]
          rfl
      _ = s.copies id := State.copies_requeue hunacked
  · intro q job rest p _ hq
    exact .inl (procs_crash hq).2
  · intro q hq
    obtain ⟨job, rest, p, hproc, -⟩ := h.procs_of_holder hq
    refine update_of_ne ?_ ..
    rintro rfl
    exact hworker _ _ _ hproc

end

/-- The broker does what it is told and redelivers nothing, no worker crashes, and
nobody else puts jobs of ours on the queue.  The store, the locks and the agent may
do what they like. -/
def State.undisturbed (s : State) : Action → Bool
  | .exec pid reaction =>
    match s.nextOp pid, reaction with
    | _, .done => true
    | some o, _ => !o.toBroker
    | none, _ => true
  | .inject message => (s.issued (Role.worker message).jobId).isNone
  | .crash pid =>
    match s.procs pid with
    | some { role := .worker _, .. } => false
    | _ => true
  | .redeliver _ => false
  | _ => true

theorem lives_step {cfg : Config} {svc : Service} {s t : State} {a : Action} {id : String} {l : Life}
    (hqueues : cfg.retryQueues ≠ 0) (hid : isBlank id = false) (hregular : Regular svc.rules s)
    (hdrawn : Drawn s) (h : Lives s id l) (hok : s.undisturbed a) (hstep : step cfg s a = some t)
    (hforeign : t.foreign id = false) :
    ∃ l', Lives t id l' ∧ (l' = l ∨ l.Next svc.options.maxAttempts cfg.retryQueues l') := by
  cases step_cases hstep with
  | publish => exact ⟨l, h.publish hregular, .inl rfl⟩
  | @inject message =>
    refine ⟨l, h.inject ?_, .inl rfl⟩
    intro hm
    cases message with
    | invalid err => cases hm
    | job job =>
      obtain rfl := Option.some.inj hm
      cases (update_self (f := s.foreign) ..).symm.trans hforeign
  | deliver hmain => exact h.deliver hregular hmain
  | @exec pid role p reaction u o k reply hproc hanswer =>
    refine h.exec hqueues hid hregular hdrawn hproc hanswer fun ho => ?_
    simp only [State.undisturbed, nextOp_of_procs hproc] at hok
    split at hok
    · rfl
    · rename_i heq _
      cases heq
      simp [ho] at hok
    · rename_i heq _
      cases heq
  | @crash pid =>
    refine ⟨l, h.crash hregular ?_, .inl rfl⟩
    intro message rest p hproc
    simp [State.undisturbed, hproc] at hok
  | redeliver => cases hok
  | expireRetry hretry => exact h.expireRetry hretry
  | expireLock =>
    exact ⟨l, h.frame rfl rfl rfl rfl (fun _ _ _ _ _ hq => .inl hq) (fun _ _ => rfl) (.inl rfl),
      .inl rfl⟩

end AgentsAtScale.Jobs
