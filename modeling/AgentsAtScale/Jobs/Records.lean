import AgentsAtScale.Jobs.Conversations
import AgentsAtScale.Jobs.Marks

namespace AgentsAtScale.Jobs

open Program Function Transition

def Stack.decode : Stack → Option Json → Except String AgentRequest
  | .adkGo _ => decodeAgentRequest
  | .langgraphPython _ => Python.JobService.decodeRequest

def Role.Obeyed (decode : Option Json → Except String AgentRequest) (role : Role) (t : Task Outcome)
    (m : Marks) : Prop :=
  t.wp (marking fun m o => role.Writes decode m o) (fun _ _ => True) m

structure Config.Writes (cfg : Config) (decode : Option Json → Except String AgentRequest) : Prop where
  worker : ∀ message, (Role.worker message).Obeyed decode (cfg.process message) {}
  publisher : ∀ id payload key,
    (Role.publisher (Service.newJob id payload) key).Obeyed decode (cfg.publish id payload key) {}

theorem Service.config_writes (s : Service) (retryQueues : Nat) :
    (s.config retryQueues).Writes decodeAgentRequest where
  worker
    | .invalid err => ⟨rfl, fun _ _ => trivial⟩
    | .job job => by
      apply Prog.wp_bind _ _ _ (written_process job)
      exact fun _ _ _ => trivial
  publisher id payload key := by
    apply Prog.wp_bind _ _ _ (written_publish id payload key)
    exact fun _ _ _ => trivial

theorem Python.JobService.config_writes (s : Python.JobService) (retryQueues : Nat) :
    (s.config retryQueues).Writes decodeRequest where
  worker
    | .invalid err => ⟨rfl, fun _ _ => trivial⟩
    | .job job => by
      apply Prog.wp_bind _ _ _ (written_consume job)
      exact fun _ _ _ => trivial
  publisher id payload key := by
    apply Prog.wp_bind _ _ _ (written_publish id payload key)
    exact fun _ _ _ => trivial

theorem Stack.config_writes (stack : Stack) (retryQueues : Nat) :
    (stack.config retryQueues).Writes stack.decode := by
  cases stack with
  | adkGo service => exact service.config_writes retryQueues
  | langgraphPython service => exact service.config_writes retryQueues

inductive State.Copy (s : State) (job : Job) : Prop
  | queued (h : .job job ∈ s.main)
  | delayed (level : Nat) (h : (level, job) ∈ s.retry)
  | delivered (pid : Nat) (h : (pid, .job job) ∈ s.unacked)
  | processing (pid : Nat) (rest : Task Outcome) (p : Progress)
      (h : s.procs pid = some { role := .worker (.job job), rest := rest, progress := p })

section

variable {cfg : Config} {s t u : State} {a : Action} {pid : Nat} {o : Op} {job : Job}

theorem State.Copy.mono (h : t.Copy job) (hmain : t.main ⊆ s.main) (hretry : t.retry ⊆ s.retry)
    (hunacked : t.unacked ⊆ s.unacked)
    (hprocs : ∀ q rest p, t.procs q = some { role := .worker (.job job), rest := rest, progress := p } →
      s.procs q = some { role := .worker (.job job), rest := rest, progress := p }) : s.Copy job := by
  cases h with
  | queued h => exact .queued (hmain h)
  | delayed level h => exact .delayed level (hretry h)
  | delivered q h => exact .delivered q (hunacked h)
  | processing q rest p h => exact .processing q rest p (hprocs q rest p h)

theorem copy_settle (h : (s.settle pid).Copy job) : s.Copy job :=
  h.mono (List.Subset.refl _) (List.Subset.refl _) List.filter_sublist.subset fun _ _ _ h => h

theorem copy_requeue (pid : Nat) (h : (s.requeue pid).Copy job) : s.Copy job := by
  cases h with
  | queued h =>
    obtain h | h := List.mem_append.mp h
    · exact .queued h
    · obtain ⟨⟨q, m⟩, hmem, rfl⟩ := List.mem_map.mp h
      exact .delivered q (List.mem_filter.mp hmem).1
  | delayed level h => exact .delayed level h
  | delivered q h => exact .delivered q (mem_unacked_settle.mp h).1
  | processing q rest p h => exact .processing q rest p h

theorem copy_effect (h : (s.effect cfg pid o).Copy job) :
    s.Copy job ∨ ∃ sent, o.job? = some sent ∧ job = sent.encoded := by
  cases o with
  | publish sent =>
    cases h with
    | queued h =>
      obtain h | h := List.mem_append.mp h
      · exact .inl (.queued h)
      · cases List.mem_singleton.mp h
        exact .inr ⟨sent, rfl, rfl⟩
    | delayed level h => exact .inl (.delayed level h)
    | delivered q h => exact .inl (.delivered q h)
    | processing q rest p h => exact .inl (.processing q rest p h)
  | retry sent level =>
    simp only [State.effect] at h
    split at h
    · exact .inl h
    · cases h with
      | queued h => exact .inl (.queued h)
      | delayed level' h =>
        obtain h | h := List.mem_append.mp h
        · exact .inl (.delayed level' h)
        · cases List.mem_singleton.mp h
          exact .inr ⟨sent, rfl, rfl⟩
      | delivered q h => exact .inl (.delivered q h)
      | processing q rest p h => exact .inl (.processing q rest p h)
  | ack => exact .inl (copy_settle h)
  | nack requeue =>
    cases requeue with
    | true => exact .inl (copy_requeue _ h)
    | false => exact .inl (copy_settle h)
  | _ =>
    exact .inl (h.mono (List.Subset.refl _) (List.Subset.refl _) (List.Subset.refl _) fun _ _ _ h => h)

theorem copy_exec {role : Role} {k : o.Reply → Task Outcome} {p p' : Progress} {rest : Task Outcome}
    {reaction : Reaction} {reply : o.Reply}
    (hproc : s.procs pid = some { role := role, rest := .op o k, progress := p })
    (hanswer : s.Answer cfg pid o reaction reply u) (h : (u.resume pid role o p p' rest).Copy job) :
    s.Copy job ∨ ∃ sent, o.job? = some sent ∧ job = sent.encoded := by
  have hcopy : u.Copy job ∨ s.Copy job := by
    cases h with
    | queued h => exact .inl (.queued h)
    | delayed level h => exact .inl (.delayed level h)
    | delivered q h => exact .inl (.delivered q h)
    | processing q rest p h =>
      obtain ⟨rfl, heq⟩ | ⟨-, h⟩ := procs_resume hanswer.sameHistory h
      · cases heq
        exact .inr (.processing q _ _ hproc)
      · exact .inr (.processing q rest p h)
  obtain h | h := hcopy
  · obtain rfl | rfl := hanswer.state
    · exact .inl h
    · exact copy_effect h
  · exact .inl h

theorem copy_step (hstep : step cfg s a = some t) (hexec : ∀ pid reaction, a ≠ .exec pid reaction)
    (job : Job) (h : t.Copy job) : s.Copy job ∨ t.foreign job.id = true := by
  cases step_cases hstep with
  | publish =>
    refine .inl (h.mono (List.Subset.refl _) (List.Subset.refl _) (List.Subset.refl _) fun q rest p h => ?_)
    obtain ⟨-, heq⟩ | ⟨-, h⟩ := procs_spawn h
    · cases heq
    · exact h
  | inject =>
    cases h with
    | queued h =>
      obtain h | h := List.mem_append.mp h
      · exact .inl (.queued h)
      · cases List.mem_singleton.mp h
        exact .inr (update_self ..)
    | delayed level h => exact .inl (.delayed level h)
    | delivered q h => exact .inl (.delivered q h)
    | processing q rest p h => exact .inl (.processing q rest p h)
  | @deliver before message after index hmain =>
    have hmem : message ∈ s.main := by
      rw [hmain]
      exact List.mem_append_right _ (.head _)
    refine .inl ?_
    cases h with
    | queued h =>
      refine .queued ?_
      rw [hmain]
      obtain h | h := List.mem_append.mp h
      · exact List.mem_append_left _ h
      · exact List.mem_append_right _ (.tail _ h)
    | delayed level h => exact .delayed level h
    | delivered q h =>
      obtain h | h := List.mem_append.mp h
      · exact .delivered q h
      · cases List.mem_singleton.mp h
        exact .queued hmem
    | processing q rest p h =>
      obtain ⟨-, heq⟩ | ⟨-, h⟩ := procs_spawn h
      · cases heq
        exact .queued hmem
      · exact .processing q rest p h
  | exec => exact absurd rfl (hexec _ _)
  | @crash pid =>
    refine .inl (copy_requeue pid ?_)
    exact h.mono (List.Subset.refl _) (List.Subset.refl _) (List.Subset.refl _)
      fun _ _ _ h => (procs_crash h).2
  | redeliver => exact .inl (copy_requeue _ h)
  | @expireRetry before level job' after index hretry =>
    refine .inl ?_
    cases h with
    | queued h =>
      obtain h | h := List.mem_append.mp h
      · exact .queued h
      · cases List.mem_singleton.mp h
        refine .delayed level ?_
        rw [hretry]
        exact List.mem_append_right _ (.head _)
    | delayed level' h =>
      refine .delayed level' ?_
      rw [hretry]
      obtain h | h := List.mem_append.mp h
      · exact List.mem_append_left _ h
      · exact List.mem_append_right _ (.tail _ h)
    | delivered q h => exact .delivered q h
    | processing q rest p h => exact .processing q rest p h
  | expireLock =>
    exact .inl (h.mono (List.Subset.refl _) (List.Subset.refl _) (List.Subset.refl _) fun _ _ _ h => h)

variable {id : String} {field : TimingField} {reaction : Reaction} {reply : o.Reply}

theorem timing_setTiming (value : Option Int) : (s.setTiming id field value).timing id field = value := by
  simp only [State.setTiming, update_self]

theorem timing_effect : (s.effect cfg pid o).timing id field = s.timing id field ∨
    (∃ ms, o = .markJobTiming id field ms ∧
      (s.effect cfg pid o).timing id field = (s.timing id field).or (some ms)) ∨
    ∃ value, o = .setJobTiming id field value ∧ (s.effect cfg pid o).timing id field = some value := by
  have other {id' : String} {field' : TimingField} {value : Option Int} (h : ¬ (id = id' ∧ field = field')) :
      (s.setTiming id' field' value).timing id field = s.timing id field := by
    simp only [State.setTiming, update_apply]
    split
    · rename_i hid
      subst hid
      rw [update_of_ne fun hfield => h ⟨rfl, hfield⟩]
    · rfl
  cases o with
  | markJobTiming id' field' ms =>
    by_cases h : id = id' ∧ field = field'
    · obtain ⟨rfl, rfl⟩ := h
      exact .inr (.inl ⟨ms, rfl, timing_setTiming _⟩)
    · exact .inl (other h)
  | setJobTiming id' field' value =>
    by_cases h : id = id' ∧ field = field'
    · obtain ⟨rfl, rfl⟩ := h
      exact .inr (.inr ⟨value, rfl, timing_setTiming _⟩)
    · exact .inl (other h)
  | nack requeue => cases requeue <;> exact .inl rfl
  | retry sent level =>
    simp only [State.effect]
    split <;> exact .inl rfl
  | _ => exact .inl rfl

theorem timing_answer (h : s.Answer cfg pid o reaction reply u) (id : String) (field : TimingField) :
    u.timing id field = s.timing id field ∨
    (∃ ms, o = .markJobTiming id field ms ∧ u.timing id field = (s.timing id field).or (some ms)) ∨
    ∃ value, o = .setJobTiming id field value ∧ u.timing id field = some value := by
  obtain rfl | rfl := h.state
  · exact .inl rfl
  · exact timing_effect

theorem isSome_timing_answer (h : s.Answer cfg pid o reaction reply u)
    (hsome : (s.timing id field).isSome = true) : (u.timing id field).isSome = true := by
  obtain heq | ⟨ms, -, heq⟩ | ⟨value, -, heq⟩ := timing_answer h id field
  · rw [heq, hsome]
  · rw [heq, Option.isSome_or, hsome]
    rfl
  · rw [heq]
    rfl

theorem metadata_answer (h : s.Answer cfg pid o reaction reply u) (id : String) :
    u.metadata id = s.metadata id ∨
      ∃ metadata, o = .setJobMetadata id metadata ∧ u.metadata id = some metadata := by
  obtain rfl | rfl := h.state
  · exact .inl rfl
  · cases o with
    | setJobMetadata id' metadata =>
      by_cases hid : id = id'
      · subst hid
        exact .inr ⟨metadata, rfl, update_self ..⟩
      · exact .inl (update_of_ne hid ..)
    | nack requeue => cases requeue <;> exact .inl rfl
    | retry sent level =>
      simp only [State.effect]
      split <;> exact .inl rfl
    | _ => exact .inl rfl

theorem isSome_metadata_answer (h : s.Answer cfg pid o reaction reply u)
    (hsome : (s.metadata id).isSome = true) : (u.metadata id).isSome = true := by
  obtain heq | ⟨metadata, -, heq⟩ := metadata_answer h id
  · rw [heq, hsome]
  · rw [heq]
    rfl

end

structure Logged (decode : Option Json → Except String AgentRequest) (s : State) (proc : Proc) (m : Marks) :
    Prop where
  writes : proc.role.Obeyed decode proc.rest m
  timing : ∀ field ∈ m.timing, (s.timing proc.role.jobId field).isSome = true
  noted : m.noted = true → (s.metadata proc.role.jobId).isSome = true

/-- A finished job has all its timing, and one that waits has metadata. -/
structure State.Complete (s : State) (id : String) : Prop where
  finished : s.status id = some .completed ∨ s.status id = some .waitingForConfirmation →
    ∀ field, (s.timing id field).isSome = true
  waiting : s.status id = some .waitingForConfirmation → (s.metadata id).isSome = true

/-- What is stored of the jobs that were published with the given payloads. -/
structure Recorded (decode : Option Json → Except String AgentRequest) (payloads : String → Json) (s : State) :
    Prop where
  logged : ∀ pid proc, s.procs pid = some proc → ∃ m, Logged decode s proc m
  publishers : ∀ pid job key rest p,
    s.procs pid = some { role := .publisher job key, rest := rest, progress := p } →
    job.payload = some (payloads job.id) ∧ 0 ≤ job.attempt ∧ (s.issued job.id).isSome = true
  copies : ∀ job, s.Copy job → s.foreign job.id = false → job.payload = some (payloads job.id) ∧
    0 ≤ job.attempt ∧ (s.issued job.id).isSome = true ∧ (s.timing job.id .publishedMs).isSome = true
  attempts : ∀ id n, s.timing id .attempts = some n → s.foreign id = false → 1 ≤ n
  metadata : ∀ id metadata, s.metadata id = some metadata → s.foreign id = false →
    (s.issued id).isSome = true ∧ ∃ request, decode (some (payloads id)) = .ok request ∧ metadata.Of request
  complete : ∀ id, s.foreign id = false → s.Complete id

section

variable {decode : Option Json → Except String AgentRequest} {payloads : String → Json} {cfg : Config}
  {s t u : State} {a : Action} {pid : Nat} {role : Role} {o : Op} {k : o.Reply → Task Outcome}
  {p : Progress} {m : Marks} {reaction : Reaction} {reply : o.Reply} {proc : Proc} {id : String}

theorem writes_markJobTiming {field : TimingField} {ms : Int}
    (h : role.Writes decode m (.markJobTiming id field ms)) :
    id = role.jobId ∧ (field = .publishedMs ∨ field = .startedMs) := by
  match role with
  | .worker (.invalid _) => cases h
  | .worker (.job job) => exact ⟨h.1, .inr h.2⟩
  | .publisher job key => exact ⟨h.1, .inl h.2⟩

theorem writes_setJobTiming {field : TimingField} {value : Int}
    (h : role.Writes decode m (.setJobTiming id field value)) :
    ∃ job, role = .worker (.job job) ∧ id = job.id ∧
      (field = .finishedMs ∨ field = .attempts ∧ value = job.attempt + 1) := by
  match role with
  | .worker (.invalid _) => cases h
  | .worker (.job job) => exact ⟨job, rfl, h⟩
  | .publisher job key => exact h.elim

theorem writes_setJobMetadata {metadata : WaitingMetadata}
    (h : role.Writes decode m (.setJobMetadata id metadata)) :
    ∃ job, role = .worker (.job job) ∧ id = job.id ∧
      ∃ request, decode job.payload = .ok request ∧ metadata.Of request := by
  match role with
  | .worker (.invalid _) => cases h
  | .worker (.job job) => exact ⟨job, rfl, h⟩
  | .publisher job key => exact h.elim

theorem writes_setJobStatus {status : Status} (h : role.Writes decode m (.setJobStatus id status))
    (hstatus : status = .completed ∨ status = .waitingForConfirmation) :
    ∃ job, role = .worker (.job job) ∧ id = job.id ∧ m.Finished ∧
      (status = .waitingForConfirmation → m.noted = true) := by
  match role with
  | .worker (.invalid _) => cases h
  | .worker (.job job) =>
    obtain ⟨hid, hcompleted, hwaiting⟩ := h
    obtain rfl | rfl := hstatus
    · exact ⟨job, rfl, hid, hcompleted rfl, nofun⟩
    · exact ⟨job, rfl, hid, (hwaiting rfl).1, fun _ => (hwaiting rfl).2⟩
  | .publisher job key =>
    obtain ⟨-, rfl | rfl⟩ := h
    · obtain h | h := hstatus <;> cases h
    · obtain h | h := hstatus <;> cases h

theorem writes_job? {sent : Job} (h : role.Writes decode m o) (hsent : o.job? = some sent) :
    (∃ key, role = .publisher sent key ∧ .publishedMs ∈ m.timing) ∨
      ∃ job, role = .worker (.job job) ∧ sent.Succeeds job := by
  match role with
  | .worker (.invalid _) =>
    cases h
    cases hsent
  | .worker (.job job) =>
    refine .inr ⟨job, rfl, ?_⟩
    cases o with
    | publish _ => exact h.elim
    | retry _ _ =>
      cases hsent
      exact h
    | deadLetter _ =>
      cases hsent
      exact h
    | _ => cases hsent
  | .publisher job key =>
    cases o with
    | publish _ =>
      cases hsent
      obtain ⟨rfl, hmarked⟩ := h
      exact .inl ⟨key, rfl, hmarked⟩
    | retry _ _ => exact h.elim
    | deadLetter _ => exact h.elim
    | _ => cases hsent

theorem mem_mark {field field' : TimingField} {reply : Except String Unit}
    (h : field ∈ (m.mark field' reply).timing) : field ∈ m.timing ∨ field = field' ∧ reply = .ok () := by
  cases reply with
  | error err => exact .inl h
  | ok _ =>
    obtain rfl | h := List.mem_cons.mp h
    · exact .inr ⟨rfl, rfl⟩
    · exact .inl h

theorem timing_next {field : TimingField} (hwrites : role.Writes decode m o)
    (hanswer : s.Answer cfg pid o reaction reply u)
    (hold : field ∈ m.timing → (u.timing role.jobId field).isSome = true)
    (h : field ∈ (m.next o reply).timing) : (u.timing role.jobId field).isSome = true := by
  cases o with
  | markJobTiming id field' ms =>
    obtain h | ⟨rfl, rfl⟩ := mem_mark h
    · exact hold h
    · rw [← (writes_markJobTiming hwrites).1]
      cases hanswer with
      | done => simp [State.effect, timing_setTiming]
      | failed herror => cases herror
      | lost herror => cases herror
  | setJobTiming id field' value =>
    obtain h | ⟨rfl, rfl⟩ := mem_mark h
    · exact hold h
    · obtain ⟨job, rfl, rfl, -⟩ := writes_setJobTiming hwrites
      cases hanswer with
      | done => exact congrArg Option.isSome (timing_setTiming _)
      | failed herror => cases herror
      | lost herror => cases herror
  | setJobMetadata id metadata =>
    refine hold ?_
    cases reply <;> exact h
  | _ => exact hold h

theorem noted_next (hwrites : role.Writes decode m o) (hanswer : s.Answer cfg pid o reaction reply u)
    (hold : m.noted = true → (u.metadata role.jobId).isSome = true)
    (h : (m.next o reply).noted = true) : (u.metadata role.jobId).isSome = true := by
  cases o with
  | markJobTiming id field' ms =>
    refine hold ?_
    cases reply <;> exact h
  | setJobTiming id field' value =>
    refine hold ?_
    cases reply <;> exact h
  | setJobMetadata id metadata =>
    obtain ⟨job, rfl, rfl, -⟩ := writes_setJobMetadata hwrites
    cases hanswer with
    | done => simp [State.effect, Role.jobId]
    | failed herror =>
      cases herror
      exact hold h
    | lost herror =>
      cases herror
      exact hold h
  | _ => exact hold h

theorem Logged.mono (h : Logged decode s proc m)
    (htiming : ∀ id field, (s.timing id field).isSome = true → (t.timing id field).isSome = true)
    (hmetadata : ∀ id, (s.metadata id).isSome = true → (t.metadata id).isSome = true) :
    Logged decode t proc m :=
  ⟨h.writes, fun field hfield => htiming _ field (h.timing field hfield),
    fun hnoted => hmetadata _ (h.noted hnoted)⟩

theorem Logged.exec (p' : Progress)
    (h : Logged decode s { role := role, rest := .op o k, progress := p } m)
    (hanswer : s.Answer cfg pid o reaction reply u) :
    Logged decode u { role := role, rest := k reply, progress := p' } (m.next o reply) := by
  have hallowed : role.Writes decode m o := h.writes.1
  refine ⟨h.writes.2 reply trivial, fun field => ?_, ?_⟩
  · exact timing_next hallowed hanswer fun hfield => isSome_timing_answer hanswer (h.timing field hfield)
  · exact noted_next hallowed hanswer fun hnoted => isSome_metadata_answer hanswer (h.noted hnoted)

section

variable (h : Recorded decode payloads s)
  (hproc : s.procs pid = some { role := role, rest := .op o k, progress := p })
  (hanswer : s.Answer cfg pid o reaction reply u)

include h hproc hanswer

theorem Recorded.copies_exec {job : Job}
    (hcopy : (u.resume pid role o p (p.next o reply) (k reply)).Copy job)
    (hforeign : u.foreign job.id = false) : job.payload = some (payloads job.id) ∧ 0 ≤ job.attempt ∧
      (u.issued job.id).isSome = true ∧ (u.timing job.id .publishedMs).isSome = true := by
  rw [hanswer.sameHistory.foreign] at hforeign
  rw [hanswer.sameHistory.issued]
  obtain hcopy | ⟨sent, hsent, rfl⟩ := copy_exec hproc hanswer hcopy
  · obtain ⟨hpayload, hattempt, hissued, hmarked⟩ := h.copies job hcopy hforeign
    exact ⟨hpayload, hattempt, hissued, isSome_timing_answer hanswer hmarked⟩
  · obtain ⟨m, hlogged⟩ := h.logged pid _ hproc
    -- a new copy is the publisher's own job, or succeeds the copy that the worker processes
    obtain ⟨key, rfl, hmarked⟩ | ⟨job, rfl, hsucceeds⟩ := writes_job? hlogged.writes.1 hsent
    · obtain ⟨hpayload, hattempt, hissued⟩ := h.publishers pid sent key _ p hproc
      refine ⟨?_, hattempt, hissued, isSome_timing_answer hanswer (hlogged.timing _ hmarked)⟩
      simp only [Job.encoded, hpayload, Option.getD_some]
    · have hid : sent.encoded.id = job.id := hsucceeds.id
      rw [hid] at hforeign ⊢
      obtain ⟨hpayload, hattempt, hissued, hmarked⟩ := h.copies job (.processing pid _ p hproc) hforeign
      refine ⟨?_, Int.le_trans hattempt hsucceeds.attempt, hissued, isSome_timing_answer hanswer hmarked⟩
      simp only [Job.encoded, hsucceeds.payload, hpayload, Option.getD_some]

theorem Recorded.attempts_exec {n : Int} (hattempts : u.timing id .attempts = some n)
    (hforeign : s.foreign id = false) : 1 ≤ n := by
  obtain ⟨m, hlogged⟩ := h.logged pid _ hproc
  have hallowed : role.Writes decode m o := hlogged.writes.1
  obtain heq | ⟨ms, rfl, -⟩ | ⟨value, rfl, heq⟩ := timing_answer hanswer id .attempts
  · exact h.attempts id n (heq.symm.trans hattempts) hforeign
  · obtain ⟨-, hfield | hfield⟩ := writes_markJobTiming hallowed <;> cases hfield
  · cases heq.symm.trans hattempts
    obtain ⟨job, rfl, rfl, hfield | ⟨-, rfl⟩⟩ := writes_setJobTiming hallowed
    · cases hfield
    · have hattempt := (h.copies job (.processing pid _ p hproc) hforeign).2.1
      omega

theorem Recorded.metadata_exec {metadata : WaitingMetadata} (hmetadata : u.metadata id = some metadata)
    (hforeign : s.foreign id = false) :
    (s.issued id).isSome = true ∧
      ∃ request, decode (some (payloads id)) = .ok request ∧ metadata.Of request := by
  obtain heq | ⟨metadata', rfl, heq⟩ := metadata_answer hanswer id
  · exact h.metadata id metadata (heq.symm.trans hmetadata) hforeign
  · cases heq.symm.trans hmetadata
    obtain ⟨m, hlogged⟩ := h.logged pid _ hproc
    obtain ⟨job, rfl, rfl, request, hrequest, hof⟩ := writes_setJobMetadata hlogged.writes.1
    obtain ⟨hpayload, -, hissued, -⟩ := h.copies job (.processing pid _ p hproc) hforeign
    rw [hpayload] at hrequest
    exact ⟨hissued, request, hrequest, hof⟩

theorem Recorded.complete_exec (hforeign : s.foreign id = false) : u.Complete id := by
  have hcomplete := h.complete id hforeign
  obtain heq | ⟨status, rfl, heq⟩ := status_answer hanswer id
  · constructor
    · intro hstatus field
      rw [heq] at hstatus
      exact isSome_timing_answer hanswer (hcomplete.finished hstatus field)
    · intro hstatus
      rw [heq] at hstatus
      exact isSome_metadata_answer hanswer (hcomplete.waiting hstatus)
  · obtain ⟨m, hlogged⟩ := h.logged pid _ hproc
    have hallowed : role.Writes decode m (.setJobStatus id status) := hlogged.writes.1
    constructor
    · intro hstatus field
      rw [heq, Option.some.injEq, Option.some.injEq] at hstatus
      obtain ⟨job, rfl, rfl, hfinished, -⟩ := writes_setJobStatus hallowed hstatus
      refine isSome_timing_answer hanswer ?_
      cases field with
      | publishedMs => exact (h.copies job (.processing pid _ p hproc) hforeign).2.2.2
      | startedMs => exact hlogged.timing _ hfinished.started
      | finishedMs => exact hlogged.timing _ hfinished.finished
      | attempts => exact hlogged.timing _ hfinished.attempts
    · intro hstatus
      rw [heq, Option.some.injEq] at hstatus
      obtain ⟨job, rfl, rfl, -, hnoted⟩ := writes_setJobStatus hallowed (.inr hstatus)
      exact isSome_metadata_answer hanswer (hlogged.noted (hnoted hstatus))

theorem Recorded.exec : Recorded decode payloads (u.resume pid role o p (p.next o reply) (k reply)) where
  logged q proc hq := by
    obtain ⟨rfl, rfl⟩ | ⟨-, hq⟩ := procs_resume hanswer.sameHistory hq
    · obtain ⟨m, hlogged⟩ := h.logged q _ hproc
      have hnext := hlogged.exec (p.next o reply) hanswer
      exact ⟨m.next o reply, hnext.writes, hnext.timing, hnext.noted⟩
    · obtain ⟨m, hlogged⟩ := h.logged q proc hq
      have hkept : Logged decode u proc m :=
        hlogged.mono (fun _ _ => isSome_timing_answer hanswer) fun _ => isSome_metadata_answer hanswer
      exact ⟨m, hkept.writes, hkept.timing, hkept.noted⟩
  publishers q job key rest p' hq := by
    change _ ∧ _ ∧ (u.issued job.id).isSome = true
    rw [hanswer.sameHistory.issued]
    obtain ⟨rfl, heq⟩ | ⟨-, hq⟩ := procs_resume hanswer.sameHistory hq
    · cases heq
      exact h.publishers q job key _ p hproc
    · exact h.publishers q job key rest p' hq
  copies job hcopy hforeign := h.copies_exec hproc hanswer hcopy hforeign
  attempts id n hattempts hforeign := by
    change u.foreign id = false at hforeign
    rw [hanswer.sameHistory.foreign] at hforeign
    exact h.attempts_exec hproc hanswer hattempts hforeign
  metadata id metadata hmetadata hforeign := by
    change u.foreign id = false at hforeign
    change (u.issued id).isSome = true ∧ _
    rw [hanswer.sameHistory.foreign] at hforeign
    rw [hanswer.sameHistory.issued]
    exact h.metadata_exec hproc hanswer hmetadata hforeign
  complete id hforeign := by
    change u.foreign id = false at hforeign
    rw [hanswer.sameHistory.foreign] at hforeign
    have hcomplete := h.complete_exec hproc hanswer hforeign
    exact ⟨hcomplete.finished, hcomplete.waiting⟩

end

theorem Recorded.frame (hcfg : cfg.Writes decode) (h : Recorded decode payloads s)
    (hstatus : t.status = s.status) (hmetadata : t.metadata = s.metadata) (htiming : t.timing = s.timing)
    (hissued : t.issued = s.issued) (hforeign : ∀ id, t.foreign id = false → s.foreign id = false)
    (hcopies : ∀ job, t.Copy job → s.Copy job ∨ t.foreign job.id = true)
    (hprocs : ∀ q proc, t.procs q = some proc → s.procs q = some proc ∨
      ∃ message, proc = { role := .worker message, rest := cfg.process message }) :
    Recorded decode payloads t where
  logged q proc hq := by
    obtain hq | ⟨message, rfl⟩ := hprocs q proc hq
    · obtain ⟨m, hlogged⟩ := h.logged q proc hq
      refine ⟨m, hlogged.mono (fun id field hsome => ?_) fun id hsome => ?_⟩
      · rw [htiming, hsome]
      · rw [hmetadata, hsome]
    · exact ⟨{}, hcfg.worker message, nofun, nofun⟩
  publishers q job key rest p hq := by
    rw [hissued]
    obtain hq | ⟨message, heq⟩ := hprocs q _ hq
    · exact h.publishers q job key rest p hq
    · cases heq
  copies job hcopy hown := by
    rw [hissued, htiming]
    obtain hcopy | hother := hcopies job hcopy
    · exact h.copies job hcopy (hforeign job.id hown)
    · cases hown.symm.trans hother
  attempts id n hattempts hown := by
    rw [htiming] at hattempts
    exact h.attempts id n hattempts (hforeign id hown)
  metadata id metadata hsome hown := by
    rw [hissued]
    rw [hmetadata] at hsome
    exact h.metadata id metadata hsome (hforeign id hown)
  complete id hown := by
    obtain ⟨hfinished, hwaiting⟩ := h.complete id (hforeign id hown)
    constructor
    · rw [hstatus, htiming]
      exact hfinished
    · rw [hstatus, hmetadata]
      exact hwaiting

theorem Recorded.publish {payload : Option Json} {key : String} (hcfg : cfg.Writes decode)
    (h : Recorded decode payloads s) (hstep : step cfg s (.publish id payload key) = some t) :
    Recorded decode (update payloads id (payload.getD (.object []))) t ∧ (t.issued id).isSome = true := by
  have hcopies := copy_step hstep nofun
  cases step_cases hstep with
  | publish hblank hissued hforeign =>
    have hne {id' : String} (hid : (s.issued id').isSome = true) : id' ≠ id := by
      rintro rfl
      rw [hissued] at hid
      cases hid
    have hstays {id' : String} (hid : (s.issued id').isSome = true) :
        (update s.issued id (some s.next) id').isSome = true := by
      rw [update_of_ne (hne hid), hid]
    have hnew : (update s.issued id (some s.next) id).isSome = true := by
      rw [update_self]
      rfl
    refine ⟨⟨?_, ?_, ?_, h.attempts, ?_, fun id' hown => ?_⟩, hnew⟩
    · intro q proc hq
      obtain ⟨-, rfl⟩ | ⟨-, hq⟩ := procs_spawn hq
      · exact ⟨{}, hcfg.publisher id payload key, nofun, nofun⟩
      · obtain ⟨m, hlogged⟩ := h.logged q proc hq
        exact ⟨m, hlogged.writes, hlogged.timing, hlogged.noted⟩
    · intro q job key' rest p hq
      obtain ⟨-, heq⟩ | ⟨-, hq⟩ := procs_spawn hq
      · cases heq
        refine ⟨?_, Int.le_refl 0, hnew⟩
        change some (payload.getD (.object [])) = some (update payloads id (payload.getD (.object [])) id)
        rw [update_self]
      · obtain ⟨hpayload, hattempt, hid⟩ := h.publishers q job key' rest p hq
        rw [update_of_ne (hne hid)]
        exact ⟨hpayload, hattempt, hstays hid⟩
    · intro job hcopy hown
      obtain hcopy | hother := hcopies job hcopy
      · obtain ⟨hpayload, hattempt, hid, hmarked⟩ := h.copies job hcopy hown
        rw [update_of_ne (hne hid)]
        exact ⟨hpayload, hattempt, hstays hid, hmarked⟩
      · cases hown.symm.trans hother
    · intro id' metadata hsome hown
      obtain ⟨hid, hrequest⟩ := h.metadata id' metadata hsome hown
      rw [update_of_ne (hne hid)]
      exact ⟨hstays hid, hrequest⟩
    · obtain ⟨hfinished, hwaiting⟩ := h.complete id' hown
      exact ⟨hfinished, hwaiting⟩

theorem Recorded.step (hcfg : cfg.Writes decode) (h : Recorded decode payloads s)
    (hstep : Jobs.step cfg s a = some t) :
    ∃ payloads', Recorded decode payloads' t ∧
      ∀ id, (s.issued id).isSome = true → payloads' id = payloads id := by
  have hcopies := copy_step hstep
  cases step_cases hstep with
  | @publish payload key id hblank hissued hforeign =>
    refine ⟨_, (h.publish hcfg hstep).1, fun id' hid => update_of_ne ?_ ..⟩
    rintro rfl
    rw [hissued] at hid
    cases hid
  | exec hproc hanswer => exact ⟨payloads, h.exec hproc hanswer, fun _ _ => rfl⟩
  | inject =>
    refine ⟨payloads, h.frame hcfg rfl rfl rfl rfl (fun id hown => ?_) (hcopies nofun) fun _ _ hq => .inl hq,
      fun _ _ => rfl⟩
    simp only [update_apply] at hown
    split at hown
    · cases hown
    · exact hown
  | @deliver before message after index hmain =>
    refine ⟨payloads, h.frame hcfg rfl rfl rfl rfl (fun _ hown => hown) (hcopies nofun) fun q proc hq => ?_,
      fun _ _ => rfl⟩
    obtain ⟨-, rfl⟩ | ⟨-, hq⟩ := procs_spawn hq
    · exact .inr ⟨message, rfl⟩
    · exact .inl hq
  | crash =>
    exact ⟨payloads, h.frame hcfg rfl rfl rfl rfl (fun _ hown => hown) (hcopies nofun)
      fun _ _ hq => .inl (procs_crash hq).2, fun _ _ => rfl⟩
  | redeliver =>
    exact ⟨payloads, h.frame hcfg rfl rfl rfl rfl (fun _ hown => hown) (hcopies nofun) fun _ _ hq => .inl hq,
      fun _ _ => rfl⟩
  | expireRetry =>
    exact ⟨payloads, h.frame hcfg rfl rfl rfl rfl (fun _ hown => hown) (hcopies nofun) fun _ _ hq => .inl hq,
      fun _ _ => rfl⟩
  | expireLock =>
    exact ⟨payloads, h.frame hcfg rfl rfl rfl rfl (fun _ hown => hown) (hcopies nofun) fun _ _ hq => .inl hq,
      fun _ _ => rfl⟩

theorem recorded_start (payloads : String → Json) : Recorded decode payloads {} where
  logged _ _ h := by cases h
  publishers _ _ _ _ _ h := by cases h
  copies job h := by
    cases h with
    | queued h => cases h
    | delayed level h => cases h
    | delivered q h => cases h
    | processing q rest p h => cases h
  attempts _ _ h := by cases h
  metadata _ _ h := by cases h
  complete id _ := by
    constructor
    · rintro (h | h) <;> cases h
    · intro h
      cases h

theorem Recorded.timing_stays {field : TimingField} {ms : Int} (h : Recorded decode payloads s)
    (hfield : field = .publishedMs ∨ field = .startedMs) (hstep : Jobs.step cfg s a = some t)
    (hmarked : s.timing id field = some ms) : t.timing id field = some ms := by
  cases step_cases hstep with
  | @exec pid role p reaction u o k reply hproc hanswer =>
    change u.timing id field = some ms
    obtain heq | ⟨ms', -, heq⟩ | ⟨value, rfl, -⟩ := timing_answer hanswer id field
    · rw [heq, hmarked]
    · rw [heq, hmarked]
      rfl
    · obtain ⟨m, hlogged⟩ := h.logged pid _ hproc
      obtain ⟨job, -, -, hset⟩ := writes_setJobTiming hlogged.writes.1
      obtain rfl | rfl := hfield <;> obtain hset | ⟨hset, -⟩ := hset <;> cases hset
  | _ => exact hmarked

theorem recorded_of_reaches (hcfg : cfg.Writes decode) (h : Recorded decode payloads s)
    (hreach : Reaches (Jobs.step cfg) s t) :
    ∃ payloads', Recorded decode payloads' t ∧ ∀ id, (s.issued id).isSome = true →
      (t.issued id).isSome = true ∧ payloads' id = payloads id := by
  refine hreach.invariant (I := fun t => ∃ payloads', Recorded decode payloads' t ∧
    ∀ id, (s.issued id).isSome = true → (t.issued id).isSome = true ∧ payloads' id = payloads id)
    ⟨payloads, h, fun _ hid => ⟨hid, rfl⟩⟩ ?_
  rintro t a u ⟨payloads', ht, hkept⟩ - hstep
  obtain ⟨payloads'', hu, hsame⟩ := ht.step hcfg hstep
  refine ⟨payloads'', hu, fun id hid => ?_⟩
  obtain ⟨hissued, hpayload⟩ := hkept id hid
  exact ⟨issued_step hstep hissued, (hsame id hissued).trans hpayload⟩

theorem timing_of_reaches {field : TimingField} {ms : Int} (hcfg : cfg.Writes decode)
    (h : Recorded decode payloads s) (hfield : field = .publishedMs ∨ field = .startedMs)
    (hreach : Reaches (Jobs.step cfg) s t) (hmarked : s.timing id field = some ms) :
    t.timing id field = some ms := by
  refine (hreach.invariant (I := fun t => (∃ payloads', Recorded decode payloads' t) ∧
    t.timing id field = some ms) ⟨⟨payloads, h⟩, hmarked⟩ ?_).2
  rintro t a u ⟨⟨payloads', ht⟩, hmarked⟩ - hstep
  obtain ⟨payloads'', hu, -⟩ := ht.step hcfg hstep
  exact ⟨⟨payloads'', hu⟩, ht.timing_stays hfield hstep hmarked⟩

end

theorem finished_job_recorded (stack : Stack) (retryQueues : Nat) (s₀ s₁ s : State) (id : String)
    (payload : Option Json) (key : String) (h₀ : Reaches (step (stack.config retryQueues)) {} s₀)
    (hpublish : step (stack.config retryQueues) s₀ (.publish id payload key) = some s₁)
    (h : Reaches (step (stack.config retryQueues)) s₁ s) (hforeign : s.foreign id = false) :
    (s.status id = some .completed ∨ s.status id = some .waitingForConfirmation →
      (∃ ms, s.timing id .publishedMs = some ms) ∧ (∃ ms, s.timing id .startedMs = some ms) ∧
      (∃ ms, s.timing id .finishedMs = some ms) ∧ ∃ n, s.timing id .attempts = some n ∧ 1 ≤ n) ∧
    (s.status id = some .waitingForConfirmation →
      ∃ metadata request, s.metadata id = some metadata ∧
        stack.decode (Service.newJob id payload).payload = .ok request ∧
        metadata.userId = request.userId ∧ metadata.sessionId = request.sessionId) ∧
    ∀ t, Reaches (step (stack.config retryQueues)) s t → ∀ ms,
      (s.timing id .publishedMs = some ms → t.timing id .publishedMs = some ms) ∧
      (s.timing id .startedMs = some ms → t.timing id .startedMs = some ms) := by
  have hcfg := stack.config_writes retryQueues
  obtain ⟨payloads₀, hrecorded₀, -⟩ :=
    recorded_of_reaches hcfg (recorded_start fun _ => .null) h₀
  obtain ⟨hrecorded₁, hissued⟩ := hrecorded₀.publish hcfg hpublish
  obtain ⟨payloads, hrecorded, hkept⟩ := recorded_of_reaches hcfg hrecorded₁ h
  have hpayload : some (payloads id) = (Service.newJob id payload).payload := by
    rw [(hkept id hissued).2, update_self]
    rfl
  have hcomplete := hrecorded.complete id hforeign
  refine ⟨fun hstatus => ?_, fun hstatus => ?_, fun t ht ms => ⟨?_, ?_⟩⟩
  · have hsome (field : TimingField) : ∃ value, s.timing id field = some value :=
      Option.isSome_iff_exists.mp (hcomplete.finished hstatus field)
    obtain ⟨n, hattempts⟩ := hsome .attempts
    exact ⟨hsome .publishedMs, hsome .startedMs, hsome .finishedMs, n, hattempts,
      hrecorded.attempts id n hattempts hforeign⟩
  · obtain ⟨metadata, hmetadata⟩ := Option.isSome_iff_exists.mp (hcomplete.waiting hstatus)
    obtain ⟨-, request, hrequest, hof⟩ := hrecorded.metadata id metadata hmetadata hforeign
    rw [hpayload] at hrequest
    exact ⟨metadata, request, hmetadata, hrequest, hof.userId, hof.sessionId⟩
  · exact timing_of_reaches hcfg hrecorded (.inl rfl) ht
  · exact timing_of_reaches hcfg hrecorded (.inr rfl) ht

def Sample.asking : List Action :=
  Sample.published.tail ++ [.deliver 0, .exec 1 .done, .exec 1 .done] ++ Sample.started 1 ++
    [.exec 1 (.events
        [{ requestedInput := some { interruptID := "a", message := "Confirm?", payload := .null } }]),
      .exec 1 .done, .exec 1 (.time 1), .exec 1 .done, .exec 1 .done]

theorem finished_job_recorded_sample :
    ∃ s₁ s, step Sample.config {} (.publish "job" (some Sample.payload) "") = some s₁ ∧
      Reaches (step Sample.config) s₁ s ∧ s.foreign "job" = false ∧
      s.status "job" = some .waitingForConfirmation ∧
      (∃ ms, s.timing "job" .publishedMs = some ms) ∧
      ∃ metadata request, s.metadata "job" = some metadata ∧
        decodeAgentRequest (some Sample.payload) = .ok request ∧ metadata.userId = request.userId ∧
        metadata.sessionId = request.sessionId := by
  have hrun : (step Sample.config {} (.publish "job" (some Sample.payload) "")).any (fun s₁ =>
      (run (step Sample.config) (fun _ _ => True) s₁ Sample.asking).any fun s =>
        !s.foreign "job" && decide (s.status "job" = some .waitingForConfirmation)) = true := by
    decide +kernel
  obtain ⟨s₁, hpublish, hrun⟩ := (Option.any_eq_true ..).mp hrun
  obtain ⟨s, hs, hrun⟩ := reach_of_any _ _ s₁ Sample.asking _ hrun
  simp only [Bool.and_eq_true, Bool.not_eq_true', decide_eq_true_eq] at hrun
  obtain ⟨hforeign, hstatus⟩ := hrun
  obtain ⟨hfinished, hwaiting, -⟩ := finished_job_recorded (.adkGo Sample.service) 2 {} s₁ s "job"
    (some Sample.payload) "" .refl hpublish hs hforeign
  exact ⟨s₁, s, hpublish, hs, hforeign, hstatus, (hfinished (.inr hstatus)).1, hwaiting hstatus⟩

end AgentsAtScale.Jobs
