import AgentsAtScale.Jobs.Lives

namespace AgentsAtScale.Jobs

open Program Function Transition

def retryLevels (jobMaxAttempts : Int) : Nat := (max (jobMaxAttempts - 1) 1).toNat

/-- The Go service as it is started: the worker and the retry queues come from one
setting. -/
def deployment (jobMaxAttempts : Int) (runner : Bool) : Config :=
  (Service.new { maxAttempts := jobMaxAttempts } runner).config (retryLevels jobMaxAttempts)

def Copies.live (c : Copies) : Nat := c.main.length + c.retry.length + c.processing.length

def State.worker (s : State) (pid : Nat) : Option (Job × Progress) :=
  match s.procs pid with
  | some { role := .worker (.job job), progress := p, .. } => some (job, p)
  | _ => none

/-- The account of an accepted job. -/
structure Accounting (cfg : Config) (maxAttempts : Int) (s : State) (id : String) : Prop where
  one : (s.copies id).live = 1 ∧ (s.copies id).dead = [] ∨
    (s.copies id).live = 0 ∧ ((s.copies id).dead.length = 1 ∨
      (s.copies id).dead = [] ∧ isTerminal (s.status id) = true)
  gone : (s.copies id).live = 0 →
    ∀ t, Reach (step cfg) (fun s a => s.undisturbed a) s t → (t.copies id).live = 0
  queued : ∀ job : Job, .job job ∈ (s.copies id).main → job.attempt = (s.failures id).length
  delayed : ∀ (level : Nat) (job : Job), (level, job) ∈ (s.copies id).retry → job.attempt = (s.failures id).length
  processing : ∀ (pid : Nat) (job : Job), (pid, .job job) ∈ (s.copies id).processing →
    ∃ p, s.worker pid = some (job, p) ∧
      job.attempt + p.failure.toList.length = (s.failures id).length
  retried : ∀ pid job p job' level reaction t, s.worker pid = some (job, p) → job.id = id →
    s.nextOp pid = some (.retry job' level) → s.undisturbed (.exec pid reaction) →
    step cfg s (.exec pid reaction) = some t →
    (p.failure.isSome = true → job'.attempt = (s.failures id).length ∧
      job'.attempt < max maxAttempts 1 ∧
      t.retry = s.retry ++ [((s.failures id).length, job'.encoded)]) ∧
    (p.failure = none → p.busy = true ∧ job' = job ∧ t.retry = s.retry ++ [(1, job'.encoded)])
  exhausted : ∀ pid job p job', s.worker pid = some (job, p) → job.id = id →
    s.nextOp pid = some (.deadLetter job') → p.failure.isSome = true →
    job'.attempt = max maxAttempts 1 ∧ job'.attempt = (s.failures id).length ∧
      (s.failures id).getLast? = some job'.error
  answered : ∀ pid job p, s.worker pid = some (job, p) → job.id = id → p.failure.isSome = true →
    s.running pid = false → p.sent = true
  runs : s.agentRuns id ≤ max maxAttempts 1
  dead : ∀ job ∈ (s.copies id).dead, job.attempt = (s.failures id).length ∧
    job.attempt ≤ max maxAttempts 1 ∧
    (job.attempt = max maxAttempts 1 → (s.failures id).getLast? = some job.error)

structure Tracked (svc : Service) (s : State) : Prop where
  regular : Regular svc.rules s
  drawn : Drawn s
  own : ∀ id, (s.issued id).isSome = true → s.foreign id = false
  lives : ∀ id, isBlank id = false → s.foreign id = false →
    ∃ l, Lives s id l ∧ l.Accounted svc.options.maxAttempts

theorem procs_of_worker {s : State} {pid : Nat} {job : Job} {p : Progress}
    (h : s.worker pid = some (job, p)) :
    ∃ rest, s.procs pid = some { role := .worker (.job job), rest := rest, progress := p } := by
  unfold State.worker at h
  split at h
  · rename_i hproc
    cases h
    exact ⟨_, hproc⟩
  · cases h

section

variable {svc : Service} {queues : Nat} {s t : State} {a : Action} {id : String} {l : Life}

theorem foreign_of_step (hstep : step cfg s a = some t) (h : t.foreign id = false) :
    s.foreign id = false := by
  cases step_cases hstep with
  | inject =>
    simp only [update_apply] at h
    split at h
    · cases h
    · exact h
  | exec hproc hanswer =>
    rw [← hanswer.sameHistory.foreign]
    exact h
  | _ => exact h

theorem own_step (h : ∀ id, (s.issued id).isSome = true → s.foreign id = false)
    (hok : s.undisturbed a) (hstep : step cfg s a = some t) (id : String)
    (hid : (t.issued id).isSome = true) : t.foreign id = false := by
  cases step_cases hstep with
  | publish _ _ hforeign =>
    simp only [update_apply] at hid
    split at hid
    · rename_i heq
      rw [heq]
      exact hforeign
    · exact h id hid
  | inject =>
    simp only [update_apply]
    split
    · rename_i heq
      simp only [State.undisturbed, ← heq, Option.isNone_iff_eq_none] at hok
      rw [hok] at hid
      cases hid
    · exact h id hid
  | @exec pid role p reaction u o k reply hproc hanswer =>
    change u.foreign id = false
    change (u.issued id).isSome = true at hid
    rw [hanswer.sameHistory.issued] at hid
    rw [hanswer.sameHistory.foreign]
    exact h id hid
  | _ => exact h id hid

theorem Tracked.start : Tracked svc {} where
  regular := .start
  drawn := drawn_start
  own _ _ := rfl
  lives id _ _ := by
    refine ⟨⟨.unpublished, [], 0⟩, ?_, rfl, rfl⟩
    exact
      { copies := rfl
        failures := rfl
        runs := rfl
        accepted := rfl
        closed := by
          intro pid job rest p hproc
          cases hproc
        active := nofun
        finished := nofun }

theorem Tracked.step (h : Tracked svc s) (hmax : 0 < svc.options.maxAttempts) (hqueues : queues ≠ 0)
    (hok : s.undisturbed a) (hstep : Jobs.step (svc.config queues) s a = some t) : Tracked svc t where
  regular := h.regular.step (svc.config_follows queues) hstep
  drawn := drawn_step svc.publishOnce h.regular h.drawn hstep
  own := own_step h.own hok hstep
  lives id hid hforeign := by
    obtain ⟨l, hlives, haccounted⟩ := h.lives id hid (foreign_of_step hstep hforeign)
    obtain ⟨l', hlives', rfl | hnext⟩ :=
      lives_step hqueues hid h.regular h.drawn hlives hok hstep hforeign
    · exact ⟨l', hlives', haccounted⟩
    · exact ⟨l', hlives', haccounted.next hmax hnext⟩

theorem Lives.phase_of_nextOp {pid : Nat} {job : Job} {p : Progress} {o : Op}
    (h : Lives s job.id l) (hregular : Regular svc.rules s) (hid : isBlank job.id = false)
    (hworker : s.worker pid = some (job, p)) (hop : s.nextOp pid = some o)
    (ho : o ≠ .ack ∧ (∀ conversation token, o ≠ .releaseConversationLock conversation token) ∧ o ≠ .now) :
    job.Allowed svc p o ∧ l.phase = .processing pid job p.failure p.ran := by
  obtain ⟨rest, hproc⟩ := procs_of_worker hworker
  obtain ⟨role, k, p', hproc'⟩ := procs_of_nextOp hop
  cases hproc.symm.trans hproc'
  have hallowed : job.Allowed svc p o := by
    simpa only [Service.rules, Role.Allowed, hid, Bool.false_eq_true, if_false] using
      hregular.head hproc
  refine ⟨hallowed, ?_⟩
  by_cases hholder : l.phase.holder = some pid
  · obtain ⟨job', failure, ran, hphase⟩ := Phase.processing_of_holder hholder
    obtain ⟨rest', p', hproc', -, -, rfl, rfl, -⟩ := h.active pid job' failure ran hphase
    cases hproc.symm.trans hproc'
    exact hphase
  · rcases (h.closed pid job _ p hproc rfl hholder).ops hallowed with ⟨rfl, -⟩ | ⟨_, _, rfl⟩ | rfl
    · exact absurd rfl ho.1
    · exact absurd rfl (ho.2.1 _ _)
    · exact absurd rfl ho.2.2

theorem Lives.one (h : Lives s id l) (haccepted : s.accepted id = true) :
    (s.copies id).live = 1 ∧ (s.copies id).dead = [] ∨
      (s.copies id).live = 0 ∧ ((s.copies id).dead.length = 1 ∨
        (s.copies id).dead = [] ∧ isTerminal (s.status id) = true) := by
  rw [h.copies]
  cases hphase : l.phase with
  | unpublished =>
    have hnew := h.accepted
    rw [haccepted, hphase] at hnew
    cases hnew
  | queued job => exact .inl ⟨rfl, rfl⟩
  | delayed level job => exact .inl ⟨rfl, rfl⟩
  | processing pid job failure ran => exact .inl ⟨rfl, rfl⟩
  | dead job => exact .inr ⟨rfl, .inl rfl⟩
  | finished => exact .inr ⟨rfl, .inr ⟨rfl, h.finished hphase⟩⟩

theorem Lives.closed_of_live (h : Lives s id l) (haccepted : s.accepted id = true)
    (hlive : (s.copies id).live = 0) : l.phase.closed = true := by
  have hpublished := h.accepted.symm.trans haccepted
  rw [h.copies] at hlive
  cases hphase : l.phase with
  | dead job => rfl
  | finished => rfl
  | unpublished =>
    rw [hphase] at hpublished
    cases hpublished
  | queued job =>
    rw [hphase] at hlive
    cases hlive
  | delayed level job =>
    rw [hphase] at hlive
    cases hlive
  | processing pid job failure ran =>
    rw [hphase] at hlive
    cases hlive

theorem Lives.live_of_closed (h : Lives s id l) (hclosed : l.phase.closed = true) :
    (s.copies id).live = 0 := by
  rw [h.copies]
  cases hphase : l.phase with
  | dead job => rfl
  | finished => rfl
  | _ =>
    rw [hphase] at hclosed
    cases hclosed

theorem Lives.queued {maxAttempts : Int} (h : Lives s id l) (haccounted : l.Accounted maxAttempts)
    (job : Job) (hmem : .job job ∈ (s.copies id).main) : job.attempt = (s.failures id).length := by
  rw [h.copies] at hmem
  obtain ⟨phase, log, n⟩ := l
  obtain ⟨job', rfl, heq⟩ := Phase.queued_of_main hmem
  cases heq
  rw [h.failures]
  exact haccounted.1

theorem Lives.delayed {maxAttempts : Int} (h : Lives s id l) (haccounted : l.Accounted maxAttempts)
    (level : Nat) (job : Job) (hmem : (level, job) ∈ (s.copies id).retry) :
    job.attempt = (s.failures id).length := by
  rw [h.copies] at hmem
  obtain ⟨phase, log, n⟩ := l
  obtain rfl : phase = .delayed level job := Phase.delayed_of_retry hmem
  rw [h.failures]
  exact haccounted.1

theorem Lives.processing {maxAttempts : Int} (h : Lives s id l)
    (haccounted : l.Accounted maxAttempts) (pid : Nat) (job : Job)
    (hmem : (pid, .job job) ∈ (s.copies id).processing) :
    ∃ p, s.worker pid = some (job, p) ∧
      job.attempt + p.failure.toList.length = (s.failures id).length := by
  rw [h.copies] at hmem
  obtain ⟨phase, log, n⟩ := l
  cases phase with
  | processing pid' job' failure ran =>
    cases List.mem_singleton.mp hmem
    obtain ⟨rest, p, hproc, -, -, rfl, -, -⟩ := h.active pid job failure ran rfl
    refine ⟨p, by simp only [State.worker, hproc], ?_⟩
    rw [h.failures]
    exact haccounted.1
  | _ => cases hmem

theorem Lives.dead {maxAttempts : Int} (h : Lives s id l) (haccounted : l.Accounted maxAttempts)
    (job : Job) (hmem : job ∈ (s.copies id).dead) : job.attempt = (s.failures id).length ∧
      job.attempt ≤ maxAttempts ∧
      (job.attempt = maxAttempts → (s.failures id).getLast? = some job.error) := by
  rw [h.copies] at hmem
  obtain ⟨phase, log, n⟩ := l
  cases phase with
  | dead job' =>
    cases List.mem_singleton.mp hmem
    rw [h.failures]
    exact ⟨haccounted.1, haccounted.2.1, haccounted.2.2.2⟩
  | _ => cases hmem

theorem Tracked.closed (hmax : 0 < svc.options.maxAttempts) (hqueues : queues ≠ 0)
    (hs : Tracked svc s) (h : Lives s id l) (haccepted : s.accepted id = true)
    (hclosed : l.phase.closed = true)
    (ht : Reach (Jobs.step (svc.config queues)) (fun s a => s.undisturbed a) s t) :
    Lives t id l := by
  have hinv : Tracked svc t ∧ Lives t id l := by
    apply ht.invariant ⟨hs, h⟩
    rintro u a v ⟨hu, hlives⟩ hok hstep
    have hv := hu.step hmax hqueues hok hstep
    refine ⟨hv, ?_⟩
    have haccepted : u.accepted id = true := by
      rw [hlives.accepted, ← h.accepted, haccepted]
    obtain ⟨hid, hissued⟩ := hu.drawn.accepted id haccepted
    have hissued := issued_step hstep hissued
    obtain ⟨l', hlives', rfl | hnext⟩ :=
      lives_step hqueues hid hu.regular hu.drawn hlives hok hstep (hv.own id hissued)
    · exact hlives'
    · exact absurd hnext (Life.not_next_of_closed hclosed)
  exact hinv.2

end

section

variable {jobMaxAttempts : Int} {runner : Bool} {s t : State} {id : String} {l : Life}

theorem maxAttempts_new :
    (Service.new { maxAttempts := jobMaxAttempts } runner).options.maxAttempts =
      max jobMaxAttempts 1 := by
  simp only [Service.new]
  split
  · rename_i hless
    change jobMaxAttempts < 1 at hless
    change (1 : Int) = _
    omega
  · rename_i hless
    change ¬ jobMaxAttempts < 1 at hless
    change jobMaxAttempts = _
    omega

theorem retryLevel_retryLevels {k : Nat} (hpos : 0 < k) (hmore : (k : Int) < max jobMaxAttempts 1) :
    retryLevel (retryLevels jobMaxAttempts) k = k := by
  simp only [retryLevel, retryLevels]
  omega

theorem retryLevel_one : retryLevel (retryLevels jobMaxAttempts) 1 = 1 := by
  simp only [retryLevel, retryLevels]
  omega

theorem retryLevels_ne_zero : retryLevels jobMaxAttempts ≠ 0 := by
  simp only [retryLevels]
  omega

theorem retry_of_step {cfg : Config} {pid : Nat} {job : Job} {level : Int} {reaction : Reaction}
    (hqueues : cfg.retryQueues ≠ 0) (hop : s.nextOp pid = some (.retry job level))
    (hok : s.undisturbed (.exec pid reaction)) (hstep : step cfg s (.exec pid reaction) = some t) :
    t.retry = s.retry ++ [(retryLevel cfg.retryQueues level, job.encoded)] := by
  cases step_cases hstep with
  | @exec _ role p _ u o k reply hproc hanswer =>
    cases (nextOp_of_procs hproc).symm.trans hop
    cases hanswer with
    | done => simp [State.resume, State.record, State.effect, hqueues]
    | failed => simp [State.undisturbed, hop, Op.toBroker] at hok
    | lost => simp [State.undisturbed, hop, Op.toBroker] at hok

variable (hregular : Regular (Service.new { maxAttempts := jobMaxAttempts } runner).rules s)

include hregular in
theorem Lives.retried (h : Lives s id l) (haccounted : l.Accounted (max jobMaxAttempts 1))
    (hid : isBlank id = false) {pid : Nat} {job job' : Job} {p : Progress} {level : Int}
    {reaction : Reaction} (hworker : s.worker pid = some (job, p)) (hjob : job.id = id)
    (hop : s.nextOp pid = some (.retry job' level)) (hok : s.undisturbed (.exec pid reaction))
    (hstep : step (deployment jobMaxAttempts runner) s (.exec pid reaction) = some t) :
    (p.failure.isSome = true → job'.attempt = (s.failures id).length ∧
      job'.attempt < max jobMaxAttempts 1 ∧
      t.retry = s.retry ++ [((s.failures id).length, job'.encoded)]) ∧
    (p.failure = none → p.busy = true ∧ job' = job ∧
      t.retry = s.retry ++ [(1, job'.encoded)]) := by
  subst hjob
  obtain ⟨hallowed, hphase⟩ := h.phase_of_nextOp hregular hid hworker hop ⟨nofun, nofun, nofun⟩
  have hretry := retry_of_step retryLevels_ne_zero hop hok hstep
  obtain ⟨phase, log, n⟩ := l
  obtain rfl : phase = .processing pid job p.failure p.ran := hphase
  obtain ⟨hcount, -, -, hlast⟩ := haccounted
  obtain rfl : s.failures job.id = log := h.failures
  rw [hretry]
  obtain ⟨-, hallowed⟩ := hallowed
  split at hallowed
  · rename_i err hfailure
    obtain ⟨rfl, rfl, hmore⟩ := hallowed
    rw [maxAttempts_new] at hmore
    rw [hfailure] at hcount
    have hk : job.attempt + 1 = ((s.failures job.id).length : Int) := hcount
    have hpos : 0 < (s.failures job.id).length := by
      have hlast := hlast err hfailure
      exact List.length_pos_of_mem (List.mem_of_getLast? hlast)
    refine ⟨fun _ => ⟨hk, hmore, ?_⟩, fun hnone => ?_⟩
    · rw [hk] at hmore ⊢
      exact congrArg (fun level => s.retry ++ [(level, _)]) (retryLevel_retryLevels hpos hmore)
    · cases hfailure.symm.trans hnone
  · rename_i hfailure
    obtain ⟨hbusy, -, rfl, rfl⟩ := hallowed
    refine ⟨fun hsome => ?_, fun _ => ⟨hbusy, rfl, ?_⟩⟩
    · rw [hfailure] at hsome
      cases hsome
    · exact congrArg (fun level => s.retry ++ [(level, _)]) retryLevel_one

include hregular in
theorem Lives.exhausted (h : Lives s id l) (haccounted : l.Accounted (max jobMaxAttempts 1))
    (hid : isBlank id = false) {pid : Nat} {job job' : Job} {p : Progress}
    (hworker : s.worker pid = some (job, p)) (hjob : job.id = id)
    (hop : s.nextOp pid = some (.deadLetter job')) (hfailed : p.failure.isSome = true) :
    job'.attempt = max jobMaxAttempts 1 ∧ job'.attempt = (s.failures id).length ∧
      (s.failures id).getLast? = some job'.error := by
  subst hjob
  obtain ⟨hallowed, hphase⟩ := h.phase_of_nextOp hregular hid hworker hop ⟨nofun, nofun, nofun⟩
  obtain ⟨phase, log, n⟩ := l
  obtain rfl : phase = .processing pid job p.failure p.ran := hphase
  obtain ⟨hcount, hbound, -, hlast⟩ := haccounted
  obtain rfl : s.failures job.id = log := h.failures
  obtain ⟨-, -, hallowed⟩ := hallowed
  split at hallowed
  · rename_i err hfailure
    obtain ⟨rfl, hmore⟩ := hallowed
    rw [maxAttempts_new] at hmore
    rw [hfailure] at hcount
    exact ⟨by change job.attempt + 1 = _; omega, hcount, hlast err hfailure⟩
  · rename_i hfailure
    rw [hfailure] at hfailed
    cases hfailed

include hregular in
theorem Lives.answered (h : Lives s id l) (hid : isBlank id = false) {pid : Nat} {job : Job}
    {p : Progress} (hworker : s.worker pid = some (job, p)) (hjob : job.id = id)
    (hfailed : p.failure.isSome = true) (hended : s.running pid = false) : p.sent = true := by
  subst hjob
  obtain ⟨rest, hproc⟩ := procs_of_worker hworker
  cases rest with
  | op o k => simp [State.running, nextOp_of_procs hproc] at hended
  | ret a =>
    have hsettled : p.Settled := (hregular.obeys pid _ hproc).2 hid
    have hholder : l.phase.holder ≠ some pid := by
      intro hholder
      obtain ⟨job', rest', p', hproc', -, hlive⟩ := h.procs_of_holder hholder
      cases hproc.symm.trans hproc'
      cases hlive.acked.symm.trans hsettled.acked
    have hclosed := h.closed pid job _ p hproc rfl hholder
    rcases hsettled.reason with ⟨-, hnone⟩ | hsent | hunsent
    · rw [hnone] at hfailed
      cases hfailed
    · exact hsent
    · cases hclosed.unsent.symm.trans hunsent

end

theorem attempts_accounted (jobMaxAttempts : Int) (runner : Bool) (s : State) (id : String)
    (h : Reach (step (deployment jobMaxAttempts runner)) (fun s a => s.undisturbed a) {} s)
    (haccepted : s.accepted id = true) :
    Accounting (deployment jobMaxAttempts runner) jobMaxAttempts s id := by
  have hmax : 0 < (Service.new { maxAttempts := jobMaxAttempts } runner).options.maxAttempts := by
    rw [maxAttempts_new]
    omega
  have htracked : Tracked (Service.new { maxAttempts := jobMaxAttempts } runner) s :=
    h.invariant .start fun _ _ _ ht hok hstep => ht.step hmax retryLevels_ne_zero hok hstep
  obtain ⟨hid, hissued⟩ := htracked.drawn.accepted id haccepted
  obtain ⟨l, hlives, haccounted⟩ := htracked.lives id hid (htracked.own id hissued)
  have hregular := htracked.regular
  have hruns := haccounted.runs_le hmax
  rw [maxAttempts_new] at haccounted hruns
  exact
    { one := hlives.one haccepted
      gone := fun hlive t ht =>
        have hclosed := hlives.closed_of_live haccepted hlive
        (htracked.closed hmax retryLevels_ne_zero hlives haccepted hclosed ht).live_of_closed hclosed
      queued := hlives.queued haccounted
      delayed := hlives.delayed haccounted
      processing := hlives.processing haccounted
      retried := fun _ _ _ _ _ _ _ => hlives.retried hregular haccounted hid
      exhausted := fun _ _ _ _ => hlives.exhausted hregular haccounted hid
      answered := fun _ _ _ => hlives.answered hregular hid
      runs := by
        rw [hlives.runs]
        exact hruns
      dead := hlives.dead haccounted }

theorem attempts_accounted_sample :
    ∃ s, Reach (step (deployment 2 true)) (fun s a => s.undisturbed a) {} s ∧
      s.failures "job" = ["get job status: timeout"] ∧
      s.retry.map (fun entry => (entry.1, entry.2.attempt)) = [(1, 1)] ∧
      Accounting (deployment 2 true) 2 s "job" := by
  obtain ⟨s, hs, hrun⟩ := reach_of_any (step (deployment 2 true)) (fun s a => s.undisturbed a) {}
    (Sample.published ++ [.deliver 0, .exec 1 (.failed "timeout"), .exec 1 .done, .exec 1 .done])
    (fun s => s.accepted "job" && decide (s.failures "job" = ["get job status: timeout"]) &&
      decide (s.retry.map (fun entry => (entry.1, entry.2.attempt)) = [(1, 1)])) (by decide +kernel)
  simp only [Bool.and_eq_true, decide_eq_true_eq] at hrun
  obtain ⟨⟨haccepted, hfailures⟩, hretry⟩ := hrun
  exact ⟨s, hs, hfailures, hretry, attempts_accounted 2 true s "job" hs haccepted⟩

theorem retry_before_ack :
    ∃ s, Reach (step (deployment 2 true)) (fun s a => s.undisturbed a) {} s ∧
      s.accepted "job" = true ∧ isTerminal (s.status "job") = false ∧
      s.retry.map (·.2.id) = ["job"] ∧ s.unacked.map (fun d => (d.1, d.2.jobId?)) = [(1, some "job")] ∧
      s.running 1 = true := by
  obtain ⟨s, hs, hrun⟩ := reach_of_any (step (deployment 2 true)) (fun s a => s.undisturbed a) {}
    (Sample.published ++ [.deliver 0, .exec 1 (.failed "timeout"), .exec 1 .done, .exec 1 .done])
    (fun s => s.accepted "job" && !isTerminal (s.status "job") &&
      decide (s.retry.map (·.2.id) = ["job"]) &&
      decide (s.unacked.map (fun d => (d.1, d.2.jobId?)) = [(1, some "job")]) && s.running 1)
    (by decide +kernel)
  simp only [Bool.and_eq_true, Bool.not_eq_true', decide_eq_true_eq] at hrun
  obtain ⟨⟨⟨⟨haccepted, hstatus⟩, hretry⟩, hunacked⟩, hrunning⟩ := hrun
  exact ⟨s, hs, haccepted, hstatus, hretry, hunacked, hrunning⟩

end AgentsAtScale.Jobs
