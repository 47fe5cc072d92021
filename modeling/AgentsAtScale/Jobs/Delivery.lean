import AgentsAtScale.Jobs.Publishing

namespace AgentsAtScale.Jobs

open Program Function Transition

/-- The broker keeps a delivery for its processing, and failed operations have no
effect. -/
def Action.orderly : Action → Bool
  | .redeliver _ => false
  | .exec _ (.lost _) => false
  | _ => true

namespace State

def queued (s : State) : List String :=
  s.main.filterMap Message.jobId? ++ s.retry.map (·.2.id) ++ s.dead.map (·.id)

def delivered (s : State) : List String := s.unacked.filterMap (·.2.jobId?)

/-- A job is dropped, instead of being sent to the dead queue, only if its status
`failed` has been stored. -/
def dropsFinished (s : State) : Action → Bool
  | .exec pid (.failed _) =>
    match s.nextOp pid with
    | some (.deadLetter _) => (s.procs pid).any (·.progress.final)
    | _ => true
  | _ => true

section

variable {cfg : Config} {s u : State} {pid : Nat} {o : Op} {id : String}

theorem mem_queued : id ∈ s.queued ↔ (∃ message ∈ s.main, message.jobId? = some id) ∨
    (∃ entry ∈ s.retry, entry.2.id = id) ∨ ∃ job ∈ s.dead, job.id = id := by
  simp only [queued, List.mem_append, List.mem_filterMap, List.mem_map, or_assoc]

theorem mem_queued_main (job : Job) (h : .job job ∈ s.main) : job.id ∈ s.queued :=
  mem_queued.mpr (.inl ⟨_, h, rfl⟩)

theorem mem_queued_retry (job : Job) {level : Nat} (h : (level, job) ∈ s.retry) :
    job.id ∈ s.queued :=
  mem_queued.mpr (.inr (.inl ⟨_, h, rfl⟩))

theorem mem_queued_dead (job : Job) (h : job ∈ s.dead) : job.id ∈ s.queued :=
  mem_queued.mpr (.inr (.inr ⟨_, h, rfl⟩))

theorem queued_mono {t : State} (hmain : s.main ⊆ t.main) (hretry : s.retry ⊆ t.retry)
    (hdead : s.dead ⊆ t.dead) (h : id ∈ s.queued) : id ∈ t.queued := by
  rw [mem_queued] at h ⊢
  rcases h with ⟨message, hm, hid⟩ | ⟨entry, he, hid⟩ | ⟨job, hj, hid⟩
  · exact .inl ⟨message, hmain hm, hid⟩
  · exact .inr (.inl ⟨entry, hretry he, hid⟩)
  · exact .inr (.inr ⟨job, hdead hj, hid⟩)

theorem mem_requeue {message : Message} (h : (pid, message) ∈ s.unacked) :
    message ∈ (s.requeue pid).main := by
  simp only [requeue, List.mem_append, unackedOf, List.mem_map, List.mem_filter]
  exact .inr ⟨_, ⟨h, by simp⟩, rfl⟩

theorem queued_requeue (h : id ∈ s.queued) : id ∈ (s.requeue pid).queued :=
  queued_mono (s := s) (List.subset_append_left _ _) (List.Subset.refl _) (List.Subset.refl _) h

theorem queued_effect (h : id ∈ s.queued) : id ∈ (s.effect cfg pid o).queued := by
  cases o with
  | publish job =>
    exact queued_mono (s := s) (List.subset_append_left _ _) (List.Subset.refl _) (List.Subset.refl _) h
  | retry job level =>
    simp only [effect]
    split
    · exact h
    · exact queued_mono (s := s) (List.Subset.refl _) (List.subset_append_left _ _) (List.Subset.refl _) h
  | deadLetter job =>
    exact queued_mono (s := s) (List.Subset.refl _) (List.Subset.refl _) (List.subset_append_left _ _) h
  | nack requeue =>
    cases requeue with
    | true => exact queued_requeue h
    | false => exact h
  | _ => exact h

end

end State

def State.Carries (s : State) (id : String) (pid : Nat) : Prop :=
  ∃ job rest p, (pid, .job job) ∈ s.unacked ∧ job.id = id ∧
    s.procs pid = some { role := .worker (.job job), rest := rest, progress := p } ∧ p.Unsettled

/-- Where the accepted jobs are, and what the processings know of it. -/
structure Kept (s : State) : Prop where
  carried : ∀ pid job rest p,
    s.procs pid = some { role := .worker (.job job), rest := rest, progress := p } →
    isBlank job.id = false → p.Open → (pid, .job job) ∈ s.unacked
  dropped : ∀ pid proc, s.procs pid = some proc → proc.progress.dropped = true →
    proc.progress.final = true
  safe : ∀ id, s.accepted id = true →
    id ∈ s.queued ∨ isTerminal (s.status id) = true ∨ ∃ pid, s.Carries id pid

section

variable {cfg : Config} {svc : Service} {s t u : State} {pid : Nat} {id : String}

theorem settles_own {job : Job} {p : Progress} {o : Op} {reaction : Reaction} {reply : o.Reply}
    (hallowed : job.Allowed svc p o) (hdropped : p.dropped = true → p.final = true)
    (hunsettled : p.Unsettled) (hmem : (pid, .job job) ∈ s.unacked)
    (hok : (Action.exec pid reaction).orderly) (hanswer : s.Answer cfg pid o reaction reply u) :
    job.id ∈ u.queued ∨ isTerminal (u.status job.id) = true ∨
      (pid, .job job) ∈ u.unacked ∧ (p.next o reply).Unsettled := by
  obtain ⟨hfinal, hsent⟩ := hunsettled
  have hraised := Progress.raised_next (p := p) reply
  have kept (hu : (pid, .job job) ∈ u.unacked) (hf : o.finalizes reply = false)
      (hs : o.sends reply = false) :
      job.id ∈ u.queued ∨ isTerminal (u.status job.id) = true ∨
        (pid, .job job) ∈ u.unacked ∧ (p.next o reply).Unsettled :=
    .inr (.inr ⟨hu, by rw [hraised.final, hfinal, hf]; rfl, by rw [hraised.sent, hsent, hs]; rfl⟩)
  cases hanswer with
  | failed hreply =>
    have hflags := flags_error hreply
    exact kept hmem hflags.1 hflags.2
  | lost => cases hok
  | time => exact kept hmem rfl rfl
  | events => exact kept hmem rfl rfl
  | result => exact kept hmem rfl rfl
  | done hreply =>
    cases o with
    | getJobStatus id =>
      cases hreply
      obtain ⟨rfl, -⟩ := hallowed
      cases hterminal : isTerminal (s.status job.id) with
      | true => exact .inr (.inl hterminal)
      | false => exact kept hmem hterminal rfl
    | setJobStatus id status =>
      cases hreply
      obtain ⟨rfl, -⟩ := hallowed
      cases hterminal : isTerminal (some status) with
      | true =>
        refine .inr (.inl ?_)
        simpa only [State.effect, update_self] using hterminal
      | false => exact kept hmem hterminal rfl
    | retry job' level =>
      by_cases hqueues : cfg.retryQueues = 0
      · simp only [State.reply, if_pos hqueues] at hreply
        cases hreply
        simp only [State.effect, if_pos hqueues] at kept ⊢
        exact kept hmem rfl rfl
      · rw [← Job.id_of_retry hallowed]
        simp only [State.effect, if_neg hqueues]
        exact .inl (State.mem_queued_retry job'.encoded (List.mem_append_right _ (.head _)))
    | deadLetter job' =>
      rw [← Job.id_of_deadLetter hallowed]
      exact .inl (State.mem_queued_dead job'.encoded (List.mem_append_right _ (.head _)))
    | ack =>
      rcases hallowed.2 with ⟨h, -⟩ | h
      · cases hfinal.symm.trans h
      · cases hsent.symm.trans h
    | nack requeue =>
      cases requeue with
      | true => exact .inl (State.mem_queued_main job (State.mem_requeue hmem))
      | false => cases hfinal.symm.trans (hdropped (hallowed.2.2.2 rfl))
    | publish job' => exact hallowed.elim
    | invoke call => exact hallowed.elim
    | _ => exact kept hmem rfl rfl

section

variable {role : Role} {o : Op} {k : o.Reply → Task Outcome} {p : Progress} {reaction : Reaction}
  {reply : o.Reply}

theorem queued_answer (h : s.Answer cfg pid o reaction reply u) (hs : id ∈ s.queued) :
    id ∈ u.queued := by
  rcases h.state with rfl | rfl
  · exact hs
  · exact State.queued_effect hs

theorem unacked_of_open {job : Job} {message : Message} (hallowed : job.Allowed svc p o)
    (hopen : p.Open) (hanswer : s.Answer cfg pid o reaction reply u)
    (h : (pid, message) ∈ s.unacked) : (pid, message) ∈ u.unacked := by
  rcases hanswer.state with rfl | rfl
  · exact h
  · cases o with
    | ack =>
      rcases hallowed.2 with ⟨hfinal, -⟩ | hsent
      · cases hopen.final.symm.trans hfinal
      · cases hopen.sent.symm.trans hsent
    | nack requeue => cases hopen.unsent.symm.trans hallowed.2.1
    | retry job' level =>
      simp only [State.effect]
      split <;> exact h
    | _ => exact h

theorem final_of_drops (hok : (Action.exec pid reaction).orderly)
    (hdrops : s.dropsFinished (.exec pid reaction))
    (hproc : s.procs pid = some { role := role, rest := .op o k, progress := p })
    (hanswer : s.Answer cfg pid o reaction reply u) (h : o.drops reply = true) :
    p.final = true := by
  cases o with
  | deadLetter job =>
    cases hanswer with
    | done hreply =>
      cases hreply
      cases h
    | lost => cases hok
    | failed => simpa [State.dropsFinished, nextOp_of_procs hproc, hproc] using hdrops
  | _ => cases h

theorem allowed_of_role {job : Job} (h : role.Allowed svc p o) (hrole : role = .worker (.job job))
    (hid : isBlank job.id = false) : job.Allowed svc p o := by
  subst hrole
  simpa only [Role.Allowed, hid, Bool.false_eq_true, if_false] using h

theorem queued_of_publish {job : Job} {reply : Op.Reply (.publish job)}
    (hanswer : s.Answer cfg pid (.publish job) reaction reply u)
    (hok : (Action.exec pid reaction).orderly) (hsends : Op.sends (.publish job) reply = true) :
    job.id ∈ u.queued := by
  cases hanswer with
  | done => exact State.mem_queued_main job.encoded (List.mem_append_right _ (.head _))
  | failed hreply => cases (flags_error hreply).2.symm.trans hsends
  | lost => cases hok

theorem carries_of_setJobStatus {status : Status} {reply : Op.Reply (.setJobStatus id status)}
    {rest : Task Outcome} {k : Op.Reply (.setJobStatus id status) → Task Outcome}
    (hallowed : role.Allowed svc p (.setJobStatus id status)) (hdrawn : Drawn s) (h : Kept s)
    (hproc : s.procs pid = some { role := role, rest := .op (.setJobStatus id status) k, progress := p })
    (hanswer : s.Answer cfg pid (.setJobStatus id status) reaction reply u)
    (hid : s.accepted id = true) (hterminal : isTerminal (some status) = false) :
    (u.resume pid role (.setJobStatus id status) p (p.next _ reply) rest).Carries id pid := by
  rcases role.allowed_cases hallowed with hnack | ⟨job, rfl, hblank, hjob⟩ | ⟨job, key, rfl, hjob⟩
  · cases hnack
  · have hopen := hjob.2.1
    have hraised := Progress.raised_next (p := p) reply
    have hfinalizes : Op.finalizes (.setJobStatus id status) reply = false := by
      cases reply <;> first | rfl | exact hterminal
    refine ⟨job, rest, p.next _ reply, ?_, hjob.1.symm, procs_resume_self, ?_, ?_⟩
    · change (pid, .job job) ∈ u.unacked
      exact unacked_of_open hjob hopen hanswer (h.carried pid job _ p hproc hblank hopen)
    · rw [hraised.final, hopen.final, hfinalizes]
      rfl
    · rw [hraised.sent, hopen.sent]
      rfl
  · obtain ⟨rfl, hunsettled⟩ := hjob
    cases ((hdrawn.publisher pid job key _ p hproc).2.2.2.2 hunsettled.2).symm.trans hid

theorem kept_exec (hregular : Regular svc.rules s) (hdrawn : Drawn s) (h : Kept s)
    (hproc : s.procs pid = some { role := role, rest := .op o k, progress := p })
    (hanswer : s.Answer cfg pid o reaction reply u) (hok : (Action.exec pid reaction).orderly)
    (hdrops : s.dropsFinished (.exec pid reaction)) :
    Kept (u.resume pid role o p (p.next o reply) (k reply)) where
  carried q job rest p' hq hid hopen := by
    change (q, .job job) ∈ u.unacked
    rcases procs_resume hanswer.sameHistory hq with ⟨rfl, heq⟩ | ⟨hqp, hq⟩
    · cases heq
      have hallowed := allowed_of_role (hregular.head hproc) rfl hid
      have hopen := Progress.open_of_next hopen
      exact unacked_of_open hallowed hopen hanswer (h.carried q job _ p hproc hid hopen)
    · exact unacked_answer_of_ne hanswer hqp (h.carried q job rest p' hq hid hopen)
  dropped q proc hq hdropped := by
    rcases procs_resume hanswer.sameHistory hq with ⟨rfl, rfl⟩ | ⟨-, hq⟩
    · have hraised := Progress.raised_next (p := p) reply
      rw [hraised.dropped, Bool.or_eq_true_iff] at hdropped
      have hfinal : p.final = true := by
        rcases hdropped with hdropped | hdrop
        · exact h.dropped q _ hproc hdropped
        · exact final_of_drops hok hdrops hproc hanswer hdrop
      rw [hraised.final, hfinal]
      rfl
    · exact h.dropped q proc hq hdropped
  safe id hid := by
    have hsame := hanswer.sameHistory
    have hallowed : role.Allowed svc p o := hregular.head hproc
    change id ∈ u.queued ∨ isTerminal (u.status id) = true ∨ _
    rcases hdrawn.accepted_exec svc.publishOnce hregular hproc hsame hid with
      hold | ⟨job, key, -, rfl, rfl, hsent, hnew, -, -⟩
    · rcases h.safe id hold with hqueued | hterminal | ⟨q, job, rest, p', hmem, rfl, hq, hunsettled⟩
      · exact .inl (queued_answer hanswer hqueued)
      · rcases status_answer hanswer id with heq | ⟨status, rfl, heq⟩
        · exact .inr (.inl (by rw [heq, hterminal]))
        · cases hnew : isTerminal (some status) with
          | true => exact .inr (.inl (by rw [heq, hnew]))
          | false =>
            exact .inr (.inr ⟨pid, carries_of_setJobStatus hallowed hdrawn h hproc hanswer hold hnew⟩)
      · by_cases hqp : q = pid
        · subst hqp
          rw [hproc] at hq
          cases hq
          have hjob := allowed_of_role hallowed rfl (hdrawn.accepted job.id hold).1
          rcases settles_own hjob (h.dropped q _ hproc) hunsettled hmem hok hanswer with
            hqueued | hterminal | ⟨hmem, hunsettled⟩
          · exact .inl hqueued
          · exact .inr (.inl hterminal)
          · exact .inr (.inr ⟨q, job, _, _, hmem, rfl, procs_resume_self, hunsettled⟩)
        · refine .inr (.inr ⟨q, job, rest, p', ?_, rfl, ?_, hunsettled⟩)
          · change (q, .job job) ∈ u.unacked
            exact unacked_answer_of_ne hanswer hqp hmem
          · rw [procs_resume_of_ne hsame hqp, hq]
    · rw [(Progress.raised_next reply).sent, hnew, Bool.false_or] at hsent
      exact .inl (queued_of_publish hanswer hok hsent)

end

theorem State.Carries.mono {q : Nat} (h : s.Carries id q) (hunacked : ∀ m, (q, m) ∈ s.unacked → (q, m) ∈ t.unacked)
    (hprocs : t.procs q = s.procs q) : t.Carries id q := by
  obtain ⟨job, rest, p, hmem, hid, hproc, hunsettled⟩ := h
  exact ⟨job, rest, p, hunacked _ hmem, hid, by rw [hprocs, hproc], hunsettled⟩

theorem State.Carries.ne_next {rules : Rules} {q : Nat} (h : s.Carries id q)
    (hregular : Regular rules s) : q ≠ s.next := by
  obtain ⟨job, rest, p, -, -, hproc, -⟩ := h
  exact hregular.ne_next hproc

theorem kept_publish {payload : Option Json} {key : String} (hregular : Regular svc.rules s)
    (h : Kept s) :
    Kept { s.spawn (.publisher (Service.newJob id payload) key) (cfg.publish id payload key) with
      issued := update s.issued id (some s.next)
      keys := update s.keys id key } where
  carried q job rest p hq hid hopen := by
    rcases procs_spawn hq with ⟨-, heq⟩ | ⟨-, hq⟩
    · cases heq
    · exact h.carried q job rest p hq hid hopen
  dropped q proc hq hdropped := by
    rcases procs_spawn hq with ⟨-, rfl⟩ | ⟨-, hq⟩
    · cases hdropped
    · exact h.dropped q proc hq hdropped
  safe id' hid := by
    rcases h.safe id' hid with hqueued | hterminal | ⟨q, hcarries⟩
    · exact .inl hqueued
    · exact .inr (.inl hterminal)
    · exact .inr (.inr ⟨q, hcarries.mono (fun _ h => h) (procs_spawn_of_ne (hcarries.ne_next hregular))⟩)

theorem kept_deliver {before after : List Message} {message : Message} {program : Task Outcome}
    (hregular : Regular svc.rules s) (h : Kept s) (hmain : s.main = before ++ message :: after) :
    Kept { s.spawn (.worker message) program with
      main := before ++ after
      unacked := s.unacked ++ [(s.next, message)] } where
  carried q job rest p hq hid hopen := by
    rcases procs_spawn hq with ⟨rfl, heq⟩ | ⟨-, hq⟩
    · cases heq
      exact List.mem_append_right _ (.head _)
    · exact List.mem_append_left _ (h.carried q job rest p hq hid hopen)
  dropped q proc hq hdropped := by
    rcases procs_spawn hq with ⟨-, rfl⟩ | ⟨-, hq⟩
    · cases hdropped
    · exact h.dropped q proc hq hdropped
  safe id hid := by
    rcases h.safe id hid with hqueued | hterminal | ⟨q, hcarries⟩
    · rw [State.mem_queued, hmain] at hqueued
      rcases hqueued with ⟨m, hm, hjob⟩ | hrest
      · rcases List.mem_append.mp hm with hm | hm
        · exact .inl (State.mem_queued.mpr (.inl ⟨m, List.mem_append_left _ hm, hjob⟩))
        · rcases List.mem_cons.mp hm with rfl | hm
          · cases m with
            | invalid err => cases hjob
            | job job =>
              cases hjob
              refine .inr (.inr ⟨s.next, job, program, {}, ?_, rfl, procs_spawn_self, rfl, rfl⟩)
              exact List.mem_append_right _ (.head _)
          · exact .inl (State.mem_queued.mpr (.inl ⟨m, List.mem_append_right _ hm, hjob⟩))
      · exact .inl (State.mem_queued.mpr (.inr hrest))
    · exact .inr (.inl hterminal)
    · refine .inr (.inr ⟨q, hcarries.mono (fun _ h => List.mem_append_left _ h) ?_⟩)
      exact procs_spawn_of_ne (hcarries.ne_next hregular)

theorem kept_crash (h : Kept s) :
    Kept { s.requeue pid with procs := update s.procs pid none } := by
  constructor
  · intro q job rest p hq hid hopen
    obtain ⟨hne, hq⟩ := procs_crash hq
    exact mem_unacked_settle.mpr ⟨h.carried q job rest p hq hid hopen, hne⟩
  · intro q proc hq
    exact h.dropped q proc (procs_crash hq).2
  · intro id hid
    rcases h.safe id hid with hqueued | hterminal | ⟨q, hcarries⟩
    · exact .inl (State.queued_requeue hqueued)
    · exact .inr (.inl hterminal)
    · by_cases hne : q = pid
      · subst hne
        obtain ⟨job, rest, p, hmem, rfl, -, -⟩ := hcarries
        exact .inl (State.mem_queued_main job (State.mem_requeue hmem))
      · refine .inr (.inr ⟨q, hcarries.mono (fun m hm => mem_unacked_settle.mpr ⟨hm, hne⟩) ?_⟩)
        exact update_of_ne hne ..

theorem kept_queued {main : List Message} {retry : List (Nat × Job)} {foreign : String → Bool}
    {locks : String → Option Lock} (h : Kept s)
    (hqueued : ∀ id, id ∈ s.queued → id ∈ State.queued { s with main := main, retry := retry }) :
    Kept { s with main := main, retry := retry, foreign := foreign, locks := locks } where
  carried := h.carried
  dropped := h.dropped
  safe id hid := (h.safe id hid).imp_left (hqueued id)

theorem kept_step {a : Action} (hregular : Regular svc.rules s) (hdrawn : Drawn s) (h : Kept s)
    (hok : a.orderly) (hdrops : s.dropsFinished a)
    (hstep : step cfg s a = some t) : Kept t := by
  cases step_cases hstep with
  | publish => exact kept_publish hregular h
  | inject =>
    refine kept_queued h fun id => State.queued_mono ?_ ?_ ?_
    · exact List.subset_append_left _ _
    · exact List.Subset.refl _
    · exact List.Subset.refl _
  | deliver hmain => exact kept_deliver hregular h hmain
  | exec hproc hanswer => exact kept_exec hregular hdrawn h hproc hanswer hok hdrops
  | crash => exact kept_crash h
  | redeliver => cases hok
  | expireRetry hretry =>
    refine kept_queued h fun id hid => ?_
    rw [State.mem_queued, hretry] at hid
    rcases hid with ⟨m, hm, hid⟩ | ⟨entry, he, rfl⟩ | hdead
    · exact State.mem_queued.mpr (.inl ⟨m, List.mem_append_left _ hm, hid⟩)
    · rcases List.mem_append.mp he with he | he
      · exact State.mem_queued.mpr (.inr (.inl ⟨entry, List.mem_append_left _ he, rfl⟩))
      · rcases List.mem_cons.mp he with rfl | he
        · exact State.mem_queued_main _ (List.mem_append_right _ (.head _))
        · exact State.mem_queued.mpr (.inr (.inl ⟨entry, List.mem_append_right _ he, rfl⟩))
    · exact State.mem_queued.mpr (.inr (.inr hdead))
  | expireLock => exact kept_queued h fun _ hid => hid

end

theorem kept_start : Kept {} where
  carried _ _ _ _ h := by cases h
  dropped _ _ h := by cases h
  safe _ h := by cases h

theorem accepted_not_lost (svc : Service) (queues : Nat) (s : State) (id : String)
    (h : Reach (step (svc.config queues)) (fun s a => a.orderly ∧ s.dropsFinished a) {} s)
    (hid : s.accepted id = true) :
    id ∈ s.queued ∨ id ∈ s.delivered ∨ isTerminal (s.status id) = true := by
  have hinv : Regular svc.rules s ∧ Drawn s ∧ Kept s := by
    apply h.invariant
    · exact ⟨.start, drawn_start, kept_start⟩
    · rintro s a t ⟨hregular, hdrawn, hkept⟩ hok hstep
      exact ⟨hregular.step (svc.config_follows queues) hstep, drawn_step svc.publishOnce hregular hdrawn hstep,
        kept_step hregular hdrawn hkept hok.1 hok.2 hstep⟩
  rcases hinv.2.2.safe id hid with hqueued | hterminal | ⟨pid, job, rest, p, hmem, rfl, -, -⟩
  · exact .inl hqueued
  · exact .inr (.inr hterminal)
  · exact .inr (.inl (List.mem_filterMap.mpr ⟨_, hmem, rfl⟩))

theorem accepted_not_lost_sample :
    ∃ s, Reach (step Sample.config) (fun s a => a.orderly ∧ s.dropsFinished a) {} s ∧
      s.accepted "job" = true ∧
      ("job" ∈ s.queued ∨ "job" ∈ s.delivered ∨ isTerminal (s.status "job") = true) := by
  obtain ⟨s, hs, haccepted⟩ := reach_of_any (step Sample.config)
    (fun s a => a.orderly ∧ s.dropsFinished a) {}
    (Sample.published ++ [.deliver 0, .exec 1 (.failed "timeout"), .exec 1 .done,
      .exec 1 (.failed "closed"), .exec 1 .done])
    (fun s => s.accepted "job") (by decide +kernel)
  exact ⟨s, hs, haccepted, accepted_not_lost Sample.service 2 s "job" hs haccepted⟩

/-- An invalid payload is to be dead-lettered.  Storing the status and the
dead-letter publish both fail, and the delivery is dropped. -/
theorem accepted_job_lost :
    ∃ s, Reach (step Sample.config) (fun _ a => a.orderly) {} s ∧ s.accepted "job" = true ∧
      "job" ∉ s.queued ∧ "job" ∉ s.delivered ∧ s.status "job" = some .published := by
  obtain ⟨s, hs, hlost⟩ := reach_of_any (step Sample.config) (fun _ a => a.orderly) {}
    [.publish "job" none "", .exec 0 .done, .exec 0 (.time 0), .exec 0 .done, .exec 0 .done,
      .deliver 0, .exec 1 .done, .exec 1 (.failed "timeout"), .exec 1 (.time 0), .exec 1 .done,
      .exec 1 (.failed "closed"), .exec 1 .done]
    (fun s => s.accepted "job" && decide ("job" ∉ s.queued) && decide ("job" ∉ s.delivered) &&
      decide (s.status "job" = some .published)) (by decide +kernel)
  simp only [Bool.and_eq_true, decide_eq_true_eq] at hlost
  obtain ⟨⟨⟨haccepted, hqueued⟩, hdelivered⟩, hstatus⟩ := hlost
  exact ⟨s, hs, haccepted, hqueued, hdelivered, hstatus⟩

end AgentsAtScale.Jobs
