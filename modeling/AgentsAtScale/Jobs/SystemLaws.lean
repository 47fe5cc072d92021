import AgentsAtScale.Jobs.System

namespace AgentsAtScale.Jobs

open Program Function Transition

namespace State

structure SameHistory (s t : State) : Prop where
  procs : t.procs = s.procs
  next : t.next = s.next
  issued : t.issued = s.issued
  keys : t.keys = s.keys
  foreign : t.foreign = s.foreign
  accepted : t.accepted = s.accepted
  agentRuns : t.agentRuns = s.agentRuns
  failures : t.failures = s.failures

theorem sameHistory_effect {cfg : Config} {s : State} {pid : Nat} {o : Op} :
    SameHistory s (s.effect cfg pid o) := by
  cases o with
  | nack requeue => cases requeue <;> exact ⟨rfl, rfl, rfl, rfl, rfl, rfl, rfl, rfl⟩
  | retry job level =>
    simp only [effect]
    split <;> exact ⟨rfl, rfl, rfl, rfl, rfl, rfl, rfl, rfl⟩
  | _ => exact ⟨rfl, rfl, rfl, rfl, rfl, rfl, rfl, rfl⟩

inductive Answer (cfg : Config) (s : State) (pid : Nat) :
    (o : Op) → Reaction → o.Reply → State → Prop
  | done {o : Op} {reply : o.Reply} : s.reply cfg o = some reply →
    Answer cfg s pid o .done reply (s.effect cfg pid o)
  | failed {o : Op} {reply : o.Reply} : o.error cause = some reply →
    Answer cfg s pid o (.failed cause) reply s
  | lost {o : Op} {reply : o.Reply} : o.error cause = some reply →
    Answer cfg s pid o (.lost cause) reply (s.effect cfg pid o)
  | time (ms : Int) : Answer cfg s pid .now (.time ms) ms s
  | events (events : List AgentEvent) : Answer cfg s pid (.agent call) (.events events) events s
  | result (result : Except AgentError GraphResult) :
    Answer cfg s pid (.invoke call) (.result result) result s

section

variable {cfg : Config} {s u : State} {pid : Nat} {o : Op} {reaction : Reaction} {reply : o.Reply}

theorem answer_cases (h : s.answer cfg pid o reaction = some (reply, u)) :
    Answer cfg s pid o reaction reply u := by
  cases reaction with
  | done =>
    obtain ⟨r, hr, heq⟩ := Option.map_eq_some_iff.mp h
    cases heq
    exact .done hr
  | failed cause =>
    obtain ⟨r, hr, heq⟩ := Option.map_eq_some_iff.mp h
    cases heq
    exact .failed hr
  | lost cause =>
    obtain ⟨r, hr, heq⟩ := Option.map_eq_some_iff.mp h
    cases heq
    exact .lost hr
  | time ms =>
    cases o with
    | now =>
      cases h
      exact .time ms
    | _ => cases h
  | events events =>
    cases o with
    | agent call =>
      cases h
      exact .events events
    | _ => cases h
  | result result =>
    cases o with
    | invoke call =>
      cases h
      exact .result result
    | _ => cases h

theorem Answer.state (h : Answer cfg s pid o reaction reply u) :
    u = s ∨ u = s.effect cfg pid o := by
  cases h with
  | done => exact .inr rfl
  | lost => exact .inr rfl
  | failed => exact .inl rfl
  | time => exact .inl rfl
  | events => exact .inl rfl
  | result => exact .inl rfl

theorem Answer.sameHistory (h : Answer cfg s pid o reaction reply u) : SameHistory s u := by
  rcases h.state with rfl | rfl
  · exact ⟨rfl, rfl, rfl, rfl, rfl, rfl, rfl, rfl⟩
  · exact sameHistory_effect

end

end State

open State

inductive Step (cfg : Config) (s : State) : Action → State → Prop
  | publish {id : String} : isBlank id = false → s.issued id = none → s.foreign id = false →
    Step cfg s (.publish id payload key)
      { s.spawn (.publisher (Service.newJob id payload) key) (cfg.publish id payload key) with
        issued := update s.issued id (some s.next)
        keys := update s.keys id key }
  | inject : Step cfg s (.inject message)
      { s with
        main := s.main ++ [message]
        foreign := update s.foreign (Role.worker message).jobId true }
  | deliver : s.main = before ++ message :: after →
    Step cfg s (.deliver index)
      { s.spawn (.worker message) (cfg.process message) with
        main := before ++ after
        unacked := s.unacked ++ [(s.next, message)] }
  | exec {o : Op} {k : o.Reply → Task Outcome} {reply : o.Reply} :
    s.procs pid = some { role := role, rest := .op o k, progress := p } →
    Answer cfg s pid o reaction reply u →
    Step cfg s (.exec pid reaction) (u.resume pid role o p (p.next o reply) (k reply))
  | crash : Step cfg s (.crash pid) { s.requeue pid with procs := update s.procs pid none }
  | redeliver : Step cfg s (.redeliver pid) (s.requeue pid)
  | expireRetry : s.retry = before ++ (level, job) :: after →
    Step cfg s (.expireRetry index) { s with main := s.main ++ [.job job], retry := before ++ after }
  | expireLock : Step cfg s (.expireLock conversation) (s.setLock conversation none)

theorem eraseIdx_of_getElem? {l : List α} {i : Nat} {a : α} (h : l[i]? = some a) :
    ∃ before after, l = before ++ a :: after ∧ l.eraseIdx i = before ++ after := by
  obtain ⟨hi, ha⟩ := List.getElem?_eq_some_iff.mp h
  refine ⟨l.take i, l.drop (i + 1), ?_, List.eraseIdx_eq_take_drop_succ l i⟩
  rw [← ha, ← List.drop_eq_getElem_cons hi, List.take_append_drop]

theorem step_cases {cfg : Config} {s t : State} {a : Action} (h : step cfg s a = some t) :
    Step cfg s a t := by
  cases a with
  | publish id payload key =>
    simp only [step] at h
    split at h
    · cases h
    · rename_i hnew
      cases h
      simp only [Bool.or_eq_true, not_or, Bool.not_eq_true, Option.isSome_eq_false_iff,
        Option.isNone_iff_eq_none] at hnew
      exact .publish hnew.1.1 hnew.1.2 hnew.2
  | inject message =>
    cases h
    exact .inject
  | deliver index =>
    simp only [step] at h
    split at h
    · cases h
    · rename_i message hm
      cases h
      obtain ⟨before, after, hmain, herase⟩ := eraseIdx_of_getElem? hm
      rw [herase]
      exact .deliver hmain
  | exec pid reaction =>
    simp only [step] at h
    split at h
    · rename_i role o k p hproc
      obtain ⟨⟨reply, u⟩, hu, rfl⟩ := Option.map_eq_some_iff.mp h
      exact .exec hproc (answer_cases hu)
    · cases h
  | crash pid =>
    cases h
    exact .crash
  | redeliver pid =>
    cases h
    exact .redeliver
  | expireRetry index =>
    simp only [step] at h
    split at h
    · cases h
    · rename_i level job hj
      cases h
      obtain ⟨before, after, hretry, herase⟩ := eraseIdx_of_getElem? hj
      rw [herase]
      exact .expireRetry hretry
  | expireLock conversation =>
    cases h
    exact .expireLock

theorem retryQueue_injective (queue : String) : Injective (retryQueue queue) := by
  intro i j h
  rw [retryQueue, retryQueue, String.append_right_inj] at h
  have hdigits := congrArg (fun s => Nat.ofDigitChars 10 s.toList 0) h
  simpa [Nat.toString_eq_ofList_toDigits] using hdigits

theorem step_deliver {cfg : Config} {s : State} {index : Nat} {message : Message}
    (h : s.main[index]? = some message) : step cfg s (.deliver index) =
      some { s.spawn (.worker message) (cfg.process message) with
        main := s.main.eraseIdx index
        unacked := s.unacked ++ [(s.next, message)] } := by
  simp only [step, h]

theorem step_expireRetry {cfg : Config} {s : State} {index level : Nat} {job : Job}
    (h : s.retry[index]? = some (level, job)) : step cfg s (.expireRetry index) =
      some { s with main := s.main ++ [.job job], retry := s.retry.eraseIdx index } := by
  simp only [step, h]

theorem nextOp_of_procs {s : State} {pid : Nat} {role : Role} {o : Op} {k : o.Reply → Task Outcome}
    {p : Progress} (h : s.procs pid = some { role := role, rest := .op o k, progress := p }) :
    s.nextOp pid = some o := by
  simp only [State.nextOp, h]

theorem procs_of_nextOp {s : State} {pid : Nat} {o : Op} (h : s.nextOp pid = some o) :
    ∃ role k p, s.procs pid = some { role := role, rest := .op o k, progress := p } := by
  unfold State.nextOp at h
  split at h
  · rename_i role o k p hproc
    cases h
    exact ⟨role, k, p, hproc⟩
  · cases h

section

variable {s u : State} {role : Role} {o : Op} {p p' : Progress} {rest program : Task Outcome}
  {pid q : Nat} {proc : Proc}

theorem procs_resume (hsame : State.SameHistory s u)
    (h : (u.resume pid role o p p' rest).procs q = some proc) :
    q = pid ∧ proc = { role := role, rest := rest, progress := p' } ∨
      q ≠ pid ∧ s.procs q = some proc := by
  simp only [State.resume, hsame.procs, update_apply] at h
  split at h
  · rename_i hq
    cases h
    exact .inl ⟨hq, rfl⟩
  · rename_i hq
    exact .inr ⟨hq, h⟩

theorem procs_resume_of_ne (hsame : State.SameHistory s u) (hq : q ≠ pid) :
    (u.resume pid role o p p' rest).procs q = s.procs q := by
  simp only [State.resume, hsame.procs, update_of_ne hq]

theorem procs_resume_self :
    (u.resume pid role o p p' rest).procs pid =
      some { role := role, rest := rest, progress := p' } :=
  update_self ..

theorem procs_spawn_of_ne (hq : q ≠ s.next) : (s.spawn role program).procs q = s.procs q :=
  update_of_ne hq ..

theorem procs_spawn_self :
    (s.spawn role program).procs s.next = some { role := role, rest := program } :=
  update_self ..

theorem procs_spawn (h : (s.spawn role program).procs q = some proc) :
    q = s.next ∧ proc = { role := role, rest := program } ∨ q ≠ s.next ∧ s.procs q = some proc := by
  simp only [State.spawn, update_apply] at h
  split at h
  · rename_i hq
    cases h
    exact .inl ⟨hq, rfl⟩
  · rename_i hq
    exact .inr ⟨hq, h⟩

theorem procs_crash (h : update s.procs pid none q = some proc) :
    q ≠ pid ∧ s.procs q = some proc := by
  rw [update_apply] at h
  split at h
  · cases h
  · rename_i hq
    exact ⟨hq, h⟩

end

section

variable {cfg : Config} {s u : State} {pid q : Nat} {o : Op} {message : Message}

theorem mem_unacked_settle :
    (q, message) ∈ (s.settle pid).unacked ↔ (q, message) ∈ s.unacked ∧ q ≠ pid := by
  simp [State.settle]

theorem unacked_effect (h : (q, message) ∈ (s.effect cfg pid o).unacked) :
    (q, message) ∈ s.unacked := by
  have settle (h : (q, message) ∈ (s.settle pid).unacked) := (mem_unacked_settle.mp h).1
  cases o with
  | ack => exact settle h
  | nack requeue => cases requeue <;> exact settle h
  | retry job level =>
    simp only [State.effect] at h
    split at h <;> exact h
  | _ => exact h

theorem unacked_effect_of_ne (hq : q ≠ pid) (h : (q, message) ∈ s.unacked) :
    (q, message) ∈ (s.effect cfg pid o).unacked := by
  have settle : (q, message) ∈ (s.settle pid).unacked := mem_unacked_settle.mpr ⟨h, hq⟩
  cases o with
  | ack => exact settle
  | nack requeue => cases requeue <;> exact settle
  | retry job level =>
    simp only [State.effect]
    split <;> exact h
  | _ => exact h

variable {reaction : Reaction} {reply : o.Reply}

theorem unacked_answer (h : s.Answer cfg pid o reaction reply u) (hu : (q, message) ∈ u.unacked) :
    (q, message) ∈ s.unacked := by
  rcases h.state with rfl | rfl
  · exact hu
  · exact unacked_effect hu

theorem unacked_answer_of_ne (h : s.Answer cfg pid o reaction reply u) (hq : q ≠ pid)
    (hs : (q, message) ∈ s.unacked) : (q, message) ∈ u.unacked := by
  rcases h.state with rfl | rfl
  · exact hs
  · exact unacked_effect_of_ne hq hs

end

structure Config.Follows (cfg : Config) (rules : Rules) : Prop where
  worker : ∀ message, Obeys rules (.worker message) (cfg.process message) {}
  publisher : ∀ id payload key,
    Obeys rules (.publisher (Service.newJob id payload) key) (cfg.publish id payload key) {}

/-- What holds in every state of every run: the processings obey their rules and
have numbers that were drawn, and a delivery has its processing. -/
structure Regular (rules : Rules) (s : State) : Prop where
  obeys : ∀ pid proc, s.procs pid = some proc → Obeys rules proc.role proc.rest proc.progress
  numbered : ∀ pid proc, s.procs pid = some proc → pid < s.next
  manned : ∀ pid message, (pid, message) ∈ s.unacked →
    ∃ rest p, s.procs pid = some { role := .worker message, rest := rest, progress := p }

namespace Regular

variable {cfg : Config} {rules : Rules} {s t u : State} {a : Action} {pid : Nat}

theorem head {role : Role} {o : Op} {k : o.Reply → Task Outcome} {p : Progress}
    (h : Regular rules s)
    (hproc : s.procs pid = some { role := role, rest := .op o k, progress := p }) :
    rules.allowed role p o :=
  (h.obeys pid _ hproc).1

theorem ne_next {proc : Proc} (h : Regular rules s) (hproc : s.procs pid = some proc) :
    pid ≠ s.next :=
  Nat.ne_of_lt (h.numbered pid proc hproc)

theorem start : Regular rules {} where
  obeys _ _ h := by cases h
  numbered _ _ h := by cases h
  manned _ _ h := by cases h

theorem spawn {role : Role} {program : Task Outcome} (h : Regular rules s)
    (hprogram : Obeys rules role program {}) : Regular rules (s.spawn role program) where
  obeys q proc hq := by
    rcases procs_spawn hq with ⟨-, rfl⟩ | ⟨-, hq⟩
    · exact hprogram
    · exact h.obeys q proc hq
  numbered q proc hq := by
    rcases procs_spawn hq with ⟨rfl, -⟩ | ⟨-, hq⟩
    · exact Nat.lt_succ_self _
    · exact Nat.lt_succ_of_lt (h.numbered q proc hq)
  manned q message hmem := by
    obtain ⟨rest, p, hq⟩ := h.manned q message hmem
    exact ⟨rest, p, (procs_spawn_of_ne (h.ne_next hq)).trans hq⟩

theorem exec {role : Role} {o : Op} {k : o.Reply → Task Outcome} {p : Progress}
    {reaction : Reaction} {reply : o.Reply} (h : Regular rules s)
    (hproc : s.procs pid = some { role := role, rest := .op o k, progress := p })
    (hanswer : s.Answer cfg pid o reaction reply u) :
    Regular rules (u.resume pid role o p (p.next o reply) (k reply)) where
  obeys q proc hq := by
    rcases procs_resume hanswer.sameHistory hq with ⟨rfl, rfl⟩ | ⟨-, hq⟩
    · exact (h.obeys q _ hproc).2 reply trivial
    · exact h.obeys q proc hq
  numbered q proc hq := by
    change q < u.next
    rw [hanswer.sameHistory.next]
    rcases procs_resume hanswer.sameHistory hq with ⟨rfl, -⟩ | ⟨-, hq⟩
    · exact h.numbered q _ hproc
    · exact h.numbered q proc hq
  manned q message hmem := by
    obtain ⟨rest, p', hq⟩ := h.manned q message (unacked_answer hanswer hmem)
    by_cases hqp : q = pid
    · subst hqp
      rw [hproc] at hq
      cases hq
      exact ⟨_, _, procs_resume_self⟩
    · exact ⟨rest, p', (procs_resume_of_ne hanswer.sameHistory hqp).trans hq⟩

theorem requeue (h : Regular rules s) : Regular rules (s.requeue pid) where
  obeys := h.obeys
  numbered := h.numbered
  manned q message hmem := h.manned q message (mem_unacked_settle.mp hmem).1

theorem crash (h : Regular rules s) :
    Regular rules { s.requeue pid with procs := update s.procs pid none } where
  obeys q proc hq := h.obeys q proc (procs_crash hq).2
  numbered q proc hq := h.numbered q proc (procs_crash hq).2
  manned q message hmem := by
    obtain ⟨hmem, hne⟩ := mem_unacked_settle.mp hmem
    obtain ⟨rest, p, hq⟩ := h.manned q message hmem
    exact ⟨rest, p, (update_of_ne hne ..).trans hq⟩

theorem step (hcfg : cfg.Follows rules) (h : Regular rules s)
    (hstep : Jobs.step cfg s a = some t) : Regular rules t := by
  cases step_cases hstep with
  | @publish payload key id _ _ _ =>
    have hspawn := h.spawn (hcfg.publisher id payload key)
    exact ⟨hspawn.obeys, hspawn.numbered, hspawn.manned⟩
  | inject => exact ⟨h.obeys, h.numbered, h.manned⟩
  | @deliver before message after _ _ =>
    have hspawn := h.spawn (hcfg.worker message)
    refine ⟨hspawn.obeys, hspawn.numbered, ?_⟩
    intro q m hmem
    rcases List.mem_append.mp hmem with hmem | hmem
    · exact hspawn.manned q m hmem
    · cases List.mem_singleton.mp hmem
      exact ⟨_, _, procs_spawn_self⟩
  | exec hproc hanswer => exact h.exec hproc hanswer
  | crash => exact h.crash
  | redeliver => exact h.requeue
  | expireRetry => exact ⟨h.obeys, h.numbered, h.manned⟩
  | expireLock => exact ⟨h.obeys, h.numbered, h.manned⟩

end Regular

def Service.config (s : Service) (retryQueues : Nat) : Config where
  publish := serve
  process := s.work
  retryQueues := retryQueues

theorem Service.config_follows (s : Service) (retryQueues : Nat) :
    (s.config retryQueues).Follows s.rules where
  worker := obeys_work
  publisher := obeys_serve

section

variable {cfg : Config} {s t u : State} {a : Action} {pid : Nat} {o : Op} {reaction : Reaction}
  {reply : o.Reply}

theorem status_effect (id : String) :
    (s.effect cfg pid o).status id = s.status id ∨
      ∃ status, o = .setJobStatus id status ∧ (s.effect cfg pid o).status id = some status := by
  cases o with
  | setJobStatus id' status =>
    by_cases hid : id = id'
    · subst hid
      exact .inr ⟨status, rfl, update_self ..⟩
    · exact .inl (update_of_ne hid ..)
  | nack requeue => cases requeue <;> exact .inl rfl
  | retry job level =>
    simp only [State.effect]
    split <;> exact .inl rfl
  | _ => exact .inl rfl

theorem status_answer (h : s.Answer cfg pid o reaction reply u) (id : String) :
    u.status id = s.status id ∨ ∃ status, o = .setJobStatus id status ∧ u.status id = some status := by
  rcases h.state with rfl | rfl
  · exact .inl rfl
  · exact status_effect id

theorem unsettled_of_setJobStatus {svc : Service} {role : Role} {p : Progress} {id : String}
    {status : Status} (h : role.Allowed svc p (.setJobStatus id status)) :
    role.jobId = id ∧ p.Unsettled := by
  rcases role.allowed_cases h with hnack | ⟨job, rfl, -, hjob⟩ | ⟨job, key, rfl, hjob⟩
  · cases hnack
  · exact ⟨hjob.1.symm, hjob.2.1.final, hjob.2.1.sent⟩
  · exact ⟨hjob.1.symm, hjob.2⟩

theorem flags_error {cause : String} (h : o.error cause = some reply) :
    o.finalizes reply = false ∧ o.sends reply = false := by
  cases o <;> cases h <;> exact ⟨rfl, rfl⟩

theorem status_step (h : step cfg s a = some t) (id : String) :
    t.status id = s.status id ∨ ∃ pid reaction status, a = .exec pid reaction ∧
      s.nextOp pid = some (.setJobStatus id status) ∧ t.status id = some status := by
  cases step_cases h with
  | exec hproc hanswer =>
    rcases status_answer hanswer id with heq | ⟨status, rfl, heq⟩
    · exact .inl heq
    · exact .inr ⟨_, _, status, rfl, nextOp_of_procs hproc, heq⟩
  | _ => exact .inl rfl

theorem issued_step {id : String} (h : step cfg s a = some t) (hissued : (s.issued id).isSome = true) :
    (t.issued id).isSome = true := by
  cases step_cases h with
  | publish =>
    simp only [update_apply]
    split
    · rfl
    · exact hissued
  | @exec pid role p reaction u o k reply hproc hanswer =>
    change (u.issued id).isSome = true
    rw [hanswer.sameHistory.issued, hissued]
  | _ => exact hissued

theorem agentRuns_step (h : step cfg s a = some t) (id : String) :
    t.agentRuns id = s.agentRuns id ∨ ∃ pid reaction o, a = .exec pid reaction ∧
      s.nextOp pid = some o ∧ o.agentConversation.isSome = true ∧ s.jobId pid = some id := by
  cases step_cases h with
  | @exec pid role p reaction u o k reply hproc hanswer =>
    have hruns := hanswer.sameHistory.agentRuns
    have counted (ho : o.agentConversation.isSome = true)
        (heq : (u.resume pid role o p (p.next o reply) (k reply)).agentRuns id =
          update s.agentRuns role.jobId (s.agentRuns role.jobId + 1) id) :
        (u.resume pid role o p (p.next o reply) (k reply)).agentRuns id = s.agentRuns id ∨
          ∃ q reaction' o', Action.exec pid reaction = .exec q reaction' ∧
            s.nextOp q = some o' ∧ o'.agentConversation.isSome = true ∧ s.jobId q = some id := by
      by_cases hid : id = role.jobId
      · subst hid
        exact .inr ⟨pid, reaction, o, rfl, nextOp_of_procs hproc, ho, by simp [State.jobId, hproc]⟩
      · exact .inl (heq.trans (update_of_ne hid ..))
    cases o with
    | agent call => exact counted rfl (by simp only [State.resume, State.record, hruns])
    | invoke call => exact counted rfl (by simp only [State.resume, State.record, hruns])
    | _ => exact .inl (congrFun hruns id)
  | _ => exact .inl rfl

end

namespace Sample

def service : Service := Service.new { maxAttempts := 3 } true

def config : Config := service.config 2

def payload : Json :=
  .object [("user_id", .string "u"), ("session_id", .string "s"), ("message", .string "hello")]

def published : List Action :=
  [.publish "job" (some payload) "", .exec 0 .done, .exec 0 (.time 0), .exec 0 .done, .exec 0 .done]

def started (pid : Nat) : List Action :=
  [.exec pid .done, .exec pid (.time 0), .exec pid .done, .exec pid .done]

def finished (pid : Nat) : List Action :=
  [.exec pid (.events []), .exec pid (.time 0), .exec pid .done, .exec pid .done]

end Sample

end AgentsAtScale.Jobs
