import AgentsAtScale.Program.Relational
import AgentsAtScale.Jobs.Dispatch

/-! The Go and the Python deployment side by side.  As long as the writes that only one
of them checks succeed, each does what the other does, operation by operation. -/

namespace AgentsAtScale.Jobs

open Program Function Transition

/-- The replies after which both runtimes go on with the same operation.  What may fail is reading
the status, claiming and releasing locks and keys, every message sent, and the agent.  A write that
fails when a job is started or finished is checked by one of them only, or leads to the same
operations in another order. -/
def Op.Dependable : (o : Op) → o.Reply → Prop
  | .setJobStatus _ status, reply => status = .retrying ∨ status = .published ∨ reply = Except.ok ()
  | .setJobMetadata _ _, reply => reply = Except.ok ()
  | .markJobTiming _ field _, reply => field = .publishedMs ∨ reply = Except.ok ()
  | .setJobTiming _ _ _, reply => reply = Except.ok ()
  | .getIdempotencyKey _, reply => reply ≠ Except.ok none
  | .ack, reply => reply = Except.ok ()
  | .nack _, reply => reply = Except.ok ()
  | .invoke _, reply =>
    match (reply : Except AgentError GraphResult) with
    | .error _ => True
    | .ok result =>
      match result.interrupts with
      | some [] => False
      | some (interrupt :: _) => ∃ message,
        (Python.get (Python.JobService.interruptValue interrupt) "message").getD (.string "") = .string message
      | none => ∀ final, result.final = some final → final.status ≠ "failed"
  | _, _ => True

def Op.shared : Op → Bool
  | .agent _ => false
  | .invoke _ => false
  | _ => true

/-- An operation of the Go runtime and what stands for it in the Python runtime; all
jobs it sends are as required. -/
inductive Op.Mirrors (agree : Job → Prop) : Op → Op → Prop
  | agent (call : AgentCall) : Mirrors agree (.agent call) (.invoke call)
  | shared {o : Op} : o.shared = true → (∀ job, o.job? = some job → agree job) → Mirrors agree o o

section

variable {agree : Job → Prop} {Q : α → β → Prop} {job : Job}

end

section

variable {agree : Job → Prop} {go : Service} {py : Python.JobService} {job : Job}

def Lasting (agree : Job → Prop) : Prop :=
  ∀ job attempt err, agree job → agree { job with attempt := attempt, error := err }

def Service.settleRun (s : Service) (job : Job) (request : AgentRequest) :
    Option RequestInput × Option AgentError → Task Unit
  | (_, some err) => if err.noPendingInput then deadLetter job err.message else s.retry job err.message
  | (requested, none) => do
    match ← finish job request requested with
    | .error err => s.retry job err
    | .ok _ => ack

end

/-- Both workers take the job for one of theirs, and read its payload alike. -/
def Agree (go : Service) (py : Python.JobService) (job : Job) : Prop :=
  isBlank job.id = false ∧ job.payload.isSome = true ∧
    (Stack.adkGo go).validate job.payload = (Stack.langgraphPython py).validate job.payload

section

variable {go : Service} {py : Python.JobService} {job : Job}

theorem processUnfinished_eq : go.processUnfinished job =
    match (Stack.adkGo go).validate job.payload with
    | .error err => Service.deadLetter job err
    | .ok request =>
      if !go.runner then Service.deadLetter job "agent runner is required"
      else go.processRequest job request := by
  simp only [Service.processUnfinished, Stack.validate]
  cases decodeAgentRequest job.payload with
  | error err => rfl
  | ok request =>
    cases hvalid : validateAgentRequest request <;> simp [bind, Except.bind, hvalid, pure, Except.pure]

inductive SameResult (f : α → β) : Except String α → Except String β → Prop
  | ok (a : α) : SameResult f (.ok a) (.ok (f a))
  | error (err err' : String) : SameResult f (.error err) (.error err')

end

inductive Outcome.Same : Outcome → Outcome → Prop
  | processed : Same .processed .processed
  | returned {r r' : PublishResult} : SameResult id r r' → Same (.returned r) (.returned r')

theorem Outcome.Same.symm {a b : Outcome} (h : a.Same b) : b.Same a := by
  cases h with
  | processed => exact .processed
  | returned h =>
    cases h with
    | ok r => exact .returned (.ok r)
    | error err err' => exact .returned (.error err' err)

section

variable {go : Service} {py : Python.JobService}

def Message.Agrees (agree : Job → Prop) (message : Message) : Prop := ∀ job, message = .job job → agree job

end

namespace State

variable {cfg cfg' : Config} {s u : State} {pid : Nat} {o : Op} {reaction : Reaction} {reply : o.Reply}

def dependable (cfg : Config) (agree : Job → Prop) (s : State) : Action → Prop
  | .publish id payload _ => agree (Service.newJob id payload)
  | .inject message => message.Agrees agree
  | .exec pid reaction => ∀ o reply t, s.nextOp pid = some o →
    s.answer cfg pid o reaction = some (reply, t) → o.Dependable reply
  | _ => True

theorem effect_procs (procs : Nat → Option Proc) :
    ({ s with procs := procs } : State).effect cfg pid o = { s.effect cfg pid o with procs := procs } := by
  cases o with
  | nack requeue => cases requeue <;> rfl
  | retry job level =>
    simp only [effect]
    split <;> rfl
  | _ => rfl

theorem answer_procs (procs : Nat → Option Proc) (h : s.answer cfg pid o reaction = some (reply, u)) :
    ({ s with procs := procs } : State).answer cfg pid o reaction = some (reply, { u with procs := procs }) := by
  have hreply : ({ s with procs := procs } : State).reply cfg o = s.reply cfg o := by cases o <;> rfl
  cases answer_cases h with
  | done hdone => rw [answer, hreply, hdone, effect_procs]; rfl
  | failed hfailed => rw [answer, hfailed]; rfl
  | lost hlost => rw [answer, hlost, effect_procs]; rfl
  | time => rfl
  | events => rfl
  | result => rfl

end State

structure Agreed (agree : Job → Prop) (s : State) : Prop where
  main : ∀ message ∈ s.main, message.Agrees agree
  retry : ∀ entry ∈ s.retry, agree entry.2
  unacked : ∀ entry ∈ s.unacked, entry.2.Agrees agree

namespace Agreed

variable {agree : Job → Prop} {cfg : Config} {s u : State} {pid : Nat} {o : Op}

theorem settle (h : Agreed agree s) (pid : Nat) : Agreed agree (s.settle pid) :=
  ⟨h.main, h.retry, fun entry hmem => h.unacked entry (List.mem_filter.mp hmem).1⟩

theorem requeue (h : Agreed agree s) (pid : Nat) : Agreed agree (s.requeue pid) := by
  refine ⟨fun message hmem => ?_, h.retry, (h.settle pid).unacked⟩
  rcases List.mem_append.mp hmem with hmem | hmem
  · exact h.main message hmem
  · obtain ⟨entry, hentry, rfl⟩ := List.mem_map.mp hmem
    exact h.unacked entry (List.mem_filter.mp hentry).1

theorem push {message : Message} (h : Agreed agree s) (hmessage : message.Agrees agree) :
    Agreed agree { s with main := s.main ++ [message] } := by
  refine ⟨fun m hmem => ?_, h.retry, h.unacked⟩
  rcases List.mem_append.mp hmem with hmem | hmem
  · exact h.main m hmem
  · rwa [List.mem_singleton.mp hmem]

theorem agrees_job {job : Job} (h : agree job) : (Message.job job).Agrees agree := by
  rintro _ ⟨⟩
  exact h

theorem effect (h : Agreed agree s) (hsends : ∀ job, o.job? = some job → agree job.encoded) :
    Agreed agree (s.effect cfg pid o) := by
  cases o with
  | publish job => exact h.push (agrees_job (hsends job rfl))
  | retry job level =>
    simp only [State.effect]
    split
    · exact h
    · refine ⟨h.main, fun entry hmem => ?_, h.unacked⟩
      rcases List.mem_append.mp hmem with hmem | hmem
      · exact h.retry entry hmem
      · rw [List.mem_singleton.mp hmem]
        exact hsends job rfl
  | ack => exact h.settle pid
  | nack requeue =>
    cases requeue with
    | true => exact h.requeue pid
    | false => exact h.settle pid
  | _ => exact ⟨h.main, h.retry, h.unacked⟩

theorem answer {reaction : Reaction} {reply : o.Reply} (h : Agreed agree s)
    (hsends : ∀ job, o.job? = some job → agree job.encoded)
    (hanswer : s.answer cfg pid o reaction = some (reply, u)) : Agreed agree u := by
  rcases (State.answer_cases hanswer).state with rfl | rfl
  · exact h
  · exact h.effect hsends

end Agreed

structure Coupled (C : Coupling Op Op Op.Reply Op.Reply) (agree : Job → Prop) (cfg cfg' : Config) : Prop where
  publish : ∀ id payload key, agree (Service.newJob id payload) →
    Related C Outcome.Same (cfg.publish id payload key) (cfg'.publish id payload key)
  process : ∀ message, message.Agrees agree →
    Related C Outcome.Same (cfg.process message) (cfg'.process message)
  sends : ∀ o o' job, C.same o o' → o.job? = some job → agree job.encoded
  answer : ∀ (s u : State) pid o o' reaction reply, C.same o o' →
    s.answer cfg pid o reaction = some (reply, u) → o.Dependable reply →
    ∃ reaction' reply', s.answer cfg' pid o' reaction' = some (reply', u) ∧ o'.Dependable reply' ∧
      C.replies o o' reply reply' ∧ ∀ p : Progress, p.next o' reply' = p.next o reply
  record : ∀ o o', C.same o o' → ∀ (s : State) role p p', s.record role o' p p' = s.record role o p p'

structure Proc.Twin (C : Coupling Op Op Op.Reply Op.Reply) (proc proc' : Proc) : Prop where
  role : proc'.role = proc.role
  progress : proc'.progress = proc.progress
  rest : Related C Outcome.Same proc.rest proc'.rest

theorem Proc.Twin.of_rest {C : Coupling Op Op Op.Reply Op.Reply} {rest rest' : Task Outcome} (role : Role)
    (p : Progress) (h : Related C Outcome.Same rest rest') :
    Option.Rel (Proc.Twin C) (some { role := role, rest := rest, progress := p })
      (some { role := role, rest := rest', progress := p }) :=
  .some ⟨rfl, rfl, h⟩

structure Twin (C : Coupling Op Op Op.Reply Op.Reply) (s s' : State) : Prop where
  data : s' = { s with procs := s'.procs }
  procs : ∀ pid, Option.Rel (Proc.Twin C) (s.procs pid) (s'.procs pid)

namespace Twin

variable {C : Coupling Op Op Op.Reply Op.Reply} {agree : Job → Prop} {cfg cfg' : Config} {s s' t u : State}
  {pid : Nat}

theorem update_procs {procs procs' : Nat → Option Proc} {proc proc' : Option Proc}
    (h : ∀ pid, Option.Rel (Proc.Twin C) (procs pid) (procs' pid)) (hproc : Option.Rel (Proc.Twin C) proc proc')
    (pid q : Nat) : Option.Rel (Proc.Twin C) (update procs pid proc q) (update procs' pid proc' q) := by
  by_cases hq : q = pid
  · subst hq
    rwa [update_self, update_self]
  · rw [update_of_ne hq, update_of_ne hq]
    exact h q

theorem spawn (h : Twin C s s') (role : Role) {program program' : Task Outcome}
    (hprogram : Related C Outcome.Same program program') :
    Twin C (s.spawn role program) (s'.spawn role program') where
  data := by
    rw [h.data]
    rfl
  procs := by
    have hnext : s'.next = s.next := by rw [h.data]
    simp only [State.spawn, hnext]
    exact update_procs h.procs (Proc.Twin.of_rest role {} hprogram) s.next

theorem proc_op (h : Twin C s s') {role : Role} {o : Op} {k : o.Reply → Task Outcome} {p : Progress}
    (hproc : s.procs pid = some { role := role, rest := .op o k, progress := p }) :
    ∃ o' k', s'.procs pid = some { role := role, rest := .op o' k', progress := p } ∧ C.same o o' ∧
      ∀ reply reply', C.replies o o' reply reply' → Related C Outcome.Same (k reply) (k' reply') := by
  have hrel := h.procs pid
  rw [hproc] at hrel
  generalize hproc' : s'.procs pid = proc' at hrel
  cases hrel with
  | @some _ proc' htwin =>
    obtain ⟨role', rest', p'⟩ := proc'
    obtain ⟨rfl, rfl, hrest⟩ := htwin
    cases hrest with
    | op hsame hk => exact ⟨_, _, rfl, hsame, hk⟩

theorem resume (h : Twin C s s') {role : Role} {o o' : Op} {p p' : Progress} {rest rest' : Task Outcome}
    (hrecord : s.record role o' p p' = s.record role o p p') (hrest : Related C Outcome.Same rest rest') :
    Twin C (s.resume pid role o p p' rest) (s'.resume pid role o' p p' rest') where
  data := by
    have hmirror : s'.record role o' p p' = { s.record role o' p p' with procs := s'.procs } := by
      rw [h.data]
      rfl
    simp only [State.resume, hmirror, hrecord]
  procs := update_procs h.procs (Proc.Twin.of_rest role p' hrest) pid

theorem exec (hcoupled : Coupled C agree cfg cfg') (h : Twin C s s') (hagreed : Agreed agree s)
    {reaction : Reaction} (hdep : s.dependable cfg agree (.exec pid reaction))
    (hstep : step cfg s (.exec pid reaction) = some t) :
    ∃ reaction' t', s'.dependable cfg' agree (.exec pid reaction') ∧
      step cfg' s' (.exec pid reaction') = some t' ∧ Twin C t t' ∧ Agreed agree t := by
  simp only [Jobs.step] at hstep
  split at hstep
  swap
  · cases hstep
  rename_i role o k p hproc
  obtain ⟨⟨reply, u⟩, hanswer, rfl⟩ := Option.map_eq_some_iff.mp hstep
  obtain ⟨o', k', hproc', hsame, hk⟩ := h.proc_op hproc
  obtain ⟨reaction', reply', hanswer', hdependable, hreplies, hnext⟩ :=
    hcoupled.answer s u pid o o' reaction reply hsame hanswer
      (hdep o reply u (nextOp_of_procs hproc) hanswer)
  have hmirror := State.answer_procs s'.procs hanswer'
  rw [← h.data] at hmirror
  have htwin : Twin C u { u with procs := s'.procs } := by
    refine ⟨rfl, ?_⟩
    rw [(State.answer_cases hanswer).sameHistory.procs]
    exact h.procs
  refine ⟨reaction', _, ?_, ?_, htwin.resume (hcoupled.record o o' hsame u role p _) (hk reply reply' hreplies), ?_⟩
  · intro o₁ reply₁ t₁ hop hanswer₁
    rw [nextOp_of_procs hproc'] at hop
    cases hop
    rw [hmirror] at hanswer₁
    cases hanswer₁
    exact hdependable
  · simp only [Jobs.step, hproc', hmirror, Option.map_some, hnext]
  · have hu := hagreed.answer (fun job => hcoupled.sends o o' job hsame) hanswer
    exact ⟨hu.main, hu.retry, hu.unacked⟩

theorem step (hcoupled : Coupled C agree cfg cfg') (h : Twin C s s') (hagreed : Agreed agree s) {a : Action}
    (hdep : s.dependable cfg agree a) (hstep : step cfg s a = some t) :
    ∃ a' t', s'.dependable cfg' agree a' ∧ Jobs.step cfg' s' a' = some t' ∧ Twin C t t' ∧ Agreed agree t := by
  cases a with
  | exec pid reaction =>
    obtain ⟨reaction', t', hexec⟩ := h.exec hcoupled hagreed hdep hstep
    exact ⟨.exec pid reaction', t', hexec⟩
  | publish id payload key =>
    simp only [Jobs.step] at hstep
    split at hstep
    · cases hstep
    rename_i hfresh
    cases hstep
    have hspawn := h.spawn (.publisher (Service.newJob id payload) key) (hcoupled.publish id payload key hdep)
    obtain ⟨q, rfl⟩ : ∃ q, s' = { s with procs := q } := ⟨_, h.data⟩
    exact ⟨.publish id payload key, _, hdep, if_neg hfresh, ⟨rfl, hspawn.procs⟩, hagreed.main, hagreed.retry,
      hagreed.unacked⟩
  | inject message =>
    cases hstep
    obtain ⟨q, rfl⟩ : ∃ q, s' = { s with procs := q } := ⟨_, h.data⟩
    have hpush := hagreed.push hdep
    exact ⟨.inject message, _, hdep, rfl, ⟨rfl, h.procs⟩, hpush.main, hpush.retry, hpush.unacked⟩
  | deliver index =>
    simp only [Jobs.step] at hstep
    split at hstep
    · cases hstep
    rename_i message hmessage
    cases hstep
    have hmem := List.mem_of_getElem? hmessage
    have hspawn := h.spawn (.worker message) (hcoupled.process message (hagreed.main message hmem))
    obtain ⟨q, rfl⟩ : ∃ q, s' = { s with procs := q } := ⟨_, h.data⟩
    refine ⟨.deliver index, _, trivial, step_deliver hmessage, ⟨rfl, hspawn.procs⟩, ?_, hagreed.retry, ?_⟩
    · exact fun m hm => hagreed.main m (List.mem_of_mem_eraseIdx hm)
    · intro entry hentry
      rcases List.mem_append.mp hentry with hentry | hentry
      · exact hagreed.unacked entry hentry
      · rw [List.mem_singleton.mp hentry]
        exact hagreed.main message hmem
  | crash pid =>
    cases hstep
    obtain ⟨q, rfl⟩ : ∃ q, s' = { s with procs := q } := ⟨_, h.data⟩
    have hrequeue := hagreed.requeue pid
    exact ⟨.crash pid, _, trivial, rfl, ⟨rfl, update_procs h.procs .none pid⟩, hrequeue.main, hrequeue.retry,
      hrequeue.unacked⟩
  | redeliver pid =>
    cases hstep
    obtain ⟨q, rfl⟩ : ∃ q, s' = { s with procs := q } := ⟨_, h.data⟩
    exact ⟨.redeliver pid, _, trivial, rfl, ⟨rfl, h.procs⟩, hagreed.requeue pid⟩
  | expireRetry index =>
    simp only [Jobs.step] at hstep
    split at hstep
    · cases hstep
    rename_i level job hjob
    cases hstep
    obtain ⟨q, rfl⟩ : ∃ q, s' = { s with procs := q } := ⟨_, h.data⟩
    have hpush := hagreed.push (Agreed.agrees_job (hagreed.retry _ (List.mem_of_getElem? hjob)))
    refine ⟨.expireRetry index, _, trivial, step_expireRetry hjob, ⟨rfl, h.procs⟩, hpush.main, ?_,
      hpush.unacked⟩
    exact fun entry hentry => hagreed.retry entry (List.mem_of_mem_eraseIdx hentry)
  | expireLock conversation =>
    cases hstep
    obtain ⟨q, rfl⟩ : ∃ q, s' = { s with procs := q } := ⟨_, h.data⟩
    exact ⟨.expireLock conversation, _, trivial, rfl, ⟨rfl, h.procs⟩, hagreed.main, hagreed.retry,
      hagreed.unacked⟩

end Twin

section

variable {go : Service} {py : Python.JobService} {queues : Nat} {o o' : Op}

theorem Agree.encoded {job : Job} (h : Agree go py job) : Agree go py job.encoded := by
  obtain ⟨hid, hsome, hvalidate⟩ := h
  obtain ⟨payload, hpayload⟩ := Option.isSome_iff_exists.mp hsome
  rw [hpayload] at hvalidate
  refine ⟨hid, rfl, ?_⟩
  simpa only [Job.encoded, hpayload, Option.getD_some] using hvalidate

theorem Op.Mirrors.sends {job : Job} (h : Op.Mirrors (Agree go py) o o') :
    (o.job? = some job → Agree go py job.encoded) ∧ (o'.job? = some job → Agree go py job.encoded) := by
  cases h with
  | agent call => exact ⟨nofun, nofun⟩
  | shared _ hjob => exact ⟨fun h => (hjob job h).encoded, fun h => (hjob job h).encoded⟩

theorem Op.Mirrors.record {agree : Job → Prop} (h : Op.Mirrors agree o o') (s : State) (role : Role)
    (p p' : Progress) : s.record role o' p p' = s.record role o p p' := by
  cases h with
  | agent call => rfl
  | shared _ _ => rfl

end

/-- The two deployments have the same store, queues and history; their processings are
about to issue the same operations, and their calls of `Publish` have returned the same. -/
structure State.Mirrors (s s' : State) : Prop where
  data : s' = { s with procs := s'.procs }
  nextOp : ∀ pid, Option.Rel (Op.Mirrors fun _ => True) (s.nextOp pid) (s'.nextOp pid)
  returned : ∀ pid, Option.Rel (SameResult id) (s.returned pid) (s'.returned pid)

namespace Twin

variable {C : Coupling Op Op Op.Reply Op.Reply} {agree : Job → Prop} {s s' : State}

theorem start : Twin C {} {} := ⟨rfl, fun _ => .none⟩

theorem flip (h : Twin C s s') : Twin C.flip s' s where
  data := by
    rw [h.data]
  procs pid := by
    have hrel := h.procs pid
    generalize s.procs pid = proc, s'.procs pid = proc' at hrel
    cases hrel with
    | none => exact .none
    | some hproc => exact .some ⟨hproc.role.symm, hproc.progress.symm, hproc.rest.flip fun _ _ => Outcome.Same.symm⟩

end Twin

namespace Sample

def opened : State :=
  { ({} : State).spawn (.publisher (Service.newJob "job" (some payload)) "") (config.publish "job" (some payload) "")
    with
    issued := update (fun _ => none) "job" (some 0)
    keys := update (fun _ => "") "job" "" }

def served (s : State) : Action → Bool
  | .exec pid .done => (s.nextOp pid).all fun o => !o.onKey
  | .exec _ (.time _) => true
  | .exec _ (.events _) => true
  | .deliver _ => true
  | _ => false

end Sample

end AgentsAtScale.Jobs
