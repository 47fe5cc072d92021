import Mathlib.Logic.Function.Basic
import AgentsAtScale.Program.Transition
import AgentsAtScale.Program.Lease
import AgentsAtScale.Jobs.Discipline

/-! Any number of workers and publishers on one store and one broker.  Every
operation of a processing is one step; deliveries, crashes, redeliveries and
expiries come in between. -/

namespace AgentsAtScale.Jobs

open Program Function

/-- A conversation lock: the job id stored in the key, and the processing that
stored it. -/
abbrev Lock := Lease.Lock String Nat

structure Proc where
  role : Role
  rest : Task Outcome
  progress : Progress := {}

/-- The store, the broker and the running programs.  From `issued` on it is
history: the `Publish` call that drew an id and its idempotency key, the ids
that others have put on the queue, and what has become of the jobs. -/
structure State where
  status : String → Option Status := fun _ => none
  metadata : String → Option WaitingMetadata := fun _ => none
  timing : String → TimingField → Option Int := fun _ _ => none
  idempotency : String → Option String := fun _ => none
  locks : String → Option Lock := fun _ => none
  main : List Message := []
  retry : List (Nat × Job) := []
  dead : List Job := []
  unacked : List (Nat × Message) := []
  procs : Nat → Option Proc := fun _ => none
  next : Nat := 0
  issued : String → Option Nat := fun _ => none
  keys : String → String := fun _ => ""
  foreign : String → Bool := fun _ => false
  accepted : String → Bool := fun _ => false
  agentRuns : String → Nat := fun _ => 0
  failures : String → List String := fun _ => []

/-- What becomes of an operation.  It takes effect, it fails without effect, or
it takes effect and its reply gets lost. -/
inductive Reaction
  | done
  | failed (cause : String)
  | lost (cause : String)
  | time (ms : Int)
  | events (events : List AgentEvent)
  | result (result : Except AgentError GraphResult)

def Op.error : (o : Op) → (cause : String) → Option o.Reply
  | .setJobStatus _ _, cause => some (Except.error ("set job status: " ++ cause))
  | .getJobStatus _, cause => some (Except.error ("get job status: " ++ cause))
  | .setJobMetadata _ _, cause => some (Except.error ("set job metadata: " ++ cause))
  | .markJobTiming _ _ _, cause => some (Except.error ("set job timing: " ++ cause))
  | .setJobTiming _ _ _, cause => some (Except.error ("set job timing: " ++ cause))
  | .setIdempotencyKeyNX _ _, cause => some (Except.error ("claim idempotency key: " ++ cause))
  | .getIdempotencyKey _, cause => some (Except.error ("get idempotency key: " ++ cause))
  | .releaseIdempotencyKey _, cause => some (Except.error ("release idempotency key: " ++ cause))
  | .acquireConversationLock _ _, cause =>
    some (Except.error ("acquire conversation lock: " ++ cause))
  | .releaseConversationLock _ _, cause =>
    some (Except.error ("release conversation lock: " ++ cause))
  | .publish _, cause => some (Except.error ("publish job: " ++ cause))
  | .retry _ _, cause => some (Except.error ("publish job: " ++ cause))
  | .deadLetter _, cause => some (Except.error ("publish job: " ++ cause))
  | .ack, cause => some (Except.error cause)
  | .nack _, cause => some (Except.error cause)
  | .agent _, _ => none
  | .invoke _, _ => none
  | .now, _ => none

/-- The envelope as its reader decodes it: a nil payload is encoded as null. -/
def Job.encoded (job : Job) : Job := { job with payload := some (job.payload.getD .null) }

def retryLevel (queues : Nat) (level : Int) : Nat := min (max level 1).toNat queues

def retryQueue (queue : String) (level : Nat) : String := queue ++ ".retry." ++ toString level

structure Config where
  publish (id : String) (payload : Option Json) (idempotencyKey : String) : Task Outcome
  process (message : Message) : Task Outcome
  retryQueues : Nat

namespace State

variable (cfg : Config)

def reply (s : State) : (o : Op) → Option o.Reply
  | .setJobStatus _ _ => some (Except.ok ())
  | .getJobStatus id => some (Except.ok (s.status id))
  | .setJobMetadata _ _ => some (Except.ok ())
  | .markJobTiming _ _ _ => some (Except.ok ())
  | .setJobTiming _ _ _ => some (Except.ok ())
  | .setIdempotencyKeyNX key _ => some (Except.ok (s.idempotency key).isNone)
  | .getIdempotencyKey key => some (Except.ok (s.idempotency key))
  | .releaseIdempotencyKey _ => some (Except.ok ())
  | .acquireConversationLock conversation _ => some (Except.ok (s.locks conversation).isNone)
  | .releaseConversationLock _ _ => some (Except.ok ())
  | .publish _ => some (Except.ok ())
  | .retry _ _ =>
    if cfg.retryQueues = 0 then some (Except.error "no retry queues declared")
    else some (Except.ok ())
  | .deadLetter _ => some (Except.ok ())
  | .ack => some (Except.ok ())
  | .nack _ => some (Except.ok ())
  | .agent _ => none
  | .invoke _ => none
  | .now => none

def unackedOf (s : State) (pid : Nat) : List Message :=
  (s.unacked.filter (·.1 = pid)).map (·.2)

def settle (s : State) (pid : Nat) : State :=
  { s with unacked := s.unacked.filter (·.1 ≠ pid) }

def requeue (s : State) (pid : Nat) : State :=
  { s.settle pid with main := s.main ++ s.unackedOf pid }

def setTiming (s : State) (id : String) (field : TimingField) (value : Option Int) : State :=
  { s with timing := update s.timing id (update (s.timing id) field value) }

def setLock (s : State) (conversation : String) (lock : Option Lock) : State :=
  { s with locks := update s.locks conversation lock }

def effect (s : State) (pid : Nat) : Op → State
  | .setJobStatus id status => { s with status := update s.status id (some status) }
  | .setJobMetadata id metadata => { s with metadata := update s.metadata id (some metadata) }
  | .markJobTiming id field ms => s.setTiming id field ((s.timing id field).or (some ms))
  | .setJobTiming id field value => s.setTiming id field (some value)
  | .setIdempotencyKeyNX key id =>
    { s with idempotency := update s.idempotency key ((s.idempotency key).or (some id)) }
  | .releaseIdempotencyKey key => { s with idempotency := update s.idempotency key none }
  | .acquireConversationLock conversation token =>
    s.setLock conversation ((s.locks conversation).or (some { token := token, owner := pid }))
  | .releaseConversationLock conversation token =>
    s.setLock conversation ((s.locks conversation).filter (·.token ≠ token))
  | .publish job => { s with main := s.main ++ [.job job.encoded] }
  | .retry job level =>
    if cfg.retryQueues = 0 then s
    else { s with retry := s.retry ++ [(retryLevel cfg.retryQueues level, job.encoded)] }
  | .deadLetter job => { s with dead := s.dead ++ [job.encoded] }
  | .ack => s.settle pid
  | .nack true => s.requeue pid
  | .nack false => s.settle pid
  | .getJobStatus _ => s
  | .getIdempotencyKey _ => s
  | .agent _ => s
  | .invoke _ => s
  | .now => s

def answer (s : State) (pid : Nat) (o : Op) : Reaction → Option (o.Reply × State)
  | .done => (s.reply cfg o).map (·, s.effect cfg pid o)
  | .failed cause => (o.error cause).map (·, s)
  | .lost cause => (o.error cause).map (·, s.effect cfg pid o)
  | .time ms =>
    match o with
    | .now => some (ms, s)
    | _ => none
  | .events events =>
    match o with
    | .agent _ => some (events, s)
    | _ => none
  | .result result =>
    match o with
    | .invoke _ => some (result, s)
    | _ => none

end State

def Op.agentConversation : Op → Option String
  | .agent call => some call.conversation
  | .invoke call => some call.conversation
  | _ => none

def Message.jobId? : Message → Option String
  | .job j => some j.id
  | .invalid _ => none

def Role.jobId : Role → String
  | .worker (.job job) => job.id
  | .worker (.invalid _) => ""
  | .publisher job _ => job.id

namespace State

def record (s : State) (role : Role) (o : Op) (p p' : Progress) : State :=
  { s with
    accepted := match o with
      | .publish job => update s.accepted job.id (s.accepted job.id || p'.sent)
      | _ => s.accepted
    agentRuns := match o with
      | .agent _ | .invoke _ => update s.agentRuns role.jobId (s.agentRuns role.jobId + 1)
      | _ => s.agentRuns
    failures := match role, p.failure, p'.failure with
      | .worker _, none, some err =>
        update s.failures role.jobId (s.failures role.jobId ++ [err])
      | _, _, _ => s.failures }

def resume (s : State) (pid : Nat) (role : Role) (o : Op) (p p' : Progress) (rest : Task Outcome) :
    State :=
  { s.record role o p p' with
    procs := update s.procs pid (some { role := role, rest := rest, progress := p' }) }

def spawn (s : State) (role : Role) (program : Task Outcome) : State :=
  { s with
    procs := update s.procs s.next (some { role := role, rest := program })
    next := s.next + 1 }

def nextOp (s : State) (pid : Nat) : Option Op :=
  match s.procs pid with
  | some { rest := .op o _, .. } => some o
  | _ => none

def jobId (s : State) (pid : Nat) : Option String := (s.procs pid).map (·.role.jobId)

def running (s : State) (pid : Nat) : Bool := (s.nextOp pid).isSome

def returned (s : State) (pid : Nat) : Option PublishResult :=
  match s.procs pid with
  | some { role := .publisher _ _, rest := .ret (.returned result), .. } => some result
  | _ => none

def agentConversation (s : State) (pid : Nat) : Option String :=
  (s.nextOp pid).bind Op.agentConversation

end State

/-- `inject` is a message of someone else, and `redeliver` takes a delivery back
while its processing goes on. -/
inductive Action
  | publish (id : String) (payload : Option Json) (idempotencyKey : String)
  | inject (message : Message)
  | deliver (index : Nat)
  | exec (pid : Nat) (reaction : Reaction)
  | crash (pid : Nat)
  | redeliver (pid : Nat)
  | expireRetry (index : Nat)
  | expireLock (conversation : String)

/-- The ids drawn by `Publish` are fresh. -/
def step (cfg : Config) (s : State) : Action → Option State
  | .publish id payload key =>
    if isBlank id || (s.issued id).isSome || s.foreign id then none
    else some { s.spawn (.publisher (Service.newJob id payload) key) (cfg.publish id payload key) with
      issued := update s.issued id (some s.next), keys := update s.keys id key }
  | .inject message =>
    let id := (Role.worker message).jobId
    some { s with main := s.main ++ [message], foreign := update s.foreign id true }
  | .deliver index =>
    match s.main[index]? with
    | none => none
    | some message =>
      some { s.spawn (.worker message) (cfg.process message) with
        main := s.main.eraseIdx index
        unacked := s.unacked ++ [(s.next, message)] }
  | .exec pid reaction =>
    match s.procs pid with
    | some { role := role, rest := .op o k, progress := p } =>
      (s.answer cfg pid o reaction).map fun (reply, t) =>
        t.resume pid role o p (p.next o reply) (k reply)
    | _ => none
  | .crash pid => some { s.requeue pid with procs := update s.procs pid none }
  | .redeliver pid => some (s.requeue pid)
  | .expireRetry index =>
    match s.retry[index]? with
    | none => none
    | some (_, job) => some { s with main := s.main ++ [.job job], retry := s.retry.eraseIdx index }
  | .expireLock conversation => some { s with locks := update s.locks conversation none }

end AgentsAtScale.Jobs
