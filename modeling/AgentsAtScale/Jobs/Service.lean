import AgentsAtScale.Program.Basic
import AgentsAtScale.Jobs.Request

/-! The job service: `Publish` and `process` with everything they call, as
programs over the store, the broker and the agent runner. -/

namespace AgentsAtScale.Jobs

open Program

inductive Status
  | published | processing | waitingForConfirmation | completed | failed | retrying
  deriving DecidableEq

def isTerminal (status : Option Status) : Bool :=
  status = some .completed || status = some .waitingForConfirmation || status = some .failed

inductive TimingField
  | publishedMs | startedMs | finishedMs | attempts
  deriving DecidableEq

structure Job where
  id : String
  payload : Option Json
  attempt : Int := 0
  error : String := ""

/-- A message body, by what `json.Unmarshal` makes of it. -/
inductive Message
  | job (job : Job)
  | invalid (err : String)

structure RequestInput where
  interruptID : String
  message : String
  payload : Json

structure WaitingMetadata where
  userId : String
  sessionId : String
  message : Json
  evaluation : Json

/-- An error of the agent run, with what `errors.Is` finds in it. -/
structure AgentError where
  message : String
  nodeInterrupted : Bool := false
  noPendingInput : Bool := false

structure AgentEvent where
  requestedInput : Option RequestInput := none
  err : Option AgentError := none

structure FinalResult where
  status : String
  message : String

structure GraphResult where
  interrupts : Option (List Json) := none
  final : Option FinalResult := none

inductive AgentCall
  | run (userId sessionId message : String)
  | resume (userId sessionId : String) (payload : Json)

def AgentRequest.call (request : AgentRequest) : AgentCall :=
  match request.resume with
  | some payload => .resume request.userId request.sessionId payload
  | none => .run request.userId request.sessionId request.message

inductive Op
  | setJobStatus (id : String) (status : Status)
  | getJobStatus (id : String)
  | setJobMetadata (id : String) (metadata : WaitingMetadata)
  | markJobTiming (id : String) (field : TimingField) (ms : Int)
  | setJobTiming (id : String) (field : TimingField) (value : Int)
  | setIdempotencyKeyNX (key id : String)
  | getIdempotencyKey (key : String)
  | releaseIdempotencyKey (key : String)
  | acquireConversationLock (conversation token : String)
  | releaseConversationLock (conversation token : String)
  | publish (job : Job)
  | retry (job : Job) (level : Int)
  | deadLetter (job : Job)
  | ack
  | nack (requeue : Bool)
  | agent (call : AgentCall)
  | invoke (call : AgentCall)
  | now

def Op.Reply : Op → Type
  | .getJobStatus _ => Except String (Option Status)
  | .setIdempotencyKeyNX _ _ => Except String Bool
  | .getIdempotencyKey _ => Except String (Option String)
  | .acquireConversationLock _ _ => Except String Bool
  | .agent _ => List AgentEvent
  | .invoke _ => Except AgentError GraphResult
  | .now => Int
  | _ => Except String Unit

abbrev Task := Prog Op Op.Reply

namespace Store

def setJobStatus (id : String) (status : Status) : Task (Except String Unit) :=
  Prog.call (Op.setJobStatus id status)

def getJobStatus (id : String) : Task (Except String (Option Status)) :=
  Prog.call (Op.getJobStatus id)

def setJobMetadata (id : String) (metadata : WaitingMetadata) : Task (Except String Unit) :=
  Prog.call (Op.setJobMetadata id metadata)

def markJobTiming (id : String) (field : TimingField) (ms : Int) : Task (Except String Unit) :=
  Prog.call (Op.markJobTiming id field ms)

def setJobTiming (id : String) (field : TimingField) (value : Int) : Task (Except String Unit) :=
  Prog.call (Op.setJobTiming id field value)

def setIdempotencyKeyNX (key id : String) : Task (Except String Bool) :=
  Prog.call (Op.setIdempotencyKeyNX key id)

def getIdempotencyKey (key : String) : Task (Except String (Option String)) :=
  Prog.call (Op.getIdempotencyKey key)

def claimIdempotencyKey (key id : String) : Task (Except String (String × Bool)) := do
  match ← setIdempotencyKeyNX key id with
  | .error err => return .error err
  | .ok true => return .ok (id, true)
  | .ok false =>
    match ← getIdempotencyKey key with
    | .error err => return .error err
    | .ok none => return .error "get idempotency key: redis: nil"
    | .ok (some owner) => return .ok (owner, false)

def releaseIdempotencyKey (key : String) : Task (Except String Unit) :=
  Prog.call (Op.releaseIdempotencyKey key)

def acquireConversationLock (conversation token : String) : Task (Except String Bool) :=
  Prog.call (Op.acquireConversationLock conversation token)

def releaseConversationLock (conversation token : String) : Task (Except String Unit) :=
  Prog.call (Op.releaseConversationLock conversation token)

end Store

namespace Broker

def publish (job : Job) : Task (Except String Unit) := Prog.call (Op.publish job)
def retry (job : Job) (level : Int) : Task (Except String Unit) := Prog.call (Op.retry job level)
def deadLetter (job : Job) : Task (Except String Unit) := Prog.call (Op.deadLetter job)

end Broker

namespace Delivery

def ack : Task (Except String Unit) := Prog.call Op.ack
def nack (requeue : Bool) : Task (Except String Unit) := Prog.call (Op.nack requeue)

end Delivery

def now : Task Int := Prog.call Op.now

def runAgent (call : AgentCall) : Task (List AgentEvent) := Prog.call (Op.agent call)

structure Options where
  maxAttempts : Int

structure Service where
  options : Options
  runner : Bool := true

def Service.new (options : Options) (runner : Bool) : Service where
  options := if options.maxAttempts < 1 then { options with maxAttempts := 1 } else options
  runner := runner

namespace Service

def ack : Task Unit := do
  let _ ← Delivery.ack

def nack (requeue : Bool) : Task Unit := do
  let _ ← Delivery.nack requeue

def reject : Task Unit := nack false

def delay (job : Job) (level : Int) : Task Unit := do
  match ← Broker.retry job level with
  | .error _ => nack true
  | .ok _ => ack

def deadLetter (job : Job) (err : String) : Task Unit := do
  let job := { job with error := err }
  let _ ← Store.setJobStatus job.id .failed
  let ms ← now
  let _ ← Store.setJobTiming job.id .finishedMs ms
  match ← Broker.deadLetter job with
  | .error _ => nack false
  | .ok _ => ack

def retry (s : Service) (job : Job) (err : String) : Task Unit := do
  let job := { job with attempt := job.attempt + 1 }
  if job.attempt ≥ s.options.maxAttempts then
    deadLetter job err
  else
    let _ ← Store.setJobStatus job.id .retrying
    delay job job.attempt

def markStarted (job : Job) : Task (Except String Unit) := do
  match ← Store.setJobStatus job.id .processing with
  | .error err => return .error err
  | .ok _ =>
    let ms ← now
    match ← Store.markJobTiming job.id .startedMs ms with
    | .error err => return .error err
    | .ok _ => Store.setJobTiming job.id .attempts (job.attempt + 1)

def collect (events : List AgentEvent) : Option RequestInput × Option AgentError :=
  events.foldl (fun (requested, runErr) event =>
    (event.requestedInput.or requested,
      match event.err with
      | some err => if err.nodeInterrupted then runErr else some err
      | none => runErr)) (none, none)

def run (request : AgentRequest) : Task (Option RequestInput × Option AgentError) := do
  let events ← runAgent request.call
  return collect events

def finishWith (job : Job) (status : Status) : Task (Except String Unit) := do
  let ms ← now
  match ← Store.setJobTiming job.id .finishedMs ms with
  | .error err => return .error err
  | .ok _ => Store.setJobStatus job.id status

def finish (job : Job) (request : AgentRequest) (requested : Option RequestInput) :
    Task (Except String Unit) := do
  match requested with
  | none => finishWith job .completed
  | some input =>
    let metadata : WaitingMetadata :=
      { userId := request.userId
        sessionId := request.sessionId
        message := .string input.message
        evaluation := input.payload }
    match ← Store.setJobMetadata job.id metadata with
    | .error err => return .error err
    | .ok _ => finishWith job .waitingForConfirmation

def processLocked (s : Service) (job : Job) (request : AgentRequest) : Task Unit := do
  match ← markStarted job with
  | .error err => s.retry job err
  | .ok _ =>
    match ← run request with
    | (_, some err) => if err.noPendingInput then deadLetter job err.message else s.retry job err.message
    | (requested, none) =>
      match ← finish job request requested with
      | .error err => s.retry job err
      | .ok _ => ack

def processRequest (s : Service) (job : Job) (request : AgentRequest) : Task Unit := do
  match ← Store.acquireConversationLock request.conversation job.id with
  | .error err => s.retry job err
  | .ok false => delay job 1
  | .ok true =>
    s.processLocked job request
    let _ ← Store.releaseConversationLock request.conversation job.id

def processUnfinished (s : Service) (job : Job) : Task Unit :=
  match decodeAgentRequest job.payload with
  | .error err => deadLetter job err
  | .ok request =>
    match validateAgentRequest request with
    | .error err => deadLetter job err
    | .ok _ =>
      if !s.runner then deadLetter job "agent runner is required" else s.processRequest job request

def process (s : Service) : Message → Task Unit
  | .invalid _ => reject
  | .job job => do
    if isBlank job.id then
      reject
    else
      match ← Store.getJobStatus job.id with
      | .error err => s.retry job err
      | .ok status => if isTerminal status then ack else s.processUnfinished job

def publishNew (job : Job) : Task (Except String Unit) := do
  match ← Store.setJobStatus job.id .published with
  | .error err => return .error err
  | .ok _ =>
    let ms ← now
    match ← Store.markJobTiming job.id .publishedMs ms with
    | .error err => return .error err
    | .ok _ =>
      match ← Broker.publish job with
      | .error err =>
        let _ ← Store.setJobStatus job.id .failed
        return .error err
      | .ok _ => return .ok ()

/-- The envelope of a new job; an empty payload becomes the empty object. -/
def newJob (id : String) (payload : Option Json) : Job :=
  { id := id, payload := some (payload.getD (.object [])) }

def publish (id : String) (payload : Option Json) (idempotencyKey : String) :
    Task (Except String (String × Bool)) := do
  let job := newJob id payload
  if idempotencyKey = "" then
    match ← publishNew job with
    | .error err => return .error err
    | .ok _ => return .ok (id, false)
  else
    match ← Store.claimIdempotencyKey idempotencyKey id with
    | .error err => return .error err
    | .ok (owner, claimed) =>
      if !claimed then
        return .ok (owner, true)
      else
        match ← publishNew job with
        | .error err =>
          let _ ← Store.releaseIdempotencyKey idempotencyKey
          return .error err
        | .ok _ => return .ok (id, false)

end Service

end AgentsAtScale.Jobs
