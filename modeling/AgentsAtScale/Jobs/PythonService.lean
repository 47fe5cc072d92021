import AgentsAtScale.Jobs.Service

/-! The Python `JobService`: its validation and `consume` with everything it
calls.  A raising operation ends the surrounding block, unless it is caught. -/

namespace AgentsAtScale.Jobs.Python

open Program

def isSpace (c : Char) : Bool := Jobs.isSpace c || (0x1c ≤ c.toNat && c.toNat ≤ 0x1f)

def isBlank (s : String) : Bool := s.toList.all isSpace

def get (members : List (String × Json)) (key : String) : Option Json :=
  (members.reverse.find? (·.1 = key)).map (·.2)

/-- The truth value of a decoded JSON value.  A float is zero up to half of the least
positive one. -/
def truthy : Json → Bool
  | .null => false
  | .bool b => b
  | .number text => (compareNumeral text 1 (2 ^ 1075)).isGT
  | .string s => s ≠ ""
  | .array items => !items.isEmpty
  | .object members => !members.isEmpty

def requiredString (members : List (String × Json)) (field : String) : Except String String :=
  match get members field with
  | some (.string value) =>
    if isBlank value then .error (field ++ " is required") else .ok value
  | _ => .error (field ++ " is required")

def validateResume : Json → Except String Unit
  | .object members =>
    match get members "confirmed" with
    | some (.bool confirmed) =>
      if confirmed && !((get members "selection").any truthy) then
        .error "resume.selection is required when confirmed"
      else .ok ()
    | _ => .error "resume.confirmed is required"
  | _ => .error "resume must be an object"

/-- The `resume` of the result is the member of that name, null or not. -/
def validateRequest : Json → Except String AgentRequest
  | .object members => do
    let userId ← requiredString members "user_id"
    let sessionId ← requiredString members "session_id"
    let message := match get members "message" with
      | some (.string message) => message
      | _ => ""
    let resume := get members "resume"
    if (!isBlank message) = (!isAbsent resume) then
      throw "exactly one of message or resume is required"
    if let some resume := resume then
      if !resume.isNull then validateResume resume
    return { userId := userId, sessionId := sessionId, message := message, resume := resume }
  | _ => .error "payload must be an object"

structure WorkerOptions where
  maxAttempts : Int := 3

structure JobService where
  options : WorkerOptions := {}
  runner : Bool := true

namespace JobService

def delay (job : Job) (level : Int) : Task (Except String Unit) := do
  match ← Broker.retry job level with
  | .error _ => Delivery.nack true
  | .ok _ => Delivery.ack

def storeFailed (job : Job) : Task Unit := do
  match ← Store.setJobStatus job.id .failed with
  | .error _ => return ()
  | .ok _ =>
    let ms ← now
    let _ ← Store.setJobTiming job.id .finishedMs ms

def deadLetter (job : Job) (err : String) : Task (Except String Unit) := do
  storeFailed job
  match ← Broker.deadLetter { job with error := err } with
  | .error _ => Delivery.nack false
  | .ok _ => Delivery.ack

def retry (s : JobService) (job : Job) (err : String) : Task (Except String Unit) := do
  let job := { job with attempt := job.attempt + 1 }
  if job.attempt ≥ s.options.maxAttempts then
    deadLetter job err
  else
    let _ ← Store.setJobStatus job.id .retrying
    delay job job.attempt

def finishWith (job : Job) (status : Status) : Task (Except String Unit) := do
  let ms ← now
  match ← Store.setJobTiming job.id .finishedMs ms with
  | .error err => return .error err
  | .ok _ =>
    match ← Store.setJobStatus job.id status with
    | .error err => return .error err
    | .ok _ => Delivery.ack

def interruptValue : Json → List (String × Json)
  | .object members => members
  | _ => []

def finish (job : Job) (request : AgentRequest) (result : GraphResult) :
    Task (Except String Unit) := do
  match result.interrupts with
  | some [] => return .error "list index out of range"
  | some (interrupt :: _) =>
    let value := interruptValue interrupt
    let metadata : WaitingMetadata :=
      { userId := request.userId
        sessionId := request.sessionId
        message := (get value "message").getD (.string "")
        evaluation := (get value "evaluation").getD .null }
    match ← Store.setJobMetadata job.id metadata with
    | .error err => return .error err
    | .ok _ => finishWith job .waitingForConfirmation
  | none =>
    match result.final with
    | some final =>
      if final.status = "failed" then deadLetter job final.message else finishWith job .completed
    | none => finishWith job .completed

def markStarted (job : Job) : Task (Except String Unit) := do
  match ← Store.setJobStatus job.id .processing with
  | .error err => return .error err
  | .ok _ =>
    let ms ← now
    match ← Store.markJobTiming job.id .startedMs ms with
    | .error err => return .error err
    | .ok _ => Store.setJobTiming job.id .attempts (job.attempt + 1)

def runAgent (call : AgentCall) : Task (Except AgentError GraphResult) := Prog.call (Op.invoke call)

def settleRun (s : JobService) (job : Job) (request : AgentRequest) :
    Except AgentError GraphResult → Task (Except String Unit)
  | .error err => if err.noPendingInput then deadLetter job err.message else s.retry job err.message
  | .ok result => finish job request result

def processLocked (s : JobService) (job : Job) (request : AgentRequest) :
    Task (Except String Unit) := do
  match ← markStarted job with
  | .error err => return .error err
  | .ok _ =>
    let outcome ← runAgent request.call
    s.settleRun job request outcome

def processRequest (s : JobService) (job : Job) (request : AgentRequest) :
    Task (Except String Unit) := do
  match ← Store.acquireConversationLock request.conversation job.id with
  | .error err => return .error err
  | .ok false => delay job 1
  | .ok true =>
    let result ← s.processLocked job request
    let _ ← Store.releaseConversationLock request.conversation job.id
    return result

def process (s : JobService) (job : Job) (payload : Json) : Task (Except String Unit) := do
  match ← Store.getJobStatus job.id with
  | .error err => return .error err
  | .ok status =>
    if isTerminal status then
      Delivery.ack
    else
      match validateRequest payload with
      | .error err => deadLetter job err
      | .ok request =>
        if !s.runner then deadLetter job "agent runner is required"
        else s.processRequest job request

/-- An envelope without payload or with an empty id is rejected. -/
def consume (s : JobService) : Message → Task Unit
  | .invalid _ => do
    let _ ← Delivery.nack false
  | .job job => do
    match job.payload with
    | none =>
      let _ ← Delivery.nack false
    | some payload =>
      if job.id = "" then
        let _ ← Delivery.nack false
      else
        match ← s.process job payload with
        | .error err =>
          let _ ← s.retry job err
        | .ok _ => return ()

/-- `publish` after the key has been claimed; the result of `except` blocks is the
error raised last. -/
def publishNew (job : Job) : Task (Except String Unit) := do
  match ← Store.setJobStatus job.id .published with
  | .error err => return .error err
  | .ok _ =>
    let ms ← now
    match ← Store.markJobTiming job.id .publishedMs ms with
    | .error err => return .error err
    | .ok _ =>
      match ← Broker.publish job with
      | .ok _ => return .ok ()
      | .error err =>
        match ← Store.setJobStatus job.id .failed with
        | .error err => return .error err
        | .ok _ => return .error err

def claimIdempotencyKey (key id : String) : Task (Except String (Option String × Bool)) := do
  match ← Store.setIdempotencyKeyNX key id with
  | .error err => return .error err
  | .ok true => return .ok (some id, true)
  | .ok false =>
    match ← Store.getIdempotencyKey key with
    | .error err => return .error err
    | .ok owner => return .ok (owner, false)

def publish (id : String) (payload : Json) (idempotencyKey : String) :
    Task (Except String (Option String × Bool)) := do
  let job : Job := { id := id, payload := some payload }
  if idempotencyKey = "" then
    match ← publishNew job with
    | .error err => return .error err
    | .ok _ => return .ok (some id, false)
  else
    match ← claimIdempotencyKey idempotencyKey id with
    | .error err => return .error err
    | .ok (owner, false) => return .ok (owner, true)
    | .ok (_, true) =>
      match ← publishNew job with
      | .ok _ => return .ok (some id, false)
      | .error err =>
        match ← Store.releaseIdempotencyKey idempotencyKey with
        | .error err => return .error err
        | .ok _ => return .error err

end JobService

end AgentsAtScale.Jobs.Python
