import Mathlib.Control.Monad.Basic
import AgentsAtScale.Jobs.Footprint
import AgentsAtScale.Runtime.Pending

namespace AgentsAtScale.Runtime

open Jobs Program

structure World where
  log : Log
  status : Option Status := none
  started : List (String × Json) := []
  retried : Option Job := none
  dead : Option Job := none

/-- What happens to an attempt from outside: the operations that fail, what the
workflow yields once it is started, and what it adds to the log. -/
structure Attempt where
  error : Op → Option String := fun _ => none
  events : List AgentEvent
  stored : Log := []

namespace Attempt

variable (attempt : Attempt)

def reply (o : Op) (w w' : World) : Except String Unit × World :=
  match attempt.error o with
  | some err => (.error err, w)
  | none => (.ok (), w')

/-- `AgentRunner.Resume` and `Run`; the runner stores the user content before any node
runs. -/
def runner (w : World) : AgentCall → List AgentEvent × World
  | .resume _ _ payload =>
    match lookupInterrupt (.ok w.log) with
    | .error err => ([{ err := some err }], w)
    | .ok id => (attempt.events,
      { w with
        log := w.log ++ [some (answerEvent id payload)] ++ attempt.stored
        started := w.started ++ [(id, payload)] })
  | .run _ _ message =>
    (attempt.events, { w with log := w.log ++ [some (messageEvent message)] ++ attempt.stored })

def handle : (o : Op) → World → o.Reply × World
  | .getJobStatus id, w =>
    match attempt.error (.getJobStatus id) with
    | some err => (.error err, w)
    | none => (.ok w.status, w)
  | .acquireConversationLock conversation token, w =>
    match attempt.error (.acquireConversationLock conversation token) with
    | some err => (.error err, w)
    | none => (.ok true, w)
  | .setIdempotencyKeyNX _ _, w => (.ok true, w)
  | .getIdempotencyKey _, w => (.ok none, w)
  | .agent call, w => attempt.runner w call
  | .invoke _, w => (.ok {}, w)
  | .now, w => ((0 : Int), w)
  | .setJobStatus id status, w =>
    attempt.reply (.setJobStatus id status) w { w with status := some status }
  | .retry job level, w => attempt.reply (.retry job level) w { w with retried := some job }
  | .deadLetter job, w => attempt.reply (.deadLetter job) w { w with dead := some job }
  | .setJobMetadata id metadata, w => attempt.reply (.setJobMetadata id metadata) w w
  | .markJobTiming id field ms, w => attempt.reply (.markJobTiming id field ms) w w
  | .setJobTiming id field value, w => attempt.reply (.setJobTiming id field value) w w
  | .releaseIdempotencyKey key, w => attempt.reply (.releaseIdempotencyKey key) w w
  | .releaseConversationLock conversation token, w =>
    attempt.reply (.releaseConversationLock conversation token) w w
  | .publish job, w => attempt.reply (.publish job) w w
  | .ack, w => attempt.reply .ack w w
  | .nack requeue, w => attempt.reply (.nack requeue) w w

def deliver (s : Service) (job : Job) (w : World) : World :=
  ((s.process (.job job)).interpret attempt.handle { w with retried := none, dead := none }).2

end Attempt

namespace Attempt

def Starts (attempt : Attempt) (job : Job) (request : AgentRequest) : Prop :=
  attempt.error (.getJobStatus job.id) = none ∧
  attempt.error (.acquireConversationLock request.conversation job.id) = none ∧
  attempt.error (.setJobStatus job.id .processing) = none ∧
  (∀ ms, attempt.error (.markJobTiming job.id .startedMs ms) = none) ∧
  ∀ n, attempt.error (.setJobTiming job.id .attempts n) = none

structure Fails (attempt : Attempt) (job : Job) (request : AgentRequest) : Prop where
  starts : attempt.Starts job request
  failed : ∃ err, (Service.collect attempt.events).2 = some err ∧ err.noPendingInput = false
  queued : ∀ job level, attempt.error (.retry job level) = none

end Attempt

structure ResumeJob (job : Job) (request : AgentRequest) (answer : Json) : Prop where
  id : Jobs.isBlank job.id = false
  decoded : decodeAgentRequest job.payload = .ok request
  valid : validateAgentRequest request = .ok ()
  resume : request.resume = some answer

section

variable {s : Service} {job : Job} {request : AgentRequest} {answer : Json} {w : World} {a : Attempt}

theorem ResumeJob.call (h : ResumeJob job request answer) :
    request.call = .resume request.userId request.sessionId answer := by
  simp only [AgentRequest.call, h.resume]

def World.answered (w : World) (a : Attempt) (answer : Json) : World :=
  { log := w.log ++ [some (answerEvent (pendingInterrupt w.log) answer)] ++ a.stored
    status := some .processing
    started := w.started ++ [(pendingInterrupt w.log, answer)]
    retried := none
    dead := none }

def settle (s : Service) (job : Job) (request : AgentRequest) :
    Option RequestInput × Option AgentError → Jobs.Task Unit
  | (_, some err) =>
    if err.noPendingInput then Service.deadLetter job err.message else s.retry job err.message
  | (requested, none) => do
    match ← Service.finish job request requested with
    | .error err => s.retry job err
    | .ok _ => Service.ack

theorem interpret_getJobStatus {id : String} (h : a.error (.getJobStatus id) = none) :
    (Store.getJobStatus id).interpret a.handle w = (.ok w.status, w) := by
  change a.handle (.getJobStatus id) w = _
  simp only [Attempt.handle, h]
  rfl

theorem interpret_acquireConversationLock {conversation token : String}
    (h : a.error (.acquireConversationLock conversation token) = none) :
    (Store.acquireConversationLock conversation token).interpret a.handle w = (.ok true, w) := by
  change a.handle (.acquireConversationLock conversation token) w = _
  simp only [Attempt.handle, h]
  rfl

def World.processing (w : World) : World :=
  { w with status := some .processing, retried := none, dead := none }

end

namespace Sample

def service : Service := Service.new { maxAttempts := 3 } true

def request : AgentRequest := { userId := "u", sessionId := "s", resume := some declined }

def job : Job :=
  { id := "job"
    payload := some (.object
      [("user_id", .string "u"), ("session_id", .string "s"), ("resume", declined)]) }

def failing : Attempt :=
  { events := [{ err := some { message := "validate change: connection refused" } }] }

def asking : Attempt := { failing with stored := [some (requestEvent (input "a"))] }

def world (ids : List String) : World :=
  { log := some (messageEvent "rebook ABC123") :: ids.map fun id => some (requestEvent (input id)) }

theorem decode_job : decodeAgentRequest job.payload = .ok request := by
  simp [decodeAgentRequest, decodeMembers, job, request, AgentRequest.set, stringField]

theorem resumeJob : ResumeJob job request declined :=
  ⟨by decide +kernel, decode_job, by decide +kernel, rfl⟩

end Sample

end AgentsAtScale.Runtime
