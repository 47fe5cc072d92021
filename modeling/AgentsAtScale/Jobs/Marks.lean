import AgentsAtScale.Jobs.PythonDiscipline

namespace AgentsAtScale.Jobs

open Program

/-- What a processing has written, as far as it was told. -/
structure Marks where
  timing : List TimingField := []
  noted : Bool := false

namespace Marks

def mark (m : Marks) (field : TimingField) : Except String Unit → Marks
  | .ok _ => { m with timing := field :: m.timing }
  | .error _ => m

def next (m : Marks) : (o : Op) → o.Reply → Marks
  | .markJobTiming _ field _, reply => m.mark field reply
  | .setJobTiming _ field _, reply => m.mark field reply
  | .setJobMetadata _ _, reply =>
    match (reply : Except String Unit) with
    | .ok _ => { m with noted := true }
    | .error _ => m
  | _, _ => m

structure Started (m : Marks) : Prop where
  started : .startedMs ∈ m.timing
  attempts : .attempts ∈ m.timing

structure Finished (m : Marks) : Prop extends m.Started where
  finished : .finishedMs ∈ m.timing

theorem Started.finish {m : Marks} (h : m.Started) :
    Finished { m with timing := .finishedMs :: m.timing } :=
  ⟨⟨.tail _ h.started, .tail _ h.attempts⟩, .head _⟩

end Marks

structure Job.Succeeds (job' job : Job) : Prop where
  id : job'.id = job.id
  payload : job'.payload = job.payload
  attempt : job.attempt ≤ job'.attempt

theorem Job.Succeeds.refl (job : Job) : job.Succeeds job := ⟨rfl, rfl, Int.le_refl _⟩

structure WaitingMetadata.Of (metadata : WaitingMetadata) (request : AgentRequest) : Prop where
  userId : metadata.userId = request.userId
  sessionId : metadata.sessionId = request.sessionId

/-- The writes of the worker on a job.  A job is finished when its start and its end are
written, and waits when its metadata are. -/
def Job.Writes (decoded : Except String AgentRequest) (job : Job) (m : Marks) : Op → Prop
  | .setJobStatus id status => id = job.id ∧ (status = .completed → m.Finished) ∧
    (status = .waitingForConfirmation → m.Finished ∧ m.noted = true)
  | .setJobMetadata id metadata => id = job.id ∧ ∃ request, decoded = .ok request ∧ metadata.Of request
  | .markJobTiming id field _ => id = job.id ∧ field = .startedMs
  | .setJobTiming id field value => id = job.id ∧
    (field = .finishedMs ∨ field = .attempts ∧ value = job.attempt + 1)
  | .retry job' _ => job'.Succeeds job
  | .deadLetter job' => job'.Succeeds job
  | .publish _ => False
  | _ => True

def Job.PublishWrites (job : Job) (m : Marks) : Op → Prop
  | .setJobStatus id status => id = job.id ∧ (status = .published ∨ status = .failed)
  | .setJobMetadata _ _ => False
  | .markJobTiming id field _ => id = job.id ∧ field = .publishedMs
  | .setJobTiming _ _ _ => False
  | .retry _ _ => False
  | .deadLetter _ => False
  | .publish job' => job' = job ∧ .publishedMs ∈ m.timing
  | _ => True

def Role.Writes (decode : Option Json → Except String AgentRequest) (m : Marks) : Role → Op → Prop
  | .worker (.invalid _), o => o = .nack false
  | .worker (.job job), o => job.Writes (decode job.payload) m o
  | .publisher job _, o => job.PublishWrites m o

abbrev marking (allowed : Marks → Op → Prop) : Monitor Op Op.Reply where
  State := Marks
  next := Marks.next
  allowed := allowed

section

variable {decoded : Except String AgentRequest} {job job' : Job} {m : Marks}

def Job.Plain (job : Job) : Op → Prop
  | .setJobStatus id status => id = job.id ∧ (status = .processing ∨ status = .retrying ∨ status = .failed)
  | .setJobMetadata _ _ => False
  | .markJobTiming id field _ => id = job.id ∧ field = .startedMs
  | .setJobTiming id field value => id = job.id ∧
    (field = .finishedMs ∨ field = .attempts ∧ value = job.attempt + 1)
  | .retry job' _ => job'.Succeeds job
  | .deadLetter job' => job'.Succeeds job
  | .publish _ => False
  | _ => True

theorem Job.Plain.writes {o : Op} (h : job.Plain o) : job.Writes decoded m o := by
  cases o with
  | setJobStatus id status =>
    obtain ⟨hid, rfl | rfl | rfl⟩ := h
    · exact ⟨hid, nofun, nofun⟩
    · exact ⟨hid, nofun, nofun⟩
    · exact ⟨hid, nofun, nofun⟩
  | setJobMetadata id metadata => exact h.elim
  | _ => exact h

theorem Op.Delays.plain {o : Op} {level : Int} (ho : Op.Delays job' level o) (h : job'.Succeeds job) :
    job.Plain o := by
  cases ho with
  | retry => exact h
  | _ => trivial

theorem Op.Buries.plain {o : Op} (ho : Op.Buries job' o) (h : job'.Succeeds job) : job.Plain o := by
  cases ho with
  | status => exact ⟨h.id, .inr (.inr rfl)⟩
  | finished ms => exact ⟨h.id, .inl rfl⟩
  | deadLetter => exact h
  | _ => trivial

theorem Op.Retries.plain {o : Op} {maxAttempts : Int} {err : String}
    (ho : Op.Retries maxAttempts job err o) : job.Plain o := by
  have hattempt : job.attempt ≤ job.attempt + 1 := Int.le_add_of_nonneg_right (by decide)
  cases ho with
  | status => exact ⟨rfl, .inr (.inl rfl)⟩
  | delays ho => exact ho.plain ⟨rfl, rfl, hattempt⟩
  | buries hspent ho => exact ho.plain ⟨rfl, rfl, hattempt⟩

abbrev Written (decoded : Except String AgentRequest) (job : Job) (m : Marks) (t : Task α)
    (Q : Marks → α → Prop) : Prop :=
  t.wp (marking (job.Writes decoded)) Q m

theorem written_of_plain {t : Task α} (h : t.Uses job.Plain) :
    Written decoded job m t fun _ _ => True :=
  h.wp (M := marking (job.Writes decoded)) (I := fun _ => True) (fun _ _ ho _ => ho.writes)
    (fun _ _ _ _ _ => trivial) trivial

end

namespace Service

variable {s : Service} {decoded : Except String AgentRequest} {job job' : Job} {m : Marks}

theorem plain_delay (level : Int) (h : job'.Succeeds job) : (delay job' level).Uses job.Plain :=
  (footprint_delay job' level).uses.mono fun _ ho => ho.plain h

theorem plain_deadLetter (err : String) (h : job'.Succeeds job) : (deadLetter job' err).Uses job.Plain :=
  (footprint_deadLetter job' err).uses.mono fun _ ho => ho.plain ⟨h.id, h.payload, h.attempt⟩

theorem plain_retry (err : String) : (s.retry job err).Uses job.Plain :=
  (footprint_retry job err).uses.mono fun _ => Op.Retries.plain

theorem written_markStarted (job : Job) :
    Written decoded job m (markStarted job) fun m' r => r = .ok () → m'.Started := by
  refine ⟨⟨rfl, nofun, nofun⟩, fun status _ => ?_⟩
  cases status with
  | error err => exact nofun
  | ok _ =>
    refine ⟨trivial, fun ms _ => ⟨⟨rfl, rfl⟩, fun started _ => ?_⟩⟩
    cases started with
    | error err => exact nofun
    | ok _ =>
      refine ⟨⟨rfl, .inr ⟨rfl, rfl⟩⟩, fun attempts _ => ?_⟩
      rintro rfl
      exact ⟨.tail _ (.head _), .head _⟩

theorem written_finishWith {status : Status} (hstarted : m.Started)
    (hnoted : status = .waitingForConfirmation → m.noted = true) :
    Written decoded job m (finishWith job status) fun _ _ => True := by
  refine ⟨trivial, fun ms _ => ⟨⟨rfl, .inl rfl⟩, fun timing _ => ?_⟩⟩
  cases timing with
  | error err => trivial
  | ok _ =>
    exact ⟨⟨rfl, fun _ => hstarted.finish, fun hstatus => ⟨hstarted.finish, hnoted hstatus⟩⟩,
      fun _ _ => trivial⟩

theorem written_finish {request : AgentRequest} {requested : Option RequestInput}
    (hdecoded : decoded = .ok request) (hstarted : m.Started) :
    Written decoded job m (finish job request requested) fun _ _ => True := by
  cases requested with
  | none => exact written_finishWith hstarted nofun
  | some input =>
    refine ⟨⟨rfl, request, hdecoded, rfl, rfl⟩, fun metadata _ => ?_⟩
    cases metadata with
    | error err => trivial
    | ok _ => exact written_finishWith (m := { m with noted := true }) ⟨hstarted.1, hstarted.2⟩ fun _ => rfl

theorem written_run {request : AgentRequest} (hstarted : m.Started) :
    Written decoded job m (run request) fun m' _ => m'.Started :=
  ⟨trivial, fun _ _ => hstarted⟩

theorem written_processLocked {request : AgentRequest} (hdecoded : decoded = .ok request) :
    Written decoded job m (s.processLocked job request) fun _ _ => True := by
  apply Prog.wp_bind _ _ _ (written_markStarted job)
  intro m₁ started h₁
  cases started with
  | error err => exact written_of_plain (plain_retry err)
  | ok _ =>
    apply Prog.wp_bind _ _ _ (written_run (h₁ rfl))
    rintro m₂ ⟨requested, runErr⟩ hstarted
    cases runErr with
    | some err =>
      dsimp only
      split
      · exact written_of_plain (plain_deadLetter _ (.refl job))
      · exact written_of_plain (plain_retry _)
    | none =>
      apply Prog.wp_bind _ _ _ (written_finish hdecoded hstarted)
      intro m₃ finished _
      cases finished with
      | error err => exact written_of_plain (plain_retry err)
      | ok _ => exact written_of_plain (footprint_ack trivial).uses

theorem written_processRequest {request : AgentRequest} (hdecoded : decoded = .ok request) :
    Written decoded job m (s.processRequest job request) fun _ _ => True := by
  refine ⟨trivial, fun acquired _ => ?_⟩
  match acquired with
  | .error err => exact written_of_plain (plain_retry err)
  | .ok false => exact written_of_plain (plain_delay 1 (.refl job))
  | .ok true =>
    apply Prog.wp_bind _ _ _ (written_processLocked hdecoded)
    exact fun _ _ _ => ⟨trivial, fun _ _ => trivial⟩

theorem written_processUnfinished :
    Written (decodeAgentRequest job.payload) job m (s.processUnfinished job) fun _ _ => True := by
  unfold processUnfinished
  split
  · exact written_of_plain (plain_deadLetter _ (.refl job))
  · rename_i request hdecoded
    split
    · exact written_of_plain (plain_deadLetter _ (.refl job))
    · split
      · exact written_of_plain (plain_deadLetter _ (.refl job))
      · exact written_processRequest hdecoded

theorem written_process (job : Job) :
    Written (decodeAgentRequest job.payload) job m (s.process (.job job)) fun _ _ => True := by
  simp only [process]
  split
  · exact written_of_plain (footprint_nack trivial).uses
  · refine ⟨trivial, fun status _ => ?_⟩
    cases status with
    | error err => exact written_of_plain (plain_retry err)
    | ok status =>
      change Written _ job _ (if isTerminal status then ack else s.processUnfinished job) _
      split
      · exact written_of_plain (footprint_ack trivial).uses
      · exact written_processUnfinished

abbrev PublishWritten (job : Job) (m : Marks) (t : Task α) : Prop :=
  t.wp (marking job.PublishWrites) (fun _ _ => True) m

theorem written_publishNew (job : Job) : PublishWritten job m (publishNew job) := by
  refine ⟨⟨rfl, .inl rfl⟩, fun status _ => ?_⟩
  cases status with
  | error err => trivial
  | ok _ =>
    refine ⟨trivial, fun ms _ => ⟨⟨rfl, rfl⟩, fun marked _ => ?_⟩⟩
    cases marked with
    | error err => trivial
    | ok _ =>
      refine ⟨⟨rfl, .head _⟩, fun published _ => ?_⟩
      cases published with
      | error err => exact ⟨⟨rfl, .inr rfl⟩, fun _ _ => trivial⟩
      | ok _ => trivial

theorem written_publish (id : String) (payload : Option Json) (key : String) :
    PublishWritten (newJob id payload) m (publish id payload key) := by
  unfold publish
  dsimp only
  split
  · apply Prog.wp_bind _ _ _ (written_publishNew (newJob id payload))
    intro m published _
    cases published <;> trivial
  · refine ⟨trivial, fun claimed _ => ?_⟩
    match claimed with
    | .error err => trivial
    | .ok false =>
      refine ⟨trivial, fun owner _ => ?_⟩
      match owner with
      | .error err => trivial
      | .ok none => trivial
      | .ok (some owner) => trivial
    | .ok true =>
      apply Prog.wp_bind _ _ _ (written_publishNew (newJob id payload))
      intro m published _
      cases published with
      | error err => exact ⟨trivial, fun _ _ => trivial⟩
      | ok _ => trivial

end Service

namespace Python.JobService

variable {s : JobService} {decoded : Except String AgentRequest} {job job' : Job} {m : Marks}

theorem plain_delay (level : Int) (h : job'.Succeeds job) : (delay job' level).Uses job.Plain :=
  (footprint_delay job' level).uses.mono fun _ ho => ho.plain h

theorem plain_deadLetter (err : String) (h : job'.Succeeds job) : (deadLetter job' err).Uses job.Plain :=
  (footprint_deadLetter job' err).uses.mono fun _ ho => ho.plain ⟨h.id, h.payload, h.attempt⟩

theorem plain_retry (err : String) : (s.retry job err).Uses job.Plain :=
  (footprint_retry job err).uses.mono fun _ => Op.Retries.plain

theorem written_finishWith {status : Status} (hstarted : m.Started)
    (hnoted : status = .waitingForConfirmation → m.noted = true) :
    Written decoded job m (finishWith job status) fun _ _ => True := by
  refine ⟨trivial, fun ms _ => ⟨⟨rfl, .inl rfl⟩, fun timing _ => ?_⟩⟩
  cases timing with
  | error err => trivial
  | ok _ =>
    refine ⟨⟨rfl, fun _ => hstarted.finish, fun hstatus => ⟨hstarted.finish, hnoted hstatus⟩⟩,
      fun stored _ => ?_⟩
    cases stored with
    | error err => trivial
    | ok _ => exact written_of_plain (.call trivial)

theorem written_finish {request : AgentRequest} {result : GraphResult} (hdecoded : decoded = .ok request)
    (hstarted : m.Started) : Written decoded job m (finish job request result) fun _ _ => True := by
  unfold finish
  split
  · trivial
  · refine ⟨⟨rfl, request, hdecoded, rfl, rfl⟩, fun metadata _ => ?_⟩
    cases metadata with
    | error err => trivial
    | ok _ => exact written_finishWith (m := { m with noted := true }) ⟨hstarted.1, hstarted.2⟩ fun _ => rfl
  · split
    · split
      · exact written_of_plain (plain_deadLetter _ (.refl job))
      · exact written_finishWith hstarted nofun
    · exact written_finishWith hstarted nofun

theorem written_processLocked {request : AgentRequest} (hdecoded : decoded = .ok request) :
    Written decoded job m (s.processLocked job request) fun _ _ => True := by
  -- The start marks are those of the Go service.
  apply Prog.wp_bind _ _ _ (Service.written_markStarted job)
  intro m₁ started h₁
  cases started with
  | error err => trivial
  | ok _ =>
    refine ⟨trivial, fun outcome _ => ?_⟩
    cases outcome with
    | error err =>
      change Written decoded job _
        (if err.noPendingInput then deadLetter job err.message else s.retry job err.message) _
      split
      · exact written_of_plain (plain_deadLetter _ (.refl job))
      · exact written_of_plain (plain_retry _)
    | ok result => exact written_finish hdecoded (h₁ rfl)

theorem written_processRequest {request : AgentRequest} (hdecoded : decoded = .ok request) :
    Written decoded job m (s.processRequest job request) fun _ _ => True := by
  refine ⟨trivial, fun acquired _ => ?_⟩
  match acquired with
  | .error err => trivial
  | .ok false => exact written_of_plain (plain_delay 1 (.refl job))
  | .ok true =>
    apply Prog.wp_bind _ _ _ (written_processLocked hdecoded)
    exact fun _ _ _ => ⟨trivial, fun _ _ => trivial⟩

theorem written_process (payload : Json) :
    Written (validateRequest payload) job m (s.process job payload) fun _ _ => True := by
  refine ⟨trivial, fun status _ => ?_⟩
  cases status with
  | error err => trivial
  | ok status =>
    change Written _ job _ (if isTerminal status then _ else _) _
    split
    · exact written_of_plain (.call trivial)
    · split
      · exact written_of_plain (plain_deadLetter _ (.refl job))
      · rename_i request hdecoded
        split
        · exact written_of_plain (plain_deadLetter _ (.refl job))
        · exact written_processRequest hdecoded

def decodeRequest : Option Json → Except String AgentRequest
  | some payload => validateRequest payload
  | none => .error "missing payload"

theorem written_consume (job : Job) :
    Written (decodeRequest job.payload) job m (s.consume (.job job)) fun _ _ => True := by
  have reject : Written (decodeRequest job.payload) job m (do let _ ← Delivery.nack false) fun _ _ => True :=
    written_of_plain (.bind (.call trivial) fun _ => .ret ())
  simp only [consume]
  split
  · exact reject
  · rename_i payload hpayload
    split
    · exact reject
    · rw [hpayload]
      apply Prog.wp_bind _ _ _ (written_process payload)
      intro m result _
      cases result with
      | error err => exact written_of_plain (.bind (plain_retry err) fun _ => .ret ())
      | ok _ => trivial

theorem written_publishNew (job : Job) : Service.PublishWritten job m (publishNew job) := by
  refine ⟨⟨rfl, .inl rfl⟩, fun status _ => ?_⟩
  cases status with
  | error err => trivial
  | ok _ =>
    refine ⟨trivial, fun ms _ => ⟨⟨rfl, rfl⟩, fun marked _ => ?_⟩⟩
    cases marked with
    | error err => trivial
    | ok _ =>
      refine ⟨⟨rfl, .head _⟩, fun published _ => ?_⟩
      cases published with
      | error err =>
        refine ⟨⟨rfl, .inr rfl⟩, fun failed _ => ?_⟩
        cases failed <;> trivial
      | ok _ => trivial

theorem written_publish (id : String) (payload : Option Json) (key : String) :
    Service.PublishWritten (Service.newJob id payload) m (publish id (payload.getD (.object [])) key) := by
  unfold publish
  dsimp only
  split
  · apply Prog.wp_bind _ _ _ (written_publishNew (Service.newJob id payload))
    intro m published _
    cases published <;> trivial
  · refine ⟨trivial, fun claimed _ => ?_⟩
    match claimed with
    | .error err => trivial
    | .ok false =>
      refine ⟨trivial, fun owner _ => ?_⟩
      cases owner <;> trivial
    | .ok true =>
      apply Prog.wp_bind _ _ _ (written_publishNew (Service.newJob id payload))
      intro m published _
      cases published with
      | error err =>
        refine ⟨trivial, fun released _ => ?_⟩
        cases released <;> trivial
      | ok _ => trivial

end Python.JobService

end AgentsAtScale.Jobs
