import AgentsAtScale.Data.Numerals
import AgentsAtScale.Jobs.Conversations
import AgentsAtScale.Jobs.RequestLaws

/-! The envelope of a queued job, as the two brokers encode it and the two workers decode
it.  Bodies are JSON values; a body that is no JSON at all is `none`. -/

namespace AgentsAtScale.Jobs

def parseInt64 : String → Option Int := Data.Numerals.parseInt 64

/-- `json.Marshal` of the envelope: a nil payload is null, and an empty error is left out. -/
def Job.marshal (job : Job) : Json :=
  .object ([("id", .string job.id), ("payload", job.payload.getD .null), ("attempt", .number job.attempt.repr)] ++
    if job.error = "" then [] else [("error", .string job.error)])

def Job.stringField (field : String) (value : Json) (old : String) : String × Option String :=
  match value with
  | .string s => (s, none)
  | .null => (old, none)
  | value => (old, some (typeError value ("struct field Job." ++ field ++ " of type string")))

def Job.set (job : Job) (key : String) (value : Json) : Job × Option String :=
  if foldKey key = "id" then
    let (s, err) := stringField "id" value job.id
    ({ job with id := s }, err)
  else if foldKey key = "payload" then ({ job with payload := some value }, none)
  else if foldKey key = "attempt" then
    match value with
    | .number text =>
      match parseInt64 text with
      | some n => ({ job with attempt := n }, none)
      | none => (job, some ("json: cannot unmarshal number " ++ text ++ " into Go struct field Job.attempt of type int"))
    | .null => (job, none)
    | value => (job, some (typeError value "struct field Job.attempt of type int"))
  else if foldKey key = "error" then
    let (s, err) := stringField "error" value job.error
    ({ job with error := s }, err)
  else (job, none)

def unmarshalJob : Json → Except String Job
  | .null => .ok { id := "", payload := none }
  | .object members => decodeMembers Job.set members { id := "", payload := none }
  | value => .error (typeError value "value of type rabbitmq.Job")

def readBody : Option Json → Message
  | none => .invalid "invalid character"
  | some value =>
    match unmarshalJob value with
    | .ok job => .job job
    | .error err => .invalid err

namespace Python

structure Envelope where
  id : Json
  payload : Json
  attempt : Json := .number "0"
  error : Json := .null

def decodeEnvelope : Json → Except String Envelope
  | .object members =>
    match members.find? fun m => m.1 ∉ ["id", "payload", "attempt", "error"] with
    | some (key, _) => .error ("Job.__init__() got an unexpected keyword argument '" ++ key ++ "'")
    | none =>
      match get members "id", get members "payload" with
      | some id, some payload => .ok
        { id := id
          payload := payload
          attempt := (get members "attempt").getD (.number "0")
          error := (get members "error").getD .null }
      | none, _ => .error "Job.__init__() missing 1 required positional argument: 'id'"
      | some _, none => .error "Job.__init__() missing 1 required positional argument: 'payload'"
  | _ => .error "app.platform.rabbitmq.Job() argument after ** must be a mapping"

def Envelope.job? (envelope : Envelope) : Option Job :=
  match envelope.id, envelope.attempt, envelope.error with
  | .string id, .number text, .null =>
    (parseInt64 text).map fun attempt => { id := id, payload := some envelope.payload, attempt := attempt }
  | .string id, .number text, .string error =>
    (parseInt64 text).map fun attempt =>
      { id := id, payload := some envelope.payload, attempt := attempt, error := error }
  | _, _, _ => none

/-- What the Python worker makes of a body, where that is a job with the declared types or
is rejected. -/
def readBody : Option Json → Option Message
  | none => some (.invalid "unexpected character")
  | some value =>
    match decodeEnvelope value with
    | .ok envelope => envelope.job?.map .job
    | .error err => some (.invalid err)

/-- The body that `_publish` sends: fields that are `None` are left out.  An empty error
stands for `None`. -/
def dumpJob (job : Job) : Json :=
  .object ([("id", .string job.id)] ++
    (match job.payload with
      | none => []
      | some payload => if payload.isNull then [] else [("payload", payload)]) ++
    [("attempt", .number job.attempt.repr)] ++
    if job.error = "" then [] else [("error", .string job.error)])

end Python

namespace Stack

def encode : Stack → Job → Json
  | .adkGo _ => Job.marshal
  | .langgraphPython _ => Python.dumpJob

def read : Stack → Option Json → Option Message
  | .adkGo _, body => some (readBody body)
  | .langgraphPython _, body => Python.readBody body

end Stack

structure Job.Fits (job : Job) : Prop where
  low : -2 ^ 63 ≤ job.attempt
  high : job.attempt < 2 ^ 63
  payload : job.payload.any (!·.isNull) = true

instance (job : Job) : Decidable job.Fits :=
  decidable_of_iff (-2 ^ 63 ≤ job.attempt ∧ job.attempt < 2 ^ 63 ∧ job.payload.any (!·.isNull) = true)
    ⟨fun h => ⟨h.1, h.2.1, h.2.2⟩, fun h => ⟨h.low, h.high, h.payload⟩⟩

theorem Job.Fits.exists_payload {job : Job} (h : job.Fits) :
    ∃ payload, job.payload = some payload ∧ payload.isNull = false := by
  have hpayload := h.payload
  cases hjob : job.payload with
  | none => rw [hjob] at hpayload; cases hpayload
  | some payload =>
    rw [hjob] at hpayload
    exact ⟨payload, rfl, by simpa using hpayload⟩

@[simp] theorem foldKey_id : foldKey "id" = "id" := by decide +kernel
@[simp] theorem foldKey_payload : foldKey "payload" = "payload" := by decide +kernel
@[simp] theorem foldKey_attempt : foldKey "attempt" = "attempt" := by decide +kernel
@[simp] theorem foldKey_error : foldKey "error" = "error" := by decide +kernel

section

variable {job : Job} {payload : Json}

def Job.members (job : Job) (payload : Json) : List (String × Json) :=
  [("id", .string job.id), ("payload", payload), ("attempt", .number job.attempt.repr)] ++
    if job.error = "" then [] else [("error", .string job.error)]

theorem unmarshalJob_members (hlow : -2 ^ 63 ≤ job.attempt) (hhigh : job.attempt < 2 ^ 63) :
    unmarshalJob (.object (job.members payload)) = .ok { job with payload := some payload } := by
  have hparse : parseInt64 job.attempt.repr = some job.attempt := Data.Numerals.parseInt_repr hlow hhigh
  unfold unmarshalJob Job.members decodeMembers
  by_cases herror : job.error = "" <;> simp [Job.set, Job.stringField, hparse, herror]

theorem decodeEnvelope_members : Python.decodeEnvelope (.object (job.members payload)) = .ok
    { id := .string job.id
      payload := payload
      attempt := .number job.attempt.repr
      error := if job.error = "" then .null else .string job.error } := by
  unfold Python.decodeEnvelope Job.members Python.get
  by_cases herror : job.error = "" <;> simp [herror]

theorem readBody_members (hlow : -2 ^ 63 ≤ job.attempt) (hhigh : job.attempt < 2 ^ 63) :
    Python.readBody (some (.object (job.members payload))) = some (.job { job with payload := some payload }) := by
  have hparse : parseInt64 job.attempt.repr = some job.attempt := Data.Numerals.parseInt_repr hlow hhigh
  rw [Python.readBody, decodeEnvelope_members]
  by_cases herror : job.error = "" <;> simp [Python.Envelope.job?, hparse, herror]

theorem Job.Fits.marshal_eq (h : job.Fits) : ∃ payload, job.payload = some payload ∧
    job.marshal = .object (job.members payload) ∧ Python.dumpJob job = .object (job.members payload) := by
  obtain ⟨payload, hpayload, hnull⟩ := h.exists_payload
  refine ⟨payload, hpayload, ?_, ?_⟩
  · simp [Job.marshal, Job.members, hpayload]
  · simp [Python.dumpJob, Job.members, hpayload, hnull]

end

theorem Stack.read_encode (sender receiver : Stack) {job : Job} (h : job.Fits) :
    receiver.read (some (sender.encode job)) = some (.job job) := by
  obtain ⟨payload, hpayload, hmarshal, hdump⟩ := h.marshal_eq
  have hjob : { job with payload := some payload } = job := by rw [← hpayload]
  have hencode : sender.encode job = .object (job.members payload) := by
    cases sender with
    | adkGo service => exact hmarshal
    | langgraphPython service => exact hdump
  rw [hencode]
  cases receiver with
  | adkGo service => rw [Stack.read, readBody, unmarshalJob_members h.low h.high, hjob]
  | langgraphPython service => rw [Stack.read, readBody_members h.low h.high, hjob]

end AgentsAtScale.Jobs
