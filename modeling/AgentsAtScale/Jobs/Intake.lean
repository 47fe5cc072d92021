import AgentsAtScale.Airline.Schema
import AgentsAtScale.Jobs.Dispatch

namespace AgentsAtScale.Jobs

open Program Airline

inductive Response
  | error (status : Nat) (detail : String)
  | accepted (id : Option String) (status : String)

def respond : Except String (Option String × Bool) → Response
  | .error _ => .error 500 "publish job failed"
  | .ok (id, duplicate) => .accepted id (if duplicate then "duplicate" else "published")

/-- How `uuid.UUID` and `decimal.Decimal` are read from JSON and written to it. -/
structure Codec where
  uuid : String → Except String UUID
  decimal : Json → Except String Decimal
  uuidText : UUID → String
  decimalText : Decimal → String

structure ResumeRequest where
  confirmed : Option Bool := none
  selection : Option (RebookingSelection UUID) := none

structure ChatRequest where
  userId : String := ""
  sessionId : String := ""
  message : String := ""
  resume : Option ResumeRequest := none

def valueField (parse : Json → Except String α) (value : Json) (old : α) : α × Option String :=
  if value.isNull then (old, none)
  else
    match parse value with
    | .ok a => (a, none)
    | .error err => (old, some err)

def Codec.uuidOf (codec : Codec) : Json → Except String UUID
  | .string s => codec.uuid s
  | value => .error (typeError value "value of type uuid.UUID")

def chatString (field : String) : Json → Except String String
  | .string s => .ok s
  | value => .error (typeError value ("struct field chatRequest." ++ field ++ " of type string"))

def setSelection (codec : Codec) (selection : RebookingSelection UUID) (key : String) (value : Json) :
    RebookingSelection UUID × Option String :=
  if foldKey key = "segment_id" then
    let (id, err) := valueField codec.uuidOf value selection.segmentId
    ({ selection with segmentId := id }, err)
  else if foldKey key = "new_flight_id" then
    let (id, err) := valueField codec.uuidOf value selection.newFlightId
    ({ selection with newFlightId := id }, err)
  else if foldKey key = "new_fare_class_id" then
    let (id, err) := valueField codec.uuidOf value selection.newFareClassId
    ({ selection with newFareClassId := id }, err)
  else if foldKey key = "travel_credit_id" then
    let (id, err) := valueField codec.uuidOf value selection.travelCreditId
    ({ selection with travelCreditId := id }, err)
  else if foldKey key = "travel_credit_amount" then
    let (amount, err) := valueField codec.decimal value selection.travelCreditAmount
    ({ selection with travelCreditAmount := amount }, err)
  else (selection, none)

/-- A struct behind a pointer: null clears the pointer, and an object is decoded into
what the pointer already has. -/
def pointerField (set : α → String → Json → α × Option String) (zero : α) (target : String)
    (value : Json) (old : Option α) : Option α × Option String :=
  match value with
  | .null => (none, none)
  | .object members =>
    match decodeMembers set members (old.getD zero) with
    | .ok a => (some a, none)
    | .error err => (old, some err)
  | value => (old, some (typeError value target))

def ResumeRequest.set (codec : Codec) (resume : ResumeRequest) (key : String) (value : Json) :
    ResumeRequest × Option String :=
  if foldKey key = "confirmed" then
    match value with
    | .bool b => ({ resume with confirmed := some b }, none)
    | .null => ({ resume with confirmed := none }, none)
    | value => (resume, some (typeError value "struct field resumeRequest.confirmed of type bool"))
  else if foldKey key = "selection" then
    let (selection, err) := pointerField (setSelection codec) ⟨0, 0, 0, 0, 0⟩
      "struct field resumeRequest.selection of type airline.RebookingSelection" value resume.selection
    ({ resume with selection := selection }, err)
  else (resume, none)

def ChatRequest.set (codec : Codec) (request : ChatRequest) (key : String) (value : Json) :
    ChatRequest × Option String :=
  if foldKey key = "user_id" then
    let (s, err) := valueField (chatString "user_id") value request.userId
    ({ request with userId := s }, err)
  else if foldKey key = "session_id" then
    let (s, err) := valueField (chatString "session_id") value request.sessionId
    ({ request with sessionId := s }, err)
  else if foldKey key = "message" then
    let (s, err) := valueField (chatString "message") value request.message
    ({ request with message := s }, err)
  else if foldKey key = "resume" then
    let (resume, err) := pointerField (ResumeRequest.set codec) {}
      "struct field chatRequest.resume of type airline.resumeRequest" value request.resume
    ({ request with resume := resume }, err)
  else (request, none)

def decodeChatRequest (codec : Codec) : Json → Except String ChatRequest
  | .null => .ok {}
  | .object members => decodeMembers (ChatRequest.set codec) members {}
  | value => .error (typeError value "value of type airline.chatRequest")

def ChatRequest.validate (request : ChatRequest) : Except String Unit :=
  if isBlank request.userId ∨ isBlank request.sessionId then
    .error "user_id and session_id are required"
  else if (!isBlank request.message) = request.resume.isSome then
    .error "exactly one of message or resume is required"
  else
    match request.resume with
    | none => .ok ()
    | some resume =>
      match resume.confirmed with
      | none => .error "resume.confirmed is required"
      | some confirmed =>
        if confirmed && resume.selection.isNone then
          .error "resume.selection is required when confirmed"
        else .ok ()

section

variable (codec : Codec)

def marshalSelection (selection : RebookingSelection UUID) : Json :=
  .object
    [("segment_id", .string (codec.uuidText selection.segmentId)),
      ("new_flight_id", .string (codec.uuidText selection.newFlightId)),
      ("new_fare_class_id", .string (codec.uuidText selection.newFareClassId)),
      ("travel_credit_id", .string (codec.uuidText selection.travelCreditId)),
      ("travel_credit_amount", .string (codec.decimalText selection.travelCreditAmount))]

def ResumeRequest.marshal (resume : ResumeRequest) : Json :=
  .object (("confirmed", (resume.confirmed.map Json.bool).getD .null) ::
    (resume.selection.map fun selection => ("selection", marshalSelection codec selection)).toList)

def ChatRequest.marshal (request : ChatRequest) : Json :=
  .object ([("user_id", .string request.userId), ("session_id", .string request.sessionId)] ++
    (if request.message = "" then [] else [("message", .string request.message)]) ++
    (request.resume.map fun resume => ("resume", resume.marshal codec)).toList)

/-- A request body: the JSON values that can be read from it one after another, and
whether it ends after them. -/
structure Body where
  values : List Json
  ends : Bool

def readChat (body : Body) (header : String) : Except (Nat × String) (ChatRequest × String) :=
  match body.values with
  | [] => .error (422, "invalid JSON body")
  | value :: rest =>
    match decodeChatRequest codec value with
    | .error _ => .error (422, "invalid JSON body")
    | .ok request =>
      if !(rest.isEmpty && body.ends) then .error (422, "invalid JSON body")
      else
        match request.validate with
        | .error err => .error (422, err)
        | .ok _ =>
          let key := trim isSpace header
          if key.utf8ByteSize > 200 then .error (422, "Idempotency-Key is too long")
          else .ok (request, key)

def chat (id : String) (body : Body) (header : String) : Task Response :=
  match readChat codec body header with
  | .error (status, detail) => return .error status detail
  | .ok (request, key) => do
    let published ← Service.publish id (some (request.marshal codec)) key
    return respond (published.map fun (id, duplicate) => (some id, duplicate))

end

namespace Python

/-- How pydantic reads values that are not strings, and how it dumps them. -/
structure Codec where
  bool : Json → Except String Bool
  uuid : Json → Except String UUID
  decimal : Json → Except String Decimal
  uuidText : UUID → String
  decimalText : Decimal → String

structure ResumeRequest where
  confirmed : Bool
  selection : Option (RebookingSelection (Option UUID)) := none

structure ChatRequest where
  userId : String
  sessionId : String
  message : Option String := none
  resume : Option ResumeRequest := none

def str : Json → Except String String
  | .string s => .ok s
  | _ => .error "Input should be a valid string"

def required (parse : Json → Except String α) (path : String) (value : Option Json) : Except String α :=
  match value with
  | none => .error (path ++ " is required")
  | some value => parse value

def optional (parse : Json → Except String α) (value : Option Json) : Except String (Option α) :=
  match value with
  | none => .ok none
  | some value => if value.isNull then .ok none else (parse value).map some

def modelOf (name : String) (parse : List (String × Json) → Except String α) : Json → Except String α
  | .object members => parse members
  | _ => .error ("Input should be a valid dictionary or instance of " ++ name)

section

variable (codec : Codec)

def validateSelection : Json → Except String (RebookingSelection (Option UUID)) :=
  modelOf "RebookingSelectionSchema" fun members => do
    let segmentId ← required codec.uuid "resume.selection.segment_id" (get members "segment_id")
    let newFlightId ← required codec.uuid "resume.selection.new_flight_id" (get members "new_flight_id")
    let newFareClassId ← required codec.uuid "resume.selection.new_fare_class_id"
      (get members "new_fare_class_id")
    let travelCreditId ← optional codec.uuid (get members "travel_credit_id")
    let travelCreditAmount ← match get members "travel_credit_amount" with
      | none => pure 0
      | some value => codec.decimal value
    return {
      segmentId := segmentId
      newFlightId := newFlightId
      newFareClassId := newFareClassId
      travelCreditId := travelCreditId
      travelCreditAmount := travelCreditAmount }

def validateResumeRequest : Json → Except String ResumeRequest :=
  modelOf "ResumeRequest" fun members => do
    let confirmed ← required codec.bool "resume.confirmed" (get members "confirmed")
    let selection ← optional (validateSelection codec) (get members "selection")
    if confirmed && selection.isNone then
      throw "resume.selection is required when confirmed"
    return { confirmed := confirmed, selection := selection }

def validateChatRequest : Json → Except String ChatRequest :=
  modelOf "ChatRequest" fun members => do
    let userId ← required str "user_id" (get members "user_id")
    let sessionId ← required str "session_id" (get members "session_id")
    let message ← optional str (get members "message")
    let resume ← optional (validateResumeRequest codec) (get members "resume")
    if isBlank userId || isBlank sessionId then
      throw "user_id and session_id are required"
    if (message.any (!isBlank ·)) = resume.isSome then
      throw "exactly one of message or resume is required"
    return { userId := userId, sessionId := sessionId, message := message, resume := resume }

def dumpSelection (selection : RebookingSelection (Option UUID)) : Json :=
  .object ([("segment_id", .string (codec.uuidText selection.segmentId)),
      ("new_flight_id", .string (codec.uuidText selection.newFlightId)),
      ("new_fare_class_id", .string (codec.uuidText selection.newFareClassId))] ++
    (selection.travelCreditId.map fun id => ("travel_credit_id", .string (codec.uuidText id))).toList ++
    [("travel_credit_amount", .string (codec.decimalText selection.travelCreditAmount))])

def ResumeRequest.dump (resume : ResumeRequest) : Json :=
  .object (("confirmed", .bool resume.confirmed) ::
    (resume.selection.map fun selection => ("selection", dumpSelection codec selection)).toList)

def ChatRequest.dump (request : ChatRequest) : Json :=
  .object ([("user_id", .string request.userId), ("session_id", .string request.sessionId)] ++
    (request.message.map fun message => ("message", .string message)).toList ++
    (request.resume.map fun resume => ("resume", resume.dump codec)).toList)

def readChat (body : Json) (idempotencyKey : Option String) :
    Except (Nat × String) (ChatRequest × String) :=
  match validateChatRequest codec body with
  | .error detail => .error (422, detail)
  | .ok request =>
    let key := trim isSpace (idempotencyKey.getD "")
    if key.length > 200 then .error (422, "Idempotency-Key is too long") else .ok (request, key)

def publishChat (id : String) (body : Json) (idempotencyKey : Option String) : Task Response :=
  match readChat codec body idempotencyKey with
  | .error (status, detail) => return .error status detail
  | .ok (request, key) => do
    let published ← JobService.publish id (request.dump codec) key
    return respond published

end

end Python

def Stack.Takes (stack : Stack) (payload : Option Json) (userId sessionId message : String) : Prop :=
  ∃ request, stack.validate payload = .ok request ∧
    request.userId = userId ∧ request.sessionId = sessionId ∧ request.message = message ∧
    ∀ job : Job, job.payload = payload → isBlank job.id = false → stack.runner = true →
      (stack.process (.job job)).Issues (stack.ask request.call)

theorem Stack.takes_of_validate {stack : Stack} {payload : Option Json} {request : AgentRequest}
    (h : stack.validate payload = .ok request) :
    stack.Takes payload request.userId request.sessionId request.message := by
  refine ⟨request, h, rfl, rfl, rfl, ?_⟩
  rintro job rfl hid hrunner
  exact Stack.issues_ask hrunner hid h

def Op.Queues (payload : Json) (o : Op) : Prop := ∀ job, o = .publish job → job.payload = some payload

theorem Op.Publishes.queues {o : Op} {id key : String} {payload : Json}
    (h : Op.Publishes (Service.newJob id (some payload)) key o) : o.Queues payload := by
  rintro _ rfl
  cases h
  rfl

section

variable {codec : Codec}

theorem ChatRequest.validate_eq_ok {request : ChatRequest} :
    request.validate = .ok () ↔ isBlank request.userId = false ∧ isBlank request.sessionId = false ∧
      (isBlank request.message = false ∧ request.resume = none ∨
        isBlank request.message = true ∧ ∃ resume confirmed, request.resume = some resume ∧
          resume.confirmed = some confirmed ∧ (confirmed = true → resume.selection.isSome = true)) := by
  rw [validate]
  cases isBlank request.userId with
  | true => simp
  | false =>
    cases isBlank request.sessionId with
    | true => simp
    | false =>
      cases hresume : request.resume with
      | none => cases isBlank request.message <;> simp
      | some resume =>
        cases isBlank request.message with
        | false => simp
        | true =>
          cases hconfirmed : resume.confirmed with
          | none => simp [hconfirmed]
          | some confirmed => cases confirmed <;> simp [hconfirmed, Option.isSome_iff_ne_none]

def ChatRequest.queued (codec : Codec) (request : ChatRequest) : AgentRequest where
  userId := request.userId
  sessionId := request.sessionId
  message := request.message
  resume := request.resume.map (·.marshal codec)

theorem ChatRequest.decode_marshal (request : ChatRequest) :
    decodeAgentRequest (some (request.marshal codec)) = .ok (request.queued codec) := by
  cases hresume : request.resume <;> by_cases hmessage : request.message = "" <;>
    simp [marshal, queued, decodeAgentRequest, decodeMembers, AgentRequest.set, stringField, hresume,
      hmessage]

theorem ResumeRequest.answers_marshal {resume : ResumeRequest} {confirmed : Bool}
    (hconfirmed : resume.confirmed = some confirmed)
    (hselection : confirmed = true → resume.selection.isSome = true) :
    Answers (resume.marshal codec) := by
  refine ⟨_, confirmed, rfl, ?_, ?_, ?_⟩
  · cases hsel : resume.selection <;> simp [hconfirmed, Json.isFlag]
  · cases hsel : resume.selection <;> simp [getFold, hconfirmed]
  · intro h
    obtain ⟨selection, hsel⟩ := Option.isSome_iff_exists.mp (hselection h)
    exact ⟨marshalSelection codec selection, by simp [getFold, hsel], rfl⟩

theorem ChatRequest.takes_marshal {request : ChatRequest} (h : request.validate = .ok ())
    (service : Service) :
    (Stack.adkGo service).Takes (some (request.marshal codec)) request.userId request.sessionId
      request.message := by
  obtain ⟨huser, hsession, haction⟩ := validate_eq_ok.mp h
  have hvalid : validateAgentRequest (request.queued codec) = .ok () := by
    refine validateAgentRequest_eq_ok.mpr ⟨huser, hsession, ?_⟩
    obtain ⟨hmessage, hresume⟩ | ⟨hmessage, resume, confirmed, hresume, hconfirmed, hselection⟩ := haction
    · exact .inl ⟨hmessage, by rw [queued, hresume]; rfl⟩
    · refine .inr ⟨hmessage, resume.marshal codec, by rw [queued, hresume]; rfl, rfl, ?_⟩
      exact resume.answers_marshal hconfirmed hselection
  exact Stack.takes_of_validate (Stack.validate_adkGo.mpr ⟨request.decode_marshal, hvalid⟩)

theorem validate_of_readChat {body : Body} {header key : String} {request : ChatRequest}
    (h : readChat codec body header = .ok (request, key)) : request.validate = .ok () := by
  rw [readChat] at h
  split at h
  · cases h
  · split at h
    · cases h
    · split at h
      · cases h
      · split at h
        · cases h
        · rename_i hvalid
          dsimp only at h
          split at h
          · cases h
          · cases h
            exact hvalid

theorem queues_publish (id key : String) (payload : Json) :
    (Service.publish id (some payload) key).Uses (Op.Queues payload) :=
  (Service.footprint_publish id (some payload) key).uses.mono fun _ => Op.Publishes.queues

theorem queues_of_accepted {id : String} {body : Body} {header : String}
    {calls : List (Sigma Op.Reply)} {jobId : Option String} {status : String}
    (h : (chat codec id body header).Runs calls (.accepted jobId status)) :
    ∃ request key, readChat codec body header = .ok (request, key) ∧
      ∀ call ∈ calls, call.1.Queues (request.marshal codec) := by
  rw [chat] at h
  cases hread : readChat codec body header with
  | error err =>
    rw [hread] at h
    cases h
  | ok read =>
    obtain ⟨request, key⟩ := read
    rw [hread] at h
    refine ⟨request, key, rfl, Prog.Uses.of_runs ?_ h⟩
    exact .bind (queues_publish id key _) fun _ => .ret _

end

namespace Python

variable {codec : Codec}

structure ChatRequest.Valid (request : ChatRequest) : Prop where
  userId : isBlank request.userId = false
  sessionId : isBlank request.sessionId = false
  action : request.message.any (!isBlank ·) ≠ request.resume.isSome
  selection : ∀ resume, request.resume = some resume → resume.confirmed = true →
    resume.selection.isSome = true

theorem selection_of_validate {value : Json} {resume : ResumeRequest}
    (h : validateResumeRequest codec value = .ok resume) (hconfirmed : resume.confirmed = true) :
    resume.selection.isSome = true := by
  cases value with
  | object members =>
    obtain ⟨confirmed, -, h⟩ := bind_eq_ok.mp h
    obtain ⟨selection, -, h⟩ := bind_eq_ok.mp h
    split at h
    · cases h
    · rename_i hchecked
      cases h
      subst hconfirmed
      simpa [Option.isSome_iff_ne_none] using hchecked
  | _ => cases h

theorem optional_eq_ok {parse : Json → Except String α} {value : Option Json} {a : α}
    (h : optional parse value = .ok (some a)) : ∃ v, parse v = .ok a := by
  cases value with
  | none => cases h
  | some value =>
    rw [optional] at h
    split at h
    · cases h
    · obtain ⟨b, hparse, hb⟩ := map_eq_ok.mp h
      cases hb
      exact ⟨value, hparse⟩

theorem valid_of_validate {body : Json} {request : ChatRequest}
    (h : validateChatRequest codec body = .ok request) : request.Valid := by
  cases body with
  | object members =>
    obtain ⟨userId, -, h⟩ := bind_eq_ok.mp h
    obtain ⟨sessionId, -, h⟩ := bind_eq_ok.mp h
    obtain ⟨message, -, h⟩ := bind_eq_ok.mp h
    obtain ⟨resume, hresume, h⟩ := bind_eq_ok.mp h
    dsimp only at h
    split at h
    · cases h
    · rename_i hids
      split at h
      · cases h
      · rename_i haction
        cases h
        rw [Bool.or_eq_true, not_or, Bool.not_eq_true, Bool.not_eq_true] at hids
        refine ⟨hids.1, hids.2, haction, ?_⟩
        rintro answer rfl
        obtain ⟨value, hvalue⟩ := optional_eq_ok hresume
        exact selection_of_validate hvalue
  | _ => cases h

def ChatRequest.queued (codec : Codec) (request : ChatRequest) : AgentRequest where
  userId := request.userId
  sessionId := request.sessionId
  message := request.message.getD ""
  resume := request.resume.map (·.dump codec)

theorem ResumeRequest.answers_dump {resume : ResumeRequest}
    (h : resume.confirmed = true → resume.selection.isSome = true) : Answers (resume.dump codec) := by
  refine ⟨_, resume.confirmed, rfl, ?_, ?_⟩
  · cases resume.selection <;> simp [get]
  · intro hconfirmed
    obtain ⟨selection, hselection⟩ := Option.isSome_iff_exists.mp (h hconfirmed)
    refine ⟨dumpSelection codec selection, by simp [get, hselection], ?_⟩
    simp [dumpSelection, truthy]

theorem ChatRequest.Valid.oneAction_queued {request : ChatRequest} (h : request.Valid) :
    (request.queued codec).OneAction isBlank Answers := by
  have haction := h.action
  cases hresume : request.resume with
  | none =>
    rw [hresume, Option.isSome_none, ne_eq, Bool.not_eq_false, Option.any_eq_true] at haction
    obtain ⟨message, hmessage, htext⟩ := haction
    refine .inl ⟨?_, by rw [queued, hresume]; rfl⟩
    simpa [queued, hmessage] using htext
  | some resume =>
    rw [hresume, Option.isSome_some, ne_eq, Bool.not_eq_true] at haction
    refine .inr ⟨?_, resume.dump codec, by rw [queued, hresume]; rfl, rfl,
      resume.answers_dump (h.selection resume hresume)⟩
    cases hmessage : request.message with
    | none => simp [queued, hmessage, isBlank]
    | some message => simpa [queued, hmessage] using haction

theorem ChatRequest.dump_fields (codec : Codec) (request : ChatRequest) : ∃ members,
    request.dump codec = .object members ∧
      get members "user_id" = some (.string request.userId) ∧
      get members "session_id" = some (.string request.sessionId) ∧
      get members "message" = request.message.map Json.string ∧
      get members "resume" = request.resume.map (·.dump codec) := by
  refine ⟨_, rfl, ?_⟩
  cases request.message <;> cases request.resume <;> simp [get]

theorem ChatRequest.Valid.takes_dump {request : ChatRequest} (h : request.Valid) (service : JobService) :
    (Stack.langgraphPython service).Takes (some (request.dump codec)) request.userId request.sessionId
      (request.message.getD "") := by
  obtain ⟨members, hdump, huser, hsession, hmessage, hresume⟩ := request.dump_fields codec
  have htext : ((get members "message").bind Json.text).getD "" = request.message.getD "" := by
    rw [hmessage]
    cases request.message <;> rfl
  have hvalid : validateRequest (.object members) = .ok (request.queued codec) :=
    validateRequest_eq_ok.mpr ⟨members, rfl, ⟨huser, h.userId⟩, ⟨hsession, h.sessionId⟩, htext,
      hresume, h.oneAction_queued⟩
  have hstack : (Stack.langgraphPython service).validate (some (.object members)) =
      .ok (request.queued codec) := by
    rw [Stack.validate, hvalid]
  rw [hdump]
  exact Stack.takes_of_validate hstack

theorem valid_of_readChat {body : Json} {idempotencyKey : Option String} {request : ChatRequest}
    {key : String} (h : readChat codec body idempotencyKey = .ok (request, key)) : request.Valid := by
  rw [readChat] at h
  split at h
  · cases h
  · rename_i hvalid
    dsimp only at h
    split at h
    · cases h
    · cases h
      exact valid_of_validate hvalid

theorem queues_publish (id key : String) (payload : Json) :
    (JobService.publish id payload key).Uses (Op.Queues payload) :=
  (JobService.footprint_publish id payload key).uses.mono fun _ => Op.Publishes.queues

theorem queues_of_accepted {id : String} {body : Json} {idempotencyKey : Option String}
    {calls : List (Sigma Op.Reply)} {jobId : Option String} {status : String}
    (h : (publishChat codec id body idempotencyKey).Runs calls (.accepted jobId status)) :
    ∃ request key, readChat codec body idempotencyKey = .ok (request, key) ∧
      ∀ call ∈ calls, call.1.Queues (request.dump codec) := by
  rw [publishChat] at h
  cases hread : readChat codec body idempotencyKey with
  | error err =>
    rw [hread] at h
    cases h
  | ok read =>
    obtain ⟨request, key⟩ := read
    rw [hread] at h
    refine ⟨request, key, rfl, Prog.Uses.of_runs ?_ h⟩
    exact .bind (queues_publish id key _) fun _ => .ret _

end Python

theorem accepted_taken :
    (∀ (codec : Codec) (service : Service) (id : String) (body : Body) (header : String)
        (calls : List (Sigma Op.Reply)) (jobId : Option String) (status : String),
      (chat codec id body header).Runs calls (.accepted jobId status) →
      ∃ request key, readChat codec body header = .ok (request, key) ∧
        (∀ job reply, ⟨.publish job, reply⟩ ∈ calls → job.payload = some (request.marshal codec)) ∧
        (Stack.adkGo service).Takes (some (request.marshal codec)) request.userId request.sessionId
          request.message) ∧
    (∀ (codec : Python.Codec) (service : Python.JobService) (id : String) (body : Json)
        (idempotencyKey : Option String) (calls : List (Sigma Op.Reply)) (jobId : Option String)
        (status : String),
      (Python.publishChat codec id body idempotencyKey).Runs calls (.accepted jobId status) →
      ∃ request key, Python.readChat codec body idempotencyKey = .ok (request, key) ∧
        (∀ job reply, ⟨.publish job, reply⟩ ∈ calls → job.payload = some (request.dump codec)) ∧
        (Stack.langgraphPython service).Takes (some (request.dump codec)) request.userId
          request.sessionId (request.message.getD "")) := by
  constructor
  · intro codec service id body header calls jobId status hruns
    obtain ⟨request, key, hread, hqueues⟩ := queues_of_accepted hruns
    exact ⟨request, key, hread, fun job reply hmem => hqueues _ hmem job rfl,
      ChatRequest.takes_marshal (validate_of_readChat hread) service⟩
  · intro codec service id body idempotencyKey calls jobId status hruns
    obtain ⟨request, key, hread, hqueues⟩ := Python.queues_of_accepted hruns
    exact ⟨request, key, hread, fun job reply hmem => hqueues _ hmem job rfl,
      (Python.valid_of_readChat hread).takes_dump service⟩

namespace Sample

def chatBody : Json :=
  .object [("user_id", .string "u"), ("session_id", .string "s"), ("message", .string "hello")]

def chatJob : Job := { id := "job", payload := some chatBody }

def chatCalls : List (Sigma Op.Reply) :=
  [⟨.setJobStatus "job" .published, .ok ()⟩, ⟨.now, (0 : Int)⟩,
    ⟨.markJobTiming "job" .publishedMs 0, .ok ()⟩, ⟨.publish chatJob, .ok ()⟩]

def codec : Codec where
  uuid _ := .error "invalid UUID"
  decimal _ := .error "invalid decimal"
  uuidText := toString
  decimalText _ := "0"

def pythonCodec : Python.Codec where
  bool _ := .error "Input should be a valid boolean"
  uuid _ := .error "Input should be a valid UUID"
  decimal _ := .error "Input should be a valid decimal"
  uuidText := toString
  decimalText _ := "0"

theorem readChat_chatBody : readChat codec ⟨[chatBody], true⟩ "" =
    .ok ({ userId := "u", sessionId := "s", message := "hello" }, "") := by
  have hdecode : decodeChatRequest codec chatBody =
      .ok { userId := "u", sessionId := "s", message := "hello" } := by
    simp [decodeChatRequest, chatBody, decodeMembers, ChatRequest.set, valueField, chatString, Json.isNull]
  have hvalid : ChatRequest.validate { userId := "u", sessionId := "s", message := "hello" } = .ok () :=
    ChatRequest.validate_eq_ok.mpr ⟨by decide +kernel, by decide +kernel, .inl ⟨by decide +kernel, rfl⟩⟩
  have hkey : trim isSpace "" = "" := by decide +kernel
  simp [readChat, hdecode, hvalid, hkey]

theorem runs_chat :
    (chat codec "job" ⟨[chatBody], true⟩ "").Runs chatCalls (.accepted "job" "published") := by
  rw [chat, readChat_chatBody]
  exact .op (.op (.op (.op (.ret _))))

theorem pythonReadChat_chatBody : Python.readChat pythonCodec chatBody none =
    .ok ({ userId := "u", sessionId := "s", message := some "hello" }, "") := rfl

theorem runs_publishChat :
    (Python.publishChat pythonCodec "job" chatBody none).Runs chatCalls (.accepted "job" "published") := by
  rw [Python.publishChat, pythonReadChat_chatBody]
  exact .op (.op (.op (.op (.ret _))))

end Sample

theorem accepted_taken_sample :
    (Stack.adkGo Sample.service).Takes (some Sample.chatBody) "u" "s" "hello" ∧
      (Stack.langgraphPython {}).Takes (some Sample.chatBody) "u" "s" "hello" := by
  constructor
  · obtain ⟨request, key, hread, -, htakes⟩ := accepted_taken.1 Sample.codec Sample.service _ _ _ _ _ _
      Sample.runs_chat
    cases hread.symm.trans Sample.readChat_chatBody
    exact htakes
  · obtain ⟨request, key, hread, -, htakes⟩ := accepted_taken.2 Sample.pythonCodec {} _ _ _ _ _ _
      Sample.runs_publishChat
    cases hread.symm.trans Sample.pythonReadChat_chatBody
    exact htakes

end AgentsAtScale.Jobs
