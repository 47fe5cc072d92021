import Mathlib.Algebra.Group.Nat.Defs

namespace AgentsAtScale.Jobs

inductive Json
  | null
  | bool (value : Bool)
  | number (text : String)
  | string (value : String)
  | array (items : List Json)
  | object (members : List (String × Json))

def Json.kind : Json → String
  | .null => "null"
  | .bool _ => "bool"
  | .number _ => "number"
  | .string _ => "string"
  | .array _ => "array"
  | .object _ => "object"

def Json.isNull : Json → Bool
  | .null => true
  | _ => false

def digits (text : List Char) : Nat :=
  text.foldl (fun n c => if c.isDigit then 10 * n + (c.toNat - 48) else n) 0

/-- The digits of a JSON number, without its sign, and the power of ten they stand at. -/
def numeral (text : String) : Nat × Int :=
  let (mantissa, rest) := text.toList.span fun c => c ≠ 'e' && c ≠ 'E'
  let exponent : Int := if rest.contains '-' then -(digits rest : Int) else digits rest
  let decimals := (mantissa.dropWhile (· ≠ '.')).tail.length
  (digits mantissa, exponent - decimals)

def compareNumeral (text : String) (numerator denominator : Nat) : Ordering :=
  let (mantissa, exponent) := numeral text
  compare (mantissa * 10 ^ exponent.toNat * denominator) (numerator * 10 ^ (-exponent).toNat)

def isSpace (c : Char) : Bool :=
  c.toNat ∈ [0x09, 0x0a, 0x0b, 0x0c, 0x0d, 0x20, 0x85, 0xa0, 0x1680, 0x2028, 0x2029, 0x202f, 0x205f,
    0x3000] || (0x2000 ≤ c.toNat && c.toNat ≤ 0x200a)

def isBlank (s : String) : Bool := s.toList.all isSpace

def trim (space : Char → Bool) (s : String) : String :=
  .ofList (((s.toList.dropWhile space).reverse.dropWhile space).reverse)

def foldKey (key : String) : String :=
  key.map fun c =>
    if c.toNat = 0x17f then 's' else if c.toNat = 0x212a then 'k' else c.toLower

@[simp] theorem foldKey_user_id : foldKey "user_id" = "user_id" := by decide +kernel
@[simp] theorem foldKey_session_id : foldKey "session_id" = "session_id" := by decide +kernel
@[simp] theorem foldKey_message : foldKey "message" = "message" := by decide +kernel
@[simp] theorem foldKey_resume : foldKey "resume" = "resume" := by decide +kernel
@[simp] theorem foldKey_confirmed : foldKey "confirmed" = "confirmed" := by decide +kernel
@[simp] theorem foldKey_selection : foldKey "selection" = "selection" := by decide +kernel

def typeError (value : Json) (target : String) : String :=
  "json: cannot unmarshal " ++ value.kind ++ " into Go " ++ target

structure AgentRequest where
  userId : String := ""
  sessionId : String := ""
  message : String := ""
  resume : Option Json := none

/-- A JSON null leaves the field as it is; the first error is kept. -/
def stringField (field : String) (value : Json) (old : String) : String × Option String :=
  match value with
  | .string s => (s, none)
  | .null => (old, none)
  | value => (old, some (typeError value ("struct field AgentRequest." ++ field ++ " of type string")))

def AgentRequest.set (request : AgentRequest) (key : String) (value : Json) :
    AgentRequest × Option String :=
  if foldKey key = "user_id" then
    let (s, err) := stringField "user_id" value request.userId
    ({ request with userId := s }, err)
  else if foldKey key = "session_id" then
    let (s, err) := stringField "session_id" value request.sessionId
    ({ request with sessionId := s }, err)
  else if foldKey key = "message" then
    let (s, err) := stringField "message" value request.message
    ({ request with message := s }, err)
  else if foldKey key = "resume" then ({ request with resume := some value }, none)
  else (request, none)

def decodeMembers (set : α → String → Json → α × Option String) (members : List (String × Json))
    (zero : α) : Except String α :=
  let (a, err) := members.foldl (fun (a, err) (key, value) =>
    let (a, err') := set a key value
    (a, err.or err')) (zero, none)
  match err with
  | none => .ok a
  | some err => .error err

/-- `json.Unmarshal(job.Payload, &request)`; the payload of an envelope without
one is empty. -/
def decodeAgentRequest : Option Json → Except String AgentRequest
  | none => .error "unexpected end of JSON input"
  | some .null => .ok {}
  | some (.object members) => decodeMembers AgentRequest.set members {}
  | some value => .error (typeError value "value of type jobs.AgentRequest")

structure ResumeResponse where
  confirmed : Option Bool := none
  selection : Option Json := none

def ResumeResponse.set (response : ResumeResponse) (key : String) (value : Json) :
    ResumeResponse × Option String :=
  if foldKey key = "confirmed" then
    match value with
    | .bool b => ({ response with confirmed := some b }, none)
    | .null => ({ response with confirmed := none }, none)
    | value => (response, some (typeError value "struct field .confirmed of type bool"))
  else if foldKey key = "selection" then ({ response with selection := some value }, none)
  else (response, none)

def decodeResumeResponse : Json → Except String ResumeResponse
  | .null => .ok {}
  | .object members => decodeMembers ResumeResponse.set members {}
  | value => .error (typeError value ("value of type struct \x7b Confirmed *bool " ++
      "\"json:\\\"confirmed\\\"\"; Selection json.RawMessage \"json:\\\"selection\\\"\" \x7d"))

def isAbsent : Option Json → Bool
  | none => true
  | some value => value.isNull

def validateResume (payload : Json) : Except String Unit :=
  match decodeResumeResponse payload with
  | .error err => .error ("resume must be a JSON object: " ++ err)
  | .ok response =>
    match response.confirmed with
    | none => .error "resume.confirmed is required"
    | some confirmed =>
      if confirmed && isAbsent response.selection then
        .error "resume.selection is required when confirmed"
      else .ok ()

def validateAgentRequest (request : AgentRequest) : Except String Unit :=
  let hasMessage := !isBlank request.message
  let hasResume := !isAbsent request.resume
  if isBlank request.userId then .error "user_id is required"
  else if isBlank request.sessionId then .error "session_id is required"
  else if hasMessage = hasResume then .error "exactly one of message or resume is required"
  else
    match hasResume, request.resume with
    | true, some resume => validateResume resume
    | _, _ => .ok ()

def AgentRequest.conversation (request : AgentRequest) : String :=
  request.userId ++ ":" ++ request.sessionId

end AgentsAtScale.Jobs
