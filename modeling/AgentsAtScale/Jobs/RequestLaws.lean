import Mathlib.Data.List.Basic
import AgentsAtScale.Jobs.PythonService

namespace AgentsAtScale.Jobs

theorem bind_eq_ok {x : Except ε α} {f : α → Except ε β} {b : β} :
    x.bind f = .ok b ↔ ∃ a, x = .ok a ∧ f a = .ok b := by
  cases x <;> simp [Except.bind]

theorem map_eq_ok {x : Except ε α} {f : α → β} {b : β} :
    x.map f = .ok b ↔ ∃ a, x = .ok a ∧ f a = b := by
  cases x <;> simp [Except.map]

theorem throw_eq_error (err : ε) : (throw err : Except ε α) = .error err := rfl

theorem pure_eq_ok (a : α) : (pure a : Except ε α) = .ok a := rfl

theorem foldl_last {f : α → γ} {g : β → Option γ} {step : α → β → α} {l : List β}
    (h : ∀ b ∈ l, ∀ a, f (step a b) = (g b).getD (f a)) (a : α) :
    f (l.foldl step a) = (l.reverse.findSome? g).getD (f a) := by
  induction l generalizing a with
  | nil => rfl
  | cons b l ih =>
    rw [List.foldl_cons, ih (fun b hb => h b (List.mem_cons_of_mem _ hb)), h b List.mem_cons_self,
      List.reverse_cons, List.findSome?_append]
    cases l.reverse.findSome? g with
    | some c => rfl
    | none => cases hb : g b <;> simp [hb]

theorem findSome?_map_getD (g : β → Option γ) (f : γ → Option δ) (l : List β) :
    (l.findSome? fun b => (g b).map f).getD none = (l.findSome? g).bind f := by
  change (l.findSome? (Option.map f ∘ g)).getD none = _
  rw [← List.map_findSome?]
  cases l.findSome? g <;> rfl

section

variable {set : α → String → Json → α × Option String} {err : String × Json → Option String}

theorem foldl_set (hset : ∀ a key value, (set a key value).2 = err (key, value))
    (members : List (String × Json)) (zero : α) (first : Option String) :
    members.foldl (fun acc m => ((set acc.1 m.1 m.2).1, acc.2.or (set acc.1 m.1 m.2).2)) (zero, first) =
      (members.foldl (fun a m => (set a m.1 m.2).1) zero, first.or (members.findSome? err)) := by
  induction members generalizing zero first with
  | nil => simp
  | cons m members ih =>
    rw [List.foldl_cons, ih, List.foldl_cons, List.findSome?_cons, hset]
    cases first with
    | some e => rfl
    | none => cases err m <;> rfl

theorem decodeMembers_eq_ok (hset : ∀ a key value, (set a key value).2 = err (key, value))
    {members : List (String × Json)} {zero a : α} :
    decodeMembers set members zero = .ok a ↔
      (∀ m ∈ members, err m = none) ∧ members.foldl (fun a m => (set a m.1 m.2).1) zero = a := by
  rw [decodeMembers, ← List.findSome?_eq_none_iff]
  generalize hacc : List.foldl _ _ _ = acc
  obtain rfl := hacc.symm.trans (foldl_set hset members zero none)
  rw [Option.none_or]
  cases members.findSome? err <;> simp

end

def Json.text : Json → Option String
  | .string s => some s
  | _ => none

def Json.isText : Json → Bool
  | .string _ => true
  | .null => true
  | _ => false

def Json.isFlag : Json → Bool
  | .bool _ => true
  | .null => true
  | _ => false

def Json.flag : Json → Option Bool
  | .bool b => some b
  | _ => none

def getFold (members : List (String × Json)) (field : String) : Option Json :=
  members.reverse.findSome? fun m => if foldKey m.1 = field then some m.2 else none

def getText (members : List (String × Json)) (field : String) : String :=
  (members.reverse.findSome? fun m => if foldKey m.1 = field then m.2.text else none).getD ""

namespace AgentRequest

def textFields : List String := ["user_id", "session_id", "message"]

def setError (m : String × Json) : Option String := (({} : AgentRequest).set m.1 m.2).2

theorem snd_set (request : AgentRequest) (key : String) (value : Json) :
    (request.set key value).2 = setError (key, value) := by
  simp only [setError, set]
  split
  · cases value <;> rfl
  · split
    · cases value <;> rfl
    · split
      · cases value <;> rfl
      · split <;> rfl

theorem setError_eq_none {m : String × Json} :
    setError m = none ↔ (foldKey m.1 ∈ textFields → m.2.isText = true) := by
  simp only [setError, set, textFields, List.mem_cons, List.not_mem_nil, or_false]
  split
  · cases m.2 <;> simp_all [stringField, Json.isText]
  · split
    · cases m.2 <;> simp_all [stringField, Json.isText]
    · split
      · cases m.2 <;> simp_all [stringField, Json.isText]
      · split <;> simp_all

theorem fst_stringField (field : String) (value : Json) (old : String) :
    (stringField field value old).1 = value.text.getD old := by
  cases value <;> rfl

theorem fst_set (request : AgentRequest) (m : String × Json) :
    (request.set m.1 m.2).1 =
      { userId := (if foldKey m.1 = "user_id" then m.2.text else none).getD request.userId
        sessionId := (if foldKey m.1 = "session_id" then m.2.text else none).getD request.sessionId
        message := (if foldKey m.1 = "message" then m.2.text else none).getD request.message
        resume := ((if foldKey m.1 = "resume" then some m.2 else none).map some).getD request.resume } := by
  simp only [set]
  split
  · rename_i hkey
    simp [hkey, fst_stringField]
  · split
    · rename_i hkey
      simp [hkey, fst_stringField]
    · split
      · rename_i hkey
        simp [hkey, fst_stringField]
      · split <;> simp [*]

theorem decode_object {members : List (String × Json)} {request : AgentRequest} :
    decodeAgentRequest (some (.object members)) = .ok request ↔
      (∀ m ∈ members, foldKey m.1 ∈ textFields → m.2.isText = true) ∧
      { userId := getText members "user_id"
        sessionId := getText members "session_id"
        message := getText members "message"
        resume := getFold members "resume" : AgentRequest } = request := by
  have hdecoded : members.foldl (fun a m => (set a m.1 m.2).1) ({} : AgentRequest) =
      { userId := getText members "user_id"
        sessionId := getText members "session_id"
        message := getText members "message"
        resume := getFold members "resume" } := by
    rw [AgentRequest.mk.injEq]
    refine ⟨?_, ?_, ?_, ?_⟩
    · exact foldl_last (f := userId) (fun m _ a => congrArg userId (fst_set a m)) {}
    · exact foldl_last (f := sessionId) (fun m _ a => congrArg sessionId (fst_set a m)) {}
    · exact foldl_last (f := message) (fun m _ a => congrArg message (fst_set a m)) {}
    · have hlast := foldl_last (f := resume) (fun m _ a => congrArg resume (fst_set a m)) {} (l := members)
      rw [hlast, findSome?_map_getD, Option.bind_fun_some]
      rfl
  rw [decodeAgentRequest, decodeMembers_eq_ok snd_set, hdecoded]
  simp only [setError_eq_none]

end AgentRequest

namespace ResumeResponse

def setError (m : String × Json) : Option String := (({} : ResumeResponse).set m.1 m.2).2

theorem snd_set (response : ResumeResponse) (key : String) (value : Json) :
    (response.set key value).2 = setError (key, value) := by
  simp only [setError, set]
  split
  · cases value <;> rfl
  · split <;> rfl

theorem setError_eq_none {m : String × Json} :
    setError m = none ↔ (foldKey m.1 = "confirmed" → m.2.isFlag = true) := by
  simp only [setError, set]
  split
  · cases m.2 <;> simp_all [Json.isFlag]
  · split <;> simp_all

theorem selection_set (response : ResumeResponse) (m : String × Json) :
    (response.set m.1 m.2).1.selection =
      ((if foldKey m.1 = "selection" then some m.2 else none).map some).getD response.selection := by
  simp only [set]
  split
  · rename_i hkey
    cases m.2 <;> simp [hkey]
  · split <;> simp [*]

theorem confirmed_set (response : ResumeResponse) {m : String × Json} (h : setError m = none) :
    (response.set m.1 m.2).1.confirmed =
      ((if foldKey m.1 = "confirmed" then some m.2 else none).map Json.flag).getD response.confirmed := by
  rw [setError_eq_none] at h
  simp only [set]
  split
  · rename_i hkey
    have hflag := h hkey
    cases hvalue : m.2 <;> simp_all [Json.flag, Json.isFlag]
  · split <;> simp [*]

theorem decode_object {members : List (String × Json)} {response : ResumeResponse} :
    decodeResumeResponse (.object members) = .ok response ↔
      (∀ m ∈ members, foldKey m.1 = "confirmed" → m.2.isFlag = true) ∧
      { confirmed := (getFold members "confirmed").bind Json.flag
        selection := getFold members "selection" : ResumeResponse } = response := by
  rw [decodeResumeResponse, decodeMembers_eq_ok snd_set]
  simp only [← setError_eq_none]
  refine and_congr_right fun herror => ?_
  have hconfirmed := foldl_last (f := confirmed) (l := members)
    (fun m hm a => confirmed_set a (m := m) (herror m hm)) {}
  have hselection := foldl_last (f := selection) (fun m _ a => selection_set a m) {} (l := members)
  rw [findSome?_map_getD] at hconfirmed hselection
  rw [Option.bind_fun_some] at hselection
  rw [show members.foldl (fun a m => (set a m.1 m.2).1) ({} : ResumeResponse) = ⟨_, _⟩ from
    (ResumeResponse.mk.injEq ..).mpr ⟨hconfirmed, hselection⟩]
  rfl

end ResumeResponse

def Answers (resume : Json) : Prop :=
  ∃ members confirmed, resume = .object members ∧
    (∀ m ∈ members, foldKey m.1 = "confirmed" → m.2.isFlag = true) ∧
    getFold members "confirmed" = some (.bool confirmed) ∧
    (confirmed = true → ∃ selection, getFold members "selection" = some selection ∧
      selection.isNull = false)

def Python.Answers (resume : Json) : Prop :=
  ∃ members confirmed, resume = .object members ∧
    get members "confirmed" = some (.bool confirmed) ∧
    (confirmed = true → ∃ selection, get members "selection" = some selection ∧
      truthy selection = true)

theorem isAbsent_eq_false {value : Option Json} :
    isAbsent value = false ↔ ∃ v, value = some v ∧ v.isNull = false := by
  cases value <;> simp [isAbsent]

theorem Json.flag_eq_some {value : Json} {b : Bool} : value.flag = some b ↔ value = .bool b := by
  cases value <;> simp [Json.flag]

theorem validateResume_eq_ok {resume : Json} (hnull : resume.isNull = false) :
    validateResume resume = .ok () ↔ Answers resume := by
  cases resume with
  | null => cases hnull
  | object members =>
    rw [validateResume]
    cases hdecoded : decodeResumeResponse (.object members) with
    | error err =>
      refine iff_of_false (by simp) ?_
      rintro ⟨_, confirmed, ⟨⟩, hflags, -⟩
      cases hdecoded.symm.trans (ResumeResponse.decode_object.mpr ⟨hflags, rfl⟩)
    | ok response =>
      obtain ⟨hflags, rfl⟩ := ResumeResponse.decode_object.mp hdecoded
      dsimp only
      constructor
      · intro h
        split at h
        · cases h
        · rename_i confirmed hconfirmed
          obtain ⟨value, hvalue, hflag⟩ := Option.bind_eq_some_iff.mp hconfirmed
          obtain rfl := Json.flag_eq_some.mp hflag
          refine ⟨members, confirmed, rfl, hflags, hvalue, ?_⟩
          rintro rfl
          exact isAbsent_eq_false.mp (by simpa using h)
      · rintro ⟨_, confirmed, ⟨⟩, -, hconfirmed, hselection⟩
        rw [hconfirmed]
        cases confirmed with
        | false => rfl
        | true => simp [Json.flag, isAbsent_eq_false.mpr (hselection rfl)]
  | _ =>
    refine iff_of_false (by simp [validateResume, decodeResumeResponse]) ?_
    rintro ⟨_, _, ⟨⟩, -⟩

theorem Python.validateResume_eq_ok {resume : Json} :
    validateResume resume = .ok () ↔ Answers resume := by
  cases resume with
  | object members =>
    rw [validateResume]
    constructor
    · intro h
      split at h
      · rename_i confirmed hconfirmed
        refine ⟨members, confirmed, rfl, hconfirmed, ?_⟩
        rintro rfl
        exact (Option.any_eq_true _ _).mp (by simpa using h)
      · cases h
    · rintro ⟨_, confirmed, ⟨⟩, hconfirmed, hselection⟩
      simp only [hconfirmed]
      cases confirmed with
      | false => rfl
      | true =>
        obtain ⟨selection, hget, htruthy⟩ := hselection rfl
        simp [hget, htruthy]
  | _ =>
    refine iff_of_false (by simp [validateResume]) ?_
    rintro ⟨_, _, ⟨⟩, -⟩

/-- The request of the message, or the answer: exactly one of them. -/
def AgentRequest.OneAction (blank : String → Bool) (answers : Json → Prop) (request : AgentRequest) : Prop :=
  blank request.message = false ∧ isAbsent request.resume = true ∨
    blank request.message = true ∧
      ∃ resume, request.resume = some resume ∧ resume.isNull = false ∧ answers resume

theorem validateAgentRequest_eq_ok {request : AgentRequest} :
    validateAgentRequest request = .ok () ↔
      isBlank request.userId = false ∧ isBlank request.sessionId = false ∧
        request.OneAction isBlank Answers := by
  rw [validateAgentRequest]
  cases isBlank request.userId with
  | true => simp
  | false =>
    cases isBlank request.sessionId with
    | true => simp
    | false =>
      simp only [Bool.false_eq_true, if_false, true_and, AgentRequest.OneAction]
      cases isBlank request.message with
      | false => cases isAbsent request.resume <;> simp
      | true =>
        cases hresume : request.resume with
        | none => simp [isAbsent]
        | some resume =>
          cases hnull : resume.isNull with
          | true => simp [isAbsent, hnull]
          | false => simp [isAbsent, hnull, validateResume_eq_ok hnull]

namespace Python

variable {members : List (String × Json)}

theorem requiredString_eq_ok {field value : String} :
    requiredString members field = .ok value ↔
      get members field = some (.string value) ∧ isBlank value = false := by
  constructor
  · intro h
    rw [requiredString] at h
    split at h
    · rename_i s hget
      split at h
      · cases h
      · rename_i hblank
        cases h
        exact ⟨hget, by simpa using hblank⟩
    · cases h
  · rintro ⟨hget, hblank⟩
    simp [requiredString, hget, hblank]

def validateAction (request : AgentRequest) : Except String AgentRequest := do
  if (!isBlank request.message) = (!isAbsent request.resume) then
    throw "exactly one of message or resume is required"
  if let some resume := request.resume then
    if !resume.isNull then validateResume resume
  return request

theorem validateRequest_object (members : List (String × Json)) :
    validateRequest (.object members) = (requiredString members "user_id").bind fun userId =>
      (requiredString members "session_id").bind fun sessionId =>
        validateAction
          { userId := userId
            sessionId := sessionId
            message := ((get members "message").bind Json.text).getD ""
            resume := get members "resume" } := by
  rw [validateRequest]
  cases get members "message" with
  | none => rfl
  | some value => cases value <;> rfl

theorem validateAction_eq_ok {request result : AgentRequest} :
    validateAction request = .ok result ↔ request.OneAction isBlank Answers ∧ request = result := by
  simp only [validateAction, AgentRequest.OneAction, bind, throw_eq_error, pure_eq_ok]
  cases hresume : request.resume with
  | none => cases isBlank request.message <;> simp [isAbsent, Except.bind]
  | some resume =>
    cases hnull : resume.isNull with
    | true => cases isBlank request.message <;> simp [isAbsent, hnull, Except.bind]
    | false =>
      cases isBlank request.message with
      | false => simp [isAbsent, hnull, Except.bind]
      | true => simp [isAbsent, hnull, bind_eq_ok, ← validateResume_eq_ok, Unique.exists_iff]

theorem validateRequest_eq_ok {payload : Json} {request : AgentRequest} :
    validateRequest payload = .ok request ↔ ∃ members, payload = .object members ∧
      (get members "user_id" = some (.string request.userId) ∧ isBlank request.userId = false) ∧
      (get members "session_id" = some (.string request.sessionId) ∧
        isBlank request.sessionId = false) ∧
      ((get members "message").bind Json.text).getD "" = request.message ∧
      get members "resume" = request.resume ∧ request.OneAction isBlank Answers := by
  cases payload with
  | object members =>
    rw [validateRequest_object]
    simp only [bind_eq_ok, requiredString_eq_ok, validateAction_eq_ok, Json.object.injEq]
    constructor
    · rintro ⟨userId, huser, sessionId, hsession, haction, rfl⟩
      exact ⟨members, rfl, huser, hsession, rfl, rfl, haction⟩
    · rintro ⟨_, rfl, huser, hsession, hmessage, hresume, haction⟩
      refine ⟨_, huser, _, hsession, ?_⟩
      rw [hmessage, hresume]
      exact ⟨haction, rfl⟩
  | _ =>
    refine iff_of_false (by simp [validateRequest]) ?_
    rintro ⟨_, ⟨⟩, -⟩

end Python

end AgentsAtScale.Jobs
