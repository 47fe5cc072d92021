import AgentsAtScale.Program.Trace
import AgentsAtScale.Jobs.Conversations
import AgentsAtScale.Jobs.RequestLaws
import AgentsAtScale.Jobs.Settlement

namespace AgentsAtScale.Jobs

open Program

mutual

def Json.outOfRange : Json → Option String
  | .number text => if (compareNumeral text (2 ^ 1024 - 2 ^ 970) 1).isLT then none else some text
  | .array items => itemsOutOfRange items
  | .object members => membersOutOfRange members
  | _ => none

def itemsOutOfRange : List Json → Option String
  | [] => none
  | item :: items => item.outOfRange.or (itemsOutOfRange items)

def membersOutOfRange : List (String × Json) → Option String
  | [] => none
  | (_, value) :: members => value.outOfRange.or (membersOutOfRange members)

end

def unmarshalAny (value : Json) : Except String Json :=
  match value.outOfRange with
  | none => .ok value
  | some text => .error ("json: cannot unmarshal number " ++ text ++ " into Go value of type float64")

def Op.invocation : Op → Option (Except String AgentCall)
  | .agent (.resume userId sessionId payload) =>
    some ((unmarshalAny payload).map (.resume userId sessionId))
  | .agent call => some (.ok call)
  | .invoke call => some (.ok call)
  | _ => none

def invocations (calls : List (Sigma Op.Reply)) : List (Except String AgentCall) :=
  calls.filterMap fun call => call.1.invocation

/-- The reply does not keep a worker from the agent: the job is not finished, its
conversation is free, and its start is recorded. -/
def clears : Sigma Op.Reply → Bool
  | ⟨.getJobStatus _, .ok status⟩ => !isTerminal status
  | ⟨.getJobStatus _, .error _⟩ => false
  | ⟨.acquireConversationLock _ _, .ok acquired⟩ => acquired
  | ⟨.acquireConversationLock _ _, .error _⟩ => false
  | ⟨.setJobStatus _ .processing, .error _⟩ => false
  | ⟨.markJobTiming _ _ _, .error _⟩ => false
  | ⟨.setJobTiming _ .attempts _, .error _⟩ => false
  | _ => true

def AgentRequest.validated (request : AgentRequest) : AgentCall :=
  match request.resume with
  | none => .run request.userId request.sessionId request.message
  | some resume =>
    if resume.isNull then .run request.userId request.sessionId request.message
    else .resume request.userId request.sessionId resume

namespace Stack

def validate : Stack → Option Json → Except String AgentRequest
  | .adkGo _, payload => do
    let request ← decodeAgentRequest payload
    validateAgentRequest request
    return request
  | .langgraphPython _, some payload => Python.validateRequest payload
  | .langgraphPython _, none => .error "missing payload"

theorem validate_adkGo {service : Service} {payload : Option Json} {request : AgentRequest} :
    (Stack.adkGo service).validate payload = .ok request ↔
      decodeAgentRequest payload = .ok request ∧ validateAgentRequest request = .ok () := by
  rw [validate]
  constructor
  · intro h
    obtain ⟨decoded, hdecoded, hrest⟩ := bind_eq_ok.mp h
    obtain ⟨⟨⟩, hchecked, ⟨⟩⟩ := bind_eq_ok.mp hrest
    exact ⟨hdecoded, hchecked⟩
  · rintro ⟨hdecoded, hchecked⟩
    exact bind_eq_ok.mpr ⟨request, hdecoded, bind_eq_ok.mpr ⟨(), hchecked, rfl⟩⟩

def process : Stack → Message → Task Unit
  | .adkGo service => service.process
  | .langgraphPython service => service.consume

def runner : Stack → Bool
  | .adkGo service => service.runner
  | .langgraphPython service => service.runner

def ask : Stack → AgentCall → Op
  | .adkGo _, call => .agent call
  | .langgraphPython _, call => .invoke call

end Stack

section

variable {job : Job} {request : AgentRequest} {calls : Calls}

abbrev Follows (t : Task α) (Q : Calls → α → Prop) (calls : Calls) : Prop :=
  t.wp (history fun _ _ => True) Q calls

def Waits (calls : Calls) : Prop := invocations calls = []

structure Stopped (calls : Calls) : Prop where
  waits : Waits calls
  kept : ∃ call ∈ calls, clears call = false

def Invoked (invoked : Except String AgentCall) (calls : Calls) : Prop :=
  invocations calls = [invoked] ∨ Stopped calls

theorem invocations_concat (call : Sigma Op.Reply) :
    invocations (calls ++ [call]) = invocations calls ++ call.1.invocation.toList := by
  rw [invocations, List.filterMap_append, invocations]
  cases hcall : call.1.invocation <;> simp [hcall]

theorem invocations_quiet {call : Sigma Op.Reply} (h : call.1.invocation = none) :
    invocations (calls ++ [call]) = invocations calls := by
  rw [invocations_concat, h]
  exact List.append_nil _

theorem Waits.concat {c : Sigma Op.Reply} (h : Waits calls) (hcall : c.1.invocation = none) :
    Waits (calls ++ [c]) := (invocations_quiet hcall).trans h

theorem Waits.stop {c : Sigma Op.Reply} (h : Waits calls) (hcall : c.1.invocation = none)
    (hclears : clears c = false) : Stopped (calls ++ [c]) :=
  ⟨h.concat hcall, c, by simp, hclears⟩

theorem Stopped.concat {call : Sigma Op.Reply} (h : Stopped calls) (hcall : call.1.invocation = none) :
    Stopped (calls ++ [call]) := by
  obtain ⟨stop, hmem, hstop⟩ := h.kept
  exact ⟨h.waits.concat hcall, stop, List.mem_append_left _ hmem, hstop⟩

theorem Invoked.concat {invoked : Except String AgentCall} {call : Sigma Op.Reply}
    (h : Invoked invoked calls) (hcall : call.1.invocation = none) : Invoked invoked (calls ++ [call]) :=
  h.imp (invocations_quiet hcall).trans fun h => h.concat hcall

theorem Op.Quiet.invocation {o : Op} (h : o.Quiet) : o.invocation = none := by
  cases o with
  | agent call => cases h.1
  | invoke call => cases h.1
  | _ => rfl

theorem Invoked.follows {invoked : Except String AgentCall} {t : Task α} (ht : Footprint Op.Quiet t)
    (h : Invoked invoked calls) : Follows t (fun calls _ => Invoked invoked calls) calls :=
  ht.uses.wp (M := history fun _ _ => True) (I := Invoked invoked) (fun _ _ _ _ => trivial)
    (fun _ _ _ ho h => Invoked.concat h ho.invocation) h

theorem Waits.invoke {o : Op} {r : o.Reply} {invoked : Except String AgentCall} (h : Waits calls)
    (ho : o.invocation = some invoked) : Invoked invoked (calls ++ [⟨o, r⟩]) := by
  refine .inl ?_
  rw [invocations_concat, ho, show invocations calls = [] from h]
  rfl

namespace Service

variable {s : Service} {invoked : Except String AgentCall}

theorem processUnfinished_eq (hrunner : s.runner = true)
    (hdecoded : decodeAgentRequest job.payload = .ok request)
    (hvalid : validateAgentRequest request = .ok ()) :
    s.processUnfinished job = s.processRequest job request := by
  simp [processUnfinished, hdecoded, hvalid, hrunner]

theorem runs_markStarted (job : Job) : (markStarted job).Runs
    [⟨.setJobStatus job.id .processing, .ok ()⟩, ⟨.now, (0 : Int)⟩,
      ⟨.markJobTiming job.id .startedMs 0, .ok ()⟩,
      ⟨.setJobTiming job.id .attempts (job.attempt + 1), .ok ()⟩] (.ok ()) :=
  .op (.op (.op (.op (.ret _))))

theorem issues_process (hid : isBlank job.id = false)
    (h : s.processUnfinished job = s.processRequest job request) :
    (s.process (.job job)).Issues (.agent request.call) := by
  have hlocked : (s.processLocked job request).Issues (.agent request.call) :=
    .bind_right (runs_markStarted job) (.here _)
  simp only [process, hid, Bool.false_eq_true, if_false]
  refine .there (.ok none) ?_
  change (s.processUnfinished job).Issues _
  rw [h]
  exact .there (.ok true) hlocked.bind_left

end Service

namespace Python.JobService

variable {s : JobService} {payload : Json} {invoked : Except String AgentCall}

theorem issues_consume (hrunner : s.runner = true) (hid : job.id ≠ "")
    (hpayload : job.payload = some payload) (hvalid : validateRequest payload = .ok request) :
    (s.consume (.job job)).Issues (.invoke request.call) := by
  have hlocked : (s.processLocked job request).Issues (.invoke request.call) :=
    .bind_right (Service.runs_markStarted job) (.here _)
  have hprocess : (s.process job payload).Issues (.invoke request.call) := by
    simp only [process, hvalid, hrunner, Bool.not_true, Bool.false_eq_true, if_false]
    exact .there (.ok none) (.there (.ok true) hlocked.bind_left)
  simp only [consume, hpayload, hid, if_false]
  exact hprocess.bind_left

end Python.JobService

end

theorem exists_clears (o : Op) : ∃ reply, clears ⟨o, reply⟩ = true := by
  cases o with
  | getJobStatus id => exact ⟨.ok none, rfl⟩
  | setIdempotencyKeyNX key id => exact ⟨.ok true, rfl⟩
  | getIdempotencyKey key => exact ⟨.ok none, rfl⟩
  | acquireConversationLock conversation token => exact ⟨.ok true, rfl⟩
  | agent call => exact ⟨[], rfl⟩
  | invoke call => exact ⟨.ok {}, rfl⟩
  | now => exact ⟨(0 : Int), rfl⟩
  | setJobStatus id status => cases status <;> exact ⟨.ok (), rfl⟩
  | setJobTiming id field value => cases field <;> exact ⟨.ok (), rfl⟩
  | _ => exact ⟨.ok (), rfl⟩

theorem exists_clear_runs (t : Task α) :
    ∃ calls a, t.Runs calls a ∧ ∀ call ∈ calls, clears call = true :=
  t.exists_runs_of (C := fun call => clears call = true) exists_clears

namespace Stack

variable {stack : Stack} {job : Job} {request : AgentRequest}

theorem id_ne_empty (hid : isBlank job.id = false) : job.id ≠ "" := by
  intro hempty
  rw [hempty] at hid
  cases hid

theorem exists_payload {service : Python.JobService}
    (hvalid : (Stack.langgraphPython service).validate job.payload = .ok request) :
    ∃ payload, job.payload = some payload ∧ Python.validateRequest payload = .ok request := by
  cases hpayload : job.payload with
  | none =>
    rw [hpayload] at hvalid
    cases hvalid
  | some payload =>
    rw [hpayload] at hvalid
    exact ⟨payload, rfl, hvalid⟩

theorem issues_ask (hrunner : stack.runner = true) (hid : isBlank job.id = false)
    (hvalid : stack.validate job.payload = .ok request) :
    (stack.process (.job job)).Issues (stack.ask request.call) := by
  cases stack with
  | adkGo service =>
    obtain ⟨hdecoded, hchecked⟩ := validate_adkGo.mp hvalid
    exact Service.issues_process hid (Service.processUnfinished_eq hrunner hdecoded hchecked)
  | langgraphPython service =>
    obtain ⟨payload, hpayload, hrequest⟩ := exists_payload hvalid
    exact Python.JobService.issues_consume hrunner (id_ne_empty hid) hpayload hrequest

end Stack

namespace Sample

def message (resume : Option Json) : AgentRequest :=
  { userId := "u", sessionId := "s", message := "hello", resume := resume }

end Sample

end AgentsAtScale.Jobs
