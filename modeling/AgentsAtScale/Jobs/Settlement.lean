import AgentsAtScale.Program.Trace
import AgentsAtScale.Jobs.SystemLaws

namespace AgentsAtScale.Jobs

open Program

abbrev Calls := List (Sigma Op.Reply)

/-- The job is safe without its delivery: its status was final already, its final status
was stored, or a copy went to a queue. -/
inductive Job.Safe (job : Job) : Sigma Op.Reply → Prop
  | read {status : Option Status} (h : isTerminal status) : Safe job ⟨.getJobStatus job.id, .ok status⟩
  | stored {status : Status} (h : status = .completed ∨ status = .waitingForConfirmation) :
      Safe job ⟨.setJobStatus job.id status, .ok ()⟩
  | retried (copy : Job) (level : Int) : Safe job ⟨.retry copy level, .ok ()⟩
  | dead (copy : Job) : Safe job ⟨.deadLetter copy, .ok ()⟩

def acquires (conversation token : String) : Sigma Op.Reply → Bool
  | ⟨.acquireConversationLock conversation' token', .ok true⟩ =>
    conversation' = conversation && token' = token
  | _ => false

def releases (conversation token : String) : Sigma Op.Reply → Bool
  | ⟨.releaseConversationLock conversation' token', _⟩ => conversation' = conversation && token' = token
  | _ => false

/-- What a call of `process` does with its delivery. -/
structure Settlement (message : Message) (calls : Calls) : Prop where
  once : calls.countP (·.1.settles) = 1
  sentOnce : calls.countP (·.1.job?.isSome) ≤ 1
  copy : ∀ call ∈ calls, ∀ copy, call.1.job? = some copy →
    ∃ job, message = .job job ∧ copy.id = job.id ∧ copy.payload = job.payload
  acked : ∀ before reply rest, calls = before ++ ⟨.ack, reply⟩ :: rest →
    ∃ job, message = .job job ∧ ∃ call ∈ before, job.Safe call
  requeued : ∀ before reply rest, calls = before ++ ⟨.nack true, reply⟩ :: rest →
    (∃ copy level err, ⟨.retry copy level, .error err⟩ ∈ before) ∧
      ∀ call ∈ calls, call.1.sends call.2 = false
  rejected : ∀ before reply rest, calls = before ++ ⟨.nack false, reply⟩ :: rest →
    (∃ err, message = .invalid err) ∨ (∃ job, message = .job job ∧ isBlank job.id) ∨
      ∃ copy err, ⟨.deadLetter copy, .error err⟩ ∈ before
  unlocked : ∀ conversation token,
    calls.countP (releases conversation token) = calls.countP (acquires conversation token) ∧
    ∀ before rest, calls = before ++ rest →
      before.countP (releases conversation token) ≤ before.countP (acquires conversation token)

structure Fresh (calls : Calls) : Prop where
  settled : calls.countP (·.1.settles) = 0
  sent : calls.countP (·.1.job?.isSome) = 0

structure Closed (calls : Calls) : Prop where
  settled : calls.countP (·.1.settles) = 1
  sent : calls.countP (·.1.job?.isSome) ≤ 1

def Job.MaySettle (job : Job) (calls : Calls) : Op → Prop
  | .ack => calls.countP (·.1.settles) = 0 ∧ ∃ call ∈ calls, job.Safe call
  | .nack true => (∃ copy level err, ⟨.retry copy level, .error err⟩ ∈ calls) ∧
    ∀ call ∈ calls, call.1.sends call.2 = false
  | .nack false => ∃ copy err, ⟨.deadLetter copy, .error err⟩ ∈ calls
  | .publish _ => False
  | .retry copy _ => Fresh calls ∧ copy.id = job.id ∧ copy.payload = job.payload
  | .deadLetter copy => Fresh calls ∧ copy.id = job.id ∧ copy.payload = job.payload
  | _ => True

section

variable {calls : Calls} {call : Sigma Op.Reply}

theorem fresh_nil : Fresh [] := ⟨rfl, rfl⟩

theorem countP_concat {P : Sigma Op.Reply → Bool} (h : P call = false) :
    (calls ++ [call]).countP P = calls.countP P := by
  simp [List.countP_append, h]

theorem Fresh.concat (h : Fresh calls) (call : Sigma Op.Reply) (hsettles : call.1.settles = false)
    (hjob : call.1.job?.isSome = false) : Fresh (calls ++ [call]) :=
  ⟨(countP_concat hsettles).trans h.settled, (countP_concat hjob).trans h.sent⟩

theorem sends_of_job? {o : Op} (reply : o.Reply) (h : o.job? = none) : o.sends reply = false := by
  cases o <;> first | rfl | cases h

theorem Fresh.sends_eq_false (h : Fresh calls) (hcall : call ∈ calls) :
    call.1.sends call.2 = false := by
  have hjob := List.countP_eq_zero.mp h.sent call hcall
  exact sends_of_job? call.2 (by simpa using hjob)

structure Sent (calls : Calls) : Prop where
  settled : calls.countP (·.1.settles) = 0
  sent : calls.countP (·.1.job?.isSome) ≤ 1

theorem Fresh.toSent (h : Fresh calls) : Sent calls := ⟨h.settled, by simp [h.sent]⟩

theorem Fresh.send (h : Fresh calls) (call : Sigma Op.Reply) (hsettles : call.1.settles = false) :
    Sent (calls ++ [call]) := by
  constructor
  · exact (countP_concat hsettles).trans h.settled
  · rw [List.countP_append, h.sent, Nat.zero_add]
    exact List.countP_le_length

theorem Sent.settle (h : Sent calls) (call : Sigma Op.Reply) (hsettles : call.1.settles = true)
    (hjob : call.1.job?.isSome = false) : Closed (calls ++ [call]) := by
  constructor
  · simp [List.countP_append, h.settled, hsettles]
  · rw [countP_concat hjob]
    exact h.sent

end

namespace Service

variable {s : Service} {job job' : Job} {calls : Calls}

abbrev Settles (job : Job) (calls : Calls) (t : Task Unit) : Prop :=
  t.wp (history job.MaySettle) (fun calls' _ => Closed calls') calls

theorem settles_ack (h : Sent calls) {call : Sigma Op.Reply} (hcall : call ∈ calls)
    (hsafe : job.Safe call) : Settles job calls ack :=
  ⟨⟨h.settled, call, hcall, hsafe⟩, fun _ _ => h.settle _ rfl rfl⟩

theorem settles_nack {requeue : Bool} (h : Sent calls) (hallowed : job.MaySettle calls (.nack requeue)) :
    Settles job calls (nack requeue) :=
  ⟨hallowed, fun _ _ => h.settle _ rfl rfl⟩

theorem settles_delay {level : Int} (h : Fresh calls) (hid : job'.id = job.id)
    (hpayload : job'.payload = job.payload) : Settles job calls (delay job' level) := by
  refine ⟨⟨h, hid, hpayload⟩, fun reply _ => ?_⟩
  have hsent := h.send ⟨.retry job' level, reply⟩ rfl
  cases reply with
  | error err =>
    refine settles_nack hsent ⟨⟨job', level, err, by simp⟩, fun call hcall => ?_⟩
    obtain hcall | hcall := List.mem_append.mp hcall
    · exact h.sends_eq_false hcall
    · cases List.mem_singleton.mp hcall
      rfl
  | ok _ => exact settles_ack hsent (by simp) (.retried job' level)

theorem settles_deadLetter {err : String} (h : Fresh calls) (hid : job'.id = job.id)
    (hpayload : job'.payload = job.payload) : Settles job calls (deadLetter job' err) := by
  refine ⟨trivial, fun status _ => ⟨trivial, fun ms _ => ⟨trivial, fun timing _ => ?_⟩⟩⟩
  have hfresh := ((h.concat ⟨.setJobStatus job'.id .failed, status⟩ rfl rfl).concat ⟨.now, ms⟩ rfl rfl).concat
    ⟨.setJobTiming job'.id .finishedMs ms, timing⟩ rfl rfl
  refine ⟨⟨hfresh, hid, hpayload⟩, fun reply _ => ?_⟩
  have hsent := hfresh.send ⟨.deadLetter { job' with error := err }, reply⟩ rfl
  cases reply with
  | error cause => exact settles_nack hsent ⟨{ job' with error := err }, cause, by simp⟩
  | ok _ => exact settles_ack hsent (List.mem_concat_self) (.dead { job' with error := err })

theorem settles_retry {err : String} (h : Fresh calls) : Settles job calls (s.retry job err) := by
  simp only [retry]
  split
  · exact settles_deadLetter h rfl rfl
  · refine ⟨trivial, fun reply _ => ?_⟩
    exact settles_delay (h.concat ⟨.setJobStatus job.id .retrying, reply⟩ rfl rfl) rfl rfl

abbrev Prepares (job : Job) (calls : Calls) (t : Task α) : Prop :=
  t.wp (history job.MaySettle) (fun calls' _ => Fresh calls') calls

theorem prepares_markStarted (h : Fresh calls) : Prepares job calls (markStarted job) := by
  refine ⟨trivial, fun status _ => ?_⟩
  have hstatus := h.concat ⟨.setJobStatus job.id .processing, status⟩ rfl rfl
  cases status with
  | error err => exact hstatus
  | ok _ =>
    refine ⟨trivial, fun ms _ => ⟨trivial, fun started _ => ?_⟩⟩
    have hstarted := (hstatus.concat ⟨.now, ms⟩ rfl rfl).concat
      ⟨.markJobTiming job.id .startedMs ms, started⟩ rfl rfl
    cases started with
    | error err => exact hstarted
    | ok _ =>
      refine ⟨trivial, fun attempts _ => ?_⟩
      exact hstarted.concat ⟨.setJobTiming job.id .attempts (job.attempt + 1), attempts⟩ rfl rfl

theorem prepares_run {request : AgentRequest} (h : Fresh calls) : Prepares job calls (run request) :=
  ⟨trivial, fun events _ => h.concat ⟨.agent request.call, events⟩ rfl rfl⟩

def Finishes (job : Job) (calls : Calls) (result : Except String Unit) : Prop :=
  Fresh calls ∧ (result = .ok () → ∃ call ∈ calls, job.Safe call)

theorem finishes_finishWith {status : Status} (h : Fresh calls)
    (hstatus : status = .completed ∨ status = .waitingForConfirmation) :
    (finishWith job status).wp (history job.MaySettle) (Finishes job) calls := by
  refine ⟨trivial, fun ms _ => ⟨trivial, fun timing _ => ?_⟩⟩
  have htiming := (h.concat ⟨.now, ms⟩ rfl rfl).concat ⟨.setJobTiming job.id .finishedMs ms, timing⟩ rfl rfl
  cases timing with
  | error err => exact ⟨htiming, nofun⟩
  | ok _ =>
    refine ⟨trivial, fun stored _ => ⟨htiming.concat ⟨.setJobStatus job.id status, stored⟩ rfl rfl, ?_⟩⟩
    rintro rfl
    exact ⟨_, List.mem_concat_self, .stored hstatus⟩

theorem finishes_finish {request : AgentRequest} {requested : Option RequestInput} (h : Fresh calls) :
    (finish job request requested).wp (history job.MaySettle) (Finishes job) calls := by
  cases requested with
  | none => exact finishes_finishWith h (.inl rfl)
  | some input =>
    refine ⟨trivial, fun metadata _ => ?_⟩
    have hmetadata : Fresh (calls ++ [⟨.setJobMetadata job.id _, metadata⟩]) := h.concat _ rfl rfl
    cases metadata with
    | error err => exact ⟨hmetadata, nofun⟩
    | ok _ => exact finishes_finishWith hmetadata (.inr rfl)

theorem settles_processLocked {request : AgentRequest} (h : Fresh calls) :
    Settles job calls (s.processLocked job request) := by
  apply Prog.wp_bind _ _ _ (prepares_markStarted h)
  intro calls₁ started h₁
  cases started with
  | error err => exact settles_retry h₁
  | ok _ =>
    apply Prog.wp_bind _ _ _ (prepares_run h₁)
    rintro calls₂ ⟨requested, runErr⟩ h₂
    cases runErr with
    | some err =>
      dsimp only
      split
      · exact settles_deadLetter h₂ rfl rfl
      · exact settles_retry h₂
    | none =>
      apply Prog.wp_bind _ _ _ (finishes_finish h₂)
      rintro calls₃ finished ⟨h₃, hstored⟩
      cases finished with
      | error err => exact settles_retry h₃
      | ok _ =>
        obtain ⟨call, hcall, hsafe⟩ := hstored rfl
        exact settles_ack h₃.toSent hcall hsafe

theorem settles_processRequest {request : AgentRequest} (h : Fresh calls) :
    Settles job calls (s.processRequest job request) := by
  refine ⟨trivial, fun acquired _ => ?_⟩
  have hacquired := h.concat ⟨.acquireConversationLock request.conversation job.id, acquired⟩ rfl rfl
  match acquired with
  | .error err => exact settles_retry hacquired
  | .ok false => exact settles_delay hacquired rfl rfl
  | .ok true =>
    apply Prog.wp_bind _ _ _ (settles_processLocked hacquired)
    intro calls' _ hclosed
    refine ⟨trivial, fun reply _ => ⟨?_, ?_⟩⟩
    · exact (countP_concat rfl).trans hclosed.settled
    · rw [countP_concat rfl]
      exact hclosed.sent

theorem settles_processUnfinished (h : Fresh calls) :
    Settles job calls (s.processUnfinished job) := by
  unfold processUnfinished
  split
  · exact settles_deadLetter h rfl rfl
  · split
    · exact settles_deadLetter h rfl rfl
    · split
      · exact settles_deadLetter h rfl rfl
      · exact settles_processRequest h

theorem settles_process (hid : isBlank job.id = false) : Settles job [] (s.process (.job job)) := by
  simp only [process, hid, Bool.false_eq_true, if_false]
  refine ⟨trivial, fun status _ => ?_⟩
  have hread := fresh_nil.concat ⟨.getJobStatus job.id, status⟩ rfl rfl
  cases status with
  | error err => exact settles_retry hread
  | ok status =>
    change Settles job _ (if isTerminal status then ack else s.processUnfinished job)
    split
    · rename_i hterminal
      exact settles_ack hread.toSent List.mem_concat_self (.read hterminal)
    · exact settles_processUnfinished hread

theorem acquires_eq {conversation token : String}
    (h : (monitor (job.Allowed s)).Obeyed {} calls) :
    calls.countP (acquires conversation token) = calls.countP (releases conversation token) +
      if ((monitor (job.Allowed s)).after {} calls).held = some conversation ∧ job.id = token then 1
      else 0 := by
  refine h.invariant (I := fun calls (p : Progress) => calls.countP (acquires conversation token) =
    calls.countP (releases conversation token) +
      if p.held = some conversation ∧ job.id = token then 1 else 0) rfl ?_
  rintro calls (p : Progress) ⟨o, reply⟩ ih hallowed
  rw [List.countP_append, List.countP_append, ih]
  cases o with
  | acquireConversationLock conversation' token' =>
    obtain ⟨rfl, hheld, -⟩ := hallowed
    cases reply with
    | error err => simp [acquires, releases, Progress.next, hheld]
    | ok acquired => cases acquired <;> simp [acquires, releases, Progress.next, hheld]
  | releaseConversationLock conversation' token' =>
    obtain ⟨rfl, hheld⟩ := hallowed
    simp [acquires, releases, Progress.next, hheld]
  | _ =>
    rw [Progress.held_next reply (by rintro _ _ ⟨⟩) (by rintro _ _ ⟨⟩)]
    simp [acquires, releases]

theorem job?_of_maySettle {o : Op} {copy : Job} (h : job.MaySettle calls o)
    (hcopy : o.job? = some copy) : Fresh calls ∧ copy.id = job.id ∧ copy.payload = job.payload := by
  cases o with
  | publish _ => exact h.elim
  | retry _ _ =>
    cases hcopy
    exact h
  | deadLetter _ =>
    cases hcopy
    exact h
  | _ => cases hcopy

theorem sends_of_settled {before rest : Calls} {settling call : Sigma Op.Reply}
    (h : ∀ before call rest, calls = before ++ call :: rest → job.MaySettle before call.1)
    (hcalls : calls = before ++ settling :: rest) (hsettles : settling.1.settles = true)
    (hcall : call ∈ rest) : call.1.sends call.2 = false := by
  obtain ⟨before', rest', rfl⟩ := List.append_of_mem hcall
  have hallowed := h (before ++ settling :: before') call rest' (by simp [hcalls])
  cases hjob : call.1.job? with
  | none => exact sends_of_job? call.2 hjob
  | some copy =>
    obtain ⟨hfresh, -⟩ := job?_of_maySettle hallowed hjob
    have hsettled := List.countP_eq_zero.mp hfresh.settled settling (by simp)
    exact absurd hsettles hsettled

theorem settlement_reject {message : Message} {reply : Op.Reply (.nack false)}
    (h : (∃ err, message = .invalid err) ∨ ∃ job, message = .job job ∧ isBlank job.id) :
    Settlement message [⟨.nack false, reply⟩] := by
  constructor
  · rfl
  · exact Nat.zero_le 1
  · intro call hcall copy hcopy
    cases List.mem_singleton.mp hcall
    cases hcopy
  · intro before reply rest heq
    cases before with
    | nil => cases heq
    | cons call before => cases before <;> cases heq
  · intro before reply rest heq
    cases before with
    | nil => cases heq
    | cons call before => cases before <;> cases heq
  · exact fun _ _ _ _ => h.elim .inl fun h => .inr (.inl h)
  · intro conversation token
    refine ⟨rfl, fun before rest heq => ?_⟩
    cases before with
    | nil => exact Nat.le_refl 0
    | cons call before =>
      cases before <;> cases heq
      exact Nat.le_refl 0

theorem settlement_process (hid : isBlank job.id = false)
    (h : (s.process (.job job)).Runs calls ()) : Settlement (.job job) calls := by
  -- one monitor watches what settles and what sends, the other one the lock
  obtain ⟨hobeyed, hclosed⟩ := Monitor.obeyed_of_runs (fun _ _ _ => trivial) (settles_process hid) h
  obtain ⟨hlocked, hheld, -⟩ := Monitor.obeyed_of_runs (fun _ _ _ => trivial) (wp_processJob hid) h
  rw [after_history] at hclosed
  have hallowed : ∀ before call rest, calls = before ++ call :: rest → job.MaySettle before call.1 := by
    intro before call rest hcalls
    have hbefore := hobeyed before call rest hcalls
    rw [after_history] at hbefore
    exact hbefore
  constructor
  case once => exact hclosed.settled
  case sentOnce => exact hclosed.sent
  case copy =>
    intro call hcall copy hcopy
    obtain ⟨before, rest, hcalls⟩ := List.append_of_mem hcall
    exact ⟨job, rfl, (job?_of_maySettle (hallowed before call rest hcalls) hcopy).2⟩
  case acked =>
    intro before reply rest hcalls
    exact ⟨job, rfl, (hallowed before _ rest hcalls).2⟩
  case requeued =>
    intro before reply rest hcalls
    obtain ⟨hfailed, hsent⟩ := hallowed before _ rest hcalls
    refine ⟨hfailed, fun call hcall => ?_⟩
    rw [hcalls] at hcall
    obtain hcall | hcall := List.mem_append.mp hcall
    · exact hsent call hcall
    · obtain rfl | hcall := List.mem_cons.mp hcall
      · rfl
      · exact sends_of_settled hallowed hcalls rfl hcall
  case rejected =>
    intro before reply rest hcalls
    exact .inr (.inr (hallowed before _ rest hcalls))
  case unlocked =>
    intro conversation token
    refine ⟨?_, fun before rest hcalls => ?_⟩
    · rw [acquires_eq hlocked, hheld]
      simp
    · subst hcalls
      rw [acquires_eq hlocked.of_append]
      exact Nat.le_add_right _ _

theorem process_settles (s : Service) (message : Message) (calls : Calls)
    (h : (s.process message).Runs calls ()) : Settlement message calls := by
  have rejects {message : Message} (hreject : reject.Runs calls ())
      (hbad : (∃ err, message = .invalid err) ∨ ∃ job, message = .job job ∧ isBlank job.id) :
      Settlement message calls := by
    cases hreject with
    | op hreject =>
      cases hreject
      exact settlement_reject hbad
  cases message with
  | invalid err => exact rejects h (.inl ⟨err, rfl⟩)
  | job job =>
    cases hid : isBlank job.id with
    | true =>
      simp only [process, hid, if_true] at h
      exact rejects h (.inr ⟨job, rfl, hid⟩)
    | false => exact settlement_process hid h

end Service

namespace Sample

def job : Job := Service.newJob "job" (some payload)

def request : AgentRequest := { userId := "u", sessionId := "s", message := "hello" }

theorem decode_payload : decodeAgentRequest (some payload) = .ok request := by
  simp [decodeAgentRequest, decodeMembers, payload, request, AgentRequest.set, stringField]

theorem processUnfinished_job : service.processUnfinished job = service.processRequest job request := by
  have hvalid : validateAgentRequest request = .ok () := by decide +kernel
  have hpayload : decodeAgentRequest job.payload = .ok request := decode_payload
  unfold Service.processUnfinished
  simp [hpayload, hvalid, service, Service.new]

def completing : Calls :=
  [⟨.getJobStatus "job", .ok (some .published)⟩,
    ⟨.acquireConversationLock "u:s" "job", .ok true⟩,
    ⟨.setJobStatus "job" .processing, .ok ()⟩,
    ⟨.now, (0 : Int)⟩,
    ⟨.markJobTiming "job" .startedMs 0, .ok ()⟩,
    ⟨.setJobTiming "job" .attempts 1, .ok ()⟩,
    ⟨.agent (.run "u" "s" "hello"), []⟩,
    ⟨.now, (1 : Int)⟩,
    ⟨.setJobTiming "job" .finishedMs 1, .ok ()⟩,
    ⟨.setJobStatus "job" .completed, .ok ()⟩,
    ⟨.ack, .ok ()⟩,
    ⟨.releaseConversationLock "u:s" "job", .ok ()⟩]

end Sample

theorem process_settles_sample :
    (Sample.service.process (.job Sample.job)).Runs Sample.completing () ∧
      Settlement (.job Sample.job) Sample.completing := by
  have hrequest : (Sample.service.processRequest Sample.job Sample.request).Runs
      Sample.completing.tail () :=
    .op (.op (.op (.op (.op (.op (.op (.op (.op (.op (.op (.ret ())))))))))))
  have hruns : (Sample.service.process (.job Sample.job)).Runs Sample.completing () := by
    refine .op ?_
    change (Sample.service.processUnfinished Sample.job).Runs Sample.completing.tail ()
    rw [Sample.processUnfinished_job]
    exact hrequest
  exact ⟨hruns, Service.process_settles _ _ _ hruns⟩

end AgentsAtScale.Jobs
