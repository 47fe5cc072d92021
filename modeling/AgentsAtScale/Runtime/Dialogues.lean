import AgentsAtScale.Jobs.Hosting
import AgentsAtScale.Runtime.Pending

namespace AgentsAtScale.Runtime

open Jobs Transition

inductive RunStage
  | found (interruptID : String)
  | running

inductive RunEvent
  | get (err : Option String)
  | append (err : Option String)
  | emit (event : Event)
  | finish (events : List AgentEvent)

def Event.answered (event : Event) : List String :=
  match event.content with
  | some content => content.parts.filterMap fun part => (part.bind (·.functionResponse)).map (·.id)
  | none => []

def returnError (err : AgentError) : Turn RunStage := .returns (.events [{ err := some err }])

/-- `AgentRunner.Resume` and `Run`, step by step.  The nodes answer no interrupt. -/
def actRunner : AgentCall → Log → Option RunStage → RunEvent → Option (Log × Turn RunStage)
  | .resume _ _ _, log, none, .get err =>
    let events := match err with
      | some err => .error err
      | none => .ok log
    match lookupInterrupt events with
    | .error err => some (log, returnError err)
    | .ok id => some (log, .goesOn (.found id))
  | .resume _ _ payload, log, some (.found id), .append err =>
    match err with
    | some err => some (log, returnError { message := err })
    | none => some (log ++ [some (answerEvent id payload)], .goesOn .running)
  | .run _ _ message, log, none, .append err =>
    match err with
    | some err => some (log, returnError { message := err })
    | none => some (log ++ [some (messageEvent message)], .goesOn .running)
  | _, log, some .running, .emit event =>
    if event.answered.isEmpty then some (log ++ [some event], .goesOn .running) else none
  | _, log, some .running, .finish events => some (log, .returns (.events events))
  | _, _, _, _ => none

def sessionKey : AgentCall → String × String
  | .run userId sessionId _ => (userId, sessionId)
  | .resume userId sessionId _ => (userId, sessionId)

def runner : Host (String × String) Log RunStage RunEvent where
  key := sessionKey
  act := actRunner

theorem runner_separates : runner.Separates := by
  intro call call' hkey
  have hconversation (call : AgentCall) :
      call.conversation = (sessionKey call).1 ++ ":" ++ (sessionKey call).2 := by
    cases call <;> rfl
  rw [hconversation, hconversation]
  exact congrArg (fun key => key.1 ++ ":" ++ key.2) hkey

/-- Every answer in the log answers a request that nothing before it answers. -/
def Awaited (log : Log) : Prop :=
  ∀ before event after id, log = before ++ some event :: after → event.Answers id → Unanswered before id

section

variable {log : Log} {event : Event} {id : String}

theorem mem_answered : id ∈ event.answered ↔ event.Answers id := by
  unfold Event.answered Event.Answers
  cases event.content with
  | none => simp
  | some content =>
    simp only [List.mem_filterMap, Option.map_eq_some_iff, Option.bind_eq_some_iff]
    constructor
    · rintro ⟨_, hmem, response, ⟨part, rfl, hresponse⟩, rfl⟩
      exact ⟨content, part, response, rfl, hmem, hresponse, rfl⟩
    · rintro ⟨_, part, response, ⟨⟩, hmem, hresponse, rfl⟩
      exact ⟨some part, hmem, response, ⟨part, rfl, hresponse⟩, rfl⟩

theorem Awaited.append (h : Awaited log) (hnew : ∀ id, event.Answers id → Unanswered log id) :
    Awaited (log ++ [some event]) := by
  intro before event' after id hlog hanswers
  obtain rfl | ⟨after, last, rfl⟩ := List.eq_nil_or_concat after
  · obtain ⟨rfl, hlast⟩ := List.append_inj' hlog rfl
    cases hlast
    exact hnew id hanswers
  · rw [List.concat_eq_append, ← List.cons_append, ← List.append_assoc] at hlog
    obtain ⟨hlog, -⟩ := List.append_inj' hlog rfl
    exact h before event' after id hlog hanswers

theorem answers_answerEvent {id' : String} {payload : Json} (h : (answerEvent id payload).Answers id') :
    id' = id :=
  List.mem_singleton.mp (mem_answered.mpr h)

theorem not_answers_messageEvent (message : String) : ¬ (messageEvent message).Answers id :=
  fun h => List.not_mem_nil (mem_answered.mpr h)

theorem unanswered_of_lookup (h : lookupInterrupt (.ok log) = .ok id) : Unanswered log id := by
  obtain ⟨hpending, hne⟩ := lookupInterrupt_eq_ok.mp h
  rw [pendingInterrupt] at hpending
  cases hlast : (pendingInterrupts log).getLast? with
  | none =>
    rw [hlast] at hpending
    exact absurd hpending.symm hne
  | some last =>
    rw [hlast] at hpending
    cases hpending
    exact mem_pendingInterrupts.mp (List.mem_of_getLast? hlast)

end

structure InOrder (log : Log) (stage : Option RunStage) : Prop where
  awaited : Awaited log
  found : ∀ id, stage = some (.found id) → Unanswered log id

theorem InOrder.running {log : Log} (h : Awaited log) : InOrder log (some .running) :=
  ⟨h, fun _ hfound => by cases hfound⟩

theorem InOrder.ended {log : Log} (h : Awaited log) : InOrder log none :=
  ⟨h, fun _ hfound => by cases hfound⟩

theorem InOrder.act {call : AgentCall} {log log' : Log} {stage : Option RunStage} {event : RunEvent}
    {turn : Turn RunStage} (h : InOrder log stage) (hact : actRunner call log stage event = some (log', turn)) :
    InOrder log' turn.memory? := by
  unfold actRunner at hact
  split at hact
  · rename_i err
    dsimp only at hact
    cases err with
    | some err =>
      cases hact
      exact .ended h.awaited
    | none =>
      dsimp only at hact
      split at hact
      · cases hact
        exact .ended h.awaited
      · rename_i id hid
        cases hact
        refine ⟨h.awaited, fun id' hfound => ?_⟩
        cases hfound
        exact unanswered_of_lookup hid
  · rename_i payload id err
    cases err with
    | some err =>
      cases hact
      exact .ended h.awaited
    | none =>
      cases hact
      refine .running (h.awaited.append fun id' hanswers => ?_)
      rw [answers_answerEvent hanswers]
      exact h.found id rfl
  · rename_i message err
    cases err with
    | some err =>
      cases hact
      exact .ended h.awaited
    | none =>
      cases hact
      exact .running (h.awaited.append fun id hanswers => absurd hanswers (not_answers_messageEvent message))
  · split at hact
    · rename_i event hnone
      cases hact
      refine .running (h.awaited.append fun id hanswers => ?_)
      have hmem := mem_answered.mpr hanswers
      rw [List.isEmpty_iff.mp hnone] at hmem
      cases hmem
    · cases hact
  · cases hact
    exact .ended h.awaited
  · cases hact

theorem runner_keeps : runner.Keeps fun _ log stage => InOrder log stage where
  act _ _ _ _ _ _ hact h := h.act hact
  abandoned _ _ _ h := .ended h.awaited

theorem answers_awaited (service : Service) (retryQueues : Nat) (s : Hosted (String × String) Log RunStage)
    (h : Reach (Hosted.step runner (service.config retryQueues)) (fun s a => s.keepsLocks a = true)
      { stored := fun _ => [] } s)
    (session : String × String) (before after : Log) (event : Event) (id : String)
    (hlog : s.stored session = before ++ some event :: after) (hanswers : event.Answers id) :
    Unanswered before id := by
  have hempty : Awaited [] := by
    intro before event after id hlog
    cases before <;> cases hlog
  have horder := Hosted.stored_of_reach ((Stack.adkGo service).config_follows retryQueues) runner_separates
    runner_keeps (fun _ => .ended hempty) h session
  exact horder.awaited before event after id hlog hanswers

namespace Sample

def takesUp (pid : Nat) : List (Hosted.Action RunEvent) :=
  [.jobs (.deliver 0), .jobs (.exec pid .done), .jobs (.exec pid .done)] ++
    (Jobs.Sample.started pid).map .jobs

def asks : List (Hosted.Action RunEvent) :=
  Jobs.Sample.published.map .jobs ++ takesUp 1 ++
    [.agent 1 (.append none), .agent 1 (.emit (requestEvent (input "a"))),
      .agent 1 (.finish [{ requestedInput := some (input "a") }]), .jobs (.exec 1 .done),
      .jobs (.exec 1 (.time 0)), .jobs (.exec 1 .done), .jobs (.exec 1 .done), .jobs (.exec 1 .done),
      .jobs (.exec 1 .done)]

def answer : Json :=
  .object [("user_id", .string "u"), ("session_id", .string "s"), ("resume", declined)]

def answersOnce : List (Hosted.Action RunEvent) :=
  [.jobs (.publish "answer" (some answer) ""), .jobs (.exec 2 .done), .jobs (.exec 2 (.time 0)),
      .jobs (.exec 2 .done), .jobs (.exec 2 .done)] ++ takesUp 3 ++
    [.agent 3 (.get none), .jobs (.redeliver 3), .jobs (.deliver 0), .jobs (.exec 4 .done),
      .jobs (.exec 4 .done), .agent 3 (.append none)]

end Sample

theorem answers_awaited_sample :
    ∃ s before event,
      Reach (Hosted.step runner (Jobs.Sample.service.config 2)) (fun s a => s.keepsLocks a = true)
        { stored := fun _ => [] } s ∧
      s.stored ("u", "s") = before ++ [some event] ∧ event.Answers "a" ∧ Unanswered before "a" := by
  obtain ⟨s, hs, hrun⟩ := reach_of_any (Hosted.step runner (Jobs.Sample.service.config 2))
    (fun s a => s.keepsLocks a = true) { stored := fun _ => [] } (Sample.asks ++ Sample.answersOnce)
    (fun s => (s.stored ("u", "s")).getLast?.any fun event =>
      event.any fun event => decide ("a" ∈ event.answered)) (by decide +kernel)
  obtain ⟨last, hlast, hrun⟩ := (Option.any_eq_true _ _).mp hrun
  obtain ⟨event, rfl, hrun⟩ := (Option.any_eq_true _ _).mp hrun
  obtain ⟨before, hlog⟩ := List.getLast?_eq_some_iff.mp hlast
  have hanswers := mem_answered.mp (of_decide_eq_true hrun)
  exact ⟨s, before, event, hs, hlog, hanswers,
    answers_awaited Jobs.Sample.service 2 s hs ("u", "s") before [] event "a" hlog hanswers⟩

end AgentsAtScale.Runtime
