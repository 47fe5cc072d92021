import AgentsAtScale.Program.Keyed
import AgentsAtScale.Agent.Invocations

namespace AgentsAtScale.Agent.Python

open Airline StateGraph
open Jobs (Json AgentError AgentRequest)

def threadId (userId sessionId : String) : String := userId ++ ":" ++ sessionId

structure AgentJob where
  request : AgentRequest
  runner : AgentRunner
  envs : List Env

namespace AgentJob

variable (job : AgentJob)

def owner : String × String := (job.request.userId, job.request.sessionId)

def thread : String := threadId job.request.userId job.request.sessionId

def invocation : Invocation where
  runner := job.runner
  input := match job.request.call with
    | .run _ _ message => .message message
    | .resume _ _ answer => .answer answer
  envs := job.envs

def act (thread : Thread) : Except AgentError Run × Thread :=
  (job.invocation.run thread, job.invocation.save thread)

end AgentJob

abbrev Threads := String → Thread

def serve (threads : Threads) (jobs : List AgentJob) : Threads :=
  Keyed.run AgentJob.thread AgentJob.act threads jobs

def served (threads : Threads) (jobs : List AgentJob) : List (AgentJob × Except AgentError Run) :=
  Keyed.results AgentJob.thread AgentJob.act threads jobs

/-- The user id goes on where the other one ends, with a part that the other session id
begins with. -/
def Shifted (a b : String × String) : Prop := ∃ part, a.1 = b.1 ++ ":" ++ part ∧ b.2 = part ++ ":" ++ a.2

section

variable {a b : String × String}

theorem Shifted.threadId_eq (h : Shifted a b) : threadId a.1 a.2 = threadId b.1 b.2 := by
  obtain ⟨part, huser, hsession⟩ := h
  rw [threadId, threadId, huser, hsession]
  simp only [String.append_assoc]

theorem toList_threadId (userId sessionId : String) :
    (threadId userId sessionId).toList = userId.toList ++ ':' :: sessionId.toList := by
  simp [threadId]

theorem eq_or_shifted_of_append {rest : List Char} (huser : b.1.toList = a.1.toList ++ rest)
    (hsession : ':' :: a.2.toList = rest ++ ':' :: b.2.toList) : a = b ∨ Shifted b a := by
  cases rest with
  | nil =>
    have huser' : a.1 = b.1 := String.toList_injective (by rw [huser, List.append_nil])
    have hsession' : a.2 = b.2 := String.toList_injective (List.cons.inj hsession).2
    exact .inl (Prod.ext huser' hsession')
  | cons c part =>
    obtain ⟨rfl, hpart⟩ := List.cons.inj hsession
    refine .inr ⟨String.ofList part, ?_, ?_⟩
    · apply String.toList_injective
      simp [huser]
    · apply String.toList_injective
      simp [hpart]

theorem threadId_eq_iff (hne : a ≠ b) :
    threadId a.1 a.2 = threadId b.1 b.2 ↔ Shifted a b ∨ Shifted b a := by
  constructor
  · intro h
    have hchars := congrArg String.toList h
    rw [toList_threadId, toList_threadId] at hchars
    obtain ⟨rest, huser, hsession⟩ | ⟨rest, huser, hsession⟩ := List.append_eq_append_iff.mp hchars
    · exact .inr ((eq_or_shifted_of_append huser hsession).resolve_left hne)
    · exact .inl ((eq_or_shifted_of_append huser hsession).resolve_left (Ne.symm hne))
  · rintro (h | h)
    · exact h.threadId_eq
    · exact h.threadId_eq.symm

theorem not_shifted (h : ':' ∉ a.1.toList) : ¬Shifted a b := by
  rintro ⟨part, huser, -⟩
  apply h
  simp [huser]

theorem AgentJob.owner_eq_iff {job : AgentJob} {p : String × String} (h : ¬Shifted job.owner p)
    (h' : ¬Shifted p job.owner) :
    decide (job.owner = p) = true ↔ job.thread = threadId p.1 p.2 := by
  rw [decide_eq_true_iff]
  constructor
  · rintro rfl
    rfl
  · intro hthread
    by_contra hne
    exact ((threadId_eq_iff hne).mp hthread).elim h h'

end

theorem conversations_separate (a b : AgentRequest) (threads : Threads) (jobs jobs' : List AgentJob)
    (userId sessionId : String) :
    ((a.userId, a.sessionId) ≠ (b.userId, b.sessionId) →
      (threadId a.userId a.sessionId ≠ threadId b.userId b.sessionId ∧
          a.conversation ≠ b.conversation ↔
        ¬Shifted (a.userId, a.sessionId) (b.userId, b.sessionId) ∧
          ¬Shifted (b.userId, b.sessionId) (a.userId, a.sessionId))) ∧
    ((∀ job ∈ jobs ++ jobs', ¬Shifted job.owner (userId, sessionId) ∧
        ¬Shifted (userId, sessionId) job.owner) →
      jobs.filter (·.owner = (userId, sessionId)) = jobs'.filter (·.owner = (userId, sessionId)) →
      (served threads jobs).filter (·.1.owner = (userId, sessionId)) =
          (served threads jobs').filter (·.1.owner = (userId, sessionId)) ∧
        serve threads jobs (threadId userId sessionId) =
          serve threads jobs' (threadId userId sessionId)) := by
  constructor
  · intro hne
    have hthread := not_congr (threadId_eq_iff hne)
    rw [not_or] at hthread
    exact ⟨fun h => hthread.mp h.1, fun h => ⟨hthread.mpr h, hthread.mpr h⟩⟩
  · intro hjobs hagree
    refine Keyed.results_eq_of_filter_eq ?_ ?_ hagree
    · intro job hjob
      obtain ⟨h, h'⟩ := hjobs job (List.mem_append_left _ hjob)
      exact AgentJob.owner_eq_iff h h'
    · intro job hjob
      obtain ⟨h, h'⟩ := hjobs job (List.mem_append_right _ hjob)
      exact AgentJob.owner_eq_iff h h'

namespace Sample

def messageOf (userId sessionId : String) : AgentRequest :=
  { userId := userId, sessionId := sessionId, message := "Move my flight." }

def answer : Json := confirmed 1

def answerOf (userId sessionId : String) : AgentRequest :=
  { userId := userId, sessionId := sessionId, resume := some answer }

def payload (userId sessionId : String) (member : String × Json) : Json :=
  .object [("user_id", .string userId), ("session_id", .string sessionId), member]

def job (request : AgentRequest) : AgentJob :=
  { request := request, runner := runner, envs := List.replicate 7 env }

def threads : Threads := fun _ => { values := {} }

end Sample

theorem conversations_separate_sample :
    threadId "a" "c" ≠ threadId "b" "c" ∧
      serve Sample.threads [Sample.job (Sample.messageOf "a" "c"), Sample.job (Sample.answerOf "b" "c")]
          (threadId "b" "c") =
        serve Sample.threads [Sample.job (Sample.answerOf "b" "c")] (threadId "b" "c") := by
  have ha (p : String × String) : ¬Shifted ("a", "c") p := not_shifted (by decide)
  have hb (p : String × String) : ¬Shifted ("b", "c") p := not_shifted (by decide)
  have hjobs : ∀ job ∈ [Sample.job (Sample.messageOf "a" "c"), Sample.job (Sample.answerOf "b" "c")] ++
      [Sample.job (Sample.answerOf "b" "c")],
      ¬Shifted job.owner ("b", "c") ∧ ¬Shifted ("b", "c") job.owner := by
    intro job hjob
    simp only [List.cons_append, List.nil_append, List.mem_cons, List.not_mem_nil, or_false] at hjob
    obtain rfl | rfl | rfl := hjob
    · exact ⟨ha _, hb _⟩
    · exact ⟨hb _, hb _⟩
    · exact ⟨hb _, hb _⟩
  obtain ⟨hkeys, hruns⟩ := conversations_separate (Sample.messageOf "a" "c")
    (Sample.answerOf "b" "c") Sample.threads
    [Sample.job (Sample.messageOf "a" "c"), Sample.job (Sample.answerOf "b" "c")]
    [Sample.job (Sample.answerOf "b" "c")] "b" "c"
  exact ⟨((hkeys (by decide)).mpr ⟨ha _, hb _⟩).1, (hruns hjobs rfl).2⟩

/-- The user "a:b" answers the question that was put to the user "a" in the session
"b:c"; without the message of "a" there is no question to answer. -/
theorem conversations_shared :
    Jobs.Python.validateRequest (Sample.payload "a" "b:c" ("message", .string "Move my flight.")) =
        .ok (Sample.messageOf "a" "b:c") ∧
      Jobs.Python.validateRequest (Sample.payload "a:b" "c" ("resume", Sample.answer)) =
        .ok (Sample.answerOf "a:b" "c") ∧
      Jobs.validateAgentRequest (Sample.messageOf "a" "b:c") = .ok () ∧
      Jobs.validateAgentRequest (Sample.answerOf "a:b" "c") = .ok () ∧
      threadId "a" "b:c" = threadId "a:b" "c" ∧
      (Sample.messageOf "a" "b:c").conversation = (Sample.answerOf "a:b" "c").conversation ∧
      (∃ first second, served Sample.threads
          [Sample.job (Sample.messageOf "a" "b:c"), Sample.job (Sample.answerOf "a:b" "c")] =
          [(Sample.job (Sample.messageOf "a" "b:c"), first),
            (Sample.job (Sample.answerOf "a:b" "c"), .ok second)] ∧
        executed second.calls = [Sample.selection 1]) ∧
      served Sample.threads [Sample.job (Sample.answerOf "a:b" "c")] =
        [(Sample.job (Sample.answerOf "a:b" "c"),
          .error { message := "session has no pending input", noPendingInput := true })] := by
  refine ⟨rfl, rfl, rfl, by decide +kernel, by decide, by decide, ?_, rfl⟩
  obtain ⟨second, hsecond, hrun⟩ := (Sample.job (Sample.answerOf "a:b" "c")).invocation.exists_run
    (serve Sample.threads [Sample.job (Sample.messageOf "a" "b:c")] (threadId "a:b" "c"))
    (fun r => decide (executed r.calls = [Sample.selection 1])) (by decide +kernel)
  refine ⟨(Sample.job (Sample.messageOf "a" "b:c")).invocation.run { values := {} }, second, ?_,
    of_decide_eq_true hrun⟩
  rw [← hsecond]
  rfl

end AgentsAtScale.Agent.Python
