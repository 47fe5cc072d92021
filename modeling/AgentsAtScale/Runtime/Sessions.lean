import AgentsAtScale.Jobs.Service
import AgentsAtScale.Program.Transition

namespace AgentsAtScale.Runtime

open Jobs Transition

structure FunctionResponse where
  id : String
  response : Json

structure Part where
  text : String := ""
  functionResponse : Option FunctionResponse := none

/-- Parts and events are pointers, which may be nil. -/
structure Content where
  parts : List (Option Part)

structure Event where
  requestedInput : Option RequestInput := none
  content : Option Content := none

abbrev Log := List (Option Event)

def deleteAnswered (pending : List String) (part : Option Part) : List String :=
  match part.bind (·.functionResponse) with
  | some response => pending.filter (· ≠ response.id)
  | none => pending

def pendingAfter (pending : List String) : Option Event → List String
  | none => pending
  | some event =>
    let pending := match event.requestedInput with
      | some input => pending ++ [input.interruptID]
      | none => pending
    match event.content with
    | some content => content.parts.foldl deleteAnswered pending
    | none => pending

def pendingInterrupts (events : Log) : List String := events.foldl pendingAfter []

/-- `PendingInterrupt`: the latest interrupt that has not been answered, or "". -/
def pendingInterrupt (events : Log) : String := (pendingInterrupts events).getLast?.getD ""

def lookupInterrupt : Except String Log → Except AgentError String
  | .error err =>
    .error { message := "session has no pending input: " ++ err, noPendingInput := true }
  | .ok events =>
    if pendingInterrupt events = "" then
      .error { message := "session has no pending input", noPendingInput := true }
    else .ok (pendingInterrupt events)

def messageEvent (message : String) : Event :=
  { content := some { parts := [some { text := message }] } }

def answerEvent (interruptID : String) (payload : Json) : Event :=
  { content := some
      { parts := [some
          { functionResponse := some { id := interruptID, response := .object [("payload", payload)] } }] } }

def requestEvent (input : RequestInput) : Event := { requestedInput := some input }

section

variable {log : Log}

theorem pendingInterrupts_append (log log' : Log) :
    pendingInterrupts (log ++ log') = log'.foldl pendingAfter (pendingInterrupts log) :=
  List.foldl_append

@[simp] theorem pendingInterrupts_message (message : String) :
    pendingInterrupts (log ++ [some (messageEvent message)]) = pendingInterrupts log := by
  rw [pendingInterrupts_append]
  rfl

@[simp] theorem pendingInterrupts_request (input : RequestInput) :
    pendingInterrupts (log ++ [some (requestEvent input)]) =
      pendingInterrupts log ++ [input.interruptID] := by
  rw [pendingInterrupts_append]
  rfl

@[simp] theorem pendingInterrupts_answer (id : String) (payload : Json) :
    pendingInterrupts (log ++ [some (answerEvent id payload)]) =
      (pendingInterrupts log).filter (· ≠ id) := by
  rw [pendingInterrupts_append]
  rfl

theorem lookupInterrupt_eq_ok {id : String} :
    lookupInterrupt (.ok log) = .ok id ↔ pendingInterrupt log = id ∧ id ≠ "" := by
  simp only [lookupInterrupt]
  split
  · rename_i hnone
    rw [hnone]
    exact ⟨nofun, fun h => absurd h.1.symm h.2⟩
  · rename_i hsome
    rw [Except.ok.injEq]
    exact ⟨fun h => ⟨h, h ▸ hsome⟩, And.left⟩

end

structure Session where
  log : Log := []
  latest : Option String := none
  answered : Bool := false

inductive Request
  | message (message : String) (input : RequestInput)
  | resume (payload : Json)

def Session.requested (s : Session) : List String :=
  s.log.filterMap fun event => event.bind fun event => event.requestedInput.map (·.interruptID)

/-- Every message raises one interrupt with a fresh id; a resume answers the pending
one. -/
def Session.step (s : Session) : Request → Option Session
  | .message message input =>
    if input.interruptID = "" ∨ input.interruptID ∈ s.requested then none
    else some
      { log := s.log ++ [some (messageEvent message)] ++ [some (requestEvent input)]
        latest := some input.interruptID
        answered := false }
  | .resume payload =>
    match lookupInterrupt (.ok s.log) with
    | .error _ => some s
    | .ok id => some
      { s with
        log := s.log ++ [some (answerEvent id payload)]
        answered := s.answered || s.latest = some id }

def Session.settled (s : Session) : Request → Bool
  | .message _ _ => pendingInterrupt s.log = ""
  | .resume _ => true

structure Session.Current (s : Session) : Prop where
  pending : pendingInterrupts s.log = if s.answered then [] else s.latest.toList
  nonempty : s.latest ≠ some ""

namespace Session

variable {s t : Session} {a : Request}

theorem Current.pendingInterrupt (h : s.Current) :
    Runtime.pendingInterrupt s.log = if s.answered then "" else s.latest.getD "" := by
  rw [Runtime.pendingInterrupt, h.pending]
  cases s.answered with
  | true => rfl
  | false => cases s.latest <;> rfl

theorem Current.eq_nil (h : s.Current) (hnone : Runtime.pendingInterrupt s.log = "") :
    pendingInterrupts s.log = [] := by
  rw [h.pendingInterrupt] at hnone
  rw [h.pending]
  split
  · rfl
  · rename_i hanswered
    simp only [hanswered, Bool.false_eq_true, if_false] at hnone
    cases hlatest : s.latest with
    | none => rfl
    | some id =>
      rw [hlatest] at hnone
      exact absurd (hlatest.trans (congrArg some hnone)) h.nonempty

theorem current_step (h : s.Current) (hok : s.settled a = true) (hstep : s.step a = some t) :
    t.Current := by
  cases a with
  | message message input =>
    simp only [step] at hstep
    split at hstep
    · cases hstep
    · rename_i hfresh
      cases hstep
      rw [not_or] at hfresh
      constructor
      · rw [pendingInterrupts_request, pendingInterrupts_message,
          h.eq_nil (of_decide_eq_true hok)]
        rfl
      · intro hempty
        exact hfresh.1 (Option.some.inj hempty)
  | resume payload =>
    simp only [step] at hstep
    split at hstep
    · cases hstep
      exact h
    · rename_i id hid
      cases hstep
      obtain ⟨hpending, hne⟩ := lookupInterrupt_eq_ok.mp hid
      rw [h.pendingInterrupt] at hpending
      refine ⟨?_, h.nonempty⟩
      rw [pendingInterrupts_answer, h.pending]
      cases hanswered : s.answered with
      | true => rfl
      | false =>
        simp only [hanswered, Bool.false_eq_true, if_false] at hpending
        cases hlatest : s.latest with
        | none =>
          rw [hlatest] at hpending
          exact absurd hpending.symm hne
        | some latest =>
          rw [hlatest] at hpending
          cases hpending
          simp

end Session

theorem resume_answers_latest (s : Session)
    (h : Reach Session.step (fun s a => s.settled a = true) {} s) :
    (∀ id, lookupInterrupt (.ok s.log) = .ok id → s.latest = some id ∧ s.answered = false) ∧
    (s.answered = true → pendingInterrupt s.log = "") := by
  have hcurrent : s.Current := h.invariant (I := Session.Current) ⟨rfl, nofun⟩
    fun _ _ _ hcurrent hok hstep => Session.current_step hcurrent hok hstep
  have hpending := hcurrent.pendingInterrupt
  constructor
  · intro id hid
    obtain ⟨heq, hne⟩ := lookupInterrupt_eq_ok.mp hid
    rw [hpending] at heq
    split at heq
    · exact absurd heq.symm hne
    · rename_i hanswered
      refine ⟨?_, eq_false_of_ne_true hanswered⟩
      cases hlatest : s.latest with
      | none =>
        rw [hlatest] at heq
        exact absurd heq.symm hne
      | some latest =>
        rw [hlatest] at heq
        exact congrArg some heq
  · intro hanswered
    rw [hpending, hanswered]
    rfl

namespace Sample

def input (id : String) : RequestInput :=
  { interruptID := id
    message := "Select a rebooking option and confirm the change."
    payload := .null }

def declined : Json := .object [("confirmed", .bool false)]

end Sample

theorem resume_answers_latest_sample :
    ∃ s, Reach Session.step (fun s a => s.settled a = true) {} s ∧
      lookupInterrupt (.ok s.log) = .ok "b" ∧ s.latest = some "b" ∧ s.answered = false := by
  obtain ⟨s, hs, hrun⟩ := reach_of_any Session.step (fun s a => s.settled a = true) {}
    [.message "rebook ABC123" (Sample.input "a"), .resume Sample.declined,
      .message "rebook ABC123" (Sample.input "b")]
    (fun s => decide (pendingInterrupt s.log = "b")) (by decide +kernel)
  have hid : lookupInterrupt (.ok s.log) = .ok "b" :=
    lookupInterrupt_eq_ok.mpr ⟨of_decide_eq_true hrun, by decide⟩
  exact ⟨s, hs, hid, (resume_answers_latest s hs).1 "b" hid⟩

/-- Two messages are sent before the first resume.  The second resume answers the
confirmation of the first message. -/
theorem resume_answers_superseded :
    ∃ s t, Reaches Session.step {} s ∧ s.latest = some "b" ∧ s.answered = true ∧
      s.step (.resume Sample.declined) = some t ∧ lookupInterrupt (.ok s.log) = .ok "a" ∧
      t.log = s.log ++ [some (answerEvent "a" Sample.declined)] := by
  obtain ⟨s, hs, hrun⟩ := reach_of_any Session.step (fun _ _ => True) {}
    [.message "rebook ABC123" (Sample.input "a"), .message "rebook DEF456" (Sample.input "b"),
      .resume Sample.declined]
    (fun s => decide (s.latest = some "b") && s.answered && decide (pendingInterrupt s.log = "a"))
    (by decide +kernel)
  simp only [Bool.and_eq_true, decide_eq_true_eq] at hrun
  have hid : lookupInterrupt (.ok s.log) = .ok "a" :=
    lookupInterrupt_eq_ok.mpr ⟨hrun.2, by decide⟩
  have hstep : ∃ t, s.step (.resume Sample.declined) = some t ∧
      t.log = s.log ++ [some (answerEvent "a" Sample.declined)] := by
    simp only [Session.step, hid]
    exact ⟨_, rfl, rfl⟩
  obtain ⟨t, hstep, hlog⟩ := hstep
  exact ⟨s, t, hs, hrun.1.1, hrun.1.2, hstep, hid, hlog⟩

end AgentsAtScale.Runtime
