import AgentsAtScale.Jobs.Hosting
import AgentsAtScale.Agent.Outcomes

namespace AgentsAtScale.Agent.Python

open Airline Program StateGraph Transition
open Jobs (Json AgentError AgentCall Hosted Host Turn)

abbrev RoundResult := Except Exception (Except Interrupt AgentState)

/-- What is saved under a thread id.  The questions and the rebookings are counted. -/
structure Conversation where
  thread : Thread := { values := {} }
  asked : Nat := 0
  executions : List (Option (Interrupt × Json) × Selection) := []

inductive RunStage
  | checked
  | round (run : Run) (rest : Task RoundResult)

inductive RunEvent
  | getState
  | begin
  | reply (env : Env)
  | save
  | fail (message : String)

def roundProgram (runner : AgentRunner) (run : Run) : Task RoundResult :=
  runner.graph.runAll run.thread.values run.answer run.thread.next

def raiseError (err : AgentError) : Turn RunStage := .returns (.result (.error err))

def Conversation.execute (c : Conversation) (run : Run) (o : Op) : Conversation :=
  { c with executions := c.executions ++ (o.executes.map (run.resumed, ·)).toList }

def proceed (runner : AgentRunner) (plain : Evaluation → Json) (run : Run) : Turn RunStage :=
  match result plain run with
  | none => .goesOn (.round run (roundProgram runner run))
  | some result => .returns (.result result)

/-- The round is saved before the next one begins. -/
def Conversation.save (c : Conversation) (runner : AgentRunner) (plain : Evaluation → Json) (run : Run) :
    Conversation × Turn RunStage :=
  ({ c with
     thread := run.thread
     asked := if run.phase = .paused then c.asked + 1 else c.asked },
    proceed runner plain run)

def actRunner (runner : AgentRunner) (plain : Evaluation → Json) :
    AgentCall → Conversation → Option RunStage → RunEvent → Option (Conversation × Turn RunStage)
  | .resume _ _ _, c, none, .getState =>
    match c.thread.interrupt with
    | none => some (c, raiseError { message := "session has no pending input", noPendingInput := true })
    | some _ => some (c, .goesOn .checked)
  | .resume _ _ answer, c, some .checked, .begin =>
    match runner.resume c.thread answer with
    | .error err => some (c, raiseError err)
    | .ok run => some (c, proceed runner plain run)
  | .run _ _ message, c, none, .begin =>
    match runner.run c.thread message with
    | .error err => some (c, raiseError err)
    | .ok run => some ({ c with thread := run.thread }, proceed runner plain run)
  | _, c, some (.round run (.op o k)), .reply env =>
    some (c.execute run o, .goesOn (.round { run with calls := run.calls ++ [⟨o, env o⟩] } (k (env o))))
  | _, c, some (.round run (.ret outcome)), .save =>
    some (c.save runner plain (run.finish runner.graph outcome))
  | _, c, _, .fail message => some (c, raiseError { message := message })
  | _, _, _, _ => none

def host (runner : AgentRunner) (plain : Evaluation → Json) : Host String Conversation RunStage RunEvent where
  key := AgentCall.conversation
  act := actRunner runner plain

theorem host_separates (runner : AgentRunner) (plain : Evaluation → Json) : (host runner plain).Separates :=
  fun _ _ hkey => hkey

section

variable (modelValidate : Json → Except String Selection)

/-- A rebooking that its user has confirmed, for an option that was offered. -/
def Warranted (execution : Option (Interrupt × Json) × Selection) : Prop :=
  ∃ payload answer, execution.1 = some (payload, answer) ∧ Confirms modelValidate answer execution.2 ∧
    payload.evaluation.options.any (RebookingOption.offers execution.2) = true

/-- A conversation without a run.  The pending question may still lead to a rebooking. -/
structure AtRest (c : Conversation) : Prop where
  saved : Saved c.thread
  warranted : ∀ execution ∈ c.executions, Warranted modelValidate execution
  bounded : c.executions.length + (if c.thread.interrupt.isSome then 1 else 0) ≤ c.asked

end

def owed (run : Run) : Nat := if run.resumed.isSome && (executed run.calls).isEmpty then 1 else 0

structure InRound (modelValidate : Json → Except String Selection) (c : Conversation) (run : Run)
    (rest : Task RoundResult) : Prop where
  thread : c.thread = run.thread
  saved : Saved run.thread
  warranted : ∀ execution ∈ c.executions, Warranted modelValidate execution
  bounded : c.executions.length + owed run ≤ c.asked
  leads : rest.wp trace (fun calls outcome => Invariant modelValidate
    (Run.finish (graph modelValidate) { run with calls := calls } outcome)) run.calls
  first : run.thread.interrupt.isSome = true → owed run = 1 ∧ ∃ outcome, rest = .ret outcome

def Sound (modelValidate : Json → Except String Selection) (c : Conversation) : Option RunStage → Prop
  | some (.round run rest) => InRound modelValidate c run rest
  | _ => AtRest modelValidate c

section

variable {modelValidate : Json → Except String Selection} {c : Conversation} {run : Run} {o : Op}
  {rest : Task RoundResult} {k : o.Reply → Task RoundResult}

theorem InRound.atRest (h : InRound modelValidate c run rest) : AtRest modelValidate c where
  saved := h.thread ▸ h.saved
  warranted := h.warranted
  bounded := by
    have hbounded := h.bounded
    rw [h.thread]
    split
    · rename_i hsome
      rw [(h.first hsome).1] at hbounded
      exact hbounded
    · omega

def replies : Env
  | .understandRequest _ => Except.error { message := "" }
  | .evaluateOptions _ _ _ => Except.error { message := "" }
  | .getReservation _ => Except.error { message := "" }
  | .searchRebookingOptions _ => Except.error { message := "" }
  | .getAvailableTravelCredits _ _ => Except.error { message := "" }
  | .validateChange _ => Except.error { message := "" }
  | .executeRebooking _ => Except.error { message := "" }
  | .verifyRebooking _ => Except.error { message := "" }

theorem guarded_of_leads {calls : Calls} (h : rest.wp trace (fun calls outcome => Invariant modelValidate
    (Run.finish (graph modelValidate) { run with calls := calls } outcome)) calls) :
    ∃ values calls', calls <+: calls' ∧ Guarded modelValidate run.resumed values calls' := by
  have hguarded := (interpret_of_wp h replies).calls
  rw [Run.calls_finish, Run.resumed_finish] at hguarded
  exact ⟨_, _, prefix_interpret rest replies, hguarded⟩

theorem warranted_of_executes {selection : Selection} {reply : o.Reply} (ho : o.executes = some selection)
    (h : (k reply).wp trace (fun calls outcome => Invariant modelValidate
      (Run.finish (graph modelValidate) { run with calls := calls } outcome))
      (run.calls ++ [⟨o, reply⟩])) :
    owed run = 1 ∧ Warranted modelValidate (run.resumed, selection) := by
  obtain ⟨values, _, ⟨later, rfl⟩, hguarded⟩ := guarded_of_leads h
  have hone : executed [⟨o, reply⟩] = [selection] := List.filterMap_cons_some ho
  have hexecuted : executed (run.calls ++ [⟨o, reply⟩] ++ later) =
      executed run.calls ++ selection :: executed later := by
    rw [executed_append, executed_append, hone, List.append_assoc, List.singleton_append]
  obtain hfresh | ⟨before, selection', reply', more, heq, hbefore, hmore, hjustified⟩ := hguarded
  · cases (List.append_eq_nil_iff.mp (hexecuted.symm.trans hfresh)).2
  · have hone' : executed (before ++ ⟨.executeRebooking selection', reply'⟩ :: more) = [selection'] := by
      rw [executed_append, hbefore]
      exact congrArg (selection' :: ·) hmore
    have hexecuted := hone'.symm.trans ((congrArg executed heq).symm.trans hexecuted)
    obtain ⟨payload, answer, hresumed, hconfirms, hoffered⟩ := hjustified.answer
    cases hbefore' : executed run.calls with
    | cons first rest =>
      rw [hbefore'] at hexecuted
      cases (List.append_eq_nil_iff.mp (List.cons.inj hexecuted).2.symm).2
    | nil =>
      rw [hbefore'] at hexecuted
      obtain ⟨rfl, -⟩ := List.cons.inj hexecuted
      refine ⟨?_, payload, answer, hresumed, hconfirms, hoffered⟩
      simp [owed, hresumed, hbefore']

theorem InRound.reply (env : Env) (h : InRound modelValidate c run (.op o k)) :
    InRound modelValidate (c.execute run o) { run with calls := run.calls ++ [⟨o, env o⟩] } (k (env o)) := by
  have hleads := h.leads.2 (env o) trivial
  have hfirst : run.thread.interrupt.isSome = false := by
    refine eq_false_of_ne_true fun hsome => ?_
    obtain ⟨-, outcome, hret⟩ := h.first hsome
    cases hret
  refine ⟨h.thread, h.saved, ?_, ?_, hleads, fun hsome => ?_⟩
  · intro execution hmem
    obtain hmem | hmem := List.mem_append.mp hmem
    · exact h.warranted execution hmem
    · cases hexecutes : o.executes with
      | none =>
        rw [hexecutes] at hmem
        cases hmem
      | some selection =>
        rw [hexecutes] at hmem
        cases List.mem_singleton.mp hmem
        exact (warranted_of_executes hexecutes hleads).2
  · have hbounded := h.bounded
    cases hexecutes : o.executes with
    | none =>
      have howed : owed { run with calls := run.calls ++ [⟨o, env o⟩] } = owed run := by
        simp only [owed, executed_other hexecutes]
      simp only [Conversation.execute, hexecutes, howed]
      simpa using hbounded
    | some selection =>
      rw [(warranted_of_executes hexecutes hleads).1] at hbounded
      have howed : owed { run with calls := run.calls ++ [⟨o, env o⟩] } = 0 := by
        have hone : executed [⟨o, env o⟩] = [selection] := List.filterMap_cons_some hexecutes
        simp [owed, hone]
      rw [howed]
      simpa [Conversation.execute, hexecutes] using hbounded
  · cases hfirst.symm.trans hsome

theorem InRound.next (runner : AgentRunner) (hvalidate : runner.modelValidate = modelValidate)
    (hinvariant : Invariant modelValidate run) (hphase : run.phase = .running)
    (hthread : c.thread = run.thread)
    (hwarranted : ∀ execution ∈ c.executions, Warranted modelValidate execution)
    (hbounded : c.executions.length + owed run ≤ c.asked)
    (hfirst : run.thread.interrupt.isSome = true →
      owed run = 1 ∧ ∃ outcome, roundProgram runner run = .ret outcome) :
    InRound modelValidate c run (roundProgram runner run) := by
  subst hvalidate
  exact ⟨hthread, hinvariant.saved, hwarranted, hbounded, wp_round hinvariant hphase, hfirst⟩

theorem InRound.save (runner : AgentRunner) (plain : Evaluation → Json) {outcome : RoundResult}
    (h : InRound runner.modelValidate c run (.ret outcome)) :
    Sound runner.modelValidate (c.save runner plain (run.finish runner.graph outcome)).1
      (c.save runner plain (run.finish runner.graph outcome)).2.memory? := by
  have hinvariant : Invariant runner.modelValidate (run.finish runner.graph outcome) := h.leads
  obtain ⟨error, heq⟩ | ⟨payload, heq⟩ | ⟨update, next, -, -, heq⟩ :=
    Run.finish_cases runner.graph run outcome
  · rw [heq]
    have hrest := h.atRest
    refine ⟨h.saved, hrest.warranted, ?_⟩
    have hbounded := hrest.bounded
    rw [h.thread] at hbounded
    exact hbounded
  · rw [heq] at hinvariant ⊢
    refine ⟨hinvariant.saved, h.warranted, ?_⟩
    have hbounded := h.bounded
    simp only [Conversation.save, Option.isSome_some, if_true]
    omega
  · rw [heq] at hinvariant ⊢
    cases next with
    | nil =>
      refine ⟨hinvariant.saved, h.warranted, ?_⟩
      exact Nat.le_trans (Nat.le_add_right ..) h.bounded
    | cons node nodes =>
      exact .next runner rfl hinvariant rfl rfl h.warranted h.bounded fun hsome => by cases hsome

end

section

variable {runner : AgentRunner} {plain : Evaluation → Json} {c c' : Conversation} {call : AgentCall}
  {stage : Option RunStage} {event : RunEvent} {turn : Turn RunStage}

theorem roundProgram_resume {payload : Interrupt} {answer : Json} (hsaved : Saved c.thread)
    (hpayload : c.thread.interrupt = some payload) :
    ∃ outcome, roundProgram runner (runner.graph.resume c.thread payload answer) = .ret outcome := by
  obtain ⟨hnext, -⟩ := hsaved payload hpayload
  obtain ⟨outcome, houtcome⟩ := askConfirmation_takes runner.modelValidate c.thread.values answer
  change ∃ outcome, runner.graph.runAll c.thread.values (some answer) c.thread.next = .ret outcome
  rw [hnext]
  simp only [Graph.runAll]
  change ∃ outcome', (askConfirmation runner.modelValidate c.thread.values (some answer) >>= _) = .ret outcome'
  rw [houtcome]
  cases outcome with
  | raise error => exact ⟨_, rfl⟩
  | interrupt payload => exact ⟨_, rfl⟩
  | update values => exact ⟨_, rfl⟩

theorem proceed_cases (runner : AgentRunner) (plain : Evaluation → Json) (run : Run) :
    run.phase = .running ∧ (proceed runner plain run).memory? = some (.round run (roundProgram runner run)) ∨
      (proceed runner plain run).memory? = none := by
  unfold proceed
  cases hphase : run.phase <;> simp [result, hphase, Turn.memory?]

theorem AtRest.resume {r : Run} {answer : Json} (h : AtRest runner.modelValidate c)
    (hrun : runner.resume c.thread answer = .ok r) :
    Sound runner.modelValidate c (proceed runner plain r).memory? := by
  have hinvariant := invariant_resume h.saved hrun
  obtain ⟨hphase, hproceed⟩ | hproceed := proceed_cases runner plain r
  · rw [hproceed]
    obtain ⟨payload, hpayload, rfl⟩ := AgentRunner.resume_eq_ok hrun
    have hbounded := h.bounded
    rw [hpayload] at hbounded
    exact .next runner rfl hinvariant hphase rfl h.warranted hbounded fun _ =>
      ⟨rfl, roundProgram_resume h.saved hpayload⟩
  · rw [hproceed]
    exact h

theorem AtRest.run {r : Run} {message : String} (h : AtRest runner.modelValidate c)
    (hrun : runner.run c.thread message = .ok r) :
    Sound runner.modelValidate { c with thread := r.thread } (proceed runner plain r).memory? := by
  have hinvariant := invariant_run hrun
  have hr := AgentRunner.run_eq_ok hrun
  subst hr
  have hbounded := Nat.le_trans (Nat.le_add_right ..) h.bounded
  exact .next runner rfl hinvariant rfl rfl h.warranted hbounded fun hsome => by cases hsome

theorem Sound.atRest (h : Sound runner.modelValidate c stage) : AtRest runner.modelValidate c := by
  cases stage with
  | none => exact h
  | some stage =>
    cases stage with
    | checked => exact h
    | round run rest => exact InRound.atRest h

theorem Sound.act (h : Sound runner.modelValidate c stage)
    (hact : actRunner runner plain call c stage event = some (c', turn)) :
    Sound runner.modelValidate c' turn.memory? := by
  unfold actRunner at hact
  split at hact
  · split at hact
    · cases hact
      exact h
    · cases hact
      exact h
  · split at hact
    · cases hact
      exact h
    · rename_i hrun
      cases hact
      exact AtRest.resume h hrun
  · split at hact
    · cases hact
      exact h
    · rename_i hrun
      cases hact
      exact AtRest.run h hrun
  · rename_i env
    cases hact
    exact InRound.reply env h
  · cases hact
    exact InRound.save runner plain h
  · cases hact
    exact h.atRest
  · cases hact

theorem host_keeps (runner : AgentRunner) (plain : Evaluation → Json) :
    (host runner plain).Keeps fun _ c stage => Sound runner.modelValidate c stage where
  act _ _ _ _ _ _ hact h := h.act hact
  abandoned _ _ _ h := h.atRest

end

theorem rebookings_warranted (service : Jobs.Python.JobService) (retryQueues : Nat) (runner : AgentRunner)
    (plain : Evaluation → Json) (s : Hosted String Conversation RunStage)
    (h : Reach (Hosted.step (host runner plain) (service.config retryQueues))
      (fun s a => s.keepsLocks a = true) { stored := fun _ => {} } s) (threadId : String) :
    (s.stored threadId).executions.length ≤ (s.stored threadId).asked ∧
      ∀ execution ∈ (s.stored threadId).executions, Warranted runner.modelValidate execution := by
  have hnew : AtRest runner.modelValidate {} :=
    ⟨fun _ hpayload => (by cases hpayload), fun _ hmem => (List.not_mem_nil hmem).elim, Nat.le_refl 0⟩
  have hrest : AtRest runner.modelValidate (s.stored threadId) :=
    Hosted.stored_of_reach ((Jobs.Stack.langgraphPython service).config_follows retryQueues)
      (host_separates runner plain) (host_keeps runner plain) (fun _ => hnew) h threadId
  exact ⟨Nat.le_trans (Nat.le_add_right ..) hrest.bounded, hrest.warranted⟩

namespace Sample

def published (id : String) (payload : Json) (pid : Nat) : List (Hosted.Action RunEvent) :=
  [.jobs (.publish id (some payload) ""), .jobs (.exec pid .done), .jobs (.exec pid (.time 0)),
    .jobs (.exec pid .done), .jobs (.exec pid .done)]

def takesUp (pid : Nat) : List (Hosted.Action RunEvent) :=
  [.jobs (.deliver 0), .jobs (.exec pid .done), .jobs (.exec pid .done), .jobs (.exec pid .done),
    .jobs (.exec pid (.time 0)), .jobs (.exec pid .done), .jobs (.exec pid .done)]

def asks : List (Hosted.Action RunEvent) :=
  published "message" (.object [("user_id", .string "u"), ("session_id", .string "s"),
      ("message", .string "Move my flight.")]) 0 ++ takesUp 1 ++
    [.agent 1 .begin, .agent 1 (.reply env), .agent 1 .save, .agent 1 (.reply env), .agent 1 .save,
      .agent 1 (.reply env), .agent 1 (.reply env), .agent 1 .save, .agent 1 (.reply env),
      .agent 1 .save, .agent 1 .save] ++
    [.jobs (.exec 1 .done), .jobs (.exec 1 (.time 0)), .jobs (.exec 1 .done), .jobs (.exec 1 .done),
      .jobs (.exec 1 .done), .jobs (.exec 1 .done)]

def confirms : List (Hosted.Action RunEvent) :=
  published "answer" (.object [("user_id", .string "u"), ("session_id", .string "s"),
      ("resume", confirmed 1)]) 2 ++ takesUp 3 ++
    [.agent 3 .getState, .agent 3 .begin, .agent 3 .save, .agent 3 (.reply env), .agent 3 .save,
      .agent 3 (.reply env), .jobs (.crash 3), .jobs (.expireLock "u:s")] ++ takesUp 4 ++
    [.agent 4 .getState]

end Sample

theorem rebookings_warranted_sample :
    ∃ s, Reach (Hosted.step (host Sample.runner fun _ => .null) (Jobs.Python.JobService.config {} 2))
        (fun s a => s.keepsLocks a = true) { stored := fun _ => {} } s ∧
      (s.stored "u:s").executions.map (·.2) = [Sample.selection 1] ∧ (s.stored "u:s").asked = 1 ∧
      ∀ execution ∈ (s.stored "u:s").executions, Warranted Sample.runner.modelValidate execution := by
  obtain ⟨s, hs, hrun⟩ := reach_of_any
    (Hosted.step (host Sample.runner fun _ => .null) (Jobs.Python.JobService.config {} 2))
    (fun s a => s.keepsLocks a = true) { stored := fun _ => {} } (Sample.asks ++ Sample.confirms)
    (fun s => decide ((s.stored "u:s").executions.map (·.2) = [Sample.selection 1]) &&
      decide ((s.stored "u:s").asked = 1)) (by decide +kernel)
  simp only [Bool.and_eq_true, decide_eq_true_eq] at hrun
  exact ⟨s, hs, hrun.1, hrun.2,
    (rebookings_warranted {} 2 Sample.runner (fun _ => .null) s hs "u:s").2⟩

end AgentsAtScale.Agent.Python
