import AgentsAtScale.Agent.Invocations

namespace AgentsAtScale.Agent.Python

open Airline Program StateGraph
open Jobs (Json AgentError GraphResult Status Job AgentRequest)
open Jobs.Python (JobService)

/-- The value that the worker finds in an interrupt; `plain` turns an evaluation into
dictionaries. -/
def Interrupt.value (plain : Evaluation → Json) (interrupt : Interrupt) : Json :=
  .object [("message", .string interrupt.message), ("evaluation", plain interrupt.evaluation)]

def FinalResult.fields (final : FinalResult) : Jobs.FinalResult where
  status := final.status.text
  message := final.message

def result (plain : Evaluation → Json) (r : Run) : Option (Except AgentError GraphResult) :=
  let final := r.thread.values.final.map FinalResult.fields
  match r.phase with
  | .running => none
  | .failed exc => some (.error { message := exc.message })
  | .paused =>
    some (.ok { interrupts := some (r.thread.interrupt.toList.map (·.value plain)), final := final })
  | .ended => some (.ok { final := final })

abbrev JobCalls := List (Sigma Jobs.Op.Reply)

def storedStatus : Sigma Jobs.Op.Reply → Option (String × Status)
  | ⟨.setJobStatus id status, .ok _⟩ => some (id, status)
  | _ => none

def stored (calls : JobCalls) : List (String × Status) := calls.filterMap storedStatus

def deadLetter? : Sigma Jobs.Op.Reply → Option Job
  | ⟨.deadLetter job, _⟩ => some job
  | _ => none

def deadLettered (calls : JobCalls) : List Job := calls.filterMap deadLetter?

def refusedWrite : Sigma Jobs.Op.Reply → Option String
  | ⟨.setJobMetadata _ _, .error err⟩ => some err
  | ⟨.setJobTiming _ _ _, .error err⟩ => some err
  | ⟨.setJobStatus _ _, .error err⟩ => some err
  | _ => none

/-- The status is stored, unless the store has refused a write and the worker is told so. -/
structure Finishes (id : String) (status : Status) (calls : JobCalls) (reply : Except String Unit) :
    Prop where
  stored : stored calls = [(id, status)] ∨
    stored calls = [] ∧ ∃ err, reply = .error err ∧ ∃ call ∈ calls, refusedWrite call = some err
  kept : deadLettered calls = []

def FailureStored (id : String) (calls : JobCalls) : Prop :=
  stored calls = [(id, .failed)] ∨
    stored calls = [] ∧ ∃ err, ⟨.setJobStatus id .failed, .error err⟩ ∈ calls

structure Dies (job : Job) (calls : JobCalls) : Prop where
  stored : FailureStored job.id calls
  dead : deadLettered calls = [job]

section

variable {calls : JobCalls} {job : Job} {request : AgentRequest} {call : Sigma Jobs.Op.Reply}

theorem stored_concat (h : storedStatus call = none) : stored (calls ++ [call]) = stored calls := by
  have hcall : stored [call] = [] := List.filterMap_cons_none h
  rw [stored, List.filterMap_append]
  exact (congrArg _ hcall).trans (List.append_nil _)

theorem deadLettered_concat (h : deadLetter? call = none) :
    deadLettered (calls ++ [call]) = deadLettered calls := by
  have hcall : deadLettered [call] = [] := List.filterMap_cons_none h
  rw [deadLettered, List.filterMap_append]
  exact (congrArg _ hcall).trans (List.append_nil _)

theorem stored_setJobStatus {id : String} {status : Status} (h : stored calls = []) :
    stored (calls ++ [⟨.setJobStatus id status, .ok ()⟩]) = [(id, status)] := by
  rw [stored, List.filterMap_append]
  exact congrArg (· ++ [(id, status)]) h

theorem deadLettered_deadLetter {reply : Except String Unit} (h : deadLettered calls = []) :
    deadLettered (calls ++ [⟨.deadLetter job, reply⟩]) = [job] := by
  rw [deadLettered, List.filterMap_append]
  exact congrArg (· ++ [job]) h

structure Undecided (calls : JobCalls) : Prop where
  stored : stored calls = []
  dead : deadLettered calls = []

theorem Undecided.concat (h : Undecided calls) (call : Sigma Jobs.Op.Reply)
    (hstored : storedStatus call = none) (hdead : deadLetter? call = none) :
    Undecided (calls ++ [call]) :=
  ⟨(stored_concat hstored).trans h.stored, (deadLettered_concat hdead).trans h.dead⟩

theorem Undecided.refused (h : Undecided calls) {id : String} {status : Status} {err : String}
    (hstored : storedStatus call = none) (hdead : deadLetter? call = none)
    (herr : refusedWrite call = some err) : Finishes id status (calls ++ [call]) (.error err) :=
  ⟨.inr ⟨(h.concat call hstored hdead).stored, err, rfl, call, by simp, herr⟩,
    (h.concat call hstored hdead).dead⟩

theorem wp_finishWith {status : Status} (h : Undecided calls) :
    (JobService.finishWith job status).wp trace (Finishes job.id status) calls := by
  refine wp_trace_call.mpr fun ms => wp_trace_call.mpr fun reply => ?_
  have htimed := h.concat ⟨.now, ms⟩ rfl rfl
  cases reply with
  | error err => exact htimed.refused rfl rfl rfl
  | ok _ =>
    have hmarked := htimed.concat ⟨.setJobTiming job.id .finishedMs ms, .ok ()⟩ rfl rfl
    refine wp_trace_call.mpr fun reply => ?_
    cases reply with
    | error err => exact hmarked.refused rfl rfl rfl
    | ok _ =>
      refine Prog.wp_call trivial fun reply => ⟨.inl ?_, ?_⟩
      · exact (stored_concat rfl).trans (stored_setJobStatus hmarked.stored)
      · exact (deadLettered_concat rfl).trans ((deadLettered_concat rfl).trans hmarked.dead)

theorem wp_storeFailed (h : Undecided calls) :
    (JobService.storeFailed job).wp trace
      (fun calls _ => FailureStored job.id calls ∧ deadLettered calls = []) calls := by
  refine wp_trace_call.mpr fun reply => ?_
  cases reply with
  | error err =>
    have hrefused := h.concat ⟨.setJobStatus job.id .failed, .error err⟩ rfl rfl
    exact ⟨.inr ⟨hrefused.stored, err, List.mem_append_right _ List.mem_cons_self⟩, hrefused.dead⟩
  | ok _ =>
    refine wp_trace_call.mpr fun ms => wp_trace_call.mpr fun reply => ⟨.inl ?_, ?_⟩
    · exact (stored_concat rfl).trans ((stored_concat rfl).trans (stored_setJobStatus h.stored))
    · exact (deadLettered_concat rfl).trans ((deadLettered_concat rfl).trans
        ((deadLettered_concat rfl).trans h.dead))

theorem wp_deadLetter {err : String} (h : Undecided calls) :
    (JobService.deadLetter job err).wp trace (fun calls _ => Dies { job with error := err } calls)
      calls := by
  refine Prog.wp_bind _ _ _ (wp_storeFailed h) ?_
  intro (calls : JobCalls) _ hfailed
  refine wp_trace_call.mpr fun reply => ?_
  have hdies {call : Sigma Jobs.Op.Reply} (hstored : storedStatus call = none)
      (hdead : deadLetter? call = none) : Dies { job with error := err }
        (calls ++ [⟨.deadLetter { job with error := err }, reply⟩] ++ [call]) := by
    constructor
    · rw [FailureStored, stored_concat hstored, stored_concat rfl]
      refine hfailed.1.imp_right (And.imp_right fun ⟨cause, hcause⟩ => ⟨cause, ?_⟩)
      exact List.mem_append_left _ (List.mem_append_left _ hcause)
    · rw [deadLettered_concat hdead]
      exact deadLettered_deadLetter hfailed.2
  cases reply with
  | error _ =>
    refine Prog.wp_call trivial fun reply => ?_
    exact hdies rfl rfl
  | ok _ =>
    refine Prog.wp_call trivial fun reply => ?_
    exact hdies rfl rfl

theorem wp_finish_paused {interrupt : Json} {interrupts : List Json} {result : GraphResult}
    (hresult : result.interrupts = some (interrupt :: interrupts)) :
    (JobService.finish job request result).wp trace (Finishes job.id .waitingForConfirmation) [] := by
  unfold JobService.finish
  rw [hresult]
  refine wp_trace_call.mpr fun reply => ?_
  have hundecided : Undecided [] := ⟨rfl, rfl⟩
  cases reply with
  | error err => exact hundecided.refused rfl rfl rfl
  | ok _ => exact wp_finishWith ⟨rfl, rfl⟩

theorem wp_finish_completed {result : GraphResult} {final : Jobs.FinalResult}
    (hresult : result.interrupts = none) (hfinal : result.final = some final)
    (hstatus : final.status ≠ "failed") :
    (JobService.finish job request result).wp trace (Finishes job.id .completed) [] := by
  simp only [JobService.finish, hresult, hfinal, hstatus, ↓reduceIte]
  exact wp_finishWith ⟨rfl, rfl⟩

theorem wp_finish_failed {result : GraphResult} (final : Jobs.FinalResult)
    (hresult : result.interrupts = none) (hfinal : result.final = some final)
    (hstatus : final.status = "failed") :
    (JobService.finish job request result).wp trace
      (fun calls _ => Dies { job with error := final.message } calls) [] := by
  simp only [JobService.finish, hresult, hfinal, hstatus, ↓reduceIte]
  exact wp_deadLetter ⟨rfl, rfl⟩

end

theorem FinalStatus.text_eq_failed (status : FinalStatus) : status.text = "failed" ↔ status = .failed := by
  cases status <;> decide

/-- What the worker makes of an invocation that has returned. -/
inductive Settled (r : Run) (job : Job) (calls : JobCalls) (reply : Except String Unit) : Prop
  | waiting (phase : r.phase = .paused) (finishes : Finishes job.id .waitingForConfirmation calls reply)
  | completed (final : FinalResult) (phase : r.phase = .ended)
      (reported : r.thread.values.final = some final) (status : final.status ≠ .failed)
      (finishes : Finishes job.id .completed calls reply)
  | failed (final : FinalResult) (phase : r.phase = .ended)
      (reported : r.thread.values.final = some final) (status : final.status = .failed)
      (dies : Dies { job with error := final.message } calls)

theorem settled_finish {modelValidate : Json → Except String Selection} {r : Run}
    (h : Invariant modelValidate r) {plain : Evaluation → Json} {value : GraphResult}
    (hresult : result plain r = some (.ok value)) (job : Job) (request : AgentRequest)
    (env : (o : Jobs.Op) → o.Reply) :
    Settled r job ((JobService.finish job request value).interpret (record env) []).2
      ((JobService.finish job request value).interpret (record env) []).1 := by
  cases hphase : r.phase with
  | running => simp [result, hphase] at hresult
  | failed exc => simp [result, hphase] at hresult
  | paused =>
    obtain ⟨payload, hpayload⟩ := h.paused hphase
    simp only [result, hphase, hpayload, Option.some.injEq, Except.ok.injEq] at hresult
    subst hresult
    exact .waiting hphase (interpret_of_wp (wp_finish_paused rfl) env)
  | ended =>
    obtain ⟨final, hreported⟩ := h.ended hphase
    have hfinal := hreported.reported
    simp only [result, hphase, hfinal, Option.some.injEq, Except.ok.injEq] at hresult
    subst hresult
    by_cases hstatus : final.status = .failed
    · have hdies : (JobService.finish job request { final := some final.fields }).wp trace
          (fun calls _ => Dies { job with error := final.message } calls) [] :=
        wp_finish_failed final.fields rfl rfl ((FinalStatus.text_eq_failed final.status).mpr hstatus)
      exact .failed final hphase hfinal hstatus (interpret_of_wp hdies env)
    · have hfinishes := mt (FinalStatus.text_eq_failed final.status).mp hstatus
      exact .completed final hphase hfinal hstatus
        (interpret_of_wp (wp_finish_completed rfl rfl hfinishes) env)

theorem outcome_reported (history : List Invocation) (i : Invocation) (r : Run)
    (h : i.run (after history) = .ok r) :
    (7 ≤ i.envs.length → r.phase ≠ .running) ∧
    (r.phase = .ended → ∃ final, Reported r final) ∧
    ∀ plain value, result plain r = some (.ok value) →
      ∀ (job : Job) (request : AgentRequest) (env : (o : Jobs.Op) → o.Reply),
        Settled r job ((JobService.finish job request value).interpret (record env) []).2
          ((JobService.finish job request value).interpret (record env) []).1 := by
  have hinvariant := Invocation.invariant (saved_after history) h
  exact ⟨Invocation.phase_ne_running (saved_after history) h, hinvariant.ended,
    fun _ _ hresult => settled_finish hinvariant hresult⟩

theorem outcome_reported_sample :
    ∃ r, (Sample.confirm 1).run (after [Sample.message]) = .ok r ∧ r.phase = .ended ∧
      ∃ final, final.status = .completed ∧ Reported r final ∧
        ∀ (job : Job) (env : (o : Jobs.Op) → o.Reply), Settled r job
          ((JobService.finish job {} { final := some final.fields }).interpret (record env) []).2
          ((JobService.finish job {} { final := some final.fields }).interpret (record env) []).1 := by
  obtain ⟨r, hr, hrun⟩ := (Sample.confirm 1).exists_run (after [Sample.message])
    (fun r => decide (r.phase = .ended) &&
      r.thread.values.final.any fun (final : FinalResult) => decide (final.status = .completed))
    (by decide +kernel)
  simp only [Bool.and_eq_true, decide_eq_true_eq, Option.any_eq_true] at hrun
  obtain ⟨hphase, final', hfinal', hstatus⟩ := hrun
  obtain ⟨-, hended, hsettled⟩ := outcome_reported _ _ r hr
  obtain ⟨final, hreported⟩ := hended hphase
  have hfinal := hreported.reported
  refine ⟨r, hr, hphase, final, ?_, hreported, ?_⟩
  · rw [hfinal'] at hfinal
    cases hfinal
    exact hstatus
  · have hvalue : result (fun _ => .null) r = some (.ok { final := some final.fields }) := by
      simp only [result, hphase, hfinal, Option.map_some]
    exact fun job env => hsettled _ _ hvalue job {} env

end AgentsAtScale.Agent.Python
