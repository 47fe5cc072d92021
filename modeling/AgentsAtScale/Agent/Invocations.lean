import AgentsAtScale.Data.Uuid
import AgentsAtScale.Agent.GraphLaws

namespace AgentsAtScale.Agent.Python

open Airline StateGraph
open Jobs (Json AgentError)

inductive Input
  | message (text : String)
  | answer (answer : Json)

/-- A call of the runner.  It is cut off when the environments of its rounds are used
up. -/
structure Invocation where
  runner : AgentRunner
  input : Input
  envs : List Env

namespace Invocation

variable (i : Invocation)

def start (thread : Thread) : Except AgentError Run :=
  match i.input with
  | .message text => i.runner.run thread text
  | .answer answer => i.runner.resume thread answer

def run (thread : Thread) : Except AgentError Run :=
  (i.start thread).map (·.rounds i.runner.graph i.envs)

def save (thread : Thread) : Thread :=
  match i.run thread with
  | .ok r => r.thread
  | .error _ => thread

end Invocation

def after (history : List Invocation) : Thread :=
  history.foldl (fun thread i => i.save thread) { values := {} }

section

variable {i : Invocation} {thread : Thread} {r : Run}

theorem Invocation.run_eq_ok (h : i.run thread = .ok r) :
    ∃ first, i.start thread = .ok first ∧ r = first.rounds i.runner.graph i.envs := by
  unfold Invocation.run at h
  cases hstart : i.start thread with
  | error err =>
    rw [hstart] at h
    cases h
  | ok first =>
    rw [hstart] at h
    cases h
    exact ⟨first, rfl, rfl⟩

theorem Invocation.invariant_start (hsaved : Saved thread) (h : i.start thread = .ok r) :
    Invariant i.runner.modelValidate r := by
  unfold Invocation.start at h
  split at h
  · exact invariant_run h
  · exact invariant_resume hsaved h

theorem Invocation.invariant (hsaved : Saved thread) (h : i.run thread = .ok r) :
    Invariant i.runner.modelValidate r := by
  obtain ⟨first, hstart, rfl⟩ := Invocation.run_eq_ok h
  exact invariant_rounds (Invocation.invariant_start hsaved hstart) i.envs

theorem Invocation.phase_ne_running (hsaved : Saved thread) (h : i.run thread = .ok r)
    (henough : 7 ≤ i.envs.length) : r.phase ≠ .running := by
  obtain ⟨first, hstart, rfl⟩ := Invocation.run_eq_ok h
  exact rounds_end (Invocation.invariant_start hsaved hstart) henough

theorem Invocation.resumed {payload : Interrupt} {answer : Json} (h : i.run thread = .ok r)
    (hresumed : r.resumed = some (payload, answer)) :
    i.input = .answer answer ∧ thread.interrupt = some payload := by
  obtain ⟨first, hstart, rfl⟩ := Invocation.run_eq_ok h
  rw [Run.resumed_rounds] at hresumed
  unfold Invocation.start at hstart
  split at hstart
  · rw [AgentRunner.run_eq_ok hstart] at hresumed
    cases hresumed
  · rename_i hinput
    obtain ⟨payload', hpayload, rfl⟩ := AgentRunner.resume_eq_ok hstart
    cases hresumed
    exact ⟨hinput, hpayload⟩

theorem Invocation.saved_save (hsaved : Saved thread) : Saved (i.save thread) := by
  unfold Invocation.save
  split
  · exact (Invocation.invariant hsaved ‹_›).saved
  · exact hsaved

theorem after_invariant {I : Thread → Prop} (init : I { values := {} })
    (keep : ∀ (i : Invocation) thread, I thread → I (i.save thread)) (history : List Invocation) :
    I (after history) := by
  have hfoldl (thread : Thread) (h : I thread) :
      I (history.foldl (fun thread i => i.save thread) thread) := by
    induction history generalizing thread with
    | nil => exact h
    | cons i history ih => exact ih _ (keep i thread h)
  exact hfoldl _ init

theorem saved_after (history : List Invocation) : Saved (after history) :=
  after_invariant nofun (fun _ _ hsaved => Invocation.saved_save hsaved) history

theorem Invocation.exists_run (i : Invocation) (thread : Thread) (p : Run → Bool)
    (h : (match i.run thread with
      | .ok r => p r
      | .error _ => false) = true) : ∃ r, i.run thread = .ok r ∧ p r = true := by
  split at h
  · exact ⟨_, ‹_›, h⟩
  · cases h

end

theorem executed_of_confirmed (history : List Invocation) (i : Invocation) (r : Run)
    (h : i.run (after history) = .ok r) :
    executed r.calls = [] ∨ ∃ before selection reply more,
      r.calls = before ++ ⟨.executeRebooking selection, reply⟩ :: more ∧
      executed before = [] ∧ executed more = [] ∧
      (∃ payload answer, i.input = .answer answer ∧ (after history).interrupt = some payload ∧
        Confirms i.runner.modelValidate answer selection ∧
        payload.evaluation.options.any (RebookingOption.offers selection) = true) ∧
      (∃ context segment, r.thread.values.reservationContext = some context ∧
        selectedSegment context = .ok segment ∧ segment.segment.id = selection.segmentId) ∧
      ∃ validation, ⟨.validateChange selection, .ok validation⟩ ∈ before ∧
        validation ≠ .bool false := by
  obtain hfresh | ⟨before, selection, reply, more, hcalls, hbefore, hmore, hjustified⟩ :=
    (Invocation.invariant (saved_after history) h).calls
  · exact .inl hfresh
  · obtain ⟨payload, answer, hresumed, hconfirms, hoffered⟩ := hjustified.answer
    obtain ⟨hinput, hinterrupt⟩ := Invocation.resumed h hresumed
    exact .inr ⟨before, selection, reply, more, hcalls, hbefore, hmore,
      ⟨payload, answer, hinput, hinterrupt, hconfirms, hoffered⟩, hjustified.segment,
      hjustified.validated⟩

namespace Sample

def request : Request := ⟨"ABC123", none, some 0, some 2000⟩

def flight (id : UUID) : FlightValue := ⟨⟨"SCL", "LIM", 1000, .scheduled⟩, id⟩

def fareClass : FareClassValue := ⟨⟨true, 0⟩, 1⟩

def reservation : ReservationDetails where
  reservation := ⟨⟨"ABC123", 1, .confirmed, 100, "USD"⟩, 1⟩
  passengers := [1]
  segments :=
    [{ segment := ⟨⟨1, 1, 1, .confirmed, 100, "USD"⟩, 1⟩, flight := flight 1, fareClass := fareClass }]

def option : RebookingOption where
  flight := flight 3
  fareClass := fareClass
  flightFare := ⟨⟨50, "USD", 5⟩, 3, 3, 1⟩
  fareDifference := -50
  changeFee := 0

def selection (segmentId : UUID) : Selection := ⟨segmentId, 3, 1, none, 0⟩

def env : Env
  | .understandRequest _ => Except.ok request
  | .evaluateOptions _ _ _ => Except.ok { request := request, options := [], credits := [] }
  | .getReservation _ => Except.ok reservation
  | .searchRebookingOptions _ => Except.ok [option]
  | .getAvailableTravelCredits _ _ => Except.ok []
  | .validateChange _ => Except.ok (.bool true)
  | .executeRebooking _ => Except.ok (.bool true)
  | .verifyRebooking _ => Except.ok (.bool true)

def uuid (members : List (String × Json)) (key : String) : Option UUID :=
  match Jobs.Python.get members key with
  | some (.string text) => Data.Uuid.parse text
  | _ => none

def modelValidate : Json → Except String Selection
  | .object members =>
    match uuid members "segment_id", uuid members "new_flight_id", uuid members "new_fare_class_id" with
    | some segmentId, some newFlightId, some newFareClassId =>
      .ok ⟨segmentId, newFlightId, newFareClassId, none, 0⟩
    | _, _, _ => .error "validation errors for RebookingSelection"
  | _ => .error "validation errors for RebookingSelection"

def runner : AgentRunner := { modelValidate := modelValidate }

def message : Invocation :=
  { runner := runner, input := .message "Move my flight.", envs := List.replicate 7 env }

def confirmed (segmentId : UUID) : Json :=
  .object [("confirmed", .bool true), ("selection", .object
    [("segment_id", .string (Data.Uuid.toText segmentId)), ("new_flight_id", .string (Data.Uuid.toText 3)),
      ("new_fare_class_id", .string (Data.Uuid.toText 1))])]

def confirm (segmentId : UUID) : Invocation := { message with input := .answer (confirmed segmentId) }

def decline : Invocation := { message with input := .answer (.object [("confirmed", .bool false)]) }

end Sample

theorem executed_of_confirmed_sample :
    ∃ r, (Sample.confirm 1).run (after [Sample.message]) = .ok r ∧
      executed r.calls = [Sample.selection 1] ∧
      ∃ payload, (after [Sample.message]).interrupt = some payload ∧
        payload.evaluation.options.any (RebookingOption.offers (Sample.selection 1)) = true := by
  obtain ⟨r, hr, hrun⟩ := (Sample.confirm 1).exists_run (after [Sample.message])
    (fun r => decide (executed r.calls = [Sample.selection 1])) (by decide +kernel)
  have hexecuted := of_decide_eq_true hrun
  obtain hfresh | ⟨before, selection, reply, more, hcalls, hbefore, hmore,
      ⟨payload, _, _, hinterrupt, _, hoffered⟩, _, _⟩ := executed_of_confirmed _ _ r hr
  · rw [hexecuted] at hfresh
    cases hfresh
  · have hselection : [selection] = [Sample.selection 1] := by
      rw [← hexecuted, hcalls, executed_append, hbefore]
      change _ = selection :: executed more
      rw [hmore]
    cases hselection
    exact ⟨r, hr, hexecuted, payload, hinterrupt, hoffered⟩

end AgentsAtScale.Agent.Python
