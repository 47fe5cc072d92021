import AgentsAtScale.Agent.Graph

namespace AgentsAtScale.Agent.Python

open Airline Program StateGraph
open Jobs (Json)

abbrev Calls := List (Sigma Op.Reply)

def Op.executes : Op → Option Selection
  | .executeRebooking selection => some selection
  | _ => none

def executed (calls : Calls) : List Selection := calls.filterMap (·.1.executes)

def Confirms (modelValidate : Json → Except String Selection) (answer : Json) (selection : Selection) :
    Prop :=
  ∃ members value, answer = .object members ∧
    (Jobs.Python.get members "confirmed").any Jobs.Python.truthy = true ∧
    Jobs.Python.get members "selection" = some value ∧ modelValidate value = .ok selection

structure Chosen (values : AgentState) (context : Context) (segment : ReservationSegmentDetails) :
    Prop where
  loaded : values.reservationContext = some context
  requested : values.request = some context.request
  selected : selectedSegment context = .ok segment
  window : ∃ window, requireWindow context.request = .ok window

structure Offering (values : AgentState) (evaluation : Evaluation) : Prop where
  shown : values.evaluation = some evaluation
  chosen : ∃ context segment, Chosen values context segment ∧ evaluation.request = context.request

def Saved (thread : Thread) : Prop :=
  ∀ payload, thread.interrupt = some payload →
    thread.next = [.askConfirmation] ∧ Offering thread.values payload.evaluation

section

variable (modelValidate : Json → Except String Selection)

/-- Why a selection may be carried out after these calls. -/
structure Justified (resumed : Option (Interrupt × Json)) (values : AgentState) (calls : Calls)
    (selection : Selection) : Prop where
  answer : ∃ payload answer, resumed = some (payload, answer) ∧
    Confirms modelValidate answer selection ∧
    payload.evaluation.options.any (RebookingOption.offers selection) = true
  segment : ∃ context segment, values.reservationContext = some context ∧
    selectedSegment context = .ok segment ∧ segment.segment.id = selection.segmentId
  validated : ∃ validation, ⟨.validateChange selection, .ok validation⟩ ∈ calls ∧
    validation ≠ .bool false

def Guarded (resumed : Option (Interrupt × Json)) (values : AgentState) (calls : Calls) : Prop :=
  executed calls = [] ∨ ∃ before selection reply more,
    calls = before ++ ⟨.executeRebooking selection, reply⟩ :: more ∧
    executed before = [] ∧ executed more = [] ∧
    Justified modelValidate resumed values before selection

inductive Position (r : Run) : Prop
  | understandRequest (next : r.thread.next = [.understandRequest]) (fresh : executed r.calls = [])
  | getReservation (next : r.thread.next = [.getReservation]) (fresh : executed r.calls = [])
  | gather (context : Context) (next : r.thread.next = [.searchAlternatives, .getTravelCredits])
      (reservation : r.thread.values.reservationContext = some context)
      (request : r.thread.values.request = some context.request) (fresh : executed r.calls = [])
  | evaluateOptions (context : Context) (segment : ReservationSegmentDetails)
      (next : r.thread.next = [.evaluateOptions]) (chosen : Chosen r.thread.values context segment)
      (fresh : executed r.calls = [])
  | askConfirmation (evaluation : Evaluation) (next : r.thread.next = [.askConfirmation])
      (answer : r.answer = none) (offering : Offering r.thread.values evaluation)
      (fresh : executed r.calls = [])
  | answered (payload : Interrupt) (answer : Json) (next : r.thread.next = [.askConfirmation])
      (pending : r.answer = some answer) (resumed : r.resumed = some (payload, answer))
      (offering : Offering r.thread.values payload.evaluation) (fresh : executed r.calls = [])
      (unexplained : .explainInvalidChange ∉ r.visited)
  | validateChange (payload : Interrupt) (answer : Json) (confirmation : ConfirmationResult)
      (next : r.thread.next = [.validateChange]) (resumed : r.resumed = some (payload, answer))
      (offering : Offering r.thread.values payload.evaluation)
      (confirmed : r.thread.values.confirmation = some confirmation)
      (evaluation : confirmation.evaluation = payload.evaluation)
      (confirms : ∀ selection, confirmation.confirmed = true →
        confirmation.selection = some selection → Confirms modelValidate answer selection)
      (fresh : executed r.calls = []) (unexplained : .explainInvalidChange ∉ r.visited)
  | explainInvalidChange (validation : ValidationResult) (context : Context)
      (segment : ReservationSegmentDetails) (next : r.thread.next = [.explainInvalidChange])
      (invalid : r.thread.values.validation = some validation)
      (notDeclined : validation.userDeclined = false)
      (chosen : Chosen r.thread.values context segment) (fresh : executed r.calls = [])
  | refreshContext (context : Context) (segment : ReservationSegmentDetails)
      (next : r.thread.next = [.refreshContext]) (chosen : Chosen r.thread.values context segment)
      (fresh : executed r.calls = [])
  | executeRebooking (validation : ValidationResult) (selection : Selection)
      (next : r.thread.next = [.executeRebooking])
      (validated : r.thread.values.validation = some validation)
      (selected : validation.selection = some selection)
      (justified : Justified modelValidate r.resumed r.thread.values r.calls selection)
      (fresh : executed r.calls = []) (unexplained : .explainInvalidChange ∉ r.visited)
  | verifyRebooking (validation : ValidationResult) (selection : Selection) (execution : Json)
      (before : Calls) (next : r.thread.next = [.verifyRebooking])
      (validated : r.thread.values.validation = some validation)
      (selected : validation.selection = some selection)
      (calls : r.calls = before ++ [⟨.executeRebooking selection, .ok execution⟩])
      (unexplained : .explainInvalidChange ∉ r.visited)
  | finalizeDeclined (next : r.thread.next = [.finalizeDeclined]) (fresh : executed r.calls = [])
  | finalizeFailed (final : FinalResult) (next : r.thread.next = [.finalizeFailed])
      (written : r.written.final = some final) (reported : r.thread.values.final = some final)
      (failed : final.status = .failed) (unexplained : .explainInvalidChange ∉ r.visited)

/-- The final result of an invocation that has ended. -/
structure Reported (r : Run) (final : FinalResult) : Prop where
  written : r.written.final = some final
  reported : r.thread.values.final = some final
  completed : final.status = .completed → ∃ before selection execution verification,
    r.calls = before ++ [⟨.executeRebooking selection, .ok execution⟩,
      ⟨.verifyRebooking selection, .ok verification⟩]
  declined : final.status = .declined → executed r.calls = []
  explained : .explainInvalidChange ∈ r.visited → executed r.calls = []

structure Invariant (r : Run) : Prop where
  saved : Saved r.thread
  calls : Guarded modelValidate r.resumed r.thread.values r.calls
  running : r.phase = .running → Position modelValidate r
  paused : r.phase = .paused → ∃ payload, r.thread.interrupt = some payload
  ended : r.phase = .ended → ∃ final, Reported r final

end

section

variable {modelValidate : Json → Except String Selection} {r : Run} {calls : Calls}
  {values update : AgentState}

@[simp] theorem executed_append (calls calls' : Calls) :
    executed (calls ++ calls') = executed calls ++ executed calls' := List.filterMap_append

theorem executed_other {o : Op} {reply : o.Reply} (h : o.executes = none) :
    executed (calls ++ [⟨o, reply⟩]) = executed calls := by
  have hnone : executed [⟨o, reply⟩] = [] := List.filterMap_cons_none h
  rw [executed_append, hnone, List.append_nil]

theorem successors_single (node : Node) (values : AgentState) :
    (graph modelValidate).successors values [node] = next node values := by
  have hjoins : ((graph modelValidate).joins.filter fun join => join.1.all (· ∈ [node])) = [] := by
    cases node <;> rfl
  simp only [Graph.successors, hjoins, List.map_nil, List.append_nil, List.mapM_cons, List.mapM_nil]
  change ((next node values).bind fun nodes => .ok [nodes]).map List.flatten = _
  cases next node values with
  | error exc => rfl
  | ok nodes => exact congrArg Except.ok (List.append_nil nodes)

theorem finish_update {node : Node} {nodes : List Node} (hnext : r.thread.next = [node])
    (h : next node (r.thread.values.merge update) = .ok nodes) :
    Run.finish (graph modelValidate) r (.ok (.ok update)) =
      r.advance (graph modelValidate) update nodes := by
  have hsuccessors : (graph modelValidate).successors
      ((graph modelValidate).merge r.thread.values update) r.thread.next = .ok nodes := by
    rw [hnext, successors_single]
    exact h
  simp only [Run.finish, hsuccessors]

theorem finish_gather (hnext : r.thread.next = [.searchAlternatives, .getTravelCredits]) :
    Run.finish (graph modelValidate) r (.ok (.ok update)) =
      r.advance (graph modelValidate) update [.evaluateOptions] := by
  simp only [Run.finish, hnext]
  rfl

theorem not_visited {node other : Node} {nodes : List Node} (hnext : r.thread.next = [node])
    (hvisited : other ∉ r.visited) (hne : other ≠ node) :
    other ∉ ({ r with calls := calls }.advance (graph modelValidate) update nodes).visited := by
  change other ∉ r.visited ++ r.thread.next
  rw [hnext, List.mem_append, List.mem_singleton]
  exact not_or.mpr ⟨hvisited, hne⟩

theorem expectedSegmentId_eq {context : Context} {segment : ReservationSegmentDetails}
    (h : Chosen values context segment) :
    expectedSegmentId values context.request = some segment.segment.id := by
  have hsegment := h.selected
  simp only [expectedSegmentId, h.loaded, Option.map_some]
  simp only [selectedSegment] at hsegment
  cases hid : context.request.segmentId with
  | some id =>
    simp only [hid] at hsegment
    split at hsegment
    · rename_i found hfound
      cases hsegment
      have hfind := List.find?_some hfound
      rw [decide_eq_true_eq] at hfind
      split <;> simp [hfind]
    · cases hsegment
  | none =>
    simp only [hid] at hsegment
    split at hsegment
    · rename_i only hsegments
      cases hsegment
      rw [hsegments]
      rfl
    · cases hsegment

theorem confirmation_spec {answer : Json} {evaluation : Evaluation} {result : ConfirmationResult}
    (h : confirmation modelValidate answer evaluation = .ok result) :
    result.evaluation = evaluation ∧ ∀ selection, result.confirmed = true →
      result.selection = some selection → Confirms modelValidate answer selection := by
  unfold confirmation at h
  split at h
  · rename_i members
    split at h
    · cases h
      exact ⟨rfl, nofun⟩
    · rename_i value hvalue
      split at h
      · cases h
      · rename_i selection hselection
        cases h
        refine ⟨rfl, ?_⟩
        intro _ hconfirmed hsome
        cases hsome
        exact ⟨members, value, rfl, hconfirmed, (Option.filter_eq_some_iff.mp hvalue).1, hselection⟩
  · cases h

theorem Chosen.merge {context : Context} {segment : ReservationSegmentDetails}
    (h : Chosen values context segment) (hcontext : update.reservationContext = none)
    (hrequest : update.request = none) : Chosen (values.merge update) context segment := by
  constructor
  · rw [AgentState.merge, hcontext]
    exact h.loaded
  · rw [AgentState.merge, hrequest]
    exact h.requested
  · exact h.selected
  · exact h.window

theorem Offering.merge {evaluation : Evaluation} (h : Offering values evaluation)
    (hcontext : update.reservationContext = none) (hrequest : update.request = none)
    (hevaluation : update.evaluation = none) : Offering (values.merge update) evaluation := by
  obtain ⟨context, segment, hchosen, heq⟩ := h.chosen
  refine ⟨?_, context, segment, hchosen.merge hcontext hrequest, heq⟩
  rw [AgentState.merge, hevaluation]
  exact h.shown

theorem Justified.merge {resumed : Option (Interrupt × Json)} {selection : Selection}
    (h : Justified modelValidate resumed values calls selection)
    (hcontext : update.reservationContext = none) :
    Justified modelValidate resumed (values.merge update) calls selection := by
  refine ⟨h.answer, ?_, h.validated⟩
  rw [AgentState.merge, hcontext]
  exact h.segment

theorem Guarded.merge {resumed : Option (Interrupt × Json)}
    (h : Guarded modelValidate resumed values calls) (hcontext : update.reservationContext = none) :
    Guarded modelValidate resumed (values.merge update) calls := by
  obtain hfresh | ⟨before, selection, reply, more, heq, hbefore, hmore, hjustified⟩ := h
  · exact .inl hfresh
  · exact .inr ⟨before, selection, reply, more, heq, hbefore, hmore, hjustified.merge hcontext⟩

theorem Guarded.other {resumed : Option (Interrupt × Json)} {o : Op} {reply : o.Reply}
    (h : Guarded modelValidate resumed values calls) (ho : o.executes = none) :
    Guarded modelValidate resumed values (calls ++ [⟨o, reply⟩]) := by
  obtain hfresh | ⟨before, selection, reply', more, heq, hbefore, hmore, hjustified⟩ := h
  · exact .inl ((executed_other ho).trans hfresh)
  · refine .inr ⟨before, selection, reply', more ++ [⟨o, reply⟩], ?_, hbefore, ?_, hjustified⟩
    · rw [heq, List.append_assoc, List.cons_append]
    · exact (executed_other ho).trans hmore

theorem Justified.guarded {resumed : Option (Interrupt × Json)} {selection : Selection}
    (h : Justified modelValidate resumed values calls selection) (hfresh : executed calls = [])
    (reply : Except Exception Json) :
    Guarded modelValidate resumed values (calls ++ [⟨.executeRebooking selection, reply⟩]) :=
  .inr ⟨calls, selection, reply, [], rfl, hfresh, rfl, h⟩

theorem Invariant.fail {exc : Exception} (h : Invariant modelValidate r)
    (hcalls : Guarded modelValidate r.resumed r.thread.values calls) :
    Invariant modelValidate (Run.fail { r with calls := calls } exc) where
  saved := h.saved
  calls := hcalls
  running := nofun
  paused := nofun
  ended := nofun

def Leads (modelValidate : Json → Except String Selection) (r : Run) (calls : Calls)
    (node : Task NodeOutcome) : Prop :=
  node.wp trace (fun calls outcome => Invariant modelValidate
    (Run.finish (graph modelValidate) { r with calls := calls } outcome.result)) calls

namespace Leads

theorem call {o : Op} {f : o.Reply → Task NodeOutcome}
    (h : ∀ reply, Leads modelValidate r (calls ++ [⟨o, reply⟩]) (f reply)) :
    Leads modelValidate r calls (Prog.call o >>= f) :=
  wp_trace_call.mpr h

theorem raise {message : String} (h : Invariant modelValidate r) :
    Leads modelValidate r r.calls (Python.raise message) :=
  h.fail h.calls

theorem raise_after {o : Op} {reply : o.Reply} {message : String} (h : Invariant modelValidate r)
    (ho : o.executes = none) :
    Leads modelValidate r (r.calls ++ [⟨o, reply⟩]) (Python.raise message) :=
  h.fail (h.calls.other ho)

theorem propagate {o : Op} {reply : o.Reply} {exc : Exception} (h : Invariant modelValidate r)
    (ho : o.executes = none) :
    Leads modelValidate r (r.calls ++ [⟨o, reply⟩]) (pure (.raise exc)) :=
  h.fail (h.calls.other ho)

theorem move {node succ : Node} {nodes : List Node} (hnext : r.thread.next = [node])
    (hroute : next node (r.thread.values.merge update) = .ok (succ :: nodes))
    (hcalls : Guarded modelValidate r.resumed (r.thread.values.merge update) calls)
    (hposition : Position modelValidate
      ({ r with calls := calls }.advance (graph modelValidate) update (succ :: nodes))) :
    Leads modelValidate r calls (Python.update update) := by
  change Invariant modelValidate (Run.finish (graph modelValidate) { r with calls := calls } (.ok (.ok update)))
  rw [finish_update (r := { r with calls := calls }) hnext hroute]
  exact ⟨nofun, hcalls, fun _ => hposition, nofun, nofun⟩

theorem moveFresh {node succ : Node} {nodes : List Node} (hnext : r.thread.next = [node])
    (hroute : next node (r.thread.values.merge update) = .ok (succ :: nodes))
    (hfresh : executed calls = [])
    (hposition : executed calls = [] → Position modelValidate
      ({ r with calls := calls }.advance (graph modelValidate) update (succ :: nodes))) :
    Leads modelValidate r calls (Python.update update) :=
  move hnext hroute (.inl hfresh) (hposition hfresh)

theorem stop {node : Node} {final : FinalResult} (hnext : r.thread.next = [node])
    (hroute : next node (r.thread.values.merge update) = .ok [])
    (hcalls : Guarded modelValidate r.resumed (r.thread.values.merge update) calls)
    (hreported : Reported ({ r with calls := calls }.advance (graph modelValidate) update []) final) :
    Leads modelValidate r calls (Python.update update) := by
  change Invariant modelValidate (Run.finish (graph modelValidate) { r with calls := calls } (.ok (.ok update)))
  rw [finish_update (r := { r with calls := calls }) hnext hroute]
  exact ⟨nofun, hcalls, nofun, nofun, fun _ => ⟨final, hreported⟩⟩

end Leads

section

variable (h : Invariant modelValidate r)

include h

theorem leads_understandRequest (hnext : r.thread.next = [.understandRequest])
    (hfresh : executed r.calls = []) :
    Leads modelValidate r r.calls (understandRequest r.thread.values) := by
  unfold understandRequest
  dsimp only
  split
  · exact .raise h
  · refine .call fun reply => ?_
    cases reply with
    | error exc => exact .propagate h rfl
    | ok request =>
      dsimp only
      split
      · exact .raise_after h rfl
      · exact .moveFresh hnext rfl ((executed_other rfl).trans hfresh) (.getReservation rfl ·)

theorem leads_getReservation (hnext : r.thread.next = [.getReservation])
    (hfresh : executed r.calls = []) :
    Leads modelValidate r r.calls (getReservation r.thread.values) := by
  unfold getReservation
  split
  · exact .raise h
  · rename_i request hrequest
    refine .call fun reply => ?_
    cases reply with
    | error exc => exact .propagate h rfl
    | ok reservation =>
      dsimp only
      split
      · exact .raise_after h rfl
      · exact .moveFresh hnext rfl ((executed_other rfl).trans hfresh)
          (.gather { request := request, reservation := reservation } rfl rfl hrequest ·)

theorem leads_evaluateOptions {context : Context} {segment : ReservationSegmentDetails}
    (hnext : r.thread.next = [.evaluateOptions]) (hchosen : Chosen r.thread.values context segment)
    (hfresh : executed r.calls = []) :
    Leads modelValidate r r.calls (evaluateOptions r.thread.values) := by
  unfold evaluateOptions
  rw [hchosen.requested]
  split
  · rename_i request search credits hrequest hsearch hcredits
    cases hrequest
    refine .call fun reply => ?_
    cases reply with
    | error exc => exact .propagate h rfl
    | ok result =>
      dsimp only
      split
      · exact .raise_after h rfl
      · exact .moveFresh hnext rfl ((executed_other rfl).trans hfresh)
          (.askConfirmation _ rfl rfl ⟨rfl, context, segment, hchosen.merge rfl rfl, rfl⟩ ·)
  · exact .raise h

omit h in
theorem leads_askConfirmation {evaluation : Evaluation} (hnext : r.thread.next = [.askConfirmation])
    (hoffering : Offering r.thread.values evaluation) (hfresh : executed r.calls = []) :
    Leads modelValidate r r.calls (askConfirmation modelValidate r.thread.values none) := by
  unfold askConfirmation
  rw [hoffering.shown]
  refine ⟨?_, .inl hfresh, nofun, fun _ => ⟨_, rfl⟩, nofun⟩
  rintro _ ⟨⟩
  exact ⟨hnext, hoffering⟩

theorem leads_answered {payload : Interrupt} {answer : Json}
    (hnext : r.thread.next = [.askConfirmation]) (hresumed : r.resumed = some (payload, answer))
    (hoffering : Offering r.thread.values payload.evaluation) (hfresh : executed r.calls = [])
    (hunexplained : .explainInvalidChange ∉ r.visited) :
    Leads modelValidate r r.calls (askConfirmation modelValidate r.thread.values (some answer)) := by
  unfold askConfirmation
  rw [hoffering.shown]
  dsimp only
  split
  · exact .raise h
  · rename_i confirmation hconfirmation
    obtain ⟨hevaluation, hconfirms⟩ := confirmation_spec hconfirmation
    exact .moveFresh hnext rfl hfresh
      (.validateChange payload answer confirmation rfl hresumed (hoffering.merge rfl rfl rfl) rfl
        hevaluation hconfirms · (not_visited hnext hunexplained nofun))

theorem leads_validateChange {payload : Interrupt} {answer : Json} {confirmation : ConfirmationResult}
    (hnext : r.thread.next = [.validateChange]) (hresumed : r.resumed = some (payload, answer))
    (hoffering : Offering r.thread.values payload.evaluation)
    (hconfirmed : r.thread.values.confirmation = some confirmation)
    (hevaluation : confirmation.evaluation = payload.evaluation)
    (hconfirms : ∀ selection, confirmation.confirmed = true →
      confirmation.selection = some selection → Confirms modelValidate answer selection)
    (hfresh : executed r.calls = []) (hunexplained : .explainInvalidChange ∉ r.visited) :
    Leads modelValidate r r.calls (validateChange r.thread.values) := by
  obtain ⟨context, segment, hchosen, hrequest⟩ := hoffering.chosen
  have invalid {calls : Calls} (selection : Selection) (reason : String)
      (hcalls : executed calls = []) : Leads modelValidate r calls
        (update (invalidChange confirmation.evaluation selection reason)) :=
    .moveFresh hnext rfl hcalls
      (.explainInvalidChange _ context segment rfl rfl rfl (hchosen.merge rfl rfl) ·)
  unfold validateChange
  rw [hconfirmed]
  dsimp only
  split
  · exact .moveFresh hnext rfl hfresh (.finalizeDeclined rfl ·)
  · rename_i hyes
    split
    · exact .raise h
    · rename_i selection hselection
      split
      · exact invalid _ _ hfresh
      · rename_i hsegment
        split
        · exact invalid _ _ hfresh
        · rename_i hoffered
          refine .call fun reply => ?_
          have hfresh' : executed (r.calls ++ [⟨.validateChange selection, reply⟩]) = [] :=
            (executed_other rfl).trans hfresh
          cases reply with
          | error exc =>
            dsimp only
            split
            · exact invalid _ _ hfresh'
            · exact .propagate h rfl
          | ok validation =>
            split
            · contradiction
            · exact invalid _ _ hfresh'
            · rename_i validation hne heq
              cases heq
              have hjustified : Justified modelValidate r.resumed r.thread.values
                  (r.calls ++ [⟨.validateChange selection, .ok validation⟩]) selection := by
                refine ⟨⟨payload, answer, hresumed, ?_, ?_⟩, ⟨context, segment, hchosen.loaded,
                  hchosen.selected, ?_⟩, validation, List.mem_concat_self, ?_⟩
                · exact hconfirms selection (by simpa using hyes) hselection
                · simpa [hevaluation] using hoffered
                · rw [hevaluation, hrequest, expectedSegmentId_eq hchosen] at hsegment
                  simpa using hsegment
                · rintro rfl
                  exact hne rfl
              exact .moveFresh hnext rfl hfresh' (.executeRebooking _ selection rfl rfl rfl
                (hjustified.merge rfl) · (not_visited hnext hunexplained nofun))

omit h in
theorem leads_explainInvalidChange {validation : ValidationResult} {context : Context}
    {segment : ReservationSegmentDetails} (hnext : r.thread.next = [.explainInvalidChange])
    (hinvalid : r.thread.values.validation = some validation)
    (hdeclined : validation.userDeclined = false) (hchosen : Chosen r.thread.values context segment)
    (hfresh : executed r.calls = []) :
    Leads modelValidate r r.calls (explainInvalidChange r.thread.values) := by
  unfold explainInvalidChange
  rw [hinvalid]
  simp only [hdeclined, Bool.false_eq_true, ↓reduceIte]
  split
  · exact .stop hnext rfl (.inl hfresh) ⟨rfl, rfl, nofun, nofun, fun _ => hfresh⟩
  · exact .moveFresh hnext rfl hfresh (.refreshContext context segment rfl (hchosen.merge rfl rfl) ·)

omit h in
theorem leads_refreshContext {context : Context} {segment : ReservationSegmentDetails}
    (hnext : r.thread.next = [.refreshContext]) (hchosen : Chosen r.thread.values context segment)
    (hfresh : executed r.calls = []) :
    Leads modelValidate r r.calls (refreshContext r.thread.values) :=
  .moveFresh hnext rfl hfresh (.gather context rfl hchosen.loaded hchosen.requested ·)

theorem leads_executeRebooking {validation : ValidationResult} {selection : Selection}
    (hnext : r.thread.next = [.executeRebooking])
    (hvalidated : r.thread.values.validation = some validation)
    (hselected : validation.selection = some selection)
    (hjustified : Justified modelValidate r.resumed r.thread.values r.calls selection)
    (hfresh : executed r.calls = []) (hunexplained : .explainInvalidChange ∉ r.visited) :
    Leads modelValidate r r.calls (executeRebooking r.thread.values) := by
  unfold executeRebooking
  rw [hvalidated]
  split
  · rename_i selection' validation' heq
    cases heq
    cases hselected
    refine .call fun reply => ?_
    cases reply with
    | error exc =>
      exact .move hnext rfl ((hjustified.guarded hfresh _).merge rfl)
        (.finalizeFailed _ rfl rfl rfl rfl (not_visited hnext hunexplained nofun))
    | ok execution =>
      exact .move hnext rfl ((hjustified.guarded hfresh _).merge rfl)
        (.verifyRebooking _ selection execution r.calls rfl hvalidated rfl rfl
          (not_visited hnext hunexplained nofun))
  · exact .raise h

theorem leads_verifyRebooking {validation : ValidationResult} {selection : Selection}
    {execution : Json} {before : Calls} (hnext : r.thread.next = [.verifyRebooking])
    (hvalidated : r.thread.values.validation = some validation)
    (hselected : validation.selection = some selection)
    (hcalls : r.calls = before ++ [⟨.executeRebooking selection, .ok execution⟩])
    (hunexplained : .explainInvalidChange ∉ r.visited) :
    Leads modelValidate r r.calls (verifyRebooking r.thread.values) := by
  unfold verifyRebooking
  rw [hvalidated]
  split
  · rename_i heq _
    cases heq
    cases hselected
    split
    · exact .raise h
    · refine .call fun reply => ?_
      have hguarded : Guarded modelValidate r.resumed r.thread.values
          (r.calls ++ [⟨.verifyRebooking selection, reply⟩]) := h.calls.other rfl
      cases reply with
      | error exc =>
        exact .move hnext rfl (hguarded.merge rfl)
          (.finalizeFailed _ rfl rfl rfl rfl (not_visited hnext hunexplained nofun))
      | ok verification =>
        refine .stop hnext rfl (hguarded.merge rfl) ⟨rfl, rfl, fun _ => ?_, nofun, fun hmem => ?_⟩
        · refine ⟨before, selection, execution, verification, ?_⟩
          change r.calls ++ _ = _
          rw [hcalls, List.append_assoc]
          rfl
        · exact absurd hmem (not_visited hnext hunexplained nofun)
  · exact .raise h

omit h in
theorem leads_finalizeDeclined (hnext : r.thread.next = [.finalizeDeclined])
    (hfresh : executed r.calls = []) :
    Leads modelValidate r r.calls (finalizeDeclined r.thread.values) :=
  .stop hnext rfl (.inl hfresh) ⟨rfl, rfl, nofun, fun _ => hfresh, fun _ => hfresh⟩

theorem leads_finalizeFailed {final : FinalResult} (hnext : r.thread.next = [.finalizeFailed])
    (hwritten : r.written.final = some final) (hreported : r.thread.values.final = some final)
    (hfailed : final.status = .failed) (hunexplained : .explainInvalidChange ∉ r.visited) :
    Leads modelValidate r r.calls (finalizeFailed r.thread.values) := by
  refine .stop hnext rfl (h.calls.merge rfl) (?_ : Reported _ final)
  refine ⟨hwritten, hreported, ?_, ?_, ?_⟩
  · simp [hfailed]
  · simp [hfailed]
  · intro hmem
    exact absurd hmem (not_visited hnext hunexplained nofun)

theorem wp_gather {context : Context}
    (hnext : r.thread.next = [.searchAlternatives, .getTravelCredits])
    (hcontext : r.thread.values.reservationContext = some context)
    (hrequest : r.thread.values.request = some context.request) (hfresh : executed r.calls = []) :
    ((graph modelValidate).runAll r.thread.values r.answer r.thread.next).wp trace
      (fun calls result => Invariant modelValidate
        (Run.finish (graph modelValidate) { r with calls := calls } result)) r.calls := by
  have hgather {calls : Calls} {segment : ReservationSegmentDetails}
      {search credits : AgentState} (hsegment : selectedSegment context = .ok segment)
      (hwindow : ∃ window, requireWindow context.request = .ok window)
      (hcalls : executed calls = []) (hcontext' : (search.merge credits).reservationContext = none)
      (hrequest' : (search.merge credits).request = none) :
      Invariant modelValidate (Run.finish (graph modelValidate) { r with calls := calls }
        (.ok (.ok (search.merge credits)))) := by
    rw [finish_gather (r := { r with calls := calls }) hnext]
    refine ⟨nofun, .inl hcalls, fun _ => ?_, nofun, nofun⟩
    exact .evaluateOptions context segment rfl
      (Chosen.merge ⟨hcontext, hrequest, hsegment, hwindow⟩ hcontext' hrequest') hcalls
  rw [hnext]
  apply wp_runAll_cons
  change (searchAlternatives r.thread.values).wp trace _ _
  unfold searchAlternatives
  rw [hcontext]
  dsimp only
  split
  · exact h.fail h.calls
  · rename_i segment hsegment
    split
    · exact h.fail h.calls
    · rename_i hwindow
      refine wp_trace_call.mpr fun reply => ?_
      cases reply with
      | error exc => exact h.fail (h.calls.other rfl)
      | ok options =>
        apply wp_runAll_single
        change (getTravelCredits r.thread.values).wp trace _ _
        unfold getTravelCredits
        rw [hcontext]
        refine wp_trace_call.mpr fun reply => ?_
        cases reply with
        | error exc => exact h.fail ((h.calls.other rfl).other rfl)
        | ok credits =>
          exact hgather hsegment ⟨_, hwindow⟩ ((executed_other rfl).trans ((executed_other rfl).trans hfresh))
            rfl rfl

theorem wp_round (hphase : r.phase = .running) :
    ((graph modelValidate).runAll r.thread.values r.answer r.thread.next).wp trace
      (fun calls result => Invariant modelValidate
        (Run.finish (graph modelValidate) { r with calls := calls } result)) r.calls := by
  have single {node : Node} (hnext : r.thread.next = [node])
      (hleads : Leads modelValidate r r.calls
        ((graph modelValidate).run node r.thread.values r.answer)) :
      ((graph modelValidate).runAll r.thread.values r.answer r.thread.next).wp trace
        (fun calls result => Invariant modelValidate
          (Run.finish (graph modelValidate) { r with calls := calls } result)) r.calls := by
    rw [hnext]
    exact wp_runAll_single hleads
  cases h.running hphase with
  | understandRequest hnext hfresh => exact single hnext (leads_understandRequest h hnext hfresh)
  | getReservation hnext hfresh => exact single hnext (leads_getReservation h hnext hfresh)
  | gather context hnext hcontext hrequest hfresh =>
    exact wp_gather h hnext hcontext hrequest hfresh
  | evaluateOptions context segment hnext hchosen hfresh =>
    exact single hnext (leads_evaluateOptions h hnext hchosen hfresh)
  | askConfirmation evaluation hnext hanswer hoffering hfresh =>
    refine single hnext ?_
    rw [hanswer]
    exact leads_askConfirmation hnext hoffering hfresh
  | answered payload answer hnext hanswer hresumed hoffering hfresh hunexplained =>
    refine single hnext ?_
    rw [hanswer]
    exact leads_answered h hnext hresumed hoffering hfresh hunexplained
  | validateChange payload answer confirmation hnext hresumed hoffering hconfirmed hevaluation
      hconfirms hfresh hunexplained =>
    exact single hnext (leads_validateChange h hnext hresumed hoffering hconfirmed hevaluation
      hconfirms hfresh hunexplained)
  | explainInvalidChange validation context segment hnext hinvalid hdeclined hchosen hfresh =>
    exact single hnext (leads_explainInvalidChange hnext hinvalid hdeclined hchosen hfresh)
  | refreshContext context segment hnext hchosen hfresh =>
    exact single hnext (leads_refreshContext hnext hchosen hfresh)
  | executeRebooking validation selection hnext hvalidated hselected hjustified hfresh
      hunexplained =>
    exact single hnext (leads_executeRebooking h hnext hvalidated hselected hjustified hfresh
      hunexplained)
  | verifyRebooking validation selection execution before hnext hvalidated hselected hcalls
      hunexplained =>
    exact single hnext (leads_verifyRebooking h hnext hvalidated hselected hcalls hunexplained)
  | finalizeDeclined hnext hfresh => exact single hnext (leads_finalizeDeclined hnext hfresh)
  | finalizeFailed final hnext hwritten hreported hfailed hunexplained =>
    exact single hnext (leads_finalizeFailed h hnext hwritten hreported hfailed hunexplained)

theorem invariant_round (hphase : r.phase = .running) (env : Env) :
    Invariant modelValidate (r.round (graph modelValidate) env) :=
  Run.round_of_wp hphase (wp_round h hphase) env

theorem invariant_rounds (envs : List Env) :
    Invariant modelValidate (r.rounds (graph modelValidate) envs) :=
  Run.rounds_invariant (fun _ env h hphase => invariant_round h hphase env) envs h

end

def rank : Node → Nat
  | .askConfirmation => 1
  | .evaluateOptions => 2
  | .searchAlternatives => 3
  | .getTravelCredits => 3
  | .refreshContext => 4
  | .explainInvalidChange => 5
  | .validateChange => 6
  | .getReservation => 4
  | .understandRequest => 5
  | .executeRebooking => 3
  | .verifyRebooking => 2
  | .finalizeFailed => 1
  | .finalizeDeclined => 1

def left (r : Run) : Nat :=
  match r.answer, r.thread.next with
  | some _, _ => 7
  | none, [] => 0
  | none, node :: _ => rank node

theorem rank_next {node succ : Node} {nodes : List Node} (hnode : node ≠ .askConfirmation)
    (h : next node values = .ok (succ :: nodes)) : rank succ < rank node := by
  cases node with
  | askConfirmation => contradiction
  | validateChange =>
    simp only [next, validationRoute] at h
    split at h <;> cases h <;> decide
  | explainInvalidChange =>
    simp only [next, explanationRoute] at h
    split at h <;> cases h <;> decide
  | executeRebooking =>
    simp only [next, executionRoute] at h
    split at h <;> cases h <;> decide
  | verifyRebooking =>
    simp only [next, executionRoute] at h
    split at h
    · cases h
    · cases h
      decide
    · cases h
  | searchAlternatives | getTravelCredits | finalizeFailed | finalizeDeclined => cases h
  | understandRequest | getReservation | refreshContext | evaluateOptions =>
    cases h
    decide

theorem rank_pos (node : Node) : 0 < rank node := by
  cases node <;> decide

theorem rank_le (node : Node) : rank node ≤ 6 := by
  cases node <;> decide

theorem left_le (r : Run) : left r ≤ 7 := by
  unfold left
  split
  · exact Nat.le_refl _
  · decide
  · exact (rank_le _).trans (by decide)

theorem left_of_next {node : Node} {nodes : List Node} (h : r.thread.next = node :: nodes) :
    rank node ≤ left r := by
  unfold left
  rw [h]
  split
  · exact (rank_le node).trans (by decide)
  · contradiction
  · rename_i heq
    cases heq
    exact Nat.le_refl _

theorem left_finish {node : Node} {result : Except Exception (Except Interrupt AgentState)}
    (hnext : r.thread.next = [node])
    (hrank : ∀ values succ nodes, next node values = .ok (succ :: nodes) → rank succ < left r)
    (hphase : (r.finish (graph modelValidate) result).phase = .running) :
    left (r.finish (graph modelValidate) result) < left r := by
  obtain ⟨update, nodes, hsuccessors, hfinish⟩ := Run.finish_running hphase
  rw [hfinish] at hphase ⊢
  rw [hnext, successors_single] at hsuccessors
  cases nodes with
  | nil => cases hphase
  | cons succ nodes => exact hrank _ _ _ hsuccessors

theorem left_round (h : Invariant modelValidate r) (hphase : r.phase = .running) (env : Env)
    (hround : (r.round (graph modelValidate) env).phase = .running) :
    left (r.round (graph modelValidate) env) < left r := by
  obtain ⟨calls, result, heq, hwp⟩ := Run.round_of_running (g := graph modelValidate) hphase env
  rw [heq] at hround ⊢
  have single {node : Node} (hnext : r.thread.next = [node]) (hnode : node ≠ .askConfirmation) :
      left (Run.finish (graph modelValidate) { r with calls := calls } result) < left r :=
    left_finish (r := { r with calls := calls }) hnext
      (fun _ _ _ hroute => (rank_next hnode hroute).trans_le (left_of_next hnext)) hround
  cases h.running hphase with
  | understandRequest hnext => exact single hnext nofun
  | getReservation hnext => exact single hnext nofun
  | gather _ hnext =>
    obtain ⟨update, nodes, hsuccessors, hfinish⟩ := Run.finish_running hround
    rw [hfinish]
    simp only [hnext] at hsuccessors
    cases hsuccessors
    exact Nat.lt_of_lt_of_le (by decide : 2 < 3) (left_of_next hnext)
  | evaluateOptions _ _ hnext => exact single hnext nofun
  | askConfirmation evaluation hnext hanswer hoffering =>
    have hpaused := hwp (fun _ result => ∃ payload, result = .ok (.error payload)) (by
      rw [hnext, hanswer]
      apply wp_runAll_single
      change (askConfirmation modelValidate r.thread.values none).wp trace _ _
      unfold askConfirmation
      rw [hoffering.shown]
      exact ⟨_, rfl⟩)
    obtain ⟨payload, rfl⟩ := hpaused
    cases hround
  | answered _ _ hnext hanswer =>
    have hleft : left r = 7 := by
      simp only [left, hanswer]
    refine left_finish (r := { r with calls := calls }) hnext ?_ hround
    rintro _ _ _ ⟨⟩
    exact hleft ▸ (by decide : 6 < 7)
  | validateChange _ _ _ hnext => exact single hnext nofun
  | explainInvalidChange _ _ _ hnext => exact single hnext nofun
  | refreshContext _ _ hnext => exact single hnext nofun
  | executeRebooking _ _ hnext => exact single hnext nofun
  | verifyRebooking _ _ _ _ hnext => exact single hnext nofun
  | finalizeDeclined hnext => exact single hnext nofun
  | finalizeFailed _ hnext => exact single hnext nofun

theorem Position.next_ne_nil (h : Position modelValidate r) : r.thread.next ≠ [] := by
  cases h <;> simp [*]

theorem rounds_end (h : Invariant modelValidate r) {envs : List Env} (henough : 7 ≤ envs.length) :
    (r.rounds (graph modelValidate) envs).phase ≠ .running := by
  refine Run.rounds_end (fun _ env h hphase => invariant_round h hphase env) ?_
    (fun _ env h hphase => left_round h hphase env) h ((left_le r).trans henough)
  intro r h hphase
  obtain ⟨node, nodes, hnext⟩ := List.exists_cons_of_ne_nil (h.running hphase).next_ne_nil
  exact (rank_pos node).trans_le (left_of_next hnext)

theorem AgentRunner.run_eq_ok {runner : AgentRunner} {thread : Thread} {message : String}
    (h : runner.run thread message = .ok r) :
    r = runner.graph.start (thread.values.merge
      { userInput := some message, maxRetries := some runner.maxRetries }) := by
  unfold AgentRunner.run at h
  split at h
  · cases h
  · exact (Except.ok.inj h).symm

theorem AgentRunner.resume_eq_ok {runner : AgentRunner} {thread : Thread} {answer : Json}
    (h : runner.resume thread answer = .ok r) :
    ∃ payload, thread.interrupt = some payload ∧ r = runner.graph.resume thread payload answer := by
  unfold AgentRunner.resume at h
  split at h
  · cases h
  · exact ⟨_, ‹_›, (Except.ok.inj h).symm⟩

theorem invariant_run {runner : AgentRunner} {thread : Thread} {message : String}
    (h : runner.run thread message = .ok r) : Invariant runner.modelValidate r := by
  rw [AgentRunner.run_eq_ok h]
  exact ⟨nofun, .inl rfl, fun _ => .understandRequest rfl rfl, nofun, nofun⟩

theorem invariant_resume {runner : AgentRunner} {thread : Thread} {answer : Json}
    (hsaved : Saved thread) (h : runner.resume thread answer = .ok r) :
    Invariant runner.modelValidate r := by
  obtain ⟨payload, hpayload, rfl⟩ := AgentRunner.resume_eq_ok h
  obtain ⟨hnext, hoffering⟩ := hsaved payload hpayload
  have hphase : (runner.graph.resume thread payload answer).phase ≠ .paused ∧
      (runner.graph.resume thread payload answer).phase ≠ .ended := Graph.phase_resume thread payload
  refine ⟨hsaved, .inl rfl, fun _ => .answered payload answer hnext rfl rfl hoffering rfl nofun, ?_, ?_⟩
  · intro hpaused
    exact absurd hpaused hphase.1
  · intro hended
    exact absurd hended hphase.2

end

end AgentsAtScale.Agent.Python
