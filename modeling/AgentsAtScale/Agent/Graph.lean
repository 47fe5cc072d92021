import AgentsAtScale.Program.StateGraph
import AgentsAtScale.Jobs.PythonService
import AgentsAtScale.Agent.Contracts

/-! The Python graph: the state of its threads, its nodes and edges, and the runner that
starts and resumes threads.  A value of type `Any` is given as JSON. -/

namespace AgentsAtScale.Agent.Python

open Airline Program StateGraph
open Jobs (Json AgentError GraphResult)

abbrev Selection := RebookingSelection (Option UUID)
abbrev Request := RebookingRequest (Option UUID)
abbrev Context := ReservationContext (Option UUID)
abbrev Evaluation := EvaluationResult (Option UUID)

structure Exception where
  message : String
  valueError : Bool := false
  deriving DecidableEq

structure ConfirmationResult where
  confirmed : Bool
  selection : Option Selection
  evaluation : Evaluation

structure ValidationResult where
  valid : Bool := false
  selection : Option Selection := none
  reason : String := ""
  evaluation : Evaluation
  userDeclined : Bool := false
  validation : Option Json := none

inductive FinalStatus
  | completed | ready | declined | failed
  deriving DecidableEq

def FinalStatus.text : FinalStatus → String
  | .completed => "completed"
  | .ready => "ready"
  | .declined => "declined"
  | .failed => "failed"

structure FinalResult where
  status : FinalStatus
  message : String
  selection : Option Selection := none
  validation : Option Json := none
  execution : Option Json := none
  verification : Option Json := none

inductive Route
  | valid | invalid | declined | retry | ready | completed | failed

def Route.text : Route → String
  | .valid => "valid"
  | .invalid => "invalid"
  | .declined => "declined"
  | .retry => "retry"
  | .ready => "ready"
  | .completed => "completed"
  | .failed => "failed"

/-- A key that was not written is `none`; what a node returns has only the keys it
writes. -/
structure AgentState where
  userInput : Option String := none
  request : Option Request := none
  reservationContext : Option Context := none
  searchResult : Option (SearchAlternativesResult (Option UUID)) := none
  creditsResult : Option (TravelCreditsResult (Option UUID)) := none
  evaluation : Option Evaluation := none
  confirmation : Option ConfirmationResult := none
  validation : Option ValidationResult := none
  execution : Option Json := none
  verification : Option Json := none
  final : Option FinalResult := none
  route : Option Route := none
  error : Option String := none
  retryCount : Option Int := none
  maxRetries : Option Int := none

def AgentState.merge (state update : AgentState) : AgentState where
  userInput := update.userInput.or state.userInput
  request := update.request.or state.request
  reservationContext := update.reservationContext.or state.reservationContext
  searchResult := update.searchResult.or state.searchResult
  creditsResult := update.creditsResult.or state.creditsResult
  evaluation := update.evaluation.or state.evaluation
  confirmation := update.confirmation.or state.confirmation
  validation := update.validation.or state.validation
  execution := update.execution.or state.execution
  verification := update.verification.or state.verification
  final := update.final.or state.final
  route := update.route.or state.route
  error := update.error.or state.error
  retryCount := update.retryCount.or state.retryCount
  maxRetries := update.maxRetries.or state.maxRetries

structure Interrupt where
  message : String
  evaluation : Evaluation

inductive Op
  | understandRequest (userInput : String)
  | evaluateOptions (request : Request) (options : List RebookingOption) (credits : List CreditValue)
  | getReservation (bookingReference : String)
  | searchRebookingOptions (input : SearchRebookingOptionsInput)
  | getAvailableTravelCredits (customerId : UUID) (currency : String)
  | validateChange (selection : Selection)
  | executeRebooking (selection : Selection)
  | verifyRebooking (selection : Selection)

def Op.Reply : Op → Type
  | .understandRequest _ => Except Exception Request
  | .evaluateOptions _ _ _ => Except Exception Evaluation
  | .getReservation _ => Except Exception ReservationDetails
  | .searchRebookingOptions _ => Except Exception (List RebookingOption)
  | .getAvailableTravelCredits _ _ => Except Exception (List CreditValue)
  | .validateChange _ => Except Exception Json
  | .executeRebooking _ => Except Exception Json
  | .verifyRebooking _ => Except Exception Json

abbrev Env := (o : Op) → o.Reply
abbrev Task := Prog Op Op.Reply
abbrev NodeOutcome := Outcome AgentState Interrupt Exception

namespace AgentLLM

def understandRequest (userInput : String) : Task (Except Exception Request) :=
  Prog.call (Op.understandRequest userInput)

def evaluateOptions (request : Request) (options : List RebookingOption) (credits : List CreditValue) :
    Task (Except Exception Evaluation) :=
  Prog.call (Op.evaluateOptions request options credits)

end AgentLLM

namespace AirlinePort

def getReservation (bookingReference : String) : Task (Except Exception ReservationDetails) :=
  Prog.call (Op.getReservation bookingReference)

def searchRebookingOptions (input : SearchRebookingOptionsInput) :
    Task (Except Exception (List RebookingOption)) :=
  Prog.call (Op.searchRebookingOptions input)

def getAvailableTravelCredits (customerId : UUID) (currency : String) :
    Task (Except Exception (List CreditValue)) :=
  Prog.call (Op.getAvailableTravelCredits customerId currency)

def executeRebooking (selection : Selection) : Task (Except Exception Json) :=
  Prog.call (Op.executeRebooking selection)

def verifyRebooking (selection : Selection) : Task (Except Exception Json) :=
  Prog.call (Op.verifyRebooking selection)

end AirlinePort

def ChangeValidator.validateChange (selection : Selection) : Task (Except Exception Json) :=
  Prog.call (Op.validateChange selection)

def raise (message : String) : Task NodeOutcome :=
  return .raise { message := message, valueError := true }

def update (values : AgentState) : Task NodeOutcome := return .update values

@[irreducible] def strip (s : String) : String :=
  String.ofList ((s.toList.dropWhile Jobs.Python.isSpace).reverse.dropWhile Jobs.Python.isSpace).reverse

def understandRequest (state : AgentState) : Task NodeOutcome := do
  let userInput := strip (state.userInput.getD "")
  if userInput = "" then raise "user input is required"
  else
    match ← AgentLLM.understandRequest userInput with
    | .error exc => return .raise exc
    | .ok request =>
      if request.bookingReference = "" then raise "booking reference is required"
      else update { request := some request }

def getReservation (state : AgentState) : Task NodeOutcome :=
  match state.request with
  | none => raise "reservation requires a request"
  | some request => do
    match ← AirlinePort.getReservation request.bookingReference with
    | .error exc => return .raise exc
    | .ok reservation =>
      if reservation.segments.isEmpty then raise "reservation requires a segment"
      else
        update
          { reservationContext := some { request := request, reservation := reservation } }

def selectedSegment (context : Context) : Except String ReservationSegmentDetails :=
  match context.request.segmentId with
  | some segmentId =>
    match context.reservation.segments.find? (·.segment.id = segmentId) with
    | some segment => .ok segment
    | none => .error "requested reservation segment was not found"
  | none =>
    match context.reservation.segments with
    | [segment] => .ok segment
    | _ => .error "a reservation segment must be selected"

def requireWindow (request : Request) : Except String (Timestamp × Timestamp) :=
  match request.departureFrom, request.departureTo with
  | some departureFrom, some departureTo =>
    if departureTo < departureFrom then .error "departure window is invalid"
    else .ok (departureFrom, departureTo)
  | _, _ => .error "departure window is required"

def searchAlternatives (state : AgentState) : Task NodeOutcome :=
  match state.reservationContext with
  | none => raise "reservation context is required"
  | some context =>
    match selectedSegment context with
    | .error error => raise error
    | .ok segment =>
      match requireWindow context.request with
      | .error error => raise error
      | .ok (departureFrom, departureTo) => do
        match ← AirlinePort.searchRebookingOptions
          { segmentId := segment.segment.id
            departureFrom := departureFrom
            departureTo := departureTo
            passengerCount := context.reservation.passengers.length } with
        | .error exc => return .raise exc
        | .ok options =>
          update
            { searchResult := some { request := context.request, options := options } }

def getTravelCredits (state : AgentState) : Task NodeOutcome :=
  match state.reservationContext with
  | none => raise "reservation context is required"
  | some context => do
    match ← AirlinePort.getAvailableTravelCredits context.reservation.reservation.customerId
      context.reservation.reservation.currency with
    | .error exc => return .raise exc
    | .ok credits =>
      update
        { creditsResult := some { request := context.request, credits := credits } }

def allowedIds (options : List RebookingOption) : List UUID :=
  options.map (·.flight.id) ++ options.map (·.flightFare.id)

def evaluateOptions (state : AgentState) : Task NodeOutcome :=
  match state.request, state.searchResult, state.creditsResult with
  | some request, some search, some credits => do
    match ← AgentLLM.evaluateOptions request search.options credits.credits with
    | .error exc => return .raise exc
    | .ok result =>
      if result.rankedOptionIds.any (· ∉ allowedIds search.options) then
        raise "evaluation returned an unknown option"
      else
        update
          { evaluation := some
              { result with
                request := request
                options := search.options
                credits := credits.credits } }
  | _, _, _ => raise "evaluation requires request, alternatives, and credits"

def confirmation (modelValidate : Json → Except String Selection) (answer : Json)
    (evaluation : Evaluation) : Except String ConfirmationResult :=
  match answer with
  | .object members =>
    let confirmed := (Jobs.Python.get members "confirmed").any Jobs.Python.truthy
    match (Jobs.Python.get members "selection").filter Jobs.Python.truthy with
    | none => .ok { confirmed := confirmed, selection := none, evaluation := evaluation }
    | some selection =>
      match modelValidate selection with
      | .error error => .error error
      | .ok selection =>
        .ok { confirmed := confirmed, selection := some selection, evaluation := evaluation }
  | _ => .error "object is not a mapping"

def askConfirmation (modelValidate : Json → Except String Selection) (state : AgentState)
    (answer : Option Json) : Task NodeOutcome :=
  match state.evaluation with
  | none => raise "confirmation requires an evaluation"
  | some evaluation =>
    match answer with
    | none =>
      let message := "Select a rebooking option and confirm the change."
      return .interrupt { message := message, evaluation := evaluation }
    | some answer =>
      match confirmation modelValidate answer evaluation with
      | .error _ => raise "invalid confirmation payload"
      | .ok confirmation => update { confirmation := some confirmation }

theorem askConfirmation_takes (modelValidate : Json → Except String Selection) (state : AgentState)
    (answer : Json) : ∃ outcome, askConfirmation modelValidate state (some answer) = .ret outcome := by
  unfold askConfirmation
  split
  · exact ⟨_, rfl⟩
  · dsimp only
    split
    · exact ⟨_, rfl⟩
    · exact ⟨_, rfl⟩

def expectedSegmentId (state : AgentState) (request : Request) : Option UUID :=
  match state.reservationContext.map (·.reservation.segments) with
  | some (segment :: _) => request.segmentId.or (some segment.segment.id)
  | _ => request.segmentId

def invalidChange (evaluation : Evaluation) (selection : Selection) (reason : String) : AgentState where
  validation := some { evaluation := evaluation, selection := some selection, reason := reason }
  route := some .invalid

def validateChange (state : AgentState) : Task NodeOutcome :=
  match state.confirmation with
  | none => raise "validation requires confirmation"
  | some confirmation =>
    if !confirmation.confirmed then
      update
        { validation := some
            { evaluation := confirmation.evaluation
              selection := confirmation.selection
              reason := "the rebooking was not confirmed"
              userDeclined := true }
          route := some .declined }
    else
      match confirmation.selection with
      | none => raise "confirmed selection is required"
      | some selection =>
        let invalid := invalidChange confirmation.evaluation selection
        if expectedSegmentId state confirmation.evaluation.request ≠ some selection.segmentId then
          update (invalid "the selected option belongs to another reservation segment")
        else if !confirmation.evaluation.options.any (RebookingOption.offers selection) then
          update (invalid "the selected option was not offered")
        else do
          match ← ChangeValidator.validateChange selection with
          | .error exc =>
            if exc.valueError then update (invalid exc.message) else return .raise exc
          | .ok (.bool false) =>
            update (invalid "the selected option failed domain validation")
          | .ok validation =>
            update
              { validation := some
                  { valid := true
                    evaluation := confirmation.evaluation
                    selection := some selection
                    validation := some validation }
                route := some .valid }

def explainInvalidChange (state : AgentState) : Task NodeOutcome :=
  match state.validation with
  | none => raise "invalid explanation requires validation"
  | some validation =>
    if validation.userDeclined then
      update
        { final := some
            { status := .declined
              message := "The rebooking was not confirmed."
              selection := validation.selection }
          route := some .declined }
    else
      let retryCount := state.retryCount.getD 0 + 1
      if retryCount > state.maxRetries.getD 2 then
        update
          { final := some
              { status := .failed
                message := "The selected rebooking is no longer valid: " ++ validation.reason
                selection := validation.selection }
            retryCount := some retryCount
            route := some .invalid }
      else
        update
          { error := some validation.reason
            retryCount := some retryCount
            route := some .retry }

def executeRebooking (state : AgentState) : Task NodeOutcome :=
  match state.validation with
  | some { valid := true, selection := some selection, validation := validation, .. } => do
    match ← AirlinePort.executeRebooking selection with
    | .error exc =>
      update
        { final := some
            { status := .failed
              message := "The rebooking could not be executed."
              selection := some selection
              validation := validation }
          error := some exc.message
          route := some .failed }
    | .ok result => update { execution := some result, route := some .completed }
  | _ => raise "execution requires a valid selection"

def verifyRebooking (state : AgentState) : Task NodeOutcome :=
  match state.validation, state.execution with
  | some { selection := some selection, validation := validation, .. }, some execution =>
    if execution.isNull then raise "verification requires execution state"
    else do
      match ← AirlinePort.verifyRebooking selection with
      | .error exc =>
        update
          { final := some
              { status := .failed
                message := "The rebooking could not be verified."
                selection := some selection
                validation := validation
                execution := some execution }
            error := some exc.message
            route := some .failed }
      | .ok result =>
        update
          { verification := some result
            final := some
              { status := .completed
                message := "The rebooking was completed successfully."
                selection := some selection
                validation := validation
                execution := some execution
                verification := some result }
            route := some .completed }
  | _, _ => raise "verification requires execution state"

def refreshContext (_state : AgentState) : Task NodeOutcome :=
  update { route := some .retry }

def finalizeDeclined (state : AgentState) : Task NodeOutcome :=
  update
    { final := some
        { status := .declined
          message := "The rebooking was not confirmed."
          selection := state.validation.bind (·.selection) }
      route := some .declined }

def finalizeFailed (_state : AgentState) : Task NodeOutcome :=
  update { route := some .failed }

inductive Node
  | understandRequest
  | getReservation
  | searchAlternatives
  | getTravelCredits
  | refreshContext
  | evaluateOptions
  | askConfirmation
  | validateChange
  | explainInvalidChange
  | executeRebooking
  | verifyRebooking
  | finalizeFailed
  | finalizeDeclined
  deriving DecidableEq

def keyError (route : Route) : Exception := { message := "'" ++ route.text ++ "'" }

def validationRoute (state : AgentState) : Except Exception (List Node) :=
  match state.route.getD .invalid with
  | .valid => .ok [.executeRebooking]
  | .declined => .ok [.finalizeDeclined]
  | .invalid => .ok [.explainInvalidChange]
  | route => .error (keyError route)

def explanationRoute (state : AgentState) : Except Exception (List Node) :=
  match state.route.getD .invalid with
  | .retry => .ok [.refreshContext]
  | .declined => .ok [.finalizeDeclined]
  | .invalid => .ok []
  | route => .error (keyError route)

def executionRoute (completed : List Node) (state : AgentState) : Except Exception (List Node) :=
  match state.route.getD .completed with
  | .completed => .ok completed
  | .failed => .ok [.finalizeFailed]
  | route => .error (keyError route)

def next : Node → AgentState → Except Exception (List Node)
  | .understandRequest, _ => .ok [.getReservation]
  | .getReservation, _ => .ok [.searchAlternatives, .getTravelCredits]
  | .refreshContext, _ => .ok [.searchAlternatives, .getTravelCredits]
  | .searchAlternatives, _ => .ok []
  | .getTravelCredits, _ => .ok []
  | .evaluateOptions, _ => .ok [.askConfirmation]
  | .askConfirmation, _ => .ok [.validateChange]
  | .validateChange, state => validationRoute state
  | .explainInvalidChange, state => explanationRoute state
  | .executeRebooking, state => executionRoute [.verifyRebooking] state
  | .verifyRebooking, state => executionRoute [] state
  | .finalizeDeclined, _ => .ok []
  | .finalizeFailed, _ => .ok []

/-- `build_graph`; `modelValidate` decodes a selection. -/
def graph (modelValidate : Json → Except String Selection) :
    Graph Node AgentState Json Interrupt Exception Op Op.Reply where
  entry := .understandRequest
  empty := {}
  merge := AgentState.merge
  merge_empty _ := rfl
  run
    | .understandRequest, state, _ => understandRequest state
    | .getReservation, state, _ => getReservation state
    | .searchAlternatives, state, _ => searchAlternatives state
    | .getTravelCredits, state, _ => getTravelCredits state
    | .refreshContext, state, _ => refreshContext state
    | .evaluateOptions, state, _ => evaluateOptions state
    | .askConfirmation, state, answer => askConfirmation modelValidate state answer
    | .validateChange, state, _ => validateChange state
    | .explainInvalidChange, state, _ => explainInvalidChange state
    | .executeRebooking, state, _ => executeRebooking state
    | .verifyRebooking, state, _ => verifyRebooking state
    | .finalizeFailed, state, _ => finalizeFailed state
    | .finalizeDeclined, state, _ => finalizeDeclined state
  takes
    | .askConfirmation, state, answer => .inr (askConfirmation_takes modelValidate state answer)
    | .understandRequest, _, _ => .inl rfl
    | .getReservation, _, _ => .inl rfl
    | .searchAlternatives, _, _ => .inl rfl
    | .getTravelCredits, _, _ => .inl rfl
    | .refreshContext, _, _ => .inl rfl
    | .evaluateOptions, _, _ => .inl rfl
    | .validateChange, _, _ => .inl rfl
    | .explainInvalidChange, _, _ => .inl rfl
    | .executeRebooking, _, _ => .inl rfl
    | .verifyRebooking, _, _ => .inl rfl
    | .finalizeFailed, _, _ => .inl rfl
    | .finalizeDeclined, _, _ => .inl rfl
  next := next
  joins := [([.searchAlternatives, .getTravelCredits], .evaluateOptions)]

abbrev Thread := StateGraph.Thread Node AgentState Interrupt Exception
abbrev Run := StateGraph.Run Node AgentState Json Interrupt Exception Op Op.Reply

structure AgentRunner where
  modelValidate : Json → Except String Selection
  maxRetries : Int := 2

namespace AgentRunner

variable (runner : AgentRunner)

def graph : Graph Node AgentState Json Interrupt Exception Op Op.Reply :=
  Python.graph runner.modelValidate

def run (thread : Thread) (message : String) : Except AgentError Run :=
  if strip message = "" then .error { message := "message is required" }
  else .ok (runner.graph.start (thread.values.merge
    { userInput := some message, maxRetries := some runner.maxRetries }))

def resume (thread : Thread) (answer : Json) : Except AgentError Run :=
  match thread.interrupt with
  | none => .error { message := "session has no pending input", noPendingInput := true }
  | some payload => .ok (runner.graph.resume thread payload answer)

end AgentRunner

end AgentsAtScale.Agent.Python
