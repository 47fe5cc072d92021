import AgentsAtScale.Data.Uuid
import AgentsAtScale.Program.Transition
import AgentsAtScale.Airline.ExecuteLaws
import AgentsAtScale.Agent.Contracts

namespace AgentsAtScale.Agent.Go

open Airline Airline.Go Transaction Transition

/-- What the model answers: an error, nothing, or a content, which may not decode. -/
inductive ModelReply (α : Type)
  | failed (error : String)
  | noContent
  | undecodable (error : String)
  | content (value : α)

structure ConfirmationResult where
  confirmed : Bool
  selection : RebookingSelection UUID
  evaluation : EvaluationResult UUID

structure ValidationResult where
  valid : Bool := false
  selection : RebookingSelection UUID
  validation : Option (RebookingValidation UUID) := none
  reason : String := ""
  evaluation : EvaluationResult UUID
  userDeclined : Bool := false

structure RebookingExecutionResult where
  selection : RebookingSelection UUID
  result : RebookingResult

structure FinalResult where
  result : Option RebookingResult := none
  message : String

inductive Route
  | valid
  | invalid

def understandRequest : ModelReply (RebookingRequest UUID) → Except String (RebookingRequest UUID)
  | .failed error => .error ("understand request model call: " ++ error)
  | .noContent => .error "understand request model returned no content"
  | .undecodable error => .error ("decode understand request response: " ++ error)
  | .content request => .ok request

/-- A database error is an error of the scan. -/
def getReservation (db : Db) (scan : Except String Scan) (input : RebookingRequest UUID) :
    Except String (ReservationContext UUID) :=
  match scan.bind fun scan => Service.getReservation db scan input.bookingReference with
  | .error error => .error ("get reservation context: " ++ error)
  | .ok reservation => .ok { request := input, reservation := reservation }

def reservationSegment (input : ReservationContext UUID) : Except String ReservationSegmentDetails :=
  if input.request.segmentId ≠ nilUUID then
    match input.reservation.segments.find? (·.segment.id = input.request.segmentId) with
    | some segment => .ok segment
    | none =>
      .error ("reservation segment " ++ Data.Uuid.toText input.request.segmentId ++ " was not found")
  else
    match input.reservation.segments with
    | [segment] => .ok segment
    | _ => .error "search alternatives requires a selected reservation segment"

def searchAlternatives (db : Db) (scan : Except String Scan) (input : ReservationContext UUID) :
    Except String (SearchAlternativesResult UUID) :=
  if input.reservation.segments.isEmpty then
    .error "search alternatives requires a reservation segment"
  else
    match input.request.departureFrom, input.request.departureTo with
    | some departureFrom, some departureTo =>
      match reservationSegment input with
      | .error error => .error error
      | .ok segment =>
        match scan.bind fun scan => Service.searchRebookingOptions db scan
          { segmentId := segment.segment.id
            departureFrom := departureFrom
            departureTo := departureTo
            passengerCount := input.reservation.passengers.length } with
        | .error error => .error ("search alternatives: " ++ error)
        | .ok options => .ok { request := input.request, options := options }
    | _, _ => .error "search alternatives departure window is required"

def getTravelCredits (db : Db) (now : Timestamp) (scan : Except String Scan)
    (input : ReservationContext UUID) : Except String (TravelCreditsResult UUID) :=
  match scan.bind fun scan => Service.getAvailableTravelCredits db scan now
    input.reservation.reservation.customerId input.reservation.reservation.currency with
  | .error error => .error ("get travel credits: " ++ error)
  | .ok credits => .ok { request := input.request, credits := credits }

def containsOption (options : List RebookingOption) (optionId : UUID) : Bool :=
  options.any fun option => option.flight.id = optionId || option.flightFare.id = optionId

def evaluateOptions (search : SearchAlternativesResult UUID) (credits : TravelCreditsResult UUID) :
    ModelReply (EvaluationResult UUID) → Except String (EvaluationResult UUID)
  | .failed error => .error ("evaluate options model call: " ++ error)
  | .noContent => .error "evaluate options model call: model returned no content"
  | .undecodable error => .error ("decode evaluate options response: " ++ error)
  | .content result =>
    match result.rankedOptionIds.find? (!containsOption search.options ·) with
    | some rankedId => .error ("evaluate options returned unknown option " ++ Data.Uuid.toText rankedId)
    | none => .ok
      { result with
        request := search.request
        options := search.options
        credits := credits.credits }

/-- The answer is decoded as a confirmation, but the evaluation stays the node's own. -/
def askConfirmation (input : EvaluationResult UUID) :
    Except String ConfirmationResult → Except String ConfirmationResult
  | .error error => .error ("decode confirmation response: " ++ error)
  | .ok confirmation => .ok { confirmation with evaluation := input }

def selectionIsOffered (selection : RebookingSelection UUID) (options : List RebookingOption) : Bool :=
  options.any (RebookingOption.offers selection)

def isRebookingValidationError : Service.ValidateError → Bool
  | .validation _ => true
  | .state (.validation _) => true
  | .state _ => false

def validateChange (db : Db) (now : Timestamp) (input : ConfirmationResult) :
    Except String (ValidationResult × Route) :=
  if !input.confirmed then .ok
    ({ selection := input.selection
       reason := "the rebooking was not confirmed"
       evaluation := input.evaluation
       userDeclined := true }, .invalid)
  else if !selectionIsOffered input.selection input.evaluation.options then .ok
    ({ selection := input.selection
       reason := "the selected option was not offered"
       evaluation := input.evaluation }, .invalid)
  else
    match Service.validateRebookingSelection db now input.selection with
    | .error error =>
      if !isRebookingValidationError error then .error ("validate change: " ++ error.message)
      else .ok
        ({ selection := input.selection
           reason := error.message
           evaluation := input.evaluation }, .invalid)
    | .ok validation => .ok
      ({ valid := true
         selection := input.selection
         validation := some validation
         evaluation := input.evaluation }, .valid)

def explainInvalidChange (input : ValidationResult) :
    FinalResult × Option (SearchAlternativesResult UUID × TravelCreditsResult UUID) :=
  ({ message := "The selected rebooking is no longer valid: " ++ input.reason },
    if input.userDeclined then none
    else some
      ({ request := input.evaluation.request, options := input.evaluation.options },
        { request := input.evaluation.request, credits := input.evaluation.credits }))

def executeRebooking (db : Db) (now : Timestamp) (input : ValidationResult) :
    Except String RebookingExecutionResult × Db :=
  match atomically (execute db.catalog now input.selection) db with
  | (.error error, db) => (.error ("execute rebooking: " ++ error.message), db)
  | (.ok result, db) => (.ok { selection := input.selection, result := result }, db)

def verifyRebooking (db : Db) (input : RebookingExecutionResult) : Except String FinalResult :=
  match (atomically (verify input.selection) db).1 with
  | .error error => .error ("verify rebooking: " ++ error.message)
  | .ok result =>
    .ok { result := some result, message := "The rebooking was completed successfully." }

inductive Stage
  | understandRequest
  | getReservation (input : RebookingRequest UUID)
  | gather (input : ReservationContext UUID) (search : Option (SearchAlternativesResult UUID))
      (credits : Option (TravelCreditsResult UUID))
  | evaluateOptions (search : SearchAlternativesResult UUID) (credits : TravelCreditsResult UUID)
  | askConfirmation (input : EvaluationResult UUID)
  | validateChange (input : ConfirmationResult)
  | explainInvalidChange (input : ValidationResult)
  | executeRebooking (input : ValidationResult)
  | verifyRebooking (input : RebookingExecutionResult)
  | finished (result : FinalResult)
  | failed (error : String)

def joinContext (input : ReservationContext UUID) :
    Option (SearchAlternativesResult UUID) → Option (TravelCreditsResult UUID) → Stage
  | some search, some credits => .evaluateOptions search credits
  | search, credits => .gather input search credits

def validationRoute : ValidationResult × Route → Stage
  | (validation, .valid) => .executeRebooking validation
  | (validation, .invalid) => .explainInvalidChange validation

def explanationRoute :
    FinalResult × Option (SearchAlternativesResult UUID × TravelCreditsResult UUID) → Stage
  | (_, some (search, credits)) => .evaluateOptions search credits
  | (final, none) => .finished final

structure State where
  db : Db
  stage : Stage := .understandRequest
  loaded : Option (ReservationContext UUID) := none
  executed : List (RebookingSelection UUID) := []

/-- A run may be given up at any point, and others change the database. -/
inductive Action
  | understandRequest (reply : ModelReply (RebookingRequest UUID))
  | getReservation (scan : Except String Scan)
  | searchAlternatives (scan : Except String Scan)
  | getTravelCredits (now : Timestamp) (scan : Except String Scan)
  | evaluateOptions (reply : ModelReply (EvaluationResult UUID))
  | askConfirmation (answer : Except String ConfirmationResult)
  | validateChange (now : Timestamp)
  | explainInvalidChange
  | executeRebooking (now : Timestamp)
  | verifyRebooking
  | fail (error : String)
  | database (db : Db)

namespace State

def enter (s : State) : Except String Stage → State
  | .ok stage => { s with stage := stage }
  | .error error => { s with stage := .failed error }

def reads (s : State) : Except String Scan → Bool
  | .ok scan => scan.Reads s.db
  | .error _ => true

def step (s : State) : Action → Option State
  | .understandRequest reply =>
    match s.stage with
    | .understandRequest => some (s.enter ((Go.understandRequest reply).map .getReservation))
    | _ => none
  | .getReservation scan =>
    match s.stage, s.reads scan with
    | .getReservation input, true =>
      match Go.getReservation s.db scan input with
      | .error error => some (s.enter (.error error))
      | .ok context => some { s with stage := .gather context none none, loaded := some context }
    | _, _ => none
  | .searchAlternatives scan =>
    match s.stage, s.reads scan with
    | .gather input none credits, true =>
      some (s.enter ((Go.searchAlternatives s.db scan input).map (joinContext input · credits)))
    | _, _ => none
  | .getTravelCredits now scan =>
    match s.stage, s.reads scan with
    | .gather input search none, true =>
      some (s.enter ((Go.getTravelCredits s.db now scan input).map (joinContext input search ·)))
    | _, _ => none
  | .evaluateOptions reply =>
    match s.stage with
    | .evaluateOptions search credits =>
      some (s.enter ((Go.evaluateOptions search credits reply).map .askConfirmation))
    | _ => none
  | .askConfirmation answer =>
    match s.stage with
    | .askConfirmation input =>
      some (s.enter ((Go.askConfirmation input answer).map .validateChange))
    | _ => none
  | .validateChange now =>
    match s.stage with
    | .validateChange input =>
      some (s.enter ((Go.validateChange s.db now input).map validationRoute))
    | _ => none
  | .explainInvalidChange =>
    match s.stage with
    | .explainInvalidChange input =>
      some (s.enter (.ok (explanationRoute (Go.explainInvalidChange input))))
    | _ => none
  | .executeRebooking now =>
    match s.stage with
    | .executeRebooking input =>
      let (result, db) := Go.executeRebooking s.db now input
      some ({ s with db := db, executed := s.executed ++ [input.selection] }.enter
        (result.map .verifyRebooking))
    | _ => none
  | .verifyRebooking =>
    match s.stage with
    | .verifyRebooking input => some (s.enter ((Go.verifyRebooking s.db input).map .finished))
    | _ => none
  | .fail error => some (s.enter (.error error))
  | .database db => some { s with db := db }

def picked (s : State) : Option UUID :=
  s.loaded.bind fun context =>
    match reservationSegment context with
    | .ok segment => some segment.segment.id
    | .error _ => none

end State

def changeable (db : Db) (segmentId : UUID) : Bool :=
  match db.reservationSegments.row segmentId with
  | none => false
  | some segment => segment.status = .confirmed || segment.status = .changed

/-- A confirmed answer names the picked segment, or one that cannot be changed. -/
def State.answersPicked (s : State) : Action → Bool
  | .validateChange _ =>
    match s.stage with
    | .validateChange input =>
      !input.confirmed || s.picked = some input.selection.segmentId ||
        !changeable s.db input.selection.segmentId
    | _ => true
  | _ => true

def Stage.pending : Stage → Option (RebookingSelection UUID)
  | .executeRebooking input => some input.selection
  | _ => none

def Stage.early : Stage → Bool
  | .understandRequest => true
  | .getReservation _ => true
  | _ => false

section

variable {db : Db} {now : Timestamp} {selection : RebookingSelection UUID} {s t : State} {a : Action}

theorem changeable_of_validate {validation : RebookingValidation UUID}
    (h : Service.validateRebookingSelection db now selection = .ok validation) :
    changeable db selection.segmentId = true := by
  simp only [Service.validateRebookingSelection] at h
  split at h
  · cases h
  · rename_i snapshot credit hsnapshot
    obtain ⟨-, ⟨observed⟩⟩ := Dialect.commits_snapshot
      (atomically_eq_ok.mp (Prod.ext hsnapshot rfl))
    have hvalid := mapError_eq_ok.mp h
    simp only [Go.validateRebookingSelection, guard_eq_ok] at hvalid
    have hstatus := hvalid.2.2.1
    rw [observed.segmentStatus] at hstatus
    simp only [changeable, observed.segment_row, Bool.or_eq_true, decide_eq_true_eq]
    tauto

theorem pending_validateChange {input : ConfirmationResult} {result : ValidationResult × Route}
    (h : Go.validateChange db now input = .ok result)
    (hpending : (validationRoute result).pending = some selection) :
    input.confirmed = true ∧ input.selection = selection ∧
      changeable db selection.segmentId = true := by
  simp only [Go.validateChange] at h
  split at h
  · cases h
    cases hpending
  · rename_i hconfirmed
    split at h
    · cases h
      cases hpending
    · split at h
      · split at h
        · cases h
        · cases h
          cases hpending
      · rename_i validation hvalid
        cases h
        cases hpending
        exact ⟨by simpa using hconfirmed, rfl, changeable_of_validate hvalid⟩

namespace State

@[simp] theorem enter_executed (s : State) (x : Except String Stage) :
    (s.enter x).executed = s.executed := by cases x <;> rfl

@[simp] theorem enter_loaded (s : State) (x : Except String Stage) :
    (s.enter x).loaded = s.loaded := by cases x <;> rfl

/-- What a step does to the selections: nothing, a reservation is loaded, a confirmed
selection is validated, or a validated one is carried out. -/
inductive Effect (s : State) (a : Action) (t : State) : Prop
  | nothing (executed : t.executed = s.executed) (loaded : t.loaded = s.loaded)
      (pending : ∀ selection, t.stage.pending = some selection → s.stage.pending = some selection)
      (early : t.stage.early = true → s.stage.early = true)
  | load (early : s.stage.early = true) (executed : t.executed = s.executed)
      (pending : t.stage.pending = none)
  | validate (executed : t.executed = s.executed) (loaded : t.loaded = s.loaded)
      (pending : ∀ selection, t.stage.pending = some selection →
        s.answersPicked a = true → s.picked = some selection.segmentId)
      (early : t.stage.early = false)
  | execute (selection : RebookingSelection UUID) (pending : s.stage.pending = some selection)
      (executed : t.executed = s.executed ++ [selection]) (loaded : t.loaded = s.loaded)
      (done : t.stage.pending = none) (early : t.stage.early = false)

theorem Effect.enter {x : Except String Stage}
    (h : ∀ stage, x = .ok stage → stage.pending = none ∧ (stage.early = true → s.stage.early = true)) :
    Effect s a (s.enter x) := by
  refine .nothing (enter_executed s x) (enter_loaded s x) ?_ ?_
  · intro selection hpending
    cases x with
    | error error => cases hpending
    | ok stage =>
      rw [show (s.enter (.ok stage)).stage = stage from rfl, (h stage rfl).1] at hpending
      cases hpending
  · cases x with
    | error error => exact nofun
    | ok stage => exact (h stage rfl).2

theorem Effect.fail {error : String} : Effect s a (s.enter (.error error)) := by
  apply Effect.enter
  intro stage hstage
  cases hstage

theorem Effect.map {x : Except String α} {f : α → Stage}
    (h : ∀ y, (f y).pending = none ∧ (f y).early = false) : Effect s a (s.enter (x.map f)) := by
  apply Effect.enter
  intro stage hstage
  cases x with
  | error error => cases hstage
  | ok y =>
    cases hstage
    exact ⟨(h y).1, fun hearly => absurd hearly (by rw [(h y).2]; decide)⟩

theorem joinContext_stage (input : ReservationContext UUID)
    (search : Option (SearchAlternativesResult UUID)) (credits : Option (TravelCreditsResult UUID)) :
    (joinContext input search credits).pending = none ∧
      (joinContext input search credits).early = false := by
  cases search <;> cases credits <;> exact ⟨rfl, rfl⟩

theorem explanationRoute_stage
    (x : FinalResult × Option (SearchAlternativesResult UUID × TravelCreditsResult UUID)) :
    (explanationRoute x).pending = none ∧ (explanationRoute x).early = false := by
  obtain ⟨final, retry⟩ := x
  cases retry <;> exact ⟨rfl, rfl⟩

theorem effect_step (h : s.step a = some t) : Effect s a t := by
  cases a with
  | understandRequest reply =>
    simp only [step] at h
    split at h
    · rename_i hstage
      cases h
      apply Effect.enter
      intro stage hx
      cases hreply : Go.understandRequest reply with
      | error error => rw [hreply] at hx; cases hx
      | ok request =>
        rw [hreply] at hx
        cases hx
        exact ⟨rfl, fun _ => by rw [hstage]; rfl⟩
    · cases h
  | getReservation scan =>
    simp only [step] at h
    split at h
    · rename_i hstage hreads
      split at h
      · cases h
        exact Effect.fail
      · cases h
        exact .load (by rw [hstage]; rfl) rfl rfl
    · cases h
  | searchAlternatives scan =>
    simp only [step] at h
    split at h
    · rename_i input credits hstage hreads
      cases h
      exact Effect.map fun search => joinContext_stage input search credits
    · cases h
  | getTravelCredits now scan =>
    simp only [step] at h
    split at h
    · rename_i input search hstage hreads
      cases h
      exact Effect.map fun credits => joinContext_stage input search credits
    · cases h
  | evaluateOptions reply =>
    simp only [step] at h
    split at h
    · cases h
      exact Effect.map fun _ => ⟨rfl, rfl⟩
    · cases h
  | askConfirmation answer =>
    simp only [step] at h
    split at h
    · cases h
      exact Effect.map fun _ => ⟨rfl, rfl⟩
    · cases h
  | validateChange now =>
    simp only [step] at h
    split at h
    · rename_i input hstage
      cases h
      refine .validate (enter_executed _ _) (enter_loaded _ _) ?_ ?_
      · intro selection hpending hanswers
        cases hresult : Go.validateChange s.db now input with
        | error error => rw [hresult] at hpending; cases hpending
        | ok result =>
          rw [hresult] at hpending
          obtain ⟨hconfirmed, rfl, hchangeable⟩ := pending_validateChange hresult hpending
          simpa [answersPicked, hstage, hconfirmed, hchangeable] using hanswers
      · cases Go.validateChange s.db now input with
        | error error => rfl
        | ok result =>
          obtain ⟨validation, route⟩ := result
          cases route <;> rfl
    · cases h
  | explainInvalidChange =>
    simp only [step] at h
    split at h
    · rename_i input hstage
      cases h
      exact Effect.map (x := .ok (Go.explainInvalidChange input)) explanationRoute_stage
    · cases h
  | executeRebooking now =>
    simp only [step] at h
    split at h
    · rename_i input hstage
      cases h
      refine .execute input.selection (by rw [hstage]; rfl) (enter_executed _ _) (enter_loaded _ _) ?_ ?_
      · cases (Go.executeRebooking s.db now input).1 <;> rfl
      · cases (Go.executeRebooking s.db now input).1 <;> rfl
    · cases h
  | verifyRebooking =>
    simp only [step] at h
    split at h
    · cases h
      exact Effect.map fun _ => ⟨rfl, rfl⟩
    · cases h
  | fail error =>
    cases h
    exact Effect.fail
  | database db =>
    cases h
    exact .nothing rfl rfl (fun _ => id) id

structure Own (s : State) : Prop where
  executed : ∀ selection ∈ s.executed, s.picked = some selection.segmentId
  pending : ∀ selection, s.stage.pending = some selection → s.picked = some selection.segmentId
  early : s.stage.early = true → s.executed = []

theorem picked_congr (h : t.loaded = s.loaded) : t.picked = s.picked := by
  rw [picked, picked, h]

theorem own_step (hs : s.Own) (hok : s.answersPicked a = true) (h : s.step a = some t) : t.Own := by
  cases effect_step h with
  | nothing hexecuted hloaded hpending hearly =>
    constructor
    · rw [hexecuted, picked_congr hloaded]
      exact hs.executed
    · rw [picked_congr hloaded]
      exact fun selection hsel => hs.pending selection (hpending selection hsel)
    · rw [hexecuted]
      exact fun h => hs.early (hearly h)
  | load hearly hexecuted hpending =>
    constructor
    · rw [hexecuted, hs.early hearly]
      exact nofun
    · rw [hpending]
      exact nofun
    · rw [hexecuted]
      exact fun _ => hs.early hearly
  | validate hexecuted hloaded hpending hearly =>
    constructor
    · rw [hexecuted, picked_congr hloaded]
      exact hs.executed
    · rw [picked_congr hloaded]
      exact fun selection hsel => hpending selection hsel hok
    · rw [hearly]
      exact nofun
  | execute selection hpending hexecuted hloaded hdone hearly =>
    constructor
    · rw [hexecuted, picked_congr hloaded]
      intro selection' hmem
      rcases List.mem_append.mp hmem with hmem | hmem
      · exact hs.executed selection' hmem
      · rw [List.mem_singleton.mp hmem]
        exact hs.pending selection hpending
    · rw [hdone]
      exact nofun
    · rw [hearly]
      exact nofun

theorem exists_segment_of_picked {id : UUID} (h : s.picked = some id) :
    ∃ context segment, s.loaded = some context ∧ reservationSegment context = .ok segment ∧
      segment.segment.id = id := by
  obtain ⟨context, hloaded, hsegment⟩ := Option.bind_eq_some_iff.mp h
  split at hsegment
  · rename_i segment hpick
    exact ⟨context, segment, hloaded, hpick, Option.some.inj hsegment⟩
  · cases hsegment

end State

end

theorem executed_of_picked (db : Db) (s : State)
    (h : Reach State.step (fun s a => s.answersPicked a = true) { db := db } s)
    (selection : RebookingSelection UUID) (hexecuted : selection ∈ s.executed) :
    ∃ context segment, s.loaded = some context ∧ reservationSegment context = .ok segment ∧
      segment.segment.id = selection.segmentId := by
  have hown : s.Own := h.invariant (I := State.Own) ⟨nofun, nofun, fun _ => rfl⟩
    fun _ _ _ hs hok hstep => State.own_step hs hok hstep
  exact State.exists_segment_of_picked (hown.executed selection hexecuted)

namespace Sample

def db : Db where
  catalog :=
    { flights := .ofList [(1, ⟨"SCL", "LIM", 1000, .scheduled⟩), (2, ⟨"SCL", "LIM", 1000, .scheduled⟩),
        (3, ⟨"SCL", "LIM", 1500, .scheduled⟩)]
      fareClasses := .ofList [(1, ⟨true, 0⟩)]
      reservationPassengers := {(1, 1), (2, 2)} }
  flightFares := .ofList
    [((1, 1), ⟨100, "USD", 5⟩), ((2, 1), ⟨100, "USD", 5⟩), ((3, 1), ⟨50, "USD", 5⟩)]
  reservations := .ofList
    [(1, ⟨"ABC123", 1, .confirmed, 100, "USD"⟩), (2, ⟨"DEF456", 2, .confirmed, 100, "USD"⟩)]
  reservationSegments := .ofList
    [(1, ⟨1, 1, 1, .confirmed, 100, "USD"⟩), (2, ⟨2, 2, 1, .confirmed, 100, "USD"⟩)]
  travelCredits := .ofList []
  flightChanges := []

def scan : Scan where
  reservations := [1, 2]
  reservationPassengers := [(1, 1), (2, 2)]
  reservationSegments := [1, 2]
  flightFares := [(1, 1), (2, 1), (3, 1)]
  travelCredits := []
  flightFareId key := key.1

def request : RebookingRequest UUID := ⟨"ABC123", nilUUID, some 0, some 2000⟩

def evaluation : EvaluationResult UUID :=
  { request := request, options := [], credits := [], rankedOptionIds := [3] }

def selection (segmentId : UUID) : RebookingSelection UUID := ⟨segmentId, 3, 1, nilUUID, 0⟩

def actions (segmentId : UUID) : List Action :=
  [.understandRequest (.content request), .getReservation (.ok scan), .getTravelCredits 0 (.ok scan),
    .searchAlternatives (.ok scan), .evaluateOptions (.content evaluation),
    .askConfirmation (.ok
      { confirmed := true, selection := selection segmentId, evaluation := evaluation }),
    .validateChange 0, .executeRebooking 0]

end Sample

theorem executed_of_picked_sample :
    ∃ s, Reach State.step (fun s a => s.answersPicked a = true) { db := Sample.db } s ∧
      Sample.selection 1 ∈ s.executed ∧ ∃ context segment, s.loaded = some context ∧
        reservationSegment context = .ok segment ∧
        segment.segment.id = (Sample.selection 1).segmentId := by
  obtain ⟨s, hs, hrun⟩ := reach_of_any State.step (fun s a => s.answersPicked a = true)
    { db := Sample.db } (Sample.actions 1) (fun s => decide (Sample.selection 1 ∈ s.executed))
    (by decide +kernel)
  have hexecuted := of_decide_eq_true hrun
  exact ⟨s, hs, hexecuted, executed_of_picked Sample.db s hs (Sample.selection 1) hexecuted⟩

theorem executed_other_segment :
    ∃ s, Reaches State.step { db := Sample.db } s ∧ s.picked = some 1 ∧
      s.executed = [Sample.selection 2] ∧
      (Sample.db.reservationSegments.row 2).map ReservationSegment.fare = some (2, 1) ∧
      (s.db.reservationSegments.row 2).map ReservationSegment.fare = some (3, 1) := by
  obtain ⟨s, hs, hrun⟩ := reach_of_any State.step (fun _ _ => True) { db := Sample.db }
    (Sample.actions 2)
    (fun s => decide (s.picked = some 1) && decide (s.executed = [Sample.selection 2]) &&
      decide ((s.db.reservationSegments.row 2).map ReservationSegment.fare = some (3, 1)))
    (by decide +kernel)
  simp only [Bool.and_eq_true, decide_eq_true_eq] at hrun
  exact ⟨s, hs, hrun.1.1, hrun.1.2, by decide +kernel, hrun.2⟩

end AgentsAtScale.Agent.Go
