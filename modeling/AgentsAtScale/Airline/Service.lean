import Mathlib.Data.List.Sort
import Mathlib.Logic.Function.Basic
import AgentsAtScale.Airline.Execute

namespace AgentsAtScale.Airline

open Transaction

structure FlightValue extends Flight where
  id : UUID
  deriving DecidableEq

structure FareClassValue extends FareClass where
  id : UUID
  deriving DecidableEq

structure FlightFareValue extends FlightFare where
  id : UUID
  flightId : UUID
  fareClassId : UUID
  deriving DecidableEq

structure ReservationValue extends Reservation where
  id : UUID
  deriving DecidableEq

structure ReservationSegmentValue extends ReservationSegment where
  id : UUID
  deriving DecidableEq

structure ReservationSegmentDetails where
  segment : ReservationSegmentValue
  flight : FlightValue
  fareClass : FareClassValue
  deriving DecidableEq

structure ReservationDetails where
  reservation : ReservationValue
  passengers : List UUID
  segments : List ReservationSegmentDetails
  deriving DecidableEq

structure SearchAvailableFlightsParams where
  origin : String
  destination : String
  departureFrom : Timestamp
  departureTo : Timestamp
  passengerCount : Int

structure AvailableFare where
  fareClass : FareClassValue
  flightFare : FlightFareValue
  deriving DecidableEq

structure AvailableFlight where
  flight : FlightValue
  fares : List AvailableFare
  deriving DecidableEq

structure SearchRebookingOptionsInput where
  segmentId : UUID
  departureFrom : Timestamp
  departureTo : Timestamp
  passengerCount : Int

structure RebookingOption where
  flight : FlightValue
  fareClass : FareClassValue
  flightFare : FlightFareValue
  fareDifference : Decimal
  changeFee : Decimal
  deriving DecidableEq

/-- The order in which a query comes upon the rows, which decides between rows that
its `ORDER BY` does not tell apart, and the ids of the flight fares. -/
structure Scan where
  reservations : List UUID
  reservationPassengers : List (UUID × UUID)
  reservationSegments : List UUID
  flightFares : List (UUID × UUID)
  travelCredits : List UUID
  flightFareId : UUID × UUID → UUID

structure Scan.Reads (scan : Scan) (db : Db) : Prop where
  reservations : scan.reservations.Nodup ∧ scan.reservations.toFinset = db.reservations.keys
  reservationPassengers : scan.reservationPassengers.Nodup ∧
    scan.reservationPassengers.toFinset = db.catalog.reservationPassengers
  reservationSegments : scan.reservationSegments.Nodup ∧
    scan.reservationSegments.toFinset = db.reservationSegments.keys
  flightFares : scan.flightFares.Nodup ∧ scan.flightFares.toFinset = db.flightFares.keys
  travelCredits : scan.travelCredits.Nodup ∧ scan.travelCredits.toFinset = db.travelCredits.keys

instance (scan : Scan) (db : Db) : Decidable (scan.Reads db) :=
  decidable_of_iff (_ ∧ _ ∧ _ ∧ _ ∧ _)
    ⟨fun ⟨h₁, h₂, h₃, h₄, h₅⟩ => ⟨h₁, h₂, h₃, h₄, h₅⟩,
      fun h => ⟨h.1, h.2, h.3, h.4, h.5⟩⟩

section

variable (db : Db) (scan : Scan)

def getReservationByBookingReference (bookingReference : String) : Option ReservationValue :=
  scan.reservations.findSome? fun id =>
    (db.reservations.row id).bind fun r =>
      if r.bookingReference = bookingReference then some { r with id := id } else none

def getPassengersByReservation (reservationId : UUID) : List UUID :=
  ((scan.reservationPassengers.filter (·.1 = reservationId)).map (·.2)).insertionSort
    fun p q => p.toNat ≤ q.toNat

def getSegmentDetailsByReservation (reservationId : UUID) : List ReservationSegmentDetails :=
  (scan.reservationSegments.filterMap fun id => do
    let rs ← db.reservationSegments.row id
    let f ← db.catalog.flights.row rs.flightId
    let fc ← db.catalog.fareClasses.row rs.fareClassId
    if rs.reservationId = reservationId then
      some
        { segment := { rs with id := id }
          flight := { f with id := rs.flightId }
          fareClass := { fc with id := rs.fareClassId } }
    else none).insertionSort fun s t => s.segment.id.toNat ≤ t.segment.id.toNat

structure SearchAvailableFlightsRow where
  flight : FlightValue
  flightFare : FlightFareValue
  fareClass : FareClassValue

def searchAvailableFlights (params : SearchAvailableFlightsParams) : List SearchAvailableFlightsRow :=
  (scan.flightFares.filterMap fun (flightId, fareClassId) => do
    let ff ← db.flightFares.row (flightId, fareClassId)
    let f ← db.catalog.flights.row flightId
    let fc ← db.catalog.fareClasses.row fareClassId
    if f.originAirport = params.origin ∧ f.destinationAirport = params.destination ∧
        f.departureAt ≥ params.departureFrom ∧ f.departureAt ≤ params.departureTo ∧
        f.status = .scheduled ∧ ff.availableSeats ≥ params.passengerCount then
      some
        { flight := { f with id := flightId }
          flightFare :=
            { ff with
              id := scan.flightFareId (flightId, fareClassId)
              flightId := flightId
              fareClassId := fareClassId }
          fareClass := { fc with id := fareClassId } }
    else none).insertionSort fun r s =>
      r.flight.departureAt < s.flight.departureAt ∨
        r.flight.departureAt = s.flight.departureAt ∧ r.flightFare.price ≤ s.flightFare.price

def getAvailableTravelCredits (now : Timestamp) (customerId : UUID) (currency : String) :
    List CreditValue :=
  (scan.travelCredits.filterMap fun id => do
    let credit ← db.travelCredits.row id
    if credit.customerId = customerId ∧ credit.currency = currency ∧ 0 < credit.remainingAmount ∧
        now < credit.expiresAt ∧ (credit.status = .available ∨ credit.status = .partiallyUsed) then
      some (mapTravelCredit id credit)
    else none).insertionSort fun c d => c.expiresAt ≤ d.expiresAt

end

namespace Go

def int32 (n : Int) : Int := Int.bmod n (2 ^ 32)

structure Grouping where
  results : List AvailableFlight := []
  indexes : UUID → Option Nat := fun _ => none

def Grouping.add (g : Grouping) (row : SearchAvailableFlightsRow) : Grouping :=
  let (g, index) : Grouping × Nat := match g.indexes row.flight.id with
    | some index => (g, index)
    | none =>
      ({ results := g.results ++ [{ flight := row.flight, fares := [] }]
         indexes := Function.update g.indexes row.flight.id (some g.results.length) },
        g.results.length)
  { g with
    results := g.results.modify index fun result =>
      { result with
        fares := result.fares ++ [{ fareClass := row.fareClass, flightFare := row.flightFare }] } }

def searchAvailable (db : Db) (scan : Scan) (params : SearchAvailableFlightsParams) :
    List AvailableFlight :=
  let rows := searchAvailableFlights db scan
    { params with passengerCount := int32 params.passengerCount }
  (rows.foldl Grouping.add {}).results

/-- The first loop of `buildRebookingOptions`: whether the class of the segment was
found, or nothing if the loop returns. -/
def findOriginalFare (segment : ReservationSegment) : List AvailableFare → Bool → Option Bool
  | [], found => some found
  | fare :: fares, found =>
    if fare.fareClass.id = segment.fareClassId then
      if !fare.fareClass.changeAllowed then none else findOriginalFare segment fares true
    else findOriginalFare segment fares found

def buildRebookingOptions (originalFlight : Flight) (segment : ReservationSegment)
    (candidates : List AvailableFlight) (input : SearchRebookingOptionsInput) : List RebookingOption :=
  if findOriginalFare segment (candidates.flatMap (·.fares)) false = some true then
    candidates.flatMap fun candidate =>
      if candidate.flight.status ≠ .scheduled ∨
          candidate.flight.originAirport ≠ originalFlight.originAirport ∨
          candidate.flight.destinationAirport ≠ originalFlight.destinationAirport ∨
          candidate.flight.departureAt < input.departureFrom ∨
          candidate.flight.departureAt > input.departureTo then []
      else candidate.fares.filterMap fun fare =>
        if !fare.fareClass.changeAllowed ∨ fare.flightFare.availableSeats < input.passengerCount then
          none
        else some
          { flight := candidate.flight
            fareClass := fare.fareClass
            flightFare := fare.flightFare
            fareDifference := fare.flightFare.price - segment.pricePaid
            changeFee := fare.fareClass.changeFee }
  else []

namespace Service

def getReservation (db : Db) (scan : Scan) (bookingReference : String) :
    Except String ReservationDetails :=
  if bookingReference = "" then .error "booking reference is required"
  else
    match getReservationByBookingReference db scan bookingReference with
    | none => .error "reservation not found"
    | some reservation => .ok
      { reservation := reservation
        passengers := getPassengersByReservation scan reservation.id
        segments := getSegmentDetailsByReservation db scan reservation.id }

def getAvailableTravelCredits (db : Db) (scan : Scan) (now : Timestamp) (customerId : UUID)
    (currency : String) : Except String (List CreditValue) :=
  if currency = "" then .error "currency is required"
  else .ok (Airline.getAvailableTravelCredits db scan now customerId currency)

def searchRebookingOptions (db : Db) (scan : Scan) (input : SearchRebookingOptionsInput) :
    Except String (List RebookingOption) :=
  if input.departureTo < input.departureFrom then .error "departure window is invalid"
  else if input.passengerCount ≤ 0 then .error "passenger count must be greater than zero"
  else
    match db.reservationSegments.row input.segmentId with
    | none => .error "get segment for rebooking: reservation segment not found"
    | some segment =>
      match db.catalog.flights.row segment.flightId with
      | none => .error "get original flight for rebooking: flight not found"
      | some originalFlight =>
        let candidates := searchAvailable db scan
          { origin := originalFlight.originAirport
            destination := originalFlight.destinationAirport
            departureFrom := input.departureFrom
            departureTo := input.departureTo
            passengerCount := input.passengerCount }
        .ok (buildRebookingOptions originalFlight segment candidates input)

inductive ValidateError
  | state (error : ExecuteError)
  | validation (error : ValidationError)
  deriving DecidableEq

def ValidateError.message : ValidateError → String
  | .state error => "get rebooking state: " ++ error.message
  | .validation error => error.message

def validateRebookingSelection (db : Db) (now : Timestamp) (selection : RebookingSelection UUID) :
    Except ValidateError (RebookingValidation UUID) :=
  match (atomically (dialect.snapshot db.catalog selection) db).1 with
  | .error error => .error (.state error)
  | .ok (snapshot, credit) =>
    (Go.validateRebookingSelection now selection snapshot credit).mapError .validation

end Service

end Go

end AgentsAtScale.Airline
