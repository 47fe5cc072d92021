import AgentsAtScale.Airline.Validation

/-! The rebooking statements of `airline.sql`, which the Go and the asyncpg
repositories share.  Rows of flights, fare classes and reservation passengers
are read from the catalog: no rebooking statement changes them. -/

namespace AgentsAtScale.Airline

open Transaction Program

inductive SqlError
  | integerOutOfRange
  | numericFieldOverflow
  deriving DecidableEq

def SqlError.message : SqlError → String
  | .integerOutOfRange => "ERROR: integer out of range (SQLSTATE 22003)"
  | .numericFieldOverflow => "ERROR: numeric field overflow (SQLSTATE 22003)"

abbrev Sql (ε α : Type) := Tx RowKey Row FlightChange ε α

def integer (n : Int) : Except SqlError Int :=
  if -2 ^ 31 ≤ n ∧ n < 2 ^ 31 then .ok n else .error .integerOutOfRange

def numeric (x : Decimal) : Except SqlError Decimal :=
  if -10 ^ 10 < x ∧ x < 10 ^ 10 then .ok x else .error .numericFieldOverflow

structure RebookingSegmentRow where
  segmentId : UUID
  reservationId : UUID
  oldFlightId : UUID
  oldFareClassId : UUID
  segmentStatus : SegmentStatus
  pricePaid : Decimal
  segmentCurrency : String
  customerId : UUID
  reservationStatus : ReservationStatus
  oldFlightStatus : FlightStatus
  originAirport : String
  destinationAirport : String
  oldDepartureAt : Timestamp
  passengerCount : Int
  oldChangeAllowed : Bool

structure RebookingTargetRow where
  flightId : UUID
  flightStatus : FlightStatus
  originAirport : String
  destinationAirport : String
  departureAt : Timestamp
  fareClassId : UUID
  price : Decimal
  currency : String
  availableSeats : Int
  changeAllowed : Bool
  changeFee : Decimal

def getRebookingSegmentForUpdate (catalog : Catalog) (id : UUID) :
    Sql SqlError (Option RebookingSegmentRow) := do
  let some rs ← lockRow (RowKey.segment id) | return none
  let some r ← lockRow (RowKey.reservation rs.reservationId) | return none
  let some oldF := catalog.flights.row rs.flightId | return none
  let some oldFc := catalog.fareClasses.row rs.fareClassId | return none
  return some
    { segmentId := id
      reservationId := rs.reservationId
      oldFlightId := rs.flightId
      oldFareClassId := rs.fareClassId
      segmentStatus := rs.status
      pricePaid := rs.pricePaid
      segmentCurrency := rs.currency
      customerId := r.customerId
      reservationStatus := r.status
      oldFlightStatus := oldF.status
      originAirport := oldF.originAirport
      destinationAirport := oldF.destinationAirport
      oldDepartureAt := oldF.departureAt
      passengerCount := catalog.passengerCount rs.reservationId
      oldChangeAllowed := oldFc.changeAllowed }

def getRebookingTargetForUpdate (catalog : Catalog) (flightId fareClassId : UUID) :
    Sql SqlError (Option RebookingTargetRow) := do
  let some _ ← lockRow (RowKey.flight flightId) | return none
  let some ff ← lockRow (RowKey.flightFare flightId fareClassId) | return none
  let some f := catalog.flights.row flightId | return none
  let some fc := catalog.fareClasses.row fareClassId | return none
  return some
    { flightId := flightId
      flightStatus := f.status
      originAirport := f.originAirport
      destinationAirport := f.destinationAirport
      departureAt := f.departureAt
      fareClassId := fareClassId
      price := ff.price
      currency := ff.currency
      availableSeats := ff.availableSeats
      changeAllowed := fc.changeAllowed
      changeFee := fc.changeFee }

def getTravelCreditForUpdate (id customerId : UUID) : Sql SqlError (Option CreditValue) := do
  let some credit ← lockRow (RowKey.travelCredit id) | return none
  if credit.customerId = customerId then return some (mapTravelCredit id credit) else return none

def decrementFlightFareSeats (passengerCount : Int) (flightId fareClassId : UUID) :
    Sql SqlError Unit := do
  let some ff ← lockRow (RowKey.flightFare flightId fareClassId) | return ()
  if ff.availableSeats ≥ passengerCount then
    let availableSeats ← check (integer (ff.availableSeats - passengerCount))
    writeRow (RowKey.flightFare flightId fareClassId) { ff with availableSeats := availableSeats }

def incrementFlightFareSeats (passengerCount : Int) (flightId fareClassId : UUID) :
    Sql SqlError Unit := do
  let some ff ← lockRow (RowKey.flightFare flightId fareClassId) | return ()
  let availableSeats ← check (integer (ff.availableSeats + passengerCount))
  writeRow (RowKey.flightFare flightId fareClassId) { ff with availableSeats := availableSeats }

def updateReservationTotal (id : UUID) (amount : Decimal) : Sql SqlError Unit := do
  let some r ← lockRow (RowKey.reservation id) | return ()
  let totalAmount ← check (numeric (r.totalAmount + amount))
  writeRow (RowKey.reservation id) { r with totalAmount := totalAmount }

def updateReservationSegment (id flightId fareClassId : UUID) (pricePaid : Decimal)
    (currency : String) : Sql SqlError Unit := do
  let some rs ← lockRow (RowKey.segment id) | return ()
  let pricePaid ← check (numeric pricePaid)
  writeRow (RowKey.segment id)
    { rs with
      flightId := flightId
      fareClassId := fareClassId
      pricePaid := pricePaid
      status := .changed
      currency := currency }

def consumeTravelCredit (id : UUID) (amount : Decimal) : Sql SqlError Unit := do
  let some credit ← lockRow (RowKey.travelCredit id) | return ()
  if credit.remainingAmount ≥ amount then
    let remainingAmount ← check (numeric (credit.remainingAmount - amount))
    writeRow (RowKey.travelCredit id)
      { credit with
        remainingAmount := remainingAmount
        status := if remainingAmount = 0 then .used else .partiallyUsed }

def createFlightChange (change : FlightChange) : Sql SqlError FlightChange := do
  let fareDifference ← check (numeric change.fareDifference)
  let changeFee ← check (numeric change.changeFee)
  let travelCreditUsed ← check (numeric change.travelCreditUsed)
  let change :=
    { change with
      fareDifference := fareDifference
      changeFee := changeFee
      travelCreditUsed := travelCreditUsed }
  insertRow change
  return change

structure RebookingResultRow where
  segmentId : UUID
  reservationId : UUID
  flightId : UUID
  fareClassId : UUID
  segmentStatus : SegmentStatus
  pricePaid : Decimal
  currency : String
  bookingReference : String

def getRebookingResult (id : UUID) : Sql SqlError (Option RebookingResultRow) := do
  let some rs ← readRow (RowKey.segment id) | return none
  let some r ← readRow (RowKey.reservation rs.reservationId) | return none
  return some
    { segmentId := id
      reservationId := rs.reservationId
      flightId := rs.flightId
      fareClassId := rs.fareClassId
      segmentStatus := rs.status
      pricePaid := rs.pricePaid
      currency := rs.currency
      bookingReference := r.bookingReference }

def RebookingResultRow.result (row : RebookingResultRow) : RebookingResult where
  change := none
  segmentId := row.segmentId
  segment :=
    { reservationId := row.reservationId
      flightId := row.flightId
      fareClassId := row.fareClassId
      status := row.segmentStatus
      pricePaid := row.pricePaid
      currency := row.currency }
  bookingReference := row.bookingReference

def rebookingSnapshot (segment : RebookingSegmentRow) (target : RebookingTargetRow) :
    RebookingSnapshot where
  segmentId := segment.segmentId
  reservationId := segment.reservationId
  customerId := segment.customerId
  oldFlightId := segment.oldFlightId
  oldFareClassId := segment.oldFareClassId
  segmentStatus := segment.segmentStatus
  reservationStatus := segment.reservationStatus
  oldFlightStatus := segment.oldFlightStatus
  originAirport := segment.originAirport
  destinationAirport := segment.destinationAirport
  oldDepartureAt := segment.oldDepartureAt
  oldPrice := segment.pricePaid
  oldCurrency := segment.segmentCurrency
  oldChangeAllowed := segment.oldChangeAllowed
  targetFlightId := target.flightId
  targetFareClassId := target.fareClassId
  targetStatus := target.flightStatus
  targetOrigin := target.originAirport
  targetDestination := target.destinationAirport
  targetDepartureAt := target.departureAt
  targetPrice := target.price
  targetCurrency := target.currency
  availableSeats := target.availableSeats
  targetChangeAllowed := target.changeAllowed
  targetChangeFee := target.changeFee
  passengerCount := segment.passengerCount

def RebookingValidation.flightChange (validation : RebookingValidation γ) : FlightChange where
  reservationSegmentId := validation.selection.segmentId
  oldFlightId := validation.oldFlightId
  newFlightId := validation.newFlightId
  oldFareClassId := validation.oldFareClassId
  newFareClassId := validation.newFareClassId
  fareDifference := validation.fareDifference
  changeFee := validation.changeFee
  travelCreditUsed := validation.travelCreditUsed
  currency := validation.currency

def RebookingValidation.segment (validation : RebookingValidation γ) : ReservationSegment where
  reservationId := validation.reservationId
  flightId := validation.newFlightId
  fareClassId := validation.newFareClassId
  status := .changed
  pricePaid := validation.newPrice
  currency := validation.currency

end AgentsAtScale.Airline
