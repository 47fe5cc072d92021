import AgentsAtScale.Airline.Statements

namespace AgentsAtScale.Airline

open Transaction Program

/-- What distinguishes the two repositories that run the `airline.sql` statements. -/
structure Dialect (Credit ε : Type) where
  creditId : Credit → Option UUID
  validate : Timestamp → RebookingSelection Credit → RebookingSnapshot → Option CreditValue →
    Except ε (RebookingValidation Credit)
  segmentNotFound : ε
  flightNotFound : ε
  travelCreditNotFound : ε
  statement : String → SqlError → ε

namespace Dialect

variable (d : Dialect γ ε)

def exec (context : String) (p : Sql SqlError α) : Sql ε α :=
  ExceptT.adapt (d.statement context) p

def snapshot (catalog : Catalog) (selection : RebookingSelection γ) :
    Sql ε (RebookingSnapshot × Option CreditValue) := do
  let some segment ← d.exec "get rebooking segment"
    (getRebookingSegmentForUpdate catalog selection.segmentId) | throw d.segmentNotFound
  let some target ← d.exec "get rebooking target"
    (getRebookingTargetForUpdate catalog selection.newFlightId selection.newFareClassId)
    | throw d.flightNotFound
  let snapshot := rebookingSnapshot segment target
  match d.creditId selection.travelCreditId with
  | none => return (snapshot, none)
  | some id =>
    let some credit ← d.exec "get travel credit"
      (getTravelCreditForUpdate id segment.customerId) | throw d.travelCreditNotFound
    return (snapshot, some credit)

def execute (catalog : Catalog) (now : Timestamp) (selection : RebookingSelection γ) :
    Sql ε RebookingResult := do
  let (snapshot, credit) ← d.snapshot catalog selection
  let validation ← check (d.validate now selection snapshot credit)
  d.exec "decrement rebooking inventory"
    (decrementFlightFareSeats validation.passengerCount validation.newFlightId
      validation.newFareClassId)
  d.exec "restore original inventory"
    (incrementFlightFareSeats validation.passengerCount validation.oldFlightId
      validation.oldFareClassId)
  d.exec "update reservation segment"
    (updateReservationSegment selection.segmentId validation.newFlightId validation.newFareClassId
      validation.newPrice validation.currency)
  d.exec "update reservation total"
    (updateReservationTotal validation.reservationId
      (validation.fareDifference + validation.changeFee - validation.travelCreditUsed))
  if let some id := d.creditId selection.travelCreditId then
    d.exec "consume travel credit" (consumeTravelCredit id selection.travelCreditAmount)
  let change ← d.exec "record flight change" (createFlightChange validation.flightChange)
  return {
    change := some change
    segmentId := selection.segmentId
    segment := validation.segment
    bookingReference := "" }

end Dialect

namespace Go

inductive ExecuteError
  | segmentNotFound
  | flightNotFound
  | travelCreditNotFound
  | validation (error : ValidationError)
  | statement (context : String) (error : SqlError)
  deriving DecidableEq

def ExecuteError.message : ExecuteError → String
  | .segmentNotFound => "reservation segment not found"
  | .flightNotFound => "flight not found"
  | .travelCreditNotFound => "travel credit not found"
  | .validation error => "validate rebooking selection: " ++ error.message
  | .statement context error => context ++ ": " ++ error.message

def dialect : Dialect UUID ExecuteError where
  creditId := goCredit
  validate now selection snapshot credit :=
    (validateRebookingSelection now selection snapshot credit).mapError .validation
  segmentNotFound := .segmentNotFound
  flightNotFound := .flightNotFound
  travelCreditNotFound := .travelCreditNotFound
  statement := .statement

def execute (catalog : Catalog) (now : Timestamp) (selection : RebookingSelection UUID) :
    Sql ExecuteError RebookingResult :=
  dialect.execute catalog now selection

inductive VerifyError
  | segmentNotFound
  | rebookingVerification
  | verifyRebooking (error : SqlError)
  deriving DecidableEq

def VerifyError.message : VerifyError → String
  | .segmentNotFound => "reservation segment not found"
  | .rebookingVerification => "rebooking verification failed"
  | .verifyRebooking error => "verify rebooking: " ++ error.message

def verify (selection : RebookingSelection UUID) : Sql VerifyError RebookingResult := do
  let some row ← ExceptT.adapt .verifyRebooking (getRebookingResult selection.segmentId)
    | throw .segmentNotFound
  if row.flightId ≠ selection.newFlightId ∨ row.fareClassId ≠ selection.newFareClassId ∨
      row.segmentStatus ≠ .changed then
    throw .rebookingVerification
  else return row.result

end Go

namespace Python

inductive ExecuteError
  | segmentNotFound (message : String)
  | flightNotFound (message : String)
  | travelCreditNotFound (message : String)
  | rule (error : RebookingRuleError)
  | value (message : String)
  | attribute
  | database (error : SqlError)
  deriving DecidableEq

def validate (now : Timestamp) (selection : RebookingSelection (Option UUID))
    (snapshot : RebookingSnapshot) (credit : Option CreditValue) :
    Except ExecuteError (RebookingValidation (Option UUID)) :=
  (validateRebookingSelection now selection snapshot credit).mapError .rule

inductive VerifyError
  | segmentNotFound (message : String)
  | rebookingVerification (message : String)
  | database (error : SqlError)
  deriving DecidableEq

end Python

namespace Asyncpg

open Python

def dialect : Dialect (Option UUID) ExecuteError where
  creditId := id
  validate := validate
  segmentNotFound := .segmentNotFound "reservation segment not found"
  flightNotFound := .flightNotFound "target flight or fare not found"
  travelCreditNotFound := .travelCreditNotFound "travel credit not found"
  statement _ := .database

def execute (catalog : Catalog) (now : Timestamp) (selection : RebookingSelection (Option UUID)) :
    Sql ExecuteError RebookingResult :=
  dialect.execute catalog now selection

def verify (selection : RebookingSelection (Option UUID)) : Sql VerifyError RebookingResult := do
  let some row ← ExceptT.adapt .database (getRebookingResult selection.segmentId)
    | throw (.segmentNotFound "reservation segment not found")
  if row.flightId ≠ selection.newFlightId ∨ row.fareClassId ≠ selection.newFareClassId ∨
      row.segmentStatus ≠ .changed then
    throw (.rebookingVerification "rebooking verification failed")
  else return row.result

end Asyncpg

/-! The SQLAlchemy session refers to loaded rows weakly, so a row that no local
variable holds is loaded again when it is next needed.  Attribute changes reach
the database at the next statement (autoflush) or at `flush`, as an `UPDATE` of
the changed columns with the values computed in Python. -/

namespace Orm

open Python

def target (selection : RebookingSelection (Option UUID)) (lock : Bool) :
    Sql ExecuteError FlightFare := do
  let some target ← selectRow lock (RowKey.flightFare selection.newFlightId selection.newFareClassId)
    | throw (.flightNotFound "target flight or fare not found")
  return target

/-- `sorted` by the string forms of the ids, which order as the ids do. -/
def fareKeys (old new : UUID × UUID) : List (UUID × UUID) :=
  if old = new then [old]
  else if old.1.toNat < new.1.toNat ∨ old.1 = new.1 ∧ old.2.toNat ≤ new.2.toNat then [old, new]
  else [new, old]

def lockFares (oldFlightId oldFareClassId : UUID) (selection : RebookingSelection (Option UUID)) :
    Sql ExecuteError Unit :=
  (fareKeys (oldFlightId, oldFareClassId) (selection.newFlightId, selection.newFareClassId)).forM
    fun key => do
      let _ ← lockRow (RowKey.flightFare key.1 key.2)

def snapshot (catalog : Catalog) (selection : RebookingSelection (Option UUID)) (lock : Bool) :
    Sql ExecuteError (RebookingSnapshot × Option CreditValue) := do
  let some segment ← selectRow lock (RowKey.segment selection.segmentId)
    | throw (.segmentNotFound "reservation segment not found")
  let some reservation ← readRow (RowKey.reservation segment.reservationId) | throw .attribute
  let some flight := catalog.flights.row segment.flightId | throw .attribute
  let some fareClass := catalog.fareClasses.row segment.fareClassId | throw .attribute
  let target ← target selection false
  let some targetFlight := catalog.flights.row selection.newFlightId | throw .attribute
  let some targetFareClass := catalog.fareClasses.row selection.newFareClassId | throw .attribute
  let snapshot : RebookingSnapshot :=
    { segmentId := selection.segmentId
      reservationId := segment.reservationId
      customerId := reservation.customerId
      oldFlightId := segment.flightId
      oldFareClassId := segment.fareClassId
      segmentStatus := segment.status
      reservationStatus := reservation.status
      oldFlightStatus := flight.status
      originAirport := flight.originAirport
      destinationAirport := flight.destinationAirport
      oldDepartureAt := flight.departureAt
      oldPrice := segment.pricePaid
      oldCurrency := segment.currency
      oldChangeAllowed := fareClass.changeAllowed
      targetFlightId := selection.newFlightId
      targetFareClassId := selection.newFareClassId
      targetStatus := targetFlight.status
      targetOrigin := targetFlight.originAirport
      targetDestination := targetFlight.destinationAirport
      targetDepartureAt := targetFlight.departureAt
      targetPrice := target.price
      targetCurrency := target.currency
      availableSeats := target.availableSeats
      targetChangeAllowed := targetFareClass.changeAllowed
      targetChangeFee := targetFareClass.changeFee
      passengerCount := catalog.passengerCount segment.reservationId }
  match selection.travelCreditId with
  | none => return (snapshot, none)
  | some id =>
    let some credit ← selectRow lock (RowKey.travelCredit id)
      | throw (.travelCreditNotFound "travel credit not found")
    return (snapshot, some (mapTravelCredit id credit))

def column (x : Except SqlError α) : Sql ExecuteError α := check (x.mapError .database)

def flushReservation (id : UUID) (totalAmount : Decimal) : Sql ExecuteError Unit := do
  let totalAmount ← column (numeric totalAmount)
  let some reservation ← lockRow (RowKey.reservation id) | throw .attribute
  writeRow (RowKey.reservation id) { reservation with totalAmount := totalAmount }

def flushSegment (id : UUID) (segment : ReservationSegment) : Sql ExecuteError Unit := do
  let pricePaid ← column (numeric segment.pricePaid)
  writeRow (RowKey.segment id) { segment with pricePaid := pricePaid }

def flushSeats (flightId fareClassId : UUID) (fare : FlightFare) : Sql ExecuteError Unit := do
  let availableSeats ← column (integer fare.availableSeats)
  writeRow (RowKey.flightFare flightId fareClassId) { fare with availableSeats := availableSeats }

def takeSeats (selection : RebookingSelection (Option UUID)) (passengerCount : Int) :
    Sql ExecuteError Unit := do
  let target ← target selection true
  if target.availableSeats < passengerCount then
    throw (.value "target flight does not have enough seats")
  else
    flushSeats selection.newFlightId selection.newFareClassId
      { target with availableSeats := target.availableSeats - passengerCount }

def returnSeats (flightId fareClassId : UUID) (passengerCount : Int) : Sql ExecuteError Unit := do
  let some oldFare ← lockRow (RowKey.flightFare flightId fareClassId)
    | throw (.flightNotFound "original fare not found")
  flushSeats flightId fareClassId
    { oldFare with availableSeats := oldFare.availableSeats + passengerCount }

def consumeCredit (id : UUID) (amount : Decimal) : Sql ExecuteError Unit := do
  let some credit ← lockRow (RowKey.travelCredit id)
    | throw (.travelCreditNotFound "travel credit not found")
  let remainingAmount ← column (numeric (credit.remainingAmount - amount))
  writeRow (RowKey.travelCredit id)
    { credit with
      remainingAmount := remainingAmount
      status := if remainingAmount = 0 then .used else .partiallyUsed }

def execute (catalog : Catalog) (now : Timestamp) (selection : RebookingSelection (Option UUID)) :
    Sql ExecuteError RebookingResult := do
  let (first, _) ← snapshot catalog selection true
  lockFares first.oldFlightId first.oldFareClassId selection
  let (snapshot, credit) ← snapshot catalog selection true
  let validation ← check (validate now selection snapshot credit)
  takeSeats selection validation.passengerCount
  returnSeats validation.oldFlightId validation.oldFareClassId validation.passengerCount
  let some segment ← readRow (RowKey.segment selection.segmentId)
    | throw (.segmentNotFound "reservation segment not found")
  let some reservation ← readRow (RowKey.reservation validation.reservationId)
    | throw (.segmentNotFound "reservation segment not found")
  let segment : ReservationSegment :=
    { segment with
      flightId := validation.newFlightId
      fareClassId := validation.newFareClassId
      pricePaid := validation.newPrice
      currency := validation.currency
      status := .changed }
  flushReservation validation.reservationId (reservation.totalAmount +
    (validation.fareDifference + validation.changeFee - validation.travelCreditUsed))
  flushSegment selection.segmentId segment
  if let some id := selection.travelCreditId then
    consumeCredit id selection.travelCreditAmount
  let change ← ExceptT.adapt .database (createFlightChange validation.flightChange)
  return {
    change := some change
    segmentId := selection.segmentId
    segment := segment
    bookingReference := reservation.bookingReference }

def verify (selection : RebookingSelection (Option UUID)) : Sql VerifyError RebookingResult := do
  let some segment ← readRow (RowKey.segment selection.segmentId)
    | throw (.segmentNotFound "reservation segment not found")
  if segment.flightId ≠ selection.newFlightId ∨ segment.fareClassId ≠ selection.newFareClassId ∨
      segment.status ≠ .changed then
    throw (.rebookingVerification "rebooking verification failed")
  else
    let some reservation ← readRow (RowKey.reservation segment.reservationId)
      | throw (.rebookingVerification "rebooking reservation not found")
    return {
      change := none
      segmentId := selection.segmentId
      segment := segment
      bookingReference := reservation.bookingReference }

end Orm

end AgentsAtScale.Airline
