import AgentsAtScale.Airline.Schema

/-! What a rebooking is for, apart from how the repositories carry it out: one
segment moves to another fare, its seats move with it, and the price difference
and the change fee are settled against the reservation and a travel credit. -/

namespace AgentsAtScale.Airline

open Transaction

def FlightFare.addSeats (n : Int) (fare : FlightFare) : FlightFare :=
  { fare with availableSeats := fare.availableSeats + n }

def Reservation.addTotal (amount : Decimal) (reservation : Reservation) : Reservation :=
  { reservation with totalAmount := reservation.totalAmount + amount }

def ReservationSegment.move (flightId fareClassId : UUID) (price : Decimal)
    (segment : ReservationSegment) : ReservationSegment :=
  { segment with
    flightId := flightId
    fareClassId := fareClassId
    pricePaid := price
    status := .changed }

def TravelCredit.consume (amount : Decimal) (credit : TravelCredit) : TravelCredit :=
  { credit with
    remainingAmount := credit.remainingAmount - amount
    status := if credit.remainingAmount - amount = 0 then .used else .partiallyUsed }

def ReservationSegment.fare (segment : ReservationSegment) : UUID × UUID :=
  (segment.flightId, segment.fareClassId)

def FlightChange.amount (change : FlightChange) : Decimal :=
  change.fareDifference + change.changeFee - change.travelCreditUsed

/-- A rebooking that the database admits. -/
structure Rebooking (db : Db) where
  segmentId : UUID
  segment : ReservationSegment
  reservation : Reservation
  newFlightId : UUID
  newFareClassId : UUID
  target : FlightFare
  fareClass : FareClass
  travelCreditId : Option UUID
  travelCreditUsed : Decimal
  segment_row : db.reservationSegments.row segmentId = some segment
  reservation_row : db.reservations.row segment.reservationId = some reservation
  target_row : db.flightFares.row (newFlightId, newFareClassId) = some target
  fareClass_row : db.catalog.fareClasses.row newFareClassId = some fareClass
  notApplied : segment.status = .changed → segment.fare ≠ (newFlightId, newFareClassId)
  passengers : 0 < db.catalog.passengerCount segment.reservationId
  seats : db.catalog.passengerCount segment.reservationId ≤ target.availableSeats
  due : travelCreditUsed = max (target.price - segment.pricePaid + fareClass.changeFee) 0
  noCredit : travelCreditId = none → travelCreditUsed = 0
  credit : ∀ id, travelCreditId = some id → ∃ credit, db.travelCredits.row id = some credit ∧
    credit.customerId = reservation.customerId ∧ travelCreditUsed ≤ credit.remainingAmount ∧
    0 < travelCreditUsed ∧ (credit.status = .available ∨ credit.status = .partiallyUsed)

namespace Rebooking

variable {db : Db}

def passengerCount (b : Rebooking db) : Int := db.catalog.passengerCount b.segment.reservationId

def newFare (b : Rebooking db) : UUID × UUID := (b.newFlightId, b.newFareClassId)

def change (b : Rebooking db) : FlightChange where
  reservationSegmentId := b.segmentId
  oldFlightId := b.segment.flightId
  newFlightId := b.newFlightId
  oldFareClassId := b.segment.fareClassId
  newFareClassId := b.newFareClassId
  fareDifference := b.target.price - b.segment.pricePaid
  changeFee := b.fareClass.changeFee
  travelCreditUsed := b.travelCreditUsed
  currency := b.segment.currency

def apply (b : Rebooking db) : Db where
  catalog := db.catalog
  flightFares := (db.flightFares.modify b.newFare (·.addSeats (-b.passengerCount))).modify
    b.segment.fare (·.addSeats b.passengerCount)
  reservations := db.reservations.modify b.segment.reservationId (·.addTotal b.change.amount)
  reservationSegments := db.reservationSegments.modify b.segmentId
    (·.move b.newFlightId b.newFareClassId b.target.price)
  travelCredits := b.travelCreditId.elim db.travelCredits
    fun id => db.travelCredits.modify id (·.consume b.travelCreditUsed)
  flightChanges := db.flightChanges ++ [b.change]

end Rebooking

end AgentsAtScale.Airline
