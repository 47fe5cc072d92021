import AgentsAtScale.Transaction.Locking
import AgentsAtScale.Transaction.Table
import Mathlib.Data.Rat.Init
import Mathlib.Algebra.Order.Ring.Rat

/-! The airline tables of `schema.sql`, as far as rebooking reads or writes them.
Generated ids and timestamps of the written rows are left out. -/

namespace AgentsAtScale.Airline

open Transaction

abbrev UUID := BitVec 128
abbrev Decimal := ℚ
abbrev Timestamp := Int

def nilUUID : UUID := 0

inductive ReservationStatus
  | confirmed | cancelled | completed
  deriving DecidableEq

inductive FlightStatus
  | scheduled | delayed | cancelled | boarding | departed | completed
  deriving DecidableEq

inductive SegmentStatus
  | confirmed | changed | cancelled | flown
  deriving DecidableEq

inductive TravelCreditStatus
  | available | partiallyUsed | used | expired
  deriving DecidableEq

structure Flight where
  originAirport : String
  destinationAirport : String
  departureAt : Timestamp
  status : FlightStatus
  deriving DecidableEq

structure FareClass where
  changeAllowed : Bool
  changeFee : Decimal
  deriving DecidableEq

structure FlightFare where
  price : Decimal
  currency : String
  availableSeats : Int
  deriving DecidableEq

structure Reservation where
  bookingReference : String
  customerId : UUID
  status : ReservationStatus
  totalAmount : Decimal
  currency : String
  deriving DecidableEq

structure ReservationSegment where
  reservationId : UUID
  flightId : UUID
  fareClassId : UUID
  status : SegmentStatus
  pricePaid : Decimal
  currency : String
  deriving DecidableEq

structure TravelCredit where
  customerId : UUID
  originalAmount : Decimal
  remainingAmount : Decimal
  currency : String
  status : TravelCreditStatus
  expiresAt : Timestamp
  deriving DecidableEq

structure FlightChange where
  reservationSegmentId : UUID
  oldFlightId : UUID
  newFlightId : UUID
  oldFareClassId : UUID
  newFareClassId : UUID
  fareDifference : Decimal
  changeFee : Decimal
  travelCreditUsed : Decimal
  currency : String
  deriving DecidableEq

/-- The tables that no rebooking statement writes. -/
structure Catalog where
  flights : Table UUID Flight
  fareClasses : Table UUID FareClass
  reservationPassengers : Finset (UUID × UUID)

/-- `flightFares` is keyed by `UNIQUE (flight_id, fare_class_id)`, the other
tables by their primary keys. -/
structure Db where
  catalog : Catalog
  flightFares : Table (UUID × UUID) FlightFare
  reservations : Table UUID Reservation
  reservationSegments : Table UUID ReservationSegment
  travelCredits : Table UUID TravelCredit
  flightChanges : List FlightChange

def IsInteger (n : Int) : Prop := -2 ^ 31 ≤ n ∧ n < 2 ^ 31

def IsNumeric (x : Decimal) : Prop := -10 ^ 10 < x ∧ x < 10 ^ 10

instance (n : Int) : Decidable (IsInteger n) := inferInstanceAs (Decidable (_ ∧ _))

instance (x : Decimal) : Decidable (IsNumeric x) := inferInstanceAs (Decidable (_ ∧ _))

/-- What the rebookings rely on of the foreign keys and the column types of `schema.sql`. -/
structure Db.Valid (db : Db) : Prop where
  fareClasses : db.catalog.fareClasses.All fun _ fareClass => IsNumeric fareClass.changeFee
  flightFares : db.flightFares.All fun key fare =>
    (db.catalog.flights.row key.1).isSome ∧ (db.catalog.fareClasses.row key.2).isSome ∧
      IsNumeric fare.price ∧ IsInteger fare.availableSeats
  reservations : db.reservations.All fun _ reservation => IsNumeric reservation.totalAmount
  reservationSegments : db.reservationSegments.All fun _ segment =>
    (db.reservations.row segment.reservationId).isSome ∧
      (db.catalog.flights.row segment.flightId).isSome ∧
      (db.catalog.fareClasses.row segment.fareClassId).isSome ∧ IsNumeric segment.pricePaid
  travelCredits : db.travelCredits.All fun _ credit => IsNumeric credit.remainingAmount

instance (db : Db) : Decidable db.Valid :=
  decidable_of_iff (_ ∧ _ ∧ _ ∧ _ ∧ _)
    ⟨fun ⟨h₁, h₂, h₃, h₄, h₅⟩ => ⟨h₁, h₂, h₃, h₄, h₅⟩,
      fun h => ⟨h.1, h.2, h.3, h.4, h.5⟩⟩

def Catalog.passengerCount (c : Catalog) (reservationId : UUID) : Int :=
  (c.reservationPassengers.filter fun rp => rp.1 = reservationId).card

inductive RowKey
  | flight (id : UUID)
  | flightFare (flightId fareClassId : UUID)
  | reservation (id : UUID)
  | segment (id : UUID)
  | travelCredit (id : UUID)
  deriving DecidableEq

/-- Flights are only ever locked, so their key carries no row of its own. -/
abbrev Row : RowKey → Type
  | .flight _ => Unit
  | .flightFare _ _ => FlightFare
  | .reservation _ => Reservation
  | .segment _ => ReservationSegment
  | .travelCredit _ => TravelCredit

namespace Db

def fetch (db : Db) : (k : RowKey) → Option (Row k)
  | .flight id => (db.catalog.flights.row id).map fun _ => ()
  | .flightFare f c => db.flightFares.row (f, c)
  | .reservation id => db.reservations.row id
  | .segment id => db.reservationSegments.row id
  | .travelCredit id => db.travelCredits.row id

def store (db : Db) : (k : RowKey) → Row k → Db
  | .flight _, _ => db
  | .flightFare f c, r => { db with flightFares := db.flightFares.update (f, c) r }
  | .reservation id, r => { db with reservations := db.reservations.update id r }
  | .segment id, r => { db with reservationSegments := db.reservationSegments.update id r }
  | .travelCredit id, r => { db with travelCredits := db.travelCredits.update id r }

theorem fetch_store_self (db : Db) (k : RowKey) (r : Row k) :
    (db.store k r).fetch k = (db.fetch k).map fun _ => r := by
  cases k with
  | flight id => simp only [store, fetch, Option.map_map]
  | flightFare f c => exact Table.row_update_self _ _ _
  | reservation id => exact Table.row_update_self _ _ _
  | segment id => exact Table.row_update_self _ _ _
  | travelCredit id => exact Table.row_update_self _ _ _

theorem fetch_store_of_ne (db : Db) (k : RowKey) (r : Row k) (k' : RowKey) (h : k' ≠ k) :
    (db.store k r).fetch k' = db.fetch k' := by
  cases k with
  | flight id => rfl
  | flightFare f c =>
    cases k' with
    | flightFare f' c' => exact Table.row_update_of_ne _ (by simpa using h) _
    | _ => rfl
  | reservation id =>
    cases k' with
    | reservation id' => exact Table.row_update_of_ne _ (by simpa using h) _
    | _ => rfl
  | segment id =>
    cases k' with
    | segment id' => exact Table.row_update_of_ne _ (by simpa using h) _
    | _ => rfl
  | travelCredit id =>
    cases k' with
    | travelCredit id' => exact Table.row_update_of_ne _ (by simpa using h) _
    | _ => rfl

instance : RowStore Db RowKey Row FlightChange where
  fetch := fetch
  store := store
  record db change := { db with flightChanges := db.flightChanges ++ [change] }
  fetch_store_self := fetch_store_self
  fetch_store_of_ne := fetch_store_of_ne
  fetch_record _ _ k := by cases k <;> rfl
  store_record _ k _ _ := by cases k <;> rfl

@[simp] theorem fetch_eq (db : Db) (k : RowKey) : RowStore.fetch db k = db.fetch k := rfl

end Db

/-- The selected target of a rebooking.  The travel credit is a `uuid.UUID` in
Go, with `uuid.Nil` for none, and a `UUID | None` in Python. -/
structure RebookingSelection (Credit : Type) where
  segmentId : UUID
  newFlightId : UUID
  newFareClassId : UUID
  travelCreditId : Credit
  travelCreditAmount : Decimal
  deriving DecidableEq

structure RebookingSnapshot where
  segmentId : UUID
  reservationId : UUID
  customerId : UUID
  oldFlightId : UUID
  oldFareClassId : UUID
  segmentStatus : SegmentStatus
  reservationStatus : ReservationStatus
  oldFlightStatus : FlightStatus
  originAirport : String
  destinationAirport : String
  oldDepartureAt : Timestamp
  oldPrice : Decimal
  oldCurrency : String
  oldChangeAllowed : Bool
  targetFlightId : UUID
  targetFareClassId : UUID
  targetStatus : FlightStatus
  targetOrigin : String
  targetDestination : String
  targetDepartureAt : Timestamp
  targetPrice : Decimal
  targetCurrency : String
  availableSeats : Int
  targetChangeAllowed : Bool
  targetChangeFee : Decimal
  passengerCount : Int
  deriving DecidableEq

structure RebookingValidation (Credit : Type) where
  selection : RebookingSelection Credit
  reservationId : UUID
  customerId : UUID
  oldFlightId : UUID
  oldFareClassId : UUID
  newFlightId : UUID
  newFareClassId : UUID
  newPrice : Decimal
  fareDifference : Decimal
  changeFee : Decimal
  amountDue : Decimal
  travelCreditUsed : Decimal
  currency : String
  passengerCount : Int
  deriving DecidableEq

structure RebookingResult where
  change : Option FlightChange
  segmentId : UUID
  segment : ReservationSegment
  bookingReference : String
  deriving DecidableEq

end AgentsAtScale.Airline
