import AgentsAtScale.Airline.ExecuteLaws
import AgentsAtScale.Transaction.Yields

namespace AgentsAtScale.Airline

open Transaction Python

/-- How a call ends for the graph, which retries after a `RebookingRuleError`. -/
inductive Outcome (α : Type)
  | accepted (a : α)
  | rejected
  | failed
  deriving DecidableEq

namespace Outcome

def of : Except ExecuteError α → Outcome α
  | .ok a => .accepted a
  | .error (.rule _) => .rejected
  | .error _ => .failed

def map (f : α → β) : Outcome α → Outcome β
  | .accepted a => .accepted (f a)
  | .rejected => .rejected
  | .failed => .failed

end Outcome

def Python.ExecuteError.Failure (e : ExecuteError) : Prop := ∀ error, e ≠ .rule error

theorem Outcome.of_error {e : ExecuteError} (h : e.Failure) :
    of (.error e : Except ExecuteError α) = .failed := by
  cases e with
  | rule error => exact absurd rfl (h error)
  | _ => rfl

def Orm.validateRebookingSelection (catalog : Catalog) (now : Timestamp)
    (selection : RebookingSelection (Option UUID)) :
    Sql ExecuteError (RebookingValidation (Option UUID)) := do
  let (snapshot, credit) ← Orm.snapshot catalog selection false
  check (validate now selection snapshot credit)

def Asyncpg.validateRebookingSelection (catalog : Catalog) (now : Timestamp)
    (selection : RebookingSelection (Option UUID)) :
    Sql ExecuteError (RebookingValidation (Option UUID)) := do
  let (snapshot, credit) ← Asyncpg.dialect.snapshot catalog selection
  check (validate now selection snapshot credit)

/-- What a rebooking returns, apart from the booking reference, which the asyncpg
repository leaves empty. -/
def RebookingResult.record (result : RebookingResult) :
    Option FlightChange × UUID × ReservationSegment :=
  (result.change, result.segmentId, result.segment)

/-- The two repositories end a selection the same way and leave the same rows. -/
structure VariantsAgree (db : Db) (now : Timestamp) (selection : RebookingSelection (Option UUID)) :
    Prop where
  validation : Outcome.of (atomically (Orm.validateRebookingSelection db.catalog now selection) db).1 =
    Outcome.of (atomically (Asyncpg.validateRebookingSelection db.catalog now selection) db).1
  execution :
    (Outcome.of (atomically (Orm.execute db.catalog now selection) db).1).map RebookingResult.record =
      (Outcome.of (atomically (Asyncpg.execute db.catalog now selection) db).1).map
        RebookingResult.record
  database : (atomically (Orm.execute db.catalog now selection) db).2 =
    (atomically (Asyncpg.execute db.catalog now selection) db).2

/-- If all that the selection names exists, its credit is the one of the customer. -/
def OwnCredit (db : Db) (selection : RebookingSelection (Option UUID)) : Prop :=
  ∀ segment reservation target id credit,
    db.reservationSegments.row selection.segmentId = some segment →
    db.reservations.row segment.reservationId = some reservation →
    db.flightFares.row (selection.newFlightId, selection.newFareClassId) = some target →
    selection.travelCreditId = some id → db.travelCredits.row id = some credit →
    credit.customerId = reservation.customerId

def Rebooking.result {db : Db} (b : Rebooking db) (bookingReference : String) : RebookingResult where
  change := some b.change
  segmentId := b.segmentId
  segment := b.segment.move b.newFlightId b.newFareClassId b.target.price
  bookingReference := bookingReference

def Rebooking.moved {db : Db} (b : Rebooking db) : Db :=
  { b.apply with travelCredits := db.travelCredits, flightChanges := db.flightChanges }

structure Rebooking.Movable {db : Db} (b : Rebooking db) : Prop where
  taken : IsInteger (b.target.availableSeats - b.passengerCount)
  returned : ∀ fare, (db.flightFares.modify b.newFare (·.addSeats (-b.passengerCount))).row
    b.segment.fare = some fare → IsInteger (fare.availableSeats + b.passengerCount)
  price : IsNumeric b.target.price
  total : IsNumeric (b.reservation.totalAmount + b.change.amount)

structure Rebooking.Recordable {db : Db} (b : Rebooking db) : Prop where
  credit : ∀ id credit, b.travelCreditId = some id → db.travelCredits.row id = some credit →
    IsNumeric (credit.remainingAmount - b.travelCreditUsed)
  change : IsNumeric b.change.fareDifference ∧ IsNumeric b.change.changeFee ∧
    IsNumeric b.change.travelCreditUsed

section

variable {db : Db}

theorem yields_integer (n : Int) (db : Db) :
    Yields (fun _ => True) (check (integer n) : Sql SqlError Int) db (IsInteger n) n db :=
  Yields.check (fun h => if_pos h) (fun h => ⟨_, if_neg h, trivial⟩) db

theorem yields_numeric (x : Decimal) (db : Db) :
    Yields (fun _ => True) (check (numeric x) : Sql SqlError Decimal) db (IsNumeric x) x db :=
  Yields.check (fun h => if_pos h) (fun h => ⟨_, if_neg h, trivial⟩) db

theorem yields_decrementFlightFareSeats {n : Int} {flightId fareClassId : UUID} {ff : FlightFare}
    (hff : db.flightFares.row (flightId, fareClassId) = some ff) (hn : n ≤ ff.availableSeats) :
    Yields (fun _ => True) (decrementFlightFareSeats n flightId fareClassId) db
      (IsInteger (ff.availableSeats - n)) ()
      { db with flightFares := db.flightFares.modify (flightId, fareClassId) (·.addSeats (-n)) } := by
  apply Yields.lockRow_bind
  rw [Db.fetch_eq, Db.fetch, hff, Table.modify_of_some hff]
  dsimp only
  rw [if_pos hn, ← and_true (IsInteger _)]
  exact (yields_integer _ db).bind fun _ => .writeRow _ rfl

theorem yields_incrementFlightFareSeats (n : Int) (flightId fareClassId : UUID) :
    Yields (fun _ => True) (incrementFlightFareSeats n flightId fareClassId) db
      (∀ ff, db.flightFares.row (flightId, fareClassId) = some ff → IsInteger (ff.availableSeats + n)) ()
      { db with flightFares := db.flightFares.modify (flightId, fareClassId) (·.addSeats n) } := by
  apply Yields.lockRow_bind
  rw [Db.fetch_eq, Db.fetch]
  cases hff : db.flightFares.row (flightId, fareClassId) with
  | none =>
    have hsame : db.flightFares.modify (flightId, fareClassId) (·.addSeats n) = db.flightFares := by
      simp [Table.modify, hff]
    rw [hsame]
    exact (Yields.pure _ () db).congr (by simp)
  | some ff =>
    rw [Table.modify_of_some hff]
    refine Yields.congr (P := IsInteger (ff.availableSeats + n) ∧ True) ?_ (by simp)
    exact (yields_integer _ db).bind fun _ => .writeRow _ rfl

theorem yields_updateReservationTotal {id : UUID} {amount : Decimal} {r : Reservation}
    (hr : db.reservations.row id = some r) :
    Yields (fun _ => True) (updateReservationTotal id amount) db (IsNumeric (r.totalAmount + amount)) ()
      { db with reservations := db.reservations.modify id (·.addTotal amount) } := by
  apply Yields.lockRow_bind
  rw [Db.fetch_eq, Db.fetch, hr, Table.modify_of_some hr, ← and_true (IsNumeric _)]
  exact (yields_numeric _ db).bind fun _ => .writeRow _ rfl

theorem yields_updateReservationSegment {id flightId fareClassId : UUID} {price : Decimal}
    {r : ReservationSegment} (hr : db.reservationSegments.row id = some r) :
    Yields (fun _ => True) (updateReservationSegment id flightId fareClassId price r.currency) db
      (IsNumeric price) ()
      { db with
        reservationSegments := db.reservationSegments.modify id (·.move flightId fareClassId price) } := by
  apply Yields.lockRow_bind
  rw [Db.fetch_eq, Db.fetch, hr, Table.modify_of_some hr, ← and_true (IsNumeric _)]
  exact (yields_numeric _ db).bind fun _ => .writeRow _ rfl

theorem yields_consumeTravelCredit {id : UUID} {amount : Decimal} {credit : TravelCredit}
    (hc : db.travelCredits.row id = some credit) (ha : amount ≤ credit.remainingAmount) :
    Yields (fun _ => True) (consumeTravelCredit id amount) db
      (IsNumeric (credit.remainingAmount - amount)) ()
      { db with travelCredits := db.travelCredits.modify id (·.consume amount) } := by
  apply Yields.lockRow_bind
  rw [Db.fetch_eq, Db.fetch, hc, Table.modify_of_some hc]
  dsimp only
  rw [if_pos ha, ← and_true (IsNumeric _)]
  exact (yields_numeric _ db).bind fun _ => .writeRow _ rfl

theorem yields_createFlightChange (change : FlightChange) :
    Yields (fun _ => True) (createFlightChange change) db
      (IsNumeric change.fareDifference ∧ IsNumeric change.changeFee ∧ IsNumeric change.travelCreditUsed)
      change { db with flightChanges := db.flightChanges ++ [change] } := by
  refine Yields.congr (P := IsNumeric change.fareDifference ∧ IsNumeric change.changeFee ∧
    IsNumeric change.travelCreditUsed ∧ True ∧ True) ?_ (by simp)
  refine (yields_numeric _ db).bind fun _ => (yields_numeric _ db).bind fun _ =>
    (yields_numeric _ db).bind fun _ => ?_
  exact (Yields.insertRow _ rfl).bind fun _ => .pure _ _ _

end

namespace Orm

variable {db : Db} {selection : RebookingSelection (Option UUID)}

theorem yields_column {x : Except SqlError α} {a : α} {P : Prop}
    (h : Yields (fun _ => True) (check x : Sql SqlError α) db P a db) :
    Yields ExecuteError.Failure (column x) db P a db := by
  refine Yields.check ?_ ?_ db
  · intro hP
    have hx : x = .ok a := congrArg Prod.fst (h.ok hP)
    rw [hx]
    rfl
  · intro hP
    obtain ⟨e, t, he, -⟩ := h.error hP
    have hx : x = .error e := congrArg Prod.fst he
    rw [hx]
    exact ⟨_, rfl, by rintro _ ⟨⟩⟩

theorem yields_takeSeats {n : Int} {ff : FlightFare}
    (hff : db.flightFares.row (selection.newFlightId, selection.newFareClassId) = some ff)
    (hn : n ≤ ff.availableSeats) :
    Yields ExecuteError.Failure (takeSeats selection n) db (IsInteger (ff.availableSeats - n)) ()
      { db with
        flightFares := db.flightFares.modify (selection.newFlightId, selection.newFareClassId)
          (·.addSeats (-n)) } := by
  have htarget : Yields ExecuteError.Failure (target selection true) db True ff db := by
    apply Yields.lockRow_bind
    rw [Db.fetch_eq, Db.fetch, hff]
    exact .pure _ _ _
  rw [Table.modify_of_some hff, ← and_true (IsInteger _), ← true_and (IsInteger _ ∧ True)]
  refine htarget.bind fun _ => ?_
  rw [if_neg (by omega)]
  exact (yields_column (yields_integer _ db)).bind fun _ => .writeRow _ rfl

theorem yields_returnSeats (flightId fareClassId : UUID) (n : Int) :
    Yields ExecuteError.Failure (returnSeats flightId fareClassId n) db
      ((db.flightFares.row (flightId, fareClassId)).isSome ∧
        ∀ ff, db.flightFares.row (flightId, fareClassId) = some ff → IsInteger (ff.availableSeats + n)) ()
      { db with flightFares := db.flightFares.modify (flightId, fareClassId) (·.addSeats n) } := by
  apply Yields.lockRow_bind
  rw [Db.fetch_eq, Db.fetch]
  cases hff : db.flightFares.row (flightId, fareClassId) with
  | none => exact (Yields.throw (by rintro _ ⟨⟩) () db _).congr (by simp)
  | some ff =>
    rw [Table.modify_of_some hff]
    refine Yields.congr (P := IsInteger (ff.availableSeats + n) ∧ True) ?_ (by simp)
    exact (yields_column (yields_integer _ db)).bind fun _ => .writeRow _ rfl

theorem yields_flushReservation {id : UUID} {amount : Decimal} {r : Reservation}
    (hr : db.reservations.row id = some r) :
    Yields ExecuteError.Failure (flushReservation id (r.totalAmount + amount)) db
      (IsNumeric (r.totalAmount + amount)) ()
      { db with reservations := db.reservations.modify id (·.addTotal amount) } := by
  rw [Table.modify_of_some hr, ← and_true (IsNumeric _)]
  refine (yields_column (yields_numeric _ db)).bind fun _ => Yields.lockRow_bind ?_
  rw [Db.fetch_eq, Db.fetch, hr]
  exact .writeRow _ rfl

theorem yields_flushSegment {id flightId fareClassId : UUID} {price : Decimal} {r : ReservationSegment}
    (hr : db.reservationSegments.row id = some r) :
    Yields ExecuteError.Failure (flushSegment id (r.move flightId fareClassId price)) db
      (IsNumeric price) ()
      { db with
        reservationSegments := db.reservationSegments.modify id (·.move flightId fareClassId price) } := by
  rw [Table.modify_of_some hr, ← and_true (IsNumeric _)]
  exact (yields_column (yields_numeric _ db)).bind fun _ => .writeRow _ rfl

theorem yields_consumeCredit {id : UUID} {amount : Decimal} {credit : TravelCredit}
    (hc : db.travelCredits.row id = some credit) :
    Yields ExecuteError.Failure (consumeCredit id amount) db
      (IsNumeric (credit.remainingAmount - amount)) ()
      { db with travelCredits := db.travelCredits.modify id (·.consume amount) } := by
  apply Yields.lockRow_bind
  rw [Db.fetch_eq, Db.fetch, hc, Table.modify_of_some hc, ← and_true (IsNumeric _)]
  exact (yields_column (yields_numeric _ db)).bind fun _ => .writeRow _ rfl

end Orm

theorem Dialect.yields_exec {d : Dialect γ ε} {E : ε → Prop}
    (hE : ∀ context error, E (d.statement context error)) {db db' : Db} {context : String}
    {p : Sql SqlError α} {P : Prop} {a : α}
    (h : Yields (fun _ => True) p db P a db') : Yields E (d.exec context p) db P a db' :=
  h.adapt fun error _ => hE context error

section

variable {db : Db} {b : Rebooking db}

theorem yields_finish {E : ε → Prop} {consume : UUID → Sql ε Unit} {record : Sql ε FlightChange}
    {reference : String}
    (hconsume : ∀ id credit, db.travelCredits.row id = some credit →
      b.travelCreditUsed ≤ credit.remainingAmount →
      Yields E (consume id) b.moved
        (IsNumeric (credit.remainingAmount - b.travelCreditUsed)) ()
        { b.moved with travelCredits := db.travelCredits.modify id (·.consume b.travelCreditUsed) })
    (hrecord : ∀ db' : Db, Yields E record db'
      (IsNumeric b.change.fareDifference ∧ IsNumeric b.change.changeFee ∧
        IsNumeric b.change.travelCreditUsed) b.change
      { db' with flightChanges := db'.flightChanges ++ [b.change] }) :
    Yields E (do
      if let some id := b.travelCreditId then consume id
      let change ← record
      return {
        change := some change
        segmentId := b.segmentId
        segment := b.segment.move b.newFlightId b.newFareClassId b.target.price
        bookingReference := reference } : Sql ε RebookingResult)
      b.moved b.Recordable (b.result reference) b.apply := by
  cases hc : b.travelCreditId with
  | none =>
    refine Yields.congr (P := (IsNumeric b.change.fareDifference ∧ IsNumeric b.change.changeFee ∧
      IsNumeric b.change.travelCreditUsed) ∧ True) ?_ ?_
    · refine (hrecord b.moved).bind fun _ => ?_
      rw [Rebooking.apply, hc]
      exact .pure _ _ _
    · constructor
      · intro h
        exact ⟨by simp [hc], h.1⟩
      · intro h
        exact ⟨h.change, trivial⟩
  | some id =>
    obtain ⟨credit, hrow, -, hle, -⟩ := b.credit id hc
    refine Yields.congr (P := IsNumeric (credit.remainingAmount - b.travelCreditUsed) ∧
      (IsNumeric b.change.fareDifference ∧ IsNumeric b.change.changeFee ∧
        IsNumeric b.change.travelCreditUsed) ∧ True) ?_ ?_
    · refine (hconsume id credit hrow hle).bind fun _ => (hrecord _).bind fun _ => ?_
      rw [Rebooking.apply, hc]
      exact .pure _ _ _
    · constructor
      · intro h
        refine ⟨?_, h.2.1⟩
        intro id' credit' hid' hrow'
        cases hc.symm.trans hid'
        cases hrow.symm.trans hrow'
        exact h.1
      · intro h
        exact ⟨h.credit id credit hc hrow, h.change, trivial⟩

theorem Dialect.yields_execute {d : Dialect γ ε} {E : ε → Prop}
    (hE : ∀ context error, E (d.statement context error)) {now : Timestamp}
    {selection : RebookingSelection γ} {snapshot : RebookingSnapshot} {credit : Option CreditValue}
    (hs : run (d.snapshot db.catalog selection).run db = (.ok (snapshot, credit), db))
    (hv : d.validate now selection snapshot credit = .ok (b.validation selection))
    (hid : selection.segmentId = b.segmentId)
    (hcid : d.creditId selection.travelCreditId = b.travelCreditId)
    (hused : selection.travelCreditAmount = b.travelCreditUsed) :
    Yields E (d.execute db.catalog now selection) db (b.Movable ∧ b.Recordable) (b.result "")
      b.apply := by
  apply Yields.bind_of_ok hs
  apply Yields.check_bind hv
  rw [b.flightChange_validation hid, hid, hused, hcid]
  refine Yields.congr (P := IsInteger (b.target.availableSeats - b.passengerCount) ∧
    (∀ fare, (db.flightFares.modify b.newFare (·.addSeats (-b.passengerCount))).row
      b.segment.fare = some fare → IsInteger (fare.availableSeats + b.passengerCount)) ∧
    IsNumeric b.target.price ∧ IsNumeric (b.reservation.totalAmount + b.change.amount) ∧
    b.Recordable) ?_ ?_
  · refine (yields_exec hE (yields_decrementFlightFareSeats b.target_row b.seats)).bind fun _ => ?_
    refine (yields_exec hE (yields_incrementFlightFareSeats _ _ _)).bind fun _ => ?_
    refine (yields_exec hE (yields_updateReservationSegment (r := b.segment)
      (by exact b.segment_row))).bind fun _ => ?_
    refine (yields_exec hE (yields_updateReservationTotal (r := b.reservation)
      (by exact b.reservation_row))).bind fun _ => ?_
    exact yields_finish
      (fun id credit hrow hle => yields_exec hE (yields_consumeTravelCredit hrow hle))
      fun db' => yields_exec hE (yields_createFlightChange b.change)
  · constructor
    · intro ⟨htaken, hreturned, hprice, htotal, hrest⟩
      exact ⟨⟨htaken, hreturned, hprice, htotal⟩, hrest⟩
    · intro ⟨hmove, hrest⟩
      exact ⟨hmove.taken, hmove.returned, hmove.price, hmove.total, hrest⟩

end

section

variable {db : Db} {now : Timestamp} {selection : RebookingSelection (Option UUID)}
  {snapshot : RebookingSnapshot} {credit : Option CreditValue} {b : Rebooking db}

theorem Asyncpg.yields_execute
    (hs : run (Asyncpg.dialect.snapshot db.catalog selection).run db = (.ok (snapshot, credit), db))
    (hv : validate now selection snapshot credit = .ok (b.validation selection))
    (hid : selection.segmentId = b.segmentId) (hcid : selection.travelCreditId = b.travelCreditId)
    (hused : selection.travelCreditAmount = b.travelCreditUsed) :
    Yields ExecuteError.Failure (Asyncpg.execute db.catalog now selection) db
      (b.Movable ∧ b.Recordable) (b.result "") b.apply :=
  Dialect.yields_execute (d := Asyncpg.dialect) (fun _ _ => by rintro _ ⟨⟩) hs hv hid hcid hused

theorem Orm.run_lockFares (oldFlightId oldFareClassId : UUID) :
    run (lockFares oldFlightId oldFareClassId selection).run db = (.ok (), db) := by
  unfold lockFares
  generalize fareKeys _ _ = keys
  induction keys with
  | nil => rfl
  | cons key keys ih => exact ih

theorem Orm.yields_execute
    (hs : run (Orm.snapshot db.catalog selection true).run db = (.ok (snapshot, credit), db))
    (hv : validate now selection snapshot credit = .ok (b.validation selection))
    (hid : selection.segmentId = b.segmentId)
    (hnew : (selection.newFlightId, selection.newFareClassId) = b.newFare)
    (hcid : selection.travelCreditId = b.travelCreditId)
    (hused : selection.travelCreditAmount = b.travelCreditUsed) :
    Yields ExecuteError.Failure (Orm.execute db.catalog now selection) db
      ((db.flightFares.row b.segment.fare).isSome ∧ b.Movable ∧ b.Recordable)
      (b.result b.reservation.bookingReference) b.apply := by
  apply Yields.bind_of_ok hs
  apply Yields.bind_of_ok (run_lockFares _ _)
  apply Yields.bind_of_ok hs
  apply Yields.check_bind hv
  rw [b.flightChange_validation hid, hid, hused, hcid]
  have htarget := b.target_row
  change db.flightFares.row b.newFare = _ at htarget
  rw [← hnew] at htarget
  refine Yields.congr (P := IsInteger (b.target.availableSeats - b.passengerCount) ∧
    (((db.flightFares.modify b.newFare (·.addSeats (-b.passengerCount))).row b.segment.fare).isSome ∧
      ∀ fare, (db.flightFares.modify b.newFare (·.addSeats (-b.passengerCount))).row
        b.segment.fare = some fare → IsInteger (fare.availableSeats + b.passengerCount)) ∧
    IsNumeric (b.reservation.totalAmount + b.change.amount) ∧ IsNumeric b.target.price ∧
    b.Recordable) ?_ ?_
  · refine (yields_takeSeats htarget b.seats).bind fun _ => ?_
    rw [hnew]
    refine (yields_returnSeats _ _ _).bind fun _ => ?_
    apply Yields.readRow_bind
    rw [Db.fetch_eq, Db.fetch, b.segment_row]
    apply Yields.readRow_bind
    rw [Db.fetch_eq, Db.fetch]
    simp only [Rebooking.validation, b.reservation_row]
    refine (yields_flushReservation (r := b.reservation) (by exact b.reservation_row)).bind fun _ => ?_
    refine (yields_flushSegment (r := b.segment) (by exact b.segment_row)).bind fun _ => ?_
    exact yields_finish (fun id credit hrow hle => yields_consumeCredit hrow)
      fun db' => (yields_createFlightChange b.change).adapt fun _ _ => by rintro _ ⟨⟩
  · have hsold : ((db.flightFares.modify b.newFare (·.addSeats (-b.passengerCount))).row
        b.segment.fare).isSome = (db.flightFares.row b.segment.fare).isSome := by
      rw [Table.row_modify, Option.isSome_map]
    rw [hsold]
    constructor
    · rintro ⟨htaken, ⟨hsold, hreturned⟩, htotal, hprice, hrest⟩
      exact ⟨hsold, ⟨htaken, hreturned, hprice, htotal⟩, hrest⟩
    · rintro ⟨hsold, hmove, hrest⟩
      exact ⟨hmove.taken, ⟨hsold, hmove.returned⟩, hmove.total, hmove.price, hrest⟩

end

structure SelectedRows (db : Db) (selection : RebookingSelection (Option UUID)) where
  segment : ReservationSegment
  reservation : Reservation
  flight : Flight
  fareClass : FareClass
  target : FlightFare
  targetFlight : Flight
  targetFareClass : FareClass
  segment_row : db.reservationSegments.row selection.segmentId = some segment
  reservation_row : db.reservations.row segment.reservationId = some reservation
  flight_row : db.catalog.flights.row segment.flightId = some flight
  fareClass_row : db.catalog.fareClasses.row segment.fareClassId = some fareClass
  target_row : db.flightFares.row (selection.newFlightId, selection.newFareClassId) = some target
  targetFlight_row : db.catalog.flights.row selection.newFlightId = some targetFlight
  targetFareClass_row : db.catalog.fareClasses.row selection.newFareClassId = some targetFareClass

theorem IsNumeric.of_le {x y : Decimal} (h : IsNumeric x) (hy : 0 ≤ y) (hle : y ≤ x) : IsNumeric y :=
  ⟨lt_of_lt_of_le (by decide) hy, lt_of_le_of_lt hle h.2⟩

namespace SelectedRows

variable {db : Db} {selection : RebookingSelection (Option UUID)}

def snapshot (rows : SelectedRows db selection) : RebookingSnapshot where
  segmentId := selection.segmentId
  reservationId := rows.segment.reservationId
  customerId := rows.reservation.customerId
  oldFlightId := rows.segment.flightId
  oldFareClassId := rows.segment.fareClassId
  segmentStatus := rows.segment.status
  reservationStatus := rows.reservation.status
  oldFlightStatus := rows.flight.status
  originAirport := rows.flight.originAirport
  destinationAirport := rows.flight.destinationAirport
  oldDepartureAt := rows.flight.departureAt
  oldPrice := rows.segment.pricePaid
  oldCurrency := rows.segment.currency
  oldChangeAllowed := rows.fareClass.changeAllowed
  targetFlightId := selection.newFlightId
  targetFareClassId := selection.newFareClassId
  targetStatus := rows.targetFlight.status
  targetOrigin := rows.targetFlight.originAirport
  targetDestination := rows.targetFlight.destinationAirport
  targetDepartureAt := rows.targetFlight.departureAt
  targetPrice := rows.target.price
  targetCurrency := rows.target.currency
  availableSeats := rows.target.availableSeats
  targetChangeAllowed := rows.targetFareClass.changeAllowed
  targetChangeFee := rows.targetFareClass.changeFee
  passengerCount := db.catalog.passengerCount rows.segment.reservationId

instance : Subsingleton (SelectedRows db selection) where
  allEq := by
    rintro ⟨_, _, _, _, _, _, _, hs, hr, hf, hfc, ht, htf, htfc⟩
      ⟨_, _, _, _, _, _, _, hs', hr', hf', hfc', ht', htf', htfc'⟩
    cases hs.symm.trans hs'
    cases hr.symm.trans hr'
    cases hf.symm.trans hf'
    cases hfc.symm.trans hfc'
    cases ht.symm.trans ht'
    cases htf.symm.trans htf'
    cases htfc.symm.trans htfc'
    rfl

def passengerCount (rows : SelectedRows db selection) : Int :=
  db.catalog.passengerCount rows.segment.reservationId

def fareDifference (rows : SelectedRows db selection) : Decimal :=
  rows.target.price - rows.segment.pricePaid

def credit (_ : SelectedRows db selection) : Option CreditValue :=
  selection.travelCreditId.bind fun id => (db.travelCredits.row id).map (mapTravelCredit id)

structure Permitted (rows : SelectedRows db selection) (now : Timestamp) : Prop where
  reservation : rows.reservation.status = .confirmed
  segment : rows.segment.status = .confirmed ∨ rows.segment.status = .changed
  notApplied : rows.segment.status = .changed →
    rows.segment.fare ≠ (selection.newFlightId, selection.newFareClassId)
  flight : rows.targetFlight.status = .scheduled
  route : rows.flight.originAirport = rows.targetFlight.originAirport ∧
    rows.flight.destinationAirport = rows.targetFlight.destinationAirport
  changeAllowed : rows.fareClass.changeAllowed ∧ rows.targetFareClass.changeAllowed
  currency : rows.target.currency = rows.segment.currency
  passengers : 0 < rows.passengerCount
  seats : rows.passengerCount ≤ rows.target.availableSeats
  due : selection.travelCreditAmount = max (rows.fareDifference + rows.targetFareClass.changeFee) 0
  noCredit : selection.travelCreditId = none → selection.travelCreditAmount = 0
  credit : ∀ id, selection.travelCreditId = some id → ∃ credit, db.travelCredits.row id = some credit ∧
    credit.customerId = rows.reservation.customerId ∧ credit.currency = rows.segment.currency ∧
    selection.travelCreditAmount ≤ credit.remainingAmount ∧ 0 < selection.travelCreditAmount ∧
    now < credit.expiresAt ∧ (credit.status = .available ∨ credit.status = .partiallyUsed)

/-- The new total and the fare difference fit their columns; whatever else a change
writes is bounded by the rows. -/
structure Fits (rows : SelectedRows db selection) : Prop where
  total : IsNumeric (rows.reservation.totalAmount +
    (rows.fareDifference + rows.targetFareClass.changeFee - selection.travelCreditAmount))
  difference : IsNumeric rows.fareDifference

theorem creditInvalid_eq_false_iff (rows : SelectedRows db selection) (now : Timestamp) :
    creditInvalid now selection rows.snapshot rows.credit = false ↔
      (selection.travelCreditId = none → selection.travelCreditAmount = 0) ∧
      ∀ id, selection.travelCreditId = some id → ∃ credit, db.travelCredits.row id = some credit ∧
        credit.customerId = rows.reservation.customerId ∧ credit.currency = rows.segment.currency ∧
        selection.travelCreditAmount ≤ credit.remainingAmount ∧ 0 < selection.travelCreditAmount ∧
        now < credit.expiresAt ∧ (credit.status = .available ∨ credit.status = .partiallyUsed) := by
  unfold creditInvalid credit
  cases hid : selection.travelCreditId with
  | none => simp
  | some id =>
    cases hrow : db.travelCredits.row id with
    | none => simp [hrow]
    | some c =>
      simp only [hrow, Option.bind_some, Option.map_some, ne_eq, decide_not, Bool.or_eq_false_iff,
        Bool.not_eq_false', decide_eq_true_eq, decide_eq_false_iff_not, not_lt, not_le, Bool.or_eq_true,
        Option.some.injEq, reduceCtorEq, false_implies, true_and, forall_eq', exists_eq_left', and_assoc]
      exact and_iff_right rfl

theorem validate_eq_ok_iff (rows : SelectedRows db selection) (now : Timestamp) :
    (∃ validation, validate now selection rows.snapshot rows.credit = .ok validation) ↔
      rows.Permitted now := by
  have hcredit := rows.creditInvalid_eq_false_iff now
  simp only [validate, mapError_eq_ok, validateRebookingSelection, guard_eq_ok]
  constructor
  · rintro ⟨_, -, hreservation, hsegment, happlied, hallowed, htarget, hroute, hallowed', hcurrency,
      hpassengers, hvalid, hdue, -⟩
    simp only [not_or, not_not, not_lt] at htarget hroute
    obtain ⟨hnone, hsome⟩ := hcredit.mp (Bool.eq_false_iff.mpr hvalid)
    exact {
      reservation := not_not.mp hreservation
      segment := not_not.mp hsegment
      notApplied := fun hchanged hfare => happlied ⟨hchanged, Prod.mk.inj hfare⟩
      flight := htarget.2.2.1
      route := hroute
      changeAllowed := ⟨by simpa [snapshot] using hallowed, by simpa [snapshot] using hallowed'⟩
      currency := not_not.mp hcurrency
      passengers := not_le.mp hpassengers
      seats := htarget.2.2.2
      due := (not_not.mp hdue).symm
      noCredit := hnone
      credit := hsome }
  · intro h
    have hvalid := hcredit.mpr ⟨h.noCredit, h.credit⟩
    refine ⟨_, fun hne => hne rfl, not_not.mpr h.reservation, not_not.mpr h.segment, ?_, ?_, ?_, ?_, ?_,
      not_not.mpr h.currency, not_le.mpr h.passengers, Bool.eq_false_iff.mp hvalid,
      not_not.mpr h.due.symm, rfl⟩
    · rintro ⟨hchanged, hflight, hclass⟩
      exact h.notApplied hchanged (Prod.ext hflight hclass)
    · simpa [snapshot] using h.changeAllowed.1
    · simp only [not_or, not_not, not_lt]
      exact ⟨rfl, rfl, h.flight, h.seats⟩
    · simp only [not_or, not_not]
      exact h.route
    · simpa [snapshot] using h.changeAllowed.2

def Permitted.rebooking {rows : SelectedRows db selection} {now : Timestamp} (h : rows.Permitted now) :
    Rebooking db where
  segmentId := selection.segmentId
  segment := rows.segment
  reservation := rows.reservation
  newFlightId := selection.newFlightId
  newFareClassId := selection.newFareClassId
  target := rows.target
  fareClass := rows.targetFareClass
  travelCreditId := selection.travelCreditId
  travelCreditUsed := selection.travelCreditAmount
  segment_row := rows.segment_row
  reservation_row := rows.reservation_row
  target_row := rows.target_row
  fareClass_row := rows.targetFareClass_row
  notApplied := h.notApplied
  passengers := h.passengers
  seats := h.seats
  due := h.due
  noCredit := h.noCredit
  credit id hid := by
    obtain ⟨credit, hrow, hcustomer, -, hle, hpos, -, hstatus⟩ := h.credit id hid
    exact ⟨credit, hrow, hcustomer, hle, hpos, hstatus⟩

theorem Permitted.validate_eq {rows : SelectedRows db selection} {now : Timestamp}
    (h : rows.Permitted now) :
    validate now selection rows.snapshot rows.credit = .ok (h.rebooking.validation selection) := by
  obtain ⟨validation, hv⟩ := (rows.validate_eq_ok_iff now).mpr h
  rw [hv, (accepted_of_execute hv).validation]
  rfl

theorem Permitted.isNumeric_amount {rows : SelectedRows db selection} {now : Timestamp} (hdb : db.Valid)
    (h : rows.Permitted now) : IsNumeric selection.travelCreditAmount := by
  cases hid : selection.travelCreditId with
  | none =>
    rw [h.noCredit hid]
    exact ⟨by decide, by decide⟩
  | some id =>
    obtain ⟨credit, hrow, -, -, hle, hpos, -⟩ := h.credit id hid
    exact (hdb.travelCredits id credit hrow).of_le hpos.le hle

theorem Permitted.fits_iff {rows : SelectedRows db selection} {now : Timestamp} (hdb : db.Valid)
    (h : rows.Permitted now) (hsold : db.flightFares.row rows.segment.fare = none) :
    h.rebooking.Movable ∧ h.rebooking.Recordable ↔ rows.Fits := by
  obtain ⟨-, -, hprice, hseats⟩ := hdb.flightFares _ _ rows.target_row
  constructor
  · rintro ⟨hmove, hrecord⟩
    exact ⟨hmove.total, hrecord.change.1⟩
  · intro hfits
    refine ⟨⟨?_, ?_, hprice, hfits.total⟩, ?_, hfits.difference,
      hdb.fareClasses _ _ rows.targetFareClass_row, h.isNumeric_amount hdb⟩
    · have hpassengers : 0 < h.rebooking.passengerCount := h.passengers
      have henough : h.rebooking.passengerCount ≤ rows.target.availableSeats := h.seats
      change IsInteger (rows.target.availableSeats - h.rebooking.passengerCount)
      unfold IsInteger at hseats ⊢
      omega
    · intro fare hfare
      rw [Table.row_modify, show db.flightFares.row h.rebooking.segment.fare = none from hsold] at hfare
      cases hfare
    · intro id credit hid hrow
      obtain ⟨credit', hrow', -, -, hle, hpos, -⟩ := h.credit id hid
      cases hrow.symm.trans hrow'
      exact (hdb.travelCredits id credit hrow).of_le (sub_nonneg.mpr hle) (sub_le_self _ hpos.le)

theorem run_ormSnapshot (rows : SelectedRows db selection) (lock : Bool) :
    run (Orm.snapshot db.catalog selection lock).run db =
      match selection.travelCreditId with
      | none => (.ok (rows.snapshot, none), db)
      | some id =>
        match db.travelCredits.row id with
        | none => (.error (.travelCreditNotFound "travel credit not found"), db)
        | some credit => (.ok (rows.snapshot, some (mapTravelCredit id credit)), db) := by
  simp only [Orm.snapshot, Orm.target, bind_assoc, pure_bind, run_selectRow_bind, run_readRow_bind,
    Db.fetch_eq, Db.fetch, rows.segment_row, rows.reservation_row, rows.flight_row, rows.fareClass_row,
    rows.target_row, rows.targetFlight_row, rows.targetFareClass_row]
  cases selection.travelCreditId with
  | none => rfl
  | some id =>
    dsimp only
    rw [run_selectRow_bind, Db.fetch_eq, Db.fetch]
    cases db.travelCredits.row id <;> rfl

theorem run_asyncpgSnapshot (rows : SelectedRows db selection) :
    run (Asyncpg.dialect.snapshot db.catalog selection).run db =
      match selection.travelCreditId with
      | none => (.ok (rows.snapshot, none), db)
      | some id =>
        match db.travelCredits.row id with
        | none => (.error (.travelCreditNotFound "travel credit not found"), db)
        | some credit =>
          if credit.customerId = rows.reservation.customerId then
            (.ok (rows.snapshot, some (mapTravelCredit id credit)), db)
          else (.error (.travelCreditNotFound "travel credit not found"), db) := by
  simp only [Dialect.snapshot, Dialect.exec, getRebookingSegmentForUpdate, getRebookingTargetForUpdate,
    adapt_lockRow_bind, adapt_pure, bind_assoc, pure_bind, run_lockRow_bind, Db.fetch_eq, Db.fetch,
    rows.segment_row, rows.reservation_row, rows.flight_row, rows.fareClass_row, rows.target_row,
    rows.targetFlight_row, rows.targetFareClass_row, Option.map_some]
  change run (ExceptT.run (match selection.travelCreditId with | none => _ | some id => _)) db = _
  cases selection.travelCreditId with
  | none => rfl
  | some id =>
    dsimp only
    simp only [getTravelCreditForUpdate, adapt_lockRow_bind, bind_assoc, run_lockRow_bind, Db.fetch_eq,
      Db.fetch]
    cases db.travelCredits.row id with
    | none => rfl
    | some credit =>
      by_cases hcustomer : credit.customerId = rows.reservation.customerId
      · simp only [hcustomer, if_true]
        rfl
      · simp only [hcustomer, if_false]
        rfl

theorem ownCredit_iff (rows : SelectedRows db selection) :
    OwnCredit db selection ↔ ∀ id credit, selection.travelCreditId = some id →
      db.travelCredits.row id = some credit → credit.customerId = rows.reservation.customerId := by
  constructor
  · intro h id credit hid hcredit
    exact h _ _ _ id credit rows.segment_row rows.reservation_row rows.target_row hid hcredit
  · intro h segment reservation target id credit hsegment hreservation _ hid hcredit
    cases rows.segment_row.symm.trans hsegment
    cases rows.reservation_row.symm.trans hreservation
    exact h id credit hid hcredit

theorem validate_of_foreign (rows : SelectedRows db selection) (now : Timestamp) {id : UUID}
    {credit : TravelCredit} (hid : selection.travelCreditId = some id)
    (hcustomer : credit.customerId ≠ rows.reservation.customerId) :
    ∃ error, validate now selection rows.snapshot (some (mapTravelCredit id credit)) =
      .error (.rule error) := by
  cases hv : validateRebookingSelection now selection rows.snapshot (some (mapTravelCredit id credit)) with
  | error error => exact ⟨error, by rw [validate, hv]; rfl⟩
  | ok validation =>
    obtain ⟨_, hc, -, hsame, -⟩ := (accepted_of_validate hv).credit id hid
    cases hc
    exact absurd hsame hcustomer

end SelectedRows

/-- If the rows permit the change, the fare that the segment leaves is still on sale. -/
def OriginalSold (db : Db) (now : Timestamp) (selection : RebookingSelection (Option UUID)) : Prop :=
  ∀ rows : SelectedRows db selection, rows.Permitted now → rows.Fits →
    (db.flightFares.row rows.segment.fare).isSome

section

variable {db : Db} {now : Timestamp} {selection : RebookingSelection (Option UUID)}

theorem selectedRows_cases (hdb : db.Valid) (selection : RebookingSelection (Option UUID)) :
    Nonempty (SelectedRows db selection) ∨ IsEmpty (SelectedRows db selection) ∧
      OwnCredit db selection ∧ ∃ e : ExecuteError,
        (∀ lock, run (Orm.snapshot db.catalog selection lock).run db = (.error e, db)) ∧
        run (Asyncpg.dialect.snapshot db.catalog selection).run db = (.error e, db) := by
  cases hrs : db.reservationSegments.row selection.segmentId with
  | none =>
    have hempty : IsEmpty (SelectedRows db selection) :=
      ⟨fun rows => Option.some_ne_none _ (rows.segment_row.symm.trans hrs)⟩
    refine .inr ⟨hempty, by simp [OwnCredit, hrs], .segmentNotFound "reservation segment not found", ?_, ?_⟩
    · intro lock
      simp only [Orm.snapshot, run_selectRow_bind, Db.fetch_eq, Db.fetch, hrs, run_throw]
    · simp only [Dialect.snapshot, Dialect.exec, getRebookingSegmentForUpdate, adapt_lockRow_bind,
        bind_assoc, run_lockRow_bind, Db.fetch_eq, Db.fetch, hrs, adapt_pure, pure_bind, run_throw]
      rfl
  | some rs =>
    obtain ⟨hr, hf, hfc, -⟩ := hdb.reservationSegments _ rs hrs
    obtain ⟨r, hr⟩ := Option.isSome_iff_exists.mp hr
    obtain ⟨f, hf⟩ := Option.isSome_iff_exists.mp hf
    obtain ⟨fc, hfc⟩ := Option.isSome_iff_exists.mp hfc
    cases hff : db.flightFares.row (selection.newFlightId, selection.newFareClassId) with
    | none =>
      have hempty : IsEmpty (SelectedRows db selection) :=
        ⟨fun rows => Option.some_ne_none _ (rows.target_row.symm.trans hff)⟩
      refine .inr ⟨hempty, by simp [OwnCredit, hff], .flightNotFound "target flight or fare not found",
        ?_, ?_⟩
      · intro lock
        simp only [Orm.snapshot, Orm.target, bind_assoc, run_selectRow_bind, run_readRow_bind, Db.fetch_eq,
          Db.fetch, hrs, hr, hf, hfc, hff, run_throw_bind]
      · simp only [Dialect.snapshot, Dialect.exec, getRebookingSegmentForUpdate,
          getRebookingTargetForUpdate, adapt_lockRow_bind, bind_assoc, run_lockRow_bind, Db.fetch_eq,
          Db.fetch, hrs, hr, hf, hfc, adapt_pure, pure_bind]
        cases db.catalog.flights.row selection.newFlightId with
        | none => rfl
        | some flight =>
          simp only [Option.map_some, adapt_lockRow_bind, bind_assoc, run_lockRow_bind, Db.fetch_eq,
            Db.fetch, hff]
          rfl
    | some ff =>
      obtain ⟨htf, htfc, -⟩ := hdb.flightFares _ ff hff
      obtain ⟨tf, htf⟩ := Option.isSome_iff_exists.mp htf
      obtain ⟨tfc, htfc⟩ := Option.isSome_iff_exists.mp htfc
      exact .inl ⟨⟨rs, r, f, fc, ff, tf, tfc, hrs, hr, hf, hfc, hff, htf, htfc⟩⟩

theorem variantsAgree_of_snapshot_error {e : ExecuteError}
    (ho : ∀ lock, run (Orm.snapshot db.catalog selection lock).run db = (.error e, db))
    (ha : run (Asyncpg.dialect.snapshot db.catalog selection).run db = (.error e, db)) :
    VariantsAgree db now selection := by
  have hov : atomically (Orm.validateRebookingSelection db.catalog now selection) db = (.error e, db) :=
    atomically_of_error (run_bind_of_error (ho false))
  have hav : atomically (Asyncpg.validateRebookingSelection db.catalog now selection) db =
      (.error e, db) := atomically_of_error (run_bind_of_error ha)
  have hoe : atomically (Orm.execute db.catalog now selection) db = (.error e, db) :=
    atomically_of_error (run_bind_of_error (ho true))
  have hae : atomically (Asyncpg.execute db.catalog now selection) db = (.error e, db) :=
    atomically_of_error (run_bind_of_error ha)
  exact ⟨by rw [hov, hav], by rw [hoe, hae], by rw [hoe, hae]⟩

theorem validation_agrees (now : Timestamp) {snapshot : RebookingSnapshot} {credit : Option CreditValue}
    (ho : run (Orm.snapshot db.catalog selection false).run db = (.ok (snapshot, credit), db))
    (ha : run (Asyncpg.dialect.snapshot db.catalog selection).run db = (.ok (snapshot, credit), db)) :
    Outcome.of (atomically (Orm.validateRebookingSelection db.catalog now selection) db).1 =
      Outcome.of (atomically (Asyncpg.validateRebookingSelection db.catalog now selection) db).1 := by
  simp only [atomically, Orm.validateRebookingSelection, Asyncpg.validateRebookingSelection,
    run_bind_of_ok ho, run_bind_of_ok ha]

theorem variantsAgree_of_refused {snapshot : RebookingSnapshot} {credit : Option CreditValue}
    {e : ExecuteError}
    (ho : ∀ lock, run (Orm.snapshot db.catalog selection lock).run db = (.ok (snapshot, credit), db))
    (ha : run (Asyncpg.dialect.snapshot db.catalog selection).run db = (.ok (snapshot, credit), db))
    (hv : validate now selection snapshot credit = .error e) : VariantsAgree db now selection := by
  have hcheck {f : RebookingValidation (Option UUID) → Sql ExecuteError RebookingResult} :
      run (check (validate now selection snapshot credit) >>= f).run db = (.error e, db) := by
    rw [hv]
    rfl
  have hoe : atomically (Orm.execute db.catalog now selection) db = (.error e, db) :=
    atomically_of_error ((run_bind_of_ok (ho true)).trans
      ((run_bind_of_ok (Orm.run_lockFares _ _)).trans ((run_bind_of_ok (ho true)).trans hcheck)))
  have hae : atomically (Asyncpg.execute db.catalog now selection) db = (.error e, db) :=
    atomically_of_error ((run_bind_of_ok ha).trans hcheck)
  exact ⟨validation_agrees now (ho false) ha, by rw [hoe, hae], by rw [hoe, hae]⟩

theorem SelectedRows.originalSold_iff (rows : SelectedRows db selection) (now : Timestamp) :
    OriginalSold db now selection ↔
      (rows.Permitted now → rows.Fits → (db.flightFares.row rows.segment.fare).isSome) := by
  constructor
  · exact fun h => h rows
  · intro h rows'
    rw [Subsingleton.elim rows' rows]
    exact h

theorem SelectedRows.variantsAgree_iff (hdb : db.Valid) (rows : SelectedRows db selection)
    (ho : ∀ lock, run (Orm.snapshot db.catalog selection lock).run db =
      (.ok (rows.snapshot, rows.credit), db))
    (ha : run (Asyncpg.dialect.snapshot db.catalog selection).run db =
      (.ok (rows.snapshot, rows.credit), db)) :
    VariantsAgree db now selection ↔ OriginalSold db now selection := by
  have hvalidation := validation_agrees now (ho false) ha
  rw [rows.originalSold_iff now]
  by_cases h : rows.Permitted now
  · have hO := Orm.yields_execute (ho true) h.validate_eq rfl rfl rfl rfl
    have hA := Asyncpg.yields_execute ha h.validate_eq rfl rfl rfl
    -- both fail, or both commit the change
    have agree_of_failed (hfails : ¬(h.rebooking.Movable ∧ h.rebooking.Recordable)) :
        VariantsAgree db now selection := by
      obtain ⟨e, hae, hfail⟩ := hA.atomically_error hfails
      obtain ⟨e', hoe, hfail'⟩ := hO.atomically_error fun hP => hfails hP.2
      exact ⟨hvalidation, by rw [hoe, hae, Outcome.of_error hfail, Outcome.of_error hfail'],
        by rw [hoe, hae]⟩
    cases hsold : db.flightFares.row rows.segment.fare with
    | some fare =>
      refine iff_of_true ?_ fun _ _ => rfl
      by_cases hfits : h.rebooking.Movable ∧ h.rebooking.Recordable
      · have hrow : (db.flightFares.row h.rebooking.segment.fare).isSome :=
          Option.isSome_iff_exists.mpr ⟨fare, hsold⟩
        have hae := hA.atomically_ok hfits
        have hoe := hO.atomically_ok ⟨hrow, hfits⟩
        exact ⟨hvalidation, by rw [hoe, hae]; rfl, by rw [hoe, hae]⟩
      · exact agree_of_failed hfits
    | none =>
      rw [← h.fits_iff hdb hsold]
      by_cases hfits : h.rebooking.Movable ∧ h.rebooking.Recordable
      · refine iff_of_false ?_ fun hsome => Bool.false_ne_true (hsome h hfits)
        intro hagree
        have hnone : ¬(db.flightFares.row h.rebooking.segment.fare).isSome := by
          rw [show db.flightFares.row h.rebooking.segment.fare = none from hsold]
          exact Bool.false_ne_true
        obtain ⟨e, hoe, hfail⟩ := hO.atomically_error fun hP => hnone hP.1
        have hexecution := hagree.execution
        rw [hoe, hA.atomically_ok hfits, Outcome.of_error hfail] at hexecution
        cases hexecution
      · exact iff_of_true (agree_of_failed hfits) fun _ hfits' => absurd hfits' hfits
  · cases hv : validate now selection rows.snapshot rows.credit with
    | ok validation => exact absurd ((rows.validate_eq_ok_iff now).mp ⟨validation, hv⟩) h
    | error e =>
      exact iff_of_true (variantsAgree_of_refused ho ha hv) fun hpermitted => absurd hpermitted h

theorem not_variantsAgree_of_foreign {snapshot : RebookingSnapshot} {credit : Option CreditValue}
    {error : RebookingRuleError} {message : String}
    (ho : run (Orm.snapshot db.catalog selection false).run db = (.ok (snapshot, credit), db))
    (ha : run (Asyncpg.dialect.snapshot db.catalog selection).run db =
      (.error (.travelCreditNotFound message), db))
    (hv : validate now selection snapshot credit = .error (.rule error)) :
    ¬VariantsAgree db now selection := by
  intro h
  have hov : run (Orm.validateRebookingSelection db.catalog now selection).run db =
      (.error (.rule error), db) := by
    refine (run_bind_of_ok ho).trans ?_
    dsimp only
    rw [hv]
    rfl
  have hav : run (Asyncpg.validateRebookingSelection db.catalog now selection).run db =
      (.error (.travelCreditNotFound message), db) := run_bind_of_error ha
  have hvalidation := h.validation
  rw [atomically_of_error hov, atomically_of_error hav] at hvalidation
  cases hvalidation

theorem SelectedRows.agree_iff_of_none (hdb : db.Valid) (rows : SelectedRows db selection)
    (hid : selection.travelCreditId = none) :
    VariantsAgree db now selection ↔ OwnCredit db selection ∧ OriginalSold db now selection := by
  have hcredit : rows.credit = none := by simp [SelectedRows.credit, hid]
  have ho := rows.run_ormSnapshot
  have ha := rows.run_asyncpgSnapshot
  simp only [hid, ← hcredit] at ho ha
  rw [rows.variantsAgree_iff hdb ho ha, and_iff_right]
  simp [rows.ownCredit_iff, hid]

theorem SelectedRows.agree_iff_of_some (hdb : db.Valid) (rows : SelectedRows db selection) {id : UUID}
    (hid : selection.travelCreditId = some id) :
    VariantsAgree db now selection ↔ OwnCredit db selection ∧ OriginalSold db now selection := by
  have ho := rows.run_ormSnapshot
  have ha := rows.run_asyncpgSnapshot
  have hown : OwnCredit db selection ↔ ∀ credit, db.travelCredits.row id = some credit →
      credit.customerId = rows.reservation.customerId := by
    rw [rows.ownCredit_iff]
    refine ⟨fun h credit => h id credit hid, fun h id' credit hid' => ?_⟩
    cases hid.symm.trans hid'
    exact h credit
  simp only [hid] at ho ha
  cases hrow : db.travelCredits.row id with
  | none =>
    simp only [hrow] at ho ha
    refine iff_of_true (variantsAgree_of_snapshot_error ho ha) ⟨hown.mpr (by simp [hrow]), ?_⟩
    intro rows' hpermitted
    obtain ⟨credit, hrow', -⟩ := hpermitted.credit id hid
    cases hrow.symm.trans hrow'
  | some credit =>
    have hcredit : rows.credit = some (mapTravelCredit id credit) := by
      simp [SelectedRows.credit, hid, hrow]
    simp only [hrow] at ho ha
    by_cases hcustomer : credit.customerId = rows.reservation.customerId
    · rw [if_pos hcustomer, ← hcredit] at ha
      simp only [← hcredit] at ho
      rw [rows.variantsAgree_iff hdb ho ha, and_iff_right]
      refine hown.mpr fun credit' hrow' => ?_
      cases hrow.symm.trans hrow'
      exact hcustomer
    · rw [if_neg hcustomer] at ha
      obtain ⟨error, hv⟩ := rows.validate_of_foreign now hid hcustomer
      refine iff_of_false (not_variantsAgree_of_foreign (ho false) ha hv) ?_
      intro h
      exact hcustomer (hown.mp h.1 credit hrow)

end

/-- The repositories differ over a credit of another customer, which SQLAlchemy rejects
by rule and asyncpg does not find, and over an original fare that is not sold any more,
which SQLAlchemy asks for. -/
theorem variants_agree_iff (db : Db) (hdb : db.Valid) (now : Timestamp)
    (selection : RebookingSelection (Option UUID)) :
    VariantsAgree db now selection ↔ OwnCredit db selection ∧ OriginalSold db now selection := by
  rcases selectedRows_cases hdb selection with ⟨⟨rows⟩⟩ | ⟨hempty, hown, e, ho, ha⟩
  · cases hid : selection.travelCreditId with
    | none => exact rows.agree_iff_of_none hdb hid
    | some id => exact rows.agree_iff_of_some hdb hid
  · exact iff_of_true (variantsAgree_of_snapshot_error ho ha) ⟨hown, fun rows => hempty.elim rows⟩

theorem variants_agree_iff_sample :
    Sample.db.Valid ∧ (Execution.asyncpg 0 Sample.paid).commits Sample.db ∧
      VariantsAgree Sample.db 0 Sample.paid := by
  have hvalid : Sample.db.Valid := by decide +kernel
  refine ⟨hvalid, by decide +kernel, (variants_agree_iff Sample.db hvalid 0 Sample.paid).mpr ⟨?_, ?_⟩⟩
  · intro segment reservation target id credit hsegment hreservation _ hid hcredit
    cases hid
    cases hsegment
    cases hreservation
    cases hcredit
    rfl
  · intro rows _ _
    rw [← Option.some.inj rows.segment_row]
    rfl

namespace Sample

def foreign : Db :=
  { db with travelCredits := .ofList [(1, ⟨2, 500, 500, "USD", .available, 1000⟩)] }

end Sample

theorem variants_differ :
    Sample.foreign.Valid ∧
      Outcome.of (atomically (Orm.execute Sample.foreign.catalog 0 Sample.paid) Sample.foreign).1 =
        .rejected ∧
      Outcome.of (atomically (Asyncpg.execute Sample.foreign.catalog 0 Sample.paid) Sample.foreign).1 =
        .failed ∧
      ¬VariantsAgree Sample.foreign 0 Sample.paid := by
  have horm : Outcome.of (atomically (Orm.execute Sample.foreign.catalog 0 Sample.paid)
      Sample.foreign).1 = .rejected := by decide +kernel
  have hasyncpg : Outcome.of (atomically (Asyncpg.execute Sample.foreign.catalog 0 Sample.paid)
      Sample.foreign).1 = .failed := by decide +kernel
  refine ⟨by decide +kernel, horm, hasyncpg, ?_⟩
  intro h
  have hexecution := h.execution
  rw [horm, hasyncpg] at hexecution
  cases hexecution

end AgentsAtScale.Airline
