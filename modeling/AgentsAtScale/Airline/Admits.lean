import AgentsAtScale.Airline.ExecuteLaws
import AgentsAtScale.Transaction.RelyGuarantee

namespace AgentsAtScale.Airline

open Transaction

/-- The rows that the database of `db` can hold under a key: what no rebooking writes is
as it was, and the rest fits its columns. -/
def Db.Admits (db : Db) : (k : RowKey) → Row k → Prop
  | .flight _, _ => True
  | .flightFare f c, fare =>
    (∃ first, db.flightFares.row (f, c) = some first ∧
      fare = { first with availableSeats := fare.availableSeats }) ∧ IsInteger fare.availableSeats
  | .reservation id, reservation =>
    (∃ first, db.reservations.row id = some first ∧
      reservation = { first with totalAmount := reservation.totalAmount }) ∧
    IsNumeric reservation.totalAmount
  | .segment id, segment =>
    (∃ first, db.reservationSegments.row id = some first ∧
      segment.reservationId = first.reservationId) ∧
    (db.catalog.flights.row segment.flightId).isSome ∧
    (db.catalog.fareClasses.row segment.fareClassId).isSome ∧ IsNumeric segment.pricePaid
  | .travelCredit id, credit =>
    (∃ first, db.travelCredits.row id = some first ∧
      credit = { first with remainingAmount := credit.remainingAmount, status := credit.status }) ∧
    IsNumeric credit.remainingAmount

theorem Db.Valid.admits {db : Db} (h : db.Valid) (k : RowKey) (r : Row k)
    (hr : RowStore.fetch db k = some r) : db.Admits k r := by
  cases k with
  | flight id => trivial
  | flightFare f c => exact ⟨⟨r, hr, rfl⟩, (h.flightFares (f, c) r hr).2.2.2⟩
  | reservation id => exact ⟨⟨r, hr, rfl⟩, h.reservations id r hr⟩
  | segment id => exact ⟨⟨r, hr, rfl⟩, (h.reservationSegments id r hr).2⟩
  | travelCredit id => exact ⟨⟨r, hr, rfl⟩, h.travelCredits id r hr⟩

section

variable {db : Db}

theorem isInteger_of_integer {n m : Int} (h : integer n = .ok m) : IsInteger m := by
  rw [integer] at h
  split at h
  · rename_i hn
    cases h
    exact hn
  · cases h

theorem isNumeric_of_numeric {x y : Decimal} (h : numeric x = .ok y) : IsNumeric y := by
  rw [numeric] at h
  split at h
  · rename_i hx
    cases h
    exact hx
  · cases h

theorem Db.Admits.seats {f c : UUID} {fare : FlightFare} {n m : Int}
    (h : db.Admits (.flightFare f c) fare) (hm : integer n = .ok m) :
    db.Admits (.flightFare f c) { fare with availableSeats := m } := by
  obtain ⟨⟨first, hrow, hfare⟩, -⟩ := h
  refine ⟨⟨first, hrow, ?_⟩, isInteger_of_integer hm⟩
  rw [hfare]

theorem Db.Admits.total {id : UUID} {reservation : Reservation} {x y : Decimal}
    (h : db.Admits (.reservation id) reservation) (hy : numeric x = .ok y) :
    db.Admits (.reservation id) { reservation with totalAmount := y } := by
  obtain ⟨⟨first, hrow, hreservation⟩, -⟩ := h
  refine ⟨⟨first, hrow, ?_⟩, isNumeric_of_numeric hy⟩
  rw [hreservation]

theorem Db.Admits.consumed {id : UUID} {credit : TravelCredit} {x y : Decimal}
    {status : TravelCreditStatus} (h : db.Admits (.travelCredit id) credit) (hy : numeric x = .ok y) :
    db.Admits (.travelCredit id) { credit with remainingAmount := y, status := status } := by
  obtain ⟨⟨first, hrow, hcredit⟩, -⟩ := h
  refine ⟨⟨first, hrow, ?_⟩, isNumeric_of_numeric hy⟩
  rw [hcredit]

theorem Db.Admits.moved {id : UUID} {segment moved : ReservationSegment} {x y : Decimal}
    (h : db.Admits (.segment id) segment) (hy : numeric x = .ok y)
    (hid : moved.reservationId = segment.reservationId) (hprice : moved.pricePaid = y)
    (hflight : (db.catalog.flights.row moved.flightId).isSome)
    (hclass : (db.catalog.fareClasses.row moved.fareClassId).isSome) :
    db.Admits (.segment id) moved := by
  obtain ⟨⟨first, hrow, hfirst⟩, -⟩ := h
  refine ⟨⟨first, hrow, hid.trans hfirst⟩, hflight, hclass, ?_⟩
  rw [hprice]
  exact isNumeric_of_numeric hy

variable {m : Log RowKey Row}

theorem ensures_lockRow {k : RowKey} :
    Ensures db.Admits m (lockRow k : Sql ε _) fun _ r => ∀ x, r = some x → db.Admits k x :=
  .lockRow fun _ hr => hr

theorem ensures_selectRow {lock : Bool} {k : RowKey} :
    Ensures db.Admits m (selectRow lock k : Sql ε _) fun _ r => ∀ x, r = some x → db.Admits k x := by
  cases lock with
  | false => exact .readRow fun _ hr => hr
  | true => exact .lockRow fun _ hr => hr

theorem ensures_check {x : Except ε α} :
    Ensures db.Admits m (check x : Sql ε α) fun _ a => x = .ok a :=
  .check fun _ h => h

theorem ensures_getRebookingSegmentForUpdate {id : UUID} :
    Ensures db.Admits m (getRebookingSegmentForUpdate db.catalog id) fun _ _ => True := by
  apply Ensures.bind ensures_lockRow
  intro m₁ segment _
  cases segment with
  | none => exact .pure trivial
  | some segment =>
    apply Ensures.bind ensures_lockRow
    intro m₂ reservation _
    cases reservation with
    | none => exact .pure trivial
    | some reservation =>
      dsimp only
      split
      · split <;> exact .pure trivial
      · exact .pure trivial

def Db.Known (db : Db) (flightId fareClassId : UUID) : Prop :=
  (db.catalog.flights.row flightId).isSome ∧ (db.catalog.fareClasses.row fareClassId).isSome

theorem ensures_getRebookingTargetForUpdate {flightId fareClassId : UUID} :
    Ensures db.Admits m (getRebookingTargetForUpdate db.catalog flightId fareClassId) fun _ row =>
      ∀ target, row = some target → db.Known target.flightId target.fareClassId := by
  apply Ensures.bind ensures_lockRow
  intro m₁ flight _
  cases flight with
  | none => exact .pure nofun
  | some flight =>
    apply Ensures.bind ensures_lockRow
    intro m₂ fare _
    cases fare with
    | none => exact .pure nofun
    | some fare =>
      dsimp only
      split
      · rename_i f hf
        split
        · rename_i fc hfc
          apply Ensures.pure
          rintro _ ⟨⟩
          exact ⟨Option.isSome_iff_exists.mpr ⟨f, hf⟩, Option.isSome_iff_exists.mpr ⟨fc, hfc⟩⟩
        · exact .pure nofun
      · exact .pure nofun

theorem ensures_getTravelCreditForUpdate {id customerId : UUID} :
    Ensures db.Admits m (getTravelCreditForUpdate id customerId) fun _ _ => True := by
  apply Ensures.bind ensures_lockRow
  intro m₁ credit _
  cases credit with
  | none => exact .pure trivial
  | some credit =>
    dsimp only
    split <;> exact .pure trivial

theorem ensures_decrementFlightFareSeats {n : Int} {flightId fareClassId : UUID} :
    Ensures db.Admits m (decrementFlightFareSeats n flightId fareClassId) fun _ _ => True := by
  apply Ensures.bind ensures_lockRow
  intro m₁ fare hfare
  cases fare with
  | none => exact .pure trivial
  | some fare =>
    dsimp only
    split
    · apply Ensures.bind ensures_check
      intro m₂ seats hseats
      exact .writeRow ((hfare fare rfl).seats hseats) trivial
    · exact .pure trivial

theorem ensures_incrementFlightFareSeats {n : Int} {flightId fareClassId : UUID} :
    Ensures db.Admits m (incrementFlightFareSeats n flightId fareClassId) fun _ _ => True := by
  apply Ensures.bind ensures_lockRow
  intro m₁ fare hfare
  cases fare with
  | none => exact .pure trivial
  | some fare =>
    apply Ensures.bind ensures_check
    intro m₂ seats hseats
    exact .writeRow ((hfare fare rfl).seats hseats) trivial

theorem ensures_updateReservationTotal {id : UUID} {amount : Decimal} :
    Ensures db.Admits m (updateReservationTotal id amount) fun _ _ => True := by
  apply Ensures.bind ensures_lockRow
  intro m₁ reservation hreservation
  cases reservation with
  | none => exact .pure trivial
  | some reservation =>
    apply Ensures.bind ensures_check
    intro m₂ total htotal
    exact .writeRow ((hreservation reservation rfl).total htotal) trivial

theorem ensures_updateReservationSegment {id flightId fareClassId : UUID} {price : Decimal}
    {currency : String} (h : db.Known flightId fareClassId) :
    Ensures db.Admits m (updateReservationSegment id flightId fareClassId price currency)
      fun _ _ => True := by
  apply Ensures.bind ensures_lockRow
  intro m₁ segment hsegment
  cases segment with
  | none => exact .pure trivial
  | some segment =>
    apply Ensures.bind ensures_check
    intro m₂ paid hpaid
    exact .writeRow ((hsegment segment rfl).moved hpaid rfl rfl h.1 h.2) trivial

theorem ensures_consumeTravelCredit {id : UUID} {amount : Decimal} :
    Ensures db.Admits m (consumeTravelCredit id amount) fun _ _ => True := by
  apply Ensures.bind ensures_lockRow
  intro m₁ credit hcredit
  cases credit with
  | none => exact .pure trivial
  | some credit =>
    dsimp only
    split
    · apply Ensures.bind ensures_check
      intro m₂ remaining hremaining
      exact .writeRow ((hcredit credit rfl).consumed hremaining) trivial
    · exact .pure trivial

theorem ensures_createFlightChange {change : FlightChange} :
    Ensures db.Admits m (createFlightChange change) fun _ _ => True := by
  apply Ensures.bind ensures_check
  intro m₁ fareDifference _
  apply Ensures.bind ensures_check
  intro m₂ changeFee _
  apply Ensures.bind ensures_check
  intro m₃ travelCreditUsed _
  apply Ensures.bind (.insertRow (Q := fun _ _ => True) trivial)
  intro m₄ _ _
  exact .pure trivial

namespace Dialect

variable {d : Dialect γ ε} {selection : RebookingSelection γ}

theorem ensures_snapshot :
    Ensures db.Admits m (d.snapshot db.catalog selection) fun _ r =>
      db.Known r.1.targetFlightId r.1.targetFareClassId := by
  apply Ensures.bind (.adapt ensures_getRebookingSegmentForUpdate)
  intro m₁ segment _
  cases segment with
  | none => exact .throw
  | some segment =>
    apply Ensures.bind (.adapt ensures_getRebookingTargetForUpdate)
    intro m₂ target htarget
    cases target with
    | none => exact .throw
    | some target =>
      dsimp only
      split
      · exact .pure (htarget target rfl)
      · apply Ensures.bind (.adapt ensures_getTravelCreditForUpdate)
        intro m₃ credit _
        cases credit with
        | none => exact .throw
        | some credit => exact .pure (htarget target rfl)

theorem ensures_execute [LawfulDialect d] {now : Timestamp} :
    Ensures db.Admits m (d.execute db.catalog now selection) fun _ _ => True := by
  apply Ensures.bind ensures_snapshot
  rintro m₁ ⟨snapshot, credit⟩ hknown
  apply Ensures.bind ensures_check
  intro m₂ validation hvalid
  have hvalidation := (LawfulDialect.accepted hvalid).validation
  apply Ensures.bind (.adapt ensures_decrementFlightFareSeats)
  intro m₃ _ _
  apply Ensures.bind (.adapt ensures_incrementFlightFareSeats)
  intro m₄ _ _
  apply Ensures.bind (.adapt (ensures_updateReservationSegment (by rw [hvalidation]; exact hknown)))
  intro m₅ _ _
  apply Ensures.bind (.adapt ensures_updateReservationTotal)
  intro m₆ _ _
  have done {m : Log RowKey Row} (result : FlightChange → RebookingResult) :
      Ensures db.Admits m (d.exec "record flight change" (createFlightChange validation.flightChange) >>=
        fun change => pure (result change)) fun _ _ => True :=
    Ensures.bind (.adapt ensures_createFlightChange) fun _ _ _ => .pure trivial
  split
  · apply Ensures.bind (.adapt ensures_consumeTravelCredit)
    intro m₇ _ _
    exact done _
  · exact done _

end Dialect

namespace Orm

open Python

variable {selection : RebookingSelection (Option UUID)}

theorem ensures_column {x : Except SqlError α} :
    Ensures db.Admits m (column x) fun _ a => x = .ok a :=
  .check fun _ h => mapError_eq_ok.mp h

theorem ensures_target {lock : Bool} :
    Ensures db.Admits m (target selection lock) fun _ fare =>
      db.Admits (.flightFare selection.newFlightId selection.newFareClassId) fare := by
  apply Ensures.bind ensures_selectRow
  intro m₁ fare hfare
  cases fare with
  | none => exact .throw
  | some fare => exact .pure (hfare fare rfl)

theorem ensures_lockFares {oldFlightId oldFareClassId : UUID} :
    Ensures db.Admits m (lockFares oldFlightId oldFareClassId selection) fun _ _ => True := by
  unfold lockFares
  generalize fareKeys _ _ = keys
  induction keys generalizing m with
  | nil => exact .pure trivial
  | cons key keys ih =>
    apply Ensures.bind (Q := fun _ _ => True)
    · apply Ensures.bind ensures_lockRow
      intro m₁ _ _
      exact .pure trivial
    · intro m₁ _ _
      exact ih

theorem ensures_snapshot {lock : Bool} :
    Ensures db.Admits m (snapshot db.catalog selection lock) fun _ r =>
      db.Known r.1.targetFlightId r.1.targetFareClassId := by
  apply Ensures.bind ensures_selectRow
  intro m₁ segment _
  cases segment with
  | none => exact .throw
  | some segment =>
    apply Ensures.bind (.readRow (Q := fun _ _ => True) fun _ _ => trivial)
    intro m₂ reservation _
    cases reservation with
    | none => exact .throw
    | some reservation =>
      dsimp only
      split
      · split
        · apply Ensures.bind ensures_target
          intro m₃ target _
          split
          · rename_i flight hflight
            split
            · rename_i fareClass hclass
              have known : db.Known selection.newFlightId selection.newFareClassId :=
                ⟨Option.isSome_iff_exists.mpr ⟨_, hflight⟩, Option.isSome_iff_exists.mpr ⟨_, hclass⟩⟩
              split
              · exact .pure known
              · apply Ensures.bind ensures_selectRow
                intro m₄ credit _
                cases credit with
                | none => exact .throw
                | some credit => exact .pure known
            · exact .throw
          · exact .throw
        · exact .throw
      · exact .throw

theorem ensures_flushSeats {f c : UUID} {fare : FlightFare} {n : Int}
    (h : db.Admits (.flightFare f c) fare) :
    Ensures db.Admits m (flushSeats f c { fare with availableSeats := n }) fun _ _ => True := by
  apply Ensures.bind ensures_column
  intro m₁ seats hseats
  exact .writeRow (h.seats hseats) trivial

theorem ensures_takeSeats {n : Int} :
    Ensures db.Admits m (takeSeats selection n) fun _ _ => True := by
  apply Ensures.bind ensures_target
  intro m₁ fare hfare
  split
  · exact .throw
  · exact ensures_flushSeats hfare

theorem ensures_returnSeats {f c : UUID} {n : Int} :
    Ensures db.Admits m (returnSeats f c n) fun _ _ => True := by
  apply Ensures.bind ensures_lockRow
  intro m₁ fare hfare
  cases fare with
  | none => exact .throw
  | some fare => exact ensures_flushSeats (hfare fare rfl)

theorem ensures_flushReservation {id : UUID} {totalAmount : Decimal} :
    Ensures db.Admits m (flushReservation id totalAmount) fun _ _ => True := by
  apply Ensures.bind ensures_column
  intro m₁ total htotal
  apply Ensures.bind ensures_lockRow
  intro m₂ reservation hreservation
  cases reservation with
  | none => exact .throw
  | some reservation => exact .writeRow ((hreservation reservation rfl).total htotal) trivial

theorem ensures_flushSegment {id : UUID} {segment moved : ReservationSegment}
    (h : db.Admits (.segment id) segment) (hid : moved.reservationId = segment.reservationId)
    (hknown : db.Known moved.flightId moved.fareClassId) :
    Ensures db.Admits m (flushSegment id moved) fun _ _ => True := by
  apply Ensures.bind ensures_column
  intro m₁ price hprice
  exact .writeRow (h.moved hprice hid rfl hknown.1 hknown.2) trivial

theorem ensures_consumeCredit {id : UUID} {amount : Decimal} :
    Ensures db.Admits m (consumeCredit id amount) fun _ _ => True := by
  apply Ensures.bind ensures_lockRow
  intro m₁ credit hcredit
  cases credit with
  | none => exact .throw
  | some credit =>
    apply Ensures.bind ensures_column
    intro m₂ remaining hremaining
    exact .writeRow ((hcredit credit rfl).consumed hremaining) trivial

theorem ensures_execute {now : Timestamp} :
    Ensures db.Admits m (execute db.catalog now selection) fun _ _ => True := by
  apply Ensures.bind ensures_snapshot
  intro m₁ first _
  apply Ensures.bind ensures_lockFares
  intro m₂ _ _
  apply Ensures.bind ensures_snapshot
  rintro m₃ ⟨snapshot, credit⟩ hknown
  apply Ensures.bind ensures_check
  intro m₄ validation hvalid
  have hvalidation := (accepted_of_execute hvalid).validation
  apply Ensures.bind ensures_takeSeats
  intro m₅ _ _
  apply Ensures.bind ensures_returnSeats
  intro m₆ _ _
  apply Ensures.bind (.readRow (Q := fun _ r => ∀ x, r = some x → db.Admits _ x) fun _ hr => hr)
  intro m₇ segment hsegment
  cases segment with
  | none => exact .throw
  | some segment =>
    apply Ensures.bind (.readRow (Q := fun _ _ => True) fun _ _ => trivial)
    intro m₈ reservation _
    cases reservation with
    | none => exact .throw
    | some reservation =>
      apply Ensures.bind ensures_flushReservation
      intro m₉ _ _
      refine Ensures.bind (ensures_flushSegment (hsegment segment rfl) rfl ?_) ?_
      · rw [hvalidation]
        exact hknown
      intro m₁₀ _ _
      have done {m : Log RowKey Row} (result : FlightChange → RebookingResult) :
          Ensures db.Admits m (ExceptT.adapt ExecuteError.database
            (createFlightChange validation.flightChange) >>= fun change => pure (result change))
            fun _ _ => True :=
        Ensures.bind (.adapt ensures_createFlightChange) fun _ _ _ => .pure trivial
      dsimp only
      split
      · apply Ensures.bind ensures_consumeCredit
        intro m₁₁ _ _
        exact done _
      · exact done _

end Orm

end

end AgentsAtScale.Airline
