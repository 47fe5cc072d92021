import AgentsAtScale.Airline.Execute
import AgentsAtScale.Airline.Rebooking

namespace AgentsAtScale.Airline

open Transaction Program

section

variable {db db' : Db}

structure Observed (db : Db) (creditId : Option UUID) (selection : RebookingSelection γ)
    (snapshot : RebookingSnapshot) (credit : Option CreditValue) where
  segment : ReservationSegment
  reservation : Reservation
  target : FlightFare
  fareClass : FareClass
  segment_row : db.reservationSegments.row selection.segmentId = some segment
  reservation_row : db.reservations.row segment.reservationId = some reservation
  target_row : db.flightFares.row (selection.newFlightId, selection.newFareClassId) = some target
  fareClass_row : db.catalog.fareClasses.row selection.newFareClassId = some fareClass
  segmentStatus : snapshot.segmentStatus = segment.status
  reservationId : snapshot.reservationId = segment.reservationId
  customerId : snapshot.customerId = reservation.customerId
  oldFlightId : snapshot.oldFlightId = segment.flightId
  oldFareClassId : snapshot.oldFareClassId = segment.fareClassId
  oldPrice : snapshot.oldPrice = segment.pricePaid
  oldCurrency : snapshot.oldCurrency = segment.currency
  targetPrice : snapshot.targetPrice = target.price
  availableSeats : snapshot.availableSeats = target.availableSeats
  changeFee : snapshot.targetChangeFee = fareClass.changeFee
  passengerCount : snapshot.passengerCount = db.catalog.passengerCount segment.reservationId
  credit_row : ∀ id, creditId = some id → ∃ c, db.travelCredits.row id = some c ∧
    credit = some (mapTravelCredit id c)

theorem integer_eq_ok {n m : Int} (h : integer n = .ok m) : m = n := by
  simp only [integer] at h
  split at h
  · exact (Except.ok.inj h).symm
  · cases h

theorem numeric_eq_ok {x y : Decimal} (h : numeric x = .ok y) : y = x := by
  simp only [numeric] at h
  split at h
  · exact (Except.ok.inj h).symm
  · cases h

theorem commits_getRebookingSegmentForUpdate {catalog : Catalog} {id : UUID}
    {row : RebookingSegmentRow}
    (h : Commits (getRebookingSegmentForUpdate catalog id) db (some row) db') :
    db' = db ∧ ∃ rs r, db.reservationSegments.row id = some rs ∧
      db.reservations.row rs.reservationId = some r ∧ row.segmentId = id ∧
      row.segmentStatus = rs.status ∧
      row.reservationId = rs.reservationId ∧ row.oldFlightId = rs.flightId ∧
      row.oldFareClassId = rs.fareClassId ∧ row.pricePaid = rs.pricePaid ∧
      row.segmentCurrency = rs.currency ∧ row.customerId = r.customerId ∧
      row.passengerCount = catalog.passengerCount rs.reservationId := by
  simp only [getRebookingSegmentForUpdate, Commits.lockRow_bind, Db.fetch_eq, Db.fetch] at h
  cases hrs : db.reservationSegments.row id with
  | none => simp [hrs] at h
  | some rs =>
    simp only [hrs, Commits.lockRow_bind, Db.fetch_eq, Db.fetch] at h
    cases hr : db.reservations.row rs.reservationId with
    | none => simp [hr] at h
    | some r =>
      simp only [hr] at h
      split at h
      · split at h
        · simp only [Commits.pure_iff, Option.some.injEq] at h
          obtain ⟨rfl, rfl⟩ := h
          exact ⟨rfl, rs, r, rfl, hr, rfl, rfl, rfl, rfl, rfl, rfl, rfl, rfl, rfl⟩
        · simp at h
      · simp at h

theorem commits_getRebookingTargetForUpdate {catalog : Catalog} {flightId fareClassId : UUID}
    {row : RebookingTargetRow}
    (h : Commits (getRebookingTargetForUpdate catalog flightId fareClassId) db (some row) db') :
    db' = db ∧ ∃ ff fc, db.flightFares.row (flightId, fareClassId) = some ff ∧
      catalog.fareClasses.row fareClassId = some fc ∧ row.price = ff.price ∧
      row.availableSeats = ff.availableSeats ∧ row.changeFee = fc.changeFee := by
  simp only [getRebookingTargetForUpdate, Commits.lockRow_bind, Db.fetch_eq, Db.fetch] at h
  split at h
  · simp only [Commits.lockRow_bind, Db.fetch_eq, Db.fetch] at h
    cases hff : db.flightFares.row (flightId, fareClassId) with
    | none => simp [hff] at h
    | some ff =>
      simp only [hff] at h
      split at h
      · cases hfc : catalog.fareClasses.row fareClassId with
        | none => simp [hfc] at h
        | some fc =>
          simp only [hfc, Commits.pure_iff, Option.some.injEq] at h
          obtain ⟨rfl, rfl⟩ := h
          exact ⟨rfl, ff, fc, rfl, rfl, rfl, rfl, rfl⟩
      · simp at h
  · simp at h

theorem commits_getTravelCreditForUpdate {id customerId : UUID} {value : CreditValue}
    (h : Commits (getTravelCreditForUpdate id customerId) db (some value) db') :
    db' = db ∧ ∃ credit, db.travelCredits.row id = some credit ∧
      value = mapTravelCredit id credit := by
  simp only [getTravelCreditForUpdate, Commits.lockRow_bind, Db.fetch_eq, Db.fetch] at h
  cases hc : db.travelCredits.row id with
  | none => simp [hc] at h
  | some credit =>
    simp only [hc] at h
    split at h
    · simp only [Commits.pure_iff, Option.some.injEq] at h
      exact ⟨h.2, credit, rfl, h.1⟩
    · simp at h

theorem commits_decrementFlightFareSeats {n : Int} {flightId fareClassId : UUID} {ff : FlightFare}
    {u : Unit} (hff : db.flightFares.row (flightId, fareClassId) = some ff)
    (hn : n ≤ ff.availableSeats)
    (h : Commits (decrementFlightFareSeats n flightId fareClassId) db u db') :
    db' = { db with
      flightFares := db.flightFares.modify (flightId, fareClassId) (·.addSeats (-n)) } := by
  simp only [decrementFlightFareSeats, Commits.lockRow_bind, Db.fetch_eq, Db.fetch, hff, ge_iff_le,
    hn, if_true, Commits.check_bind, Commits.writeRow_iff] at h
  obtain ⟨m, hm, h⟩ := h
  rw [h, integer_eq_ok hm, Table.modify_of_some hff]
  rfl

theorem commits_incrementFlightFareSeats {n : Int} {flightId fareClassId : UUID} {u : Unit}
    (h : Commits (incrementFlightFareSeats n flightId fareClassId) db u db') :
    db' = { db with
      flightFares := db.flightFares.modify (flightId, fareClassId) (·.addSeats n) } := by
  simp only [incrementFlightFareSeats, Commits.lockRow_bind, Db.fetch_eq, Db.fetch] at h
  cases hff : db.flightFares.row (flightId, fareClassId) with
  | none =>
    simp only [hff, Commits.pure_iff, true_and] at h
    simp [h, Table.modify, hff]
  | some ff =>
    simp only [hff, Commits.check_bind, Commits.writeRow_iff] at h
    obtain ⟨m, hm, h⟩ := h
    rw [h, integer_eq_ok hm, Table.modify_of_some hff]
    rfl

theorem commits_updateReservationTotal {id : UUID} {amount : Decimal} {u : Unit}
    (h : Commits (updateReservationTotal id amount) db u db') :
    db' = { db with reservations := db.reservations.modify id (·.addTotal amount) } := by
  simp only [updateReservationTotal, Commits.lockRow_bind, Db.fetch_eq, Db.fetch] at h
  cases hr : db.reservations.row id with
  | none =>
    simp only [hr, Commits.pure_iff, true_and] at h
    simp [h, Table.modify, hr]
  | some r =>
    simp only [hr, Commits.check_bind, Commits.writeRow_iff] at h
    obtain ⟨x, hx, h⟩ := h
    rw [h, numeric_eq_ok hx, Table.modify_of_some hr]
    rfl

theorem commits_updateReservationSegment {id flightId fareClassId : UUID} {price : Decimal}
    {rs : ReservationSegment} {u : Unit} (hrs : db.reservationSegments.row id = some rs)
    (h : Commits (updateReservationSegment id flightId fareClassId price rs.currency) db u db') :
    db' = { db with
      reservationSegments :=
        db.reservationSegments.modify id (·.move flightId fareClassId price) } := by
  simp only [updateReservationSegment, Commits.lockRow_bind, Db.fetch_eq, Db.fetch, hrs,
    Commits.check_bind, Commits.writeRow_iff] at h
  obtain ⟨x, hx, h⟩ := h
  rw [h, numeric_eq_ok hx, Table.modify_of_some hrs]
  rfl

theorem commits_consumeTravelCredit {id : UUID} {amount : Decimal} {credit : TravelCredit}
    {u : Unit} (hc : db.travelCredits.row id = some credit) (ha : amount ≤ credit.remainingAmount)
    (h : Commits (consumeTravelCredit id amount) db u db') :
    db' = { db with travelCredits := db.travelCredits.modify id (·.consume amount) } := by
  simp only [consumeTravelCredit, Commits.lockRow_bind, Db.fetch_eq, Db.fetch, hc, ge_iff_le, ha,
    if_true, Commits.check_bind, Commits.writeRow_iff] at h
  obtain ⟨x, hx, h⟩ := h
  rw [h, numeric_eq_ok hx, Table.modify_of_some hc]
  rfl

theorem commits_createFlightChange {change change' : FlightChange}
    (h : Commits (createFlightChange change) db change' db') :
    change' = change ∧ db' = { db with flightChanges := db.flightChanges ++ [change] } := by
  simp only [createFlightChange, Commits.check_bind, Commits.insertRow_bind, Commits.pure_iff] at h
  obtain ⟨x, hx, y, hy, z, hz, h⟩ := h
  cases numeric_eq_ok hx
  cases numeric_eq_ok hy
  cases numeric_eq_ok hz
  exact h

def Rebooking.validation (b : Rebooking db) (selection : RebookingSelection γ) :
    RebookingValidation γ where
  selection := selection
  reservationId := b.segment.reservationId
  customerId := b.reservation.customerId
  oldFlightId := b.segment.flightId
  oldFareClassId := b.segment.fareClassId
  newFlightId := b.newFlightId
  newFareClassId := b.newFareClassId
  newPrice := b.target.price
  fareDifference := b.change.fareDifference
  changeFee := b.change.changeFee
  amountDue := b.travelCreditUsed
  travelCreditUsed := b.travelCreditUsed
  currency := b.segment.currency
  passengerCount := b.passengerCount

theorem Rebooking.flightChange_validation (b : Rebooking db) {selection : RebookingSelection γ}
    (h : selection.segmentId = b.segmentId) : (b.validation selection).flightChange = b.change := by
  simp only [RebookingValidation.flightChange, Rebooking.validation, Rebooking.change, h]

namespace Observed

variable {creditId : Option UUID} {selection : RebookingSelection γ} {snapshot : RebookingSnapshot}
  {credit : Option CreditValue} {validation : RebookingValidation γ}

def rebooking (o : Observed db creditId selection snapshot credit)
    (h : Accepted creditId selection snapshot credit validation) : Rebooking db where
  segmentId := selection.segmentId
  segment := o.segment
  reservation := o.reservation
  newFlightId := selection.newFlightId
  newFareClassId := selection.newFareClassId
  target := o.target
  fareClass := o.fareClass
  travelCreditId := creditId
  travelCreditUsed := selection.travelCreditAmount
  segment_row := o.segment_row
  reservation_row := o.reservation_row
  target_row := o.target_row
  fareClass_row := o.fareClass_row
  notApplied := by
    intro hchanged hfare
    apply h.notApplied
    rw [o.segmentStatus, o.oldFlightId, o.oldFareClassId]
    exact ⟨hchanged, congrArg Prod.fst hfare, congrArg Prod.snd hfare⟩
  passengers := by rw [← o.passengerCount]; exact h.passengers
  seats := by rw [← o.passengerCount, ← o.availableSeats]; exact h.seats
  due := by
    rw [h.due, RebookingSnapshot.fareDifference, o.targetPrice, o.oldPrice, o.changeFee]
  noCredit := h.noCredit
  credit := by
    intro id hid
    obtain ⟨c, hrow, hc⟩ := o.credit_row id hid
    obtain ⟨c', hc', _, hcustomer, hle, hpos, hstatus⟩ := h.credit id hid
    cases hc.symm.trans hc'
    exact ⟨c, hrow, hcustomer.trans o.customerId, hle, hpos, hstatus⟩

theorem validation_eq (o : Observed db creditId selection snapshot credit)
    (h : Accepted creditId selection snapshot credit validation) :
    validation = (o.rebooking h).validation selection := by
  apply h.validation.trans
  simp only [RebookingSnapshot.validation, RebookingSnapshot.fareDifference, rebooking,
    Rebooking.validation, Rebooking.change, Rebooking.passengerCount, o.reservationId,
    o.customerId, o.oldFlightId, o.oldFareClassId, o.oldPrice, o.oldCurrency, o.targetPrice,
    o.changeFee, o.passengerCount, h.targetFlight, h.targetFareClass]

theorem exists_rebooking (o : Observed db creditId selection snapshot credit)
    (h : Accepted creditId selection snapshot credit validation) :
    ∃ b : Rebooking db, validation = b.validation selection ∧
      selection.segmentId = b.segmentId ∧
      (selection.newFlightId, selection.newFareClassId) = b.newFare ∧
      creditId = b.travelCreditId ∧ selection.travelCreditAmount = b.travelCreditUsed :=
  ⟨o.rebooking h, o.validation_eq h, rfl, rfl, rfl, rfl⟩

end Observed

/-- A dialect whose validator is sound. -/
class LawfulDialect (d : Dialect γ ε) : Prop where
  accepted : ∀ {now selection snapshot credit validation},
    d.validate now selection snapshot credit = .ok validation →
    Accepted (d.creditId selection.travelCreditId) selection snapshot credit validation

theorem Python.accepted_of_execute {now : Timestamp}
    {selection : RebookingSelection (Option UUID)} {snapshot : RebookingSnapshot}
    {credit : Option CreditValue} {validation : RebookingValidation (Option UUID)}
    (h : validate now selection snapshot credit = .ok validation) :
    Accepted selection.travelCreditId selection snapshot credit validation :=
  accepted_of_validate (mapError_eq_ok.mp h)

instance : LawfulDialect Go.dialect where
  accepted h := Go.accepted_of_validate (mapError_eq_ok.mp h)

instance : LawfulDialect Asyncpg.dialect where
  accepted h := Python.accepted_of_execute h

namespace Dialect

variable {d : Dialect γ ε} {now : Timestamp} {selection : RebookingSelection γ}

theorem commits_statement {context : String} {p : Sql SqlError α} {a : α} :
    Commits (d.exec context p) db a db' ↔ Commits p db a db' := Commits.adapt_iff

theorem commits_snapshot {snapshot : RebookingSnapshot} {credit : Option CreditValue}
    (h : Commits (d.snapshot db.catalog selection) db (snapshot, credit) db') :
    db' = db ∧
      Nonempty (Observed db (d.creditId selection.travelCreditId) selection snapshot credit) := by
  simp only [Dialect.snapshot, Commits.bind_iff, commits_statement] at h
  obtain ⟨segment, db, hs, h⟩ := h
  cases segment with
  | none => simp at h
  | some segment =>
    obtain ⟨rfl, rs, r, hrs, hr, hid, hstatus, hres, hflight, hclass, hprice, hcur, hcust, hcount⟩ :=
      commits_getRebookingSegmentForUpdate hs
    simp only [Commits.bind_iff, commits_statement] at h
    obtain ⟨target, db, ht, h⟩ := h
    cases target with
    | none => simp at h
    | some target =>
      obtain ⟨rfl, ff, fc, hff, hfc, hp, hseats, hfee⟩ := commits_getRebookingTargetForUpdate ht
      have observed (hc : ∀ id, d.creditId selection.travelCreditId = some id → ∃ c,
          db.travelCredits.row id = some c ∧ credit = some (mapTravelCredit id c)) :
          Observed db (d.creditId selection.travelCreditId) selection
            (rebookingSnapshot segment target) credit :=
        ⟨rs, r, ff, fc, hrs, hr, hff, hfc, hstatus, hres, hcust, hflight, hclass, hprice, hcur, hp, hseats,
          hfee, hcount, hc⟩
      cases hcid : d.creditId selection.travelCreditId with
      | none =>
        simp only [hcid, Commits.pure_iff, Prod.mk.injEq] at h observed
        obtain ⟨⟨rfl, rfl⟩, rfl⟩ := h
        exact ⟨rfl, ⟨observed (by simp)⟩⟩
      | some id =>
        simp only [hcid, Commits.bind_iff, commits_statement] at h observed
        obtain ⟨value, db, hv, h⟩ := h
        cases value with
        | none => simp at h
        | some value =>
          obtain ⟨rfl, c, hc, rfl⟩ := commits_getTravelCreditForUpdate hv
          simp only [Commits.pure_iff, Prod.mk.injEq] at h
          obtain ⟨⟨rfl, rfl⟩, rfl⟩ := h
          exact ⟨rfl, ⟨observed (by rintro _ ⟨⟩; exact ⟨c, hc, rfl⟩)⟩⟩

theorem commits_rebooking [LawfulDialect d] {result : RebookingResult}
    (h : Commits (d.execute db.catalog now selection) db result db') :
    ∃ b : Rebooking db, b.travelCreditId = d.creditId selection.travelCreditId ∧
      b.segmentId = selection.segmentId ∧
      b.newFare = (selection.newFlightId, selection.newFareClassId) ∧ db' = b.apply ∧
      result.change = some b.change := by
  rw [Dialect.execute, Commits.bind_iff] at h
  obtain ⟨⟨snapshot, credit⟩, db, hs, h⟩ := h
  obtain ⟨rfl, ⟨o⟩⟩ := commits_snapshot hs
  simp only [Commits.check_bind] at h
  obtain ⟨validation, hv, h⟩ := h
  obtain ⟨b, rfl, hid, hnew, hcid, hused⟩ := o.exists_rebooking (LawfulDialect.accepted hv)
  refine ⟨b, hcid.symm, hid.symm, hnew.symm, ?_⟩
  rw [b.flightChange_validation hid, hid, hcid, hused] at h
  simp only [Commits.bind_iff, commits_statement] at h
  obtain ⟨_, db₁, h₁, _, db₂, h₂, _, db₃, h₃, _, db₄, h₄, h⟩ := h
  have e₁ := commits_decrementFlightFareSeats b.target_row b.seats h₁
  have e₂ := commits_incrementFlightFareSeats h₂
  have e₃ := commits_updateReservationSegment (by rw [e₂, e₁]; exact b.segment_row) h₃
  have e₄ := commits_updateReservationTotal h₄
  cases hc : b.travelCreditId with
  | none =>
    simp only [hc, Commits.bind_iff, commits_statement, Commits.pure_iff] at h
    obtain ⟨_, db₅, h₅, rfl, rfl⟩ := h
    obtain ⟨rfl, e₅⟩ := commits_createFlightChange h₅
    refine ⟨?_, rfl⟩
    rw [e₅, e₄, e₃, e₂, e₁, Rebooking.apply, hc]
    rfl
  | some id =>
    simp only [hc, Commits.bind_iff, commits_statement, Commits.pure_iff] at h
    obtain ⟨_, db₅, h₅, _, db₆, h₆, rfl, rfl⟩ := h
    obtain ⟨credit, hrow, _, hle, _⟩ := b.credit id hc
    have e₅ := commits_consumeTravelCredit (by rw [e₄, e₃, e₂, e₁]; exact hrow) hle h₅
    obtain ⟨rfl, e₆⟩ := commits_createFlightChange h₆
    refine ⟨?_, rfl⟩
    rw [e₆, e₅, e₄, e₃, e₂, e₁, Rebooking.apply, hc]
    rfl

theorem commits_execute [LawfulDialect d] {result : RebookingResult}
    (h : Commits (d.execute db.catalog now selection) db result db') :
    ∃ b : Rebooking db, b.segmentId = selection.segmentId ∧
      b.newFare = (selection.newFlightId, selection.newFareClassId) ∧ db' = b.apply ∧
      result.change = some b.change :=
  (commits_rebooking h).imp fun _ => And.right

end Dialect

namespace Orm

open Python

variable {now : Timestamp} {selection : RebookingSelection (Option UUID)}

theorem column_bind {x : Except SqlError α} {f : α → Sql ExecuteError β} {b : β} :
    Commits (column x >>= f) db b db' ↔ ∃ a, x = .ok a ∧ Commits (f a) db b db' := by
  rw [column, Commits.check_bind]
  simp only [mapError_eq_ok]

theorem commits_target {lock : Bool} {fare : FlightFare}
    (h : Commits (target selection lock) db fare db') :
    db' = db ∧ db.flightFares.row (selection.newFlightId, selection.newFareClassId) = some fare := by
  simp only [target, Commits.selectRow_bind, Db.fetch_eq, Db.fetch] at h
  cases hff : db.flightFares.row (selection.newFlightId, selection.newFareClassId) with
  | none => simp [hff] at h
  | some ff =>
    simp only [hff, Commits.pure_iff] at h
    exact ⟨h.2, congrArg some h.1.symm⟩

theorem commits_lockFares {oldFlightId oldFareClassId : UUID} {u : Unit}
    (h : Commits (lockFares oldFlightId oldFareClassId selection) db u db') : db' = db := by
  simp only [lockFares] at h
  generalize fareKeys _ _ = keys at h
  induction keys with
  | nil => exact (Commits.pure_iff.mp h).2
  | cons key keys ih =>
    apply ih
    exact h

theorem commits_snapshot {lock : Bool} {snapshot : RebookingSnapshot} {credit : Option CreditValue}
    (h : Commits (Orm.snapshot db.catalog selection lock) db (snapshot, credit) db') :
    db' = db ∧ Nonempty (Observed db selection.travelCreditId selection snapshot credit) := by
  simp only [Orm.snapshot, Commits.selectRow_bind, Db.fetch_eq, Db.fetch] at h
  cases hrs : db.reservationSegments.row selection.segmentId with
  | none => simp [hrs] at h
  | some rs =>
    simp only [hrs, Commits.readRow_bind, Db.fetch_eq, Db.fetch] at h
    cases hr : db.reservations.row rs.reservationId with
    | none => simp [hr] at h
    | some r =>
      simp only [hr] at h
      split at h
      · split at h
        · rw [Commits.bind_iff] at h
          obtain ⟨ff, db, ht, h⟩ := h
          obtain ⟨rfl, hff⟩ := commits_target ht
          split at h
          · cases hfc : db.catalog.fareClasses.row selection.newFareClassId with
            | none => simp [hfc] at h
            | some fc =>
              simp only [hfc] at h
              cases hcid : selection.travelCreditId with
              | none =>
                simp only [hcid, Commits.pure_iff, Prod.mk.injEq] at h
                obtain ⟨⟨rfl, rfl⟩, rfl⟩ := h
                exact ⟨rfl, ⟨rs, r, ff, fc, hrs, hr, hff, hfc, rfl, rfl, rfl, rfl, rfl, rfl, rfl,
                  rfl, rfl, rfl, rfl, by simp⟩⟩
              | some id =>
                simp only [hcid, Commits.selectRow_bind, Db.fetch_eq, Db.fetch] at h
                cases hc : db.travelCredits.row id with
                | none => simp [hc] at h
                | some c =>
                  simp only [hc, Commits.pure_iff, Prod.mk.injEq] at h
                  obtain ⟨⟨rfl, rfl⟩, rfl⟩ := h
                  exact ⟨rfl, ⟨rs, r, ff, fc, hrs, hr, hff, hfc, rfl, rfl, rfl, rfl, rfl, rfl, rfl,
                    rfl, rfl, rfl, rfl, by rintro _ ⟨⟩; exact ⟨c, hc, rfl⟩⟩⟩
          · simp at h
        · simp at h
      · simp at h

theorem commits_flushSeats {flightId fareClassId : UUID} {fare : FlightFare} {u : Unit}
    (h : Commits (flushSeats flightId fareClassId fare) db u db') :
    db' = { db with flightFares := db.flightFares.update (flightId, fareClassId) fare } := by
  simp only [flushSeats, column_bind, Commits.writeRow_iff] at h
  obtain ⟨n, hn, h⟩ := h
  rw [h, integer_eq_ok hn]
  rfl

theorem commits_flushReservation {id : UUID} {totalAmount : Decimal} {r : Reservation} {u : Unit}
    (hr : db.reservations.row id = some r)
    (h : Commits (flushReservation id totalAmount) db u db') :
    db' = { db with
      reservations := db.reservations.update id { r with totalAmount := totalAmount } } := by
  simp only [flushReservation, column_bind, Commits.lockRow_bind, Db.fetch_eq, Db.fetch, hr,
    Commits.writeRow_iff] at h
  obtain ⟨x, hx, h⟩ := h
  rw [h, numeric_eq_ok hx]
  rfl

theorem commits_flushSegment {id : UUID} {segment : ReservationSegment} {u : Unit}
    (h : Commits (flushSegment id segment) db u db') :
    db' = { db with reservationSegments := db.reservationSegments.update id segment } := by
  simp only [flushSegment, column_bind, Commits.writeRow_iff] at h
  obtain ⟨x, hx, h⟩ := h
  rw [h, numeric_eq_ok hx]
  rfl

theorem commits_consumeCredit {id : UUID} {amount : Decimal} {credit : TravelCredit} {u : Unit}
    (hc : db.travelCredits.row id = some credit)
    (h : Commits (consumeCredit id amount) db u db') :
    db' = { db with travelCredits := db.travelCredits.modify id (·.consume amount) } := by
  simp only [consumeCredit, column_bind, Commits.lockRow_bind, Db.fetch_eq, Db.fetch, hc,
    Commits.writeRow_iff] at h
  obtain ⟨x, hx, h⟩ := h
  rw [h, numeric_eq_ok hx, Table.modify_of_some hc]
  rfl

theorem commits_takeSeats {n : Int} {u : Unit} (h : Commits (takeSeats selection n) db u db') :
    db' = { db with
      flightFares := db.flightFares.modify (selection.newFlightId, selection.newFareClassId)
        (·.addSeats (-n)) } := by
  rw [takeSeats, Commits.bind_iff] at h
  obtain ⟨fare, db, ht, h⟩ := h
  obtain ⟨rfl, ht⟩ := commits_target ht
  split at h
  · simp at h
  · rw [commits_flushSeats h, Table.modify_of_some ht]
    rfl

theorem commits_returnSeats {flightId fareClassId : UUID} {n : Int} {u : Unit}
    (h : Commits (returnSeats flightId fareClassId n) db u db') :
    db' = { db with
      flightFares := db.flightFares.modify (flightId, fareClassId) (·.addSeats n) } := by
  simp only [returnSeats, Commits.lockRow_bind, Db.fetch_eq, Db.fetch] at h
  cases hff : db.flightFares.row (flightId, fareClassId) with
  | none => simp [hff] at h
  | some ff =>
    simp only [hff] at h
    rw [commits_flushSeats h, Table.modify_of_some hff]
    rfl

theorem commits_execute {result : RebookingResult}
    (h : Commits (execute db.catalog now selection) db result db') :
    ∃ b : Rebooking db, b.segmentId = selection.segmentId ∧
      b.newFare = (selection.newFlightId, selection.newFareClassId) ∧ db' = b.apply ∧
      result.change = some b.change := by
  rw [execute, Commits.bind_iff] at h
  obtain ⟨⟨first, _⟩, db, hs, h⟩ := h
  obtain ⟨rfl, -⟩ := commits_snapshot hs
  rw [Commits.bind_iff] at h
  obtain ⟨_, db, hl, h⟩ := h
  cases commits_lockFares hl
  rw [Commits.bind_iff] at h
  obtain ⟨⟨snapshot, credit⟩, db, hs, h⟩ := h
  obtain ⟨rfl, ⟨o⟩⟩ := commits_snapshot hs
  simp only [Commits.check_bind] at h
  obtain ⟨validation, hv, h⟩ := h
  obtain ⟨b, rfl, hid, hnew, hcid, hused⟩ := o.exists_rebooking (accepted_of_execute hv)
  rw [b.flightChange_validation hid, hid, hcid, hused, Commits.bind_iff] at h
  obtain ⟨_, db₁, h₁, h⟩ := h
  rw [Commits.bind_iff] at h
  obtain ⟨_, db₂, h₂, h⟩ := h
  have e₁ := commits_takeSeats h₁
  have e₂ := commits_returnSeats h₂
  have hseg : db₂.fetch (.segment b.segmentId) = some b.segment := by
    rw [e₂, e₁]; exact b.segment_row
  have hres : db₂.fetch (.reservation (b.validation selection).reservationId) =
      some b.reservation := by
    rw [e₂, e₁]; exact b.reservation_row
  simp only [Commits.readRow_bind, Db.fetch_eq, hseg, hres] at h
  simp only [Commits.bind_iff] at h
  obtain ⟨_, db₃, h₃, _, db₄, h₄, h⟩ := h
  have e₃ := commits_flushReservation hres h₃
  have e₄ := commits_flushSegment h₄
  rw [hnew] at e₁
  cases hc : b.travelCreditId with
  | none =>
    simp only [hc, Commits.bind_iff, Commits.adapt_iff, Commits.pure_iff] at h
    obtain ⟨_, db₅, h₅, rfl, rfl⟩ := h
    obtain ⟨rfl, e₅⟩ := commits_createFlightChange h₅
    refine ⟨b, hid.symm, hnew.symm, ?_, rfl⟩
    rw [e₅, e₄, e₃, e₂, e₁, Rebooking.apply, hc, Table.modify_of_some b.segment_row,
      Table.modify_of_some b.reservation_row]
    rfl
  | some id =>
    simp only [hc, Commits.bind_iff, Commits.adapt_iff, Commits.pure_iff] at h
    obtain ⟨_, db₅, h₅, _, db₆, h₆, rfl, rfl⟩ := h
    obtain ⟨credit, hrow, -⟩ := b.credit id hc
    have e₅ := commits_consumeCredit (by rw [e₄, e₃, e₂, e₁]; exact hrow) h₅
    obtain ⟨rfl, e₆⟩ := commits_createFlightChange h₆
    refine ⟨b, hid.symm, hnew.symm, ?_, rfl⟩
    rw [e₆, e₅, e₄, e₃, e₂, e₁, Rebooking.apply, hc, Table.modify_of_some b.segment_row,
      Table.modify_of_some b.reservation_row]
    rfl

end Orm

end

/-- One rebooking transaction of any of the three repositories. -/
inductive Execution
  | go (now : Timestamp) (selection : RebookingSelection UUID)
  | asyncpg (now : Timestamp) (selection : RebookingSelection (Option UUID))
  | orm (now : Timestamp) (selection : RebookingSelection (Option UUID))

namespace Execution

def perform (db : Db) : Execution → Db
  | .go now selection => (atomically (Go.execute db.catalog now selection) db).2
  | .asyncpg now selection => (atomically (Asyncpg.execute db.catalog now selection) db).2
  | .orm now selection => (atomically (Orm.execute db.catalog now selection) db).2

def performAll (db : Db) (es : List Execution) : Db := es.foldl perform db

def commits (db : Db) : Execution → Bool
  | .go now selection => (atomically (Go.execute db.catalog now selection) db).1.isOk
  | .asyncpg now selection => (atomically (Asyncpg.execute db.catalog now selection) db).1.isOk
  | .orm now selection => (atomically (Orm.execute db.catalog now selection) db).1.isOk

def segmentId : Execution → UUID
  | .go _ selection => selection.segmentId
  | .asyncpg _ selection => selection.segmentId
  | .orm _ selection => selection.segmentId

def newFare : Execution → UUID × UUID
  | .go _ selection => (selection.newFlightId, selection.newFareClassId)
  | .asyncpg _ selection => (selection.newFlightId, selection.newFareClassId)
  | .orm _ selection => (selection.newFlightId, selection.newFareClassId)

theorem perform_cases (db : Db) (e : Execution) :
    (∃ b : Rebooking db, b.segmentId = e.segmentId ∧ b.newFare = e.newFare ∧
      e.perform db = b.apply) ∨ e.commits db = false ∧ e.perform db = db := by
  cases e with
  | go now selection =>
    refine (atomically_cases _ db).imp ?_ id
    rintro ⟨result, h⟩
    obtain ⟨b, hid, hnew, hb, -⟩ := Dialect.commits_execute (d := Go.dialect) h
    exact ⟨b, hid, hnew, hb⟩
  | asyncpg now selection =>
    refine (atomically_cases _ db).imp ?_ id
    rintro ⟨result, h⟩
    obtain ⟨b, hid, hnew, hb, -⟩ := Dialect.commits_execute (d := Asyncpg.dialect) h
    exact ⟨b, hid, hnew, hb⟩
  | orm now selection =>
    refine (atomically_cases _ db).imp ?_ id
    rintro ⟨result, h⟩
    obtain ⟨b, hid, hnew, hb, -⟩ := Orm.commits_execute h
    exact ⟨b, hid, hnew, hb⟩

theorem performAll_invariant {P : Db → Prop} (keep : ∀ db (b : Rebooking db), P db → P b.apply)
    (es : List Execution) {db : Db} (h : P db) : P (performAll db es) := by
  induction es generalizing db with
  | nil => exact h
  | cons e es ih =>
    apply ih
    rcases perform_cases db e with ⟨b, -, -, hb⟩ | ⟨-, hdb⟩
    · rw [hb]
      exact keep db b h
    · rw [hdb]
      exact h

theorem performAll_eq {f : Db → α} (keep : ∀ db (b : Rebooking db), f b.apply = f db)
    (es : List Execution) (db : Db) : f (performAll db es) = f db := by
  apply performAll_invariant (P := fun db' => f db' = f db) _ es rfl
  intro db' b h
  rw [keep, h]

end Execution

namespace Sample

def flight : Flight := ⟨"SCL", "LIM", 1000, .scheduled⟩

def catalog : Catalog where
  flights := .ofList [(1, flight), (2, flight), (3, flight), (4, flight), (5, flight)]
  fareClasses := .ofList [(1, ⟨true, 0⟩)]
  reservationPassengers := {(1, 1)}

def db : Db where
  catalog := catalog
  flightFares := .ofList
    [((1, 1), ⟨100, "USD", 5⟩), ((2, 1), ⟨300, "USD", 5⟩), ((3, 1), ⟨50, "USD", 5⟩),
      ((4, 1), ⟨100, "USD", 5⟩), ((5, 1), ⟨60, "USD", 5⟩)]
  reservations := .ofList [(1, ⟨"ABC123", 1, .confirmed, 200, "USD"⟩)]
  reservationSegments := .ofList
    [(1, ⟨1, 1, 1, .confirmed, 100, "USD"⟩), (2, ⟨1, 4, 1, .confirmed, 100, "USD"⟩)]
  travelCredits := .ofList [(1, ⟨1, 500, 500, "USD", .available, 1000⟩)]
  flightChanges := []

def upgrade : RebookingSelection UUID := ⟨1, 2, 1, 1, 200⟩

def downgrade : RebookingSelection (Option UUID) := ⟨1, 3, 1, none, 0⟩

def other : RebookingSelection (Option UUID) := ⟨2, 5, 1, none, 0⟩

def executions : List Execution := [.go 0 upgrade, .asyncpg 0 downgrade, .orm 0 other]

end Sample

end AgentsAtScale.Airline
