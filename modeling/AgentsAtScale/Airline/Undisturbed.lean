import AgentsAtScale.Airline.Mixed
import AgentsAtScale.Airline.SqlDeadlock
import AgentsAtScale.Airline.Variants
import AgentsAtScale.Transaction.Views

namespace AgentsAtScale.Airline

open Transaction Transition

namespace Db

def passengersOf (db : Db) (segmentId : UUID) : Int :=
  (db.reservationOf segmentId).elim 0 db.catalog.passengerCount

def fareOf (db : Db) (segmentId : UUID) : Option (UUID × UUID) :=
  (db.reservationSegments.row segmentId).map ReservationSegment.fare

theorem reservationOf_of_row {db : Db} {segmentId : UUID} {segment : ReservationSegment}
    (h : db.reservationSegments.row segmentId = some segment) :
    db.reservationOf segmentId = some segment.reservationId := by
  rw [reservationOf, h, Option.map_some]

theorem passengersOf_of_row {db : Db} {segmentId : UUID} {segment : ReservationSegment}
    (h : db.reservationSegments.row segmentId = some segment) :
    db.passengersOf segmentId = db.catalog.passengerCount segment.reservationId := by
  rw [passengersOf, reservationOf_of_row h, Option.elim_some]

theorem fareOf_of_row {db : Db} {segmentId : UUID} {segment : ReservationSegment}
    (h : db.reservationSegments.row segmentId = some segment) :
    db.fareOf segmentId = some segment.fare := by
  rw [fareOf, h, Option.map_some]

end Db

/-- The rows of a rebooking are still those of `first`, except that the fares have other
numbers of seats, which suffice. -/
structure Undisturbed (first : Db) (F : Footprint) (db : Db) : Prop where
  catalog : db.catalog = first.catalog
  segment : db.reservationSegments.row F.segmentId = first.reservationSegments.row F.segmentId
  reservation : ∀ id, first.reservationOf F.segmentId = some id →
    db.reservations.row id = first.reservations.row id
  credit : ∀ id, F.creditId = some id → db.travelCredits.row id = first.travelCredits.row id
  fares : ∀ fare, ∃ n, db.flightFares.row fare = (first.flightFares.row fare).map (·.addSeats n)
  room : ∀ row, db.flightFares.row F.newFare = some row →
    first.passengersOf F.segmentId ≤ row.availableSeats ∧ row.availableSeats < 2 ^ 31
  space : ∀ fare row, first.fareOf F.segmentId = some fare → db.flightFares.row fare = some row →
    0 ≤ row.availableSeats ∧ row.availableSeats + first.passengersOf F.segmentId < 2 ^ 31

def View (first : Db) (F : Footprint) : (k : RowKey) → Row k → Prop
  | .flightFare f c, row =>
    (∃ fare n, first.flightFares.row (f, c) = some fare ∧ row = fare.addSeats n) ∧
      ((f, c) = F.newFare → first.passengersOf F.segmentId ≤ row.availableSeats)
  | .reservation id, row =>
    first.reservationOf F.segmentId = some id → first.reservations.row id = some row
  | .segment id, row => id = F.segmentId → first.reservationSegments.row id = some row
  | _, _ => True

section

variable {first db : Db} {F : Footprint}

namespace Undisturbed

theorem view (h : Undisturbed first F db) (k : RowKey) (r : Row k) (hr : RowStore.fetch db k = some r) :
    View first F k r := by
  cases k with
  | flight id => trivial
  | travelCredit id => trivial
  | segment id =>
    rintro rfl
    rw [← h.segment]
    exact hr
  | reservation id =>
    intro hid
    rw [← h.reservation id hid]
    exact hr
  | flightFare f c =>
    obtain ⟨n, hn⟩ := h.fares (f, c)
    constructor
    · obtain ⟨fare, hfare, heq⟩ := Option.map_eq_some_iff.mp (hn.symm.trans hr)
      exact ⟨fare, n, hfare, heq.symm⟩
    · intro hnew
      exact (h.room r (hnew ▸ hr)).1

theorem reply_reservation (h : Undisturbed first F db) {id : UUID} {reservation : Reservation}
    (hid : first.reservationOf F.segmentId = some id) (hr : first.reservations.row id = some reservation)
    {reply : Option Reservation}
    (hreply : Version (K := RowKey) (R := Row) (ι := FlightChange) (View first F) db (.reservation id) reply) :
    reply = some reservation := by
  apply hreply.eq_some
  · rw [Db.fetch_eq, Db.fetch, h.reservation id hid, hr]
    rfl
  · intro x hx
    exact Option.some.inj ((hx hid).symm.trans hr)

theorem commits_getRebookingSegmentForUpdate (h : Undisturbed first F db)
    {row : Option RebookingSegmentRow} {after : Db}
    (hc : Commits (getRebookingSegmentForUpdate first.catalog F.segmentId) first row after) :
    Commits (getRebookingSegmentForUpdate first.catalog F.segmentId) db row db := by
  simp only [getRebookingSegmentForUpdate, Commits.lockRow_bind, Db.fetch_eq, Db.fetch, h.segment] at hc ⊢
  cases hs : first.reservationSegments.row F.segmentId with
  | none =>
    rw [hs] at hc
    exact hc.elsewhere db
  | some segment =>
    have hreservation := h.reservation _ (Db.reservationOf_of_row hs)
    simp only [hs, Commits.lockRow_bind, Db.fetch_eq, Db.fetch, hreservation] at hc ⊢
    cases hr : first.reservations.row segment.reservationId with
    | none =>
      rw [hr] at hc
      exact hc.elsewhere db
    | some reservation =>
      simp only [hr] at hc ⊢
      split at hc
      · split at hc <;> exact hc.elsewhere db
      · exact hc.elsewhere db

theorem commits_getRebookingTargetForUpdate (h : Undisturbed first F db) {n : Int}
    (hn : db.flightFares.row F.newFare = (first.flightFares.row F.newFare).map (·.addSeats n))
    {row : RebookingTargetRow} {after : Db}
    (hc : Commits (getRebookingTargetForUpdate first.catalog F.newFare.1 F.newFare.2) first (some row)
      after) :
    Commits (getRebookingTargetForUpdate first.catalog F.newFare.1 F.newFare.2) db
      (some { row with availableSeats := row.availableSeats + n }) db := by
  simp only [getRebookingTargetForUpdate, Commits.lockRow_bind, Db.fetch_eq, Db.fetch, h.catalog] at hc ⊢
  cases hf : first.catalog.flights.row F.newFare.1 with
  | none => simp [hf] at hc
  | some flight =>
    simp only [hf, Option.map_some, Commits.lockRow_bind, Db.fetch_eq, Db.fetch, hn] at hc ⊢
    cases hff : first.flightFares.row F.newFare with
    | none => simp [hff] at hc
    | some fare =>
      simp only [hff, Option.map_some] at hc ⊢
      cases hfc : first.catalog.fareClasses.row F.newFare.2 with
      | none => simp [hfc] at hc
      | some fareClass =>
        simp only [hfc, Commits.pure_iff, Option.some.injEq] at hc ⊢
        obtain ⟨rfl, -⟩ := hc
        exact ⟨rfl, trivial⟩

theorem commits_getTravelCreditForUpdate (h : Undisturbed first F db) {id customerId : UUID}
    (hid : F.creditId = some id) {value : Option CreditValue} {after : Db}
    (hc : Commits (getTravelCreditForUpdate id customerId) first value after) :
    Commits (getTravelCreditForUpdate id customerId) db value db := by
  simp only [getTravelCreditForUpdate, Commits.lockRow_bind, Db.fetch_eq, Db.fetch, h.credit id hid] at hc ⊢
  cases hcredit : first.travelCredits.row id with
  | none =>
    rw [hcredit] at hc
    exact hc.elsewhere db
  | some credit =>
    simp only [hcredit] at hc ⊢
    split at hc
    · rw [if_pos ‹_›]
      exact hc.elsewhere db
    · rw [if_neg ‹_›]
      exact hc.elsewhere db

variable {b : Rebooking first} {n : Int}

def rebooking (h : Undisturbed first F db) (b : Rebooking first) (n : Int)
    (hn : db.flightFares.row F.newFare = (first.flightFares.row F.newFare).map (·.addSeats n))
    (hid : b.segmentId = F.segmentId) (hnew : b.newFare = F.newFare)
    (hcid : b.travelCreditId = F.creditId) : Rebooking db :=
  have htarget : db.flightFares.row (b.newFlightId, b.newFareClassId) = some (b.target.addSeats n) := by
    change db.flightFares.row b.newFare = _
    rw [hnew, hn, ← hnew, Rebooking.newFare, b.target_row, Option.map_some]
  have hcount : first.passengersOf F.segmentId = db.catalog.passengerCount b.segment.reservationId := by
    rw [Db.passengersOf_of_row (hid ▸ b.segment_row), h.catalog]
  { segmentId := b.segmentId
    segment := b.segment
    reservation := b.reservation
    newFlightId := b.newFlightId
    newFareClassId := b.newFareClassId
    target := b.target.addSeats n
    fareClass := b.fareClass
    travelCreditId := b.travelCreditId
    travelCreditUsed := b.travelCreditUsed
    segment_row := by
      rw [hid, h.segment, ← hid]
      exact b.segment_row
    reservation_row := by
      rw [h.reservation _ (Db.reservationOf_of_row (hid ▸ b.segment_row))]
      exact b.reservation_row
    target_row := htarget
    fareClass_row := by
      rw [h.catalog]
      exact b.fareClass_row
    notApplied := b.notApplied
    passengers := by
      rw [h.catalog]
      exact b.passengers
    seats := by
      rw [← hcount]
      exact (h.room _ (hnew ▸ htarget)).1
    due := b.due
    noCredit := b.noCredit
    credit := by
      intro id hcredit
      rw [h.credit id (hcid.symm.trans hcredit)]
      exact b.credit id hcredit }

section

variable {h : Undisturbed first F db}
  {hn : db.flightFares.row F.newFare = (first.flightFares.row F.newFare).map (·.addSeats n)}
  {hid : b.segmentId = F.segmentId} {hnew : b.newFare = F.newFare} {hcid : b.travelCreditId = F.creditId}

theorem passengerCount_rebooking :
    (h.rebooking b n hn hid hnew hcid).passengerCount = first.passengersOf F.segmentId := by
  rw [Db.passengersOf_of_row (hid ▸ b.segment_row)]
  exact congrArg (Catalog.passengerCount · b.segment.reservationId) h.catalog

theorem validation_rebooking (selection : RebookingSelection γ) :
    (h.rebooking b n hn hid hnew hcid).validation selection = b.validation selection := by
  have hcount : (h.rebooking b n hn hid hnew hcid).passengerCount = b.passengerCount :=
    congrArg (Catalog.passengerCount · b.segment.reservationId) h.catalog
  simp only [Rebooking.validation, hcount]
  rfl

theorem movable_rebooking (hb : b.Movable) : (h.rebooking b n hn hid hnew hcid).Movable := by
  set b' := h.rebooking b n hn hid hnew hcid with hb'
  have hcount : b'.passengerCount = first.passengersOf F.segmentId := passengerCount_rebooking
  have hpos : 0 < b'.passengerCount := b'.passengers
  obtain ⟨hroom, hseats⟩ := h.room b'.target (hnew ▸ b'.target_row)
  refine ⟨⟨?_, ?_⟩, ?_, hb.price, hb.total⟩
  · omega
  · omega
  · intro fare hfare
    rw [Table.row_modify, Option.map_eq_some_iff] at hfare
    obtain ⟨row, hrow, rfl⟩ := hfare
    by_cases hsame : b'.segment.fare = b'.newFare
    · -- The seats that it gives back are those it has just taken.
      rw [hsame] at hrow
      cases hrow.symm.trans b'.target_row
      rw [if_pos hsame, FlightFare.addSeats]
      constructor <;> dsimp only <;> omega
    · obtain ⟨hnonneg, hspace⟩ := h.space _ row (Db.fareOf_of_row (hid ▸ b.segment_row)) hrow
      rw [if_neg hsame]
      constructor <;> omega

theorem recordable_rebooking (hb : b.Recordable) : (h.rebooking b n hn hid hnew hcid).Recordable where
  credit id credit hcredit hrow := by
    rw [h.credit id (hcid.symm.trans hcredit)] at hrow
    exact hb.credit id credit hcredit hrow
  change := hb.change

end

end Undisturbed

end

theorem Go.validate_withSeats {now : Timestamp} {selection : RebookingSelection UUID}
    {snapshot : RebookingSnapshot} {credit : Option CreditValue} {validation : RebookingValidation UUID}
    {seats : Int} (h : validateRebookingSelection now selection snapshot credit = .ok validation)
    (hseats : snapshot.passengerCount ≤ seats) :
    validateRebookingSelection now selection { snapshot with availableSeats := seats } credit =
      .ok validation := by
  simp only [validateRebookingSelection, guard_eq_ok] at h ⊢
  obtain ⟨h₁, h₂, h₃, h₄, h₅, h₆, h₇, h₈, h₉, h₁₀, h₁₁, h₁₂, h⟩ := h
  refine ⟨h₁, h₂, h₃, h₄, h₅, ?_, h₇, h₈, h₉, ?_, h₁₁, h₁₂, h⟩
  · simp only [not_or] at h₆ ⊢
    exact ⟨h₆.1, h₆.2.1, h₆.2.2.1, by omega⟩
  · omega

theorem Python.validate_withSeats {now : Timestamp} {selection : RebookingSelection (Option UUID)}
    {snapshot : RebookingSnapshot} {credit : Option CreditValue}
    {validation : RebookingValidation (Option UUID)} {seats : Int}
    (h : validate now selection snapshot credit = .ok validation)
    (hseats : snapshot.passengerCount ≤ seats) :
    validate now selection { snapshot with availableSeats := seats } credit = .ok validation := by
  refine mapError_eq_ok.mpr ?_
  replace h := mapError_eq_ok.mp h
  simp only [validateRebookingSelection, guard_eq_ok] at h ⊢
  obtain ⟨h₁, h₂, h₃, h₄, h₅, h₆, h₇, h₈, h₉, h₁₀, h₁₁, h₁₂, h⟩ := h
  refine ⟨h₁, h₂, h₃, h₄, h₅, ?_, h₇, h₈, h₉, h₁₀, h₁₁, h₁₂, h⟩
  simp only [not_or] at h₆ ⊢
  exact ⟨h₆.1, h₆.2.1, h₆.2.2.1, by omega⟩

class RoomyDialect (d : Dialect γ ε) : Prop where
  withSeats : ∀ {now selection snapshot credit validation seats},
    d.validate now selection snapshot credit = .ok validation → snapshot.passengerCount ≤ seats →
    d.validate now selection { snapshot with availableSeats := seats } credit = .ok validation

instance : RoomyDialect Go.dialect where
  withSeats h hseats := mapError_eq_ok.mpr (Go.validate_withSeats (mapError_eq_ok.mp h) hseats)

instance : RoomyDialect Asyncpg.dialect where
  withSeats h hseats := Python.validate_withSeats h hseats

section

variable {first db : Db} {n : Int}

namespace Dialect

variable {d : Dialect γ ε} {now : Timestamp} {selection : RebookingSelection γ}

theorem commits_snapshot_of_undisturbed (h : Undisturbed first (d.footprint selection) db)
    (hn : db.flightFares.row (selection.newFlightId, selection.newFareClassId) =
      (first.flightFares.row (selection.newFlightId, selection.newFareClassId)).map (·.addSeats n))
    {snapshot : RebookingSnapshot} {credit : Option CreditValue} {after : Db}
    (hc : Commits (d.snapshot first.catalog selection) first (snapshot, credit) after) :
    Commits (d.snapshot first.catalog selection) db
      ({ snapshot with availableSeats := snapshot.availableSeats + n }, credit) db := by
  simp only [Dialect.snapshot, Commits.bind_iff, commits_statement] at hc ⊢
  obtain ⟨segment, first', hs, hc⟩ := hc
  refine ⟨segment, db, h.commits_getRebookingSegmentForUpdate hs, ?_⟩
  cases segment with
  | none => simp at hc
  | some segment =>
    obtain ⟨rfl, -⟩ := commits_getRebookingSegmentForUpdate hs
    simp only [Commits.bind_iff, commits_statement] at hc ⊢
    obtain ⟨target, first', ht, hc⟩ := hc
    cases target with
    | none => simp at hc
    | some target =>
      obtain ⟨rfl, -⟩ := commits_getRebookingTargetForUpdate ht
      refine ⟨_, db, h.commits_getRebookingTargetForUpdate hn ht, ?_⟩
      cases hcid : d.creditId selection.travelCreditId with
      | none =>
        simp only [hcid, Commits.pure_iff, Prod.mk.injEq] at hc ⊢
        obtain ⟨⟨rfl, rfl⟩, -⟩ := hc
        exact ⟨⟨rfl, rfl⟩, trivial⟩
      | some id =>
        simp only [hcid, Commits.bind_iff, commits_statement] at hc ⊢
        obtain ⟨value, first', hv, hc⟩ := hc
        refine ⟨value, db, h.commits_getTravelCreditForUpdate hcid hv, ?_⟩
        cases value with
        | none => simp at hc
        | some value =>
          simp only [Commits.pure_iff, Prod.mk.injEq] at hc ⊢
          obtain ⟨⟨rfl, rfl⟩, -⟩ := hc
          exact ⟨⟨rfl, rfl⟩, trivial⟩

theorem surely_execute [LawfulDialect d] [RoomyDialect d] {I : (k : RowKey) → Row k → Prop}
    (h : Undisturbed first (d.footprint selection) db) {result : RebookingResult} {after : Db}
    (hc : Commits (d.execute first.catalog now selection) first result after) :
    Surely I (d.execute first.catalog now selection) db fun _ _ => True := by
  have halone := hc
  rw [Dialect.execute, Commits.bind_iff] at hc
  obtain ⟨⟨snapshot, credit⟩, first', hs, hc⟩ := hc
  obtain ⟨rfl, ⟨o⟩⟩ := commits_snapshot hs
  simp only [Commits.check_bind] at hc
  obtain ⟨validation, hv, -⟩ := hc
  obtain ⟨b, rfl, hid, hnew, hcid, hused⟩ := o.exists_rebooking (LawfulDialect.accepted hv)
  have hfits := (yields_execute (E := fun _ => True) (fun _ _ => trivial) hs hv hid hcid hused).holds halone
  obtain ⟨n, hn⟩ := h.fares (selection.newFlightId, selection.newFareClassId)
  have hs' := commits_snapshot_of_undisturbed h hn hs
  have hroom : snapshot.passengerCount ≤ snapshot.availableSeats + n := by
    rw [o.passengerCount, o.availableSeats, ← Db.passengersOf_of_row o.segment_row]
    exact (h.room (o.target.addSeats n) (hn.trans (by rw [o.target_row, Option.map_some]))).1
  have hv' := RoomyDialect.withSeats hv hroom
  have hvalidation : (h.rebooking b n hn hid.symm hnew.symm hcid.symm).validation selection =
      b.validation selection := Undisturbed.validation_rebooking selection
  rw [← hvalidation] at hv'
  rw [← h.catalog] at hs' ⊢
  have hyields := yields_execute (E := fun _ => True) (fun _ _ => trivial) hs' hv' hid hcid hused
  exact (Surely.of_yields (d.lockOnly_execute _ _ _) hyields
    ⟨Undisturbed.movable_rebooking hfits.1, Undisturbed.recordable_rebooking hfits.2⟩).mono
    fun _ _ _ => trivial

end Dialect

namespace Orm

open Python

variable {now : Timestamp} {selection : RebookingSelection (Option UUID)}

theorem surely_target (h : Undisturbed first (Asyncpg.dialect.footprint selection) db) {fare : FlightFare}
    {after : Db} (hc : Commits (target selection false) first fare after) :
    Surely (View first (Asyncpg.dialect.footprint selection)) (target selection false) db fun row u =>
      u = db ∧ first.passengersOf selection.segmentId ≤ row.availableSeats ∧ ∃ n, row = fare.addSeats n := by
  obtain ⟨-, hfare⟩ := commits_target hc
  apply Surely.readRow_bind
  intro reply hreply
  cases reply with
  | none =>
    obtain ⟨n, hn⟩ := h.fares (selection.newFlightId, selection.newFareClassId)
    have hsome := hreply.1
    rw [Db.fetch_eq, Db.fetch, hn, hfare] at hsome
    cases hsome
  | some row =>
    obtain ⟨⟨fare', n, hfare', rfl⟩, hroom⟩ := hreply.2 row rfl
    cases hfare.symm.trans hfare'
    exact .pure ⟨rfl, hroom rfl, n, rfl⟩

theorem surely_snapshot (h : Undisturbed first (Asyncpg.dialect.footprint selection) db)
    {snapshot : RebookingSnapshot} {credit : Option CreditValue} {after : Db}
    (hc : Commits (Orm.snapshot first.catalog selection true) first (snapshot, credit) after) :
    Surely (View first (Asyncpg.dialect.footprint selection)) (Orm.snapshot first.catalog selection true) db
      fun r u => u = db ∧ ∃ seats, first.passengersOf selection.segmentId ≤ seats ∧
        r = ({ snapshot with availableSeats := seats }, credit) := by
  simp only [Orm.snapshot, selectRow, if_true, Commits.lockRow_bind, Db.fetch_eq, Db.fetch] at hc
  cases hs : first.reservationSegments.row selection.segmentId with
  | none => simp [hs] at hc
  | some segment =>
    simp only [hs, Commits.readRow_bind, Db.fetch_eq, Db.fetch] at hc
    cases hr : first.reservations.row segment.reservationId with
    | none => simp [hr] at hc
    | some reservation =>
      have hid := Db.reservationOf_of_row hs
      simp only [Orm.snapshot, selectRow, if_true]
      apply Surely.lockRow_bind
      rw [Db.fetch_eq, Db.fetch, show db.reservationSegments.row selection.segmentId = _ from
        h.segment.trans hs]
      apply Surely.readRow_bind
      intro reply hreply
      obtain rfl : reply = some reservation := h.reply_reservation hid hr hreply
      simp only [hr] at hc ⊢
      split at hc
      · split at hc
        · rw [Commits.bind_iff] at hc
          obtain ⟨fare, first', ht, hc⟩ := hc
          obtain ⟨rfl, -⟩ := commits_target ht
          apply Surely.bind (surely_target h ht)
          rintro row u ⟨rfl, hroom, n, rfl⟩
          split at hc
          · split at hc
            · cases hcid : selection.travelCreditId with
              | none =>
                simp only [hcid, Commits.pure_iff, Prod.mk.injEq] at hc ⊢
                obtain ⟨⟨rfl, rfl⟩, -⟩ := hc
                exact .pure ⟨rfl, _, hroom, rfl⟩
              | some id =>
                simp only [hcid, Commits.lockRow_bind, Db.fetch_eq, Db.fetch] at hc ⊢
                apply Surely.lockRow_bind
                rw [Db.fetch_eq, Db.fetch, h.credit id hcid]
                cases hcredit : first'.travelCredits.row id with
                | none => simp [hcredit] at hc
                | some credit =>
                  simp only [hcredit, Commits.pure_iff, Prod.mk.injEq] at hc ⊢
                  obtain ⟨⟨rfl, rfl⟩, -⟩ := hc
                  exact .pure ⟨rfl, _, hroom, rfl⟩
            · simp at hc
          · simp at hc
        · simp at hc
      · simp at hc

theorem lockOnly_finish {credit : Option UUID} {amount : Decimal} {change : FlightChange}
    {result : FlightChange → RebookingResult} :
    LockOnly (do
      if let some id := credit then consumeCredit id amount
      let change ← ExceptT.adapt .database (createFlightChange change)
      return result change : Sql ExecuteError RebookingResult).run := by
  have record : LockOnly (ExceptT.adapt ExecuteError.database (createFlightChange change) >>=
      fun change => pure (result change)).run :=
    .bind (.adapt _ (lockOnly_createFlightChange _)) fun _ => .pure _
  cases credit with
  | none => exact record
  | some id => exact .bind lockOnly_consumeCredit fun _ => record

theorem surely_execute (h : Undisturbed first (Asyncpg.dialect.footprint selection) db)
    {result : RebookingResult} {after : Db}
    (hc : Commits (Orm.execute first.catalog now selection) first result after) :
    Surely (View first (Asyncpg.dialect.footprint selection)) (Orm.execute first.catalog now selection) db
      fun _ _ => True := by
  have halone := hc
  rw [Orm.execute, Commits.bind_iff] at hc
  obtain ⟨⟨prior, _⟩, first', hprior, hc⟩ := hc
  obtain ⟨rfl, -⟩ := commits_snapshot hprior
  rw [Commits.bind_iff] at hc
  obtain ⟨_, first', hl, hc⟩ := hc
  cases commits_lockFares hl
  rw [Commits.bind_iff] at hc
  obtain ⟨⟨snapshot, credit⟩, first', hs, hc⟩ := hc
  obtain ⟨rfl, ⟨o⟩⟩ := commits_snapshot hs
  simp only [Commits.check_bind] at hc
  obtain ⟨validation, hv, -⟩ := hc
  obtain ⟨b, rfl, hid, hnew, hcid, hused⟩ := o.exists_rebooking (accepted_of_execute hv)
  obtain ⟨hsold, hmovable, hrecordable⟩ := (yields_execute hs hv hid hnew hcid hused).holds halone
  obtain ⟨n, hn⟩ := h.fares (selection.newFlightId, selection.newFareClassId)
  let b' := h.rebooking b n hn hid.symm hnew.symm hcid.symm
  have hmovable' : b'.Movable := Undisturbed.movable_rebooking hmovable
  have hrecordable' : b'.Recordable := Undisturbed.recordable_rebooking hrecordable
  have hvalidation : b'.validation selection = b.validation selection :=
    Undisturbed.validation_rebooking selection
  rw [Orm.execute]
  refine Surely.bind (surely_snapshot h hs) ?_
  rintro _ db ⟨rfl, _, -, rfl⟩
  refine Surely.bind (.of_run lockOnly_lockFares (run_lockFares _ _)) ?_
  rintro _ db ⟨-, rfl⟩
  refine Surely.bind (surely_snapshot h hs) ?_
  rintro _ db ⟨rfl, seats, hroom, rfl⟩
  have hv' : validate now selection { snapshot with availableSeats := seats } credit =
      .ok (b'.validation selection) := by
    rw [hvalidation]
    apply validate_withSeats hv
    rw [o.passengerCount, ← Db.passengersOf_of_row o.segment_row]
    exact hroom
  refine Surely.bind (.check (Q := fun v u => v = b'.validation selection ∧ u = db) hv' ⟨rfl, rfl⟩) ?_
  rintro _ db ⟨rfl, rfl⟩
  rw [b'.flightChange_validation hid, hid, hused, hcid]
  have htarget := b'.target_row
  change db.flightFares.row b'.newFare = _ at htarget
  have hnew' : (selection.newFlightId, selection.newFareClassId) = b'.newFare := hnew
  rw [← hnew'] at htarget
  refine Surely.bind (.of_yields lockOnly_takeSeats (yields_takeSeats htarget b'.seats) hmovable'.taken) ?_
  rintro _ _ ⟨-, rfl⟩
  rw [hnew']
  have hsold' : ((db.flightFares.modify b'.newFare (·.addSeats (-b'.passengerCount))).row
      b'.segment.fare).isSome := by
    obtain ⟨m, hm⟩ := h.fares b.segment.fare
    rw [Table.row_modify, Option.isSome_map]
    change (db.flightFares.row b.segment.fare).isSome
    rw [hm, Option.isSome_map]
    exact hsold
  refine Surely.bind (.of_yields lockOnly_returnSeats (yields_returnSeats _ _ _)
    ⟨hsold', hmovable'.returned⟩) ?_
  rintro _ _ ⟨-, rfl⟩
  -- The segment and the reservation are its own.
  apply Surely.readRow_bind
  intro reply hreply
  obtain rfl : reply = some b'.segment := by
    refine hreply.eq_some (Option.isSome_iff_exists.mpr ⟨_, b'.segment_row⟩) fun x hx => ?_
    exact Option.some.inj ((hx hid.symm).symm.trans b.segment_row)
  apply Surely.readRow_bind
  intro reply hreply
  obtain rfl : reply = some b'.reservation := by
    refine hreply.eq_some (Option.isSome_iff_exists.mpr ⟨_, b'.reservation_row⟩) fun x hx => ?_
    have hrow := Db.reservationOf_of_row b.segment_row
    rw [← hid] at hrow
    exact Option.some.inj ((hx hrow).symm.trans b.reservation_row)
  refine Surely.bind (.of_yields lockOnly_flushReservation
    (yields_flushReservation (r := b'.reservation) (by exact b'.reservation_row)) hmovable'.total) ?_
  rintro _ _ ⟨-, rfl⟩
  refine Surely.bind (.of_yields lockOnly_flushSegment
    (yields_flushSegment (r := b'.segment) (by exact b'.segment_row)) hmovable'.price) ?_
  rintro _ _ ⟨-, rfl⟩
  refine (Surely.of_yields lockOnly_finish (yields_finish (b := b')
    (fun id credit hrow hle => yields_consumeCredit hrow)
    fun db' => (yields_createFlightChange b'.change).adapt fun _ _ => by rintro _ ⟨⟩) hrecordable').mono
    fun _ _ _ => trivial

theorem freshReads_selectRow {lock : Bool} {k : RowKey} :
    FreshReads [] (selectRow lock k : Sql ε _) fun m _ => m = [] :=
  .selectRow List.not_mem_nil fun _ => rfl

theorem freshReads_target {lock : Bool} : FreshReads [] (target selection lock) fun m _ => m = [] := by
  refine Guarantees.bind freshReads_selectRow fun m fare hm => ?_
  subst hm
  cases fare with
  | none => exact .throw
  | some fare => exact .pure rfl

theorem freshReads_snapshot {catalog : Catalog} {lock : Bool} :
    FreshReads [] (Orm.snapshot catalog selection lock) fun m _ => m = [] := by
  refine Guarantees.bind freshReads_selectRow fun m segment hm => ?_
  subst hm
  cases segment with
  | none => exact .throw
  | some segment =>
    refine Guarantees.bind (FreshReads.readRow (Q := fun m _ => m = []) List.not_mem_nil fun _ => rfl)
      fun m reservation hm => ?_
    subst hm
    cases reservation with
    | none => exact .throw
    | some reservation =>
      dsimp only
      split
      · split
        · refine Guarantees.bind freshReads_target fun m fare hm => ?_
          subst hm
          split
          · split
            · split
              · exact .pure rfl
              · refine Guarantees.bind freshReads_selectRow fun m credit hm => ?_
                subst hm
                cases credit with
                | none => exact .throw
                | some credit => exact .pure rfl
            · exact .throw
          · exact .throw
        · exact .throw
      · exact .throw

def OnlyFares (m : List RowKey) : Prop := ∀ k ∈ m, ∃ f c, k = .flightFare f c

theorem freshReads_lockFares {m : List RowKey} {oldFlightId oldFareClassId : UUID} :
    FreshReads m (lockFares oldFlightId oldFareClassId selection) fun m' _ => m' = m := by
  unfold lockFares
  generalize fareKeys _ _ = keys
  induction keys with
  | nil => exact .pure rfl
  | cons key keys ih =>
    refine Guarantees.bind (Q := fun m' _ => m' = m) ?_ fun m' _ hm => hm ▸ ih
    exact Guarantees.bind (FreshReads.lockRow (Q := fun m' _ => m' = m) fun _ => rfl) fun _ _ hm => .pure hm

theorem freshReads_flushSeats {m : List RowKey} (hm : OnlyFares m) {f c : UUID} {fare : FlightFare} :
    FreshReads m (flushSeats f c fare) fun m' _ => OnlyFares m' := by
  refine Guarantees.bind (Q := fun m' _ => m' = m) (.check fun _ _ => rfl) fun m' _ hm' => ?_
  subst hm'
  apply FreshReads.writeRow
  rintro k (_ | ⟨_, hk⟩)
  · exact ⟨f, c, rfl⟩
  · exact hm k hk

theorem freshReads_takeSeats {n : Int} : FreshReads [] (takeSeats selection n) fun m _ => OnlyFares m := by
  refine Guarantees.bind freshReads_target fun m fare hm => ?_
  subst hm
  split
  · exact .throw
  · exact freshReads_flushSeats (by rintro _ ⟨⟩)

theorem freshReads_returnSeats {m : List RowKey} (hm : OnlyFares m) {f c : UUID} {n : Int} :
    FreshReads m (returnSeats f c n) fun m' _ => OnlyFares m' := by
  refine Guarantees.bind (FreshReads.lockRow (Q := fun m' _ => m' = m) fun _ => rfl) fun m' fare hm' => ?_
  subst hm'
  cases fare with
  | none => exact .throw
  | some fare => exact freshReads_flushSeats hm

theorem freshReads_execute {catalog : Catalog} :
    FreshReads [] (Orm.execute catalog now selection) fun _ _ => True := by
  refine Guarantees.bind freshReads_snapshot fun m _ hm => ?_
  subst hm
  refine Guarantees.bind freshReads_lockFares fun m _ hm => ?_
  subst hm
  refine Guarantees.bind freshReads_snapshot fun m _ hm => ?_
  subst hm
  refine Guarantees.bind (Q := fun m _ => m = []) (.check fun _ _ => rfl) fun m validation hm => ?_
  subst hm
  refine Guarantees.bind freshReads_takeSeats fun m _ hm => ?_
  refine Guarantees.bind (freshReads_returnSeats hm) fun m _ hm => ?_
  -- Neither the segment nor the reservation is among the fares it has written.
  refine Guarantees.bind (FreshReads.readRow (Q := fun m _ => OnlyFares m) ?_ fun _ => hm) fun m segment hm => ?_
  · intro hk
    obtain ⟨f, c, hkey⟩ := hm _ hk
    cases hkey
  cases segment with
  | none => exact .throw
  | some segment =>
    refine Guarantees.bind (FreshReads.readRow (Q := fun _ _ => True) ?_ fun _ => trivial)
      fun m reservation _ => ?_
    · intro hk
      obtain ⟨f, c, hkey⟩ := hm _ hk
      cases hkey
    cases reservation with
    | none => exact .throw
    | some reservation =>
      exact FreshReads.of_lockOnly
        (.bind lockOnly_flushReservation fun _ => .bind lockOnly_flushSegment fun _ => lockOnly_finish)

end Orm

end

namespace Execution

variable {first db : Db} {e : Execution}

def footprint (e : Execution) : Footprint := ⟨e.segmentId, e.newFare, e.creditId⟩

theorem freshReads_transaction (catalog : Catalog) (e : Execution) :
    FreshReads [] (e.transaction catalog) fun _ _ => True := by
  cases e with
  | go now selection => exact .adapt (FreshReads.of_lockOnly (Go.dialect.lockOnly_execute _ _ _))
  | asyncpg now selection => exact .adapt (FreshReads.of_lockOnly (Asyncpg.dialect.lockOnly_execute _ _ _))
  | orm now selection => exact .adapt Orm.freshReads_execute

theorem surely_transaction (h : Undisturbed first e.footprint db) (hc : e.commits first) :
    Surely (View first e.footprint) (e.transaction first.catalog) db fun _ _ => True := by
  cases e with
  | go now selection =>
    obtain ⟨result, after, hc⟩ := atomically_isOk.mp hc
    exact .adapt (Dialect.surely_execute (d := Go.dialect) h hc)
  | asyncpg now selection =>
    obtain ⟨result, after, hc⟩ := atomically_isOk.mp hc
    exact .adapt (Dialect.surely_execute (d := Asyncpg.dialect) h hc)
  | orm now selection =>
    obtain ⟨result, after, hc⟩ := atomically_isOk.mp hc
    exact .adapt (Orm.surely_execute h hc)

end Execution

end AgentsAtScale.Airline
