import AgentsAtScale.Airline.Admits
import AgentsAtScale.Airline.History
import AgentsAtScale.Airline.Serial
import AgentsAtScale.Transaction.StaleReads

namespace AgentsAtScale.Airline

open Transaction Transition

section

variable {db : Db}

/-- The same database except for the totals of the reservations. -/
structure Db.SameButTotals (a b : Db) : Prop where
  catalog : a.catalog = b.catalog
  flightFares : a.flightFares = b.flightFares
  reservations : ∀ id, (a.reservations.row id).map (fun r => { r with totalAmount := 0 }) =
    (b.reservations.row id).map fun r => { r with totalAmount := 0 }
  reservationSegments : a.reservationSegments = b.reservationSegments
  travelCredits : a.travelCredits = b.travelCredits
  flightChanges : a.flightChanges = b.flightChanges

theorem Db.SameButTotals.refl (a : Db) : a.SameButTotals a :=
  ⟨rfl, rfl, fun _ => rfl, rfl, rfl, rfl⟩

theorem Db.SameButTotals.trans {a b c : Db} (h : a.SameButTotals b) (h' : b.SameButTotals c) :
    a.SameButTotals c :=
  ⟨h.catalog.trans h'.catalog, h.flightFares.trans h'.flightFares,
    fun id => (h.reservations id).trans (h'.reservations id),
    h.reservationSegments.trans h'.reservationSegments, h.travelCredits.trans h'.travelCredits,
    h.flightChanges.trans h'.flightChanges⟩

theorem Db.SameButTotals.reservation {a b : Db} (h : a.SameButTotals b) {id : UUID}
    {r : Reservation} (hr : b.reservations.row id = some r) :
    ∃ r', a.reservations.row id = some r' ∧ r'.customerId = r.customerId := by
  have hid := h.reservations id
  rw [hr, Option.map_some, Option.map_eq_some_iff] at hid
  obtain ⟨r', hr', heq⟩ := hid
  simp only [Reservation.mk.injEq] at heq
  exact ⟨r', hr', heq.2.1⟩

theorem Accepted.withSeats {creditId : Option UUID} {selection : RebookingSelection γ}
    {snapshot : RebookingSnapshot} {credit : Option CreditValue} {validation : RebookingValidation γ}
    (h : Accepted creditId selection snapshot credit validation) {seats : Int}
    (hseats : snapshot.passengerCount ≤ seats) :
    Accepted creditId selection { snapshot with availableSeats := seats } credit validation :=
  ⟨h.segment, h.notApplied, h.targetFlight, h.targetFareClass, h.passengers, hseats, h.credit,
    h.noCredit, h.due, h.validation⟩

def Rebooking.settled (b : Rebooking db) (total : Decimal) : Db :=
  { b.apply with
    reservations := db.reservations.update b.segment.reservationId
      { b.reservation with totalAmount := total } }

theorem Rebooking.apply_eq_settled (b : Rebooking db) :
    b.apply = b.settled (b.reservation.totalAmount + b.change.amount) := by
  simp only [settled, apply, Table.modify_of_some b.reservation_row]
  rfl

theorem Rebooking.sameButTotals (b : Rebooking db) (total : Decimal) :
    b.apply.SameButTotals (b.settled total) where
  catalog := rfl
  flightFares := rfl
  reservations id := by
    simp only [settled, apply, Table.modify_of_some b.reservation_row]
    by_cases hid : id = b.segment.reservationId
    · subst hid
      simp only [Table.row_update_self, b.reservation_row, Option.map_some, Reservation.addTotal]
    · simp only [Table.row_update_of_ne _ hid]
  reservationSegments := rfl
  travelCredits := rfl
  flightChanges := rfl

def Execution.creditId : Execution → Option UUID
  | .go _ selection => goCredit selection.travelCreditId
  | .asyncpg _ selection => selection.travelCreditId
  | .orm _ selection => selection.travelCreditId

structure Rebooking.Requested (b : Rebooking db) (e : Execution) : Prop where
  segmentId : b.segmentId = e.segmentId
  newFare : b.newFare = e.newFare
  creditId : b.travelCreditId = e.creditId

structure Db.Within (first db : Db) : Prop where
  catalog : db.catalog = first.catalog
  rows : ∀ k r, RowStore.fetch db k = some r → first.Admits k r

theorem Dialect.stale_execute {d : Dialect γ ε} [LawfulDialect d] {first after : Db} {now : Timestamp}
    {selection : RebookingSelection γ} {result : RebookingResult} (hdb : first.Within db)
    (h : StaleCommits first.Admits (d.execute first.catalog now selection) db result after) :
    ∃ b : Rebooking db, b.travelCreditId = d.creditId selection.travelCreditId ∧
      b.segmentId = selection.segmentId ∧
      b.newFare = (selection.newFlightId, selection.newFareClassId) ∧
      (∃ total, after = b.settled total) ∧ result.change = some b.change := by
  rw [StaleCommits.iff_commits (d.lockOnly_execute _ _ _), ← hdb.catalog] at h
  obtain ⟨b, hcredit, hid, hnew, rfl, hchange⟩ := commits_rebooking h
  exact ⟨b, hcredit, hid, hnew, ⟨_, b.apply_eq_settled⟩, hchange⟩

namespace Orm

open Python

variable {first after : Db} {now : Timestamp} {selection : RebookingSelection (Option UUID)}

theorem exists_of_version {k : RowKey} {r : Row k} (h : Version first.Admits db k (some r)) :
    ∃ current, db.fetch k = some current := by
  have hsome := h.1
  rwa [Option.isSome_some, eq_comm, Option.isSome_iff_exists] at hsome

theorem lockOnly_column {x : Except SqlError α} : LockOnly (column x).run := .check _

theorem lockOnly_target : LockOnly (target selection true).run := by
  refine LockOnly.bind_option (.lockRow _) ?_ fun fare => ?_
  · exact .throw _
  · exact .pure _

theorem lockOnly_lockFares {oldFlightId oldFareClassId : UUID} :
    LockOnly (lockFares oldFlightId oldFareClassId selection).run := by
  unfold lockFares
  generalize fareKeys _ _ = keys
  induction keys with
  | nil => exact .pure _
  | cons key keys ih => exact .bind (.bind (.lockRow _) fun _ => .pure _) fun _ => ih

theorem lockOnly_flushSeats {f c : UUID} {fare : FlightFare} : LockOnly (flushSeats f c fare).run :=
  .bind lockOnly_column fun _ => .writeRow _ _

theorem lockOnly_takeSeats {n : Int} : LockOnly (takeSeats selection n).run := by
  apply LockOnly.bind lockOnly_target
  intro fare
  split
  · exact .throw _
  · exact lockOnly_flushSeats

theorem lockOnly_returnSeats {f c : UUID} {n : Int} : LockOnly (returnSeats f c n).run := by
  refine LockOnly.bind_option (.lockRow _) ?_ fun fare => ?_
  · exact .throw _
  · exact lockOnly_flushSeats

theorem lockOnly_flushReservation {id : UUID} {totalAmount : Decimal} :
    LockOnly (flushReservation id totalAmount).run := by
  apply LockOnly.bind lockOnly_column
  intro total
  refine LockOnly.bind_option (.lockRow _) ?_ fun reservation => ?_
  · exact .throw _
  · exact .writeRow _ _

theorem lockOnly_flushSegment {id : UUID} {segment : ReservationSegment} :
    LockOnly (flushSegment id segment).run :=
  .bind lockOnly_column fun _ => .writeRow _ _

theorem lockOnly_consumeCredit {id : UUID} {amount : Decimal} :
    LockOnly (consumeCredit id amount).run := by
  refine LockOnly.bind_option (.lockRow _) ?_ fun credit => ?_
  · exact .throw _
  · exact .bind lockOnly_column fun _ => .writeRow _ _

theorem seats_of_takeSeats {n : Int} {u : Unit} {fare : FlightFare}
    (hfare : db.flightFares.row (selection.newFlightId, selection.newFareClassId) = some fare)
    (h : Commits (takeSeats selection n) db u after) : n ≤ fare.availableSeats := by
  rw [takeSeats, Commits.bind_iff] at h
  obtain ⟨fare', db', ht, h⟩ := h
  obtain ⟨rfl, ht⟩ := commits_target ht
  cases ht.symm.trans hfare
  split at h
  · simp at h
  · rename_i hn
    exact not_lt.mp hn

theorem stale_target (hdb : first.Within db) {fare : FlightFare}
    (h : StaleCommits first.Admits (target selection false) db fare after) :
    after = db ∧ ∃ current,
      db.flightFares.row (selection.newFlightId, selection.newFareClassId) = some current ∧
      fare.price = current.price := by
  simp only [target, selectRow, Bool.false_eq_true, if_false, StaleCommits.readRow_bind] at h
  obtain ⟨reply, hreply, h⟩ := h
  cases reply with
  | none => simp at h
  | some fare' =>
    simp only [StaleCommits.pure_iff] at h
    obtain ⟨rfl, rfl⟩ := h
    obtain ⟨current, hcurrent⟩ := exists_of_version hreply
    obtain ⟨⟨row, hrow, hstale⟩, -⟩ := hreply.2 fare rfl
    obtain ⟨⟨row', hrow', hnow⟩, -⟩ := hdb.rows _ _ hcurrent
    cases hrow.symm.trans hrow'
    exact ⟨rfl, current, hcurrent, by rw [hstale, hnow]⟩

theorem stale_snapshot (hdb : first.Within db) {snapshot : RebookingSnapshot}
    {credit : Option CreditValue}
    (h : StaleCommits first.Admits (Orm.snapshot first.catalog selection true) db (snapshot, credit)
      after) :
    after = db ∧ ∃ seats, Nonempty (Observed db selection.travelCreditId selection
      { snapshot with availableSeats := seats } credit) := by
  rw [← hdb.catalog] at h
  simp only [Orm.snapshot, selectRow, if_true, StaleCommits.lockRow_bind, Db.fetch_eq, Db.fetch] at h
  cases hrs : db.reservationSegments.row selection.segmentId with
  | none => simp [hrs] at h
  | some rs =>
    simp only [hrs, StaleCommits.readRow_bind] at h
    obtain ⟨reply, hreply, h⟩ := h
    cases reply with
    | none => simp at h
    | some stale =>
      obtain ⟨r, hr⟩ := exists_of_version hreply
      have hcustomer : stale.customerId = r.customerId := by
        obtain ⟨⟨row, hrow, hstale⟩, -⟩ := hreply.2 stale rfl
        obtain ⟨⟨row', hrow', hnow⟩, -⟩ := hdb.rows _ _ hr
        cases hrow.symm.trans hrow'
        rw [hstale, hnow]
      dsimp only at h
      split at h
      · split at h
        · rw [StaleCommits.bind_iff] at h
          obtain ⟨fare, db, ht, h⟩ := h
          obtain ⟨rfl, ff, hff, hprice⟩ := stale_target hdb ht
          split at h
          · cases hfc : db.catalog.fareClasses.row selection.newFareClassId with
            | none => simp [hfc] at h
            | some fc =>
              simp only [hfc] at h
              cases hcid : selection.travelCreditId with
              | none =>
                simp only [hcid, StaleCommits.pure_iff, Prod.mk.injEq] at h
                obtain ⟨⟨rfl, rfl⟩, rfl⟩ := h
                exact ⟨rfl, _, ⟨rs, r, ff, fc, hrs, hr, hff, hfc, rfl, rfl, hcustomer, rfl, rfl, rfl, rfl,
                  hprice, rfl, rfl, rfl, by simp⟩⟩
              | some id =>
                simp only [hcid, StaleCommits.lockRow_bind, Db.fetch_eq, Db.fetch] at h
                cases hc : db.travelCredits.row id with
                | none => simp [hc] at h
                | some c =>
                  simp only [hc, StaleCommits.pure_iff, Prod.mk.injEq] at h
                  obtain ⟨⟨rfl, rfl⟩, rfl⟩ := h
                  exact ⟨rfl, _, ⟨rs, r, ff, fc, hrs, hr, hff, hfc, rfl, rfl, hcustomer, rfl, rfl, rfl,
                    rfl, hprice, rfl, rfl, rfl, by rintro _ ⟨⟩; exact ⟨c, hc, rfl⟩⟩⟩
          · simp at h
        · simp at h
      · simp at h

theorem stale_execute (hdb : first.Within db) {result : RebookingResult}
    (h : StaleCommits first.Admits (execute first.catalog now selection) db result after) :
    ∃ b : Rebooking db, b.travelCreditId = selection.travelCreditId ∧
      b.segmentId = selection.segmentId ∧
      b.newFare = (selection.newFlightId, selection.newFareClassId) ∧
      (∃ total, after = b.settled total) ∧ result.change = some b.change := by
  rw [execute, StaleCommits.bind_iff] at h
  obtain ⟨⟨prior, _⟩, db, hs, h⟩ := h
  obtain ⟨rfl, -⟩ := stale_snapshot hdb hs
  rw [StaleCommits.bind_iff] at h
  obtain ⟨_, db, hl, h⟩ := h
  cases commits_lockFares ((StaleCommits.iff_commits lockOnly_lockFares).mp hl)
  rw [StaleCommits.bind_iff] at h
  obtain ⟨⟨snapshot, credit⟩, db, hs, h⟩ := h
  obtain ⟨rfl, seats, ⟨o⟩⟩ := stale_snapshot hdb hs
  simp only [StaleCommits.check_bind] at h
  obtain ⟨validation, hv, h⟩ := h
  have haccepted := accepted_of_execute hv
  rw [StaleCommits.bind_iff] at h
  obtain ⟨_, db₁, h₁, h⟩ := h
  replace h₁ := (StaleCommits.iff_commits lockOnly_takeSeats).mp h₁
  -- The seats are checked again under the lock.
  have hroom : snapshot.passengerCount ≤ seats := by
    have hseats := seats_of_takeSeats o.target_row h₁
    rw [haccepted.validation] at hseats
    exact hseats.trans (le_of_eq o.availableSeats.symm)
  obtain ⟨b, rfl, hid, hnew, hcid, hused⟩ := o.exists_rebooking (haccepted.withSeats hroom)
  rw [b.flightChange_validation hid, hid, hcid, hused, StaleCommits.bind_iff] at h
  obtain ⟨_, db₂, h₂, h⟩ := h
  replace h₂ := (StaleCommits.iff_commits lockOnly_returnSeats).mp h₂
  have e₁ := commits_takeSeats h₁
  have e₂ := commits_returnSeats h₂
  rw [hnew] at e₁
  refine ⟨b, hcid.symm, hid.symm, hnew.symm, ?_⟩
  have hres : db₂.reservations.row (b.validation selection).reservationId = some b.reservation := by
    rw [e₂, e₁]; exact b.reservation_row
  simp only [StaleCommits.readRow_bind] at h
  obtain ⟨reply, hreply, h⟩ := h
  cases reply with
  | none => simp at h
  | some segment =>
    have hsegment : segment.reservationId = b.segment.reservationId := by
      obtain ⟨⟨row, hrow, hstale⟩, -⟩ := hreply.2 segment rfl
      obtain ⟨⟨row', hrow', hnow⟩, -⟩ := hdb.rows (.segment b.segmentId) _ b.segment_row
      cases hrow.symm.trans hrow'
      rw [hstale, hnow]
    simp only [StaleCommits.readRow_bind] at h
    obtain ⟨reply, hreply, h⟩ := h
    cases reply with
    | none => simp at h
    | some reservation =>
      simp only [StaleCommits.bind_iff] at h
      obtain ⟨_, db₃, h₃, _, db₄, h₄, h⟩ := h
      have e₃ := commits_flushReservation hres
        ((StaleCommits.iff_commits lockOnly_flushReservation).mp h₃)
      have e₄ := commits_flushSegment ((StaleCommits.iff_commits lockOnly_flushSegment).mp h₄)
      rw [hsegment] at e₄
      have recorded : ∀ {db₅ after : Db} {change : FlightChange},
          StaleCommits first.Admits (createFlightChange b.change) db₅ change after →
          Commits (createFlightChange b.change) db₅ change after :=
        (StaleCommits.iff_commits (lockOnly_createFlightChange _)).mp
      cases hc : b.travelCreditId with
      | none =>
        simp only [hc, StaleCommits.bind_iff, StaleCommits.adapt_iff,
          StaleCommits.pure_iff] at h
        obtain ⟨_, db₅, h₅, rfl, rfl⟩ := h
        obtain ⟨rfl, e₅⟩ := commits_createFlightChange (recorded h₅)
        refine ⟨⟨reservation.totalAmount + b.change.amount, ?_⟩, rfl⟩
        rw [e₅, e₄, e₃, e₂, e₁, Rebooking.settled, Rebooking.apply, hc, Table.modify_of_some b.segment_row]
        rfl
      | some id =>
        simp only [hc, StaleCommits.bind_iff, StaleCommits.adapt_iff,
          StaleCommits.pure_iff] at h
        obtain ⟨_, db₅, h₅, _, db₆, h₆, rfl, rfl⟩ := h
        obtain ⟨credit, hrow, -⟩ := b.credit id hc
        have e₅ := commits_consumeCredit (by rw [e₄, e₃, e₂, e₁]; exact hrow)
          ((StaleCommits.iff_commits lockOnly_consumeCredit).mp h₅)
        obtain ⟨rfl, e₆⟩ := commits_createFlightChange (recorded h₆)
        refine ⟨⟨reservation.totalAmount + b.change.amount, ?_⟩, rfl⟩
        rw [e₆, e₅, e₄, e₃, e₂, e₁, Rebooking.settled, Rebooking.apply, hc,
          Table.modify_of_some b.segment_row]
        rfl

end Orm

end

/-- Some rebookings, one after another, lead from `db` to a database; their changes. -/
inductive Rebooked (db : Db) : List FlightChange → Db → Prop
  | refl : Rebooked db [] db
  | step {changes : List FlightChange} {after : Db} :
      Rebooked db changes after → (b : Rebooking after) → Rebooked db (changes ++ [b.change]) b.apply

namespace Rebooked

variable {db after : Db} {changes : List FlightChange}

theorem invariant (h : Rebooked db changes after) {P : Db → Prop}
    (keep : ∀ db (b : Rebooking db), P db → P b.apply) (hdb : P db) : P after := by
  induction h with
  | refl => exact hdb
  | step _ b ih => exact keep _ b ih

theorem eq (h : Rebooked db changes after) {f : Db → α} (keep : ∀ db (b : Rebooking db), f b.apply = f db) :
    f after = f db := by
  apply h.invariant (P := fun db' => f db' = f db) _ rfl
  intro db' b h
  rw [keep, h]

theorem flightChanges (h : Rebooked db changes after) :
    after.flightChanges = db.flightChanges ++ changes := by
  induction h with
  | refl => simp
  | step _ b ih => simp only [Rebooking.apply, ih, List.append_assoc]

end Rebooked

theorem Rebooking.reservations_apply {db : Db} (b : Rebooking db) (id : UUID) :
    (b.apply.reservations.row id).map (fun r => { r with totalAmount := 0 }) =
      (db.reservations.row id).map fun r => { r with totalAmount := 0 } := by
  simp only [apply, Table.row_modify, Option.map_map]
  congr 1
  funext r
  simp only [Function.comp]
  split <;> rfl

namespace Db.SameButTotals

variable {a b : Db}

theorem rebooking (h : a.SameButTotals b) (r : Rebooking b) :
    ∃ r' : Rebooking a, r'.change = r.change ∧ r'.apply.SameButTotals r.apply := by
  obtain ⟨reservation, hrow, hcustomer⟩ := h.reservation r.reservation_row
  let r' : Rebooking a :=
    { r with
      reservation := reservation
      segment_row := by rw [h.reservationSegments]; exact r.segment_row
      reservation_row := hrow
      target_row := by rw [h.flightFares]; exact r.target_row
      fareClass_row := by rw [h.catalog]; exact r.fareClass_row
      passengers := by rw [h.catalog]; exact r.passengers
      seats := by rw [h.catalog]; exact r.seats
      credit := by rw [h.travelCredits, hcustomer]; exact r.credit }
  have hcount : r'.passengerCount = r.passengerCount := by
    simp only [Rebooking.passengerCount, h.catalog, r']
  refine ⟨r', rfl, h.catalog, ?_, ?_, ?_, ?_, ?_⟩
  · simp only [Rebooking.apply, hcount, h.flightFares]
    rfl
  · intro id
    rw [r'.reservations_apply, r.reservations_apply]
    exact h.reservations id
  · simp only [Rebooking.apply, h.reservationSegments]
    rfl
  · simp only [Rebooking.apply, h.travelCredits]
    rfl
  · simp only [Rebooking.apply, h.flightChanges]
    rfl

theorem seats_eq (h : a.SameButTotals b) (fare : UUID × UUID) : a.seats fare = b.seats fare := by
  simp only [Db.seats, Db.placed, h.flightFares, h.reservationSegments, h.catalog]

theorem reservationOf_eq (h : a.SameButTotals b) (id : UUID) :
    a.reservationOf id = b.reservationOf id := by
  rw [Db.reservationOf, h.reservationSegments, Db.reservationOf]

theorem customerOf_eq (h : a.SameButTotals b) (id : UUID) : a.customerOf id = b.customerOf id := by
  unfold Db.customerOf
  rw [h.reservationOf_eq]
  congr 1
  funext reservationId
  have hrow := congrArg (Option.map Reservation.customerId) (h.reservations reservationId)
  rw [Option.map_map, Option.map_map] at hrow
  exact hrow

theorem creditBalance_eq (h : a.SameButTotals b) (customerId : UUID) :
    a.creditBalance customerId = b.creditBalance customerId := by
  simp only [Db.creditBalance, h.travelCredits, h.flightChanges, h.customerOf_eq]

theorem isSome_reservation (h : a.SameButTotals b) (id : UUID) :
    (a.reservations.row id).isSome = (b.reservations.row id).isSome := by
  have hrow := congrArg Option.isSome (h.reservations id)
  simpa only [Option.isSome_map] using hrow

theorem changesOf_eq (h : a.SameButTotals b) (id : UUID) : a.changesOf id = b.changesOf id := by
  rw [Db.changesOf, h.flightChanges, Db.changesOf]

theorem follows {first : Db} (h : a.SameButTotals b) (hfirst : first.Follows a) : first.Follows b := by
  constructor
  · intro id original hrow
    obtain ⟨segment, hsegment, hrecorded⟩ := hfirst.segment id original hrow
    rw [h.reservationSegments] at hsegment
    refine ⟨segment, hsegment, ?_, ?_, ?_⟩
    · rw [← h.changesOf_eq]
      exact hrecorded.itinerary
    · rw [← h.changesOf_eq]
      exact hrecorded.changed
    · rw [← h.changesOf_eq, ← h.isSome_reservation]
      exact hrecorded.reservation
  · intro id hrow
    rw [← h.reservationSegments, ← h.changesOf_eq]
    exact hfirst.absent id hrow

end Db.SameButTotals

namespace Execution

def transaction (catalog : Catalog) :
    Execution → Sql (Go.ExecuteError ⊕ Python.ExecuteError) RebookingResult
  | .go now selection => ExceptT.adapt .inl (Go.execute catalog now selection)
  | .asyncpg now selection => ExceptT.adapt .inr (Asyncpg.execute catalog now selection)
  | .orm now selection => ExceptT.adapt .inr (Orm.execute catalog now selection)

theorem ensures_transaction {db : Db} {m : Log RowKey Row} (e : Execution) :
    Ensures db.Admits m (e.transaction db.catalog) fun _ _ => True := by
  cases e with
  | go now selection => exact .adapt (Dialect.ensures_execute (d := Go.dialect))
  | asyncpg now selection => exact .adapt (Dialect.ensures_execute (d := Asyncpg.dialect))
  | orm now selection => exact .adapt Orm.ensures_execute

theorem stale_transaction {first db after : Db} {e : Execution} {result : RebookingResult}
    (hdb : first.Within db)
    (h : StaleCommits first.Admits (e.transaction first.catalog) db result after) :
    ∃ b : Rebooking db, b.Requested e ∧ (∃ total, after = b.settled total) ∧
      result.change = some b.change := by
  cases e with
  | go now selection =>
    obtain ⟨b, hcredit, hid, hnew, h⟩ :=
      Dialect.stale_execute (d := Go.dialect) hdb (StaleCommits.adapt_iff.mp h)
    exact ⟨b, ⟨hid, hnew, hcredit⟩, h⟩
  | asyncpg now selection =>
    obtain ⟨b, hcredit, hid, hnew, h⟩ :=
      Dialect.stale_execute (d := Asyncpg.dialect) hdb (StaleCommits.adapt_iff.mp h)
    exact ⟨b, ⟨hid, hnew, hcredit⟩, h⟩
  | orm now selection =>
    obtain ⟨b, hcredit, hid, hnew, h⟩ := Orm.stale_execute hdb (StaleCommits.adapt_iff.mp h)
    exact ⟨b, ⟨hid, hnew, hcredit⟩, h⟩

end Execution

abbrev MixedSystem (Tid : Type) :=
  Sys Tid Db RowKey Row FlightChange (Go.ExecuteError ⊕ Python.ExecuteError) RebookingResult

/-- What holds of the committed database: its rows are admitted, and the rebookings of
the history lead to it up to the totals. -/
structure Retraced (first : Db) (history : List (Tid × RebookingResult)) (db : Db) : Prop where
  within : first.Within db
  rebooked : ∃ ghost, Rebooked first (history.filterMap fun c => c.2.change) ghost ∧
    ghost.SameButTotals db

theorem retraced_of_staleSerial {Tid : Type} {requests : Tid → Execution} {first db : Db}
    {history : List (Tid × RebookingResult)} (hfirst : first.Valid)
    (h : StaleSerial first.Admits (fun t => (requests t).transaction first.catalog) first history db) :
    Retraced first history db := by
  induction h with
  | nil => exact ⟨⟨rfl, hfirst.admits⟩, first, .refl, .refl _⟩
  | @snoc history db t result after _ hcommits ih =>
    obtain ⟨hwithin, ghost, hghost, hsame⟩ := ih
    obtain ⟨b, -, ⟨total, rfl⟩, hchange⟩ := Execution.stale_transaction hwithin hcommits
    have hb := b.sameButTotals total
    obtain ⟨b', hchange', hb'⟩ := hsame.rebooking b
    refine ⟨⟨?_, ?_⟩, b'.apply, ?_, hb'.trans hb⟩
    · rw [← hb.catalog]
      exact hwithin.catalog
    · exact hcommits.rows ((requests t).ensures_transaction (m := {})) hwithin.rows
    · have hsnoc := hghost.step b'
      rw [hchange'] at hsnoc
      simpa [hchange] using hsnoc

section

variable {Tid : Type} [DecidableEq Tid]

theorem retraced_of_reaches {db : Db} (hdb : db.Valid) {requests : Tid → Execution} {s : MixedSystem Tid}
    (h : Reaches (Sys.step fun t => (requests t).transaction db.catalog) (Sys.start db) s) :
    Retraced db s.history s.committed :=
  retraced_of_staleSerial hdb
    (Sys.staleSerial_of_reaches (fun t => (requests t).ensures_transaction) hdb.admits h)

end

namespace Sample

def mixedRequests : Bool → Execution
  | true => .orm 0 downgrade
  | false => .asyncpg 0 other

def mixedInterleaving : List (Act Bool) :=
  [.begin true, .begin false] ++ List.replicate 14 (.exec true) ++ List.replicate 13 (.exec false) ++
    [.commit false] ++ List.replicate 4 (.exec true) ++ [.commit true]

theorem exists_mixedInterleaving :
    ∃ s, Reaches (Sys.step fun t => (mixedRequests t).transaction db.catalog) (Sys.start db) s ∧
      s.history.map Prod.fst = [false, true] := by
  have hrun : ((run (Sys.step fun t => (mixedRequests t).transaction db.catalog) (fun _ _ => True)
      (Sys.start db) mixedInterleaving).map fun s => s.history.map Prod.fst) = some [false, true] := by
    decide +kernel
  obtain ⟨s, hs, hhistory⟩ := Option.map_eq_some_iff.mp hrun
  exact ⟨s, reach_of_run hs, hhistory⟩

theorem valid : db.Valid := by decide +kernel

end Sample

section

variable {Tid : Type} [DecidableEq Tid]

theorem mixed_seats_credits (db : Db) (hdb : db.Valid) (requests : Tid → Execution)
    (s : MixedSystem Tid)
    (h : Reaches (Sys.step fun t => (requests t).transaction db.catalog) (Sys.start db) s) :
    (∀ fare, s.committed.seats fare = db.seats fare) ∧
    ((∀ fare ff, db.flightFares.row fare = some ff → 0 ≤ ff.availableSeats) →
      ∀ fare ff, s.committed.flightFares.row fare = some ff → 0 ≤ ff.availableSeats) ∧
    (∀ customerId, s.committed.creditBalance customerId = db.creditBalance customerId) ∧
    ((∀ id credit, db.travelCredits.row id = some credit → credit.Balanced) →
      ∀ id credit, s.committed.travelCredits.row id = some credit → credit.Balanced) := by
  obtain ⟨-, ghost, hghost, hsame⟩ := retraced_of_reaches hdb h
  refine ⟨?_, ?_, ?_, ?_⟩
  · intro fare
    rw [← hsame.seats_eq]
    exact hghost.eq (f := fun db => db.seats fare) fun _ b => b.seats_apply fare
  · intro hseats
    rw [← hsame.flightFares]
    exact hghost.invariant
      (P := fun db => ∀ fare ff, db.flightFares.row fare = some ff → 0 ≤ ff.availableSeats)
      (fun _ b => b.availableSeats_nonneg) hseats
  · intro customerId
    rw [← hsame.creditBalance_eq]
    exact hghost.eq (f := fun db => db.creditBalance customerId) fun _ b =>
      b.creditBalance_apply customerId
  · intro hcredits
    rw [← hsame.travelCredits]
    exact hghost.invariant
      (P := fun db => ∀ id credit, db.travelCredits.row id = some credit → credit.Balanced)
      (fun _ b => b.balanced_apply) hcredits

theorem mixed_seats_credits_sample :
    ∃ s, Reaches (Sys.step fun t => (Sample.mixedRequests t).transaction Sample.db.catalog)
        (Sys.start Sample.db) s ∧
      s.history.map Prod.fst = [false, true] ∧ s.committed.seats (3, 1) = Sample.db.seats (3, 1) ∧
      s.committed.creditBalance 1 = Sample.db.creditBalance 1 := by
  obtain ⟨s, hs, hhistory⟩ := Sample.exists_mixedInterleaving
  have h := mixed_seats_credits Sample.db Sample.valid Sample.mixedRequests s hs
  exact ⟨s, hs, hhistory, h.1 (3, 1), h.2.2.1 1⟩

theorem mixed_history (db : Db) (hdb : db.Valid) (hchanges : db.flightChanges = [])
    (hfresh : ∀ id segment, db.reservationSegments.row id = some segment → segment.status ≠ .changed)
    (requests : Tid → Execution) (s : MixedSystem Tid)
    (h : Reaches (Sys.step fun t => (requests t).transaction db.catalog) (Sys.start db) s) :
    s.committed.flightChanges = s.history.filterMap (fun c => c.2.change) ∧
    (∀ id original, db.reservationSegments.row id = some original →
      ∃ segment, s.committed.reservationSegments.row id = some segment ∧
        Itinerary original.fare segment.fare (s.committed.changesOf id) ∧
        segment.pricePaid = original.pricePaid +
          changesSum s.committed.flightChanges (· = id) FlightChange.fareDifference) ∧
    ∀ e : Execution, e.verified s.committed = true ↔
      ∃ change, (s.committed.changesOf e.segmentId).getLast? = some change ∧
        change.newFare = e.newFare := by
  obtain ⟨-, ghost, hghost, hsame⟩ := retraced_of_reaches hdb h
  have hfollows : db.Follows s.committed :=
    hsame.follows (hghost.invariant (fun _ b h => Db.follows_apply b h)
      (Db.follows_start hchanges hfresh))
  refine ⟨?_, ?_, ?_⟩
  · rw [← hsame.flightChanges, hghost.flightChanges, hchanges, List.nil_append]
  · intro id original hrow
    obtain ⟨segment, hsegment, hrecorded⟩ := hfollows.segment id original hrow
    refine ⟨segment, hsegment, hrecorded.itinerary, ?_⟩
    have hprice := hghost.eq (f := fun db => db.basePrice id) fun _ b => b.basePrice_apply id
    simp only [Db.basePrice, hsame.reservationSegments, hsame.flightChanges, hsegment, hrow, hchanges,
      changesSum_nil, Option.map_some, Option.some.injEq, sub_zero] at hprice
    rw [← hprice, sub_add_cancel]
  · intro e
    rw [Execution.verified_iff]
    exact hfollows.applied_iff e.segmentId e.newFare

theorem mixed_history_sample :
    ∃ s, Reaches (Sys.step fun t => (Sample.mixedRequests t).transaction Sample.db.catalog)
        (Sys.start Sample.db) s ∧
      s.history.map Prod.fst = [false, true] ∧
      s.committed.flightChanges = s.history.filterMap fun c => c.2.change := by
  obtain ⟨s, hs, hhistory⟩ := Sample.exists_mixedInterleaving
  have hfresh : ∀ id segment, Sample.db.reservationSegments.row id = some segment →
      segment.status ≠ .changed := fun _ _ h =>
    Table.of_row_ofList (P := fun _ segment => segment.status ≠ .changed) (by decide +kernel) h
  have h := mixed_history Sample.db Sample.valid rfl hfresh Sample.mixedRequests s hs
  exact ⟨s, hs, hhistory, h.1⟩

end

end AgentsAtScale.Airline
