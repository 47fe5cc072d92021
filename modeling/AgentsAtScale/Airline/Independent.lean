import AgentsAtScale.Airline.OrmDeadlock
import AgentsAtScale.Airline.Undisturbed

namespace AgentsAtScale.Airline

open Transaction Transition

theorem FlightFare.addSeats_addSeats (fare : FlightFare) (n m : Int) :
    (fare.addSeats n).addSeats m = fare.addSeats (n + m) := by
  simp only [addSeats, Int.add_assoc]

theorem FlightFare.addSeats_zero (fare : FlightFare) : fare.addSeats 0 = fare := by
  simp only [addSeats, Int.add_zero]

theorem Db.passengersOf_nonneg (db : Db) (segmentId : UUID) : 0 ≤ db.passengersOf segmentId := by
  unfold passengersOf
  cases db.reservationOf segmentId with
  | none => exact le_rfl
  | some id => exact Int.natCast_nonneg _

section

variable {Tid : Type} (first : Db) (requests : Tid → Execution)

def headcount (mine : Tid → Prop) [DecidablePred mine] (done : Finset Tid) : Int :=
  ∑ t ∈ done, if mine t then first.passengersOf (requests t).segmentId else 0

def arriving (fare : UUID × UUID) (done : Finset Tid) : Int :=
  headcount first requests (fun t => (requests t).newFare = fare) done

def leaving (fare : UUID × UUID) (done : Finset Tid) : Int :=
  headcount first requests (fun t => first.fareOf (requests t).segmentId = some fare) done

/-- Each request would succeed alone, no two share a reservation or a travel credit, and
there are seats for all. -/
structure Independent [Fintype Tid] : Prop where
  commits : ∀ t, (requests t).commits first
  reservation : ∀ t u, first.reservationOf (requests t).segmentId =
    first.reservationOf (requests u).segmentId → t = u
  credit : ∀ t u id, (requests t).creditId = some id → (requests u).creditId = some id → t = u
  room : ∀ fare row, first.flightFares.row fare = some row →
    arriving first requests fare .univ ≤ row.availableSeats
  space : ∀ fare row, first.flightFares.row fare = some row →
    row.availableSeats + leaving first requests fare .univ < 2 ^ 31

structure Progress (done : Finset Tid) (db : Db) : Prop where
  catalog : db.catalog = first.catalog
  segment : ∀ t ∉ done, db.reservationSegments.row (requests t).segmentId =
    first.reservationSegments.row (requests t).segmentId
  moved : ∀ t ∈ done, ∃ segment, db.reservationSegments.row (requests t).segmentId = some segment ∧
    segment.status = .changed ∧ segment.fare = (requests t).newFare
  reservation : ∀ t ∉ done, ∀ id, first.reservationOf (requests t).segmentId = some id →
    db.reservations.row id = first.reservations.row id
  credit : ∀ t ∉ done, ∀ id, (requests t).creditId = some id →
    db.travelCredits.row id = first.travelCredits.row id
  fares : ∀ fare, db.flightFares.row fare = (first.flightFares.row fare).map
    (·.addSeats (leaving first requests fare done - arriving first requests fare done))

end

section

variable {Tid : Type} {first : Db} {requests : Tid → Execution} {mine : Tid → Prop} [DecidablePred mine]
  {done : Finset Tid} {t : Tid}

theorem headcount_term_nonneg (t : Tid) :
    0 ≤ if mine t then first.passengersOf (requests t).segmentId else 0 := by
  split
  · exact first.passengersOf_nonneg _
  · exact le_rfl

theorem headcount_nonneg : 0 ≤ headcount first requests mine done :=
  Finset.sum_nonneg fun t _ => headcount_term_nonneg t

theorem headcount_le [Fintype Tid] : headcount first requests mine done ≤ headcount first requests mine .univ :=
  Finset.sum_le_univ_sum_of_nonneg headcount_term_nonneg

theorem headcount_insert [DecidableEq Tid] (ht : t ∉ done) :
    headcount first requests mine (insert t done) = headcount first requests mine done +
      if mine t then first.passengersOf (requests t).segmentId else 0 := by
  rw [headcount, Finset.sum_insert ht, add_comm]
  rfl

theorem headcount_add_le [DecidableEq Tid] [Fintype Tid] (ht : t ∉ done) (hmine : mine t) :
    headcount first requests mine done + first.passengersOf (requests t).segmentId ≤
      headcount first requests mine .univ := by
  have hinsert : headcount first requests mine (insert t done) = _ := headcount_insert ht
  rw [if_pos hmine] at hinsert
  rw [← hinsert]
  exact headcount_le

theorem Independent.seats_bounds [Fintype Tid] (hi : Independent first requests) {key : UUID × UUID}
    {fare : FlightFare} (hfare : first.flightFares.row key = some fare) (done : Finset Tid) :
    0 ≤ leaving first requests key done ∧ 0 ≤ arriving first requests key done ∧
      arriving first requests key .univ ≤ fare.availableSeats ∧
      arriving first requests key done ≤ fare.availableSeats ∧
      fare.availableSeats + leaving first requests key .univ < 2 ^ 31 ∧
      fare.availableSeats + leaving first requests key done < 2 ^ 31 := by
  have harrive : arriving first requests key done ≤ arriving first requests key .univ := headcount_le
  have hleave : leaving first requests key done ≤ leaving first requests key .univ := headcount_le
  have hroom := hi.room key fare hfare
  have hspace := hi.space key fare hfare
  exact ⟨headcount_nonneg, headcount_nonneg, hroom, by omega, hspace, by omega⟩

variable [DecidableEq Tid] {db : Db}

theorem Progress.undisturbed [Fintype Tid] (hi : Independent first requests)
    (h : Progress first requests done db) (ht : t ∉ done) :
    Undisturbed first (requests t).footprint db where
  catalog := h.catalog
  segment := h.segment t ht
  reservation := h.reservation t ht
  credit := h.credit t ht
  fares fare := ⟨_, h.fares fare⟩
  room row hrow := by
    obtain ⟨fare, hfare, rfl⟩ := Option.map_eq_some_iff.mp ((h.fares (requests t).newFare).symm.trans hrow)
    obtain ⟨hleave, -, hroom, -, -, hspace⟩ := hi.seats_bounds hfare done
    have hcome : arriving first requests (requests t).newFare done +
        first.passengersOf (requests t).segmentId ≤ arriving first requests (requests t).newFare .univ :=
      headcount_add_le ht rfl
    have harrive : 0 ≤ arriving first requests (requests t).newFare done := headcount_nonneg
    simp only [Execution.footprint, FlightFare.addSeats]
    omega
  space key row hold hrow := by
    obtain ⟨fare, hfare, rfl⟩ := Option.map_eq_some_iff.mp ((h.fares key).symm.trans hrow)
    obtain ⟨hleave, harrive, -, hroom, hspace, -⟩ := hi.seats_bounds hfare done
    have hgo : leaving first requests key done + first.passengersOf (requests t).segmentId ≤
        leaving first requests key .univ := headcount_add_le ht hold
    simp only [Execution.footprint, FlightFare.addSeats]
    omega

omit [DecidableEq Tid] in
theorem Independent.segment [Fintype Tid] (hi : Independent first requests) {u : Tid} (hu : u ≠ t) :
    (requests u).segmentId ≠ (requests t).segmentId :=
  fun heq => hu (hi.reservation u t (congrArg first.reservationOf heq))

theorem Progress.step [Fintype Tid] (hi : Independent first requests)
    (h : Progress first requests done db) (b : Rebooking db) (hb : b.Requested (requests t))
    (total : Decimal) : t ∉ done ∧ Progress first requests (insert t done) (b.settled total) := by
  have ht : t ∉ done := by
    intro ht
    obtain ⟨segment, hrow, hchanged, hfare⟩ := h.moved t ht
    rw [← hb.segmentId] at hrow
    cases hrow.symm.trans b.segment_row
    exact b.notApplied hchanged (hfare.trans hb.newFare.symm)
  have hsegment : first.reservationSegments.row (requests t).segmentId = some b.segment := by
    rw [← h.segment t ht, ← hb.segmentId]
    exact b.segment_row
  have hother (u : Tid) (hu : u ≠ t) : (b.settled total).reservationSegments.row (requests u).segmentId =
      db.reservationSegments.row (requests u).segmentId := by
    simp only [Rebooking.settled, Rebooking.apply, Table.row_modify, hb.segmentId,
      if_neg (hi.segment hu), Option.map_id']
  refine ⟨ht, h.catalog, ?_, ?_, ?_, ?_, ?_⟩
  · intro u hu
    obtain ⟨hne, hu⟩ := not_or.mp (Finset.mem_insert.not.mp hu)
    rw [hother u hne, h.segment u hu]
  · intro u hu
    by_cases hne : u = t
    · subst hne
      refine ⟨b.segment.move b.newFlightId b.newFareClassId b.target.price, ?_, rfl, hb.newFare⟩
      simp only [Rebooking.settled, Rebooking.apply, Table.row_modify, hb.segmentId, h.segment u ht, hsegment,
        Option.map_some, if_true]
    · rw [hother u hne]
      exact h.moved u (Finset.mem_of_mem_insert_of_ne hu hne)
  · intro u hu id hid
    obtain ⟨hne, hu⟩ := not_or.mp (Finset.mem_insert.not.mp hu)
    rw [← h.reservation u hu id hid]
    apply Table.row_update_of_ne
    rintro rfl
    exact hne (hi.reservation u t (hid.trans (Db.reservationOf_of_row hsegment).symm))
  · intro u hu id hid
    obtain ⟨hne, hu⟩ := not_or.mp (Finset.mem_insert.not.mp hu)
    rw [← h.credit u hu id hid]
    simp only [Rebooking.settled, Rebooking.apply, hb.creditId]
    cases hcredit : (requests t).creditId with
    | none => rfl
    | some used =>
      have hid' : id ≠ used := by
        rintro rfl
        exact hne (hi.credit u t id hid hcredit)
      simp only [Option.elim_some, Table.row_modify, if_neg hid', Option.map_id']
  · intro fare
    have hcount : b.passengerCount = first.passengersOf (requests t).segmentId := by
      rw [Db.passengersOf_of_row hsegment, ← h.catalog]
      rfl
    have hold : first.fareOf (requests t).segmentId = some b.segment.fare := Db.fareOf_of_row hsegment
    simp only [Rebooking.settled, Rebooking.apply, Table.row_modify, h.fares, hb.newFare, hcount,
      Option.map_map, leaving, arriving, headcount_insert ht, hold, Option.some.injEq]
    congr 1
    funext row
    simp only [Function.comp_apply, eq_comm (a := fare)]
    by_cases hnew : (requests t).newFare = fare <;> by_cases hleft : b.segment.fare = fare <;>
      simp only [hnew, hleft, if_true, if_false, FlightFare.addSeats_addSeats] <;> congr 1 <;> omega

omit [DecidableEq Tid] in
theorem progress_start : Progress first requests ∅ first where
  catalog := rfl
  segment _ _ := rfl
  moved t ht := absurd ht (Finset.notMem_empty t)
  reservation _ _ _ _ := rfl
  credit _ _ _ _ := rfl
  fares fare := by
    simp only [leaving, arriving, headcount, Finset.sum_empty, sub_zero, FlightFare.addSeats_zero,
      Option.map_id']

theorem progress_of_staleSerial [Fintype Tid] (hfirst : first.Valid) (hi : Independent first requests)
    {history : List (Tid × RebookingResult)}
    (h : StaleSerial first.Admits (fun t => (requests t).transaction first.catalog) first history db) :
    (history.map Prod.fst).Nodup ∧ Progress first requests (history.map Prod.fst).toFinset db := by
  induction h with
  | nil => exact ⟨.nil, progress_start⟩
  | @snoc history db t result after hserial hcommits ih =>
    have hwithin := (retraced_of_staleSerial hfirst hserial).within
    obtain ⟨b, hb, ⟨total, rfl⟩, -⟩ := Execution.stale_transaction hwithin hcommits
    obtain ⟨ht, hprogress⟩ := ih.2.step hi b hb total
    rw [List.mem_toFinset] at ht
    constructor
    · rw [List.map_append, List.map_singleton]
      exact List.concat_eq_append ▸ ih.1.concat ht
    · rwa [List.map_append, List.map_singleton, List.toFinset_append, Finset.union_comm]

section

variable [Fintype Tid] {s : MixedSystem Tid}

theorem Independent.progress (hi : Independent first requests) (hfirst : first.Valid)
    (h : Reaches (Sys.step fun t => (requests t).transaction first.catalog) (Sys.start first) s) :
    (s.history.map Prod.fst).Nodup ∧
      Progress first requests (s.history.map Prod.fst).toFinset s.committed :=
  progress_of_staleSerial hfirst hi
    (Sys.staleSerial_of_reaches (fun t => (requests t).ensures_transaction) hfirst.admits h)

theorem Independent.undisturbed (hi : Independent first requests) (hfirst : first.Valid)
    (h : Reaches (Sys.step fun t => (requests t).transaction first.catalog) (Sys.start first) s)
    (ht : t ∉ s.history.map Prod.fst) : Undisturbed first (requests t).footprint s.committed :=
  (hi.progress hfirst h).2.undisturbed hi (by rwa [List.mem_toFinset])

theorem Independent.not_failed (hi : Independent first requests) (hfirst : first.Valid)
    (h : Reaches (Sys.step fun t => (requests t).transaction first.catalog) (Sys.start first) s)
    (ht : t ∉ s.history.map Prod.fst)
    {x : Active RowKey Row FlightChange (Go.ExecuteError ⊕ Python.ExecuteError) RebookingResult}
    (hx : s.active t = some x) (e : Go.ExecuteError ⊕ Python.ExecuteError) :
    x.returned ≠ some (.error e) := by
  intro hreturned
  have hreplayed : s.Replayed (View first (requests t).footprint) _ t :=
    Sys.replayed_of_view (fun t => (requests t).ensures_transaction) hfirst.admits
      (fun t => (requests t).freshReads_transaction first.catalog)
      (fun s h ht => (hi.undisturbed hfirst h ht).view) h ht
  obtain ⟨a, ha⟩ := hreplayed.succeeds
    (Execution.surely_transaction (hi.undisturbed hfirst h ht) (hi.commits t)) hx hreturned
  cases ha

end

/-- The rebookings lock rows in an order that they agree on: the SQLAlchemy repository carries out
all of them, or the other two do and they can be ranged in levels. -/
inductive Ordered (db : Db) (requests : Tid → Execution) : Prop
  | orm : (∀ t, ∃ now selection, requests t = .orm now selection) → Ordered db requests
  | sql (sql : Tid → SqlExecution) (level : Tid → ℕ) :
      Layered db sql level → (∀ t, requests t = (sql t).execution) → Ordered db requests

theorem Ordered.not_deadlocked {db : Db} {s : MixedSystem Tid} (hordered : Ordered db requests)
    (h : Reaches (Sys.step fun t => (requests t).transaction db.catalog) (Sys.start db) s) :
    ¬s.Deadlocked := by
  cases hordered with
  | orm horm =>
    choose now selection horm using horm
    have htracked : s.Tracked (fun _ _ => True) (fun _ => Orm.MayLock) (fun _ _ => True) := by
      refine Sys.tracked_of_reach (fun t => ?_) (fun _ => trivial) (fun _ _ _ _ _ _ h => h)
        (fun _ _ _ => trivial) h
      rw [horm t]
      exact .adapt (Orm.ascends_execute db.catalog (now t) (selection t))
    exact htracked.not_deadlocked (fun _ => Orm.lockRank) (fun _ _ _ h => h)
      fun _ _ _ _ _ _ _ _ => le_rfl
  | sql sql level hlevel hsql =>
    have htransaction (t : Tid) : (requests t).transaction db.catalog = (sql t).transaction db.catalog := by
      rw [hsql t]
      cases sql t <;> rfl
    simp only [htransaction] at h
    exact hlevel.not_deadlocked h

end

namespace Sample

end Sample

end AgentsAtScale.Airline
