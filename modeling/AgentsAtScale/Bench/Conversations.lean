import AgentsAtScale.Bench.Seed

namespace AgentsAtScale.Bench

open Airline Data Transaction Transition

def selection (seeded : Ids) (noCredit : γ) : Option (RebookingSelection γ) := do
  let segmentId ← Uuid.parse seeded.segmentId
  let newFlightId ← Uuid.parse seeded.newFlightId
  let newFareClassId ← Uuid.parse fareClassText
  return ⟨segmentId, newFlightId, newFareClassId, noCredit, 0⟩

inductive Asks (seeded : Ids) : Execution → Prop
  | go (now : Timestamp) {s : RebookingSelection UUID} (h : selection seeded nilUUID = some s) :
    Asks seeded (.go now s)
  | asyncpg (now : Timestamp) {s : RebookingSelection (Option UUID)} (h : selection seeded none = some s) :
    Asks seeded (.asyncpg now s)
  | orm (now : Timestamp) {s : RebookingSelection (Option UUID)} (h : selection seeded none = some s) :
    Asks seeded (.orm now s)

structure Prepared (db : Db) (selection : RebookingSelection γ) where
  reservationId : UUID
  flightId : UUID
  bookingReference : String
  customerId : UUID
  origin : String
  destination : String
  departureAt : Timestamp
  newDepartureAt : Timestamp
  segment_row : db.reservationSegments.row selection.segmentId =
    some ⟨reservationId, flightId, selection.newFareClassId, .confirmed, 200, "USD"⟩
  reservation_row : db.reservations.row reservationId =
    some ⟨bookingReference, customerId, .confirmed, 200, "USD"⟩
  flight_row : db.catalog.flights.row flightId = some ⟨origin, destination, departureAt, .scheduled⟩
  newFlight_row : db.catalog.flights.row selection.newFlightId =
    some ⟨origin, destination, newDepartureAt, .scheduled⟩
  fareClass_row : db.catalog.fareClasses.row selection.newFareClassId = some ⟨true, 0⟩
  fare_row : db.flightFares.row (flightId, selection.newFareClassId) = some ⟨200, "USD", 1000000000⟩
  newFare_row : db.flightFares.row (selection.newFlightId, selection.newFareClassId) =
    some ⟨200, "USD", 1000000000⟩
  passengerCount : db.catalog.passengerCount reservationId = 1
  segmentId_ne : selection.segmentId ≠ nilUUID
  amount : selection.travelCreditAmount = 0

namespace Prepared

variable {db : Db} {selection : RebookingSelection γ}

def rows (p : Prepared db selection) : SelectedRows db { selection with travelCreditId := none } where
  segment := _
  reservation := _
  flight := _
  fareClass := _
  target := _
  targetFlight := _
  targetFareClass := _
  segment_row := p.segment_row
  reservation_row := p.reservation_row
  flight_row := p.flight_row
  fareClass_row := p.fareClass_row
  target_row := p.newFare_row
  targetFlight_row := p.newFlight_row
  targetFareClass_row := p.fareClass_row

def rebooking (p : Prepared db selection) : Rebooking db where
  segmentId := selection.segmentId
  segment := _
  reservation := _
  newFlightId := selection.newFlightId
  newFareClassId := selection.newFareClassId
  target := _
  fareClass := _
  travelCreditId := none
  travelCreditUsed := 0
  segment_row := p.segment_row
  reservation_row := p.reservation_row
  target_row := p.newFare_row
  fareClass_row := p.fareClass_row
  notApplied h := by cases h
  passengers := by
    dsimp only
    rw [p.passengerCount]
    decide
  seats := by
    dsimp only
    rw [p.passengerCount]
    decide
  due := by simp
  noCredit _ := rfl
  credit _ h := by cases h

theorem movable (p : Prepared db selection) : p.rebooking.Movable := by
  have hcount : p.rebooking.passengerCount = 1 := p.passengerCount
  refine ⟨?_, ?_, isNumeric_fare, ?_⟩
  · rw [hcount]
    exact (by decide : IsInteger (1000000000 - 1))
  · intro fare hfare
    have hold : p.rebooking.segment.fare = (p.flightId, selection.newFareClassId) := rfl
    rw [Table.row_modify, hold, p.fare_row, hcount] at hfare
    rw [hcount]
    cases hfare
    dsimp only
    split <;> decide
  · exact (by decide +kernel : IsNumeric (200 + (200 - 200 + 0 - 0)))

theorem recordable (p : Prepared db selection) : p.rebooking.Recordable where
  credit _ _ h := by cases h
  change := (by decide +kernel : IsNumeric (200 - 200) ∧ IsNumeric 0 ∧ IsNumeric 0)

theorem snapshot_validation (p : Prepared db selection) :
    p.rows.snapshot.validation selection 0 = p.rebooking.validation selection := by
  simp only [RebookingSnapshot.validation, Rebooking.validation, p.amount]
  rfl

theorem go_validate {selection : RebookingSelection UUID} (p : Prepared db selection)
    (hcredit : selection.travelCreditId = nilUUID) (now : Timestamp) :
    Go.dialect.validate now selection p.rows.snapshot none = .ok (p.rebooking.validation selection) := by
  apply mapError_eq_ok.mpr
  have hamount : Go.amountDue p.rows.snapshot = 0 := by
    simp [Go.amountDue, RebookingSnapshot.fareDifference, SelectedRows.snapshot, rows]
  simp only [Go.validateRebookingSelection, guard_eq_ok, hamount, p.amount, p.snapshot_validation]
  simp [SelectedRows.snapshot, rows, p.segmentId_ne, p.passengerCount, Go.creditInvalid, hcredit, p.amount]

theorem python_validate {selection : RebookingSelection (Option UUID)} (p : Prepared db selection)
    (hcredit : selection.travelCreditId = none) (now : Timestamp) :
    Python.validate now selection p.rows.snapshot none = .ok (p.rebooking.validation selection) := by
  apply mapError_eq_ok.mpr
  have hamount : Python.amountDue p.rows.snapshot = 0 := by
    simp [Python.amountDue, RebookingSnapshot.fareDifference, SelectedRows.snapshot, rows]
  simp only [Python.validateRebookingSelection, guard_eq_ok, hamount, p.amount, p.snapshot_validation]
  simp [SelectedRows.snapshot, rows, p.passengerCount, Python.creditInvalid, hcredit, p.amount]

theorem run_snapshot (p : Prepared db selection) {d : Dialect γ ε}
    (hcredit : d.creditId selection.travelCreditId = none) :
    run (d.snapshot db.catalog selection).run db = (.ok (p.rows.snapshot, none), db) := by
  simp only [Dialect.snapshot, Dialect.exec, getRebookingSegmentForUpdate, getRebookingTargetForUpdate,
    adapt_lockRow_bind, adapt_pure, bind_assoc, pure_bind, run_lockRow_bind, Db.fetch_eq, Db.fetch,
    p.segment_row, p.reservation_row, p.flight_row, p.fareClass_row, p.newFare_row, p.newFlight_row,
    Option.map_some, hcredit]
  rfl

theorem go_commits {selection : RebookingSelection UUID} (p : Prepared db selection)
    (hcredit : selection.travelCreditId = nilUUID) (now : Timestamp) :
    (Execution.go now selection).commits db = true := by
  have hnone : Go.dialect.creditId selection.travelCreditId = none := by
    rw [hcredit]
    rfl
  have h := Dialect.yields_execute (d := Go.dialect) (E := fun _ => True) (fun _ _ => trivial)
    (p.run_snapshot hnone) (p.go_validate hcredit now) rfl hnone p.amount
  have hok := h.atomically_ok ⟨p.movable, p.recordable⟩
  simp only [Execution.commits, Go.execute, hok]
  rfl

section

variable {selection : RebookingSelection (Option UUID)}

theorem asyncpg_commits (p : Prepared db selection) (hcredit : selection.travelCreditId = none)
    (now : Timestamp) : (Execution.asyncpg now selection).commits db = true := by
  have h := Asyncpg.yields_execute (p.run_snapshot (d := Asyncpg.dialect) hcredit)
    (p.python_validate hcredit now) rfl hcredit p.amount
  simp only [Execution.commits, h.atomically_ok ⟨p.movable, p.recordable⟩]
  rfl

theorem orm_commits (p : Prepared db selection) (hcredit : selection.travelCreditId = none)
    (now : Timestamp) : (Execution.orm now selection).commits db = true := by
  have hs : run (Orm.snapshot db.catalog selection true).run db = (.ok (p.rows.snapshot, none), db) := by
    obtain ⟨_, _, _, credit, _⟩ := selection
    obtain rfl : credit = none := hcredit
    exact p.rows.run_ormSnapshot true
  have h := Orm.yields_execute hs (p.python_validate hcredit now) rfl rfl hcredit p.amount
  have hsold : (db.flightFares.row p.rebooking.segment.fare).isSome := Option.isSome_of_eq_some p.fare_row
  simp only [Execution.commits, h.atomically_ok ⟨hsold, p.movable, p.recordable⟩]
  rfl

end

end Prepared

theorem Benchmark.Dealing.first_le {n : ℕ} {args : Args} {bench : Benchmark n}
    (h : bench.Dealing args) {i : ℤ} (hi : i ∈ bench.indices) : args.firstIndex ≤ i := by
  obtain ⟨⟨shard, i⟩, htaken, rfl⟩ := List.mem_map.mp hi
  exact ((h.mem_taken shard i).mp htaken).1.first_le

theorem ids_eq {i groups : ℕ} (hsmall : i < 10 ^ 12) {seeded : Ids}
    (h : ids i groups = .ok seeded) :
    0 < groups ∧ seeded.segmentId = idText 6 0 i ∧ seeded.newFlightId = idText 1 1 (i % groups) := by
  unfold ids at h
  split at h
  · cases h
  · rename_i hgroups
    cases h
    have hmod : (i : ℤ).fmod groups = ((i % groups : ℕ) : ℤ) := by
      rw [Int.fmod_eq_emod_of_nonneg _ (Int.natCast_nonneg _), Int.natCast_mod]
    have hle : i % groups < 10 ^ 12 := (Nat.mod_le i groups).trans_lt hsmall
    refine ⟨by omega, ?_, ?_⟩
    · dsimp only
      rw [← lpad_eq_zeroPadded (by decide) hsmall]
      rfl
    · dsimp only
      rw [hmod, ← lpad_eq_zeroPadded (by decide) hle]
      rfl

section

variable {conversations groups i : ℕ} {db : Db} {seeded : Ids}

theorem Seeded.prepared (h : Seeded conversations groups db) (hi : 1 ≤ i ∧ i ≤ conversations)
    (hids : ids i groups = .ok seeded) {noCredit : γ} {s : RebookingSelection γ}
    (hs : selection seeded noCredit = some s) :
    ∃ p : Prepared db s, Uuid.parse (idText 5 0 i) = some p.reservationId ∧
      Uuid.parse (idText 1 0 (i % groups)) = some p.flightId ∧
      Uuid.parse (idText 1 1 (i % groups)) = some s.newFlightId ∧ s.travelCreditId = noCredit := by
  obtain ⟨hgroups, hsegment, hflight⟩ := ids_eq (h.lt_of_le hi.2) hids
  simp only [selection, hsegment, hflight, Option.bind_eq_bind, Option.bind_eq_some_iff, Option.pure_def,
    Option.some.injEq] at hs
  obtain ⟨segmentId, hsegmentId, newFlightId, hnewFlight, fareClassId, hclass, rfl⟩ := hs
  obtain ⟨-, reservationId, flightId, _, hreservation, hold, hclass', hrow⟩ := h.segment hi hsegmentId
  cases hclass.symm.trans hclass'
  obtain ⟨customerId, hrow'⟩ := h.reservation hi hreservation
  have hg := Nat.mod_lt i hgroups
  refine ⟨?_, ?_⟩
  · exact {
      reservationId := reservationId
      flightId := flightId
      bookingReference := _
      customerId := customerId
      origin := _
      destination := _
      departureAt := _
      newDepartureAt := _
      segment_row := hrow
      reservation_row := hrow'
      flight_row := h.flight hg (by decide) hold
      newFlight_row := h.flight hg (by decide) hnewFlight
      fareClass_row := h.fareClass hclass
      fare_row := h.flightFare hg (by decide) hold hclass
      newFare_row := h.flightFare hg (by decide) hnewFlight hclass
      passengerCount := h.passengerCount hi hreservation
      segmentId_ne := by
        rintro rfl
        exact parse_idText_ne_nil (by decide) (by decide) hsegmentId
      amount := rfl }
  · exact ⟨hreservation, hold, hnewFlight, rfl⟩

variable {e : Execution}

theorem Prepared.reservationOf {s : RebookingSelection γ} (p : Prepared db s) :
    db.reservationOf s.segmentId = some p.reservationId :=
  Db.reservationOf_of_row p.segment_row

/-- The rebooking of a conversation succeeds alone.  It is for the one passenger of its reservation
and leads from the first to the second flight of its group. -/
structure Served (db : Db) (groups i : ℕ) (e : Execution) : Prop where
  commits : e.commits db = true
  creditId : e.creditId = none
  passengers : db.passengersOf e.segmentId = 1
  reservation : ∃ id, Uuid.parse (idText 5 0 i) = some id ∧ db.reservationOf e.segmentId = some id
  original : ∃ fare, Uuid.parse (idText 1 0 (i % groups)) = some fare.1 ∧ db.fareOf e.segmentId = some fare
  target : Uuid.parse (idText 1 1 (i % groups)) = some e.newFare.1

theorem Seeded.served (h : Seeded conversations groups db) (hi : 1 ≤ i ∧ i ≤ conversations)
    (hids : ids i groups = .ok seeded) (ha : Asks seeded e) : Served db groups i e := by
  have hone {γ : Type} {s : RebookingSelection γ} (p : Prepared db s) : db.passengersOf s.segmentId = 1 :=
    (Db.passengersOf_of_row p.segment_row).trans p.passengerCount
  have hfare {γ : Type} {s : RebookingSelection γ} (p : Prepared db s) :
      db.fareOf s.segmentId = some (p.flightId, s.newFareClassId) := Db.fareOf_of_row p.segment_row
  cases ha with
  | go now hs =>
    obtain ⟨p, hp, hold, hnew, hcredit⟩ := h.prepared hi hids hs
    exact ⟨p.go_commits hcredit now, congrArg goCredit hcredit, hone p, ⟨_, hp, p.reservationOf⟩,
      ⟨_, hold, hfare p⟩, hnew⟩
  | asyncpg now hs =>
    obtain ⟨p, hp, hold, hnew, hcredit⟩ := h.prepared hi hids hs
    exact ⟨p.asyncpg_commits hcredit now, hcredit, hone p, ⟨_, hp, p.reservationOf⟩, ⟨_, hold, hfare p⟩, hnew⟩
  | orm now hs =>
    obtain ⟨p, hp, hold, hnew, hcredit⟩ := h.prepared hi hids hs
    exact ⟨p.orm_commits hcredit now, hcredit, hone p, ⟨_, hp, p.reservationOf⟩, ⟨_, hold, hfare p⟩, hnew⟩

end

section

variable {conversations groups : ℕ} {db : Db} {Tid : Type} [Fintype Tid] {index : Tid → ℕ}
  {requests : Tid → Execution}

theorem card_le_conversations (hindex : index.Injective)
    (hrange : ∀ t, 1 ≤ index t ∧ index t ≤ conversations) : Fintype.card Tid ≤ conversations := by
  have hcard := Finset.card_le_card_of_injOn (s := .univ) (t := .Icc 1 conversations) index
    (fun t _ => Finset.mem_coe.mpr (Finset.mem_Icc.mpr (hrange t))) hindex.injOn
  rwa [Finset.card_univ, Nat.card_Icc, Nat.add_sub_cancel] at hcard

theorem headcount_le_card (hone : ∀ t, db.passengersOf (requests t).segmentId = 1) (mine : Tid → Prop)
    [DecidablePred mine] (done : Finset Tid) : headcount db requests mine done ≤ Fintype.card Tid := by
  have hle : headcount db requests mine done ≤ ∑ _t ∈ done, 1 := by
    apply Finset.sum_le_sum
    intro t _
    rw [hone t]
    split <;> decide
  have hcard : (done.card : ℤ) ≤ Fintype.card Tid := by exact_mod_cast Finset.card_le_univ done
  simpa using hle.trans (by simpa using hcard)

theorem Seeded.fare_row (h : Seeded conversations groups db) {fare : UUID × UUID} {row : FlightFare}
    (hrow : db.flightFares.row fare = some row) : row.availableSeats = 1000000000 := by
  obtain ⟨_, -, hr⟩ := Table.exists_of_insertSelect h.flightFares hrow
  rw [(flightFareRow_eq_some hr).2.2]

theorem Seeded.independent (h : Seeded conversations groups db) (hindex : index.Injective)
    (hrange : ∀ t, 1 ≤ index t ∧ index t ≤ conversations)
    (hserved : ∀ t, Served db groups (index t) (requests t)) : Independent db requests := by
  have hone (t : Tid) := (hserved t).passengers
  have hcard := card_le_conversations hindex hrange
  have hsmall := h.small
  refine ⟨fun t => (hserved t).commits, ?_, ?_, ?_, ?_⟩
  · intro t u heq
    obtain ⟨id, hparse, hid⟩ := (hserved t).reservation
    obtain ⟨id', hparse', hid'⟩ := (hserved u).reservation
    obtain rfl : id = id' := Option.some.inj (hid.symm.trans (heq.trans hid'))
    exact hindex (idText_inj (by decide) (h.lt_of_le (hrange t).2) (h.lt_of_le (hrange u).2) hparse hparse')
  · intro t u id ht
    rw [(hserved t).creditId] at ht
    cases ht
  · intro fare row hrow
    have hle := headcount_le_card hone (fun t => (requests t).newFare = fare) .univ
    rw [h.fare_row hrow]
    exact hle.trans (by omega)
  · intro fare row hrow
    have hle := headcount_le_card hone (fun t => db.fareOf (requests t).segmentId = some fare) .univ
    rw [h.fare_row hrow]
    exact (Int.add_le_add_left hle _).trans_lt (by omega)

theorem Seeded.seats_left (h : Seeded conversations groups db) (hcard : Fintype.card Tid ≤ conversations)
    (hone : ∀ t, db.passengersOf (requests t).segmentId = 1) {done : Finset Tid} {db' : Db}
    (hprogress : Progress db requests done db') {fare : UUID × UUID} {row : FlightFare}
    (hrow : db'.flightFares.row fare = some row) : 1000000000 - conversations ≤ row.availableSeats := by
  rw [hprogress.fares, Option.map_eq_some_iff] at hrow
  obtain ⟨first, hfirst, rfl⟩ := hrow
  have harrive : arriving db requests fare done ≤ Fintype.card Tid := headcount_le_card hone _ done
  have hleave : 0 ≤ leaving db requests fare done := headcount_nonneg
  rw [FlightFare.addSeats, h.fare_row hfirst]
  dsimp only
  omega

theorem layered_served (hserved : ∀ t, Served db groups (index t) (requests t))
    (hi : Independent db requests) {sql : Tid → SqlExecution} (hsql : ∀ t, requests t = (sql t).execution) :
    Layered db sql fun _ => 0 := by
  have hsegment (t : Tid) : (sql t).footprint.segmentId = (requests t).segmentId := by
    rw [hsql t]
    cases sql t <;> rfl
  have hfare (t : Tid) : (sql t).footprint.newFare = (requests t).newFare := by
    rw [hsql t]
    cases sql t <;> rfl
  refine ⟨fun _ _ _ => rfl, fun _ _ _ _ _ => rfl, fun _ _ _ => rfl, fun _ _ _ _ _ => rfl, ?_⟩
  intro t u horiginal hne _
  exfalso
  rw [hsegment, hfare] at horiginal
  rcases horiginal with hrow | ⟨v, hv, hnew⟩
  · obtain ⟨fare, hold, hfareOf⟩ := (hserved t).original
    obtain rfl : fare = (requests u).newFare := Option.some.inj (hfareOf.symm.trans hrow)
    have hlegs := parse_idText_inj (by decide) (by decide) (by decide) hold (hserved u).target
    exact absurd hlegs.1 (by decide)
  · rw [hsegment] at hv
    obtain rfl : v = t := hi.reservation v t (congrArg db.reservationOf hv)
    rw [hfare] at hnew
    exact hne (by rw [hfare, hfare, hnew])

end

section

variable {n conversations : ℕ} {args : Args} {events : List (Event n)}

theorem index_range (hfirst : 1 ≤ args.firstIndex) (hseeded : args.seeded ≤ conversations)
    (t : {i // i ∈ (Benchmark.run args events).indices}) :
    (1 ≤ t.1.toNat ∧ t.1.toNat ≤ conversations) ∧ (t.1.toNat : ℤ) = t.1 := by
  have hdealing : (Benchmark.run args events).Dealing args := (Benchmark.dealing_start args).foldl events
  have hle := hdealing.first_le t.2
  have hseeded' := hdealing.seeded _ t.2
  omega

theorem toNat_index_injective (hfirst : 1 ≤ args.firstIndex) (hseeded : args.seeded ≤ conversations) :
    Function.Injective fun t : {i // i ∈ (Benchmark.run args events).indices} => t.1.toNat := by
  intro t u heq
  have ht := (index_range hfirst hseeded t).2
  have hu := (index_range hfirst hseeded u).2
  dsimp only at heq
  exact Subtype.ext (by omega)

end

theorem benchmark_never_fails {conversations groups n : ℕ} {db : Db}
    (hseed : seed conversations groups = some db) (args : Args) (hfirst : 1 ≤ args.firstIndex)
    (hseeded : args.seeded ≤ conversations) (hgroups : args.groups = groups) (events : List (Event n))
    (requests : {i // i ∈ (Benchmark.run args events).indices} → Execution)
    (hasks : ∀ t, ∃ seeded, ids t.1 args.groups = .ok seeded ∧ Asks seeded (requests t))
    (hruntimes : (∀ t, ∃ now selection, requests t = .orm now selection) ∨
      ∀ t, ∃ e : SqlExecution, requests t = e.execution)
    (s : MixedSystem {i // i ∈ (Benchmark.run args events).indices})
    (h : Reaches (Sys.step fun t => (requests t).transaction db.catalog) (Sys.start db) s) :
    ¬s.Deadlocked ∧
    (∀ t x e, t ∉ s.history.map Prod.fst → s.active t = some x → x.returned ≠ some (.error e)) ∧
    (s.history.map Prod.fst).Nodup ∧
    (∀ t ∈ s.history.map Prod.fst, ∃ segment,
      s.committed.reservationSegments.row (requests t).segmentId = some segment ∧
        segment.status = .changed ∧ segment.fare = (requests t).newFare) ∧
    ∀ fare row, s.committed.flightFares.row fare = some row →
      1000000000 - conversations ≤ row.availableSeats := by
  have hdb := seeded_of_seed hseed
  have hrange (t : {i // i ∈ (Benchmark.run args events).indices}) := index_range hfirst hseeded t
  have hindex : Function.Injective fun t : {i // i ∈ (Benchmark.run args events).indices} => t.1.toNat :=
    toNat_index_injective hfirst hseeded
  have hserved (t : {i // i ∈ (Benchmark.run args events).indices}) :
      Served db groups t.1.toNat (requests t) := by
    obtain ⟨seeded, hids, ha⟩ := hasks t
    rw [← (hrange t).2, hgroups] at hids
    exact hdb.served (hrange t).1 hids ha
  have hi := hdb.independent hindex (fun t => (hrange t).1) hserved
  have hordered : Ordered db requests := by
    obtain horm | hsql := hruntimes
    · exact .orm horm
    · choose sql hsql using hsql
      exact .sql sql _ (layered_served hserved hi hsql) hsql
  obtain ⟨hnodup, hprogress⟩ := hi.progress hdb.valid h
  refine ⟨hordered.not_deadlocked h, fun t x e ht hx => hi.not_failed hdb.valid h ht hx e, hnodup, ?_, ?_⟩
  · intro t ht
    exact hprogress.moved t (List.mem_toFinset.mpr ht)
  · intro fare row hrow
    have hcard := card_le_conversations hindex fun t => (hrange t).1
    exact hdb.seats_left hcard (fun t => (hserved t).passengers) hprogress hrow

namespace Sample

def seeded : Db := (seed 2 1).getD Airline.Sample.db

theorem seed_eq_some : seed 2 1 = some seeded := by
  have hsome : (seed 2 1).isSome := isSome_seed (by decide) (by decide) (.inr (by decide))
  obtain ⟨db, h⟩ := Option.isSome_iff_exists.mp hsome
  rw [seeded, h, Option.getD_some]

def args : Args := { seeded := 2, groups := 1 }

def taking : List (Event 1) := [.take 0, .take 0]

abbrev Conversation : Type := {i // i ∈ (Benchmark.run args taking).indices}

def first : Conversation := ⟨1, by decide⟩

def second : Conversation := ⟨2, by decide⟩

def asking (t : Conversation) : Execution :=
  if t = first then
    .orm 0 ⟨0xb6000000000000000000000000000001, 0xb1100000000000000000000000000000,
      0xb0000000000000000000000000000001, none, 0⟩
  else
    .orm 0 ⟨0xb6000000000000000000000000000002, 0xb1100000000000000000000000000000,
      0xb0000000000000000000000000000001, none, 0⟩

theorem asks_asking (t : Conversation) :
    ∃ seeded, ids t.1 args.groups = .ok seeded ∧ Asks seeded (asking t) := by
  have hcases : ∀ i ∈ (Benchmark.run args taking).indices, i = 1 ∨ i = 2 := by decide
  obtain rfl | rfl : t = first ∨ t = second := (hcases t.1 t.2).imp Subtype.ext Subtype.ext
  · exact ⟨_, rfl, .orm 0 (by decide +kernel)⟩
  · exact ⟨_, rfl, .orm 0 (by decide +kernel)⟩

theorem orm_asking (t : Conversation) : ∃ now selection, asking t = .orm now selection := by
  unfold asking
  split
  · exact ⟨_, _, rfl⟩
  · exact ⟨_, _, rfl⟩

end Sample

theorem benchmark_never_fails_sample :
    ∃ s x, Reaches (Sys.step fun t => (Sample.asking t).transaction Sample.seeded.catalog)
        (Sys.start Sample.seeded) s ∧
      s.history.map Prod.fst = [Sample.first] ∧ s.active Sample.second = some x ∧ x.returned.isSome ∧
      ∀ e, x.returned ≠ some (.error e) := by
  obtain ⟨s, hs, hend⟩ := reach_of_any
    (Sys.step fun t => (Sample.asking t).transaction Sample.seeded.catalog) (fun _ _ => True)
    (Sys.start Sample.seeded)
    ([.begin Sample.second, .begin Sample.first] ++ List.replicate 3 (.exec Sample.second) ++
      List.replicate 18 (.exec Sample.first) ++ [.commit Sample.first] ++
      List.replicate 15 (.exec Sample.second))
    (fun s => s.history.map Prod.fst = [Sample.first] ∧
      (s.active Sample.second).any fun x => x.returned.isSome)
    (by decide +kernel)
  rw [decide_eq_true_eq] at hend
  obtain ⟨hhistory, hend⟩ := hend
  cases hx : s.active Sample.second with
  | none => simp [hx] at hend
  | some x =>
    have h := benchmark_never_fails Sample.seed_eq_some Sample.args (by decide) (by decide) rfl
      Sample.taking Sample.asking Sample.asks_asking (.inl Sample.orm_asking) s hs
    refine ⟨s, x, hs, hhistory, hx, by simpa [hx] using hend, fun e => h.2.1 _ x e ?_ hx⟩
    rw [hhistory]
    decide

end AgentsAtScale.Bench
