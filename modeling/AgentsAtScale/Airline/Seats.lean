import AgentsAtScale.Airline.ExecuteLaws

namespace AgentsAtScale.Airline

open Transaction

namespace Db

def placed (db : Db) (fare : UUID × UUID) : Int :=
  db.reservationSegments.sum fun _ segment =>
    if segment.fare = fare then db.catalog.passengerCount segment.reservationId else 0

/-- Available and taken seats of a fare. -/
def seats (db : Db) (fare : UUID × UUID) : Option Int :=
  (db.flightFares.row fare).map fun ff => ff.availableSeats + db.placed fare

end Db

namespace Rebooking

variable {db : Db}

theorem placed_apply (b : Rebooking db) (fare : UUID × UUID) :
    b.apply.placed fare + (if b.segment.fare = fare then b.passengerCount else 0) =
      db.placed fare + (if b.newFare = fare then b.passengerCount else 0) :=
  Table.sum_modify b.segment_row _ _

theorem availableSeats_apply (b : Rebooking db) (fare : UUID × UUID) :
    (b.apply.flightFares.row fare).map FlightFare.availableSeats =
      (db.flightFares.row fare).map fun ff =>
        ff.availableSeats - (if b.newFare = fare then b.passengerCount else 0) +
          (if b.segment.fare = fare then b.passengerCount else 0) := by
  simp only [apply, Table.row_modify, Option.map_map, eq_comm (a := fare)]
  congr 1
  funext ff
  by_cases hnew : b.newFare = fare
  · by_cases hold : b.segment.fare = fare
    · simp [hnew, hold, FlightFare.addSeats]
    · simp [hnew, hold, FlightFare.addSeats, sub_eq_add_neg]
  · by_cases hold : b.segment.fare = fare
    · simp [hnew, hold, FlightFare.addSeats]
    · simp [hnew, hold]

theorem seats_apply (b : Rebooking db) (fare : UUID × UUID) : b.apply.seats fare = db.seats fare := by
  have hplaced := b.placed_apply fare
  calc b.apply.seats fare
      = ((b.apply.flightFares.row fare).map FlightFare.availableSeats).map
          (· + b.apply.placed fare) := by rw [Option.map_map]; rfl
    _ = (db.flightFares.row fare).map fun ff =>
          ff.availableSeats - (if b.newFare = fare then b.passengerCount else 0) +
            (if b.segment.fare = fare then b.passengerCount else 0) + b.apply.placed fare := by
        rw [b.availableSeats_apply, Option.map_map]; rfl
    _ = db.seats fare := by
        unfold Db.seats
        congr 1
        funext ff
        omega

theorem availableSeats_nonneg (b : Rebooking db)
    (h : ∀ fare ff, db.flightFares.row fare = some ff → 0 ≤ ff.availableSeats)
    (fare : UUID × UUID) (ff : FlightFare) (hff : b.apply.flightFares.row fare = some ff) :
    0 ≤ ff.availableSeats := by
  have hseats := b.availableSeats_apply fare
  rw [hff, Option.map_some, eq_comm, Option.map_eq_some_iff] at hseats
  obtain ⟨ff₀, hff₀, hseats⟩ := hseats
  have hpos := b.passengers
  have hroom := b.seats
  rw [← hseats]
  change 0 < b.passengerCount at hpos
  change b.passengerCount ≤ b.target.availableSeats at hroom
  have h₀ := h fare ff₀ hff₀
  by_cases hnew : b.newFare = fare
  · subst hnew
    cases b.target_row.symm.trans hff₀
    simp only [if_true]
    split <;> omega
  · simp only [hnew, if_false]
    split <;> omega

end Rebooking

theorem performAll_seats (db : Db) (es : List Execution) :
    (∀ fare, (Execution.performAll db es).seats fare = db.seats fare) ∧
    ((∀ fare ff, db.flightFares.row fare = some ff → 0 ≤ ff.availableSeats) →
      ∀ fare ff, (Execution.performAll db es).flightFares.row fare = some ff →
        0 ≤ ff.availableSeats) := by
  constructor
  · intro fare
    apply Execution.performAll_eq (f := fun db => db.seats fare)
    intro db b
    exact b.seats_apply fare
  · intro h
    apply Execution.performAll_invariant
      (P := fun db => ∀ fare ff, db.flightFares.row fare = some ff → 0 ≤ ff.availableSeats) _ es h
    intro db b hdb
    exact b.availableSeats_nonneg hdb

theorem performAll_seats_sample :
    (Execution.performAll Sample.db Sample.executions).seats (2, 1) = some 5 ∧
    ∀ fare ff, (Execution.performAll Sample.db Sample.executions).flightFares.row fare = some ff →
      0 ≤ ff.availableSeats :=
  ⟨((performAll_seats _ _).1 _).trans (by decide +kernel),
    (performAll_seats _ _).2 fun _ _ h =>
      Table.of_row_ofList (P := fun _ ff => 0 ≤ ff.availableSeats) (by decide +kernel) h⟩

end AgentsAtScale.Airline
