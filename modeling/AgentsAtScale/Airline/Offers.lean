import AgentsAtScale.Airline.Options
import AgentsAtScale.Airline.Variants

namespace AgentsAtScale.Airline

open Transaction Python

namespace Python

def ExecuteError.AboutCredit : ExecuteError → Prop
  | .travelCreditNotFound _ => True
  | .rule error => error.message = "travel credit is invalid" ∨
      error.message = "travel credit amount does not match amount due"
  | _ => False

def Service.validateRebookingSelection (repository : Repository) (db : Db) (now : Timestamp)
    (selection : RebookingSelection (Option UUID)) :
    Except ExecuteError (RebookingValidation (Option UUID)) :=
  match repository with
  | .orm => (atomically (Orm.validateRebookingSelection db.catalog now selection) db).1
  | .asyncpg => (atomically (Asyncpg.validateRebookingSelection db.catalog now selection) db).1

end Python

def RebookingOption.selection (option : RebookingOption) (segmentId : UUID)
    (travelCreditId : Option UUID) (travelCreditAmount : Decimal) : RebookingSelection (Option UUID) where
  segmentId := segmentId
  newFlightId := option.flight.id
  newFareClassId := option.fareClass.id
  travelCreditId := travelCreditId
  travelCreditAmount := travelCreditAmount

def RebookingOption.amountDue (option : RebookingOption) : Decimal :=
  max (option.fareDifference + option.changeFee) 0

/-- Whatever travel credit goes with the option, only that credit can be wrong, and the
amount due is the one of the option. -/
structure Bookable (repository : Repository) (db : Db) (now : Timestamp) (segmentId : UUID)
    (option : RebookingOption) : Prop where
  error : ∀ creditId amount e, Service.validateRebookingSelection repository db now
    (option.selection segmentId creditId amount) = .error e → e.AboutCredit
  mismatch : ∀ creditId amount, Service.validateRebookingSelection repository db now
      (option.selection segmentId creditId amount) =
        .error (.rule ⟨"travel credit amount does not match amount due"⟩) →
    amount ≠ option.amountDue
  ok : ∀ creditId amount validation, Service.validateRebookingSelection repository db now
      (option.selection segmentId creditId amount) = .ok validation →
    validation.amountDue = option.amountDue ∧ amount = option.amountDue

structure RebookingSnapshot.Searched (snapshot : RebookingSnapshot)
    (selection : RebookingSelection (Option UUID)) : Prop where
  segmentId : selection.segmentId = snapshot.segmentId
  reservationStatus : snapshot.reservationStatus = .confirmed
  segmentStatus : snapshot.segmentStatus = .confirmed
  oldChangeAllowed : snapshot.oldChangeAllowed = true
  targetFlightId : snapshot.targetFlightId = selection.newFlightId
  targetFareClassId : snapshot.targetFareClassId = selection.newFareClassId
  targetStatus : snapshot.targetStatus = .scheduled
  availableSeats : snapshot.passengerCount ≤ snapshot.availableSeats
  origin : snapshot.originAirport = snapshot.targetOrigin
  destination : snapshot.destinationAirport = snapshot.targetDestination
  targetChangeAllowed : snapshot.targetChangeAllowed = true
  passengerCount : 0 < snapshot.passengerCount

theorem RebookingSnapshot.Searched.validate_eq {snapshot : RebookingSnapshot}
    {selection : RebookingSelection (Option UUID)} (h : snapshot.Searched selection)
    (now : Timestamp) (credit : Option CreditValue) :
    validateRebookingSelection now selection snapshot credit =
      if snapshot.targetCurrency ≠ snapshot.oldCurrency then
        .error ⟨"selected fare currency does not match"⟩
      else if creditInvalid now selection snapshot credit then
        .error ⟨"travel credit is invalid"⟩
      else if amountDue snapshot ≠ selection.travelCreditAmount then
        .error ⟨"travel credit amount does not match amount due"⟩
      else .ok (snapshot.validation selection (amountDue snapshot)) := by
  simp [validateRebookingSelection, h.segmentId, h.reservationStatus, h.segmentStatus,
    h.oldChangeAllowed, h.targetFlightId, h.targetFareClassId, h.targetStatus,
    not_lt.mpr h.availableSeats, h.origin, h.destination, h.targetChangeAllowed,
    not_le.mpr h.passengerCount]

section

variable {db : Db} {now : Timestamp} {selection : RebookingSelection (Option UUID)}

theorem atomically_check {p : Sql ExecuteError (RebookingSnapshot × Option CreditValue)}
    {snapshot : RebookingSnapshot} {credit : Option CreditValue}
    (h : run p.run db = (.ok (snapshot, credit), db)) :
    (atomically (do
      let (snapshot, credit) ← p
      check (validate now selection snapshot credit)) db).1 =
      validate now selection snapshot credit := by
  rw [atomically, run_bind_of_ok h]
  dsimp only
  cases validate now selection snapshot credit <;> rfl

theorem SelectedRows.validateRebookingSelection_cases (rows : SelectedRows db selection)
    (repository : Repository) (now : Timestamp) :
    (∃ credit, Service.validateRebookingSelection repository db now selection =
      validate now selection rows.snapshot credit) ∨
    selection.travelCreditId ≠ none ∧
      Service.validateRebookingSelection repository db now selection =
        .error (.travelCreditNotFound "travel credit not found") := by
  have horm := rows.run_ormSnapshot false
  have hasyncpg := rows.run_asyncpgSnapshot
  cases hid : selection.travelCreditId with
  | none =>
    rw [hid] at horm hasyncpg
    left
    cases repository with
    | orm => exact ⟨none, atomically_check horm⟩
    | asyncpg => exact ⟨none, atomically_check hasyncpg⟩
  | some id =>
    rw [hid] at horm hasyncpg
    cases hcredit : db.travelCredits.row id with
    | none =>
      simp only [hcredit] at horm hasyncpg
      refine .inr ⟨Option.some_ne_none id, ?_⟩
      cases repository with
      | orm => exact congrArg Prod.fst (atomically_of_error (run_bind_of_error horm))
      | asyncpg => exact congrArg Prod.fst (atomically_of_error (run_bind_of_error hasyncpg))
    | some credit =>
      simp only [hcredit] at horm hasyncpg
      cases repository with
      | orm => exact .inl ⟨_, atomically_check horm⟩
      | asyncpg =>
        split at hasyncpg
        · exact .inl ⟨_, atomically_check hasyncpg⟩
        · refine .inr ⟨Option.some_ne_none id, ?_⟩
          exact congrArg Prod.fst (atomically_of_error (run_bind_of_error hasyncpg))

theorem SelectedRows.error_of_searched (rows : SelectedRows db selection)
    (hsearched : rows.snapshot.Searched selection)
    (hcurrency : rows.snapshot.targetCurrency = rows.snapshot.oldCurrency)
    {repository : Repository} {e : ExecuteError}
    (h : Service.validateRebookingSelection repository db now selection = .error e) :
    e.AboutCredit ∧ (e = .rule ⟨"travel credit amount does not match amount due"⟩ →
      selection.travelCreditAmount ≠ amountDue rows.snapshot) := by
  obtain ⟨credit, hcredit⟩ | ⟨-, hmissing⟩ := rows.validateRebookingSelection_cases repository now
  · rw [hcredit, validate, hsearched.validate_eq, if_neg (not_not.mpr hcurrency)] at h
    split at h
    · cases h
      exact ⟨.inl rfl, fun heq => absurd heq (by decide)⟩
    · split at h
      · rename_i hdue
        cases h
        exact ⟨.inr rfl, fun _ => Ne.symm hdue⟩
      · cases h
  · rw [hmissing] at h
    cases h
    exact ⟨trivial, by rintro ⟨⟩⟩

theorem SelectedRows.amountDue_of_ok (rows : SelectedRows db selection) {repository : Repository}
    {validation : RebookingValidation (Option UUID)}
    (h : Service.validateRebookingSelection repository db now selection = .ok validation) :
    validation.amountDue = amountDue rows.snapshot ∧
      selection.travelCreditAmount = amountDue rows.snapshot := by
  obtain ⟨credit, hcredit⟩ | ⟨-, hmissing⟩ := rows.validateRebookingSelection_cases repository now
  · have haccepted := accepted_of_execute (hcredit.symm.trans h)
    rw [haccepted.validation]
    exact ⟨haccepted.due, haccepted.due⟩
  · rw [hmissing] at h
    cases h

theorem SelectedRows.error_of_currency (rows : SelectedRows db selection)
    (hsearched : rows.snapshot.Searched selection)
    (hcurrency : rows.snapshot.targetCurrency ≠ rows.snapshot.oldCurrency)
    (hcredit : selection.travelCreditId = none) (repository : Repository) (now : Timestamp) :
    Service.validateRebookingSelection repository db now selection =
      .error (.rule ⟨"selected fare currency does not match"⟩) := by
  obtain ⟨credit, hvalidate⟩ | ⟨hsome, -⟩ := rows.validateRebookingSelection_cases repository now
  · rw [hvalidate, validate, hsearched.validate_eq, if_pos hcurrency]
    rfl
  · exact absurd hcredit hsome

end

section

variable {db : Db} {scan : Scan} {now : Timestamp} {input : SearchRebookingOptionsInput}
  {segment : ReservationSegment} {reservation : Reservation} {option : RebookingOption}

/-- An offered option names a fare of the table, at its price and with its change fee. -/
structure RebookingOption.Offered (db : Db) (input : SearchRebookingOptionsInput)
    (segment : ReservationSegment) (originalFlight : Flight) (option : RebookingOption) : Prop where
  admits : (input.params originalFlight).Admits option.flight
  found : AvailableFare.Found db (input.params originalFlight) ⟨option.fareClass, option.flightFare⟩
  stored : SearchAvailableFlightsRow.Stored db ⟨option.flight, option.flightFare, option.fareClass⟩
  changeAllowed : option.fareClass.changeAllowed = true
  fareDifference : option.fareDifference = option.flightFare.price - segment.pricePaid
  changeFee : option.changeFee = option.fareClass.changeFee

theorem Python.offered_of_mem_offer {originalFlight : Flight} {candidates : List AvailableFlight}
    (hsearch : searchAvailable db scan (input.params originalFlight) = .ok candidates)
    (h : option ∈ offer originalFlight segment candidates input) :
    option.Offered db input segment originalFlight := by
  obtain ⟨candidate, hcandidate, h⟩ := List.mem_flatMap.mp h
  obtain ⟨hadmits, hfares⟩ := mem_searchAvailable hsearch candidate hcandidate
  split at h
  · cases h
  · obtain ⟨fare, hfare, h⟩ := List.mem_filterMap.mp h
    obtain ⟨hfound, hstored⟩ := hfares fare hfare
    split at h
    · cases h
    · rename_i hkept
      cases h
      have hallowed : fare.fareClass.changeAllowed = true := by
        simpa using (not_or.mp hkept).1
      exact ⟨hadmits, hfound, hstored, hallowed, rfl, rfl⟩

theorem Python.Service.offered_of_search {repository : Repository} {options : List RebookingOption}
    (hdb : db.Valid) (hsegment : db.reservationSegments.row input.segmentId = some segment)
    (hsearch : searchRebookingOptions repository db scan input = .ok options)
    (hmem : option ∈ options) :
    0 < input.passengerCount ∧ ∃ flight fareClass,
      db.catalog.flights.row segment.flightId = some flight ∧
      db.catalog.fareClasses.row segment.fareClassId = some fareClass ∧
      fareClass.changeAllowed = true ∧ option.Offered db input segment flight := by
  obtain ⟨-, hflight, hclass, -⟩ := hdb.reservationSegments _ _ hsegment
  obtain ⟨flight, hflight⟩ := Option.isSome_iff_exists.mp hflight
  obtain ⟨fareClass, hclass⟩ := Option.isSome_iff_exists.mp hclass
  by_cases hwindow : input.departureTo < input.departureFrom
  · simp [searchRebookingOptions, hwindow] at hsearch
  by_cases hcount : input.passengerCount ≤ 0
  · simp [searchRebookingOptions, hwindow, hcount] at hsearch
  refine ⟨not_le.mp hcount, flight, fareClass, hflight, hclass, ?_⟩
  rw [searchRebookingOptions_eq hwindow hcount hsegment hflight hclass] at hsearch
  cases hfound : searchAvailable db scan (input.params flight) with
  | error e =>
    rw [hfound] at hsearch
    cases hsearch
  | ok candidates =>
    rw [hfound] at hsearch
    cases hsearch
    cases hallowed : fareClass.changeAllowed with
    | false =>
      rw [hallowed] at hmem
      cases hmem
    | true =>
      rw [hallowed] at hmem
      exact ⟨rfl, offered_of_mem_offer hfound hmem⟩

def RebookingOption.Offered.rows {flight : Flight} {fareClass : FareClass}
    (h : option.Offered db input segment flight)
    (hsegment : db.reservationSegments.row input.segmentId = some segment)
    (hreservation : db.reservations.row segment.reservationId = some reservation)
    (hflight : db.catalog.flights.row segment.flightId = some flight)
    (hclass : db.catalog.fareClasses.row segment.fareClassId = some fareClass)
    (creditId : Option UUID) (amount : Decimal) :
    SelectedRows db (option.selection input.segmentId creditId amount) where
  segment := segment
  reservation := reservation
  flight := flight
  fareClass := fareClass
  target := option.flightFare.toFlightFare
  targetFlight := option.flight.toFlight
  targetFareClass := option.fareClass.toFareClass
  segment_row := hsegment
  reservation_row := hreservation
  flight_row := hflight
  fareClass_row := hclass
  target_row := h.stored.flightFare
  targetFlight_row := h.stored.flight
  targetFareClass_row := h.found.1

end

theorem bookable_iff (repository : Repository) (db : Db) (scan : Scan) (now : Timestamp)
    (input : SearchRebookingOptionsInput) (hdb : db.Valid)
    (segment : ReservationSegment) (reservation : Reservation)
    (hsegment : db.reservationSegments.row input.segmentId = some segment)
    (hreservation : db.reservations.row segment.reservationId = some reservation)
    (hstatus : segment.status = .confirmed) (hconfirmed : reservation.status = .confirmed)
    (hcount : input.passengerCount = db.catalog.passengerCount segment.reservationId)
    (options : List RebookingOption)
    (hsearch : Service.searchRebookingOptions repository db scan input = .ok options)
    (option : RebookingOption) (hmem : option ∈ options) :
    Bookable repository db now input.segmentId option ↔
      option.flightFare.currency = segment.currency := by
  obtain ⟨hpositive, flight, fareClass, hflight, hclass, hallowed, hoffered⟩ :=
    Service.offered_of_search hdb hsegment hsearch hmem
  obtain ⟨horigin, hdestination, -, -, hscheduled⟩ := hoffered.admits
  let rows := hoffered.rows hsegment hreservation hflight hclass
  have hseats : db.catalog.passengerCount segment.reservationId ≤ option.flightFare.availableSeats :=
    hcount.symm.trans_le hoffered.found.2
  have hsearched (creditId : Option UUID) (amount : Decimal) :
      (rows creditId amount).snapshot.Searched (option.selection input.segmentId creditId amount) :=
    ⟨rfl, hconfirmed, hstatus, hallowed, rfl, rfl, hscheduled, hseats, horigin.symm,
      hdestination.symm, hoffered.changeAllowed, hpositive.trans_eq hcount⟩
  have hdue (creditId : Option UUID) (amount : Decimal) :
      amountDue (rows creditId amount).snapshot = option.amountDue := by
    rw [RebookingOption.amountDue, hoffered.fareDifference, hoffered.changeFee]
    rfl
  constructor
  · intro h
    by_contra hcurrency
    have herror := (rows none 0).error_of_currency (hsearched none 0) hcurrency rfl repository now
    obtain hinvalid | hmismatch := h.error none 0 _ herror
    · exact absurd hinvalid (by decide)
    · exact absurd hmismatch (by decide)
  · intro hcurrency
    refine ⟨fun creditId amount e h => ?_, fun creditId amount h => ?_, fun creditId amount v h => ?_⟩
    · exact ((rows creditId amount).error_of_searched (hsearched creditId amount) hcurrency h).1
    · rw [← hdue creditId amount]
      exact ((rows creditId amount).error_of_searched (hsearched creditId amount) hcurrency h).2 rfl
    · rw [← hdue creditId amount]
      exact (rows creditId amount).amountDue_of_ok h

namespace Sample

def twoCurrencies : Db :=
  { twoClasses with
    flightFares := .ofList [((1, 1), ⟨100, "USD", 5⟩), ((2, 2), ⟨120, "EUR", 5⟩)] }

def laterOption : RebookingOption where
  flight := ⟨⟨"SCL", "LIM", 8200, .scheduled⟩, 2⟩
  fareClass := ⟨⟨true, 0⟩, 2⟩
  flightFare := ⟨⟨120, "USD", 5⟩, 2, 2, 2⟩
  fareDifference := 20
  changeFee := 0

end Sample

theorem bookable_iff_sample :
    Service.searchRebookingOptions .orm Sample.twoClasses Sample.inOrder Sample.later =
        .ok [Sample.laterOption] ∧
      Bookable .orm Sample.twoClasses 0 1 Sample.laterOption :=
  ⟨by decide +kernel,
    (bookable_iff .orm Sample.twoClasses Sample.inOrder 0 Sample.later (by decide +kernel)
      ⟨1, 1, 1, .confirmed, 100, "USD"⟩ ⟨"ABC123", 1, .confirmed, 100, "USD"⟩ (by decide +kernel)
      (by decide +kernel) rfl rfl (by decide +kernel) [Sample.laterOption] (by decide +kernel)
      Sample.laterOption (List.mem_singleton_self _)).mpr rfl⟩

theorem offered_not_bookable :
    Sample.twoCurrencies.Valid ∧ Sample.inOrder.Reads Sample.twoCurrencies ∧
      Sample.twoCurrencies.reservationSegments.row Sample.later.segmentId =
        some ⟨1, 1, 1, .confirmed, 100, "USD"⟩ ∧
      Sample.twoCurrencies.reservations.row 1 = some ⟨"ABC123", 1, .confirmed, 100, "USD"⟩ ∧
      Sample.later.passengerCount = Sample.twoCurrencies.catalog.passengerCount 1 ∧
      ∀ repository, ∃ option,
        Service.searchRebookingOptions repository Sample.twoCurrencies Sample.inOrder Sample.later =
          .ok [option] ∧
        Service.validateRebookingSelection repository Sample.twoCurrencies 0
            (option.selection Sample.later.segmentId none option.amountDue) =
          .error (.rule ⟨"selected fare currency does not match"⟩) := by
  refine ⟨by decide +kernel, by decide +kernel, by decide +kernel, by decide +kernel,
    by decide +kernel, fun repository => ?_⟩
  refine ⟨{ Sample.laterOption with flightFare := ⟨⟨120, "EUR", 5⟩, 2, 2, 2⟩ }, ?_⟩
  cases repository <;> exact ⟨by decide +kernel, by decide +kernel⟩

end AgentsAtScale.Airline
