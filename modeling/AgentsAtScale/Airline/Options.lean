import AgentsAtScale.Airline.Grouping

namespace AgentsAtScale.Airline

open Transaction

def SearchRebookingOptionsInput.params (input : SearchRebookingOptionsInput)
    (originalFlight : Flight) : SearchAvailableFlightsParams where
  origin := originalFlight.originAirport
  destination := originalFlight.destinationAirport
  departureFrom := input.departureFrom
  departureTo := input.departureTo
  passengerCount := input.passengerCount

namespace Python

inductive Repository
  | orm
  | asyncpg

inductive SearchError
  | invalidSearchWindow (message : String)
  | invalidPassengerCount (message : String)
  | segmentNotFound (message : String)
  | flightNotFound (message : String)
  | data
  deriving DecidableEq

/-- The segment with its fare class.  The asyncpg query joins the class, the
relationship of the ORM may be empty. -/
def getSegmentById (repository : Repository) (db : Db) (id : UUID) :
    Except SearchError (ReservationSegment × Option FareClass) :=
  match db.reservationSegments.row id with
  | none => .error (.segmentNotFound "reservation segment not found")
  | some segment =>
    match repository, db.catalog.fareClasses.row segment.fareClassId with
    | .asyncpg, none => .error (.segmentNotFound "reservation segment not found")
    | _, fareClass => .ok (segment, fareClass)

def getFlightById (db : Db) (id : UUID) : Except SearchError Flight :=
  match db.catalog.flights.row id with
  | none => .error (.flightNotFound "flight not found")
  | some flight => .ok flight

def searchAvailable (db : Db) (scan : Scan) (params : SearchAvailableFlightsParams) :
    Except SearchError (List AvailableFlight) :=
  if IsInteger params.passengerCount then
    .ok (((searchAvailableFlights db scan params).foldl Results.add []).map Prod.snd)
  else .error .data

def offer (originalFlight : Flight) (segment : ReservationSegment)
    (candidates : List AvailableFlight) (input : SearchRebookingOptionsInput) : List RebookingOption :=
  candidates.flatMap fun candidate =>
    if candidate.flight.status ≠ .scheduled ∨
        candidate.flight.originAirport ≠ originalFlight.originAirport ∨
        candidate.flight.destinationAirport ≠ originalFlight.destinationAirport ∨
        candidate.flight.departureAt < input.departureFrom ∨
        candidate.flight.departureAt > input.departureTo then []
    else candidate.fares.filterMap fun fare =>
      if !fare.fareClass.changeAllowed ∨ fare.flightFare.availableSeats < input.passengerCount then
        none
      else some
        { flight := candidate.flight
          fareClass := fare.fareClass
          flightFare := fare.flightFare
          fareDifference := fare.flightFare.price - segment.pricePaid
          changeFee := fare.fareClass.changeFee }

def Service.searchRebookingOptions (repository : Repository) (db : Db) (scan : Scan)
    (input : SearchRebookingOptionsInput) : Except SearchError (List RebookingOption) :=
  if input.departureTo < input.departureFrom then
    .error (.invalidSearchWindow "departure window is invalid")
  else if input.passengerCount ≤ 0 then
    .error (.invalidPassengerCount "passenger count must be greater than zero")
  else do
    let (segment, originalFare) ← getSegmentById repository db input.segmentId
    let originalFlight ← getFlightById db segment.flightId
    let candidates ← searchAvailable db scan (input.params originalFlight)
    if originalFare.any (!·.changeAllowed) then
      return []
    else
      return offer originalFlight segment candidates input

end Python

theorem Go.int32_of_isInteger {n : Int} (h : IsInteger n) : int32 n = n := by
  rw [int32, Int.bmod_eq_of_le]
  · exact h.1
  · exact h.2

theorem searchAvailable_eq {db : Db} {scan : Scan} {params : SearchAvailableFlightsParams}
    (h : IsInteger params.passengerCount) :
    Python.searchAvailable db scan params = .ok (Go.searchAvailable db scan params) := by
  rw [Python.searchAvailable, if_pos h, Go.searchAvailable, Go.int32_of_isInteger h]
  rw [(Go.Grouping.Matches.start.foldl _).values]

section

variable {db : Db} {scan : Scan} {params : SearchAvailableFlightsParams}

def SearchAvailableFlightsParams.Admits (params : SearchAvailableFlightsParams) (flight : FlightValue) :
    Prop :=
  flight.originAirport = params.origin ∧ flight.destinationAirport = params.destination ∧
    flight.departureAt ≥ params.departureFrom ∧ flight.departureAt ≤ params.departureTo ∧
    flight.status = .scheduled

def AvailableFare.Found (db : Db) (params : SearchAvailableFlightsParams) (fare : AvailableFare) : Prop :=
  db.catalog.fareClasses.row fare.fareClass.id = some fare.fareClass.toFareClass ∧
    fare.flightFare.availableSeats ≥ params.passengerCount

structure SearchAvailableFlightsRow.Stored (db : Db) (row : SearchAvailableFlightsRow) : Prop where
  flight : db.catalog.flights.row row.flight.id = some row.flight.toFlight
  flightFare : db.flightFares.row (row.flight.id, row.fareClass.id) = some row.flightFare.toFlightFare

theorem mem_searchAvailableFlights {row : SearchAvailableFlightsRow}
    (h : row ∈ searchAvailableFlights db scan params) :
    params.Admits row.flight ∧ row.fare.Found db params ∧ row.Stored db := by
  rw [searchAvailableFlights, List.mem_insertionSort, List.mem_filterMap] at h
  obtain ⟨⟨flightId, fareClassId⟩, -, h⟩ := h
  simp only [Option.bind_eq_bind, Option.bind_eq_some_iff] at h
  obtain ⟨ff, hff, f, hf, fc, hfc, h⟩ := h
  split at h
  · rename_i hmatch
    obtain ⟨horigin, hdestination, hfrom, hto, hstatus, hseats⟩ := hmatch
    cases h
    exact ⟨⟨horigin, hdestination, hfrom, hto, hstatus⟩, ⟨hfc, hseats⟩, hf, hff⟩
  · cases h

theorem mem_searchAvailable {candidates : List AvailableFlight}
    (h : Python.searchAvailable db scan params = .ok candidates) :
    ∀ candidate ∈ candidates, params.Admits candidate.flight ∧
      ∀ fare ∈ candidate.fares, fare.Found db params ∧
        SearchAvailableFlightsRow.Stored db ⟨candidate.flight, fare.flightFare, fare.fareClass⟩ := by
  rw [Python.searchAvailable] at h
  split at h
  · cases h
    intro candidate hmem
    rw [Python.Results.values_foldl_add] at hmem
    obtain ⟨⟨first, hfirst, hflight⟩, hfares⟩ := mem_groupByFlight hmem
    obtain ⟨hadmits, -, hstored⟩ := mem_searchAvailableFlights hfirst
    refine ⟨hflight ▸ hadmits, fun fare hfare => ?_⟩
    obtain ⟨row, hrow, hid, rfl⟩ := hfares fare hfare
    obtain ⟨-, hfound, hfare⟩ := mem_searchAvailableFlights hrow
    exact ⟨hfound, hflight ▸ hstored.flight, hid ▸ hfare.flightFare⟩
  · cases h

end

theorem Go.findOriginalFare_eq {segment : ReservationSegment} (fares : List AvailableFare)
    (found : Bool) :
    findOriginalFare segment fares found = some true ↔
      (found = true ∨ ∃ fare ∈ fares, fare.fareClass.id = segment.fareClassId) ∧
        ∀ fare ∈ fares, fare.fareClass.id = segment.fareClassId → fare.fareClass.changeAllowed = true := by
  induction fares generalizing found with
  | nil => simp [findOriginalFare]
  | cons fare fares ih =>
    simp only [findOriginalFare, List.exists_mem_cons_iff, List.forall_mem_cons]
    by_cases hclass : fare.fareClass.id = segment.fareClassId
    · cases hallowed : fare.fareClass.changeAllowed with
      | false => simp [hclass]
      | true => simp [hclass, ih]
    · simp [hclass, ih]

theorem Go.buildRebookingOptions_eq (originalFlight : Flight) (segment : ReservationSegment)
    (candidates : List AvailableFlight) (input : SearchRebookingOptionsInput) :
    buildRebookingOptions originalFlight segment candidates input =
      if findOriginalFare segment (candidates.flatMap (·.fares)) false = some true then
        Python.offer originalFlight segment candidates input
      else [] := rfl

theorem Python.offer_eq_nil {db : Db} {scan : Scan} {originalFlight : Flight}
    {segment : ReservationSegment} {candidates : List AvailableFlight}
    {input : SearchRebookingOptionsInput}
    (h : searchAvailable db scan (input.params originalFlight) = .ok candidates) :
    offer originalFlight segment candidates input = [] ↔
      ∀ fare ∈ candidates.flatMap (·.fares), fare.fareClass.changeAllowed = false := by
  rw [offer, List.flatMap_eq_nil_iff]
  simp only [List.mem_flatMap]
  constructor
  · rintro hnil fare ⟨candidate, hcandidate, hfare⟩
    obtain ⟨hadmits, hfound⟩ := mem_searchAvailable h candidate hcandidate
    obtain ⟨horigin, hdestination, hfrom, hto, hstatus⟩ := hadmits
    have hseats := (hfound fare hfare).1.2
    have hnone := hnil candidate hcandidate
    rw [if_neg, List.filterMap_eq_nil_iff] at hnone
    · have hdropped := hnone fare hfare
      split at hdropped
      · rename_i hreason
        simpa [not_lt.mpr hseats] using hreason.resolve_right (not_lt.mpr hseats)
      · cases hdropped
    · simp only [not_or, not_not, not_lt]
      exact ⟨hstatus, horigin, hdestination, hfrom, hto⟩
  · intro hnone candidate hcandidate
    split
    · rfl
    · rw [List.filterMap_eq_nil_iff]
      intro fare hfare
      rw [if_pos]
      left
      rw [hnone fare ⟨candidate, hcandidate, hfare⟩]
      rfl

/-- The search shows whether the class of the segment may be changed: a fare of that
class is among those found, or the class may not be changed at all, or nothing found
may be changed to. -/
def ShowsOriginalClass (db : Db) (scan : Scan) (input : SearchRebookingOptionsInput) : Prop :=
  input.departureFrom ≤ input.departureTo → 0 < input.passengerCount →
  ∀ segment flight fareClass, db.reservationSegments.row input.segmentId = some segment →
    db.catalog.flights.row segment.flightId = some flight →
    db.catalog.fareClasses.row segment.fareClassId = some fareClass →
    let fares := (Go.searchAvailable db scan (input.params flight)).flatMap (·.fares)
    (∃ fare ∈ fares, fare.fareClass.id = segment.fareClassId) ∨ fareClass.changeAllowed = false ∨
      ∀ fare ∈ fares, fare.fareClass.changeAllowed = false

theorem buildRebookingOptions_eq_iff {db : Db} {scan : Scan} {flight : Flight}
    {segment : ReservationSegment} {fareClass : FareClass} {candidates : List AvailableFlight}
    {input : SearchRebookingOptionsInput}
    (hclass : db.catalog.fareClasses.row segment.fareClassId = some fareClass)
    (hsearch : Python.searchAvailable db scan (input.params flight) = .ok candidates) :
    Go.buildRebookingOptions flight segment candidates input =
        (if !fareClass.changeAllowed then [] else Python.offer flight segment candidates input) ↔
      (∃ fare ∈ candidates.flatMap (·.fares), fare.fareClass.id = segment.fareClassId) ∨
        fareClass.changeAllowed = false ∨
        ∀ fare ∈ candidates.flatMap (·.fares), fare.fareClass.changeAllowed = false := by
  -- every fare of the segment's class has the class of the table
  have hsame : ∀ fare ∈ candidates.flatMap (·.fares), fare.fareClass.id = segment.fareClassId →
      fare.fareClass.changeAllowed = fareClass.changeAllowed := by
    intro fare hfare hid
    obtain ⟨candidate, hcandidate, hmem⟩ := List.mem_flatMap.mp hfare
    have hrow := ((mem_searchAvailable hsearch candidate hcandidate).2 fare hmem).1.1
    rw [hid, hclass] at hrow
    rw [Option.some.inj hrow]
  rw [Go.buildRebookingOptions_eq]
  simp only [Go.findOriginalFare_eq, Bool.false_eq_true, false_or]
  cases hallowed : fareClass.changeAllowed with
  | false =>
    rw [hallowed] at hsame
    simp only [Bool.not_false, if_true, true_or, or_true, iff_true]
    rw [if_neg]
    rintro ⟨⟨fare, hfare, hid⟩, hall⟩
    cases (hsame fare hfare hid).symm.trans (hall fare hfare hid)
  | true =>
    rw [hallowed] at hsame
    simp only [Bool.not_true, Bool.false_eq_true, if_false, false_or, reduceCtorEq]
    by_cases hseen : ∃ fare ∈ candidates.flatMap (·.fares), fare.fareClass.id = segment.fareClassId
    · rw [if_pos ⟨hseen, hsame⟩]
      exact ⟨fun _ => .inl hseen, fun _ => rfl⟩
    · rw [if_neg (fun h => hseen h.1), ← Python.offer_eq_nil hsearch]
      simp only [hseen, false_or]
      exact eq_comm

theorem Python.Service.searchRebookingOptions_eq {repository : Repository} {db : Db} {scan : Scan}
    {input : SearchRebookingOptionsInput} {segment : ReservationSegment} {flight : Flight}
    {fareClass : FareClass}
    (hwindow : ¬input.departureTo < input.departureFrom) (hcount : ¬input.passengerCount ≤ 0)
    (hsegment : db.reservationSegments.row input.segmentId = some segment)
    (hflight : db.catalog.flights.row segment.flightId = some flight)
    (hclass : db.catalog.fareClasses.row segment.fareClassId = some fareClass) :
    searchRebookingOptions repository db scan input =
      (searchAvailable db scan (input.params flight)).map fun candidates =>
        if !fareClass.changeAllowed then [] else offer flight segment candidates input := by
  have hget : getSegmentById repository db input.segmentId = .ok (segment, some fareClass) := by
    cases repository <;> simp [getSegmentById, hsegment, hclass]
  have hfound : getFlightById db segment.flightId = .ok flight := by
    simp [getFlightById, hflight]
  simp only [searchRebookingOptions, hwindow, hcount, if_false, hget, bind, Except.bind, hfound,
    Option.any_some]
  cases searchAvailable db scan (input.params flight) with
  | error e => rfl
  | ok candidates =>
    dsimp only [Except.map]
    split <;> rfl

theorem options_agree_iff (repository : Python.Repository) (db : Db) (scan : Scan)
    (input : SearchRebookingOptionsInput) (hvalid : db.Valid)
    (hsearch : 0 < input.passengerCount → ∀ flight,
      Python.searchAvailable db scan (input.params flight) =
        .ok (Go.searchAvailable db scan (input.params flight))) :
    (Go.Service.searchRebookingOptions db scan input).toOption =
        (Python.Service.searchRebookingOptions repository db scan input).toOption ↔
      ShowsOriginalClass db scan input := by
  by_cases hwindow : input.departureTo < input.departureFrom
  · simp [Go.Service.searchRebookingOptions, Python.Service.searchRebookingOptions,
      ShowsOriginalClass, hwindow, not_le.mpr hwindow, Except.toOption]
  by_cases hcount : input.passengerCount ≤ 0
  · simp [Go.Service.searchRebookingOptions, Python.Service.searchRebookingOptions,
      ShowsOriginalClass, hwindow, hcount, not_lt.mpr hcount, Except.toOption]
  cases hsegment : db.reservationSegments.row input.segmentId with
  | none =>
    simp [Go.Service.searchRebookingOptions, Python.Service.searchRebookingOptions,
      ShowsOriginalClass, hwindow, hcount, Python.getSegmentById, hsegment, Except.toOption, bind,
      Except.bind]
  | some segment =>
    obtain ⟨-, hflight, hclass, -⟩ := hvalid.reservationSegments _ _ hsegment
    obtain ⟨flight, hflight⟩ := Option.isSome_iff_exists.mp hflight
    obtain ⟨fareClass, hclass⟩ := Option.isSome_iff_exists.mp hclass
    have hfound := hsearch (not_le.mp hcount) flight
    have hgo : Go.Service.searchRebookingOptions db scan input =
        .ok (Go.buildRebookingOptions flight segment
          (Go.searchAvailable db scan (input.params flight)) input) := by
      simp only [Go.Service.searchRebookingOptions, hwindow, hcount, if_false, hsegment, hflight]
      rfl
    rw [hgo, Python.Service.searchRebookingOptions_eq hwindow hcount hsegment hflight hclass, hfound]
    simp only [Except.map, Except.toOption, Option.some.injEq]
    rw [buildRebookingOptions_eq_iff hclass hfound]
    constructor
    · rintro h - - segment' flight' fareClass' hsegment' hflight' hclass'
      cases hsegment.symm.trans hsegment'
      cases hflight.symm.trans hflight'
      cases hclass.symm.trans hclass'
      exact h
    · intro h
      exact h (not_lt.mp hwindow) (not_le.mp hcount) segment flight fareClass hsegment hflight hclass

namespace Sample

def twoClasses : Db where
  catalog :=
    { flights := .ofList [(1, ⟨"SCL", "LIM", 1000, .scheduled⟩), (2, ⟨"SCL", "LIM", 8200, .scheduled⟩)]
      fareClasses := .ofList [(1, ⟨true, 0⟩), (2, ⟨true, 0⟩)]
      reservationPassengers := {(1, 1)} }
  flightFares := .ofList [((1, 1), ⟨100, "USD", 5⟩), ((2, 2), ⟨120, "USD", 5⟩)]
  reservations := .ofList [(1, ⟨"ABC123", 1, .confirmed, 100, "USD"⟩)]
  reservationSegments := .ofList [(1, ⟨1, 1, 1, .confirmed, 100, "USD"⟩)]
  travelCredits := .ofList []
  flightChanges := []

def inOrder : Scan where
  reservations := [1]
  reservationPassengers := [(1, 1)]
  reservationSegments := [1]
  flightFares := [(1, 1), (2, 2)]
  travelCredits := []
  flightFareId fare := fare.1

def anyTime : SearchRebookingOptionsInput := ⟨1, 0, 86400, 1⟩

def later : SearchRebookingOptionsInput := ⟨1, 3600, 86400, 1⟩

end Sample

theorem options_agree_iff_sample :
    Sample.twoClasses.Valid ∧ Sample.inOrder.Reads Sample.twoClasses ∧
      ((Python.Service.searchRebookingOptions .orm Sample.twoClasses Sample.inOrder
        Sample.anyTime).toOption.map List.length) = some 2 ∧
      ShowsOriginalClass Sample.twoClasses Sample.inOrder Sample.anyTime :=
  ⟨by decide +kernel, by decide +kernel, by decide +kernel,
    (options_agree_iff .orm Sample.twoClasses Sample.inOrder Sample.anyTime (by decide +kernel)
      fun _ _ => searchAvailable_eq (show IsInteger 1 by decide)).mp (by decide +kernel)⟩

theorem options_differ :
    Sample.twoClasses.Valid ∧ Sample.inOrder.Reads Sample.twoClasses ∧
      (∀ flight, Python.searchAvailable Sample.twoClasses Sample.inOrder (Sample.later.params flight) =
        .ok (Go.searchAvailable Sample.twoClasses Sample.inOrder (Sample.later.params flight))) ∧
      (Go.Service.searchRebookingOptions Sample.twoClasses Sample.inOrder Sample.later).toOption =
        some [] ∧
      ((Python.Service.searchRebookingOptions .orm Sample.twoClasses Sample.inOrder
        Sample.later).toOption.map (List.map fun option => (option.flight.id, option.fareClass.id))) =
        some [(2, 2)] ∧
      ((Python.Service.searchRebookingOptions .asyncpg Sample.twoClasses Sample.inOrder
        Sample.later).toOption.map (List.map fun option => (option.flight.id, option.fareClass.id))) =
        some [(2, 2)] :=
  ⟨by decide +kernel, by decide +kernel, fun _ => searchAvailable_eq (show IsInteger 1 by decide),
    by decide +kernel, by decide +kernel, by decide +kernel⟩

end AgentsAtScale.Airline
