import AgentsAtScale.Airline.ExecuteLaws

namespace AgentsAtScale.Airline

open Transaction

def FlightChange.oldFare (change : FlightChange) : UUID × UUID :=
  (change.oldFlightId, change.oldFareClassId)

def FlightChange.newFare (change : FlightChange) : UUID × UUID :=
  (change.newFlightId, change.newFareClassId)

def Db.changesOf (db : Db) (segmentId : UUID) : List FlightChange :=
  db.flightChanges.filter (·.reservationSegmentId = segmentId)

/-- The changes lead from the original fare to the current one, and none has the
target of the one before it. -/
structure Itinerary (original current : UUID × UUID) (changes : List FlightChange) : Prop where
  first : ∀ change ∈ changes.head?, change.oldFare = original
  chained : changes.IsChain fun change next => next.oldFare = change.newFare
  last : (changes.getLast?.map FlightChange.newFare).getD original = current
  moved : changes.IsChain fun change next => next.newFare ≠ change.newFare

namespace Itinerary

variable {original current : UUID × UUID} {changes : List FlightChange} {change : FlightChange}

theorem nil : Itinerary original original [] where
  first := by simp
  chained := .nil
  last := rfl
  moved := .nil

theorem last_of_mem (h : Itinerary original current changes) (hlast : change ∈ changes.getLast?) :
    change.newFare = current := by
  have hcurrent := h.last
  rw [Option.mem_def.mp hlast] at hcurrent
  exact hcurrent

theorem snoc (h : Itinerary original current changes) (hold : change.oldFare = current)
    (hnew : changes ≠ [] → change.newFare ≠ current) :
    Itinerary original change.newFare (changes ++ [change]) where
  first := by
    cases changes with
    | nil =>
      have hcurrent : original = current := h.last
      simp [hold, hcurrent]
    | cons head tail => exact h.first
  chained := by
    refine List.isChain_append.mpr ⟨h.chained, .singleton _, ?_⟩
    rintro previous hlast _ ⟨⟩
    rw [hold, h.last_of_mem hlast]
  last := by simp
  moved := by
    refine List.isChain_append.mpr ⟨h.moved, .singleton _, ?_⟩
    rintro previous hlast _ ⟨⟩
    rw [h.last_of_mem hlast]
    apply hnew
    rintro rfl
    cases hlast

end Itinerary

structure Recorded (db : Db) (original : ReservationSegment) (id : UUID)
    (segment : ReservationSegment) : Prop where
  itinerary : Itinerary original.fare segment.fare (db.changesOf id)
  changed : segment.status = .changed ↔ db.changesOf id ≠ []
  reservation : db.changesOf id ≠ [] → (db.reservations.row segment.reservationId).isSome = true

namespace Rebooking

variable {db : Db} (b : Rebooking db)

theorem changesOf_apply_self : b.apply.changesOf b.segmentId = db.changesOf b.segmentId ++ [b.change] := by
  simp [Db.changesOf, apply, change]

theorem changesOf_apply_of_ne {id : UUID} (h : id ≠ b.segmentId) :
    b.apply.changesOf id = db.changesOf id := by
  simp [Db.changesOf, apply, change, Ne.symm h]

theorem reservation_apply {id : UUID} (h : (db.reservations.row id).isSome = true) :
    (b.apply.reservations.row id).isSome = true := by
  simp only [apply, Table.row_modify, Option.isSome_map]
  exact h

theorem recorded_apply {original segment : ReservationSegment} {id : UUID}
    (hrow : db.reservationSegments.row id = some segment) (h : Recorded db original id segment) :
    ∃ segment', b.apply.reservationSegments.row id = some segment' ∧
      Recorded b.apply original id segment' := by
  have hrow' : b.apply.reservationSegments.row id =
      some (if id = b.segmentId then segment.move b.newFlightId b.newFareClassId b.target.price
        else segment) := by
    simp only [apply, Table.row_modify, hrow, Option.map_some]
  refine ⟨_, hrow', ?_⟩
  split
  · rename_i heq
    subst heq
    cases hrow.symm.trans b.segment_row
    have hne : b.apply.changesOf b.segmentId ≠ [] := by
      rw [changesOf_apply_self]
      simp
    refine ⟨?_, ⟨fun _ => hne, fun _ => rfl⟩, fun _ => ?_⟩
    · rw [changesOf_apply_self]
      exact h.itinerary.snoc (rfl : b.change.oldFare = _) fun hchanges =>
        Ne.symm (b.notApplied (h.changed.mpr hchanges))
    · apply b.reservation_apply
      change (db.reservations.row b.segment.reservationId).isSome = true
      rw [b.reservation_row]
      rfl
  · rename_i hne
    have hchanges := b.changesOf_apply_of_ne hne
    refine ⟨?_, ?_, ?_⟩
    · rw [hchanges]
      exact h.itinerary
    · rw [hchanges]
      exact h.changed
    · rw [hchanges]
      exact fun h' => b.reservation_apply (h.reservation h')

end Rebooking

/-- The segments of the first state, with their histories, are the segments now. -/
structure Db.Follows (db₀ db : Db) : Prop where
  segment : ∀ id original, db₀.reservationSegments.row id = some original →
    ∃ segment, db.reservationSegments.row id = some segment ∧ Recorded db original id segment
  absent : ∀ id, db₀.reservationSegments.row id = none →
    db.reservationSegments.row id = none ∧ db.changesOf id = []

theorem Db.follows_start {db : Db} (hchanges : db.flightChanges = [])
    (hfresh : ∀ id segment, db.reservationSegments.row id = some segment → segment.status ≠ .changed) :
    db.Follows db := by
  have hnone (id : UUID) : db.changesOf id = [] := by
    simp [Db.changesOf, hchanges]
  constructor
  · intro id original hrow
    refine ⟨original, hrow, ?_, ?_, fun h => absurd (hnone id) h⟩
    · rw [hnone]
      exact .nil
    · exact ⟨fun h => absurd h (hfresh id original hrow), fun h => absurd (hnone id) h⟩
  · intro id hrow
    exact ⟨hrow, hnone id⟩

theorem Db.follows_apply {db₀ db : Db} (b : Rebooking db) (h : db₀.Follows db) :
    db₀.Follows b.apply := by
  constructor
  · intro id original hrow
    obtain ⟨segment, hsegment, hrecorded⟩ := h.segment id original hrow
    exact b.recorded_apply hsegment hrecorded
  · intro id hrow
    obtain ⟨habsent, hchanges⟩ := h.absent id hrow
    have hne : id ≠ b.segmentId := by
      rintro rfl
      cases habsent.symm.trans b.segment_row
    refine ⟨?_, (b.changesOf_apply_of_ne hne).trans hchanges⟩
    simp only [Rebooking.apply, Table.row_modify, habsent, Option.map_none]

namespace Execution

def verified (db : Db) : Execution → Bool
  | .go _ selection => (atomically (Go.verify selection) db).1.isOk
  | .asyncpg _ selection => (atomically (Asyncpg.verify selection) db).1.isOk
  | .orm _ selection => (atomically (Orm.verify selection) db).1.isOk

/-- The selection has been applied to the segment, as its row tells. -/
def Applied (db : Db) (id : UUID) (fare : UUID × UUID) : Prop :=
  ∃ segment, db.reservationSegments.row id = some segment ∧
    (db.reservations.row segment.reservationId).isSome = true ∧ segment.fare = fare ∧
    segment.status = .changed

def resultRow (db : Db) (id : UUID) : Option RebookingResultRow :=
  (db.reservationSegments.row id).bind fun segment =>
    (db.reservations.row segment.reservationId).map fun reservation =>
      { segmentId := id
        reservationId := segment.reservationId
        flightId := segment.flightId
        fareClassId := segment.fareClassId
        segmentStatus := segment.status
        pricePaid := segment.pricePaid
        currency := segment.currency
        bookingReference := reservation.bookingReference }

theorem commits_getRebookingResult {db db' : Db} {id : UUID} {row : Option RebookingResultRow} :
    Commits (getRebookingResult id) db row db' ↔ db' = db ∧ row = resultRow db id := by
  simp only [getRebookingResult, resultRow, Commits.readRow_bind, Db.fetch_eq, Db.fetch]
  cases hrow : db.reservationSegments.row id with
  | none => simp [and_comm]
  | some segment =>
    simp only [Commits.readRow_bind, Db.fetch_eq, Db.fetch]
    cases hreservation : db.reservations.row segment.reservationId with
    | none => simp [and_comm, hreservation]
    | some reservation => simp [and_comm, hreservation]

theorem applied_iff_resultRow (db : Db) (id : UUID) (fare : UUID × UUID) :
    Applied db id fare ↔ ∃ row, resultRow db id = some row ∧ row.flightId = fare.1 ∧
      row.fareClassId = fare.2 ∧ row.segmentStatus = .changed := by
  simp only [Applied, resultRow, ReservationSegment.fare, Prod.ext_iff]
  cases hrow : db.reservationSegments.row id with
  | none => simp
  | some segment =>
    cases hreservation : db.reservations.row segment.reservationId with
    | none => simp [hreservation]
    | some reservation => simp [hreservation, and_assoc]

theorem verified_iff (db : Db) (e : Execution) :
    e.verified db = true ↔ Applied db e.segmentId e.newFare := by
  cases e with
  | go now selection =>
    simp only [verified, atomically_isOk, Go.verify, Commits.bind_iff, Commits.adapt_iff,
      commits_getRebookingResult, applied_iff_resultRow, segmentId, newFare]
    cases resultRow db selection.segmentId with
    | none => simp
    | some row => simp
  | asyncpg now selection =>
    simp only [verified, atomically_isOk, Asyncpg.verify, Commits.bind_iff, Commits.adapt_iff,
      commits_getRebookingResult, applied_iff_resultRow, segmentId, newFare]
    cases resultRow db selection.segmentId with
    | none => simp
    | some row => simp
  | orm now selection =>
    simp only [verified, atomically_isOk, Orm.verify, Commits.readRow_bind, Db.fetch_eq, Db.fetch,
      Applied, segmentId, newFare, ReservationSegment.fare, Prod.mk.injEq]
    cases hrow : db.reservationSegments.row selection.segmentId with
    | none => simp
    | some segment =>
      simp only [Commits.guard_iff, Commits.readRow_bind, Db.fetch_eq, Db.fetch]
      cases hreservation : db.reservations.row segment.reservationId with
      | none => simp [hreservation]
      | some reservation => simp [hreservation, and_assoc]

theorem rejected_of_applied {db : Db} {e : Execution} (h : Applied db e.segmentId e.newFare) :
    e.commits db = false ∧ e.perform db = db := by
  obtain ⟨segment, hrow, -, hfare, hchanged⟩ := h
  rcases perform_cases db e with ⟨b, hid, hnew, -⟩ | hrejected
  · rw [← hid, b.segment_row] at hrow
    cases hrow
    exact absurd (hfare.trans hnew.symm) (b.notApplied hchanged)
  · exact hrejected

theorem applied_of_commits {db : Db} {e : Execution} (h : e.commits db = true) :
    Applied (e.perform db) e.segmentId e.newFare := by
  rcases perform_cases db e with ⟨b, hid, hnew, hb⟩ | ⟨hrejected, -⟩
  · rw [hb, ← hid, ← hnew]
    refine ⟨b.segment.move b.newFlightId b.newFareClassId b.target.price, ?_, ?_, rfl, rfl⟩
    · simp only [Rebooking.apply, Table.row_modify, b.segment_row, Option.map_some, if_true]
    · apply b.reservation_apply
      change (db.reservations.row b.segment.reservationId).isSome = true
      rw [b.reservation_row]
      rfl
  · cases hrejected.symm.trans h

end Execution

theorem Db.Follows.applied_iff {db₀ db : Db} (h : db₀.Follows db) (id : UUID) (fare : UUID × UUID) :
    Execution.Applied db id fare ↔
      ∃ change, (db.changesOf id).getLast? = some change ∧ change.newFare = fare := by
  cases hrow : db₀.reservationSegments.row id with
  | none =>
    obtain ⟨habsent, hchanges⟩ := h.absent id hrow
    simp [Execution.Applied, habsent, hchanges]
  | some original =>
    obtain ⟨segment, hsegment, hrecorded⟩ := h.segment id original hrow
    constructor
    · rintro ⟨segment', hsegment', -, hfare, hchanged⟩
      cases hsegment.symm.trans hsegment'
      have hne := hrecorded.changed.mp hchanged
      refine ⟨_, List.getLast?_eq_some_getLast hne, ?_⟩
      rw [← hfare]
      exact hrecorded.itinerary.last_of_mem (List.getLast?_eq_some_getLast hne)
    · rintro ⟨change, hlast, hfare⟩
      have hne : db.changesOf id ≠ [] := by
        intro hnil
        rw [hnil] at hlast
        cases hlast
      refine ⟨segment, hsegment, hrecorded.reservation hne, ?_, hrecorded.changed.mpr hne⟩
      rw [← hfare]
      exact (hrecorded.itinerary.last_of_mem hlast).symm

theorem performAll_history (db : Db) (hchanges : db.flightChanges = [])
    (hfresh : ∀ id segment, db.reservationSegments.row id = some segment → segment.status ≠ .changed)
    (es : List Execution) :
    (∀ id original, db.reservationSegments.row id = some original →
      ∃ segment, (Execution.performAll db es).reservationSegments.row id = some segment ∧
        Itinerary original.fare segment.fare ((Execution.performAll db es).changesOf id)) ∧
    (∀ id, db.reservationSegments.row id = none → (Execution.performAll db es).changesOf id = []) ∧
    (∀ e replay : Execution, e.commits (Execution.performAll db es) = true →
      replay.segmentId = e.segmentId → replay.newFare = e.newFare →
      replay.commits (Execution.performAll db (es ++ [e])) = false ∧
        Execution.performAll db (es ++ [e, replay]) = Execution.performAll db (es ++ [e])) ∧
    ∀ e : Execution, e.verified (Execution.performAll db es) = true ↔
      ∃ change, ((Execution.performAll db es).changesOf e.segmentId).getLast? = some change ∧
        change.newFare = e.newFare := by
  have hfollows : db.Follows (Execution.performAll db es) :=
    Execution.performAll_invariant (fun _ b h => Db.follows_apply b h) es
      (Db.follows_start hchanges hfresh)
  refine ⟨?_, ?_, ?_, ?_⟩
  · intro id original hrow
    obtain ⟨segment, hsegment, hrecorded⟩ := hfollows.segment id original hrow
    exact ⟨segment, hsegment, hrecorded.itinerary⟩
  · intro id hrow
    exact (hfollows.absent id hrow).2
  · intro e replay hcommits hid hfare
    have happlied := Execution.applied_of_commits hcommits
    rw [← hid, ← hfare] at happlied
    simp only [Execution.performAll, List.foldl_append, List.foldl_cons, List.foldl_nil]
    exact Execution.rejected_of_applied happlied
  · intro e
    rw [Execution.verified_iff]
    exact hfollows.applied_iff e.segmentId e.newFare

theorem performAll_history_sample :
    Itinerary (1, 1) (3, 1) ((Execution.performAll Sample.db Sample.executions).changesOf 1) := by
  obtain ⟨segment, hsegment, hitinerary⟩ := (performAll_history Sample.db rfl
    (fun _ _ h => Table.of_row_ofList (P := fun _ segment => segment.status ≠ .changed)
      (by decide +kernel) h) Sample.executions).1 1 _ rfl
  have hcurrent : ((Execution.performAll Sample.db Sample.executions).reservationSegments.row 1).map
      ReservationSegment.fare = some (3, 1) := by decide +kernel
  rw [hsegment, Option.map_some, Option.some.injEq] at hcurrent
  rw [hcurrent] at hitinerary
  exact hitinerary

end AgentsAtScale.Airline
