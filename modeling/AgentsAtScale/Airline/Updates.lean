import AgentsAtScale.Airline.Serial

namespace AgentsAtScale.Airline

open Transaction

namespace Dialect

variable (d : Dialect γ ε)

def updates (selection : RebookingSelection γ) (validation : RebookingValidation γ) :
    List (String × Sql SqlError Unit) :=
  [("decrement rebooking inventory",
      decrementFlightFareSeats validation.passengerCount validation.newFlightId
        validation.newFareClassId),
    ("restore original inventory",
      incrementFlightFareSeats validation.passengerCount validation.oldFlightId
        validation.oldFareClassId),
    ("update reservation segment",
      updateReservationSegment selection.segmentId validation.newFlightId validation.newFareClassId
        validation.newPrice validation.currency),
    ("update reservation total",
      updateReservationTotal validation.reservationId
        (validation.fareDifference + validation.changeFee - validation.travelCreditUsed))] ++
  match d.creditId selection.travelCreditId with
  | none => []
  | some id => [("consume travel credit", consumeTravelCredit id selection.travelCreditAmount)]

theorem execute_eq (catalog : Catalog) (now : Timestamp) (selection : RebookingSelection γ) :
    d.execute catalog now selection = (do
      let (snapshot, credit) ← d.snapshot catalog selection
      let validation ← check (d.validate now selection snapshot credit)
      forM (d.updates selection validation) fun update => d.exec update.1 update.2
      let change ← d.exec "record flight change" (createFlightChange validation.flightChange)
      return {
        change := some change
        segmentId := selection.segmentId
        segment := validation.segment
        bookingReference := "" }) := by
  unfold execute updates
  congr 1
  funext ⟨snapshot, credit⟩
  dsimp only
  congr 1
  funext validation
  cases d.creditId selection.travelCreditId with
  | none => simp only [List.append_nil, List.forM_cons, List.forM_nil, bind_assoc, pure_bind]
  | some id =>
    simp only [List.cons_append, List.nil_append, List.forM_cons, List.forM_nil, bind_assoc, pure_bind]

def validated (db : Db) (now : Timestamp) (selection : RebookingSelection γ) :
    Except ε (RebookingValidation γ) :=
  (atomically (do
    let (snapshot, credit) ← d.snapshot db.catalog selection
    check (d.validate now selection snapshot credit)) db).1

def rowCounts (db : Db) (now : Timestamp) (selection : RebookingSelection γ) : Option (List Nat) :=
  (d.validated db now selection).toOption.map fun validation =>
    Transaction.rowCounts ((d.updates selection validation).map Prod.snd) db

end Dialect

section

variable {db db' : Db} {u : Unit}

theorem length_written_decrementFlightFareSeats {n : Int} {flightId fareClassId : UUID} {ff : FlightFare}
    (hff : db.flightFares.row (flightId, fareClassId) = some ff) (hn : n ≤ ff.availableSeats)
    (h : Commits (decrementFlightFareSeats n flightId fareClassId) db u db') :
    (written (decrementFlightFareSeats n flightId fareClassId).run db).length =
      (db.flightFares.row (flightId, fareClassId)).toList.length := by
  refine length_written_update (x := fun ff => integer (ff.availableSeats - n))
    (g := fun ff seats => { ff with availableSeats := seats }) rfl ?_ h
  intro r hr
  cases hff.symm.trans hr
  exact if_pos hn

theorem length_written_incrementFlightFareSeats {n : Int} {flightId fareClassId : UUID}
    (h : Commits (incrementFlightFareSeats n flightId fareClassId) db u db') :
    (written (incrementFlightFareSeats n flightId fareClassId).run db).length =
      (db.flightFares.row (flightId, fareClassId)).toList.length :=
  length_written_update (g := fun ff seats => { ff with availableSeats := seats }) rfl (fun _ _ => rfl) h

theorem length_written_updateReservationTotal {id : UUID} {amount : Decimal}
    (h : Commits (updateReservationTotal id amount) db u db') :
    (written (updateReservationTotal id amount).run db).length =
      (db.reservations.row id).toList.length :=
  length_written_update (g := fun r total => { r with totalAmount := total }) rfl (fun _ _ => rfl) h

theorem length_written_updateReservationSegment {id flightId fareClassId : UUID} {price : Decimal}
    {currency : String}
    (h : Commits (updateReservationSegment id flightId fareClassId price currency) db u db') :
    (written (updateReservationSegment id flightId fareClassId price currency).run db).length =
      (db.reservationSegments.row id).toList.length :=
  length_written_update (g := fun rs price =>
    { rs with
      flightId := flightId
      fareClassId := fareClassId
      pricePaid := price
      status := .changed
      currency := currency }) rfl (fun _ _ => rfl) h

theorem length_written_consumeTravelCredit {id : UUID} {amount : Decimal} {credit : TravelCredit}
    (hc : db.travelCredits.row id = some credit) (ha : amount ≤ credit.remainingAmount)
    (h : Commits (consumeTravelCredit id amount) db u db') :
    (written (consumeTravelCredit id amount).run db).length =
      (db.travelCredits.row id).toList.length := by
  refine length_written_update (x := fun credit => numeric (credit.remainingAmount - amount))
    (g := fun credit remaining =>
      { credit with
        remainingAmount := remaining
        status := if remaining = 0 then .used else .partiallyUsed }) rfl ?_ h
  intro r hr
  cases hc.symm.trans hr
  exact if_pos ha

end

namespace Dialect

variable {d : Dialect γ ε} {db db' : Db} {now : Timestamp} {selection : RebookingSelection γ}

theorem validated_of_commits {snapshot : RebookingSnapshot} {credit : Option CreditValue}
    {validation : RebookingValidation γ}
    (hs : Commits (d.snapshot db.catalog selection) db (snapshot, credit) db)
    (hv : d.validate now selection snapshot credit = .ok validation) :
    d.validated db now selection = .ok validation := by
  have h : Commits (do
      let (snapshot, credit) ← d.snapshot db.catalog selection
      check (d.validate now selection snapshot credit)) db validation db := by
    rw [Commits.bind_iff]
    refine ⟨_, _, hs, ?_⟩
    dsimp only
    rw [hv]
    rfl
  rw [validated, atomically_eq_ok.mpr h]

theorem rowCounts_of_commits [LawfulDialect d] {result : RebookingResult}
    (h : Commits (d.execute db.catalog now selection) db result db') :
    ∃ segment, db.reservationSegments.row selection.segmentId = some segment ∧
      d.rowCounts db now selection =
        some (1 :: (db.flightFares.row segment.fare).toList.length :: 1 :: 1 ::
          List.replicate (d.creditId selection.travelCreditId).toList.length 1) := by
  rw [execute_eq, Commits.bind_iff] at h
  obtain ⟨⟨snapshot, credit⟩, db, hs, h⟩ := h
  obtain ⟨rfl, ⟨o⟩⟩ := commits_snapshot hs
  simp only [Commits.check_bind] at h
  obtain ⟨validation, hv, h⟩ := h
  rw [rowCounts, validated_of_commits hs hv]
  obtain ⟨b, rfl, hid, hnew, hcid, hused⟩ := o.exists_rebooking (LawfulDialect.accepted hv)
  refine ⟨b.segment, by rw [hid]; exact b.segment_row, ?_⟩
  simp only [updates, hid, hcid, hused] at h ⊢
  -- the first four updates, and then the credit's, if there is one
  simp only [List.cons_append, List.nil_append, List.forM_cons, bind_assoc, Commits.bind_iff,
    commits_statement] at h
  obtain ⟨_, db₁, h₁, _, db₂, h₂, _, db₃, h₃, _, db₄, h₄, h⟩ := h
  have e₁ := commits_decrementFlightFareSeats b.target_row b.seats h₁
  have e₂ := commits_incrementFlightFareSeats h₂
  have hsegment : db₂.reservationSegments.row b.segmentId = some b.segment := by
    rw [e₂, e₁]; exact b.segment_row
  have e₃ := commits_updateReservationSegment hsegment h₃
  have hreservation : db₃.reservations.row b.segment.reservationId = some b.reservation := by
    rw [e₃, e₂, e₁]; exact b.reservation_row
  have e₄ := commits_updateReservationTotal h₄
  have hcredits : db₄.travelCredits = db.travelCredits := by rw [e₄, e₃, e₂, e₁]
  have hfare : (db₁.flightFares.row b.segment.fare).toList.length =
      (db.flightFares.row b.segment.fare).toList.length := by
    rw [e₁, Table.row_modify]
    cases db.flightFares.row b.segment.fare <;> rfl
  simp only [List.cons_append, List.nil_append, List.map_cons, Except.toOption, Option.map_some]
  rw [rowCounts_cons h₁, rowCounts_cons h₂, rowCounts_cons h₃, rowCounts_cons h₄, Option.some.injEq]
  rw [List.cons.injEq, List.cons.injEq, List.cons.injEq, List.cons.injEq]
  refine ⟨?_, ?_, ?_, ?_, ?_⟩
  · exact (length_written_decrementFlightFareSeats b.target_row b.seats h₁).trans
      (congrArg (·.toList.length) b.target_row)
  · exact (length_written_incrementFlightFareSeats h₂).trans hfare
  · exact (length_written_updateReservationSegment h₃).trans (congrArg (·.toList.length) hsegment)
  · exact (length_written_updateReservationTotal h₄).trans (congrArg (·.toList.length) hreservation)
  cases hc : b.travelCreditId with
  | none => rfl
  | some id =>
    obtain ⟨credit, hcredit, -, hamount, -⟩ := b.credit id hc
    rw [hc] at h
    simp only [List.forM_cons, List.forM_nil, Commits.bind_iff, commits_statement] at h
    obtain ⟨_, _, ⟨_, db₅, h₅, -⟩, -⟩ := h
    rw [← hcredits] at hcredit
    rw [List.map_singleton, rowCounts_cons h₅, length_written_consumeTravelCredit hcredit hamount h₅, hcredit]
    rfl

end Dialect

def Db.onSale (db : Db) : Int := db.flightFares.sum fun _ fare => fare.availableSeats

theorem Rebooking.onSale_apply {db : Db} (b : Rebooking db)
    (h : (db.flightFares.row b.segment.fare).isSome) : b.apply.onSale = db.onSale := by
  have htaken : (db.flightFares.modify b.newFare (·.addSeats (-b.passengerCount))).sum
      (fun _ fare => fare.availableSeats) + b.target.availableSeats =
      db.onSale + (b.target.availableSeats + -b.passengerCount) :=
    Table.sum_modify b.target_row _ _
  obtain ⟨old, hold⟩ : ∃ old, (db.flightFares.modify b.newFare
      (·.addSeats (-b.passengerCount))).row b.segment.fare = some old := by
    rw [← Option.isSome_iff_exists, Table.row_modify, Option.isSome_map]
    exact h
  have hreturned : b.apply.onSale + old.availableSeats =
      (db.flightFares.modify b.newFare (·.addSeats (-b.passengerCount))).sum
        (fun _ fare => fare.availableSeats) + (old.availableSeats + b.passengerCount) :=
    Table.sum_modify hold _ _
  omega

theorem Execution.perform_of_not_commits {db : Db} {e : Execution} (h : ¬e.commits db) :
    e.perform db = db := by
  rw [Bool.not_eq_true] at h
  cases e with
  | go now selection => exact snd_atomically_of_error h
  | asyncpg now selection => exact snd_atomically_of_error h
  | orm now selection => exact snd_atomically_of_error h

namespace SqlExecution

def rowCounts (db : Db) : SqlExecution → Option (List Nat)
  | .go now selection => Go.dialect.rowCounts db now selection
  | .asyncpg now selection => Asyncpg.dialect.rowCounts db now selection

/-- Every update changes one row, and the seats given up are on sale again. -/
structure Effective (db : Db) (e : SqlExecution) : Prop where
  updates : ∃ counts, e.rowCounts db = some counts ∧ ∀ n ∈ counts, n = 1
  onSale : (e.execution.perform db).onSale = db.onSale

theorem rowCounts_of_commits {db : Db} {e : SqlExecution} (h : e.execution.commits db) :
    ∃ segment n, db.reservationSegments.row e.execution.segmentId = some segment ∧
      e.rowCounts db = some (1 :: (db.flightFares.row segment.fare).toList.length :: 1 :: 1 ::
        List.replicate n 1) := by
  cases e with
  | go now selection =>
    rcases atomically_cases (Go.execute db.catalog now selection) db with ⟨result, hc⟩ | ⟨hfail, -⟩
    · obtain ⟨segment, hsegment, hcounts⟩ := Dialect.rowCounts_of_commits (d := Go.dialect) hc
      exact ⟨segment, _, hsegment, hcounts⟩
    · cases hfail.symm.trans h
  | asyncpg now selection =>
    rcases atomically_cases (Asyncpg.execute db.catalog now selection) db with ⟨result, hc⟩ | ⟨hfail, -⟩
    · obtain ⟨segment, hsegment, hcounts⟩ := Dialect.rowCounts_of_commits (d := Asyncpg.dialect) hc
      exact ⟨segment, _, hsegment, hcounts⟩
    · cases hfail.symm.trans h

end SqlExecution

/-- No foreign key ties a segment to the fare it was sold at, and nothing looks at the
number of rows that the update of that fare changed. -/
theorem effective_iff (db : Db) (e : SqlExecution) :
    (e.execution.commits db → (e.Effective db ↔ ∀ segment,
      db.reservationSegments.row e.execution.segmentId = some segment →
        (db.flightFares.row segment.fare).isSome)) ∧
    (¬e.execution.commits db → e.execution.perform db = db) := by
  refine ⟨fun hcommits => ?_, Execution.perform_of_not_commits⟩
  obtain ⟨segment, n, hsegment, hcounts⟩ := SqlExecution.rowCounts_of_commits hcommits
  constructor
  · intro h segment' hsegment'
    cases hsegment.symm.trans hsegment'
    obtain ⟨counts, hcounts', hone⟩ := h.updates
    cases hcounts.symm.trans hcounts'
    have hfare := hone _ (List.mem_cons_of_mem _ (List.mem_cons_self ..))
    cases hrow : db.flightFares.row segment.fare with
    | none => simp [hrow] at hfare
    | some fare => rfl
  · intro h
    obtain ⟨fare, hfare⟩ := Option.isSome_iff_exists.mp (h segment hsegment)
    refine ⟨⟨_, hcounts, by simp [hfare]⟩, ?_⟩
    rcases e.execution.perform_cases db with ⟨b, hid, -, hb⟩ | ⟨hrejected, -⟩
    · rw [hb]
      exact b.onSale_apply (h _ (hid ▸ b.segment_row))
    · cases hrejected.symm.trans hcommits

theorem effective_iff_sample :
    (SqlExecution.go 0 Sample.upgrade).execution.commits Sample.db ∧
      (SqlExecution.go 0 Sample.upgrade).Effective Sample.db := by
  have hcommits : (SqlExecution.go 0 Sample.upgrade).execution.commits Sample.db := by decide +kernel
  refine ⟨hcommits, ((effective_iff Sample.db (.go 0 Sample.upgrade)).1 hcommits).mpr ?_⟩
  intro segment hsegment
  cases hsegment
  rfl

namespace Sample

def withdrawn : Db :=
  { db with flightFares := .ofList [((2, 1), ⟨300, "USD", 5⟩), ((3, 1), ⟨50, "USD", 5⟩)] }

end Sample

theorem withdrawn_not_effective :
    Sample.withdrawn.Valid ∧ (SqlExecution.go 0 Sample.upgrade).execution.commits Sample.withdrawn ∧
      (SqlExecution.go 0 Sample.upgrade).rowCounts Sample.withdrawn = some [1, 0, 1, 1, 1] ∧
      ¬(SqlExecution.go 0 Sample.upgrade).Effective Sample.withdrawn := by
  have hcounts : (SqlExecution.go 0 Sample.upgrade).rowCounts Sample.withdrawn =
      some [1, 0, 1, 1, 1] := by decide +kernel
  have hcommits : (SqlExecution.go 0 Sample.upgrade).execution.commits Sample.withdrawn := by
    decide +kernel
  refine ⟨by decide +kernel, hcommits, hcounts, ?_⟩
  intro h
  obtain ⟨counts, hc, hone⟩ := h.updates
  cases hcounts.symm.trans hc
  exact absurd (hone 0 (by decide)) (by decide)

end AgentsAtScale.Airline
