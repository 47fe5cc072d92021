import AgentsAtScale.Airline.Seats
import AgentsAtScale.Airline.Ledger
import AgentsAtScale.Transaction.Serializability

namespace AgentsAtScale.Airline

open Transaction Transition

theorem lockOnly_getRebookingSegmentForUpdate (catalog : Catalog) (id : UUID) :
    LockOnly (getRebookingSegmentForUpdate catalog id).run := by
  refine LockOnly.bind_option (.lockRow _) ?_ fun segment => ?_
  · exact .pure _
  refine LockOnly.bind_option (.lockRow _) ?_ fun reservation => ?_
  · exact .pure _
  dsimp only
  split
  · split <;> exact .pure _
  · exact .pure _

theorem lockOnly_getRebookingTargetForUpdate (catalog : Catalog) (flightId fareClassId : UUID) :
    LockOnly (getRebookingTargetForUpdate catalog flightId fareClassId).run := by
  refine LockOnly.bind_option (.lockRow _) ?_ fun flight => ?_
  · exact .pure _
  refine LockOnly.bind_option (.lockRow _) ?_ fun fare => ?_
  · exact .pure _
  dsimp only
  split
  · split <;> exact .pure _
  · exact .pure _

theorem lockOnly_getTravelCreditForUpdate (id customerId : UUID) :
    LockOnly (getTravelCreditForUpdate id customerId).run := by
  refine LockOnly.bind_option (.lockRow _) ?_ fun credit => ?_
  · exact .pure _
  dsimp only
  split <;> exact .pure _

theorem lockOnly_decrementFlightFareSeats (n : Int) (flightId fareClassId : UUID) :
    LockOnly (decrementFlightFareSeats n flightId fareClassId).run := by
  refine LockOnly.bind_option (.lockRow _) ?_ fun fare => ?_
  · exact .pure _
  dsimp only
  split
  · exact LockOnly.bind (.check _) fun _ => .writeRow _ _
  · exact .pure _

theorem lockOnly_incrementFlightFareSeats (n : Int) (flightId fareClassId : UUID) :
    LockOnly (incrementFlightFareSeats n flightId fareClassId).run := by
  refine LockOnly.bind_option (.lockRow _) ?_ fun fare => ?_
  · exact .pure _
  exact LockOnly.bind (.check _) fun _ => .writeRow _ _

theorem lockOnly_updateReservationTotal (id : UUID) (amount : Decimal) :
    LockOnly (updateReservationTotal id amount).run := by
  refine LockOnly.bind_option (.lockRow _) ?_ fun reservation => ?_
  · exact .pure _
  exact LockOnly.bind (.check _) fun _ => .writeRow _ _

theorem lockOnly_updateReservationSegment (id flightId fareClassId : UUID) (price : Decimal)
    (currency : String) :
    LockOnly (updateReservationSegment id flightId fareClassId price currency).run := by
  refine LockOnly.bind_option (.lockRow _) ?_ fun segment => ?_
  · exact .pure _
  exact LockOnly.bind (.check _) fun _ => .writeRow _ _

theorem lockOnly_consumeTravelCredit (id : UUID) (amount : Decimal) :
    LockOnly (consumeTravelCredit id amount).run := by
  refine LockOnly.bind_option (.lockRow _) ?_ fun credit => ?_
  · exact .pure _
  dsimp only
  split
  · exact LockOnly.bind (.check _) fun _ => .writeRow _ _
  · exact .pure _

theorem lockOnly_createFlightChange (change : FlightChange) :
    LockOnly (createFlightChange change).run := by
  apply LockOnly.bind (.check _)
  intro fareDifference
  apply LockOnly.bind (.check _)
  intro changeFee
  apply LockOnly.bind (.check _)
  intro travelCreditUsed
  exact LockOnly.bind (.insertRow _) fun _ => .pure _

namespace Dialect

variable (d : Dialect γ ε)

theorem lockOnly_snapshot (catalog : Catalog) (selection : RebookingSelection γ) :
    LockOnly (d.snapshot catalog selection).run := by
  refine LockOnly.bind_option (.adapt _ (lockOnly_getRebookingSegmentForUpdate _ _)) ?_ fun segment => ?_
  · exact .throw _
  refine LockOnly.bind_option (.adapt _ (lockOnly_getRebookingTargetForUpdate _ _ _)) ?_ fun target => ?_
  · exact .throw _
  dsimp only
  split
  · exact .pure _
  · refine LockOnly.bind_option (.adapt _ (lockOnly_getTravelCreditForUpdate _ _)) ?_ fun credit => ?_
    · exact .throw _
    · exact .pure _

theorem lockOnly_execute (catalog : Catalog) (now : Timestamp) (selection : RebookingSelection γ) :
    LockOnly (d.execute catalog now selection).run := by
  apply LockOnly.bind (d.lockOnly_snapshot catalog selection)
  intro snapshot
  apply LockOnly.bind (.check _)
  intro validation
  apply LockOnly.bind (.adapt _ (lockOnly_decrementFlightFareSeats _ _ _))
  intro _
  apply LockOnly.bind (.adapt _ (lockOnly_incrementFlightFareSeats _ _ _))
  intro _
  apply LockOnly.bind (.adapt _ (lockOnly_updateReservationSegment _ _ _ _ _))
  intro _
  apply LockOnly.bind (.adapt _ (lockOnly_updateReservationTotal _ _))
  intro _
  have record (result : FlightChange → RebookingResult) :
      LockOnly (d.exec "record flight change" (createFlightChange validation.flightChange) >>=
        fun change => pure (result change)).run :=
    LockOnly.bind (.adapt _ (lockOnly_createFlightChange _)) fun _ => .pure _
  split
  · apply LockOnly.bind (.adapt _ (lockOnly_consumeTravelCredit _ _))
    intro _
    exact record _
  · exact record _

end Dialect

/-- A rebooking by one of the two repositories that run the `airline.sql` statements. -/
inductive SqlExecution
  | go (now : Timestamp) (selection : RebookingSelection UUID)
  | asyncpg (now : Timestamp) (selection : RebookingSelection (Option UUID))

namespace SqlExecution

def transaction (catalog : Catalog) :
    SqlExecution → Sql (Go.ExecuteError ⊕ Python.ExecuteError) RebookingResult
  | .go now selection => ExceptT.adapt .inl (Go.execute catalog now selection)
  | .asyncpg now selection => ExceptT.adapt .inr (Asyncpg.execute catalog now selection)

def execution : SqlExecution → Execution
  | .go now selection => .go now selection
  | .asyncpg now selection => .asyncpg now selection

theorem lockOnly_transaction (catalog : Catalog) (e : SqlExecution) :
    LockOnly (e.transaction catalog).run := by
  cases e with
  | go now selection => exact .adapt _ (Go.dialect.lockOnly_execute catalog now selection)
  | asyncpg now selection => exact .adapt _ (Asyncpg.dialect.lockOnly_execute catalog now selection)

theorem perform_execution {e : SqlExecution} {db db' : Db} {result : RebookingResult}
    (h : Commits (e.transaction db.catalog) db result db') : e.execution.perform db = db' := by
  cases e with
  | go now selection =>
    exact congrArg Prod.snd (atomically_eq_ok.mpr (Commits.adapt_iff.mp h))
  | asyncpg now selection =>
    exact congrArg Prod.snd (atomically_eq_ok.mpr (Commits.adapt_iff.mp h))

end SqlExecution

theorem Execution.catalog_performAll (db : Db) (es : List Execution) :
    (performAll db es).catalog = db.catalog :=
  performAll_eq (f := Db.catalog) (fun _ _ => rfl) es db

theorem Execution.performAll_append (db : Db) (es : List Execution) (e : Execution) :
    performAll db (es ++ [e]) = e.perform (performAll db es) := by
  simp [performAll]

theorem performAll_of_serial {Tid : Type} {requests : Tid → SqlExecution} {db db' : Db}
    {history : List (Tid × RebookingResult)}
    (h : Serial (fun t => (requests t).transaction db.catalog) db history db') :
    db' = Execution.performAll db (history.map fun c => (requests c.1).execution) := by
  induction h with
  | nil => rfl
  | snoc _ hrun ih =>
    rw [atomically_eq_ok, ← Execution.catalog_performAll db, ← ih] at hrun
    rw [List.map_append, List.map_singleton, Execution.performAll_append, ← ih]
    exact (SqlExecution.perform_execution hrun).symm

theorem committed_eq_performAll {Tid : Type} [DecidableEq Tid] (db : Db)
    (requests : Tid → SqlExecution)
    (s : Sys Tid Db RowKey Row FlightChange (Go.ExecuteError ⊕ Python.ExecuteError) RebookingResult)
    (h : Reaches (Sys.step fun t => (requests t).transaction db.catalog) (Sys.start db) s) :
    s.committed = Execution.performAll db (s.history.map fun c => (requests c.1).execution) ∧
    Serial (fun t => (requests t).transaction db.catalog) db s.history s.committed ∧
    ((∀ fare ff, db.flightFares.row fare = some ff → 0 ≤ ff.availableSeats) →
      ∀ fare ff, s.committed.flightFares.row fare = some ff → 0 ≤ ff.availableSeats) ∧
    ((∀ id credit, db.travelCredits.row id = some credit → credit.Balanced) →
      ∀ id credit, s.committed.travelCredits.row id = some credit → credit.Balanced) := by
  have hserial := Sys.serial_of_reaches (fun t => (requests t).lockOnly_transaction db.catalog) h
  have hcom := performAll_of_serial hserial
  refine ⟨hcom, hserial, ?_, ?_⟩
  · intro hseats
    rw [hcom]
    exact Execution.performAll_invariant
      (P := fun db => ∀ fare ff, db.flightFares.row fare = some ff → 0 ≤ ff.availableSeats)
      (fun _ b => b.availableSeats_nonneg) _ hseats
  · intro hcredits
    rw [hcom]
    exact Execution.performAll_invariant
      (P := fun db => ∀ id credit, db.travelCredits.row id = some credit → credit.Balanced)
      (fun _ b => b.balanced_apply) _ hcredits

namespace Sample

def requests : Bool → SqlExecution
  | true => .go 0 upgrade
  | false => .asyncpg 0 other

def interleaving : List (Act Bool) :=
  [.begin true, .begin false] ++ List.replicate 2 (.exec true) ++ [.exec false] ++
    List.replicate 14 (.exec true) ++ [.commit true] ++ List.replicate 12 (.exec false) ++
    [.commit false]

end Sample

theorem committed_eq_performAll_sample :
    ∃ s, Reaches (Sys.step fun t => (Sample.requests t).transaction Sample.db.catalog)
        (Sys.start Sample.db) s ∧
      s.history.map Prod.fst = [true, false] ∧
      s.committed = Execution.performAll Sample.db
        (s.history.map fun c => (Sample.requests c.1).execution) := by
  have hrun : ((run (Sys.step fun t => (Sample.requests t).transaction Sample.db.catalog)
      (fun _ _ => True) (Sys.start Sample.db) Sample.interleaving).map fun s =>
        s.history.map Prod.fst) = some [true, false] := by decide +kernel
  obtain ⟨s, hs, hhistory⟩ := Option.map_eq_some_iff.mp hrun
  have hreach := reach_of_run hs
  exact ⟨s, hreach, hhistory, (committed_eq_performAll Sample.db Sample.requests s hreach).1⟩

end AgentsAtScale.Airline
