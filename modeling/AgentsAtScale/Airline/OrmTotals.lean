import AgentsAtScale.Airline.Ledger
import AgentsAtScale.Transaction.RelyGuarantee

namespace AgentsAtScale.Airline

open Transaction Transition

def reservationWrites (writes : List (Sigma Row)) : List (UUID × Reservation) :=
  writes.filterMap fun
    | ⟨.reservation id, r⟩ => some (id, r)
    | _ => none

def lastRead (reads : List (Sigma fun k => Option (Row k))) (id : UUID) :
    Option (Option Reservation) :=
  reads.findSome? fun
    | ⟨.reservation id', r⟩ => if id' = id then some r else none
    | _ => none

namespace Orm

open Python

variable {db : Db} {m : Log RowKey Row} {selection : RebookingSelection (Option UUID)}

def KeepsReservation (db : Db) : (k : RowKey) → Row k → Prop
  | .segment id, segment => db.reservationOf id = some segment.reservationId
  | _, _ => True

abbrev Keeps (db : Db) (m : Log RowKey Row) (p : Sql ε α) (Q : Log RowKey Row → α → Prop) : Prop :=
  Ensures (KeepsReservation db) m p Q

def Quiet (m m' : Log RowKey Row) : Prop :=
  reservationWrites m'.writes = reservationWrites m.writes

def Silent (m m' : Log RowKey Row) : Prop := Quiet m m' ∧ m'.reads = m.reads

theorem keeps_selectRow {lock : Bool} {k : RowKey} :
    Keeps db m (selectRow lock k : Sql ε _) fun m' r =>
      Quiet m m' ∧ ∀ x, r = some x → KeepsReservation db k x := by
  cases lock with
  | false => exact .readRow fun _ hr => ⟨rfl, hr⟩
  | true => exact .lockRow fun _ hr => ⟨rfl, hr⟩

theorem keeps_readReservation {id : UUID} :
    Keeps db m (readRow (RowKey.reservation id) : Sql ε _) fun m' r =>
      Quiet m m' ∧ lastRead m'.reads id = some r := by
  apply Ensures.readRow
  intro r _
  exact ⟨rfl, by simp [lastRead]⟩

theorem keeps_column {x : Except SqlError α} :
    Keeps db m (column x) fun m' a => m' = m ∧ x = .ok a := by
  apply Ensures.check
  intro a ha
  exact ⟨rfl, mapError_eq_ok.mp ha⟩

theorem keeps_target {lock : Bool} :
    Keeps db m (target selection lock) fun m' _ => Quiet m m' := by
  apply Ensures.bind keeps_selectRow
  rintro m' fare ⟨hm, -⟩
  cases fare with
  | none => exact .throw
  | some fare => exact .pure hm

theorem keeps_lockFares {oldFlightId oldFareClassId : UUID} :
    Keeps db m (lockFares oldFlightId oldFareClassId selection) fun m' _ => Quiet m m' := by
  unfold lockFares
  generalize fareKeys _ _ = keys
  induction keys with
  | nil => exact .pure rfl
  | cons key keys ih =>
    apply Ensures.bind (Q := fun m' _ => m' = m)
    · apply Ensures.bind (.lockRow (Q := fun m' _ => m' = m) fun _ _ => rfl)
      rintro _ _ rfl
      exact .pure rfl
    · rintro _ _ rfl
      exact ih

theorem keeps_snapshot {lock : Bool} :
    Keeps db m (snapshot db.catalog selection lock) fun m' r =>
      Quiet m m' ∧ db.reservationOf selection.segmentId = some r.1.reservationId := by
  apply Ensures.bind keeps_selectRow
  rintro m₁ segment ⟨h₁, hseg⟩
  cases segment with
  | none => exact .throw
  | some segment =>
    apply Ensures.bind (Q := fun m' _ => Quiet m m') (.readRow fun _ _ => h₁)
    intro m₂ reservation h₂
    cases reservation with
    | none => exact .throw
    | some reservation =>
      dsimp only
      split
      · split
        · apply Ensures.bind keeps_target
          intro m₃ target h₃
          have hq : Quiet m m₃ := h₃.trans h₂
          split
          · split
            · split
              · exact .pure ⟨hq, hseg segment rfl⟩
              · apply Ensures.bind keeps_selectRow
                rintro m₄ credit ⟨h₄, -⟩
                cases credit with
                | none => exact .throw
                | some credit => exact .pure ⟨h₄.trans hq, hseg segment rfl⟩
            · exact .throw
          · exact .throw
        · exact .throw
      · exact .throw

theorem keeps_flushSeats {flightId fareClassId : UUID} {fare : FlightFare} :
    Keeps db m (flushSeats flightId fareClassId fare) fun m' _ => Quiet m m' := by
  apply Ensures.bind keeps_column
  rintro _ n ⟨rfl, -⟩
  exact .writeRow trivial rfl

theorem keeps_takeSeats {n : Int} : Keeps db m (takeSeats selection n) fun m' _ => Quiet m m' := by
  apply Ensures.bind keeps_target
  intro m₁ fare h₁
  split
  · exact .throw
  · exact keeps_flushSeats.mono fun m₂ _ h₂ => h₂.trans h₁

theorem keeps_returnSeats {flightId fareClassId : UUID} {n : Int} :
    Keeps db m (returnSeats flightId fareClassId n) fun m' _ => Quiet m m' := by
  apply Ensures.bind (.lockRow (Q := fun m' _ => m' = m) fun _ _ => rfl)
  rintro _ fare rfl
  cases fare with
  | none => exact .throw
  | some fare => exact keeps_flushSeats

theorem keeps_flushReservation {id : UUID} {totalAmount : Decimal} :
    Keeps db m (flushReservation id totalAmount) fun m' _ =>
      (∃ r, reservationWrites m'.writes = (id, r) :: reservationWrites m.writes ∧
        r.totalAmount = totalAmount) ∧ m'.reads = m.reads := by
  apply Ensures.bind keeps_column
  rintro m total ⟨rfl, htotal⟩
  cases numeric_eq_ok htotal
  apply Ensures.bind (.lockRow (Q := fun m' _ => m' = m) fun _ _ => rfl)
  rintro _ reservation rfl
  cases reservation with
  | none => exact .throw
  | some reservation => exact .writeRow trivial ⟨⟨_, rfl, rfl⟩, rfl⟩

theorem keeps_flushSegment {id : UUID} {segment : ReservationSegment}
    (h : db.reservationOf id = some segment.reservationId) :
    Keeps db m (flushSegment id segment) fun m' _ => Silent m m' := by
  apply Ensures.bind keeps_column
  rintro _ price ⟨rfl, -⟩
  exact .writeRow h ⟨rfl, rfl⟩

theorem keeps_consumeCredit {id : UUID} {amount : Decimal} :
    Keeps db m (consumeCredit id amount) fun m' _ => Silent m m' := by
  apply Ensures.bind (.lockRow (Q := fun m' _ => m' = m) fun _ _ => rfl)
  rintro _ credit rfl
  cases credit with
  | none => exact .throw
  | some credit =>
    apply Ensures.bind keeps_column
    rintro _ remaining ⟨rfl, -⟩
    exact .writeRow trivial ⟨rfl, rfl⟩

theorem keeps_createFlightChange {change : FlightChange} :
    Keeps db m (createFlightChange change) fun m' change' => m' = m ∧ change' = change := by
  apply Ensures.bind (.check (Q := fun m' a => m' = m ∧ a = change.fareDifference)
    fun _ h => ⟨rfl, numeric_eq_ok h⟩)
  rintro m _ ⟨rfl, rfl⟩
  apply Ensures.bind (.check (Q := fun m' a => m' = m ∧ a = change.changeFee)
    fun _ h => ⟨rfl, numeric_eq_ok h⟩)
  rintro m _ ⟨rfl, rfl⟩
  apply Ensures.bind (.check (Q := fun m' a => m' = m ∧ a = change.travelCreditUsed)
    fun _ h => ⟨rfl, numeric_eq_ok h⟩)
  rintro m _ ⟨rfl, rfl⟩
  apply Ensures.bind (.insertRow (Q := fun m' _ => m' = m) rfl)
  rintro _ _ rfl
  exact .pure ⟨rfl, rfl⟩

/-- A transaction that returns has written one reservation, with the total it
read plus the amount of the change it returns. -/
structure Writes (db : Db) (m : Log RowKey Row) (result : RebookingResult) : Prop where
  effect : ∃ change id read written, result.change = some change ∧
    db.reservationOf change.reservationSegmentId = some id ∧
    lastRead m.reads id = some (some read) ∧ reservationWrites m.writes = [(id, written)] ∧
    written.totalAmount = read.totalAmount + change.amount

theorem keeps_execute {now : Timestamp} :
    Keeps db {} (execute db.catalog now selection) (Writes db) := by
  apply Ensures.bind keeps_snapshot
  rintro m₁ first ⟨h₁, -⟩
  apply Ensures.bind keeps_lockFares
  intro m₂ _ h₂
  apply Ensures.bind keeps_snapshot
  rintro m₃ ⟨snapshot, credit⟩ ⟨h₃, hres⟩
  apply Ensures.bind (.check (Q := fun m' a => m' = m₃ ∧
    Accepted selection.travelCreditId selection snapshot credit a)
    fun _ h => ⟨rfl, accepted_of_execute h⟩)
  rintro m₃ validation ⟨rfl, hacc⟩
  apply Ensures.bind keeps_takeSeats
  intro m₄ _ h₄
  apply Ensures.bind keeps_returnSeats
  intro m₅ _ h₅
  have hq : reservationWrites m₅.writes = [] := h₅.trans (h₄.trans (h₃.trans (h₂.trans h₁)))
  have hid : validation.reservationId = snapshot.reservationId := by rw [hacc.validation]; rfl
  apply Ensures.bind (.readRow (Q := fun m' r => Quiet m₅ m' ∧
    ∀ x, r = some x → KeepsReservation db (.segment selection.segmentId) x) fun _ hr => ⟨rfl, hr⟩)
  rintro m₆ segment ⟨h₆, hseg⟩
  cases segment with
  | none => exact .throw
  | some segment =>
    apply Ensures.bind keeps_readReservation
    rintro m₇ reservation ⟨h₇, hread⟩
    cases reservation with
    | none => exact .throw
    | some reservation =>
      apply Ensures.bind keeps_flushReservation
      rintro m₈ _ ⟨⟨written, h₈, htotal⟩, hr₈⟩
      refine Ensures.bind (keeps_flushSegment ?_) ?_
      · exact hseg segment rfl
      rintro m₉ _ ⟨h₉, hr₉⟩
      have done {m' : Log RowKey Row} (hm : Silent m₉ m') (result : FlightChange → RebookingResult)
          (hresult : ∀ change, (result change).change = some change) :
          Keeps db m' (ExceptT.adapt ExecuteError.database (createFlightChange validation.flightChange) >>=
            fun change => pure (result change)) (Writes db) := by
        apply Ensures.bind (.adapt keeps_createFlightChange)
        rintro _ change ⟨rfl, rfl⟩
        apply Ensures.pure
        refine ⟨_, validation.reservationId, reservation, written, hresult _, ?_, ?_, ?_, htotal⟩
        · rw [hid]
          change db.reservationOf validation.selection.segmentId = _
          rw [hacc.validation]
          exact hres
        · rw [hm.2, hr₉, hr₈]
          exact hread
        · rw [hm.1, h₉, h₈, h₇, h₆, hq]
      dsimp only
      split
      · apply Ensures.bind keeps_consumeCredit
        intro m' _ hm
        exact done hm _ fun _ => rfl
      · exact done ⟨rfl, rfl⟩ _ fun _ => rfl

theorem row_image (db : Db) (writes : List (Sigma Row)) (id : UUID) :
    (image writes db).reservations.row id = (db.reservations.row id).map fun r =>
      ((reservationWrites writes).find? fun w => w.1 = id).elim r Prod.snd := by
  induction writes with
  | nil => simp [image, reservationWrites]
  | cons w writes ih =>
    obtain ⟨k, r⟩ := w
    cases k with
    | reservation id' =>
      change ((image writes db).reservations.update id' r).row id = _
      by_cases hid : id' = id
      · subst hid
        rw [Table.row_update_self, ih, Option.map_map]
        simp [reservationWrites, Function.comp_def]
      · rw [Table.row_update_of_ne _ (Ne.symm hid), ih]
        simp [reservationWrites, hid]
    | _ => exact ih

section

variable {Tid : Type} [DecidableEq Tid]

abbrev System (Tid : Type) := Sys Tid Db RowKey Row FlightChange ExecuteError RebookingResult

def transactions (db : Db) (requests : Tid → Timestamp × RebookingSelection (Option UUID)) (t : Tid) :
    Sql ExecuteError RebookingResult :=
  execute db.catalog (requests t).1 (requests t).2

/-- A transaction commits only while the reservation it writes still has the
total that it read. -/
def TotalUnchanged (s : System Tid) : Act Tid → Prop
  | .commit t => ∀ x ∈ s.active t, ∀ w ∈ reservationWrites x.writes,
      (lastRead x.reads w.1).map (Option.map Reservation.totalAmount) =
        some ((s.committed.reservations.row w.1).map Reservation.totalAmount)
  | _ => True

instance (s : System Tid) (a : Act Tid) : Decidable (TotalUnchanged s a) :=
  match a with
  | .commit t => inferInstanceAs (Decidable (∀ x ∈ s.active t, ∀ w ∈ reservationWrites x.writes,
      (lastRead x.reads w.1).map (Option.map Reservation.totalAmount) =
        some ((s.committed.reservations.row w.1).map Reservation.totalAmount)))
  | .begin _ => .isTrue trivial
  | .exec _ => .isTrue trivial
  | .abort _ => .isTrue trivial

def committedChanges (s : System Tid) : List FlightChange :=
  s.history.filterMap fun c => c.2.change

def TotalsFollow (db : Db) (s : System Tid) : Prop :=
  ∀ id, (s.committed.reservations.row id).map Reservation.totalAmount =
    (db.reservations.row id).map fun r => r.totalAmount +
      changesSum (committedChanges s) (fun segmentId => db.reservationOf segmentId = some id)
        FlightChange.amount

theorem TotalsFollow.commit {s s' : System Tid} {t : Tid}
    {requests : Tid → Timestamp × RebookingSelection (Option UUID)}
    (h : TotalsFollow db s) (hg : Sys.Guarded (KeepsReservation db) (fun _ => Writes db) s)
    (hok : TotalUnchanged s (.commit t))
    (hs : s.step (transactions db requests) (.commit t) = some s') : TotalsFollow db s' := by
  obtain ⟨x, result, hx, hrest, rfl⟩ := Sys.step_commit hs
  have hw := hg.rest t x hx
  rw [hrest] at hw
  obtain ⟨change, rid, read, written, hchange, hres, hread, hwrites, htotal⟩ := (hw result rfl).effect
  have hstored : (s.committed.reservations.row rid).map Reservation.totalAmount =
      some read.totalAmount := by
    have hfresh := hok x hx (rid, written) (by rw [hwrites]; simp)
    rw [hread] at hfresh
    exact (Option.some.inj hfresh).symm
  intro id
  have hrow : (x.publish s.committed).reservations.row id =
      (s.committed.reservations.row id).map fun r => if rid = id then written else r := by
    refine (x.fetch_publish s.committed (.reservation id)).trans ?_
    change (image x.writes s.committed).reservations.row id = _
    rw [row_image, hwrites]
    congr 1
    funext r
    by_cases hid : rid = id <;> simp [hid]
  have hchanges : (s.history ++ [(t, result)]).filterMap (fun c => c.2.change) =
      committedChanges s ++ [change] := by
    simp [committedChanges, hchange]
  change ((x.publish s.committed).reservations.row id).map _ = _
  rw [hrow, committedChanges, hchanges]
  simp only [changesSum_append, hres, Option.some.injEq]
  by_cases hid : rid = id
  · subst hid
    obtain ⟨r, hr, hrtotal⟩ := Option.map_eq_some_iff.mp hstored
    obtain ⟨r₀, hr₀, hsum⟩ := Option.map_eq_some_iff.mp ((h rid).symm.trans hstored)
    simp only [hr, hr₀, Option.map_some, if_true, htotal, ← hsum]
    rw [add_assoc]
  · simp only [hid, if_false, add_zero, Option.map_id']
    exact h id

theorem TotalsFollow.step {s s' : System Tid} {a : Act Tid}
    {requests : Tid → Timestamp × RebookingSelection (Option UUID)}
    (h : TotalsFollow db s) (hg : Sys.Guarded (KeepsReservation db) (fun _ => Writes db) s)
    (hok : TotalUnchanged s a) (hs : s.step (transactions db requests) a = some s') :
    TotalsFollow db s' := by
  cases a with
  | begin t =>
    obtain ⟨-, rfl⟩ := Sys.step_begin hs
    exact h
  | exec t =>
    obtain ⟨x, o, f, -, -, hcom, hhist, -⟩ := Sys.step_exec hs
    unfold TotalsFollow committedChanges
    rw [hcom, hhist]
    exact h
  | commit t => exact h.commit hg hok hs
  | abort t =>
    rw [Sys.step_abort hs]
    exact h

theorem guarded {s : System Tid} {ok : System Tid → Act Tid → Prop}
    {requests : Tid → Timestamp × RebookingSelection (Option UUID)}
    (h : Reach (Sys.step (transactions db requests)) ok (Sys.start db) s) :
    Sys.Guarded (KeepsReservation db) (fun _ => Writes db) s := by
  apply Sys.guarded_of_reach _ _ h
  · intro t
    exact keeps_execute
  · intro k r hr
    cases k with
    | segment id => exact congrArg (Option.map ReservationSegment.reservationId) hr
    | _ => trivial

theorem totals_of_reach (db : Db)
    (requests : Tid → Timestamp × RebookingSelection (Option UUID)) (s : System Tid)
    (h : Reach (Sys.step (transactions db requests)) TotalUnchanged (Sys.start db) s) (id : UUID) :
    (s.committed.reservations.row id).map Reservation.totalAmount =
      (db.reservations.row id).map fun reservation => reservation.totalAmount +
        changesSum (committedChanges s) (fun segmentId => db.reservationOf segmentId = some id)
          fun change => change.fareDifference + change.changeFee - change.travelCreditUsed := by
  have follow : TotalsFollow db s := by
    induction h with
    | refl =>
      intro id
      simp [Sys.start, committedChanges]
    | tail hreach hok hstep ih => exact ih.step (guarded hreach) hok hstep
  exact follow id

end

def sampleRequests : Bool → Timestamp × RebookingSelection (Option UUID)
  | true => (0, Sample.downgrade)
  | false => (0, Sample.other)

def alone (t : Bool) : List (Act Bool) := [.begin t] ++ List.replicate 18 (.exec t) ++ [.commit t]

def overlapping : List (Act Bool) :=
  [.begin true, .begin false] ++ List.replicate 14 (.exec true) ++ List.replicate 14 (.exec false) ++
    List.replicate 4 (.exec true) ++ [.commit true] ++ List.replicate 4 (.exec false) ++
    [.commit false]

theorem totals_of_reach_sample :
    ∃ s, Reach (Sys.step (transactions Sample.db sampleRequests)) TotalUnchanged
        (Sys.start Sample.db) s ∧
      s.history.map Prod.fst = [true, false] ∧
      (s.committed.reservations.row 1).map Reservation.totalAmount =
        (Sample.db.reservations.row 1).map fun reservation => reservation.totalAmount +
          changesSum (committedChanges s) (fun segmentId => Sample.db.reservationOf segmentId = some 1)
            fun change => change.fareDifference + change.changeFee - change.travelCreditUsed := by
  have hrun : ((run (Sys.step (transactions Sample.db sampleRequests)) TotalUnchanged
      (Sys.start Sample.db) (alone true ++ alone false)).map fun s => s.history.map Prod.fst) =
        some [true, false] := by decide +kernel
  obtain ⟨s, hs, hhistory⟩ := Option.map_eq_some_iff.mp hrun
  exact ⟨s, reach_of_run hs, hhistory, totals_of_reach Sample.db sampleRequests s (reach_of_run hs) 1⟩

/-- The second commit overwrites the first: both changes are recorded, and the
total has only the second one. -/
theorem total_lost_update :
    ∃ s, Reaches (Sys.step (transactions Sample.db sampleRequests)) (Sys.start Sample.db) s ∧
      s.active true = none ∧ s.active false = none ∧
      (Sample.db.reservations.row 1).map Reservation.totalAmount = some 200 ∧
      changesSum (committedChanges s) (fun segmentId => Sample.db.reservationOf segmentId = some 1)
        (fun change => change.fareDifference + change.changeFee - change.travelCreditUsed) = -90 ∧
      (s.committed.reservations.row 1).map Reservation.totalAmount = some 160 := by
  have hrun : ((run (Sys.step (transactions Sample.db sampleRequests)) (fun _ _ => True)
      (Sys.start Sample.db) overlapping).map fun s =>
        ((s.active true).isNone && (s.active false).isNone,
          changesSum (committedChanges s) (fun segmentId => Sample.db.reservationOf segmentId = some 1)
            (fun change => change.fareDifference + change.changeFee - change.travelCreditUsed),
          (s.committed.reservations.row 1).map Reservation.totalAmount)) =
        some (true, -90, some 160) := by decide +kernel
  obtain ⟨s, hs, h⟩ := Option.map_eq_some_iff.mp hrun
  simp only [Prod.mk.injEq, Bool.and_eq_true, Option.isNone_iff_eq_none] at h
  exact ⟨s, reach_of_run hs, h.1.1, h.1.2, by decide +kernel, h.2.1, h.2.2⟩

end Orm

end AgentsAtScale.Airline
