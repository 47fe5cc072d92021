import AgentsAtScale.Airline.Serial
import AgentsAtScale.Transaction.Deadlock

namespace AgentsAtScale.Airline

open Transaction Transition

structure Footprint where
  segmentId : UUID
  newFare : UUID × UUID
  creditId : Option UUID

def Dialect.footprint (d : Dialect γ ε) (selection : RebookingSelection γ) : Footprint where
  segmentId := selection.segmentId
  newFare := (selection.newFlightId, selection.newFareClassId)
  creditId := d.creditId selection.travelCreditId

structure Traffic where
  reservationOf : UUID → Option UUID
  original : UUID → UUID × UUID → Prop

namespace Footprint

/-- The order in which one rebooking locks rows; its original fare comes last. -/
def lockClass (F : Footprint) : RowKey → ℕ
  | .segment _ => 0
  | .reservation _ => 1
  | .flight _ => 2
  | .flightFare flightId fareClassId => if (flightId, fareClassId) = F.newFare then 3 else 5
  | .travelCredit _ => 4

theorem lockClass_le (F : Footprint) (k : RowKey) : F.lockClass k ≤ 5 := by
  cases k with
  | flightFare f c =>
    simp only [lockClass]
    split <;> omega
  | _ => simp [lockClass]

variable (T : Traffic)

def Mine (F : Footprint) : RowKey → Prop
  | .segment id => id = F.segmentId
  | .reservation id => T.reservationOf F.segmentId = some id
  | .flight id => id = F.newFare.1
  | .flightFare flightId fareClassId =>
    (flightId, fareClassId) = F.newFare ∨ T.original F.segmentId (flightId, fareClassId)
  | .travelCredit id => F.creditId = some id

def AfterReservation (F : Footprint) (m : Known RowKey Row) (k : RowKey) : Prop :=
  ∀ flightId fareClassId, k = .flightFare flightId fareClassId →
    ∃ id, T.reservationOf F.segmentId = some id ∧ m.Has (.reservation id)

structure MayLock (F : Footprint) (m : Known RowKey Row) (k : RowKey) : Prop where
  mine : F.Mine T k
  reservation : F.AfterReservation T m k
  order : m k ≠ none ∨ ∀ k', m.Has k' → F.lockClass k' < F.lockClass k

def Holds (F : Footprint) (m : Known RowKey Row) : Prop :=
  ∀ k, m.Has k → F.Mine T k ∧ F.AfterReservation T m k

def SegmentRow : (k : RowKey) → Row k → Prop
  | .segment id, segment => T.reservationOf id = some segment.reservationId ∧ T.original id segment.fare
  | _, _ => True

variable {T} {F : Footprint} {m : Known RowKey Row}

theorem AfterReservation.next (ι : Type) {I : (k : RowKey) → Row k → Prop}
    {A : Known RowKey Row → RowKey → Prop} {k : RowKey} (h : F.AfterReservation T m k)
    {o : RowOp RowKey Row ι} {r : o.Reply} (hr : (heldMonitor ι I A).expected m o r) :
    F.AfterReservation T ((heldMonitor ι I A).next m o r) k := by
  intro f c hk
  obtain ⟨id, hid, hheld⟩ := h f c hk
  refine ⟨id, hid, ?_⟩
  cases o with
  | lock k' => exact hheld.lock hr.1
  | write k' r' => exact (Known.has_write m k' _ r').mpr hheld
  | read k' => exact hheld
  | insert i => exact hheld

theorem Holds.next (ι : Type) {I : (k : RowKey) → Row k → Prop} (h : F.Holds T m)
    {o : RowOp RowKey Row ι} {r : o.Reply}
    (ho : (heldMonitor ι I (F.MayLock T)).allowed m o)
    (hr : (heldMonitor ι I (F.MayLock T)).expected m o r) :
    F.Holds T ((heldMonitor ι I (F.MayLock T)).next m o r) := by
  intro k hk
  have hbefore : F.Mine T k ∧ F.AfterReservation T m k := by
    cases o with
    | lock k' =>
      rcases Known.has_lock hk with hk | rfl
      · exact h k hk
      · exact ⟨ho.mine, ho.reservation⟩
    | write k' r' => exact h k ((Known.has_write m k' k r').mp hk)
    | read k' => exact h k hk
    | insert i => exact h k hk
  exact ⟨hbefore.1, hbefore.2.next ι hr⟩

structure Ready (T : Traffic) (F : Footprint) (n : ℕ) (m : Known RowKey Row) :
    Prop where
  segment : m (.segment F.segmentId) ≠ none
  reservation : ∃ id, T.reservationOf F.segmentId = some id ∧ m.Has (.reservation id)
  target : 3 ≤ n → m (.flightFare F.newFare.1 F.newFare.2) ≠ none
  credit : 4 ≤ n → ∀ id, F.creditId = some id → m (.travelCredit id) ≠ none
  below : ∀ k, m.Has k → F.lockClass k ≤ n

namespace Ready

variable {n n' : ℕ} {k : RowKey}

theorem mayLock (h : F.Ready T n m) (hk : F.Mine T k)
    (hn : n < F.lockClass k) : F.MayLock T m k where
  mine := hk
  reservation _ _ _ := h.reservation
  order := .inr fun k' hk' => (h.below k' hk').trans_lt hn

theorem mayLock_again (h : F.Ready T n m) (hk : F.Mine T k)
    (hknown : m k ≠ none) : F.MayLock T m k where
  mine := hk
  reservation _ _ _ := h.reservation
  order := .inl hknown

theorem write (h : F.Ready T n m) (k : RowKey) (r : Row k) :
    F.Ready T n (m.write k r) where
  segment := Known.write_ne_none.mpr h.segment
  reservation := by
    obtain ⟨id, hid, hheld⟩ := h.reservation
    exact ⟨id, hid, (Known.has_write m k _ r).mpr hheld⟩
  target hn := Known.write_ne_none.mpr (h.target hn)
  credit hn id hid := Known.write_ne_none.mpr (h.credit hn id hid)
  below k' hk' := h.below k' ((Known.has_write m k k' r).mp hk')

theorem lock (h : F.Ready T n m) {r : Option (Row k)} (hr : ∀ v, m k = some v → r = v)
    (hn : n ≤ n') (hk : F.lockClass k ≤ n')
    (htarget : n < 3 → 3 ≤ n' → k = .flightFare F.newFare.1 F.newFare.2)
    (hcredit : n < 4 → 4 ≤ n' → ∀ id, F.creditId = some id → k = .travelCredit id) :
    F.Ready T n' (m.lock k r) where
  segment := Known.lock_ne_none h.segment
  reservation := by
    obtain ⟨id, hid, hheld⟩ := h.reservation
    exact ⟨id, hid, hheld.lock hr⟩
  target hn' := by
    rcases Nat.lt_or_ge n 3 with hlt | hge
    · rw [← htarget hlt hn']
      exact Known.lock_self_ne_none m k r
    · exact Known.lock_ne_none (h.target hge)
  credit hn' id hid := by
    rcases Nat.lt_or_ge n 4 with hlt | hge
    · rw [← hcredit hlt hn' id hid]
      exact Known.lock_self_ne_none m k r
    · exact Known.lock_ne_none (h.credit hge id hid)
  below k' hk' := by
    rcases Known.has_lock hk' with hk' | rfl
    · exact (h.below k' hk').trans hn
    · exact hk

end Ready

abbrev Proceeds (T : Traffic) (F : Footprint) (m : Known RowKey Row) (p : Sql ε α)
    (Q : Known RowKey Row → α → Prop) : Prop :=
  Locks (SegmentRow T) (F.MayLock T) m p Q

theorem proceeds_getRebookingSegmentForUpdate {catalog : Catalog} :
    F.Proceeds T (fun _ => none) (getRebookingSegmentForUpdate catalog F.segmentId) fun m' row =>
      ∀ x, row = some x → F.Ready T 1 m' ∧ T.reservationOf F.segmentId = some x.reservationId ∧
        T.original F.segmentId (x.oldFlightId, x.oldFareClassId) := by
  have hempty (k : RowKey) : ¬Known.Has (fun _ => none : Known RowKey Row) k := nofun
  refine Guarantees.bind (Locks.lockRow (Q := fun m' r => m' (.segment F.segmentId) ≠ none ∧
    (∀ k, m'.Has k → F.lockClass k = 0) ∧ ∀ x, r = some x → SegmentRow T (.segment F.segmentId) x)
    ⟨rfl, by nofun, .inr fun k hk => absurd hk (hempty k)⟩ ?_) ?_
  · intro r _ hr
    refine ⟨Known.lock_self_ne_none _ _ r, ?_, hr⟩
    intro k hk
    rcases Known.has_lock hk with hk | rfl
    · exact absurd hk (hempty k)
    · rfl
  rintro m₁ segment ⟨hknown, hheld, hsegment⟩
  cases segment with
  | none => exact .pure (by simp)
  | some segment =>
    obtain ⟨hreservation, horiginal⟩ := hsegment segment rfl
    refine Guarantees.bind (Locks.lockRow (Q := fun m' r => ∀ x, r = some x → F.Ready T 1 m')
      ⟨hreservation, by nofun, .inr fun k hk => by rw [hheld k hk]; exact Nat.zero_lt_one⟩ ?_) ?_
    · rintro r _ _ reservation rfl
      refine ⟨Known.lock_ne_none hknown, ⟨_, hreservation, reservation, Known.lock_self _ _ _⟩,
        by omega, by omega, ?_⟩
      intro k hk
      rcases Known.has_lock hk with hk | rfl
      · rw [hheld k hk]
        exact Nat.zero_le 1
      · exact Nat.le_refl 1
    intro m₂ reservation hready
    cases reservation with
    | none => exact .pure (by simp)
    | some reservation =>
      have hpost := hready reservation rfl
      dsimp only
      split
      · split
        · refine .pure ?_
          rintro _ ⟨⟩
          exact ⟨hpost, hreservation, horiginal⟩
        · exact .pure (by simp)
      · exact .pure (by simp)

theorem proceeds_getRebookingTargetForUpdate {catalog : Catalog} (h : F.Ready T 1 m) :
    F.Proceeds T m (getRebookingTargetForUpdate catalog F.newFare.1 F.newFare.2) fun m' row =>
      ∀ x, row = some x → F.Ready T 3 m' := by
  refine Guarantees.bind (Locks.lockRow (Q := fun m' _ => F.Ready T 2 m')
    (h.mayLock rfl Nat.one_lt_two) ?_) ?_
  · intro r hr _
    exact h.lock hr (by omega) (Nat.le_refl 2) (by omega) (by omega)
  intro m₁ flight h₁
  cases flight with
  | none => exact .pure (by simp)
  | some flight =>
    have hclass : F.lockClass (.flightFare F.newFare.1 F.newFare.2) = 3 := if_pos rfl
    refine Guarantees.bind (Locks.lockRow (Q := fun m' _ => F.Ready T 3 m')
      (h₁.mayLock (.inl rfl) (by omega)) ?_) ?_
    · intro r hr _
      exact h₁.lock hr (by omega) hclass.le (fun _ _ => rfl) (by omega)
    intro m₂ fare h₂
    cases fare with
    | none => exact .pure (by simp)
    | some fare =>
      dsimp only
      split
      · split
        · exact .pure fun _ _ => h₂
        · exact .pure (by simp)
      · exact .pure (by simp)

theorem proceeds_getTravelCreditForUpdate {id customerId : UUID} (hid : F.creditId = some id)
    (h : F.Ready T 3 m) :
    F.Proceeds T m (getTravelCreditForUpdate id customerId) fun m' _ => F.Ready T 4 m' := by
  refine Guarantees.bind (Locks.lockRow (Q := fun m' _ => F.Ready T 4 m')
    (h.mayLock hid (Nat.lt_succ_self 3)) ?_) ?_
  · intro r hr _
    refine h.lock hr (by omega) (Nat.le_refl 4) (by omega) ?_
    intro _ _ id' hid'
    cases hid.symm.trans hid'
    rfl
  intro m₁ credit h₁
  cases credit with
  | none => exact .pure h₁
  | some credit =>
    dsimp only
    split
    · exact .pure h₁
    · exact .pure h₁

theorem proceeds_lockRow {n : ℕ} {k : RowKey} (h : F.Ready T n m) (hmine : F.Mine T k) (hk : m k ≠ none) :
    F.Proceeds (ε := ε) T m (lockRow k) fun m' r => m' = m ∧ ∀ x, r = some x → SegmentRow T k x := by
  obtain ⟨v, hv⟩ := Option.ne_none_iff_exists'.mp hk
  exact Locks.lockRow_again (h.mayLock_again hmine hk) hv fun hI => ⟨rfl, hI⟩

theorem proceeds_decrementFlightFareSeats {passengerCount : Int} (h : F.Ready T 4 m) :
    F.Proceeds T m (decrementFlightFareSeats passengerCount F.newFare.1 F.newFare.2) fun m' _ =>
      F.Ready T 4 m' := by
  have hk := h.target (by omega)
  apply Guarantees.bind (proceeds_lockRow (k := .flightFare _ _) h (.inl rfl) hk)
  rintro m fare ⟨rfl, -⟩
  cases fare with
  | none => exact .pure h
  | some fare =>
    dsimp only
    split
    · refine Guarantees.bind (.check (Q := fun m' _ => m' = m) fun _ _ => rfl) ?_
      rintro m seats rfl
      exact Locks.writeRow hk trivial (h.write _ _)
    · exact .pure h

theorem proceeds_incrementFlightFareSeats {passengerCount : Int} {flightId fareClassId : UUID}
    (h : F.Ready T 4 m) (horiginal : T.original F.segmentId (flightId, fareClassId)) :
    F.Proceeds T m (incrementFlightFareSeats passengerCount flightId fareClassId) fun m' _ =>
      F.Ready T 5 m' := by
  have hmine : F.Mine T (.flightFare flightId fareClassId) := .inr horiginal
  refine Guarantees.bind (Locks.lockRow (Q := fun m' _ => F.Ready T 5 m' ∧
    m' (.flightFare flightId fareClassId) ≠ none) ?_ ?_) ?_
  · by_cases hsame : (flightId, fareClassId) = F.newFare
    · apply h.mayLock_again hmine
      have hk := h.target (by omega)
      rw [← hsame] at hk
      exact hk
    · apply h.mayLock hmine
      rw [lockClass, if_neg hsame]
      omega
  · intro r hr _
    exact ⟨h.lock hr (by omega) (F.lockClass_le _) (by omega) (by omega), Known.lock_self_ne_none m _ r⟩
  rintro m₁ fare ⟨h₁, hk⟩
  cases fare with
  | none => exact .pure h₁
  | some fare =>
    refine Guarantees.bind (.check (Q := fun m' _ => m' = m₁) fun _ _ => rfl) ?_
    rintro m₁ seats rfl
    exact Locks.writeRow hk trivial (h₁.write _ _)

theorem proceeds_updateReservationSegment {price : Decimal} {currency : String} (h : F.Ready T 5 m)
    (hnew : T.original F.segmentId F.newFare) :
    F.Proceeds T m (updateReservationSegment F.segmentId F.newFare.1 F.newFare.2 price currency)
      fun m' _ => F.Ready T 5 m' := by
  apply Guarantees.bind (proceeds_lockRow (k := .segment _) h rfl h.segment)
  rintro m segment ⟨rfl, hsegment⟩
  cases segment with
  | none => exact .pure h
  | some segment =>
    refine Guarantees.bind (.check (Q := fun m' _ => m' = m) fun _ _ => rfl) ?_
    rintro m price rfl
    exact Locks.writeRow h.segment ⟨(hsegment segment rfl).1, hnew⟩ (h.write _ _)

theorem proceeds_updateReservationTotal {id : UUID} {amount : Decimal} (h : F.Ready T 5 m)
    (hid : T.reservationOf F.segmentId = some id) :
    F.Proceeds T m (updateReservationTotal id amount) fun m' _ => F.Ready T 5 m' := by
  have hk : m (.reservation id) ≠ none := by
    obtain ⟨id', hid', r, hr⟩ := h.reservation
    cases hid.symm.trans hid'
    rw [hr]
    nofun
  apply Guarantees.bind (proceeds_lockRow (k := .reservation _) h hid hk)
  rintro m reservation ⟨rfl, -⟩
  cases reservation with
  | none => exact .pure h
  | some reservation =>
    refine Guarantees.bind (.check (Q := fun m' _ => m' = m) fun _ _ => rfl) ?_
    rintro m total rfl
    exact Locks.writeRow hk trivial (h.write _ _)

theorem proceeds_consumeTravelCredit {id : UUID} {amount : Decimal} (h : F.Ready T 5 m)
    (hid : F.creditId = some id) :
    F.Proceeds T m (consumeTravelCredit id amount) fun _ _ => True := by
  have hk := h.credit (by omega) id hid
  apply Guarantees.bind (proceeds_lockRow (k := .travelCredit _) h hid hk)
  rintro m credit ⟨rfl, -⟩
  cases credit with
  | none => exact .pure trivial
  | some credit =>
    dsimp only
    split
    · refine Guarantees.bind (.check (Q := fun m' _ => m' = m) fun _ _ => rfl) ?_
      rintro m remaining rfl
      exact Locks.writeRow hk trivial trivial
    · exact .pure trivial

theorem proceeds_createFlightChange {change : FlightChange} :
    F.Proceeds T m (createFlightChange change) fun _ _ => True := by
  refine Guarantees.bind (.check (Q := fun _ _ => True) fun _ _ => trivial) fun _ _ _ => ?_
  refine Guarantees.bind (.check (Q := fun _ _ => True) fun _ _ => trivial) fun _ _ _ => ?_
  refine Guarantees.bind (.check (Q := fun _ _ => True) fun _ _ => trivial) fun _ _ _ => ?_
  exact Guarantees.bind (Locks.insertRow (Q := fun _ _ => True) trivial) fun _ _ _ => .pure trivial

theorem proceeds_execute {d : Dialect γ ε} [LawfulDialect d] (catalog : Catalog) (now : Timestamp)
    (selection : RebookingSelection γ)
    (hnew : T.original selection.segmentId (selection.newFlightId, selection.newFareClassId)) :
    (d.footprint selection).Proceeds T (fun _ => none) (d.execute catalog now selection)
      fun _ _ => True := by
  have hsnapshot : (d.footprint selection).Proceeds T (fun _ => none) (d.snapshot catalog selection)
      fun m x => (d.footprint selection).Ready T 4 m ∧
        T.reservationOf selection.segmentId = some x.1.reservationId ∧
        T.original selection.segmentId (x.1.oldFlightId, x.1.oldFareClassId) := by
    apply Guarantees.bind (.adapt (proceeds_getRebookingSegmentForUpdate (F := d.footprint selection)))
    intro m₁ segment h₁
    cases segment with
    | none => exact .throw
    | some segment =>
      obtain ⟨h₁, hreservation, horiginal⟩ := h₁ segment rfl
      apply Guarantees.bind (.adapt (proceeds_getRebookingTargetForUpdate h₁))
      intro m₂ target h₂
      cases target with
      | none => exact .throw
      | some target =>
        have h₂ := h₂ target rfl
        dsimp only
        split
        · rename_i hid
          refine .pure ⟨⟨h₂.segment, h₂.reservation, fun _ => h₂.target le_rfl, ?_, ?_⟩,
            hreservation, horiginal⟩
          · intro _ id hid'
            cases hid.symm.trans hid'
          · intro k hk
            exact (h₂.below k hk).trans (by omega)
        · rename_i id hid
          apply Guarantees.bind (.adapt (proceeds_getTravelCreditForUpdate hid h₂))
          intro m₃ credit h₃
          cases credit with
          | none => exact .throw
          | some credit => exact .pure ⟨h₃, hreservation, horiginal⟩
  apply Guarantees.bind hsnapshot
  rintro m ⟨snapshot, credit⟩ ⟨h, hreservation, horiginal⟩
  apply Guarantees.bind (.check (Q := fun m' a => m' = m ∧
    Accepted (d.creditId selection.travelCreditId) selection snapshot credit a)
    fun _ hv => ⟨rfl, LawfulDialect.accepted hv⟩)
  rintro m validation ⟨rfl, hacc⟩
  have hflight : validation.newFlightId = selection.newFlightId := by
    rw [hacc.validation]
    exact hacc.targetFlight
  have hclass : validation.newFareClassId = selection.newFareClassId := by
    rw [hacc.validation]
    exact hacc.targetFareClass
  rw [hflight, hclass, hacc.validation]
  apply Guarantees.bind (.adapt (proceeds_decrementFlightFareSeats h))
  intro m₁ _ h₁
  apply Guarantees.bind (.adapt (proceeds_incrementFlightFareSeats h₁ horiginal))
  intro m₂ _ h₂
  apply Guarantees.bind (.adapt (proceeds_updateReservationSegment h₂ hnew))
  intro m₃ _ h₃
  apply Guarantees.bind (.adapt (proceeds_updateReservationTotal h₃ hreservation))
  intro m₄ _ h₄
  have record {m : Known RowKey Row} {change : FlightChange} (result : FlightChange → RebookingResult) :
      (d.footprint selection).Proceeds T m (d.exec "record flight change" (createFlightChange change) >>=
        fun change => pure (result change)) fun _ _ => True :=
    Guarantees.bind (.adapt proceeds_createFlightChange) fun _ _ _ => .pure trivial
  dsimp only
  split
  · rename_i id hid
    apply Guarantees.bind (.adapt (proceeds_consumeTravelCredit h₄ hid))
    intro _ _ _
    exact record _
  · exact record _

end Footprint

namespace SqlExecution

def footprint : SqlExecution → Footprint
  | .go _ selection => Go.dialect.footprint selection
  | .asyncpg _ selection => Asyncpg.dialect.footprint selection

theorem proceeds_transaction {T : Traffic} (catalog : Catalog) (e : SqlExecution)
    (hnew : T.original e.footprint.segmentId e.footprint.newFare) :
    e.footprint.Proceeds T (fun _ => none) (e.transaction catalog) fun _ _ => True := by
  cases e with
  | go now selection => exact .adapt (Footprint.proceeds_execute catalog now selection hnew)
  | asyncpg now selection => exact .adapt (Footprint.proceeds_execute catalog now selection hnew)

end SqlExecution

section

variable {Tid : Type} (db : Db) (requests : Tid → SqlExecution)

/-- The fares that a segment may have while the requests run: its own one, and the
targets of the requests for it. -/
def OriginalFare (id : UUID) (fare : UUID × UUID) : Prop :=
  (db.reservationSegments.row id).map ReservationSegment.fare = some fare ∨
    ∃ t, (requests t).footprint.segmentId = id ∧ (requests t).footprint.newFare = fare

/-- The requests can be ranged in levels: those that share a segment, a reservation, a
target flight or a credit are on one level, and one whose target another reservation may
be leaving is above all those that leave it for another fare. -/
structure Layered (level : Tid → ℕ) : Prop where
  segment : ∀ t u, (requests t).footprint.segmentId = (requests u).footprint.segmentId →
    level t = level u
  reservation : ∀ t u id, db.reservationOf (requests t).footprint.segmentId = some id →
    db.reservationOf (requests u).footprint.segmentId = some id → level t = level u
  flight : ∀ t u, (requests t).footprint.newFare.1 = (requests u).footprint.newFare.1 →
    level t = level u
  credit : ∀ t u id, (requests t).footprint.creditId = some id →
    (requests u).footprint.creditId = some id → level t = level u
  original : ∀ t u, OriginalFare db requests (requests t).footprint.segmentId
      (requests u).footprint.newFare →
    (requests u).footprint.newFare ≠ (requests t).footprint.newFare →
    db.reservationOf (requests t).footprint.segmentId ≠
      db.reservationOf (requests u).footprint.segmentId → level t < level u

abbrev traffic : Traffic := ⟨db.reservationOf, OriginalFare db requests⟩

variable {db requests}

theorem Layered.rank_le {level : Tid → ℕ} (hlevel : Layered db requests level) {t u : Tid}
    {m n : Known RowKey Row} {k : RowKey}
    (hwanted : (requests t).footprint.MayLock (traffic db requests) m k)
    (hmine : (requests u).footprint.Mine (traffic db requests) k)
    (hafter : (requests u).footprint.AfterReservation (traffic db requests) n k)
    (hclass : (requests u).footprint.lockClass k < 5)
    (hdisjoint : ∀ id, m.Has (.reservation id) → ¬n.Has (.reservation id)) :
    8 * level t + (requests t).footprint.lockClass k ≤
      8 * level u + (requests u).footprint.lockClass k := by
  cases k with
  | segment id =>
    rw [hlevel.segment t u (hwanted.mine.symm.trans hmine)]
    exact le_rfl
  | reservation id =>
    rw [hlevel.reservation t u id hwanted.mine hmine]
    exact le_rfl
  | flight id =>
    rw [hlevel.flight t u (hwanted.mine.symm.trans hmine)]
    exact le_rfl
  | travelCredit id =>
    rw [hlevel.credit t u id hwanted.mine hmine]
    exact le_rfl
  | flightFare f c =>
    have hu : (f, c) = (requests u).footprint.newFare := by
      by_contra hother
      rw [Footprint.lockClass, if_neg hother] at hclass
      exact absurd hclass (Nat.lt_irrefl 5)
    by_cases ht : (f, c) = (requests t).footprint.newFare
    · rw [hlevel.flight t u (by rw [← ht, ← hu])]
      simp only [Footprint.lockClass, if_pos ht, if_pos hu, le_refl]
    · have horiginal := hwanted.mine.resolve_left ht
      obtain ⟨id, hid, hheldt⟩ := hwanted.reservation f c rfl
      obtain ⟨id', hid', hheldu⟩ := hafter f c rfl
      have hreservation : db.reservationOf (requests t).footprint.segmentId ≠
          db.reservationOf (requests u).footprint.segmentId := by
        intro hsame
        cases hid.symm.trans (hsame.trans hid')
        exact hdisjoint id hheldt hheldu
      have hlt := hlevel.original t u (hu ▸ horiginal) (fun heq => ht (hu.trans heq)) hreservation
      simp only [Footprint.lockClass, if_neg ht, if_pos hu]
      omega

theorem Layered.not_deadlocked [DecidableEq Tid] {level : Tid → ℕ} (hlevel : Layered db requests level)
    {s : Sys Tid Db RowKey Row FlightChange (Go.ExecuteError ⊕ Python.ExecuteError) RebookingResult}
    (h : Reaches (Sys.step fun t => (requests t).transaction db.catalog) (Sys.start db) s) :
    ¬s.Deadlocked := by
  let T := traffic db requests
  have htracked : s.Tracked (Footprint.SegmentRow T) (fun t => (requests t).footprint.MayLock T)
      (fun t => (requests t).footprint.Holds T) := by
    refine Sys.tracked_of_reach ?_ ?_ ?_ ?_ h
    · intro t
      exact (requests t).proceeds_transaction db.catalog (.inr ⟨t, rfl, rfl⟩)
    · intro t k hk
      obtain ⟨r, hr⟩ := hk
      cases hr
    · intro t m o r ho hr hm
      exact hm.next FlightChange ho hr
    · intro k r hr
      cases k with
      | segment id =>
        have hrow : db.reservationSegments.row id = some r := hr
        exact ⟨congrArg (Option.map ReservationSegment.reservationId) hrow,
          .inl (congrArg (Option.map ReservationSegment.fare) hrow)⟩
      | _ => trivial
  refine htracked.not_deadlocked (fun t k => 8 * level t + (requests t).footprint.lockClass k) ?_ ?_
  · intro t m k hk
    exact hk.order.imp id fun hbelow k' hk' => Nat.add_lt_add_left (hbelow k' hk') _
  intro t u v k hk howner hne hwaits
  obtain ⟨x, m, -, hm, -, hallowed⟩ := htracked.of_wanted hk (by rw [howner]; simpa using hne)
  obtain ⟨k', hk', howner', hne'⟩ := Sys.waits_iff.mp hwaits
  obtain ⟨y, n, -, hn, hnew, hallowed'⟩ := htracked.of_wanted hk' (by rw [howner']; simpa using hne')
  have hheld : n.Has k := (hn.owner k).mpr howner
  obtain ⟨hmine, hafter⟩ := hn.keeps k hheld
  -- `u` waits too, so `k` is not the last row it locks
  have hclass : (requests u).footprint.lockClass k < 5 := by
    rcases hallowed'.order with hknown | hbelow
    · exact absurd hnew hknown
    · exact (hbelow k hheld).trans_le (Footprint.lockClass_le _ k')
  refine hlevel.rank_le hallowed hmine hafter hclass ?_
  -- two transactions never hold one reservation
  intro id ht hu
  have hboth := ((hm.owner _).mp ht).symm.trans ((hn.owner _).mp hu)
  exact hne (Option.some.inj hboth).symm

end

theorem not_deadlocked_of_layered {Tid : Type} [DecidableEq Tid] (db : Db)
    (requests : Tid → SqlExecution) (level : Tid → ℕ) (hlevel : Layered db requests level)
    (s : Sys Tid Db RowKey Row FlightChange (Go.ExecuteError ⊕ Python.ExecuteError) RebookingResult)
    (h : Reaches (Sys.step fun t => (requests t).transaction db.catalog) (Sys.start db) s) :
    ¬s.Deadlocked :=
  hlevel.not_deadlocked h

namespace Sample

def exchange : Db :=
  { db with
    catalog := { catalog with reservationPassengers := {(1, 1), (2, 2)} }
    reservations := .ofList
      [(1, ⟨"ABC123", 1, .confirmed, 100, "USD"⟩), (2, ⟨"DEF456", 2, .confirmed, 100, "USD"⟩)]
    reservationSegments := .ofList
      [(1, ⟨1, 1, 1, .confirmed, 100, "USD"⟩), (2, ⟨2, 4, 1, .confirmed, 100, "USD"⟩)] }

def exchanging : Bool → SqlExecution
  | true => .go 0 ⟨1, 4, 1, nilUUID, 0⟩
  | false => .asyncpg 0 ⟨2, 1, 1, none, 0⟩

def following : Bool → SqlExecution
  | true => .go 0 ⟨1, 2, 1, 1, 200⟩
  | false => .asyncpg 0 ⟨2, 1, 1, none, 0⟩

end Sample

theorem Sample.layered_following :
    Layered Sample.exchange Sample.following fun t => if t then 0 else 1 where
  segment := by decide
  reservation := by
    intro t u id ht hu
    have hsame := ht.trans hu.symm
    clear ht hu
    revert t u
    decide
  flight := by decide
  credit := by
    intro t u id ht hu
    have hsame := ht.trans hu.symm
    clear ht hu
    revert t u
    decide
  original := by
    intro t u horiginal hne _
    cases t with
    | true =>
      cases u with
      | true => exact absurd rfl hne
      | false => exact Nat.zero_lt_one
    | false =>
      cases u with
      | true =>
        rcases horiginal with hrow | ⟨v, hsegment, hfare⟩
        · revert hrow
          decide
        · revert v
          decide
      | false => exact absurd rfl hne

theorem not_deadlocked_of_layered_sample :
    ∃ s, Reaches (Sys.step fun t => (Sample.following t).transaction Sample.exchange.catalog)
        (Sys.start Sample.exchange) s ∧ s.Waits false true ∧ ¬s.Deadlocked := by
  obtain ⟨s, hs, hwaits⟩ := reach_of_any
    (Sys.step fun t => (Sample.following t).transaction Sample.exchange.catalog) (fun _ _ => True)
    (Sys.start Sample.exchange)
    ([.begin true, .begin false] ++ List.replicate 8 (.exec true) ++ List.replicate 3 (.exec false))
    (fun s => (s.wanted false).bind s.owner = some true) (by decide +kernel)
  rw [decide_eq_true_eq] at hwaits
  exact ⟨s, hs, ⟨hwaits, by decide⟩,
    not_deadlocked_of_layered Sample.exchange Sample.following _ Sample.layered_following s hs⟩

theorem exchange_deadlocked :
    (∀ t, (Sample.exchanging t).execution.commits Sample.exchange) ∧
    ∃ s, Reaches (Sys.step fun t => (Sample.exchanging t).transaction Sample.exchange.catalog)
        (Sys.start Sample.exchange) s ∧ s.Deadlocked := by
  refine ⟨by decide +kernel, ?_⟩
  obtain ⟨s, hs, hwaits⟩ := reach_of_any
    (Sys.step fun t => (Sample.exchanging t).transaction Sample.exchange.catalog) (fun _ _ => True)
    (Sys.start Sample.exchange)
    ([.begin true, .begin false] ++ List.replicate 4 (.exec true) ++ List.replicate 4 (.exec false) ++
      List.replicate 2 (.exec true) ++ List.replicate 2 (.exec false))
    (fun s => (s.wanted true).bind s.owner = some false ∧ (s.wanted false).bind s.owner = some true)
    (by decide +kernel)
  rw [decide_eq_true_eq] at hwaits
  have htrue : s.Waits true false := ⟨hwaits.1, by decide⟩
  have hfalse : s.Waits false true := ⟨hwaits.2, by decide⟩
  exact ⟨s, hs, true, .tail (.single htrue) hfalse⟩

end AgentsAtScale.Airline
