import AgentsAtScale.Airline.OrmTotals
import AgentsAtScale.Transaction.Deadlock

namespace AgentsAtScale.Airline

open Transaction Transition Python

namespace Orm

/-- The order in which an SQLAlchemy rebooking locks rows: the segment, the credit, the
fares by their ids, the reservation. -/
def lockRank : RowKey → ℕ
  | .segment _ => 0
  | .travelCredit _ => 1
  | .flightFare flightId fareClassId => 2 + (flightId.toNat * 2 ^ 128 + fareClassId.toNat)
  | .reservation _ => 2 + 2 ^ 256
  | .flight _ => 0

def MayLock (m : Known RowKey Row) (k : RowKey) : Prop :=
  m k ≠ none ∨ ∀ k', m.Has k' → lockRank k' < lockRank k

abbrev Ascends (m : Known RowKey Row) (p : Sql ε α) (Q : Known RowKey Row → α → Prop) : Prop :=
  Locks (fun _ _ => True) MayLock m p Q

variable {m : Known RowKey Row} {selection : RebookingSelection (Option UUID)}

theorem lockRank_fare_lt (flightId fareClassId id : UUID) :
    lockRank (.flightFare flightId fareClassId) < lockRank (.reservation id) := by
  have hf := flightId.isLt
  have hc := fareClassId.isLt
  simp only [lockRank]
  omega

theorem ascends_target : Ascends m (target selection false) fun m' _ => m' = m := by
  apply Guarantees.bind (Locks.readRow (Q := fun m' _ => m' = m) fun _ _ _ => rfl)
  rintro _ fare rfl
  cases fare with
  | none => exact .throw
  | some fare => exact .pure rfl

theorem ascends_snapshot {catalog : Catalog} (hsegment : MayLock m (.segment selection.segmentId))
    (hcredit : ∀ r id, selection.travelCreditId = some id →
      MayLock (m.lock (.segment selection.segmentId) r) (.travelCredit id)) :
    Ascends m (snapshot catalog selection true) fun m' x => ∃ segment : ReservationSegment,
      (∀ v, m (.segment selection.segmentId) = some v → some segment = v) ∧
      (x.1.oldFlightId, x.1.oldFareClassId) = segment.fare ∧
      m' (.segment selection.segmentId) = some (some segment) ∧
      (∀ id, selection.travelCreditId = some id → m' (.travelCredit id) ≠ none) ∧
      (∀ k, m k ≠ none → m' k ≠ none) ∧ ∀ k, m'.Has k → m.Has k ∨ lockRank k ≤ 1 := by
  apply Guarantees.bind (Locks.lockRow (Q := fun m' r => m' = m.lock (.segment selection.segmentId) r ∧
    ∀ v, m (.segment selection.segmentId) = some v → r = v) hsegment fun _ hr _ => ⟨rfl, hr⟩)
  rintro m₁ segment ⟨rfl, hseen⟩
  cases segment with
  | none => exact .throw
  | some segment =>
    have hheld : ∀ k, (m.lock (.segment selection.segmentId) (some segment)).Has k →
        m.Has k ∨ lockRank k ≤ 1 := by
      intro k hk
      rcases Known.has_lock hk with hk | rfl
      · exact .inl hk
      · exact .inr (Nat.zero_le 1)
    apply Guarantees.bind (Locks.readRow (Q := fun m' _ => m' = m.lock (.segment selection.segmentId)
      (some segment)) fun _ _ _ => rfl)
    rintro _ reservation rfl
    cases reservation with
    | none => exact .throw
    | some reservation =>
      dsimp only
      split
      · split
        · apply Guarantees.bind ascends_target
          rintro _ target rfl
          split
          · split
            · split
              · rename_i hid
                refine .pure ⟨segment, hseen, rfl, Known.lock_self _ _ _, ?_, ?_, hheld⟩
                · intro id hid'
                  cases hid.symm.trans hid'
                · intro k hk
                  exact Known.lock_ne_none hk
              · rename_i id hid
                apply Guarantees.bind (Locks.lockRow (Q := fun m' r => m' = (m.lock
                  (.segment selection.segmentId) (some segment)).lock (.travelCredit id) r)
                  (hcredit _ id hid) fun _ _ _ => rfl)
                rintro _ credit rfl
                cases credit with
                | none => exact .throw
                | some credit =>
                  refine .pure ⟨segment, hseen, rfl, ?_, ?_, ?_, ?_⟩
                  · rw [Known.lock_of_ne _ (by rintro ⟨⟩), Known.lock_self]
                  · intro id' hid'
                    cases hid.symm.trans hid'
                    exact Known.lock_self_ne_none _ _ _
                  · intro k hk
                    exact Known.lock_ne_none (Known.lock_ne_none hk)
                  · intro k hk
                    rcases Known.has_lock hk with hk | rfl
                    · exact hheld k hk
                    · exact .inr (Nat.le_refl 1)
            · exact .throw
          · exact .throw
        · exact .throw
      · exact .throw

theorem ascends_lockFares (keys : List (UUID × UUID))
    (hsorted : keys.Pairwise fun key key' =>
      lockRank (.flightFare key.1 key.2) < lockRank (.flightFare key'.1 key'.2))
    (hbelow : ∀ k, m.Has k → ∀ key ∈ keys, lockRank k < lockRank (.flightFare key.1 key.2)) :
    Ascends m (ε := ExecuteError) (keys.forM fun key => do
        let _ ← lockRow (RowKey.flightFare key.1 key.2))
      fun m' _ => (∀ key ∈ keys, m' (.flightFare key.1 key.2) ≠ none) ∧
        (∀ k, (∀ f c, k ≠ .flightFare f c) → m' k = m k) ∧ (∀ k, m k ≠ none → m' k ≠ none) ∧
        ∀ k, m'.Has k → m.Has k ∨ ∃ f c, k = .flightFare f c := by
  induction keys generalizing m with
  | nil => exact .pure ⟨by simp, fun _ _ => rfl, fun _ h => h, fun _ h => .inl h⟩
  | cons key keys ih =>
    rw [List.pairwise_cons] at hsorted
    apply Guarantees.bind (Q := fun m' _ => ∃ r, m' = m.lock (.flightFare key.1 key.2) r)
    · apply Guarantees.bind (Locks.lockRow (Q := fun m' _ => ∃ r, m' = m.lock (.flightFare key.1 key.2) r)
        (.inr fun k hk => hbelow k hk key (by simp)) fun r _ _ => ⟨r, rfl⟩)
      intro m' _ hm'
      exact .pure hm'
    · rintro _ _ ⟨r, rfl⟩
      refine (ih hsorted.2 ?_).mono ?_
      · intro k hk key' hkey'
        rcases Known.has_lock hk with hk | rfl
        · exact hbelow k hk key' (by simp [hkey'])
        · exact hsorted.1 key' hkey'
      · rintro m' _ ⟨hkeys, hother, hknown, hheld⟩
        refine ⟨?_, ?_, ?_, ?_⟩
        · intro key' hkey'
          rcases List.mem_cons.mp hkey' with rfl | hkey'
          · exact hknown _ (Known.lock_self_ne_none m _ r)
          · exact hkeys key' hkey'
        · intro k hk
          rw [hother k hk, Known.lock_of_ne _ (hk _ _)]
        · intro k hk
          exact hknown k (Known.lock_ne_none hk)
        · intro k hk
          rcases hheld k hk with hk | hk
          · rcases Known.has_lock hk with hk | rfl
            · exact .inl hk
            · exact .inr ⟨_, _, rfl⟩
          · exact .inr hk

theorem mem_fareKeys {old new key : UUID × UUID} : key ∈ fareKeys old new ↔ key = old ∨ key = new := by
  unfold fareKeys
  split
  · rename_i h
    simp [h]
  · split
    · simp
    · simp [or_comm]

theorem pairwise_fareKeys (old new : UUID × UUID) :
    (fareKeys old new).Pairwise fun key key' =>
      lockRank (.flightFare key.1 key.2) < lockRank (.flightFare key'.1 key'.2) := by
  have hold := old.2.isLt
  have hnew := new.2.isLt
  unfold fareKeys
  split
  · exact List.pairwise_singleton _ _
  · rename_i hne
    have hdiffer : old.1 = new.1 → old.2.toNat ≠ new.2.toNat := fun h₁ h₂ =>
      hne (Prod.ext h₁ (BitVec.eq_of_toNat_eq h₂))
    split
    · rename_i hle
      rw [List.pairwise_pair]
      simp only [lockRank]
      rcases hle with hlt | ⟨heq, hle⟩
      · omega
      · have := hdiffer heq
        rw [heq]
        omega
    · rename_i hnle
      rw [List.pairwise_pair]
      simp only [lockRank]
      have hflight : new.1.toNat ≤ old.1.toNat := by omega
      rcases Nat.lt_or_eq_of_le hflight with hlt | heq
      · omega
      · have hsame : old.1 = new.1 := BitVec.eq_of_toNat_eq heq.symm
        have := hdiffer hsame
        have : ¬old.2.toNat ≤ new.2.toNat := fun hle => hnle (.inr ⟨hsame, hle⟩)
        omega

structure Prepared (selection : RebookingSelection (Option UUID)) (old : UUID × UUID)
    (m : Known RowKey Row) : Prop where
  segment : m (.segment selection.segmentId) ≠ none
  credit : ∀ id, selection.travelCreditId = some id → m (.travelCredit id) ≠ none
  old : m (.flightFare old.1 old.2) ≠ none
  target : m (.flightFare selection.newFlightId selection.newFareClassId) ≠ none

def BelowReservation (m : Known RowKey Row) : Prop :=
  ∀ k, m.Has k → ∀ id, lockRank k < lockRank (.reservation id)

theorem Prepared.write {old : UUID × UUID} (h : Prepared selection old m) (k : RowKey) (r : Row k) :
    Prepared selection old (m.write k r) where
  segment := Known.write_ne_none.mpr h.segment
  credit id hid := Known.write_ne_none.mpr (h.credit id hid)
  old := Known.write_ne_none.mpr h.old
  target := Known.write_ne_none.mpr h.target

theorem BelowReservation.write (h : BelowReservation m) (k : RowKey) (r : Row k) :
    BelowReservation (m.write k r) :=
  fun k' hk' => h k' ((Known.has_write m k k' r).mp hk')

theorem ascends_column {x : Except SqlError α} : Ascends m (column x) fun m' _ => m' = m :=
  Guarantees.check fun _ _ => rfl

theorem ascends_lockRow {k : RowKey} (hk : m k ≠ none) :
    Ascends (ε := ε) m (lockRow k) fun m' _ => m' = m := by
  obtain ⟨v, hv⟩ := Option.ne_none_iff_exists'.mp hk
  exact Locks.lockRow_again (.inl hk) hv fun _ => rfl

theorem ascends_flushSeats {flightId fareClassId : UUID} {fare : FlightFare}
    (hk : m (.flightFare flightId fareClassId) ≠ none) :
    Ascends m (flushSeats flightId fareClassId fare) fun m' _ => ∃ k r, m' = m.write k r := by
  apply Guarantees.bind ascends_column
  rintro _ n rfl
  exact Locks.writeRow hk trivial ⟨_, _, rfl⟩

theorem ascends_takeSeats {n : Int}
    (hk : m (.flightFare selection.newFlightId selection.newFareClassId) ≠ none) :
    Ascends m (takeSeats selection n) fun m' _ => ∃ k r, m' = m.write k r := by
  have htarget : Ascends m (target selection true) fun m' _ => m' = m := by
    apply Guarantees.bind (ascends_lockRow hk)
    rintro _ fare rfl
    cases fare with
    | none => exact .throw
    | some fare => exact .pure rfl
  apply Guarantees.bind htarget
  rintro _ fare rfl
  split
  · exact .throw
  · exact ascends_flushSeats hk

theorem ascends_returnSeats {flightId fareClassId : UUID} {n : Int}
    (hk : m (.flightFare flightId fareClassId) ≠ none) :
    Ascends m (returnSeats flightId fareClassId n) fun m' _ => ∃ k r, m' = m.write k r := by
  apply Guarantees.bind (ascends_lockRow hk)
  rintro _ fare rfl
  cases fare with
  | none => exact .throw
  | some fare => exact ascends_flushSeats hk

theorem ascends_flushReservation {id : UUID} {totalAmount : Decimal} (hbelow : BelowReservation m) :
    Ascends m (flushReservation id totalAmount) fun m' _ => ∀ k, m k ≠ none → m' k ≠ none := by
  apply Guarantees.bind ascends_column
  rintro m total rfl
  apply Guarantees.bind (Locks.lockRow (Q := fun m' r => m' = m.lock (.reservation id) r)
    (.inr fun k hk => hbelow k hk id) fun _ _ _ => rfl)
  rintro _ reservation rfl
  cases reservation with
  | none => exact .throw
  | some reservation =>
    refine Locks.writeRow (Known.lock_self_ne_none m _ _) trivial ?_
    intro k hk
    exact Known.write_ne_none.mpr (Known.lock_ne_none hk)

theorem ascends_flushSegment {id : UUID} {segment : ReservationSegment} (hk : m (.segment id) ≠ none) :
    Ascends m (flushSegment id segment) fun m' _ => ∀ k, m k ≠ none → m' k ≠ none := by
  apply Guarantees.bind ascends_column
  rintro _ price rfl
  exact Locks.writeRow hk trivial fun k hk => Known.write_ne_none.mpr hk

theorem ascends_consumeCredit {id : UUID} {amount : Decimal} (hk : m (.travelCredit id) ≠ none) :
    Ascends m (consumeCredit id amount) fun _ _ => True := by
  apply Guarantees.bind (ascends_lockRow hk)
  rintro _ credit rfl
  cases credit with
  | none => exact .throw
  | some credit =>
    apply Guarantees.bind ascends_column
    rintro _ remaining rfl
    exact Locks.writeRow hk trivial trivial

theorem ascends_createFlightChange {change : FlightChange} :
    Ascends m (createFlightChange change) fun _ _ => True := by
  refine Guarantees.bind (.check (Q := fun _ _ => True) fun _ _ => trivial) fun _ _ _ => ?_
  refine Guarantees.bind (.check (Q := fun _ _ => True) fun _ _ => trivial) fun _ _ _ => ?_
  refine Guarantees.bind (.check (Q := fun _ _ => True) fun _ _ => trivial) fun _ _ _ => ?_
  exact Guarantees.bind (Locks.insertRow (Q := fun _ _ => True) trivial) fun _ _ _ => .pure trivial

theorem ascends_execute (catalog : Catalog) (now : Timestamp)
    (selection : RebookingSelection (Option UUID)) :
    Ascends (fun _ => none) (execute catalog now selection) fun _ _ => True := by
  have hempty (k : RowKey) : ¬Known.Has (fun _ => none : Known RowKey Row) k := nofun
  refine Guarantees.bind (ascends_snapshot (.inr fun k hk => absurd hk (hempty k)) ?_) ?_
  · intro r id _
    right
    intro k hk
    rcases Known.has_lock hk with hk | rfl
    · exact absurd hk (hempty k)
    · exact Nat.zero_lt_one
  rintro m₁ first ⟨segment, -, hfirst, hsegment, hcredit, -, hheld⟩
  refine Guarantees.bind (ascends_lockFares _ (pairwise_fareKeys _ _) ?_) ?_
  · intro k hk key _
    calc lockRank k ≤ 1 := (hheld k hk).resolve_left (hempty k)
      _ < lockRank (.flightFare key.1 key.2) := by
        simp only [lockRank]
        omega
  rintro m₂ _ ⟨hkeys, hother, hknown, hheld₂⟩
  have hsegment₂ : m₂ (.segment selection.segmentId) = some (some segment) :=
    (hother _ (by nofun)).trans hsegment
  have hcredit₂ : ∀ id, selection.travelCreditId = some id → m₂ (.travelCredit id) ≠ none :=
    fun id hid => hknown _ (hcredit id hid)
  refine Guarantees.bind (ascends_snapshot (.inl (by rw [hsegment₂]; nofun))
    fun r id hid => .inl (Known.lock_ne_none (hcredit₂ id hid))) ?_
  rintro m₃ ⟨snapshot, credit⟩ ⟨segment', hsame, hsnapshot, hsegment₃, hcredit₃, hknown₃, hheld₃⟩
  cases hsame _ hsegment₂
  apply Guarantees.bind (.check (Q := fun m' a => m' = m₃ ∧
    Accepted selection.travelCreditId selection snapshot credit a)
    fun _ h => ⟨rfl, accepted_of_execute h⟩)
  rintro m₃ validation ⟨rfl, hacc⟩
  have hold : (validation.oldFlightId, validation.oldFareClassId) = segment.fare := by
    rw [hacc.validation]
    exact hsnapshot
  have hfares : ∀ key, key = segment.fare ∨ key = (selection.newFlightId, selection.newFareClassId) →
      m₃ (.flightFare key.1 key.2) ≠ none := by
    intro key hkey
    rw [← hfirst] at hkey
    exact hknown₃ _ (hkeys key (mem_fareKeys.mpr hkey))
  have hprepared : Prepared selection (validation.oldFlightId, validation.oldFareClassId) m₃ :=
    ⟨by rw [hsegment₃]; nofun, hcredit₃, hfares _ (.inl hold), hfares _ (.inr rfl)⟩
  have hbelow : BelowReservation m₃ := by
    have hlow {k : RowKey} (hk : lockRank k ≤ 1) (id : UUID) : lockRank k < lockRank (.reservation id) := by
      refine hk.trans_lt ?_
      simp only [lockRank]
      omega
    intro k hk id
    rcases hheld₃ k hk with hk | hk
    · rcases hheld₂ k hk with hk | ⟨f, c, rfl⟩
      · exact hlow ((hheld k hk).resolve_left (hempty k)) id
      · exact lockRank_fare_lt f c id
    · exact hlow hk id
  apply Guarantees.bind (ascends_takeSeats hprepared.target)
  rintro _ _ ⟨k, r, rfl⟩
  replace hprepared := hprepared.write k r
  replace hbelow := hbelow.write k r
  apply Guarantees.bind (ascends_returnSeats hprepared.old)
  rintro m₄ _ ⟨k', r', hm₄⟩
  replace hprepared := hm₄ ▸ hprepared.write k' r'
  replace hbelow := hm₄ ▸ hbelow.write k' r'
  apply Guarantees.bind (Locks.readRow (Q := fun m' _ => m' = m₄) fun _ _ _ => rfl)
  rintro m₄ segment rfl
  cases segment with
  | none => exact .throw
  | some segment =>
    apply Guarantees.bind (Locks.readRow (Q := fun m' _ => m' = m₄) fun _ _ _ => rfl)
    rintro m₄ reservation rfl
    cases reservation with
    | none => exact .throw
    | some reservation =>
      apply Guarantees.bind (ascends_flushReservation hbelow)
      intro m₅ _ h₅
      apply Guarantees.bind (ascends_flushSegment (h₅ _ hprepared.segment))
      intro m₆ _ h₆
      have record {m : Known RowKey Row} (result : FlightChange → RebookingResult) :
          Ascends m (ExceptT.adapt ExecuteError.database (createFlightChange validation.flightChange) >>=
            fun change => pure (result change)) fun _ _ => True :=
        Guarantees.bind (.adapt ascends_createFlightChange) fun _ _ _ => .pure trivial
      dsimp only
      split
      · rename_i id hid
        apply Guarantees.bind (ascends_consumeCredit (h₆ _ (h₅ _ (hprepared.credit id hid))))
        intro _ _ _
        exact record _
      · exact record _

theorem not_deadlocked_of_reaches {Tid : Type} [DecidableEq Tid] (db : Db)
    (requests : Tid → Timestamp × RebookingSelection (Option UUID)) (s : System Tid)
    (h : Reaches (Sys.step (transactions db requests)) (Sys.start db) s) : ¬s.Deadlocked := by
  have htracked : s.Tracked (fun _ _ => True) (fun _ => MayLock) (fun _ _ => True) :=
    Sys.tracked_of_reach (fun t => ascends_execute db.catalog (requests t).1 (requests t).2)
      (fun _ => trivial) (fun _ _ _ _ _ _ h => h) (fun _ _ _ => trivial) h
  -- the rank is the same for all of them
  exact htracked.not_deadlocked (fun _ => lockRank) (fun _ _ _ h => h) fun _ _ _ _ _ _ _ _ => le_rfl

def exchanging : Bool → Timestamp × RebookingSelection (Option UUID)
  | true => (0, ⟨1, 4, 1, none, 0⟩)
  | false => (0, ⟨2, 1, 1, none, 0⟩)

theorem not_deadlocked_of_reaches_sample :
    ∃ s, Reaches (Sys.step (transactions Sample.db exchanging)) (Sys.start Sample.db) s ∧
      s.Waits false true ∧ ¬s.Deadlocked := by
  obtain ⟨s, hs, hwaits⟩ := reach_of_any (Sys.step (transactions Sample.db exchanging)) (fun _ _ => True)
    (Sys.start Sample.db)
    ([.begin true, .begin false] ++ List.replicate 4 (.exec true) ++ List.replicate 3 (.exec false))
    (fun s => (s.wanted false).bind s.owner = some true) (by decide +kernel)
  rw [decide_eq_true_eq] at hwaits
  exact ⟨s, hs, ⟨hwaits, by decide⟩, not_deadlocked_of_reaches Sample.db exchanging s hs⟩

end Orm

end AgentsAtScale.Airline
