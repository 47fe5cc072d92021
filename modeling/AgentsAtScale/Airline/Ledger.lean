import AgentsAtScale.Airline.ExecuteLaws
import Mathlib.Algebra.Order.BigOperators.Group.Finset
import Mathlib.Algebra.Order.BigOperators.Group.List
import Mathlib.Tactic.Linarith
import Mathlib.Tactic.Ring

namespace AgentsAtScale.Airline

open Transaction

def changesSum (changes : List FlightChange) (mine : UUID → Prop) [DecidablePred mine]
    (f : FlightChange → Decimal) : Decimal :=
  ((changes.filter fun change => mine change.reservationSegmentId).map f).sum

@[simp] theorem changesSum_nil (mine : UUID → Prop) [DecidablePred mine]
    (f : FlightChange → Decimal) : changesSum [] mine f = 0 := rfl

theorem changesSum_append (changes : List FlightChange) (change : FlightChange) (mine : UUID → Prop)
    [DecidablePred mine] (f : FlightChange → Decimal) :
    changesSum (changes ++ [change]) mine f =
      changesSum changes mine f + if mine change.reservationSegmentId then f change else 0 := by
  simp only [changesSum, List.filter_append, List.map_append, List.sum_append]
  congr 1
  by_cases h : mine change.reservationSegmentId
  · simp [List.filter, h]
  · simp [List.filter, h]

namespace Db

def reservationOf (db : Db) (segmentId : UUID) : Option UUID :=
  (db.reservationSegments.row segmentId).map ReservationSegment.reservationId

def customerOf (db : Db) (segmentId : UUID) : Option UUID :=
  (db.reservationOf segmentId).bind fun id => (db.reservations.row id).map Reservation.customerId

def creditBalance (db : Db) (customerId : UUID) : Decimal :=
  (db.travelCredits.sum fun _ credit =>
    if credit.customerId = customerId then credit.remainingAmount else 0) +
  changesSum db.flightChanges (fun id => db.customerOf id = some customerId) FlightChange.travelCreditUsed

def basePrice (db : Db) (segmentId : UUID) : Option Decimal :=
  (db.reservationSegments.row segmentId).map fun segment =>
    segment.pricePaid - changesSum db.flightChanges (· = segmentId) FlightChange.fareDifference

def baseTotal (db : Db) (reservationId : UUID) : Option Decimal :=
  (db.reservations.row reservationId).map fun reservation =>
    reservation.totalAmount -
      changesSum db.flightChanges (fun id => db.reservationOf id = some reservationId) FlightChange.amount

end Db

/-- A credit holds no more than was granted, and is marked as used when it is empty. -/
structure TravelCredit.Balanced (credit : TravelCredit) : Prop where
  nonneg : 0 ≤ credit.remainingAmount
  le_original : credit.remainingAmount ≤ credit.originalAmount
  used_iff : credit.status ≠ .expired → (credit.status = .used ↔ credit.remainingAmount = 0)

namespace Rebooking

variable {db : Db}

@[simp] theorem reservationOf_apply (b : Rebooking db) (segmentId : UUID) :
    b.apply.reservationOf segmentId = db.reservationOf segmentId := by
  simp only [Db.reservationOf, apply, Table.row_modify, Option.map_map]
  congr 1
  funext rs
  simp only [Function.comp]
  split <;> rfl

@[simp] theorem customerOf_apply (b : Rebooking db) (segmentId : UUID) :
    b.apply.customerOf segmentId = db.customerOf segmentId := by
  simp only [Db.customerOf, reservationOf_apply]
  congr 1
  funext id
  simp only [apply, Table.row_modify, Option.map_map]
  congr 1
  funext r
  simp only [Function.comp]
  split <;> rfl

theorem reservationOf_segmentId (b : Rebooking db) :
    db.reservationOf b.segmentId = some b.segment.reservationId := by
  simp only [Db.reservationOf, b.segment_row, Option.map_some]

theorem customerOf_segmentId (b : Rebooking db) :
    db.customerOf b.segmentId = some b.reservation.customerId := by
  simp only [Db.customerOf, reservationOf_segmentId, Option.bind_some, b.reservation_row,
    Option.map_some]

theorem changesSum_apply (b : Rebooking db) (mine : UUID → Prop) [DecidablePred mine]
    (f : FlightChange → Decimal) :
    changesSum b.apply.flightChanges mine f =
      changesSum db.flightChanges mine f + if mine b.segmentId then f b.change else 0 :=
  changesSum_append _ _ _ _

theorem basePrice_apply (b : Rebooking db) (id : UUID) : b.apply.basePrice id = db.basePrice id := by
  unfold Db.basePrice
  rw [b.changesSum_apply]
  by_cases h : b.segmentId = id
  · subst h
    simp only [apply, Table.row_modify, b.segment_row, Option.map_some, if_true,
      ReservationSegment.move, change]
    congr 1
    ring
  · simp [apply, Table.row_modify, h, Ne.symm h]

theorem baseTotal_apply (b : Rebooking db) (id : UUID) : b.apply.baseTotal id = db.baseTotal id := by
  unfold Db.baseTotal
  simp only [b.changesSum_apply, reservationOf_apply, b.reservationOf_segmentId, Option.some.injEq]
  by_cases h : b.segment.reservationId = id
  · subst h
    simp only [apply, Table.row_modify, b.reservation_row, Option.map_some, if_true,
      Reservation.addTotal]
    congr 1
    ring
  · simp [apply, Table.row_modify, h, Ne.symm h]

theorem creditBalance_apply (b : Rebooking db) (customerId : UUID) :
    b.apply.creditBalance customerId = db.creditBalance customerId := by
  unfold Db.creditBalance
  simp only [b.changesSum_apply, customerOf_apply, b.customerOf_segmentId, Option.some.injEq]
  cases hc : b.travelCreditId with
  | none => simp [apply, hc, change, b.noCredit hc]
  | some id =>
    obtain ⟨credit, hrow, hcustomer, -⟩ := b.credit id hc
    have hsum := Table.sum_modify hrow (·.consume b.travelCreditUsed) fun _ credit =>
      if credit.customerId = customerId then credit.remainingAmount else 0
    simp only [TravelCredit.consume, hcustomer] at hsum
    simp only [apply, hc, Option.elim_some, TravelCredit.consume, change]
    split at hsum
    · rw [if_pos ‹_›]
      linarith
    · rw [if_neg ‹_›]
      linarith

theorem balanced_apply (b : Rebooking db)
    (h : ∀ id credit, db.travelCredits.row id = some credit → credit.Balanced) (id : UUID)
    (credit : TravelCredit) (hcredit : b.apply.travelCredits.row id = some credit) :
    credit.Balanced := by
  cases hc : b.travelCreditId with
  | none => exact h id credit (by simpa [apply, hc] using hcredit)
  | some cid =>
    simp only [apply, hc, Option.elim_some, Table.row_modify, Option.map_eq_some_iff] at hcredit
    obtain ⟨old, hold, rfl⟩ := hcredit
    split
    · subst id
      obtain ⟨c, hrow, -, hle, hpos, hstatus⟩ := b.credit cid hc
      cases hrow.symm.trans hold
      have hbal := h cid old hrow
      constructor
      · simp only [TravelCredit.consume]
        linarith
      · simp only [TravelCredit.consume]
        linarith [hbal.le_original]
      · intro _
        simp only [TravelCredit.consume]
        split
        · simp [*]
        · simp [*]
    · exact h id old hold

theorem due_apply (b : Rebooking db)
    (h : ∀ change ∈ db.flightChanges,
      change.travelCreditUsed = max (change.fareDifference + change.changeFee) 0) :
    ∀ change ∈ b.apply.flightChanges,
      change.travelCreditUsed = max (change.fareDifference + change.changeFee) 0 := by
  intro c hc
  simp only [apply, List.mem_append, List.mem_singleton] at hc
  cases hc with
  | inl hc => exact h c hc
  | inr hc => rw [hc]; exact b.due

end Rebooking

theorem map_eq_of_map_sub_eq {x : Option α} {y : Option β} {f : α → Decimal} {g : β → Decimal}
    {s : Decimal} (h : x.map (fun a => f a - s) = y.map g) : x.map f = y.map fun b => g b + s := by
  calc x.map f = (x.map fun a => f a - s).map (· + s) := by simp [Function.comp_def]
    _ = y.map fun b => g b + s := by rw [h, Option.map_map]; rfl

theorem performAll_ledger (db : Db) (es : List Execution) (hchanges : db.flightChanges = [])
    (hcredits : ∀ id credit, db.travelCredits.row id = some credit → credit.Balanced) :
    let after := Execution.performAll db es
    (∀ id, (after.reservationSegments.row id).map ReservationSegment.pricePaid =
      (db.reservationSegments.row id).map fun segment =>
        segment.pricePaid + changesSum after.flightChanges (· = id) FlightChange.fareDifference) ∧
    (∀ id, (after.reservations.row id).map Reservation.totalAmount =
      (db.reservations.row id).map fun reservation =>
        reservation.totalAmount + changesSum after.flightChanges (fun s => after.reservationOf s = some id)
          fun change => change.fareDifference + change.changeFee - change.travelCreditUsed) ∧
    (∀ customerId, after.creditBalance customerId = db.creditBalance customerId) ∧
    (∀ id credit, after.travelCredits.row id = some credit → credit.Balanced) ∧
    (∀ change ∈ after.flightChanges,
      change.travelCreditUsed = max (change.fareDifference + change.changeFee) 0) := by
  refine ⟨?_, ?_, ?_, ?_, ?_⟩
  · intro id
    apply map_eq_of_map_sub_eq
    have h := Execution.performAll_eq (f := fun db => db.basePrice id)
      (fun db b => b.basePrice_apply id) es db
    simpa only [Db.basePrice, hchanges, changesSum_nil, sub_zero] using h
  · intro id
    apply map_eq_of_map_sub_eq
    have h := Execution.performAll_eq (f := fun db => db.baseTotal id)
      (fun db b => b.baseTotal_apply id) es db
    simp only [Db.baseTotal, hchanges, changesSum_nil, sub_zero] at h
    exact h
  · intro customerId
    exact Execution.performAll_eq (f := fun db => db.creditBalance customerId)
      (fun db b => b.creditBalance_apply customerId) es db
  · exact Execution.performAll_invariant
      (P := fun db => ∀ id credit, db.travelCredits.row id = some credit → credit.Balanced)
      (fun db b => b.balanced_apply) es hcredits
  · apply Execution.performAll_invariant (P := fun db => ∀ change ∈ db.flightChanges,
      change.travelCreditUsed = max (change.fareDifference + change.changeFee) 0)
      (fun db b => b.due_apply) es
    simp [hchanges]

theorem performAll_ledger_sample :
    ((Execution.performAll Sample.db Sample.executions).reservations.row 1).map
      Reservation.totalAmount = some (200 + (0 - 250 - 40)) ∧
    ∀ id credit, (Execution.performAll Sample.db Sample.executions).travelCredits.row id =
      some credit → credit.Balanced := by
  have hcredits : ∀ id credit, Sample.db.travelCredits.row id = some credit → credit.Balanced := by
    intro id credit h
    apply Table.of_row_ofList (P := fun _ credit => credit.Balanced) _ h
    intro r hr
    cases List.mem_singleton.mp hr
    constructor <;> decide +kernel
  have h := performAll_ledger Sample.db Sample.executions rfl hcredits
  exact ⟨(h.2.1 1).trans (by decide +kernel), h.2.2.2.1⟩

namespace Db

def segmentPrices (db : Db) (reservationId : UUID) : Decimal :=
  db.reservationSegments.sum fun _ segment =>
    if segment.reservationId = reservationId then segment.pricePaid else 0

structure NonnegPrices (db : Db) : Prop where
  fares : ∀ fare ff, db.flightFares.row fare = some ff → 0 ≤ ff.price
  fees : ∀ id fareClass, db.catalog.fareClasses.row id = some fareClass → 0 ≤ fareClass.changeFee
  segments : ∀ id segment, db.reservationSegments.row id = some segment → 0 ≤ segment.pricePaid

/-- `db` is reached by the changes `new`, which explain its totals. -/
structure Accounts (db₀ db : Db) (new : List FlightChange) : Prop where
  changes : db.flightChanges = db₀.flightChanges ++ new
  prices : db.NonnegPrices
  fees : ∀ change ∈ new, 0 ≤ change.changeFee
  totals : ∀ id reservation, db.reservations.row id = some reservation →
    reservation.totalAmount = db.segmentPrices id +
      changesSum new (fun s => db.reservationOf s = some id) FlightChange.changeFee -
      changesSum new (fun s => db.reservationOf s = some id) FlightChange.travelCreditUsed

theorem segmentPrices_nonneg {db : Db} (h : db.NonnegPrices) (id : UUID) :
    0 ≤ db.segmentPrices id := by
  apply Finset.sum_nonneg
  intro k hk
  cases hrow : db.reservationSegments.row k with
  | none => simp
  | some segment =>
    simp only [Option.elim_some]
    split
    · exact h.segments k segment hrow
    · exact le_rfl

end Db

namespace Rebooking

variable {db : Db}

theorem segmentPrices_apply (b : Rebooking db) (id : UUID) :
    b.apply.segmentPrices id =
      db.segmentPrices id + if b.segment.reservationId = id then b.change.fareDifference else 0 := by
  have h := Table.sum_modify b.segment_row (·.move b.newFlightId b.newFareClassId b.target.price)
    fun _ segment => if segment.reservationId = id then segment.pricePaid else 0
  simp only [ReservationSegment.move] at h
  simp only [Db.segmentPrices, apply, ReservationSegment.move, change]
  by_cases hid : b.segment.reservationId = id
  · simp only [hid, if_true] at h ⊢
    linarith
  · simp only [hid, if_false] at h ⊢
    linarith

theorem nonnegPrices_apply (b : Rebooking db) (h : db.NonnegPrices) : b.apply.NonnegPrices where
  fares fare ff hff := by
    simp only [apply, Table.row_modify, Option.map_map, Option.map_eq_some_iff] at hff
    obtain ⟨ff₀, hff₀, rfl⟩ := hff
    have h₀ := h.fares fare ff₀ hff₀
    simp only [Function.comp, FlightFare.addSeats]
    split <;> split <;> exact h₀
  fees := h.fees
  segments id segment hseg := by
    simp only [apply, Table.row_modify, Option.map_eq_some_iff] at hseg
    obtain ⟨segment₀, hseg₀, rfl⟩ := hseg
    split
    · exact h.fares _ _ b.target_row
    · exact h.segments id segment₀ hseg₀

theorem accounts_apply {db₀ : Db} {new : List FlightChange} (b : Rebooking db)
    (h : db₀.Accounts db new) : db₀.Accounts b.apply (new ++ [b.change]) where
  changes := by simp only [apply, h.changes, List.append_assoc]
  prices := b.nonnegPrices_apply h.prices
  fees := by
    intro change hc
    cases List.mem_append.mp hc with
    | inl hc => exact h.fees change hc
    | inr hc =>
      rw [List.mem_singleton.mp hc]
      exact h.prices.fees _ _ b.fareClass_row
  totals := by
    intro id reservation hr
    simp only [apply, Table.row_modify, Option.map_eq_some_iff] at hr
    obtain ⟨old, hold, rfl⟩ := hr
    have htotal := h.totals id old hold
    simp only [b.segmentPrices_apply, changesSum_append, reservationOf_apply]
    change _ = _ + (_ + if db.reservationOf b.segmentId = some id then _ else 0) -
      (_ + if db.reservationOf b.segmentId = some id then _ else 0)
    simp only [b.reservationOf_segmentId, Option.some.injEq]
    by_cases hid : b.segment.reservationId = id
    · simp only [hid, if_true, Reservation.addTotal, FlightChange.amount, htotal]
      ring
    · simp only [hid, Ne.symm hid, if_false, htotal]
      ring

end Rebooking

theorem changesSum_nonneg {changes : List FlightChange} (mine : UUID → Prop) [DecidablePred mine]
    {f : FlightChange → Decimal} (h : ∀ change ∈ changes, 0 ≤ f change) :
    0 ≤ changesSum changes mine f := by
  apply List.sum_nonneg
  intro x hx
  obtain ⟨change, hc, rfl⟩ := List.mem_map.mp hx
  exact h change (List.mem_of_mem_filter hc)

theorem changesSum_eq_zero {changes : List FlightChange} (mine : UUID → Prop) [DecidablePred mine]
    {f : FlightChange → Decimal}
    (h : ∀ change ∈ changes, mine change.reservationSegmentId → f change = 0) :
    changesSum changes mine f = 0 := by
  apply List.sum_eq_zero
  intro x hx
  obtain ⟨change, hc, rfl⟩ := List.mem_map.mp hx
  obtain ⟨hmem, hmine⟩ := List.mem_filter.mp hc
  exact h change hmem (by simpa using hmine)

theorem performAll_totals (db : Db) (es : List Execution) (hprices : db.NonnegPrices)
    (htotals : ∀ id reservation, db.reservations.row id = some reservation →
      reservation.totalAmount = db.segmentPrices id) :
    let after := Execution.performAll db es
    ∃ new, after.flightChanges = db.flightChanges ++ new ∧
      ∀ id reservation, after.reservations.row id = some reservation →
        let mine := fun s => after.reservationOf s = some id
        reservation.totalAmount = after.segmentPrices id +
          changesSum new mine FlightChange.changeFee -
          changesSum new mine FlightChange.travelCreditUsed ∧
        0 ≤ reservation.totalAmount + changesSum new mine FlightChange.travelCreditUsed ∧
        ((∀ change ∈ new, mine change.reservationSegmentId → change.travelCreditUsed = 0) →
          0 ≤ reservation.totalAmount) := by
  intro after
  have hacc : ∃ new, db.Accounts after new := by
    apply Execution.performAll_invariant (P := fun db' => ∃ new, db.Accounts db' new) _ es
    · refine ⟨[], by simp, hprices, by simp, ?_⟩
      intro id reservation hr
      simpa using htotals id reservation hr
    · rintro db' b ⟨new, h⟩
      exact ⟨new ++ [b.change], b.accounts_apply h⟩
  obtain ⟨new, h⟩ := hacc
  refine ⟨new, h.changes, ?_⟩
  intro id reservation hr mine
  have htotal := h.totals id reservation hr
  have hseg := Db.segmentPrices_nonneg h.prices id
  have hfees : 0 ≤ changesSum new mine FlightChange.changeFee := changesSum_nonneg mine h.fees
  have hcovered : 0 ≤ reservation.totalAmount + changesSum new mine FlightChange.travelCreditUsed := by
    rw [htotal]
    linarith
  refine ⟨htotal, hcovered, ?_⟩
  intro hnone
  rwa [changesSum_eq_zero mine hnone, add_zero] at hcovered

theorem Sample.nonnegPrices : Sample.db.NonnegPrices where
  fares _ _ h := Table.of_row_ofList (P := fun _ ff => 0 ≤ ff.price) (by decide +kernel) h
  fees _ _ h := Table.of_row_ofList (P := fun _ fareClass => 0 ≤ fareClass.changeFee) (by decide +kernel) h
  segments _ _ h := Table.of_row_ofList (P := fun _ segment => 0 ≤ segment.pricePaid) (by decide +kernel) h

theorem Sample.totals (id : UUID) (reservation : Reservation)
    (h : Sample.db.reservations.row id = some reservation) :
    reservation.totalAmount = Sample.db.segmentPrices id :=
  Table.of_row_ofList (P := fun id reservation => reservation.totalAmount = db.segmentPrices id)
    (by decide +kernel) h

theorem performAll_totals_sample :
    ∃ new, (Execution.performAll Sample.db [.orm 0 Sample.downgrade]).flightChanges = [] ++ new ∧
      ∀ id reservation, (Execution.performAll Sample.db
          [.orm 0 Sample.downgrade]).reservations.row id = some reservation →
        0 ≤ reservation.totalAmount + changesSum new (fun s => (Execution.performAll Sample.db
          [.orm 0 Sample.downgrade]).reservationOf s = some id) FlightChange.travelCreditUsed := by
  obtain ⟨new, hnew, h⟩ :=
    performAll_totals Sample.db [.orm 0 Sample.downgrade] Sample.nonnegPrices Sample.totals
  exact ⟨new, hnew, fun id reservation hr => (h id reservation hr).2.1⟩

theorem performAll_total_negative :
    Sample.db.NonnegPrices ∧
    (∀ id reservation, Sample.db.reservations.row id = some reservation →
      reservation.totalAmount = Sample.db.segmentPrices id) ∧
    (Execution.performAll Sample.db
      [.go 0 Sample.upgrade, .asyncpg 0 Sample.downgrade]).flightChanges.length = 2 ∧
    ((Execution.performAll Sample.db
      [.go 0 Sample.upgrade, .asyncpg 0 Sample.downgrade]).reservations.row 1).map
        Reservation.totalAmount = some (-50) :=
  ⟨Sample.nonnegPrices, Sample.totals, by decide +kernel, by decide +kernel⟩

end AgentsAtScale.Airline
