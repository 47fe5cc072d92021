import AgentsAtScale.Bench.LoadGenerator
import AgentsAtScale.Airline.Independent
import AgentsAtScale.Data.Uuid
import AgentsAtScale.Transaction.Insert

namespace AgentsAtScale.Bench

open Airline Data Transaction Transition

/-- `lpad(value::text, width, '0')`, which cuts a longer text off. -/
def lpad (value width : ℕ) : String := .ofList (((Nat.toDigits 10 value).leftpad width '0').take width)

def idText (table leg value : ℕ) : String :=
  "b" ++ toString table ++ toString leg ++ "00000-0000-0000-0000-" ++ lpad value 12

def fareClassText : String := "b0000000-0000-0000-0000-000000000001"

def legs (groups : ℕ) : List (ℕ × ℕ) := List.range groups ×ˢ List.range 3

def flightRow (g leg : ℕ) : Option (UUID × Flight) := do
  let id ← Uuid.parse (idText 1 leg g)
  return (id, {
    originAirport := "X" ++ lpad g 2
    destinationAirport := "Y" ++ lpad g 2
    -- 2026-09-20 09:00+00 and the two days after it
    departureAt := 1789894800 + leg * 86400
    status := .scheduled })

def flightFareRow (g leg : ℕ) : Option ((UUID × UUID) × FlightFare) := do
  let flightId ← Uuid.parse (idText 1 leg g)
  let fareClassId ← Uuid.parse fareClassText
  return ((flightId, fareClassId), ⟨200, "USD", 1000000000⟩)

def reservationRow (i : ℕ) : Option (UUID × Reservation) := do
  let id ← Uuid.parse (idText 5 0 i)
  let customerId ← Uuid.parse (idText 3 0 i)
  return (id, ⟨"BK" ++ lpad i 6, customerId, .confirmed, 200, "USD"⟩)

def reservationPassengerRow (i : ℕ) : Option ((UUID × UUID) × Unit) := do
  let reservationId ← Uuid.parse (idText 5 0 i)
  let passengerId ← Uuid.parse (idText 4 0 i)
  return ((reservationId, passengerId), ())

def segmentRow (groups i : ℕ) : Option (UUID × ReservationSegment) := do
  let id ← Uuid.parse (idText 6 0 i)
  let reservationId ← Uuid.parse (idText 5 0 i)
  let g ← if groups = 0 then none else some (i % groups)
  let flightId ← Uuid.parse (idText 1 0 g)
  let fareClassId ← Uuid.parse fareClassText
  return (id, ⟨reservationId, flightId, fareClassId, .confirmed, 200, "USD"⟩)

def keyRow (key : Option κ) : Option (κ × Unit) := key.map (·, ())

def insertFlights (groups : ℕ) : Option (Table UUID Flight) :=
  Table.insertSelect (fun place => flightRow place.1 place.2) (legs groups)

def insertFlightFareIds (groups : ℕ) : Option (Table UUID Unit) :=
  Table.insertSelect (fun place => keyRow (Uuid.parse (idText 2 place.2 place.1))) (legs groups)

def insertFlightFares (groups : ℕ) : Option (Table (UUID × UUID) FlightFare) :=
  Table.insertSelect (fun place => flightFareRow place.1 place.2) (legs groups)

section

variable (conversations : ℕ)

def insertCustomers : Option (Table UUID Unit) :=
  Table.insertSelect (fun i => keyRow (Uuid.parse (idText 3 0 i))) (List.range' 1 conversations)

def insertPassengers : Option (Table UUID Unit) :=
  Table.insertSelect (fun i => keyRow (Uuid.parse (idText 4 0 i))) (List.range' 1 conversations)

def insertReservations : Option (Table UUID Reservation) :=
  Table.insertSelect reservationRow (List.range' 1 conversations)

def insertBookingReferences : Option (Table String Unit) :=
  Table.insertSelect (fun i => keyRow (some ("BK" ++ lpad i 6))) (List.range' 1 conversations)

def insertReservationPassengers : Option (Table (UUID × UUID) Unit) :=
  Table.insertSelect reservationPassengerRow (List.range' 1 conversations)

def insertReservationSegments (groups : ℕ) : Option (Table UUID ReservationSegment) :=
  Table.insertSelect (segmentRow groups) (List.range' 1 conversations)

end

/-- `seed.sql`, all in one transaction. -/
def seed (conversations groups : ℕ) : Option Db := do
  let fareClassId ← Uuid.parse fareClassText
  let flights ← insertFlights groups
  let _ ← insertFlightFareIds groups
  let flightFares ← insertFlightFares groups
  let _ ← insertCustomers conversations
  let _ ← insertPassengers conversations
  let reservations ← insertReservations conversations
  let _ ← insertBookingReferences conversations
  let reservationPassengers ← insertReservationPassengers conversations
  let reservationSegments ← insertReservationSegments conversations groups
  return {
    catalog := {
      flights := flights
      fareClasses := .ofList [(fareClassId, ⟨true, 0⟩)]
      reservationPassengers := reservationPassengers.keys }
    flightFares := flightFares
    reservations := reservations
    reservationSegments := reservationSegments
    travelCredits := .ofList []
    flightChanges := [] }

theorem length_lpad (value width : ℕ) : (lpad value width).toList.length = width := by
  rw [lpad, String.toList_ofList, List.length_take, List.length_leftpad]
  omega

theorem within_of_mem_lpad {value width : ℕ} {c : Char} (h : c ∈ (lpad value width).toList) :
    Uuid.Within '0' '9' c := by
  rw [lpad, String.toList_ofList] at h
  obtain h | h := List.mem_append.mp (List.mem_of_mem_take h)
  · rw [List.eq_of_mem_replicate h]
    decide
  · have hdigit := Nat.isDigit_of_mem_toDigits (by decide) (by decide) h
    simpa [Char.isDigit, Uuid.Within, UInt32.le_iff_toNat_le] using hdigit

theorem lpad_eq_zeroPadded {value width : ℕ} (hwidth : 0 < width) (h : value < 10 ^ width) :
    lpad value width = zeroPadded width value := by
  have hlength := (Nat.length_toDigits_le_iff (by decide) hwidth).mpr h
  rw [lpad, zeroPadded, if_neg (by omega), List.take_of_length_le]
  · rfl
  · rw [List.length_leftpad]
    omega

theorem lpad_injOn {width : ℕ} (hwidth : 0 < width) :
    Set.InjOn (lpad · width) {value | value < 10 ^ width} := by
  intro i hi j hj h
  dsimp only at h
  rw [lpad_eq_zeroPadded hwidth hi, lpad_eq_zeroPadded hwidth hj] at h
  exact Int.natCast_inj.mp (zeroPadded_injective width h)

theorem toList_idText {table leg : ℕ} (htable : table < 10) (hleg : leg < 10) (value : ℕ) :
    (idText table leg value).toList = 'b' :: table.digitChar :: leg.digitChar ::
      "00000-0000-0000-0000-".toList ++ (lpad value 12).toList := by
  have hdigit {n : ℕ} (hn : n < 10) : (toString n).toList = [n.digitChar] := by
    rw [Nat.toString_eq_repr, Nat.repr, String.toList_ofList, Nat.toDigits_of_lt_base hn]
  simp only [idText, String.toList_append, hdigit htable, hdigit hleg]
  rfl

def idDigits (table leg : ℕ) : List Char :=
  'b' :: table.digitChar :: leg.digitChar :: List.replicate 17 '0'

theorem ungroup_idText {table leg : ℕ} (htable : table < 10) (hleg : leg < 10) (value : ℕ) :
    Uuid.ungroup (idText table leg value).toList = some (idDigits table leg ++ (lpad value 12).toList) := by
  rw [toList_idText htable hleg]
  simp [Uuid.ungroup, Uuid.group, idDigits, length_lpad]

theorem within_digitChar {n : ℕ} (hn : n < 10) : Uuid.Within '0' '9' n.digitChar := by
  interval_cases n <;> decide

theorem mem_idDigits {table leg value : ℕ} (htable : table < 10) (hleg : leg < 10) {c : Char}
    (hc : c ∈ idDigits table leg ++ (lpad value 12).toList) : c = 'b' ∨ Uuid.Within '0' '9' c := by
  obtain hc | hc := List.mem_append.mp hc
  · obtain rfl | rfl | rfl | hc := by simpa only [idDigits, List.mem_cons] using hc
    · exact .inl rfl
    · exact .inr (within_digitChar htable)
    · exact .inr (within_digitChar hleg)
    · rw [List.eq_of_mem_replicate hc]
      exact .inr (by decide)
  · exact .inr (within_of_mem_lpad hc)

theorem isSome_parse_idText {table leg : ℕ} (htable : table < 10) (hleg : leg < 10) (value : ℕ) :
    (Uuid.parse (idText table leg value)).isSome := by
  refine Uuid.isSome_parse (ungroup_idText htable hleg value) fun c hc => ?_
  obtain rfl | hdigit := mem_idDigits htable hleg hc
  · rfl
  · simp [Uuid.hexValue, hdigit]

theorem lower_idDigits {table leg value : ℕ} (htable : table < 10) (hleg : leg < 10) :
    ∀ c ∈ idDigits table leg ++ (lpad value 12).toList, ¬Uuid.Within 'A' 'F' c := by
  intro c hc hupper
  obtain rfl | hdigit := mem_idDigits htable hleg hc
  · exact absurd hupper (by decide)
  · have hle := hdigit.2.trans_lt (by decide : '9'.toNat < 'A'.toNat)
    exact absurd hupper.1 hle.not_ge

theorem digitChar_injOn : Set.InjOn Nat.digitChar {n | n < 10} := by
  intro n hn m hm h
  rw [Set.mem_ofPred_eq] at hn hm
  interval_cases n <;> interval_cases m <;> first | rfl | exact absurd h (by decide)

theorem parse_idText_inj {table leg leg' value value' : ℕ} {id : UUID} (htable : table < 10)
    (hleg : leg < 10) (hleg' : leg' < 10) (h : Uuid.parse (idText table leg value) = some id)
    (h' : Uuid.parse (idText table leg' value') = some id) :
    leg = leg' ∧ lpad value 12 = lpad value' 12 := by
  have hdigits := Uuid.digits_inj h h' (ungroup_idText htable hleg value)
    (ungroup_idText htable hleg' value') (lower_idDigits htable hleg) (lower_idDigits htable hleg')
  simp only [idDigits, List.cons_append, List.cons.injEq, true_and, List.append_cancel_left_eq] at hdigits
  exact ⟨digitChar_injOn hleg hleg' hdigits.1, String.toList_inj.mp hdigits.2⟩

theorem parse_idText_ne_nil {table leg value : ℕ} (htable : table < 10) (hleg : leg < 10) :
    Uuid.parse (idText table leg value) ≠ some nilUUID := by
  intro h
  have hnil : Uuid.parse "00000000-0000-0000-0000-000000000000" = some nilUUID := by decide +kernel
  have hzero : ∀ c ∈ List.replicate 32 '0', ¬Uuid.Within 'A' 'F' c := by
    intro c hc
    rw [List.eq_of_mem_replicate hc]
    decide
  have hdigits := Uuid.digits_inj h hnil (ungroup_idText htable hleg value) rfl
    (lower_idDigits htable hleg) hzero
  exact absurd (List.cons.inj hdigits).1 (by decide)

theorem isSome_parse_fareClassText : (Uuid.parse fareClassText).isSome := by decide +kernel

theorem mem_legs {groups : ℕ} {place : ℕ × ℕ} : place ∈ legs groups ↔ place.1 < groups ∧ place.2 < 3 := by
  rw [legs, List.mem_product, List.mem_range, List.mem_range]

theorem nodup_legs (groups : ℕ) : (legs groups).Nodup := List.nodup_range.product List.nodup_range

theorem mem_series {conversations i : ℕ} : i ∈ List.range' 1 conversations ↔ 1 ≤ i ∧ i ≤ conversations := by
  rw [List.mem_range'_1]
  omega

theorem isSome_insertSelect_of_idText [DecidableEq κ] {row : ι → Option (κ × ρ)} {series : List ι}
    (hseries : series.Nodup) {table : ℕ} (htable : table < 10) (place : ι → ℕ × ℕ)
    (hplace : place.Injective) (hsmall : ∀ x ∈ series, (place x).1 < 10 ^ 12 ∧ (place x).2 < 10)
    (hsome : ∀ x ∈ series, (row x).isSome) (id : κ → UUID)
    (hid : ∀ x k r, row x = some (k, r) → Uuid.parse (idText table (place x).2 (place x).1) = some (id k)) :
    (Table.insertSelect row series).isSome := by
  refine (Table.isSome_insertSelect_iff hseries).mpr ⟨hsome, fun x hx y hy heq => ?_⟩
  obtain ⟨⟨k, r⟩, hrow⟩ := Option.isSome_iff_exists.mp (hsome x hx)
  obtain ⟨⟨k', r'⟩, hrow'⟩ := Option.isSome_iff_exists.mp (hsome y hy)
  obtain rfl : k = k' := by simpa [hrow, hrow'] using heq
  obtain ⟨hleg, hlpad⟩ := parse_idText_inj htable (hsmall x hx).2 (hsmall y hy).2 (hid _ _ _ hrow)
    (hid _ _ _ hrow')
  exact hplace (Prod.ext (lpad_injOn (by decide) (hsmall x hx).1 (hsmall y hy).1 hlpad) hleg)

section

variable {g leg i groups : ℕ}

theorem exists_id {table : ℕ} (htable : table < 10) (hleg : leg < 10) (value : ℕ) :
    ∃ id, Uuid.parse (idText table leg value) = some id :=
  Option.isSome_iff_exists.mp (isSome_parse_idText htable hleg value)

theorem isSome_flightRow (hleg : leg < 10) : (flightRow g leg).isSome := by
  obtain ⟨id, hid⟩ := exists_id (by decide : 1 < 10) hleg g
  simp [flightRow, hid]

theorem flightRow_eq_some {id : UUID} {flight : Flight} (h : flightRow g leg = some (id, flight)) :
    Uuid.parse (idText 1 leg g) = some id ∧
      flight = ⟨"X" ++ lpad g 2, "Y" ++ lpad g 2, 1789894800 + leg * 86400, .scheduled⟩ := by
  simp only [flightRow, Option.bind_eq_bind, Option.bind_eq_some_iff, Option.pure_def, Option.some.injEq,
    Prod.mk.injEq] at h
  obtain ⟨_, hid, rfl, rfl⟩ := h
  exact ⟨hid, rfl⟩

theorem isSome_flightFareRow (hleg : leg < 10) : (flightFareRow g leg).isSome := by
  obtain ⟨id, hid⟩ := exists_id (by decide : 1 < 10) hleg g
  obtain ⟨fareClassId, hclass⟩ := Option.isSome_iff_exists.mp isSome_parse_fareClassText
  simp [flightFareRow, hid, hclass]

theorem flightFareRow_eq_some {fare : UUID × UUID} {row : FlightFare}
    (h : flightFareRow g leg = some (fare, row)) :
    Uuid.parse (idText 1 leg g) = some fare.1 ∧ Uuid.parse fareClassText = some fare.2 ∧
      row = ⟨200, "USD", 1000000000⟩ := by
  simp only [flightFareRow, Option.bind_eq_bind, Option.bind_eq_some_iff, Option.pure_def,
    Option.some.injEq, Prod.mk.injEq] at h
  obtain ⟨_, hid, _, hclass, rfl, rfl⟩ := h
  exact ⟨hid, hclass, rfl⟩

theorem isSome_reservationRow : (reservationRow i).isSome := by
  obtain ⟨id, hid⟩ := exists_id (by decide : 5 < 10) (by decide : 0 < 10) i
  obtain ⟨customerId, hcustomer⟩ := exists_id (by decide : 3 < 10) (by decide : 0 < 10) i
  simp [reservationRow, hid, hcustomer]

theorem reservationRow_eq_some {id : UUID} {reservation : Reservation}
    (h : reservationRow i = some (id, reservation)) : Uuid.parse (idText 5 0 i) = some id ∧
      ∃ customerId, reservation = ⟨"BK" ++ lpad i 6, customerId, .confirmed, 200, "USD"⟩ := by
  simp only [reservationRow, Option.bind_eq_bind, Option.bind_eq_some_iff, Option.pure_def,
    Option.some.injEq, Prod.mk.injEq] at h
  obtain ⟨_, hid, customerId, -, rfl, rfl⟩ := h
  exact ⟨hid, customerId, rfl⟩

theorem isSome_reservationPassengerRow : (reservationPassengerRow i).isSome := by
  obtain ⟨id, hid⟩ := exists_id (by decide : 5 < 10) (by decide : 0 < 10) i
  obtain ⟨passengerId, hpassenger⟩ := exists_id (by decide : 4 < 10) (by decide : 0 < 10) i
  simp [reservationPassengerRow, hid, hpassenger]

theorem reservationPassengerRow_eq_some {pair : UUID × UUID} {u : Unit}
    (h : reservationPassengerRow i = some (pair, u)) : Uuid.parse (idText 5 0 i) = some pair.1 := by
  simp only [reservationPassengerRow, Option.bind_eq_bind, Option.bind_eq_some_iff, Option.pure_def,
    Option.some.injEq, Prod.mk.injEq] at h
  obtain ⟨_, hid, _, -, rfl, -⟩ := h
  exact hid

theorem isSome_segmentRow_iff : (segmentRow groups i).isSome ↔ 0 < groups := by
  obtain ⟨id, hid⟩ := exists_id (by decide : 6 < 10) (by decide : 0 < 10) i
  obtain ⟨reservationId, hreservation⟩ := exists_id (by decide : 5 < 10) (by decide : 0 < 10) i
  obtain ⟨flightId, hflight⟩ := exists_id (by decide : 1 < 10) (by decide : 0 < 10) (i % groups)
  obtain ⟨fareClassId, hclass⟩ := Option.isSome_iff_exists.mp isSome_parse_fareClassText
  by_cases hgroups : groups = 0
  · simp [segmentRow, hid, hreservation, hgroups]
  · simp [segmentRow, hid, hreservation, hgroups, hflight, hclass, Nat.pos_of_ne_zero]

theorem segmentRow_eq_some {id : UUID} {segment : ReservationSegment}
    (h : segmentRow groups i = some (id, segment)) :
    Uuid.parse (idText 6 0 i) = some id ∧ ∃ reservationId flightId fareClassId,
      Uuid.parse (idText 5 0 i) = some reservationId ∧
      Uuid.parse (idText 1 0 (i % groups)) = some flightId ∧ Uuid.parse fareClassText = some fareClassId ∧
      segment = ⟨reservationId, flightId, fareClassId, .confirmed, 200, "USD"⟩ := by
  simp only [segmentRow, Option.bind_eq_bind, Option.bind_eq_some_iff] at h
  obtain ⟨_, hid, reservationId, hreservation, h⟩ := h
  split at h
  · cases h
  · simp only [Option.bind_some, Option.bind_eq_some_iff, Option.pure_def, Option.some.injEq,
      Prod.mk.injEq] at h
    obtain ⟨flightId, hflight, fareClassId, hclass, rfl, rfl⟩ := h
    exact ⟨hid, reservationId, flightId, fareClassId, hreservation, hflight, hclass, rfl⟩

theorem isSome_keyRow {key : Option κ} (h : key.isSome) : (keyRow key).isSome := by
  rwa [keyRow, Option.isSome_map]

theorem keyRow_eq_some {key : Option κ} {k : κ} {r : Unit} (h : keyRow key = some (k, r)) : key = some k := by
  simpa [keyRow] using h

end

theorem isSome_insertSelect_legs [DecidableEq κ] {row : ℕ × ℕ → Option (κ × ρ)} {groups : ℕ}
    (hgroups : groups ≤ 10 ^ 12) {table : ℕ} (htable : table < 10)
    (hsome : ∀ place : ℕ × ℕ, place.2 < 10 → (row place).isSome) (id : κ → UUID)
    (hid : ∀ place k r, row place = some (k, r) → Uuid.parse (idText table place.2 place.1) = some (id k)) :
    (Table.insertSelect row (legs groups)).isSome := by
  have hleg {place : ℕ × ℕ} (h : place ∈ legs groups) : place.1 < 10 ^ 12 ∧ place.2 < 10 := by
    obtain ⟨hg, hleg⟩ := mem_legs.mp h
    omega
  exact isSome_insertSelect_of_idText (nodup_legs groups) htable (fun place => place)
    Function.injective_id (fun _ => hleg) (fun place h => hsome place (hleg h).2) id hid

theorem isSome_insertSelect_series [DecidableEq κ] {row : ℕ → Option (κ × ρ)} {conversations : ℕ}
    (hsmall : conversations < 10 ^ 6) {table : ℕ} (htable : table < 10)
    (hsome : ∀ i ∈ List.range' 1 conversations, (row i).isSome) (id : κ → UUID)
    (hid : ∀ i k r, row i = some (k, r) → Uuid.parse (idText table 0 i) = some (id k)) :
    (Table.insertSelect row (List.range' 1 conversations)).isSome := by
  refine isSome_insertSelect_of_idText (List.nodup_range' ..) htable (fun i => (i, 0)) ?_ ?_ hsome id hid
  · intro i j h
    exact (Prod.mk.inj h).1
  · intro i hi
    have := (mem_series.mp hi).2
    exact ⟨by omega, Nat.zero_lt_succ 9⟩

theorem isSome_insertFlights_iff {groups : ℕ} : (insertFlights groups).isSome ↔ groups ≤ 10 ^ 12 := by
  constructor
  · intro h
    by_contra hlt
    have hinj := ((Table.isSome_insertSelect_iff (nodup_legs groups)).mp h).2
    have heq : ((10 ^ 11, 0) : ℕ × ℕ) = (10 ^ 12, 0) :=
      hinj (mem_legs.mpr ⟨by omega, by decide⟩) (mem_legs.mpr ⟨by omega, by decide⟩) (by decide +kernel)
    exact absurd heq (by decide)
  · intro h
    exact isSome_insertSelect_legs h (by decide : 1 < 10) (fun _ => isSome_flightRow) id
      fun _ _ _ hrow => (flightRow_eq_some hrow).1

theorem isSome_insertBookingReferences_iff {conversations : ℕ} :
    (insertBookingReferences conversations).isSome ↔ conversations < 10 ^ 6 := by
  rw [insertBookingReferences, Table.isSome_insertSelect_iff (List.nodup_range' ..)]
  constructor
  · rintro ⟨-, hinj⟩
    by_contra hlt
    have heq : 10 ^ 5 = 10 ^ 6 :=
      hinj (mem_series.mpr ⟨by decide, by omega⟩) (mem_series.mpr ⟨by decide, by omega⟩) (by decide +kernel)
    exact absurd heq (by decide)
  · intro h
    refine ⟨fun _ _ => rfl, fun i hi j hj heq => ?_⟩
    have hlt {i : ℕ} (hi : i ∈ List.range' 1 conversations) : i < 10 ^ 6 := by
      have := (mem_series.mp hi).2
      omega
    exact lpad_injOn (by decide) (hlt hi) (hlt hj) (by simpa [keyRow] using heq)

theorem isSome_insertReservationSegments {conversations groups : ℕ} (hsmall : conversations < 10 ^ 6)
    (hgroups : conversations = 0 ∨ 0 < groups) : (insertReservationSegments conversations groups).isSome := by
  refine isSome_insertSelect_series hsmall (by decide : 6 < 10) ?_ id fun _ _ _ h => (segmentRow_eq_some h).1
  intro i hi
  have := mem_series.mp hi
  exact isSome_segmentRow_iff.mpr (by omega)

theorem any_const (o : Option α) (b : Bool) : (o.any fun _ => b) = (o.isSome && b) := by
  cases o <;> rfl

theorem isSome_seed {conversations groups : ℕ} (hsmall : conversations < 10 ^ 6) (hgroups : groups ≤ 10 ^ 12)
    (hpos : conversations = 0 ∨ 0 < groups) : (seed conversations groups).isSome := by
  obtain ⟨fareClassId, hclass⟩ := Option.isSome_iff_exists.mp isSome_parse_fareClassText
  have hdigit : 0 < 10 := by decide
  simp only [seed, hclass, Option.bind_eq_bind, Option.bind_some, Option.pure_def, Option.isSome_bind,
    Option.isSome_some, any_const, Bool.and_eq_true, and_true]
  refine ⟨isSome_insertFlights_iff.mpr hgroups, ?_, ?_, ?_, ?_, ?_,
    isSome_insertBookingReferences_iff.mpr hsmall, ?_, isSome_insertReservationSegments hsmall hpos⟩
  · exact isSome_insertSelect_legs hgroups (by decide : 2 < 10)
      (fun place hleg => isSome_keyRow (isSome_parse_idText (by decide) hleg place.1)) id
      fun _ _ _ => keyRow_eq_some
  · exact isSome_insertSelect_legs hgroups (by decide : 1 < 10) (fun _ => isSome_flightFareRow) Prod.fst
      fun _ _ _ hrow => (flightFareRow_eq_some hrow).1
  · exact isSome_insertSelect_series hsmall (by decide : 3 < 10)
      (fun i _ => isSome_keyRow (isSome_parse_idText (by decide) hdigit i)) id fun _ _ _ => keyRow_eq_some
  · exact isSome_insertSelect_series hsmall (by decide : 4 < 10)
      (fun i _ => isSome_keyRow (isSome_parse_idText (by decide) hdigit i)) id fun _ _ _ => keyRow_eq_some
  · exact isSome_insertSelect_series hsmall (by decide : 5 < 10) (fun _ _ => isSome_reservationRow) id
      fun _ _ _ h => (reservationRow_eq_some h).1
  · exact isSome_insertSelect_series hsmall (by decide : 5 < 10)
      (fun _ _ => isSome_reservationPassengerRow) Prod.fst fun _ _ _ => reservationPassengerRow_eq_some

structure Seeded (conversations groups : ℕ) (db : Db) : Prop where
  fareClasses : ∃ id, Uuid.parse fareClassText = some id ∧
    db.catalog.fareClasses = .ofList [(id, ⟨true, 0⟩)]
  flights : insertFlights groups = some db.catalog.flights
  flightFares : insertFlightFares groups = some db.flightFares
  reservations : insertReservations conversations = some db.reservations
  small : conversations < 10 ^ 6
  reservationPassengers : ∃ t, insertReservationPassengers conversations = some t ∧
    db.catalog.reservationPassengers = t.keys
  reservationSegments : insertReservationSegments conversations groups = some db.reservationSegments
  travelCredits : db.travelCredits = .ofList []

theorem seeded_of_seed {conversations groups : ℕ} {db : Db} (h : seed conversations groups = some db) :
    Seeded conversations groups db := by
  simp only [seed, Option.bind_eq_bind, Option.bind_eq_some_iff, Option.pure_def, Option.some.injEq] at h
  obtain ⟨id, hid, flights, hflights, _, -, fares, hfares, _, -, _, -, reservations, hreservations, _,
    hreferences, passengers, hpassengers, segments, hsegments, rfl⟩ := h
  have hsmall := isSome_insertBookingReferences_iff.mp (Option.isSome_of_eq_some hreferences)
  exact ⟨⟨id, hid, rfl⟩, hflights, hfares, hreservations, hsmall, ⟨passengers, hpassengers, rfl⟩,
    hsegments, rfl⟩

theorem isSome_seed_iff (conversations groups : ℕ) : (seed conversations groups).isSome ↔
    conversations < 10 ^ 6 ∧ groups ≤ 10 ^ 12 ∧ (conversations = 0 ∨ 0 < groups) := by
  constructor
  · intro h
    obtain ⟨db, hdb⟩ := Option.isSome_iff_exists.mp h
    have hseeded := seeded_of_seed hdb
    have hflights := isSome_insertFlights_iff.mp (Option.isSome_of_eq_some hseeded.flights)
    refine ⟨hseeded.small, hflights, Nat.eq_zero_or_pos conversations |>.imp_right fun hpos => ?_⟩
    obtain ⟨_, _, hrow, -⟩ := Table.row_of_insertSelect hseeded.reservationSegments
      (mem_series.mpr ⟨le_rfl, hpos⟩)
    exact isSome_segmentRow_iff.mp (Option.isSome_of_eq_some hrow)
  · rintro ⟨hsmall, hgroups, hpos⟩
    exact isSome_seed hsmall hgroups hpos

theorem idText_inj {table i j : ℕ} {id : UUID} (htable : table < 10) (hi : i < 10 ^ 12) (hj : j < 10 ^ 12)
    (h : Uuid.parse (idText table 0 i) = some id) (h' : Uuid.parse (idText table 0 j) = some id) : i = j :=
  lpad_injOn (by decide) hi hj (parse_idText_inj htable (by decide) (by decide) h h').2

theorem isNumeric_fare : IsNumeric 200 := by decide +kernel

namespace Seeded

variable {conversations groups g leg i : ℕ} {db : Db} {id fareClassId : UUID}

theorem fareClass (h : Seeded conversations groups db)
    (hclass : Uuid.parse fareClassText = some fareClassId) :
    db.catalog.fareClasses.row fareClassId = some ⟨true, 0⟩ := by
  obtain ⟨_, hid, htable⟩ := h.fareClasses
  cases hclass.symm.trans hid
  rw [htable]
  exact Table.row_ofList_of_mem (by simp) (List.mem_singleton.mpr rfl)

theorem flight (h : Seeded conversations groups db) (hg : g < groups) (hleg : leg < 3)
    (hid : Uuid.parse (idText 1 leg g) = some id) : db.catalog.flights.row id =
      some ⟨"X" ++ lpad g 2, "Y" ++ lpad g 2, 1789894800 + leg * 86400, .scheduled⟩ := by
  obtain ⟨_, _, hrow, htable⟩ := Table.row_of_insertSelect h.flights (x := (g, leg)) (mem_legs.mpr ⟨hg, hleg⟩)
  obtain ⟨hid', rfl⟩ := flightRow_eq_some hrow
  cases hid.symm.trans hid'
  exact htable

theorem flightFare (h : Seeded conversations groups db) (hg : g < groups) (hleg : leg < 3)
    (hid : Uuid.parse (idText 1 leg g) = some id) (hclass : Uuid.parse fareClassText = some fareClassId) :
    db.flightFares.row (id, fareClassId) = some ⟨200, "USD", 1000000000⟩ := by
  obtain ⟨fare, _, hrow, htable⟩ :=
    Table.row_of_insertSelect h.flightFares (x := (g, leg)) (mem_legs.mpr ⟨hg, hleg⟩)
  obtain ⟨hid', hclass', rfl⟩ := flightFareRow_eq_some hrow
  obtain rfl : fare = (id, fareClassId) := by
    ext1
    · exact Option.some.inj (hid'.symm.trans hid)
    · exact Option.some.inj (hclass'.symm.trans hclass)
  exact htable

theorem reservation (h : Seeded conversations groups db) (hi : 1 ≤ i ∧ i ≤ conversations)
    (hid : Uuid.parse (idText 5 0 i) = some id) : ∃ customerId,
      db.reservations.row id = some ⟨"BK" ++ lpad i 6, customerId, .confirmed, 200, "USD"⟩ := by
  obtain ⟨_, _, hrow, htable⟩ := Table.row_of_insertSelect h.reservations (mem_series.mpr hi)
  obtain ⟨hid', customerId, rfl⟩ := reservationRow_eq_some hrow
  cases hid.symm.trans hid'
  exact ⟨customerId, htable⟩

theorem segment (h : Seeded conversations groups db) (hi : 1 ≤ i ∧ i ≤ conversations)
    (hid : Uuid.parse (idText 6 0 i) = some id) : 0 < groups ∧ ∃ reservationId flightId fareClassId,
      Uuid.parse (idText 5 0 i) = some reservationId ∧
      Uuid.parse (idText 1 0 (i % groups)) = some flightId ∧ Uuid.parse fareClassText = some fareClassId ∧
      db.reservationSegments.row id =
        some ⟨reservationId, flightId, fareClassId, .confirmed, 200, "USD"⟩ := by
  obtain ⟨_, _, hrow, htable⟩ := Table.row_of_insertSelect h.reservationSegments (mem_series.mpr hi)
  have hgroups := isSome_segmentRow_iff.mp (Option.isSome_of_eq_some hrow)
  obtain ⟨hid', reservationId, flightId, fareClassId, hreservation, hflight, hclass, rfl⟩ :=
    segmentRow_eq_some hrow
  cases hid.symm.trans hid'
  exact ⟨hgroups, reservationId, flightId, fareClassId, hreservation, hflight, hclass, htable⟩

theorem lt_of_le (h : Seeded conversations groups db) (hi : i ≤ conversations) : i < 10 ^ 12 := by
  have := h.small
  omega

theorem passengerCount (h : Seeded conversations groups db) (hi : 1 ≤ i ∧ i ≤ conversations)
    (hid : Uuid.parse (idText 5 0 i) = some id) : db.catalog.passengerCount id = 1 := by
  obtain ⟨t, ht, hkeys⟩ := h.reservationPassengers
  obtain ⟨pair, _, hrow, htable⟩ := Table.row_of_insertSelect ht (mem_series.mpr hi)
  have hpair : pair.1 = id := Option.some.inj ((reservationPassengerRow_eq_some hrow).symm.trans hid)
  have hsingle : (t.keys.filter fun rp => rp.1 = id) = {pair} := by
    ext other
    simp only [Finset.mem_filter, Finset.mem_singleton, t.mem_keys]
    constructor
    · rintro ⟨hother, hid'⟩
      obtain ⟨_, hother⟩ := Option.isSome_iff_exists.mp hother
      obtain ⟨j, hj, hrow'⟩ := Table.exists_of_insertSelect ht hother
      have hparse := reservationPassengerRow_eq_some hrow'
      rw [hid'] at hparse
      obtain rfl := idText_inj (by decide) (h.lt_of_le hi.2) (h.lt_of_le (mem_series.mp hj).2) hid hparse
      exact (Prod.mk.inj (Option.some.inj (hrow'.symm.trans hrow))).1
    · rintro rfl
      exact ⟨Option.isSome_of_eq_some htable, hpair⟩
  rw [Catalog.passengerCount, hkeys, hsingle]
  rfl

theorem valid (h : Seeded conversations groups db) : db.Valid where
  fareClasses := by
    obtain ⟨_, -, htable⟩ := h.fareClasses
    rw [htable]
    intro k r hr
    refine Table.of_row_ofList (P := fun _ fareClass => IsNumeric fareClass.changeFee) ?_ hr
    simp [IsNumeric]
  flightFares := by
    intro k r hr
    obtain ⟨place, hplace, hrow⟩ := Table.exists_of_insertSelect h.flightFares hr
    obtain ⟨hid, hclass, rfl⟩ := flightFareRow_eq_some hrow
    obtain ⟨hg, hleg⟩ := mem_legs.mp hplace
    rw [h.flight hg hleg hid, h.fareClass hclass]
    exact ⟨rfl, rfl, isNumeric_fare, by decide⟩
  reservations := by
    intro k r hr
    obtain ⟨i, -, hrow⟩ := Table.exists_of_insertSelect h.reservations hr
    obtain ⟨-, _, rfl⟩ := reservationRow_eq_some hrow
    exact isNumeric_fare
  reservationSegments := by
    intro k r hr
    obtain ⟨i, hi, hrow⟩ := Table.exists_of_insertSelect h.reservationSegments hr
    have hgroups := isSome_segmentRow_iff.mp (Option.isSome_of_eq_some hrow)
    obtain ⟨-, reservationId, flightId, fareClassId, hreservation, hflight, hclass, rfl⟩ :=
      segmentRow_eq_some hrow
    obtain ⟨customerId, hr⟩ := h.reservation (mem_series.mp hi) hreservation
    rw [hr, h.flight (Nat.mod_lt i hgroups) (by decide) hflight, h.fareClass hclass]
    exact ⟨rfl, rfl, rfl, isNumeric_fare⟩
  travelCredits := by
    rw [h.travelCredits]
    intro k r hr
    cases hr

end Seeded

end AgentsAtScale.Bench
