import AgentsAtScale.Airline.Schema

namespace AgentsAtScale.Airline

structure CreditValue extends TravelCredit where
  id : UUID
  deriving DecidableEq

def mapTravelCredit (id : UUID) (credit : TravelCredit) : CreditValue := { credit with id := id }

def RebookingSnapshot.fareDifference (snapshot : RebookingSnapshot) : Decimal :=
  snapshot.targetPrice - snapshot.oldPrice

def RebookingSnapshot.validation (snapshot : RebookingSnapshot)
    (selection : RebookingSelection γ) (amountDue : Decimal) : RebookingValidation γ where
  selection := selection
  reservationId := snapshot.reservationId
  customerId := snapshot.customerId
  oldFlightId := snapshot.oldFlightId
  oldFareClassId := snapshot.oldFareClassId
  newFlightId := snapshot.targetFlightId
  newFareClassId := snapshot.targetFareClassId
  newPrice := snapshot.targetPrice
  fareDifference := snapshot.fareDifference
  changeFee := snapshot.targetChangeFee
  amountDue := amountDue
  travelCreditUsed := selection.travelCreditAmount
  currency := snapshot.oldCurrency
  passengerCount := snapshot.passengerCount

namespace Go

inductive ValidationError
  | fareChangeNotAllowed
  | reservationNotConfirmed
  | segmentNotChangeable
  | targetFlightUnavailable
  | routeMismatch
  | currencyMismatch
  | travelCreditInvalid
  | rebookingAlreadyApplied
  deriving DecidableEq

def ValidationError.message : ValidationError → String
  | .fareChangeNotAllowed => "fare change is not allowed"
  | .reservationNotConfirmed => "reservation is not confirmed"
  | .segmentNotChangeable => "reservation segment cannot be changed"
  | .targetFlightUnavailable => "selected flight is unavailable"
  | .routeMismatch => "selected flight route does not match"
  | .currencyMismatch => "selected fare currency does not match"
  | .travelCreditInvalid => "travel credit is invalid"
  | .rebookingAlreadyApplied => "rebooking was already applied"

def creditInvalid (now : Timestamp) (selection : RebookingSelection UUID)
    (snapshot : RebookingSnapshot) (credit : Option CreditValue) : Bool :=
  if selection.travelCreditId ≠ nilUUID then
    match credit with
    | none => true
    | some credit =>
      credit.id ≠ selection.travelCreditId || credit.customerId ≠ snapshot.customerId ||
        credit.currency ≠ snapshot.oldCurrency ||
        credit.remainingAmount < selection.travelCreditAmount ||
        selection.travelCreditAmount < 0 || selection.travelCreditAmount = 0 ||
        !decide (now < credit.expiresAt) ||
        (credit.status ≠ .available && credit.status ≠ .partiallyUsed)
  else selection.travelCreditAmount ≠ 0

def amountDue (snapshot : RebookingSnapshot) : Decimal :=
  let amountDue := snapshot.fareDifference + snapshot.targetChangeFee
  if amountDue < 0 then 0 else amountDue

def validateRebookingSelection (now : Timestamp) (selection : RebookingSelection UUID)
    (snapshot : RebookingSnapshot) (credit : Option CreditValue) :
    Except ValidationError (RebookingValidation UUID) :=
  if selection.segmentId = nilUUID ∨ snapshot.segmentId ≠ selection.segmentId then
    .error .segmentNotChangeable
  else if snapshot.reservationStatus ≠ .confirmed then
    .error .reservationNotConfirmed
  else if snapshot.segmentStatus ≠ .confirmed ∧ snapshot.segmentStatus ≠ .changed then
    .error .segmentNotChangeable
  else if snapshot.segmentStatus = .changed ∧ snapshot.oldFlightId = selection.newFlightId ∧
      snapshot.oldFareClassId = selection.newFareClassId then
    .error .rebookingAlreadyApplied
  else if !snapshot.oldChangeAllowed then
    .error .fareChangeNotAllowed
  else if snapshot.targetFlightId ≠ selection.newFlightId ∨
      snapshot.targetFareClassId ≠ selection.newFareClassId ∨
      snapshot.targetStatus ≠ .scheduled ∨ snapshot.availableSeats < 1 then
    .error .targetFlightUnavailable
  else if snapshot.originAirport ≠ snapshot.targetOrigin ∨
      snapshot.destinationAirport ≠ snapshot.targetDestination then
    .error .routeMismatch
  else if !snapshot.targetChangeAllowed then
    .error .fareChangeNotAllowed
  else if snapshot.targetCurrency ≠ snapshot.oldCurrency then
    .error .currencyMismatch
  else if snapshot.passengerCount ≤ 0 ∨ snapshot.availableSeats < snapshot.passengerCount then
    .error .targetFlightUnavailable
  else if creditInvalid now selection snapshot credit then
    .error .travelCreditInvalid
  else if selection.travelCreditAmount < amountDue snapshot ∨
      amountDue snapshot < selection.travelCreditAmount then
    .error .travelCreditInvalid
  else .ok (snapshot.validation selection (amountDue snapshot))

end Go

namespace Python

structure RebookingRuleError where
  message : String
  deriving DecidableEq

def creditInvalid (now : Timestamp) (selection : RebookingSelection (Option UUID))
    (snapshot : RebookingSnapshot) (credit : Option CreditValue) : Bool :=
  match selection.travelCreditId with
  | some travelCreditId =>
    match credit with
    | none => true
    | some credit =>
      credit.id ≠ travelCreditId || credit.customerId ≠ snapshot.customerId ||
        credit.currency ≠ snapshot.oldCurrency ||
        credit.remainingAmount < selection.travelCreditAmount ||
        selection.travelCreditAmount ≤ 0 || credit.expiresAt ≤ now ||
        !(credit.status = .available || credit.status = .partiallyUsed)
  | none => selection.travelCreditAmount ≠ 0

def amountDue (snapshot : RebookingSnapshot) : Decimal :=
  max (snapshot.fareDifference + snapshot.targetChangeFee) 0

def validateRebookingSelection (now : Timestamp) (selection : RebookingSelection (Option UUID))
    (snapshot : RebookingSnapshot) (credit : Option CreditValue) :
    Except RebookingRuleError (RebookingValidation (Option UUID)) :=
  if selection.segmentId ≠ snapshot.segmentId then
    .error ⟨"reservation segment cannot be changed"⟩
  else if snapshot.reservationStatus ≠ .confirmed then
    .error ⟨"reservation is not confirmed"⟩
  else if ¬(snapshot.segmentStatus = .confirmed ∨ snapshot.segmentStatus = .changed) then
    .error ⟨"reservation segment cannot be changed"⟩
  else if snapshot.segmentStatus = .changed ∧ snapshot.oldFlightId = selection.newFlightId ∧
      snapshot.oldFareClassId = selection.newFareClassId then
    .error ⟨"rebooking was already applied"⟩
  else if !snapshot.oldChangeAllowed then
    .error ⟨"fare change is not allowed"⟩
  else if snapshot.targetFlightId ≠ selection.newFlightId ∨
      snapshot.targetFareClassId ≠ selection.newFareClassId ∨
      snapshot.targetStatus ≠ .scheduled ∨ snapshot.availableSeats < snapshot.passengerCount then
    .error ⟨"selected flight is unavailable"⟩
  else if snapshot.originAirport ≠ snapshot.targetOrigin ∨
      snapshot.destinationAirport ≠ snapshot.targetDestination then
    .error ⟨"selected flight route does not match"⟩
  else if !snapshot.targetChangeAllowed then
    .error ⟨"fare change is not allowed"⟩
  else if snapshot.targetCurrency ≠ snapshot.oldCurrency then
    .error ⟨"selected fare currency does not match"⟩
  else if snapshot.passengerCount ≤ 0 then
    .error ⟨"passenger count must be greater than zero"⟩
  else if creditInvalid now selection snapshot credit then
    .error ⟨"travel credit is invalid"⟩
  else if amountDue snapshot ≠ selection.travelCreditAmount then
    .error ⟨"travel credit amount does not match amount due"⟩
  else .ok (snapshot.validation selection (amountDue snapshot))

end Python

def goCredit (id : UUID) : Option UUID := if id = nilUUID then none else some id

/-- What both validators guarantee about a selection they accept. -/
structure Accepted (creditId : Option UUID) (selection : RebookingSelection γ)
    (snapshot : RebookingSnapshot) (credit : Option CreditValue)
    (validation : RebookingValidation γ) : Prop where
  segment : snapshot.segmentId = selection.segmentId
  notApplied : ¬(snapshot.segmentStatus = .changed ∧ snapshot.oldFlightId = selection.newFlightId ∧
    snapshot.oldFareClassId = selection.newFareClassId)
  targetFlight : snapshot.targetFlightId = selection.newFlightId
  targetFareClass : snapshot.targetFareClassId = selection.newFareClassId
  passengers : 0 < snapshot.passengerCount
  seats : snapshot.passengerCount ≤ snapshot.availableSeats
  credit : ∀ id, creditId = some id → ∃ c, credit = some c ∧ c.id = id ∧
    c.customerId = snapshot.customerId ∧ selection.travelCreditAmount ≤ c.remainingAmount ∧
    0 < selection.travelCreditAmount ∧ (c.status = .available ∨ c.status = .partiallyUsed)
  noCredit : creditId = none → selection.travelCreditAmount = 0
  due : selection.travelCreditAmount = max (snapshot.fareDifference + snapshot.targetChangeFee) 0
  validation : validation = snapshot.validation selection selection.travelCreditAmount

theorem guard_eq_ok {c : Prop} [Decidable c] {e : ε} {x : Except ε α} {v : α} :
    (if c then .error e else x) = Except.ok v ↔ ¬c ∧ x = .ok v := by
  split <;> simp_all

namespace Go

theorem amountDue_eq (snapshot : RebookingSnapshot) :
    amountDue snapshot = max (snapshot.fareDifference + snapshot.targetChangeFee) 0 := by
  simp only [amountDue]
  split
  · rw [max_eq_right]
    exact le_of_lt ‹_›
  · rw [max_eq_left]
    exact le_of_not_gt ‹_›

theorem creditInvalid_eq_false {now : Timestamp} {selection : RebookingSelection UUID}
    {snapshot : RebookingSnapshot} {credit : Option CreditValue}
    (h : creditInvalid now selection snapshot credit = false) :
    (∀ id, goCredit selection.travelCreditId = some id → ∃ c, credit = some c ∧ c.id = id ∧
      c.customerId = snapshot.customerId ∧ selection.travelCreditAmount ≤ c.remainingAmount ∧
      0 < selection.travelCreditAmount ∧ (c.status = .available ∨ c.status = .partiallyUsed)) ∧
    (goCredit selection.travelCreditId = none → selection.travelCreditAmount = 0) := by
  unfold creditInvalid at h
  unfold goCredit
  by_cases hid : selection.travelCreditId = nilUUID
  · simp only [hid, ne_eq, not_true_eq_false, if_false, decide_not, Bool.not_eq_false',
      decide_eq_true_eq] at h
    simp [hid, h]
  · cases credit with
    | none => simp [hid] at h
    | some c =>
      simp only [ne_eq, hid, not_false_eq_true, if_true, Bool.or_eq_false_iff, decide_eq_false_iff_not,
        not_not, Bool.and_eq_false_iff, not_lt] at h
      obtain ⟨⟨⟨⟨⟨⟨⟨hcid, hcust⟩, _⟩, hrem⟩, hneg⟩, hzero⟩, _⟩, hstatus⟩ := h
      simp only [hid, if_false, Option.some.injEq, reduceCtorEq, false_implies, and_true]
      rintro id rfl
      exact ⟨c, rfl, hcid, hcust, hrem, lt_of_le_of_ne hneg (Ne.symm hzero), hstatus⟩

theorem accepted_of_validate {now : Timestamp} {selection : RebookingSelection UUID}
    {snapshot : RebookingSnapshot} {credit : Option CreditValue} {validation : RebookingValidation UUID}
    (h : validateRebookingSelection now selection snapshot credit = .ok validation) :
    Accepted (goCredit selection.travelCreditId) selection snapshot credit validation := by
  simp only [validateRebookingSelection, guard_eq_ok] at h
  obtain ⟨h₁, _, _, h₄, _, h₆, _, _, _, h₁₀, h₁₁, h₁₂, h⟩ := h
  simp only [not_or, not_not] at h₁ h₆ h₁₀
  obtain ⟨hcredit, hnone⟩ := creditInvalid_eq_false (Bool.eq_false_iff.mpr h₁₁)
  have due : selection.travelCreditAmount = amountDue snapshot := by
    simp only [not_or, not_lt] at h₁₂
    exact le_antisymm h₁₂.2 h₁₂.1
  constructor
  · exact h₁.2
  · exact h₄
  · exact h₆.1
  · exact h₆.2.1
  · omega
  · omega
  · exact hcredit
  · exact hnone
  · rw [due, amountDue_eq]
  · rw [due]
    exact (Except.ok.inj h).symm

end Go

namespace Python

theorem creditInvalid_eq_false {now : Timestamp} {selection : RebookingSelection (Option UUID)}
    {snapshot : RebookingSnapshot} {credit : Option CreditValue}
    (h : creditInvalid now selection snapshot credit = false) :
    (∀ id, selection.travelCreditId = some id → ∃ c, credit = some c ∧ c.id = id ∧
      c.customerId = snapshot.customerId ∧ selection.travelCreditAmount ≤ c.remainingAmount ∧
      0 < selection.travelCreditAmount ∧ (c.status = .available ∨ c.status = .partiallyUsed)) ∧
    (selection.travelCreditId = none → selection.travelCreditAmount = 0) := by
  unfold creditInvalid at h
  cases hid : selection.travelCreditId with
  | none =>
    simp only [hid, ne_eq, decide_not, Bool.not_eq_false', decide_eq_true_eq] at h
    simp [h]
  | some id =>
    cases credit with
    | none => simp [hid] at h
    | some c =>
      simp only [hid, ne_eq, decide_not, Bool.or_eq_false_iff, Bool.not_eq_false', decide_eq_true_eq,
        decide_eq_false_iff_not, not_lt, not_le, Bool.or_eq_true] at h
      obtain ⟨⟨⟨⟨⟨⟨hcid, hcust⟩, _⟩, hrem⟩, hpos⟩, _⟩, hstatus⟩ := h
      simp only [Option.some.injEq, reduceCtorEq, false_implies, and_true]
      rintro id rfl
      exact ⟨c, rfl, hcid, hcust, hrem, hpos, hstatus⟩

theorem accepted_of_validate {now : Timestamp} {selection : RebookingSelection (Option UUID)}
    {snapshot : RebookingSnapshot} {credit : Option CreditValue}
    {validation : RebookingValidation (Option UUID)}
    (h : validateRebookingSelection now selection snapshot credit = .ok validation) :
    Accepted selection.travelCreditId selection snapshot credit validation := by
  simp only [validateRebookingSelection, guard_eq_ok] at h
  obtain ⟨h₁, _, _, h₄, _, h₆, _, _, _, h₁₀, h₁₁, h₁₂, h⟩ := h
  simp only [not_or, not_not] at h₁ h₆ h₁₂
  obtain ⟨hcredit, hnone⟩ := creditInvalid_eq_false (Bool.eq_false_iff.mpr h₁₁)
  constructor
  · exact h₁.symm
  · exact h₄
  · exact h₆.1
  · exact h₆.2.1
  · omega
  · omega
  · exact hcredit
  · exact hnone
  · exact h₁₂.symm
  · rw [← h₁₂]
    exact (Except.ok.inj h).symm

end Python

def RebookingSelection.toGo (selection : RebookingSelection (Option UUID)) :
    RebookingSelection UUID where
  segmentId := selection.segmentId
  newFlightId := selection.newFlightId
  newFareClassId := selection.newFareClassId
  travelCreditId := selection.travelCreditId.getD nilUUID
  travelCreditAmount := selection.travelCreditAmount

def RebookingValidation.toGo (validation : RebookingValidation (Option UUID)) :
    RebookingValidation UUID :=
  { validation with selection := validation.selection.toGo }

section

variable {now : Timestamp} {selection : RebookingSelection (Option UUID)}
  {snapshot : RebookingSnapshot} {credit : Option CreditValue}

theorem creditInvalid_toGo (h : selection.travelCreditId ≠ some nilUUID) :
    Go.creditInvalid now selection.toGo snapshot credit =
      Python.creditInvalid now selection snapshot credit := by
  unfold Go.creditInvalid Python.creditInvalid RebookingSelection.toGo
  cases hid : selection.travelCreditId with
  | none => simp
  | some id =>
    have hne : id ≠ nilUUID := fun heq => h (heq ▸ hid)
    cases credit with
    | none => simp [hne]
    | some c =>
      rw [Bool.eq_iff_iff]
      simp only [Option.getD_some, ne_eq, hne, not_false_eq_true, if_true, Bool.or_eq_true,
        Bool.and_eq_true, Bool.not_eq_true', Bool.or_eq_false_iff, decide_eq_true_eq,
        decide_eq_false_iff_not, not_lt, le_iff_lt_or_eq (a := selection.travelCreditAmount)]
      simp only [or_assoc]

theorem Go.validate_toGo_eq_ok {validation : RebookingValidation UUID}
    (hsegment : selection.segmentId ≠ nilUUID) (hcredit : selection.travelCreditId ≠ some nilUUID) :
    Go.validateRebookingSelection now selection.toGo snapshot credit = .ok validation ↔
      ∃ v, Python.validateRebookingSelection now selection snapshot credit = .ok v ∧
        v.toGo = validation := by
  simp only [Go.validateRebookingSelection, Python.validateRebookingSelection, guard_eq_ok,
    creditInvalid_toGo hcredit]
  simp only [RebookingSelection.toGo, hsegment, Go.amountDue_eq, Python.amountDue, false_or,
    not_or, not_not, not_lt, not_le, ne_eq, not_and_or]
  constructor
  · rintro ⟨h₁, h₂, h₃, h₄, h₅, ⟨h₆, h₆', h₆'', -⟩, h₇, h₈, h₉, ⟨h₁₀, h₁₀'⟩, h₁₁, ⟨h₁₂, h₁₂'⟩, h⟩
    refine ⟨_, ⟨h₁.symm, h₂, h₃, h₄, h₅, ⟨h₆, h₆', h₆'', h₁₀'⟩, h₇, h₈, h₉, h₁₀, h₁₁,
      le_antisymm h₁₂ h₁₂', rfl⟩, ?_⟩
    exact Except.ok.inj h
  · rintro ⟨v, ⟨h₁, h₂, h₃, h₄, h₅, ⟨h₆, h₆', h₆'', h₁₀'⟩, h₇, h₈, h₉, h₁₀, h₁₁, h₁₂, h⟩, rfl⟩
    cases h
    exact ⟨h₁.symm, h₂, h₃, h₄, h₅, ⟨h₆, h₆', h₆'', by omega⟩, h₇, h₈, h₉, ⟨h₁₀, h₁₀'⟩, h₁₁,
      ⟨h₁₂.le, h₁₂.ge⟩, rfl⟩

theorem toOption_eq_some {x : Except ε α} {a : α} : x.toOption = some a ↔ x = .ok a := by
  cases x <;> simp [Except.toOption]

end

theorem validators_agree (now : Timestamp) (selection : RebookingSelection (Option UUID))
    (snapshot : RebookingSnapshot) (credit : Option CreditValue)
    (hsegment : selection.segmentId ≠ nilUUID) (hcredit : selection.travelCreditId ≠ some nilUUID) :
    (Go.validateRebookingSelection now selection.toGo snapshot credit).toOption =
      (Python.validateRebookingSelection now selection snapshot credit).toOption.map
        RebookingValidation.toGo := by
  ext validation
  rw [Option.map_eq_some_iff, toOption_eq_some, Go.validate_toGo_eq_ok hsegment hcredit]
  simp only [toOption_eq_some]

namespace Sample

def snapshot : RebookingSnapshot where
  segmentId := 1
  reservationId := 1
  customerId := 1
  oldFlightId := 1
  oldFareClassId := 1
  segmentStatus := .confirmed
  reservationStatus := .confirmed
  oldFlightStatus := .scheduled
  originAirport := "SCL"
  destinationAirport := "LIM"
  oldDepartureAt := 1000
  oldPrice := 100
  oldCurrency := "USD"
  oldChangeAllowed := true
  targetFlightId := 2
  targetFareClassId := 1
  targetStatus := .scheduled
  targetOrigin := "SCL"
  targetDestination := "LIM"
  targetDepartureAt := 1000
  targetPrice := 300
  targetCurrency := "USD"
  availableSeats := 5
  targetChangeAllowed := true
  targetChangeFee := 0
  passengerCount := 1

def paid : RebookingSelection (Option UUID) := ⟨1, 2, 1, some 1, 200⟩

def credit : CreditValue := ⟨⟨1, 500, 500, "USD", .available, 1000⟩, 1⟩

end Sample

theorem validators_agree_sample :
    ((Python.validateRebookingSelection 0 Sample.paid Sample.snapshot (some Sample.credit)).toOption.map
        RebookingValidation.amountDue) = some 200 ∧
      (Go.validateRebookingSelection 0 Sample.paid.toGo Sample.snapshot (some Sample.credit)).toOption =
        (Python.validateRebookingSelection 0 Sample.paid Sample.snapshot
          (some Sample.credit)).toOption.map RebookingValidation.toGo :=
  ⟨by decide +kernel,
    validators_agree 0 Sample.paid Sample.snapshot (some Sample.credit) (by decide) (by decide)⟩

end AgentsAtScale.Airline
