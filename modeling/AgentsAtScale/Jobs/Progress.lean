import AgentsAtScale.Jobs.Service

namespace AgentsAtScale.Jobs

open Program

/-- What a processing has seen and done so far. -/
structure Progress where
  held : Option String := none
  failure : Option String := none
  refused : Bool := false
  busy : Bool := false
  ran : Bool := false
  final : Bool := false
  sent : Bool := false
  unsent : Bool := false
  dropped : Bool := false
  acked : Bool := false
  unmarked : Bool := false
  claim : Option Bool := none
  owner : Option (Option String) := none

namespace Progress

def fail (p : Progress) (err : String) : Progress :=
  if p.refused || p.failure.isSome then p else { p with failure := some err }

def failOn (p : Progress) : Except String Unit → Progress
  | .error err => p.fail err
  | .ok _ => p

def send (p : Progress) : Except String Unit → Progress
  | .error _ => { p with unsent := true }
  | .ok _ => { p with sent := true }

def runFailed (p : Progress) (err : AgentError) : Progress :=
  if err.noPendingInput then { p with ran := true, refused := true }
  else { p with ran := true }.fail err.message

/-- Attempts fail at the status read, the lock, the start marks, the agent run
and the final status. -/
def next (p : Progress) : (o : Op) → o.Reply → Progress
  | .getJobStatus _, reply =>
    match (reply : Except String (Option Status)) with
    | .error err => p.fail err
    | .ok status => { p with final := p.final || isTerminal status }
  | .acquireConversationLock conversation _, reply =>
    match (reply : Except String Bool) with
    | .error err => p.fail err
    | .ok true => { p with held := some conversation }
    | .ok false => { p with busy := true }
  | .releaseConversationLock _ _, _ => { p with held := none }
  | .setJobStatus _ status, reply =>
    match status, (reply : Except String Unit) with
    | .failed, .error _ => { p with refused := true }
    | .failed, .ok _ => { p with refused := true, final := true }
    | .processing, reply => p.failOn reply
    | .completed, .error err => p.fail err
    | .completed, .ok _ => { p with final := true }
    | .waitingForConfirmation, .error err => p.fail err
    | .waitingForConfirmation, .ok _ => { p with final := true }
    | .published, .error _ => { p with unmarked := true }
    | .published, .ok _ => p
    | .retrying, _ => p
  | .setJobMetadata _ _, reply => p.failOn reply
  | .markJobTiming _ _ _, reply => p.failOn reply
  | .setJobTiming _ _ _, reply => p.failOn reply
  | .agent _, reply =>
    match (Service.collect reply).2 with
    | some err => p.runFailed err
    | none => { p with ran := true }
  | .invoke _, reply =>
    match (reply : Except AgentError GraphResult) with
    | .error err => p.runFailed err
    | .ok _ => { p with ran := true }
  | .publish _, reply => p.send reply
  | .retry _ _, reply => p.send reply
  | .deadLetter _, reply =>
    match (reply : Except String Unit) with
    | .error _ => { p with unsent := true, dropped := true }
    | .ok _ => { p with sent := true }
  | .ack, _ => { p with acked := true }
  | .nack _, _ => { p with acked := true }
  | .now, _ => p
  | .setIdempotencyKeyNX _ _, reply =>
    match (reply : Except String Bool) with
    | .error _ => p
    | .ok claimed => { p with claim := some claimed }
  | .getIdempotencyKey _, reply =>
    match (reply : Except String (Option String)) with
    | .error _ => p
    | .ok owner => { p with owner := some owner }
  | .releaseIdempotencyKey _, _ => { p with claim := some false }

end Progress

def Progress.Unsettled (p : Progress) : Prop := p.final = false ∧ p.sent = false

structure Progress.Open (p : Progress) : Prop where
  final : p.final = false
  sent : p.sent = false
  unsent : p.unsent = false
  acked : p.acked = false

structure Progress.Settled (p : Progress) : Prop where
  acked : p.acked = true
  reason : p.final = true ∧ p.failure = none ∨ p.sent = true ∨ p.unsent = true

def Progress.Faulty (p : Progress) : Prop :=
  p.unmarked = true ∨ p.failure.isSome = true ∨ p.unsent = true

structure Progress.Working (p : Progress) : Prop extends p.Open where
  failure : p.failure = none
  refused : p.refused = false

def Progress.asked (p : Progress) : Option Bool × Option (Option String) := (p.claim, p.owner)

def Op.onKey : Op → Bool
  | .setIdempotencyKeyNX _ _ => true
  | .getIdempotencyKey _ => true
  | .releaseIdempotencyKey _ => true
  | _ => false

def Op.finalizes : (o : Op) → o.Reply → Bool
  | .getJobStatus _, reply =>
    match (reply : Except String (Option Status)) with
    | .ok status => isTerminal status
    | .error _ => false
  | .setJobStatus _ status, reply =>
    match (reply : Except String Unit) with
    | .ok _ => isTerminal (some status)
    | .error _ => false
  | _, _ => false

def Op.sends : (o : Op) → o.Reply → Bool
  | .publish _, reply => (reply : Except String Unit).isOk
  | .retry _ _, reply => (reply : Except String Unit).isOk
  | .deadLetter _, reply => (reply : Except String Unit).isOk
  | _, _ => false

def Op.fails : (o : Op) → o.Reply → Bool
  | .publish _, reply => !(reply : Except String Unit).isOk
  | .retry _ _, reply => !(reply : Except String Unit).isOk
  | .deadLetter _, reply => !(reply : Except String Unit).isOk
  | _, _ => false

def Op.settles : Op → Bool
  | .ack => true
  | .nack _ => true
  | _ => false

def Op.job? : Op → Option Job
  | .publish job => some job
  | .retry job _ => some job
  | .deadLetter job => some job
  | _ => none

def Op.drops : (o : Op) → o.Reply → Bool
  | .deadLetter _, reply => !(reply : Except String Unit).isOk
  | _, _ => false

namespace Progress

variable {p : Progress} {o : Op}

@[simp] theorem held_fail (err : String) : (p.fail err).held = p.held := by
  unfold fail
  split <;> rfl

@[simp] theorem held_failOn (reply : Except String Unit) : (p.failOn reply).held = p.held := by
  cases reply <;> simp [failOn]

@[simp] theorem held_send (reply : Except String Unit) : (p.send reply).held = p.held := by
  cases reply <;> rfl

@[simp] theorem held_runFailed (err : AgentError) : (p.runFailed err).held = p.held := by
  unfold runFailed
  split <;> simp

theorem held_next {o : Op} (reply : o.Reply)
    (hacquire : ∀ conversation token, o ≠ .acquireConversationLock conversation token)
    (hrelease : ∀ conversation token, o ≠ .releaseConversationLock conversation token) :
    (p.next o reply).held = p.held := by
  cases o with
  | acquireConversationLock conversation token => exact absurd rfl (hacquire conversation token)
  | releaseConversationLock conversation token => exact absurd rfl (hrelease conversation token)
  | getJobStatus id => cases reply <;> simp [next]
  | setJobStatus id status =>
    cases status <;> cases reply <;> simp [next]
  | agent call =>
    simp only [next]
    split <;> simp
  | invoke call => cases reply <;> simp [next]
  | setJobMetadata id metadata => exact held_failOn reply
  | markJobTiming id field ms => exact held_failOn reply
  | setJobTiming id field value => exact held_failOn reply
  | publish job => exact held_send reply
  | retry job level => exact held_send reply
  | deadLetter job => cases reply <;> rfl
  | setIdempotencyKeyNX key id => cases reply <;> rfl
  | getIdempotencyKey key => cases reply <;> rfl
  | _ => rfl

@[simp] theorem asked_fail (err : String) : (p.fail err).asked = p.asked := by
  unfold fail
  split <;> rfl

@[simp] theorem asked_failOn (reply : Except String Unit) : (p.failOn reply).asked = p.asked := by
  cases reply <;> simp [failOn]

@[simp] theorem asked_runFailed (err : AgentError) : (p.runFailed err).asked = p.asked := by
  unfold runFailed
  split
  · rfl
  · exact asked_fail err.message

theorem asked_next {o : Op} (reply : o.Reply) (ho : o.onKey = false) :
    (p.next o reply).asked = p.asked := by
  cases o with
  | getJobStatus id =>
    cases reply with
    | error err => exact asked_fail err
    | ok status => rfl
  | acquireConversationLock conversation token =>
    match reply with
    | .error err => exact asked_fail err
    | .ok true => rfl
    | .ok false => rfl
  | setJobStatus id status =>
    cases status <;> cases reply <;> first | rfl | exact asked_fail _
  | agent call =>
    simp only [next]
    split
    · exact asked_runFailed _
    · rfl
  | invoke call =>
    cases reply with
    | error err => exact asked_runFailed err
    | ok result => rfl
  | setJobMetadata id metadata => exact asked_failOn reply
  | markJobTiming id field ms => exact asked_failOn reply
  | setJobTiming id field value => exact asked_failOn reply
  | publish job => cases reply <;> rfl
  | retry job level => cases reply <;> rfl
  | deadLetter job => cases reply <;> rfl
  | setIdempotencyKeyNX key id => cases ho
  | getIdempotencyKey key => cases ho
  | releaseIdempotencyKey key => cases ho
  | releaseConversationLock conversation token => rfl
  | ack => rfl
  | nack requeue => rfl
  | now => rfl

structure SameFlags (p q : Progress) : Prop where
  final : q.final = p.final
  sent : q.sent = p.sent
  unsent : q.unsent = p.unsent
  dropped : q.dropped = p.dropped
  acked : q.acked = p.acked

theorem SameFlags.refl : SameFlags p p := ⟨rfl, rfl, rfl, rfl, rfl⟩

theorem sameFlags_fail (err : String) : SameFlags p (p.fail err) := by
  unfold fail
  split <;> exact ⟨rfl, rfl, rfl, rfl, rfl⟩

theorem sameFlags_failOn (reply : Except String Unit) : SameFlags p (p.failOn reply) := by
  cases reply with
  | error err => exact sameFlags_fail err
  | ok _ => exact .refl

theorem sameFlags_runFailed (err : AgentError) : SameFlags p (p.runFailed err) := by
  unfold runFailed
  split
  · exact ⟨rfl, rfl, rfl, rfl, rfl⟩
  · have h := sameFlags_fail (p := { p with ran := true }) err.message
    exact ⟨h.final, h.sent, h.unsent, h.dropped, h.acked⟩

structure Raised (p : Progress) (o : Op) (reply : o.Reply) (q : Progress) : Prop where
  final : q.final = (p.final || o.finalizes reply)
  sent : q.sent = (p.sent || o.sends reply)
  unsent : q.unsent = (p.unsent || o.fails reply)
  dropped : q.dropped = (p.dropped || o.drops reply)
  acked : q.acked = (p.acked || o.settles)

theorem SameFlags.raised {reply : o.Reply} {q : Progress} (h : SameFlags p q)
    (hfinal : o.finalizes reply = false) (hsent : o.sends reply = false)
    (hunsent : o.fails reply = false) (hdropped : o.drops reply = false)
    (hacked : o.settles = false) : Raised p o reply q :=
  ⟨by simp [h.final, hfinal], by simp [h.sent, hsent], by simp [h.unsent, hunsent],
    by simp [h.dropped, hdropped], by simp [h.acked, hacked]⟩

theorem raised_next (reply : o.Reply) : Raised p o reply (p.next o reply) := by
  cases o with
  | getJobStatus id =>
    cases reply with
    | error err => exact (sameFlags_fail err).raised rfl rfl rfl rfl rfl
    | ok status =>
      constructor <;> simp [next, Op.finalizes, Op.sends, Op.fails, Op.drops, Op.settles]
  | setJobStatus id status =>
    cases reply with
    | error err =>
      cases status with
      | completed => exact (sameFlags_fail err).raised rfl rfl rfl rfl rfl
      | waitingForConfirmation => exact (sameFlags_fail err).raised rfl rfl rfl rfl rfl
      | processing => exact (sameFlags_fail err).raised rfl rfl rfl rfl rfl
      | _ => exact SameFlags.raised ⟨rfl, rfl, rfl, rfl, rfl⟩ rfl rfl rfl rfl rfl
    | ok _ =>
      cases status <;> constructor <;>
        simp [next, failOn, Op.finalizes, isTerminal, Op.sends, Op.fails, Op.drops, Op.settles]
  | setJobMetadata id metadata => exact (sameFlags_failOn reply).raised rfl rfl rfl rfl rfl
  | markJobTiming id field ms => exact (sameFlags_failOn reply).raised rfl rfl rfl rfl rfl
  | setJobTiming id field value => exact (sameFlags_failOn reply).raised rfl rfl rfl rfl rfl
  | acquireConversationLock conversation token =>
    match reply with
    | .error err => exact (sameFlags_fail err).raised rfl rfl rfl rfl rfl
    | .ok true => exact SameFlags.raised ⟨rfl, rfl, rfl, rfl, rfl⟩ rfl rfl rfl rfl rfl
    | .ok false => exact SameFlags.raised ⟨rfl, rfl, rfl, rfl, rfl⟩ rfl rfl rfl rfl rfl
  | releaseConversationLock conversation token =>
    exact SameFlags.raised ⟨rfl, rfl, rfl, rfl, rfl⟩ rfl rfl rfl rfl rfl
  | agent call =>
    simp only [next]
    split
    · exact (sameFlags_runFailed _).raised rfl rfl rfl rfl rfl
    · exact SameFlags.raised ⟨rfl, rfl, rfl, rfl, rfl⟩ rfl rfl rfl rfl rfl
  | invoke call =>
    cases reply with
    | error err => exact (sameFlags_runFailed err).raised rfl rfl rfl rfl rfl
    | ok result => exact SameFlags.raised ⟨rfl, rfl, rfl, rfl, rfl⟩ rfl rfl rfl rfl rfl
  | publish job =>
    cases reply <;> constructor <;>
      simp [next, send, Op.finalizes, Op.sends, Op.fails, Op.drops, Op.settles, Except.isOk,
        Except.toBool]
  | retry job level =>
    cases reply <;> constructor <;>
      simp [next, send, Op.finalizes, Op.sends, Op.fails, Op.drops, Op.settles, Except.isOk,
        Except.toBool]
  | deadLetter job =>
    cases reply <;> constructor <;>
      simp [next, Op.finalizes, Op.sends, Op.fails, Op.drops, Op.settles, Except.isOk,
        Except.toBool]
  | ack => constructor <;> simp [next, Op.finalizes, Op.sends, Op.fails, Op.drops, Op.settles]
  | nack requeue =>
    constructor <;> simp [next, Op.finalizes, Op.sends, Op.fails, Op.drops, Op.settles]
  | now => exact SameFlags.refl.raised rfl rfl rfl rfl rfl
  | setIdempotencyKeyNX key id =>
    cases reply <;> exact SameFlags.raised ⟨rfl, rfl, rfl, rfl, rfl⟩ rfl rfl rfl rfl rfl
  | getIdempotencyKey key =>
    cases reply <;> exact SameFlags.raised ⟨rfl, rfl, rfl, rfl, rfl⟩ rfl rfl rfl rfl rfl
  | releaseIdempotencyKey key =>
    exact SameFlags.raised ⟨rfl, rfl, rfl, rfl, rfl⟩ rfl rfl rfl rfl rfl

theorem open_of_next {reply : o.Reply} (h : (p.next o reply).Open) : p.Open := by
  have hraised := raised_next (p := p) reply
  have hfinal := hraised.final.symm.trans h.final
  have hsent := hraised.sent.symm.trans h.sent
  have hunsent := hraised.unsent.symm.trans h.unsent
  have hacked := hraised.acked.symm.trans h.acked
  simp only [Bool.or_eq_false_iff] at hfinal hsent hunsent hacked
  exact ⟨hfinal.1, hsent.1, hunsent.1, hacked.1⟩

end Progress

end AgentsAtScale.Jobs
