import AgentsAtScale.Jobs.Progress

namespace AgentsAtScale.Jobs

open Program

def AgentCall.conversation : AgentCall → String
  | .run userId sessionId _ => userId ++ ":" ++ sessionId
  | .resume userId sessionId _ => userId ++ ":" ++ sessionId

theorem AgentRequest.conversation_call (request : AgentRequest) :
    request.call.conversation = request.conversation := by
  unfold AgentRequest.call
  split <;> rfl

/-- The processing of a delivery, or a request to `Publish` with its idempotency key. -/
inductive Role
  | worker (message : Message)
  | publisher (job : Job) (key : String)

abbrev PublishResult := Except String (Option String × Bool)

inductive Outcome
  | processed
  | returned (result : PublishResult)

def Job.Allowed (s : Service) (job : Job) (p : Progress) : Op → Prop
  | .getJobStatus id => id = job.id ∧ p.Working
  | .acquireConversationLock _ token => token = job.id ∧ p.held = none ∧ p.Working
  | .releaseConversationLock conversation token => token = job.id ∧ p.held = some conversation
  | .setJobStatus id status => id = job.id ∧ p.Open ∧ status ≠ .published
  | .setJobMetadata id _ => id = job.id ∧ p.Working
  | .markJobTiming id _ _ => id = job.id ∧ p.Working
  | .setJobTiming id _ _ => id = job.id ∧
    (p.Working ∨ p.refused = true ∧ p.sent = false ∧ p.acked = false)
  | .agent call => p.held = some call.conversation ∧ p.Working ∧ p.ran = false
  | .retry job' level => p.Open ∧
    match p.failure with
    | some _ => job' = { job with attempt := job.attempt + 1 } ∧ level = job.attempt + 1 ∧
        job.attempt + 1 < s.options.maxAttempts
    | none => p.busy = true ∧ p.ran = false ∧ job' = job ∧ level = 1
  | .deadLetter job' => (p.sent = false ∧ p.acked = false) ∧ p.refused = true ∧
    match p.failure with
    | some err => job' = { job with attempt := job.attempt + 1, error := err } ∧
        s.options.maxAttempts ≤ job.attempt + 1
    | none => job'.id = job.id ∧ job'.attempt = job.attempt
  | .ack => p.acked = false ∧ (p.final = true ∧ p.failure = none ∨ p.sent = true)
  | .nack requeue => p.acked = false ∧ p.unsent = true ∧ p.sent = false ∧
    (requeue = false → p.dropped = true)
  | .now => True
  | .invoke _ => False
  | .publish _ => False
  | .setIdempotencyKeyNX _ _ => False
  | .getIdempotencyKey _ => False
  | .releaseIdempotencyKey _ => False

theorem Job.id_of_retry {s : Service} {job job' : Job} {p : Progress} {level : Int}
    (h : job.Allowed s p (.retry job' level)) : job'.id = job.id := by
  obtain ⟨-, h⟩ := h
  split at h
  · rw [h.1]
  · rw [h.2.2.1]

theorem Job.id_of_deadLetter {s : Service} {job job' : Job} {p : Progress}
    (h : job.Allowed s p (.deadLetter job')) : job'.id = job.id := by
  obtain ⟨-, -, h⟩ := h
  split at h
  · rw [h.1]
  · exact h.1

def Job.PublishAllowed (job : Job) (key : String) (p : Progress) : Op → Prop
  | .setJobStatus id _ => id = job.id ∧ p.Unsettled
  | .markJobTiming id _ _ => id = job.id ∧ p.Open
  | .publish job' => job' = job ∧ p.Open ∧ (key = "" ∨ p.claim = some true)
  | .now => True
  | .setIdempotencyKeyNX key' id => key' = key ∧ id = job.id ∧ p.claim = none ∧ p.sent = false ∧
    ¬ p.Faulty
  | .getIdempotencyKey key' => key' = key ∧ p.claim = some false
  | .releaseIdempotencyKey key' => key' = key ∧ p.claim = some true ∧ p.sent = false ∧ p.Faulty
  | _ => False

def Role.Allowed (s : Service) (p : Progress) : Role → Op → Prop
  | .worker (.invalid _), o => o = .nack false
  | .worker (.job job), o => if isBlank job.id then o = .nack false else job.Allowed s p o
  | .publisher job key, o => job.PublishAllowed key p o

theorem Role.allowed_cases {s : Service} {p : Progress} {role : Role} {o : Op}
    (h : role.Allowed s p o) :
    o = .nack false ∨
      (∃ job, role = .worker (.job job) ∧ isBlank job.id = false ∧ job.Allowed s p o) ∨
      ∃ job key, role = .publisher job key ∧ job.PublishAllowed key p o := by
  match role, h with
  | .worker (.invalid _), h => exact .inl h
  | .worker (.job job), h =>
    simp only [Role.Allowed] at h
    split at h
    · exact .inl h
    · rename_i hid
      exact .inr (.inl ⟨job, rfl, eq_false_of_ne_true hid, h⟩)
  | .publisher job key, h => exact .inr (.inr ⟨job, key, rfl, h⟩)

abbrev monitor (allowed : Progress → Op → Prop) : Monitor Op Op.Reply where
  State := Progress
  next := Progress.next
  allowed := allowed

/-- What the programs of a deployment keep to: which operations they issue, and how
they end. -/
structure Rules where
  allowed : Role → Progress → Op → Prop
  ended : Role → Progress → Outcome → Prop

def Obeys (rules : Rules) (role : Role) (t : Task Outcome) (p : Progress) : Prop :=
  t.wp (monitor (rules.allowed role)) (rules.ended role) p

theorem Obeys.mono {rules rules' : Rules} {role : Role} {t : Task Outcome} {p : Progress}
    (hallowed : ∀ p o, rules.allowed role p o → rules'.allowed role p o)
    (hended : ∀ p a, rules.ended role p a → rules'.ended role p a) (h : Obeys rules role t p) :
    Obeys rules' role t p := by
  induction t generalizing p with
  | ret a => exact hended p a h
  | op o k ih => exact ⟨hallowed p o h.1, fun r hr => ih r (h.2 r hr)⟩

structure Job.Returned (job : Job) (p : Progress) (result : PublishResult) : Prop where
  claim : p.claim = some true → p.sent = true
  new : ∀ owner, result = .ok (owner, false) → owner = some job.id ∧ p.sent = true
  duplicate : ∀ owner, result = .ok (owner, true) → p.owner = some owner

def Role.Ended : Role → Progress → Outcome → Prop
  | .worker (.job job), p, _ => p.held = none ∧ (isBlank job.id = false → p.Settled)
  | .worker (.invalid _), p, _ => p.held = none
  | .publisher job _, p, .returned result => p.held = none ∧ job.Returned p result
  | .publisher _ _, _, .processed => False

def Service.rules (s : Service) : Rules where
  allowed role p o := role.Allowed s p o
  ended := Role.Ended

namespace Service

variable {s : Service} {job : Job} {p : Progress}

abbrev Keeps (s : Service) (job : Job) (p : Progress) (t : Task Unit) : Prop :=
  t.wp (monitor (job.Allowed s)) (fun p' _ => p'.held = p.held ∧ p'.Settled) p

theorem wp_ack (h : job.Allowed s p .ack) : Keeps s job p ack :=
  ⟨h, fun _ _ => ⟨rfl, rfl, h.2.imp_right .inl⟩⟩

theorem wp_nack {requeue : Bool} (h : job.Allowed s p (.nack requeue)) :
    Keeps s job p (nack requeue) :=
  ⟨h, fun _ _ => ⟨rfl, rfl, .inr (.inr h.2.1)⟩⟩

theorem wp_delay {job' : Job} {level : Int} (h : job.Allowed s p (.retry job' level)) :
    Keeps s job p (delay job' level) := by
  refine ⟨h, fun reply _ => ?_⟩
  cases reply with
  | error err => exact wp_nack (p := { p with unsent := true }) ⟨h.1.acked, rfl, h.1.sent, nofun⟩
  | ok _ => exact wp_ack (p := { p with sent := true }) ⟨h.1.acked, .inr rfl⟩

theorem failOn_of_refused (h : p.refused = true) (reply : Except String Unit) :
    p.failOn reply = p := by
  cases reply with
  | error err => simp [Progress.failOn, Progress.fail, h]
  | ok _ => rfl

theorem wp_sendDead {job' : Job} (h : job.Allowed s p (.deadLetter job'))
    (timing : Except String Unit) :
    (Broker.deadLetter job' >>= fun reply =>
      match reply with
      | .error _ => nack false
      | .ok _ => ack).wp (monitor (job.Allowed s))
      (fun p' _ => p'.held = p.held ∧ p'.Settled) (p.failOn timing) := by
  rw [failOn_of_refused h.2.1]
  refine ⟨h, fun reply _ => ?_⟩
  cases reply with
  | error _ =>
    exact wp_nack (p := { p with unsent := true, dropped := true })
      ⟨h.1.2, rfl, h.1.1, fun _ => rfl⟩
  | ok _ => exact wp_ack (p := { p with sent := true }) ⟨h.1.2, .inr rfl⟩

theorem wp_deadLetter {job' : Job} {err : String} (hopen : p.Open) (hid : job'.id = job.id)
    (h : match p.failure with
      | some err' => { job' with error := err } = { job with attempt := job.attempt + 1, error := err' } ∧
          s.options.maxAttempts ≤ job.attempt + 1
      | none => job'.attempt = job.attempt) :
    Keeps s job p (deadLetter job' err) := by
  have allowed {q : Progress} (hsent : q.sent = false ∧ q.acked = false)
      (hrefused : q.refused = true) (hfailure : q.failure = p.failure) :
      job.Allowed s q (.deadLetter { job' with error := err }) := by
    refine ⟨hsent, hrefused, ?_⟩
    rw [hfailure]
    cases hf : p.failure with
    | some err' => simpa only [hf] using h
    | none => exact ⟨hid, by simpa only [hf] using h⟩
  refine ⟨⟨hid, hopen, nofun⟩, fun status _ =>
    ⟨trivial, fun ms _ => ⟨⟨hid, .inr ?_⟩, fun timing _ => ?_⟩⟩⟩
  · cases status <;> exact ⟨rfl, hopen.sent, hopen.acked⟩
  · cases status with
    | error _ =>
      exact wp_sendDead (p := { p with refused := true })
        (allowed ⟨hopen.sent, hopen.acked⟩ rfl rfl) timing
    | ok _ =>
      exact wp_sendDead (p := { p with refused := true, final := true })
        (allowed ⟨hopen.sent, hopen.acked⟩ rfl rfl) timing

theorem wp_retry {err : String} (hopen : p.Open) (h : p.failure = some err) :
    Keeps s job p (s.retry job err) := by
  simp only [retry]
  split
  · rename_i hmax
    refine wp_deadLetter hopen ?_ ?_
    · rfl
    · rw [h]
      exact ⟨rfl, hmax⟩
  · rename_i hmax
    refine ⟨⟨rfl, hopen, nofun⟩, fun reply _ => ?_⟩
    refine wp_delay ⟨hopen, ?_⟩
    change match p.failure with
      | some _ => _
      | none => _
    rw [h]
    exact ⟨rfl, rfl, by simpa using hmax⟩

theorem fail_of_working (h : p.Working) (err : String) :
    p.fail err = { p with failure := some err } := by
  simp [Progress.fail, h.refused, h.failure]

theorem wp_retry_of_working {err : String} (h : p.Working) :
    Keeps s job { p with failure := some err } (s.retry job err) :=
  wp_retry ⟨h.final, h.sent, h.unsent, h.acked⟩ rfl

def Attempted (p p' : Progress) : Except String Unit → Prop
  | .error err => p' = { p with failure := some err }
  | .ok _ => p' = p

theorem attempted_failOn (h : p.Working) (reply : Except String Unit) :
    Attempted p (p.failOn reply) reply := by
  cases reply with
  | error err => exact fail_of_working h err
  | ok _ => rfl

theorem wp_markStarted (h : p.Working) :
    (markStarted job).wp (monitor (job.Allowed s)) (fun p' r => Attempted p p' r) p := by
  refine ⟨⟨rfl, h.toOpen, nofun⟩, fun status _ => ?_⟩
  cases status with
  | error err => exact attempted_failOn h (.error err)
  | ok _ =>
    refine ⟨trivial, fun ms _ => ⟨⟨rfl, h⟩, fun started _ => ?_⟩⟩
    cases started with
    | error err => exact attempted_failOn h (.error err)
    | ok _ => exact ⟨⟨rfl, .inl h⟩, fun attempts _ => attempted_failOn h attempts⟩

def Ran (p p' : Progress) : Option AgentError → Prop
  | some err => p' = if err.noPendingInput then { p with ran := true, refused := true }
      else { p with ran := true, failure := some err.message }
  | none => p' = { p with ran := true }

theorem wp_run {request : AgentRequest} (h : p.Working) (hheld : p.held = some request.conversation)
    (hran : p.ran = false) :
    (run request).wp (monitor (job.Allowed s)) (fun p' r => Ran p p' r.2) p := by
  refine ⟨⟨by rw [AgentRequest.conversation_call]; exact hheld, h, hran⟩, fun events _ => ?_⟩
  change Ran p (p.next (.agent _) events) (collect events).2
  simp only [Progress.next]
  cases (collect events).2 with
  | none => rfl
  | some err =>
    simp only [Ran, Progress.runFailed]
    split
    · rfl
    · simp [Progress.fail, h.refused, h.failure]

def Finished (p p' : Progress) : Except String Unit → Prop
  | .error err => p' = { p with failure := some err }
  | .ok _ => p' = { p with final := true }

theorem wp_finishWith {status : Status} (h : p.Working)
    (hstatus : status = .completed ∨ status = .waitingForConfirmation) :
    (finishWith job status).wp (monitor (job.Allowed s)) (fun p' r => Finished p p' r) p := by
  refine ⟨trivial, fun ms _ => ⟨⟨rfl, .inl h⟩, fun timing _ => ?_⟩⟩
  cases timing with
  | error err => exact fail_of_working h err
  | ok _ =>
    rcases hstatus with rfl | rfl
    · refine ⟨⟨rfl, h.toOpen, nofun⟩, fun reply _ => ?_⟩
      cases reply with
      | error err => exact fail_of_working h err
      | ok _ => rfl
    · refine ⟨⟨rfl, h.toOpen, nofun⟩, fun reply _ => ?_⟩
      cases reply with
      | error err => exact fail_of_working h err
      | ok _ => rfl

theorem wp_finish {request : AgentRequest} {requested : Option RequestInput} (h : p.Working) :
    (finish job request requested).wp (monitor (job.Allowed s)) (fun p' r => Finished p p' r) p := by
  cases requested with
  | none => exact wp_finishWith h (.inl rfl)
  | some input =>
    refine ⟨⟨rfl, h⟩, fun metadata _ => ?_⟩
    cases metadata with
    | error err => exact fail_of_working h err
    | ok _ => exact wp_finishWith h (.inr rfl)

theorem wp_processLocked {request : AgentRequest} (h : p.Working)
    (hheld : p.held = some request.conversation) (hran : p.ran = false) :
    Keeps s job p (s.processLocked job request) := by
  apply Prog.wp_bind _ _ _ (wp_markStarted h)
  intro p₁ started h₁
  cases started with
  | error err =>
    cases h₁
    exact wp_retry_of_working h
  | ok _ =>
    cases h₁
    apply Prog.wp_bind _ _ _ (wp_run h hheld hran)
    rintro p₂ ⟨requested, runErr⟩ h₂
    have h' : ({ p with ran := true } : Progress).Working := ⟨⟨h.final, h.sent, h.unsent, h.acked⟩, h.failure, h.refused⟩
    cases runErr with
    | some err =>
      simp only [Ran] at h₂
      subst h₂
      dsimp only
      split
      · refine wp_deadLetter (p := { p with ran := true, refused := true })
          ⟨h.final, h.sent, h.unsent, h.acked⟩ rfl ?_
        simp only [h.failure]
      · exact wp_retry_of_working h'
    | none =>
      cases h₂
      apply Prog.wp_bind _ _ _ (wp_finish h')
      intro p₃ finished h₃
      cases finished with
      | error err =>
        cases h₃
        exact wp_retry_of_working h'
      | ok _ =>
        cases h₃
        exact wp_ack (p := { p with ran := true, final := true }) ⟨h.acked, .inl ⟨rfl, h.failure⟩⟩

theorem working_start : ({} : Progress).Working := ⟨⟨rfl, rfl, rfl, rfl⟩, rfl, rfl⟩

theorem not_faulty_start : ¬ ({} : Progress).Faulty := by
  simp [Progress.Faulty]

theorem wp_processRequest {request : AgentRequest} :
    Keeps s job {} (s.processRequest job request) := by
  refine ⟨⟨rfl, rfl, working_start⟩, fun acquired _ => ?_⟩
  match acquired with
  | .error err => exact wp_retry_of_working working_start
  | .ok false => exact wp_delay ⟨⟨rfl, rfl, rfl, rfl⟩, rfl, rfl, rfl, rfl⟩
  | .ok true =>
    have hlocked : ({ held := some request.conversation } : Progress).Working :=
      ⟨⟨rfl, rfl, rfl, rfl⟩, rfl, rfl⟩
    apply Prog.wp_bind _ _ _ (wp_processLocked hlocked rfl rfl)
    rintro p _ ⟨hheld, hsettled⟩
    exact ⟨⟨rfl, hheld⟩, fun _ _ => ⟨rfl, hsettled.acked, hsettled.reason⟩⟩

theorem wp_processUnfinished : Keeps s job {} (s.processUnfinished job) := by
  have refuse (err : String) : Keeps s job {} (deadLetter job err) :=
    wp_deadLetter working_start.toOpen rfl rfl
  unfold processUnfinished
  split
  · exact refuse _
  · split
    · exact refuse _
    · split
      · exact refuse _
      · exact wp_processRequest

theorem wp_processJob (hid : isBlank job.id = false) : Keeps s job {} (s.process (.job job)) := by
  simp only [process, hid, Bool.false_eq_true, if_false]
  refine ⟨⟨rfl, working_start⟩, fun status _ => ?_⟩
  match status with
  | .error err => exact wp_retry_of_working working_start
  | .ok status =>
    change Keeps s job { final := isTerminal status }
      (if isTerminal status then ack else s.processUnfinished job)
    cases isTerminal status with
    | true => exact wp_ack ⟨rfl, .inl ⟨rfl, rfl⟩⟩
    | false => exact wp_processUnfinished

theorem allowed_worker (hid : isBlank job.id = false) :
    (fun p o => Role.Allowed s p (.worker (.job job)) o) = job.Allowed s := by
  funext p o
  simp [Role.Allowed, hid]

def work (s : Service) (message : Message) : Task Outcome := do
  s.process message
  return .processed

theorem obeys_work (message : Message) : Obeys s.rules (.worker message) (s.work message) {} := by
  match message with
  | .invalid err => exact ⟨rfl, fun _ _ => rfl⟩
  | .job job =>
    cases hid : isBlank job.id with
    | true =>
      simp only [work, process, hid, if_true]
      refine ⟨?_, fun _ _ => ⟨rfl, ?_⟩⟩
      · simp [rules, Role.Allowed, hid]
      · simp [hid]
    | false =>
      change Prog.wp (monitor fun p o => Role.Allowed s p (.worker (.job job)) o) _ _ _
      rw [allowed_worker hid]
      apply Prog.wp_bind _ _ _ (wp_processJob hid)
      rintro p _ ⟨hheld, hsettled⟩
      exact ⟨hheld, fun _ => hsettled⟩

def PublishedNew (p p' : Progress) : Except String Unit → Prop
  | .error _ => p'.held = p.held ∧ p'.claim = p.claim ∧ p'.sent = false ∧ p'.Faulty
  | .ok _ => p'.held = p.held ∧ p'.claim = p.claim ∧ p'.sent = true

theorem wp_publishNew {key : String} (h : p.Working) (hclaim : key = "" ∨ p.claim = some true) :
    (publishNew job).wp (monitor (job.PublishAllowed key)) (fun p' r => PublishedNew p p' r) p := by
  refine ⟨⟨rfl, h.final, h.sent⟩, fun status _ => ?_⟩
  cases status with
  | error err => exact ⟨rfl, rfl, h.sent, .inl rfl⟩
  | ok _ =>
    refine ⟨trivial, fun ms _ => ⟨⟨rfl, h.toOpen⟩, fun marked _ => ?_⟩⟩
    cases marked with
    | error err =>
      change PublishedNew p (p.fail err) (.error err)
      rw [fail_of_working h]
      exact ⟨rfl, rfl, h.sent, .inr (.inl rfl)⟩
    | ok _ =>
      refine ⟨⟨rfl, h.toOpen, hclaim⟩, fun published _ => ?_⟩
      cases published with
      | error err =>
        refine ⟨⟨rfl, h.final, h.sent⟩, fun failed _ => ?_⟩
        cases failed <;> exact ⟨rfl, rfl, h.sent, .inr (.inr rfl)⟩
      | ok _ => exact ⟨rfl, rfl, rfl⟩

def Claimed (id : String) (p' : Progress) : Except String (String × Bool) → Prop
  | .error _ => p'.held = none ∧ p'.claim ≠ some true
  | .ok (_, false) => p'.held = none ∧ p'.claim ≠ some true
  | .ok (owner, true) => p' = { claim := some true } ∧ owner = id

theorem wp_claimIdempotencyKey (job : Job) (key : String) :
    (Store.claimIdempotencyKey key job.id).wp (monitor (job.PublishAllowed key))
      (fun p' r => Claimed job.id p' r ∧ ∀ owner, r = .ok (owner, false) → p'.owner = some (some owner))
      {} := by
  refine ⟨⟨rfl, rfl, rfl, rfl, not_faulty_start⟩, fun claimed _ => ?_⟩
  match claimed with
  | .error err => exact ⟨⟨rfl, nofun⟩, nofun⟩
  | .ok true =>
    refine ⟨⟨rfl, rfl⟩, ?_⟩
    rintro _ ⟨⟩
  | .ok false =>
    refine ⟨⟨rfl, rfl⟩, fun owner _ => ?_⟩
    match owner with
    | .error err => exact ⟨⟨rfl, nofun⟩, nofun⟩
    | .ok none => exact ⟨⟨rfl, nofun⟩, nofun⟩
    | .ok (some owner) =>
      refine ⟨⟨rfl, nofun⟩, ?_⟩
      rintro _ ⟨⟩
      rfl

def serve (id : String) (payload : Option Json) (idempotencyKey : String) : Task Outcome := do
  let result ← publish id payload idempotencyKey
  return .returned (result.map fun (owner, duplicate) => (some owner, duplicate))

theorem wp_publish (id : String) (payload : Option Json) (key : String) :
    (publish id payload key).wp (monitor ((newJob id payload).PublishAllowed key))
      (fun p r => p.held = none ∧
        (newJob id payload).Returned p (r.map fun (owner, duplicate) => (some owner, duplicate))) {} := by
  unfold publish
  dsimp only
  split
  · rename_i hkey
    apply Prog.wp_bind _ _ _ (wp_publishNew working_start (.inl hkey))
    intro p published hp
    cases published with
    | error err =>
      refine ⟨hp.1, fun hclaim => ?_, nofun, nofun⟩
      cases hp.2.1.symm.trans hclaim
    | ok _ =>
      refine ⟨hp.1, fun _ => hp.2.2, ?_, nofun⟩
      rintro _ ⟨⟩
      exact ⟨rfl, hp.2.2⟩
  · apply Prog.wp_bind _ _ _ (wp_claimIdempotencyKey (newJob id payload) key)
    rintro p claim ⟨hp, howner⟩
    match claim with
    | .error err => exact ⟨hp.1, fun hclaim => absurd hclaim hp.2, nofun, nofun⟩
    | .ok (owner, false) =>
      refine ⟨hp.1, fun hclaim => absurd hclaim hp.2, nofun, ?_⟩
      rintro _ ⟨⟩
      exact howner owner rfl
    | .ok (owner, true) =>
      obtain ⟨rfl, rfl⟩ := hp
      have hworking : ({ claim := some true } : Progress).Working := ⟨⟨rfl, rfl, rfl, rfl⟩, rfl, rfl⟩
      apply Prog.wp_bind _ _ _ (wp_publishNew hworking (.inr rfl))
      intro p published hp
      cases published with
      | error err => exact ⟨⟨rfl, hp.2.1, hp.2.2⟩, fun _ _ => ⟨hp.1, nofun, nofun, nofun⟩⟩
      | ok _ =>
        refine ⟨hp.1, fun _ => hp.2.2, ?_, nofun⟩
        rintro _ ⟨⟩
        exact ⟨rfl, hp.2.2⟩

theorem obeys_serve (id : String) (payload : Option Json) (key : String) :
    Obeys s.rules (.publisher (newJob id payload) key) (serve id payload key) {} := by
  apply Prog.wp_bind _ _ _ (wp_publish id payload key)
  intro p result h
  exact h

end Service

end AgentsAtScale.Jobs
