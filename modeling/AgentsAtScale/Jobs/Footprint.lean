import AgentsAtScale.Jobs.PythonService

namespace AgentsAtScale.Jobs

open Program

namespace Op

def stamps : Op → Bool
  | .markJobTiming _ _ _ => true
  | .setJobTiming _ field _ => field = .finishedMs
  | _ => false

def needsLock : Op → Bool
  | .acquireConversationLock _ _ => true
  | .releaseConversationLock _ _ => true
  | .agent _ => true
  | .invoke _ => true
  | _ => false

def publishes : Op → Bool
  | .publish _ => true
  | .setIdempotencyKeyNX _ _ => true
  | .getIdempotencyKey _ => true
  | .releaseIdempotencyKey _ => true
  | _ => false

def Quiet (o : Op) : Prop := o.needsLock = false ∧ o.publishes = false

inductive Delays (job : Job) (level : Int) : Op → Prop
  | retry : Delays job level (.retry job level)
  | ack : Delays job level .ack
  | nack : Delays job level (.nack true)

inductive Buries (job : Job) : Op → Prop
  | status : Buries job (.setJobStatus job.id .failed)
  | now : Buries job .now
  | finished (ms : Int) : Buries job (.setJobTiming job.id .finishedMs ms)
  | deadLetter : Buries job (.deadLetter job)
  | ack : Buries job .ack
  | nack : Buries job (.nack false)

inductive Retries (maxAttempts : Int) (job : Job) (err : String) : Op → Prop
  | status : Retries maxAttempts job err (.setJobStatus job.id .retrying)
  | delays {o : Op} (h : Delays { job with attempt := job.attempt + 1 } (job.attempt + 1) o) :
      Retries maxAttempts job err o
  | buries {o : Op} (hspent : maxAttempts ≤ job.attempt + 1)
      (h : Buries { job with attempt := job.attempt + 1, error := err } o) :
      Retries maxAttempts job err o

inductive Starts (job : Job) : Op → Prop
  | status : Starts job (.setJobStatus job.id .processing)
  | now : Starts job .now
  | started (ms : Int) : Starts job (.markJobTiming job.id .startedMs ms)
  | attempts : Starts job (.setJobTiming job.id .attempts (job.attempt + 1))

inductive Finishes (job : Job) : Op → Prop
  | metadata (metadata : WaitingMetadata) : Finishes job (.setJobMetadata job.id metadata)
  | now : Finishes job .now
  | finished (ms : Int) : Finishes job (.setJobTiming job.id .finishedMs ms)
  | completed : Finishes job (.setJobStatus job.id .completed)
  | waiting : Finishes job (.setJobStatus job.id .waitingForConfirmation)
  | ack : Finishes job .ack

inductive Publishes (job : Job) (key : String) : Op → Prop
  | claim : Publishes job key (.setIdempotencyKeyNX key job.id)
  | owner : Publishes job key (.getIdempotencyKey key)
  | release : Publishes job key (.releaseIdempotencyKey key)
  | status : Publishes job key (.setJobStatus job.id .published)
  | now : Publishes job key .now
  | published (ms : Int) : Publishes job key (.markJobTiming job.id .publishedMs ms)
  | publish : Publishes job key (.publish job)
  | failed : Publishes job key (.setJobStatus job.id .failed)

end Op

/-- The monitor of the clock.  Its state is the last time read, and only that time may be
written. -/
def reading : Monitor Op Op.Reply where
  State := Option Int
  next
    | _, .now, ms => some (ms : Int)
    | m, _, _ => m
  allowed
    | m, .markJobTiming _ _ ms => m = some ms
    | m, .setJobTiming _ field value => field = .finishedMs → m = some value
    | _, _ => True

/-- The program stores no other time than the one it has just read, whatever was read
before. -/
def Timely (t : Task α) : Prop := ∀ m, t.wp reading (fun _ _ => True) m

structure Footprint (P : Op → Prop) (t : Task α) : Prop where
  uses : t.Uses P
  timely : Timely t

namespace Footprint

variable {P : Op → Prop}

theorem ret (a : α) : Footprint P (pure a) := ⟨.ret a, fun _ => trivial⟩

theorem call {o : Op} (h : P o) (hstamps : o.stamps = false) :
    Footprint P (Prog.call o : Task o.Reply) := by
  refine ⟨.call h, fun m => ⟨?_, fun _ _ => trivial⟩⟩
  cases o with
  | markJobTiming id field ms => cases hstamps
  | setJobTiming id field value => exact fun hfield => absurd hfield (of_decide_eq_false hstamps)
  | _ => trivial

theorem bind {t : Task α} {f : α → Task β} (ht : Footprint P t) (hf : ∀ a, Footprint P (f a)) :
    Footprint P (t >>= f) :=
  ⟨ht.uses.bind fun a => (hf a).uses,
    fun m => Prog.wp_bind _ _ m (ht.timely m) fun m a _ => (hf a).timely m⟩

theorem mono {Q : Op → Prop} {t : Task α} (h : ∀ o, P o → Q o) (ht : Footprint P t) : Footprint Q t :=
  ⟨ht.uses.mono h, ht.timely⟩

theorem stamp {o : Int → Op} {f : (ms : Int) → (o ms).Reply → Task α} (hnow : P .now)
    (ho : ∀ ms, P (o ms)) (hread : ∀ ms, reading.allowed (some ms) (o ms))
    (hf : ∀ ms r, Footprint P (f ms r)) : Footprint P (now >>= fun ms => Prog.call (o ms) >>= f ms) :=
  ⟨.bind (.call hnow) fun ms => .bind (.call (ho ms)) fun r => (hf ms r).uses,
    fun _ => ⟨trivial, fun ms _ => ⟨hread ms, fun r _ => (hf ms r).timely _⟩⟩⟩

theorem mark {id : String} {field : TimingField} {f : Except String Unit → Task α} (hnow : P .now)
    (ho : ∀ ms, P (.markJobTiming id field ms)) (hf : ∀ r, Footprint P (f r)) :
    Footprint P (now >>= fun ms => Store.markJobTiming id field ms >>= f) :=
  stamp (o := fun ms => .markJobTiming id field ms) hnow ho (fun _ => rfl) fun _ => hf

theorem finished {id : String} {f : Except String Unit → Task α} (hnow : P .now)
    (ho : ∀ ms, P (.setJobTiming id .finishedMs ms)) (hf : ∀ r, Footprint P (f r)) :
    Footprint P (now >>= fun ms => Store.setJobTiming id .finishedMs ms >>= f) :=
  stamp (o := fun ms => .setJobTiming id .finishedMs ms) hnow ho (fun _ _ => rfl) fun _ => hf

end Footprint

namespace Service

variable {s : Service} {job : Job} {request : AgentRequest}

theorem footprint_ack {P : Op → Prop} (h : P .ack) : Footprint P ack := .bind (.call h rfl) fun _ => .ret ()

theorem footprint_nack {P : Op → Prop} {requeue : Bool} (h : P (.nack requeue)) :
    Footprint P (nack requeue) :=
  .bind (.call h rfl) fun _ => .ret ()

theorem footprint_delay (job : Job) (level : Int) : Footprint (Op.Delays job level) (delay job level) := by
  refine .bind (.call .retry rfl) fun sent => ?_
  cases sent with
  | error err => exact footprint_nack .nack
  | ok _ => exact footprint_ack .ack

theorem footprint_deadLetter (job : Job) (err : String) :
    Footprint (Op.Buries { job with error := err }) (deadLetter job err) := by
  refine .bind (.call .status rfl) fun _ => .finished .now .finished fun _ => .bind (.call .deadLetter rfl) fun sent => ?_
  cases sent with
  | error err => exact footprint_nack .nack
  | ok _ => exact footprint_ack .ack

theorem footprint_retry (job : Job) (err : String) :
    Footprint (Op.Retries s.options.maxAttempts job err) (s.retry job err) := by
  simp only [retry]
  split
  · rename_i hspent
    exact (footprint_deadLetter { job with attempt := job.attempt + 1 } err).mono fun _ => .buries hspent
  · exact .bind (.call .status rfl) fun _ => (footprint_delay _ _).mono fun _ => .delays

theorem footprint_markStarted (job : Job) : Footprint (Op.Starts job) (markStarted job) := by
  refine .bind (.call .status rfl) fun stored => ?_
  cases stored with
  | error err => exact .ret _
  | ok _ =>
    refine .mark .now .started fun marked => ?_
    cases marked with
    | error err => exact .ret _
    | ok _ => exact .call .attempts rfl

theorem footprint_finishWith {status : Status} (h : Op.Finishes job (.setJobStatus job.id status)) :
    Footprint (Op.Finishes job) (finishWith job status) := by
  refine .finished .now .finished fun timing => ?_
  cases timing with
  | error err => exact .ret _
  | ok _ => exact .call h rfl

theorem footprint_finish (job : Job) (request : AgentRequest) (requested : Option RequestInput) :
    Footprint (Op.Finishes job) (finish job request requested) := by
  cases requested with
  | none => exact footprint_finishWith .completed
  | some input =>
    refine .bind (.call (.metadata _) rfl) fun stored => ?_
    cases stored with
    | error err => exact .ret _
    | ok _ => exact footprint_finishWith .waiting

end Service

namespace Op

variable {o : Op} {job : Job}

theorem Delays.quiet {level : Int} (h : Delays job level o) : o.Quiet := by
  cases h <;> exact ⟨rfl, rfl⟩

theorem Buries.quiet (h : Buries job o) : o.Quiet := by
  cases h <;> exact ⟨rfl, rfl⟩

theorem Retries.quiet {maxAttempts : Int} {err : String} (h : Retries maxAttempts job err o) :
    o.Quiet := by
  cases h with
  | status => exact ⟨rfl, rfl⟩
  | delays h => exact h.quiet
  | buries hspent h => exact h.quiet

theorem Starts.quiet (h : Starts job o) : o.Quiet := by
  cases h <;> exact ⟨rfl, rfl⟩

theorem Finishes.quiet (h : Finishes job o) : o.Quiet := by
  cases h <;> exact ⟨rfl, rfl⟩

end Op

abbrev Works (t : Task α) : Prop := Footprint (·.publishes = false) t

theorem Footprint.of_quiet {t : Task α} (h : Footprint Op.Quiet t) : Works t := h.mono fun _ ho => ho.2

namespace Service

variable {s : Service} {job : Job} {request : AgentRequest}

theorem quiet_delay (level : Int) : Footprint Op.Quiet (delay job level) :=
  (footprint_delay job level).mono fun _ => Op.Delays.quiet

theorem quiet_deadLetter (err : String) : Footprint Op.Quiet (deadLetter job err) :=
  (footprint_deadLetter job err).mono fun _ => Op.Buries.quiet

theorem quiet_retry (err : String) : Footprint Op.Quiet (s.retry job err) :=
  (footprint_retry job err).mono fun _ => Op.Retries.quiet

theorem quiet_markStarted : Footprint Op.Quiet (markStarted job) :=
  (footprint_markStarted job).mono fun _ => Op.Starts.quiet

theorem quiet_finish (requested : Option RequestInput) :
    Footprint Op.Quiet (finish job request requested) :=
  (footprint_finish job request requested).mono fun _ => Op.Finishes.quiet

theorem works_processLocked : Works (s.processLocked job request) := by
  refine .bind (.of_quiet quiet_markStarted) fun started => ?_
  cases started with
  | error err => exact .of_quiet (quiet_retry err)
  | ok _ =>
    refine .bind (.bind (.call rfl rfl) fun _ => .ret _) fun result => ?_
    obtain ⟨requested, runErr⟩ := result
    cases runErr with
    | some err =>
      dsimp only
      split
      · exact .of_quiet (quiet_deadLetter _)
      · exact .of_quiet (quiet_retry _)
    | none =>
      refine .bind (.of_quiet (quiet_finish requested)) fun finished => ?_
      cases finished with
      | error err => exact .of_quiet (quiet_retry err)
      | ok _ => exact footprint_ack rfl

theorem works_processRequest : Works (s.processRequest job request) := by
  refine .bind (.call rfl rfl) fun acquired => ?_
  match acquired with
  | .error err => exact .of_quiet (quiet_retry err)
  | .ok false => exact .of_quiet (quiet_delay 1)
  | .ok true => exact .bind works_processLocked fun _ => .bind (.call rfl rfl) fun _ => .ret ()

theorem works_processUnfinished : Works (s.processUnfinished job) := by
  unfold processUnfinished
  split
  · exact .of_quiet (quiet_deadLetter _)
  · split
    · exact .of_quiet (quiet_deadLetter _)
    · split
      · exact .of_quiet (quiet_deadLetter _)
      · exact works_processRequest

theorem works_process (message : Message) : Works (s.process message) := by
  cases message with
  | invalid err => exact footprint_nack rfl
  | job job =>
    simp only [process]
    split
    · exact footprint_nack rfl
    · refine .bind (.call rfl rfl) fun status => ?_
      cases status with
      | error err => exact .of_quiet (quiet_retry err)
      | ok status =>
        dsimp only
        split
        · exact footprint_ack rfl
        · exact works_processUnfinished

theorem footprint_publishNew (job : Job) (key : String) :
    Footprint (Op.Publishes job key) (publishNew job) := by
  refine .bind (.call .status rfl) fun stored => ?_
  cases stored with
  | error err => exact .ret _
  | ok _ =>
    refine .mark .now .published fun marked => ?_
    cases marked with
    | error err => exact .ret _
    | ok _ =>
      refine .bind (.call .publish rfl) fun published => ?_
      cases published with
      | error err => exact .bind (.call .failed rfl) fun _ => .ret _
      | ok _ => exact .ret _

theorem footprint_claimIdempotencyKey (job : Job) (key : String) :
    Footprint (Op.Publishes job key) (Store.claimIdempotencyKey key job.id) := by
  refine .bind (.call .claim rfl) fun claimed => ?_
  match claimed with
  | .error err => exact .ret _
  | .ok true => exact .ret _
  | .ok false =>
    refine .bind (.call .owner rfl) fun owner => ?_
    match owner with
    | .error err => exact .ret _
    | .ok none => exact .ret _
    | .ok (some owner) => exact .ret _

theorem footprint_publish (id : String) (payload : Option Json) (key : String) :
    Footprint (Op.Publishes (newJob id payload) key) (publish id payload key) := by
  unfold publish
  dsimp only
  split
  · refine .bind (footprint_publishNew _ key) fun published => ?_
    cases published <;> exact .ret _
  · refine .bind (footprint_claimIdempotencyKey (newJob id payload) key) fun claim => ?_
    match claim with
    | .error err => exact .ret _
    | .ok (owner, false) => exact .ret _
    | .ok (owner, true) =>
      refine .bind (footprint_publishNew _ key) fun published => ?_
      cases published with
      | error err => exact .bind (.call .release rfl) fun _ => .ret _
      | ok _ => exact .ret _

end Service

namespace Python.JobService

variable {s : JobService} {job : Job} {request : AgentRequest}

theorem footprint_delay (job : Job) (level : Int) : Footprint (Op.Delays job level) (delay job level) := by
  refine .bind (.call .retry rfl) fun sent => ?_
  cases sent with
  | error err => exact .call .nack rfl
  | ok _ => exact .call .ack rfl

theorem footprint_deadLetter (job : Job) (err : String) :
    Footprint (Op.Buries { job with error := err }) (deadLetter job err) := by
  refine .bind (.bind (.call .status rfl) fun stored => ?_) fun _ => .bind (.call .deadLetter rfl) fun sent => ?_
  · cases stored with
    | error err => exact .ret ()
    | ok _ => exact .finished .now .finished fun _ => .ret ()
  · cases sent with
    | error err => exact .call .nack rfl
    | ok _ => exact .call .ack rfl

theorem footprint_retry (job : Job) (err : String) :
    Footprint (Op.Retries s.options.maxAttempts job err) (s.retry job err) := by
  simp only [retry]
  split
  · rename_i hspent
    exact (footprint_deadLetter { job with attempt := job.attempt + 1 } err).mono fun _ => .buries hspent
  · exact .bind (.call .status rfl) fun _ => (footprint_delay _ _).mono fun _ => .delays

theorem footprint_finishWith {status : Status} (h : Op.Finishes job (.setJobStatus job.id status)) :
    Footprint (Op.Finishes job) (finishWith job status) := by
  refine .finished .now .finished fun timing => ?_
  cases timing with
  | error err => exact .ret _
  | ok _ =>
    refine .bind (.call h rfl) fun stored => ?_
    cases stored with
    | error err => exact .ret _
    | ok _ => exact .call .ack rfl

theorem footprint_finish (job : Job) (request : AgentRequest) (result : GraphResult) :
    Footprint (fun o => Op.Finishes job o ∨ ∃ err, Op.Buries { job with error := err } o)
      (finish job request result) := by
  have finishes {status : Status} (h : Op.Finishes job (.setJobStatus job.id status)) :
      Footprint (fun o => Op.Finishes job o ∨ ∃ err, Op.Buries { job with error := err } o)
        (finishWith job status) :=
    (footprint_finishWith h).mono fun _ => .inl
  unfold finish
  split
  · exact .ret _
  · refine .bind (.call (.inl (.metadata _)) rfl) fun stored => ?_
    cases stored with
    | error err => exact .ret _
    | ok _ => exact finishes .waiting
  · split
    · split
      · exact (footprint_deadLetter job _).mono fun _ h => .inr ⟨_, h⟩
      · exact finishes .completed
    · exact finishes .completed

theorem quiet_delay (level : Int) : Footprint Op.Quiet (delay job level) :=
  (footprint_delay job level).mono fun _ => Op.Delays.quiet

theorem quiet_deadLetter (err : String) : Footprint Op.Quiet (deadLetter job err) :=
  (footprint_deadLetter job err).mono fun _ => Op.Buries.quiet

theorem quiet_retry (err : String) : Footprint Op.Quiet (s.retry job err) :=
  (footprint_retry job err).mono fun _ => Op.Retries.quiet

theorem quiet_settleRun (outcome : Except AgentError GraphResult) :
    Footprint Op.Quiet (s.settleRun job request outcome) := by
  cases outcome with
  | error err =>
    simp only [settleRun]
    split
    · exact quiet_deadLetter _
    · exact quiet_retry _
  | ok result =>
    refine (footprint_finish job request result).mono ?_
    rintro o (h | ⟨err, h⟩)
    · exact h.quiet
    · exact h.quiet

theorem works_processRequest : Works (s.processRequest job request) := by
  refine .bind (.call rfl rfl) fun acquired => ?_
  match acquired with
  | .error err => exact .ret _
  | .ok false => exact .of_quiet (quiet_delay 1)
  | .ok true =>
    -- the start marks are those of the Go service
    refine .bind (.bind (.of_quiet Service.quiet_markStarted) fun started => ?_) fun _ => .bind (.call rfl rfl) fun _ => .ret _
    cases started with
    | error err => exact .ret _
    | ok _ => exact .bind (.call rfl rfl) fun outcome => .of_quiet (quiet_settleRun outcome)

theorem works_process (payload : Json) : Works (s.process job payload) := by
  refine .bind (.call rfl rfl) fun status => ?_
  cases status with
  | error err => exact .ret _
  | ok status =>
    dsimp only
    split
    · exact .call (o := .ack) rfl rfl
    · split
      · exact .of_quiet (quiet_deadLetter _)
      · split
        · exact .of_quiet (quiet_deadLetter _)
        · exact works_processRequest

theorem works_consume (message : Message) : Works (s.consume message) := by
  have reject : Works (do let _ ← Delivery.nack false) := .bind (.call rfl rfl) fun _ => .ret ()
  cases message with
  | invalid err => exact reject
  | job job =>
    simp only [consume]
    split
    · exact reject
    · split
      · exact reject
      · refine .bind (works_process _) fun result => ?_
        cases result with
        | error err => exact .bind (.of_quiet (quiet_retry err)) fun _ => .ret ()
        | ok _ => exact .ret ()

theorem footprint_publishNew (job : Job) (key : String) :
    Footprint (Op.Publishes job key) (publishNew job) := by
  refine .bind (.call .status rfl) fun stored => ?_
  cases stored with
  | error err => exact .ret _
  | ok _ =>
    refine .mark .now .published fun marked => ?_
    cases marked with
    | error err => exact .ret _
    | ok _ =>
      refine .bind (.call .publish rfl) fun published => ?_
      cases published with
      | ok _ => exact .ret _
      | error err =>
        refine .bind (.call .failed rfl) fun failed => ?_
        cases failed <;> exact .ret _

theorem footprint_claimIdempotencyKey (job : Job) (key : String) :
    Footprint (Op.Publishes job key) (claimIdempotencyKey key job.id) := by
  refine .bind (.call .claim rfl) fun claimed => ?_
  match claimed with
  | .error err => exact .ret _
  | .ok true => exact .ret _
  | .ok false =>
    refine .bind (.call .owner rfl) fun owner => ?_
    cases owner <;> exact .ret _

theorem footprint_publish (id : String) (payload : Json) (key : String) :
    Footprint (Op.Publishes (Service.newJob id (some payload)) key) (publish id payload key) := by
  have hnew := footprint_publishNew (Service.newJob id (some payload)) key
  unfold publish
  dsimp only
  split
  · refine .bind hnew fun published => ?_
    cases published <;> exact .ret _
  · refine .bind (footprint_claimIdempotencyKey (Service.newJob id (some payload)) key) fun claim => ?_
    match claim with
    | .error err => exact .ret _
    | .ok (owner, false) => exact .ret _
    | .ok (owner, true) =>
      refine .bind hnew fun published => ?_
      cases published with
      | ok _ => exact .ret _
      | error err =>
        refine .bind (.call .release rfl) fun released => ?_
        cases released <;> exact .ret _

end Python.JobService

end AgentsAtScale.Jobs
