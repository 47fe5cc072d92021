import AgentsAtScale.Jobs.Locks
import AgentsAtScale.Jobs.Publishing
import AgentsAtScale.Jobs.PythonService

namespace AgentsAtScale.Jobs

open Program

def LeavesLock (role : Role) (t : Task α) : Prop :=
  ∀ p, t.wp (monitor role.LockAllowed) (fun p' _ => p'.held = p.held) p

abbrev EndsUnlocked (role : Role) (t : Task α) (p : Progress) : Prop :=
  t.wp (monitor role.LockAllowed) (fun p' _ => p'.held = none) p

namespace LeavesLock

variable {role : Role}

theorem of_uses {t : Task α} (h : t.Uses (·.needsLock = false)) : LeavesLock role t := by
  intro p
  refine Prog.Uses.wp (M := monitor role.LockAllowed) (I := fun p' => p'.held = p.held) ?_ ?_ h rfl
  · intro p' o ho _
    cases o <;> first | exact trivial | cases ho
  · intro p' o reply ho hheld
    refine (Progress.held_next reply ?_ ?_).trans hheld
    · rintro conversation token rfl
      cases ho
    · rintro conversation token rfl
      cases ho

theorem of_quiet {t : Task α} (h : Footprint Op.Quiet t) : LeavesLock role t :=
  of_uses (h.uses.mono fun _ ho => ho.1)

theorem endsUnlocked {t : Task α} {p : Progress} (ht : LeavesLock role t) (hheld : p.held = none) :
    EndsUnlocked role t p := by
  have h := ht p
  rw [hheld] at h
  exact h

end LeavesLock

namespace Python.JobService

variable {s : JobService} {role : Role} {job : Job}

theorem wp_processLocked {request : AgentRequest} {p : Progress}
    (hheld : p.held = some request.conversation) :
    (s.processLocked job request).wp (monitor role.LockAllowed) (fun p' _ => p'.held = p.held) p := by
  apply Prog.wp_bind _ _ _ (LeavesLock.of_quiet Service.quiet_markStarted p)
  intro p₁ started h₁
  cases started with
  | error err => exact h₁
  | ok _ =>
    have hrun : Progress.held p₁ = some request.call.conversation := by
      rw [h₁, hheld, AgentRequest.conversation_call]
    refine ⟨hrun, fun outcome _ => ?_⟩
    have h₂ : (Progress.next p₁ (.invoke request.call) outcome).held = p.held :=
      (Progress.held_next outcome nofun nofun).trans h₁
    rw [← h₂]
    exact LeavesLock.of_quiet (quiet_settleRun outcome) _

theorem endsUnlocked_processRequest {request : AgentRequest} {p : Progress}
    (hid : role.jobId = job.id) (hheld : p.held = none) :
    EndsUnlocked role (s.processRequest job request) p := by
  refine ⟨⟨hid.symm, hheld⟩, fun acquired _ => ?_⟩
  match acquired with
  | .error err => exact (Progress.held_fail err).trans hheld
  | .ok false =>
    exact (LeavesLock.of_quiet (quiet_delay 1)).endsUnlocked (p := { p with busy := true }) hheld
  | .ok true =>
    apply Prog.wp_bind _ _ _ (wp_processLocked (p := { p with held := some request.conversation }) rfl)
    intro p' _ hkept
    exact ⟨⟨hid.symm, hkept⟩, fun _ _ => rfl⟩

theorem endsUnlocked_process (hid : role.jobId = job.id) (payload : Json) :
    EndsUnlocked role (s.process job payload) {} := by
  refine ⟨trivial, fun status _ => ?_⟩
  have hheld : (Progress.next {} (.getJobStatus job.id) status).held = none :=
    Progress.held_next status nofun nofun
  cases status with
  | error err => exact hheld
  | ok status =>
    change EndsUnlocked role (if isTerminal status then _ else _) _
    split
    · exact (LeavesLock.of_quiet (.call (o := .ack) ⟨rfl, rfl⟩ rfl)).endsUnlocked hheld
    · split
      · exact (LeavesLock.of_quiet (quiet_deadLetter _)).endsUnlocked hheld
      · split
        · exact (LeavesLock.of_quiet (quiet_deadLetter _)).endsUnlocked hheld
        · exact endsUnlocked_processRequest hid hheld

theorem endsUnlocked_consume (message : Message) :
    EndsUnlocked (.worker message) (s.consume message) {} := by
  have reject : EndsUnlocked (.worker message) (do let _ ← Delivery.nack false) {} :=
    (LeavesLock.of_quiet (.bind (.call ⟨rfl, rfl⟩ rfl) fun _ => .ret ())).endsUnlocked rfl
  cases message with
  | invalid err => exact reject
  | job job =>
    simp only [consume]
    split
    · exact reject
    · split
      · exact reject
      · apply Prog.wp_bind _ _ _ (endsUnlocked_process rfl _)
        intro p result hheld
        cases result with
        | error err =>
          exact (LeavesLock.of_quiet (.bind (quiet_retry err) fun _ => .ret ())).endsUnlocked hheld
        | ok _ => exact hheld

theorem wp_publishNew {key : String} {p : Progress} (h : p.Working)
    (hclaim : key = "" ∨ p.claim = some true) :
    (publishNew job).wp (monitor (job.PublishAllowed key))
      (fun p' r => Service.PublishedNew p p' r) p := by
  refine ⟨⟨rfl, h.final, h.sent⟩, fun status _ => ?_⟩
  cases status with
  | error err => exact ⟨rfl, rfl, h.sent, .inl rfl⟩
  | ok _ =>
    refine ⟨trivial, fun ms _ => ⟨⟨rfl, h.toOpen⟩, fun marked _ => ?_⟩⟩
    cases marked with
    | error err =>
      change Service.PublishedNew p (p.fail err) (.error err)
      rw [Service.fail_of_working h]
      exact ⟨rfl, rfl, h.sent, .inr (.inl rfl)⟩
    | ok _ =>
      refine ⟨⟨rfl, h.toOpen, hclaim⟩, fun published _ => ?_⟩
      cases published with
      | error err =>
        refine ⟨⟨rfl, h.final, h.sent⟩, fun failed _ => ?_⟩
        cases failed <;> exact ⟨rfl, rfl, h.sent, .inr (.inr rfl)⟩
      | ok _ => exact ⟨rfl, rfl, rfl⟩

def Claimed (p' : Progress) : Except String (Option String × Bool) → Prop
  | .error _ => p'.held = none ∧ p'.claim ≠ some true
  | .ok (owner, false) => p'.held = none ∧ p'.claim ≠ some true ∧ p'.owner = some owner
  | .ok (_, true) => p' = { claim := some true }

theorem wp_claimIdempotencyKey (job : Job) (key : String) :
    (claimIdempotencyKey key job.id).wp (monitor (job.PublishAllowed key))
      (fun p' r => Claimed p' r) {} := by
  refine ⟨⟨rfl, rfl, rfl, rfl, Service.not_faulty_start⟩, fun claimed _ => ?_⟩
  match claimed with
  | .error err => exact ⟨rfl, nofun⟩
  | .ok true => exact rfl
  | .ok false =>
    refine ⟨⟨rfl, rfl⟩, fun owner _ => ?_⟩
    cases owner with
    | error err => exact ⟨rfl, nofun⟩
    | ok owner => exact ⟨rfl, nofun, rfl⟩

theorem wp_publish (id : String) (payload : Option Json) (key : String) :
    (publish id (payload.getD (.object [])) key).wp
      (monitor ((Service.newJob id payload).PublishAllowed key))
      (fun p r => p.held = none ∧ (Service.newJob id payload).Returned p r) {} := by
  unfold publish
  dsimp only
  split
  · rename_i hkey
    apply Prog.wp_bind _ _ _ (wp_publishNew Service.working_start (.inl hkey))
    intro p published hp
    cases published with
    | error err =>
      refine ⟨hp.1, fun hclaim => ?_, nofun, nofun⟩
      cases hp.2.1.symm.trans hclaim
    | ok _ =>
      refine ⟨hp.1, fun _ => hp.2.2, ?_, nofun⟩
      rintro _ ⟨⟩
      exact ⟨rfl, hp.2.2⟩
  · apply Prog.wp_bind _ _ _ (wp_claimIdempotencyKey (Service.newJob id payload) key)
    intro p claim hp
    match claim with
    | .error err => exact ⟨hp.1, fun hclaim => absurd hclaim hp.2, nofun, nofun⟩
    | .ok (owner, false) =>
      refine ⟨hp.1, fun hclaim => absurd hclaim hp.2.1, nofun, ?_⟩
      rintro _ ⟨⟩
      exact hp.2.2
    | .ok (owner, true) =>
      obtain rfl := hp
      have hworking : ({ claim := some true } : Progress).Working := ⟨⟨rfl, rfl, rfl, rfl⟩, rfl, rfl⟩
      apply Prog.wp_bind _ _ _ (wp_publishNew hworking (.inr rfl))
      intro p published hp
      cases published with
      | error err =>
        refine ⟨⟨rfl, hp.2.1, hp.2.2⟩, fun released _ => ?_⟩
        cases released <;> exact ⟨hp.1, nofun, nofun, nofun⟩
      | ok _ =>
        refine ⟨hp.1, fun _ => hp.2.2, ?_, nofun⟩
        rintro _ ⟨⟩
        exact ⟨rfl, hp.2.2⟩

def work (s : JobService) (message : Message) : Task Outcome := do
  s.consume message
  return .processed

/-- `publish`, as a program of the system; the endpoint always has a payload. -/
def serve (id : String) (payload : Option Json) (idempotencyKey : String) : Task Outcome := do
  let result ← publish id (payload.getD (.object [])) idempotencyKey
  return .returned result

def config (s : JobService) (retryQueues : Nat) : Config where
  publish := serve
  process := s.work
  retryQueues := retryQueues

theorem obeys_serve (id : String) (payload : Option Json) (key : String) :
    Obeys keyRules (.publisher (Service.newJob id payload) key) (serve id payload key) {} := by
  apply Prog.wp_bind _ _ _ (wp_publish id payload key)
  intro p result h
  exact h

theorem config_follows_keyRules (s : JobService) (retryQueues : Nat) :
    (s.config retryQueues).Follows keyRules where
  worker message := by
    apply Prog.wp_mono _ _ (fun _ _ _ => trivial)
    refine Prog.Uses.wp (I := fun _ => True) ?_ (fun _ _ _ _ _ => trivial)
      (.bind (works_consume message).uses fun _ => .ret _) trivial
    intro p o ho _
    exact ho
  publisher := obeys_serve

theorem config_follows_lockRules (s : JobService) (retryQueues : Nat) :
    (s.config retryQueues).Follows lockRules where
  worker message := by
    apply Prog.wp_bind _ _ _ (endsUnlocked_consume message)
    intro p _ hheld
    exact hheld
  publisher id payload key := by
    apply (obeys_serve id payload key).mono
    · intro p o hallowed
      cases o <;> first | exact trivial | exact hallowed.elim
    · intro p a hended
      cases a with
      | returned result => exact hended.1
      | processed => exact hended.elim

end Python.JobService

end AgentsAtScale.Jobs
