import AgentsAtScale.Jobs.Footprint
import AgentsAtScale.Jobs.Settlement
import AgentsAtScale.Runtime.Pending
import AgentsAtScale.Runtime.Retries

namespace AgentsAtScale.Runtime

open Jobs Program

inductive Lookup
  | found (log : Log)
  | missing (err : String)
  | failed (err : String)

def Lookup.result : Lookup → Except String Log
  | .found log => .ok log
  | .missing err => .error err
  | .failed err => .error err

/-- What the ADK runner yields.  Its errors do not wrap `ErrNoPendingInput`. -/
structure WorkflowEvent where
  requestedInput : Option RequestInput := none
  err : Option (String × Bool) := none

def WorkflowEvent.event (event : WorkflowEvent) : AgentEvent where
  requestedInput := event.requestedInput
  err := event.err.map fun (message, interrupted) => { message := message, nodeInterrupted := interrupted }

def resume (lookup : Lookup) (workflow : List WorkflowEvent) : List AgentEvent :=
  match lookupInterrupt lookup.result with
  | .error err => [{ err := some err }]
  | .ok _ => workflow.map (·.event)

def Lookup.NoPendingInput : Lookup → Prop
  | .found log => ∀ id, ¬ Unanswered log id
  | .missing _ => True
  | .failed _ => False

def Lookup.Gives (lookup : Lookup) : Sigma Op.Reply → Prop
  | ⟨.agent _, events⟩ => ∃ workflow, events = resume lookup workflow
  | _ => True

/-- The worker gives the job up only if the session waits for no input, and retries it when
the lookup has failed. -/
def RejectsOnly (s : Service) (job : Job) (lookup : Lookup) : Prop :=
  ∀ calls, (s.process (.job job)).Runs calls () → (∀ call ∈ calls, lookup.Gives call) →
    (∀ copy reply, ⟨.deadLetter copy, reply⟩ ∈ calls → lookup.NoPendingInput) ∧
    ∀ err, lookup = .failed err → ∀ call events, ⟨.agent call, events⟩ ∈ calls →
      ∃ reply, ⟨.retry { job with attempt := job.attempt + 1 } (job.attempt + 1), reply⟩ ∈ calls

/-- The lookup has not failed, and the latest unanswered interrupt has an id. -/
def Lookup.Clear : Lookup → Prop
  | .found log => (pendingInterrupts log).getLast? ≠ some ""
  | .missing _ => True
  | .failed _ => False

theorem Lookup.Clear.cases {lookup : Lookup} (h : lookup.Clear) :
    lookup.NoPendingInput ∨ ∃ id, lookupInterrupt lookup.result = .ok id := by
  match lookup, h with
  | .missing err, _ => exact .inl trivial
  | .found log, h =>
    cases hlast : (pendingInterrupts log).getLast? with
    | none =>
      refine .inl fun id hid => ?_
      rw [← mem_pendingInterrupts, List.getLast?_eq_none_iff.mp hlast] at hid
      cases hid
    | some id =>
      refine .inr ⟨id, lookupInterrupt_eq_ok.mpr ⟨?_, ?_⟩⟩
      · rw [pendingInterrupt, hlast]
        rfl
      · rintro rfl
        exact h hlast

theorem Lookup.rejected_of_not_clear {lookup : Lookup} (h : ¬ lookup.Clear) :
    (∃ err, lookupInterrupt lookup.result = .error err ∧ err.nodeInterrupted = false ∧
      err.noPendingInput = true) ∧ ¬ lookup.NoPendingInput := by
  match lookup, h with
  | .missing err, h => exact absurd trivial h
  | .failed err, _ => exact ⟨⟨_, rfl, rfl, rfl⟩, id⟩
  | .found log, h =>
    have hlast : (pendingInterrupts log).getLast? = some "" := not_not.mp h
    have hempty : pendingInterrupt log = "" := by
      rw [pendingInterrupt, hlast]
      rfl
    refine ⟨⟨{ message := "session has no pending input", noPendingInput := true }, ?_, rfl, rfl⟩,
      fun hnone => ?_⟩
    · simp only [Lookup.result, lookupInterrupt, hempty, if_true]
    · exact hnone "" (mem_pendingInterrupts.mp (List.mem_of_getLast? hlast))

section

variable {s : Service} {job : Job} {request : AgentRequest} {answer : Json} {lookup : Lookup}

def deadLetters : Op → Bool
  | .deadLetter _ => true
  | _ => false

abbrev sparing (lookup : Lookup) : Monitor Op Op.Reply where
  State := Unit
  next _ _ _ := ()
  allowed _ o := deadLetters o = false
  expected _ o reply := lookup.Gives ⟨o, reply⟩

theorem wp_sparing {t : Jobs.Task α} (h : t.Uses (deadLetters · = false)) :
    t.wp (sparing lookup) (fun _ _ => True) () :=
  h.wp (M := sparing lookup) (I := fun _ => True) (fun _ _ ho _ => ho) (fun _ _ _ _ _ => trivial) trivial

theorem spares_delay (level : Int) : (Service.delay job level).Uses (deadLetters · = false) := by
  refine (Service.footprint_delay job level).uses.mono fun o ho => ?_
  cases ho <;> rfl

theorem spares_retry (hattempt : job.attempt + 1 < s.options.maxAttempts) (err : String) :
    (s.retry job err).Uses (deadLetters · = false) := by
  refine (Service.footprint_retry job err).uses.mono fun o ho => ?_
  cases ho with
  | status => rfl
  | delays ho => cases ho <;> rfl
  | buries hspent ho => exact absurd hspent (Int.not_le.mpr hattempt)

theorem spares_markStarted : (Service.markStarted job).Uses (deadLetters · = false) := by
  refine (Service.footprint_markStarted job).uses.mono fun o ho => ?_
  cases ho <;> rfl

theorem spares_finish (requested : Option RequestInput) :
    (Service.finish job request requested).Uses (deadLetters · = false) := by
  refine (Service.footprint_finish job request requested).uses.mono fun o ho => ?_
  cases ho <;> rfl

theorem noPendingInput_collect {workflow : List WorkflowEvent} {err : AgentError}
    (h : (Service.collect (workflow.map (·.event))).2 = some err) : err.noPendingInput = false := by
  have hevent {event : AgentEvent} (hmem : event ∈ workflow.map (·.event)) {err : AgentError}
      (herr : event.err = some err) : err.noPendingInput = false := by
    obtain ⟨yielded, -, rfl⟩ := List.mem_map.mp hmem
    obtain ⟨⟨message, interrupted⟩, -, rfl⟩ := Option.map_eq_some_iff.mp herr
    rfl
  unfold Service.collect at h
  refine List.foldlRecOn (motive := fun r : Option RequestInput × Option AgentError =>
    ∀ err, r.2 = some err → err.noPendingInput = false) _ _ ?_ ?_ err h
  · intro err herr
    cases herr
  · rintro ⟨requested, runErr⟩ hacc event hmem err herr
    cases hraised : event.err with
    | none =>
      simp only [hraised] at herr
      exact hacc err herr
    | some raised =>
      simp only [hraised] at herr
      split at herr
      · exact hacc err herr
      · cases herr
        exact hevent hmem hraised

theorem spares_run {id : String} (hlookup : lookupInterrupt lookup.result = .ok id) :
    (Service.run request).wp (sparing lookup)
      (fun _ result => ∀ err, result.2 = some err → err.noPendingInput = false) () := by
  refine ⟨rfl, fun events hevents err herr => ?_⟩
  obtain ⟨workflow, rfl⟩ := hevents
  have hworkflow : resume lookup workflow = workflow.map (·.event) := by
    simp only [resume, hlookup]
  rw [hworkflow] at herr
  exact noPendingInput_collect herr

theorem spares_processLocked (hattempt : job.attempt + 1 < s.options.maxAttempts) {id : String}
    (hlookup : lookupInterrupt lookup.result = .ok id) :
    (s.processLocked job request).wp (sparing lookup) (fun _ _ => True) () := by
  have retry (err : String) : (s.retry job err).wp (sparing lookup) (fun _ _ => True) () :=
    wp_sparing (spares_retry hattempt err)
  refine Prog.wp_bind _ _ _ (wp_sparing spares_markStarted) fun _ started _ => ?_
  cases started with
  | error err => exact retry err
  | ok _ =>
    refine Prog.wp_bind _ _ _ (spares_run hlookup) ?_
    rintro _ ⟨requested, runErr⟩ hrun
    cases runErr with
    | some err =>
      dsimp only
      rw [hrun err rfl]
      exact retry err.message
    | none =>
      refine Prog.wp_bind _ _ _ (wp_sparing (spares_finish _)) fun _ finished _ => ?_
      cases finished with
      | error err => exact retry err
      | ok _ => exact ⟨rfl, fun _ _ => trivial⟩

theorem spares_process (hs : s.runner = true) (hjob : ResumeJob job request answer)
    (hattempt : job.attempt + 1 < s.options.maxAttempts) {id : String}
    (hlookup : lookupInterrupt lookup.result = .ok id) :
    (s.process (.job job)).wp (sparing lookup) (fun _ _ => True) () := by
  have retry (err : String) : (s.retry job err).wp (sparing lookup) (fun _ _ => True) () :=
    wp_sparing (spares_retry hattempt err)
  simp only [Service.process, hjob.id, Bool.false_eq_true, if_false]
  refine ⟨rfl, fun status _ => ?_⟩
  cases status with
  | error err => exact retry err
  | ok status =>
    change Prog.wp (sparing lookup) _ (if isTerminal status then Service.ack else s.processUnfinished job) ()
    split
    · exact ⟨rfl, fun _ _ => trivial⟩
    · simp only [Service.processUnfinished, hjob.decoded, hjob.valid, hs, Bool.not_true, Bool.false_eq_true,
        if_false]
      refine ⟨rfl, fun acquired _ => ?_⟩
      cases acquired with
      | error err => exact retry err
      | ok acquired =>
        cases acquired with
        | false => exact wp_sparing (spares_delay 1)
        | true =>
          apply Prog.wp_bind _ _ _ (spares_processLocked hattempt hlookup)
          exact fun _ _ _ => ⟨rfl, fun _ _ => trivial⟩

def marking (job : Job) : Calls :=
  [⟨.setJobStatus job.id .processing, .ok ()⟩,
    ⟨.now, (0 : Int)⟩,
    ⟨.markJobTiming job.id .startedMs 0, .ok ()⟩,
    ⟨.setJobTiming job.id .attempts (job.attempt + 1), .ok ()⟩]

def dying (job : Job) (err : String) : Calls :=
  [⟨.setJobStatus job.id .failed, .ok ()⟩,
    ⟨.now, (1 : Int)⟩,
    ⟨.setJobTiming job.id .finishedMs 1, .ok ()⟩,
    ⟨.deadLetter { job with error := err }, .ok ()⟩,
    ⟨.ack, .ok ()⟩]

def givingUp (job : Job) (request : AgentRequest) (err : AgentError) : Calls :=
  [⟨.getJobStatus job.id, .ok (some .published)⟩,
    ⟨.acquireConversationLock request.conversation job.id, .ok true⟩] ++
  (marking job ++ ([⟨.agent request.call, [{ err := some err }]⟩] ++ dying job err.message)) ++
  [⟨.releaseConversationLock request.conversation job.id, .ok ()⟩]

theorem runs_givingUp (hs : s.runner = true) (hjob : ResumeJob job request answer) {err : AgentError}
    (hinterrupted : err.nodeInterrupted = false) (herr : err.noPendingInput = true) :
    (s.process (.job job)).Runs (givingUp job request err) () := by
  have hmarked : (Service.markStarted job).Runs (marking job) (.ok ()) :=
    .op (.op (.op (.op (.ret _))))
  have hran : (Service.run request).Runs [⟨.agent request.call, [{ err := some err }]⟩] (none, some err) := by
    have hcollect : Service.collect [{ err := some err }] = (none, some err) := by
      simp [Service.collect, hinterrupted]
    rw [← hcollect]
    exact .op (.ret _)
  have hdead : (Service.deadLetter job err.message).Runs (dying job err.message) () :=
    .op (.op (.op (.op (.op (.ret _)))))
  have hlocked : (s.processLocked job request).Runs (marking job ++
      ([⟨.agent request.call, [{ err := some err }]⟩] ++ dying job err.message)) () := by
    refine hmarked.bind (hran.bind ?_)
    dsimp only
    rw [if_pos herr]
    exact hdead
  have hrequest : (s.processRequest job request).Runs (givingUp job request err).tail () :=
    .op (hlocked.bind (.op (.ret _)))
  have hunfinished : s.processUnfinished job = s.processRequest job request := by
    simp only [Service.processUnfinished, hjob.decoded, hjob.valid, hs, Bool.not_true, Bool.false_eq_true,
      if_false]
  simp only [Service.process, hjob.id, Bool.false_eq_true, if_false]
  refine .op ?_
  change (s.processUnfinished job).Runs (givingUp job request err).tail ()
  rw [hunfinished]
  exact hrequest

end

theorem rejects_only_iff (s : Service) (hs : s.runner = true) (job : Job) (request : AgentRequest)
    (answer : Json) (hjob : ResumeJob job request answer)
    (hattempt : job.attempt + 1 < s.options.maxAttempts) (lookup : Lookup) :
    RejectsOnly s job lookup ↔ lookup.Clear := by
  constructor
  · intro hrejects
    by_contra hclear
    -- the first delivery ends in the dead queue
    obtain ⟨⟨err, hlookup, hinterrupted, herr⟩, hpending⟩ := Lookup.rejected_of_not_clear hclear
    have hgives : ∀ call ∈ givingUp job request err, lookup.Gives call := by
      have hresume : resume lookup [] = [{ err := some err }] := by
        simp only [resume, hlookup]
      simpa [givingUp, marking, dying, Lookup.Gives] using ⟨[], hresume.symm⟩
    refine hpending ((hrejects _ (runs_givingUp hs hjob hinterrupted herr) hgives).1
      { job with error := err.message } (.ok ()) ?_)
    simp [givingUp, dying]
  · intro hclear calls hruns hgives
    constructor
    · intro copy reply hmem
      obtain hnone | ⟨id, hlookup⟩ := hclear.cases
      · exact hnone
      · obtain ⟨before, rest, hcalls⟩ := List.append_of_mem hmem
        obtain ⟨hobeyed, -⟩ := Monitor.obeyed_of_runs (fun call hcall _ => hgives call hcall)
          (spares_process hs hjob hattempt hlookup) hruns
        cases hobeyed before _ rest hcalls
    · rintro err rfl
      exact hclear.elim

theorem rejects_only_iff_sample :
    RejectsOnly Sample.service Sample.job (.found (Sample.world ["a"]).log) := by
  refine (rejects_only_iff Sample.service rfl Sample.job Sample.request Sample.declined Sample.resumeJob
    (by decide) (.found (Sample.world ["a"]).log)).mpr ?_
  change (pendingInterrupts (Sample.world ["a"]).log).getLast? ≠ some ""
  decide +kernel

theorem failed_lookup_rejected :
    ∃ calls, (Sample.service.process (.job Sample.job)).Runs calls () ∧
      (∀ call ∈ calls, (Lookup.failed "connection refused").Gives call) ∧
      (∃ copy, ⟨.deadLetter copy, .ok ()⟩ ∈ calls) ∧
      (∀ copy level reply, ⟨.retry copy level, reply⟩ ∉ calls) ∧
      ¬ (Lookup.failed "connection refused").NoPendingInput := by
  let err : AgentError :=
    { message := "session has no pending input: connection refused", noPendingInput := true }
  refine ⟨givingUp Sample.job Sample.request err, runs_givingUp rfl Sample.resumeJob rfl rfl, ?_,
    ⟨{ Sample.job with error := err.message }, ?_⟩, ?_, id⟩
  · have hresume : resume (.failed "connection refused") [] = [{ err := some err }] := rfl
    simpa [givingUp, marking, dying, Lookup.Gives] using ⟨[], hresume.symm⟩
  · simp [givingUp, dying]
  · intro copy level reply hmem
    have hop := List.mem_map_of_mem (f := Sigma.fst) hmem
    simp [givingUp, marking, dying] at hop

end AgentsAtScale.Runtime
