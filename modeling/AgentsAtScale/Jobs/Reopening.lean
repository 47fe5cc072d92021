import AgentsAtScale.Jobs.Footprint
import AgentsAtScale.Jobs.Settlement

namespace AgentsAtScale.Jobs.Python

open Program

def KeepsStatus (status : Status) : Sigma Op.Reply → Prop
  | ⟨.setJobStatus _ status', .ok _⟩ => status' = status
  | ⟨.retry _ _, .ok _⟩ => False
  | _ => True

/-- Once a terminal status is stored, it stays. -/
def NotReopened (calls : Calls) : Prop :=
  ∀ before id status rest, calls = before ++ ⟨.setJobStatus id status, .ok ()⟩ :: rest →
    isTerminal (some status) = true → ∀ call ∈ rest, KeepsStatus status call

def raises : Sigma Op.Reply → Bool
  | ⟨.ack, .error _⟩ => true
  | ⟨.nack _, .error _⟩ => true
  | _ => false

def storesTerminal : Sigma Op.Reply → Bool
  | ⟨.setJobStatus _ status, .ok _⟩ => isTerminal (some status)
  | _ => false

def Unfinished (calls : Calls) : Prop := ∀ call ∈ calls, storesTerminal call = false

def Finished (status : Status) (calls : Calls) : Prop :=
  isTerminal (some status) = true ∧ ∃ before id rest,
    calls = before ++ ⟨.setJobStatus id status, .ok ()⟩ :: rest ∧ Unfinished before ∧
      ∀ call ∈ rest, KeepsStatus status call

def Raised (status : Status) (calls : Calls) : Prop :=
  ∃ before call rest, calls = before ++ call :: rest ∧ raises call = true ∧
    ∃ id, ⟨.setJobStatus id status, .ok ()⟩ ∈ before

section

variable {calls : Calls} {call : Sigma Op.Reply} {status : Status}

theorem forall_concat {P : Sigma Op.Reply → Prop} (h : ∀ call ∈ calls, P call) (hcall : P call) :
    ∀ call' ∈ calls ++ [call], P call' := by
  intro call' hmem
  obtain hmem | hmem := List.mem_append.mp hmem
  · exact h call' hmem
  · cases List.mem_singleton.mp hmem
    exact hcall

theorem Unfinished.concat (h : Unfinished calls) (hcall : storesTerminal call = false) :
    Unfinished (calls ++ [call]) :=
  forall_concat h hcall

theorem Unfinished.not_stored (h : Unfinished calls) (hstatus : isTerminal (some status) = true)
    (id : String) : ⟨.setJobStatus id status, .ok ()⟩ ∉ calls := by
  intro hmem
  exact Bool.false_ne_true ((h _ hmem).symm.trans hstatus)

theorem Unfinished.finish {id : String} (h : Unfinished calls) (hstatus : isTerminal (some status) = true) :
    Finished status (calls ++ [⟨.setJobStatus id status, .ok ()⟩]) :=
  ⟨hstatus, calls, id, [], rfl, h, nofun⟩

theorem Finished.concat (h : Finished status calls) (hcall : KeepsStatus status call) :
    Finished status (calls ++ [call]) := by
  obtain ⟨hstatus, before, id, rest, rfl, hbefore, hrest⟩ := h
  exact ⟨hstatus, before, id, rest ++ [call], by simp, hbefore, forall_concat hrest hcall⟩

theorem Finished.stored (h : Finished status calls) : ∃ id, ⟨.setJobStatus id status, .ok ()⟩ ∈ calls := by
  obtain ⟨-, before, id, rest, rfl, -⟩ := h
  exact ⟨id, by simp⟩

theorem Finished.unique {status' : Status} (h : Finished status calls) (id : String)
    (hmem : ⟨.setJobStatus id status', .ok ()⟩ ∈ calls) (hstatus : isTerminal (some status') = true) :
    status' = status := by
  obtain ⟨-, before, id', rest, rfl, hbefore, hrest⟩ := h
  obtain hmem | hmem := List.mem_append.mp hmem
  · exact absurd hmem (hbefore.not_stored hstatus id)
  · obtain hmem | hmem := List.mem_cons.mp hmem
    · cases hmem
      rfl
    · exact hrest _ hmem

theorem Unfinished.notReopened (h : Unfinished calls) : NotReopened calls := by
  rintro before id status rest rfl hstatus
  exact absurd (by simp) (h.not_stored hstatus id)

theorem Finished.notReopened (h : Finished status calls) : NotReopened calls := by
  intro before id status' rest hcalls hstatus
  have hunique : status' = status := h.unique id (by simp [hcalls]) hstatus
  obtain ⟨-, before', id', rest', hcalls', hbefore, hrest⟩ := h
  subst hunique
  rw [hcalls'] at hcalls
  obtain ⟨middle, hb, hr⟩ | ⟨middle, hb, hr⟩ := List.append_eq_append_iff.mp hcalls
  · cases middle with
    | nil =>
      cases hr
      exact hrest
    | cons call middle =>
      cases hr
      exact fun call' hmem => hrest call' (by simp [hmem])
  · cases middle with
    | nil =>
      cases hr
      exact hrest
    | cons call middle =>
      cases hr
      exact absurd (by simp [hb]) (hbefore.not_stored hstatus id)

theorem Raised.append (h : Raised status calls) (calls' : Calls) : Raised status (calls ++ calls') := by
  obtain ⟨before, call, rest, rfl, hraises, hstored⟩ := h
  exact ⟨before, call, rest ++ calls', by simp, hraises, hstored⟩

theorem Raised.mem (h : Raised status calls) :
    ∃ id, ⟨.setJobStatus id status, .ok ()⟩ ∈ calls := by
  obtain ⟨before, call, rest, rfl, -, id, hmem⟩ := h
  exact ⟨id, by simp [hmem]⟩

theorem Raised.exists_raises (h : Raised status calls) :
    ∃ call ∈ calls, raises call = true := by
  obtain ⟨before, call, rest, rfl, hraises, -⟩ := h
  exact ⟨call, by simp, hraises⟩

structure Begun (calls : Calls) : Prop where
  unraised : ∀ call ∈ calls, raises call = false
  unfinished : Unfinished calls

structure Clean (calls : Calls) : Prop where
  unraised : ∀ call ∈ calls, raises call = false
  kept : Unfinished calls ∨ ∃ status, Finished status calls

theorem begun_nil : Begun [] := ⟨nofun, nofun⟩

theorem Begun.concat (h : Begun calls) (call : Sigma Op.Reply) (hraises : raises call = false)
    (hcall : storesTerminal call = false) : Begun (calls ++ [call]) :=
  ⟨forall_concat h.unraised hraises, h.unfinished.concat hcall⟩

theorem Begun.clean (h : Begun calls) : Clean calls := ⟨h.unraised, .inl h.unfinished⟩

theorem Begun.finish {id : String} (h : Begun calls) (hstatus : isTerminal (some status) = true) :
    Clean (calls ++ [⟨.setJobStatus id status, .ok ()⟩]) :=
  ⟨forall_concat h.unraised rfl, .inr ⟨status, h.unfinished.finish hstatus⟩⟩

theorem kept_concat (h : Unfinished calls ∨ ∃ status, Finished status calls)
    (hcall : storesTerminal call = false) (hkeeps : ∀ status, KeepsStatus status call) :
    Unfinished (calls ++ [call]) ∨ ∃ status, Finished status (calls ++ [call]) := by
  obtain h | ⟨status, h⟩ := h
  · exact .inl (h.concat hcall)
  · exact .inr ⟨status, h.concat (hkeeps status)⟩

theorem Clean.concat (h : Clean calls) (call : Sigma Op.Reply) (hraises : raises call = false)
    (hcall : storesTerminal call = false) (hkeeps : ∀ status, KeepsStatus status call) :
    Clean (calls ++ [call]) :=
  ⟨forall_concat h.unraised hraises, kept_concat h.kept hcall hkeeps⟩

def Handled (calls : Calls) : Except String Unit → Prop
  | .ok _ => Clean calls
  | .error _ => Unfinished calls ∨ ∃ status, Finished status calls ∧ Raised status calls

theorem Clean.handled {o : Op} {reply : o.Reply} {result : Except String Unit} (h : Clean calls)
    (hcall : storesTerminal ⟨o, reply⟩ = false) (hkeeps : ∀ status, KeepsStatus status ⟨o, reply⟩)
    (hraises : raises ⟨o, reply⟩ = !result.isOk) : Handled (calls ++ [⟨o, reply⟩]) result := by
  cases result with
  | ok _ => exact h.concat ⟨o, reply⟩ hraises hcall hkeeps
  | error err =>
    obtain hunfinished | ⟨status, hfinished⟩ := h.kept
    · exact .inl (hunfinished.concat hcall)
    · exact .inr ⟨status, hfinished.concat (hkeeps status), calls, _, [], rfl, hraises, hfinished.stored⟩

theorem Handled.concat {result : Except String Unit} (h : Handled calls result) (call : Sigma Op.Reply)
    (hraises : raises call = false) (hcall : storesTerminal call = false)
    (hkeeps : ∀ status, KeepsStatus status call) : Handled (calls ++ [call]) result := by
  cases result with
  | ok _ => exact Clean.concat h call hraises hcall hkeeps
  | error err =>
    obtain h | ⟨status, hfinished, hraised⟩ := h
    · exact .inl (h.concat hcall)
    · exact .inr ⟨status, hfinished.concat (hkeeps status), hraised.append [call]⟩

end

namespace JobService

variable {s : JobService} {job : Job} {calls : Calls}

abbrev Ends (t : Task α) (Q : Calls → α → Prop) (calls : Calls) : Prop :=
  t.wp (history fun _ _ => True) Q calls

theorem handled_ack (h : Clean calls) : Ends Delivery.ack Handled calls := by
  refine ⟨trivial, fun reply _ => ?_⟩
  cases reply with
  | error err => exact h.handled rfl (fun _ => trivial) rfl
  | ok _ => exact h.handled rfl (fun _ => trivial) rfl

theorem handled_nack {requeue : Bool} (h : Clean calls) : Ends (Delivery.nack requeue) Handled calls := by
  refine ⟨trivial, fun reply _ => ?_⟩
  cases reply with
  | error err => exact h.handled rfl (fun _ => trivial) rfl
  | ok _ => exact h.handled rfl (fun _ => trivial) rfl

theorem handled_delay {level : Int} (h : Begun calls) : Ends (delay job level) Handled calls := by
  refine ⟨trivial, fun reply _ => ?_⟩
  have hsent := (h.concat ⟨.retry job level, reply⟩ rfl rfl).clean
  cases reply with
  | error err => exact handled_nack hsent
  | ok _ => exact handled_ack hsent

theorem clean_storeFailed (h : Begun calls) : Ends (storeFailed job) (fun calls _ => Clean calls) calls := by
  refine ⟨trivial, fun reply _ => ?_⟩
  cases reply with
  | error err => exact (h.concat ⟨.setJobStatus job.id .failed, .error err⟩ rfl rfl).clean
  | ok _ =>
    have hfailed : Clean (calls ++ [⟨.setJobStatus job.id .failed, .ok ()⟩]) := h.finish rfl
    refine ⟨trivial, fun ms _ => ⟨trivial, fun timing _ => ?_⟩⟩
    exact (hfailed.concat ⟨.now, ms⟩ rfl rfl fun _ => trivial).concat
      ⟨.setJobTiming job.id .finishedMs ms, timing⟩ rfl rfl fun _ => trivial

theorem handled_deadLetter {err : String} (h : Begun calls) : Ends (deadLetter job err) Handled calls := by
  apply Prog.wp_bind _ _ _ (clean_storeFailed h)
  intro calls' _ hclean
  refine ⟨trivial, fun reply _ => ?_⟩
  have hsent := hclean.concat ⟨.deadLetter { job with error := err }, reply⟩ rfl rfl fun _ => trivial
  cases reply with
  | error cause => exact handled_nack hsent
  | ok _ => exact handled_ack hsent

theorem handled_retry {err : String} (h : Begun calls) : Ends (s.retry job err) Handled calls := by
  simp only [retry]
  split
  · exact handled_deadLetter h
  · refine ⟨trivial, fun reply _ => ?_⟩
    cases reply with
    | error cause => exact handled_delay (h.concat ⟨.setJobStatus job.id .retrying, .error cause⟩ rfl rfl)
    | ok _ => exact handled_delay (h.concat ⟨.setJobStatus job.id .retrying, .ok ()⟩ rfl rfl)

theorem handled_finishWith {status : Status} (h : Begun calls) (hstatus : isTerminal (some status) = true) :
    Ends (finishWith job status) Handled calls := by
  refine ⟨trivial, fun ms _ => ⟨trivial, fun timing _ => ?_⟩⟩
  have htiming := (h.concat ⟨.now, ms⟩ rfl rfl).concat ⟨.setJobTiming job.id .finishedMs ms, timing⟩ rfl rfl
  cases timing with
  | error err => exact .inl htiming.unfinished
  | ok _ =>
    refine ⟨trivial, fun reply _ => ?_⟩
    cases reply with
    | error err => exact .inl (htiming.concat ⟨.setJobStatus job.id status, .error err⟩ rfl rfl).unfinished
    | ok _ => exact handled_ack (htiming.finish hstatus)

theorem handled_finish {request : AgentRequest} {result : GraphResult} (h : Begun calls) :
    Ends (finish job request result) Handled calls := by
  unfold finish
  split
  · exact .inl h.unfinished
  · refine ⟨trivial, fun reply _ => ?_⟩
    have hmetadata : Begun (calls ++ [⟨.setJobMetadata job.id _, reply⟩]) := h.concat _ rfl rfl
    cases reply with
    | error err => exact .inl hmetadata.unfinished
    | ok _ => exact handled_finishWith hmetadata rfl
  · split
    · split
      · exact handled_deadLetter h
      · exact handled_finishWith h rfl
    · exact handled_finishWith h rfl

theorem begun_markStarted (h : Begun calls) : Ends (markStarted job) (fun calls _ => Begun calls) calls := by
  refine ⟨trivial, fun status _ => ?_⟩
  cases status with
  | error err => exact h.concat ⟨.setJobStatus job.id .processing, .error err⟩ rfl rfl
  | ok _ =>
    have hprocessing := h.concat ⟨.setJobStatus job.id .processing, .ok ()⟩ rfl rfl
    refine ⟨trivial, fun ms _ => ⟨trivial, fun started _ => ?_⟩⟩
    have hstarted := (hprocessing.concat ⟨.now, ms⟩ rfl rfl).concat
      ⟨.markJobTiming job.id .startedMs ms, started⟩ rfl rfl
    cases started with
    | error err => exact hstarted
    | ok _ =>
      refine ⟨trivial, fun attempts _ => ?_⟩
      exact hstarted.concat ⟨.setJobTiming job.id .attempts (job.attempt + 1), attempts⟩ rfl rfl

theorem handled_processLocked {request : AgentRequest} (h : Begun calls) :
    Ends (s.processLocked job request) Handled calls := by
  apply Prog.wp_bind _ _ _ (begun_markStarted h)
  intro calls₁ started h₁
  cases started with
  | error err => exact .inl h₁.unfinished
  | ok _ =>
    refine ⟨trivial, fun outcome _ => ?_⟩
    have hran := h₁.concat ⟨.invoke request.call, outcome⟩ rfl rfl
    cases outcome with
    | error err =>
      change Ends (if err.noPendingInput then deadLetter job err.message else s.retry job err.message)
        Handled _
      split
      · exact handled_deadLetter hran
      · exact handled_retry hran
    | ok result => exact handled_finish hran

theorem handled_processRequest {request : AgentRequest} (h : Begun calls) :
    Ends (s.processRequest job request) Handled calls := by
  refine ⟨trivial, fun acquired _ => ?_⟩
  have hacquired := h.concat ⟨.acquireConversationLock request.conversation job.id, acquired⟩ rfl rfl
  match acquired with
  | .error err => exact .inl hacquired.unfinished
  | .ok false => exact handled_delay hacquired
  | .ok true =>
    apply Prog.wp_bind _ _ _ (handled_processLocked hacquired)
    intro calls' result hhandled
    refine ⟨trivial, fun reply _ => ?_⟩
    exact hhandled.concat ⟨.releaseConversationLock request.conversation job.id, reply⟩ rfl rfl
      fun _ => trivial

theorem handled_process (payload : Json) : Ends (s.process job payload) Handled [] := by
  refine ⟨trivial, fun status _ => ?_⟩
  have hread := begun_nil.concat ⟨.getJobStatus job.id, status⟩ rfl rfl
  cases status with
  | error err => exact .inl hread.unfinished
  | ok status =>
    change Ends (if isTerminal status then _ else _) Handled _
    split
    · exact handled_ack hread.clean
    · split
      · exact handled_deadLetter hread
      · split
        · exact handled_deadLetter hread
        · exact handled_processRequest hread

def Failing (calls : Calls) : Prop := Unfinished calls ∨ Finished .failed calls

def Fails : Op → Prop
  | .setJobStatus _ status => status = .failed
  | .retry _ _ => False
  | _ => True

theorem Failing.concat {o : Op} {reply : o.Reply} (h : Failing calls) (ho : Fails o) :
    Failing (calls ++ [⟨o, reply⟩]) := by
  cases o with
  | setJobStatus id status =>
    cases ho
    match reply, h with
    | .error err, .inl h => exact .inl (h.concat rfl)
    | .error err, .inr h => exact .inr (h.concat trivial)
    | .ok _, .inl h => exact .inr (h.finish rfl)
    | .ok _, .inr h => exact .inr (h.concat rfl)
  | retry copy level => exact ho.elim
  | _ =>
    obtain h | h := h
    · exact .inl (h.concat rfl)
    · exact .inr (h.concat trivial)

theorem fails_deadLetter (err : String) : (deadLetter job err).Uses Fails := by
  refine (footprint_deadLetter job err).uses.mono fun o ho => ?_
  cases ho with
  | status => exact rfl
  | _ => trivial

theorem failing_deadLetter {err : String} (h : Failing calls) :
    Ends (deadLetter job err) (fun calls _ => Failing calls) calls :=
  Prog.Uses.wp (fun _ _ _ _ => trivial) (fun _ _ _ ho h => Failing.concat h ho) (fails_deadLetter err) h

theorem unfinished_retrying {id : String} {level : Int} (h : Unfinished calls) :
    Ends (do
      let _ ← Store.setJobStatus id .retrying
      delay job level) (fun calls _ => Unfinished calls) calls := by
  refine Prog.Uses.wp (P := fun o => ∀ reply, storesTerminal ⟨o, reply⟩ = false)
    (fun _ _ _ _ => trivial) (fun _ _ reply ho h => Unfinished.concat h (ho reply)) ?_ h
  refine .bind (.call ?_) fun _ => .bind (.call fun _ => rfl) fun sent => ?_
  · intro reply
    cases reply <;> rfl
  · cases sent with
    | error err => exact .call fun _ => rfl
    | ok _ => exact .call fun _ => rfl

/-- No `ack` or `nack` raises after a terminal status was stored, unless that is `failed`
and the job has no attempt left. -/
def AcksHold (s : JobService) (message : Message) (calls : Calls) : Prop :=
  ∀ job, message = .job job → ∀ status, isTerminal (some status) = true → Raised status calls →
    status = .failed ∧ s.options.maxAttempts ≤ job.attempt + 1

/-- Once an `ack` or `nack` has raised, no write of a status raises. -/
def WritesRecover (calls : Calls) : Prop :=
  ∀ before call rest, calls = before ++ call :: rest → raises call = true →
    ∀ id status err, ⟨.setJobStatus id status, .error err⟩ ∉ rest

structure Steady (s : JobService) (message : Message) (calls : Calls) : Prop where
  kept : s.AcksHold message calls → NotReopened calls
  needed : WritesRecover calls → NotReopened calls → s.AcksHold message calls

section

variable {message : Message}

theorem steady_of_unfinished (h : Unfinished calls) : s.Steady message calls := by
  refine ⟨fun _ => h.notReopened, fun _ _ job _ status hstatus hraised => ?_⟩
  obtain ⟨id, hmem⟩ := hraised.mem
  exact absurd hmem (h.not_stored hstatus id)

theorem steady_of_clean (h : Clean calls) : s.Steady message calls := by
  constructor
  · obtain hunfinished | ⟨status, hfinished⟩ := h.kept
    · exact fun _ => hunfinished.notReopened
    · exact fun _ => hfinished.notReopened
  · intro _ _ job _ status _ hraised
    obtain ⟨call, hmem, hraises⟩ := hraised.exists_raises
    exact absurd (h.unraised call hmem) (by simp [hraises])

theorem steady_of_failing (h : Failing calls) (hmax : s.options.maxAttempts ≤ job.attempt + 1) :
    s.Steady (.job job) calls := by
  obtain hunfinished | hfinished := h
  · exact steady_of_unfinished hunfinished
  · refine ⟨fun _ => hfinished.notReopened, ?_⟩
    rintro _ _ _ ⟨⟩ status hstatus hraised
    obtain ⟨id, hmem⟩ := hraised.mem
    exact ⟨hfinished.unique _ hmem hstatus, hmax⟩

theorem steady_of_raised {status status' : Status} {id : String} {reply : Op.Reply (.setJobStatus id status')}
    {rest : Calls} (hfinished : Finished status calls) (hraised : Raised status calls)
    (hne : status' ≠ status) (hlast : ¬ (status = .failed ∧ s.options.maxAttempts ≤ job.attempt + 1)) :
    s.Steady (.job job) (calls ++ ⟨.setJobStatus id status', reply⟩ :: rest) := by
  constructor
  · intro hholds
    exact absurd (hholds job rfl status hfinished.1 (hraised.append _)) hlast
  · intro hrecover hkept
    obtain ⟨before, call, rest', rfl, hraises, -⟩ := hraised
    cases reply with
    -- a write that raises would leave the job as it was
    | error err =>
      have hmem := hrecover before call (rest' ++ ⟨.setJobStatus id status', .error err⟩ :: rest)
        (by simp) hraises id status' err
      exact absurd (by simp) hmem
    | ok _ =>
      obtain ⟨hstatus, before', id', rest'', hcalls, -⟩ := hfinished
      have hkeeps := hkept before' id' status (rest'' ++ ⟨.setJobStatus id status', .ok ()⟩ :: rest)
        (by rw [hcalls]; simp) hstatus ⟨.setJobStatus id status', .ok ()⟩ (by simp)
      exact absurd hkeeps hne

end

theorem steady_retry {err : String} (h : Handled calls (.error err)) :
    Ends (s.retry job err) (fun calls _ => s.Steady (.job job) calls) calls := by
  -- without an attempt left `retry` stores `failed`, otherwise `retrying`
  by_cases hmax : s.options.maxAttempts ≤ job.attempt + 1
  · simp only [retry, ge_iff_le, hmax, if_true]
    have failing (hfailing : Failing calls) : Ends (deadLetter { job with attempt := job.attempt + 1 } err)
        (fun calls _ => s.Steady (.job job) calls) calls :=
      Prog.wp_mono _ _ (fun _ _ h => steady_of_failing h hmax) (failing_deadLetter hfailing)
    obtain hunfinished | ⟨status, hfinished, hraised⟩ := h
    · exact failing (.inl hunfinished)
    · by_cases hstatus : status = .failed
      · subst hstatus
        exact failing (.inr hfinished)
      · refine Prog.wp_mono _ _ ?_ (wp_history_op (.setJobStatus job.id .failed) _ calls)
        rintro calls' _ ⟨reply, rest, rfl⟩
        exact steady_of_raised hfinished hraised (Ne.symm hstatus) fun hlast => hstatus hlast.1
  · simp only [retry, ge_iff_le, hmax, if_false]
    obtain hunfinished | ⟨status, hfinished, hraised⟩ := h
    · exact Prog.wp_mono _ _ (fun _ _ h => steady_of_unfinished h) (unfinished_retrying hunfinished)
    · refine Prog.wp_mono _ _ ?_ (wp_history_op (.setJobStatus job.id .retrying) _ calls)
      rintro calls' _ ⟨reply, rest, rfl⟩
      refine steady_of_raised hfinished hraised ?_ fun hlast => hmax hlast.2
      rintro rfl
      cases hfinished.1

theorem steady_consume (message : Message) :
    Ends (s.consume message) (fun calls _ => s.Steady message calls) [] := by
  have reject : Ends (do let _ ← Delivery.nack false) (fun calls _ => s.Steady message calls) [] :=
    ⟨trivial, fun reply _ => steady_of_unfinished (begun_nil.unfinished.concat rfl)⟩
  cases message with
  | invalid err => exact reject
  | job job =>
    simp only [consume]
    split
    · exact reject
    · split
      · exact reject
      · apply Prog.wp_bind _ _ _ (handled_process _)
        intro calls result hhandled
        cases result with
        | error err =>
          apply Prog.wp_bind _ _ _ (steady_retry hhandled)
          exact fun _ _ hsteady => hsteady
        | ok _ => exact steady_of_clean hhandled

end JobService

theorem finished_kept (s : JobService) (message : Message) (calls : Calls)
    (h : (s.consume message).Runs calls ()) :
    (s.AcksHold message calls → NotReopened calls) ∧
      (JobService.WritesRecover calls → NotReopened calls → s.AcksHold message calls) := by
  obtain ⟨-, hsteady⟩ := Monitor.obeyed_of_runs (fun _ _ _ => trivial) (s.steady_consume message) h
  rw [after_history] at hsteady
  exact ⟨hsteady.kept, hsteady.needed⟩

def Sample.finishing (acked : Except String Unit) : Calls :=
  [⟨.getJobStatus "job", .ok (some .published)⟩,
    ⟨.acquireConversationLock "u:s" "job", .ok true⟩,
    ⟨.setJobStatus "job" .processing, .ok ()⟩,
    ⟨.now, (0 : Int)⟩,
    ⟨.markJobTiming "job" .startedMs 0, .ok ()⟩,
    ⟨.setJobTiming "job" .attempts 1, .ok ()⟩,
    ⟨.invoke (.run "u" "s" "hello"), .ok {}⟩,
    ⟨.now, (1 : Int)⟩,
    ⟨.setJobTiming "job" .finishedMs 1, .ok ()⟩,
    ⟨.setJobStatus "job" .completed, .ok ()⟩,
    ⟨.ack, acked⟩,
    ⟨.releaseConversationLock "u:s" "job", .ok ()⟩]

def Sample.reopens : Calls :=
  [⟨.setJobStatus "job" .retrying, .ok ()⟩,
    ⟨.retry { Sample.job with attempt := 1 } 1, .ok ()⟩,
    ⟨.ack, .ok ()⟩]

theorem finished_kept_sample :
    (JobService.consume {} (.job Sample.job)).Runs (Sample.finishing (.ok ())) () ∧
      JobService.AcksHold {} (.job Sample.job) (Sample.finishing (.ok ())) ∧
      NotReopened (Sample.finishing (.ok ())) := by
  have hruns : (JobService.consume {} (.job Sample.job)).Runs (Sample.finishing (.ok ())) () :=
    .op (.op (.op (.op (.op (.op (.op (.op (.op (.op (.op (.op (.ret ()))))))))))))
  have hholds : JobService.AcksHold {} (.job Sample.job) (Sample.finishing (.ok ())) := by
    intro _ _ status _ hraised
    obtain ⟨call, hmem, hraises⟩ := hraised.exists_raises
    have hnone : ∀ call ∈ Sample.finishing (.ok ()), raises call = false := by
      simp [Sample.finishing, raises]
    rw [hnone call hmem] at hraises
    cases hraises
  exact ⟨hruns, hholds, (finished_kept {} _ _ hruns).1 hholds⟩

theorem finished_job_reopened :
    (JobService.consume {} (.job Sample.job)).Runs
      (Sample.finishing (.error "channel closed") ++ Sample.reopens) () ∧
    ¬ NotReopened (Sample.finishing (.error "channel closed") ++ Sample.reopens) := by
  constructor
  · exact .op (.op (.op (.op (.op (.op (.op (.op (.op (.op (.op (.op (.op (.op (.op (.ret ())))))))))))))))
  · intro hkept
    have hkeeps := hkept ((Sample.finishing (.error "channel closed")).take 9) "job" .completed
      ((Sample.finishing (.error "channel closed")).drop 10 ++ Sample.reopens) rfl rfl
      ⟨.setJobStatus "job" .retrying, .ok ()⟩ (by simp [Sample.reopens])
    cases hkeeps

end AgentsAtScale.Jobs.Python
