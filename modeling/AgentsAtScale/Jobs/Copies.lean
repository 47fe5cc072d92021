import AgentsAtScale.Jobs.Publishing
import AgentsAtScale.Jobs.Lifecycle

namespace AgentsAtScale.Jobs

open Program Function Transition

/-- The copies of a job.  A delivery counts until its processing has sent the job on. -/
structure Copies where
  main : List Message := []
  retry : List (Nat × Job) := []
  processing : List (Nat × Message) := []
  dead : List Job := []

def Phase.copies : Phase → Copies
  | .unpublished => {}
  | .queued job => { main := [.job job] }
  | .delayed level job => { retry := [(level, job)] }
  | .processing pid job _ _ => { processing := [(pid, .job job)] }
  | .dead job => { dead := [job] }
  | .finished => {}

def Phase.holder : Phase → Option Nat
  | .processing pid _ _ _ => some pid
  | _ => none

def Phase.published : Phase → Bool
  | .unpublished => false
  | _ => true

def Op.toBroker : Op → Bool
  | .publish _ => true
  | .retry _ _ => true
  | .deadLetter _ => true
  | .ack => true
  | .nack _ => true
  | _ => false

namespace State

def sentBy (s : State) (pid : Nat) : Bool := (s.procs pid).any (·.progress.sent)

def copies (s : State) (id : String) : Copies where
  main := s.main.filter (·.jobId? = some id)
  retry := s.retry.filter (·.2.id = id)
  processing := s.unacked.filter fun d => d.2.jobId? = some id && !s.sentBy d.1
  dead := s.dead.filter (·.id = id)

structure SameQueues (s t : State) : Prop where
  main : t.main = s.main
  retry : t.retry = s.retry
  unacked : t.unacked = s.unacked
  dead : t.dead = s.dead

section

variable {cfg : Config} {s t u : State} {pid : Nat} {o : Op} {id : String} {reaction : Reaction}
  {reply : o.Reply}

theorem sameQueues_effect (h : o.toBroker = false) : SameQueues s (s.effect cfg pid o) := by
  cases o with
  | publish job => cases h
  | retry job level => cases h
  | deadLetter job => cases h
  | ack => cases h
  | nack requeue => cases h
  | _ => exact ⟨rfl, rfl, rfl, rfl⟩

theorem Answer.sameQueues (h : Answer cfg s pid o reaction reply u) (ho : o.toBroker = false) :
    SameQueues s u := by
  rcases h.state with rfl | rfl
  · exact ⟨rfl, rfl, rfl, rfl⟩
  · exact sameQueues_effect ho

theorem copies_congr (hqueues : SameQueues s t)
    (hsent : ∀ q m, (q, m) ∈ s.unacked → m.jobId? = some id → t.sentBy q = s.sentBy q) :
    t.copies id = s.copies id := by
  have hprocessing : s.unacked.filter (fun d => d.2.jobId? = some id && !t.sentBy d.1) =
      s.unacked.filter fun d => d.2.jobId? = some id && !s.sentBy d.1 := by
    apply List.filter_congr
    rintro ⟨q, m⟩ hmem
    by_cases hm : m.jobId? = some id
    · rw [hsent q m hmem hm]
    · simp [hm]
  simp only [copies, hqueues.main, hqueues.retry, hqueues.unacked, hqueues.dead, hprocessing]

theorem copies_settle : (s.settle pid).copies id =
    { s.copies id with processing := (s.copies id).processing.filter (·.1 ≠ pid) } := by
  have hprocs : (s.settle pid).sentBy = s.sentBy := rfl
  simp only [copies, hprocs]
  simp only [settle, List.filter_filter, Bool.and_comm]

theorem processing_filter (h : ∀ m, (pid, m) ∈ s.unacked → m.jobId? ≠ some id) :
    (s.copies id).processing.filter (·.1 ≠ pid) = (s.copies id).processing := by
  apply List.filter_eq_self.mpr
  rintro ⟨q, m⟩ hmem
  simp only [copies, List.mem_filter, Bool.and_eq_true, decide_eq_true_eq] at hmem
  refine decide_eq_true fun hq => ?_
  subst hq
  exact h m hmem.1 hmem.2.1

theorem copies_append_main (m : Message) : copies { s with main := s.main ++ [m] } id =
    { s.copies id with main := (s.copies id).main ++ if m.jobId? = some id then [m] else [] } := by
  simp only [copies, List.filter_append, List.filter_cons, List.filter_nil, decide_eq_true_eq]
  rfl

theorem copies_append_retry (level : Nat) (job : Job) :
    copies { s with retry := s.retry ++ [(level, job)] } id =
      { s.copies id with
        retry := (s.copies id).retry ++ if job.id = id then [(level, job)] else [] } := by
  simp only [copies, List.filter_append, List.filter_cons, List.filter_nil, decide_eq_true_eq]
  rfl

theorem copies_append_dead (job : Job) : copies { s with dead := s.dead ++ [job] } id =
    { s.copies id with dead := (s.copies id).dead ++ if job.id = id then [job] else [] } := by
  simp only [copies, List.filter_append, List.filter_cons, List.filter_nil, decide_eq_true_eq]
  rfl

theorem copies_requeue (h : ∀ m, (pid, m) ∈ s.unacked → m.jobId? ≠ some id) :
    (s.requeue pid).copies id = s.copies id := by
  have hnone : (s.unackedOf pid).filter (·.jobId? = some id) = [] := by
    apply List.filter_eq_nil_iff.mpr
    intro m hm
    simp only [unackedOf, List.mem_map, List.mem_filter, decide_eq_true_eq] at hm
    obtain ⟨⟨q, m⟩, ⟨hmem, rfl⟩, rfl⟩ := hm
    simpa using h m hmem
  have hsettle : (s.settle pid).copies id = s.copies id := by
    rw [copies_settle, processing_filter h]
  rw [← hsettle]
  simp only [requeue, copies, List.filter_append, hnone, List.append_nil]
  rfl

theorem copies_effect (hjob : ∀ job, o.job? = some job → job.id ≠ id)
    (hunacked : ∀ m, (pid, m) ∈ s.unacked → m.jobId? ≠ some id) :
    (s.effect cfg pid o).copies id = s.copies id := by
  have settle : (s.settle pid).copies id = s.copies id := by
    rw [copies_settle, processing_filter hunacked]
  cases o with
  | publish job =>
    have hne : ¬ (Message.job job.encoded).jobId? = some id := fun h => hjob job rfl (Option.some.inj h)
    simp only [effect, copies_append_main, if_neg hne, List.append_nil]
  | retry job level =>
    have hne : ¬ job.encoded.id = id := hjob job rfl
    simp only [effect]
    split
    · rfl
    · simp only [copies_append_retry, if_neg hne, List.append_nil]
  | deadLetter job =>
    have hne : ¬ job.encoded.id = id := hjob job rfl
    simp only [effect, copies_append_dead, if_neg hne, List.append_nil]
  | ack => exact settle
  | nack requeue =>
    cases requeue with
    | false => exact settle
    | true => exact copies_requeue hunacked
  | _ => exact copies_congr (sameQueues_effect rfl) fun _ _ _ _ => rfl

end

end State

section

variable {s u : State} {pid q : Nat} {role : Role} {o : Op} {p p' : Progress} {rest : Task Outcome}
  {id : String}

theorem sentBy_of_procs (h : s.procs pid = some { role := role, rest := rest, progress := p }) :
    s.sentBy pid = p.sent := by
  simp [State.sentBy, h]

theorem sentBy_resume_of_ne (hq : q ≠ pid) :
    (u.resume pid role o p p' rest).sentBy q = u.sentBy q := by
  simp [State.sentBy, State.resume, update_of_ne hq]

theorem sentBy_resume_self : (u.resume pid role o p p' rest).sentBy pid = p'.sent :=
  sentBy_of_procs procs_resume_self

theorem copies_resume (h : u.sentBy pid = p'.sent ∨ ∀ m, (pid, m) ∈ u.unacked → m.jobId? ≠ some id) :
    (u.resume pid role o p p' rest).copies id = u.copies id := by
  refine State.copies_congr (s := u) ⟨rfl, rfl, rfl, rfl⟩ ?_
  intro q m hmem hm
  by_cases hq : q = pid
  · subst hq
    rcases h with h | h
    · rw [sentBy_resume_self, h]
    · exact absurd hm (h m hmem)
  · exact sentBy_resume_of_ne hq

theorem copies_resume_sent (h : p'.sent = true) :
    (u.resume pid role o p p' rest).copies id =
      { u.copies id with processing := (u.copies id).processing.filter (·.1 ≠ pid) } := by
  have hprocessing : u.unacked.filter (fun d => d.2.jobId? = some id &&
        !(u.resume pid role o p p' rest).sentBy d.1) =
      (u.unacked.filter fun d => d.2.jobId? = some id && !u.sentBy d.1).filter (·.1 ≠ pid) := by
    rw [List.filter_filter]
    apply List.filter_congr
    rintro ⟨q, m⟩ -
    by_cases hq : q = pid
    · subst hq
      simp [sentBy_resume_self, h]
    · simp [sentBy_resume_of_ne hq, hq]
  simp only [State.copies]
  rw [← hprocessing]
  rfl

end

end AgentsAtScale.Jobs
