import AgentsAtScale.Jobs.System

namespace AgentsAtScale.Jobs

inductive Phase
  | unpublished
  | queued (job : Job)
  | delayed (level : Nat) (job : Job)
  | processing (pid : Nat) (job : Job) (failure : Option String) (ran : Bool)
  | dead (job : Job)
  | finished

def Phase.closed : Phase → Bool
  | .dead _ => true
  | .finished => true
  | _ => false

structure Life where
  phase : Phase
  failures : List String := []
  runs : Nat := 0

namespace Life

variable {maxAttempts : Int} {queues : Nat} {l l' : Life}

inductive Next (maxAttempts : Int) (queues : Nat) : Life → Life → Prop
  | publish {job : Job} : job.attempt = 0 →
    Next maxAttempts queues ⟨.unpublished, log, n⟩ ⟨.queued job, log, n⟩
  | deliver : Next maxAttempts queues ⟨.queued job, log, n⟩
      ⟨.processing pid job none false, log, n⟩
  | fail : Next maxAttempts queues ⟨.processing pid job none ran, log, n⟩
      ⟨.processing pid job (some err) ran, log ++ [err], n⟩
  | run : Next maxAttempts queues ⟨.processing pid job none false, log, n⟩
      ⟨.processing pid job none true, log, n + 1⟩
  | runFail : Next maxAttempts queues ⟨.processing pid job none false, log, n⟩
      ⟨.processing pid job (some err) true, log ++ [err], n + 1⟩
  | retry {job : Job} : job.attempt + 1 < maxAttempts →
    Next maxAttempts queues ⟨.processing pid job (some err) ran, log, n⟩
      ⟨.delayed (retryLevel queues (job.attempt + 1))
        (Job.encoded { job with attempt := job.attempt + 1 }), log, n⟩
  | busy {job : Job} : Next maxAttempts queues ⟨.processing pid job none false, log, n⟩
      ⟨.delayed (retryLevel queues 1) job.encoded, log, n⟩
  | expire : Next maxAttempts queues ⟨.delayed level job, log, n⟩
      ⟨.queued job, log, n⟩
  | exhaust {job : Job} : maxAttempts ≤ job.attempt + 1 →
    Next maxAttempts queues ⟨.processing pid job (some err) ran, log, n⟩
      ⟨.dead (Job.encoded { job with attempt := job.attempt + 1, error := err }), log, n⟩
  | refuse {job job' : Job} : job'.attempt = job.attempt →
    Next maxAttempts queues ⟨.processing pid job none ran, log, n⟩
      ⟨.dead job', log, n⟩
  | finish : Next maxAttempts queues ⟨.processing pid job none ran, log, n⟩
      ⟨.finished, log, n⟩

/-- The attempt number of the copy counts the failed attempts, and the agent runs at
most once for each attempt. -/
def Accounted (maxAttempts : Int) : Life → Prop
  | ⟨.unpublished, log, n⟩ => log = [] ∧ n = 0
  | ⟨.queued job, log, n⟩ =>
    job.attempt = log.length ∧ job.attempt < maxAttempts ∧ n ≤ job.attempt
  | ⟨.delayed _ job, log, n⟩ =>
    job.attempt = log.length ∧ job.attempt < maxAttempts ∧ n ≤ job.attempt
  | ⟨.processing _ job failure ran, log, n⟩ =>
    job.attempt + failure.toList.length = log.length ∧ job.attempt < maxAttempts ∧
      n ≤ job.attempt + ran.toNat ∧ ∀ err, failure = some err → log.getLast? = some err
  | ⟨.dead job, log, n⟩ =>
    job.attempt = log.length ∧ job.attempt ≤ maxAttempts ∧ n ≤ maxAttempts ∧
      (job.attempt = maxAttempts → log.getLast? = some job.error)
  | ⟨.finished, _, n⟩ => n ≤ maxAttempts

theorem runs_le_succ {attempt : Int} {n : Nat} {ran : Bool} (h : n ≤ attempt + ran.toNat) :
    n ≤ attempt + 1 := by
  have := ran.toNat_le
  omega

theorem failed_length {attempt : Int} {log : List String} {err : String}
    (h : attempt + (none : Option String).toList.length = log.length) :
    attempt + (some err).toList.length = (log ++ [err]).length := by
  simp only [Option.toList_none, Option.toList_some, List.length_nil, List.length_singleton,
    List.length_append] at h ⊢
  omega

theorem Accounted.next (h : l.Accounted maxAttempts) (hmax : 0 < maxAttempts)
    (hnext : Next maxAttempts queues l l') : l'.Accounted maxAttempts := by
  cases hnext with
  | publish hattempt =>
    obtain ⟨rfl, rfl⟩ := h
    exact ⟨hattempt, by omega, by simp [hattempt]⟩
  | deliver =>
    obtain ⟨hcount, hbound, hruns⟩ := h
    exact ⟨by simpa using hcount, hbound, by simpa using hruns, nofun⟩
  | fail =>
    obtain ⟨hcount, hbound, hruns, -⟩ := h
    refine ⟨failed_length hcount, hbound, hruns, ?_⟩
    rintro _ ⟨⟩
    exact List.getLast?_concat
  | run =>
    obtain ⟨hcount, hbound, hruns, -⟩ := h
    refine ⟨hcount, hbound, ?_, nofun⟩
    simp only [Bool.toNat_false, Bool.toNat_true] at hruns ⊢
    omega
  | runFail =>
    obtain ⟨hcount, hbound, hruns, -⟩ := h
    refine ⟨failed_length hcount, hbound, ?_, ?_⟩
    · simp only [Bool.toNat_false, Bool.toNat_true] at hruns ⊢
      omega
    · rintro _ ⟨⟩
      exact List.getLast?_concat
  | retry hmore =>
    obtain ⟨hcount, -, hruns, -⟩ := h
    exact ⟨hcount, hmore, runs_le_succ hruns⟩
  | busy =>
    obtain ⟨hcount, hbound, hruns, -⟩ := h
    exact ⟨(Int.add_zero _).symm.trans hcount, hbound, Int.le_trans hruns (Int.le_of_eq (Int.add_zero _))⟩
  | expire => exact h
  | exhaust hmore =>
    obtain ⟨hcount, hbound, hruns, hlast⟩ := h
    exact ⟨hcount, hbound, Int.le_trans (runs_le_succ hruns) hbound, fun _ => hlast _ rfl⟩
  | refuse hattempt =>
    obtain ⟨hcount, hbound, hruns, -⟩ := h
    refine ⟨?_, ?_, Int.le_trans (runs_le_succ hruns) hbound, fun hall => ?_⟩
    · rw [hattempt, ← hcount]
      exact (Int.add_zero _).symm
    · omega
    · omega
  | finish =>
    obtain ⟨-, hbound, hruns, -⟩ := h
    exact Int.le_trans (runs_le_succ hruns) hbound

theorem Accounted.runs_le (h : l.Accounted maxAttempts) (hmax : 0 < maxAttempts) :
    l.runs ≤ maxAttempts := by
  match l, h with
  | ⟨.unpublished, _, _⟩, ⟨_, hruns⟩ =>
    subst hruns
    exact Int.le_of_lt hmax
  | ⟨.queued _, _, _⟩, ⟨_, hbound, hruns⟩ => exact Int.le_trans hruns (Int.le_of_lt hbound)
  | ⟨.delayed _ _, _, _⟩, ⟨_, hbound, hruns⟩ => exact Int.le_trans hruns (Int.le_of_lt hbound)
  | ⟨.processing _ _ _ _, _, _⟩, ⟨_, hbound, hruns, _⟩ =>
    exact Int.le_trans (runs_le_succ hruns) hbound
  | ⟨.dead _, _, _⟩, h => exact h.2.2.1
  | ⟨.finished, _, _⟩, h => exact h

theorem not_next_of_closed (h : l.phase.closed = true) : ¬ Next maxAttempts queues l l' := by
  intro hnext
  cases hnext <;> cases h

end Life

end AgentsAtScale.Jobs
