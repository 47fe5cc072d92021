import Mathlib.Logic.Function.Basic

namespace AgentsAtScale.Keyed

variable {Key Job σ Result : Type} [DecidableEq Key] (key : Job → Key) (act : Job → σ → Result × σ)

def step (store : Key → σ) (job : Job) : Key → σ :=
  Function.update store (key job) (act job (store (key job))).2

def run (store : Key → σ) (jobs : List Job) : Key → σ := jobs.foldl (step key act) store

def results (store : Key → σ) : List Job → List (Job × Result)
  | [] => []
  | job :: jobs => (job, (act job (store (key job))).1) :: results (step key act store job) jobs

def replay (s : σ) : List Job → List (Job × Result)
  | [] => []
  | job :: jobs => (job, (act job s).1) :: replay (act job s).2 jobs

variable {key act}

theorem step_self (store : Key → σ) (job : Job) :
    step key act store job (key job) = (act job (store (key job))).2 :=
  Function.update_self ..

theorem step_of_ne {store : Key → σ} {job : Job} {k : Key} (h : key job ≠ k) :
    step key act store job k = store k :=
  Function.update_of_ne (Ne.symm h) ..

theorem run_apply (store : Key → σ) (jobs : List Job) (k : Key) :
    run key act store jobs k =
      (jobs.filter (key · = k)).foldl (fun s job => (act job s).2) (store k) := by
  induction jobs generalizing store with
  | nil => rfl
  | cons job jobs ih =>
    change run key act (step key act store job) jobs k = _
    rw [ih, List.filter_cons]
    by_cases h : key job = k
    · subst h
      rw [step_self, if_pos (by simp)]
      rfl
    · rw [step_of_ne h, if_neg (by simpa using h)]

theorem filter_results (store : Key → σ) (jobs : List Job) (k : Key) :
    (results key act store jobs).filter (fun r => key r.1 = k) =
      replay act (store k) (jobs.filter (key · = k)) := by
  induction jobs generalizing store with
  | nil => rfl
  | cons job jobs ih =>
    simp only [results, List.filter_cons, ih]
    by_cases h : key job = k
    · subst h
      rw [step_self, if_pos (by simp), if_pos (by simp)]
      rfl
    · rw [step_of_ne h, if_neg (by simpa using h), if_neg (by simpa using h)]

theorem fst_mem_of_mem_results {store : Key → σ} {jobs : List Job} {r : Job × Result}
    (h : r ∈ results key act store jobs) : r.1 ∈ jobs := by
  induction jobs generalizing store with
  | nil => cases h
  | cons job jobs ih =>
    obtain rfl | h := List.mem_cons.mp h
    · exact List.mem_cons_self
    · exact List.mem_cons_of_mem _ (ih h)

section

variable {store : Key → σ} {jobs jobs' : List Job} {k : Key} {owns : Job → Bool}

theorem filter_owns (h : ∀ job ∈ jobs, owns job = true ↔ key job = k) :
    jobs.filter owns = jobs.filter (key · = k) := by
  apply List.filter_congr
  intro job hjob
  rw [Bool.eq_iff_iff, h job hjob, decide_eq_true_iff]

theorem filter_results_owns (h : ∀ job ∈ jobs, owns job = true ↔ key job = k) :
    (results key act store jobs).filter (owns ·.1) = replay act (store k) (jobs.filter owns) := by
  rw [filter_owns h, ← filter_results]
  apply List.filter_congr
  intro r hr
  rw [Bool.eq_iff_iff, h r.1 (fst_mem_of_mem_results hr), decide_eq_true_iff]

theorem results_eq_of_filter_eq (hjobs : ∀ job ∈ jobs, owns job = true ↔ key job = k)
    (hjobs' : ∀ job ∈ jobs', owns job = true ↔ key job = k)
    (h : jobs.filter owns = jobs'.filter owns) :
    (results key act store jobs).filter (owns ·.1) = (results key act store jobs').filter (owns ·.1) ∧
      run key act store jobs k = run key act store jobs' k := by
  constructor
  · rw [filter_results_owns hjobs, filter_results_owns hjobs', h]
  · rw [run_apply, run_apply, ← filter_owns hjobs, ← filter_owns hjobs', h]

end

end AgentsAtScale.Keyed
