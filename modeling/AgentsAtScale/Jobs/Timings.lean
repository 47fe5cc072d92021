import AgentsAtScale.Jobs.Records

namespace AgentsAtScale.Jobs

open Program Function Transition

structure Config.Timely (cfg : Config) : Prop where
  worker : ∀ message, Jobs.Timely (cfg.process message)
  publisher : ∀ id payload key, Jobs.Timely (cfg.publish id payload key)

theorem Stack.config_timely (stack : Stack) (retryQueues : Nat) :
    (stack.config retryQueues).Timely := by
  cases stack with
  | adkGo service =>
    exact ⟨fun message => ((Service.works_process message).bind fun _ => .ret _).timely,
      fun id payload key => ((Service.footprint_publish id payload key).bind fun _ => .ret _).timely⟩
  | langgraphPython service =>
    exact ⟨fun message => ((Python.JobService.works_consume message).bind fun _ => .ret _).timely,
      fun id payload key => ((Python.JobService.footprint_publish id _ key).bind fun _ => .ret _).timely⟩

structure Clocked where
  state : State := {}
  clock : Int

def Action.reading : Action → Option Int
  | .exec _ (.time ms) => some ms
  | _ => none

namespace Clocked

def step (cfg : Config) (s : Clocked) (a : Action) : Option Clocked :=
  (Jobs.step cfg s.state a).map fun t => { state := t, clock := a.reading.getD s.clock }

def forward (s : Clocked) (a : Action) : Prop := s.clock ≤ a.reading.getD s.clock

instance (s : Clocked) (a : Action) : Decidable (s.forward a) := inferInstanceAs (Decidable (_ ≤ _))

structure Read (s : Clocked) (role : Role) (ms : Int) : Prop where
  past : ms ≤ s.clock
  published : ∀ job p, role = .worker (.job job) → s.state.foreign job.id = false →
    s.state.timing job.id .publishedMs = some p → p ≤ ms

def Paced (s : Clocked) (proc : Proc) : Prop :=
  ∃ m, proc.rest.wp reading (fun _ _ => True) m ∧ ∀ ms, m = some ms → s.Read proc.role ms

/-- The times stored of the jobs that were published are in order. -/
structure Punctual (s : Clocked) : Prop where
  procs : ∀ pid proc, s.state.procs pid = some proc → s.Paced proc
  stored : ∀ id field ms, field ≠ .attempts → s.state.timing id field = some ms →
    s.state.foreign id = false →
    ms ≤ s.clock ∧ ∃ p, s.state.timing id .publishedMs = some p ∧ p ≤ ms

section

variable {decode : Option Json → Except String AgentRequest} {payloads : String → Json} {cfg : Config}
  {s t : Clocked} {u₀ u : State} {a : Action} {pid : Nat} {role : Role} {o : Op} {k : o.Reply → Task Outcome}
  {p : Progress} {reaction : Reaction} {reply : o.Reply} {id : String}

theorem writer_of_timing {m : Marks} {field : TimingField} {ms : Int} (hwrites : role.Writes decode m o)
    (hfield : field ≠ .attempts) (ho : o = .markJobTiming id field ms ∨ o = .setJobTiming id field ms) :
    (∃ job key, role = .publisher job key ∧ id = job.id ∧ field = .publishedMs) ∨
      ∃ job, role = .worker (.job job) ∧ id = job.id ∧ field ≠ .publishedMs := by
  obtain rfl | rfl := ho
  · cases role with
    | worker message =>
      cases message with
      | invalid err => cases hwrites
      | job job =>
        obtain ⟨rfl, rfl⟩ := hwrites
        exact .inr ⟨job, rfl, rfl, by decide⟩
    | publisher job key =>
      obtain ⟨rfl, rfl⟩ := hwrites
      exact .inl ⟨job, key, rfl, rfl, rfl⟩
  · obtain ⟨job, rfl, rfl, rfl | ⟨rfl, -⟩⟩ := writes_setJobTiming hwrites
    · exact .inr ⟨job, rfl, rfl, by decide⟩
    · exact absurd rfl hfield

theorem read_of_timing {marks : Marks} {m : Option Int} {field : TimingField} {ms : Int}
    (hwrites : role.Writes decode marks o) (hfield : field ≠ .attempts)
    (ho : o = .markJobTiming id field ms ∨ o = .setJobTiming id field ms) (hread : reading.allowed m o) :
    m = some ms := by
  obtain rfl | rfl := ho
  · exact hread
  · obtain ⟨job, -, -, rfl | ⟨rfl, -⟩⟩ := writes_setJobTiming hwrites
    · exact hread rfl
    · exact absurd rfl hfield

theorem timing_of_answer {field : TimingField} {ms : Int} (hanswer : u₀.Answer cfg pid o reaction reply u)
    (h : u.timing id field = some ms) :
    u₀.timing id field = some ms ∨
      o = .markJobTiming id field ms ∧ u₀.timing id field = none ∨ o = .setJobTiming id field ms := by
  obtain heq | ⟨ms', rfl, heq⟩ | ⟨value, rfl, heq⟩ := timing_answer hanswer id field
  · exact .inl (heq.symm.trans h)
  · rw [h] at heq
    cases hold : u₀.timing id field with
    | some old =>
      rw [hold] at heq
      exact .inl heq.symm
    | none =>
      rw [hold] at heq
      cases heq
      exact .inr (.inl ⟨rfl, rfl⟩)
  · cases heq.symm.trans h
    exact .inr (.inr rfl)

theorem published_of_worker {job : Job} {rest : Task Outcome} (h : Recorded decode payloads s.state)
    (hproc : s.state.procs pid = some { role := .worker (.job job), rest := rest, progress := p })
    (hforeign : s.state.foreign job.id = false) : ∃ ms, s.state.timing job.id .publishedMs = some ms :=
  Option.isSome_iff_exists.mp (h.copies job (.processing pid rest p hproc) hforeign).2.2.2

theorem Read.mono {proc : Proc} {ms : Int} (h : s.Read proc.role ms)
    (hrecorded : Recorded decode payloads s.state) (hproc : s.state.procs pid = some proc)
    (hclock : s.clock ≤ t.clock)
    (hforeign : ∀ id, t.state.foreign id = false → s.state.foreign id = false)
    (hstays : ∀ id ms, s.state.timing id .publishedMs = some ms → t.state.timing id .publishedMs = some ms) :
    t.Read proc.role ms where
  past := Int.le_trans h.past hclock
  published job p' hrole hown hp := by
    obtain ⟨role, rest, progress⟩ := proc
    subst hrole
    have hown := hforeign job.id hown
    obtain ⟨p₀, hp₀⟩ := published_of_worker hrecorded hproc hown
    cases (hstays job.id p₀ hp₀).symm.trans hp
    exact h.published job _ rfl hown hp₀

section

variable (h : s.Punctual) (hrecorded : Recorded decode payloads s.state)
  (hproc : s.state.procs pid = some { role := role, rest := .op o k, progress := p })
  (hanswer : s.state.Answer cfg pid o reaction reply u) (hforward : s.forward (.exec pid reaction))
  (hstays : ∀ id ms, s.state.timing id .publishedMs = some ms → u.timing id .publishedMs = some ms)

include h hrecorded hproc hanswer hforward hstays

theorem Punctual.paced_exec :
    Paced { state := u, clock := (Action.exec pid reaction).reading.getD s.clock }
      { role := role, rest := k reply, progress := p.next o reply } := by
  obtain ⟨m, hwp, hread⟩ := h.procs pid _ hproc
  refine ⟨reading.next m o reply, hwp.2 reply trivial, fun ms hms => ?_⟩
  have hforeign := hanswer.sameHistory.foreign
  have hold (hm : m = some ms) :
      Read { state := u, clock := (Action.exec pid reaction).reading.getD s.clock } role ms :=
    (hread ms hm).mono hrecorded hproc hforward (fun id hown => hforeign ▸ hown) hstays
  cases o with
  | now =>
    cases hanswer with
    | done hreply => cases hreply
    | failed herror => cases herror
    | lost herror => cases herror
    | time now =>
      cases hms
      refine ⟨Int.le_refl _, fun job p' _ hown hp => ?_⟩
      exact Int.le_trans (h.stored job.id .publishedMs p' (by decide) hp hown).1 hforward
  | _ => exact hold hms

theorem Punctual.stored_exec {field : TimingField} {ms : Int} (hfield : field ≠ .attempts)
    (hms : u.timing id field = some ms) (hforeign : s.state.foreign id = false) :
    ms ≤ (Action.exec pid reaction).reading.getD s.clock ∧
      ∃ p, u.timing id .publishedMs = some p ∧ p ≤ ms := by
  obtain hold | ho := timing_of_answer hanswer hms
  · obtain ⟨hpast, p, hp, hle⟩ := h.stored id field ms hfield hold hforeign
    exact ⟨Int.le_trans hpast hforward, p, hstays id p hp, hle⟩
  · have ho : o = .markJobTiming id field ms ∨ o = .setJobTiming id field ms := ho.imp_left And.left
    obtain ⟨marks, hlogged⟩ := hrecorded.logged pid _ hproc
    have hread : s.Read role ms := by
      obtain ⟨m, hwp, hread⟩ := h.procs pid _ hproc
      exact hread ms (read_of_timing hlogged.writes.1 hfield ho hwp.1)
    refine ⟨Int.le_trans hread.past hforward, ?_⟩
    obtain ⟨job, key, rfl, rfl, rfl⟩ | ⟨job, rfl, rfl, -⟩ := writer_of_timing hlogged.writes.1 hfield ho
    · exact ⟨ms, hms, Int.le_refl ms⟩
    · obtain ⟨p₀, hp₀⟩ := published_of_worker hrecorded hproc hforeign
      exact ⟨p₀, hstays job.id p₀ hp₀, hread.published job p₀ rfl hforeign hp₀⟩

theorem Punctual.exec :
    Punctual
      { state := u.resume pid role o p (p.next o reply) (k reply)
        clock := (Action.exec pid reaction).reading.getD s.clock } where
  procs q proc hq := by
    have hforeign := hanswer.sameHistory.foreign
    obtain ⟨rfl, rfl⟩ | ⟨-, hq⟩ := procs_resume hanswer.sameHistory hq
    · obtain ⟨m, hwp, hread⟩ := h.paced_exec hrecorded hproc hanswer hforward hstays
      refine ⟨m, hwp, fun ms hms => ?_⟩
      obtain ⟨hpast, hpublished⟩ := hread ms hms
      exact ⟨hpast, hpublished⟩
    · obtain ⟨m, hwp, hread⟩ := h.procs q proc hq
      exact ⟨m, hwp, fun ms hms =>
        (hread ms hms).mono hrecorded hq hforward (fun _ hown => hforeign ▸ hown) hstays⟩
  stored id field ms hfield hms hown := by
    change u.foreign id = false at hown
    rw [hanswer.sameHistory.foreign] at hown
    exact h.stored_exec hrecorded hproc hanswer hforward hstays hfield hms hown

end

theorem Punctual.frame (h : s.Punctual) (hrecorded : Recorded decode payloads s.state)
    (htiming : u.timing = s.state.timing)
    (hforeign : ∀ id, u.foreign id = false → s.state.foreign id = false)
    (hprocs : ∀ q proc, u.procs q = some proc → s.state.procs q = some proc ∨ Timely proc.rest) :
    Punctual { state := u, clock := s.clock } where
  procs q proc hq := by
    obtain hq | hnew := hprocs q proc hq
    · obtain ⟨m, hwp, hread⟩ := h.procs q proc hq
      refine ⟨m, hwp, fun ms hms => (hread ms hms).mono hrecorded hq (Int.le_refl _) hforeign ?_⟩
      intro id p hp
      change u.timing id .publishedMs = some p
      rw [htiming, hp]
    · exact ⟨none, hnew none, fun ms hms => by cases hms⟩
  stored id field ms hfield hms hown := by
    change u.timing id field = some ms at hms
    change _ ∧ ∃ p, u.timing id .publishedMs = some p ∧ p ≤ ms
    rw [htiming] at hms ⊢
    exact h.stored id field ms hfield hms (hforeign id hown)

theorem Punctual.step (hcfg : cfg.Timely) (h : s.Punctual) (hrecorded : Recorded decode payloads s.state)
    (hforward : s.forward a) (hstep : s.step cfg a = some t) : t.Punctual := by
  obtain ⟨u, hmoves, rfl⟩ := Option.map_eq_some_iff.mp hstep
  have hstays : ∀ id ms, s.state.timing id .publishedMs = some ms → u.timing id .publishedMs = some ms :=
    fun _ _ hp => hrecorded.timing_stays (.inl rfl) hmoves hp
  cases step_cases hmoves with
  | exec hproc hanswer => exact h.exec hrecorded hproc hanswer hforward hstays
  | publish hblank hissued hforeign =>
    refine h.frame hrecorded rfl (fun _ hown => hown) fun q proc hq => ?_
    obtain ⟨-, rfl⟩ | ⟨-, hq⟩ := procs_spawn hq
    · exact .inr (hcfg.publisher _ _ _)
    · exact .inl hq
  | inject =>
    refine h.frame hrecorded rfl (fun id hown => ?_) fun _ _ hq => .inl hq
    simp only [update_apply] at hown
    split at hown
    · cases hown
    · exact hown
  | deliver hmain =>
    refine h.frame hrecorded rfl (fun _ hown => hown) fun q proc hq => ?_
    obtain ⟨-, rfl⟩ | ⟨-, hq⟩ := procs_spawn hq
    · exact .inr (hcfg.worker _)
    · exact .inl hq
  | crash => exact h.frame hrecorded rfl (fun _ hown => hown) fun _ _ hq => .inl (procs_crash hq).2
  | redeliver => exact h.frame hrecorded rfl (fun _ hown => hown) fun _ _ hq => .inl hq
  | expireRetry => exact h.frame hrecorded rfl (fun _ hown => hown) fun _ _ hq => .inl hq
  | expireLock => exact h.frame hrecorded rfl (fun _ hown => hown) fun _ _ hq => .inl hq

theorem punctual_start (clock : Int) : Punctual { clock := clock } where
  procs _ _ h := by cases h
  stored _ _ _ _ h := by cases h

theorem punctual_of_reach (hcfg : cfg.Timely) (hwrites : cfg.Writes decode) {clock : Int}
    (h : Reach (step cfg) (fun s a => s.forward a) { clock := clock } s) : s.Punctual := by
  have hinv : (∃ payloads, Recorded decode payloads s.state) ∧ s.Punctual := by
    refine h.invariant (I := fun s => (∃ payloads, Recorded decode payloads s.state) ∧ s.Punctual)
      ⟨⟨fun _ => .null, recorded_start _⟩, punctual_start clock⟩ ?_
    intro s a t hs hforward hstep
    obtain ⟨⟨payloads, hrecorded⟩, hpunctual⟩ := hs
    refine ⟨?_, hpunctual.step hcfg hrecorded hforward hstep⟩
    obtain ⟨u, hmoves, rfl⟩ := Option.map_eq_some_iff.mp hstep
    obtain ⟨payloads', hrecorded', -⟩ := hrecorded.step hwrites hmoves
    exact ⟨payloads', hrecorded'⟩
  exact hinv.2

end

end Clocked

theorem timing_ordered (stack : Stack) (retryQueues : Nat) (clock : Int) (s : Clocked) (id : String)
    (h : Reach (Clocked.step (stack.config retryQueues)) (fun s a => s.forward a) { clock := clock } s)
    (hforeign : s.state.foreign id = false) (field : TimingField) (hfield : field ≠ .attempts) (ms : Int)
    (hms : s.state.timing id field = some ms) :
    ms ≤ s.clock ∧ ∃ published, s.state.timing id .publishedMs = some published ∧ published ≤ ms :=
  (Clocked.punctual_of_reach (stack.config_timely retryQueues) (stack.config_writes retryQueues) h).stored
    id field ms hfield hms hforeign

theorem timing_ordered_sample :
    ∃ s, Reach (Clocked.step ((Stack.langgraphPython {}).config 2)) (fun s a => s.forward a)
        { clock := 0 } s ∧
      s.state.foreign "job" = false ∧ s.state.timing "job" .startedMs = some 7 ∧ 7 ≤ s.clock ∧
      ∃ published, s.state.timing "job" .publishedMs = some published ∧ published ≤ 7 := by
  obtain ⟨s, hs, hrun⟩ := reach_of_any (Clocked.step ((Stack.langgraphPython {}).config 2))
    (fun s a => s.forward a) { clock := 0 }
    [.publish "job" (some Sample.payload) "", .exec 0 .done, .exec 0 (.time 5), .exec 0 .done, .exec 0 .done,
      .deliver 0, .exec 1 .done, .exec 1 .done, .exec 1 .done, .exec 1 (.time 7), .redeliver 1, .deliver 0,
      .exec 1 .done, .expireLock "u:s", .exec 2 .done, .exec 2 .done, .exec 2 .done, .exec 2 (.time 8),
      .exec 2 .done]
    (fun s => !s.state.foreign "job" && decide (s.state.timing "job" .startedMs = some 7)) (by decide +kernel)
  simp only [Bool.and_eq_true, Bool.not_eq_true', decide_eq_true_eq] at hrun
  exact ⟨s, hs, hrun.1, hrun.2,
    timing_ordered (.langgraphPython {}) 2 0 s "job" hs hrun.1 .startedMs (by decide) 7 hrun.2⟩

end AgentsAtScale.Jobs
