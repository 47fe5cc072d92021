import Mathlib.Data.List.InsertIdx
import AgentsAtScale.Jobs.Envelope

/-! The broker as it is in RabbitMQ: named queues of encoded jobs, where the messages of a
retry queue are routed back to the main queue.  A deployment on it does what the system on
decoded messages does. -/

namespace AgentsAtScale.Jobs

open Function Transition

namespace Rabbit

def deadQueue (queue : String) : String := queue ++ ".dead"

/-- A body, where `none` is no JSON. -/
abbrev Body := Option Json

structure Deployment where
  stack : Stack
  queue : String
  retryQueues : Nat

/-- The base has the store, the processings and the history, and its queues are not used. -/
structure Wire where
  base : State := {}
  queues : String → List Body := fun _ => []
  unacked : List (Nat × Body) := []

namespace Wire

variable (d : Deployment)

def push (w : Wire) (name : String) (body : Body) : Wire :=
  { w with queues := update w.queues name (w.queues name ++ [body]) }

def settle (w : Wire) (pid : Nat) : Wire :=
  { w with unacked := w.unacked.filter (·.1 ≠ pid) }

def requeue (w : Wire) (pid : Nat) : Wire :=
  { w.settle pid with
    queues := update w.queues d.queue
      (w.queues d.queue ++ (w.unacked.filter (·.1 = pid)).map (·.2)) }

/-- An operation on the broker, as its client carries it out.  The other operations are
none of the broker. -/
def perform (w : Wire) (pid : Nat) : (o : Op) → Option (o.Reply × Wire)
  | .publish job => some (Except.ok (), w.push d.queue (some (d.stack.encode job)))
  | .retry job level =>
    if d.retryQueues = 0 then some (Except.error "no retry queues declared", w)
    else some (Except.ok (),
      w.push (retryQueue d.queue (retryLevel d.retryQueues level)) (some (d.stack.encode job)))
  | .deadLetter job => some (Except.ok (), w.push (deadQueue d.queue) (some (d.stack.encode job)))
  | .ack => some (Except.ok (), w.settle pid)
  | .nack true => some (Except.ok (), w.requeue d pid)
  | .nack false => some (Except.ok (), w.settle pid)
  | _ => none

def answer (w : Wire) (pid : Nat) (o : Op) (reaction : Reaction) : Option (o.Reply × Wire) :=
  match w.perform d pid o with
  | none => (w.base.answer (d.stack.config d.retryQueues) pid o reaction).map fun (reply, t) =>
    (reply, { w with base := t })
  | some (reply, w') =>
    match reaction with
    | .done => some (reply, w')
    | .failed cause => (o.error cause).map (·, w)
    | .lost cause => (o.error cause).map (·, w')
    | _ => none

end Wire

inductive Event
  | publish (id : String) (payload : Option Json) (idempotencyKey : String)
  | inject (body : Body)
  | deliver (index : Nat)
  | exec (pid : Nat) (reaction : Reaction)
  | crash (pid : Nat)
  | redeliver (pid : Nat)
  | expireRetry (level index : Nat)
  | expireLock (conversation : String)

namespace Wire

variable (d : Deployment)

def step (w : Wire) : Event → Option Wire
  | .publish id payload key =>
    (Jobs.step (d.stack.config d.retryQueues) w.base (.publish id payload key)).map fun t => { w with base := t }
  | .inject body =>
    (d.stack.read body).map fun message =>
      { w.push d.queue body with
        base := { w.base with foreign := update w.base.foreign (Role.worker message).jobId true } }
  | .deliver index =>
    match (w.queues d.queue)[index]? with
    | none => none
    | some body =>
      (d.stack.read body).map fun message =>
        { base := w.base.spawn (.worker message) ((d.stack.config d.retryQueues).process message)
          queues := update w.queues d.queue ((w.queues d.queue).eraseIdx index)
          unacked := w.unacked ++ [(w.base.next, body)] }
  | .exec pid reaction =>
    match w.base.procs pid with
    | some { role := role, rest := .op o k, progress := p } =>
      (w.answer d pid o reaction).map fun (reply, w') =>
        { w' with base := w'.base.resume pid role o p (p.next o reply) (k reply) }
    | _ => none
  | .crash pid =>
    some { w.requeue d pid with base := { w.base with procs := update w.base.procs pid none } }
  | .redeliver pid => some (w.requeue d pid)
  | .expireRetry level index =>
    let name := retryQueue d.queue level
    match (w.queues name)[index]? with
    | none => none
    | some body =>
      some (push { w with queues := update w.queues name ((w.queues name).eraseIdx index) } d.queue body)
  | .expireLock conversation =>
    some { w with base := w.base.setLock conversation none }

def sending (w : Wire) : Event → Option Job
  | .exec pid _ => (w.base.nextOp pid).bind Op.job?
  | _ => none

def fits (w : Wire) (e : Event) : Prop := ∀ job ∈ w.sending e, job.Fits

instance (w : Wire) (e : Event) : Decidable (w.fits e) := by
  unfold fits
  infer_instance

end Wire

section

variable {queue : String} {level : Nat}

theorem retryQueue_ne : retryQueue queue level ≠ queue := by
  intro h
  have hlength := congrArg (fun name => name.toList.length) h
  simp [retryQueue] at hlength

theorem deadQueue_ne : deadQueue queue ≠ queue := by
  intro h
  have hlength := congrArg (fun name => name.toList.length) h
  simp [deadQueue] at hlength

theorem retryQueue_ne_dead : retryQueue queue level ≠ deadQueue queue := by
  intro h
  have hlist := congrArg String.toList h
  simp only [retryQueue, deadQueue, String.toList_append, List.append_assoc] at hlist
  have hsuffix := List.append_cancel_left hlist
  simp at hsuffix

end

end Rabbit

theorem Job.Fits.encoded {job : Job} (h : job.Fits) : job.encoded = job := by
  obtain ⟨payload, hpayload, -⟩ := h.exists_payload
  rw [Job.encoded, hpayload, Option.getD_some, ← hpayload]

def State.withBroker (s m : State) : State :=
  { s with
    main := m.main
    retry := m.retry
    dead := m.dead
    unacked := m.unacked }

theorem exists_eraseIdx_filter {l : List α} {p : α → Bool} {k : Nat} {a : α} (h : (l.filter p)[k]? = some a) :
    ∃ i, l[i]? = some a ∧ (l.eraseIdx i).filter p = (l.filter p).eraseIdx k ∧
      ∀ q : α → Bool, q a = false → (l.eraseIdx i).filter q = l.filter q := by
  induction l generalizing k with
  | nil => cases h
  | cons b l ih =>
    by_cases hb : p b = true
    · rw [List.filter_cons_of_pos hb] at h ⊢
      cases k with
      | zero =>
        cases h
        exact ⟨0, rfl, rfl, fun q hq => by simp [hq]⟩
      | succ k =>
        obtain ⟨i, hi, hfilter, hothers⟩ := ih h
        refine ⟨i + 1, hi, ?_, fun q hq => ?_⟩
        · rw [List.eraseIdx_cons_succ, List.filter_cons_of_pos hb, hfilter, List.eraseIdx_cons_succ]
        · rw [List.eraseIdx_cons_succ, List.filter_cons, List.filter_cons, hothers q hq]
    · rw [List.filter_cons_of_neg hb] at h ⊢
      obtain ⟨i, hi, hfilter, hothers⟩ := ih h
      refine ⟨i + 1, hi, ?_, fun q hq => ?_⟩
      · rw [List.eraseIdx_cons_succ, List.filter_cons_of_neg hb, hfilter]
      · rw [List.eraseIdx_cons_succ, List.filter_cons, List.filter_cons, hothers q hq]

namespace Rabbit

/-- The system has the same store, processings and history as the deployment, and its
messages are what the workers read from the queues. -/
structure Represents (d : Deployment) (w : Wire) (s : State) : Prop where
  rest : s = w.base.withBroker s
  main : (w.queues d.queue).map d.stack.read = s.main.map some
  retry : ∀ level, (w.queues (retryQueue d.queue level)).map d.stack.read =
    (s.retry.filter (·.1 = level)).map fun entry => some (.job entry.2)
  dead : (w.queues (deadQueue d.queue)).map d.stack.read = s.dead.map fun job => some (.job job)
  unacked : w.unacked.map (Prod.map id d.stack.read) = s.unacked.map (Prod.map id some)

section

variable {d : Deployment} {w : Wire} {s t : State} {pid : Nat} {o : Op} {reply : o.Reply} {job : Job}

namespace Represents

theorem push_main {body : Body} {message : Message} (h : Represents d w s) (hread : d.stack.read body = some message) :
    Represents d (w.push d.queue body) { s with main := s.main ++ [message] } where
  rest := by
    rw [h.rest]
    rfl
  main := by simp [Wire.push, h.main, hread]
  retry level := by simpa [Wire.push, update_of_ne retryQueue_ne] using h.retry level
  dead := by simpa [Wire.push, update_of_ne deadQueue_ne] using h.dead
  unacked := h.unacked

theorem push_retry (h : Represents d w s) (hfits : job.Fits) (level : Nat) :
    Represents d (w.push (retryQueue d.queue level) (some (d.stack.encode job)))
      { s with retry := s.retry ++ [(level, job)] } where
  rest := by
    rw [h.rest]
    rfl
  main := by simpa [Wire.push, update_of_ne retryQueue_ne.symm] using h.main
  retry level' := by
    by_cases hlevel : level' = level
    · subst hlevel
      simp [Wire.push, h.retry, Stack.read_encode d.stack d.stack hfits]
    · have hne : retryQueue d.queue level' ≠ retryQueue d.queue level := fun heq => hlevel (retryQueue_injective _ heq)
      simpa [Wire.push, update_of_ne hne, Ne.symm hlevel] using h.retry level'
  dead := by simpa [Wire.push, update_of_ne retryQueue_ne_dead.symm] using h.dead
  unacked := h.unacked

theorem push_dead (h : Represents d w s) (hfits : job.Fits) :
    Represents d (w.push (deadQueue d.queue) (some (d.stack.encode job))) { s with dead := s.dead ++ [job] } where
  rest := by
    rw [h.rest]
    rfl
  main := by simpa [Wire.push, update_of_ne deadQueue_ne.symm] using h.main
  retry level := by simpa [Wire.push, update_of_ne retryQueue_ne_dead] using h.retry level
  dead := by simp [Wire.push, h.dead, Stack.read_encode d.stack d.stack hfits]
  unacked := h.unacked

theorem settle (h : Represents d w s) (pid : Nat) : Represents d (w.settle pid) (s.settle pid) where
  rest := by
    rw [h.rest]
    rfl
  main := h.main
  retry := h.retry
  dead := h.dead
  unacked := by
    have hunacked := congrArg (List.filter fun entry => entry.1 ≠ pid) h.unacked
    rw [List.filter_map, List.filter_map] at hunacked
    exact hunacked

theorem requeue (h : Represents d w s) (pid : Nat) : Represents d (w.requeue d pid) (s.requeue pid) where
  rest := by
    rw [h.rest]
    rfl
  main := by
    have hunacked := congrArg (fun l => (l.filter fun entry => entry.1 = pid).map (·.2)) h.unacked
    have hback : ((w.unacked.filter (·.1 = pid)).map (·.2)).map d.stack.read = (s.unackedOf pid).map some := by
      simpa [State.unackedOf, List.filter_map, comp_def] using hunacked
    simp only [Wire.requeue, State.requeue, update_self, List.map_append, h.main, hback]
  retry level := by
    simpa [Wire.requeue, State.requeue, State.settle, update_of_ne retryQueue_ne] using h.retry level
  dead := by simpa [Wire.requeue, State.requeue, State.settle, update_of_ne deadQueue_ne] using h.dead
  unacked := (h.settle pid).unacked

end Represents

theorem retryQueues_config : (d.stack.config d.retryQueues).retryQueues = d.retryQueues := by
  cases d.stack <;> rfl

theorem answer_withBroker {cfg : Config} {base m : State} {reaction : Reaction} (hperform : w.perform d pid o = none)
    (h : base.answer cfg pid o reaction = some (reply, t)) :
    (base.withBroker m).answer cfg pid o reaction = some (reply, t.withBroker m) := by
  have hnack : ∀ requeue, o ≠ .nack requeue := by
    rintro requeue rfl
    cases requeue <;> cases hperform
  have hretry : ∀ job level, o ≠ .retry job level := by
    rintro job level rfl
    rw [Wire.perform] at hperform
    split at hperform <;> cases hperform
  have hreply : (base.withBroker m).reply cfg o = base.reply cfg o := by cases o <;> rfl
  have heffect : (base.withBroker m).effect cfg pid o = (base.effect cfg pid o).withBroker m := by
    cases o with
    | nack requeue => exact absurd rfl (hnack requeue)
    | retry job level => exact absurd rfl (hretry job level)
    | publish job => cases hperform
    | deadLetter job => cases hperform
    | ack => cases hperform
    | _ => rfl
  cases State.answer_cases h with
  | done hdone => rw [State.answer, hreply, hdone, heffect]; rfl
  | failed hfailed => rw [State.answer, hfailed]; rfl
  | lost hlost => rw [State.answer, hlost, heffect]; rfl
  | time => rfl
  | events => rfl
  | result => rfl

namespace Represents

variable {w' : Wire}

theorem perform (h : Represents d w s) (hfits : ∀ job, o.job? = some job → job.Fits)
    (hperform : w.perform d pid o = some (reply, w')) :
    s.reply (d.stack.config d.retryQueues) o = some reply ∧
      Represents d w' (s.effect (d.stack.config d.retryQueues) pid o) := by
  cases o with
  | publish job =>
    cases hperform
    have hjob := hfits job rfl
    rw [State.effect, hjob.encoded]
    exact ⟨rfl, h.push_main (Stack.read_encode d.stack d.stack hjob)⟩
  | retry job level =>
    have hjob := hfits job rfl
    simp only [State.reply, State.effect, retryQueues_config, hjob.encoded]
    rw [Wire.perform] at hperform
    split at hperform
    · rename_i hzero
      cases hperform
      simp only [hzero, if_true]
      exact ⟨trivial, h⟩
    · rename_i hzero
      cases hperform
      simp only [hzero, if_false]
      exact ⟨trivial, h.push_retry hjob _⟩
  | deadLetter job =>
    cases hperform
    have hjob := hfits job rfl
    rw [State.effect, hjob.encoded]
    exact ⟨rfl, h.push_dead hjob⟩
  | ack =>
    cases hperform
    exact ⟨rfl, h.settle pid⟩
  | nack requeue =>
    cases requeue with
    | true =>
      cases hperform
      exact ⟨rfl, h.requeue pid⟩
    | false =>
      cases hperform
      exact ⟨rfl, h.settle pid⟩
  | _ => cases hperform

theorem answer (h : Represents d w s) (hfits : ∀ job, o.job? = some job → job.Fits) {reaction : Reaction}
    (hanswer : w.answer d pid o reaction = some (reply, w')) :
    ∃ t, s.answer (d.stack.config d.retryQueues) pid o reaction = some (reply, t) ∧ Represents d w' t := by
  unfold Wire.answer at hanswer
  cases hperform : w.perform d pid o with
  | none =>
    rw [hperform] at hanswer
    obtain ⟨⟨reply', t⟩, hbase, heq⟩ := Option.map_eq_some_iff.mp hanswer
    cases heq
    have hs := answer_withBroker (m := s) hperform hbase
    rw [← h.rest] at hs
    exact ⟨t.withBroker s, hs, rfl, h.main, h.retry, h.dead, h.unacked⟩
  | some performed =>
    obtain ⟨reply₀, w₀⟩ := performed
    rw [hperform] at hanswer
    obtain ⟨hreply, hrepresents⟩ := h.perform hfits hperform
    cases reaction with
    | done =>
      cases hanswer
      exact ⟨_, by rw [State.answer, hreply]; rfl, hrepresents⟩
    | failed cause =>
      obtain ⟨reply', herror, heq⟩ := Option.map_eq_some_iff.mp hanswer
      cases heq
      exact ⟨s, by rw [State.answer, herror]; rfl, h⟩
    | lost cause =>
      obtain ⟨reply', herror, heq⟩ := Option.map_eq_some_iff.mp hanswer
      cases heq
      exact ⟨_, by rw [State.answer, herror]; rfl, hrepresents⟩
    | time ms => cases hanswer
    | events events => cases hanswer
    | result result => cases hanswer

theorem resume (h : Represents d w s) (role : Role) (o : Op) (p p' : Progress) (rest : Task Outcome) :
    Represents d { w with base := w.base.resume pid role o p p' rest } (s.resume pid role o p p' rest) where
  rest := by
    rw [h.rest]
    rfl
  main := h.main
  retry := h.retry
  dead := h.dead
  unacked := h.unacked

theorem deliver (h : Represents d w s) {index : Nat} {body : Body} {message : Message}
    (hbody : (w.queues d.queue)[index]? = some body) (hread : d.stack.read body = some message) :
    s.main[index]? = some message ∧
      Represents d
        { base := w.base.spawn (.worker message) ((d.stack.config d.retryQueues).process message)
          queues := update w.queues d.queue ((w.queues d.queue).eraseIdx index)
          unacked := w.unacked ++ [(w.base.next, body)] }
        { s.spawn (.worker message) ((d.stack.config d.retryQueues).process message) with
          main := s.main.eraseIdx index
          unacked := s.unacked ++ [(s.next, message)] } := by
  have hmessage : s.main[index]? = some message := by
    have hat := congrArg (·[index]?) h.main
    simp only [List.getElem?_map, hbody, Option.map_some, hread] at hat
    cases hmain : s.main[index]? with
    | none => rw [hmain] at hat; cases hat
    | some m =>
      rw [hmain] at hat
      cases hat
      rfl
  have hnext : s.next = w.base.next := by
    rw [h.rest]
    rfl
  refine ⟨hmessage, ?_, ?_, ?_, ?_, ?_⟩
  · rw [h.rest]
    rfl
  · simp only [update_self, ← List.eraseIdx_map, h.main]
  · intro level
    simpa [State.spawn, update_of_ne retryQueue_ne] using h.retry level
  · simpa [State.spawn, update_of_ne deadQueue_ne] using h.dead
  · simp [h.unacked, hread, hnext]

theorem expireRetry (h : Represents d w s) {level index : Nat} {body : Body}
    (hbody : (w.queues (retryQueue d.queue level))[index]? = some body) :
    ∃ i job, s.retry[i]? = some (level, job) ∧ d.stack.read body = some (.job job) ∧
      Represents d
        { w with
          queues := update w.queues (retryQueue d.queue level)
            ((w.queues (retryQueue d.queue level)).eraseIdx index) }
        { s with retry := s.retry.eraseIdx i } := by
  have hat := congrArg (·[index]?) (h.retry level)
  simp only [List.getElem?_map, hbody, Option.map_some] at hat
  cases hentry : (s.retry.filter (·.1 = level))[index]? with
  | none => rw [hentry] at hat; cases hat
  | some entry =>
    rw [hentry] at hat
    obtain ⟨level', job⟩ := entry
    have hlevel : level' = level := by
      have hkept := (List.mem_filter.mp (List.mem_of_getElem? hentry)).2
      simpa using hkept
    subst hlevel
    obtain ⟨i, hi, hfilter, hothers⟩ := exists_eraseIdx_filter hentry
    refine ⟨i, job, hi, Option.some.inj hat, ?_, ?_, ?_, ?_, h.unacked⟩
    · rw [h.rest]
      rfl
    · simpa [update_of_ne retryQueue_ne.symm] using h.main
    · intro level
      by_cases hlevel : level = level'
      · subst hlevel
        simp only [update_self, ← List.eraseIdx_map, h.retry, hfilter]
      · have hne : retryQueue d.queue level ≠ retryQueue d.queue level' := fun heq => hlevel (retryQueue_injective _ heq)
        simp only [update_of_ne hne, h.retry level]
        rw [hothers (fun entry => decide (entry.1 = level)) (by simpa using Ne.symm hlevel)]
    · simpa [update_of_ne retryQueue_ne_dead.symm] using h.dead

theorem step (h : Represents d w s) {e : Event} (hfits : w.fits e) (hstep : Wire.step d w e = some w') :
    ∃ t, Reaches (Jobs.step (d.stack.config d.retryQueues)) s t ∧ Represents d w' t := by
  cases e with
  | publish id payload key =>
    obtain ⟨t, hbase, rfl⟩ := Option.map_eq_some_iff.mp hstep
    simp only [Jobs.step] at hbase
    split at hbase
    · cases hbase
    rename_i hfresh
    cases hbase
    have hs : Jobs.step (d.stack.config d.retryQueues) (w.base.withBroker s) (.publish id payload key) = _ :=
      if_neg hfresh
    rw [← h.rest] at hs
    exact ⟨_, .tail .refl trivial hs, by rw [h.rest]; rfl, h.main, h.retry, h.dead, h.unacked⟩
  | inject body =>
    obtain ⟨message, hread, rfl⟩ := Option.map_eq_some_iff.mp hstep
    have hpush := h.push_main hread
    have hs : Jobs.step (d.stack.config d.retryQueues) s (.inject message) = some _ := rfl
    refine ⟨_, .tail .refl trivial hs, ?_, hpush.main, hpush.retry, hpush.dead, hpush.unacked⟩
    rw [h.rest]
    rfl
  | deliver index =>
    simp only [Wire.step] at hstep
    split at hstep
    · cases hstep
    rename_i body hbody
    obtain ⟨message, hread, rfl⟩ := Option.map_eq_some_iff.mp hstep
    obtain ⟨hmessage, hrepresents⟩ := h.deliver hbody hread
    exact ⟨_, .tail .refl trivial (step_deliver hmessage), hrepresents⟩
  | exec pid reaction =>
    simp only [Wire.step] at hstep
    split at hstep
    · rename_i role o k p hproc
      obtain ⟨⟨reply, w₁⟩, hanswer, rfl⟩ := Option.map_eq_some_iff.mp hstep
      have hsends : ∀ job, o.job? = some job → job.Fits := by
        intro job hjob
        apply hfits job
        rw [Wire.sending, nextOp_of_procs hproc]
        exact hjob
      obtain ⟨t, hs, hrepresents⟩ := h.answer hsends hanswer
      have hprocs : s.procs pid = some { role := role, rest := .op o k, progress := p } := by
        rw [h.rest]
        exact hproc
      have hexec : Jobs.step (d.stack.config d.retryQueues) s (.exec pid reaction) =
          some (t.resume pid role o p (p.next o reply) (k reply)) := by
        simp only [Jobs.step, hprocs, hs, Option.map_some]
      exact ⟨_, .tail .refl trivial hexec, hrepresents.resume role o p _ _⟩
    · cases hstep
  | crash pid =>
    cases hstep
    have hrequeue := h.requeue pid
    have hs : Jobs.step (d.stack.config d.retryQueues) s (.crash pid) = some _ := rfl
    refine ⟨_, .tail .refl trivial hs, ?_, hrequeue.main, hrequeue.retry, hrequeue.dead, hrequeue.unacked⟩
    rw [h.rest]
    rfl
  | redeliver pid =>
    cases hstep
    exact ⟨_, .tail (a := .redeliver pid) .refl trivial rfl, h.requeue pid⟩
  | expireRetry level index =>
    simp only [Wire.step] at hstep
    split at hstep
    · cases hstep
    rename_i body hbody
    cases hstep
    obtain ⟨i, job, hi, hread, hrepresents⟩ := h.expireRetry hbody
    exact ⟨_, .tail .refl trivial (step_expireRetry hi), hrepresents.push_main hread⟩
  | expireLock conversation =>
    cases hstep
    have hs : Jobs.step (d.stack.config d.retryQueues) s (.expireLock conversation) = some _ := rfl
    refine ⟨_, .tail .refl trivial hs, ?_, h.main, h.retry, h.dead, h.unacked⟩
    rw [h.rest]
    rfl

end Represents

theorem queues_refine (d : Deployment) (w : Wire) (h : Reach (Wire.step d) Wire.fits {} w) :
    ∃ s, Reaches (Jobs.step (d.stack.config d.retryQueues)) {} s ∧ Represents d w s :=
  h.simulate ⟨rfl, rfl, fun _ => rfl, rfl, rfl⟩ fun _ _ _ _ hrepresents hfits hstep => hrepresents.step hfits hstep

end

namespace Sample

def deployment : Deployment where
  stack := .langgraphPython {}
  queue := "jobs"
  retryQueues := 2

def events : List Event :=
  [.publish "job" (some Jobs.Sample.payload) "", .exec 0 .done, .exec 0 (.time 0), .exec 0 .done, .exec 0 .done]

end Sample

theorem queues_refine_sample : ∃ w s, Reach (Wire.step Sample.deployment) Wire.fits {} w ∧
    (w.queues "jobs").length = 1 ∧ Reaches (Jobs.step (Sample.deployment.stack.config 2)) {} s ∧
    Represents Sample.deployment w s ∧ s.main.length = 1 := by
  obtain ⟨w, hw, hqueue⟩ := reach_of_any (Wire.step Sample.deployment) Wire.fits {} Sample.events
    (fun w => (w.queues "jobs").length = 1) (by decide +kernel)
  rw [decide_eq_true_eq] at hqueue
  obtain ⟨s, hs, hrepresents⟩ := queues_refine Sample.deployment w hw
  refine ⟨w, s, hw, hqueue, hs, hrepresents, ?_⟩
  have hlength := congrArg List.length hrepresents.main
  rw [List.length_map, List.length_map] at hlength
  exact hlength.symm.trans hqueue

end Rabbit

end AgentsAtScale.Jobs
