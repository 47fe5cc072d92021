import Mathlib.Control.Monad.Basic
import AgentsAtScale.Jobs.Conversations
import AgentsAtScale.Jobs.Finality

namespace AgentsAtScale.Jobs

open Program Function Transition

theorem Stack.config_follows_keyRules (stack : Stack) (retryQueues : Nat) :
    (stack.config retryQueues).Follows keyRules := by
  cases stack with
  | adkGo service =>
    have h := service.config_follows retryQueues
    exact
      { worker := fun message => obeys_keyRules (h.worker message)
        publisher := fun id payload key => obeys_keyRules (h.publisher id payload key) }
  | langgraphPython service => exact service.config_follows_keyRules retryQueues

structure Claims (s : State) : Prop where
  owned : ∀ pid job key rest p,
    s.procs pid = some { role := .publisher job key, rest := rest, progress := p } →
    p.claim = some true → s.idempotency key = some job.id
  sent : ∀ pid job key rest p,
    s.procs pid = some { role := .publisher job key, rest := rest, progress := p } →
    p.sent = true → s.accepted job.id = true
  accepted : ∀ id, s.accepted id = true → s.keys id ≠ "" → s.idempotency (s.keys id) = some id

section

variable {cfg : Config} {s t u : State} {pid : Nat} {role : Role} {job : Job} {key : String} {o : Op}
  {k : o.Reply → Task Outcome} {p p' : Progress} {rest : Task Outcome} {reaction : Reaction}
  {reply : o.Reply}

theorem onKey_of_publishes (h : o.publishes = false) : o.onKey = false := by
  cases o <;> first | rfl | cases h

theorem idempotency_effect (ho : o.onKey = false) :
    (s.effect cfg pid o).idempotency = s.idempotency := by
  cases o with
  | nack requeue => cases requeue <;> rfl
  | retry job level =>
    simp only [State.effect]
    split <;> rfl
  | setIdempotencyKeyNX key id => cases ho
  | releaseIdempotencyKey key => cases ho
  | _ => rfl

theorem idempotency_answer (hanswer : s.Answer cfg pid o reaction reply u) (ho : o.onKey = false) :
    u.idempotency = s.idempotency := by
  rcases hanswer.state with rfl | rfl
  · rfl
  · exact idempotency_effect ho

theorem claim_next (reply : o.Reply) (ho : o.onKey = false) : (p.next o reply).claim = p.claim :=
  congrArg Prod.fst (Progress.asked_next reply ho)

theorem owner_next (reply : o.Reply) (ho : o.onKey = false) : (p.next o reply).owner = p.owner :=
  congrArg Prod.snd (Progress.asked_next reply ho)

theorem accepted_of_sent (h : Claims s)
    (hproc : s.procs pid = some { role := .publisher job key, rest := .op o k, progress := p })
    (hallowed : job.PublishAllowed key p o) (hsame : State.SameHistory s u)
    (hsent : (p.next o reply).sent = true) :
    (u.resume pid (.publisher job key) o p (p.next o reply) rest).accepted job.id = true := by
  rw [(Progress.raised_next reply).sent, Bool.or_eq_true] at hsent
  rcases hsent with hsent | hsent
  · exact accepted_resume_of_accepted hsame (h.sent pid job key _ p hproc hsent)
  · cases o with
    | publish job' =>
      obtain ⟨rfl, -⟩ := hallowed
      simp only [State.resume, State.record, update_self, Bool.or_eq_true]
      exact .inr ((Progress.raised_next reply).sent.trans (by rw [hsent, Bool.or_true]))
    | retry job' level => exact hallowed.elim
    | deadLetter job' => exact hallowed.elim
    | _ => cases hsent

theorem Drawn.ne_of_ne {q : Nat} {job' : Job} {key' : String} {rest' : Task Outcome} (h : Drawn s)
    (hproc : s.procs pid = some { role := .publisher job key, rest := rest, progress := p })
    (hq : s.procs q = some { role := .publisher job' key', rest := rest', progress := p' })
    (hne : q ≠ pid) : job'.id ≠ job.id := by
  intro hid
  have hissued := (h.publisher pid job key _ p hproc).2.1
  have hissued' := (h.publisher q job' key' _ p' hq).2.1
  rw [hid, hissued] at hissued'
  exact hne (Option.some.inj hissued').symm

theorem Claims.exec_publisher (hregular : Regular keyRules s) (hdrawn : Drawn s) (h : Claims s)
    (hproc : s.procs pid = some { role := .publisher job key, rest := .op o k, progress := p })
    (hsame : State.SameHistory s u)
    (howned : (p.next o reply).claim = some true → u.idempotency key = some job.id)
    (hothers : ∀ key' id, s.idempotency key' = some id → id ≠ job.id → u.idempotency key' = some id)
    (hkept : s.accepted job.id = true → key ≠ "" → u.idempotency key = some job.id) :
    Claims (u.resume pid (.publisher job key) o p (p.next o reply) rest) := by
  have hallowed : job.PublishAllowed key p o := hregular.head hproc
  obtain ⟨-, -, hkey, -⟩ := hdrawn.publisher pid job key _ p hproc
  refine ⟨?_, ?_, ?_⟩
  · intro q job' key' rest' p' hq hclaim
    rcases procs_resume hsame hq with ⟨-, heq⟩ | ⟨hne, hq⟩
    · cases heq
      exact howned hclaim
    · exact hothers key' job'.id (h.owned q job' key' rest' p' hq hclaim)
        (hdrawn.ne_of_ne hproc hq hne)
  · intro q job' key' rest' p' hq hsent
    rcases procs_resume hsame hq with ⟨-, heq⟩ | ⟨hne, hq⟩
    · cases heq
      exact accepted_of_sent h hproc hallowed hsame hsent
    · exact accepted_resume_of_accepted hsame (h.sent q job' key' rest' p' hq hsent)
  · intro id hid hne
    change u.keys id ≠ "" at hne
    change u.idempotency (u.keys id) = some id
    rw [hsame.keys] at hne ⊢
    rcases hdrawn.accepted_exec keyRules_publishOnce hregular hproc hsame hid with
      hold | ⟨job', key', heq, rfl, rfl, -⟩
    · by_cases hjob : id = job.id
      · subst hjob
        rw [hkey] at hne ⊢
        exact hkept hold hne
      · exact hothers _ id (h.accepted id hold hne) hjob
    · cases heq
      rw [hkey] at hne ⊢
      exact howned ((claim_next reply rfl).trans (hallowed.2.2.resolve_left hne))

theorem claims_exec_publisher (hregular : Regular keyRules s) (hdrawn : Drawn s) (h : Claims s)
    (hproc : s.procs pid = some { role := .publisher job key, rest := .op o k, progress := p })
    (hanswer : s.Answer cfg pid o reaction reply u)
    (hhonest : (Action.exec pid reaction).honest = true) :
    Claims (u.resume pid (.publisher job key) o p (p.next o reply) rest) := by
  have hallowed : job.PublishAllowed key p o := hregular.head hproc
  obtain ⟨-, -, hkey, -, hnew⟩ := hdrawn.publisher pid job key _ p hproc
  have unqueued (hsent : p.sent = false) (haccepted : s.accepted job.id = true) (_ : key ≠ "") :
      u.idempotency key = some job.id := by
    cases (hnew hsent).symm.trans haccepted
  have frame (hidem : u.idempotency = s.idempotency)
      (hclaim : (p.next o reply).claim = some true → p.claim = some true) :
      Claims (u.resume pid (.publisher job key) o p (p.next o reply) rest) := by
    refine h.exec_publisher hregular hdrawn hproc hanswer.sameHistory ?_ ?_ ?_
    · intro hclaim'
      rw [hidem]
      exact h.owned pid job key _ p hproc (hclaim hclaim')
    · intro key' id hid _
      rw [hidem]
      exact hid
    · intro haccepted hne
      rw [hidem, ← hkey]
      exact h.accepted job.id haccepted (by rwa [hkey])
  cases hop : o.onKey with
  | false => exact frame (idempotency_answer hanswer hop) fun h => (claim_next reply hop).symm.trans h
  | true =>
    cases o with
    | setIdempotencyKeyNX key' id =>
      obtain ⟨rfl, rfl, -, hsent, -⟩ := hallowed
      cases hanswer with
      | failed herror =>
        cases herror
        exact frame rfl id
      | lost => cases hhonest
      | done hreply =>
        cases hreply
        refine h.exec_publisher hregular hdrawn hproc State.sameHistory_effect ?_ ?_ (unqueued hsent)
        · intro hclaim
          have hfree : s.idempotency key' = none := Option.isNone_iff_eq_none.mp (Option.some.inj hclaim)
          simp [State.effect, hfree]
        · intro key'' id hid _
          simp only [State.effect, update_apply]
          split
          · rename_i heq
            rw [← heq, hid]
            rfl
          · exact hid
    | getIdempotencyKey key' =>
      refine frame ?_ ?_
      · rcases hanswer.state with rfl | rfl <;> rfl
      · cases reply <;> exact id
    | releaseIdempotencyKey key' =>
      obtain ⟨rfl, hclaim, hsent, -⟩ := hallowed
      refine h.exec_publisher hregular hdrawn hproc hanswer.sameHistory ?_ ?_ (unqueued hsent)
      · intro hclaimed
        cases hclaimed
      · intro key'' id hid hne
        have howned := h.owned pid job key' _ p hproc hclaim
        have hother : key'' ≠ key' := by
          rintro rfl
          exact hne (Option.some.inj (hid.symm.trans howned))
        rcases hanswer.state with rfl | rfl
        · exact hid
        · exact (update_of_ne hother ..).trans hid
    | _ => cases hop

theorem claims_exec_worker {message : Message} (hregular : Regular keyRules s) (hdrawn : Drawn s)
    (h : Claims s)
    (hproc : s.procs pid = some { role := .worker message, rest := .op o k, progress := p })
    (hanswer : s.Answer cfg pid o reaction reply u) :
    Claims (u.resume pid (.worker message) o p (p.next o reply) rest) := by
  have hop := onKey_of_publishes (hregular.head hproc)
  have hsame := hanswer.sameHistory
  refine ⟨?_, ?_, ?_⟩
  · intro q job key rest p' hq hclaim
    rcases procs_resume hsame hq with ⟨-, heq⟩ | ⟨-, hq⟩
    · cases heq
    · exact (congrFun (idempotency_answer hanswer hop) key).trans (h.owned q job key rest p' hq hclaim)
  · intro q job key rest p' hq hsent
    rcases procs_resume hsame hq with ⟨-, heq⟩ | ⟨-, hq⟩
    · cases heq
    · exact accepted_resume_of_accepted hsame (h.sent q job key rest p' hq hsent)
  · intro id hid hne
    change u.keys id ≠ "" at hne
    change u.idempotency (u.keys id) = some id
    rw [hsame.keys] at hne ⊢
    rw [idempotency_answer hanswer hop]
    rcases hdrawn.accepted_exec keyRules_publishOnce hregular hproc hsame hid with
      hold | ⟨job, key, heq, -⟩
    · exact h.accepted id hold hne
    · cases heq

theorem claims_publish {payload : Option Json} {id : String} {program : Task Outcome} (hdrawn : Drawn s)
    (h : Claims s) (hissued : s.issued id = none) :
    Claims { s.spawn (.publisher (Service.newJob id payload) key) program with
      issued := update s.issued id (some s.next)
      keys := update s.keys id key } where
  owned q job key' rest p hq hclaim := by
    rcases procs_spawn hq with ⟨-, heq⟩ | ⟨-, hq⟩
    · cases heq
      cases hclaim
    · exact h.owned q job key' rest p hq hclaim
  sent q job key' rest p hq hsent := by
    rcases procs_spawn hq with ⟨-, heq⟩ | ⟨-, hq⟩
    · cases heq
      cases hsent
    · exact h.sent q job key' rest p hq hsent
  accepted id' hid hne := by
    have hother : id' ≠ id := by
      rintro rfl
      have := (hdrawn.accepted id' hid).2
      rw [hissued] at this
      cases this
    simp only [update_of_ne hother] at hne ⊢
    exact h.accepted id' hid hne

theorem claims_step {a : Action} (hregular : Regular keyRules s) (hdrawn : Drawn s) (h : Claims s)
    (hhonest : a.honest = true) (hstep : step cfg s a = some t) : Claims t := by
  cases step_cases hstep with
  | publish _ hissued => exact claims_publish hdrawn h hissued
  | inject => exact ⟨h.owned, h.sent, h.accepted⟩
  | deliver =>
    refine ⟨fun q job key rest p hq => ?_, fun q job key rest p hq => ?_, h.accepted⟩
    · rcases procs_spawn hq with ⟨-, heq⟩ | ⟨-, hq⟩
      · cases heq
      · exact h.owned q job key rest p hq
    · rcases procs_spawn hq with ⟨-, heq⟩ | ⟨-, hq⟩
      · cases heq
      · exact h.sent q job key rest p hq
  | @exec pid role p _ _ _ _ _ hproc hanswer =>
    cases role with
    | worker message => exact claims_exec_worker hregular hdrawn h hproc hanswer
    | publisher job key => exact claims_exec_publisher hregular hdrawn h hproc hanswer hhonest
  | crash =>
    exact ⟨fun q job key rest p hq => h.owned q job key rest p (procs_crash hq).2,
      fun q job key rest p hq => h.sent q job key rest p (procs_crash hq).2, h.accepted⟩
  | redeliver => exact ⟨h.owned, h.sent, h.accepted⟩
  | expireRetry => exact ⟨h.owned, h.sent, h.accepted⟩
  | expireLock => exact ⟨h.owned, h.sent, h.accepted⟩

theorem claims_start : Claims {} where
  owned _ _ _ _ _ h := by cases h
  sent _ _ _ _ _ h := by cases h
  accepted _ h := by cases h

end

structure Keyed (s : State) : Prop where
  regular : Regular keyRules s
  drawn : Drawn s
  claims : Claims s

theorem Keyed.start : Keyed {} := ⟨.start, drawn_start, claims_start⟩

theorem Keyed.step {cfg : Config} {s t : State} {a : Action} (hcfg : cfg.Follows keyRules)
    (h : Keyed s) (hhonest : a.honest = true) (hstep : Jobs.step cfg s a = some t) : Keyed t where
  regular := h.regular.step hcfg hstep
  drawn := drawn_step keyRules_publishOnce h.regular h.drawn hstep
  claims := claims_step h.regular h.drawn h.claims hhonest hstep

theorem Keyed.returned {s : State} {pid : Nat} {result : PublishResult} (h : Keyed s)
    (hresult : s.returned pid = some result) :
    ∃ job key p, job.Returned p result ∧
      s.procs pid =
        some { role := .publisher job key, rest := .ret (.returned result), progress := p } := by
  unfold State.returned at hresult
  split at hresult
  · rename_i job key result p hproc
    cases hresult
    exact ⟨job, key, p, (h.regular.obeys pid _ hproc).2, hproc⟩
  · cases hresult

theorem one_job_per_key (stack : Stack) (retryQueues : Nat) (s : State)
    (h : Reach (step (stack.config retryQueues)) (fun _ a => a.honest = true) {} s) :
    (∀ id id', s.accepted id = true → s.accepted id' = true → s.keys id ≠ "" →
      s.keys id = s.keys id' → id = id') ∧
    ∀ pid owner, s.returned pid = some (.ok (owner, false)) →
      ∃ id, owner = some id ∧ s.issued id = some pid ∧ s.accepted id = true := by
  have hkeyed : Keyed s := h.invariant .start fun _ _ _ hkeyed hhonest hstep =>
    hkeyed.step (stack.config_follows_keyRules retryQueues) hhonest hstep
  constructor
  · intro id id' hid hid' hne heq
    have hclaim := hkeyed.claims.accepted id hid hne
    have hclaim' := hkeyed.claims.accepted id' hid' (heq ▸ hne)
    rw [← heq, hclaim] at hclaim'
    exact Option.some.inj hclaim'
  · intro pid owner hresult
    obtain ⟨job, key, p, hreturned, hproc⟩ := hkeyed.returned hresult
    obtain ⟨rfl, hsent⟩ := hreturned.new owner rfl
    exact ⟨job.id, rfl, (hkeyed.drawn.publisher pid job key _ p hproc).2.1,
      hkeyed.claims.sent pid job key _ p hproc hsent⟩

namespace Sample

def publishesNew (pid : Nat) : List Action :=
  [.exec pid .done, .exec pid (.time 0), .exec pid .done, .exec pid .done]

def publishFails (pid : Nat) : List Action :=
  [.exec pid .done, .exec pid (.time 0), .exec pid .done, .exec pid (.failed "closed"),
    .exec pid .done, .exec pid .done]

end Sample

theorem one_job_per_key_sample :
    ∃ s, Reach (step ((Stack.adkGo Sample.service).config 2)) (fun _ a => a.honest = true) {} s ∧
      s.returned 2 = some (.ok (some "b", true)) ∧ s.accepted "b" = true ∧ s.keys "b" = "k" ∧
      ∀ id, s.accepted id = true → s.keys id = "k" → id = "b" := by
  obtain ⟨s, hs, hrun⟩ := reach_of_any (step ((Stack.adkGo Sample.service).config 2))
    (fun _ a => a.honest = true) {}
    ([.publish "a" (some Sample.payload) "k", .publish "b" (some Sample.payload) "k", .exec 0 .done] ++
      Sample.publishFails 0 ++ [.exec 1 .done, .publish "c" (some Sample.payload) "k", .exec 2 .done] ++
      Sample.publishesNew 1 ++ [.exec 2 .done])
    (fun s => decide (s.returned 2 = some (.ok (some "b", true))) && s.accepted "b" &&
      decide (s.keys "b" = "k")) (by decide +kernel)
  simp only [Bool.and_eq_true, decide_eq_true_eq] at hrun
  obtain ⟨⟨hresult, hb⟩, hkey⟩ := hrun
  refine ⟨s, hs, hresult, hb, hkey, fun id hid hk => ?_⟩
  have hne : s.keys id ≠ "" := by
    rw [hk]
    decide
  exact (one_job_per_key (.adkGo Sample.service) 2 s hs).1 id "b" hid hb hne (hk.trans hkey.symm)

namespace State

def claiming (s : State) (pid : Nat) : Bool :=
  match s.procs pid with
  | some proc => proc.progress.claim = some true && !proc.progress.sent
  | none => false

/-- Failed operations have no effect; a call that owns its key queues its job without
a failure or a crash. -/
def steady (s : State) : Action → Bool
  | .exec _ (.lost _) => false
  | .exec pid (.failed _) => !s.claiming pid
  | .crash pid => !s.claiming pid
  | _ => true

def Backed (s : State) (id : String) : Prop :=
  s.accepted id = true ∨ ∃ pid job key rest p,
    s.procs pid = some { role := .publisher job key, rest := rest, progress := p } ∧
      job.id = id ∧ p.claim = some true ∧ p.sent = false ∧ ¬ p.Faulty

theorem honest_of_steady {s : State} {a : Action} (h : s.steady a = true) : a.honest = true := by
  cases a with
  | exec pid reaction => cases reaction <;> first | rfl | cases h
  | _ => rfl

theorem claiming_of_procs {s : State} {pid : Nat} {role : Role} {rest : Task Outcome} {p : Progress}
    (hproc : s.procs pid = some { role := role, rest := rest, progress := p })
    (hclaim : p.claim = some true) (hsent : p.sent = false) : s.claiming pid = true := by
  simp [claiming, hproc, hclaim, hsent]

end State

/-- Every claim in the store and every owner that was read stands for a job that is
or will be queued, and a key that was refused stays taken. -/
structure Backing (s : State) : Prop where
  stored : ∀ key id, s.idempotency key = some id → s.Backed id
  refused : ∀ pid job key rest p,
    s.procs pid = some { role := .publisher job key, rest := rest, progress := p } →
    p.claim = some false → (s.idempotency key).isSome = true
  read : ∀ pid job key rest p owner,
    s.procs pid = some { role := .publisher job key, rest := rest, progress := p } →
    p.owner = some owner → ∃ id, owner = some id ∧ s.Backed id

section

variable {cfg : Config} {s t u : State} {pid : Nat} {role : Role} {job : Job} {key : String} {o : Op}
  {k : o.Reply → Task Outcome} {p : Progress} {rest : Task Outcome} {reaction : Reaction}
  {reply : o.Reply}

theorem claiming_next (hallowed : job.PublishAllowed key p o)
    (hanswer : s.Answer cfg pid o reaction reply u) (hsteady : s.steady (.exec pid reaction) = true)
    (hclaiming : s.claiming pid = true) (hclaim : p.claim = some true) (hsent : p.sent = false)
    (hfaulty : ¬ p.Faulty) :
    o = .publish job ∧ (p.next o reply).sent = true ∨
      (p.next o reply).claim = some true ∧ (p.next o reply).sent = false ∧
        ¬ (p.next o reply).Faulty := by
  cases hanswer with
  | failed =>
    simp only [State.steady, hclaiming] at hsteady
    cases hsteady
  | lost => cases hsteady
  | events => exact hallowed.elim
  | result => exact hallowed.elim
  | time ms => exact .inr ⟨hclaim, hsent, hfaulty⟩
  | done hreply =>
    cases o with
    | publish job' =>
      cases hreply
      obtain ⟨rfl, -⟩ := hallowed
      exact .inl ⟨rfl, rfl⟩
    | setJobStatus id status =>
      cases hreply
      cases status <;> exact .inr ⟨hclaim, hsent, hfaulty⟩
    | markJobTiming id field ms =>
      cases hreply
      exact .inr ⟨hclaim, hsent, hfaulty⟩
    | now => cases hreply
    | setIdempotencyKeyNX key' id => cases hclaim.symm.trans hallowed.2.2.1
    | getIdempotencyKey key' => cases hclaim.symm.trans hallowed.2
    | releaseIdempotencyKey key' => exact absurd hallowed.2.2.2 hfaulty
    | _ => exact hallowed.elim

theorem backed_exec {id : String} (hregular : Regular keyRules s)
    (hproc : s.procs pid = some { role := role, rest := .op o k, progress := p })
    (hanswer : s.Answer cfg pid o reaction reply u) (hsteady : s.steady (.exec pid reaction) = true)
    (h : s.Backed id) : (u.resume pid role o p (p.next o reply) rest).Backed id := by
  have hsame := hanswer.sameHistory
  rcases h with h | ⟨q, job, key, rest', p', hq, rfl, hclaim, hsent, hfaulty⟩
  · exact .inl (accepted_resume_of_accepted hsame h)
  · by_cases hqp : q = pid
    · subst hqp
      rw [hproc] at hq
      cases hq
      have hclaiming := State.claiming_of_procs hproc hclaim hsent
      rcases claiming_next (hregular.head hproc) hanswer hsteady hclaiming hclaim hsent hfaulty with
        ⟨rfl, hsent⟩ | ⟨hclaim, hsent, hfaulty⟩
      · left
        simp only [State.resume, State.record, update_self, hsent, Bool.or_true]
      · exact .inr ⟨q, job, key, rest, _, procs_resume_self, rfl, hclaim, hsent, hfaulty⟩
    · exact .inr ⟨q, job, key, rest', p', (procs_resume_of_ne hsame hqp).trans hq, rfl, hclaim, hsent,
        hfaulty⟩

theorem not_faulty (hkeyed : Keyed s) (h : Backing s)
    (hproc : s.procs pid = some { role := .publisher job key, rest := rest, progress := p })
    (hclaim : p.claim = some true) (hsent : p.sent = false) : ¬ p.Faulty := by
  rcases h.stored key job.id (hkeyed.claims.owned pid job key _ p hproc hclaim) with
    haccepted | ⟨q, job', key', rest', p', hq, hid, -, -, hfaulty⟩
  · cases ((hkeyed.drawn.publisher pid job key _ p hproc).2.2.2.2 hsent).symm.trans haccepted
  · by_cases hqp : q = pid
    · subst hqp
      rw [hproc] at hq
      cases hq
      exact hfaulty
    · exact absurd hid (hkeyed.drawn.ne_of_ne hproc hq hqp)

theorem Backing.exec (hkeyed : Keyed s) (h : Backing s)
    (hproc : s.procs pid = some { role := role, rest := .op o k, progress := p })
    (hanswer : s.Answer cfg pid o reaction reply u) (hsteady : s.steady (.exec pid reaction) = true)
    (hstored : ∀ key id, u.idempotency key = some id → s.idempotency key = some id ∨
      (u.resume pid role o p (p.next o reply) rest).Backed id)
    (htaken : ∀ key, (s.idempotency key).isSome = true → (u.idempotency key).isSome = true)
    (hrefused : ∀ job key, role = .publisher job key → (p.next o reply).claim = some false →
      p.claim = some false ∨ (s.idempotency key).isSome = true)
    (hread : ∀ job key owner, role = .publisher job key → (p.next o reply).owner = some owner →
      p.owner = some owner ∨ s.idempotency key = owner ∧ p.claim = some false) :
    Backing (u.resume pid role o p (p.next o reply) rest) := by
  have hsame := hanswer.sameHistory
  have stays {id : String} (hid : s.Backed id) :
      (u.resume pid role o p (p.next o reply) rest).Backed id :=
    backed_exec hkeyed.regular hproc hanswer hsteady hid
  refine ⟨?_, ?_, ?_⟩
  · intro key id hid
    rcases hstored key id hid with hold | hnew
    · exact stays (h.stored key id hold)
    · exact hnew
  · intro q job key rest' p' hq hclaim
    apply htaken
    rcases procs_resume hsame hq with ⟨-, heq⟩ | ⟨-, hq⟩
    · cases heq
      rcases hrefused job key rfl hclaim with hold | hnew
      · exact h.refused pid job key _ p hproc hold
      · exact hnew
    · exact h.refused q job key rest' p' hq hclaim
  · intro q job key rest' p' owner hq howner
    rcases procs_resume hsame hq with ⟨-, heq⟩ | ⟨-, hq⟩
    · cases heq
      rcases hread job key owner rfl howner with hold | ⟨hstored, hclaim⟩
      · obtain ⟨id, rfl, hid⟩ := h.read pid job key _ p owner hproc hold
        exact ⟨id, rfl, stays hid⟩
      · obtain ⟨id, hid⟩ := Option.isSome_iff_exists.mp (h.refused pid job key _ p hproc hclaim)
        exact ⟨id, hstored.symm.trans hid, stays (h.stored key id hid)⟩
    · obtain ⟨id, rfl, hid⟩ := h.read q job key rest' p' owner hq howner
      exact ⟨id, rfl, stays hid⟩

theorem backing_exec (hkeyed : Keyed s) (h : Backing s)
    (hproc : s.procs pid = some { role := role, rest := .op o k, progress := p })
    (hanswer : s.Answer cfg pid o reaction reply u) (hsteady : s.steady (.exec pid reaction) = true) :
    Backing (u.resume pid role o p (p.next o reply) rest) := by
  have hallowed := hkeyed.regular.head hproc
  have frame (hidem : u.idempotency = s.idempotency) := fun hrefused hread =>
    (h.exec hkeyed hproc hanswer hsteady (fun key id hid => .inl (by rwa [hidem] at hid))
      (fun key hkey => by rwa [hidem]) hrefused hread :
      Backing (u.resume pid role o p (p.next o reply) rest))
  cases hop : o.onKey with
  | false =>
    refine frame (idempotency_answer hanswer hop) ?_ ?_
    · intro job key _ hclaim
      exact .inl ((claim_next reply hop).symm.trans hclaim)
    · intro job key owner _ howner
      exact .inl ((owner_next reply hop).symm.trans howner)
  | true =>
    match role, hallowed with
    | .worker message, hallowed => cases hop.symm.trans (onKey_of_publishes hallowed)
    | .publisher job key, hallowed =>
      cases o with
      | setIdempotencyKeyNX key' id =>
        obtain ⟨rfl, rfl, hclaim, hsent, hfaulty⟩ := hallowed
        cases hanswer with
        | failed herror =>
          cases herror
          exact frame rfl (fun _ _ _ => .inl) (fun _ _ _ _ => .inl)
        | lost => cases hsteady
        | done hreply =>
          cases hreply
          refine h.exec hkeyed hproc (.done rfl) hsteady ?_ ?_ ?_ ?_
          · intro key id hid
            simp only [State.effect, update_apply] at hid
            split at hid
            · rename_i heq
              subst heq
              cases hfree : s.idempotency key with
              | some id' =>
                rw [hfree] at hid
                exact .inl hid
              | none =>
                rw [hfree] at hid
                cases hid
                exact .inr (.inr ⟨pid, job, key, rest, _, procs_resume_self, rfl, rfl, hsent, hfaulty⟩)
            · exact .inl hid
          · intro key hkey
            simp only [State.effect, update_apply]
            split
            · rename_i heq
              subst heq
              obtain ⟨id, hid⟩ := Option.isSome_iff_exists.mp hkey
              rw [hid]
              rfl
            · exact hkey
          · rintro _ _ ⟨⟩ hrefused
            have htaken : (s.idempotency key').isNone = false := Option.some.inj hrefused
            exact .inr (by simpa using htaken)
          · rintro _ _ _ - howner
            exact .inl howner
      | getIdempotencyKey key' =>
        obtain ⟨rfl, hclaim⟩ := hallowed
        cases hanswer with
        | failed herror =>
          cases herror
          exact frame rfl (fun _ _ _ => .inl) (fun _ _ _ _ => .inl)
        | lost => cases hsteady
        | done hreply =>
          cases hreply
          refine frame rfl (fun _ _ _ => .inl) ?_
          rintro _ _ owner ⟨⟩ howner
          exact .inr ⟨Option.some.inj howner, hclaim⟩
      | releaseIdempotencyKey key' =>
        obtain ⟨-, hclaim, hsent, hfaulty⟩ := hallowed
        exact absurd hfaulty (not_faulty hkeyed h hproc hclaim hsent)
      | _ => cases hop

theorem backed_of_procs {id : String} (haccepted : s.accepted id = true → t.accepted id = true)
    (hprocs : ∀ pid proc, s.procs pid = some proc → s.claiming pid = true →
      t.procs pid = some proc) (h : s.Backed id) : t.Backed id := by
  rcases h with h | ⟨pid, job, key, rest, p, hproc, rfl, hclaim, hsent, hfaulty⟩
  · exact .inl (haccepted h)
  · exact .inr ⟨pid, job, key, rest, p,
      hprocs pid _ hproc (State.claiming_of_procs hproc hclaim hsent), rfl, hclaim, hsent, hfaulty⟩

theorem Backing.frame (h : Backing s) (hidem : t.idempotency = s.idempotency)
    (haccepted : t.accepted = s.accepted)
    (hkept : ∀ pid proc, s.procs pid = some proc → s.claiming pid = true → t.procs pid = some proc)
    (hprocs : ∀ pid proc, t.procs pid = some proc →
      s.procs pid = some proc ∨ proc.progress = {}) : Backing t := by
  have stays {id : String} (hid : s.Backed id) : t.Backed id :=
    backed_of_procs (fun h => by rwa [haccepted]) hkept hid
  refine ⟨?_, ?_, ?_⟩
  · intro key id hid
    rw [hidem] at hid
    exact stays (h.stored key id hid)
  · intro pid job key rest p hproc hclaim
    rw [hidem]
    rcases hprocs pid _ hproc with hold | rfl
    · exact h.refused pid job key rest p hold hclaim
    · cases hclaim
  · intro pid job key rest p owner hproc howner
    rcases hprocs pid _ hproc with hold | rfl
    · obtain ⟨id, rfl, hid⟩ := h.read pid job key rest p owner hold howner
      exact ⟨id, rfl, stays hid⟩
    · cases howner

theorem backing_step {a : Action} (hkeyed : Keyed s) (h : Backing s) (hsteady : s.steady a = true)
    (hstep : step cfg s a = some t) : Backing t := by
  have kept {pid : Nat} {proc : Proc} (hproc : s.procs pid = some proc) {role : Role}
      {program : Task Outcome} : (s.spawn role program).procs pid = some proc :=
    (procs_spawn_of_ne (hkeyed.regular.ne_next hproc)).trans hproc
  have spawned {pid : Nat} {proc : Proc} {role : Role} {program : Task Outcome}
      (hproc : (s.spawn role program).procs pid = some proc) :
      s.procs pid = some proc ∨ proc.progress = {} := by
    rcases procs_spawn hproc with ⟨-, rfl⟩ | ⟨-, hold⟩
    · exact .inr rfl
    · exact .inl hold
  cases step_cases hstep with
  | publish => exact h.frame rfl rfl (fun _ _ hproc _ => kept hproc) (fun _ _ => spawned)
  | inject => exact h.frame rfl rfl (fun _ _ hproc _ => hproc) (fun _ _ => .inl)
  | deliver => exact h.frame rfl rfl (fun _ _ hproc _ => kept hproc) (fun _ _ => spawned)
  | exec hproc hanswer => exact backing_exec hkeyed h hproc hanswer hsteady
  | @crash pid =>
    refine h.frame rfl rfl ?_ fun _ _ hproc => .inl (procs_crash hproc).2
    intro q proc hproc hclaiming
    have hne : q ≠ pid := by
      rintro rfl
      simp only [State.steady, hclaiming] at hsteady
      cases hsteady
    exact (update_of_ne hne ..).trans hproc
  | redeliver => exact h.frame rfl rfl (fun _ _ hproc _ => hproc) (fun _ _ => .inl)
  | expireRetry => exact h.frame rfl rfl (fun _ _ hproc _ => hproc) (fun _ _ => .inl)
  | expireLock => exact h.frame rfl rfl (fun _ _ hproc _ => hproc) (fun _ _ => .inl)

theorem backing_start : Backing {} where
  stored _ _ h := by cases h
  refused _ _ _ _ _ h := by cases h
  read _ _ _ _ _ _ h := by cases h

end

theorem duplicate_names_job (stack : Stack) (retryQueues : Nat) (s : State)
    (h : Reach (step (stack.config retryQueues)) (fun s a => s.steady a = true) {} s) (pid : Nat)
    (owner : Option String) (hresult : s.returned pid = some (.ok (owner, true))) :
    ∃ id call, owner = some id ∧ s.issued id = some call ∧
      (s.running call = false → s.accepted id = true) := by
  have hinv : Keyed s ∧ Backing s :=
    h.invariant (I := fun s => Keyed s ∧ Backing s) ⟨.start, backing_start⟩
      fun _ _ _ hinv hsteady hstep =>
        ⟨hinv.1.step (stack.config_follows_keyRules retryQueues) (State.honest_of_steady hsteady) hstep,
          backing_step hinv.1 hinv.2 hsteady hstep⟩
  obtain ⟨hkeyed, hbacking⟩ := hinv
  obtain ⟨job, key, p, hreturned, hproc⟩ := hkeyed.returned hresult
  obtain ⟨id, rfl, hid⟩ := hbacking.read pid job key _ p owner hproc (hreturned.duplicate owner rfl)
  rcases hid with hid | ⟨call, job', key', rest, p', hcall, rfl, hclaim, hsent, -⟩
  · obtain ⟨call, hcall⟩ := Option.isSome_iff_exists.mp (hkeyed.drawn.accepted id hid).2
    exact ⟨id, call, rfl, hcall, fun _ => hid⟩
  · refine ⟨job'.id, call, rfl, (hkeyed.drawn.publisher call job' key' _ p' hcall).2.1, ?_⟩
    intro hended
    cases rest with
    | op o k => simp [State.running, State.nextOp, hcall] at hended
    | ret a =>
      have hended := hkeyed.regular.obeys call _ hcall
      cases a with
      | processed => exact hended.elim
      | returned result => cases hsent.symm.trans (hended.2.claim hclaim)

theorem duplicate_names_job_sample :
    ∃ s, Reach (step ((Stack.adkGo Sample.service).config 2)) (fun s a => s.steady a = true) {} s ∧
      s.returned 1 = some (.ok (some "a", true)) ∧ ∃ id call, some "a" = some id ∧
        s.issued id = some call ∧ (s.running call = false → s.accepted id = true) := by
  obtain ⟨s, hs, hrun⟩ := reach_of_any (step ((Stack.adkGo Sample.service).config 2))
    (fun s a => s.steady a = true) {}
    ([.publish "a" (some Sample.payload) "k", .publish "b" (some Sample.payload) "k",
      .exec 0 .done, .exec 1 .done, .exec 1 .done] ++ Sample.publishesNew 0)
    (fun s => decide (s.returned 1 = some (.ok (some "a", true)))) (by decide +kernel)
  have hresult := of_decide_eq_true hrun
  exact ⟨s, hs, hresult, duplicate_names_job (.adkGo Sample.service) 2 s hs 1 _ hresult⟩

/-- The first call claims the key and its publish fails.  In Go, the second call reads
the claim before it is released; in Python, after that. -/
theorem duplicate_names_failed_job :
    (∃ s, Reach (step ((Stack.adkGo Sample.service).config 2)) (fun _ a => a.honest = true) {} s ∧
      s.running 0 = false ∧ s.returned 0 = some (.error "publish job: closed") ∧
      s.accepted "a" = false ∧ s.returned 1 = some (.ok (some "a", true))) ∧
    ∃ s, Reach (step ((Stack.langgraphPython {}).config 2)) (fun _ a => a.honest = true) {} s ∧
      s.running 0 = false ∧ s.returned 0 = some (.error "publish job: closed") ∧
      s.accepted "a" = false ∧ s.returned 1 = some (.ok (none, true)) := by
  constructor
  · obtain ⟨s, hs, hrun⟩ := reach_of_any (step ((Stack.adkGo Sample.service).config 2))
      (fun _ a => a.honest = true) {}
      ([.publish "a" (some Sample.payload) "k", .publish "b" (some Sample.payload) "k",
        .exec 0 .done, .exec 1 .done, .exec 1 .done] ++ Sample.publishFails 0)
      (fun s => !s.running 0 && decide (s.returned 0 = some (.error "publish job: closed")) &&
        !s.accepted "a" && decide (s.returned 1 = some (.ok (some "a", true)))) (by decide +kernel)
    simp only [Bool.and_eq_true, Bool.not_eq_true', decide_eq_true_eq] at hrun
    exact ⟨s, hs, hrun.1.1.1, hrun.1.1.2, hrun.1.2, hrun.2⟩
  · obtain ⟨s, hs, hrun⟩ := reach_of_any (step ((Stack.langgraphPython {}).config 2))
      (fun _ a => a.honest = true) {}
      ([.publish "a" (some Sample.payload) "k", .publish "b" (some Sample.payload) "k",
        .exec 0 .done, .exec 1 .done] ++ Sample.publishFails 0 ++ [.exec 1 .done])
      (fun s => !s.running 0 && decide (s.returned 0 = some (.error "publish job: closed")) &&
        !s.accepted "a" && decide (s.returned 1 = some (.ok (none, true)))) (by decide +kernel)
    simp only [Bool.and_eq_true, Bool.not_eq_true', decide_eq_true_eq] at hrun
    exact ⟨s, hs, hrun.1.1.1, hrun.1.1.2, hrun.1.2, hrun.2⟩

end AgentsAtScale.Jobs
