import AgentsAtScale.Jobs.Footprint
import AgentsAtScale.Jobs.SystemLaws

namespace AgentsAtScale.Jobs

open Program Function Transition

def keyRules : Rules where
  allowed
    | .worker _, _, o => o.publishes = false
    | .publisher job key, p, o => job.PublishAllowed key p o
  ended
    | .worker _, _, _ => True
    | .publisher job key, p, a => (Role.publisher job key).Ended p a

theorem obeys_keyRules {s : Service} {role : Role} {t : Task Outcome} {p : Progress}
    (h : Obeys s.rules role t p) : Obeys keyRules role t p := by
  apply h.mono
  · intro p o hallowed
    rcases role.allowed_cases hallowed with rfl | ⟨job, rfl, -, hjob⟩ | ⟨job, key, rfl, hjob⟩
    · cases role with
      | worker message => rfl
      | publisher job key => exact hallowed
    · cases o <;> first | rfl | exact hjob.elim
    · exact hjob
  · intro p a hended
    cases role with
    | worker message => trivial
    | publisher job key => exact hended

def Rules.PublishOnce (rules : Rules) : Prop :=
  ∀ role p job, rules.allowed role p (.publish job) →
    (∃ key, role = .publisher job key) ∧ p.sent = false

/-- Every publisher has drawn the id of its job, and a job is accepted only through
its publisher. -/
structure Drawn (s : State) : Prop where
  publisher : ∀ pid job key rest p,
    s.procs pid = some { role := .publisher job key, rest := rest, progress := p } →
    isBlank job.id = false ∧ s.issued job.id = some pid ∧ s.keys job.id = key ∧
      job.attempt = 0 ∧ (p.sent = false → s.accepted job.id = false)
  accepted : ∀ id, s.accepted id = true → isBlank id = false ∧ (s.issued id).isSome = true

section

variable {cfg : Config} {rules : Rules} {s t u : State} {pid : Nat} {id : String} {role : Role}
  {o : Op} {k : o.Reply → Task Outcome} {p p' : Progress} {reaction : Reaction} {reply : o.Reply}
  {rest : Task Outcome}

theorem Service.publishOnce (svc : Service) : svc.rules.PublishOnce := by
  intro role p job h
  rcases role.allowed_cases h with hnack | ⟨job', rfl, -, hjob⟩ | ⟨job', key, rfl, hjob⟩
  · cases hnack
  · exact hjob.elim
  · obtain ⟨rfl, hopen, -⟩ := hjob
    exact ⟨⟨key, rfl⟩, hopen.sent⟩

theorem keyRules_publishOnce : keyRules.PublishOnce := by
  intro role p job h
  match role, h with
  | .publisher job' key, h =>
    obtain ⟨rfl, hopen, -⟩ := h
    exact ⟨⟨key, rfl⟩, hopen.sent⟩

theorem accepted_resume (hsame : State.SameHistory s u)
    (h : (u.resume pid role o p p' rest).accepted id = true) :
    s.accepted id = true ∨ ∃ job, o = .publish job ∧ job.id = id ∧ p'.sent = true := by
  cases o with
  | publish job =>
    simp only [State.resume, State.record, hsame.accepted, update_apply] at h
    split at h
    · rename_i hid
      subst hid
      rcases Bool.or_eq_true_iff.mp h with h | h
      · exact .inl h
      · exact .inr ⟨job, rfl, rfl, h⟩
    · exact .inl h
  | _ => exact .inl (by rwa [← hsame.accepted])

theorem accepted_resume_of_accepted (hsame : State.SameHistory s u) (h : s.accepted id = true) :
    (u.resume pid role o p p' rest).accepted id = true := by
  cases o with
  | publish job =>
    simp only [State.resume, State.record, hsame.accepted, update_apply]
    split
    · rename_i hid
      rw [← hid, h]
      rfl
    · exact h
  | _ => exact (congrFun hsame.accepted id).trans h

theorem Drawn.accepted_exec (honce : rules.PublishOnce) (hregular : Regular rules s) (h : Drawn s)
    (hproc : s.procs pid = some { role := role, rest := .op o k, progress := p })
    (hsame : State.SameHistory s u)
    (hid : (u.resume pid role o p (p.next o reply) rest).accepted id = true) :
    s.accepted id = true ∨ ∃ job key, role = .publisher job key ∧ o = .publish job ∧ job.id = id ∧
      (p.next o reply).sent = true ∧ p.sent = false ∧ isBlank id = false ∧ s.issued id = some pid := by
  rcases accepted_resume hsame hid with hid | ⟨job, rfl, rfl, hsent⟩
  · exact .inl hid
  · obtain ⟨⟨key, rfl⟩, hnew⟩ := honce _ _ _ (hregular.head hproc)
    obtain ⟨hblank, hissued, -⟩ := h.publisher pid job key _ _ hproc
    exact .inr ⟨job, key, rfl, rfl, rfl, hsent, hnew, hblank, hissued⟩

theorem drawn_exec (honce : rules.PublishOnce) (hregular : Regular rules s) (h : Drawn s)
    (hproc : s.procs pid = some { role := role, rest := .op o k, progress := p })
    (hanswer : s.Answer cfg pid o reaction reply u) :
    Drawn (u.resume pid role o p (p.next o reply) (k reply)) where
  publisher q job key rest p' hq := by
    have hsame := hanswer.sameHistory
    have hraised := Progress.raised_next (p := p) reply
    change isBlank job.id = false ∧ u.issued job.id = some q ∧ u.keys job.id = key ∧ _
    rw [hsame.issued, hsame.keys]
    rcases procs_resume hsame hq with ⟨rfl, heq⟩ | ⟨hqp, hq⟩
    · cases heq
      obtain ⟨hblank, hissued, hkey, hattempt, hnew⟩ := h.publisher q job key _ p hproc
      refine ⟨hblank, hissued, hkey, hattempt, fun hsent => ?_⟩
      rw [hraised.sent, Bool.or_eq_false_iff] at hsent
      by_contra haccepted
      rcases accepted_resume hsame (eq_true_of_ne_false haccepted) with hold | ⟨_, rfl, -, hsent'⟩
      · cases (hnew hsent.1).symm.trans hold
      · rw [hraised.sent, hsent.1, hsent.2] at hsent'
        cases hsent'
    · obtain ⟨hblank, hissued, hkey, hattempt, hnew⟩ := h.publisher q job key rest p' hq
      refine ⟨hblank, hissued, hkey, hattempt, fun hsent => ?_⟩
      by_contra haccepted
      rcases h.accepted_exec honce hregular hproc hsame (eq_true_of_ne_false haccepted) with
        hold | ⟨_, _, -, -, -, -, -, -, hissued'⟩
      · cases (hnew hsent).symm.trans hold
      · exact hqp (Option.some.inj (hissued.symm.trans hissued'))
  accepted id hid := by
    have hsame := hanswer.sameHistory
    change isBlank id = false ∧ (u.issued id).isSome = true
    rw [hsame.issued]
    rcases h.accepted_exec honce hregular hproc hsame hid with
      hold | ⟨_, _, -, -, -, -, -, hblank, hissued⟩
    · exact h.accepted id hold
    · exact ⟨hblank, by rw [hissued]; rfl⟩

theorem drawn_publish {payload : Option Json} {key : String} {program : Task Outcome} (h : Drawn s)
    (hblank : isBlank id = false) (hissued : s.issued id = none) :
    Drawn { s.spawn (.publisher (Service.newJob id payload) key) program with
      issued := update s.issued id (some s.next)
      keys := update s.keys id key } where
  publisher q job key' rest p hq := by
    rcases procs_spawn hq with ⟨rfl, heq⟩ | ⟨-, hq⟩
    · cases heq
      refine ⟨hblank, update_self .., update_self .., rfl, fun _ => ?_⟩
      by_contra haccepted
      have := (h.accepted id (eq_true_of_ne_false haccepted)).2
      simp [hissued] at this
    · obtain ⟨hblank', hissued', hkey, hattempt, hnew⟩ := h.publisher q job key' rest p hq
      have hne : job.id ≠ id := by
        intro hid
        rw [hid, hissued] at hissued'
        cases hissued'
      exact ⟨hblank', (update_of_ne hne ..).trans hissued', (update_of_ne hne ..).trans hkey,
        hattempt, hnew⟩
  accepted id' hid := by
    refine ⟨(h.accepted id' hid).1, ?_⟩
    simp only [update_apply]
    split
    · rfl
    · exact (h.accepted id' hid).2

theorem drawn_step {a : Action} (honce : rules.PublishOnce) (hregular : Regular rules s) (h : Drawn s)
    (hstep : step cfg s a = some t) : Drawn t := by
  cases step_cases hstep with
  | publish hblank hissued => exact drawn_publish h hblank hissued
  | inject => exact ⟨h.publisher, h.accepted⟩
  | deliver =>
    refine ⟨fun q job key rest p hq => ?_, h.accepted⟩
    rcases procs_spawn hq with ⟨-, heq⟩ | ⟨-, hq⟩
    · cases heq
    · exact h.publisher q job key rest p hq
  | exec hproc hanswer => exact drawn_exec honce hregular h hproc hanswer
  | crash =>
    exact ⟨fun q job key rest p hq => h.publisher q job key rest p (procs_crash hq).2, h.accepted⟩
  | redeliver => exact ⟨h.publisher, h.accepted⟩
  | expireRetry => exact ⟨h.publisher, h.accepted⟩
  | expireLock => exact ⟨h.publisher, h.accepted⟩

theorem drawn_start : Drawn {} where
  publisher _ _ _ _ _ h := by cases h
  accepted _ h := by cases h

end

end AgentsAtScale.Jobs
