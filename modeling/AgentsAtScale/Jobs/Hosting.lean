import AgentsAtScale.Program.Sections
import AgentsAtScale.Jobs.Conversations

namespace AgentsAtScale.Jobs

open Program Function Transition Sections

/-- A run goes on with what it has in memory, or returns to the worker. -/
inductive Turn (Memory : Type)
  | goesOn (memory : Memory)
  | returns (reaction : Reaction)

def Turn.memory? {Memory : Type} : Turn Memory → Option Memory
  | .goesOn memory => some memory
  | .returns _ => none

/-- An agent runtime.  What it stores for a call is found under a key; `act` is one step of
a run for the call. -/
structure Host (Key Value Memory Event : Type) where
  key : AgentCall → Key
  act : AgentCall → Value → Option Memory → Event → Option (Value × Turn Memory)

def Op.call? : Op → Option AgentCall
  | .agent call => some call
  | .invoke call => some call
  | _ => none

def Action.endsRun : Action → Bool
  | .exec _ (.events _) => true
  | .exec _ (.result _) => true
  | _ => false

structure Hosted (Key Value Memory : Type) where
  jobs : State := {}
  stored : Key → Value
  memory : Nat → Option Memory := fun _ => none

namespace Hosted

variable {Key Value Memory Event : Type}

inductive Action (Event : Type)
  | jobs (a : Jobs.Action)
  | agent (pid : Nat) (event : Event)

def call (s : Hosted Key Value Memory) (pid : Nat) : Option AgentCall :=
  (s.jobs.nextOp pid).bind Op.call?

def remember (s : Hosted Key Value Memory) : Jobs.Action → Nat → Option Memory
  | .crash pid => update s.memory pid none
  | _ => s.memory

section

variable [DecidableEq Key]

def step (host : Host Key Value Memory Event) (cfg : Config) (s : Hosted Key Value Memory) :
    Action Event → Option (Hosted Key Value Memory)
  | .jobs a =>
    if a.endsRun then none
    else (Jobs.step cfg s.jobs a).map ({ s with jobs := ·, memory := s.remember a })
  | .agent pid event =>
    match s.call pid with
    | none => none
    | some call =>
      match host.act call (s.stored (host.key call)) (s.memory pid) event with
      | none => none
      | some (value, .goesOn memory) =>
        some
          { s with
            stored := update s.stored (host.key call) value
            memory := update s.memory pid (some memory) }
      | some (value, .returns reaction) =>
        (Jobs.step cfg s.jobs (.exec pid reaction)).map
          ({ jobs := ·
             stored := update s.stored (host.key call) value
             memory := update s.memory pid none })

inductive Step (host : Host Key Value Memory Event) (cfg : Config) (s : Hosted Key Value Memory) :
    Action Event → Hosted Key Value Memory → Prop
  | jobs {a : Jobs.Action} {t : State} : a.endsRun = false → Jobs.step cfg s.jobs a = some t →
    Step host cfg s (.jobs a) { s with jobs := t, memory := s.remember a }
  | goesOn {pid : Nat} {event : Event} {call : AgentCall} {value : Value} {memory : Memory} :
    s.call pid = some call →
    host.act call (s.stored (host.key call)) (s.memory pid) event = some (value, .goesOn memory) →
    Step host cfg s (.agent pid event)
      { s with
        stored := update s.stored (host.key call) value
        memory := update s.memory pid (some memory) }
  | returns {pid : Nat} {event : Event} {call : AgentCall} {value : Value} {reaction : Reaction}
      {t : State} :
    s.call pid = some call →
    host.act call (s.stored (host.key call)) (s.memory pid) event = some (value, .returns reaction) →
    Jobs.step cfg s.jobs (.exec pid reaction) = some t →
    Step host cfg s (.agent pid event)
      { jobs := t
        stored := update s.stored (host.key call) value
        memory := update s.memory pid none }

theorem step_cases {host : Host Key Value Memory Event} {cfg : Config} {s t : Hosted Key Value Memory}
    {a : Action Event} (h : step host cfg s a = some t) : Step host cfg s a t := by
  cases a with
  | jobs a =>
    simp only [step] at h
    split at h
    · cases h
    · rename_i hends
      obtain ⟨u, hu, rfl⟩ := Option.map_eq_some_iff.mp h
      exact .jobs (eq_false_of_ne_true hends) hu
  | agent pid event =>
    simp only [step] at h
    split at h
    · cases h
    · rename_i call hcall
      split at h
      · cases h
      · rename_i value memory hact
        cases h
        exact .goesOn hcall hact
      · rename_i value reaction hact
        obtain ⟨u, hu, rfl⟩ := Option.map_eq_some_iff.mp h
        exact .returns hcall hact hu

end

def keepsLocks (s : Hosted Key Value Memory) : Action Event → Bool
  | .jobs a => s.jobs.keepsLocks a
  | .agent _ _ => true

def works (host : Host Key Value Memory Event) (s : State) (pid : Nat) : Option Key :=
  ((s.nextOp pid).bind Op.call?).map host.key

end Hosted

def Host.Separates {Key Value Memory Event : Type} (host : Host Key Value Memory Event) : Prop :=
  ∀ call call', host.key call = host.key call' → call.conversation = call'.conversation

/-- Every step of a run keeps what is stored in order, and so does giving the run up. -/
structure Host.Keeps {Key Value Memory Event : Type} (host : Host Key Value Memory Event)
    (R : Key → Value → Option Memory → Prop) : Prop where
  act : ∀ call value memory event value' turn,
    host.act call value memory event = some (value', turn) → R (host.key call) value memory →
    R (host.key call) value' turn.memory?
  abandoned : ∀ key value memory, R key value (some memory) → R key value none

theorem Host.Keeps.left {Key Value Memory Event : Type} {host : Host Key Value Memory Event}
    {R : Key → Value → Option Memory → Prop} (h : host.Keeps R) {key : Key} {value : Value}
    {memory : Option Memory} (hR : R key value memory) : R key value none := by
  cases memory with
  | none => exact hR
  | some memory => exact h.abandoned key value memory hR

section

variable {cfg : Config} {s t : State} {a : Action} {pid q : Nat}

def Action.actor (s : State) : Action → Nat
  | .exec pid _ => pid
  | .crash pid => pid
  | _ => s.next

theorem nextOp_congr (h : t.procs q = s.procs q) : t.nextOp q = s.nextOp q := by
  simp only [State.nextOp, h]

theorem nextOp_of_ne_actor (hstep : step cfg s a = some t) (hq : q ≠ a.actor s) :
    t.nextOp q = s.nextOp q := by
  cases step_cases hstep with
  | publish => exact nextOp_congr (procs_spawn_of_ne hq)
  | deliver => exact nextOp_congr (procs_spawn_of_ne hq)
  | exec hproc hanswer => exact nextOp_congr (procs_resume_of_ne hanswer.sameHistory hq)
  | crash => exact nextOp_congr (update_of_ne hq ..)
  | inject => rfl
  | redeliver => rfl
  | expireRetry => rfl
  | expireLock => rfl

theorem call_actor (hregular : Regular rules s) (hstep : step cfg s a = some t) (hends : a.endsRun = false)
    (hcrash : ∀ pid, a ≠ .crash pid) : (s.nextOp (a.actor s)).bind Op.call? = none := by
  have hnext : s.nextOp s.next = none := by
    cases hproc : s.procs s.next with
    | none => simp only [State.nextOp, hproc]
    | some proc => exact absurd (hregular.numbered _ proc hproc) (Nat.lt_irrefl _)
  cases step_cases hstep with
  | @exec pid role p reaction u o k reply hproc hanswer =>
    change (s.nextOp pid).bind Op.call? = none
    rw [nextOp_of_procs hproc, Option.bind_some]
    cases hanswer with
    | done hreply => cases o <;> first | rfl | cases hreply
    | failed herror => cases o <;> first | rfl | cases herror
    | lost herror => cases o <;> first | rfl | cases herror
    | time ms => rfl
    | events => cases hends
    | result => cases hends
  | crash => exact absurd rfl (hcrash _)
  | _ => exact congrArg (Option.bind · Op.call?) hnext

end

namespace Hosted

variable {Key Value Memory Event : Type} {host : Host Key Value Memory Event}
  {R : Key → Value → Option Memory → Prop} {cfg : Config} {s t : Hosted Key Value Memory}
  {a : Action Event}

theorem exclusive_works {s : State} (hseparates : host.Separates) (hregular : Regular lockRules s)
    (h : s.leases.Exclusive) : Exclusive (works host s) := by
  have hconversation {p : Nat} {call : AgentCall} (hcall : (s.nextOp p).bind Op.call? = some call) :
      s.agentConversation p = some call.conversation := by
    obtain ⟨o, ho, hcall⟩ := Option.bind_eq_some_iff.mp hcall
    rw [State.agentConversation, ho, Option.bind_some]
    cases o with
    | agent call' =>
      cases hcall
      rfl
    | invoke call' =>
      cases hcall
      rfl
    | _ => cases hcall
  intro p q key hp hq
  obtain ⟨call, hcall, rfl⟩ := Option.map_eq_some_iff.mp hp
  obtain ⟨call', hcall', hkey⟩ := Option.map_eq_some_iff.mp hq
  obtain ⟨token, hheld⟩ := held_of_agentConversation hregular (hconversation hcall)
  obtain ⟨token', hheld'⟩ := held_of_agentConversation hregular (hconversation hcall')
  rw [hseparates call' call hkey] at hheld'
  exact h.unique hheld hheld'

structure Orderly (host : Host Key Value Memory Event) (R : Key → Value → Option Memory → Prop)
    (s : Hosted Key Value Memory) : Prop where
  regular : Regular lockRules s.jobs
  exclusive : s.jobs.leases.Exclusive
  guarded : Guarded R (works host s.jobs) s.memory s.stored

theorem Orderly.jobs {a : Jobs.Action} {t : State} (hkeeps : host.Keeps R) (h : Orderly host R s)
    (hends : a.endsRun = false) (hstep : Jobs.step cfg s.jobs a = some t)
    (hexclusive : Exclusive (works host s.jobs)) (hexclusive' : Exclusive (works host t)) :
    Guarded R (works host t) (s.remember a) s.stored := by
  have hothers (q : Nat) (hq : q ≠ a.actor s.jobs) : works host t q = works host s.jobs q := by
    rw [works, works, nextOp_of_ne_actor hstep hq]
  by_cases hcrash : ∃ pid, a = .crash pid
  · obtain ⟨pid, rfl⟩ := hcrash
    have hgone : works host t pid = none := by
      cases hstep
      simp [works, State.nextOp]
    refine h.guarded.change (p := pid) ⟨hothers, fun q hq => update_of_ne hq .., fun _ _ => rfl⟩
      hexclusive hexclusive' (fun key _ hstays => ?_) (fun key hworks _ => ?_)
      (fun key hstays _ => ?_) fun _ => update_self ..
    · cases hgone.symm.trans hstays
    · exact hkeeps.left (h.guarded.busy pid key hworks)
    · cases hgone.symm.trans hstays
  · have hcrash := not_exists.mp hcrash
    have hremember : s.remember a = s.memory := by
      cases a with
      | crash pid => exact absurd rfl (hcrash pid)
      | _ => rfl
    have hidle : works host s.jobs (a.actor s.jobs) = none := by
      rw [works, call_actor h.regular hstep hends hcrash]
      rfl
    rw [hremember]
    refine h.guarded.change (p := a.actor s.jobs) ⟨hothers, fun _ _ => rfl, fun _ _ => rfl⟩ hexclusive
      hexclusive' (fun key hworks _ => ?_) (fun key hworks _ => ?_)
      (fun _ _ _ => h.guarded.idle _ hidle) fun _ => h.guarded.idle _ hidle
    · cases hidle.symm.trans hworks
    · cases hidle.symm.trans hworks

variable [DecidableEq Key]

theorem Orderly.step (hcfg : cfg.Follows lockRules) (hseparates : host.Separates) (hkeeps : host.Keeps R)
    (h : Orderly host R s) (hok : s.keepsLocks a = true) (hstep : Hosted.step host cfg s a = some t) :
    Orderly host R t := by
  have hexclusive := exclusive_works hseparates h.regular h.exclusive
  cases step_cases hstep with
  | @jobs a t hends hmoves =>
    have hregular := h.regular.step hcfg hmoves
    have hleases := exclusive_step h.regular h.exclusive hok hmoves
    exact ⟨hregular, hleases,
      h.jobs hkeeps hends hmoves hexclusive (exclusive_works hseparates hregular hleases)⟩
  | @goesOn pid event call value memory hcall hact =>
    have hworks : works host s.jobs pid = some (host.key call) := congrArg (Option.map host.key) hcall
    have hbusy := hkeeps.act _ _ _ _ _ _ hact (h.guarded.busy pid _ hworks)
    refine ⟨h.regular, h.exclusive, h.guarded.change (p := pid)
      ⟨fun _ _ => rfl, fun q hq => update_of_ne hq .., fun key hkey => update_of_ne ?_ ..⟩
      hexclusive hexclusive (fun key hkey _ => ?_) (fun key hkey hleft => absurd hkey hleft)
      (fun key hkey hnew => absurd hkey hnew) fun hidle => ?_⟩
    · rintro rfl
      exact hkey hworks
    · cases hworks.symm.trans hkey
      change R _ (update s.stored _ _ _) (update s.memory _ _ _)
      rw [update_self, update_self]
      exact hbusy
    · cases hworks.symm.trans hidle
  | @returns pid event call value reaction t hcall hact hmoves =>
    have hworks : works host s.jobs pid = some (host.key call) := congrArg (Option.map host.key) hcall
    have hfree := hkeeps.act _ _ _ _ _ _ hact (h.guarded.busy pid _ hworks)
    have hregular := h.regular.step hcfg hmoves
    have hleases := exclusive_step h.regular h.exclusive rfl hmoves
    have hstored (key : Key) (hkey : works host s.jobs pid = some key) :
        R key (update s.stored (host.key call) value key) none := by
      cases hworks.symm.trans hkey
      rw [update_self]
      exact hfree
    refine ⟨hregular, hleases, h.guarded.change (p := pid)
      ⟨fun q hq => ?_, fun q hq => update_of_ne hq .., fun key hkey => update_of_ne ?_ ..⟩
      hexclusive (exclusive_works hseparates hregular hleases) (fun key hkey _ => ?_)
      (fun key hkey _ => hstored key hkey) (fun _ _ _ => update_self ..) fun _ => update_self ..⟩
    · rw [works, works, nextOp_of_ne_actor hmoves hq]
    · rintro rfl
      exact hkey hworks
    · change R _ _ (update s.memory pid none pid)
      rw [update_self]
      exact hstored key hkey

theorem guarded_of_reach (hcfg : cfg.Follows lockRules) (hseparates : host.Separates)
    (hkeeps : host.Keeps R) {stored : Key → Value} (hinit : ∀ key, R key (stored key) none)
    (h : Reach (Hosted.step host cfg) (fun s a => s.keepsLocks a = true) { stored := stored } s) :
    Guarded R (works host s.jobs) s.memory s.stored := by
  have hstart : Orderly host R { stored := stored } := by
    refine ⟨.start, fun _ _ _ hheld => ?_, fun key _ => hinit key, fun _ _ hworks => ?_, fun _ _ => rfl⟩
    · cases hheld
    · cases hworks
  have horderly : Orderly host R s := h.invariant hstart fun _ _ _ hs hok hstep =>
    hs.step hcfg hseparates hkeeps hok hstep
  exact horderly.guarded

theorem stored_of_reach (hcfg : cfg.Follows lockRules) (hseparates : host.Separates)
    (hkeeps : host.Keeps R) {stored : Key → Value} (hinit : ∀ key, R key (stored key) none)
    (h : Reach (Hosted.step host cfg) (fun s a => s.keepsLocks a = true) { stored := stored } s)
    (key : Key) : R key (s.stored key) none := by
  have hguarded := guarded_of_reach hcfg hseparates hkeeps hinit h
  by_cases hfree : ∀ p, works host s.jobs p ≠ some key
  · exact hguarded.free key hfree
  · obtain ⟨p, hworks⟩ := not_forall.mp hfree
    exact hkeeps.left (hguarded.busy p key (not_not.mp hworks))

end Hosted

end AgentsAtScale.Jobs
