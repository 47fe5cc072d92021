import AgentsAtScale.Transaction.RelyGuarantee
import AgentsAtScale.Transaction.Serializability

/-! Transactions that also read rows without locking them are serializable in commit
order up to those reads: a plain read may return an older version of its row, of
which only what all versions have in common is known. -/

namespace AgentsAtScale.Transaction

open Program Transition RowStore

section

variable {S K : Type} {R : K → Type} {ι ε : Type} [RowStore S K R ι] {I : (k : K) → R k → Prop}

def Version (I : (k : K) → R k → Prop) (s : S) (k : K) (reply : Option (R k)) : Prop :=
  reply.isSome = (fetch s k).isSome ∧ ∀ r, reply = some r → I k r

def Loosely (I : (k : K) → R k → Prop) : RowProg K R ι α → S → α → S → Prop
  | .ret a, s, b, s' => b = a ∧ s' = s
  | .op (.read k) f, s, b, s' => ∃ reply, Version I s k reply ∧ Loosely I (f reply) s b s'
  | .op (.lock k) f, s, b, s' => Loosely I (f (fetch s k)) s b s'
  | .op (.write k r) f, s, b, s' => Loosely I (f ()) (store s k r) b s'
  | .op (.insert i) f, s, b, s' => Loosely I (f ()) (record s i) b s'

theorem Loosely.bind_iff {p : RowProg K R ι α} {f : α → RowProg K R ι β} {s s' : S} {b : β} :
    Loosely I (p >>= f) s b s' ↔ ∃ a t, Loosely I p s a t ∧ Loosely I (f a) t b s' := by
  induction p generalizing s with
  | ret a =>
    constructor
    · intro h
      exact ⟨a, s, ⟨rfl, rfl⟩, h⟩
    · rintro ⟨_, _, ⟨rfl, rfl⟩, h⟩
      exact h
  | op o k ih =>
    cases o with
    | read key =>
      constructor
      · rintro ⟨reply, hreply, h⟩
        obtain ⟨a, t, hp, hf⟩ := (ih reply).mp h
        exact ⟨a, t, ⟨reply, hreply, hp⟩, hf⟩
      · rintro ⟨a, t, ⟨reply, hreply, hp⟩, hf⟩
        exact ⟨reply, hreply, (ih reply).mpr ⟨a, t, hp, hf⟩⟩
    | lock key => exact ih _
    | write key r => exact ih _
    | insert i => exact ih _

theorem Loosely.iff_run {p : RowProg K R ι α} (hp : LockOnly p) {s s' : S} {a : α} :
    Loosely I p s a s' ↔ run p s = (a, s') := by
  induction p generalizing s with
  | ret b =>
    change a = b ∧ s' = s ↔ (b, s) = (a, s')
    simp [eq_comm]
  | op o k ih =>
    cases o with
    | read key => exact absurd rfl (hp.1 key)
    | lock key => exact ih _ (hp.2 _ trivial)
    | write key r => exact ih _ (hp.2 _ trivial)
    | insert i => exact ih _ (hp.2 _ trivial)

/-- Run from `s`, with plain reads that return some version of their rows, the
transaction can return `a` and leave `s'` to commit. -/
def StaleCommits (I : (k : K) → R k → Prop) (p : Tx K R ι ε α) (s : S) (a : α) (s' : S) : Prop :=
  Loosely I p.run s (.ok a) s'

namespace StaleCommits

variable {s s' : S}

theorem iff_commits {p : Tx K R ι ε α} (hp : LockOnly p.run) {a : α} :
    StaleCommits I p s a s' ↔ Commits p s a s' :=
  Loosely.iff_run hp

theorem bind_iff {p : Tx K R ι ε α} {f : α → Tx K R ι ε β} {b : β} :
    StaleCommits I (p >>= f) s b s' ↔ ∃ a t, StaleCommits I p s a t ∧ StaleCommits I (f a) t b s' := by
  change Loosely I (ExceptT.run p >>= ExceptT.bindCont f) s _ s' ↔ _
  rw [Loosely.bind_iff]
  constructor
  · rintro ⟨r, t, hp, hf⟩
    cases r with
    | ok a => exact ⟨a, t, hp, hf⟩
    | error e => cases hf.1
  · rintro ⟨a, t, hp, hf⟩
    exact ⟨.ok a, t, hp, hf⟩

@[simp] theorem pure_iff {a b : α} :
    StaleCommits I (pure a : Tx K R ι ε α) s b s' ↔ b = a ∧ s' = s := by
  change Except.ok b = Except.ok a ∧ _ ↔ _
  rw [Except.ok.injEq]

@[simp] theorem throw_iff {e : ε} {b : α} :
    StaleCommits I (throw e : Tx K R ι ε α) s b s' ↔ False := by
  change Except.ok b = Except.error e ∧ _ ↔ _
  simp

@[simp] theorem readRow_bind {k : K} {f : Option (R k) → Tx K R ι ε β} {b : β} :
    StaleCommits I (readRow k >>= f) s b s' ↔
      ∃ reply, Version I s k reply ∧ StaleCommits I (f reply) s b s' := Iff.rfl

@[simp] theorem lockRow_bind {k : K} {f : Option (R k) → Tx K R ι ε β} {b : β} :
    StaleCommits I (lockRow k >>= f) s b s' ↔ StaleCommits I (f (fetch s k)) s b s' := Iff.rfl

@[simp] theorem check_bind {x : Except ε α} {f : α → Tx K R ι ε β} {b : β} :
    StaleCommits I (check x >>= f) s b s' ↔ ∃ a, x = .ok a ∧ StaleCommits I (f a) s b s' := by
  cases x with
  | error e =>
    change Except.ok b = Except.error e ∧ _ ↔ _
    simp
  | ok a =>
    change StaleCommits I (f a) s b s' ↔ _
    simp

theorem adapt_iff {p : Tx K R ι ε α} {g : ε → ε'} {a : α} :
    StaleCommits I (ExceptT.adapt g p) s a s' ↔ StaleCommits I p s a s' := by
  change Loosely I (ExceptT.run p >>= fun x => .ret (x.mapError g)) s _ s' ↔ _
  rw [Loosely.bind_iff]
  constructor
  · rintro ⟨r, t, hp, hr, rfl⟩
    rw [mapError_eq_ok.mp hr.symm] at hp
    exact hp
  · intro hp
    exact ⟨.ok a, s', hp, rfl, rfl⟩

theorem rows {p : Tx K R ι ε α} {m : Log K R} {Q : Log K R → α → Prop} (hp : Ensures I m p Q)
    (hs : ∀ k r, fetch s k = some r → I k r) {a : α} (h : StaleCommits I p s a s') :
    ∀ k r, fetch s' k = some r → I k r := by
  unfold StaleCommits at h
  unfold Ensures at hp
  generalize p.run = q at h hp
  induction q generalizing s m with
  | ret b =>
    obtain ⟨-, rfl⟩ := h
    exact hs
  | op o f ih =>
    cases o with
    | read key =>
      obtain ⟨reply, hreply, h⟩ := h
      exact ih reply hs h (hp.2 reply hreply.2)
    | lock key => exact ih _ hs h (hp.2 _ (hs key))
    | write key r =>
      have hwrite : I key r := hp.1
      have hstore : ∀ k x, fetch (image [⟨key, r⟩] s) k = some x → I k x :=
        fetch_image_inv hs (by simpa using hwrite)
      exact ih _ hstore h (hp.2 _ trivial)
    | insert i =>
      refine ih _ ?_ h (hp.2 _ trivial)
      intro k x hx
      rw [fetch_record] at hx
      exact hs k x hx

end StaleCommits

variable {α : Type}

inductive StaleReplays (I : (k : K) → R k → Prop) (s : S) (held : K → Prop)
    (p : RowProg K R ι (Except ε α)) : Active K R ι ε α → Prop
  | start : StaleReplays I s held p { rest := p }
  | read : StaleReplays I s held p x → x.rest = .op (.read k) f → Version I s k reply →
      StaleReplays I s held p { x with rest := f reply, reads := ⟨k, reply⟩ :: x.reads }
  | next : StaleReplays I s held p x → x.rest = .op o f → (∀ k, o ≠ .read k) →
      (∀ k, o.key = some k → held k ∨ fetch s k = none) → StaleReplays I s held p (x.advance s)

namespace StaleReplays

variable {s s' : S} {held held' : K → Prop} {p : RowProg K R ι (Except ε α)}
  {x : Active K R ι ε α}

theorem grow (h : StaleReplays I s held p x) (hh : ∀ k, held k → held' k) :
    StaleReplays I s held' p x := by
  induction h with
  | start => exact .start
  | read _ hrest hreply ih => exact .read ih hrest hreply
  | next _ hrest hread hkey ih => exact .next ih hrest hread fun k hk => (hkey k hk).imp_left (hh k)

theorem writes_held (h : StaleReplays I s held p x) :
    ∀ w ∈ x.writes, held w.1 ∨ fetch s w.1 = none := by
  induction h with
  | start => simp
  | read _ _ _ ih => exact ih
  | @next x o f _ hrest _ hkey ih =>
    cases o with
    | write k r =>
      simp only [Active.advance, hrest, List.mem_cons]
      rintro w (rfl | hw)
      · exact hkey k rfl
      · exact ih w hw
    | _ => simpa only [Active.advance, hrest] using ih

theorem version_congr {k : K} {reply : Option (R k)}
    (hnone : fetch s k = none ↔ fetch s' k = none) (h : Version I s k reply) :
    Version I s' k reply := by
  refine ⟨h.1.trans ?_, h.2⟩
  rw [Bool.eq_iff_iff, Option.isSome_iff_ne_none, Option.isSome_iff_ne_none, not_iff_not]
  exact hnone

theorem transport (h : StaleReplays I s held p x) (hget : ∀ k, held k → fetch s k = fetch s' k)
    (hnone : ∀ k, fetch s k = none ↔ fetch s' k = none) : StaleReplays I s' held p x := by
  induction h with
  | start => exact .start
  | read _ hrest hreply ih => exact .read ih hrest (version_congr (hnone _) hreply)
  | @next x o f _ hrest hread hkey ih =>
    have same : ∀ k, o.key = some k → fetch s k = fetch s' k := by
      intro k hk
      rcases hkey k hk with hheld | habsent
      · exact hget k hheld
      · rw [habsent, (hnone k).mp habsent]
    rw [Replays.advance_congr hrest same]
    apply StaleReplays.next ih hrest hread
    intro k hk
    exact (hkey k hk).imp_right (hnone k).mp

theorem loosely (h : StaleReplays I s held p x) {a : Except ε α} {u : S}
    (hx : Loosely I x.rest (x.publish s) a u) : Loosely I p s a u := by
  induction h with
  | start => exact hx
  | @read x k f reply _ hrest hreply ih =>
    apply ih
    rw [hrest]
    refine ⟨reply, version_congr ?_ hreply, hx⟩
    rw [x.fetch_publish, fetch_image_eq_none]
  | @next x o f _ hrest hread _ ih =>
    apply ih
    rw [hrest]
    cases o with
    | read k => exact absurd rfl (hread k)
    | lock k =>
      simp only [Active.advance, hrest] at hx
      rw [Loosely, x.fetch_publish]
      exact hx
    | write k r =>
      simp only [Active.advance, hrest] at hx
      rw [Loosely, Active.publish, store_foldl_record]
      exact hx
    | insert i =>
      simp only [Active.advance, hrest, Active.publish, List.foldl_append] at hx
      exact hx

end StaleReplays

variable {Tid : Type}

inductive StaleSerial (I : (k : K) → R k → Prop) (prog : Tid → Tx K R ι ε α) (s : S) :
    List (Tid × α) → S → Prop
  | nil : StaleSerial I prog s [] s
  | snoc : StaleSerial I prog s h t → StaleCommits I (prog i) t a u →
      StaleSerial I prog s (h ++ [(i, a)]) u

namespace Sys

def Replayed (I : (k : K) → R k → Prop) (prog : Tid → Tx K R ι ε α) (s : Sys Tid S K R ι ε α)
    (t : Tid) : Prop :=
  ∀ x, s.active t = some x → StaleReplays I s.committed (fun k => s.owner k = some t) (prog t).run x

structure StaleReplayable (I : (k : K) → R k → Prop) (prog : Tid → Tx K R ι ε α) (s₀ : S)
    (s : Sys Tid S K R ι ε α) : Prop where
  serial : StaleSerial I prog s₀ s.history s.committed
  replays : ∀ t, s.Replayed I prog t

theorem staleReplayable_start {prog : Tid → Tx K R ι ε α} (s₀ : S) :
    StaleReplayable I prog s₀ (start s₀) where
  serial := .nil
  replays t x h := by cases h

end Sys

end

namespace Sys

variable {Tid S K : Type} {R : K → Type} {ι ε α : Type} [RowStore S K R ι]
  [DecidableEq Tid] [DecidableEq K] {prog : Tid → Tx K R ι ε α} {I : (k : K) → R k → Prop}
  {Q : Tid → Log K R → α → Prop} {s₀ : S} {s s' : Sys Tid S K R ι ε α} {t u : Tid}

omit [DecidableEq K] in
theorem Replayed.release (h : s.Replayed I prog t) (u : Tid) : (s.release u).Replayed I prog t := by
  intro x hx
  obtain ⟨hne, hx⟩ := active_release hx
  apply (h x hx).grow
  intro k hk
  simp [Sys.release, hk, hne]

theorem Replayed.begin (h : s.Replayed I prog t) (hs : s.step prog (.begin u) = some s') :
    s'.Replayed I prog t := by
  obtain ⟨-, rfl⟩ := step_begin hs
  intro x hx
  by_cases hu : t = u
  · subst hu
    simp only [Function.update_self, Option.some.injEq] at hx
    subst hx
    exact .start
  · exact h x (by simpa [hu] using hx)

theorem Replayed.exec (h : s.Replayed I prog t)
    (hread : ∀ x k f, s.active t = some x → x.rest = .op (.read k) f →
      ∀ r, fetch (image x.writes s.committed) k = some r → I k r)
    (hs : s.step prog (.exec u) = some s') : s'.Replayed I prog t := by
  obtain ⟨x, o, f, hx, hrest, hcom, -, hact, hkeep, _, hown⟩ := step_exec hs
  intro y hy
  rw [hact] at hy
  rw [hcom]
  by_cases hu : t = u
  · subst hu
    simp only [Function.update_self, Option.some.injEq] at hy
    subst hy
    have hrep := (h x hx).grow fun k hk => hkeep t k hk
    cases o with
    | read k =>
      have hadvance : x.advance s.committed =
          { x with
            rest := f (fetch (image x.writes s.committed) k)
            reads := ⟨k, fetch (image x.writes s.committed) k⟩ :: x.reads } := by
        simp only [Active.advance, hrest]
      rw [hadvance]
      apply StaleReplays.read hrep hrest
      exact StaleReplays.version_congr (fetch_image_eq_none _ _ x.writes) ⟨rfl, hread x k f hx hrest⟩
    | lock k => exact .next hrep hrest (by rintro _ ⟨⟩) (hown (by rintro _ ⟨⟩))
    | write k r => exact .next hrep hrest (by rintro _ ⟨⟩) (hown (by rintro _ ⟨⟩))
    | insert i => exact .next hrep hrest (by rintro _ ⟨⟩) (hown (by rintro _ ⟨⟩))
  · rw [Function.update_of_ne hu] at hy
    exact (h y hy).grow fun k hk => hkeep t k hk

theorem Replayed.commit (h : s.Replayed I prog t)
    (hwrites : ∀ x, s.active u = some x → ∀ w ∈ x.writes,
      s.owner w.1 = some u ∨ fetch s.committed w.1 = none)
    (hs : s.step prog (.commit u) = some s') : s'.Replayed I prog t := by
  obtain ⟨x, a, hx, -, rfl⟩ := step_commit hs
  intro y hy
  have hrep := h.release u y hy
  apply hrep.transport
  · intro k hk
    change fetch s.committed k = fetch (x.publish s.committed) k
    rw [x.fetch_publish]
    by_cases habsent : fetch s.committed k = none
    · rw [habsent, (fetch_image_eq_none _ _ _).mpr habsent]
    · rw [fetch_image_of_forall_ne]
      rintro w hw rfl
      rcases hwrites x hx w hw with hw' | hw'
      · simp [Sys.release, hw'] at hk
      · exact habsent hw'
  · intro k
    change fetch s.committed k = none ↔ fetch (x.publish s.committed) k = none
    rw [x.fetch_publish, fetch_image_eq_none]

theorem Replayed.step (h : s.Replayed I prog t)
    (hread : ∀ x k f, s.active t = some x → x.rest = .op (.read k) f →
      ∀ r, fetch (image x.writes s.committed) k = some r → I k r)
    (hwrites : ∀ u x, s.active u = some x → ∀ w ∈ x.writes,
      s.owner w.1 = some u ∨ fetch s.committed w.1 = none)
    {a : Act Tid} (hs : s.step prog a = some s') : s'.Replayed I prog t := by
  cases a with
  | begin u => exact h.begin hs
  | exec u => exact h.exec hread hs
  | commit u => exact h.commit (hwrites u) hs
  | abort u =>
    rw [step_abort hs]
    exact h.release u

omit [DecidableEq Tid] [DecidableEq K] in
theorem StaleReplayable.writes_held (h : StaleReplayable I prog s₀ s) (u : Tid) (x : Active K R ι ε α)
    (hx : s.active u = some x) : ∀ w ∈ x.writes, s.owner w.1 = some u ∨ fetch s.committed w.1 = none :=
  (h.replays u x hx).writes_held

theorem StaleReplayable.step (hg : Guarded I Q s) (h : StaleReplayable I prog s₀ s)
    {a : Act Tid} (hs : s.step prog a = some s') : StaleReplayable I prog s₀ s' where
  serial := by
    cases a with
    | begin t =>
      obtain ⟨-, rfl⟩ := step_begin hs
      exact h.serial
    | exec t =>
      obtain ⟨x, o, f, -, -, hcom, hhist, -⟩ := step_exec hs
      rw [hhist, hcom]
      exact h.serial
    | commit t =>
      obtain ⟨x, a, hx, hrest, rfl⟩ := step_commit hs
      refine .snoc h.serial ((h.replays t x hx).loosely ?_)
      rw [hrest]
      exact ⟨rfl, rfl⟩
    | abort t =>
      rw [step_abort hs]
      exact h.serial
  replays t := by
    apply (h.replays t).step _ h.writes_held hs
    -- The row it reads now is a version, whoever has written it.
    intro x k _ hx _
    exact fetch_image_inv hg.rows (hg.writes t x hx) k

theorem staleReplayable_of_reaches (hp : ∀ t, Ensures I {} (prog t) (Q t))
    (hrows : ∀ k r, fetch s₀ k = some r → I k r) (h : Reaches (Sys.step prog) (start s₀) s) :
    StaleReplayable I prog s₀ s := by
  induction h with
  | refl => exact staleReplayable_start s₀
  | tail hreach _ hstep ih => exact ih.step (guarded_of_reach hp hrows hreach) hstep

theorem staleSerial_of_reaches (hp : ∀ t, Ensures I {} (prog t) (Q t))
    (hrows : ∀ k r, fetch s₀ k = some r → I k r) (h : Reaches (Sys.step prog) (start s₀) s) :
    StaleSerial I prog s₀ s.history s.committed :=
  (staleReplayable_of_reaches hp hrows h).serial

end Sys

end AgentsAtScale.Transaction
