import AgentsAtScale.Transaction.StaleReads
import AgentsAtScale.Transaction.Yields

namespace AgentsAtScale.Transaction

open Program Transition RowStore

section

variable {S K : Type} {R : K → Type} {ι ε : Type} [RowStore S K R ι] {I : (k : K) → R k → Prop}

/-- Run from `s`, with plain reads that return some version of their rows, the
transaction always succeeds, and as `Q` says. -/
def Surely (I : (k : K) → R k → Prop) (p : Tx K R ι ε α) (s : S) (Q : α → S → Prop) : Prop :=
  ∀ r u, Loosely I p.run s r u → ∃ a, r = .ok a ∧ Q a u

namespace Surely

variable {s t : S} {p : Tx K R ι ε α} {Q Q' : α → S → Prop} {P : β → S → Prop}

theorem mono (hp : Surely I p s Q) (h : ∀ a u, Q a u → Q' a u) : Surely I p s Q' := by
  intro r u hr
  obtain ⟨a, rfl, ha⟩ := hp r u hr
  exact ⟨a, rfl, h a u ha⟩

theorem bind {f : α → Tx K R ι ε β} (hp : Surely I p s Q)
    (hf : ∀ a u, Q a u → Surely I (f a) u P) : Surely I (p >>= f) s P := by
  intro r u hr
  change Loosely I (ExceptT.run p >>= ExceptT.bindCont f) s r u at hr
  obtain ⟨x, t, hx, hr⟩ := Loosely.bind_iff.mp hr
  obtain ⟨a, rfl, ha⟩ := hp x t hx
  exact hf a t ha r u hr

theorem pure {a : α} (h : Q a s) : Surely I (Pure.pure a : Tx K R ι ε α) s Q := by
  rintro r u ⟨rfl, rfl⟩
  exact ⟨a, rfl, h⟩

theorem check {x : Except ε α} {a : α} (hx : x = .ok a) (h : Q a s) :
    Surely I (check x : Tx K R ι ε α) s Q := by
  rintro r u ⟨rfl, rfl⟩
  exact ⟨a, hx, h⟩

theorem lockRow_bind {k : K} {f : Option (R k) → Tx K R ι ε α} (h : Surely I (f (fetch s k)) s Q) :
    Surely I (lockRow k >>= f) s Q := h

theorem readRow_bind {k : K} {f : Option (R k) → Tx K R ι ε α}
    (h : ∀ reply, Version I s k reply → Surely I (f reply) s Q) : Surely I (readRow k >>= f) s Q := by
  rintro r u ⟨reply, hreply, hr⟩
  exact h reply hreply r u hr

theorem adapt {g : ε → ε'} (hp : Surely I p s Q) : Surely I (ExceptT.adapt g p) s Q := by
  intro r u hr
  change Loosely I (ExceptT.run p >>= fun x => .ret (x.mapError g)) s r u at hr
  obtain ⟨x, t, hx, rfl, rfl⟩ := Loosely.bind_iff.mp hr
  obtain ⟨a, rfl, ha⟩ := hp x u hx
  exact ⟨a, rfl, ha⟩

theorem of_run {a : α} (hlock : LockOnly p.run) (h : run p.run s = (.ok a, t)) :
    Surely I p s fun b u => b = a ∧ u = t := by
  intro r u hr
  rw [Loosely.iff_run hlock, h] at hr
  cases hr
  exact ⟨a, rfl, rfl, rfl⟩

theorem of_yields {E : ε → Prop} {P : Prop} {a : α} (hlock : LockOnly p.run) (h : Yields E p s P a t)
    (hP : P) : Surely I p s fun b u => b = a ∧ u = t :=
  of_run hlock (h.ok hP)

end Surely

theorem Yields.holds {E : ε → Prop} {p : Tx K R ι ε α} {s t t' : S} {P : Prop} {a a' : α}
    (h : Yields E p s P a t) (hc : Commits p s a' t') : P := by
  by_contra hP
  obtain ⟨e, _, he, -⟩ := h.error hP
  rw [Commits, he] at hc
  cases hc

theorem Version.eq_some {s : S} {k : K} {reply : Option (R k)} {r : R k} (h : Version I s k reply)
    (hs : (fetch s k).isSome) (hr : ∀ x, I k x → x = r) : reply = some r := by
  obtain ⟨x, rfl⟩ := Option.isSome_iff_exists.mp (h.1.trans hs)
  rw [hr x (h.2 x rfl)]

theorem Commits.elsewhere {a b : α} {s s' : S} (h : Commits (Pure.pure a : Tx K R ι ε α) s b s') (t : S) :
    Commits (Pure.pure a : Tx K R ι ε α) t b t :=
  pure_iff.mpr ⟨(pure_iff.mp h).1, rfl⟩

end

section

variable {K : Type} {R : K → Type} {ι ε : Type}

def freshReads (K : Type) (R : K → Type) (ι : Type) : Monitor (RowOp K R ι) RowOp.Reply where
  State := List K
  next
    | m, .write k _, _ => k :: m
    | m, _, _ => m
  allowed
    | m, .read k => k ∉ m
    | _, _ => True

abbrev FreshReads (m : List K) (p : Tx K R ι ε α) (Q : List K → α → Prop) : Prop :=
  Guarantees (freshReads K R ι) m p Q

namespace FreshReads

variable {m : List K}

theorem of_lockOnly {p : Tx K R ι ε α} (h : LockOnly p.run) : FreshReads m p fun _ _ => True := by
  unfold FreshReads Guarantees
  generalize p.run = q at h
  induction q generalizing m with
  | ret r => exact fun _ _ => trivial
  | op o f ih =>
    refine ⟨?_, fun r _ => ih r (h.2 r trivial)⟩
    cases o with
    | read k => exact absurd rfl (h.1 k)
    | _ => trivial

theorem readRow {k : K} {Q : List K → Option (R k) → Prop} (hk : k ∉ m) (h : ∀ r, Q m r) :
    FreshReads m (readRow k : Tx K R ι ε _) Q := by
  refine ⟨hk, fun r _ a ha => ?_⟩
  cases ha
  exact h r

theorem lockRow {k : K} {Q : List K → Option (R k) → Prop} (h : ∀ r, Q m r) :
    FreshReads m (lockRow k : Tx K R ι ε _) Q := by
  refine ⟨trivial, fun r _ a ha => ?_⟩
  cases ha
  exact h r

theorem selectRow {lock : Bool} {k : K} {Q : List K → Option (R k) → Prop} (hk : k ∉ m)
    (h : ∀ r, Q m r) : FreshReads m (selectRow lock k : Tx K R ι ε _) Q := by
  cases lock with
  | false => exact readRow hk h
  | true => exact lockRow h

theorem writeRow {k : K} {r : R k} {Q : List K → Unit → Prop} (h : Q (k :: m) ()) :
    FreshReads m (writeRow k r : Tx K R ι ε _) Q := by
  refine ⟨trivial, fun _ _ a ha => ?_⟩
  cases ha
  exact h

end FreshReads

end

def Active.returned {K : Type} {R : K → Type} {ι ε α : Type} (x : Active K R ι ε α) : Option (Except ε α) :=
  match x.rest with
  | .ret r => some r
  | .op _ _ => none

theorem Active.rest_of_returned {K : Type} {R : K → Type} {ι ε α : Type} {x : Active K R ι ε α}
    {r : Except ε α} (h : x.returned = some r) : x.rest = .ret r := by
  unfold returned at h
  split at h
  · rename_i hrest
    rw [hrest, Option.some.inj h]
  · cases h

namespace Sys

variable {Tid S K : Type} {R : K → Type} {ι ε α : Type} [RowStore S K R ι]
  [DecidableEq Tid] [DecidableEq K] {prog : Tid → Tx K R ι ε α} {I : (k : K) → R k → Prop}
  {Q : Tid → Log K R → α → Prop} {s₀ : S} {s s' : Sys Tid S K R ι ε α} {t : Tid}

def Fresh (s : Sys Tid S K R ι ε α) : Prop :=
  ∀ t x, s.active t = some x →
    x.rest.wp (freshReads K R ι) (fun _ r => ∀ a, r = .ok a → True) (x.writes.map Sigma.fst)

omit [RowStore S K R ι] [DecidableEq K] in
theorem Fresh.release (h : s.Fresh) (t : Tid) : (s.release t).Fresh :=
  fun u x hx => h u x (active_release hx).2

theorem Fresh.step (hp : ∀ t, FreshReads [] (prog t) fun _ _ => True) (h : s.Fresh) {a : Act Tid}
    (hs : s.step prog a = some s') : s'.Fresh := by
  cases a with
  | begin t =>
    obtain ⟨-, rfl⟩ := step_begin hs
    intro u x hx
    by_cases hu : u = t
    · subst hu
      cases (Function.update_self u _ _).symm.trans hx
      exact hp u
    · exact h u x ((Function.update_of_ne hu _ _).symm.trans hx)
  | exec t =>
    obtain ⟨x, o, f, hx, hrest, -, -, hact, -⟩ := step_exec hs
    intro u y hy
    rw [hact] at hy
    by_cases hu : u = t
    · subst hu
      cases (Function.update_self u _ _).symm.trans hy
      have hwp := h u x hx
      rw [hrest] at hwp
      cases o with
      | _ => simp only [Active.advance, hrest]; exact hwp.2 _ trivial
    · exact h u y (by rwa [Function.update_of_ne hu] at hy)
  | commit t =>
    obtain ⟨x, a, -, -, rfl⟩ := step_commit hs
    exact h.release t
  | abort t =>
    rw [step_abort hs]
    exact h.release t

theorem fresh_of_reaches (hp : ∀ t, FreshReads [] (prog t) fun _ _ => True)
    (h : Reaches (Sys.step prog) (start s₀) s) : s.Fresh := by
  apply h.invariant
  · intro t x hx
    cases hx
  · intro s a t hs _ hstep
    exact hs.step hp hstep

omit [RowStore S K R ι] [DecidableEq Tid] [DecidableEq K] in
theorem Fresh.not_written (h : s.Fresh) {x : Active K R ι ε α} {k : K}
    {f : Option (R k) → RowProg K R ι (Except ε α)} (hx : s.active t = some x)
    (hrest : x.rest = .op (.read k) f) : ∀ w ∈ x.writes, w.1 ≠ k := by
  intro w hw hk
  have hwp := h t x hx
  rw [hrest] at hwp
  exact hwp.1 (List.mem_map.mpr ⟨w, hw, hk⟩)

theorem history_mono {a : Act Tid} (hs : s.step prog a = some s') {c : Tid × α} (hc : c ∈ s.history) :
    c ∈ s'.history := by
  cases a with
  | begin t =>
    obtain ⟨-, rfl⟩ := step_begin hs
    exact hc
  | exec t =>
    obtain ⟨x, o, f, -, -, -, hhist, -⟩ := step_exec hs
    rwa [hhist]
  | commit t =>
    obtain ⟨x, a, -, -, rfl⟩ := step_commit hs
    exact List.mem_append_left _ hc
  | abort t =>
    rw [step_abort hs]
    exact hc

theorem replayed_of_view (hp : ∀ t, Ensures I {} (prog t) (Q t))
    (hrows : ∀ k r, fetch s₀ k = some r → I k r) (hfresh : ∀ t, FreshReads [] (prog t) fun _ _ => True)
    {V : (k : K) → R k → Prop}
    (hview : ∀ s, Reaches (Sys.step prog) (start s₀) s → t ∉ s.history.map Prod.fst →
      ∀ k r, fetch s.committed k = some r → V k r)
    (h : Reaches (Sys.step prog) (start s₀) s) (ht : t ∉ s.history.map Prod.fst) :
    s.Replayed V prog t := by
  induction h with
  | refl =>
    intro x hx
    cases hx
  | @tail s a s' hreach _ hstep ih =>
    have ht' : t ∉ s.history.map Prod.fst := by
      intro hmem
      obtain ⟨c, hc, rfl⟩ := List.mem_map.mp hmem
      exact ht (List.mem_map_of_mem (history_mono hstep hc))
    refine (ih ht').step ?_ (staleReplayable_of_reaches hp hrows hreach).writes_held hstep
    intro x k f hx hrest r hr
    have hfetch : fetch (image x.writes s.committed) k = fetch s.committed k := by
      by_cases habsent : fetch s.committed k = none
      · rw [habsent, (fetch_image_eq_none _ _ _).mpr habsent]
      · exact fetch_image_of_forall_ne _ ((fresh_of_reaches hfresh hreach).not_written hx hrest)
    rw [hfetch] at hr
    exact hview s hreach ht' k r hr

omit [DecidableEq Tid] [DecidableEq K] in
theorem Replayed.succeeds {V : (k : K) → R k → Prop} (h : s.Replayed V prog t)
    (hsure : Surely V (prog t) s.committed fun _ _ => True) {x : Active K R ι ε α}
    (hx : s.active t = some x) {r : Except ε α} (hr : x.returned = some r) : ∃ a, r = .ok a := by
  have hrun : Loosely V (prog t).run s.committed r (x.publish s.committed) := by
    apply (h x hx).loosely
    rw [Active.rest_of_returned hr]
    exact ⟨rfl, rfl⟩
  obtain ⟨a, ha, -⟩ := hsure r _ hrun
  exact ⟨a, ha⟩

end Sys

end AgentsAtScale.Transaction
