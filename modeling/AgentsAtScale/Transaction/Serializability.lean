import AgentsAtScale.Transaction.Locking

/-! Transactions that lock every row they look at are serializable in commit
order: until it ends, a transaction can be replayed from the committed state of
the moment, since nobody else commits to the rows it has locked. -/

namespace AgentsAtScale.Transaction

open Program Transition RowStore

section

variable {S K : Type} {R : K → Type} {ι ε α : Type} [RowStore S K R ι]

def lockOnly (K : Type) (R : K → Type) (ι : Type) : Monitor (RowOp K R ι) RowOp.Reply where
  State := Unit
  next _ _ _ := ()
  allowed _ o := ∀ k, o ≠ .read k

def LockOnly (p : RowProg K R ι α) : Prop := p.wp (lockOnly K R ι) (fun _ _ => True) ()

namespace LockOnly

theorem bind {p : Tx K R ι ε α} {f : α → Tx K R ι ε β} (hp : LockOnly p.run)
    (hf : ∀ a, LockOnly (f a).run) : LockOnly (p >>= f).run := by
  apply Prog.wp_bind _ _ _ hp
  intro _ a _
  cases a with
  | ok a => exact hf a
  | error e => trivial

theorem bind_option {p : Tx K R ι ε (Option α)} {f : Option α → Tx K R ι ε β} (hp : LockOnly p.run)
    (hnone : LockOnly (f none).run) (hsome : ∀ a, LockOnly (f (some a)).run) :
    LockOnly (p >>= f).run := by
  apply bind hp
  intro a
  cases a with
  | none => exact hnone
  | some a => exact hsome a

theorem pure (a : α) : LockOnly (Pure.pure a : Tx K R ι ε α).run := trivial

theorem throw (e : ε) : LockOnly (MonadExcept.throw e : Tx K R ι ε α).run := trivial

theorem lockRow (k : K) : LockOnly (lockRow k : Tx K R ι ε _).run := ⟨nofun, fun _ _ => trivial⟩

theorem writeRow (k : K) (r : R k) : LockOnly (writeRow k r : Tx K R ι ε _).run :=
  ⟨nofun, fun _ _ => trivial⟩

theorem insertRow (i : ι) : LockOnly (insertRow i : Tx K R ι ε _).run := ⟨nofun, fun _ _ => trivial⟩

theorem check (x : Except ε α) : LockOnly (check x : Tx K R ι ε _).run := trivial

theorem adapt {p : Tx K R ι ε α} (g : ε → ε') (hp : LockOnly p.run) :
    LockOnly (ExceptT.adapt g p).run :=
  Prog.wp_bind _ _ _ hp fun _ _ _ => trivial

end LockOnly

/-- `Replays s held p x`: `p` run alone from `s` passes through `x`, and looks
only at rows in `held` or at rows that are not there. -/
inductive Replays (s : S) (held : K → Prop) (p : RowProg K R ι (Except ε α)) :
    Active K R ι ε α → Prop
  | start : Replays s held p { rest := p }
  | next : Replays s held p x → x.rest = .op o f → (∀ k, o.key = some k → held k ∨ fetch s k = none) →
      Replays s held p (x.advance s)

namespace Replays

variable {s s' : S} {held held' : K → Prop} {p : RowProg K R ι (Except ε α)}
  {x : Active K R ι ε α}

theorem grow (h : Replays s held p x) (hh : ∀ k, held k → held' k) : Replays s held' p x := by
  induction h with
  | start => exact .start
  | next _ hrest hkey ih => exact .next ih hrest fun k hk => (hkey k hk).imp_left (hh k)

theorem writes_held (h : Replays s held p x) :
    ∀ w ∈ x.writes, held w.1 ∨ fetch s w.1 = none := by
  induction h with
  | start => simp
  | @next x o f _ hrest hkey ih =>
    cases o with
    | write k r =>
      simp only [Active.advance, hrest, List.mem_cons]
      rintro w (rfl | hw)
      · exact hkey k rfl
      · exact ih w hw
    | _ => simpa only [Active.advance, hrest] using ih

theorem advance_congr {o : RowOp K R ι} {f : o.Reply → RowProg K R ι (Except ε α)}
    (hrest : x.rest = .op o f) (hget : ∀ k, o.key = some k → fetch s k = fetch s' k) :
    x.advance s = x.advance s' := by
  cases o with
  | read k => simp only [Active.advance, hrest, fetch_image_congr (hget k rfl)]
  | lock k => simp only [Active.advance, hrest, fetch_image_congr (hget k rfl)]
  | write k r => simp only [Active.advance, hrest]
  | insert i => simp only [Active.advance, hrest]

theorem transport (h : Replays s held p x) (hget : ∀ k, held k → fetch s k = fetch s' k)
    (hnone : ∀ k, fetch s k = none ↔ fetch s' k = none) : Replays s' held p x := by
  induction h with
  | start => exact .start
  | @next x o f _ hrest hkey ih =>
    have same : ∀ k, o.key = some k → fetch s k = fetch s' k := by
      intro k hk
      rcases hkey k hk with hheld | habsent
      · exact hget k hheld
      · rw [habsent, (hnone k).mp habsent]
    rw [advance_congr hrest same]
    apply Replays.next ih hrest
    intro k hk
    exact (hkey k hk).imp_right (hnone k).mp

theorem lockOnly_rest (h : Replays s held p x) (hp : LockOnly p) : LockOnly x.rest := by
  induction h with
  | start => exact hp
  | @next x o f _ hrest _ ih =>
    rw [hrest] at ih
    cases o with
    | _ => simp only [Active.advance, hrest]; exact ih.2 _ trivial

theorem run_eq (h : Replays s held p x) : run p s = run x.rest (x.publish s) := by
  induction h with
  | start => rfl
  | @next x o f _ hrest _ ih =>
    rw [ih, hrest]
    cases o with
    | read k => simp only [run, answer, x.fetch_publish, Active.advance, hrest]; rfl
    | lock k => simp only [run, answer, x.fetch_publish, Active.advance, hrest]; rfl
    | write k r =>
      simp only [run, answer, Active.publish, Active.advance, hrest]
      rw [store_foldl_record]
      rfl
    | insert i =>
      simp only [run, answer, Active.publish, Active.advance, hrest, List.foldl_append]
      rfl

end Replays

variable {Tid : Type} {prog : Tid → Tx K R ι ε α}

inductive Serial (prog : Tid → Tx K R ι ε α) (s : S) : List (Tid × α) → S → Prop
  | nil : Serial prog s [] s
  | snoc : Serial prog s h t → atomically (prog i) t = (.ok a, u) → Serial prog s (h ++ [(i, a)]) u

namespace Sys

structure Replayable (prog : Tid → Tx K R ι ε α) (s₀ : S) (s : Sys Tid S K R ι ε α) : Prop where
  serial : Serial prog s₀ s.history s.committed
  replays : ∀ t x, s.active t = some x →
    Replays s.committed (fun k => s.owner k = some t) (prog t).run x

theorem replayable_start (s₀ : S) : Replayable prog s₀ (start s₀) where
  serial := .nil
  replays t x h := by cases h

end Sys

end

namespace Sys

variable {Tid S K : Type} {R : K → Type} {ι ε α : Type} [RowStore S K R ι]
  [DecidableEq Tid] [DecidableEq K] {prog : Tid → Tx K R ι ε α}
  {s₀ : S} {s s' : Sys Tid S K R ι ε α} {t : Tid}

omit [DecidableEq K] in
theorem Replayable.release (h : Replayable prog s₀ s) (t : Tid) :
    Replayable prog s₀ (s.release t) where
  serial := h.serial
  replays u x hx := by
    obtain ⟨hu, hx⟩ := active_release hx
    apply (h.replays u x hx).grow
    intro k hk
    simp [Sys.release, hk, hu]

theorem Replayable.begin (h : Replayable prog s₀ s) (hs : s.step prog (.begin t) = some s') :
    Replayable prog s₀ s' := by
  obtain ⟨-, rfl⟩ := step_begin hs
  refine ⟨h.serial, ?_⟩
  intro u x hx
  by_cases hu : u = t
  · subst hu
    simp only [Function.update_self, Option.some.injEq] at hx
    subst hx
    exact .start
  · exact h.replays u x (by simpa [hu] using hx)

theorem Replayable.exec (hp : ∀ t, LockOnly (prog t).run) (h : Replayable prog s₀ s)
    (hs : s.step prog (.exec t) = some s') : Replayable prog s₀ s' := by
  obtain ⟨x, o, f, hx, hrest, hcom, hhist, hact, hkeep, _, hown⟩ := step_exec hs
  refine ⟨by rw [hhist, hcom]; exact h.serial, ?_⟩
  intro u y hy
  rw [hact] at hy
  rw [hcom]
  by_cases hu : u = t
  · subst hu
    simp only [Function.update_self, Option.some.injEq] at hy
    subst hy
    have hrep := (h.replays u x hx).grow fun k hk => hkeep u k hk
    apply Replays.next hrep hrest
    apply hown
    have hlock := hrep.lockOnly_rest (hp u)
    rw [hrest] at hlock
    exact hlock.1
  · rw [Function.update_of_ne hu] at hy
    exact (h.replays u y hy).grow fun k hk => hkeep u k hk

theorem Replayable.commit (h : Replayable prog s₀ s) (hs : s.step prog (.commit t) = some s') :
    Replayable prog s₀ s' := by
  obtain ⟨x, a, hx, hrest, rfl⟩ := step_commit hs
  have hrun := (h.replays t x hx).run_eq
  rw [hrest, run] at hrun
  have hown := (h.replays t x hx).writes_held
  refine ⟨.snoc h.serial (by simp only [atomically, hrun]), ?_⟩
  intro u y hy
  have hrep := (h.release t).replays u y hy
  apply hrep.transport
  · intro k hk
    change fetch s.committed k = fetch (x.publish s.committed) k
    rw [x.fetch_publish]
    by_cases habsent : fetch s.committed k = none
    · rw [habsent, (fetch_image_eq_none _ _ _).mpr habsent]
    · rw [fetch_image_of_forall_ne]
      rintro w hw rfl
      rcases hown w hw with hw' | hw'
      · simp [Sys.release, hw'] at hk
      · exact habsent hw'
  · intro k
    change fetch s.committed k = none ↔ fetch (x.publish s.committed) k = none
    rw [x.fetch_publish, fetch_image_eq_none]

theorem Replayable.step (hp : ∀ t, LockOnly (prog t).run) (h : Replayable prog s₀ s)
    {a : Act Tid} (hs : s.step prog a = some s') : Replayable prog s₀ s' := by
  cases a with
  | begin t => exact h.begin hs
  | exec t => exact h.exec hp hs
  | commit t => exact h.commit hs
  | abort t =>
    rw [step_abort hs]
    exact h.release t

theorem serial_of_reaches (hp : ∀ t, LockOnly (prog t).run)
    (h : Reaches (Sys.step prog) (start s₀) s) : Serial prog s₀ s.history s.committed := by
  have inv : Replayable prog s₀ s := by
    apply h.invariant (replayable_start s₀)
    intro s a t hinv _ hs
    exact hinv.step hp hs
  exact inv.serial

end Sys

end AgentsAtScale.Transaction
