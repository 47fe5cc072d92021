import AgentsAtScale.Transaction.Locking

namespace AgentsAtScale.Transaction

open Program Transition RowStore

section

variable {K : Type} {R : K → Type} {ι ε : Type} {M : Monitor (RowOp K R ι) RowOp.Reply}

def Guarantees (M : Monitor (RowOp K R ι) RowOp.Reply) (m : M.State) (p : Tx K R ι ε α)
    (Q : M.State → α → Prop) : Prop :=
  p.run.wp M (fun m r => ∀ a, r = .ok a → Q m a) m

namespace Guarantees

variable {m : M.State} {p : Tx K R ι ε α} {Q Q' : M.State → α → Prop} {P : M.State → β → Prop}

theorem bind {f : α → Tx K R ι ε β} (hp : Guarantees M m p Q)
    (hf : ∀ m a, Q m a → Guarantees M m (f a) P) : Guarantees M m (p >>= f) P := by
  apply Prog.wp_bind _ _ _ hp
  intro m r hr
  cases r with
  | ok a => exact hf m a (hr a rfl)
  | error e => intro b hb; cases hb

theorem mono (hp : Guarantees M m p Q) (h : ∀ m a, Q m a → Q' m a) : Guarantees M m p Q' :=
  Prog.wp_mono _ _ (fun m _ hr a ha => h m a (hr a ha)) hp

theorem pure {a : α} (h : Q m a) : Guarantees M m (Pure.pure a : Tx K R ι ε α) Q := by
  intro b hb
  cases hb
  exact h

theorem throw {e : ε} : Guarantees M m (MonadExcept.throw e : Tx K R ι ε α) Q := by
  intro b hb
  cases hb

theorem check {x : Except ε α} (h : ∀ a, x = .ok a → Q m a) :
    Guarantees M m (check x : Tx K R ι ε α) Q := h

theorem adapt {g : ε → ε'} (hp : Guarantees M m p Q) : Guarantees M m (ExceptT.adapt g p) Q := by
  apply Prog.wp_bind _ _ _ hp
  intro m r hr a ha
  cases r with
  | ok b => exact hr a (mapError_eq_ok.mp ha)
  | error e => cases ha

end Guarantees

end

structure Log (K : Type) (R : K → Type) where
  writes : List (Sigma R) := []
  reads : List (Sigma fun k => Option (R k)) := []

section

variable {K : Type} {R : K → Type} {ι ε : Type}

def rowMonitor (ι : Type) (I : (k : K) → R k → Prop) : Monitor (RowOp K R ι) RowOp.Reply where
  State := Log K R
  next
    | m, .read k, r => { m with reads := ⟨k, r⟩ :: m.reads }
    | m, .write k r, _ => { m with writes := ⟨k, r⟩ :: m.writes }
    | m, .lock _, _ => m
    | m, .insert _, _ => m
  allowed
    | _, .write k r => I k r
    | _, _ => True
  expected
    | _, .read k, r => ∀ x, r = some x → I k x
    | _, .lock k, r => ∀ x, r = some x → I k x
    | _, _, _ => True

def Ensures (I : (k : K) → R k → Prop) (m : Log K R) (p : Tx K R ι ε α)
    (Q : Log K R → α → Prop) : Prop :=
  p.run.wp (rowMonitor ι I) (fun m r => ∀ a, r = .ok a → Q m a) m

namespace Ensures

variable {I : (k : K) → R k → Prop} {m : Log K R} {Q : Log K R → α → Prop} {P : Log K R → β → Prop}

theorem bind {p : Tx K R ι ε α} {f : α → Tx K R ι ε β} (hp : Ensures I m p Q)
    (hf : ∀ m a, Q m a → Ensures I m (f a) P) : Ensures I m (p >>= f) P :=
  Guarantees.bind hp hf

theorem mono {p : Tx K R ι ε α} {Q' : Log K R → α → Prop} (hp : Ensures I m p Q)
    (h : ∀ m a, Q m a → Q' m a) : Ensures I m p Q' :=
  Guarantees.mono hp h

theorem pure {a : α} (h : Q m a) : Ensures I m (Pure.pure a : Tx K R ι ε α) Q :=
  Guarantees.pure h

theorem throw {e : ε} : Ensures I m (MonadExcept.throw e : Tx K R ι ε α) Q :=
  Guarantees.throw

theorem check {x : Except ε α} (h : ∀ a, x = .ok a → Q m a) :
    Ensures I m (check x : Tx K R ι ε α) Q := h

theorem adapt {p : Tx K R ι ε α} {g : ε → ε'} (hp : Ensures I m p Q) :
    Ensures I m (ExceptT.adapt g p) Q :=
  Guarantees.adapt hp

theorem readRow {k : K} {Q : Log K R → Option (R k) → Prop}
    (h : ∀ r, (∀ x, r = some x → I k x) → Q { m with reads := ⟨k, r⟩ :: m.reads } r) :
    Ensures I m (readRow k : Tx K R ι ε _) Q := by
  refine ⟨trivial, fun r hr a ha => ?_⟩
  cases ha
  exact h r hr

theorem lockRow {k : K} {Q : Log K R → Option (R k) → Prop}
    (h : ∀ r, (∀ x, r = some x → I k x) → Q m r) : Ensures I m (lockRow k : Tx K R ι ε _) Q := by
  refine ⟨trivial, fun r hr a ha => ?_⟩
  cases ha
  exact h r hr

theorem writeRow {k : K} {r : R k} {Q : Log K R → Unit → Prop} (hr : I k r)
    (h : Q { m with writes := ⟨k, r⟩ :: m.writes } ()) :
    Ensures I m (writeRow k r : Tx K R ι ε _) Q := by
  refine ⟨hr, fun _ _ a ha => ?_⟩
  cases ha
  exact h

theorem insertRow {i : ι} {Q : Log K R → Unit → Prop} (h : Q m ()) :
    Ensures I m (insertRow i : Tx K R ι ε _) Q := by
  refine ⟨trivial, fun _ _ a ha => ?_⟩
  cases ha
  exact h

end Ensures

end

section

variable {S K : Type} {R : K → Type} {ι : Type} [RowStore S K R ι] {I : (k : K) → R k → Prop}

theorem fetch_image_inv {s : S} {writes : List (Sigma R)}
    (hs : ∀ k r, fetch s k = some r → I k r) (hw : ∀ w ∈ writes, I w.1 w.2) :
    ∀ k r, fetch (image writes s) k = some r → I k r := by
  induction writes with
  | nil => exact hs
  | cons w writes ih =>
    intro k r hr
    simp only [image, List.foldr_cons] at ih hr
    by_cases hk : k = w.1
    · subst hk
      rw [fetch_store_self, Option.map_eq_some_iff] at hr
      obtain ⟨_, _, rfl⟩ := hr
      exact hw w (by simp)
    · rw [fetch_store_of_ne _ _ _ _ hk] at hr
      exact ih (fun w' hw' => hw w' (by simp [hw'])) k r hr

end

namespace Sys

variable {Tid S K : Type} {R : K → Type} {ι ε α : Type} [RowStore S K R ι]
  [DecidableEq Tid] [DecidableEq K] {prog : Tid → Tx K R ι ε α}
  {ok : Sys Tid S K R ι ε α → Act Tid → Prop} {I : (k : K) → R k → Prop}
  {Q : Tid → Log K R → α → Prop} {s₀ : S} {s s' : Sys Tid S K R ι ε α}

structure Guarded (I : (k : K) → R k → Prop) (Q : Tid → Log K R → α → Prop)
    (s : Sys Tid S K R ι ε α) : Prop where
  rows : ∀ k r, fetch s.committed k = some r → I k r
  writes : ∀ t x, s.active t = some x → ∀ w ∈ x.writes, I w.1 w.2
  rest : ∀ t x, s.active t = some x →
    x.rest.wp (rowMonitor ι I) (fun m r => ∀ a, r = .ok a → Q t m a) ⟨x.writes, x.reads⟩

omit [DecidableEq K] in
theorem Guarded.release (h : Guarded I Q s) (t : Tid) : Guarded I Q (s.release t) where
  rows := h.rows
  writes u x hx := h.writes u x (active_release hx).2
  rest u x hx := h.rest u x (active_release hx).2

omit [DecidableEq K] in
theorem Guarded.update (h : Guarded I Q s) (hcom : s'.committed = s.committed) {t : Tid}
    {y : Active K R ι ε α} (hact : s'.active = Function.update s.active t (some y))
    (hwrites : ∀ w ∈ y.writes, I w.1 w.2)
    (hrest : y.rest.wp (rowMonitor ι I) (fun m r => ∀ a, r = .ok a → Q t m a) ⟨y.writes, y.reads⟩) :
    Guarded I Q s' where
  rows := by rw [hcom]; exact h.rows
  writes u x hx := by
    rw [hact] at hx
    by_cases hu : u = t
    · subst hu
      cases (Function.update_self u _ _).symm.trans hx
      exact hwrites
    · exact h.writes u x (by rwa [Function.update_of_ne hu] at hx)
  rest u x hx := by
    rw [hact] at hx
    by_cases hu : u = t
    · subst hu
      cases (Function.update_self u _ _).symm.trans hx
      exact hrest
    · exact h.rest u x (by rwa [Function.update_of_ne hu] at hx)

theorem Guarded.exec (h : Guarded I Q s) {t : Tid} (hs : s.step prog (.exec t) = some s') :
    Guarded I Q s' := by
  obtain ⟨x, o, f, hx, hrest, hcom, -, hact, -⟩ := step_exec hs
  have hw := h.writes t x hx
  have hwp := h.rest t x hx
  have hrows := fetch_image_inv h.rows hw
  rw [hrest] at hwp
  apply h.update hcom hact
  · cases o with
    | write k r =>
      simp only [Active.advance, hrest, List.mem_cons]
      rintro w (rfl | hmem)
      · exact hwp.1
      · exact hw w hmem
    | _ => simpa only [Active.advance, hrest] using hw
  · cases o with
    | read k => simp only [Active.advance, hrest]; exact hwp.2 _ (hrows k)
    | lock k => simp only [Active.advance, hrest]; exact hwp.2 _ (hrows k)
    | write k r => simp only [Active.advance, hrest]; exact hwp.2 _ trivial
    | insert i => simp only [Active.advance, hrest]; exact hwp.2 _ trivial

theorem Guarded.commit (h : Guarded I Q s) {t : Tid} (hs : s.step prog (.commit t) = some s') :
    Guarded I Q s' := by
  obtain ⟨x, a, hx, -, rfl⟩ := step_commit hs
  have hrel := h.release t
  refine ⟨?_, hrel.writes, hrel.rest⟩
  intro k r hr
  change fetch (x.publish s.committed) k = some r at hr
  rw [x.fetch_publish] at hr
  exact fetch_image_inv h.rows (h.writes t x hx) k r hr

theorem Guarded.step (hp : ∀ t, Ensures I {} (prog t) (Q t)) (h : Guarded I Q s) {a : Act Tid}
    (hs : s.step prog a = some s') : Guarded I Q s' := by
  cases a with
  | begin t =>
    obtain ⟨-, rfl⟩ := step_begin hs
    exact h.update rfl rfl (by simp) (hp t)
  | exec t => exact h.exec hs
  | commit t => exact h.commit hs
  | abort t =>
    rw [step_abort hs]
    exact h.release t

theorem guarded_of_reach (hp : ∀ t, Ensures I {} (prog t) (Q t))
    (hrows : ∀ k r, fetch s₀ k = some r → I k r) (h : Reach (Sys.step prog) ok (start s₀) s) :
    Guarded I Q s := by
  apply h.invariant
  · exact ⟨hrows, nofun, nofun⟩
  · intro s a t hs _ hstep
    exact hs.step hp hstep

end Sys

end AgentsAtScale.Transaction
