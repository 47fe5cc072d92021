import AgentsAtScale.Transaction.Basic

namespace AgentsAtScale.Transaction

open RowStore

variable {S K : Type} {R : K → Type} {ι ε ε' : Type} [RowStore S K R ι]

theorem run_throw (e : ε) (s : S) : run (throw e : Tx K R ι ε α).run s = (.error e, s) := rfl

theorem run_throw_bind (e : ε) (f : α → Tx K R ι ε β) (s : S) :
    run (throw e >>= f).run s = (.error e, s) := rfl

theorem run_bind_of_ok {p : Tx K R ι ε α} {f : α → Tx K R ι ε β} {s t : S} {a : α}
    (h : run p.run s = (.ok a, t)) : run (p >>= f).run s = run (f a).run t := by
  rw [run_bind, h]

theorem run_bind_of_error {p : Tx K R ι ε α} {f : α → Tx K R ι ε β} {s t : S} {e : ε}
    (h : run p.run s = (.error e, t)) : run (p >>= f).run s = (.error e, t) := by
  rw [run_bind, h]

theorem atomically_of_error {p : Tx K R ι ε α} {s t : S} {e : ε} (h : run p.run s = (.error e, t)) :
    atomically p s = (.error e, s) := by
  rw [atomically, h]

theorem adapt_pure (g : ε → ε') (a : α) :
    ExceptT.adapt g (pure a : Tx K R ι ε α) = (pure a : Tx K R ι ε' α) := rfl

theorem adapt_lockRow_bind (g : ε → ε') (k : K) (f : Option (R k) → Tx K R ι ε α) :
    ExceptT.adapt g (lockRow k >>= f) = lockRow k >>= fun r => ExceptT.adapt g (f r) := rfl

theorem run_readRow_bind (k : K) (f : Option (R k) → Tx K R ι ε α) (s : S) :
    run (readRow k >>= f).run s = run (f (fetch s k)).run s := rfl

theorem run_lockRow_bind (k : K) (f : Option (R k) → Tx K R ι ε α) (s : S) :
    run (lockRow k >>= f).run s = run (f (fetch s k)).run s := rfl

theorem run_selectRow_bind (lock : Bool) (k : K) (f : Option (R k) → Tx K R ι ε α) (s : S) :
    run (selectRow lock k >>= f).run s = run (f (fetch s k)).run s := by
  cases lock <;> rfl

/-- Run alone from `s`, the transaction succeeds exactly if `P` holds, with `a` and
the state `t`; otherwise its error meets `E`. -/
structure Yields (E : ε → Prop) (p : Tx K R ι ε α) (s : S) (P : Prop) (a : α) (t : S) : Prop where
  ok : P → run p.run s = (.ok a, t)
  error : ¬P → ∃ e t', run p.run s = (.error e, t') ∧ E e

namespace Yields

variable {E : ε → Prop} {p : Tx K R ι ε α} {s t u : S} {P Q : Prop} {a : α} {b : β}

theorem congr (h : Yields E p s P a t) (hPQ : P ↔ Q) : Yields E p s Q a t where
  ok hq := h.ok (hPQ.mpr hq)
  error hq := h.error (mt hPQ.mp hq)

theorem pure (E : ε → Prop) (a : α) (s : S) : Yields E (Pure.pure a : Tx K R ι ε α) s True a s where
  ok _ := rfl
  error h := absurd trivial h

theorem throw {e : ε} (he : E e) (a : α) (s t : S) :
    Yields E (MonadExcept.throw e : Tx K R ι ε α) s False a t where
  ok h := h.elim
  error _ := ⟨e, s, rfl, he⟩

theorem check {x : Except ε α} (hok : P → x = .ok a) (herror : ¬P → ∃ e, x = .error e ∧ E e) (s : S) :
    Yields E (check x) s P a s where
  ok h := by
    rw [hok h]
    rfl
  error h := by
    obtain ⟨e, he, hE⟩ := herror h
    exact ⟨e, s, by rw [he]; rfl, hE⟩

theorem writeRow (E : ε → Prop) {k : K} {r : R k} (h : store s k r = t) :
    Yields E (writeRow k r) s True () t where
  ok _ := congrArg (Prod.mk _) h
  error h := absurd trivial h

theorem insertRow (E : ε → Prop) {i : ι} (h : record s i = t) :
    Yields E (insertRow i) s True () t where
  ok _ := congrArg (Prod.mk _) h
  error h := absurd trivial h

theorem bind {f : α → Tx K R ι ε β} (hp : Yields E p s P a t) (hf : P → Yields E (f a) t Q b u) :
    Yields E (p >>= f) s (P ∧ Q) b u where
  ok := by
    intro h
    rw [run_bind, hp.ok h.1]
    exact (hf h.1).ok h.2
  error := by
    intro h
    by_cases hP : P
    · rw [run_bind, hp.ok hP]
      exact (hf hP).error fun hQ => h ⟨hP, hQ⟩
    · obtain ⟨e, t', he, hE⟩ := hp.error hP
      exact ⟨e, t', by rw [run_bind, he], hE⟩

theorem bind_of_ok {f : α → Tx K R ι ε β} (hp : run p.run s = (.ok a, t))
    (hf : Yields E (f a) t Q b u) : Yields E (p >>= f) s Q b u where
  ok h := (run_bind_of_ok hp).trans (hf.ok h)
  error h := by
    rw [run_bind_of_ok hp]
    exact hf.error h

theorem check_bind {x : Except ε α} {f : α → Tx K R ι ε β} (hx : x = .ok a)
    (hf : Yields E (f a) s Q b u) : Yields E (Transaction.check x >>= f) s Q b u := by
  rw [hx]
  exact bind_of_ok rfl hf

theorem adapt {E' : ε' → Prop} {g : ε → ε'} (hp : Yields E p s P a t) (hg : ∀ e, E e → E' (g e)) :
    Yields E' (ExceptT.adapt g p) s P a t where
  ok h := by
    rw [run_adapt, hp.ok h]
    rfl
  error h := by
    obtain ⟨e, t', he, hE⟩ := hp.error h
    exact ⟨g e, t', by rw [run_adapt, he]; rfl, hg e hE⟩

theorem lockRow_bind {k : K} {f : Option (R k) → Tx K R ι ε α} (h : Yields E (f (fetch s k)) s P a t) :
    Yields E (lockRow k >>= f) s P a t :=
  ⟨h.ok, h.error⟩

theorem readRow_bind {k : K} {f : Option (R k) → Tx K R ι ε α} (h : Yields E (f (fetch s k)) s P a t) :
    Yields E (readRow k >>= f) s P a t :=
  ⟨h.ok, h.error⟩

theorem atomically_ok (h : Yields E p s P a t) (hP : P) : atomically p s = (.ok a, t) := by
  rw [atomically, h.ok hP]

theorem atomically_error (h : Yields E p s P a t) (hP : ¬P) :
    ∃ e, atomically p s = (.error e, s) ∧ E e := by
  obtain ⟨e, t', he, hE⟩ := h.error hP
  exact ⟨e, by rw [atomically, he], hE⟩

end Yields

end AgentsAtScale.Transaction
