import AgentsAtScale.Program.Basic

namespace AgentsAtScale.Transaction

open Program

/-- Rows that can be read and updated by key, and a log that is only appended to. -/
class RowStore (S : Type) (K : outParam Type) (R : outParam (K → Type)) (ι : outParam Type) where
  fetch : S → (k : K) → Option (R k)
  store : S → (k : K) → R k → S
  record : S → ι → S
  fetch_store_self : ∀ s k r, fetch (store s k r) k = (fetch s k).map fun _ => r
  fetch_store_of_ne : ∀ s k r k', k' ≠ k → fetch (store s k r) k' = fetch s k'
  fetch_record : ∀ s i k, fetch (record s i) k = fetch s k
  store_record : ∀ s k r i, store (record s i) k r = record (store s k r) i

/-- What a transaction asks of the database.  `read` is a plain `SELECT`, `lock`
a `SELECT ... FOR UPDATE` or the row search of an `UPDATE`. -/
inductive RowOp (K : Type) (R : K → Type) (ι : Type) : Type
  | read (k : K)
  | lock (k : K)
  | write (k : K) (r : R k)
  | insert (i : ι)

def RowOp.Reply {K : Type} {R : K → Type} {ι : Type} : RowOp K R ι → Type
  | .read k => Option (R k)
  | .lock k => Option (R k)
  | .write _ _ => Unit
  | .insert _ => Unit

abbrev RowProg (K : Type) (R : K → Type) (ι : Type) (α : Type) :=
  Prog (RowOp K R ι) RowOp.Reply α

abbrev Tx (K : Type) (R : K → Type) (ι ε : Type) (α : Type) := ExceptT ε (Prog (RowOp K R ι) RowOp.Reply) α

section

variable {K : Type} {R : K → Type} {ι ε : Type}

def readRow (k : K) : Tx K R ι ε (Option (R k)) := ExceptT.lift (Prog.call (RowOp.read k))
def lockRow (k : K) : Tx K R ι ε (Option (R k)) := ExceptT.lift (Prog.call (RowOp.lock k))
def writeRow (k : K) (r : R k) : Tx K R ι ε Unit := ExceptT.lift (Prog.call (RowOp.write k r))
def insertRow (i : ι) : Tx K R ι ε Unit := ExceptT.lift (Prog.call (RowOp.insert i))

def selectRow (lock : Bool) (k : K) : Tx K R ι ε (Option (R k)) :=
  if lock then lockRow k else readRow k

def check (x : Except ε α) : Tx K R ι ε α := ExceptT.mk (.ret x)

end

section

variable {S K : Type} {R : K → Type} {ι ε : Type} [RowStore S K R ι]

open RowStore

def answer (s : S) : (o : RowOp K R ι) → o.Reply × S
  | .read k => (fetch s k, s)
  | .lock k => (fetch s k, s)
  | .write k r => ((), store s k r)
  | .insert i => ((), record s i)

def run : RowProg K R ι α → S → α × S
  | .ret a, s => (a, s)
  | .op o f, s => run (f (answer s o).1) (answer s o).2

def atomically (p : Tx K R ι ε α) (s : S) : Except ε α × S :=
  match run p.run s with
  | (.ok a, s') => (.ok a, s')
  | (.error e, _) => (.error e, s)

theorem run_bind (p : Tx K R ι ε α) (f : α → Tx K R ι ε β) (s : S) :
    run (p >>= f).run s =
      match run p.run s with
      | (.ok a, s') => run (f a).run s'
      | (.error e, s') => (.error e, s') := by
  change run (Prog.bind (ExceptT.run p) (ExceptT.bindCont f)) s = _
  generalize ExceptT.run p = q
  induction q generalizing s with
  | ret a => cases a <;> rfl
  | op o k ih => exact ih _ _

theorem mapError_eq_ok {x : Except ε α} {g : ε → ε'} {a : α} :
    x.mapError g = .ok a ↔ x = .ok a := by
  cases x with
  | error e => exact ⟨nofun, nofun⟩
  | ok b =>
    change (Except.ok b : Except ε' α) = .ok a ↔ _
    rw [Except.ok.injEq, Except.ok.injEq]

theorem run_adapt (g : ε → ε') (p : Tx K R ι ε α) (s : S) :
    run (ExceptT.adapt g p).run s = ((run p.run s).1.mapError g, (run p.run s).2) := by
  change run (Prog.bind (ExceptT.run p) fun x => .ret (x.mapError g)) s = _
  generalize ExceptT.run p = q
  induction q generalizing s with
  | ret a => rfl
  | op o k ih => exact ih _ _

def Commits (p : Tx K R ι ε α) (s : S) (a : α) (s' : S) : Prop := run p.run s = (.ok a, s')

theorem atomically_eq_ok {p : Tx K R ι ε α} {s s' : S} {a : α} :
    atomically p s = (.ok a, s') ↔ Commits p s a s' := by
  unfold atomically Commits
  split
  · rename_i h; rw [h]
  · rename_i h; simp [h]

theorem snd_atomically_of_error {p : Tx K R ι ε α} {s : S} (h : (atomically p s).1.isOk = false) :
    (atomically p s).2 = s := by
  unfold atomically at h ⊢
  split
  · simp_all [Except.isOk, Except.toBool]
  · rfl

theorem atomically_cases (p : Tx K R ι ε α) (s : S) :
    (∃ a, Commits p s a (atomically p s).2) ∨
      (atomically p s).1.isOk = false ∧ (atomically p s).2 = s := by
  unfold atomically Commits
  split
  · rename_i a s' h
    exact .inl ⟨a, h⟩
  · exact .inr ⟨rfl, rfl⟩

theorem atomically_isOk {p : Tx K R ι ε α} {s : S} :
    (atomically p s).1.isOk = true ↔ ∃ a s', Commits p s a s' := by
  unfold atomically Commits
  split
  · rename_i a s' h
    exact ⟨fun _ => ⟨a, s', h⟩, fun _ => rfl⟩
  · rename_i e s' h
    simp [h, Except.isOk, Except.toBool]

namespace Commits

variable {s s' : S}

theorem bind_iff {p : Tx K R ι ε α} {f : α → Tx K R ι ε β} {b : β} :
    Commits (p >>= f) s b s' ↔ ∃ a t, Commits p s a t ∧ Commits (f a) t b s' := by
  unfold Commits
  rw [run_bind]
  cases h : run p.run s with
  | mk r t =>
    cases r with
    | error e => simp
    | ok a =>
      simp only [Prod.mk.injEq, Except.ok.injEq]
      constructor
      · intro hf; exact ⟨a, t, ⟨rfl, rfl⟩, hf⟩
      · rintro ⟨_, _, ⟨rfl, rfl⟩, hf⟩; exact hf

@[simp] theorem pure_iff {a b : α} : Commits (pure a : Tx K R ι ε α) s b s' ↔ b = a ∧ s' = s := by
  change (_, _) = (_, _) ↔ _
  simp [eq_comm]

@[simp] theorem throw_iff {e : ε} {b : α} : Commits (throw e : Tx K R ι ε α) s b s' ↔ False := by
  change (Except.error e, s) = (_, _) ↔ _
  simp

@[simp] theorem guard_iff {c : Prop} [Decidable c] {e : ε} {p : Tx K R ι ε α} {b : α} :
    Commits (if c then throw e else p) s b s' ↔ ¬c ∧ Commits p s b s' := by
  split
  · rename_i hc
    simp [hc]
  · rename_i hc
    simp [hc]

@[simp] theorem writeRow_iff {k : K} {r : R k} {u : Unit} :
    Commits (writeRow k r : Tx K R ι ε _) s u s' ↔ s' = store s k r := by
  change (_, _) = (_, _) ↔ _
  simp [eq_comm, answer]

@[simp] theorem readRow_bind {k : K} {f : Option (R k) → Tx K R ι ε β} {b : β} :
    Commits (readRow k >>= f) s b s' ↔ Commits (f (fetch s k)) s b s' := Iff.rfl

@[simp] theorem lockRow_bind {k : K} {f : Option (R k) → Tx K R ι ε β} {b : β} :
    Commits (lockRow k >>= f) s b s' ↔ Commits (f (fetch s k)) s b s' := Iff.rfl

@[simp] theorem selectRow_bind {lock : Bool} {k : K} {f : Option (R k) → Tx K R ι ε β} {b : β} :
    Commits (selectRow lock k >>= f) s b s' ↔ Commits (f (fetch s k)) s b s' := by
  cases lock <;> exact Iff.rfl

@[simp] theorem insertRow_bind {i : ι} {f : Unit → Tx K R ι ε β} {b : β} :
    Commits (insertRow i >>= f) s b s' ↔ Commits (f ()) (record s i) b s' := Iff.rfl

@[simp] theorem check_bind {x : Except ε α} {f : α → Tx K R ι ε β} {b : β} :
    Commits (check x >>= f) s b s' ↔ ∃ a, x = .ok a ∧ Commits (f a) s b s' := by
  cases x with
  | error e =>
    change (Except.error e, s) = (_, _) ↔ _
    simp
  | ok a =>
    change Commits (f a) s b s' ↔ _
    simp

@[simp] theorem adapt_iff {p : Tx K R ι ε α} {g : ε → ε'} {a : α} :
    Commits (ExceptT.adapt g p) s a s' ↔ Commits p s a s' := by
  unfold Commits
  rw [run_adapt]
  cases h : run p.run s with
  | mk r t => simp only [Prod.mk.injEq, mapError_eq_ok]

end Commits

def written : RowProg K R ι α → S → List K
  | .ret _, _ => []
  | .op o f, s =>
    (match o with
      | .write k _ => ((fetch s k).map fun _ => k).toList
      | _ => []) ++ written (f (answer s o).1) (answer s o).2

theorem length_written_update {k : K} {f : Option (R k) → Tx K R ι ε Unit} {x : R k → Except ε α}
    {g : R k → α → R k} {s s' : S} {u : Unit} (hnone : f none = pure ())
    (hsome : ∀ r, fetch s k = some r → f (some r) = check (x r) >>= fun a => writeRow k (g r a))
    (h : Commits (lockRow k >>= f) s u s') :
    (written (lockRow k >>= f).run s).length = (fetch s k).toList.length := by
  rw [Commits.lockRow_bind] at h
  change (written (f (fetch s k)).run s).length = _
  cases hfetch : fetch s k with
  | none =>
    rw [hnone]
    rfl
  | some r =>
    rw [hfetch, hsome r hfetch, Commits.check_bind] at h
    obtain ⟨a, ha, -⟩ := h
    rw [hsome r hfetch, ha]
    change (((fetch s k).map fun _ => k).toList ++ []).length = _
    rw [hfetch]
    rfl

def rowCounts : List (Tx K R ι ε Unit) → S → List Nat
  | [], _ => []
  | p :: ps, s => (written p.run s).length :: rowCounts ps (run p.run s).2

theorem rowCounts_cons {p : Tx K R ι ε Unit} {ps : List (Tx K R ι ε Unit)} {s s' : S} {u : Unit}
    (h : Commits p s u s') : rowCounts (p :: ps) s = (written p.run s).length :: rowCounts ps s' := by
  unfold Commits at h
  rw [rowCounts, h]

end

end AgentsAtScale.Transaction
