import AgentsAtScale.Transaction.RelyGuarantee
import Mathlib.Logic.Relation
import Mathlib.Order.Basic

/-! Waiting for row locks.  A transaction knows the rows it holds; if it acquires new
ones only in a rank order that the transactions agree on, no cycle of waits arises. -/

namespace AgentsAtScale.Transaction

open Program Transition RowStore

abbrev Known (K : Type) (R : K → Type) := (k : K) → Option (Option (R k))

namespace Known

variable {K : Type} {R : K → Type} [DecidableEq K]

omit [DecidableEq K] in
def Has (m : Known K R) (k : K) : Prop := ∃ r, m k = some (some r)

def lock (m : Known K R) (k : K) (r : Option (R k)) : Known K R := Function.update m k (some r)

def write (m : Known K R) (k : K) (r : R k) : Known K R :=
  Function.update m k ((m k).map fun v => v.map fun _ => r)

@[simp] theorem lock_self (m : Known K R) (k : K) (r : Option (R k)) : m.lock k r k = some r :=
  Function.update_self ..

theorem lock_self_ne_none (m : Known K R) (k : K) (r : Option (R k)) : m.lock k r k ≠ none := by
  rw [lock_self]
  nofun

theorem lock_of_ne (m : Known K R) {k k' : K} (h : k' ≠ k) (r : Option (R k)) :
    m.lock k r k' = m k' := Function.update_of_ne h ..

@[simp] theorem write_self (m : Known K R) (k : K) (r : R k) :
    m.write k r k = (m k).map fun v => v.map fun _ => r := Function.update_self ..

theorem write_of_ne (m : Known K R) {k k' : K} (h : k' ≠ k) (r : R k) : m.write k r k' = m k' :=
  Function.update_of_ne h ..

theorem Has.lock {m : Known K R} {k k' : K} {r : Option (R k)} (h : m.Has k')
    (hr : ∀ v, m k = some v → r = v) : (m.lock k r).Has k' := by
  obtain ⟨x, hx⟩ := h
  by_cases hk : k' = k
  · subst hk
    exact ⟨x, by rw [lock_self, hr _ hx]⟩
  · exact ⟨x, by rw [lock_of_ne m hk, hx]⟩

theorem write_ne_none {m : Known K R} {k k' : K} {r : R k} : m.write k r k' ≠ none ↔ m k' ≠ none := by
  by_cases hk : k' = k
  · subst hk
    rw [write_self, Ne, Option.map_eq_none_iff]
  · rw [write_of_ne m hk]

theorem lock_ne_none {m : Known K R} {k k' : K} {r : Option (R k)} (h : m k' ≠ none) :
    m.lock k r k' ≠ none := by
  by_cases hk : k' = k
  · subst hk
    exact lock_self_ne_none m k' r
  · rwa [lock_of_ne m hk]

theorem has_lock {m : Known K R} {k k' : K} {r : Option (R k)} (h : (m.lock k r).Has k') :
    m.Has k' ∨ k' = k := by
  by_cases hk : k' = k
  · exact .inr hk
  · left
    unfold Has at h
    rwa [lock_of_ne m hk] at h

theorem has_write (m : Known K R) (k k' : K) (r : R k) : (m.write k r).Has k' ↔ m.Has k' := by
  unfold Has
  by_cases hk : k' = k
  · subst hk
    rw [write_self]
    cases h : m k' with
    | none => simp
    | some v => cases v <;> simp
  · rw [write_of_ne m hk]

end Known

/-- `A` says which rows a transaction may lock next.  It writes only rows it has looked
up under a lock, and those keep the values it knows. -/
def heldMonitor {K : Type} [DecidableEq K] {R : K → Type} (ι : Type) (I : (k : K) → R k → Prop)
    (A : Known K R → K → Prop) : Monitor (RowOp K R ι) RowOp.Reply where
  State := Known K R
  next
    | m, .lock k, r => m.lock k r
    | m, .write k r, _ => m.write k r
    | m, .read _, _ => m
    | m, .insert _, _ => m
  allowed
    | m, .lock k => A m k
    | m, .write k r => m k ≠ none ∧ I k r
    | _, _ => True
  expected
    | m, .lock k, r => (∀ v, m k = some v → r = v) ∧ ∀ x, r = some x → I k x
    | m, .read k, r => (∀ v, m k = some v → r = v) ∧ ∀ x, r = some x → I k x
    | _, _, _ => True

abbrev Locks {K : Type} [DecidableEq K] {R : K → Type} {ι ε α : Type} (I : (k : K) → R k → Prop)
    (A : Known K R → K → Prop) (m : Known K R) (p : Tx K R ι ε α) (Q : Known K R → α → Prop) : Prop :=
  Guarantees (heldMonitor ι I A) m p Q

namespace Locks

variable {K : Type} [DecidableEq K] {R : K → Type} {ι ε : Type} {I : (k : K) → R k → Prop}
  {A : Known K R → K → Prop} {m : Known K R} {k : K}

theorem lockRow {Q : Known K R → Option (R k) → Prop} (hA : A m k)
    (h : ∀ r, (∀ v, m k = some v → r = v) → (∀ x, r = some x → I k x) → Q (m.lock k r) r) :
    Locks I A m (lockRow k : Tx K R ι ε _) Q := by
  refine ⟨hA, fun r hr a ha => ?_⟩
  cases ha
  exact h r hr.1 hr.2

theorem lockRow_again {v : Option (R k)} {Q : Known K R → Option (R k) → Prop} (hA : A m k)
    (hv : m k = some v) (h : (∀ x, v = some x → I k x) → Q m v) :
    Locks I A m (Transaction.lockRow k : Tx K R ι ε _) Q := by
  apply lockRow hA
  intro r hr hI
  have hsame : m.lock k v = m := by
    rw [Known.lock, ← hv, Function.update_eq_self]
  rw [hr v hv] at hI ⊢
  rw [hsame]
  exact h hI

theorem readRow {Q : Known K R → Option (R k) → Prop}
    (h : ∀ r, (∀ v, m k = some v → r = v) → (∀ x, r = some x → I k x) → Q m r) :
    Locks I A m (readRow k : Tx K R ι ε _) Q := by
  refine ⟨trivial, fun r hr a ha => ?_⟩
  cases ha
  exact h r hr.1 hr.2

theorem writeRow {r : R k} {Q : Known K R → Unit → Prop} (hk : m k ≠ none) (hr : I k r)
    (h : Q (m.write k r) ()) : Locks I A m (writeRow k r : Tx K R ι ε _) Q := by
  refine ⟨⟨hk, hr⟩, fun _ _ a ha => ?_⟩
  cases ha
  exact h

theorem insertRow {i : ι} {Q : Known K R → Unit → Prop} (h : Q m ()) :
    Locks I A m (insertRow i : Tx K R ι ε _) Q := by
  refine ⟨trivial, fun _ _ a ha => ?_⟩
  cases ha
  exact h

end Locks

namespace Sys

variable {Tid S K : Type} {R : K → Type} {ι ε α : Type} [RowStore S K R ι]
  [DecidableEq Tid] [DecidableEq K] {prog : Tid → Tx K R ι ε α}
  {ok : Sys Tid S K R ι ε α → Act Tid → Prop} {s₀ : S} {s s' : Sys Tid S K R ι ε α} {t : Tid}

omit [DecidableEq Tid] [DecidableEq K] in
def wanted (s : Sys Tid S K R ι ε α) (t : Tid) : Option K :=
  (s.active t).bind fun x =>
    match x.rest with
    | .ret _ => none
    | .op o _ => o.locks (image x.writes s.committed)

omit [DecidableEq Tid] [DecidableEq K] in
def Waits (s : Sys Tid S K R ι ε α) (t u : Tid) : Prop := (s.wanted t).bind s.owner = some u ∧ u ≠ t

omit [DecidableEq Tid] [DecidableEq K] in
def Deadlocked (s : Sys Tid S K R ι ε α) : Prop := ∃ t, Relation.TransGen s.Waits t t

theorem step_exec_eq (hs : s.step prog (.exec t) = some s') :
    ∃ x o f, s.active t = some x ∧ x.rest = .op o f ∧
      (∀ k, o.locks (image x.writes s.committed) = some k → s.owner k = none ∨ s.owner k = some t) ∧
      s' = { s with
        active := Function.update s.active t (some (x.advance s.committed))
        owner := (o.locks (image x.writes s.committed)).elim s.owner
          fun k => Function.update s.owner k (some t) } := by
  simp only [step] at hs
  split at hs
  · cases hs
  · rename_i x hx
    split at hs
    · cases hs
    · rename_i o f hrest
      refine ⟨x, o, f, hx, hrest, ?_⟩
      split at hs
      · rename_i hlocks
        cases hs
        simp [hlocks]
      · rename_i k hlocks
        split at hs
        · rename_i hfree
          cases hs
          simp [hlocks, hfree]
        · cases hs

variable (I : (k : K) → R k → Prop) (A : Tid → Known K R → K → Prop) (J : Tid → Known K R → Prop)

structure Follows (s : Sys Tid S K R ι ε α) (t : Tid) (x : Active K R ι ε α) (m : Known K R) :
    Prop where
  rest : x.rest.wp (heldMonitor ι I (A t)) (fun _ _ => True) m
  keeps : J t m
  rows : ∀ w ∈ x.writes, I w.1 w.2
  writes : ∀ w ∈ x.writes, m w.1 ≠ none
  value : ∀ k v, m k = some v → fetch (image x.writes s.committed) k = v
  owner : ∀ k, m.Has k ↔ s.owner k = some t

structure Tracked (s : Sys Tid S K R ι ε α) : Prop where
  rows : ∀ k r, fetch s.committed k = some r → I k r
  active : ∀ t x, s.active t = some x → ∃ m, Follows I A J s t x m
  idle : ∀ k t, s.owner k = some t → s.active t ≠ none

variable {I A J}

omit [DecidableEq Tid] in
theorem Follows.frame {x : Active K R ι ε α} {m : Known K R} (h : Follows I A J s t x m)
    (hfetch : ∀ k v, m k = some v → fetch s'.committed k = fetch s.committed k)
    (howner : ∀ k, s'.owner k = some t ↔ s.owner k = some t) : Follows I A J s' t x m where
  rest := h.rest
  keeps := h.keeps
  rows := h.rows
  writes := h.writes
  value k v hk := by
    rw [fetch_image_congr (hfetch k v hk)]
    exact h.value k v hk
  owner k := (h.owner k).trans (howner k).symm

omit [DecidableEq Tid] in
theorem Follows.fetch_publish {u : Tid} {x y : Active K R ι ε α} {m n : Known K R}
    (hx : Follows I A J s t x m) (hy : Follows I A J s u y n) (hu : u ≠ t) {k : K} {v : Option (R k)}
    (hk : n k = some v) : fetch (x.publish s.committed) k = fetch s.committed k := by
  rw [x.fetch_publish]
  cases v with
  | none =>
    have hnone := (fetch_image_eq_none s.committed k y.writes).mp (hy.value k none hk)
    rw [hnone]
    exact (fetch_image_eq_none s.committed k x.writes).mpr hnone
  | some r =>
    apply fetch_image_of_forall_ne
    rintro w hw rfl
    have howner := (hy.owner w.1).mp ⟨r, hk⟩
    obtain ⟨v, hv⟩ := Option.ne_none_iff_exists'.mp (hx.writes w hw)
    cases v with
    | none =>
      have hnone := (fetch_image_eq_none s.committed w.1 x.writes).mp (hx.value w.1 none hv)
      have hsome := hy.value w.1 _ hk
      rw [(fetch_image_eq_none s.committed w.1 y.writes).mpr hnone] at hsome
      cases hsome
    | some r' =>
      have howner' := (hx.owner w.1).mp ⟨r', hv⟩
      rw [howner] at howner'
      exact hu (Option.some.inj howner')

omit [RowStore S K R ι] [DecidableEq K] in
theorem owner_release {u : Tid} (hu : u ≠ t) (k : K) :
    (s.release t).owner k = some u ↔ s.owner k = some u := by
  simp only [release]
  split
  · rename_i h
    rw [h]
    simp [hu.symm]
  · rfl

section

variable {x : Active K R ι ε α} {m : Known K R} {k : K}
  (keep : ∀ m o r, (heldMonitor ι I (A t)).allowed m o → (heldMonitor ι I (A t)).expected m o r →
    J t m → J t ((heldMonitor ι I (A t)).next m o r))
  (h : Follows I A J s t x m) (hcom : s'.committed = s.committed)

include keep h hcom

omit [DecidableEq Tid] in
theorem Follows.exec_lock {f : Option (R k) → RowProg K R ι (Except ε α)}
    (hrow : ∀ r, fetch (image x.writes s.committed) k = some r → I k r)
    (hrest : x.rest = .op (.lock k) f)
    (howner : s'.owner = ((fetch (image x.writes s.committed) k).map fun _ => k).elim s.owner
      fun k => Function.update s.owner k (some t)) :
    Follows I A J s' t (x.advance s.committed) (m.lock k (fetch (image x.writes s.committed) k)) := by
  have hwp := h.rest
  rw [hrest] at hwp
  have hexpected : (heldMonitor ι I (A t)).expected m (.lock k) (fetch (image x.writes s.committed) k) :=
    ⟨h.value k, hrow⟩
  simp only [Active.advance, hrest]
  refine ⟨hwp.2 _ hexpected, keep m (.lock k) _ hwp.1 hexpected h.keeps, h.rows, ?_, ?_, ?_⟩
  · intro w hw
    exact Known.lock_ne_none (h.writes w hw)
  · intro k' v hv
    rw [hcom]
    by_cases hk : k' = k
    · subst hk
      rw [Known.lock_self] at hv
      exact Option.some.inj hv
    · rw [Known.lock_of_ne m hk] at hv
      exact h.value k' v hv
  · intro k'
    rw [howner]
    cases hfetch : fetch (image x.writes s.committed) k with
    | none =>
      by_cases hk : k' = k
      · subst hk
        simp only [Known.Has, Known.lock_self, Option.map_none, Option.elim_none, Option.some.injEq,
          reduceCtorEq, exists_false, false_iff]
        intro hown
        obtain ⟨r, hr⟩ := (h.owner k').mpr hown
        cases hfetch.symm.trans (h.value k' _ hr)
      · simp only [Known.Has, Known.lock_of_ne m hk, Option.map_none, Option.elim_none]
        exact h.owner k'
    | some r =>
      by_cases hk : k' = k
      · subst hk
        simp [Known.Has]
      · simp only [Known.Has, Known.lock_of_ne m hk, Option.map_some, Option.elim_some,
          Function.update_of_ne hk]
        exact h.owner k'

omit [DecidableEq Tid] in
theorem Follows.exec_write {r : R k} {f : Unit → RowProg K R ι (Except ε α)}
    (hrest : x.rest = .op (.write k r) f)
    (howner : s'.owner = ((fetch (image x.writes s.committed) k).map fun _ => k).elim s.owner
      fun k => Function.update s.owner k (some t)) :
    Follows I A J s' t (x.advance s.committed) (m.write k r) := by
  have hwp := h.rest
  rw [hrest] at hwp
  obtain ⟨hknown, hr⟩ := hwp.1
  obtain ⟨v, hv⟩ := Option.ne_none_iff_exists'.mp hknown
  have hfetch := h.value k v hv
  simp only [Active.advance, hrest]
  refine ⟨hwp.2 _ trivial, keep m (.write k r) () hwp.1 trivial h.keeps, ?_, ?_, ?_, ?_⟩
  · intro w hw
    rcases List.mem_cons.mp hw with rfl | hw
    · exact hr
    · exact h.rows w hw
  · intro w hw
    by_cases hk : w.1 = k
    · rw [hk, Known.write_self, hv]
      exact Option.some_ne_none _
    · rw [Known.write_of_ne m hk]
      rcases List.mem_cons.mp hw with rfl | hw
      · exact absurd rfl hk
      · exact h.writes w hw
  · intro k' v' hv'
    rw [hcom]
    simp only [image, List.foldr_cons]
    by_cases hk : k' = k
    · subst hk
      rw [Known.write_self, hv] at hv'
      rw [fetch_store_self]
      exact (congrArg _ hfetch).trans (Option.some.inj hv')
    · rw [Known.write_of_ne m hk] at hv'
      rw [fetch_store_of_ne _ _ _ _ hk]
      exact h.value k' v' hv'
  · intro k'
    rw [Known.has_write, howner, hfetch]
    cases v with
    | none => exact h.owner k'
    | some r' =>
      have hsame : Function.update s.owner k (some t) = s.owner := by
        rw [← (h.owner k).mp ⟨r', hv⟩, Function.update_eq_self]
      rw [Option.map_some, Option.elim_some, hsame]
      exact h.owner k'

omit [DecidableEq Tid] in
theorem Follows.exec {o : RowOp K R ι} {f : o.Reply → RowProg K R ι (Except ε α)}
    (hrows : ∀ k r, fetch s.committed k = some r → I k r) (hrest : x.rest = .op o f)
    (howner : s'.owner = (o.locks (image x.writes s.committed)).elim s.owner
      fun k => Function.update s.owner k (some t)) :
    ∃ m', Follows I A J s' t (x.advance s.committed) m' := by
  have hwp := h.rest
  rw [hrest] at hwp
  have hinv := fetch_image_inv hrows h.rows
  cases o with
  | read k =>
    have hexpected : (heldMonitor ι I (A t)).expected m (.read k) (fetch (image x.writes s.committed) k) :=
      ⟨h.value k, hinv k⟩
    refine ⟨m, ?_⟩
    simp only [Active.advance, hrest]
    exact ⟨hwp.2 _ hexpected, h.keeps, h.rows, h.writes, by rw [hcom]; exact h.value,
      by rw [howner]; exact h.owner⟩
  | insert i =>
    refine ⟨m, ?_⟩
    simp only [Active.advance, hrest]
    exact ⟨hwp.2 _ trivial, h.keeps, h.rows, h.writes, by rw [hcom]; exact h.value,
      by rw [howner]; exact h.owner⟩
  | lock k => exact ⟨_, h.exec_lock keep hcom (hinv k) hrest howner⟩
  | write k r => exact ⟨_, h.exec_write keep hcom hrest howner⟩

end

theorem Tracked.begin (hp : Locks I (A t) (fun _ => none) (prog t) fun _ _ => True)
    (hJ : J t fun _ => none) (h : Tracked I A J s) (hs : s.step prog (.begin t) = some s') :
    Tracked I A J s' := by
  obtain ⟨hnone, rfl⟩ := step_begin hs
  refine ⟨h.rows, ?_, ?_⟩
  · intro u x hx
    by_cases hu : u = t
    · subst hu
      cases (Function.update_self u _ _).symm.trans hx
      refine ⟨fun _ => none, Prog.wp_mono _ _ (fun _ _ _ => trivial) hp, hJ, by simp, by simp, nofun, ?_⟩
      intro k
      constructor
      · intro ⟨r, hr⟩
        cases hr
      · intro howner
        exact absurd hnone (h.idle k u howner)
    · simp only [Function.update_of_ne hu] at hx
      obtain ⟨m, hm⟩ := h.active u x hx
      exact ⟨m, hm.frame (fun _ _ _ => rfl) fun _ => Iff.rfl⟩
  · intro k u howner
    by_cases hu : u = t
    · subst hu
      simp
    · simp only [Function.update_of_ne hu]
      exact h.idle k u howner

theorem Tracked.exec
    (keep : ∀ m o r, (heldMonitor ι I (A t)).allowed m o → (heldMonitor ι I (A t)).expected m o r →
      J t m → J t ((heldMonitor ι I (A t)).next m o r))
    (h : Tracked I A J s) (hs : s.step prog (.exec t) = some s') : Tracked I A J s' := by
  obtain ⟨x, o, f, hx, hrest, hfree, hs'⟩ := step_exec_eq hs
  have hcom : s'.committed = s.committed := by rw [hs']
  have hact : s'.active = Function.update s.active t (some (x.advance s.committed)) := by rw [hs']
  have howner : s'.owner = (o.locks (image x.writes s.committed)).elim s.owner
      fun k => Function.update s.owner k (some t) := by rw [hs']
  -- only `t` gains a row, and nobody loses one
  have hothers : ∀ u, u ≠ t → ∀ k, s'.owner k = some u ↔ s.owner k = some u := by
    intro u hu k
    rw [howner]
    cases hlocks : o.locks (image x.writes s.committed) with
    | none => rfl
    | some k' =>
      rw [Option.elim_some]
      by_cases hk : k = k'
      · subst hk
        rw [Function.update_self]
        rcases hfree k hlocks with hnone | hmine
        · simp [hnone, hu.symm]
        · simp [hmine]
      · rw [Function.update_of_ne hk]
  refine ⟨by rw [hcom]; exact h.rows, ?_, ?_⟩
  · intro u y hy
    rw [hact] at hy
    by_cases hu : u = t
    · subst hu
      cases (Function.update_self u _ _).symm.trans hy
      obtain ⟨m, hm⟩ := h.active u x hx
      exact hm.exec keep hcom h.rows hrest howner
    · rw [Function.update_of_ne hu] at hy
      obtain ⟨m, hm⟩ := h.active u y hy
      exact ⟨m, hm.frame (fun _ _ _ => by rw [hcom]) (hothers u hu)⟩
  · intro k u hk
    rw [hact]
    by_cases hu : u = t
    · subst hu
      simp
    · rw [Function.update_of_ne hu]
      exact h.idle k u ((hothers u hu k).mp hk)

theorem Tracked.release (h : Tracked I A J s) {committed : S}
    (hrows : ∀ k r, fetch committed k = some r → I k r)
    (hfetch : ∀ u x m, u ≠ t → Follows I A J s u x m → ∀ k v, m k = some v →
      fetch committed k = fetch s.committed k) {history : List (Tid × α)} :
    Tracked I A J { s.release t with committed := committed, history := history } := by
  refine ⟨hrows, ?_, ?_⟩
  · intro u x hx
    obtain ⟨hu, hx⟩ := active_release hx
    obtain ⟨m, hm⟩ := h.active u x hx
    exact ⟨m, hm.frame (hfetch u x m hu hm) (owner_release hu)⟩
  · intro k u hk
    have hu : u ≠ t := by
      rintro rfl
      simp only [Sys.release] at hk
      split at hk
      · cases hk
      · rename_i hne
        exact hne hk
    simp only [Sys.release, Function.update_of_ne hu]
    exact h.idle k u ((owner_release hu k).mp hk)

theorem Tracked.step
    (hp : ∀ t, Locks I (A t) (fun _ => none) (prog t) fun _ _ => True)
    (hJ : ∀ t, J t fun _ => none)
    (keep : ∀ t m o r, (heldMonitor ι I (A t)).allowed m o → (heldMonitor ι I (A t)).expected m o r →
      J t m → J t ((heldMonitor ι I (A t)).next m o r))
    (h : Tracked I A J s) {a : Act Tid} (hs : s.step prog a = some s') : Tracked I A J s' := by
  cases a with
  | begin t => exact h.begin (hp t) (hJ t) hs
  | exec t => exact h.exec (keep t) hs
  | commit t =>
    obtain ⟨x, a, hx, -, rfl⟩ := step_commit hs
    obtain ⟨m, hm⟩ := h.active t x hx
    apply h.release
    · intro k r hr
      rw [x.fetch_publish] at hr
      exact fetch_image_inv h.rows hm.rows k r hr
    · intro u y n hu hn k v hk
      exact hm.fetch_publish hn hu hk
  | abort t =>
    rw [step_abort hs]
    exact h.release h.rows fun _ _ _ _ _ _ _ _ => rfl

theorem tracked_of_reach
    (hp : ∀ t, Locks I (A t) (fun _ => none) (prog t) fun _ _ => True)
    (hJ : ∀ t, J t fun _ => none)
    (keep : ∀ t m o r, (heldMonitor ι I (A t)).allowed m o → (heldMonitor ι I (A t)).expected m o r →
      J t m → J t ((heldMonitor ι I (A t)).next m o r))
    (hrows : ∀ k r, fetch s₀ k = some r → I k r) (h : Reach (Sys.step prog) ok (start s₀) s) :
    Tracked I A J s := by
  apply h.invariant
  · exact ⟨hrows, nofun, nofun⟩
  · intro s a t hs _ hstep
    exact hs.step hp hJ keep hstep

omit [DecidableEq Tid] [DecidableEq K] in
theorem waits_iff {u : Tid} :
    s.Waits t u ↔ ∃ k, s.wanted t = some k ∧ s.owner k = some u ∧ u ≠ t := by
  simp only [Waits, Option.bind_eq_some_iff, exists_and_right, ← and_assoc]

omit [DecidableEq Tid] in
theorem Tracked.of_wanted (h : Tracked I A J s) {k : K} (hk : s.wanted t = some k)
    (howner : s.owner k ≠ some t) : 
    ∃ x m, s.active t = some x ∧ Follows I A J s t x m ∧ m k = none ∧ A t m k := by
  obtain ⟨x, hx, hk⟩ := Option.bind_eq_some_iff.mp hk
  obtain ⟨m, hm⟩ := h.active t x hx
  -- a row looked up before is either owned or not there
  have hnew (hfetch : (fetch (image x.writes s.committed) k).isSome) : m k = none := by
    cases hv : m k with
    | none => rfl
    | some v =>
      rw [hm.value k v hv] at hfetch
      obtain ⟨r, rfl⟩ := Option.isSome_iff_exists.mp hfetch
      exact absurd ((hm.owner k).mp ⟨r, hv⟩) howner
  refine ⟨x, m, hx, hm, ?_⟩
  have hrest := hm.rest
  cases hop : x.rest with
  | ret a =>
    rw [hop] at hk
    cases hk
  | op o f =>
    rw [hop] at hk hrest
    cases o with
    | read k' => cases hk
    | insert i => cases hk
    | lock k' =>
      obtain ⟨r, hr, rfl⟩ := Option.map_eq_some_iff.mp hk
      exact ⟨hnew (by rw [hr]; rfl), hrest.1⟩
    | write k' r' =>
      obtain ⟨r, hr, rfl⟩ := Option.map_eq_some_iff.mp hk
      exact absurd (hnew (by rw [hr]; rfl)) hrest.1.1

section

variable {ν : Type} [Preorder ν] (rank : Tid → K → ν)

omit [DecidableEq Tid] in
theorem Tracked.lt_of_wanted (hA : ∀ t m k, A t m k → m k ≠ none ∨ ∀ k', m.Has k' → rank t k' < rank t k)
    (h : Tracked I A J s) {k : K} (hk : s.wanted t = some k) (howner : s.owner k ≠ some t) {k' : K}
    (hk' : s.owner k' = some t) : rank t k' < rank t k := by
  obtain ⟨x, m, -, hm, hnew, hallowed⟩ := h.of_wanted hk howner
  rcases hA t m k hallowed with hknown | habove
  · exact absurd hnew hknown
  · exact habove k' ((hm.owner k').mpr hk')

omit [DecidableEq Tid] in
theorem Tracked.not_deadlocked
    (hA : ∀ t m k, A t m k → m k ≠ none ∨ ∀ k', m.Has k' → rank t k' < rank t k)
    (h : Tracked I A J s)
    (hle : ∀ t u v k, s.wanted t = some k → s.owner k = some u → u ≠ t → s.Waits u v →
      rank t k ≤ rank u k) : ¬s.Deadlocked := by
  -- along a chain of waits, the last transaction holds a row above the first one's wish
  have chain {t u : Tid} (hchain : Relation.TransGen s.Waits t u) (hwaits : ∃ v, s.Waits u v) :
      ∃ k k', s.wanted t = some k ∧ s.owner k ≠ some t ∧ s.owner k' = some u ∧
        rank t k ≤ rank u k' := by
    induction hchain with
    | single hfirst =>
      obtain ⟨v, hv⟩ := hwaits
      obtain ⟨k, hk, howner, hne⟩ := waits_iff.mp hfirst
      refine ⟨k, k, hk, ?_, howner, hle _ _ v k hk howner hne hv⟩
      rw [howner]
      exact fun heq => hne (Option.some.inj heq)
    | @tail b c _ hlast ih =>
      obtain ⟨v, hv⟩ := hwaits
      obtain ⟨k, k', hk, hown, hk', hrank⟩ := ih ⟨_, hlast⟩
      obtain ⟨k'', hk'', howner, hne⟩ := waits_iff.mp hlast
      refine ⟨k, k'', hk, hown, howner, ?_⟩
      have hown'' : s.owner k'' ≠ some b := by
        rw [howner]
        exact fun heq => hne (Option.some.inj heq)
      calc rank t k ≤ rank b k' := hrank
        _ ≤ rank b k'' := (h.lt_of_wanted rank hA hk'' hown'' hk').le
        _ ≤ rank c k'' := hle b c v k'' hk'' howner hne hv
  rintro ⟨t, hcycle⟩
  obtain ⟨u, hfirst, -⟩ := Relation.TransGen.head'_iff.mp hcycle
  obtain ⟨k, k', hk, hown, hk', hrank⟩ := chain hcycle ⟨u, hfirst⟩
  exact (hrank.trans_lt (h.lt_of_wanted rank hA hk hown hk')).false

end

end Sys

end AgentsAtScale.Transaction
