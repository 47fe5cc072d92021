import AgentsAtScale.Data.Dealing

namespace AgentsAtScale.Bench

open Data Function

/-- `f"{value:0{width}d}"`; the sign counts as one of the characters. -/
def zeroPadded (width : ℕ) (value : ℤ) : String :=
  let digits := Nat.toDigits 10 value.natAbs
  if value < 0 then .ofList ('-' :: digits.leftpad (width - 1) '0') else .ofList (digits.leftpad width '0')

structure Ids where
  userId : String
  segmentId : String
  newFlightId : String
  bookingReference : String

def ids (index groups : ℤ) : Except String Ids :=
  if groups = 0 then .error "integer modulo by zero"
  else
    .ok {
      userId := "b3000000-0000-0000-0000-" ++ zeroPadded 12 index
      segmentId := "b6000000-0000-0000-0000-" ++ zeroPadded 12 index
      newFlightId := "b1100000-0000-0000-0000-" ++ zeroPadded 12 (index.fmod groups)
      bookingReference := "BK" ++ zeroPadded 6 index }

structure Args where
  firstIndex : ℤ := 1
  seeded : ℤ
  groups : ℤ := 100

structure LoadGenerator where
  args : Args
  nextIndex : ℤ
  step : ℤ

namespace LoadGenerator

def new (args : Args) (shard : ℕ := 0) (shards : ℕ := 1) : LoadGenerator where
  args := args
  nextIndex := args.firstIndex + shard
  step := shards

def takeIndex (generator : LoadGenerator) : Except String ℤ × LoadGenerator :=
  if generator.nextIndex > generator.args.seeded then
    (.error "ran out of seeded reservations; seed more conversations", generator)
  else
    let index := generator.nextIndex
    (.ok index, { generator with nextIndex := generator.nextIndex + generator.step })

def Exhausted (generator : LoadGenerator) : Prop := ∃ err, generator.takeIndex.1 = .error err

theorem exhausted_iff {generator : LoadGenerator} :
    generator.Exhausted ↔ generator.args.seeded < generator.nextIndex := by
  rw [Exhausted, takeIndex]
  split <;> simp_all

def advance (generator : LoadGenerator) : LoadGenerator :=
  { generator with nextIndex := generator.nextIndex + generator.step }

theorem takeIndex_of_not_exhausted {generator : LoadGenerator} (h : ¬generator.Exhausted) :
    generator.takeIndex = (.ok generator.nextIndex, generator.advance) :=
  if_neg fun hlt => h (exhausted_iff.mpr hlt)

structure Deals (args : Args) (n k : ℕ) (generator : LoadGenerator) : Prop where
  args_eq : generator.args = args
  step_eq : generator.step = n
  next : DealtTo args.firstIndex n k generator.nextIndex

theorem Deals.advance {args : Args} {n k : ℕ} {generator : LoadGenerator} (h : generator.Deals args n k) :
    generator.advance.Deals args n k where
  args_eq := h.args_eq
  step_eq := h.step_eq
  next := by
    rw [LoadGenerator.advance, h.step_eq]
    exact h.next.next

end LoadGenerator

def sendUsers (users : ℤ) (shards : ℕ) : List ℤ :=
  (List.range shards).map fun shard : ℕ => users / shards + if shard < users % shards then 1 else 0

/-- What happens in a benchmark: a level starts, or a conversation of a process takes its
index. -/
inductive Event (n : ℕ)
  | level (users : ℤ)
  | take (shard : Fin n)

def Event.users : Event n → Option ℤ
  | .level users => some users
  | .take _ => none

structure Benchmark (n : ℕ) where
  generators : Fin n → LoadGenerator
  levels : List (ℤ × List ℤ) := []
  taken : List (Fin n × ℤ) := []

namespace Benchmark

variable {n : ℕ}

def start (n : ℕ) (args : Args) : Benchmark n where
  generators shard := .new args shard n

def step (bench : Benchmark n) : Event n → Benchmark n
  | .level users => { bench with levels := bench.levels ++ [(users, sendUsers users n)] }
  | .take shard =>
    let (index, generator) := (bench.generators shard).takeIndex
    { bench with
      generators := update bench.generators shard generator
      taken := bench.taken ++ (index.toOption.map (shard, ·)).toList }

/-- The processes go on with their generators from level to level, so a run is any
sequence of events. -/
def run (args : Args) (events : List (Event n)) : Benchmark n := events.foldl step (start n args)

def indices (bench : Benchmark n) : List ℤ := bench.taken.map Prod.snd

section

variable {bench : Benchmark n} {shard : Fin n}

theorem step_take_of_exhausted (h : (bench.generators shard).Exhausted) :
    bench.step (.take shard) = bench := by
  rw [LoadGenerator.exhausted_iff] at h
  simp [step, LoadGenerator.takeIndex, h, Except.toOption]

theorem step_take_of_not_exhausted (h : ¬(bench.generators shard).Exhausted) :
    bench.step (.take shard) =
      { bench with
        generators := update bench.generators shard (bench.generators shard).advance
        taken := bench.taken ++ [(shard, (bench.generators shard).nextIndex)] } := by
  simp [step, LoadGenerator.takeIndex_of_not_exhausted h, Except.toOption]

end

structure Dealing (args : Args) (bench : Benchmark n) : Prop where
  deals : ∀ shard : Fin n, (bench.generators shard).Deals args n shard
  mem_taken : ∀ shard i, (shard, i) ∈ bench.taken ↔
    DealtTo args.firstIndex n shard i ∧ i < (bench.generators shard).nextIndex
  seeded : ∀ i ∈ bench.indices, i ≤ args.seeded
  nodup : bench.indices.Nodup

theorem dealing_start (args : Args) : (start n args).Dealing args where
  deals shard := ⟨rfl, rfl, .start shard.isLt⟩
  mem_taken shard i := by
    refine ⟨fun h => absurd h List.not_mem_nil, fun ⟨hdealt, hlt⟩ => ?_⟩
    exact absurd hlt (hdealt.start_le shard.isLt).not_gt
  seeded _ h := absurd h List.not_mem_nil
  nodup := .nil

section

variable {args : Args} {bench : Benchmark n}

theorem Dealing.not_mem_indices (h : bench.Dealing args) (shard : Fin n) :
    (bench.generators shard).nextIndex ∉ bench.indices := by
  intro hmem
  obtain ⟨⟨other, i⟩, htaken, rfl⟩ := List.mem_map.mp hmem
  obtain ⟨hdealt, hlt⟩ := (h.mem_taken other _).mp htaken
  obtain rfl := Fin.ext (hdealt.place_eq (h.deals shard).next)
  exact lt_irrefl _ hlt

theorem Dealing.mem_take (h : bench.Dealing args) (shard : Fin n) (i : ℤ) :
    (shard, i) ∈ bench.taken ∨ i = (bench.generators shard).nextIndex ↔
      DealtTo args.firstIndex n shard i ∧ i < (bench.generators shard).nextIndex + n := by
  have hn : 0 < n := shard.pos
  rw [h.mem_taken]
  constructor
  · rintro (⟨hdealt, hlt⟩ | rfl)
    · exact ⟨hdealt, by omega⟩
    · exact ⟨(h.deals shard).next, by omega⟩
  · rintro ⟨hdealt, hlt⟩
    by_cases hle : (bench.generators shard).nextIndex ≤ i
    · exact .inr ((h.deals shard).next.eq_of_lt_next hdealt hle hlt)
    · exact .inl ⟨hdealt, by omega⟩

theorem Dealing.take (h : bench.Dealing args) (shard : Fin n) : (bench.step (.take shard)).Dealing args := by
  by_cases hex : (bench.generators shard).Exhausted
  · rwa [step_take_of_exhausted hex]
  · rw [step_take_of_not_exhausted hex]
    rw [LoadGenerator.exhausted_iff, (h.deals shard).args_eq, not_lt] at hex
    refine ⟨?_, fun s i => ?_, fun i hi => ?_, ?_⟩
    · exact (forall_update_iff _ fun (s : Fin n) g => LoadGenerator.Deals args n s g).mpr
        ⟨(h.deals shard).advance, fun s _ => h.deals s⟩
    · dsimp only
      obtain rfl | hne := eq_or_ne s shard
      · rw [update_self, LoadGenerator.advance, (h.deals s).step_eq, ← h.mem_take s i]
        simp
      · rw [update_of_ne hne, ← h.mem_taken]
        simp [hne]
    · rw [indices, List.map_append, List.mem_append] at hi
      obtain hi | hi := hi
      · exact h.seeded i hi
      · exact (List.mem_singleton.mp hi).trans_le hex
    · rw [indices, List.map_append]
      exact List.concat_eq_append ▸ h.nodup.concat (h.not_mem_indices shard)

theorem Dealing.step (h : bench.Dealing args) (event : Event n) : (bench.step event).Dealing args := by
  cases event with
  | level users => exact ⟨h.deals, h.mem_taken, h.seeded, h.nodup⟩
  | take shard => exact h.take shard

theorem Dealing.foldl (h : bench.Dealing args) (events : List (Event n)) :
    (events.foldl Benchmark.step bench).Dealing args := by
  induction events generalizing bench with
  | nil => exact h
  | cons event events ih => exact ih (h.step event)

theorem Dealing.taken_of_exhausted (h : bench.Dealing args) {shard : Fin n}
    (hex : (bench.generators shard).Exhausted) {i : ℤ} (hi : DealtTo args.firstIndex n shard i)
    (hseeded : i ≤ args.seeded) : (shard, i) ∈ bench.taken := by
  rw [LoadGenerator.exhausted_iff, (h.deals shard).args_eq] at hex
  exact (h.mem_taken shard i).mpr ⟨hi, hseeded.trans_lt hex⟩

end

theorem levels_foldl (bench : Benchmark n) (events : List (Event n)) :
    (events.foldl step bench).levels =
      bench.levels ++ (events.filterMap Event.users).map fun users => (users, sendUsers users n) := by
  induction events generalizing bench with
  | nil => simp
  | cons event events ih =>
    rw [List.foldl_cons, ih]
    cases event <;> simp [step, Event.users, List.filterMap_cons]

end Benchmark

theorem sum_sendUsers (hn : 0 < n) (users : ℤ) : (sendUsers users n).sum = users := sum_share hn users

theorem sendUsers_le_succ {users a b : ℤ} (ha : a ∈ sendUsers users n) (hb : b ∈ sendUsers users n) :
    a ≤ b + 1 := by
  obtain ⟨k, -, rfl⟩ := List.mem_map.mp ha
  obtain ⟨k', -, rfl⟩ := List.mem_map.mp hb
  exact share_le_succ users n k k'

theorem ofDigitChars_leftpad (width value : ℕ) :
    Nat.ofDigitChars 10 ((Nat.toDigits 10 value).leftpad width '0') 0 = value := by
  simp [List.leftpad, Nat.ofDigitChars_append]

theorem minus_not_mem_leftpad (width value : ℕ) : '-' ∉ (Nat.toDigits 10 value).leftpad width '0' := by
  intro h
  obtain h | h := List.mem_append.mp h
  · exact absurd (List.eq_of_mem_replicate h) (by decide)
  · exact absurd (Nat.isDigit_of_mem_toDigits (by decide) (by decide) h) (by decide)

theorem leftpad_injective {width i j : ℕ}
    (h : (Nat.toDigits 10 i).leftpad width '0' = (Nat.toDigits 10 j).leftpad width '0') : i = j := by
  rw [← ofDigitChars_leftpad width i, h, ofDigitChars_leftpad]

theorem zeroPadded_injective (width : ℕ) : Injective (zeroPadded width) := by
  intro i j h
  rw [zeroPadded, zeroPadded] at h
  split at h <;> split at h <;> rw [String.ofList_inj] at h
  · have habs := leftpad_injective (List.cons.inj h).2
    omega
  · exact absurd (h ▸ List.mem_cons_self) (minus_not_mem_leftpad width j.natAbs)
  · exact absurd (h ▸ List.mem_cons_self) (minus_not_mem_leftpad width i.natAbs)
  · have habs := leftpad_injective h
    omega

structure Ids.Apart (a b : Ids) : Prop where
  userId : a.userId ≠ b.userId
  segmentId : a.segmentId ≠ b.segmentId
  bookingReference : a.bookingReference ≠ b.bookingReference

theorem apart_of_ne {groups i j : ℤ} {a b : Ids} (hi : ids i groups = .ok a) (hj : ids j groups = .ok b)
    (h : i ≠ j) : a.Apart b := by
  rw [ids] at hi hj
  split at hi
  · cases hi
  · rw [if_neg ‹_›] at hj
    cases hi
    cases hj
    constructor <;> simpa using (zeroPadded_injective _).ne h

theorem benchmark_deals {n : ℕ} (hn : 0 < n) (args : Args) (events : List (Event n)) :
    let bench := Benchmark.run args events
    bench.indices.Nodup ∧
      (bench.indices.Pairwise fun i j =>
        ∀ a b, ids i args.groups = .ok a → ids j args.groups = .ok b → a.Apart b) ∧
      (∀ i ∈ bench.indices, args.firstIndex ≤ i ∧ i ≤ args.seeded) ∧
      (∀ shard : Fin n, (bench.generators shard).Exhausted → ∀ i, args.firstIndex ≤ i → i ≤ args.seeded →
        (i - args.firstIndex) % n = shard → (shard, i) ∈ bench.taken) ∧
      ((∀ shard, (bench.generators shard).Exhausted) →
        ∀ i, args.firstIndex ≤ i → i ≤ args.seeded → bench.indices.count i = 1) ∧
      bench.levels.map Prod.fst = events.filterMap Event.users ∧
      ∀ users counts, (users, counts) ∈ bench.levels →
        counts.length = n ∧ counts.sum = users ∧ ∀ a ∈ counts, ∀ b ∈ counts, a ≤ b + 1 := by
  intro bench
  have h : bench.Dealing args := (Benchmark.dealing_start args).foldl events
  have hlevels : bench.levels = (events.filterMap Event.users).map fun users => (users, sendUsers users n) :=
    Benchmark.levels_foldl (.start n args) events
  refine ⟨h.nodup, ?_, fun i hi => ⟨?_, h.seeded i hi⟩, ?_, ?_, by simp [hlevels, comp_def], ?_⟩
  · exact h.nodup.imp fun hne a b ha hb => apart_of_ne ha hb hne
  · obtain ⟨⟨shard, i⟩, htaken, rfl⟩ := List.mem_map.mp hi
    exact ((h.mem_taken shard i).mp htaken).1.first_le
  · exact fun shard hex i hfirst hseeded hmod => h.taken_of_exhausted hex ⟨hfirst, hmod⟩ hseeded
  · intro hex i hfirst hseeded
    obtain ⟨k, hk, hdealt⟩ := DealtTo.exists_place hn hfirst
    have htaken := h.taken_of_exhausted (hex ⟨k, hk⟩) hdealt hseeded
    exact List.count_eq_one_of_mem h.nodup (List.mem_map_of_mem htaken)
  · intro users counts hlevel
    rw [hlevels] at hlevel
    obtain ⟨_, -, ⟨⟩⟩ := List.mem_map.mp hlevel
    exact ⟨by simp [sendUsers], sum_sendUsers hn users, fun a ha b hb => sendUsers_le_succ ha hb⟩

theorem benchmark_deals_sample :
    let bench := Benchmark.run (n := 2) { seeded := 6 }
      [.level 3, .take 1, .take 1, .take 0, .take 1, .take 1, .take 0, .take 0]
    bench.indices = [2, 4, 1, 6, 3, 5] ∧ bench.levels = [(3, [2, 1])] ∧ bench.indices.Nodup :=
  ⟨by decide, by decide, (benchmark_deals (by decide) _ _).1⟩

end AgentsAtScale.Bench
