import AgentsAtScale.Data.Numerals
import AgentsAtScale.Jobs.Attempts
import AgentsAtScale.Jobs.Dispatch

namespace AgentsAtScale.Jobs.Backoff

open Program Data.Numerals

abbrev Duration := BitVec 64

def millisecond : Duration := 1000000

def milliseconds (d : Duration) : Int := d.toInt.tdiv 1000000

def atoi : String → Option Int := parseInt 64

def plainDigits : List Char → Option (List Char)
  | [] => none
  | [c] => if c.isDigit then some [c] else none
  | c :: '_' :: rest => if c.isDigit then (plainDigits rest).map (c :: ·) else none
  | c :: d :: rest => if c.isDigit then (plainDigits (d :: rest)).map (c :: ·) else none

/-- Python's `int` on texts with ASCII digits only; nothing for texts that raise `ValueError`,
as do too many digits. -/
def int (text : String) : Option Int :=
  let (sign, rest) := splitSign (trim Python.isSpace text).toList
  (plainDigits rest).bind fun digits =>
    if digits.length > 4300 then none else some (sign * Nat.ofDigitChars 10 digits 0)

abbrev Env := String → Option String

def Env.get (env : Env) (key : String) : String := (env key).getD ""

def envOrDefault (env : Env) (key fallback : String) : String :=
  if env.get key ≠ "" then env.get key else fallback

def envIntOrDefault (env : Env) (key : String) (fallback : Int) : Int :=
  match atoi (env.get key) with
  | none => fallback
  | some value => if value < 0 then fallback else value

def envInt (env : Env) (name : String) (default : Int) (minimum : Int := 0) : Int :=
  match int ((env name).getD (toString default)) with
  | none => default
  | some value => if value ≥ minimum then value else default

structure Config where
  rabbitMQQueue : String
  jobMaxAttempts : Int
  jobRetryBaseMS : Int

def Config.load (env : Env) : Config where
  rabbitMQQueue := envOrDefault env "RABBITMQ_QUEUE" "agent_jobs"
  jobMaxAttempts := envIntOrDefault env "JOB_MAX_ATTEMPTS" 3
  jobRetryBaseMS := envIntOrDefault env "JOB_RETRY_BASE_MS" 1000

def Config.loadSettings (env : Env) : Config where
  rabbitMQQueue := (env "RABBITMQ_QUEUE").getD "agent_jobs"
  jobMaxAttempts := envInt env "JOB_MAX_ATTEMPTS" 3
  jobRetryBaseMS := envInt env "JOB_RETRY_BASE_MS" 1000

def Config.retryDelays (cfg : Config) : List Duration :=
  let levels := max (cfg.jobMaxAttempts - 1) 1
  (List.range levels.toNat).map fun i : Nat => (BitVec.ofInt 64 cfg.jobRetryBaseMS * millisecond) <<< i

def Config.retryDelaysMS (cfg : Config) : List Int :=
  let levels := max (cfg.jobMaxAttempts - 1) 1
  (List.range levels.toNat).map fun level : Nat => cfg.jobRetryBaseMS <<< level

structure DelayQueue where
  name : String
  messageTTL : Int
  deadLetterExchange : String
  deadLetterRoutingKey : String

def declare (queue : String) (delays : List Int) : List DelayQueue :=
  delays.zipIdx.map fun (delay, level) =>
    { name := retryQueue queue (level + 1)
      messageTTL := delay
      deadLetterExchange := ""
      deadLetterRoutingKey := queue }

def retryKey (retryQueues : List String) (level : Int) : Except String String :=
  if retryQueues.length = 0 then .error "no retry queues declared"
  else
    let level := min (max level 1) retryQueues.length
    match retryQueues[(level - 1).toNat]? with
    | none => .error "index out of range"
    | some name => .ok name

/-- The delay of a job that is retried at a level: its key goes to the declared queue of
that name. -/
def delayOf (queue : String) (delays : List Int) (level : Int) : Option Int :=
  match retryKey ((declare queue delays).map (·.name)) level with
  | .error _ => none
  | .ok key => ((declare queue delays).find? (·.name = key)).map (·.messageTTL)

def Config.delay (cfg : Config) : Int → Option Int := delayOf cfg.rabbitMQQueue (cfg.retryDelays.map milliseconds)

def Config.delayMS (cfg : Config) : Int → Option Int := delayOf cfg.rabbitMQQueue cfg.retryDelaysMS

section

variable {queue : String} {delays : List Int}

theorem getElem?_declare (i : Nat) : (declare queue delays)[i]? =
    delays[i]?.map fun delay => ⟨retryQueue queue (i + 1), delay, "", queue⟩ := by
  simp [declare, List.getElem?_zipIdx, Option.map_map, Function.comp_def]

theorem find?_declare {i : Nat} {delay : Int} (h : delays[i]? = some delay) :
    (declare queue delays).find? (·.name = retryQueue queue (i + 1)) =
      some ⟨retryQueue queue (i + 1), delay, "", queue⟩ := by
  have hi : (declare queue delays)[i]? = some ⟨retryQueue queue (i + 1), delay, "", queue⟩ := by
    rw [getElem?_declare, h, Option.map_some]
  obtain ⟨hlt, hget⟩ := List.getElem?_eq_some_iff.mp hi
  refine List.find?_eq_some_iff_getElem.mpr ⟨decide_eq_true rfl, i, hlt, hget, fun j hj => ?_⟩
  -- an earlier queue has the name of its own level
  have hother : (declare queue delays)[j]? = _ := getElem?_declare j
  rw [List.getElem?_eq_getElem (Nat.lt_trans hj hlt)] at hother
  obtain ⟨delay', -, hj'⟩ := Option.map_eq_some_iff.mp hother.symm
  rw [← hj', Bool.not_eq_true', decide_eq_false_iff_not]
  exact fun hname => Nat.ne_of_lt hj (Nat.succ.inj (retryQueue_injective queue hname))

theorem delayOf_eq {level : Int} {i : Nat} {delay : Int} (hlevel : min (max level 1) delays.length = i + 1)
    (h : delays[i]? = some delay) : delayOf queue delays level = some delay := by
  have hlength : (declare queue delays).length = delays.length := by simp [declare]
  have hkey : retryKey ((declare queue delays).map (·.name)) level = .ok (retryQueue queue (i + 1)) := by
    have hpos : delays.length ≠ 0 := by
      rintro hzero
      rw [List.length_eq_zero_iff.mp hzero] at h
      cases h
    have hindex : ((i : Int) + 1 - 1).toNat = i := by omega
    simp only [retryKey, List.length_map, hlength, hlevel, if_neg hpos, hindex, List.getElem?_map,
      getElem?_declare, h, Option.map_some]
  rw [delayOf, hkey]
  exact congrArg (Option.map (·.messageTTL)) (find?_declare h)

theorem delayOf_range {n k : Nat} (delay : Nat → Int) (h1 : 1 ≤ k) (hk : k ≤ n) :
    delayOf queue ((List.range n).map delay) k = some (delay (k - 1)) := by
  refine delayOf_eq (i := k - 1) ?_ ?_
  · rw [List.length_map, List.length_range]
    omega
  · rw [List.getElem?_map, List.getElem?_range (by omega), Option.map_some]

end

section

variable {cfg : Config} {k : Nat} (h1 : 1 ≤ k) (hk : (k : Int) ≤ max (cfg.jobMaxAttempts - 1) 1)
include h1 hk

theorem Config.delay_eq : cfg.delay k =
    some (milliseconds ((BitVec.ofInt 64 cfg.jobRetryBaseMS * millisecond) <<< (k - 1))) := by
  have hlevels : k ≤ (max (cfg.jobMaxAttempts - 1) 1).toNat := by omega
  rw [Config.delay, Config.retryDelays, List.map_map, delayOf_range _ h1 hlevels, Function.comp_apply]

theorem Config.delayMS_eq : cfg.delayMS k = some (cfg.jobRetryBaseMS * 2 ^ (k - 1)) := by
  have hlevels : k ≤ (max (cfg.jobMaxAttempts - 1) 1).toNat := by omega
  rw [Config.delayMS, Config.retryDelaysMS, delayOf_range _ h1 hlevels, Int.shiftLeft_eq]

end

theorem twoPow_eq_ofInt (i : Nat) : BitVec.twoPow 64 i = BitVec.ofInt 64 (2 ^ i) := by
  have hcast : ((2 ^ i : Nat) : Int) = 2 ^ i := Int.natCast_pow 2 i
  rw [← hcast, BitVec.ofInt_natCast]
  exact BitVec.eq_of_toNat_eq (by rw [BitVec.toNat_twoPow, BitVec.toNat_ofNat])

theorem toInt_shiftLeft_nanoseconds (base : Int) (i : Nat) :
    ((BitVec.ofInt 64 base * millisecond) <<< i).toInt = (base * 2 ^ i * 1000000).bmod (2 ^ 64) := by
  have hmillisecond : millisecond = BitVec.ofInt 64 1000000 := rfl
  rw [BitVec.shiftLeft_eq_mul_twoPow, twoPow_eq_ofInt, hmillisecond, ← BitVec.ofInt_mul,
    ← BitVec.ofInt_mul, BitVec.toInt_ofInt, Int.mul_right_comm]

theorem tdiv_le {x : Int} (h : x < 2 ^ 63) : x.tdiv 1000000 ≤ 9223372036854 := by
  obtain hx | hx := Int.le_total 0 x
  · rw [Int.tdiv_eq_ediv_of_nonneg hx]
    omega
  · have hneg : 0 ≤ (-x).tdiv 1000000 := Int.tdiv_nonneg (by omega) (by decide)
    rw [Int.neg_tdiv] at hneg
    omega

theorem milliseconds_eq_iff {base : Int} (hbase : 0 ≤ base) (i : Nat) :
    milliseconds ((BitVec.ofInt 64 base * millisecond) <<< i) = base * 2 ^ i ↔
      base * 2 ^ i * 1000000 < 2 ^ 63 := by
  rw [milliseconds, toInt_shiftLeft_nanoseconds]
  have hnonneg : 0 ≤ base * 2 ^ i := Int.mul_nonneg hbase (Int.le_of_lt (Int.pow_pos (by decide)))
  generalize base * 2 ^ i = delay at hnonneg
  constructor
  · intro h
    have hlt := Int.bmod_lt (x := delay * 1000000) (m := 2 ^ 64) (by decide)
    have hle := tdiv_le (x := (delay * 1000000).bmod (2 ^ 64)) (by omega)
    omega
  · intro h
    rw [Int.bmod_eq_of_le (by omega) (by omega), Int.mul_tdiv_cancel _ (by decide)]

theorem envIntOrDefault_bounds (env : Env) (key : String) {fallback : Int}
    (h0 : 0 ≤ fallback) (h : fallback < 2 ^ 63) :
    0 ≤ envIntOrDefault env key fallback ∧ envIntOrDefault env key fallback < 2 ^ 63 := by
  rw [envIntOrDefault]
  split
  · exact ⟨h0, h⟩
  · rename_i value hvalue
    have hbounds := parseInt_bounds hvalue
    split
    · exact ⟨h0, h⟩
    · omega

theorem Config.exists_load_iff {cfg : Config} : (∃ env, Config.load env = cfg) ↔
    cfg.rabbitMQQueue ≠ "" ∧ (0 ≤ cfg.jobMaxAttempts ∧ cfg.jobMaxAttempts < 2 ^ 63) ∧
      0 ≤ cfg.jobRetryBaseMS ∧ cfg.jobRetryBaseMS < 2 ^ 63 := by
  constructor
  · rintro ⟨env, rfl⟩
    refine ⟨?_, envIntOrDefault_bounds _ _ (by decide) (by decide),
      envIntOrDefault_bounds _ _ (by decide) (by decide)⟩
    simp only [load, envOrDefault]
    split
    · assumption
    · decide
  · obtain ⟨queue, attempts, base⟩ := cfg
    rintro ⟨hqueue, ⟨ha0, ha⟩, hb0, hb⟩
    obtain ⟨attempts, rfl⟩ := Int.eq_ofNat_of_zero_le ha0
    obtain ⟨base, rfl⟩ := Int.eq_ofNat_of_zero_le hb0
    dsimp only at ha hb
    let env : Env := fun key =>
      if key = "RABBITMQ_QUEUE" then some queue
      else if key = "JOB_MAX_ATTEMPTS" then some (toString attempts)
      else some (toString base)
    have hname : env.get "RABBITMQ_QUEUE" = queue := by simp [env, Env.get]
    have hattempts : env.get "JOB_MAX_ATTEMPTS" = toString attempts := by simp [env, Env.get]
    have hbase : env.get "JOB_RETRY_BASE_MS" = toString base := by simp [env, Env.get]
    refine ⟨env, ?_⟩
    rw [load, envOrDefault, hname, if_pos hqueue, envIntOrDefault, hattempts, atoi, parseInt_toString (by omega),
      envIntOrDefault, hbase, atoi, parseInt_toString (by omega)]
    dsimp only
    rw [if_neg (by omega), if_neg (by omega)]

def Other (o : Op) : Prop := ∀ job level, o ≠ .retry job level

structure RetriesAt (level : Int) (calls : List (Sigma Op.Reply)) : Prop where
  retried : ∃ job reply, ⟨.retry job level, reply⟩ ∈ calls
  level_eq : ∀ job level' reply, ⟨.retry job level', reply⟩ ∈ calls → level' = level

section

variable {job : Job} {level : Int} {calls : List (Sigma Op.Reply)}

theorem RetriesAt.cons {call : Sigma Op.Reply} (h : RetriesAt level calls) (hcall : Other call.1) :
    RetriesAt level (call :: calls) where
  retried := h.retried.imp fun _ => .imp fun _ => List.mem_cons_of_mem _
  level_eq job level' reply hmem := by
    obtain rfl | hmem := List.mem_cons.mp hmem
    · exact absurd rfl (hcall job level')
    · exact h.level_eq job level' reply hmem

theorem retriesAt_of_runs {settle : Except String Unit → Task α} {a : α}
    (hsettle : ∀ reply, (settle reply).Uses Other)
    (h : (Broker.retry job level >>= settle).Runs calls a) : RetriesAt level calls := by
  cases h with
  | @op _ _ reply calls _ h =>
    have hother := (hsettle reply).of_runs h
    refine ⟨⟨job, reply, List.mem_cons_self⟩, fun job' level' reply' hmem => ?_⟩
    obtain heq | hmem := List.mem_cons.mp hmem
    · cases heq
      rfl
    · exact absurd rfl (hother _ hmem job' level')

theorem retriesAt_delay (h : (Service.delay job level).Runs calls ()) : RetriesAt level calls := by
  refine retriesAt_of_runs (fun reply => ?_) h
  cases reply <;> exact .bind (.call (by rintro _ _ ⟨⟩)) fun _ => .ret _

theorem retriesAt_retry {s : Service} {err : String} (hmore : job.attempt + 1 < s.options.maxAttempts)
    (h : (s.retry job err).Runs calls ()) : RetriesAt (job.attempt + 1) calls := by
  rw [Service.retry, if_neg (by exact Int.not_le.mpr hmore)] at h
  cases h with
  | op h => exact (retriesAt_delay h).cons (by rintro _ _ ⟨⟩)

theorem retriesAt_busy {s : Service} {request : AgentRequest}
    (h : (s.processRequest job request).Runs
      (⟨.acquireConversationLock request.conversation job.id, .ok false⟩ :: calls) ()) :
    RetriesAt 1 calls := by
  cases h with
  | op h => exact retriesAt_delay h

namespace Python

theorem retriesAt_delay {result : Except String Unit} (h : (Python.JobService.delay job level).Runs calls result) :
    RetriesAt level calls := by
  refine retriesAt_of_runs (fun reply => ?_) h
  cases reply <;> exact .call (by rintro _ _ ⟨⟩)

theorem retriesAt_retry {s : Python.JobService} {err : String} {result : Except String Unit}
    (hmore : job.attempt + 1 < s.options.maxAttempts) (h : (s.retry job err).Runs calls result) :
    RetriesAt (job.attempt + 1) calls := by
  rw [Python.JobService.retry, if_neg (by exact Int.not_le.mpr hmore)] at h
  cases h with
  | op h => exact (Python.retriesAt_delay h).cons (by rintro _ _ ⟨⟩)

theorem retriesAt_busy {s : Python.JobService} {request : AgentRequest} {result : Except String Unit}
    (h : (s.processRequest job request).Runs
      (⟨.acquireConversationLock request.conversation job.id, .ok false⟩ :: calls) result) :
    RetriesAt 1 calls := by
  cases h with
  | op h => exact Python.retriesAt_delay h

end Python

end

structure Delays (delay : Int → Option Int) (calls : List (Sigma Op.Reply)) (ms : Int) : Prop where
  retried : ∃ job level reply, ⟨.retry job level, reply⟩ ∈ calls
  delay_eq : ∀ job level reply, ⟨.retry job level, reply⟩ ∈ calls → delay level = some ms

theorem RetriesAt.delays_iff {level : Int} {calls : List (Sigma Op.Reply)} (h : RetriesAt level calls)
    {delay : Int → Option Int} {ms : Int} : Delays delay calls ms ↔ delay level = some ms := by
  obtain ⟨job, reply, hmem⟩ := h.retried
  constructor
  · exact fun hdelays => hdelays.delay_eq job level reply hmem
  · intro hdelay
    refine ⟨⟨job, level, reply, hmem⟩, fun job' level' reply' hmem' => ?_⟩
    rw [h.level_eq job' level' reply' hmem', hdelay]

def Config.service (cfg : Config) (runner : Bool) : Service :=
  .new { maxAttempts := cfg.jobMaxAttempts } runner

def Config.jobService (cfg : Config) (runner : Bool) : Python.JobService :=
  { options := { maxAttempts := cfg.jobMaxAttempts }, runner := runner }

def Config.RetriesAfter (cfg : Config) (k : Nat) (ms : Int) : Prop :=
  ∀ (runner : Bool) (job : Job) (err : String) (calls : List (Sigma Op.Reply)), job.attempt + 1 = k →
    ((cfg.service runner).retry job err).Runs calls () → Delays cfg.delay calls ms

def Config.WaitsFor (cfg : Config) (ms : Int) : Prop :=
  ∀ (runner : Bool) (job : Job) (request : AgentRequest) (calls : List (Sigma Op.Reply)),
    ((cfg.service runner).processRequest job request).Runs
      (⟨.acquireConversationLock request.conversation job.id, .ok false⟩ :: calls) () →
    Delays cfg.delay calls ms

def Config.PythonRetriesAfter (cfg : Config) (k : Nat) (ms : Int) : Prop :=
  ∀ (runner : Bool) (job : Job) (err : String) (calls : List (Sigma Op.Reply)) (result : Except String Unit),
    job.attempt + 1 = k → ((cfg.jobService runner).retry job err).Runs calls result →
    Delays cfg.delayMS calls ms

def Config.PythonWaitsFor (cfg : Config) (ms : Int) : Prop :=
  ∀ (runner : Bool) (job : Job) (request : AgentRequest) (calls : List (Sigma Op.Reply))
      (result : Except String Unit),
    ((cfg.jobService runner).processRequest job request).Runs
      (⟨.acquireConversationLock request.conversation job.id, .ok false⟩ :: calls) result →
    Delays cfg.delayMS calls ms

section

variable {cfg : Config} {k : Nat} {ms : Int}

theorem lt_maxAttempts_service {attempt : Int} {runner : Bool} (h : attempt < cfg.jobMaxAttempts) :
    attempt < (cfg.service runner).options.maxAttempts := by
  simp only [Config.service, Service.new]
  split
  · rename_i hless
    exact Int.lt_trans h hless
  · exact h

theorem Config.retriesAfter_iff (hk : (k : Int) < cfg.jobMaxAttempts) :
    cfg.RetriesAfter k ms ↔ cfg.delay k = some ms := by
  constructor
  · intro h
    let job : Job := { id := "", payload := none, attempt := k - 1 }
    have hattempt : job.attempt + 1 = k := Int.sub_add_cancel k 1
    obtain ⟨calls, _, hruns, -⟩ := exists_clear_runs ((cfg.service true).retry job "")
    have hretries := retriesAt_retry (lt_maxAttempts_service (by rwa [hattempt])) hruns
    rw [hattempt] at hretries
    exact hretries.delays_iff.mp (h true job "" calls hattempt hruns)
  · intro h runner job err calls hattempt hruns
    have hretries := retriesAt_retry (lt_maxAttempts_service (by rwa [hattempt])) hruns
    rw [hattempt] at hretries
    exact hretries.delays_iff.mpr h

theorem Config.waitsFor_iff : cfg.WaitsFor ms ↔ cfg.delay 1 = some ms := by
  constructor
  · intro h
    let job : Job := { id := "", payload := none }
    obtain ⟨calls, _, hruns, -⟩ := exists_clear_runs (Service.delay job 1)
    have hbusy : ((cfg.service true).processRequest job {}).Runs
        (⟨.acquireConversationLock _ job.id, .ok false⟩ :: calls) () := .op hruns
    exact (retriesAt_busy hbusy).delays_iff.mp (h true job {} calls hbusy)
  · exact fun h runner job request calls hruns => (retriesAt_busy hruns).delays_iff.mpr h

theorem Config.pythonRetriesAfter (hk : (k : Int) < cfg.jobMaxAttempts) (h : cfg.delayMS k = some ms) :
    cfg.PythonRetriesAfter k ms := by
  intro runner job err calls result hattempt hruns
  have hretries := Python.retriesAt_retry (s := cfg.jobService runner) (by rwa [hattempt]) hruns
  rw [hattempt] at hretries
  exact hretries.delays_iff.mpr h

end

theorem backoff_exact_iff (env : Env) :
    ((∀ k : Nat, 1 ≤ k → k < (Config.load env).jobMaxAttempts →
        ((Config.load env).RetriesAfter k ((Config.load env).jobRetryBaseMS * 2 ^ (k - 1)) ↔
          (Config.load env).jobRetryBaseMS * 2 ^ (k - 1) * 1000000 < 2 ^ 63)) ∧
      ((Config.load env).WaitsFor (Config.load env).jobRetryBaseMS ↔
        (Config.load env).jobRetryBaseMS * 1000000 < 2 ^ 63)) ∧
    (∀ k : Nat, 1 ≤ k → k < (Config.loadSettings env).jobMaxAttempts →
      (Config.loadSettings env).PythonRetriesAfter k
        ((Config.loadSettings env).jobRetryBaseMS * 2 ^ (k - 1))) ∧
    (Config.loadSettings env).PythonWaitsFor (Config.loadSettings env).jobRetryBaseMS := by
  obtain ⟨-, -, hbase, -⟩ := Config.exists_load_iff.mp ⟨env, rfl⟩
  refine ⟨⟨fun k h1 hk => ?_, ?_⟩, fun k h1 hk => ?_, fun runner job request calls result hruns => ?_⟩
  · rw [Config.retriesAfter_iff hk, Config.delay_eq h1 (by omega), Option.some_inj,
      milliseconds_eq_iff hbase]
  · have hdelay : (Config.load env).delay 1 = _ := Config.delay_eq (k := 1) (by omega) (by omega)
    rw [Config.waitsFor_iff, hdelay, Option.some_inj]
    simpa using milliseconds_eq_iff hbase 0
  · exact Config.pythonRetriesAfter hk (Config.delayMS_eq h1 (by omega))
  · have hdelay : (Config.loadSettings env).delayMS 1 = _ :=
      Config.delayMS_eq (k := 1) (by omega) (by omega)
    rw [Int.pow_zero, Int.mul_one] at hdelay
    exact (Python.retriesAt_busy hruns).delays_iff.mpr hdelay

namespace Sample

def env (attempts : String) : Env := fun key => if key = "JOB_MAX_ATTEMPTS" then some attempts else none

end Sample

theorem backoff_exact_iff_sample :
    (Config.load (Sample.env "4")).RetriesAfter 3 4000 ∧
      (Config.loadSettings (Sample.env "4")).PythonRetriesAfter 3 4000 :=
  ⟨((backoff_exact_iff (Sample.env "4")).1.1 3 (by decide) (by decide +kernel)).mpr (by decide +kernel),
    (backoff_exact_iff (Sample.env "4")).2.1 3 (by decide) (by decide +kernel)⟩

theorem backoff_wraps :
    let cfg := Config.load (Sample.env "60")
    cfg.jobMaxAttempts = 60 ∧ cfg.jobRetryBaseMS = 1000 ∧
      cfg.RetriesAfter 35 (-1266874889709) ∧ cfg.RetriesAfter 56 0 ∧
      (Config.loadSettings (Sample.env "60")).PythonRetriesAfter 35 (1000 * 2 ^ 34) := by
  have hattempts : (Config.load (Sample.env "60")).jobMaxAttempts = 60 := by decide +kernel
  have hbase : (Config.load (Sample.env "60")).jobRetryBaseMS = 1000 := by decide +kernel
  have hpython : (Config.loadSettings (Sample.env "60")).jobMaxAttempts = 60 := by decide +kernel
  have hpythonBase : (Config.loadSettings (Sample.env "60")).jobRetryBaseMS = 1000 := by decide +kernel
  refine ⟨hattempts, hbase, ?_, ?_, ?_⟩
  · rw [Config.retriesAfter_iff (by rw [hattempts]; decide),
      Config.delay_eq (by decide) (by rw [hattempts]; decide), hbase]
    decide +kernel
  · rw [Config.retriesAfter_iff (by rw [hattempts]; decide),
      Config.delay_eq (by decide) (by rw [hattempts]; decide), hbase]
    decide +kernel
  · refine Config.pythonRetriesAfter (by rw [hpython]; decide) ?_
    rw [Config.delayMS_eq (by decide) (by rw [hpython]; decide), hpythonBase]

end AgentsAtScale.Jobs.Backoff
