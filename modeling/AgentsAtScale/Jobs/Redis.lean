import AgentsAtScale.Data.Expiring
import AgentsAtScale.Jobs.SystemLaws

/-! The job store as it is in Redis: one space of keys, strings and hashes, every key with
a time to live.  Within a day, a deployment on Redis does what the system on separate maps
does, in which locks expire at any time. -/

namespace AgentsAtScale.Jobs

open Function Transition Expiring

def Status.text : Status → String
  | .published => "published"
  | .processing => "processing"
  | .waitingForConfirmation => "waiting_for_confirmation"
  | .completed => "completed"
  | .failed => "failed"
  | .retrying => "retrying"

def Status.ofText (text : String) : Option Status :=
  [.published, .processing, .waitingForConfirmation, .completed, .failed, .retrying].find? (·.text = text)

theorem Status.ofText_text (status : Status) : Status.ofText status.text = some status := by
  cases status <;> decide +kernel

namespace Redis

inductive Kind
  | status | metadata | timing | idempotency | lock
  deriving DecidableEq

structure Key where
  kind : Kind
  name : String

def Kind.front : Kind → String
  | .status | .metadata | .timing => "job:"
  | .idempotency => "airline:idempotency:"
  | .lock => "airline:lock:"

def Kind.back : Kind → String
  | .status => ":status"
  | .metadata => ":metadata"
  | .timing => ":timing"
  | .idempotency | .lock => ""

def Key.text (key : Key) : String := key.kind.front ++ key.name ++ key.kind.back

theorem Kind.eq_of_append {kind kind' : Kind} {l l' : List Char}
    (h : kind.front.toList ++ l ++ kind.back.toList = kind'.front.toList ++ l' ++ kind'.back.toList) :
    kind = kind' := by
  have hjob : "job:".toList = ['j', 'o', 'b', ':'] := by decide +kernel
  have hstatus : ":status".toList = [':', 's', 't', 'a', 't', 'u', 's'] := by decide +kernel
  have hmetadata : ":metadata".toList = [':', 'm', 'e', 't', 'a', 'd', 'a', 't', 'a'] := by decide +kernel
  have htiming : ":timing".toList = [':', 't', 'i', 'm', 'i', 'n', 'g'] := by decide +kernel
  have hclaim : "airline:idempotency:".toList = ['a', 'i', 'r', 'l', 'i', 'n', 'e', ':', 'i', 'd', 'e', 'm', 'p', 'o',
    't', 'e', 'n', 'c', 'y', ':'] := by decide +kernel
  have hlock : "airline:lock:".toList = ['a', 'i', 'r', 'l', 'i', 'n', 'e', ':', 'l', 'o', 'c', 'k', ':'] := by
    decide +kernel
  have hhead := congrArg List.head? h
  have hlast := congrArg (fun l => l.reverse.head?) h
  have hninth := congrArg (fun l => l[8]?) h
  cases kind <;> cases kind' <;>
    simp [Kind.front, Kind.back, hjob, hstatus, hmetadata, htiming, hclaim, hlock] at hhead hlast hninth ⊢

theorem Key.text_injective : Injective Key.text := by
  rintro ⟨kind, name⟩ ⟨kind', name'⟩ h
  have hlist := congrArg String.toList h
  simp only [Key.text, String.toList_append] at hlist
  obtain rfl := Kind.eq_of_append hlist
  obtain rfl := String.toList_injective (List.append_cancel_left (List.append_cancel_right hlist))
  rfl

inductive Value
  | text (text : String)
  | hash (fields : TimingField → Option Int)

abbrev Store := Expiring.Store String Value

def wrongType : String := "WRONGTYPE Operation against a key holding the wrong kind of value"

def statusTTL : Int := 24 * 60 * 60 * 1000

section

variable (r : Store) (now : Int) (key : Key)

def get : Except String (Option String) :=
  match find r now key.text with
  | none => .ok none
  | some (.text text) => .ok (some text)
  | some (.hash _) => .error wrongType

def set (text : String) (ttl : Int) : Store := put r key.text (.text text) (now + ttl)

def setNX (text : String) (ttl : Int) : Bool × Store :=
  match find r now key.text with
  | none => (true, set r now key text ttl)
  | some _ => (false, r)

def writeField (field : TimingField) (write : Option Int → Int) : Except String Unit × Store :=
  match find r now key.text with
  | none => (.ok (), put r key.text (.hash (update (fun _ => none) field (some (write none)))) (now + statusTTL))
  | some (.hash fields) =>
    (.ok (), put r key.text (.hash (update fields field (some (write (fields field))))) (now + statusTTL))
  | some (.text text) => (.error wrongType, set r now key text statusTTL)

def releaseLock (token : String) : Except String Unit × Store :=
  match get r now key with
  | .ok (some text) => (.ok (), if text = token then drop r key.text else r)
  | .ok none => (.ok (), r)
  | .error err => (.error err, r)

end

structure Settings where
  marshal : WaitingMetadata → String
  lockTTL : Int

/-- An operation of the job store, as its client carries it out.  The other operations
are none of Redis. -/
def perform (settings : Settings) (now : Int) (r : Store) : (o : Op) → Option (o.Reply × Store)
  | .setJobStatus id status => some (Except.ok (), set r now ⟨.status, id⟩ status.text statusTTL)
  | .getJobStatus id =>
    some (((get r now ⟨.status, id⟩).map (·.bind Status.ofText)).mapError ("get job status: " ++ ·), r)
  | .setJobMetadata id metadata =>
    some (Except.ok (), set r now ⟨.metadata, id⟩ (settings.marshal metadata) statusTTL)
  | .markJobTiming id field ms =>
    let (result, r') := writeField r now ⟨.timing, id⟩ field (·.getD ms)
    some (result.mapError ("set job timing: " ++ ·), r')
  | .setJobTiming id field value =>
    let (result, r') := writeField r now ⟨.timing, id⟩ field fun _ => value
    some (result.mapError ("set job timing: " ++ ·), r')
  | .setIdempotencyKeyNX key id =>
    let (claimed, r') := setNX r now ⟨.idempotency, key⟩ id statusTTL
    some (Except.ok claimed, r')
  | .getIdempotencyKey key =>
    some ((get r now ⟨.idempotency, key⟩).mapError ("get idempotency key: " ++ ·), r)
  | .releaseIdempotencyKey key => some (Except.ok (), drop r (Key.text ⟨.idempotency, key⟩))
  | .acquireConversationLock conversation token =>
    let (acquired, r') := setNX r now ⟨.lock, conversation⟩ token settings.lockTTL
    some (Except.ok acquired, r')
  | .releaseConversationLock conversation token =>
    let (result, r') := releaseLock r now ⟨.lock, conversation⟩ token
    some (result.mapError ("release conversation lock: " ++ ·), r')
  | _ => none

/-- A deployment on Redis: the base has the broker, the processings and the history, and
its store is not used. -/
structure Cluster where
  base : State := {}
  redis : Store := fun _ => none
  clock : Int := 0

inductive Event
  | act (action : Action)
  | tick (ms : Nat)

namespace Cluster

variable (cfg : Config) (settings : Settings)

def answer (c : Cluster) (pid : Nat) (o : Op) (reaction : Reaction) : Option (o.Reply × Cluster) :=
  match perform settings c.clock c.redis o with
  | none => (c.base.answer cfg pid o reaction).map fun (reply, t) => (reply, { c with base := t })
  | some (reply, r) =>
    match reaction with
    | .done => some (reply, { c with redis := r })
    | .failed cause => (o.error cause).map (·, c)
    | .lost cause => (o.error cause).map (·, { c with redis := r })
    | _ => none

def step (c : Cluster) : Event → Option Cluster
  | .tick ms => some { c with clock := c.clock + ms }
  | .act (.exec pid reaction) =>
    match c.base.procs pid with
    | some { role := role, rest := .op o k, progress := p } =>
      (c.answer cfg settings pid o reaction).map fun (reply, d) =>
        { d with base := d.base.resume pid role o p (p.next o reply) (k reply) }
    | _ => none
  | .act (.expireLock _) => none
  | .act a => (Jobs.step cfg c.base a).map fun t => { c with base := t }

def withinDay (c : Cluster) : Event → Prop
  | .tick ms => c.clock + ms < statusTTL
  | .act _ => True

instance (c : Cluster) (e : Event) : Decidable (c.withinDay e) := by
  cases e <;> unfold withinDay <;> infer_instance

end Cluster

section

variable {settings : Settings} {r r' : Store} {now later : Int} {s s' : State} {key : Key}

/-- What is found under a key, and what the system has in its map.  A lock that has
expired may still be there in the system. -/
def Shows (settings : Settings) (s : State) (key : Key) (found : Option Value) : Prop :=
  match key.kind with
  | .status => found = (s.status key.name).map fun status => .text status.text
  | .metadata => found = (s.metadata key.name).map fun metadata => .text (settings.marshal metadata)
  | .timing => found.getD (.hash fun _ => none) = .hash (s.timing key.name)
  | .idempotency => found = (s.idempotency key.name).map .text
  | .lock => ∀ value, found = some value → ∃ lock, s.locks key.name = some lock ∧ value = .text lock.token

def Stored (settings : Settings) (r : Store) (now : Int) (s : State) : Prop :=
  ∀ key : Key, Shows settings s key (find r now key.text)

def Frame (settings : Settings) (s s' : State) (key : Key) : Prop :=
  ∀ other found, other ≠ key → Shows settings s other found → Shows settings s' other found

theorem Stored.write (h : Stored settings r now s) (hframe : Frame settings s s' key)
    (hother : ∀ other : Key, other ≠ key → find r' now other.text = find r now other.text)
    (hself : Shows settings s' key (find r' now key.text)) : Stored settings r' now s' := by
  intro other
  by_cases hkey : other = key
  · rw [hkey]
    exact hself
  · rw [hother other hkey]
    exact hframe other _ hkey (h other)

theorem Stored.put (h : Stored settings r now s) (hframe : Frame settings s s' key) {value : Value} {deadline : Int}
    (hlive : now < deadline) (hself : Shows settings s' key (some value)) :
    Stored settings (put r key.text value deadline) now s' := by
  refine h.write hframe (fun other hne => find_put_of_ne fun heq => hne (Key.text_injective heq)) ?_
  rwa [find_put_self hlive]

theorem Stored.drop (h : Stored settings r now s) (hframe : Frame settings s s' key)
    (hself : Shows settings s' key none) : Stored settings (drop r key.text) now s' := by
  refine h.write hframe (fun other hne => find_drop_of_ne fun heq => hne (Key.text_injective heq)) ?_
  rwa [find_drop_self]

theorem frame_status (id : String) (status : Option Status) :
    Frame settings s { s with status := update s.status id status } ⟨.status, id⟩ := by
  rintro ⟨kind, name⟩ found hne h
  cases kind with
  | status =>
    have hname : name ≠ id := fun heq => hne (by rw [heq])
    simpa only [Shows, update_of_ne hname] using h
  | _ => exact h

theorem frame_metadata (id : String) (metadata : Option WaitingMetadata) :
    Frame settings s { s with metadata := update s.metadata id metadata } ⟨.metadata, id⟩ := by
  rintro ⟨kind, name⟩ found hne h
  cases kind with
  | metadata =>
    have hname : name ≠ id := fun heq => hne (by rw [heq])
    simpa only [Shows, update_of_ne hname] using h
  | _ => exact h

theorem frame_timing (id : String) (field : TimingField) (value : Option Int) :
    Frame settings s (s.setTiming id field value) ⟨.timing, id⟩ := by
  rintro ⟨kind, name⟩ found hne h
  cases kind with
  | timing =>
    have hname : name ≠ id := fun heq => hne (by rw [heq])
    simpa only [Shows, State.setTiming, update_of_ne hname] using h
  | _ => exact h

theorem frame_idempotency (key : String) (owner : Option String) :
    Frame settings s { s with idempotency := update s.idempotency key owner } ⟨.idempotency, key⟩ := by
  rintro ⟨kind, name⟩ found hne h
  cases kind with
  | idempotency =>
    have hname : name ≠ key := fun heq => hne (by rw [heq])
    simpa only [Shows, update_of_ne hname] using h
  | _ => exact h

theorem frame_locks (conversation : String) (lock : Option Lock) :
    Frame settings s (s.setLock conversation lock) ⟨.lock, conversation⟩ := by
  rintro ⟨kind, name⟩ found hne h
  cases kind with
  | lock =>
    have hname : name ≠ conversation := fun heq => hne (by rw [heq])
    simpa only [Shows, State.setLock, update_of_ne hname] using h
  | _ => exact h

theorem Stored.writeField (h : Stored settings r now s) (id : String) (field : TimingField)
    (write : Option Int → Int) :
    (writeField r now ⟨.timing, id⟩ field write).1 = .ok () ∧
      Stored settings (writeField r now ⟨.timing, id⟩ field write).2 now
        (s.setTiming id field (some (write (s.timing id field)))) := by
  have htiming : (find r now (Key.text ⟨.timing, id⟩)).getD (.hash fun _ => none) = .hash (s.timing id) :=
    h ⟨.timing, id⟩
  have hlive : now < now + statusTTL := by
    unfold statusTTL
    omega
  have hself : Shows settings (s.setTiming id field (some (write (s.timing id field)))) ⟨.timing, id⟩
      (some (.hash (update (s.timing id) field (some (write (s.timing id field)))))) := by
    simp [Shows, State.setTiming]
  unfold Redis.writeField
  cases hfind : find r now (Key.text ⟨.timing, id⟩) with
  | none =>
    rw [hfind] at htiming
    rw [← Value.hash.inj htiming] at hself ⊢
    exact ⟨rfl, h.put (frame_timing id field _) hlive hself⟩
  | some value =>
    rw [hfind] at htiming
    obtain rfl : value = .hash (s.timing id) := htiming
    exact ⟨rfl, h.put (frame_timing id field _) hlive hself⟩

theorem Stored.get_status (h : Stored settings r now s) (id : String) :
    get r now ⟨.status, id⟩ = .ok ((s.status id).map Status.text) := by
  have hstatus : find r now (Key.text ⟨.status, id⟩) = (s.status id).map fun status => .text status.text :=
    h ⟨.status, id⟩
  rw [Redis.get, hstatus]
  cases s.status id <;> rfl

theorem Stored.get_idempotency (h : Stored settings r now s) (key : String) :
    get r now ⟨.idempotency, key⟩ = .ok (s.idempotency key) := by
  have howner : find r now (Key.text ⟨.idempotency, key⟩) = (s.idempotency key).map .text :=
    h ⟨.idempotency, key⟩
  rw [Redis.get, howner]
  cases s.idempotency key <;> rfl

theorem Stored.setNX_idempotency (h : Stored settings r now s) (key id : String) :
    (setNX r now ⟨.idempotency, key⟩ id statusTTL).1 = (s.idempotency key).isNone ∧
      Stored settings (setNX r now ⟨.idempotency, key⟩ id statusTTL).2 now
        { s with idempotency := update s.idempotency key ((s.idempotency key).or (some id)) } := by
  have howner : find r now (Key.text ⟨.idempotency, key⟩) = (s.idempotency key).map .text :=
    h ⟨.idempotency, key⟩
  have hlive : now < now + statusTTL := by
    unfold statusTTL
    omega
  rw [Redis.setNX, howner]
  cases hkey : s.idempotency key with
  | none => exact ⟨rfl, h.put (frame_idempotency key _) hlive (by simp [Shows])⟩
  | some owner =>
    have hsame : update s.idempotency key (some owner) = s.idempotency := by rw [← hkey, update_eq_self]
    refine ⟨rfl, ?_⟩
    change Stored settings r now { s with idempotency := update s.idempotency key (some owner) }
    rwa [hsame]

theorem Stored.acquire (h : Stored settings r now s) (httl : 0 < settings.lockTTL) (conversation token : String)
    (pid : Nat) : ∃ s₁, (s₁ = s ∨ s₁ = s.setLock conversation none) ∧
      (setNX r now ⟨.lock, conversation⟩ token settings.lockTTL).1 = (s₁.locks conversation).isNone ∧
      Stored settings (setNX r now ⟨.lock, conversation⟩ token settings.lockTTL).2 now
        (s₁.setLock conversation
          ((s₁.locks conversation).or (some { token := token, owner := pid }))) := by
  have hlock : ∀ value, find r now (Key.text ⟨.lock, conversation⟩) = some value →
      ∃ lock, s.locks conversation = some lock ∧ value = .text lock.token := h ⟨.lock, conversation⟩
  unfold Redis.setNX
  cases hfind : find r now (Key.text ⟨.lock, conversation⟩) with
  | some value =>
    obtain ⟨lock, hlocked, -⟩ := hlock value hfind
    refine ⟨s, .inl rfl, by rw [hlocked]; rfl, ?_⟩
    have hsame : s.setLock conversation ((s.locks conversation).or (some { token := token, owner := pid })) = s := by
      rw [hlocked, Option.some_or, ← hlocked, State.setLock, update_eq_self]
    rwa [hsame]
  | none =>
    refine ⟨s.setLock conversation none, .inr rfl, by simp [State.setLock], ?_⟩
    have hexpired : Stored settings r now (s.setLock conversation none) := by
      refine h.write (frame_locks conversation none) (fun _ _ => rfl) ?_
      intro value hvalue
      cases hfind.symm.trans hvalue
    refine hexpired.put (frame_locks conversation _) (Int.lt_add_of_pos_right now httl) ?_
    rintro value ⟨⟩
    exact ⟨{ token := token, owner := pid }, by simp [State.setLock], rfl⟩

theorem Stored.release (h : Stored settings r now s) (conversation token : String) :
    (releaseLock r now ⟨.lock, conversation⟩ token).1 = .ok () ∧
      Stored settings (releaseLock r now ⟨.lock, conversation⟩ token).2 now
        (s.setLock conversation ((s.locks conversation).filter (·.token ≠ token))) := by
  have hlock : ∀ value, find r now (Key.text ⟨.lock, conversation⟩) = some value →
      ∃ lock, s.locks conversation = some lock ∧ value = .text lock.token := h ⟨.lock, conversation⟩
  unfold Redis.releaseLock Redis.get
  cases hfind : find r now (Key.text ⟨.lock, conversation⟩) with
  | none =>
    refine ⟨rfl, h.write (frame_locks conversation _) (fun _ _ => rfl) ?_⟩
    intro value hvalue
    cases hfind.symm.trans hvalue
  | some value =>
    obtain ⟨lock, hlocked, rfl⟩ := hlock value hfind
    refine ⟨rfl, ?_⟩
    by_cases htoken : lock.token = token
    · simp only [htoken, if_true]
      refine h.drop (frame_locks conversation _) ?_
      rintro value ⟨⟩
    · have hsame : s.setLock conversation ((s.locks conversation).filter (·.token ≠ token)) = s := by
        rw [hlocked, Option.filter_some, if_pos (by simpa using htoken), ← hlocked, State.setLock, update_eq_self]
      simp only [if_neg htoken, hsame]
      exact h

theorem Stored.perform {cfg : Config} {pid : Nat} {o : Op} {reply : o.Reply} (h : Stored settings r now s)
    (httl : 0 < settings.lockTTL) (hperform : perform settings now r o = some (reply, r')) :
    ∃ s₁, (s₁ = s ∨ ∃ conversation, s₁ = s.setLock conversation none) ∧ s₁.reply cfg o = some reply ∧
      Stored settings r' now (s₁.effect cfg pid o) := by
  have hlive : now < now + statusTTL := by
    unfold statusTTL
    omega
  cases o with
  | setJobStatus id status =>
    cases hperform
    exact ⟨s, .inl rfl, rfl, h.put (frame_status id _) hlive (by simp [Shows])⟩
  | getJobStatus id =>
    cases hperform
    refine ⟨s, .inl rfl, ?_, h⟩
    rw [h.get_status]
    cases hstatus : s.status id with
    | none => exact congrArg (fun x => some (Except.ok x)) hstatus
    | some status =>
      exact congrArg (fun x => some (Except.ok x)) (hstatus.trans (Status.ofText_text status).symm)
  | setJobMetadata id metadata =>
    cases hperform
    exact ⟨s, .inl rfl, rfl, h.put (frame_metadata id _) hlive (by simp [Shows])⟩
  | markJobTiming id field ms =>
    obtain ⟨hok, hstored⟩ := h.writeField id field (·.getD ms)
    cases hperform
    refine ⟨s, .inl rfl, congrArg (fun result => some (Except.mapError _ result)) hok.symm, ?_⟩
    have hmark : (s.timing id field).or (some ms) = some ((s.timing id field).getD ms) := by
      cases s.timing id field <;> rfl
    rw [State.effect, hmark]
    exact hstored
  | setJobTiming id field value =>
    obtain ⟨hok, hstored⟩ := h.writeField id field fun _ => value
    cases hperform
    exact ⟨s, .inl rfl, congrArg (fun result => some (Except.mapError _ result)) hok.symm, hstored⟩
  | setIdempotencyKeyNX key id =>
    obtain ⟨hclaimed, hstored⟩ := h.setNX_idempotency key id
    cases hperform
    exact ⟨s, .inl rfl, congrArg (fun claimed => some (Except.ok claimed)) hclaimed.symm, hstored⟩
  | getIdempotencyKey key =>
    cases hperform
    refine ⟨s, .inl rfl, ?_, h⟩
    rw [h.get_idempotency]
    rfl
  | releaseIdempotencyKey key =>
    cases hperform
    exact ⟨s, .inl rfl, rfl, h.drop (frame_idempotency key none) (by simp [Shows, State.effect])⟩
  | acquireConversationLock conversation token =>
    obtain ⟨s₁, hs₁, hacquired, hstored⟩ := h.acquire httl conversation token pid
    cases hperform
    exact ⟨s₁, hs₁.imp_right fun h => ⟨conversation, h⟩,
      congrArg (fun acquired => some (Except.ok acquired)) hacquired.symm, hstored⟩
  | releaseConversationLock conversation token =>
    obtain ⟨hok, hstored⟩ := h.release conversation token
    cases hperform
    exact ⟨s, .inl rfl, congrArg (fun result => some (Except.mapError _ result)) hok.symm, hstored⟩
  | _ => cases hperform

end

def Lasting (r : Store) : Prop :=
  ∀ (key : Key) entry, key.kind ≠ .lock → r key.text = some entry → statusTTL ≤ entry.deadline

namespace Lasting

variable {settings : Settings} {r r' : Store} {now : Int} {key : Key}

theorem put {value : Value} {deadline : Int} (h : Lasting r) (hdeadline : key.kind ≠ .lock → statusTTL ≤ deadline) :
    Lasting (put r key.text value deadline) := by
  intro other entry hkind hentry
  by_cases hkey : other = key
  · subst hkey
    rw [Expiring.put, update_self] at hentry
    cases hentry
    exact hdeadline hkind
  · rw [Expiring.put, update_of_ne fun heq => hkey (Key.text_injective heq)] at hentry
    exact h other entry hkind hentry

theorem drop (h : Lasting r) : Lasting (drop r key.text) := by
  intro other entry hkind hentry
  by_cases hkey : other = key
  · subst hkey
    rw [Expiring.drop, update_self] at hentry
    cases hentry
  · rw [Expiring.drop, update_of_ne fun heq => hkey (Key.text_injective heq)] at hentry
    exact h other entry hkind hentry

theorem setNX {text : String} {ttl : Int} (h : Lasting r) (httl : key.kind ≠ .lock → statusTTL ≤ now + ttl) :
    Lasting (setNX r now key text ttl).2 := by
  unfold Redis.setNX
  split
  · exact h.put httl
  · exact h

theorem writeField (h : Lasting r) (hnow : 0 ≤ now) (key : Key) (field : TimingField) (write : Option Int → Int) :
    Lasting (writeField r now key field write).2 := by
  have httl : key.kind ≠ .lock → statusTTL ≤ now + statusTTL := fun _ => by omega
  unfold Redis.writeField
  split <;> exact h.put httl

theorem releaseLock {token : String} (h : Lasting r) : Lasting (releaseLock r now key token).2 := by
  unfold Redis.releaseLock
  split
  · dsimp only
    split
    · exact h.drop
    · exact h
  · exact h
  · exact h

theorem perform {o : Op} {reply : o.Reply} (h : Lasting r) (hnow : 0 ≤ now)
    (hperform : perform settings now r o = some (reply, r')) : Lasting r' := by
  have httl : ∀ {kind : Kind}, kind ≠ .lock → statusTTL ≤ now + statusTTL := fun _ => by omega
  cases o with
  | setJobStatus id status => cases hperform; exact h.put httl
  | setJobMetadata id metadata => cases hperform; exact h.put httl
  | getJobStatus id => cases hperform; exact h
  | getIdempotencyKey key => cases hperform; exact h
  | markJobTiming id field ms =>
    cases hperform
    exact h.writeField hnow ⟨.timing, id⟩ field (·.getD ms)
  | setJobTiming id field value =>
    cases hperform
    exact h.writeField hnow ⟨.timing, id⟩ field fun _ => value
  | setIdempotencyKeyNX key id => cases hperform; exact h.setNX httl
  | releaseIdempotencyKey key => cases hperform; exact h.drop
  | acquireConversationLock conversation token => cases hperform; exact h.setNX fun hne => absurd rfl hne
  | releaseConversationLock conversation token => cases hperform; exact h.releaseLock
  | _ => cases hperform

end Lasting

theorem Stored.tick {settings : Settings} {r : Store} {now later : Int} {s : State} (h : Stored settings r now s)
    (hlasting : Lasting r) (hle : now ≤ later) (hday : later < statusTTL) : Stored settings r later s := by
  intro key
  by_cases hkind : key.kind = .lock
  · have hlock := h key
    unfold Shows at hlock ⊢
    rw [hkind] at hlock ⊢
    exact fun value hfind => hlock value (find_of_later hle hfind)
  · rw [find_later hle fun entry hentry => Int.lt_of_lt_of_le hday (hlasting key entry hkind hentry)]
    exact h key

end Redis

def State.withStore (s m : State) : State :=
  { s with
    status := m.status
    metadata := m.metadata
    timing := m.timing
    idempotency := m.idempotency
    locks := m.locks }

namespace Redis

section

variable {cfg : Config} {settings : Settings} {base m s t : State} {pid : Nat} {o : Op} {reply : o.Reply}

theorem answer_withStore {reaction : Reaction} {r : Store} {now : Int} (hperform : perform settings now r o = none)
    (h : base.answer cfg pid o reaction = some (reply, t)) :
    (base.withStore m).answer cfg pid o reaction = some (reply, t.withStore m) := by
  have hreply : (base.withStore m).reply cfg o = base.reply cfg o := by
    cases o <;> first | rfl | cases hperform
  have heffect : (base.withStore m).effect cfg pid o = (base.effect cfg pid o).withStore m := by
    cases o with
    | nack requeue => cases requeue <;> rfl
    | retry job level =>
      simp only [State.effect]
      split <;> rfl
    | _ => first | rfl | cases hperform
  cases State.answer_cases h with
  | done hdone => rw [State.answer, hreply, hdone, heffect]; rfl
  | failed hfailed => rw [State.answer, hfailed]; rfl
  | lost hlost => rw [State.answer, hlost, heffect]; rfl
  | time => rfl
  | events => rfl
  | result => rfl

theorem effect_of_perform {r : Store} {now : Int} (hperform : perform settings now r o ≠ none)
    (h : s = base.withStore s) : s.effect cfg pid o = base.withStore (s.effect cfg pid o) := by
  rw [h]
  cases o <;> first | rfl | exact absurd rfl hperform

theorem step_withStore {a : Action} (hexec : ∀ pid reaction, a ≠ .exec pid reaction)
    (hexpire : ∀ conversation, a ≠ .expireLock conversation) (h : step cfg base a = some t) :
    step cfg (base.withStore m) a = some (t.withStore m) := by
  cases a with
  | exec pid reaction => exact absurd rfl (hexec pid reaction)
  | expireLock conversation => exact absurd rfl (hexpire conversation)
  | publish id payload key =>
    simp only [step] at h ⊢
    split at h
    · cases h
    · rename_i hfresh
      cases h
      exact if_neg hfresh
  | inject message => cases h; rfl
  | deliver index =>
    simp only [step] at h
    split at h
    · cases h
    · rename_i message hmessage
      cases h
      exact step_deliver hmessage
  | crash pid => cases h; rfl
  | redeliver pid => cases h; rfl
  | expireRetry index =>
    simp only [step] at h
    split at h
    · cases h
    · rename_i level job hjob
      cases h
      exact step_expireRetry hjob

/-- The system on separate maps has the same broker, processings and history as the
deployment, and its maps are what Redis shows. -/
structure Represents (settings : Settings) (c : Cluster) (s : State) : Prop where
  rest : s = c.base.withStore s
  stored : Stored settings c.redis c.clock s

structure Simulates (settings : Settings) (c : Cluster) (s : State) : Prop extends Represents settings c s where
  lasting : Lasting c.redis
  started : 0 ≤ c.clock
  day : c.clock < statusTTL

namespace Simulates

variable {c d : Cluster}

theorem procs (h : Simulates settings c s) : s.procs = c.base.procs := by
  rw [h.rest]
  rfl

theorem resume (h : Simulates settings c s) (role : Role) (o : Op) (p p' : Progress) (rest : Task Outcome) :
    Simulates settings { c with base := c.base.resume pid role o p p' rest } (s.resume pid role o p p' rest) where
  rest := by
    rw [h.rest]
    rfl
  stored := h.stored
  lasting := h.lasting
  started := h.started
  day := h.day

theorem reaches_expired {s₁ : State} (h : s₁ = s ∨ ∃ conversation, s₁ = s.setLock conversation none) :
    Reaches (Jobs.step cfg) s s₁ := by
  rcases h with rfl | ⟨conversation, rfl⟩
  · exact .refl
  · exact .tail (a := .expireLock conversation) .refl trivial rfl

theorem answer (httl : 0 < settings.lockTTL) (h : Simulates settings c s) {reaction : Reaction}
    (hanswer : c.answer cfg settings pid o reaction = some (reply, d)) :
    ∃ s₁ t, (s₁ = s ∨ ∃ conversation, s₁ = s.setLock conversation none) ∧
      s₁.answer cfg pid o reaction = some (reply, t) ∧ Simulates settings d t := by
  unfold Cluster.answer at hanswer
  cases hperform : perform settings c.clock c.redis o with
  | none =>
    rw [hperform] at hanswer
    obtain ⟨⟨reply', t⟩, hbase, heq⟩ := Option.map_eq_some_iff.mp hanswer
    cases heq
    have hs := answer_withStore (m := s) hperform hbase
    rw [← h.rest] at hs
    exact ⟨s, t.withStore s, .inl rfl, hs, ⟨rfl, h.stored⟩, h.lasting, h.started, h.day⟩
  | some performed =>
    obtain ⟨reply₀, r⟩ := performed
    rw [hperform] at hanswer
    obtain ⟨s₁, hs₁, hreply, hstored⟩ : ∃ s₁, (s₁ = s ∨ ∃ conversation, s₁ = s.setLock conversation none) ∧
        s₁.reply cfg o = some reply₀ ∧ Stored settings r c.clock (s₁.effect cfg pid o) :=
      h.stored.perform httl hperform
    have hrest : s₁ = c.base.withStore s₁ := by
      rcases hs₁ with rfl | ⟨conversation, rfl⟩
      · exact h.rest
      · rw [h.rest]
        rfl
    have heffect : Simulates settings { c with redis := r } (s₁.effect cfg pid o) :=
      ⟨⟨effect_of_perform (by rw [hperform]; exact Option.some_ne_none _) hrest, hstored⟩,
        h.lasting.perform h.started hperform, h.started, h.day⟩
    cases reaction with
    | done =>
      cases hanswer
      exact ⟨s₁, _, hs₁, by rw [State.answer, hreply]; rfl, heffect⟩
    | failed cause =>
      obtain ⟨reply', herror, heq⟩ := Option.map_eq_some_iff.mp hanswer
      cases heq
      exact ⟨s, s, .inl rfl, by rw [State.answer, herror]; rfl, h⟩
    | lost cause =>
      obtain ⟨reply', herror, heq⟩ := Option.map_eq_some_iff.mp hanswer
      cases heq
      exact ⟨s₁, _, hs₁, by rw [State.answer, herror]; rfl, heffect⟩
    | time ms => cases hanswer
    | events events => cases hanswer
    | result result => cases hanswer

theorem exec (httl : 0 < settings.lockTTL) (h : Simulates settings c s) {reaction : Reaction}
    (hstep : Cluster.step cfg settings c (.act (.exec pid reaction)) = some d) :
    ∃ t, Reaches (Jobs.step cfg) s t ∧ Simulates settings d t := by
  simp only [Cluster.step] at hstep
  split at hstep
  · rename_i role o k p hproc
    obtain ⟨⟨reply, e⟩, hanswer, rfl⟩ := Option.map_eq_some_iff.mp hstep
    obtain ⟨s₁, t, hs₁, hs, hsim⟩ := h.answer httl hanswer
    have hprocs : s₁.procs pid = some { role := role, rest := .op o k, progress := p } := by
      rcases hs₁ with rfl | ⟨conversation, rfl⟩
      · rw [h.procs, hproc]
      · exact (congrFun h.procs pid).trans hproc
    have hexec : Jobs.step cfg s₁ (.exec pid reaction) =
        some (t.resume pid role o p (p.next o reply) (k reply)) := by
      simp only [Jobs.step, hprocs, hs, Option.map_some]
    exact ⟨_, .tail (reaches_expired hs₁) trivial hexec, hsim.resume role o p _ _⟩
  · cases hstep

theorem step (httl : 0 < settings.lockTTL) (h : Simulates settings c s) {e : Event} (hday : c.withinDay e)
    (hstep : Cluster.step cfg settings c e = some d) : ∃ t, Reaches (step cfg) s t ∧ Simulates settings d t := by
  cases e with
  | tick ms =>
    cases hstep
    have hle : c.clock ≤ c.clock + ms := by omega
    exact ⟨s, .refl, ⟨h.rest, h.stored.tick h.lasting hle hday⟩, h.lasting, Int.le_trans h.started hle, hday⟩
  | act a =>
    cases a with
    | exec pid reaction => exact h.exec httl hstep
    | expireLock conversation => cases hstep
    | _ =>
      simp only [Cluster.step] at hstep
      obtain ⟨t, hbase, rfl⟩ := Option.map_eq_some_iff.mp hstep
      have hs := step_withStore (m := s) (by rintro _ _ ⟨⟩) (by rintro _ ⟨⟩) hbase
      rw [← h.rest] at hs
      exact ⟨t.withStore s, .tail .refl trivial hs, ⟨rfl, h.stored⟩, h.lasting, h.started, h.day⟩

end Simulates

/-- Within a day, whatever a deployment on Redis reaches is reached by the system on
separate maps: no two keys clash, no command meets a value of the wrong type, and every
reply is the one the maps give. -/
theorem redis_refines (cfg : Config) (settings : Settings) (httl : 0 < settings.lockTTL) (c : Cluster)
    (h : Reach (Cluster.step cfg settings) Cluster.withinDay {} c) :
    ∃ s, Reaches (Jobs.step cfg) {} s ∧ Represents settings c s := by
  have hstart : Simulates settings {} {} := by
    refine ⟨⟨rfl, ?_⟩, ?_, Int.le_refl 0, by decide⟩
    · rintro ⟨kind, name⟩
      cases kind <;> simp [Shows, find]
    · rintro key entry - ⟨⟩
  obtain ⟨s, hs, hsim⟩ := h.simulate hstart fun c e d s hsim hday hstep => hsim.step httl hday hstep
  exact ⟨s, hs, hsim.toRepresents⟩

end

namespace Sample

def settings : Settings where
  marshal _ := "metadata"
  lockTTL := 300000

def events : List Event :=
  (Jobs.Sample.published ++ [Action.deliver 0, .exec 1 .done, .exec 1 .done, .crash 1]).map .act ++
    [.tick 300000, .act (.deliver 0), .act (.exec 2 .done), .act (.exec 2 .done)]

end Sample

theorem redis_refines_sample : ∃ c s,
    Reach (Cluster.step Jobs.Sample.config Sample.settings) Cluster.withinDay {} c ∧ c.clock = 300000 ∧
      Reaches (Jobs.step Jobs.Sample.config) {} s ∧ Represents Sample.settings c s ∧
      ∃ lock, s.locks "u:s" = some lock ∧ lock.token = "job" := by
  obtain ⟨c, hc, hstate⟩ := reach_of_any (Cluster.step Jobs.Sample.config Sample.settings) Cluster.withinDay {}
    Sample.events (fun c => c.clock = 300000 && (get c.redis c.clock ⟨.lock, "u:s"⟩).toOption = some (some "job"))
    (by decide +kernel)
  rw [Bool.and_eq_true, decide_eq_true_eq, decide_eq_true_eq] at hstate
  obtain ⟨hclock, hlock⟩ := hstate
  obtain ⟨s, hs, hrepresents⟩ := redis_refines Jobs.Sample.config Sample.settings (by decide) c hc
  refine ⟨c, s, hc, hclock, hs, hrepresents, ?_⟩
  unfold Redis.get at hlock
  split at hlock
  · cases hlock
  · rename_i text hfind
    cases hlock
    obtain ⟨lock, hlocked, htext⟩ := hrepresents.stored ⟨.lock, "u:s"⟩ _ hfind
    exact ⟨lock, hlocked, (Value.text.inj htext).symm⟩
  · cases hlock

end Redis

end AgentsAtScale.Jobs
