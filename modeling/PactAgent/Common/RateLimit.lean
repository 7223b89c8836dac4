import PactAgent.Foundation.Table
import PactAgent.Foundation.Windows

/-! Rate limits: every limiter counts the requests of a client in fixed windows, in Redis
or, without it, in the memory of the process. -/

namespace PactAgent.Common.RateLimit
open PactAgent.Foundation PactAgent.Foundation.Windows

/-- The source calls the scope a namespace. -/
structure RateLimitOptions where
  scope : String
  windowMs : Nat
  max : Nat

/-- The settings: whether there is a `redisUrl`, and `rateLimitFailClosed`. -/
structure Setup where
  redis : Bool
  failClosed : Bool

/-- An entry of the map `memoryBuckets`. -/
structure Entry where
  key : String
  bucket : Bucket

instance : Keyed Entry String := ⟨Entry.key⟩

/-- What a client is told of the script that it sent to Redis. -/
inductive RedisReply where
  | answered
  | unsent
  /-- The script ran, and its answer was lost. -/
  | unheard
  deriving DecidableEq

structure Stores where
  memoryBuckets : Table Entry
  redisKeys : String → Option Bucket

def Stores.empty : Stores := ⟨.empty, fun _ => none⟩

/-- `sha256` is the hexadecimal digest of the raw key. -/
def storageKey (sha256 : String → String) (scope rawKey : String) : String :=
  "pactagent:rate-limit:" ++ scope ++ ":" ++ sha256 rawKey

/-- `INCR`, and `PEXPIRE` on a key that was not there. The key expires with its window. -/
def consumeRedis (key : String) (windowMs now : Nat) (keys : String → Option Bucket) :
    Bucket × (String → Option Bucket) :=
  let stored := next windowMs now (keys key)
  (⟨stored.count, now + max 1 (stored.resetAt - now)⟩, Function.update keys key (some stored))

/-- Delete the buckets whose window is over. -/
def sweep (now : Nat) (buckets : Table Entry) : Table Entry :=
  buckets.rows.foldl (fun buckets entry =>
    if entry.bucket.resetAt ≤ now then buckets.remove entry.key else buckets) buckets

def consumeMemory (key : String) (windowMs now : Nat) (buckets : Table Entry) : Bucket × Table Entry :=
  let bucket : Bucket :=
    match buckets.get key with
    | some existing =>
        if existing.bucket.resetAt ≤ now then ⟨1, now + windowMs⟩
        else ⟨existing.bucket.count + 1, existing.bucket.resetAt⟩
    | none => ⟨1, now + windowMs⟩
  let written := buckets.put ⟨key, bucket⟩
  (bucket, if 10000 < written.rows.length then sweep now written else written)

/-- The bucket of a request, or none where the limiter fails. -/
def consume (setup : Setup) (reply : RedisReply) (key : String) (windowMs now : Nat) (stores : Stores) :
    Option Bucket × Stores :=
  if setup.redis then
    let (bucket, keys) := consumeRedis key windowMs now stores.redisKeys
    match reply with
    | .answered => (some bucket, { stores with redisKeys := keys })
    | .unsent => fallback stores
    | .unheard => fallback { stores with redisKeys := keys }
  else inMemory stores
where
  inMemory (stores : Stores) : Option Bucket × Stores :=
    let (bucket, buckets) := consumeMemory key windowMs now stores.memoryBuckets
    (some bucket, { stores with memoryBuckets := buckets })
  fallback (stores : Stores) : Option Bucket × Stores :=
    if setup.failClosed then (none, stores) else inMemory stores

/-- A request on its way through a limiter; the client's key may be missing or empty. The
clock is read again for the answer. -/
structure Request where
  options : RateLimitOptions
  rawKey : Option String
  now : Nat
  answeredAt : Nat
  reply : RedisReply

def Request.key (sha256 : String → String) (request : Request) : Option String :=
  (request.rawKey.filter (· ≠ "")).map (storageKey sha256 request.options.scope)

structure Headers where
  limit : Nat
  remaining : Nat
  reset : Nat
  retryAfter : Option Nat
  deriving DecidableEq

structure Answer where
  headers : Option Headers
  /-- The next handler is called without an error. -/
  admitted : Bool
  deriving DecidableEq

def ceilSeconds (ms : Nat) : Nat := (ms + 999) / 1000

/-- The answer by the bucket of the request, or where the limiter failed. -/
def Request.answer (setup : Setup) (request : Request) : Option Bucket → Answer
  | none => ⟨none, !setup.failClosed⟩
  | some bucket =>
      let limited := decide (request.options.max < bucket.count)
      let retryAfter := max 1 (ceilSeconds (bucket.resetAt - request.answeredAt))
      ⟨some
        { limit := request.options.max
          remaining := request.options.max - bucket.count
          reset := ceilSeconds bucket.resetAt
          retryAfter := if limited then some retryAfter else none }, !limited⟩

def infrastructureRateLimit (setup : Setup) (sha256 : String → String) (request : Request) (stores : Stores) :
    Answer × Stores :=
  match request.key sha256 with
  | none => (⟨none, true⟩, stores)
  | some key =>
      let counted := consume setup request.reply key request.options.windowMs request.now stores
      (request.answer setup counted.1, counted.2)

/-- The stores, and the requests that were answered, the last one first. -/
structure State where
  stores : Stores
  served : List (Request × Answer)

def serve (setup : Setup) (sha256 : String → String) (state : State) (request : Request) : State :=
  let turn := infrastructureRateLimit setup sha256 request state.stores
  ⟨turn.2, (request, turn.1) :: state.served⟩

def serveAll (setup : Setup) (sha256 : String → String) (requests : List Request) : State :=
  requests.foldl (serve setup sha256) ⟨.empty, []⟩

section Limiters

/-- What the limiters know of a client. -/
structure Client where
  ip : Option String
  remoteAddress : Option String
  apiKeyId : Option String
  appId : Option String
  address : Option String

/-- The first text of a chain of `||`. -/
def firstText (texts : List (Option String)) : Option String :=
  (texts.map (Option.filter (· ≠ ""))).findSome? id

structure Limits where
  v1IpRateLimitWindowMs : Nat
  v1IpRateLimitMax : Nat
  v1ApiKeyRateLimitWindowMs : Nat
  v1ApiKeyRateLimitMax : Nat
  v1TenantRateLimitMax : Nat
  actionRateLimitWindowMs : Nat
  actionRateLimitMax : Nat

def v1IpRateLimit (limits : Limits) (client : Client) : RateLimitOptions × Option String :=
  (⟨"v1:ip", limits.v1IpRateLimitWindowMs, limits.v1IpRateLimitMax⟩,
    firstText [client.ip, client.remoteAddress, some "unknown"])

def v1ApiKeyRateLimit (limits : Limits) (client : Client) : RateLimitOptions × Option String :=
  (⟨"v1:api-key", limits.v1ApiKeyRateLimitWindowMs, limits.v1ApiKeyRateLimitMax⟩, client.apiKeyId)

def v1TenantRateLimit (limits : Limits) (client : Client) : RateLimitOptions × Option String :=
  (⟨"v1:tenant", limits.v1ApiKeyRateLimitWindowMs, limits.v1TenantRateLimitMax⟩, client.appId)

def v1HighRiskActionRateLimit (limits : Limits) (client : Client) : RateLimitOptions × Option String :=
  (⟨"v1:high-risk-action", limits.actionRateLimitWindowMs, limits.actionRateLimitMax⟩,
    firstText [client.apiKeyId, client.address, client.ip])

inductive Limiter where
  | ip
  | apiKey
  | tenant
  | highRiskAction

/-- The limiters of the API, which share the stores. -/
def Limiter.limit (limits : Limits) : Limiter → Client → RateLimitOptions × Option String
  | .ip => v1IpRateLimit limits
  | .apiKey => v1ApiKeyRateLimit limits
  | .tenant => v1TenantRateLimit limits
  | .highRiskAction => v1HighRiskActionRateLimit limits

def Limiter.options (limits : Limits) (limiter : Limiter) : RateLimitOptions :=
  (limiter.limit limits ⟨none, none, none, none, none⟩).1

/-- The request of a client goes through the limiter. -/
def Request.Through (limits : Limits) (limiter : Limiter) (request : Request) : Prop :=
  ∃ client, limiter.limit limits client = (request.options, request.rawKey)

theorem Request.Through.options {limits : Limits} {limiter : Limiter} {request : Request}
    (through : request.Through limits limiter) : request.options = limiter.options limits := by
  obtain ⟨client, same⟩ := through
  have options : request.options = (limiter.limit limits client).1 := (congrArg Prod.fst same).symm
  rw [options]
  cases limiter <;> rfl

/-- The scopes of two limiters part at a letter. -/
theorem storageKey_limiter {sha256 : String → String} {limits : Limits} {first second : Limiter} {one other : String}
    (same : storageKey sha256 (first.options limits).scope one = storageKey sha256 (second.options limits).scope other) :
    first = second := by
  have letters := congrArg String.toList same
  unfold storageKey at letters
  cases first <;> cases second <;> first
    | rfl
    | simp [String.toList_append, Limiter.options, Limiter.limit, v1IpRateLimit, v1ApiKeyRateLimit, v1TenantRateLimit,
        v1HighRiskActionRateLimit] at letters

end Limiters

section Stores
variable {key other : String} {windowMs now later : Nat} {buckets : Table Entry}

/-- The bucket under a key of the map. -/
def memoryBucket (buckets : Table Entry) (key : String) : Option Bucket := (buckets.get key).map Entry.bucket

/-- The map counts as a fixed window does. -/
theorem consumeMemory_bucket (key : String) (windowMs now : Nat) (buckets : Table Entry) :
    (consumeMemory key windowMs now buckets).1 = next windowMs now (memoryBucket buckets key) := by
  unfold consumeMemory next memoryBucket live
  cases buckets.get key with
  | none => rfl
  | some existing =>
    by_cases over' : existing.bucket.resetAt ≤ now
    · have closed : ¬now < existing.bucket.resetAt := by omega
      simp [over', closed, Option.filter]
    · have open' : now < existing.bucket.resetAt := by omega
      simp [over', open', Option.filter]

private theorem sweep_fold (key : String) (entries : List Entry) (buckets : Table Entry)
    (stored : ∀ entry ∈ entries, ∀ old, buckets.get entry.key = some old → old = entry) :
    live now (memoryBucket (entries.foldl (fun buckets entry =>
      if entry.bucket.resetAt ≤ now then buckets.remove entry.key else buckets) buckets) key) =
      live now (memoryBucket buckets key) := by
  induction entries generalizing buckets with
  | nil => rfl
  | cons entry entries ih =>
    rw [List.foldl_cons]
    by_cases over' : entry.bucket.resetAt ≤ now
    · rw [if_pos over', ih]
      · by_cases same : key = entry.key
        · subst same
          unfold memoryBucket
          rw [Table.get_remove_self]
          cases found : buckets.get entry.key with
          | none => rfl
          | some old =>
            have closed : ¬now < entry.bucket.resetAt := by omega
            rw [stored entry List.mem_cons_self old found]
            simp [live, Option.filter, closed]
        · unfold memoryBucket
          rw [Table.get_remove_of_ne same]
      · intro next member old found
        by_cases same : next.key = entry.key
        · rw [same, Table.get_remove_self] at found
          cases found
        · rw [Table.get_remove_of_ne same] at found
          exact stored next (List.mem_cons_of_mem _ member) old found
    · rw [if_neg over']
      exact ih buckets fun next member => stored next (List.mem_cons_of_mem _ member)

/-- A sweep goes unnoticed. -/
theorem live_sweep (key : String) (buckets : Table Entry) :
    live now (memoryBucket (sweep now buckets) key) = live now (memoryBucket buckets key) := by
  apply sweep_fold
  intro entry member old found
  exact Table.eq_of_key_eq (Table.mem_of_get found) member (Table.key_of_get found)

theorem consumeMemory_live (key : String) (windowMs now : Nat) (buckets : Table Entry) (other : String) :
    live now (memoryBucket (consumeMemory key windowMs now buckets).2 other) =
      if other = key then live now (some (consumeMemory key windowMs now buckets).1)
      else live now (memoryBucket buckets other) := by
  have written : live now (memoryBucket (consumeMemory key windowMs now buckets).2 other) =
      live now (memoryBucket (buckets.put ⟨key, (consumeMemory key windowMs now buckets).1⟩) other) := by
    have swept : (consumeMemory key windowMs now buckets).2 =
        if 10000 < (buckets.put ⟨key, (consumeMemory key windowMs now buckets).1⟩).rows.length then
          sweep now (buckets.put ⟨key, (consumeMemory key windowMs now buckets).1⟩)
        else buckets.put ⟨key, (consumeMemory key windowMs now buckets).1⟩ := rfl
    rw [swept]
    split
    next => exact live_sweep other _
    next => rfl
  rw [written]
  unfold memoryBucket
  split
  next same =>
    have stored := Table.get_put_self (⟨key, (consumeMemory key windowMs now buckets).1⟩ : Entry) buckets
    rw [same, show (Table.get _ key) = _ from stored]
    rfl
  next different => rw [Table.get_put_of_ne different]

end Stores

section Consume
variable {setup : Setup} {reply : RedisReply} {key : String} {windowMs now : Nat} {stores : Stores}

/-- The script runs in Redis. -/
def asksRedis (setup : Setup) (reply : RedisReply) : Prop := setup.redis = true ∧ reply ≠ .unsent

instance : Decidable (asksRedis setup reply) := inferInstanceAs (Decidable (_ ∧ _))

/-- The memory counts: without Redis, or in its place. -/
def asksMemory (setup : Setup) (reply : RedisReply) : Prop :=
  setup.redis = false ∨ reply ≠ .answered ∧ setup.failClosed = false

instance : Decidable (asksMemory setup reply) := inferInstanceAs (Decidable (_ ∨ _))

theorem consume_redis (other : String) : (consume setup reply key windowMs now stores).2.redisKeys other =
    if asksRedis setup reply ∧ other = key then some (next windowMs now (stores.redisKeys key))
    else stores.redisKeys other := by
  obtain ⟨redis, failClosed⟩ := setup
  cases redis <;> cases reply <;> cases failClosed <;>
    simp [consume, consume.fallback, consume.inMemory, consumeRedis, asksRedis, Function.update_apply]

theorem consume_memory (other : String) :
    live now (memoryBucket (consume setup reply key windowMs now stores).2.memoryBuckets other) =
      live now (if asksMemory setup reply ∧ other = key then
          some (next windowMs now (memoryBucket stores.memoryBuckets key))
        else memoryBucket stores.memoryBuckets other) := by
  have counted : live now (memoryBucket (consumeMemory key windowMs now stores.memoryBuckets).2 other) =
      live now (if other = key then some (next windowMs now (memoryBucket stores.memoryBuckets key))
        else memoryBucket stores.memoryBuckets other) := by
    rw [consumeMemory_live, consumeMemory_bucket]
    split <;> rfl
  obtain ⟨redis, failClosed⟩ := setup
  cases redis <;> cases reply <;> cases failClosed <;>
    simp [consume, consume.fallback, consume.inMemory, asksMemory, counted]

/-- The bucket that a request is judged by. -/
theorem consume_bucket {bucket : Bucket} (judged : (consume setup reply key windowMs now stores).1 = some bucket) :
    (asksMemory setup reply ∧ bucket = next windowMs now (memoryBucket stores.memoryBuckets key)) ∨
      (asksRedis setup reply ∧ bucket.count = (next windowMs now (stores.redisKeys key)).count ∧
        (next windowMs now (stores.redisKeys key)).resetAt ≤ bucket.resetAt) := by
  have memory := consumeMemory_bucket key windowMs now stores.memoryBuckets
  obtain ⟨redis, failClosed⟩ := setup
  cases redis <;> cases reply <;> cases failClosed <;>
    simp [consume, consume.fallback, consume.inMemory, consumeRedis, asksRedis, asksMemory, memory] at judged ⊢
  all_goals
    subst judged
    first
    | rfl
    | exact .inl rfl
    | exact ⟨rfl, by simp only; omega⟩

theorem consume_fails (failed : (consume setup reply key windowMs now stores).1 = none) : setup.failClosed = true := by
  obtain ⟨redis, failClosed⟩ := setup
  cases redis <;> cases reply <;> cases failClosed <;>
    simp [consume, consume.fallback, consume.inMemory] at failed ⊢

end Consume

section Answers
variable {setup : Setup} {sha256 : String → String} {key : String} {request : Request} {stores : Stores}

theorem limit_key (keyed : request.key sha256 = some key) : infrastructureRateLimit setup sha256 request stores =
    (request.answer setup (consume setup request.reply key request.options.windowMs request.now stores).1,
      (consume setup request.reply key request.options.windowMs request.now stores).2) := by
  unfold infrastructureRateLimit
  rw [keyed]

theorem limit_other (different : request.key sha256 ≠ some key) :
    (infrastructureRateLimit setup sha256 request stores).2.redisKeys key = stores.redisKeys key ∧
      live request.now (memoryBucket (infrastructureRateLimit setup sha256 request stores).2.memoryBuckets key) =
        live request.now (memoryBucket stores.memoryBuckets key) := by
  cases keyed : request.key sha256 with
  | none =>
    unfold infrastructureRateLimit
    rw [keyed]
    exact ⟨rfl, rfl⟩
  | some own =>
    have other : key ≠ own := fun same => different (same ▸ keyed)
    have redis := @consume_redis setup request.reply own request.options.windowMs request.now stores key
    have memory := @consume_memory setup request.reply own request.options.windowMs request.now stores key
    simp only [other, and_false, if_false] at redis memory
    rw [limit_key keyed]
    exact ⟨redis, memory⟩

/-- An admitted request is within the limit of a store that counted it. -/
theorem limit_admits (keyed : request.key sha256 = some key)
    (admitted : (infrastructureRateLimit setup sha256 request stores).1.admitted = true) :
    (asksMemory setup request.reply ∧
        (next request.options.windowMs request.now (memoryBucket stores.memoryBuckets key)).count ≤
          request.options.max) ∨
      (asksRedis setup request.reply ∧
        (next request.options.windowMs request.now (stores.redisKeys key)).count ≤ request.options.max) := by
  rw [limit_key keyed] at admitted
  cases judged : (consume setup request.reply key request.options.windowMs request.now stores).1 with
  | none =>
    have closed := consume_fails judged
    simp [judged, Request.answer, closed] at admitted
  | some bucket =>
    have within : bucket.count ≤ request.options.max := by
      simpa [judged, Request.answer] using admitted
    rcases consume_bucket judged with ⟨asked, rfl⟩ | ⟨asked, count, _⟩
    · exact .inl ⟨asked, within⟩
    · exact .inr ⟨asked, count ▸ within⟩

/-- A request with an answer of its own is judged by a bucket. -/
theorem limit_judged {headers : Headers} (keyed : request.key sha256 = some key)
    (told : (infrastructureRateLimit setup sha256 request stores).1.headers = some headers) : ∃ bucket,
      (consume setup request.reply key request.options.windowMs request.now stores).1 = some bucket ∧
        (infrastructureRateLimit setup sha256 request stores).1.admitted =
          !decide (request.options.max < bucket.count) ∧
        ∀ seconds, headers.retryAfter = some seconds → bucket.resetAt ≤ request.answeredAt + 1000 * seconds := by
  rw [limit_key keyed] at told ⊢
  cases judged : (consume setup request.reply key request.options.windowMs request.now stores).1 with
  | none => simp [judged, Request.answer] at told
  | some bucket =>
    simp only [judged, Request.answer, Option.some.injEq] at told ⊢
    subst told
    refine ⟨bucket, rfl, rfl, ?_⟩
    intro seconds waits
    by_cases limited : request.options.max < bucket.count
    · simp only [limited, decide_true, if_true, Option.some.injEq] at waits
      unfold ceilSeconds at waits
      omega
    · simp [limited] at waits

end Answers

section Runs
variable {setup : Setup} {sha256 : String → String} {key : String} {windowMs max now : Nat} {state : State}

/-- How many requests under the key were admitted in an interval. -/
def admittedIn (sha256 : String → String) (key : String) (start stop : Nat) (served : List (Request × Answer)) : Nat :=
  served.countP fun turn => turn.1.key sha256 = some key && turn.2.admitted && start ≤ turn.1.now && turn.1.now < stop

/-- How many requests under the key came from a time on. -/
def arrivedSince (sha256 : String → String) (key : String) (start : Nat) (requests : List Request) : Nat :=
  requests.countP fun request => request.key sha256 = some key && start ≤ request.now

/-- The stores have counted the requests of the key. -/
structure Metered (setup : Setup) (sha256 : String → String) (key : String) (windowMs max now : Nat) (state : State)
    (memory redis : Tally) : Prop where
  inMemory : Tallied windowMs max memory now (memoryBucket state.stores.memoryBuckets key)
  inRedis : Tallied windowMs max redis now (state.stores.redisKeys key)
  unusedMemory : setup.redis = true → setup.failClosed = true → memory.calls = []
  unusedRedis : setup.redis = false → redis.calls = []
  admitted : ∀ start stop, admittedIn sha256 key start stop state.served ≤
    passed max start stop memory.calls + passed max start stop redis.calls
  arrived : ∀ start, came start memory.calls ≤ arrivedSince sha256 key start (state.served.map Prod.fst) ∧
    came start redis.calls ≤ arrivedSince sha256 key start (state.served.map Prod.fst)

theorem Metered.serve {memory redis : Tally} {request : Request}
    (metered : Metered setup sha256 key windowMs max now state memory redis) (onwards : now ≤ request.now)
    (positive : 0 < windowMs) (alike : request.key sha256 = some key →
      request.options.windowMs = windowMs ∧ request.options.max = max) :
    ∃ memory' redis',
      Metered setup sha256 key windowMs max request.now (serve setup sha256 state request) memory' redis' := by
  by_cases keyed : request.key sha256 = some key
  · obtain ⟨rfl, rfl⟩ := alike keyed
    have stores := congrArg Prod.snd (@limit_key setup sha256 key request state.stores keyed)
    dsimp only at stores
    have inRedis := @consume_redis setup request.reply key request.options.windowMs request.now state.stores key
    have inMemory := @consume_memory setup request.reply key request.options.windowMs request.now state.stores key
    rw [← stores] at inRedis inMemory
    simp only [and_true] at inRedis inMemory
    obtain ⟨memory', tallied, calls⟩ := metered.inMemory.perhaps onwards positive inMemory
    obtain ⟨redis', tallied', calls'⟩ := metered.inRedis.perhaps onwards positive
      (congrArg (live request.now) inRedis)
    refine ⟨memory', redis', tallied, tallied', ?_, ?_, ?_, ?_⟩
    · intro used closed
      have unasked : ¬asksMemory setup request.reply := by simp [asksMemory, used, closed]
      rw [calls, metered.unusedMemory used closed, if_neg unasked]
      rfl
    · intro unused
      have unasked : ¬asksRedis setup request.reply := by simp [asksRedis, unused]
      rw [calls', metered.unusedRedis unused, if_neg unasked]
      rfl
    · intro start stop
      have before := metered.admitted start stop
      unfold admittedIn RateLimit.serve
      rw [List.countP_cons, calls, calls', passed_append, passed_append]
      unfold admittedIn at before
      split
      next counted =>
        simp only [Bool.and_eq_true, decide_eq_true_eq] at counted
        obtain ⟨⟨⟨_, admitted⟩, low⟩, high⟩ := counted
        rcases limit_admits keyed admitted with ⟨asked, within⟩ | ⟨asked, within⟩
        · have one : passed request.options.max start stop (if asksMemory setup request.reply then [⟨request.now,
              (next request.options.windowMs request.now (memoryBucket state.stores.memoryBuckets key)).count⟩]
              else []) = 1 := by
            rw [if_pos asked]
            simp [passed, Call.passes, low, high, within]
          omega
        · have one : passed request.options.max start stop (if asksRedis setup request.reply then [⟨request.now,
              (next request.options.windowMs request.now (state.stores.redisKeys key)).count⟩] else []) = 1 := by
            rw [if_pos asked]
            simp [passed, Call.passes, low, high, within]
          omega
      next => omega
    · intro start
      obtain ⟨mine, theirs⟩ := metered.arrived start
      have once : ∀ (asked : Prop) [Decidable asked] (count : Nat),
          came start (if asked then [⟨request.now, count⟩] else []) ≤ if start ≤ request.now then 1 else 0 := by
        intro asked _ count
        split
        next => simp [came, List.countP_cons]
        next => simp [came]
      have here : arrivedSince sha256 key start ((RateLimit.serve setup sha256 state request).served.map Prod.fst) =
          arrivedSince sha256 key start (state.served.map Prod.fst) + if start ≤ request.now then 1 else 0 := by
        unfold arrivedSince RateLimit.serve
        rw [List.map_cons, List.countP_cons]
        simp [keyed]
      have joined : ∀ first second : List Call, came start (first ++ second) = came start first + came start second :=
        fun _ _ => List.countP_append
      have one := once (asksMemory setup request.reply)
        (next request.options.windowMs request.now (memoryBucket state.stores.memoryBuckets key)).count
      have other := once (asksRedis setup request.reply)
        (next request.options.windowMs request.now (state.stores.redisKeys key)).count
      rw [calls, calls', joined, joined, here]
      exact ⟨by omega, by omega⟩
  · obtain ⟨inRedis, inMemory⟩ := @limit_other setup sha256 key request state.stores keyed
    refine ⟨memory, redis, metered.inMemory.congr onwards inMemory, metered.inRedis.congr onwards ?_, metered.unusedMemory,
      metered.unusedRedis, ?_, ?_⟩
    · exact congrArg (live request.now) inRedis
    · intro start stop
      unfold admittedIn RateLimit.serve
      rw [List.countP_cons]
      have before := metered.admitted start stop
      unfold admittedIn at before
      simpa [keyed] using before
    · intro start
      have same : arrivedSince sha256 key start ((RateLimit.serve setup sha256 state request).served.map Prod.fst) =
          arrivedSince sha256 key start (state.served.map Prod.fst) := by
        unfold arrivedSince RateLimit.serve
        rw [List.map_cons, List.countP_cons]
        simp [keyed]
      rw [same]
      exact metered.arrived start

/-- The limiters that share a key share their limit. -/
def SharesLimit (sha256 : String → String) (key : String) (windowMs max : Nat) (request : Request) : Prop :=
  request.key sha256 = some key → request.options.windowMs = windowMs ∧ request.options.max = max

theorem Metered.serveAll {memory redis : Tally} {requests : List Request}
    (metered : Metered setup sha256 key windowMs max now state memory redis) (positive : 0 < windowMs)
    (ordered : requests.Pairwise fun first second => first.now ≤ second.now)
    (onwards : ∀ request ∈ requests, now ≤ request.now)
    (alike : ∀ request ∈ requests, SharesLimit sha256 key windowMs max request) : ∃ memory' redis' last,
    Metered setup sha256 key windowMs max last (requests.foldl (RateLimit.serve setup sha256) state) memory' redis' ∧
      (last = now ∨ ∃ request ∈ requests, last = request.now) := by
  induction requests generalizing state memory redis now with
  | nil => exact ⟨memory, redis, now, metered, .inl rfl⟩
  | cons request requests ih =>
    obtain ⟨after, rest⟩ := List.pairwise_cons.mp ordered
    obtain ⟨_, _, served⟩ :=
      metered.serve (onwards request List.mem_cons_self) positive (alike request List.mem_cons_self)
    obtain ⟨memory', redis', last, ended, when'⟩ := ih served rest after
      fun other member => alike other (List.mem_cons_of_mem _ member)
    refine ⟨memory', redis', last, ended, .inr ?_⟩
    rcases when' with same | ⟨other, member, same⟩
    · exact ⟨request, List.mem_cons_self, same⟩
    · exact ⟨other, List.mem_cons_of_mem _ member, same⟩

theorem Metered.empty (setup : Setup) (sha256 : String → String) (key : String) (windowMs max now : Nat) :
    Metered setup sha256 key windowMs max now ⟨.empty, []⟩ .empty .empty where
  inMemory := Tallied.initial windowMs max now
  inRedis := Tallied.initial windowMs max now
  unusedMemory := fun _ _ => rfl
  unusedRedis := fun _ => rfl
  admitted := fun _ _ => Nat.zero_le _
  arrived := fun _ => ⟨Nat.zero_le _, Nat.zero_le _⟩

/-- In any interval as long as a window, a store admits less than twice its limit; a process
that counts in its memory when Redis fails, less than four times. -/
theorem admitted_bounded {requests : List Request} (positive : 0 < windowMs)
    (ordered : requests.Pairwise fun first second => first.now ≤ second.now)
    (alike : ∀ request ∈ requests, SharesLimit sha256 key windowMs max request) (start : Nat) :
    admittedIn sha256 key start (start + windowMs) (serveAll setup sha256 requests).served ≤
      (if setup.redis = true ∧ setup.failClosed = false then 2 else 1) * (2 * max - 1) := by
  obtain ⟨memory, redis, last, metered, _⟩ := (Metered.empty setup sha256 key windowMs max 0).serveAll positive ordered
    (fun _ _ => Nat.zero_le _) alike
  have counted := metered.admitted start (start + windowMs)
  have mine := metered.inMemory.bounded start
  have theirs := metered.inRedis.bounded start
  change admittedIn _ _ _ _ (serveAll setup sha256 requests).served ≤ _ at counted
  by_cases both : setup.redis = true ∧ setup.failClosed = false
  · rw [if_pos both]
    omega
  · rw [if_neg both]
    by_cases used : setup.redis = true
    · have closed : setup.failClosed = true := by
        cases closes : setup.failClosed with
        | true => rfl
        | false => exact absurd ⟨used, closes⟩ both
      rw [metered.unusedMemory used closed] at counted
      have none : passed max start (start + windowMs) [] = 0 := rfl
      omega
    · rw [metered.unusedRedis (by simpa using used)] at counted
      have none : passed max start (start + windowMs) [] = 0 := rfl
      omega

theorem served_requests (setup : Setup) (sha256 : String → String) (requests : List Request) :
    (serveAll setup sha256 requests).served.map Prod.fst = requests.reverse := by
  have general : ∀ state : State, (requests.foldl (RateLimit.serve setup sha256) state).served.map Prod.fst =
      requests.reverse ++ state.served.map Prod.fst := by
    induction requests with
    | nil => exact fun _ => rfl
    | cons request requests ih =>
      intro state
      rw [List.foldl_cons, ih, List.reverse_cons, List.append_assoc]
      rfl
  have whole := general ⟨.empty, []⟩
  rw [List.map_nil, List.append_nil] at whole
  exact whole

end Runs

section Retry
variable {setup : Setup} {sha256 : String → String} {key : String} {deadline few : Nat} {stores : Stores}

/-- The store that judges: Redis answers, or there is none. -/
def Stores.judging (setup : Setup) (stores : Stores) (key : String) : Option Bucket :=
  if setup.redis then stores.redisKeys key else memoryBucket stores.memoryBuckets key

/-- The bucket is over by the deadline, or has counted few requests. -/
def Eased (deadline few : Nat) (bucket : Option Bucket) : Prop :=
  ∀ some', bucket = some some' → some'.resetAt ≤ deadline ∨ some'.count ≤ few

theorem Eased.next {bucket : Option Bucket} (eased : Eased deadline few bucket) (length now : Nat) :
    Eased deadline (few + 1) (some (next length now bucket)) := by
  rintro _ ⟨⟩
  unfold Windows.next
  cases known : live now bucket with
  | none => exact .inr (Nat.succ_le_succ (Nat.zero_le few))
  | some open' =>
    rcases eased open' (live_some.mp known).1 with early | within
    · exact .inl early
    · exact .inr (Nat.succ_le_succ within)

/-- The next window, or one that few requests share. -/
theorem Eased.count {bucket : Option Bucket} (eased : Eased deadline few bucket) {now : Nat} (later : deadline ≤ now)
    (length : Nat) : (Windows.next length now bucket).count ≤ few + 1 := by
  unfold Windows.next
  cases known : live now bucket with
  | none => exact Nat.succ_le_succ (Nat.zero_le few)
  | some open' =>
    obtain ⟨there, inside⟩ := live_some.mp known
    rcases eased open' there with early | within
    · omega
    · exact Nat.succ_le_succ within

theorem Eased.mono {bucket : Option Bucket} {more : Nat} (eased : Eased deadline few bucket) (fewer : few ≤ more) :
    Eased deadline more bucket := by
  intro some' there
  rcases eased some' there with early | within
  · exact .inl early
  · exact .inr (within.trans fewer)

private theorem sweep_kept {now : Nat} (entries : List Entry) (buckets : Table Entry) {bucket : Bucket}
    (there : memoryBucket (entries.foldl (fun buckets entry =>
      if entry.bucket.resetAt ≤ now then buckets.remove entry.key else buckets) buckets) key = some bucket) :
    memoryBucket buckets key = some bucket := by
  induction entries generalizing buckets with
  | nil => exact there
  | cons entry entries ih =>
    have rest := ih _ there
    dsimp only at rest
    by_cases over' : entry.bucket.resetAt ≤ now
    · rw [if_pos over'] at rest
      unfold memoryBucket at rest ⊢
      by_cases same : key = entry.key
      · rw [same, Table.get_remove_self] at rest
        cases rest
      · rwa [Table.get_remove_of_ne same] at rest
    · rwa [if_neg over'] at rest

/-- What a request leaves in the memory is its bucket, or was there before. -/
theorem consumeMemory_kept {written : String} {windowMs now : Nat} {buckets : Table Entry} {bucket : Bucket}
    (there : memoryBucket (consumeMemory written windowMs now buckets).2 key = some bucket) :
    (key = written ∧ bucket = Windows.next windowMs now (memoryBucket buckets key)) ∨
      (key ≠ written ∧ memoryBucket buckets key = some bucket) := by
  have put : memoryBucket (buckets.put ⟨written, (consumeMemory written windowMs now buckets).1⟩) key = some bucket := by
    have swept : (consumeMemory written windowMs now buckets).2 =
        if 10000 < (buckets.put ⟨written, (consumeMemory written windowMs now buckets).1⟩).rows.length then
          sweep now (buckets.put ⟨written, (consumeMemory written windowMs now buckets).1⟩)
        else buckets.put ⟨written, (consumeMemory written windowMs now buckets).1⟩ := rfl
    rw [swept] at there
    split at there
    next => exact sweep_kept _ _ there
    next => exact there
  unfold memoryBucket at put
  by_cases same : key = written
  · subst same
    have stored := Table.get_put_self (⟨key, (consumeMemory key windowMs now buckets).1⟩ : Entry) buckets
    rw [show (Table.get _ key) = _ from stored] at put
    refine .inl ⟨rfl, ?_⟩
    rw [← consumeMemory_bucket]
    exact (Option.some.inj put).symm
  · rw [Table.get_put_of_ne same] at put
    exact .inr ⟨same, put⟩

/-- The request is counted by the store that judges. -/
def Heard (setup : Setup) (request : Request) : Prop := setup.redis = true → request.reply = .answered

theorem consume_heard {request : Request} (heard : Heard setup request) (own : String) :
    consume setup request.reply own request.options.windowMs request.now stores =
      if setup.redis then
        (some (consumeRedis own request.options.windowMs request.now stores.redisKeys).1,
          { stores with redisKeys := (consumeRedis own request.options.windowMs request.now stores.redisKeys).2 })
      else
        (some (consumeMemory own request.options.windowMs request.now stores.memoryBuckets).1,
          { stores with
            memoryBuckets := (consumeMemory own request.options.windowMs request.now stores.memoryBuckets).2 }) := by
  obtain ⟨redis, failClosed⟩ := setup
  cases redis with
  | false => rfl
  | true =>
    have answered : request.reply = .answered := heard rfl
    rw [answered]
    rfl

theorem Eased.limit (sha256 : String → String) {request : Request}
    (eased : Eased deadline few (stores.judging setup key)) (heard : Heard setup request) :
    Eased deadline (few + if request.key sha256 = some key then 1 else 0)
      ((infrastructureRateLimit setup sha256 request stores).2.judging setup key) := by
  cases keyed : request.key sha256 with
  | none =>
    have same : (infrastructureRateLimit setup sha256 request stores).2 = stores := by
      unfold infrastructureRateLimit
      rw [keyed]
    rw [same]
    exact eased.mono (Nat.le_add_right _ _)
  | some own =>
    rw [limit_key keyed, consume_heard heard]
    unfold Stores.judging at eased ⊢
    cases used : setup.redis with
    | true =>
      simp only [used, if_true, consumeRedis, Function.update_apply, Option.some.injEq] at eased ⊢
      by_cases same : key = own
      · subst same
        simpa using eased.next request.options.windowMs request.now
      · simpa [same, Ne.symm same] using eased
    | false =>
      simp only [used, Bool.false_eq_true, if_false, Option.some.injEq] at eased ⊢
      intro bucket there
      rcases consumeMemory_kept there with ⟨same, rfl⟩ | ⟨different, before⟩
      · rw [if_pos same.symm]
        exact eased.next _ _ _ rfl
      · exact eased.mono (Nat.le_add_right _ _) bucket before

theorem Eased.run (sha256 : String → String) {state : State} {requests : List Request}
    (eased : Eased deadline few (state.stores.judging setup key)) (heard : ∀ request ∈ requests, Heard setup request) :
    Eased deadline (few + requests.countP fun request => request.key sha256 = some key)
      ((requests.foldl (serve setup sha256) state).stores.judging setup key) := by
  induction requests generalizing state few with
  | nil => exact eased
  | cons request requests ih =>
    have first : Eased deadline _ ((serve setup sha256 state request).stores.judging setup key) :=
      eased.limit sha256 (heard request List.mem_cons_self)
    have rest := ih first fun other member => heard other (List.mem_cons_of_mem _ member)
    rw [List.countP_cons, List.foldl_cons]
    refine Eased.mono rest ?_
    simp only [decide_eq_true_eq]
    omega

/-- Retry-After is kept: where the same store judges, a client that waits as long as it was
told is admitted, unless others have used up the next window. -/
theorem retryAfter_admits {before between : List Request} {refused again : Request} {headers : Headers} {seconds : Nat}
    (heard : ∀ request ∈ before ++ refused :: between ++ [again], Heard setup request)
    (keyed : refused.key sha256 = some key)
    (told : (infrastructureRateLimit setup sha256 refused (serveAll setup sha256 before).stores).1.headers = some headers)
    (waits : headers.retryAfter = some seconds) (later : refused.answeredAt + 1000 * seconds ≤ again.now)
    (same : again.key sha256 = some key)
    (few : between.countP (fun request => request.key sha256 = some key) < again.options.max) :
    (infrastructureRateLimit setup sha256 again (serveAll setup sha256 (before ++ refused :: between)).stores).1.admitted =
      true := by
  have heardRefused : Heard setup refused := heard refused (by simp)
  have heardAgain : Heard setup again := heard again (by simp)
  obtain ⟨bucket, judged, _, ends⟩ := limit_judged keyed told
  have stored : Eased bucket.resetAt 0
      ((infrastructureRateLimit setup sha256 refused (serveAll setup sha256 before).stores).2.judging setup key) := by
    rw [consume_heard heardRefused] at judged
    rw [limit_key keyed, consume_heard heardRefused]
    unfold Stores.judging
    cases used : setup.redis with
    | true =>
      simp only [used, if_true, consumeRedis, Option.some.injEq, Function.update_self] at judged ⊢
      rintro _ ⟨⟩
      rw [← judged]
      exact .inl (by simp only; omega)
    | false =>
      simp only [used, Bool.false_eq_true, if_false, Option.some.injEq] at judged ⊢
      intro some' there
      rcases consumeMemory_kept there with ⟨_, rfl⟩ | ⟨different, _⟩
      · rw [← consumeMemory_bucket, judged]
        exact .inl (le_refl _)
      · exact absurd rfl different
  have whole : serveAll setup sha256 (before ++ refused :: between) =
      between.foldl (serve setup sha256) (serve setup sha256 (serveAll setup sha256 before) refused) := by
    unfold serveAll
    rw [List.foldl_append, List.foldl_cons]
  have start : Eased bucket.resetAt 0
      ((serve setup sha256 (serveAll setup sha256 before) refused).stores.judging setup key) := stored
  have heardBetween : ∀ other ∈ between, Heard setup other := fun other member => heard other (by simp [member])
  have eased := start.run sha256 heardBetween
  rw [← whole] at eased
  have onwards := (ends seconds waits).trans later
  rw [limit_key same, consume_heard heardAgain]
  unfold Stores.judging at eased
  cases used : setup.redis with
  | true =>
    simp only [used, if_true] at eased ⊢
    have count := eased.count onwards again.options.windowMs
    have within : ¬again.options.max < (consumeRedis key again.options.windowMs again.now
        (serveAll setup sha256 (before ++ refused :: between)).stores.redisKeys).1.count := by
      unfold consumeRedis
      simp only
      omega
    simp [Request.answer, within]
  | false =>
    simp only [used, Bool.false_eq_true, if_false] at eased ⊢
    have count := eased.count onwards again.options.windowMs
    rw [← consumeMemory_bucket] at count
    have within : ¬again.options.max < (consumeMemory key again.options.windowMs again.now
        (serveAll setup sha256 (before ++ refused :: between)).stores.memoryBuckets).1.count := by omega
    simp [Request.answer, within]

end Retry

section Sample

def sampleOptions : RateLimitOptions := ⟨"v1:ip", 10, 2⟩

/-- A request of one client. -/
def sampleRequest (time : Nat) : Request := ⟨sampleOptions, some "client", time, time, .answered⟩

def sampleKey : String := "pactagent:rate-limit:v1:ip:client"

theorem sample_key (time : Nat) : (sampleRequest time).key id = some sampleKey := rfl

theorem sample_shares (times : List Nat) :
    ∀ request ∈ times.map sampleRequest, SharesLimit id sampleKey 10 2 request := by
  intro request member
  obtain ⟨time, _, rfl⟩ := List.mem_map.mp member
  exact fun _ => ⟨rfl, rfl⟩

def sampleLimits : Limits := ⟨10, 2, 10, 2, 2, 10, 2⟩

/-- The third request in a window is told to wait a second. -/
def sampleHeaders : Headers := ⟨2, 0, 1, some 1⟩

theorem sample_told : (infrastructureRateLimit ⟨false, false⟩ id (sampleRequest 9)
    (serveAll ⟨false, false⟩ id ([0, 9].map sampleRequest)).stores).1 = ⟨some sampleHeaders, false⟩ := by
  decide +kernel

theorem sample_again : (infrastructureRateLimit ⟨false, false⟩ id (sampleRequest 1009)
    (serveAll ⟨false, false⟩ id
      ([0, 9].map sampleRequest ++ sampleRequest 9 :: [sampleRequest 1009])).stores).1.admitted = true :=
  @retryAfter_admits ⟨false, false⟩ id sampleKey ([0, 9].map sampleRequest) [sampleRequest 1009] (sampleRequest 9)
    (sampleRequest 1009) sampleHeaders 1 (fun _ _ used => by cases used) (sample_key 9)
    (congrArg Answer.headers sample_told) rfl (by decide) (sample_key 1009) (by decide)

end Sample

end PactAgent.Common.RateLimit
