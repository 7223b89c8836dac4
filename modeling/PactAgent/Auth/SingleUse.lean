import PactAgent.Auth.ChallengeStore
import PactAgent.Foundation.Execution

/-! Interleaved calls of a challenge store. The memory store deletes a consumed record behind an
await; the Redis store consumes it in one script. Both are compared with one law of histories. -/

namespace PactAgent.Auth.SingleUse
open PactAgent.Foundation.Execution PactAgent.Auth.ChallengeStore

section Model

/-- A call of a store with its answer and the time that it reads. -/
inductive Event
  | put (record : AuthChallengeRecord) (ttlMs now : Nat)
  | get (address : String) (now : Nat) (result : Option AuthChallengeRecord)
  | consume (address expectedMessage : String) (now : Nat) (result : Bool)
  deriving DecidableEq

/-- A call up to its first await; `delete` goes on with a consume that waits. -/
inductive Call
  | put (record : AuthChallengeRecord) (ttlMs now : Nat)
  | get (address : String) (now : Nat)
  | consume (address expectedMessage : String) (now : Nat)
  | delete (index : Nat)

/-- A store, with what its consume does behind an await. -/
structure Machine (State : Type) where
  store : AuthChallengeStore State
  behind : Option (String → State → State)
  empty : State

structure World (State : Type) where
  store : State
  clock : Nat
  deleting : List String
  history : List Event

variable {State : Type} (machine : Machine State)

def World.initial : World State := ⟨machine.empty, 0, [], []⟩

def step (world : World State) : Call → Option (World State)
  | .put record ttlMs now =>
      if world.clock ≤ now then
        some ⟨machine.store.put record ttlMs now world.store, now, world.deleting,
          world.history ++ [.put record ttlMs now]⟩
      else none
  | .get address now =>
      if world.clock ≤ now then
        let (result, store) := machine.store.get address now world.store
        some ⟨store, now, world.deleting, world.history ++ [.get address now result]⟩
      else none
  | .consume address expectedMessage now =>
      if world.clock ≤ now then
        let (result, store) := machine.store.consume address expectedMessage now world.store
        some ⟨store, now, if result && machine.behind.isSome then world.deleting ++ [address] else world.deleting,
          world.history ++ [.consume address expectedMessage now result]⟩
      else none
  | .delete index =>
      match machine.behind, world.deleting[index]? with
      | some behind, some address =>
          some { world with store := behind address world.store, deleting := world.deleting.eraseIdx index }
      | _, _ => none

/-- `consume` up to the await: what it answers, before anything is deleted. -/
def Memory.consumeRead (address expectedMessage : String) (now : Nat) (records : Memory.Records) : Bool × Memory.Records :=
  match Memory.get address now records with
  | (none, records) => (false, records)
  | (some record, records) => (decide (record.message = expectedMessage), records)

def Memory.consumeDelete (address : String) (records : Memory.Records) : Memory.Records :=
  Function.update records address none

/-- The two halves make the whole method. -/
theorem Memory.consume_halves (address expectedMessage : String) (now : Nat) (records : Memory.Records) :
    ChallengeStore.Memory.consume address expectedMessage now records =
      match Memory.consumeRead address expectedMessage now records with
      | (true, records) => (true, Memory.consumeDelete address records)
      | (false, records) => (false, records) := by
  unfold ChallengeStore.Memory.consume Memory.consumeRead Memory.consumeDelete
  rcases ChallengeStore.Memory.get address now records with ⟨found, records'⟩
  cases found with
  | none => rfl
  | some record => by_cases same : record.message = expectedMessage <;> simp [same]

def memory : Machine ChallengeStore.Memory.Records where
  store := { memoryAuthChallengeStore with consume := Memory.consumeRead }
  behind := some Memory.consumeDelete
  empty _ := none

def redis (sha256 : String → String) : Machine ChallengeStore.Redis.Keys where
  store := redisAuthChallengeStore sha256
  behind := none
  empty _ := none

end Model

section Condition
variable {State : Type}

/-- Puts expire when their records say, and nothing is called for an address whose consumed record
still waits to be deleted. -/
def Orderly (world : World State) : Call → Prop
  | .put record ttlMs now => record.expiresAt = now + ttlMs ∧ record.address ∉ world.deleting
  | .get address _ => address ∉ world.deleting
  | .consume address _ _ => address ∉ world.deleting
  | .delete _ => True

def Call.within (addresses : Set String) : Call → Prop
  | .put record _ _ => record.address ∈ addresses
  | .get address _ => address ∈ addresses
  | .consume address _ _ => address ∈ addresses
  | .delete _ => True

def Event.within (addresses : Set String) : Event → Prop
  | .put record _ _ => record.address ∈ addresses
  | .get address _ _ => address ∈ addresses
  | .consume address _ _ _ => address ∈ addresses

instance (world : World State) : (call : Call) → Decidable (Orderly world call)
  | .put _ _ _ => inferInstanceAs (Decidable (_ ∧ _))
  | .get _ _ => inferInstanceAs (Decidable (_ ∉ _))
  | .consume _ _ _ => inferInstanceAs (Decidable (_ ∉ _))
  | .delete _ => .isTrue trivial

instance {addresses : Set String} [DecidablePred (· ∈ addresses)] : (call : Call) → Decidable (call.within addresses)
  | .put record _ _ => inferInstanceAs (Decidable (record.address ∈ addresses))
  | .get address _ => inferInstanceAs (Decidable (address ∈ addresses))
  | .consume address _ _ => inferInstanceAs (Decidable (address ∈ addresses))
  | .delete _ => .isTrue trivial

/-- The histories of the orderly runs over some addresses. -/
def Histories (machine : Machine State) (addresses : Set String) : Set (List Event) :=
  fun history => ∃ script world, run (step machine) (World.initial machine) script = some world ∧
    AlongRun (step machine) (fun world call => Orderly world call ∧ call.within addresses) (World.initial machine) script ∧
    world.history = history

end Condition

section Law

def Event.puts (address : String) : Event → Bool
  | .put record _ _ => record.address = address
  | _ => false

def Event.consumes (address : String) : Event → Bool
  | .consume other _ _ result => other = address && result
  | _ => false

def Event.time : Event → Nat
  | .put _ _ now => now
  | .get _ now _ => now
  | .consume _ _ now _ => now

/-- Between two puts for an address at most one consume for it answers true. -/
def SingleUse (history : List Event) : Prop :=
  ∀ (address : String) (i j : Nat) (first second : Event), i < j → history[i]? = some first →
    history[j]? = some second → first.consumes address = true → second.consumes address = true →
    ∃ k event, i < k ∧ k < j ∧ history[k]? = some event ∧ event.puts address = true

def renew (address : String) (latest : Option AuthChallengeRecord) : Event → Option AuthChallengeRecord
  | .put record _ _ => if record.address = address then some record else latest
  | _ => latest

/-- The record of the last put for an address. -/
def latestPut (address : String) (history : List Event) : Option AuthChallengeRecord :=
  history.foldl (renew address) none

/-- A consume answers true only for the message of the latest put, which has not expired. -/
def LatestOnly (history : List Event) : Prop :=
  ∀ (index : Nat) (address message : String) (now : Nat), history[index]? = some (.consume address message now true) →
    ∃ record, latestPut address (history.take index) = some record ∧ record.message = message ∧ now < record.expiresAt

/-- The record that a put has left and no consume has taken. -/
def note (address : String) (standing : Option AuthChallengeRecord) : Event → Option AuthChallengeRecord
  | .put record _ _ => if record.address = address then some record else standing
  | .consume other _ _ result => if other = address ∧ result = true then none else standing
  | .get _ _ _ => standing

def standing (address : String) (history : List Event) : Option AuthChallengeRecord :=
  history.foldl (note address) none

/-- The record as long as it has not expired. -/
def unexpired (now : Nat) (record : Option AuthChallengeRecord) : Option AuthChallengeRecord :=
  record.filter fun record => now < record.expiresAt

/-- What a single-use store answers behind a history. -/
def Event.Lawful (history : List Event) : Event → Prop
  | .put record ttlMs now => record.expiresAt = now + ttlMs
  | .get address now result => result = unexpired now (standing address history)
  | .consume address message now result =>
      result = (unexpired now (standing address history)).any fun record => record.message = message

/-- The histories of a store whose every call is atomic. -/
def Lawful (history : List Event) : Prop :=
  ∀ (index : Nat) (event : Event), history[index]? = some event →
    event.Lawful (history.take index) ∧ ∀ earlier ∈ history.take index, earlier.time ≤ event.time

end Law

section Histories
variable {address : String} {history : List Event} {event : Event}

theorem standing_snoc : standing address (history ++ [event]) = note address (standing address history) event := by
  rw [standing, List.foldl_append]
  rfl

theorem latestPut_of_standing {record : AuthChallengeRecord} (found : standing address history = some record) :
    latestPut address history = some record := by
  induction history using List.reverseRecOn generalizing record with
  | nil => cases found
  | append_singleton history event ih =>
    rw [standing_snoc] at found
    rw [latestPut, List.foldl_append]
    change renew address (latestPut address history) event = some record
    cases event with
    | put other ttlMs now =>
      simp only [note] at found
      by_cases same : other.address = address
      · simpa only [renew, if_pos same] using found
      · simp only [renew, if_neg same] at found ⊢
        exact ih found
    | get other now result => exact ih found
    | consume other message now result =>
      simp only [note] at found
      split at found
      · cases found
      · exact ih found

/-- A record that stands is one of the address. -/
theorem standing_address {record : AuthChallengeRecord} (found : standing address history = some record) :
    record.address = address := by
  induction history using List.reverseRecOn generalizing record with
  | nil => cases found
  | append_singleton history event ih =>
    rw [standing_snoc] at found
    cases event with
    | put other ttlMs now =>
      simp only [note] at found
      by_cases same : other.address = address
      · rw [if_pos same] at found
        cases found
        exact same
      · rw [if_neg same] at found
        exact ih found
    | get other now result => exact ih found
    | consume other message now result =>
      simp only [note] at found
      split at found
      · cases found
      · exact ih found

theorem take_next {index : Nat} (found : history[index]? = some event) :
    history.take (index + 1) = history.take index ++ [event] := by
  rw [List.take_add_one, found]
  rfl

/-- Behind a consume nothing stands until the next put. -/
theorem standing_none {i k : Nat} {first : Event} (found : history[i]? = some first)
    (consumed : first.consumes address = true) (later : i < k) (inside : k ≤ history.length)
    (free : ∀ m event, i < m → m < k → history[m]? = some event → event.puts address = false) :
    standing address (history.take k) = none := by
  induction k, later using Nat.le_induction with
  | base =>
    rw [take_next found, standing_snoc]
    cases first with
    | consume other message now result =>
      simp only [Event.consumes, Bool.and_eq_true, decide_eq_true_eq] at consumed
      simp only [note, consumed, and_self, if_true]
    | put record ttlMs now => cases consumed
    | get other now result => cases consumed
  | succ k behind ih =>
    have here : history[k]? = some history[k] := List.getElem?_eq_getElem (by omega)
    have before := ih (by omega) fun m event after bound => free m event after (by omega)
    have quiet := free k history[k] (by omega) (by omega) here
    rw [take_next here, standing_snoc, before]
    cases event : history[k] with
    | put record ttlMs now =>
      rw [event] at quiet
      simp only [Event.puts, decide_eq_false_iff_not] at quiet
      simp only [note, if_neg quiet]
    | get other now result => rfl
    | consume other message now result => simp only [note, ite_self]

/-- A consume that answers true has taken a record that stands. -/
theorem Lawful.taken (lawful : Lawful history) {index : Nat} (found : history[index]? = some event)
    (consumed : event.consumes address = true) : ∃ record, standing address (history.take index) = some record := by
  have law := (lawful index event found).1
  cases event with
  | put record ttlMs now => cases consumed
  | get other now result => cases consumed
  | consume other message now result =>
    simp only [Event.consumes, Bool.and_eq_true, decide_eq_true_eq] at consumed
    obtain ⟨rfl, rfl⟩ := consumed
    simp only [Event.Lawful] at law
    obtain ⟨record, stands, -⟩ := (Option.any_eq_true ..).mp law.symm
    exact ⟨record, (Option.filter_eq_some_iff.mp stands).1⟩

theorem Lawful.singleUse (lawful : Lawful history) : SingleUse history := by
  intro address i j first second before found found' consumed consumed'
  by_contra none
  obtain ⟨record, stands⟩ := lawful.taken found' consumed'
  have inside : j ≤ history.length := (List.getElem?_eq_some_iff.mp found').1.le
  rw [standing_none found consumed before inside] at stands
  · cases stands
  · intro m event after bound here
    by_contra puts
    exact none ⟨m, event, after, bound, here, Bool.not_eq_false _ ▸ puts⟩

theorem Lawful.latestOnly (lawful : Lawful history) : LatestOnly history := by
  intro index address message now found
  have law := (lawful index _ found).1
  simp only [Event.Lawful] at law
  obtain ⟨record, stands, same⟩ := (Option.any_eq_true ..).mp law.symm
  obtain ⟨stands, fresh⟩ := Option.filter_eq_some_iff.mp stands
  exact ⟨record, latestPut_of_standing stands, of_decide_eq_true same, of_decide_eq_true fresh⟩

theorem lawful_snoc : Lawful (history ++ [event]) ↔
    Lawful history ∧ event.Lawful history ∧ ∀ earlier ∈ history, earlier.time ≤ event.time := by
  constructor
  · intro lawful
    refine ⟨fun index other found => ?_, ?_⟩
    · have inside := (List.getElem?_eq_some_iff.mp found).1
      have whole := lawful index other (by rw [List.getElem?_append_left inside, found])
      rwa [List.take_append_of_le_length inside.le] at whole
    · have last := lawful history.length event (by simp)
      rwa [List.take_left'] at last
      rfl
  · rintro ⟨lawful, law, order⟩ index other found
    rcases Nat.lt_or_ge index history.length with inside | beyond
    · rw [List.getElem?_append_left inside] at found
      rw [List.take_append_of_le_length inside.le]
      exact lawful index other found
    · rw [List.getElem?_append_right beyond, List.getElem?_singleton] at found
      split at found
      · next zero =>
        cases found
        have same : index = history.length := by omega
        rw [same, List.take_left' rfl]
        exact ⟨law, order⟩
      · cases found

end Histories

section Machines
variable {State : Type} {machine : Machine State} {addresses : Set String}

/-- What a store shows for an address at a time, and how its calls change that. -/
structure Shows (machine : Machine State) (addresses : Set String) (view : State → String → Nat → Option AuthChallengeRecord) :
    Prop where
  empty : ∀ address now, view machine.empty address now = none
  put : ∀ state record ttlMs now address later, address ∈ addresses → record.address ∈ addresses →
    record.expiresAt = now + ttlMs → view (machine.store.put record ttlMs now state) address later =
      if record.address = address then unexpired later (some record) else view state address later
  got : ∀ state address now, (machine.store.get address now state).1 = view state address now
  get : ∀ state address now other later, now ≤ later →
    view (machine.store.get address now state).2 other later = view state other later
  consumed : ∀ state address message now, (machine.store.consume address message now state).1 =
    (view state address now).any fun record => record.message = message
  consume : ∀ state address message now other later, address ∈ addresses → other ∈ addresses → now ≤ later →
    view (machine.store.consume address message now state).2 other later =
      if (machine.store.consume address message now state).1 = true ∧ machine.behind = none ∧ address = other then none
      else view state other later
  behind : ∀ behind, machine.behind = some behind → ∀ state address other later,
    view (behind address state) other later = if address = other then none else view state other later

theorem memory_got (records : ChallengeStore.Memory.Records) (address : String) (now : Nat) :
    (ChallengeStore.Memory.get address now records).1 = unexpired now (records address) := by
  unfold ChallengeStore.Memory.get
  cases found : records address with
  | none => rfl
  | some record =>
    by_cases old : record.expiresAt ≤ now
    · simp [unexpired, Option.filter, old, Nat.not_lt.mpr]
    · simp [unexpired, Option.filter, old, Nat.lt_of_not_le]

/-- Reading drops an expired record only. -/
theorem memory_get (records : ChallengeStore.Memory.Records) (address other : String) {now later : Nat} (order : now ≤ later) :
    unexpired later ((ChallengeStore.Memory.get address now records).2 other) = unexpired later (records other) := by
  unfold ChallengeStore.Memory.get
  cases found : records address with
  | none => rfl
  | some record =>
    by_cases old : record.expiresAt ≤ now
    · simp only [if_pos old]
      by_cases same : other = address
      · subst same
        have gone : ¬later < record.expiresAt := by omega
        simp [found, unexpired, Option.filter, gone]
      · rw [Function.update_of_ne same]
    · simp only [if_neg old]

theorem memory_consume (records : ChallengeStore.Memory.Records) (address message : String) (now : Nat) :
    Memory.consumeRead address message now records =
      ((unexpired now (records address)).any (fun record => record.message = message),
        (ChallengeStore.Memory.get address now records).2) := by
  have got := memory_got records address now
  unfold Memory.consumeRead
  rcases read : ChallengeStore.Memory.get address now records with ⟨found, after⟩
  rw [read] at got
  rw [← got]
  cases found <;> rfl

theorem memory_shows : Shows memory addresses fun records address now => unexpired now (records address) where
  empty _ _ := rfl
  put records record ttlMs now address later _ _ _ := by
    change unexpired later (Function.update records record.address (some record) address) = _
    by_cases same : record.address = address
    · rw [if_pos same, same, Function.update_self]
    · rw [if_neg same, Function.update_of_ne (Ne.symm same)]
  got := memory_got
  get records address now other later order := memory_get records address other order
  consumed records address message now := by
    change (Memory.consumeRead address message now records).1 = _
    rw [memory_consume]
  consume records address message now other later _ _ order := by
    change unexpired later ((Memory.consumeRead address message now records).2 other) = _
    rw [memory_consume, if_neg (fun immediate => by cases immediate.2.1)]
    exact memory_get records address other order
  behind behind same records address other later := by
    cases same
    change unexpired later (Function.update records address none other) = _
    by_cases equal : address = other
    · rw [if_pos equal, equal, Function.update_self]
      rfl
    · rw [if_neg equal, Function.update_of_ne (Ne.symm equal)]

/-- What Redis has under the key of an address, for that address. -/
def redisView (sha256 : String → String) (keys : ChallengeStore.Redis.Keys) (address : String) (now : Nat) :
    Option AuthChallengeRecord :=
  (ChallengeStore.Redis.live (ChallengeStore.Redis.challengeKey sha256 address) now keys).filter
    fun record => record.address = address

theorem redis_got (sha256 : String → String) (keys : ChallengeStore.Redis.Keys) (address : String) (now : Nat) :
    ChallengeStore.Redis.get sha256 address now keys = (redisView sha256 keys address now, keys) := by
  unfold ChallengeStore.Redis.get redisView
  cases ChallengeStore.Redis.live (ChallengeStore.Redis.challengeKey sha256 address) now keys with
  | none => rfl
  | some record => by_cases same : record.address = address <;> simp [Option.filter, same]

theorem redis_consume (sha256 : String → String) (keys : ChallengeStore.Redis.Keys) (address message : String) (now : Nat) :
    ChallengeStore.Redis.consume sha256 address message now keys =
      if (redisView sha256 keys address now).any (fun record => record.message = message) then
        (true, Function.update keys (ChallengeStore.Redis.challengeKey sha256 address) none)
      else (false, keys) := by
  unfold ChallengeStore.Redis.consume redisView
  cases ChallengeStore.Redis.live (ChallengeStore.Redis.challengeKey sha256 address) now keys with
  | none => rfl
  | some record =>
    by_cases same : record.address = address
    · by_cases equal : record.message = message <;> simp [Option.filter, same, equal]
    · simp [Option.filter, same]

theorem challengeKey_inj {sha256 : String → String} (injective : Set.InjOn sha256 addresses) {address other : String}
    (inside : address ∈ addresses) (inside' : other ∈ addresses) :
    ChallengeStore.Redis.challengeKey sha256 address = ChallengeStore.Redis.challengeKey sha256 other ↔ address = other := by
  constructor
  · intro same
    unfold ChallengeStore.Redis.challengeKey at same
    have digests : sha256 address = sha256 other := (String.append_right_inj _).mp same
    exact injective inside inside' digests
  · rintro rfl
    rfl

theorem redis_shows {sha256 : String → String} (injective : Set.InjOn sha256 addresses) :
    Shows (redis sha256) addresses (redisView sha256) where
  empty _ _ := rfl
  put keys record ttlMs now address later inside inside' expires := by
    change redisView sha256 (Function.update keys (ChallengeStore.Redis.challengeKey sha256 record.address)
      (some (record, now + ttlMs))) address later = _
    by_cases same : record.address = address
    · subst same
      rw [if_pos rfl, redisView, ChallengeStore.Redis.live, Function.update_self]
      by_cases old : now + ttlMs ≤ later <;> simp [unexpired, Option.filter, expires, old] <;> omega
    · have other : ChallengeStore.Redis.challengeKey sha256 address ≠ ChallengeStore.Redis.challengeKey sha256 record.address :=
        fun keys => same ((challengeKey_inj injective inside inside').mp keys).symm
      rw [if_neg same, redisView, redisView, ChallengeStore.Redis.live, ChallengeStore.Redis.live,
        Function.update_of_ne other]
  got keys address now := congrArg Prod.fst (redis_got sha256 keys address now)
  get keys address now other later _ := by
    change redisView sha256 (ChallengeStore.Redis.get sha256 address now keys).2 other later = _
    rw [redis_got]
  consumed keys address message now := by
    change (ChallengeStore.Redis.consume sha256 address message now keys).1 = _
    rw [redis_consume]
    split
    · next holds => exact holds.symm
    · next fails => exact (Bool.not_eq_true _ ▸ fails).symm
  consume keys address message now other later inside inside' order := by
    have consumed : (redis sha256).store.consume address message now keys = _ := redis_consume sha256 keys address message now
    by_cases taken : (redisView sha256 keys address now).any (fun record => record.message = message) = true
    · rw [if_pos taken] at consumed
      simp only [consumed]
      by_cases same : address = other
      · subst same
        rw [if_pos ⟨trivial, rfl, rfl⟩, redisView, ChallengeStore.Redis.live, Function.update_self]
        rfl
      · have key : ChallengeStore.Redis.challengeKey sha256 other ≠ ChallengeStore.Redis.challengeKey sha256 address :=
          fun keys => same ((challengeKey_inj injective inside' inside).mp keys).symm
        rw [if_neg (fun all => same all.2.2), redisView, redisView, ChallengeStore.Redis.live, ChallengeStore.Redis.live,
          Function.update_of_ne key]
    · rw [if_neg taken] at consumed
      simp only [consumed]
      rw [if_neg (fun all => by cases all.1)]
  behind behind same := by cases same

/-- The history is lawful, and the store shows what stands of it. -/
structure Reflects (addresses : Set String) (view : State → String → Nat → Option AuthChallengeRecord)
    (world : World State) : Prop where
  lawful : Lawful world.history
  clock : ∀ event ∈ world.history, event.time ≤ world.clock
  deleting : ∀ address ∈ world.deleting, standing address world.history = none
  shown : ∀ address ∈ addresses, address ∉ world.deleting → ∀ now, world.clock ≤ now →
    view world.store address now = unexpired now (standing address world.history)

variable {view : State → String → Nat → Option AuthChallengeRecord} {world next : World State}

theorem Reflects.initial (shows : Shows machine addresses view) : Reflects addresses view (World.initial machine) where
  lawful _ _ found := by cases found
  clock _ member := by cases member
  deleting _ member := by cases member
  shown address _ _ now _ := shows.empty address now

theorem clock_snoc {history : List Event} {clock : Nat} {event : Event} (past : ∀ earlier ∈ history, earlier.time ≤ clock)
    (order : clock ≤ event.time) : ∀ earlier ∈ history ++ [event], earlier.time ≤ event.time := by
  intro earlier member
  rcases List.mem_append.mp member with before | same
  · exact (past earlier before).trans order
  · rw [List.mem_singleton.mp same]

/-- An orderly call is answered by the law. -/
theorem Reflects.step (shows : Shows machine addresses view) {call : Call} (reflects : Reflects addresses view world)
    (orderly : Orderly world call) (within : call.within addresses) (taken : step machine world call = some next) :
    Reflects addresses view next := by
  cases call with
  | put record ttlMs now =>
    obtain ⟨expires, free⟩ := orderly
    simp only [SingleUse.step] at taken
    split at taken
    · next order =>
      cases taken
      have later := fun event member => (reflects.clock event member).trans order
      refine ⟨lawful_snoc.mpr ⟨reflects.lawful, expires, later⟩, clock_snoc reflects.clock order, ?_, ?_⟩
      · intro address member
        have other : record.address ≠ address := fun same => free (same ▸ member)
        rw [standing_snoc, note, if_neg other]
        exact reflects.deleting address member
      · intro address inside waiting moment after
        rw [standing_snoc, note, shows.put _ _ _ _ _ _ inside within expires]
        split
        · rfl
        · exact reflects.shown address inside waiting moment (order.trans after)
    · cases taken
  | get address now =>
    simp only [SingleUse.step] at taken
    split at taken
    · next order =>
      cases taken
      have later := fun event member => (reflects.clock event member).trans order
      have answer := (shows.got world.store address now).trans (reflects.shown address within orderly now order)
      refine ⟨lawful_snoc.mpr ⟨reflects.lawful, answer, later⟩, clock_snoc reflects.clock order, ?_, ?_⟩
      · intro other member
        rw [standing_snoc, note]
        exact reflects.deleting other member
      · intro other inside waiting moment after
        rw [standing_snoc, note, shows.get _ _ _ _ _ after]
        exact reflects.shown other inside waiting moment (order.trans after)
    · cases taken
  | consume address message now =>
    simp only [SingleUse.step] at taken
    split at taken
    · next order =>
      cases taken
      have later := fun event member => (reflects.clock event member).trans order
      have seen := reflects.shown address within orderly now order
      have answer := shows.consumed world.store address message now
      rw [seen] at answer
      refine ⟨lawful_snoc.mpr ⟨reflects.lawful, answer, later⟩, clock_snoc reflects.clock order, ?_, ?_⟩
      · intro other member
        rw [standing_snoc, note]
        split
        · rfl
        · next apart =>
          apply reflects.deleting
          by_cases waits : ((machine.store.consume address message now world.store).1 && machine.behind.isSome) = true
          · simp only [if_pos waits, List.mem_append, List.mem_singleton] at member
            rcases member with before | rfl
            · exact before
            · exact absurd ⟨rfl, (Bool.and_eq_true_iff.mp waits).1⟩ apart
          · simpa only [if_neg waits] using member
      · intro other inside waiting moment after
        rw [standing_snoc, note, shows.consume _ _ _ _ _ _ within inside after]
        have free : other ∉ world.deleting := by
          intro member
          apply waiting
          dsimp only
          split
          · exact List.mem_append_left _ member
          · exact member
        by_cases taken : (machine.store.consume address message now world.store).1 = true ∧ address = other
        · have immediate : machine.behind = none := by
            by_contra delayed
            apply waiting
            dsimp only
            rw [taken.1, Option.isSome_iff_ne_none.mpr delayed, Bool.and_self, if_pos rfl, taken.2]
            exact List.mem_append_right _ List.mem_cons_self
          rw [if_pos ⟨taken.1, immediate, taken.2⟩, if_pos ⟨taken.2, taken.1⟩]
          rfl
        · rw [if_neg (fun all => taken ⟨all.1, all.2.2⟩), if_neg (fun all => taken ⟨all.2, all.1⟩)]
          exact reflects.shown other inside free moment (order.trans after)
    · cases taken
  | delete index =>
    simp only [SingleUse.step] at taken
    split at taken
    · next behind address delayed found =>
      cases taken
      refine ⟨reflects.lawful, reflects.clock, fun other member => reflects.deleting other (List.mem_of_mem_eraseIdx member), ?_⟩
      intro other inside waiting moment after
      rw [shows.behind behind delayed]
      split
      · next same =>
        have waited : other ∈ world.deleting := same ▸ List.mem_of_getElem? found
        rw [reflects.deleting other waited]
        rfl
      · next apart =>
        apply reflects.shown other inside _ moment after
        intro waited
        apply waiting
        obtain ⟨bound, same⟩ := List.getElem?_eq_some_iff.mp found
        dsimp only
        rw [List.eraseIdx_eq_take_drop_succ, List.mem_append]
        rw [← List.take_append_drop index world.deleting, List.drop_eq_getElem_cons bound, same, List.mem_append,
          List.mem_cons] at waited
        rcases waited with before | equal | behind
        · exact .inl before
        · exact absurd equal.symm apart
        · exact .inr behind
    · cases taken

theorem Histories.lawful (shows : Shows machine addresses view) {history : List Event}
    (member : history ∈ Histories machine addresses) : Lawful history := by
  obtain ⟨script, world, reached, met, rfl⟩ := member
  exact (invariant_along (fun state action next reflects met taken => Reflects.step shows reflects met.1 met.2 taken)
    script _ _ (Reflects.initial shows) met reached).lawful

def Event.call : Event → Call
  | .put record ttlMs now => .put record ttlMs now
  | .get address now _ => .get address now
  | .consume address message now _ => .consume address message now

/-- A lawful event is what the call behind its history answers. -/
theorem answered (shows : Shows machine addresses view) (reflects : Reflects addresses view world)
    (idle : world.deleting = []) {event : Event} (inside : event.within addresses) (order : world.clock ≤ event.time)
    (law : event.Lawful world.history) :
    ∃ next, step machine world event.call = some next ∧ next.history = world.history ++ [event] ∧
      next.clock = event.time ∧ (next.deleting = [] ∨ ∃ behind address, machine.behind = some behind ∧ next.deleting = [address]) := by
  cases event with
  | put record ttlMs now =>
    refine ⟨_, if_pos order, rfl, rfl, .inl idle⟩
  | get address now result =>
    refine ⟨_, if_pos order, ?_, rfl, .inl idle⟩
    have seen := (shows.got world.store address now).trans (reflects.shown address inside (by simp [idle]) now order)
    have same : (machine.store.get address now world.store).1 = result := seen.trans law.symm
    dsimp only
    rw [same]
  | consume address message now result =>
    have seen := reflects.shown address inside (by simp [idle]) now order
    have answer := shows.consumed world.store address message now
    rw [seen] at answer
    have same : (machine.store.consume address message now world.store).1 = result := answer.trans law.symm
    refine ⟨_, if_pos order, ?_, rfl, ?_⟩
    · dsimp only
      rw [same]
    · dsimp only
      rw [same, idle]
      cases delayed : machine.behind with
      | none => exact .inl (by simp)
      | some behind =>
        cases result with
        | false => exact .inl (by simp)
        | true => exact .inr ⟨behind, address, rfl, by simp⟩

/-- Every lawful history is one of an orderly run. -/
theorem Histories.of_lawful (shows : Shows machine addresses view) {history : List Event} (lawful : Lawful history)
    (inside : ∀ event ∈ history, event.within addresses) : history ∈ Histories machine addresses := by
  have reached : ∃ script world, run (step machine) (World.initial machine) script = some world ∧
      AlongRun (step machine) (fun world call => Orderly world call ∧ call.within addresses) (World.initial machine) script ∧
      world.history = history ∧ world.deleting = [] ∧ (∀ time, (∀ event ∈ history, event.time ≤ time) → world.clock ≤ time) := by
    induction history using List.reverseRecOn with
    | nil => exact ⟨[], World.initial machine, rfl, trivial, rfl, rfl, fun time _ => Nat.zero_le time⟩
    | append_singleton history event ih =>
      obtain ⟨before, law, order⟩ := lawful_snoc.mp lawful
      obtain ⟨script, world, reached, met, rfl, idle, clock⟩ :=
        ih before fun event member => inside event (List.mem_append_left _ member)
      have reflects := invariant_along (fun state action next reflects met taken =>
        Reflects.step shows reflects met.1 met.2 taken) script _ _ (Reflects.initial shows) met reached
      have within := inside event (List.mem_append_right _ List.mem_cons_self)
      obtain ⟨next, taken, written, time, rest⟩ := answered shows reflects idle within (clock _ order) law
      have orderly : Orderly world event.call ∧ event.call.within addresses := by
        cases event with
        | put record ttlMs now => exact ⟨⟨law, by simp [idle]⟩, within⟩
        | get address now result => exact ⟨by simp [Orderly, idle, Event.call], within⟩
        | consume address message now result => exact ⟨by simp [Orderly, idle, Event.call], within⟩
      have late : ∀ time, (∀ other ∈ world.history ++ [event], other.time ≤ time) → next.clock ≤ time := by
        intro bound all
        rw [time]
        exact all event (List.mem_append_right _ List.mem_cons_self)
      have once : run (step machine) world [event.call] = some next := by
        rw [run, taken]
        rfl
      have whole : run (step machine) (World.initial machine) (script ++ [event.call]) = some next := by
        rw [run_append reached]
        exact once
      have along := alongRun_snoc.mpr ⟨met, fun middle there => by
        cases reached.symm.trans there
        exact orderly⟩
      rcases rest with done | ⟨behind, address, delayed, waits⟩
      · exact ⟨script ++ [event.call], next, whole, along, written, done, late⟩
      · have deleted : step machine next (.delete 0) =
            some { next with store := behind address next.store, deleting := [] } := by
          simp only [SingleUse.step, delayed, waits]
          rfl
        refine ⟨script ++ [event.call] ++ [.delete 0], { next with store := behind address next.store, deleting := [] },
          ?_, ?_, written, rfl, late⟩
        · rw [run_append whole, run, deleted]
          rfl
        · exact alongRun_snoc.mpr ⟨along, fun middle there => ⟨trivial, trivial⟩⟩
  obtain ⟨script, world, reached, met, same, -⟩ := reached
  exact ⟨script, world, reached, met, same⟩

/-- The histories only name the addresses of the calls. -/
theorem Histories.within {history : List Event} (member : history ∈ Histories machine addresses) :
    ∀ event ∈ history, event.within addresses := by
  obtain ⟨script, world, reached, met, rfl⟩ := member
  have preserved : ∀ (world : World State) (call : Call) (next : World State),
      (∀ event ∈ world.history, event.within addresses) → Orderly world call ∧ call.within addresses →
      step machine world call = some next → ∀ event ∈ next.history, event.within addresses := by
    intro world call next inside met taken
    cases call with
    | delete index =>
      simp only [SingleUse.step] at taken
      split at taken
      · cases taken
        exact inside
      · cases taken
    | put record ttlMs now =>
      simp only [SingleUse.step] at taken
      split at taken
      · cases taken
        exact List.forall_mem_append.mpr ⟨inside, List.forall_mem_singleton.mpr met.2⟩
      · cases taken
    | get address now =>
      simp only [SingleUse.step] at taken
      split at taken
      · cases taken
        exact List.forall_mem_append.mpr ⟨inside, List.forall_mem_singleton.mpr met.2⟩
      · cases taken
    | consume address message now =>
      simp only [SingleUse.step] at taken
      split at taken
      · cases taken
        exact List.forall_mem_append.mpr ⟨inside, List.forall_mem_singleton.mpr met.2⟩
      · cases taken
  exact invariant_along preserved script _ _ (fun event member => by cases member) met reached

/-- Two stores that show what stands have the same histories. -/
theorem histories_eq {Other : Type} {other : Machine Other} {view' : Other → String → Nat → Option AuthChallengeRecord}
    (shows : Shows machine addresses view) (shows' : Shows other addresses view') :
    Histories machine addresses = Histories other addresses := by
  ext history
  constructor
  · intro member
    exact Histories.of_lawful shows' (Histories.lawful shows member) (Histories.within member)
  · intro member
    exact Histories.of_lawful shows (Histories.lawful shows' member) (Histories.within member)

end Machines

end PactAgent.Auth.SingleUse
