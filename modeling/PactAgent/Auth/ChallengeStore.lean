import Mathlib

/-! The store of wallet challenges: at most one record an address, kept in the
memory of the process or in Redis. -/

namespace PactAgent.Auth.ChallengeStore

structure AuthChallengeRecord where
  address : String
  message : String
  expiresAt : Nat
  deriving DecidableEq

/-- The operations of a store over its own state. Times are those of the clock
that the operation reads. -/
structure AuthChallengeStore (Store : Type) where
  put : AuthChallengeRecord → Nat → Nat → Store → Store
  get : String → Nat → Store → Option AuthChallengeRecord × Store
  consume : String → String → Nat → Store → Bool × Store

namespace Memory

abbrev Records := String → Option AuthChallengeRecord

def get (address : String) (now : Nat) (records : Records) : Option AuthChallengeRecord × Records :=
  match records address with
  | some record =>
      if record.expiresAt ≤ now then (none, Function.update records address none)
      else (some record, records)
  | none => (none, records)

def consume (address expectedMessage : String) (now : Nat) (records : Records) : Bool × Records :=
  match get address now records with
  | (none, records) => (false, records)
  | (some record, records) =>
      if record.message ≠ expectedMessage then (false, records)
      else (true, Function.update records address none)

end Memory

def memoryAuthChallengeStore : AuthChallengeStore Memory.Records where
  put record _ _ records := Function.update records record.address (some record)
  get := Memory.get
  consume := Memory.consume

namespace Redis

/-- A value with the time its key expires. -/
abbrev Keys := String → Option (AuthChallengeRecord × Nat)

def live (key : String) (now : Nat) (keys : Keys) : Option AuthChallengeRecord :=
  match keys key with
  | some (record, removedAt) => if removedAt ≤ now then none else some record
  | none => none

/-- `sha256` is the hexadecimal digest of the address. -/
def challengeKey (sha256 : String → String) (address : String) : String :=
  "pactagent:auth-challenge:" ++ sha256 address

def get (sha256 : String → String) (address : String) (now : Nat) (keys : Keys) :
    Option AuthChallengeRecord × Keys :=
  match live (challengeKey sha256 address) now keys with
  | some record => if record.address ≠ address then (none, keys) else (some record, keys)
  | none => (none, keys)

def consume (sha256 : String → String) (address expectedMessage : String) (now : Nat) (keys : Keys) :
    Bool × Keys :=
  match live (challengeKey sha256 address) now keys with
  | none => (false, keys)
  | some record =>
      if record.address ≠ address ∨ record.message ≠ expectedMessage then (false, keys)
      else (true, Function.update keys (challengeKey sha256 address) none)

end Redis

def redisAuthChallengeStore (sha256 : String → String) : AuthChallengeStore Redis.Keys where
  put record ttlMs now keys :=
    Function.update keys (Redis.challengeKey sha256 record.address) (some (record, now + ttlMs))
  get := Redis.get sha256
  consume := Redis.consume sha256

end PactAgent.Auth.ChallengeStore
