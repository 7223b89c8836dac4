import PactAgent.Common.Errors

/-! The table of idempotency keys. Its unique index on the application and the key
is the type of the table: one row at most under each pair. -/

namespace PactAgent.Idempotency.Repository
open PactAgent.Common

inductive KeyStatus where
  | pending
  | completed
  deriving DecidableEq

/-- The response body that a request stores, around the data it returned. -/
structure StoredBody (Data : Type) where
  data : Data
  requestId : String

structure IdempotencyRow (Data : Type) where
  id : Nat
  requestHash : String
  status : KeyStatus
  responseStatus : Option Nat
  responseBodyJson : Option (StoredBody Data)
  responseBytes : Option Nat
  processingExpiresAt : Nat
  expiresAt : Nat

structure AppKey where
  appId : String
  key : String
  deriving DecidableEq

/-- The configured times in milliseconds and the largest response that is stored. -/
structure IdempotencyConfig where
  idempotencyRetentionMs : Nat
  idempotencyProcessingLeaseMs : Nat
  idempotencyMaxResponseBytes : Nat

abbrev Table (Data : Type) := AppKey → Option (IdempotencyRow Data)

variable {Data : Type}

def findIdempotencyKey (table : Table Data) (appKey : AppKey) : Option (IdempotencyRow Data) :=
  table appKey

/-- Insert a pending row, or fail on the unique index. -/
def reserveIdempotencyKey (config : IdempotencyConfig) (table : Table Data) (appKey : AppKey)
    (requestHash : String) (id now : Nat) : Except Failure (IdempotencyRow Data × Table Data) :=
  match table appKey with
  | some _ => .error .uniqueConstraint
  | none =>
      let row : IdempotencyRow Data :=
        { id
          requestHash
          status := .pending
          responseStatus := none
          responseBodyJson := none
          responseBytes := none
          processingExpiresAt := now + config.idempotencyProcessingLeaseMs
          expiresAt := now + config.idempotencyRetentionMs }
      .ok (row, Function.update table appKey (some row))

/-- Complete whatever row is stored under the key; an absent row is an error. -/
def completeIdempotencyKey (config : IdempotencyConfig) (table : Table Data) (appKey : AppKey)
    (requestHash : String) (responseStatus : Nat) (responseBody : StoredBody Data)
    (responseBytes now : Nat) : Except Failure (IdempotencyRow Data × Table Data) :=
  match table appKey with
  | none => .error (.other "Record to update not found.")
  | some stored =>
      let row : IdempotencyRow Data :=
        { stored with
          requestHash
          status := .completed
          responseStatus := some responseStatus
          responseBodyJson := some responseBody
          responseBytes := some responseBytes
          expiresAt := now + config.idempotencyRetentionMs }
      .ok (row, Function.update table appKey (some row))

/-- Expired, or pending behind a lapsed processing lease. -/
def expired (row : IdempotencyRow Data) (now : Nat) : Bool :=
  row.expiresAt ≤ now || (row.status = .pending && row.processingExpiresAt ≤ now)

def deleteExpiredIdempotencyKey (table : Table Data) (appKey : AppKey) (now : Nat) : Table Data :=
  Function.update table appKey ((table appKey).filter fun row => !expired row now)

def cleanupExpiredIdempotencyKeys (table : Table Data) (now : Nat) : Table Data :=
  fun appKey => (table appKey).filter fun row => !expired row now

def deletePendingIdempotencyKey (table : Table Data) (appKey : AppKey) (requestHash : String) :
    Table Data :=
  Function.update table appKey
    ((table appKey).filter fun row => !(row.requestHash == requestHash && row.status = .pending))

end PactAgent.Idempotency.Repository
