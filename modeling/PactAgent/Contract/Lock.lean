import PactAgent.Foundation.LittleEndian

/-! The pure rules of `pact_escrow_lock`: the layout of the lock arguments and
of the escrow cell data, and the decision whether a transaction may spend one
escrow cell. Everything here is a function of values the script has already
loaded; the system calls are in `Contract.Validate`. -/

namespace PactAgent.Contract.Lock
open PactAgent.Foundation

def HASH_LEN : Nat := 32
def PARTY_HASHES_LEN : Nat := HASH_LEN * 3
/-- The ASCII bytes of `PACTESC1`. -/
def MAGIC : List UInt8 := [0x50, 0x41, 0x43, 0x54, 0x45, 0x53, 0x43, 0x31]
def VERSION : UInt8 := 1
def ESCROW_DATA_LEN : Nat := 88

inductive Error where
  | invalidArgsLength
  | invalidCellDataLength
  | invalidMagic
  | unsupportedVersion
  | missingRequiredSigner
  | missingExpectedOutput
  | invalidTimeoutSince
  | ambiguousSettlementOutputs
  | multipleEscrowInputs
  | nonCanonicalCellData
  deriving DecidableEq, Repr

/-- The exit code the script returns to the virtual machine. -/
def Error.code : Error → Int
  | .invalidArgsLength => 5
  | .invalidCellDataLength => 6
  | .invalidMagic => 7
  | .unsupportedVersion => 8
  | .missingRequiredSigner => 9
  | .missingExpectedOutput => 10
  | .invalidTimeoutSince => 11
  | .ambiguousSettlementOutputs => 12
  | .multipleEscrowInputs => 13
  | .nonCanonicalCellData => 14

/-- A 32-byte array: lock hashes, salts and digests. -/
structure Hash where
  bytes : List UInt8
  length_eq : bytes.length = HASH_LEN
  deriving DecidableEq

/-- `try_into` from a slice to a 32-byte array. -/
def Hash.tryFrom (bytes : List UInt8) : Option Hash :=
  if length_eq : bytes.length = HASH_LEN then some ⟨bytes, length_eq⟩ else none

/-- The same byte in all 32 places. -/
def Hash.repeated (byte : UInt8) : Hash := ⟨List.replicate HASH_LEN byte, List.length_replicate⟩

structure PartyHashes where
  client : Hash
  worker : Hash
  agreementSalt : Hash
  deriving DecidableEq

structure EscrowTerms where
  version : UInt8
  milestoneIndex : UInt32
  refundTimeoutSince : UInt64
  agreementDigest : Hash
  milestoneDigest : Hash
  deriving DecidableEq

structure OutputCell where
  lockHash : Hash
  capacity : UInt64
  deriving DecidableEq

structure TxState where
  inputCapacity : UInt64
  inputSince : UInt64
  signerLockHashes : List Hash
  outputs : List OutputCell
  deriving DecidableEq

inductive ResolutionPath where
  | clientPayout
  | workerRefund
  | timeoutRefund
  deriving DecidableEq, Repr

/-- The bytes at positions `start` to `stop - 1`. -/
def slice (bytes : List UInt8) (start stop : Nat) : List UInt8 := (bytes.take stop).drop start

def hashSlice (bytes : List UInt8) (start stop : Nat) (error : Error) : Except Error Hash :=
  match Hash.tryFrom (slice bytes start stop) with
  | some hash => .ok hash
  | none => .error error

def parsePartyHashes (args : List UInt8) : Except Error PartyHashes := do
  if args.length ≠ PARTY_HASHES_LEN then
    throw .invalidArgsLength
  else
    let client ← hashSlice args 0 HASH_LEN .invalidArgsLength
    let worker ← hashSlice args HASH_LEN (HASH_LEN * 2) .invalidArgsLength
    let agreementSalt ← hashSlice args (HASH_LEN * 2) (HASH_LEN * 3) .invalidArgsLength
    return ⟨client, worker, agreementSalt⟩

def parseTerms (data : List UInt8) : Except Error EscrowTerms := do
  if data.length ≠ ESCROW_DATA_LEN then
    throw .invalidCellDataLength
  else if slice data 0 8 ≠ MAGIC then
    throw .invalidMagic
  else if data.getD 8 0 ≠ VERSION then
    throw .unsupportedVersion
  else if slice data 9 12 ≠ [0, 0, 0] then
    throw .nonCanonicalCellData
  else
    let milestoneIndex := UInt32.ofNat (LittleEndian.ofBytes (slice data 12 16))
    let refundTimeoutSince := UInt64.ofNat (LittleEndian.ofBytes (slice data 16 24))
    if refundTimeoutSince >>> 56 ≠ 0 then
      throw .invalidTimeoutSince
    else
      let agreementDigest ← hashSlice data 24 56 .invalidCellDataLength
      let milestoneDigest ← hashSlice data 56 88 .invalidCellDataLength
      return ⟨data.getD 8 0, milestoneIndex, refundTimeoutSince, agreementDigest, milestoneDigest⟩

def serializeTerms (terms : EscrowTerms) : List UInt8 :=
  MAGIC ++ [terms.version] ++ [0, 0, 0] ++ LittleEndian.toBytes 4 terms.milestoneIndex.toNat ++
    LittleEndian.toBytes 8 terms.refundTimeoutSince.toNat ++
    terms.agreementDigest.bytes ++ terms.milestoneDigest.bytes

def hasSigner (signers : List Hash) (target : Hash) : Bool :=
  signers.any fun hash => hash == target

/-- How many outputs carry this lock hash and exactly this capacity. -/
def matchingOutputs (outputs : List OutputCell) (targetLockHash : Hash)
    (expectedCapacity : UInt64) : Nat :=
  outputs.countP fun output =>
    output.lockHash == targetLockHash && output.capacity == expectedCapacity

def hasExactOutput (outputs : List OutputCell) (targetLockHash : Hash)
    (expectedCapacity : UInt64) : Except Error Bool :=
  let found := matchingOutputs outputs targetLockHash expectedCapacity
  if found > 1 then .error .ambiguousSettlementOutputs else .ok (found == 1)

def timeoutRefundReached (currentSince requiredSince : UInt64) : Bool :=
  currentSince >>> 56 == 0 && currentSince ≥ requiredSince

def evaluateSpend (parties : PartyHashes) (terms : EscrowTerms) (tx : TxState) :
    Except Error ResolutionPath := do
  let clientAuth := hasSigner tx.signerLockHashes parties.client
  let workerAuth := hasSigner tx.signerLockHashes parties.worker
  let workerOutput ← hasExactOutput tx.outputs parties.worker tx.inputCapacity
  let clientOutput ← hasExactOutput tx.outputs parties.client tx.inputCapacity
  if workerOutput && clientOutput then
    throw .ambiguousSettlementOutputs
  else if workerOutput && clientAuth then
    return .clientPayout
  else if clientOutput && workerAuth then
    return .workerRefund
  else if clientOutput && timeoutRefundReached tx.inputSince terms.refundTimeoutSince then
    return .timeoutRefund
  else if !clientAuth && !workerAuth then
    throw .missingRequiredSigner
  else
    throw .missingExpectedOutput

end PactAgent.Contract.Lock
