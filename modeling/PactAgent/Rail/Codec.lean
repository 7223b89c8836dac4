import PactAgent.Contract.Terms
import PactAgent.Foundation.Guard
import PactAgent.Rail.Script

/-! The server's encoding of lock arguments and escrow cell data. -/

namespace PactAgent.Rail.Codec
open PactAgent.Common PactAgent.Foundation
open PactAgent.Contract PactAgent.Contract.Lock PactAgent.Contract.Terms PactAgent.Rail.Script

def ESCROW_LOCK_ARGS_BYTES : Nat := 96
def ESCROW_CELL_DATA_BYTES : Nat := 88
def ESCROW_CELL_DATA_VERSION : UInt8 := 1
def UINT32_MAX : Nat := 0xffffffff
def UINT64_MAX : Nat := 0xffffffffffffffff
def MAX_SAFE_INTEGER : Nat := 2 ^ 53 - 1

def fixedHex (value : String) (bytes : Nat) (field : String) : Except Failure (List Char) :=
  let normalized := (toLowerCase value).toList
  if matchesHex normalized (some bytes) then .ok (normalized.drop 2)
  else .error (.other s!"{field} must be a {bytes}-byte 0x-prefixed hex value.")

/-- A `number` argument must be a safe integer; both kinds must be in range. -/
inductive Unsigned where
  | number (value : Int)
  | bigint (value : Int)

def unsignedInteger (value : Unsigned) (maximum : Nat) (field : String) : Except Failure Nat :=
  match value with
  | .number value =>
      if value.natAbs > MAX_SAFE_INTEGER then
        .error (.other s!"{field} must be a safe unsigned integer.")
      else if value < 0 ∨ value > maximum then
        .error (.other s!"{field} is outside its unsigned integer range.")
      else .ok value.toNat
  | .bigint value =>
      if value < 0 ∨ value > maximum then
        .error (.other s!"{field} is outside its unsigned integer range.")
      else .ok value.toNat

structure EscrowLockArgs where
  clientLockHash : String
  workerLockHash : String
  agreementSalt : String

def encodeEscrowLockArgs (args : EscrowLockArgs) : Except Failure String := do
  let client ← fixedHex args.clientLockHash 32 "clientLockHash"
  let worker ← fixedHex args.workerLockHash 32 "workerLockHash"
  let salt ← fixedHex args.agreementSalt 32 "agreementSalt"
  return String.ofList ('0' :: 'x' :: (client ++ worker ++ salt))

structure EscrowCellData where
  milestoneIndex : Int
  refundTimeoutSince : Int
  agreementDigest : String
  milestoneDigest : String

/-- The buffer is zero where nothing is copied: bytes 9 to 11 stay zero. -/
def encodeEscrowCellData (data : EscrowCellData) : Except Failure String := do
  let milestoneIndex ← unsignedInteger (.number data.milestoneIndex) UINT32_MAX "milestoneIndex"
  let refundTimeoutSince ←
    unsignedInteger (.bigint data.refundTimeoutSince) UINT64_MAX "refundTimeoutSince"
  let agreementDigest ← fixedHex data.agreementDigest 32 "agreementDigest"
  let milestoneDigest ← fixedHex data.milestoneDigest 32 "milestoneDigest"
  let encoded := MAGIC ++ [ESCROW_CELL_DATA_VERSION] ++ [0, 0, 0] ++
    LittleEndian.toBytes 4 milestoneIndex ++ LittleEndian.toBytes 8 refundTimeoutSince ++
    Hex.decode agreementDigest ++ Hex.decode milestoneDigest
  return String.ofList ('0' :: 'x' :: Hex.encode encoded)

/-- The `0x` text of a byte string. -/
def hexText (bytes : List UInt8) : String := String.ofList ('0' :: 'x' :: Hex.encode bytes)

def decodeEscrowCellData (encoded : String) : Except Failure EscrowCellData := do
  let digits ← fixedHex encoded ESCROW_CELL_DATA_BYTES "cellData"
  let bytes := Hex.decode digits
  let version := bytes.getD 8 0
  if slice bytes 0 8 ≠ MAGIC then
    throw (.other "cellData has an invalid escrow magic value.")
  else if version ≠ ESCROW_CELL_DATA_VERSION then
    throw (.other s!"cellData uses unsupported version {version}.")
  else
    return ⟨LittleEndian.ofBytes (slice bytes 12 16), LittleEndian.ofBytes (slice bytes 16 24),
      hexText (slice bytes 24 56), hexText (slice bytes 56 88)⟩

theorem toLowerCase_hex (bytes : List UInt8) :
    (toLowerCase (String.ofList ('0' :: 'x' :: Hex.encode bytes))).toList =
      '0' :: 'x' :: Hex.encode bytes := by
  have zero : Char.toLower '0' = '0' := by decide
  have x : Char.toLower 'x' = 'x' := by decide
  simp only [toLowerCase, String.toList_ofList, List.map_cons, Hex.encode_toLower, zero, x]

theorem fixedHex_encode (bytes : List UInt8) (count : Nat) (size : bytes.length = count)
    (field : String) :
    fixedHex (String.ofList ('0' :: 'x' :: Hex.encode bytes)) count field = .ok (Hex.encode bytes) := by
  have shape : matchesHex ('0' :: 'x' :: Hex.encode bytes) (some count) = true := by
    simp [matchesHex, Hex.encode_all_lower, size]
  unfold fixedHex
  rw [toLowerCase_hex, if_pos shape]
  rfl

/-- The text of a byte string passes exactly when the byte count is the one asked for. -/
theorem fixedHex_hexText_ok {bytes : List UInt8} {count : Nat} {field : String} {digits : List Char} :
    fixedHex (hexText bytes) count field = .ok digits ↔
      bytes.length = count ∧ Hex.encode bytes = digits := by
  by_cases size : bytes.length = count
  · rw [hexText, fixedHex_encode bytes count size]
    simp [size]
  · have shape : matchesHex ('0' :: 'x' :: Hex.encode bytes) (some count) = false := by
      simp [matchesHex, Hex.encode_all_lower, size]
    unfold fixedHex
    rw [hexText, toLowerCase_hex]
    dsimp only
    rw [shape]
    simp [size]

theorem fixedHex_hashHex (hash : Hash) (field : String) :
    fixedHex (hashHex hash) 32 field = .ok (Hex.encode hash.bytes) :=
  fixedHex_encode hash.bytes 32 hash.length_eq field

theorem bytesFrom_hex (bytes : List UInt8) :
    bytesFrom (String.ofList ('0' :: 'x' :: Hex.encode bytes)) = bytes := by
  have even : (Hex.encode bytes).length % 2 = 0 := by simp
  simp only [bytesFrom, String.toList_ofList, List.drop_succ_cons, List.drop_zero, even, if_true,
    Hex.decode_encode]

/-- The lock reads back the three hashes the server encodes. -/
theorem parsePartyHashes_encode (client worker salt : Hash) :
    parsePartyHashes (client.bytes ++ worker.bytes ++ salt.bytes) = .ok ⟨client, worker, salt⟩ := by
  have c := client.length_eq
  have w := worker.length_eq
  have s := salt.length_eq
  have size : ¬(client.bytes ++ worker.bytes ++ salt.bytes).length ≠ PARTY_HASHES_LEN := by
    simp only [List.length_append, c, w, s]
    decide
  have first : hashSlice (client.bytes ++ worker.bytes ++ salt.bytes) 0 HASH_LEN .invalidArgsLength =
      .ok client := by
    have h := hashSlice_middle [] client (worker.bytes ++ salt.bytes) 0 HASH_LEN .invalidArgsLength
      rfl (by decide)
    simpa only [List.nil_append, List.append_assoc] using h
  have second : hashSlice (client.bytes ++ worker.bytes ++ salt.bytes) HASH_LEN (HASH_LEN * 2)
      .invalidArgsLength = .ok worker :=
    hashSlice_middle client.bytes worker salt.bytes HASH_LEN (HASH_LEN * 2) .invalidArgsLength c (by decide)
  have third : hashSlice (client.bytes ++ worker.bytes ++ salt.bytes) (HASH_LEN * 2) (HASH_LEN * 3)
      .invalidArgsLength = .ok salt := by
    have h := hashSlice_middle (client.bytes ++ worker.bytes) salt [] (HASH_LEN * 2) (HASH_LEN * 3)
      .invalidArgsLength (by simp only [List.length_append, c, w]; decide) (by decide)
    simpa only [List.append_nil] using h
  simp only [parsePartyHashes, if_neg size, first, second, third]
  rfl

theorem encodeEscrowLockArgs_hashHex (client worker salt : Hash) :
    encodeEscrowLockArgs ⟨hashHex client, hashHex worker, hashHex salt⟩ =
      .ok (String.ofList ('0' :: 'x' :: Hex.encode (client.bytes ++ worker.bytes ++ salt.bytes))) := by
  unfold encodeEscrowLockArgs
  rw [fixedHex_hashHex, fixedHex_hashHex, fixedHex_hashHex, Hex.encode_append, Hex.encode_append]
  rfl

theorem unsignedInteger_ok {value : Unsigned} {maximum : Nat} {field : String} {result : Nat}
    (read : unsignedInteger value maximum field = .ok result) : result ≤ maximum := by
  cases value with
  | number value =>
    dsimp only [unsignedInteger] at read
    split_ifs at read with large outside
    cases read
    omega
  | bigint value =>
    dsimp only [unsignedInteger] at read
    split_ifs at read with outside
    cases read
    omega

/-- Accepted cell data is the layout of the index and timeout it was given. -/
theorem encodeEscrowCellData_hashHex {milestoneIndex : Int} {index refundTimeoutSince : Nat}
    (agreementDigest milestoneDigest : Hash) (since : refundTimeoutSince < 2 ^ 56)
    (parsed : unsignedInteger (.number milestoneIndex) UINT32_MAX "milestoneIndex" = .ok index) :
    encodeEscrowCellData
        ⟨milestoneIndex, refundTimeoutSince, hashHex agreementDigest, hashHex milestoneDigest⟩ =
      .ok (String.ofList ('0' :: 'x' :: Hex.encode
        (cellDataLayout VERSION (LittleEndian.toBytes 4 index)
          (LittleEndian.toBytes 8 refundTimeoutSince) agreementDigest milestoneDigest))) := by
  have range : unsignedInteger (.bigint refundTimeoutSince) UINT64_MAX "refundTimeoutSince" =
      .ok refundTimeoutSince := by
    have bound : ¬((refundTimeoutSince : Int) < 0 ∨ (refundTimeoutSince : Int) > UINT64_MAX) := by
      unfold UINT64_MAX
      omega
    rw [unsignedInteger, if_neg bound, Int.toNat_natCast]
  unfold encodeEscrowCellData
  rw [parsed, range, fixedHex_hashHex, fixedHex_hashHex]
  change Except.ok _ = Except.ok _
  rw [Hex.decode_encode, Hex.decode_encode]
  rfl

theorem encodeEscrowCellData_index {data : EscrowCellData} {text : String}
    (encoded : encodeEscrowCellData data = .ok text) :
    ∃ index ≤ UINT32_MAX,
      unsignedInteger (.number data.milestoneIndex) UINT32_MAX "milestoneIndex" = .ok index := by
  unfold encodeEscrowCellData at encoded
  obtain ⟨index, parsed, -⟩ := Guard.bind_ok_iff.mp encoded
  exact ⟨index, unsignedInteger_ok parsed, parsed⟩

end PactAgent.Rail.Codec
