import PactAgent.Common.Errors
import PactAgent.Contract.Validate
import PactAgent.Foundation.Hex
import PactAgent.Foundation.Json

/-! CKB scripts as the server receives, normalizes and compares them, and the
bytes that the CKB library makes of them. -/

namespace PactAgent.Rail.Script
open PactAgent.Common PactAgent.Foundation
open PactAgent.Contract.Lock PactAgent.Contract.Validate

/-- `toLowerCase`. Outside ASCII no character has a hexadecimal digit or a letter
of a hash type as its lower case, so folding ASCII decides the same tests. -/
def toLowerCase (text : String) : String := String.ofList (text.toList.map Char.toLower)

structure NormalizedCkbScript where
  codeHash : String
  hashType : HashType
  args : String
  deriving DecidableEq

def hashTypeOf : String → Option HashType
  | "data" => some .data
  | "type" => some .type
  | "data1" => some .data1
  | "data2" => some .data2
  | _ => none

/-- The pattern `^0x[0-9a-f]*$`, with a fixed number of bytes where one is given. -/
def matchesHex (text : List Char) (bytes : Option Nat) : Bool :=
  match text with
  | '0' :: 'x' :: digits =>
      digits.all Hex.isLowerDigit && bytes.all fun count => digits.length == count * 2
  | _ => false

def normalizeHex (value : Option Json) (bytes : Option Nat) : Option String :=
  match value with
  | some (.string text) =>
      let normalized := toLowerCase text
      if matchesHex normalized.toList bytes then some normalized else none
  | _ => none

def normalizeScript (script : Option Json) : Option NormalizedCkbScript :=
  match script with
  | some (.object fields) => do
      let candidate := Json.object fields
      let codeHash ← normalizeHex
        (Json.orElse (candidate.field "codeHash") (candidate.field "code_hash")) (some 32)
      let args ← normalizeHex (candidate.field "args") none
      let hashType ← match Json.orElse (candidate.field "hashType") (candidate.field "hash_type") with
        | some (.string raw) => hashTypeOf (toLowerCase raw)
        | _ => none
      return ⟨codeHash, hashType, args⟩
  | _ => none

def scriptsEqual (left right : Option Json) : Bool :=
  match normalizeScript left, normalizeScript right with
  | some left, some right =>
      left.codeHash == right.codeHash && left.hashType == right.hashType && left.args == right.args
  | _, _ => false

def requiredScript (value : Option Json) (field : String) : Except Failure NormalizedCkbScript :=
  match normalizeScript value with
  | some script => .ok script
  | none => .error (.app
      (invalidRequest s!"{field} must be a valid CKB lock script." "invalid_ckb_script"))

/-- The CKB library's reading of `0x` text; an odd number of digits is padded on the left. -/
def bytesFrom (text : String) : List UInt8 :=
  let digits := text.toList.drop 2
  if digits.length % 2 = 0 then Hex.decode digits else Hex.decode ('0' :: digits)

/-- `Script.from`: the script whose molecule encoding the library hashes. -/
def scriptFrom (script : NormalizedCkbScript) : Option Script :=
  (Hash.tryFrom (bytesFrom script.codeHash)).map fun codeHash =>
    ⟨codeHash, script.hashType, bytesFrom script.args⟩

/-- The hashes that `@ckb-ccc/core` computes: of a script and of a byte string. -/
structure CkbHashing where
  scriptHash : Script → Hash
  hashCkb : List UInt8 → Hash

def hashHex (hash : Hash) : String := String.ofList ('0' :: 'x' :: Hex.encode hash.bytes)

/-- Shannons a cell with this lock must hold for its own storage: eight bytes of
capacity, the script and the data, one CKB a byte. -/
def lockCapacity (lock : Script) (dataBytes : Nat) : Nat :=
  (8 + (32 + 1 + lock.args.length) + dataBytes) * 100000000

end PactAgent.Rail.Script
