import PactAgent.Contract.Spend

/-! The lock script inside a transaction. Every distinct lock script of the
inputs is verified once, as a group; a group reads its own inputs through
`groupInput`, but the lock hashes of all inputs and all outputs. -/

namespace PactAgent.Contract.Validate
open PactAgent.Contract.Lock PactAgent.Contract.Spend

inductive HashType where
  | data
  | type
  | data1
  | data2
  deriving DecidableEq, Repr

structure Script where
  codeHash : Hash
  hashType : HashType
  args : List UInt8
  deriving DecidableEq

structure Cell where
  capacity : UInt64
  lock : Script
  data : List UInt8
  deriving DecidableEq

/-- An input with the cell its previous output resolves to. -/
structure CellInput where
  cell : Cell
  since : UInt64
  deriving DecidableEq

structure Transaction where
  inputs : List CellInput
  outputs : List Cell
  deriving DecidableEq

inductive SysError where
  | indexOutOfBound
  | itemMissing
  | lengthNotEnough
  | encoding
  | unknown
  deriving DecidableEq, Repr

inductive Source where
  | input
  | output
  | groupInput
  deriving DecidableEq, Repr

/-- The inputs that one run of the lock script is responsible for. -/
def Transaction.group (tx : Transaction) (script : Script) : List CellInput :=
  tx.inputs.filter fun input => input.cell.lock = script

/-- The code a lock script refers to; `args` alone distinguishes escrows. -/
structure Code where
  codeHash : Hash
  hashType : HashType

def Code.owns (code : Code) (script : Script) : Prop :=
  script.codeHash = code.codeHash ∧ script.hashType = code.hashType

instance (code : Code) (script : Script) : Decidable (code.owns script) :=
  inferInstanceAs (Decidable (_ ∧ _))

section Syscalls
variable (lockHash : Script → Hash) (tx : Transaction) (script : Script)

def sourceCells : Source → List Cell
  | .input => tx.inputs.map (·.cell)
  | .output => tx.outputs
  | .groupInput => (tx.group script).map (·.cell)

def loadCell (index : Nat) (source : Source) : Except SysError Cell :=
  match (sourceCells tx script source)[index]? with
  | some cell => .ok cell
  | none => .error .indexOutOfBound

def loadCellCapacity (index : Nat) (source : Source) : Except SysError UInt64 :=
  (loadCell tx script index source).map (·.capacity)

def loadCellData (index : Nat) (source : Source) : Except SysError (List UInt8) :=
  (loadCell tx script index source).map (·.data)

def loadCellLockHash (index : Nat) (source : Source) : Except SysError Hash :=
  (loadCell tx script index source).map fun cell => lockHash cell.lock

def loadGroupInputSince (index : Nat) : Except SysError UInt64 :=
  match (tx.group script)[index]? with
  | some input => .ok input.since
  | none => .error .indexOutOfBound

def mapSysError (_ : SysError) : Error := .missingExpectedOutput

/-- The counting loops of the script: load index after index until the first one
out of bounds. `fuel` bounds the number of iterations. -/
def collect {α : Type} (load : Nat → Except SysError α) : (fuel index : Nat) → Except Error (List α)
  | 0, _ => .ok []
  | fuel + 1, index =>
      match load index with
      | .ok value => (collect load fuel (index + 1)).map (value :: ·)
      | .error .indexOutOfBound => .ok []
      | .error error => .error (mapSysError error)

def loadOutput (index : Nat) : Except SysError OutputCell :=
  match loadCellLockHash lockHash tx script index .output, loadCellCapacity tx script index .output with
  | .ok lockHash, .ok capacity => .ok ⟨lockHash, capacity⟩
  | .error .indexOutOfBound, _ => .error .indexOutOfBound
  | _, .error .indexOutOfBound => .error .indexOutOfBound
  | .error error, _ => .error error
  | _, .error error => .error error

def collectOutputs : Except Error (List OutputCell) :=
  collect (loadOutput lockHash tx script) (tx.outputs.length + 1) 0

def collectLockHashes (source : Source) : Except Error (List Hash) :=
  collect (fun index => loadCellLockHash lockHash tx script index source)
    ((sourceCells tx script source).length + 1) 0

def validate : Except Error Unit := do
  let parties ← parsePartyHashes script.args
  let data ← (loadCellData tx script 0 .groupInput).mapError mapSysError
  let terms ← parseTerms data
  match loadCellCapacity tx script 1 .groupInput with
  | .ok _ => throw .multipleEscrowInputs
  | .error .indexOutOfBound =>
    let inputCapacity ← (loadCellCapacity tx script 0 .groupInput).mapError mapSysError
    let inputSince ← (loadGroupInputSince tx script 0).mapError mapSysError
    let signerLockHashes ← collectLockHashes lockHash tx script .input
    let outputs ← collectOutputs lockHash tx script
    let _ ← evaluateSpend parties terms ⟨inputCapacity, inputSince, signerLockHashes, outputs⟩
    return ()
  | .error error => throw (mapSysError error)

def programEntry : Int :=
  match validate lockHash tx script with
  | .ok () => 0
  | .error error => error.code

end Syscalls

end PactAgent.Contract.Validate
