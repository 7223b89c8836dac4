import PactAgent.Rail.Builder
import PactAgent.Rail.Node

/-! The signer of the development rail: it collects fee cells under its own lock, lays out
a settlement with its change and signs it. What the CKB library makes of a transaction
is a parameter. -/

namespace PactAgent.Rail.Signer
open PactAgent.Common PactAgent.Foundation PactAgent.Contract.Lock PactAgent.Contract.Validate
open PactAgent.Rail.Script PactAgent.Rail.Builder PactAgent.Rail.Node

/-- A live cell as the indexer lists it. -/
structure IndexerCell where
  capacity : String
  lock : Script
  type : Option Script
  outputData : String
  outPoint : Node.CellInput

structure Page where
  objects : List IndexerCell
  lastCursor : String

structure TxInput where
  txHash : String
  index : Int
  since : Nat

structure TxOutput where
  capacity : Int
  lock : Script

structure Transaction where
  inputs : List TxInput
  outputs : List TxOutput
  outputsData : List String
  cellDeps : List CellDep

/-- The library's signer: its lock, and what it does to a transaction. -/
structure CkbLibrary where
  lockScript : Script
  prepareTransaction : Transaction → Except Failure Transaction
  estimateFee : Transaction → Nat → Nat
  signOnlyTransaction : Transaction → Except Failure Transaction
  hash : Transaction → Except Failure String

/-- Preparing and signing fill in dependencies and witnesses, and only a transaction whose
capacities are 64-bit numbers has a hash. -/
structure KeepsCells (library : CkbLibrary) : Prop where
  prepared : ∀ before after, library.prepareTransaction before = .ok after →
    after.inputs = before.inputs ∧ after.outputs = before.outputs
  signed : ∀ before after, library.signOnlyTransaction before = .ok after →
    after.inputs = before.inputs ∧ after.outputs = before.outputs
  hashed : ∀ transaction hash, library.hash transaction = .ok hash →
    ∀ output ∈ transaction.outputs, output.capacity < 2 ^ 64

section Collecting

structure Selected where
  cells : List IndexerCell
  capacity : Int

/-- One page of cells; the flag tells that they suffice. -/
def addCells (required : Int) : List IndexerCell → Selected → Except Failure (Selected × Bool)
  | [], selected => .ok (selected, false)
  | cell :: cells, selected =>
      if cell.type.isSome ∨ cell.outputData ≠ "0x" then addCells required cells selected
      else do
        let capacity ← bigInt cell.capacity
        let selected : Selected := ⟨selected.cells ++ [cell], selected.capacity + capacity⟩
        if selected.capacity ≥ required then return (selected, true)
        else addCells required cells selected

/-- The pages in the order of the requests; without a further answer the signer still waits. -/
def collectPages (required : Int) : List (Except Failure Page) → Selected → Option String →
    Except Failure (Option Selected)
  | [], _, _ => .ok none
  | answer :: answers, selected, cursor => do
      let page ← answer
      let (selected, enough) ← addCells required page.objects selected
      if enough then return some selected
      else if page.lastCursor = "" ∨ some page.lastCursor = cursor ∨ page.objects.isEmpty ∨
          ¬selected.cells.length < 1000 then
        throw (.app (invalidRequest "CKB signer has insufficient live capacity." "ckb_insufficient_capacity"))
      else collectPages required answers selected (some page.lastCursor)

def collectCapacity (required : Int) (answers : List (Except Failure Page)) : Except Failure (Option Selected) :=
  collectPages required answers ⟨[], 0⟩ none

end Collecting

variable (library : CkbLibrary) (feeRate : Nat)

/-- Prepares a transaction whose output at `changeIndex` takes what the fee leaves over. -/
def prepareAndSign (draft : Transaction) (changeIndex : Nat) (fixedOutputCapacity inputCapacity : Int) :
    Except Failure (Transaction × String) := do
  let prepared ← library.prepareTransaction draft
  let changeCapacity := inputCapacity - fixedOutputCapacity - library.estimateFee prepared feeRate
  match prepared.outputs[changeIndex]? with
  | none => throw insufficient
  | some changeOutput =>
      if changeCapacity < lockCapacity changeOutput.lock 0 then throw insufficient
      else do
        let changed := prepared.outputs.set changeIndex { changeOutput with capacity := changeCapacity }
        let signed ← library.signOnlyTransaction { prepared with outputs := changed }
        return (signed, ← library.hash signed)
where
  insufficient : Failure := .app (invalidRequest "CKB signer change capacity is insufficient after fees."
    "ckb_insufficient_capacity")

def feeInput (cell : IndexerCell) : Except Failure TxInput := do
  return ⟨cell.outPoint.txHash, ← bigInt cell.outPoint.index, 0⟩

/-- The settlement before its preparation, with all of the fee cells as change. -/
def settlementDraft (intent : SettlementIntent) (contractCellDep : CellDep) (feeInputs : List TxInput)
    (feeCapacity : Int) (destination : Script) : Transaction where
  inputs := ⟨intent.escrowOutPoint.txHash, intent.escrowOutPoint.index, intent.since⟩ :: feeInputs
  outputs := [⟨intent.amount, destination⟩, ⟨feeCapacity, library.lockScript⟩]
  outputsData := ["0x", "0x"]
  cellDeps := [contractCellDep]

def minimumChange : Nat := 61 * 100000000

def feeBudget : Nat := feeRate * 10

/-- `Script.from`, which throws on a code hash that is not 32 bytes long. -/
def requiredFrom (script : NormalizedCkbScript) : Except Failure Script :=
  match scriptFrom script with
  | some script => .ok script
  | none => .error (.other "Unexpected bytes length")

def signSettlement (intent : SettlementIntent) (contractCellDep : CellDep) (answers : List (Except Failure Page)) :
    Except Failure (Option (Transaction × String)) := do
  if library.lockScript ≠ (← requiredFrom intent.authorizerLock) then
    throw (.app (invalidRequest "Configured CKB signer is not the required settlement participant."
      "ckb_signer_mismatch"))
  else do
    match ← collectCapacity (minimumChange + feeBudget feeRate : Nat) answers with
    | none => return none
    | some feeCells =>
        let feeInputs ← feeCells.cells.mapM feeInput
        let destination ← requiredFrom intent.destinationLock
        let signed ← prepareAndSign library feeRate
          (settlementDraft library intent contractCellDep feeInputs feeCells.capacity destination) 1 intent.amount
          (intent.amount + feeCells.capacity)
        return some signed

section Collected
variable {library feeRate} {required : Int} {cells : List IndexerCell} {before after : Selected} {enough : Bool}

/-- The cells taken are listed ones, and there is one at the end of a search that suffices. -/
theorem addCells_ok (added : addCells required cells before = .ok (after, enough)) :
    (∀ cell ∈ after.cells, cell ∈ before.cells ∨ cell ∈ cells) ∧ (enough = true → after.cells ≠ []) := by
  induction cells generalizing before with
  | nil =>
    cases added
    exact ⟨fun cell member => .inl member, fun impossible => by cases impossible⟩
  | cons cell cells ih =>
    unfold addCells at added
    by_cases skipped : cell.type.isSome ∨ cell.outputData ≠ "0x"
    · rw [if_pos skipped] at added
      obtain ⟨taken, present⟩ := ih added
      refine ⟨?_, present⟩
      intro other member
      exact (taken other member).imp_right (List.mem_cons_of_mem cell)
    · rw [if_neg skipped] at added
      obtain ⟨capacity, _, added⟩ := Guard.bind_ok_iff.mp added
      dsimp only at added
      split at added
      next =>
        cases added
        refine ⟨?_, fun _ => by simp⟩
        intro other member
        rcases List.mem_append.mp member with old | new
        · exact .inl old
        · exact .inr (List.mem_singleton.mp new ▸ List.mem_cons_self)
      next =>
        obtain ⟨taken, present⟩ := ih added
        refine ⟨?_, present⟩
        intro other member
        rcases taken other member with old | new
        · rcases List.mem_append.mp old with old | this
          · exact .inl old
          · exact .inr (List.mem_singleton.mp this ▸ List.mem_cons_self)
        · exact .inr (List.mem_cons_of_mem cell new)

theorem collectPages_ok {answers : List (Except Failure Page)} {cursor : Option String}
    (collected : collectPages required answers before cursor = .ok (some after)) :
    (∀ cell ∈ after.cells, cell ∈ before.cells ∨ ∃ page, .ok page ∈ answers ∧ cell ∈ page.objects) ∧
      after.cells ≠ [] := by
  induction answers generalizing before cursor with
  | nil => cases collected
  | cons answer answers ih =>
    obtain ⟨page, answered, collected⟩ := Guard.bind_ok_iff.mp collected
    obtain ⟨⟨selected, enough⟩, added, collected⟩ := Guard.bind_ok_iff.mp collected
    obtain ⟨taken, present⟩ := addCells_ok added
    have listed : ∀ cell ∈ selected.cells, cell ∈ before.cells ∨
        ∃ page, .ok page ∈ answer :: answers ∧ cell ∈ page.objects := by
      intro cell member
      exact (taken cell member).imp_right fun member => ⟨page, answered ▸ List.mem_cons_self, member⟩
    dsimp only at collected
    split at collected
    next covered =>
      cases collected
      exact ⟨listed, present covered⟩
    next =>
      obtain ⟨_, collected⟩ := Guard.reject_ok_iff.mp collected
      obtain ⟨later, present⟩ := ih collected
      refine ⟨?_, present⟩
      intro cell member
      rcases later cell member with old | ⟨page, answered, member⟩
      · exact listed cell old
      · exact .inr ⟨page, List.mem_cons_of_mem answer answered, member⟩

/-- What the signer collects is listed by the indexer, and at least one cell. -/
theorem collectCapacity_ok {answers : List (Except Failure Page)}
    (collected : collectCapacity required answers = .ok (some after)) :
    (∀ cell ∈ after.cells, ∃ page, .ok page ∈ answers ∧ cell ∈ page.objects) ∧ after.cells ≠ [] := by
  obtain ⟨listed, present⟩ := collectPages_ok collected
  refine ⟨?_, present⟩
  intro cell member
  rcases listed cell member with impossible | found
  · cases impossible
  · exact found

end Collected

section Signed
variable {library feeRate} {intent : SettlementIntent} {contractCellDep : CellDep}

theorem requiredFrom_ok {script : NormalizedCkbScript} {full : Script} :
    requiredFrom script = .ok full ↔ scriptFrom script = some full := by
  unfold requiredFrom
  cases scriptFrom script <;> simp

/-- The change takes what the fee leaves, in 64 bits, and nothing else is altered. -/
theorem prepareAndSign_ok (keeps : KeepsCells library) {draft transaction : Transaction} {hash : String}
    {changeIndex : Nat} {fixedOutputCapacity inputCapacity : Int}
    (signed : prepareAndSign library feeRate draft changeIndex fixedOutputCapacity inputCapacity =
      .ok (transaction, hash)) :
    ∃ prepared changeOutput, library.prepareTransaction draft = .ok prepared ∧
      draft.outputs[changeIndex]? = some changeOutput ∧
      0 ≤ inputCapacity - fixedOutputCapacity - library.estimateFee prepared feeRate ∧
      transaction.inputs = draft.inputs ∧
      transaction.outputs = draft.outputs.set changeIndex { changeOutput with
        capacity := inputCapacity - fixedOutputCapacity - library.estimateFee prepared feeRate } ∧
      ∀ output ∈ transaction.outputs, output.capacity < 2 ^ 64 := by
  obtain ⟨prepared, prepares, signed⟩ := Guard.bind_ok_iff.mp signed
  obtain ⟨sameInputs, sameOutputs⟩ := keeps.prepared draft prepared prepares
  dsimp only at signed
  split at signed
  next => cases signed
  next changeOutput found =>
    obtain ⟨enough, signed⟩ := Guard.reject_ok_iff.mp signed
    obtain ⟨final, signs, signed⟩ := Guard.bind_ok_iff.mp signed
    obtain ⟨hash, hashes, signed⟩ := Guard.bind_ok_iff.mp signed
    cases signed
    obtain ⟨keptInputs, keptOutputs⟩ := keeps.signed _ _ signs
    have nonnegative : (0 : Int) ≤ lockCapacity changeOutput.lock 0 := Int.natCast_nonneg _
    refine ⟨prepared, changeOutput, prepares, sameOutputs ▸ found, ?_, keptInputs.trans sameInputs,
      keptOutputs.trans (by rw [sameOutputs]), keeps.hashed _ _ hashes⟩
    omega

/-- The parts of a settlement that the signer has signed. -/
theorem signSettlement_ok (keeps : KeepsCells library) {answers : List (Except Failure Page)}
    {transaction : Transaction} {hash : String}
    (signed : signSettlement library feeRate intent contractCellDep answers = .ok (some (transaction, hash))) :
    ∃ feeCells feeInputs destination prepared,
      collectCapacity (minimumChange + feeBudget feeRate : Nat) answers = .ok (some feeCells) ∧
      feeCells.cells.mapM feeInput = .ok feeInputs ∧
      scriptFrom intent.destinationLock = some destination ∧
      scriptFrom intent.authorizerLock = some library.lockScript ∧
      library.prepareTransaction (settlementDraft library intent contractCellDep feeInputs feeCells.capacity
        destination) = .ok prepared ∧
      0 ≤ feeCells.capacity - library.estimateFee prepared feeRate ∧
      transaction.inputs =
        ⟨intent.escrowOutPoint.txHash, intent.escrowOutPoint.index, intent.since⟩ :: feeInputs ∧
      transaction.outputs = [⟨intent.amount, destination⟩,
        ⟨feeCells.capacity - library.estimateFee prepared feeRate, library.lockScript⟩] ∧
      ∀ output ∈ transaction.outputs, output.capacity < 2 ^ 64 := by
  obtain ⟨authorizer, authorizes, signed⟩ := Guard.bind_ok_iff.mp signed
  obtain ⟨same, signed⟩ := Guard.reject_ok_iff.mp signed
  obtain ⟨found, collected, signed⟩ := Guard.bind_ok_iff.mp signed
  cases found with
  | none => cases signed
  | some feeCells =>
    obtain ⟨feeInputs, inputs, signed⟩ := Guard.bind_ok_iff.mp signed
    obtain ⟨destination, destined, signed⟩ := Guard.bind_ok_iff.mp signed
    obtain ⟨⟨final, hash⟩, signed, returned⟩ := Guard.bind_ok_iff.mp signed
    cases returned
    obtain ⟨prepared, changeOutput, prepares, change, nonnegative, sameInputs, sameOutputs, fits⟩ :=
      prepareAndSign_ok keeps signed
    cases change
    have left : (intent.amount : Int) + feeCells.capacity - intent.amount = feeCells.capacity := by omega
    rw [left] at nonnegative sameOutputs
    refine ⟨feeCells, feeInputs, destination, prepared, collected, inputs, requiredFrom_ok.mp destined, ?_, prepares,
      nonnegative, sameInputs, sameOutputs, fits⟩
    rw [not_not.mp same]
    exact requiredFrom_ok.mp authorizes

end Signed

end PactAgent.Rail.Signer
