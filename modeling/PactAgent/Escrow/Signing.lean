import PactAgent.Escrow.Adapter
import PactAgent.Rail.Signer
import PactAgent.Rail.Spendable

/-! The settlement of a persisted commitment as its lock sees it: the destination is paid
the escrow amount, the authorizer signs with its fee cells and takes the change. -/

namespace PactAgent.Escrow
open PactAgent.Common PactAgent.Common.Amounts PactAgent.Foundation PactAgent.Store
open PactAgent.Contract PactAgent.Contract.Lock PactAgent.Contract.Validate
open PactAgent.Rail.Script PactAgent.Rail.Builder PactAgent.Rail.Signer PactAgent.Rail.Spendable

section Scripts

theorem toLowerCase_idem (text : String) : toLowerCase (toLowerCase text) = toLowerCase text := by
  unfold toLowerCase
  rw [String.toList_ofList, List.map_map]
  congr 1
  apply List.map_congr_left
  intro character _
  exact Char.toLower_toLower_eq_toLower character

theorem normalizeHex_again {value : Option Json} {bytes : Option Nat} {text : String}
    (normalized : normalizeHex value bytes = some text) : normalizeHex (some (.string text)) bytes = some text := by
  unfold normalizeHex at normalized ⊢
  split at normalized
  next raw =>
    dsimp only at normalized ⊢
    split at normalized
    next valid =>
      cases normalized
      rw [toLowerCase_idem, if_pos valid]
    next => cases normalized
  next => cases normalized

theorem hashTypeOf_names : hashTypeOf (toLowerCase "data") = some .data ∧ hashTypeOf (toLowerCase "type") = some .type ∧
    hashTypeOf (toLowerCase "data1") = some .data1 ∧ hashTypeOf (toLowerCase "data2") = some .data2 := by
  decide

/-- A normalized script is read back from the database as it is. -/
theorem normalizeScript_scriptJson {value : Option Json} {script : NormalizedCkbScript}
    (normalized : normalizeScript value = some script) : normalizeScript (some (scriptJson script)) = some script := by
  unfold normalizeScript at normalized
  split at normalized
  next fields =>
    obtain ⟨codeHash, code, normalized⟩ := Option.bind_eq_some_iff.mp normalized
    obtain ⟨args, arguments, normalized⟩ := Option.bind_eq_some_iff.mp normalized
    dsimp only at normalized
    split at normalized
    next raw _ =>
      obtain ⟨hashType, type, normalized⟩ := Option.bind_eq_some_iff.mp normalized
      cases normalized
      have codeAgain := normalizeHex_again code
      have argsAgain := normalizeHex_again arguments
      cases hashType <;> simp [normalizeScript, scriptJson, Json.field, Json.orElse, codeAgain, argsAgain, hashTypeOf_names]
    next => cases normalized
  next => cases normalized

/-- The scripts of a commitment are the normalized ones of its parties. -/
theorem createCommitment_scripts {hashing : CkbHashing} {railConfig : CkbRailConfig} {input : CommitmentInput}
    {commitment : CkbEscrowCommitment} (accepted : createCommitment hashing railConfig input = .ok commitment) :
    normalizeScript input.clientLockScript = some commitment.clientLockScript ∧
      normalizeScript input.workerLockScript = some commitment.workerLockScript := by
  unfold createCommitment at accepted
  obtain ⟨_, _, accepted⟩ := Guard.bind_ok_iff.mp accepted
  obtain ⟨clientScript, client, accepted⟩ := Guard.bind_ok_iff.mp accepted
  obtain ⟨workerScript, worker, accepted⟩ := Guard.bind_ok_iff.mp accepted
  obtain ⟨_, _, accepted⟩ := Guard.bind_ok_iff.mp accepted
  obtain ⟨_, _, accepted⟩ := Guard.bind_ok_iff.mp accepted
  obtain ⟨_, _, accepted⟩ := Guard.bind_ok_iff.mp accepted
  obtain ⟨_, _, accepted⟩ := Guard.bind_ok_iff.mp accepted
  obtain ⟨_, _, accepted⟩ := Guard.bind_ok_iff.mp accepted
  obtain ⟨_, accepted⟩ := Guard.reject_ok_iff.mp accepted
  cases Guard.pure_ok_iff.mp accepted
  exact ⟨requiredScript_ok.mp client, requiredScript_ok.mp worker⟩

end Scripts

/-- The escrow row keeps the amount and the party scripts of its commitment. -/
structure Persisted (input : CommitmentInput) (commitment : CkbEscrowCommitment) (escrow : Escrow) : Prop where
  amount : escrow.amount = input.amount
  client : escrow.clientLockScriptJson = some (scriptJson commitment.clientLockScript)
  worker : escrow.workerLockScriptJson = some (scriptJson commitment.workerLockScript)

/-- What the lock of the escrow cell loads of a settlement. -/
def spendState (hashing : CkbHashing) (escrowLock : Hash) (amount : Nat) (feeCells : List IndexerCell)
    (transaction : Rail.Signer.Transaction) : TxState where
  inputCapacity := UInt64.ofNat amount
  inputSince := UInt64.ofNat ((transaction.inputs.head?.map (·.since)).getD 0)
  signerLockHashes := escrowLock :: feeCells.map fun cell => hashing.scriptHash cell.lock
  outputs := transaction.outputs.map fun output =>
    ⟨hashing.scriptHash output.lock, UInt64.ofNat output.capacity.toNat⟩

def settlementPath : SettlementOperation → ResolutionPath
  | .release => .clientPayout
  | .refund => .workerRefund

/-- Of the two parties, the one that is paid and the one that signs. -/
def destinationOf {α : Type} (operation : SettlementOperation) (client worker : α) : α :=
  match operation with
  | .release => worker
  | .refund => client

def authorizerOf {α : Type} (operation : SettlementOperation) (client worker : α) : α :=
  destinationOf operation worker client

section Settled
variable {settings : Settings} {input : CommitmentInput} {commitment : CkbEscrowCommitment} {escrow : Escrow}
variable {operation : SettlementOperation} {intent : SettlementIntent}

theorem scriptHash_destinationOf (hashing : CkbHashing) (operation : SettlementOperation) (client worker : Script) :
    hashing.scriptHash (destinationOf operation client worker) =
      destinationOf operation (hashing.scriptHash client) (hashing.scriptHash worker) := by
  cases operation <;> rfl

/-- The parties of a settlement, as the signer reads them back. -/
theorem prepareSettlement_ok (prepared : prepareSettlement settings operation escrow = .ok intent) :
    ∃ clientLockScript workerLockScript, escrow.clientLockScriptJson = some clientLockScript ∧
      escrow.workerLockScriptJson = some workerLockScript ∧
      parsePositiveIntegerAmount escrow.amount "amount" = .ok intent.amount ∧
      normalizeScript (some (destinationOf operation clientLockScript workerLockScript)) =
        some intent.destinationLock ∧
      normalizeScript (some (authorizerOf operation clientLockScript workerLockScript)) =
        some intent.authorizerLock := by
  obtain ⟨_, _, prepared⟩ := Guard.bind_ok_iff.mp prepared
  obtain ⟨context, complete, prepared⟩ := Guard.bind_ok_iff.mp prepared
  obtain ⟨_, prepared⟩ := Guard.reject_ok_iff.mp prepared
  obtain ⟨amount, parsed, prepared⟩ := Guard.bind_ok_iff.mp prepared
  obtain ⟨destination, destined, prepared⟩ := Guard.bind_ok_iff.mp prepared
  obtain ⟨authorizer, authorized, prepared⟩ := Guard.bind_ok_iff.mp prepared
  have built : amount = intent.amount ∧ destination = intent.destinationLock ∧ authorizer = intent.authorizerLock := by
    cases operation <;> obtain ⟨since, _, prepared⟩ := Guard.bind_ok_iff.mp prepared <;> cases prepared <;>
      exact ⟨rfl, rfl, rfl⟩
  obtain ⟨rfl, rfl, rfl⟩ := built
  unfold requiredContext at complete
  split at complete
  next lockTxHash index lockScript clientLockScript workerLockScript cellData timeout _ _ _ client worker _ _ =>
    cases complete
    refine ⟨clientLockScript, workerLockScript, client, worker, parsed, ?_, ?_⟩
    · cases operation <;> exact requiredScript_ok.mp destined
    · cases operation <;> exact requiredScript_ok.mp authorized
  next => cases complete

/-- The destination is paid the amount once; the authorizer is paid it by its change only. -/
theorem evaluateSpend_change {parties : PartyHashes} {terms : EscrowTerms} {amount change since : UInt64}
    {signers : List Hash} (operation : SettlementOperation) (different : parties.client ≠ parties.worker)
    (signed : authorizerOf operation parties.client parties.worker ∈ signers) :
    evaluateSpend parties terms ⟨amount, since, signers, [
        ⟨destinationOf operation parties.client parties.worker, amount⟩,
        ⟨authorizerOf operation parties.client parties.worker, change⟩]⟩ =
      .ok (settlementPath operation) ↔ change ≠ amount := by
  rw [Spend.evaluateSpend_eq_resolve]
  cases operation with
  | release =>
    have authorized : hasSigner signers parties.client = true := by
      rw [Spend.hasSigner_eq]
      exact decide_eq_true signed
    by_cases same : change = amount <;>
      simp [matchingOutputs, Spend.resolve, settlementPath, destinationOf, authorizerOf, different, different.symm,
        authorized, same]
  | refund =>
    have authorized : hasSigner signers parties.worker = true := by
      rw [Spend.hasSigner_eq]
      exact decide_eq_true signed
    by_cases same : change = amount <;>
      simp [matchingOutputs, Spend.resolve, settlementPath, destinationOf, authorizerOf, different, different.symm,
        authorized, same]

/-- A settlement that the signer builds is accepted along its path where the change does not
repeat the escrow amount. -/
theorem settlement_accepted_iff {library : CkbLibrary} {feeRate : Nat} {answers : List (Except Failure Page)}
    {transaction : Rail.Signer.Transaction} {hash : String}
    (accepted : createCommitment settings.hashing settings.railConfig input = .ok commitment)
    (persisted : Persisted input commitment escrow)
    (intended : prepareSettlement settings operation escrow = .ok intent) (keeps : KeepsCells library)
    (exactSearch : ∀ page, .ok page ∈ answers → ∀ cell ∈ page.objects, cell.lock = library.lockScript)
    (signed : signSettlement library feeRate intent (contractCellDep settings.railConfig) answers =
      .ok (some (transaction, hash))) (escrowLock : Hash) :
    ∃ parties terms feeCells feeInputs destination prepared,
      parsePartyHashes (bytesFrom commitment.lockScript.args) = .ok parties ∧
      parseTerms (bytesFrom commitment.cellData) = .ok terms ∧
      collectCapacity (minimumChange + feeBudget feeRate : Nat) answers = .ok (some feeCells) ∧
      library.prepareTransaction (settlementDraft library intent (contractCellDep settings.railConfig) feeInputs
        feeCells.capacity destination) = .ok prepared ∧
      (parties.client ≠ parties.worker →
        (evaluateSpend parties terms
            (spendState settings.hashing escrowLock intent.amount feeCells.cells transaction) =
          .ok (settlementPath operation) ↔
            feeCells.capacity ≠ intent.amount + library.estimateFee prepared feeRate)) := by
  obtain ⟨client, worker, _, _, clientFound, workerFound, _, _, parties, terms⟩ := createCommitment_parsed accepted
  obtain ⟨clientNormal, workerNormal⟩ := createCommitment_scripts accepted
  rw [partyScript, clientNormal, Option.bind_some] at clientFound
  rw [partyScript, workerNormal, Option.bind_some] at workerFound
  obtain ⟨clientLockScript, workerLockScript, clientJson, workerJson, parsed, destined, authorized⟩ :=
    prepareSettlement_ok intended
  cases persisted.client.symm.trans clientJson
  cases persisted.worker.symm.trans workerJson
  obtain ⟨feeCells, feeInputs, destination, prepared, collected, _, destinationFull, authorizerFull, prepares,
    nonnegative, _, outputs, fits⟩ := signSettlement_ok keeps signed
  refine ⟨_, _, feeCells, feeInputs, destination, prepared, parties, terms, collected, prepares, ?_⟩
  intro different
  have destinationIs : destination = destinationOf operation client worker := by
    have stored : normalizeScript (some (destinationOf operation (scriptJson commitment.clientLockScript)
        (scriptJson commitment.workerLockScript))) =
          some (destinationOf operation commitment.clientLockScript commitment.workerLockScript) := by
      cases operation
      · exact normalizeScript_scriptJson workerNormal
      · exact normalizeScript_scriptJson clientNormal
    rw [Option.some.inj (destined.symm.trans stored)] at destinationFull
    cases operation
    · exact Option.some.inj (destinationFull.symm.trans workerFound)
    · exact Option.some.inj (destinationFull.symm.trans clientFound)
  have authorizerIs : library.lockScript = authorizerOf operation client worker := by
    have stored : normalizeScript (some (authorizerOf operation (scriptJson commitment.clientLockScript)
        (scriptJson commitment.workerLockScript))) =
          some (authorizerOf operation commitment.clientLockScript commitment.workerLockScript) := by
      cases operation
      · exact normalizeScript_scriptJson clientNormal
      · exact normalizeScript_scriptJson workerNormal
    rw [Option.some.inj (authorized.symm.trans stored)] at authorizerFull
    cases operation
    · exact Option.some.inj (authorizerFull.symm.trans clientFound)
    · exact Option.some.inj (authorizerFull.symm.trans workerFound)
  obtain ⟨cells, present⟩ := collectCapacity_ok collected
  have signs : settings.hashing.scriptHash library.lockScript ∈
      escrowLock :: feeCells.cells.map fun cell => settings.hashing.scriptHash cell.lock := by
    obtain ⟨cell, member⟩ := List.exists_mem_of_ne_nil _ present
    obtain ⟨page, answered, listed⟩ := cells cell member
    refine List.mem_cons_of_mem _ (List.mem_map.mpr ⟨cell, member, ?_⟩)
    rw [exactSearch page answered cell listed]
  have change : UInt64.ofNat (feeCells.capacity - library.estimateFee prepared feeRate).toNat ≠
      UInt64.ofNat intent.amount ↔ feeCells.capacity ≠ intent.amount + library.estimateFee prepared feeRate := by
    have bound := parsePositiveIntegerAmount_ok parsed
    have small := fits ⟨feeCells.capacity - library.estimateFee prepared feeRate, library.lockScript⟩
      (by rw [outputs]; simp)
    dsimp only at small
    unfold MAX_SHANNONS at bound
    rw [ne_eq, ne_eq, not_iff_not, ← UInt64.toNat_inj, UInt64.toNat_ofNat', UInt64.toNat_ofNat',
      Nat.mod_eq_of_lt (by omega), Nat.mod_eq_of_lt (by omega)]
    omega
  unfold spendState
  rw [outputs, destinationIs, authorizerIs, ← change]
  rw [authorizerIs, authorizerOf, scriptHash_destinationOf] at signs
  simp only [List.map_cons, List.map_nil, authorizerOf, scriptHash_destinationOf, Int.toNat_natCast]
  exact evaluateSpend_change operation different signs

end Settled

section Samples

def sampleSettings : Settings where
  idempotency := ⟨1000, 1000, 1000⟩
  byteLength _ := 0
  railConfig := sampleConfig
  hashing := sampleHashing
  sha256Hex _ := ""
  uuid _ := ""

/-- The row of a funded sample commitment. -/
def sampleEscrow (commitment : CkbEscrowCommitment) : Escrow where
  id := ⟨0, 0⟩
  appId := "app"
  agreementId := ⟨1, 0⟩
  milestoneId := some ⟨2, 0⟩
  amount := "22500000000"
  currency := "CKB"
  rail := .ckb
  network := .testnet
  status := .releasePending
  lockAddress := none
  lockTxHash := some ("0x" ++ "".pushn '4' 64)
  lockOutputIndex := some 0
  lockScriptJson := some (scriptJson commitment.lockScript)
  clientLockScriptJson := some (scriptJson commitment.clientLockScript)
  workerLockScriptJson := some (scriptJson commitment.workerLockScript)
  cellData := some commitment.cellData
  contractVersion := some commitment.contractVersion
  refundTimeoutSince := some "1000"
  releaseTxHash := none
  refundTxHash := none

/-- The signer of the client, at a fee of 1000 shannons. -/
def sampleLibrary : CkbLibrary where
  lockScript := firstAccount
  prepareTransaction := .ok
  estimateFee _ _ := 1000
  signOnlyTransaction := .ok
  hash transaction :=
    if ∀ output ∈ transaction.outputs, output.capacity < 2 ^ 64 then .ok "0x" else .error (.other "Invalid capacity")

theorem sampleLibrary_keeps : KeepsCells sampleLibrary := by
  constructor
  · rintro before after ⟨⟩
    exact ⟨rfl, rfl⟩
  · rintro before after ⟨⟩
    exact ⟨rfl, rfl⟩
  · intro transaction hash hashed
    simp only [sampleLibrary] at hashed
    split at hashed
    next fits => exact fits
    next => cases hashed

/-- One fee cell of the client. -/
def samplePage (capacity : String) : Page :=
  ⟨[⟨capacity, firstAccount, none, "0x", ⟨"0x" ++ "".pushn '5' 64, "0x0"⟩⟩], ""⟩

def sampleIntent (commitment : CkbEscrowCommitment) : SettlementIntent :=
  ⟨.release, ⟨"0x" ++ "".pushn '4' 64, 0⟩, 22500000000, commitment.workerLockScript, commitment.clientLockScript, 0⟩

section Sample
variable {commitment : CkbEscrowCommitment}
  (accepted : createCommitment sampleHashing sampleConfig (sampleInput firstArgs secondArgs) = .ok commitment)
include accepted

theorem sample_scripts : scriptFrom commitment.clientLockScript = some firstAccount ∧
    scriptFrom commitment.workerLockScript = some secondAccount := by
  obtain ⟨client, worker⟩ := createCommitment_scripts accepted
  have first := partyScript_firstArgs
  have second := partyScript_secondArgs
  rw [partyScript] at first second
  change normalizeScript (accountJson firstArgs) = _ at client
  change normalizeScript (accountJson secondArgs) = _ at worker
  rw [client, Option.bind_some] at first
  rw [worker, Option.bind_some] at second
  exact ⟨first, second⟩

theorem sample_intended :
    prepareSettlement sampleSettings .release (sampleEscrow commitment) = .ok (sampleIntent commitment) := by
  obtain ⟨client, worker⟩ := createCommitment_scripts accepted
  obtain ⟨_, _, _, _, _, _, _, _, _, terms⟩ := createCommitment_parsed accepted
  have data : commitment.cellData ≠ "" := by
    intro empty
    rw [empty] at terms
    cases terms
  have context : requiredContext (sampleEscrow commitment) = .ok ⟨"0x" ++ "".pushn '4' 64, 0,
      scriptJson commitment.lockScript, scriptJson commitment.clientLockScript,
      scriptJson commitment.workerLockScript, commitment.cellData, "1000"⟩ := by
    have stored : Rail.Node.present (sampleEscrow commitment).cellData = some commitment.cellData := by
      simp [Rail.Node.present, sampleEscrow, data]
    simp only [requiredContext, stored]
    rfl
  have hash : matchesHex (toLowerCase ("0x" ++ "".pushn '4' 64)).toList (some 32) = true := by decide +kernel
  have lower : toLowerCase ("0x" ++ "".pushn '4' 64) = "0x" ++ "".pushn '4' 64 := by decide +kernel
  have amount : parsePositiveIntegerAmount "22500000000" "amount" = .ok 22500000000 := rfl
  have destination : requiredScript (some (scriptJson commitment.workerLockScript)) "destinationLockScript" =
      .ok commitment.workerLockScript := requiredScript_ok.mpr (normalizeScript_scriptJson worker)
  have authorizer : requiredScript (some (scriptJson commitment.clientLockScript)) "authorizerLockScript" =
      .ok commitment.clientLockScript := requiredScript_ok.mpr (normalizeScript_scriptJson client)
  refine Guard.bind_ok_iff.mpr ⟨(), rfl, Guard.bind_ok_iff.mpr ⟨_, context, ?_⟩⟩
  refine Guard.reject_ok_iff.mpr ⟨not_not.mpr hash, Guard.bind_ok_iff.mpr ⟨_, amount, ?_⟩⟩
  refine Guard.bind_ok_iff.mpr ⟨_, destination, Guard.bind_ok_iff.mpr ⟨_, authorizer, ?_⟩⟩
  refine Guard.bind_ok_iff.mpr ⟨0, rfl, ?_⟩
  rw [Guard.pure_ok_iff, lower]
  rfl

theorem sample_signed {capacity : String} {value : Int} (parsed : Rail.Node.bigInt capacity = .ok value)
    (enough : 6100012000 ≤ value) (small : value < 2 ^ 64) : ∃ transaction,
    signSettlement sampleLibrary 1200 (sampleIntent commitment) (contractCellDep sampleConfig) [.ok (samplePage capacity)] =
      .ok (some (transaction, "0x")) ∧
    transaction.outputs = [⟨22500000000, secondAccount⟩, ⟨value - 1000, firstAccount⟩] := by
  obtain ⟨client, worker⟩ := sample_scripts accepted
  let cell : IndexerCell := ⟨capacity, firstAccount, none, "0x", ⟨"0x" ++ "".pushn '5' 64, "0x0"⟩⟩
  have collected : collectCapacity (minimumChange + feeBudget 1200 : Nat) [.ok (samplePage capacity)] =
      .ok (some ⟨[cell], value⟩) := by
    have covers : (0 : Int) + value ≥ (minimumChange + feeBudget 1200 : Nat) := by
      unfold minimumChange feeBudget
      omega
    have added : addCells (minimumChange + feeBudget 1200 : Nat) (samplePage capacity).objects ⟨[], 0⟩ =
        .ok (⟨[cell], value⟩, true) := by
      refine Guard.bind_ok_iff.mpr ⟨value, parsed, ?_⟩
      dsimp only
      rw [if_pos covers, Guard.pure_ok_iff, Int.zero_add]
      rfl
    exact Guard.bind_ok_iff.mpr ⟨_, rfl, Guard.bind_ok_iff.mpr ⟨_, added, rfl⟩⟩
  have left : (22500000000 : Int) + value - 22500000000 - (1000 : Nat) = value - 1000 := by omega
  have occupied : ¬value - 1000 < (lockCapacity firstAccount 0 : Nat) := by
    have size : lockCapacity firstAccount 0 = 6100000000 := rfl
    omega
  let transaction : Rail.Signer.Transaction :=
    ⟨[⟨"0x" ++ "".pushn '4' 64, 0, 0⟩, ⟨"0x" ++ "".pushn '5' 64, 0, 0⟩],
      [⟨22500000000, secondAccount⟩, ⟨value - 1000, firstAccount⟩], ["0x", "0x"], [contractCellDep sampleConfig]⟩
  have hashed : sampleLibrary.hash transaction = .ok "0x" := by
    simp [sampleLibrary, transaction]
    omega
  have inputs : [cell].mapM feeInput = .ok [⟨"0x" ++ "".pushn '5' 64, 0, 0⟩] := by
    have index : Rail.Node.bigInt "0x0" = .ok 0 := by decide +kernel
    have input : feeInput cell = .ok ⟨"0x" ++ "".pushn '5' 64, 0, 0⟩ := Guard.bind_ok_iff.mpr ⟨0, index, rfl⟩
    rw [List.mapM_cons, List.mapM_nil]
    exact Guard.bind_ok_iff.mpr ⟨_, input, rfl⟩
  refine ⟨transaction, ?_, rfl⟩
  refine Guard.bind_ok_iff.mpr ⟨firstAccount, requiredFrom_ok.mpr client, ?_⟩
  refine Guard.reject_ok_iff.mpr ⟨not_not.mpr rfl, Guard.bind_ok_iff.mpr ⟨_, collected, ?_⟩⟩
  refine Guard.bind_ok_iff.mpr ⟨_, inputs, ?_⟩
  refine Guard.bind_ok_iff.mpr ⟨secondAccount, requiredFrom_ok.mpr worker, ?_⟩
  refine Guard.bind_ok_iff.mpr ⟨(transaction, "0x"), ?_, rfl⟩
  refine Guard.bind_ok_iff.mpr ⟨_, rfl, ?_⟩
  refine Guard.reject_ok_iff.mpr ⟨?_, Guard.bind_ok_iff.mpr ⟨transaction, ?_, Guard.bind_ok_iff.mpr ⟨"0x", hashed, rfl⟩⟩⟩
  · exact left ▸ occupied
  · change Except.ok _ = Except.ok transaction
    rw [Except.ok.injEq]
    change Rail.Signer.Transaction.mk _ [_, ⟨22500000000 + value - 22500000000 - (1000 : Nat), _⟩] _ _ = transaction
    rw [left]
    rfl

theorem sample_persisted : Persisted (sampleInput firstArgs secondArgs) commitment (sampleEscrow commitment) :=
  ⟨rfl, rfl, rfl⟩

end Sample

theorem samplePage_exact (capacity : String) :
    ∀ page, (Except.ok page : Except Failure Page) ∈ [.ok (samplePage capacity)] →
      ∀ cell ∈ page.objects, cell.lock = sampleLibrary.lockScript := by
  intro page answered cell listed
  cases List.mem_singleton.mp answered
  cases List.mem_singleton.mp listed
  rfl

/-- A fee cell of 620 CKB leaves a change that the lock does not mistake for a payment. -/
theorem sample_release_accepted : ∃ commitment transaction parties terms feeCells,
    createCommitment sampleHashing sampleConfig (sampleInput firstArgs secondArgs) = .ok commitment ∧
    signSettlement sampleLibrary 1200 (sampleIntent commitment) (contractCellDep sampleConfig)
      [.ok (samplePage "62000000000")] = .ok (some (transaction, "0x")) ∧
    parsePartyHashes (bytesFrom commitment.lockScript.args) = .ok parties ∧
    parseTerms (bytesFrom commitment.cellData) = .ok terms ∧
    collectCapacity (minimumChange + feeBudget 1200 : Nat) [.ok (samplePage "62000000000")] = .ok (some feeCells) ∧
    (parties.client ≠ parties.worker →
      (evaluateSpend parties terms
          (spendState sampleHashing (Hash.repeated 0) 22500000000 feeCells.cells transaction) =
        .ok .clientPayout ↔ feeCells.capacity ≠ 22500000000 + (1000 : Nat))) := by
  obtain ⟨commitment, accepted⟩ := sampleInput_accepted partyScript_firstArgs partyScript_secondArgs
  obtain ⟨transaction, signed, _⟩ := @sample_signed commitment accepted "62000000000" 62000000000 (by decide +kernel)
    (by decide) (by decide)
  obtain ⟨parties, terms, feeCells, feeInputs, destination, prepared, parsed, parsedTerms, collected, _, iff⟩ :=
    @settlement_accepted_iff sampleSettings _ commitment _ .release _ _ _ _ _ _ accepted (sample_persisted accepted)
      (sample_intended accepted) sampleLibrary_keeps (samplePage_exact _) signed (Hash.repeated 0)
  exact ⟨commitment, transaction, parties, terms, feeCells, accepted, signed, parsed, parsedTerms, collected, iff⟩

/-- With a fee cell of the escrow amount and the fee the change repeats the amount, and the
lock takes it for a payment to the client. -/
theorem repeated_amount_refused : ∃ commitment transaction parties terms,
    createCommitment sampleHashing sampleConfig (sampleInput firstArgs secondArgs) = .ok commitment ∧
    prepareSettlement sampleSettings .release (sampleEscrow commitment) = .ok (sampleIntent commitment) ∧
    signSettlement sampleLibrary 1200 (sampleIntent commitment) (contractCellDep sampleConfig)
      [.ok (samplePage "22500001000")] = .ok (some (transaction, "0x")) ∧
    parsePartyHashes (bytesFrom commitment.lockScript.args) = .ok parties ∧
    parseTerms (bytesFrom commitment.cellData) = .ok terms ∧ parties.client ≠ parties.worker ∧
    evaluateSpend parties terms (spendState sampleHashing (Hash.repeated 0) 22500000000
      (samplePage "22500001000").objects transaction) = .error .ambiguousSettlementOutputs := by
  obtain ⟨commitment, accepted⟩ := sampleInput_accepted partyScript_firstArgs partyScript_secondArgs
  obtain ⟨transaction, signed, outputs⟩ := @sample_signed commitment accepted "22500001000" 22500001000
    (by decide +kernel) (by decide) (by decide)
  obtain ⟨client, worker, index, since, clientFound, workerFound, _, _, parties, terms⟩ :=
    createCommitment_parsed accepted
  obtain rfl : firstAccount = client := Option.some.inj (partyScript_firstArgs.symm.trans clientFound)
  obtain rfl : secondAccount = worker := Option.some.inj (partyScript_secondArgs.symm.trans workerFound)
  have different : sampleHashing.scriptHash firstAccount ≠ sampleHashing.scriptHash secondAccount := by decide
  refine ⟨commitment, transaction, _, _, accepted, sample_intended accepted, signed, parties, terms, different, ?_⟩
  have paid : (spendState sampleHashing (Hash.repeated 0) 22500000000 (samplePage "22500001000").objects
      transaction).outputs = [⟨sampleHashing.scriptHash secondAccount, 22500000000⟩,
        ⟨sampleHashing.scriptHash firstAccount, 22500000000⟩] := by
    simp only [spendState, outputs]
    rfl
  rw [Spend.evaluateSpend_eq_resolve, paid]
  have capacity : (spendState sampleHashing (Hash.repeated 0) 22500000000 (samplePage "22500001000").objects
    transaction).inputCapacity = 22500000000 := rfl
  simp [capacity, matchingOutputs, Spend.resolve, different, different.symm]

end Samples

end PactAgent.Escrow
