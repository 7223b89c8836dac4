import PactAgent.Rail.Spendable
import PactAgent.Server.App

/-! Runs on the test network with an escrow of fixed terms. What the server makes of these
terms, and of the lock transaction that they give, is worked out once here. -/

namespace PactAgent.Server
open PactAgent.Common PactAgent.Common.Amounts PactAgent.Foundation PactAgent.Store PactAgent.Escrow
open PactAgent.Contract PactAgent.Contract.Lock PactAgent.Contract.Terms PactAgent.Contract.Validate
open PactAgent.Foundation.Execution PactAgent.Rail.Script PactAgent.Rail.Codec PactAgent.Rail.Builder PactAgent.Rail.Node
open PactAgent.Rail.Spendable

section Scenario

def contractHash : String := "0x9bd7e06f3ecf4be0f2fcd2188b23f1b9fcc88e5d4b65a8637b17723bbda3cce8"

theorem noHash_length : (List.replicate 32 (0 : UInt8)).length = HASH_LEN := by decide

def noHash : Hash := ⟨List.replicate 32 0, noHash_length⟩

/-- A server for the test network; the hash functions do not matter here either. -/
def testnet : Settings where
  idempotency := ⟨1000, 1000, 1000⟩
  byteLength _ := 0
  railConfig := ⟨true, .testnet, ⟨contractHash, .data1, "", 0, .code⟩, 2⟩
  hashing := ⟨fun _ => noHash, fun _ => noHash⟩
  sha256Hex _ := ""
  uuid _ := ""

def lockHash : String := "0xa1"

/-- A milestone of an agreement in `funding_required`, with an escrow on the chain whose
lock transaction has been sent. -/
def opening : List Action :=
  [operate 0 (.createAgreement ⟨none, "22500000000", "CKB"⟩) 2,
    operate 1 (.createMilestone ⟨0, 0⟩ ⟨none, "22500000000", none, none⟩) 6,
    operate 2 (.acceptAgreement ⟨0, 0⟩) 6, operate 3 (.moveAgreementToFundingRequired ⟨0, 0⟩) 4,
    [api 4 (.createEscrow ⟨⟨0, 0⟩, some ⟨1, 0⟩, "22500000000", "CKB", .ckb, .testnet, accountJson firstArgs,
      accountJson secondArgs, some "1000"⟩)],
    transact 4 1, transact 4 7,
    [.outside 4 (.sign (.ok lockHash)), .outside 4 .send, .outside 4 (.answer (.ok lockHash))],
    transact 4 6].flatten

/-- The lock transaction as the node has it. -/
def lockTransaction : RpcTransaction where
  inputs := []
  outputs := [⟨"22500000000", .object [("codeHash", .string contractHash), ("hashType", .string "data1"),
    ("args", .string ("0x" ++ "".pushn '0' 192))]⟩]
  outputsData := ["0x50414354455343310100000001000000e8030000" ++ "".pushn '0' 136]

/-- The same answers to every question about the lock transaction. -/
def answering (response : Option TransactionResponse) : VerifyAnswers := ⟨.ok response, .ok response, .ok "0x20"⟩

/-- The transaction is in the pool, in a block, or out of sight. -/
def pooled : VerifyAnswers := answering (some ⟨some lockTransaction, .pending, none, none, none⟩)
def mined : VerifyAnswers := answering (some ⟨some lockTransaction, .committed, some "0xbb", some "0x10", none⟩)
def unheard : VerifyAnswers := answering (some ⟨none, .unknown, none, none, none⟩)

/-- A request to mark the escrow as funded, up to the verification. -/
def markFunded (process : Nat) (answers : VerifyAnswers) : List Action :=
  api process (.markFunded ⟨4, 0⟩ none) ::
    [transact process 1, transact process 2, [.outside process (.verify answers)]].flatten

/-- A reconciliation of the lock transaction, up to the observation. -/
def load (process : Nat) : List Action := .arrive process (.reconcile ⟨4, 1⟩) :: transact process 2

def observe (process : Nat) (answers : VerifyAnswers) : List Action :=
  [.outside process (.observe answers.observe answers)]

/-- A transaction of so many statements without its end. -/
def pending (process statements : Nat) : List Action :=
  .start process :: List.replicate statements (.statement process 0)

end Scenario

section Terms

/-- A script with these texts. -/
def isScript (codeHash hashType args : String) (json : Option Json) : Bool :=
  match json with
  | some (.object [(first, .string one), (second, .string two), (third, .string three)]) =>
      first = "codeHash" && one = codeHash && second = "hashType" && two = hashType && third = "args" && three = args
  | _ => false

theorem isScript_eq {codeHash hashType args : String} {json : Option Json} (test : isScript codeHash hashType args json = true) :
    json = some (.object [("codeHash", .string codeHash), ("hashType", .string hashType), ("args", .string args)]) := by
  unfold isScript at test
  split at test
  · simp only [Bool.and_eq_true, decide_eq_true_eq] at test
    obtain ⟨⟨⟨⟨⟨rfl, rfl⟩, rfl⟩, rfl⟩, rfl⟩, rfl⟩ := test
    rfl
  · cases test

def lockArgs : String := String.ofList ('0' :: 'x' :: Hex.encode (noHash.bytes ++ noHash.bytes ++ noHash.bytes))

def sampleData : String :=
  String.ofList ('0' :: 'x' :: Hex.encode
    (cellDataLayout VERSION (LittleEndian.toBytes 4 1) (LittleEndian.toBytes 8 1000) noHash noHash))

def sampleCommitment : CkbEscrowCommitment :=
  ⟨⟨contractHash, .data1, lockArgs⟩, ⟨contractHash, .type, firstArgs⟩, ⟨contractHash, .type, secondArgs⟩, sampleData, 1,
    "1000", "22500000000", 0⟩

theorem sampleCommitment_created (agreementId milestoneId : String) :
    createCommitment testnet.hashing testnet.railConfig ⟨agreementId, milestoneId, 1, "22500000000",
      accountJson firstArgs, accountJson secondArgs, "1000"⟩ = .ok sampleCommitment := by
  have amount : parsePositiveIntegerAmount "22500000000" "amount" = .ok 22500000000 := rfl
  have since : parseRefundTimeoutSince "1000" = .ok 1000 := by decide
  have index : unsignedInteger (.number 1) UINT32_MAX "milestoneIndex" = .ok 1 := rfl
  have client : requiredScript (accountJson firstArgs) "clientLockScript" = .ok ⟨contractHash, .type, firstArgs⟩ := by
    rw [requiredScript_ok]
    rfl
  have worker : requiredScript (accountJson secondArgs) "workerLockScript" = .ok ⟨contractHash, .type, secondArgs⟩ := by
    rw [requiredScript_ok]
    rfl
  have clientHash : PactAgent.Rail.Builder.lockHash testnet.hashing ⟨contractHash, .type, firstArgs⟩ = .ok noHash :=
    lockHash_ok.mpr ⟨firstAccount, rfl, rfl⟩
  have workerHash : PactAgent.Rail.Builder.lockHash testnet.hashing ⟨contractHash, .type, secondArgs⟩ = .ok noHash :=
    lockHash_ok.mpr ⟨secondAccount, rfl, rfl⟩
  have cell := encodeEscrowCellData_hashHex noHash noHash (parseRefundTimeoutSince_ok since) index
  have occupied := escrow_occupiedCapacity contractHash .data1 noHash noHash noHash 1 1000 noHash noHash
  have digest : ∀ parts, digest testnet.hashing parts = noHash := fun _ => rfl
  have args : encodeEscrowLockArgs ⟨hashHex noHash, hashHex noHash, hashHex noHash⟩ = .ok lockArgs :=
    encodeEscrowLockArgs_hashHex _ _ _
  have texts : toString 1000 = "1000" ∧ toString 22500000000 = "22500000000" := by decide +kernel
  have version : ESCROW_CELL_DATA_VERSION.toNat = 1 := rfl
  have code : testnet.railConfig.contract.codeHash = contractHash := rfl
  have type : testnet.railConfig.contract.hashType = .data1 := rfl
  have enough : ¬22500000000 < calculateOccupiedCapacity ⟨contractHash, .data1, lockArgs⟩ sampleData := by
    have same : calculateOccupiedCapacity ⟨contractHash, .data1, lockArgs⟩ sampleData = 22500000000 := occupied
    rw [same]
    exact Nat.lt_irrefl _
  unfold createCommitment
  rw [amount, client, worker, since]
  simp only [Guard.bind_ok_iff, Guard.reject_ok_iff, Guard.pure_ok_iff]
  refine ⟨_, rfl, _, rfl, _, rfl, _, rfl, _, clientHash, _, workerHash, lockArgs, args, sampleData, cell, enough, ?_⟩
  rw [texts.1, texts.2]
  rfl

/-- An escrow to be locked on these terms. -/
def sampleTerms (escrow : Escrow) (milestoneIndex : Option Nat) : Bool :=
  escrow.network = .testnet && escrow.milestoneId.isSome && milestoneIndex = some 1 && escrow.amount = "22500000000"
    && isScript contractHash "type" firstArgs escrow.clientLockScriptJson
    && isScript contractHash "type" secondArgs escrow.workerLockScriptJson && escrow.refundTimeoutSince = some "1000"

theorem prepareLock_eq {settings : Settings} {escrow : Escrow} {milestoneId : RowId} {index : Nat} {since : String}
    (enabled : settings.railConfig.enabled = true) (network : assertNetwork settings escrow.network = .ok ())
    (milestone : escrow.milestoneId = some milestoneId) (positive : index ≠ 0)
    (timeout : present escrow.refundTimeoutSince = some since) :
    prepareLock settings escrow (some index) = createCommitment settings.hashing settings.railConfig
      ⟨settings.uuid escrow.agreementId, settings.uuid milestoneId, index, escrow.amount, escrow.clientLockScriptJson,
        escrow.workerLockScriptJson, since⟩ := by
  have kept : Option.filter (fun index : Nat => decide (index ≠ 0)) (some index) = some index := by
    rw [Option.filter_some, if_pos (decide_eq_true positive)]
  simp only [prepareLock, enabled, network, milestone, kept, timeout, not_true_eq_false, if_false, bind, Except.bind]

theorem prepareLock_sample {escrow : Escrow} {milestoneIndex : Option Nat}
    (terms : sampleTerms escrow milestoneIndex = true) :
    prepareLock testnet escrow milestoneIndex = .ok sampleCommitment := by
  simp only [sampleTerms, Bool.and_eq_true, decide_eq_true_eq] at terms
  obtain ⟨⟨⟨⟨⟨⟨network, milestone⟩, rfl⟩, amount⟩, client⟩, worker⟩, since⟩ := terms
  obtain ⟨milestoneId, found⟩ := Option.isSome_iff_exists.mp milestone
  have clientJson : escrow.clientLockScriptJson = accountJson firstArgs := isScript_eq client
  have workerJson : escrow.workerLockScriptJson = accountJson secondArgs := isScript_eq worker
  have same : assertNetwork testnet escrow.network = .ok () := by
    rw [network]
    rfl
  have timeout : present escrow.refundTimeoutSince = some "1000" := by
    rw [since]
    decide
  rw [prepareLock_eq rfl same found Nat.one_ne_zero timeout, amount, clientJson, workerJson]
  exact sampleCommitment_created _ _

/-- An escrow whose lock is the one of these terms. -/
def sampleLock (escrow : Escrow) : Bool :=
  escrow.network = .testnet && (present escrow.lockTxHash).isSome && escrow.lockOutputIndex = some 0
    && isScript contractHash "data1" lockArgs escrow.lockScriptJson && escrow.clientLockScriptJson.isSome
    && escrow.workerLockScriptJson.isSome && escrow.cellData = some sampleData
    && (present escrow.refundTimeoutSince).isSome && escrow.amount = "22500000000"

/-- An answer with the cell of these terms. -/
def sampleAnswer (answer : Except Failure (Option TransactionResponse)) : Bool :=
  match answer with
  | .ok (some ⟨some ⟨_, [⟨capacity, lock⟩], [data]⟩, _, _, _, _⟩) =>
      capacity = "22500000000" && isScript contractHash "data1" lockArgs (some lock) && data = sampleData
  | _ => false

theorem sampleScript_equal : scriptsEqual
    (some (.object [("codeHash", .string contractHash), ("hashType", .string "data1"), ("args", .string lockArgs)]))
    (some (.object [("codeHash", .string contractHash), ("hashType", .string "data1"), ("args", .string lockArgs)])) =
      true := by
  have code : normalizeHex (some (.string contractHash)) (some 32) = some contractHash := by decide +kernel
  have args : normalizeHex (some (.string lockArgs)) none = some lockArgs := by
    have lower : (toLowerCase lockArgs).toList = '0' :: 'x' :: Hex.encode (noHash.bytes ++ noHash.bytes ++ noHash.bytes) :=
      toLowerCase_hex _
    have same : toLowerCase lockArgs = lockArgs := by
      apply String.toList_inj.mp
      rw [lower, lockArgs, String.toList_ofList]
    simp only [normalizeHex, lower]
    rw [if_pos (by simp [matchesHex, Hex.encode_all_lower]), same]
  have type : hashTypeOf (toLowerCase "data1") = some .data1 := by decide
  have normal : normalizeScript (some (.object [("codeHash", .string contractHash), ("hashType", .string "data1"),
      ("args", .string lockArgs)])) = some ⟨contractHash, .data1, lockArgs⟩ := by
    simp [normalizeScript, Json.field, Json.orElse, code, args, type]
  simp only [scriptsEqual, normal, beq_self_eq_true, Bool.and_self]

theorem fundingMatches_eq {terms : FundingTerms} {transaction : RpcTransaction} {output : CellOutput} {data : String}
    {value : Int} (cell : transaction.outputs[terms.outputIndex]? = some output)
    (content : transaction.outputsData[terms.outputIndex]? = some data)
    (lock : scriptsEqual (some output.lock) terms.lockScript = true) (same : data = terms.cellData)
    (capacity : bigInt output.capacity = .ok value) (amount : bigInt terms.amount = .ok value) :
    fundingMatches terms transaction = .ok () := by
  simp only [fundingMatches, cell, content, lock, same, capacity, amount, bind, Except.bind, pure, Except.pure, ne_eq,
    not_true_eq_false, or_self, if_false]

/-- What is left of the check of a funding that matches: the observation. -/
theorem checkFundingStatus_eq {settings : Settings} {escrow : Escrow} {answers : VerifyAnswers} {context : CkbContext}
    {response : TransactionResponse} {transaction : RpcTransaction}
    (network : assertNetwork settings escrow.network = .ok ()) (required : requiredContext escrow = .ok context)
    (given : answers.transaction = .ok (some response)) (content : response.transaction = some transaction)
    (found : fundingMatches ⟨context.lockOutputIndex, some context.lockScript, context.cellData, escrow.amount⟩
      transaction = .ok ()) :
    checkFundingStatus settings escrow answers = (do
      let observation ← observeTransaction settings.railConfig.confirmations answers.observe
      return { status := if observation.status = .confirmed then .funded else .fundingDetected
               txHash := some context.lockTxHash
               confirmations := some observation.confirmations
               blockHash := observation.blockHash
               blockNumber := observation.blockNumber }) := by
  simp only [checkFundingStatus, verifyFunding, network, required, given, content, found, bind, Except.bind,
    Option.bind_some]

def sampleResult (escrow : Escrow) (observation : Observation) : EscrowAdapterResult where
  status := if observation.status = .confirmed then .funded else .fundingDetected
  txHash := present escrow.lockTxHash
  confirmations := some observation.confirmations
  blockHash := observation.blockHash
  blockNumber := observation.blockNumber

theorem checkFundingStatus_sample {escrow : Escrow} {answers : VerifyAnswers} (lock : sampleLock escrow = true)
    (answer : sampleAnswer answers.transaction = true) :
    checkFundingStatus testnet escrow answers = (observeTransaction 2 answers.observe).map (sampleResult escrow) := by
  simp only [sampleLock, Bool.and_eq_true, decide_eq_true_eq] at lock
  obtain ⟨⟨⟨⟨⟨⟨⟨⟨network, hash⟩, index⟩, script⟩, client⟩, worker⟩, data⟩, since⟩, amount⟩ := lock
  obtain ⟨txHash, hash⟩ := Option.isSome_iff_exists.mp hash
  obtain ⟨clientJson, client⟩ := Option.isSome_iff_exists.mp client
  obtain ⟨workerJson, worker⟩ := Option.isSome_iff_exists.mp worker
  obtain ⟨timeout, since⟩ := Option.isSome_iff_exists.mp since
  have cell : present escrow.cellData = some sampleData := by
    rw [data]
    decide +kernel
  have value : bigInt "22500000000" = .ok 22500000000 := by decide +kernel
  have same : assertNetwork testnet escrow.network = .ok () := by
    rw [network]
    rfl
  obtain ⟨lockJson, stored⟩ : ∃ json, escrow.lockScriptJson = some json := ⟨_, isScript_eq script⟩
  have required : requiredContext escrow =
      .ok ⟨txHash, 0, lockJson, clientJson, workerJson, sampleData, timeout⟩ := by
    simp only [requiredContext, hash, index, stored, client, worker, cell, since]
  unfold sampleAnswer at answer
  split at answer
  · next inputs capacity lock output status blockHash blockNumber reason given =>
    simp only [Bool.and_eq_true, decide_eq_true_eq] at answer
    obtain ⟨⟨paid, shape⟩, content⟩ := answer
    have scripts : scriptsEqual (some lock) (some lockJson) = true := by
      rw [isScript_eq shape, ← stored, isScript_eq script]
      exact sampleScript_equal
    have found : fundingMatches ⟨0, some lockJson, sampleData, escrow.amount⟩ ⟨inputs, [⟨capacity, lock⟩], [output]⟩ =
        .ok () :=
      fundingMatches_eq rfl rfl scripts content (by rw [paid]; exact value) (by rw [amount]; exact value)
    rw [checkFundingStatus_eq same required given rfl found]
    have confirmations : testnet.railConfig.confirmations = 2 := rfl
    rw [confirmations]
    cases observeTransaction 2 answers.observe with
    | ok observation => simp only [Except.map, sampleResult, hash, bind, Except.bind, pure, Except.pure]
    | error error => rfl
  · cases answer

end Terms

section Steps

def quickPrepare (escrow : Escrow) (milestoneIndex : Option Nat) : Except Failure CkbEscrowCommitment :=
  if sampleTerms escrow milestoneIndex then .ok sampleCommitment else prepareLock testnet escrow milestoneIndex

theorem quickPrepare_eq (escrow : Escrow) (milestoneIndex : Option Nat) :
    prepareLock testnet escrow milestoneIndex = quickPrepare escrow milestoneIndex := by
  unfold quickPrepare
  split
  · next terms => exact prepareLock_sample terms
  · rfl

def quickCheck (escrow : Escrow) (answers : VerifyAnswers) : Except Failure EscrowAdapterResult :=
  if sampleLock escrow && sampleAnswer answers.transaction then
    (observeTransaction 2 answers.observe).map (sampleResult escrow)
  else checkFundingStatus testnet escrow answers

theorem quickCheck_eq (escrow : Escrow) (answers : VerifyAnswers) :
    checkFundingStatus testnet escrow answers = quickCheck escrow answers := by
  unfold quickCheck
  split
  · next test =>
    rw [Bool.and_eq_true] at test
    exact checkFundingStatus_sample test.1 test.2
  · rfl

def quickObserve (snapshot : Snapshot) (answers : ObserveAnswers) (verification : VerifyAnswers) :
    Except Failure Observation := do
  let observation ← observeTransaction 2 answers
  if observation.status = .committed ∨ observation.status = .confirmed then
    match snapshot.transaction.type with
    | .lock => do
        let _ ← quickCheck snapshot.escrow verification
    | .release => do
        let _ ← checkSettlementStatus testnet .release snapshot.escrow verification
    | .refund => do
        let _ ← checkSettlementStatus testnet .refund snapshot.escrow verification
    return observation
  else return observation

theorem quickObserve_eq (snapshot : Snapshot) (answers : ObserveAnswers) (verification : VerifyAnswers) :
    observeSnapshot testnet snapshot answers verification = quickObserve snapshot answers verification := by
  simp only [quickObserve, ← quickCheck_eq]
  rfl

/-- The steps outside the database, with what is worked out above. -/
def quickOutside (env : Env) (process : Nat) (phase : Phase) (external : External) : Option (Env × Phase) :=
  match phase, external with
  | .locking req reserved, .sign signed =>
      if reserved.created.rail ≠ .ckb then none
      else
        match quickPrepare reserved.created reserved.milestoneIndex, signed with
        | .ok commitment, .ok signedHash => some (env, .lockSigned req reserved commitment signedHash)
        | .ok _, .error error => some (env, .discarding req reserved error)
        | .error error, _ => some (env, .discarding req reserved error)
  | .funding req before none, .verify answers =>
      if before.rail ≠ .ckb then none
      else
        let env := env.report (verifyReports process (before.lockTxHash.getD "") answers)
        match quickCheck before answers with
        | .ok result => some (env, .finalizingFunding req before result)
        | .error error => some (env, .clearing req error)
  | .observing snapshot, .observe answers verification =>
      let verified := if observesBlock testnet answers
        then verifyReports process (verifiedHash snapshot) verification else []
      let env := env.report (.observed process snapshot.txHash answers :: verified)
      match quickObserve snapshot answers verification with
      | .ok observation => some (env, .reconciling snapshot observation)
      | .error error => some (env, .failed error)
  | phase, external => outside testnet env process phase external

theorem quickOutside_eq : quickOutside = outside testnet := by
  funext env process phase external
  unfold quickOutside
  split
  · simp only [outside, quickPrepare_eq] <;> rfl
  · next req before answers =>
    have funded : markFundedCkb testnet before none answers = quickCheck before answers := by
      rw [← quickCheck_eq]
      rfl
    simp only [outside, funded] <;> rfl
  · simp only [outside, quickObserve_eq] <;> rfl
  · rfl

/-- The steps of the server, for evaluation. -/
def quickStep : State → Action → Option State := ReadCommitted.step { app testnet with outside := quickOutside }

theorem quickStep_eq : step testnet = quickStep := by
  unfold quickStep
  rw [quickOutside_eq]
  rfl

end Steps

end PactAgent.Server
