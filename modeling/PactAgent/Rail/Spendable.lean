import PactAgent.Rail.Builder

/-! When a commitment of the transaction builder can be spent under the lock.
The builder checks the scripts, the timeout and the capacity of the escrow cell
one by one; a spend must also hold an output of exactly the escrow amount under
one party's lock and none under the other's. -/

namespace PactAgent.Rail.Spendable
open PactAgent.Common PactAgent.Common.Amounts PactAgent.Foundation
open PactAgent.Contract PactAgent.Contract.Lock PactAgent.Contract.Terms PactAgent.Contract.Validate
open PactAgent.Rail.Script PactAgent.Rail.Codec PactAgent.Rail.Builder

/-- An output a spend creates: a lock and the capacity under it, without data. -/
structure PaidOutput where
  lock : Script
  capacity : UInt64

def PaidOutput.cell (hashing : CkbHashing) (output : PaidOutput) : OutputCell :=
  ⟨hashing.scriptHash output.lock, output.capacity⟩

/-- Every output uses one of these locks and can hold its own storage. -/
def Held (scripts : Set Script) (outputs : List PaidOutput) : Prop :=
  ∀ output ∈ outputs, output.lock ∈ scripts ∧ lockCapacity output.lock 0 ≤ output.capacity.toNat

/-- The lock accepts some spend of the commitment along one of `paths`. -/
def SpendableBy (hashing : CkbHashing) (scripts : Set Script) (commitment : CkbEscrowCommitment)
    (inputCapacity : UInt64) (paths : List ResolutionPath) : Prop :=
  ∃ parties terms, parsePartyHashes (bytesFrom commitment.lockScript.args) = .ok parties ∧
    parseTerms (bytesFrom commitment.cellData) = .ok terms ∧
    ∃ (inputSince : UInt64) (signerLockHashes : List Hash) (outputs : List PaidOutput),
      Held scripts outputs ∧
      ∃ path ∈ paths, evaluateSpend parties terms
        ⟨inputCapacity, inputSince, signerLockHashes, outputs.map (·.cell hashing)⟩ = .ok path

def PaysWorker (hashing : CkbHashing) (scripts : Set Script) (commitment : CkbEscrowCommitment)
    (inputCapacity : UInt64) : Prop :=
  SpendableBy hashing scripts commitment inputCapacity [.clientPayout]

def PaysClient (hashing : CkbHashing) (scripts : Set Script) (commitment : CkbEscrowCommitment)
    (inputCapacity : UInt64) : Prop :=
  SpendableBy hashing scripts commitment inputCapacity [.workerRefund, .timeoutRefund]

/-- The script that the library makes of a party's lock script argument. -/
def partyScript (value : Option Json) : Option Script := (normalizeScript value).bind scriptFrom

theorem parseRefundTimeoutSince_ok {value : String} {since : Nat}
    (parsed : parseRefundTimeoutSince value = .ok since) : since < 2 ^ 56 := by
  unfold parseRefundTimeoutSince at parsed
  obtain ⟨-, parsed⟩ := Guard.reject_ok_iff.mp parsed
  obtain ⟨bound, parsed⟩ := Guard.reject_ok_iff.mp parsed
  rw [Guard.pure_ok_iff] at parsed
  unfold MAX_BLOCK_SINCE at bound
  omega

theorem requiredScript_ok {value : Option Json} {field : String} {script : NormalizedCkbScript} :
    requiredScript value field = .ok script ↔ normalizeScript value = some script := by
  unfold requiredScript
  cases normalizeScript value <;> simp

theorem lockHash_ok {hashing : CkbHashing} {script : NormalizedCkbScript} {hash : Hash} :
    lockHash hashing script = .ok hash ↔
      ∃ full, scriptFrom script = some full ∧ hashing.scriptHash full = hash := by
  unfold lockHash
  cases scriptFrom script <;> simp

/-- The lock parses the parties and the terms out of every accepted commitment. -/
theorem createCommitment_parsed {hashing : CkbHashing} {railConfig : CkbRailConfig}
    {input : CommitmentInput} {commitment : CkbEscrowCommitment}
    (accepted : createCommitment hashing railConfig input = .ok commitment) :
    ∃ client worker index since, partyScript input.clientLockScript = some client ∧
      partyScript input.workerLockScript = some worker ∧
      unsignedInteger (.number input.milestoneIndex) UINT32_MAX "milestoneIndex" = .ok index ∧
      parseRefundTimeoutSince input.refundTimeoutSince = .ok since ∧
      parsePartyHashes (bytesFrom commitment.lockScript.args) =
        .ok ⟨hashing.scriptHash client, hashing.scriptHash worker,
          digest hashing ["pactagent", "agreement-salt", input.agreementId]⟩ ∧
      parseTerms (bytesFrom commitment.cellData) =
        .ok ⟨VERSION, UInt32.ofNat index, UInt64.ofNat since,
          digest hashing ["pactagent", "agreement", input.agreementId],
          digest hashing
            ["pactagent", "milestone", input.agreementId, input.milestoneId, input.amount]⟩ := by
  unfold createCommitment at accepted
  obtain ⟨amount, -, accepted⟩ := Guard.bind_ok_iff.mp accepted
  obtain ⟨clientScript, clientParsed, accepted⟩ := Guard.bind_ok_iff.mp accepted
  obtain ⟨workerScript, workerParsed, accepted⟩ := Guard.bind_ok_iff.mp accepted
  obtain ⟨since, sinceParsed, accepted⟩ := Guard.bind_ok_iff.mp accepted
  obtain ⟨clientHash, clientHashed, accepted⟩ := Guard.bind_ok_iff.mp accepted
  obtain ⟨workerHash, workerHashed, accepted⟩ := Guard.bind_ok_iff.mp accepted
  obtain ⟨lockArgs, argsEncoded, accepted⟩ := Guard.bind_ok_iff.mp accepted
  obtain ⟨cellData, dataEncoded, accepted⟩ := Guard.bind_ok_iff.mp accepted
  obtain ⟨-, accepted⟩ := Guard.reject_ok_iff.mp accepted
  have built := Guard.pure_ok_iff.mp accepted
  obtain ⟨client, clientFull, clientHashed⟩ := lockHash_ok.mp clientHashed
  obtain ⟨worker, workerFull, workerHashed⟩ := lockHash_ok.mp workerHashed
  rw [requiredScript_ok] at clientParsed workerParsed
  have sinceBound := parseRefundTimeoutSince_ok sinceParsed
  obtain ⟨index, indexBound, indexParsed⟩ := encodeEscrowCellData_index dataEncoded
  rw [encodeEscrowCellData_hashHex _ _ sinceBound indexParsed] at dataEncoded
  rw [encodeEscrowLockArgs_hashHex] at argsEncoded
  have clientSome : partyScript input.clientLockScript = some client := by
    rw [partyScript, clientParsed, Option.bind_some, clientFull]
  have workerSome : partyScript input.workerLockScript = some worker := by
    rw [partyScript, workerParsed, Option.bind_some, workerFull]
  have parties : parsePartyHashes (bytesFrom commitment.lockScript.args) = .ok
      ⟨hashing.scriptHash client, hashing.scriptHash worker,
        digest hashing ["pactagent", "agreement-salt", input.agreementId]⟩ := by
    rw [← built, ← Except.ok.inj argsEncoded, bytesFrom_hex, parsePartyHashes_encode, clientHashed,
      workerHashed]
  have terms := parseTerms_layout index since
    (digest hashing ["pactagent", "agreement", input.agreementId])
    (digest hashing ["pactagent", "milestone", input.agreementId, input.milestoneId, input.amount])
    (Nat.lt_succ_of_le indexBound) sinceBound
  refine ⟨client, worker, index, since, clientSome, workerSome, indexParsed, sinceParsed, parties,
    Eq.trans ?_ terms⟩
  rw [← built, ← Except.ok.inj dataEncoded, bytesFrom_hex]

/-- The occupied capacity of an escrow cell does not depend on its terms: 96 bytes of
arguments, 88 bytes of data and 41 bytes around them. -/
theorem escrow_occupiedCapacity (codeHash : String) (hashType : HashType) (client worker salt : Hash)
    (index since : Nat) (agreement milestone : Hash) :
    calculateOccupiedCapacity
      ⟨codeHash, hashType, String.ofList ('0' :: 'x' ::
        Hex.encode (client.bytes ++ worker.bytes ++ salt.bytes))⟩
      (String.ofList ('0' :: 'x' :: Hex.encode (cellDataLayout VERSION (LittleEndian.toBytes 4 index)
        (LittleEndian.toBytes 8 since) agreement milestone))) = 22500000000 := by
  have size := cellDataLayout_length VERSION _ _ agreement milestone
    (LittleEndian.toBytes_length 4 index) (LittleEndian.toBytes_length 8 since)
  simp only [calculateOccupiedCapacity, bytesFrom_hex, List.length_append, client.length_eq,
    worker.length_eq, salt.length_eq, size]
  rfl

/-- The builder accepts whatever parses and covers the capacity of the escrow cell. -/
theorem createCommitment_accepts {hashing : CkbHashing} {railConfig : CkbRailConfig}
    {input : CommitmentInput} {amount since index : Nat} {client worker : Script}
    (amountParsed : parsePositiveIntegerAmount input.amount "amount" = .ok amount)
    (clientScript : partyScript input.clientLockScript = some client)
    (workerScript : partyScript input.workerLockScript = some worker)
    (sinceParsed : parseRefundTimeoutSince input.refundTimeoutSince = .ok since)
    (indexParsed : unsignedInteger (.number input.milestoneIndex) UINT32_MAX "milestoneIndex" = .ok index)
    (enough : 22500000000 ≤ amount) :
    ∃ commitment, createCommitment hashing railConfig input = .ok commitment := by
  obtain ⟨clientNormal, clientParsed, clientFull⟩ := Option.bind_eq_some_iff.mp clientScript
  obtain ⟨workerNormal, workerParsed, workerFull⟩ := Option.bind_eq_some_iff.mp workerScript
  have clientHashed : lockHash hashing clientNormal = .ok (hashing.scriptHash client) :=
    lockHash_ok.mpr ⟨client, clientFull, rfl⟩
  have workerHashed : lockHash hashing workerNormal = .ok (hashing.scriptHash worker) :=
    lockHash_ok.mpr ⟨worker, workerFull, rfl⟩
  unfold createCommitment
  rw [amountParsed, requiredScript_ok.mpr clientParsed, requiredScript_ok.mpr workerParsed, sinceParsed]
  simp only [Guard.bind_ok_iff, Guard.reject_ok_iff, Guard.pure_ok_iff]
  refine ⟨_, _, rfl, _, rfl, _, rfl, _, rfl, _, clientHashed, _, workerHashed,
    _, encodeEscrowLockArgs_hashHex _ _ _,
    _, encodeEscrowCellData_hashHex _ _ (parseRefundTimeoutSince_ok sinceParsed) indexParsed, ?_, rfl⟩
  rw [escrow_occupiedCapacity]
  omega

section Paths
variable {hashing : CkbHashing} {scripts : Set Script} {client worker : Script}
  (injective : Set.InjOn hashing.scriptHash scripts)
  (clientMember : client ∈ scripts) (workerMember : worker ∈ scripts)
include injective clientMember workerMember

/-- Outputs that pay one party once and the other never exist exactly when the
parties differ and the amount can stand in a cell of its own. -/
theorem paid_once_iff (capacity : UInt64) :
    (∃ outputs, Held scripts outputs ∧
      matchingOutputs (outputs.map (·.cell hashing)) (hashing.scriptHash client) capacity = 1 ∧
      matchingOutputs (outputs.map (·.cell hashing)) (hashing.scriptHash worker) capacity = 0) ↔
    client ≠ worker ∧ lockCapacity client 0 ≤ capacity.toNat := by
  refine ⟨?_, ?_⟩
  · intro ⟨outputs, held, once, never⟩
    have different : client ≠ worker := by
      intro same
      rw [same, never] at once
      exact absurd once (by decide)
    have positive : 0 < matchingOutputs (outputs.map (·.cell hashing)) (hashing.scriptHash client)
        capacity := by omega
    obtain ⟨cell, member, found⟩ := List.countP_pos_iff.mp positive
    obtain ⟨output, outputMember, rfl⟩ := List.mem_map.mp member
    simp only [PaidOutput.cell, Bool.and_eq_true, beq_iff_eq] at found
    obtain ⟨lockMember, enough⟩ := held output outputMember
    have same : output.lock = client := injective lockMember clientMember found.1
    rw [same, found.2] at enough
    exact ⟨different, enough⟩
  · intro ⟨different, enough⟩
    have hashes : hashing.scriptHash client ≠ hashing.scriptHash worker :=
      fun same => different (injective clientMember workerMember same)
    refine ⟨[⟨client, capacity⟩], ?_, ?_, ?_⟩
    · intro output member
      rw [List.mem_singleton] at member
      subst member
      exact ⟨clientMember, enough⟩
    · simp [matchingOutputs, PaidOutput.cell]
    · simp [matchingOutputs, PaidOutput.cell, hashes]

variable {commitment : CkbEscrowCommitment} {salt : Hash} {terms : EscrowTerms}
  (parties : parsePartyHashes (bytesFrom commitment.lockScript.args) =
    .ok ⟨hashing.scriptHash client, hashing.scriptHash worker, salt⟩)
  (parsed : parseTerms (bytesFrom commitment.cellData) = .ok terms)
include parties parsed

theorem paysWorker_iff (capacity : UInt64) :
    PaysWorker hashing scripts commitment capacity ↔
      worker ≠ client ∧ lockCapacity worker 0 ≤ capacity.toNat := by
  rw [← paid_once_iff injective workerMember clientMember]
  refine ⟨?_, ?_⟩
  · intro ⟨found, _, foundParties, _, since, signers, outputs, held, path, member, spent⟩
    rw [parties] at foundParties
    cases foundParties
    rw [List.mem_singleton] at member
    subst member
    rw [Spend.evaluateSpend_eq_resolve, Spend.resolve_payout_iff] at spent
    exact ⟨outputs, held, spent.1, spent.2.1⟩
  · intro ⟨outputs, held, once, never⟩
    refine ⟨_, _, parties, parsed, 0, [hashing.scriptHash client], outputs, held, .clientPayout,
      List.mem_singleton_self _, ?_⟩
    rw [Spend.evaluateSpend_eq_resolve, Spend.resolve_payout_iff, Spend.hasSigner_eq]
    exact ⟨once, never, decide_eq_true (List.mem_singleton_self _)⟩

theorem paysClient_iff (capacity : UInt64) :
    PaysClient hashing scripts commitment capacity ↔
      client ≠ worker ∧ lockCapacity client 0 ≤ capacity.toNat := by
  rw [← paid_once_iff injective clientMember workerMember]
  refine ⟨?_, ?_⟩
  · intro ⟨found, _, foundParties, _, since, signers, outputs, held, path, member, spent⟩
    rw [parties] at foundParties
    cases foundParties
    have refunded := List.mem_pair.mp member
    have counts := (Spend.resolve_refund_iff _ _ _ _ _).mp (by
      rw [Spend.evaluateSpend_eq_resolve] at spent
      exact refunded.imp (fun same => same ▸ spent) (fun same => same ▸ spent))
    exact ⟨outputs, held, counts.1, counts.2.1⟩
  · intro ⟨outputs, held, once, never⟩
    have signed := (Spend.resolve_refund_iff _ _
      (Lock.hasSigner [hashing.scriptHash worker] (hashing.scriptHash client)) _
      (timeoutRefundReached 0 terms.refundTimeoutSince)).mpr
      ⟨once, never, .inl ((Spend.hasSigner_eq [hashing.scriptHash worker] _).trans
        (decide_eq_true (List.mem_singleton_self _)))⟩
    refine ⟨_, _, parties, parsed, 0, [hashing.scriptHash worker], outputs, held, ?_⟩
    simp only [Spend.evaluateSpend_eq_resolve]
    rcases signed with refunded | refunded
    · exact ⟨.workerRefund, by simp, refunded⟩
    · exact ⟨.timeoutRefund, by simp, refunded⟩

end Paths

/-- A commitment the builder accepts can pay the worker and can pay the client
exactly when the two party scripts differ and the amount covers the storage of a
cell under either of them. -/
theorem accepted_spendable_iff (hashing : CkbHashing) (railConfig : CkbRailConfig)
    (input : CommitmentInput) (commitment : CkbEscrowCommitment) (amount : Nat) (client worker : Script)
    (scripts : Set Script)
    (accepted : createCommitment hashing railConfig input = .ok commitment)
    (amountParsed : parsePositiveIntegerAmount input.amount "amount" = .ok amount)
    (clientScript : partyScript input.clientLockScript = some client)
    (workerScript : partyScript input.workerLockScript = some worker)
    (clientMember : client ∈ scripts) (workerMember : worker ∈ scripts)
    (injective : Set.InjOn hashing.scriptHash scripts) :
    (PaysWorker hashing scripts commitment (UInt64.ofNat amount) ∧
        PaysClient hashing scripts commitment (UInt64.ofNat amount)) ↔
      client ≠ worker ∧ lockCapacity worker 0 ≤ amount ∧ lockCapacity client 0 ≤ amount := by
  obtain ⟨client', worker', index, since, clientFound, workerFound, -, -, parties, parsed⟩ :=
    createCommitment_parsed accepted
  obtain rfl : client = client' := Option.some.inj (clientScript.symm.trans clientFound)
  obtain rfl : worker = worker' := Option.some.inj (workerScript.symm.trans workerFound)
  have bound := parsePositiveIntegerAmount_ok amountParsed
  have fits : amount < UInt64.size := by
    unfold MAX_SHANNONS at bound
    change amount < 18446744073709551616
    omega
  have capacity : (UInt64.ofNat amount).toNat = amount := UInt64.toNat_ofNat_of_lt' fits
  rw [paysWorker_iff injective clientMember workerMember parties parsed,
    paysClient_iff injective clientMember workerMember parties parsed, capacity]
  refine ⟨?_, ?_⟩
  · intro ⟨toWorker, toClient⟩
    exact ⟨toClient.1, toWorker.2, toClient.2⟩
  · intro ⟨different, workerHolds, clientHolds⟩
    exact ⟨⟨different.symm, workerHolds⟩, different, clientHolds⟩

section Samples

/-- Two accounts under the system's secp256k1 lock. -/
def accountJson (args : String) : Option Json := some (.object
  [("codeHash", .string "0x9bd7e06f3ecf4be0f2fcd2188b23f1b9fcc88e5d4b65a8637b17723bbda3cce8"),
    ("hashType", .string "type"), ("args", .string args)])

def accountCodeHash : Hash :=
  ⟨[0x9b, 0xd7, 0xe0, 0x6f, 0x3e, 0xcf, 0x4b, 0xe0, 0xf2, 0xfc, 0xd2, 0x18, 0x8b, 0x23, 0xf1, 0xb9,
    0xfc, 0xc8, 0x8e, 0x5d, 0x4b, 0x65, 0xa8, 0x63, 0x7b, 0x17, 0x72, 0x3b, 0xbd, 0xa3, 0xcc, 0xe8], rfl⟩

def firstAccount : Script := ⟨accountCodeHash, .type, List.replicate 20 0x11⟩
def secondAccount : Script := ⟨accountCodeHash, .type, List.replicate 20 0x22⟩

/-- The library's hashes of the two account scripts and of the three digests below. -/
def sampleHashing : CkbHashing where
  scriptHash script :=
    if script = firstAccount then
      ⟨[41, 229, 96, 116, 159, 197, 199, 133, 227, 193, 207, 195, 225, 76, 14, 96, 142, 200, 113, 32,
        240, 192, 102, 250, 207, 2, 62, 232, 189, 86, 157, 132], rfl⟩
    else
      ⟨[223, 27, 41, 203, 13, 148, 102, 224, 255, 188, 223, 5, 196, 213, 152, 237, 193, 253, 143, 198,
        183, 35, 251, 189, 139, 143, 84, 20, 221, 202, 58, 176], rfl⟩
  hashCkb bytes :=
    if bytes.length = 34 then
      ⟨[144, 111, 220, 200, 224, 110, 147, 225, 239, 94, 126, 74, 11, 11, 223, 41, 31, 158, 250, 53,
        232, 118, 119, 159, 248, 94, 34, 182, 91, 4, 4, 116], rfl⟩
    else if bytes.length = 29 then
      ⟨[132, 164, 114, 75, 16, 67, 187, 4, 221, 187, 243, 60, 127, 41, 194, 124, 227, 33, 82, 238,
        156, 141, 80, 126, 156, 68, 49, 90, 118, 124, 105, 139], rfl⟩
    else
      ⟨[249, 5, 28, 189, 74, 25, 160, 188, 247, 167, 194, 69, 202, 1, 67, 220, 249, 253, 92, 88, 8, 6,
        33, 198, 101, 185, 194, 88, 156, 247, 37, 241], rfl⟩

def sampleConfig : CkbRailConfig :=
  ⟨true, .testnet, ⟨"0x" ++ "".pushn '3' 64, .data1, "0x" ++ "".pushn '4' 64, 0, .code⟩, 6⟩

/-- The smallest amount the builder accepts, between two accounts. -/
def sampleInput (clientArgs workerArgs : String) : CommitmentInput :=
  ⟨"a", "m", 1, "22500000000", accountJson clientArgs, accountJson workerArgs, "1000"⟩

def firstArgs : String := "0x1111111111111111111111111111111111111111"
def secondArgs : String := "0x2222222222222222222222222222222222222222"

theorem partyScript_firstArgs : partyScript (accountJson firstArgs) = some firstAccount := by rfl

theorem partyScript_secondArgs : partyScript (accountJson secondArgs) = some secondAccount := by rfl

theorem sampleHashing_injOn : Set.InjOn sampleHashing.scriptHash {firstAccount, secondAccount} := by
  intro first firstMember second secondMember same
  rcases firstMember with rfl | rfl <;> rcases secondMember with rfl | rfl
  · rfl
  · exact absurd same (by decide)
  · exact absurd same (by decide)
  · rfl

theorem sampleInput_accepted {clientArgs workerArgs : String} {client worker : Script}
    (clientScript : partyScript (accountJson clientArgs) = some client)
    (workerScript : partyScript (accountJson workerArgs) = some worker) :
    ∃ commitment, createCommitment sampleHashing sampleConfig (sampleInput clientArgs workerArgs) =
      .ok commitment := by
  have amount : parsePositiveIntegerAmount "22500000000" "amount" = .ok 22500000000 := rfl
  have since : parseRefundTimeoutSince "1000" = .ok 1000 := by decide
  have index : unsignedInteger (.number 1) UINT32_MAX "milestoneIndex" = .ok 1 := rfl
  exact createCommitment_accepts amount clientScript workerScript since index le_rfl

theorem distinctAccounts_spendable :
    ∃ commitment, createCommitment sampleHashing sampleConfig (sampleInput firstArgs secondArgs) =
        .ok commitment ∧
      PaysWorker sampleHashing {firstAccount, secondAccount} commitment 22500000000 ∧
      PaysClient sampleHashing {firstAccount, secondAccount} commitment 22500000000 := by
  obtain ⟨commitment, accepted⟩ := sampleInput_accepted partyScript_firstArgs partyScript_secondArgs
  refine ⟨commitment, accepted, ?_⟩
  exact (accepted_spendable_iff sampleHashing sampleConfig _ commitment 22500000000 firstAccount
    secondAccount {firstAccount, secondAccount} accepted rfl partyScript_firstArgs
    partyScript_secondArgs (by simp) (by simp) sampleHashing_injOn).mpr (by decide)

/-- With one account on both sides every payment to the worker is one to the client. -/
theorem sameAccount_not_spendable :
    ∃ commitment, createCommitment sampleHashing sampleConfig (sampleInput firstArgs firstArgs) =
        .ok commitment ∧
      Set.InjOn sampleHashing.scriptHash {firstAccount} ∧
      ¬PaysWorker sampleHashing {firstAccount} commitment 22500000000 ∧
      ¬PaysClient sampleHashing {firstAccount} commitment 22500000000 := by
  obtain ⟨commitment, accepted⟩ := sampleInput_accepted partyScript_firstArgs partyScript_firstArgs
  obtain ⟨client, worker, index, since, clientFound, workerFound, -, -, parties, parsed⟩ :=
    createCommitment_parsed accepted
  obtain rfl : firstAccount = client := Option.some.inj (partyScript_firstArgs.symm.trans clientFound)
  obtain rfl : firstAccount = worker := Option.some.inj (partyScript_firstArgs.symm.trans workerFound)
  have injective : Set.InjOn sampleHashing.scriptHash {firstAccount} := Set.injOn_singleton _ _
  have member : firstAccount ∈ ({firstAccount} : Set Script) := Set.mem_singleton _
  refine ⟨commitment, accepted, injective, ?_, ?_⟩
  · rw [paysWorker_iff injective member member parties parsed]
    exact fun pays => pays.1 rfl
  · rw [paysClient_iff injective member member parties parsed]
    exact fun pays => pays.1 rfl

end Samples

end PactAgent.Rail.Spendable
