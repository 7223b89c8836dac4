import PactAgent.Escrow.Guards
import PactAgent.Rail.Spendable
import PactAgent.Server.App

/-! The guards of the services against the constraints of the database: the financial rules
are written twice, and where the guards leave a gap the database refuses the statement. -/

namespace PactAgent.Server
open PactAgent.Escrow PactAgent.Common PactAgent.Common.Amounts PactAgent.Foundation PactAgent.Lifecycle PactAgent.Store
open PactAgent.Contract.Terms PactAgent.Rail.Builder PactAgent.Rail.Codec PactAgent.Rail.Script PactAgent.Rail.Spendable

section Amounts
variable {amount fieldName : String} {value : Nat}

theorem parseNonNegative_value (parsed : parseNonNegativeIntegerAmount amount fieldName = .ok value) :
    value = amountValue amount := by
  unfold parseNonNegativeIntegerAmount at parsed
  split at parsed
  · cases parsed
  · split at parsed
    · cases parsed
    · cases parsed
      rfl

end Amounts

section Guards
variable {appId : String} {db : Db}

theorem stored_ok {α : Type} {message code : String} {read : Option α} {value : α} :
    stored message code read = .ok value ↔ read = some value := by
  cases read <;> simp [stored]

theorem agreementAmount_iff (req : RequestContext) (now : Nat) (settings : Settings) (input : CreateAgreementInput)
    (parsed : createAgreementSchema input = true) {statements : List Statement}
    (guarded : (FinancialRequest.createAgreement input).statements settings req now db = .ok statements) :
    acceptedAll db statements = (FinancialRequest.createAgreement input).fits req db := by
  cases guarded
  simp only [createAgreementSchema, Bool.and_eq_true] at parsed
  have checks := amountChecks_iff parsed.1
  simp only [acceptedAll, Statement.accepted, Agreement.checks, agreementRow, FinancialRequest.fits, Bool.and_true]
  rw [Bool.eq_iff_iff, checks, decide_eq_true_eq]

/-- What the guards of a new milestone have found. -/
theorem milestoneRow_ok {request : Nat} {agreementId : RowId} {input : CreateMilestoneInput} {row : Milestone}
    (guarded : milestoneRow request appId agreementId input db = .ok row) :
    ∃ agreement, db.agreementForApp appId agreementId = some agreement ∧
      agreement.status ∉ [AgreementStatus.funded, .inProgress, .proofSubmitted, .underReview, .approved,
        .releasePending, .released, .refunded, .disputed] ∧
      row.appId = appId ∧ row.agreementId = agreementId ∧ row.currency = agreement.currency ∧
      row.sortOrder = milestoneOrder appId agreementId input db ∧ amountChecks row.amount = true ∧
      ((db.milestones.rows.filter fun other => other.agreementId = agreementId && other.appId = appId).map
        fun other => amountValue other.amount).sum + amountValue row.amount ≤ amountValue agreement.amount := by
  unfold milestoneRow at guarded
  obtain ⟨agreement, found, guarded⟩ := Guard.bind_ok_iff.mp guarded
  split at guarded
  · cases guarded
  · next unfunded =>
    obtain ⟨existing, summed, guarded⟩ := Guard.bind_ok_iff.mp guarded
    obtain ⟨_, allocated, guarded⟩ := Guard.bind_ok_iff.mp guarded
    obtain ⟨_, currency, guarded⟩ := Guard.bind_ok_iff.mp guarded
    cases guarded
    unfold assertMilestoneAllocationWithinAgreement at allocated
    obtain ⟨proposed, parsed, allocated⟩ := Guard.bind_ok_iff.mp allocated
    obtain ⟨total, parsed', allocated⟩ := Guard.bind_ok_iff.mp allocated
    refine ⟨agreement, stored_ok.mp found, unfunded, rfl, rfl, ?_, rfl, amountChecks_of_parse parsed, ?_⟩
    · unfold assertCurrencyMatchesAgreement at currency
      split at currency
      · cases currency
      · next same => exact not_not.mp same
    · have sum := sumIntegerAmounts_ok summed
      rw [List.map_map] at sum
      rw [parsePositiveIntegerAmount_value parsed, parsePositiveIntegerAmount_value parsed', sum] at allocated
      split at allocated
      · cases allocated
      · next within => exact Nat.not_lt.mp within

theorem agreementForApp_ok {id : RowId} {agreement : Agreement} (found : db.agreementForApp appId id = some agreement) :
    db.agreements.get id = some agreement ∧ agreement.appId = appId ∧ agreement.id = id := by
  obtain ⟨stored, owned⟩ := Option.filter_eq_some_iff.mp found
  exact ⟨stored, of_decide_eq_true owned, Table.key_of_get stored⟩

theorem milestoneForApp_ok {id : RowId} {milestone : Milestone} (found : db.milestoneForApp appId id = some milestone) :
    db.milestones.get id = some milestone ∧ milestone.appId = appId ∧ milestone.id = id := by
  obtain ⟨stored, owned⟩ := Option.filter_eq_some_iff.mp found
  exact ⟨stored, of_decide_eq_true owned, Table.key_of_get stored⟩

theorem milestoneWithin_ok {milestoneId : RowId} {agreement : Agreement} {message : String} {milestone : Milestone}
    (guarded : milestoneWithin appId milestoneId agreement message db = .ok milestone) :
    db.milestoneForApp appId milestoneId = some milestone ∧ milestone.agreementId = agreement.id := by
  unfold milestoneWithin at guarded
  split at guarded
  · next stored found =>
    split at guarded
    · cases guarded
    · next same =>
      cases guarded
      exact ⟨found, not_not.mp same⟩
  · cases guarded

/-- Without the row itself the other milestones allocate no more than the guard has counted. -/
theorem allocated_le (row : Milestone) :
    ((db.milestones.rows.filter fun other => other.appId = row.appId && other.agreementId = row.agreementId
        && other.id ≠ row.id).map fun other => amountValue other.amount).sum ≤
      ((db.milestones.rows.filter fun other => other.agreementId = row.agreementId && other.appId = row.appId).map
        fun other => amountValue other.amount).sum := by
  apply List.Sublist.sum_le_sum
  · apply List.Sublist.map
    apply List.monotone_filter_right
    intro other
    simp only [Bool.and_eq_true, decide_eq_true_eq]
    rintro ⟨⟨app, agreement⟩, -⟩
    exact ⟨agreement, app⟩
  · intro amount _
    exact Nat.zero_le amount

theorem milestoneStatements_iff (req : RequestContext) (now : Nat) (settings : Settings) (agreementId : RowId)
    (input : CreateMilestoneInput) {statements : List Statement}
    (guarded : (FinancialRequest.createMilestone agreementId input).statements settings req now db = .ok statements) :
    acceptedAll db statements = (FinancialRequest.createMilestone agreementId input).fits req db := by
  obtain ⟨row, passed, written⟩ := Guard.bind_ok_iff.mp guarded
  rw [Guard.pure_ok_iff] at written
  subst written
  obtain ⟨agreement, found, status, app, within, currency, order, amount, allocation⟩ := milestoneRow_ok passed
  obtain ⟨stored, owned, -⟩ := agreementForApp_ok found
  have allocated := @allocated_le db row
  rw [app, within] at allocated
  have enforced : enforceMilestoneAllocation row db = true := by
    unfold enforceMilestoneAllocation
    rw [app, within, stored, Option.filter_some, if_pos (decide_eq_true owned)]
    simp only [currency, decide_true, Bool.true_and, decide_eq_true_eq]
    omega
  have frozen : (!membershipFrozen row db) =
      (decide (agreement.settlementStatus = .unfunded) && agreement.fundingConfirmedAt.isNone) := by
    have others : agreement.status ∉ [AgreementStatus.funded, .inProgress, .proofSubmitted, .underReview, .approved,
        .releasePending, .released, .disputed, .refunded] := by
      intro member
      apply status
      simp only [List.mem_cons, List.not_mem_nil, or_false] at member ⊢
      tauto
    unfold membershipFrozen
    rw [within, stored, Option.any_some, decide_eq_false others, Bool.or_false, Bool.not_or, decide_not,
      Bool.not_not, Option.not_isSome]
  simp only [acceptedAll, Statement.accepted, Milestone.checks, amount, order, enforced, frozen, FinancialRequest.fits,
    stored, Option.all_some, Bool.true_and, Bool.and_true]

theorem assertCurrency_ok {currency agreementCurrency : String} {done : Unit}
    (passed : assertCurrencyMatchesAgreement currency agreementCurrency = .ok done) : currency = agreementCurrency := by
  unfold assertCurrencyMatchesAgreement at passed
  split at passed
  · cases passed
  · next same => exact not_not.mp same

theorem assertWithinScope_ok {escrowAmount scopeAmount : String} {scope : AmountScope} {exact : Bool} {done : Unit}
    (passed : assertEscrowAmountWithinScope escrowAmount scopeAmount scope exact = .ok done) :
    amountChecks escrowAmount = true ∧ amountValue escrowAmount ≤ amountValue scopeAmount ∧
      (exact = true → amountValue escrowAmount = amountValue scopeAmount) := by
  unfold assertEscrowAmountWithinScope at passed
  obtain ⟨amount, parsed, passed⟩ := Guard.bind_ok_iff.mp passed
  obtain ⟨limit, parsed', passed⟩ := Guard.bind_ok_iff.mp passed
  rw [parsePositiveIntegerAmount_value parsed, parsePositiveIntegerAmount_value parsed'] at passed
  by_cases different : exact = true ∧ amountValue escrowAmount ≠ amountValue scopeAmount
  · rw [if_pos different] at passed
    cases passed
  · by_cases exceeds : amountValue escrowAmount > amountValue scopeAmount
    · rw [if_neg different, if_pos exceeds] at passed
      cases passed
    · refine ⟨amountChecks_of_parse parsed, Nat.not_lt.mp exceeds, ?_⟩
      intro strict
      by_contra other
      exact different ⟨strict, other⟩

variable {req : RequestContext} {input : CreateEscrowInput}

/-- The scope check of the service is the trigger on the escrow. -/
theorem escrowScope_ok {milestone : Option Milestone} (guarded : escrowScope req.appId input db = .ok milestone) :
    amountChecks input.amount = true ∧ enforceEscrowScopeAmount (newEscrow req input) db = true := by
  unfold escrowScope at guarded
  obtain ⟨agreement, found, guarded⟩ := Guard.bind_ok_iff.mp guarded
  obtain ⟨stored, owned, key⟩ := agreementForApp_ok (stored_ok.mp found)
  have read : (db.agreements.get (newEscrow req input).agreementId).filter
      (fun agreement => agreement.appId = (newEscrow req input).appId) = some agreement := by
    have same : (newEscrow req input).agreementId = input.agreementId := rfl
    rw [same, stored, Option.filter_some]
    exact if_pos (decide_eq_true owned)
  have milestoneId : (newEscrow req input).milestoneId = input.milestoneId := rfl
  unfold enforceEscrowScopeAmount
  rw [read, milestoneId]
  dsimp only
  cases narrow : input.milestoneId with
  | some id =>
    simp only [narrow] at guarded
    obtain ⟨row, within, guarded⟩ := Guard.bind_ok_iff.mp guarded
    obtain ⟨_, currency, guarded⟩ := Guard.bind_ok_iff.mp guarded
    obtain ⟨_, amount, -⟩ := Guard.bind_ok_iff.mp guarded
    obtain ⟨found, inside⟩ := milestoneWithin_ok within
    obtain ⟨there, app, -⟩ := milestoneForApp_ok found
    obtain ⟨checks, le, exact⟩ := assertWithinScope_ok amount
    have same : row.appId = (newEscrow req input).appId ∧ row.agreementId = (newEscrow req input).agreementId :=
      ⟨app, inside.trans key⟩
    have equal := assertCurrency_ok currency
    refine ⟨checks, ?_⟩
    dsimp only
    rw [there, Option.filter_some, if_pos (by simpa using same)]
    simp only [newEscrow, equal, le, decide_true, Bool.true_and, Bool.or_eq_true, decide_eq_true_eq]
    by_cases rail : input.rail = .ckb
    · exact .inr (exact (decide_eq_true rail))
    · exact .inl rail
  | none =>
    simp only [narrow] at guarded
    obtain ⟨_, currency, guarded⟩ := Guard.bind_ok_iff.mp guarded
    obtain ⟨_, amount, -⟩ := Guard.bind_ok_iff.mp guarded
    obtain ⟨checks, le, -⟩ := assertWithinScope_ok amount
    have equal := assertCurrency_ok currency
    refine ⟨checks, ?_⟩
    simp only [newEscrow, equal, le, decide_true, Bool.true_and]

theorem escrowRow_ok {row : Escrow} (guarded : escrowRow req input db = .ok row) :
    row = newEscrow req input ∧
      ∀ other ∈ db.escrows, other.scope = row.scope → other.status.terminal = true := by
  unfold escrowRow at guarded
  obtain ⟨_, _, guarded⟩ := Guard.bind_ok_iff.mp guarded
  split at guarded
  · cases guarded
  · split at guarded
    · cases guarded
    · next free =>
      cases guarded
      refine ⟨rfl, ?_⟩
      intro other member same
      have absent := Table.last_none (Option.not_isSome_iff_eq_none.mp free) member
      have scope : other.scope = input.scope req.appId := same
      simpa [scope] using absent

/-- No other active escrow: the index on active escrows has room for the row. -/
theorem unclashed {row : Escrow}
    (free : ∀ other ∈ db.escrows, other.id ≠ row.id → other.scope = row.scope → other.status.terminal = true) :
    activeScopeClashes row db = false := by
  unfold activeScopeClashes
  rw [Bool.and_eq_false_iff]
  right
  rw [List.any_eq_false]
  intro other member
  simp only [Bool.and_eq_true, decide_eq_true_eq, Bool.not_eq_true', not_and, and_imp]
  intro different same
  rw [free other member different same]
  simp

end Guards

section Locking
variable {settings : Settings} {req : RequestContext} {input : CreateEscrowInput} {db : Db}

theorem hexText_encode {bytes : List UInt8} {digits : Nat} (size : bytes.length * 2 = digits) :
    isHexText digits (String.ofList ('0' :: 'x' :: Hex.encode bytes)) = true := by
  have lower : (Hex.encode bytes).all isHexDigit = true := by
    rw [List.all_eq_true]
    intro digit member
    rw [isHexDigit, (Hex.mem_encode member).1, Bool.true_or]
  simp [isHexText, size, lower]

/-- The columns of a commitment, as the check on CKB escrows wants them. -/
theorem createCommitment_columns {hashing : CkbHashing} {railConfig : CkbRailConfig} {input : CommitmentInput}
    {commitment : CkbEscrowCommitment} (accepted : createCommitment hashing railConfig input = .ok commitment) :
    isHexText 176 commitment.cellData = true ∧ commitment.contractVersion = 1 ∧ commitment.outputIndex = 0 ∧
      ∃ since < 2 ^ 56, commitment.refundTimeoutSince = toString since := by
  unfold createCommitment at accepted
  obtain ⟨amount, -, accepted⟩ := Guard.bind_ok_iff.mp accepted
  obtain ⟨clientScript, -, accepted⟩ := Guard.bind_ok_iff.mp accepted
  obtain ⟨workerScript, -, accepted⟩ := Guard.bind_ok_iff.mp accepted
  obtain ⟨since, sinceParsed, accepted⟩ := Guard.bind_ok_iff.mp accepted
  obtain ⟨clientHash, -, accepted⟩ := Guard.bind_ok_iff.mp accepted
  obtain ⟨workerHash, -, accepted⟩ := Guard.bind_ok_iff.mp accepted
  obtain ⟨lockArgs, -, accepted⟩ := Guard.bind_ok_iff.mp accepted
  obtain ⟨cellData, encoded, accepted⟩ := Guard.bind_ok_iff.mp accepted
  obtain ⟨-, accepted⟩ := Guard.reject_ok_iff.mp accepted
  have built := Guard.pure_ok_iff.mp accepted
  have sinceBound := parseRefundTimeoutSince_ok sinceParsed
  obtain ⟨index, _, indexParsed⟩ := encodeEscrowCellData_index encoded
  rw [encodeEscrowCellData_hashHex _ _ sinceBound indexParsed] at encoded
  have text := Except.ok.inj encoded
  subst built
  refine ⟨?_, rfl, rfl, since, sinceBound, rfl⟩
  rw [← text]
  apply hexText_encode
  rw [cellDataLayout_length Contract.Lock.VERSION _ _ _ _ (LittleEndian.toBytes_length 4 index) (LittleEndian.toBytes_length 8 since)]
  rfl

theorem isDigits_toString (value : Nat) : isDigits (toString value) = true := by
  have letters := toString_digits value
  have nonempty : toString value ≠ "" := by
    intro empty
    have absent : Nat.toDigits 10 value ≠ [] := Nat.toDigits_ne_nil
    rw [Nat.toString_eq_ofList_toDigits] at empty
    exact absent (String.ofList_injective empty)
  rw [isDigits, decide_eq_true nonempty, Bool.true_and, List.all_eq_true]
  exact letters

theorem prepareLock_ok {row : Escrow} {milestoneIndex : Option Nat} {commitment : CkbEscrowCommitment}
    (prepared : prepareLock settings row milestoneIndex = .ok commitment) :
    ∃ terms, createCommitment settings.hashing settings.railConfig terms = .ok commitment := by
  unfold prepareLock at prepared
  obtain ⟨-, prepared⟩ := Guard.reject_ok_iff.mp prepared
  obtain ⟨_, _, prepared⟩ := Guard.bind_ok_iff.mp prepared
  split at prepared
  · exact ⟨_, prepared⟩
  · cases prepared

/-- The hash that the rail gives a new lock. -/
def answeredHash (signedHash : String) (answer : Except Failure String) : String :=
  match answer with
  | .ok broadcastHash => broadcastHash
  | .error _ => signedHash

/-- What the schema promises about the rail and the network of an escrow. -/
theorem createEscrowSchema_rail (parsed : createEscrowSchema input = true) :
    railNetworkCheck input.rail input.network = true ∧
      (input.rail = .ckb → input.currency = "CKB" ∧ input.milestoneId.isSome = true) := by
  simp only [createEscrowSchema, Bool.and_eq_true] at parsed
  obtain ⟨⟨-, network⟩, terms⟩ := parsed
  cases rail : input.rail with
  | ckb =>
    rw [rail] at network terms
    simp at network terms
    refine ⟨?_, fun _ => ⟨terms.1.1.1.1, terms.1.1.1.2⟩⟩
    cases net : input.network <;> simp_all [railNetworkCheck]
  | _ =>
    rw [rail] at network
    simp at network
    rw [network]
    exact ⟨rfl, nofun⟩

/-- The new row passes its checks: it is not committed to a cell yet. -/
theorem newEscrow_checks (parsed : createEscrowSchema input = true) (amount : amountChecks input.amount = true) :
    (newEscrow req input).checks = true := by
  obtain ⟨network, terms⟩ := createEscrowSchema_rail parsed
  have scope : ckbScopeCheck (newEscrow req input) = true := by
    by_cases rail : input.rail = .ckb
    · obtain ⟨currency, narrow⟩ := terms rail
      simp [ckbScopeCheck, newEscrow, currency, narrow]
    · simp [ckbScopeCheck, newEscrow, rail]
  have fields : (newEscrow req input).amount = input.amount ∧ (newEscrow req input).rail = input.rail ∧
      (newEscrow req input).network = input.network := ⟨rfl, rfl, rfl⟩
  have commitment : ckbCommitmentCheck (newEscrow req input) = true := by simp [ckbCommitmentCheck, newEscrow]
  simp [Escrow.checks, fields, amount, network, commitment, scope]
  simp [newEscrow]

/-- The locked row passes its checks exactly when the hash of its lock has the form of one. -/
theorem locked_checks (parsed : createEscrowSchema input = true) (amount : amountChecks input.amount = true)
    {milestoneIndex : Option Nat} {signedHash : String} {answer : Except Failure String}
    {result : EscrowAdapterResult}
    (locked : lockedBy settings (newEscrow req input) milestoneIndex signedHash answer = .ok result) :
    (escrowLockedBy result (newEscrow req input) (newEscrow req input)).checks =
      (input.rail ≠ .ckb || isHexText 64 (answeredHash signedHash answer)) := by
  obtain ⟨network, terms⟩ := createEscrowSchema_rail parsed
  unfold lockedBy at locked
  by_cases rail : input.rail = .ckb
  · have own : (newEscrow req input).rail = .ckb := rail
    obtain ⟨currency, narrow⟩ := terms rail
    rw [if_pos own, Guard.map_ok_iff] at locked
    obtain ⟨commitment, prepared, same⟩ := locked
    obtain ⟨_, created⟩ := prepareLock_ok prepared
    obtain ⟨cellData, version, index, since, bound, text⟩ := createCommitment_columns created
    subst same
    have timeout : amountValue (toString since) ≤ 72057594037927935 := by
      rw [amountValue_toString]
      exact Nat.le_of_lt_succ bound
    have committed : (lockResult commitment signedHash answer).status ≠ .notCreated := by
      cases answer with
      | ok hash =>
        dsimp only [lockResult]
        split <;> exact EscrowStatus.noConfusion
      | error error => exact EscrowStatus.noConfusion
    have hash : (lockResult commitment signedHash answer).txHash = some (answeredHash signedHash answer) := by
      cases answer <;> rfl
    generalize row : escrowLockedBy (lockResult commitment signedHash answer) (newEscrow req input)
      (newEscrow req input) = updated
    have commitmentCheck : ckbCommitmentCheck updated = isHexText 64 (answeredHash signedHash answer) := by
      have columns : updated.lockTxHash = some (answeredHash signedHash answer) ∧
          updated.cellData = some commitment.cellData ∧ updated.contractVersion = some commitment.contractVersion ∧
          updated.refundTimeoutSince = some commitment.refundTimeoutSince := by
        rw [← row]
        exact ⟨hash, rfl, rfl, rfl⟩
      have scripts : updated.lockScriptJson.isSome = true ∧ updated.clientLockScriptJson.isSome = true ∧
          updated.workerLockScriptJson.isSome = true := by
        rw [← row]
        exact ⟨rfl, rfl, rfl⟩
      have terms : updated.rail = .ckb ∧ updated.currency = "CKB" ∧ updated.status ≠ .notCreated := by
        rw [← row]
        exact ⟨rail, currency, committed⟩
      simp only [ckbCommitmentCheck, columns, scripts, terms, text, cellData, version, Option.all_some,
        isDigits_toString, timeout]
      simp
    have scope : ckbScopeCheck updated = true := by
      have terms : updated.currency = "CKB" ∧ updated.milestoneId.isSome = true := by
        rw [← row]
        exact ⟨currency, narrow⟩
      simp [ckbScopeCheck, terms]
    have kept : updated.amount = input.amount ∧ updated.rail = input.rail ∧ updated.network = input.network := by
      rw [← row]
      exact ⟨rfl, rfl, rfl⟩
    have numbers : updated.lockOutputIndex = some 0 ∧ updated.contractVersion = some 1 := by
      rw [← row, ← index, ← version]
      exact ⟨rfl, rfl⟩
    rw [rail] at network
    simp only [Escrow.checks, kept, amount, network, commitmentCheck, scope, numbers, rail, Option.all_some]
    simp [INTEGER_MAX]
  · have own : (newEscrow req input).rail ≠ .ckb := rail
    rw [if_neg own] at locked
    cases locked
    simp [Escrow.checks, ckbCommitmentCheck, ckbScopeCheck, escrowLockedBy, mockLock, newEscrow, amount, network, rail]

/-- A transaction with the terms of its stored escrow passes the trigger. -/
theorem enforceTransaction_own {transaction : Store.Transaction} {escrow : Escrow}
    (stored : db.escrows.get escrow.id = some escrow) (own : transaction.escrowId = some escrow.id)
    (scope : transaction.appId = escrow.appId ∧ transaction.agreementId = some escrow.agreementId ∧
      transaction.milestoneId = escrow.milestoneId)
    (terms : transaction.rail = escrow.rail ∧ transaction.network = escrow.network ∧
      transaction.amount = escrow.amount ∧ transaction.currency = escrow.currency) :
    enforceTransactionEscrowScope transaction db = true := by
  unfold enforceTransactionEscrowScope
  rw [own]
  dsimp only
  rw [stored, scope.1, Option.filter_some, if_pos (decide_eq_true rfl)]
  simp [scope, terms]

theorem escrow_put (row : Escrow) : (applyWrite (.escrow row) db).escrows.get row.id = some row :=
  Table.get_put_self row db.escrows

/-- The four statements of the creation of an escrow: only the last check of the locked row is open. -/
theorem escrowStatements_iff (now : Nat) (signedHash : String) (answer : Except Failure String)
    (parsed : createEscrowSchema input = true) {statements : List Statement}
    (guarded : (FinancialRequest.createEscrow input signedHash answer).statements settings req now db =
      .ok statements) :
    acceptedAll db statements = (FinancialRequest.createEscrow input signedHash answer).fits req db := by
  obtain ⟨milestone, inScope, guarded⟩ := Guard.bind_ok_iff.mp guarded
  obtain ⟨row, reserved, guarded⟩ := Guard.bind_ok_iff.mp guarded
  obtain ⟨result, locked, written⟩ := Guard.bind_ok_iff.mp guarded
  rw [Guard.pure_ok_iff] at written
  subst written
  obtain ⟨rfl, free⟩ := escrowRow_ok reserved
  obtain ⟨amount, enforced⟩ := @escrowScope_ok db req _ _ inScope
  have inserted : (newEscrow req input).checks = true := newEscrow_checks parsed amount
  have updated := locked_checks parsed amount locked
  obtain ⟨network, -⟩ := createEscrowSchema_rail parsed
  generalize created : newEscrow req input = row at *
  have terms : row.amount = input.amount ∧ row.rail = input.rail ∧ row.network = input.network := by
    rw [← created]
    exact ⟨rfl, rfl, rfl⟩
  have room : activeScopeClashes row db = false := unclashed fun other member _ same => free other member same
  have reserves : (newTransaction ⟨req.request, 1⟩ row .lock).checks = true := by
    rw [Transaction.checks, Bool.and_eq_true]
    refine ⟨?_, ?_⟩
    · rw [← amount, ← terms.1]
      rfl
    · rw [← network, ← terms.2.1, ← terms.2.2]
      rfl
  generalize transacted : newTransaction ⟨req.request, 1⟩ row .lock = transaction at *
  have ofRow : transaction.escrowId = some row.id ∧ (transaction.appId = row.appId ∧
      transaction.agreementId = some row.agreementId ∧ transaction.milestoneId = row.milestoneId) ∧
      transaction.rail = row.rail ∧ transaction.network = row.network ∧ transaction.amount = row.amount ∧
      transaction.currency = row.currency := by
    rw [← transacted]
    exact ⟨rfl, ⟨rfl, rfl, rfl⟩, rfl, rfl, rfl, rfl⟩
  have insertion := enforceTransaction_own (@escrow_put db row) ofRow.1 ofRow.2.1 ofRow.2.2
  -- the later statements see the row where the first one has put it
  have between : (applyWrite (.transaction transaction) (applyWrite (.escrow row) db)).escrows.get row.id = some row :=
    @escrow_put db row
  have stays : activeScopeClashes (escrowLockedBy result row row)
      (applyWrite (.transaction transaction) (applyWrite (.escrow row) db)) = false := by
    apply unclashed
    intro other member different same
    rcases Table.mem_put.mp member with rfl | ⟨old, -⟩
    · exact absurd rfl different
    · exact free other old same
  have rewritten := @enforceTransaction_own (applyWrite (.escrow (escrowLockedBy result row row))
      (applyWrite (.transaction transaction) (applyWrite (.escrow row) db)))
    (transactionLockedBy (escrowLockedBy result row row) result.status now transaction) (escrowLockedBy result row row)
    (Table.get_put_self (escrowLockedBy result row row) _) ofRow.1 ofRow.2.1 ofRow.2.2
  have kept : (transactionLockedBy (escrowLockedBy result row row) result.status now transaction).checks =
      transaction.checks := rfl
  have id : (escrowLockedBy result row row).id = row.id := rfl
  have same : (escrowLockedBy result row row).scope = row.scope ∧
      (escrowLockedBy result row row).amount = row.amount ∧
      (escrowLockedBy result row row).currency = row.currency := ⟨rfl, rfl, rfl⟩
  simp only [acceptedAll, Statement.accepted, Statement.write, inserted, room, enforced, reserves, insertion, updated,
    stays, id, between, same, rewritten, kept, Option.all_some, FinancialRequest.fits]
  cases answer <;> simp [answeredHash]

end Locking

section Resolving
variable {appId : String} {db : Db} {input : ResolveDisputeInput}

/-- The check of a split leaves the one funded escrow that the trigger looks for. -/
theorem splitCheck_ok {agreement : Agreement} {milestone : Milestone} {done : Unit}
    (split : input.resolutionType = .split) (passed : splitCheck appId agreement milestone input db = .ok done) :
    ∃ escrow ∈ db.escrows, escrow.scope = ⟨appId, agreement.id, some milestone.id⟩ ∧ escrow.status = .funded ∧
      amountValue (input.workerAmount.getD "undefined") ≤ amountValue escrow.amount ∧
      amountValue (input.clientAmount.getD "undefined") ≤ amountValue escrow.amount ∧
      amountValue (input.workerAmount.getD "undefined") + amountValue (input.clientAmount.getD "undefined") =
        amountValue escrow.amount := by
  unfold splitCheck at passed
  rw [if_pos split] at passed
  split at passed
  · next escrow found =>
    obtain ⟨member, held⟩ := Table.last_some found
    simp only [Bool.and_eq_true, decide_eq_true_eq] at held
    by_cases funded : escrow.status = .funded
    · rw [if_neg (not_not.mpr funded)] at passed
      unfold assertSettlementSplit at passed
      obtain ⟨worker, workerParsed, passed⟩ := Guard.bind_ok_iff.mp passed
      obtain ⟨client, clientParsed, passed⟩ := Guard.bind_ok_iff.mp passed
      obtain ⟨settlement, settlementParsed, passed⟩ := Guard.bind_ok_iff.mp passed
      rw [parseNonNegative_value workerParsed, parseNonNegative_value clientParsed,
        parsePositiveIntegerAmount_value settlementParsed] at passed
      by_cases exceeds : amountValue (input.workerAmount.getD "undefined") > amountValue escrow.amount ∨
          amountValue (input.clientAmount.getD "undefined") > amountValue escrow.amount
      · rw [if_pos exceeds] at passed
        cases passed
      · rw [if_neg exceeds] at passed
        by_cases unequal : amountValue (input.workerAmount.getD "undefined") +
            amountValue (input.clientAmount.getD "undefined") ≠ amountValue escrow.amount
        · rw [if_pos unequal] at passed
          cases passed
        · exact ⟨escrow, member, held.1, funded, by omega, by omega, not_not.mp unequal⟩
    · rw [if_pos funded] at passed
      cases passed
  · cases passed

theorem resolvedBy_checks (parsed : resolveDisputeSchema input = true) (dispute : Dispute) (now : Nat) :
    (dispute.resolvedBy input now).checks = true := by
  simp only [resolveDisputeSchema, Bool.and_eq_true] at parsed
  obtain ⟨⟨worker, client⟩, given⟩ := parsed
  by_cases split : input.resolutionType = .split
  · simp [Dispute.checks, Dispute.resolvedBy, split, worker, client]
  · rw [if_pos split, Bool.and_eq_true] at given
    simp [Dispute.checks, Dispute.resolvedBy, split, given]

/-- What the guards of a resolution have read. -/
theorem resolvable_ok {disputeId : RowId} {read : Resolvable}
    (guarded : resolvable appId disputeId input db = .ok read) :
    read.dispute.appId = appId ∧ db.agreements.get read.agreement.id = some read.agreement ∧
      read.dispute.agreementId = read.agreement.id ∧ db.milestones.get read.milestone.id = some read.milestone ∧
      read.dispute.milestoneId = read.milestone.id ∧
      splitCheck appId read.agreement read.milestone input db = .ok () := by
  unfold resolvable at guarded
  obtain ⟨dispute, disputed, guarded⟩ := Guard.bind_ok_iff.mp guarded
  obtain ⟨_, _, guarded⟩ := Guard.bind_ok_iff.mp guarded
  obtain ⟨agreement, agreed, guarded⟩ := Guard.bind_ok_iff.mp guarded
  obtain ⟨milestone, within, guarded⟩ := Guard.bind_ok_iff.mp guarded
  obtain ⟨_, split, guarded⟩ := Guard.bind_ok_iff.mp guarded
  obtain ⟨agreementPath, _, guarded⟩ := Guard.bind_ok_iff.mp guarded
  obtain ⟨milestonePath, _, guarded⟩ := Guard.bind_ok_iff.mp guarded
  rw [Guard.pure_ok_iff] at guarded
  subst guarded
  obtain ⟨_, owned⟩ := Option.filter_eq_some_iff.mp (stored_ok.mp disputed)
  obtain ⟨there, _, key⟩ := agreementForApp_ok (stored_ok.mp agreed)
  obtain ⟨there', _, key'⟩ := milestoneForApp_ok (milestoneWithin_ok within).1
  refine ⟨of_decide_eq_true owned, ?_, key.symm, ?_, key'.symm, split⟩
  · rw [key]
    exact there
  · rw [key']
    exact there'

/-- The split of the guards is the split of the trigger: a scope has one active escrow. -/
theorem resolvedBy_enforced (enforced : Enforced db) (parsed : resolveDisputeSchema input = true) {disputeId : RowId}
    {read : Resolvable} (guarded : resolvable appId disputeId input db = .ok read) (now : Nat) :
    enforceDisputeSettlementSplit (read.dispute.resolvedBy input now) db = true := by
  obtain ⟨owned, -, agreement, -, milestone, passed⟩ := resolvable_ok guarded
  unfold enforceDisputeSettlementSplit
  by_cases split : input.resolutionType = .split
  case neg => rw [if_pos (by simpa [Dispute.resolvedBy] using split)]
  obtain ⟨escrow, member, scope, funded, worker, client, sum⟩ := splitCheck_ok split passed
  simp only [resolveDisputeSchema, Bool.and_eq_true] at parsed
  have given := parsed.2
  rw [if_neg (not_not.mpr split), Bool.and_eq_true] at given
  obtain ⟨workerAmount, workerGiven⟩ := Option.isSome_iff_exists.mp given.1
  obtain ⟨clientAmount, clientGiven⟩ := Option.isSome_iff_exists.mp given.2
  rw [workerGiven, Option.getD_some] at worker sum
  rw [clientGiven, Option.getD_some] at client sum
  rw [if_neg (by simp [Dispute.resolvedBy, split])]
  have columns : (⟨(read.dispute.resolvedBy input now).appId, (read.dispute.resolvedBy input now).agreementId,
      some (read.dispute.resolvedBy input now).milestoneId⟩ : Scope) = escrow.scope := by
    rw [scope, ← owned, ← agreement, ← milestone]
    rfl
  rw [columns]
  cases found : db.escrows.first fun other => other.scope = escrow.scope && other.status = .funded with
  | none =>
    have absent := Table.first_none found member
    simp [funded] at absent
  | some other =>
    obtain ⟨member', held⟩ := Table.first_some found
    simp only [Bool.and_eq_true, decide_eq_true_eq] at held
    have same := enforced.scopes other member' escrow member held.1 (by rw [held.2]; rfl) (by rw [funded]; rfl)
    subst same
    simp [Dispute.resolvedBy, workerGiven, clientGiven, worker, client, sum]

/-- The parent moves along its path: no column of a check changes. -/
theorem acceptedAll_agreements {row : Agreement} (checks : row.checks = true)
    (stored : db.agreements.get row.id = some row) (now : Nat) (path : List AgreementStatus) (rest : List Statement) :
    ∃ after : Db, after.milestones = db.milestones ∧
      acceptedAll db ((Agreement.along now row path).map (fun row => .update (.agreement row)) ++ rest) =
        acceptedAll after rest := by
  induction path generalizing row db with
  | nil => exact ⟨db, rfl, rfl⟩
  | cons status path ih =>
    have kept : (row.transition status now).id = row.id ∧ (row.transition status now).amount = row.amount ∧
        (row.transition status now).currency = row.currency := by cases status <;> exact ⟨rfl, rfl, rfl⟩
    have checks' : (row.transition status now).checks = true := by
      rw [Agreement.checks, kept.2.1]
      exact checks
    have stored' : (applyWrite (.agreement (row.transition status now)) db).agreements.get
        (row.transition status now).id = some (row.transition status now) := Table.get_put_self _ db.agreements
    obtain ⟨after, same, accepted⟩ := ih checks' stored'
    refine ⟨after, same, ?_⟩
    rw [Agreement.along, List.map_cons, List.cons_append, acceptedAll, Statement.write, accepted]
    simp [Statement.accepted, checks', kept, stored]

theorem acceptedAll_milestones {row : Milestone} (checks : row.checks = true)
    (stored : db.milestones.get row.id = some row) (path : List MilestoneStatus) :
    acceptedAll db ((Milestone.along row path).map fun row => .update (.milestone row)) = true := by
  induction path generalizing row db with
  | nil => rfl
  | cons status path ih =>
    have checks' : ({ row with status := status } : Milestone).checks = true := checks
    have stored' : (applyWrite (.milestone { row with status := status }) db).milestones.get row.id =
        some { row with status := status } := Table.get_put_self ({ row with status := status } : Milestone) db.milestones
    have accepted := ih checks' stored'
    rw [Milestone.along, List.map_cons, acceptedAll]
    simp only [Statement.write, accepted, Bool.and_true]
    simp [Statement.accepted, checks', stored]

theorem resolutionStatements (reachable : Reachable db) (req : RequestContext) (now : Nat) (settings : Settings)
    (disputeId : RowId) (parsed : resolveDisputeSchema input = true) {statements : List Statement}
    (guarded : (FinancialRequest.resolveDispute disputeId input).statements settings req now db = .ok statements) :
    acceptedAll db statements = true := by
  obtain ⟨read, passed, written⟩ := Guard.bind_ok_iff.mp guarded
  rw [Guard.pure_ok_iff] at written
  subst written
  have enforced := reachable.enforced
  obtain ⟨-, agreement, -, milestone, -, -⟩ := resolvable_ok passed
  have checks := resolvedBy_checks parsed read.dispute now
  have split := resolvedBy_enforced enforced parsed passed now
  obtain ⟨after, same, accepted⟩ := @acceptedAll_agreements
    (applyWrite (.dispute (read.dispute.resolvedBy input now)) db) read.agreement
    (enforced.agreements _ (Table.mem_of_get agreement)) agreement now read.agreementPath
    ((Milestone.along read.milestone read.milestonePath).map fun row => .update (.milestone row))
  have stored : after.milestones.get read.milestone.id = some read.milestone := by
    rw [same]
    exact milestone
  have moved := acceptedAll_milestones (enforced.milestones _ (Table.mem_of_get milestone)) stored read.milestonePath
  rw [acceptedAll, Statement.write, accepted, moved]
  simp [Statement.accepted, checks, split]

end Resolving

/-- A request of the only app. -/
def caller : RequestContext := ⟨1, "app", ⟨"key", "hash"⟩, "request"⟩

/-- A draft agreement over 100 shannons. -/
def drafted : Agreement := agreementRow 0 "app" ⟨none, "100", "CKB"⟩

end PactAgent.Server
