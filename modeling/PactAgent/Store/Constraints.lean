import PactAgent.Common.Decimals
import PactAgent.Store.Repository

/-! The CHECK constraints and the triggers of the database on the rows of agreements,
milestones, escrows, transactions and disputes. A CHECK fails when it is false and passes
when it is NULL. -/

namespace PactAgent.Store
open PactAgent.Foundation PactAgent.Common PactAgent.Common.Amounts PactAgent.Rail.Builder PactAgent.Rail.Script

section Text

/-- `amount ~ '^[0-9]+$'`. -/
def isDigits (amount : String) : Bool := amount ≠ "" && amount.toList.all Char.isDigit

/-- `amount ~ '^[1-9][0-9]*$'`, the `amount_check` of each table. -/
def amountCheck (amount : String) : Bool :=
  match amount.toList with
  | [] => false
  | first :: rest => ('1' ≤ first && first ≤ '9') && rest.all fun digit => '0' ≤ digit && digit ≤ '9'

/-- The `amount_uint64_check` of each table. -/
def uint64Check (amount : String) : Bool :=
  !isDigits amount || amount.length < 20
    || amount.length = 20 && textLe amount.toList "18446744073709551615".toList

/-- The `amount_check` and the `amount_uint64_check`. -/
def amountChecks (amount : String) : Bool := isPositiveIntegerAmount amount && uint64Check amount

/-- The largest value of an INTEGER column. -/
def INTEGER_MAX : Nat := 2147483647

/-- The check on the text of an amount is the bound on its number. -/
theorem uint64Check_iff {amount : String} (positive : isPositiveIntegerAmount amount = true) :
    uint64Check amount = true ↔ amountValue amount ≤ MAX_SHANNONS := by
  obtain ⟨first, rest, letters, leading, digits⟩ := isPositiveIntegerAmount_digits positive
  have allDigits : isDigits amount = true := by
    have nonempty : amount ≠ "" := by
      rintro rfl
      cases letters
    simp [isDigits, nonempty, List.all_eq_true]
    exact digits
  have length : amount.length = rest.length + 1 := by
    rw [← String.length_toList, letters, List.length_cons]
  have upper := decimalValue_lt digits
  rw [String.length_toList, length] at upper
  have lower : 10 ^ rest.length ≤ amountValue amount := by
    unfold amountValue
    rw [letters, decimalValue_cons]
    have scaled := Nat.mul_le_mul_right (10 ^ rest.length) leading
    omega
  have top : decimalValue "18446744073709551615".toList = MAX_SHANNONS := by decide +kernel
  have topDigits : "18446744073709551615".toList.all Char.isDigit = true := by decide +kernel
  simp only [uint64Check, allDigits, Bool.not_true, Bool.false_or, Bool.or_eq_true, Bool.and_eq_true, decide_eq_true_eq]
  rcases Nat.lt_trichotomy amount.length 20 with short | exact | long
  · have bound : amountValue amount < 10 ^ 19 :=
      Nat.lt_of_lt_of_le upper (Nat.pow_le_pow_right (by decide) (by omega))
    have room : 10 ^ 19 ≤ MAX_SHANNONS := by decide
    constructor
    · intro _
      omega
    · intro _
      exact .inl short
  · have compared := textLe_iff digits (List.all_eq_true.mp topDigits) (by rw [String.length_toList, exact]; decide +kernel)
    rw [top] at compared
    rw [compared]
    constructor
    · rintro (short | ⟨-, le⟩)
      · omega
      · exact le
    · intro le
      exact .inr ⟨exact, le⟩
  · have bound : 10 ^ 20 ≤ amountValue amount :=
      Nat.le_trans (Nat.pow_le_pow_right (by decide) (by omega)) lower
    have room : MAX_SHANNONS < 10 ^ 20 := by decide
    constructor
    · rintro (short | ⟨same, -⟩) <;> omega
    · intro le
      omega

section Validators
variable {amount fieldName : String} {value : Nat}

theorem amountCheck_eq (amount : String) : amountCheck amount = isPositiveIntegerAmount amount := by
  have digit : ∀ letter : Char, ('0' ≤ letter && letter ≤ '9') = letter.isDigit := fun _ => rfl
  unfold amountCheck isPositiveIntegerAmount
  cases amount.toList with
  | nil => rfl
  | cons first rest => simp only [digit]

theorem amountChecks_iff (positive : isPositiveIntegerAmount amount = true) :
    amountChecks amount = true ↔ amountValue amount ≤ MAX_SHANNONS := by
  rw [amountChecks, positive, Bool.true_and]
  exact uint64Check_iff positive

theorem parsePositive_iff : parsePositiveIntegerAmount amount fieldName = .ok value ↔
    isPositiveIntegerAmount amount = true ∧ amountValue amount ≤ MAX_SHANNONS ∧ value = amountValue amount := by
  unfold parsePositiveIntegerAmount amountValue
  cases isPositiveIntegerAmount amount with
  | false => simp [throw, throwThe, MonadExceptOf.throw]
  | true =>
    by_cases large : decimalValue amount.toList > MAX_SHANNONS
    · simp [large, throw, throwThe, MonadExceptOf.throw, Nat.not_le.mpr large]
    · simp [large, pure, Except.pure, Nat.not_lt.mp large, eq_comm]

theorem amountChecks_of_parse (parsed : parsePositiveIntegerAmount amount fieldName = .ok value) :
    amountChecks amount = true := by
  obtain ⟨positive, bound, -⟩ := parsePositive_iff.mp parsed
  exact (amountChecks_iff positive).mpr bound

/-- The service takes an amount if and only if the database does, and the comparison of texts
in the check is the comparison of the numbers. -/
theorem amount_validators_agree :
    (∀ amount fieldName, (∃ value, parsePositiveIntegerAmount amount fieldName = .ok value) ↔
      amountCheck amount = true ∧ uint64Check amount = true) ∧
    (∀ amount, amountCheck amount = true → (uint64Check amount = true ↔
      amount.length < 20 ∨ amount.length = 20 ∧ textLe amount.toList "18446744073709551615".toList = true)) ∧
    (∀ first second, amountCheck first = true → amountCheck second = true → first.length = second.length →
      (textLe first.toList second.toList = true ↔ amountValue first ≤ amountValue second)) ∧
    (∀ amount, amountCheck amount = true → (uint64Check amount = true ↔ amountValue amount ≤ 2 ^ 64 - 1)) := by
  have digits : ∀ {amount : String}, amountCheck amount = true → ∀ digit ∈ amount.toList, digit.isDigit = true := by
    intro amount checked
    rw [amountCheck_eq] at checked
    obtain ⟨_, _, -, -, digits⟩ := isPositiveIntegerAmount_digits checked
    exact digits
  refine ⟨?_, ?_, ?_, ?_⟩
  · intro amount fieldName
    rw [amountCheck_eq]
    constructor
    · rintro ⟨value, parsed⟩
      obtain ⟨positive, bound, -⟩ := parsePositive_iff.mp parsed
      exact ⟨positive, (uint64Check_iff positive).mpr bound⟩
    · rintro ⟨positive, check⟩
      exact ⟨amountValue amount, parsePositive_iff.mpr ⟨positive, (uint64Check_iff positive).mp check, rfl⟩⟩
  · intro amount checked
    have numeric : isDigits amount = true := by
      simp only [isDigits, Bool.and_eq_true, decide_eq_true_eq, List.all_eq_true]
      refine ⟨?_, digits checked⟩
      rintro rfl
      cases checked
    simp only [uint64Check, numeric, Bool.not_true, Bool.false_or, Bool.or_eq_true, Bool.and_eq_true, decide_eq_true_eq]
  · intro first second checked checked' same
    exact textLe_iff (digits checked) (digits checked') (by rw [String.length_toList, String.length_toList, same])
  · intro amount checked
    rw [amountCheck_eq] at checked
    exact uint64Check_iff checked

theorem amount_validators_agree_at :
    (uint64Check "18446744073709551616" = true ↔ amountValue "18446744073709551616" ≤ 2 ^ 64 - 1) ∧
    (textLe "10".toList "99".toList = true ↔ amountValue "10" ≤ amountValue "99") :=
  ⟨amount_validators_agree.2.2.2 _ (by decide +kernel),
    amount_validators_agree.2.2.1 _ _ (by decide +kernel) (by decide +kernel) (by decide +kernel)⟩

end Validators

end Text

section Checks

def Agreement.checks (row : Agreement) : Bool := amountChecks row.amount

def Milestone.checks (row : Milestone) : Bool := amountChecks row.amount && row.sortOrder ≤ INTEGER_MAX

/-- `Escrow_rail_network_check` and `Transaction_rail_network_check`. -/
def railNetworkCheck : Rail → Network → Bool
  | .mock, .sandbox | .manual, .sandbox | .ckb, .testnet | .ckb, .mainnet => true
  | _, _ => false

def isHexDigit (digit : Char) : Bool := Hex.isLowerDigit digit || ('A' ≤ digit && digit ≤ 'F')

/-- `'^0x[0-9a-fA-F]{n}$'`. -/
def isHexText (digits : Nat) (value : String) : Bool :=
  match value.toList with
  | '0' :: 'x' :: rest => rest.length = digits && rest.all isHexDigit
  | _ => false

/-- `Escrow_ckb_commitment_check`. -/
def ckbCommitmentCheck (row : Escrow) : Bool :=
  row.rail ≠ .ckb || row.status = .notCreated ||
    row.currency = "CKB" && row.lockTxHash.all (isHexText 64) && row.lockScriptJson.isSome
      && row.clientLockScriptJson.isSome && row.workerLockScriptJson.isSome && row.cellData.all (isHexText 176)
      && row.contractVersion.all (· = 1)
      && row.refundTimeoutSince.all (fun since => isDigits since && amountValue since ≤ 72057594037927935)

/-- `Escrow_ckb_scope_check`. -/
def ckbScopeCheck (row : Escrow) : Bool := row.rail ≠ .ckb || row.milestoneId.isSome && row.currency = "CKB"

def Escrow.checks (row : Escrow) : Bool :=
  amountChecks row.amount && railNetworkCheck row.rail row.network && ckbCommitmentCheck row && ckbScopeCheck row
    && row.lockOutputIndex.all (· ≤ INTEGER_MAX) && row.contractVersion.all (· ≤ INTEGER_MAX)

def Transaction.checks (row : Transaction) : Bool :=
  amountChecks row.amount && railNetworkCheck row.rail row.network

/-- `Dispute_split_amounts_check`. -/
def Dispute.checks (row : Dispute) : Bool :=
  row.resolutionType ≠ some .split && row.workerAmount.isNone && row.clientAmount.isNone ||
    row.resolutionType.all (· = .split) && row.workerAmount.all isUnsignedDecimal
      && row.clientAmount.all isUnsignedDecimal

end Checks

section Triggers

/-- `agreement_funded` in the triggers of the clean-up migration. -/
def Agreement.isFunded (agreement : Agreement) : Bool :=
  agreement.settlementStatus ≠ .unfunded || agreement.fundingConfirmedAt.isSome ||
    agreement.status ∈ [AgreementStatus.funded, .inProgress, .proofSubmitted, .underReview, .approved,
      .releasePending, .released, .disputed, .refunded]

def enforceMilestoneAllocation (row : Milestone) (db : Db) : Bool :=
  match (db.agreements.get row.agreementId).filter fun agreement => agreement.appId = row.appId with
  | none => true
  | some agreement =>
      let others := db.milestones.rows.filter fun other =>
        other.appId = row.appId && other.agreementId = row.agreementId && other.id ≠ row.id
      let allocated := (others.map fun other => amountValue other.amount).sum
      row.currency = agreement.currency && allocated + amountValue row.amount ≤ amountValue agreement.amount

def enforceEscrowScopeAmount (row : Escrow) (db : Db) : Bool :=
  match (db.agreements.get row.agreementId).filter fun agreement => agreement.appId = row.appId with
  | none => false
  | some agreement =>
      row.currency = agreement.currency &&
        match row.milestoneId with
        | some milestoneId =>
            match (db.milestones.get milestoneId).filter fun milestone =>
                milestone.appId = row.appId && milestone.agreementId = row.agreementId with
            | none => false
            | some milestone => amountValue row.amount ≤ amountValue milestone.amount
                && (row.rail ≠ .ckb || amountValue row.amount = amountValue milestone.amount)
        | none => amountValue row.amount ≤ amountValue agreement.amount

def enforceTransactionEscrowScope (row : Transaction) (db : Db) : Bool :=
  match row.escrowId with
  | none => true
  | some escrowId =>
      match (db.escrows.get escrowId).filter fun escrow => escrow.appId = row.appId with
      | none => true
      | some escrow => row.agreementId = some escrow.agreementId && row.milestoneId = escrow.milestoneId
          && row.rail = escrow.rail && row.network = escrow.network && row.amount = escrow.amount
          && row.currency = escrow.currency

/-- A comparison with an amount that is NULL does not fail. -/
def enforceDisputeSettlementSplit (row : Dispute) (db : Db) : Bool :=
  if row.resolutionType ≠ some .split then true
  else
    match db.escrows.first fun escrow => escrow.scope = ⟨row.appId, row.agreementId, some row.milestoneId⟩
        && escrow.status = .funded with
    | none => false
    | some escrow =>
        let fundedAmount := amountValue escrow.amount
        row.workerAmount.all (fun worker => amountValue worker ≤ fundedAmount)
          && row.clientAmount.all (fun client => amountValue client ≤ fundedAmount)
          && row.workerAmount.all fun worker => row.clientAmount.all fun client =>
              amountValue worker + amountValue client = fundedAmount

end Triggers

/-- An INSERT or an UPDATE of one row. -/
inductive Statement
  | insert (write : Write)
  | update (write : Write)

def Statement.write : Statement → Write
  | .insert write | .update write => write

/-- Whether the database takes the statement: its CHECK constraints, the triggers that fire
and the index on active escrows. The columns of an update that a trigger names may be set to
what they are. -/
def Statement.accepted (db : Db) : Statement → Bool
  | .insert (.agreement row) => row.checks
  | .update (.agreement row) => row.checks && (db.agreements.get row.id).all fun old =>
      !old.isFunded || row.amount = old.amount && row.currency = old.currency
  | .insert (.milestone row) => row.checks && !membershipFrozen row db && enforceMilestoneAllocation row db
  | .update (.milestone row) => row.checks && (db.milestones.get row.id).all fun old =>
      row.agreementId = old.agreementId && row.appId = old.appId && row.amount = old.amount
        && row.currency = old.currency && row.sortOrder = old.sortOrder
  | .insert (.escrow row) => row.checks && !activeScopeClashes row db && enforceEscrowScopeAmount row db
  | .update (.escrow row) => row.checks && !activeScopeClashes row db && (db.escrows.get row.id).all fun old =>
      row.scope = old.scope && row.amount = old.amount && row.currency = old.currency
  | .insert (.transaction row) | .update (.transaction row) => row.checks && enforceTransactionEscrowScope row db
  | .insert (.dispute row) | .update (.dispute row) => row.checks && enforceDisputeSettlementSplit row db
  | _ => true

/-- The statements of a transaction, each on what the ones before it have made. -/
def acceptedAll : Db → List Statement → Bool
  | _, [] => true
  | db, statement :: statements => statement.accepted db && acceptedAll (applyWrite statement.write db) statements

/-- The states that accepted statements lead to. -/
inductive Reachable : Db → Prop
  | empty : Reachable Db.empty
  | next {db : Db} {statement : Statement} (reachable : Reachable db) (accepted : statement.accepted db = true) :
      Reachable (applyWrite statement.write db)

/-- What the constraints keep true of the stored rows. -/
structure Enforced (db : Db) : Prop where
  agreements : ∀ row ∈ db.agreements, row.checks = true
  milestones : ∀ row ∈ db.milestones, row.checks = true
  scopes : ∀ first ∈ db.escrows, ∀ second ∈ db.escrows, first.scope = second.scope →
    first.status.terminal = false → second.status.terminal = false → first = second

section Enforced
variable {db : Db}

theorem Enforced.agreement (enforced : Enforced db) {row : Agreement} (checks : row.checks = true) :
    Enforced (applyWrite (.agreement row) db) where
  agreements stored member := by
    rcases Table.mem_put.mp member with rfl | ⟨old, -⟩
    · exact checks
    · exact enforced.agreements stored old
  milestones := enforced.milestones
  scopes := enforced.scopes

theorem Enforced.milestone (enforced : Enforced db) {row : Milestone} (checks : row.checks = true) :
    Enforced (applyWrite (.milestone row) db) where
  agreements := enforced.agreements
  milestones stored member := by
    rcases Table.mem_put.mp member with rfl | ⟨old, -⟩
    · exact checks
    · exact enforced.milestones stored old
  scopes := enforced.scopes

theorem Enforced.escrow (enforced : Enforced db) {row : Escrow} (free : activeScopeClashes row db = false) :
    Enforced (applyWrite (.escrow row) db) where
  agreements := enforced.agreements
  milestones := enforced.milestones
  scopes := by
    have apart : ∀ other ∈ db.escrows, other.id ≠ row.id → row.scope = other.scope → row.status.terminal = false →
        other.status.terminal = false → False := by
      intro other member different same active active'
      simp only [activeScopeClashes, active, Bool.not_false, Bool.true_and, List.any_eq_false] at free
      exact free other member (by simp [different, same, active'])
    intro first member second member' same active active'
    rcases Table.mem_put.mp member with rfl | ⟨old, different⟩
    · rcases Table.mem_put.mp member' with rfl | ⟨old', different'⟩
      · rfl
      · exact (apart second old' different' same active active').elim
    · rcases Table.mem_put.mp member' with rfl | ⟨old', different'⟩
      · exact (apart first old different same.symm active' active).elim
      · exact enforced.scopes first old second old' same active active'

theorem Enforced.next (enforced : Enforced db) {statement : Statement} (accepted : statement.accepted db = true) :
    Enforced (applyWrite statement.write db) := by
  have removed : ∀ id, Enforced { db with escrows := db.escrows.remove id } := fun id =>
    ⟨enforced.agreements, enforced.milestones, fun first member second member' =>
      enforced.scopes first (Table.mem_remove.mp member).1 second (Table.mem_remove.mp member').1⟩
  have kept : Enforced db := enforced
  cases statement with
  | insert write =>
    cases write with
    | agreement row => exact enforced.agreement accepted
    | milestone row =>
      simp only [Statement.accepted, Bool.and_eq_true] at accepted
      exact enforced.milestone accepted.1.1
    | escrow row =>
      simp only [Statement.accepted, Bool.and_eq_true, Bool.not_eq_true'] at accepted
      exact enforced.escrow accepted.1.2
    | deleteEscrow row => exact removed row.id
    | _ => exact ⟨kept.agreements, kept.milestones, kept.scopes⟩
  | update write =>
    cases write with
    | agreement row =>
      simp only [Statement.accepted, Bool.and_eq_true] at accepted
      exact enforced.agreement accepted.1
    | milestone row =>
      simp only [Statement.accepted, Bool.and_eq_true] at accepted
      exact enforced.milestone accepted.1
    | escrow row =>
      simp only [Statement.accepted, Bool.and_eq_true, Bool.not_eq_true'] at accepted
      exact enforced.escrow accepted.1.2
    | deleteEscrow row => exact removed row.id
    | _ => exact ⟨kept.agreements, kept.milestones, kept.scopes⟩

theorem Reachable.enforced (reachable : Reachable db) : Enforced db := by
  induction reachable with
  | empty =>
    exact ⟨fun _ member => absurd member (Table.not_mem_empty _), fun _ member => absurd member (Table.not_mem_empty _),
      fun _ member => absurd member (Table.not_mem_empty _)⟩
  | next _ accepted enforced => exact enforced.next accepted

end Enforced

end PactAgent.Store
