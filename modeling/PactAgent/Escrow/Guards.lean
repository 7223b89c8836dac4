import PactAgent.Escrow.Services
import PactAgent.Store.Alone
import PactAgent.Store.Constraints
import PactAgent.Store.Lawful

/-! The guards of the requests that write financial rows, as functions of the database, and
the statements behind them. -/

namespace PactAgent.Escrow
open PactAgent.Common PactAgent.Common.Amounts PactAgent.Foundation PactAgent.Lifecycle PactAgent.Store
open PactAgent.Rail.Builder

section Schemas

def currencySchema (currency : String) : Bool := 2 ≤ currency.length && currency.length ≤ 12

def createAgreementSchema (input : CreateAgreementInput) : Bool :=
  isPositiveIntegerAmount input.totalAmount && currencySchema input.currency

def createMilestoneSchema (input : CreateMilestoneInput) : Bool :=
  isPositiveIntegerAmount input.amount && input.currency.all currencySchema && input.order.all (1 ≤ ·)

def createEscrowSchema (input : CreateEscrowInput) : Bool :=
  isPositiveIntegerAmount input.amount && currencySchema input.currency
    && input.refundTimeoutSince.all isUnsignedDecimal
    && (if input.rail = .ckb then input.network ≠ .sandbox else input.network = .sandbox)
    && (input.rail ≠ .ckb || input.currency = "CKB" && input.milestoneId.isSome && input.clientLockScript.isSome
      && input.workerLockScript.isSome && input.refundTimeoutSince.isSome)

def resolveDisputeSchema (input : ResolveDisputeInput) : Bool :=
  input.workerAmount.all isUnsignedDecimal && input.clientAmount.all isUnsignedDecimal
    && (if input.resolutionType ≠ .split then input.workerAmount.isNone && input.clientAmount.isNone
      else input.workerAmount.isSome && input.clientAmount.isSome)

end Schemas

section Guards

/-- A read that must find its row. -/
def stored {α : Type} (message code : String) : Option α → Except Failure α
  | some value => .ok value
  | none => .error (.app (notFound message code))

def agreementRow (request : Nat) (appId : String) (input : CreateAgreementInput) : Agreement :=
  { id := ⟨request, 0⟩
    appId
    externalReferenceId := input.externalReferenceId
    amount := input.totalAmount
    currency := input.currency
    status := .draft
    settlementStatus := .unfunded
    fundingConfirmedAt := none }

def lastOrder (appId : String) (agreementId : RowId) (db : Db) : Option Nat :=
  ((db.milestones.rows.filter fun row => row.agreementId = agreementId && row.appId = appId).map
    (·.sortOrder)).max?

/-- The order that a new milestone gets. -/
def milestoneOrder (appId : String) (agreementId : RowId) (input : CreateMilestoneInput) (db : Db) : Nat :=
  input.order.getD ((lastOrder appId agreementId db).getD 0 + 1)

/-- The milestone that the guards of `createMilestoneForAgreement` let through. -/
def milestoneRow (request : Nat) (appId : String) (agreementId : RowId) (input : CreateMilestoneInput) (db : Db) :
    Except Failure Milestone := do
  let agreement ← stored "Agreement not found." "agreement_not_found" (db.agreementForApp appId agreementId)
  if agreement.status ∈ [AgreementStatus.funded, .inProgress, .proofSubmitted, .underReview, .approved,
      .releasePending, .released, .refunded, .disputed] then
    throw (.app (invalidRequest "Funded agreement terms are immutable; milestones can no longer be added."
      "funded_agreement_immutable"))
  else
    let existingTotal ← sumIntegerAmounts
      ((db.milestones.rows.filter fun row => row.agreementId = agreementId && row.appId = appId).map (·.amount))
    assertMilestoneAllocationWithinAgreement existingTotal input.amount agreement.amount
    let currency := input.currency.getD agreement.currency
    assertCurrencyMatchesAgreement currency agreement.currency
    return { id := ⟨request, 0⟩
             appId
             agreementId
             externalReferenceId := input.externalReferenceId
             amount := input.amount
             currency
             sortOrder := milestoneOrder appId agreementId input db
             status := .pending }

def milestoneWithin (appId : String) (milestoneId : RowId) (agreement : Agreement) (message : String) (db : Db) :
    Except Failure Milestone :=
  match db.milestoneForApp appId milestoneId with
  | some milestone =>
      if milestone.agreementId ≠ agreement.id then .error (.app (notFound message "milestone_not_found"))
      else .ok milestone
  | none => .error (.app (notFound message "milestone_not_found"))

/-- The checks of `assertEscrowAgreementScope`. -/
def escrowScope (appId : String) (input : CreateEscrowInput) (db : Db) : Except Failure (Option Milestone) := do
  let agreement ← stored "Agreement not found." "agreement_not_found" (db.agreementForApp appId input.agreementId)
  match input.milestoneId with
  | some milestoneId => do
      let milestone ← milestoneWithin appId milestoneId agreement "Milestone not found for agreement." db
      assertCurrencyMatchesAgreement input.currency agreement.currency
      assertEscrowAmountWithinScope input.amount milestone.amount .milestone (input.rail = .ckb)
      return some milestone
  | none => do
      assertCurrencyMatchesAgreement input.currency agreement.currency
      assertEscrowAmountWithinScope input.amount agreement.amount .agreement (input.rail = .ckb)
      return none

def terminalEscrow (appId : String) (input : CreateEscrowInput) (db : Db) : Option Escrow :=
  match input.milestoneId with
  | some milestoneId =>
      db.escrows.first fun row => row.appId = appId && row.milestoneId = some milestoneId && row.status.terminal
  | none => db.escrows.first fun row => row.appId = appId && row.agreementId = input.agreementId &&
      row.milestoneId = none && row.status.terminal

def activeEscrow (scope : Scope) (db : Db) : Option Escrow :=
  db.escrows.last fun row => row.scope = scope && !row.status.terminal

/-- The escrow that the guards of `reserveEscrowCreation` let through. -/
def escrowRow (req : RequestContext) (input : CreateEscrowInput) (db : Db) : Except Failure Escrow := do
  let _ ← escrowScope req.appId input db
  if (terminalEscrow req.appId input db).isSome then
    throw (.app (invalidRequest "Cannot create a new escrow after the escrow scope reached a terminal state."
      "escrow_terminal_state_exists"))
  else if (activeEscrow (input.scope req.appId) db).isSome then throw activeEscrowExists
  else return newEscrow req input

def splitCheck (appId : String) (agreement : Agreement) (milestone : Milestone) (input : ResolveDisputeInput)
    (db : Db) : Except Failure Unit :=
  if input.resolutionType = .split then
    match activeEscrow ⟨appId, agreement.id, some milestone.id⟩ db with
    | some escrow =>
        if escrow.status ≠ .funded then .error checkSplit.splitRequiresFunded
        else assertSettlementSplit (input.workerAmount.getD "undefined") (input.clientAmount.getD "undefined")
          escrow.amount
    | none => .error checkSplit.splitRequiresFunded
  else .ok ()

/-- What the guards of `resolveDisputeForApp` have read, and the paths of the parents. -/
structure Resolvable where
  dispute : Dispute
  agreement : Agreement
  milestone : Milestone
  agreementPath : List AgreementStatus
  milestonePath : List MilestoneStatus

def resolvable (appId : String) (disputeId : RowId) (input : ResolveDisputeInput) (db : Db) :
    Except Failure Resolvable := do
  let dispute ← stored "Dispute not found." "dispute_not_found" (db.disputeForApp appId disputeId)
  assertDisputeResolvable dispute.status
  let agreement ← stored "Agreement not found." "agreement_not_found" (db.agreementForApp appId dispute.agreementId)
  let milestone ← milestoneWithin appId dispute.milestoneId agreement "Milestone not found for dispute." db
  splitCheck appId agreement milestone input db
  let agreementPath ← agreementPathForDisputeResolution agreement.status input.resolutionType
  let milestonePath ← milestonePathForDisputeResolution milestone.status input.resolutionType
  return ⟨dispute, agreement, milestone, agreementPath, milestonePath⟩

/-- The rows of an agreement along a path. -/
def Agreement.along (now : Nat) : Agreement → List AgreementStatus → List Agreement
  | _, [] => []
  | row, status :: path => row.transition status now :: Agreement.along now (row.transition status now) path

def Milestone.along : Milestone → List MilestoneStatus → List Milestone
  | _, [] => []
  | row, status :: path => { row with status := status } :: Milestone.along { row with status := status } path

end Guards

section Services
variable {α β : Type} {db : Db} {writes : List Write}

/-- Without another commit the checks of a service answer as a function of the database. -/
def Guarded (checks : Tx α) (guard : Db → Except Failure α) : Prop :=
  ∀ db writes result, Alone db checks writes result ↔
    result = (guard (Storage.view writes db)).map fun value => (value, writes)

theorem Guarded.stored (message code : String) (value : Option α) :
    Guarded (required message code value) fun _ => stored message code value := by
  intro db writes result
  cases value <;> exact Iff.rfl

theorem Guarded.ofExcept (check : Except Failure α) : Guarded (Program.ofExcept check) fun _ => check :=
  fun _ _ _ => alone_ofExcept

theorem Guarded.pure (value : α) : Guarded (pure value) fun _ => .ok value := fun _ _ _ => Iff.rfl

theorem Guarded.throw (error : Failure) : Guarded (throw error : Tx α) fun _ => .error error := fun _ _ _ => Iff.rfl

theorem Guarded.read (query : Query) (read : Db → α) : Guarded (readStatement query read) fun db => .ok (read db) :=
  fun _ _ _ => alone_read

theorem Guarded.alone {checks : Tx α} {guard : Db → Except Failure α} (guarded : Guarded checks guard)
    {rest : α → Tx β} {result : Except Failure (β × List Write)} :
    Alone db (checks >>= rest) writes result ↔
      match guard (Storage.view writes db) with
      | .ok value => Alone db (rest value) writes result
      | .error error => result = .error error := by
  rw [alone_bind]
  cases answered : guard (Storage.view writes db) with
  | ok value =>
    constructor
    · rintro (⟨other, middle, passed, onwards⟩ | ⟨error, failed, _⟩)
      · have same := (guarded _ _ _).mp passed
        rw [answered] at same
        cases same
        exact onwards
      · have same := (guarded _ _ _).mp failed
        rw [answered] at same
        cases same
    · intro onwards
      exact .inl ⟨value, writes, (guarded _ _ _).mpr (by rw [answered]; rfl), onwards⟩
  | error error =>
    constructor
    · rintro (⟨other, middle, passed, _⟩ | ⟨thrown, failed, same⟩)
      · have impossible := (guarded _ _ _).mp passed
        rw [answered] at impossible
        cases impossible
      · have here := (guarded _ _ _).mp failed
        rw [answered] at here
        cases here
        exact same
    · intro same
      exact .inr ⟨error, (guarded _ _ _).mpr (by rw [answered]; rfl), same⟩

theorem Guarded.bind {first : Tx α} {guard : Db → Except Failure α} {rest : α → Tx β}
    {guards : α → Db → Except Failure β} (head : Guarded first guard) (tail : ∀ value, Guarded (rest value) (guards value)) :
    Guarded (first >>= rest) fun db => guard db >>= fun value => guards value db := by
  intro db writes result
  rw [head.alone]
  dsimp only
  cases answered : guard (Storage.view writes db) with
  | ok value => exact tail value db writes result
  | error error => exact Iff.rfl

theorem milestoneOf_guarded (appId : String) (milestoneId : RowId) (agreement : Agreement) (message : String) :
    Guarded (milestoneOf appId milestoneId agreement message) (milestoneWithin appId milestoneId agreement message) := by
  intro db writes result
  refine Iff.trans (Guarded.read _ _).alone ?_
  dsimp only
  unfold milestoneWithin
  cases (Storage.view writes db).milestoneForApp appId milestoneId with
  | none => exact Iff.rfl
  | some milestone =>
    dsimp only
    split <;> exact Iff.rfl

theorem checkSplit_guarded (appId : String) (agreement : Agreement) (milestone : Milestone)
    (input : ResolveDisputeInput) :
    Guarded (checkSplit appId agreement milestone input) (splitCheck appId agreement milestone input) := by
  intro db writes result
  unfold checkSplit splitCheck
  by_cases split : input.resolutionType = .split
  · rw [if_pos split, if_pos split]
    refine Iff.trans (Guarded.read _ _).alone ?_
    dsimp only
    change _ ↔ result = (match activeEscrow ⟨appId, agreement.id, some milestone.id⟩ (Storage.view writes db) with
      | some escrow => _
      | none => _ : Except Failure Unit).map _
    unfold activeEscrow
    cases Table.last _ (Storage.view writes db).escrows with
    | none => exact Iff.rfl
    | some escrow =>
      dsimp only
      split
      · exact Iff.rfl
      · exact alone_ofExcept
  · rw [if_neg split, if_neg split]
    exact Iff.rfl

theorem assertEscrowAgreementScope_guarded (appId : String) (input : CreateEscrowInput) :
    Guarded (assertEscrowAgreementScope appId input) (escrowScope appId input) := by
  intro db writes result
  refine Iff.trans (Guarded.read _ _).alone ?_
  refine Iff.trans (Guarded.stored _ _ _).alone ?_
  unfold escrowScope
  cases (Storage.view writes db).agreementForApp appId input.agreementId with
  | none => exact Iff.rfl
  | some agreement =>
    dsimp only [Escrow.stored]
    cases input.milestoneId with
    | none =>
      exact ((Guarded.ofExcept _).bind fun _ => (Guarded.ofExcept _).bind fun _ => Guarded.pure none) db writes result
    | some milestoneId =>
      exact ((milestoneOf_guarded appId milestoneId agreement _).bind fun milestone =>
        (Guarded.ofExcept _).bind fun _ => (Guarded.ofExcept _).bind fun _ => Guarded.pure (some milestone))
        db writes result

variable {request : Nat} {appId : String} {reply : Except Failure (Reply × List Write)}

/-- The lock on an agreement changes nothing that is read behind it. -/
theorem alone_lock {agreementId : RowId} {rest : Bool → Tx β} {result : Except Failure (β × List Write)} :
    Alone db (lockAgreementForMilestoneAllocation appId agreementId >>= rest) writes result ↔
      match (Storage.view writes db).agreementForApp appId agreementId with
      | some _ => Alone db (rest true) (writes ++ [.lockAgreement agreementId]) result
      | none => Alone db (rest false) writes result := by
  rw [alone_bind]
  unfold lockAgreementForMilestoneAllocation
  simp only [alone_statement]
  cases found : (Storage.view writes db).agreementForApp appId agreementId with
  | none => simp [Except.map]
  | some row =>
    have key : row.id = agreementId := Table.key_of_get (Option.filter_eq_some_iff.mp found).1
    simp [Except.map, key]

/-- A new milestone is the one its guards let through, in an agreement that is locked by then. -/
theorem createMilestoneForAgreement_guarded {agreementId : RowId} {input : CreateMilestoneInput} :
    Alone db (createMilestoneForAgreement request appId agreementId input) writes reply ↔
      match milestoneRow request appId agreementId input (Storage.view writes db) with
      | .ok row => Alone db (do
          let created ← (createMilestone row).mapError fun error =>
            if error = .uniqueConstraint then
              .app (conflict "A milestone with this externalReferenceId or order already exists for the agreement."
                "milestone_already_exists")
            else error
          return .milestone created) (writes ++ [.lockAgreement agreementId]) reply
      | .error error => reply = .error error := by
  refine Iff.trans alone_lock ?_
  unfold milestoneRow
  have same : Storage.view (writes ++ [.lockAgreement agreementId]) db = Storage.view writes db := by
    rw [Storage.view_append]
    rfl
  cases found : (Storage.view writes db).agreementForApp appId agreementId with
  | none => exact Iff.rfl
  | some agreement =>
    dsimp only
    rw [if_neg (by decide)]
    refine Iff.trans (Guarded.read _ _).alone ?_
    rw [same, found]
    dsimp only
    refine Iff.trans (Guarded.stored _ _ _).alone ?_
    dsimp only [Escrow.stored]
    change _ ↔ match (if _ then _ else _ : Except Failure Milestone) with | .ok row => _ | .error error => _
    split
    · exact Iff.rfl
    · refine Iff.trans (Guarded.read _ _).alone ?_
      rw [same]
      dsimp only
      refine Iff.trans (Guarded.ofExcept _).alone ?_
      cases sumIntegerAmounts _ with
      | error error => exact Iff.rfl
      | ok existingTotal =>
        dsimp only
        refine Iff.trans (Guarded.ofExcept _).alone ?_
        change _ ↔ match (assertMilestoneAllocationWithinAgreement existingTotal input.amount agreement.amount >>= fun _ => _ :
          Except Failure Milestone) with | .ok row => _ | .error error => _
        cases assertMilestoneAllocationWithinAgreement existingTotal input.amount agreement.amount with
        | error error => exact Iff.rfl
        | ok _ =>
          dsimp only
          refine Iff.trans (Guarded.read _ _).alone ?_
          rw [same]
          dsimp only
          refine Iff.trans (Guarded.ofExcept _).alone ?_
          change _ ↔ match (assertCurrencyMatchesAgreement (input.currency.getD agreement.currency) agreement.currency >>=
            fun _ => _ : Except Failure Milestone) with | .ok row => _ | .error error => _
          cases assertCurrencyMatchesAgreement (input.currency.getD agreement.currency) agreement.currency with
          | error error => exact Iff.rfl
          | ok _ => exact Iff.rfl

/-- A dispute is resolved on what the guards have read. -/
theorem resolveDisputeForApp_guarded {disputeId : RowId} {input : ResolveDisputeInput} :
    Alone db (resolveDisputeForApp appId disputeId input) writes reply ↔
      match resolvable appId disputeId input (Storage.view writes db) with
      | .ok read => Alone db (do
          let resolved ← resolveDispute appId disputeId read.dispute.status input
          advanceAgreement appId read.agreement.id read.agreement.status read.agreementPath
          advanceMilestone appId read.milestone.id read.milestone.status read.milestonePath
          return .dispute resolved) writes reply
      | .error error => reply = .error error := by
  refine Iff.trans (Guarded.read _ _).alone ?_
  refine Iff.trans (Guarded.stored _ _ _).alone ?_
  unfold resolvable
  cases (Storage.view writes db).disputeForApp appId disputeId with
  | none => exact Iff.rfl
  | some dispute =>
    dsimp only [Escrow.stored]
    refine Iff.trans (Guarded.ofExcept _).alone ?_
    change _ ↔ match (assertDisputeResolvable dispute.status >>= fun _ => _ : Except Failure Resolvable) with
      | .ok read => _ | .error error => _
    cases assertDisputeResolvable dispute.status with
    | error error => exact Iff.rfl
    | ok _ =>
      refine Iff.trans (Guarded.read _ _).alone ?_
      refine Iff.trans (Guarded.stored _ _ _).alone ?_
      cases (Storage.view writes db).agreementForApp appId dispute.agreementId with
      | none => exact Iff.rfl
      | some agreement =>
        dsimp only [Escrow.stored]
        refine Iff.trans (milestoneOf_guarded appId dispute.milestoneId agreement _).alone ?_
        change _ ↔ match (milestoneWithin appId dispute.milestoneId agreement "Milestone not found for dispute."
          (Storage.view writes db) >>= fun _ => _ : Except Failure Resolvable) with | .ok read => _ | .error error => _
        cases milestoneWithin appId dispute.milestoneId agreement "Milestone not found for dispute."
          (Storage.view writes db) with
        | error error => exact Iff.rfl
        | ok milestone =>
          refine Iff.trans (checkSplit_guarded appId agreement milestone input).alone ?_
          change _ ↔ match (splitCheck appId agreement milestone input (Storage.view writes db) >>= fun _ => _ :
            Except Failure Resolvable) with | .ok read => _ | .error error => _
          cases splitCheck appId agreement milestone input (Storage.view writes db) with
          | error error => exact Iff.rfl
          | ok _ =>
            refine Iff.trans (Guarded.ofExcept _).alone ?_
            change _ ↔ match (agreementPathForDisputeResolution agreement.status input.resolutionType >>= fun _ => _ :
              Except Failure Resolvable) with | .ok read => _ | .error error => _
            cases agreementPathForDisputeResolution agreement.status input.resolutionType with
            | error error => exact Iff.rfl
            | ok agreementPath =>
              refine Iff.trans (Guarded.ofExcept _).alone ?_
              change _ ↔ match (milestonePathForDisputeResolution milestone.status input.resolutionType >>= fun _ => _ :
                Except Failure Resolvable) with | .ok read => _ | .error error => _
              cases milestonePathForDisputeResolution milestone.status input.resolutionType with
              | error error => exact Iff.rfl
              | ok milestonePath => exact Iff.rfl

/-- An escrow is reserved behind the claim of its request, once its guards let it through. -/
theorem reserveEscrowCreation_guarded {settings : Settings} {req : RequestContext} {input : CreateEscrowInput}
    {result : Except Failure (ReservedEscrowCreation × List Write)} :
    Alone db (reserveEscrowCreation settings req input) writes result ↔
      (∃ value middle, Alone db (reserveRequest settings req) writes (.ok (value, middle)) ∧
        match escrowScope req.appId input (Storage.view middle db) >>= fun milestone =>
            (escrowRow req input (Storage.view middle db)).map fun row => (milestone, row) with
        | .ok (milestone, row) => Alone db (do
            let created ← (createEscrow row).mapError fun error =>
              if error = .uniqueConstraint then activeEscrowExists else error
            let transaction ← createTransaction (newTransaction ⟨req.request, 1⟩ created .lock)
            return ⟨created, milestone.map (·.sortOrder), transaction.id⟩) middle result
        | .error error => result = .error error) ∨
        ∃ error, Alone db (reserveRequest settings req) writes (.error error) ∧ result = .error error := by
  refine Iff.trans alone_bind (or_congr ?_ Iff.rfl)
  refine exists_congr fun value => exists_congr fun middle => and_congr Iff.rfl ?_
  refine Iff.trans (assertEscrowAgreementScope_guarded req.appId input).alone ?_
  cases inScope : escrowScope req.appId input (Storage.view middle db) with
  | error error => exact Iff.rfl
  | ok milestone =>
    have guard : escrowRow req input (Storage.view middle db) =
        if (terminalEscrow req.appId input (Storage.view middle db)).isSome then
          throw (.app (invalidRequest "Cannot create a new escrow after the escrow scope reached a terminal state."
            "escrow_terminal_state_exists"))
        else if (activeEscrow (input.scope req.appId) (Storage.view middle db)).isSome then throw activeEscrowExists
        else .ok (newEscrow req input) := by
      unfold escrowRow
      rw [inScope]
      rfl
    have terminal : Guarded (findTerminalEscrow req.appId input) fun db => .ok (terminalEscrow req.appId input db) := by
      unfold findTerminalEscrow terminalEscrow
      cases input.milestoneId with
      | none => exact Guarded.read _ _
      | some milestoneId => exact Guarded.read _ _
    have occupied : Guarded (findActiveEscrowForScope (input.scope req.appId))
        fun db => .ok (activeEscrow (input.scope req.appId) db) := Guarded.read _ _
    rw [guard]
    dsimp only
    refine Iff.trans terminal.alone ?_
    dsimp only
    by_cases ended : (terminalEscrow req.appId input (Storage.view middle db)).isSome
    · rw [if_pos ended, if_pos ended]
      exact Iff.rfl
    · rw [if_neg ended, if_neg ended]
      refine Iff.trans occupied.alone ?_
      dsimp only
      by_cases active : (activeEscrow (input.scope req.appId) (Storage.view middle db)).isSome
      · rw [if_pos active, if_pos active]
        exact Iff.rfl
      · rw [if_neg active, if_neg active]
        exact Iff.rfl

end Services

/-- What the rail of a new escrow answers; `signedHash` and `answer` are the node's part. -/
def lockedBy (settings : Settings) (row : Escrow) (milestoneIndex : Option Nat) (signedHash : String)
    (answer : Except Failure String) : Except Failure EscrowAdapterResult :=
  if row.rail = .ckb then (prepareLock settings row milestoneIndex).map fun commitment =>
    lockResult commitment signedHash answer
  else .ok (mockLock settings row)

/-- A request that writes financial rows. -/
inductive FinancialRequest
  | createAgreement (input : CreateAgreementInput)
  | createMilestone (agreementId : RowId) (input : CreateMilestoneInput)
  | createEscrow (input : CreateEscrowInput) (signedHash : String) (answer : Except Failure String)
  | resolveDispute (disputeId : RowId) (input : ResolveDisputeInput)

/-- The request passes its schema. -/
def FinancialRequest.parsed : FinancialRequest → Bool
  | .createAgreement input => createAgreementSchema input
  | .createMilestone _ input => createMilestoneSchema input
  | .createEscrow input .. => createEscrowSchema input
  | .resolveDispute _ input => resolveDisputeSchema input

/-- The statements behind the guards and, in the creation of an escrow, behind the rail. -/
def FinancialRequest.statements (settings : Settings) (req : RequestContext) (now : Nat) (db : Db) :
    FinancialRequest → Except Failure (List Statement)
  | .createAgreement input => .ok [.insert (.agreement (agreementRow req.request req.appId input))]
  | .createMilestone agreementId input => do
      let row ← milestoneRow req.request req.appId agreementId input db
      return [.insert (.milestone row)]
  | .createEscrow input signedHash answer => do
      let milestone ← escrowScope req.appId input db
      let row ← escrowRow req input db
      let result ← lockedBy settings row (milestone.map (·.sortOrder)) signedHash answer
      let transaction := newTransaction ⟨req.request, 1⟩ row .lock
      let updated := escrowLockedBy result row row
      return [.insert (.escrow row), .insert (.transaction transaction), .update (.escrow updated),
        .update (.transaction (transactionLockedBy updated result.status now transaction))]
  | .resolveDispute disputeId input => do
      let read ← resolvable req.appId disputeId input db
      return .update (.dispute (read.dispute.resolvedBy input now)) ::
        ((Agreement.along now read.agreement read.agreementPath).map (fun row => .update (.agreement row)) ++
          (Milestone.along read.milestone read.milestonePath).map fun row => .update (.milestone row))

/-- What the schema and the guards leave open. -/
def FinancialRequest.fits (req : RequestContext) (db : Db) : FinancialRequest → Bool
  | .createAgreement input => amountValue input.totalAmount ≤ MAX_SHANNONS
  | .createMilestone agreementId input =>
      milestoneOrder req.appId agreementId input db ≤ INTEGER_MAX
        && (db.agreements.get agreementId).all fun agreement =>
          agreement.settlementStatus = .unfunded && agreement.fundingConfirmedAt.isNone
  | .createEscrow input signedHash answer =>
      input.rail ≠ .ckb || isHexText 64 (match answer with | .ok broadcastHash => broadcastHash | .error _ => signedHash)
  | .resolveDispute .. => true

end PactAgent.Escrow
