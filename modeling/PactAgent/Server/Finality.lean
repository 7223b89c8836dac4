import PactAgent.Server.Reports

/-! Finality on the chain: an escrow becomes funded, released or refunded only in the hands
of a process that the node has shown the transaction behind it, deep enough in the chain and
with the content that the escrow asks for. -/

namespace PactAgent.Server
open PactAgent.Common PactAgent.Foundation PactAgent.Lifecycle PactAgent.Store PactAgent.Escrow
open PactAgent.Foundation.Execution PactAgent.Foundation.ReadCommitted
open PactAgent.Idempotency.Repository PactAgent.Rail.Builder PactAgent.Rail.Node PactAgent.Rail.Script

section Content

/-- The transaction has the cell of the escrow: its lock, its data and its amount. -/
def Funds (escrow : Escrow) (transaction : RpcTransaction) : Prop :=
  ∃ index output data amount, escrow.lockOutputIndex = some index ∧ transaction.outputs[index]? = some output ∧
    transaction.outputsData[index]? = some data ∧ scriptsEqual (some output.lock) escrow.lockScriptJson = true ∧
    escrow.cellData.map toLowerCase = some (toLowerCase data) ∧
    bigInt output.capacity = .ok amount ∧ bigInt escrow.amount = .ok amount

def payee (operation : SettlementOperation) (escrow : Escrow) : Option Json :=
  match operation with
  | .release => escrow.workerLockScriptJson
  | .refund => escrow.clientLockScriptJson

/-- The input spends the cell of the escrow. -/
def spends (escrow : Escrow) (input : CellInput) : Bool :=
  escrow.lockTxHash.map toLowerCase = some (toLowerCase input.txHash) &&
    (bigInt input.index).toOption.isSome && (bigInt input.index).toOption = escrow.lockOutputIndex.map Int.ofNat

/-- The output pays the amount of the escrow. -/
def pays (operation : SettlementOperation) (escrow : Escrow) (output : CellOutput) : Bool :=
  scriptsEqual (some output.lock) (payee operation escrow) &&
    (bigInt output.capacity).toOption.isSome && (bigInt output.capacity).toOption = (bigInt escrow.amount).toOption

/-- The transaction spends the cell of the escrow once, and pays for it once. -/
def Settles (operation : SettlementOperation) (escrow : Escrow) (transaction : RpcTransaction) : Prop :=
  transaction.inputs.countP (spends escrow) = 1 ∧ transaction.outputs.countP (pays operation escrow) = 1

/-- What a transaction of this type does for its escrow. -/
def Meets : TransactionType → Escrow → RpcTransaction → Prop
  | .lock => Funds
  | .release => Settles .release
  | .refund => Settles .refund

variable {settings : Settings} {escrow : Escrow} {context : CkbContext} {transaction : RpcTransaction}

theorem filterChecked_length {α : Type} {test : α → Except Failure Bool} {holds : α → Bool}
    (agrees : ∀ item found, test item = .ok found → found = holds item) {items kept : List α}
    (checked : filterChecked test items = .ok kept) : kept.length = items.countP holds := by
  induction items generalizing kept with
  | nil =>
    cases checked
    rfl
  | cons item items ih =>
    obtain ⟨found, tested, checked⟩ := Guard.bind_ok_iff.mp checked
    obtain ⟨rest, rests, checked⟩ := Guard.bind_ok_iff.mp checked
    have same := agrees item found tested
    have length := ih rests
    rw [← Guard.pure_ok_iff.mp checked, List.countP_cons, ← same, ← length]
    cases found <;> rfl

theorem fundingMatches_ok {terms : FundingTerms} (found : fundingMatches terms transaction = .ok ()) :
    ∃ output data amount, transaction.outputs[terms.outputIndex]? = some output ∧
      transaction.outputsData[terms.outputIndex]? = some data ∧ scriptsEqual (some output.lock) terms.lockScript = true ∧
      toLowerCase data = toLowerCase terms.cellData ∧ bigInt output.capacity = .ok amount ∧
      bigInt terms.amount = .ok amount := by
  unfold fundingMatches at found
  split at found
  next output data placed content =>
    split at found
    next => cases found
    next same =>
      rw [not_or, not_not, not_not] at same
      obtain ⟨capacity, paid, found⟩ := Guard.bind_ok_iff.mp found
      obtain ⟨amount, asked, found⟩ := Guard.bind_ok_iff.mp found
      split at found
      next => cases found
      next equal =>
        rw [not_not] at equal
        exact ⟨output, data, amount, placed, content, same.1, same.2, equal ▸ paid, asked⟩
  next => cases found

/-- A complete commitment is the one of the escrow. -/
theorem requiredContext_fields (complete : requiredContext escrow = .ok context) :
    escrow.lockTxHash = some context.lockTxHash ∧ escrow.lockOutputIndex = some context.lockOutputIndex ∧
      escrow.lockScriptJson = some context.lockScript ∧ escrow.clientLockScriptJson = some context.clientLockScript ∧
      escrow.workerLockScriptJson = some context.workerLockScript ∧ escrow.cellData = some context.cellData := by
  unfold requiredContext at complete
  split at complete
  next _ _ _ _ _ _ _ hash index lock client worker data _ =>
    cases complete
    exact ⟨present_some hash, index, lock, client, worker, present_some data⟩
  next => cases complete

theorem spendsEscrow_agrees {destination : Option Json} {amount : String} (complete : requiredContext escrow = .ok context)
    (input : CellInput) (found : Bool)
    (tested : spendsEscrow ⟨context.lockTxHash, context.lockOutputIndex, destination, amount⟩ input = .ok found) :
    found = spends escrow input := by
  obtain ⟨hash, index, _⟩ := requiredContext_fields complete
  unfold spendsEscrow at tested
  split at tested
  next other =>
    have different : ¬toLowerCase context.lockTxHash = toLowerCase input.txHash := fun same => other same.symm
    rw [← Guard.pure_ok_iff.mp tested]
    simp [spends, hash, different]
  next same =>
    rw [not_not] at same
    obtain ⟨read, given, tested⟩ := Guard.bind_ok_iff.mp tested
    rw [← Guard.pure_ok_iff.mp tested]
    simp [spends, hash, index, given, same, Except.toOption]

theorem paysDestination_agrees {operation : SettlementOperation} {lockTxHash : String} {index : Nat}
    (output : CellOutput) (found : Bool)
    (tested : paysDestination ⟨lockTxHash, index, payee operation escrow, escrow.amount⟩ output = .ok found) :
    found = pays operation escrow output := by
  unfold paysDestination at tested
  split at tested
  next other =>
    rw [← Guard.pure_ok_iff.mp tested]
    simp [pays, other]
  next same =>
    rw [not_not] at same
    obtain ⟨paid, capacity, tested⟩ := Guard.bind_ok_iff.mp tested
    obtain ⟨asked, amount, tested⟩ := Guard.bind_ok_iff.mp tested
    rw [← Guard.pure_ok_iff.mp tested]
    simp [pays, same, capacity, amount, Except.toOption]

theorem settlementMatches_ok {operation : SettlementOperation} {destination : Option Json}
    (complete : requiredContext escrow = .ok context) (paid : destination = payee operation escrow)
    (found : settlementMatches ⟨context.lockTxHash, context.lockOutputIndex, destination, escrow.amount⟩
      transaction = .ok ()) : Settles operation escrow transaction := by
  subst paid
  obtain ⟨inputs, spent, found⟩ := Guard.bind_ok_iff.mp found
  split at found
  next => cases found
  next once =>
    obtain ⟨outputs, paid, found⟩ := Guard.bind_ok_iff.mp found
    split at found
    next => cases found
    next single =>
      rw [not_not] at once single
      constructor
      · rw [← filterChecked_length (spendsEscrow_agrees complete) spent]
        exact once
      · rw [← filterChecked_length paysDestination_agrees paid]
        exact single

end Content

section Checks
variable {settings : Settings} {escrow : Escrow} {answers : VerifyAnswers}

/-- The node has given the content of the transaction. -/
def Given (answer : Except Failure (Option TransactionResponse)) (content : RpcTransaction → Prop) : Prop :=
  ∃ response transaction, answer = .ok (some response) ∧ response.transaction = some transaction ∧ content transaction

theorem checkFundingStatus_funds {result : EscrowAdapterResult} (checked : checkFundingStatus settings escrow answers = .ok result) :
    Given answers.transaction (Funds escrow) := by
  obtain ⟨_, _, checked⟩ := Guard.bind_ok_iff.mp checked
  obtain ⟨context, complete, checked⟩ := Guard.bind_ok_iff.mp checked
  obtain ⟨observation, verified, _⟩ := Guard.bind_ok_iff.mp checked
  obtain ⟨answer, given, verified⟩ := Guard.bind_ok_iff.mp verified
  split at verified
  next => cases verified
  next transaction content =>
    obtain ⟨_, found, _⟩ := Guard.bind_ok_iff.mp verified
    obtain ⟨response, rfl, content⟩ := Option.bind_eq_some_iff.mp content
    obtain ⟨_, index, lock, _, _, data⟩ := requiredContext_fields complete
    obtain ⟨output, cell, amount, placed, stored, same, equal, capacity, asked⟩ := fundingMatches_ok found
    refine ⟨response, transaction, given, content, context.lockOutputIndex, output, cell, amount, index, placed, stored, ?_, ?_,
      capacity, asked⟩
    · rw [lock]
      exact same
    · rw [data, equal]
      rfl

theorem checkSettlementStatus_settles {operation : SettlementOperation} {observation : Observation}
    (checked : checkSettlementStatus settings operation escrow answers = .ok observation) :
    Given answers.transaction (Settles operation escrow) := by
  obtain ⟨_, _, checked⟩ := Guard.bind_ok_iff.mp checked
  obtain ⟨context, complete, verified⟩ := Guard.bind_ok_iff.mp checked
  obtain ⟨answer, given, verified⟩ := Guard.bind_ok_iff.mp verified
  split at verified
  next => cases verified
  next transaction content =>
    obtain ⟨_, found, _⟩ := Guard.bind_ok_iff.mp verified
    obtain ⟨response, rfl, content⟩ := Option.bind_eq_some_iff.mp content
    obtain ⟨_, _, _, client, worker, _⟩ := requiredContext_fields complete
    refine ⟨response, transaction, given, content, settlementMatches_ok complete ?_ found⟩
    cases operation
    · exact worker.symm
    · exact client.symm

/-- What a reconciliation that goes on in a block has verified. -/
theorem observeSnapshot_meets {snapshot : Snapshot} {observe : ObserveAnswers} {observation : Observation}
    (observed : observeSnapshot settings snapshot observe answers = .ok observation)
    (status : observation.status = .committed ∨ observation.status = .confirmed) :
    Given answers.transaction (Meets snapshot.transaction.type snapshot.escrow) := by
  have first := observeSnapshot_ok observed
  obtain ⟨found, again, rest⟩ := Guard.bind_ok_iff.mp observed
  rw [first] at again
  cases again
  rw [if_pos status] at rest
  split at rest
  next type =>
    obtain ⟨_, checked, _⟩ := Guard.bind_ok_iff.mp rest
    rw [type]
    exact checkFundingStatus_funds checked
  next type =>
    obtain ⟨_, checked, _⟩ := Guard.bind_ok_iff.mp rest
    rw [type]
    exact checkSettlementStatus_settles checked
  next type =>
    obtain ⟨_, checked, _⟩ := Guard.bind_ok_iff.mp rest
    rw [type]
    exact checkSettlementStatus_settles checked

/-- The answers place a transaction this deep below the tip. -/
def Depth (confirmations : Nat) (answers : ObserveAnswers) : Prop :=
  ∃ response number tip blockNumber tipNumber, answers.transaction = .ok (some response) ∧ response.status = .committed ∧
    present response.blockNumber = some number ∧ bigInt number = .ok blockNumber ∧
    answers.tipNumber = .ok tip ∧ bigInt tip = .ok tipNumber ∧ tipNumber - blockNumber + 1 ≥ (confirmations : Int)

theorem observe_depth {confirmations : Nat} {answers : ObserveAnswers} {observation : Observation}
    (observed : observeTransaction confirmations answers = .ok observation) (confirmed : observation.status = .confirmed) :
    Depth confirmations answers := by
  obtain ⟨response, given, rest⟩ := Guard.bind_ok_iff.mp observed
  split at rest
  next =>
    cases rest
    cases confirmed
  next response =>
    split at rest
    next =>
      split at rest
      all_goals
        obtain ⟨_, _, rest⟩ := Guard.bind_ok_iff.mp rest
        cases rest
        cases confirmed
    next =>
      split at rest
      next number committed placed =>
        obtain ⟨tip, tipGiven, rest⟩ := Guard.bind_ok_iff.mp rest
        obtain ⟨blockNumber, blockRead, rest⟩ := Guard.bind_ok_iff.mp rest
        obtain ⟨tipNumber, tipRead, rest⟩ := Guard.bind_ok_iff.mp rest
        cases rest
        refine ⟨response, number, tip, blockNumber, tipNumber, given, committed, placed, blockRead, tipGiven, tipRead, ?_⟩
        by_contra shallow
        rw [if_neg shallow] at confirmed
        cases confirmed
      next =>
        cases rest
        cases confirmed

end Checks

section Attested
variable {settings : Settings} {id : Nat} {env after : Env} {phase next : Phase}

/-- The node has placed the transaction deep enough for the process. -/
def Deep (settings : Settings) (id : Nat) (env : Env) (txHash : String) : Prop :=
  ∃ answers, .observed id txHash answers ∈ env.reports ∧ Depth settings.railConfig.confirmations answers

/-- The node has given the process the content of the transaction. -/
def Fetched (id : Nat) (env : Env) (txHash : String) (content : RpcTransaction → Prop) : Prop :=
  ∃ answer, .fetched id txHash answer ∈ env.reports ∧ Given answer content

/-- What stands behind the end of a funding or of a reconciliation. -/
def Attested (settings : Settings) (id : Nat) (env : Env) : Phase → Prop
  | .finalizingFunding _ before result => before.rail = .ckb → result.status = .funded → ∃ txHash,
      before.lockTxHash = some txHash ∧ Deep settings id env txHash ∧ Fetched id env txHash (Funds before)
  | .reconciling snapshot observation => observation.status = .confirmed →
      Deep settings id env snapshot.txHash ∧
        Fetched id env (verifiedHash snapshot) (Meets snapshot.transaction.type snapshot.escrow)
  | _ => True

theorem Deep.later {txHash : String} (deep : Deep settings id env txHash) (grows : env.reports ⊆ after.reports) :
    Deep settings id after txHash := by
  obtain ⟨answers, member, depth⟩ := deep
  exact ⟨answers, grows member, depth⟩

theorem Fetched.later {txHash : String} {content : RpcTransaction → Prop} (fetched : Fetched id env txHash content)
    (grows : env.reports ⊆ after.reports) : Fetched id after txHash content := by
  obtain ⟨answer, member, given⟩ := fetched
  exact ⟨answer, grows member, given⟩

theorem Attested.later (attested : Attested settings id env phase) (grows : env.reports ⊆ after.reports) :
    Attested settings id after phase := by
  cases phase with
  | finalizingFunding req before result =>
    intro ckb funded
    obtain ⟨txHash, hash, deep, fetched⟩ := attested ckb funded
    exact ⟨txHash, hash, deep.later grows, fetched.later grows⟩
  | reconciling snapshot observation =>
    intro confirmed
    obtain ⟨deep, fetched⟩ := attested confirmed
    exact ⟨deep.later grows, fetched.later grows⟩
  | _ => trivial

theorem attested_idle (idle : phase.Idle) : Attested settings id env phase := by
  obtain ⟨_, subject⟩ := idle
  cases phase <;> trivial

theorem attested_caught (phase : Phase) (error : Failure) : Attested settings id env (caught phase error) := by
  rcases caught_cases phase error with idle | ⟨_, _, _, rfl, same⟩ | ⟨_, _, _, _, rfl, same⟩
  · exact attested_idle idle
  · rw [same]
    trivial
  · rw [same]
    trivial

theorem attested_outside {external : External} (taken : outside settings env id phase external = some (after, next)) :
    Attested settings id after next := by
  cases phase <;> cases external <;> try (cases taken; done)
  case funding.localRail =>
    simp only [outside] at taken
    split at taken
    next => cases taken
    next other => cases taken; exact fun ckb => absurd ckb other
  case locking.localRail | settling.localRail =>
    simp only [outside] at taken
    split at taken
    next => cases taken
    next => cases taken; trivial
  case locking.sign | settling.sign =>
    simp only [outside] at taken
    split at taken
    next => cases taken
    next => split at taken <;> (cases taken; trivial)
  case funding.verify req before hint answers =>
    simp only [outside] at taken
    split at taken
    next => cases taken
    next =>
      split at taken
      next result marked =>
        cases taken
        intro _ funded
        have checked := markFundedCkb_ok marked
        obtain ⟨txHash, observation, hash, observed, status, _⟩ := checkFundingStatus_ok checked
        have confirmed : observation.status = .confirmed := by
          rw [funded, fundingStatus] at status
          by_contra other
          rw [if_neg other] at status
          cases status
        refine ⟨txHash, hash, ⟨answers.observe, ?_, observe_depth observed confirmed⟩,
          answers.transaction, ?_, checkFundingStatus_funds checked⟩
        all_goals
          rw [hash]
          simp [Env.report, verifyReports]
      next => cases taken; trivial
  case observing.observe snapshot answers verification =>
    simp only [outside] at taken
    split at taken
    next observation passed =>
      cases taken
      intro confirmed
      have observed := observeSnapshot_ok passed
      have block : observesBlock settings answers = true := by simp [observesBlock, observed, confirmed]
      refine ⟨⟨answers, ?_, observe_depth observed confirmed⟩,
        verification.transaction, ?_, observeSnapshot_meets passed (.inr confirmed)⟩
      · simp [Env.report]
      · simp [Env.report, block, verifyReports]
    next => cases taken; trivial
  all_goals
    simp only [outside, Option.some.injEq, Prod.mk.injEq] at taken
    rw [← taken.2]
    trivial

theorem commits_attested {claims : Assertions Db Query Phase Env} {writes : List Write} {db : Db}
    (commits : Commits (app settings) claims id phase next writes db) : Attested settings id env next := by
  by_cases opening : phase.isOpening = true
  · obtain ⟨program, start, last, runs, _, outcome, later⟩ := commits
    cases phase with
    | creating | settlementReserving | loading =>
      cases runs
      obtain ⟨_, _, _, rfl, _⟩ := outcome_bind.mp outcome
      trivial
    | fundingReserving req escrowId txHash =>
      cases runs
      obtain ⟨before, _, _, rfl, _⟩ := outcome_bind.mp outcome
      split <;> trivial
    | _ => cases opening
  · exact attested_idle (commits_idle (by simpa using opening) commits)

/-- What the processes were shown, on top of custody. -/
def attested (settings : Settings) : Assertions Db Query Phase Env :=
  custody.extend (fun _ => True) (fun id env phase _ => Attested settings id env phase) (fun _ _ _ => True)
    (fun _ _ => trivial) (fun _ _ _ _ _ _ => trivial)

theorem attested_preserved : Preserved (app settings) (attested settings) (fun _ _ => True) := by
  apply custody_preserved.extend
  case implies => intros; trivial
  case arrive => exact fun id request env db => attested_idle (idle_arrival request)
  case caught => exact fun id env phase db error _ => attested_caught phase error
  case outside =>
    intro state id phase external env next _ _ _ _ _ _ taken
    exact ⟨attested_outside taken, fun _ _ _ known => known.later (outside_reports taken).subset⟩
  case commit =>
    intro state id phase next log writes _ _ _ _ _ _ commits _
    exact ⟨trivial, commits_attested commits, fun _ _ _ _ _ _ known => ⟨known, trivial⟩⟩

end Attested

section Final
variable {settings : Settings} {id : Nat} {env : Env} {phase next : Phase} {writes : List Write} {db start : Db}

/-- The final status of an escrow that a transaction of this type brings about. -/
def finalStatus : TransactionType → EscrowStatus
  | .lock => .funded
  | .release => .released
  | .refund => .refunded

/-- The node has shown the process the transaction that this status rests on. -/
def Proven (settings : Settings) (id : Nat) (db : Db) (env : Env) (escrow : Escrow) : Prop :=
  ∃ row ∈ db.transactions, row.escrowId = some escrow.id ∧ finalStatus row.type = escrow.status ∧
    ∃ txHash, row.txHash = some txHash ∧ (row.type = .lock → escrow.lockTxHash = some txHash) ∧
      Deep settings id env txHash ∧ Fetched id env txHash (Meets row.type escrow)

theorem EscrowHeld.meets {old new : Escrow} (held : EscrowHeld old new) (ckb : old.rail = .ckb) (type : TransactionType) :
    Meets type new = Meets type old := by
  have same := held.2.2 ckb
  have amount : new.amount = old.amount := congrArg EscrowTerms.amount held.1
  have hash : new.lockTxHash = old.lockTxHash := congrArg Commitment.lockTxHash same
  have index : new.lockOutputIndex = old.lockOutputIndex := congrArg Commitment.lockOutputIndex same
  have lock : new.lockScriptJson = old.lockScriptJson := congrArg Commitment.lockScriptJson same
  have client : new.clientLockScriptJson = old.clientLockScriptJson := congrArg Commitment.clientLockScriptJson same
  have worker : new.workerLockScriptJson = old.workerLockScriptJson := congrArg Commitment.workerLockScriptJson same
  have data : new.cellData = old.cellData := congrArg Commitment.cellData same
  funext transaction
  cases type with
  | lock => simp only [Meets, Funds, amount, index, lock, data]
  | release | refund =>
    have spent : spends new = spends old := by
      funext input
      simp only [spends, hash, index]
    have paid : ∀ operation, pays operation new = pays operation old := by
      intro operation
      funext output
      cases operation <;> simp only [pays, payee, amount, client, worker]
    simp only [Meets, Settles, spent, paid]

/-- Only a confirmed transaction moves an escrow to a final status. -/
theorem reconciliation_final {type : TransactionType} {fromStatus : EscrowStatus} {observed : ObservationStatus}
    {reorg : Bool} (moves : reconciliationEscrowStatus type fromStatus observed reorg ≠ fromStatus)
    (final : reconciliationEscrowStatus type fromStatus observed reorg ∈ [EscrowStatus.funded, .released, .refunded]) :
    observed = .confirmed ∧ reconciliationEscrowStatus type fromStatus observed reorg = finalStatus type := by
  unfold reconciliationEscrowStatus at moves final ⊢
  cases type <;> cases observed <;> cases reorg <;> simp [finalStatus] at moves final ⊢ <;> split at final <;> simp_all

theorem EscrowsMove.stands {subject new : Escrow} {after : Db} (moved : EscrowsMove db after) (stands : Stands subject db)
    (there : after.escrows.get subject.id = some new) : EscrowHeld subject new := by
  obtain ⟨_, now, stored, held⟩ := stands
  rcases moved subject.id with same | ⟨old, moved, found, written, _, _, follows⟩
  · rw [same, stored] at there
    cases there
    exact held
  · rw [stored] at found
    cases found
    rw [written] at there
    cases there
    exact held.trans follows

theorem written_stored {new : Escrow} (escrows : Write.to .escrows writes = [.escrow new]) :
    (Storage.view writes db).escrows.get new.id = some new := by
  have rows : Write.to .escrows writes = [new].map Write.escrow := escrows
  exact stored_escrows.get_last rows rfl db

/-- The escrows that a commit moves to a final status. -/
theorem entry_final (initially : Initially custody id phase start) (holds : custody.holds db)
    (belongs : ∀ snapshot, phase.cargo = .snapshot snapshot →
      snapshot.transaction.escrowId = some snapshot.escrow.id)
    (knows : Knows id phase db) (attested : Attested settings id env phase)
    (entry : Entry custody.holds (Keeping id) start db phase next (Write.to .escrows writes)
      (Write.to .transactions writes)) {new : Escrow} (written : .escrow new ∈ writes) (ckb : new.rail = .ckb)
    (final : new.status ∈ [EscrowStatus.funded, .released, .refunded]) : Proven settings id db env new := by
  have member : Write.escrow new ∈ Write.to .escrows writes := written_to written rfl
  generalize escrowsIs : Write.to .escrows writes = escrows at entry member
  generalize transactionsIs : Write.to .transactions writes = transactions at entry
  cases entry with
  | created =>
    cases List.mem_singleton.mp member
    simp [newEscrow] at final
  | @locked req reserved result first reply old transactions valid =>
    cases List.mem_singleton.mp member
    have status : result.status ∈ [EscrowStatus.awaitingFunding, .reconciliationRequired, .failed] := by
      simpa [canTransitionEscrow] using valid
    simp only [escrowLockedBy, List.mem_cons, List.not_mem_nil, or_false] at status final
    rcases status with is | is | is <;> simp [is] at final
  | discarded escrow =>
    cases escrow with
    | row => cases List.mem_singleton.mp member
    | missed => cases member
  | fundedAlready => cases member
  | @funded req before current updated result reply _ _ seen owner unfunded verified moved booked =>
    obtain ⟨moves, _, _⟩ := fundingMove_escrow initially knows holds.2 seen verified (escrowsIs ▸ moved)
    cases moved with
    | stays => cases member
    | @moves old valid status owner stored =>
      have whole : new = _ := Write.escrow.inj (List.mem_singleton.mp member)
      have key : new.id = before.id := by
        rw [whole]
        exact Table.key_of_get stored
      have status : new.status = result.status := by rw [whole]
      have there : (Storage.view writes db).escrows.get new.id = some new := by
        apply written_stored
        rw [whole]
        exact escrowsIs
      have held := moves.stands (knows.subject before rfl) (key ▸ there)
      have beforeCkb := (congrArg EscrowTerms.rail held.1).symm.trans ckb
      have funded : result.status = .funded := by
        rw [status] at final
        simp only [List.mem_cons, List.not_mem_nil, or_false] at verified
        rcases verified with is | is
        · simp [is] at final
        · exact is
      obtain ⟨txHash, hash, deep, fetched⟩ := attested beforeCkb funded
      obtain ⟨now, row, found, heldNow, _, foundRow, locks, _⟩ := (knows.subject before rfl).lock holds.2
      have member := Table.mem_of_get foundRow
      have rowKey : row.id = ⟨before.id.request, 1⟩ := Table.key_of_get foundRow
      have type : row.type = .lock := (holds.1.typed row member).mpr (by rw [rowKey])
      have nowKey : now.id = before.id := Table.key_of_get found
      have sameHash := (locks.sameHash ((congrArg EscrowTerms.rail heldNow.1).trans beforeCkb)).trans
        ((congrArg Commitment.lockTxHash (heldNow.2.2 beforeCkb)).trans hash)
      refine ⟨row, member, ?_, ?_, txHash, sameHash, ?_, deep, ?_⟩
      · rw [locks.belongs, nowKey, key]
      · rw [type, status, funded]
        rfl
      · exact fun _ => (congrArg Commitment.lockTxHash (held.2.2 beforeCkb)).trans hash
      · rw [type, held.meets beforeCkb]
        exact fetched
  | @reserved req operation =>
    cases List.mem_singleton.mp member
    cases operation <;> simp [settlementPendingStatus] at final
  | failed =>
    cases List.mem_singleton.mp member
    simp at final
  | @settled req operation reserved result first reply old nextStatus _ nextIs =>
    have whole : new = _ := Write.escrow.inj (List.mem_singleton.mp member)
    have rail : old.rail = .ckb := by
      rw [whole] at ckb
      cases operation <;> exact ckb
    have status : new.status = nextStatus := by
      rw [whole]
      cases operation <;> rfl
    -- only the sandbox rails settle at once
    have waits : nextStatus = .reconciliationRequired ∨ nextStatus = settlementPendingStatus operation := by
      rw [nextIs, settlementNextStatus]
      split
      · exact .inl rfl
      · simp [confirmedForRail, rail]
    rw [status] at final
    rcases waits with is | is
    · simp [is] at final
    · cases operation <;> simp [is, settlementPendingStatus] at final
  | @reconciled snapshot observation result transaction escrow reorg toStatus _ _ read moved booked =>
    cases moved with
    | stays => cases member
    | @moves old different valid status owner stored =>
      have whole : new = _ := Write.escrow.inj (List.mem_singleton.mp member)
      have key : new.id = snapshot.escrow.id := by
        rw [whole]
        exact Table.key_of_get stored
      have status : new.status = toStatus := by rw [whole]
      have type : transaction.type = snapshot.transaction.type :=
        congrArg TransactionTerms.type (read_terms initially read.readTransaction)
      have toIs := read.toStatusIs
      rw [status] at final
      rw [type] at toIs
      obtain ⟨confirmed, reaches⟩ := reconciliation_final (toIs ▸ different) (toIs ▸ final)
      have moves : EscrowsMove db (Storage.view writes db) := by
        apply statusMove (knows.subject _ rfl) holds.2 stored _ _ _ _ escrowsIs
        · rfl
        · exact canTransitionEscrow_stored valid
        · rfl
        · rfl
      have there : (Storage.view writes db).escrows.get new.id = some new := by
        apply written_stored
        rw [whole]
        exact escrowsIs
      have held := moves.stands (knows.subject snapshot.escrow rfl) (key ▸ there)
      obtain ⟨row, found, rowCkb, terms, hash⟩ := knows.snapshot snapshot rfl
      have belongs := belongs snapshot rfl
      have rowType : row.type = snapshot.transaction.type := congrArg TransactionTerms.type terms
      have scope : row.escrowId = snapshot.transaction.escrowId := congrArg TransactionTerms.escrowId terms
      have beforeCkb : snapshot.escrow.rail = .ckb := (congrArg EscrowTerms.rail held.1).symm.trans ckb
      have lockHash : snapshot.transaction.type = .lock → snapshot.escrow.lockTxHash = some snapshot.txHash := by
        intro lock
        obtain ⟨now, here, _, nowHash⟩ := snapshot_lock holds belongs lock knows
        obtain ⟨_, other, there, same⟩ := knows.subject snapshot.escrow rfl
        rw [here] at there
        cases there
        exact (congrArg Commitment.lockTxHash (same.2.2 beforeCkb)).symm.trans nowHash
      have verified : verifiedHash snapshot = snapshot.txHash := by
        unfold verifiedHash
        split
        next lock => rw [lockHash lock, Option.getD_some]
        next => rfl
        next => rfl
      obtain ⟨deep, fetched⟩ := attested confirmed
      refine ⟨row, Table.mem_of_get found, ?_, ?_, snapshot.txHash, hash, ?_, deep, ?_⟩
      · rw [scope, belongs, key]
      · rw [rowType, status, toIs, reaches]
      · intro lock
        exact (congrArg Commitment.lockTxHash (held.2.2 beforeCkb)).trans (lockHash (rowType.symm.trans lock))
      · rw [rowType, held.meets beforeCkb, ← verified]
        exact fetched
  | aside => cases member

end Final

section Runs
variable {settings : Settings}

/-- Every step that moves an escrow on the chain to a final status was shown by the node,
in the same request or reconciliation, the transaction that brings the status about:
confirmed, and with the content that the escrow asks for. -/
theorem finality_proven {actions : List Action} {action : Action} {state after : State}
    (reached : run (step settings) initial actions = some state) (taken : step settings state action = some after) :
    ∀ new ∈ after.db.escrows, new.rail = .ckb → new.status ∈ [EscrowStatus.funded, .released, .refunded] →
      (∃ old, state.db.escrows.get new.id = some old ∧ old.status = new.status) ∨
        Proven settings action.process state.db state.env new := by
  have sound : Sound (app settings) (attested settings) state :=
    Sound.always attested_preserved ⟨custody_empty, trivial⟩ actions reached
  rw [step_db taken]
  intro new member ckb final
  cases sound.committed action with
  | inl none =>
    rw [none] at member
    exact .inl ⟨new, Table.get_of_mem member, rfl⟩
  | inr some =>
    obtain ⟨id, phase, next, log, writes, rfl, _, same, ⟨⟨ground, knows⟩, known⟩, commits⟩ := some
    rw [same] at member
    have holds := sound.holds.1
    obtain ⟨start, initially, _, entry⟩ := commits_entry keeping_keeps (fun _ _ keeping => keeping.1)
      (Commits.below commits)
    rcases mem_view_escrows member with before | written
    · exact .inl ⟨new, Table.get_of_mem before, rfl⟩
    · exact .inr (entry_final initially holds (fun snapshot found => (ground.2 snapshot found).belongs) knows known entry
        written ckb final)

/-- A mark-funded request that finds the lock in a block. -/
theorem mined_funding_proven : ∃ state after new,
    run (step testnet) initial (opening ++ (markFunded 5 mined ++ pending 5 12)) = some state ∧
    step testnet state (.finish 5) = some after ∧ new ∈ after.db.escrows ∧ new.status = .funded ∧
    Proven testnet 5 state.db state.env new := by
  obtain ⟨opened, reached, _, traces, _⟩ := opening_traces
  obtain ⟨state, verified, before, traces⟩ := trace_cons traces
  obtain ⟨after, finished, behind, _⟩ := trace_cons traces
  obtain ⟨final, taken, ended⟩ := run_cons finished
  cases ended
  have whole := (run_append reached).trans verified
  obtain ⟨old, storedOld, _, _, oldStatus⟩ := seen_escrow before
  obtain ⟨new, stored, ckb, _, status⟩ := seen_escrow behind
  have key : new.id = ⟨4, 0⟩ := Table.key_of_get stored
  have funded : new.status ∈ [EscrowStatus.funded, .released, .refunded] := by
    rw [status]
    exact List.mem_cons_self
  rcases finality_proven whole taken new (Table.mem_of_get stored) ckb funded with ⟨earlier, found, same⟩ | proven
  · rw [key, storedOld] at found
    cases found
    rw [oldStatus, status] at same
    cases same
  · exact ⟨state, after, new, whole, taken, Table.mem_of_get stored, status, proven⟩

end Runs

end PactAgent.Server
