import PactAgent.Server.Ground
import PactAgent.Server.Ledger

/-! Custody: every escrow has its lock transaction, which carries its hash once the lock
was created. From then on what locks an escrow on the chain does not change, and neither
does the hash of any of its transactions. -/

namespace PactAgent.Server
open PactAgent.Common PactAgent.Foundation PactAgent.Lifecycle PactAgent.Store PactAgent.Escrow
open PactAgent.Foundation.Execution PactAgent.Foundation.ReadCommitted
open PactAgent.Idempotency.Repository PactAgent.Rail.Builder PactAgent.Rail.Node PactAgent.Rail.Script

/-- What an escrow is locked by on the chain. -/
structure Commitment where
  lockTxHash : Option String
  lockOutputIndex : Option Nat
  lockScriptJson : Option Json
  clientLockScriptJson : Option Json
  workerLockScriptJson : Option Json
  cellData : Option String
  refundTimeoutSince : Option String

def commitment (escrow : Escrow) : Commitment :=
  ⟨escrow.lockTxHash, escrow.lockOutputIndex, escrow.lockScriptJson, escrow.clientLockScriptJson,
    escrow.workerLockScriptJson, escrow.cellData, escrow.refundTimeoutSince⟩

/-- The lock transaction of an escrow. -/
structure Locks (row : Transaction) (escrow : Escrow) : Prop where
  belongs : row.escrowId = some escrow.id
  app : row.appId = escrow.appId
  rail : row.rail = escrow.rail
  recorded : row.txHash = none ↔ escrow.status = .notCreated
  held : escrow.lockTxHash = none ↔ escrow.status = .notCreated
  sameHash : escrow.rail = .ckb → row.txHash = escrow.lockTxHash

/-- The escrow and the lock transaction that one request may have inserted. -/
inductive Slot : Option Escrow → Option Transaction → Prop
  | free : Slot none none
  | taken {escrow : Escrow} {row : Transaction} (locks : Locks row escrow) : Slot (some escrow) (some row)

structure Custody (db : Db) : Prop where
  slots : ∀ request, Slot (db.escrows.get ⟨request, 0⟩) (db.transactions.get ⟨request, 1⟩)
  index : ∀ key escrow, db.escrows.get key = some escrow → key.index = 0

def EscrowHeld (old new : Escrow) : Prop :=
  new.terms = old.terms ∧ new.status ≠ .notCreated ∧ (old.rail = .ckb → commitment new = commitment old)

def TransactionHeld (old new : Transaction) : Prop :=
  new.id = old.id ∧ new.terms = old.terms ∧ new.txHash ≠ none ∧ (old.rail = .ckb → new.txHash = old.txHash)

/-- What the others keep for one process: rows under a hash stay so, and rows of the
process that have none yet stay as they are. -/
structure Held (id : Nat) (before after : Db) : Prop where
  escrows : Table.Kept (fun row => row.status ≠ .notCreated) EscrowHeld before.escrows after.escrows
  transactions : Table.Kept (fun row => row.txHash ≠ none) TransactionHeld before.transactions after.transactions
  ownEscrows : Table.Kept (fun row => row.id.request = id ∧ row.status = .notCreated) Eq before.escrows after.escrows
  ownTransactions : Table.Kept (fun row => row.id.request = id ∧ row.txHash = none) Eq before.transactions
    after.transactions

/-- The escrow is stored, and is still locked as it was. -/
def Stands (escrow : Escrow) (db : Db) : Prop :=
  escrow.status ≠ .notCreated ∧ ∃ now, db.escrows.get escrow.id = some now ∧ EscrowHeld escrow now

/-- The rows of a creation that is not finalized. -/
structure Reserved (id : Nat) (reserved : ReservedEscrowCreation) (db : Db) : Prop where
  key : reserved.created.id = ⟨id, 0⟩
  fresh : reserved.created.status = .notCreated
  escrow : db.escrows.get ⟨id, 0⟩ = some reserved.created
  transaction : db.transactions.get ⟨id, 1⟩ = some (newTransaction ⟨id, 1⟩ reserved.created .lock)

/-- What a phase carries belongs to the app of its request, and what the rail has answered
has a hash. -/
def Phase.Proper : Phase → Prop
  | .locking req reserved | .lockSigned req reserved _ _ | .lockSent req reserved _ _
  | .discarding req reserved _ => reserved.created.appId = req.appId
  | .finalizingCreation req reserved result _ => reserved.created.appId = req.appId ∧ result.txHash ≠ none
  | .funding req before _ => before.appId = req.appId
  | .finalizingFunding req before result =>
      before.appId = req.appId ∧ (before.rail = .ckb → result.txHash = before.lockTxHash)
  | .settling req _ reserved | .settlementSigned req _ reserved _ | .settlementSent req _ reserved _
  | .finalizingFailed req _ reserved _ | .finalizingSettlement req _ reserved _ _ =>
      reserved.pending.appId = req.appId
  | _ => True

/-- What a phase knows of the rows that it works on. -/
structure Knows (id : Nat) (phase : Phase) (db : Db) : Prop where
  proper : phase.Proper
  subject : ∀ escrow, phase.subject = some escrow → Stands escrow db
  creation : ∀ reserved, phase.cargo = .creation reserved → Reserved id reserved db
  settlement : ∀ operation reserved, phase.cargo = .settlement operation reserved →
    db.transactions.get ⟨id, 0⟩ = some (newTransaction ⟨id, 0⟩ reserved.pending (settlementType operation))
  snapshot : ∀ snapshot, phase.cargo = .snapshot snapshot → ∃ row,
    db.transactions.get snapshot.transaction.id = some row ∧ row.rail = .ckb ∧
      row.terms = snapshot.transaction.terms ∧ row.txHash = some snapshot.txHash

section Held
variable {id : Nat} {db : Db}

theorem EscrowHeld.trans {first second third : Escrow} (earlier : EscrowHeld first second)
    (later : EscrowHeld second third) : EscrowHeld first third := by
  have rail : second.rail = first.rail := congrArg EscrowTerms.rail earlier.1
  refine ⟨later.1.trans earlier.1, later.2.1, ?_⟩
  intro ckb
  rw [later.2.2 (rail.trans ckb), earlier.2.2 ckb]

theorem TransactionHeld.trans {first second third : Transaction} (earlier : TransactionHeld first second)
    (later : TransactionHeld second third) : TransactionHeld first third := by
  obtain ⟨key, terms, _, same⟩ := earlier
  obtain ⟨key', terms', hash, same'⟩ := later
  have rail : second.rail = first.rail := congrArg TransactionTerms.rail terms
  refine ⟨key'.trans key, terms'.trans terms, hash, ?_⟩
  intro ckb
  rw [same' (rail.trans ckb), same ckb]

theorem Held.refl (id : Nat) (db : Db) : Held id db db where
  escrows := fun _ old found stays => ⟨old, found, rfl, stays, fun _ => rfl⟩
  transactions := fun _ old found stays => ⟨old, found, rfl, rfl, stays, fun _ => rfl⟩
  ownEscrows := .refl (fun _ => rfl) _
  ownTransactions := .refl (fun _ => rfl) _

theorem Held.trans {first second third : Db} (earlier : Held id first second) (later : Held id second third) :
    Held id first third where
  escrows := earlier.escrows.trans (fun _ _ _ => .trans) (fun _ _ _ follows => follows.2.1) later.escrows
  transactions := earlier.transactions.trans (fun _ _ _ => .trans) (fun _ _ _ follows => follows.2.2.1)
    later.transactions
  ownEscrows := by
    refine Table.Kept.trans (fun _ _ _ first second => first.trans second) ?_ earlier.ownEscrows later.ownEscrows
    rintro old _ stays rfl
    exact stays
  ownTransactions := by
    refine Table.Kept.trans (fun _ _ _ first second => first.trans second) ?_ earlier.ownTransactions later.ownTransactions
    rintro old _ stays rfl
    exact stays

theorem Stands.later {escrow : Escrow} {after : Db} (stands : Stands escrow db) (held : Held id db after) :
    Stands escrow after := by
  obtain ⟨created, now, stored, held'⟩ := stands
  obtain ⟨new, found, follows⟩ := held.escrows escrow.id now stored held'.2.1
  exact ⟨created, new, found, held'.trans follows⟩

theorem Knows.later {phase : Phase} {after : Db} (knows : Knows id phase db) (held : Held id db after) :
    Knows id phase after where
  proper := knows.proper
  subject escrow found := (knows.subject escrow found).later held
  creation reserved found := by
    obtain ⟨key, fresh, escrow, transaction⟩ := knows.creation reserved found
    obtain ⟨_, there, rfl⟩ := held.ownEscrows _ _ escrow ⟨by rw [key], fresh⟩
    obtain ⟨_, here, rfl⟩ := held.ownTransactions _ _ transaction ⟨rfl, rfl⟩
    exact ⟨key, fresh, there, here⟩
  settlement operation reserved found := by
    obtain ⟨_, here, rfl⟩ := held.ownTransactions _ _ (knows.settlement operation reserved found) ⟨rfl, rfl⟩
    exact here
  snapshot snapshot found := by
    obtain ⟨row, stored, ckb, terms, hash⟩ := knows.snapshot snapshot found
    obtain ⟨new, there, _, sameTerms, _, same⟩ := held.transactions _ row stored (by simp [hash])
    have rail : new.rail = row.rail := congrArg TransactionTerms.rail sameTerms
    exact ⟨new, there, rail.trans ckb, sameTerms.trans terms, (same ckb).trans hash⟩

end Held

section Changes
variable {id : Nat} {db after : Db}

/-- Escrows move under the lock that they have. -/
def EscrowsMove (db after : Db) : Prop :=
  ∀ key, after.escrows.get key = db.escrows.get key ∨ ∃ old new, db.escrows.get key = some old ∧
    after.escrows.get key = some new ∧ old.status ≠ .notCreated ∧ new.lockTxHash ≠ none ∧ EscrowHeld old new

/-- Transactions keep their hash, and the settlement of the process itself may get one. -/
def TransactionsMove (id : Nat) (db after : Db) : Prop :=
  ∀ key, after.transactions.get key = db.transactions.get key ∨
    (key = ⟨id, 0⟩ ∧ ∀ old, db.transactions.get key = some old → old.txHash = none) ∨
    ∃ old new, db.transactions.get key = some old ∧ after.transactions.get key = some new ∧ old.txHash ≠ none ∧
      TransactionHeld old new

/-- What a commit may do to custody: it works on the escrow that its process creates, or
under the locks that there are. -/
inductive Change (id : Nat) (db after : Db) : Prop
  | mine (slot : Slot (after.escrows.get ⟨id, 0⟩) (after.transactions.get ⟨id, 1⟩))
      (escrows : ∀ key, key ≠ ⟨id, 0⟩ → after.escrows.get key = db.escrows.get key)
      (fresh : ∀ old, db.escrows.get ⟨id, 0⟩ = some old → old.status = .notCreated)
      (transactions : ∀ key, key ≠ ⟨id, 1⟩ → after.transactions.get key = db.transactions.get key)
      (unrecorded : ∀ old, db.transactions.get ⟨id, 1⟩ = some old → old.txHash = none)
  | moved (escrows : EscrowsMove db after) (transactions : TransactionsMove id db after)

theorem Locks.moved {row : Transaction} {old new : Escrow} (locks : Locks row old) (key : new.id = old.id)
    (created : old.status ≠ .notCreated) (hash : new.lockTxHash ≠ none) (held : EscrowHeld old new) :
    Locks row new := by
  obtain ⟨terms, still, same⟩ := held
  have rail : new.rail = old.rail := congrArg EscrowTerms.rail terms
  refine ⟨key ▸ locks.belongs, ?_, ?_, ?_, ?_, ?_⟩
  · rw [locks.app]
    exact (congrArg (fun terms => terms.scope.appId) terms).symm
  · rw [locks.rail, rail]
  · simp only [still, iff_false]
    exact fun none => created (locks.recorded.mp none)
  · simp only [still, iff_false]
    exact hash
  · intro ckb
    rw [locks.sameHash (rail ▸ ckb)]
    exact (congrArg Commitment.lockTxHash (same (rail ▸ ckb))).symm

theorem Locks.updated {old new : Transaction} {escrow : Escrow} (locks : Locks old escrow)
    (hash : old.txHash ≠ none) (held : TransactionHeld old new) : Locks new escrow := by
  obtain ⟨_, terms, some, same⟩ := held
  have created : escrow.status ≠ .notCreated := fun fresh => hash (locks.recorded.mpr fresh)
  refine ⟨(congrArg TransactionTerms.escrowId terms).trans locks.belongs,
    (congrArg TransactionTerms.appId terms).trans locks.app, (congrArg TransactionTerms.rail terms).trans locks.rail,
    ?_, locks.held, ?_⟩
  · simp only [some, created]
  · intro ckb
    rw [same (locks.rail.trans ckb)]
    exact locks.sameHash ckb

theorem Change.custody (change : Change id db after) (holds : Custody db) : Custody after := by
  cases change with
  | mine slot escrows fresh transactions unrecorded =>
    constructor
    · intro request
      by_cases own : request = id
      · rw [own]
        exact slot
      · rw [escrows ⟨request, 0⟩ (by simpa using own), transactions ⟨request, 1⟩ (by simpa using own)]
        exact holds.slots request
    · intro key escrow stored
      by_cases own : key = ⟨id, 0⟩
      · rw [own]
      · rw [escrows key own] at stored
        exact holds.index key escrow stored
  | moved escrows transactions =>
    have slotted : ∀ request, Slot (after.escrows.get ⟨request, 0⟩) (db.transactions.get ⟨request, 1⟩) := by
      intro request
      have slot := holds.slots request
      rcases escrows ⟨request, 0⟩ with same | ⟨old, new, stored, there, created, hash, held⟩
      · rwa [same]
      · rw [stored] at slot
        rw [there]
        have key : new.id = old.id := (Table.key_of_get there).trans (Table.key_of_get stored).symm
        generalize db.transactions.get ⟨request, 1⟩ = row at slot ⊢
        cases slot with
        | taken locks => exact .taken (locks.moved key created hash held)
    constructor
    · intro request
      have slot := slotted request
      rcases transactions ⟨request, 1⟩ with same | ⟨own, _⟩ | ⟨old, new, stored, there, hash, held⟩
      · rwa [same]
      · cases own
      · rw [stored] at slot
        rw [there]
        generalize after.escrows.get ⟨request, 0⟩ = escrow at slot ⊢
        cases slot with
        | taken locks => exact .taken (locks.updated hash held)
    · intro key escrow stored
      rcases escrows key with same | ⟨old, new, before, _⟩
      · rw [same] at stored
        exact holds.index key escrow stored
      · exact holds.index key old before

/-- A locked escrow stays under its lock, also by the commits of its own process. -/
theorem Change.escrows (change : Change id db after) :
    Table.Kept (fun row => row.status ≠ .notCreated) EscrowHeld db.escrows after.escrows := by
  intro key old stored created
  cases change with
  | mine slot escrows fresh =>
    have apart : key ≠ ⟨id, 0⟩ := fun own => created (fresh old (own ▸ stored))
    exact ⟨old, (escrows key apart).trans stored, rfl, created, fun _ => rfl⟩
  | moved escrows =>
    rcases escrows key with same | ⟨found, new, before, there, _, _, held⟩
    · exact ⟨old, same.trans stored, rfl, created, fun _ => rfl⟩
    · rw [stored] at before
      cases before
      exact ⟨new, there, held⟩

theorem Change.transactions (change : Change id db after) :
    Table.Kept (fun row => row.txHash ≠ none) TransactionHeld db.transactions after.transactions := by
  intro key old stored hash
  cases change with
  | mine slot escrows fresh transactions unrecorded =>
    have apart : key ≠ ⟨id, 1⟩ := fun own => hash (unrecorded old (own ▸ stored))
    exact ⟨old, (transactions key apart).trans stored, rfl, rfl, hash, fun _ => rfl⟩
  | moved escrows transactions =>
    rcases transactions key with same | ⟨_, unrecorded⟩ | ⟨found, new, before, there, _, held⟩
    · exact ⟨old, same.trans stored, rfl, rfl, hash, fun _ => rfl⟩
    · exact absurd (unrecorded old stored) hash
    · rw [stored] at before
      cases before
      exact ⟨new, there, held⟩

theorem Change.held (change : Change id db after) {other : Nat} (different : other ≠ id) : Held other db after := by
  have foreign : ∀ {key : RowId} {index : Nat}, key.request = other → key ≠ ⟨id, index⟩ := by
    rintro key index request rfl
    exact different request.symm
  refine ⟨change.escrows, change.transactions, ?_, ?_⟩
  · rintro key old stored ⟨request, fresh⟩
    have same : old.id = key := Table.key_of_get stored
    cases change with
    | mine slot escrows => exact ⟨old, (escrows key (foreign (same ▸ request))).trans stored, rfl⟩
    | moved escrows =>
      rcases escrows key with unchanged | ⟨found, new, before, _, created, _⟩
      · exact ⟨old, unchanged.trans stored, rfl⟩
      · rw [stored] at before
        cases before
        exact absurd fresh created
  · rintro key old stored ⟨request, none⟩
    have same : old.id = key := Table.key_of_get stored
    cases change with
    | mine slot escrows fresh transactions =>
      exact ⟨old, (transactions key (foreign (same ▸ request))).trans stored, rfl⟩
    | moved escrows transactions =>
      rcases transactions key with unchanged | ⟨own, _⟩ | ⟨found, new, before, _, hash, _⟩
      · exact ⟨old, unchanged.trans stored, rfl⟩
      · exact absurd own (foreign (same ▸ request))
      · rw [stored] at before
        cases before
        exact absurd none hash

/-- A written row is there afterwards, and the rows under other keys are as they were. -/
theorem escrowsMove_put {writes : List Write} {old new : Escrow} (written : Write.to .escrows writes = [.escrow new])
    (stored : db.escrows.get new.id = some old) (created : old.status ≠ .notCreated) (hash : new.lockTxHash ≠ none)
    (held : EscrowHeld old new) : EscrowsMove db (Storage.view writes db) := by
  have rows : Write.to .escrows writes = [new].map Write.escrow := written
  intro key
  by_cases same : new.id = key
  · subst same
    exact .inr ⟨old, new, stored, stored_escrows.get_last rows rfl db, created, hash, held⟩
  · exact .inl (stored_escrows.get_of_ne rows (fun row member => List.mem_singleton.mp member ▸ same) db)

theorem escrowsMove_nil {writes : List Write} (unwritten : Write.to .escrows writes = []) :
    EscrowsMove db (Storage.view writes db) := by
  intro key
  rw [stored_escrows.untouched unwritten]
  exact .inl rfl

theorem transactionsMove_nil {writes : List Write} (unwritten : Write.to .transactions writes = []) :
    TransactionsMove id db (Storage.view writes db) := by
  intro key
  rw [stored_transactions.untouched unwritten]
  exact .inl rfl

theorem transactionsMove_put {writes : List Write} {new : Transaction}
    (written : Write.to .transactions writes = [.transaction new])
    (move : (new.id = ⟨id, 0⟩ ∧ ∀ old, db.transactions.get new.id = some old → old.txHash = none) ∨
      ∃ old, db.transactions.get new.id = some old ∧ old.txHash ≠ none ∧ TransactionHeld old new) :
    TransactionsMove id db (Storage.view writes db) := by
  have rows : Write.to .transactions writes = [new].map Write.transaction := written
  intro key
  by_cases same : new.id = key
  · subst same
    rcases move with own | ⟨old, stored, hash, held⟩
    · exact .inr (.inl own)
    · exact .inr (.inr ⟨old, new, stored, stored_transactions.get_last rows rfl db, hash, held⟩)
  · exact .inl (stored_transactions.get_of_ne rows (fun row member => List.mem_singleton.mp member ▸ same) db)

theorem Custody.lock (holds : Custody db) {escrow : Escrow} (stored : db.escrows.get escrow.id = some escrow) :
    ∃ row, db.transactions.get ⟨escrow.id.request, 1⟩ = some row ∧ Locks row escrow := by
  have slot := holds.slots escrow.id.request
  have index := holds.index escrow.id escrow stored
  have key : (⟨escrow.id.request, 0⟩ : RowId) = escrow.id := by rw [← index]
  rw [key, stored] at slot
  generalize db.transactions.get ⟨escrow.id.request, 1⟩ = row at slot ⊢
  cases slot with
  | taken locks => exact ⟨_, rfl, locks⟩

/-- Every lock transaction is that of an escrow. -/
theorem Custody.owner (holds : Custody db) (typed : Typed db) {row : Transaction} (member : row ∈ db.transactions)
    (type : row.type = .lock) : row.id = ⟨row.id.request, 1⟩ ∧ ∃ escrow : Escrow,
      escrow.id = ⟨row.id.request, 0⟩ ∧ db.escrows.get ⟨row.id.request, 0⟩ = some escrow ∧ Locks row escrow := by
  have index : row.id.index = 1 := (typed row member).mp type
  have key : row.id = ⟨row.id.request, 1⟩ := by rw [← index]
  have stored : db.transactions.get ⟨row.id.request, 1⟩ = some row := by
    rw [← key]
    exact Table.get_of_mem member
  have slot := holds.slots row.id.request
  rw [stored] at slot
  refine ⟨key, ?_⟩
  generalize found : db.escrows.get ⟨row.id.request, 0⟩ = escrow at slot
  cases slot with
  | taken locks => exact ⟨_, Table.key_of_get found, rfl, locks⟩

/-- The lock transaction of a standing escrow. -/
theorem Stands.lock {escrow : Escrow} (stands : Stands escrow db) (holds : Custody db) :
    ∃ now row, db.escrows.get escrow.id = some now ∧ EscrowHeld escrow now ∧ now.lockTxHash ≠ none ∧
      db.transactions.get ⟨escrow.id.request, 1⟩ = some row ∧ Locks row now ∧ row.txHash ≠ none := by
  obtain ⟨_, now, stored, held⟩ := stands
  have key : now.id = escrow.id := Table.key_of_get stored
  obtain ⟨row, found, locks⟩ := holds.lock (key ▸ stored)
  exact ⟨now, row, stored, held, fun none => held.2.1 (locks.held.mp none), key ▸ found, locks,
    fun none => held.2.1 (locks.recorded.mp none)⟩

end Changes

/-- The claims of custody, on the ground. -/
def custody : Assertions Db Query Phase Env :=
  ground.extend Custody (fun id _ phase db => Knows id phase db) Held Held.refl
    (fun _ _ _ _ earlier later => earlier.trans later)

/-- What the commits of others keep for a process. -/
def Keeping (id : Nat) (before after : Db) : Prop := Steady before after ∧ Held id before after

section Entries
variable {settings : Settings} {id : Nat} {phase next : Phase} {writes : List Write} {db start : Db}

theorem keeping_keeps : Keeps (custody.rely id phase) (Keeping id) :=
  ⟨fun db => ⟨.refl db, .refl id db⟩, fun _ _ _ earlier later => ⟨earlier.1.trans later.1, earlier.2.trans later.2⟩,
    fun _ _ _ relied => relied⟩

/-- Reserved rows are found wherever the transaction looks for them. -/
theorem Reserved.found {reserved : ReservedEscrowCreation} {appId : String} (rows : Reserved id reserved db)
    (owner : reserved.created.appId = appId) : db.escrowForApp appId reserved.created.id = some reserved.created ∧
      db.transactionForApp appId ⟨id, 1⟩ = some (newTransaction ⟨id, 1⟩ reserved.created .lock) := by
  refine ⟨escrowForApp_some.mpr ⟨?_, owner⟩, transactionForApp_some.mpr ⟨rows.transaction, owner⟩⟩
  rw [rows.key]
  exact rows.escrow

theorem reserved_since (initially : Initially custody id phase start) {reserved : ReservedEscrowCreation}
    (carries : phase.cargo = .creation reserved) {here : Db} (since : Since custody.holds (Keeping id) start here) :
    Reserved id reserved here := by
  obtain ⟨_, _, _, knows⟩ := initially
  exact (knows.later since.2.2).creation reserved carries

/-- The lock of an escrow is recorded by the answer of the rail. -/
theorem locks_created {result : EscrowAdapterResult} {reserved : ReservedEscrowCreation} (now : Nat)
    (hash : result.txHash ≠ none) (valid : canTransitionEscrow .notCreated result.status = true) :
    Locks (transactionLockedBy (escrowLockedBy result reserved.created reserved.created) result.status now
      (newTransaction ⟨id, 1⟩ reserved.created .lock)) (escrowLockedBy result reserved.created reserved.created) := by
  have created : result.status ≠ .notCreated := canTransitionEscrow_stored valid
  refine ⟨rfl, rfl, rfl, ?_, ?_, fun _ => rfl⟩
  · change result.txHash = none ↔ result.status = .notCreated
    simp only [hash, created]
  · change result.txHash = none ↔ result.status = .notCreated
    simp only [hash, created]

theorem change_created {req : RequestContext} {input : CreateEscrowInput} (own : req.request = id)
    (absent : db.escrows.get ⟨req.request, 0⟩ = none) (missing : db.transactions.get ⟨req.request, 1⟩ = none)
    (escrows : Write.to .escrows writes = [.escrow (newEscrow req input)])
    (transactions : Write.to .transactions writes =
      [.transaction (newTransaction ⟨req.request, 1⟩ (newEscrow req input) .lock)]) :
    Change id db (Storage.view writes db) := by
  subst own
  have escrowRows : Write.to .escrows writes = [newEscrow req input].map Write.escrow := escrows
  have transactionRows : Write.to .transactions writes =
      [newTransaction ⟨req.request, 1⟩ (newEscrow req input) .lock].map Write.transaction := transactions
  have escrow : (Storage.view writes db).escrows.get ⟨req.request, 0⟩ = some (newEscrow req input) :=
    stored_escrows.get_last escrowRows rfl db
  have row : (Storage.view writes db).transactions.get ⟨req.request, 1⟩ =
      some (newTransaction ⟨req.request, 1⟩ (newEscrow req input) .lock) :=
    stored_transactions.get_last transactionRows rfl db
  refine .mine ?_ ?_ ?_ ?_ ?_
  · rw [escrow, row]
    exact .taken ⟨rfl, rfl, rfl, by simp [newTransaction, newEscrow], by simp [newEscrow], fun _ => rfl⟩
  · intro key other
    exact stored_escrows.get_of_ne escrowRows (fun row member => List.mem_singleton.mp member ▸ other.symm) db
  · intro old stored
    rw [absent] at stored
    cases stored
  · intro key other
    exact stored_transactions.get_of_ne transactionRows (fun row member => List.mem_singleton.mp member ▸ other.symm) db
  · intro old stored
    rw [missing] at stored
    cases stored

theorem change_locked {req : RequestContext} {reserved : ReservedEscrowCreation} {result : EscrowAdapterResult}
    {first : Option Failure} {old : Escrow} (own : reserved.transactionId = ⟨id, 1⟩)
    (initially : Initially custody id (.finalizingCreation req reserved result first) start)
    (knows : Knows id (.finalizingCreation req reserved result first) db)
    (valid : canTransitionEscrow .notCreated result.status = true)
    (stored : db.escrows.get reserved.created.id = some old)
    (booked : Booked custody.holds (Keeping id) start req.appId reserved.transactionId
      (transactionLockedBy (escrowLockedBy result reserved.created old) result.status) db
      (Write.to .transactions writes))
    (escrows : Write.to .escrows writes = [.escrow (escrowLockedBy result reserved.created old)]) :
    Change id db (Storage.view writes db) := by
  obtain ⟨owner, hash⟩ := knows.proper
  have rows := knows.creation reserved rfl
  obtain ⟨escrowFound, rowFound⟩ := rows.found owner
  have same : old = reserved.created := by
    rw [rows.key, rows.escrow] at stored
    exact (Option.some.inj stored).symm
  subst same
  rw [own] at booked
  generalize writtenIs : Write.to .transactions writes = written at booked
  cases booked with
  | missed missing =>
    obtain ⟨here, since, _, missing⟩ := missing
    have there := (reserved_since initially rfl since).found owner
    rw [there.2] at missing
    cases missing
  | @row row now _ storedRow =>
    rw [rows.transaction] at storedRow
    cases storedRow
    have escrowRows : Write.to .escrows writes =
        [escrowLockedBy result reserved.created reserved.created].map Write.escrow := escrows
    have transactionRows : Write.to .transactions writes = [transactionLockedBy
        (escrowLockedBy result reserved.created reserved.created) result.status now
        (newTransaction ⟨id, 1⟩ reserved.created .lock)].map Write.transaction := writtenIs
    have escrow : (Storage.view writes db).escrows.get ⟨id, 0⟩ =
        some (escrowLockedBy result reserved.created reserved.created) := by
      rw [← rows.key]
      exact stored_escrows.get_last escrowRows rfl db
    have row : (Storage.view writes db).transactions.get ⟨id, 1⟩ = some (transactionLockedBy
        (escrowLockedBy result reserved.created reserved.created) result.status now
        (newTransaction ⟨id, 1⟩ reserved.created .lock)) :=
      stored_transactions.get_last transactionRows rfl db
    refine .mine ?_ ?_ ?_ ?_ ?_
    · rw [escrow, row]
      exact .taken (locks_created now hash valid)
    · intro key other
      apply stored_escrows.get_of_ne escrowRows
      intro row member
      rw [List.mem_singleton.mp member]
      change reserved.created.id ≠ key
      rw [rows.key]
      exact other.symm
    · intro old stored
      rw [rows.escrow] at stored
      cases stored
      exact rows.fresh
    · intro key other
      exact stored_transactions.get_of_ne transactionRows
        (fun row member => List.mem_singleton.mp member ▸ other.symm) db
    · intro old stored
      rw [rows.transaction] at stored
      cases stored
      rfl

theorem change_discarded {req : RequestContext} {reserved : ReservedEscrowCreation} {error : Failure}
    (own : reserved.transactionId = ⟨id, 1⟩)
    (initially : Initially custody id (.discarding req reserved error) start)
    (knows : Knows id (.discarding req reserved error) db)
    (escrow : Deleted custody.holds (Keeping id) start (·.escrowForApp req.appId reserved.created.id)
      (fun row => row.status = .notCreated) .deleteEscrow db (Write.to .escrows writes))
    (transaction : Deleted custody.holds (Keeping id) start (·.transactionForApp req.appId reserved.transactionId)
      (fun _ => true) .deleteTransaction db (Write.to .transactions writes)) :
    Change id db (Storage.view writes db) := by
  have owner : reserved.created.appId = req.appId := knows.proper
  have rows := knows.creation reserved rfl
  obtain ⟨escrowFound, rowFound⟩ := rows.found owner
  have there : ∀ here, Since custody.holds (Keeping id) start here → Reserved id reserved here :=
    fun here since => reserved_since initially rfl since
  rw [own] at transaction
  have escrows : Write.to .escrows writes = [.deleteEscrow reserved.created] := by
    generalize Write.to .escrows writes = written at escrow ⊢
    cases escrow with
    | row _ stored =>
      rw [escrowFound] at stored
      cases stored
      rfl
    | missed missing =>
      obtain ⟨here, since, _, missing⟩ := missing
      have unmet := missing reserved.created ((there here since).found owner).1
      simp [rows.fresh] at unmet
  have transactions : Write.to .transactions writes =
      [.deleteTransaction (newTransaction ⟨id, 1⟩ reserved.created .lock)] := by
    generalize Write.to .transactions writes = written at transaction ⊢
    cases transaction with
    | row _ stored =>
      rw [rowFound] at stored
      cases stored
      rfl
    | missed missing =>
      obtain ⟨here, since, _, missing⟩ := missing
      have unmet := missing _ ((there here since).found owner).2
      cases unmet
  have escrowsAfter : (Storage.view writes db).escrows = db.escrows.remove ⟨id, 0⟩ := by
    rw [stored_escrows.others, escrows, ← rows.key]
    rfl
  have transactionsAfter : (Storage.view writes db).transactions = db.transactions.remove ⟨id, 1⟩ := by
    rw [stored_transactions.others, transactions]
    rfl
  refine .mine ?_ ?_ ?_ ?_ ?_
  · rw [escrowsAfter, transactionsAfter, Table.get_remove_self, Table.get_remove_self]
    exact .free
  · intro key other
    rw [escrowsAfter, Table.get_remove_of_ne other]
  · intro old stored
    rw [rows.escrow] at stored
    cases stored
    exact rows.fresh
  · intro key other
    rw [transactionsAfter, Table.get_remove_of_ne other]
  · intro old stored
    rw [rows.transaction] at stored
    cases stored
    rfl

/-- The hash of a funded escrow, which a funding may name anew on a sandbox rail. -/
theorem fundingMove_escrow {req : RequestContext} {before current updated : Escrow} {result : EscrowAdapterResult}
    (initially : Initially custody id (.finalizingFunding req before result) start)
    (knows : Knows id (.finalizingFunding req before result) db) (holds : Custody db)
    (seen : Seen (Since custody.holds (Keeping id) start) (Keeping id) db
      fun db => db.escrows.get before.id = some current)
    (verified : result.status ∈ [EscrowStatus.fundingDetected, .funded])
    (moved : FundingMove (Since custody.holds (Keeping id) start) (Keeping id) req.appId before.id current result db
      updated (Write.to .escrows writes)) :
    EscrowsMove db (Storage.view writes db) ∧ updated.lockTxHash ≠ none ∧
      (before.rail = .ckb → updated.lockTxHash = before.lockTxHash) := by
  have stands := knows.subject before rfl
  have standsAt : ∀ here, Since custody.holds (Keeping id) start here → Stands before here := by
    obtain ⟨_, _, _, known⟩ := initially
    exact fun here since => (known.subject before rfl).later since.2.2
  generalize writtenIs : Write.to .escrows writes = written at moved
  cases moved with
  | stays same there =>
    obtain ⟨here, since, _, there⟩ := there
    obtain ⟨now, _, found, held, hash, _⟩ := (standsAt here since).lock since.1.2
    rw [there] at found
    cases found
    exact ⟨escrowsMove_nil writtenIs, hash, fun ckb => congrArg Commitment.lockTxHash (held.2.2 ckb)⟩
  | @moves old valid status owner stored =>
    obtain ⟨now, _, found, held, hash, _⟩ := stands.lock holds
    rw [stored] at found
    cases found
    obtain ⟨here, since, _, there⟩ := seen
    obtain ⟨now, _, found, _, currentHash, _⟩ := (standsAt here since).lock since.1.2
    rw [there] at found
    cases found
    have written : result.txHash.or current.lockTxHash ≠ none := by
      cases result.txHash with
      | none => exact currentHash
      | some txHash => simp
    have same : before.rail = .ckb → result.txHash.or current.lockTxHash = before.lockTxHash := by
      intro ckb
      have lockHash : old.lockTxHash = before.lockTxHash := congrArg Commitment.lockTxHash (held.2.2 ckb)
      rw [knows.proper.2 ckb, ← lockHash]
      obtain ⟨txHash, some⟩ := Option.ne_none_iff_exists'.mp hash
      rw [some]
      rfl
    have key : old.id = before.id := Table.key_of_get stored
    have storedNow : db.escrows.get old.id = some old := key ▸ stored
    refine ⟨escrowsMove_put writtenIs storedNow held.2.1 written ⟨rfl, ?_, ?_⟩, written, same⟩
    · simp only [List.mem_cons, List.not_mem_nil, or_false] at verified
      rcases verified with is | is <;> simp [is]
    · intro ckb
      have beforeCkb : before.rail = .ckb := (congrArg EscrowTerms.rail held.1).symm.trans ckb
      have lockHash : old.lockTxHash = before.lockTxHash := congrArg Commitment.lockTxHash (held.2.2 beforeCkb)
      simp only [commitment, same beforeCkb, lockHash]

/-- The row that a funding books is the lock transaction of its escrow. -/
theorem fundingBooked_row {req : RequestContext} {before updated : Escrow} {result : EscrowAdapterResult}
    (initially : Initially custody id (.finalizingFunding req before result) start)
    (knows : Knows id (.finalizingFunding req before result) db) (holds : custody.holds db)
    (booked : FundingBooked custody.holds (Keeping id) start req.appId before.id result updated db
      (Write.to .transactions writes)) : Write.to .transactions writes = [] ∨ ∃ now old escrow,
      Write.to .transactions writes = [.transaction (transactionFundedBy result updated now old)] ∧
        db.transactions.get old.id = some old ∧ old.txHash ≠ none ∧ EscrowHeld before escrow ∧ Locks old escrow := by
  generalize Write.to .transactions writes = written at booked
  cases booked with
  | none => exact .inl rfl
  | @lock row added belongs type seen booked =>
    cases booked with
    | missed => exact .inl rfl
    | @row old updatedAt owner stored =>
      -- the row that was found is the lock transaction of the escrow
      obtain ⟨here, since, _, member⟩ := seen
      obtain ⟨rowKey, escrow, escrowKey, _, locksRow⟩ := since.1.2.owner since.1.1.typed member type
      have beforeKey : before.id = escrow.id := Option.some.inj (belongs.symm.trans locksRow.belongs)
      obtain ⟨now, lock, found, held, _, foundLock, locks, lockHash⟩ := (knows.subject before rfl).lock holds.2
      rw [beforeKey, escrowKey, ← rowKey, stored] at foundLock
      cases foundLock
      have oldKey : old.id = row.id := Table.key_of_get stored
      have storedOld : db.transactions.get old.id = some old := oldKey.symm ▸ stored
      exact .inr ⟨updatedAt, old, now, rfl, storedOld, lockHash, held, locks⟩

theorem fundingBooked_transaction {req : RequestContext} {before updated : Escrow} {result : EscrowAdapterResult}
    (initially : Initially custody id (.finalizingFunding req before result) start)
    (knows : Knows id (.finalizingFunding req before result) db) (holds : custody.holds db)
    (hash : updated.lockTxHash ≠ none) (sameHash : before.rail = .ckb → updated.lockTxHash = before.lockTxHash)
    (booked : FundingBooked custody.holds (Keeping id) start req.appId before.id result updated db
      (Write.to .transactions writes)) : TransactionsMove id db (Storage.view writes db) := by
  rcases fundingBooked_row initially knows holds booked with none | ⟨now, old, escrow, written, stored, some, held, locks⟩
  · exact transactionsMove_nil none
  · refine transactionsMove_put written (.inr ⟨old, stored, some, rfl, rfl, hash, ?_⟩)
    intro ckb
    have beforeCkb : before.rail = .ckb := by
      rw [← ckb, locks.rail]
      exact (congrArg EscrowTerms.rail held.1).symm
    have lockHash : escrow.lockTxHash = before.lockTxHash := congrArg Commitment.lockTxHash (held.2.2 beforeCkb)
    change updated.lockTxHash = old.txHash
    rw [sameHash beforeCkb, ← lockHash]
    exact (locks.sameHash (locks.rail ▸ ckb)).symm

/-- The status of a standing escrow moves, and no more than its settlement hashes with it. -/
theorem statusMove {subject old new : Escrow} (stands : Stands subject db) (holds : Custody db)
    (stored : db.escrows.get subject.id = some old) (key : new.id = old.id) (created : new.status ≠ .notCreated)
    (terms : new.terms = old.terms) (same : commitment new = commitment old)
    (escrows : Write.to .escrows writes = [.escrow new]) : EscrowsMove db (Storage.view writes db) := by
  obtain ⟨now, _, found, held, hash, _⟩ := stands.lock holds
  rw [stored] at found
  cases found
  have oldKey : old.id = subject.id := Table.key_of_get stored
  have lockHash : new.lockTxHash = old.lockTxHash := congrArg Commitment.lockTxHash same
  have storedNew : db.escrows.get new.id = some old := by
    rw [key, oldKey]
    exact stored
  exact escrowsMove_put escrows storedNew held.2.1 (lockHash ▸ hash) ⟨terms, created, fun _ => same⟩

/-- The settlement of the process itself is recorded on its row. -/
theorem settlementMove {operation : SettlementOperation} {reserved : ReservedEscrowSettlement} {appId : String}
    {change : Nat → Transaction → Transaction} (own : reserved.transactionId = ⟨id, 0⟩)
    (sameId : ∀ now row, (change now row).id = row.id)
    (stored : db.transactions.get ⟨id, 0⟩ =
      some (newTransaction ⟨id, 0⟩ reserved.pending (settlementType operation)))
    (booked : Booked custody.holds (Keeping id) start appId reserved.transactionId change db
      (Write.to .transactions writes)) : TransactionsMove id db (Storage.view writes db) := by
  rw [own] at booked
  generalize writtenIs : Write.to .transactions writes = written at booked
  cases booked with
  | missed => exact transactionsMove_nil writtenIs
  | @row old now owner found =>
    have key : (change now old).id = ⟨id, 0⟩ := (sameId now old).trans (Table.key_of_get found)
    refine transactionsMove_put writtenIs (.inl ⟨key, ?_⟩)
    intro row there
    rw [key, stored] at there
    cases there
    rfl

theorem reconciledMove {snapshot : Snapshot} {observation : Observation} {transaction : Transaction} {reorg : Bool}
    (knows : Knows id (.reconciling snapshot observation) db)
    (booked : Booked custody.holds (Keeping id) start snapshot.transaction.appId snapshot.transaction.id
      (transactionReconciledBy transaction observation reorg) db (Write.to .transactions writes)) :
    TransactionsMove id db (Storage.view writes db) := by
  obtain ⟨row, stored, _, _, hash⟩ := knows.snapshot snapshot rfl
  generalize writtenIs : Write.to .transactions writes = written at booked
  cases booked with
  | missed => exact transactionsMove_nil writtenIs
  | @row old now owner found =>
    rw [stored] at found
    cases found
    have key : row.id = snapshot.transaction.id := Table.key_of_get stored
    have there : db.transactions.get row.id = some row := key.symm ▸ stored
    have some : row.txHash ≠ none := by simp [hash]
    exact transactionsMove_put writtenIs (.inr ⟨row, there, some, rfl, rfl, some, fun _ => rfl⟩)

theorem pending_created (operation : SettlementOperation) : settlementPendingStatus operation ≠ .notCreated := by
  cases operation <;> simp [settlementPendingStatus]

theorem settlementNext_created (operation : SettlementOperation) (current : Escrow) (status : EscrowStatus) :
    settlementNextStatus operation current status ≠ .notCreated := by
  intro fresh
  have member := settlementNextStatus_mem operation current status
  rw [fresh] at member
  cases operation <;> simp [settlementPendingStatus, settlementTerminalStatus] at member

/-- Every commit is a change that custody allows. -/
theorem entry_change (own : phase.Owned id) (initially : Initially custody id phase start)
    (holds : custody.holds db) (knows : Knows id phase db)
    (entry : Entry custody.holds (Keeping id) start db phase next (Write.to .escrows writes)
      (Write.to .transactions writes)) : Change id db (Storage.view writes db) := by
  generalize escrowsIs : Write.to .escrows writes = escrows at entry
  generalize transactionsIs : Write.to .transactions writes = transactions at entry
  cases entry with
  | created absent missing => exact change_created (own.request _ rfl) absent missing escrowsIs transactionsIs
  | locked valid fresh owner stored booked =>
    exact change_locked (own.creation _ rfl) initially knows valid stored (transactionsIs ▸ booked) escrowsIs
  | discarded escrow transaction =>
    exact change_discarded (own.creation _ rfl) initially knows (escrowsIs ▸ escrow) (transactionsIs ▸ transaction)
  | fundedAlready => exact .moved (escrowsMove_nil escrowsIs) (transactionsMove_nil transactionsIs)
  | funded seen owner unfunded verified moved booked =>
    obtain ⟨escrow, hash, same⟩ := fundingMove_escrow initially knows holds.2 seen verified (escrowsIs ▸ moved)
    exact .moved escrow (fundingBooked_transaction initially knows holds hash same (transactionsIs ▸ booked))
  | @reserved req operation escrowId seen old funded owner stored unique seenFunded seenThere guard absent =>
    have key : old.id = escrowId := Table.key_of_get stored
    have storedOld : db.escrows.get old.id = some old := key.symm ▸ stored
    have stands : Stands old db := ⟨by simp [funded], old, storedOld, rfl, by simp [funded], fun _ => rfl⟩
    have moved : EscrowsMove db (Storage.view writes db) := by
      apply statusMove stands holds.2 storedOld _ _ _ _ escrowsIs
      · rfl
      · exact pending_created operation
      · rfl
      · rfl
    refine .moved moved (transactionsMove_put transactionsIs (.inl ⟨?_, ?_⟩))
    · rw [← own.request _ rfl]
      rfl
    · intro row there
      rw [show (newTransaction ⟨req.request, 0⟩ _ _).id = ⟨req.request, 0⟩ from rfl, absent] at there
      cases there
  | failed pending owner stored booked =>
    have subject := knows.subject _ rfl
    have moved : EscrowsMove db (Storage.view writes db) := by
      apply statusMove subject holds.2 stored _ _ _ _ escrowsIs
      · rfl
      · simp
      · rfl
      · rfl
    exact .moved moved
      (settlementMove (own.settlement _ rfl) (by intros; rfl) (knows.settlement _ _ rfl) (transactionsIs ▸ booked))
  | @settled req operation reserved result first reply old nextStatus transactions nextIs pending owner stored booked =>
    have subject := knows.subject _ rfl
    have created : nextStatus ≠ .notCreated := nextIs ▸ settlementNext_created operation old result.status
    refine .moved (statusMove subject holds.2 stored (escrowSettledBy_id ..) ?_ ?_ ?_ escrowsIs)
      (settlementMove (own.settlement _ rfl) (by intros; rfl) (knows.settlement _ _ rfl) (transactionsIs ▸ booked))
    · cases operation <;> exact created
    · cases operation <;> rfl
    · cases operation <;> rfl
  | reconciled read moved booked =>
    refine .moved ?_ (reconciledMove knows (transactionsIs ▸ booked))
    cases moved with
    | stays same => exact escrowsMove_nil escrowsIs
    | moves different valid status owner stored =>
      apply statusMove (knows.subject _ rfl) holds.2 stored _ _ _ _ escrowsIs
      · rfl
      · exact canTransitionEscrow_stored valid
      · rfl
      · rfl
  | aside => exact .moved (escrowsMove_nil escrowsIs) (transactionsMove_nil transactionsIs)

section Phases
variable {req : RequestContext}

theorem Phase.Idle.proper (idle : phase.Idle) : phase.Proper := by
  obtain ⟨cargo, subject⟩ := idle
  cases phase <;> first | trivial | cases cargo | cases subject

theorem Knows.of_idle (idle : phase.Idle) : Knows id phase db := by
  have carries := idle.1
  have works := idle.2
  refine ⟨idle.proper, ?_, ?_, ?_, ?_⟩
  · intro escrow found
    rw [works] at found
    cases found
  all_goals
    intros
    rename_i found
    rw [carries] at found
    cases found

theorem Knows.carried (knows : Knows id phase db) (cargo : next.cargo = phase.cargo)
    (subject : next.subject = phase.subject) (proper : next.Proper) : Knows id next db where
  proper := proper
  subject escrow found := knows.subject escrow (subject ▸ found)
  creation reserved found := knows.creation reserved (cargo ▸ found)
  settlement operation reserved found := knows.settlement operation reserved (cargo ▸ found)
  snapshot snapshot found := knows.snapshot snapshot (cargo ▸ found)

theorem knows_caught (error : Failure) (knows : Knows id phase db) : Knows id (caught phase error) db := by
  rcases caught_cases phase error with idle | ⟨_, _, _, rfl, same⟩ | ⟨_, _, _, _, rfl, same⟩
  · exact .of_idle idle
  · rw [same]
    exact knows.carried rfl rfl knows.proper
  · rw [same]
    exact knows.carried rfl rfl knows.proper

/-- The rail confirms a funding under the hash of the lock. -/
theorem markFundedCkb_ok {before : Escrow} {txHash : Option String} {answers : VerifyAnswers}
    {result : EscrowAdapterResult} (marked : markFundedCkb settings before txHash answers = .ok result) :
    checkFundingStatus settings before answers = .ok result := by
  unfold markFundedCkb at marked
  split at marked
  next =>
    split at marked
    next => cases marked
    next => exact marked
  next => exact marked

theorem requiredContext_ok {escrow : Escrow} {context : CkbContext} (complete : requiredContext escrow = .ok context) :
    escrow.lockTxHash = some context.lockTxHash ∧ escrow.lockOutputIndex = some context.lockOutputIndex := by
  unfold requiredContext at complete
  split at complete
  next _ _ _ _ _ _ _ hash index _ _ _ _ _ =>
    cases complete
    exact ⟨present_some hash, index⟩
  next => cases complete

theorem proper_outside {env after : Env} {external : External} (proper : phase.Proper)
    (taken : outside settings env id phase external = some (after, next)) : next.Proper := by
  cases phase <;> cases external <;> try (cases taken; done)
  case locking.localRail =>
    simp only [outside] at taken
    split at taken
    next => cases taken
    next => cases taken; exact ⟨proper, by simp [mockLock]⟩
  case funding.localRail =>
    simp only [outside] at taken
    split at taken
    next => cases taken
    next other => cases taken; exact ⟨proper, fun ckb => absurd ckb other⟩
  case settling.localRail =>
    simp only [outside] at taken
    split at taken
    next => cases taken
    next => cases taken; exact proper
  case locking.sign | settling.sign =>
    simp only [outside] at taken
    split at taken
    next => cases taken
    next => split at taken <;> (cases taken; exact proper)
  case funding.verify =>
    simp only [outside] at taken
    split at taken
    next => cases taken
    next =>
      split at taken
      next marked =>
        cases taken
        refine ⟨proper, fun _ => ?_⟩
        obtain ⟨_, _, checked⟩ := Guard.bind_ok_iff.mp (markFundedCkb_ok marked)
        obtain ⟨context, complete, checked⟩ := Guard.bind_ok_iff.mp checked
        obtain ⟨_, _, checked⟩ := Guard.bind_ok_iff.mp checked
        cases checked
        exact (requiredContext_ok complete).1.symm
      next => cases taken; trivial
  case observing.observe =>
    simp only [outside] at taken
    split at taken <;> (cases taken; trivial)
  all_goals
    simp only [outside, Option.some.injEq, Prod.mk.injEq] at taken
    rw [← taken.2]
    first | exact proper | exact ⟨proper, by simp [lockResult]⟩

theorem knows_outside {env after : Env} {external : External} (knows : Knows id phase db)
    (taken : outside settings env id phase external = some (after, next)) : Knows id next db := by
  rcases outside_cases taken with idle | ⟨cargo, subject⟩
  · exact .of_idle idle
  · exact knows.carried cargo subject (proper_outside knows.proper taken)

theorem knows_created {input : CreateEscrowInput} {index : Option Nat} (own : req.request = id)
    (escrows : Write.to .escrows writes = [.escrow (newEscrow req input)])
    (transactions : Write.to .transactions writes =
      [.transaction (newTransaction ⟨req.request, 1⟩ (newEscrow req input) .lock)]) :
    Knows id (.locking req ⟨newEscrow req input, index, ⟨req.request, 1⟩⟩) (Storage.view writes db) := by
  subst own
  have escrowRows : Write.to .escrows writes = [newEscrow req input].map Write.escrow := escrows
  have transactionRows : Write.to .transactions writes =
      [newTransaction ⟨req.request, 1⟩ (newEscrow req input) .lock].map Write.transaction := transactions
  refine ⟨rfl, ?_, ?_, ?_, ?_⟩
  · intro escrow found
    cases found
  · intro reserved found
    cases found
    exact ⟨rfl, rfl, stored_escrows.get_last escrowRows rfl db, stored_transactions.get_last transactionRows rfl db⟩
  · intro operation reserved found
    cases found
  · intro snapshot found
    cases found

theorem knows_reserved {operation : SettlementOperation} {seen old : Escrow} (own : req.request = id)
    (owner : old.appId = req.appId)
    (escrows : Write.to .escrows writes = [.escrow { old with status := settlementPendingStatus operation }])
    (transactions : Write.to .transactions writes = [.transaction (newTransaction ⟨req.request, 0⟩
      { old with status := settlementPendingStatus operation } (settlementType operation))]) :
    Knows id (.settling req operation
      ⟨seen, { old with status := settlementPendingStatus operation }, ⟨req.request, 0⟩⟩) (Storage.view writes db) := by
  subst own
  have escrowRows : Write.to .escrows writes =
      [{ old with status := settlementPendingStatus operation }].map Write.escrow := escrows
  have transactionRows : Write.to .transactions writes = [newTransaction ⟨req.request, 0⟩
      { old with status := settlementPendingStatus operation } (settlementType operation)].map Write.transaction :=
    transactions
  refine ⟨owner, ?_, ?_, ?_, ?_⟩
  · intro escrow found
    cases found
    have created := pending_created operation
    exact ⟨created, _, stored_escrows.get_last escrowRows rfl db, rfl, created, fun _ => rfl⟩
  · intro reserved found
    cases found
  · intro other reserved found
    cases found
    exact stored_transactions.get_last transactionRows rfl db
  · intro snapshot found
    cases found

/-- A row under a hash that was read before stands afterwards. -/
theorem Stands.seen {escrow : Escrow} (created : escrow.status ≠ .notCreated)
    (seen : Seen custody.holds (Keeping id) db fun db => db.escrows.get escrow.id = some escrow) : Stands escrow db := by
  obtain ⟨_, _, keeping, stored⟩ := seen
  obtain ⟨now, found, held⟩ := keeping.2.escrows _ _ stored created
  exact ⟨created, now, found, held⟩

theorem Keeping.trans {first second third : Db} (earlier : Keeping id first second)
    (later : Keeping id second third) : Keeping id first third :=
  ⟨earlier.1.trans later.1, earlier.2.trans later.2⟩

/-- The escrow of a transaction under a hash was locked. -/
theorem custody_created (holds : custody.holds db) {row : Transaction} {escrow : Escrow}
    (member : row ∈ db.transactions) (hash : row.txHash ≠ none) (belongs : row.escrowId = some escrow.id)
    (stored : db.escrows.get escrow.id = some escrow) : escrow.status ≠ .notCreated := by
  by_cases type : row.type = .lock
  · obtain ⟨_, owner, key, there, locks⟩ := holds.2.owner holds.1.typed member type
    have same : owner.id = escrow.id := Option.some.inj (locks.belongs.symm.trans belongs)
    rw [← key, same, stored] at there
    cases there
    exact fun fresh => hash (locks.recorded.mpr fresh)
  · obtain ⟨owner, backs⟩ := holds.1.backed row member type
    have same : owner.id = escrow.id := Option.some.inj (backs.belongs.symm.trans belongs)
    have there := backs.stored
    rw [same, stored] at there
    cases there
    exact backs.created

theorem knows_loaded {transactionId : RowId}
    (commits : Commits (app settings) custody id (.loading transactionId) next writes db)
    (steady : Keeping id db (Storage.view writes db)) : Knows id next (Storage.view writes db) := by
  obtain ⟨loaded, rfl, belongs, rail, hash, here, ⟨holds, first, _, before, transaction⟩, onwards, escrow⟩ :=
    loading_commits keeping_keeps commits
  obtain ⟨row, there, _, terms, recorded, same⟩ := before.2.transactions _ _ transaction (by simp [hash])
  have scope : row.escrowId = some loaded.escrow.id := (congrArg TransactionTerms.escrowId terms).trans belongs
  have created := custody_created holds (Table.mem_of_get there) recorded scope escrow
  obtain ⟨now, thereNow, _, termsNow, _, sameNow⟩ := (onwards.trans steady).2.transactions _ _ there recorded
  have ckb : row.rail = .ckb := (congrArg TransactionTerms.rail terms).trans rail
  refine ⟨trivial, ?_, ?_, ?_, ?_⟩
  · intro escrow found
    cases found
    exact (Stands.seen created ⟨here, holds, onwards, escrow⟩).later steady.2
  · intro reserved found
    cases found
  · intro operation reserved found
    cases found
  · intro snapshot found
    cases found
    exact ⟨now, thereNow, (congrArg TransactionTerms.rail termsNow).trans ckb, termsNow.trans terms,
      (sameNow ckb).trans ((same rail).trans hash)⟩

theorem knows_funding {escrowId : RowId} {txHash : Option String}
    (commits : Commits (app settings) custody id (.fundingReserving req escrowId txHash) next writes db)
    (steady : Keeping id db (Storage.view writes db)) : Knows id next (Storage.view writes db) := by
  obtain ⟨program, start, last, runs, _, outcome, later⟩ := commits
  cases runs
  obtain ⟨before, middle, outcome, rfl, rfl⟩ := outcome_bind.mp outcome
  obtain ⟨⟨here, holds, earlier, stored⟩, owner, created⟩ := reserveFunding_commits keeping_keeps outcome
  have onwards : Keeping id last.db db := later.keeps keeping_keeps
  split
  next => exact .of_idle ⟨rfl, rfl⟩
  next =>
    refine ⟨owner, ?_, ?_, ?_, ?_⟩
    · intro escrow found
      cases found
      exact (Stands.seen created ⟨here, holds, earlier.trans onwards, stored⟩).later steady.2
    all_goals
      intros
      rename_i found
      cases found

/-- A commit that writes neither escrows nor transactions keeps all of them. -/
theorem keeping_unwritten (steady : Steady db (Storage.view writes db)) (escrows : Write.to .escrows writes = [])
    (transactions : Write.to .transactions writes = []) : Keeping id db (Storage.view writes db) := by
  have held := Held.refl id db
  refine ⟨steady, ?_, ?_, ?_, ?_⟩
  · rw [stored_escrows.untouched escrows]
    exact held.escrows
  · rw [stored_transactions.untouched transactions]
    exact held.transactions
  · rw [stored_escrows.untouched escrows]
    exact held.ownEscrows
  · rw [stored_transactions.untouched transactions]
    exact held.ownTransactions

/-- What the phase after a commit knows. -/
theorem commits_knows (own : phase.Owned id) (commits : Commits (app settings) custody id phase next writes db)
    (entry : Entry custody.holds (Keeping id) start db phase next (Write.to .escrows writes)
      (Write.to .transactions writes)) : Knows id next (Storage.view writes db) := by
  have steady := commits_steady own commits
  by_cases opening : phase.isOpening = true
  · generalize escrowsIs : Write.to .escrows writes = escrows at entry
    generalize transactionsIs : Write.to .transactions writes = transactions at entry
    cases phase with
    | creating req input =>
      cases entry with
      | aside aside => cases aside
      | created absent missing =>
        exact knows_created (own.request _ rfl) escrowsIs transactionsIs
    | settlementReserving req operation escrowId =>
      cases entry with
      | aside aside => cases aside
      | reserved funded owner stored => exact knows_reserved (own.request _ rfl) owner escrowsIs transactionsIs
    | loading transactionId =>
      cases entry with
      | aside aside => exact knows_loaded commits (keeping_unwritten steady escrowsIs transactionsIs)
    | fundingReserving req escrowId txHash =>
      cases entry with
      | aside aside => exact knows_funding commits (keeping_unwritten steady escrowsIs transactionsIs)
    | _ => cases opening
  · exact .of_idle (commits_idle (by simpa using opening) commits)

end Phases

theorem custody_preserved : Preserved (app settings) custody (fun _ _ => True) := by
  apply ground_preserved.extend
  case implies => intros; trivial
  case arrive => exact fun id request env db => .of_idle (idle_arrival request)
  case caught => exact fun id env phase db error known => knows_caught error known
  case outside =>
    intro state id phase external env next _ _ _ _ _ known taken
    exact ⟨knows_outside known taken, fun _ _ _ known => known⟩
  case commit =>
    intro state id phase next log writes _ base holds _ known knows commits _
    obtain ⟨start, initially, _, entry⟩ := commits_entry keeping_keeps (fun _ _ keeping => keeping.1) commits
    have change := entry_change known.1 initially ⟨base, holds⟩ knows entry
    refine ⟨change.custody holds, commits_knows known.1 commits entry, ?_⟩
    intro other process different _ _ _ known
    have held := change.held different
    exact ⟨known.later held, held⟩

theorem custody_empty : custody.holds Db.empty :=
  ⟨ground_empty, fun _ => .free, fun _ _ stored => absurd (Table.mem_of_get stored) (Table.not_mem_empty _)⟩

end Entries

end PactAgent.Server
