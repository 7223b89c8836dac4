import PactAgent.Server.History

/-! One escrow for each settlement scope. A creation reads the terminal escrows of its
scope, and later inserts under an index that covers the active ones only: an escrow
that ends in between is seen by neither. Where that does not happen, no two escrows
share a scope. -/

namespace PactAgent.Server
open PactAgent.Common PactAgent.Foundation PactAgent.Lifecycle PactAgent.Store PactAgent.Escrow
open PactAgent.Foundation.Execution PactAgent.Foundation.ReadCommitted
open PactAgent.Rail.Builder

/-- No two escrows have the same scope. -/
def ScopesUnique (db : Db) : Prop :=
  ∀ first ∈ db.escrows, ∀ second ∈ db.escrows, first.scope = second.scope → first = second

/-- No escrow of the scope has reached a terminal status. -/
def Quiet (scope : Scope) (before after : Db) : Prop :=
  ∀ row ∈ after.escrows, row.scope = scope → row.status.terminal = true →
    ∃ old ∈ before.escrows, old.scope = scope ∧ old.status.terminal = true

/-- A creation between its read of the terminal escrows and its insert. -/
def inWindow (log : List Query) : Bool := decide (.findTerminalEscrow ∈ log ∧ .createEscrow ∉ log)

/-- The scope that a creation in this phase works on. -/
def Phase.creationScope : Phase → Option Scope
  | .creating req input => some (input.scope req.appId)
  | _ => none

section Rows
variable {db : Db} {writes : List Write} {request : Nat}

/-- A lawful write over a stored escrow keeps the scopes apart. -/
theorem scopesUnique_write {write : Write} (lawful : Lawful request db write) (replaces : Replaces db write)
    (unique : ScopesUnique db) : ScopesUnique (applyWrite write db) := by
  cases write with
  | escrow row =>
    obtain ⟨old, stored⟩ := Option.isSome_iff_exists.mp replaces
    simp only [Lawful, stored] at lawful
    have oldIn : old ∈ db.escrows := Table.mem_of_get stored
    have key : old.id = row.id := Table.key_of_get stored
    have scope : row.scope = old.scope := congrArg EscrowTerms.scope lawful.2
    -- a row beside the written one that shares its scope would share it with the old row
    have alone : ∀ other ∈ db.escrows, other.id ≠ row.id → other.scope ≠ row.scope := by
      intro other otherIn different same
      have equal := unique other otherIn old oldIn (same.trans scope)
      exact different (equal ▸ key)
    intro first firstIn second secondIn same
    rcases Table.mem_put.mp firstIn with isRow | ⟨firstIn, firstNe⟩
    · rcases Table.mem_put.mp secondIn with alsoRow | ⟨secondIn, secondNe⟩
      · rw [isRow, alsoRow]
      · exact absurd (isRow ▸ same.symm) (alone second secondIn secondNe)
    · rcases Table.mem_put.mp secondIn with isRow | ⟨secondIn, _⟩
      · exact absurd (isRow ▸ same) (alone first firstIn firstNe)
      · exact unique first firstIn second secondIn same
  | deleteEscrow row =>
    intro first firstIn second secondIn same
    exact unique first (Table.mem_remove.mp firstIn).1 second (Table.mem_remove.mp secondIn).1 same
  | _ => exact unique

theorem scopesUnique_view (lawful : Storage.Chain (Lawful request) writes db)
    (replaces : Storage.Chain Replaces writes db) (unique : ScopesUnique db) :
    ScopesUnique (Storage.view writes db) := by
  induction writes generalizing db with
  | nil => exact unique
  | cons write writes ih =>
    exact ih lawful.2 replaces.2 (scopesUnique_write lawful.1 replaces.1 unique)

end Rows

section Creation
variable {settings : Settings} {rely : List Query → Db → Db → Prop} {good : Db → Prop}
variable {req : RequestContext} {input : CreateEscrowInput}

theorem asks_assertEscrowAgreementScope (appId : String) :
    (assertEscrowAgreementScope appId input).Asks (· ≠ .createEscrow) := by
  apply Program.asks_bind
  · refine ⟨by simp, ?_⟩
    intro found
    trivial
  intro found
  apply Program.asks_bind
  · cases found <;> trivial
  intro agreement
  split
  next milestoneId =>
    apply Program.asks_bind
    · refine ⟨by simp, ?_⟩
      intro milestone
      cases milestone with
      | none => trivial
      | some milestone =>
        change Program.Asks _ (if _ then _ else _)
        split <;> trivial
    intro milestone
    apply Program.asks_bind (Program.asks_ofExcept _)
    intro _
    apply Program.asks_bind (Program.asks_ofExcept _)
    intro _
    trivial
  next =>
    apply Program.asks_bind (Program.asks_ofExcept _)
    intro _
    apply Program.asks_bind (Program.asks_ofExcept _)
    intro _
    trivial

/-- Without a terminal escrow for the milestone or the agreement, none has the scope. -/
theorem findTerminalEscrow_none {before after : Point Db Write Query}
    (outcome : Outcome rely good (findTerminalEscrow req.appId input) before none after) :
    ∃ here, Later rely good before here ∧ after = here.record .findTerminalEscrow [] ∧
      ∀ row ∈ here.view.escrows, row.scope = input.scope req.appId → row.status.terminal = false := by
  unfold findTerminalEscrow at outcome
  split at outcome
  next milestoneId held =>
    obtain ⟨here, later, absent, ended⟩ := outcome_read.mp outcome
    refine ⟨here, later, ended, ?_⟩
    intro row member same
    have fails := Table.first_none absent.symm member
    have app : row.appId = req.appId := congrArg Scope.appId same
    have milestone : row.milestoneId = some milestoneId := (congrArg Scope.milestoneId same).trans held
    simpa [app, milestone] using fails
  next held =>
    obtain ⟨here, later, absent, ended⟩ := outcome_read.mp outcome
    refine ⟨here, later, ended, ?_⟩
    intro row member same
    have fails := Table.first_none absent.symm member
    have app : row.appId = req.appId := congrArg Scope.appId same
    have agreement : row.agreementId = input.agreementId := congrArg Scope.agreementId same
    have milestone : row.milestoneId = none := (congrArg Scope.milestoneId same).trans held
    simpa [app, agreement, milestone] using fails

/-- What a committed creation inserted, and that its scope was free. -/
theorem reserveEscrowCreation_alone {start : Db} {reserved : ReservedEscrowCreation}
    {last final : Point Db Write Query}
    (quiet : ∀ log before after, inWindow log = true → rely log before after →
      Quiet (input.scope req.appId) before after)
    (outcome : Outcome rely good (reserveEscrowCreation settings req input) ⟨[], [], start⟩ reserved last)
    (later : Later rely good last final) :
    final.view.escrows = final.db.escrows.put (newEscrow req input) ∧
      ∀ row ∈ final.db.escrows, row.scope ≠ input.scope req.appId := by
  unfold reserveEscrowCreation at outcome
  obtain ⟨_, reservedKey, keyed, outcome⟩ := outcome_bind.mp outcome
  have wrote := (Wrote.start start).beside keyed (@accompanies_reserveRequest settings 0 .any req fun _ _ _ _ => trivial)
  obtain ⟨milestone, checked, agreed, outcome⟩ := outcome_bind.mp outcome
  have wrote := wrote.beside agreed (@accompanies_assertEscrowAgreementScope 0 .any _ _)
  obtain ⟨terminal, read, lookedUp, outcome⟩ := outcome_bind.mp outcome
  cases terminal with
  | some row => exact outcome.elim
  | none =>
  obtain ⟨active, before, activeRead, outcome⟩ := outcome_bind.mp outcome
  cases active with
  | some row => exact outcome.elim
  | none =>
  obtain ⟨created, inserted, insertion, outcome⟩ := outcome_bind.mp outcome
  obtain ⟨transaction, recorded, insertedTransaction, outcome⟩ := outcome_bind.mp outcome
  obtain ⟨_, rfl⟩ := outcome
  -- no terminal escrow of the scope when they were read
  obtain ⟨seen, laterSeen, rfl, noTerminal⟩ := findTerminalEscrow_none lookedUp
  have wroteSeen := wrote.congr laterSeen.writes
  have windowed : inWindow (seen.log ++ [.findTerminalEscrow]) = true := by
    obtain ⟨asked, sameLog, each⟩ := agreed.log (asks_assertEscrowAgreementScope req.appId)
    obtain ⟨_, _, _, laterKey, _, rfl⟩ := outcome_statement.mp keyed
    have log : seen.log = [.reserveIdempotencyKey] ++ asked := by
      rw [laterSeen.log, sameLog, Point.record, laterKey.log]
      rfl
    have absent : Query.createEscrow ∉ asked := fun member => each _ member rfl
    simp [inWindow, log, absent]
  obtain ⟨mid, laterMid, _, rfl⟩ := outcome_read.mp activeRead
  obtain ⟨here, laterHere, rfl, free, rfl⟩ := outcome_insert (outcome_mapError.mp insertion)
  -- none has ended since, so that none of the scope is there at the insert
  have first : Quiet (input.scope req.appId) seen.db mid.db :=
    quiet _ _ _ windowed laterMid.rely
  have second : Quiet (input.scope req.appId) mid.db here.db := by
    apply quiet _ _ _ _ laterHere.rely
    have log : (mid.record .findActiveEscrowForScope []).log =
        seen.log ++ [.findTerminalEscrow] ++ [.findActiveEscrowForScope] := by
      rw [Point.record, laterMid.log, Point.record]
    rw [log]
    simp only [inWindow, List.mem_append, decide_eq_true_eq] at windowed ⊢
    simpa using windowed
  have viewSeen : seen.view.escrows = seen.db.escrows := by
    rw [wroteSeen.view_escrows]
    rfl
  have wroteMid := ((wroteSeen.record_read .findTerminalEscrow).congr laterMid.writes).record_read
    .findActiveEscrowForScope
  have wroteHere := wroteMid.congr laterHere.writes
  have viewHere : here.view.escrows = here.db.escrows := by
    rw [wroteHere.view_escrows]
    rfl
  have nobody : ∀ row ∈ here.db.escrows, row.scope ≠ input.scope req.appId := by
    intro row member same
    by_cases ended : row.status.terminal = true
    · obtain ⟨middle, middleIn, middleScope, middleEnded⟩ := second row member same ended
      obtain ⟨old, oldIn, oldScope, oldEnded⟩ := first middle middleIn middleScope middleEnded
      rw [← viewSeen] at oldIn
      rw [noTerminal old oldIn oldScope] at oldEnded
      cases oldEnded
    · simp only [Bool.or_eq_false_iff, viewHere] at free
      have fresh : row.id ≠ (newEscrow req input).id := by
        intro equal
        have stored := Table.get_of_mem member
        rw [show Keyed.key row = (newEscrow req input).id from equal] at stored
        rw [stored] at free
        cases free.1
      have clash : activeScopeClashes (newEscrow req input) here.view = true := by
        unfold activeScopeClashes
        rw [Bool.and_eq_true]
        refine ⟨rfl, List.any_eq_true.mpr ⟨row, ?_, ?_⟩⟩
        · rw [viewHere]
          exact member
        · simp only [Bool.and_eq_true, decide_eq_true_eq, Bool.not_eq_true']
          exact ⟨⟨fresh, same⟩, by simpa using ended⟩
      rw [clash] at free
      cases free.2
  -- the index entry of the inserted row keeps the scope free until the commit
  have wroteInsert := wroteHere.record_escrow .createEscrow (newEscrow req input)
  have follows : Follows (here.record .createEscrow [.escrow (newEscrow req input)]) final :=
    insertedTransaction.follows.trans later.follows
  have appeared : NoneAppeared (fun row => row.scope = (newEscrow req input).scope) here.db.escrows
      final.db.escrows := by
    apply follows.locked (.escrow (newEscrow req input)) (by simp [Point.record])
      (.escrowScope (newEscrow req input).scope)
    simp [Storage.locks, writeLocks]
  obtain ⟨there, laterThere, _, _, rfl⟩ := outcome_insert insertedTransaction
  have wroteBoth := (wroteInsert.congr laterThere.writes).record_transaction .createTransaction
    (newTransaction ⟨req.request, 1⟩ (newEscrow req input) .lock)
  have wroteFinal := wroteBoth.congr later.writes
  refine ⟨?_, ?_⟩
  · rw [wroteFinal.view_escrows]
    rfl
  · intro row member same
    exact nobody row (appeared row member same) same

end Creation

section Claims
variable {settings : Settings}

/-- What is claimed: unique scopes, and quiet ones while a creation is in its window. -/
def scopeClaims : Assertions Db Query Phase Env where
  holds := ScopesUnique
  knows id _ phase _ := phase.Owned id
  rely _ phase log before after := ∀ scope, phase.creationScope = some scope → inWindow log = true →
    Quiet scope before after
  rely_refl _ _ _ _ := fun _ _ _ row member same ended => ⟨row, member, same, ended⟩
  rely_trans _ _ _ _ _ _ earlier later := by
    intro scope creation window row member same ended
    obtain ⟨middle, middleIn, middleSame, middleEnded⟩ := later scope creation window row member same ended
    exact earlier scope creation window middle middleIn middleSame middleEnded

/-- No commit ends an escrow of a scope while a creation for the scope is in its window. -/
def undisturbed (state : State) : Action → Prop
  | .finish id => ∀ other, other ≠ id → ∀ phase session, state.processes other = some ⟨phase, some session, true⟩ →
      inWindow session.log = true → ∀ scope, phase.creationScope = some scope →
      ∀ row, .escrow row ∈ committed state (.finish id : Action) → row.scope = scope → row.status.terminal = false
  | _ => True

theorem scopesUnique_insert {db : Db} {row : Escrow} (alone : ∀ other ∈ db.escrows, other.scope ≠ row.scope)
    (unique : ScopesUnique db) {after : Db} (inserted : after.escrows = db.escrows.put row) :
    ScopesUnique after := by
  intro first firstIn second secondIn same
  rw [inserted] at firstIn secondIn
  rcases Table.mem_put.mp firstIn with isRow | ⟨firstIn, _⟩
  · rcases Table.mem_put.mp secondIn with alsoRow | ⟨secondIn, _⟩
    · rw [isRow, alsoRow]
    · exact absurd (isRow ▸ same.symm) (alone second secondIn)
  · rcases Table.mem_put.mp secondIn with isRow | ⟨secondIn, _⟩
    · exact absurd (isRow ▸ same) (alone first firstIn)
    · exact unique first firstIn second secondIn same

theorem commit_scopesUnique {id : Nat} {phase next : Phase} {writes : List Write} {db : Db}
    (own : phase.Owned id) (unique : ScopesUnique db)
    (commits : Commits (app settings) scopeClaims id phase next writes db) :
    ScopesUnique (Storage.view writes db) := by
  by_cases creating : phase.isCreating = true
  · cases phase with
    | creating req input =>
      obtain ⟨program, start, last, runs, _, outcome, later⟩ := commits
      cases runs
      obtain ⟨reserved, middle, outcome, rfl, rfl⟩ := outcome_bind.mp outcome
      obtain ⟨inserted, alone⟩ := reserveEscrowCreation_alone
        (fun log before after window relied => relied _ rfl window) outcome later
      exact scopesUnique_insert alone unique inserted
    | _ => cases creating
  · have lawful := commits_chain own commits
    have replaces := commits_replaces own (by simpa using creating) commits
    exact scopesUnique_view lawful replaces unique

theorem scopeClaims_preserved : Preserved (app settings) scopeClaims undisturbed where
  arrive _ request _ _ := owned_arrival request
  caught _ _ _ _ error own := owned_caught own error
  outside _ _ _ _ _ _ _ _ _ own taken := ⟨owned_outside own taken, fun _ _ _ other => other⟩
  commit state id phase next log writes met unique here own commits := by
    refine ⟨commit_scopesUnique own unique commits, commits_owned own commits, ?_⟩
    intro other process different there alive known
    refine ⟨known, ?_⟩
    intro session opened scope creation window row member same ended
    cases mem_view_escrows member with
    | inl before => exact ⟨row, before, same, ended⟩
    | inr written =>
      obtain ⟨phase, _, _⟩ := process
      cases opened
      cases alive
      have published : committed state (.finish id : Action) = writes := by simp only [committed, here]
      have open' := met other different _ session there window scope creation row (published ▸ written) same
      rw [open'] at ended
      cases ended

/-- Where no escrow ends inside the window of a creation for its scope, no two escrows
ever share a scope. -/
theorem undisturbed_scopesUnique {actions : List Action} {final : State}
    (met : AlongRun (step settings) undisturbed initial actions)
    (reached : run (step settings) initial actions = some final) : ScopesUnique final.db :=
  (Sound.run scopeClaims_preserved (fun _ member => absurd member (Table.not_mem_empty _)) actions met
    reached).holds

end Claims

section Scenario

/-- The test of the condition on the processes below the bound. -/
def undisturbedTest (bound : Nat) (state : State) : Action → Bool
  | .finish id => (List.range bound).all fun other => other == id ||
      match state.processes other with
      | some ⟨phase, some session, true⟩ => !inWindow session.log ||
          match phase.creationScope with
          | some scope => (committed state (.finish id : Action)).all fun write =>
              match write with
              | .escrow row => decide (row.scope ≠ scope) || !row.status.terminal
              | _ => true
          | none => true
      | _ => true
  | _ => true

theorem undisturbed_of_test {bound : Nat} (state : State) (action : Action)
    (few : ∀ id, bound ≤ id → state.processes id = none) (tested : undisturbedTest bound state action = true) :
    undisturbed state action := by
  cases action with
  | finish id =>
    intro other different phase session there window scope creation row written same
    have small : other < bound := by
      by_contra large
      rw [few other (Nat.le_of_not_lt large)] at there
      cases there
    have test := List.all_eq_true.mp tested other (List.mem_range.mpr small)
    simp only [there, window, creation, different, beq_iff_eq, Bool.not_true, Bool.false_or,
      Bool.or_eq_true, false_or] at test
    have each := List.all_eq_true.mp test _ written
    simpa [same] using each
  | _ => trivial

/-- The refund of one escrow ends it between the two reads of a second creation for
the same agreement. -/
def racingRun : List Action :=
  [fundedRun, reserveMock 3 .refund ⟨1, 0⟩ 6, [.outside 3 .localRail],
    [api 4 (.createEscrow ⟨⟨0, 0⟩, none, "5", "CKB", .mock, .sandbox, none, none, none⟩)], transact 4 1,
    [.start 4, .statement 4 0, .statement 4 0, .statement 4 0], transact 3 7,
    [.statement 4 0, .statement 4 0, .statement 4 0, .finish 4, .outside 4 .localRail], transact 4 4].flatten

def escrowScopes (state : State) : List (Scope × EscrowStatus) :=
  state.db.escrows.rows.map fun row => (row.scope, row.status)

def sharesScope (db : Db) : Bool :=
  db.escrows.rows.any fun first => db.escrows.rows.any fun second =>
    decide (first.scope = second.scope ∧ first.id ≠ second.id)

theorem not_scopesUnique {db : Db} (shares : sharesScope db = true) : ¬ScopesUnique db := by
  intro unique
  obtain ⟨first, firstIn, shares⟩ := List.any_eq_true.mp shares
  obtain ⟨second, secondIn, shares⟩ := List.any_eq_true.mp shares
  obtain ⟨same, different⟩ := of_decide_eq_true shares
  exact different (congrArg Escrow.id (unique first firstIn second secondIn same))

/-- Afterwards a refunded escrow and a new one share the scope. -/
theorem racingRun_shares_scope : ∃ final, run (step sandbox) initial racingRun = some final ∧
    escrowScopes final = [(⟨"app", ⟨0, 0⟩, none⟩, .refunded), (⟨"app", ⟨0, 0⟩, none⟩, .awaitingFunding)] ∧
    ¬ScopesUnique final.db := by
  have observed : (run (step sandbox) initial racingRun).map
      (fun final => (escrowScopes final, sharesScope final.db)) =
      some ([(⟨"app", ⟨0, 0⟩, none⟩, .refunded), (⟨"app", ⟨0, 0⟩, none⟩, .awaitingFunding)], true) := by
    decide +kernel
  obtain ⟨final, reached, observed⟩ := Option.map_eq_some_iff.mp observed
  obtain ⟨scopes, shares⟩ := Prod.mk.inj observed
  exact ⟨final, reached, scopes, not_scopesUnique shares⟩

theorem fundedRun_scopesUnique : ∃ final, run (step sandbox) initial fundedRun = some final ∧
    escrowScopes final = [(⟨"app", ⟨0, 0⟩, none⟩, .funded)] ∧ ScopesUnique final.db := by
  have observed : (run (step sandbox) initial fundedRun).map escrowScopes =
      some [(⟨"app", ⟨0, 0⟩, none⟩, .funded)] := by decide +kernel
  obtain ⟨final, reached, scopes⟩ := Option.map_eq_some_iff.mp observed
  have met : AlongRun (step sandbox) undisturbed initial fundedRun :=
    alongRun_of_checkRun (@undisturbed_of_test 3) fundedRun initial (fun _ _ => rfl) (by decide +kernel)
  exact ⟨final, reached, scopes, undisturbed_scopesUnique met reached⟩

end Scenario

end PactAgent.Server
