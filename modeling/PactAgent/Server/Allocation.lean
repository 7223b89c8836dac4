import PactAgent.Server.Effects

/-! Milestones under concurrent creations. A creation locks the agreement before it
reads the milestones that it sums up, and keeps the lock until it commits, so that
between its sum and its commit no other creation can add to the same agreement. -/

namespace PactAgent.Server
open PactAgent.Common PactAgent.Common.Amounts PactAgent.Foundation PactAgent.Lifecycle PactAgent.Store
open PactAgent.Escrow
open PactAgent.Foundation.Execution PactAgent.Foundation.ReadCommitted

/-- What the milestones of an agreement amount to. -/
def allocatedAmount (db : Db) (agreementId : RowId) : Nat :=
  ((db.milestones.rows.filter fun row => row.agreementId = agreementId).map fun row => amountValue row.amount).sum

/-- Milestones are under agreements of their own app, and within their amounts. -/
structure Allocated (db : Db) : Prop where
  under : ∀ milestone ∈ db.milestones, ∃ agreement, db.agreements.get milestone.agreementId = some agreement ∧
    agreement.appId = milestone.appId
  within : ∀ agreement ∈ db.agreements, allocatedAmount db agreement.id ≤ amountValue agreement.amount

/-- A creation locks the agreement before it reads it. -/
inductive Allocates : Phase → Write → Query → Prop
  | creation (req : RequestContext) (agreementId : RowId) (input : CreateMilestoneInput) :
      Allocates (.running req (.createMilestone agreementId input)) (.lockAgreement agreementId) .findAgreementForApp

/-- Once a creation has read its agreement, others leave the milestones' sum alone. -/
def allocation : Assertions Db Query Phase Env where
  holds := Allocated
  knows id _ phase _ := phase.Owned id
  rely _ phase log before after := ∀ agreementId query, Allocates phase (.lockAgreement agreementId) query →
    query ∈ log → allocatedAmount after agreementId = allocatedAmount before agreementId
  rely_refl _ _ _ _ _ _ _ _ := rfl
  rely_trans _ _ _ _ _ _ earlier later agreementId query allocates asked :=
    (later agreementId query allocates asked).trans (earlier agreementId query allocates asked)

section Sums
variable {db : Db} {row old : Milestone} {agreementId : RowId}

theorem allocatedAmount_congr {before after : Db}
    (same : after.milestones.rows.map (fun row => (row.agreementId, row.amount)) =
      before.milestones.rows.map fun row => (row.agreementId, row.amount)) :
    allocatedAmount after agreementId = allocatedAmount before agreementId := by
  have shares : ∀ rows : List Milestone,
      ((rows.filter fun row => row.agreementId = agreementId).map fun row => amountValue row.amount) =
        ((rows.map fun row => (row.agreementId, row.amount)).filter fun share => share.1 = agreementId).map
          fun share => amountValue share.2 := by
    intro rows
    rw [List.filter_map, List.map_map]
    rfl
  rw [allocatedAmount, allocatedAmount, shares, shares, same]

theorem allocatedAmount_insert (absent : db.milestones.get row.id = none) :
    allocatedAmount (applyWrite (.milestone row) db) agreementId =
      allocatedAmount db agreementId + if row.agreementId = agreementId then amountValue row.amount else 0 := by
  have rows : (db.milestones.put row).rows = db.milestones.rows ++ [row] := Table.rows_put absent
  simp only [allocatedAmount, applyWrite, rows, List.filter_append, List.map_append, List.sum_append]
  by_cases mine : row.agreementId = agreementId
  · simp [mine]
  · simp [mine]

theorem allocatedAmount_update (stored : db.milestones.get row.id = some old) (same : row.agreementId = old.agreementId)
    (amount : row.amount = old.amount) :
    allocatedAmount (applyWrite (.milestone row) db) agreementId = allocatedAmount db agreementId := by
  apply allocatedAmount_congr
  exact Table.map_put stored (by rw [same, amount])

/-- Nothing is allocated under an agreement that does not exist. -/
theorem allocatedAmount_absent (allocated : Allocated db) (absent : db.agreements.get agreementId = none) :
    allocatedAmount db agreementId = 0 := by
  have none : (db.milestones.rows.filter fun row => row.agreementId = agreementId) = [] := by
    rw [List.filter_eq_nil_iff]
    intro milestone member mine
    obtain ⟨agreement, stored, _⟩ := allocated.under milestone member
    rw [of_decide_eq_true mine, absent] at stored
    cases stored
  rw [allocatedAmount, none]
  rfl

/-- The milestones of the app that are summed up are all that the agreement has. -/
theorem allocated_sum (allocated : Allocated db) {agreement : Agreement}
    (stored : db.agreements.get agreementId = some agreement) :
    ((Lifecycle.allocated db agreement.appId agreementId).map amountValue).sum = allocatedAmount db agreementId := by
  rw [Lifecycle.allocated, List.map_map, allocatedAmount]
  congr 2
  apply List.filter_congr
  intro milestone member
  by_cases mine : milestone.agreementId = agreementId
  · obtain ⟨parent, found, owner⟩ := allocated.under milestone member
    rw [mine, stored] at found
    cases found
    simp [mine, owner]
  · simp [mine]

end Sums

section Writes
variable {db : Db} {request : Nat} {write : Write}

/-- The write makes a new milestone. -/
def Inserts (db : Db) (write : Write) : Prop :=
  ∃ row, write = .milestone row ∧ db.milestones.get row.id = none

theorem allocatedAmount_write (lawful : Lawful request db write) (stored : ¬Inserts db write) (agreementId : RowId) :
    allocatedAmount (applyWrite write db) agreementId = allocatedAmount db agreementId := by
  cases write with
  | milestone row =>
    cases found : db.milestones.get row.id with
    | none => exact absurd ⟨row, rfl, found⟩ stored
    | some old =>
      simp only [Lawful, found] at lawful
      obtain ⟨next, _, same⟩ := lawful
      exact allocatedAmount_update found (by rw [same]) (by rw [same])
  | _ => rfl

theorem under_write (lawful : Lawful request db write) (stored : ¬Inserts db write) (allocated : Allocated db) :
    ∀ milestone ∈ (applyWrite write db).milestones, ∃ agreement,
      (applyWrite write db).agreements.get milestone.agreementId = some agreement ∧
        agreement.appId = milestone.appId := by
  intro milestone member
  have before : ∃ old ∈ db.milestones, old.Follows milestone := by
    have chain : Storage.Chain (Lawful request) [write] db := ⟨lawful, trivial⟩
    rcases mem_view_milestones chain member with old | ⟨fresh, written, _, follows⟩
    · exact old
    · have same : write = .milestone fresh := (List.mem_singleton.mp written).symm
      subst same
      cases found : db.milestones.get fresh.id with
      | none => exact absurd ⟨fresh, rfl, found⟩ stored
      | some old =>
        simp only [Lawful, found] at lawful
        obtain ⟨next, valid, same⟩ := lawful
        exact ⟨old, Table.mem_of_get found, .trans ⟨next, same, .single valid⟩ follows⟩
  obtain ⟨old, oldIn, status, same, _⟩ := before
  obtain ⟨agreement, found, owner⟩ := allocated.under old oldIn
  obtain ⟨new, there, terms, _⟩ := (steady_write lawful).agreements old.agreementId agreement found trivial
  refine ⟨new, by rw [same]; exact there, ?_⟩
  rw [same]
  exact (congrArg AgreementTerms.appId terms).trans owner

/-- A write that inserts no milestone keeps what is allocated. -/
theorem allocated_write (lawful : Lawful request db write) (stored : ¬Inserts db write) (allocated : Allocated db) :
    Allocated (applyWrite write db) := by
  refine ⟨under_write lawful stored allocated, ?_⟩
  intro agreement member
  rw [allocatedAmount_write lawful stored]
  cases write with
  | agreement row =>
    rcases Table.mem_put.mp member with rfl | ⟨before, _⟩
    · cases found : db.agreements.get agreement.id with
      | none =>
        rw [allocatedAmount_absent allocated found]
        exact Nat.zero_le _
      | some old =>
        have within := allocated.within old (Table.mem_of_get found)
        have key : old.id = agreement.id := Table.key_of_get found
        simp only [Lawful, found] at lawful
        obtain ⟨next, now, _, same⟩ := lawful
        rw [key] at within
        rw [same, transition_id, transition_amount, key]
        exact within
    · exact allocated.within agreement before
  | _ => exact allocated.within agreement member

theorem allocatedAmount_view {writes : List Write}
    (chain : Storage.Chain (fun db write => Lawful request db write ∧ ¬Inserts db write) writes db) (agreementId : RowId) :
    allocatedAmount (Storage.view writes db) agreementId = allocatedAmount db agreementId := by
  induction writes generalizing db with
  | nil => rfl
  | cons write writes ih =>
    obtain ⟨⟨lawful, stored⟩, rest⟩ := chain
    exact (ih rest).trans (allocatedAmount_write lawful stored agreementId)

theorem allocated_view {writes : List Write}
    (chain : Storage.Chain (fun db write => Lawful request db write ∧ ¬Inserts db write) writes db)
    (allocated : Allocated db) : Allocated (Storage.view writes db) := by
  refine chain.invariant ?_ allocated
  intro db write each allocated
  exact allocated_write each.1 each.2 allocated

end Writes

section Commits
variable {settings : Settings} {id : Nat} {phase next : Phase} {writes : List Write} {db : Db}

theorem commits_stored {claims : Assertions Db Query Phase Env} (own : phase.Owned id) (other : ¬phase.moves.creates)
    (commits : Commits (app settings) claims id phase next writes db) :
    Storage.Chain (fun db write => Lawful id db write ∧ ¬Inserts db write) writes db := by
  refine (commits_acts own commits).mono ?_
  intro db write acts
  refine ⟨acts.lawful, ?_⟩
  rintro ⟨row, rfl, absent⟩
  have lawful := acts.lawful
  simp only [Lawful, absent] at lawful
  exact other (acts.creates row rfl lawful.2)

/-- A creation adds a milestone that fits beside all that the agreement has when it commits. -/
theorem creation_commits {req : RequestContext} {agreementId : RowId} {input : CreateMilestoneInput}
    (commits : Commits (app settings) allocation id (.running req (.createMilestone agreementId input)) next writes db) :
    ∃ (agreement : Agreement) (milestone : Milestone) (appKey : _) (row : _),
      writes = [.lockAgreement agreementId, .milestone milestone, .idempotencyKey appKey row] ∧
      milestone.agreementId = agreementId ∧ agreement.appId = milestone.appId ∧
      db.agreements.get agreementId = some agreement ∧
      allocatedAmount db agreementId + amountValue milestone.amount ≤ amountValue agreement.amount := by
  obtain ⟨start, reply, middle, last, appKey, row, outcome, toLast, sameDb, writesAre, _, onwards⟩ :=
    running_commits commits
  obtain ⟨agreement, milestone, existing, read, middleWrites, belongs, milestoneApp, agreementApp, _, committed,
    good, stored, summed, fits, asked, untouched⟩ := createMilestoneForAgreement_commits outcome
  have keeps : KeepsSince (allocation.rely id (.running req (.createMilestone agreementId input)))
      .findAgreementForApp fun before after =>
        allocatedAmount after agreementId = allocatedAmount before agreementId :=
    ⟨fun _ => rfl, fun _ _ _ earlier later => later.trans earlier,
      fun _ _ _ present kept => kept agreementId _ (.creation req agreementId input) present⟩
  have unchanged : allocatedAmount db agreementId = allocatedAmount read.db agreementId :=
    (onwards _ _ keeps asked).trans (untouched _ keeps)
  have total : existing = allocatedAmount read.db agreementId := by
    rw [sumIntegerAmounts_ok summed, ← agreementApp]
    exact allocated_sum good stored
  refine ⟨agreement, milestone, appKey, row, ?_, belongs, agreementApp.trans milestoneApp.symm, ?_, ?_⟩
  · rw [writesAre, middleWrites]
    rfl
  · rw [← sameDb]
    exact committed last toLast
  · rw [unchanged, ← total]
    unfold assertMilestoneAllocationWithinAgreement at fits
    obtain ⟨proposed, parsed, fits⟩ := Guard.bind_ok_iff.mp fits
    obtain ⟨limit, parsed', fits⟩ := Guard.bind_ok_iff.mp fits
    rw [parsePositiveIntegerAmount_value parsed, parsePositiveIntegerAmount_value parsed'] at fits
    split at fits
    next => cases fits
    next within => exact Nat.not_lt.mp within

theorem creates_iff : phase.moves.creates ↔ ∃ agreementId, ∃ query, Allocates phase (.lockAgreement agreementId) query := by
  constructor
  · intro creates
    cases phase with
    | running req operation =>
      cases operation with
      | createMilestone agreementId input => exact ⟨agreementId, _, .creation req agreementId input⟩
      | _ => exact creates.elim
    | _ => exact creates.elim
  · rintro ⟨agreementId, query, ⟨⟩⟩
    exact trivial

theorem commits_allocated (own : phase.Owned id) (allocated : Allocated db)
    (commits : Commits (app settings) allocation id phase next writes db) : Allocated (Storage.view writes db) := by
  by_cases creates : phase.moves.creates
  · obtain ⟨agreementId, query, ⟨req, _, input⟩⟩ := creates_iff.mp creates
    have chain := commits_chain own commits
    obtain ⟨agreement, milestone, appKey, row, rfl, belongs, owner, stored, fits⟩ := creation_commits commits
    by_cases inserts : Inserts db (.milestone milestone)
    · obtain ⟨_, ⟨⟩, absent⟩ := inserts
      refine ⟨?_, ?_⟩
      · intro other member
        rcases Table.mem_put.mp member with rfl | ⟨before, _⟩
        · exact ⟨agreement, belongs ▸ stored, owner⟩
        · exact allocated.under other before
      · intro other member
        have amounts := @allocatedAmount_insert db milestone other.id absent
        change allocatedAmount (applyWrite (.milestone milestone) db) other.id ≤ _
        rw [amounts, belongs]
        by_cases same : agreementId = other.id
        · subst same
          rw [show db.agreements.get other.id = some other from Table.get_of_mem member] at stored
          cases stored
          rw [if_pos rfl]
          exact fits
        · rw [if_neg same]
          exact allocated.within other member
    · refine @allocated_view db id _ ⟨⟨trivial, ?_⟩, ⟨chain.2.1, inserts⟩, ⟨trivial, ?_⟩, trivial⟩ allocated
      · rintro ⟨_, ⟨⟩, _⟩
      · rintro ⟨_, ⟨⟩, _⟩
  · exact allocated_view (commits_stored own creates commits) allocated

/-- Only a creation under the agreement changes its sum. -/
theorem commits_amount (own : phase.Owned id)
    (commits : Commits (app settings) allocation id phase next writes db) (agreementId : RowId) :
    allocatedAmount (Storage.view writes db) agreementId = allocatedAmount db agreementId ∨
      .lockAgreement agreementId ∈ writes := by
  by_cases creates : phase.moves.creates
  · obtain ⟨created, query, ⟨req, _, input⟩⟩ := creates_iff.mp creates
    have chain := commits_chain own commits
    obtain ⟨agreement, milestone, appKey, row, rfl, belongs, _⟩ := creation_commits commits
    by_cases same : created = agreementId
    · exact .inr (same ▸ List.mem_cons_self)
    · left
      change allocatedAmount (applyWrite (.milestone milestone) db) agreementId = _
      by_cases inserts : Inserts db (.milestone milestone)
      · obtain ⟨_, ⟨⟩, absent⟩ := inserts
        rw [allocatedAmount_insert absent, belongs, if_neg same, Nat.add_zero]
      · exact allocatedAmount_write chain.2.1 inserts agreementId
  · exact .inl (allocatedAmount_view (commits_stored own creates commits) agreementId)

end Commits

section Runs
variable {settings : Settings}

/-- The lock comes first in the body of a creation. -/
theorem allocates_inOrder : Carried (app settings) (MadeInOrder Allocates) := by
  apply carried_inOrder
  rintro id phase body runs write query ⟨req, agreementId, input⟩
  cases runs
  refine ⟨by decide, ?_⟩
  intro now db answer writes executed
  dsimp only at executed
  split at executed
  next agreement found =>
    cases executed
    have key : agreement.id = agreementId := Table.key_of_get (agreementForApp_some.mp found).1
    exact .inl (key ▸ List.mem_cons_self)
  next =>
    cases executed
    exact .inr trivial

/-- What holds of the locks in every state of every run. -/
def Locking (state : State) : Prop := Sound (app settings) ownership state ∧ Sessions (MadeInOrder Allocates) state

theorem locking_run (actions : List Action) : AlongRun (step settings) (fun state _ => @Locking settings state)
    initial actions := by
  apply alongRun_of_invariant
  · rintro state action next ⟨sound, made⟩ taken
    exact ⟨ownership_sound sound taken, made.step allocates_inOrder action taken⟩
  · exact ⟨Sound.initial trivial, Sessions.initial⟩

/-- The commit of one process leaves alone what another one has summed up: both would
hold the lock of the agreement. -/
theorem commit_relies {state : State} (locking : @Locking settings state) {id other : Nat} {phase next : Phase}
    {log : List Query} {writes : List Write} {process : Process Db Write Query Failure Phase}
    {session : Session Db Write Query Failure Phase}
    (here : state.processes id = some ⟨phase, some ⟨.done next, log, writes⟩, true⟩) (different : other ≠ id)
    (there : state.processes other = some process) (alive : process.alive = true)
    (opened : process.session = some session) (own : phase.Owned id)
    (commits : Commits (app settings) allocation id phase next writes state.db) :
    allocation.rely other process.phase session.log state.db (Storage.view writes state.db) := by
  intro agreementId query allocates asked
  rcases commits_amount own commits agreementId with same | locks
  · exact same
  · have locked : .lockAgreement agreementId ∈ session.writes := by
      rcases locking.2 other process session there opened _ _ allocates with written | ⟨unasked, _⟩
      · exact written
      · exact absurd asked unasked
    have held : ∀ {id process session}, state.processes id = some process → process.alive = true →
        process.session = some session → .lockAgreement agreementId ∈ session.writes →
        state.held (.agreement agreementId) = some id := by
      intro id process session here alive opened written
      exact locking.1.locked id process session here alive opened _ written _ List.mem_cons_self
    have mine := held here rfl rfl locks
    rw [held there alive opened locked] at mine
    exact absurd (Option.some.inj mine) different

theorem allocation_preserved : Preserved (app settings) allocation fun state _ => @Locking settings state where
  arrive _ request _ _ := owned_arrival request
  caught _ _ _ _ error own := owned_caught own error
  outside _ _ _ _ _ _ _ _ _ own taken := ⟨owned_outside own taken, fun _ _ _ other => other⟩
  commit _ _ _ _ _ _ locking allocated here own commits :=
    ⟨commits_allocated own allocated commits, commits_owned own commits, fun _ _ different there alive known =>
      ⟨known, fun _ opened => commit_relies locking here different there alive opened own commits⟩⟩

/-- The milestones of an agreement never exceed its amount, however the requests interleave. -/
theorem milestones_never_exceed {actions : List Action} {state : State}
    (reached : Execution.run (step settings) initial actions = some state) :
    ∀ agreement ∈ state.db.agreements, allocatedAmount state.db agreement.id ≤ amountValue agreement.amount := by
  have empty : Allocated Db.empty :=
    ⟨fun _ member => absurd member (Table.not_mem_empty _), fun _ member => absurd member (Table.not_mem_empty _)⟩
  have sound := Sound.run allocation_preserved empty actions (locking_run actions) reached
  exact sound.holds.within

/-- Two creations of 60 under an agreement of 100: the second one waits for the lock. -/
def racing : List Action :=
  let creation : Call := .operation (.createMilestone ⟨0, 0⟩ ⟨none, "60", none, none⟩)
  [operate 0 (.createAgreement ⟨none, "100", "CKB"⟩) 2, [api 1 creation, api 2 creation], transact 1 1, transact 1 1,
    transact 2 1, transact 2 1, [.start 1, .statement 1 0, .start 2], List.replicate 5 (.statement 1 0), [.finish 1],
    List.replicate 3 (.statement 2 0), [.finish 2]].flatten

theorem racing_within : ∃ state, Execution.run (step sandbox) initial racing = some state ∧
    (state.db.agreements.rows.map fun agreement =>
      (allocatedAmount state.db agreement.id, amountValue agreement.amount)) = [(60, 100)] ∧
    ∀ agreement ∈ state.db.agreements, allocatedAmount state.db agreement.id ≤ amountValue agreement.amount := by
  have ran : (Execution.run (step sandbox) initial racing).map (fun state => state.db.agreements.rows.map
      fun agreement => (allocatedAmount state.db agreement.id, amountValue agreement.amount)) = some [(60, 100)] := by
    decide +kernel
  obtain ⟨state, reached, amounts⟩ := Option.map_eq_some_iff.mp ran
  exact ⟨state, reached, amounts, milestones_never_exceed reached⟩

end Runs

end PactAgent.Server
