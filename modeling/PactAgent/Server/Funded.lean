import PactAgent.Server.Disputes

/-! Funds are held under a live agreement where every transaction that funds an escrow
finds its agreement live, or moves it out of `fundingRequired`. Then no milestone is
added to the agreement any more. -/

namespace PactAgent.Server
open PactAgent.Common PactAgent.Foundation PactAgent.Lifecycle PactAgent.Store PactAgent.Escrow
open PactAgent.Foundation.Execution PactAgent.Foundation.ReadCommitted
open PactAgent.Rail.Builder

/-- The escrow holds the client's funds. -/
def holdsFunds : EscrowStatus → Bool
  | .funded | .releasePending | .refundPending => true
  | _ => false

/-- Funded, or beyond. -/
def isLive : AgreementStatus → Bool
  | .draft | .pendingAcceptance | .accepted | .fundingRequired | .cancelled | .expired => false
  | _ => true

theorem isLive_step (old new : AgreementStatus) (live : isLive old = true)
    (valid : canTransitionAgreement old new = true) : isLive new = true := by
  cases old <;> simp [isLive] at live <;> cases new <;> simp_all [canTransitionAgreement, isLive]

def LiveAgreement (db : Db) (agreementId : RowId) : Prop :=
  ∃ agreement, db.agreements.get agreementId = some agreement ∧ isLive agreement.status = true

theorem LiveAgreement.later {before after : Db} {agreementId : RowId} (live : LiveAgreement before agreementId)
    (steady : Steady before after) : LiveAgreement after agreementId := by
  obtain ⟨agreement, stored, status⟩ := live
  obtain ⟨new, found, _, leads⟩ := steady.agreements agreementId agreement stored trivial
  exact ⟨new, found, leads.closed isLive_step status⟩

/-- A commit that leaves an escrow with funds finds its agreement live, or moves the
agreement into `funded` itself. -/
def fundsUnderLive (state : State) (action : Action) : Prop :=
  ∀ row, .escrow row ∈ committed state action → holdsFunds row.status = true →
    LiveAgreement state.db row.agreementId ∨ ∃ agreement, .agreement agreement ∈ committed state action ∧
      agreement.id = row.agreementId ∧ agreement.status = .funded

/-- Agreements that wait for funding, or are beyond it, are not unfunded. -/
def Frozen (db : Db) : Prop :=
  ∀ agreement ∈ db.agreements, agreement.status ∈ [AgreementStatus.draft, .pendingAcceptance, .accepted] ∨
    agreement.settlementStatus ≠ .unfunded

def FundsLive (db : Db) : Prop :=
  ∀ escrow ∈ db.escrows, holdsFunds escrow.status = true → LiveAgreement db escrow.agreementId

def frozen : Assertions Db Query Phase Env :=
  ownership.extend Frozen (fun _ _ _ _ => True) (fun _ _ _ => True) (fun _ _ => trivial) (fun _ _ _ _ _ _ => trivial)

def fundsLive : Assertions Db Query Phase Env :=
  frozen.extend FundsLive (fun _ _ _ _ => True) (fun _ _ _ => True) (fun _ _ => trivial) (fun _ _ _ _ _ _ => trivial)

section Commits
variable {settings : Settings} {id request : Nat} {phase next : Phase} {writes : List Write} {db : Db}
variable {claims : Assertions Db Query Phase Env}

theorem transition_frozen {old : Agreement} {next : AgreementStatus} (now : Nat)
    (valid : canTransitionAgreement old.status next = true)
    (before : old.status ∈ [AgreementStatus.draft, .pendingAcceptance, .accepted] ∨
      old.settlementStatus ≠ .unfunded) :
    (old.transition next now).status ∈ [AgreementStatus.draft, .pendingAcceptance, .accepted] ∨
      (old.transition next now).settlementStatus ≠ .unfunded := by
  cases status : old.status <;> rw [status] at valid before <;> cases next <;>
    simp_all [canTransitionAgreement, Agreement.transition]

theorem frozen_view (lawful : Storage.Chain (Lawful request) writes db) (holds : Frozen db) :
    Frozen (Storage.view writes db) := by
  refine lawful.invariant ?_ holds
  intro db write lawful holds
  cases write with
  | agreement row =>
    intro agreement member
    rcases Table.mem_put.mp member with rfl | ⟨before, _⟩
    · cases found : db.agreements.get agreement.id with
      | none =>
        simp only [Lawful, found] at lawful
        exact .inl (by simp [lawful.2])
      | some old =>
        simp only [Lawful, found] at lawful
        obtain ⟨next, now, valid, same⟩ := lawful
        rw [same]
        exact transition_frozen now valid (holds old (Table.mem_of_get found))
    · exact holds agreement before
  | _ => exact holds

theorem frozen_preserved : Preserved (app settings) frozen (fun _ _ => True) := by
  refine ownership_preserved.extend (fun _ _ _ => trivial) (fun _ _ _ _ => trivial) (fun _ _ _ _ _ _ => trivial)
    (fun _ _ _ _ _ _ _ _ _ _ _ _ _ => ⟨trivial, fun _ _ _ _ => trivial⟩) ?_
  intro state id phase next log writes _ _ holds _ own _ commits _
  exact ⟨frozen_view (commits_chain own commits) holds, trivial, fun _ _ _ _ _ _ _ => ⟨trivial, trivial⟩⟩

theorem fundsLive_preserved : Preserved (app settings) fundsLive fundsUnderLive := by
  refine frozen_preserved.extend (fun _ _ _ => trivial) (fun _ _ _ _ => trivial) (fun _ _ _ _ _ _ => trivial)
    (fun _ _ _ _ _ _ _ _ _ _ _ _ _ => ⟨trivial, fun _ _ _ _ => trivial⟩) ?_
  intro state id phase next log writes met _ holds here known _ commits _
  have steady := commits_steady known.1 commits
  refine ⟨?_, trivial, fun _ _ _ _ _ _ _ => ⟨trivial, trivial⟩⟩
  intro escrow member held
  cases mem_view_escrows member with
  | inl before => exact (holds escrow before held).later steady
  | inr written =>
    have published : committed state (.finish id : Action) = writes := by simp only [committed, here]
    rcases met escrow (published ▸ written) held with live | ⟨agreement, moved, key, funded⟩
    · exact live.later steady
    · have chain := commits_chain known.1 commits
      have start : isLive agreement.status = true := by rw [funded]; rfl
      obtain ⟨new, found, live⟩ := written_agreement_stays isLive_step chain (published ▸ moved) start
      exact ⟨new, key ▸ found, live⟩

/-- A milestone after a commit follows one before it, or comes under an unfunded agreement. -/
theorem commits_milestone (own : phase.Owned id)
    (commits : Commits (app settings) claims id phase next writes db) {row : Milestone}
    (member : row ∈ (Storage.view writes db).milestones) :
    (∃ old ∈ db.milestones, old.Follows row) ∨ ∃ agreement, db.agreements.get row.agreementId = some agreement ∧
      agreement.settlementStatus = .unfunded := by
  rcases mem_view_milestones (commits_chain own commits) member with old | ⟨fresh, written, pending, follows⟩
  · exact .inl old
  · have creates : phase.moves.creates := by
      obtain ⟨_, acts⟩ := (commits_acts own commits).mem written
      exact acts.creates fresh rfl pending
    cases phase with
    | running req operation =>
      cases operation with
      | createMilestone agreementId input =>
        obtain ⟨start, reply, middle, last, appKey, row', outcome, toLast, sameDb, writesAre, _⟩ :=
          running_commits commits
        obtain ⟨agreement, milestone, _, _, middleWrites, belongs, _, _, unfunded, committed, _⟩ :=
          createMilestoneForAgreement_commits outcome
        have is : fresh = milestone := by
          rw [writesAre, middleWrites] at written
          simpa using written
        obtain ⟨status, same, _⟩ := follows
        refine .inr ⟨agreement, ?_, unfunded⟩
        rw [same, is, ← sameDb]
        exact belongs ▸ committed last toLast
      | _ => exact creates.elim
    | _ => exact creates.elim

end Commits

section Runs
variable {settings : Settings} {actions more : List Action} {state later : State}

/-- From a live agreement on, it gets no milestone any more. -/
theorem live_closed (reached : run (step settings) initial actions = some state) {agreementId : RowId}
    (live : LiveAgreement state.db agreementId) (onwards : run (step settings) state more = some later) :
    ∀ milestone ∈ later.db.milestones, milestone.agreementId = agreementId →
      (state.db.milestones.get milestone.id).isSome := by
  have start : Sound (app settings) frozen state :=
    Sound.always frozen_preserved ⟨trivial, fun _ member => absurd member (Table.not_mem_empty _)⟩ actions reached
  let invariant (now : State) : Prop := Sound (app settings) frozen now ∧ LiveAgreement now.db agreementId ∧
    ∀ milestone ∈ now.db.milestones, milestone.agreementId = agreementId →
      (state.db.milestones.get milestone.id).isSome
  have all : invariant later := by
    refine Execution.invariant_run ?_ more state later (⟨start, live, ?_⟩ : invariant state) onwards
    · rintro before action after ⟨sound, live, closed⟩ taken
      refine ⟨sound.step frozen_preserved action trivial taken, ?_⟩
      rw [step_db taken]
      cases sound.committed action with
      | inl none => rw [none]; exact ⟨live, closed⟩
      | inr some =>
        obtain ⟨id, phase, next, log, writes, _, _, same, known, commits⟩ := some
        rw [same]
        refine ⟨live.later (commits_steady known.1 commits), ?_⟩
        intro milestone member belongs
        rcases commits_milestone known.1 commits member with ⟨old, oldIn, _, rfl, _⟩ | ⟨agreement, stored, unfunded⟩
        · exact closed old oldIn belongs
        · obtain ⟨found, there, status⟩ := live
          rw [belongs, there] at stored
          have same : agreement = found := (Option.some.inj stored).symm
          rcases sound.holds.2 found (Table.mem_of_get there) with early | funded
          · cases now : found.status <;> simp [now, isLive] at early status
          · exact absurd (same ▸ unfunded) funded
    · intro milestone member _
      rw [show state.db.milestones.get milestone.id = some milestone from Table.get_of_mem member]
      rfl
  exact all.2.2

end Runs

section Scenario

def movesToFunded (agreementId : RowId) : Write → Bool
  | .agreement row => row.id = agreementId && row.status = .funded
  | _ => false

/-- The condition as a test of one write. -/
def fundsLiveWrite (state : State) (writes : List Write) : Write → Bool
  | .escrow row => !holdsFunds row.status ||
      (state.db.agreements.get row.agreementId).any (fun agreement => isLive agreement.status) ||
      writes.any (movesToFunded row.agreementId)
  | _ => true

def fundsLiveTest (state : State) (action : Action) : Bool :=
  (committed state action).all (fundsLiveWrite state (committed state action))

theorem fundsUnderLive_of_test (state : State) (action : Action) (tested : fundsLiveTest state action = true) :
    fundsUnderLive state action := by
  intro row written held
  have test := List.all_eq_true.mp tested _ written
  simp only [fundsLiveWrite, held, Bool.not_true, Bool.false_or, Bool.or_eq_true] at test
  rcases test with live | moved
  · obtain ⟨agreement, stored, live⟩ := (Option.any_eq_true _ _).mp live
    exact .inl ⟨agreement, stored, live⟩
  · obtain ⟨write, member, moves⟩ := List.any_eq_true.mp moved
    cases write with
    | agreement agreement =>
      simp only [movesToFunded, Bool.and_eq_true, decide_eq_true_eq] at moves
      exact .inr ⟨agreement, member, moves⟩
    | _ => cases moves

/-- The statuses of the agreements, with their milestones, and of the escrows. -/
structure FundingView where
  agreements : List AgreementStatus
  milestones : List RowId
  escrows : List EscrowStatus
  deriving DecidableEq

def fundingView (state : State) : FundingView where
  agreements := state.db.agreements.rows.map (·.status)
  milestones := state.db.milestones.rows.map (·.agreementId)
  escrows := state.db.escrows.rows.map (·.status)

/-- The escrow of a draft is created and funded; the agreement stays where it is. -/
def draftRun : List Action :=
  [operate 0 (.createAgreement ⟨none, "5", "CKB"⟩) 2, openMock 1 ⟨0, 0⟩ none "5", fundMock 2 ⟨1, 0⟩ 7].flatten

def lateMilestone : List Action := operate 3 (.createMilestone ⟨0, 0⟩ ⟨none, "5", none, none⟩) 6

end Scenario

end PactAgent.Server
