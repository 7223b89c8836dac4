import PactAgent.Foundation.Occurrences
import PactAgent.Server.Effects

/-! Settlement attempts: the rail is asked to settle an escrow only by a request that has
taken the escrow out of `funded`, so that each entry into `funded` pays for one attempt. -/

namespace PactAgent.Server
open PactAgent.Common PactAgent.Foundation PactAgent.Lifecycle PactAgent.Store PactAgent.Escrow
open PactAgent.Foundation.Execution PactAgent.Foundation.ReadCommitted

/-- The escrow that a process is about to ask the rail to settle. -/
def Phase.settles : Phase → Option RowId
  | .settling _ _ reserved => some reserved.pending.id
  | _ => none

/-- The rail is asked to release or refund the escrow. -/
def attempts (escrowId : RowId) (state : State) (action : Action) (_ : State) : Bool :=
  match action with
  | .outside id _ => (state.processes id).any fun process => process.phase.settles = some escrowId
  | _ => false

def isFunded (escrowId : RowId) (db : Db) : Bool := (db.escrows.get escrowId).any fun escrow => escrow.status = .funded

/-- The escrow moves into `funded`. -/
def fundings (escrowId : RowId) (before : State) (_ : Action) (after : State) : Bool :=
  !isFunded escrowId before.db && isFunded escrowId after.db

section Phases
variable {settings : Settings} {id : Nat} {phase next : Phase} {writes : List Write} {db : Db}

theorem settles_firstPhase (req : RequestContext) (call : Call) : (firstPhase req call).settles = none := by
  cases call <;> rfl

theorem settles_afterRace (req : RequestContext) (error : Failure) : (afterRace req error).settles = none := by
  unfold afterRace
  split <;> rfl

theorem settles_fallback (req : RequestContext) (fallback : Fallback) : (fallback.phase req).settles = none := by
  cases fallback with
  | proceed call => exact settles_firstPhase req call
  | swallow error handler =>
    cases handler with
    | false => rfl
    | true => exact settles_afterRace req error
  | _ => rfl

theorem settles_thrown (req : RequestContext) (error : Failure) (fallback : Fallback) :
    (fallback.thrown req error).settles = none := by
  cases fallback with
  | swallow first handler => exact settles_fallback req _
  | _ => rfl

theorem settles_arrival (request : Request) : (arrival id request).settles = none := by
  cases request <;> rfl

theorem settles_caught (error : Failure) : (caught phase error).settles = none := by
  cases phase with
  | replaying req stage fallback => exact settles_thrown req error fallback
  | reserving req operation | creating req input | fundingReserving req escrowId txHash
  | settlementReserving req operation escrowId => exact settles_afterRace req error
  | running req operation =>
    simp only [caught]
    split <;> rfl
  | finalizingCreation req reserved result first | finalizingSettlement req operation reserved result first =>
    cases first <;> rfl
  | _ => rfl

/-- The attempt itself leaves the phase. -/
theorem settles_outside {env after : Env} {external : External}
    (taken : outside settings env id phase external = some (after, next)) : next.settles = none := by
  cases phase <;> cases external <;> try (cases taken; done)
  case locking.localRail | funding.localRail | settling.localRail =>
    simp only [outside] at taken
    split at taken <;> cases taken
    rfl
  case locking.sign | settling.sign | funding.verify =>
    simp only [outside] at taken
    split at taken
    next => cases taken
    next => split at taken <;> (cases taken; rfl)
  case observing.observe =>
    simp only [outside] at taken
    split at taken <;> (cases taken; rfl)
  all_goals
    simp only [outside, Option.some.injEq, Prod.mk.injEq] at taken
    rw [← taken.2]
    rfl

/-- No transaction but a reservation leads to an attempt. -/
theorem settles_body {program : Tx Phase} (other : phase.isReserving = false) (runs : body settings phase = some program) :
    program.Returns fun next => next.settles = none := by
  cases phase with
  | replaying req stage fallback =>
    cases runs
    have looked : ∀ row, (replayPhase req fallback row).settles = none := by
      intro row
      cases row with
      | none => exact settles_fallback req fallback
      | some row =>
        simp only [replayPhase]
        split
        next => exact settles_thrown req _ fallback
        next =>
          split
          next => rfl
          next => exact settles_thrown req _ fallback
    cases stage with
    | find =>
      apply Program.returns_bind
      intro found
      dsimp only
      split
      next =>
        split
        next => exact rfl
        next => exact looked _
      next => exact looked _
    | deleteExpired =>
      apply Program.returns_bind
      intro _
      exact rfl
    | findAgain =>
      apply Program.returns_bind
      intro found
      exact looked _
  | running req operation =>
    cases runs
    apply Program.returns_bind
    intro data
    apply Program.returns_bind
    intro _
    exact rfl
  | fundingReserving req escrowId txHash =>
    cases runs
    apply Program.returns_bind
    intro before
    change Phase.settles (if _ then _ else _) = none
    split <;> rfl
  | creating req input | settlementReserving req operation escrowId => cases other
  | reserving req operation | clearing req error | finalizingCreation req reserved result first
  | discarding req reserved error | finalizingFunding req before result | finalizingFailed req operation reserved error
  | finalizingSettlement req operation reserved result first | loading transactionId
  | reconciling snapshot observation | cleaning appKey =>
    cases runs
    apply Program.returns_bind
    intro _
    exact rfl
  | _ => cases runs

/-- Only a commit that takes the escrow out of `funded` leads to an attempt. -/
theorem commits_settles {claims : Assertions Db Query Phase Env} {escrowId : RowId}
    (commits : Commits (app settings) claims id phase next writes db) (settles : next.settles = some escrowId) :
    isFunded escrowId db = true ∧ isFunded escrowId (Storage.view writes db) = false := by
  by_cases reserving : phase.isReserving = true
  · cases phase with
    | creating req input =>
      obtain ⟨program, start, last, runs, _, outcome, later⟩ := commits
      cases runs
      obtain ⟨reserved, middle, _, rfl, _⟩ := outcome_bind.mp outcome
      cases settles
    | settlementReserving req operation settled =>
      have keeps : Keeps (claims.rely id (.settlementReserving req operation settled)) fun _ _ => True :=
        ⟨fun _ => trivial, fun _ _ _ _ _ => trivial, fun _ _ _ _ => trivial⟩
      obtain ⟨seen, old, appKey, row, written, funded, _, stored, _, _, _, _, _, rfl⟩ := reserving_commits keeps commits
      have key : old.id = settled := Table.key_of_get stored
      have same : settled = escrowId := key.symm.trans (Option.some.inj settles)
      subst same
      refine ⟨by simp [isFunded, stored, funded], ?_⟩
      have rows : Write.to .escrows writes = [{ old with status := settlementPendingStatus operation }].map Write.escrow := by
        rw [written]
        rfl
      have there : (Storage.view writes db).escrows.get settled =
          some { old with status := settlementPendingStatus operation } := by
        rw [← key]
        exact stored_escrows.get_last rows rfl db
      cases operation <;> simp [isFunded, there, settlementPendingStatus]
    | _ => cases reserving
  · obtain ⟨program, start, last, runs, _, outcome, later⟩ := commits
    have none := outcome.returns (settles_body (by simpa using reserving) runs)
    rw [none] at settles
    cases settles

end Phases

section Runs
variable {settings : Settings} {escrowId : RowId}

/-- The attempts so far, those that processes are about to make, and one for a funded
escrow are paid for. -/
structure Paid (settings : Settings) (escrowId : RowId) (state : State) (spent earned : Nat) : Prop where
  sound : Sound (app settings) ownership state
  balance : ∃ pending : List Nat, pending.Nodup ∧
    (∀ id process, state.processes id = some process → process.phase.settles = some escrowId → id ∈ pending) ∧
    spent + pending.length + (isFunded escrowId state.db).toNat ≤ earned

theorem paid_step {state after : State} {action : Action} {spent earned : Nat}
    (paid : Paid settings escrowId state spent earned) (taken : step settings state action = some after) :
    Paid settings escrowId after (spent + (attempts escrowId state action after).toNat)
      (earned + (fundings escrowId state action after).toNat) := by
  have sound := ownership_sound paid.sound taken
  obtain ⟨pending, distinct, all, balance⟩ := paid.balance
  obtain ⟨new, processes, move⟩ := step_move taken
  have database := step_db taken
  -- the list need not change when the process that acts is on it, or is not about to attempt
  have others : ∀ pending' : List Nat, (∀ id, id ≠ action.process → id ∈ pending → id ∈ pending') →
      (new.phase.settles = some escrowId → action.process ∈ pending') → ∀ id process,
      after.processes id = some process → process.phase.settles = some escrowId → id ∈ pending' := by
    intro pending' kept mine id process here settles
    rw [processes] at here
    by_cases same : id = action.process
    · rw [same, Function.update_self] at here
      cases here
      exact same ▸ mine settles
    · rw [Function.update_of_ne same] at here
      exact kept id same (all id process here settles)
  have idle : committed state action = [] → attempts escrowId state action after = false →
      (new.phase.settles = some escrowId → action.process ∈ pending) →
      ∃ pending : List Nat, pending.Nodup ∧ (∀ id process, after.processes id = some process →
        process.phase.settles = some escrowId → id ∈ pending) ∧
        spent + (attempts escrowId state action after).toNat + pending.length + (isFunded escrowId after.db).toNat ≤
          earned + (fundings escrowId state action after).toNat := by
    intro nothing none mine
    have same : after.db = state.db := by
      rw [database, nothing]
      rfl
    refine ⟨pending, distinct, others pending (fun _ _ member => member) mine, ?_⟩
    rw [none, same]
    exact balance.trans (Nat.le_add_right _ _)
  refine ⟨sound, ?_⟩
  cases move with
  | arrive absent =>
    apply idle rfl rfl
    intro settles
    rw [show ((app settings).arrival _ _).settles = none from settles_arrival _] at settles
    cases settles
  | start here runs => exact idle rfl rfl fun settles => all _ _ here settles
  | statement here executed => exact idle rfl rfl fun settles => all _ _ here settles
  | @caught action phase session error here ended nothing =>
    have calm : attempts escrowId state action after = false := by
      cases action <;> first | rfl | cases ended
    apply idle nothing calm
    intro settles
    rw [show ((app settings).caught phase error).settles = none from settles_caught error] at settles
    cases settles
  | crash here => exact idle rfl rfl fun settles => all _ _ here settles
  | @outside id external phase next env here result =>
    have gone : next.settles = none := settles_outside result
    have same : after.db = state.db := database
    by_cases mine : phase.settles = some escrowId
    · -- the process makes its attempt, and leaves the list
      have member : id ∈ pending := all id _ here mine
      have attempted : attempts escrowId state (.outside id external) after = true := by
        simp [attempts, here, mine]
      refine ⟨pending.erase id, distinct.erase id, ?_, ?_⟩
      · apply others
        · intro other different among
          exact (List.mem_erase_of_ne different).mpr among
        · intro settles
          rw [gone] at settles
          cases settles
      · have length := List.length_erase_of_mem member
        have positive := List.length_pos_of_mem member
        rw [attempted, same, length, Bool.toNat_true]
        omega
    · apply idle rfl
      · simp [attempts, here, mine]
      · intro settles
        rw [gone] at settles
        cases settles
  | @commit id phase next log writes here published =>
    have commits := (paid.sound.continues id _ _ here rfl rfl).commits paid.sound.holds
    have calm : attempts escrowId state (.finish id) after = false := rfl
    rw [published] at database
    by_cases settles : next.settles = some escrowId
    · -- the escrow is no longer funded, and the process is on the list
      obtain ⟨before, now⟩ := commits_settles commits settles
      rw [← database] at now
      refine ⟨if id ∈ pending then pending else id :: pending, ?_, others _ ?_ ?_, ?_⟩
      · split
        next => exact distinct
        next absent => exact List.nodup_cons.mpr ⟨absent, distinct⟩
      · intro other _ among
        split
        next => exact among
        next => exact List.mem_cons_of_mem _ among
      · intro _
        split
        next member => exact member
        next => exact List.mem_cons_self
      · have grows : (if id ∈ pending then pending else id :: pending).length ≤ pending.length + 1 := by
          split <;> simp
        rw [before, Bool.toNat_true] at balance
        rw [calm, now, Bool.toNat_false]
        omega
    · refine ⟨pending, distinct, others pending (fun _ _ member => member) (fun mine => absurd mine settles), ?_⟩
      rw [calm, Bool.toNat_false, Nat.add_zero]
      -- an escrow that is funded now was so before, or is counted as a funding
      have counted : (isFunded escrowId after.db).toNat ≤
          (isFunded escrowId state.db).toNat + (fundings escrowId state (.finish id) after).toNat := by
        unfold fundings
        cases isFunded escrowId state.db <;> cases isFunded escrowId after.db <;> decide
      omega

/-- However requests race, retry and crash, the rail is asked to settle an escrow at most as
often as the escrow has moved into `funded`. -/
theorem attempts_funded (settings : Settings) (escrowId : RowId) (actions : List Action) :
    occurrences (step settings) (attempts escrowId) initial actions ≤
      occurrences (step settings) (fundings escrowId) initial actions := by
  have empty : Paid settings escrowId initial 0 0 := by
    refine ⟨Sound.always ownership_preserved trivial [] rfl, [], List.nodup_nil, ?_, le_refl _⟩
    intro id process here
    cases here
  have solvent : ∀ state spent earned, Paid settings escrowId state spent earned → spent ≤ earned := by
    intro state spent earned paid
    obtain ⟨pending, _, _, balance⟩ := paid.balance
    omega
  have keeps : ∀ state action next spent earned, Paid settings escrowId state spent earned →
      step settings state action = some next →
      Paid settings escrowId next (spent + (attempts escrowId state action next).toNat)
        (earned + (fundings escrowId state action next).toNat) :=
    fun _ _ _ _ _ paid taken => paid_step paid taken
  have bounded := occurrences_balance solvent keeps actions empty
  simpa using bounded

end Runs

end PactAgent.Server
