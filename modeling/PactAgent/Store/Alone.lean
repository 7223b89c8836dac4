import PactAgent.Foundation.Alone
import PactAgent.Store.Effects

/-! The statements of the repositories in a transaction that no other commit interrupts. -/

namespace PactAgent.Store
open PactAgent.Foundation PactAgent.Common PactAgent.Lifecycle

variable {db : Db} {writes : List Write} {query : Query} {Row Answer : Type}

theorem alone_read {read : Db → Answer} {result : Except Failure (Answer × List Write)} :
    Alone db (readStatement query read) writes result ↔ result = .ok (read (Storage.view writes db), writes) := by
  unfold readStatement
  rw [alone_statement]
  simp [Except.map]

theorem completes_read (read : Db → Answer) : Completes db (readStatement query read) writes := by
  intro error alone
  cases alone_read.mp alone

/-- A read as the first part of a body. -/
theorem alone_read_bind {read : Db → Answer} {α : Type} {rest : Answer → Tx α}
    {result : Except Failure (α × List Write)} :
    Alone db (readStatement query read >>= rest) writes result ↔
      Alone db (rest (read (Storage.view writes db))) writes result := by
  rw [alone_bind]
  constructor
  · rintro (⟨value, middle, reached, onwards⟩ | ⟨error, failed, _⟩)
    · cases alone_read.mp reached
      exact onwards
    · cases alone_read.mp failed
  · intro onwards
    exact .inl ⟨_, _, alone_read.mpr rfl, onwards⟩

theorem completes_readOrThrow {read : Db → Option Answer} (found : (read (Storage.view writes db)).isSome) :
    Completes db (readOrThrow query read) writes := by
  obtain ⟨answer, present⟩ := Option.isSome_iff_exists.mp found
  intro error alone
  obtain ⟨now, same⟩ := alone_statement.mp alone
  rw [present] at same
  cases same

section Update
variable {find : Db → Option Row} {condition : Row → Bool} {change : Nat → Row → Row}
variable {clashes : Row → Db → Bool} {write : Row → Write} {result : Except Failure (Nat × List Write)} {row : Row}

/-- An update of a row that is there and meets the condition. -/
theorem alone_update (found : find (Storage.view writes db) = some row) (met : condition row = true)
    (alone : Alone db (updateStatement query find condition change clashes write) writes result) :
    ∃ now, result = if clashes (change now row) (Storage.view writes db) then .error .uniqueConstraint
      else .ok (1, writes ++ [write (change now row)]) := by
  obtain ⟨now, same⟩ := alone_statement.mp alone
  refine ⟨now, same.trans ?_⟩
  rw [found]
  dsimp only
  rw [if_pos met]
  split <;> rfl

end Update

theorem agreementForApp_put {row : Agreement} {appId : String} (owned : row.appId = appId) :
    (Storage.view (writes ++ [.agreement row]) db).agreementForApp appId row.id = some row := by
  rw [Storage.view_append]
  change Option.filter _ (Table.get (Table.put row _) (Keyed.key row)) = _
  rw [Table.get_put_self]
  simp [owned]

theorem milestoneForApp_put {row : Milestone} {appId : String} (owned : row.appId = appId) :
    (Storage.view (writes ++ [.milestone row]) db).milestoneForApp appId row.id = some row := by
  rw [Storage.view_append]
  change Option.filter _ (Table.get (Table.put row _) (Keyed.key row)) = _
  rw [Table.get_put_self]
  simp [owned]

/-- The transition of an agreement that was just read. -/
theorem completes_transitionAgreementStatus {appId : String} {id : RowId} {row : Agreement}
    {next : AgreementStatus}
    (found : (Storage.view writes db).agreementForApp appId id = some row) :
    Completes db (transitionAgreementStatus appId id row.status next) writes ∧
      ∀ value after, Alone db (transitionAgreementStatus appId id row.status next) writes (.ok (value, after)) →
        ∃ now, after = writes ++ [.agreement (row.transition next now)] ∧
          (Storage.view after db).agreementForApp appId id = some (row.transition next now) := by
  obtain ⟨stored, owned⟩ := Option.filter_eq_some_iff.mp found
  have key : row.id = id := Table.key_of_get stored
  have update : ∀ ended, Alone db (updateStatement .transitionAgreementStatus (·.agreementForApp appId id)
      (fun other => other.status = row.status) (Agreement.transition next) (fun _ _ => false) .agreement) writes ended →
      ∃ now, ended = .ok (1, writes ++ [.agreement (row.transition next now)]) := by
    intro ended alone
    obtain ⟨now, same⟩ := alone_update found (by simp) alone
    exact ⟨now, same⟩
  have there : ∀ now, (Storage.view (writes ++ [.agreement (row.transition next now)]) db).agreementForApp appId id =
      some (row.transition next now) := by
    intro now
    have same : (row.transition next now).id = id := by rw [← key]; cases next <;> rfl
    rw [← same]
    apply agreementForApp_put
    have kept : (row.transition next now).appId = row.appId := by cases next <;> rfl
    rw [kept]
    simpa using owned
  refine ⟨?_, ?_⟩
  · apply completes_bind
    · intro error alone
      obtain ⟨now, same⟩ := update _ alone
      cases same
    · intro count after alone
      obtain ⟨now, same⟩ := update _ alone
      cases same
      apply completes_bind (fun error alone => by cases alone)
      intro _ after checked
      cases checked
      apply completes_readOrThrow
      rw [there]
      rfl
  · intro value after alone
    rcases alone_bind.mp alone with ⟨count, middle, updated, rest⟩ | ⟨_, _, impossible⟩
    · obtain ⟨now, same⟩ := update _ updated
      cases same
      rcases alone_bind.mp rest with ⟨_, _, checked, rest⟩ | ⟨_, _, impossible⟩
      · cases checked
        obtain ⟨_, same⟩ := alone_statement.mp rest
        simp only [there] at same
        cases same
        exact ⟨now, by simp, by simpa using there now⟩
      · cases impossible
    · cases impossible

/-- The transition of a milestone that was just read. -/
theorem completes_transitionMilestoneStatus {appId : String} {id : RowId} {row : Milestone}
    {next : MilestoneStatus} (found : (Storage.view writes db).milestoneForApp appId id = some row) :
    Completes db (transitionMilestoneStatus appId id row.status next) writes := by
  obtain ⟨stored, owned⟩ := Option.filter_eq_some_iff.mp found
  have key : row.id = id := Table.key_of_get stored
  have update : ∀ ended, Alone db (updateStatement .transitionMilestoneStatus (·.milestoneForApp appId id)
      (fun other => other.status = row.status) (fun _ row => { row with status := next }) (fun _ _ => false)
      .milestone) writes ended → ended = .ok (1, writes ++ [.milestone { row with status := next }]) := by
    intro ended alone
    obtain ⟨now, same⟩ := alone_update found (by simp) alone
    exact same
  apply completes_bind
  · intro error alone
    cases update _ alone
  · intro count after alone
    cases update _ alone
    apply completes_bind (fun error alone => by cases alone)
    intro _ after checked
    cases checked
    apply completes_readOrThrow
    have there : (Storage.view (writes ++ [.milestone { row with status := next }]) db).milestoneForApp appId id =
        some { row with status := next } := by
      rw [← key]
      exact milestoneForApp_put (by simpa using owned)
    rw [there]
    rfl

end PactAgent.Store
