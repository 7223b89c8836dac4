import PactAgent.Server.Allocation
import PactAgent.Server.Approvals
import PactAgent.Server.References

/-! What the escrows hold: each fits in its scope, in the currency of its agreement, and the
open ones of an agreement never hold more together than the agreement is about. -/

namespace PactAgent.Server
open PactAgent.Common PactAgent.Common.Amounts PactAgent.Foundation PactAgent.Lifecycle PactAgent.Store PactAgent.Escrow
open PactAgent.Foundation.Execution PactAgent.Foundation.ReadCommitted

section Sums
variable {Row Target : Type} {holds : Row → Nat} {limit : Target → Nat} {about : Row → Target → Prop}

/-- Rows about different targets, each within its target, are together within all targets. -/
theorem sum_le_of_apart {rows : List Row} {targets : List Target}
    (each : ∀ row ∈ rows, ∃ target ∈ targets, about row target ∧ holds row ≤ limit target)
    (apart : rows.Pairwise fun first second => ∀ target, about first target → ¬about second target) :
    (rows.map holds).sum ≤ (targets.map limit).sum := by
  induction rows generalizing targets with
  | nil => exact Nat.zero_le _
  | cons row rows ih =>
    obtain ⟨others, rest⟩ := List.pairwise_cons.mp apart
    obtain ⟨target, member, mine, within⟩ := each row List.mem_cons_self
    obtain ⟨before, after, rfl⟩ := List.append_of_mem member
    have fewer : (rows.map holds).sum ≤ ((before ++ after).map limit).sum := by
      apply ih _ rest
      intro other otherIn
      obtain ⟨found, foundIn, theirs, small⟩ := each other (List.mem_cons_of_mem _ otherIn)
      have different : found ≠ target := fun same => others other otherIn target mine (same ▸ theirs)
      refine ⟨found, ?_, theirs, small⟩
      simp only [List.mem_append, List.mem_cons] at foundIn ⊢
      rcases foundIn with earlier | same | later
      · exact .inl earlier
      · exact absurd same different
      · exact .inr later
    simp only [List.map_cons, List.sum_cons, List.map_append, List.sum_append] at fewer ⊢
    omega

end Sums

section Holdings
variable {db : Db}

/-- The amount that an escrow is limited by. -/
def scopeAmount (db : Db) (escrow : Escrow) : Option String :=
  match escrow.milestoneId with
  | some milestoneId => (db.milestones.get milestoneId).map (·.amount)
  | none => (db.agreements.get escrow.agreementId).map (·.amount)

theorem escrowAmount_within {amount limit : String} {scope : AmountScope} {exact : Bool}
    (checked : assertEscrowAmountWithinScope amount limit scope exact = .ok ()) :
    amountValue amount ≤ amountValue limit ∧ (exact = true → amountValue amount = amountValue limit) := by
  unfold assertEscrowAmountWithinScope at checked
  cases parsed : parsePositiveIntegerAmount amount "amount" with
  | error error => simp [parsed, bind, Except.bind] at checked
  | ok value =>
    cases limited : parsePositiveIntegerAmount limit s!"{scope.name}.amount" with
    | error error => simp [parsed, limited, bind, Except.bind] at checked
    | ok bound =>
      rw [← parsePositiveIntegerAmount_value parsed, ← parsePositiveIntegerAmount_value limited]
      simp only [parsed, limited, bind, Except.bind] at checked
      split at checked
      next => cases checked
      next same =>
        split at checked
        next => cases checked
        next within =>
          refine ⟨not_lt.mp within, fun exactly => ?_⟩
          by_contra different
          exact same ⟨exactly, different⟩

/-- An escrow holds what its scope allows. -/
theorem escrow_within {escrow : Escrow} (refers : escrow.Refers db) : ∃ limit, scopeAmount db escrow = some limit ∧
    amountValue escrow.amount ≤ amountValue limit ∧
    (escrow.rail = .ckb → amountValue escrow.amount = amountValue limit) := by
  have fits := refers.fits
  unfold EscrowTerms.Fits at fits
  unfold scopeAmount
  cases named : escrow.milestoneId with
  | some milestoneId =>
    rw [show escrow.terms.scope.milestoneId = some milestoneId from named] at fits
    obtain ⟨milestone, stored, _, _, checked⟩ := fits
    obtain ⟨within, exactly⟩ := escrowAmount_within checked
    exact ⟨milestone.amount, by simp [stored], within, fun ckb => exactly (decide_eq_true ckb)⟩
  | none =>
    rw [show escrow.terms.scope.milestoneId = none from named] at fits
    obtain ⟨agreement, stored, checked⟩ := fits
    have there : db.agreements.get escrow.agreementId = some agreement := stored
    obtain ⟨within, exactly⟩ := escrowAmount_within checked
    exact ⟨agreement.amount, by simp [there], within, fun ckb => exactly (decide_eq_true ckb)⟩

/-- What is open at one level of an agreement: for itself, or for its milestones. -/
def openEscrows (db : Db) (agreementId : RowId) (level : AmountScope) : List Escrow :=
  db.escrows.rows.filter fun row => row.agreementId = agreementId ∧ (row.milestoneId.isSome ↔ level = .milestone) ∧
    row.status.terminal = false

def openAmount (db : Db) (agreementId : RowId) (level : AmountScope) : Nat :=
  ((openEscrows db agreementId level).map fun row => amountValue row.amount).sum

theorem mem_openEscrows {agreementId : RowId} {level : AmountScope} {row : Escrow} :
    row ∈ openEscrows db agreementId level ↔ row ∈ db.escrows ∧ row.agreementId = agreementId ∧
      (row.milestoneId.isSome = true ↔ level = .milestone) ∧ row.status.terminal = false := by
  unfold openEscrows
  rw [List.mem_filter, decide_eq_true_eq, Table.mem_def]

/-- Open escrows of one agreement differ in their milestones. -/
theorem openEscrows_apart (linked : Linked db) (unique : ActiveUnique db) (agreementId : RowId) (level : AmountScope) :
    (openEscrows db agreementId level).Pairwise fun first second => first.milestoneId ≠ second.milestoneId := by
  have nodup : (openEscrows db agreementId level).Nodup := db.escrows.keys_nodup.of_map.filter _
  apply nodup.imp_of_mem
  intro first second firstIn secondIn different same
  obtain ⟨firstStored, firstUnder, _, firstOpen⟩ := mem_openEscrows.mp firstIn
  obtain ⟨secondStored, secondUnder, _, secondOpen⟩ := mem_openEscrows.mp secondIn
  obtain ⟨agreement, stored, owner, _⟩ := (linked.escrows first firstStored).agreement
  obtain ⟨other, there, otherOwner, _⟩ := (linked.escrows second secondStored).agreement
  rw [firstUnder] at stored
  rw [secondUnder, stored] at there
  cases there
  have scope : first.scope = second.scope := by
    unfold Escrow.scope
    rw [firstUnder, secondUnder, same, ← owner, ← otherOwner]
  exact different (unique first firstStored second secondStored scope firstOpen secondOpen)

/-- The open escrows of the milestones are within what the milestones amount to. -/
theorem openAmount_milestones (linked : Linked db) (unique : ActiveUnique db) (agreementId : RowId) :
    openAmount db agreementId .milestone ≤ allocatedAmount db agreementId := by
  have each : ∀ row ∈ openEscrows db agreementId .milestone,
      ∃ milestone ∈ db.milestones.rows.filter fun row => row.agreementId = agreementId,
        row.milestoneId = some milestone.id ∧ amountValue row.amount ≤ amountValue milestone.amount := by
    intro row member
    obtain ⟨stored, under, level, _⟩ := mem_openEscrows.mp member
    obtain ⟨milestoneId, named⟩ := Option.isSome_iff_exists.mp (level.mpr rfl)
    have refers := linked.escrows row stored
    obtain ⟨limit, limited, within, _⟩ := escrow_within refers
    obtain ⟨milestone, there, _, belongs⟩ := refers.inside named
    have key : milestone.id = milestoneId := Table.key_of_get there
    simp only [scopeAmount, named, there, Option.map_some, Option.some.injEq] at limited
    refine ⟨milestone, ?_, by rw [named, key], limited ▸ within⟩
    rw [List.mem_filter]
    exact ⟨Table.mem_of_get there, by simp [belongs, under]⟩
  apply sum_le_of_apart each
  apply (openEscrows_apart linked unique agreementId .milestone).imp
  intro first second different milestone one two
  exact different (one.trans two.symm)

/-- The open escrow of the agreement itself is within its amount; there is at most one. -/
theorem openAmount_agreement (linked : Linked db) (unique : ActiveUnique db) {agreement : Agreement}
    (member : agreement ∈ db.agreements) : openAmount db agreement.id .agreement ≤ amountValue agreement.amount := by
  have unnamed : ∀ row ∈ openEscrows db agreement.id .agreement, row.milestoneId = none := by
    intro row rowIn
    obtain ⟨_, _, level, _⟩ := mem_openEscrows.mp rowIn
    cases named : row.milestoneId with
    | none => rfl
    | some milestoneId => simp [named] at level
  have each : ∀ row ∈ openEscrows db agreement.id .agreement,
      ∃ target ∈ [agreement], True ∧ amountValue row.amount ≤ amountValue target.amount := by
    intro row rowIn
    obtain ⟨stored, under, _⟩ := mem_openEscrows.mp rowIn
    obtain ⟨limit, limited, within, _⟩ := escrow_within (linked.escrows row stored)
    have there : db.agreements.get row.agreementId = some agreement := under ▸ Table.get_of_mem member
    simp only [scopeAmount, unnamed row rowIn, there, Option.map_some, Option.some.injEq] at limited
    exact ⟨agreement, List.mem_singleton_self _, trivial, limited ▸ within⟩
  have apart : (openEscrows db agreement.id .agreement).Pairwise fun _ _ => ∀ _ : Agreement, True → ¬True := by
    apply (openEscrows_apart linked unique agreement.id .agreement).imp_of_mem
    intro first second firstIn secondIn different
    exact absurd ((unnamed first firstIn).trans (unnamed second secondIn).symm) different
  have sum := sum_le_of_apart each apart
  simpa [openAmount] using sum

end Holdings

section Runs
variable {settings : Settings}

/-- Every escrow is in the currency of its agreement and within its scope, exactly on the
chain, and what is moved for it is its amount. -/
theorem amounts_conserved {actions : List Action} {state : State}
    (reached : run (step settings) initial actions = some state) :
    (∀ escrow ∈ state.db.escrows, (∃ agreement, state.db.agreements.get escrow.agreementId = some agreement ∧
        agreement.currency = escrow.currency) ∧
      ∃ limit, scopeAmount state.db escrow = some limit ∧ amountValue escrow.amount ≤ amountValue limit ∧
        (escrow.rail = .ckb → amountValue escrow.amount = amountValue limit)) ∧
    ∀ row ∈ state.db.transactions, ∃ escrow ∈ state.db.escrows, row.escrowId = some escrow.id ∧
      row.amount = escrow.amount ∧ row.currency = escrow.currency := by
  obtain ⟨linked, concerned⟩ := references_reached reached
  constructor
  · intro escrow member
    have refers := linked.escrows escrow member
    obtain ⟨agreement, stored, _, currency⟩ := refers.agreement
    exact ⟨⟨agreement, stored, currency⟩, escrow_within refers⟩
  · intro row member
    obtain ⟨escrow, stored, concerns⟩ := concerned row member
    exact ⟨escrow, Table.mem_of_get stored, concerns.belongs, congrArg TransactionScope.amount concerns.scope,
      congrArg TransactionScope.currency concerns.scope⟩

def amounts (state : State) : List (String × String) :=
  state.db.transactions.rows.map fun row => (row.amount, row.currency)

theorem releasedRun_conserved : ∃ final, run (step sandbox) initial releasedRun = some final ∧
    amounts final = [("5", "CKB"), ("5", "CKB")] ∧
    ∀ row ∈ final.db.transactions, ∃ escrow ∈ final.db.escrows, row.escrowId = some escrow.id ∧
      row.amount = escrow.amount ∧ row.currency = escrow.currency := by
  have observed : (run (step sandbox) initial releasedRun).map amounts = some [("5", "CKB"), ("5", "CKB")] := by
    decide +kernel
  obtain ⟨final, reached, same⟩ := Option.map_eq_some_iff.mp observed
  exact ⟨final, reached, same, (amounts_conserved reached).2⟩

/-- However requests interleave, the open escrows of an agreement never hold more than its
amount, neither those of its milestones together nor that of the agreement itself. -/
theorem open_escrows_covered {actions : List Action} {state : State}
    (reached : run (step settings) initial actions = some state) (level : AmountScope) :
    ∀ agreement ∈ state.db.agreements, openAmount state.db agreement.id level ≤ amountValue agreement.amount := by
  have empty : Allocated Db.empty :=
    ⟨fun _ member => absurd member (Table.not_mem_empty _), fun _ member => absurd member (Table.not_mem_empty _)⟩
  have allocated : Allocated state.db :=
    (Sound.run allocation_preserved empty actions (locking_run actions) reached).holds
  have linked := (references_reached reached).1
  have unique := activeUnique_run reached
  intro agreement member
  cases level with
  | agreement => exact openAmount_agreement linked unique member
  | milestone => exact (openAmount_milestones linked unique agreement.id).trans (allocated.within agreement member)

/-- The amounts of the agreements, and what is open for their milestones. -/
def covered (state : State) : List (Nat × Nat) :=
  state.db.agreements.rows.map fun agreement =>
    (openAmount state.db agreement.id .milestone, amountValue agreement.amount)

theorem milestoneRun_covered : ∃ final, run (step sandbox) initial milestoneRun = some final ∧
    covered final = [(5, 5)] ∧
    ∀ agreement ∈ final.db.agreements, openAmount final.db agreement.id .milestone ≤ amountValue agreement.amount := by
  have observed : (run (step sandbox) initial milestoneRun).map covered = some [(5, 5)] := by decide +kernel
  obtain ⟨final, reached, same⟩ := Option.map_eq_some_iff.mp observed
  exact ⟨final, reached, same, open_escrows_covered reached .milestone⟩

end Runs

end PactAgent.Server
