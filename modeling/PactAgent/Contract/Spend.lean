import PactAgent.Contract.Lock

/-! What `evaluateSpend` decides. The result is a function of two output counts,
of the two signer memberships and of the timeout test, which gives both the
exact set of authorized spends and the independence from the order of cells. -/

namespace PactAgent.Contract.Spend
open PactAgent.Contract.Lock

theorem hasSigner_eq (signers : List Hash) (target : Hash) :
    hasSigner signers target = decide (target ∈ signers) := by
  rw [hasSigner, Bool.eq_iff_iff]
  simp

/-- A shift by 56 leaves exactly the flag byte of a since value. -/
theorem flag_clear_iff (since : UInt64) : since >>> 56 = 0 ↔ since.toNat < 2 ^ 56 := by
  rw [← UInt64.toNat_inj, UInt64.toNat_shiftRight]
  simp only [UInt64.reduceToNat, Nat.shiftRight_eq_div_pow, Nat.reduceMod]
  rw [Nat.div_eq_zero_iff]
  simp

theorem timeoutRefundReached_iff (currentSince requiredSince : UInt64) :
    timeoutRefundReached currentSince requiredSince = true ↔
      currentSince.toNat < 2 ^ 56 ∧ requiredSince ≤ currentSince := by
  simp only [timeoutRefundReached, Bool.and_eq_true, beq_iff_eq, decide_eq_true_eq, ge_iff_le,
    flag_clear_iff]

/-- The branches of `evaluateSpend` after its four inputs have been computed. -/
def resolve (workerCount clientCount : Nat) (clientAuth workerAuth timedOut : Bool) :
    Except Error ResolutionPath :=
  if workerCount > 1 then .error .ambiguousSettlementOutputs
  else if clientCount > 1 then .error .ambiguousSettlementOutputs
  else if workerCount = 1 ∧ clientCount = 1 then .error .ambiguousSettlementOutputs
  else if workerCount = 1 ∧ clientAuth then .ok .clientPayout
  else if clientCount = 1 ∧ workerAuth then .ok .workerRefund
  else if clientCount = 1 ∧ timedOut then .ok .timeoutRefund
  else if !clientAuth && !workerAuth then .error .missingRequiredSigner
  else .error .missingExpectedOutput

theorem evaluateSpend_eq_resolve (parties : PartyHashes) (terms : EscrowTerms) (tx : TxState) :
    evaluateSpend parties terms tx =
      resolve (matchingOutputs tx.outputs parties.worker tx.inputCapacity)
        (matchingOutputs tx.outputs parties.client tx.inputCapacity)
        (hasSigner tx.signerLockHashes parties.client)
        (hasSigner tx.signerLockHashes parties.worker)
        (timeoutRefundReached tx.inputSince terms.refundTimeoutSince) := by
  simp only [evaluateSpend, hasExactOutput, resolve]
  by_cases worker : matchingOutputs tx.outputs parties.worker tx.inputCapacity > 1
  · simp [worker, bind, Except.bind]
  by_cases client : matchingOutputs tx.outputs parties.client tx.inputCapacity > 1
  · simp [worker, client, bind, Except.bind]
  simp only [worker, client, bind, Except.bind, if_false, Bool.and_eq_true, beq_iff_eq]
  rfl

theorem resolve_ok_iff (workerCount clientCount : Nat) (clientAuth workerAuth timedOut : Bool) :
    (∃ path, resolve workerCount clientCount clientAuth workerAuth timedOut = .ok path) ↔
      workerCount ≤ 1 ∧ clientCount ≤ 1 ∧ ¬(workerCount = 1 ∧ clientCount = 1) ∧
        ((workerCount = 1 ∧ clientAuth = true) ∨
          (clientCount = 1 ∧ (workerAuth = true ∨ timedOut = true))) := by
  unfold resolve
  split_ifs <;> simp_all

theorem resolve_payout_iff (workerCount clientCount : Nat) (clientAuth workerAuth timedOut : Bool) :
    resolve workerCount clientCount clientAuth workerAuth timedOut = .ok .clientPayout ↔
      workerCount = 1 ∧ clientCount = 0 ∧ clientAuth = true := by
  unfold resolve
  split_ifs <;> simp_all
  all_goals omega

theorem resolve_refund_iff (workerCount clientCount : Nat) (clientAuth workerAuth timedOut : Bool) :
    (resolve workerCount clientCount clientAuth workerAuth timedOut = .ok .workerRefund ∨
        resolve workerCount clientCount clientAuth workerAuth timedOut = .ok .timeoutRefund) ↔
      clientCount = 1 ∧ workerCount = 0 ∧ (workerAuth = true ∨ timedOut = true) := by
  unfold resolve
  split_ifs <;> simp_all
  all_goals omega

theorem matchingOutputs_perm {first second : List OutputCell} (perm : first.Perm second)
    (target : Hash) (capacity : UInt64) :
    matchingOutputs first target capacity = matchingOutputs second target capacity :=
  perm.countP_eq _

theorem matchingOutputs_append_unrelated (outputs inserted : List OutputCell) (target : Hash)
    (capacity : UInt64)
    (unrelated : ∀ output ∈ inserted, ¬(output.lockHash = target ∧ output.capacity = capacity)) :
    matchingOutputs (outputs ++ inserted) target capacity =
      matchingOutputs outputs target capacity := by
  have none_match : matchingOutputs inserted target capacity = 0 := by
    rw [matchingOutputs, List.countP_eq_zero]
    intro output member
    simpa using unrelated output member
  rw [matchingOutputs, List.countP_append]
  exact (congrArg _ none_match).trans (Nat.add_zero _)

/-- The lock authorizes exactly the cooperative payout, the cooperative refund
and the timeout refund; its answer depends neither on the order of outputs, nor
on the order or multiplicity of signers, nor on cells that pay no party. -/
theorem evaluateSpend_paths (parties : PartyHashes) (terms : EscrowTerms) (tx : TxState) :
    ((∃ path, evaluateSpend parties terms tx = .ok path) ↔
      matchingOutputs tx.outputs parties.worker tx.inputCapacity ≤ 1 ∧
      matchingOutputs tx.outputs parties.client tx.inputCapacity ≤ 1 ∧
      ¬(matchingOutputs tx.outputs parties.worker tx.inputCapacity = 1 ∧
        matchingOutputs tx.outputs parties.client tx.inputCapacity = 1) ∧
      ((matchingOutputs tx.outputs parties.worker tx.inputCapacity = 1 ∧
          parties.client ∈ tx.signerLockHashes) ∨
        (matchingOutputs tx.outputs parties.client tx.inputCapacity = 1 ∧
          (parties.worker ∈ tx.signerLockHashes ∨
            tx.inputSince.toNat < 2 ^ 56 ∧ terms.refundTimeoutSince ≤ tx.inputSince)))) ∧
    (∀ (outputs inserted : List OutputCell) (signerLockHashes : List Hash),
      outputs.Perm (tx.outputs ++ inserted) →
      (∀ output ∈ inserted, output.capacity = tx.inputCapacity →
        output.lockHash ≠ parties.worker ∧ output.lockHash ≠ parties.client) →
      (∀ hash, hash ∈ signerLockHashes ↔ hash ∈ tx.signerLockHashes) →
      evaluateSpend parties terms { tx with outputs, signerLockHashes } =
        evaluateSpend parties terms tx) := by
  constructor
  · rw [evaluateSpend_eq_resolve, resolve_ok_iff]
    simp only [hasSigner_eq, decide_eq_true_eq, timeoutRefundReached_iff]
  · intro outputs inserted signerLockHashes perm unrelated signers
    have counts : ∀ target, (target = parties.worker ∨ target = parties.client) →
        matchingOutputs outputs target tx.inputCapacity =
          matchingOutputs tx.outputs target tx.inputCapacity := by
      intro target party
      rw [matchingOutputs_perm perm, matchingOutputs_append_unrelated]
      rintro output member ⟨lock, capacity⟩
      have other := unrelated output member capacity
      rcases party with rfl | rfl
      · exact other.1 lock
      · exact other.2 lock
    rw [evaluateSpend_eq_resolve, evaluateSpend_eq_resolve]
    simp only [hasSigner_eq, counts _ (Or.inl rfl), counts _ (Or.inr rfl), signers]

end PactAgent.Contract.Spend
