import PactAgent.Foundation.Guard
import PactAgent.Contract.Validate

/-! Which outputs pay for the escrows of one transaction. An accepted escrow is
paid by exactly one output; every group counts the same outputs, so two escrows
are paid by two outputs unless one output fits both. -/

namespace PactAgent.Contract.Payment
open PactAgent.Foundation PactAgent.Contract.Lock PactAgent.Contract.Spend
open PactAgent.Contract.Validate

theorem collect_drop {α : Type} (values : List α) (load : Nat → Except SysError α)
    (loads : ∀ index, load index = match values[index]? with
      | some value => .ok value
      | none => .error .indexOutOfBound)
    (fuel index : Nat) (enough : values.length < fuel + index) :
    collect load fuel index = .ok (values.drop index) := by
  induction fuel generalizing index with
  | zero =>
    have past : values.length ≤ index := by omega
    rw [collect, List.drop_eq_nil_of_le past]
  | succ fuel ih =>
    rw [collect, loads index]
    by_cases inside : index < values.length
    · rw [List.getElem?_eq_getElem inside, ih (index + 1) (by omega),
        List.drop_eq_getElem_cons inside]
      rfl
    · have past : values.length ≤ index := by omega
      rw [List.getElem?_eq_none past, List.drop_eq_nil_of_le past]

section
variable (lockHash : Script → Hash) (tx : Transaction) (script : Script)

/-- An output as the script loads it. -/
def outputCell (cell : Cell) : OutputCell := ⟨lockHash cell.lock, cell.capacity⟩

theorem collectOutputs_eq :
    collectOutputs lockHash tx script = .ok (tx.outputs.map (outputCell lockHash)) := by
  rw [collectOutputs, collect_drop (tx.outputs.map (outputCell lockHash)), List.drop_zero]
  · intro index
    rw [List.getElem?_map]
    cases found : tx.outputs[index]? with
    | none => simp [loadOutput, loadCellLockHash, loadCellCapacity, loadCell, sourceCells, found,
        Except.map]
    | some cell => simp [loadOutput, loadCellLockHash, loadCellCapacity, loadCell, sourceCells,
        found, Except.map, outputCell]
  · simp

theorem collectLockHashes_eq (source : Source) :
    collectLockHashes lockHash tx script source =
      .ok ((sourceCells tx script source).map fun cell => lockHash cell.lock) := by
  rw [collectLockHashes, collect_drop
    ((sourceCells tx script source).map fun cell => lockHash cell.lock), List.drop_zero]
  · intro index
    rw [List.getElem?_map]
    cases found : (sourceCells tx script source)[index]? with
    | none => simp [loadCellLockHash, loadCell, found, Except.map]
    | some cell => simp [loadCellLockHash, loadCell, found, Except.map]
  · simp

/-- What acceptance of one group says: it has a single input, well-formed
arguments and terms, and `evaluateSpend` accepts that input. -/
theorem validate_ok {tx : Transaction} {script : Script}
    (accepted : validate lockHash tx script = .ok ()) :
    ∃ parties terms input path,
      parsePartyHashes script.args = .ok parties ∧ parseTerms input.cell.data = .ok terms ∧
      tx.group script = [input] ∧
      evaluateSpend parties terms
        ⟨input.cell.capacity, input.since, tx.inputs.map (fun other => lockHash other.cell.lock),
          tx.outputs.map (outputCell lockHash)⟩ = .ok path := by
  simp only [validate, Guard.bind_ok_iff, Guard.mapError_ok_iff] at accepted
  obtain ⟨parties, args, data, loaded, terms, parsed, rest⟩ := accepted
  simp only [loadCellCapacity, loadCellData, loadCell, sourceCells, loadGroupInputSince] at loaded rest
  cases shape : tx.group script with
  | nil => simp [shape, Except.map] at loaded
  | cons input others =>
    cases others with
    | cons second more => simp [shape, Except.map, throw, throwThe, MonadExceptOf.throw] at rest
    | nil =>
      simp only [shape, List.map_cons, List.map_nil, List.getElem?_cons_zero,
        List.getElem?_cons_succ, List.getElem?_nil, Except.map, Except.ok.injEq] at loaded rest
      subst data
      simp only [Guard.bind_ok_iff, Guard.mapError_ok_iff, Except.ok.injEq, exists_eq_left',
        collectLockHashes_eq, collectOutputs_eq] at rest
      obtain ⟨path, spend, -⟩ := rest
      refine ⟨parties, terms, input, path, args, parsed, rfl, ?_⟩
      simpa only [sourceCells, List.map_map, Function.comp_def] using spend

end

/-- Two positions of a list at which a test holds are equal if the test holds
at most once. -/
theorem index_unique {α : Type} (test : α → Bool) (values : List α) (once : values.countP test ≤ 1)
    (i j : Nat) (hi : i < values.length) (hj : j < values.length)
    (first : test values[i] = true) (second : test values[j] = true) : i = j := by
  induction values generalizing i j with
  | nil => simp at hi
  | cons head tail ih =>
    have absent : test head = true → ∀ k (hk : k < tail.length), test tail[k] ≠ true := by
      intro found k hk again
      have positive : 0 < tail.countP test :=
        List.countP_pos_iff.mpr ⟨tail[k], List.getElem_mem hk, again⟩
      rw [List.countP_cons_of_pos found] at once
      omega
    have fewer : tail.countP test ≤ 1 :=
      le_trans (List.Sublist.countP_le (List.sublist_cons_self head tail)) once
    cases i with
    | zero =>
      cases j with
      | zero => rfl
      | succ j => exact absurd second (absent first j (by simpa using hj))
    | succ i =>
      cases j with
      | zero => exact absurd first (absent second i (by simpa using hi))
      | succ j =>
        exact congrArg (· + 1) (ih fewer i j (by simpa using hi) (by simpa using hj) first second)

section
variable (lockHash : Script → Hash) (code : Code) (tx : Transaction)

/-- The positions of the escrow inputs. -/
def EscrowInput : Type := { position : Fin tx.inputs.length // code.owns tx.inputs[position].cell.lock }

variable {code tx} in
def EscrowInput.input (escrow : EscrowInput code tx) : CellInput := tx.inputs[escrow.1]

/-- The output has the escrow's capacity and the lock of its worker or client. -/
def Pays (cell : Cell) (input : CellInput) : Prop :=
  cell.capacity = input.cell.capacity ∧ ∃ parties, parsePartyHashes input.cell.lock.args = .ok parties ∧
    (lockHash cell.lock = parties.worker ∨ lockHash cell.lock = parties.client)

/-- `validate` accepts every group of escrow inputs. -/
def AcceptsEscrows : Prop :=
  ∀ input ∈ tx.inputs, code.owns input.cell.lock → validate lockHash tx input.cell.lock = .ok ()

/-- Each escrow input has an output of its own that pays one of its parties. -/
def PaidSeparately : Prop :=
  ∃ pay : EscrowInput code tx → Fin tx.outputs.length, Function.Injective pay ∧
    ∀ escrow, Pays lockHash tx.outputs[pay escrow] escrow.input

/-- No output has the capacity of two escrow inputs and the lock of a party of both. -/
def NoSharedPayment : Prop :=
  ∀ first second : EscrowInput code tx, first ≠ second →
    ∀ cell ∈ tx.outputs, ¬(Pays lockHash cell first.input ∧ Pays lockHash cell second.input)

variable {lockHash code tx}

theorem accepted_counts {input : CellInput} (member : input ∈ tx.inputs)
    (accepted : validate lockHash tx input.cell.lock = .ok ()) :
    ∃ parties, parsePartyHashes input.cell.lock.args = .ok parties ∧
      matchingOutputs (tx.outputs.map (outputCell lockHash)) parties.worker input.cell.capacity +
        matchingOutputs (tx.outputs.map (outputCell lockHash)) parties.client input.cell.capacity = 1 := by
  obtain ⟨parties, terms, only, path, args, -, group, spend⟩ := validate_ok lockHash accepted
  have inGroup : input ∈ tx.group input.cell.lock := by
    simpa [Transaction.group] using member
  rw [group, List.mem_singleton] at inGroup
  subst inGroup
  refine ⟨parties, args, ?_⟩
  rw [evaluateSpend_eq_resolve] at spend
  have allowed := (resolve_ok_iff _ _ _ _ _).mp ⟨path, spend⟩
  dsimp only at allowed
  omega

/-- An output that pays an escrow is one the counts of `evaluateSpend` see. -/
theorem pays_iff_counted {input : CellInput} {parties : PartyHashes}
    (args : parsePartyHashes input.cell.lock.args = .ok parties) (cell : Cell) :
    Pays lockHash cell input ↔ ∃ party, (party = parties.worker ∨ party = parties.client) ∧
      ((outputCell lockHash cell).lockHash == party &&
        (outputCell lockHash cell).capacity == input.cell.capacity) = true := by
  simp only [Pays, args, Except.ok.injEq, exists_eq_left', outputCell, Bool.and_eq_true, beq_iff_eq]
  constructor
  · rintro ⟨capacity, worker | client⟩
    · exact ⟨_, Or.inl rfl, worker, capacity⟩
    · exact ⟨_, Or.inr rfl, client, capacity⟩
  · rintro ⟨party, rfl | rfl, lock, capacity⟩
    · exact ⟨capacity, Or.inl lock⟩
    · exact ⟨capacity, Or.inr lock⟩

/-- Exactly one output pays an accepted escrow. -/
theorem accepted_paid_once {input : CellInput} (member : input ∈ tx.inputs)
    (accepted : validate lockHash tx input.cell.lock = .ok ()) :
    ∃! position : Fin tx.outputs.length, Pays lockHash tx.outputs[position] input := by
  obtain ⟨parties, args, total⟩ := accepted_counts member accepted
  -- One of the two counts is one and the other zero: the paid party is fixed.
  obtain ⟨paid, unpaid, parts, isParty, count, none_unpaid⟩ : ∃ paid unpaid : Hash,
      (∀ party, (party = parties.worker ∨ party = parties.client) → party = paid ∨ party = unpaid) ∧
      (paid = parties.worker ∨ paid = parties.client) ∧
      matchingOutputs (tx.outputs.map (outputCell lockHash)) paid input.cell.capacity = 1 ∧
      matchingOutputs (tx.outputs.map (outputCell lockHash)) unpaid input.cell.capacity = 0 := by
    by_cases worker :
        matchingOutputs (tx.outputs.map (outputCell lockHash)) parties.worker input.cell.capacity = 1
    · exact ⟨parties.worker, parties.client, fun _ => id, Or.inl rfl, worker, by omega⟩
    · exact ⟨parties.client, parties.worker, fun _ => Or.symm, Or.inr rfl, by omega, by omega⟩
  have reduces : ∀ cell ∈ tx.outputs, Pays lockHash cell input ↔
      ((outputCell lockHash cell).lockHash == paid &&
        (outputCell lockHash cell).capacity == input.cell.capacity) = true := by
    intro cell present
    rw [pays_iff_counted args]
    constructor
    · rintro ⟨party, either, found⟩
      rcases parts party either with rfl | rfl
      · exact found
      · rw [matchingOutputs, List.countP_eq_zero] at none_unpaid
        exact absurd found (none_unpaid _ (List.mem_map_of_mem present))
    · intro found
      exact ⟨paid, isParty, found⟩
  have positive : 0 < tx.outputs.countP fun cell =>
      (outputCell lockHash cell).lockHash == paid &&
        (outputCell lockHash cell).capacity == input.cell.capacity := by
    rw [matchingOutputs, List.countP_map] at count
    exact lt_of_lt_of_eq Nat.one_pos count.symm
  obtain ⟨cell, present, found⟩ := List.countP_pos_iff.mp positive
  obtain ⟨position, bound, rfl⟩ := List.getElem_of_mem present
  refine ⟨⟨position, bound⟩, (reduces _ present).mpr found, ?_⟩
  intro other pays
  apply Fin.ext
  rw [matchingOutputs, List.countP_map] at count
  exact index_unique _ tx.outputs count.le other.val position other.isLt bound
    ((reduces _ (List.getElem_mem _)).mp pays) found

/-- In an accepted transaction the escrows have outputs of their own exactly when
no output fits two of them. -/
theorem accepted_paidSeparately_iff (accepted : AcceptsEscrows lockHash code tx) :
    PaidSeparately lockHash code tx ↔ NoSharedPayment lockHash code tx := by
  have once : ∀ escrow : EscrowInput code tx,
      ∃! position : Fin tx.outputs.length, Pays lockHash tx.outputs[position] escrow.input :=
    fun escrow => accepted_paid_once (List.getElem_mem _)
      (accepted _ (List.getElem_mem _) escrow.2)
  constructor
  · rintro ⟨pay, injective, pays⟩ first second different cell present ⟨paysFirst, paysSecond⟩
    obtain ⟨position, bound, rfl⟩ := List.getElem_of_mem present
    have toFirst : pay first = ⟨position, bound⟩ := (once first).unique (pays first) paysFirst
    have toSecond : pay second = ⟨position, bound⟩ := (once second).unique (pays second) paysSecond
    exact different (injective (toFirst.trans toSecond.symm))
  · intro noShared
    choose pay pays using fun escrow => (once escrow).exists
    refine ⟨pay, ?_, pays⟩
    intro first second same
    by_contra different
    exact noShared first second different tx.outputs[pay first] (List.getElem_mem _)
      ⟨pays first, same ▸ pays second⟩

end

section Example

/-- A hash that keeps the scripts below apart. -/
def lastByteHash (script : Script) : Hash := Hash.repeated (script.args.getLastD 0)

def exampleCode : Code := ⟨Hash.repeated 0xaa, .type⟩
def clientLock : Script := ⟨Hash.repeated 0xbb, .type, [1]⟩
def workerLock : Script := ⟨Hash.repeated 0xbb, .type, [2]⟩

/-- The escrow lock of one client and worker under a given agreement salt. -/
def escrowLock (salt : UInt8) : Script :=
  ⟨exampleCode.codeHash, exampleCode.hashType,
    (lastByteHash clientLock).bytes ++ (lastByteHash workerLock).bytes ++ (Hash.repeated salt).bytes⟩

def escrowData : List UInt8 :=
  serializeTerms ⟨VERSION, 1, 123, Hash.repeated 9, Hash.repeated 7⟩

def escrowCell (salt : UInt8) : Cell := ⟨22500000000, escrowLock salt, escrowData⟩

/-- The client spends two escrows with one worker and takes the second amount as change. -/
def sharedPayout : Transaction where
  inputs := [⟨escrowCell 3, 0⟩, ⟨escrowCell 4, 0⟩, ⟨⟨6100000000, clientLock, []⟩, 0⟩]
  outputs := [⟨22500000000, workerLock, []⟩, ⟨28500000000, clientLock, []⟩]

/-- The client releases one escrow and keeps the change of the fee cell. -/
def singlePayout : Transaction where
  inputs := [⟨escrowCell 3, 0⟩, ⟨⟨6200000000, clientLock, []⟩, 0⟩]
  outputs := [⟨22500000000, workerLock, []⟩, ⟨6100000000, clientLock, []⟩]

/-- The condition is met when a single escrow is released. -/
theorem singlePayout_paidSeparately_iff :
    AcceptsEscrows lastByteHash exampleCode singlePayout ∧
      (PaidSeparately lastByteHash exampleCode singlePayout ↔
        NoSharedPayment lastByteHash exampleCode singlePayout) := by
  have accepted : AcceptsEscrows lastByteHash exampleCode singlePayout := by
    intro input member owned
    simp only [singlePayout, List.mem_cons, List.not_mem_nil, or_false] at member
    rcases member with rfl | rfl
    · rfl
    · exact absurd owned.1 (by decide)
  exact ⟨accepted, accepted_paidSeparately_iff accepted⟩

/-- Two accepted escrow groups may count the same output as their payment. -/
theorem sharedPayout_not_paidSeparately :
    AcceptsEscrows lastByteHash exampleCode sharedPayout ∧
      ¬PaidSeparately lastByteHash exampleCode sharedPayout := by
  constructor
  · intro input member owned
    simp only [sharedPayout, List.mem_cons, List.not_mem_nil, or_false] at member
    rcases member with rfl | rfl | rfl
    · rfl
    · rfl
    · exact absurd owned.1 (by decide)
  · rintro ⟨pay, injective, pays⟩
    have onlyFirst : ∀ target : Fin sharedPayout.outputs.length,
        sharedPayout.outputs[target].capacity = 22500000000 → target = ⟨0, by decide⟩ := by decide
    have worker : ∀ escrow, escrow.input.cell.capacity = 22500000000 → pay escrow = ⟨0, by decide⟩ :=
      fun escrow capacity => onlyFirst _ ((pays escrow).1.trans capacity)
    have same := injective ((worker ⟨⟨0, by decide⟩, rfl, rfl⟩ rfl).trans
      (worker ⟨⟨1, by decide⟩, rfl, rfl⟩ rfl).symm)
    exact absurd (congrArg (fun escrow => escrow.1.val) same) (by decide)

end Example

end PactAgent.Contract.Payment
