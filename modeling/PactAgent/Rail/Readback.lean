import PactAgent.Rail.Spendable

/-! What is read back from a commitment: by the lock from the bytes of its script
arguments and of its cell data, and by the server's own decoder of cell data. -/

namespace PactAgent.Rail.Readback
open PactAgent.Common PactAgent.Foundation
open PactAgent.Contract PactAgent.Contract.Lock PactAgent.Contract.Terms
open PactAgent.Rail.Script PactAgent.Rail.Codec PactAgent.Rail.Builder PactAgent.Rail.Spendable

/-- The values the builder encodes for one input. -/
structure Encoded where
  clientLockHash : Hash
  workerLockHash : Hash
  agreementSalt : Hash
  milestoneIndex : Int
  refundTimeoutSince : Nat
  agreementDigest : Hash
  milestoneDigest : Hash

def encodedOf (hashing : CkbHashing) (input : CommitmentInput) : Option Encoded := do
  let client ← partyScript input.clientLockScript
  let worker ← partyScript input.workerLockScript
  let refundTimeoutSince ← (parseRefundTimeoutSince input.refundTimeoutSince).toOption
  return {
    clientLockHash := hashing.scriptHash client
    workerLockHash := hashing.scriptHash worker
    agreementSalt := digest hashing ["pactagent", "agreement-salt", input.agreementId]
    milestoneIndex := input.milestoneIndex
    refundTimeoutSince
    agreementDigest := digest hashing ["pactagent", "agreement", input.agreementId]
    milestoneDigest := digest hashing
      ["pactagent", "milestone", input.agreementId, input.milestoneId, input.amount] }

/-- The lock parses these values, and version 1, out of the commitment's bytes. -/
def LockReads (commitment : CkbEscrowCommitment) (encoded : Encoded) : Prop :=
  parsePartyHashes (bytesFrom commitment.lockScript.args) =
      .ok ⟨encoded.clientLockHash, encoded.workerLockHash, encoded.agreementSalt⟩ ∧
    ∃ terms, parseTerms (bytesFrom commitment.cellData) = .ok terms ∧
      terms.version = 1 ∧
      terms.milestoneIndex.toNat = encoded.milestoneIndex ∧
      terms.refundTimeoutSince.toNat = encoded.refundTimeoutSince ∧
      terms.agreementDigest = encoded.agreementDigest ∧
      terms.milestoneDigest = encoded.milestoneDigest

theorem unsignedInteger_number {value : Int} {maximum : Nat} {field : String} {result : Nat}
    (read : unsignedInteger (.number value) maximum field = .ok result) : (result : Int) = value := by
  dsimp only [unsignedInteger] at read
  split_ifs at read with large outside
  cases read
  omega

theorem createCommitment_reads {hashing : CkbHashing} {railConfig : CkbRailConfig}
    {input : CommitmentInput} {commitment : CkbEscrowCommitment}
    (accepted : createCommitment hashing railConfig input = .ok commitment) :
    ∃ encoded, encodedOf hashing input = some encoded ∧ LockReads commitment encoded := by
  obtain ⟨client, worker, index, since, clientScript, workerScript, indexParsed, sinceParsed, parties,
    terms⟩ := createCommitment_parsed accepted
  have indexBound : index < UInt32.size := Nat.lt_succ_of_le (unsignedInteger_ok indexParsed)
  have sinceBound : since < UInt64.size :=
    lt_trans (parseRefundTimeoutSince_ok sinceParsed) (by decide)
  refine ⟨_, by rw [encodedOf, clientScript, workerScript, sinceParsed]; rfl, parties, _, terms, rfl, ?_, ?_,
    rfl, rfl⟩
  · rw [UInt32.toNat_ofNat_of_lt' indexBound]
    exact unsignedInteger_number indexParsed
  · exact UInt64.toNat_ofNat_of_lt' sinceBound

/-- What the lock reads determines what was encoded. -/
theorem lockReads_unique {commitment commitment' : CkbEscrowCommitment} {encoded encoded' : Encoded}
    (reads : LockReads commitment encoded) (reads' : LockReads commitment' encoded')
    (args : commitment.lockScript.args = commitment'.lockScript.args)
    (cellData : commitment.cellData = commitment'.cellData) : encoded = encoded' := by
  obtain ⟨parties, terms, parsed, -, index, since, agreement, milestone⟩ := reads
  obtain ⟨parties', terms', parsed', -, index', since', agreement', milestone'⟩ := reads'
  rw [args, parties', Except.ok.injEq, PartyHashes.mk.injEq] at parties
  rw [cellData, parsed', Except.ok.injEq] at parsed
  obtain ⟨client, worker, salt⟩ := parties
  subst parsed
  cases encoded with
  | mk =>
    cases encoded' with
    | mk =>
      dsimp only at *
      rw [← client, ← worker, ← salt, ← index, index', ← since, since', ← agreement, agreement',
        ← milestone, milestone']

/-- What the server writes is what the lock reads, and different values are
written differently. -/
theorem commitments_read (hashing : CkbHashing) :
    (∀ railConfig input commitment, createCommitment hashing railConfig input = .ok commitment →
      ∃ encoded, encodedOf hashing input = some encoded ∧ LockReads commitment encoded) ∧
    (∀ railConfig railConfig' input input' commitment commitment',
      createCommitment hashing railConfig input = .ok commitment →
      createCommitment hashing railConfig' input' = .ok commitment' →
      encodedOf hashing input ≠ encodedOf hashing input' →
      (commitment.lockScript.args, commitment.cellData) ≠
        (commitment'.lockScript.args, commitment'.cellData)) := by
  refine ⟨?_, ?_⟩
  · intro railConfig input commitment accepted
    exact createCommitment_reads accepted
  · intro railConfig railConfig' input input' commitment commitment' accepted accepted' differ same
    obtain ⟨encoded, found, reads⟩ := createCommitment_reads accepted
    obtain ⟨encoded', found', reads'⟩ := createCommitment_reads accepted'
    obtain ⟨args, cellData⟩ := Prod.mk.inj same
    apply differ
    rw [found, found', lockReads_unique reads reads' args cellData]

/-- The lock reads back the smallest commitment between two accounts. -/
theorem sampleCommitment_read :
    ∃ commitment encoded, createCommitment sampleHashing sampleConfig (sampleInput firstArgs secondArgs) =
        .ok commitment ∧
      encodedOf sampleHashing (sampleInput firstArgs secondArgs) = some encoded ∧
      LockReads commitment encoded := by
  obtain ⟨commitment, accepted⟩ := sampleInput_accepted partyScript_firstArgs partyScript_secondArgs
  obtain ⟨encoded, found, reads⟩ := (commitments_read sampleHashing).1 _ _ _ accepted
  exact ⟨commitment, encoded, accepted, found, reads⟩

section Decoders

/-- The server's decoder and the lock's accept the same bytes with the same values. -/
def DecodersAgree (data : List UInt8) : Prop :=
  ((∃ fields, decodeEscrowCellData (hexText data) = .ok fields) ↔ ∃ terms, parseTerms data = .ok terms) ∧
  ∀ fields terms, decodeEscrowCellData (hexText data) = .ok fields → parseTerms data = .ok terms →
    fields.milestoneIndex = terms.milestoneIndex.toNat ∧
    fields.refundTimeoutSince = terms.refundTimeoutSince.toNat ∧
    fields.agreementDigest = hashHex terms.agreementDigest ∧
    fields.milestoneDigest = hashHex terms.milestoneDigest

/-- The server's decoder checks the length, the magic and the version only. -/
theorem decodeEscrowCellData_ok_iff (data : List UInt8) (fields : EscrowCellData) :
    decodeEscrowCellData (hexText data) = .ok fields ↔
      Headed data ∧ fields =
        ⟨LittleEndian.ofBytes (slice data 12 16), LittleEndian.ofBytes (slice data 16 24),
          hexText (slice data 24 56), hexText (slice data 56 88)⟩ := by
  unfold decodeEscrowCellData Headed
  simp only [Guard.bind_ok_iff, fixedHex_hexText_ok]
  refine ⟨?_, ?_⟩
  · rintro ⟨digits, ⟨size, rfl⟩, decoded⟩
    rw [Hex.decode_encode] at decoded
    obtain ⟨magic, decoded⟩ := Guard.reject_ok_iff.mp decoded
    obtain ⟨version, decoded⟩ := Guard.reject_ok_iff.mp decoded
    exact ⟨⟨size, not_not.mp magic, not_not.mp version⟩, (Guard.pure_ok_iff.mp decoded).symm⟩
  · rintro ⟨⟨size, magic, version⟩, rfl⟩
    refine ⟨_, ⟨size, rfl⟩, ?_⟩
    rw [Hex.decode_encode]
    exact Guard.reject_ok_iff.mpr ⟨not_not.mpr magic,
      Guard.reject_ok_iff.mpr ⟨not_not.mpr version, rfl⟩⟩

/-- Where both decoders accept they read the same values. -/
theorem decoders_values {data : List UInt8} {fields : EscrowCellData} {terms : EscrowTerms}
    (decoded : decodeEscrowCellData (hexText data) = .ok fields) (parsed : parseTerms data = .ok terms) :
    fields.milestoneIndex = terms.milestoneIndex.toNat ∧
    fields.refundTimeoutSince = terms.refundTimeoutSince.toNat ∧
    fields.agreementDigest = hashHex terms.agreementDigest ∧
    fields.milestoneDigest = hashHex terms.milestoneDigest := by
  obtain ⟨-, rfl⟩ := (decodeEscrowCellData_ok_iff _ _).mp decoded
  obtain ⟨-, -, -, -, index, since, agreement, milestone⟩ := parseTerms_checks.mp parsed
  rw [index, since, agreement, milestone]
  exact ⟨rfl, rfl, rfl, rfl⟩

/-- The two decoders agree on everything but cell data of the right length, magic
and version whose padding or whose since flag byte is not zero: the server's
decoder reads neither. -/
theorem decoders_agree_iff (data : List UInt8) :
    DecodersAgree data ↔
      ¬(Headed data ∧ (slice data 9 12 ≠ [0, 0, 0] ∨ data.getD 23 0 ≠ 0)) := by
  have server : (∃ fields, decodeEscrowCellData (hexText data) = .ok fields) ↔ Headed data := by
    refine ⟨?_, ?_⟩
    · rintro ⟨fields, decoded⟩
      exact ((decodeEscrowCellData_ok_iff _ _).mp decoded).1
    · intro headed
      exact ⟨_, (decodeEscrowCellData_ok_iff _ _).mpr ⟨headed, rfl⟩⟩
  have accepted := parseTerms_accepts_iff data
  refine ⟨?_, ?_⟩
  · rintro ⟨same, -⟩ ⟨headed, checked⟩
    obtain ⟨-, padding, flag⟩ := accepted.mp (same.mp (server.mpr headed))
    exact checked.elim (fun wrong => wrong padding) (fun wrong => wrong flag)
  · intro unchecked
    refine ⟨?_, fun fields terms decoded parsed => decoders_values decoded parsed⟩
    rw [server, accepted]
    refine ⟨fun headed => ?_, fun checks => checks.1⟩
    by_contra refused
    apply unchecked
    refine ⟨headed, ?_⟩
    by_contra clear
    rw [not_or, not_not, not_not] at clear
    exact refused ⟨headed, clear⟩

/-- Canonical cell data of zero index, timeout and digests, with a byte of the padding set. -/
def paddedData : List UInt8 := MAGIC ++ [1] ++ [1, 0, 0] ++ List.replicate 76 0

/-- The server's decoder accepts bytes that the lock rejects as not canonical. -/
theorem paddedData_disagrees :
    parseTerms paddedData = .error .nonCanonicalCellData ∧
      (∃ fields, decodeEscrowCellData (hexText paddedData) = .ok fields) ∧
      ¬DecodersAgree paddedData := by
  have rejected : parseTerms paddedData = .error .nonCanonicalCellData := by decide
  have accepted : ∃ fields, decodeEscrowCellData (hexText paddedData) = .ok fields :=
    ⟨_, (decodeEscrowCellData_ok_iff _ _).mpr ⟨⟨rfl, rfl, rfl⟩, rfl⟩⟩
  refine ⟨rejected, accepted, ?_⟩
  rintro ⟨same, -⟩
  obtain ⟨terms, parsed⟩ := same.mp accepted
  rw [rejected] at parsed
  cases parsed

end Decoders

end PactAgent.Rail.Readback
