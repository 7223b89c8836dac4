import PactAgent.Contract.Spend
import PactAgent.Foundation.Guard

/-! The layout of escrow cell data: the lock's reader and writer of terms are
inverse to each other on canonical terms and on accepted bytes. -/

namespace PactAgent.Contract.Terms
open PactAgent.Foundation PactAgent.Contract.Lock

/-- The bytes between a prefix and a suffix of known lengths. -/
theorem slice_middle (before middle after : List UInt8) (start stop : Nat)
    (first : before.length = start) (last : start + middle.length = stop) :
    slice (before ++ middle ++ after) start stop = middle := by
  subst first last
  have cut : (before ++ middle ++ after).take (before.length + middle.length) = before ++ middle := by
    rw [← List.length_append, List.take_left]
  rw [slice, cut, List.drop_left]

theorem hashSlice_middle (before : List UInt8) (hash : Hash) (after : List UInt8) (start stop : Nat)
    (error : Error) (first : before.length = start) (last : start + HASH_LEN = stop) :
    hashSlice (before ++ hash.bytes ++ after) start stop error = .ok hash := by
  have middle := slice_middle before hash.bytes after start stop first (by rw [hash.length_eq]; exact last)
  simp only [hashSlice, middle, Hash.tryFrom, hash.length_eq, dite_true]

/-- The layout of escrow cell data around its five variable parts. -/
def cellDataLayout (version : UInt8) (index since : List UInt8) (agreement milestone : Hash) : List UInt8 :=
  MAGIC ++ [version] ++ [0, 0, 0] ++ index ++ since ++ agreement.bytes ++ milestone.bytes

section Layout
variable (version : UInt8) (index since : List UInt8) (agreement milestone : Hash)
  (indexSize : index.length = 4) (sinceSize : since.length = 8)
include indexSize sinceSize

theorem cellDataLayout_length :
    (cellDataLayout version index since agreement milestone).length = ESCROW_DATA_LEN := by
  simp only [cellDataLayout, List.length_append, indexSize, sinceSize, agreement.length_eq,
    milestone.length_eq]
  rfl

omit sinceSize in
theorem slice_index : slice (cellDataLayout version index since agreement milestone) 12 16 = index := by
  have h := slice_middle (MAGIC ++ [version] ++ [0, 0, 0]) index
    (since ++ agreement.bytes ++ milestone.bytes) 12 16 rfl (by rw [indexSize])
  simpa only [cellDataLayout, List.append_assoc] using h

theorem slice_since : slice (cellDataLayout version index since agreement milestone) 16 24 = since := by
  have h := slice_middle (MAGIC ++ [version] ++ [0, 0, 0] ++ index) since
    (agreement.bytes ++ milestone.bytes) 16 24
    (by rw [List.length_append, indexSize]; rfl) (by rw [sinceSize])
  simpa only [cellDataLayout, List.append_assoc] using h

theorem hashSlice_agreement (error : Error) :
    hashSlice (cellDataLayout version index since agreement milestone) 24 56 error = .ok agreement :=
  hashSlice_middle (MAGIC ++ [version] ++ [0, 0, 0] ++ index ++ since) agreement milestone.bytes 24 56
    error (by simp only [List.length_append, indexSize, sinceSize]; rfl) rfl

theorem hashSlice_milestone (error : Error) :
    hashSlice (cellDataLayout version index since agreement milestone) 56 88 error = .ok milestone := by
  have h := hashSlice_middle
    (MAGIC ++ [version] ++ [0, 0, 0] ++ index ++ since ++ agreement.bytes) milestone [] 56 88 error
    (by simp only [List.length_append, indexSize, sinceSize, agreement.length_eq]; rfl) rfl
  simpa only [cellDataLayout, List.append_nil] using h

end Layout

/-- The lock reads back the terms the server encodes. -/
theorem parseTerms_layout (milestoneIndex refundTimeoutSince : Nat) (agreementDigest milestoneDigest : Hash)
    (index : milestoneIndex < 2 ^ 32) (since : refundTimeoutSince < 2 ^ 56) :
    parseTerms (cellDataLayout VERSION (LittleEndian.toBytes 4 milestoneIndex)
        (LittleEndian.toBytes 8 refundTimeoutSince) agreementDigest milestoneDigest) =
      .ok ⟨VERSION, UInt32.ofNat milestoneIndex, UInt64.ofNat refundTimeoutSince,
        agreementDigest, milestoneDigest⟩ := by
  have indexSize := LittleEndian.toBytes_length 4 milestoneIndex
  have sinceSize := LittleEndian.toBytes_length 8 refundTimeoutSince
  have indexValue := LittleEndian.ofBytes_toBytes 4 milestoneIndex
    (lt_of_lt_of_le index (by decide))
  have sinceValue := LittleEndian.ofBytes_toBytes 8 refundTimeoutSince
    (lt_trans since (by decide))
  generalize LittleEndian.toBytes 4 milestoneIndex = indexBytes at *
  generalize LittleEndian.toBytes 8 refundTimeoutSince = sinceBytes at *
  have flag : ¬UInt64.ofNat refundTimeoutSince >>> 56 ≠ 0 := by
    rw [not_not, Spend.flag_clear_iff, UInt64.toNat_ofNat', Nat.mod_eq_of_lt (lt_trans since (by decide))]
    exact since
  have size := cellDataLayout_length VERSION _ _ agreementDigest milestoneDigest indexSize sinceSize
  unfold parseTerms
  rw [if_neg (not_not.mpr size), slice_index _ _ _ _ _ indexSize,
    slice_since _ _ _ _ _ indexSize sinceSize, indexValue, sinceValue,
    hashSlice_agreement _ _ _ _ _ indexSize sinceSize,
    hashSlice_milestone _ _ _ _ _ indexSize sinceSize, if_neg flag]
  rfl

theorem slice_length (bytes : List UInt8) {start stop : Nat} (within : stop ≤ bytes.length) :
    (slice bytes start stop).length = stop - start := by
  rw [slice, List.length_drop, List.length_take, Nat.min_eq_left within]

/-- Neighbouring slices join. -/
theorem slice_append (bytes : List UInt8) {first middle last : Nat} (low : first ≤ middle)
    (high : middle ≤ last) (within : last ≤ bytes.length) :
    slice bytes first middle ++ slice bytes middle last = slice bytes first last := by
  have inner : bytes.take middle = (bytes.take last).take middle := by
    rw [List.take_take, Nat.min_eq_left high]
  have size : first ≤ ((bytes.take last).take middle).length := by
    rw [List.length_take, List.length_take]
    omega
  rw [slice, slice, slice, inner, ← List.drop_append_of_le_length size, List.take_append_drop]

theorem slice_whole (bytes : List UInt8) : slice bytes 0 bytes.length = bytes := by
  rw [slice, List.take_length, List.drop_zero]

theorem slice_single (bytes : List UInt8) {position : Nat} (within : position < bytes.length) :
    slice bytes position (position + 1) = [bytes.getD position 0] := by
  rw [slice, List.take_succ, List.drop_append_of_le_length (by rw [List.length_take]; omega),
    List.drop_eq_nil_of_le (by rw [List.length_take]; omega), List.nil_append,
    List.getElem?_eq_getElem within, List.getD_eq_getElem _ _ within]
  rfl

theorem hashSlice_ok {bytes : List UInt8} {start stop : Nat} {error : Error} {hash : Hash} :
    hashSlice bytes start stop error = .ok hash ↔ slice bytes start stop = hash.bytes := by
  unfold hashSlice Hash.tryFrom
  by_cases size : (slice bytes start stop).length = HASH_LEN
  · rw [dif_pos size]
    refine ⟨fun read => by rw [← Except.ok.inj read], fun same => ?_⟩
    obtain ⟨hashBytes, _⟩ := hash
    dsimp only at same
    subst same
    rfl
  · rw [dif_neg size]
    refine ⟨fun read => (nomatch read), fun same => ?_⟩
    exact absurd (same ▸ hash.length_eq) size

/-- Cell data is its magic, version, padding, index, timeout and two digests in this order. -/
theorem cellData_parts (data : List UInt8) (size : data.length = ESCROW_DATA_LEN) :
    slice data 0 8 ++ [data.getD 8 0] ++ slice data 9 12 ++ slice data 12 16 ++ slice data 16 24 ++
      slice data 24 56 ++ slice data 56 88 = data := by
  have whole : data.length = 88 := size
  rw [← slice_single data (by omega),
    slice_append data (by omega) (by omega) (by omega),
    slice_append data (by omega) (by omega) (by omega),
    slice_append data (by omega) (by omega) (by omega),
    slice_append data (by omega) (by omega) (by omega),
    slice_append data (by omega) (by omega) (by omega),
    slice_append data (by omega) (by omega) (by omega)]
  rw [← whole]
  exact slice_whole data

theorem serializeTerms_layout (terms : EscrowTerms) :
    serializeTerms terms = cellDataLayout terms.version
      (LittleEndian.toBytes 4 terms.milestoneIndex.toNat)
      (LittleEndian.toBytes 8 terms.refundTimeoutSince.toNat)
      terms.agreementDigest terms.milestoneDigest := rfl

/-- Cell data of the right length, magic and version. -/
def Headed (data : List UInt8) : Prop :=
  data.length = ESCROW_DATA_LEN ∧ slice data 0 8 = MAGIC ∧ data.getD 8 0 = VERSION

/-- The checks of the reader, and where each term comes from. -/
theorem parseTerms_checks {data : List UInt8} {terms : EscrowTerms} :
    parseTerms data = .ok terms ↔
      Headed data ∧ slice data 9 12 = [0, 0, 0] ∧
        LittleEndian.ofBytes (slice data 16 24) < 2 ^ 56 ∧
        terms.version = VERSION ∧
        terms.milestoneIndex.toNat = LittleEndian.ofBytes (slice data 12 16) ∧
        terms.refundTimeoutSince.toNat = LittleEndian.ofBytes (slice data 16 24) ∧
        slice data 24 56 = terms.agreementDigest.bytes ∧
        slice data 56 88 = terms.milestoneDigest.bytes := by
  by_cases headed : Headed data
  case neg =>
    refine ⟨fun parsed => absurd ?_ headed, fun checks => absurd checks.1 headed⟩
    unfold parseTerms at parsed
    obtain ⟨size, parsed⟩ := Guard.reject_ok_iff.mp parsed
    obtain ⟨magic, parsed⟩ := Guard.reject_ok_iff.mp parsed
    obtain ⟨version, -⟩ := Guard.reject_ok_iff.mp parsed
    exact ⟨not_not.mp size, not_not.mp magic, not_not.mp version⟩
  case pos =>
    obtain ⟨size, magic, version⟩ := id headed
    have whole : data.length = 88 := size
    have indexBound := LittleEndian.ofBytes_lt (slice data 12 16)
    have sinceBound := LittleEndian.ofBytes_lt (slice data 16 24)
    rw [slice_length data (by omega)] at indexBound sinceBound
    have index := UInt32.toNat_ofNat_of_lt' indexBound
    have since := UInt64.toNat_ofNat_of_lt' sinceBound
    have flag := Spend.flag_clear_iff (UInt64.ofNat (LittleEndian.ofBytes (slice data 16 24)))
    rw [since] at flag
    unfold parseTerms
    simp only [size, magic, version, Guard.reject_ok_iff, Guard.bind_ok_iff, Guard.pure_ok_iff, ne_eq,
      not_not, not_true_eq_false, not_false_eq_true, true_and, headed, flag, hashSlice_ok]
    refine and_congr_right fun _ => and_congr_right fun _ => ⟨?_, ?_⟩
    · rintro ⟨agreement, agreementRead, milestone, milestoneRead, rfl⟩
      exact ⟨rfl, index, since, agreementRead, milestoneRead⟩
    · rintro ⟨versionIs, indexIs, sinceIs, agreementRead, milestoneRead⟩
      refine ⟨_, agreementRead, _, milestoneRead, ?_⟩
      cases terms with
      | mk =>
        dsimp only at *
        rw [versionIs, ← indexIs, ← sinceIs, UInt32.ofNat_toNat, UInt64.ofNat_toNat]

/-- The timeout has no flag byte exactly when byte 23 is zero. -/
theorem since_flag (data : List UInt8) (size : data.length = ESCROW_DATA_LEN) :
    LittleEndian.ofBytes (slice data 16 24) < 2 ^ 56 ↔ data.getD 23 0 = 0 := by
  have whole : data.length = 88 := size
  have low : (slice data 16 23).length = 7 := slice_length data (by omega)
  have last := LittleEndian.ofBytes_last (slice data 16 23) (data.getD 23 0)
  rw [low, ← slice_single data (by omega),
    slice_append data (by omega) (by omega) (by omega)] at last
  exact last

/-- Beyond length, magic and version the reader wants zero padding and no flag byte. -/
theorem parseTerms_accepts_iff (data : List UInt8) :
    (∃ terms, parseTerms data = .ok terms) ↔
      Headed data ∧ slice data 9 12 = [0, 0, 0] ∧ data.getD 23 0 = 0 := by
  refine ⟨?_, ?_⟩
  · rintro ⟨terms, parsed⟩
    obtain ⟨headed, padding, since, -⟩ := parseTerms_checks.mp parsed
    exact ⟨headed, padding, (since_flag data headed.1).mp since⟩
  · rintro ⟨headed, padding, flag⟩
    have whole : data.length = 88 := headed.1
    have indexBound := LittleEndian.ofBytes_lt (slice data 12 16)
    have sinceBound := LittleEndian.ofBytes_lt (slice data 16 24)
    rw [slice_length data (by omega)] at indexBound sinceBound
    exact ⟨⟨VERSION, UInt32.ofNat (LittleEndian.ofBytes (slice data 12 16)),
        UInt64.ofNat (LittleEndian.ofBytes (slice data 16 24)),
        ⟨slice data 24 56, slice_length data (by omega)⟩,
        ⟨slice data 56 88, slice_length data (by omega)⟩⟩,
      parseTerms_checks.mpr ⟨headed, padding, (since_flag data headed.1).mpr flag, rfl,
        UInt32.toNat_ofNat_of_lt' indexBound, UInt64.toNat_ofNat_of_lt' sinceBound, rfl, rfl⟩⟩

/-- The reader accepts exactly what the writer makes of terms of this version
whose timeout has no flag byte. -/
theorem parseTerms_ok_iff (data : List UInt8) (terms : EscrowTerms) :
    parseTerms data = .ok terms ↔
      terms.version = VERSION ∧ terms.refundTimeoutSince.toNat < 2 ^ 56 ∧
        serializeTerms terms = data := by
  refine ⟨?_, ?_⟩
  · intro parsed
    obtain ⟨⟨size, magic, headedVersion⟩, padding, bound, version, index, since, agreement, milestone⟩ :=
      parseTerms_checks.mp parsed
    have whole : data.length = 88 := size
    have indexValue := LittleEndian.toBytes_ofBytes (slice data 12 16)
    have sinceValue := LittleEndian.toBytes_ofBytes (slice data 16 24)
    rw [slice_length data (by omega), ← index] at indexValue
    rw [slice_length data (by omega), ← since] at sinceValue
    refine ⟨version, since ▸ bound, ?_⟩
    have parts := cellData_parts data size
    rw [magic, headedVersion, padding, agreement, milestone, ← indexValue, ← sinceValue, ← version] at parts
    exact parts
  · rintro ⟨version, since, rfl⟩
    have parsed := parseTerms_layout terms.milestoneIndex.toNat terms.refundTimeoutSince.toNat
      terms.agreementDigest terms.milestoneDigest terms.milestoneIndex.toNat_lt since
    rw [UInt32.ofNat_toNat, UInt64.ofNat_toNat, ← version] at parsed
    exact parsed

/-- The term format is canonical: writing and reading are inverse on terms of
this version and on accepted bytes, so each accepted byte string is the one
writing of its terms. -/
theorem terms_canonical :
    (∀ terms : EscrowTerms, terms.version = 1 → terms.refundTimeoutSince.toNat < 2 ^ 56 →
      parseTerms (serializeTerms terms) = .ok terms) ∧
    (∀ data terms, parseTerms data = .ok terms → serializeTerms terms = data) ∧
    (∀ data, (∃ terms, parseTerms data = .ok terms) ↔
      ∃ terms : EscrowTerms, terms.version = 1 ∧ terms.refundTimeoutSince.toNat < 2 ^ 56 ∧
        serializeTerms terms = data) ∧
    (∀ first second terms, parseTerms first = .ok terms → parseTerms second = .ok terms →
      first = second) := by
  refine ⟨?_, ?_, ?_, ?_⟩
  · intro terms version since
    exact (parseTerms_ok_iff _ _).mpr ⟨version, since, rfl⟩
  · intro data terms parsed
    exact ((parseTerms_ok_iff _ _).mp parsed).2.2
  · intro data
    exact exists_congr fun terms => parseTerms_ok_iff data terms
  · intro first second terms firstParsed secondParsed
    have firstBytes := ((parseTerms_ok_iff _ _).mp firstParsed).2.2
    have secondBytes := ((parseTerms_ok_iff _ _).mp secondParsed).2.2
    exact firstBytes.symm.trans secondBytes

end PactAgent.Contract.Terms
