import PactAgent.Audit.Chain
import Mathlib.Logic.Equiv.Nat

/-! Which changes of a stored row the verification of the audit chain finds. The hash is of
the joined texts of some columns, so that it tells those texts apart only up to their
separators. -/

namespace PactAgent.Audit
open PactAgent.Foundation PactAgent.Foundation.Execution PactAgent.Foundation.ReadCommitted

section Text

/-- Texts joined by a separator, and cut at it again. -/
theorem splitOn_intercalate {separator : Char} {first : List Char} {texts : List (List Char)} :
    (List.intercalate [separator] (first :: texts)).splitOn separator =
      (first :: texts).flatMap fun text => text.splitOn separator := by
  induction texts generalizing first with
  | nil => simp
  | cons second rest ih =>
    rw [List.intercalate_cons_cons, List.append_assoc, List.singleton_append, List.splitOn_append_cons_self, ih]
    rfl

/-- What is between the separators in the texts, one after the other. -/
def pieces (texts : List String) : List (List Char) := texts.flatMap fun text => text.toList.splitOn '|'

theorem pieces_append (first second : List String) : pieces (first ++ second) = pieces first ++ pieces second :=
  List.flatMap_append

/-- Joined texts are equal if and only if they have the same pieces. -/
theorem concatWs_inj {first second : String} {texts others : List String} :
    concatWs (first :: texts) = concatWs (second :: others) ↔ pieces (first :: texts) = pieces (second :: others) := by
  have cut : ∀ first texts, (concatWs (first :: texts)).toList.splitOn '|' = pieces (first :: texts) := by
    intro first texts
    rw [concatWs, String.toList_ofList, List.map_cons, splitOn_intercalate, ← List.map_cons, pieces, List.flatMap_map]
  constructor
  · intro same
    rw [← cut, same, cut]
  · intro same
    apply String.toList_inj.mp
    have joined : ∀ text : List Char, ['|'].intercalate (text.splitOn '|') = text := fun _ => List.intercalate_splitOn '|'
    rw [← joined (concatWs (first :: texts)).toList, cut, same, ← cut, joined]

end Text

section Tampering
variable {functions : Functions} {rows : List AuditLog} {row changed : AuditLog} {index : Nat}

theorem isBroken_congr {others : List AuditLog}
    (same : others.map AuditLog.recordHash = rows.map AuditLog.recordHash) (current : AuditLog) :
    isBroken functions others current = isBroken functions rows current := by
  have found : ∀ (rows : List AuditLog) hash, (rows.any fun previous => previous.recordHash = some hash) =
      (rows.map AuditLog.recordHash).any fun stored => stored = some hash := by
    intro rows hash
    rw [List.any_map]
    rfl
  simp only [isBroken, found, same]

/-- A changed row with its old hashes is all that can be broken. -/
theorem verify_set (sealing : Sealed functions rows) (stored : rows[index]? = some row)
    (record : changed.recordHash = row.recordHash) (previous : changed.previousHash = row.previousHash) :
    verifyAuditChain functions (rows.set index changed) = .ok () ↔
      recordHashOf functions changed.previousHash changed = recordHashOf functions row.previousHash row := by
  have member : row ∈ rows := List.mem_of_getElem? stored
  have linked := sealing row member
  have same : (rows.set index changed).map AuditLog.recordHash = rows.map AuditLog.recordHash := by
    rw [List.map_set, record]
    apply List.ext_getElem?
    intro position
    rw [List.getElem?_set]
    split
    · next here =>
      subst here
      rw [List.getElem?_map, stored, List.length_map]
      rw [if_pos (List.getElem?_eq_some_iff.mp stored).1]
      rfl
    · rfl
  have hashed : changed.recordHash.isSome = true := by
    rw [record, linked.own]
    rfl
  have own : isBroken functions rows changed = false ↔
      recordHashOf functions changed.previousHash changed = recordHashOf functions row.previousHash row := by
    rw [linked_iff hashed]
    constructor
    · intro linked'
      exact Option.some.inj (linked'.own.symm.trans (record.trans linked.own))
    · intro equal
      refine ⟨?_, ?_⟩
      · rw [previous]
        exact linked.previous
      · rw [record, linked.own, equal]
  rw [verify_ok, ← own]
  constructor
  · intro each
    rw [← isBroken_congr same]
    exact each changed (List.mem_set (List.getElem?_eq_some_iff.mp stored).1 changed)
  · intro sound other inside
    rw [isBroken_congr same]
    rcases List.mem_or_eq_of_mem_set inside with old | rfl
    · exact (linked_iff (by rw [(sealing other old).own]; rfl)).mpr (sealing other old)
    · exact sound

/-- Two rows have one hash if and only if they have one time and the same pieces. -/
theorem recordHash_iff (injective : Function.Injective functions.sha256Hex)
    (times : Function.Injective functions.timestampText) (plain : ∀ time, '|' ∉ (functions.timestampText time).toList)
    (prior : Option String) :
    recordHashOf functions prior changed = recordHashOf functions prior row ↔
      changed.createdAt = row.createdAt ∧ pieces changed.columns = pieces row.columns := by
  have last : ∀ time, pieces [functions.timestampText time] = [(functions.timestampText time).toList] := by
    intro time
    rw [pieces, List.flatMap_singleton, List.splitOn_eq_singleton (plain time)]
  have split : ∀ row : AuditLog, pieces (prior.getD "" :: row.columns ++ [functions.timestampText row.createdAt]) =
      (pieces [prior.getD ""] ++ pieces row.columns) ++ [(functions.timestampText row.createdAt).toList] := by
    intro row
    rw [pieces_append, last, ← pieces_append]
    rfl
  have texts : recordHashOf functions prior changed = recordHashOf functions prior row ↔
      hashedText functions prior changed = hashedText functions prior row := injective.eq_iff
  rw [texts]
  unfold hashedText
  rw [List.cons_append, List.cons_append, concatWs_inj, ← List.cons_append, ← List.cons_append, split, split]
  constructor
  · intro same
    obtain ⟨front, time⟩ := List.append_inj' same rfl
    exact ⟨times (String.toList_inj.mp (List.singleton_inj.mp time)), List.append_cancel_left front⟩
  · rintro ⟨time, same⟩
    rw [time, same]

end Tampering

/-- The chain is whole after every run, and the verification finds a changed row if and only
if it has another time or other pieces in the hashed columns. -/
theorem audit_chain {functions : Functions} (injective : Function.Injective functions.sha256Hex)
    (times : Function.Injective functions.timestampText) (plain : ∀ time, '|' ∉ (functions.timestampText time).toList)
    {actions : List Action} {state : State}
    (reached : run (ReadCommitted.step (app functions)) (State.initial [] ()) actions = some state) :
    verifyAuditChain functions state.db = .ok () ∧
    ∀ index row changed, state.db[index]? = some row → changed ≠ row → changed.previousHash = row.previousHash →
      changed.recordHash = row.recordHash →
      ((∃ message, verifyAuditChain functions (state.db.set index changed) = .error message) ↔
        changed.createdAt ≠ row.createdAt ∨ pieces changed.columns ≠ pieces row.columns) := by
  have sealing := run_sealed reached
  refine ⟨sealing.verify, ?_⟩
  intro index row changed stored _ previous record
  have missed := verify_set sealing stored record previous
  rw [previous, recordHash_iff injective times plain] at missed
  rw [← not_and_or, ← missed]
  cases verifyAuditChain functions (state.db.set index changed) with
  | ok done => simp
  | error message => simp

section Samples

def sampleText (priorHash id action resourceId : String) : String :=
  priorHash ++ "|" ++ id ++ "|app_1|api_key|" ++ action ++ "|webhook_endpoint|" ++ resourceId
    ++ "|||2026-07-18 09:30:00.123"

def firstHash : String := "7d219fe0c03e7e23caea70f1161adf69e184aa0318339fca53be263f453f2980"

/-- Some texts and their hashes. -/
def sampleHashes : List (String × String) :=
  [(sampleText "" "audit_1" "webhook_endpoint.created" "wh_1",
      firstHash),
    (sampleText firstHash "audit_2" "webhook_endpoint.created" "wh_2",
      "ec6a3785c4fa4746d81ede3c590264850f9b20e700817f938376fb7a52f60486"),
    (sampleText firstHash "audit_3" "webhook_endpoint.created" "wh_3",
      "8311f3fece02f500915140ec9fe852a6fc9f104917e46004a438aadd06087750"),
    (sampleText firstHash "audit_4" "webhook_endpoint.created" "wh_4",
      "c0a490536d1563ed6a5675e6101c916e87cc61e8cccace69f62db40a8b8bc04b"),
    (sampleText firstHash "audit_3" "webhook_endpoint.deleted" "wh_3",
      "bf6b185aea12d52624dce74047fa52bbb34f250201b2063cb65e5f80266bc01b")]

/-- The functions of the database on these texts. -/
def sampleFunctions : Functions where
  sha256Hex text :=
    match sampleHashes.lookup text with
    | some hash => hash
    | none => "unlisted:" ++ text
  timestampText time :=
    if time = 1784367000123 then "2026-07-18 09:30:00.123"
    else String.ofList (List.replicate (Equiv.intEquivNat time) 't')

theorem lookup_mem {text hash : String} (found : sampleHashes.lookup text = some hash) :
    (text, hash) ∈ sampleHashes := by
  rw [List.lookup_eq_some_iff] at found
  obtain ⟨before, after, same, -⟩ := found
  rw [same]
  exact List.mem_append_right _ List.mem_cons_self

theorem sample_injective : Function.Injective sampleFunctions.sha256Hex := by
  have apart : ∀ one ∈ sampleHashes, ∀ two ∈ sampleHashes, one.2 = two.2 → one.1 = two.1 := by decide +kernel
  have digits : ∀ one ∈ sampleHashes, one.2.toList.head? ≠ some 'u' := by decide +kernel
  have unlisted : ∀ text, ("unlisted:" ++ text).toList.head? = some 'u' := by
    intro text
    rw [String.toList_append]
    rfl
  intro first second same
  simp only [sampleFunctions] at same
  cases found : sampleHashes.lookup first with
  | some hash =>
    cases found' : sampleHashes.lookup second with
    | some hash' =>
      simp only [found, found'] at same
      exact apart _ (lookup_mem found) _ (lookup_mem found') same
    | none =>
      simp only [found, found'] at same
      exact absurd (same ▸ unlisted second) (digits _ (lookup_mem found))
  | none =>
    cases found' : sampleHashes.lookup second with
    | some hash' =>
      simp only [found, found'] at same
      exact absurd (same ▸ unlisted first) (digits _ (lookup_mem found'))
    | none =>
      simp only [found, found'] at same
      have letters := congrArg String.toList same
      rw [String.toList_append, String.toList_append] at letters
      exact String.toList_inj.mp (List.append_cancel_left letters)

theorem sample_times : Function.Injective sampleFunctions.timestampText := by
  have letters : ∀ count, "2026-07-18 09:30:00.123" ≠ String.ofList (List.replicate count 't') := by
    intro count same
    have member : '2' ∈ "2026-07-18 09:30:00.123".toList := by decide +kernel
    rw [same, String.toList_ofList] at member
    exact absurd (List.eq_of_mem_replicate member) (by decide)
  intro first second same
  simp only [sampleFunctions] at same
  split at same
  · next here =>
    split at same
    · next there => rw [here, there]
    · exact absurd same (letters _)
  · split at same
    · exact absurd same.symm (letters _)
    · have counts := congrArg List.length (String.ofList_inj.mp same)
      rw [List.length_replicate, List.length_replicate] at counts
      exact Equiv.intEquivNat.injective counts

theorem sample_plain (time : Int) : '|' ∉ (sampleFunctions.timestampText time).toList := by
  simp only [sampleFunctions]
  split
  · decide +kernel
  · rw [String.toList_ofList]
    intro member
    exact absurd (List.eq_of_mem_replicate member) (by decide)

/-- An endpoint's creation as the repository logs it. -/
def sampleRow (id targetId : String) : AuditLog :=
  createInfrastructureAuditLog id 1784367000123
    ⟨some "app_1", none, .apiKey, some "key_1", none, "webhook_endpoint.created", "webhook_endpoint", targetId,
      none, none, some "203.0.113.7", none, none⟩

def insertion (process : Nat) (row : AuditLog) : List Action :=
  [.arrive process [.insert row], .start process, .statement process 0, .statement process 0]

/-- Two transactions branch from one row, and a third is rolled back. -/
def branches : List Action :=
  insertion 0 (sampleRow "audit_1" "wh_1") ++ [.finish 0]
    ++ (insertion 1 (sampleRow "audit_2" "wh_2") ++ insertion 2 (sampleRow "audit_3" "wh_3"))
    ++ (insertion 3 (sampleRow "audit_4" "wh_4") ++ [.abort 3 "timeout", .finish 2, .finish 1])

def branchedRows : List AuditLog :=
  [pactagentHashAuditLog sampleFunctions none (sampleRow "audit_1" "wh_1"),
    pactagentHashAuditLog sampleFunctions (some firstHash) (sampleRow "audit_3" "wh_3"),
    pactagentHashAuditLog sampleFunctions (some firstHash) (sampleRow "audit_2" "wh_2")]

theorem branches_reached : ∃ state : State,
    run (ReadCommitted.step (app sampleFunctions)) (State.initial [] ()) branches = some state ∧
      state.db = branchedRows := by
  have ended : (run (ReadCommitted.step (app sampleFunctions)) (State.initial [] () : State) branches).map
      (fun state => state.db) = some branchedRows := by decide +kernel
  exact Option.map_eq_some_iff.mp ended

end Samples

/-- A change of an action in the branched log is found. -/
theorem audit_chain_branches : ∃ state : State,
    run (ReadCommitted.step (app sampleFunctions)) (State.initial [] ()) branches = some state ∧
    verifyAuditChain sampleFunctions state.db = .ok () ∧
    ∃ row, state.db[1]? = some row ∧ ∃ message,
      verifyAuditChain sampleFunctions (state.db.set 1 { row with action := "webhook_endpoint.deleted" }) =
        .error message := by
  obtain ⟨state, reached, rows⟩ := branches_reached
  have result := audit_chain sample_injective sample_times sample_plain reached
  have stored : state.db[1]? =
      some (pactagentHashAuditLog sampleFunctions (some firstHash) (sampleRow "audit_3" "wh_3")) := by
    rw [rows]
    rfl
  refine ⟨state, reached, result.1, _, stored, ?_⟩
  refine (result.2 1 _ _ stored ?_ ?_ ?_).mpr (.inr ?_)
  · decide +kernel
  · rfl
  · rfl
  · decide +kernel

/-- Another actor in a stored row is not found. -/
theorem audit_chain_misses_actor :
    ¬ ∀ functions : Functions, Function.Injective functions.sha256Hex → Function.Injective functions.timestampText →
      ∀ (actions : List Action) (state : State),
        run (ReadCommitted.step (app functions)) (State.initial [] ()) actions = some state →
        verifyAuditChain functions state.db = .ok () ∧
        ∀ index row changed, state.db[index]? = some row → changed ≠ row → changed.previousHash = row.previousHash →
          changed.recordHash = row.recordHash →
          ∃ message, verifyAuditChain functions (state.db.set index changed) = .error message := by
  intro claim
  obtain ⟨state, reached, rows⟩ := branches_reached
  have stored : state.db[1]? =
      some (pactagentHashAuditLog sampleFunctions (some firstHash) (sampleRow "audit_3" "wh_3")) := by
    rw [rows]
    rfl
  obtain ⟨message, found⟩ := (claim sampleFunctions sample_injective sample_times branches state reached).2 1 _
    { pactagentHashAuditLog sampleFunctions (some firstHash) (sampleRow "audit_3" "wh_3") with actorId := some "key_2" }
    stored (by decide +kernel) rfl rfl
  have missed : (verifyAuditChain sampleFunctions (branchedRows.set 1
      { pactagentHashAuditLog sampleFunctions (some firstHash) (sampleRow "audit_3" "wh_3") with
        actorId := some "key_2" })).isOk = true := by decide +kernel
  rw [rows] at found
  rw [found] at missed
  cases missed

end PactAgent.Audit
