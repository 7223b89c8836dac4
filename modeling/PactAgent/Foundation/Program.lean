import PactAgent.Foundation.Guard

/-! Bodies of database transactions. A body is a tree of statements: each statement
reads the clock and the view of its transaction, answers, and adds writes. A
statement that fails ends its transaction, so the body can only change the error. -/

namespace PactAgent.Foundation

/-- A database that writes change. A write holds its locks until its transaction
ends; `agree` is what a lock protects from the writes of others. -/
class Storage (Db : Type) (Write Lock : outParam Type) where
  apply : Write → Db → Db
  locks : Write → List Lock
  agree : Lock → Db → Db → Prop
  agree_refl : ∀ lock db, agree lock db db
  agree_trans : ∀ lock first second third, agree lock first second → agree lock second third →
    agree lock first third
  agree_apply : ∀ write lock db, lock ∉ locks write → agree lock db (apply write db)
  agree_congr : ∀ write lock first second, agree lock first second →
    agree lock (apply write first) (apply write second)

namespace Storage
variable {Db Write Lock : Type} [Storage Db Write Lock]

/-- The database as the transaction sees it that made the writes. -/
def view (writes : List Write) (db : Db) : Db := writes.foldl (fun db write => apply write db) db

@[simp] theorem view_nil (db : Db) : view ([] : List Write) db = db := rfl

@[simp] theorem view_cons (write : Write) (writes : List Write) (db : Db) :
    view (write :: writes) db = view writes (apply write db) := rfl

theorem view_append (first second : List Write) (db : Db) :
    view (first ++ second) db = view second (view first db) := by
  unfold view
  rw [List.foldl_append]

/-- A lock that none of the writes holds protects nothing that they change. -/
theorem agree_view {lock : Lock} {writes : List Write} (free : ∀ write ∈ writes, lock ∉ @locks Db _ _ _ write)
    (db : Db) : agree lock db (view writes db) := by
  induction writes generalizing db with
  | nil => exact agree_refl lock db
  | cons write writes ih =>
    have head := agree_apply write lock db (free write List.mem_cons_self)
    have tail := ih (fun other member => free other (List.mem_cons_of_mem _ member)) (apply write db)
    exact agree_trans lock _ _ _ head tail

section Chain
variable {allowed : Db → Write → Prop}

/-- Each write is allowed on the database as the writes before it leave it. -/
def Chain (allowed : Db → Write → Prop) : List Write → Db → Prop
  | [], _ => True
  | write :: writes, db => allowed db write ∧ Chain allowed writes (apply write db)

/-- The property of a write depends only on what the write locks. -/
def Local (allowed : Db → Write → Prop) : Prop :=
  ∀ write first second, (∀ lock ∈ @locks Db _ _ _ write, agree lock first second) →
    allowed first write → allowed second write

theorem chain_append {first second : List Write} {db : Db} :
    Chain allowed (first ++ second) db ↔ Chain allowed first db ∧ Chain allowed second (view first db) := by
  induction first generalizing db with
  | nil => simp [Chain]
  | cons write writes ih => simp [Chain, ih, and_assoc]

theorem Chain.mono {weaker : Db → Write → Prop} (implies : ∀ db write, allowed db write → weaker db write)
    {writes : List Write} {db : Db} (chain : Chain allowed writes db) : Chain weaker writes db := by
  induction writes generalizing db with
  | nil => trivial
  | cons write writes ih => exact ⟨implies db write chain.1, ih chain.2⟩

theorem Chain.mem {writes : List Write} {db : Db} (chain : Chain allowed writes db) {write : Write}
    (member : write ∈ writes) : ∃ db, allowed db write := by
  induction writes generalizing db with
  | nil => cases member
  | cons first writes ih =>
    cases List.mem_cons.mp member with
    | inl same => exact ⟨db, same ▸ chain.1⟩
    | inr later => exact ih chain.2 later

/-- Commits of others that respect the locks of all the writes go unnoticed. -/
theorem Chain.later (localized : Local allowed) {writes : List Write} {first second : Db}
    (locked : ∀ write ∈ writes, ∀ lock ∈ @locks Db _ _ _ write, agree lock first second)
    (chain : Chain allowed writes first) : Chain allowed writes second := by
  induction writes generalizing first second with
  | nil => trivial
  | cons write writes ih =>
    refine ⟨localized write first second (locked write List.mem_cons_self) chain.1, ?_⟩
    apply ih _ chain.2
    intro other member lock held
    exact agree_congr write lock first second (locked other (List.mem_cons_of_mem _ member) lock held)

/-- What every allowed write preserves, a commit preserves. -/
theorem Chain.invariant {invariant : Db → Prop}
    (preserved : ∀ db write, allowed db write → invariant db → invariant (apply write db))
    {writes : List Write} {db : Db} (chain : Chain allowed writes db) (holds : invariant db) :
    invariant (view writes db) := by
  induction writes generalizing db with
  | nil => exact holds
  | cons write writes ih => exact ih chain.2 (preserved db write chain.1 holds)

end Chain

end Storage

/-- A transaction body that returns a value of the given type. -/
inductive Program (Db Write Query ε α : Type) : Type 1 where
  | done (value : α)
  | fail (error : ε)
  | call {Answer : Type} (query : Query) (exec : Nat → Db → Except ε (Answer × List Write))
      (onError : ε → ε) (next : Answer → Program Db Write Query ε α)

namespace Program
variable {Db Write Query ε α β Answer : Type}

/-- A body of one statement. -/
def statement (query : Query) (exec : Nat → Db → Except ε (Answer × List Write)) :
    Program Db Write Query ε Answer :=
  .call query exec id .done

protected def bind : Program Db Write Query ε α → (α → Program Db Write Query ε β) →
    Program Db Write Query ε β
  | .done value, rest => rest value
  | .fail error, _ => .fail error
  | .call query exec onError next, rest => .call query exec onError fun answer => (next answer).bind rest

instance : Monad (Program Db Write Query ε) where
  pure := .done
  bind := .bind

protected theorem bind_assoc {γ : Type} (body : Program Db Write Query ε α)
    (first : α → Program Db Write Query ε β) (second : β → Program Db Write Query ε γ) :
    (body >>= first) >>= second = body >>= fun value => first value >>= second := by
  change (body.bind first).bind second = body.bind fun value => (first value).bind second
  induction body with
  | done value => rfl
  | fail error => rfl
  | call query exec onError next ih =>
    simp only [Program.bind]
    congr
    funext answer
    exact ih answer

instance : MonadExceptOf ε (Program Db Write Query ε) where
  throw := .fail
  -- A body cannot go on after an error; only `mapError` sees one.
  tryCatch body _ := body

/-- Change every error that the body throws. -/
def mapError (change : ε → ε) : Program Db Write Query ε α → Program Db Write Query ε α
  | .done value => .done value
  | .fail error => .fail (change error)
  | .call query exec onError next =>
      .call query exec (fun error => change (onError error)) fun answer => (next answer).mapError change

/-- A check of the body's own code. -/
def ofExcept : Except ε α → Program Db Write Query ε α
  | .ok value => .done value
  | .error error => .fail error

section Emits
variable {Lock : Type} [Storage Db Write Lock] {allowed : Db → Write → Prop}

/-- Every write of every statement is allowed on the view it was made on. -/
def Emits (allowed : Db → Write → Prop) : Program Db Write Query ε α → Prop
  | .done _ => True
  | .fail _ => True
  | .call _ exec _ next =>
      (∀ now db answer writes, exec now db = .ok (answer, writes) → Storage.Chain allowed writes db) ∧
        ∀ answer, (next answer).Emits allowed

@[simp] theorem emits_pure (value : α) : (pure value : Program Db Write Query ε α).Emits allowed := trivial

@[simp] theorem emits_throw (error : ε) : (throw error : Program Db Write Query ε α).Emits allowed := trivial

@[simp] theorem emits_ofExcept (result : Except ε α) :
    (ofExcept result : Program Db Write Query ε α).Emits allowed := by
  cases result <;> trivial

theorem emits_statement {query : Query} {exec : Nat → Db → Except ε (Answer × List Write)}
    (each : ∀ now db answer writes, exec now db = .ok (answer, writes) → Storage.Chain allowed writes db) :
    (statement query exec).Emits allowed :=
  ⟨each, fun _ => trivial⟩

theorem emits_bind {body : Program Db Write Query ε α} {rest : α → Program Db Write Query ε β}
    (first : body.Emits allowed) (second : ∀ value, (rest value).Emits allowed) :
    (body >>= rest).Emits allowed := by
  change (body.bind rest).Emits allowed
  induction body with
  | done value => exact second value
  | fail error => trivial
  | call query exec onError next ih => exact ⟨first.1, fun answer => ih answer (first.2 answer)⟩

/-- Behind a check only what passed it. -/
theorem emits_check {check : Except ε α} {rest : α → Program Db Write Query ε β}
    (passed : ∀ value, check = .ok value → (rest value).Emits allowed) :
    (ofExcept check >>= rest).Emits allowed := by
  cases check with
  | ok value => exact passed value rfl
  | error error => trivial

theorem Emits.mono {weaker : Db → Write → Prop} (implies : ∀ db write, allowed db write → weaker db write)
    {body : Program Db Write Query ε α} (emits : body.Emits allowed) : body.Emits weaker := by
  induction body with
  | done value => trivial
  | fail error => trivial
  | call query exec onError next ih =>
    refine ⟨?_, fun answer => ih answer (emits.2 answer)⟩
    intro now db answer writes executed
    exact (emits.1 now db answer writes executed).mono implies

theorem emits_mapError {change : ε → ε} {body : Program Db Write Query ε α} (emits : body.Emits allowed) :
    (body.mapError change).Emits allowed := by
  induction body with
  | done value => trivial
  | fail error => trivial
  | call query exec onError next ih => exact ⟨emits.1, fun answer => ih answer (emits.2 answer)⟩

end Emits

/-- Every statement of the body is one of these. -/
def Asks (allowed : Query → Prop) : Program Db Write Query ε α → Prop
  | .done _ => True
  | .fail _ => True
  | .call query _ _ next => allowed query ∧ ∀ answer, (next answer).Asks allowed

theorem asks_ofExcept {allowed : Query → Prop} (result : Except ε α) :
    (ofExcept result : Program Db Write Query ε α).Asks allowed := by
  cases result <;> trivial

theorem asks_bind {allowed : Query → Prop} {body : Program Db Write Query ε α}
    {rest : α → Program Db Write Query ε β} (first : body.Asks allowed)
    (second : ∀ value, (rest value).Asks allowed) : (body >>= rest).Asks allowed := by
  change (body.bind rest).Asks allowed
  induction body with
  | done value => exact second value
  | fail error => trivial
  | call query exec onError next ih => exact ⟨first.1, fun answer => ih answer (first.2 answer)⟩

/-- The body makes the statement only behind the write. -/
def Behind (write : Write) (query : Query) : Program Db Write Query ε α → Prop
  | .done _ => True
  | .fail _ => True
  | .call asked exec _ next => asked ≠ query ∧ ∀ now db answer writes, exec now db = .ok (answer, writes) →
      write ∈ writes ∨ (next answer).Behind write query

/-- Every value that the body can return has the property. -/
def Returns (property : α → Prop) : Program Db Write Query ε α → Prop
  | .done value => property value
  | .fail _ => True
  | .call _ _ _ next => ∀ answer, (next answer).Returns property

theorem returns_bind {property : β → Prop} {body : Program Db Write Query ε α}
    {rest : α → Program Db Write Query ε β} (each : ∀ value, (rest value).Returns property) :
    (body >>= rest).Returns property := by
  change (body.bind rest).Returns property
  induction body with
  | done value => exact each value
  | fail error => trivial
  | call query exec onError next ih => exact fun answer => ih answer

theorem returns_const (body : Program Db Write Query ε α) {property : Prop} (holds : property) :
    body.Returns fun _ => property := by
  induction body with
  | done value => exact holds
  | fail error => trivial
  | call query exec onError next ih => exact ih

/-- A sequence writes what its parts write, the second on what the first can return. -/
theorem emits_bind_returned [Storage Db Write Lock] {allowed : Db → Write → Prop} {property : α → Prop}
    {body : Program Db Write Query ε α} {rest : α → Program Db Write Query ε β} (first : body.Emits allowed)
    (returns : body.Returns property) (second : ∀ value, property value → (rest value).Emits allowed) :
    (body >>= rest).Emits allowed := by
  change (body.bind rest).Emits allowed
  induction body with
  | done value => exact second value returns
  | fail error => trivial
  | call query exec onError next ih => exact ⟨first.1, fun answer => ih answer (first.2 answer) (returns answer)⟩

end Program

/-- Where a transaction stands: its statements so far, its writes, and the committed database. -/
structure Point (Db Write Query : Type) where
  log : List Query
  writes : List Write
  db : Db

section Outcome
variable {Db Write Lock Query ε α β Answer : Type} [Storage Db Write Lock]

def Point.view (point : Point Db Write Query) : Db := Storage.view point.writes point.db

def Point.record (point : Point Db Write Query) (query : Query) (writes : List Write) :
    Point Db Write Query :=
  ⟨point.log ++ [query], point.writes ++ writes, point.db⟩

variable (rely : List Query → Db → Db → Prop) (good : Db → Prop)

/-- The same transaction after commits of others: what its locks protect is as it
was, and the others kept what the transaction relies on. -/
structure Later (before after : Point Db Write Query) : Prop where
  log : after.log = before.log
  writes : after.writes = before.writes
  rely : rely before.log before.db after.db
  locked : ∀ write ∈ before.writes, ∀ lock ∈ @Storage.locks Db _ _ _ write,
    Storage.agree lock before.db after.db
  good : good after.db

/-- The body, from one point, commits with the value and the writes of another:
between any two of its statements others may have committed. -/
def Outcome : Program Db Write Query ε α → Point Db Write Query → α → Point Db Write Query → Prop
  | .done value, before, result, after => result = value ∧ after = before
  | .fail _, _, _, _ => False
  | .call query exec _ next, before, result, after =>
      ∃ here now answer writes, Later rely good before here ∧
        exec now here.view = .ok (answer, writes) ∧
          Outcome (next answer) (here.record query writes) result after

variable {rely good}

theorem outcome_pure {value result : α} {before after : Point Db Write Query} :
    Outcome rely good (pure value : Program Db Write Query ε α) before result after ↔
      result = value ∧ after = before := Iff.rfl

theorem outcome_throw {error : ε} {result : α} {before after : Point Db Write Query} :
    Outcome rely good (throw error : Program Db Write Query ε α) before result after ↔ False := Iff.rfl

theorem outcome_ofExcept {check : Except ε α} {result : α} {before after : Point Db Write Query} :
    Outcome rely good (Program.ofExcept check : Program Db Write Query ε α) before result after ↔
      check = .ok result ∧ after = before := by
  cases check with
  | ok value =>
    change result = value ∧ after = before ↔ _
    simp [eq_comm]
  | error error =>
    change False ↔ _
    simp

theorem outcome_statement {query : Query} {exec : Nat → Db → Except ε (Answer × List Write)}
    {result : Answer} {before after : Point Db Write Query} :
    Outcome rely good (Program.statement query exec) before result after ↔
      ∃ here now writes, Later rely good before here ∧ exec now here.view = .ok (result, writes) ∧
        after = here.record query writes := by
  constructor
  · intro outcome
    obtain ⟨here, now, answer, writes, later, executed, same, ended⟩ := outcome
    exact ⟨here, now, writes, later, same ▸ executed, ended⟩
  · intro outcome
    obtain ⟨here, now, writes, later, executed, ended⟩ := outcome
    exact ⟨here, now, result, writes, later, executed, rfl, ended⟩

theorem outcome_bind {body : Program Db Write Query ε α} {rest : α → Program Db Write Query ε β}
    {result : β} {before after : Point Db Write Query} :
    Outcome rely good (body >>= rest) before result after ↔
      ∃ value middle, Outcome rely good body before value middle ∧
        Outcome rely good (rest value) middle result after := by
  change Outcome rely good (body.bind rest) before result after ↔ _
  induction body generalizing before with
  | done value =>
    constructor
    · intro outcome
      exact ⟨value, before, ⟨rfl, rfl⟩, outcome⟩
    · intro outcome
      obtain ⟨_, _, ⟨rfl, rfl⟩, outcome⟩ := outcome
      exact outcome
  | fail error =>
    constructor
    · intro outcome
      exact outcome.elim
    · intro outcome
      obtain ⟨_, _, impossible, _⟩ := outcome
      exact impossible.elim
  | call query exec onError next ih =>
    constructor
    · intro outcome
      obtain ⟨here, now, answer, writes, later, executed, outcome⟩ := outcome
      obtain ⟨value, middle, first, second⟩ := (ih answer).mp outcome
      exact ⟨value, middle, ⟨here, now, answer, writes, later, executed, first⟩, second⟩
    · intro outcome
      obtain ⟨value, middle, ⟨here, now, answer, writes, later, executed, first⟩, second⟩ := outcome
      exact ⟨here, now, answer, writes, later, executed, (ih answer).mpr ⟨value, middle, first, second⟩⟩

/-- Behind a check that passed. -/
theorem outcome_check {check : Except ε α} {rest : α → Program Db Write Query ε β} {result : β}
    {before after : Point Db Write Query}
    (outcome : Outcome rely good (Program.ofExcept check >>= rest) before result after) :
    ∃ value, check = .ok value ∧ Outcome rely good (rest value) before result after := by
  obtain ⟨value, middle, checked, onwards⟩ := outcome_bind.mp outcome
  obtain ⟨passed, same⟩ := outcome_ofExcept.mp checked
  exact ⟨value, passed, same ▸ onwards⟩

/-- A part that runs only under a condition. -/
theorem outcome_when {condition : Prop} [Decidable condition] {body : Program Db Write Query ε Unit}
    {rest : Unit → Program Db Write Query ε β} {result : β} {before after : Point Db Write Query}
    (outcome : Outcome rely good (if condition then body >>= rest else rest ()) before result after) :
    ∃ middle, (if condition then Outcome rely good body before () middle else middle = before) ∧
      Outcome rely good (rest ()) middle result after := by
  split at outcome
  next met =>
    obtain ⟨_, middle, first, second⟩ := outcome_bind.mp outcome
    exact ⟨middle, by rwa [if_pos met], second⟩
  next unmet => exact ⟨before, by rw [if_neg unmet], outcome⟩

theorem outcome_mapError {change : ε → ε} {body : Program Db Write Query ε α} {result : α}
    {before after : Point Db Write Query} :
    Outcome rely good (body.mapError change) before result after ↔
      Outcome rely good body before result after := by
  induction body generalizing before with
  | done value => exact Iff.rfl
  | fail error => exact Iff.rfl
  | call query exec onError next ih =>
    simp only [Program.mapError, Outcome]
    constructor
    · intro outcome
      obtain ⟨here, now, answer, writes, later, executed, outcome⟩ := outcome
      exact ⟨here, now, answer, writes, later, executed, (ih answer).mp outcome⟩
    · intro outcome
      obtain ⟨here, now, answer, writes, later, executed, outcome⟩ := outcome
      exact ⟨here, now, answer, writes, later, executed, (ih answer).mpr outcome⟩

/-- A body only adds writes, each of them one that it can make. -/
theorem Outcome.writes {allowed : Db → Write → Prop} {body : Program Db Write Query ε α} {result : α}
    {before after : Point Db Write Query} (outcome : Outcome rely good body before result after)
    (emits : body.Emits allowed) :
    ∃ added, after.writes = before.writes ++ added ∧ ∀ write ∈ added, ∃ db, allowed db write := by
  induction body generalizing before with
  | done value => exact ⟨[], by simp [outcome.2], by simp⟩
  | fail error => exact outcome.elim
  | call query exec onError next ih =>
    obtain ⟨here, now, answer, writes, later, executed, outcome⟩ := outcome
    obtain ⟨added, same, each⟩ := ih answer outcome (emits.2 answer)
    refine ⟨writes ++ added, ?_, ?_⟩
    · rw [same, Point.record, later.writes, List.append_assoc]
    · intro write member
      cases List.mem_append.mp member with
      | inl new => exact (emits.1 now here.view answer writes executed).mem new
      | inr old => exact each write old

theorem Outcome.log {allowed : Query → Prop} {body : Program Db Write Query ε α} {result : α}
    {before after : Point Db Write Query} (outcome : Outcome rely good body before result after)
    (asks : body.Asks allowed) : ∃ asked, after.log = before.log ++ asked ∧ ∀ query ∈ asked, allowed query := by
  induction body generalizing before with
  | done value => exact ⟨[], by simp [outcome.2], by simp⟩
  | fail error => exact outcome.elim
  | call query exec onError next ih =>
    obtain ⟨here, now, answer, writes, later, executed, outcome⟩ := outcome
    obtain ⟨asked, same, each⟩ := ih answer outcome (asks.2 answer)
    refine ⟨query :: asked, ?_, ?_⟩
    · rw [same, Point.record, later.log, List.append_assoc]
      rfl
    · intro other member
      cases List.mem_cons.mp member with
      | inl first => exact first ▸ asks.1
      | inr rest => exact each other rest

theorem Outcome.returns {property : α → Prop} {body : Program Db Write Query ε α} {result : α}
    {before after : Point Db Write Query} (outcome : Outcome rely good body before result after)
    (returns : body.Returns property) : property result := by
  induction body generalizing before with
  | done value =>
    rw [outcome.1]
    exact returns
  | fail error => exact outcome.elim
  | call query exec onError next ih =>
    obtain ⟨here, now, answer, writes, later, executed, outcome⟩ := outcome
    exact ih answer outcome (returns answer)

theorem Later.refl (reliable : ∀ log db, rely log db db) {point : Point Db Write Query}
    (holds : good point.db) : Later rely good point point :=
  ⟨rfl, rfl, reliable _ _, fun _ _ lock _ => Storage.agree_refl lock _, holds⟩

theorem Later.trans (transitive : ∀ log first second third, rely log first second →
      rely log second third → rely log first third) {first second third : Point Db Write Query}
    (earlier : Later rely good first second) (later : Later rely good second third) :
    Later rely good first third where
  log := later.log.trans earlier.log
  writes := later.writes.trans earlier.writes
  rely := transitive _ _ _ _ earlier.rely (earlier.log ▸ later.rely)
  locked := by
    intro write member lock held
    exact Storage.agree_trans lock _ _ _ (earlier.locked write member lock held)
      (later.locked write (earlier.writes ▸ member) lock held)
  good := later.good

/-- A later point of the same transaction: more statements, more writes, and all
that was locked is as it was. -/
structure Follows (before after : Point Db Write Query) : Prop where
  log : before.log <+: after.log
  writes : before.writes <+: after.writes
  locked : ∀ write ∈ before.writes, ∀ lock ∈ @Storage.locks Db _ _ _ write,
    Storage.agree lock before.db after.db

theorem Follows.refl (point : Point Db Write Query) : Follows point point :=
  ⟨List.prefix_rfl, List.prefix_rfl, fun _ _ lock _ => Storage.agree_refl lock _⟩

theorem Follows.trans {first second third : Point Db Write Query} (earlier : Follows first second)
    (later : Follows second third) : Follows first third where
  log := earlier.log.trans later.log
  writes := earlier.writes.trans later.writes
  locked := by
    intro write member lock held
    exact Storage.agree_trans lock _ _ _ (earlier.locked write member lock held)
      (later.locked write (earlier.writes.subset member) lock held)

theorem Later.follows {before after : Point Db Write Query} (later : Later rely good before after) :
    Follows before after :=
  ⟨later.log ▸ List.prefix_rfl, later.writes ▸ List.prefix_rfl, later.locked⟩

theorem Follows.record (point : Point Db Write Query) (query : Query) (writes : List Write) :
    Follows point (point.record query writes) :=
  ⟨List.prefix_append _ _, List.prefix_append _ _, fun _ _ lock _ => Storage.agree_refl lock _⟩

theorem Outcome.follows {body : Program Db Write Query ε α} {result : α}
    {before after : Point Db Write Query} (outcome : Outcome rely good body before result after) :
    Follows before after := by
  induction body generalizing before with
  | done value =>
    rw [outcome.2]
    exact .refl before
  | fail error => exact outcome.elim
  | call query exec onError next ih =>
    obtain ⟨here, now, answer, writes, later, executed, outcome⟩ := outcome
    exact later.follows.trans ((Follows.record here query writes).trans (ih answer outcome))

theorem Later.chain {allowed : Db → Write → Prop} (localized : Storage.Local allowed)
    {before after : Point Db Write Query} (later : Later rely good before after)
    (chain : Storage.Chain allowed before.writes before.db) : Storage.Chain allowed after.writes after.db := by
  rw [later.writes]
  exact chain.later localized later.locked

/-- The writes of a body that emits allowed writes form a chain from the committed
database, whatever others commit meanwhile. -/
theorem Outcome.chain {allowed : Db → Write → Prop} (localized : Storage.Local allowed)
    {body : Program Db Write Query ε α} {result : α} {before after : Point Db Write Query}
    (emits : body.Emits allowed) (outcome : Outcome rely good body before result after)
    (chain : Storage.Chain allowed before.writes before.db) : Storage.Chain allowed after.writes after.db := by
  induction body generalizing before with
  | done value =>
    rw [outcome.2]
    exact chain
  | fail error => exact outcome.elim
  | call query exec onError next ih =>
    obtain ⟨here, now, answer, writes, later, executed, outcome⟩ := outcome
    apply ih answer (emits.2 answer) outcome
    apply Storage.chain_append.mpr
    exact ⟨later.chain localized chain, emits.1 now here.view answer writes executed⟩

theorem Later.mono {weaker : List Query → Db → Db → Prop} {bad : Db → Prop}
    (relies : ∀ log first second, rely log first second → weaker log first second)
    (implies : ∀ db, good db → bad db) {before after : Point Db Write Query} (later : Later rely good before after) :
    Later weaker bad before after :=
  ⟨later.log, later.writes, relies _ _ _ later.rely, later.locked, implies _ later.good⟩

/-- An outcome among careful neighbours is one among careless ones. -/
theorem Outcome.mono {weaker : List Query → Db → Db → Prop} {bad : Db → Prop}
    (relies : ∀ log first second, rely log first second → weaker log first second)
    (implies : ∀ db, good db → bad db) {body : Program Db Write Query ε α} {result : α}
    {before after : Point Db Write Query} (outcome : Outcome rely good body before result after) :
    Outcome weaker bad body before result after := by
  induction body generalizing before with
  | done value => exact outcome
  | fail error => exact outcome
  | call query exec onError next ih =>
    obtain ⟨here, now, answer, writes, later, executed, outcome⟩ := outcome
    exact ⟨here, now, answer, writes, later.mono relies implies, executed, ih answer outcome⟩

/-- What the commits of others keep throughout a transaction. -/
structure Keeps (rely : List Query → Db → Db → Prop) (kept : Db → Db → Prop) : Prop where
  refl : ∀ db, kept db db
  trans : ∀ first second third, kept first second → kept second third → kept first third
  each : ∀ log before after, rely log before after → kept before after

theorem Later.keeps {kept : Db → Db → Prop} (keeps : Keeps rely kept) {before after : Point Db Write Query}
    (later : Later rely good before after) : kept before.db after.db :=
  keeps.each _ _ _ later.rely

theorem Outcome.keeps {kept : Db → Db → Prop} (keeps : Keeps rely kept) {body : Program Db Write Query ε α}
    {result : α} {before after : Point Db Write Query} (outcome : Outcome rely good body before result after) :
    kept before.db after.db := by
  induction body generalizing before with
  | done value =>
    rw [outcome.2]
    exact keeps.refl before.db
  | fail error => exact outcome.elim
  | call query exec onError next ih =>
    obtain ⟨here, now, answer, writes, later, executed, outcome⟩ := outcome
    have rest := ih answer outcome
    exact keeps.trans _ _ _ (later.keeps keeps) rest

/-- What the commits of others keep once the transaction has made a statement. -/
structure KeepsSince (rely : List Query → Db → Db → Prop) (query : Query) (kept : Db → Db → Prop) : Prop where
  refl : ∀ db, kept db db
  trans : ∀ first second third, kept first second → kept second third → kept first third
  each : ∀ log before after, query ∈ log → rely log before after → kept before after

theorem Outcome.keepsSince {query : Query} {kept : Db → Db → Prop} (keeps : KeepsSince rely query kept)
    {body : Program Db Write Query ε α} {result : α} {before after : Point Db Write Query}
    (outcome : Outcome rely good body before result after) (asked : query ∈ before.log) : kept before.db after.db := by
  induction body generalizing before with
  | done value =>
    rw [outcome.2]
    exact keeps.refl before.db
  | fail error => exact outcome.elim
  | call query exec onError next ih =>
    obtain ⟨here, now, answer, writes, later, executed, outcome⟩ := outcome
    have there := ih answer outcome (List.mem_append_left _ (later.log ▸ asked))
    exact keeps.trans _ _ _ (keeps.each _ _ _ asked later.rely) there

/-- A fact that the transaction read from a database committed before this one. -/
def Seen (good : Db → Prop) (kept : Db → Db → Prop) (db : Db) (fact : Db → Prop) : Prop :=
  ∃ earlier, good earlier ∧ kept earlier db ∧ fact earlier

/-- A database that the transaction may have read from after its start. -/
def Since (good : Db → Prop) (kept : Db → Db → Prop) (start db : Db) : Prop := good db ∧ kept start db

theorem Seen.now {kept : Db → Db → Prop} (keeps : Keeps rely kept) {db : Db} {fact : Db → Prop} (holds : good db)
    (present : fact db) : Seen good kept db fact :=
  ⟨db, holds, keeps.refl db, present⟩

theorem Seen.since {kept : Db → Db → Prop} (keeps : Keeps rely kept) {start db : Db} {fact : Db → Prop}
    (holds : good db) (since : kept start db) (present : fact db) : Seen (Since good kept start) kept db fact :=
  ⟨db, ⟨holds, since⟩, keeps.refl db, present⟩

theorem Seen.mono {good weaker : Db → Prop} {kept : Db → Db → Prop} {db : Db} {fact : Db → Prop}
    (seen : Seen good kept db fact) (implies : ∀ earlier, good earlier → weaker earlier) : Seen weaker kept db fact := by
  obtain ⟨earlier, holds, reached, present⟩ := seen
  exact ⟨earlier, implies earlier holds, reached, present⟩

theorem Seen.weaken {kept : Db → Db → Prop} {start db : Db} {fact : Db → Prop}
    (seen : Seen (Since good kept start) kept db fact) : Seen good kept db fact :=
  seen.mono fun _ since => since.1

theorem Seen.later {kept : Db → Db → Prop} (keeps : Keeps rely kept) {db later : Db} {fact : Db → Prop}
    (seen : Seen good kept db fact) (onwards : kept db later) : Seen good kept later fact := by
  obtain ⟨earlier, holds, reached, present⟩ := seen
  exact ⟨earlier, holds, keeps.trans _ _ _ reached onwards, present⟩

end Outcome

end PactAgent.Foundation
