import PactAgent.Foundation.ReadCommitted

/-! What a transaction returns, beside what it writes. A body yields a relation when its
value and its writes are in it wherever it ends; it reads a property when a value that
a statement decides has the property on the database of that statement. -/

namespace PactAgent.Foundation
open PactAgent.Foundation.ReadCommitted

namespace Program
variable {Db Write Lock Query ε α β Answer : Type}

/-- Wherever the body ends, its writes and its value are in the relation. -/
def Yields (relation : List Write → α → Prop) : Program Db Write Query ε α → List Write → Prop
  | .done value, writes => relation writes value
  | .fail _, _ => True
  | .call _ exec _ next, writes => ∀ now db answer added, exec now db = .ok (answer, added) →
      (next answer).Yields relation (writes ++ added)

theorem yields_pure {relation : List Write → α → Prop} {value : α} {writes : List Write} (holds : relation writes value) :
    (pure value : Program Db Write Query ε α).Yields relation writes := holds

theorem Yields.mono {relation weaker : List Write → α → Prop} {body : Program Db Write Query ε α}
    (implies : ∀ writes value, relation writes value → weaker writes value) {writes : List Write}
    (yields : body.Yields relation writes) : body.Yields weaker writes := by
  induction body generalizing writes with
  | done value => exact implies writes value yields
  | fail error => trivial
  | call query exec onError next ih =>
    intro now db answer added executed
    exact ih answer (yields now db answer added executed)

theorem yields_of_forall {relation : List Write → α → Prop} (holds : ∀ writes value, relation writes value)
    (body : Program Db Write Query ε α) (writes : List Write) : body.Yields relation writes := by
  induction body generalizing writes with
  | done value => exact holds writes value
  | fail error => trivial
  | call query exec onError next ih => exact fun _ _ answer added _ => ih answer (writes ++ added)

theorem yields_bind {middle : List Write → α → Prop} {relation : List Write → β → Prop}
    {body : Program Db Write Query ε α} {rest : α → Program Db Write Query ε β} {writes : List Write}
    (first : body.Yields middle writes) (second : ∀ writes value, middle writes value → (rest value).Yields relation writes) :
    (body >>= rest).Yields relation writes := by
  change (body.bind rest).Yields relation writes
  induction body generalizing writes with
  | done value => exact second writes value first
  | fail error => trivial
  | call query exec onError next ih =>
    intro now db answer added executed
    exact ih answer (first now db answer added executed)

/-- A body that emits allowed writes only ends with such writes behind those before it. -/
theorem yields_emits [Storage Db Write Lock] {allowed : Db → Write → Prop} {body : Program Db Write Query ε α}
    {writes : List Write} (emits : body.Emits allowed) :
    body.Yields (fun after _ => ∀ write ∈ after, write ∈ writes ∨ ∃ db, allowed db write) writes := by
  have general : ∀ before : List Write, (∀ write ∈ before, write ∈ writes ∨ ∃ db, allowed db write) →
      body.Yields (fun after _ => ∀ write ∈ after, write ∈ writes ∨ ∃ db, allowed db write) before := by
    induction body with
    | done value => exact fun before each => each
    | fail error => exact fun before each => trivial
    | call query exec onError next ih =>
      intro before each now db answer added executed
      apply ih answer (emits.2 answer)
      intro write member
      cases List.mem_append.mp member with
      | inl earlier => exact each write earlier
      | inr new => exact .inr ((emits.1 now db answer added executed).mem new)
  exact general writes fun write member => .inl member

/-- A value that a statement decides is in the relation with the earlier writes and with
the database that the statement saw. -/
def Reads (relation : List Write → Db → α → Prop) : Program Db Write Query ε α → List Write → Prop
  | .done _, _ => True
  | .fail _, _ => True
  | .call _ exec _ next, writes => ∀ now db answer added, exec now db = .ok (answer, added) →
      (next answer).Reads relation (writes ++ added) ∧ ∀ value, next answer = .done value → relation writes db value

theorem Reads.mono {relation weaker : List Write → Db → α → Prop} {body : Program Db Write Query ε α}
    (implies : ∀ writes db value, relation writes db value → weaker writes db value) {writes : List Write}
    (reads : body.Reads relation writes) : body.Reads weaker writes := by
  induction body generalizing writes with
  | done value => trivial
  | fail error => trivial
  | call query exec onError next ih =>
    intro now db answer added executed
    obtain ⟨rest, decided⟩ := reads now db answer added executed
    exact ⟨ih answer rest, fun value same => implies writes db value (decided value same)⟩

theorem reads_of_forall {relation : List Write → Db → α → Prop} (holds : ∀ writes db value, relation writes db value)
    (body : Program Db Write Query ε α) (writes : List Write) : body.Reads relation writes := by
  induction body generalizing writes with
  | done value => trivial
  | fail error => trivial
  | call query exec onError next ih =>
    exact fun _ db answer added _ => ⟨ih answer (writes ++ added), fun value _ => holds writes db value⟩

/-- A body of one statement that decides the value. -/
theorem reads_last {relation : List Write → Db → α → Prop} {query : Query}
    {exec : Nat → Db → Except ε (Answer × List Write)} {rest : Answer → Program Db Write Query ε α} {writes : List Write}
    (each : ∀ now db answer added, exec now db = .ok (answer, added) →
      ∃ value, rest answer = pure value ∧ relation writes db value) :
    (statement query exec >>= rest).Reads relation writes := by
  intro now db answer added executed
  change (rest answer).Reads relation (writes ++ added) ∧ ∀ value, rest answer = .done value → relation writes db value
  obtain ⟨value, ends, holds⟩ := each now db answer added executed
  rw [ends]
  refine ⟨trivial, ?_⟩
  intro found same
  cases same
  exact holds

end Program

section Sessions
variable {Db Write Lock Query ε Phase Env External Request : Type} [Storage Db Write Lock] [DecidableEq Lock]
variable {app : App Db Write Query ε Phase Env External Request}

/-- Open transactions are on the way to what their bodies yield. -/
theorem carried_yields {relation : Nat → Phase → List Write → Phase → Prop}
    (bodies : ∀ id phase body, app.body id phase = some body → body.Yields (relation id phase) []) :
    Carried app fun id phase session => session.rest.Yields (relation id phase) session.writes where
  start id phase body runs := bodies id phase body runs
  statement _ _ _ _ _ _ _ _ _ now db answer added yields executed := yields now db answer added executed

theorem carried_reads {relation : Nat → Phase → List Write → Db → Phase → Prop}
    (bodies : ∀ id phase body, app.body id phase = some body → body.Reads (relation id phase) []) :
    Carried app fun id phase session => session.rest.Reads (relation id phase) session.writes where
  start id phase body runs := bodies id phase body runs
  statement _ _ _ _ _ _ _ _ _ now db answer added reads executed := (reads now db answer added executed).1

end Sessions

end PactAgent.Foundation
