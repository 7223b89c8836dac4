import PactAgent.Foundation.ReadCommitted

/-! What a transaction has learned by its reads holds until it commits, when it is a fact
that the commits of others keep. So a write may rest on an earlier read of the same
transaction although nothing locks the rows that were read. -/

namespace PactAgent.Foundation
open PactAgent.Foundation.ReadCommitted

section Facts
variable {Db Write Lock : Type} [Storage Db Write Lock]

/-- A fact that stays true along the relation. -/
def Lasts (kept : Db → Db → Prop) (fact : Db → Prop) : Prop :=
  ∀ first second, kept first second → fact first → fact second

theorem Lasts.and {kept : Db → Db → Prop} {one two : Db → Prop} (first : Lasts kept one) (second : Lasts kept two) :
    Lasts kept fun db => one db ∧ two db :=
  fun before after follows holds => ⟨first before after follows holds.1, second before after follows holds.2⟩

theorem lasts_const (kept : Db → Db → Prop) (fact : Prop) : Lasts kept fun _ => fact := fun _ _ _ holds => holds

/-- A preorder of databases that a write on top of both keeps. -/
structure Layered (kept : Db → Db → Prop) : Prop where
  refl : ∀ db, kept db db
  trans : ∀ first second third, kept first second → kept second third → kept first third
  congr : ∀ write first second, kept first second → kept (Storage.apply write first) (Storage.apply write second)

variable {kept : Db → Db → Prop} {made allowed : Db → Write → Prop}

theorem Layered.view (layered : Layered kept) (writes : List Write) {first second : Db} (follows : kept first second) :
    kept (Storage.view writes first) (Storage.view writes second) := by
  induction writes generalizing first second with
  | nil => exact follows
  | cons write writes ih => exact ih (layered.congr write first second follows)

/-- Writes that respect the relation one by one respect it together. -/
theorem Layered.chain (layered : Layered kept) (respects : ∀ db write, made db write → kept db (Storage.apply write db))
    {writes : List Write} {db : Db} (chain : Storage.Chain made writes db) : kept db (Storage.view writes db) := by
  induction writes generalizing db with
  | nil => exact layered.refl db
  | cons write writes ih => exact layered.trans _ _ _ (respects db write chain.1) (ih chain.2)

/-- What allows a write is locked by it, or lasts. -/
def Grounded (kept : Db → Db → Prop) (allowed : Db → Write → Prop) : Prop :=
  ∀ write first second, kept first second → (∀ lock ∈ @Storage.locks Db _ _ _ write, Storage.agree lock first second) →
    allowed first write → allowed second write

theorem Grounded.chain (grounded : Grounded kept allowed) (layered : Layered kept) {writes : List Write} {first second : Db}
    (follows : kept first second)
    (locked : ∀ write ∈ writes, ∀ lock ∈ @Storage.locks Db _ _ _ write, Storage.agree lock first second)
    (chain : Storage.Chain allowed writes first) : Storage.Chain allowed writes second := by
  induction writes generalizing first second with
  | nil => trivial
  | cons write writes ih =>
    refine ⟨grounded write first second follows (locked write List.mem_cons_self) chain.1, ?_⟩
    apply ih (layered.congr write first second follows) _ chain.2
    intro other member lock held
    exact Storage.agree_congr write lock first second (locked other (List.mem_cons_of_mem _ member) lock held)

end Facts

namespace Program
variable {Db Write Lock Query ε α β Answer : Type} [Storage Db Write Lock]
variable {kept : Db → Db → Prop} {allowed : Db → Write → Prop}

/-- From what is known the body makes allowed writes only, learns facts that last, and
knows the goal where it ends. -/
def Learns (kept : Db → Db → Prop) (allowed : Db → Write → Prop) (goal : α → Db → Prop) :
    Program Db Write Query ε α → (Db → Prop) → Prop
  | .done value, known => ∀ db, known db → goal value db
  | .fail _, _ => True
  | .call _ exec _ next, known => ∀ now db answer added, known db → exec now db = .ok (answer, added) →
      Storage.Chain allowed added db ∧ ∃ fact, Lasts kept fact ∧ fact (Storage.view added db) ∧
        (next answer).Learns kept allowed goal fun db => known db ∧ fact db

variable {goal : α → Db → Prop} {known : Db → Prop}

theorem learns_pure {value : α} (holds : ∀ db, known db → goal value db) :
    (pure value : Program Db Write Query ε α).Learns kept allowed goal known := holds

theorem learns_throw (error : ε) : (throw error : Program Db Write Query ε α).Learns kept allowed goal known := trivial

theorem Learns.weaken {more : Db → Prop} {body : Program Db Write Query ε α} (implies : ∀ db, more db → known db)
    (learns : body.Learns kept allowed goal known) : body.Learns kept allowed goal more := by
  induction body generalizing known more with
  | done value => exact fun db holds => learns db (implies db holds)
  | fail error => trivial
  | call query exec onError next ih =>
    intro now db answer added holds executed
    obtain ⟨chain, fact, lasts, here, onwards⟩ := learns now db answer added (implies db holds) executed
    exact ⟨chain, fact, lasts, here, ih answer (fun db both => ⟨implies db both.1, both.2⟩) onwards⟩

theorem Learns.mono {weaker : α → Db → Prop} {body : Program Db Write Query ε α}
    (implies : ∀ value db, goal value db → weaker value db) (learns : body.Learns kept allowed goal known) :
    body.Learns kept allowed weaker known := by
  induction body generalizing known with
  | done value => exact fun db holds => implies value db (learns db holds)
  | fail error => trivial
  | call query exec onError next ih =>
    intro now db answer added holds executed
    obtain ⟨chain, fact, lasts, here, onwards⟩ := learns now db answer added holds executed
    exact ⟨chain, fact, lasts, here, ih answer onwards⟩

/-- What lasts along a relation lasts along a stronger one. -/
theorem Learns.strengthen {stronger : Db → Db → Prop} {body : Program Db Write Query ε α}
    (implies : ∀ first second, stronger first second → kept first second)
    (learns : body.Learns kept allowed goal known) : body.Learns stronger allowed goal known := by
  induction body generalizing known with
  | done value => exact learns
  | fail error => trivial
  | call query exec onError next ih =>
    intro now db answer added holds executed
    obtain ⟨chain, fact, lasts, here, onwards⟩ := learns now db answer added holds executed
    exact ⟨chain, fact, fun first second follows => lasts first second (implies first second follows), here,
      ih answer onwards⟩

theorem learns_bind {middle : β → Db → Prop} {body : Program Db Write Query ε β} {rest : β → Program Db Write Query ε α}
    (first : body.Learns kept allowed middle known) (second : ∀ value, (rest value).Learns kept allowed goal (middle value)) :
    (body >>= rest).Learns kept allowed goal known := by
  change (body.bind rest).Learns kept allowed goal known
  induction body generalizing known with
  | done value => exact (second value).weaken first
  | fail error => trivial
  | call query exec onError next ih =>
    intro now db answer added holds executed
    obtain ⟨chain, fact, lasts, here, onwards⟩ := first now db answer added holds executed
    exact ⟨chain, fact, lasts, here, ih answer onwards⟩

/-- A body of one statement. -/
theorem learns_statement {query : Query} {exec : Nat → Db → Except ε (Answer × List Write)} {fact : Answer → Db → Prop}
    (each : ∀ now db answer added, known db → exec now db = .ok (answer, added) →
      Storage.Chain allowed added db ∧ fact answer (Storage.view added db))
    (lasts : ∀ answer, Lasts kept (fact answer)) :
    (statement query exec).Learns kept allowed (fun answer db => known db ∧ fact answer db) known := by
  intro now db answer added holds executed
  obtain ⟨chain, here⟩ := each now db answer added holds executed
  exact ⟨chain, fact answer, lasts answer, here, fun _ both => both⟩

/-- A statement whose writes rest on what is known. -/
theorem learns_allowed {query : Query} {exec : Nat → Db → Except ε (Answer × List Write)}
    (each : ∀ now db answer added, known db → exec now db = .ok (answer, added) → Storage.Chain allowed added db) :
    (statement query exec).Learns kept allowed (fun _ => known) known := by
  intro now db answer added holds executed
  exact ⟨each now db answer added holds executed, fun _ => True, lasts_const _ _, trivial, fun _ both => both.1⟩

/-- A part that teaches nothing. -/
theorem learns_emits {body : Program Db Write Query ε α} (emits : body.Emits allowed) :
    body.Learns kept allowed (fun _ => known) known := by
  induction body generalizing known with
  | done value => exact fun _ holds => holds
  | fail error => trivial
  | call query exec onError next ih =>
    intro now db answer added holds executed
    refine ⟨emits.1 now db answer added executed, fun _ => True, lasts_const _ _, trivial, ?_⟩
    exact Learns.mono (fun _ _ both => both.1) (@ih answer (fun db => known db ∧ True) (emits.2 answer))

/-- Behind a check only what passed it. -/
theorem learns_check {check : Except ε β} {rest : β → Program Db Write Query ε α}
    (passed : ∀ value, check = .ok value → (rest value).Learns kept allowed goal known) :
    (ofExcept check >>= rest).Learns kept allowed goal known := by
  cases check with
  | ok value => exact passed value rfl
  | error error => trivial

theorem learns_mapError {change : ε → ε} {body : Program Db Write Query ε α} (learns : body.Learns kept allowed goal known) :
    (body.mapError change).Learns kept allowed goal known := by
  induction body generalizing known with
  | done value => exact learns
  | fail error => trivial
  | call query exec onError next ih =>
    intro now db answer added holds executed
    obtain ⟨chain, fact, lasts, here, onwards⟩ := learns now db answer added holds executed
    exact ⟨chain, fact, lasts, here, ih answer onwards⟩

end Program

section Rule
variable {Db Write Lock Query ε α : Type} [Storage Db Write Lock]
variable {kept : Db → Db → Prop} {made allowed : Db → Write → Prop}
variable {rely : List Query → Db → Db → Prop} {good : Db → Prop}

/-- The writes of a body that commits are allowed on the database that they change,
although others have committed since it learned what allows them. -/
theorem Outcome.learns {goal : α → Db → Prop} {known : Db → Prop} {body : Program Db Write Query ε α} {result : α}
    {before after : Point Db Write Query} (layered : Layered kept) (keeps : Keeps rely kept)
    (grounded : Grounded kept allowed) (respects : ∀ db write, made db write → kept db (Storage.apply write db))
    (emits : body.Emits made) (learns : body.Learns kept allowed goal known) (lasts : Lasts kept known)
    (outcome : Outcome rely good body before result after) (start : known before.view)
    (chain : Storage.Chain allowed before.writes before.db) :
    Storage.Chain allowed after.writes after.db ∧ goal result after.view := by
  induction body generalizing before known with
  | done value =>
    obtain ⟨rfl, rfl⟩ := outcome
    exact ⟨chain, learns _ start⟩
  | fail error => exact outcome.elim
  | call query exec onError next ih =>
    obtain ⟨here, now, answer, added, later, executed, outcome⟩ := outcome
    have follows : kept before.db here.db := later.keeps keeps
    have seen : kept before.view here.view := by
      unfold Point.view
      rw [later.writes]
      exact layered.view before.writes follows
    have known' : known here.view := lasts _ _ seen start
    obtain ⟨allowed', fact, lasting, present, onwards⟩ := learns now here.view answer added known' executed
    have own : kept here.view (Storage.view added here.view) :=
      layered.chain respects (emits.1 now here.view answer added executed)
    have recorded : (here.record query added).view = Storage.view added here.view := Storage.view_append _ _ _
    refine ih answer (emits.2 answer) onwards (lasts.and lasting) outcome ?_ ?_
    · rw [recorded]
      exact ⟨lasts _ _ own known', present⟩
    · apply Storage.chain_append.mpr
      refine ⟨?_, allowed'⟩
      rw [later.writes]
      exact grounded.chain layered follows later.locked chain

/-- Wherever the transaction has read, others have kept what it may have found until it ends. -/
theorem Outcome.toward {body : Program Db Write Query ε α} {result : α} {before after : Point Db Write Query} {db : Db}
    (keeps : Keeps rely kept) (outcome : Outcome rely good body before result after) (onwards : kept after.db db) :
    Outcome rely (fun here => good here ∧ kept here db) body before result after := by
  induction body generalizing before with
  | done value => exact outcome
  | fail error => exact outcome
  | call query exec onError next ih =>
    obtain ⟨here, now, answer, added, later, executed, outcome⟩ := outcome
    have since : kept here.db db := keeps.trans _ _ _ (outcome.keeps keeps) onwards
    exact ⟨here, now, answer, added, ⟨later.log, later.writes, later.rely, later.locked, later.good, since⟩, executed,
      ih answer outcome⟩

/-- The same where the transaction commits. -/
theorem Outcome.learnsCommit {goal : α → Db → Prop} {body : Program Db Write Query ε α} {result : α}
    {start db : Db} {last : Point Db Write Query} {writes : List Write} (layered : Layered kept)
    (keeps : Keeps rely kept) (grounded : Grounded kept allowed)
    (respects : ∀ db write, made db write → kept db (Storage.apply write db)) (emits : body.Emits made)
    (learns : body.Learns kept allowed goal fun _ => True)
    (outcome : Outcome rely good body ⟨[], [], start⟩ result last) (later : Later rely good last ⟨last.log, writes, db⟩) :
    Storage.Chain allowed writes db := by
  have ended := (outcome.learns layered keeps grounded respects emits learns (lasts_const kept True) trivial trivial).1
  rw [show writes = last.writes from later.writes]
  exact grounded.chain layered (later.keeps keeps) later.locked ended

end Rule

end PactAgent.Foundation
