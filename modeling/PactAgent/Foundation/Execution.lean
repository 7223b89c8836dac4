import Mathlib

/-! Runs of a system whose step is a partial function of the state and of an
action. An action carries every choice of the environment, so that a run is
determined by its actions, and quantifying over lists of actions quantifies over
all runs. -/

namespace PactAgent.Foundation.Execution
variable {State Action : Type*} (step : State → Action → Option State)

/-- The state after all actions; no state when one of them is not enabled. -/
def run : State → List Action → Option State
  | state, [] => some state
  | state, action :: actions =>
      match step state action with
      | some next => run next actions
      | none => none

/-- Every action of the run meets the condition in the state it is taken in. -/
def AlongRun (condition : State → Action → Prop) : State → List Action → Prop
  | _, [] => True
  | state, action :: actions =>
      condition state action ∧ ∀ next, step state action = some next → AlongRun condition next actions

variable {step}

theorem run_cons {state final : State} {action : Action} {actions : List Action}
    (reached : run step state (action :: actions) = some final) :
    ∃ next, step state action = some next ∧ run step next actions = some final := by
  unfold run at reached
  cases taken : step state action with
  | none => rw [taken] at reached; cases reached
  | some next => rw [taken] at reached; exact ⟨next, rfl, reached⟩

theorem run_append {state middle : State} {first second : List Action}
    (reached : run step state first = some middle) :
    run step state (first ++ second) = run step middle second := by
  induction first generalizing state with
  | nil =>
    cases reached
    rfl
  | cons action first ih =>
    obtain ⟨next, taken, reached⟩ := run_cons reached
    rw [List.cons_append, run, taken]
    exact ih reached

theorem alongRun_cons {condition : State → Action → Prop} {state next : State} {action : Action}
    {actions : List Action} (taken : step state action = some next) (met : condition state action)
    (rest : AlongRun step condition next actions) : AlongRun step condition state (action :: actions) := by
  refine ⟨met, ?_⟩
  intro other reached
  cases taken.symm.trans reached
  exact rest

theorem alongRun_append {condition : State → Action → Prop} {state middle : State} {first second : List Action}
    (met : AlongRun step condition state (first ++ second)) (reached : run step state first = some middle) :
    AlongRun step condition middle second := by
  induction first generalizing state with
  | nil =>
    cases reached
    exact met
  | cons action first ih =>
    obtain ⟨next, taken, reached⟩ := run_cons reached
    exact ih (met.2 next taken) reached

theorem run_snoc {state final : State} {action : Action} {actions : List Action}
    (reached : run step state (actions ++ [action]) = some final) :
    ∃ middle, run step state actions = some middle ∧ step middle action = some final := by
  induction actions generalizing state with
  | nil =>
    obtain ⟨next, taken, ended⟩ := run_cons reached
    cases ended
    exact ⟨state, rfl, taken⟩
  | cons first actions ih =>
    obtain ⟨next, taken, reached⟩ := run_cons reached
    obtain ⟨middle, before, last⟩ := ih reached
    exact ⟨middle, by rw [run, taken]; exact before, last⟩

theorem alongRun_snoc {condition : State → Action → Prop} {state : State} {action : Action} {actions : List Action} :
    AlongRun step condition state (actions ++ [action]) ↔ AlongRun step condition state actions ∧
      ∀ middle, run step state actions = some middle → condition middle action := by
  induction actions generalizing state with
  | nil =>
    constructor
    · rintro ⟨met, _⟩
      refine ⟨trivial, ?_⟩
      rintro middle ⟨⟩
      exact met
    · rintro ⟨_, met⟩
      exact ⟨met state rfl, fun _ _ => trivial⟩
  | cons first actions ih =>
    constructor
    · rintro ⟨met, rest⟩
      refine ⟨⟨met, fun next taken => (ih.mp (rest next taken)).1⟩, ?_⟩
      intro middle reached
      obtain ⟨next, taken, reached⟩ := run_cons reached
      exact (ih.mp (rest next taken)).2 middle reached
    · rintro ⟨⟨met, rest⟩, last⟩
      refine ⟨met, fun next taken => ih.mpr ⟨rest next taken, ?_⟩⟩
      intro middle reached
      refine last middle ?_
      rw [run, taken]
      exact reached

theorem alongRun_concat {condition : State → Action → Prop} {state middle : State} {first second : List Action}
    (met : AlongRun step condition state first) (reached : run step state first = some middle)
    (rest : AlongRun step condition middle second) : AlongRun step condition state (first ++ second) := by
  induction first generalizing state with
  | nil =>
    cases reached
    exact rest
  | cons action first ih =>
    obtain ⟨next, taken, reached⟩ := run_cons reached
    exact alongRun_cons taken met.1 (ih (met.2 next taken) reached)

/-- What holds at the end, and before a step that it holds after, holds along the run. -/
theorem alongRun_of_end {condition : State → Action → Prop} {invariant : State → Prop} {state final : State}
    {actions : List Action} (back : ∀ state action next, step state action = some next → invariant next → invariant state)
    (implies : ∀ state action, invariant state → condition state action)
    (reached : run step state actions = some final) (holds : invariant final) :
    AlongRun step condition state actions := by
  have start : ∀ {actions state}, run step state actions = some final → invariant state := by
    intro actions
    induction actions with
    | nil =>
      intro state reached
      cases reached
      exact holds
    | cons action actions ih =>
      intro state reached
      obtain ⟨next, taken, reached⟩ := run_cons reached
      exact back state action next taken (ih reached)
  induction actions generalizing state with
  | nil => trivial
  | cons action actions ih =>
    obtain ⟨next, taken, onwards⟩ := run_cons reached
    exact alongRun_cons taken (implies state action (start reached)) (ih onwards)

/-- A decidable condition can be checked along a run. -/
instance AlongRun.decidable {condition : State → Action → Prop} [∀ state action, Decidable (condition state action)] :
    (state : State) → (actions : List Action) → Decidable (AlongRun step condition state actions)
  | _, [] => .isTrue trivial
  | state, action :: actions =>
      match taken : step state action with
      | some next =>
          have : Decidable (AlongRun step condition next actions) := AlongRun.decidable next actions
          decidable_of_iff (condition state action ∧ AlongRun step condition next actions) (by simp [AlongRun, taken])
      | none => decidable_of_iff (condition state action) (by simp [AlongRun, taken])

/-- What is seen of a run after each of its parts. -/
def trace {View : Type*} (step : State → Action → Option State) (view : State → View) :
    State → List (List Action) → List View
  | _, [] => []
  | state, part :: parts =>
      match run step state part with
      | some next => view next :: trace step view next parts
      | none => []

theorem trace_cons {View : Type*} {view : State → View} {state : State} {part : List Action}
    {parts : List (List Action)} {seen : View} {rest : List View}
    (traced : trace step view state (part :: parts) = seen :: rest) :
    ∃ next, run step state part = some next ∧ view next = seen ∧ trace step view next parts = rest := by
  unfold trace at traced
  cases reached : run step state part with
  | none =>
    rw [reached] at traced
    cases traced
  | some next =>
    rw [reached] at traced
    obtain ⟨same, onwards⟩ := List.cons.inj traced
    exact ⟨next, rfl, same, onwards⟩

theorem AlongRun.mono {condition weaker : State → Action → Prop} {state : State} {actions : List Action}
    (implies : ∀ state action, condition state action → weaker state action)
    (met : AlongRun step condition state actions) : AlongRun step weaker state actions := by
  induction actions generalizing state with
  | nil => trivial
  | cons action actions ih => exact ⟨implies _ _ met.1, fun next taken => ih (met.2 next taken)⟩

/-- What one step preserves under the condition, a run preserves whose every step meets it. -/
theorem invariant_along {condition : State → Action → Prop} {invariant : State → Prop}
    (preserved : ∀ state action next, invariant state → condition state action →
      step state action = some next → invariant next)
    (actions : List Action) (state final : State) (initial : invariant state)
    (met : AlongRun step condition state actions) (reached : run step state actions = some final) :
    invariant final := by
  induction actions generalizing state with
  | nil =>
    cases reached
    exact initial
  | cons action actions ih =>
    obtain ⟨next, taken, reached⟩ := run_cons reached
    exact ih next (preserved state action next initial met.1 taken) (met.2 next taken) reached

/-- A condition on actions alone holds along a run when it holds of each action. -/
theorem alongRun_of_forall {condition : Action → Prop} (actions : List Action) (state : State)
    (met : ∀ action ∈ actions, condition action) :
    AlongRun step (fun _ action => condition action) state actions := by
  induction actions generalizing state with
  | nil => trivial
  | cons action actions ih =>
    refine ⟨met action List.mem_cons_self, ?_⟩
    intro next _
    exact ih next fun action member => met action (List.mem_cons_of_mem _ member)

/-- What one step preserves, every run preserves. -/
theorem invariant_run {invariant : State → Prop}
    (preserved : ∀ state action next, invariant state → step state action = some next → invariant next)
    (actions : List Action) (state final : State) (initial : invariant state)
    (reached : run step state actions = some final) : invariant final :=
  invariant_along (fun state action next holds _ => preserved state action next holds) actions state final
    initial (alongRun_of_forall actions state fun _ _ => trivial) reached

/-- What one step preserves can be counted on along a run. -/
theorem alongRun_of_invariant {invariant : State → Prop}
    (preserved : ∀ state action next, invariant state → step state action = some next → invariant next)
    (actions : List Action) (state : State) (initial : invariant state) :
    AlongRun step (fun state _ => invariant state) state actions := by
  induction actions generalizing state with
  | nil => trivial
  | cons action actions ih => exact ⟨initial, fun next taken => ih next (preserved state action next initial taken)⟩

section Path
variable {Status : Type*}

/-- A sequence of statuses from one to another, each reached from the one before it
by an edge. -/
def Path (edge : Status → Status → Prop) : Status → List Status → Status → Prop
  | start, [], finish => start = finish
  | start, next :: rest, finish => edge start next ∧ Path edge next rest finish

theorem Path.append {edge : Status → Status → Prop} {start middle finish : Status} {first second : List Status}
    (head : Path edge start first middle) (tail : Path edge middle second finish) :
    Path edge start (first ++ second) finish := by
  induction first generalizing start with
  | nil =>
    cases head
    exact tail
  | cons next rest ih => exact ⟨head.1, ih head.2⟩

end Path

/-- A status that can be reached in some steps of a lifecycle table. -/
def Leads {Status : Type*} (table : Status → Status → Bool) : Status → Status → Prop :=
  Relation.ReflTransGen fun old new => table old new = true

section Leads
variable {Status : Type*} {table : Status → Status → Bool}

theorem Leads.refl (status : Status) : Leads table status status := Relation.ReflTransGen.refl

theorem Leads.single {old new : Status} (valid : table old new = true) : Leads table old new :=
  Relation.ReflTransGen.single valid

theorem Leads.trans {first second third : Status} (earlier : Leads table first second)
    (later : Leads table second third) : Leads table first third :=
  Relation.ReflTransGen.trans earlier later

/-- A set of statuses that no step leaves is never left. -/
theorem Leads.closed {inside : Status → Prop}
    (step : ∀ old new, inside old → table old new = true → inside new) {old new : Status}
    (leads : Leads table old new) (start : inside old) : inside new := by
  induction leads with
  | refl => exact start
  | tail _ next ih => exact step _ _ ih next

end Leads

end PactAgent.Foundation.Execution
