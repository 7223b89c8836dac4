import PactAgent.Common.Provider
import PactAgent.Foundation.Execution

/-! The slots of a provider over any run of the calls of `executeProviderRequest` with one
limit. A released slot goes to the first waiter, and the waiter takes it later: a call that
arrives between the two finds the slot free. -/

namespace PactAgent.Common.Provider
open PactAgent.Foundation PactAgent.Foundation.Execution

section Counting
variable {α : Type} {list : List α}

theorem countP_modify {index : Nat} {value : α} (found : list[index]? = some value) (test : α → Bool) (change : α → α) :
    (list.modify index change).countP test + (test value).toNat = list.countP test + (test (change value)).toNat := by
  induction list generalizing index with
  | nil => cases found
  | cons head tail ih =>
    cases index with
    | zero =>
      have same : head = value := Option.some.inj found
      subst same
      rw [List.modify_zero_cons, List.countP_cons, List.countP_cons]
      cases test head <;> cases test (change head) <;> simp
    | succ index =>
      have rest := @ih index (by simpa using found)
      rw [List.modify_succ_cons, List.countP_cons, List.countP_cons]
      omega

end Counting

section System
variable {Label : Type}

def Phase.isRunning : Phase → Bool
  | .running _ => true
  | _ => false

/-- It had a slot, and it is through. -/
def Phase.isOver : Phase → Bool
  | .succeeded | .failed => true
  | _ => false

/-- The requests between `acquire` and `release`. -/
def State.running (state : State Label) : Nat := state.requests.countP (·.phase.isRunning)

/-- The resolved waiters that have not resumed. -/
def State.woken (state : State Label) : Nat := state.requests.countP fun request => request.phase = .resumed

inductive Action (Label : Type)
  | arrive (label : Label) (now : Int)
  | resume (index : Nat)
  | success (index : Nat)
  /-- An attempt has thrown; the limits are those of its call. -/
  | failure (index : Nat) (limits : Limits) (retryable : Bool) (now : Int)

/-- One step of the calls, all of them with the same limit on concurrent requests. -/
def step (concurrency : Nat) (state : State Label) : Action Label → Option (State Label)
  | .arrive label now => some (state.enter { concurrency } label now)
  | .resume index => state.resume index
  | .success index =>
      match state.requests[index]? with
      | some ⟨_, .running _⟩ => some (state.succeed index)
      | _ => none
  | .failure index limits retryable now =>
      match state.requests[index]? with
      | some ⟨_, .running attempt⟩ => some (state.fail limits index attempt retryable now)
      | _ => none

/-- A call that arrives takes no slot that a resolved waiter is on its way to. -/
def Unpromised (concurrency : Nat) (state : State Label) : Action Label → Prop
  | .arrive _ now => state.circuitOpen now = false → state.active < concurrency →
      state.active + state.woken < concurrency
  | _ => True

/-- What holds of the slots in every run. -/
structure Held (concurrency : Nat) (state : State Label) : Prop where
  active : state.active = state.running
  waiting : ∀ index ∈ state.waiters, (state.requests[index]?).map (·.phase) = some .waiting
  distinct : state.waiters.Nodup
  /-- Requests wait only where every slot is taken or promised. -/
  full : state.waiters ≠ [] → concurrency ≤ state.running + state.woken
  closed : concurrency = 0 → ∀ request ∈ state.requests, request.phase = .waiting ∨ request.phase = .refused

end System

section Steps
variable {Label : Type} {state : State Label} {concurrency index : Nat}

theorem running_reach {request : Request Label} (phase : Phase) (found : state.requests[index]? = some request) :
    (state.reach index phase).running + request.phase.isRunning.toNat = state.running + phase.isRunning.toNat :=
  countP_modify found (·.phase.isRunning) fun request => { request with phase := phase }

theorem woken_reach {request : Request Label} (phase : Phase) (found : state.requests[index]? = some request) :
    (state.reach index phase).woken + (decide (request.phase = .resumed)).toNat =
      state.woken + (decide (phase = .resumed)).toNat :=
  countP_modify found (fun request => request.phase = .resumed) fun request => { request with phase := phase }

/-- The phases of the others stay. -/
theorem reach_other {other : Nat} (phase : Phase) (different : other ≠ index) :
    (state.reach index phase).requests[other]? = state.requests[other]? := by
  change (state.requests.modify index _)[other]? = _
  rw [List.getElem?_modify]
  simp [Ne.symm different]

/-- A released slot is promised to the first waiter, should there be one. -/
theorem release_counts (waiting : ∀ other ∈ state.waiters, (state.requests[other]?).map (·.phase) = some .waiting) :
    state.release.active = state.active - 1 ∧ state.release.running = state.running ∧
      state.release.woken = state.woken + (if state.waiters = [] then 0 else 1) ∧
      state.release.waiters = state.waiters.tail := by
  unfold State.release
  cases queue : state.waiters with
  | nil => simp [State.running, State.woken]
  | cons next waiters =>
    obtain ⟨request, found, phase⟩ := Option.map_eq_some_iff.mp (waiting next (by rw [queue]; exact List.mem_cons_self))
    have found' : ({ state with active := state.active - 1, waiters := waiters } : State Label).requests[next]? =
        some request := found
    have runs := running_reach .resumed found'
    have wakes := woken_reach .resumed found'
    rw [phase] at runs wakes
    refine ⟨rfl, ?_, ?_, rfl⟩
    · simp only [Phase.isRunning, Bool.toNat_false, Nat.add_zero] at runs
      exact runs
    · simp at wakes
      exact wakes

end Steps

section Invariant
variable {Label : Type} {state : State Label} {concurrency index : Nat}

theorem Held.initial : Held concurrency (initial : State Label) where
  active := rfl
  waiting _ member := absurd member List.not_mem_nil
  distinct := List.nodup_nil
  full nonempty := absurd rfl nonempty
  closed _ _ member := absurd member List.not_mem_nil

theorem Held.short (held : Held concurrency state) {other : Nat} (member : other ∈ state.waiters) :
    other < state.requests.length := by
  obtain ⟨request, found, -⟩ := Option.map_eq_some_iff.mp (held.waiting other member)
  exact (List.getElem?_eq_some_iff.mp found).1

/-- A request in another phase does not wait. -/
theorem Held.not_waiting (held : Held concurrency state) {request : Request Label}
    (found : state.requests[index]? = some request) (phase : request.phase ≠ .waiting) : index ∉ state.waiters := by
  intro member
  have waits := held.waiting index member
  rw [found] at waits
  exact phase (Option.some.inj waits)

theorem Held.waiting_reach (held : Held concurrency state) (phase : Phase) (absent : index ∉ state.waiters) :
    ∀ other ∈ state.waiters, ((state.reach index phase).requests[other]?).map (·.phase) = some .waiting := by
  intro other member
  have different : other ≠ index := fun same => absent (same ▸ member)
  rw [reach_other phase different]
  exact held.waiting other member

theorem Held.open_slot (held : Held concurrency state) {request : Request Label}
    (found : state.requests[index]? = some request) (waits : request.phase ≠ .waiting)
    (refused : request.phase ≠ .refused) : concurrency ≠ 0 := by
  intro zero
  rcases held.closed zero request (List.mem_of_getElem? found) with phase | phase
  · exact waits phase
  · exact refused phase

theorem Phase.running_only {phase : Phase} (runs : phase.isRunning = true) :
    phase ≠ .waiting ∧ phase ≠ .refused ∧ phase ≠ .resumed := by
  refine ⟨?_, ?_, ?_⟩ <;> intro same <;> rw [same] at runs <;> cases runs

/-- A request that is through leaves its slot, and the first waiter is promised one. -/
theorem Held.finished_counts (held : Held concurrency state) {request : Request Label} {phase : Phase}
    (found : state.requests[index]? = some request) (runs : request.phase.isRunning = true)
    (past : phase.isOver = true) :
    (state.reach index phase).release.active = state.active - 1 ∧
      (state.reach index phase).release.running + 1 = state.running ∧
      (state.reach index phase).release.woken = state.woken + (if state.waiters = [] then 0 else 1) ∧
      (state.reach index phase).release.waiters = state.waiters.tail := by
  have ended : phase.isRunning = false ∧ phase ≠ .resumed := by
    cases phase <;> first | exact ⟨rfl, Phase.noConfusion⟩ | cases past
  obtain ⟨waits, _, sleeps⟩ := Phase.running_only runs
  obtain ⟨active, running, woken, waiters⟩ :=
    @release_counts _ (state.reach index phase) (held.waiting_reach phase (held.not_waiting found waits))
  have runsAfter := running_reach phase found
  have wokenAfter := woken_reach phase found
  rw [runs, ended.1] at runsAfter
  rw [decide_eq_false sleeps, decide_eq_false ended.2] at wokenAfter
  simp only [Bool.toNat_true, Bool.toNat_false] at runsAfter wokenAfter
  have same : (state.reach index phase).waiters = state.waiters := rfl
  rw [same] at woken
  exact ⟨active, by omega, by omega, waiters⟩

theorem Held.finished_le (held : Held concurrency state) {request : Request Label} {phase : Phase}
    (found : state.requests[index]? = some request) (runs : request.phase.isRunning = true)
    (past : phase.isOver = true) :
    (state.reach index phase).release.running + (state.reach index phase).release.woken ≤
      state.running + state.woken := by
  obtain ⟨_, running, woken, _⟩ := held.finished_counts found runs past
  split at woken <;> omega

theorem Held.finished (held : Held concurrency state) {request : Request Label} {phase : Phase}
    (found : state.requests[index]? = some request) (runs : request.phase.isRunning = true)
    (past : phase.isOver = true) : Held concurrency (state.reach index phase).release := by
  obtain ⟨waits, refused, _⟩ := Phase.running_only runs
  have queue := held.waiting_reach phase (held.not_waiting found waits)
  obtain ⟨active, running, woken, waiters⟩ := held.finished_counts found runs past
  have count := held.active
  refine ⟨by omega, ?_, ?_, ?_, fun zero => absurd zero (held.open_slot found waits refused)⟩
  · intro other member
    rw [waiters] at member
    have old := queue other (List.mem_of_mem_tail member)
    unfold State.release
    cases list : state.waiters with
    | nil =>
      rw [list] at member
      cases member
    | cons next rest =>
      have fresh := held.distinct
      rw [list] at fresh member
      have other' : other ≠ next := fun same => (List.nodup_cons.mp fresh).1 (same ▸ member)
      have read : (state.reach index phase).waiters = next :: rest := list
      dsimp only
      rw [read]
      dsimp only
      rw [reach_other .resumed other']
      exact old
  · rw [waiters]
    exact held.distinct.tail
  · intro nonempty
    rw [waiters] at nonempty
    have waited : state.waiters ≠ [] := by
      intro empty
      rw [empty] at nonempty
      exact nonempty rfl
    have full := held.full waited
    rw [if_neg waited] at woken
    omega

/-- A request that moves within its slot. -/
theorem Held.retried (held : Held concurrency state) {request : Request Label} {phase : Phase}
    (found : state.requests[index]? = some request) (runs : request.phase.isRunning = true)
    (again : phase.isRunning = true) : Held concurrency (state.reach index phase) := by
  have different := Phase.running_only runs
  have other : phase ≠ .resumed := by
    rintro rfl
    cases again
  have runsAfter := running_reach phase found
  have wokenAfter := woken_reach phase found
  rw [runs, again] at runsAfter
  rw [decide_eq_false different.2.2, decide_eq_false other] at wokenAfter
  have count := held.active
  have same : (state.reach index phase).active = state.active := rfl
  refine ⟨by omega, held.waiting_reach phase (held.not_waiting found different.1), held.distinct, ?_,
    fun zero => absurd zero (held.open_slot found different.1 different.2.1)⟩
  intro nonempty
  have full := held.full nonempty
  omega

/-- A resolved waiter moves from the promised slots to the taken ones. -/
theorem Held.resumed (held : Held concurrency state) {next : State Label} (taken : state.resume index = some next) :
    Held concurrency next ∧ next.running = state.running + 1 ∧ next.woken + 1 = state.woken := by
  unfold State.resume at taken
  split at taken
  case h_2 => cases taken
  case h_1 label found =>
    cases taken
    have runsAfter := running_reach (.running 1) found
    have wokenAfter := woken_reach (.running 1) found
    simp [Phase.isRunning] at runsAfter wokenAfter
    have count := held.active
    have absent := held.not_waiting found (by exact Phase.noConfusion)
    have open' := held.open_slot found (by exact Phase.noConfusion) (by exact Phase.noConfusion)
    have running : ({ state with active := state.active + 1 }.reach index (.running 1)).running = state.running + 1 :=
      runsAfter
    have woken : ({ state with active := state.active + 1 }.reach index (.running 1)).woken + 1 = state.woken :=
      wokenAfter
    refine ⟨⟨?_, held.waiting_reach (.running 1) absent, held.distinct, ?_, fun zero => absurd zero open'⟩,
      running, woken⟩
    · rw [running]
      change state.active + 1 = _
      omega
    · intro nonempty
      have full := held.full nonempty
      omega

/-- A call that comes to the end of the list. -/
theorem append_counts (label : Label) (phase : Phase) {appended : State Label}
    (requests : appended.requests = state.requests ++ [⟨label, phase⟩]) :
    appended.running = state.running + phase.isRunning.toNat ∧
      appended.woken = state.woken + (decide (phase = .resumed)).toNat := by
  unfold State.running State.woken
  rw [requests, List.countP_append, List.countP_append]
  cases phase <;> simp [Phase.isRunning]

theorem Held.waiting_append (held : Held concurrency state) (request : Request Label) :
    ∀ other ∈ state.waiters, ((state.requests ++ [request])[other]?).map (·.phase) = some .waiting := by
  intro other member
  rw [List.getElem?_append_left (held.short member)]
  exact held.waiting other member

theorem Held.closed_append (held : Held concurrency state) {request : Request Label} (zero : concurrency = 0)
    (own : request.phase = .waiting ∨ request.phase = .refused) :
    ∀ other ∈ state.requests ++ [request], other.phase = .waiting ∨ other.phase = .refused := by
  intro other member
  rcases List.mem_append.mp member with old | new
  · exact held.closed zero other old
  · rw [List.mem_singleton.mp new]
    exact own

/-- A call that arrives is refused, waits or takes a slot that is free. -/
theorem Held.entered (held : Held concurrency state) (label : Label) (now : Int) :
    Held concurrency (state.enter { concurrency } label now) ∧
      (state.enter { concurrency } label now).woken = state.woken ∧
      ((state.enter { concurrency } label now).running = state.running ∨
        state.circuitOpen now = false ∧ state.active < concurrency ∧
          (state.enter { concurrency } label now).running = state.running + 1) := by
  unfold State.enter
  cases circuit : state.circuitOpen now with
  | true =>
    obtain ⟨running, woken⟩ := @append_counts _ state label .refused
      { state with requests := state.requests ++ [⟨label, .refused⟩] } rfl
    rw [if_pos rfl]
    refine ⟨⟨?_, held.waiting_append _, held.distinct, ?_, fun zero => held.closed_append zero (.inr rfl)⟩, woken,
      .inl running⟩
    · rw [running]
      exact held.active
    · intro nonempty
      rw [running, woken]
      exact held.full nonempty
  | false =>
    rw [if_neg Bool.noConfusion]
    unfold State.acquire
    dsimp only
    by_cases busy : concurrency ≤ state.active
    · rw [if_pos busy]
      obtain ⟨running, woken⟩ := @append_counts _ state label .waiting
        { state with
          openUntil := 0
          waiters := state.waiters ++ [state.requests.length]
          requests := state.requests ++ [⟨label, .waiting⟩] } rfl
      refine ⟨⟨?_, ?_, ?_, ?_, fun zero => held.closed_append zero (.inl rfl)⟩, woken, .inl running⟩
      · rw [running]
        exact held.active
      · intro other member
        rcases List.mem_append.mp member with old | new
        · exact held.waiting_append _ other old
        · rw [List.mem_singleton.mp new]
          simp
      · apply List.Nodup.append held.distinct (List.nodup_singleton _)
        intro other old new
        have short := held.short old
        rw [List.mem_singleton.mp new] at short
        exact Nat.lt_irrefl _ short
      · intro _
        rw [running, woken, ← held.active]
        exact Nat.le_add_right_of_le busy
    · rw [if_neg busy]
      obtain ⟨running, woken⟩ := @append_counts _ state label (.running 1)
        { state with
          openUntil := 0
          active := state.active + 1
          requests := state.requests ++ [⟨label, .running 1⟩] } rfl
      refine ⟨⟨?_, held.waiting_append _, held.distinct, ?_, fun zero => absurd (Nat.zero_le _) (zero ▸ busy)⟩, woken,
        .inr ⟨rfl, Nat.not_le.mp busy, running⟩⟩
      · rw [running, ← held.active]
        rfl
      · intro nonempty
        have full := held.full nonempty
        rw [running, woken]
        exact Nat.le_trans full (by omega)

theorem trip_eq (limits : Limits) (now : Int) : state.trip limits now =
    { state with failures := state.failures + 1, openUntil := (state.trip limits now).openUntil } := by
  unfold State.trip
  dsimp only
  split <;> rfl

theorem Held.reset (held : Held concurrency state) (failures : Nat) (openUntil : Int) :
    Held concurrency { state with failures, openUntil } :=
  ⟨held.active, held.waiting, held.distinct, held.full, held.closed⟩

/-- One step keeps the invariant, and the taken and the promised slots within the limit when a
call that arrives leaves the promised ones alone. -/
theorem Held.step (held : Held concurrency state) {action : Action Label} {next : State Label}
    (taken : step concurrency state action = some next) :
    Held concurrency next ∧ (Unpromised concurrency state action →
      state.running + state.woken ≤ concurrency → next.running + next.woken ≤ concurrency) := by
  cases action with
  | arrive label now =>
    cases taken
    obtain ⟨after, woken, same | ⟨circuit, free, running⟩⟩ := held.entered label now
    · exact ⟨after, fun _ bounded => by omega⟩
    · refine ⟨after, fun met _ => ?_⟩
      have room := met circuit free
      have count := held.active
      omega
  | resume index =>
    obtain ⟨after, running, woken⟩ := held.resumed taken
    exact ⟨after, fun _ bounded => by omega⟩
  | success index =>
    simp only [Provider.step] at taken
    split at taken
    case h_2 => cases taken
    case h_1 found =>
      cases taken
      have kept := held.reset 0 state.openUntil
      refine ⟨kept.finished found rfl rfl, fun _ bounded => ?_⟩
      exact Nat.le_trans (kept.finished_le found rfl rfl) bounded
  | failure index limits retryable now =>
    simp only [Provider.step] at taken
    split at taken
    case h_2 => cases taken
    case h_1 label attempt found =>
      cases taken
      unfold State.fail
      split
      · rw [trip_eq]
        have kept := held.reset (state.failures + 1) (state.trip limits now).openUntil
        refine ⟨kept.finished found rfl rfl, fun _ bounded => ?_⟩
        exact Nat.le_trans (kept.finished_le found rfl rfl) bounded
      · refine ⟨held.retried found rfl rfl, fun _ bounded => ?_⟩
        have running := running_reach (.running (attempt + 1)) found
        have woken := woken_reach (.running (attempt + 1)) found
        simp [Phase.isRunning] at running woken
        omega

end Invariant

/-- Requests with one limit on a provider, over any run. As long as no call that arrives takes a
slot promised to a resolved waiter, no more requests than the limit are between `acquire` and
`release`. In every run the queue is empty once the last request that had a slot is through. -/
theorem concurrency_bounded {Label : Type} (concurrency : Nat) (actions : List (Action Label)) (state : State Label)
    (ran : run (step concurrency) initial actions = some state) :
    (AlongRun (step concurrency) (Unpromised concurrency) initial actions → state.running ≤ concurrency) ∧
      ((∃ request ∈ state.requests, request.phase.isOver = true) → state.running = 0 → state.woken = 0 →
        state.waiters = []) := by
  have held : Held concurrency state :=
    invariant_run (fun _ _ _ held taken => (held.step taken).1) actions initial state .initial ran
  refine ⟨fun met => ?_, ?_⟩
  · have both := invariant_along
      (fun _ _ _ (both : Held concurrency _ ∧ State.running _ + State.woken _ ≤ concurrency) met taken =>
        ⟨(both.1.step taken).1, (both.1.step taken).2 met both.2⟩)
      actions initial state ⟨.initial, Nat.zero_le _⟩ met ran
    omega
  · rintro ⟨request, member, past⟩ running woken
    by_contra waiting
    have full := held.full waiting
    have zero : concurrency = 0 := by omega
    rcases held.closed zero request member with phase | phase <;> rw [phase] at past <;> cases past

/-- Three calls under a limit of two: the third waits, and takes the slot that the first leaves. -/
def orderly : List (Action Nat) :=
  [.arrive 1 0, .arrive 2 0, .arrive 3 0, .success 0, .resume 2, .success 1, .success 2]

theorem orderly_bounded :
    ∃ state, run (step 2) initial orderly = some state ∧ state.running ≤ 2 ∧ state.waiters = [] := by
  have ends : (run (step 2) initial orderly).map (fun state =>
      (state.running, state.woken, state.requests.any (·.phase.isOver))) = some (0, 0, true) := by decide +kernel
  obtain ⟨state, ran, view⟩ := Option.map_eq_some_iff.mp ends
  simp only [Prod.mk.injEq] at view
  obtain ⟨running, woken, past⟩ := view
  have met : AlongRun (step 2) (Unpromised 2) initial orderly := by
    refine alongRun_cons rfl (fun _ _ => by decide) (alongRun_cons rfl (fun _ _ => by decide) ?_)
    refine alongRun_cons rfl (fun _ free => absurd free (by decide)) (alongRun_cons rfl trivial ?_)
    exact alongRun_cons rfl trivial (alongRun_cons rfl trivial (alongRun_cons rfl trivial trivial))
  have bounded := concurrency_bounded 2 orderly state ran
  refine ⟨state, ran, bounded.1 met, bounded.2 ?_ running woken⟩
  simpa using past

/-- Two calls under a limit of one: the first is through and its waiter is resolved when a third
call arrives, which takes the free slot before the waiter does. -/
def barging : List (Action Nat) := [.arrive 1 0, .arrive 2 0, .success 0, .arrive 3 0, .resume 1]

theorem barging_exceeds : ¬∀ (concurrency : Nat) (actions : List (Action Nat)) (state : State Nat),
    run (step concurrency) initial actions = some state → state.running ≤ concurrency := by
  intro bounded
  have ends : (run (step 1) initial barging).map State.running = some 2 := by decide +kernel
  obtain ⟨state, ran, running⟩ := Option.map_eq_some_iff.mp ends
  have atMost := bounded 1 barging state ran
  omega

end PactAgent.Common.Provider
