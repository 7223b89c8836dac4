import PactAgent.Webhooks.Worker
import PactAgent.Webhooks.Results

/-! Two runs of a worker compared on the attempts of one app: what other apps' endpoints
answer reaches them through the circuit of the provider, and through nothing else. -/

namespace PactAgent.Webhooks
open Foundation Foundation.Execution Common

/-- Two attempts, of two runs, of the same delivery at the same count that the endpoint
answers alike, with the same faults of the database. -/
def Attempt.Alike (attempt other : Attempt) : Prop :=
  other.delivery.id = attempt.delivery.id ∧ other.delivery.attempts = attempt.delivery.attempts ∧
    other.answer = attempt.answer ∧ other.faulted = attempt.faulted

/-- The endpoint accepts the delivery, if it is asked, and the result is stored. -/
def Attempt.accepted (attempt : Attempt) : Bool := attempt.answer.any Answer.ok && !attempt.faulted

def Worker.attemptsOf (worker : Worker) (app : Uuid) : List Attempt :=
  worker.attempts.filter fun attempt => attempt.delivery.appId = app

def Worker.resultsOf (worker : Worker) (run : Nat) : List Entry :=
  worker.service.log.filter fun entry => entry.cause = .recorded run

/-- The attempts of the app that both runs have in common are recorded with the same status,
attempts and retry. -/
def Independent (app : Uuid) (one another : Worker) : Prop :=
  ∀ attempt ∈ one.attemptsOf app, ∀ other ∈ another.attemptsOf app, attempt.Alike other →
    ∀ entry ∈ one.resultsOf attempt.run, ∀ same ∈ another.resultsOf other.run,
      same.status = entry.status ∧ same.attempts = entry.attempts ∧ same.key = entry.key

/-- The attempts that the endpoint accepts have met an open circuit in both runs or in neither. -/
def SameCircuit (app : Uuid) (one another : Worker) : Prop :=
  ∀ attempt ∈ one.attemptsOf app, ∀ other ∈ another.attemptsOf app, attempt.Alike other →
    one.resultsOf attempt.run ≠ [] → another.resultsOf other.run ≠ [] → attempt.accepted = true →
    other.refused = attempt.refused

section Decisions

def Record.decision (record : Record) : DeliveryStatus × Option AttemptKey :=
  (record.data.status, record.retry.map Prod.fst)

def Entry.decision (entry : Entry) : DeliveryStatus × Option AttemptKey := (entry.status, entry.key)

/-- What an attempt is recorded with. -/
def Attempt.decision (attempt : Attempt) : DeliveryStatus × Option AttemptKey :=
  match attempt.answer with
  | none => (.failed, none)
  | some answer =>
      if answer.ok && !attempt.refused && !attempt.faulted then (.delivered, none)
      else (rejected attempt.delivery .requestFailed 0).decision

/-- The decision after a failure is one of the number of attempts alone. -/
theorem rejected_decision {delivery other : WebhookDelivery} (error error' : DeliveryError) (now now' : Int)
    (attempts : other.attempts = delivery.attempts) :
    (rejected other error' now').decision = (rejected delivery error now).decision := by
  unfold rejected
  rw [attempts]
  dsimp only
  split
  · rfl
  · rfl

theorem rejected_undelivered (delivery : WebhookDelivery) (error : DeliveryError) (now : Int) :
    (rejected delivery error now).decision.1 ≠ .delivered := by
  unfold rejected
  dsimp only
  split
  · exact nofun
  · exact nofun

/-- A refused or a faulted attempt is recorded as a failed one. -/
theorem decision_rejected {attempt : Attempt} (asked : attempt.answer.isSome = true) (error : DeliveryError) (now : Int)
    (spoiled : attempt.answer.any Answer.ok = false ∨ attempt.refused = true ∨ attempt.faulted = true) :
    (rejected attempt.delivery error now).decision = attempt.decision := by
  obtain ⟨answer, answered⟩ := Option.isSome_iff_exists.mp asked
  rw [rejected_decision .requestFailed error 0 now rfl]
  unfold Attempt.decision
  rw [answered] at spoiled ⊢
  rw [Option.any_some] at spoiled
  rcases spoiled with spoiled | spoiled | spoiled <;> simp [spoiled]

theorem decision_accepted {attempt : Attempt} (accepted : attempt.accepted = true) (asked : attempt.refused = false) :
    attempt.decision = (.delivered, none) := by
  obtain ⟨run, delivery, answer, refused, faulted⟩ := attempt
  cases answer with
  | none => cases accepted
  | some answer =>
    simp only [Attempt.accepted, Option.any_some, Bool.and_eq_true, Bool.not_eq_true'] at accepted
    dsimp only at asked
    simp [Attempt.decision, accepted, asked]

theorem decision_alike {attempt other : Attempt} (alike : attempt.Alike other)
    (circuit : attempt.accepted = true → other.refused = attempt.refused) : other.decision = attempt.decision := by
  obtain ⟨-, attempts, answers, faults⟩ := alike
  have failed := rejected_decision .requestFailed .requestFailed 0 0 attempts
  cases answered : attempt.answer with
  | none => simp only [Attempt.decision, answers, answered]
  | some answer =>
    simp only [Attempt.accepted, answered, Option.any_some, Bool.and_eq_true, Bool.not_eq_true'] at circuit
    simp only [Attempt.decision, answers, answered, faults, failed]
    by_cases accepted : answer.ok = true ∧ attempt.faulted = false
    · rw [circuit accepted]
    · have rejected : ∀ refused : Bool, (answer.ok && !refused && !attempt.faulted) = false := by
        intro refused
        rw [Bool.eq_false_iff]
        intro both
        simp only [Bool.and_eq_true, Bool.not_eq_true'] at both
        exact accepted ⟨both.1.1, both.2⟩
      rw [rejected, rejected]

theorem outcome_decision {attempt : Attempt} {answer : Answer} (answered : attempt.answer = some answer)
    (asked : attempt.refused = false) (unfaulted : attempt.faulted = false) (now : Int) :
    (answer.outcome.record attempt.delivery now).1.decision = attempt.decision := by
  have rejected : answer.ok = false → ∀ error,
      (rejected attempt.delivery error now).decision = attempt.decision := by
    intro failed error
    exact decision_rejected (by rw [answered]; rfl) error now (.inl (by rw [answered]; exact failed))
  cases answer with
  | thrown retryable => exact rejected rfl .requestFailed
  | response status snippet =>
    by_cases ok : 200 ≤ status ∧ status ≤ 299
    · rw [Answer.outcome, if_pos ok, Outcome.record, if_pos ok]
      have fine : (Answer.response status snippet).ok = true := by simpa [Answer.ok] using ok
      rw [decision_accepted (by simp [Attempt.accepted, answered, fine, unfaulted]) asked]
      rfl
    · rw [Answer.outcome, if_neg ok]
      exact rejected (by simpa [Answer.ok] using ok) (.providerStatus status)

end Decisions

section Inversion
variable {state next : State}

theorem readDelivery_cases (deliveryId : String) (decrypts : Bool) (tables : Tables) :
    readDelivery deliveryId decrypts tables = .threw ∨ readDelivery deliveryId decrypts tables = .returned ∨
      (∃ delivery reason, readDelivery deliveryId decrypts tables = .recording delivery (unavailable reason) false) ∨
      ∃ delivery, readDelivery deliveryId decrypts tables = .requesting delivery := by
  unfold readDelivery
  split
  · exact .inl rfl
  · next delivery _ =>
    split
    · exact .inl rfl
    · split
      · exact .inr (.inl rfl)
      · split
        · exact .inr (.inr (.inl ⟨delivery, _, rfl⟩))
        · split
          · exact .inr (.inr (.inl ⟨delivery, _, rfl⟩))
          · split
            · exact .inr (.inr (.inr ⟨delivery, rfl⟩))
            · exact .inl rfl

theorem read_step {index : Nat} {decrypts : Bool} (taken : step state (.read index decrypts) = some next) :
    ∃ run, state.runs[index]? = some run ∧ run.stage = .reading ∧
      next = state.reach index (readDelivery run.deliveryId decrypts state.tables) := by
  simp only [step] at taken
  split at taken
  · next claim deliveryId member =>
    cases taken
    exact ⟨_, member, rfl, rfl⟩
  · cases taken

theorem respond_step {index : Nat} {outcome : Outcome} {now : Int}
    (taken : step state (.respond index outcome now) = some next) :
    ∃ run delivery, state.runs[index]? = some run ∧ run.stage = .requesting delivery ∧
      next = state.reach index
        (.recording delivery (outcome.record delivery now).1 (outcome.record delivery now).2) := by
  simp only [step] at taken
  split at taken
  · next claim deliveryId delivery member =>
    cases taken
    exact ⟨_, delivery, member, rfl, rfl⟩
  · cases taken

/-- A transaction stores the result of the run that has asked for it, or nothing. -/
theorem record_step {index : Nat} {ending : Ending} {jobId : String} {uuids : Nat → Uuid} {first : Char}
    {message : String} {now : Int} (taken : step state (.record index ending jobId uuids first message now) = some next) :
    ∃ run read record caught stage, state.runs[index]? = some run ∧ run.stage = .recording read record caught ∧
      next.runs = (state.reach index stage).runs ∧
      (stage = .returned ∨ ∃ error now, stage = afterError read caught error now) ∧
      (next.log = state.log ∨ ∃ created entry, next.log = state.log ++ (created ++ [entry]) ∧
        (∀ other ∈ created, other.cause = .created) ∧ entry.cause = .recorded index ∧ entry.deliveryId = read.id ∧
        entry.attempts = read.attempts + 1 ∧ entry.decision = record.decision) := by
  simp only [step] at taken
  split at taken
  · next claim deliveryId read record caught member =>
    have stored : ∀ {entries tables stage}, recordDeliveryResult index read record jobId uuids now state.tables
        = .ok (entries, tables) → (state.commit entries tables).reach index stage = next →
        (next.log = state.log ∨ ∃ created entry, next.log = state.log ++ (created ++ [entry]) ∧
          (∀ other ∈ created, other.cause = .created) ∧ entry.cause = .recorded index ∧ entry.deliveryId = read.id ∧
          entry.attempts = read.attempts + 1 ∧ entry.decision = record.decision) := by
      intro entries tables stage ended same
      subst same
      rcases recordDeliveryResult_ok ended with ⟨rfl, -, -⟩ | ⟨old, middle, created, job, recorded⟩
      · exact .inl (List.append_nil _)
      · let entry : Entry :=
          ⟨read.id, .recorded index, record.data.status, old.attempts + 1, job, record.retry.map Prod.fst⟩
        refine .inr ⟨created, entry, ?_, recorded.failure.extends.created, rfl, rfl, ?_, rfl⟩
        · exact congrArg (state.log ++ ·) recorded.log
        · exact congrArg (· + 1) recorded.attempts
    split at taken
    · next entries tables ended =>
      cases taken
      exact ⟨_, read, record, caught, .returned, member, rfl, rfl, .inl rfl, stored ended rfl⟩
    · next entries tables ended =>
      cases taken
      exact ⟨_, read, record, caught, _, member, rfl, rfl, .inr ⟨_, _, rfl⟩, stored ended rfl⟩
    · cases taken
      exact ⟨_, read, record, caught, _, member, rfl, rfl, .inr ⟨_, _, rfl⟩, .inl rfl⟩
  · cases taken

theorem afterError_settled (read : WebhookDelivery) (caught : Bool) (error : DeliveryError) (now : Int) :
    afterError read caught error now ≠ .reading ∧ ∀ delivery, afterError read caught error now ≠ .requesting delivery := by
  cases caught with
  | false => exact ⟨Stage.noConfusion, fun _ => Stage.noConfusion⟩
  | true => exact ⟨Stage.noConfusion, fun _ => Stage.noConfusion⟩

/-- Every other step leaves the runs that have read, and records no result. -/
theorem service_step {action : Action} (taken : step state action = some next) (other : action.ofWorker = false) :
    (∀ (index : Nat) run, state.runs[index]? = some run → run.stage ≠ .reading → next.runs[index]? = some run) ∧
      ∃ entries, next.log = state.log ++ entries ∧ ∀ entry ∈ entries, ∀ run, entry.cause ≠ .recorded run := by
  have added : ∀ {entries : List Entry} {place : Nat}, (∀ entry ∈ entries, entry.cause = .created) →
      ∀ entry ∈ entries, entry.cause ≠ .recorded place := by
    intro entries place created entry member same
    cases (created entry member).symm.trans same
  have unchanged : next.runs = state.runs → next.log = state.log →
      (∀ (index : Nat) run, state.runs[index]? = some run → run.stage ≠ .reading → next.runs[index]? = some run) ∧
      ∃ entries, next.log = state.log ++ entries ∧ ∀ entry ∈ entries, ∀ run, entry.cause ≠ .recorded run := by
    intro runs log
    exact ⟨fun index run member _ => by rw [runs]; exact member, [], by rw [log, List.append_nil], nofun⟩
  have started : ∀ run : Run, next = { state with runs := state.runs ++ [run] } →
      (∀ (index : Nat) run, state.runs[index]? = some run → run.stage ≠ .reading → next.runs[index]? = some run) ∧
      ∃ entries, next.log = state.log ++ entries ∧ ∀ entry ∈ entries, ∀ run, entry.cause ≠ .recorded run := by
    rintro run rfl
    refine ⟨?_, [], (List.append_nil _).symm, nofun⟩
    intro index old member _
    exact (List.getElem?_append_left (List.getElem?_eq_some_iff.mp member).1).trans member
  cases action with
  | read => cases other
  | respond => cases other
  | record => cases other
  | interrupt index =>
    simp only [step] at taken
    split at taken
    · next claim deliveryId reading =>
      cases taken
      refine ⟨?_, [], (List.append_nil _).symm, nofun⟩
      intro place run member stage
      rw [reach_runs, member]
      by_cases same : index = place
      · subst same
        cases reading.symm.trans member
        exact absurd rfl stage
      · rw [Option.map_some, if_neg same]
    · cases taken
  | queue jobAction =>
    simp only [step] at taken
    split at taken
    · obtain ⟨queue, -, rfl⟩ := Option.map_eq_some_iff.mp taken
      exact unchanged rfl rfl
    · cases taken
  | enqueueCkbReconciliation appId agreementId transactionId uuid now =>
    obtain ⟨queue, -, rfl⟩ := Option.map_eq_some_iff.mp taken
    exact unchanged rfl rfl
  | createEndpoint endpoint =>
    simp only [step] at taken
    split at taken
    · cases taken
    · cases taken
      exact unchanged rfl rfl
  | updateEndpoint appId endpointId url subscribedEvents status =>
    simp only [step] at taken
    split at taken
    · cases taken
    · cases taken
      exact unchanged rfl rfl
  | deleteEndpoint appId endpointId now =>
    simp only [step] at taken
    split at taken
    · cases taken
    · cases taken
      exact unchanged rfl rfl
  | createEvent appId data uuids now =>
    simp only [step, State.transact] at taken
    split at taken
    · cases taken
    · split at taken
      · next entries tables created =>
        cases taken
        have extends' := (createEvent_extends created).1
        exact ⟨fun _ _ member _ => member, entries, rfl, fun entry member _ => added extends'.created entry member⟩
      · cases taken
        exact unchanged rfl rfl
  | retryWebhookDelivery appId deliveryId jobId now =>
    simp only [step, State.transact] at taken
    split at taken
    · next entries tables ended =>
      cases taken
      refine ⟨fun _ _ member _ => member, entries, rfl, ?_⟩
      intro entry member run cause
      rcases retryWebhookDelivery_ok ended with ⟨rfl, -⟩ | ⟨old, job, -, -, -, -, -, -, rfl⟩
      · cases member
      · cases List.mem_singleton.mp member
        cases cause
    · cases taken
      exact unchanged rfl rfl
  | execute index =>
    simp only [step] at taken
    split at taken
    · cases taken
    · split at taken
      · split at taken
        · cases taken
        · exact started _ (Option.some.inj taken).symm
      · cases taken
  | deliver deliveryId => exact started _ (Option.some.inj taken).symm

end Inversion

/-- Where the run of an attempt stands. -/
def Attempt.Follows (attempt : Attempt) (state : State) : Stage → Prop
  | .reading => False
  | .requesting delivery =>
      delivery = attempt.delivery ∧ attempt.answer.isSome = true ∧ attempt.refused = false ∧ attempt.faulted = false
  | .recording delivery record caught =>
      delivery = attempt.delivery ∧
        (record.decision = attempt.decision ∨ state.hasRecorded attempt.run = true) ∧
        (caught = true → attempt.answer.isSome = true)
  | _ => True

/-- What is recorded for an attempt is decided by the attempt. -/
structure Decided (worker : Worker) : Prop where
  linear : Linear worker.service
  follows : ∀ attempt ∈ worker.attempts, ∃ run, worker.service.runs[attempt.run]? = some run ∧
    attempt.Follows worker.service run.stage
  recorded : ∀ attempt ∈ worker.attempts, ∀ entry ∈ worker.service.log, entry.cause = .recorded attempt.run →
    entry.deliveryId = attempt.delivery.id ∧ entry.attempts = attempt.delivery.attempts + 1 ∧
      entry.decision = attempt.decision
  single : ∀ attempt ∈ worker.attempts, ∀ other ∈ worker.attempts, other.run = attempt.run → other.answer = attempt.answer
  /-- A run has no result before it has one to record. -/
  silent : ∀ entry ∈ worker.service.log, ∀ place, entry.cause = .recorded place →
    ∃ run, worker.service.runs[place]? = some run ∧ run.stage ≠ .reading ∧
      ∀ delivery, run.stage ≠ .requesting delivery

section Steps
variable {worker after : Worker}

theorem hasRecorded_iff {state : State} {run : Nat} :
    state.hasRecorded run = true ↔ ∃ entry ∈ state.log, entry.cause = .recorded run := by
  simp [State.hasRecorded]

theorem Attempt.Follows.mono {attempt : Attempt} {state next : State} {stage : Stage}
    (follows : attempt.Follows state stage) (grown : ∀ entry ∈ state.log, entry ∈ next.log) :
    attempt.Follows next stage := by
  cases stage with
  | recording delivery record caught =>
    refine ⟨follows.1, follows.2.1.imp_right ?_, follows.2.2⟩
    intro recorded
    obtain ⟨entry, member, cause⟩ := hasRecorded_iff.mp recorded
    exact hasRecorded_iff.mpr ⟨entry, grown entry member, cause⟩
  | _ => exact follows

theorem initial_decided : Decided Worker.initial where
  linear := initial_linear
  follows _ member := absurd member List.not_mem_nil
  recorded _ member := absurd member List.not_mem_nil
  single _ member := absurd member List.not_mem_nil
  silent _ member := absurd member List.not_mem_nil

theorem service_decided (decided : Decided worker) {action : Action} {service : State}
    (taken : step worker.service action = some service) (other : action.ofWorker = false) :
    Decided { worker with service := service } := by
  obtain ⟨runs, entries, log, unrecorded⟩ := service_step taken other
  have earlier : ∀ entry ∈ service.log, ∀ place, entry.cause = .recorded place → entry ∈ worker.service.log := by
    intro entry member place cause
    rw [log, List.mem_append] at member
    exact member.resolve_right fun added => unrecorded entry added place cause
  constructor
  · exact step_linear _ _ _ decided.linear taken
  · intro attempt member
    obtain ⟨run, found, follows⟩ := decided.follows attempt member
    have read : run.stage ≠ .reading := by
      intro reading
      rw [reading] at follows
      exact follows
    refine ⟨run, runs _ run found read, follows.mono ?_⟩
    intro entry there
    rw [log]
    exact List.mem_append_left _ there
  · intro attempt member entry there cause
    exact decided.recorded attempt member entry (earlier entry there _ cause) cause
  · exact decided.single
  · intro entry there place cause
    obtain ⟨run, found, read, asked⟩ := decided.silent entry (earlier entry there place cause) place cause
    exact ⟨run, runs place run found read, read, asked⟩

/-- The attempt of a run that has just read. -/
theorem attempt_follows {index : Nat} {answer : Answer} {attempt : Attempt} {deliveryId : String} {decrypts : Bool}
    {tables : Tables} (state : State)
    (made : (readDelivery deliveryId decrypts tables).attempt index answer = some attempt) :
    attempt.run = index ∧ attempt.Follows state (readDelivery deliveryId decrypts tables) := by
  have stages := readDelivery_cases deliveryId decrypts tables
  generalize readDelivery deliveryId decrypts tables = stage at made stages ⊢
  rcases stages with rfl | rfl | ⟨delivery, reason, rfl⟩ | ⟨delivery, rfl⟩
  · cases made
  · cases made
  · cases made
    exact ⟨rfl, rfl, .inl rfl, nofun⟩
  · cases made
    exact ⟨rfl, rfl, rfl, rfl, rfl⟩

theorem read_decided (decided : Decided worker) {index : Nat} {decrypts : Bool} {answer : Answer} {service : State}
    (taken : step worker.service (.read index decrypts) = some service) :
    Decided { worker with
      service := service
      attempts := worker.attempts ++
        ((service.runs[index]?).bind fun run => run.stage.attempt index answer).toList } := by
  have linear := step_linear _ _ _ decided.linear taken
  obtain ⟨run, found, reading, rfl⟩ := read_step taken
  generalize stage : readDelivery run.deliveryId decrypts worker.service.tables = reached at linear ⊢
  have arrived : (worker.service.reach index reached).runs[index]? = some { run with stage := reached } := by
    rw [reach_runs, found, Option.map_some, if_pos rfl]
  have others : ∀ {place : Nat} {other : Run}, worker.service.runs[place]? = some other → other.stage ≠ .reading →
      (worker.service.reach index reached).runs[place]? = some other := by
    intro place other there read
    rw [reach_runs, there, Option.map_some, if_neg]
    rintro rfl
    cases found.symm.trans there
    exact read reading
  rw [arrived, Option.bind_some]
  constructor
  · exact linear
  · intro attempt member
    rcases List.mem_append.mp member with old | new
    · obtain ⟨other, there, follows⟩ := decided.follows attempt old
      refine ⟨other, others there ?_, follows⟩
      intro unread
      rw [unread] at follows
      exact follows
    · obtain ⟨own, follows⟩ := attempt_follows worker.service (stage.symm ▸ Option.mem_toList.mp new)
      rw [stage] at follows
      refine ⟨{ run with stage := reached }, ?_, follows⟩
      rw [own]
      exact arrived
  · intro attempt member entry there cause
    rcases List.mem_append.mp member with old | new
    · exact decided.recorded attempt old entry there cause
    · obtain ⟨own, -⟩ := attempt_follows worker.service (stage.symm ▸ Option.mem_toList.mp new)
      obtain ⟨other, place, read, -⟩ := decided.silent entry there _ cause
      rw [own] at place
      cases found.symm.trans place
      exact absurd reading read
  · -- no attempt of the run is there before
    have unread : ∀ attempt ∈ worker.attempts, attempt.run ≠ index := by
      rintro attempt old rfl
      obtain ⟨other, there, follows⟩ := decided.follows attempt old
      cases found.symm.trans there
      rw [reading] at follows
      exact follows
    intro attempt member other member' same
    rcases List.mem_append.mp member with old | new
    · rcases List.mem_append.mp member' with old' | new'
      · exact decided.single attempt old other old' same
      · obtain ⟨own, -⟩ := attempt_follows worker.service (stage.symm ▸ Option.mem_toList.mp new')
        exact absurd (same.symm.trans own) (unread attempt old)
    · obtain ⟨own, -⟩ := attempt_follows worker.service (stage.symm ▸ Option.mem_toList.mp new)
      rcases List.mem_append.mp member' with old' | new'
      · exact absurd (same.trans own) (unread other old')
      · rw [Option.mem_toList] at new new'
        cases new.symm.trans new'
        rfl
  · intro entry there place cause
    obtain ⟨other, standing, read, asked⟩ := decided.silent entry there place cause
    exact ⟨other, others standing read, read, asked⟩

/-- The end of a request, which may be that the circuit has refused it. -/
theorem respond_decided (decided : Decided worker) {run : Nat} {outcome : Outcome} {now : Int} {service : State}
    (taken : step worker.service (.respond run outcome now) = some service) (provider : Provider.State Nat)
    (change : Attempt → Attempt)
    (kept : ∀ attempt, (change attempt).run = attempt.run ∧ (change attempt).delivery = attempt.delivery ∧
      (change attempt).answer = attempt.answer ∧ (attempt.run ≠ run → change attempt = attempt))
    (ends : ∀ attempt ∈ worker.attempts, attempt.run = run → attempt.answer.isSome = true → attempt.refused = false →
      attempt.faulted = false → (outcome.record attempt.delivery now).1.decision = (change attempt).decision) :
    Decided ⟨service, provider, worker.attempts.map change⟩ := by
  have linear := step_linear _ _ _ decided.linear taken
  obtain ⟨own, delivery, found, requesting, rfl⟩ := respond_step taken
  have unrecorded : ∀ entry ∈ worker.service.log, entry.cause ≠ .recorded run := by
    intro entry member cause
    obtain ⟨other, standing, -, asked⟩ := decided.silent entry member run cause
    cases found.symm.trans standing
    exact asked delivery requesting
  constructor
  · exact linear
  · intro changed member
    obtain ⟨attempt, old, rfl⟩ := List.mem_map.mp member
    obtain ⟨sameRun, sameDelivery, sameAnswer, others⟩ := kept attempt
    obtain ⟨standing, there, follows⟩ := decided.follows attempt old
    rw [sameRun, reach_runs, there, Option.map_some]
    by_cases mine : run = attempt.run
    · rw [if_pos mine]
      rw [mine] at found
      cases found.symm.trans there
      rw [requesting] at follows
      obtain ⟨rfl, asked, unrefused, unfaulted⟩ := follows
      refine ⟨_, rfl, sameDelivery.symm, .inl (ends attempt old mine.symm asked unrefused unfaulted), ?_⟩
      intro _
      rw [sameAnswer]
      exact asked
    · rw [if_neg mine, others (fun same => mine same.symm)]
      exact ⟨standing, rfl, follows⟩
  · intro changed member entry there cause
    obtain ⟨attempt, old, rfl⟩ := List.mem_map.mp member
    obtain ⟨sameRun, sameDelivery, -, others⟩ := kept attempt
    have different : attempt.run ≠ run := by
      intro same
      rw [sameRun, same] at cause
      exact unrecorded entry there cause
    rw [others different] at cause ⊢
    exact decided.recorded attempt old entry there cause
  · intro changed member changed' member' same
    obtain ⟨attempt, old, rfl⟩ := List.mem_map.mp member
    obtain ⟨other, old', rfl⟩ := List.mem_map.mp member'
    rw [(kept attempt).1, (kept other).1] at same
    rw [(kept attempt).2.2.1, (kept other).2.2.1]
    exact decided.single attempt old other old' same
  · intro entry there place cause
    obtain ⟨other, standing, read, asked⟩ := decided.silent entry there place cause
    refine ⟨other, ?_, read, asked⟩
    rw [reach_runs, standing, Option.map_some, if_neg]
    rintro rfl
    exact unrecorded entry there cause

/-- The attempts after a transaction of a run. -/
def faultedAfter (run : Nat) (service : State) (attempt : Attempt) : Attempt :=
  if attempt.run = run ∧ service.hasRecorded run = false then { attempt with faulted := true } else attempt

theorem faultedAfter_fields (run : Nat) (service : State) (attempt : Attempt) :
    (faultedAfter run service attempt).run = attempt.run ∧
      (faultedAfter run service attempt).delivery = attempt.delivery ∧
      (faultedAfter run service attempt).answer = attempt.answer := by
  unfold faultedAfter
  split
  · exact ⟨rfl, rfl, rfl⟩
  · exact ⟨rfl, rfl, rfl⟩

theorem faultedAfter_recorded {run : Nat} {service : State} {attempt : Attempt}
    (recorded : service.hasRecorded attempt.run = true) : faultedAfter run service attempt = attempt := by
  unfold faultedAfter
  rw [if_neg]
  rintro ⟨rfl, unrecorded⟩
  rw [recorded] at unrecorded
  cases unrecorded

/-- A result is the only one of its delivery with its number of attempts. -/
theorem result_unique {state : State} (linear : Linear state) {one other : Entry} {place run : Nat}
    {earlier later : List Entry} (log : state.log = earlier ++ later) (first : one ∈ earlier) (second : other ∈ later)
    (cause : one.cause = .recorded place) (cause' : other.cause = .recorded run)
    (delivery : other.deliveryId = one.deliveryId) (attempts : other.attempts = one.attempts) : False := by
  have numbers : ((state.resultsOf one.deliveryId).map Entry.attempts).Nodup := by
    rw [linear.counted]
    exact List.nodup_range'
  have found : ∀ {entries : List Entry} {entry : Entry} {index : Nat}, entry ∈ entries →
      entry.cause = .recorded index → entry.deliveryId = one.deliveryId →
      entry.attempts ∈ ((entriesOf entries one.deliveryId).filter Entry.isResult).map Entry.attempts := by
    intro entries entry index member cause own
    refine List.mem_map_of_mem (List.mem_filter.mpr ⟨List.mem_filter.mpr ⟨member, by simpa using own⟩, ?_⟩)
    simp [Entry.isResult, cause]
  rw [resultsOf_eq, log, entriesOf_append, List.filter_append, List.map_append] at numbers
  refine (List.nodup_append.mp numbers).2.2 _ (found first cause rfl) _ (found second cause' delivery) attempts.symm

theorem record_decided (decided : Decided worker) {index : Nat} {ending : Ending} {jobId : String}
    {uuids : Nat → Uuid} {first : Char} {message : String} {now : Int} {service : State}
    (taken : step worker.service (.record index ending jobId uuids first message now) = some service) :
    Decided { worker with service := service, attempts := worker.attempts.map (faultedAfter index service) } := by
  have linear := step_linear _ _ _ decided.linear taken
  obtain ⟨run, read, record, caught, stage, found, recording, runs, ends, stored⟩ := record_step taken
  have own : ∀ attempt ∈ worker.attempts, attempt.run = index → read = attempt.delivery ∧
      (record.decision = attempt.decision ∨ worker.service.hasRecorded index = true) ∧
      (caught = true → attempt.answer.isSome = true) := by
    rintro attempt member rfl
    obtain ⟨standing, there, follows⟩ := decided.follows attempt member
    cases found.symm.trans there
    rw [recording] at follows
    exact follows
  have grown : ∀ entry ∈ worker.service.log, entry ∈ service.log := by
    intro entry member
    rcases stored with same | ⟨created, entry', log, -⟩
    · rw [same]
      exact member
    · rw [log]
      exact List.mem_append_left _ member
  have settled : stage ≠ .reading ∧ ∀ delivery, stage ≠ .requesting delivery := by
    rcases ends with rfl | ⟨error, now, rfl⟩
    · exact ⟨Stage.noConfusion, fun _ => Stage.noConfusion⟩
    · exact afterError_settled read caught error now
  -- a result of the run that this transaction stores is its first one
  have fresh : ∀ entry ∈ service.log, ∀ place, entry.cause = .recorded place → entry ∈ worker.service.log ∨
      place = index ∧ entry.deliveryId = read.id ∧ entry.attempts = read.attempts + 1 ∧
        entry.decision = record.decision ∧ ∀ attempt ∈ worker.attempts, attempt.run = index →
          worker.service.hasRecorded index = false := by
    intro entry member place cause
    rcases stored with same | ⟨created, added, log, made, ownCause, delivery, attempts, decision⟩
    · rw [same] at member
      exact .inl member
    · rw [log, List.mem_append, List.mem_append] at member
      rcases member with old | new | new
      · exact .inl old
      · cases (made entry new).symm.trans cause
      · cases List.mem_singleton.mp new
        cases ownCause.symm.trans cause
        refine .inr ⟨rfl, delivery, attempts, decision, ?_⟩
        intro attempt there mine
        rw [Bool.eq_false_iff]
        intro before
        obtain ⟨earlier, place, cause'⟩ := hasRecorded_iff.mp before
        obtain ⟨sameDelivery, sameAttempts, -⟩ := decided.recorded attempt there earlier place (mine.symm ▸ cause')
        obtain ⟨rfl, -⟩ := own attempt there mine
        have last : entry ∈ created ++ [entry] := List.mem_append_right _ (List.mem_singleton_self _)
        exact result_unique linear log place last cause' ownCause (delivery.trans sameDelivery.symm)
          (attempts.trans sameAttempts.symm)
  constructor
  · exact linear
  · intro changed member
    obtain ⟨attempt, old, rfl⟩ := List.mem_map.mp member
    obtain ⟨sameRun, sameDelivery, sameAnswer⟩ := faultedAfter_fields index service attempt
    obtain ⟨standing, there, follows⟩ := decided.follows attempt old
    rw [sameRun, runs, reach_runs, there, Option.map_some]
    by_cases mine : index = attempt.run
    · rw [if_pos mine]
      refine ⟨_, rfl, ?_⟩
      obtain ⟨rfl, decision, asked⟩ := own attempt old mine.symm
      rcases ends with rfl | ⟨error, now, rfl⟩
      · trivial
      · cases caught with
        | false => trivial
        | true =>
          refine ⟨sameDelivery.symm, ?_, nofun⟩
          cases kept : service.hasRecorded index with
          | true =>
            rw [sameRun, ← mine]
            exact .inr kept
          | false =>
            left
            have spoiled : faultedAfter index service attempt = { attempt with faulted := true } :=
              if_pos ⟨mine.symm, kept⟩
            rw [spoiled]
            exact @decision_rejected { attempt with faulted := true } (asked rfl) error now (.inr (.inr rfl))
    · rw [if_neg mine]
      have same : faultedAfter index service attempt = attempt := if_neg fun both => mine both.1.symm
      rw [same]
      exact ⟨standing, rfl, follows.mono grown⟩
  · intro changed member entry there cause
    obtain ⟨attempt, old, rfl⟩ := List.mem_map.mp member
    rw [(faultedAfter_fields index service attempt).1] at cause
    have recorded : service.hasRecorded attempt.run = true := hasRecorded_iff.mpr ⟨entry, there, cause⟩
    rw [faultedAfter_recorded recorded]
    rcases fresh entry there _ cause with earlier | ⟨mine, delivery, attempts, decision, unrecorded⟩
    · exact decided.recorded attempt old entry earlier cause
    · obtain ⟨rfl, decided', -⟩ := own attempt old mine
      refine ⟨delivery, attempts, decision.trans (decided'.resolve_right ?_)⟩
      rw [unrecorded attempt old mine]
      exact Bool.false_ne_true
  · intro changed member changed' member' same
    obtain ⟨attempt, old, rfl⟩ := List.mem_map.mp member
    obtain ⟨other, old', rfl⟩ := List.mem_map.mp member'
    obtain ⟨run₁, -, answer₁⟩ := faultedAfter_fields index service attempt
    obtain ⟨run₂, -, answer₂⟩ := faultedAfter_fields index service other
    rw [run₁, run₂] at same
    rw [answer₁, answer₂]
    exact decided.single attempt old other old' same
  · intro entry there place cause
    rw [runs, reach_runs]
    rcases fresh entry there place cause with earlier | ⟨rfl, -⟩
    · obtain ⟨standing, stood, read', asked⟩ := decided.silent entry earlier place cause
      rw [stood, Option.map_some]
      by_cases mine : index = place
      · rw [if_pos mine]
        exact ⟨_, rfl, settled⟩
      · rw [if_neg mine]
        exact ⟨standing, rfl, read', asked⟩
    · rw [found, Option.map_some, if_pos rfl]
      exact ⟨_, rfl, settled⟩

theorem step_decided (worker : Worker) (action : WorkerAction) (after : Worker) (decided : Decided worker)
    (taken : worker.step action = some after) : Decided after := by
  have unspoilt : ∀ {service : State} {provider : Provider.State Nat}, Decided ⟨service, provider, worker.attempts.map id⟩ →
      Decided ⟨service, provider, worker.attempts⟩ := by
    intro service provider same
    rw [List.map_id] at same
    exact same
  cases action with
  | service action =>
    simp only [Worker.step] at taken
    split at taken
    · cases taken
    · next other =>
      obtain ⟨service, moved, rfl⟩ := Option.map_eq_some_iff.mp taken
      exact service_decided decided moved (Bool.eq_false_iff.mpr other)
  | read index decrypts answer =>
    obtain ⟨service, moved, rfl⟩ := Option.map_eq_some_iff.mp taken
    exact read_decided decided moved
  | request index now later =>
    simp only [Worker.step] at taken
    split at taken
    · next run delivery answer refused faulted member =>
      split at taken
      · split at taken
        · obtain ⟨service, moved, rfl⟩ := Option.map_eq_some_iff.mp taken
          refine respond_decided decided moved _ (fun attempt =>
            if attempt.run = run then { attempt with refused := true } else attempt) ?_ ?_
          · intro attempt
            by_cases mine : attempt.run = run
            · simp only [if_pos mine]
              exact ⟨trivial, trivial, trivial, fun other => absurd mine other⟩
            · simp only [if_neg mine]
              exact ⟨trivial, trivial, trivial, fun _ => trivial⟩
          · intro attempt _ mine asked _ _
            simp only [if_pos mine]
            exact @decision_rejected { attempt with refused := true } asked .circuitOpen later (.inr (.inl rfl))
        · cases taken
          exact ⟨decided.linear, decided.follows, decided.recorded, decided.single, decided.silent⟩
      · cases taken
    · cases taken
  | resume request =>
    obtain ⟨provider, -, rfl⟩ := Option.map_eq_some_iff.mp taken
    exact ⟨decided.linear, decided.follows, decided.recorded, decided.single, decided.silent⟩
  | answer request now later =>
    simp only [Worker.step] at taken
    split at taken
    · next index number running =>
      split at taken
      · next run delivery given refused faulted member =>
        have answered : ∀ {service : State}, Webhooks.step worker.service (.respond run given.outcome later) = some service →
            ∀ provider, Decided ⟨service, provider, worker.attempts⟩ := by
          intro service moved provider
          refine unspoilt (respond_decided decided moved provider id (fun _ => ⟨rfl, rfl, rfl, fun _ => rfl⟩) ?_)
          rintro attempt old rfl - asked unfaulted
          have same : attempt.answer = some given := decided.single _ (List.mem_of_getElem? member) attempt old rfl
          exact outcome_decision same asked unfaulted later
        split at taken
        · obtain ⟨service, moved, rfl⟩ := Option.map_eq_some_iff.mp taken
          exact answered moved _
        · split at taken
          · obtain ⟨service, moved, rfl⟩ := Option.map_eq_some_iff.mp taken
            exact answered moved _
          · cases taken
            exact ⟨decided.linear, decided.follows, decided.recorded, decided.single, decided.silent⟩
      · cases taken
    · cases taken
  | record index ending jobId uuids first message now =>
    obtain ⟨service, moved, rfl⟩ := Option.map_eq_some_iff.mp taken
    exact record_decided decided moved

theorem run_decided {actions : List WorkerAction} (reached : run Worker.step Worker.initial actions = some worker) :
    Decided worker :=
  invariant_run step_decided actions Worker.initial worker initial_decided reached

end Steps

/-- The circuit that all tenants share is the only way from another app's answers to the
results of an app. -/
theorem attempts_independent (app : Uuid) (first second : List WorkerAction) (one another : Worker)
    (reached : run Worker.step Worker.initial first = some one)
    (reached' : run Worker.step Worker.initial second = some another) :
    Independent app one another ↔ SameCircuit app one another := by
  have recorded : ∀ {worker : Worker} {attempt : Attempt} {entry : Entry}, Decided worker →
      attempt ∈ worker.attemptsOf app → entry ∈ worker.resultsOf attempt.run →
      entry.attempts = attempt.delivery.attempts + 1 ∧ entry.decision = attempt.decision := by
    intro worker attempt entry decided member there
    obtain ⟨there, cause⟩ := List.mem_filter.mp there
    exact (decided.recorded attempt (List.mem_filter.mp member).1 entry there (by simpa using cause)).2
  have decided := run_decided reached
  have decided' := run_decided reached'
  constructor
  · intro independent attempt member other member' alike results results' accepted
    obtain ⟨entry, there⟩ := List.exists_mem_of_ne_nil _ results
    obtain ⟨same, there'⟩ := List.exists_mem_of_ne_nil _ results'
    obtain ⟨status, -, key⟩ := independent attempt member other member' alike entry there same there'
    have decision : other.decision = attempt.decision := by
      rw [← (recorded decided member there).2, ← (recorded decided' member' there').2]
      exact Prod.ext status key
    have accepted' : other.accepted = true := by
      unfold Attempt.accepted at accepted ⊢
      rw [alike.2.2.1, alike.2.2.2]
      exact accepted
    have asked : ∀ given : Attempt, given.accepted = true → given.answer.isSome = true := by
      intro given ok
      cases answer : given.answer with
      | none =>
        rw [Attempt.accepted, answer] at ok
        cases ok
      | some _ => rfl
    have apart : ∀ given : Attempt, given.accepted = true → given.refused = true → given.decision.1 ≠ .delivered := by
      intro given ok refused
      rw [← decision_rejected (asked given ok) .circuitOpen 0 (.inr (.inl refused))]
      exact rejected_undelivered given.delivery .circuitOpen 0
    cases refused : attempt.refused with
    | false =>
      rw [Bool.eq_false_iff]
      intro refused'
      apply apart other accepted' refused'
      rw [decision, decision_accepted accepted refused]
    | true =>
      by_contra different
      apply apart attempt accepted refused
      rw [← decision, decision_accepted accepted' (Bool.eq_false_iff.mpr different)]
  · intro circuit attempt member other member' alike entry there same there'
    obtain ⟨attempts, decision⟩ := recorded decided member there
    obtain ⟨attempts', decision'⟩ := recorded decided' member' there'
    have equal : other.decision = attempt.decision := by
      apply decision_alike alike
      exact circuit attempt member other member' alike (List.ne_nil_of_mem there) (List.ne_nil_of_mem there')
    have both := (decision'.trans equal).trans decision.symm
    exact ⟨congrArg Prod.fst both, by rw [attempts, attempts', alike.2.1], congrArg Prod.snd both⟩

def otherApp : Uuid := ⟨"other", by decide, by decide⟩

theorem endpoint_present : "endpoint" ≠ "" := by decide

theorem endpoint_plain : ':' ∉ "endpoint".toList := by decide

theorem rival_present : "rival" ≠ "" := by decide

theorem rival_plain : ':' ∉ "rival".toList := by decide

/-- Five overlapping attempts of another app's delivery, which its endpoint answers so, and
then an attempt that the endpoint of the app accepts. -/
def neighbours (answer : Answer) : List WorkerAction :=
  [.service (.createEndpoint ⟨⟨"endpoint", endpoint_present, endpoint_plain⟩, sampleApp, "https://example.com",
      ["escrow.funded"], some "v2.key.iv.tag.text", .active, none⟩),
    .service (.createEvent sampleApp ⟨"escrow.funded", none, .json "text"⟩ (fun _ => sampleApp) 0),
    .service (.createEndpoint ⟨⟨"rival", rival_present, rival_plain⟩, otherApp, "https://example.org", ["escrow.funded"],
      some "v2.key.iv.tag.text", .active, none⟩),
    .service (.createEvent otherApp ⟨"escrow.funded", none, .json "text"⟩ (fun _ => otherApp) 0),
    .service (.deliver "other"), .service (.deliver "other"), .service (.deliver "other"), .service (.deliver "other"),
    .service (.deliver "other"), .service (.deliver "app"),
    .read 0 true answer, .read 1 true answer, .read 2 true answer, .read 3 true answer, .read 4 true answer,
    .read 5 true (.response 200 "ok"),
    .request 0 1 1, .request 1 1 1, .request 2 1 1, .request 3 1 1, .request 4 1 1,
    .answer 0 2 2, .answer 1 2 2, .answer 2 2 2, .answer 3 2 2, .answer 4 2 2, .request 5 3 3]

/-- The other endpoint accepts its deliveries too. -/
def calmNeighbours : List WorkerAction :=
  neighbours (.response 200 "ok") ++ [.answer 5 4 4, .record 5 .committed "job" sampleIds 'e' "" 5]

/-- The other endpoint fails. -/
def failingNeighbours : List WorkerAction :=
  neighbours (.response 500 "") ++ [.record 5 .committed "job" sampleIds 'e' "" 5]

instance (app : Uuid) (one another : Worker) : Decidable (Independent app one another) :=
  inferInstanceAs (Decidable (∀ attempt ∈ one.attemptsOf app, ∀ other ∈ another.attemptsOf app,
    (other.delivery.id = attempt.delivery.id ∧ other.delivery.attempts = attempt.delivery.attempts ∧
      other.answer = attempt.answer ∧ other.faulted = attempt.faulted) →
    ∀ entry ∈ one.resultsOf attempt.run, ∀ same ∈ another.resultsOf other.run,
      same.status = entry.status ∧ same.attempts = entry.attempts ∧ same.key = entry.key))

theorem neighbours_interfere : ∃ one another, run Worker.step Worker.initial calmNeighbours = some one ∧
    run Worker.step Worker.initial failingNeighbours = some another ∧ ¬Independent sampleApp one another := by
  have observed : ((run Worker.step Worker.initial calmNeighbours).bind fun one =>
      (run Worker.step Worker.initial failingNeighbours).map fun another =>
        decide (Independent sampleApp one another)) = some false := by
    decide +kernel
  obtain ⟨one, reached, rest⟩ := Option.bind_eq_some_iff.mp observed
  obtain ⟨another, reached', seen⟩ := Option.map_eq_some_iff.mp rest
  exact ⟨one, another, reached, reached', of_decide_eq_false seen⟩

theorem neighbours_compared : ∃ one another, run Worker.step Worker.initial calmNeighbours = some one ∧
    run Worker.step Worker.initial failingNeighbours = some another ∧
    (Independent sampleApp one another ↔ SameCircuit sampleApp one another) := by
  have calm : (run Worker.step Worker.initial calmNeighbours).isSome = true := by decide +kernel
  have failing : (run Worker.step Worker.initial failingNeighbours).isSome = true := by decide +kernel
  obtain ⟨one, reached⟩ := Option.isSome_iff_exists.mp calm
  obtain ⟨another, reached'⟩ := Option.isSome_iff_exists.mp failing
  exact ⟨one, another, reached, reached',
    attempts_independent sampleApp calmNeighbours failingNeighbours one another reached reached'⟩

end PactAgent.Webhooks
