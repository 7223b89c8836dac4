import PactAgent.Common.Provider
import PactAgent.Webhooks.System

/-! The worker process: the runs of `deliverWebhookDelivery` that it carries out share the
state of the provider `webhook`, whichever app a delivery is of. -/

namespace PactAgent.Webhooks
open Foundation Common

/-- What a request to an endpoint comes to, should it be sent. -/
inductive Answer
  | response (status : Nat) (snippet : String)
  | thrown (retryable : Bool)
  deriving DecidableEq, Repr

/-- `response.ok`. -/
def Answer.ok : Answer → Bool
  | .response status _ => 200 ≤ status && status ≤ 299
  | .thrown _ => false

/-- `classifyProviderFailure` of what the request throws. -/
def Answer.retryable : Answer → Bool
  | .response status _ => status = 408 || status = 425 || status = 429 || 500 ≤ status
  | .thrown retryable => retryable

/-- The end of the request; `assertProviderResponse` throws for a response that is not ok. -/
def Answer.outcome : Answer → Outcome
  | .response status snippet =>
      if 200 ≤ status ∧ status ≤ 299 then .response status snippet else .failed (.providerStatus status)
  | .thrown _ => .failed .requestFailed

/-- A run that has read its delivery. `answer` is what the endpoint answers when it is asked,
and nothing when the endpoint cannot be delivered to. The flags are for the proofs only. -/
structure Attempt where
  run : Nat
  delivery : WebhookDelivery
  answer : Option Answer
  /-- The circuit was open when the run came to its request. -/
  refused : Bool
  /-- A transaction of the run has ended with no result of it stored. -/
  faulted : Bool
  deriving DecidableEq

structure Worker where
  service : State
  provider : Provider.State Nat
  attempts : List Attempt

def Worker.initial : Worker := ⟨Webhooks.initial, Provider.initial, []⟩

/-- The parameters that `deliverWebhookDelivery` passes. -/
def webhookLimits : Provider.Limits := { maxAttempts := 1, concurrency := 20 }

inductive WorkerAction
  /-- A step that is not one of the three below. -/
  | service (action : Action)
  | read (run : Nat) (decrypts : Bool) (answer : Answer)
  /-- An attempt comes to its request at `now`. -/
  | request (attempt : Nat) (now later : Int)
  | resume (request : Nat)
  /-- The request of an attempt ends at `now`. -/
  | answer (request : Nat) (now later : Int)
  | record (run : Nat) (ending : Ending) (jobId : String) (uuids : Nat → Uuid) (first : Char) (message : String)
      (now : Int)

/-- The attempt of a run that has just read. -/
def Stage.attempt (run : Nat) (answer : Answer) : Stage → Option Attempt
  | .requesting delivery => some ⟨run, delivery, some answer, false, false⟩
  | .recording delivery _ _ => some ⟨run, delivery, none, false, false⟩
  | _ => none

/-- The steps that a worker takes through the actions of its own. -/
def Action.ofWorker : Action → Bool
  | .read .. | .respond .. | .record .. => true
  | _ => false

/-- Whether a result of the run is in the log. -/
def State.hasRecorded (state : State) (run : Nat) : Bool :=
  state.log.any fun entry => entry.cause = .recorded run

def Worker.step (worker : Worker) : WorkerAction → Option Worker
  | .service action =>
      if action.ofWorker then none
      else (Webhooks.step worker.service action).map fun service => { worker with service := service }
  | .read index decrypts answer =>
      (Webhooks.step worker.service (.read index decrypts)).map fun service =>
        { worker with
          service := service
          attempts := worker.attempts ++
            ((service.runs[index]?).bind fun run => run.stage.attempt index answer).toList }
  | .request index now later =>
      match worker.attempts[index]? with
      | some ⟨run, delivery, some _, _, _⟩ =>
          if (worker.service.runs[run]?).map Run.stage = some (.requesting delivery)
              ∧ ∀ request ∈ worker.provider.requests, request.label ≠ index then
            let provider := worker.provider.enter webhookLimits index now
            if worker.provider.circuitOpen now then
              (Webhooks.step worker.service (.respond run (.failed .circuitOpen) later)).map fun service =>
                ⟨service, provider, worker.attempts.map fun attempt =>
                  if attempt.run = run then { attempt with refused := true } else attempt⟩
            else some { worker with provider := provider }
          else none
      | _ => none
  | .resume request =>
      (worker.provider.resume request).map fun provider => { worker with provider := provider }
  | .answer request now later =>
      match worker.provider.requests[request]? with
      | some ⟨index, .running number⟩ =>
          match worker.attempts[index]? with
          | some ⟨run, _, some answer, _, _⟩ =>
              if answer.ok then
                (Webhooks.step worker.service (.respond run answer.outcome later)).map fun service =>
                  { worker with service := service, provider := worker.provider.succeed request }
              else if !answer.retryable || number = webhookLimits.maxAttempts then
                (Webhooks.step worker.service (.respond run answer.outcome later)).map fun service =>
                  { worker with
                    service := service
                    provider := worker.provider.fail webhookLimits request number answer.retryable now }
              else some { worker with
                provider := worker.provider.fail webhookLimits request number answer.retryable now }
          | _ => none
      | _ => none
  | .record run ending jobId uuids first message now =>
      (Webhooks.step worker.service (.record run ending jobId uuids first message now)).map fun service =>
        { worker with
          service := service
          attempts := worker.attempts.map fun attempt =>
            if attempt.run = run ∧ service.hasRecorded run = false then { attempt with faulted := true } else attempt }

end PactAgent.Webhooks
