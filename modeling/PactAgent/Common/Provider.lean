import Mathlib

/-! Requests to a provider: the circuit, the slots and the requests that wait for one.
The requests of one process share this state. -/

namespace PactAgent.Common.Provider

/-- The parameters of `executeProviderRequest`. -/
structure Limits where
  maxAttempts : Nat := 3
  concurrency : Nat := 10
  failureThreshold : Nat := 5
  circuitResetMs : Nat := 30000

/-- The point that a call of `executeProviderRequest` has reached. -/
inductive Phase
  /-- The circuit was open. -/
  | refused
  | waiting
  /-- Its waiter is resolved, and it has not taken the slot yet. -/
  | resumed
  | running (attempt : Nat)
  | succeeded
  | failed
  deriving DecidableEq, Repr

structure Request (Label : Type) where
  label : Label
  phase : Phase
  deriving DecidableEq

structure State (Label : Type) where
  failures : Nat
  openUntil : Int
  active : Nat
  /-- The requests that wait, by their place. -/
  waiters : List Nat
  requests : List (Request Label)

variable {Label : Type}

def initial : State Label := ⟨0, 0, 0, [], []⟩

def State.circuitOpen (state : State Label) (now : Int) : Bool := now < state.openUntil

def State.reach (state : State Label) (index : Nat) (phase : Phase) : State Label :=
  { state with requests := state.requests.modify index fun request => { request with phase := phase } }

/-- `acquire`, for a request that comes to the end of the list. -/
def State.acquire (state : State Label) (limits : Limits) (label : Label) : State Label :=
  if limits.concurrency ≤ state.active then
    { state with waiters := state.waiters ++ [state.requests.length], requests := state.requests ++ [⟨label, .waiting⟩] }
  else { state with active := state.active + 1, requests := state.requests ++ [⟨label, .running 1⟩] }

/-- The part of `executeProviderRequest` before its first `await`. -/
def State.enter (state : State Label) (limits : Limits) (label : Label) (now : Int) : State Label :=
  if state.circuitOpen now then { state with requests := state.requests ++ [⟨label, .refused⟩] }
  else { state with openUntil := 0 }.acquire limits label

/-- A resolved waiter takes its slot. It does not look at the number of active requests again. -/
def State.resume (state : State Label) (index : Nat) : Option (State Label) :=
  match state.requests[index]? with
  | some ⟨_, .resumed⟩ => some ({ state with active := state.active + 1 }.reach index (.running 1))
  | _ => none

def State.release (state : State Label) : State Label :=
  let state := { state with active := state.active - 1 }
  match state.waiters with
  | [] => state
  | next :: waiters => { state with waiters := waiters }.reach next .resumed

def State.succeed (state : State Label) (index : Nat) : State Label :=
  ({ state with failures := 0 }.reach index .succeeded).release

/-- The count of a failure, which may open the circuit. -/
def State.trip (state : State Label) (limits : Limits) (now : Int) : State Label :=
  let state := { state with failures := state.failures + 1 }
  if limits.failureThreshold ≤ state.failures then { state with openUntil := now + limits.circuitResetMs } else state

/-- An attempt that has thrown: the request runs again, or it fails. -/
def State.fail (state : State Label) (limits : Limits) (index attempt : Nat) (retryable : Bool) (now : Int) : State Label :=
  if !retryable || attempt = limits.maxAttempts then ((state.trip limits now).reach index .failed).release
  else state.reach index (.running (attempt + 1))

end PactAgent.Common.Provider
