import PactAgent.Auth.Binding
import PactAgent.Auth.SingleUse

/-! Concurrent sign-ins: between the read of a challenge, its consumption and the issue of a token
any other call may run. -/

namespace PactAgent.Auth.Tokens
open PactAgent.Common PactAgent.Foundation PactAgent.Foundation.Execution
open PactAgent.Auth.ChallengeStore PactAgent.Auth.Session PactAgent.Auth.SingleUse

section Stages
variable (platform : Platform) (config : AuthConfig)

/-- What `verifyChallenge` checks between its read and its consume. -/
def verifyChecks (params : VerifyParams) (checkedAt : Nat) (challenge : Option AuthChallengeRecord) :
    Except Failure Unit :=
  let normalized := normalizeWalletAddress platform params.address
  match challenge with
  | none => .error (.other "Authentication challenge not found. Please request a new one.")
  | some challenge =>
      if challenge.expiresAt < checkedAt then
        .error (.other "Authentication challenge has expired. Please request a new one.")
      else if challenge.address ≠ normalized ∨ challenge.message ≠ params.message then
        .error (.other "Challenge message mismatch.")
      else
        match platform.verifyMessage params.message params.signature with
        | .error failure => .error failure
        | .ok false => .error (.other "Wallet signature verification failed.")
        | .ok true =>
            match deriveAddressFromSignatureIdentity platform params.signature normalized with
            | .error failure => .error failure
            | .ok derivedAddress =>
                if normalizeWalletAddress platform derivedAddress ≠ normalized then
                  .error (.other "Signed wallet address does not match the requested account.")
                else .ok ()

def issueSession (params : VerifyParams) (issuedAt : Nat) : Except Failure IssuedSession :=
  let normalized := normalizeWalletAddress platform params.address
  match platform.jwtSign normalized issuedAt with
  | .error failure => .error failure
  | .ok token =>
      .ok ⟨token, normalized, isAdminAddress platform config normalized, issuedAt + config.authTokenTtlSecs * 1000⟩

/-- The stages one after the other are the function. -/
theorem verifyChallenge_stages {Store : Type} (store : AuthChallengeStore Store) (params : VerifyParams)
    (times : CallTimes) (state : Store) :
    verifyChallenge platform config store params times state =
      match store.get (normalizeWalletAddress platform params.address) times.readAt state with
      | (challenge, state) =>
          match verifyChecks platform params times.checkedAt challenge with
          | .error failure => (.error failure, state)
          | .ok () =>
              match store.consume (normalizeWalletAddress platform params.address) params.message times.consumedAt state with
              | (false, state) =>
                  (.error (.other "Authentication challenge was already consumed. Please request a new one."), state)
              | (true, state) => (issueSession platform config params times.issuedAt, state) := by
  unfold verifyChallenge verifyChecks issueSession
  dsimp -iota only
  generalize store.get (normalizeWalletAddress platform params.address) times.readAt state = found
  obtain ⟨challenge, after⟩ := found
  cases challenge with
  | none => rfl
  | some challenge =>
    dsimp only
    split_ifs
    · rfl
    · rfl
    · cases platform.verifyMessage params.message params.signature with
      | error failure => rfl
      | ok valid =>
        cases valid with
        | false => rfl
        | true =>
          dsimp only
          generalize deriveAddressFromSignatureIdentity platform params.signature
            (normalizeWalletAddress platform params.address) = derivation
          cases derivation with
          | error failure => rfl
          | ok derived =>
            dsimp only
            split_ifs
            · rfl
            · dsimp only
              generalize store.consume (normalizeWalletAddress platform params.address) params.message
                times.consumedAt after = consumed
              obtain ⟨result, last⟩ := consumed
              cases result with
              | false => rfl
              | true => cases platform.jwtSign (normalizeWalletAddress platform params.address) times.issuedAt <;> rfl

end Stages

section System

/-- How far a call of `verifyChallenge` has come: what it has read, or where its consume stands in
the history. -/
inductive Stage
  | read (challenge : Option AuthChallengeRecord)
  | consumed (position : Nat)
  | closed

structure Verify where
  params : VerifyParams
  stage : Stage

structure Token where
  session : IssuedSession
  message : String
  position : Nat

structure Sessions (State : Type) where
  world : World State
  verifies : List Verify
  tokens : List Token

/-- A call of the store from elsewhere, such as the put of a new challenge, or a stage of a sign-in. -/
inductive Act
  | store (call : Call)
  | start (params : VerifyParams) (readAt : Nat)
  | consume (index checkedAt consumedAt : Nat)
  | issue (index issuedAt : Nat)

variable (platform : Platform) (config : AuthConfig) {State : Type} (machine : Machine State)

def Sessions.initial : Sessions State := ⟨World.initial machine, [], []⟩

def act (sessions : Sessions State) : Act → Option (Sessions State)
  | .store call => (step machine sessions.world call).map fun world => { sessions with world := world }
  | .start params readAt =>
      let normalized := normalizeWalletAddress platform params.address
      (step machine sessions.world (.get normalized readAt)).map fun world =>
        { sessions with
          world := world
          verifies := sessions.verifies ++
            [⟨params, .read (machine.store.get normalized readAt sessions.world.store).1⟩] }
  | .consume index checkedAt consumedAt =>
      match sessions.verifies[index]? with
      | some ⟨params, .read challenge⟩ =>
          match verifyChecks platform params checkedAt challenge with
          | .error _ => some { sessions with verifies := sessions.verifies.set index ⟨params, .closed⟩ }
          | .ok () =>
              (step machine sessions.world
                  (.consume (normalizeWalletAddress platform params.address) params.message consumedAt)).map fun world =>
                { sessions with
                  world := world
                  verifies := sessions.verifies.set index ⟨params, .consumed sessions.world.history.length⟩ }
      | _ => none
  | .issue index issuedAt =>
      match sessions.verifies[index]? with
      | some ⟨params, .consumed position⟩ =>
          match sessions.world.history[position]?, issueSession platform config params issuedAt with
          | some (.consume _ _ _ true), .ok session =>
              some ⟨sessions.world, sessions.verifies.set index ⟨params, .closed⟩,
                sessions.tokens ++ [⟨session, params.message, position⟩]⟩
          | _, _ => some { sessions with verifies := sessions.verifies.set index ⟨params, .closed⟩ }
      | _ => none

/-- The call of the store that an act makes. -/
def Act.call (sessions : Sessions State) : Act → Option Call
  | .store call => some call
  | .start params readAt => some (.get (normalizeWalletAddress platform params.address) readAt)
  | .consume index _ consumedAt =>
      sessions.verifies[index]?.map fun verify =>
        .consume (normalizeWalletAddress platform verify.params.address) verify.params.message consumedAt
  | .issue _ _ => none

def Act.Orderly (addresses : Set String) (sessions : Sessions State) (taken : Act) : Prop :=
  ∀ call ∈ taken.call platform sessions, SingleUse.Orderly sessions.world call ∧ call.within addresses

instance {addresses : Set String} [DecidablePred (· ∈ addresses)] (sessions : Sessions State) (taken : Act) :
    Decidable (taken.Orderly platform addresses sessions) :=
  inferInstanceAs (Decidable (∀ call ∈ taken.call platform sessions, _ ∧ _))

/-- Between the consumes of two tokens for one address there is a put for it: one token a challenge. -/
def OneToken (sessions : Sessions State) : Prop :=
  ∀ (i j : Nat) (first second : Token), i ≠ j → sessions.tokens[i]? = some first → sessions.tokens[j]? = some second →
    first.session.address = second.session.address →
    ∃ k event, min first.position second.position < k ∧ k < max first.position second.position ∧
      sessions.world.history[k]? = some event ∧ event.puts first.session.address = true

/-- Every token rests on a consume that answered true, and that one on the latest put. -/
def TokenConsumed (sessions : Sessions State) : Prop :=
  ∀ token ∈ sessions.tokens, ∃ now, sessions.world.history[token.position]? =
    some (.consume token.session.address token.message now true)

end System

section Invariant
variable {platform : Platform} {config : AuthConfig} {State : Type} {machine : Machine State}

/-- A call of the store adds at most one event. -/
theorem step_history {world next : World State} {call : Call} (taken : step machine world call = some next) :
    ∃ added, next.history = world.history ++ added := by
  cases call with
  | delete index =>
    simp only [step] at taken
    split at taken
    · cases taken
      exact ⟨[], (List.append_nil _).symm⟩
    · cases taken
  | put record ttlMs now =>
    simp only [step] at taken
    split at taken
    · cases taken
      exact ⟨_, rfl⟩
    · cases taken
  | get address now =>
    simp only [step] at taken
    split at taken
    · cases taken
      exact ⟨_, rfl⟩
    · cases taken
  | consume address message now =>
    simp only [step] at taken
    split at taken
    · cases taken
      exact ⟨_, rfl⟩
    · cases taken

/-- Where the consumes of the sign-ins and of the tokens stand: each in its own place. -/
structure Positioned (platform : Platform) (sessions : Sessions State) : Prop where
  token : TokenConsumed sessions
  waiting : ∀ (index : Nat) (params : VerifyParams) (position : Nat),
    sessions.verifies[index]? = some ⟨params, .consumed position⟩ → ∃ now result, sessions.world.history[position]? =
      some (.consume (normalizeWalletAddress platform params.address) params.message now result)
  apart : ∀ (i j : Nat) (params params' : VerifyParams) (position : Nat),
    sessions.verifies[i]? = some ⟨params, .consumed position⟩ →
    sessions.verifies[j]? = some ⟨params', .consumed position⟩ → i = j
  fresh : ∀ (index : Nat) (params : VerifyParams) (position : Nat),
    sessions.verifies[index]? = some ⟨params, .consumed position⟩ → ∀ token ∈ sessions.tokens, token.position ≠ position
  distinct : ∀ (i j : Nat) (first second : Token), sessions.tokens[i]? = some first →
    sessions.tokens[j]? = some second → first.position = second.position → i = j

variable {sessions : Sessions State}

theorem Positioned.initial : Positioned platform (Sessions.initial machine) where
  token _ member := by cases member
  waiting _ _ _ found := by cases found
  apart _ _ _ _ _ found := by cases found
  fresh _ _ _ found := by cases found
  distinct _ _ _ _ found := by cases found

/-- Events of the past stay where they are, and a sign-in that has not consumed changes nothing. -/
theorem Positioned.extend (positioned : Positioned platform sessions) {world : World State} {added : List Event}
    (extended : world.history = sessions.world.history ++ added) {verifies : List Verify}
    (kept : ∀ (index : Nat) (params : VerifyParams) (position : Nat),
      verifies[index]? = some ⟨params, .consumed position⟩ →
      sessions.verifies[index]? = some ⟨params, .consumed position⟩) :
    Positioned platform ⟨world, verifies, sessions.tokens⟩ := by
  have past : ∀ (position : Nat) (event : Event), sessions.world.history[position]? = some event →
      world.history[position]? = some event := by
    intro position event found
    rw [extended, List.getElem?_append_left (List.getElem?_eq_some_iff.mp found).1, found]
  refine ⟨?_, ?_, ?_, ?_, positioned.distinct⟩
  · intro token member
    obtain ⟨now, found⟩ := positioned.token token member
    exact ⟨now, past _ _ found⟩
  · intro index params position waits
    obtain ⟨now, result, found⟩ := positioned.waiting index params position (kept _ _ _ waits)
    exact ⟨now, result, past _ _ found⟩
  · intro i j params params' position waits waits'
    exact positioned.apart i j params params' position (kept _ _ _ waits) (kept _ _ _ waits')
  · intro index params position waits
    exact positioned.fresh index params position (kept _ _ _ waits)

theorem kept_closed {verifies : List Verify} {index other : Nat} {params params' : VerifyParams} {position : Nat}
    (waits : (verifies.set index ⟨params, .closed⟩)[other]? = some ⟨params', .consumed position⟩) :
    index ≠ other ∧ verifies[other]? = some ⟨params', .consumed position⟩ := by
  rw [List.getElem?_set] at waits
  split at waits
  · split at waits <;> cases waits
  · next different => exact ⟨different, waits⟩

theorem step_consume {world next : World State} {address message : String} {now : Nat}
    (taken : step machine world (.consume address message now) = some next) :
    ∃ result, next.history = world.history ++ [.consume address message now result] := by
  simp only [step] at taken
  split at taken
  · cases taken
    exact ⟨_, rfl⟩
  · cases taken

/-- A consume takes the next place of the history. -/
theorem Positioned.consumed (positioned : Positioned platform sessions) {world : World State} {index now : Nat}
    {params : VerifyParams} {result : Bool}
    (extended : world.history = sessions.world.history ++
      [.consume (normalizeWalletAddress platform params.address) params.message now result]) :
    Positioned platform ⟨world,
      sessions.verifies.set index ⟨params, .consumed sessions.world.history.length⟩, sessions.tokens⟩ := by
  have past : ∀ (position : Nat) (event : Event), sessions.world.history[position]? = some event →
      world.history[position]? = some event := by
    intro position event found
    rw [extended, List.getElem?_append_left (List.getElem?_eq_some_iff.mp found).1, found]
  have entry : ∀ (other : Nat) (params' : VerifyParams) (position : Nat),
      (sessions.verifies.set index ⟨params, .consumed sessions.world.history.length⟩)[other]? =
        some ⟨params', .consumed position⟩ →
      (index = other ∧ params' = params ∧ position = sessions.world.history.length) ∨
        sessions.verifies[other]? = some ⟨params', .consumed position⟩ := by
    intro other params' position waits
    rw [List.getElem?_set] at waits
    split at waits
    · next same =>
      split at waits
      · cases waits
        exact .inl ⟨same, rfl, rfl⟩
      · cases waits
    · exact .inr waits
  have bound : ∀ (other : Nat) (params' : VerifyParams) (position : Nat),
      sessions.verifies[other]? = some ⟨params', .consumed position⟩ → position < sessions.world.history.length := by
    intro other params' position waits
    obtain ⟨_, _, found⟩ := positioned.waiting other params' position waits
    exact (List.getElem?_eq_some_iff.mp found).1
  refine ⟨?_, ?_, ?_, ?_, positioned.distinct⟩
  · intro token member
    obtain ⟨now', found⟩ := positioned.token token member
    exact ⟨now', past _ _ found⟩
  · intro other params' position waits
    rcases entry other params' position waits with ⟨-, rfl, rfl⟩ | old
    · exact ⟨now, result, by rw [extended, List.getElem?_concat_length]⟩
    · obtain ⟨now', result', found⟩ := positioned.waiting other params' position old
      exact ⟨now', result', past _ _ found⟩
  · intro i j first second position waits waits'
    rcases entry i first position waits with ⟨rfl, -, rfl⟩ | old <;>
      rcases entry j second _ waits' with ⟨rfl, -, last⟩ | old'
    · rfl
    · exact absurd (bound j second _ old') (lt_irrefl _)
    · subst last
      exact absurd (bound i first _ old) (lt_irrefl _)
    · exact positioned.apart i j first second position old old'
  · intro other params' position waits token member
    rcases entry other params' position waits with ⟨-, -, rfl⟩ | old
    · obtain ⟨now', found⟩ := positioned.token token member
      exact (List.getElem?_eq_some_iff.mp found).1.ne
    · exact positioned.fresh other params' position old token member

/-- A token takes over the place of its consume. -/
theorem Positioned.issued (positioned : Positioned platform sessions) {index position now : Nat} {params : VerifyParams}
    {address message : String} {session : IssuedSession} {issuedAt : Nat}
    (waiting : sessions.verifies[index]? = some ⟨params, .consumed position⟩)
    (found : sessions.world.history[position]? = some (.consume address message now true))
    (issued : issueSession platform config params issuedAt = .ok session) :
    Positioned platform ⟨sessions.world, sessions.verifies.set index ⟨params, .closed⟩,
      sessions.tokens ++ [⟨session, params.message, position⟩]⟩ := by
  have own : session.address = normalizeWalletAddress platform params.address := by
    unfold issueSession at issued
    dsimp only at issued
    split at issued
    · cases issued
    · cases issued
      rfl
  refine ⟨?_, ?_, ?_, ?_, ?_⟩
  · intro token member
    rcases List.mem_append.mp member with old | last
    · exact positioned.token token old
    · rw [List.mem_singleton.mp last]
      obtain ⟨now', result, event⟩ := positioned.waiting index params position waiting
      cases found.symm.trans event
      exact ⟨now, by rw [own]; exact found⟩
  · intro other params' position' waits
    exact positioned.waiting other params' position' (kept_closed waits).2
  · intro i j first second position' waits waits'
    exact positioned.apart i j first second position' (kept_closed waits).2 (kept_closed waits').2
  · intro other params' position' waits token member
    obtain ⟨different, old⟩ := kept_closed waits
    rcases List.mem_append.mp member with earlier | last
    · exact positioned.fresh other params' position' old token earlier
    · rw [List.mem_singleton.mp last]
      intro same
      subst same
      exact different (positioned.apart index other params params' position waiting old)
  · intro i j first second here there same
    have last : ∀ (k : Nat) (token : Token),
        (sessions.tokens ++ [⟨session, params.message, position⟩])[k]? = some token →
        (k = sessions.tokens.length ∧ token.position = position) ∨ sessions.tokens[k]? = some token := by
      intro k token inside
      rcases Nat.lt_or_ge k sessions.tokens.length with before | beyond
      · exact .inr (by rwa [List.getElem?_append_left before] at inside)
      · rw [List.getElem?_append_right beyond, List.getElem?_singleton] at inside
        split at inside
        · next zero =>
          cases inside
          exact .inl ⟨by omega, rfl⟩
        · cases inside
    rcases last i first here with ⟨rfl, place⟩ | old <;> rcases last j second there with ⟨rfl, place'⟩ | old'
    · rfl
    · exact absurd (same.symm.trans place) (positioned.fresh index params position waiting second (List.mem_of_getElem? old'))
    · exact absurd (same.trans place') (positioned.fresh index params position waiting first (List.mem_of_getElem? old))
    · exact positioned.distinct i j first second old old' same

/-- Every act leaves the consumes in their places. -/
theorem act_positioned {taken : Act} {next : Sessions State} (positioned : Positioned platform sessions)
    (done : act platform config machine sessions taken = some next) : Positioned platform next := by
  cases taken with
  | store call =>
    obtain ⟨world, stepped, rfl⟩ := Option.map_eq_some_iff.mp done
    obtain ⟨added, extended⟩ := step_history stepped
    exact positioned.extend extended fun _ _ _ waits => waits
  | start params readAt =>
    obtain ⟨world, stepped, rfl⟩ := Option.map_eq_some_iff.mp done
    obtain ⟨added, extended⟩ := step_history stepped
    apply positioned.extend extended
    intro index params' position waits
    rcases Nat.lt_or_ge index sessions.verifies.length with inside | beyond
    · rwa [List.getElem?_append_left inside] at waits
    · rw [List.getElem?_append_right beyond, List.getElem?_singleton] at waits
      split at waits <;> cases waits
  | consume index checkedAt consumedAt =>
    simp only [act] at done
    split at done
    · next params challenge reading =>
      split at done
      · cases done
        exact positioned.extend (List.append_nil _).symm fun _ _ _ waits => (kept_closed waits).2
      · obtain ⟨world, stepped, rfl⟩ := Option.map_eq_some_iff.mp done
        obtain ⟨result, extended⟩ := step_consume stepped
        exact positioned.consumed extended
    · cases done
  | issue index issuedAt =>
    simp only [act] at done
    split at done
    · next params position waiting =>
      split at done
      · next session found issued =>
        cases done
        exact positioned.issued waiting found issued
      · cases done
        exact positioned.extend (List.append_nil _).symm fun _ _ _ waits => (kept_closed waits).2
    · cases done

/-- An act changes the store by the call that it makes. -/
theorem act_world {taken : Act} {next : Sessions State} (done : act platform config machine sessions taken = some next) :
    next.world = sessions.world ∨ ∃ call ∈ taken.call platform sessions, step machine sessions.world call = some next.world := by
  cases taken with
  | store call =>
    obtain ⟨world, stepped, rfl⟩ := Option.map_eq_some_iff.mp done
    exact .inr ⟨call, rfl, stepped⟩
  | start params readAt =>
    obtain ⟨world, stepped, rfl⟩ := Option.map_eq_some_iff.mp done
    exact .inr ⟨_, rfl, stepped⟩
  | consume index checkedAt consumedAt =>
    simp only [act] at done
    split at done
    · next params challenge reading =>
      split at done
      · cases done
        exact .inl rfl
      · obtain ⟨world, stepped, rfl⟩ := Option.map_eq_some_iff.mp done
        refine .inr ⟨_, ?_, stepped⟩
        simp only [Act.call, reading]
        rfl
    · cases done
  | issue index issuedAt =>
    simp only [act] at done
    split at done
    · split at done <;> cases done <;> exact .inl rfl
    · cases done

variable {addresses : Set String} {view : State → String → Nat → Option AuthChallengeRecord}

/-- In an orderly run of sign-ins each token rests on its own consume, and there is one token a challenge. -/
theorem tokens_once (shows : Shows machine addresses view) {script : List Act} {final : Sessions State}
    (reached : run (act platform config machine) (Sessions.initial machine) script = some final)
    (met : AlongRun (act platform config machine) (fun sessions taken => taken.Orderly platform addresses sessions)
      (Sessions.initial machine) script) : OneToken final ∧ TokenConsumed final := by
  have preserved : ∀ (sessions : Sessions State) (taken : Act) (next : Sessions State),
      Reflects addresses view sessions.world ∧ Positioned platform sessions → taken.Orderly platform addresses sessions →
      act platform config machine sessions taken = some next →
      Reflects addresses view next.world ∧ Positioned platform next := by
    rintro sessions taken next ⟨reflects, positioned⟩ orderly done
    refine ⟨?_, act_positioned positioned done⟩
    rcases act_world done with same | ⟨call, called, stepped⟩
    · rw [same]
      exact reflects
    · obtain ⟨ordered, within⟩ := orderly call called
      exact reflects.step shows ordered within stepped
  obtain ⟨reflects, positioned⟩ := invariant_along preserved script _ _
    ⟨Reflects.initial shows, Positioned.initial⟩ met reached
  refine ⟨?_, positioned.token⟩
  intro i j first second different here there same
  obtain ⟨now, found⟩ := positioned.token first (List.mem_of_getElem? here)
  obtain ⟨now', found'⟩ := positioned.token second (List.mem_of_getElem? there)
  have apart : first.position ≠ second.position := fun equal => different (positioned.distinct i j first second here there equal)
  have consumes : ∀ address message time, (Event.consume address message time true).consumes address = true := by
    simp [Event.consumes]
  rcases Nat.lt_or_gt_of_ne apart with before | behind
  · rw [min_eq_left before.le, max_eq_right before.le]
    exact reflects.lawful.singleUse _ _ _ _ _ before found found' (consumes _ _ _) (by rw [same]; exact consumes _ _ _)
  · rw [min_eq_right behind.le, max_eq_left behind.le]
    exact reflects.lawful.singleUse _ _ _ _ _ behind found' found (by rw [same]; exact consumes _ _ _) (consumes _ _ _)

end Invariant

section Main

/-- In orderly runs both stores give every challenge away once, only for the latest message, and
with the same histories; and a sign-in issues one token a challenge. -/
theorem challenges_single_use (platform : Platform) (config : AuthConfig) (sha256 : String → String)
    (addresses : Set String) (injective : Set.InjOn sha256 addresses) :
    (∀ history ∈ Histories memory addresses, SingleUse history ∧ LatestOnly history) ∧
    (∀ history ∈ Histories (redis sha256) addresses, SingleUse history ∧ LatestOnly history) ∧
    Histories memory addresses = Histories (redis sha256) addresses ∧
    (∀ script final, run (act platform config memory) (Sessions.initial memory) script = some final →
      AlongRun (act platform config memory) (fun sessions taken => taken.Orderly platform addresses sessions)
        (Sessions.initial memory) script → OneToken final ∧ TokenConsumed final) ∧
    (∀ script final, run (act platform config (redis sha256)) (Sessions.initial (redis sha256)) script = some final →
      AlongRun (act platform config (redis sha256)) (fun sessions taken => taken.Orderly platform addresses sessions)
        (Sessions.initial (redis sha256)) script → OneToken final ∧ TokenConsumed final) := by
  refine ⟨?_, ?_, histories_eq memory_shows (redis_shows injective), ?_, ?_⟩
  · intro history member
    have lawful := Histories.lawful memory_shows member
    exact ⟨lawful.singleUse, lawful.latestOnly⟩
  · intro history member
    have lawful := Histories.lawful (redis_shows injective) member
    exact ⟨lawful.singleUse, lawful.latestOnly⟩
  · exact fun script final reached met => tokens_once memory_shows reached met
  · exact fun script final reached met => tokens_once (redis_shows injective) reached met

/-- A challenge for the own address, which a sign-in uses. -/
def ownChallenge : AuthChallengeRecord := ⟨Binding.ownAddress, Binding.sampleMessage Binding.ownAddress, 1787789100000⟩

def ownParams : VerifyParams := ⟨Binding.ownAddress, Binding.sampleMessage Binding.ownAddress, Binding.ownSignature⟩

def ownSignIn : List Act :=
  [.store (.put ownChallenge 300000 1787788800000), .start ownParams 1787788801000,
    .consume 0 1787788801000 1787788801001, .store (.delete 0), .issue 0 1787788801002]

theorem ownSignIn_once : ∃ final, run (act Binding.samplePlatform Binding.sampleConfig memory) (Sessions.initial memory)
    ownSignIn = some final ∧ final.tokens.length = 1 ∧ OneToken final ∧ TokenConsumed final := by
  have counted : (run (act Binding.samplePlatform Binding.sampleConfig memory) (Sessions.initial memory) ownSignIn).map
      (fun final => final.tokens.length) = some 1 := by decide +kernel
  obtain ⟨final, reached, one⟩ := Option.map_eq_some_iff.mp counted
  have single := (challenges_single_use Binding.samplePlatform Binding.sampleConfig (fun text => text)
    {Binding.ownAddress} (Set.injOn_singleton _ _)).2.2.2.1
  exact ⟨final, reached, one, single ownSignIn final reached (by decide +kernel)⟩

/-- Two overlapping consumes of the memory store both answer true. -/
theorem memory_consumed_twice :
    ¬∀ (script : List Call) (world : World ChallengeStore.Memory.Records),
      run (step memory) (World.initial memory) script = some world → SingleUse world.history := by
  intro once
  have twice : (run (step memory) (World.initial memory) [.put ownChallenge 300000 1787788800000,
      .consume Binding.ownAddress ownChallenge.message 1787788801000,
      .consume Binding.ownAddress ownChallenge.message 1787788801000]).map (fun world => world.history) =
      some [.put ownChallenge 300000 1787788800000,
        .consume Binding.ownAddress ownChallenge.message 1787788801000 true,
        .consume Binding.ownAddress ownChallenge.message 1787788801000 true] := by decide +kernel
  obtain ⟨world, reached, history⟩ := Option.map_eq_some_iff.mp twice
  have single := once _ world reached
  rw [history] at single
  obtain ⟨k, event, after, before, -, -⟩ := single Binding.ownAddress 1 2 _ _ (by decide) rfl rfl (by decide +kernel)
    (by decide +kernel)
  omega
end Main

end PactAgent.Auth.Tokens
