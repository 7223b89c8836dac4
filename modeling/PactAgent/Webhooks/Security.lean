import PactAgent.Common.Errors
import PactAgent.Foundation.Address
import PactAgent.Foundation.Guard

/-! Where webhooks may be delivered: the classes of blocked addresses, the checks of a URL, and
the requests along redirects. -/

namespace PactAgent.Webhooks.Security
open PactAgent.Common PactAgent.Foundation PactAgent.Foundation.Address

section Addresses

/-- `Number(text)` where it is an integer. What a runtime reads besides short decimal texts is
left open. -/
structure Coercion where
  integer : Text → Option Int
  digits : ∀ text, text ≠ [] → text.all isDigit = true → text.length ≤ 15 → integer text = some (decimal text)

variable (number : Coercion)

def parseIpv4 (hostname : Text) : Option (List Int) :=
  let parts := hostname.splitOn '.'
  if parts.length ≠ 4 then none
  else parts.mapM fun part => (number.integer part).filter fun octet => !(octet < 0 || octet > 255)

def isBlockedIpv4Address (address : Text) : Bool :=
  match parseIpv4 number address with
  | some [first, second, _, _] =>
      first = 0
        || first = 10
        || first = 127
        || (first = 100 && second ≥ 64 && second ≤ 127)
        || (first = 169 && second = 254)
        || (first = 172 && second ≥ 16 && second ≤ 31)
        || (first = 192 && second = 168)
        || (first = 198 && [18, 19].contains second)
        || first ≥ 224
  | _ => false

/-- `toLowerCase` on the ASCII texts of addresses and of host names. -/
def toLowerCase (text : Text) : Text := text.map Char.toLower

/-- `replace(/^\[|\]$/g, '')`. -/
def stripBrackets (text : Text) : Text :=
  let inner := if text.head? = some '[' then text.tail else text
  if inner.getLast? = some ']' then inner.dropLast else inner

def normalizeIpv6 (address : Text) : Text := stripBrackets (toLowerCase address)

def isBlockedIpv6Address (address : Text) : Bool :=
  let normalized := normalizeIpv6 address
  normalized = "::".toList
    || normalized = "::1".toList
    || "fc".toList.isPrefixOf normalized
    || "fd".toList.isPrefixOf normalized
    || "fe80".toList.isPrefixOf normalized
    || "ff".toList.isPrefixOf normalized
    || "::ffff:0:".toList.isPrefixOf normalized
    || "::ffff:10.".toList.isPrefixOf normalized
    || "::ffff:127.".toList.isPrefixOf normalized
    || "::ffff:169.254.".toList.isPrefixOf normalized
    || "::ffff:192.168.".toList.isPrefixOf normalized

/-- The group of `/^::ffff:(\d+\.\d+\.\d+\.\d+)$/i`. -/
def mappedIpv4 (address : Text) : Option Text :=
  let rest := address.drop 7
  if toLowerCase (address.take 7) = "::ffff:".toList ∧ (rest.splitOn '.').length = 4 ∧
      (rest.splitOn '.').all (fun part => part ≠ [] && part.all isDigit) then some rest
  else none

def isBlockedIpAddress (address : Text) : Bool :=
  if isIP address = 4 then isBlockedIpv4Address number address
  else if isIP address = 6 then
    match mappedIpv4 address with
    | some mapped => isBlockedIpv4Address number mapped
    | none => isBlockedIpv6Address address
  else false

/-- `replace(/\.$/, '')`. -/
def stripDot (text : Text) : Text := if text.getLast? = some '.' then text.dropLast else text

def isBlockedHostname (hostname : Text) : Bool :=
  let normalized := stripBrackets (stripDot (toLowerCase hostname))
  if normalized = "localhost".toList
      || normalized = "0.0.0.0".toList
      || normalized = "metadata.google.internal".toList
      || ".localhost".toList.isSuffixOf normalized
      || ".local".toList.isSuffixOf normalized
      || ".internal".toList.isSuffixOf normalized then
    true
  else if isIP normalized ≠ 0 then isBlockedIpAddress number normalized
  else isBlockedIpv4Address number normalized

end Addresses

section Urls

/-- A URL with a host, as the runtime's `URL` shows it; a default port is left out. -/
structure Url where
  protocol : Text
  username : Text
  password : Text
  hostname : Text
  port : Option Nat
  pathname : Text
  search : Text
  hash : Text
  deriving DecidableEq

/-- The runtime's `URL`: `new URL(text)`, `new URL(text, base)`, `toString` and the setter of the host name. -/
structure UrlApi where
  parse : Text → Option Url
  resolve : Text → Url → Option Url
  toString : Url → Text
  setHostname : Url → Text → Url

/-- The text of a URL with a host. -/
def Url.serialize (url : Url) : Text :=
  url.protocol ++ "//".toList ++
    (if url.username = [] ∧ url.password = [] then []
      else url.username ++ (if url.password = [] then [] else ':' :: url.password) ++ ['@']) ++
    url.hostname ++ portText url.port ++ url.pathname ++ url.search ++ url.hash

def isWeb (url : Url) : Bool := ["http:".toList, "https:".toList].contains url.protocol

variable (number : Coercion) (api : UrlApi)

def assertWebhookUrlShapeAllowed (rawUrl : Text) (environment : String) : Except Failure Text :=
  match api.parse rawUrl with
  | none => throw (.app (invalidRequest "Webhook URL must be valid." "invalid_webhook_url"))
  | some parsed =>
      if !isWeb parsed then
        throw (.app (invalidRequest "Webhook URL must use http or https." "invalid_webhook_url_protocol"))
      else if environment = "production" ∧ parsed.protocol ≠ "https:".toList then
        throw (.app (invalidRequest "Production webhook URLs must use HTTPS." "webhook_https_required"))
      else if parsed.username ≠ [] ∨ parsed.password ≠ [] then
        throw (.app (invalidRequest "Webhook URLs cannot include credentials." "invalid_webhook_url_credentials"))
      else if isBlockedHostname number parsed.hostname then
        throw (.app (invalidRequest "Webhook URL host is not allowed." "webhook_url_not_allowed"))
      else pure (api.toString parsed)

end Urls

section Requests

/-- What `fetchWebhookUrl` reads of a response. -/
structure Response where
  status : Nat
  location : Option Text
  deriving DecidableEq

/-- What a delivery does outside of the process, in order: a hop starts with the text of its URL,
may ask for the addresses of a name, and sends a request to one address. -/
inductive Event
  | hop (currentUrl : Text)
  | looked (hostname : Text) (addresses : List Text)
  | called (url : Url) (address : Text)
  deriving DecidableEq

/-- The network, which may answer differently each time. -/
structure Network where
  lookupAll : List Event → Text → Except Failure (List Text)
  requestImpl : List Event → Url → Text → Except Failure Response

variable (number : Coercion) (api : UrlApi) (network : Network)

/-- The addresses, and the events with those of the lookup. -/
def resolveHostname (hostname : Text) (history : List Event) : List Event × Except Failure (List Text) :=
  let normalized := stripBrackets hostname
  if isIP normalized ≠ 0 then (history, .ok [normalized])
  else
    match network.lookupAll history normalized with
    | .ok records => (history ++ [.looked normalized records], .ok records)
    | .error error => (history, .error error)

structure Target where
  url : Url
  addresses : List Text

def blockedTarget : Failure :=
  .app (invalidRequest "Webhook URL resolves to a host that is not allowed." "webhook_url_not_allowed")

def resolveAllowedTarget (rawUrl : Text) (environment : String) (history : List Event) :
    List Event × Except Failure Target :=
  match assertWebhookUrlShapeAllowed number api rawUrl environment with
  | .error error => (history, .error error)
  | .ok normalizedUrl =>
      match api.parse normalizedUrl with
      | none => (history, .error (.other "Invalid URL"))
      | some url =>
          match resolveHostname network url.hostname history with
          | (events, .error error) => (events, .error error)
          | (events, .ok addresses) =>
              if addresses.length = 0 ∨ addresses.any (isBlockedIpAddress number) then (events, .error blockedTarget)
              else (events, .ok ⟨url, addresses⟩)

def assertWebhookUrlAllowed (rawUrl : Text) (environment : String) (history : List Event) :
    List Event × Except Failure Text :=
  match resolveAllowedTarget number api network rawUrl environment history with
  | (events, .ok target) => (events, .ok (api.toString target.url))
  | (events, .error error) => (events, .error error)

def redirects : List Nat := [301, 302, 303, 307, 308]

def missingLocation : Failure :=
  .app (invalidRequest "Webhook redirect response is missing a Location header." "webhook_redirect_missing_location")

def redirectLimit : Failure :=
  .app (invalidRequest "Webhook delivery exceeded the redirect limit." "webhook_redirect_limit_exceeded")

/-- What one turn of the loop leaves: an end, or the next URL. -/
inductive Turn
  | done (result : Except Failure Response)
  | next (currentUrl : Text)

/-- The body of the loop of `fetchWebhookUrl`. -/
def turn (currentUrl : Text) (environment : String) (last : Bool) (history : List Event) : List Event × Turn :=
  match resolveAllowedTarget number api network currentUrl environment (history ++ [.hop currentUrl]) with
  | (events, .error error) => (events, .done (.error error))
  | (events, .ok target) =>
      let address := target.addresses.headD []
      let events' := events ++ [.called target.url address]
      match network.requestImpl events target.url address with
      | .error error => (events', .done (.error error))
      | .ok response =>
          if !redirects.contains response.status then (events', .done (.ok response))
          else if response.location.getD [] = [] then (events', .done (.error missingLocation))
          else if last then (events', .done (.error redirectLimit))
          else
            match api.resolve (response.location.getD []) target.url with
            | none => (events', .done (.error (.other "Invalid URL")))
            | some next => (events', .next (api.toString next))

/-- The loop from one number of redirects on. -/
def follow (environment : String) (maxRedirects : ℚ) (redirectCount : Nat) (currentUrl : Text)
    (history : List Event) : List Event × Except Failure Response :=
  if (redirectCount : ℚ) ≤ maxRedirects then
    match turn number api network currentUrl environment ((redirectCount : ℚ) = maxRedirects) history with
    | (events, .done result) => (events, result)
    | (events, .next url) => follow environment maxRedirects (redirectCount + 1) url events
  else (history, .error redirectLimit)
termination_by (⌊maxRedirects⌋ + 1 - redirectCount).toNat
decreasing_by
  have floor : (redirectCount : ℤ) ≤ ⌊maxRedirects⌋ := Int.le_floor.mpr (by exact_mod_cast ‹_›)
  omega

def fetchWebhookUrl (rawUrl : Text) (environment : String) (maxRedirects : ℚ) :
    List Event × Except Failure Response :=
  follow number api network environment maxRedirects 0 rawUrl []

end Requests

section Pinning

/-- What the checks of a URL leave. -/
structure Approved (number : Coercion) (environment : String) (url : Url) : Prop where
  web : isWeb url = true
  https : environment = "production" → url.protocol = "https:".toList
  username : url.username = []
  password : url.password = []
  hostname : isBlockedHostname number url.hostname = false

/-- The parser reads what it has written: a web URL comes back from its own text. -/
def Reparses (api : UrlApi) : Prop :=
  ∀ text url, api.parse text = some url → isWeb url = true → api.parse (api.toString url) = some url

variable {number : Coercion} {api : UrlApi} {network : Network} {environment : String} {history events : List Event}

/-- An answer for a hop, with the events that it adds. -/
inductive Answered (network : Network) (url : Url) (history : List Event) : List Text → List Event → Prop
  | literal (ip : isIP (stripBrackets url.hostname) ≠ 0) :
      Answered network url history [stripBrackets url.hostname] []
  | lookup {answer : List Text} (name : isIP (stripBrackets url.hostname) = 0)
      (looked : network.lookupAll history (stripBrackets url.hostname) = .ok answer) :
      Answered network url history answer [.looked (stripBrackets url.hostname) answer]

/-- The events before a call: the hop starts with a text that passes the checks, an answer is
obtained behind that, none of it is blocked, and its first address is called. -/
def Pinned (number : Coercion) (api : UrlApi) (network : Network) (environment : String) (before : List Event)
    (url : Url) (address : Text) : Prop :=
  ∃ earlier currentUrl answer added, before = earlier ++ .hop currentUrl :: added ∧
    assertWebhookUrlShapeAllowed number api currentUrl environment = .ok (api.toString url) ∧
    Approved number environment url ∧ Answered network url (earlier ++ [.hop currentUrl]) answer added ∧
    answer.head? = some address ∧ ∀ other ∈ answer, isBlockedIpAddress number other = false

/-- Every call is pinned by the events before it. -/
def AllPinned (number : Coercion) (api : UrlApi) (network : Network) (environment : String) (events : List Event) : Prop :=
  ∀ before url address after, events = before ++ .called url address :: after →
    Pinned number api network environment before url address

def isCall : Event → Bool
  | .called _ _ => true
  | _ => false

theorem AllPinned.snoc (sound : AllPinned number api network environment history) {event : Event}
    (pinned : ∀ url address, event = .called url address → Pinned number api network environment history url address) :
    AllPinned number api network environment (history ++ [event]) := by
  intro before url address after split
  rcases List.eq_nil_or_concat after with rfl | ⟨rest, last, rfl⟩
  · obtain ⟨rfl, same⟩ := List.append_inj' split rfl
    exact pinned url address (List.cons.inj same).1
  · rw [List.concat_eq_append, ← List.cons_append, ← List.append_assoc] at split
    obtain ⟨rfl, -⟩ := List.append_inj' split rfl
    exact sound before url address rest rfl

theorem assertWebhookUrlShapeAllowed_ok_iff {rawUrl normalizedUrl : Text} :
    assertWebhookUrlShapeAllowed number api rawUrl environment = .ok normalizedUrl ↔
      ∃ parsed, api.parse rawUrl = some parsed ∧ Approved number environment parsed ∧
        api.toString parsed = normalizedUrl := by
  unfold assertWebhookUrlShapeAllowed
  cases read : api.parse rawUrl with
  | none => simp [throw, throwThe, MonadExceptOf.throw]
  | some parsed =>
    simp only [Guard.reject_ok_iff, Guard.pure_ok_iff, Option.some.injEq, exists_eq_left']
    constructor
    · rintro ⟨web, plain, credentials, host, text⟩
      refine ⟨⟨by simpa using web, fun production => ?_, ?_, ?_, by simpa using host⟩, text⟩
      · by_contra other
        exact plain ⟨production, other⟩
      · exact not_not.mp (not_or.mp credentials).1
      · exact not_not.mp (not_or.mp credentials).2
    · rintro ⟨approved, text⟩
      refine ⟨by simp [approved.web], fun plain => plain.2 (approved.https plain.1), ?_, by simp [approved.hostname], text⟩
      simp [approved.username, approved.password]

/-- The events of a resolution, and what its success means. -/
theorem resolveHostname_spec (url : Url) (history : List Event) :
    ∃ added, (resolveHostname network url.hostname history).1 = history ++ added ∧ added.all (fun event => !isCall event) ∧
      ∀ answer, (resolveHostname network url.hostname history).2 = .ok answer →
        Answered network url history answer added := by
  unfold resolveHostname
  by_cases literal : isIP (stripBrackets url.hostname) ≠ 0
  · simp only [if_pos literal]
    refine ⟨[], by simp, rfl, fun answer ok => ?_⟩
    cases ok
    exact .literal literal
  · simp only [if_neg literal]
    cases looked : network.lookupAll history (stripBrackets url.hostname) with
    | error error => exact ⟨[], by simp, rfl, fun answer ok => by cases ok⟩
    | ok records =>
      refine ⟨[.looked (stripBrackets url.hostname) records], rfl, rfl, fun answer ok => ?_⟩
      cases ok
      exact .lookup (not_not.mp literal) looked

/-- A target that is allowed has been checked and resolved. -/
theorem resolveAllowedTarget_spec (reparses : Reparses api) (currentUrl : Text) (history : List Event) :
    ∃ added, (resolveAllowedTarget number api network currentUrl environment history).1 = history ++ added ∧
      added.all (fun event => !isCall event) ∧
      ∀ target, (resolveAllowedTarget number api network currentUrl environment history).2 = .ok target →
        api.parse currentUrl = some target.url ∧
        assertWebhookUrlShapeAllowed number api currentUrl environment = .ok (api.toString target.url) ∧
        Approved number environment target.url ∧ Answered network target.url history target.addresses added ∧
        target.addresses ≠ [] ∧ ∀ other ∈ target.addresses, isBlockedIpAddress number other = false := by
  unfold resolveAllowedTarget
  cases passed : assertWebhookUrlShapeAllowed number api currentUrl environment with
  | error error => exact ⟨[], by simp, rfl, fun target ok => by cases ok⟩
  | ok normalizedUrl =>
    obtain ⟨parsed, read, approved, rfl⟩ := assertWebhookUrlShapeAllowed_ok_iff.mp passed
    have again := reparses currentUrl parsed read approved.web
    simp only [again]
    obtain ⟨added, events, quiet, answered⟩ := @resolveHostname_spec network parsed history
    rcases resolved : resolveHostname network parsed.hostname history with ⟨after, outcome⟩
    rw [resolved] at events answered
    cases outcome with
    | error error => exact ⟨added, events, quiet, fun target ok => by cases ok⟩
    | ok addresses =>
      by_cases blocked : addresses.length = 0 ∨ addresses.any (isBlockedIpAddress number)
      · simp only [if_pos blocked]
        exact ⟨added, events, quiet, fun target ok => by cases ok⟩
      · simp only [if_neg blocked]
        refine ⟨added, events, quiet, fun target ok => ?_⟩
        cases ok
        refine ⟨read, rfl, approved, answered _ rfl, ?_, ?_⟩
        · intro empty
          exact blocked (.inl (congrArg List.length empty))
        · simpa using (not_or.mp blocked).2

theorem AllPinned.append_quiet (sound : AllPinned number api network environment history) {added : List Event}
    (quiet : added.all fun event => !isCall event) : AllPinned number api network environment (history ++ added) := by
  induction added generalizing history with
  | nil => simpa using sound
  | cons event rest ih =>
    rw [List.all_cons, Bool.and_eq_true] at quiet
    have first := @AllPinned.snoc number api network environment history sound event ?_
    · have whole := ih first quiet.2
      rwa [List.append_assoc] at whole
    · rintro url address rfl
      cases quiet.1

theorem quiet_countP {added : List Event} (quiet : added.all fun event => !isCall event) : added.countP isCall = 0 := by
  rw [List.countP_eq_zero]
  intro event member
  simpa using List.all_eq_true.mp quiet event member

/-- One turn makes at most one call, and that is pinned; it ends with no redirect. -/
theorem turn_spec (reparses : Reparses api) (currentUrl : Text) (last : Bool)
    (sound : AllPinned number api network environment history) :
    AllPinned number api network environment (turn number api network currentUrl environment last history).1 ∧
      (turn number api network currentUrl environment last history).1.countP isCall ≤ history.countP isCall + 1 ∧
      (∀ response, (turn number api network currentUrl environment last history).2 = .done (.ok response) →
        redirects.contains response.status = false) := by
  obtain ⟨added, events, quiet, allowed⟩ := @resolveAllowedTarget_spec number api network environment reparses
    currentUrl (history ++ [.hop currentUrl])
  have started : AllPinned number api network environment (history ++ [.hop currentUrl]) :=
    sound.snoc fun url address other => by cases other
  have before := started.append_quiet quiet
  have count : (history ++ [Event.hop currentUrl] ++ added).countP isCall = history.countP isCall := by
    rw [List.countP_append, List.countP_append, quiet_countP quiet]
    rfl
  unfold turn
  rcases resolved : resolveAllowedTarget number api network currentUrl environment (history ++ [.hop currentUrl]) with
    ⟨after, outcome⟩
  rw [resolved] at events allowed
  subst events
  simp only [resolved]
  cases outcome with
  | error error => exact ⟨before, by rw [count]; omega, fun response ok => by cases ok⟩
  | ok target =>
    obtain ⟨-, passed, approved, answered, nonempty, free⟩ := allowed target rfl
    have first : target.addresses.head? = some (target.addresses.headD []) := by
      cases addresses : target.addresses with
      | nil => exact absurd addresses nonempty
      | cons head tail => rfl
    have whole : AllPinned number api network environment
        (history ++ [.hop currentUrl] ++ added ++ [.called target.url (target.addresses.headD [])]) := by
      apply before.snoc
      intro url address same
      cases same
      refine ⟨history, currentUrl, target.addresses, added, ?_, passed, approved, answered, first, free⟩
      rw [List.append_assoc]
      rfl
    have counted : (history ++ [Event.hop currentUrl] ++ added ++
        [Event.called target.url (target.addresses.headD [])]).countP isCall ≤
        history.countP isCall + 1 := by
      rw [List.countP_append, count]
      simp [isCall]
    dsimp only
    split
    · exact ⟨whole, counted, fun response ok => by cases ok⟩
    · next response answered =>
      split
      · next final =>
        refine ⟨whole, counted, fun response ok => ?_⟩
        cases ok
        simpa using final
      · split
        · exact ⟨whole, counted, fun response ok => by cases ok⟩
        · split
          · exact ⟨whole, counted, fun response ok => by cases ok⟩
          · split <;> exact ⟨whole, counted, fun response ok => by cases ok⟩

/-- The calls from one number of redirects on. -/
theorem follow_spec (reparses : Reparses api) (maxRedirects : ℚ) (redirectCount : Nat) (currentUrl : Text)
    (sound : AllPinned number api network environment history) :
    AllPinned number api network environment
        (follow number api network environment maxRedirects redirectCount currentUrl history).1 ∧
      (((follow number api network environment maxRedirects redirectCount currentUrl history).1.countP isCall =
          history.countP isCall) ∨
        ((follow number api network environment maxRedirects redirectCount currentUrl history).1.countP isCall : ℚ) +
          redirectCount ≤ history.countP isCall + maxRedirects + 1) ∧
      (∀ response, (follow number api network environment maxRedirects redirectCount currentUrl history).2 = .ok response →
        redirects.contains response.status = false) := by
  induction redirectCount, currentUrl, history using
    follow.induct number api network environment maxRedirects with
  | case1 redirectCount currentUrl history within events result ended =>
    obtain ⟨pinned, counted, final⟩ := turn_spec reparses currentUrl (decide ((redirectCount : ℚ) = maxRedirects)) sound
    rw [ended] at pinned counted final
    rw [follow, if_pos within, ended]
    refine ⟨pinned, .inr ?_, fun response ok => final response (congrArg Turn.done ok)⟩
    have cast : (events.countP isCall : ℚ) ≤ history.countP isCall + 1 := by exact_mod_cast counted
    dsimp only
    linarith
  | case2 redirectCount currentUrl history within events url further ih =>
    obtain ⟨pinned, counted, -⟩ := turn_spec reparses currentUrl (decide ((redirectCount : ℚ) = maxRedirects)) sound
    rw [further] at pinned counted
    obtain ⟨pinned', counted', final⟩ := ih pinned
    rw [follow, if_pos within, further]
    refine ⟨pinned', .inr ?_, final⟩
    have cast : (events.countP isCall : ℚ) ≤ history.countP isCall + 1 := by exact_mod_cast counted
    dsimp only
    rcases counted' with same | bounded
    · rw [same]
      linarith
    · push_cast at bounded
      linarith
  | case3 redirectCount currentUrl history beyond =>
    rw [follow, if_neg beyond]
    exact ⟨sound, .inl rfl, fun response ok => by cases ok⟩

/-- Every hop of a delivery is checked and pinned, whatever the network answers. -/
theorem fetchWebhookUrl_pinned (number : Coercion) (api : UrlApi) (reparses : Reparses api) (network : Network)
    (rawUrl : Text) (environment : String) (maxRedirects : ℚ) :
    AllPinned number api network environment (fetchWebhookUrl number api network rawUrl environment maxRedirects).1 ∧
      ((fetchWebhookUrl number api network rawUrl environment maxRedirects).1.countP isCall = 0 ∨
        ((fetchWebhookUrl number api network rawUrl environment maxRedirects).1.countP isCall : ℚ) ≤ maxRedirects + 1) ∧
      ((∃ response, (fetchWebhookUrl number api network rawUrl environment maxRedirects).2 = .ok response ∧
          redirects.contains response.status = false) ∨
        ∃ error, (fetchWebhookUrl number api network rawUrl environment maxRedirects).2 = .error error) := by
  have start : AllPinned number api network environment [] := by
    intro before url address after split
    cases before <;> cases split
  obtain ⟨pinned, counted, final⟩ := follow_spec reparses maxRedirects 0 rawUrl start
  unfold fetchWebhookUrl
  refine ⟨pinned, by simpa using counted, ?_⟩
  cases ended : (follow number api network environment maxRedirects 0 rawUrl []).2 with
  | ok response => exact .inl ⟨response, rfl, final response ended⟩
  | error error => exact .inr ⟨error, rfl⟩

/-- A reading of decimal texts only. -/
def plainNumbers : Coercion where
  integer text := if text ≠ [] ∧ text.all isDigit then some (decimal text) else none
  digits _ nonempty digits _ := if_pos ⟨nonempty, digits⟩

def siteUrl (hostname pathname : String) : Url :=
  ⟨"https:".toList, [], [], hostname.toList, none, pathname.toList, [], []⟩

/-- A parser of some URLs, by their texts. -/
def listedApi (urls : List Url) : UrlApi where
  parse text := urls.find? fun url => url.serialize = text
  resolve location _ := urls.find? fun url => url.serialize = location
  toString := Url.serialize
  setHostname url hostname := if (ipv4 hostname).isSome then { url with hostname := hostname } else url

theorem listedApi_reparses (urls : List Url) : Reparses (listedApi urls) := by
  intro text url read _
  have same : url.serialize = text := by simpa using List.find?_some read
  change (listedApi urls).parse url.serialize = some url
  rw [same]
  exact read

/-- Two sites, the first of which redirects to the second. -/
def sampleApi : UrlApi := listedApi [siteUrl "one.example.com" "/start", siteUrl "two.example.com" "/hop"]

def sampleNetwork : Network where
  lookupAll _ _ := .ok ["93.184.216.34".toList]
  requestImpl _ url _ :=
    if url.hostname = "one.example.com".toList then .ok ⟨302, some "https://two.example.com/hop".toList⟩
    else .ok ⟨200, none⟩

theorem sample_pinned :
    AllPinned plainNumbers sampleApi sampleNetwork "production"
        (fetchWebhookUrl plainNumbers sampleApi sampleNetwork "https://one.example.com/start".toList "production" 3).1 ∧
      ((fetchWebhookUrl plainNumbers sampleApi sampleNetwork "https://one.example.com/start".toList "production" 3).1.countP
          isCall = 0 ∨
        ((fetchWebhookUrl plainNumbers sampleApi sampleNetwork "https://one.example.com/start".toList "production" 3).1.countP
          isCall : ℚ) ≤ 3 + 1) ∧
      ((∃ response, (fetchWebhookUrl plainNumbers sampleApi sampleNetwork "https://one.example.com/start".toList
            "production" 3).2 = .ok response ∧ redirects.contains response.status = false) ∨
        ∃ error, (fetchWebhookUrl plainNumbers sampleApi sampleNetwork "https://one.example.com/start".toList
          "production" 3).2 = .error error) :=
  fetchWebhookUrl_pinned plainNumbers sampleApi (listedApi_reparses _) sampleNetwork _ _ _

end Pinning

end PactAgent.Webhooks.Security
