import PactAgent.Webhooks.Security

/-! Webhook requests through an egress proxy: what the proxy is asked to connect to. -/

namespace PactAgent.Webhooks.Security
open PactAgent.Common PactAgent.Foundation PactAgent.Foundation.Address

section Model

structure Init where
  method : Option Text
  headers : List (Text × Text)

/-- The options of `http.request` to the proxy. -/
structure ProxyRequest where
  hostname : Text
  port : Nat
  method : Text
  path : Text
  headers : List (Text × Text)
  deriving DecidableEq

/-- `decodeURIComponent`, and the base64 text of a string. -/
structure Encoding where
  decodeURIComponent : Text → Except Failure Text
  base64 : Text → Text

def setHeader (headers : List (Text × Text)) (name value : Text) : List (Text × Text) :=
  headers.filter (fun header => header.1 ≠ name) ++ [(name, value)]

/-- `url.host`. -/
def Url.host (url : Url) : Text := url.hostname ++ portText url.port

variable (encoding : Encoding) (api : UrlApi)

def proxyAuthorization (proxy : Url) : Except Failure (Option Text) :=
  if proxy.username = [] ∧ proxy.password = [] then pure none
  else do
    let username ← encoding.decodeURIComponent proxy.username
    let password ← encoding.decodeURIComponent proxy.password
    pure (some ("Basic ".toList ++ encoding.base64 (username ++ ':' :: password)))

/-- The request that the proxy gets: one in absolute form, or one for a tunnel. -/
def requestThroughProxy (url : Url) (init : Init) (address : Text) (proxy : Url) : Except Failure ProxyRequest := do
  let headers := setHeader init.headers "host".toList url.host
  let authorization ← proxyAuthorization encoding proxy
  if url.protocol = "http:".toList then
    let headers := match authorization with
      | some value => setHeader headers "proxy-authorization".toList value
      | none => headers
    match api.parse (api.toString url) with
    | none => throw (.other "Invalid URL")
    | some copy =>
        let pinned := api.setHostname copy address
        pure ⟨proxy.hostname, proxy.port.getD 80, init.method.getD "GET".toList, api.toString pinned, headers⟩
  else
    let authority := address ++ ':' :: Nat.toDigits 10 (url.port.getD 443)
    let connectHeaders := match authorization with
      | some value => [("host".toList, authority), ("proxy-authorization".toList, value)]
      | none => [("host".toList, authority)]
    pure ⟨proxy.hostname, proxy.port.getD 80, "CONNECT".toList, authority, connectHeaders⟩

end Model

section Target

/-- The authority of an absolute URL. -/
def absoluteAuthority (target : Text) : Text :=
  ((target.dropWhile (· ≠ '/')).drop 2).takeWhile fun character => decide (character ∉ ['/', '?', '#'])

/-- The authority that the request names, by the form of its target. -/
def requestedAuthority (url : Url) (asked : ProxyRequest) : Text :=
  if url.protocol = "http:".toList then absoluteAuthority asked.path else asked.path

def effectivePort (url : Url) : Nat := url.port.getD (if url.protocol = "http:".toList then 80 else 443)

/-- The target denotes the address and the port of the URL. -/
def AsksFor (url : Url) (address : Text) (asked : ProxyRequest) : Prop :=
  ∃ host port, denoted address = some host ∧ parseAuthority (requestedAuthority url asked) = some (host, port) ∧
    port.getD (if url.protocol = "http:".toList then 80 else 443) = effectivePort url

/-- A host name as the parser of web URLs leaves it: an IPv6 address in brackets, or a name or
dotted address without delimiters. -/
def HostText (hostname : Text) : Prop :=
  (∃ inner, hostname = '[' :: inner ++ [']'] ∧ (ipv6 inner).isSome = true) ∨
    (hostname ≠ [] ∧ ∀ character ∈ hostname, character ∉ [':', '/', '?', '#', '[', ']', '@'])

/-- The standard's rules for web URLs: texts, parts, and the setter of the host name, which takes a
dotted address and leaves the URL unchanged at a bare IPv6 address. -/
structure WebUrls (api : UrlApi) : Prop where
  reparses : Reparses api
  text : ∀ url, isWeb url = true → api.toString url = url.serialize
  hostname : ∀ text url, api.parse text = some url → isWeb url = true → HostText url.hostname
  pathname : ∀ text url, api.parse text = some url → isWeb url = true → ∃ rest, url.pathname = '/' :: rest
  sets : ∀ url address, isWeb url = true → (ipv4 address).isSome = true →
    api.setHostname url address = { url with hostname := address }
  keeps : ∀ url address, isWeb url = true → (ipv6 address).isSome = true → api.setHostname url address = url

variable {encoding : Encoding} {api : UrlApi}

theorem portText_plain (port : Option Nat) : ∀ character ∈ portText port, character ∉ ['/', '?', '#'] := by
  cases port with
  | none => exact fun character member => by cases member
  | some port =>
    intro character member
    rcases List.mem_cons.mp member with rfl | digit
    · decide
    · have all := List.all_eq_true.mp (toDigits_digits port) character digit
      intro delimiter
      simp only [List.mem_cons, List.not_mem_nil, or_false] at delimiter
      rcases delimiter with rfl | rfl | rfl <;> cases all

/-- The authority of a web URL without credentials. -/
theorem absoluteAuthority_serialize {url : Url} (plain : url.username = [] ∧ url.password = [])
    (protocol : url.protocol = "http:".toList) (path : ∃ rest, url.pathname = '/' :: rest)
    (host : ∀ character ∈ url.hostname, character ∉ ['/', '?', '#']) :
    absoluteAuthority url.serialize = url.hostname ++ portText url.port := by
  obtain ⟨rest, path⟩ := path
  have whole : url.serialize = 'h' :: 't' :: 't' :: 'p' :: ':' :: '/' :: '/' ::
      ((url.hostname ++ portText url.port) ++ '/' :: (rest ++ url.search ++ url.hash)) := by
    simp [Url.serialize, plain, protocol, path]
  have passes : ∀ character ∈ url.hostname ++ portText url.port, decide (character ∉ ['/', '?', '#']) = true := by
    intro character member
    rcases List.mem_append.mp member with here | here
    · exact decide_eq_true (host character here)
    · exact decide_eq_true (portText_plain url.port character here)
  have dropped : (url.serialize.dropWhile (· ≠ '/')).drop 2 =
      (url.hostname ++ portText url.port) ++ '/' :: (rest ++ url.search ++ url.hash) := by
    rw [whole]
    rfl
  rw [absoluteAuthority, dropped, List.takeWhile_append_of_pos passes, List.takeWhile_cons_of_neg (by decide),
    List.append_nil]

theorem portText_form (port : Option Nat) : portText port = [] ∨ ∃ tail, portText port = ':' :: tail := by
  cases port with
  | none => exact .inl rfl
  | some port => exact .inr ⟨_, rfl⟩

/-- The authority of a dotted address. -/
theorem parseAuthority_ipv4 {address : Text} {octets : List Nat} (read : ipv4 address = some octets) (port : Option Nat) :
    parseAuthority (address ++ portText port) = some (.ipv4 octets, port) := by
  obtain ⟨nonempty, characters⟩ := ipv4_characters read
  have plain : ∀ character ∈ address, character ≠ ':' ∧ character ≠ '[' := by
    intro character member
    rcases characters character member with digit | rfl
    · constructor <;> rintro rfl <;> cases digit
    · decide
  rw [parseAuthority_host nonempty plain (portText_form port), portOf_portText, hostOf, read]
  rfl

theorem isIP_six {address : Text} (six : isIP address ≠ 4) (ip : isIP address ≠ 0) :
    ipv4 address = none ∧ ∃ groups, ipv6 address = some groups := by
  unfold isIP at six ip
  split at ip
  · next four => rw [if_pos four] at six; exact absurd rfl six
  · next four =>
    split at ip
    · next some => exact ⟨Option.not_isSome_iff_eq_none.mp four, Option.isSome_iff_exists.mp some⟩
    · exact absurd rfl ip

theorem isIP_four {address : Text} (four : isIP address = 4) : ∃ octets, ipv4 address = some octets := by
  unfold isIP at four
  split at four
  · next some => exact Option.isSome_iff_exists.mp some
  · split at four <;> cases four

theorem requestThroughProxy_path {url proxy : Url} {init : Init} {address : Text} {asked : ProxyRequest}
    (again : api.parse (api.toString url) = some url)
    (sent : requestThroughProxy encoding api url init address proxy = .ok asked) :
    asked.path = if url.protocol = "http:".toList then api.toString (api.setHostname url address)
      else address ++ portText (some (url.port.getD 443)) := by
  unfold requestThroughProxy at sent
  obtain ⟨authorization, -, sent⟩ := Guard.bind_ok_iff.mp sent
  split at sent
  · next plain =>
    rw [if_pos plain]
    rw [again] at sent
    cases sent
    rfl
  · next secure =>
    rw [if_neg secure]
    cases sent
    rfl

theorem isIP_valid {address : Text} (valid : (ipv6 address).isSome = true) : isIP address ≠ 0 := by
  unfold isIP
  split
  · decide
  · decide

/-- A tunnel is asked for the address exactly when the address is a dotted one. -/
theorem connect_iff {url proxy : Url} {init : Init} {address : Text} {asked : ProxyRequest}
    (again : api.parse (api.toString url) = some url) (ip : isIP address ≠ 0) (secure : url.protocol ≠ "http:".toList)
    (sent : requestThroughProxy encoding api url init address proxy = .ok asked) :
    AsksFor url address asked ↔ isIP address = 4 := by
  have path := requestThroughProxy_path again sent
  rw [if_neg secure] at path
  have authority : requestedAuthority url asked = address ++ portText (some (url.port.getD 443)) := by
    rw [requestedAuthority, if_neg secure, path]
  by_cases four : isIP address = 4
  · obtain ⟨octets, read⟩ := isIP_four four
    refine iff_of_true ⟨.ipv4 octets, some (url.port.getD 443), ?_, ?_, ?_⟩ four
    · rw [denoted, read]
    · rw [authority, parseAuthority_ipv4 read]
    · rw [effectivePort, if_neg secure]
      rfl
  · refine iff_of_false ?_ four
    rintro ⟨host, port, -, parsed, -⟩
    obtain ⟨-, groups, read⟩ := isIP_six four ip
    obtain ⟨colons, plain⟩ := ipv6_shape (Option.isSome_iff_exists.mpr ⟨groups, read⟩)
    have opening : (address ++ portText (some (url.port.getD 443))).head? ≠ some '[' := by
      cases address with
      | nil => cases colons
      | cons first rest =>
        intro same
        obtain rfl : first = '[' := Option.some.inj same
        cases plain '[' List.mem_cons_self
    rw [authority, parseAuthority_colons _ opening] at parsed
    · cases parsed
    · rw [List.count_append]
      omega

/-- A request in absolute form names the address when that is dotted, and otherwise exactly when
the URL itself has an address for its host. -/
theorem absolute_iff (urls : WebUrls api) {number : Coercion} {environment : String} {url proxy : Url} {text : Text}
    {init : Init} {address : Text} {asked : ProxyRequest} (read : api.parse text = some url)
    (approved : Approved number environment url)
    (literal : isIP (stripBrackets url.hostname) ≠ 0 → address = stripBrackets url.hostname)
    (ip : isIP address ≠ 0) (plain : url.protocol = "http:".toList)
    (sent : requestThroughProxy encoding api url init address proxy = .ok asked) :
    AsksFor url address asked ↔ isIP address = 4 ∨ url.hostname.head? = some '[' := by
  have path := requestThroughProxy_path (urls.reparses text url read approved.web) sent
  rw [if_pos plain] at path
  have credentials := And.intro approved.username approved.password
  by_cases four : isIP address = 4
  · obtain ⟨octets, dotted⟩ := isIP_four four
    refine iff_of_true ⟨.ipv4 octets, url.port, by rw [denoted, dotted], ?_, rfl⟩ (.inl four)
    have hostless : ∀ character ∈ address, character ∉ ['/', '?', '#'] := by
      intro character member delimiter
      simp only [List.mem_cons, List.not_mem_nil, or_false] at delimiter
      rcases (ipv4_characters dotted).2 character member with digit | rfl
      · rcases delimiter with rfl | rfl | rfl <;> cases digit
      · exact absurd delimiter (by decide)
    rw [requestedAuthority, if_pos plain, path, urls.sets url address approved.web (by rw [dotted]; rfl),
      urls.text { url with hostname := address } approved.web]
    rw [@absoluteAuthority_serialize { url with hostname := address } credentials plain
      (urls.pathname text url read approved.web) hostless]
    exact parseAuthority_ipv4 dotted url.port
  · obtain ⟨none, groups, six⟩ := isIP_six four ip
    have authority : requestedAuthority url asked = absoluteAuthority url.serialize := by
      rw [requestedAuthority, if_pos plain, path, urls.keeps url address approved.web (by rw [six]; rfl),
        urls.text url approved.web]
    rw [or_iff_right four]
    rcases urls.hostname text url read approved.web with ⟨inner, bracketed, valid⟩ | ⟨nonempty, name⟩
    · have opening : url.hostname.head? = some '[' := by
        rw [bracketed]
        rfl
      obtain ⟨groups', value⟩ := Option.isSome_iff_exists.mp valid
      have shape := (ipv6_shape valid).2
      have inside : ∀ character ∈ inner, character ≠ ']' := by
        rintro character member rfl
        cases shape _ member
      have stripped : stripBrackets url.hostname = inner := by
        rw [bracketed, stripBrackets]
        simp
      have same : address = inner := by
        rw [← stripped]
        apply literal
        rw [stripped]
        exact isIP_valid valid
      subst same
      have hostless : ∀ character ∈ url.hostname, character ∉ ['/', '?', '#'] := by
        intro character member delimiter
        rw [bracketed] at member
        simp only [List.mem_cons, List.mem_append, List.not_mem_nil, or_false] at member delimiter
        rcases member with (rfl | inner) | rfl
        · revert delimiter
          decide
        · have free := shape character inner
          rcases delimiter with rfl | rfl | rfl <;> cases free
        · revert delimiter
          decide
      refine iff_of_true ⟨.ipv6 groups', url.port, by rw [denoted, none, value]; rfl, ?_, rfl⟩ opening
      rw [authority, absoluteAuthority_serialize credentials plain (urls.pathname text url read approved.web) hostless,
        bracketed, List.append_assoc]
      change parseAuthority ('[' :: address ++ ']' :: portText url.port) = _
      rw [parseAuthority_brackets _ inside value, portOf_portText]
      rfl
    · have opening : url.hostname.head? ≠ some '[' := by
        cases hostname : url.hostname with
        | nil => exact absurd hostname nonempty
        | cons first rest =>
          intro same
          obtain rfl : first = '[' := Option.some.inj same
          exact absurd (name '[' (by rw [hostname]; exact List.mem_cons_self)) (by decide)
      refine iff_of_false ?_ opening
      rintro ⟨host, port, target, parsed, -⟩
      rw [authority, absoluteAuthority_serialize credentials plain (urls.pathname text url read approved.web),
        parseAuthority_host nonempty _ (portText_form url.port), portOf_portText] at parsed
      · obtain ⟨rfl, -⟩ := Prod.mk.inj (Option.some.inj parsed)
        rw [denoted, none, six] at target
        have same : Host.ipv6 groups = hostOf url.hostname := Option.some.inj target
        unfold hostOf at same
        split at same <;> cases same
      · intro character member
        have free := name character member
        simp only [List.mem_cons, List.not_mem_nil, or_false, not_or] at free
        exact ⟨free.1, free.2.2.2.2.1⟩
      · intro character member delimiter
        have free := name character member
        simp only [List.mem_cons, List.not_mem_nil, or_false, not_or] at free delimiter
        tauto

/-- The proxy is asked for an approved address exactly when the address is a dotted one, or the
request goes in absolute form to a URL with an IPv6 address for its host. -/
theorem requestThroughProxy_pins_iff (number : Coercion) (api : UrlApi) (urls : WebUrls api) (network : Network)
    (encoding : Encoding) (rawUrl : Text) (environment : String) (history events : List Event) (target : Target)
    (allowed : resolveAllowedTarget number api network rawUrl environment history = (events, .ok target))
    (address : Text) (approved : address ∈ target.addresses) (ip : isIP address ≠ 0) (init : Init) (proxy : Url)
    (asked : ProxyRequest) (sent : requestThroughProxy encoding api target.url init address proxy = .ok asked) :
    AsksFor target.url address asked ↔
      isIP address = 4 ∨ (target.url.protocol = "http:".toList ∧ target.url.hostname.head? = some '[') := by
  obtain ⟨added, -, -, spec⟩ := @resolveAllowedTarget_spec number api network environment urls.reparses rawUrl history
  rw [allowed] at spec
  obtain ⟨read, -, checked, answered, -, -⟩ := spec target rfl
  by_cases plain : target.url.protocol = "http:".toList
  · have literal : isIP (stripBrackets target.url.hostname) ≠ 0 → address = stripBrackets target.url.hostname := by
      intro own
      generalize addresses : target.addresses = answer at approved answered
      cases answered with
      | literal _ => exact List.mem_singleton.mp approved
      | lookup name _ => exact absurd name own
    rw [absolute_iff urls read checked literal ip plain sent]
    simp only [plain, true_and]
  · rw [connect_iff (urls.reparses rawUrl target.url read checked.web) ip plain sent]
    simp only [plain, false_and, or_false]

theorem listedApi_web {urls : List Url}
    (forms : ∀ url ∈ urls, HostText url.hostname ∧ ∃ rest, url.pathname = '/' :: rest) : WebUrls (listedApi urls) where
  reparses := listedApi_reparses urls
  text _ _ := rfl
  hostname _ _ read _ := (forms _ (List.mem_of_find?_eq_some read)).1
  pathname _ _ read _ := (forms _ (List.mem_of_find?_eq_some read)).2
  sets _ _ _ dotted := if_pos dotted
  keeps url address _ six := by
    apply if_neg
    intro dotted
    obtain ⟨octets, read⟩ := Option.isSome_iff_exists.mp dotted
    have colon : ':' ∈ address := List.count_pos_iff.mp (Nat.lt_of_lt_of_le (by decide) (ipv6_shape six).1)
    rcases (ipv4_characters read).2 ':' colon with digit | dot
    · cases digit
    · cases dot

/-- Encodings of texts without escapes; the credentials of the proxy are empty here. -/
def plainEncoding : Encoding := ⟨.ok, fun text => text⟩

def hookUrl : Url := siteUrl "hooks.example.com" "/start"

def egressProxy : Url := ⟨"http:".toList, [], [], "egress.internal".toList, some 3128, "/".toList, [], []⟩

/-- The site, whose name has one address. -/
def hookApi : UrlApi := listedApi [hookUrl]

theorem hookApi_web : WebUrls hookApi := by
  apply listedApi_web
  intro url member
  obtain rfl := List.mem_singleton.mp member
  have name : hookUrl.hostname.all (fun character => character ∉ [':', '/', '?', '#', '[', ']', '@']) = true := by
    decide +kernel
  exact ⟨.inr ⟨by decide, fun character inside => of_decide_eq_true (List.all_eq_true.mp name character inside)⟩,
    "start".toList, rfl⟩

def hookNetwork (address : String) : Network where
  lookupAll _ _ := .ok [address.toList]
  requestImpl _ _ _ := .ok ⟨200, none⟩

def hookLookup (address : String) : List Event := [.looked "hooks.example.com".toList [address.toList]]

def post : Init := ⟨some "POST".toList, []⟩

/-- The tunnel that the proxy is asked for. -/
def tunnel (address : String) : ProxyRequest :=
  ⟨"egress.internal".toList, 3128, "CONNECT".toList, address.toList ++ ":443".toList,
    [("host".toList, address.toList ++ ":443".toList)]⟩

theorem tunnel_sent (address : String) :
    requestThroughProxy plainEncoding hookApi hookUrl post address.toList egressProxy = .ok (tunnel address) := by
  have secure : hookUrl.protocol ≠ "http:".toList := by decide
  have unauthorized : proxyAuthorization plainEncoding egressProxy = .ok none := rfl
  rw [requestThroughProxy, unauthorized]
  simp only [if_neg secure, bind, Except.bind]
  rfl

theorem dotted_pins : AsksFor hookUrl "93.184.216.34".toList (tunnel "93.184.216.34") ↔
    isIP "93.184.216.34".toList = 4 ∨ (hookUrl.protocol = "http:".toList ∧ hookUrl.hostname.head? = some '[') :=
  requestThroughProxy_pins_iff plainNumbers hookApi hookApi_web (hookNetwork "93.184.216.34") plainEncoding
    "https://hooks.example.com/start".toList "production" [] (hookLookup "93.184.216.34")
    ⟨hookUrl, ["93.184.216.34".toList]⟩ rfl "93.184.216.34".toList List.mem_cons_self (by decide) post egressProxy
    (tunnel "93.184.216.34") (tunnel_sent _)

/-- The tunnel to an IPv6 address has no brackets. -/
theorem bare_not_pinned :
    ¬∀ (number : Coercion) (api : UrlApi) (network : Network) (encoding : Encoding) (rawUrl : Text)
      (environment : String) (history events : List Event) (target : Target) (address : Text) (init : Init) (proxy : Url)
      (asked : ProxyRequest), WebUrls api →
      resolveAllowedTarget number api network rawUrl environment history = (events, .ok target) →
      address ∈ target.addresses → isIP address ≠ 0 →
      requestThroughProxy encoding api target.url init address proxy = .ok asked → AsksFor target.url address asked := by
  intro pins
  have asks : AsksFor hookUrl "2606:2800:220:1::1946".toList (tunnel "2606:2800:220:1::1946") :=
    pins plainNumbers hookApi (hookNetwork "2606:2800:220:1::1946") plainEncoding
      "https://hooks.example.com/start".toList "production" [] (hookLookup "2606:2800:220:1::1946")
      ⟨hookUrl, ["2606:2800:220:1::1946".toList]⟩ _ post egressProxy _ hookApi_web rfl List.mem_cons_self (by decide)
      (tunnel_sent _)
  have four := (@connect_iff plainEncoding hookApi hookUrl egressProxy post _ _ rfl (by decide) (by decide)
    (tunnel_sent _)).mp asks
  exact absurd four (by decide)

end Target

end PactAgent.Webhooks.Security
