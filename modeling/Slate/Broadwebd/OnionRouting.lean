import Slate.Browser.Navigation
import Slate.Foundation.Transaction
import Slate.Broadwebd.Http

/-!
# Which transport fetches an onion name

The registry chooses a transport once, from the URL of the request. The direct transport
follows redirects by itself, so what it contacts is not only what was routed to it.
-/

namespace Slate.Broadwebd

open Foundation

def directHttpPlugin : String := "direct-http"

def torArtiHttpPlugin : String := "tor-arti-http"

section Tor

/-- The daemon tests hosts as the address bar does. -/
def isOnionHost (host : String) : Bool := Browser.isOnionHost host.toList

def isOnionUrl (url : Url) : Bool := url.hostStr.any isOnionHost

def isTorHttpScheme (scheme : String) : Bool := scheme = "tor+http" || scheme = "tor+https"

end Tor

def isHttpScheme (scheme : String) : Bool := scheme = "http" || scheme = "https"

section Registry

/-- The transport that a protocol service chooses for a URL. -/
abbrev ProtocolService := Url → Option (Except BroadwebdError String)

inductive IpfsTransportKind where
  | gateway
  | kuboRpc
  deriving DecidableEq, Repr

def httpTransportId : IpfsTransportKind → String
  | .gateway => "ipfs-gateway"
  | .kuboRpc => "ipfs-kubo-rpc"

def ipfsService (transport : IpfsTransportKind) : ProtocolService := fun url =>
  if url.scheme = "ipfs" ∨ url.scheme = "ipns" then some (.ok (httpTransportId transport))
  else none

def torService : ProtocolService := fun url =>
  if isTorHttpScheme url.scheme then some (.ok torArtiHttpPlugin)
  else if isHttpScheme url.scheme && isOnionUrl url then some (.ok torArtiHttpPlugin)
  else none

/-- The protocol services of a registry, in the order of their names, and the names of its
transports. -/
structure PluginRegistry where
  protocolServices : List ProtocolService
  transports : List String

def withDefaultHttp (transport : IpfsTransportKind) : PluginRegistry where
  protocolServices := [ipfsService transport, torService]
  transports := [directHttpPlugin, httpTransportId transport, torArtiHttpPlugin]

def PluginRegistry.transport (registry : PluginRegistry) (id : String) :
    Except BroadwebdError String :=
  if id ∈ registry.transports then .ok id else .error (.missingPlugin id)

def PluginRegistry.resolveHttpTransport (library : UrlLibrary) (registry : PluginRegistry)
    (target : String) : Except BroadwebdError String := do
  let url ← parseHttpUrl library target
  match registry.protocolServices.findSome? fun protocol => protocol url with
  | some transport => transport
  | none =>
    if isHttpScheme url.scheme then .ok directHttpPlugin
    else .error (.unsupportedRequest s!"no HTTP transport for {url.scheme}")

end Registry

section Direct

/-- The URL library with the resolution of a redirect's location. -/
structure RedirectLibrary extends UrlLibrary where
  join : Url → String → Option Url

variable (library : RedirectLibrary)

/-- What is requested while the servers answer with redirects to the locations, of which the
client follows at most a number. -/
def followRedirects : Nat → Url → List String → List Url
  | 0, url, _ => [url]
  | _ + 1, url, [] => [url]
  | limit + 1, url, location :: rest =>
    url :: match library.join url location with
      | some next => if isHttpScheme next.scheme then followRedirects limit next rest else []
      | none => []

def fetchHttpUrlOverNetwork (url : Url) (redirects : List String) : List Url :=
  if isHttpScheme url.scheme then followRedirects library 6 url redirects else []

/-- The requests of a fetch through the direct transport. -/
def directHttpRequests (url : String) (redirects : List String) : List Url :=
  match parseHttpUrl library.toUrlLibrary url with
  | .error _ => []
  | .ok url =>
    if isHttpScheme url.scheme then fetchHttpUrlOverNetwork library url redirects else []

/-- The transport to which the fetch service gives a request. -/
def transportOf (registry : PluginRegistry) (request : HttpFetchRequest) :
    Except BroadwebdError String :=
  (match request.transportId with
    | some transportId => .ok transportId
    | none => registry.resolveHttpTransport library.toUrlLibrary request.url) >>=
  registry.transport

/-- The requests that the direct transport issues while a registry serves a fetch. -/
def directRequestsOf (registry : PluginRegistry) (request : HttpFetchRequest)
    (redirects : List String) : List Url :=
  match transportOf library registry request with
  | .error _ => []
  | .ok transportId =>
    if transportId = directHttpPlugin then directHttpRequests library request.url redirects
    else []

end Direct

section Labels

/-- The labels of a host, in lower case and without the root's. -/
def hostLabels (host : String) : List (List Char) :=
  (Text.toAsciiLowercase (Text.trimEndMatches '.' host.toList)).splitOn '.'

def EndsInOnion (host : String) : Prop := (hostLabels host).getLast? = some "onion".toList

instance (host : String) : Decidable (EndsInOnion host) :=
  inferInstanceAs (Decidable ((hostLabels host).getLast? = some "onion".toList))

def NamesOnion (url : Url) : Prop := ∃ host ∈ url.hostStr, EndsInOnion host

instance (url : Url) : Decidable (NamesOnion url) :=
  inferInstanceAs (Decidable (∃ host ∈ url.hostStr, EndsInOnion host))

/-- A host is tested for more than its last label: there are labels before it, and they are of
letters, digits and hyphens only. -/
theorem isOnionHost_iff {host : String} :
    isOnionHost host ↔
      ∃ labels ≠ [], hostLabels host = labels ++ ["onion".toList] ∧
        ∀ label ∈ labels, Browser.isOnionLabel label := by
  unfold isOnionHost Browser.isOnionHost hostLabels
  generalize Text.toAsciiLowercase (Text.trimEndMatches '.' host.toList) = text
  have suffix : ".onion".toList = '.' :: "onion".toList := by decide
  have length : ".onion".length = 6 := by decide
  have whole : '.' ∉ "onion".toList := by decide
  simp only
  constructor
  · intro onion
    split at onion
    · rename_i isSuffix
      obtain ⟨name, rfl⟩ := isSuffix
      have isName : (name ++ ".onion".toList).take
          ((name ++ ".onion".toList).length - ".onion".length) = name := by
        simp [length]
      rw [isName, Bool.and_eq_true, List.all_eq_true] at onion
      have parts := (Text.splitOn_eq_concat_iff whole).mpr ⟨name, rfl, rfl⟩
      rw [suffix]
      exact ⟨name.splitOn '.', parts.2, parts.1, onion.2⟩
    · cases onion
  · rintro ⟨labels, nonempty, isSplit, areLabels⟩
    obtain ⟨name, rfl, rfl⟩ := (Text.splitOn_eq_concat_iff whole).mp ⟨isSplit, nonempty⟩
    rw [← suffix, if_pos (List.suffix_append name _)]
    have isName : (name ++ ".onion".toList).take
        ((name ++ ".onion".toList).length - ".onion".length) = name := by
      simp [length]
    rw [isName, Bool.and_eq_true, List.all_eq_true]
    refine ⟨?_, areLabels⟩
    cases name with
    | nil => exact absurd (areLabels [] (by simp)) (by decide)
    | cons first rest => rfl

end Labels

section Routing

variable (library : RedirectLibrary)

/-- The URL that redirects lead to, as long as each of them is to an HTTP URL. -/
def redirectTarget (url : Url) (locations : List String) : Option Url :=
  locations.foldlM
    (fun url location => (library.join url location).filter fun next => isHttpScheme next.scheme)
    url

variable {library}

theorem redirectTarget_cons {url : Url} {location : String} {rest : List String} :
    redirectTarget library url (location :: rest) =
      ((library.join url location).filter fun next => isHttpScheme next.scheme).bind fun next =>
        redirectTarget library next rest := rfl

/-- The client requests the URLs that the first redirects lead to. -/
theorem mem_followRedirects_iff {limit : Nat} {url target : Url} {locations : List String} :
    target ∈ followRedirects library limit url locations ↔
      ∃ followed, followed <+: locations ∧ followed.length ≤ limit ∧
        redirectTarget library url followed = some target := by
  have nowhere (url : Url) (locations : List String) :
      ∃ followed, followed <+: locations ∧ followed.length ≤ 0 ∧
        redirectTarget library url followed = some url :=
    ⟨[], List.nil_prefix, Nat.le_refl 0, rfl⟩
  induction limit generalizing url locations with
  | zero =>
    rw [followRedirects, List.mem_singleton]
    constructor
    · rintro rfl
      exact nowhere target locations
    · rintro ⟨followed, -, short, leads⟩
      rw [List.length_eq_zero_iff.mp (Nat.le_zero.mp short)] at leads
      exact (Option.some.inj leads).symm
  | succ limit ih =>
    cases locations with
    | nil =>
      rw [followRedirects, List.mem_singleton]
      constructor
      · rintro rfl
        exact ⟨[], List.nil_prefix, Nat.zero_le _, rfl⟩
      · rintro ⟨followed, isPrefix, -, leads⟩
        rw [List.prefix_nil.mp isPrefix] at leads
        exact (Option.some.inj leads).symm
    | cons location rest =>
      have behind : target ∈ (match library.join url location with
            | some next =>
              if isHttpScheme next.scheme then followRedirects library limit next rest else []
            | none => []) ↔
          ∃ followed, followed <+: rest ∧ followed.length ≤ limit ∧
            redirectTarget library url (location :: followed) = some target := by
        simp only [redirectTarget_cons]
        cases library.join url location with
        | none => simp
        | some next =>
          cases http : isHttpScheme next.scheme <;> simp [Option.filter, http, ih]
      rw [followRedirects, List.mem_cons, behind]
      constructor
      · rintro (rfl | ⟨followed, isPrefix, short, leads⟩)
        · exact ⟨[], List.nil_prefix, Nat.zero_le _, rfl⟩
        · exact ⟨location :: followed, List.cons_prefix_cons.mpr ⟨rfl, isPrefix⟩,
            Nat.succ_le_succ short, leads⟩
      · rintro ⟨followed, isPrefix, short, leads⟩
        cases followed with
        | nil => exact .inl (Option.some.inj leads).symm
        | cons head others =>
          obtain ⟨rfl, restPrefix⟩ := List.cons_prefix_cons.mp isPrefix
          exact .inr ⟨others, restPrefix, Nat.le_of_succ_le_succ short, leads⟩

/-- The default registry gives a URL to the direct transport where it is an HTTP URL whose host
is no onion host. -/
theorem resolveHttpTransport_eq_direct_iff {transport : IpfsTransportKind} {target : String} :
    (withDefaultHttp transport).resolveHttpTransport library.toUrlLibrary target =
        .ok directHttpPlugin ↔
      ∃ url, library.parse target = .ok url ∧ isHttpScheme url.scheme ∧ ¬isOnionUrl url := by
  have ipfsOther : httpTransportId transport ≠ directHttpPlugin := by
    cases transport <;> decide
  have torOther : torArtiHttpPlugin ≠ directHttpPlugin := by decide
  unfold PluginRegistry.resolveHttpTransport parseHttpUrl
  cases parsed : library.parse target with
  | error error => simp [Except.mapError, bind, Except.bind]
  | ok url =>
    simp only [mapError_ok, ok_bind, withDefaultHttp, List.findSome?_cons, List.findSome?_nil,
      ipfsService, torService]
    by_cases ipfs : url.scheme = "ipfs" ∨ url.scheme = "ipns"
    · have notHttp : isHttpScheme url.scheme = false := by
        rcases ipfs with scheme | scheme <;> rw [scheme] <;> decide
      simp [ipfs, ipfsOther, notHttp]
    · by_cases tor : isTorHttpScheme url.scheme
      · have notHttp : isHttpScheme url.scheme = false := by
          simp only [isTorHttpScheme, Bool.or_eq_true, decide_eq_true_eq] at tor
          rcases tor with scheme | scheme <;> rw [scheme] <;> decide
        simp [ipfs, tor, torOther, notHttp]
      · cases http : isHttpScheme url.scheme <;> cases onion : isOnionUrl url <;>
          simp [ipfs, tor, http, onion, torOther]

/-- A fetch and the redirects that answer it. A host that ends in `onion` has labels before
that, and they are of letters, digits and hyphens only; and where the fetch is not given to Tor,
no redirect that the client follows leads to such a host. -/
structure StaysClearOfOnions (library : RedirectLibrary) (request : HttpFetchRequest)
    (redirects : List String) : Prop where
  recognized : ∀ url host, library.parse request.url = .ok url → isHttpScheme url.scheme →
    url.hostStr = some host → EndsInOnion host →
      ∃ labels ≠ [], hostLabels host = labels ++ ["onion".toList] ∧
        ∀ label ∈ labels, Browser.isOnionLabel label
  redirected : ∀ url, library.parse request.url = .ok url → isHttpScheme url.scheme →
    ¬isOnionUrl url → ∀ followed ≠ [], followed <+: redirects → followed.length ≤ 6 →
      ∀ target, redirectTarget library url followed = some target → ¬NamesOnion target

theorem transportOf_eq_direct_iff {transport : IpfsTransportKind} {request : HttpFetchRequest}
    (unrouted : request.transportId = none) :
    transportOf library (withDefaultHttp transport) request = .ok directHttpPlugin ↔
      ∃ url, library.parse request.url = .ok url ∧ isHttpScheme url.scheme ∧
        ¬isOnionUrl url := by
  rw [← @resolveHttpTransport_eq_direct_iff library transport request.url]
  have installed : directHttpPlugin ∈ (withDefaultHttp transport).transports := by
    simp [withDefaultHttp]
  unfold transportOf
  rw [unrouted, bind_eq_ok_iff]
  constructor
  · rintro ⟨transportId, resolved, isInstalled⟩
    unfold PluginRegistry.transport at isInstalled
    split at isInstalled
    · rw [← Except.ok.inj isInstalled]
      exact resolved
    · cases isInstalled
  · intro resolved
    exact ⟨directHttpPlugin, resolved, if_pos installed⟩

/-- What the direct transport requests for a fetch of which the registry chooses the
transport. -/
theorem mem_directRequestsOf_iff {transport : IpfsTransportKind} {request : HttpFetchRequest}
    {redirects : List String} {target : Url} (unrouted : request.transportId = none) :
    target ∈ directRequestsOf library (withDefaultHttp transport) request redirects ↔
      ∃ url, library.parse request.url = .ok url ∧ isHttpScheme url.scheme ∧ ¬isOnionUrl url ∧
        ∃ followed, followed <+: redirects ∧ followed.length ≤ 6 ∧
          redirectTarget library url followed = some target := by
  have direct := @transportOf_eq_direct_iff library transport request unrouted
  constructor
  · intro membership
    unfold directRequestsOf at membership
    split at membership
    · cases membership
    · rename_i transportId chosen
      split at membership
      · rename_i isDirect
        rw [isDirect] at chosen
        obtain ⟨url, parsed, http, notOnion⟩ := direct.mp chosen
        simp only [directHttpRequests, parseHttpUrl, parsed, mapError_ok, http, if_true,
          fetchHttpUrlOverNetwork] at membership
        exact ⟨url, parsed, http, notOnion, mem_followRedirects_iff.mp membership⟩
      · cases membership
  · rintro ⟨url, parsed, http, notOnion, followed⟩
    have chosen := direct.mpr ⟨url, parsed, http, notOnion⟩
    simp only [directRequestsOf, chosen, if_true, directHttpRequests, parseHttpUrl, parsed,
      mapError_ok, http, fetchHttpUrlOverNetwork]
    exact mem_followRedirects_iff.mpr followed

/-- The direct transport requests an onion name for exactly the fetches whose own URL has one
that is not recognized, or whose redirects lead to one. -/
theorem directRequestsOf_onionFree_iff {transport : IpfsTransportKind}
    {request : HttpFetchRequest} {redirects : List String}
    (unrouted : request.transportId = none) :
    (∀ target ∈ directRequestsOf library (withDefaultHttp transport) request redirects,
        ¬NamesOnion target) ↔
      StaysClearOfOnions library request redirects := by
  constructor
  · intro free
    constructor
    · intro url host parsed http isHost endsInOnion
      rw [← isOnionHost_iff]
      by_contra unrecognized
      have notOnion : ¬isOnionUrl url := by simpa [isOnionUrl, isHost] using unrecognized
      exact free url ((mem_directRequestsOf_iff unrouted).mpr
        ⟨url, parsed, http, notOnion, [], List.nil_prefix, Nat.zero_le 6, rfl⟩)
        ⟨host, isHost, endsInOnion⟩
    · intro url parsed http notOnion followed _ isPrefix short target leads
      exact free target ((mem_directRequestsOf_iff unrouted).mpr
        ⟨url, parsed, http, notOnion, followed, isPrefix, short, leads⟩)
  · intro clear target membership
    obtain ⟨url, parsed, http, notOnion, followed, isPrefix, short, leads⟩ :=
      (mem_directRequestsOf_iff unrouted).mp membership
    by_cases first : followed = []
    · subst first
      obtain rfl : url = target := Option.some.inj leads
      rintro ⟨host, isHost, endsInOnion⟩
      have recognized : isOnionHost host :=
        isOnionHost_iff.mpr (clear.recognized url host parsed http isHost endsInOnion)
      apply notOnion
      rw [isOnionUrl, isHost]
      exact recognized
    · exact clear.redirected url parsed http notOnion followed first isPrefix short target leads

end Routing

section Sample

/-- URLs with a scheme and a host, whose redirects are to absolute URLs. -/
def sampleRedirects : RedirectLibrary where
  parse text :=
    match Text.splitOnce "://".toList text.toList with
    | some (scheme, rest) => .ok {
        text
        scheme := String.ofList scheme
        hostStr := some (String.ofList (Text.before (· = '/') rest)) }
    | none => .error "relative URL without a base"
  join _ location :=
    (Text.splitOnce "://".toList location.toList).map fun (scheme, rest) => {
      text := location
      scheme := String.ofList scheme
      hostStr := some (String.ofList (Text.before (· = '/') rest)) }

def sampleRequest (url : String) : HttpFetchRequest where
  profile := "default"
  url := url
  transportId := none
  purpose := .navigation
  suggestedDownloadFilename := none

/-- A fetch whose redirect stays on ordinary names requests no onion name. -/
theorem redirect_to_ordinary_name :
    StaysClearOfOnions sampleRedirects (sampleRequest "http://example.com/")
      ["https://example.com/"] := by
  have free : ∀ target ∈ directRequestsOf sampleRedirects (withDefaultHttp .gateway)
      (sampleRequest "http://example.com/") ["https://example.com/"], ¬NamesOnion target := by
    decide +kernel
  exact (directRequestsOf_onionFree_iff rfl).mp free

/-- A redirect to an onion name is followed over the clear web, and a host with an underscore is
requested there although its last label is `onion`. -/
theorem onion_names_over_direct_transport :
    (∃ target ∈ directRequestsOf sampleRedirects (withDefaultHttp .gateway)
        (sampleRequest "http://example.com/") ["http://example.onion/"], NamesOnion target) ∧
      ∃ target ∈ directRequestsOf sampleRedirects (withDefaultHttp .gateway)
        (sampleRequest "http://exa_mple.onion/") [], NamesOnion target := by
  constructor <;> decide +kernel

end Sample

end Slate.Broadwebd
