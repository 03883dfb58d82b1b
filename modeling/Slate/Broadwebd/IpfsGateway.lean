import Mathlib.Data.List.Range
import Slate.Foundation.Failover
import Slate.Broadwebd.Http

/-!
# The IPFS gateway transport

A fetch walks the configured gateways once, from the one that served last. The transport
remembers that gateway in an index that all its fetches share.
-/

namespace Slate.Broadwebd

open Foundation

def ipfsGatewayPlugin : String := "ipfs-gateway"

section Address

structure IpfsUrlParts where
  «namespace» : String
  name : List Char
  path : List Char
  query : Option (List Char)

def ipfsNamespace (scheme : String) : Except BroadwebdError String :=
  if scheme = "ipfs" then .ok "ipfs"
  else if scheme = "ipns" then .ok "ipns"
  else .error (.unsupportedRequest s!"unsupported IPFS scheme: {scheme}")

def ipfsUrlParts (library : UrlLibrary) (source : String) : Except BroadwebdError IpfsUrlParts := do
  let parsed ← parseHttpUrl library source
  let namespaceOf ← ipfsNamespace parsed.scheme
  let authority ← match Text.splitOnce "://".toList source.toList with
    | some (_, authority) => .ok authority
    | none => .error (.invalidUrl s!"{source} is missing an authority")
  let endsName char := char = '/' || char = '?' || char = '#'
  let name := Text.before endsName authority
  if name = [] then
    .error (.invalidUrl s!"{source} is missing a content name")
  else if '@' ∈ name ∨ ':' ∈ name then
    .error (.invalidUrl s!"{source} must not include userinfo or a port")
  else
    let remainder := Text.fromStop endsName authority
    let path :=
      if remainder.head? = some '/' then
        Text.before (fun char => char = '?' || char = '#') remainder
      else ['/']
    -- the query is what stands behind the first question mark, also behind a fragment's start
    let query := match Text.fromStop (· = '?') remainder with
      | [] => none
      | _ :: query => some (Text.before (· = '#') query)
    .ok { «namespace» := namespaceOf, name, path, query }

def ipfsGatewayHttpUrl (library : UrlLibrary) (source gatewayBase : String) :
    Except BroadwebdError String := do
  let parts ← ipfsUrlParts library source
  let output := Text.trimEndMatches '/' gatewayBase.toList ++ '/' :: parts.namespace.toList ++
    '/' :: parts.name
  let output := if parts.path ≠ ['/'] then output ++ parts.path else output
  let output := match parts.query with
    | some query => output ++ '?' :: query
    | none => output
  .ok (String.ofList output)

end Address

section Responses

/-- A page that would fetch the content by a service worker of its own. -/
def isServiceWorkerGatewayBootstrap (response : HttpFetchResponse) : Bool :=
  let finalUrl := Text.toAsciiLowercase response.finalUrl.toList
  if Text.contains finalUrl "://inbrowser.link/".toList ||
      Text.contains finalUrl ".ipfs.inbrowser.link".toList then true
  else
    let isHtml := response.contentType.any fun contentType =>
      Text.contains (Text.toAsciiLowercase contentType.toList) "text/html".toList
    if !isHtml then false
    else
      -- an ASCII text stands in the lossily decoded bytes where its bytes stand
      let start := response.body.take 4096
      decide ("IPFS Service Worker Gateway".toUTF8.toList <:+: start) ||
        decide ("Service Worker Required".toUTF8.toList <:+: start)

def isUsableGatewayResponse (response : HttpFetchResponse) : Bool :=
  response.statusCode == 200 && !isServiceWorkerGatewayBootstrap response

end Responses

inductive IpfsGatewayScope where
  | localScope
  | publicScope
  deriving DecidableEq, Repr

structure IpfsGatewayEndpoint where
  baseUrl : String
  scope : IpfsGatewayScope
  deriving DecidableEq, Repr

/-- The gateways of a transport. -/
structure IpfsGatewayTransport where
  gateways : List IpfsGatewayEndpoint
  nonempty : gateways ≠ []

namespace IpfsGatewayTransport

def fromGateways (gateways : List IpfsGatewayEndpoint) :
    Except BroadwebdError IpfsGatewayTransport :=
  if empty : gateways = [] then
    .error (.unsupportedRequest "IPFS gateway transport requires at least one gateway")
  else .ok ⟨gateways, empty⟩

variable (transport : IpfsGatewayTransport)

abbrev Index := Fin transport.gateways.length

theorem length_pos : 0 < transport.gateways.length :=
  List.length_pos_of_ne_nil transport.nonempty

def first : transport.Index := ⟨0, transport.length_pos⟩

def gateway (index : transport.Index) : IpfsGatewayEndpoint := transport.gateways.get index

def gatewayScope : IpfsGatewayScope := (transport.gateway transport.first).scope

def hasPublicGatewayFallback : Bool :=
  (transport.gateways.drop 1).any fun gateway => gateway.scope = .publicScope

/-- What the transport declares about the requests it sends. -/
def privacyBoundary : String :=
  match transport.gatewayScope, transport.hasPublicGatewayFallback with
  | .localScope, true =>
    "local IPFS gateway first; falls back to configured public IPFS gateways for IPFS/IPNS requests when local retrieval fails"
  | .localScope, false => "local IPFS gateway over HTTP"
  | .publicScope, _ =>
    "explicit public IPFS gateway list; requested CIDs, IPNS names, and client network metadata leave the machine"

/-- The gateway that the shared index stands for. -/
def activeGatewayIndex (activeGateway : Nat) : transport.Index :=
  if bound : activeGateway < transport.gateways.length then ⟨activeGateway, bound⟩
  else transport.first

/-- The gateway at a distance from another one, around the end of the list. -/
def rotated (start : transport.Index) (offset : Nat) : transport.Index :=
  ⟨(start + offset) % transport.gateways.length, Nat.mod_lt _ transport.length_pos⟩

def gatewayAttemptOrder (activeGateway : Nat) : List transport.Index :=
  (List.range transport.gateways.length).map
    (transport.rotated (transport.activeGatewayIndex activeGateway))

end IpfsGatewayTransport

def selectedGatewayPrivacyBoundary (gateway : IpfsGatewayEndpoint) : String :=
  match gateway.scope with
  | .localScope => s!"local IPFS gateway over HTTP: {gateway.baseUrl}"
  | .publicScope =>
    s!"public IPFS gateway: {gateway.baseUrl}; requested CIDs, IPNS names, and client network metadata leave the machine"

def selectedGatewayRoute (request : TransportHttpRequest) (gateway : IpfsGatewayEndpoint) :
    FetchRouteInfo where
  profile := request.profile
  transportId := ipfsGatewayPlugin
  privacyBoundary := selectedGatewayPrivacyBoundary gateway
  purpose := request.purpose

namespace IpfsGatewayTransport

variable (library : UrlLibrary) (transport : IpfsGatewayTransport)

/-- A fetch through the transport, with the answer of each gateway to its request. -/
structure Fetch where
  request : TransportHttpRequest
  executeGatewayRequest : transport.Index → Url → Except BroadwebdError HttpFetchResponse

/-- What a fetch does: the requests it sends, its result, and what it writes to the shared
index. -/
structure Outcome where
  requests : List (transport.Index × Url)
  result : Except BroadwebdError HttpFetchResponse
  setActiveGatewayIndex : Option Nat

variable {transport} (fetch : Fetch transport)

def Outcome.afterRequest (outcome : Outcome transport) (index : transport.Index) (url : Url) :
    Outcome transport :=
  { outcome with requests := (index, url) :: outcome.requests }

/-- The URL at which a gateway serves what the fetch asks for. -/
def gatewayUrl (index : transport.Index) : Except BroadwebdError Url := do
  let gatewayUrl ← ipfsGatewayHttpUrl library fetch.request.url (transport.gateway index).baseUrl
  parseHttpUrl library gatewayUrl

/-- The loop of a fetch over the gateways that are left to try. -/
def attemptGateways :
    List transport.Index → Option BroadwebdError → Option HttpFetchResponse → Outcome transport
  | [], lastError, lastResponse =>
    { requests := []
      result := match lastResponse with
        | some response => .ok response
        | none => .error (lastError.getD (.unsupportedRequest "no IPFS gateways are configured"))
      setActiveGatewayIndex := some 0 }
  | index :: rest, lastError, lastResponse =>
    match gatewayUrl library fetch index with
    | .error error => { requests := [], result := .error error, setActiveGatewayIndex := none }
    | .ok url =>
      match fetch.executeGatewayRequest index url with
      | .ok response =>
        let routed := response.withRoute
          (selectedGatewayRoute fetch.request (transport.gateway index))
        if isUsableGatewayResponse response then
          { requests := [(index, url)], result := .ok routed,
            setActiveGatewayIndex := some index }
        else (attemptGateways rest lastError (some routed)).afterRequest index url
      | .error error => (attemptGateways rest (some error) lastResponse).afterRequest index url

attribute [local grind =] attemptGateways

/-- A fetch that finds the shared index at a gateway. -/
def fetchHttpWithExecutor (activeGateway : Nat) : Outcome transport :=
  attemptGateways library fetch (transport.gatewayAttemptOrder activeGateway) none none

end IpfsGatewayTransport

/-- A response that the transport hands out at once. -/
def UsableAnswer (answer : Except BroadwebdError HttpFetchResponse) : Prop :=
  ∃ response, answer = .ok response ∧ isUsableGatewayResponse response

namespace IpfsGatewayTransport

section Passes

variable (library : UrlLibrary) {transport : IpfsGatewayTransport} (fetch : Fetch transport)

/-- How the attempt of a fetch at a gateway ends. -/
def attemptAt (index : transport.Index) : Attempt :=
  match gatewayUrl library fetch index with
  | .error _ => .aborted
  | .ok url =>
    match fetch.executeGatewayRequest index url with
    | .ok response => if isUsableGatewayResponse response then .served else .failed
    | .error _ => .failed

variable {library fetch} {index : transport.Index} {url : Url}

theorem usableAnswer_iff (isUrl : gatewayUrl library fetch index = .ok url) :
    UsableAnswer (fetch.executeGatewayRequest index url) ↔
      attemptAt library fetch index = .served := by
  unfold UsableAnswer attemptAt
  cases answer : fetch.executeGatewayRequest index url with
  | error error => simp [isUrl, answer]
  | ok response => simp [isUrl, answer]

/-- The requests of a fetch go to the gateways that its pass contacts. -/
theorem requests_attemptGateways (order : List transport.Index)
    (lastError : Option BroadwebdError) (lastResponse : Option HttpFetchResponse) :
    (attemptGateways library fetch order lastError lastResponse).requests.map Prod.fst =
      contacted (attemptAt library fetch) order := by
  induction order generalizing lastError lastResponse with
  | nil => rfl
  | cons index rest ih =>
    cases built : gatewayUrl library fetch index with
    | error error => simp [attemptGateways, contacted, attemptAt, built]
    | ok url =>
      cases answer : fetch.executeGatewayRequest index url with
      | error error =>
        simp [attemptGateways, contacted, attemptAt, built, answer, Outcome.afterRequest, ih]
      | ok response =>
        cases usable : isUsableGatewayResponse response <;>
          simp [attemptGateways, contacted, attemptAt, built, answer, usable,
            Outcome.afterRequest, ih]

theorem gatewayUrl_of_mem_requests {order : List transport.Index}
    {lastError : Option BroadwebdError} {lastResponse : Option HttpFetchResponse}
    (sent : (index, url) ∈ (attemptGateways library fetch order lastError lastResponse).requests) :
    gatewayUrl library fetch index = .ok url := by
  induction order generalizing lastError lastResponse with
  | nil => simp [attemptGateways] at sent
  | cons first rest ih =>
    cases built : gatewayUrl library fetch first with
    | error error => simp [attemptGateways, built] at sent
    | ok firstUrl =>
      have headOrLater (outcome : Outcome transport)
          (mem : (index, url) ∈ (outcome.afterRequest first firstUrl).requests) :
          gatewayUrl library fetch index = .ok url ∨ (index, url) ∈ outcome.requests := by
        rcases List.mem_cons.mp mem with same | later
        · obtain ⟨rfl, rfl⟩ := Prod.mk.inj same
          exact .inl built
        · exact .inr later
      cases answer : fetch.executeGatewayRequest first firstUrl with
      | error error =>
        simp only [attemptGateways, built, answer] at sent
        rcases headOrLater _ sent with isUrl | later
        · exact isUrl
        · exact ih later
      | ok response =>
        simp only [attemptGateways, built, answer] at sent
        split at sent
        · obtain ⟨rfl, rfl⟩ := Prod.mk.inj (List.mem_singleton.mp sent)
          exact built
        · rcases headOrLater _ sent with isUrl | later
          · exact isUrl
          · exact ih later

/-- A fetch moves the shared index to the gateway that served it, or back to the first one. -/
theorem setActiveGatewayIndex_attemptGateways {order : List transport.Index}
    {lastError : Option BroadwebdError} {lastResponse : Option HttpFetchResponse} {written : Nat}
    (isWritten : (attemptGateways library fetch order lastError
      lastResponse).setActiveGatewayIndex = some written) :
    written = 0 ∨ ∃ served : transport.Index,
      serving (attemptAt library fetch) order = some served ∧ written = served := by
  induction order generalizing lastError lastResponse with
  | nil =>
    simp only [attemptGateways, Option.some.injEq] at isWritten
    exact .inl isWritten.symm
  | cons index rest ih =>
    cases built : gatewayUrl library fetch index with
    | error error => simp [attemptGateways, built] at isWritten
    | ok url =>
      cases answer : fetch.executeGatewayRequest index url with
      | error error =>
        simp only [attemptGateways, built, answer] at isWritten
        simpa [serving, attemptAt, built, answer] using ih isWritten
      | ok response =>
        cases usable : isUsableGatewayResponse response with
        | true =>
          simp only [attemptGateways, built, answer, usable, if_true,
            Option.some.injEq] at isWritten
          exact .inr ⟨index, by simp [serving, attemptAt, built, answer, usable],
            isWritten.symm⟩
        | false =>
          simp only [attemptGateways, built, answer, usable, Bool.false_eq_true,
            if_false] at isWritten
          simpa [serving, attemptAt, built, answer, usable] using ih isWritten

/-- Every gateway that a fetch contacted before another one did not answer usably. -/
theorem of_requests_eq_append_cons {activeGateway : Nat}
    {before after : List (transport.Index × Url)}
    (requests : (fetchHttpWithExecutor library fetch activeGateway).requests =
      before ++ (index, url) :: after) :
    (∃ untried, transport.gatewayAttemptOrder activeGateway =
      before.map Prod.fst ++ index :: untried) ∧
      ∀ sent ∈ before, ¬UsableAnswer (fetch.executeGatewayRequest sent.1 sent.2) := by
  have pass : contacted (attemptAt library fetch) (transport.gatewayAttemptOrder activeGateway) =
      before.map Prod.fst ++ index :: after.map Prod.fst := by
    rw [← requests_attemptGateways _ none none]
    unfold fetchHttpWithExecutor at requests
    rw [requests]
    simp
  obtain ⟨split, failed, -⟩ := of_contacted_eq_append_cons pass
  refine ⟨split, fun sent membership usable => ?_⟩
  have isSent : sent ∈ (fetchHttpWithExecutor library fetch activeGateway).requests := by
    rw [requests]
    exact List.mem_append_left _ membership
  have served := (usableAnswer_iff (gatewayUrl_of_mem_requests isSent)).mp usable
  have isFailed := failed sent.1 (List.mem_map_of_mem membership)
  rw [served] at isFailed
  cases isFailed

end Passes

section Order

variable {transport : IpfsGatewayTransport} {start index : transport.Index}

theorem rotated_val {offset : Nat} (bound : offset < transport.gateways.length) :
    (transport.rotated start offset : Nat) =
      if start + offset < transport.gateways.length then (start : Nat) + offset
      else start + offset - transport.gateways.length := by
  have startBound := start.isLt
  change (start + offset) % transport.gateways.length = _
  split
  · exact Nat.mod_eq_of_lt ‹_›
  · rw [Nat.mod_eq_sub_mod (Nat.le_of_not_lt ‹_›)]
    apply Nat.mod_eq_of_lt
    omega

theorem gatewayAttemptOrder_split {activeGateway : Nat} {earlier untried : List transport.Index}
    (split : transport.gatewayAttemptOrder activeGateway = earlier ++ index :: untried) :
    earlier.length < transport.gateways.length ∧
      index = transport.rotated (transport.activeGatewayIndex activeGateway) earlier.length ∧
      ∀ offset < earlier.length,
        transport.rotated (transport.activeGatewayIndex activeGateway) offset ∈ earlier := by
  have lengths := congrArg List.length split
  simp only [gatewayAttemptOrder, List.length_map, List.length_range, List.length_append,
    List.length_cons] at lengths
  have bound : earlier.length < transport.gateways.length := by omega
  refine ⟨bound, ?_, ?_⟩
  · have at_ := congrArg (fun order => order[earlier.length]?) split
    simpa [gatewayAttemptOrder, bound, eq_comm] using at_
  · intro offset less
    have at_ := congrArg (fun order => order[offset]?) split
    simp only [gatewayAttemptOrder, List.getElem?_map, List.getElem?_append_left less] at at_
    rw [List.getElem?_range (less.trans bound)] at at_
    exact List.mem_of_getElem? at_.symm

/-- A gateway comes behind the first one in the order, unless the order starts at another
gateway that does not come later in the list. -/
theorem first_mem_or_le {activeGateway : Nat} {earlier untried : List transport.Index}
    (split : transport.gatewayAttemptOrder activeGateway = earlier ++ index :: untried)
    (other : index ≠ transport.first) :
    transport.first ∈ earlier ∨
      transport.activeGatewayIndex activeGateway ≠ transport.first ∧
        (transport.activeGatewayIndex activeGateway : Nat) ≤ index := by
  obtain ⟨bound, isIndex, earlierMembers⟩ := gatewayAttemptOrder_split split
  generalize transport.activeGatewayIndex activeGateway = start at isIndex earlierMembers ⊢
  have startBound := start.isLt
  by_cases le : start = transport.first ∨ (index : Nat) < start
  · left
    have indexVal := congrArg Fin.val isIndex
    rw [rotated_val bound] at indexVal
    -- the offset at which the rotation comes round to the first gateway
    obtain ⟨offset, less, isFirst⟩ : ∃ offset < earlier.length,
        transport.rotated start offset = transport.first := by
      rcases le with isStart | less
      · have startVal : (start : Nat) = 0 := congrArg Fin.val isStart
        have indexNe : (index : Nat) ≠ 0 := fun same => other (Fin.ext same)
        refine ⟨0, ?_, ?_⟩
        · split at indexVal <;> omega
        · apply Fin.ext
          rw [rotated_val transport.length_pos, startVal]
          simp [first, transport.length_pos]
      · have indexNe : (index : Nat) ≠ 0 := fun same => other (Fin.ext same)
        refine ⟨transport.gateways.length - start, ?_, ?_⟩
        · split at indexVal <;> omega
        · apply Fin.ext
          rw [rotated_val (by omega)]
          simp only [first]
          split <;> omega
    rw [← isFirst]
    exact earlierMembers offset less
  · right
    rw [not_or] at le
    exact ⟨le.1, Nat.le_of_not_lt le.2⟩

end Order

end IpfsGatewayTransport

end Slate.Broadwebd
