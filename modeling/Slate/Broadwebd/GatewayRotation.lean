import Mathlib.Data.List.Nodup
import Slate.Foundation.SocketAddr
import Slate.Broadwebd.IpfsAddress
import Slate.Broadwebd.GatewayRuns

/-!
# Rotation over the gateways

A fetch goes round the gateways from the active one until one of them serves. It gets round where
the URL of each gateway it comes to parses; a gateway whose URL does not is not passed over but
ends the fetch.
-/

namespace Slate.Broadwebd

open Foundation

section Endpoints

def isLoopback : Net.IpAddr → Bool
  | .v4 ip => ip.first = 127
  | .v6 ip => ip.segments = [0, 0, 0, 0, 0, 0, 0, 1]

def withoutBrackets (host : List Char) : List Char :=
  if host.head? = some '[' ∧ host.tail.getLast? = some ']' then host.tail.dropLast else host

def isNumericLoopbackHost (host : List Char) : Bool :=
  match Net.IpAddr.parse (String.ofList (withoutBrackets host)) with
  | .ok address => isLoopback address
  | .error _ => false

/-- The check that the base of a gateway passes. -/
def validateGatewayUrl (library : UrlLibrary) (gatewayBase : String) (scope : IpfsGatewayScope) :
    Except BroadwebdError Unit := do
  let url ← parseHttpUrl library gatewayBase
  if url.scheme ≠ "http" ∧ url.scheme ≠ "https" then
    .error (.unsupportedRequest s!"unsupported IPFS gateway scheme: {url.scheme}")
  else
    match url.hostStr with
    | none => .error (.invalidUrl s!"{gatewayBase} is missing a gateway host")
    | some host =>
      match scope, isNumericLoopbackHost host.toList with
      | .localScope, true => .ok ()
      | .localScope, false => .error (.unsupportedRequest
          s!"local IPFS gateway must use a numeric loopback address: {gatewayBase}")
      | .publicScope, false => .ok ()
      | .publicScope, true => .error (.unsupportedRequest
          s!"public IPFS gateway mode requires a non-loopback gateway: {gatewayBase}")

end Endpoints

namespace IpfsGatewayTransport

section Answers

variable {transport : IpfsGatewayTransport} (fetch : Fetch transport)

def answerTo (sent : transport.Index × Url) : Except BroadwebdError HttpFetchResponse :=
  fetch.executeGatewayRequest sent.1 sent.2

/-- The responses to requests, each with the route of the gateway that produced it. -/
def responsesTo (requests : List (transport.Index × Url)) : List HttpFetchResponse :=
  requests.filterMap fun sent => (answerTo fetch sent).toOption.map fun response =>
    response.withRoute (selectedGatewayRoute fetch.request (transport.gateway sent.1))

def errorOf : Except BroadwebdError HttpFetchResponse → Option BroadwebdError
  | .ok _ => none
  | .error error => some error

def errorsOf (requests : List (transport.Index × Url)) : List BroadwebdError :=
  requests.filterMap fun sent => errorOf (answerTo fetch sent)

/-- The result where no gateway serves. -/
def settled (lastError : Option BroadwebdError) :
    Option HttpFetchResponse → Except BroadwebdError HttpFetchResponse
  | some response => .ok response
  | none => .error (lastError.getD (.unsupportedRequest "no IPFS gateways are configured"))

end Answers

section Rotation

variable (library : UrlLibrary) {transport : IpfsGatewayTransport} (fetch : Fetch transport)
  (activeGateway : Nat)

/-- What a fetch returns that no gateway served: the last response, or the last error if there
was no response. -/
structure ReturnsLastFailure (outcome : Outcome transport) : Prop where
  response : ∀ response, (responsesTo fetch outcome.requests).getLast? = some response →
    outcome.result = .ok response
  error : responsesTo fetch outcome.requests = [] →
    ∃ error, (errorsOf fetch outcome.requests).getLast? = some error ∧
      outcome.result = .error error

/-- A fetch goes round the gateways once, from the active one, until one serves. -/
structure Rotates (outcome : Outcome transport) : Prop where
  cyclic : ∀ position (sent : transport.Index × Url), outcome.requests[position]? = some sent →
    sent.1 = transport.rotated (transport.activeGatewayIndex activeGateway) position
  once : (outcome.requests.map Prod.fst).Nodup
  stops : ∀ before sent after, outcome.requests = before ++ sent :: after →
    UsableAnswer (answerTo fetch sent) → after = []
  served : ∀ sent ∈ outcome.requests, ∀ response, answerTo fetch sent = .ok response →
    isUsableGatewayResponse response → outcome.result =
      .ok (response.withRoute (selectedGatewayRoute fetch.request (transport.gateway sent.1))) ∧
        outcome.setActiveGatewayIndex = some sent.1
  unserved : (∀ sent ∈ outcome.requests, ¬UsableAnswer (answerTo fetch sent)) →
    (∀ index, index ∈ outcome.requests.map Prod.fst) ∧
      outcome.setActiveGatewayIndex = some 0 ∧ ReturnsLastFailure fetch outcome

/-- A gateway that a fetch comes to, having failed at all gateways before it. -/
def Reached (index : transport.Index) : Prop :=
  ∃ earlier later, transport.gatewayAttemptOrder activeGateway = earlier ++ index :: later ∧
    ∀ other ∈ earlier, attemptAt library fetch other = .failed

end Rotation

section Loop

variable {library : UrlLibrary} {transport : IpfsGatewayTransport} {fetch : Fetch transport}
  {order : List transport.Index} {index : transport.Index} {url : Url}
  {lastError : Option BroadwebdError} {lastResponse : Option HttpFetchResponse}

theorem attemptAt_eq_aborted_iff :
    attemptAt library fetch index = .aborted ↔
      ¬∃ url, gatewayUrl library fetch index = .ok url := by
  cases built : gatewayUrl library fetch index with
  | error error => simp [attemptAt, built]
  | ok url =>
      cases answer : fetch.executeGatewayRequest index url with
      | error error => simp [attemptAt, built, answer]
      | ok response =>
          cases usable : isUsableGatewayResponse response <;> simp [attemptAt, built, answer, usable]

/-- A gateway at which the attempt fails is asked before those behind it, and leaves its error
or its response to them. -/
theorem attemptGateways_of_failed_cons {rest : List transport.Index}
    (failed : attemptAt library fetch index = .failed) :
    ∃ url, gatewayUrl library fetch index = .ok url ∧
      ((∃ error, fetch.executeGatewayRequest index url = .error error ∧
        attemptGateways library fetch (index :: rest) lastError lastResponse =
          (attemptGateways library fetch rest (some error) lastResponse).afterRequest index url) ∨
      ∃ response, fetch.executeGatewayRequest index url = .ok response ∧
        attemptGateways library fetch (index :: rest) lastError lastResponse =
          (attemptGateways library fetch rest lastError (some (response.withRoute
            (selectedGatewayRoute fetch.request (transport.gateway index))))).afterRequest
              index url) := by
  cases built : gatewayUrl library fetch index with
  | error error => simp [attemptAt, built] at failed
  | ok url =>
      refine ⟨url, rfl, ?_⟩
      cases answer : fetch.executeGatewayRequest index url with
      | error error => exact .inl ⟨error, rfl, by simp [attemptGateways, built, answer]⟩
      | ok response =>
          cases usable : isUsableGatewayResponse response with
          | true => simp [attemptAt, built, answer, usable] at failed
          | false => exact .inr ⟨response, rfl, by simp [attemptGateways, built, answer, usable]⟩

theorem afterRequest_result (outcome : Outcome transport) :
    (outcome.afterRequest index url).result = outcome.result := rfl

/-- A pass that is aborted leaves the shared index alone. -/
theorem setActiveGatewayIndex_eq_none_iff :
    (attemptGateways library fetch order lastError lastResponse).setActiveGatewayIndex = none ↔
      ¬Uninterrupted (attemptAt library fetch) order := by
  induction order generalizing lastError lastResponse with
  | nil => simp [attemptGateways, Uninterrupted]
  | cons index rest inductionHypothesis =>
      rw [uninterrupted_cons_iff]
      cases built : gatewayUrl library fetch index with
      | error error => simp [attemptGateways, attemptAt, built]
      | ok url =>
          cases answer : fetch.executeGatewayRequest index url with
          | error error =>
              simp [attemptGateways, attemptAt, built, answer, Outcome.afterRequest,
                inductionHypothesis]
          | ok response =>
              cases usable : isUsableGatewayResponse response <;>
                simp [attemptGateways, attemptAt, built, answer, usable, Outcome.afterRequest,
                  inductionHypothesis]

/-- The gateway that serves gives the result and becomes the active one. -/
theorem attemptGateways_of_serving {response : HttpFetchResponse}
    (serves : serving (attemptAt library fetch) order = some index)
    (isUrl : gatewayUrl library fetch index = .ok url)
    (answer : fetch.executeGatewayRequest index url = .ok response) :
    (attemptGateways library fetch order lastError lastResponse).result =
        .ok (response.withRoute (selectedGatewayRoute fetch.request (transport.gateway index))) ∧
      (attemptGateways library fetch order lastError lastResponse).setActiveGatewayIndex =
        some (index : Nat) := by
  induction order generalizing lastError lastResponse with
  | nil => cases serves
  | cons first rest inductionHypothesis =>
      cases outcome : attemptAt library fetch first with
      | aborted => simp [serving, outcome] at serves
      | failed =>
          rw [serving, outcome] at serves
          obtain ⟨firstUrl, -, ⟨error, -, next⟩ | ⟨firstResponse, -, next⟩⟩ :=
            @attemptGateways_of_failed_cons library transport fetch first lastError lastResponse
              rest outcome
          · rw [next]
            exact inductionHypothesis serves
          · rw [next]
            exact inductionHypothesis serves
      | served =>
          obtain rfl : first = index := by simpa [serving, outcome] using serves
          have usable : isUsableGatewayResponse response := by
            by_contra unusable
            simp [attemptAt, isUrl, answer, unusable] at outcome
          simp [attemptGateways, isUrl, answer, usable]

theorem getLast?_cons_or {Item : Type} (last : Item) (items : List Item) (before : Option Item) :
    (last :: items).getLast?.or before = items.getLast?.or (some last) := by
  rw [List.getLast?_cons]
  cases items.getLast? <;> rfl

/-- A pass in vain puts the index back and settles on its last response or error. -/
theorem attemptGateways_of_failed
    (allFailed : ∀ other ∈ order, attemptAt library fetch other = .failed) :
    (attemptGateways library fetch order lastError lastResponse).setActiveGatewayIndex = some 0 ∧
      (attemptGateways library fetch order lastError lastResponse).result =
        settled ((errorsOf fetch (attemptGateways library fetch order lastError
            lastResponse).requests).getLast?.or lastError)
          ((responsesTo fetch (attemptGateways library fetch order lastError
            lastResponse).requests).getLast?.or lastResponse) := by
  induction order generalizing lastError lastResponse with
  | nil => cases lastResponse <;> exact ⟨rfl, rfl⟩
  | cons first rest inductionHypothesis =>
      obtain ⟨failed, othersFailed⟩ := List.forall_mem_cons.mp allFailed
      obtain ⟨firstUrl, -, ⟨error, answer, next⟩ | ⟨response, answer, next⟩⟩ :=
        @attemptGateways_of_failed_cons library transport fetch first lastError lastResponse
          rest failed
      · obtain ⟨reset, result⟩ := @inductionHypothesis (some error) lastResponse othersFailed
        rw [next]
        refine ⟨reset, ?_⟩
        rw [afterRequest_result, result]
        simp [Outcome.afterRequest, errorsOf, responsesTo, answerTo, answer, errorOf,
          getLast?_cons_or, Except.toOption]
      · obtain ⟨reset, result⟩ := @inductionHypothesis lastError (some (response.withRoute
          (selectedGatewayRoute fetch.request (transport.gateway first)))) othersFailed
        rw [next]
        refine ⟨reset, ?_⟩
        rw [afterRequest_result, result]
        simp [Outcome.afterRequest, errorsOf, responsesTo, answerTo, answer, errorOf,
          getLast?_cons_or, Except.toOption]

end Loop

section Round

variable {transport : IpfsGatewayTransport} (activeGateway : Nat)

theorem nodup_gatewayAttemptOrder : (transport.gatewayAttemptOrder activeGateway).Nodup := by
  unfold gatewayAttemptOrder
  generalize transport.activeGatewayIndex activeGateway = start
  apply List.Nodup.map_on _ List.nodup_range
  intro offset inRange other otherInRange same
  have values := congrArg Fin.val same
  rw [rotated_val (List.mem_range.mp inRange), rotated_val (List.mem_range.mp otherInRange)]
    at values
  have bound := List.mem_range.mp inRange
  have otherBound := List.mem_range.mp otherInRange
  have startBound := start.isLt
  split at values <;> split at values <;> omega

theorem mem_gatewayAttemptOrder (index : transport.Index) :
    index ∈ transport.gatewayAttemptOrder activeGateway := by
  unfold gatewayAttemptOrder
  generalize transport.activeGatewayIndex activeGateway = start
  have startBound := start.isLt
  have bound := index.isLt
  -- how far the gateway is behind the active one
  obtain ⟨offset, inRange, isOffset⟩ : ∃ offset < transport.gateways.length,
      (start : Nat) + offset = index ∨
        (start : Nat) + offset = index + transport.gateways.length := by
    by_cases le : (start : Nat) ≤ index
    · exact ⟨index - start, by omega, .inl (by omega)⟩
    · exact ⟨index + transport.gateways.length - start, by omega, .inr (by omega)⟩
  refine List.mem_map.mpr ⟨offset, List.mem_range.mpr inRange, Fin.ext ?_⟩
  rw [rotated_val inRange]
  split <;> omega

theorem rotated_of_getElem? {position : Nat} {index : transport.Index}
    (atPosition : (transport.gatewayAttemptOrder activeGateway)[position]? = some index) :
    index = transport.rotated (transport.activeGatewayIndex activeGateway) position := by
  unfold gatewayAttemptOrder at atPosition
  rw [List.getElem?_map, Option.map_eq_some_iff] at atPosition
  obtain ⟨offset, isOffset, rfl⟩ := atPosition
  obtain ⟨bound, rfl⟩ := List.getElem?_eq_some_iff.mp isOffset
  rw [List.getElem_range]

end Round

section Results

variable {library : UrlLibrary} {transport : IpfsGatewayTransport} {fetch : Fetch transport}
  {activeGateway : Nat} {parts : IpfsUrlParts}

theorem requests_fetchHttpWithExecutor :
    (fetchHttpWithExecutor library fetch activeGateway).requests.map Prod.fst =
      contacted (attemptAt library fetch) (transport.gatewayAttemptOrder activeGateway) :=
  requests_attemptGateways _ none none

theorem usableAnswer_iff_of_mem {sent : transport.Index × Url}
    (isSent : sent ∈ (fetchHttpWithExecutor library fetch activeGateway).requests) :
    UsableAnswer (answerTo fetch sent) ↔ attemptAt library fetch sent.1 = .served :=
  usableAnswer_iff (gatewayUrl_of_mem_requests isSent)

theorem uninterrupted_iff :
    Uninterrupted (attemptAt library fetch) (transport.gatewayAttemptOrder activeGateway) ↔
      ∀ index, Reached library fetch activeGateway index →
        ∃ url, gatewayUrl library fetch index = .ok url := by
  constructor
  · rintro uninterrupted index ⟨earlier, later, split, allFailed⟩
    by_contra noUrl
    exact uninterrupted earlier index later split allFailed (attemptAt_eq_aborted_iff.mpr noUrl)
  · intro built earlier index later split allFailed aborted
    exact attemptAt_eq_aborted_iff.mp aborted (built index ⟨earlier, later, split, allFailed⟩)

/-- A fetch without a usable answer settles on its last response or error. -/
theorem returnsLastFailure
    (allFailed : ∀ index ∈ transport.gatewayAttemptOrder activeGateway,
      attemptAt library fetch index = .failed) :
    ReturnsLastFailure fetch (fetchHttpWithExecutor library fetch activeGateway) := by
  have result := (@attemptGateways_of_failed library transport fetch _ none none allFailed).2
  rw [Option.or_none, Option.or_none] at result
  constructor
  · intro response isLast
    unfold fetchHttpWithExecutor at isLast ⊢
    rw [result, isLast]
    rfl
  · intro noResponse
    obtain ⟨error, isLast⟩ : ∃ error, (errorsOf fetch
        (fetchHttpWithExecutor library fetch activeGateway).requests).getLast? = some error := by
      have pass := @requests_fetchHttpWithExecutor library transport fetch activeGateway
      rw [contacted_eq_self allFailed] at pass
      cases isRequests : (fetchHttpWithExecutor library fetch activeGateway).requests with
      | nil =>
          have asked := mem_gatewayAttemptOrder activeGateway transport.first
          rw [← pass, isRequests] at asked
          cases asked
      | cons sent others =>
          rw [isRequests] at noResponse
          cases answer : answerTo fetch sent with
          | ok response => simp [responsesTo, answer, Except.toOption] at noResponse
          | error error => simp [errorsOf, answer, errorOf, List.getLast?_cons]
    refine ⟨error, isLast, ?_⟩
    unfold fetchHttpWithExecutor at isLast noResponse ⊢
    rw [result, isLast, noResponse]
    rfl

theorem rotates_of_uninterrupted
    (uninterrupted : Uninterrupted (attemptAt library fetch)
      (transport.gatewayAttemptOrder activeGateway)) :
    Rotates fetch activeGateway (fetchHttpWithExecutor library fetch activeGateway) := by
  have pass := @requests_fetchHttpWithExecutor library transport fetch activeGateway
  have isPrefix := contacted_isPrefix (attemptAt library fetch)
    (transport.gatewayAttemptOrder activeGateway)
  constructor
  case cyclic =>
    intro position sent atPosition
    apply rotated_of_getElem?
    obtain ⟨untried, isOrder⟩ := isPrefix
    have inPass : (contacted (attemptAt library fetch)
        (transport.gatewayAttemptOrder activeGateway))[position]? = some sent.1 := by
      rw [← pass, List.getElem?_map, atPosition]
      rfl
    rw [← isOrder, List.getElem?_append_left (List.getElem?_eq_some_iff.mp inPass).1, inPass]
  case once =>
    rw [pass]
    exact (nodup_gatewayAttemptOrder activeGateway).sublist isPrefix.sublist
  case stops =>
    intro before sent after requests usable
    have isSent : sent ∈ (fetchHttpWithExecutor library fetch activeGateway).requests := by
      simp [requests]
    rw [requests, List.map_append, List.map_cons] at pass
    have noneBehind := eq_nil_of_contacted_served pass.symm
      ((usableAnswer_iff_of_mem isSent).mp usable)
    exact List.map_eq_nil_iff.mp noneBehind
  case served =>
    intro sent isSent response answer usable
    have serves := (usableAnswer_iff_of_mem isSent).mp ⟨response, answer, usable⟩
    have inPass : sent.1 ∈ contacted (attemptAt library fetch)
        (transport.gatewayAttemptOrder activeGateway) := by
      rw [← pass]
      exact List.mem_map_of_mem isSent
    exact attemptGateways_of_serving (serving_of_mem_contacted inPass serves)
      (gatewayUrl_of_mem_requests isSent) answer
  case unserved =>
    intro unserved
    have allFailed := failed_of_unserved uninterrupted (by
      intro index inPass serves
      rw [← pass] at inPass
      obtain ⟨sent, isSent, rfl⟩ := List.mem_map.mp inPass
      exact unserved sent isSent ((usableAnswer_iff_of_mem isSent).mpr serves))
    refine ⟨fun index => ?_, (attemptGateways_of_failed allFailed).1,
      returnsLastFailure allFailed⟩
    rw [pass, contacted_eq_self allFailed]
    exact mem_gatewayAttemptOrder activeGateway index

/-- A fetch that rotates writes the shared index. -/
theorem Rotates.setActiveGatewayIndex_ne_none {outcome : Outcome transport}
    (rotates : Rotates fetch activeGateway outcome) : outcome.setActiveGatewayIndex ≠ none := by
  by_cases served : ∃ sent ∈ outcome.requests, UsableAnswer (answerTo fetch sent)
  · obtain ⟨sent, isSent, response, answer, usable⟩ := served
    simp [(rotates.served sent isSent response answer usable).2]
  · have unserved : ∀ sent ∈ outcome.requests, ¬UsableAnswer (answerTo fetch sent) :=
      fun sent isSent usable => served ⟨sent, isSent, usable⟩
    simp [(rotates.unserved unserved).2.1]

theorem gatewayUrl_of_parts (isIpfs : ipfsUrlParts library fetch.request.url = .ok parts)
    (index : transport.Index) :
    gatewayUrl library fetch index =
      parseHttpUrl library (parts.gatewayHttpUrl (transport.gateway index).baseUrl) := by
  unfold gatewayUrl
  rw [ipfsGatewayHttpUrl_eq, isIpfs]
  rfl

/-- A fetch rotates over the gateways exactly where the URL of each gateway it comes to
parses. -/
theorem rotates_iff (isIpfs : ipfsUrlParts library fetch.request.url = .ok parts) :
    Rotates fetch activeGateway (fetchHttpWithExecutor library fetch activeGateway) ↔
      ∀ index, Reached library fetch activeGateway index →
        ∃ url, parseHttpUrl library
          (parts.gatewayHttpUrl (transport.gateway index).baseUrl) = .ok url := by
  simp only [← gatewayUrl_of_parts isIpfs]
  rw [← uninterrupted_iff]
  constructor
  · intro rotates
    by_contra interrupted
    exact rotates.setActiveGatewayIndex_ne_none (setActiveGatewayIndex_eq_none_iff.mpr interrupted)
  · exact rotates_of_uninterrupted

/-- Two public gateways, of which the second one serves. -/
def fallbackGateways (firstBase : String) : IpfsGatewayTransport where
  gateways := [⟨firstBase, .publicScope⟩, ⟨"https://ipfs.filebase.io", .publicScope⟩]
  nonempty := List.cons_ne_nil _ _

def fallbackFetch (firstBase : String) : Fetch (fallbackGateways firstBase) where
  request := {
    profile := "default", url := "ipfs://bafy/index.html", purpose := .navigation }
  executeGatewayRequest index _ :=
    if (index : Nat) = 0 then .error (.request "connection refused") else .ok samplePage

def fallbackParts : IpfsUrlParts where
  «namespace» := "ipfs"
  name := "bafy".toList
  path := "/index.html".toList
  query := none

theorem fallbackFetch_rotates :
    Rotates (fallbackFetch "https://ipfs.io") 0
        (fetchHttpWithExecutor (standardUrls UrlStandard.asciiParsers id)
          (fallbackFetch "https://ipfs.io") 0) ↔
      ∀ index, Reached (standardUrls UrlStandard.asciiParsers id)
          (fallbackFetch "https://ipfs.io") 0 index →
        ∃ url, parseHttpUrl (standardUrls UrlStandard.asciiParsers id)
          (fallbackParts.gatewayHttpUrl
            ((fallbackGateways "https://ipfs.io").gateway index).baseUrl) = .ok url :=
  rotates_iff rfl

/-- A space at the end of a base passes the check of the gateway, but no URL can go on behind
it: the gateway behind it, which would serve, is not asked. -/
theorem spaced_gateway_ends_fetch :
    (∀ gateway ∈ (fallbackGateways "https://ipfs.io ").gateways,
        validateGatewayUrl (standardUrls UrlStandard.asciiParsers id) gateway.baseUrl
          gateway.scope = .ok ()) ∧
      ipfsUrlParts (standardUrls UrlStandard.asciiParsers id) "ipfs://bafy/index.html" =
        .ok fallbackParts ∧
      ¬Rotates (fallbackFetch "https://ipfs.io ") 0
        (fetchHttpWithExecutor (standardUrls UrlStandard.asciiParsers id)
          (fallbackFetch "https://ipfs.io ") 0) := by
  refine ⟨fun gateway isGateway => ?_, rfl, fun rotates =>
    rotates.setActiveGatewayIndex_ne_none rfl⟩
  rcases List.mem_cons.mp isGateway with rfl | isGateway
  · rfl
  · rw [List.mem_singleton.mp isGateway]
    rfl

end Results

end IpfsGatewayTransport

end Slate.Broadwebd
