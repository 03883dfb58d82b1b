import Slate.Broadwebd.IpfsGateway

/-!
# Runs of fetches over one gateway transport

The fetches of a run may overlap: each reads the shared index where it begins and writes it
where it ends. A run reaches for a public gateway without asking the local one only where an
earlier fetch fell back to it.
-/

namespace Slate.Broadwebd

open Foundation

namespace IpfsGatewayTransport

/-- A fetch that has begun, with the shared index as it found it. -/
structure Begun (transport : IpfsGatewayTransport) where
  fetch : Fetch transport
  activeGateway : Nat

variable (library : UrlLibrary) {transport : IpfsGatewayTransport}

def Begun.outcome (begun : Begun transport) : Outcome transport :=
  fetchHttpWithExecutor library begun.fetch begun.activeGateway

/-- A transport in use: its shared index, the fetches under way and those that are over. -/
structure InUse (transport : IpfsGatewayTransport) where
  activeGateway : Nat
  inFlight : List (Begun transport)
  finished : List (Begun transport)

def InUse.start (transport : IpfsGatewayTransport) : InUse transport :=
  { activeGateway := 0, inFlight := [], finished := [] }

inductive Event (transport : IpfsGatewayTransport) where
  | begins (fetch : Fetch transport)
  | finishes (position : Nat)

def step (inUse : InUse transport) : Event transport → Option (InUse transport)
  | .begins fetch =>
    some { inUse with inFlight := inUse.inFlight ++ [⟨fetch, inUse.activeGateway⟩] }
  | .finishes position =>
    inUse.inFlight[position]?.map fun begun =>
      { activeGateway := (begun.outcome library).setActiveGatewayIndex.getD inUse.activeGateway
        inFlight := inUse.inFlight.eraseIdx position
        finished := begun :: inUse.finished }

/-- What a run of fetches reaches. -/
inductive Run : InUse transport → Prop
  | start : Run (InUse.start transport)
  | step {inUse next : InUse transport} {event : Event transport} :
      Run inUse → step library inUse event = some next → Run next

variable {library}

theorem step_cases {inUse next : InUse transport} {event : Event transport}
    (steps : step library inUse event = some next) :
    (∃ fetch, next = { inUse with
      inFlight := inUse.inFlight ++ [⟨fetch, inUse.activeGateway⟩] }) ∨
    ∃ begun ∈ inUse.inFlight, ∃ inFlight ⊆ inUse.inFlight, next =
      { activeGateway := (begun.outcome library).setActiveGatewayIndex.getD inUse.activeGateway
        inFlight := inFlight
        finished := begun :: inUse.finished } := by
  cases event with
  | begins fetch => exact .inl ⟨fetch, (Option.some.inj steps).symm⟩
  | finishes position =>
    obtain ⟨begun, atPosition, isNext⟩ := Option.map_eq_some_iff.mp steps
    exact .inr ⟨begun, List.mem_of_getElem? atPosition, _,
      (List.eraseIdx_sublist inUse.inFlight position).subset, isNext.symm⟩

/-- An attempt at the local gateway that failed or was answered unusably. -/
def LocalFailed (fetch : Fetch transport) (sent : transport.Index × Url) : Prop :=
  sent.1 = transport.first ∧ ¬UsableAnswer (fetch.executeGatewayRequest sent.1 sent.2)

/-- Of the finished fetches, one was served by the gateway, and one failed at the local
gateway. -/
structure FellBack (library : UrlLibrary) (finished : List (Begun transport))
    (index : transport.Index) : Prop where
  served : ∃ begun ∈ finished, ∃ url, (index, url) ∈ (begun.outcome library).requests ∧
    UsableAnswer (begun.fetch.executeGatewayRequest index url)
  localFailed : ∃ begun ∈ finished, ∃ sent ∈ (begun.outcome library).requests,
    LocalFailed begun.fetch sent

theorem FellBack.mono {finished more : List (Begun transport)} {index : transport.Index}
    (fellBack : FellBack library finished index) (grows : finished ⊆ more) :
    FellBack library more index := by
  constructor
  · obtain ⟨begun, membership, served⟩ := fellBack.served
    exact ⟨begun, grows membership, served⟩
  · obtain ⟨begun, membership, failed⟩ := fellBack.localFailed
    exact ⟨begun, grows membership, failed⟩

/-- An index that the finished fetches account for: it stands at the first gateway, or they
fell back to where it stands. -/
def Earned (library : UrlLibrary) (finished : List (Begun transport)) (activeGateway : Nat) :
    Prop :=
  transport.activeGatewayIndex activeGateway ≠ transport.first →
    FellBack library finished (transport.activeGatewayIndex activeGateway)

theorem activeGatewayIndex_val (index : transport.Index) :
    transport.activeGatewayIndex index = index := by
  simp [activeGatewayIndex]

theorem activeGatewayIndex_zero : transport.activeGatewayIndex 0 = transport.first := by
  simp [activeGatewayIndex, transport.length_pos, first]

theorem requests_map_fst (begun : Begun transport) :
    (begun.outcome library).requests.map Prod.fst =
      contacted (attemptAt library begun.fetch)
        (transport.gatewayAttemptOrder begun.activeGateway) :=
  requests_attemptGateways _ none none

/-- A fetch that ends at a gateway behind the first one accounts for the index it writes. -/
theorem earned_of_finishes {begun : Begun transport} {finished : List (Begun transport)}
    (earned : Earned library finished begun.activeGateway) {written : Nat}
    (isWritten : (begun.outcome library).setActiveGatewayIndex = some written) :
    Earned library (begun :: finished) written := by
  intro other
  rcases setActiveGatewayIndex_attemptGateways isWritten with rfl | ⟨served, serves, rfl⟩
  · exact absurd activeGatewayIndex_zero other
  rw [activeGatewayIndex_val] at other ⊢
  obtain ⟨isServed, earlier, pass⟩ := of_serving_eq_some serves
  rw [← requests_map_fst, List.map_eq_append_iff] at pass
  obtain ⟨before, last, requests, rfl, lastIs⟩ := pass
  obtain ⟨⟨index, url⟩, rfl, isIndex⟩ := List.map_eq_singleton_iff.mp lastIs
  obtain rfl : index = served := isIndex
  have membership : (index, url) ∈ (begun.outcome library).requests := by
    rw [requests]
    exact List.mem_append_right _ (List.mem_singleton_self _)
  have usable : UsableAnswer (begun.fetch.executeGatewayRequest index url) :=
    (usableAnswer_iff (gatewayUrl_of_mem_requests membership)).mpr isServed
  obtain ⟨⟨untried, split⟩, failed⟩ := of_requests_eq_append_cons requests
  refine ⟨⟨begun, List.mem_cons_self, url, membership, usable⟩, ?_⟩
  rcases first_mem_or_le split other with firstTried | ⟨startOther, -⟩
  · obtain ⟨sent, isSent, isFirst⟩ := List.mem_map.mp firstTried
    refine ⟨begun, List.mem_cons_self, sent, ?_, isFirst, failed sent isSent⟩
    rw [requests]
    exact List.mem_append_left _ isSent
  · obtain ⟨earlierFetch, isFinished, localFailed⟩ := (earned startOther).localFailed
    exact ⟨earlierFetch, List.mem_cons_of_mem begun isFinished, localFailed⟩

/-- The finished fetches account for the shared index, and for what every fetch under way found
there. -/
structure Accounted (library : UrlLibrary) (inUse : InUse transport) : Prop where
  shared : Earned library inUse.finished inUse.activeGateway
  found : ∀ begun ∈ inUse.inFlight, Earned library inUse.finished begun.activeGateway

theorem Accounted.step {inUse next : InUse transport} {event : Event transport}
    (accounted : Accounted library inUse)
    (steps : step library inUse event = some next) : Accounted library next := by
  rcases step_cases steps with ⟨fetch, rfl⟩ | ⟨begun, isBegun, inFlight, remaining, rfl⟩
  · refine ⟨accounted.shared, fun begun membership => ?_⟩
    rcases List.mem_append.mp membership with before | new
    · exact accounted.found begun before
    · rw [List.mem_singleton.mp new]
      exact accounted.shared
  · constructor
    · cases isWritten : (begun.outcome library).setActiveGatewayIndex with
      | none =>
        intro other
        exact (accounted.shared other).mono (List.subset_cons_self begun _)
      | some written => exact earned_of_finishes (accounted.found begun isBegun) isWritten
    · intro other membership otherStart
      exact (accounted.found other (remaining membership) otherStart).mono
        (List.subset_cons_self begun _)

theorem Run.accounted {inUse : InUse transport} (run : Run library inUse) :
    Accounted library inUse := by
  induction run with
  | start => exact ⟨fun other => absurd activeGatewayIndex_zero other, by simp [InUse.start]⟩
  | step _ steps ih => exact ih.step steps

/-- In every run, a request to a public gateway comes after an attempt at the local gateway
that failed: one of the same fetch, unless the fetch begins at a gateway that an earlier fetch
fell back to, and the request goes to that gateway or one behind it. -/
theorem publicRequest_follows_localFailure
    (localFirst : transport.gatewayScope = .localScope) {inUse : InUse transport}
    (run : Run library inUse) (fetch : Fetch transport)
    {before after : List (transport.Index × Url)} {index : transport.Index} {url : Url}
    (requests : (fetchHttpWithExecutor library fetch inUse.activeGateway).requests =
      before ++ (index, url) :: after)
    (isPublic : (transport.gateway index).scope = .publicScope) :
    (∃ sent ∈ before, LocalFailed fetch sent) ∨
      transport.activeGatewayIndex inUse.activeGateway ≠ transport.first ∧
        (transport.activeGatewayIndex inUse.activeGateway : Nat) ≤ index ∧
        FellBack library inUse.finished (transport.activeGatewayIndex inUse.activeGateway) := by
  obtain ⟨⟨untried, split⟩, failed⟩ := of_requests_eq_append_cons requests
  have other : index ≠ transport.first := by
    rintro rfl
    unfold gatewayScope at localFirst
    rw [localFirst] at isPublic
    cases isPublic
  rcases first_mem_or_le split other with firstTried | ⟨startOther, le⟩
  · obtain ⟨sent, isSent, isFirst⟩ := List.mem_map.mp firstTried
    exact .inl ⟨sent, isSent, isFirst, failed sent isSent⟩
  · exact .inr ⟨startOther, le, run.accounted.shared startOther⟩

section Sample

/-- URLs with a scheme and an authority, as any URL library takes them apart. -/
def sampleUrls : UrlLibrary where
  parse text :=
    match Text.splitOnce "://".toList text.toList with
    | some (scheme, rest) => .ok {
        text
        scheme := String.ofList scheme
        hostStr := some (String.ofList (Text.before (fun char => char = '/' || char = ':') rest)) }
    | none => .error "relative URL without a base"

def sampleGateways : IpfsGatewayTransport where
  gateways := [⟨"http://127.0.0.1:8080", .localScope⟩, ⟨"https://ipfs.filebase.io", .publicScope⟩]
  nonempty := List.cons_ne_nil _ _

def samplePage : HttpFetchResponse where
  finalUrl := "https://ipfs.filebase.io/ipfs/bafy/index.html"
  statusCode := 200
  contentType := some "text/html"
  headers := []
  body := "<title>Page</title>".toUTF8.toList
  disposition := .renderHtml
  route := none
  download := none

/-- A fetch that the public gateway answers while nothing listens at the local one. -/
def sampleFetch : Fetch sampleGateways where
  request := {
    profile := "default", url := "ipfs://bafy/index.html", purpose := .navigation }
  executeGatewayRequest index _ :=
    if (index : Nat) = 0 then .error (.request "connection refused") else .ok samplePage

def sampleLocalUrl : Url where
  text := "http://127.0.0.1:8080/ipfs/bafy/index.html"
  scheme := "http"
  hostStr := some "127.0.0.1"

def samplePublicUrl : Url where
  text := "https://ipfs.filebase.io/ipfs/bafy/index.html"
  scheme := "https"
  hostStr := some "ipfs.filebase.io"

theorem requests_of_first_sampleFetch :
    (fetchHttpWithExecutor sampleUrls sampleFetch 0).requests =
      [(⟨0, by decide⟩, sampleLocalUrl), (⟨1, by decide⟩, samplePublicUrl)] := by
  decide +kernel

theorem requests_of_second_sampleFetch :
    (fetchHttpWithExecutor sampleUrls sampleFetch 1).requests =
      [(⟨1, by decide⟩, samplePublicUrl)] := by
  decide +kernel

theorem setActiveGatewayIndex_of_first_sampleFetch :
    (fetchHttpWithExecutor sampleUrls sampleFetch 0).setActiveGatewayIndex = some 1 := by
  decide +kernel

/-- The first fetch asks the local gateway before it falls back. -/
theorem first_fetch_asks_local_gateway :
    ∃ sent ∈ [(sampleGateways.first, sampleLocalUrl)], LocalFailed sampleFetch sent := by
  have requests : (fetchHttpWithExecutor sampleUrls sampleFetch
      (InUse.start sampleGateways).activeGateway).requests =
      [(sampleGateways.first, sampleLocalUrl)] ++ (⟨1, by decide⟩, samplePublicUrl) :: [] :=
    requests_of_first_sampleFetch
  rcases publicRequest_follows_localFailure (by decide) Run.start sampleFetch requests
    (by decide) with localFailed | ⟨elsewhere, -⟩
  · exact localFailed
  · exact absurd activeGatewayIndex_zero elsewhere

/-- The fetch after one that fell back goes to the public gateway without asking the local
one, although the transport declares that the local gateway comes first. -/
theorem cached_public_gateway_comes_first :
    ∃ inUse : InUse sampleGateways, Run sampleUrls inUse ∧
      sampleGateways.privacyBoundary =
        "local IPFS gateway first; falls back to configured public IPFS gateways for IPFS/IPNS requests when local retrieval fails" ∧
      ∃ index url, (sampleGateways.gateway index).scope = .publicScope ∧
        (fetchHttpWithExecutor sampleUrls sampleFetch inUse.activeGateway).requests =
          [] ++ (index, url) :: [] ∧
        ¬∃ sent ∈ ([] : List (sampleGateways.Index × Url)), LocalFailed sampleFetch sent := by
  let begun : InUse sampleGateways :=
    { activeGateway := 0, inFlight := [⟨sampleFetch, 0⟩], finished := [] }
  let fellBack : InUse sampleGateways :=
    { activeGateway := 1, inFlight := [], finished := [⟨sampleFetch, 0⟩] }
  have begins : step sampleUrls (InUse.start sampleGateways) (.begins sampleFetch) = some begun :=
    rfl
  have finishes : step sampleUrls begun (.finishes 0) = some fellBack := by
    simp [step, begun, fellBack, Begun.outcome, setActiveGatewayIndex_of_first_sampleFetch]
  refine ⟨fellBack, (Run.start.step begins).step finishes, rfl, ⟨1, by decide⟩, samplePublicUrl,
    rfl, requests_of_second_sampleFetch, by simp⟩

end Sample

end IpfsGatewayTransport

end Slate.Broadwebd
