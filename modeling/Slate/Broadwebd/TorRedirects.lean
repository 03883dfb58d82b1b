import Slate.Broadwebd.TorAddress
import Slate.Broadwebd.TorResponse

/-!
# Redirects over Tor

A fetch over Tor opens a stream to the target of its URL and follows the redirects that servers
answer with. Each location goes through the address normaliser and the target's checks again, so
that whatever the servers answer, no stream leaves the onion hosts.
-/

namespace Slate.Broadwebd

open Foundation

namespace TorArtiHttpTransport

def maxRedirects : Nat := 6

def browserUserAgent : String :=
  "Mozilla/5.0 (X11; Linux x86_64; rv:154.0) Gecko/20100101 Firefox/154.0"

/-- What a stream gives back for the text of a request: piece after piece, of which the last is
empty or an error. -/
abbrev Stream := String → Except BroadwebdError (List (Except BroadwebdError (List UInt8)))

/-- The Tor client. The streams of a fetch are told apart by the redirects before them, and a
time-out is an error like any other. -/
structure Client where
  bootstrap : Except BroadwebdError Unit
  connect : Nat → String → Nat → Except BroadwebdError Stream

/-- How the URL library reads a URL that is relative to another one, and the texts of errors. -/
structure Library where
  parsers : UrlStandard.Parsers
  parseError : String → String
  join : UrlStandard.Url → List Char → Except String UrlStandard.Url
  utf8Error : List UInt8 → String

section Requests

def requestText (target : TorHttpTarget) : String :=
  s!"GET {target.pathAndQuery} HTTP/1.1\r\nHost: {target.hostHeader}\r\n" ++
    s!"User-Agent: {browserUserAgent}\r\nAccept: */*\r\nConnection: close\r\n\r\n"

/-- The number of bytes after which a response is given up. -/
def responseLimit (budget : ResourceBudget) : Nat :=
  min (budget.limit + maxHeaderBytes) (UInt64.size - 1)

def readResponse (budget : ResourceBudget) (response : List UInt8) :
    List (Except BroadwebdError (List UInt8)) → Except BroadwebdError (List UInt8)
  | [] => .ok response
  | .error error :: _ => .error error
  | .ok chunk :: rest =>
    if chunk = [] then .ok response
    else if responseLimit budget < (response ++ chunk).length then
      .error (.responseTooLarge budget.limit (response ++ chunk).length)
    else readResponse budget (response ++ chunk) rest

def fetchPlainHttpOverTor (client : Client) (redirectCount : Nat) (target : TorHttpTarget)
    (budget : ResourceBudget) : Except BroadwebdError (List UInt8) := do
  let stream ← client.connect redirectCount target.host target.port
  let pieces ← stream (requestText target)
  readResponse budget [] pieces

end Requests

section Fetches

/-- The targets to which a fetch opened streams, in order, and what it returned. -/
structure Fetched where
  contacted : List TorHttpTarget
  result : Except BroadwebdError HttpFetchResponse

/-- What one turn of the loop comes to: nothing is contacted, or the fetch ends with what was,
or it goes on to where it was sent. -/
inductive Turn where
  | refused (error : BroadwebdError)
  | answered (target : TorHttpTarget) (result : Except BroadwebdError HttpFetchResponse)
  | redirected (target : TorHttpTarget) (location : String)

variable (library : Library) (client : Client) (request : TransportHttpRequest)
  (budget : ResourceBudget)

def isRedirectStatus (statusCode : UInt16) : Bool :=
  statusCode = 301 || statusCode = 302 || statusCode = 303 || statusCode = 307 || statusCode = 308

def redirectTarget (response : HttpFetchResponse) : Except BroadwebdError (Option String) :=
  if !isRedirectStatus response.statusCode then .ok none
  else
    match headerValue response.headers "location" with
    | none => .ok none
    | some location => do
      let base ← Tor.parseUrl library.parsers library.parseError response.finalUrl
      let joined ← (library.join base (Text.trim location.toList)).mapError .invalidUrl
      (Tor.normalizeTorNavigationUrl library.parsers library.parseError
        (String.ofList joined.write)).map some

def tooManyRedirects : BroadwebdError :=
  .unsupportedRequest s!"too many Tor redirects while fetching {request.url}"

def torRoute : FetchRouteInfo where
  profile := request.profile
  transportId := torArtiHttpPlugin
  privacyBoundary := "embedded Arti Tor client; onion URL and timing metadata stay inside " ++
    "the Tor routing boundary"
  purpose := request.purpose

/-- What comes of a target to which a stream was opened. -/
def contact (redirectCount : Nat) (target : TorHttpTarget) : Turn :=
  match fetchPlainHttpOverTor client redirectCount target budget >>= fun rawResponse =>
      httpResponseFromBytes library.parsers library.utf8Error target.finalUrl rawResponse budget
    with
  | .error error => .answered target (.error error)
  | .ok response =>
    match redirectTarget library response with
    | .error error => .answered target (.error error)
    | .ok none => .answered target (.ok (response.withRoute (torRoute request)))
    | .ok (some location) =>
      if redirectCount = maxRedirects then .answered target (.error (tooManyRedirects request))
      else .redirected target location

def turn (redirectCount : Nat) (current : String) : Turn :=
  match Tor.torHttpTarget library.parsers library.parseError current with
  | .error error => .refused error
  | .ok target =>
    if target.networkScheme = .https then
      .refused (.unsupportedRequest "HTTPS over embedded Tor is not implemented yet")
    else
      -- The first turn bootstraps the client, and the others find it there.
      match if redirectCount = 0 then client.bootstrap else .ok () with
      | .error error => .refused error
      | .ok () => contact library client request budget redirectCount target

/-- The turns that are left of the loop. -/
def followRedirects : Nat → Nat → String → Fetched
  | 0, _, _ => ⟨[], .error (tooManyRedirects request)⟩
  | turns + 1, redirectCount, current =>
    match turn library client request budget redirectCount current with
    | .refused error => ⟨[], .error error⟩
    | .answered target result => ⟨[target], result⟩
    | .redirected target location =>
      let rest := followRedirects turns (redirectCount + 1) location
      ⟨target :: rest.contacted, rest.result⟩

def fetchHttp : Fetched :=
  match Tor.normalizeTorNavigationUrl library.parsers library.parseError request.url with
  | .error error => ⟨[], .error error⟩
  | .ok current => followRedirects library client request budget (maxRedirects + 1) 0 current

end Fetches

section Streams

variable {library : Library} {client : Client} {request : TransportHttpRequest}
  {budget : ResourceBudget} {redirectCount turns : Nat} {current location : String}
  {target : TorHttpTarget} {result : Except BroadwebdError HttpFetchResponse}

/-- The URL under Slate's scheme for plain requests. -/
def torHttpUrl (target : TorHttpTarget) : String :=
  "tor+http://" ++ target.hostHeader ++ target.pathAndQuery

/-- A target that may be asked in plain text. -/
structure Admitted (target : TorHttpTarget) : Prop where
  onion : isOnionHost target.host
  plain : target.networkScheme = .http
  known : target.finalUrl = torHttpUrl target

/-- What a fetch returns comes from the target that it contacted last. -/
def EndsAt (contacted : List TorHttpTarget) (result : Except BroadwebdError HttpFetchResponse) :
    Prop :=
  ∀ response, result = .ok response →
    ∃ target, contacted.getLast? = some target ∧ response.finalUrl = torHttpUrl target

structure StaysOnTor (fetched : Fetched) : Prop where
  onion : ∀ target ∈ fetched.contacted, isOnionHost target.host
  plain : ∀ target ∈ fetched.contacted, target.networkScheme = .http
  bounded : fetched.contacted.length ≤ maxRedirects + 1
  finalUrl : EndsAt fetched.contacted fetched.result

theorem httpResponseFromBytes_finalUrl {parsers : UrlStandard.Parsers}
    {utf8Error : List UInt8 → String} {finalUrl : String} {sent : List UInt8}
    {response : HttpFetchResponse}
    (isRead : httpResponseFromBytes parsers utf8Error finalUrl sent budget = .ok response) :
    response.finalUrl = finalUrl := by
  unfold httpResponseFromBytes at isRead
  obtain ⟨headerEnd, -, isRead⟩ := bind_eq_ok_iff.mp isRead
  split at isRead
  · cases isRead
  · obtain ⟨headerText, -, isRead⟩ := bind_eq_ok_iff.mp isRead
    obtain ⟨statusLine, -, isRead⟩ := bind_eq_ok_iff.mp isRead
    obtain ⟨statusCode, -, isRead⟩ := bind_eq_ok_iff.mp isRead
    obtain ⟨body, -, isRead⟩ := bind_eq_ok_iff.mp isRead
    split at isRead
    · cases isRead
    · cases isRead
      rfl

theorem admitted_of_torHttpTarget
    (isTarget : Tor.torHttpTarget library.parsers library.parseError current = .ok target)
    (plain : target.networkScheme ≠ .https) : Admitted target := by
  have isHttp : target.networkScheme = .http := by
    cases isScheme : target.networkScheme with
    | http => rfl
    | https => exact absurd isScheme plain
  have known := Tor.finalUrl_of_torHttpTarget isTarget
  rw [isHttp] at known
  exact ⟨Tor.isOnionHost_of_torHttpTarget isTarget, isHttp, known⟩

/-- What a turn contacted is the target that it was given, and a response is known by its URL. -/
theorem contact_eq_answered {contacted : TorHttpTarget}
    (isTurn : contact library client request budget redirectCount target =
      .answered contacted result) :
    contacted = target ∧
      ∀ response, result = .ok response → response.finalUrl = target.finalUrl := by
  unfold contact at isTurn
  split at isTurn
  · cases isTurn
    exact ⟨rfl, by simp⟩
  · rename_i response isRead
    obtain ⟨sent, -, isRead⟩ := bind_eq_ok_iff.mp isRead
    split at isTurn
    · cases isTurn
      exact ⟨rfl, by simp⟩
    · cases isTurn
      refine ⟨rfl, ?_⟩
      intro routed isRouted
      cases isRouted
      change response.finalUrl = target.finalUrl
      exact httpResponseFromBytes_finalUrl isRead
    · split at isTurn
      · cases isTurn
        exact ⟨rfl, by simp⟩
      · cases isTurn

theorem contact_eq_redirected {contacted : TorHttpTarget}
    (isTurn : contact library client request budget redirectCount target =
      .redirected contacted location) : contacted = target := by
  unfold contact at isTurn
  split at isTurn
  · cases isTurn
  · split at isTurn
    · cases isTurn
    · cases isTurn
    · split at isTurn
      · cases isTurn
      · cases isTurn
        rfl

theorem contact_ne_refused {error : BroadwebdError} :
    contact library client request budget redirectCount target ≠ .refused error := by
  intro isTurn
  unfold contact at isTurn
  split at isTurn
  · cases isTurn
  · split at isTurn
    · cases isTurn
    · cases isTurn
    · split at isTurn
      · cases isTurn
      · cases isTurn

/-- A turn refuses its URL or contacts an admitted target. -/
theorem turn_cases :
    (∃ error, turn library client request budget redirectCount current = .refused error) ∨
      ∃ target, Admitted target ∧ turn library client request budget redirectCount current =
        contact library client request budget redirectCount target := by
  unfold turn
  split
  · exact .inl ⟨_, rfl⟩
  · rename_i target isTarget
    split
    · exact .inl ⟨_, rfl⟩
    · rename_i plain
      split
      · exact .inl ⟨_, rfl⟩
      · exact .inr ⟨target, admitted_of_torHttpTarget isTarget plain, rfl⟩

theorem endsAt_error {contacted : List TorHttpTarget} {error : BroadwebdError} :
    EndsAt contacted (.error error) := by
  intro response isResponse
  cases isResponse

theorem EndsAt.cons {contacted : List TorHttpTarget} (ends : EndsAt contacted result) :
    EndsAt (target :: contacted) result := by
  intro response isResponse
  obtain ⟨last, isLast, known⟩ := ends response isResponse
  refine ⟨last, ?_, known⟩
  rw [List.getLast?_cons, isLast]
  rfl

/-- The invariant of the loop, for the turns that are left of it. -/
structure Follows (turns : Nat) (fetched : Fetched) : Prop where
  admitted : ∀ target ∈ fetched.contacted, Admitted target
  bounded : fetched.contacted.length ≤ turns
  finalUrl : EndsAt fetched.contacted fetched.result

theorem follows_refused {error : BroadwebdError} : Follows turns ⟨[], .error error⟩ where
  admitted := by simp
  bounded := Nat.zero_le turns
  finalUrl := endsAt_error

theorem follows_answered (admitted : Admitted target)
    (known : ∀ response, result = .ok response → response.finalUrl = target.finalUrl) :
    Follows (turns + 1) ⟨[target], result⟩ where
  admitted := by simpa using admitted
  bounded := by simp
  finalUrl := by
    intro response isResponse
    exact ⟨target, rfl, (known response isResponse).trans admitted.known⟩

theorem Follows.redirected {fetched : Fetched} (follows : Follows turns fetched)
    (admitted : Admitted target) :
    Follows (turns + 1) ⟨target :: fetched.contacted, fetched.result⟩ where
  admitted := List.forall_mem_cons.mpr ⟨admitted, follows.admitted⟩
  bounded := Nat.succ_le_succ follows.bounded
  finalUrl := follows.finalUrl.cons

theorem follows_followRedirects :
    Follows turns (followRedirects library client request budget turns redirectCount current) := by
  induction turns generalizing redirectCount current with
  | zero => exact follows_refused
  | succ turns inductionHypothesis =>
      unfold followRedirects
      rcases @turn_cases library client request budget redirectCount current with
        ⟨error, refused⟩ | ⟨target, admitted, isTurn⟩
      · rw [refused]
        exact follows_refused
      · rw [isTurn]
        cases came : contact library client request budget redirectCount target with
        | refused error => exact absurd came contact_ne_refused
        | answered contacted result =>
            obtain ⟨rfl, known⟩ := contact_eq_answered came
            exact follows_answered admitted known
        | redirected contacted location =>
            obtain rfl := contact_eq_redirected came
            exact inductionHypothesis.redirected admitted

/-- Whatever the servers answer, a fetch opens streams to onion hosts only, no more of them than
it follows redirects and one, and returns under the URL of the target that it asked last. -/
theorem fetchHttp_staysOnTor (library : Library) (client : Client)
    (request : TransportHttpRequest) (budget : ResourceBudget) :
    StaysOnTor (fetchHttp library client request budget) := by
  have follows : Follows (maxRedirects + 1) (fetchHttp library client request budget) := by
    unfold fetchHttp
    split
    · exact follows_refused
    · exact follows_followRedirects
  exact ⟨fun target isMember => (follows.admitted target isMember).onion,
    fun target isMember => (follows.admitted target isMember).plain, follows.bounded,
    follows.finalUrl⟩

end Streams

section Sample

def sampleLibrary : Library where
  parsers := UrlStandard.asciiParsers
  parseError := id
  join _ location :=
    (UrlStandard.parse UrlStandard.asciiParsers location).elim (.error "no URL") .ok
  utf8Error _ := "no text"

/-- The first server sends on to another one, which answers. -/
def sampleClient : Client where
  bootstrap := .ok ()
  connect redirectCount _ _ := .ok fun _ => .ok [.ok (Utf8.encode (
    if redirectCount = 0 then
      "HTTP/1.1 302 Found\r\nLocation: http://target.onion/next\r\n\r\n".toList
    else "HTTP/1.1 200 OK\r\n\r\nhello".toList))]

def sampleRequest : TransportHttpRequest := ⟨"default", "http://example.onion/start", .navigation⟩

example : (fetchHttp sampleLibrary sampleClient sampleRequest ⟨1024⟩).contacted.map
    TorHttpTarget.host = ["example.onion", "target.onion"] := by rfl

end Sample

end TorArtiHttpTransport

end Slate.Broadwebd
