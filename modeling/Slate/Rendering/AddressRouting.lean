import Slate.Foundation.UrlStandard
import Slate.Browser.OnionAddresses
import Slate.Broadwebd.Http

/-!
# Where an address is loaded

An address is a page of the browser's own, a request to the daemon or a URL for the engine.
Private-network names are looked for in the text of the address, while what is asked for them is
told from the parsed URL.
-/

namespace Slate.Rendering

open Foundation Browser Broadwebd

inductive ServoDocumentSource where
  | slateGenerated
  | localFile
  | web
  | broadweb
  | blocked
  deriving DecidableEq, Repr

/-- The pages that the browser writes by itself. The engine is given their text. -/
inductive GeneratedPage where
  | builtinTest (address : String)
  | search (address : String)
  | internal (address : String)
  | error (title heading : String) (details : List String)
  deriving DecidableEq, Repr

/-- What an address is loaded from. -/
inductive Loading where
  | homeSurface
  | generated (page : GeneratedPage) (source : ServoDocumentSource)
  | broadwebdFetch (request : HttpFetchRequest) (source : ServoDocumentSource)
  | servoUrl (servoAddress : String) (source : ServoDocumentSource)
  deriving DecidableEq, Repr

def defaultProfile (url : String) : HttpFetchRequest where
  profile := "default"
  url := url
  transportId := none
  purpose := .navigation
  suggestedDownloadFilename := none

section Predicates

variable (parsers : UrlStandard.Parsers) (address : String)

/-- The URL that the parser makes of an address has one of the schemes. -/
def hasScheme (schemes : List String) : Bool :=
  (UrlStandard.parse parsers address.toList).any fun url =>
    schemes.any fun scheme => scheme.toList == url.scheme

def hasServoSupportedScheme : Bool :=
  hasScheme parsers address ["http", "https", "file", "data", "about"]

def hasHttpServiceScheme : Bool := hasScheme parsers address ["http", "https"]

def hasBroadwebdServiceScheme : Bool :=
  hasScheme parsers address ["ipfs", "ipns", "tor+http", "tor+https"]

def hasBroadwebScheme : Bool :=
  hasScheme parsers address ["ipfs", "ipns", "tor+http", "tor+https", "i2p", "gemini", "magnet"]

def requiresPrivateNetworkHostAdapter : Bool :=
  let lower := Text.toAsciiLowercase address.toList
  Text.contains lower ".onion".toList || Text.contains lower ".i2p".toList

end Predicates

section Loading

variable (parsers : UrlStandard.Parsers) (address : String)

def protocolAdapterPage : GeneratedPage :=
  .error "Protocol Adapter Required" "This route needs a Slate protocol adapter"
    [address, "Slate will not send this address through normal DNS or direct web routing."]

def loadAddress : Loading :=
  if address = "slate://home" ∨ address = "slate://new" then .homeSurface
  else if startsWith address.toList "slate://tests/" then
    .generated (.builtinTest address) .slateGenerated
  else if startsWith address.toList "slate://search?" then
    .generated (.search address) .slateGenerated
  else if startsWith address.toList "slate://" then
    .generated (.internal address) .slateGenerated
  else if hasBroadwebdServiceScheme parsers address then
    .broadwebdFetch (defaultProfile address) .broadweb
  else if requiresPrivateNetworkHostAdapter address then
    .generated (protocolAdapterPage address) .blocked
  else if hasBroadwebScheme parsers address then .servoUrl address .broadweb
  else if hasHttpServiceScheme parsers address then
    .broadwebdFetch (defaultProfile address) .web
  else if hasServoSupportedScheme parsers address then
    .servoUrl address (if startsWith address.toList "file://" then .localFile else .web)
  else
    .generated (.error "Unsupported Address" "Servo cannot navigate this address yet" [address])
      .blocked

/-- A request for the address itself is handed to the daemon or to the engine. -/
def Loading.handsOver : Loading → Bool
  | .homeSurface => false
  | .generated _ _ => false
  | .broadwebdFetch _ _ => true
  | .servoUrl _ _ => true

end Loading

section Hosts

variable (parsers : UrlStandard.Parsers) (address : String)

/-- The host ends in `.onion` or `.i2p`, in any case and with dots behind it. -/
def isPrivateNetworkHost (host : List Char) : Bool :=
  let name := Text.toAsciiLowercase (Text.trimEndMatches '.' host)
  decide (".onion".toList <:+ name) || decide (".i2p".toList <:+ name)

/-- The parser makes an HTTP URL with a private-network host of the address. -/
def NamesPrivateNetworkHost : Prop :=
  ∃ url host, UrlStandard.parse parsers address.toList = some url ∧
    (url.scheme = "http".toList ∨ url.scheme = "https".toList) ∧ url.host = some host ∧
    isPrivateNetworkHost host

/-- An address with a private-network host is not asked for, and shows the blocked page. -/
structure KeptOffTheWeb : Prop where
  notHandedOver : NamesPrivateNetworkHost parsers address →
    (loadAddress parsers address).handsOver = false
  blocked : NamesPrivateNetworkHost parsers address →
    loadAddress parsers address = .generated (protocolAdapterPage address) .blocked

end Hosts

section Results

variable {parsers : UrlStandard.Parsers} {address : String} {url : UrlStandard.Url}

theorem hasScheme_of_parse {schemes : List String}
    (parsed : UrlStandard.parse parsers address.toList = some url) :
    hasScheme parsers address schemes = schemes.any fun scheme => scheme.toList == url.scheme := by
  rw [hasScheme, parsed, Option.any_some]

/-- An address of the browser's own is no HTTP URL. -/
theorem scheme_of_startsWith_slate (isSlate : startsWith address.toList "slate://")
    (parsed : UrlStandard.parse parsers address.toList = some url) :
    url.scheme = "slate".toList := by
  obtain ⟨behind, isAddress⟩ := startsWith_iff.mp isSlate
  have split : "slate://".toList ++ behind = "slate".toList ++ ':' :: ("//".toList ++ behind) := rfl
  rw [← isAddress, split] at parsed
  have isName : "slate".toList.all UrlStandard.isSchemeChar = true := by decide
  exact UrlStandard.scheme_of_parse (List.all_eq_true.mp isName) (by decide) parsed

theorem loadAddress_of_http
    (parsed : UrlStandard.parse parsers address.toList = some url)
    (isHttp : url.scheme = "http".toList ∨ url.scheme = "https".toList) :
    loadAddress parsers address =
      if requiresPrivateNetworkHostAdapter address then
        .generated (protocolAdapterPage address) .blocked
      else .broadwebdFetch (defaultProfile address) .web := by
  have notSlate : ¬startsWith address.toList "slate://" := by
    intro isSlate
    rw [scheme_of_startsWith_slate isSlate parsed] at isHttp
    revert isHttp
    decide
  have notWithin (page : String) (isWithin : "slate://".toList <+: page.toList) :
      ¬startsWith address.toList page :=
    fun starts => notSlate (startsWith_iff.mpr (isWithin.trans (startsWith_iff.mp starts)))
  have notHome : ¬(address = "slate://home" ∨ address = "slate://new") := by
    rintro (rfl | rfl)
    · exact notSlate (by decide)
    · exact notSlate (by decide)
  have notDaemon : hasBroadwebdServiceScheme parsers address = false := by
    rw [hasBroadwebdServiceScheme, hasScheme_of_parse parsed]
    rcases isHttp with isScheme | isScheme <;> rw [isScheme] <;> decide
  have notBroadweb : hasBroadwebScheme parsers address = false := by
    rw [hasBroadwebScheme, hasScheme_of_parse parsed]
    rcases isHttp with isScheme | isScheme <;> rw [isScheme] <;> decide
  have isService : hasHttpServiceScheme parsers address = true := by
    rw [hasHttpServiceScheme, hasScheme_of_parse parsed]
    rcases isHttp with isScheme | isScheme <;> rw [isScheme] <;> decide
  unfold loadAddress
  rw [if_neg notHome, if_neg (notWithin _ (by decide)), if_neg (notWithin _ (by decide)),
    if_neg notSlate, notDaemon, notBroadweb, isService]
  simp only [Bool.false_eq_true, if_false, if_true]

/-- Private-network hosts are kept off the web exactly in the addresses whose text names the
network. -/
theorem keptOffTheWeb_iff (parsers : UrlStandard.Parsers) (address : String) :
    KeptOffTheWeb parsers address ↔
      (NamesPrivateNetworkHost parsers address → requiresPrivateNetworkHostAdapter address) := by
  constructor
  · intro kept names
    have handsOver := kept.notHandedOver names
    obtain ⟨url, host, parsed, isHttp, -, -⟩ := names
    rw [loadAddress_of_http parsed isHttp] at handsOver
    by_contra unnamed
    rw [if_neg unnamed] at handsOver
    cases handsOver
  · intro required
    have blocked (names : NamesPrivateNetworkHost parsers address) :
        loadAddress parsers address = .generated (protocolAdapterPage address) .blocked := by
      have isNamed := required names
      obtain ⟨url, host, parsed, isHttp, -, -⟩ := names
      rw [loadAddress_of_http parsed isHttp, if_pos isNamed]
    refine ⟨?_, blocked⟩
    intro names
    rw [blocked names]
    rfl

/-- An onion name that is spelled with an escape is fetched as a web page. -/
theorem escaped_onion_is_fetched :
    ¬∀ parsers address, KeptOffTheWeb parsers address := by
  intro kept
  have names : NamesPrivateNetworkHost UrlStandard.asciiParsers "http://example.oni%6Fn/" := by
    refine ⟨{
      scheme := "http".toList
      username := []
      password := []
      host := some "example.onion".toList
      port := none
      path := .segments [[]]
      query := none
      fragment := none }, "example.onion".toList, ?_, ?_, rfl, ?_⟩
    · decide +kernel
    · exact .inl rfl
    · decide +kernel
  have handsOver := (kept UrlStandard.asciiParsers "http://example.oni%6Fn/").notHandedOver names
  revert handsOver
  decide +kernel

end Results

end Slate.Rendering
