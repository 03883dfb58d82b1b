import Slate.Foundation.Transaction
import Slate.Foundation.UrlStandard
import Slate.Broadwebd.OnionRouting

/-!
# Tor addresses

A page of an onion host has an HTTP URL and a URL under a scheme of Slate's own. The target of a
request is read from either of them, and the URL it is known by afterwards is written from the
target's parts.
-/

namespace Slate.Broadwebd

open Foundation

inductive TorNetworkScheme where
  | http
  | https
  deriving DecidableEq, Repr

namespace TorNetworkScheme

def fromUrlScheme (scheme : List Char) : Option TorNetworkScheme :=
  if scheme = "http".toList ∨ scheme = "tor+http".toList then some .http
  else if scheme = "https".toList ∨ scheme = "tor+https".toList then some .https
  else none

def torScheme : TorNetworkScheme → List Char
  | .http => "tor+http".toList
  | .https => "tor+https".toList

def defaultPort : TorNetworkScheme → Nat
  | .http => 80
  | .https => 443

end TorNetworkScheme

structure TorHttpTarget where
  finalUrl : String
  networkScheme : TorNetworkScheme
  host : String
  port : Nat
  hostHeader : String
  pathAndQuery : String
  deriving DecidableEq, Repr

namespace Tor

def isOnionUrl (url : UrlStandard.Url) : Bool := url.hostStr.any Browser.isOnionHost

def hasUserinfo (url : UrlStandard.Url) : Bool := url.username ≠ [] || url.password ≠ []

def pathOrRoot (path : List Char) : List Char := if path = [] then ['/'] else path

def writeQuery (query : Option (List Char)) : List Char := (query.map ('?' :: ·)).getD []

def writePort (port : Option Nat) : List Char :=
  (port.map fun port => ':' :: Nat.toDigits 10 port).getD []

def buildTorUrl (networkScheme : TorNetworkScheme) (host : List Char) (port : Option Nat)
    (path : List Char) (query : Option (List Char)) : List Char :=
  networkScheme.torScheme ++ "://".toList ++ host ++ writePort port ++ pathOrRoot path ++
    writeQuery query

def urlWithoutFragment (url : UrlStandard.Url) : String := String.ofList url.writeWithoutFragment

def torUrlFromHttpUrl (url : UrlStandard.Url) : Except BroadwebdError (Option String) :=
  match TorNetworkScheme.fromUrlScheme url.scheme with
  | none => .ok none
  | some networkScheme =>
    if isTorHttpScheme (String.ofList url.scheme) then .ok (some (urlWithoutFragment url))
    else if !isOnionUrl url then .ok none
    else if ¬(url.scheme = "http".toList ∨ url.scheme = "https".toList) then .ok none
    else if hasUserinfo url then
      .error (.unsupportedRequest "Tor onion URLs must not include userinfo")
    else
      match url.hostStr with
      | none => .error (.invalidUrl s!"{String.ofList url.write} is missing an onion host")
      | some host => .ok (some (String.ofList
          (buildTorUrl networkScheme host url.port url.path.write url.query)))

/-- The target that a URL has, given its host without the root's dot and in lower case. -/
def targetAt (networkScheme : TorNetworkScheme) (host : List Char) (url : UrlStandard.Url) :
    TorHttpTarget :=
  let port := url.port.getD networkScheme.defaultPort
  let written := if port = networkScheme.defaultPort then none else some port
  { finalUrl := String.ofList (buildTorUrl networkScheme host written url.path.write url.query)
    networkScheme
    host := String.ofList host
    port
    hostHeader := String.ofList (host ++ writePort written)
    pathAndQuery := String.ofList (pathOrRoot url.path.write ++ writeQuery url.query) }

section Parsing

variable (parsers : UrlStandard.Parsers) (parseError : String → String)

def parseUrl (source : String) : Except BroadwebdError UrlStandard.Url :=
  (UrlStandard.parse parsers source.toList).elim (.error (.invalidUrl (parseError source))) .ok

def targetOf (source : String) (url : UrlStandard.Url) : Except BroadwebdError TorHttpTarget :=
  match TorNetworkScheme.fromUrlScheme url.scheme with
  | none =>
    .error (.unsupportedRequest s!"unsupported Tor URL scheme: {String.ofList url.scheme}")
  | some networkScheme =>
    -- The source tests the scheme again here; no scheme that it read fails.
    if hasUserinfo url then
      .error (.unsupportedRequest "Tor onion URLs must not include userinfo")
    else
      match url.hostStr with
      | none => .error (.invalidUrl s!"{source} is missing an onion host")
      | some host =>
        let host := Browser.onionHostText host
        if !Browser.isOnionHost host then
          .error (.unsupportedRequest
            s!"Tor transport only accepts .onion hosts: {String.ofList host}")
        else .ok (targetAt networkScheme host url)

def torHttpTarget (source : String) : Except BroadwebdError TorHttpTarget :=
  parseUrl parsers parseError source >>= targetOf source

def normalizeTorNavigationUrl (source : String) : Except BroadwebdError String := do
  let url ← parseUrl parsers parseError source
  match ← torUrlFromHttpUrl url with
  | some url => .ok url
  | none => (torHttpTarget parsers parseError source).map TorHttpTarget.finalUrl

end Parsing

section Targets

variable {parsers : UrlStandard.Parsers} {parseError : String → String} {source : String}
  {url : UrlStandard.Url} {target : TorHttpTarget} {networkScheme : TorNetworkScheme}
  {host : List Char}

theorem parseUrl_eq_ok_iff :
    parseUrl parsers parseError source = .ok url ↔
      UrlStandard.parse parsers source.toList = some url := by
  unfold parseUrl
  cases UrlStandard.parse parsers source.toList <;> simp

/-- What a URL must be to have a target. -/
structure HasTarget (url : UrlStandard.Url) (networkScheme : TorNetworkScheme)
    (host : List Char) : Prop where
  scheme : TorNetworkScheme.fromUrlScheme url.scheme = some networkScheme
  noUserinfo : hasUserinfo url = false
  hostStr : url.hostStr = some host
  onion : Browser.isOnionHost (Browser.onionHostText host) = true

theorem targetOf_eq_ok_iff :
    targetOf source url = .ok target ↔
      ∃ networkScheme host, HasTarget url networkScheme host ∧
        target = targetAt networkScheme (Browser.onionHostText host) url := by
  unfold targetOf
  constructor
  · intro isTarget
    split at isTarget
    · cases isTarget
    · rename_i networkScheme isScheme
      split at isTarget
      · cases isTarget
      · rename_i noUserinfo
        split at isTarget
        · cases isTarget
        · rename_i host isHost
          dsimp only at isTarget
          split at isTarget
          · cases isTarget
          · rename_i onion
            exact ⟨networkScheme, host, ⟨isScheme, by simpa using noUserinfo, isHost,
              by simpa using onion⟩, (Except.ok.inj isTarget).symm⟩
  · rintro ⟨networkScheme, host, has, rfl⟩
    simp [has.scheme, has.noUserinfo, has.hostStr, has.onion]

theorem torHttpTarget_eq_ok_iff :
    torHttpTarget parsers parseError source = .ok target ↔
      ∃ url networkScheme host, UrlStandard.parse parsers source.toList = some url ∧
        HasTarget url networkScheme host ∧
          target = targetAt networkScheme (Browser.onionHostText host) url := by
  unfold torHttpTarget
  rw [bind_eq_ok_iff]
  simp only [parseUrl_eq_ok_iff, targetOf_eq_ok_iff]
  constructor
  · rintro ⟨url, isUrl, networkScheme, host, has, same⟩
    exact ⟨url, networkScheme, host, isUrl, has, same⟩
  · rintro ⟨url, networkScheme, host, isUrl, has, same⟩
    exact ⟨url, isUrl, networkScheme, host, has, same⟩

/-- The URL of a target is written from what its requests say. -/
theorem targetAt_finalUrl : (targetAt networkScheme host url).finalUrl =
    String.ofList (networkScheme.torScheme ++ "://".toList) ++
      (targetAt networkScheme host url).hostHeader ++
        (targetAt networkScheme host url).pathAndQuery := by
  simp only [targetAt, buildTorUrl, ← String.ofList_append, List.append_assoc]

theorem isOnionHost_of_torHttpTarget
    (isTarget : torHttpTarget parsers parseError source = .ok target) :
    isOnionHost target.host := by
  obtain ⟨url, networkScheme, host, -, has, rfl⟩ := torHttpTarget_eq_ok_iff.mp isTarget
  simpa [isOnionHost, targetAt] using has.onion

theorem finalUrl_of_torHttpTarget
    (isTarget : torHttpTarget parsers parseError source = .ok target) :
    target.finalUrl = String.ofList (target.networkScheme.torScheme ++ "://".toList) ++
      target.hostHeader ++ target.pathAndQuery := by
  obtain ⟨url, networkScheme, host, -, -, rfl⟩ := torHttpTarget_eq_ok_iff.mp isTarget
  exact targetAt_finalUrl

end Targets

end Tor

end Slate.Broadwebd
