import Slate.Broadwebd.Http
import Slate.Broadwebd.PeerAdvertisement
import Slate.Foundation.SocketAddrText

/-!
# Service-frame endpoints

An endpoint is a literal socket address, a multiaddr or a target with a prefix. It is
classified by the connector it needs; TCP endpoints are opened by the socket address in
them. The classification trims its text, the TCP connector takes it as it is.
-/

namespace Slate.Broadwebd

open Slate.Foundation Slate.Foundation.Net

section Numbers

/-- The digits of a `u16`, read from the left with `checked_mul` and `checked_add`. -/
def parseU16Digits : List Char → Nat → Except String UInt16
  | [], result => .ok (UInt16.ofNat result)
  | digit :: rest, result =>
      if digit.isDigit then
        let next := result * 10 + (digit.toNat - '0'.toNat)
        if 65535 < next then .error "number too large to fit in target type"
        else parseU16Digits rest next
      else .error "invalid digit found in string"

/-- `str::parse::<u16>`. -/
def parseU16 (text : List Char) : Except String UInt16 :=
  match text with
  | [] => .error "cannot parse integer from empty string"
  | ['+'] => .error "invalid digit found in string"
  | ['-'] => .error "invalid digit found in string"
  | '+' :: digits => parseU16Digits digits 0
  | digits => parseU16Digits digits 0

end Numbers

section Multiaddr

def MultiaddrError.text : MultiaddrError → String
  | .empty => "multiaddr is empty"
  | .missingLeadingSlash => "multiaddr must start with '/'"
  | .emptySegment => "multiaddr contains an empty segment"
  | .invalidSegment segment => "invalid multiaddr segment: " ++ segment

/-- `Multiaddr::segments`. -/
def multiaddrSegments (multiaddr : String) : List (List Char) :=
  (multiaddr.toList.splitOn '/').filter fun segment => !segment.isEmpty

end Multiaddr

inductive ServiceFrameConnectorKind where
  | tcp
  | libp2p
  | iroh
  | ipns
  | dnsaddr
deriving DecidableEq, Repr

namespace ServiceFrameConnectorKind

def asStr : ServiceFrameConnectorKind → String
  | .tcp => "tcp"
  | .libp2p => "libp2p"
  | .iroh => "iroh"
  | .ipns => "ipns"
  | .dnsaddr => "dnsaddr"

def isDeferred (kind : ServiceFrameConnectorKind) : Bool := kind ≠ .tcp

end ServiceFrameConnectorKind

section TcpAddresses

/-- The IP address of a multiaddr that says of which family it is. -/
def ipFromMultiaddr (endpoint : String) (network host : List Char) :
    Except BroadwebdError IpAddr :=
  if network = "ip4".toList then do
    let ip ← (IpAddr.parse (String.ofList host)).mapError fun error =>
      .request ("invalid service-frame TCP /ip4 endpoint " ++ endpoint ++ ": " ++ error)
    if !ip.isIpv4 then
      throw (.request ("service-frame TCP /ip4 endpoint contains non-IPv4 address: " ++ endpoint))
    pure ip
  else if network = "ip6".toList then do
    let ip ← (IpAddr.parse (String.ofList host)).mapError fun error =>
      .request ("invalid service-frame TCP /ip6 endpoint " ++ endpoint ++ ": " ++ error)
    if !ip.isIpv6 then
      throw (.request ("service-frame TCP /ip6 endpoint contains non-IPv6 address: " ++ endpoint))
    pure ip
  else .error (.unsupportedRequest ("service-frame TCP connector requires literal /ip4 or /ip6 " ++
    "multiaddr endpoint: " ++ endpoint))

def serviceFrameTcpSocketAddrFromMultiaddr (endpoint : String) :
    Except BroadwebdError SocketAddr :=
  match multiaddrSegments endpoint with
  | [network, host, transport, port] => do
      if transport ≠ "tcp".toList then
        throw (.unsupportedRequest ("service-frame TCP connector cannot open non-TCP multiaddr " ++
          "endpoint " ++ endpoint))
      let ip ← ipFromMultiaddr endpoint network host
      let port ← (parseU16 port).mapError fun error =>
        .request ("invalid service-frame TCP port in multiaddr endpoint " ++ endpoint ++ ": " ++
          error)
      pure (.new ip port)
  | _ => .error (.unsupportedRequest ("service-frame TCP connector cannot open multiaddr " ++
      "endpoint " ++ endpoint ++ "; use a connector for its transport stack"))

def serviceFrameTcpSocketAddrFromEndpoint (endpoint : String) :
    Except BroadwebdError SocketAddr :=
  match SocketAddr.parse endpoint with
  | .ok socketAddr => .ok socketAddr
  | .error _ => do
      let multiaddr ← (parseMultiaddr endpoint).mapError fun error =>
        .request ("service-frame TCP endpoint must be a literal socket address or " ++
          "/ip4|/ip6/.../tcp/... multiaddr: " ++ error.text)
      serviceFrameTcpSocketAddrFromMultiaddr multiaddr

def serviceFrameTcpMultiaddrFromSocketAddr (socketAddr : SocketAddr) : String :=
  match socketAddr.ip with
  | .v4 ip => "/ip4/" ++ toString (IpAddr.v4 ip) ++ "/tcp/" ++ toString socketAddr.port.toNat
  | .v6 ip => "/ip6/" ++ toString (IpAddr.v6 ip) ++ "/tcp/" ++ toString socketAddr.port.toNat

/-- An unspecified address of the endpoint is replaced by the source's. -/
def serviceFrameTcpEndpointForSource (endpoint : String) (sourceAddr : SocketAddr) :
    Except BroadwebdError String := do
  let socketAddr ← serviceFrameTcpSocketAddrFromEndpoint endpoint
  let ip := if socketAddr.ip.isUnspecified then sourceAddr.ip else socketAddr.ip
  let socketAddr := SocketAddr.new ip socketAddr.port
  if (endpoint.toList.dropWhile Text.isWhitespace).head? = some '/' then
    pure (serviceFrameTcpMultiaddrFromSocketAddr socketAddr)
  else
    pure (toString socketAddr)

end TcpAddresses

section Classification

def stripPrefix (front : String) (text : String) : Option String :=
  if front.toList <+: text.toList then some (String.ofList (text.toList.drop front.length))
  else none

def validateDeferredServiceFrameEndpointTarget (protocol target : String) :
    Except BroadwebdError Unit :=
  if !target.isEmpty && target.utf8ByteSize ≤ 512 &&
      target.toList.all fun char => isAsciiAlphanumeric char || "-_.:~%+=".toList.contains char then
    .ok ()
  else .error (.request ("invalid service-frame " ++ protocol ++ " endpoint target: " ++
    String.quote target))

def serviceFrameConnectorKindForMultiaddr (endpoint : String) :
    Except BroadwebdError ServiceFrameConnectorKind :=
  let segments := multiaddrSegments endpoint
  if (serviceFrameTcpSocketAddrFromMultiaddr endpoint).toBool then .ok .tcp
  else if segments.head? = some "ipns".toList ∧ 2 ≤ segments.length then .ok .ipns
  else if segments.any (· = "p2p".toList) then .ok .libp2p
  else if segments.head? = some "dnsaddr".toList ∧ 2 ≤ segments.length then .ok .dnsaddr
  else if (segments.head? = some "iroh".toList ∨ segments.head? = some "iroh-node".toList) ∧
      2 ≤ segments.length then .ok .iroh
  else .error (.unsupportedRequest ("service-frame endpoint " ++ endpoint ++
    " needs an explicit protocol connector"))

def serviceFrameConnectorKindForEndpoint (endpoint : String) :
    Except BroadwebdError ServiceFrameConnectorKind := do
  let endpoint := String.ofList (Text.trim endpoint.toList)
  if endpoint.isEmpty then
    throw (.request "service-frame endpoint is empty")
  if (SocketAddr.parse endpoint).toBool then
    return .tcp
  if let some target := stripPrefix "iroh-node:" endpoint then
    validateDeferredServiceFrameEndpointTarget "iroh-node" target
    return .iroh
  if let some target := stripPrefix "ipns:" endpoint then
    validateDeferredServiceFrameEndpointTarget "ipns" target
    return .ipns
  let multiaddr ← (parseMultiaddr endpoint).mapError fun error =>
    .request ("service-frame endpoint must be a literal socket address, deferred protocol " ++
      "endpoint, or multiaddr: " ++ error.text)
  serviceFrameConnectorKindForMultiaddr multiaddr

end Classification

section Connectors

structure TcpServiceFrameConnector where
  address : String
  timeout : Nat
deriving DecidableEq, Repr

/-- The address that `connect` opens a stream to. -/
def TcpServiceFrameConnector.connectAddr (connector : TcpServiceFrameConnector) :
    Except BroadwebdError SocketAddr :=
  serviceFrameTcpSocketAddrFromEndpoint connector.address

structure DeferredServiceFrameConnector where
  endpoint : String
  kind : ServiceFrameConnectorKind
deriving DecidableEq, Repr

def DeferredServiceFrameConnector.new (endpoint : String) :
    Except BroadwebdError DeferredServiceFrameConnector := do
  let kind ← serviceFrameConnectorKindForEndpoint endpoint
  if !kind.isDeferred then
    throw (.unsupportedRequest ("deferred service-frame connector cannot be created for TCP " ++
      "endpoint " ++ endpoint))
  pure { endpoint, kind }

variable {Handler : Type}

/-- The endpoints of a process, each with its handler and kind. -/
abbrev InProcessServiceFrameEndpointRegistry (Handler : Type) :=
  List (String × Handler × ServiceFrameConnectorKind)

namespace InProcessServiceFrameEndpointRegistry

def containsEndpoint (endpoint : String)
    (registry : InProcessServiceFrameEndpointRegistry Handler) : Bool :=
  registry.any (·.1 = endpoint)

/-- The endpoint that an in-process connector keeps. -/
def connector (endpoint : String) (registry : InProcessServiceFrameEndpointRegistry Handler) :
    Except BroadwebdError String := do
  let kind ← serviceFrameConnectorKindForEndpoint endpoint
  if !kind.isDeferred then
    throw (.unsupportedRequest ("in-process service-frame endpoint registry cannot connect TCP " ++
      "endpoint " ++ endpoint ++ "; use TcpServiceFrameConnector for TCP"))
  if !registry.containsEndpoint endpoint then
    throw (.unsupportedRequest ("unregistered in-process service-frame endpoint: " ++ endpoint))
  pure endpoint

end InProcessServiceFrameEndpointRegistry

/-- Which endpoints a transport supports. -/
abbrev ServiceFrameEndpointTransport := String → ServiceFrameConnectorKind → Bool

inductive ServiceFrameEndpointConnector where
  | tcp (connector : TcpServiceFrameConnector)
  | deferred (connector : DeferredServiceFrameConnector)
  | inProcess (endpoint : String)
  | transport (endpoint : String) (kind : ServiceFrameConnectorKind)
      (supportsEndpoint : ServiceFrameEndpointTransport)

structure ServiceFrameEndpointConnectorFactory (Handler : Type) where
  registry : Option (InProcessServiceFrameEndpointRegistry Handler)
  transports : List ServiceFrameEndpointTransport
  tcpTimeout : Nat

def ServiceFrameEndpointConnectorFactory.connector (endpoint : String)
    (factory : ServiceFrameEndpointConnectorFactory Handler) :
    Except BroadwebdError ServiceFrameEndpointConnector := do
  let kind ← serviceFrameConnectorKindForEndpoint endpoint
  if kind = .tcp then
    return .tcp { address := endpoint, timeout := factory.tcpTimeout }
  if let some registry := factory.registry then
    if registry.containsEndpoint endpoint then
      let endpoint ← registry.connector endpoint
      return .inProcess endpoint
  if let some transport := factory.transports.find? fun transport => transport endpoint kind then
    return .transport endpoint kind transport
  let connector ← DeferredServiceFrameConnector.new endpoint
  pure (.deferred connector)

end Connectors

end Slate.Broadwebd
