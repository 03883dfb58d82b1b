import Mathlib.Algebra.Group.Nat.Defs
import Slate.Foundation.Reader

/-!
# Socket addresses

Addresses of the two IP families and their text, as the Rust standard library reads and
writes them. An IPv6 address has eight segments; the longest run of two or more zeros may be
left out between two colons, and the last two may be written as an IPv4 address.
-/

namespace Slate.Foundation.Net

structure Ipv4Addr where
  first : UInt8
  second : UInt8
  third : UInt8
  fourth : UInt8
deriving DecidableEq, Repr

structure Ipv6Addr where
  segments : List UInt16
  count : segments.length = 8
deriving DecidableEq, Repr

inductive IpAddr where
  | v4 (ip : Ipv4Addr)
  | v6 (ip : Ipv6Addr)
deriving DecidableEq, Repr

structure SocketAddrV4 where
  ip : Ipv4Addr
  port : UInt16
deriving DecidableEq, Repr

structure SocketAddrV6 where
  ip : Ipv6Addr
  port : UInt16
  flowinfo : UInt32
  scopeId : UInt32
deriving DecidableEq, Repr

inductive SocketAddr where
  | v4 (addr : SocketAddrV4)
  | v6 (addr : SocketAddrV6)
deriving DecidableEq, Repr

section Values

def Ipv4Addr.isUnspecified (ip : Ipv4Addr) : Bool := ip = ⟨0, 0, 0, 0⟩

def Ipv6Addr.isUnspecified (ip : Ipv6Addr) : Bool := ip.segments = List.replicate 8 0

def IpAddr.isUnspecified : IpAddr → Bool
  | .v4 ip => ip.isUnspecified
  | .v6 ip => ip.isUnspecified

def IpAddr.isIpv4 : IpAddr → Bool
  | .v4 _ => true
  | .v6 _ => false

def IpAddr.isIpv6 : IpAddr → Bool
  | .v4 _ => false
  | .v6 _ => true

namespace SocketAddr

/-- `SocketAddr::new`: without a flow and a scope. -/
def new (ip : IpAddr) (port : UInt16) : SocketAddr :=
  match ip with
  | .v4 ip => .v4 { ip, port }
  | .v6 ip => .v6 { ip, port, flowinfo := 0, scopeId := 0 }

def ip : SocketAddr → IpAddr
  | .v4 addr => .v4 addr.ip
  | .v6 addr => .v6 addr.ip

def port : SocketAddr → UInt16
  | .v4 addr => addr.port
  | .v6 addr => addr.port

def scopeId : SocketAddr → UInt32
  | .v4 _ => 0
  | .v6 addr => addr.scopeId

/-- `SocketAddr::set_ip`: the flow and the scope stay if the address is still of IPv6. -/
def setIp (ip : IpAddr) : SocketAddr → SocketAddr
  | .v4 addr =>
      match ip with
      | .v4 ip => .v4 { addr with ip }
      | .v6 _ => new ip addr.port
  | .v6 addr =>
      match ip with
      | .v4 _ => new ip addr.port
      | .v6 ip => .v6 { addr with ip }

end SocketAddr

/-- Segments in front, zeros in the middle and segments at the end, eight in all. -/
def Ipv6Addr.ofParts (front back : List UInt16) : Ipv6Addr where
  segments :=
    ((front ++ List.replicate (8 - front.length - back.length) 0 ++ back) ++
      List.replicate 8 0).take 8
  count := by
    rw [List.length_take, List.length_append, List.length_replicate]
    omega

end Values

section Reading

open Reader

/-- The separator in front of every group but the first. -/
def readSeparator {α : Type} (separator : Char) (isFirst : Bool) (inner : Reader α) : Reader α :=
  do
    if !isFirst then givenChar separator
    inner

def octetForm : NumberForm where
  radix := 10
  maxDigits := some 3
  allowZeroPrefix := false
  bound := 2 ^ 8

def segmentForm : NumberForm where
  radix := 16
  maxDigits := some 4
  allowZeroPrefix := true
  bound := 2 ^ 16

def portForm : NumberForm where
  radix := 10
  maxDigits := none
  allowZeroPrefix := true
  bound := 2 ^ 16

def scopeIdForm : NumberForm where
  radix := 10
  maxDigits := none
  allowZeroPrefix := true
  bound := 2 ^ 32

def readOctet : Reader UInt8 := do
  let value ← number octetForm
  pure (UInt8.ofNat value)

def readSegment : Reader UInt16 := do
  let value ← number segmentForm
  pure (UInt16.ofNat value)

def readIpv4Addr : Reader Ipv4Addr := do
  let first ← readSeparator '.' true readOctet
  let second ← readSeparator '.' false readOctet
  let third ← readSeparator '.' false readOctet
  let fourth ← readSeparator '.' false readOctet
  pure ⟨first, second, third, fourth⟩

/-- The two segments that an IPv4 address stands for. -/
def Ipv4Addr.segments (ip : Ipv4Addr) : List UInt16 :=
  [ip.first.toUInt16 * 256 + ip.second.toUInt16, ip.third.toUInt16 * 256 + ip.fourth.toUInt16]

/-- Segments as long as there are any, and whether an IPv4 address was among them. -/
def readGroups : Bool → Nat → List Char → (List UInt16 × Bool) × List Char
  | _, 0, text => (([], false), text)
  | isFirst, left + 1, text =>
      -- An embedded IPv4 address needs room for two segments.
      match if 0 < left then readSeparator ':' isFirst readIpv4Addr text else none with
      | some (ip, rest) => ((ip.segments, true), rest)
      | none =>
          match readSeparator ':' isFirst readSegment text with
          | some (segment, rest) =>
              let found := readGroups false left rest
              ((segment :: found.1.1, found.1.2), found.2)
          | none => (([], false), text)

def readIpv6Addr : Reader Ipv6Addr := do
  let (head, headIpv4) ← fun text => some (readGroups true 8 text)
  if head.length = 8 then
    return .ofParts head []
  if headIpv4 then
    failure
  givenChar ':'
  givenChar ':'
  let (tail, _) ← fun text => some (readGroups true (8 - (head.length + 1)) text)
  return .ofParts head tail

def readIpAddr : Reader IpAddr :=
  (do let ip ← readIpv4Addr; pure (.v4 ip)) <|> (do let ip ← readIpv6Addr; pure (.v6 ip))

def readPort : Reader UInt16 := do
  givenChar ':'
  let value ← number portForm
  pure (UInt16.ofNat value)

def readScopeId : Reader UInt32 := do
  givenChar '%'
  let value ← number scopeIdForm
  pure (UInt32.ofNat value)

def readSocketAddrV4 : Reader SocketAddrV4 := do
  let ip ← readIpv4Addr
  let port ← readPort
  pure { ip, port }

def readSocketAddrV6 : Reader SocketAddrV6 := do
  givenChar '['
  let ip ← readIpv6Addr
  let scopeId ← readScopeId <|> pure 0
  givenChar ']'
  let port ← readPort
  pure { ip, port, flowinfo := 0, scopeId }

def readSocketAddr : Reader SocketAddr :=
  (do let addr ← readSocketAddrV4; pure (.v4 addr)) <|>
    (do let addr ← readSocketAddrV6; pure (.v6 addr))

/-- `str::parse::<IpAddr>`. -/
def IpAddr.parse (text : String) : Except String IpAddr :=
  match whole readIpAddr text.toList with
  | some ip => .ok ip
  | none => .error "invalid IP address syntax"

/-- `str::parse::<SocketAddr>`. -/
def SocketAddr.parse (text : String) : Except String SocketAddr :=
  match whole readSocketAddr text.toList with
  | some addr => .ok addr
  | none => .error "invalid socket address syntax"

end Reading

section Writing

def Ipv4Addr.write (ip : Ipv4Addr) : List Char :=
  Nat.toDigits 10 ip.first.toNat ++ '.' :: Nat.toDigits 10 ip.second.toNat ++
    '.' :: Nat.toDigits 10 ip.third.toNat ++ '.' :: Nat.toDigits 10 ip.fourth.toNat

/-- A run of zeros. -/
structure Span where
  start : Nat
  len : Nat
deriving DecidableEq, Repr

/-- The variables of the loop: the longest run and the one at hand. -/
structure SpanState where
  longest : Span
  current : Span

def SpanState.start : SpanState where
  longest := ⟨0, 0⟩
  current := ⟨0, 0⟩

def extendSpan (state : SpanState) (entry : UInt16 × Nat) : SpanState :=
  if entry.1 = 0 then
    let start := if state.current.len = 0 then entry.2 else state.current.start
    let current : Span := ⟨start, state.current.len + 1⟩
    { longest := if current.len > state.longest.len then current else state.longest, current }
  else { state with current := ⟨0, 0⟩ }

/-- The first of the longest runs of zeros. -/
def longestZeros (segments : List UInt16) : Span :=
  (segments.zipIdx.foldl extendSpan SpanState.start).longest

/-- Segments with colons between them. -/
def writeSegments : List UInt16 → List Char
  | [] => []
  | [segment] => Nat.toDigits 16 segment.toNat
  | segment :: rest => Nat.toDigits 16 segment.toNat ++ ':' :: writeSegments rest

/-- `Ipv6Addr::to_ipv4_mapped`. -/
def Ipv6Addr.toIpv4Mapped (ip : Ipv6Addr) : Option Ipv4Addr :=
  match ip.segments with
  | [0, 0, 0, 0, 0, 0xffff, upper, lower] =>
      some ⟨(upper / 256).toUInt8, upper.toUInt8, (lower / 256).toUInt8, lower.toUInt8⟩
  | _ => none

def Ipv6Addr.write (ip : Ipv6Addr) : List Char :=
  match ip.toIpv4Mapped with
  | some mapped => "::ffff:".toList ++ mapped.write
  | none =>
      let zeroes := longestZeros ip.segments
      if zeroes.len > 1 then
        writeSegments (ip.segments.take zeroes.start) ++ ':' :: ':' ::
          writeSegments (ip.segments.drop (zeroes.start + zeroes.len))
      else writeSegments ip.segments

def IpAddr.write : IpAddr → List Char
  | .v4 ip => ip.write
  | .v6 ip => ip.write

def SocketAddrV4.write (addr : SocketAddrV4) : List Char :=
  addr.ip.write ++ ':' :: Nat.toDigits 10 addr.port.toNat

def SocketAddrV6.write (addr : SocketAddrV6) : List Char :=
  '[' :: addr.ip.write ++
    (if addr.scopeId = 0 then [] else '%' :: Nat.toDigits 10 addr.scopeId.toNat) ++
    ']' :: ':' :: Nat.toDigits 10 addr.port.toNat

def SocketAddr.write : SocketAddr → List Char
  | .v4 addr => addr.write
  | .v6 addr => addr.write

instance : ToString IpAddr where
  toString ip := String.ofList ip.write

instance : ToString SocketAddr where
  toString addr := String.ofList addr.write

end Writing

end Slate.Foundation.Net
