import Slate.Broadwebd.EndpointText

/-!
# Endpoints seen from a source

A peer that advertises an unspecified address is reached at the address its datagram came
from. The rewritten endpoint is built from an IP address and a port, so the scope of an IPv6
address is lost.
-/

namespace Slate.Broadwebd

open Slate.Foundation Slate.Foundation.Net

section Written

variable {ip : IpAddr} {port : UInt16}

theorem isValidMultiaddrSegment_of_short {segment : List Char} (nonempty : segment ≠ [])
    (short : segment.length ≤ 128)
    (allowed : ∀ char ∈ segment, isAsciiAlphanumeric char = true ∨ char ∈ "-_.:~%+=".toList) :
    isValidMultiaddrSegment segment = true := by
  have bytes := Text.utf8ByteSize_ofList_le segment
  have inBounds : (String.ofList segment).utf8ByteSize ≤ 512 := by omega
  rw [isValidMultiaddrSegment, Bool.and_eq_true, Bool.and_eq_true]
  refine ⟨⟨by simp [nonempty], decide_eq_true inBounds⟩, List.all_eq_true.mpr ?_⟩
  intro char isMember
  rw [Bool.or_eq_true, List.contains_iff_mem]
  exact allowed char isMember

/-- What is written of an IP address is a segment. -/
theorem isValidMultiaddrSegment_write (ip : IpAddr) :
    isValidMultiaddrSegment ip.write = true := by
  have parsed := IpAddr.parse_toString ip
  have written : (toString ip).toList = ip.write := String.toList_ofList
  apply isValidMultiaddrSegment_of_short
  · intro empty
    have nothing : toString ip = "" := String.toList_inj.mp (written.trans empty)
    rw [nothing] at parsed
    cases parsed
  · exact ip.length_write_le.trans (by decide)
  · intro char isMember
    rw [← written] at isMember
    have isIpChar := isIpChar_of_parse parsed char isMember
    simp only [Net.isIpChar, Bool.or_eq_true, decide_eq_true_eq] at isIpChar
    rcases isIpChar with (isDigit | rfl) | rfl
    · exact .inl (isAsciiAlphanumeric_of_isDigitOf isDigit)
    · exact .inr (by decide)
    · exact .inr (by decide)

theorem isValidMultiaddrSegment_port (port : UInt16) :
    isValidMultiaddrSegment (Nat.toDigits 10 port.toNat) = true := by
  have bounded : port.toNat < 65536 := port.toNat_lt
  have short : (Nat.toDigits 10 port.toNat).length ≤ 5 :=
    (Nat.length_toDigits_le_iff (by decide) (by decide)).mpr (by omega)
  apply isValidMultiaddrSegment_of_short Nat.toDigits_ne_nil (short.trans (by decide))
  intro char isMember
  exact .inl (isAsciiAlphanumeric_of_isDigitOf
    (Reader.isDigitOf_of_mem_toDigits (by decide) (by decide) char isMember))

/-- A multiaddr that was written of an address is opened at this address. -/
theorem tcpMultiaddr_written :
    TcpMultiaddr (serviceFrameTcpMultiaddrFromSocketAddr (.new ip port)) ip port ip.write
      (Nat.toDigits 10 port.toNat) where
  text := by
    have slashes : slashed [familyOf ip, ip.write, "tcp".toList, Nat.toDigits 10 port.toNat] =
        '/' :: familyOf ip ++ '/' :: ip.write ++ "/tcp/".toList ++ Nat.toDigits 10 port.toNat := by
      simp [slashed, List.intercalate_cons_cons]
    have portText : (toString port.toNat).toList = Nat.toDigits 10 port.toNat := Nat.toList_repr
    have ipText : ∀ ip : IpAddr, (toString ip).toList = ip.write := fun _ => String.toList_ofList
    rw [slashes]
    cases ip with
    | v4 ip =>
        change ("/ip4/" ++ toString (IpAddr.v4 ip) ++ "/tcp/" ++ toString port.toNat).toList = _
        rw [String.toList_append, String.toList_append, String.toList_append, ipText,
          portText]
        rfl
    | v6 ip =>
        change ("/ip6/" ++ toString (IpAddr.v6 ip) ++ "/tcp/" ++ toString port.toNat).toList = _
        rw [String.toList_append, String.toList_append, String.toList_append, ipText,
          portText]
        rfl
  validHost := isValidMultiaddrSegment_write ip
  validPort := isValidMultiaddrSegment_port port
  ip := IpAddr.parse_toString ip
  port := parseU16_toDigits port

end Written

section Rewriting

variable {endpoint : String} {addr source : SocketAddr}

/-- The address seen from a source: an unspecified IP address is the source's. -/
def rewritten (addr source : SocketAddr) : SocketAddr :=
  if addr.ip.isUnspecified then addr.setIp source.ip else addr

/-- The endpoint is a literal socket address, not a multiaddr. -/
def IsLiteral (endpoint : String) : Prop := ∃ addr, SocketAddr.parse endpoint = .ok addr

/-- The address that the rewritten endpoint is built from. -/
def builtAddr (addr source : SocketAddr) : SocketAddr :=
  .new (if addr.ip.isUnspecified then source.ip else addr.ip) addr.port

theorem startsWithSlash_iff (tcp : TcpEndpoint endpoint addr) :
    (endpoint.toList.dropWhile Text.isWhitespace).head? = some '/' ↔ ¬ IsLiteral endpoint := by
  have noSpace : endpoint.toList.dropWhile Text.isWhitespace = endpoint.toList := by
    cases text : endpoint.toList with
    | nil => rfl
    | cons char rest =>
        have isNone := tcp.not_isWhitespace char (by simp [text])
        exact List.dropWhile_cons_of_neg (by simp [isNone])
  rw [noSpace]
  cases tcp with
  | literal parsed =>
      refine iff_of_false ?_ (not_not.mpr ⟨addr, parsed⟩)
      intro slash
      have isAddrChar := isSocketAddrChar_of_parse parsed '/' (List.mem_of_head? slash)
      exact absurd isAddrChar (by decide)
  | multiaddr tcp =>
      have valid := validSegments_of_tcp tcp
      refine iff_of_true ?_ ?_
      · rw [tcp.text, slashed_eq_cons valid.1]
        rfl
      · rintro ⟨found, parsed⟩
        obtain ⟨error, fails⟩ := parse_eq_error_of_slash (slash_of_text valid tcp.text)
        rw [fails] at parsed
        cases parsed

/-- What is written of the address that was built. -/
def builtEndpoint (multiaddr : Prop) [Decidable multiaddr] (addr source : SocketAddr) : String :=
  if multiaddr then serviceFrameTcpMultiaddrFromSocketAddr (builtAddr addr source)
  else toString (builtAddr addr source)

theorem builtEndpoint_congr {first second : Prop} [Decidable first] [Decidable second]
    (same : first ↔ second) : builtEndpoint first addr source = builtEndpoint second addr source :=
  if_congr same rfl rfl

theorem endpointForSource_eq (tcp : TcpEndpoint endpoint addr) :
    serviceFrameTcpEndpointForSource endpoint source = .ok (builtEndpoint
      ((endpoint.toList.dropWhile Text.isWhitespace).head? = some '/') addr source) := by
  refine bind_eq_ok_iff.mpr ⟨addr, tcpSocketAddrFromEndpoint_eq_ok_iff.mpr tcp, ?_⟩
  unfold builtEndpoint
  dsimp only
  split
  · rfl
  · rfl

theorem withoutFlow_new (ip : IpAddr) (port : UInt16) :
    (SocketAddr.new ip port).withoutFlow = .new ip port := by
  cases ip with
  | v4 _ => rfl
  | v6 _ => rfl

/-- The rewritten endpoint is in the same notation and opened at the address it was built
from. -/
theorem builtEndpoint_spec (tcp : TcpEndpoint endpoint addr) :
    TcpEndpoint (builtEndpoint
        ((endpoint.toList.dropWhile Text.isWhitespace).head? = some '/') addr source)
      (builtAddr addr source) ∧
    (IsLiteral (builtEndpoint
        ((endpoint.toList.dropWhile Text.isWhitespace).head? = some '/') addr source) ↔
      IsLiteral endpoint) := by
  have slash := startsWithSlash_iff tcp
  unfold builtEndpoint
  by_cases isMultiaddr : (endpoint.toList.dropWhile Text.isWhitespace).head? = some '/'
  · rw [if_pos isMultiaddr]
    have written : TcpEndpoint (serviceFrameTcpMultiaddrFromSocketAddr (builtAddr addr source))
        (builtAddr addr source) := .multiaddr tcpMultiaddr_written
    have tcpWritten := @tcpMultiaddr_written
      (if addr.ip.isUnspecified then source.ip else addr.ip) addr.port
    refine ⟨written, iff_of_false ?_ (slash.mp isMultiaddr)⟩
    rintro ⟨found, parsed⟩
    obtain ⟨error, fails⟩ :=
      parse_eq_error_of_slash (slash_of_text (validSegments_of_tcp tcpWritten) tcpWritten.text)
    have same : SocketAddr.parse (serviceFrameTcpMultiaddrFromSocketAddr (builtAddr addr source)) =
        .error error := fails
    rw [same] at parsed
    cases parsed
  · rw [if_neg isMultiaddr]
    have parsed := SocketAddr.parse_toString (builtAddr addr source)
    have noFlow : (builtAddr addr source).withoutFlow = builtAddr addr source :=
      withoutFlow_new _ _
    rw [noFlow] at parsed
    exact ⟨.literal parsed, iff_of_true ⟨_, parsed⟩ (not_not.mp fun other =>
      isMultiaddr (slash.mpr other))⟩

theorem ip_new (ip : IpAddr) (port : UInt16) : (SocketAddr.new ip port).ip = ip := by
  cases ip with
  | v4 _ => rfl
  | v6 _ => rfl

theorem port_new (ip : IpAddr) (port : UInt16) : (SocketAddr.new ip port).port = port := by
  cases ip with
  | v4 _ => rfl
  | v6 _ => rfl

/-- What was rewritten for a source is not changed by the same source. -/
theorem builtAddr_idempotent : builtAddr (builtAddr addr source) source = builtAddr addr source := by
  unfold builtAddr
  rw [ip_new, port_new]
  congr 1
  by_cases unspecified : addr.ip.isUnspecified = true
  · rw [if_pos unspecified, ite_self]
  · rw [if_neg unspecified, if_neg unspecified]

theorem builtEndpoint_idempotent {multiaddr : Prop} [Decidable multiaddr] :
    builtEndpoint multiaddr (builtAddr addr source) source =
      builtEndpoint multiaddr addr source := by
  rw [builtEndpoint, builtAddr_idempotent, builtEndpoint]

theorem new_eq_v6_iff {v6 : SocketAddrV6} (flow : v6.flowinfo = 0) (ip : Ipv6Addr) :
    SocketAddr.new (.v6 ip) v6.port = .v6 { v6 with ip } ↔ v6.scopeId = 0 := by
  constructor
  · intro same
    exact (congrArg SocketAddr.scopeId same).symm
  · intro noScope
    simp only [SocketAddr.new, flow, noScope]

/-- The address is the rewritten one if it has no scope to lose. -/
theorem builtAddr_eq_rewritten_iff (tcp : TcpEndpoint endpoint addr) :
    builtAddr addr source = rewritten addr source ↔
      addr.scopeId = 0 ∨ addr.ip.isUnspecified = true ∧ source.ip.isIpv4 = true := by
  have noFlow : addr.withoutFlow = addr := by
    cases tcp with
    | literal parsed => exact SocketAddr.withoutFlow_of_parse parsed
    | multiaddr _ => exact withoutFlow_new _ _
  unfold builtAddr rewritten
  cases addr with
  | v4 addr =>
      refine iff_of_true ?_ (.inl rfl)
      split
      · cases source.ip with
        | v4 _ => rfl
        | v6 _ => rfl
      · rfl
  | v6 addr =>
      have flow : addr.flowinfo = 0 := by
        have sameAddr := SocketAddr.v6.inj noFlow
        rw [← sameAddr]
      by_cases unspecified : (SocketAddr.v6 addr).ip.isUnspecified = true
      · rw [if_pos unspecified, if_pos unspecified]
        cases source.ip with
        | v4 _ => exact iff_of_true rfl (.inr ⟨unspecified, rfl⟩)
        | v6 ip =>
            have noIpv4 : ¬ (IpAddr.v6 ip).isIpv4 = true := Bool.false_ne_true
            rw [and_iff_right unspecified, or_iff_left noIpv4]
            exact new_eq_v6_iff flow ip
      · rw [if_neg unspecified, if_neg unspecified, or_iff_left fun both => unspecified both.1]
        exact new_eq_v6_iff flow addr.ip

/-- The endpoint is rewritten for the source: only an unspecified IP address is replaced, the
notation stays, and the source changes nothing more. -/
def SourceRewritten (endpoint : String) (addr source : SocketAddr) : Prop :=
  ∃ text, serviceFrameTcpEndpointForSource endpoint source = .ok text ∧
    serviceFrameTcpSocketAddrFromEndpoint text = .ok (rewritten addr source) ∧
    (IsLiteral text ↔ IsLiteral endpoint) ∧
    serviceFrameTcpEndpointForSource text source = .ok text

/-- Exactly the scope of an IPv6 address gets lost. -/
theorem sourceRewritten_iff
    (opened : serviceFrameTcpSocketAddrFromEndpoint endpoint = .ok addr) :
    SourceRewritten endpoint addr source ↔
      addr.scopeId = 0 ∨ addr.ip.isUnspecified = true ∧ source.ip.isIpv4 = true := by
  have tcp := tcpSocketAddrFromEndpoint_eq_ok_iff.mp opened
  rw [← builtAddr_eq_rewritten_iff tcp]
  have made := @endpointForSource_eq endpoint addr source tcp
  obtain ⟨tcpBuilt, sameNotation⟩ := @builtEndpoint_spec endpoint addr source tcp
  have openedBuilt := tcpSocketAddrFromEndpoint_eq_ok_iff.mpr tcpBuilt
  constructor
  · rintro ⟨text, madeText, openedText, -⟩
    obtain rfl := Except.ok.inj (made.symm.trans madeText)
    exact Except.ok.inj (openedBuilt.symm.trans openedText)
  · intro same
    refine ⟨_, made, same ▸ openedBuilt, sameNotation, ?_⟩
    have slash := startsWithSlash_iff tcp
    have slashBuilt := startsWithSlash_iff tcpBuilt
    rw [sameNotation, ← slash] at slashBuilt
    rw [endpointForSource_eq tcpBuilt, builtEndpoint_congr slashBuilt, builtEndpoint_idempotent]

end Rewriting

section Sample

/-- A source of IPv4 and one of IPv6. -/
def lanSource : SocketAddr := .v4 { ip := ⟨192, 168, 50, 55⟩, port := 47883 }

def linkLocalSource : SocketAddr :=
  .v6 { ip := ⟨[0xfe80, 0, 0, 0, 0, 0, 0, 2], rfl⟩, port := 47883, flowinfo := 0, scopeId := 3 }

/-- A link-local address with a scope. -/
def scopedAddr : SocketAddr :=
  .v6 { ip := ⟨[0xfe80, 0, 0, 0, 0, 0, 0, 1], rfl⟩, port := 9443, flowinfo := 0, scopeId := 3 }

/-- The scope of a link-local address is dropped though its IP address stays. -/
theorem scoped_endpoint_loses_scope :
    serviceFrameTcpSocketAddrFromEndpoint "[fe80::1%3]:9443" = .ok scopedAddr ∧
      serviceFrameTcpEndpointForSource "[fe80::1%3]:9443" linkLocalSource =
        .ok "[fe80::1]:9443" ∧
      ¬ SourceRewritten "[fe80::1%3]:9443" scopedAddr linkLocalSource := by
  have opened : serviceFrameTcpSocketAddrFromEndpoint "[fe80::1%3]:9443" = .ok scopedAddr := by
    decide +kernel
  refine ⟨opened, by decide +kernel, ?_⟩
  rintro ⟨text, made, openedText, -⟩
  have isText : serviceFrameTcpEndpointForSource "[fe80::1%3]:9443" linkLocalSource =
      .ok "[fe80::1]:9443" := by decide +kernel
  obtain rfl := Except.ok.inj (isText.symm.trans made)
  have lost : serviceFrameTcpSocketAddrFromEndpoint "[fe80::1]:9443" ≠
      .ok (rewritten scopedAddr linkLocalSource) := by decide +kernel
  exact lost openedText

theorem unspecified_endpoint_rewritten :
    serviceFrameTcpSocketAddrFromEndpoint "/ip4/0.0.0.0/tcp/9443" =
        .ok (.v4 { ip := ⟨0, 0, 0, 0⟩, port := 9443 }) ∧
      (SourceRewritten "/ip4/0.0.0.0/tcp/9443" (.v4 { ip := ⟨0, 0, 0, 0⟩, port := 9443 })
          lanSource ↔
        (SocketAddr.v4 { ip := ⟨0, 0, 0, 0⟩, port := 9443 }).scopeId = 0 ∨
          (SocketAddr.v4 { ip := ⟨0, 0, 0, 0⟩, port := 9443 }).ip.isUnspecified = true ∧
            lanSource.ip.isIpv4 = true) := by
  have opened : serviceFrameTcpSocketAddrFromEndpoint "/ip4/0.0.0.0/tcp/9443" =
      .ok (.v4 { ip := ⟨0, 0, 0, 0⟩, port := 9443 }) := by decide +kernel
  exact ⟨opened, sourceRewritten_iff opened⟩

end Sample

end Slate.Broadwebd
