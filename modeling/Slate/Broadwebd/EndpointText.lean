import Slate.Broadwebd.Endpoint
import Slate.Foundation.Transaction

/-!
# The text of a TCP endpoint

A multiaddr is a slash in front of each of its segments. A TCP endpoint is a literal socket
address, or a multiaddr of a family, an IP address of this family, `tcp` and a port. What is
written of a socket address is an endpoint in either notation.
-/

namespace Slate.Broadwebd

open Slate.Foundation Slate.Foundation.Net

section Multiaddr

variable {input result : String} {segments : List (List Char)}

/-- The text of a multiaddr with these segments. -/
def slashed (segments : List (List Char)) : List Char := ['/'].intercalate ([] :: segments)

/-- The segments of a multiaddr: there are some, and all are valid. -/
def ValidSegments (segments : List (List Char)) : Prop :=
  segments ≠ [] ∧ ∀ segment ∈ segments, isValidMultiaddrSegment segment = true

theorem isAsciiAlphanumeric_iff {char : Char} :
    isAsciiAlphanumeric char = true ↔ (48 ≤ char.toNat ∧ char.toNat ≤ 57) ∨
      (65 ≤ char.toNat ∧ char.toNat ≤ 90) ∨ (97 ≤ char.toNat ∧ char.toNat ≤ 122) := by
  have code : char.toNat = char.val.toNat := rfl
  simp only [isAsciiAlphanumeric, Bool.or_eq_true, Bool.and_eq_true, decide_eq_true_eq,
    Char.le_def, UInt32.le_iff_toNat_le, code]
  simp
  omega

/-- The characters of a segment are neither slashes nor white space. -/
theorem other_of_valid {segment : List Char} (valid : isValidMultiaddrSegment segment = true) :
    ∀ char ∈ segment, char ≠ '/' ∧ Text.isWhitespace char = false := by
  have allOther : "-_.:~%+=".toList.all
      (fun char => char != '/' && !Text.isWhitespace char) = true := by decide
  have punctuation : ∀ char ∈ "-_.:~%+=".toList,
      char ≠ '/' ∧ Text.isWhitespace char = false := by
    intro char isMember
    simpa using List.all_eq_true.mp allOther char isMember
  intro char isMember
  rw [isValidMultiaddrSegment, Bool.and_eq_true] at valid
  have allowed := List.all_eq_true.mp valid.2 char isMember
  rw [Bool.or_eq_true] at allowed
  rcases allowed with alphanumeric | isOther
  · have code := isAsciiAlphanumeric_iff.mp alphanumeric
    constructor
    · rintro rfl
      revert code
      decide
    · simp only [Text.isWhitespace, Bool.or_eq_false_iff, Bool.and_eq_false_iff,
        decide_eq_false_iff_not]
      omega
  · exact punctuation char (List.contains_iff_mem.mp isOther)

theorem not_slash_of_validSegments (valid : ValidSegments segments) :
    ∀ segment ∈ segments, '/' ∉ segment := fun segment isSegment isMember =>
  (other_of_valid (valid.2 segment isSegment) '/' isMember).1 rfl

theorem unspaced_slashed (valid : ValidSegments segments) : Text.Unspaced (slashed segments) := by
  intro char isMember
  rcases Text.mem_intercalate isMember with rfl | ⟨part, isPart, inPart⟩
  · decide
  · rcases List.mem_cons.mp isPart with rfl | isSegment
    · cases inPart
    · exact (other_of_valid (valid.2 part isSegment) char inPart).2

theorem splitOn_slashed (valid : ValidSegments segments) :
    (slashed segments).splitOn '/' = [] :: segments := by
  apply List.splitOn_intercalate
  · intro segment isSegment
    rcases List.mem_cons.mp isSegment with rfl | isSegment
    · exact List.not_mem_nil
    · exact not_slash_of_validSegments valid segment isSegment
  · exact List.cons_ne_nil _ _

theorem slashed_eq_cons (nonempty : segments ≠ []) :
    slashed segments = '/' :: ['/'].intercalate segments := by
  rw [slashed, List.intercalate_cons_of_ne_nil nonempty]
  rfl

theorem not_isEmpty_of_valid {segment : List Char}
    (valid : isValidMultiaddrSegment segment = true) : segment.isEmpty = false := by
  cases segment with
  | nil => exact absurd valid (by decide)
  | cons char others => rfl

theorem parseMultiaddr_eq_ok_iff :
    parseMultiaddr input = .ok result ↔
      result = input ∧ ∃ segments, ValidSegments segments ∧ input.toList = slashed segments := by
  unfold parseMultiaddr
  rw [check_then_eq_ok_iff, check_then_eq_ok_iff, check_then_eq_ok_iff]
  constructor
  · rintro ⟨-, slash, -, parsed⟩
    obtain ⟨rest, isInput⟩ := List.head?_eq_some_iff.mp (not_not.mp slash)
    have split : input.toList.splitOn '/' = [] :: rest.splitOn '/' := by
      rw [isInput]
      exact List.splitOn_append_cons_self [] rest
    have joined := @List.intercalate_splitOn Char input.toList _ _ '/'
    rw [split] at joined parsed
    simp only [List.drop_one, List.tail_cons] at parsed
    cases invalid : (rest.splitOn '/').find? (!isValidMultiaddrSegment ·) with
    | some segment =>
        rw [invalid] at parsed
        cases parsed
    | none =>
        rw [invalid] at parsed
        refine ⟨(Except.ok.inj parsed).symm, rest.splitOn '/', ⟨List.splitOn_ne_nil '/' rest, ?_⟩,
          joined.symm⟩
        intro segment isSegment
        simpa using List.find?_eq_none.mp invalid segment isSegment
  · rintro ⟨rfl, segments, valid, isText⟩
    have split := splitOn_slashed valid
    rw [← isText] at split
    have slash := slashed_eq_cons valid.1
    rw [← isText] at slash
    refine ⟨?_, ?_, ?_, ?_⟩
    · intro empty
      rw [String.isEmpty_iff.mp empty] at slash
      cases slash
    · rw [slash]
      exact fun other => other rfl
    · rw [split]
      intro someEmpty
      obtain ⟨segment, isSegment, empty⟩ := List.any_eq_true.mp someEmpty
      rw [not_isEmpty_of_valid (valid.2 segment isSegment)] at empty
      cases empty
    · have allValid : segments.find? (!isValidMultiaddrSegment ·) = none := by
        rw [List.find?_eq_none]
        intro segment isSegment
        simp [valid.2 segment isSegment]
      rw [split]
      simp only [List.drop_one, List.tail_cons]
      rw [allValid]
      rfl

theorem multiaddrSegments_eq (valid : ValidSegments segments)
    (isText : input.toList = slashed segments) : multiaddrSegments input = segments := by
  rw [multiaddrSegments, isText, splitOn_slashed valid, List.filter_cons_of_neg (by simp),
    List.filter_eq_self]
  intro segment isSegment
  rw [not_isEmpty_of_valid (valid.2 segment isSegment)]
  rfl

end Multiaddr

section Ports

theorem foldl_le {digits : List Char} (result : Nat) :
    result ≤ digits.foldl (fun value digit => value * 10 + (digit.toNat - '0'.toNat)) result := by
  induction digits generalizing result with
  | nil => exact le_rfl
  | cons digit digits inductionHypothesis =>
      have later := inductionHypothesis (result * 10 + (digit.toNat - '0'.toNat))
      rw [List.foldl_cons]
      omega

theorem parseU16Digits_eq_ok {digits : List Char} {result value : Nat}
    (areDigits : ∀ digit ∈ digits, digit.isDigit = true)
    (isValue : digits.foldl (fun value digit => value * 10 + (digit.toNat - '0'.toNat)) result =
      value) (inBounds : value < 65536) :
    parseU16Digits digits result = .ok (UInt16.ofNat value) := by
  induction digits generalizing result with
  | nil =>
      obtain rfl : result = value := isValue
      rfl
  | cons digit digits inductionHypothesis =>
      rw [List.foldl_cons] at isValue
      have atMost := @foldl_le digits (result * 10 + (digit.toNat - '0'.toNat))
      rw [isValue] at atMost
      rw [parseU16Digits, if_pos (areDigits digit (List.mem_cons_self ..))]
      dsimp only
      rw [if_neg (by omega)]
      exact inductionHypothesis (fun other isOther => areDigits other (.tail _ isOther)) isValue

/-- A port that was written is parsed again. -/
theorem parseU16_toDigits (port : UInt16) :
    parseU16 (Nat.toDigits 10 port.toNat) = .ok port := by
  have areDigits : ∀ digit ∈ Nat.toDigits 10 port.toNat, digit.isDigit = true := fun _ isDigit =>
    Nat.isDigit_of_mem_toDigits (by decide) (by decide) isDigit
  have isValue : (Nat.toDigits 10 port.toNat).foldl
      (fun value digit => value * 10 + (digit.toNat - '0'.toNat)) 0 = port.toNat := by
    have read := Json.ofDigits_toDigits port.toNat
    simp only [Json.ofDigits, Nat.mul_comm 10] at read
    exact read
  have parsed := parseU16Digits_eq_ok areDigits isValue port.toNat_lt
  rw [UInt16.ofNat_toNat] at parsed
  unfold parseU16
  split
  · rename_i empty
    exact absurd empty Nat.toDigits_ne_nil
  · rename_i sign
    rw [sign] at areDigits
    exact absurd (areDigits '+' (List.mem_cons_self ..)) (by decide)
  · rename_i sign
    rw [sign] at areDigits
    exact absurd (areDigits '-' (List.mem_cons_self ..)) (by decide)
  · rename_i others sign
    rw [sign] at areDigits
    exact absurd (areDigits '+' (List.mem_cons_self ..)) (by decide)
  · exact parsed

end Ports

section TcpEndpoints

variable {endpoint : String} {addr : SocketAddr}

/-- The name of an address's family in a multiaddr. -/
def familyOf : IpAddr → List Char
  | .v4 _ => "ip4".toList
  | .v6 _ => "ip6".toList

/-- A multiaddr of an IP address and a TCP port. -/
structure TcpMultiaddr (endpoint : String) (ip : IpAddr) (port : UInt16) (host portText : List Char) :
    Prop where
  text : endpoint.toList = slashed [familyOf ip, host, "tcp".toList, portText]
  validHost : isValidMultiaddrSegment host = true
  validPort : isValidMultiaddrSegment portText = true
  ip : IpAddr.parse (String.ofList host) = .ok ip
  port : parseU16 portText = .ok port

/-- The endpoint is a literal socket address or a TCP multiaddr of this address. -/
inductive TcpEndpoint (endpoint : String) : SocketAddr → Prop where
  | literal {addr : SocketAddr} (parsed : SocketAddr.parse endpoint = .ok addr) :
      TcpEndpoint endpoint addr
  | multiaddr {ip : IpAddr} {port : UInt16} {host portText : List Char}
      (tcp : TcpMultiaddr endpoint ip port host portText) : TcpEndpoint endpoint (.new ip port)

theorem validSegments_of_tcp {ip : IpAddr} {port : UInt16} {host portText : List Char}
    (tcp : TcpMultiaddr endpoint ip port host portText) :
    ValidSegments [familyOf ip, host, "tcp".toList, portText] := by
  have family : isValidMultiaddrSegment (familyOf ip) = true := by
    cases ip with
    | v4 _ => exact (by decide : isValidMultiaddrSegment "ip4".toList = true)
    | v6 _ => exact (by decide : isValidMultiaddrSegment "ip6".toList = true)
  refine ⟨List.cons_ne_nil _ _, ?_⟩
  intro segment isSegment
  simp only [List.mem_cons, List.not_mem_nil, or_false] at isSegment
  rcases isSegment with rfl | rfl | rfl | rfl
  · exact family
  · exact tcp.validHost
  · decide
  · exact tcp.validPort

theorem ipFromMultiaddr_eq_ok_iff {network host : List Char} {ip : IpAddr} :
    ipFromMultiaddr endpoint network host = .ok ip ↔
      network = familyOf ip ∧ IpAddr.parse (String.ofList host) = .ok ip := by
  have families : "ip4".toList ≠ "ip6".toList := by decide
  unfold ipFromMultiaddr
  by_cases isIp4 : network = "ip4".toList
  · rw [if_pos isIp4]
    simp only [bind_eq_ok_iff, mapError_eq_ok_iff, check_then_eq_ok_iff]
    constructor
    · rintro ⟨found, parsed, isV4, same⟩
      obtain rfl := Except.ok.inj same
      cases found with
      | v4 _ => exact ⟨isIp4, parsed⟩
      | v6 _ => exact absurd rfl isV4
    · rintro ⟨family, parsed⟩
      cases ip with
      | v4 _ => exact ⟨_, parsed, by simp [IpAddr.isIpv4], rfl⟩
      | v6 _ => exact absurd (isIp4.symm.trans family) families
  · rw [if_neg isIp4]
    by_cases isIp6 : network = "ip6".toList
    · rw [if_pos isIp6]
      simp only [bind_eq_ok_iff, mapError_eq_ok_iff, check_then_eq_ok_iff]
      constructor
      · rintro ⟨found, parsed, isV6, same⟩
        obtain rfl := Except.ok.inj same
        cases found with
        | v4 _ => exact absurd rfl isV6
        | v6 _ => exact ⟨isIp6, parsed⟩
      · rintro ⟨family, parsed⟩
        cases ip with
        | v4 _ => exact absurd family isIp4
        | v6 _ => exact ⟨_, parsed, by simp [IpAddr.isIpv6], rfl⟩
    · rw [if_neg isIp6]
      constructor
      · intro found
        cases found
      · rintro ⟨family, -⟩
        cases ip with
        | v4 _ => exact absurd family isIp4
        | v6 _ => exact absurd family isIp6

theorem tcpSocketAddrFromMultiaddr_eq_ok_iff {segments : List (List Char)}
    (valid : ValidSegments segments) (isText : endpoint.toList = slashed segments) :
    serviceFrameTcpSocketAddrFromMultiaddr endpoint = .ok addr ↔
      ∃ ip port host portText, TcpMultiaddr endpoint ip port host portText ∧
        addr = .new ip port := by
  have isSegments := multiaddrSegments_eq valid isText
  unfold serviceFrameTcpSocketAddrFromMultiaddr
  constructor
  · intro found
    split at found
    · rename_i network host transport portText four
      rw [isSegments] at four
      obtain ⟨isTcp, found⟩ := check_then_eq_ok_iff.mp found
      obtain ⟨ip, isIp, found⟩ := bind_eq_ok_iff.mp found
      obtain ⟨port, isPort, built⟩ := bind_eq_ok_iff.mp found
      obtain ⟨isFamily, parsed⟩ := ipFromMultiaddr_eq_ok_iff.mp isIp
      rw [isFamily, not_not.mp isTcp] at four
      obtain rfl := Except.ok.inj built
      subst four
      exact ⟨ip, port, host, portText, ⟨isText, valid.2 _ (by simp), valid.2 _ (by simp), parsed,
        mapError_eq_ok_iff.mp isPort⟩, rfl⟩
    · cases found
  · rintro ⟨ip, port, host, portText, tcp, rfl⟩
    rw [multiaddrSegments_eq (validSegments_of_tcp tcp) tcp.text]
    refine check_then_eq_ok_iff.mpr ⟨fun other => other rfl, bind_eq_ok_iff.mpr ⟨ip, ?_, ?_⟩⟩
    · exact ipFromMultiaddr_eq_ok_iff.mpr ⟨rfl, tcp.ip⟩
    · exact bind_eq_ok_iff.mpr ⟨port, mapError_eq_ok_iff.mpr tcp.port, rfl⟩

/-- A literal socket address has no slash in it. -/
theorem parse_eq_error_of_slash (slash : '/' ∈ endpoint.toList) :
    ∃ error, SocketAddr.parse endpoint = .error error := by
  cases parsed : SocketAddr.parse endpoint with
  | error error => exact ⟨error, rfl⟩
  | ok addr => exact absurd (isSocketAddrChar_of_parse parsed '/' slash) (by decide)

theorem slash_of_text {segments : List (List Char)} (valid : ValidSegments segments)
    (isText : endpoint.toList = slashed segments) : '/' ∈ endpoint.toList := by
  rw [isText, slashed_eq_cons valid.1]
  exact List.mem_cons_self ..

/-- Which socket address is opened for an endpoint. -/
theorem tcpSocketAddrFromEndpoint_eq_ok_iff :
    serviceFrameTcpSocketAddrFromEndpoint endpoint = .ok addr ↔ TcpEndpoint endpoint addr := by
  unfold serviceFrameTcpSocketAddrFromEndpoint
  cases parsed : SocketAddr.parse endpoint with
  | ok found =>
      constructor
      · intro same
        obtain rfl := Except.ok.inj same
        exact .literal parsed
      · intro tcp
        cases tcp with
        | literal parsedAgain =>
            rw [parsed] at parsedAgain
            obtain rfl := Except.ok.inj parsedAgain
            rfl
        | multiaddr tcp =>
            obtain ⟨error, fails⟩ :=
              parse_eq_error_of_slash (slash_of_text (validSegments_of_tcp tcp) tcp.text)
            rw [fails] at parsed
            cases parsed
  | error error =>
      simp only [bind_eq_ok_iff, mapError_eq_ok_iff, parseMultiaddr_eq_ok_iff]
      constructor
      · rintro ⟨multiaddr, ⟨rfl, segments, valid, isText⟩, found⟩
        obtain ⟨ip, port, host, portText, tcp, rfl⟩ :=
          (tcpSocketAddrFromMultiaddr_eq_ok_iff valid isText).mp found
        exact .multiaddr tcp
      · intro tcp
        cases tcp with
        | literal parsedAgain =>
            rw [parsed] at parsedAgain
            cases parsedAgain
        | multiaddr tcp =>
            have valid := validSegments_of_tcp tcp
            exact ⟨endpoint, ⟨rfl, _, valid, tcp.text⟩,
              (tcpSocketAddrFromMultiaddr_eq_ok_iff valid tcp.text).mpr ⟨_, _, _, _, tcp, rfl⟩⟩

theorem isWhitespace_of_alphanumeric {char : Char} (isAlphanumeric : isAsciiAlphanumeric char = true) :
    Text.isWhitespace char = false := by
  have code := isAsciiAlphanumeric_iff.mp isAlphanumeric
  simp only [Text.isWhitespace, Bool.or_eq_false_iff, Bool.and_eq_false_iff,
    decide_eq_false_iff_not]
  omega

theorem isAsciiAlphanumeric_of_isDigitOf {radix : Nat} {char : Char}
    (isDigit : Reader.isDigitOf radix char = true) : isAsciiAlphanumeric char = true := by
  rw [Reader.isDigitOf, Bool.and_eq_true] at isDigit
  have letterOrDigit := isDigit.1
  rw [Bool.or_eq_true, Bool.or_eq_true] at letterOrDigit
  rw [isAsciiAlphanumeric, Bool.or_eq_true, Bool.or_eq_true]
  rcases letterOrDigit with (digit | lower) | upper
  · exact .inr digit
  · exact .inl (.inl lower)
  · exact .inl (.inr upper)

theorem isWhitespace_of_isSocketAddrChar {char : Char} (isAddrChar : isSocketAddrChar char = true) :
    Text.isWhitespace char = false := by
  simp only [isSocketAddrChar, isIpChar, Bool.or_eq_true, decide_eq_true_eq] at isAddrChar
  rcases isAddrChar with ((((isDigit | rfl) | rfl) | rfl) | rfl) | rfl
  · exact isWhitespace_of_alphanumeric (isAsciiAlphanumeric_of_isDigitOf isDigit)
  all_goals decide

/-- No TCP endpoint has white space in it. -/
theorem TcpEndpoint.not_isWhitespace (tcp : TcpEndpoint endpoint addr) :
    ∀ char ∈ endpoint.toList, Text.isWhitespace char = false := by
  intro char isMember
  cases tcp with
  | literal parsed =>
      exact isWhitespace_of_isSocketAddrChar (isSocketAddrChar_of_parse parsed char isMember)
  | multiaddr tcp =>
      rw [tcp.text] at isMember
      exact unspaced_slashed (validSegments_of_tcp tcp) char isMember

end TcpEndpoints

end Slate.Broadwebd
