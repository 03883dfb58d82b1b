import Slate.Broadwebd.EndpointText

/-!
# Classified and opened endpoints

An endpoint is classified by its trimmed text and opened by its whole text. The two agree
unless white space stands around a TCP endpoint.
-/

namespace Slate.Broadwebd

open Slate.Foundation Slate.Foundation.Net

section Trimming

def trimmed (endpoint : String) : String := String.ofList (Text.trim endpoint.toList)

theorem trimmed_of_trim {endpoint : String}
    (same : Text.trim endpoint.toList = endpoint.toList) : trimmed endpoint = endpoint := by
  rw [trimmed, same, String.ofList_toList]

end Trimming

section Kinds

variable {endpoint : String}

theorem stripPrefix_eq_none_of_slash {front : String} (slash : endpoint.toList.head? = some '/')
    (nonempty : front.toList ≠ []) (other : front.toList.head? ≠ some '/') :
    stripPrefix front endpoint = none := by
  apply if_neg
  rintro ⟨rest, isText⟩
  rw [← isText, List.head?_append_of_ne_nil _ nonempty] at slash
  exact other slash

theorem kindForMultiaddr_eq_tcp_iff :
    serviceFrameConnectorKindForMultiaddr endpoint = .ok .tcp ↔
      ∃ addr, serviceFrameTcpSocketAddrFromMultiaddr endpoint = .ok addr := by
  unfold serviceFrameConnectorKindForMultiaddr
  cases found : serviceFrameTcpSocketAddrFromMultiaddr endpoint with
  | ok addr => simp [Except.toBool]
  | error error =>
      simp only [Except.toBool, Bool.false_eq_true, if_false, reduceCtorEq, exists_false, iff_false]
      repeat' split
      all_goals simp

theorem not_tcpEndpoint_of_isEmpty (empty : endpoint.isEmpty = true) :
    ¬ ∃ addr, TcpEndpoint endpoint addr := by
  rintro ⟨addr, tcp⟩
  obtain rfl := String.isEmpty_iff.mp empty
  have nothing : serviceFrameTcpSocketAddrFromEndpoint "" = .ok addr :=
    tcpSocketAddrFromEndpoint_eq_ok_iff.mpr tcp
  cases nothing

/-- A prefixed target is neither a socket address nor a multiaddr. -/
theorem not_tcpEndpoint_of_stripPrefix {front target : String} {error : String}
    (noLiteral : SocketAddr.parse endpoint = .error error)
    (stripped : stripPrefix front endpoint = some target) (nonempty : front.toList ≠ [])
    (other : front.toList.head? ≠ some '/') : ¬ ∃ addr, TcpEndpoint endpoint addr := by
  rintro ⟨addr, tcp⟩
  cases tcp with
  | literal parsed =>
      rw [noLiteral] at parsed
      cases parsed
  | multiaddr tcp =>
      have slash : endpoint.toList.head? = some '/' := by
        rw [tcp.text, slashed_eq_cons (validSegments_of_tcp tcp).1]
        rfl
      rw [stripPrefix_eq_none_of_slash slash nonempty other] at stripped
      cases stripped

theorem tcpEndpoint_iff_of_not_literal {error : String}
    (noLiteral : SocketAddr.parse endpoint = .error error) :
    (∃ addr, TcpEndpoint endpoint addr) ↔ ∃ multiaddr, parseMultiaddr endpoint = .ok multiaddr ∧
      ∃ addr, serviceFrameTcpSocketAddrFromMultiaddr multiaddr = .ok addr := by
  have opens : ∀ addr, serviceFrameTcpSocketAddrFromEndpoint endpoint = .ok addr ↔
      ∃ multiaddr, parseMultiaddr endpoint = .ok multiaddr ∧
        serviceFrameTcpSocketAddrFromMultiaddr multiaddr = .ok addr := by
    intro addr
    unfold serviceFrameTcpSocketAddrFromEndpoint
    rw [noLiteral]
    dsimp only
    rw [bind_eq_ok_iff]
    simp only [mapError_eq_ok_iff]
  constructor
  · rintro ⟨addr, tcp⟩
    obtain ⟨multiaddr, parsed, found⟩ :=
      (opens addr).mp (tcpSocketAddrFromEndpoint_eq_ok_iff.mpr tcp)
    exact ⟨multiaddr, parsed, addr, found⟩
  · rintro ⟨multiaddr, parsed, addr, found⟩
    exact ⟨addr, tcpSocketAddrFromEndpoint_eq_ok_iff.mp
      ((opens addr).mpr ⟨multiaddr, parsed, found⟩)⟩

/-- An endpoint is classified as TCP if its trimmed text is a TCP endpoint. -/
theorem kindForEndpoint_eq_tcp_iff :
    serviceFrameConnectorKindForEndpoint endpoint = .ok .tcp ↔
      ∃ addr, TcpEndpoint (trimmed endpoint) addr := by
  unfold serviceFrameConnectorKindForEndpoint
  dsimp only
  rw [← trimmed]
  generalize trimmed endpoint = text
  rw [check_then_eq_ok_iff]
  by_cases empty : text.isEmpty = true
  · exact iff_of_false (fun classified => classified.1 empty) (not_tcpEndpoint_of_isEmpty empty)
  cases literal : SocketAddr.parse text with
  | ok addr =>
      exact iff_of_true ⟨empty, rfl⟩ ⟨addr, .literal literal⟩
  | error error =>
      simp only [empty, Bool.false_eq_true, not_false_eq_true, true_and, Except.toBool, if_false]
      cases iroh : stripPrefix "iroh-node:" text with
      | some target =>
          have noTcp := not_tcpEndpoint_of_stripPrefix literal iroh (by decide) (by decide)
          refine iff_of_false ?_ noTcp
          intro classified
          obtain ⟨-, isIroh⟩ := unit_bind_eq_ok_iff.mp classified
          cases isIroh
      | none =>
          cases ipns : stripPrefix "ipns:" text with
          | some target =>
              have noTcp := not_tcpEndpoint_of_stripPrefix literal ipns (by decide) (by decide)
              refine iff_of_false ?_ noTcp
              intro classified
              obtain ⟨-, isIpns⟩ := unit_bind_eq_ok_iff.mp classified
              cases isIpns
          | none =>
              rw [tcpEndpoint_iff_of_not_literal literal]
              constructor
              · intro classified
                obtain ⟨multiaddr, parsed, isTcp⟩ := bind_eq_ok_iff.mp classified
                exact ⟨multiaddr, mapError_eq_ok_iff.mp parsed,
                  kindForMultiaddr_eq_tcp_iff.mp isTcp⟩
              · rintro ⟨multiaddr, parsed, isTcp⟩
                exact bind_eq_ok_iff.mpr ⟨multiaddr, mapError_eq_ok_iff.mpr parsed,
                  kindForMultiaddr_eq_tcp_iff.mpr isTcp⟩

end Kinds

section Agreement

variable {endpoint : String}

/-- The classification says TCP where a socket address is found, a TCP connector accepts its
endpoint, and no TCP endpoint gets a deferred connector. -/
structure ClassificationAgrees (endpoint : String) : Prop where
  tcp_iff : serviceFrameConnectorKindForEndpoint endpoint = .ok .tcp ↔
    ∃ addr, serviceFrameTcpSocketAddrFromEndpoint endpoint = .ok addr
  connects : ∀ (Handler : Type) (factory : ServiceFrameEndpointConnectorFactory Handler)
    (connector : TcpServiceFrameConnector), factory.connector endpoint = .ok (.tcp connector) →
      ∃ addr, connector.connectAddr = .ok addr
  notDeferred : ∀ (Handler : Type) (factory : ServiceFrameEndpointConnectorFactory Handler)
    (connector : DeferredServiceFrameConnector),
    factory.connector endpoint = .ok (.deferred connector) →
      ¬ ∃ addr, serviceFrameTcpSocketAddrFromEndpoint endpoint = .ok addr

/-- The connector that a factory makes for an endpoint is of the endpoint's kind. -/
theorem kind_of_connector {Handler : Type} {factory : ServiceFrameEndpointConnectorFactory Handler}
    {connector : ServiceFrameEndpointConnector}
    (made : factory.connector endpoint = .ok connector) :
    (∀ tcp, connector = .tcp tcp → tcp.address = endpoint ∧
      serviceFrameConnectorKindForEndpoint endpoint = .ok .tcp) ∧
    (∀ deferred, connector = .deferred deferred →
      serviceFrameConnectorKindForEndpoint endpoint ≠ .ok .tcp) := by
  obtain ⟨kind, classified, made⟩ := bind_eq_ok_iff.mp made
  rw [classified]
  by_cases isTcp : kind = .tcp
  · rw [if_pos isTcp] at made
    obtain rfl := Except.ok.inj made
    refine ⟨?_, fun deferred other => by cases other⟩
    rintro tcp same
    obtain rfl := ServiceFrameEndpointConnector.tcp.inj same
    exact ⟨rfl, congrArg Except.ok isTcp⟩
  · rw [if_neg isTcp] at made
    refine ⟨?_, fun deferred _ same => isTcp (Except.ok.inj same)⟩
    rintro tcp rfl
    dsimp only at made
    -- The connector is an in-process one, a transport's or a deferred one.
    repeat' split at made
    all_goals first
      | cases made
      | obtain ⟨_, -, isOther⟩ := bind_eq_ok_iff.mp made
        cases isOther

theorem classificationAgrees_iff :
    ClassificationAgrees endpoint ↔
      Text.trim endpoint.toList = endpoint.toList ∨
        ¬ ∃ addr, TcpEndpoint (trimmed endpoint) addr := by
  constructor
  · intro agrees
    by_contra both
    obtain ⟨padded, isTcp⟩ := not_or.mp both
    obtain ⟨addr, opened⟩ := agrees.tcp_iff.mp (kindForEndpoint_eq_tcp_iff.mpr (not_not.mp isTcp))
    have tcp := tcpSocketAddrFromEndpoint_eq_ok_iff.mp opened
    exact padded (Text.trim_of_unspaced tcp.not_isWhitespace)
  · intro either
    have tcp_iff : serviceFrameConnectorKindForEndpoint endpoint = .ok .tcp ↔
        ∃ addr, serviceFrameTcpSocketAddrFromEndpoint endpoint = .ok addr := by
      simp only [kindForEndpoint_eq_tcp_iff, tcpSocketAddrFromEndpoint_eq_ok_iff]
      rcases either with same | noTcp
      · rw [trimmed_of_trim same]
      · refine iff_of_false noTcp ?_
        rintro ⟨addr, tcp⟩
        rw [trimmed_of_trim (Text.trim_of_unspaced tcp.not_isWhitespace)] at noTcp
        exact noTcp ⟨addr, tcp⟩
    refine ⟨tcp_iff, ?_, ?_⟩
    · intro Handler factory connector made
      obtain ⟨isEndpoint, isTcp⟩ := (kind_of_connector made).1 connector rfl
      rw [TcpServiceFrameConnector.connectAddr, isEndpoint]
      exact tcp_iff.mp isTcp
    · intro Handler factory connector made opened
      exact (kind_of_connector made).2 connector rfl (tcp_iff.mpr opened)

end Agreement

section Sample

/-- White space around a TCP endpoint is no matter to the classification; the TCP connector
that it asks for rejects the text. -/
theorem padded_endpoint_classified_not_opened :
    serviceFrameConnectorKindForEndpoint " 127.0.0.1:9443" = .ok .tcp ∧
      (serviceFrameTcpSocketAddrFromEndpoint " 127.0.0.1:9443").toBool = false ∧
      (ServiceFrameEndpointConnectorFactory.connector " 127.0.0.1:9443"
        { registry := (none : Option (InProcessServiceFrameEndpointRegistry Unit))
          transports := [], tcpTimeout := 12 }).toOption.isSome = true ∧
      ¬ ClassificationAgrees " 127.0.0.1:9443" := by
  have classified : serviceFrameConnectorKindForEndpoint " 127.0.0.1:9443" = .ok .tcp := by
    decide +kernel
  have rejected : (serviceFrameTcpSocketAddrFromEndpoint " 127.0.0.1:9443").toBool = false := by
    decide +kernel
  refine ⟨classified, rejected, by decide +kernel, ?_⟩
  intro agrees
  obtain ⟨addr, opened⟩ := agrees.tcp_iff.mp classified
  rw [opened] at rejected
  cases rejected

end Sample

end Slate.Broadwebd
