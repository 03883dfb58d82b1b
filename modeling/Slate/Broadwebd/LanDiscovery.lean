import Slate.Broadwebd.PeerDiscovery
import Slate.Foundation.LatestRows
import Slate.Foundation.SocketAddr
import Slate.Foundation.Transaction

/-!
# Discovery in the local network

Whoever looks for peers collects the advertisements that come in as datagrams, until it has
enough or the socket times out. The datagrams a socket receives are a finite list with the
timeout behind it; of each only what fits the buffer is handed over.
-/

namespace Slate.Broadwebd

open Slate.Foundation Slate.Foundation.Net

def defaultProfileSyncPeerDiscoveryMaxBytes : Nat := 8 * 1024

inductive ProfileSyncPeerDiscoveryMessage where
  | solicit (networkId requesterNodeId : String)
  | advertisement (advertisement : ProfileSyncPeerAdvertisement)
deriving DecidableEq, Repr

structure DiscoveredProfileSyncPeer where
  advertisement : ProfileSyncPeerAdvertisement
  sourceAddr : SocketAddr
deriving DecidableEq, Repr

section Sockets

def isUdpTimeout (error : String) : Bool :=
  Text.contains error.toList "timed out".toList || Text.contains error.toList "would block".toList ||
    Text.contains error.toList "Resource temporarily unavailable".toList

structure Datagram where
  payload : List Nat
  sourceAddr : SocketAddr
deriving DecidableEq, Repr

/-- What a socket receives before it times out, and the text of the timeout. -/
structure UdpSocket where
  datagrams : List Datagram
  timeout : String
  timesOut : isUdpTimeout timeout = true

end Sockets

section Messages

/-- `serde_json::from_slice` for messages, with the text of its error. -/
abbrev FromSlice := List Nat → Except String ProfileSyncPeerDiscoveryMessage

variable (fromSlice : FromSlice)

def isSocketAddr (text : String) : Bool := (SocketAddr.parse text).toBool

def validateProfileSyncPeerDiscoveryMessage :
    ProfileSyncPeerDiscoveryMessage → Except BroadwebdError Unit
  | .solicit networkId requesterNodeId => do
      requestError (validateDiscoveryToken "network id" networkId)
      requestError (validateDiscoveryToken "requester node id" requesterNodeId)
  | .advertisement advertisement => requestError (advertisement.validate isSocketAddr)

def decodeProfileSyncPeerDiscoveryMessage (bytes : List Nat) :
    Except BroadwebdError ProfileSyncPeerDiscoveryMessage := do
  if bytes.length > defaultProfileSyncPeerDiscoveryMaxBytes then
    throw (.frameTooLarge defaultProfileSyncPeerDiscoveryMaxBytes bytes.length)
  let message ← (fromSlice bytes).mapError fun error =>
    .request ("decode profile-sync peer discovery message: " ++ error)
  validateProfileSyncPeerDiscoveryMessage message
  pure message

/-- What is received of a datagram: what does not fit the buffer is discarded. -/
def recvProfileSyncPeerDiscoveryMessage (datagram : Datagram) :
    Except BroadwebdError (ProfileSyncPeerDiscoveryMessage × SocketAddr) := do
  let bytes := datagram.payload.take defaultProfileSyncPeerDiscoveryMaxBytes
  let message ← decodeProfileSyncPeerDiscoveryMessage fromSlice bytes
  pure (message, datagram.sourceAddr)

end Messages

section Collection

/-- What is collected once of a peer. -/
structure PeerKey where
  nodeId : String
  providerId : String
  sourceAddr : SocketAddr
deriving DecidableEq, Repr

def DiscoveredProfileSyncPeer.key (peer : DiscoveredProfileSyncPeer) : PeerKey where
  nodeId := peer.advertisement.nodeId
  providerId := peer.advertisement.providerId
  sourceAddr := peer.sourceAddr

structure CollectState where
  peers : List DiscoveredProfileSyncPeer
  seen : List PeerKey

def CollectState.insert (peer : DiscoveredProfileSyncPeer) (state : CollectState) : CollectState :=
  if state.seen.contains peer.key then state
  else { peers := state.peers ++ [peer], seen := state.seen ++ [peer.key] }

variable (fromSlice : FromSlice)

/-- The loop over what the socket receives; the last receive times out. -/
def collectLoop (networkId timeout : String) (maxPeers : Nat) :
    List Datagram → CollectState → Except BroadwebdError (List DiscoveredProfileSyncPeer)
  | [], state =>
      if state.peers.length < maxPeers then
        if isUdpTimeout timeout then .ok state.peers else .error (.io timeout)
      else .ok state.peers
  | datagram :: datagrams, state =>
      if state.peers.length < maxPeers then
        match recvProfileSyncPeerDiscoveryMessage fromSlice datagram with
        | .ok (.advertisement advertisement, sourceAddr) =>
            if advertisement.networkId = networkId ∧
                advertisement.supportsProfileSyncServiceFrames = true then
              collectLoop networkId timeout maxPeers datagrams
                (state.insert { advertisement, sourceAddr })
            else collectLoop networkId timeout maxPeers datagrams state
        | .ok _ => collectLoop networkId timeout maxPeers datagrams state
        | .error (.io error) => if isUdpTimeout error then .ok state.peers else .error (.io error)
        | .error error => .error error
      else .ok state.peers

def collectProfileSyncPeerAdvertisements (socket : UdpSocket) (networkId : String)
    (maxPeers : Nat) : Except BroadwebdError (List DiscoveredProfileSyncPeer) := do
  requestError (validateDiscoveryToken "network id" networkId)
  collectLoop fromSlice networkId socket.timeout maxPeers socket.datagrams { peers := [], seen := [] }

end Collection

section Expected

/-- How the message of a datagram is found. -/
abbrev Decoding := Datagram → Except BroadwebdError ProfileSyncPeerDiscoveryMessage

/-- The message of the whole payload; too large a payload has none. -/
def wholeMessage (fromSlice : FromSlice) : Decoding := fun datagram =>
  decodeProfileSyncPeerDiscoveryMessage fromSlice datagram.payload

/-- The message of what fits the buffer. -/
def bufferedMessage (fromSlice : FromSlice) : Decoding := fun datagram =>
  decodeProfileSyncPeerDiscoveryMessage fromSlice
    (datagram.payload.take defaultProfileSyncPeerDiscoveryMaxBytes)

/-- The peer that a datagram advertises for a network, with the service-frame capability. -/
def advertisedPeer (decoding : Decoding) (networkId : String) (datagram : Datagram) :
    Option DiscoveredProfileSyncPeer :=
  match decoding datagram with
  | .ok (.advertisement advertisement) =>
      if advertisement.networkId = networkId ∧
          advertisement.supportsProfileSyncServiceFrames = true then
        some { advertisement, sourceAddr := datagram.sourceAddr }
      else none
  | _ => none

/-- The peers of the datagrams, each of them where it comes first. -/
def distinctPeers (decoding : Decoding) (networkId : String) (datagrams : List Datagram) :
    List DiscoveredProfileSyncPeer :=
  LatestRows.putFirst DiscoveredProfileSyncPeer.key
    (datagrams.filterMap (advertisedPeer decoding networkId))

variable {fromSlice : FromSlice} {networkId timeout : String} {maxPeers : Nat}
  {before datagrams : List Datagram} {state : CollectState}

/-- The collected peers are those of the datagrams so far. -/
structure CollectInvariant (fromSlice : FromSlice) (networkId : String) (before : List Datagram)
    (state : CollectState) : Prop where
  peers : state.peers = distinctPeers (bufferedMessage fromSlice) networkId before
  seen : state.seen = state.peers.map DiscoveredProfileSyncPeer.key

theorem distinctPeers_concat_some {decoding : Decoding} {datagram : Datagram}
    {peer : DiscoveredProfileSyncPeer}
    (advertised : advertisedPeer decoding networkId datagram = some peer) :
    distinctPeers decoding networkId (before ++ [datagram]) =
      LatestRows.putFirst DiscoveredProfileSyncPeer.key
        (before.filterMap (advertisedPeer decoding networkId) ++ [peer]) := by
  rw [distinctPeers, List.filterMap_append, List.filterMap_cons, advertised, List.filterMap_nil]

theorem distinctPeers_concat_none {decoding : Decoding} {datagram : Datagram}
    (advertised : advertisedPeer decoding networkId datagram = none) :
    distinctPeers decoding networkId (before ++ [datagram]) =
      distinctPeers decoding networkId before := by
  rw [distinctPeers, List.filterMap_append, List.filterMap_cons, advertised, List.filterMap_nil,
    List.append_nil, distinctPeers]

theorem CollectInvariant.insert (invariant : CollectInvariant fromSlice networkId before state)
    {datagram : Datagram} {peer : DiscoveredProfileSyncPeer}
    (advertised : advertisedPeer (bufferedMessage fromSlice) networkId datagram = some peer) :
    CollectInvariant fromSlice networkId (before ++ [datagram]) (state.insert peer) := by
  have isPeers := invariant.peers
  have isSeen := invariant.seen
  have grown := @distinctPeers_concat_some networkId before _ datagram peer advertised
  unfold CollectState.insert
  by_cases present : peer.key ∈ state.seen
  · rw [if_pos (List.contains_iff_mem.mpr present)]
    rw [isSeen, isPeers] at present
    refine ⟨?_, isSeen⟩
    rw [grown, LatestRows.putFirst_concat_of_mem present, isPeers]
    rfl
  · rw [if_neg fun contained => present (List.contains_iff_mem.mp contained)]
    rw [isSeen, isPeers] at present
    refine ⟨?_, ?_⟩
    · rw [grown, LatestRows.putFirst_concat_of_not_mem present, isPeers]
      rfl
    · simp only [isSeen, List.map_append, List.map_cons, List.map_nil]

theorem CollectInvariant.skip (invariant : CollectInvariant fromSlice networkId before state)
    {datagram : Datagram}
    (advertised : advertisedPeer (bufferedMessage fromSlice) networkId datagram = none) :
    CollectInvariant fromSlice networkId (before ++ [datagram]) state :=
  ⟨invariant.peers.trans (distinctPeers_concat_none advertised).symm, invariant.seen⟩

/-- The state after a datagram whose message was decoded. -/
def CollectState.take (fromSlice : FromSlice) (networkId : String) (datagram : Datagram)
    (state : CollectState) : CollectState :=
  match advertisedPeer (bufferedMessage fromSlice) networkId datagram with
  | some peer => state.insert peer
  | none => state

theorem CollectInvariant.take (invariant : CollectInvariant fromSlice networkId before state)
    (datagram : Datagram) :
    CollectInvariant fromSlice networkId (before ++ [datagram])
      (state.take fromSlice networkId datagram) := by
  unfold CollectState.take
  split
  · rename_i peer advertised
    exact invariant.insert advertised
  · rename_i advertised
    exact invariant.skip advertised

theorem length_take_le (datagram : Datagram) :
    (state.take fromSlice networkId datagram).peers.length ≤ state.peers.length + 1 := by
  unfold CollectState.take CollectState.insert
  split
  · split
    · exact Nat.le_succ _
    · rw [List.length_append, List.length_singleton]
  · exact Nat.le_succ _

theorem recv_eq (datagram : Datagram) :
    recvProfileSyncPeerDiscoveryMessage fromSlice datagram =
      (bufferedMessage fromSlice datagram).map (·, datagram.sourceAddr) := by
  unfold recvProfileSyncPeerDiscoveryMessage bufferedMessage
  dsimp only
  cases decodeProfileSyncPeerDiscoveryMessage fromSlice _ with
  | ok message => rfl
  | error error => rfl

theorem collectLoop_cons_of_ok {datagram : Datagram} {message : ProfileSyncPeerDiscoveryMessage}
    (room : state.peers.length < maxPeers)
    (decoded : bufferedMessage fromSlice datagram = .ok message) :
    collectLoop fromSlice networkId timeout maxPeers (datagram :: datagrams) state =
      collectLoop fromSlice networkId timeout maxPeers datagrams
        (state.take fromSlice networkId datagram) := by
  rw [collectLoop, if_pos room, recv_eq, decoded]
  unfold CollectState.take advertisedPeer
  rw [decoded]
  cases message with
  | solicit _ _ => rfl
  | advertisement advertisement =>
      dsimp only [Except.map]
      split
      · rfl
      · rfl

theorem requestError_ne_io (result : Except String Unit) (error : String) :
    requestError result ≠ .error (.io error) := by
  cases result with
  | ok _ => exact fun same => by cases same
  | error _ => exact fun same => by cases same

theorem validate_ne_io (message : ProfileSyncPeerDiscoveryMessage) (error : String) :
    validateProfileSyncPeerDiscoveryMessage message ≠ .error (.io error) := by
  cases message with
  | advertisement advertisement => exact requestError_ne_io _ error
  | solicit networkId requesterNodeId =>
      intro fails
      unfold validateProfileSyncPeerDiscoveryMessage at fails
      dsimp only at fails
      cases network : requestError (validateDiscoveryToken "network id" networkId) with
      | ok _ =>
          rw [network] at fails
          exact requestError_ne_io _ error fails
      | error other =>
          rw [network] at fails
          obtain rfl := Except.error.inj fails
          exact requestError_ne_io _ error network

/-- Decoding fails with no error of the socket. -/
theorem decode_ne_io {bytes : List Nat} {error : String} :
    decodeProfileSyncPeerDiscoveryMessage fromSlice bytes ≠ .error (.io error) := by
  intro fails
  unfold decodeProfileSyncPeerDiscoveryMessage at fails
  split at fails
  · cases fails
  · cases parsed : fromSlice bytes with
    | error _ =>
        rw [parsed] at fails
        cases fails
    | ok message =>
        rw [parsed, mapError_ok, ok_bind] at fails
        cases valid : validateProfileSyncPeerDiscoveryMessage message with
        | ok _ =>
            rw [valid] at fails
            cases fails
        | error other =>
            rw [valid] at fails
            obtain rfl := Except.error.inj fails
            exact validate_ne_io message error valid

theorem collectLoop_cons_of_error {datagram : Datagram} {error : BroadwebdError}
    (room : state.peers.length < maxPeers)
    (fails : bufferedMessage fromSlice datagram = .error error) :
    collectLoop fromSlice networkId timeout maxPeers (datagram :: datagrams) state =
      .error error := by
  have noIo : ∀ text, error ≠ .io text := by
    rintro text rfl
    exact decode_ne_io fails
  rw [collectLoop, if_pos room, recv_eq, fails]
  dsimp only [Except.map]
  split
  · rename_i same
    cases same
  · rename_i same
    cases same
  · rename_i text same
    exact absurd (Except.error.inj same) (noIo text)
  · rename_i same
    rw [Except.error.inj same]

/-- No message of a datagram that comes before there are enough peers fails to decode. -/
def DecodesUntilFull (fromSlice : FromSlice) (networkId : String) (maxPeers : Nat)
    (before datagrams : List Datagram) : Prop :=
  ∀ earlier datagram later, datagrams = earlier ++ datagram :: later →
    (distinctPeers (bufferedMessage fromSlice) networkId (before ++ earlier)).length < maxPeers →
      ∃ message, bufferedMessage fromSlice datagram = .ok message

theorem decodesUntilFull_cons_iff {datagram : Datagram} :
    DecodesUntilFull fromSlice networkId maxPeers before (datagram :: datagrams) ↔
      ((distinctPeers (bufferedMessage fromSlice) networkId before).length < maxPeers →
        ∃ message, bufferedMessage fromSlice datagram = .ok message) ∧
      DecodesUntilFull fromSlice networkId maxPeers (before ++ [datagram]) datagrams := by
  constructor
  · intro decodes
    constructor
    · intro room
      exact decodes [] datagram datagrams rfl (by rwa [List.append_nil])
    · rintro earlier other later rfl room
      apply decodes (datagram :: earlier) other later rfl
      rwa [List.append_assoc, List.singleton_append] at room
  · rintro ⟨first, others⟩ earlier other later split room
    cases earlier with
    | nil =>
        obtain ⟨rfl, rfl⟩ := List.cons.inj split
        rw [List.append_nil] at room
        exact first room
    | cons head earlier =>
        obtain ⟨rfl, rfl⟩ := List.cons.inj split
        apply others earlier other later rfl
        rwa [List.append_assoc, List.singleton_append]

theorem distinctPeers_extends {decoding : Decoding} (before later : List Datagram) :
    distinctPeers decoding networkId before <+:
      distinctPeers decoding networkId (before ++ later) := by
  rw [distinctPeers, distinctPeers, List.filterMap_append]
  exact LatestRows.putFirst_prefix_append _ _

/-- The loop succeeds if it decodes what it needs, and returns the first peers. -/
theorem collectLoop_eq_ok_iff (timesOut : isUdpTimeout timeout = true)
    (invariant : CollectInvariant fromSlice networkId before state)
    (inBounds : state.peers.length ≤ maxPeers) {peers : List DiscoveredProfileSyncPeer} :
    collectLoop fromSlice networkId timeout maxPeers datagrams state = .ok peers ↔
      DecodesUntilFull fromSlice networkId maxPeers before datagrams ∧
        peers = (distinctPeers (bufferedMessage fromSlice) networkId
          (before ++ datagrams)).take maxPeers := by
  induction datagrams generalizing before state with
  | nil =>
      have nothing : DecodesUntilFull fromSlice networkId maxPeers before [] := by
        intro earlier datagram later split
        cases earlier with
        | nil => cases split
        | cons _ _ => cases split
      have all : (distinctPeers (bufferedMessage fromSlice) networkId (before ++ [])).take maxPeers =
          state.peers := by
        rw [List.append_nil, ← invariant.peers, List.take_of_length_le inBounds]
      rw [collectLoop, timesOut, if_pos rfl, ite_self, all, and_iff_right nothing]
      exact ⟨fun same => (Except.ok.inj same).symm, fun same => congrArg Except.ok same.symm⟩
  | cons datagram rest inductionHypothesis =>
      rw [decodesUntilFull_cons_iff, ← invariant.peers]
      by_cases room : state.peers.length < maxPeers
      · have taken := invariant.take datagram
        have grown := @length_take_le fromSlice networkId state datagram
        have later := inductionHypothesis taken (grown.trans (by omega))
        rw [List.append_assoc, List.singleton_append] at later
        cases decoded : bufferedMessage fromSlice datagram with
        | ok message =>
            rw [collectLoop_cons_of_ok room decoded, later]
            simp
        | error error =>
            rw [collectLoop_cons_of_error room decoded]
            simp [room]
      · have full : DecodesUntilFull fromSlice networkId maxPeers (before ++ [datagram]) rest := by
          intro earlier other others _ roomLater
          have grows := (@distinctPeers_extends networkId (bufferedMessage fromSlice) before
            ([datagram] ++ earlier)).length_le
          rw [← List.append_assoc, ← invariant.peers] at grows
          omega
        have first : (distinctPeers (bufferedMessage fromSlice) networkId
            (before ++ datagram :: rest)).take maxPeers = state.peers := by
          have kept := @distinctPeers_extends networkId (bufferedMessage fromSlice) before
            (datagram :: rest)
          rw [← invariant.peers] at kept
          have exactly : maxPeers = state.peers.length := by omega
          rw [exactly]
          exact (List.prefix_iff_eq_take.mp kept).symm
        rw [collectLoop, if_neg room, first, and_iff_right ⟨fun other => absurd other room, full⟩]
        exact ⟨fun same => (Except.ok.inj same).symm, fun same => congrArg Except.ok same.symm⟩

end Expected

section Tolerance

variable {fromSlice : FromSlice} {socket : UdpSocket} {networkId : String} {maxPeers : Nat}

/-- The collection returns the first distinct peers of the network, whatever else comes in. -/
def ToleratesNoise (fromSlice : FromSlice) (socket : UdpSocket) (networkId : String)
    (maxPeers : Nat) : Prop :=
  collectProfileSyncPeerAdvertisements fromSlice socket networkId maxPeers =
    .ok ((distinctPeers (wholeMessage fromSlice) networkId socket.datagrams).take maxPeers)

/-- The collection tolerates noise exactly if the network id is valid, no datagram fails to
decode while peers are missing, and the datagrams that are cut off to the buffer add no
peer. -/
theorem toleratesNoise_iff :
    ToleratesNoise fromSlice socket networkId maxPeers ↔
      validateDiscoveryToken "network id" networkId = .ok () ∧
      DecodesUntilFull fromSlice networkId maxPeers [] socket.datagrams ∧
      (distinctPeers (wholeMessage fromSlice) networkId socket.datagrams).take maxPeers =
        (distinctPeers (bufferedMessage fromSlice) networkId socket.datagrams).take maxPeers := by
  have start : CollectInvariant fromSlice networkId [] { peers := [], seen := [] } := ⟨rfl, rfl⟩
  unfold ToleratesNoise collectProfileSyncPeerAdvertisements
  rw [unit_bind_eq_ok_iff, collectLoop_eq_ok_iff socket.timesOut start (Nat.zero_le _),
    List.nil_append]
  exact and_congr_left fun _ => mapError_eq_ok_iff

end Tolerance

section Sample

def tabletAdvertisement : ProfileSyncPeerAdvertisement where
  networkId := "home"
  nodeId := "tablet"
  providerId := "tablet-provider"
  serviceAddr := "192.0.2.9:9443"
  capabilities := [profileSyncPeerDiscoveryCapability]
  membershipEpoch := 1
  sequence := 1
  identitySignature := none

def tabletSource : SocketAddr := .v4 { ip := ⟨192, 0, 2, 9⟩, port := 47883 }

/-- The message that the tablet sends. -/
def tabletBytes : List Nat :=
  JsonFormat.compact.toBytes (.object [("type", .string "advertisement"),
    ("advertisement", .object [("network_id", .string "home"), ("node_id", .string "tablet"),
      ("provider_id", .string "tablet-provider"), ("service_addr", .string "192.0.2.9:9443"),
      ("capabilities", .array [.string profileSyncPeerDiscoveryCapability]),
      ("membership_epoch", .integer 1), ("sequence", .integer 1)])])

/-- Nothing but the tablet's message is decoded. -/
def tabletFromSlice : FromSlice := fun bytes =>
  if bytes = tabletBytes then .ok (.advertisement tabletAdvertisement)
  else .error "expected value at line 1 column 1"

/-- A datagram of one byte and the tablet's. -/
def noisySocket : UdpSocket where
  datagrams := [{ payload := [0], sourceAddr := tabletSource },
    { payload := tabletBytes, sourceAddr := tabletSource }]
  timeout := "Resource temporarily unavailable (os error 11)"
  timesOut := by decide

/-- A malformed datagram ends the collection before the tablet's arrives. -/
theorem malformed_datagram_ends_collection :
    collectProfileSyncPeerAdvertisements tabletFromSlice noisySocket "home" 4 =
        .error (.request ("decode profile-sync peer discovery message: " ++
          "expected value at line 1 column 1")) ∧
      distinctPeers (wholeMessage tabletFromSlice) "home" noisySocket.datagrams =
        [{ advertisement := tabletAdvertisement, sourceAddr := tabletSource }] ∧
      ¬ ToleratesNoise tabletFromSlice noisySocket "home" 4 := by
  have fails : collectProfileSyncPeerAdvertisements tabletFromSlice noisySocket "home" 4 =
      .error (.request ("decode profile-sync peer discovery message: " ++
        "expected value at line 1 column 1")) := by decide +kernel
  refine ⟨fails, by decide +kernel, ?_⟩
  intro tolerates
  unfold ToleratesNoise at tolerates
  rw [fails] at tolerates
  cases tolerates

end Sample

end Slate.Broadwebd
