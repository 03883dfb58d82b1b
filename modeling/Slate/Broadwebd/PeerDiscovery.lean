import Slate.Broadwebd.Http
import Slate.Broadwebd.PeerAdvertisement

/-!
# Peer discovery

Discovery providers answer a query with advertisements they found. A composite provider asks
several of them, protocol by protocol, and keeps the first result of every namespace,
network, node and provider.
-/

namespace Slate.Broadwebd

open Slate.Foundation

inductive ProfileSyncPeerDiscoveryProtocol where
  | libp2pRendezvous
  | libp2pKademlia
  | ipns
  | irohRendezvous
  | localSimulation
deriving DecidableEq, Repr

structure ProfileSyncPeerDiscoveryQuery where
  networkId : String
  requesterNodeId : String
  discoveryNamespace : String
  protocols : List ProfileSyncPeerDiscoveryProtocol
  maxPeers : Nat
deriving DecidableEq, Repr

structure ProfileSyncPeerDiscoveryResult where
  protocol : ProfileSyncPeerDiscoveryProtocol
  discoveryNamespace : String
  advertisement : ProfileSyncPeerAdvertisement
deriving DecidableEq, Repr

/-- `ProfileSyncPeerDiscoveryProvider::discover_profile_sync_peers`. -/
abbrev ProfileSyncPeerDiscoveryProvider :=
  ProfileSyncPeerDiscoveryQuery →
    Except BroadwebdError (List ProfileSyncPeerDiscoveryResult)

/-- A failed check as a request error. -/
def requestError {α : Type} (result : Except String α) : Except BroadwebdError α :=
  result.mapError .request

section Query

def validateNamespace (discoveryNamespace : String) : Except BroadwebdError Unit :=
  if discoveryNamespace.isEmpty ∨ 256 < discoveryNamespace.utf8ByteSize ∨
      !discoveryNamespace.toList.all fun char =>
        isAsciiAlphanumeric char || "-_./".toList.contains char then
    .error (.request ("invalid profile-sync peer discovery namespace: " ++
      String.quote discoveryNamespace))
  else .ok ()

def ProfileSyncPeerDiscoveryQuery.validate (query : ProfileSyncPeerDiscoveryQuery) :
    Except BroadwebdError Unit := do
  requestError (validateDiscoveryToken "network id" query.networkId)
  requestError (validateDiscoveryToken "requester node id" query.requesterNodeId)
  validateNamespace query.discoveryNamespace
  if query.protocols = [] then
    throw (.request "profile-sync peer discovery query requires at least one protocol")
  if query.maxPeers = 0 then
    throw (.request
      "profile-sync peer discovery query max_peers must be greater than zero")

/-- The query for one of the protocols. -/
def ProfileSyncPeerDiscoveryQuery.forProtocol (protocol : ProfileSyncPeerDiscoveryProtocol)
    (query : ProfileSyncPeerDiscoveryQuery) : ProfileSyncPeerDiscoveryQuery :=
  { query with protocols := [protocol] }

end Query

section Composite

/-- What a composite provider keeps one result of. -/
structure SeenKey where
  discoveryNamespace : String
  networkId : String
  nodeId : String
  providerId : String
deriving DecidableEq, Repr

def ProfileSyncPeerDiscoveryResult.seenKey (result : ProfileSyncPeerDiscoveryResult) : SeenKey where
  discoveryNamespace := result.discoveryNamespace
  networkId := result.advertisement.networkId
  nodeId := result.advertisement.nodeId
  providerId := result.advertisement.providerId

/-- The results so far and what was seen; a full composite returns at once. -/
structure CompositeState where
  results : List ProfileSyncPeerDiscoveryResult
  seen : List SeenKey
  full : Bool

def CompositeState.start : CompositeState where
  results := []
  seen := []
  full := false

def takeResult (maxPeers : Nat) (protocol : ProfileSyncPeerDiscoveryProtocol)
    (state : CompositeState) (result : ProfileSyncPeerDiscoveryResult) : CompositeState :=
  if state.full then state
  else if maxPeers ≤ state.results.length then { state with full := true }
  else if result.protocol ≠ protocol then state
  else if state.seen.contains result.seenKey then state
  else
    { state with
      results := state.results ++ [result]
      seen := state.seen ++ [result.seenKey] }

/-- Ask the providers for one protocol; none is asked any more once the composite is full. -/
def askProviders (query : ProfileSyncPeerDiscoveryQuery)
    (protocol : ProfileSyncPeerDiscoveryProtocol) :
    List ProfileSyncPeerDiscoveryProvider → CompositeState →
    Except BroadwebdError CompositeState
  | [], state => .ok state
  | provider :: providers, state =>
      if state.full then .ok state
      else do
        let answer ← provider (query.forProtocol protocol)
        askProviders query protocol providers
          (answer.foldl (takeResult query.maxPeers protocol) state)

def askProtocols (query : ProfileSyncPeerDiscoveryQuery)
    (providers : List ProfileSyncPeerDiscoveryProvider) :
    List ProfileSyncPeerDiscoveryProtocol → CompositeState →
    Except BroadwebdError CompositeState
  | [], state => .ok state
  | protocol :: protocols, state =>
      if state.full then .ok state
      else do
        (query.forProtocol protocol).validate
        let state ← askProviders query protocol providers state
        askProtocols query providers protocols state

/-- `CompositeProfileSyncPeerDiscoveryProvider::discover_profile_sync_peers`. -/
def compositeDiscoverProfileSyncPeers (providers : List ProfileSyncPeerDiscoveryProvider) :
    ProfileSyncPeerDiscoveryProvider := fun query => do
  query.validate
  let state ← askProtocols query providers query.protocols .start
  pure state.results

end Composite

end Slate.Broadwebd
