import Slate.Broadwebd.KuboNode
import Slate.Broadwebd.LanDiscovery
import Slate.Foundation.SeenList

/-!
# Peer discovery over IPNS

A provider resolves names that it was configured with, fetches what they stand for and keeps the
freshest advertisement of every node and provider. A name that fails ends the discovery.
-/

namespace Slate.Broadwebd

open Slate.Foundation

section Records

structure IpnsProfileSyncPeerDiscoveryRecord where
  protocol : String
  discoveryNamespace : String
  advertisement : ProfileSyncPeerAdvertisement
deriving DecidableEq, Repr

def IpnsProfileSyncPeerDiscoveryRecord.validate (record : IpnsProfileSyncPeerDiscoveryRecord) :
    Except BroadwebdError Unit := do
  if record.protocol ≠ "ipns" then
    throw (.request ("IPNS profile-sync discovery record has unsupported protocol: " ++
      record.protocol))
  if record.discoveryNamespace.isEmpty ∨ 256 < record.discoveryNamespace.utf8ByteSize ∨
      !record.discoveryNamespace.toList.all fun char =>
        isAsciiAlphanumeric char || "-_./".toList.contains char then
    throw (.request ("invalid IPNS profile-sync discovery namespace: " ++
      String.quote record.discoveryNamespace))
  requestError (record.advertisement.validate isSocketAddr)

/-- `serde_json::from_slice` for records, with the text of its error. -/
abbrev RecordFromSlice := Bytes → Except String IpnsProfileSyncPeerDiscoveryRecord

def IpnsProfileSyncPeerDiscoveryRecord.decode (fromSlice : RecordFromSlice) (bytes : Bytes) :
    Except BroadwebdError IpnsProfileSyncPeerDiscoveryRecord := do
  if bytes.length > defaultProfileSyncPeerDiscoveryMaxBytes then
    throw (.frameTooLarge defaultProfileSyncPeerDiscoveryMaxBytes bytes.length)
  let record ← (fromSlice bytes).mapError fun error =>
    .request ("decode IPNS profile-sync discovery record: " ++ error)
  record.validate
  pure record

end Records

section Discovery

/-- A name to resolve, with what the node answers when its turn comes. -/
structure ResolveName where
  name : String
  resolveRoot : Except BroadwebdError String
  getEncryptedObject : String → Except BroadwebdError Bytes

variable (fromSlice : RecordFromSlice)

def ResolveName.record (name : ResolveName) :
    Except BroadwebdError IpnsProfileSyncPeerDiscoveryRecord := do
  let objectId ← name.resolveRoot
  let bytes ← name.getEncryptedObject objectId
  IpnsProfileSyncPeerDiscoveryRecord.decode fromSlice bytes

variable (query : ProfileSyncPeerDiscoveryQuery)

/-- A record that the query asks for. -/
def Matches (record : IpnsProfileSyncPeerDiscoveryRecord) : Bool :=
  !(record.discoveryNamespace ≠ query.discoveryNamespace ||
    record.advertisement.networkId ≠ query.networkId ||
    record.advertisement.nodeId = query.requesterNodeId ||
    !record.advertisement.supportsProfileSyncServiceFrames)

def IpnsProfileSyncPeerDiscoveryRecord.candidate (record : IpnsProfileSyncPeerDiscoveryRecord) :
    ProfileSyncPeerDiscoveryResult where
  protocol := .ipns
  discoveryNamespace := record.discoveryNamespace
  advertisement := record.advertisement

/-- The node and the provider of a result. -/
def ProfileSyncPeerDiscoveryResult.peerOf (result : ProfileSyncPeerDiscoveryResult) :
    String × String :=
  (result.advertisement.nodeId, result.advertisement.providerId)

structure IpnsDiscoveryState where
  results : List (Option ProfileSyncPeerDiscoveryResult)
  freshestByPeer : List ((String × String) × Nat)

def IpnsDiscoveryState.start : IpnsDiscoveryState where
  results := []
  freshestByPeer := []

def IpnsDiscoveryState.take (maxPeers : Nat) (state : IpnsDiscoveryState)
    (candidate : ProfileSyncPeerDiscoveryResult) : IpnsDiscoveryState :=
  match LatestRows.position candidate.peerOf state.freshestByPeer with
  | some index =>
    match state.results[index]? with
    | some (some stored) =>
      if candidate.advertisement.sequence > stored.advertisement.sequence then
        { state with results := state.results.set index (some candidate) }
      else state
    -- the source panics here; a key always points at a candidate
    | _ => state
  | none =>
    if state.results.length < maxPeers then
      { results := state.results ++ [some candidate]
        freshestByPeer := state.freshestByPeer ++ [(candidate.peerOf, state.results.length)] }
    else state

def IpnsDiscoveryState.step (state : IpnsDiscoveryState)
    (record : IpnsProfileSyncPeerDiscoveryRecord) : IpnsDiscoveryState :=
  if !Matches query record then state else state.take query.maxPeers record.candidate

def resolveNames : List ResolveName → IpnsDiscoveryState →
    Except BroadwebdError IpnsDiscoveryState
  | [], state => .ok state
  | name :: names, state => do
    let record ← name.record fromSlice
    resolveNames names (state.step query record)

/-- `IpnsProfileSyncPeerDiscoveryProvider::discover_profile_sync_peers`. -/
def ipnsDiscoverProfileSyncPeers (names : List ResolveName) :
    ProfileSyncPeerDiscoveryProvider := fun query => do
  query.validate
  if !query.protocols.contains .ipns then
    .ok []
  else
    let state ← resolveNames fromSlice query names .start
    .ok (state.results.filterMap id)

end Discovery

section Freshest

/-- Of every node and provider among the candidates, up to a number of them and as they occur
first, a result with the highest sequence. -/
structure FreshestPeers (maxPeers : Nat) (candidates results : List ProfileSyncPeerDiscoveryResult) :
    Prop where
  peers : results.map (·.peerOf) = ((candidates.map (·.peerOf)).eraseDups).take maxPeers
  found : results ⊆ candidates
  freshest : ∀ result ∈ results, ∀ candidate ∈ candidates, candidate.peerOf = result.peerOf →
    candidate.advertisement.sequence ≤ result.advertisement.sequence

def sequenceOf (result : ProfileSyncPeerDiscoveryResult) : Nat := result.advertisement.sequence

/-- The table of the freshest candidates without a limit. -/
def freshestPeers (candidates : List ProfileSyncPeerDiscoveryResult) :
    List ProfileSyncPeerDiscoveryResult :=
  LatestRows.putAll ProfileSyncPeerDiscoveryResult.peerOf sequenceOf candidates

variable {maxPeers : Nat} {candidates : List ProfileSyncPeerDiscoveryResult}
  {candidate : ProfileSyncPeerDiscoveryResult} {state : IpnsDiscoveryState}

theorem freshestPeers_concat :
    freshestPeers (candidates ++ [candidate]) =
      LatestRows.put ProfileSyncPeerDiscoveryResult.peerOf sequenceOf (freshestPeers candidates)
        candidate :=
  LatestRows.putAll_concat candidates candidate

theorem peers_freshestPeers (candidates : List ProfileSyncPeerDiscoveryResult) :
    (freshestPeers candidates).map (·.peerOf) = (candidates.map (·.peerOf)).eraseDups := by
  induction candidates using List.reverseRecOn with
  | nil => rfl
  | append_singleton candidates candidate inductionHypothesis =>
      rw [freshestPeers_concat, LatestRows.put, Rows.map_key_upsert LatestRows.key_keepLater,
        List.map_append, List.map_singleton, eraseDups_concat, inductionHypothesis]
      simp only [List.mem_eraseDups]

theorem freshestPeers_take (maxPeers : Nat) (candidates : List ProfileSyncPeerDiscoveryResult) :
    FreshestPeers maxPeers candidates ((freshestPeers candidates).take maxPeers) := by
  constructor
  case peers => rw [List.map_take, peers_freshestPeers]
  case found =>
    intro result isKept
    have isLast := LatestRows.isLast_of_mem_putAll (List.mem_of_mem_take isKept)
    exact (LatestRows.mem_ofKey_iff.mp isLast.1).1
  case freshest =>
    intro result isKept candidate isCandidate samePeer
    have isLast := LatestRows.isLast_of_mem_putAll (List.mem_of_mem_take isKept)
    exact isLast.2 candidate (LatestRows.mem_ofKey_iff.mpr ⟨isCandidate, samePeer⟩)

/-- What the loop holds after some candidates: the table of the freshest, cut at the limit. -/
structure Holds (maxPeers : Nat) (candidates : List ProfileSyncPeerDiscoveryResult)
    (state : IpnsDiscoveryState) : Prop where
  results : state.results = ((freshestPeers candidates).take maxPeers).map some
  freshestByPeer : state.freshestByPeer =
    LatestRows.index ProfileSyncPeerDiscoveryResult.peerOf
      ((freshestPeers candidates).take maxPeers)

/-- Beyond the limit, a candidate of a new peer changes nothing of what is kept. -/
theorem take_upsert_of_fresh {Row : Type} {Key : Type} [DecidableEq Key] {key : Row → Key}
    {merge : Row → Row → Row} {row : Row} {limit : Nat} {rows : List Row}
    (fresh : ∀ existing ∈ rows.take limit, key existing ≠ key row) (full : limit ≤ rows.length) :
    (Rows.upsert key merge row rows).take limit = rows.take limit := by
  induction rows generalizing limit with
  | nil =>
      obtain rfl : limit = 0 := Nat.le_zero.mp full
      rfl
  | cons head rest inductionHypothesis =>
      cases limit with
      | zero => rfl
      | succ limit =>
          rw [List.take_succ_cons] at fresh ⊢
          rw [Rows.upsert, if_neg (fresh head List.mem_cons_self), List.take_succ_cons,
            inductionHypothesis (fun existing isExisting =>
              fresh existing (List.mem_cons_of_mem head isExisting)) (by simpa using full)]

theorem unique_freshestPeers (candidates : List ProfileSyncPeerDiscoveryResult) :
    Rows.UniqueKeys ProfileSyncPeerDiscoveryResult.peerOf (freshestPeers candidates) :=
  LatestRows.uniqueKeys_putAll candidates

theorem unique_take_freshestPeers (maxPeers : Nat)
    (candidates : List ProfileSyncPeerDiscoveryResult) :
    Rows.UniqueKeys ProfileSyncPeerDiscoveryResult.peerOf
      ((freshestPeers candidates).take maxPeers) :=
  List.Nodup.sublist ((List.take_sublist _ _).map _) (unique_freshestPeers candidates)

/-- A candidate of a peer that is kept is put where the peer stands. -/
theorem take_freshestPeers_concat {place : Nat}
    (found : LatestRows.position candidate.peerOf
      (LatestRows.index ProfileSyncPeerDiscoveryResult.peerOf
        ((freshestPeers candidates).take maxPeers)) = some place) :
    (freshestPeers (candidates ++ [candidate])).take maxPeers =
      LatestRows.put ProfileSyncPeerDiscoveryResult.peerOf sequenceOf
        ((freshestPeers candidates).take maxPeers) candidate := by
  obtain ⟨existing, stands, samePeer⟩ := LatestRows.getElem?_of_position_eq_some found
  have standsInAll : (freshestPeers candidates)[place]? = some existing := by
    rw [List.getElem?_take] at stands
    split at stands
    · exact stands
    · cases stands
  rw [freshestPeers_concat]
  unfold LatestRows.put
  rw [LatestRows.upsert_of_getElem? (unique_freshestPeers candidates) standsInAll samePeer,
    LatestRows.upsert_of_getElem? (unique_take_freshestPeers maxPeers candidates) stands samePeer,
    List.take_set]

theorem Holds.take (holds : Holds maxPeers candidates state)
    (candidate : ProfileSyncPeerDiscoveryResult) :
    Holds maxPeers (candidates ++ [candidate]) (state.take maxPeers candidate) := by
  have results := holds.results
  have freshestByPeer := holds.freshestByPeer
  unfold IpnsDiscoveryState.take
  rw [freshestByPeer]
  cases found : LatestRows.position candidate.peerOf
      (LatestRows.index ProfileSyncPeerDiscoveryResult.peerOf
        ((freshestPeers candidates).take maxPeers)) with
  | none =>
      have fresh := LatestRows.fresh_of_position_eq_none found
      have length : state.results.length = min maxPeers (freshestPeers candidates).length := by
        rw [results, List.length_map, List.length_take]
      dsimp only
      split
      · have whole : (freshestPeers candidates).take maxPeers = freshestPeers candidates :=
          List.take_of_length_le (by omega)
        have grown : (freshestPeers (candidates ++ [candidate])).take maxPeers =
            freshestPeers candidates ++ [candidate] := by
          rw [whole] at found
          rw [freshestPeers_concat, LatestRows.put_of_position_eq_none found,
            List.take_of_length_le]
          rw [List.length_append, List.length_singleton]
          omega
        constructor
        · rw [grown, results, whole, List.map_append, List.map_singleton]
        · rw [grown, LatestRows.index_concat, whole, length, Nat.min_eq_right (by omega)]
      · have unchanged : (freshestPeers (candidates ++ [candidate])).take maxPeers =
            (freshestPeers candidates).take maxPeers := by
          rw [freshestPeers_concat]
          exact take_upsert_of_fresh fresh (by omega)
        exact ⟨by rw [unchanged, results], by rw [unchanged, freshestByPeer]⟩
  | some place =>
      obtain ⟨existing, stands, samePeer, placed⟩ :=
        @LatestRows.put_of_position_eq_some _ _ _ _ _ _ sequenceOf _ _
          (unique_take_freshestPeers maxPeers candidates) _ found
      have sameIndex := @LatestRows.index_put_of_position_eq_some _ _ _ _ _ _ sequenceOf
        _ _ _ found
      rw [← take_freshestPeers_concat found] at placed sameIndex
      have standsInState : state.results[place]? = some (some existing) := by
        rw [results, List.getElem?_map, stands]
        rfl
      simp only [standsInState]
      split
      · rename_i fresher
        have kept : LatestRows.keepLater sequenceOf existing candidate = candidate :=
          if_neg (not_le.mpr fresher)
        rw [kept] at placed
        exact ⟨by rw [placed, results, List.map_set], sameIndex.symm⟩
      · rename_i older
        have kept : LatestRows.keepLater sequenceOf existing candidate = existing :=
          if_pos (not_lt.mp older)
        rw [kept] at placed
        have unchanged : (freshestPeers (candidates ++ [candidate])).take maxPeers =
            (freshestPeers candidates).take maxPeers := by
          obtain ⟨bound, rfl⟩ := List.getElem?_eq_some_iff.mp stands
          rw [placed, List.set_getElem_self bound]
        exact ⟨by rw [unchanged, results], freshestByPeer.trans sameIndex.symm⟩

end Freshest

section Names

variable {fromSlice : RecordFromSlice} {query : ProfileSyncPeerDiscoveryQuery}
  {names : List ResolveName} {state : IpnsDiscoveryState}
  {candidates : List ProfileSyncPeerDiscoveryResult}

/-- The well-formed records of the names that the query asks for, as candidates. -/
def candidatesOf (fromSlice : RecordFromSlice) (query : ProfileSyncPeerDiscoveryQuery)
    (names : List ResolveName) : List ProfileSyncPeerDiscoveryResult :=
  ((names.filterMap fun name => (name.record fromSlice).toOption).filter (Matches query)).map
    (·.candidate)

def AllRead (fromSlice : RecordFromSlice) (names : List ResolveName) : Prop :=
  ∀ name ∈ names, ∃ record, name.record fromSlice = .ok record

theorem Holds.step (holds : Holds query.maxPeers candidates state)
    (record : IpnsProfileSyncPeerDiscoveryRecord) :
    Holds query.maxPeers (candidates ++ ([record].filter (Matches query)).map (·.candidate))
      (state.step query record) := by
  unfold IpnsDiscoveryState.step
  cases isMatch : Matches query record with
  | false => simpa [isMatch] using holds
  | true => simpa [isMatch] using holds.take record.candidate

/-- The names are read one after the other, up to the first one that fails. -/
theorem resolveNames_of_allRead (allRead : AllRead fromSlice names)
    (holds : Holds query.maxPeers candidates state) :
    ∃ next, resolveNames fromSlice query names state = .ok next ∧
      Holds query.maxPeers (candidates ++ candidatesOf fromSlice query names) next := by
  induction names generalizing candidates state with
  | nil => exact ⟨state, rfl, by simpa [candidatesOf] using holds⟩
  | cons name rest inductionHypothesis =>
      obtain ⟨⟨record, isRecord⟩, othersRead⟩ := List.forall_mem_cons.mp allRead
      obtain ⟨next, resolved, nextHolds⟩ := inductionHypothesis othersRead (holds.step record)
      refine ⟨next, ?_, ?_⟩
      · rw [resolveNames, isRecord]
        exact resolved
      · have split : candidatesOf fromSlice query (name :: rest) =
            ([record].filter (Matches query)).map (·.candidate) ++
              candidatesOf fromSlice query rest := by
          unfold candidatesOf
          rw [List.filterMap_cons_some (by rw [isRecord]; rfl), ← List.singleton_append,
            List.filter_append, List.map_append]
        rw [split, ← List.append_assoc]
        exact nextHolds

theorem allRead_of_resolveNames {next : IpnsDiscoveryState}
    (resolved : resolveNames fromSlice query names state = .ok next) :
    AllRead fromSlice names := by
  induction names generalizing state with
  | nil => simp [AllRead]
  | cons name rest inductionHypothesis =>
      obtain ⟨record, isRecord, restResolved⟩ := bind_eq_ok_iff.mp resolved
      exact List.forall_mem_cons.mpr ⟨⟨record, isRecord⟩, inductionHypothesis restResolved⟩

/-- The provider returns the freshest peers among the records that it can read. -/
def DiscoversFreshest (fromSlice : RecordFromSlice) (query : ProfileSyncPeerDiscoveryQuery)
    (names : List ResolveName) : Prop :=
  ∃ results, ipnsDiscoverProfileSyncPeers fromSlice names query = .ok results ∧
    FreshestPeers query.maxPeers (candidatesOf fromSlice query names) results

theorem discoversFreshest_iff_allRead (valid : query.validate = .ok ())
    (asked : .ipns ∈ query.protocols) :
    DiscoversFreshest fromSlice query names ↔ AllRead fromSlice names := by
  have isAsked : (!query.protocols.contains .ipns) = false := by simpa using asked
  unfold DiscoversFreshest ipnsDiscoverProfileSyncPeers
  simp only [valid, ok_bind, isAsked, if_neg Bool.false_ne_true]
  constructor
  · rintro ⟨results, discovered, -⟩
    obtain ⟨state, resolved, -⟩ := bind_eq_ok_iff.mp discovered
    exact allRead_of_resolveNames resolved
  · intro allRead
    obtain ⟨next, resolved, holds⟩ := @resolveNames_of_allRead _ query _ .start []
      allRead ⟨by simp [IpnsDiscoveryState.start,
        freshestPeers, LatestRows.putAll], by simp [IpnsDiscoveryState.start, freshestPeers,
        LatestRows.putAll, LatestRows.index]⟩
    refine ⟨_, bind_eq_ok_iff.mpr ⟨next, resolved, rfl⟩, ?_⟩
    rw [holds.results, List.filterMap_map]
    simpa using freshestPeers_take query.maxPeers (candidatesOf fromSlice query names)

end Names

end Slate.Broadwebd
