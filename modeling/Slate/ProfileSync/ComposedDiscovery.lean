import Slate.ProfileSync.DiscoveryFilter

/-!
# Trust behind a composite provider

Candidates of several providers are thinned out before their signatures are looked at: of
every namespace, network, node and provider the first one stays, in the order of the query's
protocols and then of the providers. A peer is trusted if the one that stayed is.
-/

namespace Slate.ProfileSync

open Slate.Foundation Slate.Storage Slate.Broadwebd
open Slate.Storage.SlateProfileDatabase

inductive ProfileSyncPeerDiscoveryError where
  | broadwebd (error : Broadwebd.BroadwebdError)
  | storage (error : StorageError)

section Discovery

variable (format : JsonFormat) (isSocketAddr : String → Bool) (scheme : SyncObjectScheme)

def discoverTrustedProfileSyncPeersWithRequiredCapabilities (profile : String)
    (provider : ProfileSyncPeerDiscoveryProvider) (query : ProfileSyncPeerDiscoveryQuery)
    (requiredCapabilities : List String) (db : SlateProfileDatabase) :
    Except ProfileSyncPeerDiscoveryError TrustedProfileSyncPeerDiscoveryReport := do
  let candidates ← (provider query).mapError .broadwebd
  (filterTrustedProfileSyncPeerDiscoveryResultsWithRequiredCapabilities format isSocketAddr
    scheme profile query.networkId requiredCapabilities candidates db).mapError .storage

def discoverTrustedProfileSyncPeers (profile : String)
    (provider : ProfileSyncPeerDiscoveryProvider) (query : ProfileSyncPeerDiscoveryQuery)
    (db : SlateProfileDatabase) :
    Except ProfileSyncPeerDiscoveryError TrustedProfileSyncPeerDiscoveryReport :=
  discoverTrustedProfileSyncPeersWithRequiredCapabilities format isSocketAddr scheme profile
    provider query [] db

end Discovery

section Composite

variable {query : ProfileSyncPeerDiscoveryQuery} {protocol : ProfileSyncPeerDiscoveryProtocol}
  {providers : List ProfileSyncPeerDiscoveryProvider} {state next : CompositeState}
  {offered : List ProfileSyncPeerDiscoveryResult}

/-- What a provider returns for one of the query's protocols. -/
def answerFor (query : ProfileSyncPeerDiscoveryQuery)
    (protocol : ProfileSyncPeerDiscoveryProtocol) (provider : ProfileSyncPeerDiscoveryProvider) :
    List ProfileSyncPeerDiscoveryResult :=
  (provider (query.forProtocol protocol)).toOption.getD []

def answersFor (query : ProfileSyncPeerDiscoveryQuery)
    (providers : List ProfileSyncPeerDiscoveryProvider)
    (protocol : ProfileSyncPeerDiscoveryProtocol) : List ProfileSyncPeerDiscoveryResult :=
  providers.flatMap (answerFor query protocol)

/-- All results of all providers, in the order they are asked. -/
def allResults (query : ProfileSyncPeerDiscoveryQuery)
    (providers : List ProfileSyncPeerDiscoveryProvider) : List ProfileSyncPeerDiscoveryResult :=
  query.protocols.flatMap (answersFor query providers)

def ofProtocol (protocol : ProfileSyncPeerDiscoveryProtocol)
    (results : List ProfileSyncPeerDiscoveryResult) : List ProfileSyncPeerDiscoveryResult :=
  results.filter fun result => decide (result.protocol = protocol)

/-- The results that are of the protocol they were asked for. -/
def offeredFor (query : ProfileSyncPeerDiscoveryQuery)
    (providers : List ProfileSyncPeerDiscoveryProvider)
    (protocols : List ProfileSyncPeerDiscoveryProtocol) : List ProfileSyncPeerDiscoveryResult :=
  protocols.flatMap fun protocol => ofProtocol protocol (answersFor query providers protocol)

def offeredResults (query : ProfileSyncPeerDiscoveryQuery)
    (providers : List ProfileSyncPeerDiscoveryProvider) : List ProfileSyncPeerDiscoveryResult :=
  offeredFor query providers query.protocols

/-- Every provider answers for every protocol. -/
def AllAnswer (query : ProfileSyncPeerDiscoveryQuery)
    (providers : List ProfileSyncPeerDiscoveryProvider)
    (protocols : List ProfileSyncPeerDiscoveryProtocol) : Prop :=
  ∀ protocol ∈ protocols, ∀ provider ∈ providers,
    ∃ answer, provider (query.forProtocol protocol) = .ok answer

/-- The first result of every key was taken, and there is room for more. -/
structure Collected (offered : List ProfileSyncPeerDiscoveryResult) (state : CompositeState) :
    Prop where
  results : state.results = LatestRows.putFirst ProfileSyncPeerDiscoveryResult.seenKey offered
  seen : state.seen = state.results.map ProfileSyncPeerDiscoveryResult.seenKey
  notFull : state.full = false

theorem Collected.take (collected : Collected offered state) {maxPeers : Nat}
    (room : offered.length < maxPeers) (result : ProfileSyncPeerDiscoveryResult) :
    Collected (offered ++ ofProtocol protocol [result])
      (takeResult maxPeers protocol state result) := by
  have fits : ¬ maxPeers ≤ state.results.length := by
    have kept := @LatestRows.length_putFirst_le _ _ _ ProfileSyncPeerDiscoveryResult.seenKey
      offered
    rw [← collected.results] at kept
    omega
  unfold takeResult
  rw [collected.notFull, if_neg Bool.false_ne_true, if_neg fits]
  by_cases asked : result.protocol = protocol
  · have isOffered : ofProtocol protocol [result] = [result] := by simp [ofProtocol, asked]
    rw [if_neg (not_not.mpr asked), isOffered]
    by_cases present : result.seenKey ∈ state.seen
    · rw [if_pos (List.contains_iff_mem.mpr present)]
      rw [collected.seen, collected.results] at present
      refine ⟨?_, collected.seen, collected.notFull⟩
      rw [LatestRows.putFirst_concat_of_mem present, collected.results]
    · rw [if_neg fun contained => present (List.contains_iff_mem.mp contained)]
      rw [collected.seen, collected.results] at present
      refine ⟨?_, ?_, rfl⟩
      · rw [LatestRows.putFirst_concat_of_not_mem present, collected.results]
      · simp only [collected.seen, List.map_append, List.map_cons, List.map_nil]
  · have notOffered : ofProtocol protocol [result] = [] := by simp [ofProtocol, asked]
    rw [if_pos asked, notOffered, List.append_nil]
    exact collected

theorem ofProtocol_append (first second : List ProfileSyncPeerDiscoveryResult) :
    ofProtocol protocol (first ++ second) =
      ofProtocol protocol first ++ ofProtocol protocol second :=
  List.filter_append ..

theorem length_ofProtocol_le (results : List ProfileSyncPeerDiscoveryResult) :
    (ofProtocol protocol results).length ≤ results.length :=
  List.length_filter_le ..

/-- An answer that is taken as a whole. -/
theorem Collected.takeAll (collected : Collected offered state) {maxPeers : Nat}
    (answer : List ProfileSyncPeerDiscoveryResult)
    (room : offered.length + answer.length ≤ maxPeers) :
    Collected (offered ++ ofProtocol protocol answer)
      (answer.foldl (takeResult maxPeers protocol) state) := by
  induction answer generalizing offered state with
  | nil => simpa [ofProtocol] using collected
  | cons result rest inductionHypothesis =>
      rw [List.length_cons] at room
      have taken : Collected (offered ++ ofProtocol protocol [result])
          (takeResult maxPeers protocol state result) := collected.take (by omega) result
      have atMost : (ofProtocol protocol [result]).length ≤ [result].length :=
        length_ofProtocol_le [result]
      have later := inductionHypothesis taken (by
        rw [List.length_append]
        rw [List.length_singleton] at atMost
        omega)
      rwa [List.append_assoc, ← ofProtocol_append, List.singleton_append] at later

/-- The answers for one protocol are taken as a whole. -/
theorem askProviders_eq_ok_iff (collected : Collected offered state)
    (room : offered.length + (answersFor query providers protocol).length ≤ query.maxPeers) :
    askProviders query protocol providers state = .ok next ↔
      (∀ provider ∈ providers, ∃ answer, provider (query.forProtocol protocol) = .ok answer) ∧
        next = (answersFor query providers protocol).foldl
          (takeResult query.maxPeers protocol) state := by
  induction providers generalizing offered state with
  | nil => simp [askProviders, answersFor, eq_comm]
  | cons provider rest inductionHypothesis =>
      have split : answersFor query (provider :: rest) protocol =
          answerFor query protocol provider ++ answersFor query rest protocol :=
        List.flatMap_cons
      rw [split, List.length_append] at room
      have taken : Collected (offered ++ ofProtocol protocol (answerFor query protocol provider))
          ((answerFor query protocol provider).foldl (takeResult query.maxPeers protocol) state) :=
        collected.takeAll (answerFor query protocol provider) (by omega)
      have fewer := @length_ofProtocol_le protocol (answerFor query protocol provider)
      have later := inductionHypothesis taken (by rw [List.length_append]; omega)
      rw [askProviders, collected.notFull, if_neg Bool.false_ne_true, bind_eq_ok_iff, split,
        List.foldl_append, List.forall_mem_cons]
      constructor
      · rintro ⟨answer, answered, asked⟩
        have isAnswer : answerFor query protocol provider = answer := by
          simp [answerFor, answered, Except.toOption]
        rw [isAnswer] at later
        obtain ⟨others, isNext⟩ := later.mp asked
        exact ⟨⟨⟨answer, answered⟩, others⟩, by rw [isAnswer, isNext]⟩
      · rintro ⟨⟨⟨answer, answered⟩, others⟩, isNext⟩
        have isAnswer : answerFor query protocol provider = answer := by
          simp [answerFor, answered, Except.toOption]
        rw [isAnswer] at later isNext
        exact ⟨answer, answered, later.mpr ⟨others, isNext⟩⟩

/-- A query for one of its protocols is as valid as the query. -/
theorem validate_forProtocol (valid : query.validate = .ok ()) :
    (query.forProtocol protocol).validate = .ok () := by
  obtain ⟨networkId, valid⟩ := unit_bind_eq_ok_iff.mp valid
  obtain ⟨requester, valid⟩ := unit_bind_eq_ok_iff.mp valid
  obtain ⟨inNamespace, valid⟩ := unit_bind_eq_ok_iff.mp valid
  obtain ⟨-, room⟩ := check_then_eq_ok_iff.mp valid
  apply unit_bind_eq_ok_iff.mpr ⟨networkId, _⟩
  apply unit_bind_eq_ok_iff.mpr ⟨requester, _⟩
  apply unit_bind_eq_ok_iff.mpr ⟨inNamespace, _⟩
  exact check_then_eq_ok_iff.mpr ⟨List.cons_ne_nil _ _, room⟩

theorem askProtocols_eq_ok_iff {protocols : List ProfileSyncPeerDiscoveryProtocol}
    (valid : query.validate = .ok ()) (collected : Collected offered state)
    (room : offered.length + (protocols.flatMap (answersFor query providers)).length ≤
      query.maxPeers) {results : List ProfileSyncPeerDiscoveryResult} :
    (∃ next, askProtocols query providers protocols state = .ok next ∧ next.results = results) ↔
      AllAnswer query providers protocols ∧
        results = LatestRows.putFirst ProfileSyncPeerDiscoveryResult.seenKey
          (offered ++ offeredFor query providers protocols) := by
  induction protocols generalizing offered state with
  | nil => simp [askProtocols, AllAnswer, offeredFor, collected.results, eq_comm]
  | cons protocol rest inductionHypothesis =>
      rw [List.flatMap_cons, List.length_append] at room
      have taken : Collected
          (offered ++ ofProtocol protocol (answersFor query providers protocol))
          ((answersFor query providers protocol).foldl
            (takeResult query.maxPeers protocol) state) :=
        collected.takeAll (answersFor query providers protocol) (by omega)
      have fewer := @length_ofProtocol_le protocol (answersFor query providers protocol)
      have later := inductionHypothesis taken (by rw [List.length_append]; omega)
      have asked := fun next : CompositeState => @askProviders_eq_ok_iff query protocol providers
        state next offered collected (by omega)
      rw [askProtocols, collected.notFull, if_neg Bool.false_ne_true]
      simp only [unit_bind_eq_ok_iff, validate_forProtocol valid, true_and]
      simp only [bind_eq_ok_iff, asked]
      rw [AllAnswer, List.forall_mem_cons, offeredFor, List.flatMap_cons, ← List.append_assoc,
        ← offeredFor, ← AllAnswer, and_assoc, ← later]
      constructor
      · rintro ⟨next, ⟨_, ⟨all, rfl⟩, others⟩, isResults⟩
        exact ⟨all, next, others, isResults⟩
      · rintro ⟨all, next, others, isResults⟩
        exact ⟨next, ⟨_, ⟨all, rfl⟩, others⟩, isResults⟩

theorem composite_eq_ok_iff (room : (allResults query providers).length < query.maxPeers)
    {results : List ProfileSyncPeerDiscoveryResult} :
    compositeDiscoverProfileSyncPeers providers query = .ok results ↔
      query.validate = .ok () ∧ AllAnswer query providers query.protocols ∧
        results = LatestRows.putFirst ProfileSyncPeerDiscoveryResult.seenKey
          (offeredResults query providers) := by
  have start : Collected [] CompositeState.start := ⟨rfl, rfl, rfl⟩
  unfold compositeDiscoverProfileSyncPeers
  rw [unit_bind_eq_ok_iff]
  apply and_congr_right
  intro valid
  have asked := @askProtocols_eq_ok_iff query providers .start [] query.protocols valid start
    (by rw [List.length_nil, Nat.zero_add]; exact room.le) results
  rw [List.nil_append] at asked
  rw [offeredResults, ← asked, bind_eq_ok_iff]
  apply exists_congr
  intro next
  apply and_congr_right
  intro _
  constructor
  · intro isNext
    exact Except.ok.inj isNext
  · rintro rfl
    rfl

end Composite

section Trust

variable {format : JsonFormat} {isSocketAddr : String → Bool} {scheme : SyncObjectScheme}
  {profile networkId nodeId providerId : String} {db : SlateProfileDatabase}
  {query : ProfileSyncPeerDiscoveryQuery} {providers : List ProfileSyncPeerDiscoveryProvider}
  {candidates : List ProfileSyncPeerDiscoveryResult} {candidate : ProfileSyncPeerDiscoveryResult}
  {report : TrustedProfileSyncPeerDiscoveryReport}

/-- The trust filter accepts the candidate if there are no others. -/
def AcceptedAlone (format : JsonFormat) (isSocketAddr : String → Bool)
    (scheme : SyncObjectScheme) (profile networkId : String) (db : SlateProfileDatabase)
    (candidate : ProfileSyncPeerDiscoveryResult) : Prop :=
  ∃ report, filterTrustedProfileSyncPeerDiscoveryResults format isSocketAddr scheme profile
    networkId [candidate] db = .ok report ∧ candidate ∈ report.trustedPeers

/-- One of the peers has this node and this provider. -/
def TrustsPeer (nodeId providerId : String) (report : TrustedProfileSyncPeerDiscoveryReport) :
    Prop :=
  ∃ peer ∈ report.trustedPeers, peer.advertisement.nodeId = nodeId ∧
    peer.advertisement.providerId = providerId

theorem trustedOf_nil (verifying : List ProfileSyncPeerDiscoveryResult) :
    trustedOf [] verifying = freshestOf verifying :=
  List.filter_eq_self.mpr fun _ _ => rfl

theorem acceptedAlone_iff :
    AcceptedAlone format isSocketAddr scheme profile networkId db candidate ↔
      verifies format isSocketAddr scheme profile networkId db candidate = true := by
  constructor
  · rintro ⟨report, filtered, isTrusted⟩
    rw [(filterTrusted_eq_ok filtered).1, trustedOf_nil] at isTrusted
    exact (List.mem_filter.mp (mem_of_mem_freshestOf isTrusted).1).2
  · intro passes
    have answerable : ¬ Unanswerable networkId db candidate := by
      rw [← @judged_iff format isSocketAddr scheme profile]
      unfold verifies at passes
      split at passes
      · exact ⟨none, by assumption⟩
      · cases passes
    obtain ⟨report, filtered⟩ := filterTrusted_succeeds_iff.mpr fun other isOther => by
      rw [List.mem_singleton.mp isOther]
      exact answerable
    refine ⟨report, filtered, ?_⟩
    rw [(filterTrusted_eq_ok filtered).1, trustedOf_nil, List.filter_cons_of_pos passes]
    exact List.mem_singleton_self candidate

/-- A peer is trusted if some candidate of it verifies. -/
theorem trustsPeer_iff
    (filtered : filterTrustedProfileSyncPeerDiscoveryResults format isSocketAddr scheme profile
      networkId candidates db = .ok report) :
    TrustsPeer nodeId providerId report ↔
      ∃ candidate ∈ candidates, candidate.advertisement.nodeId = nodeId ∧
        candidate.advertisement.providerId = providerId ∧
        AcceptedAlone format isSocketAddr scheme profile networkId db candidate := by
  unfold TrustsPeer
  rw [(filterTrusted_eq_ok filtered).1, trustedOf_nil]
  constructor
  · rintro ⟨peer, isKept, ofNode, ofProvider⟩
    obtain ⟨isCandidate, passes⟩ := List.mem_filter.mp (mem_of_mem_freshestOf isKept).1
    exact ⟨peer, isCandidate, ofNode, ofProvider, acceptedAlone_iff.mpr passes⟩
  · rintro ⟨candidate, isCandidate, ofNode, ofProvider, accepted⟩
    obtain ⟨kept, isKept, sameKey⟩ : ∃ kept ∈ freshestOf (candidates.filter
          (verifies format isSocketAddr scheme profile networkId db)),
        ProfileSyncPeerDiscoveryFreshnessKey.fromResult kept =
          ProfileSyncPeerDiscoveryFreshnessKey.fromResult candidate :=
      LatestRows.exists_mem_putAll
        (List.mem_filter.mpr ⟨isCandidate, acceptedAlone_iff.mp accepted⟩)
    have sameNode := congrArg ProfileSyncPeerDiscoveryFreshnessKey.nodeId sameKey
    have sameProvider := congrArg ProfileSyncPeerDiscoveryFreshnessKey.providerId sameKey
    exact ⟨kept, isKept, sameNode.trans ofNode, sameProvider.trans ofProvider⟩

/-- The first result of its key, in the order of the protocols and the providers. -/
def FirstOffered (query : ProfileSyncPeerDiscoveryQuery)
    (providers : List ProfileSyncPeerDiscoveryProvider)
    (result : ProfileSyncPeerDiscoveryResult) : Prop :=
  (LatestRows.ofKey ProfileSyncPeerDiscoveryResult.seenKey result.seenKey
    (offeredResults query providers)).head? = some result

/-- The composite returns a trusted peer exactly if the query is valid, all providers answer
it, no first result of its key makes the trust checks fail, and one that is of the peer
would be accepted alone. Later results of its key are of no account. -/
theorem composite_trustsPeer_iff
    (room : (allResults query providers).length < query.maxPeers) :
    (∃ report, discoverTrustedProfileSyncPeers format isSocketAddr scheme profile
        (compositeDiscoverProfileSyncPeers providers) query db = .ok report ∧
      TrustsPeer nodeId providerId report) ↔
    query.validate = .ok () ∧ AllAnswer query providers query.protocols ∧
      (∀ result, FirstOffered query providers result →
        ¬ Unanswerable query.networkId db result) ∧
      ∃ first, FirstOffered query providers first ∧ first.advertisement.nodeId = nodeId ∧
        first.advertisement.providerId = providerId ∧
        AcceptedAlone format isSocketAddr scheme profile query.networkId db first := by
  have kept : ∀ result, result ∈ LatestRows.putFirst ProfileSyncPeerDiscoveryResult.seenKey
      (offeredResults query providers) ↔ FirstOffered query providers result :=
    fun result => LatestRows.mem_putFirst_iff
  constructor
  · rintro ⟨report, discovered, trusts⟩
    obtain ⟨candidates, found, filtered⟩ := bind_eq_ok_iff.mp discovered
    obtain ⟨valid, answered, rfl⟩ := (composite_eq_ok_iff room).mp (mapError_eq_ok_iff.mp found)
    have filtered := mapError_eq_ok_iff.mp filtered
    refine ⟨valid, answered, ?_, ?_⟩
    · intro result isFirst
      exact filterTrusted_succeeds_iff.mp ⟨report, filtered⟩ result ((kept result).mpr isFirst)
    · obtain ⟨first, isKept, isOfPeer⟩ := (trustsPeer_iff filtered).mp trusts
      exact ⟨first, (kept first).mp isKept, isOfPeer⟩
  · rintro ⟨valid, answered, answerable, first, isFirst, isOfPeer⟩
    have found := (composite_eq_ok_iff room).mpr ⟨valid, answered, rfl⟩
    obtain ⟨report, filtered⟩ := filterTrusted_succeeds_iff.mpr fun result isKept =>
      answerable result ((kept result).mp isKept)
    refine ⟨report, ?_, (trustsPeer_iff filtered).mpr ⟨first, (kept first).mpr isFirst, isOfPeer⟩⟩
    exact bind_eq_ok_iff.mpr ⟨_, mapError_eq_ok_iff.mpr found, mapError_eq_ok_iff.mpr filtered⟩

end Trust

section Sample

/-- A provider that has these results for one protocol. -/
def answering (protocol : ProfileSyncPeerDiscoveryProtocol)
    (results : List ProfileSyncPeerDiscoveryResult) : ProfileSyncPeerDiscoveryProvider :=
  fun query => .ok (if protocol ∈ query.protocols then results else [])

/-- What the phone advertises, without its signature. -/
def unsignedResult : ProfileSyncPeerDiscoveryResult where
  protocol := .ipns
  discoveryNamespace := "slate-profile-sync"
  advertisement := phoneAdvertisement ["profile-sync/service-frame-tcp"] 3

def laptopQuery : ProfileSyncPeerDiscoveryQuery where
  networkId := "home"
  requesterNodeId := "laptop"
  discoveryNamespace := "slate-profile-sync"
  protocols := [.ipns]
  maxPeers := 3

def discoverFrom (providers : List ProfileSyncPeerDiscoveryProvider) :
    Except ProfileSyncPeerDiscoveryError TrustedProfileSyncPeerDiscoveryReport :=
  discoverTrustedProfileSyncPeers .compact (fun _ => false) checksumScheme "default"
    (compositeDiscoverProfileSyncPeers providers) laptopQuery laptopTrustingPhone

/-- An advertisement that would be trusted is suppressed by one without a signature that
another provider returns. -/
theorem unsigned_result_suppresses_signed :
    (filterSample [] [plainResult]).map (·.trustedPeers) = .ok [plainResult] ∧
      plainResult ∈ allResults laptopQuery
        [answering .ipns [unsignedResult], answering .ipns [plainResult]] ∧
      (allResults laptopQuery
        [answering .ipns [unsignedResult], answering .ipns [plainResult]]).length <
          laptopQuery.maxPeers ∧
      (discoverFrom [answering .ipns [unsignedResult], answering .ipns [plainResult]]).toOption.map
        (·.trustedPeers) = some [] ∧
      (discoverFrom [answering .ipns [plainResult], answering .ipns [unsignedResult]]).toOption.map
        (·.trustedPeers) = some [plainResult] := by
  decide +kernel

/-- The other way round the composite trusts the phone. -/
theorem signed_result_first_trusted :
    (allResults laptopQuery
      [answering .ipns [plainResult], answering .ipns [unsignedResult]]).length <
        laptopQuery.maxPeers ∧
    ((∃ report, discoverFrom [answering .ipns [plainResult], answering .ipns [unsignedResult]] =
        .ok report ∧ TrustsPeer "phone" "phone-provider" report) ↔
      laptopQuery.validate = .ok () ∧
      AllAnswer laptopQuery [answering .ipns [plainResult], answering .ipns [unsignedResult]]
        laptopQuery.protocols ∧
      (∀ result, FirstOffered laptopQuery
          [answering .ipns [plainResult], answering .ipns [unsignedResult]] result →
        ¬ Unanswerable laptopQuery.networkId laptopTrustingPhone result) ∧
      ∃ first, FirstOffered laptopQuery
          [answering .ipns [plainResult], answering .ipns [unsignedResult]] first ∧
        first.advertisement.nodeId = "phone" ∧
        first.advertisement.providerId = "phone-provider" ∧
        AcceptedAlone .compact (fun _ => false) checksumScheme "default" laptopQuery.networkId
          laptopTrustingPhone first) :=
  ⟨by decide +kernel, composite_trustsPeer_iff (by decide +kernel)⟩

end Sample

end Slate.ProfileSync
