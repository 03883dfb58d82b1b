import Mathlib.Algebra.GroupWithZero.Nat
import Slate.Broadwebd.PeerDiscovery
import Slate.Foundation.LatestRows
import Slate.ProfileSync.DiscoveryTrust

/-!
# The trust filter of peer discovery

Discovered candidates are sorted into trusted and rejected ones. Those that verify are
thinned out to the freshest of every protocol, namespace, network, node and provider, kept
in a vector that a map of their keys points into; at last those without a required
capability are taken out.
-/

namespace Slate.ProfileSync

open Slate.Foundation Slate.Storage Slate.Broadwebd
open Slate.Storage.SlateProfileDatabase

structure RejectedProfileSyncPeerDiscoveryCandidate where
  protocol : ProfileSyncPeerDiscoveryProtocol
  discoveryNamespace : String
  networkId : String
  nodeId : String
  providerId : String
  reason : ProfileSyncPeerDiscoveryTrustRejection
deriving DecidableEq, Repr

structure TrustedProfileSyncPeerDiscoveryReport where
  trustedPeers : List ProfileSyncPeerDiscoveryResult
  rejectedPeers : List RejectedProfileSyncPeerDiscoveryCandidate
deriving DecidableEq, Repr

structure ProfileSyncPeerDiscoveryFreshnessKey where
  protocol : ProfileSyncPeerDiscoveryProtocol
  discoveryNamespace : String
  networkId : String
  nodeId : String
  providerId : String
deriving DecidableEq, Repr

namespace ProfileSyncPeerDiscoveryFreshnessKey

def fromResult (result : ProfileSyncPeerDiscoveryResult) :
    ProfileSyncPeerDiscoveryFreshnessKey where
  protocol := result.protocol
  discoveryNamespace := result.discoveryNamespace
  networkId := result.advertisement.networkId
  nodeId := result.advertisement.nodeId
  providerId := result.advertisement.providerId

end ProfileSyncPeerDiscoveryFreshnessKey

section Filter

def rejectedDiscoveryCandidate (candidate : ProfileSyncPeerDiscoveryResult)
    (reason : ProfileSyncPeerDiscoveryTrustRejection) :
    RejectedProfileSyncPeerDiscoveryCandidate where
  protocol := candidate.protocol
  discoveryNamespace := candidate.discoveryNamespace
  networkId := candidate.advertisement.networkId
  nodeId := candidate.advertisement.nodeId
  providerId := candidate.advertisement.providerId
  reason

/-- The variables of the freshness loop. -/
structure FreshnessState where
  freshestByKey : List (ProfileSyncPeerDiscoveryFreshnessKey × Nat)
  freshest : List (Option ProfileSyncPeerDiscoveryResult)
  rejectedPeers : List RejectedProfileSyncPeerDiscoveryCandidate

def freshenCandidate (state : FreshnessState) (candidate : ProfileSyncPeerDiscoveryResult) :
    FreshnessState :=
  let key := ProfileSyncPeerDiscoveryFreshnessKey.fromResult candidate
  let candidateSequence := candidate.advertisement.sequence
  match LatestRows.position key state.freshestByKey with
  | some existingIndex =>
      match state.freshest[existingIndex]? with
      | some (some existing) =>
          let existingSequence := existing.advertisement.sequence
          if candidateSequence > existingSequence then
            { state with
              freshest := state.freshest.set existingIndex (some candidate)
              rejectedPeers := state.rejectedPeers ++
                [rejectedDiscoveryCandidate existing .staleDiscoverySequence] }
          else if candidateSequence = existingSequence then
            { state with
              rejectedPeers := state.rejectedPeers ++
                [rejectedDiscoveryCandidate candidate .replayedDiscoverySequence] }
          else
            { state with
              rejectedPeers := state.rejectedPeers ++
                [rejectedDiscoveryCandidate candidate .staleDiscoverySequence] }
      -- The source panics here; a key always points at an accepted candidate.
      | _ => state
  | none =>
      { state with
        freshestByKey := state.freshestByKey ++ [(key, state.freshest.length)]
        freshest := state.freshest ++ [some candidate] }

/-- The freshest candidates, and the rejections with those of the stale ones. -/
def freshestTrustedProfileSyncPeerDiscoveryResults
    (candidates : List ProfileSyncPeerDiscoveryResult)
    (rejectedPeers : List RejectedProfileSyncPeerDiscoveryCandidate) :
    TrustedProfileSyncPeerDiscoveryReport :=
  let state := candidates.foldl freshenCandidate
    { freshestByKey := [], freshest := [], rejectedPeers }
  { trustedPeers := state.freshest.filterMap id, rejectedPeers := state.rejectedPeers }

def hasRequiredCapabilities (requiredCapabilities : List String)
    (peer : ProfileSyncPeerDiscoveryResult) : Bool :=
  requiredCapabilities.all fun capability => peer.advertisement.hasCapability capability

def requireProfileSyncPeerDiscoveryCapabilities (requiredCapabilities : List String)
    (report : TrustedProfileSyncPeerDiscoveryReport) : TrustedProfileSyncPeerDiscoveryReport :=
  if requiredCapabilities = [] then report
  else
    report.trustedPeers.foldl
      (fun filtered peer =>
        if hasRequiredCapabilities requiredCapabilities peer then
          { filtered with trustedPeers := filtered.trustedPeers ++ [peer] }
        else
          { filtered with
            rejectedPeers := filtered.rejectedPeers ++
              [rejectedDiscoveryCandidate peer .missingRequiredCapability] })
      { trustedPeers := [], rejectedPeers := report.rejectedPeers }

variable (format : JsonFormat) (isSocketAddr : String → Bool) (scheme : SyncObjectScheme)

def verifyCandidates (profile networkId : String) (db : SlateProfileDatabase) :
    List ProfileSyncPeerDiscoveryResult → TrustedProfileSyncPeerDiscoveryReport →
    Except StorageError TrustedProfileSyncPeerDiscoveryReport
  | [], report => .ok report
  | candidate :: rest, report => do
      match ← profileSyncPeerDiscoveryTrustRejection format isSocketAddr scheme profile networkId
        candidate.advertisement db with
      | some reason =>
          verifyCandidates profile networkId db rest
            { report with
              rejectedPeers := report.rejectedPeers ++
                [rejectedDiscoveryCandidate candidate reason] }
      | none =>
          verifyCandidates profile networkId db rest
            { report with trustedPeers := report.trustedPeers ++ [candidate] }

def filterTrustedProfileSyncPeerDiscoveryResultsWithRequiredCapabilities
    (profile networkId : String) (requiredCapabilities : List String)
    (candidates : List ProfileSyncPeerDiscoveryResult) (db : SlateProfileDatabase) :
    Except StorageError TrustedProfileSyncPeerDiscoveryReport := do
  let report ← verifyCandidates format isSocketAddr scheme profile networkId db candidates
    { trustedPeers := [], rejectedPeers := [] }
  let freshReport := freshestTrustedProfileSyncPeerDiscoveryResults report.trustedPeers
    report.rejectedPeers
  pure (requireProfileSyncPeerDiscoveryCapabilities requiredCapabilities freshReport)

/-- Without required capabilities. -/
def filterTrustedProfileSyncPeerDiscoveryResults (profile networkId : String) :=
  filterTrustedProfileSyncPeerDiscoveryResultsWithRequiredCapabilities format isSocketAddr scheme
    profile networkId []

end Filter

section Freshness

/-- Candidates of one key are ordered by their sequence. -/
def discoverySequence (candidate : ProfileSyncPeerDiscoveryResult) : Nat :=
  candidate.advertisement.sequence

/-- The freshest candidate of every key; the first one of equally fresh ones. -/
def freshestOf (candidates : List ProfileSyncPeerDiscoveryResult) :
    List ProfileSyncPeerDiscoveryResult :=
  LatestRows.putAll ProfileSyncPeerDiscoveryFreshnessKey.fromResult discoverySequence candidates

/-- Rejected candidates, each with its reason. -/
abbrev Refusals :=
  List (ProfileSyncPeerDiscoveryResult × ProfileSyncPeerDiscoveryTrustRejection)

def Refusals.reported (refusals : Refusals) : List RejectedProfileSyncPeerDiscoveryCandidate :=
  refusals.map fun refusal => rejectedDiscoveryCandidate refusal.1 refusal.2

theorem Refusals.reported_append (first second : Refusals) :
    Refusals.reported (first ++ second) = first.reported ++ second.reported :=
  List.map_append

/-- Of the candidates some are kept and the others are refused, each of them once. -/
def SplitsInto (candidates kept : List ProfileSyncPeerDiscoveryResult) (refusals : Refusals) :
    Prop :=
  candidates.Perm (kept ++ refusals.map Prod.fst)

/-- The loop keeps the freshest candidates in the vector, the map of keys points into it, and
every other candidate is rejected. -/
structure FreshnessInvariant (seen : List ProfileSyncPeerDiscoveryResult)
    (rejectedBefore : List RejectedProfileSyncPeerDiscoveryCandidate) (state : FreshnessState) :
    Prop where
  freshest : state.freshest = (freshestOf seen).map some
  freshestByKey : state.freshestByKey =
    LatestRows.index ProfileSyncPeerDiscoveryFreshnessKey.fromResult (freshestOf seen)
  refused : ∃ refusals : Refusals,
    state.rejectedPeers = rejectedBefore ++ refusals.reported ∧
      SplitsInto seen (freshestOf seen) refusals

variable {seen : List ProfileSyncPeerDiscoveryResult}
  {rejectedBefore : List RejectedProfileSyncPeerDiscoveryCandidate} {state : FreshnessState}

theorem freshestOf_concat (candidate : ProfileSyncPeerDiscoveryResult) :
    freshestOf (seen ++ [candidate]) =
      LatestRows.put ProfileSyncPeerDiscoveryFreshnessKey.fromResult discoverySequence
        (freshestOf seen) candidate :=
  LatestRows.putAll_concat seen candidate

/-- A candidate that is refused itself. -/
theorem SplitsInto.refuse {kept : List ProfileSyncPeerDiscoveryResult} {refusals : Refusals}
    (split : SplitsInto seen kept refusals) (candidate : ProfileSyncPeerDiscoveryResult)
    (reason : ProfileSyncPeerDiscoveryTrustRejection) :
    SplitsInto (seen ++ [candidate]) kept (refusals ++ [(candidate, reason)]) := by
  unfold SplitsInto
  rw [List.map_append, ← List.append_assoc]
  exact split.append_right [candidate]

/-- A candidate that is kept at the end. -/
theorem SplitsInto.keep {kept : List ProfileSyncPeerDiscoveryResult} {refusals : Refusals}
    (split : SplitsInto seen kept refusals) (candidate : ProfileSyncPeerDiscoveryResult) :
    SplitsInto (seen ++ [candidate]) (kept ++ [candidate]) refusals := by
  have moved : (seen ++ [candidate]).Perm (kept ++ (refusals.map Prod.fst ++ [candidate])) := by
    rw [← List.append_assoc]
    exact split.append_right [candidate]
  rw [SplitsInto, List.append_assoc]
  exact moved.trans (List.perm_append_comm.append_left kept)

/-- A candidate that takes the place of one that is refused instead. -/
theorem SplitsInto.displace {kept : List ProfileSyncPeerDiscoveryResult} {refusals : Refusals}
    (split : SplitsInto seen kept refusals) {candidate existing : ProfileSyncPeerDiscoveryResult}
    {place : Nat} (stands : kept[place]? = some existing)
    (reason : ProfileSyncPeerDiscoveryTrustRejection) :
    SplitsInto (seen ++ [candidate]) (kept.set place candidate)
      (refusals ++ [(existing, reason)]) := by
  have exchanged := (@LatestRows.cons_set_perm _ candidate _ _ _ stands).symm
  unfold SplitsInto
  rw [List.map_append, ← List.append_assoc]
  calc (seen ++ [candidate]).Perm ((kept ++ refusals.map Prod.fst) ++ [candidate]) :=
        split.append_right [candidate]
    List.Perm _ (candidate :: kept ++ refusals.map Prod.fst) := List.perm_append_singleton _ _
    List.Perm _ (existing :: kept.set place candidate ++ refusals.map Prod.fst) :=
        exchanged.append_right _
    List.Perm _ ((kept.set place candidate ++ refusals.map Prod.fst) ++ [existing]) :=
        (List.perm_append_singleton _ _).symm

/-- A candidate that changes nothing but the rejections. -/
theorem FreshnessInvariant.refuse (invariant : FreshnessInvariant seen rejectedBefore state)
    {candidate : ProfileSyncPeerDiscoveryResult}
    (unchanged : freshestOf (seen ++ [candidate]) = freshestOf seen)
    (reason : ProfileSyncPeerDiscoveryTrustRejection) :
    FreshnessInvariant (seen ++ [candidate]) rejectedBefore
      { state with
        rejectedPeers := state.rejectedPeers ++
          [rejectedDiscoveryCandidate candidate reason] } := by
  obtain ⟨freshest, freshestByKey, refusals, rejected, split⟩ := invariant
  refine ⟨?_, ?_, refusals ++ [(candidate, reason)], ?_, ?_⟩
  · rw [unchanged, freshest]
  · rw [unchanged, freshestByKey]
  · rw [rejected, Refusals.reported_append, List.append_assoc]
    rfl
  · rw [unchanged]
    exact split.refuse candidate reason

theorem FreshnessInvariant.step (invariant : FreshnessInvariant seen rejectedBefore state)
    (candidate : ProfileSyncPeerDiscoveryResult) :
    FreshnessInvariant (seen ++ [candidate]) rejectedBefore (freshenCandidate state candidate) := by
  have freshest := invariant.freshest
  have freshestByKey := invariant.freshestByKey
  obtain ⟨refusals, rejected, split⟩ := invariant.refused
  unfold freshenCandidate
  cases found : LatestRows.position (ProfileSyncPeerDiscoveryFreshnessKey.fromResult candidate)
      (LatestRows.index ProfileSyncPeerDiscoveryFreshnessKey.fromResult (freshestOf seen)) with
  | none =>
      simp only [freshestByKey, found]
      have grown : freshestOf (seen ++ [candidate]) = freshestOf seen ++ [candidate] := by
        rw [freshestOf_concat, LatestRows.put_of_position_eq_none found]
      refine ⟨?_, ?_, refusals, rejected, ?_⟩
      · simp only [grown, freshest, List.map_append, List.map_cons, List.map_nil]
      · simp only [grown, LatestRows.index_concat, freshest, List.length_map]
      · rw [grown]
        exact split.keep candidate
  | some place =>
      have unique : Rows.UniqueKeys ProfileSyncPeerDiscoveryFreshnessKey.fromResult
          (freshestOf seen) := LatestRows.uniqueKeys_putAll seen
      obtain ⟨existing, stands, sameKey, placed⟩ :=
        @LatestRows.put_of_position_eq_some _ _ _ _ _ _ discoverySequence _ _ unique _ found
      have sameIndex := @LatestRows.index_put_of_position_eq_some _ _ _ _ _ _ discoverySequence
        _ _ _ found
      rw [← freshestOf_concat] at placed sameIndex
      have standsInState : state.freshest[place]? = some (some existing) := by
        rw [freshest, List.getElem?_map, stands]
        rfl
      simp only [freshestByKey, found, standsInState]
      by_cases fresher : existing.advertisement.sequence < candidate.advertisement.sequence
      · rw [if_pos fresher]
        have kept : LatestRows.keepLater discoverySequence existing candidate = candidate :=
          if_neg (not_le.mpr fresher)
        rw [kept] at placed
        refine ⟨?_, sameIndex.symm, refusals ++ [(existing, .staleDiscoverySequence)], ?_, ?_⟩
        · rw [placed, freshest, List.map_set]
        · rw [rejected, Refusals.reported_append, List.append_assoc]
          rfl
        · rw [placed]
          exact split.displace stands _
      · rw [if_neg fresher]
        have kept : LatestRows.keepLater discoverySequence existing candidate = existing :=
          if_pos (not_lt.mp fresher)
        have unchanged : freshestOf (seen ++ [candidate]) = freshestOf seen := by
          obtain ⟨inBounds, isExisting⟩ := List.getElem?_eq_some_iff.mp stands
          rw [placed, kept, ← isExisting, List.set_getElem_self]
        have refused := invariant.refuse unchanged
        rw [freshestByKey] at refused
        split
        · exact refused _
        · exact refused _

/-- What the loop leaves behind. -/
theorem freshnessInvariant_foldl (candidates : List ProfileSyncPeerDiscoveryResult)
    (rejectedBefore : List RejectedProfileSyncPeerDiscoveryCandidate) :
    FreshnessInvariant candidates rejectedBefore
      (candidates.foldl freshenCandidate
        { freshestByKey := [], freshest := [], rejectedPeers := rejectedBefore }) := by
  induction candidates using List.reverseRecOn with
  | nil => exact ⟨rfl, rfl, [], (List.append_nil _).symm, .refl _⟩
  | append_singleton seen candidate inductionHypothesis =>
      rw [List.foldl_append]
      exact inductionHypothesis.step candidate

theorem freshestTrusted_eq (candidates : List ProfileSyncPeerDiscoveryResult)
    (rejectedBefore : List RejectedProfileSyncPeerDiscoveryCandidate) :
    ∃ refusals : Refusals, SplitsInto candidates (freshestOf candidates) refusals ∧
      freshestTrustedProfileSyncPeerDiscoveryResults candidates rejectedBefore =
        { trustedPeers := freshestOf candidates
          rejectedPeers := rejectedBefore ++ refusals.reported } := by
  obtain ⟨freshest, -, refusals, rejected, split⟩ :=
    freshnessInvariant_foldl candidates rejectedBefore
  refine ⟨refusals, split, ?_⟩
  unfold freshestTrustedProfileSyncPeerDiscoveryResults
  simp only [freshest, rejected, List.filterMap_map, Function.id_comp, List.filterMap_some]

end Freshness

section Capabilities

/-- Candidates with a property are kept, the others refused for the same reason. -/
theorem splitsInto_filter (candidates : List ProfileSyncPeerDiscoveryResult)
    (keeps : ProfileSyncPeerDiscoveryResult → Bool)
    (reason : ProfileSyncPeerDiscoveryTrustRejection) :
    SplitsInto candidates (candidates.filter keeps)
      ((candidates.filter fun candidate => !keeps candidate).map (·, reason)) := by
  have same : Prod.fst ∘ (fun candidate : ProfileSyncPeerDiscoveryResult => (candidate, reason)) =
      id := rfl
  rw [SplitsInto, List.map_map, same, List.map_id]
  exact (List.filter_append_perm keeps candidates).symm

/-- The peers that lack a required capability. -/
def lackingCapabilities (requiredCapabilities : List String)
    (peers : List ProfileSyncPeerDiscoveryResult) : Refusals :=
  (peers.filter fun peer => !hasRequiredCapabilities requiredCapabilities peer).map
    (·, .missingRequiredCapability)

theorem requireCapabilities_eq (requiredCapabilities : List String)
    (report : TrustedProfileSyncPeerDiscoveryReport) :
    requireProfileSyncPeerDiscoveryCapabilities requiredCapabilities report =
      { trustedPeers :=
          report.trustedPeers.filter (hasRequiredCapabilities requiredCapabilities)
        rejectedPeers := report.rejectedPeers ++
          (lackingCapabilities requiredCapabilities report.trustedPeers).reported } := by
  unfold requireProfileSyncPeerDiscoveryCapabilities
  by_cases noneRequired : requiredCapabilities = []
  · subst noneRequired
    have all : ∀ peer, hasRequiredCapabilities [] peer = true := fun _ => rfl
    have keepsAll : report.trustedPeers.filter (hasRequiredCapabilities []) =
        report.trustedPeers := List.filter_eq_self.mpr fun peer _ => all peer
    simp [all, keepsAll, lackingCapabilities, Refusals.reported]
  rw [if_neg noneRequired]
  induction report.trustedPeers using List.reverseRecOn with
  | nil => simp [lackingCapabilities, Refusals.reported]
  | append_singleton peers peer inductionHypothesis =>
      rw [List.foldl_append, inductionHypothesis, List.foldl_cons, List.foldl_nil]
      by_cases has : hasRequiredCapabilities requiredCapabilities peer = true
      · simp [has, lackingCapabilities]
      · simp [has, lackingCapabilities, Refusals.reported]

end Capabilities

section Verification

variable {format : JsonFormat} {isSocketAddr : String → Bool} {scheme : SyncObjectScheme}
  {profile networkId : String} {db : SlateProfileDatabase}

/-- The candidate passes the trust checks. -/
def verifies (format : JsonFormat) (isSocketAddr : String → Bool) (scheme : SyncObjectScheme)
    (profile networkId : String) (db : SlateProfileDatabase)
    (candidate : ProfileSyncPeerDiscoveryResult) : Bool :=
  match profileSyncPeerDiscoveryTrustRejection format isSocketAddr scheme profile networkId
    candidate.advertisement db with
  | .ok none => true
  | _ => false

/-- The trust checks of the candidate fail with a storage error: it would be looked up under
an id that no device has. -/
def Unanswerable (networkId : String) (db : SlateProfileDatabase)
    (candidate : ProfileSyncPeerDiscoveryResult) : Prop :=
  candidate.advertisement.networkId = networkId ∧
    candidate.advertisement.nodeId ≠ db.localSyncDeviceId ∧
    candidate.advertisement.supportsProfileSyncServiceFrames = true ∧
    isValidSyncIdentifier candidate.advertisement.nodeId = false

theorem verifyCandidates_eq_ok {candidates : List ProfileSyncPeerDiscoveryResult}
    {before report : TrustedProfileSyncPeerDiscoveryReport}
    (verified : verifyCandidates format isSocketAddr scheme profile networkId db candidates
      before = .ok report) :
    ∃ refusals : Refusals,
      SplitsInto candidates
        (candidates.filter (verifies format isSocketAddr scheme profile networkId db)) refusals ∧
      report =
        { trustedPeers := before.trustedPeers ++
            candidates.filter (verifies format isSocketAddr scheme profile networkId db)
          rejectedPeers := before.rejectedPeers ++ refusals.reported } := by
  induction candidates generalizing before with
  | nil =>
      obtain rfl := Except.ok.inj verified
      exact ⟨[], .refl _, by simp [Refusals.reported]⟩
  | cons candidate rest inductionHypothesis =>
      rw [verifyCandidates] at verified
      obtain ⟨verdict, judged, verified⟩ := bind_eq_ok_iff.mp verified
      cases verdict with
      | none =>
          have passes : verifies format isSocketAddr scheme profile networkId db candidate =
              true := by rw [verifies, judged]
          obtain ⟨refusals, split, rfl⟩ := inductionHypothesis verified
          refine ⟨refusals, ?_, ?_⟩
          · rw [List.filter_cons_of_pos passes]
            exact split.cons candidate
          · simp [List.filter_cons_of_pos passes]
      | some reason =>
          have fails : ¬ verifies format isSocketAddr scheme profile networkId db candidate =
              true := by simp [verifies, judged]
          obtain ⟨refusals, split, rfl⟩ := inductionHypothesis verified
          refine ⟨(candidate, reason) :: refusals, ?_, ?_⟩
          · rw [List.filter_cons_of_neg fails]
            exact (split.cons candidate).trans List.perm_middle.symm
          · simp [List.filter_cons_of_neg fails, Refusals.reported]

/-- Only an id that no device has makes the trust checks of a candidate fail. -/
theorem judged_iff {candidate : ProfileSyncPeerDiscoveryResult} :
    (∃ verdict, profileSyncPeerDiscoveryTrustRejection format isSocketAddr scheme profile
      networkId candidate.advertisement db = .ok verdict) ↔
      ¬ Unanswerable networkId db candidate := by
  unfold profileSyncPeerDiscoveryTrustRejection Unanswerable
  by_cases ofNetwork : candidate.advertisement.networkId = networkId
  · by_cases isLocal : candidate.advertisement.nodeId = db.localSyncDeviceId
    · simp [ofNetwork, isLocal, pure, Except.pure]
    by_cases supports : candidate.advertisement.supportsProfileSyncServiceFrames = true
    · by_cases valid : isValidSyncIdentifier candidate.advertisement.nodeId = true
      · have answerable : ¬ (isValidSyncIdentifier candidate.advertisement.nodeId = false) := by
          simp [valid]
        refine iff_of_true ?_ fun unanswerable => answerable unanswerable.2.2.2
        simp only [ofNetwork, isLocal, supports, valid, syncDevicePublicKey, bind, Except.bind,
          ne_eq, not_true_eq_false, if_false, Bool.not_true, Bool.false_eq_true, if_true]
        -- Whatever the key and the signature are, there is a verdict.
        repeat' split
        all_goals exact ⟨_, rfl⟩
      · simp [ofNetwork, isLocal, supports, valid, syncDevicePublicKey, bind, Except.bind]
    · simp [ofNetwork, isLocal, supports, pure, Except.pure]
  · simp [ofNetwork, pure, Except.pure]

theorem verifyCandidates_succeeds_iff {candidates : List ProfileSyncPeerDiscoveryResult}
    {before : TrustedProfileSyncPeerDiscoveryReport} :
    (∃ report, verifyCandidates format isSocketAddr scheme profile networkId db candidates
      before = .ok report) ↔ ∀ candidate ∈ candidates, ¬ Unanswerable networkId db candidate := by
  induction candidates generalizing before with
  | nil => simp [verifyCandidates]
  | cons candidate rest inductionHypothesis =>
      rw [verifyCandidates, List.forall_mem_cons,
        ← @judged_iff format isSocketAddr scheme profile networkId db candidate]
      constructor
      · rintro ⟨report, verified⟩
        obtain ⟨verdict, judged, verified⟩ := bind_eq_ok_iff.mp verified
        refine ⟨⟨verdict, judged⟩, ?_⟩
        cases verdict with
        | none => exact inductionHypothesis.mp ⟨report, verified⟩
        | some reason => exact inductionHypothesis.mp ⟨report, verified⟩
      · rintro ⟨⟨verdict, judged⟩, others⟩
        cases verdict with
        | none =>
            obtain ⟨report, verified⟩ := inductionHypothesis.mpr others
            exact ⟨report, bind_eq_ok_iff.mpr ⟨none, judged, verified⟩⟩
        | some reason =>
            obtain ⟨report, verified⟩ := inductionHypothesis.mpr others
            exact ⟨report, bind_eq_ok_iff.mpr ⟨some reason, judged, verified⟩⟩

/-- The candidate is on the network, is another device's, and was signed by the key that the
database trusts for its node, which is not younger than the advertisement. -/
structure VerifiedCandidate (format : JsonFormat) (isSocketAddr : String → Bool)
    (scheme : SyncObjectScheme) (profile networkId : String) (db : SlateProfileDatabase)
    (candidate : ProfileSyncPeerDiscoveryResult) : Prop where
  network : candidate.advertisement.networkId = networkId
  otherDevice : candidate.advertisement.nodeId ≠ db.localSyncDeviceId
  signed : ∃ record signature payload,
    db.syncDevicePublicKey profile candidate.advertisement.nodeId = .ok (some record) ∧
      record.trusted = true ∧ record.membershipEpoch ≤ candidate.advertisement.membershipEpoch ∧
      candidate.advertisement.identitySignature = some signature ∧
      signature.publicKey = record.publicKey.bytes ∧
      candidate.advertisement.signingPayloadBytes format isSocketAddr = .ok payload ∧
      scheme.verifyPayload record.publicKey.bytes payload signature.signature = true

theorem verifiedCandidate_of_verifies {candidate : ProfileSyncPeerDiscoveryResult}
    (passes : verifies format isSocketAddr scheme profile networkId db candidate = true) :
    VerifiedCandidate format isSocketAddr scheme profile networkId db candidate := by
  have judged : profileSyncPeerDiscoveryTrustRejection format isSocketAddr scheme profile
      networkId candidate.advertisement db = .ok none := by
    unfold verifies at passes
    split at passes
    · assumption
    · cases passes
  unfold profileSyncPeerDiscoveryTrustRejection at judged
  split at judged
  · cases judged
  rename_i ofNetwork
  split at judged
  · cases judged
  rename_i otherDevice
  split at judged
  · cases judged
  obtain ⟨found, looked, judged⟩ := bind_eq_ok_iff.mp judged
  split at judged
  · rename_i record
    split at judged
    · cases judged
    rename_i trusted
    split at judged
    · cases judged
    rename_i oldEnough
    split at judged
    · rename_i signature identified
      split at judged
      · cases judged
      split at judged
      · cases judged
      rename_i sameKey
      split at judged
      · rename_i payload written
        dsimp only at judged
        split at judged
        · cases judged
        · rename_i verified
          exact ⟨not_not.mp ofNetwork, otherDevice, record, signature, payload, looked,
            by simpa using trusted, not_lt.mp oldEnough, identified, not_not.mp sameKey, written,
            (verifyWith_eq_ok verified).2⟩
      · cases judged
    · cases judged
  · cases judged

end Verification

section Report

variable {format : JsonFormat} {isSocketAddr : String → Bool} {scheme : SyncObjectScheme}
  {profile networkId : String} {requiredCapabilities : List String}
  {candidates : List ProfileSyncPeerDiscoveryResult} {db : SlateProfileDatabase}
  {report : TrustedProfileSyncPeerDiscoveryReport}

/-- What was kept of the candidates is split up further. -/
theorem SplitsInto.trans {kept : List ProfileSyncPeerDiscoveryResult}
    {later : List ProfileSyncPeerDiscoveryResult} {refusals others : Refusals}
    (first : SplitsInto candidates kept refusals) (second : SplitsInto kept later others) :
    SplitsInto candidates later (refusals ++ others) := by
  unfold SplitsInto at first second ⊢
  rw [List.map_append]
  calc candidates.Perm (kept ++ refusals.map Prod.fst) := first
    List.Perm _ (later ++ others.map Prod.fst ++ refusals.map Prod.fst) :=
        second.append_right _
    List.Perm _ (later ++ (refusals.map Prod.fst ++ others.map Prod.fst)) := by
        rw [List.append_assoc]
        exact List.perm_append_comm.append_left later

/-- What the filter trusts of the candidates that verify. -/
def trustedOf (requiredCapabilities : List String)
    (verifying : List ProfileSyncPeerDiscoveryResult) : List ProfileSyncPeerDiscoveryResult :=
  (freshestOf verifying).filter (hasRequiredCapabilities requiredCapabilities)

theorem filterTrusted_eq_ok
    (filtered : filterTrustedProfileSyncPeerDiscoveryResultsWithRequiredCapabilities format
      isSocketAddr scheme profile networkId requiredCapabilities candidates db = .ok report) :
    report.trustedPeers = trustedOf requiredCapabilities
        (candidates.filter (verifies format isSocketAddr scheme profile networkId db)) ∧
      ∃ refusals : Refusals, SplitsInto candidates report.trustedPeers refusals ∧
        report.rejectedPeers = refusals.reported := by
  obtain ⟨verified, isVerified, built⟩ := bind_eq_ok_iff.mp filtered
  obtain ⟨refusals, split, rfl⟩ := verifyCandidates_eq_ok isVerified
  obtain ⟨stale, freshSplit, isFresh⟩ := freshestTrusted_eq
    (candidates.filter (verifies format isSocketAddr scheme profile networkId db))
    refusals.reported
  obtain rfl := Except.ok.inj built
  simp only [List.nil_append, isFresh, requireCapabilities_eq]
  have lacking := splitsInto_filter (freshestOf
    (candidates.filter (verifies format isSocketAddr scheme profile networkId db)))
    (hasRequiredCapabilities requiredCapabilities) .missingRequiredCapability
  refine ⟨rfl, refusals ++ stale ++ _, (split.trans freshSplit).trans lacking, ?_⟩
  rw [Refusals.reported_append, Refusals.reported_append]
  rfl

theorem filterTrusted_succeeds_iff :
    (∃ report, filterTrustedProfileSyncPeerDiscoveryResultsWithRequiredCapabilities format
      isSocketAddr scheme profile networkId requiredCapabilities candidates db = .ok report) ↔
      ∀ candidate ∈ candidates, ¬ Unanswerable networkId db candidate := by
  rw [← @verifyCandidates_succeeds_iff format isSocketAddr scheme profile networkId db candidates
    { trustedPeers := [], rejectedPeers := [] }]
  constructor
  · rintro ⟨report, filtered⟩
    obtain ⟨verified, isVerified, -⟩ := bind_eq_ok_iff.mp filtered
    exact ⟨verified, isVerified⟩
  · rintro ⟨verified, isVerified⟩
    exact ⟨_, bind_eq_ok_iff.mpr ⟨verified, isVerified, rfl⟩⟩

end Report

section Order

variable {requiredCapabilities : List String}
  {verifying other : List ProfileSyncPeerDiscoveryResult}

/-- No candidate of the same key is fresher. -/
def Freshest (verifying : List ProfileSyncPeerDiscoveryResult)
    (candidate : ProfileSyncPeerDiscoveryResult) : Prop :=
  ∀ other ∈ verifying, ProfileSyncPeerDiscoveryFreshnessKey.fromResult other =
      ProfileSyncPeerDiscoveryFreshnessKey.fromResult candidate →
    discoverySequence other ≤ discoverySequence candidate

/-- One of the peers has this key and this sequence. -/
def HasPair (peers : List ProfileSyncPeerDiscoveryResult)
    (key : ProfileSyncPeerDiscoveryFreshnessKey) (sequence : Nat) : Prop :=
  ∃ peer ∈ peers, ProfileSyncPeerDiscoveryFreshnessKey.fromResult peer = key ∧
    discoverySequence peer = sequence

/-- Equally fresh candidates of one key have all required capabilities, or none of them has. -/
def CapabilitiesAgree (requiredCapabilities : List String)
    (verifying : List ProfileSyncPeerDiscoveryResult) : Prop :=
  ∀ first ∈ verifying, ∀ second ∈ verifying,
    ProfileSyncPeerDiscoveryFreshnessKey.fromResult first =
        ProfileSyncPeerDiscoveryFreshnessKey.fromResult second →
      Freshest verifying first → Freshest verifying second →
        hasRequiredCapabilities requiredCapabilities first =
          hasRequiredCapabilities requiredCapabilities second

theorem mem_of_mem_freshestOf {peer : ProfileSyncPeerDiscoveryResult}
    (kept : peer ∈ freshestOf verifying) : peer ∈ verifying ∧ Freshest verifying peer := by
  obtain ⟨isOfKey, latest⟩ := LatestRows.isLast_of_mem_putAll kept
  refine ⟨(LatestRows.mem_ofKey_iff.mp isOfKey).1, ?_⟩
  intro other isOther sameKey
  exact latest other (LatestRows.mem_ofKey_iff.mpr ⟨isOther, sameKey⟩)

theorem eq_of_mem_freshestOf {first second : ProfileSyncPeerDiscoveryResult}
    (isFirst : first ∈ freshestOf verifying) (isSecond : second ∈ freshestOf verifying)
    (sameKey : ProfileSyncPeerDiscoveryFreshnessKey.fromResult first =
      ProfileSyncPeerDiscoveryFreshnessKey.fromResult second) : first = second :=
  List.inj_on_of_nodup_map (LatestRows.uniqueKeys_putAll verifying) isFirst isSecond sameKey

theorem mem_trustedOf_iff {peer : ProfileSyncPeerDiscoveryResult} :
    peer ∈ trustedOf requiredCapabilities verifying ↔
      peer ∈ freshestOf verifying ∧ hasRequiredCapabilities requiredCapabilities peer = true :=
  List.mem_filter

/-- Whichever freshest candidate comes first decides for its key. -/
theorem hasPair_trustedOf_cons_iff {candidate : ProfileSyncPeerDiscoveryResult}
    {rest : List ProfileSyncPeerDiscoveryResult} (freshest : Freshest rest candidate) :
    HasPair (trustedOf requiredCapabilities (candidate :: rest))
        (ProfileSyncPeerDiscoveryFreshnessKey.fromResult candidate)
        (discoverySequence candidate) ↔
      hasRequiredCapabilities requiredCapabilities candidate = true := by
  have kept : candidate ∈ freshestOf (candidate :: rest) := LatestRows.mem_putAll_cons freshest
  constructor
  · rintro ⟨peer, isTrusted, sameKey, -⟩
    obtain ⟨isKept, capable⟩ := mem_trustedOf_iff.mp isTrusted
    rwa [eq_of_mem_freshestOf kept isKept sameKey.symm]
  · intro capable
    exact ⟨candidate, mem_trustedOf_iff.mpr ⟨kept, capable⟩, rfl, rfl⟩

theorem Freshest.congr {candidate : ProfileSyncPeerDiscoveryResult}
    (same : ∀ peer, peer ∈ other → peer ∈ verifying) (freshest : Freshest verifying candidate) :
    Freshest other candidate :=
  fun peer isOther sameKey => freshest peer (same peer isOther) sameKey

/-- One direction of the order independence. -/
theorem HasPair.reorder (agree : CapabilitiesAgree requiredCapabilities verifying)
    (same : ∀ peer, peer ∈ verifying ↔ peer ∈ other)
    {key : ProfileSyncPeerDiscoveryFreshnessKey} {sequence : Nat}
    (pair : HasPair (trustedOf requiredCapabilities verifying) key sequence) :
    HasPair (trustedOf requiredCapabilities other) key sequence := by
  obtain ⟨peer, isTrusted, rfl, rfl⟩ := pair
  obtain ⟨isKept, capable⟩ := mem_trustedOf_iff.mp isTrusted
  obtain ⟨isVerifying, freshest⟩ := mem_of_mem_freshestOf isKept
  obtain ⟨counterpart, isCounterpart, sameKey⟩ : ∃ counterpart ∈ freshestOf other,
      ProfileSyncPeerDiscoveryFreshnessKey.fromResult counterpart =
        ProfileSyncPeerDiscoveryFreshnessKey.fromResult peer :=
    LatestRows.exists_mem_putAll ((same peer).mp isVerifying)
  obtain ⟨isOther, otherFreshest⟩ := mem_of_mem_freshestOf isCounterpart
  have alsoVerifying := (same counterpart).mpr isOther
  have sameFreshest : Freshest verifying counterpart :=
    otherFreshest.congr fun candidate => (same candidate).mp
  have sameCapable := agree counterpart alsoVerifying peer isVerifying sameKey sameFreshest freshest
  refine ⟨counterpart, mem_trustedOf_iff.mpr ⟨isCounterpart, ?_⟩, sameKey, ?_⟩
  · rw [sameCapable, capable]
  · exact le_antisymm (freshest counterpart alsoVerifying sameKey)
      (sameFreshest peer isVerifying sameKey.symm)

theorem CapabilitiesAgree.congr (agree : CapabilitiesAgree requiredCapabilities verifying)
    (same : ∀ peer, peer ∈ verifying ↔ peer ∈ other) :
    CapabilitiesAgree requiredCapabilities other := by
  intro first isFirst second isSecond sameKey firstFreshest secondFreshest
  exact agree first ((same first).mpr isFirst) second ((same second).mpr isSecond) sameKey
    (firstFreshest.congr fun peer => (same peer).mp)
    (secondFreshest.congr fun peer => (same peer).mp)

/-- The trusted keys and sequences do not depend on the order of the candidates exactly if
equally fresh candidates agree on the required capabilities. -/
theorem orderIndependent_iff :
    (∀ other, verifying.Perm other → ∀ key sequence,
      HasPair (trustedOf requiredCapabilities verifying) key sequence ↔
        HasPair (trustedOf requiredCapabilities other) key sequence) ↔
      CapabilitiesAgree requiredCapabilities verifying := by
  constructor
  · intro independent first isFirst second isSecond sameKey firstFreshest secondFreshest
    have firstDecides := independent _ (List.perm_cons_erase isFirst)
      (ProfileSyncPeerDiscoveryFreshnessKey.fromResult first) (discoverySequence first)
    have secondDecides := independent _ (List.perm_cons_erase isSecond)
      (ProfileSyncPeerDiscoveryFreshnessKey.fromResult second) (discoverySequence second)
    rw [hasPair_trustedOf_cons_iff (firstFreshest.congr fun _ => List.mem_of_mem_erase)]
      at firstDecides
    rw [hasPair_trustedOf_cons_iff (secondFreshest.congr fun _ => List.mem_of_mem_erase)]
      at secondDecides
    have sameSequence : discoverySequence first = discoverySequence second :=
      le_antisymm (secondFreshest first isFirst sameKey)
        (firstFreshest second isSecond sameKey.symm)
    rw [← sameKey, ← sameSequence, firstDecides] at secondDecides
    exact Bool.eq_iff_iff.mpr secondDecides
  · intro agree other permuted key sequence
    have same : ∀ peer, peer ∈ verifying ↔ peer ∈ other := fun peer => permuted.mem_iff
    constructor
    · exact HasPair.reorder agree same
    · exact HasPair.reorder (agree.congr same) fun peer => (same peer).symm

end Order

section Soundness

variable {format : JsonFormat} {isSocketAddr : String → Bool} {scheme : SyncObjectScheme}
  {profile networkId : String} {requiredCapabilities : List String}
  {candidates : List ProfileSyncPeerDiscoveryResult} {db : SlateProfileDatabase}
  {report : TrustedProfileSyncPeerDiscoveryReport}

/-- Every order of the candidates with a property is that of some order of all candidates. -/
theorem exists_reordered {keeps : ProfileSyncPeerDiscoveryResult → Bool}
    {other : List ProfileSyncPeerDiscoveryResult}
    (permuted : (candidates.filter keeps).Perm other) :
    ∃ reordered, candidates.Perm reordered ∧ reordered.filter keeps = other := by
  refine ⟨other ++ candidates.filter fun candidate => !keeps candidate, ?_, ?_⟩
  · exact (List.filter_append_perm keeps candidates).symm.trans (permuted.append_right _)
  · have all : ∀ candidate ∈ other, keeps candidate = true := by
      intro candidate isOther
      exact (List.mem_filter.mp (permuted.mem_iff.mpr isOther)).2
    rw [List.filter_append, List.filter_eq_self.mpr all, List.filter_filter]
    simp

/-- The filter sorts every candidate into one of its lists. It trusts candidates that verify
and have the required capabilities, of every key the freshest one. Which keys and sequences
it trusts depends on the order of the candidates only where equally fresh ones disagree on
the required capabilities. -/
theorem filterTrusted_sound
    (filtered : filterTrustedProfileSyncPeerDiscoveryResultsWithRequiredCapabilities format
      isSocketAddr scheme profile networkId requiredCapabilities candidates db = .ok report) :
    (∃ refusals : Refusals, SplitsInto candidates report.trustedPeers refusals ∧
      report.rejectedPeers = refusals.reported) ∧
    (∀ peer ∈ report.trustedPeers,
      VerifiedCandidate format isSocketAddr scheme profile networkId db peer ∧
        ∀ capability ∈ requiredCapabilities,
          peer.advertisement.hasCapability capability = true) ∧
    (report.trustedPeers.map ProfileSyncPeerDiscoveryFreshnessKey.fromResult).Nodup ∧
    (∀ peer ∈ report.trustedPeers,
      Freshest (candidates.filter (verifies format isSocketAddr scheme profile networkId db))
        peer) ∧
    ((∀ reordered, candidates.Perm reordered → ∃ other,
        filterTrustedProfileSyncPeerDiscoveryResultsWithRequiredCapabilities format isSocketAddr
          scheme profile networkId requiredCapabilities reordered db = .ok other ∧
        ∀ key sequence, HasPair report.trustedPeers key sequence ↔
          HasPair other.trustedPeers key sequence) ↔
      CapabilitiesAgree requiredCapabilities
        (candidates.filter (verifies format isSocketAddr scheme profile networkId db))) := by
  obtain ⟨isTrusted, split⟩ := filterTrusted_eq_ok filtered
  have ofTrusted : ∀ peer ∈ report.trustedPeers, peer ∈ freshestOf (candidates.filter
      (verifies format isSocketAddr scheme profile networkId db)) ∧
        hasRequiredCapabilities requiredCapabilities peer = true := by
    intro peer isPeer
    rw [isTrusted] at isPeer
    exact mem_trustedOf_iff.mp isPeer
  refine ⟨split, ?_, ?_, ?_, ?_⟩
  · intro peer isPeer
    obtain ⟨isKept, capable⟩ := ofTrusted peer isPeer
    have passes := (List.mem_filter.mp (mem_of_mem_freshestOf isKept).1).2
    exact ⟨verifiedCandidate_of_verifies passes, List.all_eq_true.mp capable⟩
  · rw [isTrusted]
    exact (LatestRows.uniqueKeys_putAll _).sublist (List.filter_sublist.map _)
  · intro peer isPeer
    exact (mem_of_mem_freshestOf (ofTrusted peer isPeer).1).2
  · rw [← orderIndependent_iff, isTrusted]
    constructor
    · intro independent other permuted
      obtain ⟨reordered, isReordered, onlyOther⟩ := exists_reordered permuted
      obtain ⟨otherReport, otherFiltered, same⟩ := independent reordered isReordered
      rw [(filterTrusted_eq_ok otherFiltered).1, onlyOther] at same
      exact same
    · intro independent reordered permuted
      have answerable := filterTrusted_succeeds_iff.mp ⟨report, filtered⟩
      obtain ⟨other, otherFiltered⟩ := filterTrusted_succeeds_iff.mpr fun candidate isCandidate =>
        answerable candidate (permuted.mem_iff.mpr isCandidate)
      refine ⟨other, otherFiltered, ?_⟩
      rw [(filterTrusted_eq_ok otherFiltered).1]
      exact independent _ (permuted.filter _)

end Soundness

section Sample

/-- Signatures of 64 bytes: the key and a checksum of the payload. -/
def checksumScheme : SyncObjectScheme :=
  { jsonScheme with
    signPayload := fun privateKey payload =>
      privateKey ++ List.replicate 32 (payload.sum % 256)
    verifyPayload := fun publicKey payload signature =>
      signature == publicKey ++ List.replicate 32 (payload.sum % 256) }

def phoneDiscoveryKey : List Nat := List.replicate 32 2

/-- What the phone advertises under a sequence. -/
def phoneAdvertisement (capabilities : List String) (sequence : Nat) :
    ProfileSyncPeerAdvertisement where
  networkId := "home"
  nodeId := "phone"
  providerId := "phone-provider"
  serviceAddr := "/ip4/192.0.2.7/tcp/4433"
  capabilities
  membershipEpoch := 1
  sequence
  identitySignature := none

def phoneSignature (advertisement : ProfileSyncPeerAdvertisement) :
    ProfileSyncPeerAdvertisementSignature where
  version := 1
  algorithm := "ed25519"
  deviceId := "phone"
  publicKey := phoneDiscoveryKey
  signature := checksumScheme.signPayload phoneDiscoveryKey
    (JsonFormat.compact.toBytes advertisement.signingPayload)

def phoneResult (protocol : ProfileSyncPeerDiscoveryProtocol) (capabilities : List String)
    (sequence : Nat) : ProfileSyncPeerDiscoveryResult where
  protocol
  discoveryNamespace := "slate-profile-sync"
  advertisement :=
    { phoneAdvertisement capabilities sequence with
      identitySignature := some (phoneSignature (phoneAdvertisement capabilities sequence)) }

/-- The laptop's database trusts the phone's key. -/
def laptopTrustingPhone : SlateProfileDatabase where
  localSyncDeviceId := "laptop"
  syncDevicePublicKeys :=
    [{ profile := "default", publicKey := { deviceId := "phone", bytes := phoneDiscoveryKey }
       membershipEpoch := 1, trusted := true, createdAt := 1, updatedAt := 1 }]

def filterSample (requiredCapabilities : List String)
    (candidates : List ProfileSyncPeerDiscoveryResult) :
    Except StorageError TrustedProfileSyncPeerDiscoveryReport :=
  filterTrustedProfileSyncPeerDiscoveryResultsWithRequiredCapabilities .compact (fun _ => false)
    checksumScheme "default" "home" requiredCapabilities candidates laptopTrustingPhone

/-- An advertisement without and one with a required capability, under one sequence. -/
def plainResult : ProfileSyncPeerDiscoveryResult :=
  phoneResult .ipns ["profile-sync/service-frame-tcp"] 3

def retainingResult : ProfileSyncPeerDiscoveryResult :=
  phoneResult .ipns ["profile-sync/service-frame-tcp", "profile-sync/local-retention"] 3

/-- Of two advertisements with one sequence the first one decides whether the peer is
trusted. -/
theorem trusted_peer_depends_on_order :
    (filterSample ["profile-sync/local-retention"] [plainResult, retainingResult]).map
        (·.trustedPeers) = .ok [] ∧
      (filterSample ["profile-sync/local-retention"] [retainingResult, plainResult]).map
        (·.trustedPeers) = .ok [retainingResult] := by
  decide +kernel

/-- What the filter makes of a replayed advertisement. -/
def replayReport : TrustedProfileSyncPeerDiscoveryReport where
  trustedPeers := [plainResult]
  rejectedPeers := [rejectedDiscoveryCandidate retainingResult .replayedDiscoverySequence]

theorem replayReport_sound :
    (∃ refusals : Refusals,
      SplitsInto [plainResult, retainingResult] replayReport.trustedPeers refusals ∧
        replayReport.rejectedPeers = refusals.reported) ∧
    (replayReport.trustedPeers.map ProfileSyncPeerDiscoveryFreshnessKey.fromResult).Nodup ∧
    ((∀ reordered, [plainResult, retainingResult].Perm reordered → ∃ other,
        filterSample [] reordered = .ok other ∧
        ∀ key sequence, HasPair replayReport.trustedPeers key sequence ↔
          HasPair other.trustedPeers key sequence) ↔
      CapabilitiesAgree [] ([plainResult, retainingResult].filter
        (verifies .compact (fun _ => false) checksumScheme "default" "home"
          laptopTrustingPhone))) := by
  have filtered : filterSample [] [plainResult, retainingResult] = .ok replayReport := by
    decide +kernel
  obtain ⟨split, -, distinct, -, order⟩ := filterTrusted_sound filtered
  exact ⟨split, distinct, order⟩

end Sample

end Slate.ProfileSync
