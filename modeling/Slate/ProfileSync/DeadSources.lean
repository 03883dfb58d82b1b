import Slate.Broadwebd.IpnsDiscovery
import Slate.ProfileSync.ComposedDiscovery

/-!
# Sources that fail

A composite provider asks its providers one by one. Where one of them fails before the limit of
peers was passed, the whole discovery fails, and what the others found is lost.
-/

namespace Slate.ProfileSync

open Slate.Foundation Slate.Broadwebd

section Calls

/-- One question that a composite asks. -/
structure Call where
  protocol : ProfileSyncPeerDiscoveryProtocol
  provider : ProfileSyncPeerDiscoveryProvider

def callsOf (providers : List ProfileSyncPeerDiscoveryProvider)
    (protocols : List ProfileSyncPeerDiscoveryProtocol) : List Call :=
  protocols.flatMap fun protocol => providers.map (Call.mk protocol)

variable (query : ProfileSyncPeerDiscoveryQuery)

def Call.answer (call : Call) : Except Broadwebd.BroadwebdError
    (List ProfileSyncPeerDiscoveryResult) :=
  call.provider (query.forProtocol call.protocol)

/-- The results of a call that is answered; a call that fails has none. -/
def Call.results (call : Call) : List ProfileSyncPeerDiscoveryResult :=
  (call.answer query).toOption.getD []

def takeCall (state : CompositeState) (call : Call) : CompositeState :=
  (call.results query).foldl (takeResult query.maxPeers call.protocol) state

def askCalls : List Call → CompositeState → Except Broadwebd.BroadwebdError CompositeState
  | [], state => .ok state
  | call :: calls, state =>
    if state.full then .ok state
    else do
      let answer ← call.answer query
      askCalls calls (answer.foldl (takeResult query.maxPeers call.protocol) state)

variable {query} {protocol : ProfileSyncPeerDiscoveryProtocol}
  {providers : List ProfileSyncPeerDiscoveryProvider} {state next : CompositeState}
  {calls : List Call}

theorem askCalls_of_full (full : state.full = true) : askCalls query calls state = .ok state := by
  cases calls with
  | nil => rfl
  | cons call calls => rw [askCalls, if_pos full]

theorem askCalls_append (calls others : List Call) (state : CompositeState) :
    askCalls query (calls ++ others) state =
      askCalls query calls state >>= askCalls query others := by
  induction calls generalizing state with
  | nil => rfl
  | cons call calls inductionHypothesis =>
      rw [List.cons_append, askCalls, askCalls]
      split
      · rename_i full
        exact (askCalls_of_full full).symm
      · cases call.answer query with
        | error error => rfl
        | ok answer => exact inductionHypothesis _

theorem askProviders_eq (providers : List ProfileSyncPeerDiscoveryProvider)
    (state : CompositeState) :
    askProviders query protocol providers state =
      askCalls query (providers.map (Call.mk protocol)) state := by
  induction providers generalizing state with
  | nil => rfl
  | cons provider providers inductionHypothesis =>
      rw [askProviders, List.map_cons, askCalls]
      simp only [inductionHypothesis]
      rfl

/-- A composite asks its calls in their order. -/
theorem askProtocols_eq (valid : query.validate = .ok ())
    (protocols : List ProfileSyncPeerDiscoveryProtocol) (state : CompositeState) :
    askProtocols query providers protocols state =
      askCalls query (callsOf providers protocols) state := by
  induction protocols generalizing state with
  | nil => rfl
  | cons protocol protocols inductionHypothesis =>
      have split : callsOf providers (protocol :: protocols) =
          providers.map (Call.mk protocol) ++ callsOf providers protocols := List.flatMap_cons
      rw [askProtocols, split, askCalls_append, validate_forProtocol valid, askProviders_eq]
      split
      · rename_i full
        rw [askCalls_of_full full]
        exact (askCalls_of_full full).symm
      · simp only [ok_bind, inductionHypothesis]

theorem foldl_takeResult_of_full {maxPeers : Nat} (full : state.full = true)
    (results : List ProfileSyncPeerDiscoveryResult) :
    results.foldl (takeResult maxPeers protocol) state = state := by
  induction results with
  | nil => rfl
  | cons result results inductionHypothesis =>
      have unchanged : takeResult maxPeers protocol state result = state := by
        unfold takeResult
        rw [if_pos full]
      rw [List.foldl_cons, unchanged, inductionHypothesis]

theorem foldl_takeCall_of_full (full : state.full = true) (calls : List Call) :
    calls.foldl (takeCall query) state = state := by
  induction calls with
  | nil => rfl
  | cons call calls inductionHypothesis =>
      rw [List.foldl_cons, takeCall, foldl_takeResult_of_full full, inductionHypothesis]

/-- The calls are answered unless one fails before the composite is full. -/
theorem askCalls_eq_ok_iff :
    askCalls query calls state = .ok next ↔
      (∀ earlier call later, calls = earlier ++ call :: later →
        (∃ error, call.answer query = .error error) →
          (earlier.foldl (takeCall query) state).full = true) ∧
      next = calls.foldl (takeCall query) state := by
  induction calls generalizing state with
  | nil =>
      constructor
      · intro asked
        exact ⟨by simp, (Except.ok.inj asked).symm⟩
      · rintro ⟨-, rfl⟩
        rfl
  | cons call calls inductionHypothesis =>
      rw [askCalls]
      split
      · rename_i full
        simp only [foldl_takeCall_of_full full, full, Except.ok.injEq]
        constructor
        · rintro rfl
          exact ⟨fun _ _ _ _ _ => trivial, rfl⟩
        · exact fun isNext => isNext.2.symm
      · rename_i notFull
        cases answer : call.answer query with
        | error error =>
            constructor
            · intro asked
              cases asked
            · rintro ⟨failuresLate, -⟩
              exact absurd (failuresLate [] call calls rfl ⟨error, answer⟩) notFull
        | ok results =>
            have taken : takeCall query state call =
                results.foldl (takeResult query.maxPeers call.protocol) state := by
              simp [takeCall, Call.results, answer, Except.toOption]
            rw [ok_bind, inductionHypothesis, List.foldl_cons, taken]
            refine and_congr_left fun _ => ?_
            constructor
            · intro failuresLate earlier other later split fails
              cases earlier with
              | nil =>
                  obtain ⟨rfl, -⟩ := List.cons.inj split
                  obtain ⟨error, isError⟩ := fails
                  rw [answer] at isError
                  cases isError
              | cons head earlier =>
                  obtain ⟨rfl, restSplit⟩ := List.cons.inj split
                  rw [List.foldl_cons, taken]
                  exact failuresLate earlier other later restSplit fails
            · intro failuresLate earlier other later split fails
              have late := failuresLate (call :: earlier) other later (by rw [split]; rfl) fails
              rwa [List.foldl_cons, taken] at late

end Calls

section Limit

/-- A result with the protocol it was asked for. -/
structure Offer where
  protocol : ProfileSyncPeerDiscoveryProtocol
  result : ProfileSyncPeerDiscoveryResult

/-- The peers of the results that are of the protocol they were asked for. -/
def peersAmong (offers : List Offer) : List SeenKey :=
  ((offers.filter fun offer => offer.result.protocol = offer.protocol).map
    (·.result.seenKey)).eraseDups

/-- A result comes behind as many distinct peers as are wanted. -/
def Exceeds (maxPeers : Nat) (offers : List Offer) : Prop :=
  ∃ earlier offer later, offers = earlier ++ offer :: later ∧
    maxPeers ≤ (peersAmong earlier).length

/-- The offers of the calls that are answered. -/
def offersOf (query : ProfileSyncPeerDiscoveryQuery) (calls : List Call) : List Offer :=
  calls.flatMap fun call => (call.results query).map (Offer.mk call.protocol)

variable {maxPeers : Nat} {offers : List Offer} {offer : Offer} {state : CompositeState}

def takeOffer (maxPeers : Nat) (state : CompositeState) (offer : Offer) : CompositeState :=
  takeResult maxPeers offer.protocol state offer.result

theorem exceeds_concat_iff :
    Exceeds maxPeers (offers ++ [offer]) ↔
      Exceeds maxPeers offers ∨ maxPeers ≤ (peersAmong offers).length := by
  constructor
  · rintro ⟨earlier, other, later, split, many⟩
    rcases List.eq_nil_or_concat later with rfl | ⟨init, last, rfl⟩
    · obtain ⟨rfl, -⟩ := List.append_inj' split rfl
      exact .inr many
    · have split' : offers ++ [offer] = (earlier ++ other :: init) ++ [last] := by
        rw [split]
        simp
      exact .inl ⟨earlier, other, init, (List.append_inj' split' rfl).1, many⟩
  · rintro (⟨earlier, other, later, rfl, many⟩ | many)
    · exact ⟨earlier, other, later ++ [offer], by simp, many⟩
    · exact ⟨offers, offer, [], rfl, many⟩

theorem peersAmong_concat (asked : offer.result.protocol = offer.protocol) :
    peersAmong (offers ++ [offer]) =
      if offer.result.seenKey ∈ peersAmong offers then peersAmong offers
      else peersAmong offers ++ [offer.result.seenKey] := by
  unfold peersAmong
  rw [List.filter_append, List.filter_cons_of_pos (by simpa using asked), List.filter_nil,
    List.map_append, List.map_singleton, eraseDups_concat]
  simp only [List.mem_eraseDups]

/-- A composite that is not full has seen the distinct peers and holds a result of each. -/
structure Sees (maxPeers : Nat) (offers : List Offer) (state : CompositeState) : Prop where
  full : state.full = true ↔ Exceeds maxPeers offers
  seen : state.full = false → state.seen = peersAmong offers
  results : state.full = false → state.results.length = (peersAmong offers).length

theorem Sees.take (sees : Sees maxPeers offers state) (offer : Offer) :
    Sees maxPeers (offers ++ [offer]) (takeOffer maxPeers state offer) := by
  unfold takeOffer takeResult
  cases full : state.full with
  | true =>
      have exceeds := (@exceeds_concat_iff _ _ offer).mpr (.inl (sees.full.mp full))
      exact ⟨by simp [full, exceeds], by simp [full], by simp [full]⟩
  | false =>
      have within : ¬Exceeds maxPeers offers := by
        rw [← sees.full, full]
        exact Bool.false_ne_true
      have seen := sees.seen full
      have results := sees.results full
      rw [if_neg Bool.false_ne_true]
      by_cases many : maxPeers ≤ state.results.length
      · rw [if_pos many]
        have exceeds := (@exceeds_concat_iff _ _ offer).mpr (.inr (results ▸ many))
        exact ⟨by simp [exceeds], by simp, by simp⟩
      · rw [if_neg many]
        have stillWithin : ¬Exceeds maxPeers (offers ++ [offer]) := by
          rw [exceeds_concat_iff, not_or, ← results]
          exact ⟨within, many⟩
        by_cases asked : offer.result.protocol = offer.protocol
        · have grown := @peersAmong_concat offers _ asked
          rw [if_neg (not_not.mpr asked)]
          by_cases present : offer.result.seenKey ∈ peersAmong offers
          · rw [if_pos present] at grown
            have isSeen : state.seen.contains offer.result.seenKey = true := by
              rw [seen]
              exact List.contains_iff_mem.mpr present
            rw [if_pos isSeen]
            exact ⟨by simp [full, stillWithin], fun _ => by rw [grown, seen],
              fun _ => by rw [grown, results]⟩
          · rw [if_neg present] at grown
            have notSeen : ¬state.seen.contains offer.result.seenKey = true := by
              rw [seen]
              exact fun contained => present (List.contains_iff_mem.mp contained)
            rw [if_neg notSeen]
            exact ⟨by simp [stillWithin], fun _ => by simp [grown, seen],
              fun _ => by simp [grown, results]⟩
        · have unchanged : peersAmong (offers ++ [offer]) = peersAmong offers := by
            unfold peersAmong
            simp [asked]
          rw [if_pos asked]
          exact ⟨by simp [full, stillWithin], fun _ => by rw [unchanged, seen],
            fun _ => by rw [unchanged, results]⟩

theorem sees_foldl (offers : List Offer) :
    Sees maxPeers offers (offers.foldl (takeOffer maxPeers) .start) := by
  induction offers using List.reverseRecOn with
  | nil =>
      have within : ¬Exceeds maxPeers [] := by
        rintro ⟨earlier, offer, later, split, -⟩
        simp at split
      exact ⟨by simp [CompositeState.start, within], fun _ => rfl, fun _ => rfl⟩
  | append_singleton offers offer inductionHypothesis =>
      rw [List.foldl_concat]
      exact inductionHypothesis.take offer

theorem foldl_takeCall {query : ProfileSyncPeerDiscoveryQuery} (calls : List Call)
    (state : CompositeState) :
    calls.foldl (takeCall query) state =
      (offersOf query calls).foldl (takeOffer query.maxPeers) state := by
  induction calls generalizing state with
  | nil => rfl
  | cons call calls inductionHypothesis =>
      have split : offersOf query (call :: calls) =
          (call.results query).map (Offer.mk call.protocol) ++ offersOf query calls :=
        List.flatMap_cons
      rw [List.foldl_cons, inductionHypothesis, split, List.foldl_append, List.foldl_map]
      rfl

end Limit

section Failures

variable {query : ProfileSyncPeerDiscoveryQuery}
  {providers : List ProfileSyncPeerDiscoveryProvider}

/-- A provider with its failures taken for answers without results. -/
def tolerant (provider : ProfileSyncPeerDiscoveryProvider) : ProfileSyncPeerDiscoveryProvider :=
  fun query => .ok ((provider query).toOption.getD [])

/-- The composite returns what it returns where the failing providers find nothing. -/
def ReturnsWorking (query : ProfileSyncPeerDiscoveryQuery)
    (providers : List ProfileSyncPeerDiscoveryProvider) : Prop :=
  compositeDiscoverProfileSyncPeers providers query =
    compositeDiscoverProfileSyncPeers (providers.map tolerant) query

/-- A provider fails only when the limit of peers was passed before it is asked. -/
def FailsLate (query : ProfileSyncPeerDiscoveryQuery)
    (providers : List ProfileSyncPeerDiscoveryProvider) : Prop :=
  ∀ earlier call later, callsOf providers query.protocols = earlier ++ call :: later →
    (∃ error, call.answer query = .error error) →
      Exceeds query.maxPeers (offersOf query earlier)

def Call.tolerant (call : Call) : Call :=
  { call with provider := ProfileSync.tolerant call.provider }

theorem callsOf_tolerant (protocols : List ProfileSyncPeerDiscoveryProtocol) :
    callsOf (providers.map tolerant) protocols =
      (callsOf providers protocols).map Call.tolerant := by
  unfold callsOf
  rw [List.map_flatMap]
  congr 1
  funext protocol
  rw [List.map_map, List.map_map]
  rfl

theorem askCalls_iff_failsLate {next : CompositeState} :
    askCalls query (callsOf providers query.protocols) .start = .ok next ↔
      FailsLate query providers ∧
        next = (callsOf providers query.protocols).foldl (takeCall query) .start := by
  rw [askCalls_eq_ok_iff]
  refine and_congr_left fun _ => ?_
  simp only [foldl_takeCall, (sees_foldl _).full]
  rfl

theorem askCalls_tolerant (calls : List Call) (state : CompositeState) :
    askCalls query (calls.map Call.tolerant) state =
      .ok (calls.foldl (takeCall query) state) := by
  rw [askCalls_eq_ok_iff]
  constructor
  · intro earlier call later split fails
    have isMember : call ∈ calls.map Call.tolerant := by simp [split]
    obtain ⟨other, -, rfl⟩ := List.mem_map.mp isMember
    obtain ⟨error, isError⟩ := fails
    cases isError
  · rw [List.foldl_map]
    rfl

theorem returnsWorking_iff (valid : query.validate = .ok ()) :
    ReturnsWorking query providers ↔ FailsLate query providers := by
  unfold ReturnsWorking compositeDiscoverProfileSyncPeers
  simp only [valid, ok_bind, askProtocols_eq valid, callsOf_tolerant, askCalls_tolerant]
  constructor
  · intro same
    obtain ⟨next, asked, -⟩ := bind_eq_ok_iff.mp same
    exact (askCalls_iff_failsLate.mp asked).1
  · intro failsLate
    rw [askCalls_iff_failsLate.mpr ⟨failsLate, rfl⟩]
    rfl

/-- A dead name hides the others from the IPNS provider, and a dead provider hides the others from
the composite; nothing else does. -/
theorem deadSources_hide_others_iff {fromSlice : RecordFromSlice} {names : List ResolveName}
    (valid : query.validate = .ok ()) (asked : .ipns ∈ query.protocols) :
    (DiscoversFreshest fromSlice query names ↔ AllRead fromSlice names) ∧
      (ReturnsWorking query providers ↔ FailsLate query providers) :=
  ⟨discoversFreshest_iff_allRead valid asked, returnsWorking_iff valid⟩

end Failures

section Sample

def tabletRecord : IpnsProfileSyncPeerDiscoveryRecord where
  protocol := "ipns"
  discoveryNamespace := "slate-profile-sync"
  advertisement := tabletAdvertisement

def tabletRecordBytes : Bytes :=
  (JsonFormat.compact.toBytes (.object [("protocol", .string "ipns"),
    ("namespace", .string "slate-profile-sync"), ("advertisement", .object [
      ("network_id", .string "home"), ("node_id", .string "tablet"),
      ("provider_id", .string "tablet-provider"), ("service_addr", .string "192.0.2.9:9443"),
      ("capabilities", .array [.string profileSyncPeerDiscoveryCapability]),
      ("membership_epoch", .integer 1), ("sequence", .integer 1)])])).map UInt8.ofNat

/-- Nothing but the tablet's record is decoded. -/
def tabletRecordFromSlice : RecordFromSlice := fun bytes =>
  if bytes = tabletRecordBytes then .ok tabletRecord
  else .error "expected value at line 1 column 1"

def tabletName : ResolveName where
  name := "k51-tablet"
  resolveRoot := .ok "bafy-tablet"
  getEncryptedObject _ := .ok tabletRecordBytes

/-- A name that was never published. -/
def deadName : ResolveName where
  name := "k51-gone"
  resolveRoot := .error (.request "Kubo profile-sync name/resolve returned HTTP status 500")
  getEncryptedObject _ := .error (.request "Kubo profile-sync cat returned HTTP status 500")

def deadProvider : ProfileSyncPeerDiscoveryProvider := fun _ =>
  .error (.request "connection refused")

theorem tablet_discovered :
    (DiscoversFreshest tabletRecordFromSlice laptopQuery [tabletName] ↔
        AllRead tabletRecordFromSlice [tabletName]) ∧
      (ReturnsWorking laptopQuery [answering .ipns [plainResult]] ↔
        FailsLate laptopQuery [answering .ipns [plainResult]]) :=
  deadSources_hide_others_iff (by decide +kernel) (by decide)

/-- The tablet is not found behind a name that was never published, and what a provider found is
lost where another one fails. -/
theorem dead_source_hides_others :
    laptopQuery.validate = .ok () ∧
      candidatesOf tabletRecordFromSlice laptopQuery [deadName, tabletName] =
        [tabletRecord.candidate] ∧
      ¬DiscoversFreshest tabletRecordFromSlice laptopQuery [deadName, tabletName] ∧
      ¬ReturnsWorking laptopQuery [answering .ipns [plainResult], deadProvider] := by
  refine ⟨by decide +kernel, by decide +kernel, ?_, by unfold ReturnsWorking; decide +kernel⟩
  rintro ⟨results, discovered, -⟩
  have fails : ipnsDiscoverProfileSyncPeers tabletRecordFromSlice [deadName, tabletName]
      laptopQuery =
        .error (.request "Kubo profile-sync name/resolve returned HTTP status 500") := by
    decide +kernel
  rw [fails] at discovered
  cases discovered

end Sample

end Slate.ProfileSync
