import Slate.ProfileSync.StoredRetention

/-!
# Materialized endpoints

A selected provider is materialized by the kind of its stored endpoint. The kind is that of the
trimmed text, while the parsers that come later read the text as it is stored.
-/

namespace Slate.ProfileSync

open Foundation Storage Broadwebd

section Requests

def profileSyncDeferredProviderProtocol : String := "provider"
def profileSyncDeferredIrohNodeProtocol : String := "iroh-node"
def profileSyncDeferredTorOnionProtocol : String := "tor-onion"
def profileSyncDeferredI2pDestinationProtocol : String := "i2p-destination"

structure DeferredProtocolEndpoint where
  protocol : String
  target : String
  deriving DecidableEq, Repr

def parseDeferredProtocolEndpoint (endpointRef : String) : Option DeferredProtocolEndpoint :=
  [("provider:", profileSyncDeferredProviderProtocol),
    ("iroh-node:", profileSyncDeferredIrohNodeProtocol),
    ("tor-onion:", profileSyncDeferredTorOnionProtocol),
    ("i2p-destination:", profileSyncDeferredI2pDestinationProtocol)].findSome?
      fun (front, protocol) => do
        let target ← stripPrefix front endpointRef
        if isEndpointToken target then some { protocol, target } else none

structure SettingsSyncSelectedMultiaddrMaterializationRequest where
  providerId : String
  endpoint : String
  deriving DecidableEq, Repr

structure SettingsSyncSelectedDeferredProtocolMaterializationRequest where
  providerId : String
  protocol : String
  target : String
  deriving DecidableEq, Repr

structure SettingsSyncSelectedEndpointMaterializationRequest where
  providerId : String
  endpointRef : Option String
  endpointStatus : SettingsSyncStoredProviderEndpointStatus
  deriving DecidableEq, Repr

namespace SettingsSyncSelectedEndpointMaterializationRequest

variable (request : SettingsSyncSelectedEndpointMaterializationRequest)

def failClosed : Bool := request.endpointStatus = .unsupported

def parsedMultiaddr : Option String :=
  if request.endpointStatus ≠ .multiaddr then none
  else request.endpointRef.bind fun endpointRef => (parseMultiaddr endpointRef).toOption

def multiaddrMaterializationRequest : Option SettingsSyncSelectedMultiaddrMaterializationRequest :=
  request.parsedMultiaddr.map fun endpoint => { providerId := request.providerId, endpoint }

def deferredProtocolMaterializationRequest :
    Option SettingsSyncSelectedDeferredProtocolMaterializationRequest :=
  if request.endpointStatus ≠ .deferredProtocol then none
  else (request.endpointRef.bind parseDeferredProtocolEndpoint).map fun endpoint =>
    { providerId := request.providerId
      protocol := endpoint.protocol
      target := endpoint.target }

variable {request}

theorem providerId_of_multiaddr {listed : SettingsSyncSelectedMultiaddrMaterializationRequest}
    (isListed : request.multiaddrMaterializationRequest = some listed) :
    listed.providerId = request.providerId := by
  obtain ⟨endpoint, -, rfl⟩ := Option.map_eq_some_iff.mp isListed
  rfl

theorem providerId_of_deferredProtocol
    {listed : SettingsSyncSelectedDeferredProtocolMaterializationRequest}
    (isListed : request.deferredProtocolMaterializationRequest = some listed) :
    listed.providerId = request.providerId := by
  unfold deferredProtocolMaterializationRequest at isListed
  split at isListed
  · cases isListed
  · obtain ⟨endpoint, -, rfl⟩ := Option.map_eq_some_iff.mp isListed
    rfl

end SettingsSyncSelectedEndpointMaterializationRequest

structure SettingsSyncSelectedProtocolMaterializationPlan where
  multiaddrRequests : List SettingsSyncSelectedMultiaddrMaterializationRequest
  deferredProtocolRequests : List SettingsSyncSelectedDeferredProtocolMaterializationRequest
  missingEndpointProviderIds : List String
  failClosedProviderIds : List String
  deriving DecidableEq, Repr

namespace SettingsSyncSelectedProtocolMaterializationPlan

variable (plan : SettingsSyncSelectedProtocolMaterializationPlan)

def protocolRequestCount : Nat :=
  plan.multiaddrRequests.length + plan.deferredProtocolRequests.length

def requiresProtocolMaterializer : Bool := 0 < plan.protocolRequestCount

def hasMissingEndpoint : Bool := !plan.missingEndpointProviderIds.isEmpty

def hasFailClosedEndpoint : Bool := !plan.failClosedProviderIds.isEmpty

def readyForProtocolMaterialization : Bool :=
  plan.requiresProtocolMaterializer && !plan.hasMissingEndpoint && !plan.hasFailClosedEndpoint

end SettingsSyncSelectedProtocolMaterializationPlan

structure SettingsSyncSelectedEndpointMaterializationPlan where
  requests : List SettingsSyncSelectedEndpointMaterializationRequest

def SettingsSyncSelectedEndpointMaterializationPlan.protocolMaterializationPlan
    (plan : SettingsSyncSelectedEndpointMaterializationPlan) :
    SettingsSyncSelectedProtocolMaterializationPlan where
  multiaddrRequests := plan.requests.filterMap (·.multiaddrMaterializationRequest)
  deferredProtocolRequests := plan.requests.filterMap (·.deferredProtocolMaterializationRequest)
  missingEndpointProviderIds :=
    (plan.requests.filter (·.endpointStatus = .missing)).map (·.providerId)
  failClosedProviderIds := (plan.requests.filter (·.failClosed)).map (·.providerId)

variable (endpoints : List SettingsSyncStoredRetentionProviderEndpoint)
  (selectedProviderIds : List String)

def selectedEndpointMaterializationRequests :
    List SettingsSyncSelectedEndpointMaterializationRequest :=
  selectedProviderIds.filterMap fun providerId => do
    let endpoint ← endpoints.find? (·.providerId = providerId)
    some {
      providerId := endpoint.providerId
      endpointRef := endpoint.endpointRef
      endpointStatus := endpoint.endpointStatus }

def selectedEndpointMaterializationPlan : SettingsSyncSelectedEndpointMaterializationPlan where
  requests := selectedEndpointMaterializationRequests endpoints selectedProviderIds

structure SettingsSyncInProcessFixtureMaterializationTarget where
  providerId : String
  fixtureNetworkId : String
  endpointRef : String
  deriving DecidableEq, Repr

def selectedInProcessFixtureMaterializationTargets :
    List SettingsSyncInProcessFixtureMaterializationTarget :=
  selectedProviderIds.filterMap fun providerId => do
    let endpoint ← endpoints.find? fun endpoint =>
      endpoint.providerId = providerId ∧ endpoint.endpointStatus = .inProcessFixture
    let endpointRef ← endpoint.endpointRef
    let fixtureEndpoint ← parseInProcessProfileSyncFixtureEndpointRef endpointRef
    if fixtureEndpoint.providerId ≠ providerId then none
    else some { providerId, fixtureNetworkId := fixtureEndpoint.networkId, endpointRef }

namespace SettingsSyncStoredRetentionProviderPlan

variable (plan : SettingsSyncStoredRetentionProviderPlan)

def selectedEndpointMaterializationPlan : SettingsSyncSelectedEndpointMaterializationPlan :=
  ProfileSync.selectedEndpointMaterializationPlan plan.enabledRetentionProviderEndpoints
    plan.cycle.selectedRetentionProviderIds

def selectedProtocolMaterializationPlan : SettingsSyncSelectedProtocolMaterializationPlan :=
  plan.selectedEndpointMaterializationPlan.protocolMaterializationPlan

def selectedInProcessFixtureMaterializationTargets :
    List SettingsSyncInProcessFixtureMaterializationTarget :=
  ProfileSync.selectedInProcessFixtureMaterializationTargets plan.enabledRetentionProviderEndpoints
    plan.cycle.selectedRetentionProviderIds

end SettingsSyncStoredRetentionProviderPlan

end Requests

section Texts

variable {text : String}

theorem unspaced_of_parseMultiaddr {endpoint : String}
    (parsed : parseMultiaddr text = .ok endpoint) : Text.Unspaced text.toList := by
  obtain ⟨-, segments, valid, isText⟩ := parseMultiaddr_eq_ok_iff.mp parsed
  rw [isText]
  exact unspaced_slashed valid

theorem eq_append_of_stripPrefix {front rest : String}
    (stripped : stripPrefix front text = some rest) :
    text.toList = front.toList ++ rest.toList := by
  unfold stripPrefix at stripped
  split at stripped
  · rename_i isFront
    obtain ⟨others, isText⟩ := isFront
    obtain rfl := Option.some.inj stripped
    rw [String.toList_ofList, ← isText, ← String.length_toList, List.drop_left]
  · cases stripped

/-- A token of letters, digits and marks has no white space in it. -/
theorem unspaced_of_token {marks : String} {token : List Char}
    (noneWhite : marks.toList.all (!Text.isWhitespace ·) = true)
    (isToken : (token.all fun char => isAsciiAlphanumeric char || marks.toList.contains char) =
      true) : Text.Unspaced token := by
  intro char isMember
  have allowed := List.all_eq_true.mp isToken char isMember
  rw [Bool.or_eq_true] at allowed
  rcases allowed with alphanumeric | isMark
  · exact isWhitespace_of_alphanumeric alphanumeric
  · simpa using List.all_eq_true.mp noneWhite char (List.contains_iff_mem.mp isMark)

theorem isDeferredProtocolEndpoint_eq :
    isDeferredProtocolEndpoint text = (parseDeferredProtocolEndpoint text).isSome := by
  have isSome_read : ∀ (front protocol : String),
      (stripPrefix front text).any isEndpointToken =
        ((stripPrefix front text).bind fun target =>
          if isEndpointToken target then some (DeferredProtocolEndpoint.mk protocol target)
          else none).isSome := by
    intro front protocol
    cases stripPrefix front text with
    | none => rfl
    | some target => cases isToken : isEndpointToken target <;> simp [isToken]
  rw [parseDeferredProtocolEndpoint, List.isSome_findSome?]
  simp only [isDeferredProtocolEndpoint, List.any_cons, List.any_nil]
  congr 1
  · exact isSome_read _ _
  · congr 1
    · exact isSome_read _ _
    · congr 1
      · exact isSome_read _ _
      · congr 1
        exact isSome_read _ _

theorem unspaced_of_parseDeferredProtocolEndpoint {endpoint : DeferredProtocolEndpoint}
    (parsed : parseDeferredProtocolEndpoint text = some endpoint) : Text.Unspaced text.toList := by
  obtain ⟨⟨front, protocol⟩, isKnown, found⟩ := List.exists_of_findSome?_eq_some parsed
  obtain ⟨target, stripped, read⟩ := Option.bind_eq_some_iff.mp found
  have isToken : isEndpointToken target = true := by
    by_contra other
    rw [if_neg other] at read
    cases read
  have noneWhite : Text.Unspaced front.toList := by
    simp only [List.mem_cons, Prod.mk.injEq, List.not_mem_nil, or_false] at isKnown
    rcases isKnown with ⟨rfl, -⟩ | ⟨rfl, -⟩ | ⟨rfl, -⟩ | ⟨rfl, -⟩ <;> decide
  rw [isEndpointToken, Bool.and_eq_true] at isToken
  rw [eq_append_of_stripPrefix stripped, Text.unspaced_append]
  exact ⟨noneWhite, unspaced_of_token (by decide) isToken.2⟩

theorem unspaced_of_parseInProcessProfileSyncFixtureEndpointRef
    {endpoint : InProcessProfileSyncFixtureEndpointRef}
    (parsed : parseInProcessProfileSyncFixtureEndpointRef text = some endpoint) :
    Text.Unspaced text.toList := by
  obtain ⟨behind, stripped, read⟩ := Option.bind_eq_some_iff.mp parsed
  obtain ⟨⟨networkId, providerId⟩, split, read⟩ := Option.bind_eq_some_iff.mp read
  have unspaced_of_isToken : ∀ token,
      isInProcessProfileSyncFixtureEndpointToken token = true → Text.Unspaced token := by
    intro token isToken
    rw [isInProcessProfileSyncFixtureEndpointToken, Bool.and_eq_true] at isToken
    exact unspaced_of_token (by decide) isToken.2
  dsimp only at read
  split at read
  · cases read
  · rename_i tokens
    rw [Bool.or_eq_true, not_or, Bool.not_eq_true', Bool.not_eq_true', Bool.not_eq_false,
      Bool.not_eq_false] at tokens
    rw [eq_append_of_stripPrefix stripped, Text.eq_of_splitOnce split, Text.unspaced_append,
      Text.unspaced_append, Text.unspaced_append]
    exact ⟨by decide, ⟨unspaced_of_isToken _ tokens.1, by decide⟩, unspaced_of_isToken _ tokens.2⟩

end Texts

section Classes

variable {provider : StorageProviderRecord}

/-- The class of a stored provider's endpoint. -/
def endpointClass (provider : StorageProviderRecord) : SettingsSyncStoredProviderEndpointStatus :=
  classifyProfileSyncProviderEndpoint provider.providerId provider.endpointRef

/-- The stored endpoint has no white space around it. -/
def StoredTrimmed (provider : StorageProviderRecord) : Prop :=
  ∀ endpointRef, provider.endpointRef = some endpointRef → trimmed endpointRef = endpointRef

/-- The request for what is stored of a provider. -/
def storedRequest (provider : StorageProviderRecord) :
    SettingsSyncSelectedEndpointMaterializationRequest where
  providerId := provider.providerId
  endpointRef := provider.endpointRef
  endpointStatus := endpointClass provider

/-- What the classification of a trimmed text says of this text. -/
theorem class_cases {endpointRef : String} (isStored : provider.endpointRef = some endpointRef) :
    (endpointClass provider = .multiaddr → isMultiaddrLikeEndpoint (trimmed endpointRef) = true) ∧
    (endpointClass provider = .deferredProtocol →
      isDeferredProtocolEndpoint (trimmed endpointRef) = true) ∧
    (endpointClass provider = .inProcessFixture →
      ((parseInProcessProfileSyncFixtureEndpointRef (trimmed endpointRef)).any
        fun endpoint => endpoint.providerId = provider.providerId) = true) := by
  unfold endpointClass classifyProfileSyncProviderEndpoint
  rw [isStored, Option.map_some, Option.filter_some]
  split
  · simp
  · rename_i found isFound
    split at isFound
    · obtain rfl := Option.some.inj isFound
      split_ifs <;> simp_all
    · cases isFound

theorem exists_text_of_class (notMissing : endpointClass provider ≠ .missing) :
    ∃ endpointRef, provider.endpointRef = some endpointRef := by
  apply Option.ne_none_iff_exists'.mp
  intro isNone
  apply notMissing
  rw [endpointClass, isNone]
  rfl

theorem storedTrimmed_iff {endpointRef : String}
    (isStored : provider.endpointRef = some endpointRef) :
    StoredTrimmed provider ↔ trimmed endpointRef = endpointRef := by
  constructor
  · exact fun isTrimmed => isTrimmed endpointRef isStored
  · intro same other isOther
    rw [isStored] at isOther
    obtain rfl := Option.some.inj isOther
    exact same

/-- A parser that takes no white space reads what is stored if it reads the trimmed text and
nothing was trimmed. -/
theorem isSome_read_iff {Endpoint : Type} {read : String → Option Endpoint}
    (unspaced : ∀ text endpoint, read text = some endpoint → Text.Unspaced text.toList)
    {endpointRef : String} (accepted : (read (trimmed endpointRef)).isSome = true) :
    (read endpointRef).isSome = true ↔ trimmed endpointRef = endpointRef := by
  constructor
  · intro isRead
    obtain ⟨endpoint, isEndpoint⟩ := Option.isSome_iff_exists.mp isRead
    exact trimmed_of_trim (Text.trim_of_unspaced (unspaced _ _ isEndpoint))
  · intro same
    rwa [same] at accepted

theorem isSome_multiaddrMaterializationRequest :
    (storedRequest provider).multiaddrMaterializationRequest.isSome = true ↔
      endpointClass provider = .multiaddr ∧ StoredTrimmed provider := by
  have isParsed : (storedRequest provider).multiaddrMaterializationRequest.isSome =
      (storedRequest provider).parsedMultiaddr.isSome := Option.isSome_map ..
  rw [isParsed, SettingsSyncSelectedEndpointMaterializationRequest.parsedMultiaddr]
  by_cases isClass : (storedRequest provider).endpointStatus = .multiaddr
  · have isSameClass : endpointClass provider = .multiaddr := isClass
    obtain ⟨endpointRef, isStored⟩ := exists_text_of_class (by rw [isSameClass]; decide)
    have accepted := (class_cases isStored).1 isSameClass
    rw [if_neg (not_not.mpr isClass), storedTrimmed_iff isStored, isSameClass]
    simp only [storedRequest, isStored, Option.bind_some, true_and]
    apply @isSome_read_iff _ fun text => (parseMultiaddr text).toOption
    · intro text endpoint isRead
      cases parsed : parseMultiaddr text with
      | ok multiaddr => exact unspaced_of_parseMultiaddr parsed
      | error error =>
          rw [parsed] at isRead
          cases isRead
    · unfold isMultiaddrLikeEndpoint at accepted
      split at accepted
      · rename_i multiaddr parsed
        rw [parsed]
        rfl
      · cases accepted
  · rw [if_pos isClass]
    exact iff_of_false (by simp) fun both => isClass both.1

theorem isSome_deferredProtocolMaterializationRequest :
    (storedRequest provider).deferredProtocolMaterializationRequest.isSome = true ↔
      endpointClass provider = .deferredProtocol ∧ StoredTrimmed provider := by
  rw [SettingsSyncSelectedEndpointMaterializationRequest.deferredProtocolMaterializationRequest]
  by_cases isClass : (storedRequest provider).endpointStatus = .deferredProtocol
  · have isSameClass : endpointClass provider = .deferredProtocol := isClass
    obtain ⟨endpointRef, isStored⟩ := exists_text_of_class (by rw [isSameClass]; decide)
    have accepted := (class_cases isStored).2.1 isSameClass
    rw [isDeferredProtocolEndpoint_eq] at accepted
    rw [if_neg (not_not.mpr isClass), storedTrimmed_iff isStored, Option.isSome_map, isSameClass]
    simp only [storedRequest, isStored, Option.bind_some, true_and]
    apply isSome_read_iff _ accepted
    exact fun _ _ parsed => unspaced_of_parseDeferredProtocolEndpoint parsed
  · rw [if_pos isClass]
    exact iff_of_false (by simp) fun both => isClass both.1

end Classes

section Plans

/-- The storage providers that are read for a profile, one for each provider id. -/
structure StoredProviders where
  records : List StorageProviderRecord
  distinct : Rows.UniqueKeys (·.providerId) records

variable {preflight : SettingsSyncCyclePreflight} {maxStoredProviderCount : UInt32}
  {authorizedProviderIds : Finset String} {providers : StoredProviders}
  {provider : StorageProviderRecord}

/-- The plan of a cycle over the providers that are stored. -/
def StoredProviders.plan (providers : StoredProviders) (preflight : SettingsSyncCyclePreflight)
    (maxStoredProviderCount : UInt32) (authorizedProviderIds : Finset String) :
    SettingsSyncStoredRetentionProviderPlan :=
  settingsSyncStoredRetentionProviderPlan preflight maxStoredProviderCount
    (selectStoredRetentionProviderIds authorizedProviderIds providers.records)

/-- A stored provider that the plan selects. -/
structure Selected (providers : StoredProviders) (authorizedProviderIds : Finset String)
    (plan : SettingsSyncStoredRetentionProviderPlan) (provider : StorageProviderRecord) :
    Prop where
  stored : provider ∈ providers.records
  eligible : Eligible authorizedProviderIds provider
  selected : provider.providerId ∈ plan.cycle.selectedRetentionProviderIds

/-- The provider is listed where providers of this class belong. -/
def ListedUnder (plan : SettingsSyncStoredRetentionProviderPlan) (providerId : String) :
    SettingsSyncStoredProviderEndpointStatus → Prop
  | .missing =>
      providerId ∈ plan.selectedProtocolMaterializationPlan.missingEndpointProviderIds
  | .inProcessFixture =>
      providerId ∈ plan.selectedInProcessFixtureMaterializationTargets.map (·.providerId)
  | .multiaddr =>
      providerId ∈ plan.selectedProtocolMaterializationPlan.multiaddrRequests.map (·.providerId)
  | .deferredProtocol =>
      providerId ∈
        plan.selectedProtocolMaterializationPlan.deferredProtocolRequests.map (·.providerId)
  | .unsupported => providerId ∈ plan.selectedProtocolMaterializationPlan.failClosedProviderIds

theorem eq_of_providerId {other : StorageProviderRecord} (stored : provider ∈ providers.records)
    (isOther : other ∈ providers.records) (same : other.providerId = provider.providerId) :
    other = provider :=
  List.inj_on_of_nodup_map providers.distinct isOther stored same

/-- A search among the endpoints for this provider finds what is stored of it. -/
theorem find?_endpoint (stored : provider ∈ providers.records)
    (eligible : Eligible authorizedProviderIds provider)
    {sought : SettingsSyncStoredRetentionProviderEndpoint → Bool}
    (isProvider : ∀ endpoint, sought endpoint = true → endpoint.providerId = provider.providerId) :
    (providers.plan preflight maxStoredProviderCount
        authorizedProviderIds).enabledRetentionProviderEndpoints.find? sought =
      if sought (storedEndpoint provider) then some (storedEndpoint provider) else none := by
  have isList : (providers.plan preflight maxStoredProviderCount
      authorizedProviderIds).enabledRetentionProviderEndpoints =
        (providers.records.filter fun provider => Eligible authorizedProviderIds provider).map
          storedEndpoint := by
    unfold StoredProviders.plan settingsSyncStoredRetentionProviderPlan
      selectStoredRetentionProviderIds
    dsimp only
    rw [(endpoints_foldl_add _).1, List.nil_append]
  have isMember : storedEndpoint provider ∈ (providers.records.filter fun provider =>
      Eligible authorizedProviderIds provider).map storedEndpoint :=
    List.mem_map_of_mem (List.mem_filter.mpr ⟨stored, decide_eq_true eligible⟩)
  rw [isList]
  cases found : ((providers.records.filter fun provider =>
      Eligible authorizedProviderIds provider).map storedEndpoint).find? sought with
  | none =>
      rw [if_neg (List.find?_eq_none.mp found _ isMember)]
  | some endpoint =>
      obtain ⟨other, isOther, rfl⟩ := List.mem_map.mp (List.mem_of_find?_eq_some found)
      have isSought := List.find?_some found
      obtain rfl := eq_of_providerId stored (List.mem_filter.mp isOther).1 (isProvider _ isSought)
      rw [if_pos isSought]

theorem exists_selected (providerId : String)
    (isSelected : providerId ∈ (providers.plan preflight maxStoredProviderCount
      authorizedProviderIds).cycle.selectedRetentionProviderIds) :
    ∃ provider, provider.providerId = providerId ∧ Selected providers authorizedProviderIds
      (providers.plan preflight maxStoredProviderCount authorizedProviderIds) provider := by
  have isEnabled := (accountsForIds preflight _).asked .selected isSelected
  obtain ⟨provider, found⟩ := mem_enabledRetentionProviderIds isEnabled
  have isFound := List.find?_some found
  rw [decide_eq_true_iff] at isFound
  obtain ⟨eligible, rfl⟩ := isFound
  exact ⟨provider, rfl, List.mem_of_find?_eq_some found, eligible, isSelected⟩

section Requests

variable (isSelected : Selected providers authorizedProviderIds
  (providers.plan preflight maxStoredProviderCount authorizedProviderIds) provider)

include isSelected

/-- The only request for a selected provider is that for what is stored of it. -/
theorem mem_requests_iff {request : SettingsSyncSelectedEndpointMaterializationRequest} :
    request ∈ (providers.plan preflight maxStoredProviderCount
        authorizedProviderIds).selectedEndpointMaterializationPlan.requests ∧
      request.providerId = provider.providerId ↔ request = storedRequest provider := by
  have found : (providers.plan preflight maxStoredProviderCount
      authorizedProviderIds).enabledRetentionProviderEndpoints.find?
        (·.providerId = provider.providerId) = some (storedEndpoint provider) := by
    rw [find?_endpoint isSelected.stored isSelected.eligible fun _ same => of_decide_eq_true same]
    exact if_pos (decide_eq_true rfl)
  constructor
  · rintro ⟨isRequest, isSame⟩
    obtain ⟨providerId, isId, read⟩ := List.mem_filterMap.mp isRequest
    obtain ⟨endpoint, isEndpoint, isRead⟩ := Option.bind_eq_some_iff.mp read
    have isProviderId := List.find?_some isEndpoint
    rw [decide_eq_true_iff] at isProviderId
    obtain rfl := Option.some.inj isRead
    obtain rfl : providerId = provider.providerId := isProviderId.symm.trans isSame
    rw [found] at isEndpoint
    obtain rfl := Option.some.inj isEndpoint
    rfl
  · rintro rfl
    refine ⟨List.mem_filterMap.mpr ⟨provider.providerId, isSelected.selected, ?_⟩, rfl⟩
    rw [found]
    rfl

theorem mem_map_filter_requests (kept : SettingsSyncSelectedEndpointMaterializationRequest → Bool) :
    provider.providerId ∈ ((providers.plan preflight maxStoredProviderCount
        authorizedProviderIds).selectedEndpointMaterializationPlan.requests.filter kept).map
          (·.providerId) ↔ kept (storedRequest provider) = true := by
  constructor
  · intro isListed
    obtain ⟨request, isRequest, same⟩ := List.mem_map.mp isListed
    obtain ⟨isMember, isKept⟩ := List.mem_filter.mp isRequest
    rwa [(mem_requests_iff isSelected).mp ⟨isMember, same⟩] at isKept
  · intro isKept
    obtain ⟨isMember, same⟩ := (mem_requests_iff isSelected).mpr rfl
    exact List.mem_map.mpr ⟨_, List.mem_filter.mpr ⟨isMember, isKept⟩, same⟩

theorem mem_map_filterMap_requests {Listed : Type}
    {read : SettingsSyncSelectedEndpointMaterializationRequest → Option Listed}
    {idOf : Listed → String}
    (keepsId : ∀ request listed, read request = some listed → idOf listed = request.providerId) :
    provider.providerId ∈ ((providers.plan preflight maxStoredProviderCount
        authorizedProviderIds).selectedEndpointMaterializationPlan.requests.filterMap read).map
          idOf ↔ (read (storedRequest provider)).isSome = true := by
  constructor
  · intro isListed
    obtain ⟨listed, isMember, same⟩ := List.mem_map.mp isListed
    obtain ⟨request, isRequest, isRead⟩ := List.mem_filterMap.mp isMember
    rw [keepsId request listed isRead] at same
    rw [← (mem_requests_iff isSelected).mp ⟨isRequest, same⟩, isRead]
    rfl
  · intro isRead
    obtain ⟨listed, isListed⟩ := Option.isSome_iff_exists.mp isRead
    obtain ⟨isMember, same⟩ := (mem_requests_iff isSelected).mpr rfl
    refine List.mem_map.mpr ⟨listed, List.mem_filterMap.mpr ⟨_, isMember, isListed⟩, ?_⟩
    rw [keepsId _ listed isListed]
    rfl

theorem mem_fixtureTargets_iff :
    provider.providerId ∈ (providers.plan preflight maxStoredProviderCount
        authorizedProviderIds).selectedInProcessFixtureMaterializationTargets.map
          (·.providerId) ↔
      endpointClass provider = .inProcessFixture ∧ StoredTrimmed provider := by
  have found : (providers.plan preflight maxStoredProviderCount
      authorizedProviderIds).enabledRetentionProviderEndpoints.find? (fun endpoint =>
        endpoint.providerId = provider.providerId ∧ endpoint.endpointStatus = .inProcessFixture) =
      if endpointClass provider = .inProcessFixture then some (storedEndpoint provider)
      else none := by
    rw [find?_endpoint isSelected.stored isSelected.eligible fun _ isSought =>
      (of_decide_eq_true isSought).1]
    exact if_congr (decide_eq_true_iff.trans (and_iff_right rfl)) rfl rfl
  constructor
  · intro isListed
    obtain ⟨target, isTarget, same⟩ := List.mem_map.mp isListed
    obtain ⟨providerId, isId, read⟩ := List.mem_filterMap.mp isTarget
    obtain ⟨endpoint, isEndpoint, read⟩ := Option.bind_eq_some_iff.mp read
    obtain ⟨endpointRef, isStored, read⟩ := Option.bind_eq_some_iff.mp read
    obtain ⟨fixtureEndpoint, parsed, read⟩ := Option.bind_eq_some_iff.mp read
    split at read
    · cases read
    obtain rfl := Option.some.inj read
    obtain rfl : providerId = provider.providerId := same
    rw [found] at isEndpoint
    by_cases isClass : endpointClass provider = .inProcessFixture
    · rw [if_pos isClass] at isEndpoint
      obtain rfl := Option.some.inj isEndpoint
      refine ⟨isClass, (storedTrimmed_iff isStored).mpr (trimmed_of_trim ?_)⟩
      exact Text.trim_of_unspaced (unspaced_of_parseInProcessProfileSyncFixtureEndpointRef parsed)
    · rw [if_neg isClass] at isEndpoint
      cases isEndpoint
  · rintro ⟨isClass, isTrimmed⟩
    obtain ⟨endpointRef, isStored⟩ := exists_text_of_class (by rw [isClass]; decide)
    have accepted := (class_cases isStored).2.2 isClass
    rw [isTrimmed endpointRef isStored, Option.any_eq_true] at accepted
    obtain ⟨fixtureEndpoint, parsed, isProvider⟩ := accepted
    rw [decide_eq_true_iff] at isProvider
    refine List.mem_map.mpr ⟨⟨provider.providerId, fixtureEndpoint.networkId, endpointRef⟩, ?_, rfl⟩
    refine List.mem_filterMap.mpr ⟨provider.providerId, isSelected.selected, ?_⟩
    rw [found, if_pos isClass]
    simp only [storedEndpoint, isStored, parsed, isProvider, Option.bind_eq_bind, Option.bind_some,
      ne_eq, not_true_eq_false, if_false]

open SettingsSyncSelectedEndpointMaterializationRequest in
/-- Where a selected provider is listed. -/
theorem listedUnder_iff (status : SettingsSyncStoredProviderEndpointStatus) :
    ListedUnder (providers.plan preflight maxStoredProviderCount authorizedProviderIds)
        provider.providerId status ↔
      endpointClass provider = status ∧
        (status = .missing ∨ status = .unsupported ∨ StoredTrimmed provider) := by
  cases status with
  | missing =>
      refine (mem_map_filter_requests isSelected _).trans (decide_eq_true_iff.trans ?_)
      simp [storedRequest]
  | unsupported =>
      refine (mem_map_filter_requests isSelected _).trans (decide_eq_true_iff.trans ?_)
      simp [storedRequest]
  | inProcessFixture =>
      simpa [ListedUnder] using mem_fixtureTargets_iff isSelected
  | multiaddr =>
      refine (mem_map_filterMap_requests isSelected fun _ _ => providerId_of_multiaddr).trans ?_
      simpa using isSome_multiaddrMaterializationRequest
  | deferredProtocol =>
      refine (mem_map_filterMap_requests isSelected fun _ _ =>
        providerId_of_deferredProtocol).trans ?_
      simpa using isSome_deferredProtocolMaterializationRequest

end Requests

/-- A provider is listed where its class says, each selected provider is listed, and a plan that is
ready has all of them. -/
structure ClassificationHonoured (providers : StoredProviders)
    (authorizedProviderIds : Finset String) (plan : SettingsSyncStoredRetentionProviderPlan) :
    Prop where
  listed : ∀ provider, Selected providers authorizedProviderIds plan provider →
    ∀ status, endpointClass provider = status ↔ ListedUnder plan provider.providerId status
  reported : ∀ providerId ∈ plan.cycle.selectedRetentionProviderIds,
    ∃ status, ListedUnder plan providerId status
  accounted : plan.selectedProtocolMaterializationPlan.readyForProtocolMaterialization = true →
    ∀ providerId ∈ plan.cycle.selectedRetentionProviderIds,
      ∃ status, ListedUnder plan providerId status

/-- The classification is honoured unless a text that is not of the class missing or unsupported
is stored with white space around it. -/
theorem classificationHonoured_iff (preflight : SettingsSyncCyclePreflight)
    (maxStoredProviderCount : UInt32) (authorizedProviderIds : Finset String)
    (providers : StoredProviders) :
    ClassificationHonoured providers authorizedProviderIds
        (providers.plan preflight maxStoredProviderCount authorizedProviderIds) ↔
      ∀ provider, Selected providers authorizedProviderIds
          (providers.plan preflight maxStoredProviderCount authorizedProviderIds) provider →
        endpointClass provider = .missing ∨ endpointClass provider = .unsupported ∨
          StoredTrimmed provider := by
  constructor
  · intro honoured provider isSelected
    have isListed := (honoured.listed provider isSelected _).mp rfl
    exact ((listedUnder_iff isSelected _).mp isListed).2
  · intro readable
    have listed : ∀ provider, Selected providers authorizedProviderIds
        (providers.plan preflight maxStoredProviderCount authorizedProviderIds) provider →
        ∀ status, endpointClass provider = status ↔ ListedUnder
          (providers.plan preflight maxStoredProviderCount authorizedProviderIds)
            provider.providerId status := by
      intro provider isSelected status
      rw [listedUnder_iff isSelected]
      constructor
      · rintro rfl
        exact ⟨rfl, readable provider isSelected⟩
      · exact And.left
    have reported : ∀ providerId ∈ (providers.plan preflight maxStoredProviderCount
        authorizedProviderIds).cycle.selectedRetentionProviderIds, ∃ status, ListedUnder
          (providers.plan preflight maxStoredProviderCount authorizedProviderIds)
            providerId status := by
      intro providerId isId
      obtain ⟨provider, rfl, isSelected⟩ := exists_selected providerId isId
      exact ⟨_, (listed provider isSelected _).mp rfl⟩
    exact ⟨listed, reported, fun _ => reported⟩

end Plans

section Example

/-- An enabled provider of all roles at this endpoint. -/
def storedAt (providerId endpointRef : String) : StorageProviderRecord where
  profile := "default"
  providerId
  providerKind := "device"
  displayName := providerId
  endpointRef := some endpointRef
  discovery := true
  connectivity := true
  objectTransfer := true
  availability := true
  mutableRoots := true
  quotaBytes := none
  maxRetainedObjects := none
  pinningPolicy := none
  enabled := true
  createdAt := 0
  updatedAt := 0

/-- The desktop's endpoint was stored with a blank behind it, the relay's without. -/
def deskAndRelay : StoredProviders where
  records := [storedAt "desk" "/ip4/192.0.2.7/tcp/4100 ", storedAt "relay" "/dnsaddr/relay.test"]
  distinct := by simp [Rows.UniqueKeys, storedAt]

/-- A preflight that has these providers as its candidates. -/
def preflightOf (providerIds : List String) : SettingsSyncCyclePreflight where
  retentionProviderCandidates := providerIds.map fun providerId => {
    providerId
    providerKind := "device"
    privacyBoundary := "local"
    retainedObjects := 0
    roles := {
      discovery := true
      connectivity := true
      objectTransfer := true
      availability := true
      mutableRoots := true }
    canPublishRoots := true }
  beforeHealth := {
    providerHealth := {
      profile := "default"
      knownProviders := 2
      onlineProviders := 2
      offlineProviders := 0
      freshOnlineProviders := 2
      staleOnlineProviders := 0
      freshOnlineProviderIds := providerIds
      staleOnlineProviderIds := []
      offlineProviderIds := []
      minimumProviderSeenSequence := 0
      objectTransferProviders := 2
      availabilityProviders := 2
      mutableRootProviders := 2
      retainedObjects := 0
      degraded := false
      message := "" } }

def deskAndRelayPlan : SettingsSyncStoredRetentionProviderPlan :=
  deskAndRelay.plan (preflightOf ["desk", "relay"]) 8 {"desk", "relay"}

/-- The plan is ready for the relay alone, and the selected desktop is in none of its lists. -/
theorem padded_provider_is_dropped :
    deskAndRelayPlan.cycle.selectedRetentionProviderIds = ["desk", "relay"] ∧
      deskAndRelayPlan.selectedProtocolMaterializationPlan.readyForProtocolMaterialization = true ∧
      ¬ ClassificationHonoured deskAndRelay {"desk", "relay"} deskAndRelayPlan := by
  have isPlan : deskAndRelayPlan.selectedProtocolMaterializationPlan = {
      multiaddrRequests := [{ providerId := "relay", endpoint := "/dnsaddr/relay.test" }]
      deferredProtocolRequests := []
      missingEndpointProviderIds := []
      failClosedProviderIds := [] } := by decide
  have noTargets : deskAndRelayPlan.selectedInProcessFixtureMaterializationTargets = [] := by decide
  have selected : deskAndRelayPlan.cycle.selectedRetentionProviderIds = ["desk", "relay"] := by
    decide
  refine ⟨selected, by rw [isPlan]; rfl, ?_⟩
  intro honoured
  obtain ⟨status, isListed⟩ := honoured.reported "desk" (by rw [selected]; decide)
  cases status <;> simp [ListedUnder, isPlan, noTargets] at isListed

end Example

end Slate.ProfileSync
