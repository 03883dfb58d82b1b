import Slate.Broadwebd.EndpointClassification
import Slate.ProfileSync.RetentionSelection
import Slate.Storage.AppDomains

/-!
# Stored retention providers

The providers of a cycle come from the table of storage providers. A stored provider is asked for
if it is enabled, has the roles and is authorised; its daemon is handed out if exactly one handle
is for it, at the endpoint that is stored.
-/

namespace Slate.ProfileSync

open Foundation Storage Broadwebd

universe u

section Endpoints

inductive SettingsSyncStoredProviderEndpointStatus where
  | missing
  | inProcessFixture
  | multiaddr
  | deferredProtocol
  | unsupported
  deriving DecidableEq, Repr

def inProcessProfileSyncFixtureEndpointPrefix : String := "slate-fixture-profile-sync://"

structure InProcessProfileSyncFixtureEndpointRef where
  networkId : String
  providerId : String

def isInProcessProfileSyncFixtureEndpointToken (token : List Char) : Bool :=
  !token.isEmpty && (String.ofList token).utf8ByteSize ≤ 512 &&
    token.all fun char => isAsciiAlphanumeric char || "-_".toList.contains char

def parseInProcessProfileSyncFixtureEndpointRef (endpointRef : String) :
    Option InProcessProfileSyncFixtureEndpointRef := do
  let endpoint ← stripPrefix inProcessProfileSyncFixtureEndpointPrefix endpointRef
  let (networkId, providerId) ← Text.splitOnce ['/'] endpoint.toList
  if !isInProcessProfileSyncFixtureEndpointToken networkId ||
      !isInProcessProfileSyncFixtureEndpointToken providerId then none
  else some { networkId := String.ofList networkId, providerId := String.ofList providerId }

def isEndpointToken (token : String) : Bool :=
  !token.isEmpty && token.utf8ByteSize ≤ 512 &&
    token.toList.all fun char => isAsciiAlphanumeric char || "-_.:~%+=".toList.contains char

def isDeferredProtocolEndpoint (endpointRef : String) : Bool :=
  ["provider:", "iroh-node:", "tor-onion:", "i2p-destination:"].any fun front =>
    (stripPrefix front endpointRef).any isEndpointToken

def isMultiaddrLikeEndpoint (endpointRef : String) : Bool :=
  match parseMultiaddr endpointRef with
  | .ok multiaddr => 2 ≤ (multiaddrSegments multiaddr).length
  | .error _ => false

def classifyProfileSyncProviderEndpoint (providerId : String) (endpointRef : Option String) :
    SettingsSyncStoredProviderEndpointStatus :=
  match (endpointRef.map trimmed).filter fun endpoint => !endpoint.isEmpty with
  | none => .missing
  | some endpointRef =>
    if inProcessProfileSyncFixtureEndpointPrefix.toList <+: endpointRef.toList then
      if (parseInProcessProfileSyncFixtureEndpointRef endpointRef).any
          fun endpoint => endpoint.providerId = providerId then .inProcessFixture
      else .unsupported
    else if "fixture:".toList <+: endpointRef.toList then .unsupported
    else if isMultiaddrLikeEndpoint endpointRef then .multiaddr
    else if isDeferredProtocolEndpoint endpointRef then .deferredProtocol
    else .unsupported

end Endpoints

section Plans

structure SettingsSyncStoredRetentionProviderEndpoint where
  providerId : String
  endpointRef : Option String
  endpointStatus : SettingsSyncStoredProviderEndpointStatus

structure StoredRetentionProviderSelection where
  storedProviderCount : Nat
  enabledRetentionProviderIds : List String
  enabledRetentionProviderEndpoints : List SettingsSyncStoredRetentionProviderEndpoint
  disabledProviderIds : List String
  storedRoleIneligibleProviderIds : List String
  unauthorizedProviderIds : List String

variable (authorizedProviderIds : Finset String)

def StoredRetentionProviderSelection.add (selection : StoredRetentionProviderSelection)
    (provider : StorageProviderRecord) : StoredRetentionProviderSelection :=
  if !provider.enabled then
    { selection with
      disabledProviderIds := selection.disabledProviderIds ++ [provider.providerId] }
  else if !(provider.availability && provider.objectTransfer) then
    { selection with
      storedRoleIneligibleProviderIds :=
        selection.storedRoleIneligibleProviderIds ++ [provider.providerId] }
  else if provider.providerId ∉ authorizedProviderIds then
    { selection with
      unauthorizedProviderIds := selection.unauthorizedProviderIds ++ [provider.providerId] }
  else
    { selection with
      enabledRetentionProviderEndpoints := selection.enabledRetentionProviderEndpoints ++ [{
        providerId := provider.providerId
        endpointStatus :=
          classifyProfileSyncProviderEndpoint provider.providerId provider.endpointRef
        endpointRef := provider.endpointRef }]
      enabledRetentionProviderIds :=
        selection.enabledRetentionProviderIds ++ [provider.providerId] }

def selectStoredRetentionProviderIds (providers : List StorageProviderRecord) :
    StoredRetentionProviderSelection :=
  providers.foldl (StoredRetentionProviderSelection.add authorizedProviderIds) {
    storedProviderCount := providers.length
    enabledRetentionProviderIds := []
    enabledRetentionProviderEndpoints := []
    disabledProviderIds := []
    storedRoleIneligibleProviderIds := []
    unauthorizedProviderIds := [] }

structure SettingsSyncStoredRetentionProviderPlan where
  maxStoredProviderCount : UInt32
  storedProviderCount : Nat
  enabledRetentionProviderIds : List String
  enabledRetentionProviderEndpoints : List SettingsSyncStoredRetentionProviderEndpoint
  disabledProviderIds : List String
  storedRoleIneligibleProviderIds : List String
  unauthorizedProviderIds : List String
  cycle : SettingsSyncScheduledCyclePlan

def settingsSyncStoredRetentionProviderPlan (preflight : SettingsSyncCyclePreflight)
    (maxStoredProviderCount : UInt32) (storedSelection : StoredRetentionProviderSelection) :
    SettingsSyncStoredRetentionProviderPlan where
  maxStoredProviderCount
  storedProviderCount := storedSelection.storedProviderCount
  enabledRetentionProviderIds := storedSelection.enabledRetentionProviderIds
  enabledRetentionProviderEndpoints := storedSelection.enabledRetentionProviderEndpoints
  disabledProviderIds := storedSelection.disabledProviderIds
  storedRoleIneligibleProviderIds := storedSelection.storedRoleIneligibleProviderIds
  unauthorizedProviderIds := storedSelection.unauthorizedProviderIds
  cycle := selectSettingsSyncRetentionProviderIds preflight
    storedSelection.enabledRetentionProviderIds

end Plans

section Materialization

structure MaterializedStoredRetentionProviders (Daemon : Type u) where
  materializedRetentionProviderIds : List String
  unmaterializedRetentionProviderIds : List String
  pendingEndpointMaterializationRetentionProviderIds : List String
  endpointMismatchRetentionProviderIds : List String
  duplicateHandleRetentionProviderIds : List String
  unsupportedEndpointRetentionProviderIds : List String
  daemons : List Daemon

variable {Daemon : Type u} (plan : SettingsSyncStoredRetentionProviderPlan)
  (handles : List (SettingsSyncRetentionProviderHandle Daemon))

def storedProviderEndpointStatus (providerId : String) :
    SettingsSyncStoredProviderEndpointStatus :=
  ((plan.enabledRetentionProviderEndpoints.find? (·.providerId = providerId)).map
    (·.endpointStatus)).getD .unsupported

def storedProviderEndpointMatchesHandle (providerId : String)
    (handleEndpointRef : Option String) : Bool :=
  match (plan.enabledRetentionProviderEndpoints.find? (·.providerId = providerId)).bind
      (·.endpointRef) with
  | none => true
  | some storedEndpointRef => handleEndpointRef = some storedEndpointRef

namespace MaterializedStoredRetentionProviders

def empty : MaterializedStoredRetentionProviders Daemon where
  materializedRetentionProviderIds := []
  unmaterializedRetentionProviderIds := []
  pendingEndpointMaterializationRetentionProviderIds := []
  endpointMismatchRetentionProviderIds := []
  duplicateHandleRetentionProviderIds := []
  unsupportedEndpointRetentionProviderIds := []
  daemons := []

def add (result : MaterializedStoredRetentionProviders Daemon) (providerId : String) :
    MaterializedStoredRetentionProviders Daemon :=
  let endpointStatus := storedProviderEndpointStatus plan providerId
  if endpointStatus = .unsupported then
    { result with
      unsupportedEndpointRetentionProviderIds :=
        result.unsupportedEndpointRetentionProviderIds ++ [providerId] }
  else
    match handles.filter (·.providerId = providerId) with
    | [handle] =>
      if !storedProviderEndpointMatchesHandle plan providerId handle.endpointRef then
        { result with
          endpointMismatchRetentionProviderIds :=
            result.endpointMismatchRetentionProviderIds ++ [providerId] }
      else
        { result with
          materializedRetentionProviderIds :=
            result.materializedRetentionProviderIds ++ [providerId]
          daemons := result.daemons ++ [handle.daemon] }
    | _ :: _ :: _ =>
      { result with
        duplicateHandleRetentionProviderIds :=
          result.duplicateHandleRetentionProviderIds ++ [providerId] }
    | [] =>
      if endpointStatus = .missing ∨ endpointStatus = .multiaddr ∨
          endpointStatus = .deferredProtocol then
        { result with
          pendingEndpointMaterializationRetentionProviderIds :=
            result.pendingEndpointMaterializationRetentionProviderIds ++ [providerId] }
      else
        { result with
          unmaterializedRetentionProviderIds :=
            result.unmaterializedRetentionProviderIds ++ [providerId] }

end MaterializedStoredRetentionProviders

def materializeStoredRetentionProviderDaemons : MaterializedStoredRetentionProviders Daemon :=
  plan.cycle.selectedRetentionProviderIds.foldl
    (MaterializedStoredRetentionProviders.add plan handles) .empty

end Materialization

section StoredSelection

variable {authorizedProviderIds : Finset String} {providers : List StorageProviderRecord}

/-- A stored provider that is enabled, can serve and is authorised. -/
structure Eligible (authorizedProviderIds : Finset String) (provider : StorageProviderRecord) :
    Prop where
  enabled : provider.enabled = true
  availability : provider.availability = true
  objectTransfer : provider.objectTransfer = true
  authorized : provider.providerId ∈ authorizedProviderIds

theorem eligible_iff {provider : StorageProviderRecord} :
    Eligible authorizedProviderIds provider ↔
      provider.enabled = true ∧ provider.availability = true ∧ provider.objectTransfer = true ∧
        provider.providerId ∈ authorizedProviderIds :=
  ⟨fun eligible => ⟨eligible.1, eligible.2, eligible.3, eligible.4⟩,
    fun ⟨enabled, availability, objectTransfer, authorized⟩ =>
      ⟨enabled, availability, objectTransfer, authorized⟩⟩

instance (provider : StorageProviderRecord) :
    Decidable (Eligible authorizedProviderIds provider) := decidable_of_iff _ eligible_iff.symm

def storedEndpoint (provider : StorageProviderRecord) :
    SettingsSyncStoredRetentionProviderEndpoint where
  providerId := provider.providerId
  endpointRef := provider.endpointRef
  endpointStatus := classifyProfileSyncProviderEndpoint provider.providerId provider.endpointRef

theorem endpoints_add (selection : StoredRetentionProviderSelection)
    (provider : StorageProviderRecord) :
    (selection.add authorizedProviderIds provider).enabledRetentionProviderEndpoints =
        selection.enabledRetentionProviderEndpoints ++
          ([provider].filter fun provider => Eligible authorizedProviderIds provider).map
            storedEndpoint ∧
      (selection.add authorizedProviderIds provider).enabledRetentionProviderIds =
        selection.enabledRetentionProviderIds ++
          ([provider].filter fun provider => Eligible authorizedProviderIds provider).map
            (·.providerId) := by
  unfold StoredRetentionProviderSelection.add
  cases enabled : provider.enabled <;> cases availability : provider.availability <;>
    cases objectTransfer : provider.objectTransfer <;>
    by_cases authorized : provider.providerId ∈ authorizedProviderIds <;>
    simp [eligible_iff, enabled, availability, objectTransfer, authorized, storedEndpoint]

theorem endpoints_foldl_add (selection : StoredRetentionProviderSelection) :
    (providers.foldl (StoredRetentionProviderSelection.add authorizedProviderIds)
        selection).enabledRetentionProviderEndpoints =
        selection.enabledRetentionProviderEndpoints ++
          (providers.filter fun provider => Eligible authorizedProviderIds provider).map
            storedEndpoint ∧
      (providers.foldl (StoredRetentionProviderSelection.add authorizedProviderIds)
        selection).enabledRetentionProviderIds =
        selection.enabledRetentionProviderIds ++
          (providers.filter fun provider => Eligible authorizedProviderIds provider).map
            (·.providerId) := by
  induction providers generalizing selection with
  | nil => simp
  | cons provider rest inductionHypothesis =>
      obtain ⟨endpoints, ids⟩ := @endpoints_add authorizedProviderIds selection provider
      obtain ⟨restEndpoints, restIds⟩ :=
        inductionHypothesis (selection.add authorizedProviderIds provider)
      have split : provider :: rest = [provider] ++ rest := rfl
      rw [List.foldl_cons, restEndpoints, restIds, endpoints, ids, split, List.filter_append,
        List.map_append, List.map_append, List.append_assoc, List.append_assoc]
      exact ⟨rfl, rfl⟩

/-- What is stored for a selected provider is its first eligible record. -/
theorem find?_enabledRetentionProviderEndpoints (providerId : String) :
    (selectStoredRetentionProviderIds authorizedProviderIds
        providers).enabledRetentionProviderEndpoints.find? (·.providerId = providerId) =
      (providers.find? fun provider => Eligible authorizedProviderIds provider ∧
        provider.providerId = providerId).map storedEndpoint := by
  unfold selectStoredRetentionProviderIds
  rw [(endpoints_foldl_add _).1, List.nil_append, List.find?_map, List.find?_filter]
  congr 2
  funext provider
  apply decide_eq_decide.mpr
  rw [decide_eq_true_iff]
  exact and_congr_right fun _ => decide_eq_true_iff

theorem mem_enabledRetentionProviderIds {providerId : String}
    (isEnabled : providerId ∈ (selectStoredRetentionProviderIds authorizedProviderIds
      providers).enabledRetentionProviderIds) :
    ∃ provider, (providers.find? fun provider => Eligible authorizedProviderIds provider ∧
      provider.providerId = providerId) = some provider := by
  unfold selectStoredRetentionProviderIds at isEnabled
  rw [(endpoints_foldl_add _).2, List.nil_append] at isEnabled
  obtain ⟨provider, isProvider, rfl⟩ := List.mem_map.mp isEnabled
  obtain ⟨isMember, eligible⟩ := List.mem_filter.mp isProvider
  apply Option.isSome_iff_exists.mp
  rw [List.find?_isSome]
  exact ⟨provider, isMember, by simpa using eligible⟩

end StoredSelection

section Materializations

variable {Daemon : Type u} {plan : SettingsSyncStoredRetentionProviderPlan}
  {handles : List (SettingsSyncRetentionProviderHandle Daemon)} {providerId : String}
  {result : MaterializedStoredRetentionProviders Daemon}

/-- How the daemon of a selected provider is sought. -/
inductive Materialization where
  | materialized
  | unmaterialized
  | pendingEndpoint
  | endpointMismatch
  | duplicateHandle
  | unsupportedEndpoint
  deriving DecidableEq, Repr

def materializationOf (plan : SettingsSyncStoredRetentionProviderPlan)
    (handles : List (SettingsSyncRetentionProviderHandle Daemon)) (providerId : String) :
    Materialization :=
  let endpointStatus := storedProviderEndpointStatus plan providerId
  if endpointStatus = .unsupported then .unsupportedEndpoint
  else
    match handles.filter (·.providerId = providerId) with
    | [handle] =>
      if storedProviderEndpointMatchesHandle plan providerId handle.endpointRef then .materialized
      else .endpointMismatch
    | _ :: _ :: _ => .duplicateHandle
    | [] =>
      if endpointStatus = .missing ∨ endpointStatus = .multiaddr ∨
          endpointStatus = .deferredProtocol then .pendingEndpoint
      else .unmaterialized

def MaterializedStoredRetentionProviders.idsOf
    (result : MaterializedStoredRetentionProviders Daemon) : Materialization → List String
  | .materialized => result.materializedRetentionProviderIds
  | .unmaterialized => result.unmaterializedRetentionProviderIds
  | .pendingEndpoint => result.pendingEndpointMaterializationRetentionProviderIds
  | .endpointMismatch => result.endpointMismatchRetentionProviderIds
  | .duplicateHandle => result.duplicateHandleRetentionProviderIds
  | .unsupportedEndpoint => result.unsupportedEndpointRetentionProviderIds

/-- A daemon that the plan lets the only handle of a provider hand out. -/
def Matched (plan : SettingsSyncStoredRetentionProviderPlan)
    (handles : List (SettingsSyncRetentionProviderHandle Daemon)) (providerId : String)
    (daemon : Daemon) : Prop :=
  ∃ handle, handles.filter (·.providerId = providerId) = [handle] ∧ handle.daemon = daemon ∧
    storedProviderEndpointMatchesHandle plan providerId handle.endpointRef = true

theorem idsOf_add (kind : Materialization) :
    (result.add plan handles providerId).idsOf kind =
      result.idsOf kind ++ if materializationOf plan handles providerId = kind then [providerId]
        else [] := by
  unfold MaterializedStoredRetentionProviders.add materializationOf
  dsimp only
  split
  · cases kind <;> simp [MaterializedStoredRetentionProviders.idsOf]
  · split
    · rename_i handle only
      by_cases matched : storedProviderEndpointMatchesHandle plan providerId handle.endpointRef <;>
        cases kind <;> simp [MaterializedStoredRetentionProviders.idsOf, matched]
    · cases kind <;> simp [MaterializedStoredRetentionProviders.idsOf]
    · split <;> cases kind <;> simp [MaterializedStoredRetentionProviders.idsOf]

theorem forall₂_add
    (matched : List.Forall₂ (Matched plan handles) result.materializedRetentionProviderIds
      result.daemons) :
    List.Forall₂ (Matched plan handles)
      (result.add plan handles providerId).materializedRetentionProviderIds
      (result.add plan handles providerId).daemons := by
  unfold MaterializedStoredRetentionProviders.add
  dsimp only
  split
  · exact matched
  · split
    · rename_i handle only
      by_cases isMatch : storedProviderEndpointMatchesHandle plan providerId handle.endpointRef
      · rw [if_neg (by simp [isMatch])]
        exact List.rel_append matched (.cons ⟨handle, only, rfl, isMatch⟩ .nil)
      · rw [if_pos (by simp [isMatch])]
        exact matched
    · exact matched
    · split <;> exact matched

theorem idsOf_foldl_add (kind : Materialization) (providerIds : List String) :
    (providerIds.foldl (MaterializedStoredRetentionProviders.add plan handles) result).idsOf kind =
      result.idsOf kind ++ providerIds.filter fun providerId =>
        materializationOf plan handles providerId = kind := by
  induction providerIds generalizing result with
  | nil => simp
  | cons providerId rest inductionHypothesis =>
      rw [List.foldl_cons, inductionHypothesis, idsOf_add, List.append_assoc]
      by_cases same : materializationOf plan handles providerId = kind <;> simp [same]

theorem forall₂_foldl_add (providerIds : List String)
    (matched : List.Forall₂ (Matched plan handles) result.materializedRetentionProviderIds
      result.daemons) :
    List.Forall₂ (Matched plan handles)
      (providerIds.foldl (MaterializedStoredRetentionProviders.add plan handles)
        result).materializedRetentionProviderIds
      (providerIds.foldl (MaterializedStoredRetentionProviders.add plan handles)
        result).daemons := by
  induction providerIds generalizing result with
  | nil => exact matched
  | cons providerId rest inductionHypothesis => exact inductionHypothesis (forall₂_add matched)

theorem idsOf_materialize (kind : Materialization) :
    (materializeStoredRetentionProviderDaemons plan handles).idsOf kind =
      plan.cycle.selectedRetentionProviderIds.filter fun providerId =>
        materializationOf plan handles providerId = kind := by
  unfold materializeStoredRetentionProviderDaemons
  rw [idsOf_foldl_add]
  cases kind <;> rfl

end Materializations

section Accounts

/-- Each provider that is asked for is in exactly one list of the plan, and the lists hold first
occurrences in their order. -/
structure AccountsForIds (providerIds : List String) (plan : SettingsSyncScheduledCyclePlan) :
    Prop where
  placed : ∀ providerId ∈ providerIds, ∃! standing, providerId ∈ plan.idsOf standing
  asked : ∀ standing, plan.idsOf standing ⊆ providerIds
  nodup : ∀ standing, (plan.idsOf standing).Nodup
  ordered : ∀ standing, (plan.idsOf standing).Pairwise fun first second =>
    providerIds.idxOf first < providerIds.idxOf second
  duplicate : ∀ providerId, providerId ∈ plan.duplicateRetentionProviderIds ↔
    providerId ∈ plan.selectedRetentionProviderIds ∧ 2 ≤ providerIds.count providerId
  duplicateNodup : plan.duplicateRetentionProviderIds.Nodup

variable {Daemon : Type u}

/-- A daemon of the only handle of a provider that is stored and eligible, at the stored
endpoint. -/
def HandedOut (authorizedProviderIds : Finset String)
    (providers : List StorageProviderRecord)
    (handles : List (SettingsSyncRetentionProviderHandle Daemon)) (providerId : String)
    (daemon : Daemon) : Prop :=
  ∃ provider handle,
    (providers.find? fun provider => Eligible authorizedProviderIds provider ∧
      provider.providerId = providerId) = some provider ∧
    handles.filter (·.providerId = providerId) = [handle] ∧ handle.daemon = daemon ∧
    ∀ endpointRef, provider.endpointRef = some endpointRef → handle.endpointRef = some endpointRef

/-- Each selected provider is in exactly one list of the materialization, and the daemons are
handed out for the materialized ones, in their order. -/
structure AccountsForSelected (authorizedProviderIds : Finset String)
    (providers : List StorageProviderRecord)
    (handles : List (SettingsSyncRetentionProviderHandle Daemon)) (selectedIds : List String)
    (result : MaterializedStoredRetentionProviders Daemon) : Prop where
  placed : ∀ providerId ∈ selectedIds, ∃! kind, providerId ∈ result.idsOf kind
  selected : ∀ kind, (result.idsOf kind).Sublist selectedIds
  handedOut : List.Forall₂ (HandedOut authorizedProviderIds providers handles)
    result.materializedRetentionProviderIds result.daemons

theorem accountsForIds (preflight : SettingsSyncCyclePreflight) (providerIds : List String) :
    AccountsForIds providerIds (selectSettingsSyncRetentionProviderIds preflight providerIds) := by
  constructor
  case placed =>
    intro providerId isAsked
    refine ⟨preflight.standing providerId, ?_, ?_⟩
    · simpa [idsOf_select] using isAsked
    · intro standing isMember
      rw [idsOf_select] at isMember
      exact (of_decide_eq_true (List.mem_filter.mp isMember).2).symm
  case asked =>
    intro standing providerId isMember
    rw [idsOf_select] at isMember
    exact List.mem_eraseDups.mp (List.mem_filter.mp isMember).1
  case nodup =>
    intro standing
    rw [idsOf_select]
    exact (nodup_eraseDups providerIds).filter _
  case ordered =>
    intro standing
    rw [idsOf_select]
    exact (pairwise_idxOf_eraseDups providerIds).filter _
  case duplicate =>
    intro providerId
    have isSelected := @idsOf_select preflight .selected providerIds
    dsimp only [SettingsSyncScheduledCyclePlan.idsOf] at isSelected
    rw [isSelected]
    refine mem_duplicate_run_iff.trans ?_
    rw [List.mem_filter, List.mem_eraseDups, decide_eq_true_iff]
    constructor
    · rintro ⟨selected, repeated⟩
      have isAsked : providerId ∈ providerIds := List.one_le_count_iff.mp (by omega)
      exact ⟨⟨isAsked, selected⟩, repeated⟩
    · rintro ⟨⟨-, selected⟩, repeated⟩
      exact ⟨selected, repeated⟩
  case duplicateNodup => exact (SelectionLoop.run preflight providerIds).duplicate.nodup

theorem accountsForSelected (preflight : SettingsSyncCyclePreflight)
    (maxStoredProviderCount : UInt32) (authorizedProviderIds : Finset String)
    (providers : List StorageProviderRecord)
    (handles : List (SettingsSyncRetentionProviderHandle Daemon)) :
    AccountsForSelected authorizedProviderIds providers handles
      (settingsSyncStoredRetentionProviderPlan preflight maxStoredProviderCount
        (selectStoredRetentionProviderIds authorizedProviderIds
          providers)).cycle.selectedRetentionProviderIds
      (materializeStoredRetentionProviderDaemons
        (settingsSyncStoredRetentionProviderPlan preflight maxStoredProviderCount
          (selectStoredRetentionProviderIds authorizedProviderIds providers)) handles) := by
  generalize isPlan : settingsSyncStoredRetentionProviderPlan preflight maxStoredProviderCount
    (selectStoredRetentionProviderIds authorizedProviderIds providers) = plan
  constructor
  case placed =>
    intro providerId isSelected
    refine ⟨materializationOf plan handles providerId, ?_, ?_⟩
    · simpa [idsOf_materialize] using isSelected
    · intro kind isMember
      rw [idsOf_materialize] at isMember
      exact (of_decide_eq_true (List.mem_filter.mp isMember).2).symm
  case selected =>
    intro kind
    rw [idsOf_materialize]
    exact List.filter_sublist
  case handedOut =>
    have matched : List.Forall₂ (Matched plan handles)
        (materializeStoredRetentionProviderDaemons plan handles).materializedRetentionProviderIds
        (materializeStoredRetentionProviderDaemons plan handles).daemons :=
      forall₂_foldl_add plan.cycle.selectedRetentionProviderIds .nil
    have stored : ∀ providerId ∈
        (materializeStoredRetentionProviderDaemons plan handles).materializedRetentionProviderIds,
        ∃ provider, (providers.find? fun provider => Eligible authorizedProviderIds provider ∧
          provider.providerId = providerId) = some provider := by
      intro providerId isMaterialized
      have isSelected : providerId ∈ plan.cycle.selectedRetentionProviderIds := by
        have isMember := @idsOf_materialize _ plan handles .materialized
        dsimp only [MaterializedStoredRetentionProviders.idsOf] at isMember
        rw [isMember] at isMaterialized
        exact (List.mem_filter.mp isMaterialized).1
      rw [← isPlan] at isSelected
      exact mem_enabledRetentionProviderIds
        ((accountsForIds preflight _).asked .selected isSelected)
    refine (List.forall₂_and_left _ _ |>.mpr ⟨stored, matched⟩).imp ?_
    rintro providerId daemon ⟨⟨provider, isStored⟩, handle, only, isDaemon, isMatch⟩
    refine ⟨provider, handle, isStored, only, isDaemon, fun endpointRef isEndpoint => ?_⟩
    unfold storedProviderEndpointMatchesHandle at isMatch
    have isFound : plan.enabledRetentionProviderEndpoints.find? (·.providerId = providerId) =
        some (storedEndpoint provider) := by
      rw [← isPlan]
      refine (find?_enabledRetentionProviderEndpoints providerId).trans ?_
      rw [isStored]
      rfl
    rw [isFound] at isMatch
    simpa [storedEndpoint, isEndpoint] using isMatch

/-- The selection accounts for every provider that is asked for, its daemons are those of the
selected providers, and the materialization accounts for every selected stored provider. -/
theorem retention_providers_accounted (preflight : SettingsSyncCyclePreflight)
    (providerIds : List String) (maxStoredProviderCount : UInt32)
    (authorizedProviderIds : Finset String) (providers : List StorageProviderRecord)
    (handles : List (SettingsSyncRetentionProviderHandle Daemon)) :
    AccountsForIds providerIds (selectSettingsSyncRetentionProviderIds preflight providerIds) ∧
      (AccountsForIds (handles.map (·.providerId))
          (selectSettingsSyncRetentionProviderHandles preflight handles).plan ∧
        List.Forall₂ (FirstDaemon handles)
          (selectSettingsSyncRetentionProviderHandles preflight
            handles).plan.selectedRetentionProviderIds
          (selectSettingsSyncRetentionProviderHandles preflight handles).daemons) ∧
      AccountsForSelected authorizedProviderIds providers handles
        (settingsSyncStoredRetentionProviderPlan preflight maxStoredProviderCount
          (selectStoredRetentionProviderIds authorizedProviderIds
            providers)).cycle.selectedRetentionProviderIds
        (materializeStoredRetentionProviderDaemons
          (settingsSyncStoredRetentionProviderPlan preflight maxStoredProviderCount
            (selectStoredRetentionProviderIds authorizedProviderIds providers)) handles) :=
  ⟨accountsForIds preflight providerIds,
    ⟨accountsForIds preflight _, forall₂_selectedHandles preflight handles⟩,
    accountsForSelected preflight maxStoredProviderCount authorizedProviderIds providers handles⟩

end Accounts

end Slate.ProfileSync
