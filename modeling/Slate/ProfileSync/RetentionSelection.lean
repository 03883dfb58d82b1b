import Slate.Broadwebd.LocalProfileSync
import Slate.Foundation.SeenList

/-!
# Selecting retention providers

A sync cycle retains its objects at providers that the preflight lists as candidates. Providers
that are asked for are told apart by what the preflight knows of them.
-/

namespace Slate.ProfileSync

open Foundation

universe u

section Plans

structure SettingsSyncHealthReport where
  providerHealth : Broadwebd.Local.ProfileSyncProviderHealth

structure SettingsSyncCyclePreflight where
  retentionProviderCandidates : List Broadwebd.Local.ProfileSyncProviderRecord
  beforeHealth : SettingsSyncHealthReport

structure SettingsSyncScheduledCyclePlan where
  preflight : SettingsSyncCyclePreflight
  selectedRetentionProviderIds : List String
  staleRetentionProviderIds : List String
  offlineRetentionProviderIds : List String
  ineligibleRetentionProviderIds : List String
  undiscoveredRetentionProviderIds : List String
  duplicateRetentionProviderIds : List String

/-- The lists that the loop over the provider ids fills, each with the ids it has seen. -/
structure SelectionLoop where
  selected : SeenList String
  stale : SeenList String
  offline : SeenList String
  ineligible : SeenList String
  undiscovered : SeenList String
  duplicate : SeenList String

def SelectionLoop.start : SelectionLoop where
  selected := .empty
  stale := .empty
  offline := .empty
  ineligible := .empty
  undiscovered := .empty
  duplicate := .empty

variable (preflight : SettingsSyncCyclePreflight)

def SelectionLoop.step (loop : SelectionLoop) (providerId : String) : SelectionLoop :=
  if providerId ∉ preflight.retentionProviderCandidates.map (·.providerId) then
    if providerId ∈ preflight.beforeHealth.providerHealth.staleOnlineProviderIds then
      { loop with stale := loop.stale.pushNew providerId }
    else if providerId ∈ preflight.beforeHealth.providerHealth.offlineProviderIds then
      { loop with offline := loop.offline.pushNew providerId }
    else if providerId ∈ preflight.beforeHealth.providerHealth.freshOnlineProviderIds then
      { loop with ineligible := loop.ineligible.pushNew providerId }
    else { loop with undiscovered := loop.undiscovered.pushNew providerId }
  else if providerId ∈ loop.selected.seen then
    { loop with duplicate := loop.duplicate.pushNew providerId }
  else { loop with selected := loop.selected.pushNew providerId }

def SelectionLoop.run (retentionProviderIds : List String) : SelectionLoop :=
  retentionProviderIds.foldl (SelectionLoop.step preflight) .start

def selectSettingsSyncRetentionProviderIds (retentionProviderIds : List String) :
    SettingsSyncScheduledCyclePlan :=
  let loop := SelectionLoop.run preflight retentionProviderIds
  { preflight
    selectedRetentionProviderIds := loop.selected.items
    staleRetentionProviderIds := loop.stale.items
    offlineRetentionProviderIds := loop.offline.items
    ineligibleRetentionProviderIds := loop.ineligible.items
    undiscoveredRetentionProviderIds := loop.undiscovered.items
    duplicateRetentionProviderIds := loop.duplicate.items }

end Plans

section Handles

variable {Daemon : Type u}

structure SettingsSyncRetentionProviderHandle (Daemon : Type u) where
  providerId : String
  endpointRef : Option String
  daemon : Daemon

structure SelectedSettingsSyncRetentionProviders (Daemon : Type u) where
  plan : SettingsSyncScheduledCyclePlan
  daemons : List Daemon

/-- The daemons of the first handles of selected providers. -/
def selectedDaemons (selectedProviderIds : List String) :
    List String → List (SettingsSyncRetentionProviderHandle Daemon) → List Daemon
  | _, [] => []
  | seenProviderIds, handle :: rest =>
    if handle.providerId ∈ selectedProviderIds ∧ handle.providerId ∉ seenProviderIds then
      handle.daemon :: selectedDaemons selectedProviderIds (handle.providerId :: seenProviderIds) rest
    else selectedDaemons selectedProviderIds seenProviderIds rest

def selectSettingsSyncRetentionProviderHandles (preflight : SettingsSyncCyclePreflight)
    (retentionProviderHandles : List (SettingsSyncRetentionProviderHandle Daemon)) :
    SelectedSettingsSyncRetentionProviders Daemon :=
  let plan := selectSettingsSyncRetentionProviderIds preflight
    (retentionProviderHandles.map (·.providerId))
  { plan
    daemons := selectedDaemons plan.selectedRetentionProviderIds [] retentionProviderHandles }

end Handles

section Standing

/-- What the preflight knows of a provider. -/
inductive ProviderStanding where
  | selected
  | stale
  | offline
  | ineligible
  | undiscovered
  deriving DecidableEq, Repr

def SettingsSyncCyclePreflight.standing (preflight : SettingsSyncCyclePreflight)
    (providerId : String) : ProviderStanding :=
  if providerId ∈ preflight.retentionProviderCandidates.map (·.providerId) then .selected
  else if providerId ∈ preflight.beforeHealth.providerHealth.staleOnlineProviderIds then .stale
  else if providerId ∈ preflight.beforeHealth.providerHealth.offlineProviderIds then .offline
  else if providerId ∈ preflight.beforeHealth.providerHealth.freshOnlineProviderIds then
    .ineligible
  else .undiscovered

def SelectionLoop.listOf (loop : SelectionLoop) : ProviderStanding → SeenList String
  | .selected => loop.selected
  | .stale => loop.stale
  | .offline => loop.offline
  | .ineligible => loop.ineligible
  | .undiscovered => loop.undiscovered

def SettingsSyncScheduledCyclePlan.idsOf (plan : SettingsSyncScheduledCyclePlan) :
    ProviderStanding → List String
  | .selected => plan.selectedRetentionProviderIds
  | .stale => plan.staleRetentionProviderIds
  | .offline => plan.offlineRetentionProviderIds
  | .ineligible => plan.ineligibleRetentionProviderIds
  | .undiscovered => plan.undiscoveredRetentionProviderIds

variable {preflight : SettingsSyncCyclePreflight} {loop : SelectionLoop} {providerId : String}
  {providerIds : List String}

/-- A step pushes a provider to the list of its standing, unless it is there. -/
theorem items_listOf_step (standing : ProviderStanding) :
    ((loop.step preflight providerId).listOf standing).items =
      if preflight.standing providerId = standing then
        ((loop.listOf standing).pushNew providerId).items
      else (loop.listOf standing).items := by
  unfold SelectionLoop.step SettingsSyncCyclePreflight.standing
  by_cases isCandidate :
      providerId ∈ preflight.retentionProviderCandidates.map (·.providerId)
  · rw [if_neg (not_not.mpr isCandidate), if_pos isCandidate]
    split
    · rename_i isSeen
      cases standing <;> simp [SelectionLoop.listOf, SeenList.pushNew_of_mem isSeen]
    · cases standing <;> simp [SelectionLoop.listOf]
  · rw [if_pos isCandidate, if_neg isCandidate]
    split
    · cases standing <;> simp [SelectionLoop.listOf]
    · split
      · cases standing <;> simp [SelectionLoop.listOf]
      · split <;> cases standing <;> simp [SelectionLoop.listOf]

theorem run_concat : SelectionLoop.run preflight (providerIds ++ [providerId]) =
    (SelectionLoop.run preflight providerIds).step preflight providerId :=
  List.foldl_concat _ _ _ _

/-- Each list holds the providers of its standing, as they occur first. -/
theorem items_listOf_run (standing : ProviderStanding) (providerIds : List String) :
    ((SelectionLoop.run preflight providerIds).listOf standing).items =
      providerIds.eraseDups.filter fun providerId => preflight.standing providerId = standing := by
  rw [← eraseDups_filter]
  induction providerIds using List.reverseRecOn with
  | nil => cases standing <;> rfl
  | append_singleton providerIds providerId inductionHypothesis =>
      rw [run_concat, items_listOf_step, List.filter_append]
      by_cases sameStanding : preflight.standing providerId = standing
      · rw [if_pos sameStanding, List.filter_cons_of_pos (by simpa using sameStanding),
          List.filter_nil]
        exact SeenList.items_pushNew_eraseDups inductionHypothesis
      · rw [if_neg sameStanding, inductionHypothesis,
          List.filter_cons_of_neg (by simpa using sameStanding), List.filter_nil, List.append_nil]

theorem idsOf_select (standing : ProviderStanding) (providerIds : List String) :
    (selectSettingsSyncRetentionProviderIds preflight providerIds).idsOf standing =
      providerIds.eraseDups.filter fun providerId => preflight.standing providerId = standing := by
  rw [← items_listOf_run]
  cases standing <;> rfl

/-- A step finds a duplicate in a selected provider that was selected before. -/
theorem mem_duplicate_step {other : String} :
    other ∈ (loop.step preflight providerId).duplicate.items ↔
      other ∈ loop.duplicate.items ∨ other = providerId ∧
        preflight.standing providerId = .selected ∧ providerId ∈ loop.selected.items := by
  have agrees := loop.selected.agrees providerId
  unfold SelectionLoop.step SettingsSyncCyclePreflight.standing
  by_cases isCandidate :
      providerId ∈ preflight.retentionProviderCandidates.map (·.providerId)
  · rw [if_neg (not_not.mpr isCandidate), if_pos isCandidate]
    split
    · rename_i isSeen
      simp [SeenList.mem_pushNew, ← agrees, isSeen]
    · rename_i isNew
      simp [← agrees, isNew]
  · rw [if_pos isCandidate, if_neg isCandidate]
    split
    · simp
    · split
      · simp
      · split <;> simp

/-- The duplicates are the selected providers that are repeated. -/
theorem mem_duplicate_run_iff :
    providerId ∈ (SelectionLoop.run preflight providerIds).duplicate.items ↔
      preflight.standing providerId = .selected ∧ 2 ≤ providerIds.count providerId := by
  induction providerIds using List.reverseRecOn with
  | nil => simp [SelectionLoop.run, SelectionLoop.start, SeenList.empty]
  | append_singleton providerIds last inductionHypothesis =>
      have selectedBefore : last ∈ (SelectionLoop.run preflight providerIds).selected.items ↔
          last ∈ providerIds ∧ preflight.standing last = .selected := by
        have isSelected := @items_listOf_run preflight .selected providerIds
        unfold SelectionLoop.listOf at isSelected
        simp [isSelected]
      rw [run_concat, mem_duplicate_step, inductionHypothesis, selectedBefore, List.count_append]
      by_cases same : providerId = last
      · subst same
        rw [List.count_singleton_self, ← List.one_le_count_iff]
        constructor
        · rintro (⟨isSelected, repeated⟩ | ⟨-, isSelected, before, -⟩)
          · exact ⟨isSelected, by omega⟩
          · exact ⟨isSelected, by omega⟩
        · rintro ⟨isSelected, repeated⟩
          exact .inr ⟨rfl, isSelected, by omega, isSelected⟩
      · simp [same, Ne.symm same]

end Standing

section Daemons

variable {Daemon : Type u} {handles rest : List (SettingsSyncRetentionProviderHandle Daemon)}

/-- The daemon of the first handle of a provider. -/
def FirstDaemon (handles : List (SettingsSyncRetentionProviderHandle Daemon))
    (providerId : String) (daemon : Daemon) : Prop :=
  ∃ handle, handles.find? (·.providerId = providerId) = some handle ∧ handle.daemon = daemon

/-- The loop over the rest of the handles hands out the daemons of the selected providers that
were not seen before. -/
theorem forall₂_selectedDaemons {selectedIds seen : List String}
    (unseen : ∀ providerId ∉ seen, handles.find? (·.providerId = providerId) =
      rest.find? (·.providerId = providerId) ∨ providerId ∉ selectedIds) :
    List.Forall₂ (FirstDaemon handles)
      ((rest.map (·.providerId)).filter fun providerId =>
        providerId ∈ selectedIds ∧ providerId ∉ seen).eraseDups
      (selectedDaemons selectedIds seen rest) := by
  induction rest generalizing seen with
  | nil => exact .nil
  | cons handle rest inductionHypothesis =>
      have behind : ∀ providerId, providerId ≠ handle.providerId →
          (handle :: rest).find? (·.providerId = providerId) =
            rest.find? (·.providerId = providerId) := by
        intro providerId other
        exact List.find?_cons_of_neg (by simpa using Ne.symm other)
      rw [List.map_cons, selectedDaemons]
      by_cases isNew : handle.providerId ∈ selectedIds ∧ handle.providerId ∉ seen
      · rw [if_pos isNew, List.filter_cons_of_pos (by simpa using isNew), List.eraseDups_cons,
          List.filter_filter]
        constructor
        · refine ⟨handle, ?_, rfl⟩
          rcases unseen handle.providerId isNew.2 with same | notSelected
          · rw [same]
            exact List.find?_cons_of_pos (by simp)
          · exact absurd isNew.1 notSelected
        · have later := @inductionHypothesis (handle.providerId :: seen) (by
            intro providerId notSeen
            obtain ⟨other, notBefore⟩ := List.ne_and_not_mem_of_not_mem_cons notSeen
            rw [← behind providerId other]
            exact unseen providerId notBefore)
          convert later using 3
          funext providerId
          simp [and_left_comm, beq_eq_decide]
      · rw [if_neg isNew, List.filter_cons_of_neg (by simpa using isNew)]
        apply inductionHypothesis
        intro providerId notSeen
        by_cases other : providerId = handle.providerId
        · right
          intro isSelected
          rw [other] at isSelected notSeen
          exact isNew ⟨isSelected, notSeen⟩
        · rw [← behind providerId other]
          exact unseen providerId notSeen

/-- The daemons of the selection are those of the selected providers, in their order. -/
theorem forall₂_selectedHandles (preflight : SettingsSyncCyclePreflight)
    (handles : List (SettingsSyncRetentionProviderHandle Daemon)) :
    List.Forall₂ (FirstDaemon handles)
      (selectSettingsSyncRetentionProviderHandles preflight
        handles).plan.selectedRetentionProviderIds
      (selectSettingsSyncRetentionProviderHandles preflight handles).daemons := by
  have isSelected := @idsOf_select preflight .selected (handles.map (·.providerId))
  have daemons := @forall₂_selectedDaemons Daemon handles handles
    (selectSettingsSyncRetentionProviderIds preflight
      (handles.map (·.providerId))).selectedRetentionProviderIds [] (fun _ _ => .inl rfl)
  have allSelected : ((handles.map (·.providerId)).filter fun providerId =>
      providerId ∈ (selectSettingsSyncRetentionProviderIds preflight
        (handles.map (·.providerId))).selectedRetentionProviderIds ∧ providerId ∉ []).eraseDups =
      (selectSettingsSyncRetentionProviderIds preflight
        (handles.map (·.providerId))).selectedRetentionProviderIds := by
    dsimp only [SettingsSyncScheduledCyclePlan.idsOf] at isSelected
    rw [isSelected, ← eraseDups_filter]
    congr 1
    apply List.filter_congr
    intro providerId isMember
    simpa using fun _ => isMember
  rw [allSelected] at daemons
  exact daemons

end Daemons

end Slate.ProfileSync
