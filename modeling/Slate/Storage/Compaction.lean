import Slate.Storage.Publication
import Slate.Storage.PullScope

/-!
# What a compaction target covers

A target covers the events up to one position and leaves the later ones in the tail. The
position is the last one whose event is old enough, and times need not increase with
revisions, so an event that is too young is covered when an older one comes after it.
-/

namespace Slate.Storage

open Slate.Foundation

variable {α : Type}

/-- The positions up to the last one that satisfies a test are those with one at or after
them. -/
theorem le_lastPosition_iff {test : α → Bool} {items : List α} {fromEnd i : Nat}
    (found : items.reverse.findIdx? test = some fromEnd) :
    i ≤ items.length - 1 - fromEnd ↔
      ∃ j, i ≤ j ∧ ∃ inside : j < items.length, test items[j] := by
  obtain ⟨bounded, passes, skipped⟩ := List.findIdx?_eq_some_iff_getElem.mp found
  rw [List.length_reverse] at bounded
  constructor
  · intro atMost
    refine ⟨items.length - 1 - fromEnd, atMost, by omega, ?_⟩
    simpa only [List.getElem_reverse] using passes
  · intro ⟨j, after, inside, later⟩
    by_contra beyond
    apply skipped (items.length - 1 - j) (by omega)
    rw [List.getElem_reverse]
    have same : items.length - 1 - (items.length - 1 - j) = j := by omega
    simpa only [same] using later

theorem exists_lastPosition {test : α → Bool} {items : List α} {j : Nat}
    (inside : j < items.length) (passes : test items[j]) :
    ∃ fromEnd, items.reverse.findIdx? test = some fromEnd := by
  apply Option.isSome_iff_exists.mp
  rw [List.findIdx?_isSome, List.any_reverse, List.any_eq_true]
  exact ⟨items[j], List.getElem_mem inside, passes⟩

namespace SlateProfileDatabase

section Target

variable (profile : String) (retentionPolicy : ProfileSyncRetentionPolicy) (now : Int)

def settingsSyncCompactionTarget (db : SlateProfileDatabase) : Option SyncCompactionTarget :=
  let previousSnapshotCoversRevision :=
    ((db.latestSyncSnapshot profile).map (·.coversRevision)).getD 0
  let events := db.syncSettingTextEventsAfter profile previousSnapshotCoversRevision u32Max
  (compactionTargetEventIndex events retentionPolicy now).bind fun targetIndex =>
    events[targetIndex]?.map fun target =>
      { profile, previousSnapshotCoversRevision
        coversRevision := target.revision.revision
        coversChangeId := target.change.id
        coveredChangeCount := targetIndex + 1
        retainedTailChangeCount := events.length - targetIndex - 1 }

/-- The target over every domain, or over the listed ones. -/
def compactionTarget (db : SlateProfileDatabase) :
    Option (List String) → Option SyncCompactionTarget
  | none => db.settingsSyncCompactionTarget profile retentionPolicy now
  | some includedDomains =>
      db.settingsSyncCompactionTargetForDomains profile retentionPolicy now includedDomains

/-- The events since the latest snapshot that a target is chosen from, in revision order. -/
def eventsToCompact (db : SlateProfileDatabase) : Option (List String) → List SyncSettingTextEvent
  | none => db.syncSettingTextEventsAfter profile
      (((db.latestSyncSnapshot profile).map (·.coversRevision)).getD 0) u32Max
  | some includedDomains => (db.syncSettingTextEventsAfter profile
      (((db.latestSyncSnapshot profile).map (·.coversRevision)).getD 0) u32Max).filter fun event =>
        (normalizedSnapshotDomains includedDomains).contains event.change.domain

end Target

end SlateProfileDatabase

open SlateProfileDatabase

/-- What the selection of a target takes as old enough. -/
def OldEnough (retentionPolicy : ProfileSyncRetentionPolicy) (now : Int)
    (event : SyncSettingTextEvent) : Prop :=
  event.change.createdAt ≤ saturatingSub now
    (if retentionPolicy.changeRetentionSeconds < 0 then 0
      else retentionPolicy.changeRetentionSeconds)

/-- Younger than the retention window. -/
def Young (retentionPolicy : ProfileSyncRetentionPolicy) (now : Int)
    (event : SyncSettingTextEvent) : Prop :=
  now - retentionPolicy.changeRetentionSeconds < event.change.createdAt

/-- A target that leaves the tail its count and covers nothing of the window. -/
structure RespectsRetention (retentionPolicy : ProfileSyncRetentionPolicy) (now : Int)
    (events : List SyncSettingTextEvent) (target : SyncCompactionTarget) : Prop where
  tail : retentionPolicy.minTailChangeCount ≤ target.retainedTailChangeCount
  window : ∀ event ∈ events.take target.coveredChangeCount, ¬Young retentionPolicy now event
  counts : target.coveredChangeCount + target.retainedTailChangeCount = events.length
  last : ∃ event, (events.take target.coveredChangeCount).getLast? = some event ∧
    target.coversRevision = event.revision.revision

section Index

variable {events : List SyncSettingTextEvent} {retentionPolicy : ProfileSyncRetentionPolicy}
  {now : Int}

theorem le_targetIndex_iff {index i : Nat}
    (found : compactionTargetEventIndex events retentionPolicy now = some index) :
    i ≤ index ↔ i + retentionPolicy.minTailChangeCount < events.length ∧
      ∃ j, i ≤ j ∧ ∃ inside : j < events.length, OldEnough retentionPolicy now events[j] := by
  unfold compactionTargetEventIndex at found
  split at found
  · cases found
  · rename_i more
    obtain ⟨fromEnd, newest, rfl⟩ := Option.map_eq_some_iff.mp found
    rw [le_min_iff, le_lastPosition_iff newest, and_comm]
    simp only [OldEnough, decide_eq_true_eq]
    apply and_congr_left
    intro _
    omega

theorem exists_targetIndex {i j : Nat} (enough : i + retentionPolicy.minTailChangeCount <
    events.length) (inside : j < events.length)
    (old : OldEnough retentionPolicy now events[j]) :
    ∃ index, compactionTargetEventIndex events retentionPolicy now = some index := by
  unfold compactionTargetEventIndex
  rw [if_neg (by omega)]
  obtain ⟨fromEnd, newest⟩ := @exists_lastPosition SyncSettingTextEvent
    (fun event => decide (event.change.createdAt ≤ saturatingSub now
      (if retentionPolicy.changeRetentionSeconds < 0 then 0
        else retentionPolicy.changeRetentionSeconds))) _ _ inside (decide_eq_true old)
  exact ⟨_, congrArg (Option.map _) newest⟩

theorem targetIndex_lt {index : Nat}
    (found : compactionTargetEventIndex events retentionPolicy now = some index) :
    index + retentionPolicy.minTailChangeCount < events.length :=
  ((le_targetIndex_iff found).mp (le_refl index)).1

end Index

section Selection

variable {db : SlateProfileDatabase} {profile : String}
  {retentionPolicy : ProfileSyncRetentionPolicy} {now : Int} {selection : Option (List String)}

/-- Both functions choose a position among their events and report it alike. -/
theorem compactionTarget_eq :
    db.compactionTarget profile retentionPolicy now selection =
      (compactionTargetEventIndex (db.eventsToCompact profile selection) retentionPolicy
        now).bind fun targetIndex =>
          (db.eventsToCompact profile selection)[targetIndex]?.map fun target =>
            { profile
              previousSnapshotCoversRevision :=
                ((db.latestSyncSnapshot profile).map (·.coversRevision)).getD 0
              coversRevision := target.revision.revision
              coversChangeId := target.change.id
              coveredChangeCount := targetIndex + 1
              retainedTailChangeCount :=
                (db.eventsToCompact profile selection).length - targetIndex - 1 } := by
  cases selection with
  | none => rfl
  | some includedDomains =>
      unfold compactionTarget settingsSyncCompactionTargetForDomains
      simp only
      split
      · rename_i empty
        -- No domain is listed, so there is no event to choose from either.
        have none : db.eventsToCompact profile (some includedDomains) = [] := by
          simp [eventsToCompact, List.isEmpty_iff.mp empty]
        rw [none]
        simp [compactionTargetEventIndex]
      · rfl

theorem exists_target_of_index {index : Nat}
    (found : compactionTargetEventIndex (db.eventsToCompact profile selection) retentionPolicy
      now = some index) :
    ∃ target, db.compactionTarget profile retentionPolicy now selection = some target ∧
      target.coveredChangeCount = index + 1 := by
  have inside : index < (db.eventsToCompact profile selection).length := by
    have := targetIndex_lt found
    omega
  rw [compactionTarget_eq, found]
  simp [List.getElem?_eq_getElem inside]

/-- The parts of a target that hold of it whatever the times of the events are. -/
theorem target_counts {target : SyncCompactionTarget}
    (chosen : db.compactionTarget profile retentionPolicy now selection = some target) :
    ∃ index, compactionTargetEventIndex (db.eventsToCompact profile selection) retentionPolicy
        now = some index ∧
      target.coveredChangeCount = index + 1 ∧
      target.retainedTailChangeCount =
        (db.eventsToCompact profile selection).length - index - 1 ∧
      ∃ inside : index < (db.eventsToCompact profile selection).length,
        target.coversRevision = (db.eventsToCompact profile selection)[index].revision.revision := by
  rw [compactionTarget_eq] at chosen
  obtain ⟨index, found, reported⟩ := Option.bind_eq_some_iff.mp chosen
  obtain ⟨event, isEvent, rfl⟩ := Option.map_eq_some_iff.mp reported
  obtain ⟨inside, rfl⟩ := List.getElem?_eq_some_iff.mp isEvent
  exact ⟨index, found, rfl, rfl, inside, rfl⟩

/-- A young event comes at or before one that is old enough, outside of the tail. -/
def YoungBeforeOld (retentionPolicy : ProfileSyncRetentionPolicy) (now : Int)
    (events : List SyncSettingTextEvent) : Prop :=
  ∃ i j, i ≤ j ∧ i + retentionPolicy.minTailChangeCount < events.length ∧
    (∃ inside : i < events.length, Young retentionPolicy now events[i]) ∧
      ∃ inside : j < events.length, OldEnough retentionPolicy now events[j]

/-- A target respects the retention policy exactly when no event that is still in the
retention window is followed by one that is old enough. -/
theorem compaction_respects_retention_iff :
    (∀ target, db.compactionTarget profile retentionPolicy now selection = some target →
      RespectsRetention retentionPolicy now (db.eventsToCompact profile selection) target) ↔
    ¬YoungBeforeOld retentionPolicy now (db.eventsToCompact profile selection) := by
  constructor
  · intro respects ⟨i, j, before, outsideTail, ⟨inside, young⟩, ⟨insideLater, old⟩⟩
    obtain ⟨index, found⟩ := exists_targetIndex outsideTail insideLater old
    have covered : i ≤ index :=
      (le_targetIndex_iff found).mpr ⟨outsideTail, j, before, insideLater, old⟩
    obtain ⟨target, chosen, count⟩ := exists_target_of_index found
    apply (respects target chosen).window _ _ young
    rw [List.mem_take_iff_getElem, count]
    exact ⟨i, by omega, rfl⟩
  · intro ordered target chosen
    obtain ⟨index, found, covered, retained, inside, revision⟩ := target_counts chosen
    have outsideTail := targetIndex_lt found
    refine ⟨by omega, ?_, by omega, ?_⟩
    · intro event isCovered young
      obtain ⟨i, bounded, rfl⟩ := List.mem_take_iff_getElem.mp isCovered
      obtain ⟨enough, j, before, insideLater, old⟩ :=
        (le_targetIndex_iff found).mp (show i ≤ index by omega)
      exact ordered ⟨i, j, before, enough, ⟨by omega, young⟩, insideLater, old⟩
    · refine ⟨_, ?_, revision⟩
      rw [covered, List.take_succ_eq_append_getElem inside, List.getLast?_concat]

end Selection

instance : DecidablePred (Young retentionPolicy now) :=
  fun _ => inferInstanceAs (Decidable (_ < _))

/-- A theme written at 100 and, after the clock was set back, again at 10. -/
def clockSetBack : SlateProfileDatabase :=
  ((succeeded (setSyncSettingText "default" "settings" "theme" "dark" 100
    { localSyncDeviceId := "laptop" })).bind fun first =>
      succeeded (setSyncSettingText "default" "settings" "theme" "light" 10 first.2)).elim
        { localSyncDeviceId := "laptop" } (·.2)

/-- The later write is old enough to be covered, and takes the younger one with it. -/
theorem compaction_covers_young_event :
    ¬∀ (db : SlateProfileDatabase) (profile : String)
      (retentionPolicy : ProfileSyncRetentionPolicy) (now : Int)
      (selection : Option (List String)) (target : SyncCompactionTarget),
      db.compactionTarget profile retentionPolicy now selection = some target →
        RespectsRetention retentionPolicy now (db.eventsToCompact profile selection) target := by
  intro always
  have chosen : clockSetBack.compactionTarget "default"
      { minTailChangeCount := 0, changeRetentionSeconds := 50 } 100 none =
        some ⟨"default", 0, 2, 2, 2, 0⟩ := by
    decide +kernel
  have covered : ∃ event ∈ (clockSetBack.eventsToCompact "default" none).take 2,
      Young { minTailChangeCount := 0, changeRetentionSeconds := 50 } 100 event := by
    decide +kernel
  obtain ⟨event, isCovered, young⟩ := covered
  exact (always _ _ _ _ _ _ chosen).window event isCovered young

end Slate.Storage
