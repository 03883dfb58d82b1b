import Slate.Storage.LocalActivation
import Slate.Storage.Reopening

/-!
# Fresh databases

A database that is opened for the first time knows its own device and the default domains of the
default profile. It holds no key, no membership record and no content key.
-/

namespace Slate.Storage

open Slate.Foundation

namespace SlateProfileDatabase

variable {db next : SlateProfileDatabase} {deviceId : String} {now : Int}

theorem SameEnrollment.trans {last : SlateProfileDatabase} (first : SameEnrollment db next)
    (second : SameEnrollment next last) : SameEnrollment db last where
  syncDevices := second.syncDevices.trans first.syncDevices
  syncDevicePublicKeys := second.syncDevicePublicKeys.trans first.syncDevicePublicKeys
  syncAccountMembershipRecords :=
    second.syncAccountMembershipRecords.trans first.syncAccountMembershipRecords
  syncContentKeyEpochs := second.syncContentKeyEpochs.trans first.syncContentKeyEpochs
  appSyncDomains := second.appSyncDomains.trans first.appSyncDomains

/-- A written setting is no part of the enrollment. -/
theorem sameEnrollment_setSettingText {key value : String} {record : SyncChangeRecord}
    (written : db.setSettingText key value now = .ok (record, next)) :
    SameEnrollment db next ∧ next.localSyncDeviceId = db.localSyncDeviceId := by
  have recorded := databaseError_eq_ok_iff.mp written
  have registry := (setSettingText_effect written).2
  have control := sameControl_recordSyncSettingText recorded
  refine ⟨⟨registry.syncDevices, control.syncDevicePublicKeys,
    control.syncAccountMembershipRecords, control.syncContentKeyEpochs,
    control.appSyncDomains⟩, control.localSyncDeviceId⟩

/-- The seeding of bookmarks is no part of the enrollment. -/
theorem sameEnrollment_seededBookmarks :
    SameEnrollment db (commit (seedDefaultBookmarksIfNeeded now) db) ∧
      (commit (seedDefaultBookmarksIfNeeded now) db).localSyncDeviceId = db.localSyncDeviceId := by
  unfold commit seedDefaultBookmarksIfNeeded
  by_cases marked : (db.getSettingText defaultBookmarksSeededSettingKey).getD "false" = "true"
  · rw [if_pos marked]
    exact ⟨⟨rfl, rfl, rfl, rfl, rfl⟩, rfl⟩
  · rw [if_neg marked]
    generalize seeds : (if db.bookmarks.any fun bookmark => bookmark.profile == defaultProfileId
      then db else db.seedDefaultBookmarks now) = seeded
    have same : SameEnrollment db seeded ∧ seeded.localSyncDeviceId = db.localSyncDeviceId := by
      rw [← seeds]
      split
      · exact ⟨⟨rfl, rfl, rfl, rfl, rfl⟩, rfl⟩
      · exact ⟨⟨rfl, rfl, rfl, rfl, rfl⟩, rfl⟩
    cases written : seeded.setSettingText defaultBookmarksSeededSettingKey "true" now with
    | error failure =>
        simp only [written]
        exact same
    | ok result =>
        simp only [written]
        obtain ⟨after, sameDevice⟩ := sameEnrollment_setSettingText written
        exact ⟨same.1.trans after, sameDevice.trans same.2⟩

/-- What a fresh database holds of the enrollment. -/
def freshEnrollment (deviceId : String) (now : Int) : SlateProfileDatabase :=
  seedDefaultSyncState now { localSyncDeviceId := deviceId }

theorem freshDatabase_eq_ok (opened : freshDatabase deviceId now = .ok db) :
    isValidSyncIdentifier deviceId ∧ SameEnrollment (freshEnrollment deviceId now) db ∧
      db.localSyncDeviceId = deviceId := by
  unfold freshDatabase openResolvedWithDeviceId at opened
  split at opened
  · rename_i valid
    obtain rfl := Except.ok.inj opened
    obtain ⟨same, sameDevice⟩ := @sameEnrollment_seededBookmarks
      (freshEnrollment deviceId now) now
    obtain ⟨domains, state⟩ := @seedDefaultSyncState_eq { localSyncDeviceId := deviceId } now
    refine ⟨valid, same, sameDevice.trans ?_⟩
    exact congrArg localSyncDeviceId state
  · cases opened

theorem exists_freshDatabase (valid : isValidSyncIdentifier deviceId) (now : Int) :
    ∃ db, freshDatabase deviceId now = .ok db :=
  ⟨_, if_pos valid⟩

/-- A fresh database holds no key, no record and no content key. -/
theorem freshDatabase_empty (opened : freshDatabase deviceId now = .ok db) :
    db.syncDevicePublicKeys = [] ∧ db.syncAccountMembershipRecords = [] ∧
      db.syncContentKeyEpochs = [] := by
  obtain ⟨-, same, -⟩ := freshDatabase_eq_ok opened
  obtain ⟨domains, state⟩ := @seedDefaultSyncState_eq { localSyncDeviceId := deviceId } now
  have fresh : freshEnrollment deviceId now = _ := state
  rw [same.syncDevicePublicKeys, same.syncAccountMembershipRecords, same.syncContentKeyEpochs,
    fresh]
  exact ⟨rfl, rfl, rfl⟩

theorem enrollmentTables_fresh {objects : SyncObjectScheme}
    (opened : freshDatabase deviceId now = .ok db) : EnrollmentTables objects db := by
  obtain ⟨valid, -, sameDevice⟩ := freshDatabase_eq_ok opened
  obtain ⟨-, noRecords, -⟩ := freshDatabase_empty opened
  refine ⟨⟨?_, ?_⟩, ?_, sameDevice ▸ valid⟩
  · rw [noRecords]
    exact List.nodup_nil
  · simp [noRecords]
  · simp [noRecords]

end SlateProfileDatabase

end Slate.Storage
