import Mathlib.Data.Prod.Lex
import Mathlib.Data.String.Basic
import Mathlib.Order.Lattice

/-!
# Records of the profile database

The record types, constants and errors that the storage crate's sync functions
share. Rows keep the columns of the SQLite tables under the source's names.
-/

namespace Slate.Storage

def defaultProfileId : String := "default"
def syncDomainBookmarks : String := "bookmarks"
def syncDomainCalendar : String := "calendar"
def syncDomainChat : String := "chat"
def syncDomainContacts : String := "contacts"
def syncDomainDownloads : String := "downloads"
def syncDomainFiles : String := "files"
def syncDomainSettings : String := "settings"
def syncDomainStorage : String := "storage"
def profileSyncSnapshotDeviceId : String := "snapshot"
def profileSyncRootKeyPrefix : String := "profile_sync.root."
def profileSyncSettingsSnapshotSchemaVersion : Nat := 1
def profileSyncManifestSchemaVersion : Nat := 1
def profileSyncDeviceHeadSchemaVersion : Nat := 1
def profileSyncMembershipRecordSchemaVersion : Nat := 1
def defaultProfileSyncMembershipEpoch : Int := 1

/-- The largest value of a SQLite integer column. -/
def i64Max : Int := 9223372036854775807

/-- The row limit that unbounded queries pass. -/
def u32Max : Nat := 4294967295

/-- What concurrent changes are compared by: clock, then device, then sequence. -/
structure ChangeStamp where
  logicalClock : Int
  deviceId : String
  deviceSequence : Int
deriving DecidableEq, Repr

def ChangeStamp.lex (stamp : ChangeStamp) : Int ×ₗ String ×ₗ Int :=
  toLex (stamp.logicalClock, toLex (stamp.deviceId, stamp.deviceSequence))

instance : LinearOrder ChangeStamp :=
  @LinearOrder.lift' ChangeStamp (Int ×ₗ String ×ₗ Int)
    (@Prod.Lex.instLinearOrder Int (String ×ₗ Int) Int.instLinearOrder
      (@Prod.Lex.instLinearOrder String Int inferInstance Int.instLinearOrder))
    ChangeStamp.lex (by
      rintro ⟨⟩ ⟨⟩ same
      simpa [ChangeStamp.lex] using same)

theorem ChangeStamp.le_iff {first second : ChangeStamp} :
    first ≤ second ↔ first.logicalClock < second.logicalClock ∨
      first.logicalClock = second.logicalClock ∧
        (first.deviceId < second.deviceId ∨ first.deviceId = second.deviceId ∧
          first.deviceSequence ≤ second.deviceSequence) := by
  show first.lex ≤ second.lex ↔ _
  simp [lex, Prod.Lex.toLex_le_toLex]

theorem ChangeStamp.lt_iff {first second : ChangeStamp} :
    first < second ↔ first.logicalClock < second.logicalClock ∨
      first.logicalClock = second.logicalClock ∧
        (first.deviceId < second.deviceId ∨ first.deviceId = second.deviceId ∧
          first.deviceSequence < second.deviceSequence) := by
  show first.lex < second.lex ↔ _
  simp [lex, Prod.Lex.toLex_lt_toLex]

/-- The order of the winner query: the stamp, then the row id. -/
structure WinnerRank where
  stamp : ChangeStamp
  id : Int
deriving DecidableEq, Repr

def WinnerRank.lex (rank : WinnerRank) : ChangeStamp ×ₗ Int :=
  toLex (rank.stamp, rank.id)

instance : LinearOrder WinnerRank :=
  @LinearOrder.lift' WinnerRank (ChangeStamp ×ₗ Int)
    (@Prod.Lex.instLinearOrder ChangeStamp Int inferInstance Int.instLinearOrder)
    WinnerRank.lex (by
      rintro ⟨⟩ ⟨⟩ same
      simpa [WinnerRank.lex] using same)

theorem WinnerRank.le_iff {first second : WinnerRank} :
    first ≤ second ↔ first.stamp < second.stamp ∨
      first.stamp = second.stamp ∧ first.id ≤ second.id := by
  show first.lex ≤ second.lex ↔ _
  simp [lex, Prod.Lex.toLex_le_toLex]

/-- The order of the snapshot query: coverage, creation time, id. -/
structure SnapshotRank where
  coversRevision : Int
  createdAt : Int
  snapshotId : String
deriving DecidableEq, Repr

def SnapshotRank.lex (rank : SnapshotRank) : Int ×ₗ Int ×ₗ String :=
  toLex (rank.coversRevision, toLex (rank.createdAt, rank.snapshotId))

instance : LinearOrder SnapshotRank :=
  @LinearOrder.lift' SnapshotRank (Int ×ₗ Int ×ₗ String)
    (@Prod.Lex.instLinearOrder Int (Int ×ₗ String) Int.instLinearOrder
      (@Prod.Lex.instLinearOrder Int String Int.instLinearOrder inferInstance))
    SnapshotRank.lex (by
      rintro ⟨⟩ ⟨⟩ same
      simpa [SnapshotRank.lex] using same)

theorem SnapshotRank.le_iff {first second : SnapshotRank} :
    first ≤ second ↔ first.coversRevision < second.coversRevision ∨
      first.coversRevision = second.coversRevision ∧
        (first.createdAt < second.createdAt ∨ first.createdAt = second.createdAt ∧
          first.snapshotId ≤ second.snapshotId) := by
  show first.lex ≤ second.lex ↔ _
  simp [lex, Prod.Lex.toLex_le_toLex]

/-- The order in which snapshot values are applied. -/
structure SnapshotValueRank where
  revision : Int
  domain : String
  key : String
  value : String
deriving DecidableEq, Repr

def SnapshotValueRank.lex (rank : SnapshotValueRank) : Int ×ₗ String ×ₗ String ×ₗ String :=
  toLex (rank.revision, toLex (rank.domain, toLex (rank.key, rank.value)))

instance : LinearOrder SnapshotValueRank :=
  @LinearOrder.lift' SnapshotValueRank (Int ×ₗ String ×ₗ String ×ₗ String)
    (@Prod.Lex.instLinearOrder Int (String ×ₗ String ×ₗ String) Int.instLinearOrder
      inferInstance)
    SnapshotValueRank.lex (by
      rintro ⟨⟩ ⟨⟩ same
      simpa [SnapshotValueRank.lex] using same)

/-- A row of `settings_changes`. -/
structure SyncChangeRecord where
  id : Int
  profile : String
  domain : String
  entityKey : String
  operation : String
  payload : String
  deviceId : String
  deviceSequence : Int
  logicalClock : Int
  createdAt : Int
  appliedAt : Option Int
deriving DecidableEq, Repr

def SyncChangeRecord.stamp (change : SyncChangeRecord) : ChangeStamp :=
  ⟨change.logicalClock, change.deviceId, change.deviceSequence⟩

/-- A change received from another device. -/
structure IncomingSyncSettingText where
  profile : String
  domain : String
  key : String
  value : String
  deviceId : String
  deviceSequence : Int
  logicalClock : Int
deriving DecidableEq, Repr

def IncomingSyncSettingText.stamp (change : IncomingSyncSettingText) : ChangeStamp :=
  ⟨change.logicalClock, change.deviceId, change.deviceSequence⟩

/-- A row of `settings_revisions`. -/
structure SyncRevisionRecord where
  revision : Int
  profile : String
  domain : String
  changeId : Int
  createdAt : Int
deriving DecidableEq, Repr

/-- A row of `settings_values`. -/
structure SyncSettingValueRecord where
  profile : String
  domain : String
  key : String
  value : String
  valueKind : String
  revision : Int
  updatedAt : Int
deriving DecidableEq, Repr

/-- A row of the legacy `settings` table. -/
structure SettingRow where
  key : String
  value : String
  updatedAt : Int
deriving DecidableEq, Repr

/-- A row of `settings_snapshots`. -/
structure SyncSnapshotRecord where
  profile : String
  snapshotId : String
  backendObjectId : Option String
  coversRevision : Int
  includedDomains : List String
  createdAt : Int
deriving DecidableEq, Repr

/-- A row of `sync_state`. -/
structure SyncStateRow where
  profile : String
  key : String
  value : String
  updatedAt : Int
deriving DecidableEq, Repr

/-- A row of `app_sync_domains`. -/
structure AppSyncDomainRecord where
  profile : String
  domain : String
  schemaVersion : Int
  enabled : Bool
  privacyClassification : String
  syncContent : Bool
  createdAt : Int
  updatedAt : Int
deriving DecidableEq, Repr

/-- A row of `sync_devices`. -/
structure SyncDeviceRecord where
  profile : String
  deviceId : String
  label : Option String
  membershipEpoch : Int
  providerAuthority : Bool
  createdAt : Int
  lastSeenAt : Int
deriving DecidableEq, Repr

structure ProfileSyncDevicePublicKey where
  deviceId : String
  bytes : List Nat
deriving DecidableEq, Repr

/-- A row of `sync_device_public_keys`. -/
structure SyncDevicePublicKeyRecord where
  profile : String
  publicKey : ProfileSyncDevicePublicKey
  membershipEpoch : Int
  trusted : Bool
  createdAt : Int
  updatedAt : Int
deriving DecidableEq, Repr

/-- A row of `sync_account_membership_records`. -/
structure SyncAccountMembershipRecord where
  profile : String
  recordId : String
  membershipEpoch : Int
  recordKind : String
  deviceId : String
  signerDeviceId : String
  signedRecord : List Nat
  createdAt : Int
  appliedAt : Option Int
deriving DecidableEq, Repr

/-- A row of `sync_content_key_epochs`. -/
structure SyncContentKeyEpochRecord where
  profile : String
  keyId : String
  membershipEpoch : Int
  algorithm : String
  active : Bool
  createdAt : Int
  updatedAt : Int
deriving DecidableEq, Repr

/-- A row of `bookmarks`; the surrogate id is read by no query. -/
structure BookmarkRecord where
  profile : String
  url : String
  title : Option String
  folder : Option String
  position : Int
  faviconKey : Option String
  createdAt : Int
  updatedAt : Int
deriving DecidableEq, Repr

structure ProfileSyncSettingsSnapshotValue where
  domain : String
  key : String
  value : String
  valueKind : String
  revision : Int
deriving DecidableEq, Repr

structure ProfileSyncSettingsSnapshot where
  profile : String
  schemaVersion : Nat
  coversRevision : Int
  includedDomains : List String
  values : List ProfileSyncSettingsSnapshotValue
  createdAt : Int
deriving DecidableEq, Repr

structure ProfileSyncDeviceFrontier where
  deviceId : String
  latestSequence : Int
  latestChangeObjectId : Option String
deriving DecidableEq, Repr

structure ProfileSyncRetentionPolicy where
  minTailChangeCount : Nat := 32
  changeRetentionSeconds : Int := 14 * 24 * 60 * 60
  inactiveDeviceGraceSeconds : Int := 30 * 24 * 60 * 60
deriving DecidableEq, Repr

structure ProfileSyncManifest where
  profile : String
  rootId : String
  schemaVersion : Nat
  membershipEpoch : Int
  currentSnapshotObjectId : Option String
  tailChangeObjectIds : List String
  includedDomains : List String
  deviceFrontiers : List ProfileSyncDeviceFrontier
  retentionPolicy : ProfileSyncRetentionPolicy
  createdAt : Int
deriving DecidableEq, Repr

structure ProfileSyncDeviceHead where
  profile : String
  deviceId : String
  rootId : String
  schemaVersion : Nat
  membershipEpoch : Int
  latestManifestObjectId : String
  latestChangeObjectId : Option String
  deviceSequence : Int
  logicalClock : Int
  createdAt : Int
deriving DecidableEq, Repr

/-- Failures of a statement inside a transaction. -/
inductive SqlError where
  | fromSqlConversionFailure (column : Nat) (message : String)
  | invalidColumnType (column : Nat)
  | queryReturnedNoRows
deriving DecidableEq, Repr

/-- Failures of the storage operations. -/
inductive StorageError where
  | database (source : SqlError)
  | invalidSyncDeviceId (deviceId : String)
  | invalidSyncMembershipRecordId (recordId : String)
  | invalidSyncMembershipRecordKind (recordKind : String)
  | invalidSyncMembershipEpoch (membershipEpoch : Int)
  | invalidProfileSyncMembershipRecord (reason : String)
  | untrustedSyncMembershipSigner (profile deviceId : String)
  | invalidSyncContentKeyId (keyId : String)
  | invalidSyncDomain (domain : String)
  | invalidSyncRevision (revision : Int)
  | invalidCalendarEventId (eventId : String)
  | invalidChatConversationId (conversationId : String)
  | invalidChatProviderId (providerId : String)
  | invalidContactId (contactId : String)
  | invalidDownloadId (downloadId : String)
  | invalidDownloadSize (sizeBytes : Nat)
  | invalidFileEntryId (entryId : String)
  | invalidFileEntryKind (entryKind : String)
  | invalidFileSize (sizeBytes : Nat)
  | invalidStorageProviderId (providerId : String)
  | invalidStorageProviderKind (providerKind : String)
  | invalidStorageProviderQuota (quotaBytes : Nat)
  | invalidStoragePinningPolicy (pinningPolicy : String)
  | missingActiveSyncContentKey (profile : String)
  | unsupportedSyncContentKeyAlgorithm (keyId algorithm : String)
  | unauthorizedSyncContentKeyEpoch (profile keyId : String)
      (keyMembershipEpoch manifestMembershipEpoch : Int)
  | invalidSyncRootId (rootId : String)
  | invalidProfileSyncManifest (reason : String)
  | unsupportedProfileSyncManifestSchema (schemaVersion : Nat)
  | unsupportedProfileSyncMembershipRecordSchema (schemaVersion : Nat)
  | unsupportedSyncSnapshotSchema (schemaVersion : Nat)
  | decodeSyncPayload (message : String)
deriving DecidableEq, Repr

/-- Statement failures reach the caller as database errors. -/
def databaseError {α : Type} : Except SqlError α → Except StorageError α
  | .ok value => .ok value
  | .error source => .error (.database source)

@[simp]
theorem databaseError_eq_ok_iff {α : Type} {result : Except SqlError α} {value : α} :
    databaseError result = .ok value ↔ result = .ok value := by
  cases result <;> simp [databaseError]

/-- `is_valid_sync_identifier`: nonempty, ASCII alphanumerics, `-` and `_`. -/
def isValidSyncIdentifier (value : String) : Bool :=
  !value.toList.isEmpty &&
    value.toList.all fun c =>
      ('a' ≤ c && c ≤ 'z') || ('A' ≤ c && c ≤ 'Z') || ('0' ≤ c && c ≤ '9') ||
        c == '-' || c == '_'

/-- `str::starts_with`. -/
def startsWith (text start : String) : Bool :=
  start.toList.isPrefixOf text.toList

end Slate.Storage
