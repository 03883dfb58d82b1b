import Slate.Storage.LastWriterWins
import Mathlib.Data.Countable.Basic
import Mathlib.Logic.Equiv.List

/-!
# Typed tables mirror the log

The row of a typed table is the payload of the winning change on its key: there is
a row exactly when that change is not a deletion, and its columns are the payload's
fields. Local operations write row and change together; received changes are
projected when they win.
-/

namespace Slate.Storage

open Slate.Foundation

/-- Every payload field of the row is the payload's; timestamps are not compared. -/
def RowMirrors : (domain : AppDomain) → AppRecord domain → AppSyncPayload domain → Prop
  | .calendar, (record : CalendarEventRecord), (payload : CalendarEventSyncPayload) =>
      record.eventId = payload.eventId ∧ record.calendarId = payload.calendarId ∧
      record.title = payload.title ∧ record.startsAt = payload.startsAt ∧
      record.endsAt = payload.endsAt ∧ record.timeZone = payload.timeZone ∧
      record.location = payload.location ∧ record.notes = payload.notes ∧
      record.recurrenceRule = payload.recurrenceRule ∧
      record.reminderMinutes = payload.reminderMinutes
  | .chat, (record : ChatConversationRecord), (payload : ChatConversationSyncPayload) =>
      record.conversationId = payload.conversationId ∧
      record.providerId = payload.providerId ∧
      record.externalThreadId = payload.externalThreadId ∧
      record.displayName = payload.displayName ∧ record.avatarKey = payload.avatarKey ∧
      record.lastMessageAt = payload.lastMessageAt ∧
      record.unreadCount = payload.unreadCount ∧ record.archived = payload.archived ∧
      record.muted = payload.muted
  | .contacts, (record : ContactCardRecord), (payload : ContactCardSyncPayload) =>
      record.contactId = payload.contactId ∧ record.displayName = payload.displayName ∧
      record.givenName = payload.givenName ∧ record.familyName = payload.familyName ∧
      record.organization = payload.organization ∧
      record.primaryEmail = payload.primaryEmail ∧
      record.primaryPhone = payload.primaryPhone ∧ record.notes = payload.notes ∧
      record.avatarKey = payload.avatarKey
  | .downloads, (record : DownloadMetadataRecord), (payload : DownloadMetadataSyncPayload) =>
      record.downloadId = payload.downloadId ∧ record.sourceUrl = payload.sourceUrl ∧
      record.finalUrl = payload.finalUrl ∧ record.route = payload.route ∧
      record.transportId = payload.transportId ∧ record.filename = payload.filename ∧
      record.contentType = payload.contentType ∧ record.sizeBytes = payload.sizeBytes ∧
      record.integrity = payload.integrity
  | .files, (record : FileEntryRecord), (payload : FileEntrySyncPayload) =>
      record.entryId = payload.entryId ∧ record.syncSetId = payload.syncSetId ∧
      record.parentId = payload.parentId ∧ record.name = payload.name ∧
      record.entryKind = payload.entryKind ∧ record.contentRef = payload.contentRef ∧
      record.mimeType = payload.mimeType ∧ record.sizeBytes = payload.sizeBytes ∧
      record.modifiedAt = payload.modifiedAt ∧ record.integrity = payload.integrity ∧
      record.retentionPolicy = payload.retentionPolicy
  | .storage, (record : StorageProviderRecord), (payload : StorageProviderSyncPayload) =>
      record.providerId = payload.providerId ∧ record.providerKind = payload.providerKind ∧
      record.displayName = payload.displayName ∧ record.endpointRef = payload.endpointRef ∧
      record.discovery = payload.discovery ∧ record.connectivity = payload.connectivity ∧
      record.objectTransfer = payload.objectTransfer ∧
      record.availability = payload.availability ∧
      record.mutableRoots = payload.mutableRoots ∧ record.quotaBytes = payload.quotaBytes ∧
      record.maxRetainedObjects = payload.maxRetainedObjects ∧
      record.pinningPolicy = payload.pinningPolicy ∧ record.enabled = payload.enabled

section Spec

variable (domain : AppDomain)

theorem appDomainSpec_domain_injective {first second : AppDomain}
    (same : (appDomainSpec first).domain = (appDomainSpec second).domain) :
    first = second := by
  revert same
  cases first <;> cases second <;> decide

theorem appDomain_ne_settings : (appDomainSpec domain).domain ≠ syncDomainSettings := by
  cases domain <;> decide

theorem syncKey_injective {first second : String}
    (same : (appDomainSpec domain).syncKey first = (appDomainSpec domain).syncKey second) :
    first = second :=
  (String.append_right_inj _).mp same

theorem startsWith_syncKey (id : String) :
    startsWith ((appDomainSpec domain).syncKey id) (appDomainSpec domain).keyPrefix := by
  simp [startsWith, AppDomainSpec.syncKey, List.isPrefixOf_iff_prefix]

/-- The primary key of the row written for a payload. -/
theorem recordKey_row (profile : String) (payload : AppSyncPayload domain) (now : Int) :
    (appDomainSpec domain).recordKey ((appDomainSpec domain).row profile payload now) =
      (profile, (appDomainSpec domain).payloadId payload) := by
  cases domain <;> rfl

theorem recordKey_merge (existing excluded : AppRecord domain) :
    (appDomainSpec domain).recordKey ((appDomainSpec domain).merge existing excluded) =
      (appDomainSpec domain).recordKey existing := by
  cases domain <;> rfl

theorem rowMirrors_row (profile : String) (payload : AppSyncPayload domain) (now : Int) :
    RowMirrors domain ((appDomainSpec domain).row profile payload now) payload := by
  cases domain <;> simp [RowMirrors, appDomainSpec, calendarEventSpec, chatConversationSpec,
    contactCardSpec, downloadMetadataSpec, fileEntrySpec, storageProviderSpec]

/-- A conflicting row takes every payload column; only its key was equal before. -/
theorem rowMirrors_merge (existing : AppRecord domain) (profile : String)
    (payload : AppSyncPayload domain) (now : Int)
    (sameKey : (appDomainSpec domain).recordKey existing =
      (profile, (appDomainSpec domain).payloadId payload)) :
    RowMirrors domain ((appDomainSpec domain).merge existing
      ((appDomainSpec domain).row profile payload now)) payload := by
  have sameId := congrArg Prod.snd sameKey
  cases domain <;>
    simpa [RowMirrors, appDomainSpec, calendarEventSpec, chatConversationSpec,
      contactCardSpec, downloadMetadataSpec, fileEntrySpec, storageProviderSpec,
      AppDomainSpec.recordKey] using sameId

theorem payloadId_payloadOf (update : AppUpdate domain) :
    (appDomainSpec domain).payloadId ((appDomainSpec domain).payloadOf update) =
      (appDomainSpec domain).updateId update := by
  cases domain <;> rfl

theorem deleted_payloadOf (update : AppUpdate domain) :
    (appDomainSpec domain).deleted ((appDomainSpec domain).payloadOf update) = false := by
  cases domain <;> rfl

theorem payloadId_tombstone (record : AppRecord domain) :
    (appDomainSpec domain).payloadId ((appDomainSpec domain).tombstone record) =
      (appDomainSpec domain).recordId record := by
  cases domain <;> rfl

theorem deleted_tombstone (record : AppRecord domain) :
    (appDomainSpec domain).deleted ((appDomainSpec domain).tombstone record) = true := by
  cases domain <;> rfl

end Spec

/-- What a payload does to its table. -/
def projectTable (domain : AppDomain) (profile : String) (payload : AppSyncPayload domain)
    (now : Int) (table : List (AppRecord domain)) : List (AppRecord domain) :=
  if (appDomainSpec domain).deleted payload then
    Rows.erase (appDomainSpec domain).recordKey
      (profile, (appDomainSpec domain).payloadId payload) table
  else
    Rows.upsert (appDomainSpec domain).recordKey (appDomainSpec domain).merge
      ((appDomainSpec domain).row profile payload now) table

section ProjectTable

variable {domain : AppDomain} {profile : String} {payload : AppSyncPayload domain}
  {now : Int} {table : List (AppRecord domain)}

theorem keepsKey_row : ∀ existing : AppRecord domain,
    (appDomainSpec domain).recordKey existing =
      (appDomainSpec domain).recordKey ((appDomainSpec domain).row profile payload now) →
    (appDomainSpec domain).recordKey ((appDomainSpec domain).merge existing
      ((appDomainSpec domain).row profile payload now)) =
      (appDomainSpec domain).recordKey ((appDomainSpec domain).row profile payload now) :=
  fun existing same => (recordKey_merge domain existing _).trans same

theorem uniqueKeys_projectTable
    (unique : Rows.UniqueKeys (appDomainSpec domain).recordKey table) :
    Rows.UniqueKeys (appDomainSpec domain).recordKey
      (projectTable domain profile payload now table) := by
  unfold projectTable
  split
  · exact Rows.uniqueKeys_filter _ unique
  · exact Rows.uniqueKeys_upsert keepsKey_row unique

theorem lookup_projectTable_of_ne {key : String × String}
    (different : (profile, (appDomainSpec domain).payloadId payload) ≠ key) :
    Rows.lookup (appDomainSpec domain).recordKey key
        (projectTable domain profile payload now table) =
      Rows.lookup (appDomainSpec domain).recordKey key table := by
  unfold projectTable
  split
  · exact Rows.lookup_erase_of_ne different table
  · refine Rows.lookup_upsert_of_ne keepsKey_row ?_ table
    rw [recordKey_row]
    exact different

theorem lookup_projectTable_of_deleted
    (deleted : (appDomainSpec domain).deleted payload = true) :
    Rows.lookup (appDomainSpec domain).recordKey
      (profile, (appDomainSpec domain).payloadId payload)
      (projectTable domain profile payload now table) = none := by
  rw [projectTable, if_pos deleted]
  exact Rows.lookup_erase_self table

theorem lookup_projectTable_of_kept
    (kept : (appDomainSpec domain).deleted payload = false) :
    ∃ record, Rows.lookup (appDomainSpec domain).recordKey
        (profile, (appDomainSpec domain).payloadId payload)
        (projectTable domain profile payload now table) = some record ∧
      RowMirrors domain record payload := by
  rw [projectTable, if_neg (by simp [kept]), ← recordKey_row domain profile payload now,
    Rows.lookup_upsert_self keepsKey_row]
  refine ⟨_, rfl, ?_⟩
  cases found : Rows.lookup (appDomainSpec domain).recordKey
      ((appDomainSpec domain).recordKey ((appDomainSpec domain).row profile payload now))
      table with
  | none => exact rowMirrors_row domain profile payload now
  | some existing =>
      refine rowMirrors_merge domain existing profile payload now ?_
      rw [← recordKey_row domain profile payload now]
      exact (Rows.mem_of_lookup found).2

end ProjectTable

namespace SlateProfileDatabase

variable (codec : SyncPayloadCodec)

/-- The log entry that decides about the row of an id. -/
def appSlot (domain : AppDomain) (profile id : String) : String × String × String :=
  (profile, (appDomainSpec domain).domain, (appDomainSpec domain).syncKey id)

/-- The winning change of each id and the row of that id correspond. -/
structure TableMirrors (domain : AppDomain) (log : SettingsLog)
    (table : List (AppRecord domain)) : Prop where
  unique : Rows.UniqueKeys (appDomainSpec domain).recordKey table
  absent : ∀ profile id, log.winner (appSlot domain profile id) = none →
    Rows.lookup (appDomainSpec domain).recordKey (profile, id) table = none
  present : ∀ profile id winner, log.winner (appSlot domain profile id) = some winner →
    ∃ payload, (codec.app domain).fromText winner.payload = .ok payload ∧
      ((appDomainSpec domain).deleted payload = true →
        Rows.lookup (appDomainSpec domain).recordKey (profile, id) table = none) ∧
      ((appDomainSpec domain).deleted payload = false →
        ∃ record, Rows.lookup (appDomainSpec domain).recordKey (profile, id) table =
          some record ∧ RowMirrors domain record payload)

/-- Every typed table mirrors the log. -/
def Mirrored (db : SlateProfileDatabase) : Prop :=
  ∀ domain, TableMirrors codec domain db.log (db.appTables domain)

variable {codec}

section Step

variable {domain : AppDomain} {log : SettingsLog} {table : List (AppRecord domain)}

/-- Only the winners of the domain's keys matter. -/
theorem TableMirrors.of_winner_eq (mirrors : TableMirrors codec domain log table)
    {next : SettingsLog}
    (same : ∀ profile id, next.winner (appSlot domain profile id) =
      log.winner (appSlot domain profile id)) :
    TableMirrors codec domain next table where
  unique := mirrors.unique
  absent profile id none := mirrors.absent profile id (same profile id ▸ none)
  present profile id winner found :=
    mirrors.present profile id winner (same profile id ▸ found)

theorem TableMirrors.appendRecorded (mirrors : TableMirrors codec domain log table)
    (change : IncomingSyncSettingText) (now : Int) :
    TableMirrors codec domain (log.appendRecorded change now) table :=
  mirrors.of_winner_eq fun _ _ => SettingsLog.winner_appendRecorded change now

/-- A change of another domain, or on a key without a projection, is not about a row. -/
theorem TableMirrors.appendApplied_of_ne (mirrors : TableMirrors codec domain log table)
    {change : IncomingSyncSettingText} (now : Int)
    (different : ∀ profile id, change.slot ≠ appSlot domain profile id) :
    TableMirrors codec domain (log.appendApplied change now) table :=
  mirrors.of_winner_eq fun profile id =>
    SettingsLog.winner_appendApplied_of_ne change now (different profile id)

/-- Writing a winning payload to the log and to its table keeps them together. -/
theorem TableMirrors.appendApplied (mirrors : TableMirrors codec domain log table)
    {change : IncomingSyncSettingText} {payload : AppSyncPayload domain} (now : Int)
    (ofDomain : change.domain = (appDomainSpec domain).domain)
    (onKey : change.key = (appDomainSpec domain).syncKey
      ((appDomainSpec domain).payloadId payload))
    (decodes : (codec.app domain).fromText change.value = .ok payload)
    (wins : ∀ winner, log.winner change.slot = some winner →
      winner.stamp < change.stamp) :
    TableMirrors codec domain (log.appendApplied change now)
      (projectTable domain change.profile payload now table) := by
  have slotEq : change.slot = appSlot domain change.profile
      ((appDomainSpec domain).payloadId payload) := by
    rw [appSlot, ← ofDomain, ← onKey]
    rfl
  have self : ∀ profile id, change.slot = appSlot domain profile id →
      change.profile = profile ∧ (appDomainSpec domain).payloadId payload = id := by
    intro profile id same
    rw [slotEq] at same
    exact ⟨congrArg Prod.fst same,
      syncKey_injective domain (congrArg (fun slot => slot.2.2) same)⟩
  have other : ∀ profile id, change.slot ≠ appSlot domain profile id →
      (change.profile, (appDomainSpec domain).payloadId payload) ≠ (profile, id) := by
    rintro profile id different ⟨⟩
    exact different slotEq
  refine ⟨uniqueKeys_projectTable mirrors.unique, ?_, ?_⟩
  · intro profile id none
    by_cases same : change.slot = appSlot domain profile id
    · rw [← same, SettingsLog.winner_appendApplied_self change now wins] at none
      cases none
    · rw [SettingsLog.winner_appendApplied_of_ne change now same] at none
      rw [lookup_projectTable_of_ne (other profile id same)]
      exact mirrors.absent profile id none
  · intro profile id winner found
    by_cases same : change.slot = appSlot domain profile id
    · obtain ⟨rfl, rfl⟩ := self profile id same
      rw [← same, SettingsLog.winner_appendApplied_self change now wins] at found
      cases found
      exact ⟨payload, decodes, lookup_projectTable_of_deleted, lookup_projectTable_of_kept⟩
    · rw [SettingsLog.winner_appendApplied_of_ne change now same] at found
      rw [lookup_projectTable_of_ne (other profile id same)]
      exact mirrors.present profile id winner found

end Step

section View

variable {db next : SlateProfileDatabase} {change : IncomingSyncSettingText} {now : Int}

theorem applyAppSyncPayload_eq_ok {domain : AppDomain} {profile : String}
    {payload : AppSyncPayload domain}
    (h : db.applyAppSyncPayload domain profile payload now = .ok next) :
    next = db.updateAppTable domain
      (projectTable domain profile payload now (db.appTables domain)) := by
  unfold applyAppSyncPayload at h
  unfold projectTable
  split at h
  next deleted =>
    rw [if_pos deleted]
    exact (Except.ok.inj h).symm
  next kept =>
    obtain ⟨_, -, h⟩ := bind_eq_ok_iff.mp h
    rw [if_neg kept]
    exact (Except.ok.inj h).symm

/-- The change is about a row of the domain's table. -/
def Projected (domain : AppDomain) (change : IncomingSyncSettingText) : Prop :=
  change.domain = (appDomainSpec domain).domain ∧
    startsWith change.key (appDomainSpec domain).keyPrefix

theorem applyAppView_appTables {domain : AppDomain}
    (h : db.applyAppView codec domain change now = .ok next) :
    (∀ other, other ≠ domain → next.appTables other = db.appTables other) ∧
      (¬ Projected domain change → next.appTables domain = db.appTables domain) ∧
      (Projected domain change → ∃ payload,
        decodeAppPayload codec domain change = .ok payload ∧
        next.appTables domain =
          projectTable domain change.profile payload now (db.appTables domain)) := by
  unfold applyAppView at h
  split at h
  next projected =>
    obtain ⟨payload, decoded, h⟩ := bind_eq_ok_iff.mp h
    rw [applyAppSyncPayload_eq_ok h]
    refine ⟨fun other different => ?_, fun h => absurd projected h, fun _ => ?_⟩
    · simp [updateAppTable, different]
    · exact ⟨payload, decoded, by simp [updateAppTable]⟩
  next unprojected =>
    cases h
    exact ⟨fun _ _ => rfl, fun _ => rfl, fun h => absurd h unprojected⟩

theorem appTables_applySettingsView :
    (db.applySettingsView change now).appTables = db.appTables := by
  unfold applySettingsView
  split <;> rfl

theorem appTables_applyBookmarkView (h : db.applyBookmarkView codec change now = .ok next) :
    next.appTables = db.appTables := by
  unfold applyBookmarkView at h
  split at h
  · obtain ⟨payload, -, h⟩ := bind_eq_ok_iff.mp h
    cases h
    unfold applyBookmarkSlotSyncPayload
    split <;> rfl
  · cases h
    rfl

/-- The view writes the table of the change's domain and no other. -/
theorem applySyncSettingMaterializedView_appTables
    (h : db.applySyncSettingMaterializedView codec change now = .ok next)
    (domain : AppDomain) :
    (¬ Projected domain change → next.appTables domain = db.appTables domain) ∧
      (Projected domain change → ∃ payload,
        decodeAppPayload codec domain change = .ok payload ∧
        next.appTables domain =
          projectTable domain change.profile payload now (db.appTables domain)) := by
  obtain ⟨_, bookmarks, h⟩ := bind_eq_ok_iff.mp h
  obtain ⟨_, calendar, h⟩ := bind_eq_ok_iff.mp h
  obtain ⟨_, chat, h⟩ := bind_eq_ok_iff.mp h
  obtain ⟨_, contacts, h⟩ := bind_eq_ok_iff.mp h
  obtain ⟨_, downloads, h⟩ := bind_eq_ok_iff.mp h
  obtain ⟨_, files, storage⟩ := bind_eq_ok_iff.mp h
  have start := (appTables_applyBookmarkView bookmarks).trans appTables_applySettingsView
  have calendar := applyAppView_appTables calendar
  have chat := applyAppView_appTables chat
  have contacts := applyAppView_appTables contacts
  have downloads := applyAppView_appTables downloads
  have files := applyAppView_appTables files
  have storage := applyAppView_appTables storage
  -- The domain's own stage does the work; the other five leave its table alone.
  cases domain with
  | calendar =>
      rw [storage.1 _ (by decide), files.1 _ (by decide), downloads.1 _ (by decide),
        contacts.1 _ (by decide), chat.1 _ (by decide), ← start]
      exact calendar.2
  | chat =>
      rw [storage.1 _ (by decide), files.1 _ (by decide), downloads.1 _ (by decide),
        contacts.1 _ (by decide), ← start, ← calendar.1 _ (by decide)]
      exact chat.2
  | contacts =>
      rw [storage.1 _ (by decide), files.1 _ (by decide), downloads.1 _ (by decide), ← start,
        ← calendar.1 _ (by decide), ← chat.1 _ (by decide)]
      exact contacts.2
  | downloads =>
      rw [storage.1 _ (by decide), files.1 _ (by decide), ← start,
        ← calendar.1 _ (by decide), ← chat.1 _ (by decide), ← contacts.1 _ (by decide)]
      exact downloads.2
  | files =>
      rw [storage.1 _ (by decide), ← start, ← calendar.1 _ (by decide),
        ← chat.1 _ (by decide), ← contacts.1 _ (by decide), ← downloads.1 _ (by decide)]
      exact files.2
  | storage =>
      rw [← start, ← calendar.1 _ (by decide), ← chat.1 _ (by decide),
        ← contacts.1 _ (by decide), ← downloads.1 _ (by decide), ← files.1 _ (by decide)]
      exact storage.2

end View

section Operations

variable {db next : SlateProfileDatabase}

theorem slot_ne_appSlot_of_not_projected {domain : AppDomain}
    {change : IncomingSyncSettingText} (unprojected : ¬ Projected domain change)
    (profile id : String) : change.slot ≠ appSlot domain profile id := by
  intro same
  have ofDomain : change.domain = (appDomainSpec domain).domain :=
    congrArg (fun slot => slot.2.1) same
  have onKey : change.key = (appDomainSpec domain).syncKey id :=
    congrArg (fun slot => slot.2.2) same
  exact unprojected ⟨ofDomain, onKey ▸ startsWith_syncKey domain id⟩

theorem slot_ne_appSlot_of_domain_ne {domain : AppDomain} {change : IncomingSyncSettingText}
    (different : change.domain ≠ (appDomainSpec domain).domain) (profile id : String) :
    change.slot ≠ appSlot domain profile id :=
  fun same => different (congrArg (fun slot => slot.2.1) same)

theorem Mirrored.applySyncSettingText (mirrored : Mirrored codec db)
    {change : IncomingSyncSettingText} {now : Int} {record : SyncChangeRecord}
    (h : db.applySyncSettingText codec change now = .ok (record, next)) :
    Mirrored codec next := by
  rcases applySyncSettingTextInTransaction_cases (databaseError_eq_ok_iff.mp h) with
    ⟨-, -, rfl⟩ | ⟨-, wins, viewed, view, inserted⟩ | ⟨-, -, inserted⟩
  · exact mirrored
  · intro domain
    obtain ⟨kept, projectedTable⟩ := applySyncSettingMaterializedView_appTables view domain
    rw [show next = _ from congrArg Prod.snd inserted, log_insertChange,
      (sameButViews_applySyncSettingMaterializedView view).log, log_recordSyncDeviceSeen]
    show TableMirrors codec domain _ (viewed.appTables domain)
    by_cases projected : Projected domain change
    · obtain ⟨payload, decoded, table⟩ := projectedTable projected
      obtain ⟨decodes, -, onKey⟩ := decodeAppPayload_eq_ok decoded
      rw [table]
      exact (mirrored domain).appendApplied now projected.1 onKey decodes wins
    · rw [kept projected]
      exact (mirrored domain).appendApplied_of_ne now
        (slot_ne_appSlot_of_not_projected projected)
  · intro domain
    rw [show next = _ from congrArg Prod.snd inserted, log_insertChangeRecord]
    exact (mirrored domain).appendRecorded change now

/-- A local change of some domain, with the projection of its payload already made. -/
theorem Mirrored.recordSyncSettingText (mirrored : Mirrored codec db) {domain : AppDomain}
    {profile deviceId : String} {payload : AppSyncPayload domain} {now : Int}
    {record : SyncChangeRecord} (lawful : codec.Lawful)
    (h : (db.updateAppTable domain (projectTable domain profile payload now
        (db.appTables domain))).recordSyncSettingText profile (appDomainSpec domain).domain
          ((appDomainSpec domain).syncKey ((appDomainSpec domain).payloadId payload))
          ((codec.app domain).toText payload) deviceId now = .ok (record, next)) :
    Mirrored codec next := by
  have step := recordSyncSettingText_step h
  obtain ⟨deviceSequence, logicalClock, -, clocks, inserted⟩ := recordSyncSettingText_eq_ok h
  intro other
  rw [show next = _ from congrArg Prod.snd inserted, log_insertChange]
  show TableMirrors codec other _
    ((db.updateAppTable domain (projectTable domain profile payload now
      (db.appTables domain))).appTables other)
  have wins : ∀ winner, db.log.winner (profile, (appDomainSpec domain).domain,
      (appDomainSpec domain).syncKey ((appDomainSpec domain).payloadId payload)) =
        some winner →
      winner.stamp < ⟨logicalClock, deviceId, deviceSequence⟩ := by
    intro winner found
    obtain ⟨membership, onSlot, -⟩ := SettingsLog.winner_mem found
    exact ChangeStamp.lt_of_clock_lt (clocks winner membership (congrArg Prod.fst onSlot))
  by_cases same : other = domain
  · subst same
    rw [show (db.updateAppTable other (projectTable other profile payload now
      (db.appTables other))).appTables other = _ from Function.update_self ..]
    exact (mirrored other).appendApplied now rfl rfl (lawful.app other payload) wins
  · rw [show (db.updateAppTable domain (projectTable domain profile payload now
      (db.appTables domain))).appTables other = _ from Function.update_of_ne same ..]
    refine (mirrored other).appendApplied_of_ne now (slot_ne_appSlot_of_domain_ne ?_)
    exact fun sameDomain => same (appDomainSpec_domain_injective sameDomain).symm

theorem Mirrored.upsertAppRecord (mirrored : Mirrored codec db) (lawful : codec.Lawful)
    {domain : AppDomain} {update : AppUpdate domain} {now : Int} {record : AppRecord domain}
    (h : db.upsertAppRecord codec domain update now = .ok (record, next)) :
    Mirrored codec next := by
  obtain ⟨-, upserted, change, written, logged⟩ := upsertAppRecord_eq_ok h
  obtain ⟨_, -, written⟩ := bind_eq_ok_iff.mp written
  have table : upserted = db.updateAppTable domain
      (projectTable domain ((appDomainSpec domain).updateProfile update)
        ((appDomainSpec domain).payloadOf update) now (db.appTables domain)) := by
    rw [projectTable, if_neg (by simp [deleted_payloadOf])]
    exact (Except.ok.inj written).symm
  rw [← payloadId_payloadOf domain update] at logged
  subst table
  exact mirrored.recordSyncSettingText lawful logged

theorem Mirrored.removeAppRecord (mirrored : Mirrored codec db) (lawful : codec.Lawful)
    {domain : AppDomain} {profile id : String} {now : Int}
    {removed : Option SyncChangeRecord}
    (h : db.removeAppRecord codec domain profile id now = .ok (removed, next)) :
    Mirrored codec next := by
  rcases removeAppRecord_eq_ok h with ⟨notFound, rfl⟩ | ⟨record, change, found, logged⟩
  · -- Nothing was stored under the id, so deleting it changes no row.
    have same : Rows.erase (appDomainSpec domain).recordKey (profile, id)
        (db.appTables domain) = db.appTables domain := by
      refine List.filter_eq_self.mpr fun row membership => ?_
      simpa using Rows.lookup_eq_none_iff.mp notFound row membership
    rw [same, updateAppTable, Function.update_eq_self]
    exact mirrored
  · have key : (profile, (appDomainSpec domain).recordId record) = (profile, id) := by
      have stored : (appDomainSpec domain).recordKey record = (profile, id) :=
        (Rows.mem_of_lookup found).2
      have sameId : (appDomainSpec domain).recordId record = id := congrArg Prod.snd stored
      rw [sameId]
    have table : Rows.erase (appDomainSpec domain).recordKey (profile, id)
        (db.appTables domain) = projectTable domain profile
          ((appDomainSpec domain).tombstone record) now (db.appTables domain) := by
      rw [projectTable, if_pos (deleted_tombstone domain record), payloadId_tombstone, key]
    rw [table, ← payloadId_tombstone domain record] at logged
    exact mirrored.recordSyncSettingText lawful logged

theorem Mirrored.setSettingText (mirrored : Mirrored codec db) {key value : String}
    {now : Int} {record : SyncChangeRecord}
    (h : db.setSettingText key value now = .ok (record, next)) : Mirrored codec next := by
  obtain ⟨deviceSequence, logicalClock, -, -, inserted⟩ :=
    recordSyncSettingText_eq_ok (databaseError_eq_ok_iff.mp h)
  intro domain
  rw [show next = _ from congrArg Prod.snd inserted, log_insertChange]
  exact (mirrored domain).appendApplied_of_ne now
    (slot_ne_appSlot_of_domain_ne (appDomain_ne_settings domain).symm)

theorem Mirrored.applyAll (mirrored : Mirrored codec db)
    {changes : List IncomingSyncSettingText} {now : Int} {records : List SyncChangeRecord}
    (h : forEach (fun change => SlateProfileDatabase.applySyncSettingText codec change now)
      changes db = .ok (records, next)) : Mirrored codec next :=
  forEach_invariant (Mirrored codec)
    (fun _ _ _ _ _ stepped mirrored => mirrored.applySyncSettingText stepped) h mirrored

theorem Mirrored.applySettingsSnapshot (mirrored : Mirrored codec db)
    {snapshot : ProfileSyncSettingsSnapshot} {now : Int} {records : List SyncChangeRecord}
    (h : db.applySettingsSnapshot codec snapshot now = .ok (records, next)) :
    Mirrored codec next := by
  unfold SlateProfileDatabase.applySettingsSnapshot at h
  split at h
  · cases h
  · exact mirrored.applyAll h

theorem Mirrored.applyVerifiedSettingsManifest (mirrored : Mirrored codec db)
    {objects : VerifiedProfileSyncSettingsManifestObjects} {now : Int}
    {application : ProfileSyncSettingsManifestApplication}
    (h : db.applyVerifiedSettingsManifest codec objects now = .ok (application, next)) :
    Mirrored codec next := by
  obtain ⟨-, _, afterSnapshot, _, afterTail, snapshotApplied, tailApplied, rootSet⟩ :=
    applyVerifiedSettingsManifest_eq_ok h
  have middle : Mirrored codec afterSnapshot := by
    cases snapshotPart : objects.snapshot with
    | none =>
        rw [snapshotPart] at snapshotApplied
        cases snapshotApplied
        exact mirrored
    | some verified =>
        rw [snapshotPart] at snapshotApplied
        obtain ⟨⟨changes, applied⟩, application, h⟩ := bind_eq_ok_iff.mp snapshotApplied
        obtain ⟨rfl, rfl⟩ := ok_pair_inj h
        have kept := mirrored.applySettingsSnapshot application
        exact kept
  rw [(setProfileSyncRoot_eq_ok rootSet).2]
  have kept := middle.applyAll tailApplied
  exact kept

end Operations

/-- The operations that write typed rows, and those that write neither rows nor typed
changes. -/
inductive TypedOperation (codec : SyncPayloadCodec) :
    SlateProfileDatabase → SlateProfileDatabase → Prop where
  | upsertAppRecord {db next : SlateProfileDatabase} {domain : AppDomain}
      {update : AppUpdate domain} {now : Int} {record : AppRecord domain}
      (h : db.upsertAppRecord codec domain update now = .ok (record, next)) :
      TypedOperation codec db next
  | removeAppRecord {db next : SlateProfileDatabase} {domain : AppDomain}
      {profile id : String} {now : Int} {removed : Option SyncChangeRecord}
      (h : db.removeAppRecord codec domain profile id now = .ok (removed, next)) :
      TypedOperation codec db next
  | applySyncSettingText {db next : SlateProfileDatabase}
      {change : IncomingSyncSettingText} {now : Int} {record : SyncChangeRecord}
      (h : db.applySyncSettingText codec change now = .ok (record, next)) :
      TypedOperation codec db next
  | applySettingsSnapshot {db next : SlateProfileDatabase}
      {snapshot : ProfileSyncSettingsSnapshot} {now : Int} {records : List SyncChangeRecord}
      (h : db.applySettingsSnapshot codec snapshot now = .ok (records, next)) :
      TypedOperation codec db next
  | applyVerifiedSettingsManifest {db next : SlateProfileDatabase}
      {objects : VerifiedProfileSyncSettingsManifestObjects} {now : Int}
      {application : ProfileSyncSettingsManifestApplication}
      (h : db.applyVerifiedSettingsManifest codec objects now = .ok (application, next)) :
      TypedOperation codec db next
  | setSettingText {db next : SlateProfileDatabase} {key value : String} {now : Int}
      {record : SyncChangeRecord}
      (h : db.setSettingText key value now = .ok (record, next)) :
      TypedOperation codec db next
  | otherTables {db next : SlateProfileDatabase} (log : next.log = db.log)
      (tables : next.appTables = db.appTables) : TypedOperation codec db next

theorem TypedOperation.mirrored {db next : SlateProfileDatabase} (lawful : codec.Lawful)
    (operation : TypedOperation codec db next) (mirrored : Mirrored codec db) :
    Mirrored codec next := by
  cases operation with
  | upsertAppRecord h => exact mirrored.upsertAppRecord lawful h
  | removeAppRecord h => exact mirrored.removeAppRecord lawful h
  | applySyncSettingText h => exact mirrored.applySyncSettingText h
  | applySettingsSnapshot h => exact mirrored.applySettingsSnapshot h
  | applyVerifiedSettingsManifest h => exact mirrored.applyVerifiedSettingsManifest h
  | setSettingText h => exact mirrored.setSettingText h
  | otherTables log tables =>
      intro domain
      rw [log, tables]
      exact mirrored domain

theorem TypedOperation.run {db next : SlateProfileDatabase}
    (operation : TypedOperation codec db next) : SettingsLog.Run db.log next.log := by
  cases operation with
  | upsertAppRecord h => exact .single (upsertAppRecord_step h)
  | removeAppRecord h => exact removeAppRecord_run h
  | applySyncSettingText h => exact applySyncSettingText_run h
  | applySettingsSnapshot h => exact applySettingsSnapshot_run h
  | applyVerifiedSettingsManifest h => exact applyVerifiedSettingsManifest_run h
  | setSettingText h =>
      have stepped := recordSyncSettingText_step (databaseError_eq_ok_iff.mp h)
      exact .single stepped
  | otherTables log tables => rw [log]

/-- Over every run, the tables mirror the log and the log is well formed. -/
theorem typedRun_invariant (lawful : codec.Lawful) {localSyncDeviceId : String}
    {db : SlateProfileDatabase}
    (run : Relation.ReflTransGen (TypedOperation codec) { localSyncDeviceId } db) :
    Mirrored codec db ∧ db.log.WellFormed := by
  induction run with
  | refl =>
      refine ⟨fun domain => ⟨List.nodup_nil, fun _ _ _ => rfl, ?_⟩,
        SettingsLog.wellFormed_empty⟩
      intro profile id winner found
      cases found
  | tail _ operation inductionHypothesis =>
      exact ⟨operation.mirrored lawful inductionHypothesis.1,
        operation.run.wellFormed inductionHypothesis.2⟩

/-- A typed table has a row for an id exactly when the largest recorded change on the
id's key is not a deletion, and every payload column of the row is that change's. -/
theorem typedTable_mirrors_winner (lawful : codec.Lawful) {localSyncDeviceId : String}
    {db : SlateProfileDatabase}
    (run : Relation.ReflTransGen (TypedOperation codec) { localSyncDeviceId } db)
    (domain : AppDomain) (profile id : String) :
    ((∃ record ∈ db.appTables domain,
        (appDomainSpec domain).recordKey record = (profile, id)) ↔
      ∃ winner payload, db.IsWinningChange (appSlot domain profile id) winner ∧
        (codec.app domain).fromText winner.payload = .ok payload ∧
        (appDomainSpec domain).deleted payload = false) ∧
    ∀ record ∈ db.appTables domain, (appDomainSpec domain).recordKey record = (profile, id) →
      ∀ winner payload, db.IsWinningChange (appSlot domain profile id) winner →
        (codec.app domain).fromText winner.payload = .ok payload →
        RowMirrors domain record payload := by
  obtain ⟨mirrored, wf⟩ := typedRun_invariant lawful run
  have stored : ∀ record, (record ∈ db.appTables domain ∧
      (appDomainSpec domain).recordKey record = (profile, id)) ↔
      Rows.lookup (appDomainSpec domain).recordKey (profile, id) (db.appTables domain) =
        some record := fun record =>
    (Rows.lookup_eq_some_iff (mirrored domain).unique).symm
  refine ⟨⟨?_, ?_⟩, ?_⟩
  · rintro ⟨record, membership⟩
    have found := (stored record).mp membership
    cases winning : db.log.winner (appSlot domain profile id) with
    | none =>
        rw [(mirrored domain).absent profile id winning] at found
        cases found
    | some winner =>
        obtain ⟨payload, decodes, gone, -⟩ :=
          (mirrored domain).present profile id winner winning
        refine ⟨winner, payload, (isWinningChange_iff wf).mpr winning, decodes, ?_⟩
        cases deleted : (appDomainSpec domain).deleted payload with
        | false => rfl
        | true =>
            rw [gone deleted] at found
            cases found
  · rintro ⟨winner, payload, winning, decodes, kept⟩
    obtain ⟨payload', decodes', -, row⟩ :=
      (mirrored domain).present profile id winner ((isWinningChange_iff wf).mp winning)
    obtain rfl : payload = payload' := Except.ok.inj (decodes.symm.trans decodes')
    obtain ⟨record, found, -⟩ := row kept
    exact ⟨record, (stored record).mpr found⟩
  · intro record membership key winner payload winning decodes
    have found := (stored record).mp ⟨membership, key⟩
    obtain ⟨payload', decodes', gone, row⟩ :=
      (mirrored domain).present profile id winner ((isWinningChange_iff wf).mp winning)
    obtain rfl : payload = payload' := Except.ok.inj (decodes.symm.trans decodes')
    cases deleted : (appDomainSpec domain).deleted payload with
    | true =>
        rw [gone deleted] at found
        cases found
    | false =>
        obtain ⟨other, otherFound, mirrors⟩ := row deleted
        rw [found] at otherFound
        obtain rfl := Option.some.inj otherFound
        exact mirrors

end SlateProfileDatabase

section Serializer

instance countableString : Countable String := by
  have chars : Countable Char :=
    Function.Injective.countable (f := Char.toNat) fun _ _ same => Char.toNat_inj.mp same
  exact Function.Injective.countable (f := String.toList) fun _ _ same =>
    String.toList_inj.mp same

instance : Countable BookmarkSlotSyncPayload :=
  Function.Injective.countable
    (f := fun p : BookmarkSlotSyncPayload =>
      (p.url, p.title, p.folder, p.position, p.faviconKey, p.replacedUrl, p.deleted)) <| by
    rintro ⟨⟩ ⟨⟩ same
    simpa using same

instance : Countable CalendarEventSyncPayload :=
  Function.Injective.countable
    (f := fun p : CalendarEventSyncPayload =>
      (p.eventId, p.calendarId, p.title, p.startsAt, p.endsAt, p.timeZone, p.location,
       p.notes, p.recurrenceRule, p.reminderMinutes, p.deleted)) <| by
    rintro ⟨⟩ ⟨⟩ same
    simpa using same

instance : Countable ChatConversationSyncPayload :=
  Function.Injective.countable
    (f := fun p : ChatConversationSyncPayload =>
      (p.conversationId, p.providerId, p.externalThreadId, p.displayName, p.avatarKey,
       p.lastMessageAt, p.unreadCount, p.archived, p.muted, p.deleted)) <| by
    rintro ⟨⟩ ⟨⟩ same
    simpa using same

instance : Countable ContactCardSyncPayload :=
  Function.Injective.countable
    (f := fun p : ContactCardSyncPayload =>
      (p.contactId, p.displayName, p.givenName, p.familyName, p.organization,
       p.primaryEmail, p.primaryPhone, p.notes, p.avatarKey, p.deleted)) <| by
    rintro ⟨⟩ ⟨⟩ same
    simpa using same

instance : Countable DownloadMetadataSyncPayload :=
  Function.Injective.countable
    (f := fun p : DownloadMetadataSyncPayload =>
      (p.downloadId, p.sourceUrl, p.finalUrl, p.route, p.transportId, p.filename,
       p.contentType, p.sizeBytes, p.integrity, p.deleted)) <| by
    rintro ⟨⟩ ⟨⟩ same
    simpa using same

instance : Countable FileEntrySyncPayload :=
  Function.Injective.countable
    (f := fun p : FileEntrySyncPayload =>
      (p.entryId, p.syncSetId, p.parentId, p.name, p.entryKind, p.contentRef, p.mimeType,
       p.sizeBytes, p.modifiedAt, p.integrity, p.retentionPolicy, p.deleted)) <| by
    rintro ⟨⟩ ⟨⟩ same
    simpa using same

instance : Countable StorageProviderSyncPayload :=
  Function.Injective.countable
    (f := fun p : StorageProviderSyncPayload =>
      (p.providerId, p.providerKind, p.displayName, p.endpointRef, p.discovery,
       p.connectivity, p.objectTransfer, p.availability, p.mutableRoots, p.quotaBytes,
       p.maxRetainedObjects, p.pinningPolicy, p.enabled, p.deleted)) <| by
    rintro ⟨⟩ ⟨⟩ same
    simpa using same

/-- A serializer that numbers the payloads. -/
noncomputable def numberedCodec (Payload : Type) [Countable Payload] : PayloadCodec Payload where
  toText payload :=
    String.ofList (List.replicate ((exists_injective_nat Payload).choose payload) '#')
  fromText text :=
    open Classical in
    if known : ∃ payload : Payload, String.ofList
        (List.replicate ((exists_injective_nat Payload).choose payload) '#') = text then
      .ok known.choose
    else .error "expected value"

theorem numberedCodec_fromText_toText {Payload : Type} [Countable Payload]
    (payload : Payload) :
    (numberedCodec Payload).fromText ((numberedCodec Payload).toText payload) =
      .ok payload := by
  have known : ∃ other : Payload, String.ofList
      (List.replicate ((exists_injective_nat Payload).choose other) '#') =
      (numberedCodec Payload).toText payload := ⟨payload, rfl⟩
  have same := congrArg (fun text => text.toList.length) known.choose_spec
  simp only [numberedCodec, String.toList_ofList, List.length_replicate] at same
  exact (dif_pos known).trans
    (congrArg Except.ok ((exists_injective_nat Payload).choose_spec same))

/-- A serializer that writes one payload as a JSON object and numbers the others. -/
noncomputable def sampleCodec {Payload : Type} [Countable Payload] [DecidableEq Payload]
    (sample : Payload) (fields : String) : PayloadCodec Payload where
  toText payload :=
    if payload = sample then "\x7b" ++ fields ++ "\x7d"
    else (numberedCodec Payload).toText payload
  fromText text :=
    if text = "\x7b" ++ fields ++ "\x7d" then .ok sample
    else (numberedCodec Payload).fromText text

theorem sampleCodec_fromText_toText {Payload : Type} [Countable Payload]
    [DecidableEq Payload] (sample : Payload) (fields : String) (payload : Payload) :
    (sampleCodec sample fields).fromText ((sampleCodec sample fields).toText payload) =
      .ok payload := by
  by_cases same : payload = sample
  · simp [sampleCodec, same]
  · have different : (numberedCodec Payload).toText payload ≠
        "\x7b" ++ fields ++ "\x7d" := by
      intro h
      have heads := congrArg (fun text => text.toList.head?) h
      simp only [numberedCodec, String.toList_ofList, String.toList_append] at heads
      cases count : (exists_injective_nat Payload).choose payload with
      | zero => simp [count] at heads
      | succ count => simp [count, List.replicate_succ] at heads
    simp only [sampleCodec, if_neg same, if_neg different]
    exact numberedCodec_fromText_toText payload

/-- An appointment as the calendar app writes it. -/
def dentistUpdate : CalendarEventUpdate :=
  { profile := "default", eventId := "dentist", calendarId := none, title := "Dentist"
    startsAt := 1700000000, endsAt := none, timeZone := none, location := none, notes := none
    recurrenceRule := none, reminderMinutes := some 30 }

/-- The serializers, with the text that the appointment's payload is written as. -/
noncomputable def dentistCodec : SyncPayloadCodec where
  bookmark := numberedCodec BookmarkSlotSyncPayload
  app
    | .calendar => sampleCodec (calendarEventSpec.payloadOf dentistUpdate)
        ("\"event_id\":\"dentist\",\"calendar_id\":null,\"title\":\"Dentist\"," ++
          "\"starts_at\":1700000000,\"ends_at\":null,\"time_zone\":null," ++
          "\"location\":null,\"notes\":null,\"recurrence_rule\":null," ++
          "\"reminder_minutes\":30,\"deleted\":false")
    | .chat => numberedCodec ChatConversationSyncPayload
    | .contacts => numberedCodec ContactCardSyncPayload
    | .downloads => numberedCodec DownloadMetadataSyncPayload
    | .files => numberedCodec FileEntrySyncPayload
    | .storage => numberedCodec StorageProviderSyncPayload

theorem dentistCodec_lawful : dentistCodec.Lawful where
  bookmark := numberedCodec_fromText_toText
  app domain payload := by
    cases domain with
    | calendar => exact sampleCodec_fromText_toText _ _ payload
    | chat => exact numberedCodec_fromText_toText payload
    | contacts => exact numberedCodec_fromText_toText payload
    | downloads => exact numberedCodec_fromText_toText payload
    | files => exact numberedCodec_fromText_toText payload
    | storage => exact numberedCodec_fromText_toText payload

/-- After the appointment is written, its row is the payload of the winning change. -/
theorem SlateProfileDatabase.typedTable_mirrors_dentist :
    ∃ db : SlateProfileDatabase,
      Relation.ReflTransGen (TypedOperation dentistCodec) { localSyncDeviceId := "laptop" } db ∧
      (calendarEventSpec.row "default" (calendarEventSpec.payloadOf dentistUpdate) 7 ∈
        db.appTables .calendar) ∧
      ∃ winner payload,
        db.IsWinningChange (appSlot .calendar "default" "dentist") winner ∧
        (dentistCodec.app .calendar).fromText winner.payload = .ok payload ∧
        calendarEventSpec.deleted payload = false := by
  have written : ∃ record next, upsertAppRecord dentistCodec .calendar dentistUpdate 7
      { localSyncDeviceId := "laptop" } = .ok (record, next) ∧
      next.appTables .calendar =
        [calendarEventSpec.row "default" (calendarEventSpec.payloadOf dentistUpdate) 7] :=
    ⟨_, _, rfl, rfl⟩
  obtain ⟨record, next, written, table⟩ := written
  have run : Relation.ReflTransGen (TypedOperation dentistCodec)
      { localSyncDeviceId := "laptop" } next := .single (.upsertAppRecord written)
  refine ⟨next, run, by simp [table], ?_⟩
  exact (typedTable_mirrors_winner dentistCodec_lawful run .calendar "default" "dentist").1.mp
    ⟨_, table ▸ List.mem_singleton_self _, rfl⟩

end Serializer

end Slate.Storage
