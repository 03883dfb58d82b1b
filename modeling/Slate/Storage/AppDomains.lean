import Slate.Storage.Records

/-!
# App domains with typed tables

Six sync domains are projected into typed tables: calendar, chat, contacts,
downloads, files and storage. Each has an update, a table row and a sync payload.
The crate writes one copy of every operation per domain; here the operations are
written once over an `AppDomainSpec`, and each domain gives its own spec.
-/

namespace Slate.Storage

/-- The domains whose winning changes are projected into a typed table. -/
inductive AppDomain where
  | calendar
  | chat
  | contacts
  | downloads
  | files
  | storage
deriving DecidableEq, Repr

structure CalendarEventUpdate where
  profile : String
  eventId : String
  calendarId : Option String
  title : String
  startsAt : Int
  endsAt : Option Int
  timeZone : Option String
  location : Option String
  notes : Option String
  recurrenceRule : Option String
  reminderMinutes : Option Int
deriving DecidableEq, Repr

structure CalendarEventRecord where
  profile : String
  eventId : String
  calendarId : Option String
  title : String
  startsAt : Int
  endsAt : Option Int
  timeZone : Option String
  location : Option String
  notes : Option String
  recurrenceRule : Option String
  reminderMinutes : Option Int
  createdAt : Int
  updatedAt : Int
deriving DecidableEq, Repr

structure CalendarEventSyncPayload where
  eventId : String
  calendarId : Option String
  title : String
  startsAt : Int
  endsAt : Option Int
  timeZone : Option String
  location : Option String
  notes : Option String
  recurrenceRule : Option String
  reminderMinutes : Option Int
  deleted : Bool
deriving DecidableEq, Repr

structure ChatConversationUpdate where
  profile : String
  conversationId : String
  providerId : Option String
  externalThreadId : Option String
  displayName : String
  avatarKey : Option String
  lastMessageAt : Option Int
  unreadCount : Nat
  archived : Bool
  muted : Bool
deriving DecidableEq, Repr

structure ChatConversationRecord where
  profile : String
  conversationId : String
  providerId : Option String
  externalThreadId : Option String
  displayName : String
  avatarKey : Option String
  lastMessageAt : Option Int
  unreadCount : Nat
  archived : Bool
  muted : Bool
  createdAt : Int
  updatedAt : Int
deriving DecidableEq, Repr

structure ChatConversationSyncPayload where
  conversationId : String
  providerId : Option String
  externalThreadId : Option String
  displayName : String
  avatarKey : Option String
  lastMessageAt : Option Int
  unreadCount : Nat
  archived : Bool
  muted : Bool
  deleted : Bool
deriving DecidableEq, Repr

structure ContactCardUpdate where
  profile : String
  contactId : String
  displayName : String
  givenName : Option String
  familyName : Option String
  organization : Option String
  primaryEmail : Option String
  primaryPhone : Option String
  notes : Option String
  avatarKey : Option String
deriving DecidableEq, Repr

structure ContactCardRecord where
  profile : String
  contactId : String
  displayName : String
  givenName : Option String
  familyName : Option String
  organization : Option String
  primaryEmail : Option String
  primaryPhone : Option String
  notes : Option String
  avatarKey : Option String
  createdAt : Int
  updatedAt : Int
deriving DecidableEq, Repr

structure ContactCardSyncPayload where
  contactId : String
  displayName : String
  givenName : Option String
  familyName : Option String
  organization : Option String
  primaryEmail : Option String
  primaryPhone : Option String
  notes : Option String
  avatarKey : Option String
  deleted : Bool
deriving DecidableEq, Repr

structure DownloadMetadataUpdate where
  profile : String
  downloadId : String
  sourceUrl : String
  finalUrl : String
  route : Option String
  transportId : Option String
  filename : String
  contentType : Option String
  sizeBytes : Nat
  integrity : Option String
deriving DecidableEq, Repr

structure DownloadMetadataRecord where
  profile : String
  downloadId : String
  sourceUrl : String
  finalUrl : String
  route : Option String
  transportId : Option String
  filename : String
  contentType : Option String
  sizeBytes : Nat
  integrity : Option String
  createdAt : Int
  updatedAt : Int
deriving DecidableEq, Repr

structure DownloadMetadataSyncPayload where
  downloadId : String
  sourceUrl : String
  finalUrl : String
  route : Option String
  transportId : Option String
  filename : String
  contentType : Option String
  sizeBytes : Nat
  integrity : Option String
  deleted : Bool
deriving DecidableEq, Repr

structure FileEntryUpdate where
  profile : String
  entryId : String
  syncSetId : Option String
  parentId : Option String
  name : String
  entryKind : String
  contentRef : Option String
  mimeType : Option String
  sizeBytes : Option Nat
  modifiedAt : Option Int
  integrity : Option String
  retentionPolicy : Option String
deriving DecidableEq, Repr

structure FileEntryRecord where
  profile : String
  entryId : String
  syncSetId : Option String
  parentId : Option String
  name : String
  entryKind : String
  contentRef : Option String
  mimeType : Option String
  sizeBytes : Option Nat
  modifiedAt : Option Int
  integrity : Option String
  retentionPolicy : Option String
  createdAt : Int
  updatedAt : Int
deriving DecidableEq, Repr

structure FileEntrySyncPayload where
  entryId : String
  syncSetId : Option String
  parentId : Option String
  name : String
  entryKind : String
  contentRef : Option String
  mimeType : Option String
  sizeBytes : Option Nat
  modifiedAt : Option Int
  integrity : Option String
  retentionPolicy : Option String
  deleted : Bool
deriving DecidableEq, Repr

structure StorageProviderUpdate where
  profile : String
  providerId : String
  providerKind : String
  displayName : String
  endpointRef : Option String
  discovery : Bool
  connectivity : Bool
  objectTransfer : Bool
  availability : Bool
  mutableRoots : Bool
  quotaBytes : Option Nat
  maxRetainedObjects : Option Nat
  pinningPolicy : Option String
  enabled : Bool
deriving DecidableEq, Repr

structure StorageProviderRecord where
  profile : String
  providerId : String
  providerKind : String
  displayName : String
  endpointRef : Option String
  discovery : Bool
  connectivity : Bool
  objectTransfer : Bool
  availability : Bool
  mutableRoots : Bool
  quotaBytes : Option Nat
  maxRetainedObjects : Option Nat
  pinningPolicy : Option String
  enabled : Bool
  createdAt : Int
  updatedAt : Int
deriving DecidableEq, Repr

structure StorageProviderSyncPayload where
  providerId : String
  providerKind : String
  displayName : String
  endpointRef : Option String
  discovery : Bool
  connectivity : Bool
  objectTransfer : Bool
  availability : Bool
  mutableRoots : Bool
  quotaBytes : Option Nat
  maxRetainedObjects : Option Nat
  pinningPolicy : Option String
  enabled : Bool
  deleted : Bool
deriving DecidableEq, Repr

/-- The update a typed local operation takes. -/
abbrev AppUpdate : AppDomain → Type
  | .calendar => CalendarEventUpdate
  | .chat => ChatConversationUpdate
  | .contacts => ContactCardUpdate
  | .downloads => DownloadMetadataUpdate
  | .files => FileEntryUpdate
  | .storage => StorageProviderUpdate

/-- The row of a typed table. -/
abbrev AppRecord : AppDomain → Type
  | .calendar => CalendarEventRecord
  | .chat => ChatConversationRecord
  | .contacts => ContactCardRecord
  | .downloads => DownloadMetadataRecord
  | .files => FileEntryRecord
  | .storage => StorageProviderRecord

/-- The payload a change on a typed key carries. -/
abbrev AppSyncPayload : AppDomain → Type
  | .calendar => CalendarEventSyncPayload
  | .chat => ChatConversationSyncPayload
  | .contacts => ContactCardSyncPayload
  | .downloads => DownloadMetadataSyncPayload
  | .files => FileEntrySyncPayload
  | .storage => StorageProviderSyncPayload

/-- A payload rejected inside a transaction: column 3 with the given text. -/
def invalidSyncPayloadError (message : String) : SqlError :=
  .fromSqlConversionFailure 3 message

section Validation

def validateIdentifier (invalid : String → StorageError) (value : String) :
    Except StorageError Unit :=
  if isValidSyncIdentifier value then .ok () else .error (invalid value)

def validateOption {α ε : Type} (validate : α → Except ε Unit) :
    Option α → Except ε Unit
  | none => .ok ()
  | some value => validate value

/-- A `u64` that must fit the signed integer column it is written to. -/
def fitsSqlInteger {ε : Type} (invalid : Nat → ε) (size : Nat) : Except ε Unit :=
  if (size : Int) ≤ i64Max then .ok () else .error (invalid size)

def checkSqlIdentifier (label value : String) : Except SqlError Unit :=
  if isValidSyncIdentifier value then .ok ()
  else .error (invalidSyncPayloadError (label ++ value))

def isFileEntryKind (entryKind : String) : Bool :=
  entryKind == "file" || entryKind == "directory"

def isStoragePinningPolicy (pinningPolicy : String) : Bool :=
  pinningPolicy == "disabled" || pinningPolicy == "manual" ||
    pinningPolicy == "auto" || pinningPolicy == "required"

def validateCalendarEventId : String → Except StorageError Unit :=
  validateIdentifier .invalidCalendarEventId

def validateChatConversationId : String → Except StorageError Unit :=
  validateIdentifier .invalidChatConversationId

def validateChatProviderId : String → Except StorageError Unit :=
  validateIdentifier .invalidChatProviderId

def validateContactId : String → Except StorageError Unit :=
  validateIdentifier .invalidContactId

def validateDownloadId : String → Except StorageError Unit :=
  validateIdentifier .invalidDownloadId

def validateFileEntryId : String → Except StorageError Unit :=
  validateIdentifier .invalidFileEntryId

def validateStorageProviderId : String → Except StorageError Unit :=
  validateIdentifier .invalidStorageProviderId

def validateStorageProviderKind : String → Except StorageError Unit :=
  validateIdentifier .invalidStorageProviderKind

def validateFileEntryKind (entryKind : String) : Except StorageError Unit :=
  if isFileEntryKind entryKind then .ok () else .error (.invalidFileEntryKind entryKind)

def validateStoragePinningPolicy (pinningPolicy : String) : Except StorageError Unit :=
  if isStoragePinningPolicy pinningPolicy then .ok ()
  else .error (.invalidStoragePinningPolicy pinningPolicy)

def validateChatConversationUpdate (conversation : ChatConversationUpdate) :
    Except StorageError Unit := do
  validateChatConversationId conversation.conversationId
  validateOption validateChatProviderId conversation.providerId

def validateDownloadMetadataUpdate (download : DownloadMetadataUpdate) :
    Except StorageError Unit := do
  validateDownloadId download.downloadId
  fitsSqlInteger .invalidDownloadSize download.sizeBytes

def validateFileEntryUpdate (entry : FileEntryUpdate) : Except StorageError Unit := do
  validateFileEntryId entry.entryId
  validateOption validateFileEntryId entry.parentId
  validateFileEntryKind entry.entryKind
  validateOption (fitsSqlInteger .invalidFileSize) entry.sizeBytes

def validateStorageProviderUpdate (provider : StorageProviderUpdate) :
    Except StorageError Unit := do
  validateStorageProviderId provider.providerId
  validateStorageProviderKind provider.providerKind
  validateOption (fitsSqlInteger .invalidStorageProviderQuota) provider.quotaBytes
  validateOption validateStoragePinningPolicy provider.pinningPolicy

def downloadSizeToSql : Nat → Except SqlError Unit :=
  fitsSqlInteger fun size => invalidSyncPayloadError
    ("download size exceeds SQLite integer range: " ++ toString size)

def fileSizeToSql : Nat → Except SqlError Unit :=
  fitsSqlInteger fun size => invalidSyncPayloadError
    ("file size exceeds SQLite integer range: " ++ toString size)

def storageQuotaToSql : Nat → Except SqlError Unit :=
  fitsSqlInteger fun quota => invalidSyncPayloadError
    ("storage provider quota exceeds SQLite integer range: " ++ toString quota)

def checkSqlFileEntryKind (entryKind : String) : Except SqlError Unit :=
  if isFileEntryKind entryKind then .ok ()
  else .error (invalidSyncPayloadError ("invalid file entry kind: " ++ entryKind))

def checkSqlPinningPolicy (pinningPolicy : String) : Except SqlError Unit :=
  if isStoragePinningPolicy pinningPolicy then .ok ()
  else .error (invalidSyncPayloadError
    ("invalid storage provider pinning policy: " ++ pinningPolicy))

def validateCalendarEventSyncPayloadForSql (payload : CalendarEventSyncPayload) :
    Except SqlError Unit :=
  checkSqlIdentifier "invalid calendar event id: " payload.eventId

def validateChatConversationSyncPayloadForSql (payload : ChatConversationSyncPayload) :
    Except SqlError Unit := do
  checkSqlIdentifier "invalid chat conversation id: " payload.conversationId
  validateOption (checkSqlIdentifier "invalid chat provider id: ") payload.providerId

def validateContactCardSyncPayloadForSql (payload : ContactCardSyncPayload) :
    Except SqlError Unit :=
  checkSqlIdentifier "invalid contact id: " payload.contactId

def validateDownloadMetadataSyncPayloadForSql (payload : DownloadMetadataSyncPayload) :
    Except SqlError Unit := do
  checkSqlIdentifier "invalid download id: " payload.downloadId
  downloadSizeToSql payload.sizeBytes

def validateFileEntrySyncPayloadForSql (payload : FileEntrySyncPayload) :
    Except SqlError Unit := do
  checkSqlIdentifier "invalid file entry id: " payload.entryId
  validateOption (checkSqlIdentifier "invalid file parent id: ") payload.parentId
  checkSqlFileEntryKind payload.entryKind
  validateOption fileSizeToSql payload.sizeBytes

def validateStorageProviderSyncPayloadForSql (payload : StorageProviderSyncPayload) :
    Except SqlError Unit := do
  checkSqlIdentifier "invalid storage provider id: " payload.providerId
  checkSqlIdentifier "invalid storage provider kind: " payload.providerKind
  validateOption storageQuotaToSql payload.quotaBytes
  validateOption checkSqlPinningPolicy payload.pinningPolicy

end Validation

/-- What one domain contributes to the operations on typed tables. -/
structure AppDomainSpec (Update Record Payload : Type) where
  /-- The sync domain and the prefix of its keys. -/
  domain : String
  keyPrefix : String
  /-- How the key check names the domain. -/
  label : String
  updateProfile : Update → String
  updateId : Update → String
  validateUpdate : Update → Except StorageError Unit
  validateId : String → Except StorageError Unit
  /-- The payload written for a local update. -/
  payloadOf : Update → Payload
  /-- The payload written when a row is removed. -/
  tombstone : Record → Payload
  payloadId : Payload → String
  deleted : Payload → Bool
  validatePayload : Payload → Except SqlError Unit
  /-- The integer conversions made when the row is written. -/
  toSql : Payload → Except SqlError Unit
  recordProfile : Record → String
  recordId : Record → String
  /-- The inserted row. -/
  row : String → Payload → Int → Record
  /-- The row after a conflict: `created_at` stays, the rest is excluded's. -/
  merge : Record → Record → Record

def calendarEventSpec :
    AppDomainSpec CalendarEventUpdate CalendarEventRecord CalendarEventSyncPayload where
  domain := syncDomainCalendar
  keyPrefix := "event."
  label := "calendar event"
  updateProfile := (·.profile)
  updateId := (·.eventId)
  validateUpdate event := validateCalendarEventId event.eventId
  validateId := validateCalendarEventId
  payloadOf event :=
    { eventId := event.eventId, calendarId := event.calendarId, title := event.title
      startsAt := event.startsAt, endsAt := event.endsAt, timeZone := event.timeZone
      location := event.location, notes := event.notes
      recurrenceRule := event.recurrenceRule, reminderMinutes := event.reminderMinutes
      deleted := false }
  tombstone event :=
    { eventId := event.eventId, calendarId := event.calendarId, title := event.title
      startsAt := event.startsAt, endsAt := event.endsAt, timeZone := event.timeZone
      location := event.location, notes := event.notes
      recurrenceRule := event.recurrenceRule, reminderMinutes := event.reminderMinutes
      deleted := true }
  payloadId := (·.eventId)
  deleted := (·.deleted)
  validatePayload := validateCalendarEventSyncPayloadForSql
  toSql _ := .ok ()
  recordProfile := (·.profile)
  recordId := (·.eventId)
  row profile payload now :=
    { profile, eventId := payload.eventId, calendarId := payload.calendarId
      title := payload.title, startsAt := payload.startsAt, endsAt := payload.endsAt
      timeZone := payload.timeZone, location := payload.location, notes := payload.notes
      recurrenceRule := payload.recurrenceRule, reminderMinutes := payload.reminderMinutes
      createdAt := now, updatedAt := now }
  merge existing excluded :=
    { existing with
      calendarId := excluded.calendarId, title := excluded.title
      startsAt := excluded.startsAt, endsAt := excluded.endsAt
      timeZone := excluded.timeZone, location := excluded.location
      notes := excluded.notes, recurrenceRule := excluded.recurrenceRule
      reminderMinutes := excluded.reminderMinutes, updatedAt := excluded.updatedAt }

def chatConversationSpec :
    AppDomainSpec ChatConversationUpdate ChatConversationRecord
      ChatConversationSyncPayload where
  domain := syncDomainChat
  keyPrefix := "conversation."
  label := "chat conversation"
  updateProfile := (·.profile)
  updateId := (·.conversationId)
  validateUpdate := validateChatConversationUpdate
  validateId := validateChatConversationId
  payloadOf conversation :=
    { conversationId := conversation.conversationId, providerId := conversation.providerId
      externalThreadId := conversation.externalThreadId
      displayName := conversation.displayName, avatarKey := conversation.avatarKey
      lastMessageAt := conversation.lastMessageAt, unreadCount := conversation.unreadCount
      archived := conversation.archived, muted := conversation.muted, deleted := false }
  tombstone conversation :=
    { conversationId := conversation.conversationId, providerId := conversation.providerId
      externalThreadId := conversation.externalThreadId
      displayName := conversation.displayName, avatarKey := conversation.avatarKey
      lastMessageAt := conversation.lastMessageAt, unreadCount := conversation.unreadCount
      archived := conversation.archived, muted := conversation.muted, deleted := true }
  payloadId := (·.conversationId)
  deleted := (·.deleted)
  validatePayload := validateChatConversationSyncPayloadForSql
  toSql _ := .ok ()
  recordProfile := (·.profile)
  recordId := (·.conversationId)
  row profile payload now :=
    { profile, conversationId := payload.conversationId, providerId := payload.providerId
      externalThreadId := payload.externalThreadId, displayName := payload.displayName
      avatarKey := payload.avatarKey, lastMessageAt := payload.lastMessageAt
      unreadCount := payload.unreadCount, archived := payload.archived
      muted := payload.muted, createdAt := now, updatedAt := now }
  merge existing excluded :=
    { existing with
      providerId := excluded.providerId, externalThreadId := excluded.externalThreadId
      displayName := excluded.displayName, avatarKey := excluded.avatarKey
      lastMessageAt := excluded.lastMessageAt, unreadCount := excluded.unreadCount
      archived := excluded.archived, muted := excluded.muted
      updatedAt := excluded.updatedAt }

def contactCardSpec :
    AppDomainSpec ContactCardUpdate ContactCardRecord ContactCardSyncPayload where
  domain := syncDomainContacts
  keyPrefix := "contact."
  label := "contact"
  updateProfile := (·.profile)
  updateId := (·.contactId)
  validateUpdate contact := validateContactId contact.contactId
  validateId := validateContactId
  payloadOf contact :=
    { contactId := contact.contactId, displayName := contact.displayName
      givenName := contact.givenName, familyName := contact.familyName
      organization := contact.organization, primaryEmail := contact.primaryEmail
      primaryPhone := contact.primaryPhone, notes := contact.notes
      avatarKey := contact.avatarKey, deleted := false }
  tombstone contact :=
    { contactId := contact.contactId, displayName := contact.displayName
      givenName := contact.givenName, familyName := contact.familyName
      organization := contact.organization, primaryEmail := contact.primaryEmail
      primaryPhone := contact.primaryPhone, notes := contact.notes
      avatarKey := contact.avatarKey, deleted := true }
  payloadId := (·.contactId)
  deleted := (·.deleted)
  validatePayload := validateContactCardSyncPayloadForSql
  toSql _ := .ok ()
  recordProfile := (·.profile)
  recordId := (·.contactId)
  row profile payload now :=
    { profile, contactId := payload.contactId, displayName := payload.displayName
      givenName := payload.givenName, familyName := payload.familyName
      organization := payload.organization, primaryEmail := payload.primaryEmail
      primaryPhone := payload.primaryPhone, notes := payload.notes
      avatarKey := payload.avatarKey, createdAt := now, updatedAt := now }
  merge existing excluded :=
    { existing with
      displayName := excluded.displayName, givenName := excluded.givenName
      familyName := excluded.familyName, organization := excluded.organization
      primaryEmail := excluded.primaryEmail, primaryPhone := excluded.primaryPhone
      notes := excluded.notes, avatarKey := excluded.avatarKey
      updatedAt := excluded.updatedAt }

def downloadMetadataSpec :
    AppDomainSpec DownloadMetadataUpdate DownloadMetadataRecord
      DownloadMetadataSyncPayload where
  domain := syncDomainDownloads
  keyPrefix := "download."
  label := "download metadata"
  updateProfile := (·.profile)
  updateId := (·.downloadId)
  validateUpdate := validateDownloadMetadataUpdate
  validateId := validateDownloadId
  payloadOf download :=
    { downloadId := download.downloadId, sourceUrl := download.sourceUrl
      finalUrl := download.finalUrl, route := download.route
      transportId := download.transportId, filename := download.filename
      contentType := download.contentType, sizeBytes := download.sizeBytes
      integrity := download.integrity, deleted := false }
  tombstone download :=
    { downloadId := download.downloadId, sourceUrl := download.sourceUrl
      finalUrl := download.finalUrl, route := download.route
      transportId := download.transportId, filename := download.filename
      contentType := download.contentType, sizeBytes := download.sizeBytes
      integrity := download.integrity, deleted := true }
  payloadId := (·.downloadId)
  deleted := (·.deleted)
  validatePayload := validateDownloadMetadataSyncPayloadForSql
  toSql payload := downloadSizeToSql payload.sizeBytes
  recordProfile := (·.profile)
  recordId := (·.downloadId)
  row profile payload now :=
    { profile, downloadId := payload.downloadId, sourceUrl := payload.sourceUrl
      finalUrl := payload.finalUrl, route := payload.route
      transportId := payload.transportId, filename := payload.filename
      contentType := payload.contentType, sizeBytes := payload.sizeBytes
      integrity := payload.integrity, createdAt := now, updatedAt := now }
  merge existing excluded :=
    { existing with
      sourceUrl := excluded.sourceUrl, finalUrl := excluded.finalUrl
      route := excluded.route, transportId := excluded.transportId
      filename := excluded.filename, contentType := excluded.contentType
      sizeBytes := excluded.sizeBytes, integrity := excluded.integrity
      updatedAt := excluded.updatedAt }

def fileEntrySpec :
    AppDomainSpec FileEntryUpdate FileEntryRecord FileEntrySyncPayload where
  domain := syncDomainFiles
  keyPrefix := "entry."
  label := "file entry"
  updateProfile := (·.profile)
  updateId := (·.entryId)
  validateUpdate := validateFileEntryUpdate
  validateId := validateFileEntryId
  payloadOf entry :=
    { entryId := entry.entryId, syncSetId := entry.syncSetId, parentId := entry.parentId
      name := entry.name, entryKind := entry.entryKind, contentRef := entry.contentRef
      mimeType := entry.mimeType, sizeBytes := entry.sizeBytes
      modifiedAt := entry.modifiedAt, integrity := entry.integrity
      retentionPolicy := entry.retentionPolicy, deleted := false }
  tombstone entry :=
    { entryId := entry.entryId, syncSetId := entry.syncSetId, parentId := entry.parentId
      name := entry.name, entryKind := entry.entryKind, contentRef := entry.contentRef
      mimeType := entry.mimeType, sizeBytes := entry.sizeBytes
      modifiedAt := entry.modifiedAt, integrity := entry.integrity
      retentionPolicy := entry.retentionPolicy, deleted := true }
  payloadId := (·.entryId)
  deleted := (·.deleted)
  validatePayload := validateFileEntrySyncPayloadForSql
  toSql payload := validateOption fileSizeToSql payload.sizeBytes
  recordProfile := (·.profile)
  recordId := (·.entryId)
  row profile payload now :=
    { profile, entryId := payload.entryId, syncSetId := payload.syncSetId
      parentId := payload.parentId, name := payload.name, entryKind := payload.entryKind
      contentRef := payload.contentRef, mimeType := payload.mimeType
      sizeBytes := payload.sizeBytes, modifiedAt := payload.modifiedAt
      integrity := payload.integrity, retentionPolicy := payload.retentionPolicy
      createdAt := now, updatedAt := now }
  merge existing excluded :=
    { existing with
      syncSetId := excluded.syncSetId, parentId := excluded.parentId
      name := excluded.name, entryKind := excluded.entryKind
      contentRef := excluded.contentRef, mimeType := excluded.mimeType
      sizeBytes := excluded.sizeBytes, modifiedAt := excluded.modifiedAt
      integrity := excluded.integrity, retentionPolicy := excluded.retentionPolicy
      updatedAt := excluded.updatedAt }

def storageProviderSpec :
    AppDomainSpec StorageProviderUpdate StorageProviderRecord
      StorageProviderSyncPayload where
  domain := syncDomainStorage
  keyPrefix := "provider."
  label := "storage provider"
  updateProfile := (·.profile)
  updateId := (·.providerId)
  validateUpdate := validateStorageProviderUpdate
  validateId := validateStorageProviderId
  payloadOf provider :=
    { providerId := provider.providerId, providerKind := provider.providerKind
      displayName := provider.displayName, endpointRef := provider.endpointRef
      discovery := provider.discovery, connectivity := provider.connectivity
      objectTransfer := provider.objectTransfer, availability := provider.availability
      mutableRoots := provider.mutableRoots, quotaBytes := provider.quotaBytes
      maxRetainedObjects := provider.maxRetainedObjects
      pinningPolicy := provider.pinningPolicy, enabled := provider.enabled
      deleted := false }
  tombstone provider :=
    { providerId := provider.providerId, providerKind := provider.providerKind
      displayName := provider.displayName, endpointRef := provider.endpointRef
      discovery := provider.discovery, connectivity := provider.connectivity
      objectTransfer := provider.objectTransfer, availability := provider.availability
      mutableRoots := provider.mutableRoots, quotaBytes := provider.quotaBytes
      maxRetainedObjects := provider.maxRetainedObjects
      pinningPolicy := provider.pinningPolicy, enabled := provider.enabled
      deleted := true }
  payloadId := (·.providerId)
  deleted := (·.deleted)
  validatePayload := validateStorageProviderSyncPayloadForSql
  toSql payload := validateOption storageQuotaToSql payload.quotaBytes
  recordProfile := (·.profile)
  recordId := (·.providerId)
  row profile payload now :=
    { profile, providerId := payload.providerId, providerKind := payload.providerKind
      displayName := payload.displayName, endpointRef := payload.endpointRef
      discovery := payload.discovery, connectivity := payload.connectivity
      objectTransfer := payload.objectTransfer, availability := payload.availability
      mutableRoots := payload.mutableRoots, quotaBytes := payload.quotaBytes
      maxRetainedObjects := payload.maxRetainedObjects
      pinningPolicy := payload.pinningPolicy, enabled := payload.enabled
      createdAt := now, updatedAt := now }
  merge existing excluded :=
    { existing with
      providerKind := excluded.providerKind, displayName := excluded.displayName
      endpointRef := excluded.endpointRef, discovery := excluded.discovery
      connectivity := excluded.connectivity, objectTransfer := excluded.objectTransfer
      availability := excluded.availability, mutableRoots := excluded.mutableRoots
      quotaBytes := excluded.quotaBytes
      maxRetainedObjects := excluded.maxRetainedObjects
      pinningPolicy := excluded.pinningPolicy, enabled := excluded.enabled
      updatedAt := excluded.updatedAt }

/-- The spec of each typed domain. -/
def appDomainSpec :
    (domain : AppDomain) →
      AppDomainSpec (AppUpdate domain) (AppRecord domain) (AppSyncPayload domain)
  | .calendar => calendarEventSpec
  | .chat => chatConversationSpec
  | .contacts => contactCardSpec
  | .downloads => downloadMetadataSpec
  | .files => fileEntrySpec
  | .storage => storageProviderSpec

namespace AppDomainSpec

variable {Update Record Payload : Type} (spec : AppDomainSpec Update Record Payload)

/-- `calendar_event_sync_key` and its siblings. -/
def syncKey (id : String) : String :=
  spec.keyPrefix ++ id

/-- The primary key of a typed table. -/
def recordKey (record : Record) : String × String :=
  (spec.recordProfile record, spec.recordId record)

end AppDomainSpec

end Slate.Storage
