import Slate.Foundation.Delivery
import Slate.Storage.History
import Slate.Storage.Publication

/-!
# Watching a sync domain

An app watches the events of one domain behind a cursor that is stored in `sync_state`.
It polls a batch, applies it and acknowledges it. The cursor, the events and the batch at
hand are a delivery from an append-only feed.
-/

namespace Slate.Storage

open Slate.Foundation

def appSyncDomainCursorKeyPrefix : String := "app_sync.cursor."

/-- The digits of an `i64`, read from the left with `checked_mul` and `checked_add`. -/
def parseI64Digits (negative : Bool) : List Char → Int → Except String Int
  | [], result => .ok result
  | digit :: rest, result =>
      if digit.isDigit then
        let value : Int := digit.toNat - '0'.toNat
        let next := if negative then result * 10 - value else result * 10 + value
        if i64Max < next then .error "number too large to fit in target type"
        else if next < i64Min then .error "number too small to fit in target type"
        else parseI64Digits negative rest next
      else .error "invalid digit found in string"

/-- `str::parse::<i64>`. -/
def parseI64 (text : String) : Except String Int :=
  match text.toList with
  | [] => .error "cannot parse integer from empty string"
  | ['+'] => .error "invalid digit found in string"
  | ['-'] => .error "invalid digit found in string"
  | '+' :: digits => parseI64Digits false digits 0
  | '-' :: digits => parseI64Digits true digits 0
  | digits => parseI64Digits false digits 0

structure AppSyncDomainCursorRecord where
  profile : String
  domain : String
  latestRevision : Int
  updatedAt : Int
deriving DecidableEq, Repr

structure SyncSettingTextDomainPoll where
  profile : String
  domain : String
  previousRevision : Int
  latestRevision : Int
  events : List SyncSettingTextEvent
deriving DecidableEq, Repr

structure TypedSyncSettingTextEvent (T : Type) where
  revision : SyncRevisionRecord
  change : SyncChangeRecord
  value : T
deriving DecidableEq, Repr

structure TypedSyncSettingTextDomainPoll (T : Type) where
  profile : String
  domain : String
  previousRevision : Int
  latestRevision : Int
  events : List (TypedSyncSettingTextEvent T)
deriving DecidableEq, Repr

/-- The poll whose payloads were decoded. -/
def TypedSyncSettingTextDomainPoll.untyped {T : Type}
    (poll : TypedSyncSettingTextDomainPoll T) : SyncSettingTextDomainPoll :=
  { profile := poll.profile, domain := poll.domain
    previousRevision := poll.previousRevision, latestRevision := poll.latestRevision
    events := poll.events.map fun event => { revision := event.revision, change := event.change } }

namespace SlateProfileDatabase

section Cursor

def validateSyncDomain (domain : String) : Except StorageError Unit :=
  if domain = "" then .error (.invalidSyncDomain domain) else .ok ()

def appSyncDomainCursorKey (domain : String) : String :=
  appSyncDomainCursorKeyPrefix ++ domain

/-- The stored row of a cursor. -/
def cursorRow (profile domain : String) (db : SlateProfileDatabase) : Option SyncStateRow :=
  Rows.lookup stateKey (profile, appSyncDomainCursorKey domain) db.syncState

/-- The row is found by its key, so the key's domain is the one asked for. -/
def appSyncDomainCursor (profile domain : String) (db : SlateProfileDatabase) :
    Except StorageError (Option AppSyncDomainCursorRecord) := do
  validateSyncDomain domain
  match db.cursorRow profile domain with
  | none => pure none
  | some row =>
      match parseI64 row.value with
      | .error message => throw (.database (.fromSqlConversionFailure 2 message))
      | .ok latestRevision =>
          pure (some
            { profile := row.profile, domain, latestRevision, updatedAt := row.updatedAt })

/-- The stored cursor never moves back. -/
def recordAppSyncDomainCursor (profile domain : String) (latestRevision now : Int)
    (db : SlateProfileDatabase) :
    Except StorageError (AppSyncDomainCursorRecord × SlateProfileDatabase) := do
  validateSyncDomain domain
  if latestRevision < 0 then
    throw (.invalidSyncRevision latestRevision)
  let current ← db.appSyncDomainCursor profile domain
  let currentRevision := (current.map (·.latestRevision)).getD 0
  let storedRevision := max currentRevision latestRevision
  pure
    ({ profile, domain, latestRevision := storedRevision, updatedAt := now },
      { db with
        syncState :=
          Rows.upsert stateKey
            (fun existing excluded =>
              { existing with value := excluded.value, updatedAt := excluded.updatedAt })
            { profile, key := appSyncDomainCursorKey domain, value := toString storedRevision
              updatedAt := now }
            db.syncState })

def latestSyncRevisionForDomain (profile domain : String) (db : SlateProfileDatabase) : Int :=
  (((db.settingsRevisions.filter fun revision =>
    revision.profile == profile && revision.domain == domain).map (·.revision)).max?).getD 0

def ensureAppSyncDomainCursorAtDomainHead (profile domain : String) (now : Int)
    (db : SlateProfileDatabase) :
    Except StorageError (AppSyncDomainCursorRecord × SlateProfileDatabase) := do
  match ← db.appSyncDomainCursor profile domain with
  | some cursor => pure (cursor, db)
  | none =>
      db.recordAppSyncDomainCursor profile domain
        (db.latestSyncRevisionForDomain profile domain) now

end Cursor

section Poll

def pollSyncSettingTextEventsForDomain (profile domain : String) (afterRevision : Int)
    (limit : Nat) (db : SlateProfileDatabase) : SyncSettingTextDomainPoll :=
  let events := db.syncSettingTextEventsAfterForDomain profile domain afterRevision limit
  { profile, domain, previousRevision := afterRevision
    latestRevision := (events.getLast?.map (·.revision.revision)).getD afterRevision
    events }

def pollSyncSettingTextEventsForAppDomain (profile domain : String) (limit : Nat) (now : Int)
    (db : SlateProfileDatabase) :
    Except StorageError (SyncSettingTextDomainPoll × SlateProfileDatabase) := do
  let (cursor, db) ← db.ensureAppSyncDomainCursorAtDomainHead profile domain now
  pure (db.pollSyncSettingTextEventsForDomain profile domain cursor.latestRevision limit, db)

def decodeSyncSettingTextEvent {T : Type} (decode : String → Except String T)
    (event : SyncSettingTextEvent) : Except StorageError (TypedSyncSettingTextEvent T) :=
  match decode event.change.payload with
  | .error message => .error (.decodeSyncPayload message)
  | .ok value => .ok { revision := event.revision, change := event.change, value }

/-- The cursor is created before the payloads are decoded, so the database is returned
with a failure too. -/
def pollTypedSyncSettingTextEventsForAppDomain {T : Type} (decode : String → Except String T)
    (profile domain : String) (limit : Nat) (now : Int) (db : SlateProfileDatabase) :
    Except StorageError (TypedSyncSettingTextDomainPoll T) × SlateProfileDatabase :=
  match db.pollSyncSettingTextEventsForAppDomain profile domain limit now with
  | .error failure => (.error failure, db)
  | .ok (poll, db) =>
      match poll.events.mapM (decodeSyncSettingTextEvent decode) with
      | .error failure => (.error failure, db)
      | .ok events =>
          (.ok
            { profile := poll.profile, domain := poll.domain
              previousRevision := poll.previousRevision
              latestRevision := poll.latestRevision, events }, db)

def recordAppSyncDomainPollCursor (poll : SyncSettingTextDomainPoll) (now : Int)
    (db : SlateProfileDatabase) :
    Except StorageError (AppSyncDomainCursorRecord × SlateProfileDatabase) :=
  db.recordAppSyncDomainCursor poll.profile poll.domain poll.latestRevision now

def recordTypedAppSyncDomainPollCursor {T : Type} (poll : TypedSyncSettingTextDomainPoll T)
    (now : Int) (db : SlateProfileDatabase) :
    Except StorageError (AppSyncDomainCursorRecord × SlateProfileDatabase) :=
  db.recordAppSyncDomainCursor poll.profile poll.domain poll.latestRevision now

end Poll

end SlateProfileDatabase

inductive AppSyncDomainWatcherApplyError (E : Type) where
  | storage (error : StorageError)
  | apply (error : E)
deriving DecidableEq, Repr

/-- `AppSyncDomainWatcher` and `TypedAppSyncDomainWatcher`. -/
structure AppSyncDomainWatcher where
  profile : String
  domain : String
  batchLimit : Nat
deriving DecidableEq, Repr

namespace AppSyncDomainWatcher

open SlateProfileDatabase

def new (profile domain : String) (batchLimit : Nat) (now : Int) (db : SlateProfileDatabase) :
    Except StorageError (AppSyncDomainWatcher × SlateProfileDatabase) := do
  let (_, db) ← db.ensureAppSyncDomainCursorAtDomainHead profile domain now
  pure ({ profile, domain, batchLimit := max batchLimit 1 }, db)

def pollOnce (watcher : AppSyncDomainWatcher) (now : Int) (db : SlateProfileDatabase) :
    Except StorageError (SyncSettingTextDomainPoll × SlateProfileDatabase) :=
  db.pollSyncSettingTextEventsForAppDomain watcher.profile watcher.domain watcher.batchLimit now

def typedPollOnce {T : Type} (decode : String → Except String T)
    (watcher : AppSyncDomainWatcher) (now : Int) (db : SlateProfileDatabase) :
    Except StorageError (TypedSyncSettingTextDomainPoll T) × SlateProfileDatabase :=
  db.pollTypedSyncSettingTextEventsForAppDomain decode watcher.profile watcher.domain
    watcher.batchLimit now

/-- The handler's part of `poll_apply_and_acknowledge`: it runs on the poll, may itself
write to the database, and only its success is acknowledged. -/
def applyAndAcknowledge {Poll E : Type}
    (apply : Poll → SlateProfileDatabase → Except E Unit × SlateProfileDatabase)
    (acknowledge : Poll → SlateProfileDatabase →
      Except StorageError (AppSyncDomainCursorRecord × SlateProfileDatabase))
    (poll : Poll) (db : SlateProfileDatabase) :
    Except (AppSyncDomainWatcherApplyError E) (Poll × AppSyncDomainCursorRecord) ×
      SlateProfileDatabase :=
  match apply poll db with
  | (.error error, db) => (.error (.apply error), db)
  | (.ok (), db) =>
      match acknowledge poll db with
      | .error error => (.error (.storage error), db)
      | .ok (cursor, db) => (.ok (poll, cursor), db)

def pollApplyAndAcknowledge {E : Type} (watcher : AppSyncDomainWatcher)
    (apply : SyncSettingTextDomainPoll → SlateProfileDatabase →
      Except E Unit × SlateProfileDatabase)
    (now : Int) (db : SlateProfileDatabase) :
    Except (AppSyncDomainWatcherApplyError E)
        (SyncSettingTextDomainPoll × AppSyncDomainCursorRecord) × SlateProfileDatabase :=
  match watcher.pollOnce now db with
  | .error error => (.error (.storage error), db)
  | .ok (poll, db) =>
      applyAndAcknowledge apply (fun poll => recordAppSyncDomainPollCursor poll now) poll db

def typedPollApplyAndAcknowledge {T E : Type} (decode : String → Except String T)
    (watcher : AppSyncDomainWatcher)
    (apply : TypedSyncSettingTextDomainPoll T → SlateProfileDatabase →
      Except E Unit × SlateProfileDatabase)
    (now : Int) (db : SlateProfileDatabase) :
    Except (AppSyncDomainWatcherApplyError E)
        (TypedSyncSettingTextDomainPoll T × AppSyncDomainCursorRecord) × SlateProfileDatabase :=
  match watcher.typedPollOnce decode now db with
  | (.error error, db) => (.error (.storage error), db)
  | (.ok poll, db) =>
      applyAndAcknowledge apply (fun poll => recordTypedAppSyncDomainPollCursor poll now) poll db

end AppSyncDomainWatcher

end Slate.Storage
