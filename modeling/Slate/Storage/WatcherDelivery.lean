import Slate.Storage.DomainWatcher

/-!
# A watcher delivers each event once

A run of the database with one consumer of a domain is a delivery from the feed of the
domain's events: writes and applications grow the feed, polls and acknowledgements are the
consumer's, and what fails leaves the stored cursor alone.
-/

namespace Slate.Storage

open Slate.Foundation

section Parse

theorem parseI64Digits_eq {digits : List Char} {start : Nat} {value : Int}
    (h : parseI64Digits false digits (start : Int) = .ok value) :
    value = Nat.ofDigitChars 10 digits start := by
  induction digits generalizing start with
  | nil =>
      rw [parseI64Digits] at h
      rw [← Except.ok.inj h, Nat.ofDigitChars_nil]
  | cons digit rest inductionHypothesis =>
      rw [parseI64Digits] at h
      by_cases isDigit : digit.isDigit = true
      · rw [if_pos isDigit] at h
        have zeroLe : '0'.toNat ≤ digit.toNat := by
          simp only [Char.isDigit, Bool.and_eq_true, decide_eq_true_eq] at isDigit
          exact isDigit.1
        have next : (start : Int) * 10 + ((digit.toNat : Int) - ('0'.toNat : Int)) =
            ((10 * start + (digit.toNat - '0'.toNat) : Nat) : Int) := by
          omega
        simp only [Bool.false_eq_true, if_false, next] at h
        split at h
        · cases h
        · split at h
          · cases h
          · rw [Nat.ofDigitChars_cons]
            exact inductionHypothesis h
      · rw [if_neg isDigit] at h
        cases h

theorem toList_toString_ofNat (number : Nat) :
    (toString (number : Int)).toList = Nat.toDigits 10 number :=
  Nat.toList_repr

/-- The text of a number starts with a digit. -/
theorem parseI64_toString_ofNat (number : Nat) :
    parseI64 (toString (number : Int)) =
      parseI64Digits false (Nat.toDigits 10 number) ((0 : Nat) : Int) := by
  have isDigit : ∀ digit ∈ Nat.toDigits 10 number, digit.isDigit = true := by
    intro digit membership
    exact Nat.isDigit_of_mem_toDigits (by omega) (by omega) membership
  rw [parseI64, toList_toString_ofNat]
  split
  · next found => exact absurd found Nat.toDigits_ne_nil
  · next found => exact absurd (isDigit '+' (by simp [found])) (by decide)
  · next found => exact absurd (isDigit '-' (by simp [found])) (by decide)
  · next found => exact absurd (isDigit '+' (by simp [found])) (by decide)
  · next found => exact absurd (isDigit '-' (by simp [found])) (by decide)
  · rfl

/-- A revision is read back as it was written. -/
theorem parseI64_toString {revision value : Int} (nonneg : 0 ≤ revision)
    (h : parseI64 (toString revision) = .ok value) : value = revision := by
  obtain ⟨number, rfl⟩ := Int.eq_ofNat_of_zero_le nonneg
  rw [parseI64_toString_ofNat] at h
  rw [parseI64Digits_eq h, Nat.ofDigitChars_ten_toDigits]

theorem le_ofDigitChars (digits : List Char) (start : Nat) :
    start ≤ Nat.ofDigitChars 10 digits start := by
  induction digits generalizing start with
  | nil => rw [Nat.ofDigitChars_nil]
  | cons digit rest inductionHypothesis =>
      rw [Nat.ofDigitChars_cons]
      have := inductionHypothesis (10 * start + (digit.toNat - '0'.toNat))
      omega

theorem parseI64Digits_succeeds {digits : List Char} {start : Nat}
    (isDigit : ∀ digit ∈ digits, digit.isDigit = true)
    (bounded : (Nat.ofDigitChars 10 digits start : Int) ≤ i64Max) :
    ∃ value, parseI64Digits false digits (start : Int) = .ok value := by
  induction digits generalizing start with
  | nil => exact ⟨_, rfl⟩
  | cons digit rest inductionHypothesis =>
      have readable := isDigit digit (List.mem_cons_self ..)
      have zeroLe : '0'.toNat ≤ digit.toNat := by
        simp only [Char.isDigit, Bool.and_eq_true, decide_eq_true_eq] at readable
        exact readable.1
      have next : (start : Int) * 10 + ((digit.toNat : Int) - ('0'.toNat : Int)) =
          ((10 * start + (digit.toNat - '0'.toNat) : Nat) : Int) := by
        omega
      rw [Nat.ofDigitChars_cons] at bounded
      have grows := le_ofDigitChars rest (10 * start + (digit.toNat - '0'.toNat))
      rw [parseI64Digits, if_pos readable]
      simp only [Bool.false_eq_true, if_false, next]
      rw [if_neg (by omega), if_neg (by rw [i64Min]; omega)]
      exact inductionHypothesis (fun digit membership =>
        isDigit digit (List.mem_cons_of_mem _ membership)) bounded

theorem parseI64_toString_succeeds {revision : Int} (nonneg : 0 ≤ revision)
    (bounded : revision ≤ i64Max) : parseI64 (toString revision) = .ok revision := by
  have parsed : ∃ value, parseI64 (toString revision) = .ok value := by
    obtain ⟨number, rfl⟩ := Int.eq_ofNat_of_zero_le nonneg
    rw [parseI64_toString_ofNat]
    apply parseI64Digits_succeeds
    · intro digit membership
      exact Nat.isDigit_of_mem_toDigits (by omega) (by omega) membership
    · rwa [Nat.ofDigitChars_ten_toDigits]
  obtain ⟨value, read⟩ := parsed
  rw [read, parseI64_toString nonneg read]

end Parse

namespace SlateProfileDatabase

variable {codec : SyncPayloadCodec} {db next : SlateProfileDatabase}

section Frame

theorem syncState_recordSyncSettingText {profile domain key value deviceId : String} {now : Int}
    {record : SyncChangeRecord}
    (h : db.recordSyncSettingText profile domain key value deviceId now = .ok (record, next)) :
    next.syncState = db.syncState := by
  obtain ⟨_, _, -, -, inserted⟩ := recordSyncSettingText_eq_ok h
  rw [show next = _ from congrArg Prod.snd inserted]
  rfl

theorem syncState_applySyncSettingText {change : IncomingSyncSettingText} {now : Int}
    {record : SyncChangeRecord}
    (h : db.applySyncSettingText codec change now = .ok (record, next)) :
    next.syncState = db.syncState := by
  rw [applySyncSettingText, databaseError_eq_ok_iff] at h
  rcases applySyncSettingTextInTransaction_cases h with
    ⟨-, -, rfl⟩ | ⟨-, -, viewed, view, inserted⟩ | ⟨-, -, inserted⟩
  · rfl
  · rw [show next = _ from congrArg Prod.snd inserted]
    exact (sameButViews_applySyncSettingMaterializedView view).syncState
  · rw [show next = _ from congrArg Prod.snd inserted]
    rfl

theorem syncState_deliver {changes : List IncomingSyncSettingText} {now : Int}
    {records : List SyncChangeRecord}
    (h : forEach (fun change => applySyncSettingText codec change now) changes db =
      .ok (records, next)) : next.syncState = db.syncState :=
  forEach_invariant (fun state : SlateProfileDatabase => state.syncState = db.syncState)
    (fun _ _ _ _ _ stepped reached => (syncState_applySyncSettingText stepped).trans reached)
    h rfl

theorem syncState_applySettingsSnapshot {snapshot : ProfileSyncSettingsSnapshot} {now : Int}
    {records : List SyncChangeRecord}
    (h : db.applySettingsSnapshot codec snapshot now = .ok (records, next)) :
    next.syncState = db.syncState := by
  unfold applySettingsSnapshot at h
  split at h
  · cases h
  · exact forEach_invariant (fun state : SlateProfileDatabase => state.syncState = db.syncState)
      (fun _ _ _ _ _ stepped reached => (syncState_applySyncSettingText stepped).trans reached)
      h rfl

theorem syncState_applyManifestSnapshot {manifest : ProfileSyncManifest}
    {snapshot : Option VerifiedProfileSyncSettingsSnapshot} {now : Int}
    {records : List SyncChangeRecord}
    (h : db.applyManifestSnapshot codec manifest snapshot now = .ok (records, next)) :
    next.syncState = db.syncState := by
  cases snapshot with
  | none =>
      cases h
      rfl
  | some verified =>
      obtain ⟨⟨changes, applied⟩, snapshotApplied, h⟩ := bind_eq_ok_iff.mp h
      obtain ⟨rfl, rfl⟩ := ok_pair_inj h
      have kept := syncState_applySettingsSnapshot snapshotApplied
      exact kept

/-- The rows of roots and of cursors have different keys. -/
theorem profileSyncRootKey_ne_appSyncDomainCursorKey (rootId domain : String) :
    profileSyncRootKey rootId ≠ appSyncDomainCursorKey domain := by
  intro same
  have first := congrArg (fun key : String => key.toList.head?) same
  simp [profileSyncRootKey, profileSyncRootKeyPrefix, appSyncDomainCursorKey,
    appSyncDomainCursorKeyPrefix, String.toList_append] at first

theorem cursorRow_setProfileSyncRoot {profile rootId objectId : String} {now : Int}
    (h : db.setProfileSyncRoot profile rootId objectId now = .ok ((), next))
    (watched domain : String) : next.cursorRow watched domain = db.cursorRow watched domain := by
  rw [(setProfileSyncRoot_eq_ok h).2]
  apply Rows.lookup_upsert_of_ne
  · intro _ same
    exact same
  · intro same
    exact profileSyncRootKey_ne_appSyncDomainCursorKey rootId domain (congrArg Prod.snd same)

theorem cursorRow_applyVerifiedSettingsManifest
    {objects : VerifiedProfileSyncSettingsManifestObjects} {now : Int}
    {application : ProfileSyncSettingsManifestApplication}
    (h : db.applyVerifiedSettingsManifest codec objects now = .ok (application, next))
    (profile domain : String) : next.cursorRow profile domain = db.cursorRow profile domain := by
  obtain ⟨-, _, afterSnapshot, _, afterTail, snapshotApplied, tailApplied, rootSet⟩ :=
    applyVerifiedSettingsManifest_eq_ok h
  rw [cursorRow_setProfileSyncRoot rootSet, cursorRow, syncState_deliver tailApplied,
    syncState_applyManifestSnapshot snapshotApplied, cursorRow]

theorem syncState_removeBookmark {profile url : String} {now : Int}
    {removed : Option SyncChangeRecord}
    (h : db.removeBookmark codec profile url now = .ok (removed, next)) :
    next.syncState = db.syncState := by
  simp only [removeBookmark] at h
  split at h
  · cases h
    rfl
  · obtain ⟨⟨change, recorded⟩, logged, h⟩ := bind_eq_ok_iff.mp h
    obtain ⟨rfl, rfl⟩ := ok_pair_inj h
    have kept := syncState_recordSyncSettingText (databaseError_eq_ok_iff.mp logged)
    exact kept

theorem syncState_upsertAppRecord {domain : AppDomain} {update : AppUpdate domain} {now : Int}
    {record : AppRecord domain}
    (h : db.upsertAppRecord codec domain update now = .ok (record, next)) :
    next.syncState = db.syncState := by
  obtain ⟨-, upserted, change, written, logged⟩ := upsertAppRecord_eq_ok h
  rw [syncState_recordSyncSettingText logged]
  exact (sameButViews_upsertAppRecordInTransaction written).syncState

theorem syncState_removeAppRecord {domain : AppDomain} {profile id : String} {now : Int}
    {removed : Option SyncChangeRecord}
    (h : db.removeAppRecord codec domain profile id now = .ok (removed, next)) :
    next.syncState = db.syncState := by
  rcases removeAppRecord_eq_ok h with ⟨-, rfl⟩ | ⟨record, change, -, logged⟩
  · rfl
  · have kept := syncState_recordSyncSettingText logged
    exact kept

/-- No write and no application moves a cursor. -/
theorem Operation.cursorRow_eq (operation : Operation codec db next) {profile domain : String}
    (kept : next.log = db.log → next.cursorRow profile domain = db.cursorRow profile domain) :
    next.cursorRow profile domain = db.cursorRow profile domain := by
  have ofState (same : next.syncState = db.syncState) :
      next.cursorRow profile domain = db.cursorRow profile domain := by
    rw [cursorRow, same, cursorRow]
  cases operation with
  | setSettingText h =>
      have same := syncState_recordSyncSettingText (databaseError_eq_ok_iff.mp h)
      exact ofState same
  | setSyncSettingText h =>
      have same := syncState_recordSyncSettingText (databaseError_eq_ok_iff.mp h)
      split at same <;> exact ofState same
  | setBookmarkSlot h =>
      have same := syncState_recordSyncSettingText (databaseError_eq_ok_iff.mp h)
      rw [(sameButViews_applyBookmarkSlotSyncPayload _ _).syncState] at same
      exact ofState same
  | removeBookmark h => exact ofState (syncState_removeBookmark h)
  | upsertAppRecord h => exact ofState (syncState_upsertAppRecord h)
  | removeAppRecord h => exact ofState (syncState_removeAppRecord h)
  | applySyncSettingText h => exact ofState (syncState_applySyncSettingText h)
  | applySettingsSnapshot h => exact ofState (syncState_applySettingsSnapshot h)
  | applyVerifiedSettingsManifest h =>
      exact cursorRow_applyVerifiedSettingsManifest h profile domain
  | otherTables h => exact kept h

end Frame

section Cursor

variable {profile domain : String} {now : Int}

/-- The revision a stored cursor stands at. -/
def StoredCursor (profile domain : String) (revision : Int) (db : SlateProfileDatabase) : Prop :=
  ∃ row, db.cursorRow profile domain = some row ∧ row.value = toString revision

theorem validateSyncDomain_eq_ok_iff {result : Unit} :
    validateSyncDomain domain = .ok result ↔ domain ≠ "" := by
  by_cases empty : domain = "" <;> simp [validateSyncDomain, empty]

theorem appSyncDomainCursor_of_stored {revision : Int} {found : Option AppSyncDomainCursorRecord}
    (stored : db.StoredCursor profile domain revision) (nonneg : 0 ≤ revision)
    (h : db.appSyncDomainCursor profile domain = .ok found) :
    ∃ cursor, found = some cursor ∧ cursor.latestRevision = revision := by
  obtain ⟨row, isRow, value⟩ := stored
  obtain ⟨_, -, h⟩ := bind_eq_ok_iff.mp h
  simp only [isRow, value] at h
  split at h
  · cases h
  · next latestRevision read =>
      refine ⟨_, (Except.ok.inj h).symm, ?_⟩
      exact parseI64_toString nonneg read

theorem appSyncDomainCursor_succeeds {revision : Int}
    (stored : db.StoredCursor profile domain revision) (nonneg : 0 ≤ revision)
    (bounded : revision ≤ i64Max) (named : domain ≠ "") :
    ∃ cursor, db.appSyncDomainCursor profile domain = .ok (some cursor) ∧
      cursor.latestRevision = revision := by
  obtain ⟨row, isRow, value⟩ := stored
  refine ⟨⟨row.profile, domain, revision, row.updatedAt⟩, ?_, rfl⟩
  rw [appSyncDomainCursor, validateSyncDomain, if_neg named, ok_bind, isRow]
  simp only [value, parseI64_toString_succeeds nonneg bounded]
  rfl

/-- Recording a cursor stores the larger of the old and the new revision. -/
theorem recordAppSyncDomainCursor_eq_ok {latestRevision : Int}
    {cursor : AppSyncDomainCursorRecord}
    (h : db.recordAppSyncDomainCursor profile domain latestRevision now = .ok (cursor, next)) :
    domain ≠ "" ∧ 0 ≤ latestRevision ∧ next.log = db.log ∧
      ∃ found, db.appSyncDomainCursor profile domain = .ok found ∧
        next.StoredCursor profile domain
          (max ((found.map (·.latestRevision)).getD 0) latestRevision) := by
  obtain ⟨_, named, h⟩ := bind_eq_ok_iff.mp h
  obtain ⟨nonneg, h⟩ := check_then_eq_ok_iff.mp h
  obtain ⟨found, read, h⟩ := bind_eq_ok_iff.mp h
  obtain ⟨rfl, rfl⟩ := ok_pair_inj h
  refine ⟨validateSyncDomain_eq_ok_iff.mp named, not_lt.mp nonneg, rfl, found, read, ?_⟩
  have written : (profile, appSyncDomainCursorKey domain) =
      stateKey ⟨profile, appSyncDomainCursorKey domain,
        toString (max ((found.map (·.latestRevision)).getD 0) latestRevision), now⟩ := rfl
  rw [StoredCursor, cursorRow, written, Rows.lookup_upsert_self (fun _ same => same)]
  refine ⟨_, rfl, ?_⟩
  cases Rows.lookup stateKey _ db.syncState <;> rfl

/-- A cursor that is stored is returned as it is. -/
theorem ensureAppSyncDomainCursorAtDomainHead_of_stored {revision : Int}
    {cursor : AppSyncDomainCursorRecord}
    (stored : db.StoredCursor profile domain revision) (nonneg : 0 ≤ revision)
    (h : db.ensureAppSyncDomainCursorAtDomainHead profile domain now = .ok (cursor, next)) :
    next = db ∧ cursor.latestRevision = revision := by
  obtain ⟨found, read, h⟩ := bind_eq_ok_iff.mp h
  obtain ⟨existing, rfl, same⟩ := appSyncDomainCursor_of_stored stored nonneg read
  obtain ⟨rfl, rfl⟩ := ok_pair_inj h
  exact ⟨rfl, same⟩

/-- A cursor that is missing is created at the latest revision of its domain. -/
theorem ensureAppSyncDomainCursorAtDomainHead_of_absent
    {cursor : AppSyncDomainCursorRecord}
    (absent : db.cursorRow profile domain = none)
    (counted : 0 ≤ db.latestSyncRevisionForDomain profile domain)
    (h : db.ensureAppSyncDomainCursorAtDomainHead profile domain now = .ok (cursor, next)) :
    domain ≠ "" ∧ next.log = db.log ∧
      next.StoredCursor profile domain (db.latestSyncRevisionForDomain profile domain) := by
  obtain ⟨found, read, h⟩ := bind_eq_ok_iff.mp h
  have missing : found = none := by
    obtain ⟨_, -, read⟩ := bind_eq_ok_iff.mp read
    rw [absent] at read
    exact (Except.ok.inj read).symm
  subst missing
  obtain ⟨named, -, sameLog, found, readAgain, stored⟩ := recordAppSyncDomainCursor_eq_ok h
  rw [read] at readAgain
  rw [← Except.ok.inj readAgain] at stored
  refine ⟨named, sameLog, ?_⟩
  rwa [Option.map_none, Option.getD_none, max_eq_right counted] at stored

end Cursor

section Feed

/-- The events of one domain, oldest first. -/
def domainEvents (profile domain : String) (db : SlateProfileDatabase) :
    List SyncSettingTextEvent :=
  (db.settingsEvents profile).filter fun event =>
    event.revision.domain == domain && event.change.domain == domain

/-- An event's place in the feed. -/
def eventRevision (event : SyncSettingTextEvent) : Int :=
  event.revision.revision

/-- The events of one domain behind a revision. -/
def domainEventsAfter (profile domain : String) (revision : Int) (db : SlateProfileDatabase) :
    List SyncSettingTextEvent :=
  Delivery.after eventRevision revision (db.domainEvents profile domain)

theorem syncSettingTextEventsAfterForDomain_eq (profile domain : String) (revision : Int)
    (limit : Nat) :
    db.syncSettingTextEventsAfterForDomain profile domain revision limit =
      (db.domainEventsAfter profile domain revision).take limit := by
  rw [syncSettingTextEventsAfterForDomain, domainEventsAfter, Delivery.after, domainEvents,
    List.filter_filter]
  congr 1
  refine List.filter_congr fun event _ => ?_
  rw [Bool.and_comm]
  rfl

theorem pairwise_domainEvents (numbered : db.log.WellNumbered) (profile domain : String) :
    (db.domainEvents profile domain).Pairwise fun first second =>
      eventRevision first < eventRevision second :=
  (numbered.ordered profile).sublist List.filter_sublist

/-- Operations add events behind every revision given so far. -/
theorem Operation.domainEvents (operation : Operation codec db next) (wf : db.log.WellFormed)
    (profile domain : String) :
    ∃ added, next.domainEvents profile domain = db.domainEvents profile domain ++ added ∧
      db.settingsRevisions.length ≤ next.settingsRevisions.length ∧
      ∀ event ∈ added, (db.settingsRevisions.length : Int) < eventRevision event := by
  obtain ⟨later, grown, longer, beyond⟩ := operation.run.events wf profile
  refine ⟨later.filter fun event =>
    event.revision.domain == domain && event.change.domain == domain, ?_, longer, ?_⟩
  · rw [SlateProfileDatabase.domainEvents, SettingsLog.events_eq, grown, List.filter_append]
    rfl
  · intro event membership
    exact beyond event (List.mem_filter.mp membership).1

theorem latestSyncRevisionForDomain_bounds (counted : db.log.Counted) (profile domain : String) :
    0 ≤ db.latestSyncRevisionForDomain profile domain ∧
      db.latestSyncRevisionForDomain profile domain ≤ db.settingsRevisions.length := by
  rw [latestSyncRevisionForDomain]
  cases largest : ((db.settingsRevisions.filter fun revision =>
      revision.profile == profile && revision.domain == domain).map (·.revision)).max? with
  | none => simp
  | some revision =>
      obtain ⟨row, membership, same⟩ :=
        List.mem_map.mp (List.max?_eq_some_iff.mp largest).1
      have bounds := counted row (List.mem_filter.mp membership).1
      rw [same] at bounds
      exact ⟨le_of_lt bounds.1, bounds.2⟩

end Feed

/-- The database, the poll a consumer works on, and the batches it has acknowledged. -/
structure WatcherState where
  database : SlateProfileDatabase
  polled : Option SyncSettingTextDomainPoll := none
  acknowledged : List (List SyncSettingTextEvent) := []

/-- One step of a database with one consumer of a domain. Operations that leave the log
alone may change any other table, but not the consumer's cursor. -/
inductive WatcherStep (codec : SyncPayloadCodec) {T : Type} (decode : String → Except String T)
    (profile domain : String) : WatcherState → WatcherState → Prop where
  | operation {state : WatcherState} {next : SlateProfileDatabase}
      (h : Operation codec state.database next)
      (kept : next.log = state.database.log →
        next.cursorRow profile domain = state.database.cursorRow profile domain) :
      WatcherStep codec decode profile domain state { state with database := next }
  | poll {state : WatcherState} {limit : Nat} {now : Int} {poll : SyncSettingTextDomainPoll}
      {next : SlateProfileDatabase}
      (h : state.database.pollSyncSettingTextEventsForAppDomain profile domain limit now =
        .ok (poll, next)) :
      WatcherStep codec decode profile domain state
        { state with database := next, polled := some poll }
  | typedPoll {state : WatcherState} {limit : Nat} {now : Int}
      {poll : TypedSyncSettingTextDomainPoll T} {next : SlateProfileDatabase}
      (h : state.database.pollTypedSyncSettingTextEventsForAppDomain decode profile domain limit
        now = (.ok poll, next)) :
      WatcherStep codec decode profile domain state
        { state with database := next, polled := some poll.untyped }
  | failedTypedPoll {state : WatcherState} {limit : Nat} {now : Int} {failure : StorageError}
      {next : SlateProfileDatabase}
      (h : state.database.pollTypedSyncSettingTextEventsForAppDomain decode profile domain limit
        now = (.error failure, next)) :
      WatcherStep codec decode profile domain state
        { state with database := next, polled := none }
  | failedHandler {state : WatcherState} :
      WatcherStep codec decode profile domain state { state with polled := none }
  | acknowledge {state : WatcherState} {poll : SyncSettingTextDomainPoll} {now : Int}
      {cursor : AppSyncDomainCursorRecord} {next : SlateProfileDatabase}
      (held : state.polled = some poll)
      (h : state.database.recordAppSyncDomainPollCursor poll now = .ok (cursor, next)) :
      WatcherStep codec decode profile domain state
        { database := next, polled := none
          acknowledged := state.acknowledged ++ [poll.events] }

section Simulation

variable {T : Type} {decode : String → Except String T} {profile domain : String}

/-- The delivery that a state is. -/
def WatcherState.delivery (profile domain : String) (cursor : Int) (state : WatcherState) :
    Delivery SyncSettingTextEvent Int :=
  { feed := state.database.domainEvents profile domain, cursor
    polled := state.polled.map (·.events), acknowledged := state.acknowledged }

/-- What ties a state to a delivery with a given cursor. -/
structure Watching (profile domain : String) (cursor : Int) (state : WatcherState) : Prop where
  wellFormed : state.database.log.WellFormed
  numbered : state.database.log.WellNumbered
  stored : state.database.StoredCursor profile domain cursor
  nonneg : 0 ≤ cursor
  bounded : cursor ≤ state.database.settingsRevisions.length
  held : ∀ poll, state.polled = some poll → poll.profile = profile ∧ poll.domain = domain ∧
    poll.latestRevision = Delivery.endOf eventRevision cursor poll.events ∧
    ∀ event ∈ poll.events, event ∈ state.database.domainEventsAfter profile domain cursor

theorem pollSyncSettingTextEventsForAppDomain_of_watching {state : WatcherState} {cursor : Int}
    (watching : Watching profile domain cursor state) {limit : Nat} {now : Int}
    {poll : SyncSettingTextDomainPoll}
    (h : state.database.pollSyncSettingTextEventsForAppDomain profile domain limit now =
      .ok (poll, next)) :
    next = state.database ∧
      poll = state.database.pollSyncSettingTextEventsForDomain profile domain cursor limit := by
  obtain ⟨⟨found, ensured⟩, read, h⟩ := bind_eq_ok_iff.mp h
  obtain ⟨rfl, rfl⟩ :=
    ensureAppSyncDomainCursorAtDomainHead_of_stored watching.stored watching.nonneg read
  obtain ⟨rfl, rfl⟩ := ok_pair_inj h
  exact ⟨rfl, rfl⟩

theorem mapM_decodeSyncSettingTextEvent {events : List SyncSettingTextEvent}
    {typed : List (TypedSyncSettingTextEvent T)}
    (h : events.mapM (decodeSyncSettingTextEvent decode) = .ok typed) :
    (typed.map fun event => (⟨event.revision, event.change⟩ : SyncSettingTextEvent)) =
      events := by
  induction events generalizing typed with
  | nil =>
      cases h
      rfl
  | cons event rest inductionHypothesis =>
      rw [List.mapM_cons] at h
      obtain ⟨first, decoded, h⟩ := bind_eq_ok_iff.mp h
      obtain ⟨others, decodedRest, h⟩ := bind_eq_ok_iff.mp h
      cases h
      rw [List.map_cons, inductionHypothesis decodedRest]
      rw [decodeSyncSettingTextEvent] at decoded
      split at decoded
      · cases decoded
      · rw [← Except.ok.inj decoded]

/-- A typed poll of a stored cursor leaves the database alone, and what it returns is the
raw poll decoded. -/
theorem pollTyped_of_watching {state : WatcherState} {cursor : Int}
    (watching : Watching profile domain cursor state) {limit : Nat} {now : Int}
    {result : Except StorageError (TypedSyncSettingTextDomainPoll T)}
    (h : state.database.pollTypedSyncSettingTextEventsForAppDomain decode profile domain limit
      now = (result, next)) :
    next = state.database ∧ ∀ poll, result = .ok poll → poll.untyped =
      state.database.pollSyncSettingTextEventsForDomain profile domain cursor limit := by
  rw [pollTypedSyncSettingTextEventsForAppDomain] at h
  split at h
  · cases h
    exact ⟨rfl, by simp⟩
  · next polled =>
      obtain ⟨rfl, rfl⟩ := pollSyncSettingTextEventsForAppDomain_of_watching watching polled
      split at h
      · cases h
        exact ⟨rfl, by simp⟩
      · next typed decoded =>
          cases h
          refine ⟨rfl, fun poll same => ?_⟩
          rw [← Except.ok.inj same, TypedSyncSettingTextDomainPoll.untyped,
            mapM_decodeSyncSettingTextEvent decoded]

/-- Polling is a step of the delivery. -/
theorem Watching.polled {state : WatcherState} {cursor : Int}
    (watching : Watching profile domain cursor state) (limit : Nat) :
    Watching profile domain cursor
        { state with
          polled := some (state.database.pollSyncSettingTextEventsForDomain profile domain cursor
            limit) } ∧
      Delivery.Step eventRevision (state.delivery profile domain cursor)
        (WatcherState.delivery profile domain cursor
          { state with
            polled := some (state.database.pollSyncSettingTextEventsForDomain profile domain
              cursor limit) }) := by
  refine ⟨⟨watching.wellFormed, watching.numbered, watching.stored, watching.nonneg,
    watching.bounded, ?_⟩, ?_⟩
  · intro poll same
    rw [← Option.some.inj same]
    refine ⟨rfl, rfl, rfl, ?_⟩
    intro event membership
    simp only [pollSyncSettingTextEventsForDomain, syncSettingTextEventsAfterForDomain_eq]
      at membership
    exact List.mem_of_mem_take membership
  · have stepped : Delivery.Step eventRevision (state.delivery profile domain cursor) _ :=
      .poll (state.delivery profile domain cursor) limit
    simpa only [WatcherState.delivery, Option.map_some, pollSyncSettingTextEventsForDomain,
      syncSettingTextEventsAfterForDomain_eq, domainEventsAfter] using stepped

theorem mem_domainEventsAfter {revision : Int} {event : SyncSettingTextEvent}
    (numbered : db.log.WellNumbered)
    (membership : event ∈ db.domainEventsAfter profile domain revision) :
    revision < eventRevision event ∧ eventRevision event ≤ db.settingsRevisions.length := by
  obtain ⟨ofDomain, behind⟩ := Delivery.mem_after_iff.mp membership
  refine ⟨behind, ?_⟩
  exact (numbered.numbered profile event (List.mem_filter.mp ofDomain).1).2

/-- A write or an application grows the feed. -/
theorem Watching.operation {state : WatcherState} {cursor : Int}
    (watching : Watching profile domain cursor state)
    (operation : Operation codec state.database next)
    (kept : next.log = state.database.log →
      next.cursorRow profile domain = state.database.cursorRow profile domain) :
    Watching profile domain cursor { state with database := next } ∧
      Delivery.Step eventRevision (state.delivery profile domain cursor)
        (WatcherState.delivery profile domain cursor { state with database := next }) := by
  obtain ⟨added, grown, longer, beyond⟩ :=
    operation.domainEvents watching.wellFormed profile domain
  have numbered := operation.run.wellNumbered watching.wellFormed watching.numbered
  have behind : ∀ event ∈ added, cursor < eventRevision event := by
    intro event membership
    exact lt_of_le_of_lt watching.bounded (beyond event membership)
  refine ⟨⟨operation.run.wellFormed watching.wellFormed, numbered, ?_, watching.nonneg, ?_, ?_⟩,
    ?_⟩
  · obtain ⟨row, isRow, value⟩ := watching.stored
    exact ⟨row, (operation.cursorRow_eq kept).trans isRow, value⟩
  · have := watching.bounded
    simp only
    omega
  · intro poll held
    obtain ⟨ofProfile, ofDomain, ends, inFeed⟩ := watching.held poll held
    refine ⟨ofProfile, ofDomain, ends, ?_⟩
    intro event membership
    rw [domainEventsAfter, grown, Delivery.after_append]
    exact List.mem_append_left _ (inFeed event membership)
  · have ordered := pairwise_domainEvents numbered profile domain
    rw [grown] at ordered
    rw [WatcherState.delivery, WatcherState.delivery, grown]
    exact .grow (state.delivery profile domain cursor) added ordered behind

/-- An acknowledgement moves the stored cursor to the end of its batch. -/
theorem Watching.acknowledge {state : WatcherState} {cursor now : Int}
    (watching : Watching profile domain cursor state) {poll : SyncSettingTextDomainPoll}
    {record : AppSyncDomainCursorRecord} (held : state.polled = some poll)
    (h : state.database.recordAppSyncDomainPollCursor poll now = .ok (record, next)) :
    Watching profile domain (Delivery.endOf eventRevision cursor poll.events)
        { database := next, polled := none
          acknowledged := state.acknowledged ++ [poll.events] } ∧
      Delivery.Step eventRevision (state.delivery profile domain cursor)
        (WatcherState.delivery profile domain (Delivery.endOf eventRevision cursor poll.events)
          { database := next, polled := none
            acknowledged := state.acknowledged ++ [poll.events] }) := by
  obtain ⟨rfl, rfl, ends, inFeed⟩ := watching.held poll held
  obtain ⟨-, -, sameLog, found, read, stored⟩ := recordAppSyncDomainCursor_eq_ok h
  obtain ⟨existing, rfl, same⟩ :=
    appSyncDomainCursor_of_stored watching.stored watching.nonneg read
  have moved : cursor ≤ Delivery.endOf eventRevision cursor poll.events := by
    apply Delivery.le_endOf
    intro event membership
    exact (mem_domainEventsAfter watching.numbered (inFeed event membership)).1
  have bounded : Delivery.endOf eventRevision cursor poll.events ≤
      state.database.settingsRevisions.length := by
    rw [Delivery.endOf]
    cases last : poll.events.getLast? with
    | none => exact watching.bounded
    | some event =>
        have membership := inFeed event (List.mem_of_getLast? last)
        exact (mem_domainEventsAfter watching.numbered membership).2
  have sameRevisions : next.settingsRevisions = state.database.settingsRevisions :=
    congrArg SettingsLog.revisions sameLog
  have sameFeed : next.domainEvents poll.profile poll.domain =
      state.database.domainEvents poll.profile poll.domain := by
    rw [domainEvents, SettingsLog.events_eq, sameLog]
    rfl
  refine ⟨⟨?_, ?_, ?_, watching.nonneg.trans moved, ?_, by simp⟩, ?_⟩
  · exact sameLog ▸ watching.wellFormed
  · exact sameLog ▸ watching.numbered
  · rwa [Option.map_some, Option.getD_some, same, ends, max_eq_right moved] at stored
  · rwa [sameRevisions]
  · have batch : (state.delivery poll.profile poll.domain cursor).polled =
        some poll.events := by
      simp [WatcherState.delivery, held]
    rw [WatcherState.delivery, WatcherState.delivery, sameFeed]
    exact .acknowledge (state.delivery poll.profile poll.domain cursor) poll.events batch

/-- Every step of the database and its consumer is a step of the delivery. -/
theorem WatcherStep.simulates {state later : WatcherState} {cursor : Int}
    (step : WatcherStep codec decode profile domain state later)
    (watching : Watching profile domain cursor state) :
    ∃ moved, Watching profile domain moved later ∧
      Delivery.Step eventRevision (state.delivery profile domain cursor)
        (later.delivery profile domain moved) := by
  cases step with
  | operation h kept => exact ⟨cursor, watching.operation h kept⟩
  | poll h =>
      obtain ⟨rfl, rfl⟩ := pollSyncSettingTextEventsForAppDomain_of_watching watching h
      exact ⟨cursor, watching.polled _⟩
  | typedPoll h =>
      obtain ⟨rfl, same⟩ := pollTyped_of_watching watching h
      rw [same _ rfl]
      exact ⟨cursor, watching.polled _⟩
  | failedTypedPoll h =>
      obtain ⟨rfl, -⟩ := pollTyped_of_watching watching h
      exact ⟨cursor, ⟨watching.wellFormed, watching.numbered, watching.stored, watching.nonneg,
        watching.bounded, by simp⟩, .giveUp _⟩
  | failedHandler =>
      exact ⟨cursor, ⟨watching.wellFormed, watching.numbered, watching.stored, watching.nonneg,
        watching.bounded, by simp⟩, .giveUp _⟩
  | acknowledge held h =>
      exact ⟨_, watching.acknowledge held h⟩

/-- A run of the database and its consumer is a run of the delivery. -/
theorem watcherRun_simulates {state later : WatcherState} {cursor : Int}
    (run : Relation.ReflTransGen (WatcherStep codec decode profile domain) state later)
    (watching : Watching profile domain cursor state) :
    ∃ moved, Watching profile domain moved later ∧
      Delivery.Run eventRevision (state.delivery profile domain cursor)
        (later.delivery profile domain moved) := by
  induction run with
  | refl => exact ⟨cursor, watching, .refl⟩
  | tail _ step inductionHypothesis =>
      obtain ⟨moved, watchingMiddle, simulated⟩ := inductionHypothesis
      obtain ⟨final, watchingLater, simulatedStep⟩ := step.simulates watchingMiddle
      exact ⟨final, watchingLater, simulated.tail simulatedStep⟩

/-- Whatever fails after the poll, the stored cursor stays where the handler found it. -/
theorem cursorRow_applyAndAcknowledge_of_error {Poll E : Type} {poll : Poll}
    {apply : Poll → SlateProfileDatabase → Except E Unit × SlateProfileDatabase}
    {acknowledge : Poll → SlateProfileDatabase →
      Except StorageError (AppSyncDomainCursorRecord × SlateProfileDatabase)}
    {failure : AppSyncDomainWatcherApplyError E}
    (frame : ∀ poll found, (apply poll found).2.cursorRow profile domain =
      found.cursorRow profile domain)
    (h : AppSyncDomainWatcher.applyAndAcknowledge apply acknowledge poll db =
      (.error failure, next)) :
    next.cursorRow profile domain = db.cursorRow profile domain := by
  have kept := frame poll db
  rw [AppSyncDomainWatcher.applyAndAcknowledge] at h
  split at h
  · next applied =>
      cases h
      rwa [applied] at kept
  · next applied =>
      rw [applied] at kept
      split at h
      · cases h
        exact kept
      · cases h

/-- A failed round of a watcher leaves its cursor alone. -/
theorem cursorRow_pollApplyAndAcknowledge_of_error {E : Type} {watcher : AppSyncDomainWatcher}
    {state : WatcherState} {cursor now : Int}
    (watching : Watching watcher.profile watcher.domain cursor state)
    {apply : SyncSettingTextDomainPoll → SlateProfileDatabase →
      Except E Unit × SlateProfileDatabase}
    {failure : AppSyncDomainWatcherApplyError E}
    (frame : ∀ poll found, (apply poll found).2.cursorRow watcher.profile watcher.domain =
      found.cursorRow watcher.profile watcher.domain)
    (h : watcher.pollApplyAndAcknowledge apply now state.database = (.error failure, next)) :
    next.cursorRow watcher.profile watcher.domain =
      state.database.cursorRow watcher.profile watcher.domain := by
  rw [AppSyncDomainWatcher.pollApplyAndAcknowledge] at h
  split at h
  · cases h
    rfl
  · next polled =>
      obtain ⟨rfl, -⟩ := pollSyncSettingTextEventsForAppDomain_of_watching watching polled
      exact cursorRow_applyAndAcknowledge_of_error frame h

/-- A failed round of a typed watcher leaves its cursor alone. -/
theorem cursorRow_typedPollApplyAndAcknowledge_of_error {E : Type}
    {watcher : AppSyncDomainWatcher} {state : WatcherState} {cursor now : Int}
    (watching : Watching watcher.profile watcher.domain cursor state)
    {apply : TypedSyncSettingTextDomainPoll T → SlateProfileDatabase →
      Except E Unit × SlateProfileDatabase}
    {failure : AppSyncDomainWatcherApplyError E}
    (frame : ∀ poll found, (apply poll found).2.cursorRow watcher.profile watcher.domain =
      found.cursorRow watcher.profile watcher.domain)
    (h : watcher.typedPollApplyAndAcknowledge decode apply now state.database =
      (.error failure, next)) :
    next.cursorRow watcher.profile watcher.domain =
      state.database.cursorRow watcher.profile watcher.domain := by
  rw [AppSyncDomainWatcher.typedPollApplyAndAcknowledge] at h
  split at h
  · next polled =>
      obtain ⟨rfl, -⟩ := pollTyped_of_watching watching polled
      cases h
      rfl
  · next polled =>
      obtain ⟨rfl, -⟩ := pollTyped_of_watching watching polled
      exact cursorRow_applyAndAcknowledge_of_error frame h

theorem pollSyncSettingTextEventsForAppDomain_succeeds {state : WatcherState} {cursor : Int}
    (watching : Watching profile domain cursor state) (named : domain ≠ "")
    (bounded : (state.database.settingsRevisions.length : Int) ≤ i64Max) (limit : Nat)
    (now : Int) :
    state.database.pollSyncSettingTextEventsForAppDomain profile domain limit now =
      .ok (state.database.pollSyncSettingTextEventsForDomain profile domain cursor limit,
        state.database) := by
  obtain ⟨found, read, same⟩ := appSyncDomainCursor_succeeds watching.stored watching.nonneg
    (watching.bounded.trans bounded) named
  rw [pollSyncSettingTextEventsForAppDomain, ensureAppSyncDomainCursorAtDomainHead, read, ← same]
  rfl

/-- A new watcher starts a delivery at the latest revision of its domain. -/
theorem watching_new {batchLimit : Nat} {now : Int} {opened : SlateProfileDatabase}
    {watcher : AppSyncDomainWatcher} (reachable : Reachable codec db)
    (absent : db.cursorRow profile domain = none)
    (created : AppSyncDomainWatcher.new profile domain batchLimit now db =
      .ok (watcher, opened)) :
    watcher.profile = profile ∧ watcher.domain = domain ∧ domain ≠ "" ∧
      Watching profile domain (db.latestSyncRevisionForDomain profile domain)
        { database := opened } := by
  have bounds := latestSyncRevisionForDomain_bounds reachable.counted profile domain
  obtain ⟨⟨record, ensured⟩, isEnsured, h⟩ := bind_eq_ok_iff.mp created
  obtain ⟨rfl, rfl⟩ := ok_pair_inj h
  obtain ⟨named, sameLog, stored⟩ :=
    ensureAppSyncDomainCursorAtDomainHead_of_absent absent bounds.1 isEnsured
  have sameRevisions : ensured.settingsRevisions = db.settingsRevisions :=
    congrArg SettingsLog.revisions sameLog
  refine ⟨rfl, rfl, named, ⟨?_, ?_, stored, bounds.1, ?_, by simp⟩⟩
  · exact sameLog ▸ reachable.wellFormed
  · exact sameLog ▸ reachable.wellNumbered
  · exact sameRevisions ▸ bounds.2

end Simulation

/-- In every run of a database with one consumer of a domain, the acknowledged batches are
the events behind the revision at which the cursor was created, in order and once each, up
to the stored cursor. A poll returns what comes next, and a poll that cannot be decoded or a
handler that fails leaves the stored cursor alone. -/
theorem watcher_delivers_exactly_once {T : Type} {decode : String → Except String T}
    {profile domain : String} {batchLimit : Nat} {created : Int} {opened : SlateProfileDatabase}
    {watcher : AppSyncDomainWatcher} {state : WatcherState} (reachable : Reachable codec db)
    (absent : db.cursorRow profile domain = none)
    (isNew : AppSyncDomainWatcher.new profile domain batchLimit created db =
      .ok (watcher, opened))
    (run : Relation.ReflTransGen (WatcherStep codec decode profile domain)
      { database := opened } state) :
    ∃ revision, state.database.StoredCursor profile domain revision ∧
      state.acknowledged.flatten ++ state.database.domainEventsAfter profile domain revision =
        state.database.domainEventsAfter profile domain
          (db.latestSyncRevisionForDomain profile domain) ∧
      state.acknowledged.flatten.Pairwise
        (fun first second => eventRevision first < eventRevision second) ∧
      ((state.database.settingsRevisions.length : Int) ≤ i64Max → ∀ now, ∃ poll,
        watcher.pollOnce now state.database = .ok (poll, state.database) ∧
        poll.events = (state.database.domainEventsAfter profile domain revision).take
          (max batchLimit 1)) ∧
      (∀ now failure next,
        watcher.typedPollOnce decode now state.database = (.error failure, next) →
          next = state.database) ∧
      (∀ (E : Type) (apply : SyncSettingTextDomainPoll → SlateProfileDatabase →
          Except E Unit × SlateProfileDatabase) now failure next,
        (∀ poll found, (apply poll found).2.cursorRow profile domain =
          found.cursorRow profile domain) →
        watcher.pollApplyAndAcknowledge apply now state.database = (.error failure, next) →
          next.StoredCursor profile domain revision) ∧
      (∀ (E : Type) (apply : TypedSyncSettingTextDomainPoll T → SlateProfileDatabase →
          Except E Unit × SlateProfileDatabase) now failure next,
        (∀ poll found, (apply poll found).2.cursorRow profile domain =
          found.cursorRow profile domain) →
        watcher.typedPollApplyAndAcknowledge decode apply now state.database =
            (.error failure, next) →
          next.StoredCursor profile domain revision) := by
  obtain ⟨ofProfile, ofDomain, named, watchingStart⟩ := watching_new reachable absent isNew
  have limited : watcher.batchLimit = max batchLimit 1 := by
    obtain ⟨_, -, h⟩ := bind_eq_ok_iff.mp isNew
    rw [← (ok_pair_inj h).1]
  obtain ⟨revision, watching, simulated⟩ := watcherRun_simulates run watchingStart
  have exact := simulated.exact
    (Delivery.exact_start (pairwise_domainEvents watchingStart.numbered profile domain))
  subst ofProfile ofDomain
  refine ⟨revision, watching.stored, exact.delivered, exact.acknowledged_ordered, ?_, ?_, ?_, ?_⟩
  · intro bounded now
    refine ⟨_, pollSyncSettingTextEventsForAppDomain_succeeds watching named bounded _ now, ?_⟩
    rw [← limited]
    exact syncSettingTextEventsAfterForDomain_eq ..
  · intro now failure next failed
    exact (pollTyped_of_watching watching failed).1
  · intro E apply now failure next frame failed
    rw [StoredCursor, cursorRow_pollApplyAndAcknowledge_of_error watching frame failed]
    exact watching.stored
  · intro E apply now failure next frame failed
    rw [StoredCursor, cursorRow_typedPollApplyAndAcknowledge_of_error watching frame failed]
    exact watching.stored

/-- A watcher is opened, the theme is written, polled and acknowledged. -/
theorem watcher_delivers_theme_once :
    ∃ watcher opened record written poll polled cursor database,
      AppSyncDomainWatcher.new "default" "settings" 0 1 { localSyncDeviceId := "laptop" } =
        .ok (watcher, opened) ∧
      opened.setSyncSettingText "default" "settings" "theme" "dark" 2 = .ok (record, written) ∧
      written.pollSyncSettingTextEventsForAppDomain "default" "settings" 1 3 =
        .ok (poll, polled) ∧
      polled.recordAppSyncDomainPollCursor poll 4 = .ok (cursor, database) ∧
      cursor.latestRevision = 1 ∧
      ∃ revision, database.StoredCursor "default" "settings" revision ∧
        [poll.events].flatten ++ database.domainEventsAfter "default" "settings" revision =
          database.domainEventsAfter "default" "settings" 0 := by
  have steps : ∃ watcher opened record written poll polled cursor database,
      AppSyncDomainWatcher.new "default" "settings" 0 1 { localSyncDeviceId := "laptop" } =
        .ok (watcher, opened) ∧
      opened.setSyncSettingText "default" "settings" "theme" "dark" 2 = .ok (record, written) ∧
      written.cursorRow "default" "settings" = opened.cursorRow "default" "settings" ∧
      written.pollSyncSettingTextEventsForAppDomain "default" "settings" 1 3 =
        .ok (poll, polled) ∧
      polled.recordAppSyncDomainPollCursor poll 4 = .ok (cursor, database) ∧
      cursor.latestRevision = 1 :=
    ⟨_, _, _, _, _, _, _, _, rfl, rfl, rfl, rfl, rfl, rfl⟩
  obtain ⟨watcher, opened, record, written, poll, polled, cursor, database, isNew, isWritten, kept,
    isPolled, isAcknowledged, atOne⟩ := steps
  have write : WatcherStep plainTextCodec (Except.ok : String → Except String String) "default"
      "settings" { database := opened } { database := written } :=
    .operation (.setSyncSettingText isWritten) fun _ => kept
  have run := ((Relation.ReflTransGen.single write).tail (.poll isPolled)).tail
    (.acknowledge rfl isAcknowledged)
  obtain ⟨revision, stored, delivered, -⟩ :=
    watcher_delivers_exactly_once ⟨"laptop", .refl⟩ rfl isNew run
  exact ⟨watcher, opened, record, written, poll, polled, cursor, database, isNew, isWritten,
    isPolled, isAcknowledged, atOne, revision, stored, delivered⟩

end SlateProfileDatabase

end Slate.Storage
