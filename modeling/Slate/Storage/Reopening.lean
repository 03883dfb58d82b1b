import Slate.Storage.LocalWrites
import Slate.Storage.PullScope
import Slate.Storage.SecretEnrollment

/-!
# Opening a database again

Opening a database registers the device it is opened with, seeds the default domains and, once,
the default bookmarks. Each of these writes rows that later operations own as well.
-/

namespace Slate.Storage

open Slate.Foundation

namespace SlateProfileDatabase

section Observations

/-- Membership epoch and provider authority of a device of the roster. -/
def rosterEntry (profile deviceId : String) (db : SlateProfileDatabase) : Option (Int × Bool) :=
  (Rows.lookup deviceKey (profile, deviceId) db.syncDevices).map fun device =>
    (device.membershipEpoch, device.providerAuthority)

def domainEnabled (profile domain : String) (db : SlateProfileDatabase) : Option Bool :=
  (Rows.lookup appSyncDomainKey (profile, domain) db.appSyncDomains).map (·.enabled)

def settingValue (profile domain key : String) (db : SlateProfileDatabase) : Option String :=
  (db.getSyncSettingText profile domain key).map (·.value)

/-- What reopening is to leave as it was. -/
structure SameSyncState (db next : SlateProfileDatabase) : Prop where
  roster : ∀ profile deviceId,
    next.rosterEntry profile deviceId = db.rosterEntry profile deviceId
  trustedKeys : next.syncDevicePublicKeys = db.syncDevicePublicKeys
  contentKeyEpochs : next.syncContentKeyEpochs = db.syncContentKeyEpochs
  enabled : ∀ profile domain, next.domainEnabled profile domain = db.domainEnabled profile domain
  values : ∀ profile domain key,
    next.settingValue profile domain key = db.settingValue profile domain key
  settings : ∀ key, next.getSettingText key = db.getSettingText key
  bookmarks : next.bookmarks = db.bookmarks

/-- What opening seeds is there already, as it would be seeded. Without room in the log the mark
of the seeded bookmarks cannot be written either. -/
structure Seeded (deviceId : String) (db : SlateProfileDatabase) : Prop where
  device : db.rosterEntry defaultProfileId deviceId = some (1, false)
  domains : ∀ domain ∈ defaultAppSyncDomains,
    (db.domainEnabled defaultProfileId domain.domain).isSome
  bookmarks : db.getSettingText defaultBookmarksSeededSettingKey = some "true" ∨
    ¬db.RoomForWrite defaultProfileId deviceId ∧
      ∃ bookmark ∈ db.bookmarks, bookmark.profile = defaultProfileId

end Observations

section Seeds

variable {db : SlateProfileDatabase} {now : Int}

theorem rosterEntry_registerSyncDevice (device : SyncDeviceRegistration)
    (profile deviceId : String) :
    (db.registerSyncDevice device now).rosterEntry profile deviceId =
      if (device.profile, device.deviceId) = (profile, deviceId) then
        some (device.membershipEpoch, device.providerAuthority)
      else db.rosterEntry profile deviceId := by
  unfold registerSyncDevice rosterEntry
  simp only
  rw [Rows.lookup_upsert (fun _ same => same)]
  split
  · rename_i own
    refine Eq.trans ?_ (if_pos own).symm
    cases Rows.lookup deviceKey (profile, deviceId) db.syncDevices <;> rfl
  · rename_i other
    exact (if_neg other).symm

/-- Seeding a domain keeps its flag if it has one, and that of every other domain. -/
theorem domainEnabled_seedDefaultAppSyncDomain (seededProfile : String)
    (seed : DefaultAppSyncDomain) (profile domain : String) :
    (db.seedDefaultAppSyncDomain seededProfile now seed).domainEnabled profile domain =
      if (seededProfile, seed.domain) = (profile, domain) then
        some ((db.domainEnabled profile domain).getD seed.defaultEnabled)
      else db.domainEnabled profile domain := by
  unfold seedDefaultAppSyncDomain domainEnabled
  simp only
  rw [Rows.lookup_upsert (fun _ same => same)]
  split
  · rename_i own
    refine Eq.trans ?_ (if_pos own).symm
    cases Rows.lookup appSyncDomainKey (profile, domain) db.appSyncDomains <;> rfl
  · rename_i other
    exact (if_neg other).symm

theorem domainEnabled_seedDefaultAppSyncDomain_of_isSome {seededProfile : String}
    {seed : DefaultAppSyncDomain} (set : (db.domainEnabled seededProfile seed.domain).isSome)
    (profile domain : String) :
    (db.seedDefaultAppSyncDomain seededProfile now seed).domainEnabled profile domain =
      db.domainEnabled profile domain := by
  rw [domainEnabled_seedDefaultAppSyncDomain]
  split
  · rename_i own
    obtain ⟨rfl, rfl⟩ := Prod.mk.inj own
    obtain ⟨enabled, isEnabled⟩ := Option.isSome_iff_exists.mp set
    rw [isEnabled, Option.getD_some]
  · rfl

/-- A flag that is set stays while domains are seeded. -/
theorem domainEnabled_seeds_of_eq_some {seededProfile profile domain : String} {enabled : Bool}
    (seeds : List DefaultAppSyncDomain)
    (set : db.domainEnabled profile domain = some enabled) :
    (seeds.foldl (seedDefaultAppSyncDomain seededProfile now) db).domainEnabled profile domain =
      some enabled := by
  induction seeds generalizing db with
  | nil => exact set
  | cons seed rest inductionHypothesis =>
      apply inductionHypothesis
      rw [domainEnabled_seedDefaultAppSyncDomain, set]
      simp

/-- Seeding domains changes no flag exactly when all of them are registered. -/
theorem domainEnabled_seeds_eq_iff (seededProfile : String) (seeds : List DefaultAppSyncDomain) :
    (∀ profile domain,
      (seeds.foldl (seedDefaultAppSyncDomain seededProfile now) db).domainEnabled profile domain =
        db.domainEnabled profile domain) ↔
      ∀ seed ∈ seeds, (db.domainEnabled seededProfile seed.domain).isSome := by
  induction seeds generalizing db with
  | nil => simp
  | cons seed rest inductionHypothesis =>
      rw [List.forall_mem_cons, List.foldl_cons]
      constructor
      · intro same
        have first : (db.domainEnabled seededProfile seed.domain).isSome := by
          rw [← same, domainEnabled_seeds_of_eq_some rest (by
            rw [domainEnabled_seedDefaultAppSyncDomain, if_pos rfl])]
          rfl
        have unchanged := @domainEnabled_seedDefaultAppSyncDomain_of_isSome db now _ _ first
        have others := inductionHypothesis.mp fun profile domain =>
          (same profile domain).trans (unchanged profile domain).symm
        refine ⟨first, ?_⟩
        simpa only [unchanged] using others
      · intro ⟨first, others⟩ profile domain
        have unchanged := @domainEnabled_seedDefaultAppSyncDomain_of_isSome db now _ _ first
        rw [inductionHypothesis.mpr (by simpa only [unchanged] using others)]
        exact unchanged profile domain

end Seeds

section Bookmarks

variable {db next : SlateProfileDatabase} {now : Int}

theorem setSettingText_succeeds_iff {key value : String} :
    (∃ record next, db.setSettingText key value now = .ok (record, next)) ↔
      db.RoomForWrite defaultProfileId db.localSyncDeviceId := by
  simp only [setSettingText, databaseError_eq_ok_iff]
  exact recordSyncSettingText_succeeds_iff

/-- The tables that the seeding of bookmarks leaves alone. -/
structure SameRegistry (db next : SlateProfileDatabase) : Prop where
  syncDevices : next.syncDevices = db.syncDevices
  appSyncDomains : next.appSyncDomains = db.appSyncDomains
  syncDevicePublicKeys : next.syncDevicePublicKeys = db.syncDevicePublicKeys
  syncContentKeyEpochs : next.syncContentKeyEpochs = db.syncContentKeyEpochs

theorem setSettingText_eq_ok {key value : String} {record : SyncChangeRecord}
    (written : db.setSettingText key value now = .ok (record, next)) :
    next.settings = (db.setSetting key value now).settings ∧ SameRegistry db next := by
  obtain ⟨sequence, clock, -, -, inserted⟩ :=
    recordSyncSettingText_eq_ok (databaseError_eq_ok_iff.mp written)
  rw [show next = _ from congrArg Prod.snd inserted]
  exact ⟨rfl, rfl, rfl, rfl, rfl⟩

/-- A written setting is read back, and the others stay as they were. -/
theorem getSettingText_setSettingText {key value : String} {record : SyncChangeRecord}
    (written : db.setSettingText key value now = .ok (record, next)) (other : String) :
    next.getSettingText other = if key = other then some value else db.getSettingText other := by
  rw [getSettingText, (setSettingText_eq_ok written).1]
  unfold setSetting
  simp only
  rw [Rows.lookup_upsert (fun _ same => same)]
  by_cases same : key = other
  · rw [if_pos same, if_pos same]
    cases Rows.lookup _ other db.settings <;> rfl
  · rw [if_neg same, if_neg same]
    rfl

theorem setSettingText_effect {key value : String} {record : SyncChangeRecord}
    (written : db.setSettingText key value now = .ok (record, next)) :
    next.getSettingText key = some value ∧ SameRegistry db next := by
  refine ⟨?_, (setSettingText_eq_ok written).2⟩
  rw [getSettingText_setSettingText written, if_pos rfl]

theorem exists_bookmark_seedDefaultBookmarks :
    ∃ bookmark ∈ (db.seedDefaultBookmarks now).bookmarks,
      bookmark.profile = defaultProfileId := by
  obtain ⟨bookmark, membership, key⟩ := @Rows.key_mem_upsert _ _ _ bookmarkKey
    (fun existing excluded =>
      { existing with
        title := excluded.title, folder := excluded.folder
        position := excluded.position, faviconKey := excluded.faviconKey
        updatedAt := excluded.updatedAt })
    ⟨defaultProfileId, "https://www.openstreetmap.org/", some "OpenStreetMap", none, 1, none,
      now, now⟩ _ (fun _ same => same)
    (db.upsertBookmark ⟨defaultProfileId, "ipns://en.wikipedia-on-ipfs.org/wiki/",
      some "Wikipedia on IPFS", none, 0, none⟩ now).bookmarks (.inr rfl)
  exact ⟨bookmark, membership, congrArg Prod.fst key⟩

/-- The seeded bookmarks are marked, unless the log has no room; then they stay unmarked. -/
theorem commit_seedDefaultBookmarksIfNeeded
    (next : SlateProfileDatabase) (committed : commit (seedDefaultBookmarksIfNeeded now) db = next) :
    SameRegistry db next ∧
      ((db.getSettingText defaultBookmarksSeededSettingKey = some "true" ∧ next = db) ∨
        (db.getSettingText defaultBookmarksSeededSettingKey ≠ some "true" ∧
          (db.RoomForWrite defaultProfileId db.localSyncDeviceId ∧
              next.getSettingText defaultBookmarksSeededSettingKey = some "true" ∨
            ¬db.RoomForWrite defaultProfileId db.localSyncDeviceId ∧
              (if db.bookmarks.any fun bookmark => bookmark.profile == defaultProfileId then db
                else db.seedDefaultBookmarks now) = next))) := by
  have marked : (db.getSettingText defaultBookmarksSeededSettingKey).getD "false" = "true" ↔
      db.getSettingText defaultBookmarksSeededSettingKey = some "true" := by
    cases db.getSettingText defaultBookmarksSeededSettingKey <;> simp
  unfold commit seedDefaultBookmarksIfNeeded at committed
  simp only [marked] at committed
  by_cases already : db.getSettingText defaultBookmarksSeededSettingKey = some "true"
  · rw [if_pos already] at committed
    obtain rfl := committed
    exact ⟨⟨rfl, rfl, rfl, rfl⟩, .inl ⟨already, rfl⟩⟩
  · rw [if_neg already] at committed
    generalize seeds : (if db.bookmarks.any fun bookmark => bookmark.profile == defaultProfileId
      then db else db.seedDefaultBookmarks now) = seeded at committed ⊢
    have same : SameRegistry db seeded ∧ seeded.localSyncDeviceId = db.localSyncDeviceId ∧
        seeded.settingsChanges = db.settingsChanges := by
      rw [← seeds]
      split
      · exact ⟨⟨rfl, rfl, rfl, rfl⟩, rfl, rfl⟩
      · exact ⟨⟨rfl, rfl, rfl, rfl⟩, rfl, rfl⟩
    obtain ⟨sameRegistry, sameDevice, sameChanges⟩ := same
    have room := @setSettingText_succeeds_iff seeded now defaultBookmarksSeededSettingKey "true"
    rw [RoomForWrite, sameDevice, sameChanges] at room
    cases written : seeded.setSettingText defaultBookmarksSeededSettingKey "true" now with
    | ok result =>
        rw [written] at committed
        obtain rfl := committed
        obtain ⟨isMarked, kept⟩ := setSettingText_effect written
        refine ⟨⟨kept.syncDevices.trans sameRegistry.syncDevices,
          kept.appSyncDomains.trans sameRegistry.appSyncDomains,
          kept.syncDevicePublicKeys.trans sameRegistry.syncDevicePublicKeys,
          kept.syncContentKeyEpochs.trans sameRegistry.syncContentKeyEpochs⟩,
          .inr ⟨already, .inl ⟨room.mp ⟨_, _, written⟩, isMarked⟩⟩⟩
    | error failure =>
        rw [written] at committed
        obtain rfl := committed
        refine ⟨sameRegistry, .inr ⟨already, .inr ⟨?_, rfl⟩⟩⟩
        intro hasRoom
        obtain ⟨record, next, succeeds⟩ := room.mpr hasRoom
        rw [written] at succeeds
        cases succeeds

/-- What bookmarks and settings are seeded into. -/
structure SameUserData (db next : SlateProfileDatabase) : Prop where
  values : ∀ profile domain key,
    next.settingValue profile domain key = db.settingValue profile domain key
  settings : ∀ key, next.getSettingText key = db.getSettingText key
  bookmarks : next.bookmarks = db.bookmarks

theorem sameUserData_seededBookmarks_iff
    (committed : commit (seedDefaultBookmarksIfNeeded now) db = next) :
    SameUserData db next ↔
      db.getSettingText defaultBookmarksSeededSettingKey = some "true" ∨
        ¬db.RoomForWrite defaultProfileId db.localSyncDeviceId ∧
          ∃ bookmark ∈ db.bookmarks, bookmark.profile = defaultProfileId := by
  obtain ⟨-, ⟨marked, rfl⟩ | ⟨unmarked, ⟨room, nowMarked⟩ | ⟨noRoom, rfl⟩⟩⟩ :=
    commit_seedDefaultBookmarksIfNeeded next committed
  · exact iff_of_true ⟨fun _ _ _ => rfl, fun _ => rfl, rfl⟩ (.inl marked)
  · constructor
    · intro same
      rw [same.settings] at nowMarked
      exact absurd nowMarked unmarked
    · rintro (marked | ⟨noRoom, -⟩)
      · exact absurd marked unmarked
      · exact absurd room noRoom
  · split
    · rename_i present
      refine iff_of_true ⟨fun _ _ _ => rfl, fun _ => rfl, rfl⟩ (.inr ⟨noRoom, ?_⟩)
      simpa using present
    · rename_i absent
      have absent : ¬∃ bookmark ∈ db.bookmarks, bookmark.profile = defaultProfileId := by
        simpa using absent
      refine iff_of_false ?_ (not_or.mpr ⟨unmarked, fun both => absent both.2⟩)
      intro same
      apply absent
      rw [← same.bookmarks]
      exact exists_bookmark_seedDefaultBookmarks

end Bookmarks

section Reopening

variable {db next : SlateProfileDatabase} {deviceId : String} {now : Int}

/-- The database after the first part of opening. -/
theorem seedDefaultSyncState_eq :
    ∃ domains, db.seedDefaultSyncState now =
      { db.registerSyncDevice
          { profile := defaultProfileId, deviceId := db.localSyncDeviceId
            label := some "Local Device", membershipEpoch := 1, providerAuthority := false } now with
        appSyncDomains := domains } :=
  ensureDefaultAppSyncDomains_eq

theorem rosterEntry_seedDefaultSyncState (profile other : String) :
    (db.seedDefaultSyncState now).rosterEntry profile other =
      if (defaultProfileId, db.localSyncDeviceId) = (profile, other) then some (1, false)
      else db.rosterEntry profile other := by
  obtain ⟨domains, same⟩ := @seedDefaultSyncState_eq db now
  rw [same]
  exact rosterEntry_registerSyncDevice _ profile other

theorem domainEnabled_seedDefaultSyncState_eq_iff :
    (∀ profile domain, (db.seedDefaultSyncState now).domainEnabled profile domain =
      db.domainEnabled profile domain) ↔
      ∀ domain ∈ defaultAppSyncDomains,
        (db.domainEnabled defaultProfileId domain.domain).isSome :=
  domainEnabled_seeds_eq_iff defaultProfileId defaultAppSyncDomains

/-- What a successful opening leaves, in terms of the database that was opened. -/
theorem openResolvedWithDeviceId_effect
    (opened : db.openResolvedWithDeviceId deviceId now = .ok next) :
    isValidSyncIdentifier deviceId ∧
      (∀ profile other, next.rosterEntry profile other =
        if (defaultProfileId, deviceId) = (profile, other) then some (1, false)
        else db.rosterEntry profile other) ∧
      ((∀ profile domain, next.domainEnabled profile domain = db.domainEnabled profile domain) ↔
        ∀ domain ∈ defaultAppSyncDomains,
          (db.domainEnabled defaultProfileId domain.domain).isSome) ∧
      next.syncDevicePublicKeys = db.syncDevicePublicKeys ∧
      next.syncContentKeyEpochs = db.syncContentKeyEpochs := by
  unfold openResolvedWithDeviceId at opened
  split at opened
  · rename_i valid
    obtain ⟨same, -⟩ := commit_seedDefaultBookmarksIfNeeded next (Except.ok.inj opened)
    refine ⟨valid, ?_, ?_, ?_, ?_⟩
    · intro profile other
      rw [rosterEntry, same.syncDevices]
      exact rosterEntry_seedDefaultSyncState profile other
    · simp only [domainEnabled, same.appSyncDomains]
      exact domainEnabled_seedDefaultSyncState_eq_iff
    · obtain ⟨domains, state⟩ := @seedDefaultSyncState_eq { db with localSyncDeviceId := deviceId } now
      rw [same.syncDevicePublicKeys, state]
      rfl
    · obtain ⟨domains, state⟩ := @seedDefaultSyncState_eq { db with localSyncDeviceId := deviceId } now
      rw [same.syncContentKeyEpochs, state]
      rfl
  · cases opened

/-- The bookmarks, the settings and their values are kept exactly when the bookmarks are marked
as seeded, or cannot be marked and are there. -/
theorem openResolvedWithDeviceId_bookmarks_iff
    (opened : db.openResolvedWithDeviceId deviceId now = .ok next) :
    SameUserData db next ↔
      db.getSettingText defaultBookmarksSeededSettingKey = some "true" ∨
        ¬db.RoomForWrite defaultProfileId deviceId ∧
          ∃ bookmark ∈ db.bookmarks, bookmark.profile = defaultProfileId := by
  unfold openResolvedWithDeviceId at opened
  split at opened
  · have kept := sameUserData_seededBookmarks_iff (Except.ok.inj opened)
    obtain ⟨domains, state⟩ := @seedDefaultSyncState_eq { db with localSyncDeviceId := deviceId } now
    rw [state] at kept
    -- The first part of opening writes none of these tables.
    exact Iff.trans ⟨fun same => ⟨same.values, same.settings, same.bookmarks⟩,
      fun same => ⟨same.values, same.settings, same.bookmarks⟩⟩ kept
  · cases opened

/-- Opening leaves the sync state as it was exactly if the opened device is in the roster at
epoch 1 and no provider, the default domains are registered and the bookmarks are marked as
seeded. -/
theorem reopening_keeps_sync_state_iff :
    (∀ next, db.openResolvedWithDeviceId deviceId now = .ok next → SameSyncState db next) ↔
      (isValidSyncIdentifier deviceId → Seeded deviceId db) := by
  constructor
  · intro keeps valid
    obtain ⟨next, opened⟩ : ∃ next, db.openResolvedWithDeviceId deviceId now = .ok next :=
      ⟨_, if_pos valid⟩
    have same := keeps next opened
    obtain ⟨-, roster, domains, -⟩ := openResolvedWithDeviceId_effect opened
    refine ⟨?_, domains.mp same.enabled, ?_⟩
    · rw [← same.roster, roster, if_pos rfl]
    · exact (openResolvedWithDeviceId_bookmarks_iff opened).mp
        ⟨same.values, same.settings, same.bookmarks⟩
  · intro seeds next opened
    obtain ⟨valid, roster, domains, keys, epochs⟩ := openResolvedWithDeviceId_effect opened
    have seeded := seeds valid
    obtain ⟨values, settings, bookmarks⟩ :=
      (openResolvedWithDeviceId_bookmarks_iff opened).mpr seeded.bookmarks
    refine ⟨?_, keys, epochs, domains.mpr seeded.domains, values, settings, bookmarks⟩
    intro profile other
    rw [roster]
    split
    · rename_i own
      obtain ⟨rfl, rfl⟩ := Prod.mk.inj own
      exact seeded.device.symm
    · rfl

/-- Opening is a run of operations, so it leads from reachable databases to reachable ones. -/
theorem Reachable.opened {codec : SyncPayloadCodec} (reachable : Reachable codec db)
    (opened : db.openResolvedWithDeviceId deviceId now = .ok next) : Reachable codec next := by
  obtain ⟨first, operations⟩ := reachable
  unfold openResolvedWithDeviceId at opened
  split at opened
  · obtain ⟨domains, state⟩ := @seedDefaultSyncState_eq { db with localSyncDeviceId := deviceId } now
    have registered : Operation codec db
        ({ db with localSyncDeviceId := deviceId }.seedDefaultSyncState now) := by
      apply Operation.otherTables
      rw [state]
      rfl
    have started := operations.tail registered
    obtain rfl := Except.ok.inj opened
    generalize SlateProfileDatabase.seedDefaultSyncState now _ = middle at started
    refine ⟨first, ?_⟩
    unfold commit seedDefaultBookmarksIfNeeded
    by_cases marked : (middle.getSettingText defaultBookmarksSeededSettingKey).getD "false" = "true"
    · rw [if_pos marked]
      exact started
    · rw [if_neg marked]
      generalize seeds : (if middle.bookmarks.any fun bookmark =>
        bookmark.profile == defaultProfileId then middle else middle.seedDefaultBookmarks now) = seeded
      have bookmarked : Operation codec middle seeded := by
        apply Operation.otherTables
        rw [← seeds]
        split <;> rfl
      cases written : seeded.setSettingText defaultBookmarksSeededSettingKey "true" now with
      | error failure => simpa [written] using started.tail bookmarked
      | ok result => simpa [written] using (started.tail bookmarked).tail (.setSettingText written)
  · cases opened

/-- The laptop after it was made a provider at epoch 2. -/
def laptopProvider : SlateProfileDatabase :=
  ((succeeded (openResolvedWithDeviceId "laptop" 10 { localSyncDeviceId := "laptop" })).map
    (registerSyncDevice
      { profile := "default", deviceId := "laptop", label := none, membershipEpoch := 2
        providerAuthority := true } 20)).getD { localSyncDeviceId := "laptop" }

theorem reachable_laptopProvider {codec : SyncPayloadCodec} : Reachable codec laptopProvider := by
  obtain ⟨next, opened⟩ : ∃ next, openResolvedWithDeviceId "laptop" 10
      { localSyncDeviceId := "laptop" } = .ok next :=
    ⟨_, if_pos (by decide +kernel)⟩
  obtain ⟨first, operations⟩ := (show Reachable codec _ from ⟨"laptop", .refl⟩).opened opened
  rw [laptopProvider, opened]
  exact ⟨first, operations.tail (.otherTables rfl)⟩

/-- Opening the laptop's database again takes its provider authority and its epoch back. -/
theorem reopening_resets_provider :
    ¬∀ (codec : SyncPayloadCodec) (db next : SlateProfileDatabase) (deviceId : String) (now : Int),
      Reachable codec db → db.openResolvedWithDeviceId deviceId now = .ok next →
        SameSyncState db next := by
  intro always
  obtain ⟨next, opened⟩ : ∃ next, laptopProvider.openResolvedWithDeviceId "laptop" 30 = .ok next :=
    ⟨_, if_pos (by decide +kernel)⟩
  have same := (always plainTextCodec _ _ _ _ reachable_laptopProvider opened).roster "default" "laptop"
  obtain ⟨-, roster, -⟩ := openResolvedWithDeviceId_effect opened
  rw [roster] at same
  revert same
  decide +kernel

end Reopening

end SlateProfileDatabase

end Slate.Storage
