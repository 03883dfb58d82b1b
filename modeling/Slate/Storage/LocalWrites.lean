import Slate.Storage.LastWriterWins

/-!
# Writes of this device

A local write takes the next sequence number of the device and the next clock of
the profile. It beats every recorded change, unless one of the two columns has
already reached the largest 64-bit integer: then there is no next number.
-/

namespace Slate.Storage

open Slate.Foundation

theorem nextInteger_succeeds_iff {column : List Int} :
    (∃ found, SlateProfileDatabase.nextInteger column = .ok found) ↔
      ∀ entry ∈ column, entry < i64Max := by
  unfold SlateProfileDatabase.nextInteger
  cases largest : column.max? with
  | none => simp [List.max?_eq_none_iff.mp largest, i64Max]
  | some maximum =>
      obtain ⟨isEntry, bounds⟩ := List.max?_eq_some_iff.mp largest
      simp only [Option.getD_some]
      constructor
      · rintro ⟨found, taken⟩ entry membership
        split at taken
        next room => exact lt_of_le_of_lt (bounds entry membership) room
        next => cases taken
      · intro room
        exact ⟨maximum + 1, if_pos (room maximum isEntry)⟩

namespace SlateProfileDatabase

variable {codec : SyncPayloadCodec} {db next : SlateProfileDatabase}
  {profile domain key value deviceId : String} {now : Int} {record : SyncChangeRecord}

/-- The clocks of the profile and the sequence numbers of the device leave room for
one more. -/
def RoomForWrite (profile deviceId : String) (db : SlateProfileDatabase) : Prop :=
  ∀ change ∈ db.settingsChanges, change.profile = profile →
    change.logicalClock < i64Max ∧
      (change.deviceId = deviceId → change.deviceSequence < i64Max)

theorem recordSyncSettingText_succeeds_iff :
    (∃ record next, db.recordSyncSettingText profile domain key value deviceId now =
      .ok (record, next)) ↔ db.RoomForWrite profile deviceId := by
  have sequences := @nextInteger_succeeds_iff <|
    (db.settingsChanges.filter fun change =>
      change.profile == profile && change.deviceId == deviceId).map (·.deviceSequence)
  have clocks := @nextInteger_succeeds_iff <|
    (db.settingsChanges.filter fun change => change.profile == profile).map (·.logicalClock)
  constructor
  · rintro ⟨record, next, h⟩ change membership ofProfile
    obtain ⟨deviceSequence, sequenceFound, h⟩ := bind_eq_ok_iff.mp h
    obtain ⟨logicalClock, clockFound, -⟩ := bind_eq_ok_iff.mp h
    constructor
    · apply clocks.mp ⟨logicalClock, clockFound⟩
      exact List.mem_map.mpr ⟨change, by simp [membership, ofProfile], rfl⟩
    · intro ofDevice
      apply sequences.mp ⟨deviceSequence, sequenceFound⟩
      exact List.mem_map.mpr ⟨change, by simp [membership, ofProfile, ofDevice], rfl⟩
  · intro room
    have sequenceRoom : ∀ entry ∈ (db.settingsChanges.filter fun change =>
        change.profile == profile && change.deviceId == deviceId).map (·.deviceSequence),
        entry < i64Max := by
      simp only [List.forall_mem_map, List.mem_filter, Bool.and_eq_true, beq_iff_eq]
      intro change found
      exact (room change found.1 found.2.1).2 found.2.2
    have clockRoom : ∀ entry ∈ (db.settingsChanges.filter fun change =>
        change.profile == profile).map (·.logicalClock), entry < i64Max := by
      simp only [List.forall_mem_map, List.mem_filter, beq_iff_eq]
      intro change found
      exact (room change found.1 found.2).1
    obtain ⟨deviceSequence, sequenceFound⟩ := sequences.mpr sequenceRoom
    obtain ⟨logicalClock, clockFound⟩ := clocks.mpr clockRoom
    exact ⟨_, _, bind_eq_ok_iff.mpr ⟨deviceSequence, sequenceFound,
      bind_eq_ok_iff.mpr ⟨logicalClock, clockFound, rfl⟩⟩⟩

theorem getSyncSettingText_insertChange (change : IncomingSyncSettingText) :
    ((db.insertChange change now).2.getSyncSettingText change.profile change.domain
      change.key).map (·.value) = some change.value := by
  have stored := @getSyncSettingText_eq (db.insertChange change now).2 change.profile
    change.domain change.key
  rw [log_insertChange, SettingsLog.value_appendApplied,
    if_pos (show change.slot = (change.profile, change.domain, change.key) from rfl)] at stored
  simpa using congrArg (Option.map Prod.fst) stored

theorem isWinningChange_insertChange {change : IncomingSyncSettingText}
    (above : ∀ other ∈ db.settingsChanges, other.slot = change.slot →
      other.stamp < change.stamp) :
    (db.insertChange change now).2.IsWinningChange change.slot
      (db.insertChange change now).1 := by
  refine ⟨List.mem_append_right _ (List.mem_singleton_self _), rfl, ?_⟩
  intro other membership onSlot
  rcases List.mem_append.mp membership with old | new
  · exact le_of_lt (above other old onSlot)
  · rw [List.mem_singleton.mp new]
    exact le_refl _

/-- A recorded write is the stored value and beats every other change of its profile. -/
theorem recordSyncSettingText_wins
    (h : db.recordSyncSettingText profile domain key value deviceId now =
      .ok (record, next)) :
    (next.getSyncSettingText profile domain key).map (·.value) = some value ∧
      next.IsWinningChange (profile, domain, key) record := by
  obtain ⟨deviceSequence, logicalClock, -, clocks, inserted⟩ := recordSyncSettingText_eq_ok h
  rw [show record = _ from congrArg Prod.fst inserted,
    show next = _ from congrArg Prod.snd inserted]
  constructor
  · exact getSyncSettingText_insertChange
      { profile, domain, key, value, deviceId, deviceSequence, logicalClock }
  · apply isWinningChange_insertChange
    intro other membership onSlot
    apply ChangeStamp.lt_of_clock_lt
    exact clocks other membership (congrArg Prod.fst onSlot)

/-- The settings view is written first for one profile; it holds no change. -/
theorem setSyncSettingText_eq_ok_iff :
    db.setSyncSettingText profile domain key value now = .ok (record, next) ↔
      ∃ written, written.settingsChanges = db.settingsChanges ∧
        written = (if profile = defaultProfileId ∧ domain = syncDomainSettings then
          db.setSetting key value now else db) ∧
        written.recordSyncSettingText profile domain key value db.localSyncDeviceId now =
          .ok (record, next) := by
  rw [setSyncSettingText, databaseError_eq_ok_iff]
  constructor
  · intro recorded
    refine ⟨_, ?_, rfl, recorded⟩
    split <;> rfl
  · rintro ⟨written, -, rfl, recorded⟩
    exact recorded

theorem setSyncSettingText_succeeds_iff :
    (∃ record next, db.setSyncSettingText profile domain key value now =
      .ok (record, next)) ↔ db.RoomForWrite profile db.localSyncDeviceId := by
  have sameRoom : ∀ written : SlateProfileDatabase,
      written.settingsChanges = db.settingsChanges →
      (written.RoomForWrite profile db.localSyncDeviceId ↔
        db.RoomForWrite profile db.localSyncDeviceId) := by
    intro written same
    rw [RoomForWrite, RoomForWrite, same]
  simp only [setSyncSettingText_eq_ok_iff]
  constructor
  · rintro ⟨record, next, written, same, -, recorded⟩
    apply (sameRoom written same).mp
    exact recordSyncSettingText_succeeds_iff.mp ⟨record, next, recorded⟩
  · intro room
    have same : (if profile = defaultProfileId ∧ domain = syncDomainSettings then
        db.setSetting key value now else db).settingsChanges = db.settingsChanges := by
      split <;> rfl
    obtain ⟨record, next, recorded⟩ :=
      recordSyncSettingText_succeeds_iff.mpr ((sameRoom _ same).mpr room)
    exact ⟨record, next, _, same, rfl, recorded⟩

/-- A write on this device succeeds, is read back and wins on its key exactly when the
clocks of the profile and the sequence numbers of this device leave room for it. -/
theorem setSyncSettingText_wins_iff (db : SlateProfileDatabase)
    (profile domain key value : String) (now : Int) :
    (∃ record next, db.setSyncSettingText profile domain key value now = .ok (record, next) ∧
      (next.getSyncSettingText profile domain key).map (·.value) = some value ∧
      next.IsWinningChange (profile, domain, key) record) ↔
    db.RoomForWrite profile db.localSyncDeviceId := by
  rw [← setSyncSettingText_succeeds_iff]
  constructor
  · rintro ⟨record, next, written, -⟩
    exact ⟨record, next, written⟩
  · rintro ⟨record, next, written⟩
    obtain ⟨_, -, -, recorded⟩ := setSyncSettingText_eq_ok_iff.mp written
    exact ⟨record, next, written, recordSyncSettingText_wins recorded⟩

/-- A change of another device at the largest clock. -/
def lastClockChange : IncomingSyncSettingText :=
  { profile := "default", domain := "settings", key := "theme", value := "dark"
    deviceId := "phone", deviceSequence := 1, logicalClock := i64Max }

/-- Once a change at the largest clock was delivered, this device cannot write. -/
theorem lastClockChange_stops_writes :
    ¬ ∀ (codec : SyncPayloadCodec) (db : SlateProfileDatabase), Reachable codec db →
      ∀ (profile domain key value : String) (now : Int),
        ∃ record next, db.setSyncSettingText profile domain key value now = .ok (record, next) ∧
          (next.getSyncSettingText profile domain key).map (·.value) = some value ∧
          next.IsWinningChange (profile, domain, key) record := by
  intro always
  obtain ⟨_, delivered, delivery⟩ := @applySyncSettingText_succeeds plainTextCodec
    lastClockChange { localSyncDeviceId := "laptop" }
    (fun _ => wellFormedValue_of_settings _ rfl) 10
  have reachable : Reachable plainTextCodec delivered :=
    ⟨"laptop", .single (.applySyncSettingText delivery)⟩
  obtain ⟨record, next, written, -⟩ :=
    always plainTextCodec delivered reachable "default" "settings" "language" "en" 11
  have room := setSyncSettingText_succeeds_iff.mp ⟨record, next, written⟩
  have recorded : lastClockChange ∈ delivered.log.contents := by
    rcases contents_applySyncSettingText delivery with ⟨stale, -⟩ | ⟨-, grown⟩
    · exact absurd (takesEffect_empty lastClockChange "laptop").1 stale
    · simp [grown]
  obtain ⟨row, membership, same⟩ := List.mem_map.mp recorded
  have ofProfile : row.profile = "default" := congrArg IncomingSyncSettingText.profile same
  have lastClock : row.logicalClock = i64Max := congrArg IncomingSyncSettingText.logicalClock same
  exact absurd (room row membership ofProfile).1 (by simp [lastClock])

end SlateProfileDatabase

end Slate.Storage
