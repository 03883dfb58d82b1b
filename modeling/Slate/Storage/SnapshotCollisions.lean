import Slate.Storage.SnapshotMerge

/-!
# Snapshot values with the same revision

All snapshot values are recorded under one device id with their revision as sequence
number, whoever built the snapshot. Of the values with one revision the first is
recorded and the others pass for its duplicates, within a snapshot and between the
snapshots of several publishers.
-/

namespace Slate.Storage

open Slate.Foundation

/-- In a sorted list the first element with a property is one of the least. -/
theorem find?_isLeast {α β : Type} [LinearOrder β] {rank : α → β} {entries : List α}
    (sorted : entries.Pairwise fun first second => rank first ≤ rank second)
    {property : α → Bool} {found : α} (h : entries.find? property = some found) :
    found ∈ entries ∧ property found = true ∧
      ∀ other ∈ entries, property other = true → rank found ≤ rank other := by
  obtain ⟨holds, before, after, rfl, skipped⟩ := List.find?_eq_some_iff_append.mp h
  refine ⟨by simp, holds, fun other membership otherHolds => ?_⟩
  rcases List.mem_append.mp membership with earlier | notEarlier
  · simp only [Bool.not_eq_true'] at skipped
    exact absurd otherHolds (by simp [skipped other earlier])
  · rcases List.mem_cons.mp notEarlier with rfl | later
    · exact le_refl _
    · exact (List.pairwise_cons.mp (List.pairwise_append.mp sorted).2.1).1 other later

/-- In a sorted list a least element with a property has the rank of the first one. -/
theorem exists_find?_of_isLeast {α β : Type} [LinearOrder β] {rank : α → β} {entries : List α}
    (sorted : entries.Pairwise fun first second => rank first ≤ rank second)
    {property : α → Bool} {entry : α} (membership : entry ∈ entries)
    (holds : property entry = true)
    (least : ∀ other ∈ entries, property other = true → rank entry ≤ rank other) :
    ∃ found, entries.find? property = some found ∧ rank found = rank entry := by
  cases h : entries.find? property with
  | none => exact absurd holds (List.find?_eq_none.mp h entry membership)
  | some found =>
      obtain ⟨foundMem, foundHolds, foundLeast⟩ := find?_isLeast sorted h
      exact ⟨found, rfl, le_antisymm (foundLeast entry membership holds)
        (least found foundMem foundHolds)⟩

namespace SlateProfileDatabase

variable {codec : SyncPayloadCodec} {db next : SlateProfileDatabase}

/-- A delivery records the first change with each new sequence number. -/
theorem mem_contents_deliver_iff {deliveries : List (IncomingSyncSettingText × Int)}
    {records : List SyncChangeRecord} (h : deliver codec deliveries db = .ok (records, next))
    (change : IncomingSyncSettingText) :
    change ∈ next.log.contents ↔ change ∈ db.log.contents ∨
      (db.log.Fresh change ∧ (deliveries.map Prod.fst).find? (fun other =>
        decide (other.sequenceKey = change.sequenceKey)) = some change) := by
  induction deliveries generalizing db records with
  | nil =>
      cases h
      simp
  | cons delivery rest inductionHypothesis =>
      obtain ⟨record, middle, others, first, tail, -⟩ := forEach_cons_eq_ok_iff.mp h
      rw [inductionHypothesis tail, List.map_cons, List.find?_cons]
      rcases contents_applySyncSettingText first with ⟨stale, same⟩ | ⟨fresh, grown⟩
      · -- A duplicate leaves the log alone, and its sequence number is not new.
        have sameFresh : middle.log.Fresh change ↔ db.log.Fresh change := by
          rw [SettingsLog.fresh_iff_contents, SettingsLog.fresh_iff_contents, same]
        rw [same, sameFresh]
        by_cases sameKey : delivery.1.sequenceKey = change.sequenceKey
        · have notFresh : ¬ db.log.Fresh change := by
            simpa only [SettingsLog.Fresh, ← sameKey] using stale
          simp [notFresh]
        · simp [sameKey]
      · have stillFresh : middle.log.Fresh change ↔
            db.log.Fresh change ∧ delivery.1.sequenceKey ≠ change.sequenceKey := by
          simp [SettingsLog.fresh_iff_contents, grown, or_imp, forall_and]
        rw [grown, stillFresh, List.mem_append, List.mem_singleton]
        by_cases sameKey : delivery.1.sequenceKey = change.sequenceKey
        · have changeFresh : db.log.Fresh change := by
            simpa only [SettingsLog.Fresh, ← sameKey] using fresh
          simp [sameKey, changeFresh, eq_comm]
        · have different : change ≠ delivery.1 := fun same => sameKey (by rw [same])
          simp [sameKey, different]

section Snapshot

variable {snapshot : ProfileSyncSettingsSnapshot} {value : ProfileSyncSettingsSnapshotValue}

/-- The text values of the included domains. -/
def includedTextValues (snapshot : ProfileSyncSettingsSnapshot) :
    List ProfileSyncSettingsSnapshotValue :=
  snapshot.values.filter fun value => value.valueKind == "text" &&
    (normalizedSnapshotDomains snapshot.includedDomains).contains value.domain

/-- Nothing is recorded for the key of a snapshot value. -/
def Unrecorded (profile : String) (value : ProfileSyncSettingsSnapshotValue)
    (db : SlateProfileDatabase) : Prop :=
  ∀ change ∈ db.settingsChanges, change.slot ≠ (profile, value.domain, value.key)

/-- The value is the first of its revision in the snapshot, and no snapshot value with its
revision is recorded. -/
structure Lands (snapshot : ProfileSyncSettingsSnapshot)
    (value : ProfileSyncSettingsSnapshotValue) (db : SlateProfileDatabase) : Prop where
  included : value ∈ includedTextValues snapshot
  first : ∀ other ∈ includedTextValues snapshot, other.revision = value.revision →
    snapshotValueRank value ≤ snapshotValueRank other
  unused : ∀ change ∈ db.settingsChanges, change.sequenceKey ≠
    (snapshot.profile, profileSyncSnapshotDeviceId, value.revision)

/-- The value, or an equal one of the same key, lands with the largest revision of those
that land on the key. -/
def Kept (snapshot : ProfileSyncSettingsSnapshot) (value : ProfileSyncSettingsSnapshotValue)
    (db : SlateProfileDatabase) : Prop :=
  ∃ landed, db.Lands snapshot landed ∧ landed.domain = value.domain ∧
    landed.key = value.key ∧ landed.value = value.value ∧
    ∀ other, db.Lands snapshot other → other.domain = value.domain →
      other.key = value.key → other.revision ≤ landed.revision

theorem snapshotChange_eq_of_rank_eq {profile : String}
    {first second : ProfileSyncSettingsSnapshotValue}
    (same : snapshotValueRank first = snapshotValueRank second) :
    snapshotChange profile first = snapshotChange profile second := by
  simp only [snapshotValueRank, SnapshotValueRank.mk.injEq] at same
  obtain ⟨revision, domain, key, value⟩ := same
  simp [snapshotChange, revision, domain, key, value]

/-- The first change with a sequence number comes from a least value with its revision. -/
theorem find?_snapshotChanges_eq_some_iff {change : IncomingSyncSettingText} :
    (snapshotChanges snapshot).find? (fun other =>
        decide (other.sequenceKey = change.sequenceKey)) = some change ↔
      ∃ value ∈ includedTextValues snapshot,
        (∀ other ∈ includedTextValues snapshot, other.revision = value.revision →
          snapshotValueRank value ≤ snapshotValueRank other) ∧
        snapshotChange snapshot.profile value = change := by
  let ordered := (snapshot.values.insertionSort fun left right =>
    snapshotValueRank left ≤ snapshotValueRank right).filter fun value =>
      value.valueKind == "text" &&
        (normalizedSnapshotDomains snapshot.includedDomains).contains value.domain
  have sorted : ordered.Pairwise fun first second =>
      snapshotValueRank first ≤ snapshotValueRank second :=
    (List.pairwise_insertionSort _ _).filter _
  have mem_ordered : ∀ value, value ∈ ordered ↔ value ∈ includedTextValues snapshot := by
    intro value
    simp [ordered, includedTextValues, List.mem_insertionSort]
  have sameKey : ∀ first second : ProfileSyncSettingsSnapshotValue,
      (snapshotChange snapshot.profile first).sequenceKey =
        (snapshotChange snapshot.profile second).sequenceKey ↔
      first.revision = second.revision := by
    intro first second
    simp [snapshotChange, IncomingSyncSettingText.sequenceKey]
  have found : ∀ value : ProfileSyncSettingsSnapshotValue,
      (snapshotChanges snapshot).find? (fun other => decide (other.sequenceKey =
          (snapshotChange snapshot.profile value).sequenceKey)) =
        (ordered.find? fun other => decide (other.revision = value.revision)).map
          (snapshotChange snapshot.profile) := by
    intro value
    rw [show snapshotChanges snapshot = ordered.map (snapshotChange snapshot.profile) from rfl,
      List.find?_map]
    simp only [Function.comp_def, sameKey]
  constructor
  · intro isFirst
    have isChange := List.mem_of_find?_eq_some isFirst
    obtain ⟨value, -, rfl⟩ := List.mem_map.mp isChange
    rw [found, Option.map_eq_some_iff] at isFirst
    obtain ⟨least, leastFound, same⟩ := isFirst
    obtain ⟨membership, sameRevision, isLeast⟩ := find?_isLeast sorted leastFound
    refine ⟨least, (mem_ordered least).mp membership, ?_, same⟩
    intro other otherMem otherRevision
    apply isLeast other ((mem_ordered other).mpr otherMem)
    simpa [otherRevision] using sameRevision
  · rintro ⟨value, membership, isLeast, rfl⟩
    obtain ⟨least, leastFound, sameRank⟩ := exists_find?_of_isLeast sorted
      ((mem_ordered value).mpr membership) (by simp) (fun other otherMem otherRevision =>
        isLeast other ((mem_ordered other).mp otherMem) (of_decide_eq_true otherRevision))
    rw [found, leastFound, Option.map_some, snapshotChange_eq_of_rank_eq sameRank]

theorem stamp_snapshotChange_le_iff {profile : String}
    {first second : ProfileSyncSettingsSnapshotValue} :
    (snapshotChange profile first).stamp ≤ (snapshotChange profile second).stamp ↔
      first.revision ≤ second.revision := by
  rw [ChangeStamp.le_iff]
  simp only [snapshotChange, IncomingSyncSettingText.stamp, lt_irrefl, true_and, false_or]
  omega

variable {now : Int} {records : List SyncChangeRecord}

/-- Applying a snapshot records the values that land. -/
theorem mem_contents_applySettingsSnapshot_iff
    (h : db.applySettingsSnapshot codec snapshot now = .ok (records, next))
    (change : IncomingSyncSettingText) :
    change ∈ next.log.contents ↔ change ∈ db.log.contents ∨
      ∃ value, db.Lands snapshot value ∧ snapshotChange snapshot.profile value = change := by
  have supported : snapshot.schemaVersion = profileSyncSettingsSnapshotSchemaVersion := by
    by_contra unsupported
    rw [applySettingsSnapshot, if_pos unsupported] at h
    cases h
  rw [applySettingsSnapshot_eq_deliver snapshot supported] at h
  rw [mem_contents_deliver_iff h]
  apply or_congr_right
  rw [List.map_map, show Prod.fst ∘ (fun change : IncomingSyncSettingText => (change, now)) = id
    from rfl, List.map_id, find?_snapshotChanges_eq_some_iff]
  constructor
  · rintro ⟨fresh, value, included, first, rfl⟩
    exact ⟨value, ⟨included, first, fresh⟩, rfl⟩
  · rintro ⟨value, lands, rfl⟩
    exact ⟨lands.unused, value, lands.included, lands.first, rfl⟩

/-- A key that was not recorded before takes the value of the largest revision that lands
on it, so a value is read back exactly when it is kept. -/
theorem applySettingsSnapshot_value_iff (reachable : Reachable codec db)
    (h : db.applySettingsSnapshot codec snapshot now = .ok (records, next))
    (unrecorded : db.Unrecorded snapshot.profile value) :
    (next.getSyncSettingText snapshot.profile value.domain value.key).map (·.value) =
      some value.value ↔ db.Kept snapshot value := by
  have nextWf := (applySettingsSnapshot_run h).wellFormed reachable.wellFormed
  have onSlot : ∀ change, change ∈ next.log.contentsOn
      (snapshot.profile, value.domain, value.key) ↔ ∃ landed, db.Lands snapshot landed ∧
        landed.domain = value.domain ∧ landed.key = value.key ∧
        snapshotChange snapshot.profile landed = change := by
    intro change
    rw [SettingsLog.mem_contentsOn_iff, mem_contents_applySettingsSnapshot_iff h]
    constructor
    · rintro ⟨old | ⟨landed, lands, rfl⟩, ofSlot⟩
      · obtain ⟨row, rowMem, rfl⟩ := List.mem_map.mp old
        exact absurd ofSlot (unrecorded row rowMem)
      · simp only [IncomingSyncSettingText.slot, snapshotChange, Prod.mk.injEq, true_and]
          at ofSlot
        exact ⟨landed, lands, ofSlot.1, ofSlot.2, rfl⟩
    · rintro ⟨landed, lands, sameDomain, sameKey, rfl⟩
      refine ⟨.inr ⟨landed, lands, rfl⟩, ?_⟩
      simp [IncomingSyncSettingText.slot, snapshotChange, sameDomain, sameKey]
  have stored : (next.getSyncSettingText snapshot.profile value.domain value.key).map
      (·.value) = ((next.log.contentsOn (snapshot.profile, value.domain, value.key)).argmax
        IncomingSyncSettingText.stamp).map (·.value) := by
    have read := congrArg (Option.map Prod.fst)
      ((getSyncSettingText_eq snapshot.profile value.domain value.key).trans (nextWf.value_eq _))
    simpa [Function.comp_def] using read
  rw [stored, Option.map_eq_some_iff]
  constructor
  · rintro ⟨change, last, sameValue⟩
    obtain ⟨isOn, largest⟩ :=
      (LastWriter.argmax_eq_some_iff_isLast (nextWf.distinctStamps _)).mp last
    obtain ⟨landed, lands, sameDomain, sameKey, rfl⟩ := (onSlot change).mp isOn
    refine ⟨landed, lands, sameDomain, sameKey, sameValue, ?_⟩
    intro other otherLands otherDomain otherKey
    apply stamp_snapshotChange_le_iff.mp
    exact largest _ ((onSlot _).mpr ⟨other, otherLands, otherDomain, otherKey, rfl⟩)
  · rintro ⟨landed, lands, sameDomain, sameKey, sameValue, largest⟩
    refine ⟨snapshotChange snapshot.profile landed, ?_, sameValue⟩
    apply (LastWriter.argmax_eq_some_iff_isLast (nextWf.distinctStamps _)).mpr
    refine ⟨(onSlot _).mpr ⟨landed, lands, sameDomain, sameKey, rfl⟩, ?_⟩
    intro change isOn
    obtain ⟨other, otherLands, otherDomain, otherKey, rfl⟩ := (onSlot change).mp isOn
    exact stamp_snapshotChange_le_iff.mpr (largest other otherLands otherDomain otherKey)

/-- A snapshot with one value. -/
def oneValueSnapshot (key value : String) : ProfileSyncSettingsSnapshot :=
  { profile := "default", schemaVersion := profileSyncSettingsSnapshotSchemaVersion
    coversRevision := 1, includedDomains := ["settings"]
    values := [{ domain := "settings", key, value, valueKind := "text", revision := 1 }]
    createdAt := 20 }

theorem includedTextValues_oneValueSnapshot (key value : String) :
    includedTextValues (oneValueSnapshot key value) =
      [⟨"settings", key, value, "text", 1⟩] := by
  have included : "settings" ∈ normalizedSnapshotDomains ["settings"] := by
    simp [mem_normalizedSnapshotDomains]
  simp [includedTextValues, oneValueSnapshot, included]

/-- The first snapshot of a device is read back. -/
theorem first_snapshot_read_back :
    ∃ records next, applySettingsSnapshot plainTextCodec (oneValueSnapshot "theme" "dark") 30
        { localSyncDeviceId := "phone" } = .ok (records, next) ∧
      (next.getSyncSettingText "default" "settings" "theme").map (·.value) = some "dark" := by
  have lands : Lands (oneValueSnapshot "theme" "dark") ⟨"settings", "theme", "dark", "text", 1⟩
      { localSyncDeviceId := "phone" } := by
    refine ⟨?_, ?_, by simp⟩
    all_goals simp [includedTextValues_oneValueSnapshot]
  refine ⟨_, _, rfl, ?_⟩
  apply (@applySettingsSnapshot_value_iff plainTextCodec { localSyncDeviceId := "phone" } _
    (oneValueSnapshot "theme" "dark") ⟨"settings", "theme", "dark", "text", 1⟩ 30 _
    ⟨"phone", .refl⟩ rfl (by simp [Unrecorded])).mpr
  refine ⟨_, lands, rfl, rfl, rfl, fun other otherLands _ _ => ?_⟩
  have isOnly := otherLands.included
  rw [includedTextValues_oneValueSnapshot, List.mem_singleton] at isOnly
  rw [isOnly]

/-- Two publishers numbered their first value alike: the second snapshot is dropped. -/
theorem second_snapshot_dropped :
    ¬ ∀ (codec : SyncPayloadCodec) (db : SlateProfileDatabase), Reachable codec db →
      ∀ (snapshot : ProfileSyncSettingsSnapshot) (now : Int) (records : List SyncChangeRecord)
        (next : SlateProfileDatabase),
        db.applySettingsSnapshot codec snapshot now = .ok (records, next) →
        ∀ value ∈ includedTextValues snapshot, db.Unrecorded snapshot.profile value →
          (next.getSyncSettingText snapshot.profile value.domain value.key).map (·.value) =
            some value.value := by
  intro always
  have first : ∃ records db, applySettingsSnapshot plainTextCodec
      (oneValueSnapshot "theme" "dark") 30 { localSyncDeviceId := "phone" } =
        .ok (records, db) ∧ db.Unrecorded "default" ⟨"settings", "language", "en", "text", 1⟩ ∧
      ∃ records next, db.applySettingsSnapshot plainTextCodec
        (oneValueSnapshot "language" "en") 31 = .ok (records, next) ∧
        next.getSyncSettingText "default" "settings" "language" = none :=
    ⟨_, _, rfl, by unfold Unrecorded; decide, _, _, rfl, rfl⟩
  obtain ⟨_, db, first, unrecorded, _, next, second, missing⟩ := first
  have readBack := always plainTextCodec db
    ⟨"phone", .single (.applySettingsSnapshot first)⟩ _ 31 _ next second
    ⟨"settings", "language", "en", "text", 1⟩
    (by simp [includedTextValues_oneValueSnapshot]) unrecorded
  rw [show (oneValueSnapshot "language" "en").profile = "default" from rfl, missing] at readBack
  cases readBack

end Snapshot

end SlateProfileDatabase

end Slate.Storage
