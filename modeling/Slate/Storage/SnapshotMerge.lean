import Mathlib.Data.List.Dedup
import Slate.Storage.History

/-!
# Snapshots and the changes they cover

A snapshot carries the last covered value of each key, stamped with its revision
instead of the stamp of the change that wrote it. Applied to another database, the
value competes under that stamp. This module says when the outcome is the same as if
the covered changes themselves had been applied.
-/

namespace Slate.Storage

open Slate.Foundation

namespace SlateProfileDatabase

variable {codec : SyncPayloadCodec}

section Delivery

variable {db next : SlateProfileDatabase}
  {deliveries : List (IncomingSyncSettingText × Int)} {slot : String × String × String}

/-- A later state of a log lets no more changes take effect. -/
theorem TakesEffect.of_run (wf : db.log.WellFormed) (run : SettingsLog.Run db.log next.log)
    {change : IncomingSyncSettingText} (effective : next.TakesEffect change) :
    db.TakesEffect change := by
  refine ⟨run.fresh effective.1, fun winner found => ?_⟩
  obtain ⟨later, laterFound, le⟩ := run.winner_le wf found
  exact lt_of_le_of_lt le (effective.2 later laterFound)

/-- A change on the key that takes no effect is old or below the winner. -/
theorem le_winner_of_not_takesEffect {change : IncomingSyncSettingText}
    (fresh : db.log.Fresh change) (ineffective : ¬ db.TakesEffect change) :
    ∃ winner, db.log.winner change.slot = some winner ∧ change.stamp ≤ winner.stamp := by
  by_contra absent
  refine ineffective ⟨fresh, fun winner found => ?_⟩
  by_contra reversed
  exact absent ⟨winner, found, not_lt.mp reversed⟩

/-- A delivery succeeds if every change that could take effect is well formed. -/
theorem deliver_succeeds_of_takesEffect (wf : db.log.WellFormed)
    (wellFormed : ∀ delivery ∈ deliveries, db.TakesEffect delivery.1 →
      WellFormedValue codec delivery.1) :
    ∃ records next, deliver codec deliveries db = .ok (records, next) := by
  have progress : ∀ delivery ∈ deliveries, ∀ state : SlateProfileDatabase,
      SettingsLog.Run db.log state.log → ∃ record next,
        applySyncSettingText codec delivery.1 delivery.2 state = .ok (record, next) ∧
          SettingsLog.Run db.log next.log := by
    intro delivery membership state reached
    obtain ⟨record, next, applied⟩ := applySyncSettingText_succeeds
      (fun effective : state.TakesEffect delivery.1 =>
        wellFormed delivery membership (effective.of_run wf reached)) delivery.2
    exact ⟨record, next, applied, reached.trans (applySyncSettingText_run applied)⟩
  obtain ⟨records, next, run, -⟩ := forEach_succeeds
    (fun state : SlateProfileDatabase => SettingsLog.Run db.log state.log) progress .refl
  exact ⟨records, next, run⟩

section Value

variable (wf : db.log.WellFormed)
  (distinct : ∀ first ∈ deliveries, ∀ second ∈ deliveries,
    first.1.sequenceKey = second.1.sequenceKey → first.1 = second.1)
  {records : List SyncChangeRecord} (h : deliver codec deliveries db = .ok (records, next))
include wf distinct h

/-- A key that no delivered change takes effect on keeps its value. -/
theorem value_deliver_of_ineffective
    (ineffective : ∀ change ∈ deliveries.map Prod.fst, change.slot = slot →
      ¬ db.TakesEffect change) :
    next.log.value slot = db.log.value slot := by
  have nextWf := (deliver_run h).wellFormed wf
  have contents := mem_contents_deliver distinct h
  cases found : db.log.winner slot with
  | none =>
      have same : ∀ change, change ∈ next.log.contentsOn slot ↔
          change ∈ db.log.contentsOn slot := by
        intro change
        rw [SettingsLog.mem_contentsOn_iff, SettingsLog.mem_contentsOn_iff, contents]
        constructor
        · rintro ⟨old | ⟨delivered, fresh⟩, onSlot⟩
          · exact ⟨old, onSlot⟩
          · obtain ⟨winner, bound, -⟩ := le_winner_of_not_takesEffect fresh
              (ineffective change delivered onSlot)
            rw [onSlot, found] at bound
            cases bound
        · rintro ⟨old, onSlot⟩
          exact ⟨.inl old, onSlot⟩
      rw [nextWf.value_eq, wf.value_eq,
        LastWriter.argmax_eq_of_mem_iff (nextWf.distinctStamps slot) same]
  | some winner =>
      have last := wf.winner_isLast found
      have nextLast : LastWriter.IsLast IncomingSyncSettingText.stamp
          (next.log.contentsOn slot) winner.content := by
        obtain ⟨recorded, onSlot⟩ := SettingsLog.mem_contentsOn_iff.mp last.1
        refine ⟨SettingsLog.mem_contentsOn_iff.mpr ⟨(contents _).mpr (.inl recorded), onSlot⟩, ?_⟩
        intro other membership
        obtain ⟨otherMem, otherSlot⟩ := SettingsLog.mem_contentsOn_iff.mp membership
        rcases (contents other).mp otherMem with old | ⟨delivered, fresh⟩
        · exact last.2 other (SettingsLog.mem_contentsOn_iff.mpr ⟨old, otherSlot⟩)
        · obtain ⟨bound, boundFound, le⟩ := le_winner_of_not_takesEffect fresh
            (ineffective other delivered otherSlot)
          rw [otherSlot, found] at boundFound
          rw [Option.some.inj boundFound]
          exact le
      rw [nextWf.value_eq, wf.value_eq,
        (LastWriter.argmax_eq_some_iff_isLast (nextWf.distinctStamps slot)).mpr nextLast,
        (LastWriter.argmax_eq_some_iff_isLast (wf.distinctStamps slot)).mpr last]

/-- A key takes the value of the largest delivered change that takes effect on it. -/
theorem value_deliver_of_largest {change : IncomingSyncSettingText}
    (delivered : change ∈ deliveries.map Prod.fst) (effective : db.TakesEffect change)
    (largest : ∀ other ∈ deliveries.map Prod.fst, other.slot = change.slot →
      db.TakesEffect other → other.stamp ≤ change.stamp) :
    next.log.value change.slot = some (change.value, "text") := by
  have nextWf := (deliver_run h).wellFormed wf
  have contents := mem_contents_deliver distinct h
  have nextLast : LastWriter.IsLast IncomingSyncSettingText.stamp
      (next.log.contentsOn change.slot) change := by
    refine ⟨SettingsLog.mem_contentsOn_iff.mpr
      ⟨(contents _).mpr (.inr ⟨delivered, effective.1⟩), rfl⟩, ?_⟩
    intro other membership
    obtain ⟨otherMem, otherSlot⟩ := SettingsLog.mem_contentsOn_iff.mp membership
    have below : ∀ winner, db.log.winner other.slot = some winner →
        other.stamp ≤ winner.stamp → other.stamp ≤ change.stamp := by
      intro winner found le
      rw [otherSlot] at found
      exact le_of_lt (lt_of_le_of_lt le (effective.2 winner found))
    rcases (contents other).mp otherMem with old | ⟨otherDelivered, fresh⟩
    · obtain ⟨row, rowMem, rfl⟩ := List.mem_map.mp old
      obtain ⟨winner, found, le⟩ := wf.bounded row rowMem
      exact below winner found le
    · by_cases otherEffective : db.TakesEffect other
      · exact largest other otherDelivered otherSlot otherEffective
      · obtain ⟨winner, found, le⟩ := le_winner_of_not_takesEffect fresh otherEffective
        exact below winner found le
  rw [nextWf.value_eq,
    (LastWriter.argmax_eq_some_iff_isLast (nextWf.distinctStamps _)).mpr nextLast]
  rfl

end Value

/-- A change that takes effect is well formed if its delivery succeeds and no change on
its key comes before it. -/
theorem wellFormedValue_of_deliver (wf : db.log.WellFormed)
    (before : List (IncomingSyncSettingText × Int))
    {after : List (IncomingSyncSettingText × Int)} {delivery : IncomingSyncSettingText × Int}
    (distinct : ∀ first ∈ before, ∀ second ∈ before,
      first.1.sequenceKey = second.1.sequenceKey → first.1 = second.1)
    (apart : ∀ other ∈ before, other.1.sequenceKey ≠ delivery.1.sequenceKey ∧
      other.1.slot ≠ delivery.1.slot)
    {records : List SyncChangeRecord}
    (h : deliver codec (before ++ delivery :: after) db = .ok (records, next))
    (effective : db.TakesEffect delivery.1) : WellFormedValue codec delivery.1 := by
  obtain ⟨_, middle, _, delivered, rest⟩ := forEach_append_eq_ok h
  obtain ⟨record, _, _, applied, -, -⟩ := forEach_cons_eq_ok_iff.mp rest
  refine wellFormedValue_of_applySyncSettingText applied ?_
  have contents := mem_contents_deliver distinct delivered
  constructor
  · rw [SettingsLog.fresh_iff_contents]
    intro recorded membership same
    rcases (contents recorded).mp membership with old | ⟨earlier, -⟩
    · exact SettingsLog.fresh_iff_contents.mp effective.1 recorded old same
    · obtain ⟨other, otherMem, rfl⟩ := List.mem_map.mp earlier
      exact (apart other otherMem).1 same
  · intro winner found
    obtain ⟨winnerMem, onSlot, -⟩ := SettingsLog.winner_mem found
    rcases (contents winner.content).mp (List.mem_map_of_mem winnerMem) with old | ⟨earlier, -⟩
    · obtain ⟨row, rowMem, same⟩ := List.mem_map.mp old
      obtain ⟨bound, boundFound, le⟩ := wf.bounded row rowMem
      have rowSlot : row.slot = delivery.1.slot := by
        rw [← SyncChangeRecord.content_slot, same, SyncChangeRecord.content_slot, onSlot]
      rw [rowSlot] at boundFound
      have rowStamp : row.stamp = winner.stamp := by
        rw [← SyncChangeRecord.content_stamp, same, SyncChangeRecord.content_stamp]
      exact lt_of_le_of_lt (rowStamp ▸ le) (effective.2 bound boundFound)
    · obtain ⟨other, otherMem, same⟩ := List.mem_map.mp earlier
      refine absurd ?_ (apart other otherMem).2
      rw [same, SyncChangeRecord.content_slot, onSlot]

end Delivery

section Payload

variable {db : SlateProfileDatabase} {profile : String} {coversRevision : Int}
  {includedDomains : List String}

/-- The events a snapshot is built from. -/
def snapshotEvents (profile : String) (coversRevision : Int) (includedDomains : List String)
    (db : SlateProfileDatabase) : List SyncSettingTextEvent :=
  ((db.syncSettingTextEventsAfter profile 0 u32Max).takeWhile fun event =>
    decide (event.revision.revision ≤ coversRevision)).filter fun event =>
      (normalizedSnapshotDomains includedDomains).contains event.change.domain

/-- The value an event leaves in a snapshot. -/
def snapshotValue (event : SyncSettingTextEvent) : ProfileSyncSettingsSnapshotValue :=
  { domain := event.change.domain, key := event.change.entityKey
    value := event.change.payload, valueKind := "text", revision := event.revision.revision }

/-- The last event of its key. -/
def IsLastEvent (events : List SyncSettingTextEvent) (event : SyncSettingTextEvent) : Prop :=
  event ∈ events ∧ ∀ other ∈ events, other.change.domain = event.change.domain →
    other.change.entityKey = event.change.entityKey →
    other.revision.revision ≤ event.revision.revision

theorem uniqueKeys_foldl_insertSnapshotValue (events : List SyncSettingTextEvent) :
    Rows.UniqueKeys (fun value : ProfileSyncSettingsSnapshotValue => (value.domain, value.key))
      (events.foldl insertSnapshotValue []) := by
  induction events using List.reverseRecOn with
  | nil => exact List.nodup_nil
  | append_singleton events event inductionHypothesis =>
      rw [List.foldl_append]
      exact Rows.uniqueKeys_upsert (fun _ _ => rfl) inductionHypothesis

/-- Folding the events keeps the last one of each key. -/
theorem mem_foldl_insertSnapshotValue {events : List SyncSettingTextEvent}
    (ordered : events.Pairwise fun first second =>
      first.revision.revision < second.revision.revision)
    {value : ProfileSyncSettingsSnapshotValue} :
    value ∈ events.foldl insertSnapshotValue [] ↔
      ∃ event, IsLastEvent events event ∧ value = snapshotValue event := by
  induction events using List.reverseRecOn with
  | nil => simp [IsLastEvent]
  | append_singleton events last inductionHypothesis =>
      obtain ⟨orderedBefore, -, below⟩ := List.pairwise_append.mp ordered
      rw [List.foldl_append, List.foldl_cons, List.foldl_nil, insertSnapshotValue,
        Rows.mem_upsert_replace_iff (uniqueKeys_foldl_insertSnapshotValue events),
        inductionHypothesis orderedBefore]
      constructor
      · rintro (rfl | ⟨⟨event, isLast, rfl⟩, otherKey⟩)
        · refine ⟨last, ⟨by simp, fun other membership _ _ => ?_⟩, rfl⟩
          rcases List.mem_append.mp membership with before | new
          · exact le_of_lt (below other before last (by simp))
          · rw [List.mem_singleton.mp new]
        · refine ⟨event, ⟨by simp [isLast.1], fun other membership domain key => ?_⟩, rfl⟩
          rcases List.mem_append.mp membership with before | new
          · exact isLast.2 other before domain key
          · rw [List.mem_singleton.mp new] at domain key
            exact absurd (Prod.ext domain.symm key.symm) otherKey
      · rintro ⟨event, ⟨membership, isLast⟩, rfl⟩
        rcases List.mem_append.mp membership with before | new
        · refine .inr ⟨⟨event, ⟨before, fun other otherMem =>
            isLast other (by simp [otherMem])⟩, rfl⟩, fun sameKey => ?_⟩
          obtain ⟨domain, key⟩ := Prod.mk.inj sameKey
          have le := isLast last (by simp) domain.symm key.symm
          exact absurd (below event before last (by simp)) (not_lt.mpr le)
        · rw [List.mem_singleton.mp new]
          exact .inl rfl

theorem mem_normalizedSnapshotDomains {domains : List String} {domain : String} :
    domain ∈ normalizedSnapshotDomains domains ↔ domain ∈ domains ∧ domain ≠ "" := by
  simp [normalizedSnapshotDomains, List.mem_insertionSort]

theorem snapshotEvents_sublist :
    (db.snapshotEvents profile coversRevision includedDomains).Sublist
      (db.log.events profile) :=
  List.filter_sublist.trans <| (List.takeWhile_sublist _).trans <|
    (List.take_sublist _ _).trans List.filter_sublist

theorem ordered_snapshotEvents (numbered : db.log.WellNumbered) :
    (db.snapshotEvents profile coversRevision includedDomains).Pairwise fun first second =>
      first.revision.revision < second.revision.revision :=
  (numbered.ordered profile).sublist snapshotEvents_sublist

/-- A snapshot is applied as the last covered event of each key, restamped. -/
theorem mem_snapshotChanges_iff (numbered : db.log.WellNumbered) (now : Int)
    {change : IncomingSyncSettingText} :
    change ∈ snapshotChanges
        (db.settingsSyncSnapshotPayload profile coversRevision includedDomains now) ↔
      ∃ event, IsLastEvent (db.snapshotEvents profile coversRevision includedDomains) event ∧
        change = snapshotChange profile (snapshotValue event) := by
  have values : ∀ value, value ∈ (db.settingsSyncSnapshotPayload profile coversRevision
      includedDomains now).values ↔ ∃ event,
        IsLastEvent (db.snapshotEvents profile coversRevision includedDomains) event ∧
          value = snapshotValue event := by
    intro value
    rw [← mem_foldl_insertSnapshotValue (ordered_snapshotEvents numbered)]
    exact List.mem_insertionSort _
  simp only [snapshotChanges, List.mem_map, List.mem_filter, List.mem_insertionSort, values]
  constructor
  · rintro ⟨value, ⟨⟨event, isLast, rfl⟩, -⟩, rfl⟩
    exact ⟨event, isLast, rfl⟩
  · rintro ⟨event, isLast, rfl⟩
    refine ⟨snapshotValue event, ⟨⟨event, isLast, rfl⟩, ?_⟩, rfl⟩
    have included := (List.mem_filter.mp isLast.1).2
    rw [List.contains_iff_mem] at included
    have kept : event.change.domain ∈ normalizedSnapshotDomains
        (normalizedSnapshotDomains includedDomains) :=
      mem_normalizedSnapshotDomains.mpr
        ⟨included, (mem_normalizedSnapshotDomains.mp included).2⟩
    simpa [snapshotValue, settingsSyncSnapshotPayload] using kept

/-- Applying a snapshot is delivering its changes at one time. -/
theorem applySettingsSnapshot_eq_deliver (snapshot : ProfileSyncSettingsSnapshot)
    (supported : snapshot.schemaVersion = profileSyncSettingsSnapshotSchemaVersion) (now : Int) :
    db.applySettingsSnapshot codec snapshot now =
      deliver codec ((snapshotChanges snapshot).map fun change => (change, now)) db := by
  rw [applySettingsSnapshot, if_neg (not_not.mpr supported), deliver, forEach_map]

end Payload

section Merge

variable {source target : SlateProfileDatabase} {profile : String} {coversRevision : Int}
  {includedDomains : List String}

/-- The applied changes that a snapshot up to a revision covers, in revision order. -/
def coveredChanges (profile : String) (coversRevision : Int) (includedDomains : List String)
    (db : SlateProfileDatabase) : List IncomingSyncSettingText :=
  ((db.settingsEvents profile).filter fun event =>
    decide (event.revision.revision ≤ coversRevision) &&
      (normalizedSnapshotDomains includedDomains).contains event.change.domain).map
    fun event => event.change.content

/-- The snapshot of the source sets a key on the target: the last covered event of the
key wins there under its restamped form. -/
def SnapshotSets (profile : String) (coversRevision : Int) (includedDomains : List String)
    (source target : SlateProfileDatabase) (event : SyncSettingTextEvent) : Prop :=
  IsLastEvent (source.snapshotEvents profile coversRevision includedDomains) event ∧
    target.TakesEffect (snapshotChange profile (snapshotValue event))

/-- A covered change of the source sets a key on the target: it is the largest covered
change of the key that takes effect there. -/
def ChangeSets (profile : String) (coversRevision : Int) (includedDomains : List String)
    (source target : SlateProfileDatabase) (change : IncomingSyncSettingText) : Prop :=
  change ∈ source.coveredChanges profile coversRevision includedDomains ∧
    target.TakesEffect change ∧
    ∀ other ∈ source.coveredChanges profile coversRevision includedDomains,
      other.slot = change.slot → target.TakesEffect other → other.stamp ≤ change.stamp

/-- When a snapshot merges into the target like the changes it covers. -/
structure SnapshotMergesAlike (codec : SyncPayloadCodec) (profile : String)
    (coversRevision : Int) (includedDomains : List String)
    (source target : SlateProfileDatabase) : Prop where
  /-- What takes effect passes the checks of the table it is projected into. -/
  snapshotDecodes : ∀ event,
    SnapshotSets profile coversRevision includedDomains source target event →
    WellFormedValue codec (snapshotChange profile (snapshotValue event))
  changesDecode : ∀ change ∈ source.coveredChanges profile coversRevision includedDomains,
    target.TakesEffect change → WellFormedValue codec change
  /-- A key that the snapshot sets is set to the same value by a covered change, or no
  covered change sets it and the target already stores that value. -/
  ofSnapshot : ∀ event,
    SnapshotSets profile coversRevision includedDomains source target event →
    (∃ change, ChangeSets profile coversRevision includedDomains source target change ∧
      change.slot = event.change.slot ∧ change.value = event.change.payload) ∨
    ((∀ change ∈ source.coveredChanges profile coversRevision includedDomains,
        change.slot = event.change.slot → ¬ target.TakesEffect change) ∧
      (target.getSyncSettingText profile event.change.domain event.change.entityKey).map
        (fun row => (row.value, row.valueKind)) = some (event.change.payload, "text"))
  /-- A key that a covered change sets is set by the snapshot too, or the target already
  stores that value. -/
  ofChange : ∀ change,
    ChangeSets profile coversRevision includedDomains source target change →
    (∃ event, SnapshotSets profile coversRevision includedDomains source target event ∧
      event.change.slot = change.slot) ∨
    (target.getSyncSettingText profile change.domain change.key).map
      (fun row => (row.value, row.valueKind)) = some (change.value, "text")

theorem mem_coveredChanges_iff {change : IncomingSyncSettingText} :
    change ∈ source.coveredChanges profile coversRevision includedDomains ↔
      ∃ event ∈ source.log.events profile, event.revision.revision ≤ coversRevision ∧
        event.change.domain ∈ normalizedSnapshotDomains includedDomains ∧
        event.change.content = change := by
  simp [coveredChanges, SettingsLog.events_eq, and_assoc]

theorem profile_of_mem_coveredChanges (numbered : source.log.WellNumbered)
    {change : IncomingSyncSettingText}
    (covered : change ∈ source.coveredChanges profile coversRevision includedDomains) :
    change.profile = profile := by
  obtain ⟨event, membership, -, -, rfl⟩ := mem_coveredChanges_iff.mp covered
  exact (numbered.recorded profile event membership).2.2

/-- A restamped event stays on its key. -/
theorem slot_snapshotChange (numbered : source.log.WellNumbered) {event : SyncSettingTextEvent}
    (membership : event ∈ source.snapshotEvents profile coversRevision includedDomains) :
    (snapshotChange profile (snapshotValue event)).slot = event.change.slot := by
  have ofProfile := (numbered.recorded profile event
    (snapshotEvents_sublist.mem membership)).2.2
  rw [SyncChangeRecord.slot, ofProfile]
  rfl

/-- Covered changes are told apart by their sequence numbers. -/
theorem coveredChanges_distinct (wf : source.log.WellFormed) (numbered : source.log.WellNumbered)
    {deliveries : List (IncomingSyncSettingText × Int)}
    (perm : (deliveries.map Prod.fst).Perm
      (source.coveredChanges profile coversRevision includedDomains)) :
    ∀ first ∈ deliveries, ∀ second ∈ deliveries,
      first.1.sequenceKey = second.1.sequenceKey → first.1 = second.1 := by
  intro first firstMem second secondMem same
  obtain ⟨firstEvent, firstIn, -, -, firstContent⟩ :=
    mem_coveredChanges_iff.mp (perm.mem_iff.mp (List.mem_map_of_mem firstMem))
  obtain ⟨secondEvent, secondIn, -, -, secondContent⟩ :=
    mem_coveredChanges_iff.mp (perm.mem_iff.mp (List.mem_map_of_mem secondMem))
  rw [← firstContent, ← secondContent] at same ⊢
  rw [wf.eq_of_sequenceKey_eq (numbered.recorded profile firstEvent firstIn).1
    (numbered.recorded profile secondEvent secondIn).1 same]

theorem eq_of_revision_eq (numbered : source.log.WellNumbered)
    {first second : SyncSettingTextEvent} (firstMem : first ∈ source.log.events profile)
    (secondMem : second ∈ source.log.events profile)
    (same : first.revision.revision = second.revision.revision) : first = second := by
  have distinct : ((source.log.events profile).map fun event => event.revision.revision).Nodup :=
    List.pairwise_map.mpr ((numbered.ordered profile).imp fun smaller => ne_of_lt smaller)
  exact List.inj_on_of_nodup_map distinct firstMem secondMem same

/-- Restamped events are told apart by their revisions. -/
theorem snapshotChanges_distinct (numbered : source.log.WellNumbered) {built : Int}
    {first second : IncomingSyncSettingText}
    (firstMem : first ∈ snapshotChanges
      (source.settingsSyncSnapshotPayload profile coversRevision includedDomains built))
    (secondMem : second ∈ snapshotChanges
      (source.settingsSyncSnapshotPayload profile coversRevision includedDomains built))
    (same : first.sequenceKey = second.sequenceKey) : first = second := by
  obtain ⟨firstEvent, firstLast, rfl⟩ := (mem_snapshotChanges_iff numbered _).mp firstMem
  obtain ⟨secondEvent, secondLast, rfl⟩ := (mem_snapshotChanges_iff numbered _).mp secondMem
  have sameRevision : firstEvent.revision.revision = secondEvent.revision.revision :=
    congrArg (fun key => key.2.2) same
  rw [eq_of_revision_eq numbered (snapshotEvents_sublist.mem firstLast.1)
    (snapshotEvents_sublist.mem secondLast.1) sameRevision]

/-- A key has one last event. -/
theorem IsLastEvent.unique (numbered : source.log.WellNumbered)
    {first second : SyncSettingTextEvent}
    (firstLast : IsLastEvent (source.snapshotEvents profile coversRevision includedDomains) first)
    (secondLast : IsLastEvent (source.snapshotEvents profile coversRevision includedDomains)
      second)
    (same : first.change.slot = second.change.slot) : first = second := by
  obtain ⟨-, domain, key⟩ : first.change.profile = second.change.profile ∧
      first.change.domain = second.change.domain ∧
      first.change.entityKey = second.change.entityKey := by
    simpa [SyncChangeRecord.slot] using same
  exact eq_of_revision_eq numbered (snapshotEvents_sublist.mem firstLast.1)
    (snapshotEvents_sublist.mem secondLast.1)
    (le_antisymm (secondLast.2 first firstLast.1 domain key)
      (firstLast.2 second secondLast.1 domain.symm key.symm))

section Snapshot

variable (numbered : source.log.WellNumbered) {built now : Int}
include numbered

/-- The snapshot application succeeds if what takes effect decodes. -/
theorem applySettingsSnapshot_succeeds (wf : target.log.WellFormed)
    (decodes : ∀ event, SnapshotSets profile coversRevision includedDomains source target event →
      WellFormedValue codec (snapshotChange profile (snapshotValue event))) :
    ∃ records next, target.applySettingsSnapshot codec
      (source.settingsSyncSnapshotPayload profile coversRevision includedDomains built) now =
        .ok (records, next) := by
  rw [applySettingsSnapshot_eq_deliver _ rfl]
  refine deliver_succeeds_of_takesEffect wf fun delivery membership effective => ?_
  obtain ⟨change, changeMem, rfl⟩ := List.mem_map.mp membership
  obtain ⟨event, isLast, rfl⟩ := (mem_snapshotChanges_iff numbered _).mp changeMem
  exact decodes event ⟨isLast, effective⟩

variable {next : SlateProfileDatabase} {records : List SyncChangeRecord}
  (applied : target.applySettingsSnapshot codec
    (source.settingsSyncSnapshotPayload profile coversRevision includedDomains built) now =
      .ok (records, next))
include applied

/-- What the snapshot set was well formed. -/
theorem wellFormedValue_of_applySettingsSnapshot (wf : target.log.WellFormed)
    {event : SyncSettingTextEvent}
    (sets : SnapshotSets profile coversRevision includedDomains source target event) :
    WellFormedValue codec (snapshotChange profile (snapshotValue event)) := by
  rw [applySettingsSnapshot_eq_deliver _ rfl] at applied
  obtain ⟨before, after, split, notBefore⟩ := List.eq_append_cons_of_mem
    ((mem_snapshotChanges_iff numbered built).mpr ⟨event, sets.1, rfl⟩)
  have earlier : ∀ change ∈ before, change ∈ snapshotChanges
      (source.settingsSyncSnapshotPayload profile coversRevision includedDomains built) := by
    intro change membership
    rw [split]
    exact List.mem_append_left _ membership
  have sameKey : ∀ first ∈ before.map (fun change => (change, now)),
      ∀ second ∈ before.map (fun change => (change, now)),
      first.1.sequenceKey = second.1.sequenceKey → first.1 = second.1 := by
    intro first firstMem second secondMem same
    obtain ⟨firstChange, firstBefore, rfl⟩ := List.mem_map.mp firstMem
    obtain ⟨secondChange, secondBefore, rfl⟩ := List.mem_map.mp secondMem
    exact snapshotChanges_distinct numbered (earlier _ firstBefore) (earlier _ secondBefore) same
  rw [split, List.map_append, List.map_cons] at applied
  refine wellFormedValue_of_deliver wf _ sameKey ?_ applied sets.2
  intro other otherMem
  obtain ⟨change, changeMem, rfl⟩ := List.mem_map.mp otherMem
  have different : change ≠ snapshotChange profile (snapshotValue event) := by
    rintro rfl
    exact notBefore changeMem
  constructor
  · intro same
    exact different (snapshotChanges_distinct numbered (earlier change changeMem)
      ((mem_snapshotChanges_iff numbered built).mpr ⟨event, sets.1, rfl⟩) same)
  · intro same
    obtain ⟨otherEvent, otherLast, rfl⟩ :=
      (mem_snapshotChanges_iff numbered _).mp (earlier change changeMem)
    rw [slot_snapshotChange numbered otherLast.1, slot_snapshotChange numbered sets.1.1] at same
    rw [otherLast.unique numbered sets.1 same] at different
    exact different rfl

/-- A key that the snapshot sets takes the value of its event. -/
theorem value_of_snapshotSets (wf : target.log.WellFormed) {event : SyncSettingTextEvent}
    (sets : SnapshotSets profile coversRevision includedDomains source target event) :
    next.log.value event.change.slot = some (event.change.payload, "text") := by
  rw [applySettingsSnapshot_eq_deliver _ rfl] at applied
  rw [← slot_snapshotChange numbered sets.1.1]
  refine value_deliver_of_largest wf ?_ applied ?_ sets.2 ?_
  · intro first firstMem second secondMem same
    obtain ⟨firstChange, firstIn, rfl⟩ := List.mem_map.mp firstMem
    obtain ⟨secondChange, secondIn, rfl⟩ := List.mem_map.mp secondMem
    exact snapshotChanges_distinct numbered firstIn secondIn same
  · simpa using (mem_snapshotChanges_iff numbered built).mpr ⟨event, sets.1, rfl⟩
  · intro other otherMem sameSlot _
    obtain ⟨otherEvent, otherLast, rfl⟩ := (mem_snapshotChanges_iff numbered built).mp
      (by simpa using otherMem)
    rw [slot_snapshotChange numbered otherLast.1, slot_snapshotChange numbered sets.1.1]
      at sameSlot
    rw [otherLast.unique numbered sets.1 sameSlot]

/-- A key that the snapshot does not set keeps its value. -/
theorem value_of_not_snapshotSets (wf : target.log.WellFormed)
    {slot : String × String × String}
    (unset : ∀ event, SnapshotSets profile coversRevision includedDomains source target event →
      event.change.slot ≠ slot) :
    next.log.value slot = target.log.value slot := by
  rw [applySettingsSnapshot_eq_deliver _ rfl] at applied
  refine value_deliver_of_ineffective wf ?_ applied ?_
  · intro first firstMem second secondMem same
    obtain ⟨firstChange, firstIn, rfl⟩ := List.mem_map.mp firstMem
    obtain ⟨secondChange, secondIn, rfl⟩ := List.mem_map.mp secondMem
    exact snapshotChanges_distinct numbered firstIn secondIn same
  · intro change membership onSlot effective
    obtain ⟨event, isLast, rfl⟩ := (mem_snapshotChanges_iff numbered built).mp
      (by simpa using membership)
    rw [slot_snapshotChange numbered isLast.1] at onSlot
    exact unset event ⟨isLast, effective⟩ onSlot

end Snapshot

section Changes

variable {deliveries : List (IncomingSyncSettingText × Int)}
  (perm : (deliveries.map Prod.fst).Perm
    (source.coveredChanges profile coversRevision includedDomains))

include perm in
theorem deliver_coveredChanges_succeeds (wf : target.log.WellFormed)
    (decodes : ∀ change ∈ source.coveredChanges profile coversRevision includedDomains,
      target.TakesEffect change → WellFormedValue codec change) :
    ∃ records next, deliver codec deliveries target = .ok (records, next) := by
  refine deliver_succeeds_of_takesEffect wf fun delivery membership effective => ?_
  exact decodes delivery.1 (perm.mem_iff.mp (List.mem_map_of_mem membership)) effective

/-- If some covered change of a key takes effect, the largest such change sets the key. -/
theorem exists_changeSets {change : IncomingSyncSettingText}
    (covered : change ∈ source.coveredChanges profile coversRevision includedDomains)
    (effective : target.TakesEffect change) :
    ∃ largest, ChangeSets profile coversRevision includedDomains source target largest ∧
      largest.slot = change.slot := by
  classical
  have nonempty : (source.coveredChanges profile coversRevision includedDomains).filter
      (fun other => decide (other.slot = change.slot ∧ target.TakesEffect other)) ≠ [] :=
    List.ne_nil_of_mem (List.mem_filter.mpr ⟨covered, by simp [effective]⟩)
  cases found : ((source.coveredChanges profile coversRevision includedDomains).filter
      (fun other => decide (other.slot = change.slot ∧ target.TakesEffect other))).argmax
        IncomingSyncSettingText.stamp with
  | none => exact absurd (List.argmax_eq_none.mp found) nonempty
  | some largest =>
      obtain ⟨membership, bound⟩ := LastWriter.isLast_of_argmax found
      obtain ⟨inCovered, holds⟩ := List.mem_filter.mp membership
      obtain ⟨onSlot, largestEffective⟩ := of_decide_eq_true holds
      refine ⟨largest, ⟨inCovered, largestEffective, fun other otherMem sameSlot otherEffective =>
        ?_⟩, onSlot⟩
      exact bound other (List.mem_filter.mpr ⟨otherMem,
        decide_eq_true ⟨sameSlot.trans onSlot, otherEffective⟩⟩)

variable (sourceWf : source.log.WellFormed) (numbered : source.log.WellNumbered)
  (wf : target.log.WellFormed) {next : SlateProfileDatabase} {records : List SyncChangeRecord}
  (delivered : deliver codec deliveries target = .ok (records, next))
include perm sourceWf numbered wf delivered

theorem value_of_changeSets {change : IncomingSyncSettingText}
    (sets : ChangeSets profile coversRevision includedDomains source target change) :
    next.log.value change.slot = some (change.value, "text") := by
  refine value_deliver_of_largest wf (coveredChanges_distinct sourceWf numbered perm) delivered
    (perm.mem_iff.mpr sets.1) sets.2.1 fun other membership sameSlot effective => ?_
  exact sets.2.2 other (perm.mem_iff.mp membership) sameSlot effective

theorem value_of_not_changeSets {slot : String × String × String}
    (unset : ∀ change, ChangeSets profile coversRevision includedDomains source target change →
      change.slot ≠ slot) :
    next.log.value slot = target.log.value slot := by
  refine value_deliver_of_ineffective wf (coveredChanges_distinct sourceWf numbered perm) delivered
    fun change membership onSlot effective => ?_
  obtain ⟨largest, sets, sameSlot⟩ := exists_changeSets (perm.mem_iff.mp membership) effective
  exact unset largest sets (sameSlot.trans onSlot)

end Changes

/-- Where the snapshot and the covered changes set the same keys alike, the target stores
the same values after either. -/
theorem SnapshotMergesAlike.value_eq
    (alike : SnapshotMergesAlike codec profile coversRevision includedDomains source target)
    (sourceWf : source.log.WellFormed) (numbered : source.log.WellNumbered)
    (wf : target.log.WellFormed) {built now : Int}
    {deliveries : List (IncomingSyncSettingText × Int)}
    (perm : (deliveries.map Prod.fst).Perm
      (source.coveredChanges profile coversRevision includedDomains))
    {merged replayed : SlateProfileDatabase}
    {snapshotRecords changeRecords : List SyncChangeRecord}
    (applied : target.applySettingsSnapshot codec
      (source.settingsSyncSnapshotPayload profile coversRevision includedDomains built) now =
        .ok (snapshotRecords, merged))
    (delivered : deliver codec deliveries target = .ok (changeRecords, replayed))
    (slot : String × String × String) : merged.log.value slot = replayed.log.value slot := by
  by_cases snapshotSet : ∃ event,
      SnapshotSets profile coversRevision includedDomains source target event ∧
        event.change.slot = slot
  · obtain ⟨event, sets, rfl⟩ := snapshotSet
    rw [value_of_snapshotSets numbered applied wf sets]
    rcases alike.ofSnapshot event sets with ⟨change, changeSets, onSlot, value⟩ | ⟨unset, stored⟩
    · rw [← onSlot, value_of_changeSets perm sourceWf numbered wf delivered changeSets, value]
    · have ofProfile := (numbered.recorded profile event
        (snapshotEvents_sublist.mem sets.1.1)).2.2
      rw [value_of_not_changeSets perm sourceWf numbered wf delivered fun change changeSets onSlot =>
        unset change changeSets.1 onSlot changeSets.2.1]
      rw [getSyncSettingText_eq, ← ofProfile] at stored
      exact stored.symm
  · have unset : ∀ event,
        SnapshotSets profile coversRevision includedDomains source target event →
        event.change.slot ≠ slot := by
      intro event sets onSlot
      exact snapshotSet ⟨event, sets, onSlot⟩
    rw [value_of_not_snapshotSets numbered applied wf unset]
    by_cases changeSet : ∃ change,
        ChangeSets profile coversRevision includedDomains source target change ∧
          change.slot = slot
    · obtain ⟨change, sets, rfl⟩ := changeSet
      rw [value_of_changeSets perm sourceWf numbered wf delivered sets]
      rcases alike.ofChange change sets with ⟨event, snapshotSets, onSlot⟩ | stored
      · exact absurd onSlot (unset event snapshotSets)
      · rw [getSyncSettingText_eq, ← profile_of_mem_coveredChanges numbered sets.1] at stored
        exact stored
    · rw [value_of_not_changeSets perm sourceWf numbered wf delivered fun change sets onSlot =>
        changeSet ⟨change, sets, onSlot⟩]

end Merge

/-- Applying the snapshot that the source builds and replaying the changes it covers both
succeed and store the same values exactly when the two set the same keys alike. -/
theorem snapshot_merges_alike_iff {source target : SlateProfileDatabase}
    (sourceReachable : Reachable codec source) (targetReachable : Reachable codec target)
    (profile : String) (coversRevision : Int) (includedDomains : List String)
    (built now : Int) :
    (∀ deliveries : List (IncomingSyncSettingText × Int),
      (deliveries.map Prod.fst).Perm
        (source.coveredChanges profile coversRevision includedDomains) →
      ∃ snapshotRecords merged changeRecords replayed,
        target.applySettingsSnapshot codec
          (source.settingsSyncSnapshotPayload profile coversRevision includedDomains built) now =
            .ok (snapshotRecords, merged) ∧
        deliver codec deliveries target = .ok (changeRecords, replayed) ∧
        ∀ profile domain key,
          (merged.getSyncSettingText profile domain key).map
              (fun row => (row.value, row.valueKind)) =
            (replayed.getSyncSettingText profile domain key).map
              (fun row => (row.value, row.valueKind))) ↔
      SnapshotMergesAlike codec profile coversRevision includedDomains source target := by
  have sourceWf := sourceReachable.wellFormed
  have numbered := sourceReachable.wellNumbered
  have wf := targetReachable.wellFormed
  have timed : ∀ changes : List IncomingSyncSettingText,
      (changes.map fun change => (change, (0 : Int))).map Prod.fst = changes := by
    simp [Function.comp_def]
  constructor
  · intro agrees
    have inOrder : ((((source.coveredChanges profile coversRevision includedDomains).map
        fun change => (change, (0 : Int))).map Prod.fst).Perm
          (source.coveredChanges profile coversRevision includedDomains)) := by
      rw [timed]
    obtain ⟨_, merged, _, replayed, applied, delivered, same⟩ := agrees _ inOrder
    refine ⟨fun event sets => ?_, fun change covered effective => ?_, fun event sets => ?_,
      fun change sets => ?_⟩
    · exact wellFormedValue_of_applySettingsSnapshot numbered applied wf sets
    · -- Delivered first, the change takes effect and must have been well formed.
      have changeFirst : (((change :: (source.coveredChanges profile coversRevision
          includedDomains).erase change).map fun change => (change, (0 : Int))).map
            Prod.fst).Perm (source.coveredChanges profile coversRevision includedDomains) := by
        rw [timed]
        exact (List.perm_cons_erase covered).symm
      obtain ⟨_, _, _, _, -, delivered, -⟩ := agrees _ changeFirst
      rw [List.map_cons] at delivered
      exact wellFormedValue_of_deliver wf [] (by simp) (by simp) delivered effective
    · have ofProfile := (numbered.recorded profile event
        (snapshotEvents_sublist.mem sets.1.1)).2.2
      have mergedValue := value_of_snapshotSets numbered applied wf sets
      have agree : merged.log.value event.change.slot = replayed.log.value event.change.slot :=
        same _ _ _
      rw [mergedValue] at agree
      by_cases changeSet : ∃ change,
          ChangeSets profile coversRevision includedDomains source target change ∧
            change.slot = event.change.slot
      · obtain ⟨change, changeSets, onSlot⟩ := changeSet
        rw [← onSlot, value_of_changeSets inOrder sourceWf numbered wf delivered changeSets]
          at agree
        exact .inl ⟨change, changeSets, onSlot, (Prod.mk.inj (Option.some.inj agree)).1.symm⟩
      · refine .inr ⟨fun change covered onSlot effective => ?_, ?_⟩
        · obtain ⟨largest, changeSets, sameSlot⟩ := exists_changeSets covered effective
          exact changeSet ⟨largest, changeSets, sameSlot.trans onSlot⟩
        · rw [value_of_not_changeSets inOrder sourceWf numbered wf delivered
            fun change changeSets onSlot => changeSet ⟨change, changeSets, onSlot⟩] at agree
          rw [getSyncSettingText_eq, ← ofProfile]
          exact agree.symm
    · have replayedValue := value_of_changeSets inOrder sourceWf numbered wf delivered sets
      have agree : merged.log.value change.slot = replayed.log.value change.slot := same _ _ _
      rw [replayedValue] at agree
      by_cases snapshotSet : ∃ event,
          SnapshotSets profile coversRevision includedDomains source target event ∧
            event.change.slot = change.slot
      · exact .inl snapshotSet
      · rw [value_of_not_snapshotSets numbered applied wf fun event snapshotSets onSlot =>
          snapshotSet ⟨event, snapshotSets, onSlot⟩] at agree
        rw [getSyncSettingText_eq, ← profile_of_mem_coveredChanges numbered sets.1]
        exact .inr agree
  · intro alike deliveries perm
    obtain ⟨snapshotRecords, merged, applied⟩ :=
      applySettingsSnapshot_succeeds numbered wf alike.snapshotDecodes
    obtain ⟨changeRecords, replayed, delivered⟩ :=
      deliver_coveredChanges_succeeds perm wf alike.changesDecode
    refine ⟨snapshotRecords, merged, changeRecords, replayed, applied, delivered, ?_⟩
    intro profile domain key
    rw [getSyncSettingText_eq, getSyncSettingText_eq]
    exact alike.value_eq sourceWf numbered wf perm applied delivered (profile, domain, key)

/-- A device that has written its theme once. -/
def withTheme (deviceId value : String) : SlateProfileDatabase :=
  { localSyncDeviceId := deviceId
    settings := [{ key := "theme", value, updatedAt := 10 }]
    settingsChanges :=
      [{ id := 1, profile := "default", domain := "settings", entityKey := "theme"
         operation := "set_text", payload := value, deviceId, deviceSequence := 1
         logicalClock := 1, createdAt := 10, appliedAt := some 10 }]
    settingsRevisions :=
      [{ revision := 1, profile := "default", domain := "settings", changeId := 1
         createdAt := 10 }]
    settingsValues :=
      [{ profile := "default", domain := "settings", key := "theme", value
         valueKind := "text", revision := 1, updatedAt := 10 }] }

theorem reachable_withTheme (deviceId value : String) :
    Reachable codec (withTheme deviceId value) := by
  have written : setSyncSettingText "default" "settings" "theme" value 10
      { localSyncDeviceId := deviceId } =
        .ok (⟨1, "default", "settings", "theme", "set_text", value, deviceId, 1, 1, 10, some 10⟩,
          withTheme deviceId value) := rfl
  exact ⟨deviceId, .single (.setSyncSettingText written)⟩

/-- A new device takes the laptop's theme from its snapshot as it would from its log. -/
theorem snapshot_merges_into_new_device :
    ∃ snapshotRecords merged changeRecords replayed,
      applySettingsSnapshot plainTextCodec
        ((withTheme "laptop" "dark").settingsSyncSnapshotPayload "default" 1 ["settings"] 20) 30
        { localSyncDeviceId := "phone" } = .ok (snapshotRecords, merged) ∧
      deliver plainTextCodec [(⟨"default", "settings", "theme", "dark", "laptop", 1, 1⟩, 30)]
        { localSyncDeviceId := "phone" } = .ok (changeRecords, replayed) ∧
      ∀ profile domain key,
        (merged.getSyncSettingText profile domain key).map
            (fun row => (row.value, row.valueKind)) =
          (replayed.getSyncSettingText profile domain key).map
            (fun row => (row.value, row.valueKind)) := by
  have covered : (withTheme "laptop" "dark").coveredChanges "default" 1 ["settings"] =
      [⟨"default", "settings", "theme", "dark", "laptop", 1, 1⟩] := rfl
  have events : (withTheme "laptop" "dark").snapshotEvents "default" 1 ["settings"] =
      [⟨⟨1, "default", "settings", 1, 10⟩, ⟨1, "default", "settings", "theme", "set_text", "dark",
        "laptop", 1, 1, 10, some 10⟩⟩] := rfl
  have alike : SnapshotMergesAlike plainTextCodec "default" 1 ["settings"]
      (withTheme "laptop" "dark") { localSyncDeviceId := "phone" } := by
    refine ⟨fun event sets => ?_, fun change membership _ => ?_, fun event sets => ?_,
      fun change sets => ?_⟩
    · rw [SnapshotSets, IsLastEvent, events, List.mem_singleton] at sets
      obtain ⟨⟨rfl, -⟩, -⟩ := sets
      exact wellFormedValue_of_settings _ rfl
    · rw [covered, List.mem_singleton] at membership
      exact wellFormedValue_of_settings _ (membership ▸ rfl)
    · rw [SnapshotSets, IsLastEvent, events, List.mem_singleton] at sets
      obtain ⟨⟨rfl, -⟩, -⟩ := sets
      refine .inl ⟨⟨"default", "settings", "theme", "dark", "laptop", 1, 1⟩,
        ⟨by simp [covered], takesEffect_empty _ _, ?_⟩, rfl, rfl⟩
      simp [covered]
    · rw [ChangeSets, covered, List.mem_singleton] at sets
      obtain ⟨rfl, -⟩ := sets
      refine .inl ⟨⟨⟨1, "default", "settings", 1, 10⟩, ⟨1, "default", "settings", "theme",
        "set_text", "dark", "laptop", 1, 1, 10, some 10⟩⟩, ⟨?_, takesEffect_empty _ _⟩, rfl⟩
      simp [IsLastEvent, events]
  exact (snapshot_merges_alike_iff (reachable_withTheme "laptop" "dark") ⟨"phone", .refl⟩
    "default" 1 ["settings"] 20 30).mpr alike _ (by simp [covered])

/-- The phone's theme beats the laptop's change, but not the laptop's snapshot: the
device id `snapshot` is larger than both. -/
theorem snapshot_beats_larger_change :
    ∃ snapshotRecords merged changeRecords replayed,
      (withTheme "phone" "light").applySettingsSnapshot plainTextCodec
        ((withTheme "laptop" "dark").settingsSyncSnapshotPayload "default" 1 ["settings"] 20) 30 =
          .ok (snapshotRecords, merged) ∧
      deliver plainTextCodec
        (((withTheme "laptop" "dark").coveredChanges "default" 1 ["settings"]).map
          fun change => (change, 30)) (withTheme "phone" "light") =
          .ok (changeRecords, replayed) ∧
      (merged.getSyncSettingText "default" "settings" "theme").map (·.value) = some "dark" ∧
      (replayed.getSyncSettingText "default" "settings" "theme").map (·.value) =
        some "light" :=
  ⟨_, _, _, _, rfl, rfl, rfl, rfl⟩

end SlateProfileDatabase

end Slate.Storage
