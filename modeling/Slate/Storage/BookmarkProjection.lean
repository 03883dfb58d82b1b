import Mathlib
import Slate.Foundation.SlotWrites
import Slate.Storage.LastWriterWins

/-!
# Bookmarks and the order of changes

A home slot change is keyed by its position in the log, but its projection deletes
rows by position, by url and by the url it replaces. Changes of different slots can
therefore delete each other's rows, and the table depends on the order in which they
arrive. This module says exactly when it does not.
-/

namespace Slate.Storage

open Slate.Foundation

/-- The columns of a bookmark other than its timestamps. -/
structure BookmarkContent where
  profile : String
  url : String
  title : Option String
  folder : Option String
  position : Int
  faviconKey : Option String
deriving DecidableEq, Repr

def BookmarkRecord.content (bookmark : BookmarkRecord) : BookmarkContent :=
  { profile := bookmark.profile, url := bookmark.url, title := bookmark.title
    folder := bookmark.folder, position := bookmark.position
    faviconKey := bookmark.faviconKey }

namespace SlateProfileDatabase

/-- The bookmarks table without its timestamps. -/
def bookmarkTable (db : SlateProfileDatabase) : Set BookmarkContent :=
  { content | ∃ bookmark ∈ db.bookmarks, bookmark.content = content }

/-- A change on a home slot whose value decodes to a payload for that slot. -/
structure BookmarkSlotChange (codec : SyncPayloadCodec) where
  change : IncomingSyncSettingText
  payload : BookmarkSlotSyncPayload
  ofDomain : change.domain = syncDomainBookmarks
  decoded : decodeBookmarkSlot codec change = .ok payload

variable {codec : SyncPayloadCodec}

namespace BookmarkSlotChange

theorem key_eq (slotChange : BookmarkSlotChange codec) :
    slotChange.change.key = bookmarkHomeSlotSyncKey slotChange.payload.position := by
  have decoded := slotChange.decoded
  unfold decodeBookmarkSlot at decoded
  split at decoded
  · cases decoded
  · split at decoded
    next same =>
      cases decoded
      exact same
    next => cases decoded

theorem startsWith_key (slotChange : BookmarkSlotChange codec) :
    startsWith slotChange.change.key bookmarkHomeSlotSyncKeyPrefix := by
  simp [startsWith, slotChange.key_eq, bookmarkHomeSlotSyncKey, List.isPrefixOf_iff_prefix]

theorem wellFormedValue (slotChange : BookmarkSlotChange codec) :
    WellFormedValue codec slotChange.change where
  bookmark _ _ := ⟨slotChange.payload, slotChange.decoded⟩
  app domain projected := by
    have other : syncDomainBookmarks ≠ (appDomainSpec domain).domain := by
      cases domain <;> decide
    exact absurd (slotChange.ofDomain.symm.trans projected) other

/-- The slot of a change: its profile and position. -/
def homeSlot (slotChange : BookmarkSlotChange codec) : String × Int :=
  (slotChange.change.profile, slotChange.payload.position)

/-- Positions and log keys tell the same slots apart. -/
theorem slot_eq_iff {first second : BookmarkSlotChange codec} :
    first.change.slot = second.change.slot ↔ first.homeSlot = second.homeSlot := by
  simp only [IncomingSyncSettingText.slot, homeSlot, first.ofDomain, second.ofDomain,
    first.key_eq, second.key_eq, Prod.mk.injEq, true_and, bookmarkHomeSlotSyncKey,
    String.append_right_inj]
  refine and_congr_right fun _ => ?_
  constructor
  · intro same
    exact Int.repr_injective same
  · intro same
    rw [same]

/-- The row a change leaves in the table. -/
def row (slotChange : BookmarkSlotChange codec) : Option BookmarkContent :=
  if slotChange.payload.deleted then none
  else some
    { profile := slotChange.change.profile, url := slotChange.payload.url
      title := slotChange.payload.title, folder := slotChange.payload.folder
      position := slotChange.payload.position
      faviconKey := slotChange.payload.faviconKey }

/-- The rows a change deletes. -/
def Clears (slotChange : BookmarkSlotChange codec) (content : BookmarkContent) : Prop :=
  content.profile = slotChange.change.profile ∧
    (content.position = slotChange.payload.position ∨
      content.url = slotChange.payload.url ∨
      slotChange.payload.replacedUrl = some content.url)

theorem row_eq_some_iff {slotChange : BookmarkSlotChange codec} {content : BookmarkContent} :
    slotChange.row = some content ↔ slotChange.payload.deleted = false ∧
      content =
        { profile := slotChange.change.profile, url := slotChange.payload.url
          title := slotChange.payload.title, folder := slotChange.payload.folder
          position := slotChange.payload.position
          faviconKey := slotChange.payload.faviconKey } := by
  cases deleted : slotChange.payload.deleted with
  | true => simp [row, deleted]
  | false => simp [row, deleted, eq_comm]

/-- Home slot changes as stamped writes to slots. -/
def writes (codec : SyncPayloadCodec) :
    SlotWrites (BookmarkSlotChange codec) BookmarkContent (String × Int) ChangeStamp where
  slot := homeSlot
  stamp slotChange := slotChange.change.stamp
  Clears := Clears
  inserts := row
  clears_of_slot_eq first second content sameSlot inserted := by
    obtain ⟨-, rfl⟩ := row_eq_some_iff.mp inserted
    exact ⟨(congrArg Prod.fst sameSlot).symm, .inl (congrArg Prod.snd sameSlot).symm⟩
  slot_eq_of_inserts first second content firstInserts secondInserts := by
    obtain ⟨-, rfl⟩ := row_eq_some_iff.mp firstInserts
    obtain ⟨-, same⟩ := row_eq_some_iff.mp secondInserts
    injection same with profile url title folder position
    exact Prod.ext profile position

/-- The change can take effect on its slot. -/
def Eligible (db : SlateProfileDatabase) (slotChange : BookmarkSlotChange codec) : Prop :=
  db.TakesEffect slotChange.change

end BookmarkSlotChange

section View

variable {db next : SlateProfileDatabase} {change : IncomingSyncSettingText} {now : Int}

theorem bookmarks_applyAppView {domain : AppDomain}
    (h : db.applyAppView codec domain change now = .ok next) :
    next.bookmarks = db.bookmarks := by
  unfold applyAppView at h
  split at h
  · obtain ⟨payload, -, h⟩ := bind_eq_ok_iff.mp h
    unfold applyAppSyncPayload at h
    split at h
    · cases h
      rfl
    · obtain ⟨_, -, h⟩ := bind_eq_ok_iff.mp h
      cases h
      rfl
  · cases h
    rfl

theorem bookmarks_applySettingsView :
    (db.applySettingsView change now).bookmarks = db.bookmarks := by
  unfold applySettingsView
  split <;> rfl

/-- The row content of a kept or new bookmark. -/
theorem bookmarkTable_applyBookmarkSlotSyncPayload (slotChange : BookmarkSlotChange codec) :
    (db.applyBookmarkSlotSyncPayload slotChange.change.profile slotChange.payload
        now).bookmarkTable =
      (BookmarkSlotChange.writes codec).write db.bookmarkTable slotChange := by
  have kept : ∀ bookmark : BookmarkRecord,
      (!clearsBookmark slotChange.change.profile slotChange.payload.position
        slotChange.payload.url slotChange.payload.replacedUrl bookmark) = true ↔
      ¬ slotChange.Clears bookmark.content := by
    intro bookmark
    simp only [clearsBookmark, BookmarkSlotChange.Clears, BookmarkRecord.content,
      Bool.not_eq_true', Bool.and_eq_false_iff, Bool.or_eq_false_iff, beq_eq_false_iff_ne]
    tauto
  ext content
  simp only [SlotWrites.write, BookmarkSlotChange.writes, Set.mem_ofPred_eq,
    BookmarkSlotChange.row_eq_some_iff, applyBookmarkSlotSyncPayload]
  cases deleted : slotChange.payload.deleted with
  | true =>
      simp only [if_true, bookmarkTable, Set.mem_ofPred_eq, List.mem_filter, kept,
        Bool.true_eq_false, false_and, false_or]
      constructor
      · rintro ⟨bookmark, ⟨stored, keeps⟩, rfl⟩
        exact ⟨⟨bookmark, stored, rfl⟩, keeps⟩
      · rintro ⟨⟨bookmark, stored, rfl⟩, keeps⟩
        exact ⟨bookmark, ⟨stored, keeps⟩, rfl⟩
  | false =>
      simp only [Bool.false_eq_true, if_false, bookmarkTable, Set.mem_ofPred_eq,
        List.mem_append, List.mem_filter, kept, List.mem_singleton, true_and]
      constructor
      · rintro ⟨bookmark, ⟨stored, keeps⟩ | rfl, rfl⟩
        · exact .inr ⟨⟨bookmark, stored, rfl⟩, keeps⟩
        · exact .inl rfl
      · rintro (rfl | ⟨⟨bookmark, stored, rfl⟩, keeps⟩)
        · exact ⟨_, .inr rfl, rfl⟩
        · exact ⟨bookmark, .inl ⟨stored, keeps⟩, rfl⟩

/-- Projecting a home slot change is one write to the table. -/
theorem bookmarkTable_applySyncSettingMaterializedView {slotChange : BookmarkSlotChange codec}
    (h : db.applySyncSettingMaterializedView codec slotChange.change now = .ok next) :
    next.bookmarkTable =
      (BookmarkSlotChange.writes codec).write db.bookmarkTable slotChange := by
  obtain ⟨viewed, bookmarks, h⟩ := bind_eq_ok_iff.mp h
  obtain ⟨_, calendar, h⟩ := bind_eq_ok_iff.mp h
  obtain ⟨_, chat, h⟩ := bind_eq_ok_iff.mp h
  obtain ⟨_, contacts, h⟩ := bind_eq_ok_iff.mp h
  obtain ⟨_, downloads, h⟩ := bind_eq_ok_iff.mp h
  obtain ⟨_, files, storage⟩ := bind_eq_ok_iff.mp h
  have rest : next.bookmarks = viewed.bookmarks := by
    rw [bookmarks_applyAppView storage, bookmarks_applyAppView files,
      bookmarks_applyAppView downloads, bookmarks_applyAppView contacts,
      bookmarks_applyAppView chat, bookmarks_applyAppView calendar]
  have projected : slotChange.change.domain = syncDomainBookmarks ∧
      startsWith slotChange.change.key bookmarkHomeSlotSyncKeyPrefix :=
    ⟨slotChange.ofDomain, slotChange.startsWith_key⟩
  rw [applyBookmarkView, if_pos projected, slotChange.decoded, ok_bind] at bookmarks
  have table : viewed.bookmarkTable = (BookmarkSlotChange.writes codec).write
      (db.applySettingsView slotChange.change now).bookmarkTable slotChange := by
    rw [← Except.ok.inj bookmarks]
    exact bookmarkTable_applyBookmarkSlotSyncPayload slotChange
  unfold bookmarkTable at table ⊢
  rw [rest, table, bookmarks_applySettingsView]

end View

section Delivery

variable {db final : SlateProfileDatabase}

/-- Deliver home slot changes, each at its own time. -/
def deliverSlotChanges (order : List (BookmarkSlotChange codec × Int)) :
    SlateProfileDatabase →
      Except StorageError (List SyncChangeRecord × SlateProfileDatabase) :=
  deliver codec (order.map fun delivery => (delivery.1.change, delivery.2))

/-- The stamp beats the winner of its slot. -/
def Beats (log : SettingsLog) (change : IncomingSyncSettingText) : Prop :=
  ∀ winner, log.winner change.slot = some winner → winner.stamp < change.stamp

theorem beats_appendApplied_iff {log : SettingsLog} {applied change : IncomingSyncSettingText}
    {now : Int} (wins : Beats log applied) :
    Beats (log.appendApplied applied now) change ↔
      if applied.slot = change.slot then applied.stamp < change.stamp
      else Beats log change := by
  unfold Beats
  split
  next same =>
    rw [← same, SettingsLog.winner_appendApplied_self applied now wins]
    constructor
    · intro h
      exact h _ rfl
    · rintro h winner ⟨⟩
      exact h
  next different => rw [SettingsLog.winner_appendApplied_of_ne applied now different]

/-- How a database under delivery compares with the one the delivery started from:
pending changes are as new as they were, and win if they did and if they are larger
than the eligible changes seen since. -/
structure Tracks (base db : SlateProfileDatabase) (seen pending : List (BookmarkSlotChange codec)) :
    Prop where
  fresh : ∀ slotChange ∈ pending,
    db.log.Fresh slotChange.change ↔ base.log.Fresh slotChange.change
  beats : ∀ slotChange ∈ pending, Beats db.log slotChange.change ↔
    Beats base.log slotChange.change ∧ ∀ earlier ∈ seen,
      earlier.homeSlot = slotChange.homeSlot →
        earlier.change.stamp < slotChange.change.stamp

theorem fresh_append_iff {log next : SettingsLog} (record : SyncChangeRecord)
    {change : IncomingSyncSettingText} (different : record.sequenceKey ≠ change.sequenceKey)
    (appended : next.changes = log.changes ++ [record]) :
    next.Fresh change ↔ log.Fresh change := by
  unfold SettingsLog.Fresh
  rw [appended, List.forall_mem_append, List.forall_mem_singleton]
  exact and_iff_left different

section Step

variable {base next : SlateProfileDatabase} {seen pending : List (BookmarkSlotChange codec)}
  {head : BookmarkSlotChange codec} {now : Int}

/-- The head takes effect. -/
theorem Tracks.applied (tracks : Tracks base db seen (head :: pending))
    (distinct : ∀ slotChange ∈ pending,
      head.change.sequenceKey ≠ slotChange.change.sequenceKey)
    (wins : Beats db.log head.change)
    (log : next.log = db.log.appendApplied head.change now) :
    Tracks base next (head :: seen) pending := by
  obtain ⟨headBase, headSeen⟩ := (tracks.beats head (by simp)).mp wins
  refine ⟨fun slotChange membership => ?_, fun slotChange membership => ?_⟩
  · rw [← tracks.fresh slotChange (by simp [membership])]
    refine fresh_append_iff (db.log.newRecord head.change now (some now))
      (distinct slotChange membership) ?_
    rw [log]
    rfl
  · have pendingBeats := tracks.beats slotChange (by simp [membership])
    rw [log, beats_appendApplied_iff wins]
    split
    next same =>
      have sameSlot := BookmarkSlotChange.slot_eq_iff.mp same
      constructor
      · intro smaller
        refine ⟨fun winner found => ?_, fun earlier earlierMem earlierSlot => ?_⟩
        · rw [← same] at found
          exact lt_trans (headBase winner found) smaller
        · rcases List.mem_cons.mp earlierMem with rfl | inSeen
          · exact smaller
          · exact lt_trans (headSeen earlier inSeen (earlierSlot.trans sameSlot.symm)) smaller
      · intro both
        exact both.2 head (by simp) sameSlot
    next different =>
      rw [pendingBeats]
      refine and_congr_right fun _ => ⟨fun smaller earlier earlierMem earlierSlot => ?_,
        fun smaller earlier earlierMem => smaller earlier (by simp [earlierMem])⟩
      rcases List.mem_cons.mp earlierMem with rfl | inSeen
      · exact absurd (BookmarkSlotChange.slot_eq_iff.mpr earlierSlot) different
      · exact smaller earlier inSeen earlierSlot

/-- The head is recorded without taking effect; it may still be counted as seen. -/
theorem Tracks.recorded (tracks : Tracks base db seen (head :: pending))
    (distinct : ∀ slotChange ∈ pending,
      head.change.sequenceKey ≠ slotChange.change.sequenceKey)
    {winner : SyncChangeRecord} (found : db.log.winner head.change.slot = some winner)
    (loses : head.change.stamp ≤ winner.stamp)
    (log : next.log = db.log.appendRecorded head.change now) :
    Tracks base next seen pending ∧ Tracks base next (head :: seen) pending := by
  have sameBeats : ∀ change, Beats next.log change ↔ Beats db.log change := by
    intro change
    simp [Beats, log]
  have sameFresh : ∀ slotChange ∈ pending,
      next.log.Fresh slotChange.change ↔ base.log.Fresh slotChange.change := by
    intro slotChange membership
    rw [← tracks.fresh slotChange (by simp [membership])]
    refine fresh_append_iff (db.log.newRecord head.change now none)
      (distinct slotChange membership) ?_
    rw [log]
    rfl
  refine ⟨⟨sameFresh, fun slotChange membership => ?_⟩, sameFresh, fun slotChange membership => ?_⟩
  · rw [sameBeats]
    exact tracks.beats slotChange (by simp [membership])
  · have pendingBeats := tracks.beats slotChange (by simp [membership])
    rw [sameBeats]
    constructor
    · intro beats
      refine ⟨(pendingBeats.mp beats).1, fun earlier earlierMem earlierSlot => ?_⟩
      rcases List.mem_cons.mp earlierMem with rfl | inSeen
      · rw [BookmarkSlotChange.slot_eq_iff.mpr earlierSlot] at found
        exact lt_of_le_of_lt loses (beats winner found)
      · exact (pendingBeats.mp beats).2 earlier inSeen earlierSlot
    · rintro ⟨beatsBase, beatsSeen⟩
      exact pendingBeats.mpr ⟨beatsBase, fun earlier inSeen =>
        beatsSeen earlier (by simp [inSeen])⟩

/-- One application is one step of the effective writes among the eligible changes. -/
theorem applySlotChange_step (tracks : Tracks base db seen (head :: pending))
    (distinct : ∀ slotChange ∈ pending,
      head.change.sequenceKey ≠ slotChange.change.sequenceKey)
    {record : SyncChangeRecord}
    (h : db.applySyncSettingText codec head.change now = .ok (record, next)) :
    (¬ head.Eligible base ∧ next.bookmarkTable = db.bookmarkTable ∧
      Tracks base next seen pending) ∨
    (head.Eligible base ∧ Tracks base next (head :: seen) pending ∧
      ((∀ earlier ∈ seen, earlier.homeSlot = head.homeSlot →
          earlier.change.stamp < head.change.stamp) ∧
        next.bookmarkTable =
          (BookmarkSlotChange.writes codec).write db.bookmarkTable head ∨
      (¬ ∀ earlier ∈ seen, earlier.homeSlot = head.homeSlot →
          earlier.change.stamp < head.change.stamp) ∧
        next.bookmarkTable = db.bookmarkTable)) := by
  have headFresh := tracks.fresh head (by simp)
  have headBeats := tracks.beats head (by simp)
  rcases applySyncSettingTextInTransaction_cases (databaseError_eq_ok_iff.mp h) with
    ⟨recordedMem, sameKey, rfl⟩ | ⟨fresh, wins, viewed, view, inserted⟩ |
      ⟨fresh, ⟨winner, found, loses⟩, inserted⟩
  · -- A duplicate was not new at the start either.
    refine .inl ⟨fun eligible => ?_, rfl, ?_⟩
    · exact (headFresh.mpr eligible.1) record recordedMem sameKey
    · exact ⟨fun slotChange membership => tracks.fresh slotChange (by simp [membership]),
        fun slotChange membership => tracks.beats slotChange (by simp [membership])⟩
  · have log : next.log = db.log.appendApplied head.change now := by
      rw [show next = _ from congrArg Prod.snd inserted, log_insertChange,
        (sameButViews_applySyncSettingMaterializedView view).log, log_recordSyncDeviceSeen]
    have table := bookmarkTable_applySyncSettingMaterializedView view
    refine .inr ⟨⟨headFresh.mp fresh, (headBeats.mp wins).1⟩,
      tracks.applied distinct wins log, .inl ⟨(headBeats.mp wins).2, ?_⟩⟩
    rw [show next = _ from congrArg Prod.snd inserted]
    exact table
  · have log : next.log = db.log.appendRecorded head.change now := by
      rw [show next = _ from congrArg Prod.snd inserted, log_insertChangeRecord,
        log_recordSyncDeviceSeen]
    have table : next.bookmarkTable = db.bookmarkTable := by
      rw [show next = _ from congrArg Prod.snd inserted]
      rfl
    obtain ⟨unseen, counted⟩ := tracks.recorded distinct found loses log
    by_cases eligible : head.Eligible base
    · refine .inr ⟨eligible, counted, .inr ⟨fun larger => ?_, table⟩⟩
      have wins := headBeats.mpr ⟨eligible.2, larger⟩
      exact absurd (wins winner found) (not_lt.mpr loses)
    · exact .inl ⟨eligible, table, unseen⟩

end Step

open Classical in
/-- The table after a delivery is that of the effective writes among the changes that
were eligible at the start. -/
theorem bookmarkTable_deliverSlotChanges {base : SlateProfileDatabase}
    {order : List (BookmarkSlotChange codec × Int)}
    (distinct : (order.map Prod.fst).Pairwise fun first second =>
      first.change.sequenceKey ≠ second.change.sequenceKey)
    {seen : List (BookmarkSlotChange codec)}
    (tracks : Tracks base db seen (order.map Prod.fst))
    {records : List SyncChangeRecord}
    (h : deliverSlotChanges order db = .ok (records, final)) :
    final.bookmarkTable = (BookmarkSlotChange.writes codec).writeAll db.bookmarkTable
      ((BookmarkSlotChange.writes codec).effective seen
        ((order.map Prod.fst).filter fun slotChange => decide (slotChange.Eligible base))) := by
  induction order generalizing db seen records with
  | nil =>
      cases h
      rfl
  | cons delivery rest inductionHypothesis =>
      obtain ⟨head, now⟩ := delivery
      obtain ⟨others, restDistinct⟩ := List.pairwise_cons.mp distinct
      simp only [deliverSlotChanges, deliver, List.map_cons] at h
      obtain ⟨record, middle, restRecords, first, tail, -⟩ := forEach_cons_eq_ok_iff.mp h
      rcases applySlotChange_step tracks others first with
        ⟨ineligible, table, tracks⟩ | ⟨eligible, tracks, effect⟩
      · have continued := inductionHypothesis restDistinct tracks tail
        rw [table] at continued
        simpa [ineligible] using continued
      · have continued := inductionHypothesis restDistinct tracks tail
        have kept : (((head, now) :: rest).map Prod.fst).filter
            (fun slotChange => decide (slotChange.Eligible base)) =
            head :: (rest.map Prod.fst).filter
              (fun slotChange => decide (slotChange.Eligible base)) :=
          List.filter_cons_of_pos (by simpa using eligible)
        rw [continued, kept]
        rcases effect with ⟨larger, table⟩ | ⟨smaller, table⟩
        · rw [SlotWrites.effective_cons_of_larger larger, table]
          rfl
        · rw [SlotWrites.effective_cons_of_not_larger smaller, table]

end Delivery

section Orders

variable {db : SlateProfileDatabase} {changes : List (BookmarkSlotChange codec)}

/-- The largest eligible change of a slot. -/
def IsSlotWinner (db : SlateProfileDatabase) (changes : List (BookmarkSlotChange codec))
    (winner : BookmarkSlotChange codec) : Prop :=
  winner ∈ changes ∧ winner.Eligible db ∧ ∀ other ∈ changes, other.Eligible db →
    other.homeSlot = winner.homeSlot → other.change.stamp ≤ winner.change.stamp

/-- Changes of different slots keep out of each other's way. -/
structure NoSlotInterference (db : SlateProfileDatabase)
    (changes : List (BookmarkSlotChange codec)) : Prop where
  /-- No eligible change of another slot uses or replaces the url of a slot's winner. -/
  urls : ∀ winner, IsSlotWinner db changes winner → winner.payload.deleted = false →
    ∀ other ∈ changes, other.Eligible db → other.change.profile = winner.change.profile →
      other.payload.position ≠ winner.payload.position →
      other.payload.url ≠ winner.payload.url ∧
        other.payload.replacedUrl ≠ some winner.payload.url
  /-- A stored bookmark that an eligible change deletes is deleted by a slot's winner. -/
  stored : ∀ bookmark ∈ db.bookmarks, ∀ other ∈ changes, other.Eligible db →
    clearsBookmark other.change.profile other.payload.position other.payload.url
      other.payload.replacedUrl bookmark →
    ∃ winner, IsSlotWinner db changes winner ∧
      clearsBookmark winner.change.profile winner.payload.position winner.payload.url
        winner.payload.replacedUrl bookmark

theorem clearsBookmark_iff {slotChange : BookmarkSlotChange codec} {bookmark : BookmarkRecord} :
    clearsBookmark slotChange.change.profile slotChange.payload.position
        slotChange.payload.url slotChange.payload.replacedUrl bookmark ↔
      slotChange.Clears bookmark.content := by
  simp [clearsBookmark, BookmarkSlotChange.Clears, BookmarkRecord.content, or_assoc]

open Classical in
/-- The changes that can take effect at all. -/
noncomputable def eligibleChanges (db : SlateProfileDatabase)
    (changes : List (BookmarkSlotChange codec)) : List (BookmarkSlotChange codec) :=
  changes.filter fun slotChange => decide (slotChange.Eligible db)

theorem mem_eligibleChanges_iff {slotChange : BookmarkSlotChange codec} :
    slotChange ∈ eligibleChanges db changes ↔ slotChange ∈ changes ∧ slotChange.Eligible db := by
  simp [eligibleChanges]

theorem isTop_eligibleChanges_iff {winner : BookmarkSlotChange codec} :
    (BookmarkSlotChange.writes codec).IsTop (eligibleChanges db changes) winner ↔
      IsSlotWinner db changes winner := by
  simp only [SlotWrites.IsTop, IsSlotWinner, mem_eligibleChanges_iff, and_assoc, and_imp]
  rfl

/-- Interference in the terms of the source is interference of the writes. -/
theorem noSlotInterference_iff :
    NoSlotInterference db changes ↔
      (BookmarkSlotChange.writes codec).TopsSurvive (eligibleChanges db changes) ∧
        (BookmarkSlotChange.writes codec).ClearedByTops db.bookmarkTable
          (eligibleChanges db changes) := by
  constructor
  · intro apart
    constructor
    · intro winner isTop content inserted other otherMem otherSlot clears
      have isWinner := isTop_eligibleChanges_iff.mp isTop
      obtain ⟨otherMem, eligible⟩ := mem_eligibleChanges_iff.mp otherMem
      obtain ⟨kept, rfl⟩ := BookmarkSlotChange.row_eq_some_iff.mp inserted
      obtain ⟨sameProfile, clears⟩ := clears
      have otherPosition : other.payload.position ≠ winner.payload.position := by
        intro same
        exact otherSlot (Prod.ext sameProfile.symm same)
      obtain ⟨url, replaced⟩ := apart.urls winner isWinner kept other otherMem eligible
        sameProfile.symm otherPosition
      rcases clears with position | sameUrl | sameReplaced
      · exact otherPosition position.symm
      · exact url sameUrl.symm
      · exact replaced sameReplaced
    · rintro content ⟨bookmark, stored, rfl⟩ other otherMem clears
      obtain ⟨otherMem, eligible⟩ := mem_eligibleChanges_iff.mp otherMem
      obtain ⟨winner, isWinner, winnerClears⟩ :=
        apart.stored bookmark stored other otherMem eligible (clearsBookmark_iff.mpr clears)
      exact ⟨winner, isTop_eligibleChanges_iff.mpr isWinner,
        clearsBookmark_iff.mp winnerClears⟩
  · rintro ⟨survive, cleared⟩
    refine ⟨?_, ?_⟩
    · intro winner isWinner kept other otherMem eligible sameProfile otherPosition
      have otherSlot : other.homeSlot ≠ winner.homeSlot := by
        intro same
        exact otherPosition (congrArg Prod.snd same)
      have survives := survive winner (isTop_eligibleChanges_iff.mpr isWinner) _
        (BookmarkSlotChange.row_eq_some_iff.mpr ⟨kept, rfl⟩) other
        (mem_eligibleChanges_iff.mpr ⟨otherMem, eligible⟩) otherSlot
      constructor
      · intro sameUrl
        exact survives ⟨sameProfile.symm, .inr (.inl sameUrl.symm)⟩
      · intro sameReplaced
        exact survives ⟨sameProfile.symm, .inr (.inr sameReplaced)⟩
    · intro bookmark stored other otherMem eligible clears
      obtain ⟨winner, isTop, winnerClears⟩ := cleared bookmark.content ⟨bookmark, stored, rfl⟩
        other (mem_eligibleChanges_iff.mpr ⟨otherMem, eligible⟩) (clearsBookmark_iff.mp clears)
      exact ⟨winner, isTop_eligibleChanges_iff.mp isTop, clearsBookmark_iff.mpr winnerClears⟩

/-- Every delivery of the changes succeeds, and its table is that of the effective
writes among the eligible changes. -/
theorem deliverSlotChanges_succeeds
    (distinct : changes.Pairwise fun first second =>
      first.change.sequenceKey ≠ second.change.sequenceKey)
    {order : List (BookmarkSlotChange codec × Int)} (perm : (order.map Prod.fst).Perm changes) :
    ∃ records final, deliverSlotChanges order db = .ok (records, final) ∧
      final.bookmarkTable = (BookmarkSlotChange.writes codec).writeAll db.bookmarkTable
        ((BookmarkSlotChange.writes codec).effective []
          (eligibleChanges db (order.map Prod.fst))) := by
  have wellFormed : ∀ delivery ∈ order.map (fun delivery => (delivery.1.change, delivery.2)),
      WellFormedValue codec delivery.1 := by
    intro delivery membership
    obtain ⟨slotChange, -, rfl⟩ := List.mem_map.mp membership
    exact slotChange.1.wellFormedValue
  obtain ⟨records, final, delivered⟩ := deliver_succeeds wellFormed db
  have orderDistinct := (perm.pairwise_iff fun different => Ne.symm different).mpr distinct
  have tracks : Tracks db db [] (order.map Prod.fst) :=
    ⟨fun _ _ => Iff.rfl, fun _ _ => by simp⟩
  exact ⟨records, final, delivered, bookmarkTable_deliverSlotChanges orderDistinct tracks delivered⟩

/-- Every order of the eligible changes comes from an order of all changes. -/
theorem exists_delivery_order {ops : List (BookmarkSlotChange codec)}
    (perm : ops.Perm (eligibleChanges db changes)) :
    ∃ order : List (BookmarkSlotChange codec × Int), (order.map Prod.fst).Perm changes ∧
      eligibleChanges db (order.map Prod.fst) = ops := by
  classical
  let ineligible := changes.filter fun slotChange => !decide (slotChange.Eligible db)
  have fsts : ((ops ++ ineligible).map fun slotChange => (slotChange, (0 : Int))).map Prod.fst =
      ops ++ ineligible := by
    simp [Function.comp_def]
  refine ⟨(ops ++ ineligible).map fun slotChange => (slotChange, 0), ?_, ?_⟩
  · rw [fsts]
    exact (perm.append_right ineligible).trans (List.filter_append_perm _ changes)
  · rw [fsts, eligibleChanges, List.filter_append]
    have allEligible : ∀ slotChange ∈ ops, decide (slotChange.Eligible db) = true := by
      intro slotChange membership
      simpa using (mem_eligibleChanges_iff.mp (perm.mem_iff.mp membership)).2
    have noneEligible : ∀ slotChange ∈ ineligible,
        ¬ decide (slotChange.Eligible db) = true := by
      intro slotChange membership
      simpa using (List.mem_filter.mp membership).2
    rw [List.filter_eq_self.mpr allEligible, List.filter_eq_nil_iff.mpr noneEligible,
      List.append_nil]

end Orders

/-- Any two orders of delivery leave the same bookmarks exactly when changes of
different slots do not interfere. -/
theorem bookmarkTable_orderIndependent_iff {db : SlateProfileDatabase}
    {changes : List (BookmarkSlotChange codec)}
    (distinct : changes.Pairwise fun first second =>
      first.change.sequenceKey ≠ second.change.sequenceKey) :
    (∀ first second : List (BookmarkSlotChange codec × Int),
      (first.map Prod.fst).Perm changes → (second.map Prod.fst).Perm changes →
      ∃ firstRecords firstFinal secondRecords secondFinal,
        deliverSlotChanges first db = .ok (firstRecords, firstFinal) ∧
        deliverSlotChanges second db = .ok (secondRecords, secondFinal) ∧
        firstFinal.bookmarkTable = secondFinal.bookmarkTable) ↔
      NoSlotInterference db changes := by
  have writesDistinct :
      (BookmarkSlotChange.writes codec).Distinct (eligibleChanges db changes) := by
    intro first firstMem second secondMem sameSlot sameStamp
    have sameProfile : first.change.profile = second.change.profile := congrArg Prod.fst sameSlot
    have sameStamp : first.change.stamp = second.change.stamp := sameStamp
    injection sameStamp with sameClock sameDevice sameSequence
    refine List.inj_on_of_nodup_map (List.pairwise_map.mpr distinct)
      (mem_eligibleChanges_iff.mp firstMem).1 (mem_eligibleChanges_iff.mp secondMem).1 ?_
    exact Prod.ext sameProfile (Prod.ext sameDevice sameSequence)
  have nodup : (eligibleChanges db changes).Nodup := by
    refine List.Nodup.filter _ (distinct.imp ?_)
    intro first second different same
    exact different (congrArg (fun slotChange => slotChange.change.sequenceKey) same)
  rw [noSlotInterference_iff, ← SlotWrites.orderIndependent_iff writesDistinct nodup]
  constructor
  · intro independent firstOps secondOps firstPerm secondPerm
    obtain ⟨first, firstOrder, rfl⟩ := exists_delivery_order firstPerm
    obtain ⟨second, secondOrder, rfl⟩ := exists_delivery_order secondPerm
    obtain ⟨_, firstFinal, _, secondFinal, firstRun, secondRun, same⟩ :=
      independent first second firstOrder secondOrder
    obtain ⟨_, _, firstRun', firstTable⟩ := deliverSlotChanges_succeeds distinct firstOrder
    obtain ⟨_, _, secondRun', secondTable⟩ := deliverSlotChanges_succeeds distinct secondOrder
    obtain ⟨-, rfl⟩ := ok_pair_inj (firstRun'.symm.trans firstRun)
    obtain ⟨-, rfl⟩ := ok_pair_inj (secondRun'.symm.trans secondRun)
    rw [← firstTable, ← secondTable, same]
  · intro independent first second firstOrder secondOrder
    obtain ⟨firstRecords, firstFinal, firstRun, firstTable⟩ :=
      deliverSlotChanges_succeeds distinct firstOrder
    obtain ⟨secondRecords, secondFinal, secondRun, secondTable⟩ :=
      deliverSlotChanges_succeeds distinct secondOrder
    refine ⟨firstRecords, firstFinal, secondRecords, secondFinal, firstRun, secondRun, ?_⟩
    rw [firstTable, secondTable]
    exact independent _ _ (firstOrder.filter _) (secondOrder.filter _)

/-- A bookmark without title, folder or icon. -/
def plainBookmark (url : String) (position : Int) : BookmarkSlotSyncPayload :=
  { url, title := none, folder := none, position, faviconKey := none, replacedUrl := none
    deleted := false }

/-- The JSON text of such a bookmark. -/
def bookmarkText (url position : String) : String :=
  "\x7b\"url\":\"" ++ url ++ "\",\"title\":null,\"folder\":null,\"position\":" ++ position ++
    ",\"favicon_key\":null,\"replaced_url\":null,\"deleted\":false\x7d"

/-- The serializers, with the JSON texts of three bookmarks. -/
def homeCodec : SyncPayloadCodec where
  bookmark :=
    { toText := fun _ => ""
      fromText := fun text =>
        if text = bookmarkText "https://a.example/" "0" then
          .ok (plainBookmark "https://a.example/" 0)
        else if text = bookmarkText "https://a.example/" "1" then
          .ok (plainBookmark "https://a.example/" 1)
        else if text = bookmarkText "https://b.example/" "1" then
          .ok (plainBookmark "https://b.example/" 1)
        else .error "expected value" }
  app := fun _ => { toText := fun _ => "", fromText := fun _ => .error "expected value" }

/-- A bookmark in the first slot. -/
def laptopSlot : BookmarkSlotChange homeCodec where
  change :=
    { profile := "default", domain := syncDomainBookmarks, key := bookmarkHomeSlotSyncKey 0
      value := bookmarkText "https://a.example/" "0"
      deviceId := "laptop", deviceSequence := 1, logicalClock := 1 }
  payload := plainBookmark "https://a.example/" 0
  ofDomain := rfl
  decoded := by simp [decodeBookmarkSlot, homeCodec, bookmarkText, plainBookmark]

/-- The same bookmark in the second slot. -/
def phoneSlot : BookmarkSlotChange homeCodec where
  change :=
    { profile := "default", domain := syncDomainBookmarks, key := bookmarkHomeSlotSyncKey 1
      value := bookmarkText "https://a.example/" "1"
      deviceId := "phone", deviceSequence := 1, logicalClock := 1 }
  payload := plainBookmark "https://a.example/" 1
  ofDomain := rfl
  decoded := by simp [decodeBookmarkSlot, homeCodec, bookmarkText, plainBookmark]

/-- Another bookmark in the second slot. -/
def tabletSlot : BookmarkSlotChange homeCodec where
  change :=
    { profile := "default", domain := syncDomainBookmarks, key := bookmarkHomeSlotSyncKey 1
      value := bookmarkText "https://b.example/" "1"
      deviceId := "tablet", deviceSequence := 1, logicalClock := 1 }
  payload := plainBookmark "https://b.example/" 1
  ofDomain := rfl
  decoded := by simp [decodeBookmarkSlot, homeCodec, bookmarkText, plainBookmark]

/-- On an empty database every change can take effect. -/
theorem eligibleChanges_empty {localSyncDeviceId : String}
    (changes : List (BookmarkSlotChange codec)) :
    eligibleChanges { localSyncDeviceId } changes = changes := by
  refine List.filter_eq_self.mpr ?_
  intro slotChange _
  have effective : slotChange.Eligible { localSyncDeviceId } :=
    takesEffect_empty slotChange.change localSyncDeviceId
  simp [effective]

/-- Two slots hold different urls, so the order does not matter. -/
theorem bookmarkTable_orderIndependent_two_urls :
    ∃ firstRecords firstFinal secondRecords secondFinal,
      deliverSlotChanges [(laptopSlot, 10), (tabletSlot, 11)]
        { localSyncDeviceId := "desktop" } = .ok (firstRecords, firstFinal) ∧
      deliverSlotChanges [(tabletSlot, 10), (laptopSlot, 11)]
        { localSyncDeviceId := "desktop" } = .ok (secondRecords, secondFinal) ∧
      firstFinal.bookmarkTable = secondFinal.bookmarkTable := by
  have distinct : [laptopSlot, tabletSlot].Pairwise fun first second =>
      first.change.sequenceKey ≠ second.change.sequenceKey := by
    simp [laptopSlot, tabletSlot, IncomingSyncSettingText.sequenceKey]
  have apart : NoSlotInterference { localSyncDeviceId := "desktop" } [laptopSlot, tabletSlot] := by
    refine ⟨?_, ?_⟩
    · rintro winner ⟨winnerMem, -, -⟩ - other otherMem - - otherPosition
      simp only [List.mem_cons, List.not_mem_nil, or_false] at winnerMem otherMem
      rcases winnerMem with rfl | rfl <;> rcases otherMem with rfl | rfl
      · exact absurd rfl otherPosition
      · simp [laptopSlot, tabletSlot, plainBookmark]
      · simp [laptopSlot, tabletSlot, plainBookmark]
      · exact absurd rfl otherPosition
    · intro bookmark stored
      cases stored
  exact (bookmarkTable_orderIndependent_iff distinct).mpr apart _ _ (.refl _) (.swap _ _ _)

/-- Two slots hold the same url: whichever change arrives last deletes the other's row. -/
theorem bookmarkTable_sharedUrl_diverges :
    ∃ firstRecords firstFinal secondRecords secondFinal,
      deliverSlotChanges [(laptopSlot, 10), (phoneSlot, 11)]
        { localSyncDeviceId := "desktop" } = .ok (firstRecords, firstFinal) ∧
      deliverSlotChanges [(phoneSlot, 10), (laptopSlot, 11)]
        { localSyncDeviceId := "desktop" } = .ok (secondRecords, secondFinal) ∧
      firstFinal.bookmarkTable ≠ secondFinal.bookmarkTable := by
  have distinct : [laptopSlot, phoneSlot].Pairwise fun first second =>
      first.change.sequenceKey ≠ second.change.sequenceKey := by
    simp [laptopSlot, phoneSlot, IncomingSyncSettingText.sequenceKey]
  have slots : laptopSlot.homeSlot ≠ phoneSlot.homeSlot := by
    simp [laptopSlot, phoneSlot, BookmarkSlotChange.homeSlot, plainBookmark]
  obtain ⟨firstRecords, firstFinal, firstRun, firstTable⟩ :=
    @deliverSlotChanges_succeeds homeCodec { localSyncDeviceId := "desktop" } _ distinct
      [(laptopSlot, 10), (phoneSlot, 11)] (.refl _)
  obtain ⟨secondRecords, secondFinal, secondRun, secondTable⟩ :=
    @deliverSlotChanges_succeeds homeCodec { localSyncDeviceId := "desktop" } _ distinct
      [(phoneSlot, 10), (laptopSlot, 11)] (.swap _ _ _)
  refine ⟨firstRecords, firstFinal, secondRecords, secondFinal, firstRun, secondRun, ?_⟩
  rw [eligibleChanges_empty] at firstTable secondTable
  have effectiveFirst : (BookmarkSlotChange.writes homeCodec).effective []
      [laptopSlot, phoneSlot] = [laptopSlot, phoneSlot] := by
    simp [SlotWrites.effective, BookmarkSlotChange.writes, slots]
  have effectiveSecond : (BookmarkSlotChange.writes homeCodec).effective []
      [phoneSlot, laptopSlot] = [phoneSlot, laptopSlot] := by
    simp [SlotWrites.effective, BookmarkSlotChange.writes, slots.symm]
  have stored : (⟨"default", "https://a.example/", none, none, 1, none⟩ : BookmarkContent) ∈
      firstFinal.bookmarkTable := by
    rw [firstTable]
    simp only [List.map_cons, List.map_nil, effectiveFirst]
    simp [SlotWrites.writeAll, SlotWrites.write, BookmarkSlotChange.writes,
      BookmarkSlotChange.row, phoneSlot, plainBookmark]
  intro same
  rw [same, secondTable] at stored
  simp only [List.map_cons, List.map_nil, effectiveSecond] at stored
  simp [SlotWrites.writeAll, SlotWrites.write, BookmarkSlotChange.writes,
    BookmarkSlotChange.row, BookmarkSlotChange.Clears, laptopSlot, phoneSlot,
    plainBookmark] at stored

end SlateProfileDatabase

end Slate.Storage
