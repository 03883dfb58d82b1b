import Slate.Storage.PlainScheme
import Slate.Storage.ProfileFrame
import Slate.Storage.Recorded
import Slate.Storage.SettingsPulls
import Slate.Storage.SnapshotMerge

/-!
# The scope of a pull

A pull is asked for one root of one profile. The envelopes of the objects it opens are tied
to the profile, the payload of the manifest is not: what is written is decided by the
profile and the root id that the manifest names.
-/

namespace Slate.Storage

open Slate.Foundation

namespace SlateProfileDatabase

variable {codec : SyncPayloadCodec} {db next : SlateProfileDatabase}

section Retimed

/-- Which changes take effect depends on what was recorded, not on when. -/
theorem takesEffect_of_contents {other : SlateProfileDatabase} (wf : db.log.WellFormed)
    (otherWf : other.log.WellFormed) (same : other.log.contents = db.log.contents)
    {change : IncomingSyncSettingText} (effective : other.TakesEffect change) :
    db.TakesEffect change := by
  refine ⟨?_, fun winner found => ?_⟩
  · rw [SettingsLog.fresh_iff_contents, ← same, ← SettingsLog.fresh_iff_contents]
    exact effective.1
  · have winners : (other.log.winner change.slot).map SyncChangeRecord.content =
        (db.log.winner change.slot).map SyncChangeRecord.content := by
      rw [otherWf.winner_content, wf.winner_content, SettingsLog.contentsOn,
        SettingsLog.contentsOn, same]
    rw [found, Option.map_some] at winners
    obtain ⟨otherWinner, otherFound, sameContent⟩ := Option.map_eq_some_iff.mp winners
    have beaten := effective.2 otherWinner otherFound
    rwa [← SyncChangeRecord.content_stamp, sameContent, SyncChangeRecord.content_stamp] at beaten

/-- A change that is accepted at one time is accepted at any other. -/
theorem applySyncSettingText_retimed {other : SlateProfileDatabase}
    {change : IncomingSyncSettingText} {now : Int} {record : SyncChangeRecord}
    (wf : db.log.WellFormed) (otherWf : other.log.WellFormed)
    (same : other.log.contents = db.log.contents)
    (h : db.applySyncSettingText codec change now = .ok (record, next)) (later : Int) :
    ∃ otherRecord otherNext,
      other.applySyncSettingText codec change later = .ok (otherRecord, otherNext) ∧
      otherNext.log.WellFormed ∧ otherNext.log.contents = next.log.contents := by
  obtain ⟨otherRecord, otherNext, applied⟩ := applySyncSettingText_succeeds
    (fun effective : other.TakesEffect change =>
      wellFormedValue_of_applySyncSettingText h (takesEffect_of_contents wf otherWf same effective))
    later
  refine ⟨otherRecord, otherNext, applied, (applySyncSettingText_run applied).wellFormed otherWf, ?_⟩
  have sameFresh : other.log.Fresh change ↔ db.log.Fresh change := by
    rw [SettingsLog.fresh_iff_contents, SettingsLog.fresh_iff_contents, same]
  rcases contents_applySyncSettingText h with ⟨stale, kept⟩ | ⟨fresh, grown⟩
  · rcases contents_applySyncSettingText applied with ⟨-, otherKept⟩ | ⟨otherFresh, -⟩
    · rw [otherKept, kept, same]
    · exact absurd (sameFresh.mp otherFresh) stale
  · rcases contents_applySyncSettingText applied with ⟨otherStale, -⟩ | ⟨-, otherGrown⟩
    · exact absurd (sameFresh.mpr fresh) otherStale
    · rw [otherGrown, grown, same]

theorem applyChanges_retimed {other : SlateProfileDatabase}
    {changes : List IncomingSyncSettingText} {now : Int} {records : List SyncChangeRecord}
    (wf : db.log.WellFormed) (otherWf : other.log.WellFormed)
    (same : other.log.contents = db.log.contents)
    (h : forEach (fun change => applySyncSettingText codec change now) changes db =
      .ok (records, next)) (later : Int) :
    ∃ otherRecords otherNext,
      forEach (fun change => applySyncSettingText codec change later) changes other =
        .ok (otherRecords, otherNext) ∧
      otherNext.log.WellFormed ∧ otherNext.log.contents = next.log.contents := by
  induction changes generalizing db other records with
  | nil =>
      obtain ⟨-, rfl⟩ := ok_pair_inj h
      exact ⟨[], other, rfl, otherWf, same⟩
  | cons change rest inductionHypothesis =>
      obtain ⟨record, middle, others, applied, appliedRest, -⟩ := forEach_cons_eq_ok_iff.mp h
      obtain ⟨otherRecord, otherMiddle, otherApplied, middleWf, sameMiddle⟩ :=
        applySyncSettingText_retimed wf otherWf same applied later
      obtain ⟨otherRecords, otherNext, otherRest, nextWf, sameNext⟩ := inductionHypothesis
        ((applySyncSettingText_run applied).wellFormed wf) middleWf sameMiddle appliedRest
      exact ⟨_, otherNext, forEach_cons_eq_ok_iff.mpr ⟨_, _, _, otherApplied, otherRest, rfl⟩,
        nextWf, sameNext⟩

theorem applyManifestSnapshot_retimed {other : SlateProfileDatabase}
    {manifest : ProfileSyncManifest} {snapshot : Option VerifiedProfileSyncSettingsSnapshot}
    {now : Int} {records : List SyncChangeRecord} (wf : db.log.WellFormed)
    (otherWf : other.log.WellFormed) (same : other.log.contents = db.log.contents)
    (h : db.applyManifestSnapshot codec manifest snapshot now = .ok (records, next))
    (later : Int) :
    ∃ otherRecords otherNext,
      other.applyManifestSnapshot codec manifest snapshot later =
        .ok (otherRecords, otherNext) ∧
      otherNext.log.WellFormed ∧ otherNext.log.contents = next.log.contents := by
  cases snapshot with
  | none =>
      obtain ⟨-, rfl⟩ := ok_pair_inj h
      exact ⟨[], other, rfl, otherWf, same⟩
  | some verified =>
      obtain ⟨⟨changes, applied⟩, snapshotApplied, h⟩ := bind_eq_ok_iff.mp h
      obtain ⟨rfl, rfl⟩ := ok_pair_inj h
      unfold applySettingsSnapshot at snapshotApplied
      split at snapshotApplied
      · cases snapshotApplied
      · next supported =>
          obtain ⟨otherRecords, otherNext, otherApplied, nextWf, sameNext⟩ :=
            applyChanges_retimed wf otherWf same snapshotApplied later
          have snapshotAgain : other.applySettingsSnapshot codec verified.snapshot later =
              .ok (otherRecords, otherNext) := by
            rw [applySettingsSnapshot, if_neg supported]
            exact otherApplied
          refine ⟨otherRecords, _, bind_eq_ok_iff.mpr ⟨_, snapshotAgain, rfl⟩, nextWf, sameNext⟩

/-- A manifest that is applied at one time is applied at any other. -/
theorem applyVerifiedSettingsManifest_retimed {other : SlateProfileDatabase}
    {objects : VerifiedProfileSyncSettingsManifestObjects} {now : Int}
    {application : ProfileSyncSettingsManifestApplication} (wf : db.log.WellFormed)
    (otherWf : other.log.WellFormed) (same : other.log.contents = db.log.contents)
    (h : db.applyVerifiedSettingsManifest codec objects now = .ok (application, next))
    (later : Int) :
    ∃ otherApplication otherNext,
      other.applyVerifiedSettingsManifest codec objects later =
        .ok (otherApplication, otherNext) ∧
      otherNext.log.WellFormed ∧ otherNext.log.contents = next.log.contents := by
  obtain ⟨valid, _, afterSnapshot, _, afterTail, snapshotApplied, tailApplied, rootSet⟩ :=
    applyVerifiedSettingsManifest_eq_ok h
  obtain ⟨records, otherSnapshot, snapshotAgain, snapshotWf, sameSnapshot⟩ :=
    applyManifestSnapshot_retimed wf otherWf same snapshotApplied later
  obtain ⟨tailRecords, otherTail, tailAgain, tailWf, sameTail⟩ := applyChanges_retimed
    ((applyManifestSnapshot_run snapshotApplied).wellFormed wf) snapshotWf sameSnapshot tailApplied
    later
  obtain ⟨nonempty, rfl⟩ := setProfileSyncRoot_eq_ok rootSet
  have rootAgain : ∃ final, otherTail.setProfileSyncRoot objects.manifest.profile
      objects.manifest.rootId objects.manifestObjectId later = .ok ((), final) ∧
        final.log = otherTail.log := by
    rw [setProfileSyncRoot, if_neg nonempty]
    exact ⟨_, rfl, rfl⟩
  obtain ⟨final, rootAgain, sameLog⟩ := rootAgain
  obtain ⟨otherApplication, applied⟩ :=
    applyVerifiedSettingsManifest_of_stages valid snapshotAgain tailAgain rootAgain
  refine ⟨otherApplication, final, applied, sameLog ▸ tailWf, ?_⟩
  rw [sameLog, sameTail]
  rfl

end Retimed

section Scope

/-- A database after a pull that wrote rows of one profile and, among the rows of
`sync_state`, one root. -/
structure WithinScope (profile rootId : String) (db next : SlateProfileDatabase) : Prop where
  control : SameControl db next
  rows : SameRowsOutside profile db next
  syncState :
    next.syncState.filter (fun row => stateKey row != (profile, profileSyncRootKey rootId)) =
      db.syncState.filter fun row => stateKey row != (profile, profileSyncRootKey rootId)

theorem WithinScope.refl (profile rootId : String) (db : SlateProfileDatabase) :
    WithinScope profile rootId db db :=
  ⟨.refl db, .refl profile db, rfl⟩

theorem WithinScope.trans {profile rootId : String} {first second third : SlateProfileDatabase}
    (before : WithinScope profile rootId first second)
    (after : WithinScope profile rootId second third) : WithinScope profile rootId first third :=
  ⟨before.control.trans after.control, before.rows.trans after.rows,
    after.syncState.trans before.syncState⟩

theorem withinScope_setProfileSyncRoot {profile rootId objectId : String} {now : Int}
    (h : db.setProfileSyncRoot profile rootId objectId now = .ok ((), next)) :
    WithinScope profile rootId db next := by
  rw [(setProfileSyncRoot_eq_ok h).2]
  refine ⟨⟨rfl, rfl, rfl, rfl, rfl⟩,
    ⟨fun _ => rfl, rfl, fun _ => rfl, rfl, rfl, rfl, rfl, rfl⟩, ?_⟩
  apply Rows.filter_upsert_of_dropped
  · simp [stateKey]
  · intro existing same
    have sameKey : stateKey existing = (profile, profileSyncRootKey rootId) := same
    have merged : stateKey ⟨existing.profile, existing.key, objectId, now⟩ = stateKey existing :=
      rfl
    simp only [merged, sameKey, bne_self_eq_false, and_self]

/-- A manifest application writes what the manifest names. -/
theorem withinScope_applyVerifiedSettingsManifest
    {objects : VerifiedProfileSyncSettingsManifestObjects} {now : Int}
    {application : ProfileSyncSettingsManifestApplication}
    (h : db.applyVerifiedSettingsManifest codec objects now = .ok (application, next)) :
    WithinScope objects.manifest.profile objects.manifest.rootId db next := by
  obtain ⟨applied, confined, rootSet⟩ := applyVerifiedSettingsManifest_confined h
  have first : WithinScope objects.manifest.profile objects.manifest.rootId db applied :=
    ⟨confined.control, confined.rows, by rw [confined.syncState]⟩
  exact first.trans (withinScope_setProfileSyncRoot rootSet)

/-- The row of a root is stamped with the time of its last write. -/
def RootStamped (profile rootId : String) (now : Int) (db : SlateProfileDatabase) : Prop :=
  ∃ row ∈ db.syncState, stateKey row = (profile, profileSyncRootKey rootId) ∧
    row.updatedAt = now

theorem rootStamped_setProfileSyncRoot {profile rootId objectId : String} {now : Int}
    (h : db.setProfileSyncRoot profile rootId objectId now = .ok ((), next)) :
    RootStamped profile rootId now next := by
  rw [(setProfileSyncRoot_eq_ok h).2]
  let row : SyncStateRow := ⟨profile, profileSyncRootKey rootId, objectId, now⟩
  obtain ⟨found, membership, sameKey, stamped⟩ : ∃ found ∈ Rows.upsert stateKey
      (fun existing excluded : SyncStateRow =>
        { existing with value := excluded.value, updatedAt := excluded.updatedAt })
      row db.syncState, stateKey found = stateKey row ∧ found.updatedAt = now := by
    induction db.syncState with
    | nil => exact ⟨row, List.mem_singleton.mpr rfl, rfl, rfl⟩
    | cons head rest inductionHypothesis =>
        by_cases same : stateKey head = stateKey row
        · rw [Rows.upsert, if_pos same]
          exact ⟨_, List.mem_cons_self .., same, rfl⟩
        · rw [Rows.upsert, if_neg same]
          obtain ⟨found, membership, sameKey, stamped⟩ := inductionHypothesis
          exact ⟨found, List.mem_cons_of_mem _ membership, sameKey, stamped⟩
  exact ⟨found, membership, sameKey, stamped⟩

theorem RootStamped.setProfileSyncRoot {profile rootId other otherRoot objectId : String}
    {now : Int} (stamped : RootStamped profile rootId now db)
    (h : db.setProfileSyncRoot other otherRoot objectId now = .ok ((), next)) :
    RootStamped profile rootId now next := by
  by_cases same : (other, profileSyncRootKey otherRoot) = (profile, profileSyncRootKey rootId)
  · obtain ⟨found, membership, sameKey, isNow⟩ := rootStamped_setProfileSyncRoot h
    exact ⟨found, membership, sameKey.trans same, isNow⟩
  · obtain ⟨row, membership, sameKey, isNow⟩ := stamped
    have kept := (withinScope_setProfileSyncRoot h).syncState
    have different : (stateKey row != (other, profileSyncRootKey otherRoot)) = true := by
      simp only [sameKey, bne_iff_ne]
      exact fun found => same found.symm
    have found : row ∈ next.syncState.filter fun row =>
        stateKey row != (other, profileSyncRootKey otherRoot) := by
      rw [kept]
      exact List.mem_filter.mpr ⟨membership, different⟩
    exact ⟨row, (List.mem_filter.mp found).1, sameKey, isNow⟩

/-- The root of every manifest of a batch is stamped. -/
theorem rootStamped_applyManifests {batch : List VerifiedProfileSyncSettingsManifestObjects}
    {now : Int} {applications : List ProfileSyncSettingsManifestApplication}
    (h : forEach (fun objects => applyVerifiedSettingsManifest codec objects now) batch db =
      .ok (applications, next)) :
    (∀ profile rootId, RootStamped profile rootId now db →
      RootStamped profile rootId now next) ∧
    ∀ objects ∈ batch,
      RootStamped objects.manifest.profile objects.manifest.rootId now next := by
  induction batch generalizing db applications with
  | nil =>
      obtain ⟨-, rfl⟩ := ok_pair_inj h
      exact ⟨fun _ _ stamped => stamped, by simp⟩
  | cons objects rest inductionHypothesis =>
      obtain ⟨application, middle, others, applied, appliedRest, -⟩ := forEach_cons_eq_ok_iff.mp h
      obtain ⟨stays, restStamped⟩ := inductionHypothesis appliedRest
      obtain ⟨confinedTo, confined, rootSet⟩ := applyVerifiedSettingsManifest_confined applied
      constructor
      · intro profile rootId stamped
        apply stays
        refine RootStamped.setProfileSyncRoot ?_ rootSet
        rwa [RootStamped, confined.syncState]
      · intro found membership
        rcases List.mem_cons.mp membership with rfl | older
        · exact stays _ _ (rootStamped_setProfileSyncRoot rootSet)
        · exact restStamped found older

theorem withinScope_applyManifests {profile rootId : String}
    {batch : List VerifiedProfileSyncSettingsManifestObjects} {now : Int}
    {applications : List ProfileSyncSettingsManifestApplication}
    (tied : ∀ objects ∈ batch, objects.manifest.profile = profile ∧
      objects.manifest.rootId = rootId)
    (h : forEach (fun objects => applyVerifiedSettingsManifest codec objects now) batch db =
      .ok (applications, next)) : WithinScope profile rootId db next := by
  induction batch generalizing db applications with
  | nil =>
      obtain ⟨-, rfl⟩ := ok_pair_inj h
      exact .refl profile rootId _
  | cons objects rest inductionHypothesis =>
      obtain ⟨application, middle, others, applied, appliedRest, -⟩ := forEach_cons_eq_ok_iff.mp h
      obtain ⟨rfl, rfl⟩ := tied objects (List.mem_cons_self ..)
      refine (withinScope_applyVerifiedSettingsManifest applied).trans
        (inductionHypothesis ?_ appliedRest)
      intro found membership
      exact tied found (List.mem_cons_of_mem _ membership)

theorem applyManifests_retimed {other : SlateProfileDatabase}
    {batch : List VerifiedProfileSyncSettingsManifestObjects} {now : Int}
    {applications : List ProfileSyncSettingsManifestApplication} (wf : db.log.WellFormed)
    (otherWf : other.log.WellFormed) (same : other.log.contents = db.log.contents)
    (h : forEach (fun objects => applyVerifiedSettingsManifest codec objects now) batch db =
      .ok (applications, next)) (later : Int) :
    ∃ otherApplications otherNext,
      forEach (fun objects => applyVerifiedSettingsManifest codec objects later) batch other =
        .ok (otherApplications, otherNext) := by
  induction batch generalizing db other applications with
  | nil => exact ⟨[], other, rfl⟩
  | cons objects rest inductionHypothesis =>
      obtain ⟨application, middle, others, applied, appliedRest, -⟩ := forEach_cons_eq_ok_iff.mp h
      obtain ⟨_, otherMiddle, otherApplied, middleWf, sameMiddle⟩ :=
        applyVerifiedSettingsManifest_retimed wf otherWf same applied later
      obtain ⟨_, otherNext, otherRest⟩ := inductionHypothesis
        ((applyVerifiedSettingsManifest_run applied).wellFormed wf) middleWf sameMiddle appliedRest
      exact ⟨_, otherNext, forEach_cons_eq_ok_iff.mpr ⟨_, _, _, otherApplied, otherRest, rfl⟩⟩

/-- A batch stays in scope at every time exactly if each of its manifests names the scope. -/
theorem withinScope_applyManifests_iff {profile rootId : String}
    {batch : List VerifiedProfileSyncSettingsManifestObjects} {now : Int}
    {applications : List ProfileSyncSettingsManifestApplication} (wf : db.log.WellFormed)
    (h : forEach (fun objects => applyVerifiedSettingsManifest codec objects now) batch db =
      .ok (applications, next)) :
    (∀ later afterwards applied,
      forEach (fun objects => applyVerifiedSettingsManifest codec objects later) batch db =
        .ok (applied, afterwards) → WithinScope profile rootId db afterwards) ↔
      ∀ objects ∈ batch, objects.manifest.profile = profile ∧
        objects.manifest.rootId = rootId := by
  constructor
  · intro inScope objects membership
    by_contra untied
    -- A time at which no row was written yet, so that a stamped row is a new one.
    obtain ⟨later, unused⟩ : ∃ later, ∀ row ∈ db.syncState, row.updatedAt ≠ later := by
      obtain ⟨later, unused⟩ :=
        Infinite.exists_notMem_finset (db.syncState.map (·.updatedAt)).toFinset
      refine ⟨later, fun row rowMem same => unused ?_⟩
      exact List.mem_toFinset.mpr (List.mem_map.mpr ⟨row, rowMem, same⟩)
    obtain ⟨applied, afterwards, again⟩ := applyManifests_retimed wf wf rfl h later
    obtain ⟨row, rowMem, sameKey, stamped⟩ := (rootStamped_applyManifests again).2 objects membership
    have outside : (stateKey row != (profile, profileSyncRootKey rootId)) = true := by
      simp only [sameKey, bne_iff_ne]
      intro found
      exact untied ⟨congrArg Prod.fst found,
        profileSyncRootKey_injective (congrArg Prod.snd found)⟩
    have kept := (inScope later afterwards applied again).syncState
    have old : row ∈ db.syncState.filter fun row =>
        stateKey row != (profile, profileSyncRootKey rootId) := by
      rw [← kept]
      exact List.mem_filter.mpr ⟨rowMem, outside⟩
    exact unused row (List.mem_filter.mp old).1 stamped
  · intro tied later afterwards applied again
    exact withinScope_applyManifests tied again

end Scope

section Pulls

variable {scheme : SyncObjectScheme} {SourceError : Type}

/-- The ways to pull and apply the settings root. -/
inductive SettingsPull where
  | trusted (keyId : String)
  | active
  | activeIfChanged
  | candidates (keyId : String)
  | activeCandidatesIfChanged
deriving DecidableEq, Repr

/-- The value of a successful result. -/
def succeeded {ε α : Type} : Except ε α → Option α
  | .ok value => some value
  | .error _ => none

theorem succeeded_eq_some_iff {ε α : Type} {result : Except ε α} {value : α} :
    succeeded result = some value ↔ result = .ok value := by
  cases result <;> simp [succeeded]

/-- The database after a pull that succeeded. -/
def SettingsPull.run (codec : SyncPayloadCodec) (scheme : SyncObjectScheme)
    (source : ProfileSyncObjectSource SourceError) (profile rootId : String)
    (contentKey : List Nat) (now : Int) (db : SlateProfileDatabase) :
    SettingsPull → Option SlateProfileDatabase
  | trusted keyId => (succeeded (db.pullAndApplyTrustedSignedSettingsManifestObjects codec scheme
      source profile rootId contentKey keyId now)).map (·.2)
  | active => (succeeded (db.pullAndApplyActiveTrustedSignedSettingsManifestObjects codec scheme
      source profile rootId contentKey now)).map (·.2)
  | activeIfChanged =>
      (succeeded (db.pullAndApplyActiveTrustedSignedSettingsManifestObjectsIfChanged codec scheme
        source profile rootId contentKey now)).map (·.2)
  | candidates keyId =>
      let pulled := db.pullAndApplyTrustedSignedProfileSyncSettingsManifestCandidates codec scheme
        source profile rootId contentKey keyId now
      (succeeded pulled.1).map fun _ => pulled.2
  | activeCandidatesIfChanged =>
      let pulled := db.pullAndApplyActiveTrustedSignedSettingsManifestCandidatesIfChanged codec
        scheme source profile rootId contentKey now
      (succeeded pulled.1).map fun _ => pulled.2

/-- The manifests that the active pull opens. -/
def activeManifests (scheme : SyncObjectScheme) (source : ProfileSyncObjectSource SourceError)
    (profile rootId : String) (contentKey : List Nat) (db : SlateProfileDatabase) :
    Option (List VerifiedProfileSyncSettingsManifestObjects) := do
  let key ← succeeded (db.activePullKey profile)
  match ← succeeded (db.pullTrustedSignedProfileSyncSettingsManifestObjects scheme source profile
      rootId contentKey key.keyId) with
  | none => some []
  | some objects =>
      succeeded (validateSyncContentKeyEpochForManifest key objects.manifest)
      some [objects]

/-- The manifests a pull finds in the source and goes on to apply, in that order. -/
def SettingsPull.manifests (scheme : SyncObjectScheme)
    (source : ProfileSyncObjectSource SourceError) (profile rootId : String)
    (contentKey : List Nat) (db : SlateProfileDatabase) :
    SettingsPull → Option (List VerifiedProfileSyncSettingsManifestObjects)
  | trusted keyId => (succeeded (db.pullTrustedSignedProfileSyncSettingsManifestObjects scheme
      source profile rootId contentKey keyId)).map Option.toList
  | active => db.activeManifests scheme source profile rootId contentKey
  | activeIfChanged => do
      match ← succeeded (source.resolveProfileSyncRoot profile rootId) with
      | none => some []
      | some publishedObjectId =>
          let localRoot ← succeeded (db.profileSyncRoot profile rootId)
          if localRoot = some publishedObjectId then some []
          else db.activeManifests scheme source profile rootId contentKey
  | candidates keyId =>
      (succeeded (db.pullTrustedSignedProfileSyncSettingsManifestCandidates scheme source profile
        rootId contentKey keyId)).map fun found => (orderedCandidates found).map (·.objects)
  | activeCandidatesIfChanged => do
      match ← succeeded (db.planActiveCandidates scheme source profile rootId contentKey) with
      | .inl _ => some []
      | .inr found => some ((orderedCandidates found).map (·.objects))

/-- Applying candidates is applying their manifests one after the other. -/
theorem applyCandidates_eq_ok_iff
    {found : List VerifiedProfileSyncSettingsManifestCandidate} {now : Int} :
    (∃ applications, applyCandidates codec now found db = (.ok applications, next)) ↔
      ∃ applied, forEach (fun objects => applyVerifiedSettingsManifest codec objects now)
        (found.map (·.objects)) db = .ok (applied, next) := by
  induction found generalizing db with
  | nil =>
      constructor
      · rintro ⟨applications, h⟩
        obtain ⟨-, rfl⟩ := Prod.mk.inj h
        exact ⟨[], rfl⟩
      · rintro ⟨applied, h⟩
        obtain ⟨-, rfl⟩ := ok_pair_inj h
        exact ⟨[], rfl⟩
  | cons candidate rest inductionHypothesis =>
      rw [List.map_cons]
      simp only [applyCandidates, forEach_cons_eq_ok_iff]
      cases first : db.applyVerifiedSettingsManifest codec candidate.objects now with
      | error failure => simp
      | ok found =>
          obtain ⟨application, middle⟩ := found
          constructor
          · rintro ⟨applications, h⟩
            cases applied : applyCandidates codec now rest middle with
            | mk result final =>
                cases result with
                | error failure => simp [applied] at h
                | ok others =>
                    simp only [applied, Prod.mk.injEq] at h
                    rw [h.2] at applied
                    obtain ⟨records, again⟩ := inductionHypothesis.mp ⟨_, applied⟩
                    exact ⟨_, _, _, _, rfl, again, rfl⟩
          · rintro ⟨_, value, following, others, same, appliedRest, -⟩
            obtain ⟨rfl, rfl⟩ := ok_pair_inj same
            obtain ⟨applications, again⟩ := inductionHypothesis.mpr ⟨others, appliedRest⟩
            simp only [again]
            exact ⟨_, rfl⟩

/-- One manifest is a batch of one. -/
theorem applyManifests_singleton {objects : VerifiedProfileSyncSettingsManifestObjects}
    {now : Int} :
    (∃ applied, forEach (fun objects => applyVerifiedSettingsManifest codec objects now)
        [objects] db = .ok (applied, next)) ↔
      ∃ application, db.applyVerifiedSettingsManifest codec objects now =
        .ok (application, next) := by
  constructor
  · rintro ⟨applied, h⟩
    obtain ⟨application, middle, others, first, rest, -⟩ := forEach_cons_eq_ok_iff.mp h
    obtain ⟨-, rfl⟩ := ok_pair_inj rest
    exact ⟨application, first⟩
  · rintro ⟨application, h⟩
    exact ⟨_, forEach_cons_eq_ok_iff.mpr ⟨_, _, _, h, rfl, rfl⟩⟩

theorem applyManifests_nil {now : Int} :
    (∃ applied, forEach (fun objects => applyVerifiedSettingsManifest codec objects now)
        [] db = .ok (applied, next)) ↔ db = next := by
  constructor
  · rintro ⟨applied, h⟩
    exact (ok_pair_inj h).2
  · rintro rfl
    exact ⟨[], rfl⟩

theorem map_snd_succeeded_eq_some_iff {ε α : Type}
    {result : Except ε (α × SlateProfileDatabase)} :
    (succeeded result).map (·.2) = some next ↔ ∃ value, result = .ok (value, next) := by
  cases result with
  | error failure => simp [succeeded]
  | ok found =>
      obtain ⟨value, final⟩ := found
      simp [succeeded]

variable (source : ProfileSyncObjectSource SourceError) (profile rootId : String)
  (contentKey : List Nat) (now : Int)

theorem run_trusted_eq_some_iff (keyId : String) :
    (SettingsPull.trusted keyId).run codec scheme source profile rootId contentKey now db =
        some next ↔
      ∃ batch, (SettingsPull.trusted keyId).manifests scheme source profile rootId contentKey db =
          some batch ∧
        ∃ applied, forEach (fun objects => applyVerifiedSettingsManifest codec objects now)
          batch db = .ok (applied, next) := by
  rw [SettingsPull.run, map_snd_succeeded_eq_some_iff]
  simp only [SettingsPull.manifests, pullAndApplyTrustedSignedSettingsManifestObjects,
    bind_eq_ok_iff, mapError_eq_ok_iff, Option.map_eq_some_iff, succeeded_eq_some_iff]
  constructor
  · rintro ⟨status, found, pulled, h⟩
    refine ⟨_, ⟨found, pulled, rfl⟩, ?_⟩
    cases found with
    | none => exact applyManifests_nil.mpr (ok_pair_inj h).2
    | some objects =>
        obtain ⟨⟨application, final⟩, applied, h⟩ := bind_eq_ok_iff.mp h
        rw [← (ok_pair_inj h).2]
        exact applyManifests_singleton.mpr ⟨application, mapError_eq_ok_iff.mp applied⟩
  · rintro ⟨_, ⟨found, pulled, rfl⟩, applied⟩
    cases found with
    | none =>
        obtain rfl := applyManifests_nil.mp applied
        exact ⟨none, none, pulled, rfl⟩
    | some objects =>
        obtain ⟨application, applied⟩ := applyManifests_singleton.mp applied
        exact ⟨some application, some objects, pulled,
          bind_eq_ok_iff.mpr ⟨_, mapError_eq_ok_iff.mpr applied, rfl⟩⟩

theorem pullAndApplyActive_eq_ok_iff :
    (∃ status, db.pullAndApplyActiveTrustedSignedSettingsManifestObjects codec scheme source
        profile rootId contentKey now = .ok (status, next)) ↔
      ∃ batch, db.activeManifests scheme source profile rootId contentKey = some batch ∧
        ∃ applied, forEach (fun objects => applyVerifiedSettingsManifest codec objects now)
          batch db = .ok (applied, next) := by
  simp only [activeManifests, pullAndApplyActiveTrustedSignedSettingsManifestObjects,
    bind_eq_ok_iff, mapError_eq_ok_iff, Option.bind_eq_bind, Option.bind_eq_some_iff,
    succeeded_eq_some_iff]
  constructor
  · rintro ⟨status, key, isKey, found, pulled, h⟩
    cases found with
    | none =>
        exact ⟨[], ⟨key, isKey, none, pulled, rfl⟩, applyManifests_nil.mpr (ok_pair_inj h).2⟩
    | some objects =>
        obtain ⟨_, valid, h⟩ := bind_eq_ok_iff.mp h
        obtain ⟨⟨application, final⟩, applied, h⟩ := bind_eq_ok_iff.mp h
        rw [← (ok_pair_inj h).2]
        refine ⟨[objects], ⟨key, isKey, some objects, pulled, ?_⟩,
          applyManifests_singleton.mpr ⟨application, mapError_eq_ok_iff.mp applied⟩⟩
        simp only [mapError_eq_ok_iff.mp valid, succeeded, Option.bind_some]
  · rintro ⟨batch, ⟨key, isKey, found, pulled, isBatch⟩, applied⟩
    cases found with
    | none =>
        obtain rfl := Option.some.inj isBatch
        obtain rfl := applyManifests_nil.mp applied
        exact ⟨none, key, isKey, none, pulled, rfl⟩
    | some objects =>
        obtain ⟨_, valid, isBatch⟩ := Option.bind_eq_some_iff.mp isBatch
        obtain rfl := Option.some.inj isBatch
        obtain ⟨application, applied⟩ := applyManifests_singleton.mp applied
        refine ⟨some application, key, isKey, some objects, pulled, ?_⟩
        refine bind_eq_ok_iff.mpr
          ⟨(), mapError_eq_ok_iff.mpr (succeeded_eq_some_iff.mp valid), ?_⟩
        exact bind_eq_ok_iff.mpr ⟨_, mapError_eq_ok_iff.mpr applied, rfl⟩

theorem run_activeIfChanged_eq_some_iff :
    SettingsPull.activeIfChanged.run codec scheme source profile rootId contentKey now db =
        some next ↔
      ∃ batch, SettingsPull.activeIfChanged.manifests scheme source profile rootId contentKey db =
          some batch ∧
        ∃ applied, forEach (fun objects => applyVerifiedSettingsManifest codec objects now)
          batch db = .ok (applied, next) := by
  rw [SettingsPull.run, map_snd_succeeded_eq_some_iff]
  simp only [SettingsPull.manifests,
    pullAndApplyActiveTrustedSignedSettingsManifestObjectsIfChanged, bind_eq_ok_iff,
    mapError_eq_ok_iff, Option.bind_eq_bind, Option.bind_eq_some_iff, succeeded_eq_some_iff]
  constructor
  · rintro ⟨status, published, resolved, h⟩
    cases published with
    | none => exact ⟨[], ⟨none, resolved, rfl⟩, applyManifests_nil.mpr (ok_pair_inj h).2⟩
    | some objectId =>
        obtain ⟨localRoot, isLocal, h⟩ := bind_eq_ok_iff.mp h
        have isLocal := mapError_eq_ok_iff.mp isLocal
        split at h
        next current =>
          refine ⟨[], ⟨some objectId, resolved, ?_⟩, applyManifests_nil.mpr (ok_pair_inj h).2⟩
          simp only [isLocal, succeeded, Option.bind_some, if_pos current]
        next changed =>
          obtain ⟨⟨found, final⟩, pulled, h⟩ := bind_eq_ok_iff.mp h
          have same : final = next := by
            cases found <;> exact (ok_pair_inj h).2
          rw [← same]
          obtain ⟨batch, isBatch, applied⟩ :=
            (pullAndApplyActive_eq_ok_iff source profile rootId contentKey now).mp ⟨_, pulled⟩
          refine ⟨batch, ⟨some objectId, resolved, ?_⟩, applied⟩
          simp only [isLocal, succeeded, Option.bind_some, if_neg changed, isBatch]
  · rintro ⟨batch, ⟨published, resolved, isBatch⟩, applied⟩
    cases published with
    | none =>
        obtain rfl := Option.some.inj isBatch
        obtain rfl := applyManifests_nil.mp applied
        exact ⟨_, none, resolved, rfl⟩
    | some objectId =>
        obtain ⟨localRoot, isLocal, isBatch⟩ := Option.bind_eq_some_iff.mp isBatch
        have isLocal := succeeded_eq_some_iff.mp isLocal
        split at isBatch
        next current =>
          obtain rfl := Option.some.inj isBatch
          obtain rfl := applyManifests_nil.mp applied
          refine ⟨.unchanged profile rootId objectId, some objectId, resolved, ?_⟩
          refine bind_eq_ok_iff.mpr ⟨localRoot, mapError_eq_ok_iff.mpr isLocal, ?_⟩
          rw [if_pos current]
          rfl
        next changed =>
          obtain ⟨found, pulled⟩ :=
            (pullAndApplyActive_eq_ok_iff source profile rootId contentKey now).mpr
              ⟨batch, isBatch, applied⟩
          cases found with
          | none =>
              refine ⟨.noPublishedRoot profile rootId, some objectId, resolved, ?_⟩
              refine bind_eq_ok_iff.mpr ⟨localRoot, mapError_eq_ok_iff.mpr isLocal, ?_⟩
              rw [if_neg changed]
              exact bind_eq_ok_iff.mpr ⟨_, pulled, rfl⟩
          | some application =>
              refine ⟨.applied application, some objectId, resolved, ?_⟩
              refine bind_eq_ok_iff.mpr ⟨localRoot, mapError_eq_ok_iff.mpr isLocal, ?_⟩
              rw [if_neg changed]
              exact bind_eq_ok_iff.mpr ⟨_, pulled, rfl⟩

theorem run_candidates_eq_some_iff (keyId : String) :
    (SettingsPull.candidates keyId).run codec scheme source profile rootId contentKey now db =
        some next ↔
      ∃ batch, (SettingsPull.candidates keyId).manifests scheme source profile rootId contentKey
          db = some batch ∧
        ∃ applied, forEach (fun objects => applyVerifiedSettingsManifest codec objects now)
          batch db = .ok (applied, next) := by
  simp only [SettingsPull.run, SettingsPull.manifests,
    pullAndApplyTrustedSignedProfileSyncSettingsManifestCandidates,
    applyVerifiedSettingsManifestCandidates]
  cases db.pullTrustedSignedProfileSyncSettingsManifestCandidates scheme source profile rootId
      contentKey keyId with
  | error failure => simp [succeeded]
  | ok found =>
      simp only [succeeded, Option.map_some, Option.some.injEq, exists_eq_left',
        ← applyCandidates_eq_ok_iff]
      cases applyCandidates codec now (orderedCandidates found) db with
      | mk result final =>
          cases result <;> simp

theorem run_activeCandidatesIfChanged_eq_some_iff :
    SettingsPull.activeCandidatesIfChanged.run codec scheme source profile rootId contentKey now
        db = some next ↔
      ∃ batch, SettingsPull.activeCandidatesIfChanged.manifests scheme source profile rootId
          contentKey db = some batch ∧
        ∃ applied, forEach (fun objects => applyVerifiedSettingsManifest codec objects now)
          batch db = .ok (applied, next) := by
  simp only [SettingsPull.run, SettingsPull.manifests,
    pullAndApplyActiveTrustedSignedSettingsManifestCandidatesIfChanged,
    applyVerifiedSettingsManifestCandidates]
  cases db.planActiveCandidates scheme source profile rootId contentKey with
  | error failure => simp [succeeded]
  | ok plan =>
      cases plan with
      | inl status =>
          simp only [succeeded, Option.map_some, Option.some.injEq, Option.bind_eq_bind,
            Option.bind_some, exists_eq_left', applyManifests_nil]
      | inr found =>
          simp only [succeeded, Option.bind_eq_bind, Option.bind_some, Option.some.injEq,
            exists_eq_left', ← applyCandidates_eq_ok_iff]
          cases applyCandidates codec now (orderedCandidates found) db with
          | mk result final =>
              cases result <;> simp

/-- A pull succeeds when it opens its manifests and applies them one after the other. -/
theorem SettingsPull.run_eq_some_iff (pull : SettingsPull) :
    pull.run codec scheme source profile rootId contentKey now db = some next ↔
      ∃ batch, pull.manifests scheme source profile rootId contentKey db = some batch ∧
        ∃ applied, forEach (fun objects => applyVerifiedSettingsManifest codec objects now)
          batch db = .ok (applied, next) := by
  cases pull with
  | trusted keyId => exact run_trusted_eq_some_iff source profile rootId contentKey now keyId
  | active =>
      rw [SettingsPull.run, map_snd_succeeded_eq_some_iff]
      exact pullAndApplyActive_eq_ok_iff source profile rootId contentKey now
  | activeIfChanged => exact run_activeIfChanged_eq_some_iff source profile rootId contentKey now
  | candidates keyId =>
      exact run_candidates_eq_some_iff source profile rootId contentKey now keyId
  | activeCandidatesIfChanged =>
      exact run_activeCandidatesIfChanged_eq_some_iff source profile rootId contentKey now

/-- A pull stays in its scope, whenever it runs, exactly if every manifest it opens and
applies names the profile and the root id that the pull was asked for. -/
theorem pull_within_scope_iff (pull : SettingsPull) (reachable : Reachable codec db)
    {batch : List VerifiedProfileSyncSettingsManifestObjects}
    (opened : pull.manifests scheme source profile rootId contentKey db = some batch)
    (applied : pull.run codec scheme source profile rootId contentKey now db = some next) :
    (∀ later afterwards,
      pull.run codec scheme source profile rootId contentKey later db = some afterwards →
        WithinScope profile rootId db afterwards) ↔
      ∀ objects ∈ batch, objects.manifest.profile = profile ∧
        objects.manifest.rootId = rootId := by
  obtain ⟨_, sameBatch, _, isApplied⟩ :=
    (pull.run_eq_some_iff source profile rootId contentKey now).mp applied
  rw [opened] at sameBatch
  obtain rfl := Option.some.inj sameBatch
  rw [← withinScope_applyManifests_iff reachable.wellFormed isApplied]
  constructor
  · intro inScope later afterwards records again
    apply inScope later
    exact (pull.run_eq_some_iff source profile rootId contentKey later).mpr
      ⟨batch, opened, records, again⟩
  · intro inScope later afterwards again
    obtain ⟨_, sameBatch, records, isApplied⟩ :=
      (pull.run_eq_some_iff source profile rootId contentKey later).mp again
    rw [opened] at sameBatch
    obtain rfl := Option.some.inj sameBatch
    exact inScope later afterwards records isApplied

end Pulls

section Sample

def laptopSigner : ProfileSyncDeviceSigner where
  deviceId := "laptop"
  privateKey := [7]
  valid := isValidSyncIdentifier_laptop

/-- An object of the default profile, sealed and signed by the laptop. -/
def laptopObject (objectKind : String) (payload : List Nat) : List Nat :=
  plainScheme.signed.toBytes <| laptopSigner.sign plainScheme <|
    plainScheme.encrypted.toBytes <| EncryptedSyncObject.sealWithNonce plainScheme "default"
      syncDomainSettings objectKind "key-1" payload [42] (plainScheme.nonce 0)

/-- A source with one manifest and its snapshot, both with envelopes of the default profile
and payloads of the named one. -/
def laptopSource (payloadProfile : String) : ProfileSyncObjectSource String where
  resolveProfileSyncRoot _ _ := .ok (some "manifest-1")
  getProfileSyncObject _ objectId :=
    if objectId = "manifest-1" then
      .ok ⟨objectId, laptopObject profileSyncManifestObjectKind <| plainScheme.manifest.toBytes
        { profile := payloadProfile, rootId := "settings/latest"
          schemaVersion := profileSyncManifestSchemaVersion, membershipEpoch := 1
          currentSnapshotObjectId := some "snapshot-1", tailChangeObjectIds := []
          includedDomains := ["settings"], deviceFrontiers := [], retentionPolicy := {}
          createdAt := 1 }⟩
    else if objectId = "snapshot-1" then
      .ok ⟨objectId, laptopObject profileSyncSettingsSnapshotObjectKind <|
        plainScheme.snapshot.toBytes
          { profile := payloadProfile
            schemaVersion := profileSyncSettingsSnapshotSchemaVersion, coversRevision := 1
            includedDomains := ["settings"]
            values := [⟨"settings", "theme", "dark", "text", 1⟩], createdAt := 1 }⟩
    else .error "not found"

/-- A phone that trusts the laptop. -/
def phoneTrustingLaptop : SlateProfileDatabase :=
  { localSyncDeviceId := "phone"
    syncDevicePublicKeys := [⟨"default", ⟨"laptop", [7]⟩, 1, true, 1, 1⟩] }

theorem reachable_phoneTrustingLaptop : Reachable codec phoneTrustingLaptop :=
  ⟨"phone", .single (.otherTables rfl)⟩

set_option maxRecDepth 20000 in
/-- A pull of the default profile's root writes the theme and the root of another profile. -/
theorem pull_writes_other_profile :
    ∃ next, (SettingsPull.trusted "key-1").run plainTextCodec plainScheme (laptopSource "work")
        "default" "settings/latest" [42] 5 phoneTrustingLaptop = some next ∧
      (next.getSyncSettingText "work" "settings" "theme").map (·.value) = some "dark" ∧
      next.profileSyncRoot "work" "settings/latest" = .ok (some "manifest-1") ∧
      ¬ WithinScope "default" "settings/latest" phoneTrustingLaptop next := by
  refine ⟨_, rfl, rfl, rfl, ?_⟩
  intro inScope
  have sameValues := congrArg List.length inScope.rows.settingsValues
  exact absurd sameValues (by decide +kernel)

set_option maxRecDepth 20000 in
/-- The same pull stays in scope when the payloads are of the default profile. -/
theorem pull_within_scope_laptop :
    ∃ batch next,
      (SettingsPull.trusted "key-1").manifests plainScheme (laptopSource "default") "default"
        "settings/latest" [42] phoneTrustingLaptop = some batch ∧ batch ≠ [] ∧
      (SettingsPull.trusted "key-1").run plainTextCodec plainScheme (laptopSource "default")
        "default" "settings/latest" [42] 5 phoneTrustingLaptop = some next ∧
      WithinScope "default" "settings/latest" phoneTrustingLaptop next := by
  have pulled : ∃ batch next,
      (SettingsPull.trusted "key-1").manifests plainScheme (laptopSource "default") "default"
        "settings/latest" [42] phoneTrustingLaptop = some batch ∧ batch.length = 1 ∧
      (∀ objects ∈ batch, objects.manifest.profile = "default" ∧
        objects.manifest.rootId = "settings/latest") ∧
      (SettingsPull.trusted "key-1").run plainTextCodec plainScheme (laptopSource "default")
        "default" "settings/latest" [42] 5 phoneTrustingLaptop = some next :=
    ⟨_, _, rfl, rfl, by decide +kernel, rfl⟩
  obtain ⟨batch, next, opened, one, tied, applied⟩ := pulled
  have inScope := (pull_within_scope_iff (laptopSource "default") "default" "settings/latest" [42] 5
    (.trusted "key-1") reachable_phoneTrustingLaptop opened applied).mpr tied
  refine ⟨batch, next, opened, ?_, applied, inScope 5 next applied⟩
  intro empty
  rw [empty] at one
  cases one

end Sample

end SlateProfileDatabase

end Slate.Storage
