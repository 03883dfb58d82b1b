import Slate.Storage.PullScope

/-!
# Candidates that fail halfway

Candidates are applied in the order in which they were published, each in a transaction of its
own. The first one that fails ends the call, and the ones before it stay applied.
-/

namespace Slate.Storage

open Slate.Foundation

section Order

theorem candidateLe_total (left right : ProfileSyncRootCandidate) :
    candidateLe left right ∨ candidateLe right left := by
  unfold candidateLe
  rcases lt_trichotomy left.publishSequence right.publishSequence with earlier | same | later
  · exact .inl (.inl earlier)
  · rcases lt_trichotomy left.publisherId right.publisherId with before | equal | after
    · exact .inl (.inr ⟨same, .inl before⟩)
    · rcases le_total left.objectId right.objectId with le | ge
      · exact .inl (.inr ⟨same, .inr ⟨equal, le⟩⟩)
      · exact .inr (.inr ⟨same.symm, .inr ⟨equal.symm, ge⟩⟩)
    · exact .inr (.inr ⟨same.symm, .inl after⟩)
  · exact .inr (.inl later)

theorem candidateLe_trans {first second third : ProfileSyncRootCandidate}
    (before : candidateLe first second) (after : candidateLe second third) :
    candidateLe first third := by
  unfold candidateLe at *
  rcases before with earlier | ⟨same, publisher⟩
  · rcases after with later | ⟨equal, -⟩
    · exact .inl (earlier.trans later)
    · exact .inl (equal ▸ earlier)
  · rcases after with later | ⟨equal, nextPublisher⟩
    · exact .inl (same ▸ later)
    · refine .inr ⟨same.trans equal, ?_⟩
      rcases publisher with less | ⟨samePublisher, objects⟩
      · rcases nextPublisher with lessNext | ⟨equalNext, -⟩
        · exact .inl (less.trans lessNext)
        · exact .inl (equalNext ▸ less)
      · rcases nextPublisher with lessNext | ⟨equalNext, nextObjects⟩
        · exact .inl (samePublisher ▸ lessNext)
        · exact .inr ⟨samePublisher.trans equalNext, objects.trans nextObjects⟩

/-- In publication order. -/
def PublishedInOrder (candidates : List VerifiedProfileSyncSettingsManifestCandidate) : Prop :=
  candidates.Pairwise fun left right => candidateLe left.rootCandidate right.rootCandidate

theorem publishedInOrder_orderedCandidates
    (candidates : List VerifiedProfileSyncSettingsManifestCandidate) :
    PublishedInOrder (orderedCandidates candidates) := by
  let order (left right : VerifiedProfileSyncSettingsManifestCandidate) : Prop :=
    candidateLe left.rootCandidate right.rootCandidate
  haveI : Std.Total order := ⟨fun left right => candidateLe_total _ _⟩
  haveI : IsTrans _ order := ⟨fun _ _ _ before after => candidateLe_trans before after⟩
  exact List.pairwise_insertionSort order candidates

theorem orderedCandidates_eq_self {candidates : List VerifiedProfileSyncSettingsManifestCandidate}
    (ordered : PublishedInOrder candidates) : orderedCandidates candidates = candidates :=
  List.Pairwise.insertionSort_eq ordered

end Order

namespace SlateProfileDatabase

section Failures

variable {codec : SyncPayloadCodec} {db next : SlateProfileDatabase} {now : Int}
  {candidates : List VerifiedProfileSyncSettingsManifestCandidate} {error : StorageError}

/-- The call on `candidates` applied some of them, in publication order, and was refused at the
next one: `next` is what the applied ones alone leave. -/
structure StoppedAt (codec : SyncPayloadCodec) (now : Int)
    (candidates applied : List VerifiedProfileSyncSettingsManifestCandidate)
    (failing : VerifiedProfileSyncSettingsManifestCandidate)
    (rest : List VerifiedProfileSyncSettingsManifestCandidate) (error : StorageError)
    (db next : SlateProfileDatabase) : Prop where
  ordered : orderedCandidates candidates = applied ++ failing :: rest
  kept : ∃ applications, db.applyVerifiedSettingsManifestCandidates codec applied now =
    (.ok applications, next)
  refused : next.applyVerifiedSettingsManifest codec failing.objects now = .error error

theorem applyCandidates_eq_error_iff :
    applyCandidates codec now candidates db = (.error error, next) ↔
      ∃ applied failing rest, candidates = applied ++ failing :: rest ∧
        (∃ applications, applyCandidates codec now applied db = (.ok applications, next)) ∧
        next.applyVerifiedSettingsManifest codec failing.objects now = .error error := by
  induction candidates generalizing db with
  | nil => simp [applyCandidates]
  | cons candidate rest inductionHypothesis =>
      constructor
      · intro failed
        simp only [applyCandidates] at failed
        cases first : db.applyVerifiedSettingsManifest codec candidate.objects now with
        | error refusal =>
            simp only [first, Prod.mk.injEq, Except.error.injEq] at failed
            obtain ⟨rfl, rfl⟩ := failed
            exact ⟨[], candidate, rest, rfl, ⟨[], rfl⟩, first⟩
        | ok result =>
            obtain ⟨application, middle⟩ := result
            cases later : applyCandidates codec now rest middle with
            | mk outcome final =>
                cases outcome with
                | ok applications => simp [first, later] at failed
                | error refusal =>
                    simp only [first, later, Prod.mk.injEq, Except.error.injEq] at failed
                    obtain ⟨rfl, rfl⟩ := failed
                    obtain ⟨applied, failing, others, rfl, ⟨applications, kept⟩, refused⟩ :=
                      inductionHypothesis.mp later
                    refine ⟨candidate :: applied, failing, others, rfl, ?_, refused⟩
                    simp only [applyCandidates, first, kept]
                    exact ⟨_, rfl⟩
      · rintro ⟨applied, failing, others, split, ⟨applications, kept⟩, refused⟩
        cases applied with
        | nil =>
            obtain ⟨rfl, rfl⟩ := List.cons.inj split
            obtain ⟨-, rfl⟩ := Prod.mk.inj kept
            simp only [applyCandidates, refused]
        | cons first applied =>
            obtain ⟨rfl, rfl⟩ := List.cons.inj split
            simp only [applyCandidates] at kept ⊢
            cases applies : db.applyVerifiedSettingsManifest codec candidate.objects now with
            | error refusal => simp [applies] at kept
            | ok result =>
                obtain ⟨application, middle⟩ := result
                cases later : applyCandidates codec now applied middle with
                | mk outcome final =>
                    cases outcome with
                    | error refusal => simp [applies, later] at kept
                    | ok tail =>
                        simp only [applies, later, Prod.mk.injEq, Except.ok.injEq] at kept
                        obtain ⟨-, rfl⟩ := kept
                        have failed := inductionHypothesis.mpr
                          ⟨applied, failing, others, rfl, ⟨tail, later⟩, refused⟩
                        simp only [failed]

theorem applyVerifiedSettingsManifestCandidates_eq_error_iff :
    db.applyVerifiedSettingsManifestCandidates codec candidates now = (.error error, next) ↔
      ∃ applied failing rest,
        StoppedAt codec now candidates applied failing rest error db next := by
  rw [applyVerifiedSettingsManifestCandidates, applyCandidates_eq_error_iff]
  -- What was applied is the beginning of an ordered list, so applying it alone keeps its order.
  have sameOrder {applied rest : List VerifiedProfileSyncSettingsManifestCandidate}
      (split : orderedCandidates candidates = applied ++ rest) :
      orderedCandidates applied = applied := by
    have ordered := publishedInOrder_orderedCandidates candidates
    rw [split] at ordered
    exact orderedCandidates_eq_self (List.pairwise_append.mp ordered).1
  constructor
  · rintro ⟨applied, failing, rest, split, kept, refused⟩
    refine ⟨applied, failing, rest, split, ?_, refused⟩
    rwa [applyVerifiedSettingsManifestCandidates, sameOrder split]
  · rintro ⟨applied, failing, rest, stopped⟩
    refine ⟨applied, failing, rest, stopped.ordered, ?_, stopped.refused⟩
    have kept := stopped.kept
    rwa [applyVerifiedSettingsManifestCandidates, sameOrder stopped.ordered] at kept

variable {SourceError : Type}

/-- A call that fails leaves exactly what the candidates before the failing one, in publication
order, leave when they are applied alone. A pull fails before it writes, or like that. -/
theorem failed_candidates_keep_earlier_candidates (scheme : SyncObjectScheme)
    (source : ProfileSyncObjectSource SourceError) (profile rootId : String)
    (contentKey : List Nat) (pullError : ProfileSyncTrustedPullApplyError SourceError) :
    (db.applyVerifiedSettingsManifestCandidates codec candidates now = (.error error, next) ↔
      ∃ applied failing rest,
        StoppedAt codec now candidates applied failing rest error db next) ∧
    (db.pullAndApplyActiveTrustedSignedSettingsManifestCandidatesIfChanged codec scheme source
        profile rootId contentKey now = (.error pullError, next) ↔
      db.planActiveCandidates scheme source profile rootId contentKey = .error pullError ∧
          next = db ∨
        ∃ planned failure applied failing rest,
          db.planActiveCandidates scheme source profile rootId contentKey =
            .ok (.inr planned) ∧ pullError = .storage failure ∧
          StoppedAt codec now planned applied failing rest failure db next) := by
  refine ⟨applyVerifiedSettingsManifestCandidates_eq_error_iff, ?_⟩
  simp only [pullAndApplyActiveTrustedSignedSettingsManifestCandidatesIfChanged]
  cases db.planActiveCandidates scheme source profile rootId contentKey with
  | error refusal => simp [eq_comm]
  | ok plan =>
      cases plan with
      | inl status => simp
      | inr planned =>
          simp only [reduceCtorEq, false_and, false_or, Except.ok.injEq, Sum.inr.injEq,
            exists_eq_left', ← applyVerifiedSettingsManifestCandidates_eq_error_iff,
            exists_and_left]
          cases db.applyVerifiedSettingsManifestCandidates codec planned now with
          | mk outcome final =>
              cases outcome <;> simp [eq_comm]

end Failures

section Sample

/-- A candidate of the default profile with one change in its tail. -/
def tailCandidate (publishSequence : Nat) (domain key value deviceId : String) :
    VerifiedProfileSyncSettingsManifestCandidate where
  rootCandidate := { publisherId := deviceId, objectId := "manifest-" ++ deviceId, publishSequence }
  objects :=
    { manifestObjectId := "manifest-" ++ deviceId
      manifest :=
        { profile := "default", rootId := "settings/latest"
          schemaVersion := profileSyncManifestSchemaVersion, membershipEpoch := 1
          currentSnapshotObjectId := none, tailChangeObjectIds := ["tail-" ++ deviceId]
          includedDomains := [domain], deviceFrontiers := [], retentionPolicy := {}
          createdAt := 1 }
      snapshot := none
      tailChanges :=
        [{ objectId := "tail-" ++ deviceId
           change := { profile := "default", domain, key, value, deviceId, deviceSequence := 1
                       logicalClock := 1 } }] }

/-- The laptop's theme is applied before the desk's calendar event is refused. -/
theorem failed_candidates_write :
    ¬∀ (codec : SyncPayloadCodec) (db next : SlateProfileDatabase)
      (candidates : List VerifiedProfileSyncSettingsManifestCandidate) (now : Int)
      (error : StorageError),
      db.applyVerifiedSettingsManifestCandidates codec candidates now = (.error error, next) →
        next.settingsValues = db.settingsValues ∧ next.settingsChanges = db.settingsChanges ∧
          next.settingsSnapshots = db.settingsSnapshots ∧ next.syncState = db.syncState := by
  intro always
  have failed : ((applyVerifiedSettingsManifestCandidates plainTextCodec
      [tailCandidate 1 "settings" "theme" "dark" "laptop",
        tailCandidate 2 "calendar" "event.lunch" "not an event" "desk"] 10
      { localSyncDeviceId := "phone" }).1.toBool = false) := by
    decide +kernel
  have written : ((applyVerifiedSettingsManifestCandidates plainTextCodec
      [tailCandidate 1 "settings" "theme" "dark" "laptop",
        tailCandidate 2 "calendar" "event.lunch" "not an event" "desk"] 10
      { localSyncDeviceId := "phone" }).2.settingsChanges.length = 1) := by
    decide +kernel
  generalize result : applyVerifiedSettingsManifestCandidates plainTextCodec
    [tailCandidate 1 "settings" "theme" "dark" "laptop",
      tailCandidate 2 "calendar" "event.lunch" "not an event" "desk"] 10
    { localSyncDeviceId := "phone" } = found at failed written
  obtain ⟨outcome, next⟩ := found
  cases outcome with
  | ok applications => simp [Except.toBool] at failed
  | error refusal =>
      obtain ⟨-, unchanged, -⟩ := always _ _ _ _ _ _ result
      simp [unchanged] at written

end Sample

end SlateProfileDatabase

end Slate.Storage
