import Slate.Storage.Publication

/-!
# Pulling the settings root

A receiver resolves the settings root of a profile, or lists its candidates, opens each
manifest with trusted keys and applies it. The active variants take the content key id from
the database and refuse a manifest that is older than the key.
-/

namespace Slate.Storage

open Slate.Foundation

structure VerifiedProfileSyncSettingsManifestCandidate where
  rootCandidate : ProfileSyncRootCandidate
  objects : SlateProfileDatabase.VerifiedProfileSyncSettingsManifestObjects
deriving DecidableEq, Repr

structure ProfileSyncSettingsManifestCandidateApplication where
  rootCandidate : ProfileSyncRootCandidate
  application : SlateProfileDatabase.ProfileSyncSettingsManifestApplication
deriving DecidableEq, Repr

inductive ProfileSyncSettingsPullApplyStatus where
  | noPublishedRoot (profile rootId : String)
  | unchanged (profile rootId objectId : String)
  | applied (application : SlateProfileDatabase.ProfileSyncSettingsManifestApplication)
deriving DecidableEq, Repr

inductive ProfileSyncSettingsCandidatePullApplyStatus where
  | noPublishedRoot (profile rootId : String)
  | unchanged (profile rootId objectId : String)
  | applied (applications : List ProfileSyncSettingsManifestCandidateApplication)
deriving DecidableEq, Repr

section Candidates

/-- Candidates are ordered by sequence, then publisher, then object. -/
def candidateLe (left right : ProfileSyncRootCandidate) : Prop :=
  left.publishSequence < right.publishSequence ∨
    left.publishSequence = right.publishSequence ∧
      (left.publisherId < right.publisherId ∨
        left.publisherId = right.publisherId ∧ left.objectId ≤ right.objectId)

instance candidateLeDecidable : DecidableRel candidateLe := fun left right =>
  inferInstanceAs (Decidable
    (left.publishSequence < right.publishSequence ∨
      left.publishSequence = right.publishSequence ∧
        (left.publisherId < right.publisherId ∨
          left.publisherId = right.publisherId ∧ left.objectId ≤ right.objectId)))

def newestProfileSyncRootCandidate :
    List ProfileSyncRootCandidate → Option ProfileSyncRootCandidate
  | [] => none
  | first :: rest =>
      some (rest.foldl (fun newest next => if candidateLe newest next then next else newest)
        first)

def orderedCandidates (candidates : List VerifiedProfileSyncSettingsManifestCandidate) :
    List VerifiedProfileSyncSettingsManifestCandidate :=
  candidates.insertionSort fun left right => candidateLe left.rootCandidate right.rootCandidate

end Candidates

section ContentKeys

def validateActiveSyncContentKeyEpoch (key : SyncContentKeyEpochRecord) :
    Except StorageError Unit :=
  if key.algorithm ≠ profileSyncContentKeyAlgorithmChacha20Poly1305 then
    .error (.unsupportedSyncContentKeyAlgorithm key.keyId key.algorithm)
  else .ok ()

def validateSyncContentKeyEpochForManifest (key : SyncContentKeyEpochRecord)
    (manifest : ProfileSyncManifest) : Except StorageError Unit :=
  if manifest.membershipEpoch < key.membershipEpoch then
    .error (.unauthorizedSyncContentKeyEpoch manifest.profile key.keyId key.membershipEpoch
      manifest.membershipEpoch)
  else .ok ()

end ContentKeys

namespace SlateProfileDatabase

variable (codec : SyncPayloadCodec) (scheme : SyncObjectScheme) {SourceError : Type}

section Pull

/-- The active content key of a profile, of a supported algorithm. -/
def activePullKey (profile : String) (db : SlateProfileDatabase) :
    Except StorageError SyncContentKeyEpochRecord := do
  match db.activeSyncContentKeyEpoch profile with
  | none => throw (.missingActiveSyncContentKey profile)
  | some key =>
      validateActiveSyncContentKeyEpoch key
      pure key

def pullTrustedSignedProfileSyncSettingsManifestObjectsById
    (source : ProfileSyncObjectSource SourceError) (profile manifestObjectId : String)
    (contentKey : List Nat) (keyId : String) (db : SlateProfileDatabase) :
    Except (ProfileSyncTrustedPullError SourceError)
      VerifiedProfileSyncSettingsManifestObjects := do
  let manifestObject ← fetchTrustedProfileSyncObject source profile manifestObjectId
  let manifest ← (db.openTrustedSignedProfileSyncManifest scheme manifestObject.bytes contentKey
    profile keyId).mapError ProfileSyncTrustedPullError.open
  let snapshotObject ← manifest.currentSnapshotObjectId.mapM
    (fetchTrustedProfileSyncObject source profile)
  let tailChangeObjects ← manifest.tailChangeObjectIds.mapM
    (fetchTrustedProfileSyncObject source profile)
  (db.openTrustedSignedProfileSyncSettingsManifestObjects scheme manifestObject snapshotObject
    tailChangeObjects contentKey profile keyId).mapError ProfileSyncTrustedPullError.open

def pullTrustedSignedProfileSyncSettingsManifestObjects
    (source : ProfileSyncObjectSource SourceError) (profile rootId : String)
    (contentKey : List Nat) (keyId : String) (db : SlateProfileDatabase) :
    Except (ProfileSyncTrustedPullError SourceError)
      (Option VerifiedProfileSyncSettingsManifestObjects) := do
  match ← (source.resolveProfileSyncRoot profile rootId).mapError
      ProfileSyncTrustedPullError.source with
  | none => pure none
  | some manifestObjectId =>
      let objects ← db.pullTrustedSignedProfileSyncSettingsManifestObjectsById scheme source
        profile manifestObjectId contentKey keyId
      pure (some objects)

/-- One candidate of a root with the objects of its manifest. -/
def pullCandidate (source : ProfileSyncObjectSource SourceError) (profile : String)
    (contentKey : List Nat) (keyId : String) (db : SlateProfileDatabase)
    (rootCandidate : ProfileSyncRootCandidate) :
    Except (ProfileSyncTrustedPullError SourceError)
      VerifiedProfileSyncSettingsManifestCandidate := do
  let objects ← db.pullTrustedSignedProfileSyncSettingsManifestObjectsById scheme source profile
    rootCandidate.objectId contentKey keyId
  pure { rootCandidate, objects }

def pullTrustedSignedProfileSyncSettingsManifestCandidates
    (source : ProfileSyncObjectSource SourceError) (profile rootId : String)
    (contentKey : List Nat) (keyId : String) (db : SlateProfileDatabase) :
    Except (ProfileSyncTrustedPullError SourceError)
      (List VerifiedProfileSyncSettingsManifestCandidate) := do
  let candidates ← (source.listProfileSyncRootCandidates profile rootId).mapError
    ProfileSyncTrustedPullError.source
  candidates.mapM (db.pullCandidate scheme source profile contentKey keyId)

end Pull

section Apply

def pullAndApplyTrustedSignedSettingsManifestObjects
    (source : ProfileSyncObjectSource SourceError) (profile rootId : String)
    (contentKey : List Nat) (keyId : String) (now : Int) (db : SlateProfileDatabase) :
    Except (ProfileSyncTrustedPullApplyError SourceError)
      (Option ProfileSyncSettingsManifestApplication × SlateProfileDatabase) := do
  match ← (db.pullTrustedSignedProfileSyncSettingsManifestObjects scheme source profile rootId
      contentKey keyId).mapError ProfileSyncTrustedPullApplyError.pull with
  | none => pure (none, db)
  | some objects =>
      let (application, db) ← (db.applyVerifiedSettingsManifest codec objects now).mapError
        ProfileSyncTrustedPullApplyError.storage
      pure (some application, db)

def pullAndApplyActiveTrustedSignedSettingsManifestObjects
    (source : ProfileSyncObjectSource SourceError) (profile rootId : String)
    (contentKey : List Nat) (now : Int) (db : SlateProfileDatabase) :
    Except (ProfileSyncTrustedPullApplyError SourceError)
      (Option ProfileSyncSettingsManifestApplication × SlateProfileDatabase) := do
  let key ← (db.activePullKey profile).mapError ProfileSyncTrustedPullApplyError.storage
  match ← (db.pullTrustedSignedProfileSyncSettingsManifestObjects scheme source profile rootId
      contentKey key.keyId).mapError ProfileSyncTrustedPullApplyError.pull with
  | none => pure (none, db)
  | some objects =>
      (validateSyncContentKeyEpochForManifest key objects.manifest).mapError
        ProfileSyncTrustedPullApplyError.storage
      let (application, db) ← (db.applyVerifiedSettingsManifest codec objects now).mapError
        ProfileSyncTrustedPullApplyError.storage
      pure (some application, db)

def pullAndApplyActiveTrustedSignedSettingsManifestObjectsIfChanged
    (source : ProfileSyncObjectSource SourceError) (profile rootId : String)
    (contentKey : List Nat) (now : Int) (db : SlateProfileDatabase) :
    Except (ProfileSyncTrustedPullApplyError SourceError)
      (ProfileSyncSettingsPullApplyStatus × SlateProfileDatabase) := do
  match ← (source.resolveProfileSyncRoot profile rootId).mapError fun error =>
      ProfileSyncTrustedPullApplyError.pull (.source error) with
  | none => pure (.noPublishedRoot profile rootId, db)
  | some publishedObjectId =>
      let localRoot ← (db.profileSyncRoot profile rootId).mapError
        ProfileSyncTrustedPullApplyError.storage
      if localRoot = some publishedObjectId then
        pure (.unchanged profile rootId publishedObjectId, db)
      else
        match ← db.pullAndApplyActiveTrustedSignedSettingsManifestObjects codec scheme source
            profile rootId contentKey now with
        | (some application, db) => pure (.applied application, db)
        | (none, db) => pure (.noPublishedRoot profile rootId, db)

/-- Every candidate is applied in a transaction of its own, so those before a failing one
stay applied. -/
def applyCandidates (now : Int) :
    List VerifiedProfileSyncSettingsManifestCandidate → SlateProfileDatabase →
      Except StorageError (List ProfileSyncSettingsManifestCandidateApplication) ×
        SlateProfileDatabase
  | [], db => (.ok [], db)
  | candidate :: rest, db =>
      match db.applyVerifiedSettingsManifest codec candidate.objects now with
      | .error error => (.error error, db)
      | .ok (application, db) =>
          match applyCandidates now rest db with
          | (.error error, db) => (.error error, db)
          | (.ok applications, db) =>
              (.ok ({ rootCandidate := candidate.rootCandidate, application } :: applications),
                db)

def applyVerifiedSettingsManifestCandidates
    (candidates : List VerifiedProfileSyncSettingsManifestCandidate) (now : Int)
    (db : SlateProfileDatabase) :
    Except StorageError (List ProfileSyncSettingsManifestCandidateApplication) ×
      SlateProfileDatabase :=
  applyCandidates codec now (orderedCandidates candidates) db

def pullAndApplyTrustedSignedProfileSyncSettingsManifestCandidates
    (source : ProfileSyncObjectSource SourceError) (profile rootId : String)
    (contentKey : List Nat) (keyId : String) (now : Int) (db : SlateProfileDatabase) :
    Except (ProfileSyncTrustedPullApplyError SourceError)
        (List ProfileSyncSettingsManifestCandidateApplication) × SlateProfileDatabase :=
  match db.pullTrustedSignedProfileSyncSettingsManifestCandidates scheme source profile rootId
      contentKey keyId with
  | .error error => (.error (.pull error), db)
  | .ok candidates =>
      match db.applyVerifiedSettingsManifestCandidates codec candidates now with
      | (.error error, db) => (.error (.storage error), db)
      | (.ok applications, db) => (.ok applications, db)

/-- Every device of the manifest's frontiers is recorded at least as far. -/
def settingsManifestFrontiersLocallyCovered (profile : String) (manifest : ProfileSyncManifest)
    (db : SlateProfileDatabase) : Bool :=
  !manifest.deviceFrontiers.isEmpty &&
    manifest.deviceFrontiers.all fun frontier =>
      match db.latestSyncDeviceSequence profile frontier.deviceId with
      | none => false
      | some currentSequence => !decide (currentSequence < frontier.latestSequence)

/-- A candidate whose manifest the active key may open. -/
def pullActiveCandidate (source : ProfileSyncObjectSource SourceError) (profile : String)
    (contentKey : List Nat) (key : SyncContentKeyEpochRecord) (db : SlateProfileDatabase)
    (rootCandidate : ProfileSyncRootCandidate) :
    Except (ProfileSyncTrustedPullApplyError SourceError)
      VerifiedProfileSyncSettingsManifestCandidate := do
  let candidate ← (db.pullCandidate scheme source profile contentKey key.keyId
    rootCandidate).mapError ProfileSyncTrustedPullApplyError.pull
  (validateSyncContentKeyEpochForManifest key candidate.objects.manifest).mapError
    ProfileSyncTrustedPullApplyError.storage
  pure candidate

/-- What the candidate pull decides before it writes: a status, or candidates to apply. -/
def planActiveCandidates (source : ProfileSyncObjectSource SourceError)
    (profile rootId : String) (contentKey : List Nat) (db : SlateProfileDatabase) :
    Except (ProfileSyncTrustedPullApplyError SourceError)
      (ProfileSyncSettingsCandidatePullApplyStatus ⊕
        List VerifiedProfileSyncSettingsManifestCandidate) := do
  let key ← (db.activePullKey profile).mapError ProfileSyncTrustedPullApplyError.storage
  let candidates ← (source.listProfileSyncRootCandidates profile rootId).mapError fun error =>
    ProfileSyncTrustedPullApplyError.pull (.source error)
  match newestProfileSyncRootCandidate candidates with
  | none => pure (.inl (.noPublishedRoot profile rootId))
  | some newestCandidate =>
      let localRoot ← (db.profileSyncRoot profile rootId).mapError
        ProfileSyncTrustedPullApplyError.storage
      if localRoot = some newestCandidate.objectId then
        pure (.inl (.unchanged profile rootId newestCandidate.objectId))
      else
        let verifiedCandidates ← candidates.mapM
          (db.pullActiveCandidate scheme source profile contentKey key)
        let candidatesToApply := verifiedCandidates.filter fun candidate =>
          !(localRoot.isSome &&
            db.settingsManifestFrontiersLocallyCovered profile candidate.objects.manifest)
        match candidatesToApply, localRoot with
        | [], some localObjectId => pure (.inl (.unchanged profile rootId localObjectId))
        | candidatesToApply, _ => pure (.inr candidatesToApply)

def pullAndApplyActiveTrustedSignedSettingsManifestCandidatesIfChanged
    (source : ProfileSyncObjectSource SourceError) (profile rootId : String)
    (contentKey : List Nat) (now : Int) (db : SlateProfileDatabase) :
    Except (ProfileSyncTrustedPullApplyError SourceError)
        ProfileSyncSettingsCandidatePullApplyStatus × SlateProfileDatabase :=
  match db.planActiveCandidates scheme source profile rootId contentKey with
  | .error error => (.error error, db)
  | .ok (.inl status) => (.ok status, db)
  | .ok (.inr candidates) =>
      match db.applyVerifiedSettingsManifestCandidates codec candidates now with
      | (.error error, db) => (.error (.storage error), db)
      | (.ok applications, db) => (.ok (.applied applications), db)

end Apply

end SlateProfileDatabase

end Slate.Storage
