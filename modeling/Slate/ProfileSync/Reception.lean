import Slate.ProfileSync.Envelopes
import Slate.Storage.PlainScheme
import Slate.Storage.ProfileFrame

/-!
# What a reception does

A pulled head is missing, stale, unchanged or applied. Only an application writes, and it
leaves the tables alone that decide who is trusted.
-/

namespace Slate.ProfileSync

open Slate.Foundation Slate.Storage
open Slate.Storage.SlateProfileDatabase

variable {codec : SyncPayloadCodec} {scheme : SyncObjectScheme} {profile : String}
  {contentKey : List Nat} {keyId : String} {store : ObjectStore} {now : Int}
  {db next : SlateProfileDatabase}

section Frame

theorem sameControl_setProfileSyncRoot {rootId objectId : String}
    (h : db.setProfileSyncRoot profile rootId objectId now = .ok ((), next)) :
    SameControl db next := by
  rw [(setProfileSyncRoot_eq_ok h).2]
  exact ⟨rfl, rfl, rfl, rfl, rfl⟩

theorem sameControl_applyVerifiedSettingsManifest
    {objects : VerifiedProfileSyncSettingsManifestObjects}
    {application : ProfileSyncSettingsManifestApplication}
    (h : db.applyVerifiedSettingsManifest codec objects now = .ok (application, next)) :
    SameControl db next := by
  obtain ⟨applied, confined, rootSet⟩ := applyVerifiedSettingsManifest_confined h
  exact confined.control.trans (sameControl_setProfileSyncRoot rootSet)

/-- The ways a head is dealt with. -/
theorem pullRecordAndApply_cases {rootId : String}
    {status : BroadwebdTrustedDeviceHeadSyncStatus}
    (h : pullRecordAndApplyTrustedSettingsFromDeviceHead codec scheme profile rootId contentKey
      keyId store now db = .ok (status, next)) :
    (next = db ∧ status = .noPublishedRoot profile rootId ∧
      db.pullTrustedSignedProfileSyncDeviceHead scheme (store.source scheme) profile rootId
        contentKey keyId = .ok none) ∨
    ∃ head localHead,
      db.pullTrustedSignedProfileSyncDeviceHead scheme (store.source scheme) profile rootId
        contentKey keyId = .ok (some head) ∧
      db.profileSyncRoot profile rootId = .ok localHead ∧
      ((next = db ∧ ∃ current, staleDeviceSequence profile localHead head db = some current ∧
          status = .stale profile rootId head.objectId head.deviceHead.deviceId current
            head.deviceHead.deviceSequence) ∨
        staleDeviceSequence profile localHead head db = none ∧
        ∃ objects settingsRoot,
          db.pullTrustedSignedProfileSyncSettingsManifestObjectsFromDeviceHead scheme
            (store.source scheme) profile head contentKey keyId = .ok objects ∧
          db.profileSyncRoot profile objects.manifest.rootId = .ok settingsRoot ∧
          ((next = db ∧ status = .unchanged profile rootId head.objectId ∧
              localHead = some head.objectId ∧ settingsRoot = some objects.manifestObjectId) ∨
            ∃ application, status = .applied head application ∧
              ¬ (localHead = some head.objectId ∧ settingsRoot = some objects.manifestObjectId) ∧
              db.applyVerifiedSettingsManifestAndSetProfileSyncRoot codec objects profile rootId
                head.objectId now = .ok (application, next))) := by
  obtain ⟨found, pulled, h⟩ := bind_eq_ok_iff.mp h
  have pulled := mapError_eq_ok_iff.mp pulled
  cases found with
  | none =>
      obtain ⟨rfl, rfl⟩ := ok_pair_inj h
      exact .inl ⟨rfl, rfl, pulled⟩
  | some head =>
      obtain ⟨localHead, isLocal, h⟩ := bind_eq_ok_iff.mp h
      refine .inr ⟨head, localHead, pulled, mapError_eq_ok_iff.mp isLocal, ?_⟩
      cases stale : staleDeviceSequence profile localHead head db with
      | some current =>
          rw [stale] at h
          obtain ⟨rfl, rfl⟩ := ok_pair_inj h
          exact .inl ⟨rfl, current, rfl, rfl⟩
      | none =>
          rw [stale] at h
          obtain ⟨objects, opened, h⟩ := bind_eq_ok_iff.mp h
          obtain ⟨settingsRoot, isRoot, h⟩ := bind_eq_ok_iff.mp h
          refine .inr ⟨rfl, objects, settingsRoot, mapError_eq_ok_iff.mp opened,
            mapError_eq_ok_iff.mp isRoot, ?_⟩
          split at h
          next current =>
            obtain ⟨rfl, rfl⟩ := ok_pair_inj h
            exact .inl ⟨rfl, rfl, current⟩
          next changed =>
            obtain ⟨⟨application, final⟩, applied, h⟩ := bind_eq_ok_iff.mp h
            obtain ⟨rfl, rfl⟩ := ok_pair_inj h
            exact .inr ⟨application, rfl, changed, mapError_eq_ok_iff.mp applied⟩

theorem sameControl_pullRecordAndApply {rootId : String}
    {status : BroadwebdTrustedDeviceHeadSyncStatus}
    (h : pullRecordAndApplyTrustedSettingsFromDeviceHead codec scheme profile rootId contentKey
      keyId store now db = .ok (status, next)) : SameControl db next := by
  rcases pullRecordAndApply_cases h with ⟨rfl, -⟩ | ⟨head, localHead, -, -, rest⟩
  · exact .refl _
  · rcases rest with ⟨rfl, -⟩ | ⟨-, objects, settingsRoot, -, -, rest⟩
    · exact .refl _
    · rcases rest with ⟨rfl, -⟩ | ⟨application, -, -, applied⟩
      · exact .refl _
      · obtain ⟨⟨_, middle⟩, manifestApplied, h⟩ := bind_eq_ok_iff.mp applied
        obtain ⟨⟨_, final⟩, rootSet, h⟩ := bind_eq_ok_iff.mp h
        obtain ⟨-, rfl⟩ := ok_pair_inj h
        exact (sameControl_applyVerifiedSettingsManifest manifestApplied).trans
          (sameControl_setProfileSyncRoot rootSet)

end Frame

section Head

/-- What is known of a head that was pulled. -/
theorem pullTrustedSignedProfileSyncDeviceHead_eq_ok {rootId : String}
    {head : VerifiedProfileSyncDeviceHead}
    (h : db.pullTrustedSignedProfileSyncDeviceHead scheme (store.source scheme) profile rootId
      contentKey keyId = .ok (some head)) :
    store.resolveProfileSyncRoot profile rootId = some head.objectId ∧
      head.deviceHead.rootId = rootId ∧
      ∃ bytes, store.find scheme profile head.objectId = some bytes ∧
        db.openTrustedSignedProfileSyncDeviceHead scheme bytes contentKey profile keyId =
          .ok head.deviceHead := by
  obtain ⟨found, resolved, h⟩ := bind_eq_ok_iff.mp h
  have resolved : store.resolveProfileSyncRoot profile rootId = found :=
    Except.ok.inj (mapError_eq_ok_iff.mp resolved)
  cases found with
  | none => cases h
  | some objectId =>
      obtain ⟨object, fetched, h⟩ := bind_eq_ok_iff.mp h
      obtain ⟨deviceHead, opened, h⟩ := bind_eq_ok_iff.mp h
      obtain ⟨_, validRoot, h⟩ := bind_eq_ok_iff.mp h
      obtain rfl := Option.some.inj (Except.ok.inj h)
      obtain ⟨_, got, fetched⟩ := bind_eq_ok_iff.mp fetched
      obtain ⟨-, fetched⟩ := check_then_eq_ok_iff.mp fetched
      obtain rfl := Except.ok.inj fetched
      obtain ⟨rfl, found⟩ :=
        ObjectStore.getProfileSyncObject_eq_ok_iff.mp (mapError_eq_ok_iff.mp got)
      refine ⟨resolved, ?_, _, found, mapError_eq_ok_iff.mp opened⟩
      have validRoot := mapError_eq_ok_iff.mp validRoot
      unfold validateProfileSyncDeviceHeadRoot at validRoot
      split at validRoot
      · assumption
      · cases validRoot

/-- A head that opens names its signer, whose trusted key verifies it. -/
theorem openTrustedSignedProfileSyncDeviceHead_eq_ok {bytes : List Nat}
    {deviceHead : ProfileSyncDeviceHead}
    (h : db.openTrustedSignedProfileSyncDeviceHead scheme bytes contentKey profile keyId =
      .ok deviceHead) :
    deviceHead.profile = profile ∧
    ∃ signed record payload, SignedSyncObject.fromBytes scheme bytes = .ok signed ∧
      signed.deviceId = deviceHead.deviceId ∧
      trustedKey profile signed.deviceId db = some record ∧
      signed.verifyWith scheme record.publicKey = .ok payload := by
  obtain ⟨signed, isSigned, h⟩ := bind_eq_ok_iff.mp h
  have isSigned := mapError_eq_ok_iff.mp isSigned
  obtain ⟨publicKey, trusted, h⟩ := bind_eq_ok_iff.mp h
  obtain ⟨found, opened, h⟩ := bind_eq_ok_iff.mp h
  obtain ⟨_, -, h⟩ := bind_eq_ok_iff.mp h
  obtain rfl := Except.ok.inj h
  obtain ⟨-, -, record, isTrusted, rfl⟩ :=
    trustedProfileStatePublicKeyForSignedObject_eq_ok_iff.mp trusted
  have opened := mapError_eq_ok_iff.mp opened
  obtain ⟨plaintext, sealedOpened, opened⟩ := bind_eq_ok_iff.mp opened
  obtain ⟨decoded, -, opened⟩ := bind_eq_ok_iff.mp opened
  obtain ⟨-, opened⟩ := check_then_eq_ok_iff.mp opened
  obtain ⟨sameProfile, opened⟩ := check_then_eq_ok_iff.mp opened
  obtain ⟨sameDevice, opened⟩ := check_then_eq_ok_iff.mp opened
  obtain rfl := Except.ok.inj opened
  obtain ⟨again, isSignedAgain, sealedOpened⟩ := bind_eq_ok_iff.mp sealedOpened
  rw [isSigned] at isSignedAgain
  obtain rfl := Except.ok.inj isSignedAgain
  obtain ⟨payload, verified, -⟩ := bind_eq_ok_iff.mp sealedOpened
  refine ⟨not_not.mp sameProfile, signed, record, payload, isSigned, ?_, isTrusted, verified⟩
  rw [← deviceId_of_trustedKey isTrusted]
  exact (not_not.mp sameDevice).symm

end Head

section Sample

/-- The devices of one household, all trusted and none of them a provider. -/
def householdKeys : List SyncDevicePublicKeyRecord :=
  [⟨"default", ⟨"laptop", [7]⟩, 1, true, 1, 1⟩, ⟨"default", ⟨"phone", [8]⟩, 1, true, 1, 1⟩,
    ⟨"default", ⟨"tablet", [9]⟩, 1, true, 1, 1⟩]

/-- A device of the household that syncs the settings domain. -/
def householdDevice (deviceId : String) : SlateProfileDatabase :=
  { localSyncDeviceId := deviceId
    appSyncDomains := [⟨"default", "settings", 1, true, "low-risk", false, 1, 1⟩]
    syncDevicePublicKeys := householdKeys }

def laptopCredentials : SyncCredentials where
  contentKey := [42]
  keyId := "key-1"
  signer :=
    { deviceId := "laptop", privateKey := [7], valid := isValidSyncIdentifier_laptop }

def tabletCredentials : SyncCredentials where
  contentKey := [42]
  keyId := "key-1"
  signer :=
    { deviceId := "tablet", privateKey := [9], valid := isValidSyncIdentifier_tablet }

end Sample

end Slate.ProfileSync
