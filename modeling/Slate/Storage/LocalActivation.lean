import Slate.Storage.Untimed

/-!
# The writes of an activation

What an activation registers before it applies a record depends on nothing but the database.
The enrollments that follow are handled alike at any time.
-/

namespace Slate.Storage

open Slate.Foundation

namespace SlateProfileDatabase

variable {scheme : SyncSecretScheme} {db next : SlateProfileDatabase} {profile : String}
  {secret : SlateSyncSecret} {now : Int}

section Metadata

/-- The writes of `activateLocalProfileSyncMetadataWithKey`. -/
def putLocalActivation (profile keyId : String) (membershipEpoch now : Int)
    (db : SlateProfileDatabase) : SlateProfileDatabase :=
  (((db.registerSyncDevice
    { profile, deviceId := db.localSyncDeviceId, label := some "Local Device", membershipEpoch
      providerAuthority := false } now).ensureDefaultAppSyncDomains profile
        now).deactivateSyncContentKeyEpochs profile now).putSyncContentKeyEpoch
    { profile, keyId, membershipEpoch
      algorithm := profileSyncContentKeyAlgorithmChacha20Poly1305, active := true } now

theorem exists_registerActiveSyncContentKeyEpoch
    {registration : SyncContentKeyEpochRegistration}
    (valid : isValidSyncIdentifier registration.keyId) (active : registration.active = true) :
    ∃ record, db.registerSyncContentKeyEpoch registration now =
      .ok (record, (db.deactivateSyncContentKeyEpochs registration.profile
        now).putSyncContentKeyEpoch registration now) := by
  have looked : Rows.lookup contentKeyEpochKey (registration.profile, registration.keyId)
      ((db.deactivateSyncContentKeyEpochs registration.profile
        now).putSyncContentKeyEpoch registration now).syncContentKeyEpochs =
          if (registration.profile, registration.keyId) =
            (registration.profile, registration.keyId) then some _ else _ :=
    Rows.lookup_upsert (fun _ same => same)
      (db.deactivateSyncContentKeyEpochs registration.profile now).syncContentKeyEpochs
  rw [if_pos rfl] at looked
  unfold registerSyncContentKeyEpoch
  simp only [valid, active, Bool.not_true, Bool.false_eq_true, if_false, if_true, looked]
  exact ⟨_, rfl⟩

/-- Registering the metadata cannot fail. -/
theorem activateMetadata_run (profile : String) {keyId : String} (membershipEpoch now : Int)
    (valid : isValidSyncIdentifier keyId) (db : SlateProfileDatabase) :
    ∃ contentKeyEpoch,
      (activateLocalProfileSyncMetadataWithKey profile keyId membershipEpoch now).run db =
        .ok { profile, deviceId := db.localSyncDeviceId, contentKeyEpoch }
          (db.putLocalActivation profile keyId membershipEpoch now) := by
  obtain ⟨contentKeyEpoch, registered⟩ := @exists_registerActiveSyncContentKeyEpoch
    ((db.registerSyncDevice
      { profile, deviceId := db.localSyncDeviceId, label := some "Local Device"
        membershipEpoch, providerAuthority := false } now).ensureDefaultAppSyncDomains profile
          now) now
    { profile, keyId, membershipEpoch
      algorithm := profileSyncContentKeyAlgorithmChacha20Poly1305, active := true } valid rfl
  refine ⟨contentKeyEpoch, ?_⟩
  unfold activateLocalProfileSyncMetadataWithKey
  simp only [EStateM.run_bind, EStateM.run_get, EStateM.run_modify]
  rw [statement_eq_ok_iff.mpr registered]
  rfl

theorem isValidSyncIdentifier_defaultContentKeyId :
    isValidSyncIdentifier defaultProfileSyncContentKeyId = true := by
  decide +kernel

/-- What an activation registers, at the default key and epoch. -/
def putDefaultActivation (profile : String) (now : Int) (db : SlateProfileDatabase) :
    SlateProfileDatabase :=
  db.putLocalActivation profile defaultProfileSyncContentKeyId
    defaultProfileSyncMembershipEpoch now

theorem metadataActivated_putDefaultActivation (profile : String) (now : Int)
    (db : SlateProfileDatabase) :
    MetadataActivated profile db (db.putDefaultActivation profile now) := by
  obtain ⟨contentKeyEpoch, ran⟩ := activateMetadata_run profile
    defaultProfileSyncMembershipEpoch now isValidSyncIdentifier_defaultContentKeyId db
  obtain ⟨expected, activated, metadata, same⟩ := @activateMetadata_eq_ok profile db now
    defaultProfileSyncContentKeyId defaultProfileSyncMembershipEpoch
    isValidSyncIdentifier_defaultContentKeyId
  rw [ran] at metadata
  obtain ⟨-, rfl⟩ := EStateM.Result.ok.inj metadata
  exact same

theorem untimed_putDefaultActivation :
    (db.putDefaultActivation profile now).untimed = db.untimed.putDefaultActivation profile 0 := by
  simp only [putDefaultActivation, putLocalActivation, untimed_putSyncContentKeyEpoch,
    untimed_deactivateSyncContentKeyEpochs, untimed_ensureDefaultAppSyncDomains,
    untimed_registerSyncDevice]
  rfl

/-- An activation registers the metadata and then applies the enrollments. -/
theorem activation_run (scheme : SyncSecretScheme) (profile : String) (secret : SlateSyncSecret)
    (now : Int) (db : SlateProfileDatabase) :
    ∃ contentKeyEpoch,
      (activateLocalProfileSyncFromSecret scheme profile secret now).run db =
        (enrollments scheme profile secret db.localSyncDeviceId contentKeyEpoch now).run
          (db.putDefaultActivation profile now) := by
  obtain ⟨contentKeyEpoch, metadata⟩ := activateMetadata_run profile
    defaultProfileSyncMembershipEpoch now isValidSyncIdentifier_defaultContentKeyId db
  refine ⟨contentKeyEpoch, ?_⟩
  unfold activateLocalProfileSyncFromSecret activateLocalProfileSyncFromSecretWithKey
  rw [EStateM.run_bind, metadata]
  simp only
  rw [enrollDerivedDevice_of_valid SlateSyncSecret.isValidSyncIdentifier_accountAuthority]
  rfl

end Metadata

/-- The tables that enrollments and activations write. -/
structure SameEnrollment (db next : SlateProfileDatabase) : Prop where
  syncDevices : next.syncDevices = db.syncDevices
  syncDevicePublicKeys : next.syncDevicePublicKeys = db.syncDevicePublicKeys
  syncAccountMembershipRecords :
    next.syncAccountMembershipRecords = db.syncAccountMembershipRecords
  syncContentKeyEpochs : next.syncContentKeyEpochs = db.syncContentKeyEpochs
  appSyncDomains : next.appSyncDomains = db.appSyncDomains

section Traces

/-- When the device was seen last. -/
def deviceLastSeenAt (profile deviceId : String) (db : SlateProfileDatabase) : Option Int :=
  (Rows.lookup deviceKey (profile, deviceId) db.syncDevices).map (·.lastSeenAt)

variable {deviceId other otherDevice : String}

theorem deviceLastSeenAt_registerSyncDevice (device : SyncDeviceRegistration) :
    (db.registerSyncDevice device now).deviceLastSeenAt device.profile device.deviceId =
      some now := by
  have looked : Rows.lookup deviceKey (device.profile, device.deviceId)
      (db.registerSyncDevice device now).syncDevices =
        if (device.profile, device.deviceId) = (device.profile, device.deviceId) then some _
        else _ :=
    Rows.lookup_upsert (fun _ same => same) db.syncDevices
  rw [deviceLastSeenAt, looked, if_pos rfl]
  cases Rows.lookup deviceKey (device.profile, device.deviceId) db.syncDevices <;> rfl

/-- A roster entry that is written now was seen now. -/
theorem deviceLastSeenAt_recordSyncDeviceRosterEntry {membershipEpoch : Int}
    (seen : db.deviceLastSeenAt other otherDevice = some now) :
    (db.recordSyncDeviceRosterEntry profile deviceId membershipEpoch now).deviceLastSeenAt other
      otherDevice = some now := by
  have looked : Rows.lookup deviceKey (other, otherDevice)
      (db.recordSyncDeviceRosterEntry profile deviceId membershipEpoch now).syncDevices =
        if (profile, deviceId) = (other, otherDevice) then some _
        else Rows.lookup deviceKey (other, otherDevice) db.syncDevices :=
    Rows.lookup_upsert (fun _ same => same) db.syncDevices
  rw [deviceLastSeenAt, looked]
  split
  · cases Rows.lookup deviceKey (other, otherDevice) db.syncDevices <;> rfl
  · exact seen

theorem deviceLastSeenAt_recordSyncDeviceRosterEntryWithProviderAuthority
    {membershipEpoch : Int} {providerAuthority : Bool}
    (seen : db.deviceLastSeenAt other otherDevice = some now) :
    (db.recordSyncDeviceRosterEntryWithProviderAuthority profile deviceId membershipEpoch
      providerAuthority now).deviceLastSeenAt other otherDevice = some now := by
  have looked : Rows.lookup deviceKey (other, otherDevice)
      (db.recordSyncDeviceRosterEntryWithProviderAuthority profile deviceId membershipEpoch
        providerAuthority now).syncDevices =
        if (profile, deviceId) = (other, otherDevice) then some _
        else Rows.lookup deviceKey (other, otherDevice) db.syncDevices :=
    Rows.lookup_upsert (fun _ same => same) db.syncDevices
  rw [deviceLastSeenAt, looked]
  split
  · cases Rows.lookup deviceKey (other, otherDevice) db.syncDevices <;> rfl
  · exact seen

theorem deviceLastSeenAt_putAppliedMembership (decoded : DecodedMembershipRecord)
    (seen : db.deviceLastSeenAt other otherDevice = some now) :
    (db.putAppliedMembership decoded now).deviceLastSeenAt other otherDevice = some now := by
  have keyed : ((db.insertSyncAccountMembershipRecord decoded.registration now).putMembershipKey
      decoded.record now).deviceLastSeenAt other otherDevice = some now := by
    unfold putMembershipKey
    split
    · cases decoded.record.devicePublicKey with
      | none => exact seen
      | some publicKey => exact deviceLastSeenAt_recordSyncDeviceRosterEntry seen
    · exact seen
  change (recordSyncMembershipDevice decoded.record now _).deviceLastSeenAt other otherDevice = _
  unfold recordSyncMembershipDevice
  split
  · exact deviceLastSeenAt_recordSyncDeviceRosterEntryWithProviderAuthority keyed
  · split
    · exact deviceLastSeenAt_recordSyncDeviceRosterEntryWithProviderAuthority keyed
    · exact deviceLastSeenAt_recordSyncDeviceRosterEntry keyed

theorem deviceLastSeenAt_putDefaultActivation :
    (db.putDefaultActivation profile now).deviceLastSeenAt profile db.localSyncDeviceId =
      some now := by
  obtain ⟨domains, seeded⟩ := @ensureDefaultAppSyncDomains_eq profile (db.registerSyncDevice
    { profile, deviceId := db.localSyncDeviceId, label := some "Local Device"
      membershipEpoch := defaultProfileSyncMembershipEpoch, providerAuthority := false } now) now
  unfold putDefaultActivation putLocalActivation
  rw [seeded]
  exact @deviceLastSeenAt_registerSyncDevice db now
    { profile, deviceId := db.localSyncDeviceId, label := some "Local Device"
      membershipEpoch := defaultProfileSyncMembershipEpoch, providerAuthority := false }

/-- However it ends, an activation leaves the local device seen. -/
theorem deviceLastSeenAt_activation (lawful : scheme.Lawful) :
    (stateAfter (activateLocalProfileSyncFromSecret scheme profile secret now)
      db).deviceLastSeenAt profile db.localSyncDeviceId = some now := by
  have kept (deviceId : String) : Keeps
      (fun state => state.deviceLastSeenAt profile db.localSyncDeviceId = some now)
      (enrollDerivedDevice scheme profile secret defaultProfileSyncMembershipEpoch deviceId
        now) := by
    by_cases valid : isValidSyncIdentifier deviceId = true
    · rw [enrollDerivedDevice_of_valid valid]
      apply keeps_statement
      intro state application after applied seen
      have handled := (applySigned_eq_ok_iff (decodes_enrollment lawful (.inl rfl))).mp applied
      rcases applyDecoded_state handled with ⟨-, rfl⟩ | ⟨-, rfl⟩
      · exact seen
      · exact deviceLastSeenAt_putAppliedMembership _ seen
    · intro state seen
      unfold enrollDerivedDevice signedEnrollDeviceRecord
      rw [SlateSyncSecret.deriveProfileSyncDeviceSigner_of_valid secret
        SlateSyncSecret.isValidSyncIdentifier_accountAuthority,
        SlateSyncSecret.deriveProfileSyncDeviceSigner, dif_neg valid]
      exact seen
  obtain ⟨contentKeyEpoch, ran⟩ := activation_run scheme profile secret now db
  have after : Keeps (fun state => state.deviceLastSeenAt profile db.localSyncDeviceId = some now)
      (enrollments scheme profile secret db.localSyncDeviceId contentKeyEpoch now) := by
    unfold enrollments
    have authority := kept defaultProfileSyncAccountAuthorityDeviceId
    rw [enrollDerivedDevice_of_valid SlateSyncSecret.isValidSyncIdentifier_accountAuthority]
      at authority
    apply keeps_bind authority
    intro application
    apply keeps_bind
    · unfold enrollLocalDevice
      split
      · exact keeps_bind (kept _) fun _ => keeps_pure _
      · exact keeps_pure _
    · exact fun _ => keeps_pure _
  have seen := after (db.putDefaultActivation profile now) deviceLastSeenAt_putDefaultActivation
  unfold stateAfter at seen ⊢
  rw [ran]
  exact seen

end Traces

end SlateProfileDatabase

end Slate.Storage
