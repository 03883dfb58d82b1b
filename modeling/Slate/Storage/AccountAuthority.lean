import Slate.Storage.MembershipRoster
import Slate.Storage.MembershipScope
import Slate.Storage.SecretActivation

/-!
# The account authority that a profile trusts

A secret's records enroll the account authority where the profile has no key yet, or where it
trusts the secret's authority already. An authority that is trusted is replaced only by a
record that rotates or revokes its key.
-/

namespace Slate.Storage

open Slate.Foundation

namespace SlateSyncSecret

variable {scheme : SyncSecretScheme} {profile deviceId : String} {membershipEpoch : Int}

/-- The signer that the secret derives for a device. -/
def deviceSigner (scheme : SyncSecretScheme) (profile : String) (membershipEpoch : Int)
    (secret : SlateSyncSecret) (deviceId : String) (valid : isValidSyncIdentifier deviceId = true) :
    ProfileSyncDeviceSigner where
  deviceId
  privateKey := secret.deriveProfileSyncSecretBytes scheme profile
    ("manifest-signing/v1/" ++ toString membershipEpoch ++ "/" ++ deviceId)
  valid

theorem deriveProfileSyncDeviceSigner_of_valid (secret : SlateSyncSecret)
    (valid : isValidSyncIdentifier deviceId = true) :
    secret.deriveProfileSyncDeviceSigner scheme profile deviceId membershipEpoch =
      .ok (secret.deviceSigner scheme profile membershipEpoch deviceId valid) := by
  rw [deriveProfileSyncDeviceSigner, dif_pos valid]
  rfl

theorem isValidSyncIdentifier_accountAuthority :
    isValidSyncIdentifier defaultProfileSyncAccountAuthorityDeviceId = true := rfl

/-- The signer of the account authority at the default epoch. -/
def accountAuthoritySigner (scheme : SyncSecretScheme) (profile : String)
    (secret : SlateSyncSecret) : ProfileSyncDeviceSigner :=
  secret.deviceSigner scheme profile defaultProfileSyncMembershipEpoch
    defaultProfileSyncAccountAuthorityDeviceId isValidSyncIdentifier_accountAuthority

/-- The public key that the secret derives for the account authority. -/
def accountAuthorityKey (scheme : SyncSecretScheme) (profile : String)
    (secret : SlateSyncSecret) : ProfileSyncDevicePublicKey :=
  (secret.accountAuthoritySigner scheme profile).publicKey scheme.objects

end SlateSyncSecret

namespace SlateProfileDatabase

/-- The account authority's key, if it is trusted. -/
def accountAuthorityKey (profile : String) (db : SlateProfileDatabase) :
    Option ProfileSyncDevicePublicKey :=
  ((Rows.lookup publicKeyKey (profile, defaultProfileSyncAccountAuthorityDeviceId)
    db.syncDevicePublicKeys).filter (·.trusted)).map (·.publicKey)

/-- The tables as the membership operations keep them: records are stored as they were
signed, and a profile with an applied record has a key. -/
structure EnrollmentTables (scheme : SyncObjectScheme) (db : SlateProfileDatabase) : Prop where
  wellStored : WellStored scheme db
  keyed : ∀ row ∈ db.syncAccountMembershipRecords, row.appliedAt.isSome →
    ∃ key ∈ db.syncDevicePublicKeys, key.profile = row.profile
  device : isValidSyncIdentifier db.localSyncDeviceId

/-- The record rotates or revokes the account authority's key. -/
structure DecodedMembershipRecord.Displaces (profile : String)
    (key : ProfileSyncDevicePublicKey) (decoded : DecodedMembershipRecord) : Prop where
  profile : decoded.record.profile = profile
  device : decoded.record.deviceId = defaultProfileSyncAccountAuthorityDeviceId
  kind : decoded.record.recordKind = recordKindRevokeDevice ∨
    decoded.record.recordKind = recordKindRotateDeviceKey ∧
      decoded.record.devicePublicKey ≠ some key

variable {scheme : SyncObjectScheme} {db next : SlateProfileDatabase} {profile : String}
  {decoded : DecodedMembershipRecord} {now : Int} {key : ProfileSyncDevicePublicKey}

section Records

theorem accountAuthorityKey_eq_some_iff :
    db.accountAuthorityKey profile = some key ↔
      ∃ known, (db.roster profile defaultProfileSyncAccountAuthorityDeviceId).key = some known ∧
        known.trusted = true ∧ known.publicKey = key := by
  unfold accountAuthorityKey roster standing
  cases Rows.lookup publicKeyKey (profile, defaultProfileSyncAccountAuthorityDeviceId)
      db.syncDevicePublicKeys with
  | none => simp
  | some record =>
      simp only [Option.map_eq_some_iff, Option.filter_eq_some_iff, Option.map_some,
        Option.some.injEq]
      constructor
      · rintro ⟨_, ⟨rfl, trusted⟩, rfl⟩
        exact ⟨_, rfl, trusted, rfl⟩
      · rintro ⟨_, rfl, trusted, rfl⟩
        exact ⟨record, ⟨rfl, trusted⟩, rfl⟩

theorem localSyncDeviceId_applyDecoded {application : SyncAccountMembershipRecordApplication}
    (handled : db.applyDecodedSyncAccountMembershipRecord scheme decoded now =
      .ok (application, next)) : next.localSyncDeviceId = db.localSyncDeviceId := by
  rcases applyDecoded_scope handled with ⟨-, rfl⟩ | ⟨-, -, only⟩
  · rfl
  · have same : (next.withoutMembershipOf decoded.record.profile).localSyncDeviceId =
        (db.withoutMembershipOf decoded.record.profile).localSyncDeviceId := congrArg _ only
    exact same

/-- The tables after a record was handled are as the operations keep them. -/
theorem EnrollmentTables.applyDecoded {application : SyncAccountMembershipRecordApplication}
    (tables : EnrollmentTables scheme db) (decodes : decoded.Decodes scheme)
    (handled : db.applyDecodedSyncAccountMembershipRecord scheme decoded now =
      .ok (application, next)) : EnrollmentTables scheme next := by
  have sameDevice := localSyncDeviceId_applyDecoded handled
  obtain ⟨authorized, ⟨-, rfl, -⟩ | ⟨-, applied⟩⟩ :=
    applyDecodedSyncAccountMembershipRecord_cases handled
  · exact tables
  · have stored : WellStored scheme next := by
      obtain ⟨-, ⟨-, rfl, -⟩ | ⟨-, -, -, recordApplied⟩⟩ :=
        applyDecoded_outcome tables.wellStored decodes handled
      · exact tables.wellStored
      · exact recordApplied.wellStored
    -- The profile of the record has a key: the one it installs, or the signer's.
    have ofRecord : ∃ key ∈ next.syncDevicePublicKeys, key.profile = decoded.record.profile := by
      by_cases installs : installsKey decoded.record.recordKind
      · exact applied.keys.installed installs
      · rcases authorizeSyncAccountMembershipRecord_cases authorized with
          ⟨-, bootstraps⟩ | ⟨-, signer, signs⟩
        · obtain ⟨-, kind, -⟩ := bootstraps_iff.mp bootstraps
          rw [kind] at installs
          exact absurd rfl installs
        · obtain ⟨later, laterMem, sameProfile⟩ := applied.keys.kept signer signs.stored
          exact ⟨later, laterMem, sameProfile.trans signs.profile⟩
    refine ⟨stored, fun row membership isApplied => ?_, by rw [sameDevice]; exact tables.device⟩
    rcases applied.records.ofProfile row membership isApplied with old | ofProfile
    · obtain ⟨key, keyMem, sameProfile⟩ := tables.keyed row old isApplied
      obtain ⟨later, laterMem, laterProfile⟩ := applied.keys.kept key keyMem
      exact ⟨later, laterMem, laterProfile.trans sameProfile⟩
    · rw [ofProfile]
      exact ofRecord

/-- A trusted authority stays as it is unless a record displaces it. -/
theorem accountAuthorityKey_applyDecoded
    {application : SyncAccountMembershipRecordApplication} (tables : EnrollmentTables scheme db)
    (decodes : decoded.Decodes scheme) (trusted : db.accountAuthorityKey profile = some key)
    (handled : db.applyDecodedSyncAccountMembershipRecord scheme decoded now =
      .ok (application, next))
    (keeps : application.applied = true → ¬decoded.Displaces profile key) :
    next.accountAuthorityKey profile = some key := by
  obtain ⟨-, ⟨-, rfl, -⟩ | ⟨applied, -, admits, recordApplied⟩⟩ :=
    applyDecoded_outcome tables.wellStored decodes handled
  · exact trusted
  have valid := validRecord_of_validate decodes.checked.valid
  have kept := keeps applied
  rw [accountAuthorityKey_eq_some_iff] at trusted ⊢
  by_cases ofProfile : decoded.record.profile = profile
  · subst ofProfile
    rw [recordApplied.roster]
    by_cases ofAuthority : decoded.record.deviceId = defaultProfileSyncAccountAuthorityDeviceId
    · obtain ⟨known, isKnown, isTrusted, rfl⟩ := trusted
      rw [← ofAuthority] at isKnown ⊢
      have hasTrustedKey : (db.roster decoded.record.profile
          decoded.record.deviceId).HasTrustedKey := ⟨known, isKnown, isTrusted⟩
      have notRevoked : decoded.record.recordKind ≠ recordKindRevokeDevice := fun revokes =>
        kept ⟨rfl, ofAuthority, .inl revokes⟩
      have installs : installsKey decoded.record.recordKind := by
        by_contra revokes
        exact notRevoked (valid.revokes revokes)
      have rotates : decoded.record.recordKind = recordKindRotateDeviceKey := by
        by_contra other
        have enrolls : decoded.record.recordKind = recordKindEnrollDevice ∨
            decoded.record.recordKind = recordKindEnrollProvider := by
          simpa [installsKey, other] using installs
        exact admits.enrolls enrolls hasTrustedKey
      have sameKey : decoded.record.devicePublicKey = some known.publicKey := by
        by_contra different
        exact kept ⟨rfl, ofAuthority, .inr ⟨rotates, different⟩⟩
      refine ⟨⟨known.publicKey, decoded.record.membershipEpoch, true⟩, ?_, rfl, rfl⟩
      rw [Roster.after_self]
      simp [Standing.after, installs, sameKey]
    · rw [Roster.after_of_ne ofAuthority]
      exact trusted
  · rw [recordApplied.otherRosters profile (Ne.symm ofProfile)]
    exact trusted

end Records

section Batches

/-- Tables that trust a key for the account authority of a profile. -/
structure TrustsAuthority (scheme : SyncObjectScheme) (profile : String)
    (key : ProfileSyncDevicePublicKey) (db : SlateProfileDatabase) : Prop where
  tables : EnrollmentTables scheme db
  trusted : db.accountAuthorityKey profile = some key

/-- No record that the batch gets applied displaces the account authority. -/
def KeepsAuthority (scheme : SyncObjectScheme) (profile : String)
    (key : ProfileSyncDevicePublicKey) (signedRecords : List (List Nat)) (now : Int)
    (db : SlateProfileDatabase) : Prop :=
  ∀ events next, db.membershipEvents scheme signedRecords now = .ok (events, next) →
    ∀ event ∈ events, event.application.applied = true →
      ¬event.decoded.Displaces profile key

theorem TrustsAuthority.events {decodedRecords : List DecodedMembershipRecord}
    {events : List MembershipEvent} (trusts : TrustsAuthority scheme profile key db)
    (decodes : ∀ decoded ∈ decodedRecords, decoded.Decodes scheme)
    (noted : forEach (applyDecodedNoted scheme now) decodedRecords db = .ok (events, next))
    (keeps : ∀ event ∈ events, event.application.applied = true →
      ¬event.decoded.Displaces profile key) :
    TrustsAuthority scheme profile key next := by
  induction decodedRecords generalizing db events with
  | nil =>
      obtain ⟨-, rfl⟩ := ok_pair_inj noted
      exact trusts
  | cons decoded rest inductionHypothesis =>
      obtain ⟨event, middle, others, first, tail, rfl⟩ := forEach_cons_eq_ok_iff.mp noted
      obtain ⟨⟨application, after⟩, handled, noted⟩ := bind_eq_ok_iff.mp first
      obtain ⟨rfl, rfl⟩ := ok_pair_inj noted
      have decodesFirst := decodes decoded (List.mem_cons_self ..)
      have afterFirst : TrustsAuthority scheme profile key after :=
        ⟨trusts.tables.applyDecoded decodesFirst handled,
          accountAuthorityKey_applyDecoded trusts.tables decodesFirst trusts.trusted handled
            (keeps _ (List.mem_cons_self ..))⟩
      exact inductionHypothesis afterFirst
        (fun other membership => decodes other (List.mem_cons_of_mem _ membership)) tail
        (fun other membership => keeps other (List.mem_cons_of_mem _ membership))

/-- A batch that displaces nothing leaves the authority trusted. -/
theorem TrustsAuthority.batch {signedRecords : List (List Nat)}
    {applications : List SyncAccountMembershipRecordApplication}
    (trusts : TrustsAuthority scheme profile key db)
    (keeps : db.KeepsAuthority scheme profile key signedRecords now)
    (applied : db.applySignedSyncAccountMembershipRecords scheme signedRecords now =
      .ok (applications, next)) : TrustsAuthority scheme profile key next := by
  obtain ⟨events, noted, -⟩ := exists_membershipEvents applied
  obtain ⟨decodedRecords, decoded, run⟩ := bind_eq_ok_iff.mp noted
  exact trusts.events (fun record membership =>
    decodes_of_mem_decodeSignedMembershipRecords decoded membership) run (keeps events next noted)

theorem EnrollmentTables.batch {signedRecords : List (List Nat)}
    {applications : List SyncAccountMembershipRecordApplication}
    (tables : EnrollmentTables scheme db)
    (applied : db.applySignedSyncAccountMembershipRecords scheme signedRecords now =
      .ok (applications, next)) : EnrollmentTables scheme next := by
  obtain ⟨decodedRecords, decoded, run⟩ := bind_eq_ok_iff.mp applied
  exact forEach_invariant (EnrollmentTables scheme)
    (fun record membership _ _ _ handled before => before.applyDecoded
      (decodes_of_mem_decodeSignedMembershipRecords decoded membership) handled) run tables

end Batches

end SlateProfileDatabase

end Slate.Storage
