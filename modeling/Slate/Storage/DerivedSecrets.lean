import Slate.Foundation.Delimited
import Slate.Storage.SyncSecret

/-!
# The derived secrets of a profile

Every key of a profile is expanded from one secret. The salt of a derivation names the
profile; its info names the purpose, the version and the parameters, joined by slashes.
-/

namespace Slate.Storage

open Slate.Foundation

inductive ProfileSyncDerivedSecretPurpose where
  | accountRecovery
  | manifestSigning
  | mutableRootPublishing
  | deviceEnrollment
  | deviceBootstrap
deriving DecidableEq, Repr

structure ProfileSyncDerivedSecret where
  purpose : ProfileSyncDerivedSecretPurpose
  bytes : List Nat
deriving DecidableEq, Repr

namespace SlateSyncSecret

variable (scheme : SyncSecretScheme)

section Derivations

def deriveProfileSyncContentKey (profile keyId : String) (secret : SlateSyncSecret) : List Nat :=
  secret.deriveProfileSyncSecretBytes scheme profile ("content-key/v1/" ++ keyId)

def deriveProfileSyncAccountRecoverySecret (profile : String) (secret : SlateSyncSecret) :
    ProfileSyncDerivedSecret where
  purpose := .accountRecovery
  bytes := secret.deriveProfileSyncSecretBytes scheme profile "account-recovery/v1"

/-- A secret of one device at an epoch; the device id is checked. -/
def deriveDeviceSecret (purpose : ProfileSyncDerivedSecretPurpose) (infoFront : String)
    (profile deviceId : String) (membershipEpoch : Int) (secret : SlateSyncSecret) :
    Except SyncObjectError ProfileSyncDerivedSecret :=
  if isValidSyncIdentifier deviceId then
    .ok
      { purpose
        bytes := secret.deriveProfileSyncSecretBytes scheme profile
          (infoFront ++ toString membershipEpoch ++ "/" ++ deviceId) }
  else .error (.invalidDeviceId deviceId)

def deriveProfileSyncManifestSigningSecret :=
  deriveDeviceSecret scheme .manifestSigning "manifest-signing/v1/"

def deriveProfileSyncEnrollmentSecret :=
  deriveDeviceSecret scheme .deviceEnrollment "enrollment/v1/"

def deriveProfileSyncDeviceBootstrapSecret :=
  deriveDeviceSecret scheme .deviceBootstrap "device-bootstrap/v1/"

/-- A root id is not checked. -/
def deriveProfileSyncMutableRootSecret (profile rootId : String) (membershipEpoch : Int)
    (secret : SlateSyncSecret) : ProfileSyncDerivedSecret where
  purpose := .mutableRootPublishing
  bytes := secret.deriveProfileSyncSecretBytes scheme profile
    ("mutable-root/v1/" ++ toString membershipEpoch ++ "/" ++ rootId)

end Derivations

end SlateSyncSecret

/-- A key that is derived from a secret, with its parameters. -/
inductive ProfileSyncDerivation where
  | contentKey (profile keyId : String)
  | accountRecovery (profile : String)
  | manifestSigning (profile deviceId : String) (membershipEpoch : Int)
  | mutableRoot (profile rootId : String) (membershipEpoch : Int)
  | enrollment (profile targetDeviceId : String) (membershipEpoch : Int)
  | deviceBootstrap (profile deviceId : String) (membershipEpoch : Int)
deriving DecidableEq, Repr

namespace ProfileSyncDerivation

/-- The bytes the code derives. -/
def derive (scheme : SyncSecretScheme) (secret : SlateSyncSecret) :
    ProfileSyncDerivation → Except SyncObjectError (List Nat)
  | contentKey profile keyId => .ok (secret.deriveProfileSyncContentKey scheme profile keyId)
  | accountRecovery profile =>
      .ok (secret.deriveProfileSyncAccountRecoverySecret scheme profile).bytes
  | manifestSigning profile deviceId membershipEpoch =>
      (secret.deriveProfileSyncManifestSigningSecret scheme profile deviceId
        membershipEpoch).map (·.bytes)
  | mutableRoot profile rootId membershipEpoch =>
      .ok (secret.deriveProfileSyncMutableRootSecret scheme profile rootId membershipEpoch).bytes
  | enrollment profile targetDeviceId membershipEpoch =>
      (secret.deriveProfileSyncEnrollmentSecret scheme profile targetDeviceId
        membershipEpoch).map (·.bytes)
  | deviceBootstrap profile deviceId membershipEpoch =>
      (secret.deriveProfileSyncDeviceBootstrapSecret scheme profile deviceId
        membershipEpoch).map (·.bytes)

def profile : ProfileSyncDerivation → String
  | contentKey profile _ => profile
  | accountRecovery profile => profile
  | manifestSigning profile _ _ => profile
  | mutableRoot profile _ _ => profile
  | enrollment profile _ _ => profile
  | deviceBootstrap profile _ _ => profile

def salt (derivation : ProfileSyncDerivation) : String :=
  "slate/profile-sync/" ++ derivation.profile

def info : ProfileSyncDerivation → String
  | contentKey _ keyId => "content-key/v1/" ++ keyId
  | accountRecovery _ => "account-recovery/v1"
  | manifestSigning _ deviceId membershipEpoch =>
      "manifest-signing/v1/" ++ toString membershipEpoch ++ "/" ++ deviceId
  | mutableRoot _ rootId membershipEpoch =>
      "mutable-root/v1/" ++ toString membershipEpoch ++ "/" ++ rootId
  | enrollment _ targetDeviceId membershipEpoch =>
      "enrollment/v1/" ++ toString membershipEpoch ++ "/" ++ targetDeviceId
  | deviceBootstrap _ deviceId membershipEpoch =>
      "device-bootstrap/v1/" ++ toString membershipEpoch ++ "/" ++ deviceId

/-- What is derived is the secret expanded under the derivation's salt and info. -/
theorem eq_hkdf_of_derive {scheme : SyncSecretScheme} {secret : SlateSyncSecret}
    {derivation : ProfileSyncDerivation} {bytes : List Nat}
    (derived : derivation.derive scheme secret = .ok bytes) :
    bytes = scheme.hkdf derivation.salt secret.bytes derivation.info := by
  have ofDevice : ∀ {purpose infoFront profile deviceId membershipEpoch},
      (secret.deriveDeviceSecret scheme purpose infoFront profile deviceId
        membershipEpoch).map (·.bytes) = .ok bytes →
      bytes = secret.deriveProfileSyncSecretBytes scheme profile
        (infoFront ++ toString membershipEpoch ++ "/" ++ deviceId) := by
    intro purpose infoFront profile deviceId membershipEpoch derived
    obtain ⟨derivedSecret, isDerived, rfl⟩ := map_eq_ok_iff.mp derived
    unfold SlateSyncSecret.deriveDeviceSecret at isDerived
    split at isDerived
    · cases isDerived
      rfl
    · cases isDerived
  cases derivation with
  | contentKey => exact (Except.ok.inj derived).symm
  | accountRecovery => exact (Except.ok.inj derived).symm
  | mutableRoot => exact (Except.ok.inj derived).symm
  | manifestSigning => exact ofDevice derived
  | enrollment => exact ofDevice derived
  | deviceBootstrap => exact ofDevice derived

section Separation

/-- The first piece of an info. -/
def label : ProfileSyncDerivation → String
  | contentKey .. => "content-key"
  | accountRecovery _ => "account-recovery"
  | manifestSigning .. => "manifest-signing"
  | mutableRoot .. => "mutable-root"
  | enrollment .. => "enrollment"
  | deviceBootstrap .. => "device-bootstrap"

/-- The pieces behind the label and the version: an epoch has no slash, an id may have some. -/
def parameterPieces : ProfileSyncDerivation → List (List Char)
  | contentKey _ keyId => Text.pieces '/' keyId
  | accountRecovery _ => []
  | manifestSigning _ id membershipEpoch | mutableRoot _ id membershipEpoch
  | enrollment _ id membershipEpoch | deviceBootstrap _ id membershipEpoch =>
      (toString membershipEpoch).toList :: Text.pieces '/' id

theorem toList_slash : "/".toList = ['/'] := by decide

/-- The front of every info with parameters: a label and the version. -/
theorem pieces_labelled {label infoFront : String} (parameters : String)
    (isFront : infoFront = label ++ "/" ++ "v1" ++ "/") (noSlash : '/' ∉ label.toList) :
    Text.pieces '/' (infoFront ++ parameters) =
      label.toList :: "v1".toList :: Text.pieces '/' parameters := by
  have version : '/' ∉ "v1".toList := by decide
  rw [isFront, Text.pieces_append toList_slash, Text.pieces_append toList_slash,
    Text.pieces_of_not_mem noSlash, Text.pieces_of_not_mem version]
  rfl

/-- The info of a device's key at an epoch. -/
theorem pieces_deviceInfo {label infoFront : String} (id : String) (membershipEpoch : Int)
    (isFront : infoFront = label ++ "/" ++ "v1" ++ "/") (noSlash : '/' ∉ label.toList) :
    Text.pieces '/' (infoFront ++ toString membershipEpoch ++ "/" ++ id) =
      label.toList :: "v1".toList :: (toString membershipEpoch).toList ::
        Text.pieces '/' id := by
  have noSlashInEpoch : '/' ∉ (toString membershipEpoch).toList :=
    Text.not_mem_toString membershipEpoch (by decide) (by decide)
  have parameters : infoFront ++ toString membershipEpoch ++ "/" ++ id =
      infoFront ++ (toString membershipEpoch ++ "/" ++ id) := by
    simp only [String.append_assoc]
  rw [parameters, pieces_labelled _ isFront noSlash, Text.pieces_append toList_slash,
    Text.pieces_of_not_mem noSlashInEpoch, List.singleton_append]

theorem pieces_info (derivation : ProfileSyncDerivation) :
    Text.pieces '/' derivation.info =
      derivation.label.toList :: "v1".toList :: derivation.parameterPieces := by
  cases derivation with
  | contentKey profile keyId =>
      exact @pieces_labelled "content-key" _ keyId (by decide) (by decide)
  | accountRecovery profile =>
      have pieces : Text.pieces '/' "account-recovery/v1" =
        ["account-recovery".toList, "v1".toList] := by decide
      exact pieces
  | manifestSigning profile deviceId membershipEpoch =>
      exact @pieces_deviceInfo "manifest-signing" _ deviceId membershipEpoch
        (by decide) (by decide)
  | mutableRoot profile rootId membershipEpoch =>
      exact @pieces_deviceInfo "mutable-root" _ rootId membershipEpoch (by decide) (by decide)
  | enrollment profile targetDeviceId membershipEpoch =>
      exact @pieces_deviceInfo "enrollment" _ targetDeviceId membershipEpoch
        (by decide) (by decide)
  | deviceBootstrap profile deviceId membershipEpoch =>
      exact @pieces_deviceInfo "device-bootstrap" _ deviceId membershipEpoch
        (by decide) (by decide)

theorem eq_of_parameterPieces_eq {first second : ProfileSyncDerivation}
    (sameLabel : first.label = second.label) (sameProfile : first.profile = second.profile)
    (sameParameters : first.parameterPieces = second.parameterPieces) : first = second := by
  cases first <;> cases second <;>
    simp only [label, String.reduceEq] at sameLabel <;>
    simp only [parameterPieces, List.cons.injEq, String.toList_inj,
      Text.toString_injective.eq_iff, (Text.pieces_injective '/').eq_iff] at sameParameters <;>
    simp_all only [profile]

/-- The salt and the info of a derivation determine it. -/
theorem eq_of_salt_eq_of_info_eq {first second : ProfileSyncDerivation}
    (sameSalt : first.salt = second.salt) (sameInfo : first.info = second.info) :
    first = second := by
  have sameProfile : first.profile = second.profile :=
    (String.append_right_inj _).mp sameSalt
  have samePieces := congrArg (Text.pieces '/') sameInfo
  rw [pieces_info, pieces_info] at samePieces
  obtain ⟨sameLabel, sameVersion⟩ := List.cons.inj samePieces
  have sameParameters := (List.cons.inj sameVersion).2
  exact eq_of_parameterPieces_eq (String.toList_inj.mp sameLabel) sameProfile sameParameters

/-- Keys that differ in their purpose or in a parameter are expanded under different salts or
infos. -/
theorem derivations_separated :
    (∀ scheme secret (derivation : ProfileSyncDerivation) bytes,
      derivation.derive scheme secret = .ok bytes →
        bytes = scheme.hkdf derivation.salt secret.bytes derivation.info) ∧
      ∀ first second : ProfileSyncDerivation, first ≠ second →
        (first.salt, first.info) ≠ (second.salt, second.info) := by
  constructor
  · intro scheme secret derivation bytes derived
    exact eq_hkdf_of_derive derived
  · intro first second differ same
    obtain ⟨sameSalt, sameInfo⟩ := Prod.mk.inj same
    exact differ (eq_of_salt_eq_of_info_eq sameSalt sameInfo)

end Separation

end ProfileSyncDerivation

end Slate.Storage
