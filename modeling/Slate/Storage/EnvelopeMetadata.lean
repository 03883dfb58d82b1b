import Slate.Foundation.Delimited
import Slate.Storage.PlainScheme

/-!
# The metadata of an envelope

The profile, the domain, the object kind and the key id of an envelope stand beside its
ciphertext, and are sealed into it as associated data: joined by colons. Colons inside the
fields are not escaped, so that what is sealed in are the pieces between all colons.
-/

namespace Slate.Storage

open Slate.Foundation

/-- The public fields an envelope is sealed with. -/
structure SyncObjectMetadata where
  profile : String
  domain : String
  objectKind : String
  keyId : String
deriving DecidableEq, Repr

namespace SyncObjectMetadata

/-- The pieces between the colons of all the fields. -/
def pieces (metadata : SyncObjectMetadata) : List (List Char) :=
  Text.pieces ':' metadata.profile ++ Text.pieces ':' metadata.domain ++
    Text.pieces ':' metadata.objectKind ++ Text.pieces ':' metadata.keyId

def ColonFree (metadata : SyncObjectMetadata) : Prop :=
  ':' ∉ metadata.profile.toList ∧ ':' ∉ metadata.domain.toList ∧
    ':' ∉ metadata.objectKind.toList ∧ ':' ∉ metadata.keyId.toList

theorem pieces_of_colonFree {metadata : SyncObjectMetadata} (free : metadata.ColonFree) :
    metadata.pieces =
      [metadata.profile.toList, metadata.domain.toList, metadata.objectKind.toList,
        metadata.keyId.toList] := by
  obtain ⟨profile, domain, objectKind, keyId⟩ := free
  rw [pieces, Text.pieces_of_not_mem profile, Text.pieces_of_not_mem domain,
    Text.pieces_of_not_mem objectKind, Text.pieces_of_not_mem keyId]
  rfl

/-- Fields without colons are determined by their pieces. -/
theorem eq_of_pieces_eq {first second : SyncObjectMetadata} (firstFree : first.ColonFree)
    (secondFree : second.ColonFree) (same : first.pieces = second.pieces) : first = second := by
  rw [pieces_of_colonFree firstFree, pieces_of_colonFree secondFree] at same
  simp only [List.cons.injEq, String.toList_inj, and_true] at same
  obtain ⟨profile, domain, objectKind, keyId⟩ := same
  cases first
  cases second
  congr

end SyncObjectMetadata

/-- A ciphertext opens only with the associated data it was sealed with. -/
def SyncObjectScheme.AuthenticatesData (scheme : SyncObjectScheme) : Prop :=
  ∀ contentKey openKey nonce sealedData given plaintext payload,
    scheme.openPayload openKey nonce given
        (scheme.sealPayload contentKey nonce sealedData plaintext) = some payload →
      given = sealedData

section Cipher

/-- What a ciphertext of the authenticating cipher is written from. -/
def sealedParts : Serial (List Nat × List Nat × String × List Nat) :=
  PlainScheme.bytes.pair (PlainScheme.bytes.pair (Serial.text.pair PlainScheme.bytes))

/-- The plain scheme with a cipher that opens only what was sealed under the same key, nonce
and associated data. -/
def authenticatingScheme : SyncObjectScheme :=
  { plainScheme with
    sealPayload := fun contentKey nonce associatedData plaintext =>
      sealedParts.write (contentKey, nonce, associatedData, plaintext)
    openPayload := fun contentKey nonce associatedData ciphertext =>
      match sealedParts.decode ciphertext with
      | some (sealKey, sealNonce, sealedData, plaintext) =>
          if sealKey = contentKey ∧ sealNonce = nonce ∧ sealedData = associatedData then
            some plaintext
          else none
      | none => none }

theorem authenticatingScheme_lawful : authenticatingScheme.Lawful :=
  { plainScheme_lawful with
    opens := by
      intro contentKey nonce associatedData payload _
      simp only [authenticatingScheme, Serial.decode_write, and_self, if_true] }

theorem authenticatingScheme_authenticatesData : authenticatingScheme.AuthenticatesData := by
  intro contentKey openKey nonce sealedData given plaintext payload opened
  simp only [authenticatingScheme, Serial.decode_write] at opened
  split at opened
  · rename_i same
    exact same.2.2.symm
  · cases opened

end Cipher

namespace EncryptedSyncObject

/-- The envelope with other public fields around the same ciphertext. -/
def withMetadata (metadata : SyncObjectMetadata) (object : EncryptedSyncObject) :
    EncryptedSyncObject :=
  { object with
    profile := metadata.profile
    domain := metadata.domain
    objectKind := metadata.objectKind
    keyId := metadata.keyId }

section AssociatedData

theorem toList_colon : ":".toList = [':'] := by decide

/-- Fields behind a header. -/
theorem pieces_join (header : String) (metadata : SyncObjectMetadata) :
    Text.pieces ':' (header ++ ":" ++ metadata.profile ++ ":" ++ metadata.domain ++ ":" ++
      metadata.objectKind ++ ":" ++ metadata.keyId) =
        Text.pieces ':' header ++ metadata.pieces := by
  rw [Text.pieces_append toList_colon, Text.pieces_append toList_colon,
    Text.pieces_append toList_colon, Text.pieces_append toList_colon, SyncObjectMetadata.pieces]
  simp only [List.append_assoc]

/-- What is sealed in beside the version are the pieces of the fields. -/
theorem associatedData_eq_iff (first second : SyncObjectMetadata) (object : EncryptedSyncObject) :
    (object.withMetadata first).associatedData = (object.withMetadata second).associatedData ↔
      first.pieces = second.pieces := by
  rw [← (Text.pieces_injective ':').eq_iff]
  have firstPieces := pieces_join ("slate-profile-sync:v" ++ toString object.version) first
  have secondPieces := pieces_join ("slate-profile-sync:v" ++ toString object.version) second
  unfold associatedData
  simp only [withMetadata, firstPieces, secondPieces]
  exact List.append_right_inj _

end AssociatedData

section Alteration

variable {scheme : SyncObjectScheme}

theorem openWith_eq_ok_iff {contentKey payload : List Nat} {object : EncryptedSyncObject} :
    object.openWith scheme contentKey = .ok payload ↔
      object.version = syncObjectVersion ∧ object.nonce.length = profileSyncNonceBytes ∧
        scheme.openPayload contentKey object.nonce object.associatedData object.ciphertext =
          some payload := by
  unfold openWith
  simp only [check_then_eq_ok_iff, not_not]
  cases scheme.openPayload contentKey object.nonce object.associatedData object.ciphertext with
  | none => simp [throw, throwThe, MonadExceptOf.throw]
  | some opened => simp [pure, Except.pure]

variable (metadata altered : SyncObjectMetadata) (plaintext contentKey nonce : List Nat)

/-- An envelope sealed under some fields and altered to carry others. -/
def sealedThenAltered (scheme : SyncObjectScheme) : EncryptedSyncObject :=
  (sealWithNonce scheme metadata.profile metadata.domain metadata.objectKind metadata.keyId
    plaintext contentKey nonce).withMetadata altered

variable {metadata altered plaintext contentKey nonce}

/-- The ciphertext of an altered envelope is the one sealed under the first fields. -/
theorem sealedThenAltered_ciphertext :
    (sealedThenAltered metadata altered plaintext contentKey nonce scheme).ciphertext =
      scheme.sealPayload contentKey nonce
        (sealedThenAltered metadata metadata plaintext contentKey nonce scheme).associatedData
        plaintext := rfl

theorem sealedThenAltered_associatedData_eq_iff :
    (sealedThenAltered metadata altered plaintext contentKey nonce scheme).associatedData =
        (sealedThenAltered metadata metadata plaintext contentKey nonce scheme).associatedData ↔
      altered.pieces = metadata.pieces :=
  associatedData_eq_iff altered metadata _

/-- Fields with the pieces of the sealed ones open like them. -/
theorem openWith_of_pieces_eq (lawful : scheme.Lawful)
    (sized : nonce.length = profileSyncNonceBytes) (same : altered.pieces = metadata.pieces) :
    (sealedThenAltered metadata altered plaintext contentKey nonce scheme).openWith scheme
      contentKey = .ok plaintext := by
  rw [openWith_eq_ok_iff]
  refine ⟨rfl, sized, ?_⟩
  rw [sealedThenAltered_ciphertext, sealedThenAltered_associatedData_eq_iff.mpr same]
  exact lawful.opens contentKey nonce _ plaintext sized

/-- Fields with other pieces do not open, under whatever key. -/
theorem openWith_ne_ok_of_pieces_ne (authenticates : scheme.AuthenticatesData)
    (differ : altered.pieces ≠ metadata.pieces) (openKey payload : List Nat) :
    (sealedThenAltered metadata altered plaintext contentKey nonce scheme).openWith scheme
      openKey ≠ .ok payload := by
  intro opened
  rw [openWith_eq_ok_iff, sealedThenAltered_ciphertext] at opened
  apply differ
  exact sealedThenAltered_associatedData_eq_iff.mp (authenticates _ _ _ _ _ _ _ opened.2.2)

/-- An altered envelope fails to open exactly if the alteration moves no colon between the
fields: if it changes the pieces between all colons. -/
theorem alteration_rejected_iff (lawful : scheme.Lawful)
    (authenticates : scheme.AuthenticatesData)
    (sized : nonce.length = profileSyncNonceBytes) :
    (altered ≠ metadata → ∀ openKey payload,
        (sealedThenAltered metadata altered plaintext contentKey nonce scheme).openWith scheme
          openKey ≠ .ok payload) ↔
      (altered ≠ metadata → altered.pieces ≠ metadata.pieces) := by
  constructor
  · intro rejected isAltered same
    exact rejected isAltered contentKey plaintext (openWith_of_pieces_eq lawful sized same)
  · intro differ isAltered openKey payload
    exact openWith_ne_ok_of_pieces_ne authenticates (differ isAltered) openKey payload

end Alteration

end EncryptedSyncObject

section Examples

open EncryptedSyncObject

def workMetadata : SyncObjectMetadata where
  profile := "work:settings"
  domain := "settings"
  objectKind := profileSyncManifestObjectKind
  keyId := "content-key-epoch-1"

/-- The colon of the profile has become one of the domain. -/
def movedColonMetadata : SyncObjectMetadata :=
  { workMetadata with profile := "work", domain := "settings:settings" }

theorem movedColonMetadata_pieces : movedColonMetadata.pieces = workMetadata.pieces := by
  decide

/-- An envelope of one profile opens as one of another profile and domain. -/
theorem moved_colon_opens :
    authenticatingScheme.AuthenticatesData ∧ movedColonMetadata ≠ workMetadata ∧
      (sealedThenAltered workMetadata movedColonMetadata [1, 2, 3] [7]
        (List.replicate 12 3) authenticatingScheme).openWith authenticatingScheme [7] =
          .ok [1, 2, 3] :=
  ⟨authenticatingScheme_authenticatesData, by decide,
    openWith_of_pieces_eq authenticatingScheme_lawful rfl movedColonMetadata_pieces⟩

theorem other_domain_rejected :
    ({ workMetadata with domain := "calendar" } ≠ workMetadata → ∀ openKey payload,
        (sealedThenAltered workMetadata { workMetadata with domain := "calendar" } [1, 2, 3] [7]
          (List.replicate 12 3) authenticatingScheme).openWith authenticatingScheme openKey ≠
            .ok payload) ↔
      ({ workMetadata with domain := "calendar" } ≠ workMetadata →
        SyncObjectMetadata.pieces { workMetadata with domain := "calendar" } ≠
          workMetadata.pieces) :=
  alteration_rejected_iff authenticatingScheme_lawful authenticatingScheme_authenticatesData rfl

end Examples

end Slate.Storage
