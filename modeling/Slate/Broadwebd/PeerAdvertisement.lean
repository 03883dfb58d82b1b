import Slate.Storage.ObjectJson

/-!
# Peer advertisements

A device advertises the address of its profile-sync service and signs what it advertises.
The signed payload is a JSON object of its own; it is written but never read: whoever checks
an advertisement writes it again. Failed checks report the text of the request error. The
service address is a socket address, whose syntax is a parameter, or a multiaddr.
-/

namespace Slate.Broadwebd

open Slate.Foundation Slate.Storage

def profileSyncPeerAdvertisementSchemaVersion : Nat := 1
def profileSyncPeerAdvertisementSignatureAlgorithmEd25519 : String := "ed25519"
def profileSyncPeerDiscoveryCapability : String := "profile-sync/service-frame-tcp"

section Addresses

inductive MultiaddrError where
  | empty
  | missingLeadingSlash
  | emptySegment
  | invalidSegment (segment : String)
deriving DecidableEq, Repr

def isAsciiAlphanumeric (char : Char) : Bool :=
  ('a' ≤ char && char ≤ 'z') || ('A' ≤ char && char ≤ 'Z') || ('0' ≤ char && char ≤ '9')

def isValidMultiaddrSegment (segment : List Char) : Bool :=
  !segment.isEmpty && (String.ofList segment).utf8ByteSize ≤ 512 &&
    segment.all fun char => isAsciiAlphanumeric char || "-_.:~%+=".toList.contains char

/-- `Multiaddr::parse`. -/
def parseMultiaddr (input : String) : Except MultiaddrError String := do
  if input.isEmpty then
    throw .empty
  if input.toList.head? ≠ some '/' then
    throw .missingLeadingSlash
  let segments := (input.toList.splitOn '/').drop 1
  if segments.any (·.isEmpty) then
    throw .emptySegment
  if let some segment := segments.find? (!isValidMultiaddrSegment ·) then
    throw (.invalidSegment (String.ofList segment))
  pure input

end Addresses

section Checks

/-- A text of ASCII letters, digits and some other characters, of at most 128 bytes. -/
def validateDiscoveryText (described others : String) (text : String) : Except String Unit :=
  if text.isEmpty ∨ 128 < text.utf8ByteSize ∨
      !text.toList.all fun char => isAsciiAlphanumeric char || others.toList.contains char then
    .error ("invalid profile-sync peer discovery " ++ described ++ ": " ++ String.quote text)
  else .ok ()

def validateDiscoveryToken (label token : String) : Except String Unit :=
  validateDiscoveryText label "-_" token

def validateCapability (capability : String) : Except String Unit :=
  validateDiscoveryText "capability" "-_/" capability

def validateServiceAddr (isSocketAddr : String → Bool) (serviceAddr : String) :
    Except String Unit :=
  if isSocketAddr serviceAddr || (parseMultiaddr serviceAddr).toBool then .ok ()
  else .error ("profile-sync peer discovery service endpoint must be a socket address or " ++
    "multiaddr: " ++ String.quote serviceAddr)

end Checks

structure ProfileSyncPeerAdvertisementSignature where
  version : Nat
  algorithm : String
  deviceId : String
  publicKey : List Nat
  signature : List Nat
deriving DecidableEq, Repr

namespace ProfileSyncPeerAdvertisementSignature

def validate (signature : ProfileSyncPeerAdvertisementSignature) : Except String Unit := do
  validateDiscoveryToken "signature device id" signature.deviceId
  if signature.version ≠ profileSyncPeerAdvertisementSchemaVersion then
    throw ("unsupported profile-sync peer advertisement signature version: " ++
      toString signature.version)
  if signature.algorithm ≠ profileSyncPeerAdvertisementSignatureAlgorithmEd25519 then
    throw ("unsupported profile-sync peer advertisement signature algorithm: " ++
      signature.algorithm)
  if signature.publicKey.length ≠ 32 then
    throw ("profile-sync peer advertisement Ed25519 public key must be 32 bytes, got " ++
      toString signature.publicKey.length)
  if signature.signature.length ≠ 64 then
    throw ("profile-sync peer advertisement Ed25519 signature must be 64 bytes, got " ++
      toString signature.signature.length)

def validateForNode (nodeId : String) (signature : ProfileSyncPeerAdvertisementSignature) :
    Except String Unit := do
  signature.validate
  if signature.deviceId ≠ nodeId then
    throw ("profile-sync peer advertisement signature device " ++ signature.deviceId ++
      " does not match node " ++ nodeId)

end ProfileSyncPeerAdvertisementSignature

structure ProfileSyncPeerAdvertisement where
  networkId : String
  nodeId : String
  providerId : String
  serviceAddr : String
  capabilities : List String
  membershipEpoch : Int
  sequence : Nat
  identitySignature : Option ProfileSyncPeerAdvertisementSignature
deriving DecidableEq, Repr

namespace ProfileSyncPeerAdvertisement

variable (format : JsonFormat) (isSocketAddr : String → Bool)

def validate (advertisement : ProfileSyncPeerAdvertisement) : Except String Unit := do
  validateDiscoveryToken "network id" advertisement.networkId
  validateDiscoveryToken "node id" advertisement.nodeId
  validateDiscoveryToken "provider id" advertisement.providerId
  validateServiceAddr isSocketAddr advertisement.serviceAddr
  if advertisement.capabilities.isEmpty then
    throw "profile-sync peer advertisement requires at least one capability"
  for capability in advertisement.capabilities do
    validateCapability capability
  if advertisement.membershipEpoch < 1 then
    throw ("profile-sync peer advertisement membership epoch must be positive, got " ++
      toString advertisement.membershipEpoch)
  if advertisement.sequence = 0 then
    throw "profile-sync peer advertisement sequence must be positive"
  if let some signature := advertisement.identitySignature then
    signature.validateForNode advertisement.nodeId

/-- `ProfileSyncPeerAdvertisementSigningPayload`: everything but the signature. -/
def signingPayload (advertisement : ProfileSyncPeerAdvertisement) : Json :=
  .object [("schema_version", .integer profileSyncPeerAdvertisementSchemaVersion),
    ("network_id", .string advertisement.networkId), ("node_id", .string advertisement.nodeId),
    ("provider_id", .string advertisement.providerId),
    ("service_addr", .string advertisement.serviceAddr),
    ("capabilities", .array (advertisement.capabilities.map Json.string)),
    ("membership_epoch", .integer advertisement.membershipEpoch),
    ("sequence", .integer advertisement.sequence)]

def signingPayloadBytes (advertisement : ProfileSyncPeerAdvertisement) :
    Except String (List Nat) := do
  advertisement.validate isSocketAddr
  pure (format.toBytes advertisement.signingPayload)

def hasCapability (capability : String) (advertisement : ProfileSyncPeerAdvertisement) : Bool :=
  advertisement.capabilities.any (· == capability)

def supportsProfileSyncServiceFrames (advertisement : ProfileSyncPeerAdvertisement) : Bool :=
  advertisement.hasCapability profileSyncPeerDiscoveryCapability

end ProfileSyncPeerAdvertisement

section Kinds

variable (advertisement : ProfileSyncPeerAdvertisement)

/-- An advertisement has no profile. -/
theorem membershipRecord_ofJson_signingPayload :
    ProfileSyncMembershipRecord.ofJson advertisement.signingPayload =
      .error "missing field `profile`" := by
  simp [ProfileSyncMembershipRecord.ofJson, ProfileSyncPeerAdvertisement.signingPayload,
    Json.asFields, Json.required, Json.field?, bind, Except.bind]

/-- An advertisement has no version. -/
theorem encryptedObject_ofJson_signingPayload :
    EncryptedSyncObject.ofJson advertisement.signingPayload =
      .error "missing field `version`" := by
  simp [EncryptedSyncObject.ofJson, ProfileSyncPeerAdvertisement.signingPayload, Json.asFields,
    Json.required, Json.field?, bind, Except.bind]

/-- The first field of a membership record is its profile. -/
theorem signingPayload_ne_membershipRecord (record : ProfileSyncMembershipRecord) :
    advertisement.signingPayload ≠ record.toJson := by
  simp [ProfileSyncPeerAdvertisement.signingPayload, ProfileSyncMembershipRecord.toJson]

/-- The first field of an encrypted object is its version. -/
theorem signingPayload_ne_encryptedObject (object : EncryptedSyncObject) :
    advertisement.signingPayload ≠ object.toJson := by
  simp [ProfileSyncPeerAdvertisement.signingPayload, EncryptedSyncObject.toJson]

end Kinds

end Slate.Broadwebd
