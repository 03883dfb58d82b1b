import Slate.Storage.PlainScheme
import Slate.Storage.SyncSecret

/-!
# A scheme of secrets that can be run

Derived bytes are the key material with the salt and the label behind it, and a secret is
written as a text of one run of letters for each of its numbers.
-/

namespace Slate.Storage

open Slate.Foundation

namespace PlainScheme

def secretExport : Serial SlateSyncSecretExport :=
  (Serial.text.pair (Serial.nat.pair (Serial.text.pair Serial.int))).via
    (fun secretExport => (secretExport.profile, secretExport.schemaVersion,
      secretExport.secret, secretExport.createdAt))
    (fun fields => ⟨fields.1, fields.2.1, fields.2.2.1, fields.2.2.2⟩)
    (fun _ => rfl)

def enrollmentBundle : Serial ProfileSyncEnrollmentBundle :=
  (Serial.text.pair (Serial.nat.pair (Serial.text.pair (Serial.int.pair bytes.list)))).via
    (fun bundle => (bundle.profile, bundle.schemaVersion, bundle.targetDeviceId,
      bundle.createdAt, bundle.signedMembershipRecords))
    (fun fields => ⟨fields.1, fields.2.1, fields.2.2.1, fields.2.2.2.1, fields.2.2.2.2⟩)
    (fun _ => rfl)

def handoffBundle : Serial ProfileSyncSecretHandoffBundle :=
  (Serial.text.pair (Serial.nat.pair (Serial.text.pair (Serial.int.pair
    (secretExport.pair enrollmentBundle))))).via
    (fun bundle => (bundle.profile, bundle.schemaVersion, bundle.targetDeviceId,
      bundle.createdAt, bundle.syncSecretExport, bundle.enrollmentBundle))
    (fun fields => ⟨fields.1, fields.2.1, fields.2.2.1, fields.2.2.2.1, fields.2.2.2.2.1,
      fields.2.2.2.2.2⟩)
    (fun _ => rfl)

/-- Each number as a run of letters. -/
def writeRuns : List Nat → List Char
  | [] => []
  | number :: rest => List.replicate number 'o' ++ '.' :: writeRuns rest

/-- Read runs, some letters of the first of which were read already. -/
def readRuns : Nat → List Char → Option (List Nat)
  | 0, [] => some []
  | _ + 1, [] => none
  | count, letter :: rest =>
      if letter = '.' then (readRuns 0 rest).map (count :: ·) else readRuns (count + 1) rest

theorem readRuns_writeRuns (numbers : List Nat) : readRuns 0 (writeRuns numbers) = some numbers := by
  have letters (count number : Nat) (rest : List Char) :
      readRuns count (List.replicate number 'o' ++ '.' :: rest) =
        (readRuns 0 rest).map ((count + number) :: ·) := by
    induction number generalizing count with
    | zero => simp [readRuns]
    | succ number inductionHypothesis =>
        rw [List.replicate_succ, List.cons_append, readRuns, if_neg (by decide),
          inductionHypothesis, Nat.add_assoc, Nat.add_comm 1]
  induction numbers with
  | nil => rfl
  | cons number rest inductionHypothesis =>
      rw [writeRuns, letters, inductionHypothesis, Option.map_some, Nat.zero_add]

end PlainScheme

open PlainScheme in
/-- The plain scheme, with a mark in front of every public key. -/
def plainSecretScheme : SyncSecretScheme where
  objects :=
    { plainScheme with
      publicKey := fun privateKey => 1 :: privateKey
      signPayload := fun privateKey payload => 1 :: privateKey ++ payload }
  hkdf salt material label := material ++ (salt.toList ++ label.toList).map Char.toNat
  encodeSecret numbers := String.ofList (writeRuns numbers)
  decodeSecret text := readRuns 0 text.toList
  secretExport := codec secretExport
  handoffBundle := codec handoffBundle

theorem plainSecretScheme_lawful : plainSecretScheme.Lawful where
  objects :=
    { plainScheme_lawful with
      verify := fun privateKey payload => beq_self_eq_true (1 :: privateKey ++ payload) }
  signed_ne_nil _ := List.cons_ne_nil _ _
  membershipRecord := PlainScheme.codec_fromBytes_toBytes PlainScheme.membershipRecord
  publicKey_ne_nil _ := List.cons_ne_nil _ _
  decodeSecret numbers := by
    simp only [plainSecretScheme, String.toList_ofList]
    exact PlainScheme.readRuns_writeRuns numbers

end Slate.Storage
