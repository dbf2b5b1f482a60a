import Nstu.Control.Auth

/-!
# Pairing

The messages and the derivation of `pairing.cpp`: an unenrolled client and the server agree on a key,
and an operator compares the code that both of them show.

The key agreement of the platform is left to it; from the shared secret on everything is computed
here, with SHA-256 and HMAC-SHA-256 as parameters.
-/

namespace Nstu.Control.Pairing

open Wire Reader

def kPairingVersion : UInt16 := 1
def kSasDigits : ℕ := 6
def kMaximumIdentityBytes : ℕ := 128
def kMaximumPublicKeyBytes : ℕ := 256
def kMaximumPairingMessageBytes : ℕ := 1024

inductive KeyAgreement where
  | x25519
  | nistP256
  deriving DecidableEq

namespace KeyAgreement

def raw : KeyAgreement → UInt16
  | x25519 => 1
  | nistP256 => 2

/-- The agreement with a raw value, if it is a known one. -/
def ofRaw (value : UInt16) : Option KeyAgreement :=
  [x25519, nistP256].find? fun agreement => agreement.raw == value

end KeyAgreement

structure PairingHello where
  version : UInt16 := kPairingVersion
  agreement : KeyAgreement
  clientUuid : Bytes
  clientHostname : Bytes
  clientPublicKey : Bytes
  clientNonce : Nonce
  deriving DecidableEq

structure PairingOffer where
  version : UInt16 := kPairingVersion
  agreement : KeyAgreement
  serverPublicKey : Bytes
  serverNonce : Nonce
  deriving DecidableEq

structure PairingTranscript where
  version : UInt16
  agreement : KeyAgreement
  clientUuid : Bytes
  clientHostname : Bytes
  clientPublicKey : Bytes
  serverPublicKey : Bytes
  clientNonce : Nonce
  serverNonce : Nonce
  deriving DecidableEq

structure PairingSecrets where
  confirmKey : Digest
  enrolledKey : Digest
  shortAuthenticationString : Bytes
  deriving DecidableEq

inductive ConfirmationRole where
  | client
  | server
  deriving DecidableEq

def ConfirmationRole.label : ConfirmationRole → String
  | client => "nstu-pair-tag-client-v1"
  | server => "nstu-pair-tag-server-v1"

/-- `valid_identity`: printable ASCII. -/
def validIdentity (value : Bytes) : Bool :=
  !value.isEmpty && value.length ≤ kMaximumIdentityBytes && value.all fun byte => 0x20 ≤ byte && byte < 0x7f

def validPublicKey (key : Bytes) : Bool := !key.isEmpty && key.length ≤ kMaximumPublicKeyBytes

/-! ## Messages -/

/-- `read_text` and `read_blob`: a length and as many bytes. -/
def readBlob : Reader Bytes := do
  let length : UInt16 ← readLe
  readBytes length.toNat

def readPairingHello : Reader PairingHello := do
  let version : UInt16 ← readLe
  let rawAgreement : UInt16 ← readLe
  let clientUuid ← readBlob
  let clientHostname ← readBlob
  let clientPublicKey ← readBlob
  let clientNonce ← readBlock 32
  let left ← remaining
  require (left = 0)
  require (version ≠ 0)
  let agreement ← ofOption (KeyAgreement.ofRaw rawAgreement)
  require (validIdentity clientUuid = true)
  require (validIdentity clientHostname = true)
  require (validPublicKey clientPublicKey = true)
  require (allZero clientNonce.toList = false)
  pure ⟨version, agreement, clientUuid, clientHostname, clientPublicKey, clientNonce⟩

def decodePairingHello (payload : Bytes) : Option PairingHello :=
  if payload.length > kMaximumPairingMessageBytes then none
  else (readPairingHello.run payload).map Prod.fst

def encodePairingHello (hello : PairingHello) : Bytes :=
  if !validIdentity hello.clientUuid || !validIdentity hello.clientHostname ||
      !validPublicKey hello.clientPublicKey || hello.version = 0 || allZero hello.clientNonce.toList then []
  else
    [le hello.version, le hello.agreement.raw, le (UInt16.ofNat hello.clientUuid.length),
      hello.clientUuid, le (UInt16.ofNat hello.clientHostname.length), hello.clientHostname,
      le (UInt16.ofNat hello.clientPublicKey.length), hello.clientPublicKey,
      hello.clientNonce.toList].flatten

def encodePairingOffer (offer : PairingOffer) : Bytes :=
  if !validPublicKey offer.serverPublicKey || offer.version = 0 || allZero offer.serverNonce.toList then []
  else
    [le offer.version, le offer.agreement.raw, le (UInt16.ofNat offer.serverPublicKey.length),
      offer.serverPublicKey, offer.serverNonce.toList].flatten

/-- `decode_pairing_confirm`: the tag of the client. -/
def decodePairingConfirm (payload : Bytes) : Option Digest := ((readBlock 32).run payload).bind fun tag =>
  if tag.2 = [] then some tag.1 else none

/-! ## The transcript and what is derived from it -/

def validTranscript (transcript : PairingTranscript) : Bool :=
  transcript.version != 0 && validIdentity transcript.clientUuid &&
    validIdentity transcript.clientHostname && validPublicKey transcript.clientPublicKey &&
    validPublicKey transcript.serverPublicKey && !allZero transcript.clientNonce.toList &&
    !allZero transcript.serverNonce.toList

def makeTranscript (hello : PairingHello) (offer : PairingOffer) : Option PairingTranscript :=
  if hello.version ≠ offer.version ∨ hello.agreement ≠ offer.agreement then none
  else
    let transcript : PairingTranscript :=
      { version := hello.version
        agreement := hello.agreement
        clientUuid := hello.clientUuid
        clientHostname := hello.clientHostname
        clientPublicKey := hello.clientPublicKey
        serverPublicKey := offer.serverPublicKey
        clientNonce := hello.clientNonce
        serverNonce := offer.serverNonce }
    if validTranscript transcript then some transcript else none

def encodeTranscript (transcript : PairingTranscript) : Option Bytes :=
  if !validTranscript transcript then none
  else
    some [labelBytes "NSTP", le transcript.version, le transcript.agreement.raw,
      le (UInt16.ofNat transcript.clientUuid.length), transcript.clientUuid,
      le (UInt16.ofNat transcript.clientHostname.length), transcript.clientHostname,
      le (UInt16.ofNat transcript.clientPublicKey.length), transcript.clientPublicKey,
      le (UInt16.ofNat transcript.serverPublicKey.length), transcript.serverPublicKey,
      transcript.clientNonce.toList, transcript.serverNonce.toList].flatten

/-- `format_sas`: six decimal digits of the first eight bytes. -/
def formatSas (digest : Digest) : Bytes :=
  let value := (digest.toList.take 8).foldl (fun value byte => value * 256 + byte.toNat) 0
  (List.range kSasDigits).map fun place =>
    UInt8.ofNat (48 + value % 10 ^ kSasDigits / 10 ^ (kSasDigits - 1 - place) % 10)

section Derivation

variable (sha256 : Bytes → Digest) (hmac : Bytes → Bytes → Digest)

def hkdfSha256 (inputKeyMaterial salt info : Bytes) : Option Digest :=
  if inputKeyMaterial = [] then none
  else
    match hmacSha256 hmac salt inputKeyMaterial with
    | none => none
    | some pseudoRandomKey => hmacSha256 hmac pseudoRandomKey.toList (info ++ [1])

def derivePairingSecrets (sharedSecret : Bytes) (transcript : PairingTranscript) :
    Option PairingSecrets :=
  if sharedSecret.length < kMinimumProtocolKeyBytes then none
  else
    match encodeTranscript transcript with
    | none => none
    | some encoded =>
      let derive := fun label => hkdfSha256 hmac sharedSecret (sha256 encoded).toList (labelBytes label)
      match derive "nstu-pair-confirm-v1", derive "nstu-pair-sas-v1", derive "nstu-pair-key-v1" with
      | some confirm, some sasMaterial, some enrolled => some ⟨confirm, enrolled, formatSas sasMaterial⟩
      | _, _, _ => none

/-- `tag_for_role`. -/
def confirmationTag (secrets : PairingSecrets) (transcript : PairingTranscript)
    (role : ConfirmationRole) : Option Digest :=
  match encodeTranscript transcript with
  | none => none
  | some encoded => hmacSha256 hmac secrets.confirmKey.toList (labelBytes role.label ++ encoded)

def verifyConfirmationTag (secrets : PairingSecrets) (transcript : PairingTranscript)
    (role : ConfirmationRole) (received : Digest) : Bool :=
  confirmationTag hmac secrets transcript role == some received

def clientIdFromUuid (uuid : Bytes) : Option ClientId :=
  if uuid = [] ∨ uuid.length > kMaximumIdentityBytes then none
  else
    some ⟨(sha256 (labelBytes "NSTU-CLIENT-ID-V1" ++ uuid)).toList.take 16, length_take_digest _⟩

end Derivation

end Nstu.Control.Pairing
