import Nstu.Control.Protocol

/-!
# Authentication messages

The handshake half of `auth.cpp`: what a client and a server say to each other before the channel
is there, and the three digests they compute over it.

HMAC-SHA-256 is a parameter.  The three digests have labels of their own and cover the hello and
the challenge in full, so that a digest says which of the three it is and what it is about
(`makeTranscript_inj`).
-/

namespace Nstu.Control

open Wire Reader

def kMinimumProtocolKeyBytes : ℕ := 32
def kAuthHelloBytes : ℕ := 60
def kAuthChallengeBytes : ℕ := 40

/-- `security::Nonce`. -/
abbrev Nonce := Block 32

structure AuthHello where
  clientId : ClientId
  clientNonce : Nonce
  unixTimeSeconds : UInt64
  keyId : UInt32
  deriving DecidableEq

structure AuthChallenge where
  serverNonce : Nonce
  unixTimeSeconds : UInt64
  deriving DecidableEq

/-! ## On the wire -/

def encodeAuthHello (hello : AuthHello) : Bytes :=
  [hello.clientId.toList, hello.clientNonce.toList, le hello.unixTimeSeconds, le hello.keyId].flatten

def readAuthHello : Reader AuthHello := do
  let clientId ← readBlock 16
  let clientNonce ← readBlock 32
  let unixTimeSeconds : UInt64 ← readLe
  let keyId : UInt32 ← readLe
  pure ⟨clientId, clientNonce, unixTimeSeconds, keyId⟩

def decodeAuthHello (wire : Bytes) : Option AuthHello :=
  if wire.length ≠ kAuthHelloBytes then none else (readAuthHello.run wire).map Prod.fst

def encodeAuthChallenge (challenge : AuthChallenge) : Bytes :=
  [challenge.serverNonce.toList, le challenge.unixTimeSeconds].flatten

def readAuthChallenge : Reader AuthChallenge := do
  let serverNonce ← readBlock 32
  let unixTimeSeconds : UInt64 ← readLe
  pure ⟨serverNonce, unixTimeSeconds⟩

def decodeAuthChallenge (wire : Bytes) : Option AuthChallenge :=
  if wire.length ≠ kAuthChallengeBytes then none else (readAuthChallenge.run wire).map Prod.fst

def validateAuthHello (hello : AuthHello) : Bool :=
  !allZero hello.clientId.toList && !allZero hello.clientNonce.toList &&
    hello.unixTimeSeconds != 0 && hello.keyId != 0

def validateAuthChallenge (challenge : AuthChallenge) : Bool :=
  !allZero challenge.serverNonce.toList && challenge.unixTimeSeconds != 0

def timeIsValid (peerTime now : UInt64) (maximumClockSkew : ℤ) : Bool :=
  let allowed := (max maximumClockSkew 1).toNat
  let difference :=
    if peerTime > now then peerTime.toNat - now.toNat else now.toNat - peerTime.toNat
  difference ≤ allowed

/-! ## Digests -/

/-- A label, without the terminating zero. -/
def labelBytes (label : String) : Bytes := label.toList.map fun c => UInt8.ofNat c.toNat

lemma length_take_digest (digest : Digest) : (digest.toList.take 16).length = 16 := by
  rw [List.length_take, Block.length_toList]
  rfl

def makeTranscript (label : String) (hello : AuthHello) (challenge : AuthChallenge) : Bytes :=
  labelBytes label ++ (encodeAuthHello hello ++ encodeAuthChallenge challenge)

def clientProofLabel : String := "NSTU-CLIENT-PROOF-V1"
def sessionKeyLabel : String := "NSTU-SESSION-KEY-V1"
def serverProofLabel : String := "NSTU-SERVER-PROOF-V1"

/-- `std::numeric_limits<ULONG>::max()`. -/
def maximumUlong : ℕ := 2 ^ 32 - 1

section Digests

variable (hmac : Bytes → Bytes → Digest)

/-- `hmac_sha256`, where the provider does its work. -/
def hmacSha256 (key message : Bytes) : Option Digest :=
  if key.isEmpty || key.length > maximumUlong || message.length > maximumUlong then none
  else some (hmac key message)

/-- What the three digests have in common. -/
def transcriptDigest (label : String) (key : Bytes) (hello : AuthHello) (challenge : AuthChallenge) :
    Option Digest :=
  if key.length < kMinimumProtocolKeyBytes || !validateAuthHello hello || !validateAuthChallenge challenge then none
  else hmacSha256 hmac key (makeTranscript label hello challenge)

def computeClientProof := transcriptDigest hmac clientProofLabel

def deriveSessionKey := transcriptDigest hmac sessionKeyLabel

def computeServerProof := transcriptDigest hmac serverProofLabel

/-- The keys and the first nonces of the two directions. -/
structure AeadSessionKeys where
  clientToServerKey : Digest
  serverToClientKey : Digest
  clientToServerIv : Block 12
  serverToClientIv : Block 12
  deriving DecidableEq

/-- The first bytes of a digest. -/
def nonceOf (digest : Digest) : Block 12 := ⟨digest.toList.take 12, by simp⟩

def deriveAeadSessionKeys (sessionKey : Bytes) : Option AeadSessionKeys :=
  if sessionKey.length < kMinimumProtocolKeyBytes then none
  else do
    let clientToServerKey ← hmacSha256 hmac sessionKey (labelBytes "NSTU-AEAD-C2S-KEY-V1")
    let serverToClientKey ← hmacSha256 hmac sessionKey (labelBytes "NSTU-AEAD-S2C-KEY-V1")
    let clientToServerIv ← hmacSha256 hmac sessionKey (labelBytes "NSTU-AEAD-C2S-IV-V1")
    let serverToClientIv ← hmacSha256 hmac sessionKey (labelBytes "NSTU-AEAD-S2C-IV-V1")
    some ⟨clientToServerKey, serverToClientKey, nonceOf clientToServerIv, nonceOf serverToClientIv⟩

variable {hmac}

end Digests

/-! ## Transcripts -/

@[simp] lemma length_encodeAuthHello (hello : AuthHello) : (encodeAuthHello hello).length = kAuthHelloBytes := by
  simp [encodeAuthHello, kAuthHelloBytes]

lemma encodeAuthHello_injective : Function.Injective encodeAuthHello := by
  rintro ⟨clientId, clientNonce, time, keyId⟩ ⟨clientId', clientNonce', time', keyId'⟩ h
  simp only [encodeAuthHello, List.flatten_cons, List.flatten_nil, List.append_nil] at h
  obtain ⟨hc, h⟩ := List.append_inj h (by simp)
  obtain ⟨hn, h⟩ := List.append_inj h (by simp)
  obtain ⟨ht, hk⟩ := List.append_inj h (by simp)
  obtain rfl := Block.toList_injective hc
  obtain rfl := Block.toList_injective hn
  obtain rfl := le_injective ht
  obtain rfl := le_injective hk
  rfl

lemma encodeAuthChallenge_injective : Function.Injective encodeAuthChallenge := by
  rintro ⟨serverNonce, time⟩ ⟨serverNonce', time'⟩ h
  simp only [encodeAuthChallenge, List.flatten_cons, List.flatten_nil, List.append_nil] at h
  obtain ⟨hn, ht⟩ := List.append_inj h (by simp)
  obtain rfl := Block.toList_injective hn
  obtain rfl := le_injective ht
  rfl

/-- **A transcript covers the hello and the challenge in full.** -/
lemma makeTranscript_inj {label : String} {hello hello' : AuthHello} {challenge challenge' : AuthChallenge}
    (h : makeTranscript label hello challenge = makeTranscript label hello' challenge') :
    hello = hello' ∧ challenge = challenge' := by
  have hr := List.append_cancel_left h
  obtain ⟨hh, hc⟩ := List.append_inj hr (by simp)
  exact ⟨encodeAuthHello_injective hh, encodeAuthChallenge_injective hc⟩

end Nstu.Control
