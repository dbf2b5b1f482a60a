import Mathlib.Data.List.Dedup
import Nstu.Exam.Journal.Log

/-!
# The outbox file

The client's write-ahead outbox on disk: `encode_outbox` serialises the pending events and one
watermark per session, and `protect_outbox_wire` wraps the result in a machine secret.

`protect_machine_secret` and `unprotect_machine_secret` call the operating system; they are the
parameter `MachineSecrets`, and `MachineSecrets.Sound` states what is assumed of them.  The provider
may randomise what it produces, so protecting takes a salt.

`open` reads four format versions.  The readers here follow it step by step, with the message each
step fails with; what they accept is turned into sessions in `Nstu.Exam.Outbox.Def`.
-/

namespace Nstu

open Wire Wire.Reader Wire.Parser

def kOutboxMagic : UInt32 := 0x3158424f
def kEncryptedOutboxMagic : UInt32 := 0x31424f45
def kOutboxVersion : UInt16 := 4
def kOutboxWatermarkVersion : UInt16 := 2
def kOutboxAcknowledgementVersion : UInt16 := 3
def kOutboxFinalizationVersion : UInt16 := 4
def kOutboxLegacyVersion : UInt16 := 1
def kMaximumOutboxWatermarks : ℕ := 4096

/-- The provider adds a wrapper around the outbox, so the stored form may be longer. -/
def kMaximumStoredOutboxBytes : ℕ := kMaximumOutboxBytes + 64 * 1024

/-! ## Watermarks -/

@[ext]
structure OutboxWatermark where
  packageId : Bytes
  packageDigest : Digest
  clientId : ClientId
  sessionId : SessionId
  candidateId : Bytes
  highestSequence : UInt64
  lastHash : Digest
  acknowledgedSequence : UInt64
  acknowledgedHash : Digest
  finalized : Bool

abbrev Watermarks := OrderedMap Bytes OutboxWatermark

def validWatermark (watermark : OutboxWatermark) : Bool :=
  !watermark.packageId.isEmpty && watermark.packageId.length ≤ kMaximumPackageIdBytes &&
    !watermark.candidateId.isEmpty && watermark.candidateId.length ≤ kMaximumCandidateIdBytes &&
    !allZero watermark.packageDigest.toList && !allZero watermark.clientId.toList &&
    !allZero watermark.sessionId.toList && watermark.highestSequence != 0 &&
    !allZero watermark.lastHash.toList &&
    watermark.acknowledgedSequence ≤ watermark.highestSequence &&
    (if watermark.acknowledgedSequence == 0 then allZero watermark.acknowledgedHash.toList
      else !allZero watermark.acknowledgedHash.toList)

/-- The key a watermark is stored under. -/
def OutboxWatermark.key (watermark : OutboxWatermark) : Bytes :=
  sessionKeyOf watermark.packageId watermark.packageDigest watermark.clientId watermark.sessionId

def watermarkFor (event : AnswerEvent) (eventHash : Digest) (highestSequence : UInt64) :
    OutboxWatermark :=
  ⟨event.packageId, event.packageDigest, event.clientId, event.sessionId, event.candidateId,
    highestSequence, eventHash, 0, Block.zero 32, event.kind == .finalize⟩

def sameWatermarkContext (watermark : OutboxWatermark) (event : AnswerEvent) : Bool :=
  watermark.packageId == event.packageId && watermark.packageDigest == event.packageDigest &&
    watermark.clientId == event.clientId && watermark.sessionId == event.sessionId &&
    watermark.candidateId == event.candidateId

def sameEventBodyExceptPredecessor (left right : AnswerEvent) : Bool :=
  left.packageId == right.packageId && left.packageDigest == right.packageDigest &&
    left.clientId == right.clientId && left.sessionId == right.sessionId &&
    left.candidateId == right.candidateId && left.questionId == right.questionId &&
    left.questionRevision == right.questionRevision && left.sequence == right.sequence &&
    left.clientTimeUnixMilliseconds == right.clientTimeUnixMilliseconds &&
    left.kind == right.kind && left.answer == right.answer

/-! ## Writing -/

/-- `append_bounded_string`; `none` stands for `false`. -/
def boundedString (value : Bytes) (maximum : ℕ) : Option Bytes :=
  if value.isEmpty || value.length > maximum || value.length > 2 ^ 16 - 1 then none
  else some (le (UInt16.ofNat value.length) ++ value)

/-- One watermark as `encode_outbox` writes it, or `none` when that makes it return nothing. -/
def encodeWatermark (watermark : OutboxWatermark) : Option Bytes :=
  if !validWatermark watermark then none
  else
    match boundedString watermark.packageId kMaximumPackageIdBytes,
      boundedString watermark.candidateId kMaximumCandidateIdBytes with
    | some packageId, some candidateId =>
      some [packageId, candidateId, watermark.packageDigest.toList, watermark.clientId.toList,
        watermark.sessionId.toList, le watermark.highestSequence, watermark.lastHash.toList,
        le watermark.acknowledgedSequence, watermark.acknowledgedHash.toList,
        le (if watermark.finalized then 1 else 0 : UInt8)].flatten
    | _, _ => none

/-- One pending event as `encode_outbox` writes it. -/
def encodeOutboxEvent (event : AnswerEvent) : Option Bytes :=
  let payload := encodeAnswerEvent event
  if payload.isEmpty || payload.length > kMaximumWireBytes then none
  else some (le (UInt32.ofNat payload.length) ++ payload)

def encodeOutbox (events : List AnswerEvent) (watermarks : Watermarks) : Bytes :=
  if events.length > kMaximumOutboxEvents || watermarks.size > kMaximumOutboxWatermarks then []
  else
    match (watermarks.toList.map Prod.snd).mapM encodeWatermark, events.mapM encodeOutboxEvent with
    | some watermarkWires, some eventWires =>
      let wire := [le kOutboxMagic, le kOutboxVersion, le (0 : UInt16),
        le (UInt32.ofNat events.length), le (UInt32.ofNat watermarks.size),
        watermarkWires.flatten, eventWires.flatten].flatten
      if wire.length ≤ kMaximumOutboxBytes then wire else []
    | _, _ => []

/-! ## The machine secret -/

/-- `protect_machine_secret` and `unprotect_machine_secret` with the outbox entropy.  Failure is the
empty string. -/
structure MachineSecrets where
  protect : ℕ → Bytes → Bytes
  unprotect : Bytes → Bytes

/-- Unprotecting inverts protecting. -/
structure MachineSecrets.Sound (secrets : MachineSecrets) : Prop where
  inverse : ∀ salt plaintext, plaintext ≠ [] → secrets.unprotect (secrets.protect salt plaintext) = plaintext

/-- What one write of the outbox file meets. -/
structure OutboxCalls where
  /-- The randomness the provider uses. -/
  salt : ℕ
  /-- `CryptProtectData` succeeds. -/
  protects : Bool
  /-- `write_all_file` succeeds; it replaces the file as a whole or not at all. -/
  writes : Bool

/-- The wrapped outbox. -/
def storedOutbox (plaintextSize : ℕ) (blob : Bytes) : Bytes :=
  [le kEncryptedOutboxMagic, le (1 : UInt16), le (0 : UInt16), le (UInt32.ofNat plaintextSize), blob].flatten

def protectOutboxWire (secrets : MachineSecrets) (calls : OutboxCalls) (plaintext : Bytes) :
    Except String Bytes :=
  if plaintext.isEmpty || plaintext.length > kMaximumOutboxBytes || plaintext.length > 2 ^ 32 - 1 then
    .error "outbox plaintext exceeds the configured quota"
  else if !calls.protects then .error "CryptProtectData failed"
  else
    let blob := secrets.protect calls.salt plaintext
    if blob.isEmpty then .error ""
    else if blob.length > kMaximumStoredOutboxBytes - 12 then
      .error "encrypted outbox exceeds the configured quota"
    else
      let wire := storedOutbox plaintext.length blob
      if wire.length > kMaximumStoredOutboxBytes then
        .error "encrypted outbox exceeds the configured quota"
      else .ok wire

/-- `write_outbox_file`: the new contents of the file. -/
def writeOutboxFile (secrets : MachineSecrets) (calls : OutboxCalls) (plaintext : Bytes) :
    Except String Bytes :=
  match protectOutboxWire secrets calls plaintext with
  | .error error => .error error
  | .ok stored => if calls.writes then .ok stored else .error "journal atomic write failed"

/-- The header of a wrapped outbox: the size of the plaintext. -/
def readStoredHeader : Reader UInt32 := do
  let magic : UInt32 ← readLe
  require (magic = kEncryptedOutboxMagic)
  let version : UInt16 ← readLe
  require (version = 1)
  let reserved : UInt16 ← readLe
  require (reserved = 0)
  let plaintextSize : UInt32 ← readLe
  require (plaintextSize ≠ 0)
  require (plaintextSize.toNat ≤ kMaximumOutboxBytes)
  let left ← remaining
  require (0 < left)
  pure plaintextSize

/-- `unprotect_outbox_wire`, with the message `open` reports when it comes back empty. -/
def unprotectOutboxWire (secrets : MachineSecrets) (stored : Bytes) : Except String Bytes :=
  if stored.length < 12 || stored.length > kMaximumStoredOutboxBytes then
    .error "encrypted outbox could not be opened"
  else match readStoredHeader.run stored with
  | none => .error "encrypted outbox header is invalid"
  | some (plaintextSize, blob) =>
    let plaintext := secrets.unprotect blob
    if plaintext.length != plaintextSize.toNat then
      .error "encrypted outbox payload size is invalid"
    else .ok plaintext

/-! ## Reading -/

def readBoundedString (maximum : ℕ) : Reader Bytes := do
  let length : UInt16 ← readLe
  require (length ≠ 0)
  require (length.toNat ≤ maximum)
  let value ← readBytes length.toNat
  require ((0 : UInt8) ∉ value)
  pure value

/-- The reserved word that version 2 introduced. -/
def readReserved (version : UInt16) : Reader Unit :=
  if kOutboxWatermarkVersion ≤ version then do
    let reserved : UInt16 ← readLe
    require (reserved = 0)
    pure ()
  else pure ()

/-- Magic, version and event count. -/
def readOutboxHeader : Reader (UInt16 × UInt32) := do
  let magic : UInt32 ← readLe
  require (magic = kOutboxMagic)
  let version : UInt16 ← readLe
  require (kOutboxLegacyVersion ≤ version)
  require (version ≤ kOutboxVersion)
  readReserved version
  let count : UInt32 ← readLe
  require (count.toNat ≤ kMaximumOutboxEvents)
  pure (version, count)

def readWatermarkCount (version : UInt16) : Reader UInt32 :=
  if kOutboxWatermarkVersion ≤ version then do
    let count : UInt32 ← readLe
    require (count.toNat ≤ kMaximumOutboxWatermarks)
    pure count
  else pure 0

/-- The fields every watermark has. -/
def readWatermarkFields : Reader OutboxWatermark := do
  let packageId ← readBoundedString kMaximumPackageIdBytes
  let candidateId ← readBoundedString kMaximumCandidateIdBytes
  let packageDigest ← readBlock 32
  let clientId ← readBlock 16
  let sessionId ← readBlock 16
  let highestSequence : UInt64 ← readLe
  let lastHash ← readBlock 32
  pure ⟨packageId, packageDigest, clientId, sessionId, candidateId, highestSequence, lastHash, 0,
    Block.zero 32, false⟩

/-- The acknowledged boundary that version 3 introduced. -/
def readBoundary (version : UInt16) (watermark : OutboxWatermark) : Reader OutboxWatermark :=
  if kOutboxAcknowledgementVersion ≤ version then do
    let acknowledgedSequence : UInt64 ← readLe
    let acknowledgedHash ← readBlock 32
    pure { watermark with acknowledgedSequence, acknowledgedHash }
  else pure watermark

/-- The finalization marker that version 4 introduced. -/
def readMarker (version : UInt16) (watermark : OutboxWatermark) : Reader OutboxWatermark :=
  if kOutboxFinalizationVersion ≤ version then do
    let finalized : UInt8 ← readLe
    require (finalized ≤ 1)
    pure { watermark with finalized := finalized != 0 }
  else pure watermark

def readWatermark (version : UInt16) : Parser OutboxWatermark := do
  let watermark ← orFail readWatermarkFields "outbox watermark is invalid"
  let watermark ← orFail (readBoundary version watermark)
    "outbox acknowledgement watermark is invalid"
  let watermark ← orFail (readMarker version watermark) "outbox finalization watermark is invalid"
  orFail (require (validWatermark watermark = true)) "outbox watermark is invalid"
  pure watermark

/-- The watermark loop of `open`. -/
def readWatermarks (version : UInt16) : ℕ → Watermarks → Parser Watermarks
  | 0, watermarks => pure watermarks
  | more + 1, watermarks => do
    let watermark ← readWatermark version
    orFail (require (watermarks.contains watermark.key = false)) "outbox contains duplicate watermark"
    readWatermarks version more (watermarks.insert watermark.key watermark)

/-- The bytes of the next pending event. -/
def readOutboxRecord : Reader Bytes := do
  let eventBytes : UInt32 ← readLe
  require (eventBytes ≠ 0)
  require (eventBytes.toNat ≤ kMaximumWireBytes)
  readBytes eventBytes.toNat

end Nstu
