import Nstu.Exam.Types

/-!
# Telemetry batches

The samples, batches and acknowledgements of `exam_telemetry.hpp`, what makes a batch valid, and
the form it has on the wire.  The hash of a batch is the SHA-256 digest of that form.

Kinds, sources and reasons are enumerations with a fixed underlying type.  They are kept as that
type here, since what they are compared with is a range.
-/

namespace Nstu.Telemetry

open Wire

/-- `exam::ProducerId`. -/
abbrev ProducerId := Block 16

def kMaximumTelemetrySampleBytes : ℕ := 4 * 1024
def kMaximumTelemetryBatchBytes : ℕ := 32 * 1024
def kMinimumBatchSamples : ℕ := 1
def kMaximumBatchSamples : ℕ := 32

def kSampleMagic : UInt32 := 0x3153544e
def kBatchMagic : UInt32 := 0x3154424e
def kWireVersion : UInt16 := 1

/-- `exam::TelemetrySampleKind`. -/
structure TelemetrySampleKind where
  raw : UInt8
  deriving DecidableEq

def TelemetrySampleKind.collectorStarted : TelemetrySampleKind := ⟨1⟩
def TelemetrySampleKind.clockDiscontinuity : TelemetrySampleKind := ⟨11⟩

/-- `exam::TelemetrySource`. -/
structure TelemetrySource where
  raw : UInt8
  deriving DecidableEq

def TelemetrySource.browser : TelemetrySource := ⟨1⟩
def TelemetrySource.native : TelemetrySource := ⟨2⟩

/-- `exam::TelemetryReason`. -/
structure TelemetryReason where
  raw : UInt32
  deriving DecidableEq

def TelemetryReason.none : TelemetryReason := ⟨0⟩
def TelemetryReason.lossRateLimit : TelemetryReason := ⟨20⟩

/-- `exam::TelemetryAckStatus`. -/
inductive TelemetryAckStatus where
  | accepted
  | duplicate
  | rejected
  | conflict
  | unavailable
  deriving DecidableEq

structure TelemetrySample where
  kind : TelemetrySampleKind
  source : TelemetrySource
  collectorId : UInt64
  questionId : Bytes
  questionRevision : UInt32
  monotonicElapsedMilliseconds : UInt64
  durationMilliseconds : UInt32
  clientTimeUnixMilliseconds : UInt64
  numericValue : UInt32
  count : UInt32
  reason : TelemetryReason
  deriving DecidableEq

structure TelemetryBatch where
  packageId : Bytes
  packageDigest : Digest
  clientId : ClientId
  sessionId : SessionId
  candidateId : Bytes
  producerId : ProducerId
  sequence : UInt64
  firstEnqueuedAtUnixMilliseconds : UInt64
  samples : List TelemetrySample
  deriving DecidableEq

structure TelemetryAck where
  sessionId : SessionId
  producerId : ProducerId
  sequence : UInt64
  batchHash : Digest
  serverTimeUnixMilliseconds : UInt64
  status : TelemetryAckStatus
  deriving DecidableEq

/-! ## Validation -/

/-- A byte that continues a character. -/
def continues (byte : UInt8) : Bool := byte &&& 0xc0 == 0x80

def isValidUtf8 : Bytes → Bool
  | [] => true
  | b0 :: rest =>
    if b0 == 0 then false
    else if b0 ≤ 0x7f then isValidUtf8 rest
    else if b0 &&& 0xe0 == 0xc0 then
      match rest with
      | b1 :: rest =>
        if !continues b1 then false
        else if b0 < 0xc2 then false
        else isValidUtf8 rest
      | _ => false
    else if b0 &&& 0xf0 == 0xe0 then
      match rest with
      | b1 :: b2 :: rest =>
        if !continues b1 || !continues b2 then false
        else if b0 == 0xe0 && b1 < 0xa0 then false
        else if b0 == 0xed && 0xa0 ≤ b1 then false
        else isValidUtf8 rest
      | _ => false
    else if b0 &&& 0xf8 == 0xf0 then
      match rest with
      | b1 :: b2 :: b3 :: rest =>
        if !continues b1 || !continues b2 || !continues b3 then false
        else if b0 == 0xf0 && b1 < 0x90 then false
        else if b0 == 0xf4 && 0x8f < b1 then false
        else if 0xf4 < b0 then false
        else isValidUtf8 rest
      | _ => false
    else false

def validText (value : Bytes) (maximum : ℕ) (allowEmpty : Bool) : Bool :=
  if value.isEmpty then allowEmpty
  else if maximum < value.length then false
  else isValidUtf8 value

def validSampleKind (kind : TelemetrySampleKind) : Bool :=
  TelemetrySampleKind.collectorStarted.raw ≤ kind.raw && kind.raw ≤ TelemetrySampleKind.clockDiscontinuity.raw

def validSource (source : TelemetrySource) : Bool :=
  source.raw == TelemetrySource.browser.raw || source.raw == TelemetrySource.native.raw

def validTelemetryReason (reason : TelemetryReason) : Bool :=
  reason.raw ≤ TelemetryReason.lossRateLimit.raw

def validateTelemetrySample (sample : TelemetrySample) : Bool :=
  if !validSampleKind sample.kind || !validSource sample.source || !validTelemetryReason sample.reason then false
  else if sample.collectorId == 0 || sample.clientTimeUnixMilliseconds == 0 then false
  else if sample.questionId.isEmpty then sample.questionRevision == 0
  else if sample.questionRevision == 0 then false
  else validText sample.questionId kMaximumQuestionIdBytes false

def validateTelemetryBatch (batch : TelemetryBatch) : Bool :=
  if batch.sequence == 0 || batch.firstEnqueuedAtUnixMilliseconds == 0 then false
  else if allZero batch.packageDigest.toList || allZero batch.clientId.toList ||
      allZero batch.sessionId.toList || allZero batch.producerId.toList then false
  else if !validText batch.packageId kMaximumPackageIdBytes false ||
      !validText batch.candidateId kMaximumCandidateIdBytes false then false
  else if batch.samples.length < kMinimumBatchSamples || kMaximumBatchSamples < batch.samples.length then false
  else batch.samples.all validateTelemetrySample

/-! ## The wire form -/

/-- `append_string`. -/
def stringBytes (text : Bytes) : Bytes := le (UInt16.ofNat text.length) ++ text

def encodeTelemetrySample (sample : TelemetrySample) : Bytes :=
  if !validateTelemetrySample sample then []
  else
    let wire :=
      [le kSampleMagic, le kWireVersion, le sample.kind.raw, le sample.source.raw, le (0 : UInt16),
        le sample.collectorId, le sample.monotonicElapsedMilliseconds, le sample.durationMilliseconds,
        le sample.clientTimeUnixMilliseconds, le sample.numericValue, le sample.count,
        le sample.reason.raw, le sample.questionRevision, stringBytes sample.questionId].flatten
    if kMaximumTelemetrySampleBytes < wire.length then [] else wire

/-- The samples of a batch, each behind its length; `none` when one of them has no wire form. -/
def encodeSamples : List TelemetrySample → Option Bytes
  | [] => some []
  | sample :: rest =>
    let sampleWire := encodeTelemetrySample sample
    if sampleWire.isEmpty || kMaximumTelemetrySampleBytes < sampleWire.length then none
    else (encodeSamples rest).map fun wire =>
      [le (UInt16.ofNat sampleWire.length), sampleWire, wire].flatten

/-- What a batch has in front of its samples. -/
def batchHeader (batch : TelemetryBatch) : Bytes :=
  [le kBatchMagic, le kWireVersion, le (UInt16.ofNat batch.samples.length), le batch.sequence,
    le batch.firstEnqueuedAtUnixMilliseconds, batch.packageDigest.toList, batch.clientId.toList,
    batch.sessionId.toList, batch.producerId.toList, stringBytes batch.packageId,
    stringBytes batch.candidateId].flatten

def encodeTelemetryBatch (batch : TelemetryBatch) : Bytes :=
  if !validateTelemetryBatch batch then []
  else
    match encodeSamples batch.samples with
    | none => []
    | some samples =>
      let wire := batchHeader batch ++ samples
      if kMaximumTelemetryBatchBytes < wire.length then [] else wire

lemma length_encodeTelemetryBatch (batch : TelemetryBatch) :
    (encodeTelemetryBatch batch).length ≤ kMaximumTelemetryBatchBytes := by
  simp only [encodeTelemetryBatch]
  split
  · exact Nat.zero_le _
  · split
    · exact Nat.zero_le _
    · split
      · exact Nat.zero_le _
      · rename_i hs
        exact Nat.not_lt.mp hs

/-- `security::sha256`, which hashes no more than a `ULONG` counts. -/
def sha256Of (sha256 : Bytes → Digest) (message : Bytes) : Option Digest :=
  if message.length > 0xffffffff then none else some (sha256 message)

def computeTelemetryBatchHash (sha256 : Bytes → Digest) (batch : TelemetryBatch) : Option Digest :=
  let wire := encodeTelemetryBatch batch
  if wire.isEmpty then none else sha256Of sha256 wire

end Nstu.Telemetry
