import Nstu.Telemetry.Batch

/-!
# Reading a telemetry batch

`decode_telemetry_sample` and `decode_telemetry_batch` of `exam_telemetry.cpp`, with their messages.
A batch that has a wire form is read back from it: `decodeTelemetryBatch_encodeTelemetryBatch`.
-/

namespace Nstu.Telemetry

open Wire Reader
open UInt16 (ofNat toNat_ofNat_of_lt')

def kTelemetrySampleFixedBytes : ℕ := 56
def kTelemetryBatchFixedBytes : ℕ := 108

/-! ## Decoders -/

/-- `read_string`, which reads the length as well. -/
def readText (maxBytes : ℕ) (allowEmpty : Bool) : Reader Bytes := do
  let len : UInt16 ← readLe
  require ¬(maxBytes < len.toNat ∨ allowEmpty = false ∧ len = 0)
  let str ← readBytes len.toNat
  require (validText str maxBytes allowEmpty = true)
  pure str

def readSampleHeader : Reader (TelemetrySampleKind × TelemetrySource) := do
  let magic : UInt32 ← readLe
  require (magic = kSampleMagic)
  let version : UInt16 ← readLe
  require (version = kWireVersion)
  let rawKind : UInt8 ← readLe
  let rawSource : UInt8 ← readLe
  let reserved : UInt16 ← readLe
  require (reserved = 0)
  pure (⟨rawKind⟩, ⟨rawSource⟩)

def readSampleFields (kind : TelemetrySampleKind) (source : TelemetrySource) :
    Reader TelemetrySample := do
  let collectorId : UInt64 ← readLe
  let monotonicElapsed : UInt64 ← readLe
  let duration : UInt32 ← readLe
  let clientTime : UInt64 ← readLe
  let numericValue : UInt32 ← readLe
  let count : UInt32 ← readLe
  let rawReason : UInt32 ← readLe
  require (validTelemetryReason ⟨rawReason⟩ = true)
  let questionRevision : UInt32 ← readLe
  let questionId ← readText kMaximumQuestionIdBytes true
  pure ⟨kind, source, collectorId, questionId, questionRevision, monotonicElapsed, duration,
    clientTime, numericValue, count, ⟨rawReason⟩⟩

def decodeTelemetrySample (payload : Bytes) : Except String TelemetrySample :=
  if payload.length < kTelemetrySampleFixedBytes ∨ kMaximumTelemetrySampleBytes < payload.length then
    .error "invalid telemetry sample payload size"
  else match readSampleHeader.run payload with
    | none => .error "invalid sample header, version, or reserved bits"
    | some ((kind, source), rest) =>
      match (readSampleFields kind source).run rest with
      | none => .error "malformed sample fields or question_id"
      | some (sample, rest) =>
        if !rest.isEmpty then .error "trailing bytes in sample payload"
        else if !validateTelemetrySample sample then
          .error "telemetry sample validation failed"
        else .ok sample

/-- The number of samples a batch announces. -/
def readBatchHeader : Reader UInt16 := do
  let magic : UInt32 ← readLe
  require (magic = kBatchMagic)
  let version : UInt16 ← readLe
  require (version = kWireVersion)
  let sampleCount : UInt16 ← readLe
  require (kMinimumBatchSamples ≤ sampleCount.toNat ∧ sampleCount.toNat ≤ kMaximumBatchSamples)
  pure sampleCount

/-- The identity of a batch, with no samples in it yet. -/
def readBatchIdentity : Reader TelemetryBatch := do
  let sequence : UInt64 ← readLe
  let firstEnqueuedAt : UInt64 ← readLe
  let packageDigest ← readBlock 32
  let clientId ← readBlock 16
  let sessionId ← readBlock 16
  let producerId ← readBlock 16
  let packageId ← readText kMaximumPackageIdBytes false
  let candidateId ← readText kMaximumCandidateIdBytes false
  pure ⟨packageId, packageDigest, clientId, sessionId, candidateId, producerId, sequence,
    firstEnqueuedAt, []⟩

/-- The bytes of the next sample. -/
def readSampleSpan : Reader Bytes := do
  let sampleLen : UInt16 ← readLe
  require (sampleLen.toNat ≤ kMaximumTelemetrySampleBytes)
  readBytes sampleLen.toNat

def readBatchSamples : ℕ → Parser (List TelemetrySample)
  | 0 => pure []
  | count + 1 => do
    let span ← Parser.orFail readSampleSpan "malformed sample size in batch"
    let sample ← Parser.noInput (decodeTelemetrySample span)
    let samples ← readBatchSamples count
    pure (sample :: samples)

def readBatch : Parser TelemetryBatch := do
  let sampleCount ← Parser.orFail readBatchHeader "invalid batch header, version, or sample count"
  let identity ← Parser.orFail readBatchIdentity "malformed batch header identity fields"
  let samples ← readBatchSamples sampleCount.toNat
  pure { identity with samples := samples }

def decodeTelemetryBatch (payload : Bytes) : Except String TelemetryBatch :=
  if payload.length < kTelemetryBatchFixedBytes + 2 + 2 + kTelemetrySampleFixedBytes ∨
      kMaximumTelemetryBatchBytes < payload.length then
    .error "invalid batch payload size"
  else match readBatch.run payload with
    | .error message => .error message
    | .ok (batch, rest) =>
      if !rest.isEmpty then .error "trailing bytes in batch payload"
      else if !validateTelemetryBatch batch then .error "batch validation failed"
      else .ok batch

/-! ## Round trip -/

variable {rest : Bytes}

lemma run_readText {text : Bytes} {maxBytes : ℕ} {allowEmpty : Bool}
    (hvalid : validText text maxBytes allowEmpty) (hmax : maxBytes < 2 ^ 16) :
    (readText maxBytes allowEmpty).run (stringBytes text ++ rest) = some (text, rest) := by
  have hleng : text.length ≤ maxBytes := by
    simp only [validText] at hvalid
    split_ifs at hvalid with hempty hlong
    · rw [List.isEmpty_iff] at hempty
      simp [hempty]
    · omega
  have hnat : (ofNat text.length).toNat = text.length :=
    toNat_ofNat_of_lt' (by change _ < 65536; omega)
  have hempty : ¬(allowEmpty = false ∧ ofNat text.length = 0) := by
    rintro ⟨rfl, hzero⟩
    have hnil : text = [] := by
      have hzero := congrArg UInt16.toNat hzero
      rw [hnat] at hzero
      exact List.eq_nil_of_length_eq_zero hzero
    simp [hnil, validText] at hvalid
  simp only [readText, run_bind_readLe_iff, run_bind_require_iff, run_bind_readBytes_iff, run_pure_iff]
  refine ⟨UInt16.ofNat text.length, text ++ rest, ?_, ?_, text, rest, rfl, hnat.symm, hvalid, rfl, rfl⟩
  · simp [stringBytes]
  · rw [hnat]
    rintro (hlong | hnone)
    · omega
    · exact hempty hnone

section Sample

variable {sample : TelemetrySample}

variable {rest : Bytes}

lemma run_readSampleHeader : readSampleHeader.run
      (le kSampleMagic ++ (le kWireVersion ++ (le sample.kind.raw ++ (le sample.source.raw ++
        (le (0 : UInt16) ++ rest))))) = some ((sample.kind, sample.source), rest) := by
  simp only [readSampleHeader, run_bind_readLe_iff, run_bind_require_iff, run_pure_iff]
  exact ⟨_, _, rfl, rfl, _, _, rfl, rfl, _, _, rfl, _, _, rfl, _, _, rfl, rfl, rfl, rfl⟩

lemma validText_questionId (h : validateTelemetrySample sample) :
    validText sample.questionId kMaximumQuestionIdBytes true := by
  simp only [validateTelemetrySample] at h
  split_ifs at h with _ _ he
  · simp [validText, he]
  · simpa [validText, he] using h

lemma validTelemetryReason_of_valid (h : validateTelemetrySample sample) :
    validTelemetryReason sample.reason := by
  simp only [validateTelemetrySample] at h
  split_ifs at h with hk <;> simp_all

lemma length_questionId_le (h : validateTelemetrySample sample) :
    sample.questionId.length ≤ kMaximumQuestionIdBytes := by
  have ht := validText_questionId h
  simp only [validText] at ht
  split_ifs at ht with he hl
  · rw [List.isEmpty_iff] at he
    simp [he]
  · omega

lemma run_readSampleFields (h : validateTelemetrySample sample) :
    (readSampleFields sample.kind sample.source).run
      (le sample.collectorId ++ (le sample.monotonicElapsedMilliseconds ++
        (le sample.durationMilliseconds ++ (le sample.clientTimeUnixMilliseconds ++
          (le sample.numericValue ++ (le sample.count ++ (le sample.reason.raw ++
            (le sample.questionRevision ++ (stringBytes sample.questionId ++ rest))))))))) = some (sample, rest) := by
  simp only [readSampleFields, run_bind_readLe_iff, run_bind_require_iff]
  refine ⟨_, _, rfl, _, _, rfl, _, _, rfl, _, _, rfl, _, _, rfl, _, _, rfl, _, _, rfl,
    validTelemetryReason_of_valid h, _, _, rfl, ?_⟩
  rw [run_bind_iff]
  exact ⟨sample.questionId, rest, run_readText (validText_questionId h) (by decide), rfl⟩

lemma encodeTelemetrySample_ne_nil (h : encodeTelemetrySample sample ≠ []) : validateTelemetrySample sample ∧
      (encodeTelemetrySample sample).length = 56 + sample.questionId.length := by
  simp only [encodeTelemetrySample] at h ⊢
  split_ifs at h ⊢ with hv hl
  · exact absurd rfl h
  · exact absurd rfl h
  · refine ⟨by simpa using hv, ?_⟩
    simp [stringBytes]
    omega

lemma length_encodeTelemetrySample_le : (encodeTelemetrySample sample).length ≤ kMaximumTelemetrySampleBytes := by
  simp only [encodeTelemetrySample]
  split_ifs with hv hl
  · exact Nat.zero_le _
  · exact Nat.zero_le _
  · exact Nat.not_lt.mp hl

lemma decodeTelemetrySample_encodeTelemetrySample (h : encodeTelemetrySample sample ≠ []) :
    decodeTelemetrySample (encodeTelemetrySample sample) = .ok sample := by
  obtain ⟨hv, hl⟩ := encodeTelemetrySample_ne_nil h
  have hs := @length_encodeTelemetrySample_le sample
  have hsi : ¬((encodeTelemetrySample sample).length < kTelemetrySampleFixedBytes ∨
      kMaximumTelemetrySampleBytes < (encodeTelemetrySample sample).length) := by
    simp only [kTelemetrySampleFixedBytes]
    omega
  have hw : encodeTelemetrySample sample =
      le kSampleMagic ++ (le kWireVersion ++ (le sample.kind.raw ++ (le sample.source.raw ++
        (le (0 : UInt16) ++ (le sample.collectorId ++ (le sample.monotonicElapsedMilliseconds ++
        (le sample.durationMilliseconds ++ (le sample.clientTimeUnixMilliseconds ++
          (le sample.numericValue ++ (le sample.count ++ (le sample.reason.raw ++
            (le sample.questionRevision ++ (stringBytes sample.questionId ++ []))))))))))))) := by
    simp only [encodeTelemetrySample] at h ⊢
    split_ifs at h ⊢ with hi hlo
    · exact absurd rfl h
    · exact absurd rfl h
    · simp only [List.flatten_cons, List.flatten_nil]
  rw [decodeTelemetrySample, if_neg hsi]
  rw [hw, run_readSampleHeader]
  simp only [run_readSampleFields hv, List.isEmpty_nil, Bool.not_true, Bool.false_eq_true, if_false, hv]

end Sample

/-! ## Batches -/

variable {wire : Bytes}

lemma run_readSampleSpan (h : wire.length ≤ kMaximumTelemetrySampleBytes) :
    readSampleSpan.run (le (ofNat wire.length) ++ (wire ++ rest)) = some (wire, rest) := by
  have hn : (ofNat wire.length).toNat = wire.length :=
    toNat_ofNat_of_lt' (Nat.lt_of_le_of_lt h (by decide))
  simp only [readSampleSpan, run_bind_readLe_iff, run_bind_require_iff, run_readBytes_iff]
  exact ⟨_, _, rfl, by rw [hn]; exact h, rfl, hn.symm⟩

lemma run_readBatchSamples {samples : List TelemetrySample} (rest : Bytes) (h : encodeSamples samples = some wire) :
    (readBatchSamples samples.length).run (wire ++ rest) = .ok (samples, rest) := by
  induction samples generalizing wire with
  | nil =>
    cases h
    rfl
  | cons sample samples ih =>
    simp only [encodeSamples] at h
    split_ifs at h with hb
    obtain ⟨others, ho, rfl⟩ := Option.map_eq_some_iff.mp h
    have hn : encodeTelemetrySample sample ≠ [] := by
      intro hni
      simp [hni] at hb
    rw [List.length_cons, readBatchSamples, Parser.run_bind_iff]
    refine ⟨encodeTelemetrySample sample, others ++ rest, ?_, ?_⟩
    · rw [Parser.run_orFail_iff]
      simp only [List.flatten_cons, List.flatten_nil, List.append_nil, List.append_assoc]
      exact run_readSampleSpan length_encodeTelemetrySample_le
    · rw [Parser.run_bind_iff]
      refine ⟨sample, others ++ rest, ?_, ?_⟩
      · rw [Parser.run_noInput_iff]
        exact ⟨decodeTelemetrySample_encodeTelemetrySample hn, rfl⟩
      · rw [Parser.run_bind_iff]
        exact ⟨samples, rest, ih ho, rfl⟩

section Batch

variable {batch : TelemetryBatch}

lemma validText_of_valid (h : validateTelemetryBatch batch) :
    validText batch.packageId kMaximumPackageIdBytes false ∧
      validText batch.candidateId kMaximumCandidateIdBytes false := by
  simp only [validateTelemetryBatch] at h
  split_ifs at h with h1 h2 h3
  simpa using h3

lemma length_samples_of_valid (h : validateTelemetryBatch batch) :
    1 ≤ batch.samples.length ∧ batch.samples.length ≤ 32 := by
  simp only [validateTelemetryBatch] at h
  split_ifs at h with h1 h2 h3 h4
  rw [Bool.or_eq_true, not_or, decide_eq_true_eq, decide_eq_true_eq, Nat.not_lt, Nat.not_lt] at h4
  exact h4

lemma encodeTelemetryBatch_form (h : encodeTelemetryBatch batch ≠ []) :
    validateTelemetryBatch batch ∧ ∃ wire, encodeSamples batch.samples = some wire ∧
      encodeTelemetryBatch batch = batchHeader batch ++ wire := by
  simp only [encodeTelemetryBatch] at h ⊢
  split_ifs at h ⊢ with hv
  · exact absurd rfl h
  · split at h
    · exact absurd rfl h
    · rename_i wire hs
      split_ifs at h ⊢ with hl
      · exact absurd rfl h
      · exact ⟨by simpa using hv, wire, hs, rfl⟩

lemma length_encodeTelemetryBatch_ge (h : encodeTelemetryBatch batch ≠ []) :
    168 ≤ (encodeTelemetryBatch batch).length := by
  obtain ⟨hvalid, wire, hsamp, hwire⟩ := encodeTelemetryBatch_form h
  obtain ⟨hpack, hcand⟩ := validText_of_valid hvalid
  have hnone : ∀ {text : Bytes} {maximum : ℕ}, validText text maximum false → 1 ≤ text.length := by
    intro text maximum htext
    cases text with
    | nil => simp [validText] at htext
    | cons head tail => simp
  have hsampl : 58 ≤ wire.length := by
    cases hlist : batch.samples with
    | nil =>
      have := (length_samples_of_valid hvalid).1
      simp [hlist] at this
    | cons sample samples =>
      rw [hlist] at hsamp
      simp only [encodeSamples] at hsamp
      split_ifs at hsamp with hbad
      obtain ⟨others, hothe, rfl⟩ := Option.map_eq_some_iff.mp hsamp
      have hne : encodeTelemetrySample sample ≠ [] := by
        intro hnil
        simp [hnil] at hbad
      have := (encodeTelemetrySample_ne_nil hne).2
      simp
      omega
  have h1 := hnone hpack
  have h2 := hnone hcand
  rw [hwire]
  simp [batchHeader, stringBytes]
  omega

variable {rest : Bytes}

lemma run_readBatchIdentity (h : validateTelemetryBatch batch) : readBatchIdentity.run
      (le batch.sequence ++ (le batch.firstEnqueuedAtUnixMilliseconds ++
        (batch.packageDigest.toList ++ (batch.clientId.toList ++ (batch.sessionId.toList ++
          (batch.producerId.toList ++ (stringBytes batch.packageId ++ (stringBytes batch.candidateId ++ rest)))))))) =
      some ({ batch with samples := [] }, rest) := by
  obtain ⟨hp, hc⟩ := validText_of_valid h
  simp only [readBatchIdentity, run_bind_readLe_iff, run_bind_readBlock_iff]
  refine ⟨_, _, rfl, _, _, rfl, _, _, rfl, _, _, rfl, _, _, rfl, _, _, rfl, ?_⟩
  rw [run_bind_iff]
  refine ⟨batch.packageId, _, run_readText hp (by decide), ?_⟩
  rw [run_bind_iff]
  exact ⟨batch.candidateId, rest, run_readText hc (by decide), rfl⟩

lemma run_readBatchHeader (h : validateTelemetryBatch batch) :
    readBatchHeader.run (le kBatchMagic ++ (le kWireVersion ++ (le (ofNat batch.samples.length) ++ rest))) =
      some (ofNat batch.samples.length, rest) := by
  obtain ⟨hl, hm⟩ := length_samples_of_valid h
  have hn : (ofNat batch.samples.length).toNat = batch.samples.length :=
    toNat_ofNat_of_lt' (by change _ < 65536; omega)
  simp only [readBatchHeader, run_bind_readLe_iff, run_bind_require_iff, run_pure_iff]
  refine ⟨_, _, rfl, rfl, _, _, rfl, rfl, _, _, rfl, ?_, rfl, rfl⟩
  rw [hn]
  exact ⟨hl, hm⟩

lemma run_readBatch (h : encodeTelemetryBatch batch ≠ []) :
    readBatch.run (encodeTelemetryBatch batch) = .ok (batch, []) := by
  obtain ⟨hv, wire, hs, hw⟩ := encodeTelemetryBatch_form h
  have hn : (ofNat batch.samples.length).toNat = batch.samples.length := by
    have := (length_samples_of_valid hv).2
    exact toNat_ofNat_of_lt' (by change _ < 65536; omega)
  rw [hw, readBatch, Parser.run_bind_iff]
  refine ⟨UInt16.ofNat batch.samples.length, le batch.sequence ++ (le batch.firstEnqueuedAtUnixMilliseconds ++
      (batch.packageDigest.toList ++ (batch.clientId.toList ++ (batch.sessionId.toList ++
        (batch.producerId.toList ++ (stringBytes batch.packageId ++
          (stringBytes batch.candidateId ++ wire))))))), ?_, ?_⟩
  · rw [Parser.run_orFail_iff]
    simp only [batchHeader, List.flatten_cons, List.flatten_nil, List.append_assoc, List.nil_append]
    exact run_readBatchHeader hv
  · rw [Parser.run_bind_iff]
    refine ⟨{ batch with samples := [] }, wire, ?_, ?_⟩
    · rw [Parser.run_orFail_iff]
      exact run_readBatchIdentity hv
    · rw [Parser.run_bind_iff]
      refine ⟨batch.samples, [], ?_, rfl⟩
      rw [hn]
      simpa using run_readBatchSamples [] hs

/-- **A batch is read back from its wire form.** -/
theorem decodeTelemetryBatch_encodeTelemetryBatch (h : encodeTelemetryBatch batch ≠ []) :
    decodeTelemetryBatch (encodeTelemetryBatch batch) = .ok batch := by
  have hl := length_encodeTelemetryBatch_ge h
  have hm := length_encodeTelemetryBatch batch
  have hs : ¬((encodeTelemetryBatch batch).length <
      kTelemetryBatchFixedBytes + 2 + 2 + kTelemetrySampleFixedBytes ∨
        kMaximumTelemetryBatchBytes < (encodeTelemetryBatch batch).length) := by
    simp only [kTelemetryBatchFixedBytes, kTelemetrySampleFixedBytes]
    omega
  rw [decodeTelemetryBatch, if_neg hs, run_readBatch h]
  simp [(encodeTelemetryBatch_form h).1]

end Batch

end Nstu.Telemetry
