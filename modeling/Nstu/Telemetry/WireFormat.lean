import Nstu.Telemetry.Messages

/-!
# The telemetry wire format is canonical

Every valid batch has a wire form, since no limit is in the way of it: a sample takes at most 184
bytes and a batch at most 6316.  Every byte string that is read as a batch is the wire form of that
batch.  So the hash of a batch is the hash of the bytes that were received, wherever it is computed.
-/

namespace Nstu.Telemetry

open Wire Reader

/-! ## Valid batches have a wire form -/

/-- The bytes of a sample. -/
def telemetrySampleWire (sample : TelemetrySample) : Bytes :=
  [le kSampleMagic, le kWireVersion, le sample.kind.raw, le sample.source.raw, le (0 : UInt16),
    le sample.collectorId, le sample.monotonicElapsedMilliseconds, le sample.durationMilliseconds,
    le sample.clientTimeUnixMilliseconds, le sample.numericValue, le sample.count,
    le sample.reason.raw, le sample.questionRevision, stringBytes sample.questionId].flatten

lemma length_telemetrySampleWire (sample : TelemetrySample) :
    (telemetrySampleWire sample).length = 56 + sample.questionId.length := by
  simp [telemetrySampleWire]
  omega

variable {sample : TelemetrySample}

lemma encodeTelemetrySample_of_valid (h : validateTelemetrySample sample) :
    encodeTelemetrySample sample = telemetrySampleWire sample := by
  have hs : ¬ kMaximumTelemetrySampleBytes < (telemetrySampleWire sample).length := by
    have := length_questionId_le h
    rw [length_telemetrySampleWire]
    simp only [kMaximumQuestionIdBytes, kMaximumTelemetrySampleBytes] at *
    omega
  rw [encodeTelemetrySample, h, if_neg (by decide)]
  exact if_neg hs

variable {samples : List TelemetrySample}

lemma encodeSamples_of_valid (h : ∀ sample ∈ samples, validateTelemetrySample sample) :
    ∃ wire, encodeSamples samples = some wire ∧ wire.length ≤ 186 * samples.length := by
  induction samples with
  | nil => exact ⟨[], rfl, Nat.zero_le _⟩
  | cons sample samples ih =>
    rw [List.forall_mem_cons] at h
    obtain ⟨wire, hw, hl⟩ := ih h.2
    have hs := length_telemetrySampleWire sample
    have hq := length_questionId_le h.1
    have hb : ¬ ((telemetrySampleWire sample).isEmpty ||
        decide (kMaximumTelemetrySampleBytes < (telemetrySampleWire sample).length)) := by
      have hso : (telemetrySampleWire sample).isEmpty = false := by
        rw [List.isEmpty_eq_false_iff, ← List.length_pos_iff, hs]
        omega
      rw [hso, Bool.false_or, decide_eq_true_eq, hs]
      simp only [kMaximumQuestionIdBytes, kMaximumTelemetrySampleBytes] at *
      omega
    refine ⟨[le (UInt16.ofNat (telemetrySampleWire sample).length), telemetrySampleWire sample, wire].flatten, ?_, ?_⟩
    · simp only [encodeSamples]
      rw [encodeTelemetrySample_of_valid h.1, if_neg hb, hw]
      rfl
    · simp only [kMaximumQuestionIdBytes] at hq
      simp [hs]
      omega

variable {batch : TelemetryBatch}

lemma all_valid_of_valid (h : validateTelemetryBatch batch) :
    ∀ sample ∈ batch.samples, validateTelemetrySample sample := by
  simp only [validateTelemetryBatch] at h
  split_ifs at h
  exact List.all_eq_true.mp h

lemma length_batchHeader (batch : TelemetryBatch) :
    (batchHeader batch).length = 108 + batch.packageId.length + batch.candidateId.length := by
  simp [batchHeader]
  omega

/-- **No limit is in the way of a valid batch.** -/
lemma encodeTelemetryBatch_of_valid (h : validateTelemetryBatch batch) :
    ∃ wire, encodeSamples batch.samples = some wire ∧ encodeTelemetryBatch batch = batchHeader batch ++ wire := by
  obtain ⟨wire, hw, hl⟩ := encodeSamples_of_valid (all_valid_of_valid h)
  obtain ⟨hp, hc⟩ := validText_of_valid h
  have hp := length_le_of_validText hp
  have hc := length_le_of_validText hc
  have hco := (length_samples_of_valid h).2
  have hs : ¬ kMaximumTelemetryBatchBytes < (batchHeader batch ++ wire).length := by
    rw [List.length_append, length_batchHeader]
    simp only [kMaximumPackageIdBytes, kMaximumCandidateIdBytes, kMaximumTelemetryBatchBytes] at *
    omega
  refine ⟨wire, hw, ?_⟩
  rw [encodeTelemetryBatch, h, if_neg (by decide), hw]
  exact if_neg hs

lemma encodeTelemetryBatch_ne_nil_of_valid (h : validateTelemetryBatch batch) :
    encodeTelemetryBatch batch ≠ [] := by
  obtain ⟨wire, -, hw⟩ := encodeTelemetryBatch_of_valid h
  rw [hw, ← List.length_pos_iff, List.length_append, length_batchHeader]
  omega

/-! ## What is read is a wire form -/

variable {s rest : Bytes} {kind : TelemetrySampleKind} {source : TelemetrySource}

lemma run_readSampleHeader_iff : readSampleHeader.run s = some ((kind, source), rest) ↔
      s = le kSampleMagic ++ (le kWireVersion ++ (le kind.raw ++ (le source.raw ++ (le (0 : UInt16) ++ rest)))) := by
  simp only [readSampleHeader, run_bind_readLe_iff, run_bind_require_iff, run_pure_iff]
  constructor
  · rintro ⟨_, _, rfl, rfl, _, _, rfl, rfl, _, _, rfl, _, _, rfl, _, _, rfl, rfl, he, rfl⟩
    cases he
    rfl
  · rintro rfl
    exact ⟨_, _, rfl, rfl, _, _, rfl, rfl, _, _, rfl, _, _, rfl, _, _, rfl, rfl, rfl, rfl⟩

lemma readSampleFields_wire (h : (readSampleFields kind source).run s = some (sample, rest)) :
    sample.kind = kind ∧ sample.source = source ∧
      s = le sample.collectorId ++ (le sample.monotonicElapsedMilliseconds ++
        (le sample.durationMilliseconds ++ (le sample.clientTimeUnixMilliseconds ++
          (le sample.numericValue ++ (le sample.count ++ (le sample.reason.raw ++
            (le sample.questionRevision ++ (stringBytes sample.questionId ++ rest)))))))) := by
  have hm : kMaximumQuestionIdBytes < 2 ^ 16 := by decide
  simp only [readSampleFields, run_bind_readLe_iff, run_bind_require_iff,
    run_bind_readText_iff hm, run_pure_iff] at h
  obtain ⟨_, _, rfl, _, _, rfl, _, _, rfl, _, _, rfl, _, _, rfl, _, _, rfl, _, _, rfl, -, _, _, rfl, _,
    _, rfl, -, rfl, rfl⟩ := h
  exact ⟨rfl, rfl, rfl⟩

variable {payload : Bytes}

lemma encodeTelemetrySample_of_decode (h : decodeTelemetrySample payload = .ok sample) :
    validateTelemetrySample sample ∧ encodeTelemetrySample sample = payload := by
  simp only [decodeTelemetrySample] at h
  split_ifs at h with hs
  split at h
  · cases h
  · rename_i kind source rest hh
    split at h
    · cases h
    · rename_i sample' rest' hf
      split_ifs at h with hr hv
      cases h
      have hv : validateTelemetrySample sample := by simpa using hv
      have hn : rest' = [] := by simpa using hr
      obtain ⟨hk, hso, hf⟩ := readSampleFields_wire hf
      refine ⟨hv, ?_⟩
      rw [encodeTelemetrySample_of_valid hv, run_readSampleHeader_iff.mp hh, hf, hn,
        ← hk, ← hso]
      simp only [telemetrySampleWire, List.flatten_cons, List.flatten_nil]

lemma encodeSamples_of_readBatchSamples {count : ℕ} (h : (readBatchSamples count).run s = .ok (samples, rest)) :
    samples.length = count ∧ ∃ wire, encodeSamples samples = some wire ∧ s = wire ++ rest := by
  induction count generalizing s samples with
  | zero =>
    rw [readBatchSamples, Parser.run_pure_iff] at h
    obtain ⟨rfl, rfl⟩ := h
    exact ⟨rfl, [], rfl, rfl⟩
  | succ count ih =>
    simp only [readBatchSamples, Parser.run_bind_iff, Parser.run_orFail_iff, Parser.run_noInput_iff,
      Parser.run_pure_iff] at h
    obtain ⟨span, s1, hspan, sample, s2, ⟨hsamp, rfl⟩, others, s3, hothe, rfl, rfl⟩ := h
    simp only [readSampleSpan, run_bind_readLe_iff, run_bind_require_iff, run_readBytes_iff] at hspan
    obtain ⟨len, _, rfl, hmost, rfl, hlen⟩ := hspan
    obtain ⟨hcount, wire, hwire, rfl⟩ := ih hothe
    obtain ⟨-, henco⟩ := encodeTelemetrySample_of_decode hsamp
    have hne : span ≠ [] := by
      rintro rfl
      simp [decodeTelemetrySample, kTelemetrySampleFixedBytes] at hsamp
    refine ⟨by simp [hcount], [le (UInt16.ofNat span.length), span, wire].flatten, ?_, ?_⟩
    · simp only [encodeSamples]
      rw [henco, if_neg, hwire]
      · rfl
      · simp [hne]
        omega
    · rw [hlen, UInt16.ofNat_toNat]
      simp

lemma readBatchIdentity_wire (h : readBatchIdentity.run s = some (batch, rest)) :
    s = le batch.sequence ++ (le batch.firstEnqueuedAtUnixMilliseconds ++
      (batch.packageDigest.toList ++ (batch.clientId.toList ++ (batch.sessionId.toList ++
        (batch.producerId.toList ++ (stringBytes batch.packageId ++ (stringBytes batch.candidateId ++ rest))))))) := by
  have hp : kMaximumPackageIdBytes < 2 ^ 16 := by decide
  have hc : kMaximumCandidateIdBytes < 2 ^ 16 := by decide
  simp only [readBatchIdentity, run_bind_readLe_iff, run_bind_readBlock_iff,
    run_bind_readText_iff hp, run_bind_readText_iff hc, run_pure_iff] at h
  obtain ⟨_, _, rfl, _, _, rfl, _, _, rfl, _, _, rfl, _, _, rfl, _, _, rfl, _, _, rfl, -, _, _, rfl, -, rfl, rfl⟩ := h
  rfl

lemma readBatchHeader_wire {count : UInt16} (h : readBatchHeader.run s = some (count, rest)) :
    s = le kBatchMagic ++ (le kWireVersion ++ (le count ++ rest)) := by
  simp only [readBatchHeader, run_bind_readLe_iff, run_bind_require_iff, run_pure_iff] at h
  obtain ⟨_, _, rfl, rfl, _, _, rfl, rfl, _, _, rfl, -, rfl, rfl⟩ := h
  rfl

/-- **A batch is read off its own bytes.** -/
lemma encodeTelemetryBatch_of_decode (h : decodeTelemetryBatch payload = .ok batch) :
    validateTelemetryBatch batch ∧ encodeTelemetryBatch batch = payload := by
  simp only [decodeTelemetryBatch] at h
  split_ifs at h with hsize
  split at h
  · cases h
  · rename_i batch' rest hread
    split_ifs at h with hrest hvalid
    cases h
    have hvalid : validateTelemetryBatch batch := by simpa using hvalid
    have hnil : rest = [] := by simpa using hrest
    subst hnil
    simp only [readBatch, Parser.run_bind_iff, Parser.run_orFail_iff, Parser.run_pure_iff] at hread
    obtain ⟨count, s1, hhead, identity, s2, hiden, samples, s3, hsamp, rfl, rfl⟩ := hread
    obtain ⟨hcount, wire, hwire, rfl⟩ := encodeSamples_of_readBatchSamples hsamp
    obtain ⟨wire', hwire', henco⟩ := encodeTelemetryBatch_of_valid hvalid
    obtain rfl : wire = wire' := Option.some.inj (hwire.symm.trans hwire')
    refine ⟨hvalid, ?_⟩
    rw [henco, readBatchHeader_wire hhead, readBatchIdentity_wire hiden]
    simp only [batchHeader, hcount, UInt16.ofNat_toNat, List.flatten_cons, List.flatten_nil,
      List.append_assoc, List.append_nil]

/-- **The telemetry wire format.**  A valid batch, acknowledgement or enable has a wire form and is
read back from it; whatever is read is the wire form of what it is read as, and the hash of a batch is
the hash of the bytes it came in. -/
theorem telemetry_wire_canonical (sha256 : Bytes → Digest) : (∀ batch, validateTelemetryBatch batch = true →
      encodeTelemetryBatch batch ≠ [] ∧ decodeTelemetryBatch (encodeTelemetryBatch batch) = .ok batch) ∧
    (∀ payload batch, decodeTelemetryBatch payload = .ok batch → encodeTelemetryBatch batch = payload ∧
        computeTelemetryBatchHash sha256 batch = some (sha256 payload)) ∧ (∀ ack, validateTelemetryAck ack = true →
      encodeTelemetryAck ack ≠ [] ∧ decodeTelemetryAck (encodeTelemetryAck ack) = .ok ack) ∧
    (∀ payload ack, decodeTelemetryAck payload = .ok ack → encodeTelemetryAck ack = payload) ∧
    (∀ enable, validateTelemetryEnable enable = true → encodeTelemetryEnable enable ≠ [] ∧
        decodeTelemetryEnable (encodeTelemetryEnable enable) = .ok enable) ∧
    (∀ payload enable, decodeTelemetryEnable payload = .ok enable → encodeTelemetryEnable enable = payload) := by
  refine ⟨?_, ?_, ?_, ?_, ?_, ?_⟩
  · intro batch hvalid
    have hne := encodeTelemetryBatch_ne_nil_of_valid hvalid
    exact ⟨hne, decodeTelemetryBatch_encodeTelemetryBatch hne⟩
  · intro payload batch h
    obtain ⟨hvalid, rfl⟩ := encodeTelemetryBatch_of_decode h
    refine ⟨rfl, ?_⟩
    have hsome : (encodeTelemetryBatch batch).isEmpty = false := by
      simpa using encodeTelemetryBatch_ne_nil_of_valid hvalid
    have hshort := length_encodeTelemetryBatch batch
    simp only [computeTelemetryBatchHash, hsome, sha256Of, Bool.false_eq_true, if_false]
    refine if_neg ?_
    simp only [kMaximumTelemetryBatchBytes] at hshort
    omega
  · intro ack hvalid
    rw [encodeTelemetryAck_of_valid hvalid]
    refine ⟨?_, decodeTelemetryAck_iff.mpr ⟨rfl, hvalid⟩⟩
    rw [← List.length_pos_iff, length_telemetryAckWire]
    decide
  · intro payload ack h
    obtain ⟨rfl, hvalid⟩ := decodeTelemetryAck_iff.mp h
    exact encodeTelemetryAck_of_valid hvalid
  · intro enable hvalid
    rw [encodeTelemetryEnable_of_valid hvalid]
    refine ⟨?_, decodeTelemetryEnable_iff.mpr ⟨rfl, hvalid⟩⟩
    rw [← List.length_pos_iff]
    exact Nat.lt_of_lt_of_le (by decide) (length_telemetryEnableWire hvalid).1
  · intro payload enable h
    obtain ⟨rfl, hvalid⟩ := decodeTelemetryEnable_iff.mp h
    exact encodeTelemetryEnable_of_valid hvalid

end Nstu.Telemetry
