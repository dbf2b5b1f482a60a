import Mathlib.Algebra.Order.BigOperators.Group.List
import Mathlib.Algebra.Order.Ring.Nat
import Nstu.Exam.AckCodec

/-!
# Session snapshots on the wire

The second half of `exam_sync.cpp`: state requests and the encoder for one state response.

A response is refused when its metadata is wrong, when an answer is, when a question or a sequence
occurs twice, or when it does not fit in one command payload.  `FitsChunk` collects these
conditions, and `encodeStateResponseChunk_ne_nil_iff` says that they are all of them.
-/

namespace Nstu

open Wire Reader List
open Bool (or_eq_true not_eq_true' and_eq_true)

def kRequestMagic : UInt32 := 0x3151524e
def kResponseMagic : UInt32 := 0x3152534e
def kStateResponseWireVersion : UInt16 := 3
def kStateResponsePreviousWireVersion : UInt16 := 2

def kStateResponseV1FixedBytes : ℕ := 4 + 2 + 1 * 2 + 8 + 2 * 3 + 32 + 16 + 16 + 32
def kStateResponseFixedBytes : ℕ := kStateResponseV1FixedBytes + 2 * 2
def kStateResponseV3FixedBytes : ℕ := kStateResponseFixedBytes + 32

/-! ## State requests -/

def encodeStateRequest (request : StateRequest) : Bytes :=
  if !validText request.packageId kMaximumPackageIdBytes false ||
      allZero request.packageDigest.toList || !validIdentity request.clientId request.sessionId ||
      !validText request.candidateId kMaximumCandidateIdBytes false then []
  else
    [le kRequestMagic, le kWireVersion, le (UInt16.ofNat request.packageId.length),
      le (UInt16.ofNat request.candidateId.length), request.packageDigest.toList,
      request.clientId.toList, request.sessionId.toList, request.packageId,
      request.candidateId].flatten

/-- The four checks `encode_state_request` makes. -/
structure ValidStateRequest (request : StateRequest) : Prop where
  packageId : validText request.packageId kMaximumPackageIdBytes false = true
  packageDigest : allZero request.packageDigest.toList = false
  identity : validIdentity request.clientId request.sessionId = true
  candidateId : validText request.candidateId kMaximumCandidateIdBytes false = true

lemma encodeStateRequest_ne_nil_iff {request : StateRequest} :
    encodeStateRequest request ≠ [] ↔ ValidStateRequest request := by
  unfold encodeStateRequest
  split_ifs with h
  · simp only [ne_eq, not_true_eq_false, false_iff]
    rintro ⟨h1, h2, h3, h4⟩
    simp [h1, h2, h3, h4] at h
  · simp only [or_eq_true, not_eq_true', not_or, Bool.not_eq_false, Bool.not_eq_true] at h
    obtain ⟨⟨⟨h1, h2⟩, h3⟩, h4⟩ := h
    refine ⟨fun _ => ⟨h1, h2, h3, h4⟩, fun _ hn => ?_⟩
    have := congrArg length hn
    simp at this

/-! ## Answers inside a response -/

def validAnswerState (answer : AnswerState) : Bool :=
  validText answer.questionId kMaximumQuestionIdBytes false && (answer.kind == .upsert || answer.kind == .clear) &&
    answer.sequence != 0 && answer.answer.length ≤ kMaximumAnswerBytes &&
    answer.questionRevision != 0 && !allZero answer.eventHash.toList &&
    (answer.kind != .clear || answer.answer.isEmpty)

def answerWireBytes (answer : AnswerState) : ℕ :=
  2 + 4 + 8 + 1 * 2 + 4 + 32 + answer.questionId.length + answer.answer.length

/-- One answer as a response carries it. -/
def answerStateWire (answer : AnswerState) : Bytes :=
  [le (UInt16.ofNat answer.questionId.length), le answer.questionRevision, le answer.sequence,
    le answer.kind.raw, le (0 : UInt8), le (UInt32.ofNat answer.answer.length),
    answer.eventHash.toList, answer.questionId, answer.answer].flatten

lemma length_answerStateWire (answer : AnswerState) : (answerStateWire answer).length = answerWireBytes answer := by
  simp only [answerStateWire, flatten_cons, flatten_nil, length_append,
    length_nil, le_length, size_uint8, size_uint16, size_uint32, size_uint64,
    Block.length_toList, answerWireBytes]
  omega

lemma validAnswerState_iff {answer : AnswerState} : validAnswerState answer ↔
      validText answer.questionId kMaximumQuestionIdBytes false ∧
      (answer.kind = .upsert ∨ answer.kind = .clear) ∧ answer.sequence ≠ 0 ∧
      answer.answer.length ≤ kMaximumAnswerBytes ∧ answer.questionRevision ≠ 0 ∧
      allZero answer.eventHash.toList = false ∧ (answer.kind = .clear → answer.answer = []) := by
  simp only [validAnswerState, and_eq_true, or_eq_true, beq_iff_eq, bne_iff_ne,
    decide_eq_true_eq, not_eq_true', List.isEmpty_iff, and_assoc]
  constructor
  · rintro ⟨h1, h2, h3, h4, h5, h6, h7⟩
    exact ⟨h1, h2, h3, h4, h5, h6, fun hk => h7.resolve_left (fun hn => hn hk)⟩
  · rintro ⟨h1, h2, h3, h4, h5, h6, h7⟩
    exact ⟨h1, h2, h3, h4, h5, h6, (Decidable.em (answer.kind = .clear)).symm.imp_right h7⟩

/-- The most one valid answer takes. -/
def maximumAnswerWireBytes : ℕ := 52 + kMaximumQuestionIdBytes + kMaximumAnswerBytes

lemma validAnswerState_wireBytes_le {answer : AnswerState} (h : validAnswerState answer) :
    answerWireBytes answer ≤ maximumAnswerWireBytes := by
  obtain ⟨hq, -, -, ha, -⟩ := validAnswerState_iff.mp h
  have hl := (validText_iff.mp hq).2.1
  simp only [answerWireBytes, maximumAnswerWireBytes]
  omega

/-- The answers one response may carry: each valid and no later than the session's highest
sequence, no question and no sequence twice.  This is what the encoder's and the decoder's sets
enforce. -/
structure AnswerSet (highest : UInt64) (answers : List AnswerState) : Prop where
  valid : ∀ answer ∈ answers, validAnswerState answer = true ∧ answer.sequence ≤ highest
  questions : (answers.map AnswerState.questionId).Nodup
  sequences : (answers.map AnswerState.sequence).Nodup

namespace AnswerSet

variable {highest : UInt64} {answers : List AnswerState} {answer : AnswerState}

lemma nil : AnswerSet highest [] := ⟨by simp, by simp, by simp⟩

lemma of_sublist {sub : List AnswerState} (h : AnswerSet highest answers)
    (hs : List.Sublist sub answers) : AnswerSet highest sub :=
  ⟨fun a ha => h.valid a (hs.subset ha), h.questions.sublist (hs.map _),
    h.sequences.sublist (hs.map _)⟩

lemma of_append {rest : List AnswerState} (h : AnswerSet highest (answers ++ rest)) :
    AnswerSet highest answers := h.of_sublist (sublist_append_left _ _)

lemma append_singleton_iff : AnswerSet highest (answers ++ [answer]) ↔
      AnswerSet highest answers ∧ validAnswerState answer ∧ answer.sequence ≤ highest ∧
      answer.questionId ∉ answers.map AnswerState.questionId ∧ answer.sequence ∉ answers.map AnswerState.sequence := by
  constructor
  · intro h
    have hq := h.questions
    have hs := h.sequences
    rw [map_append, nodup_append] at hq hs
    have hv := h.valid answer (by simp)
    refine ⟨h.of_append, hv.1, hv.2, fun hmem => ?_, fun hmem => ?_⟩
    · exact hq.2.2 _ hmem _ (by simp) rfl
    · exact hs.2.2 _ hmem _ (by simp) rfl
  · rintro ⟨h, hvalid, hle, hq, hs⟩
    refine ⟨?_, ?_, ?_⟩
    · intro a ha
      rw [mem_append, mem_singleton] at ha
      rcases ha with ha | rfl
      · exact h.valid a ha
      · exact ⟨hvalid, hle⟩
    · rw [map_append, nodup_append]
      refine ⟨h.questions, by simp, fun a ha b hb hab => ?_⟩
      rw [map_singleton, mem_singleton] at hb
      exact hq (hb ▸ hab ▸ ha)
    · rw [map_append, nodup_append]
      refine ⟨h.sequences, by simp, fun a ha b hb hab => ?_⟩
      rw [map_singleton, mem_singleton] at hb
      exact hs (hb ▸ hab ▸ ha)

end AnswerSet

/-! ## Response metadata -/

def validStateResponseIdentity (response : StateResponse) : Bool :=
  validText response.packageId kMaximumPackageIdBytes false && allZero response.packageDigest.toList == false &&
    validIdentity response.clientId response.sessionId &&
    validText response.candidateId kMaximumCandidateIdBytes false &&
    response.chunkCount != 0 && response.chunkCount.toNat ≤ kMaximumStateChunks &&
    response.chunkIndex < response.chunkCount &&
    response.answers.length ≤ kMaximumStateEntries

def validStateResponseMetadata (response : StateResponse) : Bool :=
  if !validStateResponseIdentity response then false
  else if response.highestContiguousSequence == 0 then allZero response.lastEventHash.toList
  else !allZero response.stateHash.toList && !allZero response.lastEventHash.toList

/-- The metadata a valid response carries, without the answer count and the chunk numbering that
change from chunk to chunk. -/
structure ValidStateHeader (response : StateResponse) : Prop where
  packageId : validText response.packageId kMaximumPackageIdBytes false = true
  packageDigest : allZero response.packageDigest.toList = false
  identity : validIdentity response.clientId response.sessionId = true
  candidateId : validText response.candidateId kMaximumCandidateIdBytes false = true
  cursor : if response.highestContiguousSequence = 0 then
      allZero response.lastEventHash.toList = true
    else allZero response.stateHash.toList = false ∧ allZero response.lastEventHash.toList = false

variable {response : StateResponse}

lemma validStateResponseMetadata_iff : validStateResponseMetadata response ↔
      ValidStateHeader response ∧ response.chunkCount ≠ 0 ∧ response.chunkCount.toNat ≤ kMaximumStateChunks ∧
      response.chunkIndex < response.chunkCount ∧ response.answers.length ≤ kMaximumStateEntries := by
  unfold validStateResponseMetadata
  split_ifs with hi hz
  · simp only [validStateResponseIdentity, not_eq_true', ← Bool.not_eq_true,
      and_eq_true, beq_iff_eq, bne_iff_ne, decide_eq_true_eq, and_assoc] at hi
    refine ⟨fun h => h.elim, ?_⟩
    rintro ⟨h, h1, h2, h3, h4⟩
    exact absurd ⟨h.packageId, by simpa using h.packageDigest, h.identity, h.candidateId, h1, h2,
      h3, h4⟩ hi
  all_goals
    simp only [validStateResponseIdentity, not_eq_true', Bool.not_eq_false,
      and_eq_true, beq_iff_eq, bne_iff_ne, decide_eq_true_eq, and_assoc] at hi
    obtain ⟨h1, h2, h3, h4, h5, h6, h7, h8⟩ := hi
    simp only [beq_iff_eq] at hz
  · exact ⟨fun h => ⟨⟨h1, h2, h3, h4, by rw [if_pos hz]; exact h⟩, h5, h6, h7, h8⟩,
      fun h => by have := h.1.cursor; rw [if_pos hz] at this; exact this⟩
  · simp only [and_eq_true, not_eq_true']
    exact ⟨fun h => ⟨⟨h1, h2, h3, h4, by rw [if_neg hz]; exact h⟩, h5, h6, h7, h8⟩,
      fun h => by have := h.1.cursor; rw [if_neg hz] at this; exact this⟩

/-! ## Encoding one chunk -/

/-- The bytes of a chunk without its answers. -/
def stateBaseBytes (response : StateResponse) : ℕ :=
  kStateResponseV3FixedBytes + response.packageId.length + response.candidateId.length

/-- The bytes `encode_state_response_chunk` assembles. -/
def stateResponseWire (response : StateResponse) : Bytes :=
  [le kResponseMagic, le kStateResponseWireVersion, le (if response.finalized then 1 else 0 : UInt8),
    le (0 : UInt8), le response.highestContiguousSequence,
    le (UInt16.ofNat response.answers.length), le response.chunkIndex, le response.chunkCount,
    le (UInt16.ofNat response.packageId.length), le (UInt16.ofNat response.candidateId.length),
    response.packageDigest.toList, response.clientId.toList, response.sessionId.toList,
    response.stateHash.toList, response.lastEventHash.toList,
    response.packageId, response.candidateId, (response.answers.map answerStateWire).flatten].flatten

/-- The chunk encoder's loop over its answers: the answers already passed stand for the two sets,
and the running total is returned. -/
def sumAnswerBytes (highest : UInt64) : List AnswerState → List AnswerState → ℕ → Option ℕ
  | [], _, answerBytes => some answerBytes
  | answer :: rest, passed, answerBytes =>
    if !validAnswerState answer || answer.sequence > highest || answer.questionId.length > 2 ^ 16 - 1 ||
        answer.questionId ∈ passed.map AnswerState.questionId ||
        answer.sequence ∈ passed.map AnswerState.sequence then none
    else
      let bytes := answerWireBytes answer
      if answerBytes > kMaximumWireBytes - bytes then none
      else sumAnswerBytes highest rest (passed ++ [answer]) (answerBytes + bytes)

def encodeStateResponseChunk (response : StateResponse) : Bytes :=
  if !validStateResponseMetadata response || response.answers.length > kMaximumStateEntries then []
  else
    let baseBytes := stateBaseBytes response
    match sumAnswerBytes response.highestContiguousSequence response.answers [] 0 with
    | none => []
    | some answerBytes =>
      if baseBytes > kMaximumWireBytes || answerBytes > kMaximumWireBytes - baseBytes then []
      else
        let wire := stateResponseWire response
        if wire.length ≤ kMaximumWireBytes then wire else []

def encodeStateResponse (response : StateResponse) : Bytes := encodeStateResponseChunk response

/-- The answers' share of a response. -/
def answersBytes (answers : List AnswerState) : ℕ := (answers.map answerWireBytes).sum

@[simp] lemma answersBytes_nil : answersBytes [] = 0 := rfl

@[simp] lemma answersBytes_cons (answer : AnswerState) (rest : List AnswerState) :
    answersBytes (answer :: rest) = answerWireBytes answer + answersBytes rest := by
  simp [answersBytes]

@[simp] lemma answersBytes_append (left right : List AnswerState) :
    answersBytes (left ++ right) = answersBytes left + answersBytes right := by
  simp [answersBytes]

variable {bound : ℕ}

lemma answersBytes_le {answers : List AnswerState} (h : ∀ answer ∈ answers, answerWireBytes answer ≤ bound) :
    answersBytes answers ≤ answers.length * bound := by
  simpa [answersBytes] using sum_le_card_nsmul (answers.map answerWireBytes) bound (by simpa using h)

lemma le_answersBytes {answers : List AnswerState} (h : ∀ answer ∈ answers, bound ≤ answerWireBytes answer) :
    answers.length * bound ≤ answersBytes answers := by
  simpa [answersBytes] using card_nsmul_le_sum (answers.map answerWireBytes) bound (by simpa using h)

lemma length_flatten_answerStateWire (answers : List AnswerState) :
    ((answers.map answerStateWire).flatten).length = answersBytes answers := by
  simp [length_flatten, answersBytes, Function.comp_def, length_answerStateWire]

lemma length_stateResponseWire (response : StateResponse) :
    (stateResponseWire response).length = stateBaseBytes response + answersBytes response.answers := by
  simp only [stateResponseWire, flatten_cons, flatten_nil, length_append,
    length_nil, le_length, size_uint8, size_uint16, size_uint32, size_uint64,
    Block.length_toList, length_flatten_answerStateWire, stateBaseBytes, kStateResponseV3FixedBytes,
    kStateResponseFixedBytes, kStateResponseV1FixedBytes]
  omega

lemma stateResponseWire_ne_nil (response : StateResponse) : stateResponseWire response ≠ [] := by
  intro h
  have := length_stateResponseWire response
  simp only [h, length_nil, stateBaseBytes, kStateResponseV3FixedBytes,
    kStateResponseFixedBytes, kStateResponseV1FixedBytes] at this
  omega

/-- The loop succeeds on exactly the answer sets whose running total never passes the limit, and
then returns the total.  A valid answer is far smaller than the limit, so the source's unsigned
subtraction does not wrap. -/
lemma sumAnswerBytes_eq_some_iff {highest : UInt64} : ∀ {answers passed : List AnswerState} {start total : ℕ},
      AnswerSet highest passed → start ≤ kMaximumWireBytes →
      (sumAnswerBytes highest answers passed start = some total ↔
        AnswerSet highest (passed ++ answers) ∧ total = start + answersBytes answers ∧ total ≤ kMaximumWireBytes)
  | [], passed, start, total, hpass, hstart => by
    simp only [sumAnswerBytes, append_nil, answersBytes_nil, Nat.add_zero, Option.some.injEq]
    exact ⟨fun h => ⟨hpass, h.symm, h ▸ hstart⟩, fun h => h.2.1.symm⟩
  | answer :: rest, passed, start, total, hpass, hstart => by
    have hsplit : passed ++ answer :: rest = (passed ++ [answer]) ++ rest := by simp
    simp only [sumAnswerBytes]
    split_ifs with hbad hbig
    · simp only [false_iff]
      rintro ⟨hset, -⟩
      rw [hsplit] at hset
      obtain ⟨-, hvalid, hle, hq, hs⟩ := AnswerSet.append_singleton_iff.mp hset.of_append
      have hlen := (validText_iff.mp (validAnswerState_iff.mp hvalid).1).2.1
      simp only [kMaximumQuestionIdBytes] at hlen
      simp only [hvalid, Bool.not_true, Bool.false_or, or_eq_true, decide_eq_true_eq,
        gt_iff_lt, UInt64.not_lt.mpr hle, hq, hs, false_or, or_false] at hbad
      omega
    · simp only [false_iff]
      rintro ⟨-, htotal, hmax⟩
      simp only [answersBytes_cons] at htotal
      omega
    · simp only [or_eq_true, not_eq_true', decide_eq_true_eq, not_or, gt_iff_lt,
        UInt64.not_lt, Nat.not_lt, Bool.not_eq_false] at hbad
      obtain ⟨⟨⟨⟨hvalid, hle⟩, -⟩, hq⟩, hs⟩ := hbad
      have hwire := validAnswerState_wireBytes_le hvalid
      have hnext : AnswerSet highest (passed ++ [answer]) :=
        AnswerSet.append_singleton_iff.mpr ⟨hpass, hvalid, hle, hq, hs⟩
      have hroom : start + answerWireBytes answer ≤ kMaximumWireBytes := by
        simp only [maximumAnswerWireBytes, kMaximumQuestionIdBytes, kMaximumAnswerBytes] at hwire
        simp only [kMaximumWireBytes, kMaximumExamPayloadBytes, kMaxCommandPayload, kControlAuthTagBytes] at *
        omega
      rw [sumAnswerBytes_eq_some_iff hnext hroom, hsplit, answersBytes_cons, Nat.add_assoc]

/-- A response that fits in one chunk. -/
structure FitsChunk (response : StateResponse) : Prop where
  metadata : validStateResponseMetadata response = true
  answers : AnswerSet response.highestContiguousSequence response.answers
  bytes : stateBaseBytes response + answersBytes response.answers ≤ kMaximumWireBytes

/-- The chunk encoder, described: it writes the wire form of what fits and nothing otherwise. -/
theorem encodeStateResponseChunk_of_fits (h : FitsChunk response) :
    encodeStateResponseChunk response = stateResponseWire response := by
  have hc := (validStateResponseMetadata_iff.mp h.metadata).2.2.2.2
  have hb := h.bytes
  have hs : sumAnswerBytes response.highestContiguousSequence response.answers [] 0 =
      some (answersBytes response.answers) :=
    (sumAnswerBytes_eq_some_iff AnswerSet.nil (Nat.zero_le _)).mpr ⟨h.answers, (Nat.zero_add _).symm, by omega⟩
  unfold encodeStateResponseChunk
  rw [if_neg (by simp [h.metadata]; omega)]
  simp only [hs]
  rw [if_neg (by simp; omega), if_pos (by rw [length_stateResponseWire]; exact hb)]

/-- Exactly the chunks within the limits encode. -/
theorem encodeStateResponseChunk_ne_nil_iff : encodeStateResponseChunk response ≠ [] ↔ FitsChunk response := by
  constructor
  · intro h
    simp only [encodeStateResponseChunk] at h
    split at h
    · exact absurd rfl h
    · rename_i hm
      simp only [or_eq_true, not_eq_true', decide_eq_true_eq, not_or, Bool.not_eq_false] at hm
      split at h
      · exact absurd rfl h
      · rename_i answerBytes hs
        obtain ⟨hse, ht, -⟩ :=
          (sumAnswerBytes_eq_some_iff AnswerSet.nil (Nat.zero_le _)).mp hs
        split at h
        · exact absurd rfl h
        · rename_i hb
          simp only [or_eq_true, decide_eq_true_eq, not_or] at hb
          exact ⟨hm.1, hse, by omega⟩
  · intro h
    rw [encodeStateResponseChunk_of_fits h]
    exact stateResponseWire_ne_nil response

end Nstu
