import Nstu.Exam.StateCodec

/-!
# Splitting a snapshot into chunks

`encode_state_response_chunks`: one response, cut greedily into command-sized chunks.

The splitter keeps its own running byte count and hands each group of answers to the chunk
encoder, which counts again from scratch.  `packAnswers_fits` is the invariant that makes the two
counts agree.  With it the whole function has a short description: it returns something exactly
for the `Chunkable` responses (`encodeStateResponseChunks_ne_nil_iff`), and then one wire form per
group of answers (`encodeStateResponseChunks_of_chunkable`).
-/

namespace Nstu

open Wire List

/-! ## Splitting into chunks -/

/-- The greedy loop of `encode_state_response_chunks`: `current` is the chunk being filled and
`currentBytes` its size so far.  The first answer of a chunk is taken without a size check. -/
def packAnswers (baseBytes : ℕ) : List AnswerState → List AnswerState → ℕ → List (List AnswerState)
  | [], current, _ => [current]
  | answer :: rest, current, currentBytes =>
    let bytes := answerWireBytes answer
    if !current.isEmpty && currentBytes > kMaximumWireBytes - bytes then
      current :: packAnswers baseBytes rest [answer] (baseBytes + bytes)
    else packAnswers baseBytes rest (current ++ [answer]) (currentBytes + bytes)

/-- The answers of a response, grouped as the splitter groups them. -/
def answerChunks (response : StateResponse) : List (List AnswerState) :=
  packAnswers (stateBaseBytes response) response.answers [] (stateBaseBytes response)

/-- Chunk `index` of `count`. -/
def StateResponse.chunk (response : StateResponse) (count : UInt16) (index : ℕ)
    (answers : List AnswerState) : StateResponse :=
  { response with chunkIndex := UInt16.ofNat index, chunkCount := count, answers := answers }

def encodeStateResponseChunks (response : StateResponse) : List Bytes :=
  if !validStateResponseMetadata response || response.answers.length > kMaximumStateEntries then []
  else if stateBaseBytes response > kMaximumWireBytes then []
  else if response.answers.any (fun answer => !validAnswerState answer ||
      answer.sequence > response.highestContiguousSequence ||
      answer.questionId.length > 2 ^ 16 - 1 ||
      answerWireBytes answer > kMaximumWireBytes - stateBaseBytes response) then []
  else if ¬ (response.answers.map AnswerState.questionId).Nodup ∨
      ¬ (response.answers.map AnswerState.sequence).Nodup then []
  else
    let chunks := answerChunks response
    if chunks.length > kMaximumStateChunks || chunks.length > 2 ^ 16 - 1 then []
    else
      let wires := chunks.mapIdx fun index answers =>
        encodeStateResponseChunk (response.chunk (UInt16.ofNat chunks.length) index answers)
      if wires.any List.isEmpty then [] else wires

lemma flatten_packAnswers (base : ℕ) : ∀ (answers current : List AnswerState) (bytes : ℕ),
      (packAnswers base answers current bytes).flatten = current ++ answers
  | [], current, bytes => by simp [packAnswers]
  | answer :: rest, current, bytes => by
    simp only [packAnswers]
    split_ifs
    · rw [flatten_cons, flatten_packAnswers base rest]
      rfl
    · rw [flatten_packAnswers base rest]
      simp

lemma flatten_answerChunks (response : StateResponse) : (answerChunks response).flatten = response.answers := by
  simp [answerChunks, flatten_packAnswers]

lemma packAnswers_ne_nil (base : ℕ) :
    ∀ (answers current : List AnswerState) (bytes : ℕ), packAnswers base answers current bytes ≠ []
  | [], current, bytes => by simp [packAnswers]
  | answer :: rest, current, bytes => by
    simp only [packAnswers]
    split_ifs
    · simp
    · exact packAnswers_ne_nil base rest _ _

/-- **The splitter's byte count is right.**  Whenever each answer fits next to the metadata on its
own and the chunk being filled fits, every chunk produced fits. -/
lemma packAnswers_fits {base : ℕ} : ∀ {answers current : List AnswerState},
      (∀ answer ∈ answers, base + answerWireBytes answer ≤ kMaximumWireBytes) →
      base + answersBytes current ≤ kMaximumWireBytes →
      ∀ chunk ∈ packAnswers base answers current (base + answersBytes current),
        base + answersBytes chunk ≤ kMaximumWireBytes
  | [], current, _, hcurr => by
    simp only [packAnswers, mem_singleton]
    rintro chunk rfl
    exact hcurr
  | answer :: rest, current, hfit, hcurr => by
    have hansw := hfit answer (by simp)
    have hrest : ∀ a ∈ rest, base + answerWireBytes a ≤ kMaximumWireBytes :=
      fun a ha => hfit a (by simp [ha])
    simp only [packAnswers]
    split_ifs with hfull
    · intro chunk hchunk
      rw [mem_cons] at hchunk
      rcases hchunk with rfl | hchunk
      · exact hcurr
      · have hsing : base + answerWireBytes answer = base + answersBytes [answer] := by simp
        rw [hsing] at hchunk hansw
        exact packAnswers_fits hrest hansw chunk hchunk
    · have hstep : base + answersBytes current + answerWireBytes answer
          = base + answersBytes (current ++ [answer]) := by
        simp only [answersBytes_append, answersBytes_cons, answersBytes_nil]
        omega
      rw [hstep]
      refine packAnswers_fits hrest ?_
      -- either the chunk was empty and the answer fits alone, or the size check passed
      simp only [Bool.and_eq_true, Bool.not_eq_true', decide_eq_true_eq, not_and, gt_iff_lt, Nat.not_lt] at hfull
      cases current with
      | nil => simpa using hansw
      | cons first more =>
        have := hfull rfl
        omega

/-- **Three answers to a chunk.**  Where three answers always fit, a chunk is closed only when it holds
at least three, so all chunks but the last hold that many. -/
lemma length_packAnswers_le {base : ℕ} (hbase : base + 3 * maximumAnswerWireBytes ≤ kMaximumWireBytes) :
    ∀ {answers current : List AnswerState},
      (∀ answer ∈ current ++ answers, answerWireBytes answer ≤ maximumAnswerWireBytes) →
      current ++ answers ≠ [] →
      3 * (packAnswers base answers current (base + answersBytes current)).length ≤
        current.length + answers.length + 2
  | [], current, _, hne => by
    have := length_pos_iff.mpr hne
    simp only [packAnswers, length_append, length_singleton, length_nil] at *
    omega
  | answer :: rest, current, hbound, _ => by
    have hansw := hbound answer (by simp)
    have hcurr := answersBytes_le fun a ha => hbound a (mem_append_left _ ha)
    simp only [packAnswers]
    split_ifs with hfull
    · simp only [Bool.and_eq_true, Bool.not_eq_true', decide_eq_true_eq, gt_iff_lt] at hfull
      -- two answers and the new one would have fitted
      have hthree : 3 ≤ current.length := by
        by_contra hlt
        have : current.length * maximumAnswerWireBytes ≤ 2 * maximumAnswerWireBytes :=
          Nat.mul_le_mul_right _ (by omega)
        omega
      have hrest := @length_packAnswers_le _ hbase rest [answer]
        (fun a ha => hbound a (mem_append_right _ ha)) (by simp)
      simp only [answersBytes_cons, answersBytes_nil, Nat.add_zero, length_singleton] at hrest
      simp only [length_cons]
      omega
    · have hstep : base + answersBytes current + answerWireBytes answer
          = base + answersBytes (current ++ [answer]) := by
        simp only [answersBytes_append, answersBytes_cons, answersBytes_nil]
        omega
      rw [hstep]
      have hrest := @length_packAnswers_le _ hbase rest (current ++ [answer]) (by simpa using hbound) (by simp)
      simp only [length_append, length_singleton] at hrest
      simp only [length_cons]
      omega

lemma stateBaseBytes_add_wireBytes_le {response : StateResponse} {answer : AnswerState}
    (h : ValidStateHeader response) (ha : validAnswerState answer) :
    stateBaseBytes response + answerWireBytes answer ≤ kMaximumWireBytes := by
  have hp := (validText_iff.mp h.packageId).2.1
  have hc := (validText_iff.mp h.candidateId).2.1
  have hw := validAnswerState_wireBytes_le ha
  simp only [stateBaseBytes, kStateResponseV3FixedBytes, kStateResponseFixedBytes,
    kStateResponseV1FixedBytes, kMaximumPackageIdBytes, kMaximumCandidateIdBytes,
    maximumAnswerWireBytes, kMaximumQuestionIdBytes, kMaximumAnswerBytes, kMaximumWireBytes,
    kMaximumExamPayloadBytes, kMaxCommandPayload, kControlAuthTagBytes] at *
  omega

lemma stateBaseBytes_le {response : StateResponse} (h : ValidStateHeader response) :
    stateBaseBytes response ≤ kMaximumWireBytes := by
  have hp := (validText_iff.mp h.packageId).2.1
  have hc := (validText_iff.mp h.candidateId).2.1
  simp only [stateBaseBytes, kStateResponseV3FixedBytes, kStateResponseFixedBytes,
    kStateResponseV1FixedBytes, kMaximumPackageIdBytes, kMaximumCandidateIdBytes,
    kMaximumWireBytes, kMaximumExamPayloadBytes, kMaxCommandPayload, kControlAuthTagBytes] at *
  omega

@[simp] lemma stateBaseBytes_chunk (response : StateResponse) (count : UInt16) (index : ℕ)
    (answers : List AnswerState) :
    stateBaseBytes (response.chunk count index answers) = stateBaseBytes response := rfl

lemma ValidStateHeader.chunk {response : StateResponse} (h : ValidStateHeader response)
    (count : UInt16) (index : ℕ) (answers : List AnswerState) : ValidStateHeader (response.chunk count index answers) :=
  ⟨h.packageId, h.packageDigest, h.identity, h.candidateId, h.cursor⟩

/-- What a response needs to be sendable: valid metadata, a proper answer set, and at most
`kMaximumStateChunks` chunks. -/
structure Chunkable (response : StateResponse) : Prop where
  metadata : validStateResponseMetadata response = true
  answers : AnswerSet response.highestContiguousSequence response.answers
  chunks : (answerChunks response).length ≤ kMaximumStateChunks

namespace Chunkable

variable {response : StateResponse}

lemma header (h : Chunkable response) : ValidStateHeader response :=
  (validStateResponseMetadata_iff.mp h.metadata).1

lemma fits (h : Chunkable response) {index : ℕ} (hi : index < (answerChunks response).length) :
    FitsChunk (response.chunk (UInt16.ofNat (answerChunks response).length) index (answerChunks response)[index]) := by
  have hm := getElem_mem hi
  have hc := h.chunks
  simp only [kMaximumStateChunks] at hc
  have ht : (UInt16.ofNat (answerChunks response).length).toNat = (answerChunks response).length :=
    UInt16.toNat_ofNat_of_lt' (by simp only [UInt16.size]; omega)
  have hin : (UInt16.ofNat index).toNat = index :=
    UInt16.toNat_ofNat_of_lt' (by simp only [UInt16.size]; omega)
  have hs : List.Sublist (answerChunks response)[index] response.answers := by
    have := sublist_flatten_of_mem hm
    rwa [flatten_answerChunks] at this
  refine ⟨validStateResponseMetadata_iff.mpr ⟨h.header.chunk _ _ _, ?_, ?_, ?_, ?_⟩, h.answers.of_sublist hs, ?_⟩
  · intro hz
    have := congrArg UInt16.toNat hz
    simp only [StateResponse.chunk, ht, UInt16.toNat_zero] at this
    omega
  · simp only [StateResponse.chunk, ht, kMaximumStateChunks]
    exact hc
  · rw [UInt16.lt_iff_toNat_lt]
    simp only [StateResponse.chunk, ht, hin]
    exact hi
  · have := hs.length_le
    have := (validStateResponseMetadata_iff.mp h.metadata).2.2.2.2
    simp only [StateResponse.chunk]
    omega
  · rw [stateBaseBytes_chunk]
    refine @packAnswers_fits _ response.answers [] ?_ ?_ _ hm
    · exact fun a ha => stateBaseBytes_add_wireBytes_le h.header (h.answers.valid a ha).1
    · simpa using stateBaseBytes_le h.header

lemma length_answers_le (h : Chunkable response)
    (hl : ∀ answer ∈ response.answers, kMaximumAnswerBytes ≤ answerWireBytes answer) :
    response.answers.length ≤ 3 * (answerChunks response).length := by
  have hc : ∀ chunk ∈ answerChunks response, chunk.length ≤ 3 := by
    intro chunk hm
    have hb : answersBytes chunk ≤ kMaximumWireBytes := by
      obtain ⟨index, hi, rfl⟩ := getElem_of_mem hm
      exact Nat.le_trans (Nat.le_add_left _ _) (h.fits hi).bytes
    have hs : List.Sublist chunk response.answers := by
      have := sublist_flatten_of_mem hm
      rwa [flatten_answerChunks] at this
    have := le_answersBytes fun a ha => hl a (hs.subset ha)
    simp only [kMaximumAnswerBytes, kMaximumWireBytes, kMaximumExamPayloadBytes,
      kMaxCommandPayload, kControlAuthTagBytes] at *
    omega
  rw [← flatten_answerChunks response, length_flatten]
  have := sum_le_card_nsmul ((answerChunks response).map length) 3 (by simpa using hc)
  simpa [Nat.mul_comm] using this

end Chunkable

lemma length_answerChunks_le {response : StateResponse} (hhead : ValidStateHeader response)
    (hvalid : ∀ answer ∈ response.answers, validAnswerState answer)
    (hfew : response.answers.length ≤ 3 * kMaximumStateChunks) :
    (answerChunks response).length ≤ kMaximumStateChunks := by
  by_cases hnil : response.answers = []
  · simp [answerChunks, hnil, packAnswers, kMaximumStateChunks]
  · have hp := (validText_iff.mp hhead.packageId).2.1
    have hc := (validText_iff.mp hhead.candidateId).2.1
    have hbase : stateBaseBytes response + 3 * maximumAnswerWireBytes ≤ kMaximumWireBytes := by
      simp only [stateBaseBytes, kStateResponseV3FixedBytes, kStateResponseFixedBytes,
        kStateResponseV1FixedBytes, kMaximumPackageIdBytes, kMaximumCandidateIdBytes,
        maximumAnswerWireBytes, kMaximumQuestionIdBytes, kMaximumAnswerBytes, kMaximumWireBytes,
        kMaximumExamPayloadBytes, kMaxCommandPayload, kControlAuthTagBytes] at *
      omega
    have hcount := @length_packAnswers_le _ hbase response.answers []
      (fun a ha => validAnswerState_wireBytes_le (hvalid a ha)) hnil
    simp only [answersBytes_nil, Nat.add_zero, length_nil, Nat.zero_add] at hcount
    simp only [answerChunks, kMaximumStateChunks] at *
    omega

/-- The result of a successful split: one wire form per group of answers, in order. -/
theorem encodeStateResponseChunks_of_chunkable {response : StateResponse} (h : Chunkable response) :
    encodeStateResponseChunks response = (answerChunks response).mapIdx fun index answers =>
      stateResponseWire (response.chunk (UInt16.ofNat (answerChunks response).length) index answers) := by
  have hentr := (validStateResponseMetadata_iff.mp h.metadata).2.2.2.2
  have hcount := h.chunks
  have hwires : ((answerChunks response).mapIdx fun index answers =>
        encodeStateResponseChunk (response.chunk (UInt16.ofNat (answerChunks response).length) index answers))
      = (answerChunks response).mapIdx fun index answers =>
        stateResponseWire (response.chunk (UInt16.ofNat (answerChunks response).length) index answers) := by
    refine ext_getElem (by simp) fun index h1 h2 => ?_
    rw [length_mapIdx] at h1
    rw [getElem_mapIdx, getElem_mapIdx]
    exact encodeStateResponseChunk_of_fits (h.fits h1)
  have hansw : ¬ (response.answers.any (fun answer => !validAnswerState answer ||
      answer.sequence > response.highestContiguousSequence ||
      answer.questionId.length > 2 ^ 16 - 1 ||
      answerWireBytes answer > kMaximumWireBytes - stateBaseBytes response)) := by
    rw [Bool.not_eq_true, any_eq_false]
    intro answer hanswe
    obtain ⟨hvalid, hle⟩ := h.answers.valid answer hanswe
    have hlen := (validText_iff.mp (validAnswerState_iff.mp hvalid).1).2.1
    have hroom := stateBaseBytes_add_wireBytes_le h.header hvalid
    simp only [kMaximumQuestionIdBytes] at hlen
    simp only [hvalid, Bool.not_true, Bool.false_or, Bool.or_eq_true, decide_eq_true_eq, not_or,
      gt_iff_lt, UInt64.not_lt, Nat.not_lt]
    exact ⟨⟨hle, by omega⟩, by omega⟩
  have hnodup : ¬ (¬ (response.answers.map AnswerState.questionId).Nodup ∨
      ¬ (response.answers.map AnswerState.sequence).Nodup) :=
    fun hor => hor.elim (fun hq => hq h.answers.questions) (fun hs => hs h.answers.sequences)
  simp only [encodeStateResponseChunks]
  rw [if_neg (by simp [h.metadata]; omega),
    if_neg (Nat.not_lt.mpr (stateBaseBytes_le h.header)), if_neg hansw, if_neg hnodup,
    if_neg (by simp only [kMaximumStateChunks] at *; simp; omega), hwires, if_neg]
  rw [Bool.not_eq_true, any_eq_false]
  intro wire hwire
  obtain ⟨index, hindex, rfl⟩ := mem_mapIdx.mp hwire
  simp [stateResponseWire_ne_nil]

/-- The splitter produces something exactly for the chunkable responses. -/
theorem encodeStateResponseChunks_ne_nil_iff {response : StateResponse} :
    encodeStateResponseChunks response ≠ [] ↔ Chunkable response := by
  constructor
  · intro h
    simp only [encodeStateResponseChunks] at h
    split at h
    · exact absurd rfl h
    · rename_i hm
      simp only [Bool.or_eq_true, Bool.not_eq_true', decide_eq_true_eq, not_or, Bool.not_eq_false] at hm
      split at h
      · exact absurd rfl h
      · split at h
        · exact absurd rfl h
        · rename_i ha
          rw [Bool.not_eq_true, any_eq_false] at ha
          split at h
          · exact absurd rfl h
          · rename_i hn
            simp only [not_or, Decidable.not_not] at hn
            split at h
            · exact absurd rfl h
            · rename_i hc
              simp only [Bool.or_eq_true, decide_eq_true_eq, not_or, Nat.not_lt, gt_iff_lt] at hc
              refine ⟨hm.1, ⟨fun answer han => ?_, hn.1, hn.2⟩, hc.1⟩
              have := ha answer han
              simp only [Bool.or_eq_true, Bool.not_eq_true', decide_eq_true_eq, not_or,
                Bool.not_eq_false, gt_iff_lt, UInt64.not_lt] at this
              exact ⟨this.1.1.1, this.1.1.2⟩
  · intro h hni
    rw [encodeStateResponseChunks_of_chunkable h] at hni
    rw [mapIdx_eq_nil_iff] at hni
    exact packAnswers_ne_nil _ _ _ _ hni

end Nstu
