import Nstu.Exam.Journal.State

/-!
# Exporting a session's state

`export_state` writes a snapshot as a header followed by length-prefixed chunks, and
`decode_state_export` reads it back: it decodes each chunk, checks that the chunks agree, collects
their answers, and finally recomputes the state hash from the answers *sorted by question id*, while
the journal computed it by walking a map.

`readExportChunks_encoded` follows the reader over the chunks of one response, and
`stateResponseHash_eq` compares the two canonical forms.  `stateExport_roundTrip` combines them.
-/

namespace Nstu

open Wire Wire.Reader FramedLog List
open StateResponse (chunk)

def kStateExportMagic : UInt32 := 0x31584553
def kStateExportVersion : UInt16 := 1

/-- The size of the export header. -/
def kStateExportHeaderBytes : ℕ := 4 + 2 * 2

/-! ## The hash of a response -/

/-- `state_response_hash`: the canonical form of the answers in question order. -/
def stateResponseHash (sha256 : Bytes → Digest) (response : StateResponse) : Digest :=
  let answers := response.answers.mergeSort fun left right =>
    (compare left.questionId right.questionId).isLE
  sha256 (le response.highestContiguousSequence ++ le (if response.finalized then 1 else 0 : UInt8) ++
    (answers.map fun answer => canonicalAnswer answer.questionId answer).flatten)

/-! ## Writing -/

/-- One chunk in an export: its length, then its bytes. -/
def exportFrame (chunk : Bytes) : Bytes := le (UInt32.ofNat chunk.length) ++ chunk

/-- The size computation of `encode_state_export`; `none` stands for its early return. -/
def exportTotal : List Bytes → ℕ → Option ℕ
  | [], total => some total
  | chunk :: rest, total =>
    if chunk.isEmpty || chunk.length > kMaximumJournalBytes - 4 || chunk.length > 2 ^ 32 - 1 ||
        total > kMaximumJournalBytes - 4 - chunk.length then none
    else exportTotal rest (total + (4 + chunk.length))

def encodeStateExport (response : StateResponse) : Bytes :=
  let chunks := encodeStateResponseChunks response
  if chunks.isEmpty || chunks.length > 2 ^ 16 - 1 then []
  else match exportTotal chunks kStateExportHeaderBytes with
  | none => []
  | some total =>
    let wire := [le kStateExportMagic, le kStateExportVersion, le (UInt16.ofNat chunks.length),
      (chunks.map exportFrame).flatten].flatten
    if wire.length = total then wire else []

/-! ## Reading -/

def validExportAnswerState (answer : AnswerState) : Bool :=
  !answer.questionId.isEmpty && answer.questionId.length ≤ kMaximumQuestionIdBytes &&
    !answer.questionId.contains 0 && (answer.kind == .upsert || answer.kind == .clear) &&
    answer.questionRevision != 0 && answer.sequence != 0 &&
    answer.answer.length ≤ kMaximumAnswerBytes && !allZero answer.eventHash.toList &&
    (answer.kind != .clear || answer.answer.isEmpty)

/-- What the loop of `decode_state_export` carries: the snapshot so far, `none` before the first
chunk, and the chunk numbers seen.  The sets of question ids and sequences hold those of the
answers collected. -/
structure ExportProgress where
  merged : Option StateResponse
  seenChunks : List UInt16

/-- One answer of a chunk joins the snapshot. -/
def mergeAnswer (merged : StateResponse) (answer : AnswerState) : Except String StateResponse :=
  if !validExportAnswerState answer || answer.sequence > merged.highestContiguousSequence ||
      (merged.answers.map AnswerState.questionId).contains answer.questionId ||
      (merged.answers.map AnswerState.sequence).contains answer.sequence ||
      merged.answers.length ≥ kMaximumStateEntries then
    .error "state export contains an invalid answer set"
  else .ok { merged with answers := merged.answers ++ [answer] }

/-- The nine fields in which every chunk has to agree with the first. -/
def sameExportMetadata (chunk merged : StateResponse) : Bool :=
  chunk.packageId == merged.packageId && chunk.packageDigest == merged.packageDigest &&
    chunk.clientId == merged.clientId && chunk.sessionId == merged.sessionId &&
    chunk.candidateId == merged.candidateId &&
    chunk.highestContiguousSequence == merged.highestContiguousSequence &&
    chunk.finalized == merged.finalized && chunk.stateHash == merged.stateHash &&
    chunk.lastEventHash == merged.lastEventHash

/-- The snapshot a chunk is added to: the first one starts it. -/
def exportStart (progress : ExportProgress) (chunk : StateResponse) :
    Except String StateResponse :=
  match progress.merged with
  | none => .ok { chunk with answers := [] }
  | some merged =>
    if !sameExportMetadata chunk merged then .error "state export chunks disagree on metadata"
    else .ok merged

/-- One decoded chunk joins the snapshot. -/
def mergeChunk (chunkCount : UInt16) (progress : ExportProgress) (chunk : StateResponse) :
    Except String ExportProgress :=
  if chunk.chunkCount != chunkCount || progress.seenChunks.contains chunk.chunkIndex then
    .error "state export chunk metadata is invalid"
  else match exportStart progress chunk with
  | .error error => .error error
  | .ok start =>
    match chunk.answers.foldlM mergeAnswer start with
    | .error error => .error error
    | .ok merged => .ok ⟨some merged, progress.seenChunks ++ [chunk.chunkIndex]⟩

/-- The chunk loop of `decode_state_export`, with the number of chunks still to come and the bytes
not yet read. -/
def readExportChunks (chunkCount : UInt16) : ℕ → ExportProgress → Bytes → Except String (ExportProgress × Bytes)
  | 0, progress, rest => .ok (progress, rest)
  | more + 1, progress, rest =>
    match (readLe : Reader UInt32).run rest with
    | none => .error "state export chunk is truncated or oversized"
    | some (chunkBytes, rest) =>
      if chunkBytes == 0 || chunkBytes.toNat > kMaximumExamPayloadBytes || chunkBytes.toNat > rest.length then
        .error "state export chunk is truncated or oversized"
      else match decodeStateResponse (rest.take chunkBytes.toNat) with
      | none => .error "state export chunk metadata is invalid"
      | some chunk =>
        match mergeChunk chunkCount progress chunk with
        | .error error => .error error
        | .ok progress =>
          readExportChunks chunkCount more progress (rest.drop chunkBytes.toNat)

/-- The header of an export. -/
def readExportHeader : Reader UInt16 := do
  let magic : UInt32 ← readLe
  require (magic = kStateExportMagic)
  let version : UInt16 ← readLe
  require (version = kStateExportVersion)
  let chunkCount : UInt16 ← readLe
  require (chunkCount ≠ 0)
  require (chunkCount.toNat ≤ kMaximumStateChunks)
  pure chunkCount

/-- The final check of `decode_state_export`, on the whole snapshot. -/
def checkExport (sha256 : Bytes → Digest) (merged : StateResponse) : Except String StateResponse :=
  if (encodeStateResponseChunks merged).isEmpty || (merged.highestContiguousSequence != 0 &&
        !sameDigest (stateResponseHash sha256 merged).toList merged.stateHash.toList) then
    .error "state export snapshot is invalid"
  else .ok merged

def decodeStateExport (sha256 : Bytes → Digest) (payload : Bytes) : Except String StateResponse :=
  if payload.length < kStateExportHeaderBytes || payload.length > kMaximumJournalBytes then
    .error "state export is truncated or oversized"
  else match readExportHeader.run payload with
  | none => .error "state export header is invalid"
  | some (chunkCount, rest) =>
    match readExportChunks chunkCount chunkCount.toNat ⟨none, []⟩ rest with
    | .error error => .error error
    | .ok (progress, rest) =>
      match progress.merged with
      | none => .error "state export is incomplete"
      | some merged =>
        if !rest.isEmpty || progress.seenChunks.length != chunkCount.toNat then
          .error "state export is incomplete"
        else checkExport sha256 { merged with chunkIndex := 0, chunkCount := 1 }

/-! ## Reading what was written -/

lemma validExportAnswerState_eq (answer : AnswerState) : validExportAnswerState answer = validAnswerState answer := by
  rw [Bool.eq_iff_iff, validAnswerState_iff, validText_iff]
  simp only [validExportAnswerState, Bool.and_eq_true, Bool.or_eq_true, Bool.not_eq_true',
    isEmpty_eq_false_iff, contains_eq_mem, decide_eq_true_eq, decide_eq_false_iff_not,
    beq_iff_eq, bne_iff_ne, List.isEmpty_iff, Bool.false_eq_true, false_or]
  constructor
  · rintro ⟨⟨⟨⟨⟨⟨⟨⟨h1, h2⟩, h3⟩, h4⟩, h5⟩, h6⟩, h7⟩, h8⟩, h9⟩
    exact ⟨⟨h1, h2, h3⟩, h4, h6, h7, h5, h8, fun hc => h9.resolve_left (fun hn => hn hc)⟩
  · rintro ⟨⟨h1, h2, h3⟩, h4, h6, h7, h5, h8, h9⟩
    exact ⟨⟨⟨⟨⟨⟨⟨⟨h1, h2⟩, h3⟩, h4⟩, h5⟩, h6⟩, h7⟩, h8⟩, (Decidable.em (answer.kind = .clear)).symm.imp_right h9⟩

lemma foldlM_mergeAnswer : ∀ {answers : List AnswerState} {merged : StateResponse},
    AnswerSet merged.highestContiguousSequence (merged.answers ++ answers) →
    (merged.answers ++ answers).length ≤ kMaximumStateEntries →
    answers.foldlM mergeAnswer merged = .ok { merged with answers := merged.answers ++ answers }
  | [], merged, _, _ => by simp [pure, Except.pure]
  | answer :: rest, merged, hset, hlen => by
    have hassoc : merged.answers ++ answer :: rest = merged.answers ++ [answer] ++ rest := by simp
    rw [hassoc] at hset hlen ⊢
    obtain ⟨-, hvalid, hle, hques, hsequ⟩ :=
      AnswerSet.append_singleton_iff.mp hset.of_append
    have hroom : ¬ merged.answers.length ≥ kMaximumStateEntries := by
      simp only [length_append, length_singleton] at hlen
      omega
    have hstep : mergeAnswer merged answer = .ok { merged with answers := merged.answers ++ [answer] } := by
      simp only [mergeAnswer]
      rw [if_neg]
      simp only [validExportAnswerState_eq, hvalid, Bool.not_true, Bool.false_or, Bool.or_eq_true,
        decide_eq_true_eq, contains_eq_mem, not_or]
      exact ⟨⟨⟨UInt64.not_lt.mpr hle, hques⟩, hsequ⟩, hroom⟩
    rw [foldlM_cons, hstep]
    exact foldlM_mergeAnswer hset hlen

/-- The reader after `k` chunks of a response, with the answers `done` collected. -/
def exportProgressAt (response : StateResponse) (count : UInt16) (k : ℕ) (done : List AnswerState) : ExportProgress :=
  ⟨if k = 0 then none else some (response.chunk count 0 done), (List.range k).map UInt16.ofNat⟩

lemma ofNat_not_mem_range {k : ℕ} (hk : k < 2 ^ 16) : UInt16.ofNat k ∉ (range k).map UInt16.ofNat := by
  intro hm
  obtain ⟨i, hi, he⟩ := mem_map.mp hm
  rw [mem_range] at hi
  have := congrArg UInt16.toNat he
  rw [UInt16.toNat_ofNat_of_lt' (by simp only [UInt16.size]; omega),
    UInt16.toNat_ofNat_of_lt' (by simp only [UInt16.size]; omega)] at this
  omega

lemma mergeChunk_chunk {response : StateResponse} {count : UInt16} {k : ℕ} (hk : k < 2 ^ 16)
    {done group : List AnswerState} (hfirst : k = 0 → done = [])
    (hset : AnswerSet response.highestContiguousSequence (done ++ group))
    (hlen : (done ++ group).length ≤ kMaximumStateEntries) :
    mergeChunk count (exportProgressAt response count k done) (response.chunk count k group) =
      .ok (exportProgressAt response count (k + 1) (done ++ group)) := by
  have hstart : exportStart (exportProgressAt response count k done)
      (response.chunk count k group) = .ok (response.chunk count 0 done) := by
    by_cases hzero : k = 0
    · subst hzero
      simp [exportStart, exportProgressAt, chunk, hfirst rfl]
    · simp [exportStart, exportProgressAt, hzero, sameExportMetadata, chunk]
  have hansw : group.foldlM mergeAnswer (response.chunk count 0 done) =
      .ok (response.chunk count 0 (done ++ group)) := foldlM_mergeAnswer hset hlen
  have hnew : (exportProgressAt response count k done).seenChunks.contains (UInt16.ofNat k) =
      false := by
    rw [← Bool.not_eq_true, contains_eq_mem, decide_eq_true_eq]
    exact ofNat_not_mem_range hk
  simp only [mergeChunk]
  rw [if_neg (by simp only [chunk, hnew, bne_self_eq_false, Bool.or_false,
    Bool.false_eq_true, not_false_eq_true]), hstart]
  dsimp only
  have hgroup : (response.chunk count k group).answers = group := rfl
  rw [hgroup, hansw]
  simp [exportProgressAt, range_succ, chunk]

variable {chunk : Bytes}

lemma run_readLe_exportFrame {rest : Bytes} : (readLe : Reader UInt32).run (exportFrame chunk ++ rest) =
      some (UInt32.ofNat chunk.length, chunk ++ rest) := by
  rw [run_readLe_iff, exportFrame, append_assoc]

variable {response : StateResponse}

/-- **The reader follows the writer**, chunk by chunk.  The induction is on the number of chunks
still to come. -/
lemma readExportChunks_encoded (h : Chunkable response) : ∀ (more k : ℕ), k + more = (answerChunks response).length →
      readExportChunks (UInt16.ofNat (answerChunks response).length) more
        (exportProgressAt response (UInt16.ofNat (answerChunks response).length) k
          ((answerChunks response).take k).flatten)
        (((encodeStateResponseChunks response).drop k).map exportFrame).flatten =
      .ok (exportProgressAt response (UInt16.ofNat (answerChunks response).length)
        (answerChunks response).length response.answers, [])
  | 0, k, hk => by
    have hleng : (encodeStateResponseChunks response).length = k := by
      rw [encodeStateResponseChunks_of_chunkable h, length_mapIdx]
      omega
    have hk : k = (answerChunks response).length := by omega
    rw [readExportChunks, drop_of_length_le (by omega), hk, take_length,
      flatten_answerChunks]
    rfl
  | more + 1, k, hk => by
    have hlt : k < (answerChunks response).length := by omega
    have hcount := h.chunks
    have hfits := h.fits hlt
    have hwire : (encodeStateResponseChunks response)[k]? = some (stateResponseWire
        (response.chunk (UInt16.ofNat (answerChunks response).length) k (answerChunks response)[k])) := by
      rw [encodeStateResponseChunks_of_chunkable h, getElem?_mapIdx, getElem?_eq_getElem hlt]
      rfl
    obtain ⟨hklt, hget⟩ := List.getElem?_eq_some_iff.mp hwire
    have hsize := hfits.length_wire_le
    have hpos := length_pos_iff.mpr (stateResponseWire_ne_nil (response.chunk
      (UInt16.ofNat (answerChunks response).length) k (answerChunks response)[k]))
    have hdeco := (decodeStateResponse_current_iff.mpr ⟨hfits, rfl⟩).1
    set wire := stateResponseWire (response.chunk
      (UInt16.ofNat (answerChunks response).length) k (answerChunks response)[k])
    have hbytes : (UInt32.ofNat wire.length).toNat = wire.length := by
      simp only [kMaximumWireBytes, kMaximumExamPayloadBytes, kMaxCommandPayload, kControlAuthTagBytes] at hsize
      exact UInt32.toNat_ofNat_of_lt' (by simp only [UInt32.size]; omega)
    have hne : UInt32.ofNat wire.length ≠ 0 := by
      intro hzero
      have := congrArg UInt32.toNat hzero
      rw [hbytes, UInt32.toNat_zero] at this
      omega
    have hdone : ((answerChunks response).take k).flatten ++ (answerChunks response)[k] =
        ((answerChunks response).take (k + 1)).flatten := by
      rw [take_succ_eq_append_getElem hlt, flatten_append, flatten_singleton]
    have hsub : List.Sublist ((answerChunks response).take (k + 1)).flatten response.answers := by
      conv_rhs => rw [← flatten_answerChunks response,
        ← take_append_drop (k + 1) (answerChunks response), flatten_append]
      exact sublist_append_left _ _
    have hmerge := @mergeChunk_chunk response (UInt16.ofNat (answerChunks response).length) k
      (by simp only [kMaximumStateChunks] at hcount; omega) ((answerChunks response).take k).flatten
      (answerChunks response)[k] (by rintro rfl; rfl) (hdone ▸ h.answers.of_sublist hsub)
      (by
        rw [hdone]
        have := (validStateResponseMetadata_iff.mp h.metadata).2.2.2.2
        have := hsub.length_le
        omega)
    rw [drop_eq_getElem_cons hklt, hget, map_cons, flatten_cons, readExportChunks,
      run_readLe_exportFrame]
    dsimp only
    rw [if_neg, hbytes, take_left, drop_left, hdeco]
    · dsimp only
      rw [hmerge, hdone]
      exact readExportChunks_encoded h more (k + 1) (by omega)
    · simp only [hbytes, Bool.or_eq_true, beq_iff_eq, hne, decide_eq_true_eq, false_or, not_or, length_append]
      exact ⟨Nat.not_lt.mpr hsize, by omega⟩

lemma exportTotal_eq : ∀ {chunks : List Bytes} {total : ℕ},
    (∀ chunk ∈ chunks, chunk ≠ [] ∧ chunk.length ≤ kMaximumWireBytes) →
    total + chunks.length * (4 + kMaximumWireBytes) ≤ kMaximumJournalBytes →
    exportTotal chunks total = some (total + ((chunks.map exportFrame).flatten).length)
  | [], total, _, _ => by simp [exportTotal]
  | chunk :: rest, total, hch, hr => by
    obtain ⟨hn, hs⟩ := hch chunk (by simp)
    simp only [length_cons, Nat.add_mul, Nat.one_mul] at hr
    have hre := @exportTotal_eq rest (total + (4 + chunk.length)) (fun c hc => hch c (by simp [hc])) (by omega)
    rw [exportTotal, if_neg, hre]
    · simp only [map_cons, flatten_cons, length_append, exportFrame, le_length, size_uint32]
      congr 1
      omega
    · simp only [kMaximumWireBytes, kMaximumExamPayloadBytes, kMaxCommandPayload, kControlAuthTagBytes] at hs hr
      simp only [Bool.or_eq_true, List.isEmpty_iff, hn, decide_eq_true_eq, false_or, not_or]
      simp only [kMaximumJournalBytes] at *
      omega

/-- The bytes of an export. -/
def stateExportWire (response : StateResponse) : Bytes :=
  le kStateExportMagic ++ (le kStateExportVersion ++ (le (UInt16.ofNat (answerChunks response).length) ++
      ((encodeStateResponseChunks response).map exportFrame).flatten))

lemma length_encodeStateResponseChunks (h : Chunkable response) :
    (encodeStateResponseChunks response).length = (answerChunks response).length := by
  rw [encodeStateResponseChunks_of_chunkable h, length_mapIdx]

lemma mem_encodeStateResponseChunks (h : Chunkable response) (hc : chunk ∈ encodeStateResponseChunks response) :
    chunk ≠ [] ∧ chunk.length ≤ kMaximumWireBytes := by
  refine ⟨?_, length_le_of_mem_encodeStateResponseChunks h hc⟩
  rw [encodeStateResponseChunks_of_chunkable h] at hc
  obtain ⟨index, -, rfl⟩ := mem_mapIdx.mp hc
  exact stateResponseWire_ne_nil _

lemma length_stateExportWire (response : StateResponse) : (stateExportWire response).length = kStateExportHeaderBytes +
      ((encodeStateResponseChunks response).map exportFrame).flatten.length := by
  simp only [stateExportWire, length_append, le_length, size_uint16, size_uint32, kStateExportHeaderBytes]
  omega

lemma stateExport_room (h : Chunkable response) : kStateExportHeaderBytes +
      (encodeStateResponseChunks response).length * (4 + kMaximumWireBytes) ≤ kMaximumJournalBytes := by
  have hc := h.chunks
  rw [length_encodeStateResponseChunks h]
  simp only [kStateExportHeaderBytes, kMaximumStateChunks, kMaximumWireBytes,
    kMaximumExamPayloadBytes, kMaxCommandPayload, kControlAuthTagBytes, kMaximumJournalBytes] at *
  omega

lemma length_stateExportWire_le (h : Chunkable response) :
    (stateExportWire response).length ≤ kMaximumJournalBytes := by
  have hr := stateExport_room h
  have hf := sum_le_card_nsmul (((encodeStateResponseChunks response).map exportFrame).map length)
    (4 + kMaximumWireBytes) (by
      intro n hn
      simp only [map_map, mem_map, Function.comp_apply] at hn
      obtain ⟨chunk, hc, rfl⟩ := hn
      have := (mem_encodeStateResponseChunks h hc).2
      simp only [exportFrame, length_append, le_length, size_uint32]
      omega)
  simp only [length_map, nsmul_eq_mul, Nat.cast_id] at hf
  rw [length_stateExportWire, length_flatten]
  omega

lemma encodeStateExport_of_chunkable (h : Chunkable response) :
    encodeStateExport response = stateExportWire response := by
  have hn := encodeStateResponseChunks_ne_nil_iff.mpr h
  have hc := h.chunks
  have hl := length_encodeStateResponseChunks h
  have ht := exportTotal_eq (fun _ => mem_encodeStateResponseChunks h) (stateExport_room h)
  have hw : [le kStateExportMagic, le kStateExportVersion,
      le (UInt16.ofNat (encodeStateResponseChunks response).length),
      ((encodeStateResponseChunks response).map exportFrame).flatten].flatten =
        stateExportWire response := by
    simp [stateExportWire, hl]
  unfold encodeStateExport
  dsimp only
  rw [if_neg, ht]
  · dsimp only
    rw [hw, if_pos (length_stateExportWire response)]
  · simp only [kMaximumStateChunks] at hc
    simp only [Bool.or_eq_true, List.isEmpty_iff, hn, decide_eq_true_eq, false_or, hl]
    omega

variable {sha256 : Bytes → Digest}

/-- **What the reader makes of an export**: the response, if its hash is right. -/
lemma decodeStateExport_stateExportWire
    (h : Chunkable response) (hindex : response.chunkIndex = 0) (hcoun : response.chunkCount = 1)
    (hhash : response.highestContiguousSequence ≠ 0 → stateResponseHash sha256 response = response.stateHash) :
    decodeStateExport sha256 (stateExportWire response) = .ok response := by
  have hcount := h.chunks
  have hpos : 0 < (answerChunks response).length :=
    length_pos_iff.mpr (packAnswers_ne_nil _ _ _ _)
  have htoNat : (UInt16.ofNat (answerChunks response).length).toNat = (answerChunks response).length := by
    simp only [kMaximumStateChunks] at hcount
    exact UInt16.toNat_ofNat_of_lt' (by simp only [UInt16.size]; omega)
  have hhead : readExportHeader.run (stateExportWire response) = some (UInt16.ofNat (answerChunks response).length,
        ((encodeStateResponseChunks response).map exportFrame).flatten) := by
    simp only [readExportHeader, run_bind_readLe_iff, run_bind_require_iff, run_pure_iff]
    refine ⟨_, _, rfl, rfl, _, _, rfl, rfl, _, _, rfl, ?_, ?_, rfl, rfl⟩
    · intro hzero
      have := congrArg UInt16.toNat hzero
      rw [htoNat, UInt16.toNat_zero] at this
      omega
    · rw [htoNat]
      exact hcount
  have hchun : readExportChunks (UInt16.ofNat (answerChunks response).length)
      (answerChunks response).length ⟨none, []⟩
      ((encodeStateResponseChunks response).map exportFrame).flatten = _ :=
    readExportChunks_encoded h _ 0 (Nat.zero_add _)
  have hmerg : ({ response.chunk (UInt16.ofNat (answerChunks response).length) 0
      response.answers with chunkIndex := 0, chunkCount := 1 } : StateResponse) = response := by
    rw [chunk, ← hindex, ← hcoun]
  have hsize := length_stateExportWire_le h
  have hcheck : checkExport sha256 response = .ok response := by
    have hne := encodeStateResponseChunks_ne_nil_iff.mpr h
    by_cases hzero : response.highestContiguousSequence = 0
    · simp [checkExport, hne, hzero]
    · simp [checkExport, hne, hhash hzero]
  simp only [decodeStateExport]
  rw [if_neg, hhead]
  · dsimp only
    rw [htoNat, hchun]
    dsimp only [exportProgressAt]
    rw [if_neg (by omega)]
    dsimp only
    rw [if_neg (by simp), hmerg, hcheck]
  · rw [length_stateExportWire] at hsize ⊢
    simp only [Bool.or_eq_true, decide_eq_true_eq, not_or]
    omega

/-! ## The two canonical forms -/

/-- **The hash of the sorted answers is the hash of the map.**  The answers stand in the response in
map order, which is question order, so sorting leaves them where they are. -/
lemma stateResponseHash_eq {key : Bytes} {session : SessionData}
    {events : List AnswerEvent} (h : SessionInvariant sha256 key session events) :
    stateResponseHash sha256 (session.response sha256) = (session.response sha256).stateHash := by
  have hs : (session.answers.toList.map Prod.snd).Pairwise fun left right =>
      (compare left.questionId right.questionId).isLE := by
    refine pairwise_map.mpr (Std.ExtTreeMap.ordered_keys_toList.imp_of_mem ?_)
    intro a b ha hb hl
    rw [h.questionId_eq ha, h.questionId_eq hb, hl]
    rfl
  have han : (session.answers.toList.map Prod.snd).map (fun answer => canonicalAnswer answer.questionId answer) =
        session.answers.toList.map fun entry => canonicalAnswer entry.1 entry.2 := by
    rw [map_map]
    refine map_congr_left fun entry he => ?_
    rw [Function.comp_apply, h.questionId_eq he]
  simp only [stateResponseHash, SessionData.response, stateHash]
  rw [mergeSort_of_pairwise hs, han]
  rfl

/-- **Exports read back.**  For every reachable journal and every request whose state can be
chunked, reading the export returns the state, and the two ways to hash it agree. -/
theorem stateExport_roundTrip {sha256 : Bytes → Digest} {journal : AnswerJournal}
    {log : List AnswerEvent} (hreach : JournalReach sha256 journal log) {request : StateRequest}
    {response : StateResponse} (hstate : journal.state sha256 request = .ok response)
    (hchunks : encodeStateResponseChunks response ≠ []) :
    decodeStateExport sha256 (encodeStateExport response) = .ok response ∧
      ∀ session, journal.sessions[requestKey request]? = some session →
        stateResponseHash sha256 response = stateHash sha256 session := by
  have hchunkable := encodeStateResponseChunks_ne_nil_iff.mp hchunks
  rw [encodeStateExport_of_chunkable hchunkable]
  obtain ⟨-, -, ⟨hnone, rfl⟩ | ⟨session, hsession, -, rfl⟩⟩ := state_eq_ok_iff.mp hstate
  · refine ⟨decodeStateExport_stateExportWire hchunkable rfl rfl fun hne => absurd rfl hne, ?_⟩
    intro session hsession
    rw [hnone] at hsession
    cases hsession
  · have hhash := stateResponseHash_eq (hreach.sessionsOf.present _ _ hsession)
    refine ⟨decodeStateExport_stateExportWire hchunkable rfl rfl fun _ => hhash, ?_⟩
    intro found hfound
    rw [hsession] at hfound
    cases hfound
    exact hhash

/-- The journal after `firstAnswer`. -/
def firstJournal : AnswerJournal :=
  (newJournal.append firstSha256 ⟨1, true, none⟩ firstAnswer).journal

/-- The export of a session with one answer. -/
theorem stateExport_roundTrip_firstJournal : ∃ log response, JournalReach firstSha256 firstJournal log ∧
      firstJournal.state firstSha256 firstRequest = .ok response ∧
      response.answers.length = 1 ∧ encodeStateResponseChunks response ≠ [] ∧
      decodeStateExport firstSha256 (encodeStateExport response) = .ok response := by
  have hreach : JournalReach firstSha256 firstJournal _ :=
    .appended ⟨1, true, none⟩ firstAnswer (.opened (open_absent fun _ => rfl))
  have hcount : (firstJournal.state firstSha256 firstRequest).toOption.map
      (fun response => response.answers.length) = some 1 := by decide +kernel
  have hsent : (firstJournal.state firstSha256 firstRequest).toOption.map
      (fun response => (encodeStateResponseChunks response).isEmpty) = some false := by
    decide +kernel
  cases hstate : firstJournal.state firstSha256 firstRequest with
  | error error =>
    rw [hstate] at hcount
    cases hcount
  | ok response =>
    rw [hstate] at hcount hsent
    simp only [Except.toOption, Option.map_some, Option.some.injEq, List.isEmpty_eq_false_iff]
      at hcount hsent
    exact ⟨_, response, hreach, rfl, hcount, hsent, (stateExport_roundTrip hreach hstate hsent).1⟩

end Nstu
