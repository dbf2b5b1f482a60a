import Nstu.Exam.StateChunks

/-!
# Reading snapshots back

`decode_state_response`, which accepts three wire versions.  Version 1 has neither chunk numbers
nor a chain cursor, version 2 adds the numbers, version 3 the cursor.  Only version 3 is ever
written, and for it the decoder is canonical: `decodeStateResponse_current_iff`.
-/

namespace Nstu

open Wire Reader List
open UInt16 (ofNat_toNat ofNat)

/-! ## Decoding -/

/-- Versions 2 and 3 number their chunks; version 1 is a single chunk. -/
def readChunkNumbers (version : UInt16) : Reader (UInt16 × UInt16) :=
  if version = kStateResponsePreviousWireVersion ∨ version = kStateResponseWireVersion then do
    let chunkIndex : UInt16 ← readLe
    let chunkCount : UInt16 ← readLe
    pure (chunkIndex, chunkCount)
  else pure (0, 1)

/-- Only version 3 carries the chain cursor. -/
def readLastEventHash (version : UInt16) : Reader Digest :=
  if version = kStateResponseWireVersion then readBlock 32 else pure (Block.zero 32)

/-- Everything before the answers: the response without them, the wire version and the announced
number of answers. -/
def readStateResponseHeader : Reader (StateResponse × UInt16 × UInt16) := do
  let magic : UInt32 ← readLe
  require (magic = kResponseMagic)
  let version : UInt16 ← readLe
  require (version = kWireVersion ∨ version = kStateResponsePreviousWireVersion ∨ version = kStateResponseWireVersion)
  let flags : UInt8 ← readLe
  require (flags ≤ 1)
  let reserved : UInt8 ← readLe
  require (reserved = 0)
  let highest : UInt64 ← readLe
  let answerCount : UInt16 ← readLe
  let chunkNumbers ← readChunkNumbers version
  let packageBytes : UInt16 ← readLe
  let candidateBytes : UInt16 ← readLe
  require (answerCount.toNat ≤ kMaximumStateEntries)
  require (packageBytes.toNat ≤ kMaximumPackageIdBytes)
  require (candidateBytes.toNat ≤ kMaximumCandidateIdBytes)
  let packageDigest ← readBlock 32
  let clientId ← readBlock 16
  let sessionId ← readBlock 16
  let stateHash ← readBlock 32
  let lastEventHash ← readLastEventHash version
  let packageId ← readString packageBytes kMaximumPackageIdBytes false
  let candidateId ← readString candidateBytes kMaximumCandidateIdBytes false
  require (allZero packageDigest.toList = false)
  require (validIdentity clientId sessionId = true)
  require (chunkNumbers.2 ≠ 0)
  require (chunkNumbers.2.toNat ≤ kMaximumStateChunks)
  require (chunkNumbers.1 < chunkNumbers.2)
  pure (⟨packageId, packageDigest, clientId, sessionId, candidateId, highest, flags != 0, stateHash,
    lastEventHash, chunkNumbers.1, chunkNumbers.2, []⟩, version, answerCount)

/-- One turn of the decoder's loop over the answers.  `validAnswerState` runs twice: once on the
header with an empty answer, once with the bytes filled in. -/
def readAnswerState (highest : UInt64) (answers : List AnswerState) : Reader AnswerState := do
  let questionBytes : UInt16 ← readLe
  let questionRevision : UInt32 ← readLe
  let sequence : UInt64 ← readLe
  let rawKind : UInt8 ← readLe
  let answerReserved : UInt8 ← readLe
  let answerBytes : UInt32 ← readLe
  let eventHash ← readBlock 32
  require (questionBytes ≠ 0)
  require (questionBytes.toNat ≤ kMaximumQuestionIdBytes)
  require (answerBytes.toNat ≤ kMaximumAnswerBytes)
  let questionId ← readString questionBytes kMaximumQuestionIdBytes false
  let left ← remaining
  require (answerBytes.toNat ≤ left)
  let answer : AnswerState :=
    ⟨questionId, questionRevision, sequence, AnswerKind.ofRaw rawKind, [], eventHash⟩
  require (answerReserved = 0)
  require (validAnswerState answer = true)
  require (questionId ∉ answers.map AnswerState.questionId)
  require (sequence ∉ answers.map AnswerState.sequence)
  require (sequence ≤ highest)
  let bytes ← readBytes answerBytes.toNat
  require (validAnswerState { answer with answer := bytes } = true)
  pure { answer with answer := bytes }

def readAnswers (highest : UInt64) : ℕ → List AnswerState → Reader (List AnswerState)
  | 0, answers => pure answers
  | count + 1, answers => do
    let answer ← readAnswerState highest answers
    readAnswers highest count (answers ++ [answer])

def decodeStateResponse (payload : Bytes) : Option StateResponse :=
  if payload.length < kStateResponseV1FixedBytes ∨ kMaximumWireBytes < payload.length then none
  else
    match readStateResponseHeader.run payload with
    | none => none
    | some ((response, version, answerCount), rest) =>
      if (version == kStateResponseWireVersion && !validStateResponseMetadata response) ||
          (version != kStateResponseWireVersion && !validStateResponseIdentity response) then none
      else
        match (readAnswers response.highestContiguousSequence answerCount.toNat []).run rest with
        | none => none
        | some (answers, left) =>
          if left.isEmpty then some { response with answers := answers } else none

/-- The payload announces wire version 3: bytes four and five, after the magic. -/
def HasCurrentWireVersion (payload : Bytes) : Prop :=
  (payload.drop 4).take 2 = le kStateResponseWireVersion

/-! ### The answers, inverted -/

variable {answer : AnswerState}

lemma validAnswerState_of_filled (h : validAnswerState answer) :
    validAnswerState { answer with answer := [] } = true := by
  obtain ⟨h1, h2, h3, -, h5, h6, -⟩ := validAnswerState_iff.mp h
  exact validAnswerState_iff.mpr ⟨h1, h2, h3, by simp, h5, h6, fun _ => rfl⟩

variable {highest : UInt64} {answers : List AnswerState} {s r : Bytes}

lemma run_readAnswerState_iff : (readAnswerState highest answers).run s = some (answer, r) ↔
      s = answerStateWire answer ++ r ∧ validAnswerState answer ∧
      answer.sequence ≤ highest ∧ answer.questionId ∉ answers.map AnswerState.questionId ∧
      answer.sequence ∉ answers.map AnswerState.sequence := by
  simp only [readAnswerState, run_bind_require_iff, run_bind_readLe_iff, run_bind_readBlock_iff,
    run_bind_readString_iff, run_bind_remaining_iff, run_bind_readBytes_iff, run_pure_iff]
  constructor
  · rintro ⟨qb, s1, h1, revision, s2, h2, sequence, s3, h3, kind, s4, h4, reserved, s5, h5, ab, s6,
      h6, hash, s7, h7, -, -, -, question, s8, h8, hqb, -, -, hrese, -, hques, hsequ,
      hle, bytes, s9, h9, hab, hvalid, rfl, h10⟩
    refine ⟨?_, hvalid, hle, hques, hsequ⟩
    simp only [h1, h2, h3, h4, h5, h6, h7, h8, h9, h10, hrese, answerStateWire, hqb, hab,
      ofNat_toNat, UInt32.ofNat_toNat, AnswerKind.raw_ofRaw, flatten_cons,
      flatten_nil, append_assoc, nil_append]
  · obtain ⟨question, revision, sequence, kind, bytes, hash⟩ := answer
    rintro ⟨rfl, hvalid, hle, hques, hsequ⟩
    obtain ⟨htext, -, -, hmax, -⟩ := validAnswerState_iff.mp hvalid
    simp only at htext hmax hle hques hsequ
    obtain ⟨hne, hlen, -⟩ := validText_iff.mp htext
    have hqb : (ofNat question.length).toNat = question.length := toNat_uint16_length hlen
    have hab : (UInt32.ofNat bytes.length).toNat = bytes.length := toNat_uint32_length hmax
    have hpos : ofNat question.length ≠ 0 := by
      intro hzero
      rw [hzero, UInt16.toNat_zero] at hqb
      rcases hne with hne | hne
      · cases hne
      · exact hne (eq_nil_of_length_eq_zero hqb.symm)
    have hblank := validAnswerState_of_filled hvalid
    simp only [answerStateWire, flatten_cons, flatten_nil, append_assoc, nil_append]
    refine ⟨_, _, rfl, _, _, rfl, _, _, rfl, _, _, rfl, _, _, rfl, _, _, rfl, _, _, rfl, hpos,
      by rw [hqb]; exact hlen, by rw [hab]; exact hmax, question, _, rfl, hqb.symm, htext, ?_, rfl,
      by simpa using hblank, hques, hsequ, hle, bytes, r, rfl, hab.symm,
      by simpa using hvalid, by simp, rfl⟩
    rw [hab, length_append]
    omega

/-- The whole loop, inverted.  The induction is on the number of answers left to read, with the
answers already read as the accumulator that stands for the two sets. -/
lemma run_readAnswers_iff : ∀ {count : ℕ} {answers all : List AnswerState} {s r : Bytes}, AnswerSet highest answers →
      ((readAnswers highest count answers).run s = some (all, r) ↔ ∃ new, all = answers ++ new ∧ new.length = count ∧
          s = (new.map answerStateWire).flatten ++ r ∧ AnswerSet highest (answers ++ new))
  | 0, answers, all, s, r, hset => by
    simp only [readAnswers, run_pure_iff]
    constructor
    · rintro ⟨rfl, rfl⟩
      exact ⟨[], by simp, rfl, by simp, by simpa using hset⟩
    · rintro ⟨new, rfl, hlen, rfl, -⟩
      have hnil := eq_nil_of_length_eq_zero hlen
      subst hnil
      simp
  | count + 1, answers, all, s, r, hset => by
    simp only [readAnswers]
    rw [run_bind_iff]
    constructor
    · rintro ⟨answer, rest, hread, hmore⟩
      obtain ⟨rfl, hvalid, hle, hq, hs⟩ := run_readAnswerState_iff.mp hread
      have hnext : AnswerSet highest (answers ++ [answer]) :=
        AnswerSet.append_singleton_iff.mpr ⟨hset, hvalid, hle, hq, hs⟩
      obtain ⟨new, rfl, hlen, rfl, hall⟩ := (run_readAnswers_iff hnext).mp hmore
      exact ⟨answer :: new, by simp, by simp [hlen], by simp, by simpa using hall⟩
    · rintro ⟨new, rfl, hlen, rfl, hall⟩
      cases new with
      | nil => simp at hlen
      | cons answer new =>
        have hsplit : answers ++ answer :: new = (answers ++ [answer]) ++ new := by simp
        rw [hsplit] at hall
        have hnext := hall.of_append
        obtain ⟨-, hvalid, hle, hq, hs⟩ := AnswerSet.append_singleton_iff.mp hnext
        refine ⟨answer, (new.map answerStateWire).flatten ++ r,
          run_readAnswerState_iff.mpr ⟨by simp, hvalid, hle, hq, hs⟩, ?_⟩
        exact (run_readAnswers_iff hnext).mpr ⟨new, hsplit, by simpa using hlen, rfl, hall⟩

/-! ### The header, inverted -/

/-- The fixed and text fields of a version 3 response that announces `count` answers. -/
def stateHeaderWire (response : StateResponse) (count : UInt16) : Bytes :=
  [le kResponseMagic, le kStateResponseWireVersion, le (if response.finalized then 1 else 0 : UInt8),
    le (0 : UInt8), le response.highestContiguousSequence, le count, le response.chunkIndex,
    le response.chunkCount, le (UInt16.ofNat response.packageId.length),
    le (UInt16.ofNat response.candidateId.length), response.packageDigest.toList,
    response.clientId.toList, response.sessionId.toList, response.stateHash.toList,
    response.lastEventHash.toList, response.packageId, response.candidateId].flatten

lemma stateResponseWire_eq (response : StateResponse) :
    stateResponseWire response = stateHeaderWire response (ofNat response.answers.length) ++
        (response.answers.map answerStateWire).flatten := by
  simp only [stateResponseWire, stateHeaderWire, flatten_cons, flatten_nil,
    append_assoc, append_nil]

lemma run_bind_readChunkNumbers_current_iff {β : Type} {f : UInt16 × UInt16 → Reader β} {q : β × Bytes} :
    (readChunkNumbers kStateResponseWireVersion >>= f).run s = some q ↔
      ∃ index r, s = le index ++ r ∧ ∃ count r', r = le count ++ r' ∧ (f (index, count)).run r' = some q := by
  rw [run_bind_iff]
  simp only [readChunkNumbers, or_true, if_true, run_bind_readLe_iff, run_pure_iff]
  constructor
  · rintro ⟨_, _, ⟨index, r, h1, count, r', h2, rfl, rfl⟩, hf⟩
    exact ⟨index, r, h1, count, r', h2, hf⟩
  · rintro ⟨index, r, h1, count, r', h2, hf⟩
    exact ⟨_, _, ⟨index, r, h1, count, r', h2, rfl, rfl⟩, hf⟩

lemma flag_of_le_one {flags : UInt8} (h : flags ≤ 1) : (if flags != 0 then 1 else 0) = flags := by
  by_cases hz : flags = 0
  · simp [hz]
  · have ho : flags = 1 := by
      rw [UInt8.le_iff_toNat_le] at h
      rw [← UInt8.toNat_inj] at hz ⊢
      simp only [UInt8.toNat_one, UInt8.toNat_zero] at *
      omega
    simp [ho]

variable {response : StateResponse} {version count : UInt16}

lemma run_readStateResponseHeader_version (h : readStateResponseHeader.run s = some ((response, version, count), r)) :
    ∃ rest, s = le kResponseMagic ++ (le version ++ rest) := by
  simp only [readStateResponseHeader, run_bind_require_iff, run_bind_readLe_iff] at h
  obtain ⟨magic, s1, h1, hm, read, s2, h2, -, _, _, -, -, _, _, -, -, _, _, -, _, _, -, h7⟩ := h
  obtain ⟨numbers, s7, -, h8⟩ := run_bind_iff.mp h7
  simp only [run_bind_require_iff, run_bind_readLe_iff, run_bind_readBlock_iff] at h8
  obtain ⟨_, _, -, _, _, -, -, -, -, _, _, -, _, _, -, _, _, -, _, _, -, h9⟩ := h8
  obtain ⟨hash, s15, -, h10⟩ := run_bind_iff.mp h9
  simp only [run_bind_require_iff, run_bind_readString_iff, run_pure_iff] at h10
  obtain ⟨_, _, -, -, -, _, _, -, -, -, -, -, -, -, -, he, -⟩ := h10
  simp only [Prod.mk.injEq] at he
  exact ⟨s2, by rw [h1, hm, h2, he.2.1]⟩

lemma hasCurrentWireVersion_iff {rest : Bytes} : HasCurrentWireVersion (le kResponseMagic ++ (le version ++ rest)) ↔
      version = kStateResponseWireVersion := by
  have hd : (le kResponseMagic ++ (le version ++ rest)).drop 4 = le version ++ rest :=
    drop_left' (by simp)
  have ht : (le version ++ rest).take 2 = le version := take_left' (by simp)
  rw [HasCurrentWireVersion, hd, ht]
  exact le_injective.eq_iff

lemma run_readStateResponseHeader_iff :
    readStateResponseHeader.run s = some ((response, kStateResponseWireVersion, count), r) ↔
      s = stateHeaderWire response count ++ r ∧ response.answers = [] ∧
      count.toNat ≤ kMaximumStateEntries ∧ validStateResponseIdentity response := by
  constructor
  · intro h
    obtain ⟨bytes, hbytes⟩ := run_readStateResponseHeader_version h
    simp only [readStateResponseHeader, run_bind_require_iff, run_bind_readLe_iff] at h
    obtain ⟨magic, s1, h1, hmagic, version, s2, h2, -, flags, s3, h3, hflags, reserved, s4, h4,
      hrese, highest, s5, h5, answerCount, s6, h6, h7⟩ := h
    have hvers : version = kStateResponseWireVersion := by
      have hle : le version = le kStateResponseWireVersion := by
        rw [h1, hmagic, h2, append_cancel_left_eq] at hbytes
        exact (append_inj hbytes (by simp)).1
      exact le_injective hle
    subst hvers
    rw [run_bind_readChunkNumbers_current_iff] at h7
    simp only [readLastEventHash, if_true, run_bind_require_iff, run_bind_readLe_iff,
      run_bind_readBlock_iff, run_bind_readString_iff, run_pure_iff] at h7
    obtain ⟨index, s7, h7, chunks, s8, h8, pb, s9, h9, cb, s10, h10, hcount, -, -, digest, s11, h11,
      client, s12, h12, session, s13, h13, state, s14, h14, last, s15, h15, package, s16, h16, hpb,
      hpt, candidate, s17, h17, hcb, hct, hdige, hid, hchun, hmax, hindex, heq, h18⟩ := h7
    simp only [Prod.mk.injEq, true_and] at heq
    obtain ⟨rfl, rfl⟩ := heq
    refine ⟨?_, rfl, hcount, ?_⟩
    · simp only [h1, hmagic, h2, h3, h4, hrese, h5, h6, h7, h8, h9, h10, h11, h12, h13, h14, h15,
        h16, h17, h18, stateHeaderWire, flag_of_le_one hflags, hpb, hcb, ofNat_toNat,
        flatten_cons, flatten_nil, append_assoc, nil_append]
    · simp [validStateResponseIdentity, hpt, hdige, hid, hct, hchun, hmax, hindex]
  · obtain ⟨package, digest, client, session, candidate, highest, finalized, state, last, index,
      chunks, answers⟩ := response
    rintro ⟨rfl, hnil, hcount, hid⟩
    simp only at hnil
    subst hnil
    simp only [validStateResponseIdentity, Bool.and_eq_true, beq_iff_eq, bne_iff_ne,
      decide_eq_true_eq, and_assoc] at hid
    obtain ⟨hpt, hdige, hiden, hct, hchun, hmax, hindex, -⟩ := hid
    have hp := (validText_iff.mp hpt).2.1
    have hc := (validText_iff.mp hct).2.1
    have hpb := toNat_uint16_length hp
    have hcb := toNat_uint16_length hc
    simp only [readStateResponseHeader, run_bind_require_iff, run_bind_readLe_iff, stateHeaderWire,
      flatten_cons, flatten_nil, append_assoc, nil_append]
    refine ⟨_, _, rfl, rfl, _, _, rfl, by simp, _, _, rfl, by cases finalized <;> simp, _, _, rfl,
      rfl, _, _, rfl, _, _, rfl, ?_⟩
    rw [run_bind_readChunkNumbers_current_iff]
    simp only [readLastEventHash, if_true, run_bind_require_iff, run_bind_readLe_iff,
      run_bind_readBlock_iff, run_bind_readString_iff, run_pure_iff]
    refine ⟨_, _, rfl, _, _, rfl, _, _, rfl, _, _, rfl, hcount, by rw [hpb]; exact hp,
      by rw [hcb]; exact hc, _, _, rfl, _, _, rfl, _, _, rfl, _, _, rfl, _, _, rfl, package, _, rfl,
      hpb.symm, hpt, candidate, _, rfl, hcb.symm, hct, hdige, hiden, hchun, hmax, hindex, ?_,
      rfl⟩
    cases finalized <;> simp

lemma FitsChunk.length_wire_le (h : FitsChunk response) : (stateResponseWire response).length ≤ kMaximumWireBytes := by
  rw [length_stateResponseWire]
  exact h.bytes

lemma toNat_uint16_count (h : answers.length ≤ kMaximumStateEntries) :
    (ofNat answers.length).toNat = answers.length := by
  simp only [kMaximumStateEntries] at h
  exact UInt16.toNat_ofNat_of_lt' (by simp only [UInt16.size]; omega)

/-- **Current-version responses are canonical.**  A payload of wire version 3 decodes to a response
exactly when that response fits in a chunk and the payload is its wire form. -/
theorem decodeStateResponse_current_iff {payload : Bytes} :
    (decodeStateResponse payload = some response ∧ HasCurrentWireVersion payload) ↔
      FitsChunk response ∧ payload = stateResponseWire response := by
  constructor
  · rintro ⟨h, hvers⟩
    unfold decodeStateResponse at h
    split_ifs at h with hsize
    split at h
    · cases h
    · rename_i header version count rest hheade
      have hcurr : version = kStateResponseWireVersion := by
        obtain ⟨bytes, rfl⟩ := run_readStateResponseHeader_version hheade
        exact hasCurrentWireVersion_iff.mp hvers
      subst hcurr
      obtain ⟨rfl, hnil, hcount, hid⟩ := run_readStateResponseHeader_iff.mp hheade
      split_ifs at h with hmeta
      split at h
      · cases h
      · rename_i answers left hansw
        split_ifs at h with hleft
        cases h
        obtain ⟨new, hnew, hlen, rfl, hset⟩ := (run_readAnswers_iff AnswerSet.nil).mp hansw
        rw [nil_append] at hnew hset
        subst hnew
        rw [List.isEmpty_iff] at hleft
        subst hleft
        simp only [beq_self_eq_true, Bool.true_and, bne_self_eq_false, Bool.false_and,
          Bool.or_false, Bool.not_eq_true', Bool.not_eq_false] at hmeta
        have hcoun : count = ofNat answers.length := by rw [hlen, ofNat_toNat]
        have hwire : stateHeaderWire header count ++ ((answers.map answerStateWire).flatten ++ [])
            = stateResponseWire { header with answers := answers } := by
          rw [stateResponseWire_eq, hcoun, append_nil]
          rfl
        rw [hwire] at hsize ⊢
        obtain ⟨hhead, h1, h2, h3, -⟩ := validStateResponseMetadata_iff.mp hmeta
        refine ⟨⟨validStateResponseMetadata_iff.mpr ⟨?_, h1, h2, h3, ?_⟩, hset, ?_⟩, rfl⟩
        · exact ⟨hhead.packageId, hhead.packageDigest, hhead.identity, hhead.candidateId, hhead.cursor⟩
        · simp only
          omega
        · rw [← length_stateResponseWire]
          omega
  · rintro ⟨hfits, rfl⟩
    obtain ⟨hhead, h1, h2, h3, hentr⟩ := validStateResponseMetadata_iff.mp hfits.metadata
    have hcount := toNat_uint16_count hentr
    have hsize : ¬ ((stateResponseWire response).length < kStateResponseV1FixedBytes ∨
        kMaximumWireBytes < (stateResponseWire response).length) := by
      have hupper := hfits.length_wire_le
      have hlen := length_stateResponseWire response
      simp only [stateBaseBytes, kStateResponseV3FixedBytes, kStateResponseFixedBytes] at hlen
      omega
    have hblank : validStateResponseMetadata { response with answers := [] } = true :=
      validStateResponseMetadata_iff.mpr ⟨⟨hhead.packageId, hhead.packageDigest, hhead.identity,
        hhead.candidateId, hhead.cursor⟩, h1, h2, h3, by simp⟩
    have hid : validStateResponseIdentity { response with answers := [] } = true := by
      by_contra hno
      rw [Bool.not_eq_true] at hno
      simp [validStateResponseMetadata, hno] at hblank
    have hheade : readStateResponseHeader.run (stateResponseWire response) =
        some (({ response with answers := [] }, kStateResponseWireVersion,
          ofNat response.answers.length), (response.answers.map answerStateWire).flatten) :=
      run_readStateResponseHeader_iff.mpr
        ⟨by rw [stateResponseWire_eq]; rfl, rfl, by rw [hcount]; exact hentr, hid⟩
    have hansw : (readAnswers response.highestContiguousSequence
        (ofNat response.answers.length).toNat []).run
        ((response.answers.map answerStateWire).flatten) = some (response.answers, []) :=
      (run_readAnswers_iff AnswerSet.nil).mpr
        ⟨response.answers, by simp, hcount.symm, by simp, by simpa using hfits.answers⟩
    constructor
    · simp only [decodeStateResponse, if_neg hsize, hheade, hansw]
      simp [hblank]
    · obtain ⟨rest, hrest⟩ := run_readStateResponseHeader_version hheade
      rw [hrest]
      exact hasCurrentWireVersion_iff.mpr rfl

/-! ## Chunking loses nothing -/

/-- What the receiver decodes out of the chunks of a response. -/
def decodedChunks (response : StateResponse) : List StateResponse :=
  (answerChunks response).mapIdx fun index answers =>
    response.chunk (UInt16.ofNat (answerChunks response).length) index answers

lemma flatMap_answers_decodedChunks (response : StateResponse) :
    (decodedChunks response).flatMap StateResponse.answers = response.answers := by
  have hm : (decodedChunks response).map StateResponse.answers = answerChunks response := by
    refine ext_getElem (by simp [decodedChunks]) fun index h1 h2 => ?_
    simp [decodedChunks, StateResponse.chunk]
  rw [flatMap_def, hm, flatten_answerChunks]

lemma map_decode_encodeStateResponseChunks (h : Chunkable response) :
    (encodeStateResponseChunks response).map decodeStateResponse = (decodedChunks response).map some := by
  rw [encodeStateResponseChunks_of_chunkable h]
  refine ext_getElem (by simp [decodedChunks]) fun index h1 h2 => ?_
  simp only [length_map, length_mapIdx] at h1
  simp only [decodedChunks, getElem_map, getElem_mapIdx]
  exact (decodeStateResponse_current_iff.mpr ⟨h.fits h1, rfl⟩).1

lemma length_le_of_mem_encodeStateResponseChunks (h : Chunkable response)
    {chunk : Bytes} (hc : chunk ∈ encodeStateResponseChunks response) : chunk.length ≤ kMaximumWireBytes := by
  rw [encodeStateResponseChunks_of_chunkable h] at hc
  obtain ⟨index, hi, rfl⟩ := mem_mapIdx.mp hc
  exact (h.fits hi).length_wire_le

/-- **State response chunking loses nothing.**  Whenever the splitter returns chunks, each is within
the payload limit and decodes, the decoded chunks carry the original metadata and are numbered
`0 .. n - 1` of `n`, and their answers in index order are the original answers.  And every payload
of the current wire version that the decoder accepts is what the encoder writes for the result. -/
theorem stateResponse_chunking : (∀ response, encodeStateResponseChunks response ≠ [] →
      (∀ chunk ∈ encodeStateResponseChunks response, chunk.length ≤ kMaximumExamPayloadBytes) ∧
      ∃ decoded : List StateResponse,
        (encodeStateResponseChunks response).map decodeStateResponse = decoded.map some ∧
        (∀ index (h : index < decoded.length), decoded[index].chunkIndex.toNat = index ∧
          decoded[index].chunkCount.toNat = decoded.length ∧
          decoded[index] = { response with
            chunkIndex := decoded[index].chunkIndex
            chunkCount := decoded[index].chunkCount
            answers := decoded[index].answers }) ∧
        decoded.flatMap StateResponse.answers = response.answers) ∧
    (∀ payload response, HasCurrentWireVersion payload →
      decodeStateResponse payload = some response → encodeStateResponse response = payload) := by
  constructor
  · intro response hne
    have h := encodeStateResponseChunks_ne_nil_iff.mp hne
    refine ⟨fun chunk => length_le_of_mem_encodeStateResponseChunks h, decodedChunks response,
      map_decode_encodeStateResponseChunks h, ?_, flatMap_answers_decodedChunks response⟩
    intro index hindex
    have hcount := h.chunks
    have hlen : (decodedChunks response).length = (answerChunks response).length := by
      simp [decodedChunks]
    simp only [kMaximumStateChunks] at hcount
    have hget : (decodedChunks response)[index] = response.chunk (UInt16.ofNat (answerChunks response).length) index
        ((answerChunks response)[index]) := by simp [decodedChunks]
    rw [hget, hlen]
    refine ⟨?_, ?_, rfl⟩
    · exact UInt16.toNat_ofNat_of_lt' (by simp only [UInt16.size]; omega)
    · exact UInt16.toNat_ofNat_of_lt' (by simp only [UInt16.size]; omega)
  · intro payload response hversion hdecode
    obtain ⟨hfits, rfl⟩ := decodeStateResponse_current_iff.mp ⟨hdecode, hversion⟩
    exact encodeStateResponseChunk_of_fits hfits

/-- A session with one answer. -/
def oneAnswerState : StateResponse where
  packageId := [112]
  packageDigest := Block.fill 32 1
  clientId := Block.fill 16 2
  sessionId := Block.fill 16 3
  candidateId := [99]
  highestContiguousSequence := 1
  finalized := false
  stateHash := Block.fill 32 4
  lastEventHash := Block.fill 32 5
  chunkIndex := 0
  chunkCount := 1
  answers := [⟨[113], 1, 1, .upsert, [65], Block.fill 32 5⟩]

/-- An answer as long as an answer may be. -/
def longAnswerState (questionId : UInt8) (sequence : UInt64) : AnswerState :=
  ⟨[questionId], 1, sequence, .upsert, replicate kMaximumAnswerBytes 65, Block.fill 32 5⟩

/-- A session of four such answers.  A chunk has room for three. -/
def fourAnswerState : StateResponse :=
  { oneAnswerState with
    highestContiguousSequence := 4
    answers := [longAnswerState 113 1, longAnswerState 114 2, longAnswerState 115 3,
      longAnswerState 116 4] }

lemma answerWireBytes_longAnswerState (questionId : UInt8) (sequence : UInt64) :
    answerWireBytes (longAnswerState questionId sequence) = 53 + kMaximumAnswerBytes := by
  simp [answerWireBytes, longAnswerState]

lemma validAnswerState_longAnswerState {questionId : UInt8} {sequence : UInt64} (hq : questionId ≠ 0)
    (hs : sequence ≠ 0) : validAnswerState (longAnswerState questionId sequence) = true := by
  refine validAnswerState_iff.mpr ⟨?_, .inl rfl, hs, by simp [longAnswerState], (by decide : (1 : UInt32) ≠ 0),
    (by decide : allZero (Block.fill 32 5).toList = false), nofun⟩
  refine validText_iff.mpr ⟨.inr (cons_ne_nil _ _), ?_, ?_⟩
  · exact (by decide : 1 ≤ kMaximumQuestionIdBytes)
  rw [longAnswerState, mem_singleton]
  exact hq.symm

lemma answerChunks_fourAnswerState : answerChunks fourAnswerState =
    [[longAnswerState 113 1, longAnswerState 114 2, longAnswerState 115 3], [longAnswerState 116 4]] := by
  have hb : stateBaseBytes fourAnswerState = 156 := rfl
  rw [answerChunks, hb, fourAnswerState]
  simp [packAnswers, answerWireBytes_longAnswerState, kMaximumAnswerBytes, kMaximumWireBytes, kMaximumExamPayloadBytes,
    kMaxCommandPayload, kControlAuthTagBytes]

lemma chunkable_fourAnswerState : Chunkable fourAnswerState where
  metadata := by decide
  answers := by
    refine ⟨?_, by simp [fourAnswerState, longAnswerState], by simp [fourAnswerState, longAnswerState]⟩
    simp only [fourAnswerState, forall_mem_cons]
    exact ⟨⟨validAnswerState_longAnswerState (by decide) (by decide), by decide⟩,
      ⟨validAnswerState_longAnswerState (by decide) (by decide), by decide⟩,
      ⟨validAnswerState_longAnswerState (by decide) (by decide), by decide⟩,
      ⟨validAnswerState_longAnswerState (by decide) (by decide), by decide⟩, nofun⟩
  chunks := by rw [answerChunks_fourAnswerState]; decide

/-- `fourAnswerState` goes out as two chunks, and the wire form of `oneAnswerState` is what comes back
from decoding. -/
theorem stateResponse_chunking_fourAnswerState : (∃ decoded : List StateResponse, decoded.length = 2 ∧
      (encodeStateResponseChunks fourAnswerState).map decodeStateResponse = decoded.map some ∧
      decoded.flatMap StateResponse.answers = fourAnswerState.answers) ∧
    encodeStateResponse oneAnswerState = stateResponseWire oneAnswerState := by
  obtain ⟨-, decoded, hdecoded, -, hall⟩ := stateResponse_chunking.1 fourAnswerState
    (encodeStateResponseChunks_ne_nil_iff.mpr chunkable_fourAnswerState)
  have hlength : decoded.length = 2 := by
    have hl := congrArg length hdecoded
    rw [length_map, length_map, encodeStateResponseChunks_of_chunkable chunkable_fourAnswerState,
      length_mapIdx, answerChunks_fourAnswerState] at hl
    exact hl.symm
  have hfits : FitsChunk oneAnswerState := ⟨by decide, ⟨by decide, by decide, by decide⟩, by decide⟩
  obtain ⟨hdecode, hversion⟩ := decodeStateResponse_current_iff.mpr ⟨hfits, rfl⟩
  exact ⟨⟨decoded, hlength, hdecoded, hall⟩, stateResponse_chunking.2 _ _ hversion hdecode⟩

end Nstu
