import Nstu.Core.Sha256
import Nstu.Exam.Journal.Invariant
import Nstu.Exam.StateDecode

/-!
# Sending a session's state back

`AnswerJournal::state` answers a reconnecting client with everything the session holds.  The
response of a reachable journal always passes the checks of the chunk encoder on metadata and
answers (`journalState_valid`); the bound on the number of chunks
is the one check that can fail.  `journalState_chunks_iff` is the exact condition, and
`journalState_unsendable` a session of 193 long answers that misses it: three of them fill a chunk.
-/

namespace Nstu

open Wire FramedLog HashChain Std
open AnswerState (ofEvent)

variable {sha256 : Bytes → Digest}

/-! ## The answers of a session -/

namespace SessionInvariant

variable {key : Bytes} {session : SessionData} {events : List AnswerEvent}

lemma answer_eq (h : SessionInvariant sha256 key session events) {questionId : Bytes}
    {answer : AnswerState} (ha : session.answers[questionId]? = some answer) :
    ∃ event ∈ events, event.kind = .upsert ∧ event.questionId = questionId ∧
      answer = ofEvent event (eventHash sha256 event) := by
  rw [h.answers, latestAnswer] at ha
  split at ha
  · rename_i event hf
    have hm := List.mem_reverse.mp (List.mem_of_find?_eq_some hf)
    have ht := List.find?_some hf
    simp only [touches, Bool.and_eq_true, beq_iff_eq] at ht
    split_ifs at ha with hk
    cases ha
    exact ⟨event, hm, hk, ht.2, rfl⟩
  · cases ha

lemma questionId_eq (h : SessionInvariant sha256 key session events) {entry : Bytes × AnswerState}
    (he : entry ∈ session.answers.toList) : entry.2.questionId = entry.1 := by
  obtain ⟨event, -, -, hq, ha⟩ :=
    h.answer_eq (ExtTreeMap.mem_toList_iff_getElem?_eq_some.mp he)
  rw [ha]
  exact hq

lemma map_questionId (h : SessionInvariant sha256 key session events) :
    (session.answers.toList.map Prod.snd).map AnswerState.questionId = session.answers.keys := by
  rw [← ExtTreeMap.map_fst_toList_eq_keys, List.map_map]
  exact List.map_congr_left fun entry he => h.questionId_eq he

lemma eq_of_sequence_eq (h : SessionInvariant sha256 key session events) {a b : AnswerEvent}
    (ha : a ∈ events) (hb : b ∈ events) (hs : a.sequence = b.sequence) : a = b := by
  obtain ⟨i, hi, rfl⟩ := List.getElem_of_mem ha
  obtain ⟨j, hj, rfl⟩ := List.getElem_of_mem hb
  have := h.sequences i hi
  have := h.sequences j hj
  obtain rfl : i = j := by rw [hs] at *; omega
  rfl

lemma sequence_le (h : SessionInvariant sha256 key session events) {event : AnswerEvent}
    (he : event ∈ events) : event.sequence ≤ session.highestSequence := by
  obtain ⟨i, hi, rfl⟩ := List.getElem_of_mem he
  rw [UInt64.le_iff_toNat_le, h.sequences i hi, h.highest]
  omega

/-- **The answers of a session pass the encoder's checks.** -/
lemma answerSet (h : SessionInvariant sha256 key session events) (hvalid : ∀ event ∈ events, ValidAnswerEvent event)
    (hsha : ∀ bytes, sha256 bytes ≠ Block.zero 32) :
    AnswerSet session.highestSequence (session.answers.toList.map Prod.snd) where
  valid := by
    intro answer hansw
    obtain ⟨entry, hentry, rfl⟩ := List.mem_map.mp hansw
    obtain ⟨event, hevent, hkind, -, heq⟩ :=
      h.answer_eq (ExtTreeMap.mem_toList_iff_getElem?_eq_some.mp hentry)
    have hv := hvalid event hevent
    rw [heq]
    refine ⟨validAnswerState_iff.mpr ⟨hv.questionId (by simp [hkind]), .inl hkind, hv.sequence,
      hv.answer, hv.questionRevision, ?_, hv.clear⟩, h.sequence_le hevent⟩
    exact allZero_eq_false_of_ne (hsha _)
  questions := by
    rw [h.map_questionId]
    exact Std.ExtTreeMap.nodup_keys
  sequences := by
    rw [List.map_map]
    refine List.pairwise_map.mpr (ExtTreeMap.distinct_keys_toList.imp_of_mem ?_)
    intro a b ha hb hdist hsequ
    obtain ⟨ea, hea, -, hqa, heqa⟩ :=
      h.answer_eq (ExtTreeMap.mem_toList_iff_getElem?_eq_some.mp ha)
    obtain ⟨eb, heb, -, hqb, heqb⟩ :=
      h.answer_eq (ExtTreeMap.mem_toList_iff_getElem?_eq_some.mp hb)
    simp only [Function.comp_apply, heqa, heqb, ofEvent] at hsequ
    have := h.eq_of_sequence_eq hea heb hsequ
    rw [Std.compare_eq_iff_eq] at hdist
    exact hdist (by rw [← hqa, ← hqb, this])

lemma cursor (h : SessionInvariant sha256 key session events) (hs : ∀ bytes, sha256 bytes ≠ Block.zero 32) :
    if session.highestSequence = 0 then allZero session.lastHash.toList
    else allZero (stateHash sha256 session).toList = false ∧ allZero session.lastHash.toList = false := by
  split_ifs with hz
  · rw [allZero_iff, h.lastHash_of_zero hz]
  · obtain ⟨event, -, -, hh⟩ := h.getElem?_eventHashes.mp (h.getElem?_highestSequence hz)
    refine ⟨allZero_eq_false_of_ne (hs _), allZero_eq_false_of_ne ?_⟩
    rw [← hh]
    exact hs _

end SessionInvariant

/-! ## The response -/

section Response

variable (sha256)

/-- The response for a session that exists. -/
def SessionData.response (session : SessionData) : StateResponse :=
  ⟨session.packageId, session.packageDigest, session.clientId, session.sessionId,
    session.candidateId, session.highestSequence, session.finalized, stateHash sha256 session,
    session.lastHash, 0, 1, session.answers.toList.map Prod.snd⟩

/-- The response for a session the journal has not seen. -/
def StateRequest.emptyResponse (request : StateRequest) : StateResponse :=
  ⟨request.packageId, request.packageDigest, request.clientId, request.sessionId,
    request.candidateId, 0, false, Block.zero 32, Block.zero 32, 0, 1, []⟩

end Response

variable {journal : AnswerJournal} {log : List AnswerEvent} {request : StateRequest}
  {response : StateResponse}

lemma state_eq_ok_iff : journal.state sha256 request = .ok response ↔
      journal.isOpen ∧ ValidStateRequest request ∧
      ((journal.sessions[requestKey request]? = none ∧ response = request.emptyResponse) ∨
        ∃ session, journal.sessions[requestKey request]? = some session ∧
          session.candidateId = request.candidateId ∧ response = session.response sha256) := by
  rw [← encodeStateRequest_ne_nil_iff]
  simp only [AnswerJournal.state]
  by_cases ho : journal.isOpen
  · rw [if_neg (by simp [ho])]
    by_cases hr : encodeStateRequest request = []
    · simp [hr]
    · rw [if_neg (by simp [hr])]
      cases hs : journal.sessions[requestKey request]? with
      | none =>
        simp only [Except.ok.injEq, reduceCtorEq, false_and, exists_false, or_false, true_and]
        exact ⟨fun h => ⟨ho, hr, h.symm⟩, fun h => h.2.2.symm⟩
      | some session =>
        by_cases hc : session.candidateId = request.candidateId
        · simp only [hc, bne_self_eq_false, Bool.false_eq_true, if_false,
            Except.ok.injEq, reduceCtorEq, false_and, false_or, Option.some.injEq]
          constructor
          · intro h
            exact ⟨ho, hr, session, rfl, hc, by rw [← h, ← hc]; rfl⟩
          · rintro ⟨-, -, _, rfl, -, rfl⟩
            rw [← hc]
            rfl
        · simp [hc]
  · simp [ho]

open SessionData

lemma journalState_valid (hsha : ∀ bytes, sha256 bytes ≠ Block.zero 32) (hreach : JournalReach sha256 journal log)
    (hstate : journal.state sha256 request = .ok response) :
    validStateResponseMetadata response ∧ AnswerSet response.highestContiguousSequence response.answers := by
  obtain ⟨-, hrequ, hnone | ⟨session, hsess, hcand, rfl⟩⟩ := state_eq_ok_iff.mp hstate
  · obtain ⟨-, rfl⟩ := hnone
    refine ⟨validStateResponseMetadata_iff.mpr ⟨⟨hrequ.packageId, hrequ.packageDigest,
      hrequ.identity, hrequ.candidateId, ?_⟩, ?_⟩, AnswerSet.nil⟩
    · simp [StateRequest.emptyResponse, allZero_iff]
    · simp [StateRequest.emptyResponse, kMaximumStateChunks, kMaximumStateEntries]
  · have h := hreach.sessionsOf.present _ _ hsess
    have hvalid : ∀ event ∈ eventsOf (requestKey request) log, ValidAnswerEvent event :=
      fun event hevent => hreach.represents.acceptedLog.valid event (List.mem_filter.mp hevent).1
    have hset := h.answerSet hvalid hsha
    obtain ⟨hpack, hdige, hclie, hid⟩ := sessionKeyOf_inj.mp h.context
    refine ⟨validStateResponseMetadata_iff.mpr ⟨⟨?_, ?_, ?_, ?_, ?_⟩, ?_, ?_, ?_, ?_⟩, hset⟩
    · simpa only [response, hpack] using hrequ.packageId
    · simpa only [response, hdige] using hrequ.packageDigest
    · simpa only [response, hclie, hid] using hrequ.identity
    · simpa only [response, hcand] using hrequ.candidateId
    · exact h.cursor hsha
    · exact (by decide : (1 : UInt16) ≠ 0)
    · exact (by decide : (1 : UInt16).toNat ≤ kMaximumStateChunks)
    · exact (by decide : (0 : UInt16) < 1)
    · simpa [response] using h.answersSize

/-- **When the state can be sent.**  A well-formed request whose candidate matches always gets a
response, and the encoder takes it exactly when its answers pack into the chunks there are.  Three
answers to a chunk always do. -/
theorem journalState_chunks_iff (hsha : ∀ bytes, sha256 bytes ≠ Block.zero 32)
    (hreach : JournalReach sha256 journal log) (hopen : journal.isOpen = true)
    (hrequest : encodeStateRequest request ≠ [])
    (hcandidate : ∀ session, journal.sessions[requestKey request]? = some session →
      session.candidateId = request.candidateId) :
    ∃ response, journal.state sha256 request = .ok response ∧ (encodeStateResponseChunks response ≠ [] ↔
        (answerChunks response).length ≤ kMaximumStateChunks) ∧
      (response.answers.length ≤ 3 * kMaximumStateChunks → encodeStateResponseChunks response ≠ []) := by
  obtain ⟨response, hstate⟩ : ∃ response, journal.state sha256 request = .ok response := by
    cases hsession : journal.sessions[requestKey request]? with
    | none =>
      exact ⟨_, state_eq_ok_iff.mpr ⟨hopen, encodeStateRequest_ne_nil_iff.mp hrequest, Or.inl ⟨hsession, rfl⟩⟩⟩
    | some session =>
      exact ⟨_, state_eq_ok_iff.mpr ⟨hopen, encodeStateRequest_ne_nil_iff.mp hrequest,
        Or.inr ⟨session, hsession, hcandidate session hsession, rfl⟩⟩⟩
  obtain ⟨hmetadata, hset⟩ := journalState_valid hsha hreach hstate
  have hiff : encodeStateResponseChunks response ≠ [] ↔ (answerChunks response).length ≤ kMaximumStateChunks := by
    rw [encodeStateResponseChunks_ne_nil_iff]
    exact ⟨Chunkable.chunks, fun hchunks => ⟨hmetadata, hset, hchunks⟩⟩
  refine ⟨response, hstate, hiff, fun hfew => hiff.mpr ?_⟩
  exact length_answerChunks_le (validStateResponseMetadata_iff.mp hmetadata).1
    (fun answer hanswer => (hset.valid answer hanswer).1) hfew

/-- A request for the session of `firstAnswer`. -/
def firstRequest : StateRequest :=
  ⟨firstAnswer.packageId, firstAnswer.packageDigest, firstAnswer.clientId, firstAnswer.sessionId,
    firstAnswer.candidateId⟩

/-! ## A session too long to send -/

section LongSession

/-- The `i`th answer of a long session: a question of its own, answered at full length. -/
def longAnswer (i : ℕ) (previous : Digest) : AnswerEvent :=
  { firstAnswer with
    questionId := [UInt8.ofNat (i + 1)]
    sequence := UInt64.ofNat (i + 1)
    answer := List.replicate kMaximumAnswerBytes 65
    previousEventHash := previous }

lemma validAnswerEvent_longAnswer {i : ℕ} {previous : Digest} (hi : i < 255)
    (hp : i = 0 → previous = Block.zero 32) : ValidAnswerEvent (longAnswer i previous) := by
  have hq : UInt8.ofNat (i + 1) ≠ 0 := by
    intro hz
    have := congrArg UInt8.toNat hz
    rw [UInt8.toNat_ofNat_of_lt' (by simp only [UInt8.size]; omega), UInt8.toNat_zero] at this
    omega
  have hs : (UInt64.ofNat (i + 1)).toNat = i + 1 :=
    UInt64.toNat_ofNat_of_lt' (by simp only [UInt64.size]; omega)
  refine
    { validAnswerEvent_firstAnswer with
      sequence := ?_
      answer := ?_
      questionId := fun _ => ?_
      finalize := fun h => nomatch h
      clear := fun h => nomatch h
      first := ?_ }
  · intro hz
    have := congrArg UInt64.toNat hz
    simp only [longAnswer, hs, UInt64.toNat_zero] at this
    omega
  · simp [longAnswer]
  · refine validText_iff.mpr ⟨.inr (List.cons_ne_nil _ _), ?_, ?_⟩
    · exact (by decide : 1 ≤ kMaximumQuestionIdBytes)
    rw [longAnswer, List.mem_singleton]
    exact hq.symm
  · intro ho
    have := congrArg UInt64.toNat ho
    simp only [longAnswer, hs, UInt64.toNat_one] at this
    rw [longAnswer, hp (by omega)]
    exact allZero_iff.mpr rfl

/-- The journal after `n` answers of a long session. -/
structure LongSession (n : ℕ) (journal : AnswerJournal) (session : SessionData) : Prop where
  entry : sessionFor journal.sessions firstAnswer = session
  isOpen : journal.isOpen = true
  sessionsSize : journal.sessions.size ≤ n
  fileSize : journal.file.length = n * 16565
  candidate : session.candidateId = firstAnswer.candidateId
  highest : session.highestSequence = UInt64.ofNat n
  lastHash : n = 0 → session.lastHash = Block.zero 32
  notFinalized : session.finalized = false
  answersSize : session.answers.size = n
  answers : ∀ questionId answer, session.answers[questionId]? = some answer →
    answer.answer.length = kMaximumAnswerBytes ∧ ∃ i < n, questionId = [UInt8.ofNat (i + 1)]

lemma longSession_zero : LongSession 0 newJournal (fresh firstAnswer) where
  entry := by simp [sessionFor, newJournal]
  isOpen := rfl
  sessionsSize := by simp [newJournal]
  fileSize := rfl
  candidate := rfl
  highest := rfl
  lastHash := fun _ => rfl
  notFinalized := rfl
  answersSize := rfl
  answers := by simp [fresh]

variable {n : ℕ} {session : SessionData}

lemma LongSession.toNat_highest (h : LongSession n journal session) (hn : n < 255) :
    session.highestSequence.toNat = n := by
  rw [h.highest]
  exact UInt64.toNat_ofNat_of_lt' (by simp only [UInt64.size]; omega)

lemma LongSession.acceptable (h : LongSession n journal session) (hn : n < 255) :
    Acceptable journal.sessions (longAnswer n session.lastHash) := by
  have hs : sessionFor journal.sessions (longAnswer n session.lastHash) = session := h.entry
  exact
    { valid := validAnswerEvent_longAnswer hn h.lastHash
      sessionRoom := sessionQuotaExceeded_eq_false_iff.mpr (.inr (by
        have := h.sessionsSize
        simp only [kMaximumJournalSessions]
        omega))
      candidate := by rw [hs, h.candidate]; rfl
      answerRoom := by
        have hsi := h.answersSize
        have hr : ¬ n ≥ kMaximumStateEntries := by
          simp only [kMaximumStateEntries]
          omega
        simp [hs, answerQuotaExceeded, hsi, hr]
      notFinalized := by rw [hs, h.notFinalized]
      notFull := by
        rw [hs]
        intro hm
        have := h.toNat_highest hn
        have hv : maxSequence.toNat = 2 ^ 64 - 1 := rfl
        rw [hm, hv] at this
        omega
      sequence := by
        rw [hs, h.highest]
        simp [longAnswer]
      previous := by rw [hs]; rfl }

lemma LongSession.length_journalRecord (h : LongSession n journal session) (hn : n < 255) :
    (journalRecord sha256 (longAnswer n session.lastHash)).length = 16565 := by
  have ha : (longAnswer n session.lastHash).answer.length = kMaximumAnswerBytes := List.length_replicate
  have hp : (longAnswer n session.lastHash).packageId.length = 1 := rfl
  have hc : (longAnswer n session.lastHash).candidateId.length = 1 := rfl
  have hq : (longAnswer n session.lastHash).questionId.length = 1 := rfl
  rw [Nstu.length_journalRecord (validAnswerEvent_longAnswer hn h.lastHash), length_answerEventWire, hp,
    hc, hq, ha]
  simp only [kJournalRecordOverhead, kJournalHeaderBytes, kAnswerEventFixedBytes, kMaximumAnswerBytes]

/-- One more accepted answer of the long session. -/
lemma LongSession.step (h : LongSession n journal session) (hn : n < 255) :
    LongSession (n + 1) (journal.accepted sha256 (longAnswer n session.lastHash))
      (session.accept (longAnswer n session.lastHash) (eventHash sha256 (longAnswer n session.lastHash))) := by
  set event := longAnswer n session.lastHash with hevent
  have hinsert : (session.accept event (eventHash sha256 event)).answers =
      session.answers.insert event.questionId (ofEvent event (eventHash sha256 event)) := rfl
  exact
    { entry := by
        rw [← h.entry]
        have hget : (journal.accepted sha256 event).sessions[sessionKey firstAnswer]? =
            some ((sessionFor journal.sessions firstAnswer).accept event (eventHash sha256 event)) :=
          ExtTreeMap.getElem?_insert_self
        rw [sessionFor, hget]
        rfl
      isOpen := h.isOpen
      sessionsSize := Nat.le_trans ExtTreeMap.size_insert_le (Nat.succ_le_succ h.sessionsSize)
      fileSize := by
        simp only [AnswerJournal.accepted, List.length_append, h.fileSize, hevent, h.length_journalRecord hn]
        omega
      candidate := by simp [accept, h.candidate, hevent, longAnswer]
      highest := rfl
      lastHash := nofun
      notFinalized := by simp [accept, h.notFinalized, hevent, longAnswer, firstAnswer]
      answersSize := by
        have hnew : event.questionId ∉ session.answers := by
          intro hmem
          rw [ExtTreeMap.mem_iff_isSome_getElem?, Option.isSome_iff_exists] at hmem
          obtain ⟨answer, hansw⟩ := hmem
          obtain ⟨-, i, hi, hques⟩ := h.answers _ _ hansw
          have hbyte := congrArg UInt8.toNat (List.singleton_injective hques)
          rw [UInt8.toNat_ofNat_of_lt' (by simp only [UInt8.size]; omega),
            UInt8.toNat_ofNat_of_lt' (by simp only [UInt8.size]; omega)] at hbyte
          omega
        have hcont : session.answers.contains event.questionId = false := by
          rwa [← Bool.not_eq_true, ExtTreeMap.contains_iff_mem]
        rw [hinsert, ExtTreeMap.size_insert, hcont, h.answersSize]
        rfl
      answers := by
        intro questionId answer hansw
        rw [hinsert, getElem?_insert] at hansw
        split_ifs at hansw with hques
        · cases hansw
          exact ⟨by simp [ofEvent, hevent, longAnswer], n, Nat.lt_succ_self n, hques.symm⟩
        · obtain ⟨hleng, i, hi, heq⟩ := h.answers questionId answer hansw
          exact ⟨hleng, i, by omega, heq⟩ }

lemma exists_longSession (sha256 : Bytes → Digest) : ∀ n ≤ 200, ∃ journal log session,
    JournalReach sha256 journal log ∧ LongSession n journal session
  | 0, _ => ⟨_, _, _, .opened (open_absent fun _ => rfl), longSession_zero⟩
  | n + 1, hn => by
    obtain ⟨journal, log, session, hr, hl⟩ := exists_longSession sha256 n (by omega)
    have hf : RecordFits sha256 journal (longAnswer n session.lastHash) := by
      have hfi := hl.fileSize
      rw [RecordFits, hl.length_journalRecord (by omega), hfi, kMaximumJournalBytes]
      omega
    exact ⟨_, _, _, hr.accepted hl.isOpen (hl.acceptable (by omega)) hf,
      hl.step (by omega)⟩

lemma LongSession.getElem?_session (h : LongSession n journal session) (hn : n ≠ 0) :
    journal.sessions[requestKey firstRequest]? = some session := by
  have he := h.entry
  have hs := h.answersSize
  simp only [sessionFor] at he
  change journal.sessions[sessionKey firstAnswer]? = some session
  cases hg : journal.sessions[sessionKey firstAnswer]? with
  | some found =>
    rw [hg] at he
    exact congrArg some he
  | none =>
    rw [hg] at he
    rw [← he] at hs
    exact absurd hs.symm hn

lemma LongSession.state (h : LongSession n journal session) (hn : n ≠ 0) :
    journal.state sha256 firstRequest = .ok (session.response sha256) :=
  state_eq_ok_iff.mpr ⟨h.isOpen, encodeStateRequest_ne_nil_iff.mp (by decide),
    .inr ⟨session, h.getElem?_session hn, h.candidate, rfl⟩⟩

/-- Three answers of full length fill a chunk. -/
lemma LongSession.length_le (h : LongSession n journal session)
    (hc : Chunkable (session.response sha256)) : n ≤ 3 * (answerChunks (session.response sha256)).length := by
  have hn : (session.response sha256).answers.length = n := by
    simp [response, h.answersSize]
  rw [← hn]
  refine hc.length_answers_le ?_
  intro answer ha
  obtain ⟨entry, he, rfl⟩ := List.mem_map.mp ha
  have hl := (h.answers _ _ (Std.ExtTreeMap.mem_toList_iff_getElem?_eq_some.mp he)).1
  simp only [answerWireBytes]
  omega

/-- SHA-256, with another value where it would give zero. -/
def nonzeroSha256 (bytes : Bytes) : Digest :=
  let digest : Digest := ⟨Sha256.digest bytes, Sha256.length_digest bytes⟩
  if digest = Block.zero 32 then Block.fill 32 1 else digest

lemma nonzeroSha256_ne_zero (bytes : Bytes) : nonzeroSha256 bytes ≠ Block.zero 32 := by
  simp only [nonzeroSha256]
  split_ifs with hz
  · decide
  · exact hz

/-- **A session the journal accepts and cannot send back.**  Its 193 answers of the maximum length
need 65 chunks. -/
theorem journalState_unsendable : ∃ (sha256 : Bytes → Digest) (journal : AnswerJournal) (log : List AnswerEvent)
      (request : StateRequest) (response : StateResponse),
      (∀ bytes, sha256 bytes ≠ Block.zero 32) ∧ JournalReach sha256 journal log ∧
      journal.isOpen = true ∧ encodeStateRequest request ≠ [] ∧
      (∀ session, journal.sessions[requestKey request]? = some session → session.candidateId = request.candidateId) ∧
      journal.state sha256 request = .ok response ∧ encodeStateResponseChunks response = [] := by
  obtain ⟨journal, log, session, hreach, hlong⟩ := exists_longSession nonzeroSha256 193 (by decide)
  have hsession := hlong.getElem?_session (by decide)
  refine ⟨_, journal, log, firstRequest, session.response nonzeroSha256,
    nonzeroSha256_ne_zero, hreach, hlong.isOpen, by decide, ?_, hlong.state (by decide), ?_⟩
  · intro found hfound
    rw [hsession] at hfound
    cases hfound
    exact hlong.candidate
  · by_contra hne
    have hchunkable := encodeStateResponseChunks_ne_nil_iff.mp hne
    have hcount := hlong.length_le hchunkable
    have hchunks := hchunkable.chunks
    simp only [kMaximumStateChunks] at hchunks
    omega

/-- A session of four answers of full length, which takes two chunks. -/
theorem journalState_chunks_longSession : ∃ journal log response, JournalReach nonzeroSha256 journal log ∧
      journal.state nonzeroSha256 firstRequest = .ok response ∧ response.answers.length = 4 ∧
      encodeStateResponseChunks response ≠ [] ∧ 1 < (answerChunks response).length ∧
      (answerChunks response).length ≤ kMaximumStateChunks := by
  obtain ⟨journal, log, session, hreach, hlong⟩ := exists_longSession nonzeroSha256 4 (by decide)
  have hsession := hlong.getElem?_session (by decide)
  have hstate : journal.state nonzeroSha256 firstRequest = .ok (session.response nonzeroSha256) :=
    hlong.state (by decide)
  have hanswers : (session.response nonzeroSha256).answers.length = 4 := by
    simp [response, hlong.answersSize]
  have hcandidate : ∀ found, journal.sessions[requestKey firstRequest]? = some found →
      found.candidateId = firstRequest.candidateId := by
    intro found hfound
    rw [hsession] at hfound
    cases hfound
    exact hlong.candidate
  obtain ⟨response, hresponse, hiff, hfew⟩ :=
    journalState_chunks_iff nonzeroSha256_ne_zero hreach hlong.isOpen (by decide) hcandidate
  obtain rfl := Except.ok.inj (hresponse.symm.trans hstate)
  have hsent := hfew (by rw [hanswers]; decide)
  have hcount := hlong.length_le (encodeStateResponseChunks_ne_nil_iff.mp hsent)
  exact ⟨journal, log, _, hreach, hstate, hanswers, hsent, by omega, hiff.mp hsent⟩

end LongSession

end Nstu
