import Mathlib.Data.List.Perm.Subperm
import Nstu.Exam.StateDecode
import Nstu.Web.LateState
import Nstu.Web.Stored

/-!
# Putting a state together again

The chunks of a state response reach the page in any order, and some of them more than once.
`collectStateChunks` is the page's side of it: one call of `collectStateChunk` for each message.

`completeState` is what the page ought to get out of the chunks.  As long as a chunk is missing, the
collection holds the chunks that have come, in the order in which they came (`collecting`).  One
call adds its chunk or changes nothing (`collectStateChunk_collecting`), and it gives out
`completeState` exactly when the last one is there.
-/

namespace Nstu.Web

open Wire Text List

/-! ## What the page ought to get -/

/-- A text of the server, as a string. -/
def textOf (bytes : Bytes) : Utf16 := (ofUtf8 bytes).getD []

/-- An answer of the server, as the page keeps it. -/
def recoveredAnswer (answer : AnswerState) : RecoveredAnswer where
  questionId := textOf answer.questionId
  questionRevision := answer.questionRevision.toNat
  sequence := answer.sequence.toNat
  kind := if answer.kind = .clear then .clear else .upsert
  answer := textOf answer.answer
  eventHashHex := hexString answer.eventHash.toList

/-- The state without its answers. -/
def stateMetadata (page : ExamPage) (response : StateResponse) : CompleteState where
  packageId := page.context.packageId
  packageDigestHex := page.context.packageDigestHex
  clientIdHex := page.context.clientIdHex
  sessionIdHex := page.context.sessionIdHex
  candidateId := page.context.candidateId
  highestContiguousSequence := response.highestContiguousSequence.toNat
  finalized := response.finalized
  stateHashHex := hexString response.stateHash.toList
  lastEventHashHex := hexString response.lastEventHash.toList
  answers := []

/-- The state of a response in the page's context. -/
def completeState (page : ExamPage) (response : StateResponse) : CompleteState :=
  { stateMetadata page response with answers := response.answers.map recoveredAnswer }

/-! ## Deliveries -/

/-- The message for one of the chunks, after `encode_state_response_chunks` on the server and
`decode_state_response` and `make_state_json` on the client. -/
def chunkMessage (response : StateResponse) (index : ℕ) : Option StateMessage := do
  let wire ← (encodeStateResponseChunks response)[index]?
  let chunk ← decodeStateResponse wire
  stateMessageOf chunk

/-- What a run of calls of `collectStateChunk` gives out, for messages with the times at which they
come. -/
def collectStateChunks (page : ExamPage) : Option StateChunks → List (ℕ × StateMessage) → List (Option CompleteState)
  | _, [] => []
  | current, (now, message) :: rest =>
    let collected := collectStateChunk page now current message
    collected.2 :: collectStateChunks page collected.1 rest

/-- A response of the page's context that can be sent to it. -/
structure Deliverable (page : ExamPage) (response : StateResponse) : Prop where
  chunks : encodeStateResponseChunks response ≠ []
  packageId : ofUtf8 response.packageId = some page.context.packageId
  manifestId : page.manifestId = page.context.packageId
  packageDigest : page.context.packageDigestHex = hexString response.packageDigest.toList
  clientId : page.context.clientIdHex = hexString response.clientId.toList
  sessionId : page.context.sessionIdHex = hexString response.sessionId.toList
  candidateId : ofUtf8 response.candidateId = some page.context.candidateId
  highest : response.highestContiguousSequence.toNat ≤ maxSafeInteger
  questions : ∀ answer ∈ response.answers,
    (ofUtf8 answer.questionId).isSome ∧ (page.questionById (textOf answer.questionId)).isSome
  texts : ∀ answer ∈ response.answers, (ofUtf8 answer.answer).isSome
  bytes : (response.answers.map fun answer => boundedJsonSize (recoveredAnswer answer).json).sum ≤
    MAX_DURABLE_BYTES

/-- Every chunk is among the deliveries. -/
def Covers (response : StateResponse) (deliveries : List (ℕ × StateMessage)) : Prop :=
  ∀ index < (encodeStateResponseChunks response).length,
    ∃ delivery ∈ deliveries, chunkMessage response index = some delivery.2

/-- A collection, if there is one, is not of the state of this message, or it is too old. -/
def StartsAnew (page : ExamPage) (now : ℕ) (current : Option StateChunks) (message : StateMessage) :
    Prop :=
  ∀ collection ∈ current, ∀ metadata ∈ chunkMetadata page message,
    collection.key ≠ chunkKey metadata ∨ collection.count ≠ message.chunkCount ∨
      now - collection.createdAt > collectionWindow

/-! ## One answer -/

variable {bytes : Bytes}

lemma ofUtf8_eq_textOf (h : (ofUtf8 bytes).isSome) : ofUtf8 bytes = some (textOf bytes) := by
  obtain ⟨text, ht⟩ := Option.isSome_iff_exists.mp h
  simp [textOf, ht]

lemma utf8_textOf (h : (ofUtf8 bytes).isSome) : utf8 (textOf bytes) = bytes :=
  utf8_of_ofUtf8 (ofUtf8_eq_textOf h)

lemma validIdentifier_of_validText {text : Utf16} {maximum : ℕ}
    (h : validText bytes maximum false) (ht : ofUtf8 bytes = some text) :
    validIdentifier (.string text) maximum false = some text := by
  obtain ⟨he, hl, hz⟩ := validText_iff.mp h
  have hutf8 := utf8_of_ofUtf8 ht
  have hn : text ≠ [] := by
    rintro rfl
    exact (he.resolve_left (by simp)) (by rw [← hutf8]; rfl)
  have hz' : 0 ∉ text := by
    rwa [← zero_mem_utf8, hutf8]
  simp only [validIdentifier, asString, Option.filter_eq_some_iff, Bool.false_or, Bool.and_eq_true,
    Bool.not_eq_true', isEmpty_eq_false_iff, any_eq_false, beq_iff_eq, decide_eq_true_eq,
    utf8ByteLength, hutf8]
  exact ⟨trivial, ⟨hn, fun unit hu heq => hz' (heq ▸ hu)⟩, hl⟩

/-- The fields of an answer in a message. -/
def postedAnswer (answer : AnswerState) : AnswerMessage where
  questionId := textOf answer.questionId
  questionRevision := answer.questionRevision.toNat
  sequence := answer.sequence.toNat
  kind := ascii (if answer.kind = .clear then "clear" else "upsert")
  answer := textOf answer.answer
  eventHashHex := hexString answer.eventHash.toList

lemma normalizeAnswerKind_postedAnswer (answer : AnswerState) : normalizeAnswerKind (postedAnswer answer).kind =
      some (if answer.kind = .clear then .clear else .upsert) := by
  simp only [postedAnswer]
  split <;> decide

/-- An answer the page can show. -/
structure Readable (page : ExamPage) (highest : ℕ) (answer : AnswerState) : Prop where
  valid : validAnswerState answer = true
  sequence : answer.sequence.toNat ≤ highest
  questionId : (ofUtf8 answer.questionId).isSome
  question : (page.questionById (textOf answer.questionId)).isSome
  text : (ofUtf8 answer.answer).isSome

section Answers

variable {page : ExamPage} {highest : ℕ}

variable {answer : AnswerState}

lemma Readable.answerMessageOf (h : Readable page highest answer) :
    answerMessageOf answer = some (postedAnswer answer) := by
  simp [Web.answerMessageOf, ofUtf8_eq_textOf h.questionId, ofUtf8_eq_textOf h.text, postedAnswer]

lemma Readable.validateRecoveredAnswer (h : Readable page highest answer) (hhigh : highest ≤ maxSafeInteger) :
    validateRecoveredAnswer page highest (postedAnswer answer) = some (recoveredAnswer answer) := by
  obtain ⟨hques, -, hsequ, hleng, hrevi, hhash, hclear⟩ :=
    validAnswerState_iff.mp h.valid
  have hiden := validIdentifier_of_validText hques (ofUtf8_eq_textOf h.questionId)
  have hiden' : (validIdentifier (.string (textOf answer.questionId)) 128 false).isNone =
      false := by
    rw [show 128 = kMaximumQuestionIdBytes from rfl, hiden]
    rfl
  have hknown : (page.questionById (textOf answer.questionId)).isNone = false := by
    simpa using h.question
  have hposi : 0 < answer.sequence.toNat :=
    Nat.pos_of_ne_zero fun hzero => hsequ (UInt64.toNat_inj.mp hzero)
  have hrevi' : 0 < answer.questionRevision.toNat :=
    Nat.pos_of_ne_zero fun hzero => hrevi (UInt32.toNat_inj.mp hzero)
  have hrevis : answer.questionRevision.toNat ≤ 0xffffffff :=
    Nat.le_of_lt_succ answer.questionRevision.toNat_lt
  have hsafe : isSafePositive answer.questionRevision.toNat :=
    isSafePositive_iff.mpr ⟨hrevi', hrevis.trans (by decide)⟩
  have hsafeS : isSafePositive answer.sequence.toNat :=
    isSafePositive_iff.mpr ⟨hposi, h.sequence.trans hhigh⟩
  have hbytes : utf8ByteLength (textOf answer.answer) ≤ MAX_ANSWER_BYTES := by
    rw [utf8ByteLength, utf8_textOf h.text]
    exact hleng
  have hkind : ((if answer.kind = .clear then PageKind.clear else .upsert) == .finalize) = false := by
    split <;> rfl
  have hempty : ((if answer.kind = .clear then PageKind.clear else .upsert) == .clear &&
      !(textOf answer.answer).isEmpty) = false := by
    split
    · rename_i hclear'
      rw [hclear hclear']
      rfl
    · rfl
  have hhash' : normalizeNonZeroHex (hexString answer.eventHash.toList) 32 = hexString answer.eventHash.toList := by
    rw [normalizeNonZeroHex_hexString, hhash]
    rfl
  have hnone : (hexString answer.eventHash.toList).isEmpty = false := by
    rw [isEmpty_eq_false_iff, ← length_pos_iff, length_hexString, Block.length_toList]
    omega
  simp only [Web.validateRecoveredAnswer, normalizeAnswerKind_postedAnswer]
  simp only [postedAnswer, hiden', hknown, hsafe, hsafeS, hkind, hempty, hhash',
    hnone, decide_eq_false (Nat.not_lt.mpr hrevis),
    decide_eq_false (Nat.not_lt.mpr h.sequence), decide_eq_false (Nat.not_lt.mpr hbytes),
    gt_iff_lt, Bool.not_true, Bool.or_false, Bool.false_eq_true, if_false]
  rfl

lemma validateRecoveredAnswers_posted {answers : List AnswerState} (hh : highest ≤ maxSafeInteger)
    (hr : ∀ answer ∈ answers, Readable page highest answer) : ∀ {questionIds : List Utf16} {sequences : List ℕ},
      (questionIds ++ answers.map (recoveredAnswer · |>.questionId)).Nodup →
      (sequences ++ answers.map (recoveredAnswer · |>.sequence)).Nodup →
      validateRecoveredAnswers page highest questionIds sequences (answers.map postedAnswer) =
        some (answers.map recoveredAnswer) := by
  induction answers with
  | nil =>
    intro _ _ _ _
    rfl
  | cons answer rest ih =>
    intro questionIds sequences hq hs
    have han := (hr answer (by simp)).validateRecoveredAnswer hh
    rw [map_cons, nodup_middle, nodup_cons] at hq hs
    have hn : (questionIds.contains (recoveredAnswer answer).questionId ||
        sequences.contains (recoveredAnswer answer).sequence) = false := by
      simp only [Bool.or_eq_false_iff, contains_eq_mem, decide_eq_false_iff_not]
      exact ⟨fun hm => hq.1 (mem_append_left _ hm),
        fun hm => hs.1 (mem_append_left _ hm)⟩
    simp only [map_cons, validateRecoveredAnswers, han, hn, Bool.false_eq_true, if_false]
    rw [ih (fun a ha => hr a (by simp [ha]))]
    · rfl
    · exact nodup_cons.mpr hq
    · exact nodup_cons.mpr hs

lemma answersWithinLimits_eq_true {answers : List RecoveredAnswer} :
    ∀ {questionIds : List Utf16} {sequences : List ℕ} {answerBytes : ℕ},
      (questionIds ++ answers.map RecoveredAnswer.questionId).Nodup →
      (sequences ++ answers.map RecoveredAnswer.sequence).Nodup →
      answerBytes + (answers.map fun answer => boundedJsonSize answer.json).sum ≤ MAX_DURABLE_BYTES →
      answersWithinLimits questionIds sequences answerBytes answers := by
  induction answers with
  | nil =>
    intro _ _ _ _ _ _
    rfl
  | cons answer rest ih =>
    intro questionIds sequences answerBytes hq hs hb
    rw [map_cons, nodup_middle, nodup_cons] at hq hs
    rw [map_cons, sum_cons, ← Nat.add_assoc] at hb
    have hn : (questionIds.contains answer.questionId || sequences.contains answer.sequence) = false := by
      simp only [Bool.or_eq_false_iff, contains_eq_mem, decide_eq_false_iff_not]
      exact ⟨fun hm => hq.1 (mem_append_left _ hm),
        fun hm => hs.1 (mem_append_left _ hm)⟩
    simp only [answersWithinLimits, hn, Bool.false_eq_true, if_false]
    rw [if_neg (Nat.not_lt.mpr ((Nat.le_add_right _ _).trans hb))]
    exact ih (nodup_cons.mpr hq) (nodup_cons.mpr hs) hb

end Answers

/-! ## One chunk -/

/-- The answers of a chunk. -/
def chunkAnswers (response : StateResponse) (index : ℕ) : List AnswerState :=
  (answerChunks response)[index]?.getD []

/-- The message of a chunk, in the page's own terms. -/
def postedChunk (page : ExamPage) (response : StateResponse) (index : ℕ) : StateMessage where
  packageId := page.context.packageId
  packageDigestHex := hexString response.packageDigest.toList
  clientIdHex := hexString response.clientId.toList
  sessionIdHex := hexString response.sessionId.toList
  candidateId := page.context.candidateId
  highestContiguousSequence := response.highestContiguousSequence.toNat
  finalized := response.finalized
  stateHashHex := hexString response.stateHash.toList
  lastEventHashHex := hexString response.lastEventHash.toList
  chunkIndex := index
  chunkCount := (answerChunks response).length
  answers := (chunkAnswers response index).map postedAnswer

/-- A response for nothing at all: the journal has neither a hash nor a final answer for it. -/
def BlankAtZero (response : StateResponse) : Prop :=
  response.highestContiguousSequence = 0 → allZero response.stateHash.toList = true ∧ response.finalized = false

variable {index : ℕ}

lemma chunkAnswers_of_lt {response : StateResponse} (hi : index < (answerChunks response).length) :
    chunkAnswers response index = (answerChunks response)[index] := by
  rw [chunkAnswers, getElem?_eq_getElem hi, Option.getD_some]

lemma sublist_chunkAnswers {response : StateResponse} (hi : index < (answerChunks response).length) :
    (chunkAnswers response index).Sublist response.answers := by
  have hm : chunkAnswers response index ∈ answerChunks response := by
    rw [chunkAnswers_of_lt hi]
    exact getElem_mem hi
  have hs := sublist_flatten_of_mem hm
  rwa [flatten_answerChunks] at hs

lemma mapM_eq_some_map {α β : Type} {f : α → Option β} {g : α → β} {list : List α}
    (h : ∀ item ∈ list, f item = some (g item)) : list.mapM f = some (list.map g) := by
  induction list with
  | nil => rfl
  | cons item rest ih =>
    rw [mapM_cons, h item (by simp), ih fun other ho => h other (by simp [ho])]
    rfl

lemma watermarkHash_hexString {hash : Digest} {highest : ℕ} (h : allZero hash.toList = decide (highest = 0)) :
    watermarkHash (hexString hash.toList) highest = some (hexString hash.toList) := by
  have hn : (hexString hash.toList).isEmpty = false := by
    rw [isEmpty_eq_false_iff, ← length_pos_iff, length_hexString, Block.length_toList]
    omega
  have ha : (hexString hash.toList).all (· == 48) = decide (highest = 0) := by
    rw [← h, Bool.eq_iff_iff, all_hexString_iff]
  simp only [watermarkHash, normalizeHex_hexString, hn, ha]
  by_cases hz : highest = 0
  · simp [hz]
  · simp [hz]

namespace Deliverable

variable {page : ExamPage} {response : StateResponse}

lemma chunkable (h : Deliverable page response) : Chunkable response :=
  encodeStateResponseChunks_ne_nil_iff.mp h.chunks

lemma length_chunks (h : Deliverable page response) :
    (encodeStateResponseChunks response).length = (answerChunks response).length := by
  rw [encodeStateResponseChunks_of_chunkable h.chunkable, length_mapIdx]

lemma readable (h : Deliverable page response) {answer : AnswerState} (ha : answer ∈ response.answers) :
    Readable page response.highestContiguousSequence.toNat answer := by
  obtain ⟨hv, hs⟩ := h.chunkable.answers.valid answer ha
  exact ⟨hv, UInt64.le_iff_toNat_le.mp hs, (h.questions answer ha).1,
    (h.questions answer ha).2, h.texts answer ha⟩

lemma nodup_questionIds (h : Deliverable page response) :
    (response.answers.map (recoveredAnswer · |>.questionId)).Nodup := by
  refine List.Nodup.of_map utf8 ?_
  rw [map_map]
  have hb : response.answers.map (utf8 ∘ (recoveredAnswer · |>.questionId)) =
      response.answers.map AnswerState.questionId := by
    refine map_congr_left ?_
    intro answer ha
    exact utf8_textOf (h.readable ha).questionId
  rw [hb]
  exact h.chunkable.answers.questions

lemma nodup_sequences (h : Deliverable page response) :
    (response.answers.map (recoveredAnswer · |>.sequence)).Nodup := by
  have hs := h.chunkable.answers.sequences.map (f := UInt64.toNat) fun _ _ he => UInt64.toNat_inj.mp he
  rwa [map_map] at hs

variable {index : ℕ}

lemma chunkMessage (h : Deliverable page response) (hi : index < (answerChunks response).length) :
    chunkMessage response index = some (postedChunk page response index) := by
  have hc := h.chunkable.chunks
  simp only [kMaximumStateChunks] at hc
  have hd := congrArg (·[index]?) (map_decode_encodeStateResponseChunks h.chunkable)
  simp only [getElem?_map, decodedChunks, getElem?_mapIdx,
    getElem?_eq_getElem hi, Option.map_some] at hd
  obtain ⟨wire, hw, hde⟩ := Option.map_eq_some_iff.mp hd
  rw [← chunkAnswers_of_lt hi] at hde
  have ha : (chunkAnswers response index).mapM answerMessageOf =
      some ((chunkAnswers response index).map postedAnswer) := by
    refine mapM_eq_some_map ?_
    intro answer han
    exact (h.readable ((sublist_chunkAnswers hi).subset han)).answerMessageOf
  simp only [Web.chunkMessage, hw, hde, stateMessageOf, StateResponse.chunk, h.packageId,
    h.candidateId, ha, Option.bind_eq_bind, Option.bind_some, postedChunk]
  rw [UInt16.toNat_ofNat_of_lt' (by simp only [UInt16.size]; omega),
    UInt16.toNat_ofNat_of_lt' (by simp only [UInt16.size]; omega)]

lemma chunkMetadata (h : Deliverable page response) (hblank : BlankAtZero response)
    (hindex : index < (answerChunks response).length) :
    chunkMetadata page (postedChunk page response index) = some (stateMetadata page response) := by
  have hhead := h.chunkable.header
  have hcount : (answerChunks response).length ≤ MAX_STATE_CHUNKS := h.chunkable.chunks
  have hsafe : (answerChunks response).length ≤ maxSafeInteger := hcount.trans (by decide)
  have hposi : ¬ (answerChunks response).length < 1 := by omega
  have hentr : ((chunkAnswers response index).map postedAnswer).length ≤ MAX_STATE_ANSWERS := by
    rw [length_map]
    exact (sublist_chunkAnswers hindex).length_le.trans
      (validStateResponseMetadata_iff.mp h.chunkable.metadata).2.2.2.2
  have hpack : validIdentifier (.string page.context.packageId) 128 false =
      some page.context.packageId := validIdentifier_of_validText hhead.packageId h.packageId
  have hcand : validIdentifier (.string page.context.candidateId) 128 false =
      some page.context.candidateId := validIdentifier_of_validText hhead.candidateId h.candidateId
  have hdige : normalizeNonZeroHex (hexString response.packageDigest.toList) 32 =
      page.context.packageDigestHex := by
    rw [← h.packageDigest, page.context.packageDigestNormal]
  have hclie : normalizeNonZeroHex (hexString response.clientId.toList) 16 =
      page.context.clientIdHex := by
    rw [← h.clientId, page.context.clientIdNormal]
  have hsess : normalizeNonZeroHex (hexString response.sessionId.toList) 16 =
      page.context.sessionIdHex := by
    rw [← h.sessionId, page.context.sessionIdNormal]
  have hsessi : page.context.sessionIdHex.isEmpty = false := by
    rw [h.sessionId, isEmpty_eq_false_iff, ← length_pos_iff, length_hexString, Block.length_toList]
    omega
  have hcurs : allZero response.stateHash.toList =
        decide (response.highestContiguousSequence.toNat = 0) ∧
      allZero response.lastEventHash.toList =
        decide (response.highestContiguousSequence.toNat = 0) := by
    have hheade := hhead.cursor
    by_cases hzero : response.highestContiguousSequence = 0
    · rw [if_pos hzero] at hheade
      simp [hzero, hheade, (hblank hzero).1]
    · rw [if_neg hzero] at hheade
      have hzero' : response.highestContiguousSequence.toNat ≠ 0 :=
        fun heq => hzero (UInt64.toNat_inj.mp heq)
      simp [hzero', hheade]
  have hfina : (response.finalized && response.highestContiguousSequence.toNat == 0) = false := by
    by_cases hzero : response.highestContiguousSequence = 0
    · rw [(hblank hzero).2]
      rfl
    · have hzero' : response.highestContiguousSequence.toNat ≠ 0 :=
        fun heq => hzero (UInt64.toNat_inj.mp heq)
      simp [hzero']
  have hstat : (hexString response.stateHash.toList).isEmpty = false := by
    rw [isEmpty_eq_false_iff, ← length_pos_iff, length_hexString, Block.length_toList]
    omega
  simp only [Web.chunkMetadata, postedChunk, gt_iff_lt, ge_iff_le,
    decide_eq_false (Nat.not_lt.mpr (hindex.le.trans hsafe)), decide_eq_false (Nat.not_lt.mpr hsafe),
    decide_eq_false (Nat.not_lt.mpr hcount), decide_eq_false (Nat.not_le.mpr hindex),
    decide_eq_false (Nat.not_lt.mpr hentr), decide_eq_false (Nat.not_lt.mpr h.highest),
    hpack, hcand, hdige, hclie, hsess, h.manifestId, hsessi, hfina,
    watermarkHash_hexString hcurs.1, watermarkHash_hexString hcurs.2, hstat,
    bne_self_eq_false, Option.isNone_some, Bool.or_false, Bool.and_false, Bool.false_eq_true,
    if_false, stateMetadata]
  exact if_neg fun hnone => hposi (of_decide_eq_true hnone)

lemma validateRecoveredAnswers (h : Deliverable page response) (hi : index < (answerChunks response).length) :
    validateRecoveredAnswers page response.highestContiguousSequence.toNat [] []
        ((chunkAnswers response index).map postedAnswer) =
      some ((chunkAnswers response index).map recoveredAnswer) := by
  have hs := sublist_chunkAnswers hi
  refine validateRecoveredAnswers_posted h.highest ?_ ?_ ?_
  · intro answer ha
    exact h.readable (hs.subset ha)
  · exact h.nodup_questionIds.sublist (hs.map _)
  · exact h.nodup_sequences.sublist (hs.map _)

end Deliverable

/-! ## The collection -/

/-- A chunk as the collection keeps it. -/
def collectedChunk (response : StateResponse) (index : ℕ) : CollectedChunk where
  highestContiguousSequence := response.highestContiguousSequence.toNat
  finalized := response.finalized
  answers := (chunkAnswers response index).map recoveredAnswer

/-- The collection of a state once the chunks `seen` have come. -/
def collecting (page : ExamPage) (response : StateResponse) (createdAt : ℕ) (seen : List ℕ) :
    StateChunks where
  key := chunkKey (stateMetadata page response)
  count := (answerChunks response).length
  createdAt := createdAt
  chunks := seen.map fun index => (index, collectedChunk response index)
  answerCount := (seen.map fun index => (chunkAnswers response index).length).sum

section Collecting

variable {page : ExamPage} {response : StateResponse} {createdAt : ℕ} {seen : List ℕ}

lemma lookup_collecting (index : ℕ) : (collecting page response createdAt seen).chunks.lookup index =
      if index ∈ seen then some (collectedChunk response index) else none := by
  simp only [collecting]
  induction seen with
  | nil => rfl
  | cons first rest ih =>
    rw [map_cons, lookup_cons, ih]
    by_cases he : index = first
    · simp [he]
    · simp [he, beq_eq_false_iff_ne.mpr he]

variable {count : ℕ}

lemma subperm_range (hn : seen.Nodup) (hs : ∀ index ∈ seen, index < count) : seen.Subperm (range count) :=
  subperm_of_subset hn fun index hi => mem_range.mpr (hs index hi)

lemma length_eq_iff_of_nodup (hnodup : seen.Nodup) (hseen : ∀ index ∈ seen, index < count) :
    seen.length = count ↔ ∀ index < count, index ∈ seen := by
  constructor
  · intro hleng index hindex
    have hperm := (subperm_range hnodup hseen).perm_of_length_le (by simp [hleng])
    exact hperm.mem_iff.mpr (mem_range.mpr hindex)
  · intro hall
    have hback : (range count).Subperm seen :=
      subperm_of_subset nodup_range fun index hindex => hall index (mem_range.mp hindex)
    have hle := (subperm_range hnodup hseen).length_le
    have hge := hback.length_le
    rw [length_range] at hle hge
    exact Nat.le_antisymm hle hge

/-- The chunks that have come, with one more. -/
def arrive (seen : List ℕ) (index : ℕ) : List ℕ := if index ∈ seen then seen else seen ++ [index]

variable {index : ℕ}

lemma mem_arrive {i : ℕ} : i ∈ arrive seen index ↔ i ∈ seen ∨ i = index := by
  simp only [arrive]
  split
  · rename_i hm
    exact ⟨.inl, fun h => h.elim id fun he => he ▸ hm⟩
  · simp

lemma nodup_arrive (hn : seen.Nodup) : (arrive seen index).Nodup := by
  simp only [arrive]
  split
  · exact hn
  · rename_i hne
    rw [← concat_eq_append]
    exact hn.concat hne

lemma arrive_lt (hs : ∀ i ∈ seen, i < count) (hin : index < count) : ∀ i ∈ arrive seen index, i < count := by
  intro i hi
  rcases mem_arrive.mp hi with hi | rfl
  · exact hs i hi
  · exact hin

lemma flatMap_chunkAnswers (response : StateResponse) :
    (range (answerChunks response).length).flatMap (chunkAnswers response) = response.answers := by
  have hc : (range (answerChunks response).length).map (chunkAnswers response) =
      answerChunks response := by
    refine ext_getElem (by simp) ?_
    intro index hl hr
    rw [getElem_map, getElem_range, chunkAnswers_of_lt hr]
  rw [flatMap_def, hc, flatten_answerChunks]

lemma answerCount_collecting_le (hn : seen.Nodup) (hs : ∀ index ∈ seen, index < (answerChunks response).length) :
    (collecting page response createdAt seen).answerCount ≤ response.answers.length := by
  obtain ⟨part, hp, hsu⟩ := subperm_range hn hs
  rw [← flatMap_chunkAnswers response, length_flatMap]
  simp only [collecting]
  rw [← (hp.map _).sum_eq]
  exact (hsu.map _).sum_le_sum fun _ _ => Nat.zero_le _

lemma addChunk_collecting (hc : (collecting page response createdAt (arrive seen index)).answerCount ≤
      MAX_STATE_ANSWERS) : addChunk (collecting page response createdAt seen) index (collectedChunk response index) =
      some (collecting page response createdAt (arrive seen index)) := by
  by_cases hm : index ∈ seen
  · simp only [addChunk, lookup_collecting, if_pos hm, bne_self_eq_false, Bool.false_eq_true, if_false, arrive]
  · rw [arrive, if_neg hm] at hc ⊢
    have hs : (collecting page response createdAt seen).answerCount +
          (collectedChunk response index).answers.length =
        (collecting page response createdAt (seen ++ [index])).answerCount := by
      simp [collecting, collectedChunk]
    simp only [addChunk, lookup_collecting, if_neg hm, hs]
    rw [if_neg (Nat.not_lt.mpr hc)]
    simp [collecting]

lemma joinChunks_collecting (h : Deliverable page response)
    (ha : ∀ index < (answerChunks response).length, index ∈ seen) :
    joinChunks (collecting page response createdAt seen) (stateMetadata page response) =
      some (completeState page response) := by
  have hc : (range (answerChunks response).length).mapM
        (fun index => (collecting page response createdAt seen).chunks.lookup index) =
      some ((range (answerChunks response).length).map (collectedChunk response)) := by
    refine mapM_eq_some_map ?_
    intro index hi
    rw [lookup_collecting, if_pos (ha index (mem_range.mp hi))]
  have han : ((range (answerChunks response).length).map
      (collectedChunk response)).flatMap CollectedChunk.answers =
        response.answers.map recoveredAnswer := by
    rw [← flatMap_chunkAnswers response, flatMap_map, map_flatMap]
    rfl
  have hl : answersWithinLimits [] [] 0 (response.answers.map recoveredAnswer) := by
    refine answersWithinLimits_eq_true ?_ ?_ ?_
    · rw [nil_append, map_map]
      exact h.nodup_questionIds
    · rw [nil_append, map_map]
      exact h.nodup_sequences
    · rw [map_map, Nat.zero_add]
      exact h.bytes
  have hf : (collecting page response createdAt seen).chunks.lookup 0 = some (collectedChunk response 0) := by
    have hp : 0 < (answerChunks response).length :=
      length_pos_iff.mpr (packAnswers_ne_nil _ _ _ _)
    rw [lookup_collecting, if_pos (ha 0 hp)]
  simp only [joinChunks]
  rw [show (collecting page response createdAt seen).count = (answerChunks response).length from rfl, hc]
  simp only [han, hl, hf, Bool.not_true, Bool.false_eq_true, if_false, Option.map_some]
  rfl

variable {now : ℕ}

/-- **One chunk.**  The chunk is added, unless it is there already, and the last one completes the
state. -/
lemma collectStateChunk_collecting (h : Deliverable page response) (hblank : BlankAtZero response)
    (hnow : now - createdAt ≤ collectionWindow) (hnodup : seen.Nodup)
    (hseen : ∀ index ∈ seen, index < (answerChunks response).length)
    (hinco : seen.length ≠ (answerChunks response).length) (hindex : index < (answerChunks response).length) :
    collectStateChunk page now (some (collecting page response createdAt seen)) (postedChunk page response index) =
      if (arrive seen index).length = (answerChunks response).length then (none, some (completeState page response))
      else (some (collecting page response createdAt (arrive seen index)), none) := by
  have hmeta := h.chunkMetadata hblank hindex
  have hansw : validateRecoveredAnswers page (postedChunk page response index).highestContiguousSequence [] []
      (postedChunk page response index).answers =
        some ((chunkAnswers response index).map recoveredAnswer) := h.validateRecoveredAnswers hindex
  have hcount : (postedChunk page response index).chunkCount = (answerChunks response).length := rfl
  simp only [collectStateChunk, hmeta, hansw, hcount]
  by_cases hone : (answerChunks response).length = 1
  · -- the only chunk is the state
    have hnil : seen = [] := by
      have hle := (subperm_range hnodup hseen).length_le
      rw [length_range] at hle
      exact length_eq_zero_iff.mp (by omega)
    have hzero : index = 0 := by omega
    have hwhole : chunkAnswers response 0 = response.answers := by
      have hflat := flatMap_chunkAnswers response
      rw [hone] at hflat
      simpa using hflat
    subst hnil hzero
    rw [if_pos (by simp [hone]), if_pos (by simp [arrive, hone]), hwhole]
    rfl
  · have hsame : (if (collecting page response createdAt seen).key != chunkKey (stateMetadata page response) ||
        (collecting page response createdAt seen).count != (answerChunks response).length ||
        decide (now - (collecting page response createdAt seen).createdAt > collectionWindow) then
          (⟨chunkKey (stateMetadata page response), (answerChunks response).length, now, [], 0⟩ : StateChunks)
        else collecting page response createdAt seen) = collecting page response createdAt seen := by
      rw [if_neg]
      simpa [collecting] using hnow
    have hchunk : (⟨(postedChunk page response index).highestContiguousSequence,
        (postedChunk page response index).finalized,
        (chunkAnswers response index).map recoveredAnswer⟩ : CollectedChunk) =
          collectedChunk response index := rfl
    have hnodup' : (arrive seen index).Nodup := nodup_arrive hnodup
    have hseen' := arrive_lt hseen hindex
    have hentr := (@answerCount_collecting_le page _ createdAt _ hnodup' hseen').trans
      (validStateResponseMetadata_iff.mp h.chunkable.metadata).2.2.2.2
    have hleng : (collecting page response createdAt (arrive seen index)).chunks.length =
        (arrive seen index).length := length_map _
    rw [if_neg (by simpa using hone), hsame, hchunk,
      show (postedChunk page response index).chunkIndex = index from rfl,
      addChunk_collecting hentr]
    simp only [hleng]
    by_cases hlast : (arrive seen index).length = (answerChunks response).length
    · have hall := (length_eq_iff_of_nodup hnodup' hseen').mp hlast
      rw [if_neg (by simpa using hlast), if_pos hlast, joinChunks_collecting h hall]
    · rw [if_pos (by simpa using hlast), if_neg hlast]

lemma collectStateChunk_startsAnew (h : Deliverable page response) (hb : BlankAtZero response)
    {current : Option StateChunks} (hi : index < (answerChunks response).length)
    (ha : StartsAnew page now current (postedChunk page response index)) :
    collectStateChunk page now current (postedChunk page response index) =
      collectStateChunk page now (some (collecting page response now [])) (postedChunk page response index) := by
  have hm := h.chunkMetadata hb hi
  have han : validateRecoveredAnswers page (postedChunk page response index).highestContiguousSequence [] []
      (postedChunk page response index).answers =
        some ((chunkAnswers response index).map recoveredAnswer) := h.validateRecoveredAnswers hi
  have hf : (⟨chunkKey (stateMetadata page response), (postedChunk page response index).chunkCount,
      now, [], 0⟩ : StateChunks) = collecting page response now [] := rfl
  simp only [collectStateChunk, hm, han, hf, ite_self]
  cases current with
  | none => rfl
  | some collection =>
    have ho : (collection.key != chunkKey (stateMetadata page response) ||
        collection.count != (postedChunk page response index).chunkCount ||
        decide (now - collection.createdAt > collectionWindow)) := by
      simp only [Bool.or_eq_true, bne_iff_ne, decide_eq_true_eq, or_assoc]
      exact ha collection rfl _ hm
    simp only [ho, if_true]

/-- **The deliveries of a state.**  From a collection that is not full, the state is given out at the
delivery that completes it and not before. -/
lemma collectStateChunks_collecting (h : Deliverable page response) (hblank : BlankAtZero response)
    {deliveries : List (ℕ × StateMessage)}
    (hdeli : ∀ delivery ∈ deliveries, delivery.1 - createdAt ≤ collectionWindow ∧
      ∃ index < (answerChunks response).length, delivery.2 = postedChunk page response index) :
    ∀ {seen : List ℕ}, seen.Nodup → (∀ index ∈ seen, index < (answerChunks response).length) →
      seen.length ≠ (answerChunks response).length → (∀ index < (answerChunks response).length,
        index ∈ seen ∨ ∃ delivery ∈ deliveries, delivery.2.chunkIndex = index) →
      ∃ earlier last later, deliveries = earlier ++ last :: later ∧ (∃ index < (answerChunks response).length,
          index ∉ seen ∧ ∀ delivery ∈ earlier, delivery.2.chunkIndex ≠ index) ∧
        (∀ index < (answerChunks response).length,
          index ∈ seen ∨ ∃ delivery ∈ earlier ++ [last], delivery.2.chunkIndex = index) ∧
        collectStateChunks page (some (collecting page response createdAt seen)) (earlier ++ [last]) =
          replicate earlier.length none ++ [some (completeState page response)] := by
  induction deliveries with
  | nil =>
    intro seen hnodup hseen hinco hcove
    refine absurd ((length_eq_iff_of_nodup hnodup hseen).mpr ?_) hinco
    intro index hindex
    simpa using hcove index hindex
  | cons delivery rest ih =>
    intro seen hnodup hseen hinco hcove
    obtain ⟨now, message⟩ := delivery
    obtain ⟨hnow, index, hindex, rfl⟩ := hdeli _ (mem_cons_self ..)
    have hrest := fun d hd => hdeli d (mem_cons_of_mem _ hd)
    have hstep := collectStateChunk_collecting h hblank hnow hnodup hseen hinco hindex
    have hnodup' : (arrive seen index).Nodup := nodup_arrive hnodup
    have hseen' := arrive_lt hseen hindex
    by_cases hlast : (arrive seen index).length = (answerChunks response).length
    · -- this delivery completes the state
      rw [if_pos hlast] at hstep
      have hall := (length_eq_iff_of_nodup hnodup' hseen').mp hlast
      refine ⟨[], (now, postedChunk page response index), rest, rfl, ⟨index, hindex, ?_, by simp⟩,
        ?_, ?_⟩
      · intro hmem
        rw [arrive, if_pos hmem] at hlast
        exact hinco hlast
      · intro i hi
        rcases mem_arrive.mp (hall i hi) with hi | rfl
        · exact .inl hi
        · exact .inr ⟨_, mem_singleton_self _, rfl⟩
      · simp only [nil_append, collectStateChunks, hstep, length_nil, replicate_zero]
    · rw [if_neg hlast] at hstep
      have hcove' : ∀ i < (answerChunks response).length,
          i ∈ arrive seen index ∨ ∃ delivery ∈ rest, delivery.2.chunkIndex = i := by
        intro i hi
        rcases hcove i hi with hi | ⟨delivery, hdeliv, rfl⟩
        · exact .inl (mem_arrive.mpr (.inl hi))
        · rcases mem_cons.mp hdeliv with rfl | hdeliv
          · exact .inl (mem_arrive.mpr (.inr rfl))
          · exact .inr ⟨delivery, hdeliv, rfl⟩
      obtain ⟨earlier, last, later, hsplit, ⟨i, hi, hnew, hmiss⟩, hcomp, hrun⟩ :=
        ih hrest hnodup' hseen' hlast hcove'
      refine ⟨(now, postedChunk page response index) :: earlier, last, later, ?_,
        ⟨i, hi, fun hmem => hnew (mem_arrive.mpr (.inl hmem)), ?_⟩, ?_, ?_⟩
      · rw [hsplit, cons_append]
      · intro delivery hdeliv
        rcases mem_cons.mp hdeliv with rfl | hdeliv
        · rintro rfl
          exact hnew (mem_arrive.mpr (.inr rfl))
        · exact hmiss delivery hdeliv
      · intro j hj
        rcases hcomp j hj with hj | ⟨delivery, hdeliv, heq⟩
        · rcases mem_arrive.mp hj with hj | rfl
          · exact .inl hj
          · exact .inr ⟨_, mem_cons_self .., rfl⟩
        · exact .inr ⟨delivery, mem_cons_of_mem _ hdeliv, heq⟩
      · simp only [cons_append, collectStateChunks, hstep, hrun, length_cons, replicate_succ]

end Collecting

/-! ## Any order -/

lemma Deliverable.covers_iff {page : ExamPage} {response : StateResponse}
    (h : Deliverable page response) {deliveries : List (ℕ × StateMessage)}
    (hd : ∀ delivery ∈ deliveries, ∃ index < (answerChunks response).length,
      delivery.2 = postedChunk page response index) :
    Covers response deliveries ↔ ∀ index < (answerChunks response).length,
      ∃ delivery ∈ deliveries, delivery.2.chunkIndex = index := by
  rw [Covers, h.length_chunks]
  refine forall₂_congr ?_
  intro index hi
  rw [h.chunkMessage hi]
  constructor
  · rintro ⟨delivery, hde, hm⟩
    refine ⟨delivery, hde, ?_⟩
    rw [← Option.some.inj hm]
    rfl
  · rintro ⟨delivery, hde, rfl⟩
    obtain ⟨index, -, hp⟩ := hd delivery hde
    refine ⟨delivery, hde, ?_⟩
    rw [hp]
    rfl

/-- **The order of the chunks does not matter.**  However the chunks of a state reach the page within
the window, the page gets that state at the delivery that completes it and nothing before, and its
answers are those of the chunks, one chunk after the other. -/
theorem stateChunks_any_order {page : ExamPage} {response : StateResponse}
    (h : Deliverable page response) (hblank : BlankAtZero response) :
    (∀ index < (encodeStateResponseChunks response).length, (chunkMessage response index).isSome) ∧
    (completeState page response).answers = ((encodeStateResponseChunks response).filterMap decodeStateResponse).flatMap
        (fun chunk => chunk.answers.map recoveredAnswer) ∧
    (completeState page response).answers = response.answers.map recoveredAnswer ∧
    CompleteFor response (completeState page response) ∧
    ∀ (current : Option StateChunks) (first : ℕ × StateMessage) (rest : List (ℕ × StateMessage)),
      StartsAnew page first.1 current first.2 → (∀ delivery ∈ first :: rest, delivery.1 - first.1 ≤ collectionWindow ∧
        ∃ index < (encodeStateResponseChunks response).length, chunkMessage response index = some delivery.2) →
      Covers response (first :: rest) → ∃ earlier last later, first :: rest = earlier ++ last :: later ∧
        ¬ Covers response earlier ∧ Covers response (earlier ++ [last]) ∧
        collectStateChunks page current (earlier ++ [last]) =
          List.replicate earlier.length none ++ [some (completeState page response)] := by
  refine ⟨?_, ?_, rfl, ⟨rfl, rfl, rfl, rfl⟩, ?_⟩
  · intro index hindex
    rw [h.length_chunks] at hindex
    rw [h.chunkMessage hindex]
    rfl
  · have hdecoded : (encodeStateResponseChunks response).filterMap decodeStateResponse =
        decodedChunks response := by
      have hsome := congrArg (List.filterMap id) (map_decode_encodeStateResponseChunks h.chunkable)
      simpa [List.filterMap_map] using hsome
    rw [hdecoded, ← List.map_flatMap, flatMap_answers_decodedChunks]
    rfl
  · intro current first rest hanew hdeliveries hall
    rw [h.length_chunks] at hdeliveries
    have hposted : ∀ delivery ∈ first :: rest, delivery.1 - first.1 ≤ collectionWindow ∧
        ∃ index < (answerChunks response).length, delivery.2 = postedChunk page response index := by
      intro delivery hdelivery
      obtain ⟨hnow, index, hindex, hmessage⟩ := hdeliveries delivery hdelivery
      rw [h.chunkMessage hindex] at hmessage
      exact ⟨hnow, index, hindex, (Option.some.inj hmessage).symm⟩
    have hindices := (h.covers_iff fun delivery hdelivery => (hposted delivery hdelivery).2).mp hall
    obtain ⟨earlier, last, later, hsplit, ⟨index, hindex, -, hmissing⟩, hcomplete, hrun⟩ :=
      collectStateChunks_collecting h hblank hposted List.nodup_nil (by simp)
        (List.length_pos_iff.mpr (packAnswers_ne_nil _ _ _ _)).ne
        fun index hindex => Or.inr (hindices index hindex)
    have hearlier : ∀ delivery ∈ earlier ++ [last], delivery ∈ first :: rest := by
      intro delivery hdelivery
      rw [hsplit, List.append_cons]
      exact List.mem_append_left _ hdelivery
    refine ⟨earlier, last, later, hsplit, ?_, ?_, ?_⟩
    · rw [h.covers_iff fun delivery hdelivery =>
        (hposted delivery (hearlier delivery (List.mem_append_left _ hdelivery))).2]
      intro hcovers
      obtain ⟨delivery, hdelivery, heq⟩ := hcovers index hindex
      exact hmissing delivery hdelivery heq
    · rw [h.covers_iff fun delivery hdelivery => (hposted delivery (hearlier delivery hdelivery)).2]
      intro i hi
      exact (hcomplete i hi).resolve_left List.not_mem_nil
    · -- the first call finds no collection of this state and begins one
      obtain ⟨tail, htail⟩ : ∃ tail, earlier ++ [last] = first :: tail := by
        cases earlier with
        | nil =>
          rw [List.nil_append] at hsplit
          exact ⟨[], by rw [(List.cons.inj hsplit).1]; rfl⟩
        | cons head tail =>
          rw [List.cons_append] at hsplit
          exact ⟨tail ++ [last], by rw [(List.cons.inj hsplit).1]; rfl⟩
      obtain ⟨-, index, hindex, hfirst⟩ := hposted first (List.mem_cons_self ..)
      obtain ⟨now, message⟩ := first
      obtain rfl : message = postedChunk page response index := hfirst
      rw [← hrun, htail]
      simp only [collectStateChunks, collectStateChunk_startsAnew h hblank hindex hanew]

lemma deliverable_oneAnswerState : Deliverable firstPage oneAnswerState where
  chunks := encodeStateResponseChunks_ne_nil_iff.mpr ⟨by decide, ⟨by decide, by decide, by decide⟩, by decide⟩
  packageId := by decide
  manifestId := rfl
  packageDigest := rfl
  clientId := rfl
  sessionId := rfl
  candidateId := by decide
  highest := by decide
  questions := by decide
  texts := by decide
  bytes := by decide +kernel

lemma idBounds_letter (letter : UInt16) : [letter] ≠ [] ∧ [letter].length ≤ 128 := by simp

lemma revisionBounds_one : 0 < 1 ∧ 1 ≤ 0xffffffff := by decide

/-- A question whose id is a single letter. -/
def letterQuestion (letter : UInt16) : Question where
  id := [letter]
  revision := 1
  idBounds := idBounds_letter letter
  revisionBounds := revisionBounds_one

/-- A page of the questions `fourAnswerState` answers. -/
def fourQuestionPage : ExamPage :=
  { firstPage with
    questions := [letterQuestion 0x71, letterQuestion 0x72, letterQuestion 0x73, letterQuestion 0x74] }

lemma ofUtf8_replicate (n : ℕ) : ofUtf8 (replicate n 65) = some (replicate n 65) := by
  induction n with
  | zero => rfl
  | succ n ih =>
    rw [replicate_succ, ofUtf8.eq_def]
    simp [ih, scalarUnits, replicate_succ]

/-- An answer takes a fourth of what the page holds at most. -/
lemma boundedJsonSize_recoveredAnswer {answer : AnswerState} (hv : validAnswerState answer)
    (hq : (ofUtf8 answer.questionId).isSome) (ht : (ofUtf8 answer.answer).isSome)
    (hs : answer.sequence.toNat ≤ maxSafeInteger) :
    boundedJsonSize (recoveredAnswer answer).json ≤ MAX_DURABLE_BYTES / 4 := by
  obtain ⟨hid, -, -, hl, -⟩ := validAnswerState_iff.mp hv
  have hid' := (validText_iff.mp hid).2.1
  rw [← utf8_textOf hq] at hid'
  rw [← utf8_textOf ht] at hl
  have hkind : utf8ByteLength (recoveredAnswer answer).kind.name ≤ 8 := by
    simp only [recoveredAnswer]
    split_ifs <;> decide
  have hhash : utf8ByteLength (hexString answer.eventHash.toList) ≤ 192 := by
    have hb := utf8ByteLength_le (hexString answer.eventHash.toList)
    rwa [length_hexString, Block.length_toList] at hb
  have hrevision : answer.questionRevision.toNat ≤ maxSafeInteger :=
    answer.questionRevision.toNat_lt.le.trans (by decide)
  have h1 := @memberLength_string_le (ascii "questionId") _ _ (by decide) hid'
  have h2 := @memberLength_number_le (ascii "questionRevision") _ (by decide) hrevision
  have h3 := @memberLength_number_le (ascii "sequence") _ (by decide) hs
  have h4 := @memberLength_string_le (ascii "kind") _ 8 (by decide) hkind
  have h5 := @memberLength_string_le (ascii "answer") _ _ (by decide) hl
  have h6 := @memberLength_string_le (ascii "eventHashHex") _ _ (by decide) hhash
  have hjson : (recoveredAnswer answer).json.stringify.length ≤ 110000 := by
    refine (length_stringify_object_le _).trans ?_
    simp only [map_append, sum_append, map_cons, map_nil, sum_cons, sum_nil]
    simp only [kMaximumAnswerBytes, kMaximumQuestionIdBytes] at h1 h5
    have hoptional : ∀ (absent : Prop) [Decidable absent], ((if absent then [] else
        [(ascii "eventHashHex", Json.string (hexString answer.eventHash.toList))]).map memberLength).sum ≤
          6 * 192 + 200 := by
      intro absent _
      split_ifs
      · exact Nat.zero_le _
      · exact h6
    simp only [recoveredAnswer] at h4 ⊢
    refine (Nat.add_le_add_right (Nat.add_le_add_left (hoptional _) _) 2).trans ?_
    omega
  have hsize := utf8ByteLength_le (recoveredAnswer answer).json.stringify
  simp only [boundedJsonSize, MAX_DURABLE_BYTES]
  omega

lemma readable_fourAnswerState : ∀ answer ∈ fourAnswerState.answers, ((ofUtf8 answer.questionId).isSome ∧
      (fourQuestionPage.questionById (textOf answer.questionId)).isSome) ∧ (ofUtf8 answer.answer).isSome := by
  simp only [fourAnswerState, forall_mem_cons, longAnswerState, ofUtf8_replicate, Option.isSome_some]
  refine ⟨by decide, by decide, by decide, by decide, ?_⟩
  intro answer hanswer
  cases hanswer

/-- `fourAnswerState` is deliverable to the page. -/
lemma deliverable_fourAnswerState : Deliverable fourQuestionPage fourAnswerState where
  chunks := encodeStateResponseChunks_ne_nil_iff.mpr chunkable_fourAnswerState
  packageId := by decide
  manifestId := rfl
  packageDigest := rfl
  clientId := rfl
  sessionId := rfl
  candidateId := by decide
  highest := by decide
  questions := fun answer hanswer => (readable_fourAnswerState answer hanswer).1
  texts := fun answer hanswer => (readable_fourAnswerState answer hanswer).2
  bytes := by
    have hsize : ∀ size ∈ fourAnswerState.answers.map fun answer => boundedJsonSize (recoveredAnswer answer).json,
        size ≤ MAX_DURABLE_BYTES / 4 := by
      intro size hmem
      obtain ⟨answer, hanswer, rfl⟩ := mem_map.mp hmem
      obtain ⟨hvalid, hsequence⟩ := chunkable_fourAnswerState.answers.valid answer hanswer
      exact boundedJsonSize_recoveredAnswer hvalid (readable_fourAnswerState answer hanswer).1.1
        (readable_fourAnswerState answer hanswer).2
        ((UInt64.le_iff_toNat_le.mp hsequence).trans (by decide))
    exact (sum_le_card_nsmul _ _ hsize).trans (by rw [length_map]; decide)

/-- Two chunks of a state, the second of which comes first and then again after a second. -/
theorem stateChunks_any_order_fourAnswerState : ∃ zeroth first, chunkMessage fourAnswerState 0 = some zeroth ∧
      chunkMessage fourAnswerState 1 = some first ∧
      collectStateChunks fourQuestionPage none [(0, first), (1000, first), (2000, zeroth)] =
        [none, none, some (completeState fourQuestionPage fourAnswerState)] ∧
      (completeState fourQuestionPage fourAnswerState).answers = fourAnswerState.answers.map recoveredAnswer := by
  have hblank : BlankAtZero fourAnswerState := fun hzero => absurd hzero (by decide)
  obtain ⟨hposted, -, hanswers, -, hany⟩ := stateChunks_any_order deliverable_fourAnswerState hblank
  have hlength : (encodeStateResponseChunks fourAnswerState).length = 2 := by
    rw [deliverable_fourAnswerState.length_chunks, answerChunks_fourAnswerState]
    rfl
  rw [hlength] at hposted hany
  obtain ⟨zeroth, hzeroth⟩ := Option.isSome_iff_exists.mp (hposted 0 (by decide))
  obtain ⟨first, hfirst⟩ := Option.isSome_iff_exists.mp (hposted 1 (by decide))
  have hchunks : (answerChunks fourAnswerState).length = 2 := by
    rw [answerChunks_fourAnswerState]
    rfl
  have hne : zeroth ≠ first := by
    intro heq
    rw [deliverable_fourAnswerState.chunkMessage (by omega), Option.some.injEq] at hzeroth hfirst
    have hindex := congrArg StateMessage.chunkIndex (hzeroth.trans (heq.trans hfirst.symm))
    exact absurd hindex Nat.zero_ne_one
  obtain ⟨earlier, last, later, hsplit, -, hcovers, hrun⟩ :=
    hany none (0, first) [(1000, first), (2000, zeroth)] (fun _ hnone => by cases hnone)
      (by
        intro delivery hdelivery
        simp only [mem_cons, not_mem_nil, or_false] at hdelivery
        rcases hdelivery with rfl | rfl | rfl
        · exact ⟨by simp [collectionWindow], 1, by decide, hfirst⟩
        · exact ⟨by simp [collectionWindow], 1, by decide, hfirst⟩
        · exact ⟨by simp [collectionWindow], 0, by decide, hzeroth⟩)
      (by
        intro index hindex
        rw [hlength] at hindex
        obtain rfl | rfl : index = 0 ∨ index = 1 := by omega
        · exact ⟨(2000, zeroth), by simp, hzeroth⟩
        · exact ⟨(0, first), by simp, hfirst⟩)
  -- chunk 0 comes last, so the state is complete with the last delivery only
  obtain ⟨delivery, hdelivery, hmessage⟩ := hcovers 0 (by rw [hlength]; decide)
  have hlast : delivery.2 = zeroth := Option.some.inj (hmessage.symm.trans hzeroth)
  refine ⟨zeroth, first, hzeroth, hfirst, ?_, hanswers⟩
  rcases earlier with _ | ⟨one, _ | ⟨two, _ | ⟨three, rest⟩⟩⟩
  · obtain ⟨rfl, -⟩ := cons.inj hsplit
    rw [nil_append, mem_singleton] at hdelivery
    exact absurd (hlast.symm.trans (congrArg Prod.snd hdelivery)) hne
  · obtain ⟨rfl, hrest⟩ := cons.inj hsplit
    obtain ⟨rfl, -⟩ := cons.inj hrest
    simp only [cons_append, nil_append, mem_cons, not_mem_nil, or_false] at hdelivery
    rcases hdelivery with rfl | rfl
    · exact absurd hlast.symm hne
    · exact absurd hlast.symm hne
  · obtain ⟨rfl, hrest⟩ := cons.inj hsplit
    obtain ⟨rfl, htail⟩ := cons.inj hrest
    obtain ⟨rfl, -⟩ := cons.inj htail
    exact hrun
  · have hlength := congrArg length hsplit
    simp only [length_cons, length_append, length_nil] at hlength
    omega

/-- A response with a state hash, although no event has been accepted. -/
def hashedZeroState : StateResponse :=
  { oneAnswerState with
    highestContiguousSequence := 0
    lastEventHash := Block.zero 32
    answers := [] }

/-- The splitter takes such a response, and the page does not: it asks for no hash at zero. -/
theorem stateChunks_hashedZeroState : Deliverable firstPage hashedZeroState ∧
      ∃ message, chunkMessage hashedZeroState 0 = some message ∧ Covers hashedZeroState [(0, message)] ∧
        collectStateChunks firstPage none [(0, message)] = [none] := by
  have hdeliverable : Deliverable firstPage hashedZeroState :=
    { deliverable_oneAnswerState with
      chunks := encodeStateResponseChunks_ne_nil_iff.mpr ⟨by decide, ⟨by decide, by decide, by decide⟩, by decide⟩
      highest := by decide
      questions := by decide
      texts := by decide
      bytes := by decide }
  have hmessage : chunkMessage hashedZeroState 0 =
      some (postedChunk firstPage hashedZeroState 0) := hdeliverable.chunkMessage (by decide)
  have hrefused : chunkMetadata firstPage (postedChunk firstPage hashedZeroState 0) = none := by
    rw [← Option.isNone_iff_eq_none]
    decide +kernel
  refine ⟨hdeliverable, _, hmessage, ?_, ?_⟩
  · intro index hindex
    rw [hdeliverable.length_chunks] at hindex
    obtain rfl : index = 0 := Nat.lt_one_iff.mp hindex
    exact ⟨_, List.mem_singleton_self _, hmessage⟩
  · simp only [collectStateChunks, collectStateChunk, hrefused]

end Nstu.Web
