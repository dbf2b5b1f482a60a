import Nstu.Exam.StateChunks
import Nstu.Web.Durable

/-!
# State responses in the exam page

The server's state reaches the page in chunks, each a message of its own (`make_state_json`).
`collectStateChunk` checks a chunk, keeps it with the others of the same state and, once all of them
are there, gives out the state as a whole.

A message has the fields the host prints; numbers are what they stand for, and a number that is no
safe integer is one above `maxSafeInteger`.
-/

namespace Nstu.Web

open Wire Text

-- Must match common::kMaximumStateChunks and ExamBridge's queue bound.
def MAX_STATE_CHUNKS : ℕ := 64
def MAX_STATE_ANSWERS : ℕ := 512

/-- How long the chunks of one state are waited for. -/
def collectionWindow : ℕ := 15000

/-! ## Messages -/

structure AnswerMessage where
  questionId : Utf16
  questionRevision : ℕ
  sequence : ℕ
  kind : Utf16
  answer : Utf16
  eventHashHex : Utf16

structure StateMessage where
  packageId : Utf16
  packageDigestHex : Utf16
  clientIdHex : Utf16
  sessionIdHex : Utf16
  candidateId : Utf16
  highestContiguousSequence : ℕ
  finalized : Bool
  stateHashHex : Utf16
  lastEventHashHex : Utf16
  chunkIndex : ℕ
  chunkCount : ℕ
  answers : List AnswerMessage

/-- An answer as `make_state_json` prints it and the page reads it; `none` where a text is no
well-formed UTF-8, so that nothing is posted. -/
def answerMessageOf (answer : AnswerState) : Option AnswerMessage := do
  let questionId ← ofUtf8 answer.questionId
  let text ← ofUtf8 answer.answer
  some {
    questionId
    questionRevision := answer.questionRevision.toNat
    sequence := answer.sequence.toNat
    kind := ascii (if answer.kind = .clear then "clear" else "upsert")
    answer := text
    eventHashHex := hexString answer.eventHash.toList }

/-- `make_state_json`, as the page reads it. -/
def stateMessageOf (response : StateResponse) : Option StateMessage := do
  let packageId ← ofUtf8 response.packageId
  let candidateId ← ofUtf8 response.candidateId
  let answers ← response.answers.mapM answerMessageOf
  some {
    packageId
    packageDigestHex := hexString response.packageDigest.toList
    clientIdHex := hexString response.clientId.toList
    sessionIdHex := hexString response.sessionId.toList
    candidateId
    highestContiguousSequence := response.highestContiguousSequence.toNat
    finalized := response.finalized
    stateHashHex := hexString response.stateHash.toList
    lastEventHashHex := hexString response.lastEventHash.toList
    chunkIndex := response.chunkIndex.toNat
    chunkCount := response.chunkCount.toNat
    answers }

/-! ## Answers -/

/-- `normalizeAnswerKind` of a string. -/
def normalizeAnswerKind (value : Utf16) : Option PageKind := PageKind.ofName (toLowerCase value)

def validateRecoveredAnswer (page : ExamPage) (highest : ℕ) (value : AnswerMessage) :
    Option RecoveredAnswer :=
  let eventHash := normalizeNonZeroHex value.eventHashHex 32
  match normalizeAnswerKind value.kind with
  | none => none
  | some kind =>
    if (validIdentifier (.string value.questionId) 128 false).isNone ||
        (page.questionById value.questionId).isNone || !isSafePositive value.questionRevision ||
        value.questionRevision > 0xffffffff || !isSafePositive value.sequence ||
        value.sequence > highest || kind == .finalize ||
        utf8ByteLength value.answer > MAX_ANSWER_BYTES ||
        (kind == .clear && !value.answer.isEmpty) || eventHash.isEmpty then none
    else some {
      questionId := value.questionId
      questionRevision := value.questionRevision
      sequence := value.sequence
      kind
      answer := value.answer
      eventHashHex := eventHash }

/-- `validateRecoveredAnswers`, with the question ids and sequences seen. -/
def validateRecoveredAnswers (page : ExamPage) (highest : ℕ) :
    List Utf16 → List ℕ → List AnswerMessage → Option (List RecoveredAnswer)
  | _, _, [] => some []
  | questionIds, sequences, value :: rest =>
    match validateRecoveredAnswer page highest value with
    | none => none
    | some answer =>
      if questionIds.contains answer.questionId || sequences.contains answer.sequence then none
      else (validateRecoveredAnswers page highest (answer.questionId :: questionIds)
        (answer.sequence :: sequences) rest).map (answer :: ·)

/-- A recovered answer as JSON. -/
def RecoveredAnswer.json (answer : RecoveredAnswer) : Json :=
  .object ([(ascii "questionId", .string answer.questionId),
    (ascii "questionRevision", .number ((decimal answer.questionRevision).map UInt16.ofNat)),
    (ascii "sequence", .number ((decimal answer.sequence).map UInt16.ofNat)),
    (ascii "kind", .string answer.kind.name),
    (ascii "answer", .string answer.answer)] ++
    if answer.eventHashHex.isEmpty then [] else [(ascii "eventHashHex", .string answer.eventHashHex)])

/-! ## The collection -/

/-- A chunk in the collection, with what the complete state takes from it. -/
structure CollectedChunk where
  highestContiguousSequence : ℕ
  finalized : Bool
  answers : List RecoveredAnswer

/-- `state.stateChunks`. -/
structure StateChunks where
  key : Utf16
  count : ℕ
  createdAt : ℕ
  chunks : List (ℕ × CollectedChunk)
  answerCount : ℕ

/-- A complete state. -/
structure CompleteState where
  packageId : Utf16
  packageDigestHex : Utf16
  clientIdHex : Utf16
  sessionIdHex : Utf16
  candidateId : Utf16
  highestContiguousSequence : ℕ
  finalized : Bool
  stateHashHex : Utf16
  lastEventHashHex : Utf16
  answers : List RecoveredAnswer

/-- A hash of a state response: nothing at zero, and something other than zeros above. -/
def watermarkHash (raw : Utf16) (highest : ℕ) : Option Utf16 :=
  let hash := normalizeHex raw 32
  let nonZero := !hash.isEmpty && !hash.all (· == 48)
  if (!raw.isEmpty && hash.isEmpty) || (highest > 0 && !nonZero) || (highest == 0 && nonZero) then
    none
  else some hash

/-- The checks of a chunk, and the state it is part of: all fields but the answers. -/
def chunkMetadata (page : ExamPage) (response : StateMessage) : Option CompleteState :=
  let packageDigestHex := normalizeNonZeroHex response.packageDigestHex 32
  let clientIdHex := normalizeNonZeroHex response.clientIdHex 16
  let sessionIdHex := normalizeNonZeroHex response.sessionIdHex 16
  let highest := response.highestContiguousSequence
  if response.chunkIndex > maxSafeInteger || response.chunkCount > maxSafeInteger ||
      response.chunkCount < 1 || response.chunkCount > MAX_STATE_CHUNKS ||
      response.chunkIndex ≥ response.chunkCount || response.answers.length > MAX_STATE_ANSWERS then
    none
  else if (validIdentifier (.string response.packageId) 128 false).isNone ||
      (validIdentifier (.string response.candidateId) 128 false).isNone ||
      response.packageId != page.manifestId || response.packageId != page.context.packageId ||
      packageDigestHex != page.context.packageDigestHex ||
      clientIdHex != page.context.clientIdHex || sessionIdHex.isEmpty ||
      sessionIdHex != page.context.sessionIdHex ||
      response.candidateId != page.context.candidateId || highest > maxSafeInteger ||
      (response.finalized && highest == 0) then none
  else
    match watermarkHash response.stateHashHex highest, watermarkHash response.lastEventHashHex highest with
    | some stateHashHex, some lastEventHashHex =>
      if response.chunkCount > 1 && stateHashHex.isEmpty then none
      else some {
        packageId := response.packageId
        packageDigestHex, clientIdHex, sessionIdHex
        candidateId := response.candidateId
        highestContiguousSequence := highest
        finalized := response.finalized
        stateHashHex, lastEventHashHex
        answers := [] }
    | _, _ => none

/-- The key by which the chunks of one state are kept together. -/
def chunkKey (metadata : CompleteState) : Utf16 :=
  (ascii "|").intercalate [metadata.packageId, metadata.packageDigestHex, metadata.clientIdHex,
    metadata.sessionIdHex, metadata.candidateId,
    (decimal metadata.highestContiguousSequence).map UInt16.ofNat, metadata.stateHashHex,
    ascii (if metadata.finalized then "true" else "false"), metadata.lastEventHashHex]

/-- The loop over the answers of the chunks: none twice, and not too many bytes. -/
def answersWithinLimits : List Utf16 → List ℕ → ℕ → List RecoveredAnswer → Bool
  | _, _, _, [] => true
  | questionIds, sequences, answerBytes, answer :: rest =>
    let answerBytes := answerBytes + boundedJsonSize answer.json
    if questionIds.contains answer.questionId || sequences.contains answer.sequence then false
    else if answerBytes > MAX_DURABLE_BYTES then false
    else answersWithinLimits (answer.questionId :: questionIds) (answer.sequence :: sequences)
      answerBytes rest

/-- The chunk is added to a collection, unless it is there already; a chunk that contradicts one in
the collection, or that is too much for it, ends it. -/
def addChunk (collection : StateChunks) (index : ℕ) (chunk : CollectedChunk) : Option StateChunks :=
  match collection.chunks.lookup index with
  | some existing =>
    if (Json.array (existing.answers.map RecoveredAnswer.json)).stringify !=
        (Json.array (chunk.answers.map RecoveredAnswer.json)).stringify then none
    else some collection
  | none =>
    let answerCount := collection.answerCount + chunk.answers.length
    if answerCount > MAX_STATE_ANSWERS then none
    else some { collection with answerCount, chunks := collection.chunks ++ [(index, chunk)] }

/-- The chunks of a full collection, put together. -/
def joinChunks (collection : StateChunks) (metadata : CompleteState) : Option CompleteState :=
  match (List.range collection.count).mapM fun index => collection.chunks.lookup index with
  | none => none
  | some chunks =>
    let answers := chunks.flatMap CollectedChunk.answers
    if !answersWithinLimits [] [] 0 answers then none
    else (collection.chunks.lookup 0).map fun first =>
      { metadata with
        highestContiguousSequence := first.highestContiguousSequence
        finalized := first.finalized
        answers }

/-- `collectStateChunk` at the time `now`: the collection after the call, and the complete
state if there is one. -/
def collectStateChunk (page : ExamPage) (now : ℕ) (current : Option StateChunks)
    (response : StateMessage) : Option StateChunks × Option CompleteState :=
  match chunkMetadata page response,
    validateRecoveredAnswers page response.highestContiguousSequence [] [] response.answers with
  | some metadata, some answers =>
    if response.chunkCount == 1 then (none, some { metadata with answers })
    else
      let key := chunkKey metadata
      let collection :=
        match current with
        | some collection =>
          if collection.key != key || collection.count != response.chunkCount ||
              now - collection.createdAt > collectionWindow then
            ⟨key, response.chunkCount, now, [], 0⟩
          else collection
        | none => ⟨key, response.chunkCount, now, [], 0⟩
      let chunk := ⟨response.highestContiguousSequence, response.finalized, answers⟩
      match addChunk collection response.chunkIndex chunk with
      | none => (none, none)
      | some collection =>
        if collection.chunks.length != response.chunkCount then (some collection, none)
        else (none, joinChunks collection metadata)
  | _, _ => (current, none)

end Nstu.Web
