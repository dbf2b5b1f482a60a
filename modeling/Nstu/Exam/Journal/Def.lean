import Nstu.Core.FramedLog
import Nstu.Exam.StateChunks
import Std.Data.ExtTreeMap

/-!
# The server's answer journal

`AnswerJournal` of `answer_journal.cpp`: an append-only file of accepted answer events and the
session index it is rebuilt from.

The object and the file it owns are one value here: `file` holds the bytes at `impl_->path`.
System calls are arguments.  `OpenStep` names the calls of `open` that can fail, and
`AppendCalls` says what one call of `append` meets: the clock, whether the file size could be
read, and whether the record was written.  A failed write leaves some bytes of the record behind
when rolling it back fails too.

`open` is a scan in the sense of `FramedLog`: `nextRecord` parses one record and `recoverEvent`
applies it.
-/

namespace Nstu

open Wire FramedLog

/-- `std::map` and `std::set` iterate in key order; byte strings compare as unsigned bytes. -/
abbrev OrderedMap (κ ν : Type) [Ord κ] := Std.ExtTreeMap κ ν

def kJournalMagic : UInt32 := 0x314a5845
def kJournalVersion : UInt16 := 1
def kJournalHeaderBytes : ℕ := 12
def kJournalRecordOverhead : ℕ := kJournalHeaderBytes + 32

/-- `std::numeric_limits<std::uint64_t>::max()`. -/
def maxSequence : UInt64 := 0xffffffffffffffff

/-! ## Session keys -/

/-- `session_key`. -/
def sessionKeyOf (packageId : Bytes) (packageDigest : Digest) (clientId : ClientId) (sessionId : SessionId) : Bytes :=
  packageId ++ [0] ++ packageDigest.toList ++ clientId.toList ++ sessionId.toList

def sessionKey (event : AnswerEvent) : Bytes :=
  sessionKeyOf event.packageId event.packageDigest event.clientId event.sessionId

def requestKey (request : StateRequest) : Bytes :=
  sessionKeyOf request.packageId request.packageDigest request.clientId request.sessionId

lemma sessionKeyOf_inj {p p' : Bytes} {d d' : Digest} {c c' : ClientId} {s s' : SessionId} :
    sessionKeyOf p d c s = sessionKeyOf p' d' c' s' ↔ p = p' ∧ d = d' ∧ c = c' ∧ s = s' := by
  constructor
  · intro h
    obtain ⟨h, hs⟩ := List.append_inj' h (by simp)
    obtain ⟨h, hc⟩ := List.append_inj' h (by simp)
    obtain ⟨h, hd⟩ := List.append_inj' h (by simp)
    obtain ⟨hp, -⟩ := List.append_inj' h rfl
    exact ⟨hp, Block.ext hd, Block.ext hc, Block.ext hs⟩
  · rintro ⟨rfl, rfl, rfl, rfl⟩
    rfl

/-! ## Sessions -/

structure SessionData where
  packageId : Bytes
  packageDigest : Digest
  clientId : ClientId
  sessionId : SessionId
  candidateId : Bytes
  highestSequence : UInt64
  lastHash : Digest
  finalized : Bool
  eventHashes : OrderedMap UInt64 Digest
  answers : OrderedMap Bytes AnswerState

/-- A session entry just after `try_emplace`, with the identity of its first event filled in. -/
def SessionData.fresh (event : AnswerEvent) : SessionData where
  packageId := event.packageId
  packageDigest := event.packageDigest
  clientId := event.clientId
  sessionId := event.sessionId
  candidateId := event.candidateId
  highestSequence := 0
  lastHash := Block.zero 32
  finalized := false
  eventHashes := ∅
  answers := ∅

abbrev Sessions := OrderedMap Bytes SessionData

/-- The entry an event lands in: the existing one, or a fresh one. -/
def sessionFor (sessions : Sessions) (event : AnswerEvent) : SessionData :=
  (sessions[sessionKey event]?).getD (SessionData.fresh event)

/-- The answer a session keeps for an upsert. -/
def AnswerState.ofEvent (event : AnswerEvent) (eventHash : Digest) : AnswerState :=
  ⟨event.questionId, event.questionRevision, event.sequence, event.kind, event.answer, eventHash⟩

/-- The session after an event passed every check of `apply_recovered`. -/
def SessionData.accept (session : SessionData) (event : AnswerEvent) (eventHash : Digest) :
    SessionData :=
  { session with
    candidateId := if session.candidateId.isEmpty then event.candidateId else session.candidateId
    eventHashes := session.eventHashes.insertIfNew event.sequence eventHash
    highestSequence := event.sequence
    lastHash := eventHash
    answers :=
      if event.kind = .upsert then
        session.answers.insert event.questionId (AnswerState.ofEvent event eventHash)
      else if event.kind = .clear then session.answers.erase event.questionId
      else session.answers
    finalized :=
      if event.kind = .upsert then session.finalized
      else if event.kind = .clear then session.finalized
      else true }

/-- `apply_recovered`; `none` stands for `false`. -/
def applyRecovered (session : SessionData) (event : AnswerEvent) (eventHash : Digest) :
    Option SessionData :=
  if session.highestSequence == maxSequence || event.sequence != session.highestSequence + 1 ||
      !sameDigest event.previousEventHash.toList session.lastHash.toList ||
      (!session.candidateId.isEmpty && session.candidateId != event.candidateId) ||
      session.finalized then none
  else some (session.accept event eventHash)

/-- An upsert of a new question into a full answer map. -/
def answerQuotaExceeded (session : SessionData) (event : AnswerEvent) : Bool :=
  event.kind == .upsert && !session.answers.contains event.questionId && session.answers.size ≥ kMaximumStateEntries

/-- A new session in a full journal. -/
def sessionQuotaExceeded (sessions : Sessions) (event : AnswerEvent) : Bool :=
  !sessions.contains (sessionKey event) && sessions.size ≥ kMaximumJournalSessions

/-! ## State hash and acknowledgements -/

/-- One answer's share of the canonical state. -/
def canonicalAnswer (questionId : Bytes) (answer : AnswerState) : Bytes :=
  [le (UInt16.ofNat questionId.length), questionId, le answer.questionRevision, le answer.sequence,
    le answer.kind.raw, le (UInt32.ofNat answer.answer.length), answer.answer,
    answer.eventHash.toList].flatten

section Digests

variable (sha256 : Bytes → Digest)

/-- `state_hash`, over the answers in map order. -/
def stateHash (session : SessionData) : Digest :=
  sha256 (le session.highestSequence ++ le (if session.finalized then 1 else 0 : UInt8) ++
    (session.answers.toList.map fun entry => canonicalAnswer entry.1 entry.2).flatten)

/-- `make_ack` at time `now`. -/
def makeAck (now : UInt64) (session : SessionData) (status : AnswerAckStatus) (sequence : UInt64)
    (eventHash : Digest) : AnswerAck where
  status := status
  sessionId := session.sessionId
  sequence := sequence
  highestContiguousSequence := session.highestSequence
  serverTimeUnixMilliseconds := now
  eventHash := eventHash
  stateHash := stateHash sha256 session

/-! ## The journal file -/

def encodeJournalRecord (event : AnswerEvent) (hash : Digest) : Bytes :=
  let payload := encodeAnswerEvent event
  if payload.isEmpty then []
  else [le kJournalMagic, le kJournalVersion, le (0 : UInt16), le (UInt32.ofNat payload.length),
    payload, hash.toList].flatten

/-- The four header fields of a record. -/
def readRecordHeader : Reader (UInt32 × UInt16 × UInt16 × UInt32) := do
  let magic : UInt32 ← Reader.readLe
  let version : UInt16 ← Reader.readLe
  let reserved : UInt16 ← Reader.readLe
  let payloadBytes : UInt32 ← Reader.readLe
  pure (magic, version, reserved, payloadBytes)

/-- What the recovery loop finds at its offset: the end, a torn record, a corrupt one, or an event
whose stored hash is right. -/
def nextRecord (bytes : Bytes) : Head String AnswerEvent :=
  if bytes.isEmpty then .finished
  else if bytes.length < kJournalHeaderBytes then .torn
  else
    match readRecordHeader.run bytes with
    | none => .corrupt "journal contains a corrupt record header"
    | some ((magic, version, reserved, payloadBytes), _) =>
      if magic != kJournalMagic || version != kJournalVersion || reserved != 0 ||
          payloadBytes == 0 || payloadBytes.toNat > 64 * 1024 then
        .corrupt "journal contains a corrupt record header"
      else if bytes.length < kJournalRecordOverhead + payloadBytes.toNat then .torn
      else
        let payload := (bytes.drop kJournalHeaderBytes).take payloadBytes.toNat
        let storedHash := (bytes.drop (kJournalHeaderBytes + payloadBytes.toNat)).take 32
        match decodeAnswerEvent payload with
        | .error _ => .corrupt "journal contains a corrupt event record"
        | .ok event =>
          match hashAnswerEvent sha256 event with
          | none => .corrupt "journal contains a corrupt event record"
          | some calculatedHash =>
            if !sameDigest calculatedHash.toList storedHash then
              .corrupt "journal contains a corrupt event record"
            else .frame event (kJournalRecordOverhead + payloadBytes.toNat)

/-- What recovery rebuilds. -/
structure Index where
  sessions : Sessions
  eventCount : ℕ

/-- The recovery loop's work on one event. -/
def recoverEvent (index : Index) (event : AnswerEvent) : Except String Index :=
  match hashAnswerEvent sha256 event with
  | none => .error "journal contains a corrupt event record"
  | some calculatedHash =>
    if sessionQuotaExceeded index.sessions event then .error "journal contains too many sessions"
    else
      let session := sessionFor index.sessions event
      if session.candidateId != event.candidateId then
        .error "journal candidate identity changed"
      else if answerQuotaExceeded session event then
        .error "journal answer-state quota exceeded"
      else
        match applyRecovered session event calculatedHash with
        | none => .error "journal event sequence or hash chain is invalid"
        | some next =>
          .ok ⟨index.sessions.insert (sessionKey event) next, index.eventCount + 1⟩

/-! ## The journal object -/

structure AnswerJournal where
  isOpen : Bool
  recoveredTail : Bool
  eventCount : ℕ
  sessions : Sessions
  file : Bytes

/-- The system calls of `open` that can fail. -/
inductive OpenStep where
  | validPath
  | createDirectories
  | acquireLease
  | queryStatus
  | createFile
  | readFile
  | truncateTail
  deriving DecidableEq

/-- `AnswerJournal::open`.  `file` is what the path holds, `none` when nothing exists there. -/
def AnswerJournal.open (succeeds : OpenStep → Bool) (file : Option Bytes) :
    Except String AnswerJournal :=
  if !succeeds .validPath then .error "journal path must be an absolute non-root path"
  else if !succeeds .createDirectories then .error "journal directory creation failed"
  else if !succeeds .acquireLease then .error "journal lock acquisition failed"
  else if !succeeds .queryStatus then .error "journal file status query failed"
  else if file.isNone && !succeeds .createFile then .error "journal atomic write failed"
  else if !succeeds .readFile then .error "journal file read failed"
  else
    let bytes := file.getD []
    if bytes.length > kMaximumJournalBytes then .error "file exceeds the configured quota"
    else
      match scan (nextRecord sha256) (recoverEvent sha256) ⟨∅, 0⟩ bytes with
      | .error error => .error error
      | .ok recovered =>
        let validOffset := bytes.length - recovered.left.length
        if recovered.torn && validOffset < bytes.length then
          if !succeeds .truncateTail then
            .error "journal incomplete tail could not be truncated"
          else
            .ok ⟨true, recovered.torn, recovered.state.eventCount, recovered.state.sessions, bytes.take validOffset⟩
        else
          .ok ⟨true, recovered.torn, recovered.state.eventCount, recovered.state.sessions, bytes⟩

inductive AppendStatus where
  | accepted
  | duplicate
  | conflict
  | gap
  | rejected
  | unavailable
  deriving DecidableEq

structure AppendOutcome where
  status : AppendStatus
  ack : AnswerAck

/-- What one call of `append` meets outside the object. -/
structure AppendCalls where
  /-- `now_milliseconds()`. -/
  now : UInt64
  /-- `file_size` succeeds. -/
  sizeKnown : Bool
  /-- `none`: the record was written and flushed.  `some n`: writing failed and `n` bytes of the
  record stayed in the file, none when the rollback worked. -/
  writeFailure : Option ℕ

structure AppendResult where
  journal : AnswerJournal
  outcome : AppendOutcome
  error : Option String

/-- The part of `append` behind its checks: write the record, then index it.  A storage failure
closes the journal. -/
def AnswerJournal.store (calls : AppendCalls) (journal : AnswerJournal) (event : AnswerEvent)
    (session : SessionData) (calculatedHash : Digest) : AppendResult :=
  let record := encodeJournalRecord event calculatedHash
  let unavailable : AppendOutcome :=
    ⟨.unavailable, makeAck sha256 calls.now session .unavailable event.sequence calculatedHash⟩
  if record.isEmpty || !calls.sizeKnown || record.length > kMaximumJournalBytes ||
      journal.file.length > kMaximumJournalBytes - record.length then
    ⟨{ journal with isOpen := false }, unavailable, none⟩
  else match calls.writeFailure with
  | some left =>
    ⟨{ journal with isOpen := false, file := journal.file ++ record.take left }, unavailable,
      some "journal append failed"⟩
  | none =>
    let written := { journal with file := journal.file ++ record }
    match applyRecovered session event calculatedHash with
    | none => ⟨written, ⟨.unavailable, AnswerAck.initial⟩,
        some "answer event could not be indexed after append"⟩
    | some next =>
      ⟨{ written with
          sessions := journal.sessions.insert (sessionKey event) next
          eventCount := journal.eventCount + 1 },
        ⟨.accepted, makeAck sha256 calls.now next .accepted event.sequence calculatedHash⟩, none⟩

/-- The part of `append` that looks at the event's session.  Every refusal leaves the session map
as it was: an entry that was inserted for this event is discarded again. -/
def AnswerJournal.appendTo (calls : AppendCalls) (journal : AnswerJournal) (event : AnswerEvent)
    (session : SessionData) (calculatedHash : Digest) : AppendResult :=
  let ack := makeAck sha256 calls.now session
  if session.candidateId != event.candidateId then
    ⟨journal, ⟨.conflict, ack .conflict event.sequence calculatedHash⟩,
      some "answer candidate identity conflicts with the session"⟩
  else match session.eventHashes[event.sequence]? with
  | some existing =>
    if !sameDigest existing.toList calculatedHash.toList then
      ⟨journal, ⟨.conflict, ack .conflict event.sequence existing⟩,
        some "answer sequence conflicts with an existing event"⟩
    else ⟨journal, ⟨.duplicate, ack .duplicate event.sequence existing⟩, none⟩
  | none =>
    if answerQuotaExceeded session event then
      ⟨journal, ⟨.rejected, ack .rejected event.sequence calculatedHash⟩, some "answer-state quota is exhausted"⟩
    else if session.finalized then
      ⟨journal, ⟨.rejected, ack .rejected event.sequence calculatedHash⟩, some "exam session is already finalized"⟩
    else if session.highestSequence == maxSequence || event.sequence != session.highestSequence + 1 then
      ⟨journal, ⟨.gap, ack .gap event.sequence calculatedHash⟩, some "answer event sequence has a gap"⟩
    else if !sameDigest event.previousEventHash.toList session.lastHash.toList then
      ⟨journal, ⟨.conflict, ack .conflict event.sequence calculatedHash⟩,
        some "answer event hash chain does not match the journal"⟩
    else AnswerJournal.store sha256 calls journal event session calculatedHash

/-- `AnswerJournal::append`. -/
def AnswerJournal.append (calls : AppendCalls) (journal : AnswerJournal) (event : AnswerEvent) :
    AppendResult :=
  if !journal.isOpen then
    ⟨journal, ⟨.unavailable, AnswerAck.initial⟩, some "answer journal is not open"⟩
  else if !validateAnswerEvent event then
    ⟨journal, ⟨.rejected, AnswerAck.initial⟩, some invalidAnswerEvent⟩
  else match hashAnswerEvent sha256 event with
  | none => ⟨journal, ⟨.unavailable, AnswerAck.initial⟩, some "answer event hashing failed"⟩
  | some calculatedHash =>
    if sessionQuotaExceeded journal.sessions event then
      ⟨journal, ⟨.unavailable, AnswerAck.initial⟩, some "journal session quota is exhausted"⟩
    else
      AnswerJournal.appendTo sha256 calls journal event (sessionFor journal.sessions event)
        calculatedHash

/-- `AnswerJournal::state`. -/
def AnswerJournal.state (journal : AnswerJournal) (request : StateRequest) :
    Except String StateResponse :=
  if !journal.isOpen then .error "answer journal is not open"
  else if (encodeStateRequest request).isEmpty then .error "invalid answer state request"
  else match journal.sessions[requestKey request]? with
  | none =>
    .ok ⟨request.packageId, request.packageDigest, request.clientId, request.sessionId,
      request.candidateId, 0, false, Block.zero 32, Block.zero 32, 0, 1, []⟩
  | some session =>
    if session.candidateId != request.candidateId then
      .error "answer state candidate identity does not match"
    else
      .ok ⟨session.packageId, session.packageDigest, session.clientId, session.sessionId,
        session.candidateId, session.highestSequence, session.finalized,
        stateHash sha256 session, session.lastHash, 0, 1, session.answers.toList.map Prod.snd⟩

end Digests

end Nstu
