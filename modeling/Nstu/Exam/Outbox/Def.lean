import Nstu.Exam.Outbox.Codec

/-!
# The client's outbox

`AnswerOutbox` of `answer_journal.cpp`: the answers that the server has not acknowledged yet, and
one watermark per session that remembers how far the session has come.

As for the journal, the object and the file it owns are one value.  `enqueue` and `acknowledge`
return the outbox they leave behind next to the result, because what a refused call leaves behind is
one of the things to be proved.  A message that the source leaves unset is the empty string.
-/

namespace Nstu

open Wire Wire.Reader Wire.Parser

structure AnswerOutbox where
  isOpen : Bool
  events : List AnswerEvent
  watermarks : Watermarks
  file : Bytes

/-- What `open` builds up while it reads. -/
structure OutboxContents where
  events : List AnswerEvent
  watermarks : Watermarks

section Outbox

variable (sha256 : Bytes → Digest)

/-! ## Reading the events -/

/-- What a pending event does to the watermark that is already there: the first format has none of
its own, and only the latest one says whether a session is final. -/
def OutboxWatermark.loaded (version : UInt16) (watermark : OutboxWatermark) (event : AnswerEvent)
    (eventHash : Digest) : OutboxWatermark :=
  let raised :=
    if version == kOutboxLegacyVersion && watermark.highestSequence < event.sequence then
      { watermark with highestSequence := event.sequence, lastHash := eventHash }
    else watermark
  if version < kOutboxFinalizationVersion && event.kind == .finalize then
    { raised with finalized := true }
  else raised

/-- The event loop of `open`, for one decoded event. -/
def loadEvent (version : UInt16) (contents : OutboxContents) (event : AnswerEvent) :
    Except String OutboxContents :=
  match hashAnswerEvent sha256 event with
  | none => .error "outbox contains a duplicate or invalid event"
  | some eventHash =>
    if contents.events.any fun item =>
        sessionKey item == sessionKey event && item.sequence == event.sequence then
      .error "outbox contains a duplicate or invalid event"
    else match contents.watermarks[sessionKey event]? with
    | none =>
      .ok ⟨contents.events ++ [event], contents.watermarks.insert (sessionKey event)
        (watermarkFor event eventHash event.sequence)⟩
    | some watermark =>
      if !sameWatermarkContext watermark event ||
          (version != kOutboxLegacyVersion && event.sequence > watermark.highestSequence) then
        .error "outbox event exceeds its watermark"
      else
        .ok ⟨contents.events ++ [event], contents.watermarks.insert (sessionKey event)
          (watermark.loaded version event eventHash)⟩

def readEvents (version : UInt16) : ℕ → OutboxContents → Parser OutboxContents
  | 0, contents => pure contents
  | more + 1, contents => do
    let record ← orFail readOutboxRecord "outbox record is truncated"
    match decodeAnswerEvent record with
    | .error _ => noInput (.error "outbox record is invalid")
    | .ok event => do
      let contents ← noInput (loadEvent sha256 version contents event)
      readEvents version more contents

/-! ## Checking the sessions -/

/-- `pending_by_session`, with the events of each session in file order. -/
def pendingBySession (events : List AnswerEvent) : OrderedMap Bytes (List AnswerEvent) :=
  events.foldl (fun groups event => groups.insert (sessionKey event)
    ((groups[sessionKey event]?).getD [] ++ [event])) ∅

def sortBySequence (events : List AnswerEvent) : List AnswerEvent :=
  events.mergeSort fun left right => left.sequence ≤ right.sequence

/-- `pending_finalized`: whether a final event is pending.  Nothing may follow it. -/
def pendingFinalized : Bool → List AnswerEvent → Except String Bool
  | finalized, [] => .ok finalized
  | true, _ :: _ => .error "outbox contains an event after finalization"
  | false, event :: rest => pendingFinalized (event.kind == .finalize) rest

/-- The marker of a session with pending events.  Older formats did not persist it. -/
def settleFinalization (version : UInt16) (saved : OutboxWatermark) (finalized : Bool) :
    Except String OutboxWatermark :=
  if version < kOutboxFinalizationVersion then .ok { saved with finalized }
  else if finalized && !saved.finalized then .error "outbox finalization marker is missing"
  else if saved.finalized && !finalized then
    .error "outbox finalized watermark has pending events"
  else .ok saved

/-- Legacy files did not persist the acknowledged boundary; it is inferred from the first pending
event. -/
def inferBoundary (version : UInt16) (saved : OutboxWatermark) (first : AnswerEvent) :
    OutboxWatermark :=
  if version < kOutboxAcknowledgementVersion then
    if first.sequence == 1 then
      { saved with acknowledgedSequence := 0, acknowledgedHash := Block.zero 32 }
    else
      { saved with
        acknowledgedSequence := first.sequence - 1
        acknowledgedHash := first.previousEventHash }
  else saved

/-- The first pending event continues the acknowledged boundary. -/
def checkBoundary (saved : OutboxWatermark) (first : AnswerEvent) : Except String Unit :=
  if !validWatermark saved then .error "outbox inferred watermark is invalid"
  else if saved.acknowledgedSequence == maxSequence || saved.acknowledgedSequence + 1 != first.sequence then
    .error "outbox pending sequence has a gap"
  else if saved.acknowledgedSequence == 0 then
    if !allZero first.previousEventHash.toList then
      .error "outbox first event hash boundary is invalid"
    else .ok ()
  else if !sameDigest first.previousEventHash.toList saved.acknowledgedHash.toList then
    .error "outbox acknowledged hash boundary is invalid"
  else .ok ()

/-- A pending event continues the one before it. -/
def checkLink (previous current : AnswerEvent) : Except String Unit :=
  if previous.sequence == maxSequence || current.sequence != previous.sequence + 1 then
    .error "outbox pending events are not contiguous"
  else match hashAnswerEvent sha256 previous with
  | none => .error "outbox pending hash chain is invalid"
  | some previousHash =>
    if !sameDigest current.previousEventHash.toList previousHash.toList then
      .error "outbox pending hash chain is invalid"
    else .ok ()

/-- Each pending event continues the one before it.  The result is the last one. -/
def checkChain : AnswerEvent → List AnswerEvent → Except String AnswerEvent
  | previous, [] => .ok previous
  | previous, current :: rest =>
    match checkLink sha256 previous current with
    | .error error => .error error
    | .ok () => checkChain current rest

/-- The watermark ends where the pending events end. -/
def checkLast (saved : OutboxWatermark) (last : AnswerEvent) : Except String Unit :=
  match hashAnswerEvent sha256 last with
  | none => .error "outbox watermark does not match pending events"
  | some lastHash =>
    if last.sequence != saved.highestSequence || !sameDigest saved.lastHash.toList lastHash.toList then
      .error "outbox watermark does not match pending events"
    else .ok ()

/-- The checks of one session with pending events `first :: rest`, in sequence order. -/
def checkPending (version : UInt16) (saved : OutboxWatermark) (first : AnswerEvent)
    (rest : List AnswerEvent) : Except String OutboxWatermark := do
  let finalized ← pendingFinalized false (first :: rest)
  let saved ← settleFinalization version saved finalized
  let saved := inferBoundary version saved first
  checkBoundary saved first
  let last ← checkChain sha256 first rest
  checkLast sha256 saved last
  pure saved

/-- One round of the loop over `pending_by_session`. -/
def checkSession (version : UInt16) (watermarks : Watermarks)
    (session : Bytes × List AnswerEvent) : Except String Watermarks :=
  match watermarks[session.1]? with
  | none => .error "outbox session watermark is missing"
  | some saved =>
    match sortBySequence session.2 with
    | [] => .ok watermarks
    | first :: rest => do
      let saved ← checkPending sha256 version saved first rest
      pure (watermarks.insert session.1 saved)

/-- A watermark without pending events has been acknowledged to its end. -/
def settleAcknowledged (version : UInt16) (saved : OutboxWatermark) :
    Except String OutboxWatermark :=
  if saved.acknowledgedSequence != saved.highestSequence ||
      !sameDigest saved.acknowledgedHash.toList saved.lastHash.toList then
    if version < kOutboxAcknowledgementVersion then
      .ok { saved with
        acknowledgedSequence := saved.highestSequence
        acknowledgedHash := saved.lastHash }
    else .error "outbox acknowledged watermark is invalid"
  else .ok saved

/-- One round of the loop over the watermarks. -/
def checkAcknowledged (version : UInt16) (pending : OrderedMap Bytes (List AnswerEvent))
    (watermarks : Watermarks) (entry : Bytes × OutboxWatermark) : Except String Watermarks :=
  if pending.contains entry.1 then .ok watermarks
  else do
    let saved ← settleAcknowledged version entry.2
    pure (watermarks.insert entry.1 saved)

def checkSessions (version : UInt16) (contents : OutboxContents) :
    Except String OutboxContents := do
  let pending := pendingBySession contents.events
  let watermarks ← pending.toList.foldlM (checkSession sha256 version) contents.watermarks
  let watermarks ← watermarks.toList.foldlM (checkAcknowledged version pending) watermarks
  pure ⟨contents.events, watermarks⟩

/-! ## Opening -/

/-- `open` from the header to the check for trailing data. -/
def readOutbox : Parser (UInt16 × OutboxContents) := do
  let (version, count) ← orFail readOutboxHeader "outbox header is invalid"
  let watermarkCount ← orFail (readWatermarkCount version) "outbox watermark header is invalid"
  let watermarks ← readWatermarks version watermarkCount.toNat ∅
  let contents ← readEvents sha256 version count.toNat ⟨[], watermarks⟩
  let contents ← noInput (checkSessions sha256 version contents)
  let left ← orFail remaining ""
  orFail (require (left = 0)) "outbox has trailing data"
  pure (version, contents)

variable (secrets : MachineSecrets)

/-- The plaintext of the file, and whether the file was encrypted. -/
def decryptOutbox (stored : Bytes) : Except String (Bytes × Bool) :=
  if stored.length < 4 then .ok (stored, false)
  else match (readLe : Reader UInt32).run stored with
  | none => .error "outbox header is invalid"
  | some (magic, _) =>
    if magic == kEncryptedOutboxMagic then
      match unprotectOutboxWire secrets stored with
      | .error error => .error error
      | .ok bytes =>
        if bytes.isEmpty then .error "encrypted outbox could not be opened"
        else .ok (bytes, true)
    else .ok (stored, false)

/-- `encode_outbox` followed by `write_outbox_file`, as every change of the outbox ends. -/
def saveOutbox (calls : OutboxCalls) (events : List AnswerEvent) (watermarks : Watermarks) :
    Except String Bytes :=
  let wire := encodeOutbox events watermarks
  if wire.isEmpty then .error "" else writeOutboxFile secrets calls wire

/-- What the path holds once `open` has made sure that it holds something. -/
def existingOutbox (calls : OutboxCalls) : Option Bytes → Except String Bytes
  | some stored => .ok stored
  | none => saveOutbox secrets calls [] ∅

/-- New writes are always encrypted in the latest format; anything else is upgraded. -/
def upgradeOutbox (calls : OutboxCalls) (stored : Bytes) (encrypted : Bool) (version : UInt16)
    (contents : OutboxContents) : Except String Bytes :=
  if !encrypted || version != kOutboxVersion then
    saveOutbox secrets calls contents.events contents.watermarks
  else .ok stored

/-- The last part of `open`: what the file holds is decrypted, read, checked and upgraded. -/
def AnswerOutbox.load (calls : OutboxCalls) (stored : Bytes) : Except String AnswerOutbox := do
  let (bytes, encrypted) ← decryptOutbox secrets stored
  let ((version, contents), _) ← (readOutbox sha256).run bytes
  let file ← upgradeOutbox secrets calls stored encrypted version contents
  pure ⟨true, contents.events, contents.watermarks, file⟩

/-- `AnswerOutbox::open`.  `file` is what the path holds, `none` when nothing exists there.  At most
one write happens, either of a new file or of the upgraded one. -/
def AnswerOutbox.open (succeeds : OpenStep → Bool) (calls : OutboxCalls) (file : Option Bytes) :
    Except String AnswerOutbox :=
  if !succeeds .validPath then .error "outbox path must be an absolute non-root path"
  else if !succeeds .createDirectories then .error "outbox directory creation failed"
  else if !succeeds .acquireLease then .error "journal lock acquisition failed"
  else if !succeeds .queryStatus then .error "outbox file status query failed"
  else do
    let stored ← existingOutbox secrets calls file
    if !succeeds .readFile then .error "journal file read failed"
    else if stored.length > kMaximumStoredOutboxBytes then
      .error "file exceeds the configured quota"
    else AnswerOutbox.load sha256 secrets calls stored

/-! ## Enqueueing -/

structure OutboxResult where
  outbox : AnswerOutbox
  ok : Bool
  error : String

/-- Return `false` and leave everything as it is. -/
def AnswerOutbox.refuse (outbox : AnswerOutbox) (error : String) : OutboxResult :=
  ⟨outbox, false, error⟩

/-- Return `true` and leave everything as it is. -/
def AnswerOutbox.keep (outbox : AnswerOutbox) : OutboxResult := ⟨outbox, true, ""⟩

/-- Write the candidate and, when that worked, adopt it. -/
def AnswerOutbox.commit (calls : OutboxCalls) (outbox : AnswerOutbox) (events : List AnswerEvent)
    (watermarks : Watermarks) : OutboxResult :=
  match saveOutbox secrets calls events watermarks with
  | .error error => outbox.refuse error
  | .ok file => ⟨{ outbox with events, watermarks, file }, true, ""⟩

/-- `session_indices`: the positions of a session's events, in sequence order. -/
def sessionIndices (events : List AnswerEvent) (key : Bytes) : List ℕ :=
  ((events.zipIdx.filter fun item => sessionKey item.1 == key).mergeSort
    fun left right => left.1.sequence ≤ right.1.sequence).map Prod.snd

/-- The predecessor that a rebase of the first pending event may not have. -/
def invalidPredecessor (watermark : OutboxWatermark) (event : AnswerEvent) : Bool :=
  watermark.acknowledgedSequence == maxSequence || event.sequence != watermark.acknowledgedSequence + 1 ||
    (if event.sequence == 1 then !allZero event.previousEventHash.toList
      else allZero event.previousEventHash.toList)

/-- The watermark after a rebase at `targetOffset`.  Only the first pending event may change the
acknowledged boundary. -/
def rebaseBoundary (events : List AnswerEvent) (indices : List ℕ) (watermark : OutboxWatermark)
    (event : AnswerEvent) (targetOffset : ℕ) : Except String OutboxWatermark :=
  match targetOffset with
  | 0 =>
    if invalidPredecessor watermark event then .error "outbox rebase predecessor is invalid"
    else .ok { watermark with acknowledgedHash := event.previousEventHash }
  | before + 1 =>
    match (indices[before]?).bind (events[·]?) >>= hashAnswerEvent sha256 with
    | none => .error "outbox rebase predecessor is invalid"
    | some previousHash =>
      if !sameDigest event.previousEventHash.toList previousHash.toList then
        .error "outbox rebase predecessor is invalid"
      else .ok watermark

/-- Relink the event at `index` behind the event at `previousIndex`, whose hash is `previousHash`.
The result also has the new hash. -/
def rebaseStep (events : List AnswerEvent) (previousIndex : ℕ) (previousHash : Digest)
    (index : ℕ) : Except String (List AnswerEvent × Digest) :=
  match events[previousIndex]?, events[index]? with
  | some previous, some current =>
    if previous.sequence == maxSequence || current.sequence != previous.sequence + 1 then
      .error "outbox rebase sequence is not contiguous"
    else
      let relinked := { current with previousEventHash := previousHash }
      match hashAnswerEvent sha256 relinked with
      | none => .error "outbox rebase hashing failed"
      | some hash => .ok (events.set index relinked, hash)
  | _, _ => .error "outbox rebase sequence is not contiguous"

/-- Relink the events at the given positions, one behind the other. -/
def rebaseSuffix (events : List AnswerEvent) (previousIndex : ℕ) (previousHash : Digest) :
    List ℕ → Except String (List AnswerEvent × Digest)
  | [] => .ok (events, previousHash)
  | index :: rest =>
    match rebaseStep sha256 events previousIndex previousHash index with
    | .error error => .error error
    | .ok (events, hash) => rebaseSuffix events index hash rest

/-- The rebased events and watermark: the record at `index` is replaced by `event`, and every later
record of the session is relinked. -/
def rebaseEvents (events : List AnswerEvent) (watermark : OutboxWatermark) (event : AnswerEvent)
    (index : ℕ) : Except String (List AnswerEvent × OutboxWatermark) :=
  let indices := sessionIndices events (sessionKey event)
  match indices.findIdx? (· == index) with
  | none => .error "outbox rebase target is unavailable"
  | some targetOffset => do
    let watermark ← rebaseBoundary sha256 events indices watermark event targetOffset
    match hashAnswerEvent sha256 event with
    | none => .error "outbox rebase hashing failed"
    | some eventHash => do
      let (events, lastHash) ← rebaseSuffix sha256 (events.set index event) index eventHash
        (indices.drop (targetOffset + 1))
      pure (events, { watermark with lastHash })

/-- The part of `enqueue` for an event whose sequence is already pending, as `existing` at
`index`. -/
def AnswerOutbox.enqueueAgain (calls : OutboxCalls) (outbox : AnswerOutbox) (event : AnswerEvent)
    (eventHash : Digest) (existing : AnswerEvent) (index : ℕ) : OutboxResult :=
  if (hashAnswerEvent sha256 existing).any fun existingHash =>
      sameDigest existingHash.toList eventHash.toList then
    outbox.keep
  else match outbox.watermarks[sessionKey event]? with
  | none => outbox.refuse "outbox sequence conflicts with an existing event"
  | some watermark =>
    if !sameEventBodyExceptPredecessor existing event then
      outbox.refuse "outbox sequence conflicts with an existing event"
    else if watermark.finalized || event.sequence ≤ watermark.acknowledgedSequence then
      outbox.refuse "outbox sequence was already acknowledged"
    else match rebaseEvents sha256 outbox.events watermark event index with
    | .error error => outbox.refuse error
    | .ok (events, rebased) =>
      outbox.commit secrets calls events (outbox.watermarks.insert (sessionKey event) rebased)

/-- `enqueue` behind its checks: the event is appended. -/
def AnswerOutbox.enqueueNew (calls : OutboxCalls) (outbox : AnswerOutbox) (event : AnswerEvent)
    (next : OutboxWatermark) : OutboxResult :=
  if outbox.events.length ≥ kMaximumOutboxEvents then
    outbox.refuse "outbox event quota is exhausted"
  else
    outbox.commit secrets calls (outbox.events ++ [event]) (outbox.watermarks.insert (sessionKey event) next)

/-- The watermark of a session after its next event. -/
def OutboxWatermark.advance (saved : OutboxWatermark) (event : AnswerEvent) (eventHash : Digest) :
    OutboxWatermark :=
  { saved with
    highestSequence := event.sequence
    lastHash := eventHash
    finalized := if event.kind == .finalize then true else saved.finalized }

/-- The part of `enqueue` for an event whose sequence is not pending. -/
def AnswerOutbox.enqueueNext (calls : OutboxCalls) (outbox : AnswerOutbox) (event : AnswerEvent)
    (eventHash : Digest) : OutboxResult :=
  match outbox.watermarks[sessionKey event]? with
  | none =>
    if event.sequence != 1 || !allZero event.previousEventHash.toList then
      outbox.refuse "first outbox event must start at sequence one"
    else outbox.enqueueNew secrets calls event (watermarkFor event eventHash event.sequence)
  | some saved =>
    if !sameWatermarkContext saved event then
      outbox.refuse "outbox event identity conflicts with its session"
    else if saved.finalized then
      if event.sequence == saved.highestSequence && sameDigest eventHash.toList saved.lastHash.toList then outbox.keep
      else outbox.refuse "exam session is already finalized"
    else if event.sequence ≤ saved.highestSequence then
      if event.sequence == saved.highestSequence && sameDigest eventHash.toList saved.lastHash.toList then outbox.keep
      else outbox.refuse "outbox sequence was already acknowledged"
    else if saved.highestSequence == maxSequence || event.sequence != saved.highestSequence + 1 then
      outbox.refuse "outbox event sequence has a gap"
    else if !sameDigest event.previousEventHash.toList saved.lastHash.toList then
      outbox.refuse "outbox event hash chain does not match"
    else outbox.enqueueNew secrets calls event (saved.advance event eventHash)

/-- `AnswerOutbox::enqueue`. -/
def AnswerOutbox.enqueue (calls : OutboxCalls) (outbox : AnswerOutbox) (event : AnswerEvent) :
    OutboxResult :=
  if !outbox.isOpen then outbox.refuse "outbox is not open"
  else if !validateAnswerEvent event then outbox.refuse invalidAnswerEvent
  else match hashAnswerEvent sha256 event with
  | none => outbox.refuse "outbox event hashing failed"
  | some eventHash =>
    match outbox.events.zipIdx.find? fun item =>
      sessionKey item.1 == sessionKey event && item.1.sequence == event.sequence with
    | some (existing, index) =>
      outbox.enqueueAgain sha256 secrets calls event eventHash existing index
    | none => outbox.enqueueNext secrets calls event eventHash

/-! ## Listing -/

/-- The order of `pending` and `pending_for_client`: by session key, then by sequence. -/
def pendingOrder (left right : AnswerEvent) : Bool :=
  if sessionKey left != sessionKey right then compare (sessionKey left) (sessionKey right) == .lt
  else left.sequence ≤ right.sequence

/-- `AnswerOutbox::pending_for_client`. -/
def AnswerOutbox.pendingForClient (outbox : AnswerOutbox) (clientId : ClientId) (maximum : ℕ) :
    List AnswerEvent :=
  if maximum == 0 || allZero clientId.toList || !outbox.isOpen then []
  else ((outbox.events.filter fun event => event.clientId == clientId).mergeSort
    pendingOrder).take maximum

/-! ## Acknowledging -/

/-- `matching_session_keys`: the contexts that use a session identifier. -/
def AnswerOutbox.matchingKeys (outbox : AnswerOutbox) (sessionId : SessionId) : List Bytes :=
  ((outbox.events.filter fun event => event.sessionId == sessionId).map sessionKey ++
    (outbox.watermarks.toList.filter fun entry => entry.2.sessionId == sessionId).map
      Prod.fst).dedup

/-- An event's hash is the one an acknowledgement names. -/
def hashMatches (event : AnswerEvent) (eventHash : Bytes) : Bool :=
  (hashAnswerEvent sha256 event).any fun calculatedHash =>
    sameDigest calculatedHash.toList eventHash

/-- A watermark knows the hash at a sequence. -/
def watermarkMatches (watermark : OutboxWatermark) (sequence : UInt64) (eventHash : Bytes) : Bool :=
  (sequence == watermark.acknowledgedSequence && sameDigest eventHash watermark.acknowledgedHash.toList) ||
    (sequence == watermark.highestSequence && sameDigest eventHash watermark.lastHash.toList)

/-- `exact_session_keys`: the contexts in which the acknowledgement names the right hash. -/
def AnswerOutbox.exactKeys (outbox : AnswerOutbox) (sessionId : SessionId) (sequence : UInt64)
    (eventHash : Bytes) : List Bytes :=
  ((outbox.events.filter fun event => event.sessionId == sessionId &&
      event.sequence == sequence && hashMatches sha256 event eventHash).map sessionKey ++
    (outbox.watermarks.toList.filter fun entry => entry.2.sessionId == sessionId &&
      watermarkMatches entry.2 sequence eventHash).map Prod.fst).dedup

/-- `selected_session_key`. -/
def AnswerOutbox.selectKey (outbox : AnswerOutbox) (sessionId : SessionId) (sequence : UInt64)
    (eventHash : Bytes) : Except String Bytes :=
  match outbox.matchingKeys sessionId, outbox.exactKeys sha256 sessionId sequence eventHash with
  | [], _ => .error "outbox acknowledgement is unknown"
  | _, _ :: _ :: _ => .error "outbox acknowledgement is ambiguous"
  | _, [key] => .ok key
  | [key], [] => .ok key
  | _, [] => .error "outbox acknowledgement session is ambiguous"

/-- The part of `acknowledge` for a sequence that is not pending. -/
def AnswerOutbox.acknowledgeRetired (calls : OutboxCalls) (outbox : AnswerOutbox) (key : Bytes)
    (sequence : UInt64) (eventHash : Bytes) : OutboxResult :=
  match outbox.watermarks[key]? with
  | none => outbox.refuse "outbox acknowledgement is unknown"
  | some saved =>
    if sequence > saved.highestSequence then
      outbox.refuse "outbox acknowledgement is unknown"
    else if sequence == saved.acknowledgedSequence then
      if sameDigest eventHash saved.acknowledgedHash.toList then outbox.keep
      else outbox.refuse "outbox acknowledgement hash mismatch"
    else if sequence < saved.acknowledgedSequence || sequence != saved.highestSequence then
      outbox.refuse "outbox acknowledgement cannot be verified"
    else if !sameDigest eventHash saved.lastHash.toList then
      outbox.refuse "outbox acknowledgement hash mismatch"
    else if sequence > saved.acknowledgedSequence then
      outbox.commit secrets calls outbox.events (outbox.watermarks.insert key
        { saved with acknowledgedSequence := sequence, acknowledgedHash := saved.lastHash })
    else outbox.keep

/-- The part of `acknowledge` for a pending `target`. -/
def AnswerOutbox.acknowledgePending (calls : OutboxCalls) (outbox : AnswerOutbox)
    (target : AnswerEvent) (sequence : UInt64) (eventHash : Bytes) : OutboxResult :=
  match hashAnswerEvent sha256 target with
  | none => outbox.refuse "outbox acknowledgement hash mismatch"
  | some targetHash =>
    if !sameDigest targetHash.toList eventHash then
      outbox.refuse "outbox acknowledgement hash mismatch"
    else match outbox.watermarks[sessionKey target]? with
    | none => outbox.refuse "outbox watermark is missing"
    | some saved =>
      if sequence > saved.highestSequence then outbox.refuse "outbox watermark is missing"
      else if sequence ≤ saved.acknowledgedSequence then
        outbox.refuse "outbox acknowledgement is stale"
      else
        outbox.commit secrets calls (outbox.events.filter fun event =>
            !(sessionKey event == sessionKey target && event.sequence ≤ sequence))
          (outbox.watermarks.insert (sessionKey target)
            { saved with acknowledgedSequence := sequence, acknowledgedHash := targetHash })

/-- `AnswerOutbox::acknowledge`. -/
def AnswerOutbox.acknowledge (calls : OutboxCalls) (outbox : AnswerOutbox) (sessionId : SessionId)
    (sequence : UInt64) (eventHash : Bytes) : OutboxResult :=
  if !outbox.isOpen || eventHash.length != 32 || sequence == 0 then
    outbox.refuse "invalid outbox acknowledgement"
  else match outbox.selectKey sha256 sessionId sequence eventHash with
  | .error error => outbox.refuse error
  | .ok key =>
    match outbox.events.find? fun event =>
      sessionKey event == key && event.sequence == sequence with
    | none => outbox.acknowledgeRetired secrets calls key sequence eventHash
    | some target => outbox.acknowledgePending sha256 secrets calls target sequence eventHash

end Outbox

end Nstu
