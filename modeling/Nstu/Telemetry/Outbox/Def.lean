import Nstu.Telemetry.BatchCodec

/-!
# The client's telemetry outbox

`TelemetryOutbox` of `exam_telemetry_outbox.cpp`: the batches the server has not answered for yet, a
table of what was lost in each session, and the three files of a path — the protected payload, the
expiry barrier beside it and the mark of a revoked payload.

The object and the disk are two values, and a `Machine` is both.  What the system calls answer is an
argument of the operation that makes them: a `WriteAnswer` for a file that is replaced, a Boolean for
one that is removed, and a reading for each look at the clock.  A write or removal that fails leaves
the file as it was.  Each path has its own files; a path whose name is that of another path with a
suffix is not considered.
-/

namespace Nstu.Telemetry.Outbox

open Wire Reader

def kMaximumTelemetryOutboxBatches : ℕ := 4096
def kMaximumTelemetryOutboxBytes : ℕ := 8 * 1024 * 1024
def kTelemetryRetentionMilliseconds : UInt64 := 30 * 24 * 60 * 60 * 1000

def kOutboxMagic : UInt32 := 0x544c4d4f
def kOutboxVersion : UInt16 := 2
def kMaximumLossContexts : ℕ := 64

/-- `outbox_entropy()`, the text `NSTU-Exam-Telemetry-Outbox-v1`. -/
def outboxEntropy : Bytes :=
  [78, 83, 84, 85, 45, 69, 120, 97, 109, 45, 84, 101, 108, 101, 109, 101, 116, 114, 121, 45, 79, 117,
    116, 98, 111, 120, 45, 118, 49]

/-- `set_error`: the first message stays. -/
def setError (error message : String) : String := if error.isEmpty then message else error

def expiredAt (since now : UInt64) : Bool :=
  since != 0 && since ≤ now && kTelemetryRetentionMilliseconds ≤ now - since

/-! ## The platform -/

/-- What the program takes from the system: the digest, and the protection of secrets under a key
of the machine.  What `protect_machine_secret` returns is not a function of the secret; `seed` stands
for the rest.  A protected blob is unprotected again, and it is not much larger than the secret. -/
structure Platform where
  sha256 : Bytes → Digest
  protect : ℕ → Bytes → Bytes → Bytes
  unprotect : Bytes → Bytes → Bytes
  unprotect_protect : ∀ seed entropy plaintext, plaintext ≠ [] →
    unprotect (protect seed entropy plaintext) entropy = plaintext
  protect_ne_nil : ∀ seed entropy plaintext, protect seed entropy plaintext ≠ []
  length_protect_le : ∀ seed entropy plaintext, (protect seed entropy plaintext).length ≤ plaintext.length + 1024

/-- How protecting a secret and replacing a file with the blob ends. -/
inductive WriteAnswer where
  | written (seed : ℕ)
  | failed (message : String)

/-! ## The object -/

structure OutboxRecord where
  batch : TelemetryBatch
  encodedBytes : Bytes
  retryCount : UInt16
  nextEligibleRetryTimeMs : UInt64
  localEnqueuedAtUnixMs : UInt64
  inFlight : Bool
  inFlightUntilMs : UInt64
  expiryObserved : Bool
  deriving DecidableEq

structure TelemetryOutboxAggregateLoss where
  sessionId : SessionId
  rejectedBatches : UInt64
  conflictBatches : UInt64
  expiredBatches : UInt64
  firstRecordedUnixMs : UInt64
  lastUpdatedUnixMs : UInt64
  deriving DecidableEq

/-- `TelemetryOutboxAggregateLoss{}` with a session. -/
def TelemetryOutboxAggregateLoss.new (sessionId : SessionId) : TelemetryOutboxAggregateLoss :=
  ⟨sessionId, 0, 0, 0, 0, 0⟩

/-- Nothing is counted in the entry. -/
def TelemetryOutboxAggregateLoss.isEmpty (loss : TelemetryOutboxAggregateLoss) : Bool :=
  loss.rejectedBatches == 0 && loss.conflictBatches == 0 && loss.expiredBatches == 0

structure ExpiredBatchIdentity where
  sessionId : SessionId
  producerId : ProducerId
  sequence : UInt64
  deriving DecidableEq

def batchIdentity (batch : TelemetryBatch) : ExpiredBatchIdentity :=
  ⟨batch.sessionId, batch.producerId, batch.sequence⟩

/-- What a record's retention is counted from. -/
def OutboxRecord.since (record : OutboxRecord) : UInt64 :=
  min record.localEnqueuedAtUnixMs record.batch.firstEnqueuedAtUnixMilliseconds

/-- Where the outbox is kept, `std::filesystem::path`. -/
abbrev Path := String

/-- `TelemetryOutbox::Impl`. -/
structure TelemetryOutbox where
  isOpen : Bool
  revocationPending : Bool
  path : Path
  losses : List TelemetryOutboxAggregateLoss
  activeSessionId : SessionId
  records : List OutboxRecord
  totalPayloadBytes : UInt64
  expiryRetryPending : Bool
  expiredLossContexts : List SessionId
  expiredBatchIdentities : List ExpiredBatchIdentity
  expiryObservationOverflow : Bool
  expiryBarrierMs : UInt64

/-- `TelemetryOutbox()`. -/
def TelemetryOutbox.new : TelemetryOutbox :=
  ⟨false, false, "", [], Block.zero 16, [], 0, false, [], [], false, 0⟩

/-- The files of one path. -/
structure OutboxFiles where
  payload : Option Bytes
  expiry : Option Bytes
  revoked : Bool

abbrev Disk := Path → OutboxFiles

structure Machine where
  outbox : TelemetryOutbox
  disk : Disk

def Machine.files (machine : Machine) : OutboxFiles := machine.disk machine.outbox.path

/-- The disk with the files of the outbox's path changed. -/
def Machine.changeFiles (machine : Machine) (change : OutboxFiles → OutboxFiles) : Disk :=
  Function.update machine.disk machine.outbox.path (change machine.files)

/-! ## The payload file -/

def lossBytes (loss : TelemetryOutboxAggregateLoss) : Bytes :=
  [loss.sessionId.toList, le loss.rejectedBatches, le loss.conflictBatches, le loss.expiredBatches,
    le loss.firstRecordedUnixMs, le loss.lastUpdatedUnixMs].flatten

def recordBytes (record : OutboxRecord) : Bytes :=
  [le (UInt32.ofNat record.encodedBytes.length), record.encodedBytes, le record.retryCount,
    le record.nextEligibleRetryTimeMs, le record.localEnqueuedAtUnixMs].flatten

/-- What `persist_locked` writes, without the digest. -/
def outboxPlaintext (outbox : TelemetryOutbox) : Bytes :=
  [le kOutboxMagic, le kOutboxVersion, le (0 : UInt16), outbox.activeSessionId.toList,
    le (UInt32.ofNat outbox.losses.length), outbox.losses.flatMap lossBytes,
    le (UInt32.ofNat outbox.records.length), outbox.records.flatMap recordBytes].flatten

section Operations

variable (platform : Platform)

/-- The file that holds an outbox. -/
def protectedPayload (seed : ℕ) (outbox : TelemetryOutbox) : Bytes :=
  platform.protect seed outboxEntropy (outboxPlaintext outbox ++ (platform.sha256 (outboxPlaintext outbox)).toList)

/-- `persist_locked`: the disk with the payload file replaced. -/
def persistLocked (answer : WriteAnswer) (machine : Machine) : Except String Disk :=
  if !machine.outbox.isOpen then .error "outbox is not open"
  else match sha256Of platform.sha256 (outboxPlaintext machine.outbox) with
  | none => .error "failed to compute outbox checksum"
  | some _ => match answer with
    | .failed message => .error message
    | .written seed => .ok (machine.changeFiles fun files =>
      { files with payload := some (protectedPayload platform seed machine.outbox) })

/-! ## The expiry barrier -/

def persistExpiryBarrier (answer : WriteAnswer) (now : UInt64) (machine : Machine) :
    Except String Machine :=
  if now ≤ machine.outbox.expiryBarrierMs then .ok machine
  else match answer with
    | .failed message => .error message
    | .written seed => .ok ⟨{ machine.outbox with expiryBarrierMs := now },
        machine.changeFiles fun files =>
          { files with expiry := some (platform.protect seed outboxEntropy (le now)) }⟩

def clearExpiryBarrier (removed : Bool) (machine : Machine) : Except String Machine :=
  if removed then
    .ok ⟨{ machine.outbox with expiryBarrierMs := 0 }, machine.changeFiles fun files => { files with expiry := none }⟩
  else .error "expiry barrier cleanup failed"

/-- `close_locked()`: the identities of what was seen to expire are kept after a failed cleanup. -/
def closeLocked (outbox : TelemetryOutbox) : TelemetryOutbox :=
  { outbox with
    isOpen := false
    records := []
    totalPayloadBytes := 0
    expiredLossContexts := if outbox.expiryRetryPending then outbox.expiredLossContexts else []
    expiredBatchIdentities :=
      if outbox.expiryRetryPending then outbox.expiredBatchIdentities else [] }

/-! ## Expiry

`prune_expired_locked` in three parts.  `observeExpired` marks what has expired, `sealExpired` writes
the barrier, and `removeExpired` takes the marked records out and writes the payload.
-/

/-- What the loop over the records leaves behind. -/
structure ObservedRecords where
  records : List OutboxRecord
  identities : List ExpiredBatchIdentity
  prunedCount : ℕ
  overflow : Bool

/-- One more record in front of those the loop has seen. -/
def ObservedRecords.cons (record : OutboxRecord) (more : ℕ) (observed : ObservedRecords) :
    ObservedRecords :=
  { observed with records := record :: observed.records, prunedCount := observed.prunedCount + more }

/-- The mark a record gets at a time. -/
def OutboxRecord.observe (record : OutboxRecord) (identities : List ExpiredBatchIdentity)
    (now : UInt64) : OutboxRecord :=
  { record with
    expiryObserved := record.expiryObserved || identities.contains (batchIdentity record.batch) ||
      expiredAt record.since now }

def observeRecords (now : UInt64) : List ExpiredBatchIdentity → List OutboxRecord → ObservedRecords
  | identities, [] => ⟨[], identities, 0, false⟩
  | identities, record :: rest =>
    let seen := record.observe identities now
    if seen.expiryObserved then
      if identities.contains (batchIdentity record.batch) then
        (observeRecords now identities rest).cons seen 1
      else if identities.length = kMaximumTelemetryOutboxBatches then
        ⟨seen :: rest, identities, 0, true⟩
      else
        (observeRecords now (identities ++ [batchIdentity record.batch]) rest).cons seen 1
    else (observeRecords now identities rest).cons seen 0

/-- The contexts whose losses have expired, and whether there were too many of them. -/
def observeLosses (now : UInt64) : List SessionId → List TelemetryOutboxAggregateLoss → List SessionId × Bool
  | contexts, [] => (contexts, false)
  | contexts, loss :: rest =>
    if expiredAt loss.firstRecordedUnixMs now && !contexts.contains loss.sessionId then
      if kMaximumLossContexts ≤ contexts.length then (contexts, true)
      else observeLosses now (contexts ++ [loss.sessionId]) rest
    else observeLosses now contexts rest

def capacityExceeded : String := "expiry observation capacity exceeded; explicit cleanup required"

/-- The outbox with what has expired marked, and how many records have. -/
def observeExpired (now : UInt64) (outbox : TelemetryOutbox) : Except String ℕ × TelemetryOutbox :=
  let observed := observeRecords now outbox.expiredBatchIdentities outbox.records
  let marked := { outbox with
    records := observed.records
    expiredBatchIdentities := observed.identities }
  if observed.overflow then
    (.error capacityExceeded, { marked with expiryRetryPending := true, expiryObservationOverflow := true })
  else
    let contexts := observeLosses now outbox.expiredLossContexts outbox.losses
    let marked := { marked with expiredLossContexts := contexts.1 }
    if contexts.2 then
      (.error capacityExceeded, { marked with expiryRetryPending := true, expiryObservationOverflow := true })
    else (.ok observed.prunedCount, marked)

def TelemetryOutbox.lossHasExpired (outbox : TelemetryOutbox) (now : UInt64)
    (loss : TelemetryOutboxAggregateLoss) : Bool :=
  outbox.expiredLossContexts.contains loss.sessionId || expiredAt loss.firstRecordedUnixMs now

/-- The first entry of a session, changed. -/
def updateSlot (sessionId : SessionId) (change : TelemetryOutboxAggregateLoss → TelemetryOutboxAggregateLoss) :
    List TelemetryOutboxAggregateLoss → List TelemetryOutboxAggregateLoss
  | [] => []
  | loss :: rest =>
    if loss.sessionId = sessionId then change loss :: rest
    else loss :: updateSlot sessionId change rest

def hasSlot (sessionId : SessionId) (losses : List TelemetryOutboxAggregateLoss) : Bool :=
  losses.any fun loss => loss.sessionId == sessionId

/-- The table with an entry for a session. -/
def withSlot (sessionId : SessionId) (losses : List TelemetryOutboxAggregateLoss) :
    List TelemetryOutboxAggregateLoss :=
  if hasSlot sessionId losses then losses else losses ++ [.new sessionId]

/-- A counter that stops at the number of batches an outbox may hold. -/
def countUp (counter : UInt64) : UInt64 :=
  if counter < UInt64.ofNat kMaximumTelemetryOutboxBatches then counter + 1 else counter

def TelemetryOutboxAggregateLoss.stamped (loss : TelemetryOutboxAggregateLoss) (stamp : UInt64) :
    TelemetryOutboxAggregateLoss :=
  { loss with
    lastUpdatedUnixMs := stamp
    firstRecordedUnixMs := if loss.firstRecordedUnixMs = 0 then stamp else loss.firstRecordedUnixMs }

def recordExpired (sessionId : SessionId) (stamp : UInt64)
    (losses : List TelemetryOutboxAggregateLoss) : List TelemetryOutboxAggregateLoss :=
  updateSlot sessionId (fun loss => { loss with expiredBatches := countUp loss.expiredBatches }.stamped stamp)
    (withSlot sessionId losses)

/-- One more record, for the contexts of expired records that have no entry yet. -/
def addIncoming (now : UInt64) (outbox : TelemetryOutbox) (contexts : List SessionId)
    (record : OutboxRecord) : List SessionId :=
  if record.expiryObserved = false then contexts
  else if (outbox.losses.any fun loss =>
      loss.sessionId == record.batch.sessionId && !outbox.lossHasExpired now loss) ||
      contexts.contains record.batch.sessionId then contexts
  else contexts ++ [record.batch.sessionId]

def incomingContexts (now : UInt64) (outbox : TelemetryOutbox) : List SessionId :=
  outbox.records.foldl (addIncoming now outbox) []

/-- What the loop that takes the records out has done so far. -/
structure Removal where
  retained : List OutboxRecord
  expired : List (ℕ × OutboxRecord)
  losses : List TelemetryOutboxAggregateLoss
  totalPayloadBytes : UInt64

def removeRecords (now : UInt64) (clock : ℕ → UInt64) : ℕ → List OutboxRecord → Removal → Removal
  | _, [], removal => removal
  | index, record :: rest, removal =>
    if record.expiryObserved then
      removeRecords now clock (index + 1) rest { removal with
          totalPayloadBytes :=
            removal.totalPayloadBytes - UInt64.ofNat record.encodedBytes.length
          losses := recordExpired record.batch.sessionId (min now (clock index)) removal.losses
          expired := removal.expired ++ [(index, record)] }
    else
      removeRecords now clock (index + 1) rest { removal with retained := removal.retained ++ [record] }

/-- The records in their original order again. -/
def restoreRecords : ℕ → ℕ → List OutboxRecord → List (ℕ × OutboxRecord) → List OutboxRecord
  | _, 0, _, _ => []
  | index, more + 1, kept, (position, record) :: removed =>
    if position = index then record :: restoreRecords (index + 1) more kept removed
    else match kept with
      | [] => []
      | first :: kept => first :: restoreRecords (index + 1) more kept ((position, record) :: removed)
  | _, _ + 1, [], [] => []
  | index, more + 1, first :: kept, [] => first :: restoreRecords (index + 1) more kept []

/-- What one call of `prune_expired_locked` meets. -/
structure PruneCalls where
  barrier : WriteAnswer
  payload : WriteAnswer
  barrierRemoved : Bool
  clock : ℕ → UInt64

/-- The last part: the marked records leave and are counted, or everything is as it was. -/
def removeExpired (calls : PruneCalls) (now : UInt64) (prunedCount : ℕ) (machine : Machine) :
    Except String ℕ × Machine :=
  let outbox := machine.outbox
  let expiring := outbox.losses.countP (outbox.lossHasExpired now)
  if kMaximumLossContexts < outbox.losses.length - expiring + (incomingContexts now outbox).length then
    (.error "telemetry loss context quota exceeded", machine)
  else
    let losses := outbox.losses.filter fun loss => !outbox.lossHasExpired now loss
    let removal := removeRecords now calls.clock 0 outbox.records
      ⟨[], [], losses, outbox.totalPayloadBytes⟩
    let removed := { outbox with
      records := removal.retained
      losses := removal.losses
      totalPayloadBytes := removal.totalPayloadBytes }
    match persistLocked platform calls.payload ⟨removed, machine.disk⟩ with
    | .error message =>
      (.error message, ⟨{ removed with
          records := restoreRecords 0 (removal.retained.length + removal.expired.length)
            removal.retained removal.expired
          totalPayloadBytes := outbox.totalPayloadBytes
          losses := outbox.losses }, machine.disk⟩)
    | .ok disk =>
      let cleaned : Machine := ⟨{ removed with
        expiryRetryPending := false
        expiredLossContexts := []
        expiredBatchIdentities := [] }, disk⟩
      match clearExpiryBarrier calls.barrierRemoved cleaned with
      | .error message => (.error message, cleaned)
      | .ok cleared => (.ok prunedCount, cleared)

def pruneExpiredLocked (calls : PruneCalls) (now : UInt64) (forcePersist : Bool)
    (machine : Machine) : Except String ℕ × Machine :=
  let now := max now machine.outbox.expiryBarrierMs
  if machine.outbox.expiryObservationOverflow then (.error capacityExceeded, machine)
  else match observeExpired now machine.outbox with
  | (.error message, observed) => (.error message, { machine with outbox := observed })
  | (.ok prunedCount, observed) =>
    let lossExpired := observed.losses.any (observed.lossHasExpired now)
    if prunedCount = 0 ∧ lossExpired = false ∧ forcePersist = false ∧ observed.expiryRetryPending = false then
      if observed.expiryBarrierMs ≠ 0 then
        match clearExpiryBarrier calls.barrierRemoved { machine with outbox := observed } with
        | .error message => (.error message, { machine with outbox := observed })
        | .ok cleared => (.ok 0, cleared)
      else (.ok 0, { machine with outbox := observed })
    else
      let pending : Machine := { machine with
        outbox := { observed with
          expiryRetryPending :=
            observed.expiryRetryPending || prunedCount != 0 || lossExpired } }
      if pending.outbox.expiryRetryPending then
        match persistExpiryBarrier platform calls.barrier now pending with
        | .error message => (.error message, pending)
        | .ok barred => removeExpired platform calls now prunedCount barred
      else removeExpired platform calls now prunedCount pending

/-! ## Sending -/

/-- What one call of `enqueue` meets. -/
structure EnqueueCalls where
  start : UInt64
  prune : PruneCalls
  arrival : UInt64
  payload : WriteAnswer

/-- The exam context of two batches is the same. -/
def sameContext (active batch : TelemetryBatch) : Bool :=
  active.sessionId == batch.sessionId && active.packageId == batch.packageId &&
    active.packageDigest == batch.packageDigest && active.clientId == batch.clientId &&
    active.candidateId == batch.candidateId

/-- An entry that can be given to another session. -/
def unusedSlot (records : List OutboxRecord) (loss : TelemetryOutboxAggregateLoss) : Bool :=
  loss.isEmpty && records.all fun record => record.batch.sessionId != loss.sessionId

/-- The entry `enqueue` uses: that of the session, an unused one when the table is full, or a new
one. -/
def reserveSlot (batch : TelemetryBatch) (outbox : TelemetryOutbox) : Option (List TelemetryOutboxAggregateLoss) :=
  if hasSlot batch.sessionId outbox.losses then some outbox.losses
  else if kMaximumLossContexts ≤ outbox.losses.length then
    match outbox.losses.find? (unusedSlot outbox.records) with
    | none => none
    | some unused => some (updateSlot unused.sessionId
        (fun loss => { loss with sessionId := batch.sessionId }) outbox.losses)
  else some (outbox.losses ++ [.new batch.sessionId])

/-- The table after a failed write: an entry that was added leaves, and another one is again what it
was. -/
def releaseSlot (sessionId : SessionId) (before reserved : List TelemetryOutboxAggregateLoss) :
    List TelemetryOutboxAggregateLoss :=
  let slot := reserved.findIdx fun loss => loss.sessionId == sessionId
  match before[slot]? with
  | none => reserved.dropLast
  | some oldLossSlot => reserved.set slot oldLossSlot

/-- `enqueue` after the expiry of what was there. -/
def admitBatch (calls : EnqueueCalls) (batch : TelemetryBatch) (machine : Machine) : Except String Unit × Machine :=
  let outbox := machine.outbox
  if (outbox.records.head?.any fun active => !sameContext active.batch batch) then
    (.error "conflicting exam context for outbox", machine)
  else match reserveSlot batch outbox with
  | none => (.error "telemetry loss context quota exceeded", machine)
  | some losses =>
    if outbox.records.any fun record =>
        record.batch.producerId == batch.producerId && record.batch.sequence == batch.sequence then
      (.error "duplicate sequence for producer", machine)
    else
      let encoded := encodeTelemetryBatch batch
      if encoded.isEmpty then (.error "failed to encode telemetry batch", machine)
      else if kMaximumTelemetryOutboxBatches < outbox.records.length + 1 then
        (.error "telemetry outbox batch quota exceeded", machine)
      else if UInt64.ofNat kMaximumTelemetryOutboxBytes < outbox.totalPayloadBytes + UInt64.ofNat encoded.length then
        (.error "telemetry outbox byte quota exceeded", machine)
      else
        let record : OutboxRecord := ⟨batch, encoded, 0, 0, calls.arrival, false, 0, false⟩
        let added := { outbox with
          losses := losses
          activeSessionId := batch.sessionId
          records := outbox.records ++ [record]
          totalPayloadBytes := outbox.totalPayloadBytes + UInt64.ofNat encoded.length }
        match persistLocked platform calls.payload ⟨added, machine.disk⟩ with
        | .error message =>
          (.error message, ⟨{ added with
              records := added.records.dropLast
              totalPayloadBytes := added.totalPayloadBytes - UInt64.ofNat encoded.length
              activeSessionId := outbox.activeSessionId
              losses := releaseSlot batch.sessionId outbox.losses added.losses }, machine.disk⟩)
        | .ok disk => (.ok (), ⟨added, disk⟩)

def enqueue (calls : EnqueueCalls) (batch : TelemetryBatch) (machine : Machine) : Except String Unit × Machine :=
  if !machine.outbox.isOpen then (.error "outbox is not open", machine)
  else if !validateTelemetryBatch batch then (.error "invalid telemetry batch", machine)
  else if machine.outbox.expiryRetryPending || machine.outbox.expiryBarrierMs != 0 then
    match pruneExpiredLocked platform calls.prune calls.start false machine with
    | (.error message, pruned) => (.error message, pruned)
    | (.ok _, pruned) => admitBatch platform calls batch pruned
  else admitBatch platform calls batch machine

/-! ## Answers -/

inductive TelemetryAckApplyResult where
  | retired
  | deletedTerminal
  | retryScheduled
  | ignoredMismatch
  | storageFailed
  deriving DecidableEq

/-- What one call of `acknowledge` meets. -/
structure AckCalls where
  start : UInt64
  prune : PruneCalls
  stamp : UInt64
  payload : WriteAnswer

def ackMatches (ack : TelemetryAck) (record : OutboxRecord) : Bool :=
  record.batch.sessionId == ack.sessionId && record.batch.producerId == ack.producerId &&
    record.batch.sequence == ack.sequence

/-- The delay before another attempt, two seconds at first and a minute at most. -/
def retryDelay (retryCount : UInt16) : UInt64 :=
  min (2000 <<< UInt64.ofNat (min (retryCount.toNat - 1) 5)) 60000

/-- The record after an answer that the server is not available. -/
def OutboxRecord.rescheduled (record : OutboxRecord) (now : UInt64) : OutboxRecord :=
  let retryCount := if record.retryCount < 0xffff then record.retryCount + 1 else record.retryCount
  { record with
    inFlight := false
    inFlightUntilMs := 0
    retryCount
    nextEligibleRetryTimeMs := now + retryDelay retryCount }

/-- What a final refusal adds to the entry of its session. -/
def countRefusal (status : TelemetryAckStatus) (stamp : UInt64)
    (loss : TelemetryOutboxAggregateLoss) : TelemetryOutboxAggregateLoss :=
  let counted :=
    if status = .rejected then { loss with rejectedBatches := countUp loss.rejectedBatches }
    else if status = .conflict then { loss with conflictBatches := countUp loss.conflictBatches }
    else loss
  counted.stamped stamp

/-- The table after an answer that ends the record of a session; `none` when it has no room. -/
def settleLosses (status : TelemetryAckStatus) (sessionId : SessionId) (stamp : UInt64)
    (losses : List TelemetryOutboxAggregateLoss) : Option (List TelemetryOutboxAggregateLoss) :=
  if status = .accepted ∨ status = .duplicate then some losses
  else if !hasSlot sessionId losses && kMaximumLossContexts ≤ losses.length then none
  else some (updateSlot sessionId (countRefusal status stamp) (withSlot sessionId losses))

def settledResult (status : TelemetryAckStatus) : TelemetryAckApplyResult :=
  if status = .accepted ∨ status = .duplicate then .retired else .deletedTerminal

/-- The result of `acknowledge` and its message. -/
abbrev AckOutcome := TelemetryAckApplyResult × String

/-- An answer for the record at a position. -/
def applyAck (calls : AckCalls) (now : UInt64) (ack : TelemetryAck) (index : ℕ)
    (record : OutboxRecord) (machine : Machine) : AckOutcome × Machine :=
  let outbox := machine.outbox
  if ack.status = .unavailable then
    let scheduled := { outbox with records := outbox.records.set index (record.rescheduled now) }
    match persistLocked platform calls.payload ⟨scheduled, machine.disk⟩ with
    | .error message =>
      ((.storageFailed, message), ⟨{ scheduled with records := scheduled.records.set index record }, machine.disk⟩)
    | .ok disk => ((.retryScheduled, ""), ⟨scheduled, disk⟩)
  else
    let taken := { outbox with
      records := outbox.records.eraseIdx index
      totalPayloadBytes := outbox.totalPayloadBytes - UInt64.ofNat record.encodedBytes.length }
    match settleLosses ack.status record.batch.sessionId (min now calls.stamp) outbox.losses with
    | none =>
      ((.storageFailed, "telemetry loss context quota exceeded"), ⟨{ taken with
          records := taken.records.insertIdx index record
          totalPayloadBytes := outbox.totalPayloadBytes }, machine.disk⟩)
    | some losses =>
      let settled := { taken with losses := losses }
      match persistLocked platform calls.payload ⟨settled, machine.disk⟩ with
      | .error message =>
        ((.storageFailed, message), ⟨{ settled with
            records := settled.records.insertIdx index record
            totalPayloadBytes := outbox.totalPayloadBytes
            losses := outbox.losses }, machine.disk⟩)
      | .ok disk => ((settledResult ack.status, ""), ⟨settled, disk⟩)

/-- `acknowledge` after the expiry of what was there. -/
def matchAck (calls : AckCalls) (now : UInt64) (ack : TelemetryAck) (machine : Machine) : AckOutcome × Machine :=
  match machine.outbox.records.findIdx? (ackMatches ack) with
  | none => ((.ignoredMismatch, ""), machine)
  | some index => match machine.outbox.records[index]? with
    | none => ((.ignoredMismatch, ""), machine)
    | some record =>
      if computeTelemetryBatchHash platform.sha256 record.batch ≠ some ack.batchHash then
        ((.ignoredMismatch, ""), machine)
      else applyAck platform calls now ack index record machine

def acknowledge (calls : AckCalls) (ack : TelemetryAck) (now : UInt64) (machine : Machine) : AckOutcome × Machine :=
  if !machine.outbox.isOpen then ((.ignoredMismatch, "outbox is not open"), machine)
  else
    let now := if now = 0 then calls.start else now
    if machine.outbox.expiryRetryPending then
      match pruneExpiredLocked platform calls.prune now false machine with
      | (.error message, pruned) => ((.storageFailed, message), pruned)
      | (.ok _, pruned) => matchAck platform calls now ack pruned
    else matchAck platform calls now ack machine

/-! ## Offers -/

/-- What a call that prunes first meets. -/
structure OfferCalls where
  start : UInt64
  prune : PruneCalls

/-- The record when its deadline is reclaimed and clamped, or `none` when it is still in flight. -/
def OutboxRecord.reclaimed (record : OutboxRecord) (now timeout : UInt64) : Option OutboxRecord :=
  if record.inFlight then
    if record.inFlightUntilMs < now || now + timeout < record.inFlightUntilMs then
      some { record with inFlight := false, inFlightUntilMs := 0 }
    else none
  else some record

/-- A deadline, at most a minute after now. -/
def clampTime (deadline now : UInt64) : UInt64 :=
  if now + 60000 < deadline then now + 60000 else deadline

def OutboxRecord.clampDeadline (record : OutboxRecord) (now : UInt64) : OutboxRecord :=
  { record with nextEligibleRetryTimeMs := clampTime record.nextEligibleRetryTimeMs now }

/-- The loop of `next_batch_to_send`. -/
def offerRecords (now timeout : UInt64) : List OutboxRecord → Option TelemetryBatch × List OutboxRecord
  | [] => (none, [])
  | record :: rest =>
    let skip (record : OutboxRecord) :=
      let offered := offerRecords now timeout rest
      (offered.1, record :: offered.2)
    if record.expiryObserved || expiredAt record.since now then skip record
    else match record.reclaimed now timeout with
      | none => skip record
      | some reclaimed =>
        let clamped := reclaimed.clampDeadline now
        if now < clamped.nextEligibleRetryTimeMs then skip clamped
        else
          (some clamped.batch, { clamped with inFlight := true, inFlightUntilMs := now + timeout } :: rest)

def nextBatchToSend (calls : OfferCalls) (now timeout : UInt64) (machine : Machine) :
    Option TelemetryBatch × Machine :=
  if !machine.outbox.isOpen then (none, machine)
  else
    let now := if now = 0 then calls.start else now
    match pruneExpiredLocked platform calls.prune now false machine with
    | (.error _, pruned) => (none, pruned)
    | (.ok _, pruned) =>
      let offered := offerRecords now timeout pruned.outbox.records
      (offered.1, { pruned with outbox := { pruned.outbox with records := offered.2 } })

def clearInflight (machine : Machine) : Machine :=
  { machine with outbox := { machine.outbox with
    records := machine.outbox.records.map fun record =>
      { record with inFlight := false, inFlightUntilMs := 0 } } }

def pruneExpired (calls : OfferCalls) (now : UInt64) (machine : Machine) : Except String ℕ × Machine :=
  if !machine.outbox.isOpen then (.ok 0, machine)
  else pruneExpiredLocked platform calls.prune (if now = 0 then calls.start else now) false machine

/-! ## Revocation -/

/-- What one call of `purge` or `clear` meets. -/
structure PurgeCalls where
  payload : WriteAnswer
  marked : Bool
  payloadRemoved : Bool

/-- The end of `purge` and `clear`: an emptied outbox is written, or its payload is marked and
removed as far as that is possible and the outbox is closed. -/
def persistEmptied (calls : PurgeCalls) (remains failed : String) (machine : Machine) :
    Except String Unit × Machine :=
  match persistLocked platform calls.payload machine with
  | .ok disk => (.ok (), { machine with disk })
  | .error message =>
    let removed := machine.files.payload.isSome && calls.payloadRemoved
    (.error (setError message (if !calls.marked && !removed then remains else failed)),
      ⟨{ machine.outbox with isOpen := false, revocationPending := true },
        machine.changeFiles fun files => { files with
          payload := if calls.payloadRemoved then none else files.payload
          revoked := files.revoked || calls.marked }⟩)

def purge (calls : PurgeCalls) (machine : Machine) : Except String Unit × Machine :=
  if !machine.outbox.isOpen then (.error "outbox is not open", machine)
  else
    let outbox := machine.outbox
    persistEmptied platform calls "revoked payload remains: deletion and marker failed"
      "failed to persist purged outbox; closed"
      { machine with
        outbox := { outbox with
          records := []
          totalPayloadBytes := 0
          losses := outbox.losses.filter fun loss =>
            !outbox.expiredLossContexts.contains loss.sessionId
          expiredLossContexts := []
          expiredBatchIdentities := []
          expiryObservationOverflow := false
          expiryRetryPending := false } }

def clear (calls : PurgeCalls) (machine : Machine) : Except String Unit × Machine :=
  if !machine.outbox.isOpen then (.error "outbox is not open", machine)
  else
    persistEmptied platform calls "cleared payload remains: deletion and marker failed"
      "failed to persist cleared outbox; closed"
      { machine with
        outbox := { machine.outbox with
          records := []
          totalPayloadBytes := 0
          losses := []
          activeSessionId := Block.zero 16
          expiredLossContexts := []
          expiredBatchIdentities := []
          expiryObservationOverflow := false
          expiryRetryPending := false } }

end Operations

end Nstu.Telemetry.Outbox
