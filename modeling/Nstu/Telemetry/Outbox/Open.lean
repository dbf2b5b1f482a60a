import Nstu.Telemetry.Outbox.Def

/-!
# Opening the outbox

`TelemetryOutbox::open`.  What is wrong with a file that could be decrypted is a `LoadError`: a file
that is `corrupt`, or has a batch that is `undecodable`, is put into quarantine, and one that is
`refused` stays where it is.  Everything read before the file is decrypted is left alone when it
fails.

`open` runs in stages, and each of them returns what it leaves of the files: the age of the payload,
the expiry barrier, the mark of a revoked payload, and the payload itself.
-/

namespace Nstu.Telemetry.Outbox

open Wire Reader

/-! ## The payload -/

inductive LoadError where
  | corrupt (message : String)
  | undecodable (message : String)
  | refused (message : String)

/-- Readers of the payload. -/
abbrev Loader := StateT Bytes (Except LoadError)

namespace Loader

variable {α : Type}

/-- Run a reader; a failure is corruption. -/
def orCorrupt (reader : Reader α) (message : String) : Loader α := fun s =>
  match reader.run s with
  | some result => .ok result
  | none => .error (.corrupt message)

def fail (error : LoadError) : Loader α := fun _ => .error error

end Loader

open Loader

def readVersion : Reader UInt16 := do
  let magic : UInt32 ← readLe
  require (magic = kOutboxMagic)
  let version : UInt16 ← readLe
  require (version = 1 ∨ version = kOutboxVersion)
  let reserved : UInt16 ← readLe
  require (reserved = 0)
  pure version

def readCounters (sessionId : SessionId) : Reader TelemetryOutboxAggregateLoss := do
  let rejected : UInt64 ← readLe
  let conflict : UInt64 ← readLe
  let expired : UInt64 ← readLe
  let firstRecorded : UInt64 ← readLe
  let lastUpdated : UInt64 ← readLe
  pure ⟨sessionId, rejected, conflict, expired, firstRecorded, lastUpdated⟩

def readLosses : ℕ → List TelemetryOutboxAggregateLoss → Loader (List TelemetryOutboxAggregateLoss)
  | 0, losses => pure losses
  | more + 1, losses => do
    let sessionId ← orCorrupt (readBlock 16) "outbox loss context truncated"
    let loss ← orCorrupt (readCounters sessionId) "outbox loss metadata corrupted"
    if sessionId = Block.zero 16 ∨ hasSlot sessionId losses = true then
      fail (.corrupt "outbox loss metadata corrupted")
    else readLosses more (losses ++ [loss])

/-- The session and the losses in front of the batches. -/
def readContext (version : UInt16) : Loader (SessionId × List TelemetryOutboxAggregateLoss) :=
  if version = 1 then do
    let legacyLoss ← orCorrupt (readCounters (Block.zero 16)) "outbox loss metadata corrupted"
    pure (Block.zero 16, [legacyLoss])
  else do
    let activeSession ← orCorrupt (readBlock 16) "outbox context truncated"
    let lossCount : UInt32 ← orCorrupt readLe "outbox loss context count invalid"
    if kMaximumLossContexts < lossCount.toNat then
      fail (.corrupt "outbox loss context count invalid")
    else do
      let losses ← readLosses lossCount.toNat []
      pure (activeSession, losses)

/-- What has been loaded so far. -/
structure Loaded where
  activeSession : SessionId
  losses : List TelemetryOutboxAggregateLoss
  records : List OutboxRecord
  payloadBytes : UInt64
  clamped : Bool

/-- The encoded bytes of the next batch. -/
def readBatchSpan : Reader Bytes := do
  let len : UInt32 ← readLe
  readBytes len.toNat

/-- The retry count, the deadline and the arrival of a record; the first format has no arrival. -/
def readRetry (version : UInt16) (batch : TelemetryBatch) : Reader (UInt16 × UInt64 × UInt64) := do
  let retryCount : UInt16 ← readLe
  let deadline : UInt64 ← readLe
  if version = kOutboxVersion then do
    let arrival : UInt64 ← readLe
    pure (retryCount, deadline, arrival)
  else pure (retryCount, deadline, batch.firstEnqueuedAtUnixMilliseconds)

/-- A record as it is read at a time, and whether something of it was clamped. -/
def clampLoaded (now : UInt64) (record : OutboxRecord) : OutboxRecord × Bool :=
  let late := now < record.localEnqueuedAtUnixMs
  let far := now < record.nextEligibleRetryTimeMs ∧ 60000 < record.nextEligibleRetryTimeMs - now
  ({ record with
      localEnqueuedAtUnixMs := if late then now else record.localEnqueuedAtUnixMs
      nextEligibleRetryTimeMs := if far then now + 60000 else record.nextEligibleRetryTimeMs },
    decide late || decide far)

/-- The active session of a file of the first format is that of its first batch. -/
def adoptSession (version : UInt16) (loaded : Loaded) (batch : TelemetryBatch) : SessionId :=
  if version = 1 ∧ loaded.activeSession = Block.zero 16 then batch.sessionId
  else loaded.activeSession

/-- The loop over the batches, for one of them. -/
def readRecord (version : UInt16) (now : UInt64) (loaded : Loaded) : Loader Loaded := do
  let span ← orCorrupt readBatchSpan "outbox batch payload truncated"
  match decodeTelemetryBatch span with
  | .error message =>
    fail (.undecodable (setError message "outbox batch payload could not be decoded"))
  | .ok batch =>
    if kMaximumTelemetryOutboxBytes - loaded.payloadBytes.toNat < span.length then
      fail (.refused "outbox byte quota exceeded on open")
    else do
      let retry ← orCorrupt (readRetry version batch) "outbox retry metadata corrupted"
      let read := clampLoaded now ⟨batch, span, retry.1, retry.2.1, retry.2.2, false, 0, false⟩
      let activeSession := adoptSession version loaded batch
      if read.1.localEnqueuedAtUnixMs = 0 then fail (.corrupt "outbox arrival time invalid")
      else if batch.sessionId ≠ activeSession then
        fail (.corrupt "outbox contains mixed contexts")
      else pure { loaded with
        activeSession
        records := loaded.records ++ [read.1]
        payloadBytes := loaded.payloadBytes + UInt64.ofNat span.length
        clamped := loaded.clamped || read.2 }

def readRecords (version : UInt16) (now : UInt64) : ℕ → Loaded → Loader Loaded
  | 0, loaded => pure loaded
  | more + 1, loaded => do
    let loaded ← readRecord version now loaded
    readRecords version now more loaded

/-- An entry of the table as it is read at a time, and whether something of it was clamped. -/
def clampLoss (now : UInt64) (loss : TelemetryOutboxAggregateLoss) : TelemetryOutboxAggregateLoss × Bool :=
  let first := now < loss.firstRecordedUnixMs
  let last := now < loss.lastUpdatedUnixMs
  ({ loss with
      firstRecordedUnixMs := if first then now else loss.firstRecordedUnixMs
      lastUpdatedUnixMs := if last then now else loss.lastUpdatedUnixMs },
    decide first || decide last)

/-- The checks after the last batch, and the entries that count nothing dropped. -/
def settleLoaded (version : UInt16) (now : UInt64) (loaded : Loaded) : Except LoadError Loaded :=
  let losses :=
    if version = 1 ∧ loaded.records ≠ [] then
      match loaded.losses with
      | [] => []
      | first :: rest => { first with sessionId := loaded.activeSession } :: rest
    else loaded.losses
  if version = 1 ∧ loaded.records = [] ∧ (losses.head?.any fun loss => !loss.isEmpty) = true then
    .error (.refused "legacy outbox loss context cannot be determined")
  else if version = kOutboxVersion ∧ loaded.activeSession = Block.zero 16 ∧ loaded.records ≠ [] then
    .error (.corrupt "outbox context missing")
  else if losses.any fun loss => loss.firstRecordedUnixMs == 0 && !loss.isEmpty then
    .error (.corrupt "outbox loss retention timestamp missing")
  else
    let kept := (losses.map fun loss => (clampLoss now loss).1).filter fun loss => !loss.isEmpty
    .ok { loaded with
      losses := kept
      clamped := loaded.clamped || losses.any (fun loss => (clampLoss now loss).2) ||
        decide (kept.length ≠ losses.length) }

def readOutbox (now : UInt64) : Loader (UInt16 × Loaded) := do
  let version ← orCorrupt readVersion "outbox header invalid"
  let context ← readContext version
  let batchCount : UInt32 ← orCorrupt readLe "outbox batch count corrupted"
  if kMaximumTelemetryOutboxBatches < batchCount.toNat then
    fail (.refused "outbox batch count exceeds maximum quota")
  else do
    let loaded ← readRecords version now batchCount.toNat
      ⟨context.1, context.2, [], 0, decide (version = 1)⟩
    pure (version, loaded)

section Open

variable (platform : Platform)

/-- Everything that `open` checks once the payload is decrypted. -/
def loadOutbox (now : UInt64) (plaintext : Bytes) : Except LoadError Loaded :=
  if plaintext.length < 4 + 2 + 2 + 4 + 32 then .error (.corrupt "outbox plaintext too short")
  else
    let payload := plaintext.take (plaintext.length - 32)
    match sha256Of platform.sha256 payload with
    | none => .error (.refused "failed to compute outbox checksum")
    | some digest =>
      if digest.toList ≠ plaintext.drop (plaintext.length - 32) then
        .error (.corrupt "outbox checksum mismatch: file corrupted or tampered")
      else match (readOutbox now).run payload with
      | .error error => .error error
      | .ok ((version, loaded), rest) =>
        if !rest.isEmpty then .error (.corrupt "trailing bytes in outbox plaintext")
        else settleLoaded version now loaded

/-! ## Stages -/

/-- What `quarantine_corrupted_file` answers: whether the file was moved, and whether the call
succeeded. -/
structure QuarantineAnswer where
  moved : Bool
  succeeded : Bool

/-- What one call of `open` meets.  A `fault` is the message of a call that fails. -/
structure OpenCalls where
  start : UInt64
  quarantineCleaned : Bool
  payloadFound : Bool
  age : Option Bool
  agedRemoved : Bool
  expiryFound : Bool
  expirySized : Bool
  expiryFault : Option String
  revokedFound : Bool
  revokedPayloadRemoved : Bool
  revokedMarkerRemoved : Bool
  payloadFoundAgain : Bool
  created : WriteAnswer
  barrierRemoved : Bool
  readFault : Option String
  decryptFault : Option String
  quarantine : QuarantineAnswer
  prune : PruneCalls

/-- A payload file of more than thirty days is removed. -/
def expireOldPayload (calls : OpenCalls) (files : OutboxFiles) : Except String OutboxFiles :=
  if !calls.payloadFound then .error "failed to stat outbox file"
  else if files.payload.isNone then .ok files
  else match calls.age with
  | none => .error "failed to stat outbox age"
  | some false => .ok files
  | some true =>
    if calls.agedRemoved then .ok { files with payload := none }
    else .error "failed to expire old outbox file"

/-- The time in the expiry file, if there is one. -/
def readExpiryBarrier (calls : OpenCalls) (files : OutboxFiles) : Except String (Option UInt64) :=
  if !calls.expiryFound then .error "expiry barrier unreadable"
  else match files.expiry with
  | none => .ok none
  | some blob =>
    if !calls.expirySized || decide (4096 < blob.length) then
      .error "invalid expiry barrier size"
    else match calls.expiryFault with
    | some message => .error message
    | none =>
      let plaintext := platform.unprotect blob outboxEntropy
      match (readLe : Reader UInt64).run plaintext with
      | none => .error "invalid expiry barrier"
      | some (observed, rest) =>
        if rest.isEmpty && observed != 0 then .ok (some observed)
        else .error "invalid expiry barrier"

/-- A revoked payload is removed, and then its mark. -/
def removeRevoked (calls : OpenCalls) (files : OutboxFiles) : Except String Unit × OutboxFiles :=
  if !calls.revokedFound then (.error "failed to read revocation marker", files)
  else if !files.revoked then (.ok (), files)
  else if !calls.revokedPayloadRemoved then
    (.error "outbox revoked; payload deletion still blocked", files)
  else if !calls.revokedMarkerRemoved then
    (.error "outbox revoked; marker cleanup failed", { files with payload := none })
  else (.ok (), { files with payload := none, revoked := false })

/-- What `read_whole_file` reads at most. -/
def maximumFileBytes : ℕ := kMaximumTelemetryOutboxBytes * 2 + 65536

/-- `read_whole_file` and `unprotect_machine_secret` on the payload. -/
def decryptPayload (calls : OpenCalls) (blob : Bytes) : Except String Bytes :=
  if maximumFileBytes < blob.length then
    .error "outbox file exceeds maximum quota"
  else match calls.readFault with
  | some message => .error message
  | none =>
    if blob.isEmpty then .error "outbox file could not be read"
    else match calls.decryptFault with
    | some message => .error message
    | none =>
      let plaintext := platform.unprotect blob outboxEntropy
      if plaintext.isEmpty then .error "outbox decryption failed" else .ok plaintext

/-- No payload file: an empty one is made. -/
def createPayload (calls : OpenCalls) (machine : Machine) : Except String Unit × Machine :=
  match persistLocked platform calls.created { machine with outbox := { machine.outbox with isOpen := true } } with
  | .error message => (.error message, machine)
  | .ok disk =>
    match clearExpiryBarrier calls.barrierRemoved ⟨{ machine.outbox with isOpen := true }, disk⟩ with
    | .error message => (.error message, { machine with disk })
    | .ok cleared => (.ok (), cleared)

/-- `fail_quarantine`, when `error` is what has been reported before. -/
def failQuarantine (calls : OpenCalls) (error message : String) (machine : Machine) : Except String Unit × Machine :=
  (.error (setError error (if calls.quarantine.succeeded then message else "failed to quarantine invalid outbox")),
    ⟨machine.outbox, machine.changeFiles fun files =>
      { files with payload := if calls.quarantine.moved then none else files.payload }⟩)

/-- The payload file is read, and what it holds is pruned. -/
def loadPayload (calls : OpenCalls) (now : UInt64) (blob : Bytes) (machine : Machine) :
    Except String Unit × Machine :=
  match decryptPayload platform calls blob with
  | .error message => (.error message, machine)
  | .ok plaintext => match loadOutbox platform now plaintext with
    | .error (.corrupt message) => failQuarantine calls "" message machine
    | .error (.undecodable message) => failQuarantine calls message message machine
    | .error (.refused message) => (.error message, machine)
    | .ok loaded =>
      let opened := { machine.outbox with
        activeSessionId := loaded.activeSession
        losses := loaded.losses
        records := loaded.records
        totalPayloadBytes := loaded.payloadBytes
        isOpen := true }
      match pruneExpiredLocked platform calls.prune now loaded.clamped { machine with outbox := opened } with
      | (.error message, pruned) =>
        (.error message, { pruned with outbox := closeLocked pruned.outbox })
      | (.ok _, pruned) => (.ok (), pruned)

/-- The last stage of `open`: the payload, if there is one. -/
def openPayload (calls : OpenCalls) (now : UInt64) (machine : Machine) : Except String Unit × Machine :=
  if !calls.payloadFoundAgain then (.error "failed to stat outbox file", machine)
  else match machine.files.payload with
  | none => createPayload platform calls machine
  | some blob => loadPayload platform calls now blob machine

/-- The stage before it: the mark of a revoked payload. -/
def openUnrevoked (calls : OpenCalls) (now : UInt64) (machine : Machine) : Except String Unit × Machine :=
  match removeRevoked calls machine.files with
  | (.error message, files) =>
    (.error message, { machine with disk := machine.changeFiles fun _ => files })
  | (.ok _, files) =>
    openPayload platform calls now { machine with disk := machine.changeFiles fun _ => files }

/-- The object holds the barrier it has read. -/
def TelemetryOutbox.withBarrier (outbox : TelemetryOutbox) : Option UInt64 → TelemetryOutbox
  | none => outbox
  | some observed => { outbox with expiryBarrierMs := max outbox.expiryBarrierMs observed }

/-- The time of `open`, which a barrier on file holds back. -/
def barredTime (now : UInt64) (outbox : TelemetryOutbox) (observed : Option UInt64) : UInt64 :=
  if observed.isSome then max now (outbox.withBarrier observed).expiryBarrierMs else now

/-- The stage before that: the expiry barrier. -/
def openBarred (calls : OpenCalls) (now : UInt64) (machine : Machine) : Except String Unit × Machine :=
  match readExpiryBarrier platform calls machine.files with
  | .error message => (.error message, machine)
  | .ok observed =>
    openUnrevoked platform calls (barredTime now machine.outbox observed)
      { machine with outbox := machine.outbox.withBarrier observed }

/-- `open` once the object is closed and belongs to the path. -/
def openPath (calls : OpenCalls) (now : UInt64) (machine : Machine) : Except String Unit × Machine :=
  match expireOldPayload calls machine.files with
  | .error message => (.error message, machine)
  | .ok files =>
    openBarred platform calls now { machine with disk := machine.changeFiles fun _ => files }

/-- `open`. -/
def openOutbox (calls : OpenCalls) (path : Path) (now : UInt64) (machine : Machine) : Except String Unit × Machine :=
  let now := if now = 0 then calls.start else now
  if (machine.outbox.expiryRetryPending || machine.outbox.expiryBarrierMs != 0) && path != machine.outbox.path then
    (.error "observed expiry cleanup pending; cannot change outbox path", machine)
  else
    let outbox := if machine.outbox.isOpen then closeLocked machine.outbox else machine.outbox
    if path.isEmpty then (.error "outbox path cannot be empty", { machine with outbox })
    else if outbox.revocationPending then
      (.error "outbox revocation pending; restart cleanup required", { machine with outbox })
    else if !calls.quarantineCleaned then
      (.error "failed to clean quarantined outbox files", { machine with outbox })
    else
      openPath platform calls now
        { machine with
          outbox := { outbox with
            path
            records := []
            totalPayloadBytes := 0
            losses := []
            activeSessionId := Block.zero 16 } }

end Open

end Nstu.Telemetry.Outbox
