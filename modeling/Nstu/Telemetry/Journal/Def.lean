import Nstu.Exam.Journal.Def
import Nstu.Telemetry.Batch

/-!
# The server's telemetry journal

`ExamTelemetryJournal` of `exam_telemetry_journal.cpp`: a ring of segment files with the records of
accepted batches, and an index of contexts, producers and sequences that is kept in a metadata file.

The object and the directory it is open on are two values.  System calls are arguments, as in the
answer journal: `PersistAnswer` says how a metadata write ends, `RecordCalls` what one call of
`record_batch` meets, `OpenCalls` what `open` meets.  A segment append that fails leaves the first
bytes of its record behind.

Contexts and producers are in unordered maps.  `Iteration` is the order in which they are walked when
they are written; it is an argument too.
-/

namespace Nstu.Telemetry

open Wire Reader FramedLog

def kDetailRecordMagic : UInt32 := 0x3144544e
def kDetailRecordVersion : UInt16 := 1
def kMetadataMagic : UInt32 := 0x314d544e
def kMetadataVersion : UInt16 := 1

def kDetailSegmentCount : ℕ := 8
def kDetailSegmentBytes : ℕ := 8 * 1024 * 1024
def kMaximumTrackedHashes : ℕ := 262144
def kMaximumHashesPerProducer : ℕ := 4096
def kMaximumActiveContexts : ℕ := 4096
def kMaximumIndexSizeBytes : ℕ := 32 * 1024 * 1024
def kMaximumLifetimeGenerationsPerContext : ℕ := 16
def kTelemetryRetentionMilliseconds : UInt64 := 30 * 24 * 60 * 60 * 1000
def kTelemetryMaxActiveContextMilliseconds : UInt64 := 25 * 60 * 60 * 1000

/-- What a detail record has in front of its batch. -/
def kDetailHeaderBytes : ℕ := 104

/-! ## The index -/

/-- Blocks are compared as the byte strings they are. -/
instance {n : ℕ} : Ord (Block n) := ⟨compareOn Block.toList⟩

instance {n : ℕ} : Std.TransOrd (Block n) :=
  inferInstanceAs (Std.TransCmp (compareOn Block.toList))

-- The keys of the maps below.
instance : Std.TransOrd (Block 16) := inferInstanceAs (Std.TransCmp (compareOn Block.toList))

instance {n : ℕ} : Std.LawfulEqOrd (Block n) where
  eq_of_compare h := Block.toList_injective (Std.LawfulEqCmp.eq_of_compare h)

structure ProducerRecord where
  producerId : ProducerId
  admitted : Bool
  retired : Bool
  generation : UInt32
  currentSequence : UInt64
  replayFloor : UInt64
  trackedSequences : OrderedMap UInt64 (Digest × UInt64)
  conflicts : OrderedMap UInt64 Digest

/-- `ProducerRecord{}`. -/
def ProducerRecord.new : ProducerRecord := ⟨Block.zero 16, false, false, 0, 0, 0, ∅, ∅⟩

abbrev Producers := OrderedMap ProducerId ProducerRecord

structure ContextRecord where
  sessionId : SessionId
  authorized : Bool
  authorizedAtUnixMs : UInt64
  stopped : Bool
  lifetimeGenerations : UInt32
  producers : Producers

/-- `ContextRecord{}`. -/
def ContextRecord.new : ContextRecord := ⟨Block.zero 16, false, 0, false, 0, ∅⟩

abbrev Contexts := OrderedMap SessionId ContextRecord

/-- How the unordered maps of a process are walked. -/
structure Iteration where
  contexts : Contexts → List (SessionId × ContextRecord)
  contexts_perm : ∀ map, (contexts map).Perm map.toList
  producers : Producers → List (ProducerId × ProducerRecord)
  producers_perm : ∀ map, (producers map).Perm map.toList

/-- The walk in the order of the keys. -/
def Iteration.byKey : Iteration :=
  ⟨fun map => map.toList, fun _ => List.Perm.refl _, fun map => map.toList, fun _ => List.Perm.refl _⟩

instance : NeZero kDetailSegmentCount := ⟨by decide⟩

abbrev Segment := Fin kDetailSegmentCount

/-- `ExamTelemetryJournal::Impl`. -/
structure TelemetryJournal where
  isOpen : Bool
  diskFailureInjection : Bool
  segmentSizeLimitForTesting : ℕ
  activeSegment : Segment
  activeSegmentBytes : ℕ
  segmentSizes : Segment → ℕ
  contexts : Contexts

/-- A constructed object. -/
def TelemetryJournal.new : TelemetryJournal := ⟨false, false, 0, 0, 0, fun _ => 0, ∅⟩

/-- The files of a journal directory; `none` is a file that does not exist. -/
structure Directory where
  metadata : Option Bytes
  segments : Segment → Option Bytes

def Directory.empty : Directory := ⟨none, fun _ => none⟩

/-- What an operation leaves and returns. -/
structure Outcome (α : Type) where
  journal : TelemetryJournal
  directory : Directory
  value : α
  error : Option String := none

def TelemetryJournal.effectiveSegmentBytes (journal : TelemetryJournal) : ℕ :=
  if 0 < journal.segmentSizeLimitForTesting then journal.segmentSizeLimitForTesting
  else kDetailSegmentBytes

def totalTrackedHashes (contexts : Contexts) : ℕ :=
  (contexts.toList.map fun entry =>
    (entry.2.producers.toList.map fun producer => producer.2.trackedSequences.size).sum).sum

/-- `is_context_active`. -/
def ContextRecord.isActive (context : ContextRecord) (now : UInt64) : Bool :=
  if !context.authorized || context.stopped then false
  else if 0 < now && context.authorizedAtUnixMs + kTelemetryMaxActiveContextMilliseconds ≤ now then
    false
  else true

/-! ## The metadata file -/

def flagByte (flag : Bool) : UInt8 := if flag then 1 else 0

def encodeTracked (entry : UInt64 × (Digest × UInt64)) : Bytes :=
  [le entry.1, le entry.2.2, entry.2.1.toList].flatten

def encodeConflict (entry : UInt64 × Digest) : Bytes := le entry.1 ++ entry.2.toList

def encodeProducer (producer : ProducerRecord) : Bytes :=
  [producer.producerId.toList, le (flagByte producer.admitted), le (flagByte producer.retired),
    le (0 : UInt16), le producer.generation, le producer.currentSequence, le producer.replayFloor,
    le (UInt32.ofNat producer.trackedSequences.size),
    producer.trackedSequences.toList.flatMap encodeTracked,
    le (UInt32.ofNat producer.conflicts.size),
    producer.conflicts.toList.flatMap encodeConflict].flatten

def encodeContext (iteration : Iteration) (context : ContextRecord) : Bytes :=
  [context.sessionId.toList, le (flagByte context.authorized), le (flagByte context.stopped),
    le (0 : UInt16), le context.authorizedAtUnixMs, le context.lifetimeGenerations,
    le (UInt32.ofNat context.producers.size),
    (iteration.producers context.producers).flatMap fun entry => encodeProducer entry.2].flatten

/-- The metadata without its digest. -/
def encodeMetadata (iteration : Iteration) (journal : TelemetryJournal) : Bytes :=
  [le kMetadataMagic, le kMetadataVersion, le (UInt32.ofNat journal.activeSegment),
    le (UInt64.ofNat journal.activeSegmentBytes), le (UInt32.ofNat journal.contexts.size),
    (iteration.contexts journal.contexts).flatMap fun entry => encodeContext iteration entry.2].flatten

/-- How a metadata write ends. -/
inductive PersistAnswer where
  | written
  | digestFailed
  | cannotOpen
  | writeError
  | renameFailed (message : String)
  deriving DecidableEq

section Digests

variable (sha256 : Bytes → Digest)

def persistMetadata (iteration : Iteration) (answer : PersistAnswer) (journal : TelemetryJournal)
    (directory : Directory) : Except String Directory :=
  if journal.diskFailureInjection then .error "simulated disk failure"
  else
    let wire := encodeMetadata iteration journal
    match sha256Of sha256 wire with
    | none => .error "digest calculation failed"
    | some digest =>
      match answer with
      | .digestFailed => .error "digest calculation failed"
      | .cannotOpen => .error "cannot open metadata tmp for write"
      | .writeError => .error "write error on metadata tmp"
      | .renameFailed message => .error ("rename failed on metadata: " ++ message)
      | .written => .ok { directory with metadata := some (wire ++ digest.toList) }

/-- A metadata write whose result is not looked at. -/
def persistIgnored (iteration : Iteration) (answer : PersistAnswer) (journal : TelemetryJournal)
    (directory : Directory) : Directory :=
  match persistMetadata sha256 iteration answer journal directory with
  | .ok directory => directory
  | .error _ => directory

/-- The end of an operation that returns what `persist_metadata` returns. -/
def persistOutcome (iteration : Iteration) (answer : PersistAnswer) (journal : TelemetryJournal)
    (directory : Directory) : Outcome Bool :=
  match persistMetadata sha256 iteration answer journal directory with
  | .ok directory => ⟨journal, directory, true, none⟩
  | .error message => ⟨journal, directory, false, some message⟩

def readTracked : Reader (UInt64 × (Digest × UInt64)) := do
  let sequence : UInt64 ← readLe
  let serverTime : UInt64 ← readLe
  let hash ← readBlock 32
  pure (sequence, (hash, serverTime))

def readConflict : Reader (UInt64 × Digest) := do
  let sequence : UInt64 ← readLe
  let hash ← readBlock 32
  pure (sequence, hash)

def readProducer : Reader ProducerRecord := do
  let producerId ← readBlock 16
  let admitted : UInt8 ← readLe
  let retired : UInt8 ← readLe
  let _ : UInt16 ← readLe
  let generation : UInt32 ← readLe
  let currentSequence : UInt64 ← readLe
  let replayFloor : UInt64 ← readLe
  let trackedCount : UInt32 ← readLe
  let tracked ← readTimes readTracked trackedCount.toNat
  let conflictCount : UInt32 ← readLe
  let conflicts ← readTimes readConflict conflictCount.toNat
  pure ⟨producerId, admitted != 0, retired != 0, generation, currentSequence, replayFloor,
    .ofList tracked, .ofList conflicts⟩

def readContext : Reader ContextRecord := do
  let sessionId ← readBlock 16
  let authorized : UInt8 ← readLe
  let stopped : UInt8 ← readLe
  let _ : UInt16 ← readLe
  let authorizedAtUnixMs : UInt64 ← readLe
  let lifetimeGenerations : UInt32 ← readLe
  let producerCount : UInt32 ← readLe
  let producers ← readTimes readProducer producerCount.toNat
  pure ⟨sessionId, authorized != 0, authorizedAtUnixMs, stopped != 0, lifetimeGenerations,
    .ofList (producers.map fun producer => (producer.producerId, producer))⟩

/-- The active segment and its size, behind magic and version. -/
def readMetadataHeader : Reader (UInt32 × UInt64) := do
  let magic : UInt32 ← readLe
  require (magic = kMetadataMagic)
  let version : UInt16 ← readLe
  require (version = kMetadataVersion)
  let activeSegment : UInt32 ← readLe
  let activeSegmentBytes : UInt64 ← readLe
  pure (activeSegment, activeSegmentBytes)

def readContexts : Reader Contexts := do
  let contextCount : UInt32 ← readLe
  let contexts ← readTimes readContext contextCount.toNat
  pure (.ofList (contexts.map fun context => (context.sessionId, context)))

/-- `load_metadata()`.  The active segment is taken over before the contexts have been read. -/
def loadMetadata (readable : Bool) (directory : Directory) (journal : TelemetryJournal) :
    TelemetryJournal :=
  match directory.metadata with
  | none => journal
  | some wire =>
    if wire.length < 16 + 32 || wire.length > 32 * 1024 * 1024 then journal
    else if !readable then journal
    else
      let payloadSize := wire.length - 32
      match sha256Of sha256 (wire.take payloadSize) with
      | none => journal
      | some digest =>
        if digest.toList != wire.drop payloadSize then journal
        else
          match readMetadataHeader.run wire with
          | none => journal
          | some ((activeSegment, activeSegmentBytes), rest) =>
            let journal :=
              { journal with
                activeSegment := Fin.ofNat kDetailSegmentCount activeSegment.toNat
                activeSegmentBytes := activeSegmentBytes.toNat }
            match readContexts.run rest with
            | none => journal
            | some (contexts, _) => { journal with contexts := contexts }

/-! ## Segments -/

/-- A detail record without its checksum. -/
def detailRecordBody (batch : TelemetryBatch) (now : UInt64) (hash : Digest) : Bytes :=
  let wireBatch := encodeTelemetryBatch batch
  [le kDetailRecordMagic, le kDetailRecordVersion, le (0 : UInt16),
    le (UInt32.ofNat (kDetailHeaderBytes + wireBatch.length + 32)), le now, batch.sessionId.toList,
    batch.producerId.toList, le batch.sequence, le batch.firstEnqueuedAtUnixMilliseconds, hash.toList,
    le (UInt32.ofNat wireBatch.length), wireBatch].flatten

def detailRecord (batch : TelemetryBatch) (now : UInt64) (hash : Digest) : Bytes :=
  detailRecordBody batch now hash ++ (sha256 (detailRecordBody batch now hash)).toList

def readDetailHeader : Reader (UInt32 × UInt16 × UInt16 × UInt32) := do
  let magic : UInt32 ← readLe
  let version : UInt16 ← readLe
  let reserved : UInt16 ← readLe
  let recordLength : UInt32 ← readLe
  pure (magic, version, reserved, recordLength)

/-- What the scan of a segment finds at its offset: a whole record whose checksum is right, or
something it stops at. -/
def nextDetailRecord (bytes : Bytes) : Head String Bytes :=
  if bytes.length < kDetailHeaderBytes then .torn
  else
    match readDetailHeader.run bytes with
    | none => .torn
    | some ((magic, version, _, recordLength), _) =>
      if magic != kDetailRecordMagic || version != kDetailRecordVersion ||
          recordLength.toNat < kDetailHeaderBytes || bytes.length < recordLength.toNat then .torn
      else
        let payloadSize := recordLength.toNat - 32
        let stored := (bytes.drop payloadSize).take 32
        if (sha256 (bytes.take payloadSize)).toList != stored then .torn
        else .frame (bytes.take recordLength.toNat) recordLength.toNat

/-- The whole records of a segment file, from the front up to the first thing that is none. -/
def detailRecords (bytes : Bytes) : List Bytes := frames (nextDetailRecord sha256) bytes

/-- `valid_offset` at the end of the scan. -/
def validOffset (bytes : Bytes) : ℕ := frameBytes (nextDetailRecord sha256) bytes

/-- What `recover_and_sanitize_segments` makes of one file and of its entry in `segment_sizes`. -/
def sanitizeSegment (readable resized : Bool) (file : Option Bytes) (size : ℕ) : Option Bytes × ℕ :=
  match file with
  | none => (none, 0)
  | some bytes =>
    if bytes.isEmpty then (some bytes, 0)
    else if !readable then (some bytes, size)
    else
      (some (if validOffset sha256 bytes < bytes.length && resized then
          bytes.take (validOffset sha256 bytes) else bytes),
        validOffset sha256 bytes)

/-- What a call of `open` meets: directories that cannot be created, files that cannot be read or cut
off, and how the metadata writes end. -/
structure OpenCalls where
  createError : Option String
  metadataReadable : Bool
  segmentReadable : Segment → Bool
  segmentResized : Segment → Bool
  closePersist : PersistAnswer
  prunePersist : PersistAnswer

def recoverAndSanitizeSegments (calls : OpenCalls) (journal : TelemetryJournal)
    (directory : Directory) : TelemetryJournal × Directory :=
  let sanitized := fun i => sanitizeSegment sha256 (calls.segmentReadable i) (calls.segmentResized i)
    (directory.segments i) (journal.segmentSizes i)
  let sizes := fun i => (sanitized i).2
  ({ journal with segmentSizes := sizes, activeSegmentBytes := sizes journal.activeSegment },
    { directory with segments := fun i => (sanitized i).1 })

def updateSegmentSizes (directory : Directory) (journal : TelemetryJournal) : TelemetryJournal :=
  { journal with segmentSizes := fun i => ((directory.segments i).getD []).length }

/-! ## Expiry -/

/-- The replay floor takes over what is removed. -/
def ProducerRecord.forget (producer : ProducerRecord) (sequence : UInt64) : ProducerRecord :=
  { producer with
    replayFloor := max producer.replayFloor sequence
    trackedSequences := producer.trackedSequences.erase sequence }

/-- The loop of `prune_expired_locked` over one producer. -/
def ProducerRecord.prune (threshold : UInt64) (producer : ProducerRecord) : ProducerRecord :=
  producer.trackedSequences.toList.foldl
    (fun producer entry => if entry.2.2 < threshold then producer.forget entry.1 else producer) producer

def ContextRecord.prune (threshold : UInt64) (context : ContextRecord) : ContextRecord :=
  { context with producers := context.producers.map fun _ producer => producer.prune threshold }

def pruneContexts (threshold : UInt64) (contexts : Contexts) : Contexts :=
  contexts.map fun _ context => context.prune threshold

/-- How many sequences the loop takes away. -/
def expiredCount (threshold : UInt64) (contexts : Contexts) : ℕ :=
  (contexts.toList.map fun entry =>
    (entry.2.producers.toList.map fun producer =>
      producer.2.trackedSequences.toList.countP fun tracked => tracked.2.2 < threshold).sum).sum

def retentionThreshold (now : UInt64) : UInt64 :=
  if kTelemetryRetentionMilliseconds ≤ now then now - kTelemetryRetentionMilliseconds else 0

def pruneExpiredLocked (iteration : Iteration) (answer : PersistAnswer) (now : UInt64)
    (journal : TelemetryJournal) (directory : Directory) : Outcome ℕ :=
  if !journal.isOpen then ⟨journal, directory, 0, some "journal not open"⟩
  else
    let pruned := { journal with contexts := pruneContexts (retentionThreshold now) journal.contexts }
    let count := expiredCount (retentionThreshold now) journal.contexts
    if 0 < count then
      match persistMetadata sha256 iteration answer pruned directory with
      | .ok directory => ⟨pruned, directory, count, none⟩
      | .error message => ⟨pruned, directory, count, some message⟩
    else ⟨pruned, directory, count, none⟩

/-! ## Opening and closing -/

def closeLocked (iteration : Iteration) (answer : PersistAnswer) (journal : TelemetryJournal)
    (directory : Directory) : TelemetryJournal × Directory :=
  if !journal.isOpen then (journal, directory)
  else ({ journal with isOpen := false }, persistIgnored sha256 iteration answer journal directory)

/-- The metadata is loaded and the segments are sanitized. -/
def openFiles (calls : OpenCalls) (journal : TelemetryJournal) (directory : Directory) :
    TelemetryJournal × Directory :=
  let loaded := loadMetadata sha256 calls.metadataReadable directory journal
  let recovered := recoverAndSanitizeSegments sha256 calls loaded directory
  ({ updateSegmentSizes recovered.2 recovered.1 with isOpen := true }, recovered.2)

/-- `open` of an object that is not open. -/
def openDirectory (iteration : Iteration) (calls : OpenCalls) (now : UInt64)
    (journal : TelemetryJournal) (directory : Directory) : Outcome Bool :=
  match calls.createError with
  | some message =>
    ⟨journal, directory, false, some ("cannot create journal directory: " ++ message)⟩
  | none =>
    let opened := openFiles sha256 calls journal directory
    if 0 < now then
      let pruned := pruneExpiredLocked sha256 iteration calls.prunePersist now opened.1 opened.2
      ⟨pruned.journal, pruned.directory, true, none⟩
    else ⟨opened.1, opened.2, true, none⟩

/-- `open` on the directory the object has already. -/
def reopen (iteration : Iteration) (calls : OpenCalls) (now : UInt64) (journal : TelemetryJournal)
    (directory : Directory) : Outcome Bool :=
  let closed := closeLocked sha256 iteration calls.closePersist journal directory
  openDirectory sha256 iteration calls now closed.1 closed.2

/-! ## Contexts -/

def authorizeContext (iteration : Iteration) (answer : PersistAnswer) (journal : TelemetryJournal)
    (directory : Directory) (sessionId : SessionId) (authorizedAtUnixMs : UInt64) : Outcome Bool :=
  if !journal.isOpen then ⟨journal, directory, false, some "journal not open"⟩
  else if kMaximumActiveContexts ≤ journal.contexts.size && !journal.contexts.contains sessionId then
    ⟨journal, directory, false, some "active context quota exceeded"⟩
  else
    let context := (journal.contexts[sessionId]?).getD .new
    let context :=
      { context with sessionId, authorizedAtUnixMs, authorized := true, stopped := false }
    persistOutcome sha256 iteration answer
      { journal with contexts := journal.contexts.insert sessionId context } directory

/-- The context without what its authorization has left behind. -/
def ContextRecord.stop (context : ContextRecord) : ContextRecord :=
  { context with
    stopped := true
    producers := context.producers.map fun _ producer =>
      { producer with replayFloor := 0, trackedSequences := ∅, conflicts := ∅ } }

def stopAuthorization (iteration : Iteration) (answer : PersistAnswer) (journal : TelemetryJournal)
    (directory : Directory) (sessionId : SessionId) : Outcome Bool :=
  if !journal.isOpen then ⟨journal, directory, false, some "journal not open"⟩
  else
    match journal.contexts[sessionId]? with
    | none => ⟨journal, directory, true, none⟩
    | some context =>
      persistOutcome sha256 iteration answer
        { journal with contexts := journal.contexts.insert sessionId context.stop } directory

def removeContext (iteration : Iteration) (answer : PersistAnswer) (journal : TelemetryJournal)
    (directory : Directory) (sessionId : SessionId) : Outcome Bool :=
  if !journal.isOpen then ⟨journal, directory, false, some "journal not open"⟩
  else
    persistOutcome sha256 iteration answer { journal with contexts := journal.contexts.erase sessionId } directory

/-- The journal with a producer of a context replaced. -/
def TelemetryJournal.setProducer (journal : TelemetryJournal) (sessionId : SessionId)
    (context : ContextRecord) (producerId : ProducerId) (producer : ProducerRecord) :
    TelemetryJournal :=
  { journal with
    contexts := journal.contexts.insert sessionId
      { context with producers := context.producers.insert producerId producer } }

def retireProducer (iteration : Iteration) (answer : PersistAnswer) (journal : TelemetryJournal)
    (directory : Directory) (sessionId : SessionId) (producerId : ProducerId) : Outcome Bool :=
  if !journal.isOpen then ⟨journal, directory, false, some "journal not open"⟩
  else
    match journal.contexts[sessionId]? with
    | none => ⟨journal, directory, false, some "context not found"⟩
    | some context =>
      match context.producers[producerId]? with
      | none => ⟨journal, directory, false, some "producer not found"⟩
      | some producer =>
        persistOutcome sha256 iteration answer
          (journal.setProducer sessionId context producerId { producer with retired := true })
          directory

/-! ## Batches -/

/-- What one call of `record_batch` meets: whether the digests can be computed, whether the rotated
segment is cut off, whether the segment can be opened, what of a record that cannot be written
reaches the file, and how the metadata write ends. -/
structure RecordCalls where
  batchHashed : Bool
  recordHashed : Bool
  truncated : Bool
  opened : Bool
  flushed : Bool
  written : ℕ
  persist : PersistAnswer

/-- The context and its producer once the producer is admitted. -/
def admitProducer (context : ContextRecord) (batch : TelemetryBatch) :
    Except String (ContextRecord × ProducerRecord) :=
  let known := context.producers[batch.producerId]?
  let producer := known.getD .new
  if producer.admitted then .ok (context, producer)
  else if producer.retired then .error "retired producer ID cannot register again"
  else if kMaximumLifetimeGenerationsPerContext ≤ context.lifetimeGenerations.toNat then
    .error "lifetime generation cap exceeded for context"
  else if batch.sequence != 1 then
    .error "first valid batch for unseen producer must register at sequence 1"
  else
    let generations := context.lifetimeGenerations + 1
    .ok ({ context with lifetimeGenerations := generations },
      { producer with
        producerId := batch.producerId
        admitted := true
        retired := false
        generation := generations
        currentSequence := 1
        replayFloor := 0 })

/-- The rounds of the quota loop: each takes the lowest sequence away. -/
def evictOldest : ℕ → ProducerRecord → ProducerRecord
  | 0, producer => producer
  | rounds + 1, producer =>
    match producer.trackedSequences.minKey? with
    | none => producer
    | some oldest => evictOldest rounds (producer.forget oldest)

/-- `while (prod.tracked_sequences.size() > kMaximumHashesPerProducer)`. -/
def ProducerRecord.enforceQuota (producer : ProducerRecord) : ProducerRecord :=
  evictOldest (producer.trackedSequences.size - kMaximumHashesPerProducer) producer

/-- The update of the deduplication index for an accepted batch. -/
def ProducerRecord.track (producer : ProducerRecord) (sequence : UInt64) (hash : Digest)
    (now : UInt64) : ProducerRecord :=
  ProducerRecord.enforceQuota { producer with
      trackedSequences := producer.trackedSequences.insert sequence (hash, now)
      currentSequence := max producer.currentSequence sequence }

/-- `active_segment_bytes + record_bytes.size() > effective_segment_bytes()`. -/
def TelemetryJournal.rotates (journal : TelemetryJournal) (record : Bytes) : Bool :=
  journal.effectiveSegmentBytes < journal.activeSegmentBytes + record.length

/-- The next segment of the ring becomes the active one. -/
def rotate (truncated : Bool) (journal : TelemetryJournal) (directory : Directory) : TelemetryJournal × Directory :=
  let next := journal.activeSegment + 1
  ({ journal with
      activeSegment := next
      activeSegmentBytes := 0
      segmentSizes := Function.update journal.segmentSizes next 0 },
    if truncated then { directory with segments := Function.update directory.segments next (some []) }
    else directory)

/-- The rotation check in front of an append. -/
def makeRoom (truncated : Bool) (record : Bytes) (journal : TelemetryJournal) (directory : Directory) :
    TelemetryJournal × Directory :=
  if journal.rotates record then rotate truncated journal directory else (journal, directory)

/-- Bytes go to the end of a segment file. -/
def Directory.append (directory : Directory) (segment : Segment) (bytes : Bytes) : Directory :=
  { directory with
    segments := Function.update directory.segments segment (some ((directory.segments segment).getD [] ++ bytes)) }

/-- The record of a batch that has passed every check goes to the active segment, and its sequence to
the index. -/
def storeBatch (iteration : Iteration) (calls : RecordCalls) (journal : TelemetryJournal)
    (directory : Directory) (context : ContextRecord) (producer : ProducerRecord)
    (batch : TelemetryBatch) (now : UInt64) (hash : Digest) (ack : TelemetryAck) :
    Outcome TelemetryAck :=
  if (encodeTelemetryBatch batch).isEmpty then
    ⟨journal, directory, ack, some "encode batch wire failed"⟩
  else if !calls.recordHashed then
    ⟨journal, directory, { ack with status := .unavailable }, some "cannot compute record checksum"⟩
  else
    let record := detailRecord sha256 batch now hash
    let (journal, directory) := makeRoom calls.truncated record journal directory
    if !calls.opened then
      ⟨journal, directory, { ack with status := .unavailable }, some "cannot open segment for append"⟩
    else if !calls.flushed then
      ⟨journal, directory.append journal.activeSegment (record.take calls.written),
        { ack with status := .unavailable }, some "segment write failure"⟩
    else
      let directory := directory.append journal.activeSegment record
      let size := journal.activeSegmentBytes + record.length
      let journal :=
        { journal with
          activeSegmentBytes := size
          segmentSizes := Function.update journal.segmentSizes journal.activeSegment size }
      let journal := journal.setProducer batch.sessionId context batch.producerId
        (producer.track batch.sequence hash now)
      ⟨journal, persistIgnored sha256 iteration calls.persist journal directory,
        { ack with status := .accepted }, none⟩

/-- A batch of an admitted producer: conflicts, duplicates and replays are answered from the index. -/
def recordForProducer (iteration : Iteration) (calls : RecordCalls) (journal : TelemetryJournal)
    (directory : Directory) (context : ContextRecord) (producer : ProducerRecord)
    (batch : TelemetryBatch) (now : UInt64) (hash : Digest) (ack : TelemetryAck) :
    Outcome TelemetryAck :=
  if producer.retired then ⟨journal, directory, ack, some "producer retired"⟩
  else if producer.conflicts.contains batch.sequence then
    ⟨journal, directory, { ack with status := .conflict }, some "sequence is in permanent conflict"⟩
  else
    match producer.trackedSequences[batch.sequence]? with
    | some (known, _) =>
      if known = hash then ⟨journal, directory, { ack with status := .duplicate }, none⟩
      else
        let journal := journal.setProducer batch.sessionId context batch.producerId
          { producer with conflicts := producer.conflicts.insert batch.sequence hash }
        ⟨journal, persistIgnored sha256 iteration calls.persist journal directory,
          { ack with status := .conflict }, some "batch conflict on sequence"⟩
    | none =>
      if batch.sequence ≤ producer.replayFloor then
        ⟨journal, directory, ack, some "sequence rejected by replay floor"⟩
      else if journal.diskFailureInjection then
        ⟨journal, directory, { ack with status := .unavailable }, some "storage unavailable"⟩
      else storeBatch sha256 iteration calls journal directory context producer batch now hash ack

def recordBatch (iteration : Iteration) (calls : RecordCalls) (journal : TelemetryJournal)
    (directory : Directory) (batch : TelemetryBatch) (now : UInt64) : Outcome TelemetryAck :=
  let ack : TelemetryAck :=
    ⟨batch.sessionId, batch.producerId, batch.sequence, Block.zero 32, now, .rejected⟩
  if !journal.isOpen then
    ⟨journal, directory, { ack with status := .unavailable }, some "journal not open"⟩
  else if !validateTelemetryBatch batch then ⟨journal, directory, ack, some "invalid telemetry batch"⟩
  else
    match if calls.batchHashed then computeTelemetryBatchHash sha256 batch else none with
    | none => ⟨journal, directory, ack, some "cannot compute batch canonical hash"⟩
    | some hash =>
      let ack := { ack with batchHash := hash }
      match (journal.contexts[batch.sessionId]?).filter (·.isActive now) with
      | none => ⟨journal, directory, ack, some "inactive telemetry authorization"⟩
      | some context =>
        match admitProducer context batch with
        | .error message => ⟨journal, directory, ack, some message⟩
        | .ok (context, producer) =>
          -- an admission is in the map before anything is stored
          recordForProducer sha256 iteration calls
            (journal.setProducer batch.sessionId context batch.producerId producer) directory
            context producer batch now hash ack

/-! ## Operations -/

/-- A call on the object, with what it meets. -/
inductive JournalOp where
  | authorizeContext (sessionId : SessionId) (authorizedAtUnixMs : UInt64) (answer : PersistAnswer)
  | stopAuthorization (sessionId : SessionId) (answer : PersistAnswer)
  | removeContext (sessionId : SessionId) (answer : PersistAnswer)
  | retireProducer (sessionId : SessionId) (producerId : ProducerId) (answer : PersistAnswer)
  | recordBatch (batch : TelemetryBatch) (now : UInt64) (calls : RecordCalls)
  | pruneExpired (now : UInt64) (answer : PersistAnswer)
  | close (answer : PersistAnswer)
  | reopen (now : UInt64) (calls : OpenCalls)
  | setDiskFailureInjection (enable : Bool)
  | setSegmentSizeLimitForTesting (bytes : ℕ)

/-- An object and the directory it works on. -/
structure Store where
  journal : TelemetryJournal
  directory : Directory

/-- One call, on the journal and its directory. -/
def Store.step (iteration : Iteration) (store : Store) : JournalOp → Store
  | .authorizeContext sessionId at_ answer =>
    let outcome := authorizeContext sha256 iteration answer store.journal store.directory sessionId at_
    ⟨outcome.journal, outcome.directory⟩
  | .stopAuthorization sessionId answer =>
    let outcome := stopAuthorization sha256 iteration answer store.journal store.directory sessionId
    ⟨outcome.journal, outcome.directory⟩
  | .removeContext sessionId answer =>
    let outcome := removeContext sha256 iteration answer store.journal store.directory sessionId
    ⟨outcome.journal, outcome.directory⟩
  | .retireProducer sessionId producerId answer =>
    let outcome := retireProducer sha256 iteration answer store.journal store.directory sessionId
      producerId
    ⟨outcome.journal, outcome.directory⟩
  | .recordBatch batch now calls =>
    let outcome := recordBatch sha256 iteration calls store.journal store.directory batch now
    ⟨outcome.journal, outcome.directory⟩
  | .pruneExpired now answer =>
    let outcome := pruneExpiredLocked sha256 iteration answer now store.journal store.directory
    ⟨outcome.journal, outcome.directory⟩
  | .close answer =>
    let closed := closeLocked sha256 iteration answer store.journal store.directory
    ⟨closed.1, closed.2⟩
  | .reopen now calls =>
    let outcome := reopen sha256 iteration calls now store.journal store.directory
    ⟨outcome.journal, outcome.directory⟩
  | .setDiskFailureInjection enable =>
    ⟨{ store.journal with diskFailureInjection := enable }, store.directory⟩
  | .setSegmentSizeLimitForTesting bytes =>
    ⟨{ store.journal with segmentSizeLimitForTesting := bytes }, store.directory⟩

end Digests

end Nstu.Telemetry
