import Nstu.Telemetry.Journal.Index

/-!
# Accepted batches in the segment files

A segment file is a log in the sense of `FramedLog`, with `nextDetailRecord` as its parser.  An
append that fails leaves the first bytes of its record at the end of the file, and the next record
goes behind them; a scan does not get there.

`DetailRun` keeps, beside the journal and its directory, the batches that have been accepted into
each segment since it was last rotated.  As long as no record goes to a segment that does not end
with a whole record, all of them are found by the scan of `open`.
-/

namespace Nstu.Telemetry

open Wire Reader FramedLog List

/-! ## The parser -/

section Parser

variable {sha256 : Bytes → Digest}

lemma run_readDetailHeader_iff {s r : Bytes} {magic : UInt32} {version reserved : UInt16} {recordLength : UInt32} :
    readDetailHeader.run s = some ((magic, version, reserved, recordLength), r) ↔
      s = [le magic, le version, le reserved, le recordLength].flatten ++ r := by
  simp only [readDetailHeader, run_bind_readLe_iff, run_pure_iff, Prod.mk.injEq]
  constructor
  · rintro ⟨_, s1, rfl, _, s2, rfl, _, s3, rfl, _, s4, rfl, ⟨rfl, rfl, rfl, rfl⟩, rfl⟩
    simp
  · rintro rfl
    exact ⟨magic, _, by simp, version, _, rfl, reserved, _, rfl, recordLength, r, rfl,
      ⟨rfl, rfl, rfl, rfl⟩, rfl⟩

/-- What the scan takes for a record. -/
structure IsRecord (sha256 : Bytes → Digest) (bytes : Bytes) (size : ℕ) : Prop where
  header : ∃ reserved recordLength rest,
    bytes = [le kDetailRecordMagic, le kDetailRecordVersion, le (reserved : UInt16),
      le (recordLength : UInt32)].flatten ++ rest ∧ recordLength.toNat = size
  low : kDetailHeaderBytes ≤ size
  high : size ≤ bytes.length
  checksum : (sha256 (bytes.take (size - 32))).toList = (bytes.drop (size - 32)).take 32

variable {bytes : Bytes} {size : ℕ}

lemma nextDetailRecord_eq_frame_iff {value : Bytes} : nextDetailRecord sha256 bytes = .frame value size ↔
      IsRecord sha256 bytes size ∧ value = bytes.take size := by
  simp only [nextDetailRecord]
  constructor
  · intro h
    split at h
    · cases h
    · split at h
      · cases h
      · rename_i magic version reserved recordLength rest hr
        split at h
        · cases h
        · rename_i hg
          simp only [Bool.or_eq_true, bne_iff_ne, decide_eq_true_eq, not_or, not_not, Nat.not_lt] at hg
          obtain ⟨⟨⟨hm, hv⟩, hl⟩, hh⟩ := hg
          split at h
          · cases h
          · rename_i hc
            rw [bne_iff_ne, not_not] at hc
            cases h
            refine ⟨⟨⟨reserved, recordLength, rest, ?_, rfl⟩, hl, hh, hc⟩, rfl⟩
            rw [← hm, ← hv]
            exact run_readDetailHeader_iff.mp hr
  · rintro ⟨⟨⟨reserved, recordLength, rest, hb, rfl⟩, hl, hh, hc⟩, rfl⟩
    have hr := run_readDetailHeader_iff.mpr hb
    rw [if_neg (Nat.not_lt.mpr (hl.trans hh)), hr]
    simp only [bne_self_eq_false, Bool.false_or, hc]
    rw [if_neg]
    · rfl
    · simp only [Bool.or_eq_true, decide_eq_true_eq, not_or, Nat.not_lt]
      exact ⟨hl, hh⟩

lemma IsRecord.take_append (h : IsRecord sha256 bytes size)
    (more : Bytes) : IsRecord sha256 (bytes.take size ++ more) size := by
  have hl : (bytes.take size).length = size := length_take_of_le h.high
  have hlo := h.low
  simp only [kDetailHeaderBytes] at hlo
  obtain ⟨reserved, recordLength, rest, hb, hs⟩ := h.header
  refine ⟨⟨reserved, recordLength, rest.take (size - 12) ++ more, ?_, hs⟩, h.low, ?_, ?_⟩
  · rw [hb, ← List.append_assoc, List.take_append]
    congr 2
    refine take_of_length_le ?_
    simp
    omega
  · rw [length_append, hl]
    exact Nat.le_add_right _ _
  · have hp : size - 32 ≤ (bytes.take size).length := by omega
    have hst : 32 ≤ ((bytes.take size).drop (size - 32)).length := by
      rw [length_drop]
      omega
    rw [take_append_of_le_length hp, drop_append_of_le_length hp,
      take_take, Nat.min_eq_left (Nat.sub_le size 32), h.checksum,
      take_append_of_le_length hst, drop_take, take_take,
      Nat.min_eq_left (by omega)]

lemma local_nextDetailRecord : Local (nextDetailRecord sha256) := by
  intro rest value size hh
  obtain ⟨hr, rfl⟩ := nextDetailRecord_eq_frame_iff.mp hh
  have hl := hr.low
  simp only [kDetailHeaderBytes] at hl
  refine ⟨by omega, hr.high, ?_⟩
  intro more
  refine nextDetailRecord_eq_frame_iff.mpr ⟨hr.take_append more, ?_⟩
  rw [take_left' (length_take_of_le hr.high)]

lemma nextDetailRecord_nil (value : Bytes) (size : ℕ) : nextDetailRecord sha256 [] ≠ .frame value size := by
  simp [nextDetailRecord, kDetailHeaderBytes]

variable {batch : TelemetryBatch} {now : UInt64} {hash : Digest}

lemma length_detailRecordBody : (detailRecordBody batch now hash).length =
      kDetailHeaderBytes + (encodeTelemetryBatch batch).length := by
  simp [detailRecordBody, kDetailHeaderBytes]
  omega

lemma length_detailRecord : (detailRecord sha256 batch now hash).length =
      kDetailHeaderBytes + (encodeTelemetryBatch batch).length + 32 := by
  rw [detailRecord, length_append, length_detailRecordBody, Block.length_toList]

lemma isRecord_detailRecord (more : Bytes) : IsRecord sha256 (detailRecord sha256 batch now hash ++ more)
      (detailRecord sha256 batch now hash).length := by
  have hb := length_encodeTelemetryBatch batch
  simp only [kMaximumTelemetryBatchBytes] at hb
  have hbo : (detailRecord sha256 batch now hash).length - 32 = (detailRecordBody batch now hash).length := by
    rw [length_detailRecord, length_detailRecordBody]
    omega
  refine ⟨⟨0, UInt32.ofNat (kDetailHeaderBytes + (encodeTelemetryBatch batch).length + 32),
    [le now, batch.sessionId.toList, batch.producerId.toList, le batch.sequence,
      le batch.firstEnqueuedAtUnixMilliseconds, hash.toList,
      le (UInt32.ofNat (encodeTelemetryBatch batch).length), encodeTelemetryBatch batch].flatten ++
      ((sha256 (detailRecordBody batch now hash)).toList ++ more), ?_, ?_⟩, ?_, ?_, ?_⟩
  · simp [detailRecord, detailRecordBody]
  · rw [length_detailRecord]
    refine UInt32.toNat_ofNat_of_lt' ?_
    simp only [kDetailHeaderBytes, UInt32.size]
    omega
  · rw [length_detailRecord]
    omega
  · rw [length_append]
    exact Nat.le_add_right _ _
  · rw [hbo, detailRecord, List.append_assoc, take_left, drop_left,
      take_left' (Block.length_toList _)]

lemma detailRecords_detailRecord (more : Bytes) : detailRecords sha256 (detailRecord sha256 batch now hash ++ more) =
      detailRecord sha256 batch now hash :: detailRecords sha256 more := by
  have hh : nextDetailRecord sha256 (detailRecord sha256 batch now hash ++ more) =
      .frame (detailRecord sha256 batch now hash) (detailRecord sha256 batch now hash).length :=
    nextDetailRecord_eq_frame_iff.mpr ⟨isRecord_detailRecord more, take_left.symm⟩
  rw [detailRecords, (frames_of_frame local_nextDetailRecord hh).1, drop_left, detailRecords]

lemma mem_detailRecords_append {record : Bytes} (more : Bytes)
    (h : record ∈ detailRecords sha256 bytes) : record ∈ detailRecords sha256 (bytes ++ more) := by
  rw [detailRecords, frames_append local_nextDetailRecord]
  exact mem_append_left _ h

lemma mem_detailRecords_concat (hw : validOffset sha256 bytes = bytes.length) :
    detailRecord sha256 batch now hash ∈ detailRecords sha256 (bytes ++ detailRecord sha256 batch now hash) := by
  have hr := @detailRecords_detailRecord sha256 batch now hash []
  rw [append_nil] at hr
  rw [detailRecords, frames_append_of_whole local_nextDetailRecord _ hw]
  refine mem_append_right _ ?_
  show _ ∈ detailRecords sha256 _
  rw [hr]
  exact mem_cons_self

lemma sanitizeSegment_records (readable resized : Bool) (file : Option Bytes) (size : ℕ) :
    detailRecords sha256 ((sanitizeSegment sha256 readable resized file size).1.getD []) =
      detailRecords sha256 (file.getD []) := by
  cases file with
  | none => rfl
  | some bytes =>
    simp only [sanitizeSegment]
    split
    · rfl
    · split
      · rfl
      · simp only [Option.getD_some]
        split
        · exact frames_take_frameBytes local_nextDetailRecord nextDetailRecord_nil bytes
        · rfl

end Parser

/-! ## Runs -/

/-- A segment file, empty when there is none. -/
def Directory.file (directory : Directory) (segment : Segment) : Bytes :=
  (directory.segments segment).getD []

/-- The record of an accepted batch. -/
def recordOf (sha256 : Bytes → Digest) (entry : TelemetryBatch × UInt64) : Bytes :=
  detailRecord sha256 entry.1 entry.2 (sha256 (encodeTelemetryBatch entry.1))

/-- A journal and its directory, with the batches accepted into each segment, and when, since it was
last rotated. -/
structure DetailRun where
  store : Store
  retained : Segment → List (TelemetryBatch × UInt64)

section Runs

variable (sha256 : Bytes → Digest) (iteration : Iteration)

/-- What `record_batch` does to the batches that are retained. -/
def DetailRun.recorded (run : DetailRun) (batch : TelemetryBatch) (now : UInt64)
    (outcome : Outcome TelemetryAck) : Segment → List (TelemetryBatch × UInt64) :=
  let active := outcome.journal.activeSegment
  let kept :=
    if active = run.store.journal.activeSegment then run.retained
    else Function.update run.retained active []
  if outcome.value.status = .accepted then
    Function.update kept active (kept active ++ [(batch, now)])
  else kept

/-- One operation, with the records a segment should hold. -/
def DetailRun.step (run : DetailRun) (op : JournalOp) : DetailRun where
  store := run.store.step sha256 iteration op
  retained :=
    match op with
    | .recordBatch batch now calls =>
      run.recorded batch now (recordBatch sha256 iteration calls run.store.journal run.store.directory batch now)
    | _ => run.retained

def detailRun (store : Store) (ops : List JournalOp) : DetailRun :=
  ops.foldl (DetailRun.step sha256 iteration) ⟨store, fun _ => []⟩

/-- A record that is written goes behind whole records. -/
def JournalOp.Clean (store : Store) : JournalOp → Prop
  | .recordBatch batch now calls =>
    (∃ context admitted producer hash,
      Passed sha256 store.journal batch now context admitted producer hash ∧ Unseen producer batch) →
    store.journal.diskFailureInjection = false → calls.Succeed →
    let room := makeRoom calls.truncated (recordOf sha256 (batch, now)) store.journal store.directory
    validOffset sha256 (room.2.file room.1.activeSegment) = (room.2.file room.1.activeSegment).length
  | _ => True

/-- Every operation is clean at the time it is done. -/
def CleanFrom : Store → List JournalOp → Prop
  | _, [] => True
  | store, op :: ops => op.Clean sha256 store ∧ CleanFrom (store.step sha256 iteration op) ops

end Runs

/-! ## What an operation does to the files -/

section Files

variable {sha256 : Bytes → Digest} {iteration : Iteration} {answer : PersistAnswer}
  {journal : TelemetryJournal} {directory : Directory}

lemma segments_persistMetadata {after : Directory}
    (h : persistMetadata sha256 iteration answer journal directory = .ok after) :
    after.segments = directory.segments := by
  simp only [persistMetadata] at h
  split at h
  · cases h
  · split at h
    · cases h
    · cases answer <;> cases h
      rfl

lemma segments_persistIgnored :
    (persistIgnored sha256 iteration answer journal directory).segments = directory.segments := by
  simp only [persistIgnored]
  split
  · rename_i after hp
    exact segments_persistMetadata hp
  · rfl

lemma segments_persistOutcome : (persistOutcome sha256 iteration answer journal directory).directory.segments =
      directory.segments := by
  simp only [persistOutcome]
  split
  · rename_i after hp
    exact segments_persistMetadata hp
  · rfl

lemma segments_pruneExpiredLocked {now : UInt64} :
    (pruneExpiredLocked sha256 iteration answer now journal directory).directory.segments = directory.segments := by
  simp only [pruneExpiredLocked]
  split
  · rfl
  · split
    · split
      · rename_i after hp
        exact segments_persistMetadata hp
      · rfl
    · rfl

lemma segments_closeLocked :
    (closeLocked sha256 iteration answer journal directory).2.segments = directory.segments := by
  simp only [closeLocked]
  split
  · rfl
  · exact segments_persistIgnored

lemma records_openDirectory {calls : OpenCalls} {now : UInt64} (i : Segment) :
    detailRecords sha256 ((openDirectory sha256 iteration calls now journal directory).directory.file i) =
      detailRecords sha256 (directory.file i) := by
  simp only [openDirectory]
  split
  · rfl
  · split
    · simp only [Directory.file, segments_pruneExpiredLocked]
      exact sanitizeSegment_records _ _ _ _
    · exact sanitizeSegment_records _ _ _ _

lemma records_step {store : Store} {op : JournalOp}
    (hop : ∀ batch now calls, op ≠ .recordBatch batch now calls) (i : Segment) :
    detailRecords sha256 ((store.step sha256 iteration op).directory.file i) =
      detailRecords sha256 (store.directory.file i) := by
  cases op with
  | authorizeContext sessionId time answer =>
    simp only [Store.step, authorizeContext, Directory.file]
    split_ifs
    · rfl
    · rfl
    · rw [segments_persistOutcome]
  | stopAuthorization sessionId answer =>
    simp only [Store.step, stopAuthorization, Directory.file]
    split
    · rfl
    · split
      · rfl
      · rw [segments_persistOutcome]
  | removeContext sessionId answer =>
    simp only [Store.step, removeContext, Directory.file]
    split
    · rfl
    · rw [segments_persistOutcome]
  | retireProducer sessionId producerId answer =>
    simp only [Store.step, retireProducer, Directory.file]
    split
    · rfl
    · split
      · rfl
      · split
        · rfl
        · rw [segments_persistOutcome]
  | recordBatch batch now calls => exact absurd rfl (hop batch now calls)
  | pruneExpired now answer =>
    simp only [Store.step, Directory.file, segments_pruneExpiredLocked]
  | close answer =>
    simp only [Store.step, Directory.file, segments_closeLocked]
  | reopen now calls =>
    simp only [Store.step, Telemetry.reopen]
    rw [records_openDirectory]
    simp only [Directory.file, segments_closeLocked]
  | setDiskFailureInjection enable => rfl
  | setSegmentSizeLimitForTesting bytes => rfl

end Files

/-! ## The invariant -/

section Retained

variable {sha256 : Bytes → Digest} {iteration : Iteration} {calls : RecordCalls}
  {journal : TelemetryJournal} {directory : Directory} {batch : TelemetryBatch} {now : UInt64}
  {retained : Segment → List (TelemetryBatch × UInt64)}

/-- Everything that is retained is found by a scan of its segment. -/
def Findable (sha256 : Bytes → Digest) (retained : Segment → List (TelemetryBatch × UInt64))
    (directory : Directory) : Prop :=
  ∀ i, ∀ entry ∈ retained i, recordOf sha256 entry ∈ detailRecords sha256 (directory.file i)

variable {after : Directory}

lemma Findable.of_records (h : Findable sha256 retained directory)
    (hr : ∀ i, detailRecords sha256 (after.file i) = detailRecords sha256 (directory.file i)) :
    Findable sha256 retained after := by
  intro i entry he
  rw [hr]
  exact h i entry he

lemma Findable.of_segments (h : Findable sha256 retained directory)
    (hs : after.segments = directory.segments) : Findable sha256 retained after := by
  refine h.of_records ?_
  intro i
  rw [Directory.file, Directory.file, hs]

lemma file_append_self (directory : Directory) (i : Segment) (bytes : Bytes) :
    (directory.append i bytes).file i = directory.file i ++ bytes := by
  simp [Directory.append, Directory.file]

variable {i : Segment}

lemma file_append_of_ne {j : Segment} (h : j ≠ i) (bytes : Bytes) :
    (directory.append i bytes).file j = directory.file j := by
  simp [Directory.append, Directory.file, Function.update_of_ne h]

lemma Findable.append (h : Findable sha256 retained directory) (segment : Segment) (bytes : Bytes) :
    Findable sha256 retained (directory.append segment bytes) := by
  intro i entry he
  by_cases hi : i = segment
  · subst hi
    rw [file_append_self]
    exact mem_detailRecords_append bytes (h i entry he)
  · rw [file_append_of_ne hi]
    exact h i entry he

lemma Findable.concat (h : Findable sha256 retained directory) {segment : Segment}
    (hw : validOffset sha256 (directory.file segment) = (directory.file segment).length) :
    Findable sha256 (Function.update retained segment (retained segment ++ [(batch, now)]))
      (directory.append segment (recordOf sha256 (batch, now))) := by
  intro i entry he
  by_cases hi : i = segment
  · subst hi
    rw [Function.update_self, mem_append, mem_singleton] at he
    rcases he with he | rfl
    · exact h.append i _ i entry he
    · rw [file_append_self]
      exact mem_detailRecords_concat hw
  · rw [Function.update_of_ne hi] at he
    exact h.append segment _ i entry he

lemma succ_ne_segment (i : Segment) : i + 1 ≠ i := by
  revert i
  decide

variable {truncated : Bool}

lemma file_rotate_of_ne (h : i ≠ journal.activeSegment + 1) :
    (rotate truncated journal directory).2.file i = directory.file i := by
  cases truncated with
  | false => rfl
  | true => simp [rotate, Directory.file, Function.update_of_ne h]

lemma Findable.makeRoom (h : Findable sha256 retained directory) (truncated : Bool) (record : Bytes) :
    Findable sha256 (if (makeRoom truncated record journal directory).1.activeSegment = journal.activeSegment
        then retained
        else Function.update retained (Telemetry.makeRoom truncated record journal directory).1.activeSegment [])
      (Telemetry.makeRoom truncated record journal directory).2 := by
  cases hr : journal.rotates record with
  | true =>
    have ha : (rotate truncated journal directory).1.activeSegment = journal.activeSegment + 1 := rfl
    simp only [Telemetry.makeRoom, hr, if_true, ha, succ_ne_segment, if_false]
    intro i entry he
    by_cases hi : i = journal.activeSegment + 1
    · rw [hi, Function.update_self] at he
      cases he
    · rw [Function.update_of_ne hi] at he
      rw [file_rotate_of_ne hi]
      exact h i entry he
  | false =>
    simp only [Telemetry.makeRoom, hr, Bool.false_eq_true, if_false, if_true]
    exact h

variable {sessionId : SessionId} {context : ContextRecord} {producerId : ProducerId}
    {producer : ProducerRecord}

lemma makeRoom_setProducer {record : Bytes} :
    makeRoom truncated record (journal.setProducer sessionId context producerId producer) directory =
      ((makeRoom truncated record journal directory).1.setProducer sessionId context producerId producer,
        (makeRoom truncated record journal directory).2) := by
  have hr : (journal.setProducer sessionId context producerId producer).rotates record =
    journal.rotates record := rfl
  simp only [makeRoom, hr]
  split <;> rfl

lemma activeSegment_setProducer : (journal.setProducer sessionId context producerId producer).activeSegment =
      journal.activeSegment := rfl

lemma Passed.hash_eq {admitted : ContextRecord} {hash : Digest}
    (h : Passed sha256 journal batch now context admitted producer hash) :
    detailRecord sha256 batch now hash = recordOf sha256 (batch, now) := by
  have hh := h.hashed
  simp only [computeTelemetryBatchHash, sha256Of] at hh
  split at hh
  · cases hh
  · split at hh
    · cases hh
    · rw [recordOf, Option.some.inj hh]

/-- **What one call keeps.**  Room is made first, which takes nothing away that is retained; what is
appended then keeps what was there, and an accepted record is found because it is behind whole ones. -/
lemma Findable.recordBatch {run : DetailRun} (h : Findable sha256 run.retained run.store.directory)
    (hclean : (JournalOp.recordBatch batch now calls).Clean sha256 run.store) : Findable sha256 (run.recorded batch now
        (recordBatch sha256 iteration calls run.store.journal run.store.directory batch now))
      (Telemetry.recordBatch sha256 iteration calls run.store.journal run.store.directory batch now).directory := by
  have hexit := @recordBatch_exit sha256 iteration calls run.store.journal run.store.directory batch now
  revert hexit
  generalize Telemetry.recordBatch sha256 iteration calls run.store.journal run.store.directory batch now = outcome
  intro hexit
  cases hexit with
  | refused hstat =>
    rename_i ack error
    have hnot : ack.status ≠ .accepted := by
      rcases hstat with hstat | hstat <;> simp [hstat]
    simpa [DetailRun.recorded, hnot] using h
  | answered hpass hansw =>
    rename_i context admitted producer hash ack error
    have hnot : ack.status ≠ .accepted := by
      intro hacce
      rw [hacce] at hansw
      cases hansw
    simpa [DetailRun.recorded, hnot, TelemetryJournal.setProducer] using h
  | conflicted hpass hreti hconf htrac hne hstat =>
    simp only [DetailRun.recorded, hstat, TelemetryJournal.setProducer, if_true, reduceCtorEq, if_false]
    exact h.of_segments segments_persistIgnored
  | unopened hpass hunse hstat =>
    simp only [DetailRun.recorded, hstat, reduceCtorEq, if_false, roomFor, makeRoom_setProducer,
      activeSegment_setProducer]
    exact h.makeRoom _ _
  | torn hpass hunse hflus hstat =>
    simp only [DetailRun.recorded, hstat, reduceCtorEq, if_false, roomFor, makeRoom_setProducer,
      activeSegment_setProducer]
    exact (h.makeRoom _ _).append _ _
  | accepted hpass hunse hinje hsucc hstat =>
    have hwhole := hclean ⟨_, _, _, _, hpass, hunse⟩ hinje hsucc
    refine Findable.of_segments ?_ segments_persistIgnored
    simp only [DetailRun.recorded, hstat, if_true, storedJournal, storedDirectory, roomFor,
      makeRoom_setProducer, activeSegment_setProducer, hpass.hash_eq]
    exact (h.makeRoom _ _).concat hwhole

/-- A clean operation leaves retained records findable. -/
lemma Findable.step {run : DetailRun} (h : Findable sha256 run.retained run.store.directory)
    {op : JournalOp} (hc : op.Clean sha256 run.store) :
    Findable sha256 (run.step sha256 iteration op).retained (run.step sha256 iteration op).store.directory := by
  cases op with
  | recordBatch batch now calls => exact h.recordBatch hc
  | _ => exact h.of_records (records_step (fun _ _ _ hop => by cases hop))

lemma Findable.foldl {run : DetailRun} (h : Findable sha256 run.retained run.store.directory)
    (ops : List JournalOp) (hc : CleanFrom sha256 iteration run.store ops) :
    Findable sha256 (ops.foldl (DetailRun.step sha256 iteration) run).retained
      (ops.foldl (DetailRun.step sha256 iteration) run).store.directory := by
  induction ops generalizing run with
  | nil => exact h
  | cons op ops ih => exact ih (h.step hc.1) hc.2

end Retained

/-- **Accepted telemetry survives a restart** when no record goes behind a torn one: whatever `open`
finds of the files, each batch that was accepted and whose segment has not been rotated since is
there as a whole record with its checksum. -/
theorem accepted_survive_restart (sha256 : Bytes → Digest) (iteration : Iteration) (store : Store)
    (ops : List JournalOp) (hclean : CleanFrom sha256 iteration store ops) (calls : OpenCalls)
    (now : UInt64) (segment : Segment) :
    ∀ entry ∈ (detailRun sha256 iteration store ops).retained segment, recordOf sha256 entry ∈ detailRecords sha256
        ((openDirectory sha256 iteration calls now .new
          (detailRun sha256 iteration store ops).store.directory).directory.file segment) := by
  have hstart : Findable sha256 (fun _ => []) store.directory := by
    intro i entry hentry
    cases hentry
  have hrun : Findable sha256 (detailRun sha256 iteration store ops).retained
      (detailRun sha256 iteration store ops).store.directory :=
    @Findable.foldl sha256 iteration ⟨store, fun _ => []⟩ hstart ops hclean
  intro entry hentry
  rw [records_openDirectory]
  exact hrun segment entry hentry

/-! ## A record behind a torn one -/

def sampleSample : TelemetrySample := ⟨.collectorStarted, .native, 1, [], 0, 0, 0, 1000, 0, 0, .none⟩

/-- A batch of one sample. -/
def sampleBatch (sessionId : SessionId) (sequence : UInt64) : TelemetryBatch :=
  ⟨[112], Block.fill 32 1, Block.fill 16 2, sessionId, [99], Block.fill 16 4, sequence, 1000, [sampleSample]⟩

def sampleSession : SessionId := Block.fill 16 3

/-- A disk on which everything works. -/
def sampleOpenCalls : OpenCalls :=
  ⟨none, true, fun _ => true, fun _ => true, .written, .written⟩

/-- Everything works, or the record stops after its first byte. -/
def sampleRecordCalls (flushed : Bool) : RecordCalls :=
  ⟨true, true, true, true, flushed, 1, .written⟩

/-- An empty directory is opened and a session authorized. -/
def sampleStart : List JournalOp :=
  [.reopen 0 sampleOpenCalls, .authorizeContext sampleSession 1000 .written]

def sampleContext : ContextRecord := ⟨sampleSession, true, 1000, false, 0, ∅⟩

lemma succeed_sampleRecordCalls : (sampleRecordCalls true).Succeed := ⟨rfl, rfl, rfl, rfl⟩

lemma computeTelemetryBatchHash_eq (sha256 : Bytes → Digest) {batch : TelemetryBatch}
    (hn : (encodeTelemetryBatch batch).isEmpty = false) :
    computeTelemetryBatchHash sha256 batch = some (sha256 (encodeTelemetryBatch batch)) := by
  have hl := length_encodeTelemetryBatch batch
  simp only [kMaximumTelemetryBatchBytes] at hl
  simp only [computeTelemetryBatchHash, hn, sha256Of, Bool.false_eq_true, if_false]
  rw [if_neg]
  omega

lemma computeTelemetryBatchHash_sample (sha256 : Bytes → Digest) :
    computeTelemetryBatchHash sha256 (sampleBatch sampleSession 1) =
      some (sha256 (encodeTelemetryBatch (sampleBatch sampleSession 1))) :=
  computeTelemetryBatchHash_eq sha256 (by decide +kernel)

/-- The journal after `sampleStart`. -/
def sampleOpened : TelemetryJournal :=
  { TelemetryJournal.new with isOpen := true, contexts := (∅ : Contexts).insert sampleSession sampleContext }

lemma step_sampleStart (sha256 : Bytes → Digest) : ∃ metadata, detailRun sha256 .byKey ⟨.new, .empty⟩ sampleStart =
      ⟨⟨sampleOpened, ⟨metadata, fun _ => none⟩⟩, fun _ => []⟩ := by
  have hr : Store.step sha256 .byKey ⟨.new, .empty⟩ (.reopen 0 sampleOpenCalls) =
    ⟨{ TelemetryJournal.new with isOpen := true }, .empty⟩ := rfl
  refine ⟨(persistOutcome sha256 .byKey .written sampleOpened .empty).directory.metadata, ?_⟩
  have ha : Store.step sha256 .byKey ⟨{ TelemetryJournal.new with isOpen := true }, .empty⟩
      (.authorizeContext sampleSession 1000 .written) =
      ⟨(persistOutcome sha256 .byKey .written sampleOpened .empty).journal,
        (persistOutcome sha256 .byKey .written sampleOpened .empty).directory⟩ := rfl
  simp only [sampleStart, detailRun, foldl, DetailRun.step, hr, ha, journal_persistOutcome]
  congr 2

/-- The producer of the sample batch, once it is admitted. -/
def sampleProducer : ProducerRecord := ⟨Block.fill 16 4, true, false, 1, 1, 0, ∅, ∅⟩

def sampleAdmitted : ContextRecord := { sampleContext with lifetimeGenerations := 1 }

/-- The context with its producer in it. -/
def sampleJoined : ContextRecord :=
  { sampleAdmitted with producers := (∅ : Producers).insert (Block.fill 16 4) sampleProducer }

/-- The journal once the producer is in the index. -/
def sampleJournal : TelemetryJournal :=
  sampleOpened.setProducer sampleSession sampleAdmitted (Block.fill 16 4) sampleProducer

lemma unseen_sampleProducer : Unseen sampleProducer (sampleBatch sampleSession 1) :=
  ⟨rfl, rfl, rfl, by decide⟩

lemma validate_sampleBatch : validateTelemetryBatch (sampleBatch sampleSession 1) := by
  decide +kernel

section Sample

variable (sha256 : Bytes → Digest)

def sampleHash : Digest := sha256 (encodeTelemetryBatch (sampleBatch sampleSession 1))

lemma passed_sampleOpened : Passed sha256 sampleOpened (sampleBatch sampleSession 1) 1000 sampleContext sampleAdmitted
      sampleProducer (sampleHash sha256) :=
  ⟨rfl, validate_sampleBatch, computeTelemetryBatchHash_sample sha256, rfl, by decide, rfl⟩

lemma passed_sampleJournal : Passed sha256 sampleJournal (sampleBatch sampleSession 1) 1000 sampleJoined sampleJoined
      sampleProducer (sampleHash sha256) := by
  refine ⟨rfl, validate_sampleBatch, computeTelemetryBatchHash_sample sha256, ?_, by decide, rfl⟩
  exact Std.ExtTreeMap.getElem?_insert_self

lemma rotates_sample {journal : TelemetryJournal} (hl : journal.segmentSizeLimitForTesting = 0)
    (hb : journal.activeSegmentBytes = 0) (batch : TelemetryBatch) (now : UInt64) (hash : Digest) :
    journal.rotates (detailRecord sha256 batch now hash) = false := by
  have hle := length_encodeTelemetryBatch batch
  simp only [kMaximumTelemetryBatchBytes] at hle
  simp only [TelemetryJournal.rotates, TelemetryJournal.effectiveSegmentBytes, hl, hb,
    length_detailRecord, kDetailSegmentBytes, kDetailHeaderBytes, Nat.lt_irrefl, if_false,
    decide_eq_false_iff_not]
  omega

/-- The directory after a record that stops after its first byte. -/
def sampleTornDirectory (metadata : Option Bytes) : Directory :=
  Directory.append ⟨metadata, fun _ => none⟩ 0 [0x4e]

lemma recordBatch_sampleTorn (metadata : Option Bytes) :
    recordBatch sha256 .byKey (sampleRecordCalls false) sampleOpened ⟨metadata, fun _ => none⟩
        (sampleBatch sampleSession 1) 1000 = ⟨sampleJournal, sampleTornDirectory metadata,
        ackOf (sampleBatch sampleSession 1) 1000 (sampleHash sha256) .unavailable, some "segment write failure"⟩ := by
  have hr : roomFor sha256 (sampleRecordCalls false) sampleOpened ⟨metadata, fun _ => none⟩
      (sampleBatch sampleSession 1) 1000 sampleAdmitted sampleProducer (sampleHash sha256) =
        (sampleJournal, ⟨metadata, fun _ => none⟩) := by
    rw [roomFor, makeRoom, if_neg]
    · rfl
    · rw [rotates_sample sha256 rfl rfl]
      exact Bool.false_ne_true
  rw [recordBatch_torn (passed_sampleOpened sha256) unseen_sampleProducer rfl rfl rfl rfl rfl, hr]
  rfl

lemma recordBatch_sampleStored (directory : Directory) :
    let outcome := recordBatch sha256 .byKey (sampleRecordCalls true) sampleJournal directory
      (sampleBatch sampleSession 1) 1000
    outcome.value.status = .accepted ∧ outcome.journal.activeSegment = 0 ∧ outcome.directory.segments =
        (directory.append 0 (recordOf sha256 (sampleBatch sampleSession 1, 1000))).segments := by
  have hr : roomFor sha256 (sampleRecordCalls true) sampleJournal directory
      (sampleBatch sampleSession 1) 1000 sampleJoined sampleProducer (sampleHash sha256) =
        (sampleJournal.setProducer sampleSession sampleJoined (Block.fill 16 4) sampleProducer, directory) := by
    rw [roomFor, makeRoom, if_neg]
    · rfl
    · rw [rotates_sample sha256 rfl rfl]
      exact Bool.false_ne_true
  rw [recordBatch_stored (passed_sampleJournal sha256) unseen_sampleProducer rfl succeed_sampleRecordCalls]
  refine ⟨rfl, ?_, ?_⟩
  · simp only [storedJournal, hr]
    rfl
  · simp only [segments_persistIgnored, storedDirectory, hr]
    rfl

lemma detailRecords_behind_torn (record : Bytes) :
    detailRecords sha256 (0x4e :: le kDetailRecordMagic ++ record) = [] := by
  refine (frames_of_no_frame ?_).1
  intro value size hh
  obtain ⟨⟨reserved, recordLength, rest, hb, -⟩, -, -, -⟩ :=
    (nextDetailRecord_eq_frame_iff.mp hh).1
  have hm : le kDetailRecordMagic = [0x4e, 0x54, 0x44, 0x31] := by decide
  rw [hm] at hb
  simp at hb

end Sample

/-- The batch is sent again after its record was torn. -/
def sampleRetry : List JournalOp :=
  sampleStart ++ [.recordBatch (sampleBatch sampleSession 1) 1000 (sampleRecordCalls false),
    .recordBatch (sampleBatch sampleSession 1) 1000 (sampleRecordCalls true)]

lemma run_sampleRetry (sha256 : Bytes → Digest) : (sampleBatch sampleSession 1, 1000) ∈
        (detailRun sha256 .byKey ⟨.new, .empty⟩ sampleRetry).retained 0 ∧
      detailRecords sha256 ((detailRun sha256 .byKey ⟨.new, .empty⟩ sampleRetry).store.directory.file 0) = [] := by
  obtain ⟨metadata, hs⟩ := step_sampleStart sha256
  obtain ⟨hst, ha, hse⟩ :=
    recordBatch_sampleStored sha256 (sampleTornDirectory metadata)
  have hr : detailRun sha256 .byKey ⟨.new, .empty⟩ sampleRetry =
      [JournalOp.recordBatch (sampleBatch sampleSession 1) 1000 (sampleRecordCalls false),
        .recordBatch (sampleBatch sampleSession 1) 1000 (sampleRecordCalls true)].foldl
          (DetailRun.step sha256 .byKey) ⟨⟨sampleOpened, ⟨metadata, fun _ => none⟩⟩, fun _ => []⟩ := by
    rw [← hs, detailRun, detailRun, sampleRetry, foldl_append]
  have ht : DetailRun.step sha256 .byKey ⟨⟨sampleOpened, ⟨metadata, fun _ => none⟩⟩, fun _ => []⟩
      (.recordBatch (sampleBatch sampleSession 1) 1000 (sampleRecordCalls false)) =
        ⟨⟨sampleJournal, sampleTornDirectory metadata⟩, fun _ => []⟩ := by
    simp only [DetailRun.step, Store.step, recordBatch_sampleTorn]
    rfl
  rw [hr, foldl_cons, ht, foldl_cons, foldl_nil]
  constructor
  · simp only [DetailRun.step, DetailRun.recorded, hst, ha, if_true, Function.update_self]
    simp
  · have hf : (DetailRun.step sha256 .byKey ⟨⟨sampleJournal, sampleTornDirectory metadata⟩,
        fun _ => []⟩ (.recordBatch (sampleBatch sampleSession 1) 1000
          (sampleRecordCalls true))).store.directory.file 0 =
        [0x4e] ++ recordOf sha256 (sampleBatch sampleSession 1, 1000) := by
      simp only [DetailRun.step, Store.step, Directory.file, hse]
      rfl
    obtain ⟨rest, hre⟩ : ∃ rest, recordOf sha256 (sampleBatch sampleSession 1, 1000) =
      le kDetailRecordMagic ++ rest := ⟨_, List.append_assoc _ _ _⟩
    rw [hf, hre]
    exact detailRecords_behind_torn sha256 rest

/-- The record goes to an empty segment and is there after the restart. -/
theorem accepted_survive_restart_sample : (Set.univ : Set (Bytes → Digest)) ⊆ {sha256 |
      CleanFrom sha256 .byKey ⟨sampleJournal, .empty⟩
        [.recordBatch (sampleBatch sampleSession 1) 1000 (sampleRecordCalls true)] ∧
      (detailRun sha256 .byKey ⟨sampleJournal, .empty⟩
        [.recordBatch (sampleBatch sampleSession 1) 1000 (sampleRecordCalls true)]).retained 0 =
          [(sampleBatch sampleSession 1, 1000)] ∧
      recordOf sha256 (sampleBatch sampleSession 1, 1000) ∈ detailRecords sha256
        ((openDirectory sha256 .byKey sampleOpenCalls 0 .new (detailRun sha256 .byKey ⟨sampleJournal, .empty⟩
            [.recordBatch (sampleBatch sampleSession 1) 1000
              (sampleRecordCalls true)]).store.directory).directory.file 0)} := by
  intro sha256 _
  obtain ⟨hstatus, hactive, -⟩ := recordBatch_sampleStored sha256 .empty
  have hclean : CleanFrom sha256 .byKey ⟨sampleJournal, .empty⟩
      [.recordBatch (sampleBatch sampleSession 1) 1000 (sampleRecordCalls true)] := by
    refine ⟨?_, trivial⟩
    intro _ _ _
    have hrotates : sampleJournal.rotates (recordOf sha256 (sampleBatch sampleSession 1, 1000)) = false :=
      rotates_sample sha256 rfl rfl _ _ _
    simp only [makeRoom, hrotates, Bool.false_eq_true, if_false]
    exact (frames_of_no_frame nextDetailRecord_nil).2
  have hretained : (detailRun sha256 .byKey ⟨sampleJournal, .empty⟩
      [.recordBatch (sampleBatch sampleSession 1) 1000 (sampleRecordCalls true)]).retained 0 =
        [(sampleBatch sampleSession 1, 1000)] := by
    simp only [detailRun, List.foldl, DetailRun.step, DetailRun.recorded, hstatus, hactive, if_true,
      Function.update_self]
    simp
  refine ⟨hclean, hretained, ?_⟩
  refine accepted_survive_restart sha256 .byKey _ _ hclean sampleOpenCalls 0 0 _ ?_
  rw [hretained]
  exact List.mem_singleton_self _

/-- The batch is accepted and is gone after the restart. -/
theorem accepted_lost_behind_torn : ¬ ∃ sha256 : Bytes → Digest, ∀ segment,
      ∀ entry ∈ (detailRun sha256 .byKey ⟨.new, .empty⟩ sampleRetry).retained segment,
        recordOf sha256 entry ∈ detailRecords sha256 ((openDirectory sha256 .byKey sampleOpenCalls 0 .new
            (detailRun sha256 .byKey ⟨.new, .empty⟩ sampleRetry).store.directory).directory.file segment) := by
  rintro ⟨sha256, hsurvive⟩
  obtain ⟨hretained, hnone⟩ := run_sampleRetry sha256
  have hfound := hsurvive 0 _ hretained
  rw [records_openDirectory, hnone] at hfound
  cases hfound

end Nstu.Telemetry
