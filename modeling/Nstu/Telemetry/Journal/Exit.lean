import Nstu.Exam.Journal.Invariant
import Nstu.Telemetry.Journal.Def

/-!
# The exits of `record_batch`

`RecordExit` lists what a call of `record_batch` can do, with everything it has checked by then.
Every result about the journal is a case analysis over it, and none of them unfolds the call again.

A call that is refused early leaves everything as it was.  Behind the admission of the producer it
is answered from the index, or its record is stored, or storing it fails.
-/

namespace Nstu.Telemetry

open Wire Reader FramedLog

section Exits

variable (sha256 : Bytes → Digest)

/-- What a batch has passed when its producer is admitted. -/
structure Passed (journal : TelemetryJournal) (batch : TelemetryBatch) (now : UInt64)
    (context admitted : ContextRecord) (producer : ProducerRecord) (hash : Digest) : Prop where
  isOpen : journal.isOpen = true
  valid : validateTelemetryBatch batch = true
  hashed : computeTelemetryBatchHash sha256 batch = some hash
  lookup : journal.contexts[batch.sessionId]? = some context
  active : context.isActive now = true
  producerOk : admitProducer context batch = .ok (admitted, producer)

/-- The digests are computed and the record is written. -/
structure RecordCalls.Succeed (calls : RecordCalls) : Prop where
  batchHashed : calls.batchHashed = true
  recordHashed : calls.recordHashed = true
  opened : calls.opened = true
  flushed : calls.flushed = true

/-- The sequence of the batch is new to its producer. -/
structure Unseen (producer : ProducerRecord) (batch : TelemetryBatch) : Prop where
  notRetired : producer.retired = false
  noConflict : producer.conflicts.contains batch.sequence = false
  untracked : producer.trackedSequences[batch.sequence]? = none
  aboveFloor : producer.replayFloor < batch.sequence

/-- A batch that is answered from the index, or that finds no storage. -/
inductive Answered (producer : ProducerRecord) (batch : TelemetryBatch) (hash : Digest) :
    TelemetryAckStatus → Prop where
  | retired : producer.retired = true → Answered producer batch hash .rejected
  | conflict : producer.retired = false → producer.conflicts.contains batch.sequence = true →
      Answered producer batch hash .conflict
  | duplicate {time : UInt64} : producer.retired = false →
      producer.conflicts.contains batch.sequence = false →
      producer.trackedSequences[batch.sequence]? = some (hash, time) →
      Answered producer batch hash .duplicate
  | replayed : producer.retired = false → producer.conflicts.contains batch.sequence = false →
      producer.trackedSequences[batch.sequence]? = none → batch.sequence ≤ producer.replayFloor →
      Answered producer batch hash .rejected
  | unavailable : Unseen producer batch → Answered producer batch hash .unavailable

variable (iteration : Iteration) (calls : RecordCalls) (journal : TelemetryJournal)
  (directory : Directory) (batch : TelemetryBatch) (now : UInt64)

/-- The journal and its directory when room has been made for the record of a batch. -/
def roomFor (admitted : ContextRecord) (producer : ProducerRecord) (hash : Digest) : TelemetryJournal × Directory :=
  makeRoom calls.truncated (detailRecord sha256 batch now hash)
    (journal.setProducer batch.sessionId admitted batch.producerId producer) directory

/-- The journal once the record of a batch has been written. -/
def storedJournal (admitted : ContextRecord) (producer : ProducerRecord) (hash : Digest) :
    TelemetryJournal :=
  let room := (roomFor sha256 calls journal directory batch now admitted producer hash).1
  let size := room.activeSegmentBytes + (detailRecord sha256 batch now hash).length
  ({ room with
      activeSegmentBytes := size
      segmentSizes := Function.update room.segmentSizes room.activeSegment size }).setProducer
    batch.sessionId admitted batch.producerId (producer.track batch.sequence hash now)

/-- The directory once the record of a batch has been written. -/
def storedDirectory (admitted : ContextRecord) (producer : ProducerRecord) (hash : Digest) :
    Directory :=
  let room := roomFor sha256 calls journal directory batch now admitted producer hash
  room.2.append room.1.activeSegment (detailRecord sha256 batch now hash)

/-- The exits of `record_batch`. -/
inductive RecordExit : Outcome TelemetryAck → Prop where
  | refused {ack : TelemetryAck} {error : Option String} :
      ack.status = .rejected ∨ ack.status = .unavailable →
      RecordExit ⟨journal, directory, ack, error⟩
  | answered {context admitted : ContextRecord} {producer : ProducerRecord} {hash : Digest}
      {ack : TelemetryAck} {error : Option String} :
      Passed sha256 journal batch now context admitted producer hash →
      Answered producer batch hash ack.status →
      RecordExit ⟨journal.setProducer batch.sessionId admitted batch.producerId producer, directory, ack, error⟩
  | conflicted {context admitted : ContextRecord} {producer : ProducerRecord} {hash known : Digest}
      {time : UInt64} {ack : TelemetryAck} {error : Option String} :
      Passed sha256 journal batch now context admitted producer hash →
      producer.retired = false → producer.conflicts.contains batch.sequence = false →
      producer.trackedSequences[batch.sequence]? = some (known, time) → known ≠ hash →
      ack.status = .conflict →
      RecordExit ⟨(journal.setProducer batch.sessionId admitted batch.producerId producer).setProducer
          batch.sessionId admitted batch.producerId
          { producer with conflicts := producer.conflicts.insert batch.sequence hash },
        persistIgnored sha256 iteration calls.persist
          ((journal.setProducer batch.sessionId admitted batch.producerId producer).setProducer
            batch.sessionId admitted batch.producerId
            { producer with conflicts := producer.conflicts.insert batch.sequence hash }) directory,
        ack, error⟩
  | unopened {context admitted : ContextRecord} {producer : ProducerRecord} {hash : Digest}
      {ack : TelemetryAck} {error : Option String} :
      Passed sha256 journal batch now context admitted producer hash → Unseen producer batch →
      ack.status = .unavailable →
      RecordExit ⟨(roomFor sha256 calls journal directory batch now admitted producer hash).1,
        (roomFor sha256 calls journal directory batch now admitted producer hash).2, ack, error⟩
  | torn {context admitted : ContextRecord} {producer : ProducerRecord} {hash : Digest}
      {ack : TelemetryAck} {error : Option String} :
      Passed sha256 journal batch now context admitted producer hash → Unseen producer batch →
      calls.flushed = false → ack.status = .unavailable →
      RecordExit ⟨(roomFor sha256 calls journal directory batch now admitted producer hash).1,
        (roomFor sha256 calls journal directory batch now admitted producer hash).2.append
          (roomFor sha256 calls journal directory batch now admitted producer hash).1.activeSegment
          ((detailRecord sha256 batch now hash).take calls.written),
        ack, error⟩
  | accepted {context admitted : ContextRecord} {producer : ProducerRecord} {hash : Digest}
      {ack : TelemetryAck} {error : Option String} :
      Passed sha256 journal batch now context admitted producer hash → Unseen producer batch →
      journal.diskFailureInjection = false → calls.Succeed → ack.status = .accepted →
      RecordExit ⟨storedJournal sha256 calls journal directory batch now admitted producer hash,
          persistIgnored sha256 iteration calls.persist
            (storedJournal sha256 calls journal directory batch now admitted producer hash)
            (storedDirectory sha256 calls journal directory batch now admitted producer hash),
          ack, error⟩

end Exits

/-! ## Every call takes an exit -/

variable {sha256 : Bytes → Digest} {iteration : Iteration} {calls : RecordCalls}
  {journal : TelemetryJournal} {directory : Directory} {batch : TelemetryBatch} {now : UInt64}
  {context admitted : ContextRecord} {producer : ProducerRecord} {hash : Digest} {ack : TelemetryAck}

lemma encodeTelemetryBatch_ne_nil (h : computeTelemetryBatchHash sha256 batch = some hash) :
    (encodeTelemetryBatch batch).isEmpty = false := by
  simp only [computeTelemetryBatchHash] at h
  split at h
  · cases h
  · rename_i hn
    exact Bool.eq_false_iff.mpr hn

/-- How storing a batch not seen before ends. -/
lemma storeBatch_exit (hp : Passed sha256 journal batch now context admitted producer hash)
    (hu : Unseen producer batch) (hi : journal.diskFailureInjection = false)
    (hb : calls.batchHashed) :
    RecordExit sha256 iteration calls journal directory batch now (storeBatch sha256 iteration calls
        (journal.setProducer batch.sessionId admitted batch.producerId producer) directory admitted
        producer batch now hash ack) := by
  simp only [storeBatch, encodeTelemetryBatch_ne_nil hp.hashed, Bool.false_eq_true, if_false]
  split
  · exact .answered hp (.unavailable hu)
  · rename_i hr
    split
    · exact .unopened hp hu rfl
    · rename_i ho
      split
      · rename_i hf
        exact .torn hp hu (by simpa using hf) rfl
      · rename_i hf
        have hs : calls.Succeed :=
          ⟨hb, by simpa using hr, by simpa using ho, by simpa using hf⟩
        exact .accepted hp hu hi hs rfl

/-- How a batch ends once its producer is admitted. -/
lemma recordForProducer_exit (hpass : Passed sha256 journal batch now context admitted producer hash)
    (hack : ack.status = .rejected) (hbatch : calls.batchHashed) :
    RecordExit sha256 iteration calls journal directory batch now (recordForProducer sha256 iteration calls
        (journal.setProducer batch.sessionId admitted batch.producerId producer) directory admitted
        producer batch now hash ack) := by
  simp only [recordForProducer]
  split
  · rename_i hreti
    exact .answered hpass (hack ▸ .retired hreti)
  · rename_i hreti
    rw [Bool.not_eq_true] at hreti
    split
    · rename_i hconf
      exact .answered hpass (.conflict hreti hconf)
    · rename_i hconf
      rw [Bool.not_eq_true] at hconf
      split
      · rename_i known time htrac
        split
        · rename_i heq
          subst heq
          exact .answered hpass (.duplicate hreti hconf htrac)
        · rename_i hne
          exact .conflicted hpass hreti hconf htrac hne rfl
      · rename_i htrac
        split
        · rename_i hfloor
          exact .answered hpass (hack ▸ .replayed hreti hconf htrac hfloor)
        · rename_i hfloor
          have hunse : Unseen producer batch :=
            ⟨hreti, hconf, htrac, UInt64.not_le.mp hfloor⟩
          split
          · exact .answered hpass (.unavailable hunse)
          · rename_i hinje
            exact storeBatch_exit hpass hunse (Bool.eq_false_iff.mpr hinje) hbatch

/-- **Every call of `record_batch` takes one of the exits.** -/
lemma recordBatch_exit (iteration : Iteration) (calls : RecordCalls) (journal : TelemetryJournal)
    (directory : Directory) (batch : TelemetryBatch) (now : UInt64) :
    RecordExit sha256 iteration calls journal directory batch now
      (recordBatch sha256 iteration calls journal directory batch now) := by
  simp only [recordBatch]
  split
  · exact .refused (.inr rfl)
  · rename_i ho
    split
    · exact .refused (.inl rfl)
    · rename_i hv
      split
      · exact .refused (.inl rfl)
      · rename_i hash hh
        split
        · exact .refused (.inl rfl)
        · rename_i context hc
          obtain ⟨hl, ha⟩ := Option.filter_eq_some_iff.mp hc
          split
          · exact .refused (.inl rfl)
          · rename_i admitted producer hp
            rw [Option.ite_none_right_eq_some] at hh
            exact recordForProducer_exit
              ⟨by simpa using ho, by simpa using hv, hh.2, hl, ha, hp⟩ rfl
              hh.1

lemma recordBatch_accepted (hstat : (recordBatch sha256 iteration calls journal directory batch now).value.status =
      .accepted) : ∃ context admitted producer hash,
      Passed sha256 journal batch now context admitted producer hash ∧ Unseen producer batch ∧
        (recordBatch sha256 iteration calls journal directory batch now).journal =
          storedJournal sha256 calls journal directory batch now admitted producer hash ∧
        (recordBatch sha256 iteration calls journal directory batch now).directory =
          persistIgnored sha256 iteration calls.persist
            (storedJournal sha256 calls journal directory batch now admitted producer hash)
            (storedDirectory sha256 calls journal directory batch now admitted producer hash) := by
  have hexit := @recordBatch_exit sha256 iteration calls journal directory batch now
  revert hstat hexit
  generalize recordBatch sha256 iteration calls journal directory batch now = outcome
  intro hstat hexit
  cases hexit with
  | refused hrefu =>
    rcases hrefu with h | h <;> rw [h] at hstat <;> cases hstat
  | answered hpass hansw =>
    rw [hstat] at hansw
    cases hansw
  | conflicted hpass hreti hconf htrac hne hconfl =>
    rw [hconfl] at hstat
    cases hstat
  | unopened hpass hunse hunav | torn hpass hunse hflus hunav =>
    rw [hunav] at hstat
    cases hstat
  | accepted hpass hunse hinje hsucc hacce =>
    exact ⟨_, _, _, _, hpass, hunse, rfl, rfl⟩

/-! ## Calls that get as far as the segment -/

/-- The answer to a batch that has passed. -/
def ackOf (batch : TelemetryBatch) (now : UInt64) (hash : Digest) (status : TelemetryAckStatus) :
    TelemetryAck :=
  ⟨batch.sessionId, batch.producerId, batch.sequence, hash, now, status⟩

lemma recordBatch_of_passed (hp : Passed sha256 journal batch now context admitted producer hash)
    (hb : calls.batchHashed) : recordBatch sha256 iteration calls journal directory batch now =
      recordForProducer sha256 iteration calls
        (journal.setProducer batch.sessionId admitted batch.producerId producer) directory admitted
        producer batch now hash (ackOf batch now hash .rejected) := by
  have hc : (journal.contexts[batch.sessionId]?).filter (·.isActive now) = some context := by
    rw [hp.lookup, Option.filter_some, if_pos hp.active]
  simp only [recordBatch, hp.isOpen, hp.valid, hp.hashed, hc, hp.producerOk,
    hb, Bool.not_true, Bool.false_eq_true, if_false, if_true, ackOf]

lemma recordBatch_of_unseen (hp : Passed sha256 journal batch now context admitted producer hash)
    (hu : Unseen producer batch) (hi : journal.diskFailureInjection = false)
    (hb : calls.batchHashed) : recordBatch sha256 iteration calls journal directory batch now =
      storeBatch sha256 iteration calls
        (journal.setProducer batch.sessionId admitted batch.producerId producer) directory admitted
        producer batch now hash (ackOf batch now hash .rejected) := by
  have hf : ¬ batch.sequence ≤ producer.replayFloor := UInt64.not_le.mpr hu.aboveFloor
  have hi' : (journal.setProducer batch.sessionId admitted batch.producerId
    producer).diskFailureInjection = false := hi
  simp only [recordBatch_of_passed hp hb, recordForProducer, hu.notRetired,
    hu.noConflict, hu.untracked, hf, hi', Bool.false_eq_true, if_false]

lemma recordBatch_stored (hp : Passed sha256 journal batch now context admitted producer hash)
    (hu : Unseen producer batch) (hi : journal.diskFailureInjection = false) (hs : calls.Succeed) :
    recordBatch sha256 iteration calls journal directory batch now =
      ⟨storedJournal sha256 calls journal directory batch now admitted producer hash,
        persistIgnored sha256 iteration calls.persist
          (storedJournal sha256 calls journal directory batch now admitted producer hash)
          (storedDirectory sha256 calls journal directory batch now admitted producer hash),
        ackOf batch now hash .accepted, none⟩ := by
  rw [recordBatch_of_unseen hp hu hi hs.batchHashed]
  simp only [storeBatch, encodeTelemetryBatch_ne_nil hp.hashed, hs.recordHashed,
    hs.opened, hs.flushed, Bool.not_true, Bool.false_eq_true, if_false]
  rfl

lemma recordBatch_torn (hp : Passed sha256 journal batch now context admitted producer hash)
    (hu : Unseen producer batch) (hi : journal.diskFailureInjection = false)
    (hb : calls.batchHashed) (hr : calls.recordHashed)
    (ho : calls.opened) (hf : calls.flushed = false) :
    recordBatch sha256 iteration calls journal directory batch now =
      ⟨(roomFor sha256 calls journal directory batch now admitted producer hash).1,
        (roomFor sha256 calls journal directory batch now admitted producer hash).2.append
          (roomFor sha256 calls journal directory batch now admitted producer hash).1.activeSegment
          ((detailRecord sha256 batch now hash).take calls.written),
        ackOf batch now hash .unavailable, some "segment write failure"⟩ := by
  rw [recordBatch_of_unseen hp hu hi hb]
  simp only [storeBatch, encodeTelemetryBatch_ne_nil hp.hashed, hr, ho, hf,
    Bool.not_true, Bool.not_false, Bool.false_eq_true, if_false, if_true]
  rfl

end Nstu.Telemetry
