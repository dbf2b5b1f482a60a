import Nstu.Telemetry.Journal.Segments

/-!
# The metadata file

What `persist_metadata` writes is read back by `load_metadata` as the contexts it was written from,
in whatever order the maps are walked, as long as the loader looks at it: it refuses a file of more
than 32 MiB, and the writer has no bound.

`metadataBytes` counts the size of the file from the sizes of the maps.
-/

namespace Nstu.Telemetry

open Wire Reader FramedLog KeyedMap List Std

/-! ## The size of the file -/

def producerBytes (producer : ProducerRecord) : ℕ :=
  48 + 48 * producer.trackedSequences.size + 40 * producer.conflicts.size

def contextBytes (context : ContextRecord) : ℕ :=
  36 + total producerBytes context.producers

/-- The size of the metadata file, its digest included. -/
def metadataBytes (contexts : Contexts) : ℕ :=
  54 + total contextBytes contexts

section Length

variable {iteration : Iteration} {journal : TelemetryJournal}

lemma length_entries {κ ν : Type} [Ord κ] [TransOrd κ] (map : OrderedMap κ ν)
    {encode : κ × ν → Bytes} {size : ℕ} (h : ∀ entry, (encode entry).length = size) :
    (map.toList.flatMap encode).length = map.size * size := by
  have hs : map.toList.map (fun entry => (encode entry).length) =
      replicate map.size size := by
    rw [← ExtTreeMap.length_toList, ← map_const']
    exact map_congr_left fun entry _ => h entry
  rw [length_flatMap, hs, sum_replicate_nat]

lemma length_encodeProducer (producer : ProducerRecord) :
    (encodeProducer producer).length = producerBytes producer := by
  have ht : (producer.trackedSequences.toList.flatMap encodeTracked).length =
      producer.trackedSequences.size * 48 := by
    refine length_entries _ ?_
    intro entry
    simp [encodeTracked]
  have hc : (producer.conflicts.toList.flatMap encodeConflict).length = producer.conflicts.size * 40 := by
    refine length_entries _ ?_
    intro entry
    simp [encodeConflict]
  simp only [encodeProducer, producerBytes, flatten_cons, flatten_nil, length_append,
    Block.length_toList, le_length, size_uint8, size_uint16, size_uint32, size_uint64, ht,
    hc, length_nil]
  omega

lemma length_encodeContext (context : ContextRecord) :
    (encodeContext iteration context).length = contextBytes context := by
  have hp : ((iteration.producers context.producers).flatMap fun entry =>
      encodeProducer entry.2).length = total producerBytes context.producers := by
    rw [length_flatMap]
    simp only [length_encodeProducer]
    exact ((iteration.producers_perm _).map _).sum_eq
  simp only [encodeContext, contextBytes, flatten_cons, flatten_nil, length_append,
    Block.length_toList, le_length, size_uint8, size_uint16, size_uint32, size_uint64, hp,
    length_nil]
  omega

lemma length_encodeMetadata : (encodeMetadata iteration journal).length + 32 = metadataBytes journal.contexts := by
  have hc : ((iteration.contexts journal.contexts).flatMap fun entry =>
      encodeContext iteration entry.2).length = total contextBytes journal.contexts := by
    rw [length_flatMap]
    simp only [length_encodeContext]
    exact ((iteration.contexts_perm _).map _).sum_eq
  simp only [encodeMetadata, metadataBytes, flatten_cons, flatten_nil, length_append,
    le_length, size_uint16, size_uint32, size_uint64, hc, length_nil]
  omega

end Length

/-! ## What is read back -/

section RoundTrip

variable {iteration : Iteration}

@[simp] lemma flagByte_bne_zero (flag : Bool) : (flagByte flag != 0) = flag := by
  cases flag <;> rfl

lemma run_readTracked (entry : UInt64 × (Digest × UInt64)) (rest : Bytes) :
    readTracked.run (encodeTracked entry ++ rest) = some (id entry, rest) := by
  simp only [readTracked, run_bind_readLe_iff, run_bind_readBlock_iff, run_pure_iff]
  exact ⟨entry.1, _, by simp [encodeTracked], entry.2.2, _, rfl, entry.2.1, rest, rfl, rfl, rfl⟩

lemma run_readConflict (entry : UInt64 × Digest) (rest : Bytes) :
    readConflict.run (encodeConflict entry ++ rest) = some (id entry, rest) := by
  simp only [readConflict, run_bind_readLe_iff, run_bind_readBlock_iff, run_pure_iff]
  exact ⟨entry.1, _, by simp [encodeConflict], entry.2, rest, rfl, rfl, rfl⟩

/-- The maps of a producer are small enough for their counts. -/
structure ProducerRecord.Countable (producer : ProducerRecord) : Prop where
  tracked : producer.trackedSequences.size < 2 ^ 32
  conflicts : producer.conflicts.size < 2 ^ 32

variable {κ ν : Type}

lemma run_readTimes_toList [Ord κ] [TransOrd κ] [LawfulEqOrd κ]
    {map : OrderedMap κ ν} {entries : List (κ × ν)} (hp : entries.Perm map.toList)
    {reader : Reader (κ × ν)} {encode : κ × ν → Bytes}
    (hr : ∀ entry rest, reader.run (encode entry ++ rest) = some (id entry, rest)) (rest : Bytes) :
    (readTimes reader map.size).run (entries.flatMap encode ++ rest) = some (entries, rest) := by
  have hr' := @run_readTimes (κ × ν) (κ × ν) reader encode id entries rest fun entry _ => hr entry
  rwa [map_id, hp.length_eq, ExtTreeMap.length_toList] at hr'

lemma run_readProducer {producer : ProducerRecord} (h : producer.Countable) (rest : Bytes) :
    readProducer.run (encodeProducer producer ++ rest) = some (producer, rest) := by
  have ht : (UInt32.ofNat producer.trackedSequences.size).toNat = producer.trackedSequences.size :=
    UInt32.toNat_ofNat_of_lt' h.tracked
  have hc : (UInt32.ofNat producer.conflicts.size).toNat = producer.conflicts.size :=
    UInt32.toNat_ofNat_of_lt' h.conflicts
  have hw : encodeProducer producer ++ rest = producer.producerId.toList ++ (le (flagByte producer.admitted) ++
        (le (flagByte producer.retired) ++ (le (0 : UInt16) ++ (le producer.generation ++
          (le producer.currentSequence ++ (le producer.replayFloor ++
            (le (UInt32.ofNat producer.trackedSequences.size) ++
              (producer.trackedSequences.toList.flatMap encodeTracked ++ (le (UInt32.ofNat producer.conflicts.size) ++
                  (producer.conflicts.toList.flatMap encodeConflict ++ rest)))))))))) := by
    simp [encodeProducer]
  rw [hw]
  simp only [readProducer, run_bind_readLe_iff, run_bind_readBlock_iff]
  refine ⟨_, _, rfl, _, _, rfl, _, _, rfl, _, _, rfl, _, _, rfl, _, _, rfl, _, _, rfl, _, _, rfl, ?_⟩
  rw [ht, run_bind_iff]
  refine ⟨_, _, run_readTimes_toList (List.Perm.refl _) run_readTracked _, ?_⟩
  rw [run_bind_readLe_iff]
  refine ⟨_, _, rfl, ?_⟩
  rw [hc, run_bind_iff]
  refine ⟨_, _, run_readTimes_toList (List.Perm.refl _) run_readConflict _, ?_⟩
  simp only [run_pure_iff, flagByte_bne_zero, ofList_of_perm (List.Perm.refl _), and_self]

/-- The maps of a context are small enough for their counts. -/
structure ContextRecord.Countable (context : ContextRecord) : Prop where
  producers : context.producers.size < 2 ^ 32
  each : ∀ (producerId : ProducerId) (producer : ProducerRecord),
    context.producers[producerId]? = some producer → producer.Countable

lemma ofList_map_of_perm [Ord κ] [TransOrd κ] [LawfulEqOrd κ]
    {map : OrderedMap κ ν} {entries : List (κ × ν)} (hp : entries.Perm map.toList) {key : ν → κ}
    (hk : ∀ (k : κ) (v : ν), map[k]? = some v → key v = k) :
    ExtTreeMap.ofList ((entries.map Prod.snd).map fun value => (key value, value)) compare = map := by
  have he : (entries.map Prod.snd).map (fun value => (key value, value)) = entries := by
    rw [map_map]
    refine (map_congr_left ?_).trans (map_id entries)
    intro entry hen
    have hl := getElem?_of_mem_toList (hp.mem_iff.mp hen)
    exact Prod.ext (hk _ _ hl) rfl
  rw [he]
  exact ofList_of_perm hp

lemma run_readContext {context : ContextRecord} (h : context.Countable) (hk : context.Keyed) (rest : Bytes) :
    readContext.run (encodeContext iteration context ++ rest) = some (context, rest) := by
  have hc : (UInt32.ofNat context.producers.size).toNat = context.producers.size :=
    UInt32.toNat_ofNat_of_lt' h.producers
  have hp := iteration.producers_perm context.producers
  have hw : encodeContext iteration context ++ rest =
      context.sessionId.toList ++ (le (flagByte context.authorized) ++
        (le (flagByte context.stopped) ++ (le (0 : UInt16) ++ (le context.authorizedAtUnixMs ++
          (le context.lifetimeGenerations ++ (le (UInt32.ofNat context.producers.size) ++
            ((iteration.producers context.producers).flatMap (fun entry => encodeProducer entry.2) ++
              rest))))))) := by
    simp [encodeContext]
  have hpr : (readTimes readProducer context.producers.size).run
      ((iteration.producers context.producers).flatMap (fun entry => encodeProducer entry.2) ++ rest) =
        some ((iteration.producers context.producers).map Prod.snd, rest) := by
    rw [← ExtTreeMap.length_toList, ← hp.length_eq]
    refine run_readTimes rest ?_
    intro entry he rest
    exact run_readProducer (h.each _ _ (getElem?_of_mem_toList (hp.mem_iff.mp he))) rest
  rw [hw]
  simp only [readContext, run_bind_readLe_iff, run_bind_readBlock_iff]
  refine ⟨_, _, rfl, _, _, rfl, _, _, rfl, _, _, rfl, _, _, rfl, _, _, rfl, _, _, rfl, ?_⟩
  rw [hc, run_bind_iff]
  refine ⟨_, _, hpr, ?_⟩
  simp only [run_pure_iff, flagByte_bne_zero, ofList_map_of_perm hp hk, and_self]

lemma run_readContexts {contexts : Contexts} (hk : Keyed contexts) (hs : contexts.size < 2 ^ 32)
    (hc : ∀ (sessionId : SessionId) (context : ContextRecord),
      contexts[sessionId]? = some context → context.Countable) (rest : Bytes) :
    readContexts.run (le (UInt32.ofNat contexts.size) ++
        ((iteration.contexts contexts).flatMap (fun entry => encodeContext iteration entry.2) ++ rest)) =
      some (contexts, rest) := by
  have hco : (UInt32.ofNat contexts.size).toNat = contexts.size := UInt32.toNat_ofNat_of_lt' hs
  have hp := iteration.contexts_perm contexts
  have hcon : (readTimes readContext contexts.size).run
      ((iteration.contexts contexts).flatMap (fun entry => encodeContext iteration entry.2) ++ rest) =
        some ((iteration.contexts contexts).map Prod.snd, rest) := by
    rw [← ExtTreeMap.length_toList, ← hp.length_eq]
    refine run_readTimes rest ?_
    intro entry he rest
    have hl := getElem?_of_mem_toList (hp.mem_iff.mp he)
    exact run_readContext (hc _ _ hl) (hk _ _ hl).2 rest
  simp only [readContexts, run_bind_readLe_iff]
  refine ⟨_, _, rfl, ?_⟩
  rw [hco, run_bind_iff]
  refine ⟨_, _, hcon, ?_⟩
  rw [run_pure_iff, ofList_map_of_perm hp fun k v hl => (hk k v hl).1]
  exact ⟨rfl, rfl⟩

end RoundTrip

/-! ## Files that are small enough -/

section Bounds

variable {contexts : Contexts}

lemma size_lt_of_metadataBytes_le (h : metadataBytes contexts ≤ kMaximumIndexSizeBytes) : contexts.size < 2 ^ 32 := by
  have hs := @size_le_total _ _ _ _ contextBytes contexts fun context => by
    rw [contextBytes]
    omega
  simp only [metadataBytes, kMaximumIndexSizeBytes] at h
  omega

lemma countable_of_metadataBytes_le (h : metadataBytes contexts ≤ kMaximumIndexSizeBytes)
    {sessionId : SessionId} {context : ContextRecord} (hl : contexts[sessionId]? = some context) :
    context.Countable := by
  have hc := le_total_of_getElem? contextBytes hl
  have hp := @size_le_total _ _ _ _ producerBytes context.producers fun producer => by
    rw [producerBytes]
    omega
  simp only [metadataBytes, kMaximumIndexSizeBytes] at h
  rw [contextBytes] at hc
  refine ⟨by omega, ?_⟩
  intro producerId producer hpr
  have hb := le_total_of_getElem? producerBytes hpr
  rw [producerBytes] at hb
  exact ⟨by omega, by omega⟩

end Bounds

section Load

variable {sha256 : Bytes → Digest} {iteration : Iteration} {answer : PersistAnswer}
  {journal loading : TelemetryJournal} {directory after : Directory}

lemma persistMetadata_eq_ok (h : persistMetadata sha256 iteration answer journal directory = .ok after) :
    (encodeMetadata iteration journal).length ≤ 0xffffffff ∧ after = ⟨some (encodeMetadata iteration journal ++
        (sha256 (encodeMetadata iteration journal)).toList), directory.segments⟩ := by
  simp only [persistMetadata, sha256Of] at h
  split at h
  · cases h
  · split at h
    · cases h
    · rename_i digest hd
      rw [Option.ite_none_left_eq_some, Nat.not_lt] at hd
      cases answer <;> cases h
      exact ⟨hd.1, by rw [Option.some.inj hd.2]⟩

lemma persistMetadata_written (hi : journal.diskFailureInjection = false)
    (hl : (encodeMetadata iteration journal).length ≤ 0xffffffff) :
    persistMetadata sha256 iteration .written journal directory = .ok ⟨some (encodeMetadata iteration journal ++
        (sha256 (encodeMetadata iteration journal)).toList), directory.segments⟩ := by
  have hd : sha256Of sha256 (encodeMetadata iteration journal) =
      some (sha256 (encodeMetadata iteration journal)) := if_neg (Nat.not_lt.mpr hl)
  simp only [persistMetadata, hi, hd, Bool.false_eq_true, if_false]

lemma run_readMetadataHeader (rest : Bytes) : readMetadataHeader.run (encodeMetadata iteration journal ++ rest) =
      some ((UInt32.ofNat journal.activeSegment, UInt64.ofNat journal.activeSegmentBytes),
        le (UInt32.ofNat journal.contexts.size) ++
          ((iteration.contexts journal.contexts).flatMap (fun entry => encodeContext iteration entry.2) ++ rest)) := by
  have hw : encodeMetadata iteration journal ++ rest =
      le kMetadataMagic ++ (le kMetadataVersion ++ (le (UInt32.ofNat journal.activeSegment) ++
        (le (UInt64.ofNat journal.activeSegmentBytes) ++ (le (UInt32.ofNat journal.contexts.size) ++
          ((iteration.contexts journal.contexts).flatMap (fun entry => encodeContext iteration entry.2) ++
            rest))))) := by
    simp [encodeMetadata]
  rw [hw]
  simp only [readMetadataHeader, run_bind_readLe_iff, run_bind_require_iff, run_pure_iff]
  exact ⟨_, _, rfl, rfl, _, _, rfl, rfl, _, _, rfl, _, _, rfl, rfl, rfl⟩

/-- The metadata file has been written from a journal. -/
def Directory.Holds (sha256 : Bytes → Digest) (iteration : Iteration) (directory : Directory)
    (stored : TelemetryJournal) : Prop :=
  directory.metadata = some (encodeMetadata iteration stored ++ (sha256 (encodeMetadata iteration stored)).toList)

lemma Directory.Holds.of_persist (h : persistMetadata sha256 iteration answer journal directory = .ok after) :
    after.Holds sha256 iteration journal := by
  rw [(persistMetadata_eq_ok h).2]
  rfl

lemma length_metadata :
    (encodeMetadata iteration journal ++ (sha256 (encodeMetadata iteration journal)).toList).length =
      metadataBytes journal.contexts := by
  rw [length_append, Block.length_toList, length_encodeMetadata]

/-- **A file that is small enough is read back.** -/
lemma Directory.Holds.load (h : directory.Holds sha256 iteration journal) (hk : Keyed journal.contexts)
    (hs : metadataBytes journal.contexts ≤ kMaximumIndexSizeBytes) :
    (loadMetadata sha256 true directory loading).contexts = journal.contexts := by
  have hb := @length_encodeMetadata iteration journal
  have hl : 54 ≤ metadataBytes journal.contexts := Nat.le_add_right _ _
  simp only [kMaximumIndexSizeBytes] at hs
  have hp : metadataBytes journal.contexts - 32 = (encodeMetadata iteration journal).length := by
    omega
  have hg : (decide (metadataBytes journal.contexts < 16 + 32) ||
      decide (metadataBytes journal.contexts > 32 * 1024 * 1024)) = false := by
    rw [Bool.or_eq_false_iff, decide_eq_false_iff_not, decide_eq_false_iff_not]
    omega
  have hd : sha256Of sha256 (encodeMetadata iteration journal) =
      some (sha256 (encodeMetadata iteration journal)) := by
    refine if_neg ?_
    omega
  rw [Directory.Holds] at h
  simp only [loadMetadata, h, length_metadata, hg, hp, take_left, drop_left, hd,
    run_readMetadataHeader, bne_self_eq_false, Bool.not_true, Bool.false_eq_true, if_false,
    run_readContexts hk (size_lt_of_metadataBytes_le hs) fun _ _ => countable_of_metadataBytes_le hs]

lemma Directory.Holds.load_too_large (h : directory.Holds sha256 iteration journal)
    (hs : kMaximumIndexSizeBytes < metadataBytes journal.contexts) (readable : Bool) :
    loadMetadata sha256 readable directory loading = loading := by
  simp only [kMaximumIndexSizeBytes] at hs
  rw [Directory.Holds] at h
  simp only [loadMetadata, h, length_metadata]
  rw [if_pos]
  rw [Bool.or_eq_true, decide_eq_true_eq, decide_eq_true_eq]
  exact .inr hs

lemma contexts_openDirectory {calls : OpenCalls} (hc : calls.createError = none) :
    (openDirectory sha256 iteration calls 0 .new directory).journal.contexts =
      (loadMetadata sha256 calls.metadataReadable directory .new).contexts := by
  simp only [openDirectory, hc]
  rw [if_neg (by decide), contexts_openFiles]

end Load

/-- **The index comes back from its file exactly when the file is not too large.**  The journal has
been opened on some directory and used in any way; what a successful write has stored is loaded by a
fresh object, on a disk that lets it read. -/
theorem metadata_roundTrip_iff (sha256 : Bytes → Digest) (iteration iteration' : Iteration)
    (directory : Directory) (ops : List JournalOp) {answer : PersistAnswer} {before after : Directory}
    (hpersist : persistMetadata sha256 iteration answer
      (ops.foldl (Store.step sha256 iteration) ⟨.new, directory⟩).journal before = .ok after)
    {calls : OpenCalls} (hcreated : calls.createError = none) (hreadable : calls.metadataReadable = true) :
    (openDirectory sha256 iteration' calls 0 .new after).journal.contexts =
        (ops.foldl (Store.step sha256 iteration) ⟨.new, directory⟩).journal.contexts ↔
      metadataBytes (ops.foldl (Store.step sha256 iteration) ⟨.new, directory⟩).journal.contexts ≤
        kMaximumIndexSizeBytes := by
  have hkeyed : Keyed (ops.foldl (Store.step sha256 iteration) ⟨.new, directory⟩).journal.contexts := by
    refine foldl_step_of_indexStep (fun _ _ h hstep => h.indexStep hstep) ops ?_
    intro sessionId context hlookup
    cases hlookup
  rw [contexts_openDirectory hcreated, hreadable]
  constructor
  · intro hloaded
    by_contra hlarge
    rw [(Directory.Holds.of_persist hpersist).load_too_large (Nat.not_le.mp hlarge)] at hloaded
    rw [← hloaded] at hlarge
    exact hlarge (by decide)
  · intro hsize
    exact (Directory.Holds.of_persist hpersist).load hkeyed hsize

/-! ## A run with producers, tracked sequences and a conflict -/

lemma journal_sampleStart (sha256 : Bytes → Digest) :
    (sampleStart.foldl (Store.step sha256 .byKey) ⟨.new, .empty⟩).journal = sampleOpened := by
  have ha : (sampleStart.foldl (Store.step sha256 .byKey) ⟨.new, .empty⟩).journal =
    (persistOutcome sha256 .byKey .written sampleOpened .empty).journal := rfl
  rw [ha, journal_persistOutcome]

/-- A journal that takes batches. -/
structure TelemetryJournal.Working (journal : TelemetryJournal) (contexts : Contexts) : Prop where
  isOpen : journal.isOpen = true
  injection : journal.diskFailureInjection = false
  contexts_eq : journal.contexts = contexts

/-- A context is active at the time of its authorization. -/
lemma isActive_of_authorized {context : ContextRecord} (ha : context.authorized = true)
    (hs : context.stopped = false) (ht : context.authorizedAtUnixMs = 1000) : context.isActive 1000 := by
  have hhour : (decide ((0 : UInt64) < 1000) &&
      decide ((1000 : UInt64) + kTelemetryMaxActiveContextMilliseconds ≤ 1000)) = false := by
    decide +kernel
  simp only [ContextRecord.isActive, ha, hs, ht, hhour, Bool.not_true, Bool.or_false, Bool.false_eq_true,
    if_false]

section Working

variable {sha256 : Bytes → Digest} {iteration : Iteration} {store : Store} {contexts : Contexts}
  {batch : TelemetryBatch} {now : UInt64} {context admitted : ContextRecord} {producer : ProducerRecord}
  {hash : Digest}

/-- A new batch is stored and its sequence is tracked. -/
lemma TelemetryJournal.Working.stored (h : store.journal.Working contexts)
    (hp : Passed sha256 store.journal batch now context admitted producer hash) (hu : Unseen producer batch) :
    (store.step sha256 iteration (.recordBatch batch now (sampleRecordCalls true))).journal.Working
      (contexts.insert batch.sessionId { admitted with
        producers := admitted.producers.insert batch.producerId (producer.track batch.sequence hash now) }) := by
  have hstored := @recordBatch_stored sha256 iteration _ _ store.directory _ _ _ _ _ _ hp hu h.injection
    succeed_sampleRecordCalls
  simp only [Store.step, hstored]
  refine ⟨isOpen_storedJournal.trans h.isOpen, diskFailureInjection_storedJournal.trans h.injection, ?_⟩
  rw [contexts_storedJournal, h.contexts_eq]

/-- A batch with another hash than the one tracked for its sequence is a conflict from then on. -/
lemma TelemetryJournal.Working.disputed (h : store.journal.Working contexts)
    (hp : Passed sha256 store.journal batch now context admitted producer hash) (hr : producer.retired = false)
    (hc : producer.conflicts.contains batch.sequence = false) {known : Digest} {time : UInt64}
    (ht : producer.trackedSequences[batch.sequence]? = some (known, time)) (hne : known ≠ hash) :
    (store.step sha256 iteration (.recordBatch batch now (sampleRecordCalls true))).journal.Working
      (contexts.insert batch.sessionId { admitted with
        producers := admitted.producers.insert batch.producerId
          { producer with conflicts := producer.conflicts.insert batch.sequence hash } }) := by
  simp only [Store.step, recordBatch_of_passed hp succeed_sampleRecordCalls.batchHashed, recordForProducer, hr,
    hc, ht, hne, Bool.false_eq_true, if_false]
  refine ⟨h.isOpen, h.injection, ?_⟩
  simp only [contexts_setProducer, insert_insert_self, h.contexts_eq]

end Working

/-- The first two are of one producer, the third disputes the first, and the last is of a second
producer. -/
def sampleRecord : ℕ → TelemetryBatch
  | 0 => sampleBatch sampleSession 1
  | 1 => sampleBatch sampleSession 2
  | 2 => { sampleBatch sampleSession 1 with candidateId := [100] }
  | _ => { sampleBatch sampleSession 1 with producerId := Block.fill 16 5 }

def sampleRecords : List JournalOp :=
  (range 4).map fun k => .recordBatch (sampleRecord k) 1000 (sampleRecordCalls true)

lemma sampleRecord_valid {k : ℕ} (hk : k < 4) :
    validateTelemetryBatch (sampleRecord k) ∧ (encodeTelemetryBatch (sampleRecord k)).isEmpty = false := by
  have hall : ∀ k < 4, validateTelemetryBatch (sampleRecord k) ∧
      (encodeTelemetryBatch (sampleRecord k)).isEmpty = false := by
    decide +kernel
  exact hall k hk

lemma sampleRecord_sessionId (k : ℕ) : (sampleRecord k).sessionId = sampleSession := by
  simp only [sampleRecord]
  split <;> rfl

section Sample

variable (sha256 : Bytes → Digest)

def recordHash (k : ℕ) : Digest := sha256 (encodeTelemetryBatch (sampleRecord k))

def trackedOnce : ProducerRecord :=
  { sampleProducer with trackedSequences := (∅ : OrderedMap UInt64 (Digest × UInt64)).insert 1 (recordHash sha256 0, 1000) }

def trackedTwice : ProducerRecord :=
  { sampleProducer with
    currentSequence := 2
    trackedSequences := ((∅ : OrderedMap UInt64 (Digest × UInt64)).insert 1 (recordHash sha256 0, 1000)).insert 2 (recordHash sha256 1, 1000) }

/-- The first producer after so many of the batches. -/
def firstProducerAt : ℕ → ProducerRecord
  | 0 => sampleProducer
  | 1 => trackedOnce sha256
  | 2 => trackedTwice sha256
  | _ => { trackedTwice sha256 with conflicts := (∅ : OrderedMap UInt64 Digest).insert 1 (recordHash sha256 2) }

def secondProducer : ProducerRecord := ⟨Block.fill 16 5, true, false, 2, 1, 0, ∅, ∅⟩

/-- The second producer after its batch. -/
def secondProducerAt : ProducerRecord :=
  { secondProducer with trackedSequences := (∅ : OrderedMap UInt64 (Digest × UInt64)).insert 1 (recordHash sha256 3, 1000) }

/-- The context after so many of the batches. -/
def sampleContextAt : ℕ → ContextRecord
  | 0 => sampleContext
  | 4 => { sampleAdmitted with
      lifetimeGenerations := 2
      producers := ((∅ : Producers).insert (Block.fill 16 4) (firstProducerAt sha256 3)).insert
        (Block.fill 16 5) (secondProducerAt sha256) }
  | k => { sampleAdmitted with producers := (∅ : Producers).insert (Block.fill 16 4) (firstProducerAt sha256 k) }

def sampleContextsAt (k : ℕ) : Contexts := (∅ : Contexts).insert sampleSession (sampleContextAt sha256 k)

variable {sha256} {store : Store}

lemma passed_sampleRecord {k : ℕ} (hk : k < 4) {admitted : ContextRecord} {producer : ProducerRecord}
    (h : store.journal.Working (sampleContextsAt sha256 k))
    (hp : admitProducer (sampleContextAt sha256 k) (sampleRecord k) = .ok (admitted, producer)) :
    Passed sha256 store.journal (sampleRecord k) 1000 (sampleContextAt sha256 k) admitted producer
      (recordHash sha256 k) := by
  obtain ⟨hvalid, hencoded⟩ := sampleRecord_valid hk
  have hcases : k = 0 ∨ k = 1 ∨ k = 2 ∨ k = 3 := by omega
  have hactive : (sampleContextAt sha256 k).isActive 1000 := by
    rcases hcases with rfl | rfl | rfl | rfl <;> exact isActive_of_authorized rfl rfl rfl
  refine ⟨h.isOpen, hvalid, computeTelemetryBatchHash_eq sha256 hencoded, ?_, hactive, hp⟩
  rw [h.contexts_eq, sampleRecord_sessionId]
  exact ExtTreeMap.getElem?_insert_self

lemma track_of_room {producer : ProducerRecord} {sequence now : UInt64} {hash : Digest}
    (hs : producer.trackedSequences.size < kMaximumHashesPerProducer) :
    producer.track sequence hash now = { producer with
      trackedSequences := producer.trackedSequences.insert sequence (hash, now)
      currentSequence := max producer.currentSequence sequence } := by
  have hroom : (producer.trackedSequences.insert sequence (hash, now)).size ≤ kMaximumHashesPerProducer :=
    ExtTreeMap.size_insert_le.trans hs
  simp only [ProducerRecord.track, ProducerRecord.enforceQuota, Nat.sub_eq_zero_of_le hroom, evictOldest]

lemma track_sampleProducer : sampleProducer.track 1 (recordHash sha256 0) 1000 = trackedOnce sha256 :=
  track_of_room (by decide)

lemma track_trackedOnce : (trackedOnce sha256).track 2 (recordHash sha256 1) 1000 = trackedTwice sha256 :=
  track_of_room (ExtTreeMap.size_insert_le.trans_lt (by decide))

lemma track_secondProducer : secondProducer.track 1 (recordHash sha256 3) 1000 = secondProducerAt sha256 :=
  track_of_room (by decide)

lemma admitProducer_eq_known {context : ContextRecord} {batch : TelemetryBatch} {producer : ProducerRecord}
    (hl : context.producers[batch.producerId]? = some producer) (ha : producer.admitted = true) :
    admitProducer context batch = .ok (context, producer) := by
  simp only [admitProducer, hl, Option.getD_some, ha, if_true]

lemma working_next {journal : TelemetryJournal} {k : ℕ} {context : ContextRecord}
    (h : journal.Working ((sampleContextsAt sha256 k).insert (sampleRecord k).sessionId context)) :
    journal.Working ((∅ : Contexts).insert sampleSession context) := by
  rwa [sampleRecord_sessionId, sampleContextsAt, insert_insert_self] at h

/-- Each batch of the sample run brings the context one further. -/
lemma working_sampleRecord {k : ℕ} (hk : k < 4) (hd : recordHash sha256 0 ≠ recordHash sha256 2)
    (h : store.journal.Working (sampleContextsAt sha256 k)) :
    (store.step sha256 .byKey (.recordBatch (sampleRecord k) 1000 (sampleRecordCalls true))).journal.Working
      (sampleContextsAt sha256 (k + 1)) := by
  have hcases : k = 0 ∨ k = 1 ∨ k = 2 ∨ k = 3 := by omega
  rcases hcases with rfl | rfl | rfl | rfl
  · have hpass : Passed sha256 store.journal (sampleRecord 0) 1000 (sampleContextAt sha256 0) sampleAdmitted
        sampleProducer (recordHash sha256 0) := passed_sampleRecord hk h rfl
    have hnext : (store.step sha256 .byKey _).journal.Working _ :=
      h.stored hpass ⟨rfl, rfl, rfl, (by decide : (0 : UInt64) < 1)⟩
    have htrack : sampleProducer.track (sampleRecord 0).sequence (recordHash sha256 0) 1000 = trackedOnce sha256 :=
      track_sampleProducer
    rw [htrack] at hnext
    exact working_next hnext
  · have hpass : Passed sha256 store.journal (sampleRecord 1) 1000 (sampleContextAt sha256 1)
        (sampleContextAt sha256 1) (trackedOnce sha256) (recordHash sha256 1) :=
      passed_sampleRecord hk h (admitProducer_eq_known ExtTreeMap.getElem?_insert_self rfl)
    have hnext : (store.step sha256 .byKey _).journal.Working _ :=
      h.stored hpass ⟨rfl, rfl, rfl, (by decide : (0 : UInt64) < 2)⟩
    have htrack : (trackedOnce sha256).track (sampleRecord 1).sequence (recordHash sha256 1) 1000 =
        trackedTwice sha256 := track_trackedOnce
    have hproducers : (sampleContextAt sha256 1).producers.insert (sampleRecord 1).producerId (trackedTwice sha256) =
        (sampleContextAt sha256 2).producers := insert_insert_self _ _ _ _
    rw [htrack, hproducers] at hnext
    exact working_next hnext
  · have hpass : Passed sha256 store.journal (sampleRecord 2) 1000 (sampleContextAt sha256 2)
        (sampleContextAt sha256 2) (trackedTwice sha256) (recordHash sha256 2) :=
      passed_sampleRecord hk h (admitProducer_eq_known ExtTreeMap.getElem?_insert_self rfl)
    have hnext : (store.step sha256 .byKey _).journal.Working _ := h.disputed hpass rfl rfl rfl hd
    have hproducers : (sampleContextAt sha256 2).producers.insert (sampleRecord 2).producerId
        (firstProducerAt sha256 3) = (sampleContextAt sha256 3).producers := insert_insert_self _ _ _ _
    exact working_next (hproducers ▸ hnext)
  · have hpass : Passed sha256 store.journal (sampleRecord 3) 1000 (sampleContextAt sha256 3)
        { sampleContextAt sha256 3 with lifetimeGenerations := 2 } secondProducer (recordHash sha256 3) :=
      passed_sampleRecord hk h rfl
    have hnext : (store.step sha256 .byKey _).journal.Working _ :=
      h.stored hpass ⟨rfl, rfl, rfl, (by decide : (0 : UInt64) < 1)⟩
    have htrack : secondProducer.track (sampleRecord 3).sequence (recordHash sha256 3) 1000 =
        secondProducerAt sha256 := track_secondProducer
    rw [htrack] at hnext
    exact working_next hnext

lemma working_sampleRecords (hd : recordHash sha256 0 ≠ recordHash sha256 2) {k : ℕ} (hk : k ≤ 4) :
    ((sampleStart ++ sampleRecords.take k).foldl (Store.step sha256 .byKey) ⟨.new, .empty⟩).journal.Working
      (sampleContextsAt sha256 k) := by
  induction k with
  | zero =>
    rw [take_zero, append_nil, journal_sampleStart]
    exact ⟨rfl, rfl, rfl⟩
  | succ k ih =>
    have hnext : sampleRecords.take (k + 1) =
        sampleRecords.take k ++ [.recordBatch (sampleRecord k) 1000 (sampleRecordCalls true)] := by
      rw [take_add_one, sampleRecords, getElem?_map, getElem?_range hk]
      rfl
    rw [hnext, ← append_assoc, foldl_append]
    exact working_sampleRecord hk hd (ih (Nat.le_of_succ_le hk))

/-- Two producers, three tracked sequences and one conflict. -/
lemma metadataBytes_sampleContextsAt {k : ℕ} (hk : k ≤ 4) :
    metadataBytes (sampleContextsAt sha256 k) ≤ 370 ∧ totalTrackedHashes (sampleContextsAt sha256 k) ≤ 3 := by
  have hcases : k = 0 ∨ k = 1 ∨ k = 2 ∨ k = 3 ∨ k = 4 := by omega
  rcases hcases with rfl | rfl | rfl | rfl | rfl <;>
    exact ⟨Nat.le_of_ble_eq_true rfl, Nat.le_of_ble_eq_true rfl⟩

end Sample

/-- A context with two producers, three tracked sequences and a conflict comes back, whatever hash
function tells the two disputed batches apart. -/
theorem metadata_roundTrip_sample : {sha256 : Bytes → Digest | recordHash sha256 0 ≠ recordHash sha256 2} ⊆
      {sha256 | ∃ after, persistMetadata sha256 .byKey .written
          ((sampleStart ++ sampleRecords).foldl (Store.step sha256 .byKey) ⟨.new, .empty⟩).journal .empty = .ok after ∧
        (openDirectory sha256 .byKey sampleOpenCalls 0 .new after).journal.contexts =
          ((sampleStart ++ sampleRecords).foldl (Store.step sha256 .byKey) ⟨.new, .empty⟩).journal.contexts ∧
        (openDirectory sha256 .byKey sampleOpenCalls 0 .new after).journal.contexts = sampleContextsAt sha256 4} := by
  intro sha256 hd
  have hrun := working_sampleRecords hd (Nat.le_refl 4)
  have hsize := (@metadataBytes_sampleContextsAt sha256 4 (Nat.le_refl 4)).1
  rw [← hrun.contexts_eq] at hsize
  have hbytes := @length_encodeMetadata .byKey
    ((sampleStart ++ sampleRecords).foldl (Store.step sha256 .byKey) ⟨.new, .empty⟩).journal
  have hpersist := @persistMetadata_written sha256 .byKey _ .empty hrun.injection
    (Nat.le_trans (Nat.le_add_right _ 32) (hbytes.le.trans (hsize.trans (by decide))))
  have hcalls : sampleOpenCalls.createError = none ∧ sampleOpenCalls.metadataReadable = true := ⟨rfl, rfl⟩
  have hsame := (metadata_roundTrip_iff sha256 .byKey .byKey .empty (sampleStart ++ sampleRecords) hpersist
    hcalls.1 hcalls.2).mpr (hsize.trans (by decide))
  exact ⟨_, hpersist, hsame, hsame.trans hrun.contexts_eq⟩

end Nstu.Telemetry
