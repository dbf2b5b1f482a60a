import Nstu.Telemetry.Journal.Metadata

/-!
# The size of the index

The journal enforces a quota of 4096 tracked sequences for each producer, of 16 generations for each
context and of 4096 contexts.  The totals that the header announces, 262144 hashes and 32 MiB, are
not looked at.

`fullOps` is a run that uses one producer of each of 171 contexts to the full.
-/

namespace Nstu.Telemetry

open Wire Reader FramedLog KeyedMap
open UInt64 (ofNat)

/-- The sequences that a context tracks. -/
def trackedOfContext (context : ContextRecord) : ℕ :=
  total (fun producer => producer.trackedSequences.size) context.producers

lemma totalTrackedHashes_eq_total (contexts : Contexts) :
    totalTrackedHashes contexts = total trackedOfContext contexts := rfl

/-! ## A run that fills the index -/

/-- The number of contexts that is too much for the metadata file. -/
def fullCount : ℕ := 171

lemma length_sessionBytes (i : ℕ) : (leBytes 16 (i + 1)).length = 16 := leBytes_length _ _

def sessionOf (i : ℕ) : SessionId := ⟨leBytes 16 (i + 1), length_sessionBytes i⟩

def fullProducer : ProducerId := Block.fill 16 4

def recordOp (i q : ℕ) : JournalOp :=
  .recordBatch (sampleBatch (sessionOf i) (UInt64.ofNat (q + 1))) 1000 (sampleRecordCalls true)

/-- A context is authorized and 4096 batches of its producer are sent. -/
def contextOps (i : ℕ) : List JournalOp :=
  .authorizeContext (sessionOf i) 1000 .written :: (List.range kMaximumHashesPerProducer).map (recordOp i)

def fullOps : List JournalOp :=
  .reopen 0 sampleOpenCalls :: (List.range fullCount).flatMap contextOps

section Full

variable {sha256 : Bytes → Digest}

variable {j : ℕ}

lemma sessionOf_injective {i : ℕ} (hi : i < fullCount) (hj : j < fullCount)
    (h : sessionOf i = sessionOf j) : i = j := by
  have hv := congrArg (fun block => leValue (Block.toList block)) h
  simp only [sessionOf, fullCount] at hv hi hj
  rw [leValue_leBytes 16 _ (by omega), leValue_leBytes 16 _ (by omega)] at hv
  omega

lemma sessionOf_ne_zero {i : ℕ} (hi : i < fullCount) : allZero (sessionOf i).toList = false := by
  refine allZero_eq_false_of_ne ?_
  intro hz
  have hv := congrArg (fun block => leValue (Block.toList block)) hz
  simp only [sessionOf, fullCount] at hv hi
  rw [leValue_leBytes 16 _ (by omega)] at hv
  have hn : leValue (Block.toList (Block.zero 16)) = 0 := by decide
  rw [hn] at hv
  omega

variable {i : ℕ} {sequence : UInt64}

lemma validate_fullBatch (hi : i < fullCount) (hs : sequence ≠ 0) :
    validateTelemetryBatch (sampleBatch (sessionOf i) sequence) := by
  have hd : allZero (Block.fill 32 1).toList = false := by decide
  have hc : allZero (Block.fill 16 2).toList = false := by decide
  have hp : allZero (Block.fill 16 4).toList = false := by decide
  have hs' : (sequence == 0) = false := beq_false_of_ne hs
  have hr : (if !validText [112] kMaximumPackageIdBytes false ||
      !validText [99] kMaximumCandidateIdBytes false then false
    else if decide ([sampleSample].length < kMinimumBatchSamples) ||
      decide (kMaximumBatchSamples < [sampleSample].length) then false
    else [sampleSample].all validateTelemetrySample) := by decide
  simp only [validateTelemetryBatch, sampleBatch, hd, hc, hp, hs',
    sessionOf_ne_zero hi, Bool.or_false, Bool.false_or]
  exact hr

lemma encode_fullBatch (hi : i < fullCount) (hs : sequence ≠ 0) :
    (encodeTelemetryBatch (sampleBatch (sessionOf i) sequence)).isEmpty = false := by
  have hsa : ∃ wire, encodeSamples [sampleSample] = some wire ∧ wire.length = 58 := by
    refine ⟨_, rfl, ?_⟩
    decide
  obtain ⟨wire, hw, hl⟩ := hsa
  have hh : (batchHeader (sampleBatch (sessionOf i) sequence)).length = 110 := by
    simp [batchHeader, sampleBatch, stringBytes]
  simp only [encodeTelemetryBatch, validate_fullBatch hi hs, Bool.not_true, Bool.false_eq_true, if_false]
  rw [show (sampleBatch (sessionOf i) sequence).samples = [sampleSample] from rfl, hw]
  simp only [List.length_append, hh, hl, kMaximumTelemetryBatchBytes]
  rw [if_neg (by decide), List.isEmpty_eq_false_iff, ← List.length_pos_iff, List.length_append, hh]
  omega

/-- The hash of a batch. -/
def fullHash (sha256 : Bytes → Digest) (i : ℕ) (sequence : UInt64) : Digest :=
  sha256 (encodeTelemetryBatch (sampleBatch (sessionOf i) sequence))

lemma hash_fullBatch (hi : i < fullCount) (hs : sequence ≠ 0) :
    computeTelemetryBatchHash sha256 (sampleBatch (sessionOf i) sequence) = some (fullHash sha256 i sequence) :=
  computeTelemetryBatchHash_eq sha256 (encode_fullBatch hi hs)

/-- The sequences from 1 to `n`, as they are tracked. -/
def trackedUpTo (sha256 : Bytes → Digest) (i : ℕ) : ℕ → OrderedMap UInt64 (Digest × UInt64)
  | 0 => ∅
  | n + 1 => (trackedUpTo sha256 i n).insert (UInt64.ofNat (n + 1))
      (fullHash sha256 i (UInt64.ofNat (n + 1)), 1000)

variable {n : ℕ}

lemma toNat_sequence (h : n ≤ kMaximumHashesPerProducer) : (ofNat n).toNat = n := by
  refine UInt64.toNat_ofNat_of_lt' ?_
  simp only [kMaximumHashesPerProducer, UInt64.size] at *
  omega

lemma getElem?_trackedUpTo (hn : n ≤ kMaximumHashesPerProducer) (h : n < sequence.toNat) :
    (trackedUpTo sha256 i n)[sequence]? = none := by
  induction n with
  | zero => rfl
  | succ n ih =>
    rw [trackedUpTo, getElem?_insert, if_neg]
    · exact ih (Nat.le_of_succ_le hn) (Nat.lt_of_succ_lt h)
    · intro he
      rw [← he, toNat_sequence hn] at h
      exact Nat.lt_irrefl _ h

lemma size_trackedUpTo {n : ℕ} (hn : n ≤ kMaximumHashesPerProducer) : (trackedUpTo sha256 i n).size = n := by
  induction n with
  | zero => rfl
  | succ n ih =>
    have hne : (trackedUpTo sha256 i n).contains (ofNat (n + 1)) = false := by
      rw [Std.ExtTreeMap.contains_eq_isSome_getElem?, getElem?_trackedUpTo (Nat.le_of_succ_le hn)]
      · rfl
      · rw [toNat_sequence hn]
        exact Nat.lt_succ_self n
    rw [trackedUpTo, Std.ExtTreeMap.size_insert, hne, ih (Nat.le_of_succ_le hn)]
    rfl

/-- The producer of a context after `n` batches. -/
def producerAt (sha256 : Bytes → Digest) (i n : ℕ) : ProducerRecord :=
  ⟨fullProducer, true, false, 1, UInt64.ofNat n, 0, trackedUpTo sha256 i n, ∅⟩

/-- A context after `n` batches. -/
def contextAt (sha256 : Bytes → Digest) (i : ℕ) : ℕ → ContextRecord
  | 0 => ⟨sessionOf i, true, 1000, false, 0, ∅⟩
  | n + 1 => ⟨sessionOf i, true, 1000, false, 1,
      (∅ : Producers).insert fullProducer (producerAt sha256 i (n + 1))⟩

/-- What an admission makes of a context after `n` batches. -/
def admittedAt (sha256 : Bytes → Digest) (i n : ℕ) : ContextRecord :=
  { contextAt sha256 i n with lifetimeGenerations := 1 }

/-- The producer as it is when the next batch comes. -/
def joinedAt (sha256 : Bytes → Digest) (i n : ℕ) : ProducerRecord :=
  { producerAt sha256 i n with currentSequence := if n = 0 then 1 else UInt64.ofNat n }

lemma admit_fullBatch : admitProducer (contextAt sha256 i n) (sampleBatch (sessionOf i) (ofNat (n + 1))) =
      .ok (admittedAt sha256 i n, joinedAt sha256 i n) := by
  cases n with
  | zero => rfl
  | succ n =>
    have hl : (contextAt sha256 i (n + 1)).producers[fullProducer]? =
      some (producerAt sha256 i (n + 1)) := Std.ExtTreeMap.getElem?_insert_self
    have hp : (sampleBatch (sessionOf i) (ofNat (n + 1 + 1))).producerId =
      fullProducer := rfl
    simp only [admitProducer, hp, hl, Option.getD_some]
    rfl

lemma unseen_fullBatch (hn : n < kMaximumHashesPerProducer) :
    Unseen (joinedAt sha256 i n) (sampleBatch (sessionOf i) (ofNat (n + 1))) := by
  have hs : (ofNat (n + 1)).toNat = n + 1 := toNat_sequence hn
  refine ⟨rfl, rfl, ?_, ?_⟩
  · refine getElem?_trackedUpTo (Nat.le_of_lt hn) ?_
    show n < (ofNat (n + 1)).toNat
    omega
  · show (0 : UInt64) < ofNat (n + 1)
    rw [UInt64.lt_iff_toNat_lt, hs]
    exact Nat.succ_pos n

lemma track_joinedAt {n : ℕ} (hn : n < kMaximumHashesPerProducer) :
    (joinedAt sha256 i n).track (ofNat (n + 1)) (fullHash sha256 i (ofNat (n + 1))) 1000 =
      producerAt sha256 i (n + 1) := by
  have hs := @size_trackedUpTo sha256 i (n + 1) hn
  rw [trackedUpTo] at hs
  have hr : ((trackedUpTo sha256 i n).insert (ofNat (n + 1))
      (fullHash sha256 i (ofNat (n + 1)), 1000)).size - kMaximumHashesPerProducer = 0 := by
    rw [hs]
    omega
  have hc : max (joinedAt sha256 i n).currentSequence (ofNat (n + 1)) = ofNat (n + 1) := by
    cases n with
    | zero => rfl
    | succ n =>
      refine if_pos (UInt64.le_iff_toNat_le.mpr ?_)
      show (ofNat (n + 1)).toNat ≤ (ofNat (n + 1 + 1)).toNat
      rw [toNat_sequence (Nat.le_of_lt hn), toNat_sequence hn]
      exact Nat.le_succ _
  simp only [ProducerRecord.track, ProducerRecord.enforceQuota, hc]
  rw [show (joinedAt sha256 i n).trackedSequences = trackedUpTo sha256 i n from rfl, hr]
  rfl

lemma contextAt_succ : { admittedAt sha256 i n with
      producers := (admittedAt sha256 i n).producers.insert fullProducer (producerAt sha256 i (n + 1)) } =
      contextAt sha256 i (n + 1) := by
  cases n with
  | zero => rfl
  | succ n =>
    simp only [admittedAt, contextAt, insert_insert_self]

variable {base : Contexts}

lemma passed_fullBatch {journal : TelemetryJournal} (hi : i < fullCount) (hn : n < kMaximumHashesPerProducer)
    (h : journal.Working (base.insert (sessionOf i) (contextAt sha256 i n))) :
    Passed sha256 journal (sampleBatch (sessionOf i) (ofNat (n + 1))) 1000
      (contextAt sha256 i n) (admittedAt sha256 i n) (joinedAt sha256 i n)
      (fullHash sha256 i (ofNat (n + 1))) := by
  have hsequ : ofNat (n + 1) ≠ 0 := by
    intro hzero
    have hvalue := congrArg UInt64.toNat hzero
    rw [toNat_sequence hn] at hvalue
    exact Nat.succ_ne_zero n hvalue
  refine ⟨h.isOpen, validate_fullBatch hi hsequ, hash_fullBatch hi hsequ, ?_, ?_, admit_fullBatch⟩
  · rw [h.contexts_eq]
    exact Std.ExtTreeMap.getElem?_insert_self
  · cases n with
    | zero | succ n => exact isActive_of_authorized rfl rfl rfl

variable {store : Store}

lemma working_recordOp (hi : i < fullCount) (hn : n < kMaximumHashesPerProducer)
    (h : store.journal.Working (base.insert (sessionOf i) (contextAt sha256 i n))) :
    (store.step sha256 .byKey (recordOp i n)).journal.Working
      (base.insert (sessionOf i) (contextAt sha256 i (n + 1))) := by
  have hstored : (store.step sha256 .byKey (recordOp i n)).journal.Working _ :=
    h.stored (passed_fullBatch hi hn h) (unseen_fullBatch hn)
  have hsequ : (sampleBatch (sessionOf i) (ofNat (n + 1))).sequence = ofNat (n + 1) := rfl
  have hsess : (sampleBatch (sessionOf i) (ofNat (n + 1))).sessionId = sessionOf i := rfl
  have hprod : (sampleBatch (sessionOf i) (ofNat (n + 1))).producerId = fullProducer := rfl
  rwa [hsequ, hsess, hprod, track_joinedAt hn, insert_insert_self, contextAt_succ] at hstored

lemma working_records (hi : i < fullCount)
    (h : store.journal.Working (base.insert (sessionOf i) (contextAt sha256 i 0)))
    (hn : n ≤ kMaximumHashesPerProducer) :
    (((List.range n).map (recordOp i)).foldl (Store.step sha256 .byKey) store).journal.Working
      (base.insert (sessionOf i) (contextAt sha256 i n)) := by
  induction n with
  | zero => exact h
  | succ n ih =>
    rw [List.range_succ, List.map_append, List.foldl_append]
    exact working_recordOp hi hn (ih (Nat.le_of_succ_le hn))

/-- The index when the first `k` contexts are full. -/
def fullContexts (sha256 : Bytes → Digest) : ℕ → Contexts
  | 0 => ∅
  | k + 1 => (fullContexts sha256 k).insert (sessionOf k) (contextAt sha256 k kMaximumHashesPerProducer)

variable {k : ℕ}

lemma getElem?_fullContexts {sessionId : SessionId} {context : ContextRecord}
    (h : (fullContexts sha256 k)[sessionId]? = some context) :
    ∃ j < k, sessionId = sessionOf j ∧ context = contextAt sha256 j kMaximumHashesPerProducer := by
  induction k with
  | zero => cases h
  | succ k ih =>
    rw [fullContexts, getElem?_insert] at h
    split at h
    · rename_i he
      exact ⟨k, Nat.lt_succ_self k, he.symm, (Option.some.inj h).symm⟩
    · obtain ⟨j, hj, hs, hc⟩ := ih h
      exact ⟨j, Nat.lt_succ_of_lt hj, hs, hc⟩

lemma fullContexts_new (hk : k < fullCount) : (fullContexts sha256 k)[sessionOf k]? = none := by
  cases h : (fullContexts sha256 k)[sessionOf k]? with
  | none => rfl
  | some context =>
    obtain ⟨j, hj, hs, -⟩ := getElem?_fullContexts h
    have hjk := sessionOf_injective hk (hj.trans hk) hs
    exact absurd hjk (Nat.ne_of_gt hj)

lemma size_fullContexts (hk : k ≤ fullCount) : (fullContexts sha256 k).size = k := by
  induction k with
  | zero => rfl
  | succ k ih =>
    have hn : (fullContexts sha256 k).contains (sessionOf k) = false := by
      rw [Std.ExtTreeMap.contains_eq_isSome_getElem?, fullContexts_new hk]
      rfl
    rw [fullContexts, Std.ExtTreeMap.size_insert, ih (Nat.le_of_succ_le hk)]
    rw [if_neg]
    rw [hn]
    exact Bool.false_ne_true

lemma working_contextOps (hk : k < fullCount) (h : store.journal.Working (fullContexts sha256 k)) :
    ((contextOps k).foldl (Store.step sha256 .byKey) store).journal.Working (fullContexts sha256 (k + 1)) := by
  have hs : (fullContexts sha256 k).size < kMaximumActiveContexts := by
    rw [size_fullContexts (Nat.le_of_lt hk)]
    simp only [fullCount, kMaximumActiveContexts] at *
    omega
  have ha : (store.step sha256 .byKey (.authorizeContext (sessionOf k) 1000 .written)).journal.Working
        ((fullContexts sha256 k).insert (sessionOf k) (contextAt sha256 k 0)) := by
    have hq : (decide (kMaximumActiveContexts ≤ store.journal.contexts.size) &&
        !store.journal.contexts.contains (sessionOf k)) = false := by
      rw [h.contexts_eq, decide_eq_false (Nat.not_le.mpr hs), Bool.false_and]
    have hn : store.journal.contexts[sessionOf k]? = none := by
      rw [h.contexts_eq, fullContexts_new hk]
    simp only [Store.step, authorizeContext, h.isOpen, hq, hn, journal_persistOutcome,
      Bool.not_true, Bool.false_eq_true, if_false]
    refine ⟨rfl, h.injection, ?_⟩
    rw [h.contexts_eq, contextAt]
    rfl
  rw [contextOps, List.foldl_cons, fullContexts]
  exact working_records hk ha (Nat.le_refl _)

/-- **The run fills 171 contexts.** -/
lemma working_fullOps : (fullOps.foldl (Store.step sha256 .byKey) ⟨.new, .empty⟩).journal.Working
      (fullContexts sha256 fullCount) := by
  have hr : ∀ (k : ℕ), k ≤ fullCount → ∀ (store : Store), store.journal.Working (fullContexts sha256 0) →
      (((List.range k).flatMap contextOps).foldl (Store.step sha256 .byKey) store).journal.Working
        (fullContexts sha256 k) := by
    intro k
    induction k with
    | zero => exact fun _ store h => h
    | succ k ih =>
      intro hk store h
      rw [List.range_succ, List.flatMap_append, List.foldl_append, List.flatMap_singleton]
      exact working_contextOps hk (ih (Nat.le_of_succ_le hk) store h)
  rw [fullOps, List.foldl_cons]
  exact hr fullCount (Nat.le_refl _) _ ⟨rfl, rfl, rfl⟩

lemma total_producers_full (weight : ProducerRecord → ℕ) :
    total weight (contextAt sha256 j kMaximumHashesPerProducer).producers =
      weight (producerAt sha256 j kMaximumHashesPerProducer) := by
  have hp : (contextAt sha256 j kMaximumHashesPerProducer).producers =
      (∅ : Producers).insert fullProducer (producerAt sha256 j kMaximumHashesPerProducer) := by
    rw [show kMaximumHashesPerProducer = 4095 + 1 from rfl, contextAt]
  rw [hp, total_insert, erase_eq_self Std.ExtTreeMap.getElem?_empty]
  exact Nat.add_zero _

lemma contextBytes_full : contextBytes (contextAt sha256 j kMaximumHashesPerProducer) = 196692 := by
  have hs := @size_trackedUpTo sha256 j _ (Nat.le_refl kMaximumHashesPerProducer)
  have hc : (∅ : OrderedMap UInt64 Digest).size = 0 := rfl
  rw [contextBytes, total_producers_full]
  simp only [producerBytes, producerAt, hs, hc]
  simp only [kMaximumHashesPerProducer]

lemma metadataBytes_full : metadataBytes (fullContexts sha256 fullCount) = 33634386 := by
  have ht : total contextBytes (fullContexts sha256 fullCount) =
      (fullContexts sha256 fullCount).size * 196692 := by
    refine total_const contextBytes ?_
    intro sessionId context hl
    obtain ⟨j, -, -, rfl⟩ := getElem?_fullContexts hl
    exact contextBytes_full
  rw [metadataBytes, ht, size_fullContexts (Nat.le_refl _), fullCount]

lemma totalTrackedHashes_full : totalTrackedHashes (fullContexts sha256 fullCount) = 700416 := by
  have ht : total trackedOfContext (fullContexts sha256 fullCount) =
      (fullContexts sha256 fullCount).size * kMaximumHashesPerProducer := by
    refine total_const trackedOfContext ?_
    intro sessionId context hl
    obtain ⟨j, -, -, rfl⟩ := getElem?_fullContexts hl
    rw [trackedOfContext, total_producers_full]
    exact size_trackedUpTo (Nat.le_refl _)
  rw [totalTrackedHashes_eq_total, ht, size_fullContexts (Nat.le_refl _)]
  rfl

end Full

/-- The index of 171 full contexts is stored and is gone after the restart. -/
theorem metadata_lost_when_full : ¬ ∃ sha256 : Bytes → Digest, ∀ after, persistMetadata sha256 .byKey .written
          (fullOps.foldl (Store.step sha256 .byKey) ⟨.new, .empty⟩).journal
          (fullOps.foldl (Store.step sha256 .byKey) ⟨.new, .empty⟩).directory = .ok after →
        (openDirectory sha256 .byKey sampleOpenCalls 0 .new after).journal.contexts =
          (fullOps.foldl (Store.step sha256 .byKey) ⟨.new, .empty⟩).journal.contexts := by
  rintro ⟨sha256, hsame⟩
  have hrun := @working_fullOps sha256
  have hbytes := @metadataBytes_full sha256
  rw [← hrun.contexts_eq] at hbytes
  have hlength := @length_encodeMetadata .byKey (fullOps.foldl (Store.step sha256 .byKey) ⟨.new, .empty⟩).journal
  have hpersist := @persistMetadata_written sha256 .byKey _
    (fullOps.foldl (Store.step sha256 .byKey) ⟨.new, .empty⟩).directory hrun.injection (by omega)
  have hloaded := hsame _ hpersist
  rw [contexts_openDirectory rfl,
    (Directory.Holds.of_persist hpersist).load_too_large (hbytes ▸ by decide)] at hloaded
  rw [← hloaded] at hbytes
  exact absurd hbytes (by decide)

end Nstu.Telemetry
