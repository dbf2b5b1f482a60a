import Nstu.Telemetry.Journal.Quota
import Nstu.Telemetry.Journal.Restart

/-!
# Growth of the index

What each operation adds to the index: a context, a producer, a tracked sequence or a conflict.  As
long as every operation that adds something finds room for it, the totals of the header are kept.
-/

namespace Nstu.Telemetry

open Wire Reader FramedLog KeyedMap

/-! ## Producers -/

section Producers

variable {producer : ProducerRecord}

variable {before after : ProducerRecord}

lemma Forgets.size_le (h : Forgets before after) : after.trackedSequences.size ≤ before.trackedSequences.size := by
  induction h with
  | refl => exact Nat.le_refl _
  | tail _ hl ih =>
    obtain ⟨sequence, rfl⟩ := hl
    exact Std.ExtTreeMap.size_erase_le.trans ih

lemma Forgets.producerBytes_le (h : Forgets before after) : producerBytes after ≤ producerBytes before := by
  have hs := h.size_le
  have hc : after.conflicts = before.conflicts := by rw [h.frame]
  simp only [producerBytes, hc]
  omega

end Producers

/-! ## Weights of contexts -/

/-- A weight of contexts that adds up a weight of their producers. -/
def contextWeight (base : ℕ) (weight : ProducerRecord → ℕ) (context : ContextRecord) : ℕ :=
  base + total weight context.producers

section Weights

variable {base : ℕ} {weight : ProducerRecord → ℕ} {contexts : Contexts} {sessionId : SessionId}
  {context other : ContextRecord}

lemma total_insert_le_of_le (hl : contexts[sessionId]? = some context)
    (hle : total weight other.producers ≤ total weight context.producers) :
    total (contextWeight base weight) (contexts.insert sessionId other) ≤
      total (contextWeight base weight) contexts := by
  have ha := total_insert_add (contextWeight base weight) contexts sessionId other
  rw [hl, Option.elim_some] at ha
  simp only [contextWeight] at ha ⊢
  omega

lemma total_setProducer (hl : contexts[sessionId]? = some context)
    (hp : other.producers = context.producers) (producerId : ProducerId)
    (producer : ProducerRecord) :
    total (contextWeight base weight) (contexts.insert sessionId
        { other with producers := other.producers.insert producerId producer }) +
        (context.producers[producerId]?).elim 0 weight =
      total (contextWeight base weight) contexts + weight producer := by
  have hc := total_insert_add (contextWeight base weight) contexts sessionId
    { other with producers := other.producers.insert producerId producer }
  have hi := total_insert_add weight context.producers producerId producer
  rw [hl, Option.elim_some] at hc
  simp only [contextWeight, hp] at hc ⊢
  omega

lemma total_pruneContexts_le (threshold : UInt64)
    (hw : ∀ producer : ProducerRecord, weight (producer.prune threshold) ≤ weight producer) :
    total (contextWeight base weight) (pruneContexts threshold contexts) ≤
      total (contextWeight base weight) contexts := by
  refine total_map_le _ _ _ _ ?_
  intro _ context
  exact Nat.add_le_add_left (total_map_le _ _ _ _ fun _ producer => hw producer) base

end Weights

lemma metadataBytes_eq (contexts : Contexts) :
    metadataBytes contexts = 54 + total (contextWeight 36 producerBytes) contexts := rfl

/-- How many sequences a producer tracks. -/
def trackedCount (producer : ProducerRecord) : ℕ := producer.trackedSequences.size

lemma totalTrackedHashes_eq (contexts : Contexts) :
    totalTrackedHashes contexts = total (contextWeight 0 trackedCount) contexts := by
  have hw : contextWeight 0 trackedCount = trackedOfContext := by
    funext context
    exact Nat.zero_add _
  rw [hw]
  rfl

/-! ## Room -/

/-- The totals that the header announces. -/
structure Bounded (contexts : Contexts) : Prop where
  hashes : totalTrackedHashes contexts ≤ kMaximumTrackedHashes
  bytes : metadataBytes contexts ≤ kMaximumIndexSizeBytes

lemma bounded_iff {contexts : Contexts} :
    Bounded contexts ↔ total (contextWeight 0 trackedCount) contexts ≤ kMaximumTrackedHashes ∧
      54 + total (contextWeight 36 producerBytes) contexts ≤ kMaximumIndexSizeBytes := by
  rw [← totalTrackedHashes_eq, ← metadataBytes_eq]
  exact ⟨fun h => ⟨h.hashes, h.bytes⟩, fun h => ⟨h.1, h.2⟩⟩

/-- What the record of a producer takes that the context does not have yet. -/
def producerRoom (context : ContextRecord) (producerId : ProducerId) : ℕ :=
  if context.producers.contains producerId then 0 else 48

/-- There is room for what a batch adds: its producer, and then its sequence or its conflict. -/
structure BatchFits (store : Store) (batch : TelemetryBatch) (calls : RecordCalls)
    (context : ContextRecord) (producer : ProducerRecord) (hash : Digest) : Prop where
  admitted : metadataBytes store.journal.contexts + producerRoom context batch.producerId ≤
    kMaximumIndexSizeBytes
  tracked : Unseen producer batch → store.journal.diskFailureInjection = false → calls.Succeed →
    producer.trackedSequences.size < kMaximumHashesPerProducer →
    totalTrackedHashes store.journal.contexts < kMaximumTrackedHashes ∧
      metadataBytes store.journal.contexts + producerRoom context batch.producerId + 48 ≤
        kMaximumIndexSizeBytes
  conflicted : producer.retired = false → producer.conflicts.contains batch.sequence = false →
    ∀ known time, producer.trackedSequences[batch.sequence]? = some (known, time) → known ≠ hash →
      metadataBytes store.journal.contexts + producerRoom context batch.producerId + 40 ≤
        kMaximumIndexSizeBytes

/-- There is room for what an operation adds to the index. -/
def JournalOp.Fits (sha256 : Bytes → Digest) (store : Store) : JournalOp → Prop
  | .authorizeContext sessionId _ _ =>
    store.journal.isOpen = true → store.journal.contexts.size < kMaximumActiveContexts →
      store.journal.contexts[sessionId]? = none → metadataBytes store.journal.contexts + 36 ≤ kMaximumIndexSizeBytes
  | .recordBatch batch now calls =>
    ∀ context admitted producer hash, Passed sha256 store.journal batch now context admitted producer hash →
        BatchFits store batch calls context producer hash
  | _ => True

/-- Every operation finds room at the time it is done. -/
def FitsFrom (sha256 : Bytes → Digest) (iteration : Iteration) : Store → List ProcessOp → Prop
  | _, [] => True
  | store, .call op :: ops =>
    op.Fits sha256 store ∧ FitsFrom sha256 iteration (store.step sha256 iteration op) ops
  | store, .restart :: ops => FitsFrom sha256 iteration (store.process sha256 iteration .restart) ops

section Steps

variable {sha256 : Bytes → Digest} {iteration : Iteration} {contexts : Contexts}
  {context admitted : ContextRecord} {producer : ProducerRecord} {batch : TelemetryBatch}

lemma admitProducer_weights (h : admitProducer context batch = .ok (admitted, producer)) :
    admitted.producers = context.producers ∧ (context.producers[batch.producerId]?).elim 0 producerBytes +
          producerRoom context batch.producerId = producerBytes producer ∧
      (context.producers[batch.producerId]?).elim 0 trackedCount = trackedCount producer := by
  simp only [producerRoom, Std.ExtTreeMap.contains_eq_isSome_getElem?]
  rcases admitProducer_eq_ok h with ⟨rfl, hl, -⟩ | ⟨-, -, -, -, rfl, rfl⟩
  · rw [hl]
    exact ⟨rfl, rfl, rfl⟩
  · cases context.producers[batch.producerId]? with
    | none | some known => exact ⟨rfl, rfl, rfl⟩

lemma Bounded.setProducer {other : ProducerRecord} (hashes bytes : ℕ)
    (hlook : contexts[batch.sessionId]? = some context)
    (hprod : admitProducer context batch = .ok (admitted, producer))
    (hother : trackedCount other ≤ trackedCount producer + hashes)
    (hbytes : producerBytes other ≤ producerBytes producer + bytes)
    (hhash : totalTrackedHashes contexts + hashes ≤ kMaximumTrackedHashes)
    (hbyte : metadataBytes contexts + producerRoom context batch.producerId + bytes ≤ kMaximumIndexSizeBytes) :
    Bounded (contexts.insert batch.sessionId
      { admitted with producers := admitted.producers.insert batch.producerId other }) := by
  obtain ⟨hprodu, hroom, hcount⟩ := admitProducer_weights hprod
  have hhashe := @total_setProducer 0 trackedCount _ _ _ _ hlook hprodu batch.producerId other
  have hsize := @total_setProducer 36 producerBytes _ _ _ _ hlook hprodu batch.producerId other
  rw [totalTrackedHashes_eq] at hhash
  rw [metadataBytes_eq] at hbyte
  exact bounded_iff.mpr ⟨by omega, by omega⟩

variable {now : UInt64} {calls : RecordCalls}

lemma Bounded.admission {store : Store} {hash : Digest} (h : Bounded store.journal.contexts)
    (hp : Passed sha256 store.journal batch now context admitted producer hash)
    (hf : BatchFits store batch calls context producer hash) :
    Bounded (store.journal.setProducer batch.sessionId admitted batch.producerId producer).contexts :=
  Bounded.setProducer 0 0 hp.lookup hp.producerOk (Nat.le_refl _) (Nat.le_refl _) h.hashes hf.admitted

lemma Bounded.recordBatch {store : Store} (h : Bounded store.journal.contexts)
    (hfits : (JournalOp.recordBatch batch now calls).Fits sha256 store) :
    Bounded (recordBatch sha256 iteration calls store.journal store.directory batch now).journal.contexts := by
  have hexit := @recordBatch_exit sha256 iteration calls store.journal store.directory batch now
  revert hexit
  generalize Telemetry.recordBatch sha256 iteration calls store.journal store.directory batch now =
    outcome
  intro hexit
  cases hexit with
  | refused hstat => exact h
  | answered hpass hansw => exact h.admission hpass (hfits _ _ _ _ hpass)
  | conflicted hpass hreti hconf htrac hne hstat =>
    have hroom := (hfits _ _ _ _ hpass).conflicted hreti hconf _ _ htrac hne
    simp only [contexts_setProducer, insert_insert_self]
    refine Bounded.setProducer 0 40 hpass.lookup hpass.producerOk (Nat.le_refl _) ?_ h.hashes hroom
    rename_i producer hash _ _ _ _
    have hsize : (producer.conflicts.insert batch.sequence hash).size ≤ producer.conflicts.size + 1 :=
      Std.ExtTreeMap.size_insert_le
    simp only [producerBytes]
    omega
  | unopened hpass hunse hstat | torn hpass hunse hflus hstat =>
    simp only [roomFor, contexts_makeRoom]
    exact h.admission hpass (hfits _ _ _ _ hpass)
  | accepted hpass hunse hinje hsucc hstat =>
    rename_i producer hash _ _
    have hfit := hfits _ _ _ _ hpass
    have hsize := @size_track producer batch.sequence now hash hunse.untracked
    rw [contexts_storedJournal]
    by_cases hquota : producer.trackedSequences.size < kMaximumHashesPerProducer
    · obtain ⟨hhash, hbytes⟩ := hfit.tracked hunse hinje hsucc hquota
      refine Bounded.setProducer 1 48 hpass.lookup hpass.producerOk ?_ ?_ hhash hbytes
      · simp only [trackedCount]
        omega
      · simp only [producerBytes, conflicts_track]
        omega
    · refine Bounded.setProducer 0 0 hpass.lookup hpass.producerOk ?_ ?_ h.hashes hfit.admitted
      · simp only [trackedCount]
        omega
      · simp only [producerBytes, conflicts_track]
        omega

lemma Bounded.pruneContexts (h : Bounded contexts) (threshold : UInt64) :
    Bounded (pruneContexts threshold contexts) := by
  have hh := @total_pruneContexts_le 0 trackedCount contexts threshold fun producer =>
    (forgets_prune threshold producer).size_le
  have hb := @total_pruneContexts_le 36 producerBytes contexts threshold fun producer =>
    (forgets_prune threshold producer).producerBytes_le
  obtain ⟨hbe, hb'⟩ := bounded_iff.mp h
  exact bounded_iff.mpr ⟨by omega, by omega⟩

lemma Bounded.insert_of_le (h : Bounded contexts) {sessionId : SessionId} {other : ContextRecord}
    (hl : contexts[sessionId]? = some context)
    (hh : total trackedCount other.producers ≤ total trackedCount context.producers)
    (hb : total producerBytes other.producers ≤ total producerBytes context.producers) :
    Bounded (contexts.insert sessionId other) := by
  have hc := @total_insert_le_of_le 0 trackedCount _ _ _ _ hl hh
  have hs := @total_insert_le_of_le 36 producerBytes _ _ _ _ hl hb
  obtain ⟨hbe, hb'⟩ := bounded_iff.mp h
  exact bounded_iff.mpr ⟨by omega, by omega⟩

lemma Bounded.authorized (h : Bounded contexts) {sessionId : SessionId} {time : UInt64}
    (hf : contexts[sessionId]? = none → metadataBytes contexts + 36 ≤ kMaximumIndexSizeBytes) :
    Bounded (contexts.insert sessionId { (contexts[sessionId]?).getD .new with
        sessionId, authorizedAtUnixMs := time, authorized := true, stopped := false }) := by
  cases hl : contexts[sessionId]? with
  | some context => exact h.insert_of_le hl (Nat.le_refl _) (Nat.le_refl _)
  | none =>
    have hr := hf hl
    rw [metadataBytes_eq] at hr
    refine bounded_iff.mpr ⟨?_, ?_⟩
    · rw [total_insert, erase_eq_self hl]
      exact (Nat.zero_add _).le.trans (bounded_iff.mp h).1
    · rw [total_insert, erase_eq_self hl]
      show 54 + (36 + _) ≤ _
      omega

lemma Bounded.erase (h : Bounded contexts) (sessionId : SessionId) : Bounded (contexts.erase sessionId) := by
  obtain ⟨hh, hb⟩ := bounded_iff.mp h
  refine bounded_iff.mpr ⟨(total_erase_le _ _ _).trans hh, ?_⟩
  exact (Nat.add_le_add_left (total_erase_le _ _ _) 54).trans hb

/-- **An operation that finds room keeps the totals.** -/
lemma Bounded.step {store : Store} (h : Bounded store.journal.contexts) {op : JournalOp}
    (hfits : op.Fits sha256 store) (hop : ∀ now calls, op ≠ .reopen now calls) :
    Bounded (store.step sha256 iteration op).journal.contexts := by
  cases op with
  | authorizeContext sessionId time answer =>
    simp only [Store.step, Telemetry.authorizeContext]
    split
    · exact h
    · rename_i hopen
      split
      · exact h
      · rename_i hquota
        rw [journal_persistOutcome]
        refine h.authorized ?_
        intro hnew
        refine hfits (by simpa using hopen) ?_ hnew
        rw [Std.ExtTreeMap.contains_eq_isSome_getElem?, hnew] at hquota
        simpa using hquota
  | stopAuthorization sessionId answer =>
    simp only [Store.step, Telemetry.stopAuthorization]
    split
    · exact h
    · split
      · exact h
      · rename_i context hlook
        rw [journal_persistOutcome]
        refine h.insert_of_le hlook ?_ ?_
        · exact total_map_le _ _ _ _ fun _ producer => Nat.zero_le _
        · refine total_map_le _ _ _ _ fun _ producer => ?_
          simp only [producerBytes, Std.ExtTreeMap.size_empty]
          omega
  | removeContext sessionId answer =>
    simp only [Store.step, Telemetry.removeContext]
    split
    · exact h
    · rw [journal_persistOutcome]
      exact h.erase sessionId
  | retireProducer sessionId producerId answer =>
    simp only [Store.step, Telemetry.retireProducer]
    split
    · exact h
    · split
      · exact h
      · rename_i context hlook
        split
        · exact h
        · rename_i producer hprod
          rw [journal_persistOutcome]
          refine h.insert_of_le hlook ?_ ?_
          · have hadd := total_insert_add trackedCount context.producers producerId { producer with retired := true }
            rw [hprod, Option.elim_some] at hadd
            simp only [trackedCount] at hadd ⊢
            omega
          · have hadd := total_insert_add producerBytes context.producers producerId { producer with retired := true }
            rw [hprod, Option.elim_some] at hadd
            simp only [producerBytes] at hadd ⊢
            omega
  | recordBatch batch now calls => exact h.recordBatch hfits
  | pruneExpired now answer =>
    rcases @contexts_pruneExpiredLocked sha256 iteration answer store.journal store.directory now with
      hsame | hprun
    · simp only [Store.step, hsame]
      exact h
    · simp only [Store.step, hprun]
      exact h.pruneContexts _
  | close answer =>
    simp only [Store.step, contexts_closeLocked]
    exact h
  | reopen now calls => exact absurd rfl (hop now calls)
  | setDiskFailureInjection enable | setSegmentSizeLimitForTesting bytes => exact h

end Steps

/-! ## Runs -/

section Runs

variable {sha256 : Bytes → Digest} {iteration : Iteration} {store : Store}

/-- The identifiers are right and the totals are kept. -/
def InOrder (contexts : Contexts) : Prop := Keyed contexts ∧ Bounded contexts

lemma inOrder_empty : InOrder ∅ := by
  refine ⟨?_, by decide, by decide⟩
  intro sessionId context hl
  cases hl

lemma InOrder.pruneContexts {contexts : Contexts} (threshold : UInt64) (h : InOrder contexts) :
    InOrder (pruneContexts threshold contexts) :=
  ⟨h.1.indexStep (.pruned threshold), h.2.pruneContexts threshold⟩

lemma upheld_process (h : Upheld sha256 iteration InOrder store) {op : ProcessOp} {ops : List ProcessOp}
    (hf : FitsFrom sha256 iteration store (op :: ops)) :
    Upheld sha256 iteration InOrder (store.process sha256 iteration op) ∧
      FitsFrom sha256 iteration (store.process sha256 iteration op) ops := by
  cases op with
  | restart => exact ⟨⟨inOrder_empty, h.file⟩, hf⟩
  | call op =>
    refine ⟨h.fileStep (fileStep_step op) ⟨?_, ?_⟩, hf.2⟩
    · exact IndexSteps.preserve (fun _ _ hk hs => hk.indexStep hs) (steps_step op)
        h.memory.1
    · by_cases hop : ∃ now calls, op = .reopen now calls
      · obtain ⟨now, calls, rfl⟩ := hop
        exact (h.reopen (fun _ hc => hc.1) (fun t _ hc => hc.pruneContexts t) now calls).2
      · refine h.memory.2.step hf.1 ?_
        intro now calls he
        exact hop ⟨now, calls, he⟩

/-- Along a run that fits, the index stays in order. -/
lemma upheld_foldl (ops : List ProcessOp) (h : Upheld sha256 iteration InOrder store)
    (hf : FitsFrom sha256 iteration store ops) {done : List ProcessOp} (hd : done <+: ops) :
    Upheld sha256 iteration InOrder (done.foldl (Store.process sha256 iteration) store) := by
  induction ops generalizing store done with
  | nil =>
    rw [List.prefix_nil.mp hd]
    exact h
  | cons op ops ih =>
    cases done with
    | nil => exact h
    | cons first done =>
      obtain ⟨rfl, ht⟩ := List.cons_prefix_cons.mp hd
      obtain ⟨hn, hr⟩ := upheld_process h hf
      exact ih hn hr ht

end Runs

/-- **The totals of the index are kept** in every state of a run, restarts included, in which each
operation that adds to the index finds room for what it adds. -/
theorem index_bounded (sha256 : Bytes → Digest) (iteration : Iteration) (ops : List ProcessOp)
    (hfits : FitsFrom sha256 iteration .initial ops) {done : List ProcessOp} (hdone : done <+: ops) :
    totalTrackedHashes (processRun sha256 iteration done).journal.contexts ≤ kMaximumTrackedHashes ∧
      (encodeMetadata iteration (processRun sha256 iteration done).journal).length + 32 ≤ kMaximumIndexSizeBytes := by
  have hstart : Upheld sha256 iteration InOrder .initial := by
    refine ⟨inOrder_empty, ?_⟩
    intro hfile
    exact absurd rfl hfile
  have hrun := (upheld_foldl ops hstart hfits hdone).memory.2
  refine ⟨hrun.hashes, ?_⟩
  rw [length_encodeMetadata]
  exact hrun.bytes

section Sample

variable {sha256 : Bytes → Digest} {store : Store}

lemma batchFits_of_room {batch : TelemetryBatch} {calls : RecordCalls} {context : ContextRecord}
    {producer : ProducerRecord} {hash : Digest}
    (hbytes : metadataBytes store.journal.contexts + 96 ≤ kMaximumIndexSizeBytes)
    (hhashes : totalTrackedHashes store.journal.contexts < kMaximumTrackedHashes) :
    BatchFits store batch calls context producer hash := by
  have hroom : producerRoom context batch.producerId ≤ 48 := by
    simp only [producerRoom]
    split <;> omega
  refine ⟨by omega, ?_, ?_⟩
  · intro _ _ _ _
    exact ⟨hhashes, by omega⟩
  · intro _ _ _ _ _ _
    omega

/-- The rest of the sample run finds room, from any of its batches on. -/
lemma fitsFrom_sampleRecords (hd : recordHash sha256 0 ≠ recordHash sha256 2) {n k : ℕ} (hk : k + n ≤ 4)
    (h : store.journal.Working (sampleContextsAt sha256 k)) :
    FitsFrom sha256 .byKey store ((List.range' k n).map fun k =>
      .call (.recordBatch (sampleRecord k) 1000 (sampleRecordCalls true))) := by
  induction n generalizing k store with
  | zero => trivial
  | succ n ih =>
    refine ⟨?_, ih (by omega) (working_sampleRecord (by omega) hd h)⟩
    intro context admitted producer hash _
    obtain ⟨hbytes, hhashes⟩ := @metadataBytes_sampleContextsAt sha256 k (by omega)
    rw [← h.contexts_eq] at hbytes hhashes
    refine batchFits_of_room ?_ ?_
    · simp only [kMaximumIndexSizeBytes]
      omega
    · simp only [kMaximumTrackedHashes]
      omega

end Sample

/-- There is room for a context with two producers, three tracked sequences and a conflict. -/
theorem index_bounded_sample : {sha256 : Bytes → Digest | recordHash sha256 0 ≠ recordHash sha256 2} ⊆ {sha256 |
      FitsFrom sha256 .byKey .initial ((sampleStart ++ sampleRecords).map .call) ∧
        (processRun sha256 .byKey ((sampleStart ++ sampleRecords).map .call)).journal.contexts =
          sampleContextsAt sha256 4 ∧
        totalTrackedHashes (processRun sha256 .byKey ((sampleStart ++ sampleRecords).map .call)).journal.contexts ≤
          kMaximumTrackedHashes ∧
        (encodeMetadata .byKey (processRun sha256 .byKey
            ((sampleStart ++ sampleRecords).map .call)).journal).length + 32 ≤ kMaximumIndexSizeBytes} := by
  intro sha256 hd
  have hfits : FitsFrom sha256 .byKey .initial ((sampleStart ++ sampleRecords).map .call) := by
    have hrest := @fitsFrom_sampleRecords sha256 _ hd 4 0 (Nat.le_refl 4) (working_sampleRecords hd (Nat.zero_le 4))
    refine ⟨trivial, ?_, hrest⟩
    intro _ _ _
    show metadataBytes ∅ + 36 ≤ _
    decide
  refine ⟨hfits, ?_, index_bounded sha256 .byKey _ hfits (List.prefix_refl _)⟩
  rw [processRun_map_call, Store.initial]
  exact (working_sampleRecords hd (Nat.le_refl 4)).contexts_eq

/-- 171 full contexts are too much for both totals. -/
theorem index_too_large_when_full : ¬ ∃ sha256 : Bytes → Digest,
      totalTrackedHashes (processRun sha256 .byKey (fullOps.map .call)).journal.contexts ≤ kMaximumTrackedHashes ∨
        (encodeMetadata .byKey (processRun sha256 .byKey (fullOps.map .call)).journal).length + 32 ≤
          kMaximumIndexSizeBytes := by
  rintro ⟨sha256, hsmall⟩
  have hrun := (@working_fullOps sha256).contexts_eq
  rw [length_encodeMetadata, processRun_map_call, Store.initial] at hsmall
  rw [hrun, totalTrackedHashes_full, metadataBytes_full] at hsmall
  exact absurd hsmall (by decide)

end Nstu.Telemetry
