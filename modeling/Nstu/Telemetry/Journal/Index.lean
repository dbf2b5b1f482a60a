import Mathlib.Logic.Relation
import Nstu.Core.Map
import Nstu.Telemetry.Journal.Exit

/-!
# What the operations do to the index

`IndexStep` lists the ways in which the contexts of a journal change, with what has been checked for
each.  Every operation is a chain of such steps, and an invariant of the index is shown step by step.

`Keyed` is the first one: contexts and producers stand under their own identifiers, which is what the
loader relies on when it builds the maps anew.
-/

namespace Nstu.Telemetry

open Wire Reader FramedLog KeyedMap Std
open ProducerRecord (prune track enforceQuota forget)

/-- The steps of the index.  A batch leads to three of them: its producer is admitted, or a conflict
is noted, or its sequence is tracked. -/
inductive IndexStep (contexts : Contexts) : Contexts → Prop where
  | authorized (sessionId : SessionId) (time : UInt64) :
      contexts.size < kMaximumActiveContexts ∨ contexts.contains sessionId = true →
      IndexStep contexts (contexts.insert sessionId { (contexts[sessionId]?).getD .new with
          sessionId, authorizedAtUnixMs := time, authorized := true, stopped := false })
  | stopped {sessionId : SessionId} {context : ContextRecord} :
      contexts[sessionId]? = some context →
      IndexStep contexts (contexts.insert sessionId context.stop)
  | removed (sessionId : SessionId) : IndexStep contexts (contexts.erase sessionId)
  | retired {sessionId : SessionId} {context : ContextRecord} {producerId : ProducerId}
      {producer : ProducerRecord} :
      contexts[sessionId]? = some context → context.producers[producerId]? = some producer →
      IndexStep contexts (contexts.insert sessionId { context with
          producers := context.producers.insert producerId { producer with retired := true } })
  | pruned (threshold : UInt64) : IndexStep contexts (pruneContexts threshold contexts)
  | admitted {batch : TelemetryBatch} {now : UInt64} {context admitted : ContextRecord}
      {producer : ProducerRecord} :
      contexts[batch.sessionId]? = some context → context.isActive now = true →
      admitProducer context batch = .ok (admitted, producer) →
      IndexStep contexts (contexts.insert batch.sessionId
        { admitted with producers := admitted.producers.insert batch.producerId producer })
  | conflicted {batch : TelemetryBatch} {now : UInt64} {context admitted : ContextRecord}
      {producer : ProducerRecord} (hash : Digest) :
      contexts[batch.sessionId]? = some context → context.isActive now = true →
      admitProducer context batch = .ok (admitted, producer) →
      producer.trackedSequences.contains batch.sequence = true →
      IndexStep contexts (contexts.insert batch.sessionId { admitted with
          producers := admitted.producers.insert batch.producerId
            { producer with conflicts := producer.conflicts.insert batch.sequence hash } })
  | tracked {batch : TelemetryBatch} {now : UInt64} {context admitted : ContextRecord}
      {producer : ProducerRecord} (hash : Digest) :
      contexts[batch.sessionId]? = some context → context.isActive now = true →
      admitProducer context batch = .ok (admitted, producer) → Unseen producer batch →
      IndexStep contexts (contexts.insert batch.sessionId { admitted with
          producers := admitted.producers.insert batch.producerId (producer.track batch.sequence hash now) })
  | loaded {wire rest : Bytes} {loaded : Contexts} :
      readContexts.run wire = some (loaded, rest) → IndexStep contexts loaded

/-- A chain of steps. -/
abbrev IndexSteps := Relation.ReflTransGen IndexStep

section Steps

variable {sha256 : Bytes → Digest} {iteration : Iteration} {answer : PersistAnswer}
  {journal : TelemetryJournal} {directory : Directory}

lemma journal_persistOutcome : (persistOutcome sha256 iteration answer journal directory).journal = journal := by
  simp only [persistOutcome]
  split <;> rfl

lemma contexts_makeRoom {truncated : Bool} {record : Bytes} :
    (makeRoom truncated record journal directory).1.contexts = journal.contexts := by
  simp only [makeRoom]
  split <;> rfl

lemma contexts_setProducer {sessionId : SessionId} {context : ContextRecord} {producerId : ProducerId}
    {producer : ProducerRecord} :
    (journal.setProducer sessionId context producerId producer).contexts = journal.contexts.insert sessionId
        { context with producers := context.producers.insert producerId producer } := rfl

variable {calls : RecordCalls} {now : UInt64} {hash : Digest}

lemma contexts_storedJournal {batch : TelemetryBatch} {admitted : ContextRecord} {producer : ProducerRecord} :
    (storedJournal sha256 calls journal directory batch now admitted producer hash).contexts =
      journal.contexts.insert batch.sessionId { admitted with
          producers := admitted.producers.insert batch.producerId (producer.track batch.sequence hash now) } := by
  simp only [storedJournal, roomFor, contexts_setProducer, contexts_makeRoom, insert_insert_self]

lemma isOpen_storedJournal {batch : TelemetryBatch} {admitted : ContextRecord} {producer : ProducerRecord} :
    (storedJournal sha256 calls journal directory batch now admitted producer hash).isOpen = journal.isOpen := by
  simp only [storedJournal, roomFor, makeRoom]
  split <;> rfl

lemma diskFailureInjection_storedJournal {batch : TelemetryBatch}
    {admitted : ContextRecord} {producer : ProducerRecord} :
    (storedJournal sha256 calls journal directory batch now admitted producer
      hash).diskFailureInjection = journal.diskFailureInjection := by
  simp only [storedJournal, roomFor, makeRoom]
  split <;> rfl

lemma contexts_pruneExpiredLocked {now : UInt64} :
    (pruneExpiredLocked sha256 iteration answer now journal directory).journal.contexts = journal.contexts ∨
      (pruneExpiredLocked sha256 iteration answer now journal directory).journal.contexts =
        pruneContexts (retentionThreshold now) journal.contexts := by
  simp only [pruneExpiredLocked]
  split
  · exact .inl rfl
  · right
    split
    · split <;> rfl
    · rfl

lemma steps_pruneExpiredLocked : IndexSteps journal.contexts
      (pruneExpiredLocked sha256 iteration answer now journal directory).journal.contexts := by
  rcases @contexts_pruneExpiredLocked sha256 iteration answer journal directory now with h | h
  · rw [h]
  · rw [h]
    exact .single (.pruned _)

lemma contexts_loadMetadata {readable : Bool} :
    (loadMetadata sha256 readable directory journal).contexts = journal.contexts ∨ ∃ wire rest, readContexts.run wire =
        some ((loadMetadata sha256 readable directory journal).contexts, rest) := by
  simp only [loadMetadata]
  repeat' split
  all_goals first | exact .inl rfl | skip
  rename_i rest _ _ _ loaded _ hr
  exact .inr ⟨_, _, hr⟩

lemma contexts_openFiles {calls : OpenCalls} : (openFiles sha256 calls journal directory).1.contexts =
      (loadMetadata sha256 calls.metadataReadable directory journal).contexts := rfl

lemma steps_openDirectory {calls : OpenCalls} : IndexSteps journal.contexts
      (openDirectory sha256 iteration calls now journal directory).journal.contexts := by
  simp only [openDirectory]
  split
  · exact .refl
  · have hl : IndexSteps journal.contexts (openFiles sha256 calls journal directory).1.contexts := by
      rw [contexts_openFiles]
      rcases @contexts_loadMetadata sha256 journal directory calls.metadataReadable with
        h | ⟨wire, rest, hr⟩
      · rw [h]
      · exact .single (.loaded hr)
    split
    · exact hl.trans steps_pruneExpiredLocked
    · exact hl

lemma contexts_closeLocked : (closeLocked sha256 iteration answer journal directory).1.contexts = journal.contexts := by
  simp only [closeLocked]
  split <;> rfl

lemma steps_recordBatch {batch : TelemetryBatch} : IndexSteps journal.contexts
      (recordBatch sha256 iteration calls journal directory batch now).journal.contexts := by
  have hexit := @recordBatch_exit sha256 iteration calls journal directory batch now
  revert hexit
  generalize recordBatch sha256 iteration calls journal directory batch now = outcome
  intro hexit
  cases hexit with
  | refused hstat => exact .refl
  | answered hpass hansw =>
    exact .single (.admitted hpass.lookup hpass.active hpass.producerOk)
  | conflicted hpass hreti hconf htrac hne hstat =>
    simp only [contexts_setProducer, insert_insert_self]
    refine .single (.conflicted _ hpass.lookup hpass.active hpass.producerOk ?_)
    rw [ExtTreeMap.contains_eq_isSome_getElem?, htrac]
    rfl
  | unopened hpass hunse hstat | torn hpass hunse hflus hstat =>
    simp only [roomFor, contexts_makeRoom]
    exact .single (.admitted hpass.lookup hpass.active hpass.producerOk)
  | accepted hpass hunse hinje hsucc hstat =>
    rw [contexts_storedJournal]
    exact .single (.tracked _ hpass.lookup hpass.active hpass.producerOk hunse)

variable {store : Store}

/-- **Every operation is a chain of index steps.** -/
lemma steps_step (op : JournalOp) :
    IndexSteps store.journal.contexts (store.step sha256 iteration op).journal.contexts := by
  cases op with
  | authorizeContext sessionId time answer =>
    simp only [Store.step, authorizeContext]
    split
    · exact .refl
    · split
      · exact .refl
      · rename_i hq
        rw [journal_persistOutcome]
        refine .single (.authorized sessionId time ?_)
        simp only [Bool.and_eq_true, decide_eq_true_eq, Bool.not_eq_true', not_and_or, Nat.not_le,
          Bool.not_eq_false] at hq
        exact hq
  | stopAuthorization sessionId answer =>
    simp only [Store.step, stopAuthorization]
    split
    · exact .refl
    · split
      · exact .refl
      · rename_i context hc
        rw [journal_persistOutcome]
        exact .single (.stopped hc)
  | removeContext sessionId answer =>
    simp only [Store.step, removeContext]
    split
    · exact .refl
    · rw [journal_persistOutcome]
      exact .single (.removed sessionId)
  | retireProducer sessionId producerId answer =>
    simp only [Store.step, retireProducer]
    split
    · exact .refl
    · split
      · exact .refl
      · rename_i context hc
        split
        · exact .refl
        · rename_i producer hp
          rw [journal_persistOutcome]
          exact .single (.retired hc hp)
  | recordBatch batch now calls => exact steps_recordBatch
  | pruneExpired now answer => exact steps_pruneExpiredLocked
  | close answer =>
    simp only [Store.step, contexts_closeLocked]
    exact .refl
  | reopen now calls =>
    simp only [Store.step, Telemetry.reopen]
    rw [← @contexts_closeLocked sha256 iteration calls.closePersist store.journal store.directory]
    exact steps_openDirectory
  | setDiskFailureInjection enable | setSegmentSizeLimitForTesting bytes => exact .refl

variable {invariant : Contexts → Prop}

/-- What each step keeps, the run keeps. -/
lemma IndexSteps.preserve (hs : ∀ before after, invariant before → IndexStep before after → invariant after)
    {before after : Contexts} (hst : IndexSteps before after) (h : invariant before) : invariant after := by
  induction hst with
  | refl => exact h
  | tail _ hl ih => exact hs _ _ ih hl

/-- **An invariant of the index steps holds along every run.** -/
lemma foldl_step_of_indexStep (hs : ∀ before after, invariant before → IndexStep before after → invariant after)
    (ops : List JournalOp) (h : invariant store.journal.contexts) :
    invariant (ops.foldl (Store.step sha256 iteration) store).journal.contexts := by
  induction ops generalizing store with
  | nil => exact h
  | cons op ops ih => exact ih (IndexSteps.preserve hs (steps_step op) h)

end Steps

/-! ## Identifiers -/

/-- Every context and every producer stands under its own identifier. -/
def ContextRecord.Keyed (context : ContextRecord) : Prop :=
  ∀ (producerId : ProducerId) (producer : ProducerRecord),
    context.producers[producerId]? = some producer → producer.producerId = producerId

def Keyed (contexts : Contexts) : Prop :=
  ∀ (sessionId : SessionId) (context : ContextRecord), contexts[sessionId]? = some context →
    context.sessionId = sessionId ∧ context.Keyed

section Keyed

variable {contexts : Contexts} {context admitted : ContextRecord} {producer : ProducerRecord}
  {batch : TelemetryBatch}

lemma Keyed.insert (h : Keyed contexts) {sessionId : SessionId} (hi : context.sessionId = sessionId)
    (hc : context.Keyed) : Keyed (contexts.insert sessionId context) := by
  intro session other hl
  rw [getElem?_insert] at hl
  split at hl
  · rename_i he
    rw [← he, ← Option.some.inj hl]
    exact ⟨hi, hc⟩
  · exact h session other hl

lemma ContextRecord.Keyed.insert (h : context.Keyed) {producerId : ProducerId}
    (hi : producer.producerId = producerId) :
    ContextRecord.Keyed { context with producers := context.producers.insert producerId producer } := by
  intro id other hl
  rw [getElem?_insert] at hl
  split at hl
  · rename_i he
    rw [← he, ← Option.some.inj hl]
    exact hi
  · exact h id other hl

lemma ContextRecord.Keyed.map (h : context.Keyed) {change : ProducerRecord → ProducerRecord}
    (hc : ∀ producer, (change producer).producerId = producer.producerId) :
    ContextRecord.Keyed { context with producers := context.producers.map fun _ producer => change producer } := by
  intro id other hl
  simp only [ExtTreeMap.getElem?_map, Option.map_eq_some_iff] at hl
  obtain ⟨producer, hp, rfl⟩ := hl
  rw [hc]
  exact h id producer hp

/-- Sequences are forgotten, one after the other. -/
abbrev Forgets :=
  Relation.ReflTransGen fun before after : ProducerRecord => ∃ sequence, after = before.forget sequence

lemma forgets_prune (threshold : UInt64) (producer : ProducerRecord) : Forgets producer (producer.prune threshold) := by
  simp only [prune]
  generalize producer.trackedSequences.toList = entries
  induction entries generalizing producer with
  | nil => exact .refl
  | cons entry rest ih =>
    rw [List.foldl_cons]
    split
    · exact .head ⟨entry.1, rfl⟩ (ih _)
    · exact ih _

lemma forgets_evictOldest (rounds : ℕ) (producer : ProducerRecord) :
    Forgets producer (evictOldest rounds producer) := by
  induction rounds generalizing producer with
  | zero => exact .refl
  | succ rounds ih =>
    simp only [evictOldest]
    split
    · exact .refl
    · rename_i oldest _
      exact .head ⟨oldest, rfl⟩ (ih _)

lemma Forgets.frame {before after : ProducerRecord} (h : Forgets before after) : after = { before with
      replayFloor := after.replayFloor
      trackedSequences := after.trackedSequences } := by
  induction h with
  | refl => rfl
  | tail _ hl ih =>
    obtain ⟨sequence, rfl⟩ := hl
    rw [ih]
    rfl

lemma producerId_prune (threshold : UInt64) (producer : ProducerRecord) :
    (producer.prune threshold).producerId = producer.producerId := by
  rw [(forgets_prune threshold producer).frame]

variable {sequence now : UInt64} {hash : Digest}

lemma producerId_track : (producer.track sequence hash now).producerId = producer.producerId := by
  rw [track, enforceQuota, (forgets_evictOldest _ _).frame]

lemma conflicts_track : (producer.track sequence hash now).conflicts = producer.conflicts := by
  rw [track, enforceQuota, (forgets_evictOldest _ _).frame]

lemma size_evictOldest (rounds : ℕ) (producer : ProducerRecord) :
    (evictOldest rounds producer).trackedSequences.size = producer.trackedSequences.size - rounds := by
  induction rounds generalizing producer with
  | zero => rfl
  | succ rounds ih =>
    simp only [evictOldest]
    split
    · rename_i hn
      rw [ExtTreeMap.minKey?_eq_none_iff.mp hn, ExtTreeMap.size_empty, Nat.zero_sub]
    · rename_i oldest ho
      have hm := ExtTreeMap.minKey?_mem ho
      rw [ih, forget, ExtTreeMap.size_erase, if_pos (ExtTreeMap.contains_iff_mem.mpr hm)]
      omega

lemma size_track {sequence now : UInt64} {hash : Digest} (hn : producer.trackedSequences[sequence]? = none) :
    (producer.track sequence hash now).trackedSequences.size =
      min (producer.trackedSequences.size + 1) kMaximumHashesPerProducer := by
  have hi : (producer.trackedSequences.insert sequence (hash, now)).size =
      producer.trackedSequences.size + 1 := by
    rw [ExtTreeMap.size_insert, if_neg]
    rw [ExtTreeMap.contains_eq_isSome_getElem?, hn]
    exact Bool.false_ne_true
  rw [track, enforceQuota, size_evictOldest]
  simp only [hi]
  omega

lemma admitProducer_eq_ok (h : admitProducer context batch = .ok (admitted, producer)) :
    (admitted = context ∧ context.producers[batch.producerId]? = some producer ∧ producer.admitted) ∨
      (((context.producers[batch.producerId]?).getD .new).admitted = false ∧
        ((context.producers[batch.producerId]?).getD .new).retired = false ∧
        context.lifetimeGenerations.toNat < kMaximumLifetimeGenerationsPerContext ∧
        batch.sequence = 1 ∧
        admitted = { context with lifetimeGenerations := context.lifetimeGenerations + 1 } ∧
        producer = { (context.producers[batch.producerId]?).getD .new with
          producerId := batch.producerId
          admitted := true
          retired := false
          generation := context.lifetimeGenerations + 1
          currentSequence := 1
          replayFloor := 0 }) := by
  simp only [admitProducer] at h
  split at h
  · rename_i ha
    left
    cases h
    refine ⟨rfl, ?_, ha⟩
    cases hl : context.producers[batch.producerId]? with
    | some producer => rfl
    | none =>
      rw [hl] at ha
      cases ha
  · rename_i ha
    split at h
    · cases h
    · rename_i hr
      split at h
      · cases h
      · rename_i hg
        split at h
        · cases h
        · rename_i hs
          right
          cases h
          rw [bne_iff_ne, not_not] at hs
          exact ⟨Bool.eq_false_iff.mpr ha, Bool.eq_false_iff.mpr hr,
            Nat.not_le.mp hg, hs, rfl, rfl⟩

lemma Keyed.of_admitProducer (h : Keyed contexts) (hl : contexts[batch.sessionId]? = some context)
    (hp : admitProducer context batch = .ok (admitted, producer)) :
    admitted.sessionId = batch.sessionId ∧ admitted.Keyed ∧ producer.producerId = batch.producerId := by
  obtain ⟨hi, hk⟩ := h batch.sessionId context hl
  rcases admitProducer_eq_ok hp with ⟨rfl, hpr, -⟩ | ⟨-, -, -, -, rfl, rfl⟩
  · exact ⟨hi, hk, hk _ _ hpr⟩
  · exact ⟨hi, hk, rfl⟩

lemma keyed_of_run_readContexts {wire rest : Bytes} (h : readContexts.run wire = some (contexts, rest)) :
    Keyed contexts := by
  simp only [readContexts, run_bind_iff, run_pure_iff] at h
  obtain ⟨count, s1, -, entries, s2, hr, rfl, -⟩ := h
  intro sessionId context hl
  obtain ⟨entry, he, heq⟩ := List.mem_map.mp (mem_of_getElem?_ofList hl)
  obtain ⟨rfl, rfl⟩ := Prod.mk.inj heq
  refine ⟨rfl, ?_⟩
  obtain ⟨s, r, hc⟩ := mem_of_run_readTimes hr entry he
  simp only [readContext, run_bind_iff, run_pure_iff] at hc
  obtain ⟨_, _, -, _, _, -, _, _, -, _, _, -, _, _, -, _, _, -, _, _, -, producers, _, -, rfl, -⟩ :=
    hc
  intro producerId producer hp
  obtain ⟨other, -, heq⟩ := List.mem_map.mp (mem_of_getElem?_ofList hp)
  obtain ⟨rfl, rfl⟩ := Prod.mk.inj heq
  rfl

/-- **The steps keep the identifiers.** -/
lemma Keyed.indexStep {after : Contexts} (h : Keyed contexts) (hstep : IndexStep contexts after) : Keyed after := by
  cases hstep with
  | authorized sessionId time hquota =>
    refine h.insert rfl ?_
    cases hlook : contexts[sessionId]? with
    | some context => exact (h sessionId context hlook).2
    | none =>
      intro producerId producer hprod
      cases hprod
  | stopped hlook =>
    obtain ⟨hid, hkeyed⟩ := h _ _ hlook
    exact h.insert hid (hkeyed.map fun _ => rfl)
  | removed sessionId =>
    intro session context hlook
    rw [getElem?_erase] at hlook
    split at hlook
    · cases hlook
    · exact h session context hlook
  | retired hlook hprod =>
    obtain ⟨hid, hkeyed⟩ := h _ _ hlook
    have hprodu := hkeyed _ _ hprod
    exact h.insert hid (hkeyed.insert hprodu)
  | pruned threshold =>
    intro session context hlook
    simp only [pruneContexts, ExtTreeMap.getElem?_map, Option.map_eq_some_iff] at hlook
    obtain ⟨context, hcont, rfl⟩ := hlook
    obtain ⟨hid, hkeyed⟩ := h session context hcont
    exact ⟨hid, hkeyed.map (producerId_prune threshold)⟩
  | admitted hlook hacti hproduc | conflicted hash hlook hacti hproduc htrac =>
    obtain ⟨hid, hkeyed, hprod⟩ := h.of_admitProducer hlook hproduc
    exact h.insert hid (hkeyed.insert hprod)
  | tracked hash hlook hacti hproduc hunse =>
    obtain ⟨hid, hkeyed, hprod⟩ := h.of_admitProducer hlook hproduc
    exact h.insert hid (hkeyed.insert (producerId_track.trans hprod))
  | loaded hread => exact keyed_of_run_readContexts hread

end Keyed

end Nstu.Telemetry
