import Nstu.Telemetry.Journal.Metadata

/-!
# Restarts

A process that ends leaves the directory behind, and the next one starts with a fresh object on it.
Between the two stands the metadata file.  `FileStep` says what an operation does to it: nothing, or
it is written from the index as it was before the operation or as it is after it.
-/

namespace Nstu.Telemetry

open Wire Reader FramedLog KeyedMap

/-- A call on the object, or the end of the process and the start of another one. -/
inductive ProcessOp where
  | call (op : JournalOp)
  | restart

def Store.process (sha256 : Bytes → Digest) (iteration : Iteration) (store : Store) : ProcessOp → Store
  | .call op => store.step sha256 iteration op
  | .restart => ⟨.new, store.directory⟩

/-- The journal before the first process has opened it. -/
def Store.initial : Store := ⟨.new, .empty⟩

def processRun (sha256 : Bytes → Digest) (iteration : Iteration) (ops : List ProcessOp) : Store :=
  ops.foldl (Store.process sha256 iteration) .initial

lemma processRun_map_call (sha256 : Bytes → Digest) (iteration : Iteration) (ops : List JournalOp) :
    processRun sha256 iteration (ops.map .call) = ops.foldl (Store.step sha256 iteration) .initial := by
  rw [processRun, List.foldl_map]
  rfl

/-- What becomes of the metadata file in a step. -/
def FileStep (sha256 : Bytes → Digest) (iteration : Iteration) (before after : Store) : Prop :=
  after.directory.metadata = before.directory.metadata ∨ ∃ stored, after.directory.Holds sha256 iteration stored ∧
      (before.journal.isOpen = true ∧ stored.contexts = before.journal.contexts ∨
        after.journal.isOpen = true ∧ stored.contexts = after.journal.contexts)

section Writes

variable {sha256 : Bytes → Digest} {iteration : Iteration} {answer : PersistAnswer}
  {journal : TelemetryJournal} {directory : Directory}

lemma metadata_persistIgnored :
    (persistIgnored sha256 iteration answer journal directory).metadata = directory.metadata ∨
      (persistIgnored sha256 iteration answer journal directory).Holds sha256 iteration journal := by
  simp only [persistIgnored]
  split
  · rename_i after hp
    exact .inr (.of_persist hp)
  · exact .inl rfl

lemma metadata_persistOutcome : (persistOutcome sha256 iteration answer journal directory).directory.metadata =
        directory.metadata ∨ (persistOutcome sha256 iteration answer journal directory).directory.Holds sha256 iteration
        journal := by
  simp only [persistOutcome]
  split
  · rename_i after hp
    exact .inr (.of_persist hp)
  · exact .inl rfl

lemma metadata_makeRoom {truncated : Bool} {record : Bytes} :
    (makeRoom truncated record journal directory).2.metadata = directory.metadata := by
  simp only [makeRoom, rotate]
  split
  · simp only
    split <;> rfl
  · rfl

variable {calls : RecordCalls} {batch : TelemetryBatch} {now : UInt64}

lemma metadata_storedDirectory {admitted : ContextRecord} {producer : ProducerRecord} {hash : Digest} :
    (storedDirectory sha256 calls journal directory batch now admitted producer hash).metadata =
      directory.metadata := metadata_makeRoom

lemma fileStep_persistOutcome {store : Store} (ho : journal.isOpen) :
    FileStep sha256 iteration store ⟨(persistOutcome sha256 iteration answer journal store.directory).journal,
        (persistOutcome sha256 iteration answer journal store.directory).directory⟩ := by
  rcases @metadata_persistOutcome sha256 iteration answer journal store.directory with h | h
  · exact .inl h
  · refine .inr ⟨journal, h, .inr ?_⟩
    rw [journal_persistOutcome]
    exact ⟨ho, rfl⟩

lemma fileStep_persistIgnored {store : Store} (ho : journal.isOpen)
    (hm : directory.metadata = store.directory.metadata) :
    FileStep sha256 iteration store ⟨journal, persistIgnored sha256 iteration answer journal directory⟩ := by
  rcases @metadata_persistIgnored sha256 iteration answer journal directory with h | h
  · exact .inl (h.trans hm)
  · exact .inr ⟨journal, h, .inr ⟨ho, rfl⟩⟩

lemma fileStep_pruneExpiredLocked {store : Store} : FileStep sha256 iteration store
      ⟨(pruneExpiredLocked sha256 iteration answer now store.journal store.directory).journal,
        (pruneExpiredLocked sha256 iteration answer now store.journal store.directory).directory⟩ := by
  simp only [pruneExpiredLocked]
  split
  · exact .inl rfl
  · rename_i ho
    split
    · split
      · rename_i after hp
        refine .inr ⟨_, .of_persist hp, .inr ⟨?_, rfl⟩⟩
        simpa using ho
      · exact .inl rfl
    · exact .inl rfl

lemma fileStep_recordBatch {store : Store} : FileStep sha256 iteration store
      ⟨(recordBatch sha256 iteration calls store.journal store.directory batch now).journal,
        (recordBatch sha256 iteration calls store.journal store.directory batch now).directory⟩ := by
  have hexit := @recordBatch_exit sha256 iteration calls store.journal store.directory batch now
  revert hexit
  generalize recordBatch sha256 iteration calls store.journal store.directory batch now = outcome
  intro hexit
  cases hexit with
  | refused hstat | answered hpass hansw => exact .inl rfl
  | conflicted hpass hreti hconf htrac hne hstat =>
    exact fileStep_persistIgnored hpass.isOpen rfl
  | unopened hpass hunse hstat | torn hpass hunse hflus hstat => exact .inl metadata_makeRoom
  | accepted hpass hunse hinje hsucc hstat =>
    exact fileStep_persistIgnored (isOpen_storedJournal.trans hpass.isOpen)
      metadata_storedDirectory

lemma metadata_closeLocked : (closeLocked sha256 iteration answer journal directory).2.metadata = directory.metadata ∨
      journal.isOpen ∧
        (closeLocked sha256 iteration answer journal directory).2.Holds sha256 iteration journal := by
  simp only [closeLocked]
  split
  · exact .inl rfl
  · rename_i ho
    rcases @metadata_persistIgnored sha256 iteration answer journal directory with h | h
    · exact .inl h
    · refine .inr ⟨?_, h⟩
      simpa using ho

lemma metadata_openDirectory {calls : OpenCalls} {now : UInt64} :
    let outcome := openDirectory sha256 iteration calls now journal directory
    outcome.directory.metadata = directory.metadata ∨
      ∃ stored, outcome.directory.Holds sha256 iteration stored ∧ outcome.journal.isOpen ∧
        stored.contexts = outcome.journal.contexts := by
  simp only [openDirectory]
  split
  · exact .inl rfl
  · have ho : (openFiles sha256 calls journal directory).1.isOpen := rfl
    split
    · simp only [pruneExpiredLocked, ho, Bool.not_true, Bool.false_eq_true, if_false]
      split
      · split
        · rename_i after hp
          exact .inr ⟨_, .of_persist hp, rfl, rfl⟩
        · exact .inl rfl
      · exact .inl rfl
    · exact .inl rfl

lemma fileStep_reopen {store : Store} {calls : OpenCalls} :
    FileStep sha256 iteration store (store.step sha256 iteration (.reopen now calls)) := by
  simp only [Store.step, Telemetry.reopen]
  rcases @metadata_openDirectory sha256 iteration
      (closeLocked sha256 iteration calls.closePersist store.journal store.directory).1
      (closeLocked sha256 iteration calls.closePersist store.journal store.directory).2 calls now with
    hs | ⟨stored, hh, ho, hc⟩
  · rcases @metadata_closeLocked sha256 iteration calls.closePersist store.journal store.directory with
      hcl | ⟨ho, hh⟩
    · exact .inl (hs.trans hcl)
    · exact .inr ⟨store.journal, hs.trans hh, .inl ⟨ho, rfl⟩⟩
  · exact .inr ⟨stored, hh, .inr ⟨ho, hc⟩⟩

/-- **The file changes only by being written from the index.** -/
lemma fileStep_step {store : Store} (op : JournalOp) :
    FileStep sha256 iteration store (store.step sha256 iteration op) := by
  cases op with
  | authorizeContext sessionId time answer =>
    simp only [Store.step, authorizeContext]
    split
    · exact .inl rfl
    · rename_i ho
      split
      · exact .inl rfl
      · exact fileStep_persistOutcome (by simpa using ho)
  | stopAuthorization sessionId answer =>
    simp only [Store.step, stopAuthorization]
    split
    · exact .inl rfl
    · rename_i ho
      split
      · exact .inl rfl
      · exact fileStep_persistOutcome (by simpa using ho)
  | removeContext sessionId answer =>
    simp only [Store.step, removeContext]
    split
    · exact .inl rfl
    · rename_i ho
      exact fileStep_persistOutcome (by simpa using ho)
  | retireProducer sessionId producerId answer =>
    simp only [Store.step, retireProducer]
    split
    · exact .inl rfl
    · rename_i ho
      split
      · exact .inl rfl
      · split
        · exact .inl rfl
        · exact fileStep_persistOutcome (by simpa [TelemetryJournal.setProducer] using ho)
  | recordBatch batch now calls => exact fileStep_recordBatch
  | pruneExpired now answer => exact fileStep_pruneExpiredLocked
  | close answer =>
    rcases @metadata_closeLocked sha256 iteration answer store.journal store.directory with
      h | ⟨ho, hh⟩
    · exact .inl h
    · exact .inr ⟨store.journal, hh, .inl ⟨ho, rfl⟩⟩
  | reopen now calls => exact fileStep_reopen
  | setDiskFailureInjection enable | setSegmentSizeLimitForTesting bytes => exact .inl rfl

end Writes

/-! ## What is loaded -/

section Load

variable {sha256 : Bytes → Digest} {iteration : Iteration} {journal stored : TelemetryJournal}
  {directory : Directory}

lemma Directory.Holds.load_cases (h : directory.Holds sha256 iteration stored)
    (hk : Keyed stored.contexts) (readable : Bool) :
    (loadMetadata sha256 readable directory journal).contexts = journal.contexts ∨
      (loadMetadata sha256 readable directory journal).contexts = stored.contexts := by
  by_cases hs : metadataBytes stored.contexts ≤ kMaximumIndexSizeBytes
  · cases readable with
    | true => exact .inr (h.load hk hs)
    | false =>
      left
      simp only [loadMetadata]
      split
      · rfl
      · split <;> rfl
  · rw [h.load_too_large (Nat.not_le.mp hs)]
    exact .inl rfl

end Load

/-! ## Invariants of the index and of its file -/

/-- An invariant holds of the index, and of what the metadata file has been written from. -/
structure Upheld (sha256 : Bytes → Digest) (iteration : Iteration) (invariant : Contexts → Prop)
    (store : Store) : Prop where
  memory : invariant store.journal.contexts
  file : store.directory.metadata ≠ none →
    ∃ stored, store.directory.Holds sha256 iteration stored ∧ invariant stored.contexts

section Upheld

variable {sha256 : Bytes → Digest} {iteration : Iteration} {invariant : Contexts → Prop}
  {before after store : Store}

lemma Upheld.fileStep (h : Upheld sha256 iteration invariant before)
    (hs : FileStep sha256 iteration before after) (ha : invariant after.journal.contexts) :
    Upheld sha256 iteration invariant after := by
  refine ⟨ha, ?_⟩
  intro hf
  rcases hs with hsa | ⟨stored, hh, ⟨-, hc⟩ | ⟨-, hc⟩⟩
  · obtain ⟨stored, hh, hst⟩ := h.file (hsa ▸ hf)
    exact ⟨stored, hsa.trans hh, hst⟩
  · exact ⟨stored, hh, hc ▸ h.memory⟩
  · exact ⟨stored, hh, hc ▸ ha⟩

lemma Upheld.reopen (h : Upheld sha256 iteration invariant store)
    (hkeyed : ∀ contexts, invariant contexts → Keyed contexts)
    (hprune : ∀ threshold contexts, invariant contexts → invariant (pruneContexts threshold contexts))
    (now : UInt64) (calls : OpenCalls) :
    invariant (store.step sha256 iteration (.reopen now calls)).journal.contexts := by
  have hclos : Upheld sha256 iteration invariant
      ⟨(closeLocked sha256 iteration calls.closePersist store.journal store.directory).1,
        (closeLocked sha256 iteration calls.closePersist store.journal store.directory).2⟩ := by
    refine h.fileStep (fileStep_step (.close calls.closePersist)) ?_
    rw [contexts_closeLocked]
    exact h.memory
  have hloade : invariant (openFiles sha256 calls
      (closeLocked sha256 iteration calls.closePersist store.journal store.directory).1
      (closeLocked sha256 iteration calls.closePersist store.journal store.directory).2).1.contexts := by
    rw [contexts_openFiles]
    by_cases hfile : (closeLocked sha256 iteration calls.closePersist store.journal store.directory).2.metadata = none
    · simp only [loadMetadata, hfile]
      exact hclos.memory
    · obtain ⟨stored, hholds, hstor⟩ := hclos.file hfile
      rcases hholds.load_cases (hkeyed _ hstor) calls.metadataReadable with hsame | hload
      · rw [hsame]
        exact hclos.memory
      · rw [hload]
        exact hstor
  simp only [Store.step, Telemetry.reopen, openDirectory]
  split
  · exact hclos.memory
  · split
    · rcases @contexts_pruneExpiredLocked sha256 iteration calls.prunePersist (openFiles sha256 calls
        (closeLocked sha256 iteration calls.closePersist store.journal store.directory).1
        (closeLocked sha256 iteration calls.closePersist store.journal store.directory).2).1 (openFiles
        sha256 calls
        (closeLocked sha256 iteration calls.closePersist store.journal store.directory).1
        (closeLocked sha256 iteration calls.closePersist store.journal store.directory).2).2 now with
        hsame | hprun
      · rw [hsame]
        exact hloade
      · rw [hprun]
        exact hprune _ _ hloade
    · exact hloade

end Upheld

end Nstu.Telemetry
