import Nstu.Telemetry.Journal.Metadata

/-!
# The ring of segments

A record goes to the active segment, or, when it does not fit there, to the next one, which is emptied
for it.  Read from the segment after the active one round to the active one, the files hold the
records of the batches that were accepted last, in the order in which they were accepted: an append
puts a record at the end of the ring, and a rotation drops a whole segment from its front.
-/

namespace Nstu.Telemetry

open Wire Reader FramedLog KeyedMap List
open Function (update update_of_ne update_self)

/-! ## Order of the segments -/

/-- The segments from the one after the active one round to the active one. -/
def ringOrder (active : Segment) : List Segment :=
  (List.range kDetailSegmentCount).map fun k => active + 1 + Fin.ofNat kDetailSegmentCount k

/-- The segments in front of the active one. -/
def olderSegments (active : Segment) : List Segment :=
  (List.range (kDetailSegmentCount - 1)).map fun k => active + 1 + Fin.ofNat kDetailSegmentCount k

lemma ringOrder_eq_concat (active : Segment) : ringOrder active = olderSegments active ++ [active] := by
  revert active
  decide

lemma ringOrder_eq_cons (active : Segment) : ringOrder active = (active + 1) :: olderSegments (active + 1) := by
  revert active
  decide

lemma not_mem_olderSegments (active : Segment) : active ∉ olderSegments active := by
  revert active
  decide

section Rings

variable {α : Type} {held : Segment → List α} {active : Segment}

lemma flatMap_olderSegments_update (content : List α) :
    (olderSegments active).flatMap (update held active content) = (olderSegments active).flatMap held := by
  refine flatMap_congr ?_
  intro segment hs
  refine update_of_ne ?_ _ _
  rintro rfl
  exact not_mem_olderSegments segment hs

lemma ring_append (entry : α) : (ringOrder active).flatMap (update held active (held active ++ [entry])) =
      (ringOrder active).flatMap held ++ [entry] := by
  rw [ringOrder_eq_concat, flatMap_append, flatMap_append, flatMap_olderSegments_update]
  simp

lemma ring_rotate (entry : α) : (ringOrder active).flatMap held ++ [entry] = held (active + 1) ++
        (ringOrder (active + 1)).flatMap (update held (active + 1) [entry]) := by
  rw [ringOrder_eq_cons, ringOrder_eq_concat (active + 1), flatMap_append, flatMap_olderSegments_update]
  simp

end Rings

/-! ## Runs -/

/-- A journal with the batches it has accepted, and when, the last one at the end. -/
structure RingRun where
  store : Store
  accepted : List (TelemetryBatch × UInt64)

section Runs

variable (sha256 : Bytes → Digest) (iteration : Iteration)

/-- One operation, with the records it retains. -/
def RingRun.step (run : RingRun) (op : JournalOp) : RingRun where
  store := run.store.step sha256 iteration op
  accepted :=
    match op with
    | .recordBatch batch now calls =>
      if (recordBatch sha256 iteration calls run.store.journal run.store.directory batch
          now).value.status = .accepted then
        run.accepted ++ [(batch, now)]
      else run.accepted
    | _ => run.accepted

def ringRun (store : Store) (ops : List JournalOp) : RingRun :=
  ops.foldl (RingRun.step sha256 iteration) ⟨store, []⟩

/-- What is read from the segment files, round to the active one. -/
def Store.ringRecords (store : Store) : List Bytes :=
  (ringOrder store.journal.activeSegment).flatMap fun i => detailRecords sha256 (store.directory.file i)

end Runs

/-- The writes of a batch succeed.  The journal is not opened again and is not made to fail or to
rotate early. -/
def JournalOp.Writing : JournalOp → Prop
  | .recordBatch _ _ calls => calls.Succeed ∧ calls.truncated = true
  | .reopen _ _ => False
  | .setDiskFailureInjection _ => False
  | .setSegmentSizeLimitForTesting _ => False
  | _ => True

/-- A journal without records. -/
structure Store.Blank (store : Store) : Prop where
  files : ∀ i, store.directory.file i = []
  sizes : ∀ i, store.journal.segmentSizes i = 0
  active : store.journal.activeSegmentBytes = 0
  injection : store.journal.diskFailureInjection = false
  limit : store.journal.segmentSizeLimitForTesting = 0

/-- The segments hold the records of the given batches, and the journal knows how large they are. -/
structure Filled (sha256 : Bytes → Digest) (journal : TelemetryJournal) (directory : Directory)
    (held : Segment → List (TelemetryBatch × UInt64)) : Prop where
  files : ∀ i, directory.file i = logBytes (recordOf sha256) (held i)
  sizes : ∀ i, journal.segmentSizes i = (directory.file i).length
  active : journal.activeSegmentBytes = (directory.file journal.activeSegment).length
  small : ∀ i, (directory.file i).length ≤ kDetailSegmentBytes

/-- The segments hold the records that were accepted last. -/
structure Ring (sha256 : Bytes → Digest) (run : RingRun)
    (held : Segment → List (TelemetryBatch × UInt64)) : Prop where
  filled : Filled sha256 run.store.journal run.store.directory held
  suffix : (ringOrder run.store.journal.activeSegment).flatMap held <:+ run.accepted
  newest : run.accepted ≠ [] → held run.store.journal.activeSegment ≠ []
  injection : run.store.journal.diskFailureInjection = false
  limit : run.store.journal.segmentSizeLimitForTesting = 0

/-! ## Operations that leave the segments alone -/

/-- Only the index and the metadata file differ. -/
def SameSegments (before after : Store) : Prop :=
  (∃ isOpen contexts, after.journal = { before.journal with isOpen, contexts }) ∧
    after.directory.segments = before.directory.segments

section Frame

variable {sha256 : Bytes → Digest} {iteration : Iteration} {store : Store}

lemma SameSegments.refl (store : Store) : SameSegments store store := ⟨⟨_, _, rfl⟩, rfl⟩

variable {answer : PersistAnswer}

lemma sameSegments_persistOutcome {contexts : Contexts} : SameSegments store
      ⟨(persistOutcome sha256 iteration answer { store.journal with contexts } store.directory).journal,
        (persistOutcome sha256 iteration answer { store.journal with contexts } store.directory).directory⟩ :=
  ⟨⟨_, contexts, journal_persistOutcome⟩, segments_persistOutcome⟩

variable {now : UInt64}

lemma sameSegments_pruneExpiredLocked :
    SameSegments store ⟨(pruneExpiredLocked sha256 iteration answer now store.journal store.directory).journal,
        (pruneExpiredLocked sha256 iteration answer now store.journal store.directory).directory⟩ := by
  refine ⟨?_, segments_pruneExpiredLocked⟩
  simp only [pruneExpiredLocked]
  split
  · exact ⟨_, _, rfl⟩
  · split
    · split <;> exact ⟨_, _, rfl⟩
    · exact ⟨_, _, rfl⟩

lemma sameSegments_step {op : JournalOp} (hw : op.Writing)
    (hb : ∀ batch now calls, op ≠ .recordBatch batch now calls) :
    SameSegments store (store.step sha256 iteration op) := by
  cases op with
  | authorizeContext sessionId time answer =>
    simp only [Store.step, authorizeContext]
    split
    · exact .refl store
    · split
      · exact .refl store
      · exact sameSegments_persistOutcome
  | stopAuthorization sessionId answer =>
    simp only [Store.step, stopAuthorization]
    split
    · exact .refl store
    · split
      · exact .refl store
      · exact sameSegments_persistOutcome
  | removeContext sessionId answer =>
    simp only [Store.step, removeContext]
    split
    · exact .refl store
    · exact sameSegments_persistOutcome
  | retireProducer sessionId producerId answer =>
    simp only [Store.step, retireProducer]
    split
    · exact .refl store
    · split
      · exact .refl store
      · split
        · exact .refl store
        · exact sameSegments_persistOutcome
  | recordBatch batch now calls => exact absurd rfl (hb batch now calls)
  | pruneExpired now answer => exact sameSegments_pruneExpiredLocked
  | close answer =>
    refine ⟨?_, segments_closeLocked⟩
    simp only [Store.step, closeLocked]
    split <;> exact ⟨_, _, rfl⟩
  | reopen now calls
  | setDiskFailureInjection enable | setSegmentSizeLimitForTesting bytes => exact absurd hw id

lemma sameSegments_recordBatch {calls : RecordCalls} {batch : TelemetryBatch}
    (hsucc : calls.Succeed) (hinje : store.journal.diskFailureInjection = false)
    (hstat : (recordBatch sha256 iteration calls store.journal store.directory batch now).value.status ≠ .accepted) :
    SameSegments store (store.step sha256 iteration (.recordBatch batch now calls)) := by
  have hexit := @recordBatch_exit sha256 iteration calls store.journal store.directory batch now
  have hstor : ∀ {context admitted producer hash},
      Passed sha256 store.journal batch now context admitted producer hash → ¬ Unseen producer batch := by
    intro context admitted producer hash hpass hunse
    refine hstat ?_
    rw [recordBatch_stored hpass hunse hinje hsucc]
    rfl
  simp only [Store.step]
  revert hexit
  generalize recordBatch sha256 iteration calls store.journal store.directory batch now = outcome
  intro hexit
  cases hexit with
  | refused hrefu => exact .refl store
  | answered hpass hansw => exact ⟨⟨_, _, rfl⟩, rfl⟩
  | conflicted hpass hreti hconf htrac hne hconfl =>
    exact ⟨⟨_, _, rfl⟩, segments_persistIgnored⟩
  | unopened hpass hunse hunav => exact absurd hunse (hstor hpass)
  | torn hpass hunse hflus hunav
  | accepted hpass hunse hinje hsucc hacce => exact absurd hunse (hstor hpass)

lemma Ring.of_sameSegments {run : RingRun} {held : Segment → List (TelemetryBatch × UInt64)}
    (h : Ring sha256 run held) {after : Store} (hs : SameSegments run.store after) :
    Ring sha256 ⟨after, run.accepted⟩ held := by
  obtain ⟨⟨isOpen, contexts, hj⟩, hse⟩ := hs
  have hf : ∀ i, after.directory.file i = run.store.directory.file i := by
    intro i
    rw [Directory.file, Directory.file, hse]
  refine ⟨⟨?_, ?_, ?_, ?_⟩, ?_, ?_, ?_, ?_⟩
  · intro i
    rw [hf, h.filled.files]
  · intro i
    rw [hf, hj]
    exact h.filled.sizes i
  · rw [hf, hj]
    exact h.filled.active
  · intro i
    rw [hf]
    exact h.filled.small i
  · rw [hj]
    exact h.suffix
  · rw [hj]
    exact h.newest
  · rw [hj]
    exact h.injection
  · rw [hj]
    exact h.limit

end Frame

/-! ## A record is stored -/

section Store

variable {sha256 : Bytes → Digest} {iteration : Iteration} {journal : TelemetryJournal}
  {directory : Directory} {held : Segment → List (TelemetryBatch × UInt64)}
  {entry : TelemetryBatch × UInt64}

lemma file_rotate_next : (rotate true journal directory).2.file (journal.activeSegment + 1) = [] := by
  simp [rotate, Directory.file]

lemma Filled.rotate (h : Filled sha256 journal directory held) :
    Filled sha256 (rotate true journal directory).1 (rotate true journal directory).2
      (update held (journal.activeSegment + 1) []) := by
  have ha : (Telemetry.rotate true journal directory).1.activeSegment = journal.activeSegment + 1 := rfl
  constructor
  · intro i
    by_cases hi : i = journal.activeSegment + 1
    · rw [hi, file_rotate_next, update_self]
      rfl
    · rw [file_rotate_of_ne hi, update_of_ne hi]
      exact h.files i
  · intro i
    by_cases hi : i = journal.activeSegment + 1
    · rw [hi, file_rotate_next]
      exact update_self _ _ _
    · rw [file_rotate_of_ne hi, ← h.sizes i]
      exact update_of_ne hi _ _
  · rw [ha, file_rotate_next]
    rfl
  · intro i
    by_cases hi : i = journal.activeSegment + 1
    · rw [hi, file_rotate_next]
      exact Nat.zero_le _
    · rw [file_rotate_of_ne hi]
      exact h.small i

lemma Filled.append (h : Filled sha256 journal directory held)
    (hf : journal.activeSegmentBytes + (recordOf sha256 entry).length ≤ kDetailSegmentBytes) :
    Filled sha256 { journal with
        activeSegmentBytes := journal.activeSegmentBytes + (recordOf sha256 entry).length
        segmentSizes := update journal.segmentSizes journal.activeSegment
          (journal.activeSegmentBytes + (recordOf sha256 entry).length) }
      (directory.append journal.activeSegment (recordOf sha256 entry))
      (update held journal.activeSegment (held journal.activeSegment ++ [entry])) := by
  constructor
  · intro i
    by_cases hi : i = journal.activeSegment
    · rw [hi, file_append_self, update_self, h.files, logBytes_append, logBytes_cons,
        logBytes_nil, append_nil]
    · rw [file_append_of_ne hi, update_of_ne hi]
      exact h.files i
  · intro i
    by_cases hi : i = journal.activeSegment
    · rw [hi, file_append_self, length_append, ← h.active]
      exact update_self _ _ _
    · rw [file_append_of_ne hi, ← h.sizes i]
      exact update_of_ne hi _ _
  · rw [file_append_self, length_append, ← h.active]
  · intro i
    by_cases hi : i = journal.activeSegment
    · rw [hi, file_append_self, length_append, ← h.active]
      exact hf
    · rw [file_append_of_ne hi]
      exact h.small i

lemma length_recordOf_le : (recordOf sha256 entry).length ≤ kDetailSegmentBytes := by
  have hl := length_encodeTelemetryBatch entry.1
  simp only [kMaximumTelemetryBatchBytes] at hl
  rw [recordOf, length_detailRecord]
  simp only [kDetailHeaderBytes, kDetailSegmentBytes]
  omega

lemma rotates_iff (hl : journal.segmentSizeLimitForTesting = 0) (record : Bytes) :
    journal.rotates record ↔ kDetailSegmentBytes < journal.activeSegmentBytes + record.length := by
  simp only [TelemetryJournal.rotates, TelemetryJournal.effectiveSegmentBytes, hl, Nat.lt_irrefl,
    if_false, decide_eq_true_eq]

/-- The journal when a record has been written to its active segment. -/
def TelemetryJournal.grown (journal : TelemetryJournal) (record : Bytes) : TelemetryJournal :=
  { journal with
    activeSegmentBytes := journal.activeSegmentBytes + record.length
    segmentSizes := Function.update journal.segmentSizes journal.activeSegment
      (journal.activeSegmentBytes + record.length) }

/-- Room is made and a record written. -/
def Store.write (record : Bytes) (store : Store) : Store :=
  let room := makeRoom true record store.journal store.directory
  ⟨room.1.grown record, room.2.append room.1.activeSegment record⟩

lemma sameSegments_accepted {store : Store} {batch : TelemetryBatch} {now : UInt64} {calls : RecordCalls}
    (ht : calls.truncated)
    (hs : (recordBatch sha256 iteration calls store.journal store.directory batch now).value.status = .accepted) :
    SameSegments (store.write (recordOf sha256 (batch, now)))
      (store.step sha256 iteration (.recordBatch batch now calls)) := by
  obtain ⟨context, admitted, producer, hash, hp, hu, hj, hd⟩ :=
    recordBatch_accepted hs
  simp only [Store.step, hj, hd]
  refine ⟨?_, ?_⟩
  · simp only [storedJournal, roomFor, makeRoom_setProducer, ht, hp.hash_eq]
    exact ⟨_, _, rfl⟩
  · simp only [segments_persistIgnored, storedDirectory, roomFor, makeRoom_setProducer, ht, hp.hash_eq]
    rfl

variable {run : RingRun}

/-- **A stored record is the last one of the ring.** -/
lemma Ring.write (h : Ring sha256 run held) (entry : TelemetryBatch × UInt64) :
    ∃ held', Ring sha256 ⟨run.store.write (recordOf sha256 entry), run.accepted ++ [entry]⟩ held' := by
  have hr := rotates_iff h.limit (recordOf sha256 entry)
  cases hc : run.store.journal.rotates (recordOf sha256 entry) with
  | false =>
    have hf : run.store.journal.activeSegmentBytes + (recordOf sha256 entry).length ≤
        kDetailSegmentBytes := by
      rw [hc] at hr
      simpa using hr
    have hw : run.store.write (recordOf sha256 entry) = ⟨run.store.journal.grown (recordOf sha256 entry),
          run.store.directory.append run.store.journal.activeSegment (recordOf sha256 entry)⟩ := by
      simp only [Store.write, makeRoom, hc, Bool.false_eq_true, if_false]
    refine ⟨Function.update held run.store.journal.activeSegment
      (held run.store.journal.activeSegment ++ [entry]), ?_⟩
    rw [hw]
    refine ⟨h.filled.append hf, ?_, ?_, h.injection, h.limit⟩
    · show (ringOrder run.store.journal.activeSegment).flatMap _ <:+ _
      rw [ring_append]
      exact suffix_append_self_iff.mpr h.suffix
    · intro _
      show update held run.store.journal.activeSegment _ run.store.journal.activeSegment ≠ []
      rw [update_self]
      simp
  | true =>
    have hf : (rotate true run.store.journal run.store.directory).1.activeSegmentBytes +
        (recordOf sha256 entry).length ≤ kDetailSegmentBytes := by
      show 0 + (recordOf sha256 entry).length ≤ _
      rw [Nat.zero_add]
      exact length_recordOf_le
    have hw : run.store.write (recordOf sha256 entry) =
        ⟨(rotate true run.store.journal run.store.directory).1.grown (recordOf sha256 entry),
          (rotate true run.store.journal run.store.directory).2.append
            (run.store.journal.activeSegment + 1) (recordOf sha256 entry)⟩ := by
      simp only [Store.write, makeRoom, hc, if_true]
      rfl
    have hfi := h.filled.rotate.append hf
    rw [show (rotate true run.store.journal run.store.directory).1.activeSegment =
      run.store.journal.activeSegment + 1 from rfl, Function.update_idem, update_self,
      nil_append] at hfi
    refine ⟨Function.update held (run.store.journal.activeSegment + 1) [entry], ?_⟩
    rw [hw]
    refine ⟨hfi, ?_, ?_, h.injection, h.limit⟩
    · show (ringOrder (run.store.journal.activeSegment + 1)).flatMap _ <:+ _
      have hd := @ring_rotate _ held run.store.journal.activeSegment entry
      have ha := (@suffix_append_self_iff _ _ _ [entry]).mpr h.suffix
      rw [hd] at ha
      exact (suffix_append _ _).trans ha
    · intro _
      show update held (run.store.journal.activeSegment + 1) _ (run.store.journal.activeSegment + 1) ≠ []
      rw [update_self]
      simp

/-- A writing operation keeps the ring. -/
lemma Ring.step {run : RingRun} (h : Ring sha256 run held) {op : JournalOp} (hw : op.Writing) :
    ∃ held', Ring sha256 (run.step sha256 iteration op) held' := by
  by_cases hb : ∃ batch now calls, op = .recordBatch batch now calls
  · obtain ⟨batch, now, calls, rfl⟩ := hb
    by_cases hs : (recordBatch sha256 iteration calls run.store.journal run.store.directory batch
        now).value.status = .accepted
    · obtain ⟨held', hr⟩ := h.write (batch, now)
      refine ⟨held', ?_⟩
      simp only [RingRun.step, hs, if_true]
      exact hr.of_sameSegments (sameSegments_accepted hw.2 hs)
    · refine ⟨held, ?_⟩
      simp only [RingRun.step, hs, if_false]
      exact h.of_sameSegments (sameSegments_recordBatch hw.1 h.injection hs)
  · refine ⟨held, ?_⟩
    have hsa := @sameSegments_step sha256 iteration run.store op hw
      fun batch now calls he => hb ⟨batch, now, calls, he⟩
    cases op with
    | recordBatch batch now calls => exact absurd ⟨batch, now, calls, rfl⟩ hb
    | _ => exact h.of_sameSegments hsa

lemma Ring.foldl (ops : List JournalOp) {run : RingRun} (h : Ring sha256 run held) (hw : ∀ op ∈ ops, op.Writing) :
    ∃ held', Ring sha256 (ops.foldl (RingRun.step sha256 iteration) run) held' := by
  induction ops generalizing run held with
  | nil => exact ⟨held, h⟩
  | cons op ops ih =>
    obtain ⟨held', hn⟩ := @Ring.step sha256 iteration _ _ h op (hw op mem_cons_self)
    exact ih hn fun op hm => hw op (mem_cons_of_mem _ hm)

lemma Store.Blank.ring {store : Store} (h : store.Blank) : Ring sha256 ⟨store, []⟩ (fun _ => []) := by
  refine ⟨⟨h.files, ?_, ?_, ?_⟩, ?_, ?_, h.injection, h.limit⟩
  · intro i
    rw [h.sizes, h.files]
    rfl
  · rw [h.active, h.files]
    rfl
  · intro i
    rw [h.files]
    exact Nat.zero_le _
  · simp
  · intro hn
    exact absurd rfl hn

lemma detailRecords_logBytes (entries : List (TelemetryBatch × UInt64)) :
    detailRecords sha256 (logBytes (recordOf sha256) entries) = entries.map (recordOf sha256) := by
  induction entries with
  | nil => exact (frames_of_no_frame nextDetailRecord_nil).1
  | cons entry entries ih =>
    rw [logBytes_cons, recordOf, detailRecords_detailRecord, ih, map_cons, recordOf]

lemma Ring.records (h : Ring sha256 run held) : run.store.ringRecords sha256 =
      ((ringOrder run.store.journal.activeSegment).flatMap held).map (recordOf sha256) := by
  simp only [Store.ringRecords, h.filled.files, detailRecords_logBytes, map_flatMap]

lemma Ring.getLast?_records (h : Ring sha256 run held) :
    (run.store.ringRecords sha256).getLast? = (run.accepted.map (recordOf sha256)).getLast? := by
  obtain ⟨dropped, hd⟩ := h.suffix
  by_cases ha : run.accepted = []
  · rw [ha] at hd
    rw [h.records, (append_eq_nil_iff.mp hd).2, ha]
  · have hn : (ringOrder run.store.journal.activeSegment).flatMap held ≠ [] := by
      rw [ringOrder_eq_concat, flatMap_append]
      simp [h.newest ha]
    rw [h.records, ← hd, map_append, getLast?_append_of_ne_nil]
    simpa using hn

end Store

/-- **The ring holds what was accepted last.**  In every run from a journal without records, in which
all writes succeed: the segment files, read from the one after the active segment round to the active
one, hold a suffix of the accepted batches' records, with the newest one in it; no segment is larger
than its limit; and the journal knows the sizes of its files. -/
theorem ring_holds_newest (sha256 : Bytes → Digest) (iteration : Iteration) (store : Store)
    (hblank : store.Blank) (ops : List JournalOp) (hwriting : ∀ op ∈ ops, op.Writing) :
    let run := ringRun sha256 iteration store ops
    run.store.ringRecords sha256 <:+ run.accepted.map (recordOf sha256) ∧
      (run.store.ringRecords sha256).getLast? = (run.accepted.map (recordOf sha256)).getLast? ∧
      (∀ i, (run.store.directory.file i).length ≤ run.store.journal.effectiveSegmentBytes) ∧
      ((List.finRange kDetailSegmentCount).map fun i => (run.store.directory.file i).length).sum ≤
        kDetailSegmentCount * run.store.journal.effectiveSegmentBytes ∧
      (∀ i, run.store.journal.segmentSizes i = (run.store.directory.file i).length) ∧
      run.store.journal.activeSegmentBytes = (run.store.directory.file run.store.journal.activeSegment).length := by
  intro run
  obtain ⟨held, hring⟩ : ∃ held, Ring sha256 run held :=
    @Ring.foldl sha256 iteration _ ops ⟨store, []⟩ hblank.ring hwriting
  have hlimit : run.store.journal.effectiveSegmentBytes = kDetailSegmentBytes := by
    simp only [TelemetryJournal.effectiveSegmentBytes, hring.limit, Nat.lt_irrefl, if_false]
  have hsuffix : run.store.ringRecords sha256 <:+ run.accepted.map (recordOf sha256) := by
    rw [hring.records]
    exact hring.suffix.map _
  refine ⟨hsuffix, ?_, ?_, ?_, hring.filled.sizes, hring.filled.active⟩
  · exact hring.getLast?_records
  · intro i
    rw [hlimit]
    exact hring.filled.small i
  · have hsum := List.sum_le_card_nsmul
      ((List.finRange kDetailSegmentCount).map fun i => (run.store.directory.file i).length)
      kDetailSegmentBytes ?_
    · rw [List.length_map, List.length_finRange] at hsum
      rw [hlimit]
      exact hsum
    · intro size hsize
      obtain ⟨i, -, rfl⟩ := List.mem_map.mp hsize
      exact hring.filled.small i

lemma blank_sampleOpened : Store.Blank ⟨sampleOpened, .empty⟩ :=
  ⟨fun _ => rfl, fun _ => rfl, rfl, rfl, rfl⟩

/-- One batch is accepted and its record is the one that is read. -/
theorem ring_holds_newest_sample : (Set.univ : Set (Bytes → Digest)) ⊆ {sha256 |
      let run := ringRun sha256 .byKey ⟨sampleOpened, .empty⟩
        [.recordBatch (sampleBatch sampleSession 1) 1000 (sampleRecordCalls true)]
      run.accepted = [(sampleBatch sampleSession 1, 1000)] ∧ (run.store.ringRecords sha256).getLast? =
          some (recordOf sha256 (sampleBatch sampleSession 1, 1000))} := by
  intro sha256 _
  have hstored := @recordBatch_stored sha256 .byKey (sampleRecordCalls true) sampleOpened .empty _ 1000 _ _
    _ _ (passed_sampleOpened sha256) unseen_sampleProducer rfl succeed_sampleRecordCalls
  have haccepted : (ringRun sha256 .byKey ⟨sampleOpened, .empty⟩
      [.recordBatch (sampleBatch sampleSession 1) 1000 (sampleRecordCalls true)]).accepted =
        [(sampleBatch sampleSession 1, 1000)] := by
    simp only [ringRun, List.foldl, RingRun.step, hstored, ackOf, if_true, List.nil_append]
  have hring := ring_holds_newest sha256 .byKey ⟨sampleOpened, .empty⟩ blank_sampleOpened
    [.recordBatch (sampleBatch sampleSession 1) 1000 (sampleRecordCalls true)] (by
      intro op hop
      rw [List.mem_singleton] at hop
      subst hop
      exact ⟨succeed_sampleRecordCalls, rfl⟩)
  refine ⟨haccepted, hring.2.1.trans ?_⟩
  rw [haccepted]
  rfl

end Nstu.Telemetry
