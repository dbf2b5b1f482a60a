import Nstu.Telemetry.Journal.Once

/-!
# Opening an object that has been used

`open` closes what is open and loads the metadata of the directory, but `load_metadata` leaves alone
what it does not read, and a segment that cannot be read keeps the size it was known with.
`opensAlike_iff` says when the object is nevertheless in the state a fresh one would be in.
-/

namespace Nstu.Telemetry

open Wire Reader FramedLog KeyedMap

section Load

variable (sha256 : Bytes → Digest)

/-- What `load_metadata` has in hand when its header is read: the active segment, and the bytes of the
contexts. -/
def metadataHeader (readable : Bool) (directory : Directory) : Option ((UInt32 × UInt64) × Bytes) :=
  match directory.metadata with
  | none => none
  | some wire =>
    if wire.length < 16 + 32 || wire.length > 32 * 1024 * 1024 then none
    else if !readable then none
    else
      match sha256Of sha256 (wire.take (wire.length - 32)) with
      | none => none
      | some digest =>
        if digest.toList != wire.drop (wire.length - 32) then none
        else readMetadataHeader.run wire

/-- The contexts that are in the metadata of a directory. -/
def metadataContexts (readable : Bool) (directory : Directory) : Option Contexts :=
  ((metadataHeader sha256 readable directory).bind fun header => readContexts.run header.2).map Prod.fst

variable {sha256} {readable : Bool} {directory : Directory} {journal : TelemetryJournal}

lemma loadMetadata_eq : loadMetadata sha256 readable directory journal =
    match metadataHeader sha256 readable directory with
    | none => journal
    | some ((activeSegment, activeSegmentBytes), rest) =>
      let journal := { journal with
        activeSegment := Fin.ofNat kDetailSegmentCount activeSegment.toNat
        activeSegmentBytes := activeSegmentBytes.toNat }
      match readContexts.run rest with
      | none => journal
      | some (contexts, _) => { journal with contexts := contexts } := by
  simp only [loadMetadata, metadataHeader]
  cases directory.metadata with
  | none => rfl
  | some wire =>
    dsimp only
    split_ifs
    · rfl
    · rfl
    · cases sha256Of sha256 (wire.take (wire.length - 32)) with
      | none => rfl
      | some digest =>
        dsimp only
        split_ifs
        · rfl
        · cases readMetadataHeader.run wire with
          | none => rfl
          | some header => rfl

lemma contexts_loadMetadata_eq : (loadMetadata sha256 readable directory journal).contexts =
    (metadataContexts sha256 readable directory).getD journal.contexts := by
  rw [loadMetadata_eq, metadataContexts]
  cases metadataHeader sha256 readable directory with
  | none => rfl
  | some header =>
    dsimp only [Option.bind_some]
    cases readContexts.run header.2 with
    | none => rfl
    | some contexts => rfl

lemma activeSegment_loadMetadata_eq : (loadMetadata sha256 readable directory journal).activeSegment =
    ((metadataHeader sha256 readable directory).map fun header =>
      Fin.ofNat kDetailSegmentCount header.1.1.toNat).getD journal.activeSegment := by
  rw [loadMetadata_eq]
  cases metadataHeader sha256 readable directory with
  | none => rfl
  | some header =>
    dsimp only
    cases readContexts.run header.2 with
    | none => rfl
    | some contexts => rfl

lemma segmentSizes_loadMetadata :
    (loadMetadata sha256 readable directory journal).segmentSizes = journal.segmentSizes := by
  rw [loadMetadata_eq]
  cases metadataHeader sha256 readable directory with
  | none => rfl
  | some header =>
    dsimp only
    cases readContexts.run header.2 with
    | none => rfl
    | some contexts => rfl

end Load

/-! ## Segments -/

/-- A segment file that is not empty and cannot be read. -/
def Unreadable (calls : OpenCalls) (directory : Directory) (segment : Segment) : Prop :=
  calls.segmentReadable segment = false ∧ (directory.segments segment).getD [] ≠ []

section Sanitize

variable {sha256 : Bytes → Digest} {calls : OpenCalls} {directory : Directory}
  {journal : TelemetryJournal}

lemma sanitizeSegment_file (readable resized : Bool) (file : Option Bytes) (size other : ℕ) :
    (sanitizeSegment sha256 readable resized file size).1 = (sanitizeSegment sha256 readable resized file other).1 := by
  simp only [sanitizeSegment]
  split
  · rfl
  · split
    · rfl
    · split <;> rfl

lemma sanitizeSegment_size (segment : Segment) (size : ℕ) :
    (sanitizeSegment sha256 (calls.segmentReadable segment) (calls.segmentResized segment)
        (directory.segments segment) size).2 =
      (sanitizeSegment sha256 (calls.segmentReadable segment) (calls.segmentResized segment)
        (directory.segments segment) 0).2 ↔ Unreadable calls directory segment → size = 0 := by
  simp only [sanitizeSegment, Unreadable]
  cases hf : directory.segments segment with
  | none => simp
  | some bytes =>
    cases hr : calls.segmentReadable segment with
    | true =>
      simp
    | false =>
      simp only [Bool.not_false, if_true, Option.getD_some, true_and]
      cases bytes with
      | nil => simp
      | cons byte rest => simp

end Sanitize

/-! ## Opening -/

/-- Two objects have the same contexts, active segment, active segment bytes and segment sizes. -/
structure SameIndex (a b : TelemetryJournal) : Prop where
  contexts : a.contexts = b.contexts
  activeSegment : a.activeSegment = b.activeSegment
  activeSegmentBytes : a.activeSegmentBytes = b.activeSegmentBytes
  segmentSizes : a.segmentSizes = b.segmentSizes

section Open

variable (sha256 : Bytes → Digest)

/-- What an object must not bring along: contexts that are not replaced, an active segment that is not
replaced, and the size of an active segment that cannot be read. -/
structure BringsNothing (calls : OpenCalls) (directory : Directory) (journal : TelemetryJournal) :
    Prop where
  contexts : metadataContexts sha256 calls.metadataReadable directory = none → journal.contexts = ∅
  activeSegment : metadataHeader sha256 calls.metadataReadable directory = none → journal.activeSegment = 0
  size : ∀ segment, (loadMetadata sha256 calls.metadataReadable directory .new).activeSegment = segment →
    Unreadable calls directory segment → journal.segmentSizes segment = 0

variable {sha256} {iteration : Iteration} {calls : OpenCalls} {now : UInt64}
  {directory : Directory} {journal : TelemetryJournal}

lemma activeSegmentBytes_openFiles :
    let loaded := loadMetadata sha256 calls.metadataReadable directory journal
    (openFiles sha256 calls journal directory).1.activeSegmentBytes =
      (sanitizeSegment sha256 (calls.segmentReadable loaded.activeSegment)
        (calls.segmentResized loaded.activeSegment) (directory.segments loaded.activeSegment)
        (journal.segmentSizes loaded.activeSegment)).2 := by
  intro loaded
  have hs : loaded.segmentSizes = journal.segmentSizes := segmentSizes_loadMetadata
  rw [← hs]
  rfl

lemma openDirectory_journal (hc : calls.createError = none) :
    ∃ finish : Contexts → Contexts, (∀ contexts, finish contexts = finish ∅ → contexts = ∅) ∧
      ∀ journal, (openDirectory sha256 iteration calls now journal directory).journal =
        { (openFiles sha256 calls journal directory).1 with
          contexts := finish (openFiles sha256 calls journal directory).1.contexts } := by
  by_cases hn : 0 < now
  · refine ⟨pruneContexts (retentionThreshold now), ?_, ?_⟩
    · intro contexts hs
      have he : pruneContexts (retentionThreshold now) ∅ = ∅ := Std.ExtTreeMap.map_eq_empty_iff.mpr rfl
      rw [he] at hs
      exact Std.ExtTreeMap.map_eq_empty_iff.mp hs
    · intro journal
      simp only [openDirectory, hc, if_pos hn, pruneExpiredLocked]
      have ho : (openFiles sha256 calls journal directory).1.isOpen := rfl
      rw [ho, if_neg (by decide)]
      split
      · split <;> rfl
      · rfl
  · refine ⟨id, fun _ hs => hs, ?_⟩
    intro journal
    simp only [openDirectory, hc, if_neg hn, id]

/-- **When an object is opened as a fresh one would be.** -/
lemma sameIndex_openDirectory (hcrea : calls.createError = none) :
    SameIndex (openDirectory sha256 iteration calls now journal directory).journal
        (openDirectory sha256 iteration calls now .new directory).journal ↔
      BringsNothing sha256 calls directory journal := by
  obtain ⟨finish, hfini, hjour⟩ :=
    @openDirectory_journal sha256 iteration calls now directory hcrea
  rw [hjour, hjour]
  have hcont := @contexts_loadMetadata_eq sha256 calls.metadataReadable directory
  have hsegm := @activeSegment_loadMetadata_eq sha256 calls.metadataReadable directory
  have hacti : ∀ other : TelemetryJournal, (openFiles sha256 calls other directory).1.activeSegment =
        (loadMetadata sha256 calls.metadataReadable directory other).activeSegment := fun _ => rfl
  have hbytes := @activeSegmentBytes_openFiles sha256 calls directory
  constructor
  · intro hsame
    have hload := hsame.contexts
    simp only [contexts_openFiles, hcont] at hload
    have hloade := hsame.activeSegment
    simp only [hacti] at hloade
    refine ⟨?_, ?_, ?_⟩
    · intro hnone
      rw [hnone] at hload
      exact hfini _ hload
    · intro hnone
      rw [hsegm, hsegm, hnone] at hloade
      exact hloade
    · intro segment hnew
      have hsize := hsame.activeSegmentBytes
      simp only [hbytes, hloade, hnew] at hsize
      exact (sanitizeSegment_size segment _).mp hsize
  · intro hbrin
    have hloade : (loadMetadata sha256 calls.metadataReadable directory journal).activeSegment =
        (loadMetadata sha256 calls.metadataReadable directory .new).activeSegment := by
      rw [hsegm, hsegm]
      cases hhead : metadataHeader sha256 calls.metadataReadable directory with
      | none => exact hbrin.activeSegment hhead
      | some header => rfl
    refine ⟨?_, hloade, ?_, ?_⟩
    · simp only [contexts_openFiles, hcont]
      cases hread : metadataContexts sha256 calls.metadataReadable directory with
      | none =>
        rw [Option.getD_none, hbrin.contexts hread]
        rfl
      | some contexts => rfl
    · simp only [hbytes, hloade]
      exact (sanitizeSegment_size _ _).mpr (hbrin.size _ rfl)
    · simp only [openFiles, updateSegmentSizes, recoverAndSanitizeSegments]
      funext segment
      rw [@sanitizeSegment_file sha256 _ _ _
        ((loadMetadata sha256 calls.metadataReadable directory journal).segmentSizes segment)
        ((loadMetadata sha256 calls.metadataReadable directory .new).segmentSizes segment)]

end Open

/-- `open` of an object on a directory; what is open is closed first, and written where it was open. -/
def openObject (sha256 : Bytes → Digest) (iteration : Iteration) (calls : OpenCalls) (now : UInt64)
    (store : Store) (directory : Directory) : Outcome Bool :=
  openDirectory sha256 iteration calls now
    (closeLocked sha256 iteration calls.closePersist store.journal store.directory).1 directory

/-- **When opening depends on the directory alone.**  An object in any state that is opened on a
directory has the contexts, the active segment and the sizes that a fresh object has there, exactly
when it brings nothing along that the directory does not replace: contexts, where they are not loaded;
an active segment, where no header is; and the size of an active segment that cannot be read. -/
theorem opensAlike_iff (sha256 : Bytes → Digest) (iteration : Iteration) (calls : OpenCalls)
    (now : UInt64) (store : Store) (directory : Directory) :
    ((openObject sha256 iteration calls now store directory).value = true →
      SameIndex (openObject sha256 iteration calls now store directory).journal
        (openDirectory sha256 iteration calls now .new directory).journal) ↔
      (calls.createError = none → BringsNothing sha256 calls directory store.journal) := by
  have hclosed : BringsNothing sha256 calls directory
      (closeLocked sha256 iteration calls.closePersist store.journal store.directory).1 ↔
        BringsNothing sha256 calls directory store.journal := by
    simp only [closeLocked]
    split
    · rfl
    · exact ⟨fun h => ⟨h.contexts, h.activeSegment, h.size⟩,
        fun h => ⟨h.contexts, h.activeSegment, h.size⟩⟩
  cases hcreated : calls.createError with
  | some message =>
    have hfails : (openObject sha256 iteration calls now store directory).value = false := by
      simp only [openObject, openDirectory, hcreated]
    rw [hfails]
    exact ⟨fun _ hnone => (Option.some_ne_none _ hnone).elim,
      fun _ htrue => (Bool.false_ne_true htrue).elim⟩
  | none =>
    have hopens : (openObject sha256 iteration calls now store directory).value = true := by
      simp only [openObject, openDirectory, hcreated]
      split <;> rfl
    rw [hopens, ← hclosed, openObject]
    exact ⟨fun hsame _ => (sameIndex_openDirectory hcreated).mp (hsame rfl),
      fun hbrings _ => (sameIndex_openDirectory hcreated).mpr (hbrings rfl)⟩

/-- An object that has authorized a session takes it along to an empty directory. -/
theorem contexts_taken_along : (Set.univ : Set (Bytes → Digest)) ⊆ {sha256 |
      let outcome := openObject sha256 .byKey sampleOpenCalls 0
        (processRun sha256 .byKey (sampleStart.map .call)) .empty
      outcome.value = true ∧ outcome.journal.contexts.size = 1 ∧
        (openDirectory sha256 .byKey sampleOpenCalls 0 .new .empty).journal.contexts = ∅} := by
  intro sha256 _
  have hkept : ∀ store : Store, (openObject sha256 .byKey sampleOpenCalls 0 store .empty).journal.contexts =
      store.journal.contexts := fun store => contexts_closeLocked
  refine ⟨rfl, ?_, rfl⟩
  rw [hkept, journal_sampleRun]
  rfl

end Nstu.Telemetry
