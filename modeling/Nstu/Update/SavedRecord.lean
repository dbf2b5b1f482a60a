import Nstu.Update.Staging

/-!
# A record that was saved in part

A save empties the file of the record and writes it anew.  If the process stops meanwhile, the next start finds a
piece of the text; it takes the record if only the line feed at the end is missing, and refuses it otherwise
(`recovers_iff`).
-/

namespace Nstu.Update

open Wire CType Text JsonText

/-! ## Records in a run -/

namespace System

/-- What holds of the record at any time. -/
structure Bound (system : System) : Prop where
  fits : system.controller.record.Fits
  package : system.controller.record.stagedPackagePath = [] ∨
    system.controller.record.stagedPackagePath = system.controller.config.finalPackagePath
  backup : system.controller.record.backupPath = [] ∨
    system.controller.record.backupPath = system.controller.config.backupDirectory

section Bound

variable {system next : System} (calls : Calls)

lemma Bound.of_record (h : system.Bound) (hconf : next.controller.config = system.controller.config)
    (hsche : next.controller.record.schemaVersion = system.controller.record.schemaVersion)
    (hstag : next.controller.record.stagedBytes = system.controller.record.stagedBytes)
    (hexpe : next.controller.record.expectedBytes = system.controller.record.expectedBytes)
    (hpack : next.controller.record.stagedPackagePath = system.controller.record.stagedPackagePath ∨
      next.controller.record.stagedPackagePath = system.controller.config.finalPackagePath)
    (hback : next.controller.record.backupPath = system.controller.record.backupPath ∨
      next.controller.record.backupPath = [] ∨
        next.controller.record.backupPath = system.controller.config.backupDirectory) : next.Bound where
  fits := ⟨hsche.trans h.fits.schema, by rw [hstag, hexpe]; exact h.fits.staged⟩
  package := by
    rw [hconf]
    rcases hpack with hsame | hfinal
    · rw [hsame]
      exact h.package
    · exact .inr hfinal
  backup := by
    rw [hconf]
    rcases hback with hsame | hempty | hdire
    · rw [hsame]
      exact h.backup
    · exact .inl hempty
    · exact .inr hdire

lemma Bound.withDisk (h : system.Bound) (disk : Disk) : Bound { system with disk := disk } :=
  ⟨h.fits, h.package, h.backup⟩

lemma Bound.abortStaging (h : system.Bound) (reason : Bytes) : (system.abortStaging calls reason).system.Bound :=
  h.of_record rfl rfl rfl rfl (.inl rfl) (.inl rfl)

lemma Bound.beginStaging (h : system.Bound) (manifest : UpdateManifest) (currentVersion : SemanticVersion)
    (isExamActive : Bool) : (system.beginStaging calls manifest currentVersion isExamActive).system.Bound := by
  rw [System.beginStaging]
  dsimp only
  split_ifs
  any_goals exact h.of_record rfl rfl rfl rfl (.inl rfl) (.inl rfl)
  exact ⟨⟨h.fits.schema, UInt64.zero_le⟩, .inr rfl, h.backup⟩

lemma Bound.appendChunk (h : system.Bound) (chunk : Bytes) : (system.appendChunk calls chunk).system.Bound := by
  rw [System.appendChunk.eq_def]
  dsimp only
  generalize (if calls.fails .writePart || calls.fails .flushPart then chunk.take calls.written else chunk) = arrived
  split
  · exact h
  · split_ifs with hs hr ho hw hh
    · exact h
    · exact h.abortStaging calls _
    · exact h.abortStaging calls _
    · exact (h.withDisk _).abortStaging calls _
    · exact (h.withDisk _).abortStaging calls _
    · refine ⟨⟨h.fits.schema, ?_⟩, h.package, h.backup⟩
      -- the sum does not wrap around, because the chunk is no longer than what is missing
      have hst := UInt64.le_iff_toNat_le.mp h.fits.staged
      have hl := system.controller.record.expectedBytes.toNat_lt
      rw [UInt64.toNat_sub_of_le _ _ h.fits.staged] at hr
      have hc : (UInt64.ofNat chunk.length).toNat = chunk.length := UInt64.toNat_ofNat_of_lt' (by
        rw [UInt64.size]
        omega)
      change system.controller.record.stagedBytes + UInt64.ofNat chunk.length ≤ system.controller.record.expectedBytes
      rw [UInt64.le_iff_toNat_le, UInt64.toNat_add, hc, Nat.mod_eq_of_lt (by omega)]
      omega

lemma Bound.finalizeStaging (h : system.Bound) (sha256 : Bytes → Digest) :
    (system.finalizeStaging sha256 calls).system.Bound := by
  rw [System.finalizeStaging.eq_def]
  dsimp only
  split
  · exact h
  · split
    · exact h
    · split_ifs
      · exact h.abortStaging calls _
      · exact h.abortStaging calls _
      any_goals exact h.of_record rfl rfl rfl rfl (.inl rfl) (.inl rfl)
      all_goals exact h.of_record rfl rfl rfl rfl (.inr rfl) (.inl rfl)

lemma Bound.recoverApply (h : system.Bound) : (system.recoverApply calls).system.Bound := by
  rw [System.recoverApply]
  dsimp only
  split_ifs
  any_goals exact h
  exact h.of_record rfl rfl rfl rfl (.inl rfl) (.inr (.inl rfl))

lemma Bound.promote (h : system.Bound) (name package : Bytes) : (system.promote calls name package).system.Bound := by
  rw [System.promote]
  split
  · exact h.recoverApply calls
  · split
    · exact (h.withDisk _).recoverApply calls
    · exact h.of_record rfl rfl rfl rfl (.inl rfl) (.inl rfl)

lemma Bound.backUpAndPromote (h : system.Bound) (name package : Bytes) :
    (system.backUpAndPromote calls name package).system.Bound := by
  rw [System.backUpAndPromote]
  split
  · exact h.recoverApply calls
  · split
    · exact h.promote calls name package
    · split
      · exact h.recoverApply calls
      · refine Bound.promote calls ?_ name package
        exact ⟨⟨h.fits.schema, h.fits.staged⟩, h.package, .inr rfl⟩

lemma Bound.applyStagedUpdate (h : system.Bound) (name : Bytes) :
    (system.applyStagedUpdate calls name).system.Bound := by
  rw [System.applyStagedUpdate.eq_def]
  dsimp only
  split
  · exact h
  · split
    · exact h.recoverApply calls
    · split
      · exact h
      · split
        · exact h
        · split
          · exact h.backUpAndPromote calls name _
          · split
            · exact h.recoverApply calls
            · split
              · exact (h.withDisk _).recoverApply calls
              · exact (h.withDisk _).backUpAndPromote calls name _

lemma Bound.finishCommit (h : system.Bound) : (system.finishCommit calls).system.Bound := by
  rw [System.finishCommit]
  dsimp only
  split
  all_goals exact h.of_record rfl rfl rfl rfl (.inl rfl) (.inr (.inl rfl))

lemma Bound.commitUpdate (h : system.Bound) : (system.commitUpdate calls).system.Bound := by
  rw [System.commitUpdate]
  dsimp only
  split_ifs
  · exact h
  · exact h
  · exact h.finishCommit calls
  · exact h.withDisk _
  · exact (h.withDisk _).finishCommit calls

lemma Bound.rollbackUpdate (h : system.Bound) : (system.rollbackUpdate calls).system.Bound := by
  rw [System.rollbackUpdate]
  dsimp only
  split_ifs
  any_goals exact h
  any_goals exact h.of_record rfl rfl rfl rfl (.inl rfl) (.inl rfl)
  exact h.of_record rfl rfl rfl rfl (.inl rfl) (.inr (.inl rfl))

variable {record : StagingRecord}

lemma fits_of_ofJson {text : Bytes} (h : StagingRecord.ofJson text = some record) : record.Fits := by
  rw [StagingRecord.ofJson] at h
  split_ifs at h
  split at h
  · contradiction
  · split at h
    · contradiction
    · split_ifs at h with ha
      obtain rfl := Option.some.inj h
      simp only [StagingRecord.accepts, Bool.and_eq_true, beq_iff_eq, decide_eq_true_eq] at ha
      exact ⟨ha.2.1.2, ha.2.2⟩

lemma bindRecordPath_eq_some {samePath : Bool → Bytes → Bytes → Bool} {supplied configured path : Bytes}
    {directory : Bool} (h : bindRecordPath samePath supplied configured directory = some path) :
    path = [] ∨ path = configured := by
  rw [bindRecordPath] at h
  split_ifs at h with he
  · obtain rfl := Option.some.inj h
    exact .inl (List.isEmpty_iff.mp he)
  · exact .inr (Option.some.inj h).symm

lemma bound_of_bindRecord {samePath : Bool → Bytes → Bytes → Bool} {loaded : StagingRecord}
    (hf : loaded.Fits) (h : bindRecord samePath system.controller.config loaded = some record) :
    (system.setRecord record).Bound := by
  simp only [bindRecord, Option.bind_eq_bind, Option.bind_eq_some_iff, Option.pure_def, Option.some.injEq] at h
  obtain ⟨stagedPackagePath, hp, backupPath, hb, rfl⟩ := h
  exact ⟨⟨hf.schema, hf.staged⟩, bindRecordPath_eq_some hp, bindRecordPath_eq_some hb⟩

lemma Bound.resume (h : (system.setRecord record).Bound) : (system.resume calls record).system.Bound := by
  rw [System.resume]
  dsimp only
  split_ifs
  any_goals exact h
  all_goals exact ⟨⟨h.fits.schema, h.fits.staged⟩, h.package, h.backup⟩

lemma Bound.loadRecord (h : system.Bound) (samePath : Bool → Bytes → Bytes → Bool) (content : Bytes) :
    (system.loadRecord samePath calls content).system.Bound := by
  rw [System.loadRecord]
  split
  · exact h
  · split
    · exact h
    · rename_i loaded hl
      split
      · exact h
      · rename_i record hr
        split
        · exact h
        · exact (bound_of_bindRecord (fits_of_ofJson hl) hr).resume calls

lemma Bound.init (h : system.Bound) (samePath : Bool → Bytes → Bytes → Bool) :
    (system.init samePath calls).system.Bound := by
  rw [System.init.eq_def]
  split
  · exact h
  · split
    · exact h
    · split
      · exact ⟨⟨rfl, UInt64.le_refl _⟩, .inl rfl, .inl rfl⟩
      · split
        · exact h
        · split
          · exact h
          · exact h.loadRecord calls samePath _

lemma Bound.saveRecordToDisk (h : system.Bound) : (system.saveRecordToDisk calls).Bound := by
  rw [System.saveRecordToDisk]
  split
  · exact h
  · split
    · exact h.withDisk _
    · exact h

end Bound

/-- **Every operation keeps the record bound**, up to its save. -/
theorem Bound.outcome {system : System} (h : system.Bound) (environment : Environment) (calls : Calls)
    (operation : Operation) : (operation.outcome environment calls system).system.Bound := by
  cases operation with
  | init => exact h.init calls _
  | setDeferred reason => exact h.of_record rfl rfl rfl rfl (.inl rfl) (.inl rfl)
  | beginStaging manifest currentVersion isExamActive => exact h.beginStaging calls manifest currentVersion isExamActive
  | appendChunk chunk => exact h.appendChunk calls chunk
  | finalizeStaging => exact h.finalizeStaging calls _
  | abortStaging reason => exact h.abortStaging calls reason
  | applyStagedUpdate name => exact h.applyStagedUpdate calls name
  | commitUpdate => exact h.commitUpdate calls
  | rollbackUpdate => exact h.rollbackUpdate calls

/-- **The record is bound in every reachable state.** -/
theorem Reachable.bound {environment : Environment} {system : System} (h : Reachable environment system) :
    system.Bound := by
  induction h with
  | start config disk => exact ⟨⟨rfl, UInt64.le_refl _⟩, .inl rfl, .inl rfl⟩
  | run _ calls operation ih =>
    rw [System.run, Outcome.finish]
    split
    · exact (ih.outcome environment calls operation).saveRecordToDisk calls
    · exact ih.outcome environment calls operation
  | restart _ ih => exact ⟨⟨rfl, UInt64.le_refl _⟩, .inl rfl, .inl rfl⟩

end System

/-! ## A save that stops -/

/-- What a start makes of a record: a download that was interrupted has failed. -/
def StagingRecord.interrupted (record : StagingRecord) : StagingRecord :=
  if record.currentState = .downloading then
    { record with currentState := .failed, lastError := literal "Download interrupted by system restart" }
  else record

/-- The record that a start finds among the files. -/
def Disk.savedRecord (disk : Disk) : Option StagingRecord :=
  match disk.record with
  | none => some {}
  | some text => StagingRecord.ofJson text

/-- The next start after a process has stopped with so many bytes of a text in the file of the record. -/
def Outcome.afterCrash (samePath : Bool → Bytes → Bytes → Bool) (outcome : Outcome) (text : Bytes) (kept : ℕ) :
    Outcome :=
  System.init samePath {}
    ⟨{ config := outcome.system.controller.config }, { outcome.system.disk with record := some (text.take kept) }⟩

/-- The next start goes well, and has the record from before the save or the new one. -/
def Outcome.Recovers (samePath : Bool → Bytes → Bytes → Bool) (before : Disk) (outcome : Outcome) (text : Bytes)
    (kept : ℕ) : Prop :=
  (outcome.afterCrash samePath text kept).ok = true ∧
    ∃ record, (before.savedRecord = some record ∨ record = outcome.system.controller.record) ∧
      (outcome.afterCrash samePath text kept).system.controller.record = record.interrupted

/-- The paths in a record can be bound again. -/
def System.Rebinds (system : System) : Prop :=
  (system.controller.record.stagedPackagePath ≠ [] → isPlainPath system.controller.config.finalPackagePath = true) ∧
    (system.controller.record.backupPath ≠ [] → isPlainPath system.controller.config.backupDirectory = true)

section Crash

variable {samePath : Bool → Bytes → Bytes → Bool}

lemma bindRecordPath_bound (hs : ∀ directory path, samePath directory path path)
    {path configured : Bytes} (hp : path = [] ∨ path = configured) (directory : Bool) :
    (path ≠ [] → isPlainPath configured) ∧ bindRecordPath samePath path configured directory = some path ∨
      ¬ (path ≠ [] → isPlainPath configured) ∧ bindRecordPath samePath path configured directory = none := by
  by_cases he : path = []
  · subst he
    exact .inl ⟨fun h => absurd rfl h, rfl⟩
  · obtain rfl := hp.resolve_left he
    have hn : ¬ path.isEmpty := by simpa using he
    by_cases hpl : isPlainPath path
    · have hz : path.contains 0 = false := by
        simp only [isPlainPath, Bool.and_eq_true, Bool.not_eq_true'] at hpl
        exact hpl.1.1.1
      refine .inl ⟨fun _ => hpl, ?_⟩
      rw [bindRecordPath, if_neg hn, if_neg (by rw [hz, Bool.or_false]; exact hn), if_neg (by simp [hpl]),
        if_pos (hs directory path)]
    · refine .inr ⟨fun h => hpl (h he), ?_⟩
      rw [bindRecordPath, if_neg hn]
      split_ifs with hnu ho
      any_goals rfl
      exact absurd (by simpa using ho) hpl

lemma resume_interrupted (record : StagingRecord) (system : System) : (system.resume {} record).ok ∧
      (system.resume {} record).system.controller.record = record.interrupted := by
  rw [System.resume, StagingRecord.interrupted]
  dsimp only
  split
  · rw [Bool.and_false]
    exact ⟨rfl, rfl⟩
  · exact ⟨rfl, rfl⟩

lemma bindRecord_bound (hs : ∀ directory path, samePath directory path path) {system : System}
    (h : system.Bound) :
    (system.Rebinds ∧ System.bindRecord samePath system.controller.config system.controller.record =
        some system.controller.record) ∨
      (¬ system.Rebinds ∧ System.bindRecord samePath system.controller.config system.controller.record = none) := by
  rw [System.bindRecord]
  rcases bindRecordPath_bound hs h.package false with ⟨hp, hb⟩ | ⟨hp, hb⟩
  · rcases bindRecordPath_bound hs h.backup true with ⟨hba, hb'⟩ | ⟨hba, hb'⟩
    · rw [hb, hb']
      exact .inl ⟨⟨hp, hba⟩, rfl⟩
    · rw [hb, hb']
      exact .inr ⟨fun hr => hba hr.2, rfl⟩
  · rw [hb]
    exact .inr ⟨fun hr => hp hr.1, rfl⟩

/-- The next start reads the record, if it lost one byte at most. -/
lemma afterCrash_spec (hsame : ∀ directory path, samePath directory path path) {outcome : Outcome}
    (hbound : outcome.system.Bound) {text : Bytes} (htext : outcome.system.controller.record.toJson = some text)
    (kept : ℕ) : (text.length ≤ kept + 1 ∧ outcome.system.Rebinds ∧ (outcome.afterCrash samePath text kept).ok ∧
        (outcome.afterCrash samePath text kept).system.controller.record =
          outcome.system.controller.record.interrupted) ∨
      ¬ (text.length ≤ kept + 1 ∧ outcome.system.Rebinds) ∧ (outcome.afterCrash samePath text kept).ok = false := by
  rw [StagingRecord.toJson_eq] at htext
  split_ifs at htext with hsize
  obtain rfl := Option.some.inj htext
  have hread := StagingRecord.ofJson_take hbound.fits hsize kept
  have hshort : ¬ kMaximumStagingRecordBytes < (outcome.system.controller.record.jsonText.take kept).length := by
    rw [List.length_take]
    omega
  have hload : outcome.afterCrash samePath outcome.system.controller.record.jsonText kept =
      System.loadRecord samePath {} (outcome.system.controller.record.jsonText.take kept)
        ⟨{ config := outcome.system.controller.config },
          { outcome.system.disk with record := some (outcome.system.controller.record.jsonText.take kept) }⟩ := by
    rw [Outcome.afterCrash, System.init.eq_def]
    dsimp only
    rw [Bool.and_false]
    rfl
  rw [hload, System.loadRecord, if_neg hshort, hread]
  by_cases hkept : outcome.system.controller.record.jsonText.length ≤ kept + 1
  · rw [if_pos hkept]
    dsimp only
    rcases bindRecord_bound hsame hbound with ⟨hrebi, hbind⟩ | ⟨hrebi, hbind⟩
    · rw [hbind]
      exact .inl ⟨hkept, hrebi, resume_interrupted _ _⟩
    · rw [hbind]
      exact .inr ⟨fun h => hrebi h.2, rfl⟩
  · rw [if_neg hkept]
    exact .inr ⟨fun h => hkept h.1, rfl⟩

end Crash

/-- **A save that stops is recovered from exactly if no more than the line feed at the end of the text is missing**
and the configured paths are such that a record may name them. -/
theorem recovers_iff {environment : Environment} (hsame : ∀ directory path, environment.samePath directory path path = true)
    {system : System} (hreachable : system.Reachable environment) (calls : Calls) (operation : Operation)
    (_hsaves : (operation.outcome environment calls system).saves = true) {text : Bytes}
    (htext : (operation.outcome environment calls system).system.controller.record.toJson = some text) (kept : ℕ) :
    (operation.outcome environment calls system).Recovers environment.samePath system.disk text kept ↔
      text.length ≤ kept + 1 ∧ (operation.outcome environment calls system).system.Rebinds := by
  have hbound := hreachable.bound.outcome environment calls operation
  rw [Outcome.Recovers]
  rcases afterCrash_spec hsame hbound htext kept with ⟨hkept, hrebinds, hok, hrecord⟩ | ⟨hnot, hok⟩
  · exact ⟨fun _ => ⟨hkept, hrebinds⟩, fun _ => ⟨hok, _, .inr rfl, hrecord⟩⟩
  · rw [hok]
    exact ⟨fun h => absurd h.1 (by decide), fun h => absurd h hnot⟩

/-- A fresh controller, with its directories where they are by default. -/
def freshSystem : System :=
  ⟨{ config := ⟨literal "C:\\NSTU\\Staging", literal "C:\\NSTU\\Client", literal "C:\\NSTU\\Backup"⟩ }, {}⟩

/-- What the deferral of an update saves there. -/
def deferral : Outcome := freshSystem.setDeferred {} (literal "rollout")

lemma exports_deferral : deferral.system.controller.record.toJson = some deferral.system.controller.record.jsonText := by
  decide +kernel

/-- A deferral whose save is not cut short. -/
theorem recovers_deferral :
    deferral.Recovers (fun _ path other => path == other) {} deferral.system.controller.record.jsonText
        (deferral.system.controller.record.jsonText).length ↔
      (deferral.system.controller.record.jsonText).length ≤ (deferral.system.controller.record.jsonText).length + 1 ∧
        deferral.system.Rebinds :=
  @recovers_iff ⟨fun _ => .zero 32, fun _ path other => path == other⟩ (by simp) freshSystem
    (.start freshSystem.controller.config {}) {} (.setDeferred (literal "rollout")) rfl _ exports_deferral _

/-- A deferral that stops when its file is empty: the record that was there before is not back, and the start
fails. -/
theorem emptied_record_blocks :
    ¬ deferral.Recovers (fun _ path other => path == other) {} deferral.system.controller.record.jsonText 0 := by
  rintro ⟨hok, -⟩
  exact absurd hok (by decide +kernel)

end Nstu.Update
