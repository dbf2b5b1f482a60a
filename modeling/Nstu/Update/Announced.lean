import Nstu.Update.Installation

/-!
# The announced package

What is promoted is a file, what is compared with the manifest is a hash that was taken from memory, and what says
that they belong together is a record that is saved apart from both.  `Download` keeps beside the system the
manifest whose staging has begun, and the one whose staging was finalized last.

A step is sound if the file gets what the hash gets, and if no finalization leaves the record of another package
behind (`Sound`).  After sound steps only the announced package is applied (`applied_of_run`).
-/

namespace Nstu.Update

open Wire CType Text JsonText

namespace StagingRecord

/-- The update of the record may be applied. -/
def Ready (record : StagingRecord) : Prop :=
  record.currentState = .staged ∨ record.currentState = .applyPendingReboot

/-- The package has the length and the digest of the record. -/
def Describes (sha256 : Bytes → Digest) (record : StagingRecord) (package : Bytes) : Prop :=
  package.length = record.expectedBytes.toNat ∧
    toLower (System.hexText (sha256 package)) = toLower record.targetSha256Hex

/-- The record has the length and the digest of the manifest. -/
def Announces (record : StagingRecord) (manifest : UpdateManifest) : Prop :=
  record.expectedBytes = manifest.byteLength ∧
    toLower record.targetSha256Hex = toLower manifest.sha256Hex

/-- If the record is ready, it has length and digest of the manifest that was finalized last, and of the package
that there is. -/
def Consistent (sha256 : Bytes → Digest) (finalized : Option UpdateManifest) (package : Option Bytes)
    (record : StagingRecord) : Prop :=
  record.Ready → (∃ manifest, finalized = some manifest ∧ record.Announces manifest) ∧
    ∀ content, package = some content → record.Describes sha256 content

/-- The record of a package that has been staged. -/
def stagedRecord (calls : Calls) (config : UpdateStagingConfig) (record : StagingRecord) : StagingRecord :=
  { record with
    stagedPackagePath := config.finalPackagePath
    currentState := if record.requiresReboot then .applyPendingReboot else .staged
    lastError := []
    stateTimestampUtc := calls.now }

section Consistent

variable {sha256 : Bytes → Digest} {finalized : Option UpdateManifest} {package package' : Option Bytes}
  {record record' : StagingRecord}

lemma consistent_of_not_ready (h : ¬ record.Ready) : record.Consistent sha256 finalized package :=
  fun hr => absurd hr h

lemma Consistent.congr (h : record.Consistent sha256 finalized package)
    (hstate : record'.currentState = record.currentState) (hexpe : record'.expectedBytes = record.expectedBytes)
    (htarg : record'.targetSha256Hex = record.targetSha256Hex)
    (hpack : package' = none ∨ package' = package) : record'.Consistent sha256 finalized package' := by
  intro hready
  rw [Ready, hstate] at hready
  obtain ⟨⟨manifest, hfina, hleng, hdige⟩, hdesc⟩ := h hready
  refine ⟨⟨manifest, hfina, hexpe.trans hleng, by rw [htarg]; exact hdige⟩, fun content hcont => ?_⟩
  rcases hpack with hnone | hsame
  · rw [hnone] at hcont
    contradiction
  · rw [Describes, hexpe, htarg]
    exact hdesc content (hsame.symm.trans hcont)

end Consistent

end StagingRecord

namespace System

/-- The record that a start takes from the file. -/
def startRecord (samePath : Bool → Bytes → Bytes → Bool) (system : System) : Option StagingRecord :=
  system.disk.record.bind fun content =>
    if kMaximumStagingRecordBytes < content.length then none
    else (StagingRecord.ofJson content).bind (bindRecord samePath system.controller.config)

/-- A download is going on. -/
def Streams (system : System) : Prop :=
  system.controller.record.currentState = .downloading ∧ system.controller.isStreaming = true ∧
    system.controller.hashed.isSome = true

/-- A chunk is taken. -/
structure Appends (calls : Calls) (chunk : Bytes) (system : System) : Prop where
  streams : system.Streams
  room : chunk.length ≤ (system.controller.record.expectedBytes - system.controller.record.stagedBytes).toNat
  openPart : calls.fails .openPart = false
  writePart : calls.fails .writePart = false
  hashData : calls.fails .hashData = false

/-- A package is staged. -/
structure Finalizes (sha256 : Bytes → Digest) (calls : Calls) (system : System) : Prop where
  streams : system.Streams
  whole : system.controller.record.stagedBytes = system.controller.record.expectedBytes
  finishHash : calls.fails .finishHash = false
  digest : toLower (hexText (sha256 (system.controller.hashed.getD []))) =
    toLower system.controller.record.targetSha256Hex
  removes : (calls.fails .existsPackage || (system.disk.package.isSome && calls.fails .removePackage)) = false
  renames : (calls.fails .renamePart || system.disk.part.isNone) = false

end System

/-! ## Downloads -/

/-- A system, with the manifest whose staging has begun and the one whose staging was finalized last. -/
structure Download where
  system : System
  begun : Option UpdateManifest := none
  finalized : Option UpdateManifest := none

namespace Download

def run (environment : Environment) (calls : Calls) (operation : Operation) (download : Download) : Download where
  system := download.system.run environment calls operation
  begun :=
    match operation with
    | .beginStaging manifest _ _ =>
      if (operation.outcome environment calls download.system).ok then some manifest else download.begun
    | _ => download.begun
  finalized :=
    if operation = .finalizeStaging ∧ (operation.outcome environment calls download.system).ok = true then
      download.begun
    else download.finalized

/-- A process that starts over. -/
def restart (download : Download) : Download := { download with system := download.system.restart }

/-- What steps that meet a condition lead to, with restarts in between, from a staging directory that is empty. -/
inductive Run (environment : Environment) (condition : Calls → Download → Operation → Prop) : Download → Prop where
  | start (config : UpdateStagingConfig) (active backup : Option Tree) :
      Run environment condition { system := ⟨{ config }, { active, backup }⟩ }
  | step {download : Download} (hrun : Run environment condition download) (calls : Calls) (operation : Operation)
      (hcondition : condition calls download operation) :
      Run environment condition (download.run environment calls operation)
  | restart {download : Download} (hrun : Run environment condition download) :
      Run environment condition download.restart

/-- A step that keeps the file, the hash and the record together. -/
def Sound (environment : Environment) (calls : Calls) (download : Download) : Operation → Prop
  | .appendChunk chunk =>
    -- what is flushed in vain has arrived all the same, and the hash takes all of the chunk
    download.system.Appends calls chunk →
      chunk.length < 2 ^ 32 ∧ (calls.fails .flushPart = true → chunk.length ≤ calls.written)
  | .finalizeStaging =>
    -- a record of another package that is ready does not stay in its file
    download.system.Finalizes environment.sha256 calls →
      ∀ record, download.system.startRecord environment.samePath = some record → record.Ready →
        (record.expectedBytes = download.system.controller.record.expectedBytes ∧
            toLower record.targetSha256Hex =
              toLower download.system.controller.record.targetSha256Hex) ∨
          System.opensRecord calls (download.system.setRecord
            (StagingRecord.stagedRecord calls download.system.controller.config
              download.system.controller.record)) = true
  | _ => True

end Download

/-! ## What the operations keep -/

namespace System

/-- The package and the record stay what they were, up to the state and the place of the backup; or the update is
neither received nor ready any more. -/
structure Keeps (system next : System) : Prop where
  config : next.controller.config = system.controller.config
  saved : next.disk.record = system.disk.record
  package : next.disk.package = none ∨ next.disk.package = system.disk.package
  record : (¬ next.controller.record.Ready ∧ next.controller.record.currentState ≠ .downloading) ∨
    (next.controller.record.currentState = system.controller.record.currentState ∧
      next.controller.record.expectedBytes = system.controller.record.expectedBytes ∧
      next.controller.record.targetSha256Hex = system.controller.record.targetSha256Hex ∧
      (next.controller.hashed = none ∨ (next.controller.hashed = system.controller.hashed ∧
          next.controller.isStreaming = system.controller.isStreaming ∧
          next.controller.record.stagedBytes = system.controller.record.stagedBytes ∧
          next.disk.part = system.disk.part)))

section Keeps

variable {system next last : System} (calls : Calls)

lemma Keeps.refl (system : System) : Keeps system system :=
  ⟨rfl, rfl, .inr rfl, .inr ⟨rfl, rfl, rfl, .inr ⟨rfl, rfl, rfl, rfl⟩⟩⟩

lemma Keeps.trans (h : Keeps system next) (h' : Keeps next last) : Keeps system last where
  config := h'.config.trans h.config
  saved := h'.saved.trans h.saved
  package := by
    rcases h'.package with hnone | hsame
    · exact .inl hnone
    · rw [hsame]
      exact h.package
  record := by
    rcases h'.record with hquiet | ⟨hstate, hexpe, htarg, hstre⟩
    · exact .inl hquiet
    · rcases h.record with ⟨hready, hdown⟩ | ⟨hstate', hexpe', htarg', hstre'⟩
      · refine .inl ⟨fun hlast => hready ?_, by rw [hstate]; exact hdown⟩
        rw [StagingRecord.Ready, hstate] at hlast
        exact hlast
      · refine .inr ⟨hstate.trans hstate', hexpe.trans hexpe', htarg.trans htarg', ?_⟩
        rcases hstre with hnone | ⟨hhash, hstrea, hstag, hpart⟩
        · exact .inl hnone
        · rw [hhash, hstrea, hstag, hpart]
          exact hstre'

lemma keeps_of_eq (hc : next.controller.config = system.controller.config)
    (hs : next.disk.record = system.disk.record)
    (hp : next.disk.package = none ∨ next.disk.package = system.disk.package)
    (hst : next.controller.record.currentState = system.controller.record.currentState)
    (he : next.controller.record.expectedBytes = system.controller.record.expectedBytes)
    (ht : next.controller.record.targetSha256Hex = system.controller.record.targetSha256Hex)
    (hstr : next.controller.hashed = none ∨ (next.controller.hashed = system.controller.hashed ∧
        next.controller.isStreaming = system.controller.isStreaming ∧
        next.controller.record.stagedBytes = system.controller.record.stagedBytes ∧
        next.disk.part = system.disk.part)) : Keeps system next :=
  ⟨hc, hs, hp, .inr ⟨hst, he, ht, hstr⟩⟩

lemma keeps_of_state (state : UpdateState)
    (hq : state ≠ .staged ∧ state ≠ .applyPendingReboot ∧ state ≠ .downloading)
    (hc : next.controller.config = system.controller.config) (hs : next.disk.record = system.disk.record)
    (hp : next.disk.package = none ∨ next.disk.package = system.disk.package)
    (hst : next.controller.record.currentState = state) : Keeps system next := by
  refine ⟨hc, hs, hp, .inl ?_⟩
  rw [StagingRecord.Ready, hst]
  exact ⟨fun h => h.elim hq.1 hq.2.1, hq.2.2⟩

lemma keeps_abortStaging (reason : Bytes) : Keeps system (system.abortStaging calls reason).system :=
  keeps_of_state .failed (by decide) rfl rfl (.inr rfl) rfl

lemma keeps_recoverApply : Keeps system (system.recoverApply calls).system := by
  rw [recoverApply]
  dsimp only
  split_ifs
  any_goals exact .refl system
  exact keeps_of_eq rfl rfl (.inr rfl) rfl rfl rfl (.inr ⟨rfl, rfl, rfl, rfl⟩)

lemma keeps_promote (name package : Bytes) : Keeps system (system.promote calls name package).system := by
  rw [promote]
  split
  · exact keeps_recoverApply calls
  · split
    · refine Keeps.trans ?_ (keeps_recoverApply calls)
      exact keeps_of_eq rfl rfl (.inr rfl) rfl rfl rfl (.inr ⟨rfl, rfl, rfl, rfl⟩)
    · exact keeps_of_state .validating (by decide) rfl rfl (.inr rfl) rfl

lemma keeps_backUpAndPromote (name package : Bytes) :
    Keeps system (system.backUpAndPromote calls name package).system := by
  rw [backUpAndPromote]
  split
  · exact keeps_recoverApply calls
  · split
    · exact keeps_promote calls name package
    · split
      · exact keeps_recoverApply calls
      · refine Keeps.trans ?_ (keeps_promote calls name package)
        exact keeps_of_eq rfl rfl (.inr rfl) rfl rfl rfl (.inr ⟨rfl, rfl, rfl, rfl⟩)

lemma keeps_withBackup (backup : Option Tree) : Keeps system { system with disk := { system.disk with backup } } :=
  keeps_of_eq rfl rfl (.inr rfl) rfl rfl rfl (.inr ⟨rfl, rfl, rfl, rfl⟩)

lemma keeps_applyStagedUpdate (name : Bytes) : Keeps system (system.applyStagedUpdate calls name).system := by
  rw [applyStagedUpdate.eq_def]
  dsimp only
  split
  · exact .refl system
  · split
    · exact keeps_recoverApply calls
    · split
      · exact .refl system
      · split
        · exact .refl system
        · split
          · exact keeps_backUpAndPromote calls name _
          · split
            · exact keeps_recoverApply calls
            · split
              · exact (keeps_withBackup _).trans (keeps_recoverApply calls)
              · exact (keeps_withBackup none).trans (keeps_backUpAndPromote calls name _)

lemma keeps_finishCommit : Keeps system (system.finishCommit calls).system := by
  rw [finishCommit]
  dsimp only
  split
  · exact keeps_of_eq rfl rfl (.inr rfl) rfl rfl rfl (.inr ⟨rfl, rfl, rfl, rfl⟩)
  · exact keeps_of_state .committed (by decide) rfl rfl (ite_eq_or_eq _ _ _) rfl

lemma keeps_commitUpdate : Keeps system (system.commitUpdate calls).system := by
  rw [commitUpdate]
  dsimp only
  split_ifs
  · exact .refl system
  · exact .refl system
  · exact keeps_finishCommit calls
  · exact keeps_withBackup _
  · exact (keeps_withBackup none).trans (keeps_finishCommit calls)

lemma keeps_rollbackUpdate : Keeps system (system.rollbackUpdate calls).system := by
  rw [rollbackUpdate]
  dsimp only
  split_ifs
  · exact .refl system
  any_goals exact keeps_of_state .failed (by decide) rfl rfl (.inr rfl) rfl
  exact keeps_of_state .rollingBack (by decide) rfl rfl (.inr rfl) rfl

/-- Staging is refused, or starts with this manifest. -/
lemma beginStaging_cases (manifest : UpdateManifest) (currentVersion : SemanticVersion) (isExamActive : Bool) :
    ((system.beginStaging calls manifest currentVersion isExamActive).ok = false ∧
        Keeps system (system.beginStaging calls manifest currentVersion isExamActive).system) ∨
      ((system.beginStaging calls manifest currentVersion isExamActive).ok ∧
        (system.beginStaging calls manifest currentVersion isExamActive).system =
          { controller := { system.controller with
              record := downloadRecord calls manifest currentVersion system.controller
              hashed := some []
              isStreaming := true }
            disk := { system.disk with part := none, package := none } }) := by
  rw [beginStaging]
  dsimp only
  split_ifs
  · exact .inl ⟨rfl, .refl system⟩
  any_goals exact .inl ⟨rfl, keeps_of_eq rfl rfl (.inr rfl) rfl rfl rfl (.inl rfl)⟩
  any_goals exact .inl ⟨rfl, keeps_of_eq rfl rfl (.inl rfl) rfl rfl rfl (.inl rfl)⟩
  exact .inr ⟨rfl, rfl⟩

/-- A chunk is refused, or joins the package. -/
lemma appendChunk_cases (chunk : Bytes) : Keeps system (system.appendChunk calls chunk).system ∨
      (system.Appends calls chunk ∧ (system.appendChunk calls chunk).system =
        { controller := { system.controller with
            record := { system.controller.record with
              stagedBytes := system.controller.record.stagedBytes + UInt64.ofNat chunk.length }
            hashed := some (system.controller.hashed.getD [] ++ chunk.take (chunk.length % 2 ^ 32)) }
          disk := { system.disk with part := some (system.disk.part.getD [] ++
            if calls.fails .flushPart then chunk.take calls.written else chunk) } }) := by
  rw [appendChunk.eq_def]
  dsimp only
  split
  · exact .inl (.refl system)
  · rename_i hashed hh
    split
    · exact .inl (.refl system)
    · rename_i hs
      split
      · exact .inl (keeps_abortStaging calls _)
      · rename_i hr
        split
        · exact .inl (keeps_abortStaging calls _)
        · rename_i ho
          split
          · exact .inl (keeps_of_state .failed (by decide) rfl rfl (.inr rfl) rfl)
          · rename_i hw
            split
            · exact .inl (keeps_of_state .failed (by decide) rfl rfl (.inr rfl) rfl)
            · rename_i hha
              simp only [Bool.or_eq_true, decide_eq_true_eq, Bool.not_eq_true', not_or, not_not,
                Bool.not_eq_false] at hs
              refine .inr ⟨⟨⟨hs.1, hs.2, by rw [hh]; rfl⟩, by omega, by simpa using ho,
                by simpa using hw, by simpa using hha⟩, ?_⟩
              rw [hh, Bool.eq_false_of_not_eq_true hw, Bool.false_or]
              rfl

/-- Finalising fails, or finds the announced digest. -/
lemma finalizeStaging_cases (sha256 : Bytes → Digest) : ((system.finalizeStaging sha256 calls).ok = false ∧
        Keeps system (system.finalizeStaging sha256 calls).system) ∨
      ((system.finalizeStaging sha256 calls).ok ∧ (system.finalizeStaging sha256 calls).saves ∧
        system.Finalizes sha256 calls ∧
        (system.finalizeStaging sha256 calls).system =
          { controller := { system.controller with
              record := StagingRecord.stagedRecord calls system.controller.config system.controller.record
              hashed := none
              isStreaming := false }
            disk := { system.disk with part := none, package := system.disk.part } }) := by
  rw [finalizeStaging.eq_def]
  dsimp only
  split
  · exact .inl ⟨rfl, .refl system⟩
  · rename_i hashed hhash
    split
    · exact .inl ⟨rfl, .refl system⟩
    · rename_i hstre
      have hfail : ∀ next : System, next.controller.config = system.controller.config →
          next.disk.record = system.disk.record →
          (next.disk.package = none ∨ next.disk.package = system.disk.package) →
          ∀ reason error message, error ≠ UpdateStagingError.ok →
            (next.abortWith calls reason error message).ok = false ∧
              Keeps system (next.abortWith calls reason error message).system := by
        intro next hconf hsaved hpack reason error message herror
        refine ⟨?_, keeps_of_state .failed (by decide) hconf hsaved hpack rfl⟩
        cases error with
        | ok => exact absurd rfl herror
        | _ => rfl
      split
      · exact .inl (hfail system rfl rfl (.inr rfl) _ _ _ (by decide))
      · rename_i hwhole
        split
        · exact .inl (hfail system rfl rfl (.inr rfl) _ _ _ (by decide))
        · rename_i hfini
          split
          · exact .inl (hfail system.cleanupHashContext rfl rfl (.inr rfl) _ _ _ (by decide))
          · rename_i hdige
            split
            · exact .inl (hfail system.cleanupHashContext rfl rfl (.inr rfl) _ _ _ (by decide))
            · rename_i hremo
              split
              · exact .inl (hfail { system.cleanupHashContext with disk := { system.disk with package := none } }
                  rfl rfl (.inl rfl) _ .ioError _ (by decide))
              · rename_i hrena
                simp only [Bool.or_eq_true, decide_eq_true_eq, Bool.not_eq_true', not_or, not_not,
                  Bool.not_eq_false] at hstre
                refine .inr ⟨rfl, rfl, ⟨⟨hstre.1, hstre.2, by rw [hhash]; rfl⟩, not_not.mp hwhole,
                  by simpa using hfini, by rw [hhash]; exact not_not.mp hdige, Bool.eq_false_of_not_eq_true hremo,
                  Bool.eq_false_of_not_eq_true hrena⟩, rfl⟩

/-- A start keeps the system, or takes the record. -/
lemma init_cases (samePath : Bool → Bytes → Bytes → Bool) : Keeps system (system.init samePath calls).system ∨
      ∃ record, system.startRecord samePath = some record ∧ record.currentState ≠ .downloading ∧
        (system.init samePath calls).system = system.setRecord record := by
  rw [init.eq_def]
  split
  · exact .inl (.refl system)
  · split
    · exact .inl (.refl system)
    · split
      · exact .inl (keeps_of_state .idle (by decide) rfl rfl (.inr rfl) rfl)
      · rename_i content hc
        split
        · exact .inl (.refl system)
        · split
          · exact .inl (.refl system)
          · rw [loadRecord]
            split
            · exact .inl (.refl system)
            · rename_i hs
              split
              · exact .inl (.refl system)
              · rename_i loaded hl
                split
                · exact .inl (.refl system)
                · rename_i record hr
                  split
                  · exact .inl (.refl system)
                  · rw [resume]
                    dsimp only
                    split
                    · split
                      · exact .inl (keeps_of_state .failed (by decide) rfl rfl (.inr rfl) rfl)
                      · exact .inl (keeps_of_state .failed (by decide) rfl rfl (.inr rfl) rfl)
                    · rename_i hst
                      refine .inr ⟨record, ?_, hst, rfl⟩
                      rw [startRecord, hc, Option.bind_some, if_neg hs, hl]
                      exact hr

lemma startRecord_saved {samePath : Bool → Bytes → Bytes → Bool} (hbound : system.Bound) {record : StagingRecord}
    (h : (system.saveRecordToDisk calls).startRecord samePath = some record) :
    (opensRecord calls system = false ∧ system.startRecord samePath = some record) ∨
      (record.currentState = system.controller.record.currentState ∧
        record.expectedBytes = system.controller.record.expectedBytes ∧
        record.targetSha256Hex = system.controller.record.targetSha256Hex) := by
  rw [saveRecordToDisk] at h
  split at h
  · rename_i hjson
    exact .inl ⟨by rw [opensRecord, hjson]; rfl, h⟩
  · rename_i text htext
    split at h
    · refine .inr ?_
      rw [StagingRecord.toJson_eq] at htext
      split_ifs at htext with hsize
      obtain rfl := Option.some.inj htext
      have hread : ∀ kept, startRecord samePath { system with disk := { system.disk with
          record := some (system.controller.record.jsonText.take kept) } } = some record →
            record.currentState = system.controller.record.currentState ∧
              record.expectedBytes = system.controller.record.expectedBytes ∧
              record.targetSha256Hex = system.controller.record.targetSha256Hex := by
        intro kept hkept
        rw [startRecord, Option.bind_some, StagingRecord.ofJson_take hbound.fits hsize kept] at hkept
        split_ifs at hkept with hlong hall
        · rw [Option.bind_some] at hkept
          simp only [bindRecord, Option.bind_eq_bind, Option.bind_eq_some_iff, Option.pure_def,
            Option.some.injEq] at hkept
          obtain ⟨_, -, _, -, rfl⟩ := hkept
          exact ⟨rfl, rfl, rfl⟩
        · rw [Option.bind_none] at hkept
          contradiction
      dsimp only at h
      split at h
      · exact hread calls.saved h
      · exact hread system.controller.record.jsonText.length (by rw [List.take_length]; exact h)
    · rename_i hopens
      exact .inl ⟨Bool.eq_false_of_not_eq_true hopens, h⟩

end Keeps

end System

/-! ## The invariant -/

namespace Download

structure Inv (environment : Environment) (download : Download) : Prop where
  bound : download.system.Bound
  memory : download.system.controller.record.Consistent environment.sha256 download.finalized
    download.system.disk.package
  /-- The same of the record that the next start takes. -/
  saved : ∀ record, download.system.startRecord environment.samePath = some record →
    record.Consistent environment.sha256 download.finalized download.system.disk.package
  /-- While chunks are received, the file has what the hash has taken, and the record is of what has begun. -/
  streaming : download.system.Streams →
    download.system.disk.part.getD [] = download.system.controller.hashed.getD [] ∧
      (download.system.controller.hashed.getD []).length = download.system.controller.record.stagedBytes.toNat ∧
        ∃ manifest, download.begun = some manifest ∧
          download.system.controller.record.expectedBytes = manifest.byteLength ∧
          download.system.controller.record.targetSha256Hex = manifest.sha256Hex

section Steps

variable {environment : Environment} {calls : Calls} {download : Download}

lemma Inv.keeps (hinv : download.Inv environment) {next : System} (h : System.Keeps download.system next)
    (hbound : next.Bound) : Inv environment { download with system := next } where
  bound := hbound
  memory := by
    rcases h.record with ⟨hready, -⟩ | ⟨hstate, hexpe, htarg, -⟩
    · exact StagingRecord.consistent_of_not_ready hready
    · exact hinv.memory.congr hstate hexpe htarg h.package
  saved := by
    intro record hreco
    rw [System.startRecord, h.saved, h.config] at hreco
    exact (hinv.saved record hreco).congr rfl rfl rfl h.package
  streaming := by
    intro hstre
    rcases h.record with ⟨-, hdown⟩ | ⟨hstate, hexpe, htarg, hstrea⟩
    · exact absurd hstre.1 hdown
    · rcases hstrea with hnone | ⟨hhash, hstreami, hstag, hpart⟩
      · have hsome := hstre.2.2
        rw [hnone] at hsome
        contradiction
      · dsimp only
        rw [hpart, hhash, hstag, hexpe, htarg]
        refine hinv.streaming ⟨hstate.symm.trans hstre.1, hstreami.symm.trans hstre.2.1, ?_⟩
        rw [← hhash]
        exact hstre.2.2

lemma finish_eq (outcome : Outcome) : ∃ record, outcome.finish calls = outcome.system.withRecord record := by
  rw [Outcome.finish]
  split
  · exact System.saveRecordToDisk_eq calls outcome.system
  · exact ⟨outcome.system.disk.record, rfl⟩

lemma startRecord_finish {samePath : Bool → Bytes → Bytes → Bool} {outcome : Outcome} (hb : outcome.system.Bound)
    {record : StagingRecord} (h : (outcome.finish calls).startRecord samePath = some record) :
    ((outcome.saves → System.opensRecord calls outcome.system = false) ∧
        outcome.system.startRecord samePath = some record) ∨
      (record.currentState = outcome.system.controller.record.currentState ∧
        record.expectedBytes = outcome.system.controller.record.expectedBytes ∧
        record.targetSha256Hex = outcome.system.controller.record.targetSha256Hex) := by
  rw [Outcome.finish] at h
  split at h
  · rcases System.startRecord_saved calls hb h with ⟨ho, hbe⟩ | hs
    · exact .inl ⟨fun _ => ho, hbe⟩
    · exact .inr hs
  · rename_i hsa
    exact .inl ⟨fun hs' => absurd hs' hsa, h⟩

/-- The save that ends an operation.  What it writes is the record in force; what it leaves in the file has to agree
with what there is. -/
lemma inv_finish {outcome : Outcome} {begun finalized : Option UpdateManifest} (hbound : outcome.system.Bound)
    (hmemo : outcome.system.controller.record.Consistent environment.sha256 finalized outcome.system.disk.package)
    (hsaved : (outcome.saves → System.opensRecord calls outcome.system = false) →
      ∀ record, outcome.system.startRecord environment.samePath = some record →
        record.Consistent environment.sha256 finalized outcome.system.disk.package)
    (hstre : outcome.system.Streams →
      outcome.system.disk.part.getD [] = outcome.system.controller.hashed.getD [] ∧
        (outcome.system.controller.hashed.getD []).length = outcome.system.controller.record.stagedBytes.toNat ∧
          ∃ manifest, begun = some manifest ∧ outcome.system.controller.record.expectedBytes = manifest.byteLength ∧
            outcome.system.controller.record.targetSha256Hex = manifest.sha256Hex) :
    Inv environment ⟨outcome.finish calls, begun, finalized⟩ := by
  have hstart := fun record => @startRecord_finish calls environment.samePath outcome hbound record
  obtain ⟨content, hfini⟩ := @finish_eq calls outcome
  rw [hfini] at hstart ⊢
  refine ⟨hbound.withDisk _, hmemo, fun record hreco => ?_, hstre⟩
  rcases hstart record hreco with ⟨hopens, hbefo⟩ | ⟨hstate, hexpe, htarg⟩
  · exact hsaved hopens record hbefo
  · exact hmemo.congr hstate hexpe htarg (.inr rfl)

lemma Inv.finish {outcome : Outcome} {begun finalized : Option UpdateManifest}
    (h : Inv environment ⟨outcome.system, begun, finalized⟩) :
    Inv environment ⟨outcome.finish calls, begun, finalized⟩ :=
  inv_finish h.bound h.memory (fun _ => h.saved) h.streaming

lemma inv_run_of_keeps (hi : download.Inv environment) {operation : Operation}
    (h : System.Keeps download.system (operation.outcome environment calls download.system).system)
    (hb : (download.run environment calls operation).begun = download.begun)
    (hf : (download.run environment calls operation).finalized = download.finalized) :
    (download.run environment calls operation).Inv environment := by
  have hn : Inv environment ⟨(operation.outcome environment calls download.system).finish calls,
      download.begun, download.finalized⟩ :=
    Inv.finish (hi.keeps h (hi.bound.outcome environment calls operation))
  rw [← hb, ← hf] at hn
  exact hn

lemma finalized_run {operation : Operation} (h : operation ≠ .finalizeStaging) :
    (download.run environment calls operation).finalized = download.finalized :=
  if_neg fun hb => h hb.1

lemma inv_begin (hi : download.Inv environment) (manifest : UpdateManifest) (currentVersion : SemanticVersion)
    (isExamActive : Bool) :
    (download.run environment calls (.beginStaging manifest currentVersion isExamActive)).Inv environment := by
  rcases @System.beginStaging_cases download.system calls manifest currentVersion isExamActive with
    ⟨ho, hk⟩ | ⟨ho, hs⟩
  · refine inv_run_of_keeps hi hk ?_ (finalized_run (by simp))
    change (if (download.system.beginStaging calls manifest currentVersion isExamActive).ok then some manifest
      else download.begun) = download.begun
    rw [ho]
    rfl
  · have hb := hi.bound.beginStaging calls manifest currentVersion isExamActive
    have hn : Inv environment ⟨(download.system.beginStaging calls manifest currentVersion isExamActive).finish calls,
        some manifest, download.finalized⟩ := by
      refine Inv.finish ⟨hb, ?_, ?_, ?_⟩
      all_goals rw [hs]
      · exact StagingRecord.consistent_of_not_ready (by simp [StagingRecord.Ready, System.downloadRecord])
      · exact fun record hr => (hi.saved record hr).congr rfl rfl rfl (.inl rfl)
      · exact fun _ => ⟨rfl, rfl, manifest, rfl, rfl, rfl⟩
    have hbe : (download.run environment calls (.beginStaging manifest currentVersion isExamActive)).begun =
        some manifest := by
      change (if (download.system.beginStaging calls manifest currentVersion isExamActive).ok then some manifest
        else download.begun) = some manifest
      rw [ho]
      rfl
    rw [← hbe] at hn
    rw [← @finalized_run environment calls download (.beginStaging manifest currentVersion isExamActive) (by simp)]
      at hn
    exact hn

lemma inv_append (hinv : download.Inv environment) (chunk : Bytes)
    (hsound : Sound environment calls download (.appendChunk chunk)) :
    (download.run environment calls (.appendChunk chunk)).Inv environment := by
  rcases @System.appendChunk_cases download.system calls chunk with hkeeps | ⟨happe, hsyst⟩
  · exact inv_run_of_keeps hinv hkeeps rfl (finalized_run (by simp))
  · obtain ⟨hsize, hflush⟩ := hsound happe
    obtain ⟨hpart, hleng, hbegun⟩ := hinv.streaming happe.streams
    have hbound := hinv.bound.appendChunk calls chunk
    have hnext : Inv environment ⟨(download.system.appendChunk calls chunk).finish calls, download.begun,
        download.finalized⟩ := by
      refine Inv.finish ⟨hbound, ?_, ?_, ?_⟩
      all_goals rw [hsyst]
      · exact hinv.memory.congr rfl rfl rfl (.inr rfl)
      · exact hinv.saved
      · intro _
        have harri : (if calls.fails .flushPart then chunk.take calls.written else chunk) = chunk := by
          split
          · exact List.take_of_length_le (hflush ‹_›)
          · rfl
        have hhash : chunk.take (chunk.length % 2 ^ 32) = chunk := by
          rw [Nat.mod_eq_of_lt hsize, List.take_length]
        have hstag : (download.system.controller.record.stagedBytes + UInt64.ofNat chunk.length).toNat =
            download.system.controller.record.stagedBytes.toNat + chunk.length := by
          have hroom := happe.room
          have hfits := UInt64.le_iff_toNat_le.mp hinv.bound.fits.staged
          have hlt := download.system.controller.record.expectedBytes.toNat_lt
          rw [UInt64.toNat_sub_of_le _ _ hinv.bound.fits.staged] at hroom
          rw [UInt64.toNat_add, UInt64.toNat_ofNat_of_lt' (by rw [UInt64.size]; omega), Nat.mod_eq_of_lt (by omega)]
        dsimp only
        rw [harri, hhash, hpart, hstag, ← hleng]
        exact ⟨rfl, List.length_append, hbegun⟩
    rw [← @finalized_run environment calls download (.appendChunk chunk) (by simp)] at hnext
    exact hnext

lemma inv_finalize (hinv : download.Inv environment) (hsound : Sound environment calls download .finalizeStaging) :
    (download.run environment calls .finalizeStaging).Inv environment := by
  have hbegun : (download.run environment calls .finalizeStaging).begun = download.begun := rfl
  have hfina : (download.run environment calls .finalizeStaging).finalized =
      if (download.system.finalizeStaging environment.sha256 calls).ok then download.begun
        else download.finalized := by
    change (if Operation.finalizeStaging = .finalizeStaging ∧
      (download.system.finalizeStaging environment.sha256 calls).ok then download.begun
        else download.finalized) = _
    simp only [true_and]
  rcases @System.finalizeStaging_cases download.system calls environment.sha256 with
    ⟨hok, hkeeps⟩ | ⟨hok, hsaves, hfinal, hsyst⟩
  · rw [hok, if_neg Bool.false_ne_true] at hfina
    exact inv_run_of_keeps hinv hkeeps hbegun hfina
  · rw [hok, if_pos rfl] at hfina
    obtain ⟨hpart, hleng, manifest, hmani, hexpe, htarg⟩ := hinv.streaming hfinal.streams
    have hbound := hinv.bound.finalizeStaging calls environment.sha256
    -- the file that has been renamed is what the hash has taken
    have hdesc : ∀ content, download.system.disk.part = some content →
        content.length = download.system.controller.record.expectedBytes.toNat ∧
          toLower (System.hexText (environment.sha256 content)) =
            toLower download.system.controller.record.targetSha256Hex := by
      intro content hcont
      rw [hcont, Option.getD_some] at hpart
      rw [hpart]
      exact ⟨by rw [hleng, hfinal.whole], hfinal.digest⟩
    have hnext : Inv environment ⟨(download.system.finalizeStaging environment.sha256 calls).finish calls,
        download.begun, download.begun⟩ := by
      refine inv_finish hbound ?_ ?_ ?_
      all_goals rw [hsyst]
      · exact fun _ => ⟨⟨manifest, hmani, hexpe, by rw [← htarg]; rfl⟩, hdesc⟩
      · intro hopens record hreco hready
        have hsame := hsound hfinal record hreco hready
        rcases hsame with ⟨hsameL, hsameD⟩ | hopen
        · refine ⟨⟨manifest, hmani, hsameL.trans hexpe, by rw [hsameD, htarg]⟩,
            fun content hcont => ?_⟩
          rw [StagingRecord.Describes, hsameL, hsameD]
          exact hdesc content hcont
        · have hclos := hopens hsaves
          exact absurd (hclos.symm.trans hopen) (by decide)
      · intro hstre
        have hsome := hstre.2.1
        contradiction
    change Inv environment ⟨(download.system.finalizeStaging environment.sha256 calls).finish calls, download.begun,
      (download.run environment calls .finalizeStaging).finalized⟩
    rw [hfina]
    exact hnext

lemma inv_init (hi : download.Inv environment) : (download.run environment calls .init).Inv environment := by
  rcases @System.init_cases download.system calls environment.samePath with
    hk | ⟨record, hr, hs, hsy⟩
  · exact inv_run_of_keeps hi hk rfl rfl
  · have hb := hi.bound.init calls environment.samePath
    have hn : Inv environment ⟨(download.system.init environment.samePath calls).finish calls, download.begun,
        download.finalized⟩ := by
      refine Inv.finish ⟨hb, ?_, ?_, ?_⟩
      all_goals rw [hsy]
      · exact hi.saved record hr
      · exact hi.saved
      · exact fun hst => absurd hst.1 hs
    exact hn

/-- **A sound step keeps the invariant.** -/
theorem inv_run (hi : download.Inv environment) {operation : Operation}
    (hs : Sound environment calls download operation) : (download.run environment calls operation).Inv environment := by
  cases operation with
  | init => exact inv_init hi
  | beginStaging manifest currentVersion isExamActive => exact inv_begin hi manifest currentVersion isExamActive
  | appendChunk chunk => exact inv_append hi chunk hs
  | finalizeStaging => exact inv_finalize hi hs
  | setDeferred reason =>
    exact inv_run_of_keeps hi (System.keeps_of_state .deferred (by decide) rfl rfl (.inr rfl) rfl) rfl rfl
  | abortStaging reason => exact inv_run_of_keeps hi (System.keeps_abortStaging calls reason) rfl rfl
  | applyStagedUpdate name => exact inv_run_of_keeps hi (System.keeps_applyStagedUpdate calls name) rfl rfl
  | commitUpdate => exact inv_run_of_keeps hi (System.keeps_commitUpdate calls) rfl rfl
  | rollbackUpdate => exact inv_run_of_keeps hi (System.keeps_rollbackUpdate calls) rfl rfl

lemma inv_restart (hi : download.Inv environment) : download.restart.Inv environment where
  bound := ⟨⟨rfl, UInt64.le_refl _⟩, .inl rfl, .inl rfl⟩
  memory := StagingRecord.consistent_of_not_ready (by simp [StagingRecord.Ready, restart, System.restart])
  saved := hi.saved
  streaming := fun hs => by cases hs.1

/-- The invariant holds along every sound run. -/
lemma inv_of_run (h : Run environment (Sound environment) download) : download.Inv environment := by
  induction h with
  | start config active backup =>
    refine ⟨⟨⟨rfl, UInt64.le_refl _⟩, .inl rfl, .inl rfl⟩,
      StagingRecord.consistent_of_not_ready (by simp [StagingRecord.Ready]), fun record hr => ?_,
      fun hs => ?_⟩
    · cases hr
    · cases hs.1
  | step _ calls operation hso ih => exact inv_run ih hso
  | restart _ ih => exact inv_restart ih

end Steps

/-! ## What is applied -/

/-- No more is staged than the manifest announces, whatever the steps. -/
theorem stagedBytes_le_of_run {environment : Environment} {condition : Calls → Download → Operation → Prop}
    {download : Download} (h : Run environment condition download) :
    download.system.controller.record.stagedBytes ≤ download.system.controller.record.expectedBytes := by
  have hr : download.system.Reachable environment := by
    induction h with
    | start config active backup => exact .start config _
    | step _ calls operation _ ih => exact ih.run calls operation
    | restart _ ih => exact ih.restart
  exact hr.bound.fits.staged

end Download

namespace System

/-- If the operation succeeds, the package is what is active, under a record of the same length and digest. -/
def Promotes (system : System) (name package : Bytes) (outcome : Outcome) : Prop :=
  outcome.ok = true → outcome.system.disk.active = some [(name, package)] ∧
    outcome.system.controller.record.expectedBytes = system.controller.record.expectedBytes ∧
    outcome.system.controller.record.targetSha256Hex = system.controller.record.targetSha256Hex

section Promotes

variable {system : System} (calls : Calls) (name package : Bytes)

lemma promotes_of_failed {outcome : Outcome} (h : outcome.ok = false) : Promotes system name package outcome :=
  fun ho => absurd (h.symm.trans ho) (by decide)

lemma ok_recoverApply : (system.recoverApply calls).ok = false := by
  rw [recoverApply]
  dsimp only
  split_ifs <;> rfl

lemma promotes_promote : Promotes system name package (system.promote calls name package) := by
  rw [promote]
  split
  · exact promotes_of_failed name package (ok_recoverApply calls)
  · split
    · exact promotes_of_failed name package (ok_recoverApply calls)
    · exact fun _ => ⟨rfl, rfl, rfl⟩

lemma promotes_backUpAndPromote : Promotes system name package (system.backUpAndPromote calls name package) := by
  rw [backUpAndPromote]
  split
  · exact promotes_of_failed name package (ok_recoverApply calls)
  · split
    · exact promotes_promote calls name package
    · split
      · exact promotes_of_failed name package (ok_recoverApply calls)
      · exact @promotes_promote system.moveActive calls name package

lemma applyStagedUpdate_ok (ho : (system.applyStagedUpdate calls name).ok) :
    system.controller.record.Ready ∧ ∃ package, system.disk.package = some package ∧
      Promotes system name package (system.applyStagedUpdate calls name) := by
  rw [applyStagedUpdate.eq_def] at ho ⊢
  dsimp only at ho ⊢
  split at ho
  · cases ho
  · rename_i hs
    rw [if_neg hs]
    refine ⟨?_, ?_⟩
    · simp only [Bool.and_eq_true, decide_eq_true_eq, not_and_or, not_not] at hs
      exact hs
    · split at ho
      · rw [ok_recoverApply] at ho
        contradiction
      · rename_i hst
        rw [if_neg hst]
        cases hp : system.disk.package with
        | none =>
          rw [hp] at ho
          cases ho
        | some package =>
          refine ⟨package, rfl, ?_⟩
          dsimp only
          split
          · exact promotes_of_failed name package rfl
          · split
            · exact promotes_backUpAndPromote calls name package
            · split
              · exact promotes_of_failed name package (ok_recoverApply calls)
              · split
                · exact promotes_of_failed name package (ok_recoverApply calls)
                · rw [← hp]
                  exact @promotes_backUpAndPromote { system with disk := { system.disk with backup := none } } calls
                    name package

end Promotes

end System

namespace Download

/-- **Only the announced package is applied.**  After sound steps, an application that succeeds puts exactly one
file into the active directory.  It has the length and the digest of the record in force, and these are those of the
manifest whose staging was finalized last. -/
theorem applied_of_run {environment : Environment} {download : Download}
    (h : Run environment (Sound environment) download) :
    download.system.controller.record.stagedBytes ≤ download.system.controller.record.expectedBytes ∧
      ∀ (calls : Calls) (name : Bytes),
        (Operation.outcome environment calls download.system (.applyStagedUpdate name)).ok = true →
          ∃ package manifest,
            (download.run environment calls (.applyStagedUpdate name)).system.disk.active = some [(name, package)] ∧
            (download.run environment calls (.applyStagedUpdate name)).system.controller.record.Describes
              environment.sha256 package ∧
            (download.run environment calls (.applyStagedUpdate name)).finalized = some manifest ∧
            (download.run environment calls (.applyStagedUpdate name)).system.controller.record.Announces manifest := by
  refine ⟨stagedBytes_le_of_run h, fun calls name hok => ?_⟩
  have hinv := inv_of_run h
  obtain ⟨hready, package, hpackage, hpromotes⟩ := System.applyStagedUpdate_ok calls name hok
  obtain ⟨hactive, hexpected, htarget⟩ := hpromotes hok
  obtain ⟨⟨manifest, hfinalized, hlength, hdigest⟩, hdescribes⟩ := hinv.memory hready
  have hrecord : (download.run environment calls (.applyStagedUpdate name)).system.controller.record =
      (download.system.applyStagedUpdate calls name).system.controller.record := by
    obtain ⟨record, hrecord⟩ := @finish_eq calls (download.system.applyStagedUpdate calls name)
    exact congrArg (·.controller.record) hrecord
  have hdisk : (download.run environment calls (.applyStagedUpdate name)).system.disk.active =
      (download.system.applyStagedUpdate calls name).system.disk.active := by
    obtain ⟨record, hrecord⟩ := @finish_eq calls (download.system.applyStagedUpdate calls name)
    exact congrArg (·.disk.active) hrecord
  refine ⟨package, manifest, hdisk.trans hactive, ?_, (finalized_run (by simp)).trans hfinalized, ?_⟩
  · rw [hrecord, StagingRecord.Describes, hexpected, htarget]
    exact hdescribes package hpackage
  · rw [hrecord, StagingRecord.Announces, hexpected, htarget]
    exact ⟨hlength, hdigest⟩

/-! ### The smallest download -/

lemma run_system {environment : Environment} {calls : Calls} {operation : Operation} {download : Download}
    {next : System} (h : (operation.outcome environment calls download.system).system = next) :
    ∃ record, (download.run environment calls operation).system = next.withRecord record := by
  rw [← h]
  exact @finish_eq calls (operation.outcome environment calls download.system)

section Bytes

variable {environment : Environment} {calls : Calls} {part : Bytes}

/-- One byte is announced. -/
def byteBegun (environment : Environment) : Download :=
  run environment {} (.beginStaging (Installation.byteManifest environment.sha256) {} false)
    { system := Installation.freshInstallation.system }

/-- The byte comes. -/
def byteReceived (environment : Environment) (calls : Calls) : Download :=
  (byteBegun environment).run environment calls (.appendChunk [2])

/-- It is all that has been announced. -/
def byteStaged (environment : Environment) (calls : Calls) : Download :=
  (byteReceived environment calls).run environment {} .finalizeStaging

lemma system_byteBegun : ∃ record, (byteBegun environment).system =
    (Installation.receivingSystem environment.sha256 [] none none).withRecord record :=
  run_system rfl

lemma system_byteReceived (ha : ∀ record, (System.appendChunk calls [2]
      (Installation.receivingSystem environment.sha256 [] none record)).system =
        Installation.receivingSystem environment.sha256 [2] (some part) record) :
    ∃ record, (byteReceived environment calls).system =
      (Installation.receivingSystem environment.sha256 [2] (some part) none).withRecord record := by
  obtain ⟨record, hr⟩ := @system_byteBegun environment
  refine @run_system environment calls (.appendChunk [2]) (byteBegun environment)
    (Installation.receivingSystem environment.sha256 [2] (some part) record) ?_
  rw [hr]
  exact ha record

lemma system_byteStaged (ha : ∀ record, (System.appendChunk calls [2]
      (Installation.receivingSystem environment.sha256 [] none record)).system =
        Installation.receivingSystem environment.sha256 [2] (some part) record) :
    ∃ record, (byteStaged environment calls).system =
      (Installation.stagedSystem environment.sha256 .applyPendingReboot [] part
        (some [(literal "nstu.exe", [1])]) none none).withRecord record := by
  obtain ⟨record, hr⟩ := system_byteReceived ha
  refine @run_system environment {} .finalizeStaging (byteReceived environment calls)
    (Installation.stagedSystem environment.sha256 .applyPendingReboot [] part
      (some [(literal "nstu.exe", [1])]) none record) ?_
  rw [hr]
  exact Installation.finalizeStaging_receiving environment.sha256 part record

/-- The end of a chunk is lost when the file is closed. -/
def lostFlush : Calls where
  fails := fun call => call == .flushPart

lemma appendChunk_lostFlush (sha256 : Bytes → Digest) (record : Option Bytes) :
    (System.appendChunk lostFlush [2] (Installation.receivingSystem sha256 [] none record)).system =
      Installation.receivingSystem sha256 [2] (some []) record := by
  simp [System.appendChunk.eq_def, Installation.receivingSystem, System.downloadRecord, Installation.byteManifest,
    lostFlush]

lemma run_byteStaged {condition : Calls → Download → Operation → Prop}
    (hb : condition {} { system := Installation.freshInstallation.system }
      (.beginStaging (Installation.byteManifest environment.sha256) {} false))
    (ha : condition calls (byteBegun environment) (.appendChunk [2]))
    (hf : condition {} (byteReceived environment calls) .finalizeStaging) :
    Run environment condition (byteStaged environment calls) :=
  (((Run.start freshSystem.controller.config (some [(literal "nstu.exe", [1])]) none).step {} _ hb).step
    calls _ ha).step {} _ hf

end Bytes

open Installation (byteEnvironment)

lemma sound_byteStaged : Run byteEnvironment (Sound byteEnvironment) (byteStaged byteEnvironment {}) := by
  refine run_byteStaged trivial (fun _ => ⟨by decide, fun h => by cases h⟩) (fun _ record _ _ => .inr ?_)
  obtain ⟨content, hs⟩ := @system_byteReceived byteEnvironment {} [2] (Installation.appendChunk_receiving _)
  rw [hs]
  change System.opensRecord {} (System.setRecord
    (Installation.receivingSystem byteEnvironment.sha256 [2] (some [2]) none)
    (StagingRecord.stagedRecord {} freshSystem.controller.config
      (Installation.receivingSystem byteEnvironment.sha256 [2] (some [2]) none).controller.record))
  decide +kernel

/-- A byte that arrives is applied. -/
theorem applied_of_run_byte : ∃ package manifest, ((byteStaged byteEnvironment {}).run byteEnvironment {}
        (.applyStagedUpdate (literal "nstu.exe"))).system.disk.active = some [(literal "nstu.exe", package)] ∧
      ((byteStaged byteEnvironment {}).run byteEnvironment {}
        (.applyStagedUpdate (literal "nstu.exe"))).finalized = some manifest := by
  have hok : (Operation.outcome byteEnvironment {} (byteStaged byteEnvironment {}).system
      (.applyStagedUpdate (literal "nstu.exe"))).ok = true := by
    obtain ⟨record, hrecord⟩ := @system_byteStaged byteEnvironment {} [2] (Installation.appendChunk_receiving _)
    rw [hrecord]
    rfl
  obtain ⟨package, manifest, hactive, -, hfinalized, -⟩ := (applied_of_run sound_byteStaged).2 {} (literal "nstu.exe") hok
  exact ⟨package, manifest, hactive, hfinalized⟩

/-- A chunk whose end is lost when its file is closed counts as received, and what is applied is shorter than what
has been announced. -/
theorem not_described_of_lostFlush : ¬ ∃ environment, ∀ download, Run environment (fun _ _ _ => True) download →
      ∀ (calls : Calls) (name : Bytes),
        (Operation.outcome environment calls download.system (.applyStagedUpdate name)).ok = true → ∃ package,
            (download.run environment calls (.applyStagedUpdate name)).system.disk.active = some [(name, package)] ∧
            (download.run environment calls (.applyStagedUpdate name)).system.controller.record.Describes
              environment.sha256 package := by
  rintro ⟨environment, hclaim⟩
  obtain ⟨record, hstaged⟩ := @system_byteStaged environment lostFlush [] (appendChunk_lostFlush _)
  obtain ⟨record', happlied⟩ := @run_system environment {} (.applyStagedUpdate (literal "nstu.exe"))
    (byteStaged environment lostFlush)
    (Installation.stagedSystem environment.sha256 .validating freshSystem.controller.config.backupDirectory []
      (some [(literal "nstu.exe", [])]) (some [(literal "nstu.exe", [1])]) record) (by rw [hstaged]; rfl)
  obtain ⟨package, hactive, hlength, -⟩ := hclaim _ (run_byteStaged trivial trivial trivial) {} (literal "nstu.exe")
    (by rw [hstaged]; rfl)
  rw [happlied] at hactive hlength
  have hactive : (some [(literal "nstu.exe", [])] : Option Tree) = some [(literal "nstu.exe", package)] := hactive
  simp only [Option.some.injEq, List.cons.injEq, Prod.mk.injEq, true_and, and_true] at hactive
  rw [← hactive] at hlength
  have hlength : (0 : ℕ) = 1 := hlength
  exact absurd hlength (by decide)

end Download

end Nstu.Update
