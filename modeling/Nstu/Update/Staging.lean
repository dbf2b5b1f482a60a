import Nstu.Update.StagingRecord
import Nstu.Exam.Types

/-!
# The staging controller

`UpdateStagingController` of `update_staging.cpp`, with the files it works on.  The staging directory, the active
one and the one for the backup are different places, none inside another.

Every operation takes what its calls to the system return (`Calls`); a call that fails may have done a part of its
work.  No operation touches a file behind the place where it saves its record, so the save stands apart: an
`Outcome` says whether it follows, and `System.run` makes it.
-/

namespace Nstu.Update

open Wire CType Text JsonText

/-! ## Files -/

/-- The files of a directory, by their names. -/
abbrev Tree := List (Bytes × Bytes)

structure Disk where
  /-- `staging_record.json`. -/
  record : Option Bytes := none
  /-- `update_package.part`. -/
  part : Option Bytes := none
  /-- `update_package.pkg`. -/
  package : Option Bytes := none
  active : Option Tree := none
  backup : Option Tree := none

structure UpdateStagingConfig where
  stagingDirectory : Bytes
  activeDirectory : Bytes
  backupDirectory : Bytes

def isSeparator (byte : UInt8) : Bool := byte == 0x2f || byte == 0x5c

/-- A letter and a colon at the front. -/
def hasDrive : Bytes → Bool
  | letter :: 0x3a :: _ => (0x41 ≤ letter && letter ≤ 0x5a) || (0x61 ≤ letter && letter ≤ 0x7a)
  | _ => false

/-- `directory / name`. -/
def joinPath (directory name : Bytes) : Bytes :=
  match directory.getLast? with
  | none => name
  | some last =>
    if isSeparator last || (hasDrive directory && directory.length == 2) then directory ++ name
    else directory ++ 0x5c :: name

namespace UpdateStagingConfig

def finalPackagePath (config : UpdateStagingConfig) : Bytes :=
  joinPath config.stagingDirectory (literal "update_package.pkg")

end UpdateStagingConfig

/-- What a path in a record has to be beyond naming the configured place: no null character, no double separator
at the front, no drive without a root, and no component `.` or `..`. -/
def isPlainPath (path : Bytes) : Bool :=
  !path.contains 0 && !((path.take 2).length == 2 && (path.take 2).all isSeparator) &&
    !(hasDrive path && !(path[2]?.map isSeparator).getD false) &&
    (path.splitOnP isSeparator).all fun component => component ≠ literal "." && component ≠ literal ".."

/-- `bind_record_path`, for a comparison of normal forms without regard to case. -/
def bindRecordPath (samePath : Bool → Bytes → Bytes → Bool) (supplied configured : Bytes) (directory : Bool) :
    Option Bytes :=
  if supplied.isEmpty then some supplied
  else if configured.isEmpty || configured.contains 0 then none
  else if !isPlainPath supplied then none
  else if samePath directory supplied configured then some configured
  else none

/-! ## The controller -/

inductive UpdateStagingError where
  | ok
  | invalidState
  | ioError
  | byteOverflow
  | digestMismatch
  | truncatedPayload
  | backupFailed
  | rollbackFailed
  | examActiveConflict
  deriving DecidableEq

structure UpdateStagingResult where
  error : UpdateStagingError := .ok
  message : Bytes := []
  deriving DecidableEq

structure UpdateStagingController where
  config : UpdateStagingConfig
  record : StagingRecord := {}
  /-- What the hash has taken, if there is one: `hash_handle_`. -/
  hashed : Option Bytes := none
  isStreaming : Bool := false

/-- The calls that an operation may make. -/
inductive Call where
  | createStaging
  | existsPart
  | removePart
  | existsPackage
  | removePackage
  | openProvider
  | objectLength
  | createHash
  | openPart
  | writePart
  | flushPart
  | hashData
  | finishHash
  | renamePart
  | existsStaged
  | existsBackup
  | removeBackup
  | existsActive
  | createBackupParent
  | renameActive
  | createActive
  | copyFile
  | existsRecordBackup
  | existsActiveAgain
  | removeActive
  | renameBackup
  | createRecordDirectory
  | openRecord
  | writeRecord
  | inspectRecord
  | readRecord
  | closeRecord
  deriving DecidableEq

/-- What the calls of one operation do. -/
structure Calls where
  fails : Call → Bool := fun _ => false
  /-- How many bytes of a chunk arrive when it is written or flushed in vain. -/
  written : ℕ := 0
  /-- How many bytes of a record arrive when it is written in vain. -/
  saved : ℕ := 0
  /-- What stays of a directory that is removed in vain. -/
  remains : Option Tree := none
  /-- What the active directory has when a file is copied to it in vain. -/
  copied : Tree := []
  now : UInt64 := 0
  /-- `e.what()`. -/
  what : Bytes := []

structure System where
  controller : UpdateStagingController
  disk : Disk

/-- What an operation does before it saves its record, and whether it does so.  Without a result an exception has
left the operation. -/
structure Outcome where
  system : System
  result : Option UpdateStagingResult
  saves : Bool := false

namespace System

def setRecord (system : System) (record : StagingRecord) : System :=
  { system with controller := { system.controller with record := record } }

def cleanupHashContext (system : System) : System :=
  { system with controller := { system.controller with hashed := none, isStreaming := false } }

def failed (system : System) (error : UpdateStagingError) (message : Bytes) : Outcome :=
  ⟨system, some ⟨error, message⟩, false⟩

def saved (system : System) (result : UpdateStagingResult) : Outcome := ⟨system, some result, true⟩

/-- Whether the package that the record names is there. -/
def hasStagedPackage (system : System) : Bool :=
  system.controller.record.stagedPackagePath == system.controller.config.finalPackagePath &&
    system.disk.package.isSome

/-- Whether the record names a backup that is there. -/
def hasRecordBackup (system : System) : Bool :=
  !system.controller.record.backupPath.isEmpty &&
    system.controller.record.backupPath == system.controller.config.backupDirectory && system.disk.backup.isSome

/-! ## The record on the disk -/

/-- Whether a save gets as far as opening its file, which empties it. -/
def opensRecord (calls : Calls) (system : System) : Bool :=
  system.controller.record.toJson.isSome && !system.controller.config.stagingDirectory.isEmpty &&
    !calls.fails .createRecordDirectory && !calls.fails .openRecord

def saveRecordToDisk (calls : Calls) (system : System) : System :=
  match system.controller.record.toJson with
  | none => system
  | some text =>
    if opensRecord calls system then
      let content := if calls.fails .writeRecord then text.take calls.saved else text
      { system with disk := { system.disk with record := some content } }
    else system

/-! ## Staging -/

def setDeferred (calls : Calls) (reason : Bytes) (system : System) : Outcome :=
  (system.setRecord { system.controller.record with
    currentState := .deferred
    lastError := reason
    stateTimestampUtc := calls.now }).saved {}

/-- The record of a download that begins. -/
def downloadRecord (calls : Calls) (manifest : UpdateManifest) (currentVersion : SemanticVersion)
    (controller : UpdateStagingController) : StagingRecord :=
  { controller.record with
    activeVersion := currentVersion
    targetVersion := manifest.version
    targetSha256Hex := manifest.sha256Hex
    expectedBytes := manifest.byteLength
    stagedBytes := 0
    requiresReboot := manifest.requiresReboot
    stagedPackagePath := controller.config.finalPackagePath
    currentState := .downloading
    lastError := []
    stateTimestampUtc := calls.now }

def beginStaging (calls : Calls) (manifest : UpdateManifest) (currentVersion : SemanticVersion) (isExamActive : Bool)
    (system : System) : Outcome :=
  if isExamActive then
    system.failed .examActiveConflict (literal "Cannot begin update staging while an assessment is active")
  else
    let system := system.cleanupHashContext
    if !system.controller.config.stagingDirectory.isEmpty && calls.fails .createStaging then
      system.failed .ioError calls.what
    else if calls.fails .existsPart || (system.disk.part.isSome && calls.fails .removePart) then
      system.failed .ioError calls.what
    else
      let system := { system with disk := { system.disk with part := none } }
      if calls.fails .existsPackage || (system.disk.package.isSome && calls.fails .removePackage) then
        system.failed .ioError calls.what
      else
        let system := { system with disk := { system.disk with package := none } }
        if calls.fails .openProvider then
          system.failed .ioError (literal "Failed to open BCrypt SHA-256 algorithm provider")
        else if calls.fails .objectLength then system.failed .ioError (literal "Failed to get BCrypt object length")
        else if calls.fails .createHash then system.failed .ioError (literal "Failed to create BCrypt hash handle")
        else
          let controller := system.controller
          System.saved { system with controller := { controller with
            record := downloadRecord calls manifest currentVersion controller
            hashed := some []
            isStreaming := true } } {}

def abortStaging (calls : Calls) (reason : Bytes) (system : System) : Outcome :=
  let system := system.cleanupHashContext
  let part := if calls.fails .existsPart || calls.fails .removePart then system.disk.part else none
  (System.setRecord { system with disk := { system.disk with part := part } }
    { system.controller.record with
      currentState := .failed
      lastError := reason
      stateTimestampUtc := calls.now }).saved {}

/-- An operation that gives up and aborts the staging. -/
def abortWith (calls : Calls) (reason : Bytes) (error : UpdateStagingError) (message : Bytes) (system : System) :
    Outcome :=
  { system.abortStaging calls reason with result := some ⟨error, message⟩ }

def appendChunk (calls : Calls) (chunk : Bytes) (system : System) : Outcome :=
  let record := system.controller.record
  match system.controller.hashed with
  | none =>
    system.failed .invalidState (literal "Controller is not actively streaming an update package")
  | some hashed =>
    if record.currentState ≠ .downloading || !system.controller.isStreaming then
      system.failed .invalidState (literal "Controller is not actively streaming an update package")
    else if (record.expectedBytes - record.stagedBytes).toNat < chunk.length then
      system.abortWith calls (literal "Byte overflow: chunk exceeds expected package length") .byteOverflow
        (literal "Appended chunk exceeds declared package byte length")
    else if calls.fails .openPart then
      system.abortWith calls (literal "Failed to open staging .part file for writing") .ioError
        (literal "Cannot write to staging .part file")
    else
      let arrived := if calls.fails .writePart || calls.fails .flushPart then chunk.take calls.written else chunk
      let system := { system with disk := { system.disk with part := some (system.disk.part.getD [] ++ arrived) } }
      if calls.fails .writePart then
        system.abortWith calls (literal "I/O write failure on staging .part file") .ioError
          (literal "I/O failure while writing chunk")
      else if calls.fails .hashData then
        system.abortWith calls (literal "BCryptHashData failed on chunk") .ioError
          (literal "Cryptographic hash computation failed")
      else
        ⟨{ system with controller := { system.controller with
            record := { record with stagedBytes := record.stagedBytes + UInt64.ofNat chunk.length }
            -- `BCryptHashData` takes its length as a `ULONG`
            hashed := some (hashed ++ chunk.take (chunk.length % 2 ^ 32)) } }, some {}, false⟩

/-- The digits of a digest. -/
def hexText (digest : Digest) : Bytes :=
  digest.toList.flatMap fun byte => [hexByte (byte.toNat / 16), hexByte (byte.toNat % 16)]

def finalizeStaging (sha256 : Bytes → Digest) (calls : Calls) (system : System) : Outcome :=
  let record := system.controller.record
  match system.controller.hashed with
  | none => system.failed .invalidState (literal "Controller is not in downloading state")
  | some hashed =>
    if record.currentState ≠ .downloading || !system.controller.isStreaming then
      system.failed .invalidState (literal "Controller is not in downloading state")
    else if record.stagedBytes ≠ record.expectedBytes then
      system.abortWith calls
        (literal "Truncated payload: staged bytes do not match expected manifest byte length") .truncatedPayload
        (literal "Staged byte length is less than declared manifest length")
    else if calls.fails .finishHash then
      system.abortWith calls (literal "BCryptFinishHash failed") .ioError
        (literal "Failed to finalize SHA-256 digest")
    else
      let system := system.cleanupHashContext
      if toLower (hexText (sha256 hashed)) ≠ toLower record.targetSha256Hex then
        system.abortWith calls
          (literal "SHA-256 digest mismatch between downloaded payload and signed manifest") .digestMismatch
          (literal "Payload digest does not match manifest specification")
      else if calls.fails .existsPackage || (system.disk.package.isSome && calls.fails .removePackage) then
        system.abortWith calls calls.what .ioError calls.what
      else
        let system := { system with disk := { system.disk with package := none } }
        if calls.fails .renamePart || system.disk.part.isNone then
          system.abortWith calls calls.what .ioError calls.what
        else
          let disk := { system.disk with part := none, package := system.disk.part }
          (System.setRecord { system with disk := disk } { record with
            stagedPackagePath := system.controller.config.finalPackagePath
            currentState := if record.requiresReboot then .applyPendingReboot else .staged
            lastError := []
            stateTimestampUtc := calls.now }).saved {}

/-! ## Installing -/

/-- The handler of exceptions in `apply_staged_update`. -/
def recoverApply (calls : Calls) (system : System) : Outcome :=
  let record := system.controller.record
  let result : UpdateStagingResult := ⟨.backupFailed, calls.what⟩
  if record.backupPath.isEmpty then ⟨system, some result, false⟩
  else if calls.fails .existsRecordBackup then ⟨system, none, false⟩
  else if !system.hasRecordBackup then ⟨system, some result, false⟩
  else if calls.fails .existsActiveAgain then ⟨system, none, false⟩
  else if system.disk.active.isSome || calls.fails .renameBackup then ⟨system, some result, false⟩
  else
    let disk := { system.disk with active := system.disk.backup, backup := none }
    ⟨System.setRecord { system with disk := disk } { record with backupPath := [] }, some result, false⟩

/-- The promotion of the package, once there is no active directory any more. -/
def promote (calls : Calls) (primaryBinaryName : Bytes) (package : Bytes) (system : System) : Outcome :=
  if calls.fails .createActive then system.recoverApply calls
  else if calls.fails .copyFile then
    System.recoverApply calls { system with disk := { system.disk with active := some calls.copied } }
  else
    let disk := { system.disk with active := some [(primaryBinaryName, package)] }
    (System.setRecord { system with disk := disk } { system.controller.record with
      currentState := .validating
      stateTimestampUtc := calls.now }).saved {}

/-- The active directory becomes the backup. -/
def moveActive (system : System) : System :=
  System.setRecord { system with disk := { system.disk with active := none, backup := system.disk.active } }
    { system.controller.record with backupPath := system.controller.config.backupDirectory }

/-- The move of the active directory to the backup, and what follows. -/
def backUpAndPromote (calls : Calls) (primaryBinaryName : Bytes) (package : Bytes) (system : System) : Outcome :=
  if calls.fails .existsActive then system.recoverApply calls
  else if system.disk.active.isNone then system.promote calls primaryBinaryName package
  else if calls.fails .createBackupParent || calls.fails .renameActive ||
      system.controller.config.backupDirectory.isEmpty then system.recoverApply calls
  else system.moveActive.promote calls primaryBinaryName package

def applyStagedUpdate (calls : Calls) (primaryBinaryName : Bytes) (system : System) : Outcome :=
  let record := system.controller.record
  if record.currentState ≠ .staged && record.currentState ≠ .applyPendingReboot then
    system.failed .invalidState (literal "Cannot apply update: package is not in staged state")
  else if calls.fails .existsStaged then system.recoverApply calls
  else match system.disk.package with
  | none => system.failed .ioError (literal "Staged package does not exist on disk")
  | some package =>
    if !system.hasStagedPackage then system.failed .ioError (literal "Staged package does not exist on disk")
    else if system.controller.config.backupDirectory.isEmpty then
      system.backUpAndPromote calls primaryBinaryName package
    else if calls.fails .existsBackup then system.recoverApply calls
    else if system.disk.backup.isSome && calls.fails .removeBackup then
      System.recoverApply calls { system with disk := { system.disk with backup := calls.remains } }
    else
      System.backUpAndPromote calls primaryBinaryName package
        { system with disk := { system.disk with backup := none } }

/-- What `commit_update` does behind the removal of the backup. -/
def finishCommit (calls : Calls) (system : System) : Outcome :=
  let record := { system.controller.record with backupPath := [] }
  let system := system.setRecord record
  if !record.stagedPackagePath.isEmpty &&
      (calls.fails .existsPackage || (system.hasStagedPackage && calls.fails .removePackage)) then
    system.failed .ioError calls.what
  else
    let package := if system.hasStagedPackage then none else system.disk.package
    (System.setRecord { system with disk := { system.disk with package := package } } { record with
      activeVersion := record.targetVersion
      currentState := .committed
      stateTimestampUtc := calls.now }).saved {}

def commitUpdate (calls : Calls) (system : System) : Outcome :=
  let record := system.controller.record
  if record.currentState ≠ .validating then
    system.failed .invalidState (literal "Cannot commit update: controller is not in validating state")
  else if !record.backupPath.isEmpty && calls.fails .existsRecordBackup then system.failed .ioError calls.what
  else if !system.hasRecordBackup then system.finishCommit calls
  else if calls.fails .removeBackup then
    System.failed { system with disk := { system.disk with backup := calls.remains } } .ioError calls.what
  else System.finishCommit calls { system with disk := { system.disk with backup := none } }

/-- A rollback that has failed. -/
def failRollback (reason message : Bytes) (system : System) : Outcome :=
  (system.setRecord { system.controller.record with
    currentState := .failed
    lastError := reason }).saved ⟨.rollbackFailed, message⟩

def rollbackUpdate (calls : Calls) (system : System) : Outcome :=
  let record := system.controller.record
  if record.currentState ≠ .validating then
    system.failed .invalidState (literal "Cannot rollback update: controller is not in validating state")
  else if !record.backupPath.isEmpty && calls.fails .existsRecordBackup then
    system.failRollback calls.what calls.what
  else if !system.hasRecordBackup then
    system.failRollback (literal "Rollback failed: backup directory does not exist")
      (literal "Backup directory not found")
  else if calls.fails .existsActive then system.failRollback calls.what calls.what
  else if system.disk.active.isSome && calls.fails .removeActive then
    System.failRollback calls.what calls.what { system with disk := { system.disk with active := calls.remains } }
  else if calls.fails .renameBackup then
    System.failRollback calls.what calls.what { system with disk := { system.disk with active := none } }
  else
    let disk := { system.disk with active := system.disk.backup, backup := none }
    (System.setRecord { system with disk := disk } { record with
      backupPath := []
      currentState := .rollingBack
      lastError := literal "Update rolled back following validation failure"
      stateTimestampUtc := calls.now }).saved {}

/-! ## Start -/

/-- The end of `init`, with the record that was loaded. -/
def resume (calls : Calls) (record : StagingRecord) (system : System) : Outcome :=
  if record.currentState = .downloading then
    let system := system.setRecord { record with
      currentState := .failed
      lastError := literal "Download interrupted by system restart" }
    if system.disk.part.isSome && calls.fails .removePart then
      system.failed .ioError (literal "Unable to initialize update staging")
    else System.saved { system with disk := { system.disk with part := none } } {}
  else ⟨system.setRecord record, some {}, false⟩

/-- The paths of a record, bound to the configuration. -/
def bindRecord (samePath : Bool → Bytes → Bytes → Bool) (config : UpdateStagingConfig) (record : StagingRecord) :
    Option StagingRecord := do
  let stagedPackagePath ← bindRecordPath samePath record.stagedPackagePath config.finalPackagePath false
  let backupPath ← bindRecordPath samePath record.backupPath config.backupDirectory true
  return { record with stagedPackagePath := stagedPackagePath, backupPath := backupPath }

/-- What `init` does with the content of the file. -/
def loadRecord (samePath : Bool → Bytes → Bytes → Bool) (calls : Calls) (content : Bytes) (system : System) : Outcome :=
  if kMaximumStagingRecordBytes < content.length then
    system.failed .invalidState (literal "Recovery record exceeds size limit")
  else match StagingRecord.ofJson content with
  | none => system.failed .invalidState (literal "Recovery record is malformed or incompatible")
  | some loaded =>
    match bindRecord samePath system.controller.config loaded with
    | none => system.failed .invalidState (literal "Recovery record paths do not match configuration")
    | some record =>
      if calls.fails .closeRecord then system.failed .ioError (literal "Unable to close recovery record")
      else system.resume calls record

def init (samePath : Bool → Bytes → Bytes → Bool) (calls : Calls) (system : System) : Outcome :=
  if !system.controller.config.stagingDirectory.isEmpty && calls.fails .createStaging then
    system.failed .ioError (literal "Unable to initialize update staging")
  else if calls.fails .openRecord then system.failed .ioError (literal "Unable to open recovery record")
  else match system.disk.record with
  | none => ⟨system.setRecord {}, some {}, false⟩
  | some content =>
    if calls.fails .inspectRecord then
      system.failed .ioError (literal "Recovery record is not a regular single-link file")
    else if calls.fails .readRecord then system.failed .ioError (literal "Unable to read recovery record")
    else system.loadRecord samePath calls content

end System

/-! ## Runs -/

/-- The calls of the public interface. -/
inductive Operation where
  | init
  | setDeferred (reason : Bytes)
  | beginStaging (manifest : UpdateManifest) (currentVersion : SemanticVersion) (isExamActive : Bool)
  | appendChunk (chunk : Bytes)
  | finalizeStaging
  | abortStaging (reason : Bytes)
  | applyStagedUpdate (primaryBinaryName : Bytes)
  | commitUpdate
  | rollbackUpdate
  deriving DecidableEq

/-- What stands outside the controller. -/
structure Environment where
  sha256 : Bytes → Digest
  /-- The comparison of the normal forms of two paths. -/
  samePath : Bool → Bytes → Bytes → Bool

/-- What an operation does up to its save. -/
def Operation.outcome (environment : Environment) (calls : Calls) (system : System) : Operation → Outcome
  | .init => system.init environment.samePath calls
  | .setDeferred reason => system.setDeferred calls reason
  | .beginStaging manifest currentVersion isExamActive =>
    system.beginStaging calls manifest currentVersion isExamActive
  | .appendChunk chunk => system.appendChunk calls chunk
  | .finalizeStaging => system.finalizeStaging environment.sha256 calls
  | .abortStaging reason => system.abortStaging calls reason
  | .applyStagedUpdate primaryBinaryName => system.applyStagedUpdate calls primaryBinaryName
  | .commitUpdate => system.commitUpdate calls
  | .rollbackUpdate => system.rollbackUpdate calls

namespace Outcome

/-- The save that ends an operation. -/
def finish (calls : Calls) (outcome : Outcome) : System :=
  if outcome.saves then outcome.system.saveRecordToDisk calls else outcome.system

def ok (outcome : Outcome) : Bool := outcome.result.map (·.error) == some .ok

end Outcome

namespace System

/-- A process that starts over with the files that there are. -/
def restart (system : System) : System := ⟨{ config := system.controller.config }, system.disk⟩

def run (environment : Environment) (calls : Calls) (operation : Operation) (system : System) : System :=
  (operation.outcome environment calls system).finish calls

/-- What any operations lead to, with restarts in between, from any files. -/
inductive Reachable (environment : Environment) : System → Prop where
  | start (config : UpdateStagingConfig) (disk : Disk) : Reachable environment ⟨{ config }, disk⟩
  | run {system : System} (h : Reachable environment system) (calls : Calls) (operation : Operation) :
      Reachable environment (system.run environment calls operation)
  | restart {system : System} (h : Reachable environment system) : Reachable environment system.restart

end System

end Nstu.Update
