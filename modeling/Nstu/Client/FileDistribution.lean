import Nstu.Core.CType
import Mathlib

/-!
# Files that a teacher distributes

The client service takes one file at a time from the server: a start names the file with its size and
digest, chunks bring its bytes, and a finish checks them and puts the file in its place
(`file_dist_start` to `file_dist_cancel` of `service/main.cpp`, `file_distribution.cpp`).  What has come
in is kept in a part file beside the target.

The file system is a map from files to contents.  `ident` says which file a path is; it need not tell
every two paths apart, since the disk ignores the case of a name.  What the system answers to the calls
of a handler is an input of the step (`Answers`).
-/

namespace Nstu.Client.FileDistribution

open Wire CType Reader

def kMaxFileSize : ℕ := 64 * 1024 * 1024
def kMaxChunkSize : ℕ := 64 * 1024
def kMaxFilenameLength : ℕ := 255

inductive FileDistStatus where
  | inProgress
  | completed
  | hashMismatch
  | writeError
  | cancelled
  | rejectedExamActive
  | rejectedUnsafePath
  | rejectedQuotaExceeded
  deriving DecidableEq

/-! ## Names -/

def reservedDevices : List Bytes :=
  ["CON", "PRN", "AUX", "NUL", "COM1", "COM2", "COM3", "COM4", "COM5", "COM6", "COM7", "COM8", "COM9",
    "LPT1", "LPT2", "LPT3", "LPT4", "LPT5", "LPT6", "LPT7", "LPT8", "LPT9"].map literal

def isReservedDosDevice (stem : Bytes) : Bool :=
  reservedDevices.any fun device => stem.map lower == device.map lower

/-- The characters that no name has: control characters and `/ \ : * ? " < > |`. -/
def isForbidden (byte : UInt8) : Bool :=
  byte < 0x20 || byte == 0x7f || (literal "/\\:*?\"<>|").contains byte

def isSpaceOrDot (byte : UInt8) : Bool := byte == 0x20 || byte == 0x2e

def isSafeFilename (filename : Bytes) : Bool :=
  if filename.isEmpty || filename.length > kMaxFilenameLength then false
  else if filename.head?.any isSpaceOrDot || filename.getLast?.any isSpaceOrDot then false
  else if filename.any isForbidden then false
  else if filename == literal "." || filename == literal ".." then false
  else !isReservedDosDevice (filename.takeWhile (· != 0x2e))

/-! ## Paths -/

/-- A path, by its components. -/
abbrev Path := List Bytes

def isSeparator (byte : UInt8) : Bool := byte == 0x2f || byte == 0x5c

/-- The components of a relative path. -/
def components (text : Bytes) : Path := (text.splitOnP isSeparator).filter (! ·.isEmpty)

/-- How many levels a relative path goes down. -/
def levels (path : Path) : ℤ :=
  (path.map fun component =>
    if component == literal ".." then (-1 : ℤ)
    else if component == literal "." || component.isEmpty then 0 else 1).sum

/-- `path::lexically_relative`, from where the two paths part. -/
def relativeFrom (path base : Path) : Path :=
  if levels base < 0 then []
  else if levels base = 0 ∧ path = [] then [literal "."]
  else List.replicate (levels base).toNat (literal "..") ++ path

/-- `path.lexically_relative`. -/
def lexicallyRelative : Path → Path → Path
  | a :: path, b :: base => if a == b then lexicallyRelative path base else relativeFrom (a :: path) (b :: base)
  | path, base => relativeFrom path base

/-- `compute_staging_path`.  A name with a drive or a root would replace the
directory; `is_safe_filename` admits none. -/
def computeStagingPath (baseDir : Path) (filename : Bytes) : Option Path :=
  if !isSafeFilename filename then none
  else
    let targetPath := baseDir ++ components filename
    match lexicallyRelative targetPath baseDir with
    | [] => none
    | first :: _ => if (literal "..").isPrefixOf first then none else some targetPath

/-- The target with `.nstu_part` behind its last component. -/
def partPathOf (target : Path) : Path :=
  match target.getLast? with
  | none => [literal ".nstu_part"]
  | some name => target.dropLast ++ [name ++ literal ".nstu_part"]

/-! ## Messages -/

structure FileDistStartMessage where
  sessionId : UInt64
  fileSize : UInt64
  sha256 : Block 32
  filename : Bytes

structure FileDistChunkMessage where
  sessionId : UInt64
  offset : UInt64
  data : Bytes

structure FileDistStatusMessage where
  sessionId : UInt64
  bytesReceived : ℕ
  status : FileDistStatus
  deriving DecidableEq

def readStart : Reader FileDistStartMessage := do
  let sessionId ← readLe (T := UInt64)
  let fileSize ← readLe (T := UInt64)
  require (fileSize.toNat ≤ kMaxFileSize)
  let sha256 ← readBlock 32
  let length ← readLe (T := UInt16)
  require (length ≠ 0 ∧ length.toNat ≤ kMaxFilenameLength)
  let filename ← readBytes length.toNat
  require (isSafeFilename filename = true)
  return { sessionId, fileSize, sha256, filename }

def readChunk : Reader FileDistChunkMessage := do
  let sessionId ← readLe (T := UInt64)
  let offset ← readLe (T := UInt64)
  let length ← readLe (T := UInt32)
  require (length ≠ 0 ∧ length.toNat ≤ kMaxChunkSize)
  let data ← readBytes length.toNat
  return { sessionId, offset, data }

def readFinish : Reader UInt64 := readLe

/-- The reason and four reserved bytes are not looked at. -/
def readCancel : Reader UInt64 := do
  let sessionId ← readLe (T := UInt64)
  let _ ← readBytes 8
  return sessionId

/-- A message is decoded when nothing is left of the payload. -/
def decodeWith {α : Type} (reader : Reader α) (payload : Bytes) : Option α :=
  match reader payload with
  | some (message, []) => some message
  | _ => none

/-- The commands of a server that distribute files. -/
inductive Command where
  | start (payload : Bytes)
  | chunk (payload : Bytes)
  | finish (payload : Bytes)
  | cancel (payload : Bytes)

/-! ## Handlers -/

/-- The session that is active. -/
structure ActiveFileReceiveSession where
  sessionId : UInt64
  totalSize : ℕ
  bytesReceived : ℕ
  expectedSha256 : Block 32
  targetPath : Path
  partPath : Path
  /-- What `out_file` has been given to write. -/
  outFile : Bytes
  deriving DecidableEq

/-- What the system answers while a command is handled. -/
structure Answers where
  /-- `g_exam_lockdown_controller.is_armed()`. -/
  armed : Bool
  /-- `get_safe_staging_directory()`. -/
  stagingDirectory : Path
  /-- Whether the part file can be opened for writing. -/
  opened : Bool
  /-- Whether the stream is good after the write. -/
  wrote : Bool
  /-- How many of the bytes given to the stream are in the part file afterwards. -/
  stored : ℕ
  /-- Whether the part file can be opened for reading, and read. -/
  reopened : Bool
  read : Bool
  renamed : Bool
  removed : Path → Bool

structure Staging (Id : Type) where
  files : Id → Option Bytes
  session : Option ActiveFileReceiveSession

section Handlers

variable {Id : Type} [DecidableEq Id] (ident : Path → Id) (sha256 : Bytes → Option (Block 32))

/-- `std::filesystem::remove`, whose error is ignored. -/
def remove (answers : Answers) (files : Id → Option Bytes) (path : Path) : Id → Option Bytes :=
  if answers.removed path then Function.update files (ident path) none else files

/-- The exits of the handlers: the part file is removed, the session reset and the status sent. -/
def abandon (answers : Answers) (files : Id → Option Bytes) (session : ActiveFileReceiveSession)
    (status : FileDistStatus) : Staging Id × Option FileDistStatusMessage :=
  ({ files := remove ident answers files session.partPath, session := none },
    some { sessionId := session.sessionId, bytesReceived := 0, status })

/-- The checks of a start, and the path it is for. -/
def admitStart (message : FileDistStartMessage) (answers : Answers) : Except FileDistStatus Path :=
  if answers.armed then .error .rejectedExamActive
  else if !isSafeFilename message.filename then .error .rejectedUnsafePath
  else if message.fileSize.toNat > kMaxFileSize then .error .rejectedQuotaExceeded
  else match computeStagingPath answers.stagingDirectory message.filename with
  | none => .error .rejectedUnsafePath
  | some target => .ok target

/-- An active session gives way to a start. -/
def preempt (answers : Answers) (staging : Staging Id) : Id → Option Bytes :=
  match staging.session with
  | none => staging.files
  | some session => remove ident answers staging.files session.partPath

def openedSession (message : FileDistStartMessage) (target : Path) : ActiveFileReceiveSession where
  sessionId := message.sessionId
  totalSize := message.fileSize.toNat
  bytesReceived := 0
  expectedSha256 := message.sha256
  targetPath := target
  partPath := partPathOf target
  outFile := []

def handleStart (staging : Staging Id) (message : FileDistStartMessage) (answers : Answers) :
    Staging Id × Option FileDistStatusMessage :=
  match admitStart message answers with
  | .error status => (staging, some { sessionId := message.sessionId, bytesReceived := 0, status })
  | .ok target =>
    let files := remove ident answers (preempt ident answers staging) (partPathOf target)
    if !answers.opened then
      ({ files, session := none }, some { sessionId := message.sessionId, bytesReceived := 0, status := .writeError })
    else
      ({ files := Function.update files (ident (partPathOf target)) (some []),
         session := some (openedSession message target) },
        some { sessionId := message.sessionId, bytesReceived := 0, status := .inProgress })

/-- The session with a chunk written to its stream. -/
def received (session : ActiveFileReceiveSession) (data : Bytes) : ActiveFileReceiveSession :=
  { session with
    bytesReceived := session.bytesReceived + data.length
    outFile := session.outFile ++ data }

def handleChunk (staging : Staging Id) (session : ActiveFileReceiveSession)
    (message : FileDistChunkMessage) (answers : Answers) : Staging Id × Option FileDistStatusMessage :=
  if answers.armed then abandon ident answers staging.files session .rejectedExamActive
  else if message.offset.toNat ≠ session.bytesReceived ∨
      session.bytesReceived + message.data.length > session.totalSize then
    abandon ident answers staging.files session .writeError
  else if !message.data.isEmpty && !answers.wrote then
    abandon ident answers staging.files session .writeError
  else
    let next := received session message.data
    ({ files := Function.update staging.files (ident session.partPath)
         (some (next.outFile.take answers.stored)),
       session := some next },
      some { sessionId := session.sessionId, bytesReceived := next.bytesReceived, status := .inProgress })

/-- What is read into a buffer of zeros. -/
def readBuffer (size : ℕ) (content : Bytes) : Bytes :=
  content.take size ++ List.replicate (size - content.length) 0

/-- `std::filesystem::rename` of the part file, when it succeeds. -/
def renamePart (files : Id → Option Bytes) (session : ActiveFileReceiveSession) : Id → Option Bytes :=
  Function.update (Function.update files (ident session.partPath) none) (ident session.targetPath)
    (files (ident session.partPath))

def handleFinish (staging : Staging Id) (session : ActiveFileReceiveSession) (answers : Answers) :
    Staging Id × Option FileDistStatusMessage :=
  if answers.armed then abandon ident answers staging.files session .rejectedExamActive
  else
    -- `flush` and `close` report nothing, whatever of the stream reaches the disk
    let content := session.outFile.take answers.stored
    let files := Function.update staging.files (ident session.partPath) (some content)
    if session.bytesReceived ≠ session.totalSize then
      abandon ident answers files session .writeError
    else if !answers.reopened then abandon ident answers files session .writeError
    else if session.totalSize > 0 && !answers.read then
      abandon ident answers files session .writeError
    else if sha256 (readBuffer session.totalSize content) ≠ some session.expectedSha256 then
      abandon ident answers files session .hashMismatch
    else
      let files := remove ident answers files session.targetPath
      if !answers.renamed then abandon ident answers files session .writeError
      else
        ({ files := renamePart ident files session, session := none },
          some { sessionId := session.sessionId, bytesReceived := session.totalSize,
                 status := .completed })

/-- The handler of a message for the session that is active; others are not looked at. -/
def forSession (staging : Staging Id) (sessionId : UInt64)
    (handler : ActiveFileReceiveSession → Staging Id × Option FileDistStatusMessage) :
    Staging Id × Option FileDistStatusMessage :=
  match staging.session with
  | none => (staging, none)
  | some session => if session.sessionId ≠ sessionId then (staging, none) else handler session

/-- The cases of `handle_server_command` that distribute files. -/
def handleServerCommand (staging : Staging Id) (command : Command) (answers : Answers) :
    Staging Id × Option FileDistStatusMessage :=
  match command with
  | .start payload =>
    match decodeWith readStart payload with
    | none => (staging, none)
    | some message => handleStart ident staging message answers
  | .chunk payload =>
    match decodeWith readChunk payload with
    | none => (staging, none)
    | some message =>
      forSession staging message.sessionId fun session =>
        handleChunk ident staging session message answers
  | .finish payload =>
    match decodeWith readFinish payload with
    | none => (staging, none)
    | some sessionId =>
      forSession staging sessionId fun session => handleFinish ident sha256 staging session answers
  | .cancel payload =>
    match decodeWith readCancel payload with
    | none => (staging, none)
    | some sessionId =>
      forSession staging sessionId fun session =>
        abandon ident answers staging.files session .cancelled

end Handlers

end Nstu.Client.FileDistribution
