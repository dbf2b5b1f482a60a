import Nstu.Control.Auth
import Nstu.Core.Text

/-!
# Starting an exam on a client

The messages of `exam_control.cpp` that the server reads or sends while it starts an exam, and the
instructor's ticket of `exam_auth.cpp`.
-/

namespace Nstu

open Wire Reader Control

def kMaximumExamControlPathBytes : ℕ := 2048
def kMaximumExamControlPackageIdBytes : ℕ := kMaximumPackageIdBytes
def kMaximumExamControlCandidateBytes : ℕ := 128
def kMaximumExamControlPayloadBytes : ℕ := 16 * 1024
def kMinimumExamDurationSeconds : UInt32 := 60
def kMaximumExamDurationSeconds : UInt32 := 86400

structure ExamStartRequest where
  packageRoot : Bytes
  webRoot : Bytes
  userDataRoot : Bytes
  packageId : Bytes
  candidateId : Bytes
  packageDigest : Digest
  clientId : ClientId
  sessionId : SessionId
  deriving DecidableEq

structure ExamReadyReport where
  packageId : Bytes
  candidateId : Bytes
  packageDigest : Digest
  clientId : ClientId
  sessionId : SessionId
  deriving DecidableEq

structure ExamBeginCommand where
  packageId : Bytes
  candidateId : Bytes
  packageDigest : Digest
  clientId : ClientId
  sessionId : SessionId
  serverStartUnixMilliseconds : UInt64
  durationSeconds : UInt32
  deriving DecidableEq

/-- `valid_utf8` of `exam_control.cpp`: well-formed text without control characters. -/
def validControlText (value : Bytes) (maximum : ℕ) : Bool :=
  !value.isEmpty && value.length ≤ maximum && (Text.ofUtf8 value).isSome &&
    value.all fun byte => 0x20 ≤ byte && byte != 0x7f

def validateExamStartRequest (request : ExamStartRequest) : Bool :=
  validControlText request.packageRoot kMaximumExamControlPathBytes &&
    (request.webRoot.isEmpty || validControlText request.webRoot kMaximumExamControlPathBytes) &&
    (request.userDataRoot.isEmpty || validControlText request.userDataRoot kMaximumExamControlPathBytes) &&
    validControlText request.packageId kMaximumExamControlPackageIdBytes &&
    validControlText request.candidateId kMaximumExamControlCandidateBytes &&
    !allZero request.packageDigest.toList && !allZero request.clientId.toList &&
    !allZero request.sessionId.toList

def encodeExamStartRequest (request : ExamStartRequest) : Bytes :=
  if !validateExamStartRequest request then []
  else
    let wire := [le (0x31535845 : UInt32), le (2 : UInt16), le (0 : UInt16),
      le (UInt16.ofNat request.packageRoot.length), le (UInt16.ofNat request.webRoot.length),
      le (UInt16.ofNat request.userDataRoot.length), le (UInt16.ofNat request.packageId.length),
      le (UInt16.ofNat request.candidateId.length), request.packageDigest.toList,
      request.clientId.toList, request.sessionId.toList, request.packageRoot, request.webRoot,
      request.userDataRoot, request.packageId, request.candidateId].flatten
    if wire.length > kMaximumExamControlPayloadBytes then [] else wire

/-! ## The barrier before the questions -/

def kExamReadyMagic : UInt32 := 0x59444552
def kExamBeginMagic : UInt32 := 0x4e474245
def kExamReadyFixedBytes : ℕ := 76

def validateExamReadyReport (report : ExamReadyReport) : Bool :=
  validControlText report.packageId kMaximumExamControlPackageIdBytes &&
    validControlText report.candidateId kMaximumExamControlCandidateBytes &&
    !allZero report.packageDigest.toList && !allZero report.clientId.toList &&
    !allZero report.sessionId.toList

def encodeExamReadyReport (report : ExamReadyReport) : Bytes :=
  if !validateExamReadyReport report then []
  else
    [le kExamReadyMagic, le (1 : UInt16), le (0 : UInt16), le (UInt16.ofNat report.packageId.length),
      le (UInt16.ofNat report.candidateId.length), report.packageDigest.toList, report.clientId.toList,
      report.sessionId.toList, report.packageId, report.candidateId].flatten

/-- `read_text`. -/
def readControlText (length : UInt16) (maximum : ℕ) : Reader Bytes := do
  require (length ≠ 0)
  require (length.toNat ≤ maximum)
  let text ← readBytes length.toNat
  require (validControlText text maximum = true)
  pure text

def readExamReadyReport : Reader ExamReadyReport := do
  let magic : UInt32 ← readLe
  require (magic = kExamReadyMagic)
  let version : UInt16 ← readLe
  require (version = 1)
  let flags : UInt16 ← readLe
  require (flags = 0)
  let packageIdBytes : UInt16 ← readLe
  let candidateBytes : UInt16 ← readLe
  let packageDigest ← readBlock 32
  let clientId ← readBlock 16
  let sessionId ← readBlock 16
  let packageId ← readControlText packageIdBytes kMaximumExamControlPackageIdBytes
  let candidateId ← readControlText candidateBytes kMaximumExamControlCandidateBytes
  let left ← remaining
  require (left = 0)
  let report : ExamReadyReport := ⟨packageId, candidateId, packageDigest, clientId, sessionId⟩
  require (validateExamReadyReport report = true)
  pure report

def decodeExamReadyReport (payload : Bytes) : Option ExamReadyReport :=
  if payload.length < kExamReadyFixedBytes ∨ kMaximumExamControlPayloadBytes < payload.length then none
  else (readExamReadyReport.run payload).map Prod.fst

def validateExamBeginCommand (command : ExamBeginCommand) : Bool :=
  validControlText command.packageId kMaximumExamControlPackageIdBytes &&
    validControlText command.candidateId kMaximumExamControlCandidateBytes &&
    !allZero command.packageDigest.toList && !allZero command.clientId.toList &&
    !allZero command.sessionId.toList && command.serverStartUnixMilliseconds != 0 &&
    (command.durationSeconds == 0 || (kMinimumExamDurationSeconds ≤ command.durationSeconds &&
        command.durationSeconds ≤ kMaximumExamDurationSeconds))

def encodeExamBeginCommand (command : ExamBeginCommand) : Bytes :=
  if !validateExamBeginCommand command then []
  else
    [le kExamBeginMagic, le (1 : UInt16), le (0 : UInt16), le (UInt16.ofNat command.packageId.length),
      le (UInt16.ofNat command.candidateId.length), le command.serverStartUnixMilliseconds,
      le command.durationSeconds, command.packageDigest.toList, command.clientId.toList,
      command.sessionId.toList, command.packageId, command.candidateId].flatten

/-! ## The instructor's ticket -/

def kMaximumInstructorIdBytes : ℕ := 128

structure InstructorAuthorizationTicket where
  instructorId : Bytes
  packageId : Bytes
  packageDigest : Digest
  sessionId : SessionId
  candidateId : Bytes
  validFromMs : UInt64
  validUntilMs : UInt64
  instructorSignature : Digest
  deriving DecidableEq

inductive TicketVerificationResult where
  | valid
  | invalidStructure
  | expired
  | notYetValid
  | signatureMismatch
  | packageMismatch
  | sessionMismatch
  | candidateMismatch
  deriving DecidableEq

def ticketVerificationResultToString : TicketVerificationResult → String
  | .valid => "valid"
  | .invalidStructure => "invalid_structure"
  | .expired => "expired"
  | .notYetValid => "not_yet_valid"
  | .signatureMismatch => "signature_mismatch"
  | .packageMismatch => "package_mismatch"
  | .sessionMismatch => "session_mismatch"
  | .candidateMismatch => "candidate_mismatch"

/-- The loop of `valid_utf8` of `exam_auth.cpp`, which only counts the bytes of each
character. -/
def ticketUtf8 : Bytes → Bool
  | [] => true
  | a :: rest =>
    if a ≤ 0x7f then ticketUtf8 rest
    else if a &&& 0xe0 = 0xc0 then
      match rest with
      | b :: rest => b &&& 0xc0 = 0x80 && ticketUtf8 rest
      | [] => false
    else if a &&& 0xf0 = 0xe0 then
      match rest with
      | b :: c :: rest => b &&& 0xc0 = 0x80 && c &&& 0xc0 = 0x80 && ticketUtf8 rest
      | _ => false
    else if a &&& 0xf8 = 0xf0 then
      match rest with
      | b :: c :: d :: rest =>
        b &&& 0xc0 = 0x80 && c &&& 0xc0 = 0x80 && d &&& 0xc0 = 0x80 && ticketUtf8 rest
      | _ => false
    else false

def validTicketText (text : Bytes) (maximum : ℕ) : Bool := text.length ≤ maximum && ticketUtf8 text

def validateTicket (ticket : InstructorAuthorizationTicket) : Bool :=
  !ticket.instructorId.isEmpty && validTicketText ticket.instructorId kMaximumInstructorIdBytes &&
    !ticket.packageId.isEmpty && validTicketText ticket.packageId kMaximumPackageIdBytes &&
    (ticket.candidateId.isEmpty || validTicketText ticket.candidateId kMaximumCandidateIdBytes) &&
    !allZero ticket.packageDigest.toList && !allZero ticket.sessionId.toList &&
    ticket.validFromMs < ticket.validUntilMs

def computeTicketCanonicalTranscript (ticket : InstructorAuthorizationTicket) : Bytes :=
  [labelBytes "NSTU-INSTRUCTOR-TICKET-V1", le (0x5449434B : UInt32), le (1 : UInt16), le (0 : UInt16),
    le ticket.validFromMs, le ticket.validUntilMs, ticket.packageDigest.toList, ticket.sessionId.toList,
    le (UInt16.ofNat ticket.instructorId.length), le (UInt16.ofNat ticket.packageId.length),
    le (UInt16.ofNat ticket.candidateId.length), ticket.instructorId, ticket.packageId,
    ticket.candidateId].flatten

section Ticket

variable (hmac : Bytes → Bytes → Digest)

def verifyTicketSignature (key : Bytes) (ticket : InstructorAuthorizationTicket) : Bool :=
  hmacSha256 hmac key (computeTicketCanonicalTranscript ticket) == some ticket.instructorSignature

def verifyTicketForExam (key : Bytes) (ticket : InstructorAuthorizationTicket)
    (request : ExamStartRequest) (currentTimeMs : UInt64) : TicketVerificationResult :=
  if !validateTicket ticket then .invalidStructure
  else if currentTimeMs > 0 ∧ currentTimeMs < ticket.validFromMs then .notYetValid
  else if currentTimeMs > 0 ∧ currentTimeMs > ticket.validUntilMs then .expired
  else if !verifyTicketSignature hmac key ticket then .signatureMismatch
  else if ticket.packageId ≠ request.packageId ∨ ticket.packageDigest ≠ request.packageDigest then
    .packageMismatch
  else if ticket.sessionId ≠ request.sessionId then .sessionMismatch
  else if ¬ ticket.candidateId.isEmpty ∧ ticket.candidateId ≠ request.candidateId then .candidateMismatch
  else .valid

end Ticket

end Nstu
