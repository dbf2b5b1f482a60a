import Nstu.Core.Wire

/-!
# The exam answer data model

The declarations of `exam_sync.hpp`: size limits, the two wire enumerations and the messages that
clients and the server exchange about exam answers.  Strings are byte strings, because the code
never looks at them in any other way, and every length, sequence and time stamp has the width it
has in the source.

The C++ enumerations have a fixed underlying type, so a value read off the wire may be none of the
named ones.  `AnswerKind` and `AnswerAckStatus` keep such a value as `unnamed`, and
`AnswerKind.ofRaw` / `AnswerKind.raw` are the two casts.
-/

namespace Nstu

open Wire

/-- `security::Sha256Digest`. -/
abbrev Digest := Block 32

/-- `security::ClientId`. -/
abbrev ClientId := Block 16

/-- `exam::SessionId`. -/
abbrev SessionId := Block 16

/-! ## Limits -/

def kMaximumPackageIdBytes : ℕ := 128
def kMaximumCandidateIdBytes : ℕ := 128
def kMaximumQuestionIdBytes : ℕ := 128
def kMaximumAnswerBytes : ℕ := 16 * 1024
def kMaxCommandPayload : ℕ := 64 * 1024
def kControlAuthTagBytes : ℕ := 16

/-- An authenticated command spends eight bytes on its sequence and sixteen on its tag. -/
def kMaximumExamPayloadBytes : ℕ := kMaxCommandPayload - 8 - kControlAuthTagBytes

/-- `exam_sync.cpp` and `answer_journal.cpp` both call the payload limit by this name. -/
def kMaximumWireBytes : ℕ := kMaximumExamPayloadBytes

def kMaximumJournalBytes : ℕ := 256 * 1024 * 1024
def kMaximumJournalSessions : ℕ := 4096
def kMaximumOutboxEvents : ℕ := 512
def kMaximumOutboxBytes : ℕ := 8 * 1024 * 1024
def kMaximumStateEntries : ℕ := 512
def kMaximumStateChunks : ℕ := 64

/-! ## Enumerations -/

inductive AnswerKind where
  | upsert
  | clear
  | finalize
  | unnamed (value : UInt8) (h : value = 0 ∨ 3 < value)
  deriving DecidableEq

namespace AnswerKind

/-- `static_cast<std::uint8_t>(kind)`. -/
def raw : AnswerKind → UInt8
  | upsert => 1
  | clear => 2
  | finalize => 3
  | unnamed value _ => value

/-- `static_cast<AnswerKind>(value)`. -/
def ofRaw (value : UInt8) : AnswerKind :=
  if h1 : value = 1 then upsert
  else if h2 : value = 2 then clear
  else if h3 : value = 3 then finalize
  else unnamed value (by
    rw [← UInt8.toNat_inj] at h1 h2 h3
    rw [← UInt8.toNat_inj, UInt8.lt_iff_toNat_lt]
    simp only [UInt8.reduceToNat] at *
    omega)

@[simp] lemma raw_ofRaw (value : UInt8) : (ofRaw value).raw = value := by
  unfold ofRaw
  split_ifs with h1 h2 h3 <;> simp_all [raw]

@[simp] lemma ofRaw_raw (kind : AnswerKind) : ofRaw kind.raw = kind := by
  cases kind with
  | unnamed value h =>
    have h1 : value ≠ 1 := by rintro rfl; revert h; decide
    have h2 : value ≠ 2 := by rintro rfl; revert h; decide
    have h3 : value ≠ 3 := by rintro rfl; revert h; decide
    simp [ofRaw, raw, h1, h2, h3]
  | _ => rfl

end AnswerKind

inductive AnswerAckStatus where
  | accepted
  | duplicate
  | rejected
  | conflict
  | gap
  | unavailable
  | unnamed (value : UInt8) (h : value = 0 ∨ 6 < value)
  deriving DecidableEq

namespace AnswerAckStatus

/-- `static_cast<std::uint8_t>(status)`. -/
def raw : AnswerAckStatus → UInt8
  | accepted => 1
  | duplicate => 2
  | rejected => 3
  | conflict => 4
  | gap => 5
  | unavailable => 6
  | unnamed value _ => value

/-- `static_cast<AnswerAckStatus>(value)`. -/
def ofRaw (value : UInt8) : AnswerAckStatus :=
  if h1 : value = 1 then accepted
  else if h2 : value = 2 then duplicate
  else if h3 : value = 3 then rejected
  else if h4 : value = 4 then conflict
  else if h5 : value = 5 then gap
  else if h6 : value = 6 then unavailable
  else unnamed value (by
    rw [← UInt8.toNat_inj] at h1 h2 h3 h4 h5 h6
    rw [← UInt8.toNat_inj, UInt8.lt_iff_toNat_lt]
    simp only [UInt8.reduceToNat] at *
    omega)

@[simp] lemma raw_ofRaw (value : UInt8) : (ofRaw value).raw = value := by
  unfold ofRaw
  split_ifs <;> simp_all [raw]

@[simp] lemma ofRaw_raw (status : AnswerAckStatus) : ofRaw status.raw = status := by
  cases status with
  | unnamed value h =>
    have h1 : value ≠ 1 := by rintro rfl; revert h; decide
    have h2 : value ≠ 2 := by rintro rfl; revert h; decide
    have h3 : value ≠ 3 := by rintro rfl; revert h; decide
    have h4 : value ≠ 4 := by rintro rfl; revert h; decide
    have h5 : value ≠ 5 := by rintro rfl; revert h; decide
    have h6 : value ≠ 6 := by rintro rfl; revert h; decide
    simp [ofRaw, raw, h1, h2, h3, h4, h5, h6]
  | _ => rfl

end AnswerAckStatus

/-! ## Messages -/

@[ext]
structure AnswerEvent where
  packageId : Bytes
  packageDigest : Digest
  clientId : ClientId
  sessionId : SessionId
  candidateId : Bytes
  questionId : Bytes
  questionRevision : UInt32
  sequence : UInt64
  clientTimeUnixMilliseconds : UInt64
  kind : AnswerKind
  answer : Bytes
  previousEventHash : Digest
  deriving DecidableEq

@[ext]
structure AnswerAck where
  status : AnswerAckStatus
  sessionId : SessionId
  sequence : UInt64
  highestContiguousSequence : UInt64
  serverTimeUnixMilliseconds : UInt64
  eventHash : Digest
  stateHash : Digest
  deriving DecidableEq

/-- A value-initialised `AnswerAck`: the status defaults to `rejected`, everything else to zero. -/
def AnswerAck.initial : AnswerAck where
  status := .rejected
  sessionId := Block.zero 16
  sequence := 0
  highestContiguousSequence := 0
  serverTimeUnixMilliseconds := 0
  eventHash := Block.zero 32
  stateHash := Block.zero 32

@[ext]
structure StateRequest where
  packageId : Bytes
  packageDigest : Digest
  clientId : ClientId
  sessionId : SessionId
  candidateId : Bytes
  deriving DecidableEq

@[ext]
structure AnswerState where
  questionId : Bytes
  questionRevision : UInt32
  sequence : UInt64
  kind : AnswerKind
  answer : Bytes
  eventHash : Digest
  deriving DecidableEq

@[ext]
structure StateResponse where
  packageId : Bytes
  packageDigest : Digest
  clientId : ClientId
  sessionId : SessionId
  candidateId : Bytes
  highestContiguousSequence : UInt64
  finalized : Bool
  stateHash : Digest
  lastEventHash : Digest
  chunkIndex : UInt16
  chunkCount : UInt16
  answers : List AnswerState
  deriving DecidableEq

/-! ## Text and byte predicates shared by every codec -/

def allZero (bytes : Bytes) : Bool := bytes.all (· == 0)

/-- `same_digest`: equal sizes, equal bytes. -/
def sameDigest (left right : Bytes) : Bool := left.length == right.length && left == right

def validText (value : Bytes) (maximum : ℕ) (allowEmpty : Bool) : Bool :=
  if (!allowEmpty && value.isEmpty) || maximum < value.length then false
  else !value.any (· == 0)

def validIdentity (clientId : ClientId) (sessionId : SessionId) : Bool :=
  !allZero clientId.toList && !allZero sessionId.toList

lemma allZero_iff {n : ℕ} {block : Block n} : allZero block.toList ↔ block = Block.zero n := by
  rw [← Block.toList_inj]
  simp only [allZero, List.all_eq_true, beq_iff_eq, Block.zero]
  constructor
  · intro h
    exact List.eq_replicate_iff.mpr ⟨block.length_toList, h⟩
  · intro h b hb
    rw [h] at hb
    exact List.eq_of_mem_replicate hb

lemma allZero_eq_false_of_ne {n : ℕ} {block : Block n} (h : block ≠ Block.zero n) : allZero block.toList = false := by
  rw [← Bool.not_eq_true, allZero_iff]
  exact h

@[simp] lemma sameDigest_iff {left right : Bytes} : sameDigest left right ↔ left = right := by
  simp only [sameDigest, Bool.and_eq_true, beq_iff_eq]
  exact ⟨fun h => h.2, fun h => ⟨by rw [h], h⟩⟩

lemma validText_iff {value : Bytes} {maximum : ℕ} {allowEmpty : Bool} : validText value maximum allowEmpty ↔
      (allowEmpty ∨ value ≠ []) ∧ value.length ≤ maximum ∧ (0 : UInt8) ∉ value := by
  unfold validText
  split_ifs with h
  · simp only [Bool.or_eq_true, Bool.and_eq_true, Bool.not_eq_true', List.isEmpty_iff,
      decide_eq_true_eq] at h
    simp only [false_iff]
    rintro ⟨hempty, hlen, -⟩
    rcases h with ⟨hno, hnil⟩ | hlong
    · rcases hempty with hempty | hempty
      · simp [hempty] at hno
      · exact hempty hnil
    · omega
  · simp only [Bool.or_eq_true, Bool.and_eq_true, Bool.not_eq_true', List.isEmpty_iff,
      decide_eq_true_eq, not_or, not_and, Nat.not_lt] at h
    simp only [Bool.not_eq_true', List.any_eq_false, beq_iff_eq]
    constructor
    · intro hz
      refine ⟨?_, h.2, fun hmem => hz 0 hmem rfl⟩
      by_cases hv : value = []
      · left
        by_contra hno
        exact h.1 (by simpa using hno) hv
      · exact .inr hv
    · rintro ⟨-, -, hz⟩ x hx rfl
      exact hz hx

end Nstu
