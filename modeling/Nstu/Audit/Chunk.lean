import Nstu.Audit.Sanitize
import Nstu.Core.Wire

/-!
# Audit records on the wire

The records of `audit.hpp` and the codecs of `audit_upload` and `audit_ack` in `audit.cpp`.

A chunk takes as many records as go into it.  What comes out at the other end is `received`: an event is
sanitised on the way in and on the way out.
-/

namespace Nstu.Audit

open Wire Reader List

inductive Category
  | enrollment
  | managedMode
  | uwf
  | exam
  | session
  | security
  | system
  deriving DecidableEq

inductive Severity
  | info
  | warning
  | error
  deriving DecidableEq

def Category.toByte : Category → UInt8
  | .enrollment => 1
  | .managedMode => 2
  | .uwf => 3
  | .exam => 4
  | .session => 5
  | .security => 6
  | .system => 7

/-- `category_in_range` and the cast. -/
def Category.ofByte : UInt8 → Option Category
  | 1 => some .enrollment
  | 2 => some .managedMode
  | 3 => some .uwf
  | 4 => some .exam
  | 5 => some .session
  | 6 => some .security
  | 7 => some .system
  | _ => none

def Severity.toByte : Severity → UInt8
  | .info => 1
  | .warning => 2
  | .error => 3

def Severity.ofByte : UInt8 → Option Severity
  | 1 => some .info
  | 2 => some .warning
  | 3 => some .error
  | _ => none

@[simp] lemma Category.ofByte_toByte (category : Category) : ofByte category.toByte = some category := by
  cases category <;> rfl

@[simp] lemma Severity.ofByte_toByte (severity : Severity) : ofByte severity.toByte = some severity := by
  cases severity <;> rfl

def kMaximumFieldBytes : ℕ := 128
def kMaximumDetailBytes : ℕ := 256
def kMaximumEventsPerChunk : ℕ := 64
def kMaximumChunkBytes : ℕ := 32 * 1024

structure Event where
  category : Category := .system
  severity : Severity := .info
  component : Bytes := []
  action : Bytes := []
  result : Bytes := []
  operationId : UInt64 := 0
  clientId : UInt64 := 0
  detail : Bytes := []
  deriving DecidableEq

structure Record where
  sequence : UInt64 := 0
  timestampUnixMilliseconds : UInt64 := 0
  event : Event := {}
  deriving DecidableEq

def sanitizeEvent (event : Event) : Event :=
  { event with
    component := sanitizeAuditField event.component kMaximumFieldBytes
    action := sanitizeAuditField event.action kMaximumFieldBytes
    result := sanitizeAuditField event.result kMaximumFieldBytes
    detail := sanitizeAuditField event.detail kMaximumDetailBytes }

def Record.sanitized (record : Record) : Record := { record with event := sanitizeEvent record.event }

/-- What the server makes of a record that was sent to it. -/
def Record.received (record : Record) : Record := record.sanitized.sanitized

/-! ## Chunks -/

def appendString (value : Bytes) : Bytes := le (UInt16.ofNat value.length) ++ value

/-- The bytes of one record in a chunk, apart from the sanitising. -/
def encodeRecord (record : Record) : Bytes :=
  [le record.sequence, le record.timestampUnixMilliseconds, le record.event.category.toByte,
    le record.event.severity.toByte, le record.event.operationId, le record.event.clientId,
    appendString record.event.component, appendString record.event.action, appendString record.event.result,
    appendString record.event.detail].flatten

/-- The loop of `encode_audit_chunk`, over how many records there are and their bytes. -/
def encodeRecords : ℕ → Bytes → List Record → ℕ × Bytes
  | count, body, [] => (count, body)
  | count, body, record :: rest =>
    if kMaximumEventsPerChunk ≤ count then (count, body)
    else
      let encoded := encodeRecord record.sanitized
      if kMaximumChunkBytes < 3 + body.length + encoded.length then (count, body)
      else encodeRecords (count + 1) (body ++ encoded) rest

def encodeAuditChunk (records : List Record) : Bytes :=
  let encoded := encodeRecords 0 [] records
  [le (1 : UInt8), le (UInt16.ofNat encoded.1), encoded.2].flatten

def readString (maximum : ℕ) : Reader Bytes := do
  let length : UInt16 ← readLe
  require (length.toNat ≤ maximum)
  readBytes length.toNat

def readRecord : Reader Record := do
  let sequence : UInt64 ← readLe
  let timestamp : UInt64 ← readLe
  let category : UInt8 ← readLe
  let category ← ofOption (Category.ofByte category)
  let severity : UInt8 ← readLe
  let severity ← ofOption (Severity.ofByte severity)
  let operationId : UInt64 ← readLe
  let clientId : UInt64 ← readLe
  let component ← readString kMaximumFieldBytes
  let action ← readString kMaximumFieldBytes
  let result ← readString kMaximumFieldBytes
  let detail ← readString kMaximumDetailBytes
  pure (Record.sanitized
    ⟨sequence, timestamp, ⟨category, severity, component, action, result, operationId, clientId, detail⟩⟩)

def readChunk : Reader (List Record) := do
  let version : UInt8 ← readLe
  require (version = 1)
  let count : UInt16 ← readLe
  require (count.toNat ≤ kMaximumEventsPerChunk)
  readTimes readRecord count.toNat

def decodeAuditChunk (payload : Bytes) : Option (List Record) :=
  if kMaximumChunkBytes < payload.length then none
  else match readChunk.run payload with
  | some (records, []) => some records
  | _ => none

/-! ### One record -/

lemma run_readString {value : Bytes} {maximum : ℕ} (hv : value.length ≤ maximum) (hm : maximum < 65536)
    (rest : Bytes) : (readString maximum).run (appendString value ++ rest) = some (value, rest) := by
  have hl : (UInt16.ofNat value.length).toNat = value.length := UInt16.toNat_ofNat_of_lt' (by
    rw [UInt16.size]
    omega)
  rw [readString, run_bind_readLe_iff]
  refine ⟨_, _, by rw [appendString, append_assoc], ?_⟩
  rw [run_bind_require_iff, run_readBytes_iff, hl]
  exact ⟨hv, rfl, rfl⟩

lemma length_encodeRecord_sanitized (record : Record) :
    3 + (encodeRecord record.sanitized).length ≤ kMaximumChunkBytes := by
  have hc := length_sanitizeAuditField record.event.component kMaximumFieldBytes
  have ha := length_sanitizeAuditField record.event.action kMaximumFieldBytes
  have hr := length_sanitizeAuditField record.event.result kMaximumFieldBytes
  have hd := length_sanitizeAuditField record.event.detail kMaximumDetailBytes
  simp only [encodeRecord, Record.sanitized, sanitizeEvent, appendString, flatten_cons, flatten_nil,
    length_append, le_length, size_uint64, size_uint8, size_uint16, length_nil, kMaximumFieldBytes,
    kMaximumDetailBytes, kMaximumChunkBytes] at *
  omega

lemma run_readRecord (record : Record) (rest : Bytes) :
    readRecord.run (encodeRecord record.sanitized ++ rest) = some (record.received, rest) := by
  have hc := length_sanitizeAuditField record.event.component kMaximumFieldBytes
  have ha := length_sanitizeAuditField record.event.action kMaximumFieldBytes
  have hr := length_sanitizeAuditField record.event.result kMaximumFieldBytes
  have hd := length_sanitizeAuditField record.event.detail kMaximumDetailBytes
  simp only [readRecord, run_bind_ofOption_iff, run_bind_readLe_iff, encodeRecord, flatten_cons,
    flatten_nil, append_assoc, nil_append]
  refine ⟨_, _, rfl, _, _, rfl, _, _, rfl, _, Category.ofByte_toByte _, _, _, rfl, _, Severity.ofByte_toByte _,
    _, _, rfl, _, _, rfl, ?_⟩
  simp only [run_bind_iff]
  exact ⟨_, _, run_readString hc (by decide) _, _, _, run_readString ha (by decide) _, _, _,
    run_readString hr (by decide) _, _, _, run_readString hd (by decide) _, rfl⟩

lemma run_readRecords (records : List Record) (rest : Bytes) : (readTimes readRecord records.length).run
        ((records.flatMap fun record => encodeRecord record.sanitized) ++ rest) =
      some (records.map Record.received, rest) :=
  run_readTimes rest fun record _ rest => run_readRecord record rest

/-! ### Chunks -/

lemma encodeRecords_eq (count : ℕ) (body : Bytes) (records : List Record) (hc : count ≤ kMaximumEventsPerChunk)
    (hb : 3 + body.length ≤ kMaximumChunkBytes) :
    ∃ n, n ≤ records.length ∧ count + n ≤ kMaximumEventsPerChunk ∧ encodeRecords count body records =
        (count + n, body ++ (records.take n).flatMap fun record => encodeRecord record.sanitized) ∧
      3 + (encodeRecords count body records).2.length ≤ kMaximumChunkBytes := by
  induction records generalizing count body with
  | nil => exact ⟨0, le_refl 0, hc, by simp [encodeRecords], hb⟩
  | cons record rest ih =>
    rw [encodeRecords]
    dsimp only
    split_ifs with hf hl
    · exact ⟨0, Nat.zero_le _, hc, by simp, hb⟩
    · exact ⟨0, Nat.zero_le _, hc, by simp, hb⟩
    · obtain ⟨n, hn, hc', he, hle⟩ := ih (count + 1) (body ++ encodeRecord record.sanitized) (by omega)
        (by rw [length_append]; omega)
      refine ⟨n + 1, Nat.succ_le_succ hn, by omega, ?_, hle⟩
      rw [he, take_succ_cons, flatMap_cons, append_assoc, Nat.add_assoc, Nat.add_comm 1 n]

lemma encodeRecords_pos (record : Record) (rest : List Record) : 1 ≤ (encodeRecords 0 [] (record :: rest)).1 := by
  have hr := length_encodeRecord_sanitized record
  rw [encodeRecords, if_neg (by decide)]
  dsimp only
  rw [if_neg (by simp only [length_nil]; omega)]
  obtain ⟨n, -, -, he, -⟩ := encodeRecords_eq 1 (encodeRecord record.sanitized) rest (by decide) hr
  rw [nil_append, Nat.zero_add, he]
  exact Nat.le_add_right 1 n

/-- **A chunk is accepted.**  What is read from it are the records that went into it. -/
lemma decodeAuditChunk_encodeRecords (records : List Record) : decodeAuditChunk (encodeAuditChunk records) =
    some ((records.take (encodeRecords 0 [] records).1).map Record.received) := by
  obtain ⟨n, hn, hcount, heq, hleng⟩ := encodeRecords_eq 0 [] records (by decide) (by decide)
  rw [Nat.zero_add] at hcount
  rw [Nat.zero_add, nil_append] at heq
  have hword : (UInt16.ofNat n).toNat = n := UInt16.toNat_ofNat_of_lt' (by
    rw [kMaximumEventsPerChunk] at hcount
    rw [UInt16.size]
    omega)
  have hchunk : encodeAuditChunk records = le (1 : UInt8) ++ (le (UInt16.ofNat n) ++
      ((records.take n).flatMap (fun record => encodeRecord record.sanitized) ++ [])) := by
    simp only [encodeAuditChunk, heq, flatten_cons, flatten_nil]
  have hsize : ¬ kMaximumChunkBytes < (encodeAuditChunk records).length := by
    rw [heq] at hleng
    rw [hchunk]
    simp only [length_append, le_length, size_uint8, size_uint16, length_nil] at hleng ⊢
    omega
  have htake : (records.take n).length = n := length_take_of_le hn
  have hread : readChunk.run (encodeAuditChunk records) = some ((records.take n).map Record.received, []) := by
    rw [hchunk, readChunk, run_bind_readLe_iff]
    refine ⟨_, _, rfl, ?_⟩
    rw [run_bind_require_iff, run_bind_readLe_iff]
    refine ⟨rfl, _, _, rfl, ?_⟩
    rw [run_bind_require_iff, hword]
    refine ⟨hcount, ?_⟩
    have htimes := run_readRecords (records.take n) []
    rw [htake] at htimes
    exact htimes
  rw [decodeAuditChunk, if_neg hsize, hread, heq]

/-- They are the first so many, and of a non-empty list at least the first one. -/
theorem decodeAuditChunk_encode (records : List Record) : ∃ n, n ≤ records.length ∧ (records ≠ [] → n ≠ 0) ∧
    decodeAuditChunk (encodeAuditChunk records) = some ((records.take n).map Record.received) := by
  obtain ⟨n, hn, -, he, -⟩ := encodeRecords_eq 0 [] records (by decide) (by decide)
  refine ⟨(encodeRecords 0 [] records).1, ?_, ?_, decodeAuditChunk_encodeRecords records⟩
  · rw [he]
    exact (Nat.zero_add n).symm ▸ hn
  · intro hne
    obtain ⟨record, rest, rfl⟩ := exists_cons_of_ne_nil hne
    exact Nat.one_le_iff_ne_zero.mp (encodeRecords_pos record rest)

/-! ## Acknowledgements -/

def encodeAuditAck (lastAcceptedSequence : UInt64) : Bytes := le (1 : UInt8) ++ le lastAcceptedSequence

def readAck : Reader UInt64 := do
  let version : UInt8 ← readLe
  require (version = 1)
  readLe

def decodeAuditAck (payload : Bytes) : Option UInt64 :=
  match readAck.run payload with
  | some (sequence, []) => some sequence
  | _ => none

lemma decodeAuditAck_encode (sequence : UInt64) : decodeAuditAck (encodeAuditAck sequence) = some sequence := by
  have hr : readAck.run (encodeAuditAck sequence) = some (sequence, []) := by
    rw [readAck, run_bind_readLe_iff]
    refine ⟨1, le sequence, rfl, ?_⟩
    rw [run_bind_require_iff, run_readLe_iff, append_nil]
    exact ⟨rfl, rfl⟩
  rw [decodeAuditAck, hr]

end Nstu.Audit
