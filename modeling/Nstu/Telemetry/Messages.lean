import Nstu.Telemetry.BatchCodec

/-!
# Telemetry acknowledgements and enables

The two small messages of `exam_telemetry.cpp`, with their readers and the errors of these.  Each
message is read off exactly the bytes it is written as: `decodeTelemetryAck_iff`,
`decodeTelemetryEnable_iff`.
-/

namespace Nstu.Telemetry

open Wire Reader

def kTelemetryAckFixedBytes : ℕ := 88
def kTelemetryEnableFixedBytes : ℕ := 84
def kMaximumTelemetryEnableBytes : ℕ := 16 * 1024
def kAckMagic : UInt32 := 0x3141544e
def kEnableMagic : UInt32 := 0x3145454e

/-! ## Texts -/

variable {text : Bytes} {maximum : ℕ} {allowEmpty : Bool}

lemma length_le_of_validText (h : validText text maximum allowEmpty) : text.length ≤ maximum := by
  simp only [validText] at h
  split_ifs at h with he hl
  · rw [List.isEmpty_iff] at he
    simp [he]
  · omega

lemma one_le_length_of_validText (h : validText text maximum false) : 1 ≤ text.length := by
  cases text with
  | nil => simp [validText] at h
  | cons head tail => simp

@[simp] lemma length_stringBytes (text : Bytes) : (stringBytes text).length = 2 + text.length := by
  simp [stringBytes]

variable {s rest : Bytes} {maxBytes : ℕ}

lemma run_readText_iff (hm : maxBytes < 2 ^ 16) : (readText maxBytes allowEmpty).run s = some (text, rest) ↔
      s = stringBytes text ++ rest ∧ validText text maxBytes allowEmpty := by
  constructor
  · intro h
    simp only [readText, run_bind_readLe_iff, run_bind_require_iff, run_bind_readBytes_iff, run_pure_iff] at h
    obtain ⟨len, s, rfl, -, str, r, rfl, hl, hv, rfl, rfl⟩ := h
    refine ⟨?_, hv⟩
    rw [stringBytes, hl, UInt16.ofNat_toNat, List.append_assoc]
  · rintro ⟨rfl, hv⟩
    exact run_readText hv hm

lemma run_bind_readText_iff {β : Type} {q : β × Bytes} {f : Bytes → Reader β} (hm : maxBytes < 2 ^ 16) :
    (readText maxBytes allowEmpty >>= f).run s = some q ↔
      ∃ text r, s = stringBytes text ++ r ∧ validText text maxBytes allowEmpty ∧ (f text).run r = some q := by
  rw [run_bind_iff]
  simp only [run_readText_iff hm, and_assoc]

/-! ## Acknowledgements -/

namespace TelemetryAckStatus

def raw : TelemetryAckStatus → UInt8
  | accepted => 1
  | duplicate => 2
  | rejected => 3
  | conflict => 4
  | unavailable => 5

/-- The status with a raw value, where `valid_ack_status` finds that it is one. -/
def ofRaw (value : UInt8) : Option TelemetryAckStatus :=
  [accepted, duplicate, rejected, conflict, unavailable].find? fun status => status.raw == value

lemma ofRaw_iff {value : UInt8} {status : TelemetryAckStatus} : ofRaw value = some status ↔ status.raw = value := by
  constructor
  · intro h
    simpa using List.find?_some h
  · rintro rfl
    cases status <;> rfl

end TelemetryAckStatus

/-- `validate_telemetry_ack`.  The type leaves no other status than the valid ones. -/
def validateTelemetryAck (ack : TelemetryAck) : Bool :=
  if ack.sequence == 0 || ack.serverTimeUnixMilliseconds == 0 then false
  else if allZero ack.sessionId.toList || allZero ack.producerId.toList then false
  else true

/-- The bytes of an acknowledgement. -/
def telemetryAckWire (ack : TelemetryAck) : Bytes :=
  [le kAckMagic, le kWireVersion, le ack.status.raw, le (0 : UInt8), le ack.sequence,
    le ack.serverTimeUnixMilliseconds, ack.sessionId.toList, ack.producerId.toList,
    ack.batchHash.toList].flatten

def encodeTelemetryAck (ack : TelemetryAck) : Bytes :=
  if !validateTelemetryAck ack then [] else telemetryAckWire ack

/-- The raw status of an acknowledgement. -/
def readAckHeader : Reader UInt8 := do
  let magic : UInt32 ← readLe
  require (magic = kAckMagic)
  let version : UInt16 ← readLe
  require (version = kWireVersion)
  let rawStatus : UInt8 ← readLe
  let reserved : UInt8 ← readLe
  require (reserved = 0)
  pure rawStatus

/-- The other fields, for whichever status. -/
def readAckFields : Reader (TelemetryAckStatus → TelemetryAck) := do
  let sequence : UInt64 ← readLe
  let serverTime : UInt64 ← readLe
  let sessionId ← readBlock 16
  let producerId ← readBlock 16
  let batchHash ← readBlock 32
  pure fun status => ⟨sessionId, producerId, sequence, batchHash, serverTime, status⟩

def decodeTelemetryAck (payload : Bytes) : Except String TelemetryAck :=
  if payload.length ≠ kTelemetryAckFixedBytes then .error "invalid telemetry ack payload size"
  else match readAckHeader.run payload with
    | none => .error "invalid ack header, version, or reserved bits"
    | some (rawStatus, rest) =>
      match readAckFields.run rest with
      | none => .error "malformed ack fields"
      | some (ack, rest) =>
        if !rest.isEmpty then .error "trailing bytes in ack payload"
        else
          match TelemetryAckStatus.ofRaw rawStatus with
          | none => .error "ack validation failed"
          | some status =>
            if !validateTelemetryAck (ack status) then .error "ack validation failed"
            else .ok (ack status)

lemma length_telemetryAckWire (ack : TelemetryAck) : (telemetryAckWire ack).length = kTelemetryAckFixedBytes := by
  simp [telemetryAckWire, kTelemetryAckFixedBytes]

lemma run_readAckHeader_iff {rawStatus : UInt8} : readAckHeader.run s = some (rawStatus, rest) ↔
      s = le kAckMagic ++ (le kWireVersion ++ (le rawStatus ++ (le (0 : UInt8) ++ rest))) := by
  simp only [readAckHeader, run_bind_readLe_iff, run_bind_require_iff, run_pure_iff]
  constructor
  · rintro ⟨_, _, rfl, rfl, _, _, rfl, rfl, _, _, rfl, _, _, rfl, rfl, rfl, rfl⟩
    rfl
  · rintro rfl
    exact ⟨_, _, rfl, rfl, _, _, rfl, rfl, _, _, rfl, _, _, rfl, rfl, rfl, rfl⟩

lemma run_readAckFields_iff {s rest : Bytes} {fields : TelemetryAckStatus → TelemetryAck} :
    readAckFields.run s = some (fields, rest) ↔ ∃ sequence serverTime sessionId producerId batchHash,
        s = le sequence ++ (le serverTime ++ (sessionId.toList ++ (producerId.toList ++ (batchHash.toList ++ rest)))) ∧
        fields = fun status => ⟨sessionId, producerId, sequence, batchHash, serverTime, status⟩ := by
  simp only [readAckFields, run_bind_readLe_iff, run_bind_readBlock_iff, run_pure_iff]
  constructor
  · rintro ⟨sequence, _, rfl, serverTime, _, rfl, sessionId, _, rfl, producerId, _, rfl, batchHash, _, rfl, rfl, rfl⟩
    exact ⟨sequence, serverTime, sessionId, producerId, batchHash, rfl, rfl⟩
  · rintro ⟨sequence, serverTime, sessionId, producerId, batchHash, rfl, rfl⟩
    exact ⟨_, _, rfl, _, _, rfl, _, _, rfl, _, _, rfl, _, _, rfl, rfl, rfl⟩

variable {payload : Bytes} {ack : TelemetryAck}

lemma decodeTelemetryAck_iff : decodeTelemetryAck payload = .ok ack ↔
      payload = telemetryAckWire ack ∧ validateTelemetryAck ack := by
  constructor
  · intro h
    simp only [decodeTelemetryAck] at h
    split_ifs at h with hs
    split at h
    · cases h
    · rename_i rawStatus rest hh
      split at h
      · cases h
      · rename_i fields rest' hf
        split_ifs at h with hr
        split at h
        · cases h
        · rename_i status hst
          split_ifs at h with hv
          cases h
          obtain ⟨sequence, serverTime, sessionId, producerId, batchHash, rfl, rfl⟩ :=
            run_readAckFields_iff.mp hf
          have hn : rest' = [] := by simpa using hr
          refine ⟨?_, by simpa using hv⟩
          rw [run_readAckHeader_iff.mp hh, hn, ← TelemetryAckStatus.ofRaw_iff.mp hst]
          simp [telemetryAckWire]
  · rintro ⟨rfl, hv⟩
    have hh : readAckHeader.run (telemetryAckWire ack) = some (ack.status.raw,
        le ack.sequence ++ (le ack.serverTimeUnixMilliseconds ++ (ack.sessionId.toList ++
          (ack.producerId.toList ++ (ack.batchHash.toList ++ []))))) := by
      refine run_readAckHeader_iff.mpr ?_
      simp only [telemetryAckWire, List.flatten_cons, List.flatten_nil]
    have hf := (@run_readAckFields_iff _ [] _).mpr ⟨ack.sequence, ack.serverTimeUnixMilliseconds,
      ack.sessionId, ack.producerId, ack.batchHash, rfl, rfl⟩
    have hst := TelemetryAckStatus.ofRaw_iff.mpr (rfl : ack.status.raw = _)
    simp only [decodeTelemetryAck, length_telemetryAckWire, hh, hf, hst]
    simp [hv]

lemma encodeTelemetryAck_of_valid (h : validateTelemetryAck ack) :
    encodeTelemetryAck ack = telemetryAckWire ack := by
  simp [encodeTelemetryAck, h]

/-! ## Enables -/

structure TelemetryEnable where
  packageId : Bytes
  packageDigest : Digest
  clientId : ClientId
  sessionId : SessionId
  candidateId : Bytes
  serverTimeUnixMilliseconds : UInt64
  deriving DecidableEq

def validateTelemetryEnable (enable : TelemetryEnable) : Bool :=
  if allZero enable.packageDigest.toList || allZero enable.clientId.toList ||
      allZero enable.sessionId.toList then false
  else if !validText enable.packageId kMaximumPackageIdBytes false ||
      !validText enable.candidateId kMaximumCandidateIdBytes false then false
  else true

/-- The bytes of an enable. -/
def telemetryEnableWire (enable : TelemetryEnable) : Bytes :=
  [le kEnableMagic, le kWireVersion, le (0 : UInt16), le enable.serverTimeUnixMilliseconds,
    enable.packageDigest.toList, enable.clientId.toList, enable.sessionId.toList,
    stringBytes enable.packageId, stringBytes enable.candidateId].flatten

def encodeTelemetryEnable (enable : TelemetryEnable) : Bytes :=
  if !validateTelemetryEnable enable then [] else telemetryEnableWire enable

def readEnableHeader : Reader Unit := do
  let magic : UInt32 ← readLe
  require (magic = kEnableMagic)
  let version : UInt16 ← readLe
  require (version = kWireVersion)
  let reserved : UInt16 ← readLe
  require (reserved = 0)
  pure ()

def readEnableFields : Reader TelemetryEnable := do
  let serverTime : UInt64 ← readLe
  let packageDigest ← readBlock 32
  let clientId ← readBlock 16
  let sessionId ← readBlock 16
  let packageId ← readText kMaximumPackageIdBytes false
  let candidateId ← readText kMaximumCandidateIdBytes false
  pure ⟨packageId, packageDigest, clientId, sessionId, candidateId, serverTime⟩

def decodeTelemetryEnable (payload : Bytes) : Except String TelemetryEnable :=
  if payload.length < kTelemetryEnableFixedBytes + 2 ∨
      kMaximumTelemetryEnableBytes < payload.length then .error "invalid enable payload size"
  else match readEnableHeader.run payload with
    | none => .error "invalid enable header, version, or reserved bits"
    | some (_, rest) =>
      match readEnableFields.run rest with
      | none => .error "malformed enable identity fields"
      | some (enable, rest) =>
        if !rest.isEmpty then .error "trailing bytes in enable payload"
        else if !validateTelemetryEnable enable then .error "enable validation failed"
        else .ok enable

variable {enable : TelemetryEnable}

lemma validText_of_validEnable (h : validateTelemetryEnable enable) :
    validText enable.packageId kMaximumPackageIdBytes false ∧
      validText enable.candidateId kMaximumCandidateIdBytes false := by
  simp only [validateTelemetryEnable] at h
  split_ifs at h with hz ht
  simpa using ht

lemma length_telemetryEnableWire (h : validateTelemetryEnable enable) :
    kTelemetryEnableFixedBytes + 2 ≤ (telemetryEnableWire enable).length ∧
      (telemetryEnableWire enable).length ≤ kMaximumTelemetryEnableBytes := by
  obtain ⟨hp, hc⟩ := validText_of_validEnable h
  have hpa := one_le_length_of_validText hp
  have hca := one_le_length_of_validText hc
  have hpac := length_le_of_validText hp
  have hcan := length_le_of_validText hc
  have hl : (telemetryEnableWire enable).length = 84 + enable.packageId.length + enable.candidateId.length := by
    simp [telemetryEnableWire]
    omega
  simp only [kTelemetryEnableFixedBytes, kMaximumTelemetryEnableBytes, kMaximumPackageIdBytes,
    kMaximumCandidateIdBytes] at *
  omega

lemma run_readEnableHeader_iff : readEnableHeader.run s = some ((), rest) ↔
      s = le kEnableMagic ++ (le kWireVersion ++ (le (0 : UInt16) ++ rest)) := by
  simp only [readEnableHeader, run_bind_readLe_iff, run_bind_require_iff, run_pure_iff]
  constructor
  · rintro ⟨_, _, rfl, rfl, _, _, rfl, rfl, _, _, rfl, rfl, -, rfl⟩
    rfl
  · rintro rfl
    exact ⟨_, _, rfl, rfl, _, _, rfl, rfl, _, _, rfl, rfl, trivial, rfl⟩

lemma run_readEnableFields_iff {s rest : Bytes} {enable : TelemetryEnable} :
    readEnableFields.run s = some (enable, rest) ↔
      s = le enable.serverTimeUnixMilliseconds ++ (enable.packageDigest.toList ++
        (enable.clientId.toList ++ (enable.sessionId.toList ++ (stringBytes enable.packageId ++
          (stringBytes enable.candidateId ++ rest))))) ∧
      validText enable.packageId kMaximumPackageIdBytes false ∧
      validText enable.candidateId kMaximumCandidateIdBytes false := by
  have hp : kMaximumPackageIdBytes < 2 ^ 16 := by decide
  have hc : kMaximumCandidateIdBytes < 2 ^ 16 := by decide
  simp only [readEnableFields, run_bind_readLe_iff, run_bind_readBlock_iff,
    run_bind_readText_iff hp, run_bind_readText_iff hc, run_pure_iff]
  constructor
  · rintro ⟨serverTime, _, rfl, packageDigest, _, rfl, clientId, _, rfl, sessionId, _, rfl, packageId, _,
      rfl, hpa, candidateId, _, rfl, hca, rfl, rfl⟩
    exact ⟨rfl, hpa, hca⟩
  · rintro ⟨rfl, hpa, hca⟩
    exact ⟨_, _, rfl, _, _, rfl, _, _, rfl, _, _, rfl, _, _, rfl, hpa, _, _, rfl, hca, rfl, rfl⟩

lemma decodeTelemetryEnable_iff : decodeTelemetryEnable payload = .ok enable ↔
      payload = telemetryEnableWire enable ∧ validateTelemetryEnable enable := by
  constructor
  · intro h
    simp only [decodeTelemetryEnable] at h
    split_ifs at h with hs
    split at h
    · cases h
    · rename_i rest hh
      split at h
      · cases h
      · rename_i enable' rest' hf
        split_ifs at h with hr hv
        cases h
        have hn : rest' = [] := by simpa using hr
        refine ⟨?_, by simpa using hv⟩
        rw [run_readEnableHeader_iff.mp hh, (run_readEnableFields_iff.mp hf).1, hn]
        simp [telemetryEnableWire]
  · rintro ⟨rfl, hv⟩
    obtain ⟨hl, hm⟩ := length_telemetryEnableWire hv
    have hh : readEnableHeader.run (telemetryEnableWire enable) = some ((),
        le enable.serverTimeUnixMilliseconds ++ (enable.packageDigest.toList ++
          (enable.clientId.toList ++ (enable.sessionId.toList ++ (stringBytes enable.packageId ++
            (stringBytes enable.candidateId ++ [])))))) := by
      refine run_readEnableHeader_iff.mpr ?_
      simp only [telemetryEnableWire, List.flatten_cons, List.flatten_nil]
    have hf := (@run_readEnableFields_iff _ [] _).mpr ⟨rfl, validText_of_validEnable hv⟩
    rw [decodeTelemetryEnable, if_neg (by omega), hh]
    simp only [hf]
    simp [hv]

lemma encodeTelemetryEnable_of_valid (h : validateTelemetryEnable enable) :
    encodeTelemetryEnable enable = telemetryEnableWire enable := by
  simp [encodeTelemetryEnable, h]

end Nstu.Telemetry
