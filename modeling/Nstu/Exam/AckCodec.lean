import Nstu.Exam.EventCodec

/-!
# Acknowledgements on the wire

`valid_ack_shape`, `encode_answer_ack` and `decode_answer_ack` of `exam_sync.cpp`.

Encoder and decoder run the same shape check, so a message whose shape is refused is never sent
and never accepted: `encodeAnswerAck_eq_nil_iff` and `decodeAnswerAck_eq_some_iff`.
-/

namespace Nstu

open Wire Reader

def kAckMagic : UInt32 := 0x314b414e

def kAnswerAckBytes : ℕ := 4 + 2 + 1 * 2 + 16 + 8 * 3 + 32 * 2

/-- `valid_ack_status`, a range check on the raw value. -/
def validAckStatus (status : AnswerAckStatus) : Bool :=
  AnswerAckStatus.accepted.raw ≤ status.raw && status.raw ≤ AnswerAckStatus.unavailable.raw

def validAckShape (ack : AnswerAck) : Bool :=
  if !validAckStatus ack.status || allZero ack.sessionId.toList || ack.serverTimeUnixMilliseconds == 0 then false
  else match ack.status with
    | .accepted | .duplicate =>
      ack.sequence != 0 && ack.sequence ≤ ack.highestContiguousSequence &&
        !allZero ack.eventHash.toList && !allZero ack.stateHash.toList
    | .gap => ack.sequence != 0 && ack.highestContiguousSequence < ack.sequence
    | .conflict => ack.sequence != 0
    | .rejected | .unavailable => true
    | .unnamed _ _ => false

/-- The bytes `encode_answer_ack` assembles. -/
def answerAckWire (ack : AnswerAck) : Bytes :=
  [le kAckMagic, le kWireVersion, le ack.status.raw, le (0 : UInt8),
    ack.sessionId.toList, le ack.sequence, le ack.highestContiguousSequence,
    le ack.serverTimeUnixMilliseconds, ack.eventHash.toList, ack.stateHash.toList].flatten

def encodeAnswerAck (ack : AnswerAck) : Bytes :=
  if !validAckShape ack then [] else answerAckWire ack

def readAnswerAck : Reader AnswerAck := do
  let magic : UInt32 ← readLe
  require (magic = kAckMagic)
  let version : UInt16 ← readLe
  require (version = kWireVersion)
  let rawStatus : UInt8 ← readLe
  let reserved : UInt8 ← readLe
  require (reserved = 0)
  let sessionId ← readBlock 16
  let sequence : UInt64 ← readLe
  let highest : UInt64 ← readLe
  let serverTime : UInt64 ← readLe
  let eventHash ← readBlock 32
  let stateHash ← readBlock 32
  pure ⟨AnswerAckStatus.ofRaw rawStatus, sessionId, sequence, highest, serverTime, eventHash, stateHash⟩

def decodeAnswerAck (payload : Bytes) : Option AnswerAck :=
  if payload.length ≠ kAnswerAckBytes then none
  else
    match readAnswerAck.run payload with
    | none => none
    | some (ack, _) => if !validAckShape ack then none else some ack

lemma length_answerAckWire (ack : AnswerAck) : (answerAckWire ack).length = kAnswerAckBytes := by
  simp [answerAckWire, kAnswerAckBytes]

lemma answerAckWire_ne_nil (ack : AnswerAck) : answerAckWire ack ≠ [] := by
  intro h
  have := length_answerAckWire ack
  simp [h, kAnswerAckBytes] at this

variable {ack : AnswerAck}

lemma encodeAnswerAck_eq_nil_iff : encodeAnswerAck ack = [] ↔ validAckShape ack = false := by
  simp only [encodeAnswerAck]
  cases h : validAckShape ack
  · simp
  · simp [answerAckWire_ne_nil]

lemma run_readAnswerAck_iff {s r : Bytes} : readAnswerAck.run s = some (ack, r) ↔ s = answerAckWire ack ++ r := by
  simp only [readAnswerAck, run_bind_require_iff, run_bind_readLe_iff, run_bind_readBlock_iff, run_pure_iff]
  constructor
  · rintro ⟨magic, s1, h1, hm, version, s2, h2, hv, status, s3, h3, reserved, s4, h4,
      hr, session, s5, h5, sequence, s6, h6, highest, s7, h7, time, s8, h8, event, s9, h9,
      state, s10, h10, rfl, h11⟩
    simp only [h1, hm, h2, hv, h3, h4, hr, h5, h6, h7, h8, h9, h10, h11,
      answerAckWire, AnswerAckStatus.raw_ofRaw, List.flatten_cons, List.flatten_nil,
      List.append_assoc, List.nil_append]
  · rintro rfl
    simp only [answerAckWire, List.flatten_cons, List.flatten_nil, List.append_assoc, List.nil_append]
    exact ⟨_, _, rfl, rfl, _, _, rfl, rfl, _, _, rfl, _, _, rfl, rfl, _, _, rfl, _, _, rfl, _, _,
      rfl, _, _, rfl, _, _, rfl, _, _, rfl, by simp, rfl⟩

/-- The acknowledgement decoder accepts exactly the wire forms of well-shaped acknowledgements. -/
theorem decodeAnswerAck_eq_some_iff {payload : Bytes} : decodeAnswerAck payload = some ack ↔
      validAckShape ack ∧ payload = answerAckWire ack := by
  simp only [decodeAnswerAck]
  constructor
  · intro h
    split_ifs at h with hs
    split at h
    · cases h
    · rename_i decoded rest hr
      split_ifs at h with hsh
      cases h
      have hw := run_readAnswerAck_iff.mp hr
      have hre : rest = [] := by
        have hl := congrArg List.length hw
        rw [List.length_append, length_answerAckWire] at hl
        exact List.eq_nil_of_length_eq_zero (by omega)
      subst hre
      exact ⟨by simpa using hsh, by simpa using hw⟩
  · rintro ⟨hsh, rfl⟩
    have hr : readAnswerAck.run (answerAckWire ack) = some (ack, []) :=
      run_readAnswerAck_iff.mpr (by simp)
    simp [length_answerAckWire, hr, hsh]

/-- What a sent acknowledgement says is what was acknowledged. -/
theorem decodeAnswerAck_encodeAnswerAck (h : encodeAnswerAck ack ≠ []) :
    decodeAnswerAck (encodeAnswerAck ack) = some ack := by
  rw [Ne, encodeAnswerAck_eq_nil_iff, Bool.not_eq_false] at h
  have hw : encodeAnswerAck ack = answerAckWire ack := by simp [encodeAnswerAck, h]
  rw [hw]
  exact decodeAnswerAck_eq_some_iff.mpr ⟨h, rfl⟩

end Nstu
