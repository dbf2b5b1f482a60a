import Nstu.Core.RoundTrip
import Nstu.Exam.Control

/-!
# The messages that start an exam, both ways

The decoders of `exam_control.cpp`, and what they have in common with the encoders.  Each accepts exactly the bytes its
message is written as (**`examControl_roundTrips`**).
-/

namespace Nstu

open Wire Reader List

def kExamStartFixedBytes : ℕ := 82
def kExamBeginFixedBytes : ℕ := 88

/-- `read_text`, where no length stands for an empty text. -/
def readOptionalText (length : UInt16) (maximum : ℕ) : Reader Bytes :=
  if length ≠ 0 then readControlText length maximum else pure []

def readExamStartRequest : Reader ExamStartRequest := do
  let magic : UInt32 ← readLe
  require (magic = 0x31535845)
  let version : UInt16 ← readLe
  require (version = 2)
  let flags : UInt16 ← readLe
  require (flags = 0)
  let packageBytes : UInt16 ← readLe
  let webBytes : UInt16 ← readLe
  let userDataBytes : UInt16 ← readLe
  let packageIdBytes : UInt16 ← readLe
  let candidateBytes : UInt16 ← readLe
  let packageDigest ← readBlock 32
  let clientId ← readBlock 16
  let sessionId ← readBlock 16
  let packageRoot ← readControlText packageBytes kMaximumExamControlPathBytes
  let webRoot ← readOptionalText webBytes kMaximumExamControlPathBytes
  let userDataRoot ← readOptionalText userDataBytes kMaximumExamControlPathBytes
  let packageId ← readControlText packageIdBytes kMaximumExamControlPackageIdBytes
  let candidateId ← readControlText candidateBytes kMaximumExamControlCandidateBytes
  let left ← remaining
  require (left = 0)
  let request : ExamStartRequest :=
    ⟨packageRoot, webRoot, userDataRoot, packageId, candidateId, packageDigest, clientId, sessionId⟩
  require (validateExamStartRequest request = true)
  pure request

def decodeExamStartRequest (payload : Bytes) : Option ExamStartRequest :=
  if payload.length < kExamStartFixedBytes ∨ kMaximumExamControlPayloadBytes < payload.length then none
  else (readExamStartRequest.run payload).map Prod.fst

def readExamBeginCommand : Reader ExamBeginCommand := do
  let magic : UInt32 ← readLe
  require (magic = kExamBeginMagic)
  let version : UInt16 ← readLe
  require (version = 1)
  let flags : UInt16 ← readLe
  require (flags = 0)
  let packageIdBytes : UInt16 ← readLe
  let candidateBytes : UInt16 ← readLe
  let serverStartUnixMilliseconds : UInt64 ← readLe
  let durationSeconds : UInt32 ← readLe
  let packageDigest ← readBlock 32
  let clientId ← readBlock 16
  let sessionId ← readBlock 16
  let packageId ← readControlText packageIdBytes kMaximumExamControlPackageIdBytes
  let candidateId ← readControlText candidateBytes kMaximumExamControlCandidateBytes
  let left ← remaining
  require (left = 0)
  let command : ExamBeginCommand :=
    ⟨packageId, candidateId, packageDigest, clientId, sessionId, serverStartUnixMilliseconds, durationSeconds⟩
  require (validateExamBeginCommand command = true)
  pure command

def decodeExamBeginCommand (payload : Bytes) : Option ExamBeginCommand :=
  if payload.length < kExamBeginFixedBytes ∨ kMaximumExamControlPayloadBytes < payload.length then none
  else (readExamBeginCommand.run payload).map Prod.fst

/-! ## Texts -/

lemma bounds_of_validControlText {text : Bytes} {maximum : ℕ} (h : validControlText text maximum) :
    text.length ≠ 0 ∧ text.length ≤ maximum := by
  simp only [validControlText, Bool.and_eq_true, Bool.not_eq_true', isEmpty_eq_false_iff,
    decide_eq_true_eq] at h
  exact ⟨by simpa using h.1.1.1, h.1.1.2⟩

variable {s : Bytes} {β : Type} {q : β × Bytes} {f : Bytes → Reader β} {length : UInt16} {maximum : ℕ}

lemma run_bind_readControlText_iff : (readControlText length maximum >>= f).run s = some q ↔ ∃ text r,
    s = text ++ r ∧ text.length = length.toNat ∧ validControlText text maximum ∧ (f text).run r = some q := by
  simp only [readControlText, bind_assoc, run_bind_require_iff, run_bind_readBytes_iff, pure_bind]
  constructor
  · rintro ⟨-, -, text, r, rfl, hl, hv, hr⟩
    exact ⟨text, r, rfl, hl, hv, hr⟩
  · rintro ⟨text, r, rfl, hl, hv, hr⟩
    obtain ⟨hn, hle⟩ := bounds_of_validControlText hv
    exact ⟨fun hz => hn (by rw [hl, hz]; rfl), hl ▸ hle, text, r, rfl, hl, hv, hr⟩

lemma run_bind_readOptionalText_iff : (readOptionalText length maximum >>= f).run s = some q ↔ ∃ text r,
    s = text ++ r ∧ text.length = length.toNat ∧ (text.isEmpty || validControlText text maximum) ∧
      (f text).run r = some q := by
  rw [readOptionalText]
  split_ifs with hz
  · rw [run_bind_readControlText_iff]
    refine exists_congr fun text => exists_congr fun r => and_congr_right fun _ => and_congr_right fun hl => ?_
    have hn : text.isEmpty = false := by
      rw [isEmpty_eq_false_iff, ← length_pos_iff, hl]
      exact Nat.pos_of_ne_zero fun h => hz (UInt16.toNat_inj.mp h)
    rw [hn, Bool.false_or]
  · rw [not_not] at hz
    subst hz
    rw [pure_bind]
    constructor
    · intro h
      exact ⟨[], s, rfl, rfl, rfl, h⟩
    · rintro ⟨text, r, rfl, hl, -, h⟩
      rw [eq_nil_of_length_eq_zero hl] at h ⊢
      exact h

lemma ofNat_length_of_eq {text : Bytes} (h : text.length = length.toNat) : UInt16.ofNat text.length = length := by
  rw [h, UInt16.ofNat_toNat]

lemma toNat_length_of_valid {text : Bytes} (h : validControlText text maximum) (hm : maximum < 65536) :
    text.length = (UInt16.ofNat text.length).toNat :=
  (toNat_ofNat_length ((bounds_of_validControlText h).2.trans_lt hm)).symm

lemma optional_length {text : Bytes} (h : (text.isEmpty || validControlText text maximum)) :
    text.length ≤ maximum := by
  rcases Bool.or_eq_true _ _ |>.mp h with he | hv
  · simp [isEmpty_iff.mp he]
  · exact (bounds_of_validControlText hv).2

/-! ## Each message -/

lemma decodeExamReadyReport_iff (payload : Bytes) (report : ExamReadyReport) :
    decodeExamReadyReport payload = some report ↔
      validateExamReadyReport report ∧ payload = encodeExamReadyReport report := by
  simp only [decodeExamReadyReport, encodeExamReadyReport, run_unless_iff, not_or, not_lt, readExamReadyReport, run_bind_readLe_iff,
    run_bind_require_iff, run_bind_readBlock_iff, run_bind_readControlText_iff, run_bind_remaining_iff, run_pure_iff,
    length_eq_zero_iff, flatten_cons, flatten_nil]
  constructor
  · rintro ⟨-, _, _, _, rfl, rfl, _, _, rfl, rfl, _, _, rfl, rfl, _, _, rfl, _, _, rfl, _, _, rfl, _, _, rfl, _, _, rfl,
      _, _, rfl, hp, -, _, _, rfl, hc, -, rfl, hv, rfl, -⟩
    refine ⟨hv, ?_⟩
    simp only [hv, Bool.not_true, Bool.false_eq_true, if_false, ofNat_length_of_eq hp,
      ofNat_length_of_eq hc]
  · rintro ⟨hv, rfl⟩
    obtain ⟨⟨⟨⟨hp, hc⟩, -⟩, -⟩, -⟩ := by
      simpa only [validateExamReadyReport, Bool.and_eq_true] using hv
    have hpa : report.packageId.length ≤ 128 := (bounds_of_validControlText hp).2
    have hca : report.candidateId.length ≤ 128 := (bounds_of_validControlText hc).2
    simp only [hv, Bool.not_true, Bool.false_eq_true, if_false]
    refine ⟨?_, [], _, _, rfl, rfl, _, _, rfl, rfl, _, _, rfl, rfl, _, _, rfl, _, _, rfl, _, _, rfl, _, _, rfl, _, _, rfl,
      _, _, rfl, toNat_length_of_valid hp (by decide), hp,
      _, _, rfl, toNat_length_of_valid hc (by decide), hc, rfl, hv, rfl, rfl⟩
    simp only [kExamReadyFixedBytes, kMaximumExamControlPayloadBytes, length_append, length_nil, le_length,
      Block.length_toList, size_uint32, size_uint16]
    omega

lemma decodeExamBeginCommand_iff (payload : Bytes) (command : ExamBeginCommand) :
    decodeExamBeginCommand payload = some command ↔
      validateExamBeginCommand command ∧ payload = encodeExamBeginCommand command := by
  simp only [decodeExamBeginCommand, encodeExamBeginCommand, run_unless_iff, not_or, not_lt, readExamBeginCommand, run_bind_readLe_iff,
    run_bind_require_iff, run_bind_readBlock_iff, run_bind_readControlText_iff, run_bind_remaining_iff, run_pure_iff,
    length_eq_zero_iff, flatten_cons, flatten_nil]
  constructor
  · rintro ⟨-, _, _, _, rfl, rfl, _, _, rfl, rfl, _, _, rfl, rfl, _, _, rfl, _, _, rfl, _, _, rfl, _, _, rfl, _, _, rfl,
      _, _, rfl, _, _, rfl, _, _, rfl, hp, -, _, _, rfl, hc, -, rfl, hv, rfl, -⟩
    refine ⟨hv, ?_⟩
    simp only [hv, Bool.not_true, Bool.false_eq_true, if_false, ofNat_length_of_eq hp,
      ofNat_length_of_eq hc]
  · rintro ⟨hv, rfl⟩
    obtain ⟨⟨⟨⟨⟨⟨hp, hc⟩, -⟩, -⟩, -⟩, -⟩, -⟩ := by
      simpa only [validateExamBeginCommand, Bool.and_eq_true] using hv
    have hpa : command.packageId.length ≤ 128 := (bounds_of_validControlText hp).2
    have hca : command.candidateId.length ≤ 128 := (bounds_of_validControlText hc).2
    simp only [hv, Bool.not_true, Bool.false_eq_true, if_false]
    refine ⟨?_, [], _, _, rfl, rfl, _, _, rfl, rfl, _, _, rfl, rfl, _, _, rfl, _, _, rfl, _, _, rfl, _, _, rfl, _, _, rfl,
      _, _, rfl, _, _, rfl, _, _, rfl, toNat_length_of_valid hp (by decide), hp,
      _, _, rfl, toNat_length_of_valid hc (by decide), hc, rfl, hv, rfl, rfl⟩
    simp only [kExamBeginFixedBytes, kMaximumExamControlPayloadBytes, length_append, length_nil, le_length,
      Block.length_toList, size_uint64, size_uint32, size_uint16]
    omega

lemma decodeExamStartRequest_iff (payload : Bytes) (request : ExamStartRequest) :
    decodeExamStartRequest payload = some request ↔
      validateExamStartRequest request ∧ payload = encodeExamStartRequest request := by
  simp only [decodeExamStartRequest, encodeExamStartRequest, run_unless_iff, not_or, not_lt, readExamStartRequest, run_bind_readLe_iff,
    run_bind_require_iff, run_bind_readBlock_iff, run_bind_readControlText_iff, run_bind_readOptionalText_iff,
    run_bind_remaining_iff, run_pure_iff, length_eq_zero_iff, flatten_cons, flatten_nil]
  constructor
  · rintro ⟨⟨-, hsize⟩, _, _, _, rfl, rfl, _, _, rfl, rfl, _, _, rfl, rfl, _, _, rfl, _, _, rfl, _, _, rfl, _, _, rfl,
      _, _, rfl, _, _, rfl, _, _, rfl, _, _, rfl, _, _, rfl, hroot, -, _, _, rfl, hweb, -, _, _, rfl, huser, -,
      _, _, rfl, hpack, -, _, _, rfl, hcand, -, rfl, hvalid, rfl, -⟩
    refine ⟨hvalid, ?_⟩
    simp only [hvalid, Bool.not_true, Bool.false_eq_true, if_false, ofNat_length_of_eq hroot, ofNat_length_of_eq hweb,
      ofNat_length_of_eq huser, ofNat_length_of_eq hpack, ofNat_length_of_eq hcand]
    rw [if_neg hsize.not_gt]
  · rintro ⟨hvalid, rfl⟩
    obtain ⟨⟨⟨⟨⟨⟨⟨hroot, hweb⟩, huser⟩, hpack⟩, hcand⟩, -⟩, -⟩, -⟩ := by
      simpa only [validateExamStartRequest, Bool.and_eq_true] using hvalid
    have hrootL : request.packageRoot.length ≤ 2048 := (bounds_of_validControlText hroot).2
    have hwebLe : request.webRoot.length ≤ 2048 := optional_length hweb
    have huserL : request.userDataRoot.length ≤ 2048 := optional_length huser
    have hpacka : request.packageId.length ≤ 128 := (bounds_of_validControlText hpack).2
    have hcandi : request.candidateId.length ≤ 128 := (bounds_of_validControlText hcand).2
    simp only [hvalid, Bool.not_true, Bool.false_eq_true, if_false]
    rw [if_neg]
    · refine ⟨?_, [], _, _, rfl, rfl, _, _, rfl, rfl, _, _, rfl, rfl, _, _, rfl, _, _, rfl, _, _, rfl, _, _, rfl,
        _, _, rfl, _, _, rfl, _, _, rfl, _, _, rfl, _, _, rfl, toNat_length_of_valid hroot (by decide), hroot,
        _, _, rfl, (toNat_ofNat_length (by omega)).symm, hweb, _, _, rfl, (toNat_ofNat_length (by omega)).symm, huser,
        _, _, rfl, toNat_length_of_valid hpack (by decide), hpack,
        _, _, rfl, toNat_length_of_valid hcand (by decide), hcand, rfl, hvalid, rfl, rfl⟩
      simp only [kExamStartFixedBytes, kMaximumExamControlPayloadBytes, length_append, length_nil, le_length,
        Block.length_toList, size_uint32, size_uint16]
      omega
    · simp only [kMaximumExamControlPayloadBytes, length_append, length_nil, le_length, Block.length_toList,
        size_uint32, size_uint16]
      omega

/-- **Exam control codecs.**  A start request, a ready report or a begin command that its validator accepts is encoded in
at least one byte, within the limit, and read back as it was; and what a decoder accepts is encoded to the same bytes. -/
theorem examControl_roundTrips :
    RoundTrips (validateExamStartRequest · = true) encodeExamStartRequest decodeExamStartRequest ∧
      RoundTrips (validateExamReadyReport · = true) encodeExamReadyReport decodeExamReadyReport ∧
      RoundTrips (validateExamBeginCommand · = true) encodeExamBeginCommand decodeExamBeginCommand :=
  ⟨roundTrips_of_iff decodeExamStartRequest_iff rfl, roundTrips_of_iff decodeExamReadyReport_iff rfl,
    roundTrips_of_iff decodeExamBeginCommand_iff rfl⟩

end Nstu
