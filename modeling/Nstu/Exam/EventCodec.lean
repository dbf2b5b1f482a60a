import Nstu.Exam.Types

/-!
# Answer events on the wire

`validate_answer_event`, `encode_answer_event`, `decode_answer_event` and `hash_answer_event` of
`exam_sync.cpp`.

The event hash is the digest of the encoded event, and three parties compute it: the client when
it fills its outbox, the outbox when it reloads its file, and the server journal.  They agree only
if there is one byte string per event, so the decoder has to accept nothing but what the encoder
writes.  `decodeAnswerEvent_eq_ok_iff` says exactly that, and both round trips are its two
directions.
-/

namespace Nstu

open Wire Reader

def kEventMagic : UInt32 := 0x3156454e
def kWireVersion : UInt16 := 1

def kAnswerEventFixedBytes : ℕ := 4 + 2 + 1 * 2 + 8 * 2 + 4 + 2 * 3 + 4 + 32 + 16 + 16 + 32

/-! ## Validation -/

def validKind (kind : AnswerKind) : Bool :=
  kind == .upsert || kind == .clear || kind == .finalize

/-- `validate_answer_event`; a refusal carries the text `invalidAnswerEvent`. -/
def validateAnswerEvent (event : AnswerEvent) : Bool :=
  !(!validText event.packageId kMaximumPackageIdBytes false ||
    allZero event.packageDigest.toList || !validIdentity event.clientId event.sessionId ||
    !validText event.candidateId kMaximumCandidateIdBytes false ||
    !validKind event.kind || event.questionRevision == 0 ||
    event.sequence == 0 || event.clientTimeUnixMilliseconds == 0 ||
    event.answer.length > kMaximumAnswerBytes ||
    (event.kind != .finalize && !validText event.questionId kMaximumQuestionIdBytes false) ||
    (event.kind == .finalize && (!event.questionId.isEmpty || !event.answer.isEmpty)) ||
    (event.kind == .clear && !event.answer.isEmpty) ||
    (event.sequence == 1 && !allZero event.previousEventHash.toList))

def invalidAnswerEvent : String := "invalid exam answer event"

/-- What a valid event is, clause by clause. -/
structure ValidAnswerEvent (event : AnswerEvent) : Prop where
  packageId : validText event.packageId kMaximumPackageIdBytes false = true
  packageDigest : allZero event.packageDigest.toList = false
  identity : validIdentity event.clientId event.sessionId = true
  candidateId : validText event.candidateId kMaximumCandidateIdBytes false = true
  kind : validKind event.kind = true
  questionRevision : event.questionRevision ≠ 0
  sequence : event.sequence ≠ 0
  clientTime : event.clientTimeUnixMilliseconds ≠ 0
  answer : event.answer.length ≤ kMaximumAnswerBytes
  questionId : event.kind ≠ .finalize → validText event.questionId kMaximumQuestionIdBytes false = true
  finalize : event.kind = .finalize → event.questionId = [] ∧ event.answer = []
  clear : event.kind = .clear → event.answer = []
  first : event.sequence = 1 → allZero event.previousEventHash.toList = true

variable {event : AnswerEvent}

lemma validateAnswerEvent_iff : validateAnswerEvent event ↔ ValidAnswerEvent event := by
  constructor
  · intro h
    simp only [validateAnswerEvent, Bool.not_eq_true', Bool.or_eq_false_iff, Bool.and_eq_false_iff,
      Bool.not_eq_false', beq_eq_false_iff_ne, bne_eq_false_iff_eq, decide_eq_false_iff_not,
      Nat.not_lt, List.isEmpty_iff, gt_iff_lt] at h
    obtain ⟨⟨⟨⟨⟨⟨⟨⟨⟨⟨⟨⟨h1, h2⟩, h3⟩, h4⟩, h5⟩, h6⟩, h7⟩, h8⟩, h9⟩, h10⟩, h11⟩, h12⟩, h13⟩ := h
    exact ⟨h1, h2, h3, h4, h5, h6, h7, h8, h9, fun hk => h10.resolve_left hk,
      fun hk => h11.resolve_left (fun hn => hn hk), fun hk => h12.resolve_left (fun hn => hn hk),
      fun hs => h13.resolve_left (fun hn => hn hs)⟩
  · intro h
    simp only [validateAnswerEvent, Bool.not_eq_true', Bool.or_eq_false_iff, Bool.and_eq_false_iff,
      Bool.not_eq_false', beq_eq_false_iff_ne, bne_eq_false_iff_eq, decide_eq_false_iff_not,
      Nat.not_lt, List.isEmpty_iff, gt_iff_lt]
    refine ⟨⟨⟨⟨⟨⟨⟨⟨⟨⟨⟨⟨h.packageId, h.packageDigest⟩, h.identity⟩, h.candidateId⟩, h.kind⟩,
      h.questionRevision⟩, h.sequence⟩, h.clientTime⟩, h.answer⟩, ?_⟩, ?_⟩, ?_⟩, ?_⟩
    · exact or_iff_not_imp_left.mpr h.questionId
    · exact (Decidable.em (event.kind = .finalize)).symm.imp_right h.finalize
    · exact (Decidable.em (event.kind = .clear)).symm.imp_right h.clear
    · exact (Decidable.em (event.sequence = 1)).symm.imp_right h.first

/-! ## Encoding -/

/-- The bytes `encode_answer_event` assembles, before its size check. -/
def answerEventWire (event : AnswerEvent) : Bytes :=
  [le kEventMagic, le kWireVersion, le event.kind.raw, le (0 : UInt8),
    le event.sequence, le event.clientTimeUnixMilliseconds, le event.questionRevision,
    le (UInt16.ofNat event.packageId.length), le (UInt16.ofNat event.candidateId.length),
    le (UInt16.ofNat event.questionId.length), le (UInt32.ofNat event.answer.length),
    event.packageDigest.toList, event.clientId.toList, event.sessionId.toList,
    event.previousEventHash.toList,
    event.packageId, event.candidateId, event.questionId, event.answer].flatten

def encodeAnswerEvent (event : AnswerEvent) : Bytes :=
  if !validateAnswerEvent event || event.answer.length > 2 ^ 32 - 1 then []
  else
    let wire := answerEventWire event
    if wire.length ≤ kMaximumWireBytes then wire else []

/-- `hash_answer_event`, over the digest function the platform supplies. -/
def hashAnswerEvent (sha256 : Bytes → Digest) (event : AnswerEvent) : Option Digest :=
  let wire := encodeAnswerEvent event
  if wire.isEmpty then none else some (sha256 wire)

/-! ## Decoding -/

def readString (length : UInt16) (maximum : ℕ) (allowEmpty : Bool) : Reader Bytes := do
  require (length.toNat ≤ maximum)
  let output ← readBytes length.toNat
  require (validText output maximum allowEmpty = true)
  pure output

/-- The lengths of the four variable fields, as the header announces them. -/
structure AnswerEventLengths where
  packageBytes : UInt16
  candidateBytes : UInt16
  questionBytes : UInt16
  answerBytes : UInt32

/-- The fixed part of an event.  The variable fields are still empty. -/
def readAnswerEventHeader : Reader (AnswerEvent × AnswerEventLengths) := do
  let magic : UInt32 ← readLe
  require (magic = kEventMagic)
  let version : UInt16 ← readLe
  require (version = kWireVersion)
  let rawKind : UInt8 ← readLe
  let reserved : UInt8 ← readLe
  require (reserved = 0)
  let sequence : UInt64 ← readLe
  let clientTime : UInt64 ← readLe
  let questionRevision : UInt32 ← readLe
  let packageBytes : UInt16 ← readLe
  let candidateBytes : UInt16 ← readLe
  let questionBytes : UInt16 ← readLe
  let answerBytes : UInt32 ← readLe
  let packageDigest ← readBlock 32
  let clientId ← readBlock 16
  let sessionId ← readBlock 16
  let previousEventHash ← readBlock 32
  pure (⟨[], packageDigest, clientId, sessionId, [], [], questionRevision, sequence, clientTime,
      AnswerKind.ofRaw rawKind, [], previousEventHash⟩,
    ⟨packageBytes, candidateBytes, questionBytes, answerBytes⟩)

/-- The variable part.  What is left of the payload has to be exactly the four fields. -/
def readAnswerEventFields (event : AnswerEvent) (lengths : AnswerEventLengths) :
    Reader AnswerEvent := do
  require (lengths.packageBytes.toNat ≤ kMaximumPackageIdBytes)
  require (lengths.candidateBytes.toNat ≤ kMaximumCandidateIdBytes)
  require (lengths.questionBytes.toNat ≤ kMaximumQuestionIdBytes)
  require (lengths.answerBytes.toNat ≤ kMaximumAnswerBytes)
  let left ← remaining
  require (left = lengths.packageBytes.toNat + lengths.candidateBytes.toNat +
    lengths.questionBytes.toNat + lengths.answerBytes.toNat)
  let packageId ← readString lengths.packageBytes kMaximumPackageIdBytes false
  let candidateId ← readString lengths.candidateBytes kMaximumCandidateIdBytes false
  let questionId ← readString lengths.questionBytes kMaximumQuestionIdBytes true
  let rest ← remaining
  let answer ← readBytes rest
  pure { event with
    packageId := packageId
    candidateId := candidateId
    questionId := questionId
    answer := answer }

def decodeAnswerEvent (payload : Bytes) : Except String AnswerEvent :=
  if payload.length < kAnswerEventFixedBytes ∨ kMaximumWireBytes < payload.length then
    .error "exam answer event is truncated or oversized"
  else
    match readAnswerEventHeader.run payload with
    | none => .error "invalid exam answer event header"
    | some ((event, lengths), rest) =>
      match (readAnswerEventFields event lengths).run rest with
      | none => .error "invalid exam answer event fields"
      | some (event, _) =>
        if validateAnswerEvent event then .ok event else .error invalidAnswerEvent

/-! ## Lengths -/

lemma length_answerEventWire (event : AnswerEvent) :
    (answerEventWire event).length = kAnswerEventFixedBytes + event.packageId.length +
      event.candidateId.length + event.questionId.length + event.answer.length := by
  simp only [answerEventWire, List.flatten_cons, List.flatten_nil, List.length_append,
    List.length_nil, le_length, size_uint8, size_uint16, size_uint32, size_uint64,
    Block.length_toList, kAnswerEventFixedBytes]
  omega

lemma ValidAnswerEvent.length_questionId (h : ValidAnswerEvent event) :
    event.questionId.length ≤ kMaximumQuestionIdBytes := by
  by_cases hk : event.kind = .finalize
  · rw [(h.finalize hk).1]
    exact Nat.zero_le _
  · exact (validText_iff.mp (h.questionId hk)).2.1

lemma ValidAnswerEvent.length_wire_le (h : ValidAnswerEvent event) :
    (answerEventWire event).length ≤ kMaximumWireBytes := by
  have hp := (validText_iff.mp h.packageId).2.1
  have hc := (validText_iff.mp h.candidateId).2.1
  have hq := h.length_questionId
  have ha := h.answer
  rw [length_answerEventWire]
  simp only [kMaximumPackageIdBytes, kMaximumCandidateIdBytes, kMaximumQuestionIdBytes,
    kMaximumAnswerBytes, kAnswerEventFixedBytes, kMaximumWireBytes, kMaximumExamPayloadBytes,
    kMaxCommandPayload, kControlAuthTagBytes] at *
  omega

lemma answerEventWire_ne_nil (event : AnswerEvent) : answerEventWire event ≠ [] := by
  intro h
  have := length_answerEventWire event
  rw [h] at this
  simp only [List.length_nil, kAnswerEventFixedBytes] at this
  omega

lemma encodeAnswerEvent_of_valid (h : ValidAnswerEvent event) : encodeAnswerEvent event = answerEventWire event := by
  have hv := validateAnswerEvent_iff.mpr h
  have ha : ¬ event.answer.length > 2 ^ 32 - 1 := by
    have := h.answer
    simp only [kMaximumAnswerBytes] at this
    omega
  have hl := h.length_wire_le
  simp only [encodeAnswerEvent]
  rw [if_neg (by simp only [hv, Bool.not_true, Bool.false_or, decide_eq_true_eq]; exact ha)]
  exact if_pos hl

lemma encodeAnswerEvent_eq_nil_iff : encodeAnswerEvent event = [] ↔ ¬ ValidAnswerEvent event := by
  constructor
  · intro h hv
    rw [encodeAnswerEvent_of_valid hv] at h
    exact answerEventWire_ne_nil event h
  · intro h
    rw [← validateAnswerEvent_iff, Bool.not_eq_true] at h
    simp [encodeAnswerEvent, h]

lemma hashAnswerEvent_of_valid {sha256 : Bytes → Digest} (h : ValidAnswerEvent event) :
    hashAnswerEvent sha256 event = some (sha256 (answerEventWire event)) := by
  simp [hashAnswerEvent, encodeAnswerEvent_of_valid h, answerEventWire_ne_nil]

/-! ## The decoder accepts exactly the wire forms of valid events -/

variable {length : UInt16} {maximum : ℕ} {allowEmpty : Bool} {s r : Bytes}

lemma run_readString_iff {b : Bytes} : (readString length maximum allowEmpty).run s = some (b, r) ↔
      s = b ++ r ∧ b.length = length.toNat ∧ validText b maximum allowEmpty := by
  simp only [readString, run_bind_require_iff, run_bind_readBytes_iff, run_pure_iff]
  constructor
  · rintro ⟨-, output, rest, rfl, hl, ht, rfl, rfl⟩
    exact ⟨rfl, hl, ht⟩
  · rintro ⟨rfl, hl, ht⟩
    have hm := (validText_iff.mp ht).2.1
    exact ⟨by omega, b, r, rfl, hl, ht, rfl, rfl⟩

lemma run_bind_readString_iff {β : Type} {f : Bytes → Reader β} {q : β × Bytes} :
    (readString length maximum allowEmpty >>= f).run s = some q ↔
      ∃ b r, s = b ++ r ∧ b.length = length.toNat ∧ validText b maximum allowEmpty ∧ (f b).run r = some q := by
  rw [run_bind_iff]
  simp only [run_readString_iff, and_assoc]

variable {lengths : AnswerEventLengths}

lemma run_readAnswerEventHeader_iff : readAnswerEventHeader.run s = some ((event, lengths), r) ↔
      (event.packageId = [] ∧ event.candidateId = [] ∧ event.questionId = [] ∧ event.answer = []) ∧
      s = le kEventMagic ++ (le kWireVersion ++ (le event.kind.raw ++ (le (0 : UInt8) ++
        (le event.sequence ++ (le event.clientTimeUnixMilliseconds ++
        (le event.questionRevision ++ (le lengths.packageBytes ++ (le lengths.candidateBytes ++
        (le lengths.questionBytes ++ (le lengths.answerBytes ++ (event.packageDigest.toList ++
        (event.clientId.toList ++ (event.sessionId.toList ++ (event.previousEventHash.toList ++ r)))))))))))))) := by
  simp only [readAnswerEventHeader, run_bind_require_iff, run_bind_readLe_iff, run_bind_readBlock_iff, run_pure_iff]
  constructor
  · rintro ⟨magic, s1, h1, hm, version, s2, h2, hv, kind, s3, h3, reserved, s4, h4,
      hr, sequence, s5, h5, time, s6, h6, revision, s7, h7, pb, s8, h8, cb, s9, h9, qb, s10,
      h10, ab, s11, h11, digest, s12, h12, client, s13, h13, session, s14, h14, previous, s15, h15,
      he, h16⟩
    simp only [Prod.mk.injEq] at he
    obtain ⟨rfl, rfl⟩ := he
    simp only [h1, hm, h2, hv, h3, h4, hr, h5, h6, h7, h8, h9, h10, h11, h12, h13,
      h14, h15, h16, AnswerKind.raw_ofRaw, and_self]
  · obtain ⟨packageId, digest, client, session, candidateId, questionId, revision, sequence, time,
      kind, answer, previous⟩ := event
    rintro ⟨⟨rfl, rfl, rfl, rfl⟩, rfl⟩
    exact ⟨_, _, rfl, rfl, _, _, rfl, rfl, _, _, rfl, _, _, rfl, rfl, _, _, rfl, _, _, rfl, _, _,
      rfl, _, _, rfl, _, _, rfl, _, _, rfl, _, _, rfl, _, _, rfl, _, _, rfl, _, _, rfl, _, _, rfl,
      by simp, rfl⟩

lemma run_readAnswerEventFields_iff {filled : AnswerEvent} :
    (readAnswerEventFields event lengths).run s = some (filled, r) ↔ filled = { event with
        packageId := filled.packageId
        candidateId := filled.candidateId
        questionId := filled.questionId
        answer := filled.answer } ∧
      s = filled.packageId ++ (filled.candidateId ++ (filled.questionId ++ filled.answer)) ∧ r = [] ∧
      filled.packageId.length = lengths.packageBytes.toNat ∧
      filled.candidateId.length = lengths.candidateBytes.toNat ∧
      filled.questionId.length = lengths.questionBytes.toNat ∧
      filled.answer.length = lengths.answerBytes.toNat ∧
      filled.answer.length ≤ kMaximumAnswerBytes ∧
      validText filled.packageId kMaximumPackageIdBytes false ∧
      validText filled.candidateId kMaximumCandidateIdBytes false ∧
      validText filled.questionId kMaximumQuestionIdBytes true := by
  simp only [readAnswerEventFields, run_bind_require_iff, run_bind_remaining_iff,
    run_bind_readString_iff, run_bind_readBytes_iff, run_pure_iff]
  constructor
  · rintro ⟨-, -, -, hansw, htotal, p, s1, rfl, hp, hpt, c, s2, rfl, hc, hct, q, s3, rfl, hq, hqt,
      a, s4, rfl, ha, rfl, rfl⟩
    simp only [List.length_append] at ha htotal
    have hrest : s4 = [] := List.eq_nil_of_length_eq_zero (by omega)
    subst hrest
    simp only [List.length_nil] at htotal
    exact ⟨rfl, by simp, rfl, hp, hc, hq, by simp only; omega, by simp only; omega, hpt, hct, hqt⟩
  · obtain ⟨p, digest, client, session, c, q, revision, sequence, time, kind, a, previous⟩ := filled
    rintro ⟨heq, rfl, rfl, hp, hc, hq, ha, hamax, hpt, hct, hqt⟩
    have hpmax := (validText_iff.mp hpt).2.1
    have hcmax := (validText_iff.mp hct).2.1
    have hqmax := (validText_iff.mp hqt).2.1
    simp only at hp hc hq ha hamax hpmax hcmax hqmax
    refine ⟨by omega, by omega, by omega, by omega, ?_, p, _, rfl, hp, hpt, c, _, rfl, hc, hct, q, _,
      rfl, hq, hqt, a, [], by simp, rfl, heq.symm, rfl⟩
    simp only [List.length_append]
    omega

variable {bytes : Bytes}

lemma toNat_uint16_length (h : bytes.length ≤ 128) : (UInt16.ofNat bytes.length).toNat = bytes.length :=
  UInt16.toNat_ofNat_of_lt' (by simp only [UInt16.size]; omega)

lemma toNat_uint32_length (h : bytes.length ≤ kMaximumAnswerBytes) :
    (UInt32.ofNat bytes.length).toNat = bytes.length := by
  simp only [kMaximumAnswerBytes] at h
  exact UInt32.toNat_ofNat_of_lt' (by simp only [UInt32.size]; omega)

lemma ValidAnswerEvent.validText_questionId (h : ValidAnswerEvent event) :
    validText event.questionId kMaximumQuestionIdBytes true := by
  by_cases hk : event.kind = .finalize
  · rw [(h.finalize hk).1]
    decide
  · obtain ⟨-, hl, hz⟩ := validText_iff.mp (h.questionId hk)
    exact validText_iff.mpr ⟨.inl rfl, hl, hz⟩

/-- **The decoder accepts exactly the wire forms of valid events**, and returns the event they
are the wire form of. -/
theorem decodeAnswerEvent_eq_ok_iff {payload : Bytes} : decodeAnswerEvent payload = .ok event ↔
      ValidAnswerEvent event ∧ payload = answerEventWire event := by
  constructor
  · intro h
    simp only [decodeAnswerEvent] at h
    split_ifs at h with hsize
    split at h
    · cases h
    · rename_i blank lengths rest hhead
      split at h
      · cases h
      · rename_i filled left hfiel
        split_ifs at h with hvalid
        cases h
        obtain ⟨hblank, rfl⟩ := run_readAnswerEventHeader_iff.mp hhead
        obtain ⟨heq, rfl, -, hp, hc, hq, ha, -⟩ := run_readAnswerEventFields_iff.mp hfiel
        refine ⟨validateAnswerEvent_iff.mp hvalid, ?_⟩
        have hleng : lengths = ⟨UInt16.ofNat event.packageId.length,
            UInt16.ofNat event.candidateId.length, UInt16.ofNat event.questionId.length,
            UInt32.ofNat event.answer.length⟩ := by
          simp only [hp, hc, hq, ha, UInt16.ofNat_toNat, UInt32.ofNat_toNat]
        rw [hleng, heq]
        simp only [answerEventWire, List.flatten_cons, List.flatten_nil, List.append_nil]
  · rintro ⟨hvalid, rfl⟩
    have hp := (validText_iff.mp hvalid.packageId).2.1
    have hc := (validText_iff.mp hvalid.candidateId).2.1
    have hlower : ¬ ((answerEventWire event).length < kAnswerEventFixedBytes ∨
        kMaximumWireBytes < (answerEventWire event).length) := by
      have hupper := hvalid.length_wire_le
      have hlen := length_answerEventWire event
      omega
    have hhead : readAnswerEventHeader.run (answerEventWire event) =
        some (({ event with packageId := [], candidateId := [], questionId := [], answer := [] },
          ⟨UInt16.ofNat event.packageId.length, UInt16.ofNat event.candidateId.length,
            UInt16.ofNat event.questionId.length, UInt32.ofNat event.answer.length⟩),
          event.packageId ++ (event.candidateId ++ (event.questionId ++ event.answer))) :=
      run_readAnswerEventHeader_iff.mpr ⟨⟨rfl, rfl, rfl, rfl⟩,
          by simp only [answerEventWire, List.flatten_cons, List.flatten_nil, List.append_nil]⟩
    have hfiel : (readAnswerEventFields
        { event with packageId := [], candidateId := [], questionId := [], answer := [] }
        ⟨UInt16.ofNat event.packageId.length, UInt16.ofNat event.candidateId.length,
          UInt16.ofNat event.questionId.length, UInt32.ofNat event.answer.length⟩).run
        (event.packageId ++ (event.candidateId ++ (event.questionId ++ event.answer))) =
        some (event, []) :=
      run_readAnswerEventFields_iff.mpr ⟨rfl, rfl, rfl, (toNat_uint16_length hp).symm,
        (toNat_uint16_length hc).symm, (toNat_uint16_length hvalid.length_questionId).symm,
        (toNat_uint32_length hvalid.answer).symm, hvalid.answer, hvalid.packageId,
        hvalid.candidateId, hvalid.validText_questionId⟩
    simp only [decodeAnswerEvent, if_neg hlower, hhead, hfiel, validateAnswerEvent_iff.mpr hvalid, if_true]

/-- Distinct valid events have distinct wire forms. -/
theorem answerEventWire_injective {a b : AnswerEvent} (ha : ValidAnswerEvent a)
    (hb : ValidAnswerEvent b) (h : answerEventWire a = answerEventWire b) : a = b := by
  have hd := decodeAnswerEvent_eq_ok_iff.mpr ⟨ha, rfl⟩
  have hdb := decodeAnswerEvent_eq_ok_iff.mpr ⟨hb, rfl⟩
  rw [h, hdb] at hd
  exact (Except.ok.inj hd).symm

/-- **Answer event codec.**  Every event `validate_answer_event` accepts has a non-empty encoding
that decodes to it, and every byte string `decode_answer_event` accepts is the encoding of the
event it returns. -/
theorem answerEvent_codec : (∀ event, validateAnswerEvent event = true →
      encodeAnswerEvent event ≠ [] ∧ decodeAnswerEvent (encodeAnswerEvent event) = .ok event) ∧
    (∀ payload event, decodeAnswerEvent payload = .ok event → encodeAnswerEvent event = payload) := by
  constructor
  · intro event hvalid
    have hv := validateAnswerEvent_iff.mp hvalid
    rw [encodeAnswerEvent_of_valid hv]
    exact ⟨answerEventWire_ne_nil event, decodeAnswerEvent_eq_ok_iff.mpr ⟨hv, rfl⟩⟩
  · intro payload event hdecode
    obtain ⟨hv, rfl⟩ := decodeAnswerEvent_eq_ok_iff.mp hdecode
    exact encodeAnswerEvent_of_valid hv

/-- The first answer of a session: question `q`, revision 1, answered `A`. -/
def firstAnswer : AnswerEvent where
  packageId := [112]
  packageDigest := Block.fill 32 1
  clientId := Block.fill 16 2
  sessionId := Block.fill 16 3
  candidateId := [99]
  questionId := [113]
  questionRevision := 1
  sequence := 1
  clientTimeUnixMilliseconds := 1
  kind := .upsert
  answer := [65]
  previousEventHash := Block.zero 32

/-- SHA-256 of the encoding of `firstAnswer`, as a little-endian number. -/
def firstAnswerHash : Digest :=
  ⟨leBytes 32 0x6d39888e0367a7c2fb9cf27a2d54c1cc25a00137550bde56bf9faeff43f0c16e, leBytes_length _ _⟩

/-- SHA-256 of the state of the session that `firstAnswer` begins, as a little-endian number. -/
def firstStateHash : Digest :=
  ⟨leBytes 32 0xe2a791b807f14288381280fb3941b1890d06aae06d285f62c26db3f46c404af2, leBytes_length _ _⟩

/-- What SHA-256 computes as long as `firstAnswer` is the only event: the hash of the event and the
hash of the state it leaves. -/
def firstSha256 (bytes : Bytes) : Digest :=
  if bytes = encodeAnswerEvent firstAnswer then firstAnswerHash else firstStateHash

lemma firstSha256_ne_zero (bytes : Bytes) : firstSha256 bytes ≠ Block.zero 32 := by
  unfold firstSha256
  split
  · decide
  · decide

/-- The codec on `firstAnswer`, in both directions. -/
theorem answerEvent_codec_firstAnswer : decodeAnswerEvent (encodeAnswerEvent firstAnswer) = .ok firstAnswer ∧
      encodeAnswerEvent firstAnswer = answerEventWire firstAnswer :=
  ⟨(answerEvent_codec.1 firstAnswer (by decide)).2,
    answerEvent_codec.2 _ _ (decodeAnswerEvent_eq_ok_iff.mpr ⟨validateAnswerEvent_iff.mp (by decide), rfl⟩)⟩

end Nstu
