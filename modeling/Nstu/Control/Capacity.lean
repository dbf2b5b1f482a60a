import Nstu.Control.Channel
import Nstu.Control.Messages
import Nstu.Exam.StateChunks
import Nstu.Telemetry.Batch

/-!
# What the channel has room for

Every encoder has its own limit, and the channel has one for all of them: a payload and the
authentication overhead have to fit in a command.

`carries_iff` is the channel's side.  `encodable_carried_iff` compares it with the encoders: each of
them stays below it, apart from `encode_snapshot_frame`, whose limit on the image is eight times the
size of a command.
-/

namespace Nstu.Control

open Wire List

/-- The messages a client or the server sends about itself or about an exam. -/
inductive ControlMessage where
  | statusReport (report : ClientStatusReport)
  | uwfFleetStatus (report : UwfFleetStatusReport)
  | helpRequest (message : HelpRequestMessage)
  | snapshotFrame (frame : SnapshotFrame)
  | stateResponseChunk (response : StateResponse)
  | stateResponse (response : StateResponse)
  | answerEvent (event : AnswerEvent)
  | telemetryBatch (batch : Telemetry.TelemetryBatch)

/-- The payloads a message is sent in.  An encoder that refuses a message returns an empty one. -/
def ControlMessage.payloads : ControlMessage → List Bytes
  | statusReport report => [encodeStatusReport report]
  | uwfFleetStatus report => [encodeUwfFleetStatusReport report]
  | helpRequest message => [encodeHelpRequest message]
  | snapshotFrame frame => [encodeSnapshotFrame frame]
  | stateResponseChunk response => [encodeStateResponseChunk response]
  | stateResponse response => encodeStateResponseChunks response
  | answerEvent event => [encodeAnswerEvent event]
  | telemetryBatch batch => [Telemetry.encodeTelemetryBatch batch]

/-! ## The channel -/

/-- The longest payload a command has room for. -/
def maximumChannelPayload : ℕ := kMaxCommandPayload - kAuthenticatedOverhead

section Channel

variable (hmac : Bytes → Bytes → Digest)
  (encrypt : (call : SealCall) → Block call.plaintext.length × Block 16)

/-- Both forms of a command can carry the payload: with any session key, at any point of the session
and as any command that is none of the handshake. -/
def Carries (payload : Bytes) : Prop :=
  ∀ (sessionKey key : Digest) (ivBase : Block 12) (envelope : CommandEnvelope) (sequence : UInt64),
    isHandshakeCommand envelope.type = false →
      encodeAuthenticatedCommand hmac sessionKey.toList envelope sequence payload ≠ [] ∧
        encodeAuthenticatedCommandAead encrypt true key ivBase envelope sequence payload ≠ []

variable {hmac encrypt} {payload : Bytes}

lemma computeControlAuthTag_ne_none (sessionKey : Digest) (envelope : CommandEnvelope)
    (sequence : UInt64) (hb : payload.length ≤ maximumChannelPayload) :
    computeControlAuthTag hmac sessionKey.toList envelope sequence payload ≠ none := by
  have hk : sessionKey.toList.length = 32 := sessionKey.length_toList
  have hm : (controlFrameMessage envelope sequence payload).length ≤ maximumUlong := by
    have hl : (labelBytes "NSTU-CONTROL-FRAME-V1").length = 21 := rfl
    simp only [controlFrameMessage, flatten_cons, flatten_nil, length_append,
      length_nil, length_encodeCommandHeader, le_length, size_uint64, hl]
    simp only [maximumChannelPayload, kMaxCommandPayload, kAuthenticatedOverhead, kControlAuthTagBytes] at hb
    simp only [kCommandHeaderBytes, maximumUlong]
    omega
  have he : sessionKey.toList.isEmpty = false := by
    rw [isEmpty_eq_false_iff, ← length_pos_iff]
    omega
  simp only [computeControlAuthTag, kMinimumProtocolKeyBytes, hk, lt_self_iff_false, if_false,
    hmacSha256, he, Bool.false_or]
  rw [if_neg]
  · exact Option.some_ne_none _
  · simp only [Bool.or_eq_true, decide_eq_true_eq, not_or, gt_iff_lt, Nat.not_lt, maximumUlong] at hm ⊢
    exact ⟨by omega, hm⟩

/-- **A command carries whatever leaves room for the overhead**, and nothing longer. -/
lemma carries_iff : Carries hmac encrypt payload ↔ payload.length ≤ maximumChannelPayload := by
  constructor
  · intro h
    by_contra hl
    have hr := (h (Block.zero 32) (Block.zero 32) (Block.zero 12) ⟨kCommandVersion, .heartbeat, 0, 0⟩ 0 rfl).1
    refine hr ?_
    rw [encodeAuthenticatedCommand, if_pos]
    simp only [maximumChannelPayload] at hl
    simp only [Bool.or_eq_true, decide_eq_true_eq]
    exact .inr (Nat.not_le.mp hl)
  · intro hb sessionKey key ivBase envelope sequence ht
    have ho : ¬ (isHandshakeCommand envelope.type ||
        payload.length > kMaxCommandPayload - kAuthenticatedOverhead) := by
      simp only [ht, Bool.false_or, decide_eq_true_eq]
      exact Nat.not_lt.mpr hb
    constructor
    · rw [encodeAuthenticatedCommand, if_neg ho]
      cases hta : computeControlAuthTag hmac sessionKey.toList (normalizedEnvelope envelope payload)
          sequence payload with
      | none => exact absurd hta (computeControlAuthTag_ne_none sessionKey _ sequence hb)
      | some tag =>
        simp only
        rw [hta]
        exact authenticatedFrame_ne_nil sequence tag rfl hb
    · rw [encodeAuthenticatedCommandAead, aeadSealCall, if_neg ho]
      refine authenticatedFrame_ne_nil sequence _ rfl ?_
      rw [Block.length_toList]
      exact hb

end Channel

/-! ## The encoders -/

lemma length_encodeStatusReport (report : ClientStatusReport) :
    (encodeStatusReport report).length ≤ 32 + kMaximumHostnameBytes := by
  simp only [encodeStatusReport]
  split
  · exact Nat.zero_le _
  · rename_i hv
    simp only [Bool.or_eq_true, decide_eq_true_eq, not_or, gt_iff_lt, Nat.not_lt] at hv
    have hh := hv.1.1.2
    simp only [flatten_cons, flatten_nil, length_append, length_nil, le_length,
      size_uint8, size_uint16, size_uint32, size_uint64]
    omega

lemma length_encodeUwfFleetStatusReport (report : UwfFleetStatusReport) :
    (encodeUwfFleetStatusReport report).length ≤ 28 + kMaximumUwfDetailBytes := by
  simp only [encodeUwfFleetStatusReport]
  split
  · exact Nat.zero_le _
  · rename_i hv
    simp only [Bool.or_eq_true, decide_eq_true_eq, not_or, gt_iff_lt, Nat.not_lt] at hv
    have hd := hv.1.2
    simp only [flatten_cons, flatten_nil, length_append, length_nil, le_length,
      size_uint8, size_uint16, size_uint64, Block.length_toList]
    omega

lemma length_encodeHelpRequest (message : HelpRequestMessage) :
    (encodeHelpRequest message).length ≤ 11 + kMaximumHelpMessageBytes := by
  simp only [encodeHelpRequest]
  split
  · exact Nat.zero_le _
  · rename_i hv
    simp only [flatten_cons, flatten_nil, length_append, length_nil,
      length_singleton, le_length, size_uint16, size_uint64]
    omega

lemma length_encodeSnapshotFrame {frame : SnapshotFrame} (h : validSnapshotFrame frame) :
    (encodeSnapshotFrame frame).length = 20 + frame.jpeg.length := by
  simp only [encodeSnapshotFrame, h, Bool.not_true, Bool.false_eq_true, if_false, flatten_cons,
    flatten_nil, length_append, length_nil, le_length, size_uint16, size_uint32,
    size_uint64]
  omega

lemma length_encodeStateResponseChunk (response : StateResponse) :
    (encodeStateResponseChunk response).length ≤ kMaximumWireBytes := by
  by_cases h : encodeStateResponseChunk response = []
  · rw [h]
    exact Nat.zero_le _
  · have hf := encodeStateResponseChunk_ne_nil_iff.mp h
    rw [encodeStateResponseChunk_of_fits hf, length_stateResponseWire]
    exact hf.bytes

lemma length_of_mem_encodeStateResponseChunks {response : StateResponse} {payload : Bytes}
    (h : payload ∈ encodeStateResponseChunks response) : payload.length ≤ kMaximumWireBytes := by
  simp only [encodeStateResponseChunks] at h
  split_ifs at h
  all_goals first
    | cases h
    | obtain ⟨index, hi, rfl⟩ := mem_mapIdx.mp h
      exact length_encodeStateResponseChunk _

lemma length_encodeAnswerEvent (event : AnswerEvent) : (encodeAnswerEvent event).length ≤ kMaximumWireBytes := by
  simp only [encodeAnswerEvent]
  split
  · exact Nat.zero_le _
  · split
    · assumption
    · exact Nat.zero_le _

/-! ## The comparison -/

/-- The longest image of a snapshot frame that still fits in a command. -/
def maximumChannelJpegBytes : ℕ := maximumChannelPayload - 20

/-- A message whose payloads all fit.  Only the image of a snapshot frame that passes the encoder's
checks can be too long. -/
def ControlMessage.WithinChannel : ControlMessage → Prop
  | snapshotFrame frame =>
    validSnapshotFrame frame = true → frame.jpeg.length ≤ maximumChannelJpegBytes
  | _ => True

lemma length_payload_le {message : ControlMessage} {payload : Bytes} (h : message.WithinChannel)
    (hmem : payload ∈ message.payloads) : payload.length ≤ maximumChannelPayload := by
  have hlimi : 32 + kMaximumHostnameBytes ≤ maximumChannelPayload ∧
      28 + kMaximumUwfDetailBytes ≤ maximumChannelPayload ∧
      11 + kMaximumHelpMessageBytes ≤ maximumChannelPayload ∧
      kMaximumWireBytes ≤ maximumChannelPayload ∧
      Telemetry.kMaximumTelemetryBatchBytes ≤ maximumChannelPayload := by decide
  obtain ⟨hstat, hfleet, hhelp, hwire, hbatch⟩ := hlimi
  cases message with
  | statusReport report =>
    obtain rfl := mem_singleton.mp hmem
    exact Nat.le_trans (length_encodeStatusReport report) hstat
  | uwfFleetStatus report =>
    obtain rfl := mem_singleton.mp hmem
    exact Nat.le_trans (length_encodeUwfFleetStatusReport report) hfleet
  | helpRequest message =>
    obtain rfl := mem_singleton.mp hmem
    exact Nat.le_trans (length_encodeHelpRequest message) hhelp
  | snapshotFrame frame =>
    obtain rfl := mem_singleton.mp hmem
    cases hvalid : validSnapshotFrame frame with
    | false =>
      rw [encodeSnapshotFrame, hvalid]
      exact Nat.zero_le _
    | true =>
      have hjpeg := h hvalid
      rw [length_encodeSnapshotFrame hvalid]
      simp only [maximumChannelJpegBytes, maximumChannelPayload, kMaxCommandPayload,
        kAuthenticatedOverhead, kControlAuthTagBytes] at hjpeg ⊢
      omega
  | stateResponseChunk response =>
    obtain rfl := mem_singleton.mp hmem
    exact Nat.le_trans (length_encodeStateResponseChunk response) hwire
  | stateResponse response => exact Nat.le_trans (length_of_mem_encodeStateResponseChunks hmem) hwire
  | answerEvent event =>
    obtain rfl := mem_singleton.mp hmem
    exact Nat.le_trans (length_encodeAnswerEvent event) hwire
  | telemetryBatch batch =>
    obtain rfl := mem_singleton.mp hmem
    exact Nat.le_trans (Telemetry.length_encodeTelemetryBatch batch) hbatch

/-- **What the encoders accept, the channel carries, but for one kind of message**: a snapshot frame
whose image is longer than a command has room for. -/
theorem encodable_carried_iff (hmac : Bytes → Bytes → Digest)
    (encrypt : (call : SealCall) → Block call.plaintext.length × Block 16) (message : ControlMessage) :
    (∀ payload ∈ message.payloads, payload ≠ [] → Carries hmac encrypt payload) ↔ message.WithinChannel := by
  constructor
  · intro h
    cases message with
    | snapshotFrame frame =>
      intro hvalid
      have hlength := length_encodeSnapshotFrame hvalid
      have hne : encodeSnapshotFrame frame ≠ [] := by
        rw [← List.length_pos_iff]
        omega
      have hcarried := carries_iff.mp (h _ List.mem_cons_self hne)
      rw [hlength] at hcarried
      rw [maximumChannelJpegBytes]
      omega
    | _ => trivial
  · intro h payload hmem _
    exact carries_iff.mpr (length_payload_le h hmem)

/-- A desktop image one byte too long for a command, far below the encoder's own limit. -/
def largeSnapshot : SnapshotFrame := ⟨1280, 720, 1, List.replicate 65493 0⟩

lemma valid_largeSnapshot : validSnapshotFrame largeSnapshot := by
  have he : largeSnapshot.jpeg.isEmpty = false := rfl
  have hl : largeSnapshot.jpeg.length = 65493 := length_replicate
  simp only [validSnapshotFrame, he, hl]
  decide

/-- The encoder accepts the image and the channel refuses it. -/
theorem encodable_not_always_carried : ¬ ∀ (hmac : Bytes → Bytes → Digest)
      (encrypt : (call : SealCall) → Block call.plaintext.length × Block 16)
      (message : ControlMessage), ∀ payload ∈ message.payloads, payload ≠ [] → Carries hmac encrypt payload := by
  intro h
  have hlength := length_encodeSnapshotFrame valid_largeSnapshot
  have hjpeg : largeSnapshot.jpeg.length = 65493 := List.length_replicate
  have hne : encodeSnapshotFrame largeSnapshot ≠ [] := by
    rw [← List.length_pos_iff]
    omega
  have hcarried := carries_iff.mp (h (fun _ _ => Block.zero 32) (fun call => (Block.zero _, Block.zero 16))
    (.snapshotFrame largeSnapshot) _ List.mem_cons_self hne)
  rw [hlength, hjpeg] at hcarried
  exact absurd hcarried (by decide)

end Nstu.Control
