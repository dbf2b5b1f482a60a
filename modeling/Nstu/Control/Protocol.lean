import Nstu.Exam.Types

/-!
# Frames of the control protocol

`protocol.cpp` and the blocking readers of `control_channel.cpp`: the connection preamble, the
command header and the length-prefixed frame.

`run_receivePlainFrame_iff` says which bytes a frame is read off: its own wire form, and nothing
else.
-/

namespace Nstu.Control

open Wire Reader List

def kMagic : UInt32 := 0x4E535455
def kCommandVersion : UInt16 := 1
def kCommandHeaderBytes : ℕ := 20
def kConnectionPreambleBytes : ℕ := 32

/-- `CommandType`.  A header is read with any value of the underlying type. -/
structure CommandType where
  raw : UInt16
  deriving DecidableEq

namespace CommandType

def heartbeat : CommandType := ⟨3⟩
def lock : CommandType := ⟨4⟩
def authHello : CommandType := ⟨8⟩
def authChallenge : CommandType := ⟨9⟩
def authProof : CommandType := ⟨10⟩
def authAccept : CommandType := ⟨11⟩

end CommandType

inductive ConnectionRole where
  | client
  | server
  | diagnostic
  deriving DecidableEq

namespace ConnectionRole

def raw : ConnectionRole → UInt8
  | client => 1
  | server => 2
  | diagnostic => 3

/-- The role with a raw value, if it is one that a preamble may have. -/
def ofRaw (value : UInt8) : Option ConnectionRole :=
  [client, server, diagnostic].find? fun role => role.raw == value

end ConnectionRole

def kPreambleFlagNone : UInt8 := 0x00
def kPreambleFlagAead : UInt8 := 0x01

structure ConnectionPreamble where
  version : UInt16 := kCommandVersion
  role : ConnectionRole := .client
  flags : UInt8 := 0
  preambleBytes : UInt16 := 32
  reserved : UInt16 := 0
  keyId : UInt32 := 0
  identity : ClientId := Block.zero 16
  deriving DecidableEq

/-- `(preamble.flags & kPreambleFlagAead) != 0`. -/
def ConnectionPreamble.aeadFlag (preamble : ConnectionPreamble) : Bool :=
  preamble.flags &&& kPreambleFlagAead != 0

structure CommandEnvelope where
  version : UInt16
  type : CommandType
  payloadBytes : UInt32
  requestId : UInt64
  deriving DecidableEq

structure TcpFrame where
  envelope : CommandEnvelope
  payload : Bytes
  deriving DecidableEq

/-! ## Command headers -/

def encodeCommandHeader (envelope : CommandEnvelope) : Bytes :=
  [le kMagic, le envelope.version, le envelope.type.raw, le envelope.payloadBytes, le envelope.requestId].flatten

def readCommandHeader : Reader CommandEnvelope := do
  let magic : UInt32 ← readLe
  require (magic = kMagic)
  let version : UInt16 ← readLe
  let type : UInt16 ← readLe
  let payloadBytes : UInt32 ← readLe
  let requestId : UInt64 ← readLe
  require (version = kCommandVersion)
  pure ⟨version, ⟨type⟩, payloadBytes, requestId⟩

def decodeCommandHeader (wire : Bytes) : Option CommandEnvelope :=
  if wire.length < kCommandHeaderBytes then none else (readCommandHeader.run wire).map Prod.fst

@[simp] lemma length_encodeCommandHeader (envelope : CommandEnvelope) :
    (encodeCommandHeader envelope).length = kCommandHeaderBytes := by
  simp [encodeCommandHeader, kCommandHeaderBytes]

variable {s r : Bytes} {envelope : CommandEnvelope}

lemma run_readCommandHeader_iff : readCommandHeader.run s = some (envelope, r) ↔
      s = encodeCommandHeader envelope ++ r ∧ envelope.version = kCommandVersion := by
  simp only [readCommandHeader, run_bind_require_iff, run_bind_readLe_iff, run_pure_iff]
  constructor
  · rintro ⟨magic, s1, h1, hm, version, s2, h2, type, s3, h3, payload, s4, h4, request, s5, h5, hv, rfl, h6⟩
    simp only [h1, hm, h2, h3, h4, h5, h6, encodeCommandHeader, flatten_cons,
      flatten_nil, append_assoc, nil_append]
    exact ⟨trivial, hv⟩
  · rintro ⟨rfl, hv⟩
    simp only [encodeCommandHeader, flatten_cons, flatten_nil, append_assoc, nil_append]
    exact ⟨_, _, rfl, rfl, _, _, rfl, _, _, rfl, _, _, rfl, _, _, rfl, hv, rfl, rfl⟩

lemma encodeCommandHeader_inj {envelope' : CommandEnvelope} {r' : Bytes}
    (h : encodeCommandHeader envelope ++ r = encodeCommandHeader envelope' ++ r') : envelope = envelope' ∧ r = r' := by
  obtain ⟨hh, hr⟩ := append_inj h (by simp)
  refine ⟨?_, hr⟩
  simp only [encodeCommandHeader, flatten_cons, flatten_nil, append_nil] at hh
  obtain ⟨-, hh⟩ := append_inj hh (by simp)
  obtain ⟨hv, hh⟩ := append_inj hh (by simp)
  obtain ⟨ht, hh⟩ := append_inj hh (by simp)
  obtain ⟨hp, hre⟩ := append_inj hh (by simp)
  obtain ⟨version, ⟨type⟩, payloadBytes, requestId⟩ := envelope
  obtain ⟨version', ⟨type'⟩, payloadBytes', requestId'⟩ := envelope'
  obtain rfl := le_injective hv
  obtain rfl := le_injective ht
  obtain rfl := le_injective hp
  obtain rfl := le_injective hre
  rfl

/-! ## Preambles -/

def encodeConnectionPreamble (preamble : ConnectionPreamble) : Bytes :=
  if preamble.preambleBytes.toNat ≠ kConnectionPreambleBytes ∨ preamble.reserved ≠ 0 then []
  else
    [le kMagic, le preamble.version, [preamble.role.raw], [preamble.flags],
      le preamble.preambleBytes, le preamble.reserved, le preamble.keyId,
      preamble.identity.toList].flatten

def readConnectionPreamble : Reader ConnectionPreamble := do
  let magic : UInt32 ← readLe
  require (magic = kMagic)
  let version : UInt16 ← readLe
  let rawRole : UInt8 ← readLe
  let flags : UInt8 ← readLe
  let preambleBytes : UInt16 ← readLe
  let reserved : UInt16 ← readLe
  let keyId : UInt32 ← readLe
  require (version = kCommandVersion)
  require (preambleBytes.toNat = kConnectionPreambleBytes)
  require (reserved = 0)
  let role ← ofOption (ConnectionRole.ofRaw rawRole)
  let identity ← readBlock 16
  require (role = .client → allZero identity.toList = false ∧ keyId ≠ 0)
  require (role ≠ .client → allZero identity.toList = true ∧ keyId = 0)
  pure ⟨version, role, flags, preambleBytes, reserved, keyId, identity⟩

def decodeConnectionPreamble (wire : Bytes) : Option ConnectionPreamble :=
  if wire.length ≠ kConnectionPreambleBytes then none
  else (readConnectionPreamble.run wire).map Prod.fst

def receivePreamble : Reader ConnectionPreamble := do
  let wire ← readBytes kConnectionPreambleBytes
  ofOption (decodeConnectionPreamble wire)

/-! ## Frames -/

def encodeTcpFrame (envelope : CommandEnvelope) (payload : Bytes) : Bytes :=
  if payload.length > kMaxCommandPayload ∨ payload.length ≠ envelope.payloadBytes.toNat then []
  else
    [le (UInt32.ofNat (kCommandHeaderBytes + payload.length)), encodeCommandHeader envelope, payload].flatten

def receivePlainFrame : Reader TcpFrame := do
  let bodyBytes : UInt32 ← readLe
  require (kCommandHeaderBytes ≤ bodyBytes.toNat)
  require (bodyBytes.toNat ≤ kCommandHeaderBytes + kMaxCommandPayload)
  let body ← readBytes bodyBytes.toNat
  let envelope ← ofOption (decodeCommandHeader body)
  require (envelope.payloadBytes.toNat = body.length - kCommandHeaderBytes)
  pure ⟨envelope, body.drop kCommandHeaderBytes⟩

/-- The frame of `send_plain_frame` and of `plain_frame`. -/
def plainFrame (type : CommandType) (requestId : UInt64) (payload : Bytes) : Bytes :=
  if payload.length > kMaxCommandPayload then []
  else encodeTcpFrame ⟨kCommandVersion, type, UInt32.ofNat payload.length, requestId⟩ payload

/-- What a frame has to be for it to be read. -/
structure TcpFrame.WellFormed (frame : TcpFrame) : Prop where
  version : frame.envelope.version = kCommandVersion
  length : frame.envelope.payloadBytes.toNat = frame.payload.length
  bound : frame.payload.length ≤ kMaxCommandPayload

lemma decodeCommandHeader_append (payload : Bytes) (h : envelope.version = kCommandVersion) :
    decodeCommandHeader (encodeCommandHeader envelope ++ payload) = some envelope := by
  have hr : readCommandHeader.run (encodeCommandHeader envelope ++ payload) =
      some (envelope, payload) := run_readCommandHeader_iff.mpr ⟨rfl, h⟩
  simp [decodeCommandHeader, hr]

lemma decodeCommandHeader_eq_some {body : Bytes} (h : decodeCommandHeader body = some envelope) :
    body = encodeCommandHeader envelope ++ body.drop kCommandHeaderBytes ∧ envelope.version = kCommandVersion := by
  simp only [decodeCommandHeader] at h
  split at h
  · cases h
  · obtain ⟨⟨envelope', rest⟩, hr, he⟩ := Option.map_eq_some_iff.mp h
    obtain rfl : envelope' = envelope := he
    obtain ⟨hb, hv⟩ := run_readCommandHeader_iff.mp hr
    refine ⟨?_, hv⟩
    rw [hb, drop_left' (length_encodeCommandHeader _)]

variable {frame : TcpFrame}

lemma encodeTcpFrame_of_wellFormed (h : frame.WellFormed) : encodeTcpFrame frame.envelope frame.payload =
      le (UInt32.ofNat (kCommandHeaderBytes + frame.payload.length)) ++
        (encodeCommandHeader frame.envelope ++ frame.payload) := by
  rw [encodeTcpFrame, if_neg]
  · simp
  · rintro (hl | ho)
    · exact Nat.not_lt.mpr h.bound hl
    · exact ho h.length.symm

lemma toNat_bodyBytes {length : ℕ} (h : length ≤ kMaxCommandPayload) :
    (UInt32.ofNat (kCommandHeaderBytes + length)).toNat = kCommandHeaderBytes + length := by
  refine UInt32.toNat_ofNat_of_lt' ?_
  simp only [kCommandHeaderBytes, kMaxCommandPayload, UInt32.size] at *
  omega

/-- **A frame is read off its own wire form.** -/
lemma run_receivePlainFrame_iff : receivePlainFrame.run s = some (frame, r) ↔
      frame.WellFormed ∧ s = encodeTcpFrame frame.envelope frame.payload ++ r := by
  simp only [receivePlainFrame, run_bind_require_iff, run_bind_readLe_iff, run_bind_readBytes_iff,
    run_bind_ofOption_iff, run_pure_iff]
  constructor
  · rintro ⟨bodyBytes, s1, h1, hlow, hhigh, body, s2, h2, hleng, envelope, henve, hpayl, rfl, rfl⟩
    obtain ⟨hbody, hvers⟩ := decodeCommandHeader_eq_some henve
    have hdrop : (body.drop kCommandHeaderBytes).length = body.length - kCommandHeaderBytes :=
      length_drop
    have hbound : (body.drop kCommandHeaderBytes).length ≤ kMaxCommandPayload := by omega
    have hwell : TcpFrame.WellFormed ⟨envelope, body.drop kCommandHeaderBytes⟩ :=
      ⟨hvers, hpayl.trans hdrop.symm, hbound⟩
    refine ⟨hwell, ?_⟩
    rw [encodeTcpFrame_of_wellFormed hwell, ← hbody, h1, h2, hdrop,
      Nat.add_sub_cancel' (hleng ▸ hlow), hleng, UInt32.ofNat_toNat, append_assoc]
  · rintro ⟨hwell, rfl⟩
    have hleng : (encodeCommandHeader frame.envelope ++ frame.payload).length =
        kCommandHeaderBytes + frame.payload.length := by
      simp
    refine ⟨UInt32.ofNat (kCommandHeaderBytes + frame.payload.length), _, ?_, ?_, ?_,
      encodeCommandHeader frame.envelope ++ frame.payload, r, rfl, ?_, frame.envelope,
      decodeCommandHeader_append _ hwell.version, ?_, ?_, rfl⟩
    · rw [encodeTcpFrame_of_wellFormed hwell, append_assoc]
    · rw [toNat_bodyBytes hwell.bound]
      exact Nat.le_add_right _ _
    · rw [toNat_bodyBytes hwell.bound]
      exact Nat.add_le_add_left hwell.bound _
    · rw [toNat_bodyBytes hwell.bound, hleng]
    · rw [hleng, Nat.add_sub_cancel_left]
      exact hwell.length
    · rw [drop_left' (length_encodeCommandHeader _)]

end Nstu.Control
