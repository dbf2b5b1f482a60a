import Nstu.Control.Handshake

/-!
# The authenticated channel

`AuthenticatedControlChannel` and the two forms a command has on it: with a tag of HMAC-SHA-256 over
the header, the sequence number and the payload, or sealed with AES-256-GCM.

`ChannelOp.run` is a run of one channel object.  Beside the channel it keeps what has been sealed,
what has been sent and what has been received.  What the socket and the cipher answer to a call is
part of the operation.
-/

namespace Nstu.Control

open Wire Reader

def kAeadNonceBytes : ℕ := 12
def kAuthenticatedOverhead : ℕ := 8 + kControlAuthTagBytes

def isHandshakeCommand (type : CommandType) : Bool :=
  type == .authHello || type == .authChallenge || type == .authProof || type == .authAccept

/-- A command that has been authenticated. -/
structure AuthenticatedCommand where
  envelope : CommandEnvelope
  sequence : UInt64
  payload : Bytes
  deriving DecidableEq

/-- The envelope of a command, as it is authenticated. -/
def normalizedEnvelope (envelope : CommandEnvelope) (payload : Bytes) : CommandEnvelope :=
  { envelope with version := kCommandVersion, payloadBytes := UInt32.ofNat payload.length }

/-- The frame of a command, from its sequence number, its tag and its payload in clear or sealed. -/
def authenticatedFrame (envelope : CommandEnvelope) (sequence : UInt64) (tag : Block 16) (payload : Bytes) : Bytes :=
  let authenticatedPayload := [le sequence, tag.toList, payload].flatten
  encodeTcpFrame { envelope with payloadBytes := UInt32.ofNat authenticatedPayload.length }
    authenticatedPayload

/-- The frame of a command, as it is read off the wire. -/
def authenticatedTcpFrame (envelope : CommandEnvelope) (sequence : UInt64) (tag : Block 16)
    (payload : Bytes) : TcpFrame :=
  ⟨{ envelope with payloadBytes := UInt32.ofNat [le sequence, tag.toList, payload].flatten.length },
    [le sequence, tag.toList, payload].flatten⟩

section Frames

variable {envelope : CommandEnvelope} {payload : Bytes} (sequence : UInt64) (tag : Block 16)

lemma length_authenticatedTcpFrame : (authenticatedTcpFrame envelope sequence tag payload).payload.length =
      kAuthenticatedOverhead + payload.length := by
  simp [authenticatedTcpFrame, kAuthenticatedOverhead, kControlAuthTagBytes]
  omega

lemma wellFormed_authenticatedTcpFrame (hv : envelope.version = kCommandVersion)
    (hb : payload.length ≤ kMaxCommandPayload - kAuthenticatedOverhead) :
    (authenticatedTcpFrame envelope sequence tag payload).WellFormed := by
  have hl := @length_authenticatedTcpFrame envelope payload sequence tag
  simp only [kMaxCommandPayload, kAuthenticatedOverhead, kControlAuthTagBytes] at hb hl
  refine ⟨hv, ?_, ?_⟩
  · refine UInt32.toNat_ofNat_of_lt' ?_
    rw [show [le sequence, tag.toList, payload].flatten.length = _ from hl, UInt32.size]
    omega
  · rw [hl, kMaxCommandPayload]
    omega

lemma authenticatedFrame_ne_nil (hv : envelope.version = kCommandVersion)
    (hb : payload.length ≤ kMaxCommandPayload - kAuthenticatedOverhead) :
    authenticatedFrame envelope sequence tag payload ≠ [] := by
  intro hn
  have hf := encodeTcpFrame_of_wellFormed (wellFormed_authenticatedTcpFrame sequence tag hv hb)
  have hl := congrArg List.length (hf.symm.trans hn)
  simp at hl

lemma run_receivePlainFrame_authenticatedFrame (hv : envelope.version = kCommandVersion)
    (hb : payload.length ≤ kMaxCommandPayload - kAuthenticatedOverhead) (rest : Bytes) :
    receivePlainFrame.run (authenticatedFrame envelope sequence tag payload ++ rest) =
      some (authenticatedTcpFrame envelope sequence tag payload, rest) :=
  run_receivePlainFrame_iff.mpr ⟨wellFormed_authenticatedTcpFrame sequence tag hv hb, rfl⟩

end Frames

/-! ## Commands with a tag -/

section Hmac

variable (hmac : Bytes → Bytes → Digest)

/-- What the tag of a command covers.  The label does not say in which direction it goes. -/
def controlFrameMessage (envelope : CommandEnvelope) (sequence : UInt64) (payload : Bytes) : Bytes :=
  [labelBytes "NSTU-CONTROL-FRAME-V1", encodeCommandHeader envelope, le sequence, payload].flatten

def computeControlAuthTag (sessionKey : Bytes) (envelope : CommandEnvelope) (sequence : UInt64)
    (payload : Bytes) : Option (Block 16) :=
  if sessionKey.length < kMinimumProtocolKeyBytes then none
  else (hmacSha256 hmac sessionKey (controlFrameMessage envelope sequence payload)).map fun digest =>
    ⟨digest.toList.take 16, length_take_digest digest⟩

def verifyControlAuthTag (sessionKey : Bytes) (envelope : CommandEnvelope) (sequence : UInt64)
    (payload tag : Bytes) : Bool :=
  match computeControlAuthTag hmac sessionKey envelope sequence payload with
  | none => false
  | some expected => expected.toList == tag

def encodeAuthenticatedCommand (sessionKey : Bytes) (envelope : CommandEnvelope) (sequence : UInt64)
    (payload : Bytes) : Bytes :=
  if isHandshakeCommand envelope.type || payload.length > kMaxCommandPayload - kAuthenticatedOverhead then []
  else
    let normalized := normalizedEnvelope envelope payload
    match computeControlAuthTag hmac sessionKey normalized sequence payload with
    | none => []
    | some tag => authenticatedFrame normalized sequence tag payload

def decodeAuthenticatedCommand (sessionKey : Bytes) (frame : TcpFrame) :
    Option AuthenticatedCommand :=
  if frame.payload.length < kAuthenticatedOverhead || frame.envelope.payloadBytes.toNat != frame.payload.length ||
      isHandshakeCommand frame.envelope.type then none
  else
    let sequence : UInt64 := Word.ofNat (leValue (frame.payload.take 8))
    let tag := (frame.payload.drop 8).take kControlAuthTagBytes
    let payload := frame.payload.drop kAuthenticatedOverhead
    let normalized := { frame.envelope with payloadBytes := UInt32.ofNat payload.length }
    if !verifyControlAuthTag hmac sessionKey normalized sequence payload tag then none
    else some ⟨normalized, sequence, payload⟩

end Hmac

/-! ## Sealed commands -/

def constructAeadNonce (ivBase : Block 12) (sequence : UInt64) : Block 12 :=
  ⟨ivBase.toList.take 4 ++ List.zipWith (· ^^^ ·) (ivBase.toList.drop 4) (le sequence), by simp⟩

def makeAeadAad (envelope : CommandEnvelope) (sequence : UInt64) : Bytes :=
  encodeCommandHeader envelope ++ le sequence

/-- The arguments of `encrypt_aead_gcm`. -/
structure SealCall where
  key : Digest
  nonce : Block 12
  associatedData : Bytes
  plaintext : Bytes
  deriving DecidableEq

/-- The call with which `encode_authenticated_command_aead` seals a command, if it gets that far. -/
def aeadSealCall (key : Digest) (ivBase : Block 12) (envelope : CommandEnvelope) (sequence : UInt64)
    (payload : Bytes) : Option SealCall :=
  if isHandshakeCommand envelope.type || payload.length > kMaxCommandPayload - kAuthenticatedOverhead then none
  else
    some ⟨key, constructAeadNonce ivBase sequence,
      makeAeadAad (normalizedEnvelope envelope payload) sequence, payload⟩

section Gcm

variable (encrypt : (call : SealCall) → Block call.plaintext.length × Block 16)
  (decrypt : Digest → Block 12 → Bytes → Bytes → Bytes → Option Bytes)

/-- `encode_authenticated_command_aead(...)`, where the cipher does its work or does not. -/
def encodeAuthenticatedCommandAead (sealed : Bool) (key : Digest) (ivBase : Block 12)
    (envelope : CommandEnvelope) (sequence : UInt64) (payload : Bytes) : Bytes :=
  match aeadSealCall key ivBase envelope sequence payload with
  | none => []
  | some call =>
    if !sealed then []
    else
      let result := encrypt call
      authenticatedFrame (normalizedEnvelope envelope payload) sequence result.2 result.1.toList

def decodeAuthenticatedCommandAead (key : Digest) (ivBase : Block 12) (frame : TcpFrame) :
    Option AuthenticatedCommand :=
  if frame.payload.length < kAuthenticatedOverhead || frame.envelope.payloadBytes.toNat != frame.payload.length ||
      isHandshakeCommand frame.envelope.type then none
  else
    let sequence : UInt64 := Word.ofNat (leValue (frame.payload.take 8))
    let tag := (frame.payload.drop 8).take kControlAuthTagBytes
    let ciphertext := frame.payload.drop kAuthenticatedOverhead
    let normalized := { frame.envelope with payloadBytes := UInt32.ofNat ciphertext.length }
    (decrypt key (constructAeadNonce ivBase sequence) (makeAeadAad normalized sequence) ciphertext
      tag).map fun plaintext => ⟨normalized, sequence, plaintext⟩

end Gcm

/-! ## The channel -/

structure ControlSequenceGuard where
  nextExpected : UInt64
  exhausted : Bool
  deriving DecidableEq

/-- `std::numeric_limits<std::uint64_t>::max()`. -/
def maximumSequence : UInt64 := 0xffffffffffffffff

lemma toNat_succ_of_ne {sequence : UInt64} (h : ¬ (sequence == maximumSequence)) :
    (sequence + 1).toNat = sequence.toNat + 1 := by
  have hl := sequence.toNat_lt
  have hn : sequence.toNat ≠ 2 ^ 64 - 1 := by
    intro he
    exact h (beq_iff_eq.mpr (UInt64.toNat_inj.mp he))
  rw [UInt64.toNat_add, UInt64.toNat_one, Nat.mod_eq_of_lt (by omega)]

/-- `ControlSequenceGuard::accept`. -/
def ControlSequenceGuard.accept (guard : ControlSequenceGuard) (sequence : UInt64) : ControlSequenceGuard × Bool :=
  if guard.exhausted || sequence != guard.nextExpected then (guard, false)
  else if guard.nextExpected == maximumSequence then ({ guard with exhausted := true }, true)
  else ({ guard with nextExpected := guard.nextExpected + 1 }, true)

/-- `AuthenticatedControlChannel`. -/
structure ControlChannel where
  socketOpen : Bool
  sessionKey : Digest
  aeadEnabled : Bool
  role : ConnectionRole
  sendKey : Digest
  sendIvBase : Block 12
  receiveKey : Digest
  receiveIvBase : Block 12
  receiveSequence : ControlSequenceGuard
  sendSequence : UInt64
  sendExhausted : Bool
  deriving DecidableEq

/-- A call of `send` or `send_with_deadline`, with what the cipher and the socket answer. -/
structure SendCall where
  type : CommandType
  requestId : UInt64
  payload : Bytes
  deadline : Bool
  sealed : Bool
  written : Bool

def SendCall.envelope (call : SendCall) : CommandEnvelope :=
  ⟨kCommandVersion, call.type, UInt32.ofNat call.payload.length, call.requestId⟩

structure SendResult where
  channel : ControlChannel
  succeeded : Bool
  wire : Bytes
  sealing : Option SealCall

/-- An operation on a channel.  A call of `receive` reads what the network gives it. -/
inductive ChannelOp where
  | send (call : SendCall)
  | receive (input : Bytes)
  | close

/-- A channel, with what it has sealed, sent and received. -/
structure ChannelRun where
  channel : ControlChannel
  seals : List SealCall := []
  wires : List Bytes := []
  received : List AuthenticatedCommand := []

namespace ControlChannel

/-- The constructor from a session. -/
def ofSession (hmac : Bytes → Bytes → Digest) (session : AuthenticatedSession) : ControlChannel :=
  let keys := if session.aeadEnabled then deriveAeadSessionKeys hmac session.sessionKey.toList else none
  let plain : ControlChannel :=
    { socketOpen := true
      sessionKey := session.sessionKey
      aeadEnabled := false
      role := session.role
      sendKey := Block.zero 32
      sendIvBase := Block.zero 12
      receiveKey := Block.zero 32
      receiveIvBase := Block.zero 12
      receiveSequence := ⟨0, false⟩
      sendSequence := 0
      sendExhausted := false }
  match keys with
  | none => plain
  | some keys =>
    if session.role = .client then
      { plain with
        aeadEnabled := true
        sendKey := keys.clientToServerKey
        sendIvBase := keys.clientToServerIv
        receiveKey := keys.serverToClientKey
        receiveIvBase := keys.serverToClientIv }
    else
      { plain with
        aeadEnabled := true
        sendKey := keys.serverToClientKey
        sendIvBase := keys.serverToClientIv
        receiveKey := keys.clientToServerKey
        receiveIvBase := keys.clientToServerIv }

def close (channel : ControlChannel) : ControlChannel :=
  { channel with
    socketOpen := false
    sessionKey := Block.zero 32
    aeadEnabled := false
    sendKey := Block.zero 32
    sendIvBase := Block.zero 12
    receiveKey := Block.zero 32
    receiveIvBase := Block.zero 12
    sendExhausted := true }

/-- The step of the counter after a command has been written. -/
def advance (channel : ControlChannel) : ControlChannel :=
  if channel.sendSequence == maximumSequence then { channel with sendExhausted := true }
  else { channel with sendSequence := channel.sendSequence + 1 }

section Operations

variable (hmac : Bytes → Bytes → Digest)
  (encrypt : (call : SealCall) → Block call.plaintext.length × Block 16)
  (decrypt : Digest → Block 12 → Bytes → Bytes → Bytes → Option Bytes)

/-- `send_impl`. -/
def send (channel : ControlChannel) (call : SendCall) : SendResult :=
  if !channel.socketOpen || channel.sendExhausted || isHandshakeCommand call.type then
    ⟨channel, false, [], none⟩
  else
    let sealing :=
      if channel.aeadEnabled then
        aeadSealCall channel.sendKey channel.sendIvBase call.envelope channel.sendSequence call.payload
      else none
    let wire :=
      if channel.aeadEnabled then
        encodeAuthenticatedCommandAead encrypt call.sealed channel.sendKey channel.sendIvBase
          call.envelope channel.sendSequence call.payload
      else
        encodeAuthenticatedCommand hmac channel.sessionKey.toList call.envelope channel.sendSequence call.payload
    if wire.isEmpty then ⟨channel, false, [], sealing⟩
    else if !call.written then
      -- an ordinary send that fails leaves the channel open, with its counter where it was
      ⟨if call.deadline then channel.close else channel, false, wire, sealing⟩
    else ⟨channel.advance, true, wire, sealing⟩

def receive (channel : ControlChannel) (input : Bytes) : ControlChannel × Option AuthenticatedCommand :=
  if !channel.socketOpen then (channel, none)
  else
    match receivePlainFrame.run input with
    | none => (channel, none)
    | some (frame, _) =>
      let command :=
        if channel.aeadEnabled then
          decodeAuthenticatedCommandAead decrypt channel.receiveKey channel.receiveIvBase frame
        else decodeAuthenticatedCommand hmac channel.sessionKey.toList frame
      match command with
      | none => (channel, none)
      | some command =>
        let checked := channel.receiveSequence.accept command.sequence
        let channel := { channel with receiveSequence := checked.1 }
        if !checked.2 then (channel, none) else (channel, some command)

end Operations

end ControlChannel

section Runs

variable (hmac : Bytes → Bytes → Digest)
  (encrypt : (call : SealCall) → Block call.plaintext.length × Block 16)
  (decrypt : Digest → Block 12 → Bytes → Bytes → Bytes → Option Bytes)

/-- One send or receive, with the nonces it seals under. -/
def ChannelRun.step (run : ChannelRun) : ChannelOp → ChannelRun
  | .send call =>
    let result := run.channel.send hmac encrypt call
    { run with
      channel := result.channel
      seals := run.seals ++ result.sealing.toList
      wires := if result.wire.isEmpty then run.wires else run.wires ++ [result.wire] }
  | .receive input =>
    let result := run.channel.receive hmac decrypt input
    { run with channel := result.1, received := run.received ++ result.2.toList }
  | .close => { run with channel := run.channel.close }

/-- A run of a channel, from its session on. -/
def channelRun (session : AuthenticatedSession) (ops : List ChannelOp) : ChannelRun :=
  ops.foldl (ChannelRun.step hmac encrypt decrypt) { channel := .ofSession hmac session }

end Runs

end Nstu.Control
