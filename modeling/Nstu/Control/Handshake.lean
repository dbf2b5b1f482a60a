import Nstu.Control.Auth

/-!
# The handshake

`client_handshake` and `server_handshake` of `control_channel.cpp`, and the stages in which the
control plane does the server's part (`process_auth_hello`, `process_auth_proof`).

A party gets its bytes from whoever is on the other end of the wire, so a call has the whole input
as an argument, together with what the random generator, the clock and the socket answer.  A run
says what came of it: what the party has written, the digests among it (as pairs of a key and a
message), the digests it has accepted, and the session.
-/

namespace Nstu.Control

open Wire Reader

structure AuthenticatedSession where
  sessionKey : Digest
  clientId : ClientId
  keyId : UInt32
  aeadEnabled : Bool
  role : ConnectionRole
  deriving DecidableEq

/-- A session, with the messages it comes from. -/
structure Completed where
  session : AuthenticatedSession
  hello : AuthHello
  challenge : AuthChallenge
  deriving DecidableEq

structure HandshakeRun where
  written : List Bytes := []
  sent : List (Bytes × Bytes) := []
  accepted : List (Bytes × Bytes) := []
  completed : Option Completed := none
  deriving DecidableEq

/-- A frame of the handshake, with its request id and payload. -/
def receiveHandshakeFrame (type : CommandType) : Reader (UInt64 × Bytes) := do
  let frame ← receivePlainFrame
  require (frame.envelope.type = type)
  pure (frame.envelope.requestId, frame.payload)

/-- A proof, in a frame of this type and request. -/
def receiveProof (type : CommandType) (requestId : UInt64) : Reader Bytes := do
  let (request, payload) ← receiveHandshakeFrame type
  require (request = requestId)
  require (payload.length = 32)
  pure payload

section Parties

variable (hmac : Bytes → Bytes → Digest)

/-! ## The client -/

/-- A call of `client_handshake`. -/
structure ClientCall where
  clientId : ClientId
  keyId : UInt32
  preSharedKey : Bytes
  now : UInt64
  maximumClockSkew : ℤ
  requestAead : Bool
  -- what `generate_random` and `random_request_id` give
  clientNonce : Option Nonce
  requestId : UInt64
  -- whether the two writes succeed
  helloWritten : Bool
  proofWritten : Bool
  input : Bytes

namespace ClientCall

def hello (call : ClientCall) (clientNonce : Nonce) : AuthHello :=
  ⟨call.clientId, clientNonce, call.now, call.keyId⟩

def preamble (call : ClientCall) : ConnectionPreamble :=
  { role := .client
    flags := if call.requestAead then kPreambleFlagAead else kPreambleFlagNone
    keyId := call.keyId
    identity := call.clientId }

/-- The server's preamble and challenge, and whether they make it an AEAD session. -/
def receiveChallenge (call : ClientCall) : Reader (Bool × AuthChallenge) := do
  let preamble ← receivePreamble
  require (preamble.role = .server)
  let (request, payload) ← receiveHandshakeFrame .authChallenge
  require (request = call.requestId)
  let challenge ← ofOption (decodeAuthChallenge payload)
  require (validateAuthChallenge challenge = true)
  require (timeIsValid challenge.unixTimeSeconds call.now call.maximumClockSkew = true)
  pure (call.requestAead && preamble.aeadFlag, challenge)

end ClientCall

def clientHandshake (call : ClientCall) : HandshakeRun :=
  match call.clientNonce with
  | none => {}
  | some clientNonce =>
    let hello := call.hello clientNonce
    if !validateAuthHello hello || call.requestId == 0 then {}
    else
      let opening := [encodeConnectionPreamble call.preamble,
        plainFrame .authHello call.requestId (encodeAuthHello hello)]
      if !call.helloWritten then { written := opening }
      else
        match call.receiveChallenge.run call.input with
        | none => { written := opening }
        | some ((aeadNegotiated, challenge), rest) =>
          match computeClientProof hmac call.preSharedKey hello challenge,
            deriveSessionKey hmac call.preSharedKey hello challenge with
          | some clientProof, some sessionKey =>
            let proved : HandshakeRun :=
              { written := opening ++ [plainFrame .authProof call.requestId clientProof.toList]
                sent := [(call.preSharedKey, makeTranscript clientProofLabel hello challenge)] }
            if !call.proofWritten then proved
            else
              match (receiveProof .authAccept call.requestId).run rest,
                computeServerProof hmac sessionKey.toList hello challenge with
              | some (payload, _), some expected =>
                if expected.toList != payload then proved
                else
                  { proved with
                    accepted := [(sessionKey.toList, makeTranscript serverProofLabel hello challenge)]
                    completed := some ⟨⟨sessionKey, call.clientId, call.keyId, aeadNegotiated,
                      .client⟩, hello, challenge⟩ }
              | _, _ => proved
          | _, _ => { written := opening }

/-! ## The blocking server -/

/-- A call of `server_handshake`. -/
structure ServerCall where
  keyResolver : ClientId → UInt32 → Option Bytes
  now : UInt64
  allowAead : Bool
  -- what `generate_random` gives and `replay_protector.accept` answers
  serverNonce : Option Nonce
  replayAccepted : Bool
  -- whether the two writes succeed
  challengeWritten : Bool
  acceptWritten : Bool
  input : Bytes

/-- The server's preamble. -/
def serverPreamble (aead : Bool) : ConnectionPreamble :=
  { role := .server, flags := if aead then kPreambleFlagAead else kPreambleFlagNone }

/-- The client's preamble and hello, with the request id. -/
def receiveHello : Reader (ConnectionPreamble × UInt64 × AuthHello) := do
  let preamble ← receivePreamble
  require (preamble.role = .client)
  let (request, payload) ← receiveHandshakeFrame .authHello
  let hello ← ofOption (decodeAuthHello payload)
  require (validateAuthHello hello = true)
  require (hello.clientId = preamble.identity)
  require (hello.keyId = preamble.keyId)
  pure (preamble, request, hello)

def serverHandshake (call : ServerCall) : HandshakeRun :=
  match receiveHello.run call.input with
  | none => {}
  | some ((preamble, request, hello), rest) =>
    match (call.keyResolver hello.clientId hello.keyId).filter
      (kMinimumProtocolKeyBytes ≤ ·.length), call.serverNonce with
    | some preSharedKey, some serverNonce =>
      let aeadNegotiated := call.allowAead && preamble.aeadFlag
      let challenge : AuthChallenge := ⟨serverNonce, call.now⟩
      let challenged : HandshakeRun :=
        { written := [encodeConnectionPreamble (serverPreamble aeadNegotiated),
            plainFrame .authChallenge request (encodeAuthChallenge challenge)] }
      if !call.challengeWritten then challenged
      else
        match (receiveProof .authProof request).run rest,
          computeClientProof hmac preSharedKey hello challenge with
        | some (payload, _), some expected =>
          if expected.toList != payload || !call.replayAccepted then challenged
          else
            let proved : HandshakeRun :=
              { challenged with
                accepted := [(preSharedKey, makeTranscript clientProofLabel hello challenge)] }
            match deriveSessionKey hmac preSharedKey hello challenge with
            | none => proved
            | some sessionKey =>
              match computeServerProof hmac sessionKey.toList hello challenge with
              | none => proved
              | some serverProof =>
                let answered : HandshakeRun :=
                  { proved with
                    written := proved.written ++ [plainFrame .authAccept request serverProof.toList]
                    sent := [(sessionKey.toList, makeTranscript serverProofLabel hello challenge)] }
                if !call.acceptWritten then answered
                else
                  { answered with
                    completed := some ⟨⟨sessionKey, hello.clientId, hello.keyId,
                      aeadNegotiated, .server⟩, hello, challenge⟩ }
        | _, _ => challenged
    | _, _ => {}

/-! ## The control plane -/

/-- The stages of a connection between its preamble and its session. -/
inductive Stage where
  | authHello
  | authProof
  | authenticated
  | failed
  deriving DecidableEq

/-- `ConnectionState`, with what the handshake uses of it, and the run so far. -/
structure ConnectionState where
  stage : Stage
  preamble : ConnectionPreamble
  hello : AuthHello
  challenge : AuthChallenge
  preSharedKey : Bytes
  aeadEnabled : Bool
  handshakeRequestId : UInt64
  run : HandshakeRun

/-- A frame, with what the surroundings answer while it is processed. -/
structure FrameEvent where
  frame : TcpFrame
  now : UInt64
  serverNonce : Option Nonce
  replayAccepted : Bool
  written : Bool
  live : Bool

def fail (state : ConnectionState) : ConnectionState := { state with stage := .failed }

def processAuthHello (resolve : ClientId → UInt32 → Option Bytes) (state : ConnectionState)
    (event : FrameEvent) : ConnectionState :=
  if event.frame.envelope.type ≠ .authHello then fail state
  else
    match decodeAuthHello event.frame.payload with
    | none => fail state
    | some hello =>
      if !validateAuthHello hello || hello.clientId != state.preamble.identity ||
          hello.keyId != state.preamble.keyId then fail state
      else
        match resolve hello.clientId hello.keyId with
        | none => fail state
        | some key =>
          match event.serverNonce with
          | none => fail state
          | some serverNonce =>
            let challenge : AuthChallenge := ⟨serverNonce, event.now⟩
            let aead := state.aeadEnabled || state.preamble.aeadFlag
            let answered :=
              { state with
                hello, challenge
                preSharedKey := key
                aeadEnabled := aead
                run := { state.run with
                  written := state.run.written ++ [encodeConnectionPreamble (serverPreamble state.preamble.aeadFlag),
                      plainFrame .authChallenge event.frame.envelope.requestId (encodeAuthChallenge challenge)] } }
            if !event.written then answered
            else
              { answered with
                handshakeRequestId := event.frame.envelope.requestId
                stage := .authProof }

def processAuthProof (state : ConnectionState) (event : FrameEvent) : ConnectionState :=
  if event.frame.envelope.type ≠ .authProof ∨ event.frame.envelope.requestId ≠ state.handshakeRequestId ∨
      event.frame.payload.length ≠ 32 then fail state
  else
    match computeClientProof hmac state.preSharedKey state.hello state.challenge with
    | none => fail state
    | some expected =>
      if expected.toList != event.frame.payload || !event.replayAccepted then fail state
      else
        let proved :=
          { state with
            preSharedKey := []
            run := { state.run with
              accepted := state.run.accepted ++ [(state.preSharedKey,
                  makeTranscript clientProofLabel state.hello state.challenge)] } }
        match deriveSessionKey hmac state.preSharedKey state.hello state.challenge with
        | none => fail proved
        | some sessionKey =>
          match computeServerProof hmac sessionKey.toList state.hello state.challenge with
          | none => fail proved
          | some serverProof =>
            let answered :=
              { proved with
                run := { proved.run with
                  written := proved.run.written ++
                    [plainFrame .authAccept state.handshakeRequestId serverProof.toList]
                  sent := proved.run.sent ++ [(sessionKey.toList,
                      makeTranscript serverProofLabel state.hello state.challenge)] } }
            if !event.written then answered
            else if state.aeadEnabled && (deriveAeadSessionKeys hmac sessionKey.toList).isNone then fail answered
            else if !event.live then answered
            else
              { answered with
                stage := .authenticated
                run := { answered.run with
                  completed := some ⟨⟨sessionKey, state.hello.clientId, state.hello.keyId,
                    state.aeadEnabled, .server⟩, state.hello, state.challenge⟩ } }

/-- `process_frame` until the connection is authenticated. -/
def processFrame (resolve : ClientId → UInt32 → Option Bytes) (state : ConnectionState)
    (event : FrameEvent) : ConnectionState :=
  match state.stage with
  | .authHello => processAuthHello resolve state event
  | .authProof => processAuthProof hmac state event
  | .authenticated | .failed => state

/-- A connection of the control plane: its preamble and the frames after it. -/
structure StagedCall where
  keyResolver : ClientId → UInt32 → Option Bytes
  preamble : Bytes
  events : List FrameEvent

/-- The connection once `on_bytes` has taken the preamble. -/
def openedConnection (preamble : ConnectionPreamble) : ConnectionState where
  stage := .authHello
  preamble := preamble
  hello := ⟨Block.zero 16, Block.zero 32, 0, 0⟩
  challenge := ⟨Block.zero 32, 0⟩
  preSharedKey := []
  aeadEnabled := false
  handshakeRequestId := 0
  run := {}

def stagedHandshake (call : StagedCall) : HandshakeRun :=
  match decodeConnectionPreamble call.preamble with
  | none => {}
  | some preamble =>
    if preamble.role ≠ .client then {}
    else
      (call.events.foldl (processFrame hmac call.keyResolver) (openedConnection preamble)).run

end Parties

end Nstu.Control
