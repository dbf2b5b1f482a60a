import Nstu.Control.Handshake
import Nstu.Core.Mac

/-!
# What a completed handshake agrees on

Any number of clients and servers, and an adversary that gives each of them what it likes to read.
All it lacks is the key of the client in question.

The proofs cover the hello and the challenge, so the parties agree on these and on the session key.
They do not cover the preambles, and each side decides on AEAD by the flag in the preamble it has
read: the two decide alike exactly when the flags have come through (`FlagsDelivered`).
-/

namespace Nstu.Control

open Wire Reader

/-! ## Runs with an adversary -/

/-- A server's side of a handshake. -/
inductive ServerRun where
  | blocking (call : ServerCall)
  | staged (call : StagedCall)

namespace ServerRun

def run (hmac : Bytes → Bytes → Digest) : ServerRun → HandshakeRun
  | blocking call => serverHandshake hmac call
  | staged call => stagedHandshake hmac call

/-- The nonces it has drawn. -/
def nonces : ServerRun → List Nonce
  | blocking call => call.serverNonce.toList
  | staged call => call.events.filterMap FrameEvent.serverNonce

/-- The preamble it has read. -/
def preamble : ServerRun → Option ConnectionPreamble
  | blocking call => (receivePreamble.run call.input).map Prod.fst
  | staged call => decodeConnectionPreamble call.preamble

def allowsAead : ServerRun → Bool
  | blocking call => call.allowAead
  | staged _ => true

/-- The AEAD flag of the preamble it has read. -/
def readsAeadFlag (server : ServerRun) : Bool := server.preamble.any ConnectionPreamble.aeadFlag

end ServerRun

/-- The AEAD flag of the preamble a client has read. -/
def ClientCall.readsAeadFlag (call : ClientCall) : Bool :=
  ((receivePreamble.run call.input).map Prod.fst).any ConnectionPreamble.aeadFlag

/-- Everything that happens: the handshakes, what the program authenticates elsewhere, and the keys
that the adversary holds. -/
structure World where
  clients : List ClientCall
  servers : List ServerRun
  others : List (Bytes × Bytes)
  held : Set Bytes

namespace World

variable (hmac : Bytes → Bytes → Digest) (world : World)

/-- The digests that have been on the wire. -/
def sent : Set (Bytes × Bytes) :=
  { pair | (∃ client ∈ world.clients, pair ∈ (clientHandshake hmac client).sent) ∨
    (∃ server ∈ world.servers, pair ∈ (server.run hmac).sent) ∨ pair ∈ world.others }

/-- The digests that have been accepted under keys the adversary does not hold. -/
def accepted : Set (Bytes × Bytes) :=
  { pair | (∃ client ∈ world.clients, client.preSharedKey ∉ world.held ∧
      pair ∈ (clientHandshake hmac client).accepted) ∨
    ∃ server ∈ world.servers, pair ∈ (server.run hmac).accepted ∧ pair.1 ∉ world.held }

/-- HMAC and the random generator do what they are there for: no forged digest is accepted, no two
digests are the same, and no two servers draw the same nonce.  What else the program authenticates
has other labels. -/
structure Sound : Prop where
  unforgeable : Mac.Unforgeable hmac (world.sent hmac) (world.accepted hmac)
  collisionFree : Mac.CollisionFree hmac (world.sent hmac ∪ world.accepted hmac)
  fresh : ∀ server ∈ world.servers, ∀ server' ∈ world.servers, ∀ nonce,
    nonce ∈ server.nonces → nonce ∈ server'.nonces → server = server'
  others : ∀ pair ∈ world.others, ¬ labelBytes serverProofLabel <+: pair.2

end World

/-- The AEAD flags have come through.  Where the client wants AEAD, it reads the flag exactly if the
server has set it; where it does not, the server does not set it. -/
def FlagsDelivered (client : ClientCall) (server : ServerRun) : Prop :=
  if client.requestAead then client.readsAeadFlag = (server.allowsAead && server.readsAeadFlag)
  else (server.allowsAead && server.readsAeadFlag) = false

/-! ## What one party has done -/

section Parties

variable {hmac : Bytes → Bytes → Digest}

lemma receiveChallenge_flag {call : ClientCall} {rest : Bytes} {aead : Bool} {challenge : AuthChallenge}
    (h : call.receiveChallenge.run call.input = some ((aead, challenge), rest)) :
    aead = (call.requestAead && call.readsAeadFlag) := by
  simp only [ClientCall.receiveChallenge] at h
  obtain ⟨preamble, s, hp, h⟩ := run_bind_iff.mp h
  simp only [run_bind_require_iff] at h
  obtain ⟨⟨request, payload⟩, s', -, h⟩ := run_bind_iff.mp h.2
  simp only [run_bind_require_iff, run_bind_ofOption_iff, run_pure_iff, Prod.mk.injEq] at h
  obtain ⟨-, challenge', -, -, -, ⟨rfl, -⟩, -⟩ := h
  simp [ClientCall.readsAeadFlag, hp]

/-- How far the client's handshake gets. -/
lemma clientHandshake_cases (hmac : Bytes → Bytes → Digest) (call : ClientCall) :
    ((clientHandshake hmac call).sent = [] ∧ (clientHandshake hmac call).accepted = [] ∧
      (clientHandshake hmac call).completed = none) ∨
    ∃ hello challenge, (clientHandshake hmac call).sent =
        [(call.preSharedKey, makeTranscript clientProofLabel hello challenge)] ∧
      (((clientHandshake hmac call).accepted = [] ∧ (clientHandshake hmac call).completed = none) ∨
      ∃ sessionKey : Digest, (clientHandshake hmac call).accepted =
          [(sessionKey.toList, makeTranscript serverProofLabel hello challenge)] ∧
        (clientHandshake hmac call).completed =
          some ⟨⟨sessionKey, hello.clientId, hello.keyId, call.requestAead && call.readsAeadFlag,
            .client⟩, hello, challenge⟩) := by
  simp only [clientHandshake]
  split
  · exact .inl ⟨rfl, rfl, rfl⟩
  rename_i clientNonce _
  split
  · exact .inl ⟨rfl, rfl, rfl⟩
  split
  · exact .inl ⟨rfl, rfl, rfl⟩
  split
  · exact .inl ⟨rfl, rfl, rfl⟩
  rename_i aead challenge rest hc
  have ha := receiveChallenge_flag hc
  split
  · -- the proof is on its way
    rename_i clientProof sessionKey _ _
    right
    split
    · exact ⟨call.hello clientNonce, challenge, rfl, .inl ⟨rfl, rfl⟩⟩
    split
    · split
      · exact ⟨call.hello clientNonce, challenge, rfl, .inl ⟨rfl, rfl⟩⟩
      · refine ⟨call.hello clientNonce, challenge, rfl, .inr ⟨sessionKey, rfl, ?_⟩⟩
        rw [ha]
        rfl
    · exact ⟨call.hello clientNonce, challenge, rfl, .inl ⟨rfl, rfl⟩⟩
  · exact .inl ⟨rfl, rfl, rfl⟩

/-- What can come of a server's: nothing, or a proof for one challenge, and a session that goes with
it. -/
def Answers (nonces : List Nonce) (aead : Bool) (hello : AuthHello) (challenge : AuthChallenge)
    (run : HandshakeRun) : Prop :=
  (run.sent = [] ∧ run.completed = none) ∨ ∃ sessionKey : Digest,
      run.sent = [(sessionKey.toList, makeTranscript serverProofLabel hello challenge)] ∧
      challenge.serverNonce ∈ nonces ∧
      ∀ completed ∈ run.completed, completed =
        ⟨⟨sessionKey, hello.clientId, hello.keyId, aead, .server⟩, hello, challenge⟩

lemma receiveHello_preamble {input rest : Bytes} {preamble : ConnectionPreamble} {request : UInt64}
    {hello : AuthHello} (h : receiveHello.run input = some ((preamble, request, hello), rest)) :
    (receivePreamble.run input).map Prod.fst = some preamble := by
  simp only [receiveHello] at h
  obtain ⟨preamble', s, hp, h⟩ := run_bind_iff.mp h
  simp only [run_bind_require_iff] at h
  obtain ⟨⟨request, payload⟩, s', -, h⟩ := run_bind_iff.mp h.2
  simp only [run_bind_require_iff, run_bind_ofOption_iff, run_pure_iff, Prod.mk.injEq] at h
  obtain ⟨hello', -, -, -, -, ⟨rfl, -, -⟩, -⟩ := h
  rw [hp]
  rfl

lemma serverHandshake_answers (hmac : Bytes → Bytes → Digest) (call : ServerCall) :
    ∃ hello challenge, Answers call.serverNonce.toList
      (call.allowAead && (ServerRun.blocking call).readsAeadFlag) hello challenge
      (serverHandshake hmac call) := by
  simp only [serverHandshake]
  split
  · exact ⟨⟨Block.zero 16, Block.zero 32, 0, 0⟩, ⟨Block.zero 32, 0⟩, .inl ⟨rfl, rfl⟩⟩
  rename_i preamble request hello rest hh
  have hf : (ServerRun.blocking call).readsAeadFlag = preamble.aeadFlag := by
    simp [ServerRun.readsAeadFlag, ServerRun.preamble, receiveHello_preamble hh]
  split
  · rename_i preSharedKey serverNonce _ hn
    refine ⟨hello, ⟨serverNonce, call.now⟩, ?_⟩
    split
    · exact .inl ⟨rfl, rfl⟩
    split
    · split
      · exact .inl ⟨rfl, rfl⟩
      split
      · exact .inl ⟨rfl, rfl⟩
      rename_i sessionKey _
      split
      · exact .inl ⟨rfl, rfl⟩
      right
      split
      · refine ⟨sessionKey, rfl, by simp [hn], ?_⟩
        intro completed hc
        cases hc
      · refine ⟨sessionKey, rfl, by simp [hn], ?_⟩
        intro completed hc
        rw [hf]
        exact (Option.some.inj hc).symm
    · exact .inl ⟨rfl, rfl⟩
  · exact ⟨⟨Block.zero 16, Block.zero 32, 0, 0⟩, ⟨Block.zero 32, 0⟩, .inl ⟨rfl, rfl⟩⟩

/-- A connection of the control plane on its way to a session. -/
structure Staging (nonces : List Nonce) (preamble : ConnectionPreamble) (state : ConnectionState) :
    Prop where
  reads : state.preamble = preamble
  hello : state.stage = .authHello → (state.aeadEnabled = true → preamble.aeadFlag = true) ∧
    state.run.sent = [] ∧ state.run.completed = none
  proof : state.stage = .authProof → state.aeadEnabled = preamble.aeadFlag ∧
    state.challenge.serverNonce ∈ nonces ∧ state.run.completed = none ∧
    (state.run.sent = [] ∨ state.preSharedKey = [])
  answers : Answers nonces preamble.aeadFlag state.hello state.challenge state.run

variable {nonces : List Nonce} {preamble : ConnectionPreamble} {state : ConnectionState}
  {event : FrameEvent}

lemma Staging.fail (h : Staging nonces preamble state) : Staging nonces preamble (fail state) where
  reads := h.reads
  hello := fun hs => by cases hs
  proof := fun hs => by cases hs
  answers := h.answers

lemma Staging.processAuthHello {resolve : ClientId → UInt32 → Option Bytes}
    (h : Staging nonces preamble state) (hstage : state.stage = .authHello)
    (hnonce : ∀ nonce ∈ event.serverNonce, nonce ∈ nonces) :
    Staging nonces preamble (processAuthHello resolve state event) := by
  obtain ⟨haead, hsent, hcomp⟩ := h.hello hstage
  simp only [Control.processAuthHello]
  split
  · exact h.fail
  split
  · exact h.fail
  split
  · exact h.fail
  split
  · exact h.fail
  split
  · exact h.fail
  rename_i serverNonce hserv
  have hflag : (state.aeadEnabled || state.preamble.aeadFlag) = preamble.aeadFlag := by
    rw [h.reads]
    cases henab : state.aeadEnabled with
    | false => rfl
    | true => rw [haead henab, Bool.true_or]
  split
  · exact
      { reads := h.reads
        hello := fun _ => ⟨fun henab => hflag ▸ henab, hsent, hcomp⟩
        proof := fun hproof => by rw [hstage] at hproof; cases hproof
        answers := .inl ⟨hsent, hcomp⟩ }
  · exact
      { reads := h.reads
        hello := fun hhello => by cases hhello
        proof := fun _ => ⟨hflag, hnonce serverNonce hserv, hcomp, .inl hsent⟩
        answers := .inl ⟨hsent, hcomp⟩ }

lemma Staging.processAuthProof (h : Staging nonces preamble state) (hstage : state.stage = .authProof) :
    Staging nonces preamble (processAuthProof hmac state event) := by
  obtain ⟨haead, hnonce, hcomp, hsent⟩ := h.proof hstage
  simp only [Control.processAuthProof]
  split
  · exact h.fail
  split
  · exact h.fail
  rename_i expected hexpe
  -- a key that makes a proof is not the cleared one, so nothing has been sent yet
  have hsent' : state.run.sent = [] := by
    refine hsent.resolve_right ?_
    intro hclea
    rw [hclea] at hexpe
    simp [computeClientProof, transcriptDigest, kMinimumProtocolKeyBytes] at hexpe
  split
  · exact h.fail
  split
  · exact
      { reads := h.reads
        hello := fun hhello => by cases hhello
        proof := fun hproof => by cases hproof
        answers := .inl ⟨hsent', hcomp⟩ }
  rename_i sessionKey _
  split
  · exact
      { reads := h.reads
        hello := fun hhello => by cases hhello
        proof := fun hproof => by cases hproof
        answers := .inl ⟨hsent', hcomp⟩ }
  have hansw : state.run.sent ++ [(sessionKey.toList,
      makeTranscript serverProofLabel state.hello state.challenge)] =
        [(sessionKey.toList, makeTranscript serverProofLabel state.hello state.challenge)] := by
    rw [hsent', List.nil_append]
  have hnone : ∀ completed ∈ state.run.completed, completed =
      ⟨⟨sessionKey, state.hello.clientId, state.hello.keyId, preamble.aeadFlag, .server⟩, state.hello,
        state.challenge⟩ := by
    rw [hcomp]
    intro completed hmem
    cases hmem
  split
  · exact
      { reads := h.reads
        hello := fun hhello => by rw [hstage] at hhello; cases hhello
        proof := fun _ => ⟨haead, hnonce, hcomp, .inr rfl⟩
        answers := .inr ⟨sessionKey, hansw, hnonce, hnone⟩ }
  split
  · exact
      { reads := h.reads
        hello := fun hhello => by cases hhello
        proof := fun hproof => by cases hproof
        answers := .inr ⟨sessionKey, hansw, hnonce, hnone⟩ }
  split
  · exact
      { reads := h.reads
        hello := fun hhello => by rw [hstage] at hhello; cases hhello
        proof := fun _ => ⟨haead, hnonce, hcomp, .inr rfl⟩
        answers := .inr ⟨sessionKey, hansw, hnonce, hnone⟩ }
  · refine
      { reads := h.reads
        hello := fun hhello => by cases hhello
        proof := fun hproof => by cases hproof
        answers := .inr ⟨sessionKey, hansw, hnonce, ?_⟩ }
    intro completed hmem
    rw [← haead]
    exact (Option.some.inj hmem).symm

lemma Staging.processFrame {resolve : ClientId → UInt32 → Option Bytes}
    (h : Staging nonces preamble state) (hn : ∀ nonce ∈ event.serverNonce, nonce ∈ nonces) :
    Staging nonces preamble (processFrame hmac resolve state event) := by
  simp only [Control.processFrame]
  split
  · rename_i hs
    exact h.processAuthHello hs hn
  · rename_i hs
    exact h.processAuthProof hs
  · exact h
  · exact h

lemma Staging.foldl {resolve : ClientId → UInt32 → Option Bytes} {events : List FrameEvent} :
    ∀ {state : ConnectionState}, Staging nonces preamble state →
      (∀ event ∈ events, ∀ nonce ∈ event.serverNonce, nonce ∈ nonces) →
      Staging nonces preamble (events.foldl (Control.processFrame hmac resolve) state) := by
  induction events with
  | nil =>
    intro state h _
    exact h
  | cons event rest ih =>
    intro state h hn
    exact ih (h.processFrame (hn event (List.mem_cons_self ..)))
      fun event' he' => hn event' (List.mem_cons_of_mem _ he')

lemma stagedHandshake_answers (hmac : Bytes → Bytes → Digest) (call : StagedCall) :
    ∃ hello challenge, Answers (ServerRun.staged call).nonces
      (ServerRun.staged call).readsAeadFlag hello challenge (stagedHandshake hmac call) := by
  simp only [stagedHandshake]
  split
  · exact ⟨⟨Block.zero 16, Block.zero 32, 0, 0⟩, ⟨Block.zero 32, 0⟩, .inl ⟨rfl, rfl⟩⟩
  rename_i preamble hp
  split
  · exact ⟨⟨Block.zero 16, Block.zero 32, 0, 0⟩, ⟨Block.zero 32, 0⟩, .inl ⟨rfl, rfl⟩⟩
  have ho : Staging (ServerRun.staged call).nonces preamble (openedConnection preamble) :=
    { reads := rfl
      hello := fun _ => ⟨fun he => (by cases he), rfl, rfl⟩
      proof := fun hpr => by cases hpr
      answers := .inl ⟨rfl, rfl⟩ }
  have hf := @Staging.foldl hmac _ _ call.keyResolver call.events _ ho fun event hev
    nonce hn => List.mem_filterMap.mpr ⟨event, hev, hn⟩
  have hfl : (ServerRun.staged call).readsAeadFlag = preamble.aeadFlag := by
    simp [ServerRun.readsAeadFlag, ServerRun.preamble, hp]
  rw [hfl]
  exact ⟨_, _, hf.answers⟩

lemma ServerRun.answers (hmac : Bytes → Bytes → Digest) (server : ServerRun) :
    ∃ hello challenge, Answers server.nonces (server.allowsAead && server.readsAeadFlag) hello
      challenge (server.run hmac) := by
  cases server with
  | blocking call => exact serverHandshake_answers hmac call
  | staged call =>
    rw [show (ServerRun.staged call).allowsAead from rfl, Bool.true_and]
    exact stagedHandshake_answers hmac call

lemma makeTranscript_server_ne_client {hello hello' : AuthHello} {challenge challenge' : AuthChallenge} :
    makeTranscript serverProofLabel hello challenge ≠
      makeTranscript clientProofLabel hello' challenge' := by
  intro h
  have hl := (List.append_inj h (by decide)).1
  exact absurd hl (by decide)

end Parties

/-! ## Agreement -/

/-- Two parties agree on who is talking, on the nonces and on the key. -/
structure AgreeOnKey (left right : Completed) : Prop where
  clientId : left.session.clientId = right.session.clientId
  clientNonce : left.hello.clientNonce = right.hello.clientNonce
  serverNonce : left.challenge.serverNonce = right.challenge.serverNonce
  sessionKey : left.session.sessionKey = right.session.sessionKey

/-- They agree on all of it, and on whether it is an AEAD session. -/
structure Agree (left right : Completed) : Prop extends AgreeOnKey left right where
  aeadEnabled : left.session.aeadEnabled = right.session.aeadEnabled

lemma World.Sound.server_of_accepted {hmac : Bytes → Bytes → Digest} {world : World}
    (hs : world.Sound hmac) {key : Bytes} {hello : AuthHello} {challenge : AuthChallenge}
    (ha : (key, makeTranscript serverProofLabel hello challenge) ∈ world.accepted hmac) :
    ∃ server ∈ world.servers, (key, makeTranscript serverProofLabel hello challenge) ∈ (server.run hmac).sent := by
  have hse := Mac.sent_of_accepted hs.unforgeable hs.collisionFree
    Set.subset_union_left Set.subset_union_right ha
  rcases hse with ⟨client, -, hc⟩ | hser | ho
  · rcases clientHandshake_cases hmac client with ⟨hn, -⟩ | ⟨hello', challenge', hp, -⟩
    · rw [hn] at hc
      cases hc
    · rw [hp, List.mem_singleton] at hc
      exact absurd (Prod.mk.inj hc).2 makeTranscript_server_ne_client
  · exact hser
  · exact absurd (List.prefix_append ..) (hs.others _ ho)

/-- **A completed handshake.**  A client and a server that have completed with the same nonces agree
on the client id, the nonces and the session key; they agree on AEAD as well exactly when its flags
have come through. -/
theorem handshake_agreement {hmac : Bytes → Bytes → Digest} {world : World}
    (hsound : world.Sound hmac) {client : ClientCall} (hclient : client ∈ world.clients)
    (hkey : client.preSharedKey ∉ world.held) {server : ServerRun} (hserver : server ∈ world.servers)
    {clientSide serverSide : Completed}
    (hclientSide : (clientHandshake hmac client).completed = some clientSide)
    (hserverSide : (server.run hmac).completed = some serverSide)
    (hnonce : clientSide.challenge.serverNonce = serverSide.challenge.serverNonce) :
    AgreeOnKey clientSide serverSide ∧ (Agree clientSide serverSide ↔ FlagsDelivered client server) := by
  rcases clientHandshake_cases hmac client with ⟨-, -, hnone⟩ | ⟨hello, challenge, -, hclientRun⟩
  · rw [hnone] at hclientSide
    cases hclientSide
  rcases hclientRun with ⟨-, hnone⟩ | ⟨sessionKey, haccepted, hcompleted⟩
  · rw [hnone] at hclientSide
    cases hclientSide
  rw [hcompleted] at hclientSide
  obtain rfl := Option.some.inj hclientSide
  -- the server whose proof the client has accepted is this one, by its nonce
  obtain ⟨server', hserver', hsent⟩ := hsound.server_of_accepted
    (Or.inl ⟨client, hclient, hkey, by rw [haccepted]; exact List.mem_singleton_self _⟩)
  obtain ⟨hello', challenge', hanswers⟩ := server'.answers hmac
  rcases hanswers with ⟨hnil, -⟩ | ⟨sessionKey', hproof, hnonce', hsession⟩
  · rw [hnil] at hsent
    cases hsent
  rw [hproof, List.mem_singleton] at hsent
  obtain ⟨hkeys, htranscript⟩ := Prod.mk.inj hsent
  obtain rfl := Block.toList_injective hkeys
  obtain ⟨rfl, rfl⟩ := makeTranscript_inj htranscript
  obtain ⟨hello₂, challenge₂, hanswers₂⟩ := server.answers hmac
  rcases hanswers₂ with ⟨-, hnone⟩ | ⟨sessionKey₂, -, hnonce₂, hsession₂⟩
  · rw [hnone] at hserverSide
    cases hserverSide
  have hchallenge : serverSide.challenge = challenge₂ := by
    rw [hsession₂ serverSide hserverSide]
  rw [← hchallenge, ← hnonce] at hnonce₂
  obtain rfl := hsound.fresh server hserver server' hserver' _ hnonce₂ hnonce'
  obtain rfl := hsession serverSide hserverSide
  refine ⟨⟨rfl, rfl, rfl, rfl⟩, ?_⟩
  have hflags : (client.requestAead && client.readsAeadFlag) =
      (server.allowsAead && server.readsAeadFlag) ↔ FlagsDelivered client server := by
    rw [FlagsDelivered]
    cases client.requestAead with
    | true => simp
    | false =>
      rw [if_neg Bool.false_ne_true, Bool.false_and]
      exact eq_comm
  exact ⟨fun hagree => hflags.mp hagree.aeadEnabled, fun hdelivered =>
    ⟨⟨rfl, rfl, rfl, rfl⟩, hflags.mpr hdelivered⟩⟩

/-! ## A flag that does not come through -/

def sampleHello : AuthHello := ⟨Block.fill 16 2, Block.fill 32 7, 1000, 1⟩
def sampleChallenge : AuthChallenge := ⟨Block.fill 32 8, 1000⟩
def sampleKey : Bytes := List.replicate 32 9

/-- The digests of the sample handshake, as little-endian numbers. -/
def sampleClientProof : Digest :=
  ⟨leBytes 32 0xa1f465dd02fdf4f66202c2c7ac7c65949bcdcd1d019756bed186e79d21488df5, leBytes_length _ _⟩
def sampleSessionKey : Digest :=
  ⟨leBytes 32 0xa22aa32968cec3d1622e8225cd3e244bd310aa814633a2e2904f0c8f0cad9b9d, leBytes_length _ _⟩
def sampleServerProof : Digest :=
  ⟨leBytes 32 0xa1d6077a8be552ca17b978f9bcf214c60f4c7d0b8397bba859f86cf499b40472, leBytes_length _ _⟩

/-- HMAC-SHA-256 on the three messages of the sample handshake. -/
def sampleHmac (key message : Bytes) : Digest :=
  if key = sampleKey ∧ message = makeTranscript clientProofLabel sampleHello sampleChallenge then
    sampleClientProof
  else if key = sampleKey ∧ message = makeTranscript sessionKeyLabel sampleHello sampleChallenge then
    sampleSessionKey
  else if key = sampleSessionKey.toList ∧
      message = makeTranscript serverProofLabel sampleHello sampleChallenge then sampleServerProof
  else Block.zero 32

/-- A client that wants AEAD and reads a server preamble with this flag. -/
def sampleClient (flag : Bool) : ClientCall where
  clientId := sampleHello.clientId
  keyId := 1
  preSharedKey := sampleKey
  now := 1000
  maximumClockSkew := 120
  requestAead := true
  clientNonce := some sampleHello.clientNonce
  requestId := 5
  helloWritten := true
  proofWritten := true
  input := [encodeConnectionPreamble (serverPreamble flag),
    plainFrame .authChallenge 5 (encodeAuthChallenge sampleChallenge),
    plainFrame .authAccept 5 sampleServerProof.toList].flatten

/-- A server that allows AEAD and reads what the client has written. -/
def sampleServer : ServerRun := .blocking
  { keyResolver := fun _ _ => some sampleKey
    now := 1000
    allowAead := true
    serverNonce := some sampleChallenge.serverNonce
    replayAccepted := true
    challengeWritten := true
    acceptWritten := true
    input := (clientHandshake sampleHmac (sampleClient true)).written.flatten }

def sampleWorld (flag : Bool) : World := ⟨[sampleClient flag], [sampleServer], [], ∅⟩

def sampleClientPair : Bytes × Bytes :=
  (sampleKey, makeTranscript clientProofLabel sampleHello sampleChallenge)

def sampleServerPair : Bytes × Bytes :=
  (sampleSessionKey.toList, makeTranscript serverProofLabel sampleHello sampleChallenge)

/-- A side of the sample session. -/
def sampleCompleted (aead : Bool) (role : ConnectionRole) : Completed :=
  ⟨⟨sampleSessionKey, sampleHello.clientId, 1, aead, role⟩, sampleHello, sampleChallenge⟩

lemma clientHandshake_sampleClient (flag : Bool) :
    (clientHandshake sampleHmac (sampleClient flag)).sent = [sampleClientPair] ∧
      (clientHandshake sampleHmac (sampleClient flag)).accepted = [sampleServerPair] ∧
      (clientHandshake sampleHmac (sampleClient flag)).completed = some (sampleCompleted flag .client) := by
  cases flag <;> decide +kernel

lemma run_sampleServer : (sampleServer.run sampleHmac).sent = [sampleServerPair] ∧
      (sampleServer.run sampleHmac).accepted = [sampleClientPair] ∧
      (sampleServer.run sampleHmac).completed = some (sampleCompleted true .server) := by
  decide +kernel

lemma sound_sampleWorld (flag : Bool) : (sampleWorld flag).Sound sampleHmac := by
  obtain ⟨hclie, hclien, -⟩ := clientHandshake_sampleClient flag
  obtain ⟨hserv, hserve, -⟩ := run_sampleServer
  have hsent : (sampleWorld flag).sent sampleHmac = {sampleClientPair, sampleServerPair} := by
    ext pair
    simp [World.sent, sampleWorld, hclie, hserv]
  have hacce : (sampleWorld flag).accepted sampleHmac ⊆ {sampleClientPair, sampleServerPair} := by
    rintro pair (⟨client, hclient, -, hpair⟩ | ⟨server, hserver, hpair, -⟩)
    · obtain rfl : client = sampleClient flag := List.mem_singleton.mp hclient
      rw [hclien] at hpair
      exact .inr (List.mem_singleton.mp hpair)
    · obtain rfl : server = sampleServer := List.mem_singleton.mp hserver
      rw [hserve] at hpair
      exact .inl (List.mem_singleton.mp hpair)
  have hdiff : Mac.tag sampleHmac sampleClientPair ≠ Mac.tag sampleHmac sampleServerPair := by
    decide +kernel
  refine ⟨?_, ?_, ?_, ?_⟩
  · intro pair hpair
    rw [hsent]
    exact ⟨pair, hacce hpair, rfl⟩
  · rw [hsent, Set.union_eq_left.mpr hacce]
    rintro pair (rfl | rfl) pair' (rfl | rfl) htag
    · rfl
    · exact absurd htag hdiff
    · exact absurd htag.symm hdiff
    · rfl
  · intro server hserver server' hserv' nonce _ _
    rw [List.mem_singleton.mp hserver, List.mem_singleton.mp hserv']
  · intro pair hpair
    cases hpair

/-- The flag has come through, and both sides use AEAD. -/
theorem handshake_agreement_sample : FlagsDelivered (sampleClient true) sampleServer ∧
      Agree (sampleCompleted true .client) (sampleCompleted true .server) := by
  have hdelivered : FlagsDelivered (sampleClient true) sampleServer := by
    rw [FlagsDelivered, if_pos (show (sampleClient true).requestAead = true from rfl)]
    decide +kernel
  have hagreement := handshake_agreement (sound_sampleWorld true) (List.mem_singleton_self _)
    (Set.notMem_empty _) (List.mem_singleton_self _) (clientHandshake_sampleClient true).2.2
    run_sampleServer.2.2 rfl
  exact ⟨hdelivered, hagreement.2.mpr hdelivered⟩

/-- **The flag of the server's preamble is changed on the way.**  Both sides complete all the same,
the server with AEAD and the client without. -/
theorem handshake_disagreement : ∃ world : World, world.Sound sampleHmac ∧
      ∃ client ∈ world.clients, client.preSharedKey ∉ world.held ∧ ∃ server ∈ world.servers,
        (clientHandshake sampleHmac client).completed = some (sampleCompleted false .client) ∧
        (server.run sampleHmac).completed = some (sampleCompleted true .server) ∧
        (sampleCompleted false .client).hello.clientNonce = (sampleCompleted true .server).hello.clientNonce ∧
        (sampleCompleted false .client).challenge.serverNonce = (sampleCompleted true .server).challenge.serverNonce ∧
        (sampleCompleted false .client).session.aeadEnabled ≠ (sampleCompleted true .server).session.aeadEnabled :=
  ⟨sampleWorld false, sound_sampleWorld false, sampleClient false, List.mem_singleton_self _,
    Set.notMem_empty _, sampleServer, List.mem_singleton_self _,
    (clientHandshake_sampleClient false).2.2, run_sampleServer.2.2, rfl, rfl, by decide⟩

end Nstu.Control
