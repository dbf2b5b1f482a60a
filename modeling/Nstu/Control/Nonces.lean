import Mathlib.Data.List.Nodup
import Nstu.Control.Agreement
import Nstu.Control.Channel

/-!
# Nonces of a channel

The nonce of a sealed command comes from the counter of the channel, and the counter moves on only
once the command has been written.  In between the send may fail: if it has a deadline the channel
is closed, and if it has none the channel stays as it is, with a counter that has been used.

`SealedInOrder` is the invariant of the runs in which this does not happen: what has been sealed has
the nonces of 0, 1, 2 and so on.
-/

namespace Nstu.Control

open Wire Reader List

/-- No nonce has been used for two messages. -/
def NoncesUnique (seals : List SealCall) : Prop :=
  ∀ first ∈ seals, ∀ second ∈ seals, first.key = second.key → first.nonce = second.nonce →
    first.associatedData = second.associatedData ∧ first.plaintext = second.plaintext

/-- The channel seals what it sends. -/
def ControlChannel.sealing (channel : ControlChannel) : Bool :=
  channel.socketOpen && !channel.sendExhausted && channel.aeadEnabled

/-- The call with which a `send` on this channel seals its command, if it gets that far. -/
def ControlChannel.sealingOf (channel : ControlChannel) (call : SendCall) : Option SealCall :=
  if channel.sealing then
    aeadSealCall channel.sendKey channel.sendIvBase call.envelope channel.sendSequence call.payload
  else none

/-- A command that the channel goes on to seal is sealed, and it is written unless there is a
deadline: no counter is left behind that has been used. -/
def ChannelOp.Clean (channel : ControlChannel) : ChannelOp → Prop
  | .send call => channel.sealingOf call ≠ none →
      call.sealed = true ∧ (call.written = true ∨ call.deadline = true)
  | .receive _ => True
  | .close => True

section Runs

variable (hmac : Bytes → Bytes → Digest)
  (encrypt : (call : SealCall) → Block call.plaintext.length × Block 16)
  (decrypt : Digest → Block 12 → Bytes → Bytes → Bytes → Option Bytes)

/-- Every operation is clean at the time it is done. -/
def CleanFrom : ChannelRun → List ChannelOp → Prop
  | _, [] => True
  | run, op :: ops => op.Clean run.channel ∧ CleanFrom (run.step hmac encrypt decrypt op) ops

end Runs

/-! ## One nonce for each number -/

lemma zipWith_xor_injective {left right right' : Bytes} (hl : right.length = left.length)
    (hl' : right'.length = left.length)
    (h : zipWith (· ^^^ ·) left right = zipWith (· ^^^ ·) left right') : right = right' := by
  induction left generalizing right right' with
  | nil =>
    rw [length_eq_zero_iff.mp hl, length_eq_zero_iff.mp hl']
  | cons a rest ih =>
    cases right with
    | nil => cases hl
    | cons b right =>
      cases right' with
      | nil => cases hl'
      | cons b' right' =>
        rw [zipWith_cons_cons, zipWith_cons_cons] at h
        obtain ⟨hh, ht⟩ := cons.inj h
        rw [(UInt8.xor_right_inj a).mp hh, ih (Nat.succ.inj hl) (Nat.succ.inj hl') ht]

/-- **Different numbers have different nonces.** -/
lemma constructAeadNonce_injective (ivBase : Block 12) : Function.Injective (constructAeadNonce ivBase) := by
  intro sequence sequence' h
  have hl := congrArg Block.toList h
  simp only [constructAeadNonce] at hl
  have hz := append_cancel_left hl
  exact le_injective (zipWith_xor_injective (by simp) (by simp) hz)

/-! ## What an operation does to the counter -/

section Steps

variable {hmac : Bytes → Bytes → Digest}
  {encrypt : (call : SealCall) → Block call.plaintext.length × Block 16}
  {decrypt : Digest → Block 12 → Bytes → Bytes → Bytes → Option Bytes}

variable {key : Digest} {envelope : CommandEnvelope} {sequence : UInt64} {payload : Bytes}

lemma aeadSealCall_of_isHandshakeCommand {ivBase : Block 12} (h : isHandshakeCommand envelope.type) :
    aeadSealCall key ivBase envelope sequence payload = none := by
  simp [aeadSealCall, h]

lemma aeadSealCall_eq_some {ivBase : Block 12} {call : SealCall}
    (h : aeadSealCall key ivBase envelope sequence payload = some call) :
    call.nonce = constructAeadNonce ivBase sequence ∧ call.plaintext = payload ∧
      payload.length ≤ kMaxCommandPayload - kAuthenticatedOverhead := by
  simp only [aeadSealCall] at h
  split at h
  · cases h
  · rename_i hg
    obtain rfl := Option.some.inj h
    refine ⟨rfl, rfl, ?_⟩
    simp only [Bool.or_eq_true, decide_eq_true_eq, not_or, Nat.not_lt] at hg
    exact hg.2

lemma encodeAuthenticatedCommandAead_ne_nil {ivBase : Block 12} {call : SealCall}
    (h : aeadSealCall key ivBase envelope sequence payload = some call) :
    encodeAuthenticatedCommandAead encrypt true key ivBase envelope sequence payload ≠ [] := by
  obtain ⟨-, hp, hb⟩ := aeadSealCall_eq_some h
  simp only [encodeAuthenticatedCommandAead, h]
  refine authenticatedFrame_ne_nil _ _ rfl ?_
  rw [Block.length_toList, hp]
  exact hb

lemma send_sealing (channel : ControlChannel) (call : SendCall) :
    (channel.send hmac encrypt call).sealing = channel.sealingOf call := by
  simp only [ControlChannel.send, ControlChannel.sealingOf, ControlChannel.sealing]
  split
  case isTrue hg =>
      simp only [Bool.or_eq_true, Bool.not_eq_true'] at hg
      rcases hg with (hc | he) | hh
      · simp [hc]
      · simp [he]
      · have hn : aeadSealCall channel.sendKey channel.sendIvBase call.envelope
            channel.sendSequence call.payload = none := aeadSealCall_of_isHandshakeCommand hh
        simp [hn]
  case isFalse hg =>
      simp only [Bool.or_eq_true, Bool.not_eq_true', not_or, Bool.not_eq_false, Bool.not_eq_true] at hg
      obtain ⟨⟨ho, he⟩, -⟩ := hg
      split_ifs <;> simp_all

variable {channel : ControlChannel}

lemma sealing_eq_true : channel.sealing ↔
      channel.socketOpen ∧ channel.sendExhausted = false ∧ channel.aeadEnabled := by
  simp only [ControlChannel.sealing, Bool.and_eq_true, Bool.not_eq_true', and_assoc]

lemma sealingOf_eq_some {call : SendCall} {sealing : SealCall} : channel.sealingOf call = some sealing ↔
      channel.sealing ∧ aeadSealCall channel.sendKey channel.sendIvBase call.envelope
        channel.sendSequence call.payload = some sealing := by
  simp only [ControlChannel.sealingOf, Option.ite_none_right_eq_some]

lemma sealing_close (channel : ControlChannel) : channel.close.sealing = false := by
  simp [ControlChannel.sealing, ControlChannel.close]

lemma sealing_advance (h : channel.sealing = false) : channel.advance.sealing = false := by
  simp only [ControlChannel.advance]
  split
  · simp [ControlChannel.sealing]
  · exact h

lemma sendIvBase_advance (channel : ControlChannel) : channel.advance.sendIvBase = channel.sendIvBase := by
  simp only [ControlChannel.advance]
  split <;> rfl

lemma toNat_advance (h : channel.advance.sealing) :
    channel.advance.sendSequence.toNat = channel.sendSequence.toNat + 1 := by
  simp only [ControlChannel.advance] at h ⊢
  split
  · rename_i hm
    simp [ControlChannel.sealing, hm] at h
  · rename_i hm
    exact toNat_succ_of_ne hm

lemma send_channel (channel : ControlChannel) (call : SendCall) : (channel.send hmac encrypt call).channel = channel ∨
      (channel.send hmac encrypt call).channel = channel.close ∨
      (channel.send hmac encrypt call).channel = channel.advance := by
  simp only [ControlChannel.send]
  split_ifs <;> simp

lemma send_channel_of_sealed {channel : ControlChannel} {call : SendCall} {sealing : SealCall}
    (hseal : channel.sealingOf call = some sealing) (hclean : (ChannelOp.send call).Clean channel) :
    (channel.send hmac encrypt call).channel = channel.close ∨
      (channel.send hmac encrypt call).channel = channel.advance := by
  obtain ⟨hseale, hwrit⟩ := hclean (by rw [hseal]; exact Option.some_ne_none _)
  obtain ⟨hseali, hcall⟩ := sealingOf_eq_some.mp hseal
  obtain ⟨hopen, hexha, haead⟩ := sealing_eq_true.mp hseali
  have hhand : isHandshakeCommand call.type = false := by
    by_contra hhand
    have hnone : aeadSealCall channel.sendKey channel.sendIvBase call.envelope
        channel.sendSequence call.payload = none :=
      aeadSealCall_of_isHandshakeCommand (Bool.not_eq_false _ ▸ hhand)
    rw [hcall] at hnone
    cases hnone
  have hwire : (encodeAuthenticatedCommandAead encrypt true channel.sendKey channel.sendIvBase
      call.envelope channel.sendSequence call.payload).isEmpty = false :=
    isEmpty_eq_false_iff.mpr (encodeAuthenticatedCommandAead_ne_nil hcall)
  rcases hwrit with hwrit | hdead
  · right
    simp [ControlChannel.send, hopen, hexha, haead, hhand, hseale, hwire, hwrit]
  · cases hwrit : call.written with
    | false =>
      left
      simp [ControlChannel.send, hopen, hexha, haead, hhand, hseale, hwire, hwrit, hdead]
    | true =>
      right
      simp [ControlChannel.send, hopen, hexha, haead, hhand, hseale, hwire, hwrit]

lemma send_channel_of_not_sealed {call : SendCall} (hnone : channel.sealingOf call = none)
    (hafter : (channel.send hmac encrypt call).channel.sealing) :
    (channel.send hmac encrypt call).channel = channel := by
  cases hseal : channel.sealing with
  | true =>
    have hcall : aeadSealCall channel.sendKey channel.sendIvBase call.envelope channel.sendSequence
        call.payload = none := by
      simpa only [ControlChannel.sealingOf, hseal, if_true] using hnone
    obtain ⟨hopen, hexha, haead⟩ := sealing_eq_true.mp hseal
    simp only [ControlChannel.send, encodeAuthenticatedCommandAead, haead, hcall, if_true]
    split <;> rfl
  | false =>
    -- the channel does not begin to seal: it stays, it is closed or its counter moves on
    rcases @send_channel hmac encrypt channel call with hsame | hclos | hadva
    · exact hsame
    · rw [hclos, sealing_close] at hafter
      cases hafter
    · rw [hadva, sealing_advance hseal] at hafter
      cases hafter

/-- A refused frame leaves the channel; an accepted one moves the window. -/
lemma receive_cases (channel : ControlChannel) (input : Bytes) :
    channel.receive hmac decrypt input = (channel, none) ∨ ∃ command, channel.receive hmac decrypt input =
        ({ channel with receiveSequence := (channel.receiveSequence.accept command.sequence).1 },
          if (channel.receiveSequence.accept command.sequence).2 then some command else none) := by
  simp only [ControlChannel.receive]
  split
  · exact .inl rfl
  · split
    · exact .inl rfl
    · split
      · exact .inl rfl
      · rename_i command _
        refine .inr ⟨command, ?_⟩
        cases (channel.receiveSequence.accept command.sequence).2 <;> rfl

/-! ## The invariant -/

/-- What has been sealed has the nonces of the first numbers, and the next number is the one the
channel has. -/
structure SealedInOrder (ivBase : Block 12) (run : ChannelRun) : Prop where
  nonces : run.seals.map SealCall.nonce =
    (List.range run.seals.length).map fun i => constructAeadNonce ivBase (UInt64.ofNat i)
  bound : run.seals.length ≤ 2 ^ 64
  next : run.channel.sealing = true →
    run.channel.sendIvBase = ivBase ∧ run.channel.sendSequence.toNat = run.seals.length

variable {ivBase : Block 12} {run : ChannelRun}

lemma SealedInOrder.send (h : SealedInOrder ivBase run) {call : SendCall}
    (hclean : (ChannelOp.send call).Clean run.channel) :
    SealedInOrder ivBase (run.step hmac encrypt decrypt (.send call)) := by
  have hseal := @send_sealing hmac encrypt run.channel call
  cases hcall : run.channel.sealingOf call with
  | none =>
    have hseals : (run.step hmac encrypt decrypt (.send call)).seals = run.seals := by
      simp [ChannelRun.step, hseal, hcall]
    refine ⟨?_, ?_, ?_⟩
    · rw [hseals]
      exact h.nonces
    · rw [hseals]
      exact h.bound
    · intro hafter
      have hchan : (run.step hmac encrypt decrypt (.send call)).channel = run.channel :=
        send_channel_of_not_sealed hcall hafter
      rw [hchan] at hafter ⊢
      rw [hseals]
      exact h.next hafter
  | some sealing =>
    have hseals : (run.step hmac encrypt decrypt (.send call)).seals = run.seals ++ [sealing] := by
      simp [ChannelRun.step, hseal, hcall]
    obtain ⟨hacti, haead⟩ := sealingOf_eq_some.mp hcall
    obtain ⟨hiv, hnext⟩ := h.next hacti
    have hnonce : sealing.nonce = constructAeadNonce ivBase (UInt64.ofNat run.seals.length) := by
      rw [(aeadSealCall_eq_some haead).1, hiv, ← hnext, UInt64.ofNat_toNat]
    have hleng : (run.step hmac encrypt decrypt (.send call)).seals.length = run.seals.length + 1 := by
      rw [hseals, length_append, length_singleton]
    have hlt : run.seals.length < 2 ^ 64 := hnext ▸ run.channel.sendSequence.toNat_lt
    refine ⟨?_, ?_, ?_⟩
    · rw [hleng, range_succ, hseals, map_append, map_append, h.nonces,
        map_singleton, map_singleton, hnonce]
    · rw [hleng]
      exact hlt
    · intro hafter
      rw [hleng]
      rcases @send_channel_of_sealed hmac encrypt _ _ _ hcall hclean with
        hclos | hadva
      · rw [show (run.step hmac encrypt decrypt (.send call)).channel = run.channel.close from
          hclos, sealing_close] at hafter
        cases hafter
      · have hchan : (run.step hmac encrypt decrypt (.send call)).channel = run.channel.advance :=
          hadva
        rw [hchan] at hafter ⊢
        rw [sendIvBase_advance, toNat_advance hafter, hnext]
        exact ⟨hiv, rfl⟩

/-- A clean operation seals under the next counter, if at all. -/
lemma SealedInOrder.step (h : SealedInOrder ivBase run) {op : ChannelOp}
    (hc : op.Clean run.channel) : SealedInOrder ivBase (run.step hmac encrypt decrypt op) := by
  cases op with
  | send call => exact h.send hc
  | receive input =>
    refine ⟨h.nonces, h.bound, ?_⟩
    simp only [ChannelRun.step]
    rcases @receive_cases hmac decrypt run.channel input with hs | ⟨command, hg⟩
    · rw [hs]
      exact h.next
    · rw [hg]
      exact h.next
  | close =>
    refine ⟨h.nonces, h.bound, ?_⟩
    intro ha
    have hcl : (run.step hmac encrypt decrypt .close).channel.sealing = false :=
      sealing_close run.channel
    rw [hcl] at ha
    cases ha

lemma SealedInOrder.foldl (ops : List ChannelOp) (h : SealedInOrder ivBase run)
    (hc : CleanFrom hmac encrypt decrypt run ops) :
    SealedInOrder ivBase (ops.foldl (ChannelRun.step hmac encrypt decrypt) run) := by
  induction ops generalizing run with
  | nil => exact h
  | cons op ops ih => exact ih (h.step hc.1) hc.2

lemma SealedInOrder.noncesUnique (h : SealedInOrder ivBase run) : NoncesUnique run.seals := by
  have hnodup : (run.seals.map SealCall.nonce).Nodup := by
    rw [h.nonces]
    refine List.Nodup.map_on ?_ nodup_range
    intro i hi j hj hij
    have hsequ := constructAeadNonce_injective ivBase hij
    have hi' : i < 2 ^ 64 := (mem_range.mp hi).trans_le h.bound
    have hj' : j < 2 ^ 64 := (mem_range.mp hj).trans_le h.bound
    rw [← UInt64.toNat_ofNat_of_lt' hi', hsequ, UInt64.toNat_ofNat_of_lt' hj']
  intro first hfirst second hseco _ hnonce
  rw [inj_on_of_nodup_map hnodup hfirst hseco hnonce]
  exact ⟨rfl, rfl⟩

lemma sealedInOrder_ofSession (session : AuthenticatedSession) :
    SealedInOrder (ControlChannel.ofSession hmac session).sendIvBase { channel := .ofSession hmac session } := by
  refine ⟨rfl, Nat.zero_le _, ?_⟩
  intro _
  refine ⟨rfl, ?_⟩
  simp only [ControlChannel.ofSession]
  split
  · rfl
  · split <;> rfl

end Steps

/-- **No nonce is used twice unless a send that seals something fails without a deadline.** -/
theorem channelRun_noncesUnique (hmac : Bytes → Bytes → Digest)
    (encrypt : (call : SealCall) → Block call.plaintext.length × Block 16)
    (decrypt : Digest → Block 12 → Bytes → Bytes → Bytes → Option Bytes)
    (session : AuthenticatedSession) (ops : List ChannelOp)
    (hclean : CleanFrom hmac encrypt decrypt { channel := .ofSession hmac session } ops) :
    NoncesUnique (channelRun hmac encrypt decrypt session ops).seals :=
  (SealedInOrder.foldl ops (sealedInOrder_ofSession session) hclean).noncesUnique

/-! ## A command that is not written -/

/-- The keys of the sample session, as little-endian numbers. -/
def sampleSendKey : Digest :=
  ⟨leBytes 32 0x24e538853ed7738825c6a9be05214171359edce0dbd3ce7c364825082341a349, leBytes_length _ _⟩
def sampleReceiveKey : Digest :=
  ⟨leBytes 32 0xa2d778b4cec1ebdf3e5a7d17bd9876917d70a751e5213ff2789c2432ba0be944, leBytes_length _ _⟩
def sampleSendIv : Digest :=
  ⟨leBytes 32 0xf50317a351810d0228af363af82d588848ff9f945da36eafb507c8f865cd6d9d, leBytes_length _ _⟩
def sampleReceiveIv : Digest :=
  ⟨leBytes 32 0x1b9dd5353f8a0507cd0ce020c11a6c8425c191f86f257c0ab9b959e2f216a254, leBytes_length _ _⟩

/-- HMAC-SHA-256 on the messages from which the keys of the sample session come. -/
def sampleKeyHmac (key message : Bytes) : Digest :=
  if key = sampleSessionKey.toList then
    if message = labelBytes "NSTU-AEAD-C2S-KEY-V1" then sampleSendKey
    else if message = labelBytes "NSTU-AEAD-S2C-KEY-V1" then sampleReceiveKey
    else if message = labelBytes "NSTU-AEAD-C2S-IV-V1" then sampleSendIv
    else if message = labelBytes "NSTU-AEAD-S2C-IV-V1" then sampleReceiveIv
    else Block.zero 32
  else Block.zero 32

/-- The call that seals a heartbeat of the client of the sample session. -/
def sampleSealCall (sequence requestId : UInt64) : SealCall :=
  ⟨sampleSendKey, constructAeadNonce (nonceOf sampleSendIv) sequence,
    makeAeadAad ⟨kCommandVersion, .heartbeat, 0, requestId⟩ sequence, []⟩

/-- AES-256-GCM on three heartbeats.  They have no text, so there is a tag and nothing else. -/
def sampleEncrypt (call : SealCall) : Block call.plaintext.length × Block 16 :=
  (Block.zero _,
    if call = sampleSealCall 0 1 then
      ⟨leBytes 16 0xf57d314dd07e166207338e8eb0eb6d7c, leBytes_length _ _⟩
    else if call = sampleSealCall 1 2 then
      ⟨leBytes 16 0x661c6ed49c0f137a31f508770b2a7de7, leBytes_length _ _⟩
    else if call = sampleSealCall 0 2 then
      ⟨leBytes 16 0xc9655fb1e48b3d0bd70a0619ada02748, leBytes_length _ _⟩
    else Block.zero 16)

/-- The client sends a heartbeat, without a deadline. -/
def sampleHeartbeat (requestId : UInt64) (written : Bool) : ChannelOp :=
  .send ⟨.heartbeat, requestId, [], false, true, written⟩

/-- Two sealed heartbeats, under different nonces. -/
theorem channelRun_noncesUnique_heartbeats : CleanFrom sampleKeyHmac sampleEncrypt (fun _ _ _ _ _ => none)
        { channel := .ofSession sampleKeyHmac (sampleCompleted true .client).session }
        [sampleHeartbeat 1 true, sampleHeartbeat 2 true] ∧
      NoncesUnique (channelRun sampleKeyHmac sampleEncrypt (fun _ _ _ _ _ => none)
        (sampleCompleted true .client).session [sampleHeartbeat 1 true, sampleHeartbeat 2 true]).seals ∧
      (channelRun sampleKeyHmac sampleEncrypt (fun _ _ _ _ _ => none)
        (sampleCompleted true .client).session
        [sampleHeartbeat 1 true, sampleHeartbeat 2 true]).seals = [sampleSealCall 0 1, sampleSealCall 1 2] := by
  have hclean : CleanFrom sampleKeyHmac sampleEncrypt (fun _ _ _ _ _ => none)
      { channel := .ofSession sampleKeyHmac (sampleCompleted true .client).session }
      [sampleHeartbeat 1 true, sampleHeartbeat 2 true] :=
    ⟨fun _ => ⟨rfl, Or.inl rfl⟩, fun _ => ⟨rfl, Or.inl rfl⟩, trivial⟩
  exact ⟨hclean, channelRun_noncesUnique _ _ _ _ _ hclean, by decide +kernel⟩

/-- The first heartbeat has been sealed and is not written.  The second has the same nonce. -/
theorem channelRun_nonce_again : ¬ NoncesUnique (channelRun sampleKeyHmac sampleEncrypt (fun _ _ _ _ _ => none)
      (sampleCompleted true .client).session [sampleHeartbeat 1 false, sampleHeartbeat 2 true]).seals := by
  have hseals : (channelRun sampleKeyHmac sampleEncrypt (fun _ _ _ _ _ => none)
      (sampleCompleted true .client).session
      [sampleHeartbeat 1 false, sampleHeartbeat 2 true]).seals = [sampleSealCall 0 1, sampleSealCall 0 2] := by
    decide +kernel
  rw [hseals]
  intro hunique
  have hsame := hunique (sampleSealCall 0 1) (by simp) (sampleSealCall 0 2) (by simp) rfl rfl
  exact absurd hsame.1 (by decide +kernel)

end Nstu.Control
