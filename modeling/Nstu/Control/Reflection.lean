import Nstu.Control.Nonces

/-!
# Frames that come back

Without AEAD both directions of a channel have one key, and the tag of a command covers a label that
is the same for both.  What tells a command of the peer from one of our own that somebody has sent
back is the sequence number, and only when the two counters differ.

`TaggedRun` is the invariant of the runs of such a channel: what it has written are frames under the
key of the session, and its guard expects as its next number the number of the commands it has
received.
-/

namespace Nstu.Control

open Wire Reader
open ControlChannel (ofSession send)
open ControlSequenceGuard (accept)

/-! ## A tagged command is read back -/

section Hmac

variable {hmac : Bytes → Bytes → Digest} {sessionKey : Bytes} {envelope : CommandEnvelope}
  {sequence : UInt64} {payload : Bytes}

lemma encodeAuthenticatedCommand_eq (h : encodeAuthenticatedCommand hmac sessionKey envelope sequence payload ≠ []) :
    ∃ tag, isHandshakeCommand envelope.type = false ∧ payload.length ≤ kMaxCommandPayload - kAuthenticatedOverhead ∧
      computeControlAuthTag hmac sessionKey (normalizedEnvelope envelope payload) sequence payload = some tag ∧
      encodeAuthenticatedCommand hmac sessionKey envelope sequence payload =
        authenticatedFrame (normalizedEnvelope envelope payload) sequence tag payload := by
  simp only [encodeAuthenticatedCommand] at h ⊢
  split
  · rename_i hg
    rw [if_pos hg] at h
    exact absurd rfl h
  · rename_i hg
    rw [if_neg hg] at h
    simp only [Bool.or_eq_true, decide_eq_true_eq, not_or, Nat.not_lt, Bool.not_eq_true] at hg
    split
    · rename_i hn
      rw [hn] at h
      exact absurd rfl h
    · rename_i tag ht
      exact ⟨tag, hg.1, hg.2, ht, rfl⟩

lemma decodeAuthenticatedCommand_encoded {tag : Block 16} (hhand : isHandshakeCommand envelope.type = false)
    (hbound : payload.length ≤ kMaxCommandPayload - kAuthenticatedOverhead)
    (htag : computeControlAuthTag hmac sessionKey (normalizedEnvelope envelope payload) sequence payload = some tag) :
    decodeAuthenticatedCommand hmac sessionKey
        (authenticatedTcpFrame (normalizedEnvelope envelope payload) sequence tag payload) =
      some ⟨normalizedEnvelope envelope payload, sequence, payload⟩ := by
  have hwell := @wellFormed_authenticatedTcpFrame (normalizedEnvelope envelope payload) payload
    sequence tag rfl hbound
  have hleng := @length_authenticatedTcpFrame (normalizedEnvelope envelope payload) payload
    sequence tag
  have htake : [le sequence, tag.toList, payload].flatten.take 8 = le sequence := by
    simp
  have hmidd : ([le sequence, tag.toList, payload].flatten.drop 8).take kControlAuthTagBytes =
      tag.toList := by
    simp [kControlAuthTagBytes]
  have hdrop : [le sequence, tag.toList, payload].flatten.drop kAuthenticatedOverhead = payload := by
    rw [kAuthenticatedOverhead, ← List.drop_drop]
    simp [kControlAuthTagBytes]
  rw [decodeAuthenticatedCommand, if_neg]
  · have hveri : verifyControlAuthTag hmac sessionKey (normalizedEnvelope envelope payload) sequence
        payload tag.toList := by
      simp [verifyControlAuthTag, htag]
    simp only [authenticatedTcpFrame, htake, hmidd, hdrop, ofNat_leValue_le]
    show (if (!verifyControlAuthTag hmac sessionKey (normalizedEnvelope envelope payload) sequence
      payload tag.toList) then none else _) = _
    rw [hveri]
    rfl
  · simp only [Bool.or_eq_true, decide_eq_true_eq, bne_iff_ne, not_or, Nat.not_lt, not_not, Bool.not_eq_true]
    exact ⟨⟨hleng ▸ Nat.le_add_right _ _, hwell.length⟩, hhand⟩

end Hmac

/-! ## The guard -/

/-- The guard has let this many numbers through. -/
def ControlSequenceGuard.Counts (guard : ControlSequenceGuard) (count : ℕ) : Prop :=
  guard.exhausted = true ∧ count = 2 ^ 64 ∨ guard.exhausted = false ∧ guard.nextExpected.toNat = count

section Guard

variable {guard : ControlSequenceGuard} {count : ℕ}

lemma accept_iff (h : guard.Counts count) (sequence : UInt64) :
    (guard.accept sequence).2 ↔ sequence.toNat = count := by
  rcases h with ⟨he, hc⟩ | ⟨he, hc⟩
  · have hl := sequence.toNat_lt
    simp only [accept, he, Bool.true_or, if_true]
    constructor
    · intro hf
      cases hf
    · intro hs
      omega
  · rw [← hc, UInt64.toNat_inj]
    simp only [accept, he, Bool.false_or, bne_iff_ne]
    split
    · rename_i hn
      simp [hn]
    · rename_i heq
      rw [not_not] at heq
      split <;> simp [heq]

lemma counts_accept_of_rejected {sequence : UInt64} (h : guard.Counts count)
    (hr : (guard.accept sequence).2 = false) : (guard.accept sequence).1.Counts count := by
  simp only [accept] at hr ⊢
  split
  · exact h
  · rename_i hg
    rw [if_neg hg] at hr
    split at hr <;> cases hr

lemma counts_accept_of_accepted {sequence : UInt64} (h : guard.Counts count)
    (ha : (guard.accept sequence).2) : (guard.accept sequence).1.Counts (count + 1) := by
  have hs := (accept_iff h sequence).mp ha
  rcases h with ⟨-, hc⟩ | ⟨he, hc⟩
  · have hl := sequence.toNat_lt
    omega
  · obtain rfl : sequence = guard.nextExpected := UInt64.toNat_inj.mp (hs.trans hc.symm)
    simp only [accept, he, Bool.false_or, bne_self_eq_false,
      Bool.false_eq_true, if_false]
    split
    · rename_i hm
      left
      rw [beq_iff_eq] at hm
      rw [← hc, hm]
      exact ⟨rfl, rfl⟩
    · rename_i hm
      right
      refine ⟨rfl, ?_⟩
      rw [← hc]
      exact toNat_succ_of_ne hm

end Guard

/-! ## The invariant -/

section Runs

variable {hmac : Bytes → Bytes → Digest}
  {encrypt : (call : SealCall) → Block call.plaintext.length × Block 16}
  {decrypt : Digest → Block 12 → Bytes → Bytes → Bytes → Option Bytes}
  {session : AuthenticatedSession} {run : ChannelRun}

/-- A frame that `encode_authenticated_command` makes under the key of the session. -/
def FrameOf (hmac : Bytes → Bytes → Digest) (session : AuthenticatedSession) (wire : Bytes) : Prop :=
  wire ≠ [] ∧ ∃ envelope sequence payload,
    wire = encodeAuthenticatedCommand hmac session.sessionKey.toList envelope sequence payload

structure TaggedRun (hmac : Bytes → Bytes → Digest) (session : AuthenticatedSession)
    (run : ChannelRun) : Prop where
  aead : run.channel.aeadEnabled = false
  key : run.channel.socketOpen = true → run.channel.sessionKey = session.sessionKey
  wires : ∀ wire ∈ run.wires, FrameOf hmac session wire
  received : run.channel.receiveSequence.Counts run.received.length

lemma taggedRun_ofSession (ha : session.aeadEnabled = false) :
    TaggedRun hmac session { channel := .ofSession hmac session } := by
  have hc : (ofSession hmac session).aeadEnabled = false ∧
      (ofSession hmac session).sessionKey = session.sessionKey ∧
      (ofSession hmac session).receiveSequence = ⟨0, false⟩ := by
    simp [ofSession, ha]
  refine ⟨hc.1, fun _ => hc.2.1, ?_, ?_⟩
  · intro wire hw
    cases hw
  · rw [hc.2.2]
    exact .inr ⟨rfl, rfl⟩

lemma send_wire {channel : ControlChannel} (ha : channel.aeadEnabled = false) (call : SendCall)
    (hw : (channel.send hmac encrypt call).wire ≠ []) :
    channel.socketOpen ∧ (channel.send hmac encrypt call).wire =
      encodeAuthenticatedCommand hmac channel.sessionKey.toList call.envelope channel.sendSequence call.payload := by
  have ho : channel.socketOpen := by
    by_contra hc
    exact hw (by simp [send, hc])
  refine ⟨ho, ?_⟩
  simp only [send, ha] at hw ⊢
  split_ifs at hw ⊢ <;> simp_all

lemma TaggedRun.send (h : TaggedRun hmac session run) (call : SendCall) :
    TaggedRun hmac session (run.step hmac encrypt decrypt (.send call)) := by
  have hc : (run.step hmac encrypt decrypt (.send call)).channel.aeadEnabled = false ∧
      ((run.step hmac encrypt decrypt (.send call)).channel.socketOpen →
        (run.step hmac encrypt decrypt (.send call)).channel.sessionKey = session.sessionKey) ∧
      (run.step hmac encrypt decrypt (.send call)).channel.receiveSequence =
        run.channel.receiveSequence := by
    simp only [ChannelRun.step]
    rcases @send_channel hmac encrypt run.channel call with hs | hcl | ha
    · rw [hs]
      exact ⟨h.aead, h.key, rfl⟩
    · rw [hcl]
      exact ⟨rfl, fun ho => absurd ho Bool.false_ne_true, rfl⟩
    · rw [ha, ControlChannel.advance]
      split <;> exact ⟨h.aead, h.key, rfl⟩
  refine ⟨hc.1, hc.2.1, ?_, ?_⟩
  · simp only [ChannelRun.step]
    split
    · exact h.wires
    · rename_i hw
      rw [List.isEmpty_iff] at hw
      obtain ⟨ho, hf⟩ := send_wire h.aead call hw
      intro wire hm
      rcases List.mem_append.mp hm with hm | hm
      · exact h.wires wire hm
      · obtain rfl := List.mem_singleton.mp hm
        refine ⟨hw, call.envelope, run.channel.sendSequence, call.payload, ?_⟩
        rw [hf, h.key ho]
  · rw [hc.2.2]
    exact h.received

lemma TaggedRun.receive (h : TaggedRun hmac session run) (input : Bytes) :
    TaggedRun hmac session (run.step hmac encrypt decrypt (.receive input)) := by
  simp only [ChannelRun.step]
  rcases @receive_cases hmac decrypt run.channel input with hs | ⟨command, hg⟩
  · rw [hs]
    refine ⟨h.aead, h.key, h.wires, ?_⟩
    simpa using h.received
  · rw [hg]
    refine ⟨h.aead, h.key, h.wires, ?_⟩
    cases ha : (run.channel.receiveSequence.accept command.sequence).2 with
    | true => simpa using counts_accept_of_accepted h.received ha
    | false => simpa using counts_accept_of_rejected h.received ha

/-- Each operation tags with the session's own key. -/
lemma TaggedRun.step (h : TaggedRun hmac session run) (op : ChannelOp) :
    TaggedRun hmac session (run.step hmac encrypt decrypt op) := by
  cases op with
  | send call => exact h.send call
  | receive input => exact h.receive input
  | close => exact ⟨rfl, fun ho => absurd ho Bool.false_ne_true, h.wires, h.received⟩

lemma TaggedRun.foldl (h : TaggedRun hmac session run) (ops : List ChannelOp) :
    TaggedRun hmac session (ops.foldl (ChannelRun.step hmac encrypt decrypt) run) := by
  induction ops generalizing run with
  | nil => exact h
  | cons op ops ih => exact ih (h.step op)

lemma TaggedRun.receive_encoded (h : TaggedRun hmac session run) {envelope : CommandEnvelope}
    {sequence : UInt64} {payload : Bytes} (rest : Bytes)
    (hframe : encodeAuthenticatedCommand hmac session.sessionKey.toList envelope sequence payload ≠ []) :
    (run.channel.receive hmac decrypt (encodeAuthenticatedCommand hmac session.sessionKey.toList
        envelope sequence payload ++ rest)).2 =
      if run.channel.socketOpen ∧ sequence.toNat = run.received.length then
        some ⟨normalizedEnvelope envelope payload, sequence, payload⟩ else none := by
  obtain ⟨tag, hhand, hbound, htag, henco⟩ := encodeAuthenticatedCommand_eq hframe
  cases hopen : run.channel.socketOpen with
  | false => simp [ControlChannel.receive, hopen]
  | true =>
    have hread := @run_receivePlainFrame_authenticatedFrame
      (normalizedEnvelope envelope payload) payload sequence tag rfl hbound rest
    have hdeco := decodeAuthenticatedCommand_encoded hhand hbound htag
    rw [henco]
    simp only [ControlChannel.receive, hopen, hread, h.aead, h.key hopen, hdeco]
    by_cases hnext : sequence.toNat = run.received.length
    · have hacce := (accept_iff h.received sequence).mpr hnext
      simp [hacce, hnext]
    · have hacce := Bool.eq_false_iff.mpr (mt (accept_iff h.received sequence).mp hnext)
      simp [hacce, hnext]

end Runs

/-- **A frame that comes back is taken exactly when its number is the next one to come in.** -/
theorem channelRun_reflected (hmac : Bytes → Bytes → Digest)
    (encrypt : (call : SealCall) → Block call.plaintext.length × Block 16)
    (decrypt : Digest → Block 12 → Bytes → Bytes → Bytes → Option Bytes)
    (session : AuthenticatedSession) (haead : session.aeadEnabled = false) (ops : List ChannelOp) :
    (∀ wire ∈ (channelRun hmac encrypt decrypt session ops).wires, FrameOf hmac session wire) ∧
      ∀ envelope sequence payload rest,
        encodeAuthenticatedCommand hmac session.sessionKey.toList envelope sequence payload ≠ [] →
        ((channelRun hmac encrypt decrypt session ops).channel.receive hmac decrypt
            (encodeAuthenticatedCommand hmac session.sessionKey.toList envelope sequence payload ++ rest)).2 =
          if (channelRun hmac encrypt decrypt session ops).channel.socketOpen = true ∧
              sequence.toNat = (channelRun hmac encrypt decrypt session ops).received.length then
            some ⟨normalizedEnvelope envelope payload, sequence, payload⟩ else none := by
  have hrun : TaggedRun hmac session (channelRun hmac encrypt decrypt session ops) :=
    (taggedRun_ofSession haead).foldl ops
  refine ⟨hrun.wires, ?_⟩
  intro envelope sequence payload rest hframe
  exact hrun.receive_encoded rest hframe

/-! ## A first command that comes back -/

/-- The message under the tag of the first heartbeat of the sample session. -/
def sampleFrameMessage : Bytes := controlFrameMessage ⟨kCommandVersion, .heartbeat, 0, 1⟩ 0 []

/-- HMAC-SHA-256 on this message. -/
def sampleFrameHmac (key message : Bytes) : Digest :=
  if key = sampleSessionKey.toList ∧ message = sampleFrameMessage then
    ⟨leBytes 32 0xf9586a4d9dbe0b0693741e5242ad78d5e549449c43ff788d21449c40c2657262, leBytes_length _ _⟩
  else Block.zero 32

/-- The client has sent a heartbeat, its first command, without AEAD. -/
def sampleTaggedRun : ChannelRun :=
  channelRun sampleFrameHmac sampleEncrypt (fun _ _ _ _ _ => none)
    (sampleCompleted false .client).session [sampleHeartbeat 1 true]

/-- A heartbeat reflected on the legacy channel. -/
theorem channelRun_reflected_heartbeat : (sampleCompleted false .client).session.aeadEnabled = false ∧
      (sampleTaggedRun.channel.receive sampleFrameHmac (fun _ _ _ _ _ => none)
        (encodeAuthenticatedCommand sampleFrameHmac sampleSessionKey.toList
          ⟨kCommandVersion, .heartbeat, 0, 1⟩ 0 [] ++ [])).2 =
        if sampleTaggedRun.channel.socketOpen = true ∧ (0 : UInt64).toNat = sampleTaggedRun.received.length then
          some ⟨normalizedEnvelope ⟨kCommandVersion, .heartbeat, 0, 1⟩ [], 0, []⟩ else none :=
  ⟨rfl, (channelRun_reflected sampleFrameHmac sampleEncrypt (fun _ _ _ _ _ => none)
    (sampleCompleted false .client).session rfl [sampleHeartbeat 1 true]).2 _ _ _ _ (by decide +kernel)⟩

/-- The client takes the frame it has sent itself.  It has tagged one message only. -/
theorem channelRun_takes_own_heartbeat :
    Mac.CollisionFree sampleFrameHmac {(sampleSessionKey.toList, sampleFrameMessage)} ∧ ∃ wire ∈ sampleTaggedRun.wires,
        (sampleTaggedRun.channel.receive sampleFrameHmac (fun _ _ _ _ _ => none) wire).2 =
          some ⟨⟨kCommandVersion, .heartbeat, 0, 1⟩, 0, []⟩ := by
  refine ⟨Set.injOn_singleton _ _, encodeAuthenticatedCommand sampleFrameHmac sampleSessionKey.toList
    ⟨kCommandVersion, .heartbeat, 0, 1⟩ 0 [], ?_, ?_⟩
  · decide +kernel
  · decide +kernel

end Nstu.Control
