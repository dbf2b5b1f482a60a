import Nstu.Control.Reflection

/-!
# What the tag of a command covers

`encode_authenticated_command` and its sealed form put an envelope on the wire that is not the one
they authenticate: the tag covers the length of the payload, the wire has the length of the payload
with its number and its tag.

`ProtectedFrame` says which frame belongs to a command, and `decodeAuthenticatedCommand_protected`
and `decodeAuthenticatedCommandAead_protected` that a decoder accepts no other.  Since the messages of
two commands differ (**`controlFrameMessage_injective`**, **`gcmCall_injective`**), a frame with other
bytes and the same tag is that of no command (**`authenticatedCommand_integrity`**).
-/

namespace Nstu.Control

open Wire Reader List

/-- How commands are protected: what travels as the payload of a command, and its tag. -/
abbrev Protection := AuthenticatedCommand → Option (Bytes × Block 16)

/-- The tag that a decoder finds in a frame. -/
def TcpFrame.tag (frame : TcpFrame) : Bytes := (frame.payload.drop 8).take kControlAuthTagBytes

/-- The frame of a command.  On the wire the envelope has the length of the payload with its number
and its tag, under the tag it has that of the payload alone. -/
structure ProtectedFrame (protection : Protection) (frame : TcpFrame)
    (command : AuthenticatedCommand) : Prop where
  type : isHandshakeCommand command.envelope.type = false
  inner : command.envelope.payloadBytes = UInt32.ofNat command.payload.length
  covered : ∃ body tag, protection command = some (body, tag) ∧
    frame = authenticatedTcpFrame command.envelope command.sequence tag body

/-- No two of the commands have one tag. -/
def TagsDiffer (protection : Protection) (used : Set AuthenticatedCommand) : Prop :=
  ∀ command ∈ used, ∀ other ∈ used, ∀ body body' tag,
    protection command = some (body, tag) → protection other = some (body', tag) → command = other

/-- What an encoder and a decoder of commands owe each other. -/
structure Integrity (protection : Protection) (encode : CommandEnvelope → UInt64 → Bytes → Bytes)
    (decode : TcpFrame → Option AuthenticatedCommand) (used : Set AuthenticatedCommand) : Prop where
  /-- A command is read back from its frame. -/
  roundTrip : ∀ envelope sequence payload, isHandshakeCommand envelope.type = false →
    payload.length ≤ kMaxCommandPayload - kAuthenticatedOverhead →
      ∃ frame, receivePlainFrame.run (encode envelope sequence payload) = some (frame, []) ∧
        decode frame = some ⟨normalizedEnvelope envelope payload, sequence, payload⟩
  /-- What is accepted has the tag of all that is returned. -/
  authentic : ∀ frame command, decode frame = some command → ProtectedFrame protection frame command
  /-- What is returned is what was authenticated under the tag of the frame. -/
  original : ∀ frame, ∀ command ∈ used, ∀ authenticated ∈ used, ∀ body tag,
    decode frame = some command → protection authenticated = some (body, tag) →
      tag.toList = frame.tag → command = authenticated
  /-- An accepted wire in which bytes are changed and which is accepted again has another tag, that
  of another command. -/
  changed : ∀ wire wire' frame frame' rest', ∀ command ∈ used, ∀ command' ∈ used,
    receivePlainFrame.run wire = some (frame, []) → decode frame = some command →
      wire'.length = wire.length → wire' ≠ wire →
      receivePlainFrame.run wire' = some (frame', rest') → decode frame' = some command' →
      command' ≠ command ∧ frame'.tag ≠ frame.tag

/-! ## Frames and commands -/

section Frames

variable {protection : Protection} {frame frame' : TcpFrame} {command command' : AuthenticatedCommand}
  {envelope : CommandEnvelope} {sequence : UInt64} {payload : Bytes}

lemma tag_authenticatedTcpFrame (tag : Block 16) :
    (authenticatedTcpFrame envelope sequence tag payload).tag = tag.toList := by
  simp [authenticatedTcpFrame, TcpFrame.tag, kControlAuthTagBytes]

/-- **A frame is made of what the decoder reads of it**: of its envelope but for the length, and of
the three parts of its payload. -/
lemma eq_authenticatedTcpFrame {tag : Block 16} (hl : kAuthenticatedOverhead ≤ frame.payload.length)
    (ho : frame.envelope.payloadBytes.toNat = frame.payload.length) (ht : frame.tag = tag.toList)
    (payloadBytes : UInt32) : frame = authenticatedTcpFrame { frame.envelope with payloadBytes }
      (Word.ofNat (leValue (frame.payload.take 8))) tag (frame.payload.drop kAuthenticatedOverhead) := by
  have hs : le (Word.ofNat (leValue (frame.payload.take 8)) : UInt64) = frame.payload.take 8 := by
    apply le_ofNat_leValue
    rw [length_take_of_le (Nat.le_trans (by decide) hl), size_uint64]
  have hp : [le (Word.ofNat (leValue (frame.payload.take 8)) : UInt64), tag.toList,
      frame.payload.drop kAuthenticatedOverhead].flatten = frame.payload := by
    rw [hs, ← ht, TcpFrame.tag, kAuthenticatedOverhead, ← drop_drop]
    simp only [flatten_cons, flatten_nil, append_nil, take_append_drop]
  unfold authenticatedTcpFrame
  rw [hp]
  obtain ⟨envelope, payload⟩ := frame
  simp only [TcpFrame.mk.injEq, and_true]
  rw [← ho, UInt32.ofNat_toNat]

lemma ProtectedFrame.tag_eq (h : ProtectedFrame protection frame command) :
    ∃ body tag, protection command = some (body, tag) ∧ tag.toList = frame.tag := by
  obtain ⟨body, tag, hp, rfl⟩ := h.covered
  exact ⟨body, tag, hp, (tag_authenticatedTcpFrame tag).symm⟩

lemma ProtectedFrame.eq (h : ProtectedFrame protection frame command)
    (h' : ProtectedFrame protection frame' command) : frame' = frame := by
  obtain ⟨body, tag, hp, rfl⟩ := h.covered
  obtain ⟨body', tag', hp', rfl⟩ := h'.covered
  cases hp.symm.trans hp'
  rfl

variable {used : Set AuthenticatedCommand}

lemma TagsDiffer.eq_of_tag_eq (hd : TagsDiffer protection used)
    (hc : command ∈ used) (hc' : command' ∈ used)
    (h : ProtectedFrame protection frame command) {body : Bytes} {tag : Block 16}
    (h' : protection command' = some (body, tag)) (ht : tag.toList = frame.tag) : command = command' := by
  obtain ⟨body', tag', hp, ht'⟩ := h.tag_eq
  obtain rfl : tag = tag' := Block.toList_injective (ht.trans ht'.symm)
  exact hd command hc command' hc' body' body tag hp h'

/-- **A codec whose tags differ has integrity**, if it reads what it writes and accepts nothing else. -/
lemma Integrity.of_protected {encode : CommandEnvelope → UInt64 → Bytes → Bytes}
    {decode : TcpFrame → Option AuthenticatedCommand}
    (hroun : ∀ envelope sequence payload, isHandshakeCommand envelope.type = false →
      payload.length ≤ kMaxCommandPayload - kAuthenticatedOverhead →
        ∃ frame, receivePlainFrame.run (encode envelope sequence payload) = some (frame, []) ∧
          decode frame = some ⟨normalizedEnvelope envelope payload, sequence, payload⟩)
    (hauth : ∀ frame command, decode frame = some command → ProtectedFrame protection frame command)
    (hdiff : TagsDiffer protection used) : Integrity protection encode decode used where
  roundTrip := hroun
  authentic := hauth
  original := by
    intro frame command hcomm authenticated hauthe body tag hread hprot htag
    exact hdiff.eq_of_tag_eq hcomm hauthe (hauth _ _ hread) hprot htag
  changed := by
    intro wire wire' frame frame' rest' command hcomm command' hcomm' hwire hread hleng hne
      hwire' hread'
    have hframe := hauth _ _ hread
    have hframe' := hauth _ _ hread'
    have hcomma : command' ≠ command := by
      rintro rfl
      -- the same command is the same frame, and the same frame is the same bytes
      obtain rfl := hframe.eq hframe'
      obtain ⟨-, rfl⟩ := run_receivePlainFrame_iff.mp hwire
      obtain ⟨-, rfl⟩ := run_receivePlainFrame_iff.mp hwire'
      have hnil : rest' = [] := by
        simpa using hleng
      exact hne (by rw [hnil])
    refine ⟨hcomma, ?_⟩
    intro htag
    obtain ⟨body, tag, hprot, htag'⟩ := hframe.tag_eq
    exact hcomma (hdiff.eq_of_tag_eq hcomm' hcomm hframe' hprot (htag'.trans htag.symm))

end Frames

/-! ## Commands with a tag -/

section Hmac

variable (hmac : Bytes → Bytes → Digest) (sessionKey : Bytes)

def hmacProtection : Protection := fun command =>
  (computeControlAuthTag hmac sessionKey command.envelope command.sequence command.payload).map
    fun tag => (command.payload, tag)

/-- The part of a digest that becomes the tag of a command. -/
def truncatedHmac (key message : Bytes) : Bytes := (hmac key message).toList.take 16

/-- What is authenticated for a command, with the key. -/
def controlFramePair (command : AuthenticatedCommand) : Bytes × Bytes :=
  (sessionKey, controlFrameMessage command.envelope command.sequence command.payload)

/-- A key that the provider takes. -/
def UsableKey (sessionKey : Bytes) : Prop :=
  kMinimumProtocolKeyBytes ≤ sessionKey.length ∧ sessionKey.length ≤ maximumUlong

instance (sessionKey : Bytes) : Decidable (UsableKey sessionKey) := inferInstanceAs (Decidable (_ ∧ _))

variable {hmac sessionKey} {frame : TcpFrame} {command : AuthenticatedCommand}
  {envelope : CommandEnvelope} {sequence : UInt64} {payload : Bytes} {tag : Block 16}

/-- **The message under a tag says all there is to say about a command.** -/
lemma controlFrameMessage_injective : Function.Injective fun command : AuthenticatedCommand =>
      controlFrameMessage command.envelope command.sequence command.payload := by
  intro command other h
  obtain ⟨-, h⟩ := append_inj h rfl
  obtain ⟨he, h⟩ := encodeCommandHeader_inj h
  obtain ⟨hs, h⟩ := append_inj h (by simp)
  rw [flatten_cons, flatten_nil, append_nil, flatten_cons, flatten_nil, append_nil] at h
  cases command
  cases other
  rw [AuthenticatedCommand.mk.injEq]
  exact ⟨he, le_injective hs, h⟩

lemma toList_computeControlAuthTag (h : computeControlAuthTag hmac sessionKey envelope sequence payload = some tag) :
    tag.toList = truncatedHmac hmac sessionKey (controlFrameMessage envelope sequence payload) := by
  unfold computeControlAuthTag at h
  split at h
  · cases h
  · obtain ⟨digest, hd, rfl⟩ := Option.map_eq_some_iff.mp h
    unfold hmacSha256 at hd
    split at hd
    · cases hd
    · cases hd
      rfl

lemma computeControlAuthTag_of_usable (hk : UsableKey sessionKey)
    (hb : payload.length ≤ kMaxCommandPayload - kAuthenticatedOverhead) :
    ∃ tag, computeControlAuthTag hmac sessionKey envelope sequence payload = some tag := by
  have hm : (controlFrameMessage envelope sequence payload).length ≤ maximumUlong := by
    have hl : (labelBytes "NSTU-CONTROL-FRAME-V1").length = 21 := rfl
    simp only [controlFrameMessage, flatten_cons, flatten_nil, length_append,
      length_nil, length_encodeCommandHeader, le_length, size_uint64, hl]
    simp only [kMaxCommandPayload, kAuthenticatedOverhead, kControlAuthTagBytes] at hb
    simp only [kCommandHeaderBytes, maximumUlong]
    omega
  obtain ⟨hs, hlo⟩ := hk
  have he : sessionKey.isEmpty = false := by
    rw [isEmpty_eq_false_iff, ← length_pos_iff]
    exact Nat.lt_of_lt_of_le (by decide) hs
  have hd : hmacSha256 hmac sessionKey (controlFrameMessage envelope sequence payload) =
      some (hmac sessionKey (controlFrameMessage envelope sequence payload)) := by
    rw [hmacSha256, if_neg]
    simp only [he, Bool.false_or, Bool.or_eq_true, decide_eq_true_eq, not_or, gt_iff_lt, Nat.not_lt]
    exact ⟨hlo, hm⟩
  rw [computeControlAuthTag, if_neg (Nat.not_lt.mpr hs), hd]
  exact ⟨_, rfl⟩

lemma tagsDiffer_hmac {used : Set AuthenticatedCommand}
    (hfree : Mac.CollisionFree (truncatedHmac hmac) (controlFramePair sessionKey '' used)) :
    TagsDiffer (hmacProtection hmac sessionKey) used := by
  intro command hcomm other hother body body' tag h h'
  obtain ⟨t, ht, hpair⟩ := Option.map_eq_some_iff.mp h
  obtain ⟨t', ht', hpair'⟩ := Option.map_eq_some_iff.mp h'
  cases hpair
  cases hpair'
  have htags : Mac.tag (truncatedHmac hmac) (controlFramePair sessionKey command) =
      Mac.tag (truncatedHmac hmac) (controlFramePair sessionKey other) :=
    (toList_computeControlAuthTag ht).symm.trans (toList_computeControlAuthTag ht')
  have hpairs := hfree (Set.mem_image_of_mem _ hcomm) (Set.mem_image_of_mem _ hother) htags
  exact controlFrameMessage_injective (Prod.mk.inj hpairs).2

lemma decodeAuthenticatedCommand_protected (h : decodeAuthenticatedCommand hmac sessionKey frame = some command) :
    ProtectedFrame (hmacProtection hmac sessionKey) frame command := by
  unfold decodeAuthenticatedCommand at h
  split at h
  · cases h
  rename_i hg
  simp only [Bool.or_eq_true, decide_eq_true_eq, bne_iff_ne, not_or, Nat.not_lt, not_not, Bool.not_eq_true] at hg
  obtain ⟨⟨hl, ho⟩, ht⟩ := hg
  simp only at h
  split at h
  · cases h
  rename_i hv
  cases h
  unfold verifyControlAuthTag at hv
  split at hv
  · exact absurd rfl hv
  rename_i tag hta
  rw [Bool.not_eq_true', Bool.not_eq_false, beq_iff_eq] at hv
  exact ⟨ht, rfl, frame.payload.drop kAuthenticatedOverhead, tag, by
    rw [hmacProtection, hta]; rfl, eq_authenticatedTcpFrame hl ho hv.symm _⟩

lemma encodeAuthenticatedCommand_decoded (hk : UsableKey sessionKey)
    (ht : isHandshakeCommand envelope.type = false)
    (hb : payload.length ≤ kMaxCommandPayload - kAuthenticatedOverhead) : ∃ frame, receivePlainFrame.run
        (encodeAuthenticatedCommand hmac sessionKey envelope sequence payload) = some (frame, []) ∧
      decodeAuthenticatedCommand hmac sessionKey frame =
        some ⟨normalizedEnvelope envelope payload, sequence, payload⟩ := by
  obtain ⟨tag, hta⟩ := @computeControlAuthTag_of_usable hmac sessionKey
    (normalizedEnvelope envelope payload) sequence payload hk hb
  have he : encodeAuthenticatedCommand hmac sessionKey envelope sequence payload =
      authenticatedFrame (normalizedEnvelope envelope payload) sequence tag payload := by
    rw [encodeAuthenticatedCommand, if_neg]
    · simp only [hta]
    · rw [ht, Bool.false_or, decide_eq_true_eq]
      exact Nat.not_lt.mpr hb
  refine ⟨_, ?_, decodeAuthenticatedCommand_encoded ht hb hta⟩
  rw [he, ← append_nil (authenticatedFrame _ _ _ _)]
  exact run_receivePlainFrame_authenticatedFrame sequence tag rfl hb []

end Hmac

/-! ## Sealed commands -/

section Gcm

variable (encrypt : (call : SealCall) → Block call.plaintext.length × Block 16)
  (decrypt : Digest → Block 12 → Bytes → Bytes → Bytes → Option Bytes) (key : Digest)
  (ivBase : Block 12)

/-- The call that seals a command. -/
def gcmCall (command : AuthenticatedCommand) : SealCall :=
  ⟨key, constructAeadNonce ivBase command.sequence, makeAeadAad command.envelope command.sequence, command.payload⟩

def gcmProtection : Protection := fun command =>
  some ((encrypt (gcmCall key ivBase command)).1.toList, (encrypt (gcmCall key ivBase command)).2)

/-- `decrypt` opens what `encrypt` has sealed, and nothing else. -/
structure Opens : Prop where
  sealed : ∀ call : SealCall, decrypt call.key call.nonce call.associatedData
    (encrypt call).1.toList (encrypt call).2.toList = some call.plaintext
  opened : ∀ key nonce associatedData ciphertext tag plaintext,
    decrypt key nonce associatedData ciphertext tag = some plaintext →
      ciphertext = (encrypt ⟨key, nonce, associatedData, plaintext⟩).1.toList ∧
        tag = (encrypt ⟨key, nonce, associatedData, plaintext⟩).2.toList

variable {encrypt decrypt key ivBase} {frame : TcpFrame} {command : AuthenticatedCommand}
  {envelope : CommandEnvelope} {sequence : UInt64} {payload : Bytes}

/-- **The arguments of the cipher say all there is to say about a command.** -/
lemma gcmCall_injective : Function.Injective (gcmCall key ivBase) := by
  intro command other h
  simp only [gcmCall, SealCall.mk.injEq] at h
  obtain ⟨-, -, hd, hp⟩ := h
  obtain ⟨he, hs⟩ := encodeCommandHeader_inj hd
  cases command
  cases other
  rw [AuthenticatedCommand.mk.injEq]
  exact ⟨he, le_injective hs, hp⟩

lemma tagsDiffer_gcm {used : Set AuthenticatedCommand}
    (hf : Set.InjOn (fun call => (encrypt call).2) (gcmCall key ivBase '' used)) :
    TagsDiffer (gcmProtection encrypt key ivBase) used := by
  intro command hc other ho body body' tag h h'
  have ht : (encrypt (gcmCall key ivBase command)).2 = (encrypt (gcmCall key ivBase other)).2 := by
    cases h
    exact (Prod.mk.inj (Option.some.inj h')).2.symm
  exact gcmCall_injective (hf (Set.mem_image_of_mem _ hc) (Set.mem_image_of_mem _ ho) ht)

lemma decodeAuthenticatedCommandAead_protected (hopens : Opens encrypt decrypt)
    (h : decodeAuthenticatedCommandAead decrypt key ivBase frame = some command) :
    ProtectedFrame (gcmProtection encrypt key ivBase) frame command := by
  unfold decodeAuthenticatedCommandAead at h
  split at h
  · cases h
  rename_i hguard
  simp only [Bool.or_eq_true, decide_eq_true_eq, bne_iff_ne, not_or, Nat.not_lt, not_not, Bool.not_eq_true] at hguard
  obtain ⟨⟨hlong, houter⟩, htype⟩ := hguard
  obtain ⟨plaintext, hplai, rfl⟩ := Option.map_eq_some_iff.mp h
  obtain ⟨hciph, htag⟩ := hopens.opened _ _ _ _ _ _ hplai
  refine ⟨htype, ?_, _, _, rfl, ?_⟩
  · rw [hciph, Block.length_toList]
  · have hframe := eq_authenticatedTcpFrame hlong houter htag
      (UInt32.ofNat (frame.payload.drop kAuthenticatedOverhead).length)
    exact hframe.trans (congrArg (authenticatedTcpFrame _ _ _) hciph)

lemma encodeAuthenticatedCommandAead_decoded (hopens : Opens encrypt decrypt)
    (htype : isHandshakeCommand envelope.type = false)
    (hbound : payload.length ≤ kMaxCommandPayload - kAuthenticatedOverhead) : ∃ frame, receivePlainFrame.run
        (encodeAuthenticatedCommandAead encrypt true key ivBase envelope sequence payload) = some (frame, []) ∧
      decodeAuthenticatedCommandAead decrypt key ivBase frame =
        some ⟨normalizedEnvelope envelope payload, sequence, payload⟩ := by
  let command : AuthenticatedCommand := ⟨normalizedEnvelope envelope payload, sequence, payload⟩
  let result := encrypt (gcmCall key ivBase command)
  have hcall : aeadSealCall key ivBase envelope sequence payload = some (gcmCall key ivBase command) := by
    rw [aeadSealCall, if_neg]
    · rfl
    · rw [htype, Bool.false_or, decide_eq_true_eq]
      exact Nat.not_lt.mpr hbound
  have henco : encodeAuthenticatedCommandAead encrypt true key ivBase envelope sequence payload =
      authenticatedFrame command.envelope sequence result.2 result.1.toList := by
    simp only [encodeAuthenticatedCommandAead, hcall]
    rfl
  have hleng : result.1.toList.length = payload.length := result.1.length_toList
  have hbody : result.1.toList.length ≤ kMaxCommandPayload - kAuthenticatedOverhead :=
    hleng.le.trans hbound
  have hwell := @wellFormed_authenticatedTcpFrame command.envelope result.1.toList sequence result.2 rfl
    hbody
  refine ⟨authenticatedTcpFrame command.envelope sequence result.2 result.1.toList, ?_, ?_⟩
  · rw [henco, ← append_nil (authenticatedFrame _ _ _ _)]
    exact run_receivePlainFrame_authenticatedFrame sequence result.2 rfl hbody []
  · have hlong : ¬ (authenticatedTcpFrame command.envelope sequence result.2
        result.1.toList).payload.length < kAuthenticatedOverhead := by
      rw [length_authenticatedTcpFrame]
      exact Nat.not_lt.mpr (Nat.le_add_right _ _)
    have htake : [le sequence, result.2.toList, result.1.toList].flatten.take 8 = le sequence := by
      simp
    have hmidd : ([le sequence, result.2.toList, result.1.toList].flatten.drop 8).take
        kControlAuthTagBytes = result.2.toList := by
      simp [kControlAuthTagBytes]
    have hdrop : [le sequence, result.2.toList, result.1.toList].flatten.drop kAuthenticatedOverhead =
        result.1.toList := by
      rw [kAuthenticatedOverhead, ← drop_drop]
      simp [kControlAuthTagBytes]
    have hopen := hopens.sealed (gcmCall key ivBase command)
    rw [decodeAuthenticatedCommandAead, if_neg]
    · simp only [authenticatedTcpFrame, htake, hmidd, hdrop, ofNat_leValue_le, hleng]
      exact Option.map_eq_some_iff.mpr ⟨payload, hopen, rfl⟩
    · simp only [Bool.or_eq_true, decide_eq_true_eq, bne_iff_ne, not_or, not_not, Bool.not_eq_true]
      exact ⟨⟨hlong, hwell.length⟩, htype⟩

end Gcm

/-- **The integrity of commands.**  In both forms a command is read back from its frame; what is
accepted is what was authenticated under the tag; and a frame whose bytes are changed is accepted with
the tag of another command or not at all. -/
theorem authenticatedCommand_integrity :
    (∀ (hmac : Bytes → Bytes → Digest) (sessionKey : Bytes) (used : Set AuthenticatedCommand), UsableKey sessionKey →
      Mac.CollisionFree (truncatedHmac hmac) (controlFramePair sessionKey '' used) →
      Integrity (hmacProtection hmac sessionKey) (encodeAuthenticatedCommand hmac sessionKey)
        (decodeAuthenticatedCommand hmac sessionKey) used) ∧
    ∀ (encrypt : (call : SealCall) → Block call.plaintext.length × Block 16)
      (decrypt : Digest → Block 12 → Bytes → Bytes → Bytes → Option Bytes) (key : Digest)
      (ivBase : Block 12) (used : Set AuthenticatedCommand), Opens encrypt decrypt →
      Set.InjOn (fun call => (encrypt call).2) (gcmCall key ivBase '' used) →
      Integrity (gcmProtection encrypt key ivBase) (encodeAuthenticatedCommandAead encrypt true key ivBase)
        (decodeAuthenticatedCommandAead decrypt key ivBase) used := by
  constructor
  · intro hmac sessionKey used hkey hfree
    refine .of_protected ?_ ?_ (tagsDiffer_hmac hfree)
    · intro envelope sequence payload htype hbound
      exact encodeAuthenticatedCommand_decoded hkey htype hbound
    · intro frame command hread
      exact decodeAuthenticatedCommand_protected hread
  · intro encrypt decrypt key ivBase used hopens hfree
    refine .of_protected ?_ ?_ (tagsDiffer_gcm hfree)
    · intro envelope sequence payload htype hbound
      exact encodeAuthenticatedCommandAead_decoded hopens htype hbound
    · intro frame command hread
      exact decodeAuthenticatedCommandAead_protected hopens hread

/-- The first two commands of a session: two heartbeats. -/
def heartbeatCommand (requestId sequence : UInt64) : AuthenticatedCommand :=
  ⟨⟨kCommandVersion, .heartbeat, 0, requestId⟩, sequence, []⟩

/-- HMAC-SHA-256 on the messages of both. -/
def heartbeatHmac (key message : Bytes) : Digest :=
  if (key, message) = controlFramePair sampleSessionKey.toList (heartbeatCommand 2 1) then
    ⟨leBytes 32 0x62a9c899771e5eed64ae74f1025339c75e5b57570f994e49e44b0d23de7b9820, leBytes_length _ _⟩
  else sampleFrameHmac key message

/-- AES-256-GCM on heartbeats, which have no text, with a decryption that compares the tags. -/
def heartbeatEncrypt (call : SealCall) : Block call.plaintext.length × Block 16 :=
  (⟨call.plaintext, rfl⟩, (sampleEncrypt call).2)

def heartbeatDecrypt (key : Digest) (nonce : Block 12) (associatedData ciphertext tag : Bytes) :
    Option Bytes :=
  if tag = (sampleEncrypt ⟨key, nonce, associatedData, ciphertext⟩).2.toList then some ciphertext
  else none

lemma opens_heartbeat : Opens heartbeatEncrypt heartbeatDecrypt where
  sealed := by
    intro call
    exact if_pos rfl
  opened := by
    intro key nonce associatedData ciphertext tag plaintext h
    unfold heartbeatDecrypt at h
    split at h
    · rename_i ht
      cases h
      exact ⟨rfl, ht⟩
    · cases h

/-- Two heartbeats under the session's own tags. -/
theorem authenticatedCommand_integrity_heartbeats : (∃ frame frame',
      receivePlainFrame.run (encodeAuthenticatedCommand heartbeatHmac sampleSessionKey.toList
        (heartbeatCommand 1 0).envelope 0 []) = some (frame, []) ∧
      receivePlainFrame.run (encodeAuthenticatedCommand heartbeatHmac sampleSessionKey.toList
        (heartbeatCommand 2 1).envelope 1 []) = some (frame', []) ∧ frame'.tag ≠ frame.tag) ∧
    ∃ frame frame', receivePlainFrame.run (encodeAuthenticatedCommandAead heartbeatEncrypt true sampleSendKey
        (nonceOf sampleSendIv) (heartbeatCommand 1 0).envelope 0 []) = some (frame, []) ∧
      receivePlainFrame.run (encodeAuthenticatedCommandAead heartbeatEncrypt true sampleSendKey
        (nonceOf sampleSendIv) (heartbeatCommand 2 1).envelope 1 []) = some (frame', []) ∧ frame'.tag ≠ frame.tag := by
  constructor
  · have hfree : Mac.CollisionFree (truncatedHmac heartbeatHmac)
        (controlFramePair sampleSessionKey.toList '' {heartbeatCommand 1 0, heartbeatCommand 2 1}) := by
      rw [Set.image_pair, Mac.CollisionFree, Set.injOn_pair]
      intro htag
      exact absurd htag (by decide +kernel)
    have hintegrity := authenticatedCommand_integrity.1 heartbeatHmac sampleSessionKey.toList _
      (by decide +kernel) hfree
    obtain ⟨frame, hframe, hread⟩ := hintegrity.roundTrip (heartbeatCommand 1 0).envelope 0 [] rfl (by decide)
    obtain ⟨frame', hframe', hread'⟩ := hintegrity.roundTrip (heartbeatCommand 2 1).envelope 1 [] rfl (by decide)
    exact ⟨frame, frame', hframe, hframe', (hintegrity.changed _ _ _ _ _ (heartbeatCommand 1 0)
      (Or.inl rfl) (heartbeatCommand 2 1) (Or.inr rfl) hframe hread (by decide +kernel)
      (by decide +kernel) hframe' hread').2⟩
  · have hfree : Set.InjOn (fun call => (heartbeatEncrypt call).2)
        (gcmCall sampleSendKey (nonceOf sampleSendIv) '' {heartbeatCommand 1 0, heartbeatCommand 2 1}) := by
      rw [Set.image_pair, Set.injOn_pair]
      intro htag
      exact absurd htag (by decide +kernel)
    have hintegrity := authenticatedCommand_integrity.2 heartbeatEncrypt heartbeatDecrypt
      sampleSendKey (nonceOf sampleSendIv) _ opens_heartbeat hfree
    obtain ⟨frame, hframe, hread⟩ := hintegrity.roundTrip (heartbeatCommand 1 0).envelope 0 [] rfl (by decide)
    obtain ⟨frame', hframe', hread'⟩ := hintegrity.roundTrip (heartbeatCommand 2 1).envelope 1 [] rfl (by decide)
    exact ⟨frame, frame', hframe, hframe', (hintegrity.changed _ _ _ _ _ (heartbeatCommand 1 0)
      (Or.inl rfl) (heartbeatCommand 2 1) (Or.inr rfl) hframe hread (by decide +kernel)
      (by decide +kernel) hframe' hread').2⟩

end Nstu.Control
