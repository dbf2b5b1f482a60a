import Nstu.Control.Channel

/-!
# Video datagrams

The wire form of a video packet header (`protocol.cpp`), its authentication tag (`auth.cpp`), and
`VideoPacketizer` and `decode_video_datagram` of `video_transport.cpp`.

An access unit is cut into fragments, each but the last as long as a datagram allows.
-/

namespace Nstu.Video

open Wire Reader Control

def kVideoVersion : UInt16 := 2
def kVideoHeaderBytes : ℕ := 44
def kVideoAuthTagBytes : ℕ := 16
def kMaximumDatagramBytes : ℕ := 65507

/-! ## Headers -/

/-- `VideoFlags`, a set of bits. -/
abbrev VideoFlags := UInt16

def VideoFlags.keyframe : VideoFlags := 1
def VideoFlags.endOfFrame : VideoFlags := 2

def hasFlag (value flag : VideoFlags) : Bool := value &&& flag != 0

structure VideoPacketHeader where
  version : UInt16 := kVideoVersion
  flags : VideoFlags := 0
  streamId : UInt32 := 0
  packetSequence : UInt64 := 0
  frameId : UInt64 := 0
  fragmentIndex : UInt16 := 0
  fragmentCount : UInt16 := 0
  payloadBytes : UInt32 := 0
  captureTime100ns : UInt64 := 0
  deriving DecidableEq

def encodeVideoHeader (header : VideoPacketHeader) : Bytes :=
  [le kMagic, le header.version, le header.flags, le header.streamId, le header.packetSequence, le header.frameId,
    le header.fragmentIndex, le header.fragmentCount, le header.payloadBytes, le header.captureTime100ns].flatten

def readVideoHeader : Reader VideoPacketHeader := do
  let magic : UInt32 ← readLe
  require (magic = kMagic)
  let version : UInt16 ← readLe
  let flags : UInt16 ← readLe
  let streamId : UInt32 ← readLe
  let packetSequence : UInt64 ← readLe
  let frameId : UInt64 ← readLe
  let fragmentIndex : UInt16 ← readLe
  let fragmentCount : UInt16 ← readLe
  let payloadBytes : UInt32 ← readLe
  let captureTime100ns : UInt64 ← readLe
  require (version = kVideoVersion)
  require (fragmentCount ≠ 0)
  require (fragmentIndex < fragmentCount)
  pure ⟨version, flags, streamId, packetSequence, frameId, fragmentIndex, fragmentCount, payloadBytes,
    captureTime100ns⟩

def decodeVideoHeader (wire : Bytes) : Option VideoPacketHeader :=
  if wire.length < kVideoHeaderBytes then none else (readVideoHeader.run wire).map Prod.fst

/-- What a header has to be for it to be read. -/
structure VideoPacketHeader.WellFormed (header : VideoPacketHeader) : Prop where
  version : header.version = kVideoVersion
  fragmentIndex : header.fragmentIndex < header.fragmentCount

@[simp] lemma length_encodeVideoHeader (header : VideoPacketHeader) :
    (encodeVideoHeader header).length = kVideoHeaderBytes := by
  simp [encodeVideoHeader, kVideoHeaderBytes]

lemma decodeVideoHeader_encode {header : VideoPacketHeader} (h : header.WellFormed) :
    decodeVideoHeader (encodeVideoHeader header) = some header := by
  have hr : readVideoHeader.run (encodeVideoHeader header) = some (header, []) := by
    simp only [readVideoHeader, run_bind_require_iff, run_bind_readLe_iff, run_pure_iff, encodeVideoHeader,
      List.flatten_cons, List.flatten_nil]
    refine ⟨_, _, rfl, rfl, _, _, rfl, _, _, rfl, _, _, rfl, _, _, rfl, _, _, rfl, _, _, rfl, _, _, rfl, _, _, rfl,
      _, _, rfl, h.version, ?_, h.fragmentIndex, rfl, rfl⟩
    exact fun hz => UInt16.not_lt_zero (hz ▸ h.fragmentIndex)
  simp [decodeVideoHeader, hr]

/-! ## Tags -/

section Hmac

variable (hmac : Bytes → Bytes → Digest)

def videoPacketMessage (header : VideoPacketHeader) (payload : Bytes) : Bytes :=
  [labelBytes "NSTU-VIDEO-PACKET-V1", encodeVideoHeader header, payload].flatten

def computeVideoAuthTag (key : Bytes) (header : VideoPacketHeader) (payload : Bytes) : Option (Block 16) :=
  if key.length < kMinimumProtocolKeyBytes then none
  else (hmacSha256 hmac key (videoPacketMessage header payload)).map fun digest =>
    ⟨digest.toList.take 16, length_take_digest digest⟩

def verifyVideoAuthTag (key : Bytes) (header : VideoPacketHeader) (payload tag : Bytes) : Bool :=
  if tag.length ≠ kVideoAuthTagBytes then false
  else match computeVideoAuthTag hmac key header payload with
  | none => false
  | some expected => expected.toList == tag

/-! ## Datagrams -/

structure VideoDatagram where
  header : VideoPacketHeader
  tag : Block 16
  payload : Bytes
  deriving DecidableEq

def VideoDatagram.wire (datagram : VideoDatagram) : Bytes :=
  if datagram.header.payloadBytes.toNat ≠ datagram.payload.length then []
  else encodeVideoHeader datagram.header ++ (datagram.tag.toList ++ datagram.payload)

def kDatagramOverhead : ℕ := kVideoHeaderBytes + kVideoAuthTagBytes

def decodeVideoDatagram (wire authenticationKey : Bytes) : Except String VideoDatagram :=
  if wire.length ≤ kDatagramOverhead ∨ kMaximumDatagramBytes < wire.length then
    .error "invalid video datagram length"
  else match decodeVideoHeader (wire.take kVideoHeaderBytes) with
  | none => .error "invalid video datagram header"
  | some header =>
    let tag := (wire.drop kVideoHeaderBytes).take kVideoAuthTagBytes
    let payload := wire.drop kDatagramOverhead
    if header.payloadBytes.toNat ≠ wire.length - kDatagramOverhead then .error "invalid video datagram header"
    else if !verifyVideoAuthTag hmac authenticationKey header payload tag then
      .error "video datagram authentication failed"
    else if htag : tag.length = 16 then .ok ⟨header, ⟨tag, htag⟩, payload⟩
    else .error "video datagram authentication failed"

/-! ## The packetizer -/

structure PacketizerConfig where
  maximumDatagramBytes : ℕ := 1200
  maximumFragments : UInt16 := 4096

/-- `std::clamp`. -/
def clampFragments (count : UInt16) : UInt16 := if count < 1 then 1 else if 16384 < count then 16384 else count

lemma clampFragments_bounds (count : UInt16) :
    1 ≤ (clampFragments count).toNat ∧ (clampFragments count).toNat ≤ 16384 := by
  rw [clampFragments]
  split_ifs with hl hh
  · decide
  · decide
  · rw [UInt16.lt_iff_toNat_lt, UInt16.toNat_one] at hl
    rw [UInt16.lt_iff_toNat_lt] at hh
    simp only [UInt16.reduceToNat] at hh
    omega

/-- A packetizer, with limits as its constructor leaves them. -/
structure VideoPacketizer where
  config : PacketizerConfig
  streamId : UInt32 := 0
  nextPacketSequence : UInt64 := 0
  nextFrameId : UInt64 := 0
  initialized : Bool := false
  datagram_bytes : kDatagramOverhead < config.maximumDatagramBytes ∧
    config.maximumDatagramBytes ≤ kMaximumDatagramBytes
  fragments : 1 ≤ config.maximumFragments.toNat ∧ config.maximumFragments.toNat ≤ 16384

namespace VideoPacketizer

/-- The constructor. -/
def new (config : PacketizerConfig) : VideoPacketizer where
  config :=
    { maximumDatagramBytes := max (kDatagramOverhead + 1) (min config.maximumDatagramBytes kMaximumDatagramBytes)
      maximumFragments := clampFragments config.maximumFragments }
  datagram_bytes := by
    simp only [kDatagramOverhead, kVideoHeaderBytes, kVideoAuthTagBytes, kMaximumDatagramBytes]
    omega
  fragments := clampFragments_bounds config.maximumFragments

def reset (packetizer : VideoPacketizer) (streamId : UInt32) (firstPacketSequence firstFrameId : UInt64) :
    VideoPacketizer :=
  { packetizer with
    streamId := streamId
    nextPacketSequence := firstPacketSequence
    nextFrameId := firstFrameId
    initialized := streamId != 0 }

/-- How many bytes of an access unit go into a datagram. -/
def payloadLimit (packetizer : VideoPacketizer) : ℕ := packetizer.config.maximumDatagramBytes - kDatagramOverhead

def fragmentCount (packetizer : VideoPacketizer) (accessUnit : Bytes) : ℕ :=
  (accessUnit.length + packetizer.payloadLimit - 1) / packetizer.payloadLimit

/-- The header of a fragment. -/
def fragmentHeader (packetizer : VideoPacketizer) (captureTime : UInt64) (keyframe : Bool) (count index bytes : ℕ) :
    VideoPacketHeader where
  streamId := packetizer.streamId
  packetSequence := packetizer.nextPacketSequence + UInt64.ofNat index
  frameId := packetizer.nextFrameId
  fragmentIndex := UInt16.ofNat index
  fragmentCount := UInt16.ofNat count
  payloadBytes := UInt32.ofNat bytes
  captureTime100ns := captureTime
  flags := (if keyframe then VideoFlags.keyframe else 0) ||| (if index + 1 = count then VideoFlags.endOfFrame else 0)

/-- The loop of `packetize`: so many fragments are still to be cut off what is left of the access unit. -/
def cutFragments (packetizer : VideoPacketizer) (captureTime : UInt64) (keyframe : Bool) (key : Bytes) (count : ℕ) :
    ℕ → ℕ → Bytes → Option (List VideoDatagram)
  | 0, _, _ => some []
  | remaining + 1, index, rest => do
    let payload := rest.take (min packetizer.payloadLimit rest.length)
    let header := packetizer.fragmentHeader captureTime keyframe count index payload.length
    let tag ← computeVideoAuthTag hmac key header payload
    let datagrams ← cutFragments packetizer captureTime keyframe key count remaining (index + 1)
      (rest.drop payload.length)
    return ⟨header, tag, payload⟩ :: datagrams

def packetize (packetizer : VideoPacketizer) (accessUnit : Bytes) (captureTime : UInt64) (keyframe : Bool)
    (authenticationKey : Bytes) : Except String (List VideoDatagram × VideoPacketizer) :=
  let count := packetizer.fragmentCount accessUnit
  if !packetizer.initialized || accessUnit.isEmpty || authenticationKey.length < kMinimumProtocolKeyBytes then
    .error "invalid packetizer input"
  else if count = 0 ∨ packetizer.config.maximumFragments.toNat < count ∨ 2 ^ 16 - 1 < count ∨
      2 ^ 64 - 1 - packetizer.nextPacketSequence.toNat < count - 1 then
    .error "access unit exceeds packetizer limits"
  else if packetizer.nextFrameId.toNat = 2 ^ 64 - 1 then .error "frame ID space is exhausted"
  else match packetizer.cutFragments hmac captureTime keyframe authenticationKey count count 0 accessUnit with
  | none => .error "video authentication tag generation failed"
  | some datagrams =>
    .ok (datagrams, { packetizer with
      nextPacketSequence := packetizer.nextPacketSequence + UInt64.ofNat count
      nextFrameId := packetizer.nextFrameId + 1 })

/-! ## What the packetizer makes of an access unit -/

variable {hmac} {packetizer : VideoPacketizer} {captureTime : UInt64} {keyframe : Bool} {key : Bytes}

lemma payloadLimit_pos (packetizer : VideoPacketizer) : 0 < packetizer.payloadLimit := by
  have := packetizer.datagram_bytes
  simp only [payloadLimit]
  omega

lemma fragmentCount_bounds (packetizer : VideoPacketizer) (accessUnit : Bytes) :
    accessUnit.length ≤ packetizer.fragmentCount accessUnit * packetizer.payloadLimit ∧
      packetizer.fragmentCount accessUnit * packetizer.payloadLimit < accessUnit.length + packetizer.payloadLimit := by
  have hp := packetizer.payloadLimit_pos
  have hd := Nat.div_add_mod (accessUnit.length + packetizer.payloadLimit - 1) packetizer.payloadLimit
  have hm := Nat.mod_lt (accessUnit.length + packetizer.payloadLimit - 1) hp
  rw [mul_comm] at hd
  simp only [fragmentCount]
  omega

variable (hmac packetizer captureTime keyframe key) in
/-- The datagram is the fragment with the given index. -/
structure Fragment (count index : ℕ) (datagram : VideoDatagram) : Prop where
  header : datagram.header = packetizer.fragmentHeader captureTime keyframe count index datagram.payload.length
  tag : computeVideoAuthTag hmac key datagram.header datagram.payload = some datagram.tag
  nonempty : 0 < datagram.payload.length
  fits : datagram.payload.length ≤ packetizer.payloadLimit

variable {datagrams : List VideoDatagram}

/-- The pieces, in order, are the whole. -/
lemma cutFragments_spec {count remaining index : ℕ} {rest : Bytes}
    (hhigh : rest.length ≤ remaining * packetizer.payloadLimit)
    (hlow : remaining * packetizer.payloadLimit < rest.length + packetizer.payloadLimit)
    (h : packetizer.cutFragments hmac captureTime keyframe key count remaining index rest = some datagrams) :
    datagrams.length = remaining ∧ datagrams.flatMap VideoDatagram.payload = rest ∧
      ∀ i (hi : i < datagrams.length), Fragment hmac packetizer captureTime keyframe key count (index + i) datagrams[i] := by
  have hpos := packetizer.payloadLimit_pos
  induction remaining generalizing index rest datagrams with
  | zero =>
    obtain rfl : datagrams = [] := (Option.some.inj h).symm
    have : rest = [] := List.length_eq_zero_iff.mp (by simpa using hhigh)
    simp [this]
  | succ remaining ih =>
    simp only [cutFragments, Option.bind_eq_bind, Option.bind_eq_some_iff, Option.pure_def, Option.some.injEq] at h
    obtain ⟨tag, htag, datagrams, hdata, rfl⟩ := h
    rw [Nat.succ_mul] at hhigh hlow
    have hpayl : (rest.take (min packetizer.payloadLimit rest.length)).length =
        min packetizer.payloadLimit rest.length := by simp
    have hdrop : (rest.drop (rest.take (min packetizer.payloadLimit rest.length)).length).length =
        rest.length - min packetizer.payloadLimit rest.length := by rw [List.length_drop, hpayl]
    obtain ⟨hleng, hflat, hfrag⟩ := ih (by omega) (by omega) hdata
    refine ⟨by simpa using hleng, ?_, ?_⟩
    · rw [List.flatMap_cons, hflat, hpayl, List.take_append_drop]
    · intro i hi
      cases i with
      | zero => exact ⟨rfl, htag, by simp only [List.getElem_cons_zero, hpayl]; omega,
          by simp only [List.getElem_cons_zero, hpayl]; omega⟩
      | succ i =>
        have := hfrag i (by simpa using hi)
        rwa [Nat.add_right_comm, Nat.add_assoc] at this

variable (hmac packetizer captureTime keyframe key) in
/-- **The fragments of an access unit**: as many as it takes, with the access unit for their payloads. -/
structure Fragments (accessUnit : Bytes) (datagrams : List VideoDatagram) : Prop where
  keyBytes : kMinimumProtocolKeyBytes ≤ key.length
  pos : 0 < datagrams.length
  bound : datagrams.length ≤ packetizer.config.maximumFragments.toNat
  payload : datagrams.flatMap VideoDatagram.payload = accessUnit
  fragment : ∀ i (hi : i < datagrams.length),
    Fragment hmac packetizer captureTime keyframe key datagrams.length i datagrams[i]

/-- What the packetizer gives out. -/
lemma packetize_spec {accessUnit : Bytes} {after : VideoPacketizer}
    (h : packetizer.packetize hmac accessUnit captureTime keyframe key = .ok (datagrams, after)) :
    Fragments hmac packetizer captureTime keyframe key accessUnit datagrams := by
  obtain ⟨hl, hh⟩ := packetizer.fragmentCount_bounds accessUnit
  rw [packetize] at h
  split_ifs at h with hi hli
  split at h
  · contradiction
  · rename_i datagrams' hc
    obtain ⟨rfl, -⟩ := Prod.mk.inj (Except.ok.inj h)
    obtain ⟨hle, hp, hf⟩ := cutFragments_spec hl hh hc
    simp only [Bool.or_eq_true, decide_eq_true_eq, not_or] at hi
    rw [← hle] at hli hf
    exact ⟨by omega, by omega, by omega, hp, by simpa using hf⟩

namespace Fragment

variable {count index : ℕ} {datagram : VideoDatagram}

lemma toNat_fragmentIndex (h : Fragment hmac packetizer captureTime keyframe key count index datagram)
    (hi : index < 2 ^ 16) : datagram.header.fragmentIndex.toNat = index := by
  rw [h.header]
  exact UInt16.toNat_ofNat_of_lt' hi

lemma toNat_fragmentCount (h : Fragment hmac packetizer captureTime keyframe key count index datagram)
    (hc : count < 2 ^ 16) : datagram.header.fragmentCount.toNat = count := by
  rw [h.header]
  exact UInt16.toNat_ofNat_of_lt' hc

lemma toNat_payloadBytes (h : Fragment hmac packetizer captureTime keyframe key count index datagram) :
    datagram.header.payloadBytes.toNat = datagram.payload.length := by
  have hd := packetizer.datagram_bytes
  have hf := h.fits
  rw [h.header]
  refine UInt32.toNat_ofNat_of_lt' ?_
  simp only [payloadLimit, kMaximumDatagramBytes, UInt32.size] at *
  omega

lemma wellFormed (h : Fragment hmac packetizer captureTime keyframe key count index datagram)
    (hi : index < count) (hc : count < 2 ^ 16) : datagram.header.WellFormed := by
  refine ⟨by rw [h.header]; rfl, ?_⟩
  rw [UInt16.lt_iff_toNat_lt, h.toNat_fragmentIndex (by omega), h.toNat_fragmentCount hc]
  exact hi

/-- **A fragment survives the wire.** -/
theorem decode_wire (h : Fragment hmac packetizer captureTime keyframe key count index datagram)
    (hindex : index < count) (hcount : count < 2 ^ 16) : decodeVideoDatagram hmac datagram.wire key = .ok datagram := by
  have hdata := packetizer.datagram_bytes
  have hfits := h.fits
  have hnone := h.nonempty
  have hbytes := h.toNat_payloadBytes
  have htag : datagram.tag.toList.length = kVideoAuthTagBytes := datagram.tag.length_toList
  have hwire : datagram.wire = encodeVideoHeader datagram.header ++ (datagram.tag.toList ++ datagram.payload) := by
    rw [VideoDatagram.wire, if_neg (not_not.mpr hbytes)]
  have hleng : datagram.wire.length = kDatagramOverhead + datagram.payload.length := by
    rw [hwire]
    simp [htag, kDatagramOverhead, Nat.add_assoc]
  have hhead : datagram.wire.take kVideoHeaderBytes = encodeVideoHeader datagram.header := by
    rw [hwire, List.take_left' (length_encodeVideoHeader _)]
  have htake : (datagram.wire.drop kVideoHeaderBytes).take kVideoAuthTagBytes = datagram.tag.toList := by
    rw [hwire, List.drop_left' (length_encodeVideoHeader _), List.take_left' htag]
  have hpayl : datagram.wire.drop kDatagramOverhead = datagram.payload := by
    rw [hwire, kDatagramOverhead, ← List.drop_drop, List.drop_left' (length_encodeVideoHeader _), List.drop_left' htag]
  have hveri : verifyVideoAuthTag hmac key datagram.header datagram.payload datagram.tag.toList := by
    rw [verifyVideoAuthTag, if_neg (not_not.mpr htag), h.tag]
    simp
  simp only [payloadLimit, kMaximumDatagramBytes] at *
  rw [decodeVideoDatagram, if_neg (by rw [kMaximumDatagramBytes]; omega), hhead,
    decodeVideoHeader_encode (h.wellFormed hindex hcount)]
  simp only [htake, hpayl, hveri, htag, hbytes, hleng, Nat.add_sub_cancel_left, ne_eq, not_true, if_false,
    Bool.not_true, Bool.false_eq_true]
  exact dif_pos rfl

end Fragment

end VideoPacketizer

end Hmac

end Nstu.Video
