import Nstu.Core.Framing
import Nstu.Control.Protocol

/-!
# The incremental frame parser

`TcpFrameParser` of `protocol.cpp`, which the server feeds with whatever has arrived, beside the
blocking `receive_plain_frame`, with which a client reads one frame after another.

`stable_nextFrame` is what makes the parser independent of how the stream is cut: what it finds at the
front of its buffer stays there when more arrives.  The one thing that does depend on the cuts is the
limit on the buffer, which a feed may exceed; `Fits` says that none does.  Then a run of feeds yields
the frames of the stream (`feedAll_eq`), and these are the frames that the blocking reader returns
(`receiveAll_eq`).
-/

namespace Nstu.Control

open Wire Reader Framing List

def kMaxTcpBufferedBytes : ℕ := 4 * (kCommandHeaderBytes + kMaxCommandPayload)

/-- The length prefix at the front of a buffer. -/
def bodyBytesAt (buffer : Bytes) : ℕ := (Word.ofNat (leValue (buffer.take 4)) : UInt32).toNat

/-- A length no frame has. -/
def invalidBodyBytes (bodyBytes : ℕ) : Prop :=
  bodyBytes < kCommandHeaderBytes ∨ bodyBytes > kCommandHeaderBytes + kMaxCommandPayload

instance (bodyBytes : ℕ) : Decidable (invalidBodyBytes bodyBytes) :=
  inferInstanceAs (Decidable (_ ∨ _))

/-- What one turn of the parser's loop finds at the front of the buffer. -/
def nextFrame (buffer : Bytes) : Front TcpFrame :=
  if buffer.length < 4 then .waiting
  else if invalidBodyBytes (bodyBytesAt buffer) then .malformed
  else if buffer.length < 4 + bodyBytesAt buffer then .waiting
  else
    let body := (buffer.drop 4).take (bodyBytesAt buffer)
    match decodeCommandHeader body with
    | none => .malformed
    | some envelope =>
      if envelope.payloadBytes.toNat ≠ bodyBytesAt buffer - kCommandHeaderBytes then .malformed
      else .frame ⟨envelope, body.drop kCommandHeaderBytes⟩ (4 + bodyBytesAt buffer)

structure TcpFrameParser where
  buffer : Bytes := []
  deriving DecidableEq

/-- What a call of `feed` does: the parser after it, the frames it appends and what it returns. -/
structure FeedResult where
  parser : TcpFrameParser
  frames : List TcpFrame
  accepted : Bool

/-- A feed that the buffer has room for. -/
def TcpFrameParser.HasRoom (parser : TcpFrameParser) (bytes : Bytes) : Prop :=
  bytes.length ≤ kMaxTcpBufferedBytes - min parser.buffer.length kMaxTcpBufferedBytes

instance (parser : TcpFrameParser) (bytes : Bytes) : Decidable (parser.HasRoom bytes) :=
  inferInstanceAs (Decidable (_ ≤ _))

def TcpFrameParser.feed (parser : TcpFrameParser) (bytes : Bytes) : FeedResult :=
  if ¬ parser.HasRoom bytes then ⟨{}, [], false⟩
  else
    let found := cut nextFrame (parser.buffer ++ bytes)
    ⟨⟨found.left⟩, found.frames, !found.failed⟩

/-- Feeds one after the other, up to the first that is refused: the frames and whether all went well. -/
def TcpFrameParser.feedAll (parser : TcpFrameParser) : List Bytes → List TcpFrame × Bool
  | [] => ([], true)
  | segment :: segments =>
    let result := parser.feed segment
    if result.accepted then
      let later := result.parser.feedAll segments
      (result.frames ++ later.1, later.2)
    else (result.frames, false)

/-- No feed exceeds the buffer, up to the first that is refused. -/
def TcpFrameParser.Fits (parser : TcpFrameParser) : List Bytes → Prop
  | [] => True
  | segment :: segments =>
    parser.HasRoom segment ∧ ((parser.feed segment).accepted = true → (parser.feed segment).parser.Fits segments)

/-! ## The blocking reader -/

/-- What `receive_plain_frame` makes of the bytes a socket yields: a frame and the bytes after it, a
frame that it rejects, or a socket that ends before the frame does. -/
inductive Received where
  | frame (frame : TcpFrame) (rest : Bytes)
  | rejected (error : String)
  | ended

def receiveFrame (socket : Bytes) : Received :=
  if socket.length < 4 then .ended
  else if invalidBodyBytes (bodyBytesAt socket) then .rejected "invalid TCP frame size"
  else if (socket.drop 4).length < bodyBytesAt socket then .ended
  else
    let body := (socket.drop 4).take (bodyBytesAt socket)
    match decodeCommandHeader body with
    | none => .rejected "invalid TCP command envelope"
    | some envelope =>
      if envelope.payloadBytes.toNat ≠ body.length - kCommandHeaderBytes then
        .rejected "invalid TCP command envelope"
      else
        .frame ⟨envelope, body.drop kCommandHeaderBytes⟩ ((socket.drop 4).drop (bodyBytesAt socket))

/-- The frames that one call after the other returns, and whether the last call rejects a frame. -/
def receiveAll (socket : Bytes) : List TcpFrame × Bool :=
  match receiveFrame socket with
  | .ended => ([], false)
  | .rejected _ => ([], true)
  | .frame frame rest =>
    if _h : rest.length < socket.length then
      let later := receiveAll rest
      (frame :: later.1, later.2)
    else ([frame], false)
  termination_by socket.length

/-! ## What the parser finds stays there -/

variable {buffer : Bytes}

lemma bodyBytesAt_append (h : 4 ≤ buffer.length) (more : Bytes) :
    bodyBytesAt (buffer ++ more) = bodyBytesAt buffer := by
  rw [bodyBytesAt, bodyBytesAt, take_append_of_le_length h]

lemma body_append {size : ℕ} (h : 4 + size ≤ buffer.length) (more : Bytes) :
    ((buffer ++ more).drop 4).take size = (buffer.drop 4).take size := by
  rw [drop_append_of_le_length (by omega), take_append_of_le_length]
  rw [length_drop]
  omega

lemma nextFrame_append (hh : 4 ≤ buffer.length) (hb : 4 + bodyBytesAt buffer ≤ buffer.length) (more : Bytes) :
    nextFrame (buffer ++ more) = nextFrame buffer := by
  have hl : (buffer ++ more).length = buffer.length + more.length := length_append
  simp only [nextFrame, bodyBytesAt_append hh, body_append hb]
  rw [if_neg (Nat.not_lt.mpr hh), if_neg (by omega)]
  split
  · rfl
  · rw [if_neg (Nat.not_lt.mpr hb), if_neg (by omega)]

/-- **More bytes do not change what the parser has found.** -/
lemma stable_nextFrame : Stable nextFrame where
  malformed := by
    intro buffer h more
    by_cases hh : 4 ≤ buffer.length
    · by_cases hb : 4 + bodyBytesAt buffer ≤ buffer.length
      · rw [nextFrame_append hh hb, h]
      · -- the length prefix alone is at fault
        have hs : invalidBodyBytes (bodyBytesAt buffer) := by
          by_contra hv
          rw [nextFrame, if_neg (Nat.not_lt.mpr hh), if_neg hv, if_pos (Nat.not_le.mp hb)] at h
          cases h
        rw [nextFrame, if_neg, bodyBytesAt_append hh, if_pos hs]
        rw [length_append]
        omega
    · rw [nextFrame, if_pos (Nat.not_le.mp hh)] at h
      cases h
  frame := by
    intro buffer frame size h
    have hw : 4 ≤ buffer.length ∧ 4 + bodyBytesAt buffer ≤ buffer.length ∧ size = 4 + bodyBytesAt buffer := by
      rw [nextFrame] at h
      split at h
      · cases h
      · rename_i hh
        split at h
        · cases h
        · split at h
          · cases h
          · rename_i hb
            simp only at h
            split at h
            · cases h
            · split at h
              · cases h
              · cases h
                exact ⟨Nat.not_lt.mp hh, Nat.not_lt.mp hb, rfl⟩
    obtain ⟨hh, hb, rfl⟩ := hw
    refine ⟨by omega, hb, ?_⟩
    intro more
    rw [nextFrame_append hh hb, h]

/-! ## Feeds -/

namespace TcpFrameParser

variable {parser : TcpFrameParser}

lemma feed_of_hasRoom {bytes : Bytes} (h : parser.HasRoom bytes) :
    parser.feed bytes = ⟨⟨(cut nextFrame (parser.buffer ++ bytes)).left⟩,
      (cut nextFrame (parser.buffer ++ bytes)).frames, !(cut nextFrame (parser.buffer ++ bytes)).failed⟩ := by
  rw [feed, if_neg (not_not_intro h)]

variable {segments : List Bytes}

/-- **A run of feeds yields the frames of the stream**, however it is cut. -/
lemma feedAll_eq (hw : nextFrame parser.buffer = .waiting) (hf : parser.Fits segments) :
    parser.feedAll segments = ((cut nextFrame (parser.buffer ++ segments.flatten)).frames,
        !(cut nextFrame (parser.buffer ++ segments.flatten)).failed) := by
  induction segments generalizing parser with
  | nil =>
    rw [feedAll, flatten_nil, append_nil, cut_of_waiting hw]
    rfl
  | cons segment segments ih =>
    obtain ⟨hr, hl⟩ := hf
    rw [feedAll, flatten_cons, ← append_assoc, cut_append stable_nextFrame, Cut.andThen]
    rw [feed_of_hasRoom hr] at hl ⊢
    cases hfa : (cut nextFrame (parser.buffer ++ segment)).failed with
    | true =>
      simp only [Bool.not_true, Bool.false_eq_true, if_false, if_true, hfa]
    | false =>
      rw [hfa] at hl
      have hle := front_left stable_nextFrame hfa
      rw [ih hle (hl rfl)]
      rfl

lemma length_of_waiting {buffer : Bytes} (h : nextFrame buffer = .waiting) :
    buffer.length < 4 + (kCommandHeaderBytes + kMaxCommandPayload) := by
  rw [nextFrame] at h
  split at h
  · rename_i hh
    exact Nat.lt_of_lt_of_le hh (Nat.le_add_right _ _)
  · split at h
    · cases h
    · rename_i hs
      split at h
      · rename_i hb
        simp only [invalidBodyBytes, not_or, Nat.not_lt] at hs
        omega
      · simp only at h
        split at h
        · cases h
        · split at h <;> cases h

lemma fits_of_short (hw : nextFrame parser.buffer = .waiting) (hs : ∀ segment ∈ segments, segment.length ≤
      kMaxTcpBufferedBytes - (4 + (kCommandHeaderBytes + kMaxCommandPayload))) : parser.Fits segments := by
  induction segments generalizing parser with
  | nil => trivial
  | cons segment segments ih =>
    have hb := length_of_waiting hw
    have hse := hs segment mem_cons_self
    have hr : parser.HasRoom segment := by
      simp only [HasRoom, kMaxTcpBufferedBytes, kCommandHeaderBytes, kMaxCommandPayload] at *
      omega
    refine ⟨hr, ?_⟩
    rw [feed_of_hasRoom hr]
    intro ha
    refine ih (front_left stable_nextFrame (by simpa using ha)) ?_
    exact fun later hl => hs later (mem_cons_of_mem _ hl)

lemma fits_of_length_le (h : parser.buffer.length + segments.flatten.length ≤ kMaxTcpBufferedBytes) :
    parser.Fits segments := by
  induction segments generalizing parser with
  | nil => trivial
  | cons segment segments ih =>
    rw [flatten_cons, length_append] at h
    have hr : parser.HasRoom segment := by
      rw [HasRoom]
      omega
    refine ⟨hr, ?_⟩
    rw [feed_of_hasRoom hr]
    intro _
    refine ih ?_
    have hl := @length_left_le TcpFrame nextFrame (parser.buffer ++ segment) stable_nextFrame
    rw [length_append] at hl
    simp only
    omega

end TcpFrameParser

/-! ## The two readers agree -/

/-- **The two readers judge alike**: where the parser waits the socket has ended, and where it finds a
frame or no frame, so does the blocking reader. -/
lemma receiveFrame_eq (socket : Bytes) : (nextFrame socket = .waiting → receiveFrame socket = .ended) ∧
      (nextFrame socket = .malformed → ∃ error, receiveFrame socket = .rejected error) ∧
      ∀ frame size, nextFrame socket = .frame frame size → receiveFrame socket = .frame frame (socket.drop size) := by
  rw [nextFrame, receiveFrame]
  by_cases hh : socket.length < 4
  · simp [hh]
  · by_cases hs : invalidBodyBytes (bodyBytesAt socket)
    · simp [hh, hs]
    · by_cases hb : socket.length < 4 + bodyBytesAt socket
      · have hr : (socket.drop 4).length < bodyBytesAt socket := by
          rw [length_drop]
          omega
        simp only [hh, hs, hb, hr, if_true, if_false]
        simp
      · have hr : ¬ (socket.drop 4).length < bodyBytesAt socket := by
          rw [length_drop]
          omega
        have hl : ((socket.drop 4).take (bodyBytesAt socket)).length = bodyBytesAt socket :=
          length_take_of_le (Nat.not_lt.mp hr)
        simp only [hh, hs, hb, hr, if_false, hl]
        cases decodeCommandHeader ((socket.drop 4).take (bodyBytesAt socket)) with
        | none => simp
        | some envelope =>
          by_cases hp : envelope.payloadBytes.toNat ≠ bodyBytesAt socket - kCommandHeaderBytes
          · simp [hp]
          · simp only [hp, if_false, drop_drop]
            simp

/-- **The blocking reader returns the frames of the stream**, and rejects what is no frame. -/
lemma receiveAll_eq (socket : Bytes) :
    receiveAll socket = ((cut nextFrame socket).frames, (cut nextFrame socket).failed) := by
  induction hleng : socket.length using Nat.strong_induction_on generalizing socket with
  | _ length ih =>
    obtain ⟨hended, hreje, hframe⟩ := receiveFrame_eq socket
    cases hfront : nextFrame socket with
    | waiting =>
      rw [receiveAll, hended hfront, cut_of_waiting hfront]
    | malformed =>
      obtain ⟨error, herror⟩ := hreje hfront
      rw [receiveAll, herror, cut_of_malformed hfront]
    | frame frame size =>
      obtain ⟨hpos, hsize, -⟩ := stable_nextFrame.frame hfront
      have hrest : (socket.drop size).length < socket.length := by
        rw [length_drop]
        omega
      rw [receiveAll, hframe frame size hfront, cut_of_frame stable_nextFrame hfront]
      simp only [hrest, dif_pos]
      rw [ih _ (hleng ▸ hrest) _ rfl]

variable {frame : TcpFrame}

lemma receiveFrame_eq_frame_iff {socket rest : Bytes} :
    receiveFrame socket = .frame frame rest ↔ receivePlainFrame.run socket = some (frame, rest) := by
  simp only [receivePlainFrame, run_bind_require_iff, run_bind_readLe_iff, run_bind_readBytes_iff,
    run_bind_ofOption_iff, run_pure_iff]
  constructor
  · intro h
    rw [receiveFrame] at h
    split at h
    · cases h
    · rename_i hhead
      split at h
      · cases h
      · rename_i hsize
        simp only [invalidBodyBytes, not_or, Nat.not_lt] at hsize
        split at h
        · cases h
        · rename_i hbody
          simp only at h
          split at h
          · cases h
          · rename_i envelope henve
            split at h
            · cases h
            · rename_i hpayl
              cases h
              have htake : (socket.take 4).length = Word.size UInt32 :=
                length_take_of_le (Nat.not_lt.mp hhead)
              have hleng : ((socket.drop 4).take (bodyBytesAt socket)).length = bodyBytesAt socket :=
                length_take_of_le (Nat.not_lt.mp hbody)
              refine ⟨Word.ofNat (leValue (socket.take 4)), socket.drop 4, ?_, hsize.1, hsize.2,
                (socket.drop 4).take (bodyBytesAt socket),
                (socket.drop 4).drop (bodyBytesAt socket), ?_, hleng, envelope, henve,
                not_not.mp hpayl, rfl, rfl⟩
              · rw [le_ofNat_leValue htake, take_append_drop]
              · rw [take_append_drop]
  · rintro ⟨bodyBytes, s1, rfl, hlow, hhigh, body, s2, rfl, hleng, envelope, henve, hpayl, rfl, rfl⟩
    have htake : (le bodyBytes ++ (body ++ s2)).take 4 = le bodyBytes :=
      take_left' (le_length bodyBytes)
    have hat : bodyBytesAt (le bodyBytes ++ (body ++ s2)) = bodyBytes.toNat := by
      rw [bodyBytesAt, htake, ofNat_leValue_le]
    have hdrop : (le bodyBytes ++ (body ++ s2)).drop 4 = body ++ s2 :=
      drop_left' (le_length bodyBytes)
    have hsize : ¬ invalidBodyBytes bodyBytes.toNat := by
      simp only [invalidBodyBytes, not_or, Nat.not_lt]
      exact ⟨hlow, hhigh⟩
    have hhead : ¬ (le bodyBytes ++ (body ++ s2)).length < 4 := by
      rw [length_append, le_length, size_uint32]
      omega
    have hbody : ¬ (body ++ s2).length < bodyBytes.toNat := by
      rw [length_append]
      omega
    rw [receiveFrame, if_neg hhead, hat, if_neg hsize, hdrop, if_neg hbody]
    simp only [take_left' hleng, drop_left' hleng, henve]
    rw [if_neg (not_not.mpr hpayl)]

open TcpFrameParser

/-- **A stream is cut into the same frames however it arrives.**  Whatever the feeds are, as long as
none exceeds the buffer, the parser yields the frames that the blocking reader returns one by one, and
is refused where the reader rejects a frame.  No feed exceeds the buffer if the stream as a whole does
not, in which case it may also come as one; or if every feed leaves room for one frame. -/
theorem parser_segmentation (stream : Bytes) (segments : List Bytes) (hstream : segments.flatten = stream) :
    (Fits {} segments →
      feedAll {} segments = ((receiveAll stream).1, !(receiveAll stream).2)) ∧
    (stream.length ≤ kMaxTcpBufferedBytes → feedAll {} segments = feedAll {} [stream] ∧
        Fits {} segments) ∧ ((∀ segment ∈ segments, segment.length ≤
      kMaxTcpBufferedBytes - (4 + (kCommandHeaderBytes + kMaxCommandPayload))) → Fits {} segments) := by
  have hfed : ∀ segments : List Bytes, segments.flatten = stream → Fits {} segments →
      feedAll {} segments = ((receiveAll stream).1, !(receiveAll stream).2) := by
    intro segments hflatten hfits
    rw [feedAll_eq rfl hfits, List.nil_append, hflatten, receiveAll_eq]
  refine ⟨hfed segments hstream, ?_, fits_of_short rfl⟩
  intro hlength
  have hwhole : ∀ segments : List Bytes, segments.flatten = stream → Fits {} segments := by
    intro segments hflatten
    refine fits_of_length_le ?_
    rw [hflatten, List.length_nil, Nat.zero_add]
    exact hlength
  have hone : [stream].flatten = stream := List.flatten_singleton
  refine ⟨?_, hwhole segments hstream⟩
  rw [hfed segments hstream (hwhole segments hstream), hfed [stream] hone (hwhole [stream] hone)]

/-- A heartbeat in two pieces, cut inside its length prefix. -/
theorem parser_segmentation_heartbeat :
    feedAll {} [(plainFrame .heartbeat 1 []).take 3, (plainFrame .heartbeat 1 []).drop 3] =
      feedAll {} [plainFrame .heartbeat 1 []] :=
  ((parser_segmentation (plainFrame .heartbeat 1 [])
    [(plainFrame .heartbeat 1 []).take 3, (plainFrame .heartbeat 1 []).drop 3] (by decide)).2.1
    (by decide)).1

/-- Four frames of the greatest length are more than the parser takes at once; one by one they are all
read. -/
lemma feedAll_four_ne {wire : Bytes} (hframe : frame.WellFormed)
    (hwire : wire = encodeTcpFrame frame.envelope frame.payload) (hleng : wire.length = 65560) :
    feedAll {} [wire, wire, wire, wire] ≠
      feedAll {} [[wire, wire, wire, wire].flatten] := by
  have hfits : Fits {} [wire, wire, wire, wire] := by
    refine fits_of_short rfl ?_
    intro segment hsegm
    have hsame : segment = wire := by simpa using hsegm
    rw [hsame, hleng]
    decide
  have hrefu : feedAll {} [[wire, wire, wire, wire].flatten] = ([], false) := by
    have hroom : ¬ HasRoom {} [wire, wire, wire, wire].flatten := by
      simp only [HasRoom, flatten_cons, flatten_nil, length_append,
        length_nil, hleng]
      decide
    rw [feedAll, feed, if_pos hroom]
    rfl
  have hread : receiveFrame [wire, wire, wire, wire].flatten = .frame frame [wire, wire, wire].flatten := by
    refine receiveFrame_eq_frame_iff.mpr (run_receivePlainFrame_iff.mpr ⟨hframe, ?_⟩)
    rw [← hwire, flatten_cons]
  have hshor : ([wire, wire, wire].flatten).length < ([wire, wire, wire, wire].flatten).length := by
    simp only [flatten_cons, flatten_nil, length_append, length_nil, hleng]
    decide
  rw [feedAll_eq rfl hfits, hrefu, nil_append]
  have hfram := receiveAll_eq [wire, wire, wire, wire].flatten
  rw [receiveAll, hread] at hfram
  simp only [hshor, dif_pos] at hfram
  intro hequal
  rw [Prod.mk.injEq] at hfram hequal
  rw [hequal.1] at hfram
  exact cons_ne_nil _ _ hfram.1

/-- A frame of the greatest length. -/
def longFrame : TcpFrame := ⟨⟨kCommandVersion, .heartbeat, 65536, 0⟩, List.replicate 65536 0⟩

lemma wellFormed_longFrame : longFrame.WellFormed where
  version := rfl
  length := length_replicate.symm
  bound := Nat.le_of_eq length_replicate

lemma length_longWire : (encodeTcpFrame longFrame.envelope longFrame.payload).length = 65560 := by
  have hp : longFrame.payload.length = 65536 := length_replicate
  rw [encodeTcpFrame_of_wellFormed wellFormed_longFrame, length_append, le_length,
    length_append, length_encodeCommandHeader, hp, size_uint32, kCommandHeaderBytes]

/-- What one feed holds does matter: four long frames. -/
theorem parser_segmentation_not_always : ¬ ∀ (stream : Bytes) (segments : List Bytes), segments.flatten = stream →
      feedAll {} segments = feedAll {} [stream] := by
  intro h
  exact feedAll_four_ne wellFormed_longFrame rfl length_longWire (h _ _ rfl)

end Nstu.Control
