import Nstu.Video.Transport

/-!
# The reassembly of video frames

`FrameReassembler` of `frame_reassembler.cpp`.  Times are counts of the steady clock.

A frame of which some fragments have come in is a `PartialFrame`.  It lives until its last fragment is
there or its deadline is over; a frame that is complete is remembered for a while, so that a fragment which
comes late is told from one of a new frame.
-/

namespace Nstu.Video

open Wire

/-! ## Data -/

structure ReassemblyLimits where
  maxFramesInFlight : ℕ := 8
  maxFragmentsPerFrame : UInt16 := 4096
  maxFragmentPayload : ℕ := 1400
  maxFrameBytes : ℕ := 4 * 1024 * 1024
  maxTotalBufferedBytes : ℕ := 8 * 1024 * 1024
  frameDeadline : ℤ := 150 * 1000000

structure CompletedFrame where
  streamId : UInt32
  frameId : UInt64
  captureTime100ns : UInt64
  keyframe : Bool
  payload : Bytes
  deriving DecidableEq

inductive FragmentDisposition where
  | uninitialized
  | accepted
  | duplicate
  | frameComplete
  | lateCompletedFrame
  | wrongStream
  | invalid
  | resourceLimit
  deriving DecidableEq

structure ReassemblyResult where
  disposition : FragmentDisposition := .invalid
  frame : Option CompletedFrame := none
  deriving DecidableEq

structure FrameReassemblyStats where
  acceptedFragments : ℕ := 0
  duplicateFragments : ℕ := 0
  lateCompletedFrameFragments : ℕ := 0
  conflictingFragments : ℕ := 0
  invalidFragments : ℕ := 0
  completedFrames : ℕ := 0
  expiredIncompleteFrames : ℕ := 0
  resourceDroppedFrames : ℕ := 0
  resourceLimitRejections : ℕ := 0
  bufferedBytes : ℕ := 0
  peakBufferedBytes : ℕ := 0

structure PartialFrame where
  fragmentCount : UInt16
  receivedCount : ℕ := 0
  captureTime100ns : UInt64
  keyframe : Bool
  totalBytes : ℕ := 0
  deadline : ℤ
  fragments : List Bytes
  received : List Bool

/-- Limits as the constructor of the reassembler leaves them. -/
structure ClampedLimits extends ReassemblyLimits where
  frames_pos : 1 ≤ maxFramesInFlight
  frame_le_total : maxFrameBytes ≤ maxTotalBufferedBytes
  deadline_pos : 0 < frameDeadline

structure FrameReassembler where
  limits : ClampedLimits
  streamId : UInt32 := 0
  streamSet : Bool := false
  frames : List (UInt64 × PartialFrame) := []
  completedOrder : List UInt64 := []
  completedRecent : List UInt64 := []
  stats : FrameReassemblyStats := {}

/-- What the constructor makes of limits. -/
def clampLimits (limits : ReassemblyLimits) : ClampedLimits :=
  let payload := max 1 (min limits.maxFragmentPayload 65507)
  let frameBytes := max limits.maxFrameBytes payload
  { maxFramesInFlight := max 1 (min limits.maxFramesInFlight 64)
    maxFragmentsPerFrame := clampFragments limits.maxFragmentsPerFrame
    maxFragmentPayload := payload
    maxFrameBytes := frameBytes
    maxTotalBufferedBytes := max limits.maxTotalBufferedBytes frameBytes
    frameDeadline := max limits.frameDeadline 1000000
    frames_pos := Nat.le_max_left ..
    frame_le_total := Nat.le_max_right ..
    deadline_pos := by omega }

namespace FrameReassembler

/-- The constructor. -/
def new (limits : ReassemblyLimits) : FrameReassembler := { limits := clampLimits limits }

def reset (reassembler : FrameReassembler) (streamId : UInt32) : FrameReassembler :=
  { limits := reassembler.limits
    streamId := streamId
    streamSet := true }

/-! ## Steps of `push` -/

def expire (reassembler : FrameReassembler) (now : ℤ) : FrameReassembler :=
  let expired := reassembler.frames.filter fun entry => entry.2.deadline ≤ now
  { reassembler with
    frames := reassembler.frames.filter fun entry => now < entry.2.deadline
    stats :=
      { reassembler.stats with
        bufferedBytes := reassembler.stats.bufferedBytes - (expired.map fun entry => entry.2.totalBytes).sum
        expiredIncompleteFrames := reassembler.stats.expiredIncompleteFrames + expired.length } }

/-- A fragment that fits into no frame. -/
def isInvalid (limits : ClampedLimits) (header : VideoPacketHeader) (payload : Bytes) : Bool :=
  header.version ≠ kVideoVersion || header.fragmentCount = 0 || limits.maxFragmentsPerFrame < header.fragmentCount ||
    header.fragmentCount ≤ header.fragmentIndex || header.payloadBytes.toNat ≠ payload.length || payload.isEmpty ||
    limits.maxFragmentPayload < payload.length ||
    hasFlag header.flags .endOfFrame !=
      (header.fragmentCount != 0 && header.fragmentIndex.toNat == header.fragmentCount.toNat - 1)

/-- A frame of which nothing has come in. -/
def startFrame (limits : ClampedLimits) (header : VideoPacketHeader) (now : ℤ) : PartialFrame where
  fragmentCount := header.fragmentCount
  captureTime100ns := header.captureTime100ns
  keyframe := hasFlag header.flags .keyframe
  deadline := now + limits.frameDeadline
  fragments := List.replicate header.fragmentCount.toNat []
  received := List.replicate header.fragmentCount.toNat false

/-- A fragment is put into its place. -/
def storeFragment (frame : PartialFrame) (header : VideoPacketHeader) (payload : Bytes) : PartialFrame :=
  { frame with
    fragments := frame.fragments.set header.fragmentIndex.toNat payload
    received := frame.received.set header.fragmentIndex.toNat true
    receivedCount := frame.receivedCount + 1
    totalBytes := frame.totalBytes + payload.length
    keyframe := frame.keyframe || hasFlag header.flags .keyframe }

def setFrame (frames : List (UInt64 × PartialFrame)) (id : UInt64) (frame : PartialFrame) :
    List (UInt64 × PartialFrame) :=
  frames.map fun entry => if entry.1 = id then (id, frame) else entry

def eraseFrame (frames : List (UInt64 × PartialFrame)) (id : UInt64) : List (UInt64 × PartialFrame) :=
  frames.filter fun entry => entry.1 ≠ id

/-- The loop of `remember_completed` that keeps the list short. -/
def trimCompleted : List UInt64 → List UInt64 → List UInt64 × List UInt64
  | [], recent => ([], recent)
  | id :: order, recent =>
    if 64 < (id :: order).length then trimCompleted order (recent.erase id) else (id :: order, recent)

def rememberCompleted (reassembler : FrameReassembler) (id : UInt64) : FrameReassembler :=
  let trimmed := trimCompleted (reassembler.completedOrder ++ [id]) (reassembler.completedRecent.insert id)
  { reassembler with completedOrder := trimmed.1, completedRecent := trimmed.2 }

def dropFrame (reassembler : FrameReassembler) (id : UInt64) (frame : PartialFrame) : FrameReassembler :=
  { reassembler with
    frames := eraseFrame reassembler.frames id
    stats :=
      { reassembler.stats with
        bufferedBytes := reassembler.stats.bufferedBytes - frame.totalBytes
        resourceDroppedFrames := reassembler.stats.resourceDroppedFrames + 1 } }

/-- There is no room for so many more bytes. -/
def isFull (reassembler : FrameReassembler) (frame : PartialFrame) (bytes : ℕ) : Bool :=
  bytes > reassembler.limits.maxFrameBytes - min frame.totalBytes reassembler.limits.maxFrameBytes ||
    bytes > reassembler.limits.maxTotalBufferedBytes -
      min reassembler.stats.bufferedBytes reassembler.limits.maxTotalBufferedBytes

/-- The frame is complete, and handed out. -/
def complete (reassembler : FrameReassembler) (id : UInt64) (frame : PartialFrame) :
    FrameReassembler × ReassemblyResult :=
  (rememberCompleted
    { reassembler with
      frames := eraseFrame reassembler.frames id
      stats :=
        { reassembler.stats with
          bufferedBytes := reassembler.stats.bufferedBytes - frame.totalBytes
          completedFrames := reassembler.stats.completedFrames + 1 } } id,
    ⟨.frameComplete, some
      { streamId := reassembler.streamId
        frameId := id
        captureTime100ns := frame.captureTime100ns
        keyframe := frame.keyframe
        payload := frame.fragments.flatten }⟩)

def countConflict (reassembler : FrameReassembler) : FrameReassembler × ReassemblyResult :=
  ({ reassembler with
    stats := { reassembler.stats with conflictingFragments := reassembler.stats.conflictingFragments + 1 } },
    ⟨.invalid, none⟩)

/-- A valid fragment of a frame that is in flight. -/
def pushInto (reassembler : FrameReassembler) (header : VideoPacketHeader) (payload : Bytes) (frame : PartialFrame) :
    FrameReassembler × ReassemblyResult :=
  if frame.fragmentCount ≠ header.fragmentCount ∨ frame.captureTime100ns ≠ header.captureTime100ns then
    reassembler.countConflict
  else if frame.received.getD header.fragmentIndex.toNat false then
    if frame.fragments.getD header.fragmentIndex.toNat [] = payload then
      ({ reassembler with
        stats := { reassembler.stats with duplicateFragments := reassembler.stats.duplicateFragments + 1 } },
        ⟨.duplicate, none⟩)
    else reassembler.countConflict
  else if reassembler.isFull frame payload.length then
    (reassembler.dropFrame header.frameId frame, ⟨.resourceLimit, none⟩)
  else
    let frame := storeFragment frame header payload
    let buffered := reassembler.stats.bufferedBytes + payload.length
    let reassembler :=
      { reassembler with
        frames := setFrame reassembler.frames header.frameId frame
        stats :=
          { reassembler.stats with
            acceptedFragments := reassembler.stats.acceptedFragments + 1
            bufferedBytes := buffered
            peakBufferedBytes := max reassembler.stats.peakBufferedBytes buffered } }
    if frame.receivedCount ≠ frame.fragmentCount.toNat then (reassembler, ⟨.accepted, none⟩)
    else reassembler.complete header.frameId frame

/-- A valid fragment of a frame that has not been completed. -/
def pushFragment (reassembler : FrameReassembler) (header : VideoPacketHeader) (payload : Bytes) (now : ℤ) :
    FrameReassembler × ReassemblyResult :=
  match reassembler.frames.lookup header.frameId with
  | some frame => reassembler.pushInto header payload frame
  | none =>
    if reassembler.limits.maxFramesInFlight ≤ reassembler.frames.length then
      ({ reassembler with
        stats :=
          { reassembler.stats with resourceLimitRejections := reassembler.stats.resourceLimitRejections + 1 } },
        ⟨.resourceLimit, none⟩)
    else
      let frame := startFrame reassembler.limits header now
      { reassembler with frames := reassembler.frames ++ [(header.frameId, frame)] }.pushInto header payload frame

def push (reassembler : FrameReassembler) (header : VideoPacketHeader) (payload : Bytes) (now : ℤ) :
    FrameReassembler × ReassemblyResult :=
  let reassembler := reassembler.expire now
  if !reassembler.streamSet then (reassembler, ⟨.uninitialized, none⟩)
  else if header.streamId ≠ reassembler.streamId then (reassembler, ⟨.wrongStream, none⟩)
  else if isInvalid reassembler.limits header payload then
    ({ reassembler with
      stats := { reassembler.stats with invalidFragments := reassembler.stats.invalidFragments + 1 } },
      ⟨.invalid, none⟩)
  else if header.frameId ∈ reassembler.completedRecent then
    ({ reassembler with
      stats :=
        { reassembler.stats with
          lateCompletedFrameFragments := reassembler.stats.lateCompletedFrameFragments + 1 } },
      ⟨.lateCompletedFrame, none⟩)
  else reassembler.pushFragment header payload now

/-- Datagrams that come in one by one, each at its time. -/
def pushAll (reassembler : FrameReassembler) : List (VideoDatagram × ℤ) → List ReassemblyResult
  | [] => []
  | (datagram, now) :: rest =>
    let pushed := reassembler.push datagram.header datagram.payload now
    pushed.2 :: pushed.1.pushAll rest

end FrameReassembler

end Nstu.Video
