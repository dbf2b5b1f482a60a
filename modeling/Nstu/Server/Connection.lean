import Nstu.Control.Parser

/-!
# The bytes of a connection

`ServerControlPlane::on_bytes` and `process_frame` of `control_plane.cpp`.  A connection begins with a
preamble or with a frame, and the first bytes tell which; from then on its frames go to the handler of
the stage it is in.

What a handler does with a frame, to the connection and to the server behind it, is left open: nothing
here depends on it.  `deliver` hands over one segment after the other, up to the first failure.
`deliver_of_failed_eq_false` says that on a stream of frames it does what the frames do one after the
other, so that the cuts do not matter; `connection_segmentation` puts the beginning of the stream before
that.
-/

namespace Nstu.Control.CommandType

def pairingHello : CommandType := ⟨38⟩

end Nstu.Control.CommandType

namespace Nstu.Server

open Wire Framing Control

/-- `ServerControlPlane::Impl::Stage`. -/
inductive Stage where
  | initial
  | enrollment
  | enrollmentComplete
  | probeComplete
  | pairingOffered
  | pairingPending
  | authHello
  | authProof
  | authenticated
  deriving DecidableEq

/-- The part of a connection's state that its handlers work on, with whatever they reach through it:
the server, its clock and its randomness. -/
structure Peer (σ : Type) where
  stage : Stage
  preamble : ConnectionPreamble
  session : σ
  deriving DecidableEq

/-- What a handler makes of a frame.  None leads back to the initial stage. -/
structure Handled (σ : Type) where
  peer : Peer σ
  replies : List Bytes
  ok : Bool
  entered : peer.stage ≠ .initial

/-- The handlers of the stages, and what the connection asks of the dispatcher. -/
structure Handlers (σ : Type) where
  processPairingHello : Peer σ → TcpFrame → Handled σ
  processEnrollment : Peer σ → TcpFrame → Handled σ
  processPairingConfirm : Peer σ → TcpFrame → Handled σ
  processPairingWait : Peer σ → TcpFrame → Handled σ
  processAuthHello : Peer σ → TcpFrame → Handled σ
  processAuthProof : Peer σ → TcpFrame → Handled σ
  processAuthenticated : Peer σ → TcpFrame → Handled σ
  failHandshake : σ → String → σ
  disconnect : σ → σ
  send : σ → Bytes → Option σ

/-- What was done from one state to the next: the frames handed to `process_frame`, the stages entered,
the replies sent, and whether it may go on. -/
structure Turn (τ : Type) where
  state : τ
  handed : List TcpFrame
  stages : List Stage
  replies : List Bytes
  ok : Bool
  deriving DecidableEq

namespace Turn

variable {τ υ : Type}

def idle (state : τ) : Turn τ := ⟨state, [], [], [], true⟩

def failed (state : τ) : Turn τ := ⟨state, [], [], [], false⟩

def map (f : τ → υ) (turn : Turn τ) : Turn υ :=
  ⟨f turn.state, turn.handed, turn.stages, turn.replies, turn.ok⟩

/-- Go on, unless something has failed. -/
def andThen (turn : Turn τ) (next : τ → Turn τ) : Turn τ :=
  if turn.ok then
    let later := next turn.state
    ⟨later.state, turn.handed ++ later.handed, turn.stages ++ later.stages, turn.replies ++ later.replies, later.ok⟩
  else turn

/-- A stage is entered first. -/
def entering (stage : Stage) (turn : Turn τ) : Turn τ := { turn with stages := stage :: turn.stages }

/-- All that is seen of one turn is seen first in another. -/
structure InitialPart (first : Turn τ) (whole : Turn υ) : Prop where
  handed : first.handed <+: whole.handed
  stages : first.stages <+: whole.stages
  replies : first.replies <+: whole.replies

end Turn

/-! ## Handing out the frames -/

section Frames

variable {σ : Type} (handlers : Handlers σ)

def Handled.turn (frame : TcpFrame) (handled : Handled σ) : Turn (Peer σ) :=
  ⟨handled.peer, [frame], [handled.peer.stage], handled.replies, handled.ok⟩

def processFrame (peer : Peer σ) (frame : TcpFrame) : Turn (Peer σ) :=
  match peer.stage with
  | .enrollment =>
    if frame.envelope.type = .pairingHello then
      (handlers.processPairingHello peer frame).turn frame
    else (handlers.processEnrollment peer frame).turn frame
  | .pairingOffered => (handlers.processPairingConfirm peer frame).turn frame
  | .pairingPending => (handlers.processPairingWait peer frame).turn frame
  | .enrollmentComplete | .probeComplete =>
    ⟨{ peer with session := handlers.disconnect peer.session }, [frame], [peer.stage], [], false⟩
  | .authHello => (handlers.processAuthHello peer frame).turn frame
  | .authProof => (handlers.processAuthProof peer frame).turn frame
  | .authenticated => (handlers.processAuthenticated peer frame).turn frame
  | .initial =>
    ⟨{ peer with session := handlers.failHandshake peer.session "unexpected control-plane state" },
      [frame], [peer.stage], [], false⟩

/-- The loop at the end of `on_bytes`. -/
def processFrames (peer : Peer σ) : List TcpFrame → Turn (Peer σ)
  | [] => .idle peer
  | frame :: frames =>
    (processFrame handlers peer frame).andThen fun peer => processFrames peer frames

end Frames

/-! ## The beginning of a stream -/

/-- What the first bytes of a stream say. -/
inductive Opening where
  | unknown
  | refused
  | diagnostic
  | client (preamble : ConnectionPreamble)
  | enrollment
  deriving DecidableEq

def readOpening (buffer : Bytes) : Opening :=
  if buffer.length < 4 then .unknown
  else if (Word.ofNat (leValue (buffer.take 4)) : UInt32) = kMagic then
    if buffer.length < kConnectionPreambleBytes then .unknown
    else
      match decodeConnectionPreamble (buffer.take kConnectionPreambleBytes) with
      | none => .refused
      | some preamble =>
        match preamble.role with
        | .diagnostic => .diagnostic
        | .server => .refused
        | .client => .client preamble
  else .enrollment

/-- The bytes of a stream that its frames are in. -/
def bodyOf (stream : Bytes) : Bytes :=
  match readOpening stream with
  | .client _ => stream.drop kConnectionPreambleBytes
  | .enrollment => stream
  | _ => []

/-! ## The connection -/

structure Connection (σ : Type) where
  peer : Peer σ
  initialBuffer : Bytes := []
  parser : TcpFrameParser := {}
  deriving DecidableEq

/-- A connection that does not know yet what its first bytes are. -/
def Connection.waiting {σ : Type} (session : σ) (buffer : Bytes) : Connection σ :=
  ⟨⟨.initial, {}, session⟩, buffer, {}⟩

/-- A connection that has just been accepted. -/
def Connection.fresh {σ : Type} (session : σ) : Connection σ := .waiting session []

section OnBytes

variable {σ : Type} (handlers : Handlers σ)

def Connection.fail (connection : Connection σ) (detail : String) : Turn (Connection σ) :=
  .failed { connection with peer :=
    { connection.peer with session := handlers.failHandshake connection.peer.session detail } }

/-- The second half of `on_bytes`: the bytes are those of frames. -/
def Connection.feed (connection : Connection σ) (bytes : Bytes) : Turn (Connection σ) :=
  if bytes = [] then .idle connection
  else
    let result := connection.parser.feed bytes
    let connection := { connection with parser := result.parser }
    if result.accepted then
      (processFrames handlers connection.peer result.frames).map fun peer => { connection with peer }
    else connection.fail handlers "invalid control framing"

/-- The connection after the opening, with the stage it enters. -/
def Connection.opened (connection : Connection σ) (stage : Stage) (preamble : ConnectionPreamble) :
    Connection σ :=
  { connection with peer := { connection.peer with stage, preamble }, initialBuffer := [] }

def Connection.probe (connection : Connection σ) : Turn (Connection σ) :=
  let response := encodeConnectionPreamble { role := .server }
  match if response = [] then none else handlers.send connection.peer.session response with
  | none => connection.fail handlers "diagnostic response could not be sent"
  | some session =>
    let peer := { connection.peer with session, stage := .probeComplete }
    ⟨{ connection with peer, initialBuffer := [] }, [], [.probeComplete], [response], true⟩

def onBytes (connection : Connection σ) (bytes : Bytes) : Turn (Connection σ) :=
  if connection.peer.stage = .initial then
    let buffer := connection.initialBuffer ++ bytes
    let connection := { connection with initialBuffer := buffer }
    match readOpening buffer with
    | .unknown => .idle connection
    | .refused => connection.fail handlers "invalid client preamble"
    | .diagnostic => connection.probe handlers
    | .client preamble =>
      ((connection.opened .authHello preamble).feed handlers
        (buffer.drop kConnectionPreambleBytes)).entering .authHello
    | .enrollment =>
      ((connection.opened .enrollment connection.peer.preamble).feed handlers buffer).entering .enrollment
  else connection.feed handlers bytes

/-- The segments of a stream, up to the first failure. -/
def deliver (connection : Connection σ) : List Bytes → Turn (Connection σ)
  | [] => .idle connection
  | segment :: segments =>
    (onBytes handlers connection segment).andThen fun connection => deliver connection segments

/-- The bytes that a segment brings to the parser. -/
def Connection.fed (connection : Connection σ) (segment : Bytes) : Bytes :=
  if connection.peer.stage = .initial then bodyOf (connection.initialBuffer ++ segment) else segment

/-- No segment brings more to the parser than it has room for, up to the first failure. -/
def Fits (connection : Connection σ) : List Bytes → Prop
  | [] => True
  | segment :: segments =>
    connection.parser.HasRoom (connection.fed segment) ∧ ((onBytes handlers connection segment).ok = true →
        Fits (onBytes handlers connection segment).state segments)

end OnBytes

/-! ## Turns -/

namespace Turn

variable {τ υ : Type}

@[simp] lemma idle_andThen (state : τ) (next : τ → Turn τ) : (idle state).andThen next = next state := rfl

@[simp] lemma entering_andThen (stage : Stage) (turn : Turn τ) (next : τ → Turn τ) :
    (turn.entering stage).andThen next = (turn.andThen next).entering stage := by
  cases ho : turn.ok with
  | true => simp only [andThen, entering, ho, if_true, List.cons_append]
  | false => simp only [andThen, entering, ho, Bool.false_eq_true, if_false]

@[simp] lemma entering_map (stage : Stage) (turn : Turn τ) (f : τ → υ) :
    (turn.entering stage).map f = (turn.map f).entering stage := rfl

lemma andThen_assoc (turn : Turn τ) (next later : τ → Turn τ) :
    (turn.andThen next).andThen later = turn.andThen fun state => (next state).andThen later := by
  simp only [andThen]
  split
  · split
    · simp only [List.append_assoc]
    · rfl
  · rfl

lemma handed_andThen_prefix (turn : Turn τ) (next : τ → Turn τ) : turn.handed <+: (turn.andThen next).handed := by
  rw [andThen]
  split
  · exact List.prefix_append _ _
  · exact List.prefix_rfl

variable {turn : Turn τ} {next : υ → Turn υ} {next' : τ → Turn τ} {g : τ → υ}

lemma map_andThen {f : υ → τ} (hi : ∀ state, f (g state) = state)
    (hn : turn.ok → (next (g turn.state)).map f = next' turn.state) :
    ((turn.map g).andThen next).map f = turn.andThen next' := by
  cases ho : turn.ok with
  | true =>
    simp only [andThen, map, ho, if_true, ← hn ho]
  | false =>
    simp only [andThen, map, ho, Bool.false_eq_true, if_false, hi]
    rw [← ho]

lemma InitialPart.andThen (h : turn.ok → InitialPart (next (g turn.state)) (next' turn.state)) :
    InitialPart ((turn.map g).andThen next) (turn.andThen next') := by
  cases ho : turn.ok with
  | true =>
    obtain ⟨hh, hs, hr⟩ := h ho
    simp only [Turn.andThen, map, ho, if_true]
    exact ⟨(List.prefix_append_right_inj _).mpr hh, (List.prefix_append_right_inj _).mpr hs,
      (List.prefix_append_right_inj _).mpr hr⟩
  | false =>
    simp only [Turn.andThen, map, ho, Bool.false_eq_true, if_false]
    exact ⟨List.prefix_rfl, List.prefix_rfl, List.prefix_rfl⟩

lemma InitialPart.entering {first : Turn τ} {whole : Turn υ} (stage : Stage)
    (h : InitialPart first whole) : InitialPart (first.entering stage) (whole.entering stage) where
  handed := h.handed
  stages := (List.cons_prefix_cons).mpr ⟨rfl, h.stages⟩
  replies := h.replies

end Turn

section Segments

variable {σ : Type} {handlers : Handlers σ} {connection : Connection σ}

variable {peer : Peer σ}

lemma processFrame_stage (h : peer.stage ≠ .initial) (frame : TcpFrame) :
    (processFrame handlers peer frame).state.stage ≠ .initial := by
  cases hs : peer.stage with
  | initial => exact absurd hs h
  | enrollment =>
    simp only [processFrame, hs]
    split
    · exact (handlers.processPairingHello peer frame).entered
    · exact (handlers.processEnrollment peer frame).entered
  | enrollmentComplete | probeComplete =>
    simp only [processFrame, hs, ne_eq]
    decide
  | pairingOffered =>
    simp only [processFrame, hs]
    exact (handlers.processPairingConfirm peer frame).entered
  | pairingPending =>
    simp only [processFrame, hs]
    exact (handlers.processPairingWait peer frame).entered
  | authHello =>
    simp only [processFrame, hs]
    exact (handlers.processAuthHello peer frame).entered
  | authProof =>
    simp only [processFrame, hs]
    exact (handlers.processAuthProof peer frame).entered
  | authenticated =>
    simp only [processFrame, hs]
    exact (handlers.processAuthenticated peer frame).entered

lemma handed_processFrame (peer : Peer σ) (frame : TcpFrame) : (processFrame handlers peer frame).handed = [frame] := by
  rw [processFrame]
  split
  · split <;> rfl
  all_goals rfl

/-- **No frame leads back to the initial stage.** -/
lemma processFrames_stage (h : peer.stage ≠ .initial) (frames : List TcpFrame) :
    (processFrames handlers peer frames).state.stage ≠ .initial := by
  induction frames generalizing peer with
  | nil => exact h
  | cons frame frames ih =>
    have hf : (processFrame handlers peer frame).state.stage ≠ .initial := processFrame_stage h frame
    rw [processFrames, Turn.andThen]
    split
    · exact ih hf
    · exact hf

lemma processFrames_append (peer : Peer σ) (frames later : List TcpFrame) :
    processFrames handlers peer (frames ++ later) =
      (processFrames handlers peer frames).andThen fun peer => processFrames handlers peer later := by
  induction frames generalizing peer with
  | nil => rfl
  | cons frame frames ih =>
    rw [List.cons_append, processFrames, processFrames, Turn.andThen_assoc]
    simp only [ih]

/-! ## Segments of frames -/

lemma feed_of_failed_eq_false {bytes : Bytes} (hw : nextFrame connection.parser.buffer = .waiting)
    (hr : connection.parser.HasRoom bytes)
    (hc : (cut nextFrame (connection.parser.buffer ++ bytes)).failed = false) :
    connection.feed handlers bytes = (processFrames handlers connection.peer
        (cut nextFrame (connection.parser.buffer ++ bytes)).frames).map fun peer =>
          { connection with peer, parser := ⟨(cut nextFrame (connection.parser.buffer ++ bytes)).left⟩ } := by
  rw [Connection.feed]
  split
  · rename_i he
    rw [he, List.append_nil, cut_of_waiting hw]
    rfl
  · rw [TcpFrameParser.feed_of_hasRoom hr]
    simp only [hc, Bool.not_false, if_true]

lemma feed_of_failed {bytes : Bytes} (hw : nextFrame connection.parser.buffer = .waiting)
    (hr : connection.parser.HasRoom bytes)
    (hc : (cut nextFrame (connection.parser.buffer ++ bytes)).failed) :
    ∃ state, connection.feed handlers bytes = .failed state := by
  rw [Connection.feed]
  split
  · rename_i he
    rw [he, List.append_nil, cut_of_waiting hw] at hc
    cases hc
  · rw [TcpFrameParser.feed_of_hasRoom hr]
    simp only [hc, Bool.not_true, Bool.false_eq_true, if_false]
    exact ⟨_, rfl⟩

lemma onBytes_of_stage (h : connection.peer.stage ≠ .initial) (bytes : Bytes) :
    onBytes handlers connection bytes = connection.feed handlers bytes := by
  rw [onBytes, if_neg h]

lemma fed_of_stage (h : connection.peer.stage ≠ .initial) (bytes : Bytes) : connection.fed bytes = bytes := by
  rw [Connection.fed, if_neg h]

lemma between {bytes : Bytes} (hs : connection.peer.stage ≠ .initial)
    (hc : (cut nextFrame (connection.parser.buffer ++ bytes)).failed = false) (frames : List TcpFrame) :
    (processFrames handlers connection.peer frames).state.stage ≠ .initial ∧
      nextFrame (cut nextFrame (connection.parser.buffer ++ bytes)).left = .waiting :=
  ⟨processFrames_stage hs frames, front_left stable_nextFrame hc⟩

/-- **On a stream of frames the cuts do not matter.** -/
lemma deliver_of_failed_eq_false {segments : List Bytes} (hstage : connection.peer.stage ≠ .initial)
    (hwait : nextFrame connection.parser.buffer = .waiting) (hfits : Fits handlers connection segments)
    (hcut : (cut nextFrame (connection.parser.buffer ++ segments.flatten)).failed = false) :
    (deliver handlers connection segments).map Connection.peer = processFrames handlers connection.peer
        (cut nextFrame (connection.parser.buffer ++ segments.flatten)).frames := by
  induction segments generalizing connection with
  | nil =>
    rw [List.flatten_nil, List.append_nil, cut_of_waiting hwait]
    rfl
  | cons segment segments ih =>
    obtain ⟨hroom, hlater⟩ := hfits
    rw [fed_of_stage hstage] at hroom
    rw [onBytes_of_stage hstage] at hlater
    rw [List.flatten_cons, ← List.append_assoc, cut_append stable_nextFrame, Cut.andThen] at hcut ⊢
    cases hfirst : (cut nextFrame (connection.parser.buffer ++ segment)).failed with
    | true =>
      rw [hfirst, if_pos rfl, hfirst] at hcut
      cases hcut
    | false =>
      simp only [hfirst, Bool.false_eq_true, if_false] at hcut ⊢
      rw [deliver, onBytes_of_stage hstage, processFrames_append]
      rw [feed_of_failed_eq_false hwait hroom hfirst] at hlater ⊢
      refine Turn.map_andThen (fun _ => rfl) ?_
      intro hok
      obtain ⟨hstage', hwait'⟩ := between hstage hfirst
        (cut nextFrame (connection.parser.buffer ++ segment)).frames
      exact ih hstage' hwait' (hlater hok) hcut

/-- **With a framing error in the stream the connection fails**, and has handed out no more than the
frames before the error. -/
lemma deliver_of_failed {segments : List Bytes} (hstage : connection.peer.stage ≠ .initial)
    (hwait : nextFrame connection.parser.buffer = .waiting) (hfits : Fits handlers connection segments)
    (hcut : (cut nextFrame (connection.parser.buffer ++ segments.flatten)).failed) :
    (deliver handlers connection segments).ok = false ∧
      (deliver handlers connection segments).InitialPart (processFrames handlers connection.peer
        (cut nextFrame (connection.parser.buffer ++ segments.flatten)).frames) := by
  induction segments generalizing connection with
  | nil =>
    rw [List.flatten_nil, List.append_nil, cut_of_waiting hwait] at hcut
    cases hcut
  | cons segment segments ih =>
    obtain ⟨hroom, hlater⟩ := hfits
    rw [fed_of_stage hstage] at hroom
    rw [onBytes_of_stage hstage] at hlater
    rw [List.flatten_cons, ← List.append_assoc, cut_append stable_nextFrame, Cut.andThen] at hcut ⊢
    rw [deliver, onBytes_of_stage hstage]
    cases hfirst : (cut nextFrame (connection.parser.buffer ++ segment)).failed with
    | true =>
      obtain ⟨state, hfail⟩ := @feed_of_failed σ handlers connection segment hwait hroom hfirst
      rw [hfail]
      exact ⟨rfl, List.nil_prefix, List.nil_prefix, List.nil_prefix⟩
    | false =>
      simp only [hfirst, Bool.false_eq_true, if_false] at hcut ⊢
      obtain ⟨hstage', hwait'⟩ := @between σ handlers connection segment hstage hfirst
        (cut nextFrame (connection.parser.buffer ++ segment)).frames
      rw [feed_of_failed_eq_false hwait hroom hfirst] at hlater ⊢
      rw [processFrames_append]
      constructor
      · rw [Turn.andThen]
        split
        · rename_i hok
          exact (ih hstage' hwait' (hlater hok) hcut).1
        · rename_i hok
          exact Bool.not_eq_true _ |>.mp hok
      · refine Turn.InitialPart.andThen ?_
        intro hok
        exact (ih hstage' hwait' (hlater hok) hcut).2

end Segments

/-! ## The opening -/

/-- The stage a stream of frames begins in, and the preamble before it. -/
def Opening.start : Opening → Option (Stage × ConnectionPreamble)
  | client preamble => some (.authHello, preamble)
  | enrollment => some (.enrollment, {})
  | _ => none

variable {stage : Stage} {preamble : ConnectionPreamble}

lemma Opening.start_stage {opening : Opening} (h : opening.start = some (stage, preamble)) : stage ≠ .initial := by
  cases opening with
  | client _ | enrollment =>
    cases h
    decide
  | unknown | refused | diagnostic => cases h

variable {buffer : Bytes}

lemma readOpening_append (h : readOpening buffer ≠ .unknown) (more : Bytes) :
    readOpening (buffer ++ more) = readOpening buffer := by
  have hl : (buffer ++ more).length = buffer.length + more.length := List.length_append
  have hf : 4 ≤ buffer.length := by
    by_contra hs
    rw [readOpening, if_pos (Nat.not_le.mp hs)] at h
    exact h rfl
  have hs : ¬ buffer.length < 4 ∧ ¬ (buffer ++ more).length < 4 := by omega
  simp only [readOpening, hs, if_false, List.take_append_of_le_length hf]
  split
  · rename_i hm
    have hp : kConnectionPreambleBytes ≤ buffer.length := by
      by_contra hpa
      rw [readOpening, if_neg hs.1, if_pos hm, if_pos (Nat.not_le.mp hpa)] at h
      exact h rfl
    have hw : ¬ buffer.length < kConnectionPreambleBytes ∧
        ¬ (buffer ++ more).length < kConnectionPreambleBytes := by omega
    simp only [hw, if_false, List.take_append_of_le_length hp]
  · rfl

lemma length_of_client (h : readOpening buffer = .client preamble) : kConnectionPreambleBytes ≤ buffer.length := by
  rw [readOpening] at h
  split at h
  · cases h
  · split at h
    · split at h
      · cases h
      · rename_i hl
        exact Nat.not_lt.mp hl
    · cases h

lemma bodyOf_append (h : (readOpening buffer).start = some (stage, preamble)) (more : Bytes) :
    bodyOf (buffer ++ more) = bodyOf buffer ++ more := by
  have hk : readOpening buffer ≠ .unknown := by
    intro hu
    rw [hu] at h
    cases h
  rw [bodyOf, bodyOf, readOpening_append hk]
  cases ho : readOpening buffer with
  | client preamble => exact List.drop_append_of_le_length (length_of_client ho)
  | enrollment => rfl
  | unknown | refused | diagnostic =>
    rw [ho] at h
    cases h

section Opening

variable {σ : Type} {handlers : Handlers σ} {session : σ}

/-- A connection whose frames begin. -/
def Connection.started (session : σ) (stage : Stage) (preamble : ConnectionPreamble) : Connection σ :=
  ⟨⟨stage, preamble, session⟩, [], {}⟩

variable {buffer segment : Bytes} {stage : Stage} {preamble : ConnectionPreamble}

lemma onBytes_of_start (h : (readOpening (buffer ++ segment)).start = some (stage, preamble)) :
    onBytes handlers (.waiting session buffer) segment = ((Connection.started session stage preamble).feed handlers
        (bodyOf (buffer ++ segment))).entering stage := by
  simp only [onBytes, Connection.waiting, if_true, bodyOf]
  cases ho : readOpening (buffer ++ segment) with
  | client _ | enrollment =>
    rw [ho] at h
    cases h
    rfl
  | unknown | refused | diagnostic =>
    rw [ho] at h
    cases h

lemma onBytes_of_unknown {buffer segment : Bytes} (h : readOpening (buffer ++ segment) = .unknown) :
    onBytes handlers (.waiting session buffer) segment = .idle (.waiting session (buffer ++ segment)) := by
  simp only [onBytes, Connection.waiting, if_true, h]

/-- **The frames begin where the opening ends**, whatever cuts are in it. -/
lemma deliver_of_start {buffer : Bytes} {segments : List Bytes} {stage : Stage}
    {preamble : ConnectionPreamble} (hunkn : readOpening buffer = .unknown)
    (h : (readOpening (buffer ++ segments.flatten)).start = some (stage, preamble)) :
    ∃ bodies : List Bytes, bodies.flatten = bodyOf (buffer ++ segments.flatten) ∧
      deliver handlers (.waiting session buffer) segments =
        (deliver handlers (.started session stage preamble) bodies).entering stage ∧
      (Fits handlers (.waiting session buffer) segments → Fits handlers (.started session stage preamble) bodies) := by
  induction segments generalizing buffer with
  | nil =>
    rw [List.flatten_nil, List.append_nil, hunkn] at h
    cases h
  | cons segment segments ih =>
    rw [List.flatten_cons, ← List.append_assoc] at h ⊢
    by_cases hsegm : readOpening (buffer ++ segment) = .unknown
    · have hidle := @onBytes_of_unknown σ handlers session buffer segment hsegm
      obtain ⟨bodies, hbodi, hdeli, hfits⟩ := ih hsegm h
      refine ⟨bodies, hbodi, ?_, ?_⟩
      · rw [deliver, hidle]
        exact hdeli
      · rintro ⟨-, hlater⟩
        rw [hidle] at hlater
        exact hfits (hlater rfl)
    · rw [readOpening_append hsegm] at h
      have hstage := Opening.start_stage h
      have hfed : onBytes handlers (.started session stage preamble) (bodyOf (buffer ++ segment)) =
          (Connection.started session stage preamble).feed handlers (bodyOf (buffer ++ segment)) :=
        onBytes_of_stage hstage _
      refine ⟨bodyOf (buffer ++ segment) :: segments, ?_, ?_, ?_⟩
      · rw [List.flatten_cons, bodyOf_append h]
      · rw [deliver, deliver, onBytes_of_start h, Turn.entering_andThen, hfed]
      · rintro ⟨hroom, hlater⟩
        rw [onBytes_of_start h] at hlater
        refine ⟨?_, ?_⟩
        · rw [fed_of_stage hstage]
          exact hroom
        · rw [hfed]
          exact hlater

/-- The peer of a connection that has been refused. -/
def Peer.refused (handlers : Handlers σ) (session : σ) : Peer σ :=
  ⟨.initial, {}, handlers.failHandshake session "invalid client preamble"⟩

lemma onBytes_of_refused (h : readOpening (buffer ++ segment) = .refused) :
    onBytes handlers (.waiting session buffer) segment =
      .failed ⟨.refused handlers session, buffer ++ segment, {}⟩ := by
  simp only [onBytes, Connection.waiting, if_true, h]
  rfl

variable {segments : List Bytes}

lemma deliver_of_unknown (h : readOpening (buffer ++ segments.flatten) = .unknown) :
    deliver handlers (.waiting session buffer) segments = .idle (.waiting session (buffer ++ segments.flatten)) := by
  induction segments generalizing buffer with
  | nil => rw [List.flatten_nil, List.append_nil, deliver]
  | cons segment segments ih =>
    rw [List.flatten_cons, ← List.append_assoc] at h ⊢
    have hs : readOpening (buffer ++ segment) = .unknown := by
      by_contra hk
      rw [readOpening_append hk] at h
      exact hk h
    rw [deliver, onBytes_of_unknown hs, Turn.idle_andThen, ih h]

lemma deliver_of_refused (hu : readOpening buffer = .unknown)
    (h : readOpening (buffer ++ segments.flatten) = .refused) :
    (deliver handlers (.waiting session buffer) segments).map Connection.peer =
      .failed (.refused handlers session) := by
  induction segments generalizing buffer with
  | nil =>
    rw [List.flatten_nil, List.append_nil, hu] at h
    cases h
  | cons segment segments ih =>
    rw [List.flatten_cons, ← List.append_assoc] at h
    rw [deliver]
    by_cases hs : readOpening (buffer ++ segment) = .unknown
    · rw [onBytes_of_unknown hs, Turn.idle_andThen, ih hs h]
    · rw [readOpening_append hs] at h
      rw [onBytes_of_refused h]
      rfl

/-- **What a stream does as a whole**: its frames, one after the other. -/
def served (handlers : Handlers σ) (session : σ) (stream : Bytes) : Turn (Peer σ) :=
  match (readOpening stream).start with
  | some (stage, preamble) =>
    (processFrames handlers ⟨stage, preamble, session⟩ (cut nextFrame (bodyOf stream)).frames).entering stage
  | none =>
    if readOpening stream = .refused then .failed (.refused handlers session)
    else .idle ⟨.initial, {}, session⟩

/-- A stream in which something follows its frames that is no frame. -/
def FramingError (stream : Bytes) : Prop := (cut nextFrame (bodyOf stream)).failed = true

lemma not_framingError_of_start {stream : Bytes} (h : (readOpening stream).start = none) : ¬ FramingError stream := by
  have hb : bodyOf stream = [] := by
    rw [bodyOf]
    cases ho : readOpening stream with
    | client _ | enrollment =>
      rw [ho] at h
      cases h
    | unknown | refused | diagnostic => rfl
  have hc : cut nextFrame [] = ⟨[], false, []⟩ := cut_of_waiting rfl
  rw [FramingError, hb, hc]
  decide

lemma deliver_eq_served (hp : readOpening segments.flatten ≠ .diagnostic)
    (hf : Fits handlers (.fresh session) segments) (he : ¬ FramingError segments.flatten) :
    (deliver handlers (.fresh session) segments).map Connection.peer = served handlers session segments.flatten := by
  rw [served]
  cases ho : readOpening segments.flatten with
  | diagnostic => exact absurd ho hp
  | unknown =>
    rw [Connection.fresh, deliver_of_unknown ho]
    rfl
  | refused => exact deliver_of_refused rfl ho
  | client _ | enrollment =>
    obtain ⟨bodies, hb, hd, hr⟩ := @deliver_of_start σ handlers session []
      segments _ _ rfl (congrArg Opening.start ho)
    rw [List.nil_append] at hb
    rw [Connection.fresh, hd, Turn.entering_map, deliver_of_failed_eq_false]
    · rw [Connection.started, List.nil_append, hb]
      rfl
    · exact Opening.start_stage (congrArg Opening.start ho)
    · rfl
    · exact hr hf
    · rw [Connection.started, List.nil_append, hb]
      exact Bool.eq_false_iff.mpr he

lemma deliver_initialPart (hf : Fits handlers (.fresh session) segments) (he : FramingError segments.flatten) :
    (deliver handlers (.fresh session) segments).ok = false ∧ (deliver handlers (.fresh session) segments).InitialPart
        (served handlers session segments.flatten) := by
  cases hs : (readOpening segments.flatten).start with
  | none => exact absurd he (not_framingError_of_start hs)
  | some start =>
    obtain ⟨stage, preamble⟩ := start
    obtain ⟨bodies, hb, hd, hr⟩ := @deliver_of_start σ handlers session []
      segments _ _ rfl hs
    rw [List.nil_append] at hb
    have hfa : (cut nextFrame ([] ++ bodies.flatten)).failed := by
      rw [List.nil_append, hb]
      exact he
    have hbe := @deliver_of_failed σ handlers (.started session stage preamble) bodies
      (Opening.start_stage hs) rfl (hr hf) hfa
    rw [Connection.fresh, hd, served, hs, ← hb]
    exact ⟨hbe.1, hbe.2.entering stage⟩

/-! ## Segments that fit -/

lemma length_of_unknown (h : readOpening buffer = .unknown) : buffer.length < kConnectionPreambleBytes := by
  rw [readOpening] at h
  split at h
  · rename_i hs
    exact Nat.lt_of_lt_of_le hs (by decide)
  · split at h
    · split at h
      · assumption
      · split at h
        · cases h
        · split at h <;> cases h
    · cases h

lemma length_bodyOf_le (stream : Bytes) : (bodyOf stream).length ≤ stream.length := by
  rw [bodyOf]
  split
  · rw [List.length_drop]
    exact Nat.sub_le _ _
  · exact Nat.le_refl _
  · exact Nat.zero_le _

lemma fits_of_parserFits {connection : Connection σ} (hstage : connection.peer.stage ≠ .initial)
    (hwait : nextFrame connection.parser.buffer = .waiting)
    (hfits : connection.parser.Fits segments) : Fits handlers connection segments := by
  induction segments generalizing connection with
  | nil => trivial
  | cons segment segments ih =>
    obtain ⟨hroom, hlater⟩ := hfits
    rw [Fits, fed_of_stage hstage, onBytes_of_stage hstage]
    refine ⟨hroom, ?_⟩
    cases hcut : (cut nextFrame (connection.parser.buffer ++ segment)).failed with
    | true =>
      obtain ⟨state, hfail⟩ := @feed_of_failed σ handlers connection segment hwait hroom hcut
      rw [hfail]
      intro hok
      cases hok
    | false =>
      rw [feed_of_failed_eq_false hwait hroom hcut]
      intro _
      rw [TcpFrameParser.feed_of_hasRoom hroom, hcut] at hlater
      obtain ⟨hstage', hwait'⟩ := @between σ handlers connection segment hstage hcut
        (cut nextFrame (connection.parser.buffer ++ segment)).frames
      exact ih hstage' hwait' (hlater rfl)

/-- The largest segment that a parser has room for whatever it holds. -/
def kShortSegmentBytes : ℕ :=
  kMaxTcpBufferedBytes - (4 + (kCommandHeaderBytes + kMaxCommandPayload))

lemma parser_fits_of_short {body : Bytes} (hb : body.length ≤ kMaxTcpBufferedBytes)
    (hs : ∀ segment ∈ segments, segment.length ≤ kShortSegmentBytes) :
    TcpFrameParser.Fits {} (body :: segments) := by
  have hr : TcpFrameParser.HasRoom {} body := by
    rw [TcpFrameParser.HasRoom, List.length_nil, Nat.zero_min]
    exact hb
  refine ⟨hr, ?_⟩
  rw [TcpFrameParser.feed_of_hasRoom hr]
  intro ha
  exact TcpFrameParser.fits_of_short (front_left stable_nextFrame (by simpa using ha)) hs

lemma fits_of_start (h : (readOpening (buffer ++ segment)).start = some (stage, preamble))
    (hp : TcpFrameParser.Fits {} (bodyOf (buffer ++ segment) :: segments)) :
    (onBytes handlers (.waiting session buffer) segment).ok →
      Fits handlers (onBytes handlers (.waiting session buffer) segment).state segments := by
  have hs := Opening.start_stage h
  have hf : Fits handlers (.started session stage preamble) (bodyOf (buffer ++ segment) :: segments) :=
    fits_of_parserFits hs rfl hp
  have hfe : onBytes handlers (.started session stage preamble) (bodyOf (buffer ++ segment)) =
      (Connection.started session stage preamble).feed handlers (bodyOf (buffer ++ segment)) :=
    onBytes_of_stage hs _
  rw [Fits, hfe] at hf
  rw [onBytes_of_start h]
  exact hf.2

/-- **Short segments always fit.** -/
lemma fits_of_short (hunkn : readOpening buffer = .unknown)
    (hshort : ∀ segment ∈ segments, segment.length ≤ kShortSegmentBytes) :
    Fits handlers (.waiting session buffer) segments := by
  induction segments generalizing buffer with
  | nil => trivial
  | cons segment segments ih =>
    have hsegm := hshort segment List.mem_cons_self
    have hlater : ∀ later ∈ segments, later.length ≤ kShortSegmentBytes :=
      fun later hlater => hshort later (List.mem_cons_of_mem _ hlater)
    have hleng := length_of_unknown hunkn
    have hbody : (bodyOf (buffer ++ segment)).length ≤ kMaxTcpBufferedBytes := by
      have hle := length_bodyOf_le (buffer ++ segment)
      rw [List.length_append] at hle
      simp only [kShortSegmentBytes, kMaxTcpBufferedBytes, kCommandHeaderBytes, kMaxCommandPayload,
        kConnectionPreambleBytes] at *
      omega
    have hpars := parser_fits_of_short hbody hlater
    refine ⟨hpars.1, ?_⟩
    cases hopen : readOpening (buffer ++ segment) with
    | unknown =>
      rw [onBytes_of_unknown hopen]
      exact fun _ => ih hopen hlater
    | refused =>
      rw [onBytes_of_refused hopen]
      intro hok
      cases hok
    | diagnostic =>
      have hprobe : onBytes handlers (.waiting session buffer) segment =
          (Connection.waiting session (buffer ++ segment)).probe handlers := by
        simp only [onBytes, Connection.waiting, if_true, hopen]
      rw [hprobe, Connection.probe]
      split
      · intro hok
        cases hok
      · intro _
        refine fits_of_parserFits (by simp) rfl ?_
        exact TcpFrameParser.fits_of_short rfl hlater
    | client _ | enrollment =>
      exact fits_of_start (congrArg Opening.start hopen) hpars

end Opening

/-- **The cuts of a stream do not matter.**  A fresh connection that is handed a stream of frames, in any
segments, hands out the same frames, goes through the same stages, sends the same replies and ends in
the same state, up to the first failure.  Where the stream goes on with something that is no frame, the
connection fails, and the frames handed out before that are the first of those in the stream.

No segment may bring the parser more than its buffer has room for; short segments never do. -/
theorem connection_segmentation {σ : Type} (handlers : Handlers σ) (session : σ) (stream : Bytes)
    (hprobe : readOpening stream ≠ .diagnostic) (first second : List Bytes)
    (hfirst : first.flatten = stream) (hsecond : second.flatten = stream) :
    (Fits handlers (.fresh session) first → Fits handlers (.fresh session) second → (¬ FramingError stream →
        (deliver handlers (.fresh session) first).map Connection.peer =
          (deliver handlers (.fresh session) second).map Connection.peer) ∧
      (FramingError stream → ((deliver handlers (.fresh session) first).ok = false ∧
          (deliver handlers (.fresh session) second).ok = false) ∧
        (deliver handlers (.fresh session) first).InitialPart (served handlers session stream) ∧
        (deliver handlers (.fresh session) second).InitialPart (served handlers session stream))) ∧
    ((∀ segment ∈ first, segment.length ≤ kShortSegmentBytes) → Fits handlers (.fresh session) first) := by
  refine ⟨?_, fits_of_short rfl⟩
  intro hfits hfits'
  constructor
  · intro herror
    rw [deliver_eq_served (hfirst ▸ hprobe) hfits (hfirst ▸ herror), hfirst,
      deliver_eq_served (hsecond ▸ hprobe) hfits' (hsecond ▸ herror), hsecond]
  · intro herror
    have hpart := deliver_initialPart hfits (hfirst ▸ herror)
    have hpart' := deliver_initialPart hfits' (hsecond ▸ herror)
    rw [hfirst] at hpart
    rw [hsecond] at hpart'
    exact ⟨⟨hpart.1, hpart'.1⟩, hpart.2, hpart'.2⟩

/-- Handlers that take every frame, and note how many there were. -/
def countingHandlers : Handlers ℕ where
  processPairingHello peer _ := ⟨⟨.pairingOffered, peer.preamble, peer.session + 1⟩, [], true, by simp⟩
  processEnrollment peer _ := ⟨⟨.enrollmentComplete, peer.preamble, peer.session + 1⟩, [], true, by simp⟩
  processPairingConfirm peer _ := ⟨⟨.pairingPending, peer.preamble, peer.session + 1⟩, [], true, by simp⟩
  processPairingWait peer _ := ⟨⟨.pairingPending, peer.preamble, peer.session + 1⟩, [], true, by simp⟩
  processAuthHello peer _ := ⟨⟨.authProof, peer.preamble, peer.session + 1⟩, [], true, by simp⟩
  processAuthProof peer _ := ⟨⟨.authenticated, peer.preamble, peer.session + 1⟩, [], true, by simp⟩
  processAuthenticated peer _ := ⟨⟨.authenticated, peer.preamble, peer.session + 1⟩, [], true, by simp⟩
  failHandshake session _ := session
  disconnect session := session
  send session _ := some session

/-- A heartbeat, in one piece or cut inside its length prefix. -/
def heartbeatWire : Bytes := plainFrame .heartbeat 1 []

lemma cut_heartbeatWire_append (more : Bytes) : cut nextFrame (heartbeatWire ++ more) =
      ⟨⟨⟨kCommandVersion, .heartbeat, 0, 1⟩, []⟩ :: (cut nextFrame more).frames,
        (cut nextFrame more).failed, (cut nextFrame more).left⟩ := by
  have hf : nextFrame heartbeatWire = .frame ⟨⟨kCommandVersion, .heartbeat, 0, 1⟩, []⟩ 24 :=
    rfl
  rw [cut_of_frame stable_nextFrame ((stable_nextFrame.frame hf).2.2 more)]
  rfl

lemma cut_heartbeatWire : cut nextFrame heartbeatWire = ⟨[⟨⟨kCommandVersion, .heartbeat, 0, 1⟩, []⟩], false, []⟩ := by
  have hn : cut nextFrame [] = ⟨[], false, []⟩ := cut_of_waiting rfl
  have hc := cut_heartbeatWire_append []
  rw [hn, List.append_nil] at hc
  exact hc

/-- A heartbeat arrives in one segment or in two. -/
theorem connection_segmentation_heartbeat :
    (deliver countingHandlers (.fresh 0) [heartbeatWire.take 3, heartbeatWire.drop 3]).map Connection.peer =
      (deliver countingHandlers (.fresh 0) [heartbeatWire]).map Connection.peer := by
  have hbody : bodyOf heartbeatWire = heartbeatWire := rfl
  have herror : ¬ FramingError heartbeatWire := by
    rw [FramingError, hbody, cut_heartbeatWire]
    decide
  have hfits : ∀ segments : List Bytes, (∀ segment ∈ segments, segment.length ≤ 24) →
      Fits countingHandlers (.fresh 0) segments := by
    intro segments hsegments
    exact fits_of_short rfl fun segment hsegment => (hsegments segment hsegment).trans (by decide)
  exact ((connection_segmentation countingHandlers 0 heartbeatWire (by decide)
    [heartbeatWire.take 3, heartbeatWire.drop 3] [heartbeatWire] (by decide) (by decide)).1
    (hfits _ (by decide)) (hfits _ (by decide))).1 herror

/-- A heartbeat and four bytes that are the length of no frame: in one segment they are refused as a
whole, in two the heartbeat is handed out first, whatever its handler does. -/
theorem connection_segmentation_not_always :
    ¬ ∃ (σ : Type) (handlers : Handlers σ) (session : σ), ∀ (stream : Bytes) (first second : List Bytes),
      readOpening stream ≠ .diagnostic → first.flatten = stream → second.flatten = stream →
        (deliver handlers (.fresh session) first).handed = (deliver handlers (.fresh session) second).handed := by
  rintro ⟨σ, handlers, session, h⟩
  have hmalformed : nextFrame [0, 0, 0, 0] = .malformed := rfl
  have hwhole : (cut nextFrame (heartbeatWire ++ [0, 0, 0, 0])).failed = true := by
    rw [cut_heartbeatWire_append, cut_of_malformed hmalformed]
  have hequal := h (heartbeatWire ++ [0, 0, 0, 0]) [heartbeatWire ++ [0, 0, 0, 0]]
    [heartbeatWire, [0, 0, 0, 0]] (by decide) (by simp) (by simp)
  have hroom : TcpFrameParser.HasRoom {} (heartbeatWire ++ [0, 0, 0, 0]) := by decide
  have hroom' : TcpFrameParser.HasRoom {} heartbeatWire := by decide
  have hnone : (deliver handlers (.fresh session) [heartbeatWire ++ [0, 0, 0, 0]]).handed = [] := by
    obtain ⟨state, hstate⟩ := @feed_of_failed σ handlers (.started session .enrollment {})
      (heartbeatWire ++ [0, 0, 0, 0]) rfl hroom hwhole
    have hon : onBytes handlers (.fresh session) (heartbeatWire ++ [0, 0, 0, 0]) =
        (Turn.failed state).entering .enrollment := by
      rw [← hstate]
      exact onBytes_of_start rfl
    rw [deliver, hon]
    rfl
  have hsome : [⟨⟨kCommandVersion, .heartbeat, 0, 1⟩, []⟩] <+:
      (deliver handlers (.fresh session) [heartbeatWire, [0, 0, 0, 0]]).handed := by
    have hon : onBytes handlers (.fresh session) heartbeatWire =
        ((Connection.started session .enrollment {}).feed handlers heartbeatWire).entering .enrollment :=
      onBytes_of_start rfl
    have hfeed := @feed_of_failed_eq_false σ handlers (.started session .enrollment {}) heartbeatWire rfl
      hroom' (cut_heartbeatWire ▸ rfl)
    rw [deliver, hon, hfeed]
    refine List.IsPrefix.trans ?_ (Turn.handed_andThen_prefix _ _)
    have hframes : (cut nextFrame ([] ++ heartbeatWire)).frames = [⟨⟨kCommandVersion, .heartbeat, 0, 1⟩, []⟩] := by
      rw [List.nil_append, cut_heartbeatWire]
    simp only [Connection.started, Turn.entering, Turn.map, hframes, processFrames]
    rw [← @handed_processFrame σ handlers ⟨.enrollment, {}, session⟩]
    exact Turn.handed_andThen_prefix _ _
  rw [← hequal, hnone] at hsome
  exact absurd hsome (by decide)

end Nstu.Server
