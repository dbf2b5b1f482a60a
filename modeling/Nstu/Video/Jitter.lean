import Nstu.Video.Reassembler
import Mathlib.Data.List.Nodup

/-!
# The jitter buffer

`FrameJitterBuffer` of `video_transport.cpp`: completed frames wait for a while, and come out in the order of
their ids.

A run is a list of calls of `push` and `pop_ready` with any frames and any times.  `JitterInvariant` relates the
buffer to the frames pushed and released so far, and every call keeps it (**`jitter_in_order`**).
-/

namespace Nstu.Video

open List

structure JitterBufferConfig where
  targetDelay : ℤ := 80 * 1000000
  maximumFrames : ℕ := 32

structure JitterBufferStats where
  accepted : ℕ := 0
  duplicate : ℕ := 0
  late : ℕ := 0
  resourceDropped : ℕ := 0
  released : ℕ := 0

structure BufferedFrame where
  frame : CompletedFrame
  readyAt : ℤ

/-- A jitter buffer, with limits as its constructor leaves them.  The frames stand in the order of their ids. -/
structure FrameJitterBuffer where
  config : JitterBufferConfig
  streamId : UInt32 := 0
  streamSet : Bool := false
  lastReleasedFrameId : Option UInt64 := none
  frames : List (UInt64 × BufferedFrame) := []
  stats : JitterBufferStats := {}
  maximum_pos : 2 ≤ config.maximumFrames

namespace FrameJitterBuffer

def new (config : JitterBufferConfig) : FrameJitterBuffer where
  config :=
    { targetDelay := max 1000000 (min config.targetDelay 1000000000)
      maximumFrames := max 2 (min config.maximumFrames 256) }
  maximum_pos := Nat.le_max_left ..

def reset (buffer : FrameJitterBuffer) (streamId : UInt32) : FrameJitterBuffer where
  config := buffer.config
  streamId := streamId
  streamSet := streamId != 0
  maximum_pos := buffer.maximum_pos

/-- `frames_.emplace`, for an id that is not in the map. -/
def emplace (id : UInt64) (frame : BufferedFrame) : List (UInt64 × BufferedFrame) → List (UInt64 × BufferedFrame)
  | [] => [(id, frame)]
  | entry :: rest => if id < entry.1 then (id, frame) :: entry :: rest else entry :: emplace id frame rest

/-- The frame is put into the buffer; where that is full, the first one is thrown out. -/
def store (buffer : FrameJitterBuffer) (frame : CompletedFrame) (arrivalTime : ℤ) : FrameJitterBuffer :=
  let full := buffer.config.maximumFrames ≤ buffer.frames.length
  let kept := if full then buffer.frames.tail else buffer.frames
  { buffer with
    frames := emplace frame.frameId ⟨frame, arrivalTime + buffer.config.targetDelay⟩ kept
    stats :=
      { buffer.stats with
        resourceDropped := buffer.stats.resourceDropped + if full then 1 else 0
        accepted := buffer.stats.accepted + 1 } }

def push (buffer : FrameJitterBuffer) (frame : CompletedFrame) (arrivalTime : ℤ) : FrameJitterBuffer × Bool :=
  if !buffer.streamSet || frame.streamId ≠ buffer.streamId then (buffer, false)
  else if buffer.lastReleasedFrameId.any (frame.frameId ≤ ·) then
    ({ buffer with stats := { buffer.stats with late := buffer.stats.late + 1 } }, false)
  else if buffer.frames.any (·.1 = frame.frameId) then
    ({ buffer with stats := { buffer.stats with duplicate := buffer.stats.duplicate + 1 } }, false)
  else (buffer.store frame arrivalTime, true)

def popReady (buffer : FrameJitterBuffer) (now : ℤ) : FrameJitterBuffer × Option CompletedFrame :=
  match buffer.frames with
  | [] => (buffer, none)
  | (_, first) :: rest =>
    if now < first.readyAt then (buffer, none)
    else
      ({ buffer with
        frames := rest
        lastReleasedFrameId := some first.frame.frameId
        stats := { buffer.stats with released := buffer.stats.released + 1 } }, some first.frame)

end FrameJitterBuffer

/-! ## Runs -/

inductive JitterOp where
  | push (frame : CompletedFrame) (arrivalTime : ℤ)
  | popReady (now : ℤ)

/-- A buffer, with the frames that have been pushed and those that have been released. -/
structure JitterRun where
  buffer : FrameJitterBuffer
  pushed : List CompletedFrame := []
  released : List CompletedFrame := []

/-- One push or pop, with what it releases. -/
def JitterRun.step (run : JitterRun) : JitterOp → JitterRun
  | .push frame arrivalTime =>
    { run with buffer := (run.buffer.push frame arrivalTime).1, pushed := run.pushed ++ [frame] }
  | .popReady now =>
    let popped := run.buffer.popReady now
    { run with buffer := popped.1, released := run.released ++ popped.2.toList }

def JitterRun.steps (run : JitterRun) (ops : List JitterOp) : JitterRun := ops.foldl JitterRun.step run

/-- What is true of a buffer after any calls. -/
structure JitterInvariant (run : JitterRun) : Prop where
  sorted : run.buffer.frames.Pairwise fun earlier later => earlier.1 < later.1
  keyed : ∀ entry ∈ run.buffer.frames, entry.1 = entry.2.frame.frameId ∧ entry.2.frame ∈ run.pushed
  fresh : ∀ last ∈ run.buffer.lastReleasedFrameId, ∀ entry ∈ run.buffer.frames, last < entry.1
  last : ∀ frame ∈ run.released, ∃ last ∈ run.buffer.lastReleasedFrameId, frame.frameId ≤ last
  increasing : (run.released.map CompletedFrame.frameId).Pairwise (· < ·)
  pushed : ∀ frame ∈ run.released, frame ∈ run.pushed
  counted : run.buffer.stats.released = run.released.length
  conserved : run.buffer.stats.accepted =
    run.buffer.stats.released + run.buffer.stats.resourceDropped + run.buffer.frames.length
  bounded : run.buffer.frames.length ≤ run.buffer.config.maximumFrames

namespace FrameJitterBuffer

variable {id : UInt64} {frame : BufferedFrame} {frames : List (UInt64 × BufferedFrame)}

@[simp] lemma length_emplace : (emplace id frame frames).length = frames.length + 1 := by
  induction frames with
  | nil => rfl
  | cons entry rest ih =>
    rw [emplace]
    split
    · rfl
    · simp [ih]

lemma mem_emplace {entry : UInt64 × BufferedFrame} (h : entry ∈ emplace id frame frames) :
    entry = (id, frame) ∨ entry ∈ frames := by
  induction frames with
  | nil => simpa [emplace] using h
  | cons head rest ih =>
    rw [emplace] at h
    split at h
    · simpa using h
    · rcases mem_cons.mp h with rfl | hr
      · exact .inr mem_cons_self
      · exact (ih hr).imp_right (mem_cons_of_mem head)

lemma sorted_emplace (hs : frames.Pairwise fun earlier later => earlier.1 < later.1)
    (hn : ∀ entry ∈ frames, entry.1 ≠ id) :
    (emplace id frame frames).Pairwise fun earlier later => earlier.1 < later.1 := by
  induction frames with
  | nil => simp [emplace]
  | cons head rest ih =>
    rw [pairwise_cons] at hs
    rw [forall_mem_cons] at hn
    rw [emplace]
    split
    · rename_i hl
      refine pairwise_cons.mpr ⟨?_, pairwise_cons.mpr hs⟩
      rw [forall_mem_cons]
      exact ⟨hl, fun entry he => UInt64.lt_trans hl (hs.1 entry he)⟩
    · rename_i hle
      refine pairwise_cons.mpr ⟨?_, ih hs.2 hn.2⟩
      intro entry he
      rcases mem_emplace he with rfl | hr
      · exact UInt64.lt_of_le_of_ne (UInt64.not_lt.mp hle) hn.1
      · exact hs.1 entry hr

end FrameJitterBuffer

variable {run : JitterRun} {frame : CompletedFrame} {arrivalTime now : ℤ}

lemma JitterInvariant.store (h : JitterInvariant run)
    (hlate : ¬ run.buffer.lastReleasedFrameId.any (frame.frameId ≤ ·))
    (hdupl : ¬ run.buffer.frames.any (·.1 = frame.frameId)) :
    JitterInvariant { run with buffer := run.buffer.store frame arrivalTime, pushed := run.pushed ++ [frame] } := by
  have hmaxi := run.buffer.maximum_pos
  have hboun := h.bounded
  have hcons := h.conserved
  simp only [any_eq_true, decide_eq_true_eq, not_exists, not_and] at hdupl
  simp only [Option.any_eq_true, decide_eq_true_eq, not_exists, not_and, UInt64.not_le] at hlate
  -- what is left of the buffer before the frame is put into it
  obtain ⟨kept, hkept⟩ : ∃ kept, kept =
      if run.buffer.config.maximumFrames ≤ run.buffer.frames.length then run.buffer.frames.tail
      else run.buffer.frames := ⟨_, rfl⟩
  have hsub : kept.Sublist run.buffer.frames := by
    rw [hkept]
    split
    · exact tail_sublist _
    · exact List.Sublist.refl _
  have hleng : kept.length + (if run.buffer.config.maximumFrames ≤ run.buffer.frames.length then 1 else 0) =
      run.buffer.frames.length ∧ kept.length + 1 ≤ run.buffer.config.maximumFrames := by
    rw [hkept]
    split
    · rw [length_tail]
      omega
    · omega
  simp only [FrameJitterBuffer.store, ← hkept]
  refine ⟨?_, ?_, ?_, h.last, h.increasing, ?_, h.counted, ?_, ?_⟩
  · exact FrameJitterBuffer.sorted_emplace (h.sorted.sublist hsub) fun entry hentry =>
      hdupl entry (hsub.subset hentry)
  · intro entry hentry
    rcases FrameJitterBuffer.mem_emplace hentry with rfl | hentry
    · exact ⟨rfl, by simp⟩
    · obtain ⟨hid, hpush⟩ := h.keyed entry (hsub.subset hentry)
      exact ⟨hid, mem_append_left _ hpush⟩
  · intro last hlast entry hentry
    rcases FrameJitterBuffer.mem_emplace hentry with rfl | hentry
    · exact hlate last hlast
    · exact h.fresh last hlast entry (hsub.subset hentry)
  · intro released hrele
    exact mem_append_left _ (h.pushed released hrele)
  · simp only [FrameJitterBuffer.length_emplace]
    omega
  · simp only [FrameJitterBuffer.length_emplace]
    omega

/-- A refused frame changes nothing but a counter that the invariant does not read. -/
lemma JitterInvariant.pushed_refused (h : JitterInvariant run) (late duplicate : ℕ) :
    JitterInvariant { run with
        buffer := { run.buffer with stats := { run.buffer.stats with late := late, duplicate := duplicate } }
        pushed := run.pushed ++ [frame] } where
  sorted := h.sorted
  keyed := fun entry he =>
    ⟨(h.keyed entry he).1, mem_append_left _ (h.keyed entry he).2⟩
  fresh := h.fresh
  last := h.last
  increasing := h.increasing
  pushed := fun released hr => mem_append_left _ (h.pushed released hr)
  counted := h.counted
  conserved := h.conserved
  bounded := h.bounded

lemma JitterInvariant.popReady (h : JitterInvariant run) : JitterInvariant (run.step (.popReady now)) := by
  simp only [JitterRun.step, FrameJitterBuffer.popReady]
  split
  · simpa using h
  · rename_i id first rest hfram
    split
    · simpa using h
    · have hsort := h.sorted
      have hkeyed := h.keyed
      have hfresh := h.fresh
      have hcons := h.conserved
      have hboun := h.bounded
      rw [hfram] at hsort hkeyed hfresh hcons hboun
      rw [pairwise_cons] at hsort
      rw [forall_mem_cons] at hkeyed
      obtain ⟨⟨hid, hfirst⟩, hrest⟩ := hkeyed
      simp only at hid
      subst hid
      have hbefo : ∀ frame ∈ run.released, frame.frameId < first.frame.frameId := by
        intro frame hframe
        obtain ⟨last, hlast, hle⟩ := h.last frame hframe
        exact UInt64.lt_of_le_of_lt hle (hfresh last hlast _ mem_cons_self)
      refine ⟨hsort.2, hrest, ?_, ?_, ?_, ?_, ?_, ?_, ?_⟩
      · rintro last hlast entry hentry
        obtain rfl := Option.some.inj hlast
        exact hsort.1 entry hentry
      · simp only [Option.toList_some, forall_mem_append, forall_mem_singleton]
        exact ⟨fun frame hframe => ⟨_, rfl, UInt64.le_of_lt (hbefo frame hframe)⟩, _, rfl, UInt64.le_refl _⟩
      · simp only [Option.toList_some, map_append, map_cons, map_nil, pairwise_append]
        refine ⟨h.increasing, pairwise_singleton _ _, ?_⟩
        simpa using hbefo
      · simp only [Option.toList_some, forall_mem_append, forall_mem_singleton]
        exact ⟨h.pushed, hfirst⟩
      · simp [h.counted]
      · simp only [length_cons] at hcons ⊢
        omega
      · simp only [length_cons] at hboun ⊢
        omega

/-- **One call keeps the invariant.** -/
lemma JitterInvariant.step (h : JitterInvariant run) (op : JitterOp) : JitterInvariant (run.step op) := by
  cases op with
  | popReady now => exact h.popReady
  | push frame arrivalTime =>
    simp only [JitterRun.step, FrameJitterBuffer.push]
    split_ifs with hs hl hd
    · exact h.pushed_refused run.buffer.stats.late run.buffer.stats.duplicate
    · exact h.pushed_refused (run.buffer.stats.late + 1) run.buffer.stats.duplicate
    · exact h.pushed_refused run.buffer.stats.late (run.buffer.stats.duplicate + 1)
    · exact h.store hl hd

lemma JitterInvariant.steps (h : JitterInvariant run) (ops : List JitterOp) : JitterInvariant (run.steps ops) := by
  induction ops generalizing run with
  | nil => exact h
  | cons op ops ih => exact ih (h.step op)

lemma mem_pushed_steps {ops : List JitterOp} (h : frame ∈ (run.steps ops).pushed) :
    frame ∈ run.pushed ∨ ∃ arrivalTime, JitterOp.push frame arrivalTime ∈ ops := by
  induction ops generalizing run with
  | nil => exact .inl h
  | cons op ops ih =>
    rcases ih h with hs | ⟨arrivalTime, hop⟩
    · cases op with
      | popReady now => exact .inl hs
      | push other arrivalTime =>
        rcases mem_append.mp hs with hr | ho
        · exact .inl hr
        · rw [mem_singleton] at ho
          exact .inr ⟨arrivalTime, ho ▸ mem_cons_self⟩
    · exact .inr ⟨arrivalTime, mem_cons_of_mem _ hop⟩

lemma jitterInvariant_reset (buffer : FrameJitterBuffer) (streamId : UInt32) :
    JitterInvariant { buffer := buffer.reset streamId } := by
  constructor <;> simp [FrameJitterBuffer.reset]

/-- **Frames come out in order.**  After a `reset`, whatever frames are pushed at whatever times: the ids of the
released frames are strictly increasing, every released frame is one that was pushed, the frames accepted are
those released, those thrown out and those still waiting, and never more than the maximum are waiting. -/
theorem jitter_in_order (buffer : FrameJitterBuffer) (streamId : UInt32) (ops : List JitterOp) :
    let run := JitterRun.steps { buffer := buffer.reset streamId } ops
    (run.released.map CompletedFrame.frameId).Pairwise (· < ·) ∧ run.released.Nodup ∧
      (∀ frame ∈ run.released, ∃ arrivalTime, JitterOp.push frame arrivalTime ∈ ops) ∧
      run.buffer.stats.released = run.released.length ∧
      run.buffer.stats.accepted =
        run.buffer.stats.released + run.buffer.stats.resourceDropped + run.buffer.frames.length ∧
      run.buffer.frames.length ≤ run.buffer.config.maximumFrames := by
  have h := (jitterInvariant_reset buffer streamId).steps ops
  refine ⟨h.increasing, ?_, ?_, h.counted, h.conserved, h.bounded⟩
  · exact List.Nodup.of_map CompletedFrame.frameId (h.increasing.imp UInt64.ne_of_lt)
  · intro frame hframe
    exact (mem_pushed_steps (h.pushed frame hframe)).resolve_left List.not_mem_nil

end Nstu.Video
