import Nstu.Video.Transport
import Mathlib.Data.Bool.Count
import Mathlib.Data.List.Rotate
import Mathlib.Data.Finset.Card
import Mathlib.Data.Nat.ModEq

/-!
# Packet loss

`PacketLossTracker` of `packet_loss.cpp`: a bitmap of the sequence numbers that have come in, of which the
first ones are finalized as the window moves on.  Sequence numbers and counters are natural numbers that wrap
or saturate at 64 bits.

The bitmap is circular; `window` is what it holds from the first number on.  `advance` drops slots from it and
counts them (`advance_spec`), whichever of its two loops does so.
-/

namespace Nstu.Video

open List

/-! ## Data -/

structure PacketLossStats where
  streamId : UInt32 := 0
  generation : ℕ := 0
  finalizedReceived : ℕ := 0
  confirmedLost : ℕ := 0
  uniqueReceived : ℕ := 0
  duplicates : ℕ := 0
  reordered : ℕ := 0
  tooLate : ℕ := 0
  wrongStream : ℕ := 0
  invalidForwardJumps : ℕ := 0

inductive PacketDisposition where
  | uninitialized
  | inOrder
  | reordered
  | duplicate
  | tooLate
  | wrongStream
  | invalidForwardJump
  deriving DecidableEq

structure PacketLossTracker where
  received : List Bool
  head : ℕ := 0
  windowStart : ℕ := 0
  highestSequence : ℕ := 0
  maxForwardJump : ℕ
  streamId : UInt32 := 0
  generation : ℕ := 0
  streamSet : Bool := false
  sequenceSet : Bool := false
  packetSeen : Bool := false
  stats : PacketLossStats := {}

def saturatingAdd (value amount : ℕ) : ℕ := min (value + amount) (2 ^ 64 - 1)

lemma saturatingAdd_eq {value amount : ℕ} (h : value + amount < 2 ^ 64) :
    saturatingAdd value amount = value + amount := Nat.min_eq_left (by omega)

namespace PacketLossTracker

/-- The constructor. -/
def new (reorderWindow maxForwardJump : ℕ) : PacketLossTracker where
  received := List.replicate (max 8 (min reorderWindow 65536)) false
  maxForwardJump := max maxForwardJump 1

def reset (tracker : PacketLossTracker) (streamId : UInt32) (initialSequence : Option UInt64) : PacketLossTracker :=
  let start := (initialSequence.getD 0).toNat
  let generation := (tracker.generation + 1) % 2 ^ 64
  { received := List.replicate tracker.received.length false
    windowStart := start
    highestSequence := start
    maxForwardJump := tracker.maxForwardJump
    streamId, generation
    streamSet := true
    sequenceSet := initialSequence.isSome
    stats := { streamId, generation } }

def finalizeSlot (stats : PacketLossStats) (slot : Bool) : PacketLossStats :=
  if slot then { stats with finalizedReceived := saturatingAdd stats.finalizedReceived 1 }
  else { stats with confirmedLost := saturatingAdd stats.confirmedLost 1 }

/-- One round of the second loop of `advance`. -/
def advanceSlot (tracker : PacketLossTracker) : PacketLossTracker :=
  { tracker with
    stats := finalizeSlot tracker.stats (tracker.received.getD tracker.head false)
    received := tracker.received.set tracker.head false
    head := (tracker.head + 1) % tracker.received.length }

def advance (tracker : PacketLossTracker) (count : ℕ) : PacketLossTracker :=
  let windowSize := tracker.received.length
  let advanced :=
    if windowSize ≤ count then
      let stats := tracker.received.foldl finalizeSlot tracker.stats
      { tracker with
        stats := { stats with confirmedLost := saturatingAdd stats.confirmedLost (count - windowSize) }
        received := List.replicate windowSize false
        head := 0 }
    else advanceSlot^[count] tracker
  { advanced with windowStart := (tracker.windowStart + count) % 2 ^ 64 }

/-- The end of `observe`, for a number that is in the window. -/
def mark (tracker : PacketLossTracker) (sequence : ℕ) (belowHighest : Bool) : PacketLossTracker × PacketDisposition :=
  let index := (tracker.head + (sequence - tracker.windowStart)) % tracker.received.length
  if tracker.received.getD index false then
    ({ tracker with stats := { tracker.stats with duplicates := saturatingAdd tracker.stats.duplicates 1 } },
      .duplicate)
  else
    let stats := { tracker.stats with uniqueReceived := saturatingAdd tracker.stats.uniqueReceived 1 }
    ({ tracker with
      received := tracker.received.set index true
      highestSequence :=
        if !tracker.packetSeen || tracker.highestSequence < sequence then sequence else tracker.highestSequence
      packetSeen := true
      stats := if belowHighest then { stats with reordered := saturatingAdd stats.reordered 1 } else stats },
      if belowHighest then .reordered else .inOrder)

def observe (tracker : PacketLossTracker) (packet : VideoPacketHeader) : PacketLossTracker × PacketDisposition :=
  let sequence := packet.packetSequence.toNat
  if !tracker.streamSet then (tracker, .uninitialized)
  else if packet.streamId ≠ tracker.streamId then
    ({ tracker with stats := { tracker.stats with wrongStream := saturatingAdd tracker.stats.wrongStream 1 } },
      .wrongStream)
  else if !tracker.sequenceSet then
    ({ tracker with
      sequenceSet := true
      packetSeen := true
      windowStart := sequence
      highestSequence := sequence
      received := tracker.received.set tracker.head true
      stats := { tracker.stats with uniqueReceived := saturatingAdd tracker.stats.uniqueReceived 1 } }, .inOrder)
  else if sequence < tracker.windowStart then
    ({ tracker with stats := { tracker.stats with tooLate := saturatingAdd tracker.stats.tooLate 1 } }, .tooLate)
  else
    let forwardReference := if tracker.packetSeen then tracker.highestSequence else tracker.windowStart
    if forwardReference < sequence ∧ tracker.maxForwardJump < sequence - forwardReference then
      ({ tracker with
        stats :=
          { tracker.stats with invalidForwardJumps := saturatingAdd tracker.stats.invalidForwardJumps 1 } },
        .invalidForwardJump)
    else
      let belowHighest := tracker.packetSeen && sequence < tracker.highestSequence
      let offset := sequence - tracker.windowStart
      let windowSize := tracker.received.length
      (if windowSize ≤ offset then tracker.advance (offset - windowSize + 1) else tracker).mark sequence belowHighest

def finalizeThrough (tracker : PacketLossTracker) (sequence : UInt64) : PacketLossTracker × Bool :=
  if !tracker.packetSeen || sequence.toNat < tracker.windowStart || tracker.highestSequence < sequence.toNat then
    (tracker, false)
  else (tracker.advance ((sequence.toNat - tracker.windowStart + 1) % 2 ^ 64), true)

def flush (tracker : PacketLossTracker) : PacketLossTracker :=
  if tracker.packetSeen && tracker.windowStart ≤ tracker.highestSequence then
    tracker.advance ((tracker.highestSequence - tracker.windowStart + 1) % 2 ^ 64)
  else tracker

/-! ## The window -/

/-- The slots of the window, from its first number on. -/
def window (tracker : PacketLossTracker) : List Bool := tracker.received.rotate tracker.head

/-- How many slots are marked. -/
def marked (tracker : PacketLossTracker) : ℕ := tracker.received.count true

variable {tracker : PacketLossTracker}

@[simp] lemma length_window : tracker.window.length = tracker.received.length := length_rotate ..

lemma count_window : tracker.window.count true = tracker.marked := (rotate_perm _ _).count_eq _

lemma getElem_window {i : ℕ} (hi : i < tracker.received.length) :
    tracker.window[i]? = tracker.received[(tracker.head + i) % tracker.received.length]? := by
  rw [window, getElem?_rotate hi, Nat.add_comm]

/-- A slot of the bitmap is one of the window. -/
lemma rotate_set {slots : List Bool} (head : ℕ) {offset : ℕ} (ho : offset < slots.length) (slot : Bool) :
    (slots.set ((head + offset) % slots.length) slot).rotate head = (slots.rotate head).set offset slot := by
  refine ext_getElem (by simp) fun i hi _ => ?_
  rw [length_rotate, length_set] at hi
  rw [getElem_rotate, getElem_set, getElem_set, getElem_rotate]
  simp only [length_set]
  have hif : (head + offset) % slots.length = (i + head) % slots.length ↔ offset = i := by
    rw [Nat.add_comm i]
    constructor
    · intro h
      have hm : Nat.ModEq slots.length offset i := Nat.ModEq.add_left_cancel' head h
      rwa [Nat.ModEq, Nat.mod_eq_of_lt ho, Nat.mod_eq_of_lt hi] at hm
    · rintro rfl
      rfl
  simp only [hif]

/-- The first slot goes, and an empty one comes in at the end. -/
lemma rotate_succ {slots : List Bool} {head : ℕ} (hh : head < slots.length) :
    (slots.set head false).rotate ((head + 1) % slots.length) = (slots.rotate head).tail ++ [false] := by
  have hs : (slots.set head false).rotate head = (slots.rotate head).set 0 false := by
    have := rotate_set head (Nat.zero_lt_of_lt hh) false
    rwa [Nat.add_zero, Nat.mod_eq_of_lt hh] at this
  have hl : (slots.set head false).length = slots.length := length_set ..
  rw [← hl, rotate_mod, ← rotate_rotate, hs]
  cases hw : slots.rotate head with
  | nil =>
    have hl := congrArg List.length hw
    rw [length_rotate, length_nil] at hl
    omega
  | cons slot rest => simp

/-! ## Advancing -/

variable {stats : PacketLossStats}

lemma finalizeSlot_foldl {slots : List Bool}
    (hf : stats.finalizedReceived + stats.confirmedLost + slots.length < 2 ^ 64) :
    slots.foldl finalizeSlot stats = { stats with
        finalizedReceived := stats.finalizedReceived + slots.count true
        confirmedLost := stats.confirmedLost + slots.count false } := by
  induction slots generalizing stats with
  | nil => rfl
  | cons slot slots ih =>
    rw [length_cons] at hf
    cases slot with
    | true =>
      have ho : finalizeSlot stats true = { stats with finalizedReceived := stats.finalizedReceived + 1 } := by
        rw [finalizeSlot, if_pos rfl, saturatingAdd_eq (by omega)]
      rw [foldl_cons, ho, ih (by simp only; omega)]
      simp [Nat.add_assoc, Nat.add_comm 1]
    | false =>
      have ho : finalizeSlot stats false = { stats with confirmedLost := stats.confirmedLost + 1 } := by
        rw [finalizeSlot, if_neg Bool.false_ne_true, saturatingAdd_eq (by omega)]
      rw [foldl_cons, ho, ih (by simp only; omega)]
      simp [Nat.add_assoc, Nat.add_comm 1]

/-- What it is to finalize the first slots of the window. -/
structure Advanced (before after : PacketLossTracker) (count : ℕ) : Prop where
  frame : after = { before with
    received := after.received, head := after.head, windowStart := after.windowStart, stats := after.stats }
  head : after.head < after.received.length
  window : after.window = before.window.drop count ++ List.replicate (min count before.received.length) false
  stats : after.stats = { before.stats with
    finalizedReceived := before.stats.finalizedReceived + (before.window.take count).count true
    confirmedLost := before.stats.confirmedLost + (count - (before.window.take count).count true) }

variable {after : PacketLossTracker} {count : ℕ}

lemma Advanced.mark_iff (h : Advanced tracker after count) (i : ℕ) :
    after.window[i]? = some true ↔ tracker.window[count + i]? = some true := by
  rw [h.window, getElem?_append, getElem?_drop]
  split_ifs with hi
  · rfl
  · rw [List.length_drop, not_lt] at hi
    rw [getElem?_replicate, getElem?_eq_none (by omega)]
    split_ifs <;> simp

lemma Advanced.length (h : Advanced tracker after count) : after.received.length = tracker.received.length := by
  have := congrArg List.length h.window
  simp only [length_window, List.length_append, List.length_drop, List.length_replicate] at this
  omega

/-- **The loop over single slots.** -/
lemma advanced_iterate (hhead : tracker.head < tracker.received.length) (hcount : count ≤ tracker.received.length)
    (hfits : tracker.stats.finalizedReceived + tracker.stats.confirmedLost + count < 2 ^ 64) :
    Advanced tracker (advanceSlot^[count] tracker) count ∧
      (advanceSlot^[count] tracker).windowStart = tracker.windowStart := by
  induction count with
  | zero => exact ⟨⟨rfl, hhead, by simp, by simp⟩, rfl⟩
  | succ count ih =>
    obtain ⟨h, hstart⟩ := ih (by omega) (by omega)
    rw [Function.iterate_succ_apply']
    generalize advanceSlot^[count] tracker = advanced at h hstart
    have hleng := h.length
    have hlt : count < tracker.window.length := by rw [length_window]; omega
    have hmin : min count tracker.received.length = count := by omega
    have hwind := h.window
    rw [hmin, drop_eq_getElem_cons hlt, cons_append] at hwind
    -- the slot at the head is the next one of the window
    have hslot : advanced.received.getD advanced.head false = tracker.window[count] := by
      have hzero : advanced.window[0]? = advanced.received[(advanced.head + 0) % advanced.received.length]? :=
        getElem_window (by omega)
      rw [Nat.add_zero, Nat.mod_eq_of_lt h.head, hwind, getElem?_cons_zero] at hzero
      rw [getD_eq_getElem?_getD, ← hzero, Option.getD_some]
    have htake : tracker.window.take (count + 1) = tracker.window.take count ++ [tracker.window[count]] :=
      take_succ_eq_append_getElem hlt
    have hle : (tracker.window.take count).count true ≤ count :=
      count_le_length.trans (length_take_le _ _)
    refine ⟨⟨?_, ?_, ?_, ?_⟩, ?_⟩
    · rw [h.frame]
      rfl
    · simp only [advanceSlot, length_set]
      exact Nat.mod_lt _ (by omega)
    · rw [window, advanceSlot]
      simp only
      rw [rotate_succ h.head, ← window, hwind, tail_cons, append_assoc, ← replicate_succ',
        Nat.min_eq_left hcount]
    · simp only [advanceSlot, hslot, h.stats, htake, count_append]
      cases tracker.window[count] with
      | true =>
        rw [finalizeSlot, if_pos rfl, saturatingAdd_eq (by simp only; omega), count_singleton_self]
        simp only [Nat.add_assoc, PacketLossStats.mk.injEq, true_and, and_true]
        omega
      | false =>
        rw [finalizeSlot, if_neg Bool.false_ne_true, saturatingAdd_eq (by simp only; omega)]
        simp only [count_singleton, beq_iff_eq, Bool.false_eq_true, if_false, Nat.add_zero,
          PacketLossStats.mk.injEq, true_and, and_true]
        omega
    · rw [← hstart]
      rfl

/-- **`advance` finalizes the first slots**, whichever loop it takes. -/
lemma advance_spec (count : ℕ) (hh : tracker.head < tracker.received.length)
    (hf : tracker.stats.finalizedReceived + tracker.stats.confirmedLost + count < 2 ^ 64)
    (hs : tracker.windowStart + count < 2 ^ 64) : Advanced tracker (tracker.advance count) count ∧
      (tracker.advance count).windowStart = tracker.windowStart + count := by
  refine ⟨?_, Nat.mod_eq_of_lt hs⟩
  by_cases hc : tracker.received.length ≤ count
  · have ht : (tracker.window.take count).count true = tracker.received.count true := by
      rw [take_of_length_le (by rw [length_window]; exact hc), count_window, marked]
    have hsu := count_true_add_count_false tracker.received
    simp only [advance, hc, if_true]
    rw [finalizeSlot_foldl (by omega)]
    refine ⟨rfl, ?_, ?_, ?_⟩
    · simpa using Nat.zero_lt_of_lt hh
    · rw [window, rotate_zero, drop_of_length_le (by rw [length_window]; exact hc), nil_append,
        Nat.min_eq_right hc]
    · rw [saturatingAdd_eq (by simp only; omega), ht]
      simp only [PacketLossStats.mk.injEq, true_and, and_true]
      omega
  · obtain ⟨h, -⟩ := advanced_iterate hh (by omega) hf
    simp only [advance, hc, if_false]
    exact ⟨by rw [h.frame], h.head, h.window, h.stats⟩

/-! ## Conservation -/

/-- The account of a tracker whose window has started at `origin`. -/
structure Account (origin : ℕ) (tracker : PacketLossTracker) : Prop where
  streamSet : tracker.streamSet = true
  sequenceSet : tracker.sequenceSet = true
  head : tracker.head < tracker.received.length
  start : origin ≤ tracker.windowStart
  /-- Every number before the window has been finalized. -/
  finalized : tracker.stats.finalizedReceived + tracker.stats.confirmedLost = tracker.windowStart - origin
  unique : tracker.stats.uniqueReceived = tracker.stats.finalizedReceived + tracker.marked
  marks : ∀ i, tracker.window[i]? = some true →
    tracker.packetSeen = true ∧ tracker.windowStart + i ≤ tracker.highestSequence
  highest : tracker.highestSequence < 2 ^ 64 - 1

variable {origin : ℕ}

lemma marked_le (h : ∀ i, tracker.window[i]? = some true → tracker.windowStart + i ≤ tracker.highestSequence) :
    tracker.marked ≤ tracker.highestSequence + 1 - tracker.windowStart := by
  rw [← count_window]
  have hd : (tracker.window.drop (tracker.highestSequence + 1 - tracker.windowStart)).count true = 0 := by
    rw [count_eq_zero]
    intro hm
    obtain ⟨i, hi⟩ := mem_iff_getElem?.mp hm
    rw [getElem?_drop] at hi
    have := h _ hi
    omega
  rw [← take_append_drop (tracker.highestSequence + 1 - tracker.windowStart) tracker.window, count_append,
    hd, Nat.add_zero]
  exact count_le_length.trans (length_take_le _ _)

/-- **The window moves on.** -/
lemma Account.advance (h : Account origin tracker) (count : ℕ) (hcount : tracker.windowStart + count < 2 ^ 64) :
    Account origin (tracker.advance count) ∧ Advanced tracker (tracker.advance count) count ∧
      (tracker.advance count).windowStart = tracker.windowStart + count := by
  have hfina := h.finalized
  have hstart := h.start
  have huniq := h.unique
  obtain ⟨hadva, hwind⟩ := advance_spec count h.head (by omega) hcount
  refine ⟨?_, hadva, hwind⟩
  have hframe := hadva.frame
  have htake : (tracker.window.take count).count true ≤ count :=
    count_le_length.trans (length_take_le _ _)
  have hsplit : (tracker.window.take count).count true + (tracker.window.drop count).count true = tracker.marked := by
    rw [← count_append, take_append_drop, count_window]
  have hkept : (tracker.advance count).marked = (tracker.window.drop count).count true := by
    rw [← count_window, hadva.window, count_append, count_replicate]
    simp
  have hpack : (tracker.advance count).packetSeen = tracker.packetSeen := by rw [hframe]
  have hhigh : (tracker.advance count).highestSequence = tracker.highestSequence := by rw [hframe]
  refine ⟨by rw [hframe]; exact h.streamSet, by rw [hframe]; exact h.sequenceSet, hadva.head, by omega, ?_, ?_, ?_,
    hhigh ▸ h.highest⟩
  · rw [hadva.stats]
    simp only
    omega
  · rw [hkept, hadva.stats]
    simp only
    omega
  · intro i hi
    obtain ⟨hseen, hle⟩ := h.marks _ ((hadva.mark_iff i).mp hi)
    exact ⟨hpack.trans hseen, by omega⟩

/-- What it is to mark a number for the first time. -/
structure Marked (before after : PacketLossTracker) (sequence : ℕ) : Prop where
  frame : after = { before with
    received := after.received, highestSequence := after.highestSequence, packetSeen := true, stats := after.stats }
  new : before.window[sequence - before.windowStart]? = some false
  length : after.received.length = before.received.length
  window : after.window = before.window.set (sequence - before.windowStart) true
  highest : after.highestSequence = if before.packetSeen then max before.highestSequence sequence else sequence
  finalized : after.stats.finalizedReceived = before.stats.finalizedReceived ∧
    after.stats.confirmedLost = before.stats.confirmedLost
  unique : after.stats.uniqueReceived = saturatingAdd before.stats.uniqueReceived 1

variable {sequence : ℕ}

/-- **A number in the window** is marked, or it is there already and only counted. -/
lemma mark_cases (belowHighest : Bool) (hl : sequence - tracker.windowStart < tracker.received.length) :
    (tracker.window[sequence - tracker.windowStart]? = some true ∧
      (tracker.mark sequence belowHighest).1 = { tracker with
        stats := { tracker.stats with duplicates := saturatingAdd tracker.stats.duplicates 1 } }) ∨
      Marked tracker (tracker.mark sequence belowHighest).1 sequence := by
  have hs := getElem_window hl
  have hi : (tracker.head + (sequence - tracker.windowStart)) % tracker.received.length < tracker.received.length :=
    Nat.mod_lt _ (by omega)
  rw [getElem?_eq_getElem hi] at hs
  rw [PacketLossTracker.mark, getD_eq_getElem?_getD, getElem?_eq_getElem hi, Option.getD_some]
  cases hsl :
      tracker.received[(tracker.head + (sequence - tracker.windowStart)) % tracker.received.length] with
  | true => exact .inl ⟨by rw [hs, hsl], rfl⟩
  | false =>
    refine .inr ⟨rfl, by rw [hs, hsl], length_set .., rotate_set _ hl true, ?_, ?_, ?_⟩
    · simp only [Bool.false_eq_true, if_false]
      cases hse : tracker.packetSeen with
      | false => rfl
      | true =>
        by_cases hlo : tracker.highestSequence < sequence
        · simp [hlo, Nat.max_eq_right hlo.le]
        · simp [hlo, Nat.max_eq_left (not_lt.mp hlo)]
    · cases belowHighest with
      | true | false => exact ⟨rfl, rfl⟩
    · cases belowHighest with
      | true => rfl
      | false => rfl

lemma Account.marked (h : Account origin tracker)
    (hmark : Marked tracker after sequence) (hle : tracker.windowStart ≤ sequence) (hbound : sequence < 2 ^ 64 - 1) :
    Account origin after ∧ after.stats.uniqueReceived = tracker.stats.uniqueReceived + 1 := by
  obtain ⟨hleng, hslot⟩ := List.getElem?_eq_some_iff.mp hmark.new
  have hfina := h.finalized
  have hstart := h.start
  have huniq := h.unique
  have hhigh := h.highest
  have hfinal := hmark.finalized
  have hcount : after.marked = tracker.marked + 1 := by
    rw [← count_window, ← count_window, hmark.window, count_set hleng, hslot]
    simp
  have hwind : after.windowStart = tracker.windowStart := by rw [hmark.frame]
  have hpack : after.packetSeen := by rw [hmark.frame]
  have hhighe : sequence ≤ after.highestSequence ∧ after.highestSequence < 2 ^ 64 - 1 ∧
      (tracker.packetSeen → tracker.highestSequence ≤ after.highestSequence) := by
    rw [hmark.highest]
    split_ifs with hseen
    · exact ⟨Nat.le_max_right .., max_lt hhigh hbound, fun _ => Nat.le_max_left ..⟩
    · exact ⟨le_rfl, hbound, fun hnot => absurd hnot hseen⟩
  have hmarks : ∀ i, after.window[i]? = some true → after.windowStart + i ≤ after.highestSequence := by
    intro i hi
    rw [hmark.window, getElem?_set] at hi
    split at hi
    · omega
    · obtain ⟨hseen, hle⟩ := h.marks _ hi
      have := hhighe.2.2 hseen
      omega
  have hmarke := marked_le hmarks
  have hone : after.stats.uniqueReceived = tracker.stats.uniqueReceived + 1 := by
    rw [hmark.unique, saturatingAdd_eq (by omega)]
  refine ⟨⟨by rw [hmark.frame]; exact h.streamSet, by rw [hmark.frame]; exact h.sequenceSet, ?_, by omega,
    by omega, by omega, fun i hi => ⟨hpack, hmarks i hi⟩, hhighe.2.1⟩, hone⟩
  rw [hmark.length, hmark.frame]
  exact h.head

/-! ## Observing -/

/-- The number of a packet. -/
def sequenceOf (packet : VideoPacketHeader) : ℕ := packet.packetSequence.toNat

/-- Counters move that no account reads. -/
structure SameAccount (before after : PacketLossStats) : Prop where
  finalized : after.finalizedReceived = before.finalizedReceived
  lost : after.confirmedLost = before.confirmedLost
  unique : after.uniqueReceived = before.uniqueReceived

lemma Account.of_counters (h : Account origin tracker)
    (hs : SameAccount tracker.stats stats) : Account origin { tracker with stats := stats } :=
  ⟨h.streamSet, h.sequenceSet, h.head, h.start, by rw [hs.finalized, hs.lost]; exact h.finalized,
    by rw [hs.unique, hs.finalized]; exact h.unique, h.marks, h.highest⟩

/-- **What `observe` does once the window has started**: it only counts the packet, or the window moves on as far
as it has to, and the packet is marked there. -/
inductive Observed (tracker : PacketLossTracker) (packet : VideoPacketHeader) (after : PacketLossTracker) : Prop where
  | refused (hrefused : packet.streamId ≠ tracker.streamId ∨ sequenceOf packet < tracker.windowStart ∨
      tracker.maxForwardJump < sequenceOf packet -
        if tracker.packetSeen then tracker.highestSequence else tracker.windowStart)
      (stats : PacketLossStats) (hafter : after = { tracker with stats := stats })
      (hstats : SameAccount tracker.stats stats)
  | placed (moved : PacketLossTracker)
      (hmoved : (moved = tracker ∧ sequenceOf packet < tracker.windowStart + tracker.received.length) ∨
        ∃ count, moved = tracker.advance count ∧
          sequenceOf packet + 1 = tracker.windowStart + count + tracker.received.length)
      (hle : tracker.windowStart ≤ sequenceOf packet) (belowHighest : Bool)
      (hafter : after = (moved.mark (sequenceOf packet) belowHighest).1)

lemma observe_cases (hstre : tracker.streamSet) (hsequ : tracker.sequenceSet)
    (packet : VideoPacketHeader) : Observed tracker packet (tracker.observe packet).1 := by
  have hset : ¬ (!tracker.streamSet) := by simp [hstre]
  have hstar : ¬ (!tracker.sequenceSet) := by simp [hsequ]
  unfold observe
  dsimp only
  rw [if_neg hset]
  split_ifs with hother hlate hfirst hjump hahead hjump hahead
  · exact .refused (.inl hother) _ rfl ⟨rfl, rfl, rfl⟩
  · exact .refused (.inr (.inl hlate)) _ rfl ⟨rfl, rfl, rfl⟩
  · exact .refused (.inr (.inr (by rw [if_pos hfirst]; exact hjump.2))) _ rfl ⟨rfl, rfl, rfl⟩
  · exact .placed _ (.inr ⟨_, rfl, by rw [sequenceOf]; omega⟩) (not_lt.mp hlate) _ rfl
  · exact .placed _ (.inl ⟨rfl, by rw [sequenceOf]; omega⟩) (not_lt.mp hlate) _ rfl
  · exact .refused (.inr (.inr (by rw [if_neg hfirst]; exact hjump.2))) _ rfl ⟨rfl, rfl, rfl⟩
  · exact .placed _ (.inr ⟨_, rfl, by rw [sequenceOf]; omega⟩) (not_lt.mp hlate) _ rfl
  · exact .placed _ (.inl ⟨rfl, by rw [sequenceOf]; omega⟩) (not_lt.mp hlate) _ rfl

variable {packet : VideoPacketHeader}

/-- The window as it is when the packet is marked. -/
lemma Account.moved (h : Account origin tracker) {moved : PacketLossTracker}
    (hbound : sequenceOf packet < 2 ^ 64 - 1) (hle : tracker.windowStart ≤ sequenceOf packet)
    (hmoved : (moved = tracker ∧ sequenceOf packet < tracker.windowStart + tracker.received.length) ∨
      ∃ count, moved = tracker.advance count ∧
        sequenceOf packet + 1 = tracker.windowStart + count + tracker.received.length) :
    Account origin moved ∧ moved.windowStart ≤ sequenceOf packet ∧
      sequenceOf packet < moved.windowStart + moved.received.length := by
  have hhead := h.head
  rcases hmoved with ⟨rfl, hlt⟩ | ⟨count, rfl, hcount⟩
  · exact ⟨h, hle, hlt⟩
  · obtain ⟨hacco, hadva, hstart⟩ := h.advance count (by omega)
    have hleng := hadva.length
    exact ⟨hacco, by omega, by omega⟩

/-- **Observing a packet** keeps the account. -/
lemma Account.observe (h : Account origin tracker)
    (hbound : sequenceOf packet < 2 ^ 64 - 1) : Account origin (tracker.observe packet).1 := by
  rcases observe_cases h.streamSet h.sequenceSet packet with
    ⟨-, stats, hafter, hstats⟩ | ⟨moved, hmoved, hle, belowHighest, hafter⟩
  · rw [hafter]
    exact h.of_counters hstats
  · obtain ⟨hacco, hstart, hlt⟩ := h.moved hbound hle hmoved
    rw [hafter]
    have hslot : sequenceOf packet - moved.windowStart < moved.received.length := by omega
    rcases mark_cases belowHighest hslot with ⟨-, hdupl⟩ | hmark
    · rw [hdupl]
      exact hacco.of_counters ⟨rfl, rfl, rfl⟩
    · exact (hacco.marked hmark hstart hbound).1

lemma Account.finalizeThrough (h : Account origin tracker) (sequence : UInt64) :
    Account origin (tracker.finalizeThrough sequence).1 := by
  have hh := h.highest
  rw [PacketLossTracker.finalizeThrough]
  split_ifs with hr
  · exact h
  · simp only [Bool.or_eq_true, decide_eq_true_eq, not_or, not_lt] at hr
    rw [Nat.mod_eq_of_lt (by omega)]
    exact (h.advance _ (by omega)).1

lemma Account.flush (h : Account origin tracker) : Account origin tracker.flush := by
  have hh := h.highest
  rw [PacketLossTracker.flush]
  split_ifs with ha
  · simp only [Bool.and_eq_true, decide_eq_true_eq] at ha
    rw [Nat.mod_eq_of_lt (by omega)]
    exact (h.advance _ (by omega)).1
  · exact h

/-! ## Runs -/

inductive LossOp where
  | observe (packet : VideoPacketHeader)
  | finalizeThrough (sequence : UInt64)
  | flush

def apply (tracker : PacketLossTracker) : LossOp → PacketLossTracker
  | .observe packet => (tracker.observe packet).1
  | .finalizeThrough sequence => (tracker.finalizeThrough sequence).1
  | .flush => tracker.flush

def applyAll (tracker : PacketLossTracker) (ops : List LossOp) : PacketLossTracker := ops.foldl apply tracker

/-- No packet has the last number there is. -/
def LossOp.BelowLast : LossOp → Prop
  | .observe packet => sequenceOf packet < 2 ^ 64 - 1
  | _ => True

/-- The number the window starts with, where none is given: that of the first packet of the stream. -/
def firstOf (streamId : UInt32) : List LossOp → ℕ
  | [] => 0
  | .observe packet :: ops => if packet.streamId = streamId then sequenceOf packet else firstOf streamId ops
  | _ :: ops => firstOf streamId ops

/-- A tracker after a `reset` without a first number, before the first packet of its stream. -/
structure Idle (streamId : UInt32) (tracker : PacketLossTracker) : Prop where
  streamSet : tracker.streamSet = true
  sequenceSet : tracker.sequenceSet = false
  packetSeen : tracker.packetSeen = false
  streamId : tracker.streamId = streamId
  head : tracker.head = 0
  received : ∃ slots, 0 < slots ∧ tracker.received = List.replicate slots false
  windowStart : tracker.windowStart = 0
  stats : SameAccount {} tracker.stats

variable {ops : List LossOp}

lemma Account.applyAll (h : Account origin tracker) (ho : ∀ op ∈ ops, op.BelowLast) :
    Account origin (tracker.applyAll ops) := by
  induction ops generalizing tracker with
  | nil => exact h
  | cons op ops ih =>
    rw [forall_mem_cons] at ho
    refine ih ?_ ho.2
    cases op with
    | observe packet => exact h.observe ho.1
    | finalizeThrough sequence => exact h.finalizeThrough sequence
    | flush => exact h.flush

lemma account_new {slots start : ℕ} (hslots : 0 < slots) (hrece : tracker.received = replicate slots false)
    (hset : tracker.streamSet) (hsequ : tracker.sequenceSet) (hhead : tracker.head = 0)
    (hstart : tracker.windowStart = start) (hhigh : tracker.highestSequence < 2 ^ 64 - 1)
    (hstats : SameAccount {} tracker.stats) : Account start tracker := by
  have hwind : tracker.window = replicate slots false := by rw [window, hhead, rotate_zero, hrece]
  refine ⟨hset, hsequ, by simpa [hhead, hrece] using hslots, hstart.ge, ?_, ?_, ?_, hhigh⟩
  · rw [hstats.finalized, hstats.lost, hstart, Nat.sub_self]
    rfl
  · rw [hstats.unique, hstats.finalized, ← count_window, hwind, count_replicate]
    rfl
  · intro i hi
    rw [hwind, getElem?_replicate] at hi
    split at hi <;> simp at hi

variable {streamId : UInt32}

/-- **The first packet of the stream** starts the window. -/
lemma Idle.observe (h : Idle streamId tracker) (hbound : sequenceOf packet < 2 ^ 64 - 1) :
    (packet.streamId ≠ streamId ∧ Idle streamId (tracker.observe packet).1) ∨
      packet.streamId = streamId ∧ Account (sequenceOf packet) (tracker.observe packet).1 := by
  have hset : ¬ (!tracker.streamSet) := by simp [h.streamSet]
  have hunset : (!tracker.sequenceSet) := by simp [h.sequenceSet]
  obtain ⟨slots, hslots, hrece⟩ := h.received
  unfold PacketLossTracker.observe
  dsimp only
  rw [if_neg hset]
  by_cases hstre : packet.streamId = streamId
  · have hsame : ¬ packet.streamId ≠ tracker.streamId := by rw [h.streamId]; exact not_not.mpr hstre
    rw [if_neg hsame, if_pos hunset]
    refine .inr ⟨hstre, ?_⟩
    -- the first slot is marked in an empty window
    have hempty : Account (sequenceOf packet) { tracker with
        sequenceSet := true, windowStart := sequenceOf packet, highestSequence := sequenceOf packet } :=
      account_new hslots hrece h.streamSet rfl h.head rfl hbound h.stats
    refine (hempty.marked ?_ le_rfl hbound).1
    have hindex : tracker.received.set tracker.head true =
        tracker.received.set ((tracker.head + 0) % tracker.received.length) true := by
      simp [h.head]
    refine ⟨rfl, ?_, length_set .., ?_, ?_, ⟨rfl, rfl⟩, rfl⟩
    · simp [window, h.head, hrece, hslots]
    · simp only [window, Nat.sub_self, hindex]
      exact rotate_set _ (by rw [hrece, List.length_replicate]; exact hslots) true
    · simp [h.packetSeen, sequenceOf]
  · have hother : packet.streamId ≠ tracker.streamId := by rwa [h.streamId]
    rw [if_pos hother]
    refine .inl ⟨hstre, ⟨h.streamSet, h.sequenceSet, h.packetSeen, h.streamId, h.head, h.received, h.windowStart, ?_⟩⟩
    exact ⟨h.stats.finalized, h.stats.lost, h.stats.unique⟩

lemma Idle.applyAll (h : Idle streamId tracker) (ho : ∀ op ∈ ops, op.BelowLast) :
    (firstOf streamId ops = 0 ∧ Idle streamId (tracker.applyAll ops)) ∨
      Account (firstOf streamId ops) (tracker.applyAll ops) := by
  induction ops generalizing tracker with
  | nil => exact .inl ⟨rfl, h⟩
  | cons op ops ih =>
    rw [forall_mem_cons] at ho
    cases op with
    | observe packet =>
      rcases h.observe ho.1 with ⟨hot, hi⟩ | ⟨hs, ha⟩
      · simp only [firstOf, hot, if_false]
        exact ih hi ho.2
      · simp only [firstOf, hs, if_true]
        exact .inr (ha.applyAll ho.2)
    | finalizeThrough sequence =>
      have hsa : tracker.apply (.finalizeThrough sequence) = tracker := by
        simp [apply, PacketLossTracker.finalizeThrough, h.packetSeen]
      simp only [PacketLossTracker.applyAll, foldl_cons, hsa]
      exact ih h ho.2
    | flush =>
      have hsa : tracker.apply .flush = tracker := by
        simp [apply, PacketLossTracker.flush, h.packetSeen]
      simp only [PacketLossTracker.applyAll, foldl_cons, hsa]
      exact ih h ho.2

/-! ## Any order -/

/-- Packets of the stream with the numbers `seen` have been observed, all from `low` on, and the window has not
moved past that. -/
structure Gathered (start low slots jump : ℕ) (id : UInt32) (seen : Finset ℕ) (tracker : PacketLossTracker) : Prop where
  account : Account start tracker
  received : tracker.received.length = slots
  maxForwardJump : tracker.maxForwardJump = jump
  streamId : tracker.streamId = id
  unique : tracker.stats.uniqueReceived = seen.card
  window_le : tracker.windowStart ≤ low
  low_le : ∀ sequence ∈ seen, low ≤ sequence
  marked_iff : ∀ sequence, low ≤ sequence →
    (tracker.window[sequence - tracker.windowStart]? = some true ↔ sequence ∈ seen)
  highest : ∀ sequence ∈ seen, sequence ≤ tracker.highestSequence
  highest_mem : tracker.packetSeen = true → tracker.highestSequence ∈ seen

variable {start low slots jump : ℕ} {id : UInt32} {seen : Finset ℕ}

lemma Gathered.advance (h : Gathered start low slots jump id seen tracker)
    (hcount : tracker.windowStart + count ≤ low) (hlow : low < 2 ^ 64) :
    Gathered start low slots jump id seen (tracker.advance count) := by
  obtain ⟨hacco, hadva, hwind⟩ := h.account.advance count (by omega)
  have hframe := hadva.frame
  have hhigh : (tracker.advance count).highestSequence = tracker.highestSequence := by rw [hframe]
  have hpack : (tracker.advance count).packetSeen = tracker.packetSeen := by rw [hframe]
  refine ⟨hacco, hadva.length.trans h.received, by rw [hframe]; exact h.maxForwardJump,
    by rw [hframe]; exact h.streamId, by rw [hadva.stats]; exact h.unique, by omega, h.low_le, ?_, ?_, ?_⟩
  · intro sequence hsequ
    have hindex : count + (sequence - (tracker.advance count).windowStart) = sequence - tracker.windowStart := by omega
    rw [hadva.mark_iff, hindex, h.marked_iff sequence hsequ]
  · exact fun sequence hsequ => (h.highest sequence hsequ).trans hhigh.ge
  · intro hseen
    exact hhigh ▸ h.highest_mem (hpack ▸ hseen)

lemma Gathered.mark (h : Gathered start low slots jump id seen tracker) (belowHighest : Bool)
    (hlow : low ≤ sequence) (hlt : sequence - tracker.windowStart < tracker.received.length)
    (hbound : sequence < 2 ^ 64 - 1) :
    Gathered start low slots jump id (insert sequence seen) (tracker.mark sequence belowHighest).1 ∧
      (tracker.mark sequence belowHighest).1.packetSeen := by
  have hwind := h.window_le
  rcases mark_cases belowHighest hlt with ⟨hthere, hdupl⟩ | hmark
  · have hmem : sequence ∈ seen := (h.marked_iff _ hlow).mp hthere
    rw [hdupl, Finset.insert_eq_of_mem hmem]
    exact ⟨⟨h.account.of_counters ⟨rfl, rfl, rfl⟩, h.received, h.maxForwardJump, h.streamId, h.unique, h.window_le,
      h.low_le, h.marked_iff, h.highest, h.highest_mem⟩, (h.account.marks _ hthere).1⟩
  · obtain ⟨hacco, hone⟩ := h.account.marked hmark (by omega) hbound
    have hnew : sequence ∉ seen := fun hmem => by
      have := hmark.new.symm.trans ((h.marked_iff _ hlow).mpr hmem)
      simp at this
    generalize (tracker.mark sequence belowHighest).1 = after at hmark hacco hone
    have hframe := hmark.frame
    have hwindo : after.windowStart = tracker.windowStart := by rw [hframe]
    have hpack : after.packetSeen := by rw [hframe]
    refine ⟨⟨hacco, hmark.length.trans h.received, by rw [hframe]; exact h.maxForwardJump,
      by rw [hframe]; exact h.streamId, ?_, hwindo ▸ h.window_le, ?_, ?_, ?_, ?_⟩, hpack⟩
    · rw [hone, h.unique, Finset.card_insert_of_notMem hnew]
    · rw [Finset.forall_mem_insert]
      exact ⟨hlow, h.low_le⟩
    · intro other hother
      rw [hmark.window, hwindo, Finset.mem_insert, ← h.marked_iff other hother]
      rcases eq_or_ne other sequence with rfl | hne
      · simp [getElem?_set_self (length_window.symm ▸ hlt)]
      · rw [getElem?_set_ne (by omega)]
        simp [hne]
    · rw [hmark.highest, Finset.forall_mem_insert]
      split_ifs with hseen
      · exact ⟨Nat.le_max_right .., fun other hother => (h.highest other hother).trans (Nat.le_max_left ..)⟩
      · refine ⟨le_rfl, fun other hother => ?_⟩
        exact absurd (h.account.marks _ ((h.marked_iff other (h.low_le other hother)).mpr hother)).1 hseen
    · intro _
      rw [hmark.highest]
      split_ifs with hseen
      · rcases max_choice tracker.highestSequence sequence with hmax | hmax
        · rw [hmax]
          exact Finset.mem_insert_of_mem (h.highest_mem hseen)
        · rw [hmax]
          exact Finset.mem_insert_self ..
      · exact Finset.mem_insert_self ..

/-- A packet of the set that is observed. -/
structure InReach (start low slots jump : ℕ) (id : UInt32) (packet : VideoPacketHeader) : Prop where
  streamId : packet.streamId = id
  low_le : low ≤ sequenceOf packet
  lt_window : sequenceOf packet < low + slots
  le_jump : sequenceOf packet - start ≤ jump
  below_last : sequenceOf packet < 2 ^ 64 - 1

/-- **One packet more**, in whatever place. -/
lemma Gathered.observe (h : Gathered start low slots jump id seen tracker)
    (hunse : tracker.packetSeen = false → tracker.windowStart = start)
    (hstart : start ≤ low) (hpack : InReach start low slots jump id packet) :
    Gathered start low slots jump id (insert (sequenceOf packet) seen) (tracker.observe packet).1 ∧
      (tracker.observe packet).1.packetSeen := by
  have hwind := h.window_le
  have hlow := hpack.low_le
  have hhigh := hpack.lt_window
  have hjump := hpack.le_jump
  have hbound := hpack.below_last
  rcases observe_cases h.account.streamSet h.account.sequenceSet packet with
    ⟨hrefu, -⟩ | ⟨moved, hmoved, hle, belowHighest, hafter⟩
  · exfalso
    rcases hrefu with hother | hlate | hfar
    · exact hother (hpack.streamId.trans h.streamId.symm)
    · omega
    · rw [h.maxForwardJump] at hfar
      split_ifs at hfar with hseen
      · have := h.low_le _ (h.highest_mem hseen)
        omega
      · rw [hunse (by simpa using hseen)] at hfar
        omega
  · obtain ⟨-, hmove, hmovedL⟩ := h.account.moved hbound hle hmoved
    have hgath : Gathered start low slots jump id seen moved := by
      have hrece := h.received
      rcases hmoved with ⟨rfl, -⟩ | ⟨count, rfl, hcount⟩
      · exact h
      · exact h.advance (by omega) (by omega)
    rw [hafter]
    exact hgath.mark belowHighest hlow (by omega) hbound

lemma Gathered.observeAll {packets : List VideoPacketHeader} (h : Gathered start low slots jump id seen tracker)
    (hu : tracker.packetSeen = false → tracker.windowStart = start) (hs : start ≤ low)
    (hp : ∀ packet ∈ packets, InReach start low slots jump id packet) :
    Gathered start low slots jump id ((packets.map sequenceOf).toFinset ∪ seen)
        (tracker.applyAll (packets.map .observe)) ∧ ((tracker.applyAll (packets.map .observe)).packetSeen = false →
        (tracker.applyAll (packets.map .observe)).windowStart = start) := by
  induction packets generalizing tracker seen with
  | nil => simpa [PacketLossTracker.applyAll] using And.intro h hu
  | cons packet packets ih =>
    rw [forall_mem_cons] at hp
    obtain ⟨ho, hse⟩ := h.observe hu hs hp.1
    have hr := ih ho (fun hn => absurd hse (by simp [hn])) hp.2
    rw [Finset.union_insert] at hr
    rw [map_cons, toFinset_cons, Finset.insert_union]
    exact hr

/-- **The final count.** -/
lemma Gathered.flush (h : Gathered start low slots jump id seen tracker)
    (hunse : tracker.packetSeen = false → tracker.windowStart = start) :
    tracker.flush.stats.uniqueReceived = seen.card ∧ tracker.flush.stats.finalizedReceived = seen.card ∧
      (seen = ∅ → tracker.flush.stats.confirmedLost = 0) ∧ ∀ highest ∈ seen, (∀ sequence ∈ seen, sequence ≤ highest) →
        tracker.flush.stats.confirmedLost = highest + 1 - start - seen.card := by
  have hhigh := h.account.highest
  have huniq := h.unique
  have hacco := h.account.unique
  have haccou := h.account.finalized
  rw [PacketLossTracker.flush]
  cases hseen : tracker.packetSeen with
  | false =>
    have hnone : seen = ∅ := Finset.eq_empty_of_forall_notMem fun sequence hsequ => by
      have := (h.account.marks _ ((h.marked_iff _ (h.low_le _ hsequ)).mpr hsequ)).1
      rw [hseen] at this
      cases this
    have hstart := hunse hseen
    subst hnone
    rw [Finset.card_empty] at huniq ⊢
    simp only [Bool.false_and, Bool.false_eq_true, if_false]
    exact ⟨huniq, by omega, fun _ => by omega, by simp⟩
  | true =>
    have hmem := h.highest_mem hseen
    have hle := (h.window_le).trans (h.low_le _ hmem)
    have hcount : tracker.windowStart + (tracker.highestSequence - tracker.windowStart + 1) =
        tracker.highestSequence + 1 := by omega
    obtain ⟨haccoun, hadva, hwind⟩ :=
      h.account.advance (tracker.highestSequence - tracker.windowStart + 1) (by omega)
    have hmark := marked_le fun i hi => (haccoun.marks i hi).2
    have hfina := haccoun.finalized
    have haccountA := haccoun.unique
    have hstart := h.account.start
    have hsame : (tracker.advance (tracker.highestSequence - tracker.windowStart + 1)).highestSequence =
        tracker.highestSequence := by rw [hadva.frame]
    have hsameU : (tracker.advance (tracker.highestSequence - tracker.windowStart + 1)).stats.uniqueReceived =
        tracker.stats.uniqueReceived := by rw [hadva.stats]
    simp only [hle, decide_true, Bool.and_self, if_true]
    rw [Nat.mod_eq_of_lt (by omega)]
    refine ⟨by omega, by omega, fun hnone => ?_, fun highest hhighe hgrea => ?_⟩
    · rw [hnone] at hmem
      exact absurd hmem (Finset.notMem_empty _)
    · have := hgrea _ hmem
      have := h.highest _ hhighe
      omega

/-! ## After a reset -/

/-- The number the window starts with after a `reset`. -/
def startOf (streamId : UInt32) (initialSequence : Option UInt64) (ops : List LossOp) : ℕ :=
  initialSequence.elim (firstOf streamId ops) UInt64.toNat

lemma new_received_pos (reorderWindow maxForwardJump : ℕ) : 0 < (new reorderWindow maxForwardJump).received.length := by
  simp only [new, List.length_replicate]
  omega

lemma account_reset {initial : UInt64} (hs : 0 < tracker.received.length) (streamId : UInt32)
    (hi : initial.toNat < 2 ^ 64 - 1) : Account initial.toNat (tracker.reset streamId (some initial)) :=
  account_new hs rfl rfl rfl rfl rfl hi ⟨rfl, rfl, rfl⟩

/-- The counters balance. -/
def Balanced (start : ℕ) (tracker : PacketLossTracker) : Prop :=
  tracker.stats.uniqueReceived = tracker.stats.finalizedReceived + tracker.marked ∧ start ≤ tracker.windowStart ∧
    tracker.stats.finalizedReceived + tracker.stats.confirmedLost = tracker.windowStart - start

lemma balanced_applyAll (hs : 0 < tracker.received.length) (streamId : UInt32) {initialSequence : Option UInt64}
    (hi : ∀ initial ∈ initialSequence, initial.toNat < 2 ^ 64 - 1) (ho : ∀ op ∈ ops, op.BelowLast) :
    Balanced (startOf streamId initialSequence ops) ((tracker.reset streamId initialSequence).applyAll ops) := by
  cases initialSequence with
  | some initial =>
    have h := (account_reset hs streamId (hi initial rfl)).applyAll ho
    exact ⟨h.unique, h.start, h.finalized⟩
  | none =>
    have hid : Idle streamId (tracker.reset streamId none) :=
      ⟨rfl, rfl, rfl, rfl, rfl, ⟨_, hs, rfl⟩, rfl, ⟨rfl, rfl, rfl⟩⟩
    rcases hid.applyAll ho with ⟨hf, h⟩ | h
    · obtain ⟨slots, -, hr⟩ := h.received
      simp only [Balanced, startOf, Option.elim_none, hf, marked, hr, h.windowStart, h.stats.unique,
        h.stats.finalized, h.stats.lost, count_replicate]
      simp
    · exact ⟨h.unique, h.start, h.finalized⟩

/-- **Packets are conserved, in any order.**  After a `reset` of any tracker that has a window, as every
constructed one has, and away from the last number there is, every run
keeps the counters balanced: what has come in is what is finalized and what is marked in the window, and what is
finalized or lost is how far the window has moved.  And packets with numbers from a given first one on, which lie
within one window and the limit for jumps, give the same counts in any order and with any duplicates once they are
flushed: the distinct numbers, and the gaps below the highest. -/
theorem packets_conserved (tracker : PacketLossTracker) (hslots : 0 < tracker.received.length) (streamId : UInt32) :
    (∀ (initialSequence : Option UInt64) (ops : List LossOp),
      (∀ initial ∈ initialSequence, initial.toNat < 2 ^ 64 - 1) → (∀ op ∈ ops, op.BelowLast) →
        Balanced (startOf streamId initialSequence ops)
          ((tracker.reset streamId initialSequence).applyAll ops)) ∧
    ∀ (initial : UInt64) (low : ℕ) (packets : List VideoPacketHeader), initial.toNat ≤ low →
      initial.toNat < 2 ^ 64 - 1 →
      (∀ packet ∈ packets, InReach initial.toNat low tracker.received.length tracker.maxForwardJump streamId
        packet) →
      let seen := (packets.map sequenceOf).toFinset
      let flushed := ((tracker.reset streamId (some initial)).applyAll (packets.map .observe)).flush
      flushed.stats.uniqueReceived = seen.card ∧ flushed.stats.finalizedReceived = seen.card ∧
        (seen = ∅ → flushed.stats.confirmedLost = 0) ∧
        ∀ highest ∈ seen, (∀ sequence ∈ seen, sequence ≤ highest) →
          flushed.stats.confirmedLost = highest + 1 - initial.toNat - seen.card := by
  refine ⟨fun _ _ hinitial hops => balanced_applyAll hslots streamId hinitial hops, ?_⟩
  intro initial low packets hlow hinitial hpackets
  have haccount := account_reset hslots streamId hinitial
  have hempty : Gathered initial.toNat low tracker.received.length tracker.maxForwardJump streamId ∅
      (tracker.reset streamId (some initial)) := by
    refine ⟨haccount, List.length_replicate, rfl, rfl, rfl, hlow, by simp, ?_, by simp, ?_⟩
    · intro sequence _
      rw [Finset.notMem_empty sequence |> iff_false_intro, iff_false]
      exact fun hmarked => Bool.false_ne_true (haccount.marks _ hmarked).1
    · exact fun hseen => absurd hseen Bool.false_ne_true
  obtain ⟨hgathered, hunseen⟩ := hempty.observeAll (fun _ => rfl) hlow hpackets
  rw [Finset.union_empty] at hgathered
  exact hgathered.flush hunseen

/-- A packet of stream 7. -/
def packetOf (sequence : UInt64) : VideoPacketHeader := { streamId := 7, packetSequence := sequence }

/-- Three packets from number 10 on, out of order and one of them twice: two numbers are missing below the highest. -/
theorem packets_conserved_gaps :
    Balanced 10 (((new 8 100).reset 7 (some 10)).applyAll [.observe (packetOf 12), .flush]) ∧
      ((((new 8 100).reset 7 (some 10)).applyAll
        ([packetOf 14, packetOf 10, packetOf 14, packetOf 12].map .observe)).flush.stats.confirmedLost = 14 + 1 - 10 - 3) := by
  refine ⟨(packets_conserved (new 8 100) (new_received_pos 8 100) 7).1 (some 10) [.observe (packetOf 12), .flush] ?_ ?_, ?_⟩
  · intro initial hinitial
    cases hinitial
    decide
  · intro op hop
    rcases List.mem_cons.mp hop with rfl | hop
    · show sequenceOf (packetOf 12) < 2 ^ 64 - 1
      decide
    · rw [List.mem_singleton] at hop
      subst hop
      trivial
  · have hreach : ∀ packet ∈ [packetOf 14, packetOf 10, packetOf 14, packetOf 12],
        InReach (10 : UInt64).toNat 10 (new 8 100).received.length (new 8 100).maxForwardJump 7 packet := by
      intro packet hpacket
      simp only [List.mem_cons, List.not_mem_nil, or_false] at hpacket
      rcases hpacket with rfl | rfl | rfl | rfl <;> exact ⟨rfl, by decide, by decide, by decide, by decide⟩
    have hcounts := (packets_conserved (new 8 100) (new_received_pos 8 100) 7).2 10 10 _ le_rfl (by decide) hreach
    exact hcounts.2.2.2 14 (by decide) (by decide)

end PacketLossTracker

end Nstu.Video
