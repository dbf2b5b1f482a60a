import Nstu.Video.Transport
import Mathlib.Data.List.Pairwise

/-!
# The numbers of video packets

`packetize` is called again and again after one `reset`.  The packet sequence numbers of all datagrams and
the frame ids of the calls go up, and no counter wraps, as long as no frame ends with the last number there is
(**`inOrder_packetizeAll`**).  A frame that ends with it is let through, and the counter is back at zero
(**`wraps_after_last_number`**).
-/

namespace Nstu.Video

open Wire Control

/-- The arguments of one call of `packetize`. -/
structure PacketizeCall where
  accessUnit : Bytes
  captureTime100ns : UInt64
  keyframe : Bool
  authenticationKey : Bytes

namespace VideoPacketizer

section Runs

variable (hmac : Bytes → Bytes → Digest)

def packetizeCall (packetizer : VideoPacketizer) (call : PacketizeCall) :
    Except String (List VideoDatagram × VideoPacketizer) :=
  packetizer.packetize hmac call.accessUnit call.captureTime100ns call.keyframe call.authenticationKey

/-- One call of a run: the datagrams, none where it is refused, and the packetizer after it. -/
def sendCall (packetizer : VideoPacketizer) (call : PacketizeCall) : List VideoDatagram × VideoPacketizer :=
  match packetizer.packetizeCall hmac call with
  | .ok sent => sent
  | .error _ => ([], packetizer)

/-- The datagrams of each call of a run. -/
def packetizeAll (packetizer : VideoPacketizer) : List PacketizeCall → List (List VideoDatagram)
  | [] => []
  | call :: calls => (packetizer.sendCall hmac call).1 :: (packetizer.sendCall hmac call).2.packetizeAll calls

/-- The packetizer after a run. -/
def afterCalls (packetizer : VideoPacketizer) (calls : List PacketizeCall) : VideoPacketizer :=
  calls.foldl (fun packetizer call => (packetizer.sendCall hmac call).2) packetizer

/-- A call moves both counters on by what it has sent, or it is refused and moves neither. -/
def Counts (packetizer : VideoPacketizer) (call : PacketizeCall) : Prop :=
  match packetizer.packetizeCall hmac call with
  | .ok (datagrams, after) =>
    after.nextPacketSequence.toNat = packetizer.nextPacketSequence.toNat + datagrams.length ∧
      after.nextFrameId.toNat = packetizer.nextFrameId.toNat + 1
  | .error _ => (packetizer.sendCall hmac call).2 = packetizer

/-- The numbers of a run are in order. -/
structure InOrder (packetizer : VideoPacketizer) (calls : List PacketizeCall) : Prop where
  packets : ((packetizer.packetizeAll hmac calls).flatten.map fun datagram =>
    datagram.header.packetSequence).Pairwise (· < ·)
  frames : (packetizer.packetizeAll hmac calls).Pairwise fun earlier later =>
    ∀ first ∈ earlier, ∀ second ∈ later, first.header.frameId < second.header.frameId
  counts : ∀ i (hi : i < calls.length), (packetizer.afterCalls hmac (calls.take i)).Counts hmac calls[i]

/-- What `packetize` asks of its input and its counters before it cuts an access unit. -/
structure Takes (packetizer : VideoPacketizer) (call : PacketizeCall) : Prop where
  initialized : packetizer.initialized = true
  accessUnit : call.accessUnit ≠ []
  key : kMinimumProtocolKeyBytes ≤ call.authenticationKey.length
  fragments : packetizer.fragmentCount call.accessUnit ≤ min packetizer.config.maximumFragments.toNat (2 ^ 16 - 1)
  numbers : packetizer.nextPacketSequence.toNat + packetizer.fragmentCount call.accessUnit ≤ 2 ^ 64
  frame : packetizer.nextFrameId.toNat ≠ 2 ^ 64 - 1

/-- The fragments of no call that passes these checks end with the number `2 ^ 64 - 1`. -/
def LeavesLast (packetizer : VideoPacketizer) : List PacketizeCall → Prop
  | [] => True
  | call :: calls =>
    (packetizer.Takes call →
      packetizer.nextPacketSequence.toNat + packetizer.fragmentCount call.accessUnit ≠ 2 ^ 64) ∧
      (packetizer.sendCall hmac call).2.LeavesLast calls

variable {hmac} {packetizer : VideoPacketizer} {call : PacketizeCall} {calls : List PacketizeCall}

/-- What a call that is accepted has sent. -/
structure Numbered (packetizer : VideoPacketizer) (datagrams : List VideoDatagram) (after : VideoPacketizer) :
    Prop where
  packets : after.nextPacketSequence.toNat = packetizer.nextPacketSequence.toNat + datagrams.length
  frames : after.nextFrameId.toNat = packetizer.nextFrameId.toNat + 1
  sequence : ∀ i (hi : i < datagrams.length),
    datagrams[i].header.packetSequence.toNat = packetizer.nextPacketSequence.toNat + i
  frameId : ∀ datagram ∈ datagrams, datagram.header.frameId = packetizer.nextFrameId

/-- A call that is accepted has passed the checks. -/
lemma takes_of_packetizeCall {datagrams : List VideoDatagram} {after : VideoPacketizer}
    (h : packetizer.packetizeCall hmac call = .ok (datagrams, after)) : packetizer.Takes call := by
  rw [packetizeCall, packetize] at h
  split_ifs at h with hinput hlimit hframe
  simp only [Bool.or_eq_true, Bool.not_eq_true', List.isEmpty_iff, decide_eq_true_eq, not_or,
    Bool.not_eq_false, Nat.not_lt] at hinput hlimit
  have hsequence := packetizer.nextPacketSequence.toNat_lt
  exact ⟨hinput.1.1, hinput.1.2, hinput.2, by omega, by omega, hframe⟩

/-- **What an accepted call sends**, where its fragments do not end with the last number. -/
lemma numbered_packetizeCall {datagrams : List VideoDatagram} {after : VideoPacketizer}
    (hlast : packetizer.Takes call →
      packetizer.nextPacketSequence.toNat + packetizer.fragmentCount call.accessUnit ≠ 2 ^ 64)
    (h : packetizer.packetizeCall hmac call = .ok (datagrams, after)) : Numbered packetizer datagrams after := by
  have hspec := packetize_spec h
  have hlast := hlast (takes_of_packetizeCall h)
  obtain ⟨hlow, hhigh⟩ := packetizer.fragmentCount_bounds call.accessUnit
  have hsequ := packetizer.nextPacketSequence.toNat_lt
  have hframe := packetizer.nextFrameId.toNat_lt
  rw [packetizeCall, packetize] at h
  split_ifs at h with hinput hlimi hid
  split at h
  · contradiction
  · rename_i cut hcut
    obtain ⟨rfl, rfl⟩ := Prod.mk.inj (Except.ok.inj h)
    have hleng := (cutFragments_spec hlow hhigh hcut).1
    have hfits : packetizer.nextPacketSequence.toNat + cut.length < 2 ^ 64 := by omega
    have hone : (1 : UInt64).toNat = 1 := rfl
    refine ⟨?_, ?_, ?_, ?_⟩
    · rw [UInt64.toNat_add, UInt64.toNat_ofNat_of_lt' (by rw [UInt64.size]; omega), ← hleng]
      exact Nat.mod_eq_of_lt hfits
    · rw [UInt64.toNat_add, hone]
      exact Nat.mod_eq_of_lt (by omega)
    · intro i hi
      rw [(hspec.fragment i hi).header]
      simp only [fragmentHeader]
      rw [UInt64.toNat_add, UInt64.toNat_ofNat_of_lt' (by rw [UInt64.size]; omega)]
      exact Nat.mod_eq_of_lt (by omega)
    · intro datagram hdata
      obtain ⟨i, hi, rfl⟩ := List.mem_iff_getElem.mp hdata
      rw [(hspec.fragment i hi).header]
      rfl

/-- The numbers of what has been sent are from those of one packetizer on, and before those of the next. -/
structure Between (packetizer after : VideoPacketizer) (datagrams : List VideoDatagram) : Prop where
  packets_le : packetizer.nextPacketSequence ≤ after.nextPacketSequence
  frames_le : packetizer.nextFrameId ≤ after.nextFrameId
  increasing : (datagrams.map fun datagram => datagram.header.packetSequence).Pairwise (· < ·)
  packet : ∀ datagram ∈ datagrams, packetizer.nextPacketSequence ≤ datagram.header.packetSequence ∧
    datagram.header.packetSequence < after.nextPacketSequence
  frame : ∀ datagram ∈ datagrams, packetizer.nextFrameId ≤ datagram.header.frameId ∧
    datagram.header.frameId < after.nextFrameId

lemma Numbered.between {datagrams : List VideoDatagram} {after : VideoPacketizer}
    (h : Numbered packetizer datagrams after) : Between packetizer after datagrams where
  packets_le := by
    rw [UInt64.le_iff_toNat_le, h.packets]
    exact Nat.le_add_right ..
  frames_le := by
    rw [UInt64.le_iff_toNat_le, h.frames]
    exact Nat.le_add_right ..
  increasing := by
    rw [List.pairwise_iff_getElem]
    intro i j hi hj hij
    rw [List.length_map] at hi hj
    rw [List.getElem_map, List.getElem_map, UInt64.lt_iff_toNat_lt, h.sequence i hi, h.sequence j hj]
    omega
  packet := by
    intro datagram hd
    obtain ⟨i, hi, rfl⟩ := List.mem_iff_getElem.mp hd
    rw [UInt64.le_iff_toNat_le, UInt64.lt_iff_toNat_lt, h.sequence i hi, h.packets]
    omega
  frame := by
    intro datagram hd
    rw [h.frameId datagram hd, UInt64.lt_iff_toNat_lt, h.frames]
    exact ⟨UInt64.le_refl _, Nat.lt_succ_self _⟩

/-- **One call**: it is refused and changes nothing, or its numbers lie between the counters. -/
lemma sendCall_cases (hmac : Bytes → Bytes → Digest)
    (hl : packetizer.Takes call →
      packetizer.nextPacketSequence.toNat + packetizer.fragmentCount call.accessUnit ≠ 2 ^ 64) :
    packetizer.Counts hmac call ∧
      Between packetizer (packetizer.sendCall hmac call).2 (packetizer.sendCall hmac call).1 := by
  cases hc : packetizer.packetizeCall hmac call with
  | ok sent =>
    have hn := numbered_packetizeCall hl hc
    simp only [Counts, sendCall, hc]
    exact ⟨⟨hn.packets, hn.frames⟩, hn.between⟩
  | error message =>
    simp only [Counts, sendCall, hc]
    exact ⟨trivial, ⟨UInt64.le_refl _, UInt64.le_refl _, by simp, by simp, by simp⟩⟩

/-- What a run sends has the numbers from the counters on. -/
lemma le_of_mem_packetizeAll (hl : packetizer.LeavesLast hmac calls) :
    ∀ datagrams ∈ packetizer.packetizeAll hmac calls, ∀ datagram ∈ datagrams,
      packetizer.nextPacketSequence ≤ datagram.header.packetSequence ∧
        packetizer.nextFrameId ≤ datagram.header.frameId := by
  induction calls generalizing packetizer with
  | nil => simp [packetizeAll]
  | cons call calls ih =>
    obtain ⟨hc, hca⟩ := hl
    have hb := (sendCall_cases hmac hc).2
    simp only [packetizeAll, List.forall_mem_cons]
    constructor
    · intro datagram hd
      exact ⟨(hb.packet datagram hd).1, (hb.frame datagram hd).1⟩
    · intro datagrams hda datagram hd
      obtain ⟨hp, hf⟩ := ih hca datagrams hda datagram hd
      exact ⟨UInt64.le_trans hb.packets_le hp, UInt64.le_trans hb.frames_le hf⟩

lemma inOrder_of_leavesLast (hlast : packetizer.LeavesLast hmac calls) : packetizer.InOrder hmac calls := by
  induction calls generalizing packetizer with
  | nil => exact ⟨by simp [packetizeAll], by simp [packetizeAll], by simp⟩
  | cons call calls ih =>
    obtain ⟨hcall, hcalls⟩ := hlast
    obtain ⟨hcoun, hbetw⟩ := sendCall_cases hmac hcall
    have hlater := le_of_mem_packetizeAll hcalls
    have hrest := ih hcalls
    refine ⟨?_, ?_, ?_⟩
    · simp only [packetizeAll, List.flatten_cons, List.map_append, List.pairwise_append]
      refine ⟨hbetw.increasing, hrest.packets, ?_⟩
      simp only [List.forall_mem_map, List.mem_flatten]
      rintro first hfirst second ⟨datagrams, hdata, hseco⟩
      exact UInt64.lt_of_lt_of_le (hbetw.packet first hfirst).2 (hlater datagrams hdata second hseco).1
    · simp only [packetizeAll, List.pairwise_cons]
      refine ⟨?_, hrest.frames⟩
      intro datagrams hdata first hfirst second hseco
      exact UInt64.lt_of_lt_of_le (hbetw.frame first hfirst).2 (hlater datagrams hdata second hseco).2
    · intro i hi
      cases i with
      | zero => exact hcoun
      | succ i => exact hrest.counts i (by simpa using hi)

/-- **Packet and frame numbers go up.**  In every run after one `reset` in which the fragments of no call that
passes the checks end with the number `2 ^ 64 - 1`, the packet sequence numbers of all datagrams and the frame ids of the calls are
strictly increasing; each call moves the counters on without wrapping, or is refused and moves neither. -/
theorem inOrder_packetizeAll (packetizer : VideoPacketizer) (streamId : UInt32)
    (firstPacketSequence firstFrameId : UInt64) (calls : List PacketizeCall)
    (hlast : (packetizer.reset streamId firstPacketSequence firstFrameId).LeavesLast hmac calls) :
    (packetizer.reset streamId firstPacketSequence firstFrameId).InOrder hmac calls :=
  inOrder_of_leavesLast hlast

end Runs

/-- One byte of video. -/
def oneByteCall : PacketizeCall := ⟨[10], 9, true, List.replicate 32 1⟩

/-- Two frames of one packet each, from number 5 on. -/
theorem inOrder_twoFrames :
    ((VideoPacketizer.new {}).reset 7 5 3).InOrder (fun _ _ => Block.zero 32) [oneByteCall, oneByteCall] :=
  inOrder_packetizeAll (VideoPacketizer.new {}) 7 5 3 [oneByteCall, oneByteCall]
    ⟨fun _ => by decide, fun _ => by decide, trivial⟩

/-- **The last number.**  A frame of one packet is sent with the number `2 ^ 64 - 1`, and the next one with
the number zero. -/
theorem wraps_after_last_number : ¬ ∀ (hmac : Bytes → Bytes → Digest) (packetizer : VideoPacketizer) (streamId : UInt32)
      (firstPacketSequence firstFrameId : UInt64) (calls : List PacketizeCall),
      (packetizer.reset streamId firstPacketSequence firstFrameId).InOrder hmac calls := by
  intro h
  have hpackets := (h (fun _ _ => Block.zero 32) (VideoPacketizer.new {}) 7 (UInt64.ofNat (2 ^ 64 - 1)) 3
    [oneByteCall, oneByteCall]).packets
  have hsent : (((VideoPacketizer.new {}).reset 7 (UInt64.ofNat (2 ^ 64 - 1)) 3).packetizeAll
      (fun _ _ => Block.zero 32) [oneByteCall, oneByteCall]).flatten.map
        (fun datagram => datagram.header.packetSequence) = [UInt64.ofNat (2 ^ 64 - 1), 0] := by rfl
  rw [hsent] at hpackets
  exact absurd hpackets (by decide)

end VideoPacketizer

end Nstu.Video
