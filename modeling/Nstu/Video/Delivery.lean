import Nstu.Video.Reassembler
import Mathlib.Algebra.BigOperators.Group.List.Basic
import Mathlib.Algebra.Order.BigOperators.Group.List
import Mathlib.Data.List.Nodup
import Mathlib.Data.Nat.Find

/-!
# Frames come through in any order

The fragments of an access unit go over a network that may reorder and repeat them.  `Receiving` says what
the reassembler holds after some of them: the frame with exactly those in their places.  Every arrival is
then answered by `answer`, and the frame comes out when the last fragment that was missing comes in.
-/

namespace Nstu.Video

open Wire VideoPacketizer List
open FrameReassembler (isInvalid storeFragment startFrame pushAll)

/-! ## One element of a list without duplicates -/

section Lists

variable {α β : Type} {items : List α}

lemma map_set_of_nodup (hit : items.Nodup) {i : ℕ} (hi : i < items.length) {f g : α → β} {v : β}
    (hs : g items[i] = v) (ho : ∀ item ∈ items, item ≠ items[i] → g item = f item) :
    (items.map f).set i v = items.map g := by
  refine ext_getElem (by simp) fun j hj _ => ?_
  rw [length_set, List.length_map] at hj
  rw [getElem_set]
  split_ifs with hij
  · subst hij
    simp [hs]
  · rw [getElem_map, getElem_map, ho items[j] (getElem_mem hj)]
    exact fun he => hij (hit.getElem_inj_iff.mp he).symm

lemma sum_map_of_nodup (hi : items.Nodup) {item : α} (hit : item ∈ items) {f g : α → ℕ} {v : ℕ}
    (hs : g item = f item + v) (ho : ∀ item' ∈ items, item' ≠ item → g item' = f item') :
    (items.map g).sum = (items.map f).sum + v := by
  induction items with
  | nil => contradiction
  | cons head tail ih =>
    rw [nodup_cons] at hi
    simp only [map_cons, sum_cons]
    rcases mem_cons.mp hit with rfl | ht
    · have : tail.map g = tail.map f := map_congr_left fun item' hi' =>
        ho item' (mem_cons_of_mem _ hi') (by rintro rfl; exact hi.1 hi')
      rw [this, hs]
      omega
    · have hh := ho head (mem_cons_self ..) (by rintro rfl; exact hi.1 ht)
      rw [ih hi.2 ht (fun item' hi' => ho item' (mem_cons_of_mem _ hi')), hh]
      omega

lemma sum_indicator_eq_length (items : List α) (p : α → Prop) [DecidablePred p] :
    (items.map fun item => if p item then 1 else 0).sum = items.length ↔ ∀ item ∈ items, p item := by
  have hl : ∀ items : List α, (items.map fun item => if p item then 1 else 0).sum ≤ items.length := by
    intro items
    induction items with
    | nil => simp
    | cons head tail ih =>
      simp only [map_cons, sum_cons, length_cons]
      split_ifs <;> omega
  induction items with
  | nil => simp
  | cons head tail ih =>
    have := hl tail
    simp only [map_cons, sum_cons, length_cons, forall_mem_cons]
    split_ifs with hh
    · constructor
      · intro h
        exact ⟨hh, ih.mp (by omega)⟩
      · intro h
        have := ih.mpr h.2
        omega
    · constructor
      · intro h
        omega
      · intro h
        exact absurd h.1 hh

end Lists

/-! ## The fragments of one frame -/

section Frame

variable {hmac : Bytes → Bytes → Digest} {packetizer : VideoPacketizer} {captureTime : UInt64} {keyframe : Bool}
  {key accessUnit : Bytes} {datagrams : List VideoDatagram}

namespace VideoPacketizer.Fragments

lemma length_lt (h : Fragments hmac packetizer captureTime keyframe key accessUnit datagrams) :
    datagrams.length < 2 ^ 16 := by
  have := h.bound
  have := packetizer.fragments
  omega

lemma nodup (h : Fragments hmac packetizer captureTime keyframe key accessUnit datagrams) : datagrams.Nodup := by
  refine List.Nodup.of_map (fun datagram => datagram.header.fragmentIndex.toNat) ?_
  have hr : datagrams.map (fun datagram => datagram.header.fragmentIndex.toNat) = range datagrams.length := by
    refine ext_getElem (by simp) fun i hi _ => ?_
    rw [List.length_map] at hi
    have := h.length_lt
    rw [getElem_map, getElem_range, (h.fragment i hi).toNat_fragmentIndex (by omega)]
  rw [hr]
  exact nodup_range

/-- **Every fragment survives the wire.** -/
lemma decode_wire (h : Fragments hmac packetizer captureTime keyframe key accessUnit datagrams)
    {datagram : VideoDatagram} (hd : datagram ∈ datagrams) :
    decodeVideoDatagram hmac datagram.wire key = .ok datagram := by
  obtain ⟨i, hi, rfl⟩ := mem_iff_getElem.mp hd
  exact (h.fragment i hi).decode_wire hi h.length_lt

end VideoPacketizer.Fragments

variable (packetizer accessUnit datagrams) in
/-- Limits that the frame keeps. -/
structure WithinLimits (limits : ClampedLimits) : Prop where
  payload : packetizer.payloadLimit ≤ limits.maxFragmentPayload
  count : datagrams.length ≤ limits.maxFragmentsPerFrame.toNat
  bytes : accessUnit.length ≤ limits.maxFrameBytes

lemma hasFlag_flags (keyframe : Bool) (last : Prop) [Decidable last] :
    hasFlag ((if keyframe then VideoFlags.keyframe else 0) ||| (if last then VideoFlags.endOfFrame else 0))
        .endOfFrame = decide last ∧
      hasFlag ((if keyframe then VideoFlags.keyframe else 0) ||| (if last then VideoFlags.endOfFrame else 0))
        .keyframe = keyframe := by
  by_cases hl : last <;> cases keyframe <;> simp only [hl, if_true, if_false] <;> exact ⟨rfl, rfl⟩

variable {limits : ClampedLimits} {i : ℕ}

lemma isInvalid_eq_false (h : Fragments hmac packetizer captureTime keyframe key accessUnit datagrams)
    (hlimi : WithinLimits packetizer accessUnit datagrams limits) (hi : i < datagrams.length) :
    isInvalid limits datagrams[i].header datagrams[i].payload = false := by
  have hfrag := h.fragment i hi
  have hleng := h.length_lt
  have hindex := hfrag.toNat_fragmentIndex (by omega)
  have hcount := hfrag.toNat_fragmentCount hleng
  have hnone := hfrag.nonempty
  have hfits := hfrag.fits
  have hlimit := hlimi.payload
  have hlimitC := hlimi.count
  have hvers := (hfrag.wellFormed hi hleng).version
  have hflags : hasFlag datagrams[i].header.flags .endOfFrame = decide (i + 1 = datagrams.length) := by
    rw [hfrag.header]
    exact (hasFlag_flags keyframe (i + 1 = datagrams.length)).1
  have hzero : datagrams[i].header.fragmentCount ≠ 0 := by
    intro hzero
    rw [hzero, UInt16.toNat_zero] at hcount
    omega
  have hpayl : datagrams[i].payload ≠ [] := ne_nil_of_length_pos hnone
  have hlast : (datagrams[i].header.fragmentIndex.toNat == datagrams[i].header.fragmentCount.toNat - 1) =
      decide (i + 1 = datagrams.length) := by
    rw [hindex, hcount, Bool.eq_iff_iff, beq_iff_eq, decide_eq_true_eq]
    omega
  simp only [isInvalid, hflags, hlast, hfrag.toNat_payloadBytes, hvers, Bool.or_eq_false_iff,
    decide_eq_false_iff_not, bne_eq_false_iff_eq]
  refine ⟨⟨⟨⟨⟨⟨⟨by simp, hzero⟩, ?_⟩, ?_⟩, by simp⟩, by simpa using hpayl⟩, by omega⟩, by simp [hzero]⟩
  · rw [UInt16.lt_iff_toNat_lt, hcount]
    omega
  · rw [UInt16.le_iff_toNat_le, hindex, hcount]
    omega

/-! ## What the reassembler holds -/

/-- All fragments of the frame are among these. -/
def AllIn (datagrams seen : List VideoDatagram) : Prop := ∀ datagram ∈ datagrams, datagram ∈ seen

instance (datagrams seen : List VideoDatagram) : Decidable (AllIn datagrams seen) :=
  inferInstanceAs (Decidable (∀ datagram ∈ datagrams, datagram ∈ seen))

variable (captureTime keyframe datagrams) in
/-- The frame with the fragments that have been seen in their places. -/
def partialFrame (seen : List VideoDatagram) (deadline : ℤ) : PartialFrame where
  fragmentCount := UInt16.ofNat datagrams.length
  receivedCount := (datagrams.map fun datagram => if datagram ∈ seen then 1 else 0).sum
  captureTime100ns := captureTime
  keyframe := keyframe
  totalBytes := (datagrams.map fun datagram => if datagram ∈ seen then datagram.payload.length else 0).sum
  deadline := deadline
  fragments := datagrams.map fun datagram => if datagram ∈ seen then datagram.payload else []
  received := datagrams.map fun datagram => decide (datagram ∈ seen)

variable (packetizer captureTime keyframe datagrams) in
/-- **What the reassembler holds** after these arrivals, for a frame whose first fragment came at the given
deadline less the time a frame may take. -/
structure Receiving (seen : List VideoDatagram) (deadline : ℤ) (reassembler : FrameReassembler) : Prop where
  streamSet : reassembler.streamSet = true
  streamId : reassembler.streamId = packetizer.streamId
  frames : reassembler.frames =
    if seen = [] ∨ AllIn datagrams seen then []
    else [(packetizer.nextFrameId, partialFrame captureTime keyframe datagrams seen deadline)]
  buffered : ¬ AllIn datagrams seen →
    reassembler.stats.bufferedBytes = (partialFrame captureTime keyframe datagrams seen deadline).totalBytes
  order : ¬ AllIn datagrams seen → reassembler.completedOrder = []
  recent : packetizer.nextFrameId ∈ reassembler.completedRecent ↔ AllIn datagrams seen

variable (packetizer captureTime keyframe accessUnit) in
/-- The frame that comes out. -/
def wholeFrame : CompletedFrame where
  streamId := packetizer.streamId
  frameId := packetizer.nextFrameId
  captureTime100ns := captureTime
  keyframe := keyframe
  payload := accessUnit

variable (packetizer captureTime keyframe accessUnit datagrams) in
/-- **How an arrival is answered**, after those that have been seen. -/
def answer (seen : List VideoDatagram) (datagram : VideoDatagram) : ReassemblyResult :=
  if AllIn datagrams seen then ⟨.lateCompletedFrame, none⟩
  else if datagram ∈ seen then ⟨.duplicate, none⟩
  else if AllIn datagrams (seen ++ [datagram]) then
    ⟨.frameComplete, some (wholeFrame packetizer captureTime keyframe accessUnit)⟩
  else ⟨.accepted, none⟩

variable {datagram : VideoDatagram} {seen : List VideoDatagram}

lemma mem_concat_iff {other : VideoDatagram} (h : other ≠ datagram) : other ∈ seen ++ [datagram] ↔ other ∈ seen := by
  simp [h]

lemma storeFragment_partialFrame (h : Fragments hmac packetizer captureTime keyframe key accessUnit datagrams)
    (deadline : ℤ) (hi : i < datagrams.length) (hseen : datagrams[i] ∉ seen) :
    storeFragment (partialFrame captureTime keyframe datagrams seen deadline) datagrams[i].header
        datagrams[i].payload = partialFrame captureTime keyframe datagrams (seen ++ [datagrams[i]]) deadline := by
  have hmem : datagrams[i] ∈ datagrams := getElem_mem hi
  have hleng := h.length_lt
  have hindex := (h.fragment i hi).toNat_fragmentIndex (by omega)
  have hkeyf : hasFlag datagrams[i].header.flags .keyframe = keyframe := by
    rw [(h.fragment i hi).header]
    exact (hasFlag_flags keyframe (i + 1 = datagrams.length)).2
  have hother : ∀ other ∈ datagrams, other ≠ datagrams[i] → (other ∈ seen ++ [datagrams[i]] ↔ other ∈ seen) :=
    fun other _ hne => mem_concat_iff hne
  simp only [storeFragment, partialFrame, hindex, hkeyf, Bool.or_self, PartialFrame.mk.injEq,
    true_and]
  refine ⟨?_, ?_, ?_, ?_⟩
  · refine (sum_map_of_nodup h.nodup hmem ?_ ?_).symm
    · simp [hseen]
    · intro other hitem hne
      simp only [hother other hitem hne]
  · refine (sum_map_of_nodup h.nodup hmem ?_ ?_).symm
    · simp [hseen]
    · intro other hitem hne
      simp only [hother other hitem hne]
  · refine map_set_of_nodup h.nodup hi ?_ ?_
    · simp
    · intro other hitem hne
      simp only [hother other hitem hne]
  · refine map_set_of_nodup h.nodup hi ?_ ?_
    · simp
    · intro other hitem hne
      simp only [hother other hitem hne]

lemma totalBytes_le (h : Fragments hmac packetizer captureTime keyframe key accessUnit datagrams)
    (seen : List VideoDatagram) (deadline : ℤ) :
    (partialFrame captureTime keyframe datagrams seen deadline).totalBytes ≤ accessUnit.length := by
  rw [← h.payload, length_flatMap]
  refine sum_le_sum fun datagram _ => ?_
  split_ifs
  · exact le_refl _
  · exact Nat.zero_le _

lemma startFrame_eq (h : Fragments hmac packetizer captureTime keyframe key accessUnit datagrams)
    (hi : i < datagrams.length) (now : ℤ) : startFrame limits datagrams[i].header now =
      partialFrame captureTime keyframe datagrams [] (now + limits.frameDeadline) := by
  have hc := (h.fragment i hi).toNat_fragmentCount h.length_lt
  have hk : hasFlag datagrams[i].header.flags .keyframe = keyframe := by
    rw [(h.fragment i hi).header]
    exact (hasFlag_flags keyframe (i + 1 = datagrams.length)).2
  simp only [startFrame, partialFrame, hc, hk, not_mem_nil, if_false, decide_false,
    map_const', sum_replicate, nsmul_zero, PartialFrame.mk.injEq, true_and]
  rw [(h.fragment i hi).header]
  exact ⟨rfl, rfl, trivial⟩

lemma flatten_fragments (h : Fragments hmac packetizer captureTime keyframe key accessUnit datagrams)
    (ha : AllIn datagrams seen) (deadline : ℤ) :
    (partialFrame captureTime keyframe datagrams seen deadline).fragments.flatten = accessUnit := by
  have hm : (partialFrame captureTime keyframe datagrams seen deadline).fragments =
      datagrams.map VideoDatagram.payload :=
    map_congr_left fun datagram hd => if_pos (ha datagram hd)
  rw [hm, ← flatMap_def, h.payload]

lemma receivedCount_ne_iff (h : Fragments hmac packetizer captureTime keyframe key accessUnit datagrams)
    (seen : List VideoDatagram) (deadline : ℤ) :
    (partialFrame captureTime keyframe datagrams seen deadline).receivedCount ≠
        (partialFrame captureTime keyframe datagrams seen deadline).fragmentCount.toNat ↔ ¬ AllIn datagrams seen := by
  have hc : (UInt16.ofNat datagrams.length).toNat = datagrams.length := UInt16.toNat_ofNat_of_lt' h.length_lt
  simp only [partialFrame, hc]
  exact not_congr (sum_indicator_eq_length datagrams (· ∈ seen))

lemma partialFrame_of_mem (hs : datagram ∈ seen) (deadline : ℤ) :
    partialFrame captureTime keyframe datagrams (seen ++ [datagram]) deadline =
      partialFrame captureTime keyframe datagrams seen deadline := by
  have hm : ∀ other, other ∈ seen ++ [datagram] ↔ other ∈ seen := by
    intro other
    rw [mem_append, mem_singleton]
    constructor
    · rintro (ho | rfl)
      · exact ho
      · exact hs
    · exact .inl
  simp only [partialFrame, hm]

lemma allIn_concat_of_mem (hs : datagram ∈ seen) : AllIn datagrams (seen ++ [datagram]) ↔ AllIn datagrams seen := by
  refine forall₂_congr fun other _ => ?_
  rw [mem_append, mem_singleton]
  constructor
  · rintro (ho | rfl)
    · exact ho
    · exact hs
  · exact .inl

/-! ## One arrival -/

namespace FrameReassembler

lemma length_pushAll (reassembler : FrameReassembler) (arrivals : List (VideoDatagram × ℤ)) :
    (reassembler.pushAll arrivals).length = arrivals.length := by
  induction arrivals generalizing reassembler with
  | nil => rfl
  | cons arrival rest ih => simp [pushAll, ih]

variable {reassembler : FrameReassembler} {now : ℤ}

lemma expire_eq_self
    (h : ∀ entry ∈ reassembler.frames, now < entry.2.deadline) : reassembler.expire now = reassembler := by
  have hk : reassembler.frames.filter (fun entry => decide (now < entry.2.deadline)) = reassembler.frames :=
    filter_eq_self.mpr fun entry he => decide_eq_true (h entry he)
  have hexpi : reassembler.frames.filter (fun entry => decide (entry.2.deadline ≤ now)) = [] :=
    filter_eq_nil_iff.mpr fun entry he => by simpa using h entry he
  simp [expire, hk, hexpi]

variable {seen : List VideoDatagram} {deadline : ℤ} {i : ℕ}

/-- **A valid fragment of the frame in flight**: it is stored, or it was there. -/
lemma pushInto_spec (h : Fragments hmac packetizer captureTime keyframe key accessUnit datagrams)
    (reassembler : FrameReassembler) (hlimi : WithinLimits packetizer accessUnit datagrams reassembler.limits)
    (hset : reassembler.streamSet) (hstre : reassembler.streamId = packetizer.streamId)
    (hfram : reassembler.frames =
      [(packetizer.nextFrameId, partialFrame captureTime keyframe datagrams seen deadline)])
    (hbuff : reassembler.stats.bufferedBytes =
      (partialFrame captureTime keyframe datagrams seen deadline).totalBytes)
    (horder : reassembler.completedOrder = []) (hrece : packetizer.nextFrameId ∉ reassembler.completedRecent)
    (hall : ¬ AllIn datagrams seen) (hi : i < datagrams.length) :
    (reassembler.pushInto datagrams[i].header datagrams[i].payload
        (partialFrame captureTime keyframe datagrams seen deadline)).2 =
      answer packetizer captureTime keyframe accessUnit datagrams seen datagrams[i] ∧
    (reassembler.pushInto datagrams[i].header datagrams[i].payload
        (partialFrame captureTime keyframe datagrams seen deadline)).1.limits = reassembler.limits ∧
    Receiving packetizer captureTime keyframe datagrams (seen ++ [datagrams[i]]) deadline
      (reassembler.pushInto datagrams[i].header datagrams[i].payload
        (partialFrame captureTime keyframe datagrams seen deadline)).1 := by
  have hfrag := h.fragment i hi
  have hindex := hfrag.toNat_fragmentIndex (by have := h.length_lt; omega)
  have hcount : (partialFrame captureTime keyframe datagrams seen deadline).fragmentCount =
      datagrams[i].header.fragmentCount := by
    rw [hfrag.header]
    rfl
  have htime : (partialFrame captureTime keyframe datagrams seen deadline).captureTime100ns =
      datagrams[i].header.captureTime100ns := by
    rw [hfrag.header]
    rfl
  have hid : datagrams[i].header.frameId = packetizer.nextFrameId := by
    rw [hfrag.header]
    rfl
  have hrecei : (partialFrame captureTime keyframe datagrams seen deadline).received.getD i false =
      decide (datagrams[i] ∈ seen) := by
    simp [partialFrame, hi]
  have hstor : (partialFrame captureTime keyframe datagrams seen deadline).fragments.getD i [] =
      if datagrams[i] ∈ seen then datagrams[i].payload else [] := by
    simp [partialFrame, hi]
  rw [pushInto, if_neg (by simp [hcount, htime]), hindex, hrecei, hstor]
  by_cases hseen : datagrams[i] ∈ seen
  · simp only [hseen, decide_true, if_true]
    refine ⟨by simp [answer, hall, hseen], trivial, hset, hstre, ?_, ?_, ?_, ?_⟩
    · simp [hfram, allIn_concat_of_mem hseen, hall, partialFrame_of_mem hseen]
    · simp [hbuff, partialFrame_of_mem hseen]
    · simp [horder]
    · simp [hrece, allIn_concat_of_mem hseen, hall]
  · have hstore := storeFragment_partialFrame h deadline hi hseen
    have hbytes : (partialFrame captureTime keyframe datagrams seen deadline).totalBytes + datagrams[i].payload.length =
        (partialFrame captureTime keyframe datagrams (seen ++ [datagrams[i]]) deadline).totalBytes :=
      congrArg PartialFrame.totalBytes hstore
    have hfull : reassembler.isFull (partialFrame captureTime keyframe datagrams seen deadline)
        datagrams[i].payload.length = false := by
      have htotal := totalBytes_le h (seen ++ [datagrams[i]]) deadline
      have hframe := hlimi.bytes
      have hbuffe := reassembler.limits.frame_le_total
      simp only [isFull, hbuff, Bool.or_eq_false_iff, decide_eq_false_iff_not]
      omega
    have hset' : setFrame reassembler.frames packetizer.nextFrameId
        (partialFrame captureTime keyframe datagrams (seen ++ [datagrams[i]]) deadline) =
        [(packetizer.nextFrameId, partialFrame captureTime keyframe datagrams (seen ++ [datagrams[i]]) deadline)] := by
      simp [hfram, setFrame]
    have hreceiv := receivedCount_ne_iff h (seen ++ [datagrams[i]]) deadline
    simp only [hseen, decide_false, Bool.false_eq_true, if_false, hfull, hstore, hid, hset']
    by_cases hlast : AllIn datagrams (seen ++ [datagrams[i]])
    · rw [if_neg (by rw [hreceiv]; exact not_not.mpr hlast)]
      refine ⟨?_, rfl, hset, hstre, ?_, ?_, ?_, ?_⟩
      · simp only [answer, hall, hseen, hlast, if_true, if_false, complete, wholeFrame, hstre,
          flatten_fragments h hlast]
        rfl
      · simp [complete, rememberCompleted, eraseFrame, hlast]
      · exact fun hnot => absurd hlast hnot
      · exact fun hnot => absurd hlast hnot
      · simp [complete, rememberCompleted, trimCompleted, horder, hlast]
    · rw [if_pos (hreceiv.mpr hlast)]
      refine ⟨by simp [answer, hall, hseen, hlast], rfl, hset, hstre, ?_, ?_, ?_, ?_⟩
      · simp [hlast]
      · exact fun _ => by rw [hbuff, hbytes]
      · exact fun _ => horder
      · exact iff_of_false hrece hlast

/-- **One arrival** is answered, and the reassembler holds it from then on. -/
lemma push_spec (h : Fragments hmac packetizer captureTime keyframe key accessUnit datagrams)
    (hlimi : WithinLimits packetizer accessUnit datagrams reassembler.limits)
    (hrece : Receiving packetizer captureTime keyframe datagrams seen deadline reassembler)
    (hnow : now < deadline) (hfirst : seen = [] → deadline = now + reassembler.limits.frameDeadline)
    (hi : i < datagrams.length) : (reassembler.push datagrams[i].header datagrams[i].payload now).2 =
      answer packetizer captureTime keyframe accessUnit datagrams seen datagrams[i] ∧
    (reassembler.push datagrams[i].header datagrams[i].payload now).1.limits = reassembler.limits ∧
    Receiving packetizer captureTime keyframe datagrams (seen ++ [datagrams[i]]) deadline
      (reassembler.push datagrams[i].header datagrams[i].payload now).1 := by
  have hexpi : reassembler.expire now = reassembler := by
    refine expire_eq_self fun entry hentry => ?_
    rw [hrece.frames] at hentry
    split_ifs at hentry
    · contradiction
    · rw [mem_singleton.mp hentry]
      exact hnow
  have hstre : datagrams[i].header.streamId = packetizer.streamId := by
    rw [(h.fragment i hi).header]
    rfl
  have hid : datagrams[i].header.frameId = packetizer.nextFrameId := by
    rw [(h.fragment i hi).header]
    rfl
  simp only [push, hexpi]
  rw [if_neg (by simp [hrece.streamSet]), if_neg (by simp [hrece.streamId, hstre]),
    if_neg (by simp [isInvalid_eq_false h hlimi hi]), hid]
  by_cases hall : AllIn datagrams seen
  · have hall' : AllIn datagrams (seen ++ [datagrams[i]]) := fun other hother =>
      mem_append_left _ (hall other hother)
    rw [if_pos (hrece.recent.mpr hall)]
    refine ⟨by simp [answer, hall], rfl, hrece.streamSet, hrece.streamId, ?_, ?_, ?_, ?_⟩
    · simp [hrece.frames, hall, hall']
    · exact fun hnot => absurd hall' hnot
    · exact fun hnot => absurd hall' hnot
    · exact iff_of_true (hrece.recent.mpr hall) hall'
  · have hrecen : packetizer.nextFrameId ∉ reassembler.completedRecent := fun hmem => hall (hrece.recent.mp hmem)
    rw [if_neg hrecen, pushFragment, hid]
    by_cases hseen : seen = []
    · have hfram : reassembler.frames = [] := by simp [hrece.frames, hseen]
      have hroom : ¬ reassembler.limits.maxFramesInFlight ≤ ([] : List (UInt64 × PartialFrame)).length := by
        have := reassembler.limits.frames_pos
        rw [length_nil]
        omega
      have hstart : startFrame reassembler.limits datagrams[i].header now =
          partialFrame captureTime keyframe datagrams seen deadline := by
        rw [startFrame_eq h hi, hseen, hfirst hseen]
      have hopen := pushInto_spec h { reassembler with
          frames := [(packetizer.nextFrameId, partialFrame captureTime keyframe datagrams seen deadline)] }
        hlimi hrece.streamSet hrece.streamId rfl (hrece.buffered hall) (hrece.order hall) hrecen
        hall hi
      have hlook : reassembler.frames.lookup packetizer.nextFrameId = none := by simp [hfram]
      rw [hlook]
      simpa only [hroom, if_false, hstart, hfram, nil_append] using hopen
    · have hfram : reassembler.frames =
          [(packetizer.nextFrameId, partialFrame captureTime keyframe datagrams seen deadline)] := by
        rw [hrece.frames, if_neg (by simp [hseen, hall])]
      have hstor := pushInto_spec h reassembler hlimi hrece.streamSet hrece.streamId hfram
        (hrece.buffered hall) (hrece.order hall) hrecen hall hi
      have hlook : reassembler.frames.lookup packetizer.nextFrameId =
          some (partialFrame captureTime keyframe datagrams seen deadline) := by simp [hfram]
      simpa only [hlook] using hstor

end FrameReassembler

/-! ## Any order -/

variable {reassembler : FrameReassembler}

lemma receiving_reset (h : Fragments hmac packetizer captureTime keyframe key accessUnit datagrams) (deadline : ℤ) :
    Receiving packetizer captureTime keyframe datagrams [] deadline (reassembler.reset packetizer.streamId) := by
  have ha : ¬ AllIn datagrams [] := by
    intro ha
    exact absurd (ha _ (getElem_mem h.pos)) not_mem_nil
  refine ⟨rfl, rfl, by simp [FrameReassembler.reset], ?_, fun _ => rfl, ?_⟩
  · intro _
    simp [FrameReassembler.reset, partialFrame]
  · exact iff_of_false not_mem_nil ha

/-- The answer to each arrival, in any order and with copies. -/
lemma pushAll_spec (h : Fragments hmac packetizer captureTime keyframe key accessUnit datagrams)
    (hlimi : WithinLimits packetizer accessUnit datagrams reassembler.limits) {deadline : ℤ}
    (hrece : Receiving packetizer captureTime keyframe datagrams seen deadline reassembler)
    {arrivals : List (VideoDatagram × ℤ)} (harri : ∀ arrival ∈ arrivals, arrival.1 ∈ datagrams)
    (hnow : ∀ arrival ∈ arrivals, arrival.2 < deadline)
    (hfirst : seen = [] → ∀ arrival ∈ arrivals.head?, deadline = arrival.2 + reassembler.limits.frameDeadline)
    (hi : i < arrivals.length) :
    (reassembler.pushAll arrivals)[i]? = some (answer packetizer captureTime keyframe accessUnit datagrams
      (seen ++ (arrivals.take i).map Prod.fst) arrivals[i].1) := by
  induction arrivals generalizing reassembler seen i with
  | nil => simp at hi
  | cons arrival rest ih =>
    obtain ⟨j, hj, hdata⟩ := mem_iff_getElem.mp (harri arrival (mem_cons_self ..))
    have hpush := FrameReassembler.push_spec h hlimi hrece (hnow arrival (mem_cons_self ..))
      (fun hseen => hfirst hseen arrival rfl) hj
    rw [hdata] at hpush
    obtain ⟨hansw, hkeep, hnext⟩ := hpush
    cases i with
    | zero => simp [pushAll, hansw]
    | succ i =>
      have := ih (by rw [hkeep]; exact hlimi) hnext
        (fun other hother => harri other (mem_cons_of_mem _ hother))
        (fun other hother => hnow other (mem_cons_of_mem _ hother)) (by simp) (by simpa using hi)
      simpa [pushAll] using this

lemma AllIn.mono {seen seen' : List VideoDatagram} (h : AllIn datagrams seen) (hs : seen ⊆ seen') :
    AllIn datagrams seen' :=
  fun datagram hd => hs (h datagram hd)

lemma answer_frameComplete_iff :
    (answer packetizer captureTime keyframe accessUnit datagrams seen datagram).disposition = .frameComplete ↔
      ¬ AllIn datagrams seen ∧ AllIn datagrams (seen ++ [datagram]) := by
  by_cases ha : AllIn datagrams seen
  · simp [answer, ha]
  · by_cases hs : datagram ∈ seen
    · simp [answer, ha, hs, allIn_concat_of_mem hs]
    · by_cases hl : AllIn datagrams (seen ++ [datagram])
      · simp [answer, ha, hs, hl]
      · simp [answer, ha, hs, hl]

lemma existsUnique_gathered (hpos : 0 < datagrams.length) (h : AllIn datagrams seen) :
    ∃! i, ∃ hi : i < seen.length, ¬ AllIn datagrams (seen.take i) ∧ AllIn datagrams (seen.take i ++ [seen[i]]) := by
  have hex : ∃ n, AllIn datagrams (seen.take n) := ⟨seen.length, by rwa [take_length]⟩
  have hfind : 0 < Nat.find hex := by
    rw [Nat.find_pos]
    intro hzero
    rw [take_zero] at hzero
    exact absurd (hzero _ (getElem_mem hpos)) not_mem_nil
  have hleng : Nat.find hex ≤ seen.length := Nat.find_min' hex (by rwa [take_length])
  have hsucc : Nat.find hex - 1 + 1 = Nat.find hex := by omega
  refine ⟨Nat.find hex - 1, ⟨by omega, Nat.find_min hex (by omega), ?_⟩, ?_⟩
  · rw [← take_succ_eq_append_getElem (by omega), hsucc]
    exact Nat.find_spec hex
  · rintro i ⟨hi, hbefo, hafter⟩
    rw [← take_succ_eq_append_getElem hi] at hafter
    have hle : Nat.find hex ≤ i + 1 := Nat.find_min' hex hafter
    have hge : i < Nat.find hex := by
      by_contra hnot
      exact hbefo ((Nat.find_spec hex).mono (take_subset_take_left seen (by omega)))
    omega

/-- **Frames come through in any order.**  Each fragment survives the wire; and whatever the order in which the
fragments come in, and however often, as long as it is before the deadline, each is answered as `answer` says,
and the frame comes out once. -/
theorem frames_come_through {after : VideoPacketizer} (reassembler : FrameReassembler)
    (hpacketize : packetizer.packetize hmac accessUnit captureTime keyframe key = .ok (datagrams, after))
    (hpayload : packetizer.payloadLimit ≤ reassembler.limits.maxFragmentPayload)
    (hcount : datagrams.length ≤ reassembler.limits.maxFragmentsPerFrame.toNat)
    (hbytes : accessUnit.length ≤ reassembler.limits.maxFrameBytes) :
    (∀ datagram ∈ datagrams, decodeVideoDatagram hmac datagram.wire key = .ok datagram) ∧
    ∀ arrivals : List (VideoDatagram × ℤ), (∀ arrival ∈ arrivals, arrival.1 ∈ datagrams) →
      (∀ first ∈ arrivals.head?, ∀ arrival ∈ arrivals, arrival.2 < first.2 + reassembler.limits.frameDeadline) →
      (∀ i (hi : i < arrivals.length), ((reassembler.reset packetizer.streamId).pushAll arrivals)[i]? =
        some (answer packetizer captureTime keyframe accessUnit datagrams ((arrivals.take i).map Prod.fst)
          arrivals[i].1)) ∧ (AllIn datagrams (arrivals.map Prod.fst) →
        ∃! i : ℕ, (((reassembler.reset packetizer.streamId).pushAll arrivals).map ReassemblyResult.disposition)[i]? =
          some FragmentDisposition.frameComplete) := by
  have h := packetize_spec hpacketize
  refine ⟨fun datagram hdatagram => h.decode_wire hdatagram, ?_⟩
  intro arrivals harrivals hdeadline
  have hanswer : ∀ i (hi : i < arrivals.length), ((reassembler.reset packetizer.streamId).pushAll arrivals)[i]? =
      some (answer packetizer captureTime keyframe accessUnit datagrams ((arrivals.take i).map Prod.fst)
        arrivals[i].1) := by
    cases arrivals with
    | nil => simp
    | cons first rest =>
      intro i hi
      have hlimits : WithinLimits packetizer accessUnit datagrams (reassembler.reset packetizer.streamId).limits :=
        ⟨hpayload, hcount, hbytes⟩
      refine pushAll_spec h hlimits (receiving_reset h (first.2 + reassembler.limits.frameDeadline)) harrivals ?_ ?_ hi
      · exact hdeadline first rfl
      · intro _ arrival harrival
        obtain rfl : first = arrival := Option.some.inj harrival
        rfl
  refine ⟨hanswer, fun hall => ?_⟩
  obtain ⟨i, ⟨hi, hbefore, hafter⟩, hunique⟩ := existsUnique_gathered h.pos hall
  have hlength : (arrivals.map Prod.fst).length = arrivals.length := List.length_map ..
  have hplace : ∀ j (hj : j < arrivals.length),
      (((reassembler.reset packetizer.streamId).pushAll arrivals).map ReassemblyResult.disposition)[j]? =
          some FragmentDisposition.frameComplete ↔
        ¬ AllIn datagrams ((arrivals.map Prod.fst).take j) ∧
          AllIn datagrams ((arrivals.map Prod.fst).take j ++ [(arrivals.map Prod.fst)[j]]) := by
    intro j hj
    rw [List.getElem?_map, hanswer j hj, Option.map_some, Option.some.injEq, answer_frameComplete_iff, List.map_take,
      List.getElem_map]
  refine ⟨i, (hplace i (hlength ▸ hi)).mpr ⟨hbefore, hafter⟩, fun j hj => ?_⟩
  have hjlt : j < arrivals.length := by
    have := (List.getElem?_eq_some_iff.mp hj).1
    rwa [List.length_map, FrameReassembler.length_pushAll] at this
  exact hunique j ⟨hlength ▸ hjlt, (hplace j hjlt).mp hj⟩

/-! ## A frame of two fragments -/

/-- One byte to a datagram. -/
def byteByByte : VideoPacketizer := (VideoPacketizer.new { maximumDatagramBytes := 0 }).reset 7 0 3

def zeroTag : Bytes → Bytes → Digest := fun _ _ => Block.zero 32

/-- A fragment of a key frame of two bytes. -/
def twoBytesFragment (index : ℕ) : VideoDatagram where
  header := byteByByte.fragmentHeader 9 true 2 index 1
  tag := Block.zero 16
  payload := [UInt8.ofNat (10 + index)]

/-- The second fragment comes first, and twice. -/
theorem twoBytes_come_through : ∃! i : ℕ, ((((FrameReassembler.new {}).reset 7).pushAll
        [(twoBytesFragment 1, 0), (twoBytesFragment 1, 5), (twoBytesFragment 0, 9), (twoBytesFragment 1, 10)]).map
      ReassemblyResult.disposition)[i]? = some FragmentDisposition.frameComplete := by
  have hpacketize : byteByByte.packetize zeroTag [10, 11] 9 true (List.replicate 32 1) =
      .ok ([twoBytesFragment 0, twoBytesFragment 1], { byteByByte with nextPacketSequence := 2, nextFrameId := 4 }) :=
    rfl
  have harrivals : ∀ arrival ∈ [(twoBytesFragment 1, (0 : ℤ)), (twoBytesFragment 1, 5), (twoBytesFragment 0, 9),
      (twoBytesFragment 1, 10)], arrival.1 ∈ [twoBytesFragment 0, twoBytesFragment 1] := by simp
  refine ((frames_come_through (FrameReassembler.new {}) hpacketize (by decide) (by decide) (by decide)).2 _
    harrivals ?_).2 ?_
  · simp [FrameReassembler.new, clampLimits]
  · simp [AllIn]

end Frame

end Nstu.Video
