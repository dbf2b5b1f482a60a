import Nstu.Video.Delivery

/-!
# The memory of the reassembler

The bytes that `FrameReassembler` counts as buffered are those of the fragments it holds, after any calls with
any headers, payloads and times (**`accounted_calls`**).  `Accounted` is what every call keeps; it bounds the
bytes and the frames, and with it every subtraction from the counter is exact.
-/

namespace Nstu.Video

open Wire List

/-- The bytes of the fragments that have come in. -/
def PartialFrame.receivedBytes (frame : PartialFrame) : ℕ :=
  ((List.range frame.fragmentCount.toNat).map fun i =>
    if frame.received.getD i false then (frame.fragments.getD i []).length else 0).sum

/-- A frame in flight counts what it holds, and waits for at least one fragment. -/
structure PartialFrame.Sound (frame : PartialFrame) : Prop where
  fragments : frame.fragments.length = frame.fragmentCount.toNat
  received : frame.received.length = frame.fragmentCount.toNat
  totalBytes : frame.totalBytes = frame.receivedBytes
  receivedCount : frame.receivedCount = frame.received.count true
  incomplete : frame.receivedCount < frame.fragmentCount.toNat

/-- The bytes that the frames count for themselves. -/
def bytesOf (frames : List (UInt64 × PartialFrame)) : ℕ := (frames.map fun entry => entry.2.totalBytes).sum

namespace FrameReassembler

/-- **The account of the buffer.** -/
structure Accounted (reassembler : FrameReassembler) : Prop where
  nodup : (reassembler.frames.map Prod.fst).Nodup
  sound : ∀ entry ∈ reassembler.frames, entry.2.Sound
  buffered : reassembler.stats.bufferedBytes = bytesOf reassembler.frames
  bytes_le : reassembler.stats.bufferedBytes ≤ reassembler.limits.maxTotalBufferedBytes
  frames_le : reassembler.frames.length ≤ reassembler.limits.maxFramesInFlight

/-! ## One fragment -/

variable {header : VideoPacketHeader}

lemma sound_startFrame (limits : ClampedLimits) (now : ℤ)
    (h : header.fragmentCount ≠ 0) : (startFrame limits header now).Sound := by
  have hp : header.fragmentCount.toNat ≠ 0 := fun hz => h (UInt16.toNat_inj.mp hz)
  refine ⟨length_replicate, length_replicate, ?_, ?_, Nat.pos_of_ne_zero hp⟩
  · have hn : ∀ i, (replicate header.fragmentCount.toNat false).getD i false = false := by
      intro i
      rw [getD_eq_getElem?_getD, getElem?_replicate]
      split <;> rfl
    simp only [startFrame, PartialFrame.receivedBytes, hn]
    simp
  · simp [startFrame, count_replicate]

/-- What a fragment that is new does to its frame. -/
lemma sound_storeFragment {frame : PartialFrame} (payload : Bytes) (h : frame.Sound)
    (hindex : header.fragmentIndex.toNat < frame.fragmentCount.toNat)
    (hnew : frame.received.getD header.fragmentIndex.toNat false = false)
    (hopen : (storeFragment frame header payload).receivedCount ≠ frame.fragmentCount.toNat) :
    (storeFragment frame header payload).Sound := by
  have hrece := h.received
  have hfrag := h.fragments
  have hget : frame.received[header.fragmentIndex.toNat] = false := by
    rwa [getD_eq_getElem?_getD, getElem?_eq_getElem (by omega), Option.getD_some] at hnew
  have hinco := h.incomplete
  have hrece' : header.fragmentIndex.toNat < frame.received.length := by omega
  have hfrag' : header.fragmentIndex.toNat < frame.fragments.length := by omega
  refine ⟨by simpa [storeFragment] using hfrag, by simpa [storeFragment] using hrece, ?_, ?_, ?_⟩
  · simp only [storeFragment, PartialFrame.receivedBytes]
    rw [h.totalBytes, PartialFrame.receivedBytes]
    refine (sum_map_of_nodup nodup_range (mem_range.mpr hindex) ?_ ?_).symm
    · simp only [hnew, getD_eq_getElem?_getD, getElem?_set_self', getElem?_eq_getElem hrece',
        getElem?_eq_getElem hfrag']
      simp
    · intro i _ hne
      simp only [getD_eq_getElem?_getD, getElem?_set_ne hne.symm]
  · simp only [storeFragment]
    rw [count_set (by omega), hget, h.receivedCount]
    simp
  · simp only [storeFragment] at hopen ⊢
    omega

/-! ## The frames in flight -/

variable {frames : List (UInt64 × PartialFrame)} {id : UInt64} {frame : PartialFrame}

/-- A frame that is found stands between the others. -/
lemma exists_split (hnodup : (frames.map Prod.fst).Nodup) (h : frames.lookup id = some frame) :
    ∃ before after, frames = before ++ (id, frame) :: after ∧ eraseFrame frames id = before ++ after ∧
      ∀ other, setFrame frames id other = before ++ (id, other) :: after := by
  obtain ⟨before, after, rfl, hbefo⟩ := lookup_eq_some_iff.mp h
  simp only [map_append, map_cons, nodup_append, nodup_cons] at hnodup
  have hfirst : ∀ entry ∈ before, entry.1 ≠ id := by
    intro entry hentry heq
    exact absurd (hbefo entry hentry) (by simp [heq])
  have hlast : ∀ entry ∈ after, entry.1 ≠ id := fun entry hentry heq =>
    hnodup.2.1.1 (mem_map.mpr ⟨entry, hentry, heq⟩)
  have hkeep : ∀ (entries : List (UInt64 × PartialFrame)) (other : PartialFrame), (∀ entry ∈ entries, entry.1 ≠ id) →
      setFrame entries id other = entries := by
    intro entries other hentr
    exact (map_congr_left fun entry hentry => if_neg (hentr entry hentry)).trans (map_id _)
  refine ⟨before, after, rfl, ?_, fun other => ?_⟩
  · rw [eraseFrame, filter_append, filter_cons_of_neg (by simp),
      filter_eq_self.mpr (by simpa using hfirst), filter_eq_self.mpr (by simpa using hlast)]
  · have hset : setFrame (before ++ (id, frame) :: after) id other =
        setFrame before id other ++ (id, other) :: setFrame after id other := by simp [setFrame]
    rw [hset, hkeep before other hfirst, hkeep after other hlast]

lemma bytesOf_partition (frames : List (UInt64 × PartialFrame)) (now : ℤ) :
    bytesOf frames = bytesOf (frames.filter fun entry => now < entry.2.deadline) +
      bytesOf (frames.filter fun entry => entry.2.deadline ≤ now) := by
  induction frames with
  | nil => rfl
  | cons entry rest ih =>
    simp only [bytesOf] at ih ⊢
    by_cases hl : now < entry.2.deadline
    · have hk : ¬ entry.2.deadline ≤ now := not_le.mpr hl
      simp only [filter_cons, hl, hk, decide_true, decide_false, if_true, map_cons, sum_cons,
        Bool.false_eq_true, if_false]
      omega
    · have ho : entry.2.deadline ≤ now := not_lt.mp hl
      simp only [filter_cons, hl, ho, decide_true, decide_false, if_true, map_cons, sum_cons,
        Bool.false_eq_true, if_false]
      omega

/-! ## Calls -/

variable {reassembler : FrameReassembler}

variable {other : FrameReassembler}

lemma Accounted.of_frames (h : Accounted reassembler)
    (hl : other.limits = reassembler.limits) (hf : other.frames = reassembler.frames)
    (hb : other.stats.bufferedBytes = reassembler.stats.bufferedBytes) : Accounted other where
  nodup := hf ▸ h.nodup
  sound := hf ▸ h.sound
  buffered := by rw [hb, hf, h.buffered]
  bytes_le := by rw [hb, hl]; exact h.bytes_le
  frames_le := by rw [hf, hl]; exact h.frames_le

/-- Fewer frames, counted again. -/
lemma Accounted.of_sublist (h : Accounted reassembler)
    (hl : other.limits = reassembler.limits) (hf : other.frames.Sublist reassembler.frames)
    (hb : other.stats.bufferedBytes = bytesOf other.frames)
    (hle : other.stats.bufferedBytes ≤ reassembler.stats.bufferedBytes) : Accounted other where
  nodup := h.nodup.sublist (hf.map _)
  sound := fun entry he => h.sound entry (hf.subset he)
  buffered := hb
  bytes_le := hl ▸ hle.trans h.bytes_le
  frames_le := hl ▸ hf.length_le.trans h.frames_le

lemma Accounted.expire (h : Accounted reassembler) (now : ℤ) : Accounted (reassembler.expire now) := by
  have hs := bytesOf_partition reassembler.frames now
  have hb := h.buffered
  refine h.of_sublist rfl filter_sublist ?_ ?_
  · simp only [FrameReassembler.expire, bytesOf] at hs hb ⊢
    omega
  · exact Nat.sub_le ..

lemma rememberCompleted_frames (reassembler : FrameReassembler) (id : UInt64) :
    (reassembler.rememberCompleted id).frames = reassembler.frames ∧
      (reassembler.rememberCompleted id).stats = reassembler.stats ∧
        (reassembler.rememberCompleted id).limits = reassembler.limits := ⟨rfl, rfl, rfl⟩

/-- **A valid fragment of a frame in flight.** -/
lemma Accounted.pushInto {payload : Bytes} (h : Accounted reassembler)
    (hlook : reassembler.frames.lookup header.frameId = some frame)
    (hindex : header.fragmentIndex < header.fragmentCount) :
    Accounted (reassembler.pushInto header payload frame).1 := by
  obtain ⟨before, after, hfram, herase, hset⟩ := exists_split h.nodup hlook
  have hsub : (before ++ after).Sublist reassembler.frames := by
    rw [hfram]
    exact (List.Sublist.refl before).append (sublist_cons_self _ _)
  have hbuff : reassembler.stats.bufferedBytes = frame.totalBytes + bytesOf (before ++ after) := by
    rw [h.buffered, hfram]
    simp only [bytesOf, map_append, map_cons, sum_append, sum_cons]
    omega
  have hsound : frame.Sound := h.sound (header.frameId, frame) (by rw [hfram]; simp)
  have hbytes := h.bytes_le
  rw [FrameReassembler.pushInto]
  split_ifs with hconf hrece hsame hfull
  · exact h.of_frames rfl rfl rfl
  · exact h.of_frames rfl rfl rfl
  · exact h.of_frames rfl rfl rfl
  · refine h.of_sublist rfl ?_ ?_ ?_
    · simp only [dropFrame, herase]
      exact hsub
    · simp only [dropFrame, herase]
      omega
    · exact Nat.sub_le ..
  · rw [not_or, not_not, not_not] at hconf
    simp only [isFull, Bool.or_eq_true, decide_eq_true_eq, not_or, not_lt] at hfull
    rw [UInt16.lt_iff_toNat_lt, ← hconf.1] at hindex
    have hcoun : (storeFragment frame header payload).fragmentCount = frame.fragmentCount := rfl
    have htotal : (storeFragment frame header payload).totalBytes = frame.totalBytes + payload.length := rfl
    dsimp only
    split_ifs with hopen
    · rw [hcoun] at hopen
      have hstor := sound_storeFragment payload hsound hindex (by simpa using hrece) hopen
      refine ⟨?_, ?_, ?_, ?_, ?_⟩
      · have hnodup := h.nodup
        rw [hfram] at hnodup
        simpa [hset] using hnodup
      · intro entry hentry
        rw [hset, mem_append, mem_cons] at hentry
        rcases hentry with hentry | rfl | hentry
        · exact h.sound entry (hsub.subset (mem_append_left _ hentry))
        · exact hstor
        · exact h.sound entry (hsub.subset (mem_append_right _ hentry))
      · simp only [bytesOf, hset, map_append, map_cons, sum_append, sum_cons, htotal] at hbuff ⊢
        omega
      · show reassembler.stats.bufferedBytes + payload.length ≤ reassembler.limits.maxTotalBufferedBytes
        omega
      · have hleng := h.frames_le
        rw [hfram] at hleng
        simpa [hset] using hleng
    · have hagain : eraseFrame (before ++ (header.frameId, storeFragment frame header payload) :: after)
          header.frameId = before ++ after := by
        rw [← herase, hfram]
        simp [eraseFrame]
      refine h.of_sublist rfl ?_ ?_ ?_
      · simp only [complete, rememberCompleted_frames, hset, hagain]
        exact hsub
      · simp only [complete, rememberCompleted_frames, hset, hagain, htotal]
        omega
      · simp only [complete, rememberCompleted_frames, htotal]
        omega

/-- **Every call keeps the account.** -/
lemma Accounted.push (h : Accounted reassembler) (header : VideoPacketHeader) (payload : Bytes) (now : ℤ) :
    Accounted (reassembler.push header payload now).1 := by
  have hexpi := h.expire now
  rw [FrameReassembler.push]
  generalize reassembler.expire now = reassembler at hexpi
  split_ifs with hunset hstre hinva hlate
  · exact hexpi
  · exact hexpi
  · exact hexpi.of_frames rfl rfl rfl
  · exact hexpi.of_frames rfl rfl rfl
  · simp only [isInvalid, Bool.or_eq_true, decide_eq_true_eq, not_or, UInt16.not_le] at hinva
    obtain ⟨⟨⟨⟨⟨⟨⟨-, hcount⟩, -⟩, hindex⟩, -⟩, -⟩, -⟩, -⟩ := hinva
    rw [pushFragment]
    split
    · rename_i frame hlook
      exact hexpi.pushInto hlook hindex
    · rename_i hlook
      split_ifs with hroom
      · exact hexpi.of_frames rfl rfl rfl
      · have hnew : ∀ entry ∈ reassembler.frames, entry.1 ≠ header.frameId := by
          intro entry hentry heq
          exact absurd (lookup_eq_none_iff.mp hlook entry hentry) (by simp [heq])
        have hstart := sound_startFrame reassembler.limits now hcount
        refine Accounted.pushInto ?_ ?_ hindex
        · refine ⟨?_, ?_, ?_, hexpi.bytes_le, ?_⟩
          · simp only [map_append, map_cons, map_nil, nodup_append]
            refine ⟨hexpi.nodup, nodup_singleton _, ?_⟩
            simpa using hnew
          · simp only [forall_mem_append, forall_mem_singleton]
            exact ⟨hexpi.sound, hstart⟩
          · have hzero : (startFrame reassembler.limits header now).totalBytes = 0 := rfl
            simpa [bytesOf, hzero] using hexpi.buffered
          · simp only [length_append, length_singleton]
            omega
        · simp [lookup_append, hlook]

end FrameReassembler

/-! ## Runs -/

inductive ReassemblerCall where
  | reset (streamId : UInt32)
  | push (header : VideoPacketHeader) (payload : Bytes) (now : ℤ)
  | expire (now : ℤ)

def FrameReassembler.call (reassembler : FrameReassembler) : ReassemblerCall → FrameReassembler
  | .reset streamId => reassembler.reset streamId
  | .push header payload now => (reassembler.push header payload now).1
  | .expire now => reassembler.expire now

def FrameReassembler.calls (reassembler : FrameReassembler) (calls : List ReassemblerCall) : FrameReassembler :=
  calls.foldl FrameReassembler.call reassembler

lemma FrameReassembler.accounted_reset (reassembler : FrameReassembler) (streamId : UInt32) :
    Accounted (reassembler.reset streamId) :=
  ⟨nodup_nil, by simp [FrameReassembler.reset], rfl, Nat.zero_le _, Nat.zero_le _⟩

lemma FrameReassembler.Accounted.calls {reassembler : FrameReassembler} (h : Accounted reassembler)
    (calls : List ReassemblerCall) : Accounted (reassembler.calls calls) := by
  induction calls generalizing reassembler with
  | nil => exact h
  | cons call calls ih =>
    refine ih ?_
    cases call with
    | reset streamId => exact reassembler.accounted_reset streamId
    | push header payload now => exact h.push header payload now
    | expire now => exact h.expire now

/-- **The reassembler accounts for its memory.**  After any calls, the bytes counted as buffered are those of
the frames in flight, each frame counts the fragments it holds and misses at least one, the limits are kept, and
no frames among those in flight have more bytes than the counter they are subtracted from. -/
theorem accounted_calls (limits : ReassemblyLimits) (calls : List ReassemblerCall) :
    ((FrameReassembler.new limits).calls calls).Accounted ∧
      ∀ frames, frames.Sublist ((FrameReassembler.new limits).calls calls).frames →
        bytesOf frames ≤ ((FrameReassembler.new limits).calls calls).stats.bufferedBytes := by
  have hnew : (FrameReassembler.new limits).Accounted :=
    ⟨List.nodup_nil, by simp [FrameReassembler.new], rfl, Nat.zero_le _, Nat.zero_le _⟩
  have h := hnew.calls calls
  refine ⟨h, fun frames hframes => ?_⟩
  rw [h.buffered]
  exact (hframes.map _).sum_le_sum fun _ _ => Nat.zero_le _

end Nstu.Video
