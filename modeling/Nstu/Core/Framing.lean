import Nstu.Core.Wire

/-!
# Cutting a byte stream into frames

A reader of a stream sees only the bytes that have arrived.  At their front it finds a frame, bytes
that can be no frame, or too few bytes to tell.  `cut` takes frames off the front for as long as there
are any.

A reader is `Stable` when more bytes do not change what it has found.  Then the stream may arrive in
any pieces (`cut_append`): what is left of the first piece, put before the second, yields the frames
that are still missing.
-/

namespace Framing

open Wire

variable {α : Type}

/-- What a reader finds at the front of the bytes that have arrived. -/
inductive Front (α : Type) where
  | waiting
  | malformed
  | frame (value : α) (size : ℕ)

/-- The frames of a stream, whether it goes on with something that is no frame, and what is left of it
that is too short to tell. -/
structure Cut (α : Type) where
  frames : List α
  failed : Bool
  left : Bytes
  deriving DecidableEq

/-- Take frames off the front. -/
def cut (front : Bytes → Front α) (stream : Bytes) : Cut α :=
  match front stream with
  | .waiting => ⟨[], false, stream⟩
  | .malformed => ⟨[], true, []⟩
  | .frame value size =>
    -- a reader that reports an empty frame makes no progress; none here does
    if _h : 0 < size ∧ stream ≠ [] then
      let rest := cut front (stream.drop size)
      ⟨value :: rest.frames, rest.failed, rest.left⟩
    else ⟨[value], false, stream⟩
  termination_by stream.length
  decreasing_by
    simp only [List.length_drop]
    have := List.length_pos_iff.mpr _h.2
    omega

/-- What a reader has found stays as it is when more bytes arrive. -/
structure Stable (front : Bytes → Front α) : Prop where
  malformed : ∀ {stream : Bytes}, front stream = .malformed → ∀ more, front (stream ++ more) = .malformed
  frame : ∀ {stream : Bytes} {value : α} {size : ℕ}, front stream = .frame value size →
    0 < size ∧ size ≤ stream.length ∧ ∀ more, front (stream ++ more) = .frame value size

section Cut

variable {front : Bytes → Front α} {stream : Bytes}

lemma cut_of_waiting (h : front stream = .waiting) : cut front stream = ⟨[], false, stream⟩ := by
  rw [cut, h]

lemma cut_of_malformed (h : front stream = .malformed) : cut front stream = ⟨[], true, []⟩ := by
  rw [cut, h]

lemma cut_of_frame (hs : Stable front) {value : α} {size : ℕ} (h : front stream = .frame value size) :
    cut front stream = ⟨value :: (cut front (stream.drop size)).frames,
      (cut front (stream.drop size)).failed, (cut front (stream.drop size)).left⟩ := by
  obtain ⟨hp, hsi, -⟩ := hs.frame h
  have hn : stream ≠ [] := by
    rw [← List.length_pos_iff]
    omega
  rw [cut, h]
  simp only [hp, hn, ne_eq, not_false_eq_true, and_self, dif_pos]

/-- The cut of a stream that comes in two pieces. -/
def Cut.andThen (front : Bytes → Front α) (first : Cut α) (more : Bytes) : Cut α :=
  if first.failed then first
  else
    let second := cut front (first.left ++ more)
    ⟨first.frames ++ second.frames, second.failed, second.left⟩

/-- **A stream may arrive in pieces.** -/
theorem cut_append (hs : Stable front) (stream more : Bytes) :
    cut front (stream ++ more) = (cut front stream).andThen front more := by
  -- by induction on the length of the first piece: a frame at its front is one of the whole stream
  induction hl : stream.length using Nat.strong_induction_on generalizing stream with
  | _ length ih =>
    cases hf : front stream with
    | waiting =>
      rw [cut_of_waiting hf]
      simp [Cut.andThen]
    | malformed =>
      rw [cut_of_malformed hf, cut_of_malformed (hs.malformed hf more)]
      rfl
    | frame value size =>
      obtain ⟨hp, hsi, hm⟩ := hs.frame hf
      have hr : (stream.drop size).length < length := by
        rw [List.length_drop]
        omega
      have hd : (stream ++ more).drop size = stream.drop size ++ more :=
        List.drop_append_of_le_length hsi
      rw [cut_of_frame hs hf, cut_of_frame hs (hm more), hd, ih _ hr (stream.drop size) rfl]
      simp only [Cut.andThen]
      split
      · rfl
      · rfl

lemma front_left (hs : Stable front) (hf : (cut front stream).failed = false) :
    front (cut front stream).left = .waiting := by
  induction hl : stream.length using Nat.strong_induction_on generalizing stream with
  | _ length ih =>
    cases hfr : front stream with
    | waiting => rw [cut_of_waiting hfr, hfr]
    | malformed =>
      rw [cut_of_malformed hfr] at hf
      cases hf
    | frame value size =>
      obtain ⟨hp, hsi, -⟩ := hs.frame hfr
      rw [cut_of_frame hs hfr] at hf ⊢
      exact ih _ (by rw [List.length_drop]; omega) hf rfl

lemma length_left_le (hs : Stable front) : (cut front stream).left.length ≤ stream.length := by
  induction hl : stream.length using Nat.strong_induction_on generalizing stream with
  | _ length ih =>
    cases hf : front stream with
    | waiting => rw [cut_of_waiting hf, hl]
    | malformed =>
      rw [cut_of_malformed hf]
      exact Nat.zero_le _
    | frame value size =>
      obtain ⟨hp, hsi, -⟩ := hs.frame hf
      have hr : (stream.drop size).length < length := by
        rw [List.length_drop]
        omega
      rw [cut_of_frame hs hf]
      exact Nat.le_of_lt (Nat.lt_of_le_of_lt (ih _ hr rfl) hr)

end Cut

end Framing
