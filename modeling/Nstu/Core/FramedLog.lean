import Nstu.Core.Wire

/-!
# Append-only logs of framed records

A log file is a concatenation of self-delimiting frames, written one at a time.  After a crash the
file is some byte prefix of that, and recovery scans it from the front, applying each whole frame
and stopping at the first one that is cut short.

The scanner is generic in the frame parser `head` and in the state it rebuilds.  A parser is
`Framed` for an encoder when it recognises every frame whatever follows, and calls every proper
non-empty prefix of a frame torn.  Then `scan_take` computes the scan of *every* byte prefix of a
log: the whole frames inside it, in order, and the torn rest.
-/

namespace FramedLog

open Wire List

variable {ε α σ : Type}

/-- What a parser finds at the front of the remaining bytes. -/
inductive Head (ε α : Type) where
  | finished
  | torn
  | corrupt (error : ε)
  | frame (value : α) (size : ℕ)

/-- The outcome of a scan: the state rebuilt, whether the end was torn, and the bytes left over. -/
structure Recovered (σ : Type) where
  state : σ
  torn : Bool
  left : Bytes

/-- Apply whole frames until the input is finished, torn or corrupt. -/
def scan (head : Bytes → Head ε α) (step : σ → α → Except ε σ) (state : σ) (rest : Bytes) : Except ε (Recovered σ) :=
  match head rest with
  | .finished => .ok ⟨state, false, rest⟩
  | .torn => .ok ⟨state, true, rest⟩
  | .corrupt error => .error error
  | .frame value size =>
    match step state value with
    | .error error => .error error
    | .ok next =>
      -- a parser that reports an empty frame makes no progress; no parser here does
      if _h : 0 < size ∧ rest ≠ [] then scan head step next (rest.drop size)
      else .ok ⟨next, true, rest⟩
  termination_by rest.length
  decreasing_by
    simp only [List.length_drop]
    have := List.length_pos_iff.mpr _h.2
    omega

/-- The frames a scan walks over, whatever it does with them. -/
def frames (head : Bytes → Head ε α) (rest : Bytes) : List α :=
  match head rest with
  | .frame value size =>
    if _h : 0 < size ∧ rest ≠ [] then value :: frames head (rest.drop size) else [value]
  | _ => []
  termination_by rest.length
  decreasing_by
    simp only [List.length_drop]
    have := List.length_pos_iff.mpr _h.2
    omega

/-- How many bytes the frames take that a scan walks over. -/
def frameBytes (head : Bytes → Head ε α) (rest : Bytes) : ℕ :=
  match head rest with
  | .frame _ size =>
    if _h : 0 < size ∧ rest ≠ [] then size + frameBytes head (rest.drop size) else 0
  | _ => 0
  termination_by rest.length
  decreasing_by
    simp only [List.length_drop]
    have := List.length_pos_iff.mpr _h.2
    omega

/-- The parser recognises the frames that `encode` writes. -/
structure Framed (head : Bytes → Head ε α) (encode : α → Bytes) (value : α) : Prop where
  nonempty : encode value ≠ []
  whole : ∀ rest, head (encode value ++ rest) = .frame value (encode value).length
  cut : ∀ n, 0 < n → n < (encode value).length → head ((encode value).take n) = .torn

/-- The parser recognises nothing else: what it takes for a frame is what `encode` writes. -/
def Canonical (head : Bytes → Head ε α) (encode : α → Bytes) : Prop :=
  ∀ rest value size, head rest = .frame value size → 0 < size ∧ size ≤ rest.length ∧ rest.take size = encode value

/-- What a parser takes for a frame it finds in the bytes of the frame, whatever follows them. -/
def Local (head : Bytes → Head ε α) : Prop :=
  ∀ rest value size, head rest = .frame value size →
    0 < size ∧ size ≤ rest.length ∧ ∀ more, head (rest.take size ++ more) = .frame value size

/-- How many of the frames fit, whole, in the first `n` bytes. -/
def wholeFrames (encode : α → Bytes) : List α → ℕ → ℕ
  | [], _ => 0
  | value :: rest, n =>
    if (encode value).length ≤ n then wholeFrames encode rest (n - (encode value).length) + 1
    else 0

/-- The bytes of a log. -/
def logBytes (encode : α → Bytes) (values : List α) : Bytes := (values.map encode).flatten

section LogBytes

variable (encode : α → Bytes)

@[simp] lemma logBytes_nil : logBytes encode [] = [] := rfl

@[simp] lemma logBytes_cons (value : α) (rest : List α) :
    logBytes encode (value :: rest) = encode value ++ logBytes encode rest := by
  simp [logBytes]

@[simp] lemma logBytes_append (left right : List α) :
    logBytes encode (left ++ right) = logBytes encode left ++ logBytes encode right := by
  simp [logBytes]

lemma wholeFrames_le : ∀ (values : List α) (n : ℕ), wholeFrames encode values n ≤ values.length
  | [], _ => by simp [wholeFrames]
  | value :: rest, n => by
    simp only [wholeFrames]
    split_ifs
    · have := wholeFrames_le rest (n - (encode value).length)
      simp only [length_cons]
      omega
    · exact Nat.zero_le _

/-- The most whole frames a cut of the log leaves. -/
lemma wholeFrames_spec : ∀ (values : List α) (n : ℕ),
    (logBytes encode (values.take (wholeFrames encode values n))).length ≤ n ∧
    (wholeFrames encode values n < values.length →
      n < (logBytes encode (values.take (wholeFrames encode values n + 1))).length)
  | [], n => by simp [wholeFrames]
  | value :: rest, n => by
    simp only [wholeFrames]
    split_ifs with h
    · obtain ⟨hf, hn⟩ := wholeFrames_spec rest (n - (encode value).length)
      simp only [take_succ_cons, logBytes_cons, length_append, length_cons]
      refine ⟨by omega, fun hl => ?_⟩
      have := hn (by omega)
      omega
    · simp only [take_zero, logBytes_nil, length_nil, Nat.zero_le, true_and]
      intro _
      simp only [Nat.zero_add, take_succ_cons, take_zero, logBytes_cons, logBytes_nil, append_nil]
      omega

lemma wholeFrames_of_length_le : ∀ (values : List α) (n : ℕ),
    (logBytes encode values).length ≤ n → wholeFrames encode values n = values.length
  | [], _, _ => rfl
  | value :: rest, n, h => by
    simp only [logBytes_cons, length_append] at h
    rw [wholeFrames, if_pos (by omega), wholeFrames_of_length_le rest _ (by omega)]
    simp

variable {encode}

lemma logBytes_mono {left right : List α} (h : left <+: right) : logBytes encode left <+: logBytes encode right := by
  obtain ⟨rest, rfl⟩ := h
  exact ⟨logBytes encode rest, (logBytes_append encode left rest).symm⟩

lemma take_eq_logBytes_wholeFrames_iff {values : List α} {n : ℕ} : (logBytes encode values).take n =
        logBytes encode (values.take (wholeFrames encode values n)) ↔
      ∃ frames, frames <+: values ∧ (logBytes encode values).take n = logBytes encode frames := by
  constructor
  · exact fun h => ⟨_, take_prefix _ _, h⟩
  · rintro ⟨frames, hfram, hcut⟩
    obtain ⟨hfit, hnext⟩ := wholeFrames_spec encode values n
    set k := wholeFrames encode values n
    have hinsi : logBytes encode (values.take k) <+: (logBytes encode values).take n :=
      prefix_take_iff.mpr ⟨logBytes_mono ( take_prefix _ _), hfit⟩
    have hcutl : (logBytes encode frames).length ≤ n := by
      rw [← hcut]
      exact length_take_le n _
    -- the boundary is not beyond the whole frames: one frame more would not fit
    have hle : frames.length ≤ k ∨ values.length ≤ k := by
      by_contra hlong
      have hmore : values.take (k + 1) <+: frames :=
        prefix_of_prefix_length_le ( take_prefix _ _) hfram (by simp; omega)
      have hgrow : (logBytes encode _).length ≤ (logBytes encode _).length :=
        (logBytes_mono hmore).length_le
      have := hnext (by omega)
      omega
    have houts : frames <+: values.take k := by
      refine prefix_take_iff.mpr ⟨hfram, ?_⟩
      have := hfram.length_le
      omega
    exact (hinsi.eq_of_length_le (hcut ▸ (logBytes_mono houts).length_le)).symm

end LogBytes

variable {step : σ → α → Except ε σ} {state : σ}

lemma scan_nil {head : Bytes → Head ε α}
    (hn : head [] = .finished) : scan head step state [] = .ok ⟨state, false, []⟩ := by
  rw [scan]
  simp [hn]

variable {value : α}

lemma scan_append {head : Bytes → Head ε α} {encode : α → Bytes} (hf : Framed head encode value) (state : σ)
    (rest : Bytes) :
    scan head step state (encode value ++ rest) = (step state value).bind fun next => scan head step next rest := by
  have hp : 0 < (encode value).length := length_pos_iff.mpr hf.nonempty
  have hn : encode value ++ rest ≠ [] := by simp [hf.nonempty]
  rw [scan]
  simp only [hf.whole rest]
  cases step state value with
  | error e => rfl
  | ok next => simp only [Except.bind, dif_pos (And.intro hp hn), drop_left]

/-- **Recovery of every byte prefix of a log.**  The induction is on the frames: either the next one
is whole inside the prefix and is applied, or the prefix ends within it and the scan stops. -/
theorem scan_take {head : Bytes → Head ε α} {encode : α → Bytes} (hnil : head [] = .finished) :
    ∀ {values : List α} {n : ℕ} {state final : σ}, (∀ value ∈ values, Framed head encode value) →
      (values.take (wholeFrames encode values n)).foldlM step state = .ok final →
      let left := (logBytes encode (values.drop (wholeFrames encode values n))).take
        (n - (logBytes encode (values.take (wholeFrames encode values n))).length)
      scan head step state ((logBytes encode values).take n) = .ok ⟨final, decide (left ≠ []), left⟩
  | [], n, state, final, _, hfold => by
    cases hfold
    simp [wholeFrames, scan_nil hnil]
  | value :: rest, n, state, final, hfram, hfold => by
    have hvalue := hfram value (by simp)
    have hrest : ∀ v ∈ rest, Framed head encode v := fun v hv => hfram v (by simp [hv])
    by_cases h : (encode value).length ≤ n
    · simp only [wholeFrames, if_pos h, take_succ_cons, foldlM_cons] at hfold
      simp only [wholeFrames, if_pos h, logBytes_cons, take_succ_cons, drop_succ_cons, length_append]
      rw [take_append, take_of_length_le h, scan_append hvalue]
      cases hstep : step state value with
      | error e => rw [hstep] at hfold; cases hfold
      | ok next =>
        rw [hstep] at hfold
        have ih := scan_take hnil hrest hfold
        simp only [Except.bind]
        rw [ih, Nat.sub_sub]
    · simp only [wholeFrames, if_neg h, take_zero, foldlM_nil] at hfold
      cases hfold
      simp only [wholeFrames, if_neg h, take_zero, logBytes_nil, length_nil,
        Nat.sub_zero, drop_zero, logBytes_cons]
      have htake : (encode value ++ logBytes encode rest).take n = (encode value).take n :=
        take_append_of_le_length (by omega)
      rw [htake]
      by_cases hzero : n = 0
      · subst hzero
        simp [scan_nil hnil]
      · have hcut := hvalue.cut n (by omega) (by omega)
        rw [scan]
        simp only [hcut]
        have hne : (encode value).take n ≠ [] := by
          simp [hvalue.nonempty, hzero]
        simp [hne]

variable {rest : Bytes} {result : Recovered σ}

/-- **What a scan of arbitrary bytes has seen.**  If it succeeds, the input is the bytes of the
frames it walked over followed by what it left, and the state is those frames applied in order. -/
theorem scan_frames {head : Bytes → Head ε α} {encode : α → Bytes} (hcano : Canonical head encode)
    (h : scan head step state rest = .ok result) : (frames head rest).foldlM step state = .ok result.state ∧
      rest = logBytes encode (frames head rest) ++ result.left := by
  fun_induction scan head step state rest with
  | case1 state rest hhead | case2 state rest hhead =>
    cases h
    rw [frames]
    simp [hhead, pure, Except.pure]
  | case3 state rest error hhead | case4 state rest value size hhead error hstep => cases h
  | case5 state rest value size hhead next hstep hsize ih =>
    obtain ⟨hfold, hbytes⟩ := ih h
    obtain ⟨-, -, hframe⟩ := hcano rest value size hhead
    rw [frames]
    simp only [hhead, dif_pos hsize, foldlM_cons, hstep, logBytes_cons, append_assoc]
    refine ⟨hfold, ?_⟩
    rw [← hbytes, ← hframe, take_append_drop]
  | case6 state rest value size hhead next hstep hsize =>
    obtain ⟨hpos, hle, -⟩ := hcano rest value size hhead
    refine absurd ⟨hpos, ?_⟩ hsize
    rintro rfl
    simp at hle
    omega

lemma scan_left_eq_nil {head : Bytes → Head ε α}
    (hf : ∀ rest, head rest = .finished → rest = []) (h : scan head step state rest = .ok result)
    (ht : result.torn = false) : result.left = [] := by
  fun_induction scan head step state rest with
  | case1 state rest hh => cases h; exact hf rest hh
  | case2 state rest hh => cases h; cases ht
  | case3 state rest error hh | case4 state rest value size hh error hs => cases h
  | case5 state rest value size hh next hs hsi ih => exact ih h
  | case6 state rest value size hh next hs hsi => cases h; cases ht

lemma frames_logBytes_append {head : Bytes → Head ε α} {encode : α → Bytes} :
    ∀ {values : List α}, (∀ value ∈ values, Framed head encode value) →
      frames head (logBytes encode values ++ rest) = values ++ frames head rest
  | [], _ => by simp
  | value :: values, h => by
    have hva := h value (by simp)
    have hp : 0 < (encode value).length := length_pos_iff.mpr hva.nonempty
    have ih : frames head (logBytes encode values ++ rest) = values ++ frames head rest :=
      frames_logBytes_append fun v hv => h v (by simp [hv])
    rw [frames, logBytes_cons, append_assoc, hva.whole]
    simp only
    rw [dif_pos ⟨hp, by simp [hva.nonempty]⟩, drop_left, ih, cons_append]

lemma frames_cut {head : Bytes → Head ε α} {encode : α → Bytes} {cut : Bytes}
    (hnil : head [] = .finished) (hfram : Framed head encode value) (hcut : cut <+: encode value) :
    frames head cut = [] ∨ frames head cut = [value] := by
  rcases Nat.lt_or_ge cut.length (encode value).length with hlt | hge
  · left
    rcases Nat.eq_zero_or_pos cut.length with hzero | hpos
    · rw [length_eq_zero_iff.mp hzero, frames]
      simp [hnil]
    · rw [prefix_iff_eq_take.mp hcut, frames]
      simp [hfram.cut _ hpos hlt]
  · right
    have hwhole : cut = logBytes encode [value] := by
      rw [hcut.eq_of_length_le hge]
      simp
    have hempty : frames head [] = [] := by
      rw [frames]
      simp [hnil]
    rw [hwhole, ← append_nil (logBytes encode [value]),
      frames_logBytes_append (by simpa using hfram), hempty, append_nil]

/-! ## Bytes behind a log -/

section Local

variable {head : Bytes → Head ε α}

variable {rest : Bytes}

lemma frames_of_frame (hl : Local head) {value : α} {size : ℕ} (hh : head rest = .frame value size) :
    frames head rest = value :: frames head (rest.drop size) ∧
      frameBytes head rest = size + frameBytes head (rest.drop size) := by
  obtain ⟨hp, hle, -⟩ := hl rest value size hh
  have hn : rest ≠ [] := by
    rintro rfl
    simp at hle
    omega
  constructor
  · rw [frames]
    simp only [hh, dif_pos (And.intro hp hn)]
  · rw [frameBytes]
    simp only [hh, dif_pos (And.intro hp hn)]

lemma frames_of_no_frame (hh : ∀ value size, head rest ≠ .frame value size) :
    frames head rest = [] ∧ frameBytes head rest = 0 := by
  constructor
  · rw [frames]
    split
    · rename_i value size hf
      exact absurd hf (hh value size)
    · rfl
  · rw [frameBytes]
    split
    · rename_i value size hf
      exact absurd hf (hh value size)
    · rfl

/-- **The frames of some bytes come first when more is appended, and the scan goes on with what was
left.**  The induction is on the frames. -/
theorem frames_append (hlocal : Local head) (rest more : Bytes) : frames head (rest ++ more) =
      frames head rest ++ frames head (rest.drop (frameBytes head rest) ++ more) := by
  by_cases hframe : ∃ value size, head rest = .frame value size
  · obtain ⟨value, size, hhead⟩ := hframe
    obtain ⟨hpos, hle, htake⟩ := hlocal rest value size hhead
    have hmore : head (rest ++ more) = .frame value size := by
      have hsplit := htake (rest.drop size ++ more)
      rwa [← append_assoc, take_append_drop] at hsplit
    obtain ⟨hfram, hbytes⟩ := frames_of_frame hlocal hhead
    have ih := frames_append hlocal (rest.drop size) more
    rw [(frames_of_frame hlocal hmore).1, hfram, hbytes, drop_append_of_le_length hle, ih,
      drop_drop, cons_append]
  · push Not at hframe
    obtain ⟨hfram, hbytes⟩ := frames_of_no_frame hframe
    rw [hfram, hbytes, drop_zero, nil_append]
  termination_by rest.length
  decreasing_by
    simp only [length_drop]
    omega

lemma frames_take_frameBytes (hlocal : Local head) (hnil : ∀ value size, head [] ≠ .frame value size) (rest : Bytes) :
    frames head (rest.take (frameBytes head rest)) = frames head rest := by
  by_cases hframe : ∃ value size, head rest = .frame value size
  · obtain ⟨value, size, hhead⟩ := hframe
    obtain ⟨hpos, hle, htake⟩ := hlocal rest value size hhead
    obtain ⟨hfram, hbytes⟩ := frames_of_frame hlocal hhead
    have ih := frames_take_frameBytes hlocal hnil (rest.drop size)
    have hsplit : rest.take (frameBytes head rest) =
        rest.take size ++ (rest.drop size).take (frameBytes head (rest.drop size)) := by
      rw [hbytes, take_add]
    have hcut : head (rest.take (frameBytes head rest)) = .frame value size := by
      rw [hsplit]
      exact htake _
    rw [(frames_of_frame hlocal hcut).1, hfram, hsplit, drop_left' (length_take_of_le hle), ih]
  · push Not at hframe
    obtain ⟨hfram, hbytes⟩ := frames_of_no_frame hframe
    rw [hbytes, take_zero, hfram]
    exact (frames_of_no_frame hnil).1
  termination_by rest.length
  decreasing_by
    simp only [length_drop]
    omega

lemma frames_append_of_whole (hl : Local head) (more : Bytes) (hw : frameBytes head rest = rest.length) :
    frames head (rest ++ more) = frames head rest ++ frames head more := by
  rw [frames_append hl, hw, drop_length, nil_append]

end Local

end FramedLog
