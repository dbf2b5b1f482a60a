import Nstu.Core.Text

/-!
# Reading UTF-8, character by character

`ofUtf8` takes a character off the front of its input and goes on with the rest
(`ofUtf8_utf8Char`), and it reads nothing else.  So a string of scalar values is read back from its bytes.
-/

namespace Text

open Wire List

variable {c : ℕ}

lemma isScalar_lt (h : isScalar c) : c < 0x110000 ∧ (c < 0xD800 ∨ 0xE000 ≤ c) := by
  simp only [isScalar, Bool.or_eq_true, Bool.and_eq_true, decide_eq_true_eq] at h
  omega

variable {n : ℕ}

lemma toNat_ofNat_byte (h : n < 0x100) : (UInt8.ofNat n).toNat = n :=
  UInt8.toNat_ofNat_of_lt' (by simpa [UInt8.size] using h)

lemma isContinuation_ofNat (h : n < 0x40) :
    isContinuation (UInt8.ofNat (0x80 + n)) ∧ (UInt8.ofNat (0x80 + n)).toNat = 0x80 + n := by
  have hb := toNat_ofNat_byte (n := 0x80 + n) (by omega)
  refine ⟨?_, hb⟩
  rw [isContinuation, hb, Bool.and_eq_true, decide_eq_true_eq, decide_eq_true_eq]
  omega

variable {a b : UInt8}

lemma ofUtf8_two (ha : 0xC2 ≤ a.toNat ∧ a.toNat < 0xE0) (hb : isContinuation b) (rest : Bytes) :
    ofUtf8 (a :: b :: rest) = (ofUtf8 rest).map (scalarUnits ((a.toNat - 0xC0) * 0x40 + (b.toNat - 0x80)) ++ ·) := by
  have hasc : ¬ a.toNat < 0x80 := by omega
  rw [ofUtf8.eq_def]
  simp [hasc, hb, ha]

variable {d : UInt8}

lemma ofUtf8_three (ha : 0xE0 ≤ a.toNat ∧ a.toNat < 0xF0) (hb : isContinuation b) (hd : isContinuation d)
    (hl : 0x800 ≤ (a.toNat - 0xE0) * 0x1000 + (b.toNat - 0x80) * 0x40 + (d.toNat - 0x80)) (rest : Bytes) :
    ofUtf8 (a :: b :: d :: rest) =
      if isScalar ((a.toNat - 0xE0) * 0x1000 + (b.toNat - 0x80) * 0x40 + (d.toNat - 0x80)) then
        (ofUtf8 rest).map (scalarUnits ((a.toNat - 0xE0) * 0x1000 + (b.toNat - 0x80) * 0x40 + (d.toNat - 0x80)) ++ ·)
      else none := by
  have hasc : ¬ a.toNat < 0x80 := by omega
  have ht : ¬ a.toNat < 0xE0 := by omega
  have hf : ¬ 0xF0 ≤ a.toNat := by omega
  rw [ofUtf8.eq_def]
  simp only [hasc, if_false, hb, hd, ha, ht, decide_true, decide_false, Bool.true_and, Bool.and_false,
    Bool.and_true, hl, Bool.false_eq_true]
  split
  · rfl
  · cases rest with
    | nil => rfl
    | cons e rest => simp [hf]

lemma ofUtf8_four {e : UInt8} (ha : 0xF0 ≤ a.toNat ∧ a.toNat < 0xF8) (hb : isContinuation b)
    (hd : isContinuation d) (he : isContinuation e)
    (hc : 0x10000 ≤ (a.toNat - 0xF0) * 0x40000 + (b.toNat - 0x80) * 0x1000 + (d.toNat - 0x80) * 0x40 +
        (e.toNat - 0x80) ∧ (a.toNat - 0xF0) * 0x40000 + (b.toNat - 0x80) * 0x1000 + (d.toNat - 0x80) * 0x40 +
        (e.toNat - 0x80) < 0x110000) (rest : Bytes) : ofUtf8 (a :: b :: d :: e :: rest) =
      (ofUtf8 rest).map (scalarUnits ((a.toNat - 0xF0) * 0x40000 + (b.toNat - 0x80) * 0x1000 +
        (d.toNat - 0x80) * 0x40 + (e.toNat - 0x80)) ++ ·) := by
  have hasc : ¬ a.toNat < 0x80 := by omega
  have ht : ¬ a.toNat < 0xE0 := by omega
  have hth : ¬ a.toNat < 0xF0 := by omega
  rw [ofUtf8.eq_def]
  simp only [hasc, if_false, hb, hd, he, ha, ht, hth, decide_true, decide_false, Bool.true_and,
    Bool.and_false, Bool.and_true, Bool.false_and, hc.1, hc.2, Bool.false_eq_true, if_true]

/-- **A character is read off the front.** -/
lemma ofUtf8_utf8Char (h : isScalar c) (rest : Bytes) :
    ofUtf8 (utf8Char c ++ rest) = (ofUtf8 rest).map (scalarUnits c ++ ·) := by
  obtain ⟨hlt, hscal⟩ := isScalar_lt h
  rw [utf8Char]
  split_ifs with h1 h2 h3
  · simp only [cons_append, nil_append]
    rw [ofUtf8.eq_def]
    simp only [toNat_ofNat_byte (show c < 0x100 by omega), h1, if_true]
  · obtain ⟨hb, hbyte⟩ := isContinuation_ofNat (n := c % 0x40) (by omega)
    have ha := toNat_ofNat_byte (n := 0xC0 + c / 0x40) (by omega)
    have hc : (0xC0 + c / 0x40 - 0xC0) * 0x40 + (0x80 + c % 0x40 - 0x80) = c := by omega
    simp only [cons_append, nil_append]
    rw [ofUtf8_two (by omega) hb, ha, hbyte, hc]
  · obtain ⟨hb, hbyte⟩ := isContinuation_ofNat (n := c / 0x40 % 0x40) (by omega)
    obtain ⟨hd, hdyte⟩ := isContinuation_ofNat (n := c % 0x40) (by omega)
    have ha := toNat_ofNat_byte (n := 0xE0 + c / 0x1000) (by omega)
    have hc : (0xE0 + c / 0x1000 - 0xE0) * 0x1000 + (0x80 + c / 0x40 % 0x40 - 0x80) * 0x40 +
        (0x80 + c % 0x40 - 0x80) = c := by omega
    simp only [cons_append, nil_append]
    rw [ofUtf8_three (by omega) hb hd (by omega), ha, hbyte, hdyte, hc, if_pos h]
  · obtain ⟨hb, hbyte⟩ := isContinuation_ofNat (n := c / 0x1000 % 0x40) (by omega)
    obtain ⟨hd, hdyte⟩ := isContinuation_ofNat (n := c / 0x40 % 0x40) (by omega)
    obtain ⟨he, heyte⟩ := isContinuation_ofNat (n := c % 0x40) (by omega)
    have ha := toNat_ofNat_byte (n := 0xF0 + c / 0x40000) (by omega)
    have hc : (0xF0 + c / 0x40000 - 0xF0) * 0x40000 + (0x80 + c / 0x1000 % 0x40 - 0x80) * 0x1000 +
        (0x80 + c / 0x40 % 0x40 - 0x80) * 0x40 + (0x80 + c % 0x40 - 0x80) = c := by omega
    simp only [cons_append, nil_append]
    rw [ofUtf8_four (by omega) hb hd he (by rw [ha, hbyte, hdyte, heyte, hc]; omega), ha, hbyte, hdyte, heyte, hc]

lemma ofUtf8_surrogate (h : 0xD800 ≤ c ∧ c < 0xE000) (rest : Bytes) : ofUtf8 (utf8Char c ++ rest) = none := by
  obtain ⟨hb, hby⟩ := isContinuation_ofNat (n := c / 0x40 % 0x40) (by omega)
  obtain ⟨hd, hdy⟩ := isContinuation_ofNat (n := c % 0x40) (by omega)
  have ha := toNat_ofNat_byte (n := 0xE0 + c / 0x1000) (by omega)
  have hc : (0xE0 + c / 0x1000 - 0xE0) * 0x1000 + (0x80 + c / 0x40 % 0x40 - 0x80) * 0x40 +
      (0x80 + c % 0x40 - 0x80) = c := by omega
  have hs : ¬ isScalar c := by
    intro h'
    have := isScalar_lt h'
    omega
  rw [utf8Char, if_neg (by omega), if_neg (by omega), if_pos (by omega)]
  simp only [cons_append, nil_append]
  rw [ofUtf8_three (by omega) hb hd (by omega), ha, hby, hdy, hc, if_neg hs]

lemma isScalar_of_not_isSurrogate {unit : UInt16} (h : isSurrogate unit = false) : isScalar unit.toNat := by
  have hl := unit.toNat_lt
  simp only [isSurrogate, isHighSurrogate, isLowSurrogate, Bool.or_eq_false_iff, Bool.and_eq_false_iff,
    decide_eq_false_iff_not, UInt16.le_iff_toNat_le, UInt16.reduceToNat] at h
  simp only [isScalar, Bool.or_eq_true, Bool.and_eq_true, decide_eq_true_eq]
  omega

lemma scalarUnits_toNat (unit : UInt16) : scalarUnits unit.toNat = [unit] := by
  rw [scalarUnits, if_pos unit.toNat_lt, UInt16.ofNat_toNat]

lemma utf8Char_of_not_ascii (h : 0x80 ≤ c) (hl : c < 0x110000) :
    ∃ first rest, utf8Char c = first :: rest ∧ 0xC0 ≤ first.toNat ∧ ∀ byte ∈ rest, isContinuation byte := by
  rw [utf8Char, if_neg (by omega)]
  split_ifs with h2 h3
  · refine ⟨_, _, rfl, ?_, ?_⟩
    · rw [toNat_ofNat_byte (by omega)]
      omega
    · simp only [mem_singleton, forall_eq]
      exact (isContinuation_ofNat (by omega)).1
  · refine ⟨_, _, rfl, ?_, ?_⟩
    · rw [toNat_ofNat_byte (by omega)]
      omega
    · simp only [mem_cons, not_mem_nil, or_false, forall_eq_or_imp, forall_eq]
      exact ⟨(isContinuation_ofNat (by omega)).1, (isContinuation_ofNat (by omega)).1⟩
  · refine ⟨_, _, rfl, ?_, ?_⟩
    · rw [toNat_ofNat_byte (by omega)]
      omega
    · simp only [mem_cons, not_mem_nil, or_false, forall_eq_or_imp, forall_eq]
      exact ⟨(isContinuation_ofNat (by omega)).1, (isContinuation_ofNat (by omega)).1,
        (isContinuation_ofNat (by omega)).1⟩

/-! ## ASCII, by the bytes -/

variable {text : Utf16}

lemma ascii_of_utf8 (h : ∀ byte ∈ utf8 text, byte.toNat < 0x80) : ∀ unit ∈ text, unit.toNat < 0x80 := by
  have hscal : ∀ c ∈ scalarValues text, c < 0x80 := by
    intro c hc
    by_contra hlt
    obtain ⟨first, rest, hchar, hfirst, -⟩ := utf8Char_of_not_ascii (Nat.le_of_not_lt hlt) (scalarValues_lt c hc)
    have hbyte := h first (mem_flatMap.mpr ⟨c, hc, hchar ▸ mem_cons_self⟩)
    omega
  have hlone : ∀ unit : UInt16, loneScalar unit < 0x80 → unit.toNat < 0x80 := by
    intro unit hunit
    rw [loneScalar] at hunit
    split at hunit
    · omega
    · exact hunit
  clear h
  fun_induction scalarValues text with
  | case1 => simp
  | case2 unit =>
    rw [forall_mem_singleton] at hscal
    rw [forall_mem_singleton]
    exact hlone unit hscal
  | case3 high low rest hpair ih =>
    rw [forall_mem_cons] at hscal
    rw [Bool.and_eq_true] at hpair
    have hvalue := (surrogatePair_lt hpair.1 hpair.2).1
    omega
  | case4 high low rest hpair ih =>
    rw [forall_mem_cons] at hscal
    rw [forall_mem_cons]
    exact ⟨hlone high hscal.1, ih hscal.2⟩

lemma scalarUnits_surrogatePair {high low : UInt16} (h : isHighSurrogate high)
    (hl : isLowSurrogate low) :
    scalarUnits (surrogatePair high low) = [high, low] ∧ isScalar (surrogatePair high low) := by
  have hr := surrogatePair_lt h hl
  have hv := surrogatePair_eq high low
  simp only [isHighSurrogate, isLowSurrogate, Bool.and_eq_true, decide_eq_true_eq,
    UInt16.le_iff_toNat_le, UInt16.reduceToNat] at h hl
  have hd : surrogatePair high low - 0x10000 =
      (high.toNat - 0xD800) * 0x400 + (low.toNat - 0xDC00) := by omega
  constructor
  · rw [scalarUnits, if_neg (by omega), hd]
    have hf : 0xD800 + ((high.toNat - 0xD800) * 0x400 + (low.toNat - 0xDC00)) / 0x400 = high.toNat := by omega
    have hs : 0xDC00 + ((high.toNat - 0xD800) * 0x400 + (low.toNat - 0xDC00)) % 0x400 = low.toNat := by omega
    rw [hf, hs, UInt16.ofNat_toNat, UInt16.ofNat_toNat]
  · rw [isScalar, Bool.or_eq_true, Bool.and_eq_true, decide_eq_true_eq, decide_eq_true_eq, decide_eq_true_eq]
    omega

lemma ofUtf8_utf8 (h : wellFormed text) : ofUtf8 (utf8 text) = some text := by
  have hu : ∀ {unit : UInt16} {rest : Utf16}, isSurrogate unit = false → ofUtf8 (utf8 rest) = some rest →
      ofUtf8 (utf8 (unit :: rest)) = some (unit :: rest) := fun {unit rest} hu hr => by
    have hs := isScalar_of_not_isSurrogate hu
    rw [← singleton_append, ← scalarUnits_toNat, utf8_scalarUnits hs, ofUtf8_utf8Char hs, hr,
      Option.map_some]
  fun_induction wellFormed text with
  | case1 => rfl
  | case2 unit => exact hu (by simpa using h) rfl
  | case3 high low rest hp ih =>
    rw [Bool.and_eq_true] at hp
    obtain ⟨hun, hs⟩ := scalarUnits_surrogatePair hp.1 hp.2
    rw [show high :: low :: rest = scalarUnits (surrogatePair high low) ++ rest by rw [hun]; rfl,
      utf8_scalarUnits hs, ofUtf8_utf8Char hs, ih h, Option.map_some]
  | case4 high low rest hp ih =>
    rw [Bool.and_eq_true, Bool.not_eq_true'] at h
    exact hu h.1 (ih h.2)

end Text
