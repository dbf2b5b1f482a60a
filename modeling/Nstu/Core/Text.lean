import Nstu.Core.Wire
import Mathlib.Data.Nat.Digits.Defs

/-!
# Text

Strings of UTF-16 code units, the way a browser has them, and what other programs make of them.

* `utf8` — the bytes `TextEncoder` gives: pairs of surrogates become one character of four bytes,
  a surrogate that stands alone becomes U+FFFD.
* `hexDigits` — hexadecimal text, read off code values so that it serves code units and bytes alike.
* `Json.stringify` — the text `JSON.stringify` prints.

A text keeps what the programs at its two ends check: emptiness, zero characters (`zero_mem_utf8`)
and, where it is ASCII, every character (`utf8_ascii`).
-/

namespace Text

open Wire List
open Bool (and_eq_true or_eq_true)
open UInt16 (le_iff_toNat_le reduceToNat toNat)

/-- A browser string, as its code units. -/
abbrev Utf16 := List UInt16

/-- A string literal whose characters are ASCII. -/
def ascii (text : String) : Utf16 := text.toList.map fun c => UInt16.ofNat c.toNat

lemma forall_mem_of_all {α : Type} {P : α → Prop} [DecidablePred P] {items : List α}
    (h : items.all (fun item => decide (P item))) : ∀ item ∈ items, P item := by
  intro item hi
  exact of_decide_eq_true (all_eq_true.mp h item hi)

/-! ## Characters -/

def isHighSurrogate (unit : UInt16) : Bool := 0xD800 ≤ unit && unit ≤ 0xDBFF

def isLowSurrogate (unit : UInt16) : Bool := 0xDC00 ≤ unit && unit ≤ 0xDFFF

def isSurrogate (unit : UInt16) : Bool := isHighSurrogate unit || isLowSurrogate unit

def surrogatePair (high low : UInt16) : ℕ :=
  0x10000 + (high.toNat - 0xD800) * 0x400 + (low.toNat - 0xDC00)

/-- The character of a code unit that is in no pair. -/
def loneScalar (unit : UInt16) : ℕ := if isSurrogate unit then 0xFFFD else unit.toNat

/-- The characters of a string. -/
def scalarValues : Utf16 → List ℕ
  | [] => []
  | [unit] => [loneScalar unit]
  | high :: low :: rest =>
    if isHighSurrogate high && isLowSurrogate low then surrogatePair high low :: scalarValues rest
    else loneScalar high :: scalarValues (low :: rest)

/-- Every surrogate is in a pair. -/
def wellFormed : Utf16 → Bool
  | [] => true
  | [unit] => !isSurrogate unit
  | high :: low :: rest =>
    if isHighSurrogate high && isLowSurrogate low then wellFormed rest
    else !isSurrogate high && wellFormed (low :: rest)

/-- The UTF-8 bytes of one character. -/
def utf8Char (c : ℕ) : Bytes :=
  if c < 0x80 then [UInt8.ofNat c]
  else if c < 0x800 then [UInt8.ofNat (0xC0 + c / 0x40), UInt8.ofNat (0x80 + c % 0x40)]
  else if c < 0x10000 then
    [UInt8.ofNat (0xE0 + c / 0x1000), UInt8.ofNat (0x80 + c / 0x40 % 0x40), UInt8.ofNat (0x80 + c % 0x40)]
  else
    [UInt8.ofNat (0xF0 + c / 0x40000), UInt8.ofNat (0x80 + c / 0x1000 % 0x40),
      UInt8.ofNat (0x80 + c / 0x40 % 0x40), UInt8.ofNat (0x80 + c % 0x40)]

/-- The UTF-8 bytes of a string. -/
def utf8 (text : Utf16) : Bytes := (scalarValues text).flatMap utf8Char

@[simp] lemma utf8_nil : utf8 [] = [] := rfl

lemma utf8Char_ne_nil (c : ℕ) : utf8Char c ≠ [] := by
  simp only [utf8Char]
  split_ifs <;> simp

variable {text : Utf16}

lemma scalarValues_eq_nil_iff : scalarValues text = [] ↔ text = [] := by
  match text with
  | [] => simp [scalarValues]
  | [unit] => simp [scalarValues]
  | high :: low :: rest =>
    simp only [scalarValues]
    split <;> simp

@[simp] lemma utf8_eq_nil_iff : utf8 text = [] ↔ text = [] := by
  rw [← scalarValues_eq_nil_iff]
  cases hs : scalarValues text with
  | nil => simp [utf8, hs]
  | cons c rest => simp [utf8, hs, utf8Char_ne_nil]

lemma surrogatePair_eq (high low : UInt16) :
    surrogatePair high low = 0x10000 + ((high.toNat - 0xD800) * 0x400 + (low.toNat - 0xDC00)) :=
  Nat.add_assoc _ _ _

lemma surrogatePair_lt {high low : UInt16} (h : isHighSurrogate high) (hl : isLowSurrogate low) :
    0x10000 ≤ surrogatePair high low ∧ surrogatePair high low < 0x110000 := by
  simp only [isHighSurrogate, isLowSurrogate, and_eq_true, decide_eq_true_eq,
    le_iff_toNat_le, reduceToNat] at h hl
  have hv := surrogatePair_eq high low
  generalize surrogatePair high low = value at hv
  omega

lemma loneScalar_lt (unit : UInt16) : loneScalar unit < 0x110000 := by
  have := unit.toNat_lt
  simp only [loneScalar]
  split <;> omega

lemma loneScalar_eq_zero_iff {unit : UInt16} : loneScalar unit = 0 ↔ unit = 0 := by
  simp only [loneScalar]
  split
  · rename_i h
    constructor
    · simp
    · rintro rfl
      revert h
      decide
  · rw [← UInt16.toNat_inj]
    simp

lemma scalarValues_lt : ∀ c ∈ scalarValues text, c < 0x110000 := by
  fun_induction scalarValues text with
  | case1 => simp
  | case2 unit => simp [loneScalar_lt]
  | case3 high low rest hp ih =>
    rw [and_eq_true] at hp
    simp only [mem_cons, forall_eq_or_imp]
    exact ⟨(surrogatePair_lt hp.1 hp.2).2, ih⟩
  | case4 high low rest hp ih =>
    simp only [mem_cons, forall_eq_or_imp]
    exact ⟨loneScalar_lt high, ih⟩

lemma zero_mem_scalarValues : 0 ∈ scalarValues text ↔ 0 ∈ text := by
  fun_induction scalarValues text with
  | case1 => simp
  | case2 unit =>
    rw [mem_singleton, mem_singleton, eq_comm, loneScalar_eq_zero_iff, eq_comm]
  | case3 high low rest hp ih =>
    rw [and_eq_true] at hp
    have hv := (surrogatePair_lt hp.1 hp.2).1
    have hh : (0 : UInt16) ≠ high := by
      rintro rfl
      exact absurd hp.1 (by decide)
    have hl : (0 : UInt16) ≠ low := by
      rintro rfl
      exact absurd hp.2 (by decide)
    simp only [mem_cons, ih, hh, hl, false_or, or_iff_right_iff_imp]
    omega
  | case4 high low rest hp ih =>
    rw [mem_cons, ih, mem_cons (l := low :: rest), eq_comm, loneScalar_eq_zero_iff, eq_comm]

variable {c : ℕ}

lemma zero_mem_utf8Char (hc : c < 0x110000) : 0 ∈ utf8Char c ↔ c = 0 := by
  have hb : ∀ {n : ℕ}, 0 < n → n < 256 → (0 : UInt8) ≠ UInt8.ofNat n := by
    intro n hp hl he
    have := congrArg UInt8.toNat he
    rw [UInt8.toNat_ofNat_of_lt' hl] at this
    simp only [UInt8.reduceToNat] at this
    omega
  constructor
  · intro h
    by_contra hn
    simp only [utf8Char] at h
    split_ifs at h with h1 h2 h3
    · exact hb (by omega) (by omega) (mem_singleton.mp h)
    · simp only [mem_cons, not_mem_nil, or_false] at h
      rcases h with h | h
      · exact hb (by omega) (by omega) h
      · exact hb (by omega) (by omega) h
    · simp only [mem_cons, not_mem_nil, or_false] at h
      rcases h with h | h | h
      · exact hb (by omega) (by omega) h
      · exact hb (by omega) (by omega) h
      · exact hb (by omega) (by omega) h
    · simp only [mem_cons, not_mem_nil, or_false] at h
      rcases h with h | h | h | h
      · exact hb (by omega) (by omega) h
      · exact hb (by omega) (by omega) h
      · exact hb (by omega) (by omega) h
      · exact hb (by omega) (by omega) h
  · rintro rfl
    simp [utf8Char]

/-- **A string has a zero character exactly when its bytes have a zero.** -/
lemma zero_mem_utf8 : 0 ∈ utf8 text ↔ 0 ∈ text := by
  rw [← zero_mem_scalarValues, utf8, mem_flatMap]
  constructor
  · rintro ⟨c, hc, hz⟩
    rwa [(zero_mem_utf8Char (scalarValues_lt c hc)).mp hz] at hc
  · intro hz
    exact ⟨0, hz, (zero_mem_utf8Char (by omega)).mpr rfl⟩

lemma isSurrogate_of_ascii {unit : UInt16} (h : unit.toNat < 0x80) :
    isHighSurrogate unit = false ∧ isSurrogate unit = false := by
  have hh : isHighSurrogate unit = false := by
    simp only [isHighSurrogate, Bool.and_eq_false_iff, decide_eq_false_iff_not,
      le_iff_toNat_le, reduceToNat]
    omega
  have hl : isLowSurrogate unit = false := by
    simp only [isLowSurrogate, Bool.and_eq_false_iff, decide_eq_false_iff_not,
      le_iff_toNat_le, reduceToNat]
    omega
  exact ⟨hh, by rw [isSurrogate, hh, hl]; rfl⟩

lemma wellFormed_of_ascii (h : ∀ unit ∈ text, unit.toNat < 0x80) : wellFormed text := by
  fun_induction wellFormed text with
  | case1 => rfl
  | case2 unit => rw [(isSurrogate_of_ascii (h unit (by simp))).2]; rfl
  | case3 high low rest hp ih =>
    exact ih fun unit hu => h unit (by simp [hu])
  | case4 high low rest hp ih =>
    rw [(isSurrogate_of_ascii (h high (by simp))).2]
    exact ih fun unit hu => h unit (mem_cons_of_mem _ hu)

/-- **The bytes of an ASCII string are its code units.** -/
lemma utf8_ascii (h : ∀ unit ∈ text, unit.toNat < 0x80) : utf8 text = text.map fun unit => UInt8.ofNat unit.toNat := by
  have hs : scalarValues text = text.map toNat := by
    fun_induction scalarValues text with
    | case1 => rfl
    | case2 unit => simp [loneScalar, (isSurrogate_of_ascii (h unit (by simp))).2]
    | case3 high low rest hp ih =>
      rw [(isSurrogate_of_ascii (h high (by simp))).1] at hp
      cases hp
    | case4 high low rest hp ih =>
      rw [ih fun unit hu => h unit (mem_cons_of_mem _ hu)]
      simp [loneScalar, (isSurrogate_of_ascii (h high (by simp))).2]
  rw [utf8, hs, flatMap_map, map_eq_flatMap, flatMap_def, flatMap_def]
  congr 1
  refine map_congr_left fun unit hu => ?_
  simp [utf8Char, h unit hu]

lemma codes_utf8 (h : ∀ unit ∈ text, unit.toNat < 0x80) : (utf8 text).map UInt8.toNat = text.map toNat := by
  rw [utf8_ascii h, map_map]
  refine map_congr_left fun unit hu => ?_
  have := h unit hu
  rw [Function.comp_apply, UInt8.toNat_ofNat_of_lt' (by simp only [UInt8.size]; omega)]

/-! ## Reading UTF-8 -/

/-- The code units of a character. -/
def scalarUnits (c : ℕ) : Utf16 :=
  if c < 0x10000 then [UInt16.ofNat c]
  else [UInt16.ofNat (0xD800 + (c - 0x10000) / 0x400), UInt16.ofNat (0xDC00 + (c - 0x10000) % 0x400)]

/-- A character that is no surrogate. -/
def isScalar (c : ℕ) : Bool := c < 0xD800 || (0xE000 ≤ c && c < 0x110000)

/-- A byte that continues a character. -/
def isContinuation (byte : UInt8) : Bool := 0x80 ≤ byte.toNat && byte.toNat < 0xC0

/-- The string of well-formed UTF-8: no character is longer than it has to be, none is a
surrogate. -/
def ofUtf8 : Bytes → Option Utf16
  | [] => some []
  | a :: rest =>
    if a.toNat < 0x80 then (ofUtf8 rest).map (scalarUnits a.toNat ++ ·)
    else match rest with
    | [] => none
    | b :: rest =>
      let c := (a.toNat - 0xC0) * 0x40 + (b.toNat - 0x80)
      if isContinuation b && 0xC2 ≤ a.toNat && a.toNat < 0xE0 then
        (ofUtf8 rest).map (scalarUnits c ++ ·)
      else match rest with
      | [] => none
      | d :: rest =>
        let c := (a.toNat - 0xE0) * 0x1000 + (b.toNat - 0x80) * 0x40 + (d.toNat - 0x80)
        if isContinuation b && isContinuation d && 0xE0 ≤ a.toNat && a.toNat < 0xF0 &&
            0x800 ≤ c && isScalar c then (ofUtf8 rest).map (scalarUnits c ++ ·)
        else match rest with
        | [] => none
        | e :: rest =>
          let c := (a.toNat - 0xF0) * 0x40000 + (b.toNat - 0x80) * 0x1000 +
            (d.toNat - 0x80) * 0x40 + (e.toNat - 0x80)
          if isContinuation b && isContinuation d && isContinuation e &&
              0xF0 ≤ a.toNat && a.toNat < 0xF8 && 0x10000 ≤ c && c < 0x110000 then
            (ofUtf8 rest).map (scalarUnits c ++ ·)
          else none

variable {n : ℕ}

lemma byte_ofNat {a : UInt8} (h : n = a.toNat) : UInt8.ofNat n = a := by
  rw [h, UInt8.ofNat_toNat]

lemma unit_ofNat (h : n < 0x10000) : (UInt16.ofNat n).toNat = n :=
  UInt16.toNat_ofNat_of_lt' h

lemma scalarValues_scalarUnits (h : isScalar c) (text : Utf16) :
    scalarValues (scalarUnits c ++ text) = c :: scalarValues text := by
  simp only [isScalar, or_eq_true, and_eq_true, decide_eq_true_eq] at h
  simp only [scalarUnits]
  split
  · rename_i hlt
    have hunit := unit_ofNat hlt
    have hhigh : isHighSurrogate (UInt16.ofNat c) = false := by
      simp only [isHighSurrogate, Bool.and_eq_false_iff, decide_eq_false_iff_not,
        le_iff_toNat_le, reduceToNat, hunit]
      omega
    have hlow : isLowSurrogate (UInt16.ofNat c) = false := by
      simp only [isLowSurrogate, Bool.and_eq_false_iff, decide_eq_false_iff_not,
        le_iff_toNat_le, reduceToNat, hunit]
      omega
    have hscal : loneScalar (UInt16.ofNat c) = c := by
      rw [loneScalar, isSurrogate, hhigh, hlow, hunit]
      rfl
    cases text with
    | nil => simp [scalarValues, hscal]
    | cons unit rest => simp [scalarValues, hscal, hhigh]
  · rename_i hge
    have hhigh := unit_ofNat (n := 0xD800 + (c - 0x10000) / 0x400) (by omega)
    have hlow := unit_ofNat (n := 0xDC00 + (c - 0x10000) % 0x400) (by omega)
    have hpair : (isHighSurrogate (UInt16.ofNat (0xD800 + (c - 0x10000) / 0x400)) &&
        isLowSurrogate (UInt16.ofNat (0xDC00 + (c - 0x10000) % 0x400))) := by
      simp only [isHighSurrogate, isLowSurrogate, and_eq_true, decide_eq_true_eq,
        le_iff_toNat_le, reduceToNat, hhigh, hlow]
      omega
    have hvalue := surrogatePair_eq (UInt16.ofNat (0xD800 + (c - 0x10000) / 0x400))
      (UInt16.ofNat (0xDC00 + (c - 0x10000) % 0x400))
    rw [hhigh, hlow] at hvalue
    rw [cons_append, cons_append, nil_append, scalarValues, if_pos hpair]
    generalize surrogatePair _ _ = value at hvalue ⊢
    have hequal : value = c := by omega
    rw [hequal]

lemma utf8_scalarUnits (h : isScalar c) (text : Utf16) :
    utf8 (scalarUnits c ++ text) = utf8Char c ++ utf8 text := by
  rw [utf8, scalarValues_scalarUnits h, flatMap_cons, utf8]

variable {bytes : Bytes}

/-- **Nothing but characters is read.** -/
lemma ofUtf8_eq_some {units : Utf16} (h : ofUtf8 bytes = some units) :
    (bytes = [] ∧ units = []) ∨ ∃ c rest units', isScalar c ∧ bytes = utf8Char c ++ rest ∧
      ofUtf8 rest = some units' ∧ units = scalarUnits c ++ units' := by
  revert h
  fun_cases ofUtf8 bytes with
  | case1 =>
    intro h
    cases h
    exact .inl ⟨rfl, rfl⟩
  | case2 a rest ha =>
    intro h
    obtain ⟨units', hr, rfl⟩ := Option.map_eq_some_iff.mp h
    refine .inr ⟨a.toNat, rest, units', ?_, ?_, hr, rfl⟩
    · simp only [isScalar, or_eq_true, decide_eq_true_eq]
      omega
    · simp [utf8Char, ha]
  | case3 a ha =>
    intro h
    cases h
  | case4 a ha b rest c hc =>
    intro h
    obtain ⟨units', hr, rfl⟩ := Option.map_eq_some_iff.mp h
    simp only [isContinuation, and_eq_true, decide_eq_true_eq] at hc
    have hl : ¬c < 0x80 ∧ c < 0x800 := by omega
    refine .inr ⟨c, rest, units', ?_, ?_, hr, rfl⟩
    · simp only [isScalar, or_eq_true, decide_eq_true_eq]
      omega
    · rw [utf8Char, if_neg hl.1, if_pos hl.2, byte_ofNat (a := a) (by omega),
        byte_ofNat (a := b) (by omega)]
      rfl
  | case5 a ha b hc =>
    intro h
    cases h
  | case6 a ha b hs d rest c hc =>
    intro h
    obtain ⟨units', hr, rfl⟩ := Option.map_eq_some_iff.mp h
    simp only [isContinuation, and_eq_true, decide_eq_true_eq] at hc
    have hl : ¬c < 0x80 ∧ ¬c < 0x800 ∧ c < 0x10000 := by omega
    refine .inr ⟨c, rest, units', hc.2, ?_, hr, rfl⟩
    rw [utf8Char, if_neg hl.1, if_neg hl.2.1, if_pos hl.2.2, byte_ofNat (a := a) (by omega),
      byte_ofNat (a := b) (by omega), byte_ofNat (a := d) (by omega)]
    rfl
  | case7 a ha b hs d hc =>
    intro h
    cases h
  | case8 a ha b hs d _ hsh e rest c hc =>
    intro h
    obtain ⟨units', hr, rfl⟩ := Option.map_eq_some_iff.mp h
    simp only [isContinuation, and_eq_true, decide_eq_true_eq] at hc
    have hl : ¬c < 0x80 ∧ ¬c < 0x800 ∧ ¬c < 0x10000 := by omega
    refine .inr ⟨c, rest, units', ?_, ?_, hr, rfl⟩
    · simp only [isScalar, or_eq_true, and_eq_true, decide_eq_true_eq]
      omega
    · rw [utf8Char, if_neg hl.1, if_neg hl.2.1, if_neg hl.2.2, byte_ofNat (a := a) (by omega),
        byte_ofNat (a := b) (by omega), byte_ofNat (a := d) (by omega), byte_ofNat (a := e) (by omega)]
      rfl
  | case9 a ha b hs d hsh e rest c hc =>
    intro h
    cases h

/-- **What is read back has the bytes it was read from.** -/
lemma utf8_of_ofUtf8 (h : ofUtf8 bytes = some text) : utf8 text = bytes := by
  induction hl : bytes.length using Nat.strong_induction_on generalizing bytes text with
  | _ n ih =>
    rcases ofUtf8_eq_some h with ⟨rfl, rfl⟩ | ⟨c, rest, units, hs, rfl, hr, rfl⟩
    · rfl
    · have hc := length_pos_iff.mpr (utf8Char_ne_nil c)
      rw [length_append] at hl
      rw [utf8_scalarUnits hs, ih rest.length (by omega) hr rfl]

/-! ## Hexadecimal text -/

/-- The value of a hexadecimal digit in either case, by its code. -/
def hexDigit (code : ℕ) : Option ℕ :=
  if 48 ≤ code ∧ code ≤ 57 then some (code - 48)
  else if 97 ≤ code ∧ code ≤ 102 then some (code - 97 + 10)
  else if 65 ≤ code ∧ code ≤ 70 then some (code - 65 + 10)
  else none

/-- The bytes that pairs of digits stand for. -/
def hexPairs : List ℕ → Option Bytes
  | [] => some []
  | [_] => none
  | high :: low :: rest =>
    match hexDigit high, hexDigit low, hexPairs rest with
    | some high, some low, some bytes => some (UInt8.ofNat (high * 16 + low) :: bytes)
    | _, _, _ => none

/-- The lower-case digit of a value below sixteen. -/
def hexChar (value : ℕ) : ℕ := if value < 10 then 48 + value else 87 + value

/-- The digits of a byte string. -/
def hexCodes (bytes : Bytes) : List ℕ :=
  bytes.flatMap fun byte => [hexChar (byte.toNat / 16), hexChar (byte.toNat % 16)]

/-- `toLowerCase` on the letters of ASCII. -/
def lowerCase (code : ℕ) : ℕ := if 65 ≤ code ∧ code ≤ 90 then code + 32 else code

variable {code value : ℕ}

lemma hexDigit_lt (h : hexDigit code = some value) : value < 16 := by
  simp only [hexDigit] at h
  split_ifs at h <;> cases h <;> omega

lemma hexDigit_eq_zero_iff : hexDigit code = some 0 ↔ code = 48 := by
  simp only [hexDigit]
  split_ifs <;> simp <;> omega

@[simp] lemma hexDigit_lowerCase (code : ℕ) : hexDigit (lowerCase code) = hexDigit code := by
  simp only [hexDigit, lowerCase]
  split_ifs <;> first | rfl | omega

@[simp] lemma hexPairs_lowerCase (codes : List ℕ) : hexPairs (codes.map lowerCase) = hexPairs codes := by
  fun_induction hexPairs codes with
  | case1 => rfl
  | case2 => rfl
  | case3 high low rest a b bytes ha hb hby ih | case4 high low rest hn ih => simp_all [hexPairs]

lemma hexDigit_hexChar (h : value < 16) : hexDigit (hexChar value) = some value := by
  simp only [hexDigit, hexChar]
  split_ifs <;> first | omega | (congr 1; omega)

lemma hexDigit_lt_ascii (h : (hexDigit code).isSome) : code < 0x80 := by
  simp only [hexDigit] at h
  split_ifs at h
  · omega
  · omega
  · omega
  · cases h

lemma length_hexCodes (bytes : Bytes) : (hexCodes bytes).length = 2 * bytes.length := by
  induction bytes with
  | nil => rfl
  | cons byte rest ih =>
    simp only [hexCodes, flatMap_cons, length_append, length_cons, length_nil] at ih ⊢
    omega

lemma hexPairs_hexCodes (bytes : Bytes) : hexPairs (hexCodes bytes) = some bytes := by
  induction bytes with
  | nil => rfl
  | cons byte rest ih =>
    have hb := byte.toNat_lt
    have hc : hexCodes (byte :: rest) =
        hexChar (byte.toNat / 16) :: hexChar (byte.toNat % 16) :: hexCodes rest := by
      simp [hexCodes]
    have hv : byte.toNat / 16 * 16 + byte.toNat % 16 = byte.toNat := by omega
    rw [hc, hexPairs, hexDigit_hexChar (by omega), hexDigit_hexChar (by omega), ih]
    simp [hv]

lemma hexPairs_of_digits {codes : List ℕ} (hleng : codes.length = 2 * n)
    (hdigi : ∀ code ∈ codes, (hexDigit code).isSome) :
    ∃ bytes, hexPairs codes = some bytes ∧ bytes.length = n ∧
      ((∀ byte ∈ bytes, byte = 0) ↔ ∀ code ∈ codes, code = 48) := by
  induction n generalizing codes with
  | zero =>
    obtain rfl := eq_nil_of_length_eq_zero hleng
    exact ⟨[], rfl, rfl, by simp⟩
  | succ n ih =>
    match codes, hleng with
    | [], h => simp at h
    | [_], h => simp at h; omega
    | high :: low :: rest, h =>
      obtain ⟨bytes, hbytes, hcount, hzero⟩ := @ih rest (by simp at h; omega)
        fun code hcode => hdigi code (by simp [hcode])
      obtain ⟨a, ha⟩ := Option.isSome_iff_exists.mp (hdigi high (by simp))
      obtain ⟨b, hb⟩ := Option.isSome_iff_exists.mp (hdigi low (by simp))
      refine ⟨UInt8.ofNat (a * 16 + b) :: bytes, ?_, by simp [hcount], ?_⟩
      · rw [hexPairs, ha, hb, hbytes]
      have hfirst : UInt8.ofNat (a * 16 + b) = 0 ↔ high = 48 ∧ low = 48 := by
        have halt := hexDigit_lt ha
        have hblt := hexDigit_lt hb
        rw [← hexDigit_eq_zero_iff, ← hexDigit_eq_zero_iff, ha, hb, ← UInt8.toNat_inj,
          UInt8.toNat_ofNat_of_lt' (by simp only [UInt8.size]; omega)]
        simp only [UInt8.reduceToNat, Option.some.injEq]
        omega
      simp only [mem_cons, forall_eq_or_imp, hfirst, hzero, and_assoc]

/-! ## Decimal text -/

/-- The decimal digits of a number, by their codes. -/
def decimal (value : ℕ) : List ℕ :=
  if value = 0 then [48] else (Nat.digits 10 value).reverse.map (48 + ·)

/-- The number that a non-empty string of decimal digits stands for. -/
def decimalValue (codes : List ℕ) : Option ℕ :=
  if codes.isEmpty || codes.any (fun code => code < 48 || 57 < code) then none
  else some (codes.foldl (fun value code => value * 10 + (code - 48)) 0)

lemma decimal_digit (h : code ∈ decimal value) : 48 ≤ code ∧ code ≤ 57 := by
  simp only [decimal] at h
  split at h
  · simp at h
    omega
  · obtain ⟨digit, hd, rfl⟩ := mem_map.mp h
    have := Nat.digits_lt_base (by omega) (mem_reverse.mp hd)
    omega

lemma decimal_ne_nil (value : ℕ) : decimal value ≠ [] := by
  simp only [decimal]
  split
  · simp
  · rename_i hv
    simpa using Nat.digits_ne_nil_iff_ne_zero.mpr hv

lemma decimalValue_decimal (value : ℕ) : decimalValue (decimal value) = some value := by
  have hd : (decimal value).any (fun code => code < 48 || 57 < code) = false := by
    rw [any_eq_false]
    intro code hc
    have := decimal_digit hc
    simp
    omega
  have hf : (decimal value).foldl (fun value code => value * 10 + (code - 48)) 0 = value := by
    simp only [decimal]
    split
    · rename_i hz
      rw [hz]
      rfl
    · rw [foldl_map, foldl_reverse]
      conv_rhs => rw [← Nat.ofDigits_digits 10 value]
      generalize Nat.digits 10 value = digits
      induction digits with
      | nil => rfl
      | cons digit rest ih =>
        rw [foldr_cons, ih, Nat.ofDigits_cons]
        simp
        omega
  have hn : (decimal value).isEmpty = false := by
    rw [isEmpty_eq_false_iff]
    exact decimal_ne_nil value
  rw [decimalValue, hd, hn, hf]
  rfl

/-! ## JSON text -/

inductive Json where
  | null
  | boolean (value : Bool)
  /-- A number, with the text `JSON.stringify` prints for it. -/
  | number (text : Utf16)
  | string (text : Utf16)
  | array (items : List Json)
  | object (members : List (Utf16 × Json))

/-- A code unit as four hexadecimal digits behind `\u`. -/
def unicodeEscape (unit : UInt16) : Utf16 :=
  ascii "\\u" ++ [unit.toNat / 4096, unit.toNat / 256 % 16, unit.toNat / 16 % 16,
    unit.toNat % 16].map fun digit => UInt16.ofNat (hexChar digit)

/-- A character of a string that is no pair of surrogates. -/
def quoteUnit (unit : UInt16) : Utf16 :=
  if unit == 34 then ascii "\\\""
  else if unit == 92 then ascii "\\\\"
  else if unit == 8 then ascii "\\b"
  else if unit == 9 then ascii "\\t"
  else if unit == 10 then ascii "\\n"
  else if unit == 12 then ascii "\\f"
  else if unit == 13 then ascii "\\r"
  else if unit < 32 || isSurrogate unit then unicodeEscape unit
  else [unit]

/-- The characters of a string literal. -/
def quoteUnits : Utf16 → Utf16
  | [] => []
  | [unit] => quoteUnit unit
  | high :: low :: rest =>
    if isHighSurrogate high && isLowSurrogate low then high :: low :: quoteUnits rest
    else quoteUnit high ++ quoteUnits (low :: rest)

def quote (text : Utf16) : Utf16 := ascii "\"" ++ quoteUnits text ++ ascii "\""

mutual

/-- `JSON.stringify`. -/
def Json.stringify : Json → Utf16
  | .null => ascii "null"
  | .boolean value => ascii (if value then "true" else "false")
  | .number text => text
  | .string text => quote text
  | .array items => ascii "[" ++ stringifyItems items ++ ascii "]"
  | .object members => ascii "\x7b" ++ stringifyMembers members ++ ascii "\x7d"

def stringifyItems : List Json → Utf16
  | [] => []
  | [item] => item.stringify
  | item :: rest => item.stringify ++ ascii "," ++ stringifyItems rest

def stringifyMembers : List (Utf16 × Json) → Utf16
  | [] => []
  | [(key, value)] => quote key ++ ascii ":" ++ value.stringify
  | (key, value) :: rest =>
    quote key ++ ascii ":" ++ value.stringify ++ ascii "," ++ stringifyMembers rest

end

end Text
