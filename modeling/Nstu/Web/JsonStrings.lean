import Nstu.Web.JsonReader

/-!
# Strings and numbers in the host's JSON reader

`parse_string` reads the strings of `hostGrammar`, the grammar without escapes of surrogates: it writes
every escape in bytes of its own, and the bytes of a surrogate are no UTF-8 (`parseString_append`,
`parseString_sound`).
`parse_number` reads the longest number that its input begins with (`parseNumber_sound`,
`parseNumber_append`).
-/

namespace Nstu.Web

open Wire CType Text JsonText List

/-- The grammar that the reader implements: the white space of `isspace`, no surrogates in escapes. -/
def hostGrammar : Grammar where
  wide := true
  surrogates := false
  members := kMaximumJsonMembers
  stringBytes := kMaximumJsonStringBytes

variable {grammar : Grammar} {unit : UInt16}

lemma escaped_iff (h : grammar.surrogates = false) : grammar.escaped unit ↔ isSurrogate unit = false := by
  simp [Grammar.escaped, h]

/-! ## Strings -/

/-- A byte of a string that stands for itself. -/
def IsRaw (byte : UInt8) : Prop := ¬ byte < 0x20 ∧ byte ≠ 0x22 ∧ byte ≠ 0x5c

/-- The characters of a string, and the bytes that the loop writes for them. -/
inductive RawChars : Bytes → Bytes → Prop where
  | nil : RawChars [] []
  | byte {byte : UInt8} {text output : Bytes} (hbyte : IsRaw byte) (hrest : RawChars text output) :
      RawChars (byte :: text) (byte :: output)
  | escape {letter code : UInt8} {text output : Bytes} (hcode : escapeCode letter = some code)
      (hrest : RawChars text output) : RawChars (0x5c :: letter :: text) (code :: output)
  | unicode {a b c d : UInt8} {unit : UInt16} {text output : Bytes} (hunit : hexUnit a b c d = some unit)
      (hrest : RawChars text output) :
      RawChars (0x5c :: 0x75 :: a :: b :: c :: d :: text) (utf8Char unit.toNat ++ output)

variable {output rest : Bytes} {result : Bytes × Bytes}

lemma closeString_eq_some : closeString output rest = some result ↔
      (output.length ≤ kMaximumJsonStringBytes ∧ (ofUtf8 output).isSome) ∧ result = (output, rest) := by
  have he : (output.isEmpty || (ofUtf8 output).isSome) = (ofUtf8 output).isSome := by
    cases output with
    | nil => rfl
    | cons byte output => rfl
  rw [closeString, he]
  split_ifs with hl hv
  · simp only [false_iff, not_and]
    omega
  · simp only [Option.some.injEq, hv, and_true]
    constructor
    · rintro rfl
      exact ⟨by omega, rfl⟩
    · rintro ⟨-, rfl⟩
      rfl
  · simp [hv]

variable {input : Bytes}

lemma parseChars_sound {result : Bytes} (h : parseChars output input = some (result, rest)) :
    ∃ text written, RawChars text written ∧ input = text ++ 0x22 :: rest ∧ result = output ++ written ∧
      result.length ≤ kMaximumJsonStringBytes ∧ (ofUtf8 result).isSome := by
  fun_induction parseChars output input with
  | case1 => cases h
  | case2 output rest' =>
    obtain ⟨hclose, hresu⟩ := closeString_eq_some.mp h
    cases hresu
    exact ⟨[], [], .nil, rfl, by simp, hclose⟩
  | case3 | case4 => cases h
  | case5 output byte rest' hquote hcont hesca hleng ih =>
    obtain ⟨text, written, hraw, hinput, hresu, hclose⟩ := ih h
    refine ⟨byte :: text, byte :: written, .byte ⟨hcont, hquote, hesca⟩ hraw, ?_, ?_, hclose⟩
    · rw [hinput, cons_append]
    · rw [hresu, append_assoc, singleton_append]
  | case6 | case7 | case8 => cases h
  | case9 output byte hquote hcont hesca a b c d rest' unit hunit hleng ih =>
    obtain ⟨text, written, hraw, rfl, hresu, hclose⟩ := ih h
    rw [not_not] at hesca
    refine ⟨_, _, .unicode hunit hraw, ?_, ?_, hclose⟩
    · rw [hesca]
      rfl
    · rw [hresu, append_assoc]
  | case10 | case11 | case12 => cases h
  | case13 output byte hquote hcont hesca letter rest' hlett code hcode hleng ih =>
    obtain ⟨text, written, hraw, rfl, hresu, hclose⟩ := ih h
    rw [not_not] at hesca
    refine ⟨_, _, .escape hcode hraw, ?_, ?_, hclose⟩
    · rw [hesca]
      rfl
    · rw [hresu, append_assoc, singleton_append]

variable {byte : UInt8}

lemma parseChars_byte (h : IsRaw byte) (output rest : Bytes) : parseChars output (byte :: rest) =
      if (output ++ [byte]).length > kMaximumJsonStringBytes then none else parseChars (output ++ [byte]) rest := by
  rw [parseChars.eq_def]
  simp only [h.1, h.2.1, h.2.2, if_false, ne_eq, not_false_eq_true, if_true]

variable {letter code : UInt8}

lemma parseChars_escape (h : escapeCode letter = some code) (output rest : Bytes) :
    parseChars output (0x5c :: letter :: rest) = if (output ++ [code]).length > kMaximumJsonStringBytes then none
      else parseChars (output ++ [code]) rest := by
  have hl : letter ≠ 0x75 := by
    rintro rfl
    cases h
  rw [parseChars.eq_def]
  simp [hl, h]

lemma parseChars_unicode {a b c d : UInt8} (h : hexUnit a b c d = some unit) (output rest : Bytes) :
    parseChars output (0x5c :: 0x75 :: a :: b :: c :: d :: rest) =
      if (output ++ utf8Char unit.toNat).length > kMaximumJsonStringBytes then none
      else parseChars (output ++ utf8Char unit.toNat) rest := by
  rw [parseChars.eq_def]
  simp [h]

/-- What the loop returns when the characters of a string have been written. -/
def closed (output rest : Bytes) : Option (Bytes × Bytes) :=
  if output.length ≤ kMaximumJsonStringBytes ∧ (ofUtf8 output).isSome = true then some (output, rest) else none

lemma closed_of_prefix (output written rest : Bytes) :
    (if output.length > kMaximumJsonStringBytes then none else closed (output ++ written) rest) =
      closed (output ++ written) rest := by
  split
  · rename_i hl
    rw [closed, if_neg]
    rintro ⟨hle, -⟩
    rw [length_append] at hle
    omega
  · rfl

variable {text written : Bytes}

lemma parseChars_append (h : RawChars text written) (output rest : Bytes) :
    parseChars output (text ++ 0x22 :: rest) = closed (output ++ written) rest := by
  induction h generalizing output with
  | nil =>
    rw [nil_append, append_nil, parseChars.eq_def]
    simp only [if_true, closed]
    split_ifs with hc
    · exact closeString_eq_some.mpr ⟨hc, rfl⟩
    · rw [Option.eq_none_iff_forall_ne_some]
      intro result hr
      exact hc (closeString_eq_some.mp hr).1
  | @byte byte text written hb _ ih =>
    rw [cons_append, parseChars_byte hb, ih, closed_of_prefix, ← append_cons]
  | @escape letter code text written hco _ ih =>
    rw [cons_append, cons_append, parseChars_escape hco, ih, closed_of_prefix, ← append_cons]
  | @unicode a b c d unit text written hu _ ih =>
    rw [cons_append, cons_append, cons_append, cons_append, cons_append,
      cons_append, parseChars_unicode hu, ih, closed_of_prefix, append_assoc]

/-! ### The code units of a string -/

lemma escapeCode_ascii (h : escapeCode letter = some code) : code.toNat < 0x80 := by
  rw [escapeCode] at h
  split_ifs at h with hs
  · cases h
    simp only [Bool.or_eq_true, beq_iff_eq] at hs
    rcases hs with (rfl | rfl) | rfl <;> decide
  all_goals
    cases h
    decide

lemma utf8Char_ascii (h : byte.toNat < 0x80) : utf8Char byte.toNat = [byte] := by
  rw [utf8Char, if_pos h, UInt8.ofNat_toNat]

lemma scalarUnits_ascii (h : byte.toNat < 0x80) : scalarUnits byte.toNat = [UInt16.ofNat byte.toNat] := by
  rw [scalarUnits, if_pos (by omega)]

lemma isScalar_ascii (h : byte.toNat < 0x80) : isScalar byte.toNat := by
  simp only [isScalar, Bool.or_eq_true, decide_eq_true_eq]
  omega

lemma RawChars.continuations (found : Bytes)
    (hfound : ∀ byte ∈ found, isContinuation byte) (h : RawChars text (found ++ written)) :
    ∃ rest, text = found ++ rest ∧ RawChars rest written := by
  induction found generalizing text with
  | nil => exact ⟨text, rfl, h⟩
  | cons first found ih =>
    rw [forall_mem_cons] at hfound
    have hfirst := hfound.1
    simp only [isContinuation, Bool.and_eq_true, decide_eq_true_eq] at hfirst
    generalize hwhole : first :: found ++ written = whole at h
    cases h with
    | nil => cases hwhole
    | byte hbyte hrest =>
      obtain ⟨rfl, rfl⟩ := cons.inj hwhole
      obtain ⟨rest, rfl, hraw⟩ := ih hfound.2 hrest
      exact ⟨rest, rfl, hraw⟩
    | escape hcode hrest =>
      obtain ⟨rfl, -⟩ := cons.inj hwhole
      have := escapeCode_ascii hcode
      omega
    | @unicode a b c d unit text written hunit hrest =>
      have hlt := unit.toNat_lt
      by_cases hascii : unit.toNat < 0x80
      · rw [utf8Char, if_pos hascii] at hwhole
        obtain ⟨rfl, -⟩ := cons.inj hwhole
        rw [toNat_ofNat_byte (by omega)] at hfirst
        omega
      · obtain ⟨lead, rest, hchar, hlead, -⟩ := utf8Char_of_not_ascii (c := unit.toNat) (by omega) (by omega)
        rw [hchar] at hwhole
        obtain ⟨rfl, -⟩ := cons.inj hwhole
        omega

lemma surrogate_range (h : isSurrogate unit) : 0xD800 ≤ unit.toNat ∧ unit.toNat < 0xE000 := by
  simp only [isSurrogate, isHighSurrogate, isLowSurrogate, Bool.or_eq_true, Bool.and_eq_true,
    decide_eq_true_eq, UInt16.le_iff_toNat_le, UInt16.reduceToNat] at h
  omega

lemma rawChars_append {found : Bytes} (hf : ∀ byte ∈ found, IsRaw byte)
    (h : RawChars text written) : RawChars (found ++ text) (found ++ written) := by
  induction found with
  | nil => exact h
  | cons first found ih =>
    rw [forall_mem_cons] at hf
    exact .byte hf.1 (ih hf.2)

lemma isRaw_utf8Char {c : ℕ} (h : IsUnescaped c) : ∀ byte ∈ utf8Char c, IsRaw byte := fun byte hb =>
  ⟨by simpa [UInt8.lt_iff_toNat_lt] using (utf8Char_inside h byte hb).1, (utf8Char_inside h byte hb).2⟩

variable {units : Utf16}

/-- **What the strict conversion accepts is a string without surrogates in escapes.** -/
lemma RawChars.chars (h : RawChars text written)
    (hunits : ofUtf8 written = some units) : Chars hostGrammar text units := by
  induction hleng : text.length using Nat.strong_induction_on generalizing text written units with
  | _ n ih =>
    subst hleng
    cases h with
    | nil =>
      rw [ofUtf8] at hunits
      cases hunits
      exact .nil
    | @byte byte text written hbyte hrest =>
      rcases ofUtf8_eq_some hunits with ⟨hnil, -⟩ | ⟨c, rest, units', hscal, hwrit, hrest', rfl⟩
      · cases hnil
      by_cases hascii : c < 0x80
      · rw [utf8Char, if_pos hascii] at hwrit
        obtain ⟨rfl, rfl⟩ := cons.inj hwrit
        have hchar : utf8Char c = [UInt8.ofNat c] := by rw [utf8Char, if_pos hascii]
        have hnat := toNat_ofNat_byte (n := c) (by omega)
        have hunes : IsUnescaped c := by
          refine ⟨hscal, ?_, ?_, ?_⟩
          · have := hbyte.1
            rw [UInt8.lt_iff_toNat_lt, hnat] at this
            simpa using this
          · rintro rfl
            exact hbyte.2.1 rfl
          · rintro rfl
            exact hbyte.2.2 rfl
        have hall := Chars.char hunes (ih _ (by simp) hrest hrest' rfl)
        rwa [hchar] at hall
      · obtain ⟨first, found, hchar, -, hfound⟩ :=
          utf8Char_of_not_ascii (c := c) (by omega) (isScalar_lt hscal).1
        rw [hchar] at hwrit
        obtain ⟨rfl, rfl⟩ := cons.inj hwrit
        obtain ⟨text', rfl, hraw⟩ := hrest.continuations found hfound
        have hunes : IsUnescaped c := ⟨hscal, by omega, by omega, by omega⟩
        have hall := Chars.char hunes (ih text'.length (by simp only [length_cons, length_append]; omega) hraw hrest' rfl)
        rwa [hchar] at hall
    | @escape letter code text written hcode hrest =>
      have hascii := escapeCode_ascii hcode
      have hread := ofUtf8_utf8Char (isScalar_ascii hascii) written
      rw [utf8Char_ascii hascii, scalarUnits_ascii hascii] at hread
      rw [singleton_append] at hread
      rw [hread] at hunits
      obtain ⟨units', hunits', rfl⟩ := Option.map_eq_some_iff.mp hunits
      exact .escape hcode (ih _ (by simp only [length_cons]; omega) hrest hunits' rfl)
    | @unicode a b c d unit text written hunit hrest =>
      cases hsurr : isSurrogate unit with
      | true =>
        rw [ofUtf8_surrogate (surrogate_range hsurr)] at hunits
        cases hunits
      | false =>
        rw [ofUtf8_utf8Char (isScalar_of_not_isSurrogate hsurr), scalarUnits_toNat] at hunits
        obtain ⟨units', hunits', rfl⟩ := Option.map_eq_some_iff.mp hunits
        exact .unicode hunit ((escaped_iff rfl).mpr hsurr) (ih _ (by simp; omega) hrest hunits' rfl)

/-- **The bytes of such a string are what the loop writes**, and are read back. -/
lemma chars_raw (hgram : grammar.surrogates = false) (h : Chars grammar text units) :
    RawChars text (utf8 units) ∧ ofUtf8 (utf8 units) = some units := by
  induction h with
  | nil => exact ⟨.nil, rfl⟩
  | @char c text units hchar _ ih =>
    rw [utf8_scalarUnits hchar.1, ofUtf8_utf8Char hchar.1, ih.2]
    exact ⟨rawChars_append (isRaw_utf8Char hchar) ih.1, rfl⟩
  | @escape letter code text units hcode _ ih =>
    have hascii := escapeCode_ascii hcode
    have hwrite := utf8_scalarUnits (isScalar_ascii hascii) units
    have hread := ofUtf8_utf8Char (isScalar_ascii hascii) (utf8 units)
    rw [utf8Char_ascii hascii, scalarUnits_ascii hascii, singleton_append, singleton_append] at hwrite
    rw [utf8Char_ascii hascii, scalarUnits_ascii hascii, singleton_append, ih.2] at hread
    rw [hwrite]
    exact ⟨.escape hcode ih.1, hread⟩
  | @unicode a b c d unit text units hunit hesca _ ih =>
    have hscal := isScalar_of_not_isSurrogate ((escaped_iff hgram).mp hesca)
    have hwrite := utf8_scalarUnits hscal units
    rw [scalarUnits_toNat, singleton_append] at hwrite
    rw [hwrite, ofUtf8_utf8Char hscal, ih.2, scalarUnits_toNat]
    exact ⟨.unicode hunit ih.1, rfl⟩

/-- **Strings.**  `parse_string` reads a string unless it is too long, -/
lemma parseString_append (hg : grammar.surrogates = false) (h : IsString grammar text units) (rest : Bytes) :
    parseString (text ++ rest) =
      if (utf8 units).length ≤ kMaximumJsonStringBytes then some (utf8 units, rest) else none := by
  obtain ⟨-, chars, hc, rfl⟩ := h
  obtain ⟨hr, hre⟩ := chars_raw hg hc
  rw [cons_append, append_assoc, singleton_append, parseString, if_neg (by simp),
    parseChars_append hr, nil_append, closed, hre]
  simp

lemma parseString_sound {scalar : Bytes} (h : parseString input = some (scalar, rest)) :
    ∃ text units, IsString hostGrammar text units ∧ input = text ++ rest ∧ scalar = utf8 units := by
  cases input with
  | nil => cases h
  | cons byte input =>
    rw [parseString] at h
    split at h
    · cases h
    · rename_i hq
      rw [not_not] at hq
      obtain ⟨text, written, hr, rfl, rfl, hl, hv⟩ := parseChars_sound h
      obtain ⟨units, hu⟩ := Option.isSome_iff_exists.mp hv
      have hutf8 := utf8_of_ofUtf8 hu
      refine ⟨0x22 :: (text ++ [0x22]), units, ⟨hutf8 ▸ hl, text, hr.chars hu, rfl⟩, ?_, ?_⟩
      · rw [hq, cons_append, append_assoc, singleton_append]
      · exact hutf8.symm

/-! ## Numbers -/

/-- A character that a number can go on with. -/
def continuesNumber (byte : UInt8) : Bool := isDigit byte || byte == 0x2e || byte == 0x65 || byte == 0x45

/-- A number ends before this text. -/
def Delimited (rest : Bytes) : Prop := ∀ byte ∈ rest.head?, continuesNumber byte = false

lemma Delimited.cons {byte : UInt8} (h : continuesNumber byte = false) (rest : Bytes) : Delimited (byte :: rest) := by
  intro first hf
  cases hf
  exact h

lemma not_continuesNumber (h : continuesNumber byte = false) :
    isDigit byte = false ∧ byte ≠ 0x2e ∧ byte ≠ 0x65 ∧ byte ≠ 0x45 := by
  simpa [continuesNumber, and_assoc] using h

lemma takeDigits_eq (input : Bytes) : input = (takeDigits input).1 ++ (takeDigits input).2 ∧
      ∀ byte ∈ (takeDigits input).1, isDigit byte :=
  ⟨takeWhile_append_dropWhile.symm, all_eq_true.mp all_takeWhile⟩

variable {digits : Bytes}

lemma takeDigits_append (hd : ∀ byte ∈ digits, isDigit byte)
    (hr : ∀ byte ∈ rest.head?, isDigit byte = false) : takeDigits (digits ++ rest) = (digits, rest) := by
  rw [takeDigits, takeWhile_append_of_pos hd, dropWhile_append_of_pos hd]
  cases rest with
  | nil => simp
  | cons byte rest =>
    have hb := hr byte rfl
    simp [hb]

lemma parseDigits_eq_some (h : parseDigits input = some result) : IsDigits result.1 ∧ input = result.1 ++ result.2 := by
  cases input with
  | nil => cases h
  | cons byte input =>
    simp only [parseDigits] at h
    split at h
    · cases h
    · rename_i hd
      cases h
      obtain ⟨hi, hdi⟩ := takeDigits_eq (byte :: input)
      refine ⟨⟨?_, hdi⟩, hi⟩
      simp only [Bool.not_eq_true', Bool.not_eq_false] at hd
      simp [takeDigits, hd]

lemma parseDigits_append (hd : IsDigits digits) (hr : ∀ byte ∈ rest.head?, isDigit byte = false) :
    parseDigits (digits ++ rest) = some (digits, rest) := by
  obtain ⟨hn, hd⟩ := hd
  cases digits with
  | nil => exact absurd rfl hn
  | cons first digits =>
    have hf := hd first mem_cons_self
    rw [cons_append, parseDigits]
    simp only [hf, Bool.not_true, Bool.false_eq_true, if_false]
    rw [← cons_append, takeDigits_append hd hr]

lemma parseInt_eq_some (h : parseInt input = some result) : IsInt result.1 ∧ input = result.1 ++ result.2 := by
  cases input with
  | nil => cases h
  | cons byte input =>
    rw [parseInt] at h
    split_ifs at h with hz hr
    · cases h
      exact ⟨.inl (by rw [hz]), rfl⟩
    · cases h
      simp only [Bool.or_eq_true, decide_eq_true_eq, not_or, UInt8.not_lt] at hr
      obtain ⟨hi, hd⟩ := takeDigits_eq (byte :: input)
      have hdi := isDigit_of_le hr.1 hr.2
      have hf : (takeDigits (byte :: input)).1 = byte :: (takeDigits input).1 := by
        simp [takeDigits, hdi]
      exact ⟨.inr ⟨byte, _, hf, hr.1, hr.2, (takeDigits_eq input).2⟩, hi⟩

variable {int : Bytes}

lemma parseInt_append (hint : IsInt int)
    (hr : ∀ byte ∈ rest.head?, isDigit byte = false) : parseInt (int ++ rest) = some (int, rest) := by
  rcases hint with rfl | ⟨first, digits, rfl, hf, hf', hd⟩
  · rfl
  · have hn : first ≠ 0x30 := by
      rintro rfl
      exact absurd hf (by decide)
    have hra : ¬ (decide (first < 0x31) || decide (first > 0x39)) := by
      simp only [Bool.or_eq_true, decide_eq_true_eq, not_or, UInt8.not_lt]
      exact ⟨hf, hf'⟩
    have ha : ∀ byte ∈ first :: digits, isDigit byte := by
      rw [forall_mem_cons]
      exact ⟨isDigit_of_le hf hf', hd⟩
    rw [cons_append, parseInt, if_neg hn, if_neg hra, ← cons_append, takeDigits_append ha hr]

lemma parseFrac_eq_some (h : parseFrac input = some result) : IsFrac result.1 ∧ input = result.1 ++ result.2 := by
  rw [parseFrac.eq_def] at h
  split at h
  · obtain ⟨found, hf, rfl⟩ := Option.map_eq_some_iff.mp h
    obtain ⟨hd, hi⟩ := parseDigits_eq_some hf
    exact ⟨.inr ⟨found.1, hd, rfl⟩, by rw [hi]; rfl⟩
  · cases h
    exact ⟨.inl rfl, rfl⟩

variable {frac : Bytes}

lemma parseFrac_append (hf : IsFrac frac) (hr : ∀ byte ∈ rest.head?, isDigit byte = false ∧ byte ≠ 0x2e) :
    parseFrac (frac ++ rest) = some (frac, rest) := by
  rcases hf with rfl | ⟨digits, hd, rfl⟩
  · rw [nil_append, parseFrac.eq_def]
    split
    · exact absurd rfl (hr 0x2e rfl).2
    · rfl
  · rw [cons_append, parseFrac, parseDigits_append hd fun byte h => (hr byte h).1]
    rfl

lemma parseSign_eq (input : Bytes) :
    ((parseSign input).1 = [] ∨ (parseSign input).1 = [0x2b] ∨ (parseSign input).1 = [0x2d]) ∧
      input = (parseSign input).1 ++ (parseSign input).2 := by
  rw [parseSign.eq_def]
  split
  · exact ⟨.inr (.inl rfl), rfl⟩
  · exact ⟨.inr (.inr rfl), rfl⟩
  · exact ⟨.inl rfl, rfl⟩

lemma parseSign_append {sign : Bytes} (hs : sign = [] ∨ sign = [0x2b] ∨ sign = [0x2d])
    (hd : IsDigits digits) (rest : Bytes) : parseSign (sign ++ (digits ++ rest)) = (sign, digits ++ rest) := by
  rcases hs with rfl | rfl | rfl
  · obtain ⟨hn, hd⟩ := hd
    cases digits with
    | nil => exact absurd rfl hn
    | cons first digits =>
      have hf := hd first mem_cons_self
      rw [nil_append, cons_append, parseSign.eq_def]
      split
      · rename_i he
        cases he
        exact absurd hf (by decide)
      · rename_i he
        cases he
        exact absurd hf (by decide)
      · rfl
  · rfl
  · rfl

lemma parseExp_eq_some (h : parseExp input = some result) : IsExp result.1 ∧ input = result.1 ++ result.2 := by
  cases input with
  | nil =>
    cases h
    exact ⟨.inl rfl, rfl⟩
  | cons e input =>
    rw [parseExp] at h
    split at h
    · rename_i he
      simp only [Bool.or_eq_true, decide_eq_true_eq] at he
      obtain ⟨found, hf, rfl⟩ := Option.map_eq_some_iff.mp h
      obtain ⟨hd, hi⟩ := parseDigits_eq_some hf
      obtain ⟨hs, hsp⟩ := parseSign_eq input
      refine ⟨.inr ⟨e, _, found.1, he, hs, hd, rfl⟩, ?_⟩
      rw [cons_append, append_assoc, ← hi, ← hsp]
    · cases h
      exact ⟨.inl rfl, rfl⟩

variable {exp : Bytes}

lemma parseExp_append (hexp : IsExp exp)
    (hr : ∀ byte ∈ rest.head?, isDigit byte = false ∧ byte ≠ 0x65 ∧ byte ≠ 0x45) :
    parseExp (exp ++ rest) = some (exp, rest) := by
  rcases hexp with rfl | ⟨e, sign, digits, he, hs, hd, rfl⟩
  · cases rest with
    | nil => rfl
    | cons byte rest =>
      have hb := hr byte rfl
      rw [nil_append, parseExp, if_neg (by simp [hb.2.1, hb.2.2])]
  · rw [cons_append, append_assoc, parseExp, if_pos (by simpa using he)]
    simp only [parseSign_append hs hd rest]
    rw [parseDigits_append hd fun byte h => (hr byte h).1]
    rfl

lemma parseMinus_eq (input : Bytes) : ((parseMinus input).1 = [] ∨ (parseMinus input).1 = [0x2d]) ∧
      input = (parseMinus input).1 ++ (parseMinus input).2 := by
  rw [parseMinus.eq_def]
  split
  · exact ⟨.inr rfl, rfl⟩
  · exact ⟨.inl rfl, rfl⟩

lemma parseNumber_sound (h : parseNumber input = some result) : IsNumber result.1 ∧ input = result.1 ++ result.2 := by
  simp only [parseNumber, Option.bind_eq_bind, Option.bind_eq_some_iff] at h
  obtain ⟨int, hint, frac, hf, exp, he, hr⟩ := h
  cases hr
  obtain ⟨hm, hi⟩ := parseMinus_eq input
  obtain ⟨hint, ha⟩ := parseInt_eq_some hint
  obtain ⟨hf, haf⟩ := parseFrac_eq_some hf
  obtain ⟨he, haft⟩ := parseExp_eq_some he
  refine ⟨⟨_, _, _, _, hm, hint, hf, he, rfl⟩, ?_⟩
  rw [append_assoc, append_assoc, append_assoc, ← haft, ← haf, ← ha, ← hi]

lemma isInt_head (h : IsInt int) : ∃ first rest, int = first :: rest ∧ isDigit first := by
  rcases h with rfl | ⟨first, rest, rfl, hf, hf', -⟩
  · exact ⟨0x30, [], rfl, by decide⟩
  · exact ⟨first, rest, rfl, isDigit_of_le hf hf'⟩

lemma parseMinus_append {minus : Bytes} (hm : minus = [] ∨ minus = [0x2d]) (hint : IsInt int)
    (rest : Bytes) : parseMinus (minus ++ (int ++ rest)) = (minus, int ++ rest) := by
  rcases hm with rfl | rfl
  · obtain ⟨first, tail, rfl, hf⟩ := isInt_head hint
    rw [nil_append, cons_append, parseMinus.eq_def]
    split
    · rename_i he
      cases he
      exact absurd hf (by decide)
    · rfl
  · rfl

lemma head_exp (hexp : IsExp exp) (hr : Delimited rest) :
    ∀ byte ∈ (exp ++ rest).head?, isDigit byte = false ∧ byte ≠ 0x2e := by
  intro byte hb
  rcases hexp with rfl | ⟨e, sign, digits, he, -, -, rfl⟩
  · have := not_continuesNumber (hr byte hb)
    exact ⟨this.1, this.2.1⟩
  · cases hb
    rcases he with rfl | rfl <;> decide

lemma head_frac (hf : IsFrac frac) (hr : ∀ byte ∈ rest.head?, isDigit byte = false ∧ byte ≠ 0x2e) :
    ∀ byte ∈ (frac ++ rest).head?, isDigit byte = false := by
  intro byte hb
  rcases hf with rfl | ⟨digits, -, rfl⟩
  · exact (hr byte hb).1
  · cases hb
    decide

/-- **Numbers are read as they are written.** -/
lemma parseNumber_append (h : IsNumber text) (hr : Delimited rest) :
    parseNumber (text ++ rest) = some (text, rest) := by
  obtain ⟨minus, int, frac, exp, hm, hint, hf, he, rfl⟩ := h
  have ha := head_exp he hr
  have hen : ∀ byte ∈ rest.head?, isDigit byte = false ∧ byte ≠ 0x65 ∧ byte ≠ 0x45 := by
    intro byte hb
    have := not_continuesNumber (hr byte hb)
    exact ⟨this.1, this.2.2⟩
  rw [append_assoc, append_assoc, append_assoc, parseNumber]
  simp only [parseMinus_append hm hint, parseInt_append hint (head_frac hf ha),
    parseFrac_append hf ha, parseExp_append he hen, Option.bind_eq_bind, Option.bind_some]
  rfl

end Nstu.Web
