import Nstu.Update.Types
import Nstu.Core.JsonGrammar
import Mathlib.Data.Nat.Digits.Lemmas

/-!
# The reader of staging records

`MiniJsonReader` of `update_staging.cpp`.

A reader that has stopped before the end of its input does the same on every longer input: `Extends` says so, and
each token is shown to have it.  What is printed is read back by the lemmas of the last section.
-/

namespace Nstu.Update

open Wire CType Text JsonText List Option

namespace MiniJsonReader

/-! ## The tokens -/

def readHexQuad : Bytes → Option (ℕ × Bytes)
  | a :: b :: c :: d :: rest => (hexUnit a b c d).map fun value => (value.toNat, rest)
  | _ => none

/-- A character that is written as `\u` and four digits, or as two of these, from behind the first `u` on. -/
def readCodepoint (input : Bytes) : Option (Bytes × Bytes) :=
  match readHexQuad input with
  | none => none
  | some (codepoint, rest) =>
    if 0xd800 ≤ codepoint ∧ codepoint ≤ 0xdbff then
      match rest with
      | 0x5c :: 0x75 :: rest =>
        match readHexQuad rest with
        | none => none
        | some (low, rest) =>
          if low < 0xdc00 ∨ 0xdfff < low then none
          else some (utf8Char (0x10000 + (codepoint - 0xd800) * 0x400 + low - 0xdc00), rest)
      | _ => none
    else if 0xdc00 ≤ codepoint ∧ codepoint ≤ 0xdfff then none
    else some (utf8Char codepoint, rest)

/-- What follows a backslash. -/
def readEscape : Bytes → Option (Bytes × Bytes)
  | [] => none
  | letter :: rest => if letter = 0x75 then readCodepoint rest else (escapeCode letter).map fun code => ([code], rest)

variable {input rest : Bytes} {value : ℕ}

lemma length_readHexQuad (h : readHexQuad input = some (value, rest)) : rest.length < input.length := by
  rw [readHexQuad.eq_def] at h
  split at h
  · obtain ⟨_, _, he⟩ := map_eq_some_iff.mp h
    obtain ⟨-, rfl⟩ := Prod.mk.inj he
    simp only [length_cons]
    omega
  · contradiction

variable {output : Bytes}

lemma length_readCodepoint (h : readCodepoint input = some (output, rest)) : rest.length < input.length := by
  rw [readCodepoint] at h
  split at h
  · contradiction
  · rename_i codepoint behind hq
    have hf := length_readHexQuad hq
    split_ifs at h with hh hl
    · split at h
      · split at h
        · contradiction
        · rename_i hs
          have := length_readHexQuad hs
          split_ifs at h
          obtain ⟨-, rfl⟩ := Prod.mk.inj (some.inj h)
          simp only [length_cons] at hf
          omega
      · contradiction
    · obtain ⟨-, rfl⟩ := Prod.mk.inj (some.inj h)
      exact hf

lemma length_readEscape (h : readEscape input = some (output, rest)) : rest.length < input.length := by
  cases input with
  | nil => contradiction
  | cons letter tail =>
    rw [readEscape] at h
    split_ifs at h
    · exact (length_readCodepoint h).trans (Nat.lt_succ_self _)
    · obtain ⟨_, _, he⟩ := map_eq_some_iff.mp h
      obtain ⟨-, rfl⟩ := Prod.mk.inj he
      exact Nat.lt_succ_self _

/-- The loop of `parse_string`, behind the opening quotation mark. -/
def parseChars (input : Bytes) : Option (Bytes × Bytes) :=
  match input with
  | [] => none
  | byte :: rest =>
    if byte = 0x22 then some ([], rest)
    else if byte < 0x20 then none
    else if byte = 0x5c then
      match _hescape : readEscape rest with
      | none => none
      | some (output, after) => (parseChars after).map fun (text, rest) => (output ++ text, rest)
    else (parseChars rest).map fun (text, rest) => (byte :: text, rest)
  termination_by input.length
  decreasing_by
    · have := length_readEscape _hescape
      simp only [List.length_cons]
      omega
    · exact Nat.lt_succ_self _

def parseString (input : Bytes) : Option (Bytes × Bytes) :=
  match matchChar 0x22 input with
  | none => none
  | some rest => parseChars rest

def parseUint64 (input : Bytes) : Option (UInt64 × Bytes) :=
  let input := skipWhitespace input
  if 1 < (input.takeWhile isDigit).length ∧ input.head? = some 0x30 then none
  else (parseDigits (2 ^ 64 - 1) input).map fun (value, rest) => (UInt64.ofNat value, rest)

/-! ## Reading goes forward -/

variable {text : Bytes}

lemma length_parseChars (h : parseChars input = some (text, rest)) : rest.length < input.length := by
  fun_induction parseChars input generalizing text with
  | case1 => contradiction
  | case2 tail =>
    obtain ⟨-, rfl⟩ := Prod.mk.inj (some.inj h)
    exact Nat.lt_succ_self _
  | case3 | case4 => contradiction
  | case5 tail output after he _ _ ih =>
    obtain ⟨⟨text', rest'⟩, hr, heq⟩ := map_eq_some_iff.mp h
    obtain ⟨-, rfl⟩ := Prod.mk.inj heq
    have := ih hr
    have := length_readEscape he
    simp only [length_cons]
    omega
  | case6 byte tail _ _ _ ih =>
    obtain ⟨⟨text', rest'⟩, hr, heq⟩ := map_eq_some_iff.mp h
    obtain ⟨-, rfl⟩ := Prod.mk.inj heq
    exact (ih hr).trans (Nat.lt_succ_self _)

lemma length_parseString (h : parseString input = some (text, rest)) : rest.length < input.length := by
  rw [parseString] at h
  split at h
  · contradiction
  · rename_i behind hq
    have := length_parseChars h
    have := length_matchChar hq
    omega

lemma length_parseUint64 {value : UInt64} (h : parseUint64 input = some (value, rest)) :
    rest.length ≤ input.length := by
  rw [parseUint64] at h
  split_ifs at h
  obtain ⟨⟨value', rest'⟩, hr, he⟩ := map_eq_some_iff.mp h
  obtain ⟨-, rfl⟩ := Prod.mk.inj he
  exact (length_parseDigits hr).trans (length_skipWhitespace input)

lemma length_parseBool {value : Bool} (h : parseBool input = some (value, rest)) : rest.length ≤ input.length := by
  have hs := length_skipWhitespace input
  rw [parseBool] at h
  split_ifs at h
  all_goals
    obtain ⟨-, rfl⟩ := Prod.mk.inj (some.inj h)
    rw [length_drop]
    omega

/-! ## More input -/

/-- A reader that stops before the end does not see what comes later. -/
def Extends {α : Type} (reader : Bytes → Option (α × Bytes)) : Prop :=
  ∀ input value rest more, reader input = some (value, rest) → rest ≠ [] →
    reader (input ++ more) = some (value, rest ++ more)

lemma skipWhitespace_append (h : skipWhitespace input ≠ []) (more : Bytes) :
    skipWhitespace (input ++ more) = skipWhitespace input ++ more := by
  induction input with
  | nil => exact absurd rfl h
  | cons byte rest ih =>
    simp only [skipWhitespace, cons_append, dropWhile_cons] at h ih ⊢
    split_ifs with hs
    · rw [if_pos hs] at h
      exact ih h
    · rfl

lemma matchChar_append (h : skipWhitespace input ≠ []) (expected : UInt8) (more : Bytes) :
    matchChar expected (input ++ more) = (matchChar expected input).map (· ++ more) := by
  rw [matchChar, matchChar, skipWhitespace_append h]
  cases hs : skipWhitespace input with
  | nil => exact absurd hs h
  | cons byte rest =>
    dsimp only [cons_append]
    split_ifs <;> rfl

variable {expected : UInt8}

lemma skipWhitespace_ne_nil_of_matchChar (h : matchChar expected input = some rest) : skipWhitespace input ≠ [] := by
  intro hn
  rw [matchChar, hn] at h
  contradiction

lemma matchChar_append_of_some (h : matchChar expected input = some rest)
    (more : Bytes) : matchChar expected (input ++ more) = some (rest ++ more) := by
  rw [matchChar_append (skipWhitespace_ne_nil_of_matchChar h), h]
  rfl

lemma readHexQuad_append (h : readHexQuad input = some (value, rest))
    (more : Bytes) : readHexQuad (input ++ more) = some (value, rest ++ more) := by
  rw [readHexQuad.eq_def] at h
  split at h
  · obtain ⟨unit, hu, he⟩ := map_eq_some_iff.mp h
    obtain ⟨rfl, rfl⟩ := Prod.mk.inj he
    simp only [cons_append, readHexQuad, hu, map_some]
  · contradiction

lemma readCodepoint_append (h : readCodepoint input = some (output, rest))
    (more : Bytes) : readCodepoint (input ++ more) = some (output, rest ++ more) := by
  rw [readCodepoint] at h ⊢
  split at h
  · contradiction
  · rename_i codepoint behind hq
    rw [readHexQuad_append hq]
    dsimp only
    split_ifs at h ⊢ with hh hl
    · split at h
      · rename_i behind'
        split at h
        · contradiction
        · rename_i low behind'' hs
          simp only [cons_append, readHexQuad_append hs]
          split_ifs at h ⊢
          obtain ⟨rfl, rfl⟩ := Prod.mk.inj (some.inj h)
          rfl
      · contradiction
    · obtain ⟨rfl, rfl⟩ := Prod.mk.inj (some.inj h)
      rfl

lemma readEscape_append (h : readEscape input = some (output, rest)) (more : Bytes) :
    readEscape (input ++ more) = some (output, rest ++ more) := by
  cases input with
  | nil => contradiction
  | cons letter tail =>
    rw [cons_append, readEscape]
    rw [readEscape] at h
    split_ifs at h ⊢
    · exact readCodepoint_append h more
    · obtain ⟨code, hc, he⟩ := map_eq_some_iff.mp h
      obtain ⟨rfl, rfl⟩ := Prod.mk.inj he
      rw [hc]
      rfl

lemma parseChars_append (h : parseChars input = some (text, rest)) (more : Bytes) :
    parseChars (input ++ more) = some (text, rest ++ more) := by
  fun_induction parseChars input generalizing text with
  | case1 => contradiction
  | case2 tail =>
    obtain ⟨rfl, rfl⟩ := Prod.mk.inj (some.inj h)
    rw [cons_append, parseChars, if_pos rfl]
  | case3 | case4 => contradiction
  | case5 tail output after he hq hc ih =>
    obtain ⟨⟨text', rest'⟩, hr, heq⟩ := map_eq_some_iff.mp h
    obtain ⟨rfl, rfl⟩ := Prod.mk.inj heq
    rw [cons_append, parseChars, if_neg hq, if_neg hc, if_pos rfl]
    split
    · rename_i hn
      rw [readEscape_append he] at hn
      contradiction
    · rename_i hs
      rw [readEscape_append he] at hs
      obtain ⟨rfl, rfl⟩ := Prod.mk.inj (some.inj hs)
      rw [ih hr]
      rfl
  | case6 byte tail hq hc he ih =>
    obtain ⟨⟨text', rest'⟩, hr, heq⟩ := map_eq_some_iff.mp h
    obtain ⟨rfl, rfl⟩ := Prod.mk.inj heq
    rw [cons_append, parseChars, if_neg hq, if_neg hc, if_neg he, ih hr]
    rfl

lemma extends_parseString : Extends parseString := by
  intro input text rest more h _
  rw [parseString] at h ⊢
  split at h
  · contradiction
  · rename_i behind hq
    rw [matchChar_append_of_some hq]
    exact parseChars_append h more

lemma takeWhile_append_of_dropWhile {p : UInt8 → Bool} (h : input.dropWhile p ≠ [])
    (more : Bytes) : (input ++ more).takeWhile p = input.takeWhile p ∧
      (input ++ more).dropWhile p = input.dropWhile p ++ more := by
  induction input with
  | nil => exact absurd rfl h
  | cons byte rest ih =>
    simp only [cons_append, takeWhile_cons, dropWhile_cons] at h ih ⊢
    split_ifs with hp
    · rw [if_pos hp] at h
      exact ⟨congrArg (byte :: ·) (ih h).1, (ih h).2⟩
    · exact ⟨rfl, rfl⟩

lemma extends_parseUint64 : Extends parseUint64 := by
  intro input value rest more h hrest
  rw [parseUint64] at h ⊢
  have hrange : ∀ {condition : Prop} [Decidable condition] {read : Option (UInt64 × Bytes)},
      (if condition then none else read) = some (value, rest) → ¬ condition ∧ read = some (value, rest) := by
    intro condition _ read hread
    split_ifs at hread with hcond
    exact ⟨hcond, hread⟩
  obtain ⟨hzero, h⟩ := hrange h
  obtain ⟨⟨value', rest'⟩, hread, heq⟩ := map_eq_some_iff.mp h
  obtain ⟨rfl, rfl⟩ := Prod.mk.inj heq
  rw [parseDigits] at hread
  split_ifs at hread with hempty
  obtain ⟨value'', hfold, heq⟩ := map_eq_some_iff.mp hread
  obtain ⟨rfl, rfl⟩ := Prod.mk.inj heq
  have hskip : skipWhitespace input ≠ [] := by
    intro hnil
    rw [hnil] at hrest
    exact hrest rfl
  obtain ⟨htake, hdrop⟩ := takeWhile_append_of_dropWhile hrest more
  have hhead : (skipWhitespace input ++ more).head? = (skipWhitespace input).head? := by
    rw [head?_append, or_of_isSome]
    simpa using hskip
  rw [skipWhitespace_append hskip, htake, hhead, if_neg hzero, parseDigits, htake, hdrop, if_neg hempty, hfold]
  rfl

lemma extends_parseBool : Extends parseBool := by
  intro input value rest more h hrest
  have happe : ∀ {word : Bytes}, word ≠ [] → word <+: skipWhitespace input →
      skipWhitespace (input ++ more) = skipWhitespace input ++ more ∧
        (skipWhitespace input ++ more).drop word.length = (skipWhitespace input).drop word.length ++ more := by
    intro word hword hbegi
    have hskip : skipWhitespace input ≠ [] := by
      intro hnil
      rw [hnil, prefix_nil] at hbegi
      exact hword hbegi
    exact ⟨skipWhitespace_append hskip more, drop_append_of_le_length hbegi.length_le⟩
  rw [parseBool] at h ⊢
  split_ifs at h with htrue hfalse
  · obtain ⟨rfl, rfl⟩ := Prod.mk.inj (some.inj h)
    have hbegi := isPrefixOf_iff_prefix.mp htrue
    obtain ⟨hskip, hdrop⟩ := happe (by decide) hbegi
    rw [hskip, if_pos ( isPrefixOf_iff_prefix.mpr (hbegi.trans (prefix_append _ _)))]
    exact congrArg some (Prod.ext rfl hdrop)
  · obtain ⟨rfl, rfl⟩ := Prod.mk.inj (some.inj h)
    have hbegi := isPrefixOf_iff_prefix.mp hfalse
    obtain ⟨hskip, hdrop⟩ := happe (by decide) hbegi
    have hnot : ¬ (literal "true").isPrefixOf (skipWhitespace input ++ more) := by
      rw [ isPrefixOf_iff_prefix]
      obtain ⟨tail, htail⟩ := hbegi
      rw [← htail]
      rintro ⟨tail', htail'⟩
      have hhead : some (0x74 : UInt8) = some 0x66 := congrArg head? htail'
      exact absurd hhead (by decide)
    rw [hskip, if_neg hnot, if_pos ( isPrefixOf_iff_prefix.mpr (hbegi.trans (prefix_append _ _)))]
    exact congrArg some (Prod.ext rfl hdrop)

/-- A reader that goes forward and does not see what comes later. -/
structure Token {α : Type} (reader : Bytes → Option (α × Bytes)) : Prop where
  forward : ∀ {input value rest}, reader input = some (value, rest) → rest.length ≤ input.length
  extends_ : Extends reader

lemma token_parseString : Token parseString := ⟨fun h => (length_parseString h).le, extends_parseString⟩

lemma token_parseUint64 : Token parseUint64 := ⟨length_parseUint64, extends_parseUint64⟩

lemma token_parseBool : Token parseBool := ⟨length_parseBool, extends_parseBool⟩

/-! ## What is printed is read back -/

/-- A character of a string, as `emit_record_string` writes it. -/
def escapeByte (byte : UInt8) : Bytes :=
  if byte = 0x22 then literal "\\\""
  else if byte = 0x5c then literal "\\\\"
  else if byte = 0x08 then literal "\\b"
  else if byte = 0x0c then literal "\\f"
  else if byte = 0x0a then literal "\\n"
  else if byte = 0x0d then literal "\\r"
  else if byte = 0x09 then literal "\\t"
  else if byte < 0x20 then literal "\\u00" ++ [hexByte (byte.toNat / 16), hexByte (byte.toNat % 16)]
  else [byte]

variable {letter : UInt8}

lemma parseChars_escape {after : Bytes} (h : readEscape (letter :: after) = some (output, rest)) :
    parseChars (0x5c :: letter :: after) = (parseChars rest).map fun (text, rest) => (output ++ text, rest) := by
  rw [parseChars, if_neg (by decide), if_neg (by decide), if_pos rfl]
  split
  · rename_i hn
    rw [h] at hn
    contradiction
  · rename_i hs
    rw [h] at hs
    obtain ⟨rfl, rfl⟩ := Prod.mk.inj (some.inj hs)
    rfl

lemma parseChars_escapeCode {code : UInt8} (hl : letter ≠ 0x75) (hc : escapeCode letter = some code)
    (rest : Bytes) :
    parseChars (0x5c :: letter :: rest) = (parseChars rest).map fun (text, rest) => (code :: text, rest) := by
  have hr : readEscape (letter :: rest) = some ([code], rest) := by
    rw [readEscape, if_neg hl, hc]
    rfl
  exact parseChars_escape hr

lemma readEscape_control {byte : UInt8} (h : byte < 0x20) (rest : Bytes) :
    readEscape (0x75 :: 0x30 :: 0x30 :: hexByte (byte.toNat / 16) :: hexByte (byte.toNat % 16) :: rest) =
      some ([byte], rest) := by
  have hl : byte.toNat < 0x20 := h
  have hu : ∀ value < 0x20, hexUnit 0x30 0x30 (hexByte (value / 16)) (hexByte (value % 16)) =
      some (UInt16.ofNat value) := by decide
  have hc : (UInt16.ofNat byte.toNat).toNat = byte.toNat := UInt16.toNat_ofNat_of_lt' (by
    rw [UInt16.size]
    omega)
  have hch : utf8Char byte.toNat = [byte] := by
    rw [utf8Char, if_pos (by omega), UInt8.ofNat_toNat]
  simp only [readEscape, if_true, readCodepoint, readHexQuad, hu byte.toNat hl, map_some, hc]
  rw [if_neg (by omega), if_neg (by omega), hch]

lemma parseChars_escapeByte (byte : UInt8) (rest : Bytes) :
    parseChars (escapeByte byte ++ rest) = (parseChars rest).map fun (text, rest) => (byte :: text, rest) := by
  rw [escapeByte]
  split_ifs with h22 h5c h08 h0c h0a h0d h09 hc
  · rw [h22]
    change parseChars (0x5c :: 0x22 :: rest) = _
    exact parseChars_escapeCode (by decide) rfl rest
  · rw [h5c]
    change parseChars (0x5c :: 0x5c :: rest) = _
    exact parseChars_escapeCode (by decide) rfl rest
  · rw [h08]
    change parseChars (0x5c :: 0x62 :: rest) = _
    exact parseChars_escapeCode (by decide) rfl rest
  · rw [h0c]
    change parseChars (0x5c :: 0x66 :: rest) = _
    exact parseChars_escapeCode (by decide) rfl rest
  · rw [h0a]
    change parseChars (0x5c :: 0x6e :: rest) = _
    exact parseChars_escapeCode (by decide) rfl rest
  · rw [h0d]
    change parseChars (0x5c :: 0x72 :: rest) = _
    exact parseChars_escapeCode (by decide) rfl rest
  · rw [h09]
    change parseChars (0x5c :: 0x74 :: rest) = _
    exact parseChars_escapeCode (by decide) rfl rest
  · exact parseChars_escape (readEscape_control hc rest)
  · rw [singleton_append, parseChars, if_neg h22, if_neg hc, if_neg h5c]

lemma parseChars_flatMap (text rest : Bytes) :
    parseChars (text.flatMap escapeByte ++ 0x22 :: rest) = some (text, rest) := by
  induction text with
  | nil => rw [flatMap_nil, nil_append, parseChars, if_pos rfl]
  | cons byte text ih =>
    rw [flatMap_cons, append_assoc, parseChars_escapeByte, ih]
    rfl

lemma parseString_quoted (text rest : Bytes) :
    parseString (0x20 :: 0x22 :: (text.flatMap escapeByte ++ 0x22 :: rest)) = some (text, rest) :=
  parseChars_flatMap text rest

/-- A text that has none of the characters that are escaped. -/
def Plain (text : Bytes) : Prop := ∀ byte ∈ text, escapeByte byte = [byte]

lemma Plain.flatMap (h : Plain text) : text.flatMap escapeByte = text := by
  induction text with
  | nil => rfl
  | cons byte text ih =>
    rw [flatMap_cons, h byte (mem_cons_self ..), ih fun byte hb => h byte (mem_cons_of_mem _ hb)]
    rfl

lemma length_decimalText_of_head (h : (decimalText value).head? = some 0x30) : (decimalText value).length = 1 := by
  by_cases hz : value = 0
  · rw [hz]
    rfl
  · exfalso
    have hd : Nat.digits 10 value ≠ [] := Nat.digits_ne_nil_iff_ne_zero.mpr hz
    have hl := Nat.getLast_digit_ne_zero 10 hz
    have hlt := Nat.digits_lt_base (by decide : 1 < 10) (getLast_mem hd)
    rw [decimalText, decimal, if_neg hz, head?_map, head?_map, head?_reverse,
      getLast?_eq_getLast_of_ne_nil hd] at h
    have hb : (UInt8.ofNat (48 + (Nat.digits 10 value).getLast hd)).toNat = 48 :=
      congrArg UInt8.toNat (some.inj h)
    rw [UInt8.toNat_ofNat_of_lt' (by rw [UInt8.size]; omega)] at hb
    omega

lemma parseUint64_decimalText (value : UInt64) (hrest : rest.head?.all (fun byte => !isDigit byte)) :
    parseUint64 (0x20 :: (decimalText value.toNat ++ rest)) = some (value, rest) := by
  have hdigi : ∀ byte ∈ decimalText value.toNat, isDigit byte :=
    fun byte h => isDigit_of_mem_decimalText h
  have hskip : skipWhitespace (0x20 :: (decimalText value.toNat ++ rest)) = decimalText value.toNat ++ rest := by
    obtain ⟨byte, digits, hcons⟩ := exists_cons_of_ne_nil (decimalText_ne_nil value.toNat)
    have hspace : isSpace byte = false := by
      have hdigit := hdigi byte (by simp [hcons])
      simp only [isDigit, Bool.and_eq_true, decide_eq_true_eq, UInt8.le_iff_toNat_le] at hdigit
      simp only [isSpace, Bool.or_eq_false_iff, beq_eq_false_iff_ne, ne_eq, ← UInt8.toNat_inj]
      have : (0x30 : UInt8).toNat = 48 := rfl
      refine ⟨⟨⟨?_, ?_⟩, ?_⟩, ?_⟩
      all_goals
        intro heq
        rw [heq] at hdigit
        exact absurd hdigit.1 (by decide)
    rw [hcons, skipWhitespace, dropWhile_cons_of_pos (by decide), cons_append,
      dropWhile_cons_of_neg (by rw [hspace]; decide)]
  have hfront : ¬ (1 < ((decimalText value.toNat ++ rest).takeWhile isDigit).length ∧
      (decimalText value.toNat ++ rest).head? = some 0x30) := by
    have hnone : rest.takeWhile isDigit = [] := by
      cases rest with
      | nil => rfl
      | cons byte rest => exact takeWhile_cons_of_neg (by simpa using hrest)
    rintro ⟨hleng, hhead⟩
    rw [takeWhile_append_of_pos hdigi, hnone, append_nil] at hleng
    rw [head?_append, or_of_isSome (by simpa using decimalText_ne_nil value.toNat)] at hhead
    rw [length_decimalText_of_head hhead] at hleng
    exact absurd hleng (lt_irrefl 1)
  rw [parseUint64, hskip, if_neg hfront, parseDigits_decimalText (Nat.le_sub_one_of_lt value.toNat_lt) hrest,
    map_some]
  dsimp only
  rw [UInt64.ofNat_toNat]

end MiniJsonReader

end Nstu.Update
