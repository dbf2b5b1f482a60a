import Nstu.Core.Lines

/-!
# The readers of update files

`JsonReader` of `update_manifest.cpp` and `MiniJsonReader` of `update_staging.cpp`.  Each keeps a position
in its input; here every function takes what is left of the input from that position on, and gives back
what is left behind what it has read.

The two differ in their strings, where the first takes any character behind a backslash, and in zeros at
the front of a number.
-/

namespace Nstu.Update

open Wire CType Text JsonText

/-! ## What the two share -/

def skipWhitespace (input : Bytes) : Bytes := input.dropWhile isSpace

def matchChar (expected : UInt8) (input : Bytes) : Option Bytes :=
  match skipWhitespace input with
  | [] => none
  | byte :: rest => if byte = expected then some rest else none

lemma length_skipWhitespace (input : Bytes) : (skipWhitespace input).length ≤ input.length :=
  (List.dropWhile_suffix _).length_le

variable {input rest : Bytes}

lemma length_matchChar {expected : UInt8} (h : matchChar expected input = some rest) : rest.length < input.length := by
  have hl := length_skipWhitespace input
  rw [matchChar] at h
  split at h
  · contradiction
  · rename_i byte tail hi
    split_ifs at h
    obtain rfl := Option.some.inj h
    rw [hi, List.length_cons] at hl
    omega

/-- One round of a loop over digits, for a value that may not exceed the maximum. -/
def addDigit (maximum value : ℕ) (byte : UInt8) : Option ℕ :=
  let digit := byte.toNat - 0x30
  if value > (maximum - digit) / 10 then none else some (value * 10 + digit)

/-- The digits at the front of the input. -/
def parseDigits (maximum : ℕ) (input : Bytes) : Option (ℕ × Bytes) :=
  if (input.takeWhile isDigit).isEmpty then none
  else ((input.takeWhile isDigit).foldlM (addDigit maximum) 0).map fun value => (value, input.dropWhile isDigit)

variable {maximum value : ℕ}

lemma length_parseDigits (h : parseDigits maximum input = some (value, rest)) : rest.length ≤ input.length := by
  rw [parseDigits] at h
  split_ifs at h
  obtain ⟨_, _, he⟩ := Option.map_eq_some_iff.mp h
  rw [← (Prod.mk.inj he).2]
  exact (List.dropWhile_suffix _).length_le

def parseBool (input : Bytes) : Option (Bool × Bytes) :=
  let input := skipWhitespace input
  if (literal "true").isPrefixOf input then some (true, input.drop 4)
  else if (literal "false").isPrefixOf input then some (false, input.drop 5)
  else none

lemma foldlM_addDigit {maximum : ℕ} {digits : Bytes} (hd : ∀ byte ∈ digits, isDigit byte) (value : ℕ)
    (hv : digits.foldl (fun value digit => value * 10 + (digit.toNat - 48)) value ≤ maximum) :
    digits.foldlM (addDigit maximum) value =
      some (digits.foldl (fun value digit => value * 10 + (digit.toNat - 48)) value) := by
  induction digits generalizing value with
  | nil => rfl
  | cons byte rest ih =>
    have hr : ∀ byte ∈ rest, isDigit byte := fun byte hb => hd byte (List.mem_cons_of_mem _ hb)
    have hl : ∀ (digits : Bytes) (value : ℕ),
        value ≤ digits.foldl (fun value digit => value * 10 + (digit.toNat - 48)) value := by
      intro digits
      induction digits with
      | nil => exact fun value => le_refl value
      | cons digit digits ih =>
        intro value
        exact le_trans (by omega) (ih (value * 10 + (digit.toNat - 48)))
    have hs : value * 10 + (byte.toNat - 48) ≤ maximum := (hl rest _).trans hv
    have ha : addDigit maximum value byte = some (value * 10 + (byte.toNat - 48)) := by
      rw [addDigit]
      exact if_neg (by omega)
    rw [List.foldlM_cons, ha]
    exact ih hr _ hv

lemma parseDigits_decimalText (hv : value ≤ maximum) (hr : rest.head?.all (fun byte => !isDigit byte)) :
    parseDigits maximum (decimalText value ++ rest) = some (value, rest) := by
  have hd : ∀ byte ∈ decimalText value, isDigit byte := fun byte h => isDigit_of_mem_decimalText h
  have hn : rest.takeWhile isDigit = [] ∧ rest.dropWhile isDigit = rest := by
    cases rest with
    | nil => exact ⟨rfl, rfl⟩
    | cons byte rest =>
      have hb : ¬ isDigit byte := by simpa using hr
      exact ⟨List.takeWhile_cons_of_neg hb, List.dropWhile_cons_of_neg hb⟩
  have ht : (decimalText value ++ rest).takeWhile isDigit = decimalText value := by
    rw [List.takeWhile_append_of_pos hd, hn.1, List.append_nil]
  have hdr : (decimalText value ++ rest).dropWhile isDigit = rest := by
    rw [List.dropWhile_append_of_pos hd, hn.2]
  have hf := @foldlM_addDigit maximum _ hd 0 (by rwa [← digitsValue, digitsValue_decimalText])
  rw [← digitsValue, digitsValue_decimalText] at hf
  rw [parseDigits, ht, hdr, hf, if_neg (by simpa using decimalText_ne_nil value)]
  rfl

/-! ## `JsonReader` -/

namespace JsonReader

/-- What a character behind a backslash stands for. -/
def unescape (letter : UInt8) : UInt8 :=
  if letter = 0x62 then 0x08
  else if letter = 0x66 then 0x0c
  else if letter = 0x6e then 0x0a
  else if letter = 0x72 then 0x0d
  else if letter = 0x74 then 0x09
  else letter

/-- The loop of `parse_string`, behind the opening quotation mark. -/
def parseChars : Bytes → Option (Bytes × Bytes)
  | [] => none
  | [byte] => if byte = 0x22 then some ([], []) else none
  | byte :: letter :: rest =>
    if byte = 0x22 then some ([], letter :: rest)
    else if byte = 0x5c then (parseChars rest).map fun (text, rest) => (unescape letter :: text, rest)
    else (parseChars (letter :: rest)).map fun (text, rest) => (byte :: text, rest)

def parseString (input : Bytes) : Option (Bytes × Bytes) :=
  match matchChar 0x22 input with
  | none => none
  | some rest => parseChars rest

variable {input text rest : Bytes}

lemma length_parseChars (h : parseChars input = some (text, rest)) : rest.length < input.length := by
  induction input using parseChars.induct generalizing text with
  | case1 => simp [parseChars] at h
  | case2 =>
    simp only [parseChars, if_true, Option.some.injEq, Prod.mk.injEq] at h
    simp [← h.2]
  | case3 byte hb => simp [parseChars, hb] at h
  | case4 letter tail =>
    simp only [parseChars, if_true, Option.some.injEq, Prod.mk.injEq] at h
    simp [← h.2]
  | case5 letter tail hb ih =>
    simp only [parseChars, hb, if_true, if_false, Option.map_eq_some_iff, Prod.mk.injEq, Prod.exists] at h
    obtain ⟨_, _, hr, _, rfl⟩ := h
    have := ih hr
    simp only [List.length_cons]
    omega
  | case6 byte letter tail hq he ih =>
    simp only [parseChars, hq, he, if_false, Option.map_eq_some_iff, Prod.mk.injEq, Prod.exists] at h
    obtain ⟨_, _, hr, _, rfl⟩ := h
    have := ih hr
    simp only [List.length_cons] at this ⊢
    omega

lemma length_parseString (h : parseString input = some (text, rest)) : rest.length < input.length := by
  rw [parseString] at h
  split at h
  · contradiction
  · rename_i behind hq
    have := length_parseChars h
    have := length_matchChar hq
    omega

def parseUint64 (input : Bytes) : Option (UInt64 × Bytes) :=
  (parseDigits (2 ^ 64 - 1) (skipWhitespace input)).map fun (value, rest) => (UInt64.ofNat value, rest)

def parseUint32 (input : Bytes) : Option (UInt32 × Bytes) :=
  match parseUint64 input with
  | none => none
  | some (value, rest) => if value > 0xFFFFFFFF then none else some (UInt32.ofNat value.toNat, rest)

/-- A value that is an object or a list, from behind its opening bracket on. -/
def skipNested (opening closing : UInt8) : ℕ → Bytes → Option Bytes
  | 0, input => some input
  | _ + 1, [] => none
  | depth + 1, byte :: rest =>
    if byte = 0x22 then
      match h : parseString (byte :: rest) with
      | none => none
      | some (_, after) => skipNested opening closing (depth + 1) after
    else if byte = opening then skipNested opening closing (depth + 2) rest
    else if byte = closing then skipNested opening closing depth rest
    else skipNested opening closing (depth + 1) rest
  termination_by _ input => input.length
  decreasing_by
    all_goals first | exact length_parseString h | simp

lemma length_skipNested {opening closing : UInt8} {depth : ℕ}
    (h : skipNested opening closing depth input = some rest) : rest.length ≤ input.length := by
  fun_induction skipNested opening closing depth input with
  | case1 input => rw [Option.some.inj h]
  | case2 | case3 => contradiction
  | case4 depth tail text after hr ih =>
    have := length_parseString hr
    have := ih h
    omega
  | case5 depth tail _ ih | case6 depth tail _ _ ih | case7 depth byte tail _ _ _ ih =>
    have := ih h
    simp only [List.length_cons]
    omega

def skipValue (input : Bytes) : Option Bytes :=
  match skipWhitespace input with
  | [] => none
  | byte :: rest =>
    if byte = 0x22 then (parseString (byte :: rest)).map Prod.snd
    else if byte = 0x7b then skipNested 0x7b 0x7d 1 rest
    else if byte = 0x5b then skipNested 0x5b 0x5d 1 rest
    else some ((byte :: rest).dropWhile fun byte =>
      byte ≠ 0x2c && byte ≠ 0x7d && byte ≠ 0x5d && !isSpace byte)

lemma length_skipValue (h : skipValue input = some rest) : rest.length ≤ input.length := by
  have hl := length_skipWhitespace input
  rw [skipValue] at h
  split at h
  · contradiction
  · rename_i byte tail hi
    rw [hi] at hl
    have hc : (byte :: tail).length = tail.length + 1 := List.length_cons
    split_ifs at h
    · obtain ⟨⟨text, after⟩, hr, rfl⟩ := Option.map_eq_some_iff.mp h
      exact (length_parseString hr).le.trans hl
    · have := length_skipNested h
      omega
    · have := length_skipNested h
      omega
    · rw [← Option.some.inj h]
      exact ((List.dropWhile_suffix _).length_le).trans hl

end JsonReader

end Nstu.Update
