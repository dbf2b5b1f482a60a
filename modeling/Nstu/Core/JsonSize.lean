import Mathlib.Data.Nat.Digits.Lemmas
import Nstu.Core.Text

/-!
# The size of texts

How many bytes the UTF-8 form of a text takes, and how long the texts of `JSON.stringify` get.  A code
unit gives one to three bytes, and at most six code units in a string literal.
-/

namespace Text

open Wire List

/-! ## Bytes -/

lemma length_utf8Char {c : ℕ} (h : c < 0x10000) : 1 ≤ (utf8Char c).length ∧ (utf8Char c).length ≤ 3 := by
  simp only [utf8Char]
  split_ifs
  all_goals simp

lemma length_utf8 (text : Utf16) : text.length ≤ (utf8 text).length ∧ (utf8 text).length ≤ 3 * text.length := by
  have hl : ∀ unit : UInt16, loneScalar unit < 0x10000 := by
    intro unit
    have hu := unit.toNat_lt
    simp only [loneScalar]
    split <;> omega
  simp only [utf8]
  fun_induction scalarValues text with
  | case1 => simp
  | case2 unit =>
    have hu := length_utf8Char (hl unit)
    simpa using hu
  | case3 high low rest hp ih =>
    have hp' := Bool.and_eq_true_iff.mp hp
    have hr := surrogatePair_lt hp'.1 hp'.2
    have hf : (utf8Char (surrogatePair high low)).length = 4 := by
      simp only [utf8Char]
      split_ifs
      all_goals first | omega | rfl
    simp only [flatMap_cons, length_append, hf, length_cons]
    omega
  | case4 high low rest hp ih =>
    have hu := length_utf8Char (hl high)
    simp only [flatMap_cons, length_append, length_cons] at ih ⊢
    omega

/-! ## Decimal numbers -/

lemma length_decimal_le {value digits : ℕ} (hd : 0 < digits) (h : value < 10 ^ digits) :
    (decimal value).length ≤ digits := by
  simp only [decimal]
  split
  · exact hd
  · rw [length_map, length_reverse]
    exact (Nat.digits_length_le_iff (by omega) value).mpr h

/-! ## JSON -/

lemma length_quoteUnit_le (unit : UInt16) : (quoteUnit unit).length ≤ 6 := by
  simp only [quoteUnit]
  split_ifs
  all_goals first | decide | simp [unicodeEscape, ascii]

lemma length_quoteUnits_le (text : Utf16) : (quoteUnits text).length ≤ 6 * text.length := by
  fun_induction quoteUnits text with
  | case1 => simp
  | case2 unit => exact length_quoteUnit_le unit
  | case3 high low rest hp ih =>
    simp only [length_cons]
    omega
  | case4 high low rest hp ih =>
    have hu := length_quoteUnit_le high
    simp only [length_append, length_cons] at ih ⊢
    omega

lemma length_quote_le (text : Utf16) : (quote text).length ≤ 6 * text.length + 2 := by
  have hu := length_quoteUnits_le text
  have hm : (ascii "\"").length = 1 := rfl
  simp only [quote, length_append, hm]
  omega

/-- The length of a member with the comma behind it. -/
def memberLength (entry : Utf16 × Json) : ℕ := (quote entry.1).length + entry.2.stringify.length + 2

lemma length_stringifyMembers_le (members : List (Utf16 × Json)) :
    (stringifyMembers members).length ≤ (members.map memberLength).sum := by
  have hc : (ascii ":").length = 1 := rfl
  have hco : (ascii ",").length = 1 := rfl
  induction members with
  | nil => simp [stringifyMembers]
  | cons entry rest ih =>
    obtain ⟨key, value⟩ := entry
    cases rest with
    | nil =>
      simp only [stringifyMembers, length_append, hc, map_cons, map_nil,
        sum_cons, sum_nil, memberLength]
      omega
    | cons next rest =>
      rw [map_cons, sum_cons]
      simp only [stringifyMembers, length_append, hc, hco, memberLength] at ih ⊢
      omega

lemma length_stringify_object_le (members : List (Utf16 × Json)) :
    (Json.object members).stringify.length ≤ (members.map memberLength).sum + 2 := by
  have hm := length_stringifyMembers_le members
  have ho : (ascii "\x7b").length = 1 := rfl
  have hc : (ascii "\x7d").length = 1 := rfl
  simp only [Json.stringify, length_append, ho, hc]
  omega

end Text
