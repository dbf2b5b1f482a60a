import Nstu.Core.JsonGrammar
import Mathlib.Data.List.Induction

/-!
# Texts printed line by line

Numbers in decimal digits, and texts whose lines end in a line feed.

A text of lines is read from its front as long as the lines there are free of line feeds
(`flatMap_endLine_append_inj`), and from its back as long as those there are (`append_lines_inj`).  A single
line of arbitrary text between the two is then determined as well (`printedLines_inj`).
-/

namespace Text

open Wire CType JsonText List

def lineFeed : UInt8 := 0x0a

/-! ## Decimal digits -/

def digitsValue (digits : Bytes) : ℕ := digits.foldl (fun value digit => value * 10 + (digit.toNat - 48)) 0

/-- A number the way `std::ostream` and `std::to_chars` print it. -/
def decimalText (value : ℕ) : Bytes := (decimal value).map UInt8.ofNat

variable {byte : UInt8}

lemma isDigit_of_mem_decimalText {value : ℕ} (h : byte ∈ decimalText value) : isDigit byte := by
  obtain ⟨code, hc, rfl⟩ := mem_map.mp h
  have hd := decimal_digit hc
  simp only [isDigit, Bool.and_eq_true, decide_eq_true_eq, UInt8.le_iff_toNat_le]
  rw [UInt8.toNat_ofNat_of_lt' (by simp only [UInt8.size]; omega)]
  simpa using hd

lemma decimalText_ne_nil (value : ℕ) : decimalText value ≠ [] := by
  simp [decimalText, decimal_ne_nil]

lemma not_mem_decimalText (h : isDigit byte = false) (value : ℕ) : byte ∉ decimalText value := by
  intro hm
  rw [isDigit_of_mem_decimalText hm] at h
  contradiction

lemma codes_decimalText (value : ℕ) : (decimalText value).map UInt8.toNat = decimal value := by
  rw [decimalText, map_map]
  conv_rhs => rw [← map_id (decimal value)]
  refine map_congr_left fun code hc => ?_
  have hd := decimal_digit hc
  exact UInt8.toNat_ofNat_of_lt' (by simp only [UInt8.size]; omega)

lemma digitsValue_decimalText (value : ℕ) : digitsValue (decimalText value) = value := by
  have h := decimalValue_decimal value
  rw [decimalValue] at h
  split at h
  · contradiction
  · rw [← codes_decimalText, foldl_map] at h
    exact Option.some.inj h

lemma decimalText_injective : Function.Injective decimalText := by
  intro a b h
  rw [← digitsValue_decimalText a, ← digitsValue_decimalText b, h]

/-! ## Lines -/

/-- Lines, each behind the line feed that ends the one before. -/
def lines (texts : List Bytes) : Bytes := texts.flatMap fun text => lineFeed :: text

variable {texts texts' : List Bytes}

/-- **Lines free of line feeds are determined from the back**, and so is what stands before them. -/
lemma append_lines_inj {body body' : Bytes} (hleng : texts.length = texts'.length)
    (hfree : ∀ text ∈ texts, lineFeed ∉ text) (hfree' : ∀ text ∈ texts', lineFeed ∉ text)
    (h : body ++ lines texts = body' ++ lines texts') : body = body' ∧ texts = texts' := by
  induction texts using reverseRecOn generalizing texts' with
  | nil =>
    rw [length_nil, eq_comm, length_eq_zero_iff] at hleng
    subst hleng
    simpa [lines] using h
  | append_singleton front last ih =>
    have hne : texts' ≠ [] := by
      rintro rfl
      simp at hleng
    obtain ⟨front', last', rfl⟩ : ∃ front' last', texts' = front' ++ [last'] :=
      ⟨_, _, (dropLast_concat_getLast hne).symm⟩
    have hback : (body ++ lines front) ++ lineFeed :: last = (body' ++ lines front') ++ lineFeed :: last' := by
      simpa [lines, append_assoc] using h
    -- the last line ends at the last line feed, so the texts are read backwards
    have hreve := congrArg reverse hback
    simp only [reverse_append, reverse_cons, append_assoc, singleton_append] at hreve
    obtain ⟨hlast, hfront⟩ := @append_separator_inj _ lineFeed _ _ _ _
      (by simpa using hfree last (by simp)) (by simpa using hfree' last' (by simp)) hreve
    obtain ⟨hbody, hfron⟩ := @ih front' (by simpa using hleng)
      (fun text htext => hfree text (by simp [htext])) (fun text htext => hfree' text (by simp [htext]))
      (by simpa using congrArg reverse hfront)
    exact ⟨hbody, by rw [hfron, reverse_inj.mp hlast]⟩

/-- A line with the line feed that ends it. -/
def endLine (text : Bytes) : Bytes := text ++ [lineFeed]

/-- **Lines free of line feeds are determined from the front**, and so is what stands behind them. -/
lemma flatMap_endLine_append_inj {rest rest' : Bytes}
    (hl : texts.length = texts'.length) (hf : ∀ text ∈ texts, lineFeed ∉ text)
    (hf' : ∀ text ∈ texts', lineFeed ∉ text)
    (h : texts.flatMap endLine ++ rest = texts'.flatMap endLine ++ rest') : texts = texts' ∧ rest = rest' := by
  induction texts generalizing texts' with
  | nil =>
    rw [length_nil, eq_comm, length_eq_zero_iff] at hl
    subst hl
    simpa using h
  | cons text texts ih =>
    cases texts' with
    | nil => simp at hl
    | cons text' texts' =>
      simp only [flatMap_cons, endLine, append_assoc, singleton_append] at h
      obtain ⟨rfl, hr⟩ := append_separator_inj (hf text (by simp)) (hf' text' (by simp)) h
      obtain ⟨rfl, rfl⟩ := @ih texts' (by simpa using hl) (fun line hli => hf line (by simp [hli]))
        (fun line hli => hf' line (by simp [hli])) (by simpa [endLine] using hr)
      exact ⟨rfl, rfl⟩

lemma lineFeed_cons_flatMap_endLine (texts : List Bytes) :
    lineFeed :: texts.flatMap endLine = lines texts ++ [lineFeed] := by
  induction texts with
  | nil => rfl
  | cons text texts ih =>
    calc lineFeed :: (text :: texts).flatMap endLine
        = lineFeed :: text ++ lineFeed :: texts.flatMap endLine := by simp [endLine]
      _ = lines (text :: texts) ++ [lineFeed] := by simp [ih, lines]

/-- **A line of arbitrary text between lines free of line feeds.**  All of them are determined. -/
theorem printedLines_inj {leading leading' trailing trailing' : List Bytes} {middle middle' : Bytes}
    (hlead : leading.length = leading'.length) (htrai : trailing.length = trailing'.length)
    (hfree : ∀ text ∈ leading ++ trailing, lineFeed ∉ text) (hfree' : ∀ text ∈ leading' ++ trailing', lineFeed ∉ text)
    (h : leading.flatMap endLine ++ (endLine middle ++ trailing.flatMap endLine) =
      leading'.flatMap endLine ++ (endLine middle' ++ trailing'.flatMap endLine)) :
    leading = leading' ∧ middle = middle' ∧ trailing = trailing' := by
  obtain ⟨hfront, hback⟩ := flatMap_endLine_append_inj hlead
    (fun text htext => hfree text (mem_append_left _ htext))
    (fun text htext => hfree' text (mem_append_left _ htext)) h
  simp only [endLine, append_assoc, singleton_append] at hback
  have hlines : (middle ++ lines trailing) ++ [lineFeed] = (middle' ++ lines trailing') ++ [lineFeed] := by
    simpa only [append_assoc, ← lineFeed_cons_flatMap_endLine] using hback
  obtain ⟨hmidd, htrail⟩ := append_lines_inj htrai
    (fun text htext => hfree text (mem_append_right _ htext))
    (fun text htext => hfree' text (mem_append_right _ htext)) (append_cancel_right hlines)
  exact ⟨hfront, hmidd, htrail⟩

end Text
