import Nstu.Core.JsonGrammar
import Nstu.Core.JsonScan
import Nstu.Web.JsonStrings

/-!
# The strings that the host writes

`json_escape` of `client/src/exam_host.cpp`, which works byte by byte: it has an escape for a control
character, a quotation mark and a backslash, and leaves every other byte as it is, those of a character
of several bytes among them.

Whatever the bytes are, `parse_string` writes them again (`rawChars_jsonEscape`).  That they are UTF-8 is
needed only for what it does at the closing quotation mark.
-/

namespace Nstu.Web

open Wire CType Text JsonText

/-- What `json_escape` appends for a character. -/
def escapeCharacter (character : UInt8) : Bytes :=
  if character = 0x22 then literal "\\\""
  else if character = 0x5c then literal "\\\\"
  else if character = 0x08 then literal "\\b"
  else if character = 0x0c then literal "\\f"
  else if character = 0x0a then literal "\\n"
  else if character = 0x0d then literal "\\r"
  else if character = 0x09 then literal "\\t"
  else if character < 0x20 then
    literal "\\u00" ++ [hexByte (character.toNat / 16), hexByte (character.toNat % 16)]
  else [character]

def jsonEscape (value : Bytes) : Bytes := value.flatMap escapeCharacter

lemma hexUnit_control {byte : UInt8} (h : byte < 0x20) :
    hexUnit 0x30 0x30 (hexByte (byte.toNat / 16)) (hexByte (byte.toNat % 16)) = some (UInt16.ofNat byte.toNat) := by
  have hu : ∀ value < 0x20, hexUnit 0x30 0x30 (hexByte (value / 16)) (hexByte (value % 16)) =
      some (UInt16.ofNat value) := by decide
  exact hu byte.toNat h

/-- **One character** is written again. -/
lemma rawChars_escapeCharacter (byte : UInt8) {text output : Bytes} (h : RawChars text output) :
    RawChars (escapeCharacter byte ++ text) (byte :: output) := by
  have hlett : ∀ {letter code : UInt8}, escapeCode letter = some code → byte = code →
      RawChars (0x5c :: letter :: text) (byte :: output) := by
    rintro letter code hcode rfl
    exact .escape hcode h
  rw [escapeCharacter]
  split_ifs with hquote hback hbacks hfeed hnewl hretu htab hcont
  · exact hlett (show escapeCode 0x22 = some 0x22 by decide) hquote
  · exact hlett (show escapeCode 0x5c = some 0x5c by decide) hback
  · exact hlett (show escapeCode 0x62 = some 0x08 by decide) hbacks
  · exact hlett (show escapeCode 0x66 = some 0x0c by decide) hfeed
  · exact hlett (show escapeCode 0x6e = some 0x0a by decide) hnewl
  · exact hlett (show escapeCode 0x72 = some 0x0d by decide) hretu
  · exact hlett (show escapeCode 0x74 = some 0x09 by decide) htab
  · have hlt : byte.toNat < 0x20 := hcont
    have hunit : (UInt16.ofNat byte.toNat).toNat = byte.toNat := unit_ofNat (by omega)
    have hwrit : byte :: output = utf8Char (UInt16.ofNat byte.toNat).toNat ++ output := by
      rw [hunit, utf8Char_ascii (by omega), List.singleton_append]
    rw [hwrit]
    exact .unicode (hexUnit_control hcont) h
  · exact .byte ⟨hcont, hquote, hback⟩ h

/-- **Every byte string** is. -/
lemma rawChars_jsonEscape (value : Bytes) : RawChars (jsonEscape value) value := by
  induction value with
  | nil => exact .nil
  | cons byte value ih => exact rawChars_escapeCharacter byte ih

lemma isString_jsonEscape {value : Bytes} {text : Utf16} (h : ofUtf8 value = some text) (grammar : Grammar)
    (hl : value.length ≤ grammar.stringBytes) : IsString grammar (0x22 :: (jsonEscape value ++ [0x22])) text := by
  have he : ∀ unit, hostGrammar.escaped unit → grammar.escaped unit := by
    intro unit hu
    rw [escaped_iff rfl] at hu
    simp [Grammar.escaped, hu]
  refine ⟨?_, jsonEscape value, ((rawChars_jsonEscape value).chars h).mono he, rfl⟩
  rwa [utf8_of_ofUtf8 h]

/-- **Strings come back as they were.**  The host's own reader reads what `json_escape` writes between
quotation marks, and the text is a string of JSON that stands for the same characters. -/
theorem parseString_jsonEscape {value : Bytes} {text : Utf16} (h : ofUtf8 value = some text)
    (hlength : value.length ≤ kMaximumJsonStringBytes) :
    parseString (0x22 :: (jsonEscape value ++ [0x22])) = some (value, []) ∧
      ∀ grammar : Grammar, value.length ≤ grammar.stringBytes →
        IsString grammar (0x22 :: (jsonEscape value ++ [0x22])) text := by
  refine ⟨?_, isString_jsonEscape h⟩
  rw [parseString, if_neg (by simp), parseChars_append (rawChars_jsonEscape value), List.nil_append, closed,
    if_pos ⟨hlength, by rw [h, Option.isSome_some]⟩]

/-- A quotation mark, a backslash, a line feed, the character of code one, and one of two bytes. -/
theorem parseString_jsonEscape_mixed :
    parseString (0x22 :: (jsonEscape [0x22, 0x5c, 0x0a, 0x01, 0xc3, 0xa9] ++ [0x22])) =
      some ([0x22, 0x5c, 0x0a, 0x01, 0xc3, 0xa9], []) := by
  have htext : ofUtf8 [0x22, 0x5c, 0x0a, 0x01, 0xc3, 0xa9] = some [0x22, 0x5c, 0x0a, 0x01, 0xe9] := by decide
  exact (parseString_jsonEscape htext (by decide)).1

end Nstu.Web
