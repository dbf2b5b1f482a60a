import Nstu.Core.Wire

/-!
# Characters

What `<cctype>` of C says of a byte in the C locale, and the bytes of a text that stands in a source
file.
-/

namespace CType

open Wire

/-- The bytes of a string literal, without the terminating zero. -/
def literal (text : String) : Bytes := text.toList.map fun c => UInt8.ofNat c.toNat

/-- `isdigit`. -/
def isDigit (byte : UInt8) : Bool := 0x30 ≤ byte && byte ≤ 0x39

/-- `isspace`. -/
def isSpaceByte (byte : UInt8) : Bool := byte == 0x20 || (0x09 ≤ byte && byte ≤ 0x0d)

/-- `isupper`. -/
def isUpper (byte : UInt8) : Bool := 0x41 ≤ byte && byte ≤ 0x5a

/-- `isalpha`. -/
def isAlpha (byte : UInt8) : Bool := isUpper byte || (0x61 ≤ byte && byte ≤ 0x7a)

/-- `tolower`. -/
def lower (byte : UInt8) : UInt8 := if isUpper byte then byte + 0x20 else byte

/-- A text with each of its characters in lower case. -/
def toLower (text : Bytes) : Bytes := text.map lower

end CType
