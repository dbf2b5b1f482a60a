import Nstu.Web.Manifest

/-!
# The origins of the exam studio

`validateOrigin` of `exam/studio/studio.js`, the tool in which exams are written.
-/

namespace Nstu.Web.Studio

open Wire Text JsonText

def isLetter (unit : UInt16) : Bool := (0x41 ≤ unit && unit ≤ 0x5a) || (0x61 ≤ unit && unit ≤ 0x7a)

def isDecimalDigit (unit : UInt16) : Bool := 0x30 ≤ unit && unit ≤ 0x39

/-! ## `validateOrigin` -/

/-- The start of a string without regard to the case of letters, as `/^.../i` matches it. -/
def startsWithFolded (text : Utf16) (start : String) : Bool :=
  (text.take (ascii start).length).map (fun unit => if 0x41 ≤ unit && unit ≤ 0x5a then unit + 0x20 else unit) ==
    ascii start

/-- `text.includes`. -/
def includes (text : Utf16) (needle : String) : Bool := text.tails.any ((ascii needle).isPrefixOf ·)

/-- An origin behind its scheme. -/
def schemeRemoved (origin : Utf16) : Option Utf16 :=
  if startsWithFolded origin "https://" then some (origin.drop 8)
  else if startsWithFolded origin "http://" then some (origin.drop 7)
  else if includes origin "://" then none
  else some origin

/-- `/[\/?#]/`. -/
def endsHostUnit (unit : UInt16) : Bool := unit == 0x2f || unit == 0x3f || unit == 0x23

/-- `/^\d{1,5}$/`, and a number of a port. -/
def isPort (port : Utf16) : Bool :=
  1 ≤ port.length && port.length ≤ 5 && port.all isDecimalDigit &&
    match decimalValue (port.map UInt16.toNat) with
    | some value => 1 ≤ value && value ≤ 65535
    | none => false

def portRemoved (host : Utf16) : Option Utf16 :=
  match cutLast 0x3a host with
  | some (name, port) => if isPort port then some name else none
  | none => some host

def isLabel (label : Utf16) : Bool :=
  !label.isEmpty && label.length ≤ 63 &&
    label.all (fun unit => isLetter unit || isDecimalDigit unit || unit == 0x2d) &&
    label.head? != some 0x2d && label.getLast? != some 0x2d

def validateOrigin (origin : Utf16) : Bool :=
  if origin.length < 1 || origin.length > 253 then false
  else if origin.contains 0x40 then false
  else match schemeRemoved origin with
  | none => false
  | some host =>
    match portRemoved (host.takeWhile (! endsHostUnit ·)) with
    | none => false
    | some host => !host.isEmpty && host.length ≤ 253 && (host.splitOn 0x2e).all isLabel

end Nstu.Web.Studio
