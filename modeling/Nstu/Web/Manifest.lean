import Nstu.Web.JsonReader

/-!
# The origins of the exam host

`parse_origin_hostname` of `client/src/exam_lockdown_controller.cpp`.
-/

namespace Nstu.Web

open Wire CType Text JsonText

/-- `text.starts_with`. -/
def startsWith (text : Bytes) (start : String) : Bool := (literal start).isPrefixOf text

/-- `text.find(needle) != npos`. -/
def contains (text : Bytes) (needle : String) : Bool := text.tails.any (startsWith · needle)

/-- A list before and behind the last place where the mark stands, if it does. -/
def cutLast {α : Type} [DecidableEq α] (mark : α) : List α → Option (List α × List α)
  | [] => none
  | first :: rest =>
    match cutLast mark rest with
    | some (before, behind) => some (first :: before, behind)
    | none => if first = mark then some ([], rest) else none

/-- Printable ASCII without white space. -/
def isPrintable (byte : UInt8) : Bool := 0x20 < byte && byte < 0x7f

def startsWithCaseInsensitive (text : Bytes) (start : String) : Bool :=
  (text.take (literal start).length).map lower == (literal start).map lower

/-- An origin behind its scheme. -/
def withoutScheme (origin : Bytes) : Option Bytes :=
  if startsWithCaseInsensitive origin "https://" then some (origin.drop 8)
  else if startsWithCaseInsensitive origin "http://" then some (origin.drop 7)
  else if startsWith origin "//" then some (origin.drop 2)
  else if contains origin "://" then none
  else some origin

/-- The path, the query and the fragment begin here. -/
def endsHost (byte : UInt8) : Bool := byte == 0x2f || byte == 0x3f || byte == 0x23

def validPort (port : Bytes) : Bool :=
  if port.isEmpty || port.length > 5 then false
  else match decimalValue (port.map UInt8.toNat) with
  | some value => 1 ≤ value && value ≤ 65535
  | none => false

def withoutPort (host : Bytes) : Option Bytes :=
  match cutLast 0x3a host with
  | some (name, port) => if validPort port then some name else none
  | none => some host

def isLabelCharacter (byte : UInt8) : Bool := isAlpha byte || isDigit byte || byte == 0x2d

def validLabel (label : Bytes) : Bool :=
  !(label.isEmpty || label.length > 63) && label.head? != some 0x2d && label.getLast? != some 0x2d &&
    label.all isLabelCharacter

/-- The checks of a host without its port. -/
def validHostname (host : Bytes) : Bool :=
  !(host.isEmpty || host.length > 253) && !(host.head? == some 0x2e || host.getLast? == some 0x2e) &&
    (host.splitOn 0x2e).all validLabel

def parseOriginHostname (origin : Bytes) : Option Bytes :=
  if origin.isEmpty || origin.length > 253 then none
  else if !origin.all isPrintable then none
  else if origin.contains 0x40 then none
  else do
    let host ← withoutScheme origin
    let hostname ← withoutPort (host.takeWhile (! endsHost ·))
    if validHostname hostname then some hostname else none

end Nstu.Web
