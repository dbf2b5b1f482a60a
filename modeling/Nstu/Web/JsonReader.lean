import Nstu.Core.JsonGrammar
import Nstu.Core.Utf8
import Nstu.Web.Host

/-!
# The JSON reader of the exam host

`JsonReader` and `parse_json_object` of `client/src/exam_host.cpp`.  The reader keeps a position in its
input; here every function takes what is left of the input from that position on, and gives it back.

The strict conversion `utf8_to_wide` accepts exactly well-formed UTF-8 (`ofUtf8`).
-/

namespace Nstu.Web

open Wire CType Text JsonText

def kMaximumJsonBytes : ℕ := 128 * 1024
def kMaximumJsonDepth : ℕ := 16
def kMaximumJsonMembers : ℕ := 256
def kMaximumJsonStringBytes : ℕ := 64 * 1024

def consumeWhitespace (input : Bytes) : Bytes := input.dropWhile isSpaceByte

/-! ## Strings -/

/-- What `parse_string` returns at the closing quotation mark. -/
def closeString (output rest : Bytes) : Option (Bytes × Bytes) :=
  if output.length > kMaximumJsonStringBytes then none
  else if output.isEmpty || (ofUtf8 output).isSome then some (output, rest)
  else none

/-- The loop of `parse_string`, behind the opening quotation mark. -/
def parseChars : Bytes → Bytes → Option (Bytes × Bytes)
  | _, [] => none
  | output, byte :: rest =>
    if byte = 0x22 then closeString output rest
    else if byte < 0x20 then none
    else if byte ≠ 0x5c then
      if (output ++ [byte]).length > kMaximumJsonStringBytes then none
      else parseChars (output ++ [byte]) rest
    else match rest with
    | [] => none
    | letter :: rest =>
      if letter = 0x75 then
        match rest with
        | a :: b :: c :: d :: rest =>
          match hexUnit a b c d with
          | none => none
          | some unit =>
            if (output ++ utf8Char unit.toNat).length > kMaximumJsonStringBytes then none
            else parseChars (output ++ utf8Char unit.toNat) rest
        | _ => none
      else match escapeCode letter with
      | none => none
      | some code =>
        if (output ++ [code]).length > kMaximumJsonStringBytes then none
        else parseChars (output ++ [code]) rest

def parseString : Bytes → Option (Bytes × Bytes)
  | [] => none
  | byte :: rest => if byte ≠ 0x22 then none else parseChars [] rest

/-! ## Numbers -/

def parseMinus : Bytes → Bytes × Bytes
  | 0x2d :: rest => ([0x2d], rest)
  | input => ([], input)

def takeDigits (input : Bytes) : Bytes × Bytes := (input.takeWhile isDigit, input.dropWhile isDigit)

def parseInt : Bytes → Option (Bytes × Bytes)
  | [] => none
  | byte :: rest =>
    if byte = 0x30 then some ([byte], rest)
    else if byte < 0x31 || byte > 0x39 then none
    else some (takeDigits (byte :: rest))

/-- One or more digits. -/
def parseDigits (input : Bytes) : Option (Bytes × Bytes) :=
  match input with
  | [] => none
  | byte :: _ => if !isDigit byte then none else some (takeDigits input)

def parseFrac : Bytes → Option (Bytes × Bytes)
  | 0x2e :: rest => (parseDigits rest).map fun (digits, rest) => (0x2e :: digits, rest)
  | input => some ([], input)

def parseSign : Bytes → Bytes × Bytes
  | 0x2b :: rest => ([0x2b], rest)
  | 0x2d :: rest => ([0x2d], rest)
  | input => ([], input)

def parseExp : Bytes → Option (Bytes × Bytes)
  | [] => some ([], [])
  | e :: rest =>
    if e = 0x65 || e = 0x45 then
      let sign := parseSign rest
      (parseDigits sign.2).map fun (digits, rest) => (e :: (sign.1 ++ digits), rest)
    else some ([], e :: rest)

/-- `parse_number`: the characters from where it began to where it stops. -/
def parseNumber (input : Bytes) : Option (Bytes × Bytes) := do
  let (minus, rest) := parseMinus input
  let (int, rest) ← parseInt rest
  let (frac, rest) ← parseFrac rest
  let (exp, rest) ← parseExp rest
  return (minus ++ (int ++ (frac ++ exp)), rest)

/-! ## Values -/

/-- The members of an object, from the first key on.  `object` is what has been read, and the number of
members that may still come goes down. -/
def parseMembers (parseValue : Bytes → Option (JsonValue × Bytes)) :
    ℕ → List (Bytes × JsonValue) → Bytes → Option (List (Bytes × JsonValue) × Bytes)
  | 0, _, _ => none
  | room + 1, object, input => do
    let (key, rest) ← parseString input
    match consumeWhitespace rest with
    | 0x3a :: rest =>
      let (child, rest) ← parseValue rest
      if key ∈ object.map Prod.fst then none
      else match consumeWhitespace rest with
      | 0x7d :: rest => some (object ++ [(key, child)], rest)
      | 0x2c :: rest => parseMembers parseValue room (object ++ [(key, child)]) (consumeWhitespace rest)
      | _ => none
    | _ => none

/-- The elements of an array, from the first one on. -/
def parseItems (parseValue : Bytes → Option (JsonValue × Bytes)) :
    ℕ → List JsonValue → Bytes → Option (List JsonValue × Bytes)
  | 0, _, _ => none
  | room + 1, array, input => do
    let (child, rest) ← parseValue input
    match consumeWhitespace rest with
    | 0x5d :: rest => some (array ++ [child], rest)
    | 0x2c :: rest => parseItems parseValue room (array ++ [child]) (consumeWhitespace rest)
    | _ => none

def parseObject (parseValue : Bytes → Option (JsonValue × Bytes)) (input : Bytes) : Option (JsonValue × Bytes) :=
  match consumeWhitespace input with
  | 0x7d :: rest => some (.object [], rest)
  | input => (parseMembers parseValue kMaximumJsonMembers [] input).map fun (members, rest) =>
    (.object members, rest)

def parseArray (parseValue : Bytes → Option (JsonValue × Bytes)) (input : Bytes) : Option (JsonValue × Bytes) :=
  match consumeWhitespace input with
  | 0x5d :: rest => some (.array [], rest)
  | input => (parseItems parseValue kMaximumJsonMembers [] input).map fun (items, rest) =>
    (.array items, rest)

/-- A word that the input has to begin with. -/
def parseWord (word : Bytes) (value : JsonValue) (input : Bytes) : Option (JsonValue × Bytes) :=
  if input.take word.length = word then some (value, input.drop word.length) else none

/-- `parse_value`, where `depth` goes up to its maximum while the first argument goes down
to zero. -/
def parseValue : ℕ → Bytes → Option (JsonValue × Bytes)
  | 0, _ => none
  | n + 1, input =>
    match consumeWhitespace input with
    | [] => none
    | byte :: rest =>
      if byte = 0x7b then parseObject (parseValue n) rest
      else if byte = 0x5b then parseArray (parseValue n) rest
      else if byte = 0x22 then
        (parseString (byte :: rest)).map fun (scalar, rest) => (.string scalar, rest)
      else if byte = 0x74 then parseWord (literal "true") (.boolean true) (byte :: rest)
      else if byte = 0x66 then parseWord (literal "false") (.boolean false) (byte :: rest)
      else if byte = 0x6e then parseWord (literal "null") .null (byte :: rest)
      else (parseNumber (byte :: rest)).map fun (scalar, rest) => (.number scalar, rest)

/-- `reader.parse`. -/
def parse (input : Bytes) : Option JsonValue :=
  if input.length > kMaximumJsonBytes then none
  else match parseValue (kMaximumJsonDepth + 1) input with
  | none => none
  | some (value, rest) => if consumeWhitespace rest = [] then some value else none

def parseJsonObject (input : Bytes) : Option JsonValue :=
  match parse input with
  | some (.object members) => some (.object members)
  | _ => none

end Nstu.Web
