import Nstu.Core.CType
import Nstu.Core.Text

/-!
# The grammar of JSON

The texts of RFC 8259 and the values they denote, as relations between bytes and `Json`.  Strings are
code units, as escapes write them; a code unit that is a surrogate and stands alone is in the grammar.

A `Grammar` is the one of the standard with limits, or a variant: with the white space of C, or without
escapes of surrogates.  `IsValue grammar n` are the values below which fewer than `n` others are nested.

What a text has between its strings, and which code units its strings write as escapes, can be read off
the bytes (`lexemes`).  A text of one variant is a text of another exactly when its lexemes allow it
(`IsObjectText.admits`, `IsObjectText.of_admits`).
-/

namespace JsonText

open Wire CType Text List

/-- The byte of a hexadecimal digit. -/
def hexByte (digit : ℕ) : UInt8 := UInt8.ofNat (hexChar digit)

/-- The variants, and the limits of an array, an object and a string. -/
structure Grammar where
  /-- Vertical tabs and form feeds are white space. -/
  wide : Bool
  /-- Escapes may write surrogates. -/
  surrogates : Bool
  members : ℕ
  stringBytes : ℕ

/-- The white space of RFC 8259. -/
def isSpace (byte : UInt8) : Bool := byte == 0x20 || byte == 0x09 || byte == 0x0a || byte == 0x0d

/-- The white space that `isspace` of C has beyond that. -/
def isWideSpace (byte : UInt8) : Bool := byte == 0x0b || byte == 0x0c

namespace Grammar

/-- RFC 8259, with limits. -/
def rfc (members stringBytes : ℕ) : Grammar where
  wide := false
  surrogates := true
  members
  stringBytes

def space (grammar : Grammar) (byte : UInt8) : Bool := isSpace byte || (grammar.wide && isWideSpace byte)

def escaped (grammar : Grammar) (unit : UInt16) : Bool := grammar.surrogates || !isSurrogate unit

end Grammar

/-! ## Numbers -/

def IsDigits (text : Bytes) : Prop := text ≠ [] ∧ ∀ byte ∈ text, isDigit byte = true

/-- `int = zero / ( digit1-9 *DIGIT )`. -/
def IsInt (text : Bytes) : Prop :=
  text = [0x30] ∨ ∃ first rest, text = first :: rest ∧ 0x31 ≤ first ∧ first ≤ 0x39 ∧
    ∀ byte ∈ rest, isDigit byte = true

/-- `[ frac ]`, with `frac = decimal-point 1*DIGIT`. -/
def IsFrac (text : Bytes) : Prop := text = [] ∨ ∃ digits, IsDigits digits ∧ text = 0x2e :: digits

/-- `[ exp ]`, with `exp = e [ minus / plus ] 1*DIGIT`. -/
def IsExp (text : Bytes) : Prop :=
  text = [] ∨ ∃ e sign digits, (e = 0x65 ∨ e = 0x45) ∧ (sign = [] ∨ sign = [0x2b] ∨ sign = [0x2d]) ∧
    IsDigits digits ∧ text = e :: (sign ++ digits)

/-- `number = [ minus ] int [ frac ] [ exp ]`. -/
def IsNumber (text : Bytes) : Prop :=
  ∃ minus int frac exp, (minus = [] ∨ minus = [0x2d]) ∧ IsInt int ∧ IsFrac frac ∧ IsExp exp ∧
    text = minus ++ (int ++ (frac ++ exp))

/-! ## Strings -/

/-- The character of an escape of two characters. -/
def escapeCode (letter : UInt8) : Option UInt8 :=
  if letter == 0x22 || letter == 0x5c || letter == 0x2f then some letter
  else if letter == 0x62 then some 0x08
  else if letter == 0x66 then some 0x0c
  else if letter == 0x6e then some 0x0a
  else if letter == 0x72 then some 0x0d
  else if letter == 0x74 then some 0x09
  else none

/-- The code unit of four hexadecimal digits. -/
def hexUnit (a b c d : UInt8) : Option UInt16 := do
  let a ← hexDigit a.toNat
  let b ← hexDigit b.toNat
  let c ← hexDigit c.toNat
  let d ← hexDigit d.toNat
  return UInt16.ofNat (((a * 16 + b) * 16 + c) * 16 + d)

/-- `unescaped = %x20-21 / %x23-5B / %x5D-10FFFF`. -/
def IsUnescaped (c : ℕ) : Prop := isScalar c = true ∧ 0x20 ≤ c ∧ c ≠ 0x22 ∧ c ≠ 0x5c

/-- `*char`, and the code units that it stands for. -/
inductive Chars (grammar : Grammar) : Bytes → Utf16 → Prop where
  | nil : Chars grammar [] []
  | char {c : ℕ} {text : Bytes} {units : Utf16} (hchar : IsUnescaped c) (hrest : Chars grammar text units) :
      Chars grammar (utf8Char c ++ text) (scalarUnits c ++ units)
  | escape {letter code : UInt8} {text : Bytes} {units : Utf16} (hcode : escapeCode letter = some code)
      (hrest : Chars grammar text units) :
      Chars grammar (0x5c :: letter :: text) (UInt16.ofNat code.toNat :: units)
  | unicode {a b c d : UInt8} {unit : UInt16} {text : Bytes} {units : Utf16}
      (hunit : hexUnit a b c d = some unit) (hescaped : grammar.escaped unit = true)
      (hrest : Chars grammar text units) :
      Chars grammar (0x5c :: 0x75 :: a :: b :: c :: d :: text) (unit :: units)

/-- `string = quotation-mark *char quotation-mark`. -/
def IsString (grammar : Grammar) (text : Bytes) (units : Utf16) : Prop :=
  (utf8 units).length ≤ grammar.stringBytes ∧ ∃ chars, Chars grammar chars units ∧ text = 0x22 :: (chars ++ [0x22])

/-! ## Values -/

/-- White space around an element. -/
def Spaced {α : Type} (space : UInt8 → Bool) (element : Bytes → α → Prop) (text : Bytes) (value : α) : Prop :=
  ∃ before body after, (∀ byte ∈ before, space byte = true) ∧ (∀ byte ∈ after, space byte = true) ∧
    element body value ∧ text = before ++ (body ++ after)

variable {α : Type} {space : UInt8 → Bool} {text : Bytes}

lemma spaced_self {element : Bytes → α → Prop} {value : α} (h : element text value) : Spaced space element text value :=
  ⟨[], text, [], by simp, by simp, h, by simp⟩

/-- One or more elements with commas between them. -/
inductive Separated {α : Type} (element : Bytes → α → Prop) : Bytes → List α → Prop where
  | single {text : Bytes} {value : α} (helement : element text value) : Separated element text [value]
  | cons {text rest : Bytes} {value : α} {values : List α} (helement : element text value)
      (hrest : Separated element rest values) : Separated element (text ++ 0x2c :: rest) (value :: values)

/-- What stands between two brackets. -/
def Listed {α : Type} (space : UInt8 → Bool) (element : Bytes → α → Prop) (text : Bytes) (values : List α) : Prop :=
  (values = [] ∧ ∀ byte ∈ text, space byte = true) ∨ Separated element text values

lemma separated_forall {element : Bytes → α → Prop} {P : α → Prop} {values : List α} (h : Separated element text values)
    (he : ∀ {text value}, element text value → P value) : ∀ value ∈ values, P value := by
  induction h with
  | single hv =>
    simp only [mem_singleton, forall_eq]
    exact he hv
  | cons hv _ ih =>
    rw [forall_mem_cons]
    exact ⟨he hv, ih⟩

lemma listed_forall {element : Bytes → α → Prop} {P : α → Prop} {values : List α} (h : Listed space element text values)
    (he : ∀ {text value}, element text value → P value) : ∀ value ∈ values, P value := by
  rcases h with ⟨rfl, -⟩ | h
  · simp
  · exact separated_forall h he

/-- `member = string name-separator value`, with the white space of the separator. -/
def IsMember (grammar : Grammar) (value : Bytes → Json → Prop) (text : Bytes) (entry : Utf16 × Json) : Prop :=
  ∃ key rest, Spaced grammar.space (IsString grammar) key entry.1 ∧ Spaced grammar.space value rest entry.2 ∧
    text = key ++ 0x3a :: rest

/-- `value`, of a nesting below `n`. -/
def IsValue (grammar : Grammar) : ℕ → Bytes → Json → Prop
  | 0, _, _ => False
  | _ + 1, text, .null => text = literal "null"
  | _ + 1, text, .boolean value => text = literal (if value then "true" else "false")
  | _ + 1, text, .number written => IsNumber text ∧ written = text.map fun byte => UInt16.ofNat byte.toNat
  | _ + 1, text, .string units => IsString grammar text units
  | n + 1, text, .array items =>
    items.length ≤ grammar.members ∧ ∃ body, text = 0x5b :: (body ++ [0x5d]) ∧
      Listed grammar.space (Spaced grammar.space (IsValue grammar n)) body items
  | n + 1, text, .object members =>
    members.length ≤ grammar.members ∧ (members.map Prod.fst).Nodup ∧ ∃ body, text = 0x7b :: (body ++ [0x7d]) ∧
        Listed grammar.space (IsMember grammar (IsValue grammar n)) body members

/-- `JSON-text = ws value ws`, whose value is an object. -/
def IsObjectText (grammar : Grammar) (n : ℕ) (text : Bytes) (value : Json) : Prop :=
  (∃ members, value = .object members) ∧ Spaced grammar.space (IsValue grammar n) text value

/-! ## Lexemes -/

/-- The code unit that four hexadecimal digits at the start of a text write. -/
def escapedUnit : Bytes → List (UInt8 ⊕ UInt16)
  | a :: b :: c :: d :: _ => ((hexUnit a b c d).map Sum.inr).toList
  | _ => []

/-- What a text has outside its strings, byte by byte, and the code units that its strings write as
escapes; the flag says whether the text begins inside a string. -/
def lexemes : Bool → Bytes → List (UInt8 ⊕ UInt16)
  | _, [] => []
  | false, byte :: rest => if byte = 0x22 then lexemes true rest else .inl byte :: lexemes false rest
  | true, byte :: rest =>
    if byte = 0x22 then lexemes false rest
    else if byte = 0x5c then
      match rest with
      | [] => []
      | letter :: rest => (if letter = 0x75 then escapedUnit rest else []) ++ lexemes true rest
    else lexemes true rest

/-- The grammar allows what is read off a text. -/
def Admits (grammar : Grammar) : UInt8 ⊕ UInt16 → Prop
  | .inl byte => isWideSpace byte = true → grammar.wide = true
  | .inr unit => grammar.escaped unit = true

/-- The same grammar, in another variant. -/
def Variant (grammar other : Grammar) : Prop :=
  other.members = grammar.members ∧ other.stringBytes = grammar.stringBytes

/-- A text of a grammar that begins outside a string and ends outside one: its lexemes are allowed, and
it is a text of every variant that allows them. -/
def Lexes (grammar : Grammar) (text : Bytes) (derives : Grammar → Prop) : Prop :=
  ∃ found, (∀ rest, lexemes false (text ++ rest) = found ++ lexemes false rest) ∧
    (∀ lexeme ∈ found, Admits grammar lexeme) ∧
    ∀ other, Variant grammar other → (∀ lexeme ∈ found, Admits other lexeme) → derives other

lemma lexemes_outside (h : ∀ byte ∈ text, byte ≠ 0x22) (rest : Bytes) :
    lexemes false (text ++ rest) = text.map Sum.inl ++ lexemes false rest := by
  induction text with
  | nil => rfl
  | cons byte text ih =>
    rw [forall_mem_cons] at h
    rw [cons_append, lexemes, if_neg h.1, ih h.2, map_cons, cons_append]

lemma lexemes_true_cons {byte : UInt8} (hq : byte ≠ 0x22) (he : byte ≠ 0x5c) (rest : Bytes) :
    lexemes true (byte :: rest) = lexemes true rest := by
  cases rest <;> simp [lexemes, hq, he]

lemma lexemes_true_quote (rest : Bytes) : lexemes true (0x22 :: rest) = lexemes false rest := by
  cases rest <;> simp [lexemes]

lemma lexemes_true_escape (letter : UInt8) (rest : Bytes) : lexemes true (0x5c :: letter :: rest) =
      (if letter = 0x75 then escapedUnit rest else []) ++ lexemes true rest := by
  simp [lexemes]

lemma lexemes_inside (h : ∀ byte ∈ text, byte ≠ 0x22 ∧ byte ≠ 0x5c) (rest : Bytes) :
    lexemes true (text ++ rest) = lexemes true rest := by
  induction text with
  | nil => rfl
  | cons byte text ih =>
    rw [forall_mem_cons] at h
    rw [cons_append, lexemes_true_cons h.1.1 h.1.2, ih h.2]

/-- No quotation mark, and white space in every grammar or in none. -/
def IsPlain (byte : UInt8) : Prop := byte ≠ 0x22 ∧ isWideSpace byte = false

instance (byte : UInt8) : Decidable (IsPlain byte) := inferInstanceAs (Decidable (_ ∧ _))

section Lexing

variable {grammar : Grammar}

variable {text : Bytes} {derives : Grammar → Prop}

lemma lexes_plain (ht : ∀ byte ∈ text, IsPlain byte) (h : ∀ other, derives other) : Lexes grammar text derives := by
  refine ⟨text.map Sum.inl, fun rest => lexemes_outside (fun byte hb => (ht byte hb).1) rest, ?_,
    fun other _ _ => h other⟩
  intro lexeme hl
  obtain ⟨byte, hb, rfl⟩ := mem_map.mp hl
  intro hw
  rw [(ht byte hb).2] at hw
  cases hw

lemma lexes_mark (mark : UInt8) (h : IsPlain mark) : Lexes grammar [mark] fun _ => True :=
  lexes_plain (by simpa using h) fun _ => trivial

variable {byte : UInt8}

lemma space_ne_quote (h : grammar.space byte) : byte ≠ 0x22 := by
  rintro rfl
  simp [Grammar.space, isSpace, isWideSpace] at h

lemma not_isSpace_of_isWideSpace (h : isWideSpace byte) : ¬ isSpace byte := by
  rw [isWideSpace, Bool.or_eq_true, beq_iff_eq, beq_iff_eq] at h
  rcases h with rfl | rfl
  · decide
  · decide

lemma lexes_space (h : ∀ byte ∈ text, grammar.space byte) :
    Lexes grammar text fun other => ∀ byte ∈ text, other.space byte := by
  refine ⟨text.map Sum.inl, fun rest => lexemes_outside (fun byte hb => space_ne_quote (h byte hb)) rest,
    ?_, ?_⟩
  · intro lexeme hl
    obtain ⟨byte, hb, rfl⟩ := mem_map.mp hl
    intro hw
    have hs := h byte hb
    rw [Grammar.space, Bool.or_eq_true, Bool.and_eq_true] at hs
    rcases hs with hs | hs
    · exact absurd hs (not_isSpace_of_isWideSpace hw)
    · exact hs.1
  · intro other _ ha byte hb
    have hs := h byte hb
    have ha := ha (.inl byte) (mem_map_of_mem hb)
    simp only [Grammar.space, Bool.or_eq_true, Bool.and_eq_true] at hs ⊢
    rcases hs with hs | ⟨-, hs⟩
    · exact .inl hs
    · exact .inr ⟨ha hs, hs⟩

variable {derives' : Grammar → Prop}

lemma Lexes.append {first second : Bytes} {derives'' : Grammar → Prop}
    (h : Lexes grammar first derives) (h' : Lexes grammar second derives')
    (hboth : ∀ other, Variant grammar other → derives other → derives' other → derives'' other) :
    Lexes grammar (first ++ second) derives'' := by
  obtain ⟨found, hfound, hadmi, hderi⟩ := h
  obtain ⟨found', hfound', hadmi', hderi'⟩ := h'
  refine ⟨found ++ found', ?_, ?_, ?_⟩
  · intro rest
    rw [append_assoc, hfound, hfound', append_assoc]
  · intro lexeme hlexe
    rcases mem_append.mp hlexe with hlexe | hlexe
    · exact hadmi lexeme hlexe
    · exact hadmi' lexeme hlexe
  · intro other hvari hother
    rw [forall_mem_append] at hother
    exact hboth other hvari (hderi other hvari hother.1) (hderi' other hvari hother.2)

/-! ### Strings -/

lemma utf8Char_inside {c : ℕ} (h : IsUnescaped c) :
    ∀ byte ∈ utf8Char c, 0x20 ≤ byte.toNat ∧ byte ≠ 0x22 ∧ byte ≠ 0x5c := by
  obtain ⟨hs, hc, hq, he⟩ := h
  simp only [isScalar, Bool.or_eq_true, Bool.and_eq_true, decide_eq_true_eq] at hs
  have hb : ∀ n, 0x20 ≤ n → n < 0x100 → n ≠ 0x22 → n ≠ 0x5c →
      0x20 ≤ (UInt8.ofNat n).toNat ∧ UInt8.ofNat n ≠ 0x22 ∧ UInt8.ofNat n ≠ 0x5c := by
    intro n hc hl hq he
    rw [ne_eq, ne_eq, ← UInt8.toNat_inj, ← UInt8.toNat_inj,
      UInt8.toNat_ofNat_of_lt' (by simpa [UInt8.size] using hl)]
    exact ⟨hc, hq, he⟩
  intro byte hm
  rw [utf8Char] at hm
  split_ifs at hm
  · rw [mem_singleton] at hm
    rw [hm]
    exact hb _ hc (by omega) hq he
  all_goals
    simp only [mem_cons, not_mem_nil, or_false] at hm
    rcases hm with rfl | rfl | rfl | rfl <;> exact hb _ (by omega) (by omega) (by omega) (by omega)

lemma hexDigit_ne_quote (h : (hexDigit byte.toNat).isSome) : byte ≠ 0x22 ∧ byte ≠ 0x5c := by
  constructor
  · rintro rfl
    exact absurd h (by decide)
  · rintro rfl
    exact absurd h (by decide)

lemma hexDigits_of_hexUnit {a b c d : UInt8} {unit : UInt16} (h : hexUnit a b c d = some unit) :
    ∀ byte ∈ [a, b, c, d], (hexDigit byte.toNat).isSome := by
  simp only [hexUnit, Option.bind_eq_bind, Option.bind_eq_some_iff] at h
  obtain ⟨x, hx, y, hy, z, hz, w, hw, -⟩ := h
  simp [hx, hy, hz, hw]

variable {units : Utf16}

lemma Chars.lexes (h : Chars grammar text units) :
    ∃ found, (∀ rest, lexemes true (text ++ 0x22 :: rest) = found ++ lexemes false rest) ∧
      (∀ lexeme ∈ found, Admits grammar lexeme) ∧
      ∀ other, (∀ lexeme ∈ found, Admits other lexeme) → Chars other text units := by
  induction h with
  | nil => exact ⟨[], fun rest => by rw [nil_append, lexemes_true_quote, nil_append], by simp,
      fun _ _ => .nil⟩
  | char hchar _ ih =>
    obtain ⟨found, hfound, hadmi, hderi⟩ := ih
    refine ⟨found, ?_, hadmi, fun other hother => .char hchar (hderi other hother)⟩
    intro rest
    rw [append_assoc, lexemes_inside (fun byte hbyte => (utf8Char_inside hchar byte hbyte).2), hfound]
  | @escape letter code text units hcode _ ih =>
    obtain ⟨found, hfound, hadmi, hderi⟩ := ih
    refine ⟨found, ?_, hadmi, fun other hother => .escape hcode (hderi other hother)⟩
    intro rest
    have hlett : letter ≠ 0x75 := by
      rintro rfl
      cases hcode
    rw [cons_append, cons_append, lexemes_true_escape, if_neg hlett, nil_append, hfound]
  | @unicode a b c d unit text units hunit hesca _ ih =>
    obtain ⟨found, hfound, hadmi, hderi⟩ := ih
    refine ⟨.inr unit :: found, ?_, ?_, ?_⟩
    · intro rest
      have hdigi : ∀ byte ∈ [a, b, c, d], byte ≠ 0x22 ∧ byte ≠ 0x5c :=
        fun byte hbyte => hexDigit_ne_quote (hexDigits_of_hexUnit hunit byte hbyte)
      have hinsi := lexemes_inside hdigi (text ++ 0x22 :: rest)
      simp only [cons_append, nil_append] at hinsi ⊢
      rw [lexemes_true_escape, if_pos rfl, hinsi, hfound, escapedUnit, hunit]
      rfl
    · rw [forall_mem_cons]
      exact ⟨hesca, hadmi⟩
    · intro other hother
      rw [forall_mem_cons] at hother
      exact .unicode hunit hother.1 (hderi other hother.2)

lemma IsString.lexes (h : IsString grammar text units) : Lexes grammar text fun other => IsString other text units := by
  obtain ⟨hl, chars, hc, rfl⟩ := h
  obtain ⟨found, hf, ha, hd⟩ := hc.lexes
  refine ⟨found, ?_, ha, ?_⟩
  · intro rest
    rw [cons_append, append_assoc, singleton_append, lexemes, if_pos rfl, hf]
  · intro other hv ho
    exact ⟨hv.2 ▸ hl, chars, hd other ho, rfl⟩

/-! ### Values -/

variable {α : Type}

lemma Spaced.lexes {element : Grammar → Bytes → α → Prop} {value : α}
    (he : ∀ body, element grammar body value → Lexes grammar body fun other => element other body value)
    (h : Spaced grammar.space (element grammar) text value) :
    Lexes grammar text fun other => Spaced other.space (element other) text value := by
  obtain ⟨before, body, after, hb, ha, hbo, rfl⟩ := h
  refine (lexes_space hb).append
    ((he body hbo).append (lexes_space ha) fun other _ hbo ha => And.intro hbo ha) ?_
  rintro other - hb ⟨hbo, ha⟩
  exact ⟨before, body, after, hb, ha, hbo, rfl⟩

lemma Separated.lexes {element : Grammar → Bytes → α → Prop} {values : List α}
    (he : ∀ body value, element grammar body value → Lexes grammar body fun other => element other body value)
    (h : Separated (element grammar) text values) :
    Lexes grammar text fun other => Separated (element other) text values := by
  induction h with
  | single hv =>
    obtain ⟨found, hf, ha, hd⟩ := he _ _ hv
    exact ⟨found, hf, ha, fun other hva ho => .single (hd other hva ho)⟩
  | cons hv _ ih =>
    refine (he _ _ hv).append ((lexes_mark 0x2c (by decide)).append ih fun other _ _ hr => hr) ?_
    intro other _ hv hr
    exact .cons hv hr

lemma Listed.lexes {element : Grammar → Bytes → α → Prop} {values : List α}
    (he : ∀ body value, element grammar body value → Lexes grammar body fun other => element other body value)
    (h : Listed grammar.space (element grammar) text values) :
    Lexes grammar text fun other => Listed other.space (element other) text values := by
  rcases h with ⟨hn, hs⟩ | h
  · obtain ⟨found, hf, ha, hd⟩ := lexes_space hs
    exact ⟨found, hf, ha, fun other hv ho => .inl ⟨hn, hd other hv ho⟩⟩
  · obtain ⟨found, hf, ha, hd⟩ := h.lexes he
    exact ⟨found, hf, ha, fun other hv ho => .inr (hd other hv ho)⟩

lemma IsMember.lexes {value : Grammar → Bytes → Json → Prop} {entry : Utf16 × Json}
    (hv : ∀ body json, value grammar body json → Lexes grammar body fun other => value other body json)
    (h : IsMember grammar (value grammar) text entry) :
    Lexes grammar text fun other => IsMember other (value other) text entry := by
  obtain ⟨key, rest, hk, hr, rfl⟩ := h
  refine (Spaced.lexes (fun _ h => h.lexes) hk).append
    ((lexes_mark 0x3a (by decide)).append (Spaced.lexes (fun body => hv body _) hr)
      fun other _ _ hr => hr) ?_
  intro other _ hk hr
  exact ⟨key, rest, hk, hr, rfl⟩

lemma isPlain_of_isDigit (h : isDigit byte) : IsPlain byte := by
  constructor
  · rintro rfl
    exact absurd h (by decide)
  · rw [isWideSpace, Bool.or_eq_false_iff, beq_eq_false_iff_ne, beq_eq_false_iff_ne]
    constructor
    · rintro rfl
      exact absurd h (by decide)
    · rintro rfl
      exact absurd h (by decide)

lemma isDigit_of_le (h : 0x31 ≤ byte) (h' : byte ≤ 0x39) : isDigit byte := by
  rw [isDigit, Bool.and_eq_true, decide_eq_true_eq, decide_eq_true_eq]
  exact ⟨UInt8.le_trans (by decide) h, h'⟩

lemma IsNumber.forall_mem {P : UInt8 → Prop} (h : IsNumber text)
    (hdigit : ∀ byte, isDigit byte → P byte) (hmark : ∀ byte ∈ literal "-+.eE", P byte) :
    ∀ byte ∈ text, P byte := by
  obtain ⟨minus, int, frac, exp, hminus, hint, hfrac, hexp, rfl⟩ := h
  rw [forall_mem_append, forall_mem_append, forall_mem_append]
  refine ⟨?_, ?_, ?_, ?_⟩
  · rcases hminus with rfl | rfl
    · simp
    · simpa using hmark 0x2d (by decide)
  · rcases hint with rfl | ⟨first, rest, rfl, hfirst, hfirst', hrest⟩
    · simpa using hdigit 0x30 (by decide)
    · rw [forall_mem_cons]
      exact ⟨hdigit first (isDigit_of_le hfirst hfirst'), fun byte hbyte => hdigit byte (hrest byte hbyte)⟩
  · rcases hfrac with rfl | ⟨digits, hdigi, rfl⟩
    · simp
    · rw [forall_mem_cons]
      exact ⟨hmark 0x2e (by decide), fun byte hbyte => hdigit byte (hdigi.2 byte hbyte)⟩
  · rcases hexp with rfl | ⟨e, sign, digits, he, hsign, hdigi, rfl⟩
    · simp
    · rw [forall_mem_cons, forall_mem_append]
      refine ⟨?_, ?_, fun byte hbyte => hdigit byte (hdigi.2 byte hbyte)⟩
      · rcases he with rfl | rfl
        · exact hmark 0x65 (by decide)
        · exact hmark 0x45 (by decide)
      · rcases hsign with rfl | rfl | rfl
        · simp
        · simpa using hmark 0x2b (by decide)
        · simpa using hmark 0x2d (by decide)

lemma IsNumber.isPlain (h : IsNumber text) : ∀ byte ∈ text, IsPlain byte :=
  h.forall_mem (fun _ => isPlain_of_isDigit) (forall_mem_of_all (by decide +kernel))

lemma IsNumber.ascii (h : IsNumber text) : ∀ byte ∈ text, byte.toNat < 0x80 := by
  refine h.forall_mem ?_ (forall_mem_of_all (by decide +kernel))
  intro byte hd
  simp only [isDigit, Bool.and_eq_true, decide_eq_true_eq, UInt8.le_iff_toNat_le, UInt8.reduceToNat] at hd
  omega

lemma number_units (h : IsNumber text) : ∀ unit ∈ text.map fun byte => UInt16.ofNat byte.toNat, unit.toNat < 0x80 := by
  intro unit hu
  obtain ⟨byte, hb, rfl⟩ := mem_map.mp hu
  have ha := h.ascii byte hb
  rwa [UInt16.toNat_ofNat_of_lt' (by simp only [UInt16.size]; omega)]

lemma utf8_number (h : IsNumber text) : utf8 (text.map fun byte => UInt16.ofNat byte.toNat) = text := by
  rw [utf8_ascii (number_units h), map_map]
  refine (map_congr_left ?_).trans (map_id text)
  intro byte hb
  have ha := h.ascii byte hb
  rw [Function.comp_apply, UInt16.toNat_ofNat_of_lt' (by simp only [UInt16.size]; omega), UInt8.ofNat_toNat, id]

lemma Lexes.bracket {body : Bytes} {first last : UInt8}
    (hf : IsPlain first) (hl : IsPlain last) (h : Lexes grammar body derives)
    (hd : ∀ other, Variant grammar other → derives other → derives' other) :
    Lexes grammar (first :: (body ++ [last])) derives' := by
  refine (lexes_mark first hf).append (h.append (lexes_mark last hl) fun _ _ hb _ => hb) ?_
  intro other hv _ hb
  exact hd other hv hb

variable {n : ℕ} {value : Json}

/-- **The variants of a value** are told apart by its lexemes. -/
lemma IsValue.lexes (h : IsValue grammar n text value) :
    Lexes grammar text fun other => IsValue other n text value := by
  induction n generalizing text value with
  | zero => cases value <;> exact absurd h (by simp [IsValue])
  | succ n ih =>
    cases value with
    | null =>
      obtain rfl : text = literal "null" := h
      exact lexes_plain (forall_mem_of_all (by decide +kernel)) fun other => rfl
    | boolean value =>
      obtain rfl : text = literal (if value then "true" else "false") := h
      refine lexes_plain (forall_mem_of_all ?_) fun other => rfl
      cases value <;> decide +kernel
    | number written =>
      obtain ⟨hn, hw⟩ : IsNumber text ∧ _ := h
      exact lexes_plain hn.isPlain fun other => ⟨hn, hw⟩
    | string units => exact IsString.lexes h
    | array items =>
      obtain ⟨hl, body, rfl, hb⟩ := h
      refine Lexes.bracket (by decide) (by decide)
        (hb.lexes fun body value h => Spaced.lexes (fun _ h => ih h) h) ?_
      intro other hv hb
      exact ⟨hv.1 ▸ hl, body, rfl, hb⟩
    | object members =>
      obtain ⟨hl, hk, body, rfl, hb⟩ := h
      refine Lexes.bracket (by decide) (by decide)
        (hb.lexes fun body value h => IsMember.lexes (fun _ _ h => ih h) h) ?_
      intro other hv hb
      exact ⟨hv.1 ▸ hl, hk, body, rfl, hb⟩

lemma IsObjectText.lexes (h : IsObjectText grammar n text value) :
    Lexes grammar text fun other => IsObjectText other n text value := by
  obtain ⟨found, hf, ha, hd⟩ := Spaced.lexes (fun _ h => IsValue.lexes h) h.2
  exact ⟨found, hf, ha, fun other hv ho => ⟨h.1, hd other hv ho⟩⟩

/-- **A text has no lexemes that its grammar does not allow.** -/
lemma IsObjectText.admits (h : IsObjectText grammar n text value) :
    ∀ lexeme ∈ lexemes false text, Admits grammar lexeme := by
  obtain ⟨found, hf, ha, -⟩ := h.lexes
  have hal := hf []
  rw [append_nil, lexemes, append_nil] at hal
  rwa [hal]

/-- **A text is one of every variant that allows its lexemes.** -/
lemma IsObjectText.of_admits {other : Grammar}
    (h : IsObjectText grammar n text value) (hv : Variant grammar other)
    (ho : ∀ lexeme ∈ lexemes false text, Admits other lexeme) : IsObjectText other n text value := by
  obtain ⟨found, hf, -, hd⟩ := h.lexes
  have ha := hf []
  rw [append_nil, lexemes, append_nil] at ha
  rw [ha] at ho
  exact hd other hv ho

end Lexing

end JsonText
