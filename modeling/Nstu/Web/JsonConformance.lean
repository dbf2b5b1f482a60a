import Nstu.Web.JsonStrings
import Mathlib.Data.List.Nodup

/-!
# What the host's JSON reader reads

`parse_json_object` reads the texts of `hostGrammar` (`parseJsonObject_eq_some`).  That is not
RFC 8259: `std::isspace` takes vertical tabs and form feeds for white space, and an escape of a surrogate
is never read.  `conforms_iff` says for which inputs this makes no difference.
-/

namespace Nstu.Web

open Wire CType Text JsonText List
open Prod (fst)

/-! ## White space -/

lemma isSpaceByte_eq (byte : UInt8) : isSpaceByte byte = hostGrammar.space byte := by
  have hi : isSpaceByte byte ↔ hostGrammar.space byte := by
    simp only [isSpaceByte, Grammar.space, hostGrammar, isSpace, isWideSpace, Bool.true_and, Bool.or_eq_true,
      Bool.and_eq_true, beq_iff_eq, decide_eq_true_eq, ← UInt8.toNat_inj, UInt8.le_iff_toNat_le,
      UInt8.reduceToNat]
    omega
  exact Bool.eq_iff_iff.mpr hi

def IsSpace (text : Bytes) : Prop := ∀ byte ∈ text, hostGrammar.space byte = true

lemma consumeWhitespace_append {space : Bytes} (h : IsSpace space) (rest : Bytes) :
    consumeWhitespace (space ++ rest) = consumeWhitespace rest :=
  dropWhile_append_of_pos fun byte hb => (isSpaceByte_eq byte).trans (h byte hb)

variable {byte : UInt8}

lemma consumeWhitespace_cons (h : hostGrammar.space byte = false) (rest : Bytes) :
    consumeWhitespace (byte :: rest) = byte :: rest := by
  rw [consumeWhitespace, dropWhile_cons_of_neg (by simp [isSpaceByte_eq, h])]

lemma consumeWhitespace_eq (input : Bytes) : ∃ space, IsSpace space ∧ input = space ++ consumeWhitespace input := by
  refine ⟨input.takeWhile isSpaceByte, ?_, takeWhile_append_dropWhile.symm⟩
  intro byte hb
  rw [← isSpaceByte_eq]
  exact all_eq_true.mp all_takeWhile byte hb

lemma consumeWhitespace_idem (input : Bytes) :
    consumeWhitespace (consumeWhitespace input) = consumeWhitespace input := by
  obtain ⟨space, hs, hi⟩ := consumeWhitespace_eq input
  conv_rhs => rw [hi, consumeWhitespace_append hs]

variable {mark : UInt8}

lemma consumeWhitespace_mark {space : Bytes} (h : IsSpace space)
    (hm : hostGrammar.space mark = false) (rest : Bytes) :
    consumeWhitespace (space ++ mark :: rest) = mark :: rest := by
  rw [consumeWhitespace_append h, consumeWhitespace_cons hm]

lemma IsSpace.append {first second : Bytes} (h : IsSpace first) (h' : IsSpace second) :
    IsSpace (first ++ second) := forall_mem_append.mpr ⟨h, h'⟩

lemma continuesNumber_space (h : hostGrammar.space byte) : continuesNumber byte = false := by
  rw [Bool.eq_false_iff]
  intro hc
  simp only [Grammar.space, hostGrammar, isSpace, isWideSpace, Bool.true_and, Bool.or_eq_true, beq_iff_eq,
    ← UInt8.toNat_inj, UInt8.reduceToNat] at h
  simp only [continuesNumber, isDigit, Bool.or_eq_true, Bool.and_eq_true, decide_eq_true_eq, beq_iff_eq,
    ← UInt8.toNat_inj, UInt8.le_iff_toNat_le, UInt8.reduceToNat] at hc
  omega

lemma IsSpace.delimited {space : Bytes} (h : IsSpace space) : Delimited space := by
  intro byte hb
  exact continuesNumber_space (h byte (mem_of_head? hb))

lemma delimited_space {space : Bytes} (h : IsSpace space)
    (hm : continuesNumber mark = false) (rest : Bytes) : Delimited (space ++ mark :: rest) := by
  cases space with
  | nil => exact .cons hm rest
  | cons byte space => exact .cons (continuesNumber_space (h byte mem_cons_self)) _

/-! ## The value of a text in the host -/

mutual

/-- A value, as the host has it: strings in UTF-8, numbers as they are written. -/
def hostValue : Json → JsonValue
  | .null => .null
  | .boolean value => .boolean value
  | .number text => .number (utf8 text)
  | .string text => .string (utf8 text)
  | .array items => .array (hostItems items)
  | .object members => .object (hostMembers members)

def hostItems : List Json → List JsonValue
  | [] => []
  | item :: rest => hostValue item :: hostItems rest

def hostMembers : List (Utf16 × Json) → List (Bytes × JsonValue)
  | [] => []
  | (key, value) :: rest => (utf8 key, hostValue value) :: hostMembers rest

end

lemma hostItems_eq_map (items : List Json) : hostItems items = items.map hostValue := by
  induction items with
  | nil => rfl
  | cons item items ih => rw [hostItems, ih, map_cons]

lemma hostMembers_eq_map (members : List (Utf16 × Json)) :
    hostMembers members = members.map fun entry => (utf8 entry.1, hostValue entry.2) := by
  induction members with
  | nil => rfl
  | cons entry members ih => rw [hostMembers, ih, map_cons]

/-! ## How texts are read -/

/-- The limits of the reader, on a value. -/
def within : ℕ → Json → Bool
  | 0, _ => false
  | _ + 1, .string units => (utf8 units).length ≤ kMaximumJsonStringBytes
  | n + 1, .array items => items.length ≤ kMaximumJsonMembers && items.all (within n)
  | n + 1, .object members =>
    members.length ≤ kMaximumJsonMembers && members.all fun entry =>
      (utf8 entry.1).length ≤ kMaximumJsonStringBytes && within n entry.2
  | _ + 1, _ => true

/-- A text is read, behind white space, exactly if its value is within the limits. -/
def Reads (grammar : Grammar) (n : ℕ) : Prop :=
  ∀ {depth : ℕ} {text : Bytes} {value : Json}, IsValue grammar depth text value →
    ∀ {before rest : Bytes}, IsSpace before → Delimited rest →
      parseValue n (before ++ (text ++ rest)) = if within n value then some (hostValue value, rest) else none

lemma parseValue_consumeWhitespace (n : ℕ) (input : Bytes) :
    parseValue n (consumeWhitespace input) = parseValue n input := by
  cases n with
  | zero => rfl
  | succ n => rw [parseValue, parseValue, consumeWhitespace_idem]

lemma parseItems_consumeWhitespace (n room : ℕ) (array : List JsonValue) (input : Bytes) :
    parseItems (parseValue n) room array (consumeWhitespace input) = parseItems (parseValue n) room array input := by
  cases room with
  | zero => rfl
  | succ room => rw [parseItems, parseItems, parseValue_consumeWhitespace]

section Reading

variable {grammar : Grammar} {n depth : ℕ}

lemma isSpace_of_space {space : Bytes} (h : ∀ byte ∈ space, grammar.space byte) : IsSpace space := by
  intro byte hb
  have hs := h byte hb
  rw [Grammar.space, Bool.or_eq_true, Bool.and_eq_true] at hs
  rw [Grammar.space, Bool.or_eq_true, Bool.and_eq_true]
  exact hs.imp id fun hw => ⟨rfl, hw.2⟩

variable {value : Json}

lemma parseValue_spaced (hr : Reads grammar n) {text : Bytes}
    (h : Spaced grammar.space (IsValue grammar depth) text value) (mark : UInt8)
    (hm : continuesNumber mark = false) (hs : hostGrammar.space mark = false) (rest : Bytes) :
    ∃ after, consumeWhitespace after = mark :: rest ∧
      parseValue n (text ++ mark :: rest) = if within n value then some (hostValue value, after) else none := by
  obtain ⟨before, body, after, hb, ha, hbo, rfl⟩ := h
  refine ⟨after ++ mark :: rest, consumeWhitespace_mark (isSpace_of_space ha) hs rest, ?_⟩
  rw [append_assoc, append_assoc]
  exact hr hbo (isSpace_of_space hb) (delimited_space (isSpace_of_space ha) hm rest)

variable {body : Bytes} {items : List Json}

lemma parseItems_append (hr : Reads grammar n)
    (h : Separated (Spaced grammar.space (IsValue grammar depth)) body items) (rest : Bytes) (room : ℕ)
    (array : List JsonValue) : parseItems (parseValue n) room array (body ++ 0x5d :: rest) =
      if items.length ≤ room ∧ items.all (within n) then some (array ++ items.map hostValue, rest)
      else none := by
  induction h generalizing room array with
  | @single text value hi =>
    obtain ⟨after, ha, hv⟩ := parseValue_spaced hr hi 0x5d (by decide) (by decide) rest
    cases room with
    | zero => simp [parseItems]
    | succ room =>
      cases hw : within n value with
      | false => simp [parseItems, hv, hw]
      | true => simp [parseItems, hv, hw, ha]
  | @cons text tail value values hi _ ih =>
    obtain ⟨after, ha, hv⟩ :=
      parseValue_spaced hr hi 0x2c (by decide) (by decide) (tail ++ 0x5d :: rest)
    rw [append_assoc, cons_append]
    cases room with
    | zero => simp [parseItems]
    | succ room =>
      cases hw : within n value with
      | false => simp [parseItems, hv, hw]
      | true =>
        simp only [parseItems, hv, hw, if_true, Option.bind_eq_bind, Option.bind_some, ha]
        rw [parseItems_consumeWhitespace, ih, append_assoc]
        simp [hw]

lemma parseMember_append (hgram : grammar.surrogates = false) (hreads : Reads grammar n) {text : Bytes}
    {entry : Utf16 × Json} (h : IsMember grammar (IsValue grammar depth) text entry) (mark : UInt8)
    (hmark : continuesNumber mark = false) (hspace : hostGrammar.space mark = false) (rest : Bytes) :
    ∃ afterKey value after, consumeWhitespace afterKey = 0x3a :: value ∧ consumeWhitespace after = mark :: rest ∧
      parseString (consumeWhitespace (text ++ mark :: rest)) =
        (if (utf8 entry.1).length ≤ kMaximumJsonStringBytes then some (utf8 entry.1, afterKey) else none) ∧
      parseValue n value = if within n entry.2 then some (hostValue entry.2, after) else none := by
  obtain ⟨key, value, ⟨before, body, after, hbefo, hafter, hbody, rfl⟩, hvalue, rfl⟩ := h
  obtain ⟨afterValue, hend, hparse⟩ := parseValue_spaced hreads hvalue mark hmark hspace rest
  refine ⟨after ++ 0x3a :: (value ++ mark :: rest), value ++ mark :: rest, afterValue,
    consumeWhitespace_mark (isSpace_of_space hafter) (by decide) _, hend, ?_, hparse⟩
  have hstri := parseString_append hgram hbody (after ++ 0x3a :: (value ++ mark :: rest))
  obtain ⟨-, chars, -, rfl⟩ := hbody
  rw [append_assoc, append_assoc, append_assoc,
    consumeWhitespace_append (isSpace_of_space hbefo), cons_append, consumeWhitespace_cons (by decide),
    cons_append, ← hstri]
  simp

variable {object : List (Bytes × JsonValue)}

lemma key_notMem {rest : List (Bytes × JsonValue)} {entry : Bytes × JsonValue}
    (h : ((object ++ entry :: rest).map fst).Nodup) : entry.1 ∉ object.map fst := by
  rw [map_append, map_cons, nodup_middle, nodup_cons] at h
  exact fun hm => h.1 (mem_append_left _ hm)

/-- The limits of the reader, on a member. -/
def withinMember (n : ℕ) (entry : Utf16 × Json) : Bool :=
  (utf8 entry.1).length ≤ kMaximumJsonStringBytes && within n entry.2

variable {members : List (Utf16 × Json)}

lemma parseMembers_append (hgram : grammar.surrogates = false) (hreads : Reads grammar n)
    (h : Separated (IsMember grammar (IsValue grammar depth)) body members) (rest : Bytes) (room : ℕ)
    (hkeys : ((object ++ hostMembers members).map fst).Nodup) :
    parseMembers (parseValue n) room object (consumeWhitespace (body ++ 0x7d :: rest)) =
      if members.length ≤ room ∧ members.all (withinMember n) then some (object ++ hostMembers members, rest)
      else none := by
  induction h generalizing room object with
  | @single text entry hmemb =>
    obtain ⟨afterKey, value, after, hcolon, hafter, hkey, hvalue⟩ :=
      parseMember_append hgram hreads hmemb 0x7d (by decide) (by decide) rest
    have hnew := key_notMem hkeys
    cases room with
    | zero => simp [parseMembers]
    | succ room =>
      by_cases hleng : (utf8 entry.1).length ≤ kMaximumJsonStringBytes
      · cases hwith : within n entry.2 with
        | false => simp [parseMembers, hkey, hleng, hcolon, hvalue, hwith, withinMember]
        | true =>
          simp [parseMembers, hkey, hleng, hcolon, hvalue, hwith, withinMember, hnew, hafter, hostMembers]
      · simp [parseMembers, hkey, hleng, withinMember]
  | @cons text tail entry members hmemb _ ih =>
    obtain ⟨afterKey, value, after, hcolon, hafter, hkey, hvalue⟩ :=
      parseMember_append hgram hreads hmemb 0x2c (by decide) (by decide) (tail ++ 0x7d :: rest)
    have hnew := key_notMem hkeys
    rw [append_assoc, cons_append]
    cases room with
    | zero => simp [parseMembers]
    | succ room =>
      by_cases hleng : (utf8 entry.1).length ≤ kMaximumJsonStringBytes
      · cases hwith : within n entry.2 with
        | false => simp [parseMembers, hkey, hleng, hcolon, hvalue, hwith, withinMember]
        | true =>
          simp only [parseMembers, hkey, hleng, hcolon, hvalue, hwith, if_true, hnew, if_false, hafter,
            Option.bind_eq_bind, Option.bind_some]
          rw [hostMembers, append_cons object _ (hostMembers members)] at hkeys
          have hentry : withinMember n entry := by simp [withinMember, hleng, hwith]
          rw [ih room hkeys, hostMembers, ← append_cons]
          simp only [length_cons, all_cons, hentry, Bool.true_and, Nat.add_le_add_iff_right]
      · simp [parseMembers, hkey, hleng, withinMember]

lemma key_readBack (hg : grammar.surrogates = false)
    (h : Separated (IsMember grammar (IsValue grammar depth)) body members) :
    ∀ entry ∈ members, ofUtf8 (utf8 entry.1) = some entry.1 := by
  have hk : ∀ {text entry}, IsMember grammar (IsValue grammar depth) text entry →
      ofUtf8 (utf8 entry.1) = some entry.1 := by
    rintro text entry ⟨key, value, ⟨before, body, after, -, -, ⟨-, chars, hc, -⟩, -⟩, -, -⟩
    exact (chars_raw hg hc).2
  exact separated_forall h hk

lemma nodup_hostMembers (hr : ∀ entry ∈ members, ofUtf8 (utf8 entry.1) = some entry.1) :
    ((hostMembers members).map fst).Nodup ↔ (members.map fst).Nodup := by
  have hm : (hostMembers members).map fst = (members.map fst).map utf8 := by
    rw [hostMembers_eq_map, map_map, map_map]
    rfl
  rw [hm]
  constructor
  · exact List.Nodup.of_map utf8
  · intro h
    refine h.map_on ?_
    intro a ha b hb hab
    obtain ⟨first, hf, rfl⟩ := mem_map.mp ha
    obtain ⟨second, hs, rfl⟩ := mem_map.mp hb
    have := hr first hf
    rw [hab, hr second hs] at this
    exact (Option.some.inj this).symm

lemma parseWord_append (word : Bytes) (value : JsonValue) (rest : Bytes) :
    parseWord word value (word ++ rest) = some (value, rest) := by
  simp [parseWord]

lemma head_isNumber {text : Bytes} (h : IsNumber text) :
    ∃ first rest, text = first :: rest ∧ hostGrammar.space first = false ∧
      first ∉ ([0x7b, 0x5b, 0x22, 0x74, 0x66, 0x6e, 0x5d] : Bytes) := by
  obtain ⟨minus, int, frac, exp, hm, hint, -, -, rfl⟩ := h
  rcases hm with rfl | rfl
  · obtain ⟨first, rest, rfl, hf⟩ := isInt_head hint
    refine ⟨first, _, rfl, ?_, ?_⟩
    · rw [Bool.eq_false_iff]
      intro hs
      simp only [Grammar.space, hostGrammar, isSpace, isWideSpace, Bool.true_and, Bool.or_eq_true, beq_iff_eq,
        ← UInt8.toNat_inj, UInt8.reduceToNat] at hs
      simp only [isDigit, Bool.and_eq_true, decide_eq_true_eq, UInt8.le_iff_toNat_le, UInt8.reduceToNat] at hf
      omega
    · intro hme
      have hma : ∀ byte ∈ ([0x7b, 0x5b, 0x22, 0x74, 0x66, 0x6e, 0x5d] : Bytes), isDigit byte = false :=
        forall_mem_of_all (by decide)
      rw [hma first hme] at hf
      cases hf
  · exact ⟨0x2d, _, rfl, by decide, by decide⟩

lemma head_isValue {text : Bytes} (h : IsValue grammar depth text value) :
    ∃ first rest, text = first :: rest ∧ hostGrammar.space first = false ∧ first ≠ 0x5d := by
  cases depth with
  | zero => cases value <;> exact absurd h (by simp [IsValue])
  | succ depth =>
    cases value with
    | null =>
      obtain rfl : text = literal "null" := h
      exact ⟨_, _, rfl, by decide, by decide⟩
    | boolean value =>
      obtain rfl : text = literal (if value then "true" else "false") := h
      cases value with
      | true | false => exact ⟨_, _, rfl, by decide, by decide⟩
    | number written =>
      obtain ⟨hn, -⟩ : IsNumber text ∧ _ := h
      obtain ⟨first, rest, rfl, hs, hf⟩ := head_isNumber hn
      refine ⟨first, rest, rfl, hs, ?_⟩
      rintro rfl
      exact hf (by decide)
    | string units =>
      obtain ⟨-, chars, -, rfl⟩ : IsString grammar text units := h
      exact ⟨_, _, rfl, by decide, by decide⟩
    | array items =>
      obtain ⟨-, body, rfl, -⟩ := h
      exact ⟨_, _, rfl, by decide, by decide⟩
    | object members =>
      obtain ⟨-, -, body, rfl, -⟩ := h
      exact ⟨_, _, rfl, by decide, by decide⟩

lemma head_items (h : Separated (Spaced grammar.space (IsValue grammar depth)) body items) (rest : Bytes) :
    ∀ tail, consumeWhitespace (body ++ rest) ≠ 0x5d :: tail := by
  have hf : ∀ {text value}, Spaced grammar.space (IsValue grammar depth) text value → ∀ rest tail,
      consumeWhitespace (text ++ rest) ≠ 0x5d :: tail := by
    rintro text value ⟨before, body, after, hb, -, hbo, rfl⟩ rest tail he
    obtain ⟨first, body, rfl, hs, hn⟩ := head_isValue hbo
    rw [append_assoc, consumeWhitespace_append (isSpace_of_space hb), cons_append,
      cons_append, consumeWhitespace_cons hs] at he
    exact hn (cons.inj he).1
  cases h with
  | single hi => exact hf hi rest
  | cons hi _ =>
    rw [append_assoc]
    exact hf hi _

lemma head_members (h : Separated (IsMember grammar (IsValue grammar depth)) body members) (rest : Bytes) :
    ∀ tail, consumeWhitespace (body ++ rest) ≠ 0x7d :: tail := by
  have hf : ∀ {text entry}, IsMember grammar (IsValue grammar depth) text entry → ∀ rest tail,
      consumeWhitespace (text ++ rest) ≠ 0x7d :: tail := by
    rintro text entry ⟨key, value, ⟨before, body, after, hb, -, ⟨-, chars, -, rfl⟩, rfl⟩, -, rfl⟩ rest
      tail he
    rw [append_assoc, append_assoc, consumeWhitespace_append (isSpace_of_space hb),
      cons_append, cons_append, consumeWhitespace_cons (by decide)] at he
    exact absurd (cons.inj he).1 (by decide)
  cases h with
  | single hm => exact hf hm rest
  | cons hm _ =>
    rw [append_assoc]
    exact hf hm _

lemma reads_array (hr : Reads grammar n)
    (h : Listed grammar.space (Spaced grammar.space (IsValue grammar depth)) body items) (rest : Bytes) :
    parseArray (parseValue n) (body ++ 0x5d :: rest) =
      if within (n + 1) (.array items) then some (hostValue (.array items), rest) else none := by
  rw [hostValue, hostItems_eq_map, parseArray]
  rcases h with ⟨rfl, hs⟩ | h
  · rw [consumeWhitespace_mark (isSpace_of_space hs) (by decide)]
    simp [within]
  · have hi := parseItems_append hr h rest kMaximumJsonMembers []
    rw [← parseItems_consumeWhitespace] at hi
    split
    · rename_i hb
      exact absurd hb (head_items h _ _)
    · rw [hi, within]
      simp only [Bool.and_eq_true, decide_eq_true_eq, nil_append]
      split_ifs <;> rfl

lemma reads_object (hg : grammar.surrogates = false) (hr : Reads grammar n)
    (hk : (members.map fst).Nodup)
    (h : Listed grammar.space (IsMember grammar (IsValue grammar depth)) body members) (rest : Bytes) :
    parseObject (parseValue n) (body ++ 0x7d :: rest) =
      if within (n + 1) (.object members) then some (hostValue (.object members), rest) else none := by
  rw [hostValue, parseObject]
  rcases h with ⟨rfl, hs⟩ | h
  · rw [consumeWhitespace_mark (isSpace_of_space hs) (by decide)]
    simp [within, hostMembers]
  · have hm : parseMembers (parseValue n) kMaximumJsonMembers []
        (consumeWhitespace (body ++ 0x7d :: rest)) = _ :=
      parseMembers_append hg hr h rest kMaximumJsonMembers
        ((nodup_hostMembers (key_readBack hg h)).mpr hk)
    split
    · rename_i hb
      exact absurd hb (head_members h _ _)
    · rw [hm, within, show (fun entry : Utf16 × Json =>
        decide ((utf8 entry.1).length ≤ kMaximumJsonStringBytes) && within n entry.2) = withinMember n from rfl]
      simp only [Bool.and_eq_true, decide_eq_true_eq, nil_append]
      split_ifs <;> rfl

/-- **Every text is read if its value is within the limits.** -/
lemma reads (hgram : grammar.surrogates = false) (n : ℕ) : Reads grammar n := by
  induction n with
  | zero =>
    intro depth text value _ before rest _ _
    cases value <;> rfl
  | succ n ih =>
    intro depth text value h before rest hbefo hrest
    rw [parseValue, consumeWhitespace_append hbefo]
    cases depth with
    | zero => cases value <;> exact absurd h (by simp [IsValue])
    | succ depth =>
      cases value with
      | null =>
        obtain rfl : text = literal "null" := h
        exact parseWord_append (literal "null") .null rest
      | boolean value =>
        obtain rfl : text = literal (if value then "true" else "false") := h
        cases value with
        | true => exact parseWord_append (literal "true") (.boolean true) rest
        | false => exact parseWord_append (literal "false") (.boolean false) rest
      | number written =>
        obtain ⟨hnumb, rfl⟩ : IsNumber text ∧ _ := h
        rw [hostValue, utf8_number hnumb]
        have hparse := parseNumber_append hnumb hrest
        obtain ⟨first, tail, rfl, hspace, hfirst⟩ := head_isNumber hnumb
        simp only [mem_cons, not_mem_nil, or_false, not_or] at hfirst
        rw [cons_append, consumeWhitespace_cons hspace]
        simp only [hfirst, if_false]
        rw [← cons_append, hparse]
        rfl
      | string units =>
        have hstri : IsString grammar text units := h
        have hparse := parseString_append hgram hstri rest
        obtain ⟨-, chars, -, rfl⟩ := hstri
        rw [cons_append] at hparse ⊢
        rw [consumeWhitespace_cons (by decide)]
        have hobje : ¬ (0x22 : UInt8) = 0x7b := by decide
        have harray : ¬ (0x22 : UInt8) = 0x5b := by decide
        simp only [hobje, harray, if_false, if_true, hparse, within, decide_eq_true_eq, hostValue]
        split_ifs <;> rfl
      | array items =>
        obtain ⟨-, body, rfl, hbody⟩ := h
        rw [cons_append, append_assoc, singleton_append, consumeWhitespace_cons (by decide)]
        exact reads_array ih hbody rest
      | object members =>
        obtain ⟨-, hkeys, body, rfl, hbody⟩ := h
        rw [cons_append, append_assoc, singleton_append, consumeWhitespace_cons (by decide)]
        exact reads_object hgram ih hkeys hbody rest

lemma within_of_isValue (n : ℕ) {text : Bytes} (h : IsValue hostGrammar n text value) : within n value := by
  induction n generalizing text value with
  | zero => cases value <;> exact absurd h (by simp [IsValue])
  | succ n ih =>
    have hs : ∀ {text value}, Spaced hostGrammar.space (IsValue hostGrammar n) text value →
        within n value := by
      rintro text value ⟨-, body, -, -, -, hb, -⟩
      exact ih hb
    cases value with
    | null => rfl
    | boolean value => rfl
    | number written => rfl
    | string units => exact decide_eq_true (show IsString hostGrammar text units from h).1
    | array items =>
      obtain ⟨hl, body, -, hb⟩ := h
      rw [within, Bool.and_eq_true, decide_eq_true_eq, all_eq_true]
      exact ⟨hl, listed_forall hb hs⟩
    | object members =>
      obtain ⟨hl, -, body, -, hb⟩ := h
      rw [within, Bool.and_eq_true, decide_eq_true_eq, all_eq_true]
      refine ⟨hl, listed_forall hb ?_⟩
      rintro text entry ⟨key, value, ⟨-, string, -, -, -, hst, -⟩, hv, -⟩
      rw [Bool.and_eq_true, decide_eq_true_eq]
      exact ⟨hst.1, hs hv⟩

end Reading

/-! ## What is read is a text of the grammar -/

/-- What is read at a nesting below `n` is a text behind white space. -/
def Derives (n : ℕ) : Prop :=
  ∀ {input rest : Bytes} {value : JsonValue}, parseValue n input = some (value, rest) →
    ∃ before text json, IsSpace before ∧ IsValue hostGrammar n text json ∧ hostValue json = value ∧
      input = before ++ (text ++ rest)

section Prepend

variable {α : Type} {element : Bytes → α → Prop} {space text : Bytes}

lemma Spaced.prepend {value : α} (hs : IsSpace space) (h : Spaced hostGrammar.space element text value) :
    Spaced hostGrammar.space element (space ++ text) value := by
  obtain ⟨before, body, after, hb, ha, hbo, rfl⟩ := h
  exact ⟨space ++ before, body, after, hs.append hb, ha, hbo, by rw [append_assoc]⟩

lemma Separated.prepend {values : List α} (he : ∀ {text value}, element text value →
    element (space ++ text) value) (h : Separated element text values) : Separated element (space ++ text) values := by
  cases h with
  | single hf => exact .single (he hf)
  | cons hf hr =>
    rw [← append_assoc]
    exact .cons (he hf) hr

lemma IsMember.prepend {value : Bytes → Json → Prop} {entry : Utf16 × Json} (hs : IsSpace space)
    (h : IsMember hostGrammar value text entry) : IsMember hostGrammar value (space ++ text) entry := by
  obtain ⟨key, rest, hk, hr, rfl⟩ := h
  exact ⟨space ++ key, rest, Spaced.prepend hs hk, hr, by rw [append_assoc]⟩

end Prepend

variable {rest : Bytes}

lemma mark_of_consumeWhitespace {input : Bytes} (h : consumeWhitespace input = mark :: rest) :
    ∃ space, IsSpace space ∧ input = space ++ mark :: rest := by
  obtain ⟨space, hs, hi⟩ := consumeWhitespace_eq input
  exact ⟨space, hs, h ▸ hi⟩

variable {room : ℕ}

lemma parseItems_sound {n : ℕ} (hderi : Derives n) {array result : List JsonValue}
    {input : Bytes} (h : parseItems (parseValue n) room array input = some (result, rest)) :
    ∃ body items, Separated (Spaced hostGrammar.space (IsValue hostGrammar n)) body items ∧
      items.length ≤ room ∧ result = array ++ items.map hostValue ∧ input = body ++ 0x5d :: rest := by
  induction room generalizing array input with
  | zero => cases h
  | succ room ih =>
    simp only [parseItems, Option.bind_eq_bind, Option.bind_eq_some_iff] at h
    obtain ⟨⟨child, afterValue⟩, hvalue, h⟩ := h
    obtain ⟨before, text, json, hbefo, htext, rfl, rfl⟩ := hderi hvalue
    split at h
    · rename_i hmark
      cases h
      obtain ⟨space, hspace, rfl⟩ := mark_of_consumeWhitespace hmark
      refine ⟨before ++ (text ++ space), [json], .single ⟨before, text, space, hbefo, hspace, htext, rfl⟩,
        by simp, rfl, by simp⟩
    · rename_i afterComma hmark
      obtain ⟨space, hspace, rfl⟩ := mark_of_consumeWhitespace hmark
      obtain ⟨body, items, hitems, hleng, rfl, hbody⟩ := ih h
      obtain ⟨space', hspace', hafter⟩ := consumeWhitespace_eq afterComma
      refine ⟨(before ++ (text ++ space)) ++ 0x2c :: (space' ++ body), json :: items, .cons
        ⟨before, text, space, hbefo, hspace, htext, rfl⟩ (Separated.prepend (Spaced.prepend hspace') hitems),
        by simpa using hleng, by simp, ?_⟩
      rw [hafter, hbody]
      simp
    · cases h

lemma isMember_of {n : ℕ} {key before text after space : Bytes} {units : Utf16} {json : Json}
    (hs : IsString hostGrammar key units) (hsp : IsSpace space) (hb : IsSpace before)
    (ht : IsValue hostGrammar n text json) (ha : IsSpace after) :
    IsMember hostGrammar (IsValue hostGrammar n) ((key ++ space) ++ 0x3a :: (before ++ (text ++ after)))
      (units, json) :=
  ⟨key ++ space, before ++ (text ++ after), ⟨[], key, space, by simp, hsp, hs, rfl⟩,
    ⟨before, text, after, hb, ha, ht, rfl⟩, rfl⟩

lemma parseMembers_sound {n : ℕ} (hderi : Derives n) {object result : List (Bytes × JsonValue)}
    {input : Bytes} (hobje : (object.map fst).Nodup)
    (h : parseMembers (parseValue n) room object input = some (result, rest)) :
    ∃ body members, Separated (IsMember hostGrammar (IsValue hostGrammar n)) body members ∧
      members.length ≤ room ∧ result = object ++ hostMembers members ∧ (result.map fst).Nodup ∧
      input = body ++ 0x7d :: rest := by
  induction room generalizing object input with
  | zero => cases h
  | succ room ih =>
    simp only [parseMembers, Option.bind_eq_bind, Option.bind_eq_some_iff] at h
    obtain ⟨⟨key, afterKey⟩, hkey, h⟩ := h
    obtain ⟨keyText, units, hstri, rfl, rfl⟩ := parseString_sound hkey
    split at h
    · rename_i afterColon hcolon
      obtain ⟨space, hspace, rfl⟩ := mark_of_consumeWhitespace hcolon
      simp only [Option.bind_eq_some_iff] at h
      obtain ⟨⟨child, afterValue⟩, hvalue, h⟩ := h
      obtain ⟨before, text, json, hbefo, htext, rfl, rfl⟩ := hderi hvalue
      split at h
      · cases h
      · rename_i hnew
        have hkeys : ((object ++ [(utf8 units, hostValue json)]).map fst).Nodup := by
          rw [map_append, map_cons, map_nil, nodup_middle, append_nil, nodup_cons]
          exact ⟨hnew, hobje⟩
        split at h
        · rename_i hmark
          cases h
          obtain ⟨space', hspace', rfl⟩ := mark_of_consumeWhitespace hmark
          refine ⟨_, [(units, json)], .single (isMember_of hstri hspace hbefo htext hspace'), by simp,
            rfl, hkeys, by simp⟩
        · rename_i afterComma hmark
          obtain ⟨space', hspace', rfl⟩ := mark_of_consumeWhitespace hmark
          obtain ⟨body, members, hmemb, hleng, rfl, hnodup, hbody⟩ := ih hkeys h
          obtain ⟨space'', hspace'', hafter⟩ := consumeWhitespace_eq afterComma
          refine ⟨_, (units, json) :: members, .cons (isMember_of hstri hspace hbefo htext hspace')
            (Separated.prepend (IsMember.prepend hspace'') hmemb), by simpa using hleng, ?_, hnodup, ?_⟩
          · rw [hostMembers, append_assoc, singleton_append]
          · rw [hafter, hbody]
            simp
        · cases h
    · cases h

variable {value : JsonValue}

lemma parseArray_sound {n : ℕ} (hderi : Derives n) {input : Bytes}
    (h : parseArray (parseValue n) input = some (value, rest)) :
    ∃ text json, IsValue hostGrammar (n + 1) text json ∧ hostValue json = value ∧ 0x5b :: input = text ++ rest := by
  obtain ⟨space, hspace, hinput⟩ := consumeWhitespace_eq input
  rw [parseArray] at h
  split at h
  · rename_i hmark
    cases h
    refine ⟨0x5b :: (space ++ [0x5d]), .array [], ⟨by simp, space, rfl, .inl ⟨rfl, hspace⟩⟩, ?_, ?_⟩
    · rw [hostValue, hostItems]
    · rw [hinput, hmark]
      simp
  · obtain ⟨⟨items, rest'⟩, hitems, heq⟩ := Option.map_eq_some_iff.mp h
    cases heq
    obtain ⟨body, items, hlist, hleng, rfl, hbody⟩ := parseItems_sound hderi hitems
    refine ⟨0x5b :: (space ++ body ++ [0x5d]), .array items,
      ⟨hleng, space ++ body, rfl, .inr (Separated.prepend (Spaced.prepend hspace) hlist)⟩, ?_, ?_⟩
    · rw [hostValue, hostItems_eq_map, nil_append]
    · rw [hinput, hbody]
      simp

lemma parseObject_sound {n : ℕ} (hderi : Derives n) {input : Bytes}
    (h : parseObject (parseValue n) input = some (value, rest)) :
    ∃ text json, IsValue hostGrammar (n + 1) text json ∧ hostValue json = value ∧ 0x7b :: input = text ++ rest := by
  obtain ⟨space, hspace, hinput⟩ := consumeWhitespace_eq input
  rw [parseObject] at h
  split at h
  · rename_i hmark
    cases h
    refine ⟨0x7b :: (space ++ [0x7d]), .object [], ⟨by simp, by simp, space, rfl, .inl ⟨rfl, hspace⟩⟩, ?_, ?_⟩
    · rw [hostValue, hostMembers]
    · rw [hinput, hmark]
      simp
  · obtain ⟨⟨members, rest'⟩, hmemb, heq⟩ := Option.map_eq_some_iff.mp h
    cases heq
    obtain ⟨body, members, hlist, hleng, rfl, hkeys, hbody⟩ := parseMembers_sound hderi (by simp) hmemb
    rw [nil_append, nodup_hostMembers (key_readBack rfl hlist)] at hkeys
    refine ⟨0x7b :: (space ++ body ++ [0x7d]), .object members,
      ⟨hleng, hkeys, space ++ body, rfl, .inr (Separated.prepend (IsMember.prepend hspace) hlist)⟩, ?_, ?_⟩
    · rw [hostValue, nil_append]
    · rw [hinput, hbody]
      simp

lemma parseWord_sound {word input : Bytes} {result : JsonValue}
    (h : parseWord word value input = some (result, rest)) : result = value ∧ input = word ++ rest := by
  rw [parseWord] at h
  split at h
  · rename_i hw
    cases h
    refine ⟨rfl, ?_⟩
    calc input = input.take word.length ++ input.drop word.length := (take_append_drop _ _).symm
      _ = word ++ input.drop word.length := by rw [hw]
  · cases h

/-- **What is read is a text of the grammar.** -/
lemma derives (n : ℕ) : Derives n := by
  induction n with
  | zero =>
    intro input rest value h
    cases h
  | succ n ih =>
    intro input rest value h
    obtain ⟨before, hbefo, hinput⟩ := consumeWhitespace_eq input
    suffices htext : ∃ text json, IsValue hostGrammar (n + 1) text json ∧ hostValue json = value ∧
        consumeWhitespace input = text ++ rest by
      obtain ⟨text, json, hvalue, hhost, hafter⟩ := htext
      exact ⟨before, text, json, hbefo, hvalue, hhost, hafter ▸ hinput⟩
    rw [parseValue] at h
    split at h
    · cases h
    · rename_i byte input' hskip
      rw [hskip]
      split_ifs at h with hobje harray hstri htrue hfalse hnull
      · rw [hobje]
        exact parseObject_sound ih h
      · rw [harray]
        exact parseArray_sound ih h
      · obtain ⟨⟨scalar, rest'⟩, hscal, heq⟩ := Option.map_eq_some_iff.mp h
        cases heq
        obtain ⟨text, units, hunits, hafter, rfl⟩ := parseString_sound hscal
        exact ⟨text, .string units, hunits, by rw [hostValue], hafter⟩
      · obtain ⟨rfl, hafter⟩ := parseWord_sound h
        exact ⟨literal "true", .boolean true, rfl, by rw [hostValue], hafter⟩
      · obtain ⟨rfl, hafter⟩ := parseWord_sound h
        exact ⟨literal "false", .boolean false, rfl, by rw [hostValue], hafter⟩
      · obtain ⟨rfl, hafter⟩ := parseWord_sound h
        exact ⟨literal "null", .null, rfl, by rw [hostValue], hafter⟩
      · obtain ⟨⟨scalar, rest'⟩, hscal, heq⟩ := Option.map_eq_some_iff.mp h
        cases heq
        obtain ⟨hnumb, hafter⟩ := parseNumber_sound hscal
        exact ⟨scalar, .number _, ⟨hnumb, rfl⟩, by rw [hostValue, utf8_number hnumb], hafter⟩

/-- **The reader implements its grammar.** -/
theorem parseJsonObject_eq_some {input : Bytes} (hsize : input.length ≤ kMaximumJsonBytes) :
    parseJsonObject input = some value ↔
      ∃ json, IsObjectText hostGrammar (kMaximumJsonDepth + 1) input json ∧ hostValue json = value := by
  have hsize : ¬ input.length > kMaximumJsonBytes := by omega
  constructor
  · intro h
    rw [parseJsonObject] at h
    split at h
    · rename_i members hparse
      cases h
      rw [parse, if_neg hsize] at hparse
      split at hparse
      · cases hparse
      · rename_i parsed rest hvalue
        split at hparse
        · rename_i hrest
          cases hparse
          obtain ⟨before, text, json, hbefo, htext, hhost, rfl⟩ := derives _ hvalue
          obtain ⟨after, hafter, hafter'⟩ := consumeWhitespace_eq rest
          rw [hrest, append_nil] at hafter'
          refine ⟨json, ⟨?_, before, text, rest, hbefo, hafter' ▸ hafter, htext, rfl⟩, hhost⟩
          cases json with
          | object members => exact ⟨members, rfl⟩
          | _ => exact absurd hhost (by simp [hostValue])
        · cases hparse
    · cases h
  · rintro ⟨json, ⟨⟨members, rfl⟩, before, text, after, hbefo, hafter, htext, rfl⟩, rfl⟩
    have hempty : consumeWhitespace after = [] := by
      have happe := consumeWhitespace_append hafter []
      rwa [append_nil] at happe
    have hparse : parse (before ++ (text ++ after)) = some (hostValue (.object members)) := by
      rw [parse, if_neg hsize, reads rfl _ htext hbefo (IsSpace.delimited hafter),
        if_pos (within_of_isValue _ htext)]
      simp only [hempty, if_true]
    rw [parseJsonObject, hparse, hostValue]

/-! ## RFC 8259 -/

/-- RFC 8259, with the limits of the reader. -/
def rfcGrammar : Grammar := .rfc kMaximumJsonMembers kMaximumJsonStringBytes

/-- RFC 8259 with the white space of C. -/
def wideGrammar : Grammar := { rfcGrammar with wide := true }

/-- The reader accepts the input exactly when it is a text of RFC 8259, and gives the value that the text
denotes. -/
def Conforms (input : Bytes) : Prop :=
  ∀ value, parseJsonObject input = some value ↔
    ∃ json, IsObjectText rfcGrammar (kMaximumJsonDepth + 1) input json ∧ hostValue json = value

/-- The input has a vertical tab or a form feed outside its strings. -/
def hasWideSpace (input : Bytes) : Bool :=
  (lexemes false input).any fun lexeme => lexeme.elim isWideSpace fun _ => false

/-- A string of the input writes a surrogate as an escape. -/
def hasSurrogateEscape (input : Bytes) : Bool :=
  (lexemes false input).any fun lexeme => lexeme.elim (fun _ => false) isSurrogate

section Conformance

variable {input : Bytes} {json : Json} {n : ℕ}

lemma admits_wideGrammar (lexeme : UInt8 ⊕ UInt16) : Admits wideGrammar lexeme := by
  cases lexeme with
  | inl byte => exact fun _ => rfl
  | inr unit => rfl

lemma forall_admits_rfcGrammar :
    (∀ lexeme ∈ lexemes false input, Admits rfcGrammar lexeme) ↔ hasWideSpace input = false := by
  rw [hasWideSpace, any_eq_false]
  refine forall₂_congr fun lexeme _ => ?_
  cases lexeme with
  | inl byte => simp [Admits, rfcGrammar, Grammar.rfc]
  | inr unit => simp [Admits, rfcGrammar, Grammar.rfc, Grammar.escaped]

lemma forall_admits_hostGrammar :
    (∀ lexeme ∈ lexemes false input, Admits hostGrammar lexeme) ↔ hasSurrogateEscape input = false := by
  rw [hasSurrogateEscape, any_eq_false]
  refine forall₂_congr fun lexeme _ => ?_
  cases lexeme with
  | inl byte => simp [Admits, hostGrammar]
  | inr unit => exact (escaped_iff rfl).trans (by simp)

lemma isObjectText_iff {grammar : Grammar} (hv : Variant wideGrammar grammar) :
    IsObjectText grammar n input json ↔
      IsObjectText wideGrammar n input json ∧ ∀ lexeme ∈ lexemes false input, Admits grammar lexeme := by
  constructor
  · intro h
    exact ⟨h.of_admits ⟨hv.1.symm, hv.2.symm⟩ fun lexeme _ => admits_wideGrammar lexeme, h.admits⟩
  · rintro ⟨h, ha⟩
    exact h.of_admits hv ha

lemma isObjectText_rfc_iff : IsObjectText rfcGrammar n input json ↔
      IsObjectText wideGrammar n input json ∧ hasWideSpace input = false :=
  (isObjectText_iff (show Variant wideGrammar rfcGrammar from ⟨rfl, rfl⟩)).trans
    (and_congr_right fun _ => forall_admits_rfcGrammar)

lemma isObjectText_host_iff : IsObjectText hostGrammar n input json ↔
      IsObjectText wideGrammar n input json ∧ hasSurrogateEscape input = false :=
  (isObjectText_iff (show Variant wideGrammar hostGrammar from ⟨rfl, rfl⟩)).trans
    (and_congr_right fun _ => forall_admits_hostGrammar)

/-- **Where the reader conforms to RFC 8259.**  Within the size limit, exactly when the input is no text
even with vertical tabs and form feeds for white space, or has such white space exactly if it has an
escape of a surrogate. -/
theorem conforms_iff (hsize : input.length ≤ kMaximumJsonBytes) : Conforms input ↔
      ((∃ json, IsObjectText wideGrammar (kMaximumJsonDepth + 1) input json) →
        hasWideSpace input = hasSurrogateEscape input) := by
  have hconforms : Conforms input ↔ ∀ value, (∃ json, (IsObjectText wideGrammar (kMaximumJsonDepth + 1) input json ∧
        hasSurrogateEscape input = false) ∧ hostValue json = value) ↔
      ∃ json, (IsObjectText wideGrammar (kMaximumJsonDepth + 1) input json ∧
        hasWideSpace input = false) ∧ hostValue json = value := by
    refine forall_congr' fun value => ?_
    simp only [parseJsonObject_eq_some hsize, isObjectText_rfc_iff, isObjectText_host_iff]
  rw [hconforms]
  constructor
  · rintro h ⟨json, hjson⟩
    cases hwide : hasWideSpace input with
    | false =>
      -- the text is one of RFC 8259, so it is read
      obtain ⟨-, ⟨-, hsurrogate⟩, -⟩ := (h (hostValue json)).mpr ⟨json, ⟨hjson, hwide⟩, rfl⟩
      exact hsurrogate.symm
    | true =>
      cases hsurrogate : hasSurrogateEscape input with
      | true => rfl
      | false =>
        -- the text is read, so it is one of RFC 8259
        obtain ⟨-, ⟨-, hnarrow⟩, -⟩ := (h (hostValue json)).mp ⟨json, ⟨hjson, hsurrogate⟩, rfl⟩
        exact absurd (hnarrow.symm.trans hwide) (by decide)
  · intro h value
    constructor
    · rintro ⟨json, ⟨hjson, hsurrogate⟩, hvalue⟩
      exact ⟨json, ⟨hjson, (h ⟨json, hjson⟩).trans hsurrogate⟩, hvalue⟩
    · rintro ⟨json, ⟨hjson, hwide⟩, hvalue⟩
      exact ⟨json, ⟨hjson, (h ⟨json, hjson⟩).symm.trans hwide⟩, hvalue⟩

end Conformance

/-! ## Three inputs -/

/-- An object with an array. -/
def plainInput : Bytes := literal "\x7b \"a\" : [1, true] \x7d"

/-- An object with a character that is written as a pair of escapes. -/
def pairInput : Bytes := literal "\x7b\"a\":\"\\ud83d\\ude00\"\x7d"

/-- An empty object with a vertical tab in it. -/
def tabInput : Bytes := [0x7b, 0x0b, 0x7d]

/-- A plain object conforms. -/
theorem plainInput_conforms : Conforms plainInput :=
  (conforms_iff (by decide +kernel)).mpr fun _ => by decide +kernel

lemma isObjectText_pairInput : IsObjectText rfcGrammar (kMaximumJsonDepth + 1) pairInput
      (.object [([0x61], .string [0xd83d, 0xde00])]) := by
  have hk : IsString rfcGrammar (literal "\"a\"") [0x61] :=
    ⟨by decide +kernel, literal "a",
      .char (c := 0x61) ⟨by decide +kernel, by decide +kernel, by decide +kernel, by decide⟩ .nil, rfl⟩
  have hc : Chars rfcGrammar (literal "\\ud83d\\ude00") [0xd83d, 0xde00] :=
    .unicode (by decide +kernel) (by decide +kernel) (.unicode (by decide +kernel) (by decide +kernel) .nil)
  have hv : IsString rfcGrammar (literal "\"\\ud83d\\ude00\"") [0xd83d, 0xde00] :=
    ⟨by decide +kernel, _, hc, rfl⟩
  have hm : IsMember rfcGrammar (IsValue rfcGrammar kMaximumJsonDepth)
      (literal "\"a\":\"\\ud83d\\ude00\"") ([0x61], .string [0xd83d, 0xde00]) :=
    ⟨literal "\"a\"", literal "\"\\ud83d\\ude00\"", spaced_self hk, spaced_self hv, rfl⟩
  exact ⟨⟨_, rfl⟩, spaced_self ⟨by decide +kernel, by decide +kernel, _, rfl, .inr (.single hm)⟩⟩

/-- A pair of surrogates written as escapes is refused, and a vertical tab is passed over. -/
theorem reader_differs_from_rfc : (pairInput.length ≤ kMaximumJsonBytes ∧ ¬ Conforms pairInput) ∧
      (tabInput.length ≤ kMaximumJsonBytes ∧ ¬ Conforms tabInput) := by
  refine ⟨⟨by decide +kernel, ?_⟩, ⟨by decide +kernel, ?_⟩⟩
  · intro h
    have haccepted := (h _).mpr ⟨_, isObjectText_pairInput, rfl⟩
    have hrefused : (parseJsonObject pairInput).isSome = false := by decide +kernel
    rw [haccepted] at hrefused
    cases hrefused
  · intro h
    have haccepted : parseJsonObject tabInput = some (.object []) := by rfl
    obtain ⟨json, hjson, -⟩ := (h _).mp haccepted
    exact absurd (isObjectText_rfc_iff.mp hjson).2 (by decide +kernel)

end Nstu.Web
