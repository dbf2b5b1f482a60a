import Nstu.Core.JsonGrammar
import Nstu.Core.Utf8
import Mathlib.Data.List.Forall2

/-!
# Strings between quotation marks

A JSON text has its strings where a scan from quotation mark to quotation mark finds them (`scans_value`).  So a
program that prints texts between quotation marks as they are, without escapes, prints a JSON text of them
exactly if none of them has a character that would have to be escaped (`Part.Printed.bare`,
`Part.Printed.isObjectText`), as long as a line ends behind each of them.
-/

namespace JsonText

open Wire CType Text List

/-! ## The scan -/

/-- What stands between quotation marks; the first argument is what has been read of a string, if the text begins
in one. -/
def strings : Option Bytes → Bytes → List Bytes
  | _, [] => []
  | none, byte :: rest => if byte = 0x22 then strings (some []) rest else strings none rest
  | some read, byte :: rest =>
    if byte = 0x22 then read :: strings none rest
    else if byte = 0x5c then
      match rest with
      | [] => []
      | letter :: rest => strings (some (read ++ [byte, letter])) rest
    else strings (some (read ++ [byte])) rest

mutual

/-- The strings of a value in the order of its text, keys included. -/
def valueStrings : Json → List Utf16
  | .string units => [units]
  | .array items => itemStrings items
  | .object members => memberStrings members
  | _ => []

def itemStrings : List Json → List Utf16
  | [] => []
  | item :: rest => valueStrings item ++ itemStrings rest

def memberStrings : List (Utf16 × Json) → List Utf16
  | [] => []
  | (key, value) :: rest => key :: valueStrings value ++ memberStrings rest

end

lemma itemStrings_eq (items : List Json) : itemStrings items = items.flatMap valueStrings := by
  induction items with
  | nil => rfl
  | cons item rest ih => rw [itemStrings, ih, flatMap_cons]

lemma memberStrings_eq (members : List (Utf16 × Json)) :
    memberStrings members = members.flatMap fun entry => entry.1 :: valueStrings entry.2 := by
  induction members with
  | nil => rfl
  | cons entry rest ih => rw [memberStrings, ih, flatMap_cons]

/-- A text that begins and ends outside strings has strings that denote the given ones. -/
def Scans (grammar : Grammar) (text : Bytes) (values : List Utf16) : Prop :=
  ∃ raws, List.Forall₂ (Chars grammar) raws values ∧ ∀ rest, strings none (text ++ rest) = raws ++ strings none rest

section Scans

variable {grammar : Grammar}

variable {text : Bytes}

lemma strings_outside (h : ∀ byte ∈ text, byte ≠ 0x22) (rest : Bytes) :
    strings none (text ++ rest) = strings none rest := by
  induction text with
  | nil => rfl
  | cons byte text ih =>
    rw [forall_mem_cons] at h
    rw [cons_append, strings, if_neg h.1, ih h.2]

lemma strings_inside (h : ∀ byte ∈ text, byte ≠ 0x22 ∧ byte ≠ 0x5c) (read rest : Bytes) :
    strings (some read) (text ++ rest) = strings (some (read ++ text)) rest := by
  induction text generalizing read with
  | nil => rw [nil_append, append_nil]
  | cons byte text ih =>
    rw [forall_mem_cons] at h
    rw [cons_append, strings.eq_def]
    simp only [h.1.1, h.1.2, if_false]
    rw [ih h.2, append_assoc, singleton_append]

lemma strings_escape (read rest : Bytes) (letter : UInt8) :
    strings (some read) (0x5c :: letter :: rest) = strings (some (read ++ [0x5c, letter])) rest := by
  rw [strings.eq_def]
  rfl

lemma strings_close (read rest : Bytes) : strings (some read) (0x22 :: rest) = read :: strings none rest := by
  rw [strings.eq_def]
  rfl

variable {units : Utf16}

lemma Chars.strings (h : Chars grammar text units) (read rest : Bytes) :
    strings (some read) (text ++ 0x22 :: rest) = (read ++ text) :: strings none rest := by
  induction h generalizing read with
  | nil =>
    rw [nil_append, append_nil, strings_close]
  | char hc _ ih =>
    rw [append_assoc, strings_inside (fun byte hb => (utf8Char_inside hc byte hb).2), ih, append_assoc]
  | escape _ _ ih =>
    rw [cons_append, cons_append, strings_escape, ih, append_assoc]
    rfl
  | @unicode a b c d unit text units hu _ _ ih =>
    have hd : ∀ byte ∈ [a, b, c, d], byte ≠ 0x22 ∧ byte ≠ 0x5c :=
      fun byte hb => hexDigit_ne_quote (hexDigits_of_hexUnit hu byte hb)
    have hi := strings_inside hd (read ++ [0x5c, 0x75]) (text ++ 0x22 :: rest)
    rw [cons_append, cons_append, strings_escape]
    simp only [cons_append, nil_append] at hi ⊢
    rw [hi, ih]
    simp only [append_assoc, cons_append, nil_append]

lemma strings_eq_cons {read raw : Bytes} {raws : List Bytes} (h : strings (some read) text = raw :: raws) :
    ∃ chars rest, text = chars ++ 0x22 :: rest ∧ raw = read ++ chars ∧ raws = strings none rest := by
  induction hl : text.length using Nat.strong_induction_on generalizing read text with
  | _ n ih =>
    subst hl
    cases text with
    | nil => cases h
    | cons byte text =>
      rw [strings.eq_def] at h
      dsimp only at h
      split_ifs at h with hq he
      · obtain ⟨rfl, rfl⟩ := cons.inj h
        exact ⟨[], text, by rw [hq]; rfl, by simp, rfl⟩
      · cases text with
        | nil => cases h
        | cons letter text =>
          obtain ⟨chars, rest, rfl, rfl, rfl⟩ := ih text.length (by simp only [length_cons]; omega) h rfl
          exact ⟨byte :: letter :: chars, rest, rfl, by simp, rfl⟩
      · obtain ⟨chars, rest, rfl, rfl, rfl⟩ := ih text.length (by simp) h rfl
        exact ⟨byte :: chars, rest, rfl, by simp, rfl⟩

lemma scans_outside (h : ∀ byte ∈ text, byte ≠ 0x22) : Scans grammar text [] :=
  ⟨[], .nil, fun rest => strings_outside h rest⟩

variable {values : List Utf16}

lemma Scans.append {text' : Bytes} {values' : List Utf16} (h : Scans grammar text values)
    (h' : Scans grammar text' values') : Scans grammar (text ++ text') (values ++ values') := by
  obtain ⟨raws, hr, hs⟩ := h
  obtain ⟨raws', hr', hs'⟩ := h'
  refine ⟨raws ++ raws', rel_append hr hr', fun rest => ?_⟩
  rw [append_assoc, hs, hs', append_assoc]

lemma scans_space {text : Bytes} (h : ∀ byte ∈ text, grammar.space byte) : Scans grammar text [] :=
  scans_outside fun byte hb => space_ne_quote (h byte hb)

lemma scans_chars (h : Chars grammar text units) : Scans grammar (0x22 :: (text ++ [0x22])) [units] := by
  refine ⟨[text], .cons h .nil, fun rest => ?_⟩
  rw [cons_append, append_assoc, singleton_append, strings, if_pos rfl, h.strings]
  rfl

variable {α : Type}

variable {element : Bytes → α → Prop}

lemma Spaced.scans {value : α} (he : ∀ body, element body value → Scans grammar body values)
    (h : Spaced grammar.space element text value) : Scans grammar text values := by
  obtain ⟨before, body, after, hb, ha, hbo, rfl⟩ := h
  have hal := (scans_space hb).append ((he body hbo).append (scans_space ha))
  rwa [nil_append, append_nil] at hal

variable {found : α → List Utf16}

lemma Separated.scans {values : List α} (he : ∀ body value, element body value → Scans grammar body (found value))
    (h : Separated element text values) : Scans grammar text (values.flatMap found) := by
  induction h with
  | single hv =>
    rw [flatMap_singleton]
    exact he _ _ hv
  | @cons text rest value values hv _ ih =>
    have hc : Scans grammar [0x2c] [] := scans_outside (by simp)
    exact (he _ _ hv).append (hc.append ih)

lemma Listed.scans {values : List α} (he : ∀ body value, element body value → Scans grammar body (found value))
    (h : Listed grammar.space element text values) : Scans grammar text (values.flatMap found) := by
  rcases h with ⟨rfl, hs⟩ | h
  · exact scans_space hs
  · exact h.scans he

lemma IsMember.scans {value : Bytes → Json → Prop} {entry : Utf16 × Json}
    (hv : ∀ body json, value body json → Scans grammar body (valueStrings json))
    (h : IsMember grammar value text entry) : Scans grammar text (entry.1 :: valueStrings entry.2) := by
  obtain ⟨key, rest, hk, hr, rfl⟩ := h
  have hc : Scans grammar [0x3a] [] := scans_outside (by simp)
  have hk : Scans grammar key [entry.1] := by
    refine Spaced.scans (fun body hb => ?_) hk
    obtain ⟨-, chars, hch, rfl⟩ := hb
    exact scans_chars hch
  exact hk.append (hc.append (Spaced.scans (fun body => hv body entry.2) hr))

lemma Scans.bracket {first last : UInt8} (hf : first ≠ 0x22)
    (hl : last ≠ 0x22) (h : Scans grammar text values) : Scans grammar (first :: (text ++ [last])) values := by
  have hf : Scans grammar [first] [] := scans_outside (by simpa using hf)
  have hl : Scans grammar [last] [] := scans_outside (by simpa using hl)
  have ha := hf.append (h.append hl)
  rwa [nil_append, append_nil] at ha

/-- **The strings of a value stand between quotation marks in its text**, in the same order. -/
theorem scans_value {n : ℕ} {value : Json} (h : IsValue grammar n text value) :
    Scans grammar text (valueStrings value) := by
  induction n generalizing text value with
  | zero => cases value <;> exact absurd h (by simp [IsValue])
  | succ n ih =>
    cases value with
    | null =>
      obtain rfl : text = literal "null" := h
      exact scans_outside (forall_mem_of_all (by decide +kernel))
    | boolean value =>
      obtain rfl : text = literal (if value then "true" else "false") := h
      refine scans_outside (forall_mem_of_all ?_)
      cases value <;> decide +kernel
    | number written =>
      obtain ⟨hn, -⟩ : IsNumber text ∧ _ := h
      exact scans_outside fun byte hb => (hn.isPlain byte hb).1
    | string units =>
      obtain ⟨-, chars, hc, rfl⟩ := h
      exact scans_chars hc
    | array items =>
      obtain ⟨-, body, rfl, hbo⟩ := h
      rw [valueStrings, itemStrings_eq]
      exact (hbo.scans fun body value h => Spaced.scans (fun _ h => ih h) h).bracket (by decide) (by decide)
    | object members =>
      obtain ⟨-, -, body, rfl, hbo⟩ := h
      rw [valueStrings, memberStrings_eq]
      exact (hbo.scans fun body value h => IsMember.scans (fun _ _ h => ih h) h).bracket (by decide) (by decide)

end Scans

lemma Chars.mono {grammar other : Grammar} (he : ∀ unit, grammar.escaped unit → other.escaped unit)
    {text : Bytes} {units : Utf16} (h : Chars grammar text units) : Chars other text units := by
  induction h with
  | nil => exact .nil
  | char hc _ ih => exact .char hc ih
  | escape hco _ ih => exact .escape hco ih
  | unicode hu hun _ ih => exact .unicode hu (he _ hun) ih

lemma Scans.mono {grammar other : Grammar} (he : ∀ unit, grammar.escaped unit → other.escaped unit)
    {text : Bytes} {values : List Utf16} (h : Scans grammar text values) : Scans other text values := by
  obtain ⟨raws, hr, hs⟩ := h
  exact ⟨raws, hr.imp fun _ _ hc => hc.mono he, hs⟩

/-! ## Characters that need no escape -/

/-- A byte of a string that stands for itself. -/
def IsBare (byte : UInt8) : Prop := 0x20 ≤ byte ∧ byte ≠ 0x22 ∧ byte ≠ 0x5c

instance : DecidablePred IsBare := fun byte => inferInstanceAs (Decidable (0x20 ≤ byte ∧ byte ≠ 0x22 ∧ byte ≠ 0x5c))

/-- A text that a string may have as it is. -/
def Bare (text : Bytes) : Prop := ∀ byte ∈ text, IsBare byte

instance : DecidablePred Bare := fun text => inferInstanceAs (Decidable (∀ byte ∈ text, IsBare byte))

section Bare

variable {grammar : Grammar}

lemma bare_utf8Char {c : ℕ} (h : IsUnescaped c) : Bare (utf8Char c) := fun byte hb =>
  ⟨by simpa [UInt8.le_iff_toNat_le] using (utf8Char_inside h byte hb).1, (utf8Char_inside h byte hb).2⟩

variable {unit : UInt16}

lemma bare_hexUnit {a b c d : UInt8} (h : hexUnit a b c d = some unit) : Bare [a, b, c, d] := by
  intro byte hb
  have hd := hexDigits_of_hexUnit h byte hb
  refine ⟨?_, hexDigit_ne_quote hd⟩
  rw [UInt8.le_iff_toNat_le]
  by_contra hl
  simp only [UInt8.reduceToNat, not_le] at hl
  rw [hexDigit, if_neg (by omega), if_neg (by omega), if_neg (by omega)] at hd
  contradiction

variable {text : Bytes} {units : Utf16}

lemma Chars.not_control (h : Chars grammar text units) : ∀ byte ∈ text, 0x20 ≤ byte := by
  induction h with
  | nil => simp
  | char hc _ ih =>
    rw [forall_mem_append]
    exact ⟨fun byte hb => (bare_utf8Char hc byte hb).1, ih⟩
  | @escape letter code text units hco _ ih =>
    rw [forall_mem_cons, forall_mem_cons]
    refine ⟨by decide, ?_, ih⟩
    by_contra hl
    have hn : ∀ code < 0x20, escapeCode (UInt8.ofNat code) = none := by decide +kernel
    simp only [UInt8.le_iff_toNat_le, UInt8.reduceToNat, not_le] at hl
    rw [← UInt8.ofNat_toNat (x := letter), hn letter.toNat hl] at hco
    contradiction
  | unicode hu _ _ ih =>
    have hba := bare_hexUnit hu
    simp only [Bare, forall_mem_cons] at hba ⊢
    exact ⟨by decide, by decide, hba.1.1, hba.2.1.1, hba.2.2.1.1, hba.2.2.2.1.1, ih⟩

lemma utf8_cons (h : isHighSurrogate unit = false) (units : Utf16) :
    utf8 (unit :: units) = utf8Char (loneScalar unit) ++ utf8 units := by
  cases units with
  | nil => simp [utf8, scalarValues]
  | cons low rest => simp [utf8, scalarValues, h]

lemma length_utf8Char (c : ℕ) : (utf8Char c).length ≤ 4 ∧ (c < 0x10000 → (utf8Char c).length ≤ 3) ∧
    (c < 0x80 → (utf8Char c).length ≤ 1) := by
  rw [utf8Char]
  split_ifs <;> simp <;> omega

lemma loneScalar_lt_units (unit : UInt16) : loneScalar unit < 0x10000 := by
  have := unit.toNat_lt
  rw [loneScalar]
  split <;> omega

lemma length_utf8_cons (unit : UInt16) (units : Utf16) : (utf8 (unit :: units)).length ≤ 3 + (utf8 units).length := by
  have hl := (length_utf8Char (loneScalar unit)).2.1 (loneScalar_lt_units unit)
  cases units with
  | nil =>
    simp only [utf8, scalarValues, flatMap_cons, flatMap_nil, append_nil, length_nil]
    omega
  | cons low rest =>
    by_cases hp : (isHighSurrogate unit && isLowSurrogate low)
    · -- the pair takes four bytes, and the low surrogate alone three
      have hlo : isHighSurrogate low = false := by
        simp only [isLowSurrogate, isHighSurrogate, Bool.and_eq_true, Bool.and_eq_false_iff, decide_eq_true_eq,
          decide_eq_false_iff_not, UInt16.le_iff_toNat_le, UInt16.reduceToNat] at hp ⊢
        omega
      have hs : loneScalar low = 0xFFFD := by
        rw [Bool.and_eq_true] at hp
        rw [loneScalar, isSurrogate, hp.2, Bool.or_true, if_pos rfl]
      have hf := (length_utf8Char (surrogatePair unit low)).1
      rw [utf8_cons hlo, hs]
      simp only [utf8, scalarValues, hp, if_true, flatMap_cons, length_append]
      have ht : (utf8Char 0xFFFD).length = 3 := by decide
      omega
    · simp only [utf8, scalarValues, hp, if_false, Bool.false_eq_true, flatMap_cons, length_append]
      omega

lemma length_utf8_escape {letter code : UInt8} (h : escapeCode letter = some code) (units : Utf16) :
    (utf8 (UInt16.ofNat code.toNat :: units)).length ≤ 1 + (utf8 units).length := by
  have ha : code.toNat < 0x80 := by
    have hal : ∀ n < 0x100, (escapeCode (UInt8.ofNat n)).all (fun code => code.toNat < 0x80) := by
      decide +kernel
    have hc := hal letter.toNat letter.toNat_lt
    rw [UInt8.ofNat_toNat, h] at hc
    simpa using hc
  have hu : (UInt16.ofNat code.toNat).toNat = code.toNat := unit_ofNat (by omega)
  obtain ⟨hh, hs⟩ := @isSurrogate_of_ascii (UInt16.ofNat code.toNat) (by omega)
  have ho := (length_utf8Char code.toNat).2.2 ha
  rw [utf8_cons hh, loneScalar, hs, if_neg Bool.false_ne_true, hu, length_append]
  omega

lemma Chars.length (h : Chars grammar text units) :
    (utf8 units).length < text.length ∨ (text = utf8 units ∧ Bare text) := by
  induction h with
  | nil => exact .inr ⟨rfl, by simp [Bare]⟩
  | @char c text units hc _ ih =>
    rw [utf8_scalarUnits hc.1]
    rcases ih with hl | ⟨rfl, hb⟩
    · left
      rw [length_append, length_append]
      omega
    · exact .inr ⟨rfl, forall_mem_append.mpr ⟨bare_utf8Char hc, hb⟩⟩
  | @escape letter code text units hco _ ih =>
    have ho := length_utf8_escape hco units
    left
    rw [length_cons, length_cons]
    rcases ih with hl | ⟨rfl, -⟩
    · omega
    · omega
  | @unicode a b c d unit text units _ _ _ ih =>
    have ht := length_utf8_cons unit units
    left
    simp only [length_cons]
    rcases ih with hl | ⟨rfl, -⟩
    · omega
    · omega

lemma chars_of_bare (hbare : Bare text) (h : ofUtf8 text = some units) : Chars grammar text units := by
  induction hleng : text.length using Nat.strong_induction_on generalizing text units with
  | _ n ih =>
    subst hleng
    rcases ofUtf8_eq_some h with ⟨rfl, rfl⟩ | ⟨c, rest, units', hscal, rfl, hrest, rfl⟩
    · exact .nil
    · obtain ⟨hchar, hbare⟩ := forall_mem_append.mp hbare
      have hpos := length_pos_of_ne_nil (utf8Char_ne_nil c)
      refine .char ⟨hscal, ?_⟩ (ih rest.length (by rw [length_append]; omega) hbare hrest rfl)
      by_cases hascii : c < 0x80
      · rw [utf8Char, if_pos hascii] at hchar
        obtain ⟨hle, hquote, hesca⟩ := hchar _ (mem_singleton_self _)
        rw [UInt8.le_iff_toNat_le, toNat_ofNat_byte (by omega)] at hle
        exact ⟨hle, fun hc => hquote (by rw [hc]; rfl), fun hc => hesca (by rw [hc]; rfl)⟩
      · omega

/-- The end of a line, with or without a comma. -/
def Closes (text : Bytes) : Prop := ∃ rest, text = 0x0a :: rest ∨ text = 0x2c :: 0x0a :: rest

/-- **A text between quotation marks that is read back has nothing to escape**, if the line ends behind it. -/
lemma bare_of_chars {chars rest behind : Bytes} (hchars : Chars grammar chars units)
    (hunits : utf8 units = text) (hbehi : Closes behind) (h : chars ++ 0x22 :: rest = text ++ 0x22 :: behind) :
    Bare text ∧ rest = behind := by
  subst hunits
  rcases hchars.length with hlong | ⟨rfl, hbare⟩
  · -- the string would go on behind its line, with a control character in it
    exfalso
    obtain ⟨chars', rfl⟩ : ∃ chars', chars = utf8 units ++ 0x22 :: chars' := by
      rw [append_eq_append_iff] at h
      rcases h with ⟨middle, hunits, -⟩ | ⟨middle, rfl, hmidd⟩
      · rw [hunits, length_append] at hlong
        omega
      · cases middle with
        | nil => simp at hlong
        | cons byte middle =>
          obtain ⟨rfl, -⟩ := cons.inj hmidd
          exact ⟨middle, rfl⟩
    rw [append_assoc, cons_append, append_cancel_left_eq] at h
    have hcont : ∀ byte ∈ chars', 0x20 ≤ byte := fun byte hbyte => hchars.not_control byte (by simp [hbyte])
    have hbehi' := (cons.inj h).2
    obtain ⟨tail, rfl | rfl⟩ := hbehi
    · cases chars' with
      | nil => simp at hbehi'
      | cons byte chars' =>
        obtain ⟨rfl, -⟩ := cons.inj hbehi'
        exact absurd (hcont _ (mem_cons_self)) (by decide)
    · cases chars' with
      | nil => simp at hbehi'
      | cons byte chars' =>
        obtain ⟨-, hbehi'⟩ := cons.inj hbehi'
        cases chars' with
        | nil => simp at hbehi'
        | cons byte' chars' =>
          obtain ⟨rfl, -⟩ := cons.inj hbehi'
          exact absurd (hcont 0x0a (by simp)) (by decide)
  · rw [append_cancel_left_eq] at h
    exact ⟨hbare, (cons.inj h).2⟩

end Bare

/-! ## Texts printed as they are -/

/-- In a text behind which the line ends, the given fields stand between quotation marks; if its strings are read
back as the given ones, no field has anything to escape. -/
def Fills (grammar : Grammar) (text : Bytes) (values : List Utf16) (fields : List Bytes) : Prop :=
  ∀ rest others, Closes rest → List.Forall₂ (Chars grammar) (strings none (text ++ rest)) (values ++ others) →
    (∀ field ∈ fields, Bare field) ∧ List.Forall₂ (Chars grammar) (strings none rest) others

section Fills

variable {grammar : Grammar}

variable {text : Bytes} {values : List Utf16}

lemma Scans.forall₂ {rest : Bytes} {others : List Utf16} (h : Scans grammar text values)
    (ha : List.Forall₂ (Chars grammar) (strings none (text ++ rest)) (values ++ others)) :
    List.Forall₂ (Chars grammar) (strings none rest) others := by
  obtain ⟨raws, hr, hs⟩ := h
  rw [hs] at ha
  have hre := forall₂_drop_append _ _ _ ha
  rwa [← hr.length_eq, drop_left] at hre

lemma Scans.fills (h : Scans grammar text values) : Fills grammar text values [] :=
  fun _ _ _ ha => ⟨by simp, h.forall₂ ha⟩

variable {fields : List Bytes}

lemma Fills.prepend {front : Bytes} {keys : List Utf16}
    (hf : Scans grammar front keys) (h : Fills grammar text values fields) :
    Fills grammar (front ++ text) (keys ++ values) fields := by
  intro rest others hr ha
  rw [append_assoc, append_assoc] at ha
  exact h rest others hr (hf.forall₂ ha)

lemma Fills.append {text' : Bytes} {values' : List Utf16} {fields' : List Bytes}
    (h : Fills grammar text values fields) (h' : Fills grammar text' values' fields')
    (hc : ∀ rest, Closes rest → Closes (text' ++ rest)) :
    Fills grammar (text ++ text') (values ++ values') (fields ++ fields') := by
  intro rest others hr ha
  rw [append_assoc, append_assoc] at ha
  obtain ⟨hf, ha⟩ := h (text' ++ rest) (values' ++ others) (hc rest hr) ha
  obtain ⟨hf', ha⟩ := h' rest others hr ha
  exact ⟨fun field hfi => (mem_append.mp hfi).elim (hf field) (hf' field), ha⟩

lemma fills_field {units : Utf16} (hu : utf8 units = text) :
    Fills grammar (0x22 :: (text ++ [0x22])) [units] [text] := by
  intro rest others hr ha
  rw [cons_append, append_assoc, singleton_append, strings, if_pos rfl, singleton_append] at ha
  obtain ⟨raw, raws, hra, hraws, hf⟩ := forall₂_cons_right_iff.mp ha
  obtain ⟨chars, rest', ht, rfl, rfl⟩ := strings_eq_cons hf
  obtain ⟨hb, rfl⟩ := bare_of_chars hra hu hr ht.symm
  exact ⟨by simpa using hb, hraws⟩

end Fills

/-- Texts with commas between them. -/
def commas : List Bytes → Bytes
  | [] => []
  | [text] => text
  | text :: rest => text ++ 0x2c :: commas rest

/-- A piece of a text, the value that it is to denote, and the fields that it has between quotation marks. -/
structure Part where
  text : Bytes
  value : Json
  fields : List Bytes

/-- The fields are where they may be strings, and if they have nothing to escape, the text has the value. -/
structure Part.Printed (grammar : Grammar) (n : ℕ) (part : Part) : Prop where
  fills : Fills grammar part.text (valueStrings part.value) part.fields
  derives : (∀ field ∈ part.fields, Bare field ∧ field.length ≤ grammar.stringBytes) →
    IsValue grammar n part.text part.value

variable {part : Part}

/-- **What is printed has nothing to escape** if its strings are read back, with a line feed behind it. -/
lemma Part.Printed.bare {grammar : Grammar} {n : ℕ} (h : part.Printed grammar n)
    (hs : Scans grammar (part.text ++ [0x0a]) (valueStrings part.value)) : ∀ field ∈ part.fields, Bare field := by
  obtain ⟨raws, hr, hsc⟩ := hs
  refine (h.fills [0x0a] [] ⟨[], .inl rfl⟩ ?_).1
  have ha := hsc []
  rw [append_nil] at ha
  rw [ha, strings, append_nil, append_nil]
  exact hr

/-- **What has nothing to escape is printed as its value**, with a line feed behind it. -/
lemma Part.Printed.isObjectText {grammar : Grammar} {n : ℕ} (h : part.Printed grammar n)
    {members : List (Utf16 × Json)} (hv : part.value = .object members)
    (hf : ∀ field ∈ part.fields, Bare field ∧ field.length ≤ grammar.stringBytes) :
    IsObjectText grammar n (part.text ++ [0x0a]) part.value :=
  ⟨⟨members, hv⟩, [], part.text, [0x0a], by simp, by simp [Grammar.space, isSpace], h.derives hf, rfl⟩

/-- A field. -/
def fieldPart (text : Bytes) : Part where
  text := 0x22 :: (text ++ [0x22])
  value := .string ((ofUtf8 text).getD [])
  fields := [text]

/-- A text without strings. -/
def plainPart (text : Bytes) (value : Json) : Part := ⟨text, value, []⟩

def memberText (name : String) (value : Bytes) : Bytes := 0x22 :: (literal name ++ 0x22 :: 0x3a :: 0x20 :: value)

/-- An object whose members stand in lines of their own. -/
def objectPart (indent behind : Bytes) (entries : List (String × Part)) : Part where
  text := 0x7b :: (commas (entries.map fun entry => 0x0a :: (indent ++ memberText entry.1 entry.2.text)) ++
    0x0a :: behind ++ [0x7d])
  value := .object (entries.map fun entry => (ascii entry.1, entry.2.value))
  fields := entries.flatMap fun entry => entry.2.fields

/-- An array whose items stand in lines of their own. -/
def arrayPart (indent behind : Bytes) (parts : List Part) : Part where
  text := 0x5b :: (commas (parts.map fun part => 0x0a :: (indent ++ part.text)) ++ 0x0a :: behind ++ [0x5d])
  value := .array (parts.map Part.value)
  fields := parts.flatMap Part.fields

/-- The characters of a name need no escape. -/
def isName (name : String) : Bool :=
  name.toList.all fun c => 0x20 ≤ c.toNat && c.toNat < 0x80 && c.toNat ≠ 0x22 && c.toNat ≠ 0x5c

section Printed

variable {grammar : Grammar} {n : ℕ}

variable {name : String}

lemma chars_name (h : isName name) : Chars grammar (literal name) (ascii name) := by
  rw [isName] at h
  rw [literal, ascii]
  generalize name.toList = characters at h
  induction characters with
  | nil => exact .nil
  | cons c characters ih =>
    simp only [all_cons, Bool.and_eq_true, decide_eq_true_eq] at h
    obtain ⟨⟨⟨⟨hl, ha⟩, hq⟩, he⟩, hr⟩ := h
    have hs : isScalar c.toNat := by
      simp only [isScalar, Bool.or_eq_true, decide_eq_true_eq]
      omega
    have hal := @Chars.char grammar _ _ _ ⟨hs, hl, hq, he⟩ (ih hr)
    rwa [utf8Char, if_pos ha, scalarUnits, if_pos (by omega)] at hal

lemma scans_comma : Scans grammar [0x2c] [] := scans_outside (by simp)

lemma fills_commas {α : Type} {text : α → Bytes} {values : α → List Utf16} {fields : α → List Bytes} {items : List α}
    (h : ∀ item ∈ items, Fills grammar (0x0a :: text item) (values item) (fields item)) :
    Fills grammar (commas (items.map fun item => 0x0a :: text item)) (items.flatMap values) (items.flatMap fields) := by
  induction items with
  | nil => exact fun rest others _ ha => ⟨by simp, ha⟩
  | cons item items ih =>
    rw [forall_mem_cons] at h
    cases items with
    | nil => simpa [commas] using h.1
    | cons item' items =>
      refine Fills.append h.1 (Fills.prepend scans_comma (ih h.2)) ?_
      -- behind the comma the next line begins
      intro rest _
      cases items with
      | nil => exact ⟨text item' ++ rest, .inr rfl⟩
      | cons item'' items =>
        exact ⟨_, .inr (by simp only [commas, map_cons, cons_append]; rfl)⟩

lemma separated_commas {α β : Type} {element : Bytes → β → Prop} {text : α → Bytes} {value : α → β} {items : List α}
    (hn : items ≠ []) (h : ∀ item ∈ items, element (text item) (value item)) :
    Separated element (commas (items.map text)) (items.map value) := by
  induction items with
  | nil => exact absurd rfl hn
  | cons item items ih =>
    rw [forall_mem_cons] at h
    cases items with
    | nil => exact .single h.1
    | cons item' items => exact .cons h.1 (ih (by simp) h.2)

lemma separated_behind {α : Type} {element : Bytes → α → Prop} {text behind : Bytes} {values : List α}
    (he : ∀ text value, element text value → element (text ++ behind) value) (h : Separated element text values) :
    Separated element (text ++ behind) values := by
  induction h with
  | single hv => exact .single (he _ _ hv)
  | cons hv _ ih =>
    rw [append_assoc, cons_append]
    exact .cons hv ih

lemma Spaced.behind {α : Type} {element : Bytes → α → Prop} {text behind : Bytes} {value : α}
    (hb : ∀ byte ∈ behind, grammar.space byte) (h : Spaced grammar.space element text value) :
    Spaced grammar.space element (text ++ behind) value := by
  obtain ⟨before, body, after, hbe, ha, hbo, rfl⟩ := h
  exact ⟨before, body, after ++ behind, hbe, forall_mem_append.mpr ⟨ha, hb⟩, hbo, by simp⟩

/-- The white space of lines. -/
def IsIndent (text : Bytes) : Prop := ∀ byte ∈ text, byte = 0x20

instance : DecidablePred IsIndent := fun text => inferInstanceAs (Decidable (∀ byte ∈ text, byte = 0x20))

lemma IsIndent.space {text : Bytes} (h : IsIndent text) : ∀ byte ∈ 0x0a :: text, grammar.space byte := by
  rw [forall_mem_cons]
  refine ⟨rfl, fun byte hb => ?_⟩
  rw [h byte hb]
  rfl

variable {text : Bytes}

lemma printed_field (h : (ofUtf8 text).isSome) : (fieldPart text).Printed grammar (n + 1) := by
  obtain ⟨units, hu⟩ := Option.isSome_iff_exists.mp h
  constructor
  · rw [fieldPart, hu, Option.getD_some, valueStrings]
    exact fills_field (utf8_of_ofUtf8 hu)
  · intro hf
    obtain ⟨hb, hl⟩ := hf text (mem_singleton_self _)
    change IsString grammar _ _
    rw [fieldPart, hu, Option.getD_some]
    exact ⟨by rwa [utf8_of_ofUtf8 hu], text, chars_of_bare hb hu, rfl⟩

lemma printed_plain {value : Json} (h : IsValue grammar n text value) : (plainPart text value).Printed grammar n :=
  ⟨(scans_value h).fills, fun _ => h⟩

lemma printed_boolean (value : Bool) :
    (plainPart (literal (if value then "true" else "false")) (.boolean value)).Printed grammar (n + 1) :=
  printed_plain rfl

lemma printed_number (h : IsNumber text) :
    (plainPart text (.number (text.map fun byte => UInt16.ofNat byte.toNat))).Printed grammar (n + 1) :=
  printed_plain ⟨h, rfl⟩

lemma fills_member {indent : Bytes} (hi : IsIndent indent) (hn : isName name)
    {part : Part} (h : part.Printed grammar n) :
    Fills grammar (0x0a :: (indent ++ memberText name part.text)) (ascii name :: valueStrings part.value)
      part.fields := by
  have hk : Scans grammar (0x22 :: (literal name ++ [0x22])) [ascii name] := scans_chars (chars_name hn)
  have hc : Scans grammar [0x3a, 0x20] [] := scans_outside (by simp)
  have ha := Fills.prepend ((scans_space hi.space).append (hk.append hc)) h.fills
  simpa [memberText] using ha

lemma fills_behind {behind : Bytes} {last : UInt8} {values : List Utf16} {fields : List Bytes}
    (hb : IsIndent behind) (hl : last ≠ 0x22) (h : Fills grammar text values fields) :
    Fills grammar (text ++ 0x0a :: behind ++ [last]) values fields := by
  have he : Scans grammar (0x0a :: behind ++ [last]) [] := by
    refine scans_outside ?_
    rw [forall_mem_append]
    exact ⟨fun byte hby => space_ne_quote (@IsIndent.space grammar _ hb byte hby), by simpa using hl⟩
  have ha := h.append he.fills fun rest _ => ⟨_, .inl rfl⟩
  simpa using ha

/-- **An object in lines.** -/
lemma printed_object {indent behind : Bytes} (hinde : IsIndent indent) (hbehi : IsIndent behind)
    {entries : List (String × Part)} {names : List String} (hentr : entries.map Prod.fst = names)
    (hne : names ≠ []) (hnames : names.all (fun name => isName name && (utf8 (ascii name)).length ≤ 32))
    (hkeys : (names.map ascii).Nodup) (hmemb : names.length ≤ grammar.members)
    (hleng : 32 ≤ grammar.stringBytes) (hparts : ∀ entry ∈ entries, entry.2.Printed grammar n) :
    (objectPart indent behind entries).Printed grammar (n + 1) := by
  subst hentr
  rw [map_map] at hkeys
  have hnames : ∀ entry ∈ entries, isName entry.1 ∧ (utf8 (ascii entry.1)).length ≤ grammar.stringBytes := by
    intro entry hentry
    have hname := all_eq_true.mp hnames entry.1 (mem_map_of_mem hentry)
    rw [Bool.and_eq_true, decide_eq_true_eq] at hname
    exact ⟨hname.1, hname.2.trans hleng⟩
  have hne : entries ≠ [] := by simpa using hne
  constructor
  · rw [objectPart, valueStrings, memberStrings_eq, flatMap_map]
    have hopen : Scans grammar [0x7b] [] := scans_outside (by simp)
    refine Fills.prepend hopen (fills_behind hbehi (by decide) (fills_commas fun entry hentry => ?_))
    exact fills_member hinde (hnames entry hentry).1 (hparts entry hentry)
  · intro hfiel
    refine ⟨by simpa using hmemb, by rw [map_map]; exact hkeys, _, rfl, .inr ?_⟩
    refine separated_behind ?_ (separated_commas hne fun entry hentry => ?_)
    · rintro text entry ⟨key, value, hkey, hvalue, rfl⟩
      exact ⟨key, value ++ 0x0a :: behind, hkey, hvalue.behind hbehi.space, by simp⟩
    · refine ⟨0x0a :: (indent ++ 0x22 :: (literal entry.1 ++ [0x22])), 0x20 :: entry.2.text, ?_, ?_, ?_⟩
      · refine ⟨0x0a :: indent, 0x22 :: (literal entry.1 ++ [0x22]), [], hinde.space, by simp, ?_, by simp⟩
        exact ⟨(hnames entry hentry).2, literal entry.1, chars_name (hnames entry hentry).1, rfl⟩
      · refine ⟨[0x20], entry.2.text, [], ?_, by simp, (hparts entry hentry).derives ?_, by simp⟩
        · rw [forall_mem_singleton]
          rfl
        · exact fun field hfield => hfiel field (mem_flatMap.mpr ⟨entry, hentry, hfield⟩)
      · simp [memberText]

/-- **An array in lines.** -/
lemma printed_array {indent behind : Bytes} (hinde : IsIndent indent) (hbehi : IsIndent behind)
    {parts : List Part} (hmemb : parts.length ≤ grammar.members) (hparts : ∀ part ∈ parts, part.Printed grammar n) :
    (arrayPart indent behind parts).Printed grammar (n + 1) := by
  constructor
  · rw [arrayPart, valueStrings, itemStrings_eq, flatMap_map]
    have hopen : Scans grammar [0x5b] [] := scans_outside (by simp)
    refine Fills.prepend hopen (fills_behind hbehi (by decide) (fills_commas fun part hpart => ?_))
    have hall := Fills.prepend (@scans_space grammar _ hinde.space) (hparts part hpart).fills
    simpa using hall
  · intro hfiel
    refine ⟨by simpa [arrayPart] using hmemb, _, rfl, ?_⟩
    by_cases hne : parts = []
    · subst hne
      exact .inl ⟨rfl, by simpa [commas] using hbehi.space⟩
    · refine .inr (separated_behind (fun _ _ h => Spaced.behind hbehi.space h) (separated_commas hne fun part hpart => ?_))
      refine ⟨0x0a :: indent, part.text, [], hinde.space, by simp, (hparts part hpart).derives ?_, by simp⟩
      exact fun field hfield => hfiel field (mem_flatMap.mpr ⟨part, hpart, hfield⟩)

end Printed

end JsonText
