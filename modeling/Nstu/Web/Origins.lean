import Mathlib.Data.List.Destutter
import Mathlib.Data.List.Sort
import Nstu.Web.Studio

/-!
# Origins on both sides

`validateOrigin` of `exam/studio/studio.js` decides in code units whether a teacher may enter an origin;
`parse_origin_hostname` of `exam_lockdown_controller.cpp` takes its host out of the bytes, for
`resolve_allowed_origins`.

On printable ASCII the two do the same work in different primitives, and each step of the one is that of
the other (`validateOrigin_widened`).  They differ at an origin that begins with `//`, which only the host
takes, and the studio does not look at the characters behind the host.
-/

namespace Nstu.Web

open Wire CType Text JsonText Studio List
open Bool (not_eq_true not_eq_true' and_eq_true)

lemma printable_of_parseOriginHostname {origin : Bytes} (h : (parseOriginHostname origin).isSome) :
    origin.isEmpty = false ∧ origin.length ≤ 253 ∧ ∀ byte ∈ origin, isPrintable byte := by
  rw [parseOriginHostname] at h
  split_ifs at h with hs hp
  · cases h
  · cases h
  · cases h
  · simp only [Bool.or_eq_true, decide_eq_true_eq, not_or, not_eq_true, not_lt] at hs
    simp only [not_eq_true', Bool.not_eq_false, all_eq_true] at hp
    exact ⟨hs.1, hs.2, hp⟩

variable {origin : Utf16}

lemma origin_ascii (h : (parseOriginHostname (utf8 origin)).isSome) : ∀ unit ∈ origin, unit.toNat < 0x80 := by
  refine ascii_of_utf8 fun byte hb => ?_
  have hp := (printable_of_parseOriginHostname h).2.2 byte hb
  simp only [isPrintable, and_eq_true, decide_eq_true_eq, UInt8.lt_iff_toNat_lt, UInt8.reduceToNat] at hp
  omega

/-! ## Lists under an injective map -/

section Maps

variable {α β : Type} [DecidableEq α] [DecidableEq β] {f : α → β}

lemma beq_map (hf : Function.Injective f) (xs ys : List α) : (xs.map f == ys.map f) = (xs == ys) := by
  rw [Bool.eq_iff_iff, beq_iff_eq, beq_iff_eq, (map_injective_iff.mpr hf).eq_iff]

lemma isPrefixOf_map (hf : Function.Injective f) (xs ys : List α) :
    (xs.map f).isPrefixOf (ys.map f) = xs.isPrefixOf ys := by
  rw [Bool.eq_iff_iff, isPrefixOf_iff_prefix, isPrefixOf_iff_prefix]
  exact prefix_map_iff_of_injective hf

omit [DecidableEq α] [DecidableEq β] in
lemma tails_any_map (xs : List α) (p : List β → Bool) :
    (xs.map f).tails.any p = xs.tails.any fun ys => p (ys.map f) := by
  induction xs with
  | nil => rfl
  | cons x xs ih => simp [ih]

lemma cutLast_map (hf : Function.Injective f) (mark : α) (xs : List α) : cutLast (f mark) (xs.map f) =
      (cutLast mark xs).map fun (before, behind) => (before.map f, behind.map f) := by
  induction xs with
  | nil => rfl
  | cons x xs ih =>
    rw [map_cons, cutLast, cutLast, ih]
    cases cutLast mark xs with
    | some parts => rfl
    | none =>
      simp only [Option.map_none, hf.eq_iff]
      split <;> rfl

lemma splitOn_map (hf : Function.Injective f) (mark : α) (xs : List α) :
    (xs.map f).splitOn (f mark) = (xs.splitOn mark).map (map f) := by
  induction xs with
  | nil => rfl
  | cons x xs ih =>
    rw [splitOn_eq_splitOnP, splitOn_eq_splitOnP] at ih ⊢
    rw [map_cons, splitOnP_cons_eq_if_modifyHead, splitOnP_cons_eq_if_modifyHead, ih]
    have hm : (f x == f mark) = (x == mark) := by
      rw [Bool.eq_iff_iff, beq_iff_eq, beq_iff_eq, hf.eq_iff]
    rw [hm]
    split
    · rfl
    · cases xs.splitOnP (· == mark) <;> rfl

end Maps

/-! ## Characters -/

/-- The code unit of an ASCII character. -/
def widen (byte : UInt8) : UInt16 := UInt16.ofNat byte.toNat

lemma toNat_widen (byte : UInt8) : (widen byte).toNat = byte.toNat := by
  have hl := byte.toNat_lt
  exact unit_ofNat (by omega)

lemma widen_injective : Function.Injective widen := by
  intro a b h
  rw [← UInt8.toNat_inj, ← toNat_widen, h, toNat_widen]

lemma forall_byte {P : UInt8 → Prop} (h : ∀ n : Fin 256, P (UInt8.ofFin n)) (byte : UInt8) : P byte :=
  h byte.toFin

/-- The tests for characters of the studio are those of the host. -/
lemma unit_widen (byte : UInt8) : endsHostUnit (widen byte) = endsHost byte ∧
    isDecimalDigit (widen byte) = isDigit byte ∧
    (isLetter (widen byte) || isDecimalDigit (widen byte) || widen byte == 0x2d) = isLabelCharacter byte ∧
    (if 0x41 ≤ widen byte && widen byte ≤ 0x5a then widen byte + 0x20 else widen byte) = widen (lower byte) := by
  revert byte
  exact forall_byte (by decide +kernel)

lemma endsHostUnit_widen (byte : UInt8) : endsHostUnit (widen byte) = endsHost byte := (unit_widen byte).1

lemma isDecimalDigit_widen (byte : UInt8) : isDecimalDigit (widen byte) = isDigit byte := (unit_widen byte).2.1

lemma isLabelUnit_widen (byte : UInt8) :
    (isLetter (widen byte) || isDecimalDigit (widen byte) || widen byte == 0x2d) = isLabelCharacter byte :=
  (unit_widen byte).2.2.1

lemma lower_widen (byte : UInt8) :
    (if 0x41 ≤ widen byte && widen byte ≤ 0x5a then widen byte + 0x20 else widen byte) = widen (lower byte) :=
  (unit_widen byte).2.2.2

/-! ## The steps -/

lemma startsWithFolded_widen {start : String} (hf : (literal start).map lower = literal start)
    (hs : ascii start = (literal start).map widen) (bytes : Bytes) :
    startsWithFolded (bytes.map widen) start = startsWithCaseInsensitive bytes start := by
  rw [startsWithFolded, startsWithCaseInsensitive, hf, hs, length_map, ← map_take, map_map]
  have hc : (fun unit => if 0x41 ≤ unit && unit ≤ 0x5a then unit + 0x20 else unit) ∘ widen =
      widen ∘ lower := funext lower_widen
  rw [hc, ← map_map, beq_map widen_injective]

lemma includes_widen {needle : String} (hn : ascii needle = (literal needle).map widen) (bytes : Bytes) :
    includes (bytes.map widen) needle = contains bytes needle := by
  rw [includes, contains, tails_any_map]
  refine congrArg (any bytes.tails) (funext fun suffix => ?_)
  rw [hn, isPrefixOf_map widen_injective, startsWith]

variable {bytes : Bytes}

lemma schemeRemoved_widen (h : startsWith bytes "//" = false) :
    schemeRemoved (bytes.map widen) = (withoutScheme bytes).map (map widen) := by
  have hs : ((literal "https://").map lower = literal "https://" ∧ ascii "https://" = (literal "https://").map widen) ∧
      ((literal "http://").map lower = literal "http://" ∧ ascii "http://" = (literal "http://").map widen) ∧
      ascii "://" = (literal "://").map widen := by decide
  rw [schemeRemoved, withoutScheme, startsWithFolded_widen hs.1.1 hs.1.2,
    startsWithFolded_widen hs.2.1.1 hs.2.1.2, includes_widen hs.2.2, h]
  simp only [Bool.false_eq_true, if_false]
  split_ifs <;> simp

lemma isPort_widen (port : Bytes) : isPort (port.map widen) = validPort port := by
  have hc : (port.map widen).map UInt16.toNat = port.map UInt8.toNat := by
    rw [map_map]
    exact congrArg (map · port) (funext toNat_widen)
  have hd : (port.map widen).all isDecimalDigit = port.all isDigit := by
    rw [all_map]
    exact congrArg (all port) (funext isDecimalDigit_widen)
  rw [isPort, validPort, hc, hd, length_map]
  cases hv : decimalValue (port.map UInt8.toNat) with
  | none =>
    rw [Bool.and_false]
    split <;> rfl
  | some value =>
    have hp : port.isEmpty = false ∧ port.all isDigit := by
      rw [decimalValue] at hv
      split at hv
      · contradiction
      · rename_i hc
        rw [Bool.or_eq_true, not_or, not_eq_true, not_eq_true, any_map, isEmpty_map] at hc
        refine ⟨hc.1, all_eq_true.mpr fun byte hb => ?_⟩
        have hdi := any_eq_false.mp hc.2 byte hb
        simp only [Function.comp_apply, Bool.or_eq_true, decide_eq_true_eq, not_or, not_lt] at hdi
        simp only [isDigit, and_eq_true, decide_eq_true_eq, UInt8.le_iff_toNat_le]
        exact hdi
    have hpo : 1 ≤ port.length := by
      rw [Nat.one_le_iff_ne_zero, ne_eq, List.length_eq_zero_iff, ← List.isEmpty_iff, hp.1]
      decide
    rw [hp.1, hp.2, Bool.false_or, decide_eq_true hpo, Bool.true_and, Bool.and_true]
    by_cases hl : port.length ≤ 5
    · simp [hl]
    · simp [hl, Nat.not_le.mp hl]

lemma portRemoved_widen (host : Bytes) : portRemoved (host.map widen) = (withoutPort host).map (map widen) := by
  have hc := cutLast_map widen_injective 0x3a host
  rw [portRemoved, withoutPort]
  change cutLast 0x3a (host.map widen) = _ at hc
  rw [hc]
  cases cutLast 0x3a host with
  | none => rfl
  | some parts =>
    simp only [Option.map_some, isPort_widen]
    split <;> rfl

lemma isLabel_widen (label : Bytes) : isLabel (label.map widen) = validLabel label := by
  have he : ∀ end_ : Option UInt8, (end_.map widen != some 0x2d) = (end_ != some 0x2d) := by
    intro end_
    cases end_ with
    | none => rfl
    | some byte =>
      revert byte
      exact forall_byte (by decide +kernel)
  have ha : (label.map widen).all (fun unit => isLetter unit || isDecimalDigit unit || unit == 0x2d) =
      label.all isLabelCharacter := by
    rw [all_map]
    exact congrArg (all label) (funext isLabelUnit_widen)
  rw [isLabel, validLabel, ha, head?_map, getLast?_map, he, he, length_map, isEmpty_map]
  by_cases hl : label.length ≤ 63
  · simp only [hl, Nat.not_lt.mpr hl, decide_true, decide_false, Bool.or_false, Bool.and_true]
    ac_rfl
  · simp [hl, Nat.not_le.mp hl]

lemma validHostname_eq (host : Bytes) : validHostname host =
    (!host.isEmpty && decide (host.length ≤ 253) && (host.splitOn 0x2e).all validLabel) := by
  have hp : (host.splitOn 0x2e).all validLabel →
      (host.head? == some 0x2e || host.getLast? == some 0x2e) = false := by
    intro hl
    rw [all_eq_true] at hl
    have he : [] ∉ host.splitOn 0x2e := fun hm => absurd (hl [] hm) (by decide)
    rw [Bool.or_eq_false_iff, beq_eq_false_iff_ne, beq_eq_false_iff_ne]
    constructor
    · intro hh
      obtain ⟨rest, rfl⟩ := head?_eq_some_iff.mp hh
      refine he ?_
      rw [splitOn_eq_splitOnP, splitOnP_cons_eq_if_modifyHead, if_pos (by rfl)]
      exact mem_cons_self
    · intro hla
      obtain ⟨before, rfl⟩ := getLast?_eq_some_iff.mp hla
      refine he ?_
      rw [splitOn_eq_splitOnP, splitOnP_append_cons before [] (by rfl)]
      exact mem_append_right _ mem_cons_self
  rw [validHostname]
  cases hl : (host.splitOn 0x2e).all validLabel with
  | false => simp
  | true =>
    rw [hp hl]
    by_cases hle : host.length ≤ 253
    · simp [hle, Nat.not_lt.mpr hle]
    · simp [hle, Nat.not_le.mp hle]

/-! ## Both functions -/

/-- The host that `validateOrigin` ends with. -/
def originHost (origin : Utf16) : Option Utf16 :=
  (schemeRemoved origin).bind fun host => portRemoved (host.takeWhile (! endsHostUnit ·))

/-- The host that `parse_origin_hostname` checks in the end. -/
def checkedHost (origin : Bytes) : Option Bytes :=
  (withoutScheme origin).bind fun host => withoutPort (host.takeWhile (! endsHost ·))

lemma originHost_widen (h : startsWith bytes "//" = false) :
    originHost (bytes.map widen) = (checkedHost bytes).map (map widen) := by
  have he : (! endsHostUnit ·) ∘ widen = (! endsHost ·) :=
    funext fun byte => congrArg not (endsHostUnit_widen byte)
  rw [originHost, checkedHost, schemeRemoved_widen h]
  cases withoutScheme bytes with
  | none => rfl
  | some host =>
    rw [Option.map_some, Option.bind_some, Option.bind_some, takeWhile_map, he, portRemoved_widen]

lemma validateOrigin_eq (origin : Utf16) : validateOrigin origin =
    (!(origin.length < 1 || origin.length > 253) && !origin.contains 0x40 && (originHost origin).any fun host =>
        !host.isEmpty && decide (host.length ≤ 253) && (host.splitOn 0x2e).all isLabel) := by
  rw [validateOrigin, originHost]
  split_ifs with hl ha
  · rw [hl]
    rfl
  · rw [ha, Bool.not_true, Bool.and_false, Bool.false_and]
  · rw [not_eq_true] at hl ha
    rw [hl, ha]
    cases schemeRemoved origin with
    | none => rfl
    | some host =>
      simp only [Option.bind_some, Bool.not_false, Bool.true_and]
      cases portRemoved (host.takeWhile (! endsHostUnit ·)) <;> rfl

variable {hostname : Bytes}

lemma parseOriginHostname_eq_some {origin : Bytes} : parseOriginHostname origin = some hostname ↔
    (origin.isEmpty || decide (origin.length > 253)) = false ∧ origin.all isPrintable ∧
      origin.contains 0x40 = false ∧ checkedHost origin = some hostname ∧ validHostname hostname := by
  rw [parseOriginHostname, checkedHost]
  split_ifs with hl hp ha
  · simp [hl]
  · simp only [not_eq_true'] at hp
    simp [hp]
  · refine iff_of_false (by simp) ?_
    rintro ⟨-, -, hn, -⟩
    rw [ha] at hn
    contradiction
  · rw [not_eq_true] at hl ha
    rw [not_eq_true', Bool.not_eq_false] at hp
    simp only [hl, hp, ha, true_and]
    cases withoutScheme origin with
    | none => simp
    | some host =>
      simp only [Option.bind_eq_bind, Option.bind_some]
      cases withoutPort (host.takeWhile (! endsHost ·)) with
      | none => simp
      | some found =>
        simp only [Option.bind_some, Option.some.injEq]
        constructor
        · intro h
          split at h
          · cases h
            exact ⟨rfl, ‹_›⟩
          · contradiction
        · rintro ⟨rfl, hv⟩
          rw [if_pos hv]

/-- **On printable ASCII** that does not begin with `//`, the two agree. -/
lemma validateOrigin_widened (hp : bytes.all isPrintable) (h : startsWith bytes "//" = false) :
    validateOrigin (bytes.map widen) = (parseOriginHostname bytes).isSome := by
  have hv : ∀ host : Bytes, (!(host.map widen).isEmpty && decide ((host.map widen).length ≤ 253) &&
      ((host.map widen).splitOn 0x2e).all isLabel) = validHostname host := by
    intro host
    have hs := splitOn_map widen_injective 0x2e host
    change (host.map widen).splitOn 0x2e = _ at hs
    rw [validHostname_eq, hs, all_map, isEmpty_map, length_map]
    exact congrArg _ (congrArg (all (host.splitOn 0x2e)) (funext isLabel_widen))
  have ha : (bytes.map widen).contains 0x40 = bytes.contains 0x40 := by
    have hm : widen 0x40 ∈ bytes.map widen ↔ 0x40 ∈ bytes := mem_map_of_injective widen_injective
    change (0x40 : UInt16) ∈ bytes.map widen ↔ _ at hm
    rw [Bool.eq_iff_iff, contains_iff_mem, contains_iff_mem, hm]
  have hsi : ((bytes.map widen).length < 1 || (bytes.map widen).length > 253) =
      (bytes.isEmpty || decide (bytes.length > 253)) := by
    rw [length_map]
    cases bytes <;> rfl
  rw [Bool.eq_iff_iff, Option.isSome_iff_exists, validateOrigin_eq, originHost_widen h, ha, hsi]
  simp only [parseOriginHostname_eq_some, hp, true_and]
  cases checkedHost bytes with
  | none => simp
  | some host =>
    rw [Option.map_some, Option.any_some, hv, and_eq_true, and_eq_true, not_eq_true',
      not_eq_true', and_assoc]
    simp only [Option.some.injEq, exists_eq_left', exists_and_left]

/-! ## Origins beside the common ground -/

/-- The origin begins with `//`. -/
def beginsWithSlashes (origin : Utf16) : Bool := (ascii "//").isPrefixOf origin

lemma beginsWithSlashes_widen (bytes : Bytes) : beginsWithSlashes (bytes.map widen) = startsWith bytes "//" := by
  have hs : ascii "//" = (literal "//").map widen := by decide
  rw [beginsWithSlashes, hs, isPrefixOf_map widen_injective, startsWith]

lemma validateOrigin_slashes (h : beginsWithSlashes origin) : validateOrigin origin = false := by
  rw [beginsWithSlashes, isPrefixOf_iff_prefix] at h
  obtain ⟨rest, rfl⟩ := h
  have hh : ∀ host, originHost (0x2f :: 0x2f :: rest) = some host → host = [] := by
    intro host hh
    have hht : startsWithFolded (0x2f :: 0x2f :: rest) "https://" = false := rfl
    have hhtt : startsWithFolded (0x2f :: 0x2f :: rest) "http://" = false := rfl
    rw [originHost, schemeRemoved, hht, hhtt, if_neg Bool.false_ne_true, if_neg Bool.false_ne_true] at hh
    split at hh
    · contradiction
    · exact (Option.some.inj hh).symm
  rw [validateOrigin_eq, Bool.and_eq_false_iff]
  right
  change (originHost (0x2f :: 0x2f :: rest)).any _ = false
  cases hf : originHost (0x2f :: 0x2f :: rest) with
  | none => rfl
  | some host =>
    rw [hh host hf]
    rfl

lemma eq_map_widen (h : ∀ unit ∈ origin, unit.toNat < 0x80) : origin = (utf8 origin).map widen := by
  rw [utf8_ascii h, map_map]
  refine (map_id origin).symm.trans (map_congr_left ?_)
  intro unit hu
  have hl := h unit hu
  rw [Function.comp_apply, widen, toNat_ofNat_byte (by omega), UInt16.ofNat_toNat, id]

/-- Printable ASCII without white space, in code units. -/
def IsPrintableUnit (unit : UInt16) : Prop := 0x20 < unit ∧ unit < 0x7f

lemma isPrintable_of_units (h : ∀ unit ∈ origin, IsPrintableUnit unit) :
    (∀ unit ∈ origin, unit.toNat < 0x80) ∧ (utf8 origin).all isPrintable := by
  have hl : ∀ unit ∈ origin, 0x20 < unit.toNat ∧ unit.toNat < 0x7f := by
    intro unit hu
    have := h unit hu
    rwa [IsPrintableUnit, UInt16.lt_iff_toNat_lt, UInt16.lt_iff_toNat_lt] at this
  have ha : ∀ unit ∈ origin, unit.toNat < 0x80 := fun unit hu => by
    have := hl unit hu
    omega
  refine ⟨ha, all_eq_true.mpr ?_⟩
  rw [utf8_ascii ha]
  intro byte hb
  obtain ⟨unit, hu, rfl⟩ := mem_map.mp hb
  have := hl unit hu
  rw [isPrintable, and_eq_true, decide_eq_true_eq, decide_eq_true_eq, UInt8.lt_iff_toNat_lt,
    UInt8.lt_iff_toNat_lt, toNat_ofNat_byte (by omega)]
  exact this

lemma utf8_map_widen (h : ∀ byte ∈ bytes, byte.toNat < 0x80) : utf8 (bytes.map widen) = bytes := by
  have ha : ∀ unit ∈ bytes.map widen, unit.toNat < 0x80 := by
    intro unit hu
    obtain ⟨byte, hb, rfl⟩ := mem_map.mp hu
    rw [toNat_widen]
    exact h byte hb
  rw [utf8_ascii ha, map_map]
  refine (map_congr_left ?_).trans (map_id bytes)
  intro byte _
  rw [Function.comp_apply, toNat_widen, UInt8.ofNat_toNat, id]

lemma cutLast_mem {α : Type} [DecidableEq α] {mark : α} {items before behind : List α}
    (h : cutLast mark items = some (before, behind)) : ∀ item ∈ before, item ∈ items := by
  induction items generalizing before with
  | nil => contradiction
  | cons first rest ih =>
    rw [cutLast] at h
    split at h
    · rename_i parts hp
      cases h
      intro item hi
      rcases mem_cons.mp hi with rfl | hi
      · exact mem_cons_self
      · exact mem_cons_of_mem _ (ih hp item hi)
    · split at h
      · cases h
        simp
      · contradiction

lemma checkedHost_ascii {origin host : Bytes} (hp : origin.all isPrintable)
    (h : checkedHost origin = some host) : ∀ byte ∈ host, byte.toNat < 0x80 := by
  have hm : ∀ byte ∈ host, byte ∈ origin := by
    obtain ⟨behind, hs, hpo⟩ := Option.bind_eq_some_iff.mp h
    have hb : ∀ byte ∈ behind, byte ∈ origin := by
      unfold withoutScheme at hs
      split_ifs at hs
      · cases hs
        exact fun _ => mem_of_mem_drop
      · cases hs
        exact fun _ => mem_of_mem_drop
      · cases hs
        exact fun _ => mem_of_mem_drop
      · cases hs
        exact fun _ hby => hby
    intro byte hby
    refine hb byte (( takeWhile_prefix (! endsHost ·)).subset ?_)
    unfold withoutPort at hpo
    split at hpo
    · rename_i hc
      split_ifs at hpo
      cases hpo
      exact cutLast_mem hc byte hby
    · cases hpo
      exact hby
  intro byte hby
  have := all_eq_true.mp hp byte (hm byte hby)
  rw [isPrintable, and_eq_true, decide_eq_true_eq, decide_eq_true_eq, UInt8.lt_iff_toNat_lt,
    UInt8.lt_iff_toNat_lt] at this
  exact this.2.trans (by decide)

lemma validateOrigin_of_parse (hs : beginsWithSlashes origin = false)
    (h : parseOriginHostname (utf8 origin) = some hostname) :
    validateOrigin origin ∧ ∃ host, originHost origin = some host ∧ utf8 host = hostname := by
  obtain ⟨-, hp, -, hh, -⟩ := parseOriginHostname_eq_some.mp h
  have hw := eq_map_widen (origin_ascii (Option.isSome_iff_exists.mpr ⟨hostname, h⟩))
  rw [hw, beginsWithSlashes_widen] at hs
  rw [hw, validateOrigin_widened hp hs, h, originHost_widen hs, hh]
  exact ⟨rfl, _, rfl, utf8_map_widen (checkedHost_ascii hp hh)⟩

lemma parse_of_validateOrigin (hp : ∀ unit ∈ origin, IsPrintableUnit unit) (h : validateOrigin origin) :
    ∃ host, originHost origin = some host ∧ parseOriginHostname (utf8 origin) = some (utf8 host) := by
  obtain ⟨ha, hb⟩ := isPrintable_of_units hp
  have hw := eq_map_widen ha
  have hs : startsWith (utf8 origin) "//" = false := by
    rw [← beginsWithSlashes_widen, ← hw, ← not_eq_true]
    intro hbe
    rw [validateOrigin_slashes hbe] at h
    contradiction
  rw [hw, validateOrigin_widened hb hs, Option.isSome_iff_exists] at h
  obtain ⟨hostname, hh⟩ := h
  obtain ⟨-, -, -, hho, -⟩ := parseOriginHostname_eq_some.mp hh
  refine ⟨hostname.map widen, ?_, ?_⟩
  · rw [hw, originHost_widen hs, hho]
    rfl
  · rw [hh, utf8_map_widen (checkedHost_ascii hb hho)]

/-! ## The allowlist -/

def isDisallowedIpv4 (ip : UInt32) : Bool :=
  if ip == 0 then true
  else
    let firstOctet := (ip >>> 24) &&& 0xff
    if firstOctet == 127 then true
    else if ip &&& 0xffff0000 == 0xa9fe0000 then true
    else firstOctet ≥ 224

/-- `std::sort`, `std::unique` and `erase`. -/
def sortUnique {α : Type} [DecidableEq α] (le : α → α → Prop) [DecidableRel le] (xs : List α) :
    List α := (xs.insertionSort le).destutter (· ≠ ·)

lemma sortUnique_perm {α : Type} [DecidableEq α] (le : α → α → Prop) [DecidableRel le] [Std.Total le]
    [IsTrans α le] [Std.Antisymm le] (xs : List α) : (sortUnique le xs).Perm xs.dedup := by
  rw [sortUnique, (pairwise_insertionSort le xs).destutter_eq_dedup]
  exact (perm_insertionSort le xs).dedup

/-- `resolve_allowed_origins`; what the resolver finds for a host is a parameter. -/
def resolveAllowedOrigins (resolve : Bytes → List UInt32) (origins : List Bytes) : List UInt32 :=
  if origins.length > 32 then []
  else
    let resolved := origins.flatMap fun origin =>
      match parseOriginHostname origin with
      | none => []
      | some hostname => (resolve hostname).filter (! isDisallowedIpv4 ·)
    sortUnique (· ≤ ·) resolved

lemma mem_resolveAllowedOrigins {resolve : Bytes → List UInt32} {origins : List Bytes} {origin : Bytes}
    {ip : UInt32} (hl : origins.length ≤ 32) (ho : origin ∈ origins)
    (hp : parseOriginHostname origin = some hostname) (hi : ip ∈ resolve hostname)
    (ha : isDisallowedIpv4 ip = false) : ip ∈ resolveAllowedOrigins resolve origins := by
  rw [resolveAllowedOrigins, if_neg (Nat.not_lt.mpr hl)]
  simp only
  rw [(sortUnique_perm _ _).mem_iff, mem_dedup, mem_flatMap]
  refine ⟨origin, ho, ?_⟩
  rw [hp]
  exact mem_filter.mpr ⟨hi, by rw [ha]; rfl⟩

/-- **The two sides agree**, but for origins that begin with `//`, which only the host takes.  The host takes
nothing else that the studio refuses.  What the studio takes, the host takes with the same host name, if it
is printable ASCII; and then, in a list of the size that both allow, no address of it is left out. -/
theorem origins_agree : (∀ origin hostname, beginsWithSlashes origin = false →
      parseOriginHostname (utf8 origin) = some hostname →
        validateOrigin origin = true ∧ ∃ host, originHost origin = some host ∧ utf8 host = hostname) ∧
    (∀ origin, beginsWithSlashes origin = true → validateOrigin origin = false) ∧
    (∀ origin, (∀ unit ∈ origin, IsPrintableUnit unit) → validateOrigin origin = true →
      ∃ host, originHost origin = some host ∧ parseOriginHostname (utf8 origin) = some (utf8 host) ∧
        ∀ (resolve : Bytes → List UInt32) (origins : List Utf16), origin ∈ origins → origins.length ≤ 32 →
          ∀ ip ∈ resolve (utf8 host), isDisallowedIpv4 ip = false →
            ip ∈ resolveAllowedOrigins resolve (origins.map utf8)) := by
  refine ⟨fun _ _ => validateOrigin_of_parse, fun _ => validateOrigin_slashes, ?_⟩
  intro origin hprintable hvalid
  obtain ⟨host, hhost, hparse⟩ := parse_of_validateOrigin hprintable hvalid
  refine ⟨host, hhost, hparse, ?_⟩
  intro resolve origins hmem hlength ip hip hallowed
  exact mem_resolveAllowedOrigins (by rwa [List.length_map]) (List.mem_map_of_mem hmem) hparse hip hallowed

/-- `HTTP://A.b:80/x` on both sides. -/
theorem origins_agree_port : (∃ host, originHost (ascii "HTTP://A.b:80/x") = some host ∧
      parseOriginHostname (utf8 (ascii "HTTP://A.b:80/x")) = some (utf8 host)) ∧
      validateOrigin (ascii "//a") = false := by
  have horigin : (ascii "HTTP://A.b:80/x").all (fun unit => 0x20 < unit && unit < 0x7f) = true ∧
      validateOrigin (ascii "HTTP://A.b:80/x") = true ∧ (ascii "//").isPrefixOf (ascii "//a") = true := by
    decide
  have hprintable : ∀ unit ∈ ascii "HTTP://A.b:80/x", IsPrintableUnit unit := by
    simpa only [List.all_eq_true, Bool.and_eq_true, decide_eq_true_eq, IsPrintableUnit] using horigin.1
  obtain ⟨host, hhost, hparse, -⟩ := origins_agree.2.2 _ hprintable horigin.2.1
  exact ⟨⟨host, hhost, hparse⟩, origins_agree.2.1 _ horigin.2.2⟩

/-- `//a` is an origin for the host only. -/
theorem parse_slashes_not_valid : ¬ ∀ origin,
    (validateOrigin origin = true ↔ (parseOriginHostname (utf8 origin)).isSome = true) := by
  intro h
  have := h (ascii "//a")
  revert this
  decide

end Nstu.Web
