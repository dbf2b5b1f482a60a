import Nstu.Core.Text
import Nstu.Exam.Types

/-!
# Answer events in the exam page

The part of `exam/web/app.js` that checks and serialises answer events: `validStoredEvent`,
`canonicalEventBytes` and `eventHashHex`, with the helpers they call.

A value the page reads back from storage has JavaScript values in its fields (`StoredValue`).  What
`validStoredEvent` returns is a `PageEvent`: its numbers are positive safe integers and its kind is
one of the three names.  Absent properties and empty strings are told apart only where the page does
so; a `PageEvent` without hash has the empty one.
-/

namespace Nstu.Web

open Wire Text Option List
open Bool (and_eq_true not_eq_true')
open UInt16 (toNat ofNat)

def MAX_DURABLE_BYTES : ℕ := 8 * 1024 * 1024
def MAX_ANSWER_BYTES : ℕ := 16 * 1024

/-- `Number.MAX_SAFE_INTEGER`. -/
def maxSafeInteger : ℕ := 2 ^ 53 - 1

/-! ## JavaScript values -/

/-- A number: an integer that is printed in full, or any other one, with the text JSON has for it. -/
inductive JsNumber where
  | integer (value : ℤ)
  | other (text : Utf16)

inductive JsValue where
  | undefined
  | null
  | boolean (value : Bool)
  | number (value : JsNumber)
  | string (text : Utf16)
  | object

/-- `Number.isSafeInteger(value) && value > 0`, with the number. -/
def safePositive : JsValue → Option ℕ
  | .number (.integer value) =>
    if 0 < value ∧ value ≤ maxSafeInteger then some value.toNat else none
  | _ => none

/-- `typeof value === "string"`, with the string. -/
def asString : JsValue → Option Utf16
  | .string text => some text
  | _ => none

/-- `utf8ByteLength` of a string. -/
def utf8ByteLength (value : Utf16) : ℕ := (utf8 value).length

/-- `validIdentifier`, with the string. -/
def validIdentifier (value : JsValue) (maximum : ℕ) (allowEmpty : Bool) : Option Utf16 :=
  (asString value).filter fun text =>
    (allowEmpty || !text.isEmpty) && !text.any (· == 0) && utf8ByteLength text ≤ maximum

/-! ## Hexadecimal strings -/

/-- `value.toLowerCase()` of a string of ASCII characters. -/
def toLowerCase (text : Utf16) : Utf16 := text.map fun unit => UInt16.ofNat (lowerCase unit.toNat)

/-- `normalizeHex` of a string. -/
def normalizeHex (text : Utf16) (bytes : ℕ) : Utf16 :=
  if text.length == bytes * 2 && text.all fun unit => (hexDigit unit.toNat).isSome then
    toLowerCase text
  else []

/-- `normalizeNonZeroHex` of a string. -/
def normalizeNonZeroHex (text : Utf16) (bytes : ℕ) : Utf16 :=
  let normalized := normalizeHex text bytes
  if !normalized.isEmpty && !normalized.all (· == 48) then normalized else []

/-- A hexadecimal property that has to be there, normalised. -/
def nonZeroHexOf (value : JsValue) (bytes : ℕ) : Option Utf16 :=
  ((asString value).map fun text => normalizeNonZeroHex text bytes).filter (!·.isEmpty)

def hexBytes (text : Utf16) (bytes : ℕ) : Option Bytes :=
  let normalized := normalizeHex text bytes
  if normalized.isEmpty then none else hexPairs (normalized.map UInt16.toNat)

def hexString (bytes : Bytes) : Utf16 := (hexCodes bytes).map UInt16.ofNat

/-! ## Numbers on the wire -/

/-- `value >>> 0`. -/
def toUint32 (value : ℕ) : ℕ := value % 2 ^ 32

def pushUint16 (value : ℕ) : Bytes :=
  [UInt8.ofNat (value &&& 0xff), UInt8.ofNat ((toUint32 value >>> 8) &&& 0xff)]

def pushUint32 (value : ℕ) : Bytes :=
  let normalized := toUint32 value
  [UInt8.ofNat (normalized &&& 0xff), UInt8.ofNat ((normalized >>> 8) &&& 0xff),
    UInt8.ofNat ((normalized >>> 16) &&& 0xff), UInt8.ofNat ((normalized >>> 24) &&& 0xff)]

/-- `pushUint64` of a safe integer. -/
def pushUint64 (value : ℕ) : Bytes :=
  pushUint32 (toUint32 value) ++ pushUint32 (toUint32 (value / 0x100000000))

/-! ## Events -/

inductive PageKind where
  | upsert
  | clear
  | finalize
  deriving DecidableEq

namespace PageKind

def name : PageKind → Utf16
  | upsert => ascii "upsert"
  | clear => ascii "clear"
  | finalize => ascii "finalize"

/-- `["upsert", "clear", "finalize"].includes(value)`, with the kind. -/
def ofName (text : Utf16) : Option PageKind :=
  [upsert, clear, finalize].find? fun kind => kind.name == text

/-- `{ upsert: 1, clear: 2, finalize: 3 }[kind]`. -/
def code : PageKind → UInt8
  | upsert => 1
  | clear => 2
  | finalize => 3

end PageKind

structure PageEvent where
  packageId : Utf16
  packageDigestHex : Utf16
  clientIdHex : Utf16
  sessionIdHex : Utf16
  candidateId : Utf16
  questionId : Utf16
  questionRevision : ℕ
  sequence : ℕ
  clientTimeUnixMilliseconds : ℕ
  kind : PageKind
  answer : Utf16
  eventHashHex : Utf16
  previousEventHashHex : Utf16
  deriving DecidableEq

/-- What storage may hold in the place of an event. -/
structure StoredValue where
  packageId : JsValue
  packageDigestHex : JsValue
  clientIdHex : JsValue
  sessionIdHex : JsValue
  candidateId : JsValue
  questionId : JsValue
  questionRevision : JsValue
  sequence : JsValue
  clientTimeUnixMilliseconds : JsValue
  kind : JsValue
  answer : JsValue
  eventHashHex : JsValue
  previousEventHashHex : JsValue

/-- A positive safe integer. -/
def isSafePositive (value : ℕ) : Bool := 0 < value && value ≤ maxSafeInteger

lemma isSafePositive_iff {value : ℕ} : isSafePositive value ↔ 0 < value ∧ value ≤ maxSafeInteger := by
  simp [isSafePositive]

/-- The checks of `canonicalEventBytes` on the fields it does not decode. -/
def canonicalFields (event : PageEvent) : Bool :=
  (utf8 event.packageId).length ≤ 0xffff && (utf8 event.candidateId).length ≤ 0xffff &&
    (utf8 event.questionId).length ≤ 0xffff && (utf8 event.answer).length ≤ 0xffffffff &&
    isSafePositive event.questionRevision && isSafePositive event.sequence &&
    isSafePositive event.clientTimeUnixMilliseconds &&
    !(event.kind == .finalize && (!event.questionId.isEmpty || (utf8 event.answer).length != 0)) &&
    !(event.kind == .clear && (utf8 event.answer).length != 0) &&
    !(event.kind != .finalize && event.questionId.isEmpty)

def canonicalEventBytes (event : PageEvent) : Option Bytes :=
  let previous := if event.previousEventHashHex.isEmpty then some (List.replicate 32 0)
    else hexBytes event.previousEventHashHex 32
  match hexBytes event.packageDigestHex 32, hexBytes event.clientIdHex 16,
    hexBytes event.sessionIdHex 16, previous with
  | some packageDigest, some clientId, some sessionId, some previousHash =>
    if !canonicalFields event then none
    else some [pushUint32 0x3156454e, pushUint16 1, [event.kind.code, 0],
      pushUint64 event.sequence, pushUint64 event.clientTimeUnixMilliseconds,
      pushUint32 event.questionRevision, pushUint16 (utf8 event.packageId).length,
      pushUint16 (utf8 event.candidateId).length, pushUint16 (utf8 event.questionId).length,
      pushUint32 (utf8 event.answer).length, packageDigest, clientId, sessionId, previousHash,
      utf8 event.packageId, utf8 event.candidateId, utf8 event.questionId,
      utf8 event.answer].flatten
  | _, _, _, _ => none

/-- An event as JSON. -/
def PageEvent.json (event : PageEvent) : Json :=
  .object [(ascii "packageId", .string event.packageId), (ascii "packageDigestHex", .string event.packageDigestHex),
    (ascii "clientIdHex", .string event.clientIdHex),
    (ascii "sessionIdHex", .string event.sessionIdHex),
    (ascii "candidateId", .string event.candidateId),
    (ascii "questionId", .string event.questionId),
    (ascii "questionRevision", .number ((decimal event.questionRevision).map UInt16.ofNat)),
    (ascii "sequence", .number ((decimal event.sequence).map UInt16.ofNat)),
    (ascii "clientTimeUnixMilliseconds", .number ((decimal event.clientTimeUnixMilliseconds).map UInt16.ofNat)),
    (ascii "kind", .string event.kind.name),
    (ascii "answer", .string event.answer),
    (ascii "eventHashHex", .string event.eventHashHex),
    (ascii "previousEventHashHex", .string event.previousEventHashHex)]

def boundedJsonSize (value : Json) : ℕ := utf8ByteLength value.stringify

section Hash

variable (sha256 : Bytes → Digest)

def eventHashHex (event : PageEvent) : Utf16 :=
  match canonicalEventBytes event with
  | some bytes => hexString (sha256 bytes).toList
  | none => []

/-- The predecessor hash of a stored event: the empty one, or a hash. -/
def storedPrevious (value : JsValue) : Option Utf16 :=
  let previousHashValue := (asString value).getD []
  if previousHashValue.isEmpty then some []
  else nonZeroHexOf (.string previousHashValue) 32

/-- The hash of a stored event: absent, or a hash. -/
def storedHash : JsValue → Option Utf16
  | .undefined => some []
  | value => nonZeroHexOf value 32

/-- The fields of a stored event, where each one passes its check. -/
def storedFields (value : StoredValue) : Option PageEvent := do
  let sequence ← (safePositive value.sequence).filter (· != maxSafeInteger)
  let packageId ← validIdentifier value.packageId 128 false
  let packageDigestHex ← nonZeroHexOf value.packageDigestHex 32
  let clientIdHex ← nonZeroHexOf value.clientIdHex 16
  let sessionIdHex ← nonZeroHexOf value.sessionIdHex 16
  let candidateId ← validIdentifier value.candidateId 128 false
  let questionId ← validIdentifier value.questionId 128 true
  let questionRevision ← (safePositive value.questionRevision).filter (· ≤ 0xffffffff)
  let clientTimeUnixMilliseconds ← safePositive value.clientTimeUnixMilliseconds
  let kind ← (asString value.kind).bind PageKind.ofName
  let answer ← (asString value.answer).filter (utf8ByteLength · ≤ MAX_ANSWER_BYTES)
  let eventHashHex ← storedHash value.eventHashHex
  let previousEventHashHex ← storedPrevious value.previousEventHashHex
  some { packageId, packageDigestHex, clientIdHex, sessionIdHex, candidateId, questionId,
         questionRevision, sequence, clientTimeUnixMilliseconds, kind, answer, eventHashHex,
         previousEventHashHex }

/-- The fields do not fit the kind of the event. -/
def kindMismatch (event : PageEvent) : Bool :=
  (event.kind == .finalize && !event.answer.isEmpty) || (event.kind == .finalize && !event.questionId.isEmpty) ||
    (event.kind == .clear && !event.answer.isEmpty) ||
    (event.kind != .finalize && event.questionId.isEmpty)

/-- `validStoredEvent` of an object; anything else is refused. -/
def validStoredEvent (value : StoredValue) : Option PageEvent :=
  match storedFields value with
  | none => none
  | some event =>
    let calculatedHash := eventHashHex sha256 event
    if kindMismatch event then none
    else if calculatedHash.isEmpty || (!event.eventHashHex.isEmpty && event.eventHashHex != calculatedHash) then none
    else
      let event := { event with eventHashHex := calculatedHash }
      if boundedJsonSize event.json ≤ MAX_DURABLE_BYTES then some event else none

end Hash

/-! ## What an accepted event looks like -/

/-- A string of hexadecimal digits for so many bytes, not all of them zero. -/
structure NonZeroHex (bytes : ℕ) (text : Utf16) : Prop where
  length : text.length = bytes * 2
  digits : ∀ unit ∈ text, (hexDigit unit.toNat).isSome = true
  nonZero : ¬∀ unit ∈ text, unit = 48

/-- The checks of `validStoredEvent` on single fields. -/
structure AcceptedFields (event : PageEvent) : Prop where
  packageId : event.packageId ≠ [] ∧ 0 ∉ event.packageId ∧ utf8ByteLength event.packageId ≤ 128
  packageDigestHex : NonZeroHex 32 event.packageDigestHex
  clientIdHex : NonZeroHex 16 event.clientIdHex
  sessionIdHex : NonZeroHex 16 event.sessionIdHex
  candidateId : event.candidateId ≠ [] ∧ 0 ∉ event.candidateId ∧ utf8ByteLength event.candidateId ≤ 128
  questionId : 0 ∉ event.questionId ∧ utf8ByteLength event.questionId ≤ 128
  questionRevision : 0 < event.questionRevision ∧ event.questionRevision ≤ 0xffffffff
  sequence : 0 < event.sequence ∧ event.sequence < maxSafeInteger
  clientTime : 0 < event.clientTimeUnixMilliseconds ∧ event.clientTimeUnixMilliseconds ≤ maxSafeInteger
  answer : utf8ByteLength event.answer ≤ MAX_ANSWER_BYTES
  previousEventHashHex : event.previousEventHashHex = [] ∨ NonZeroHex 32 event.previousEventHashHex

/-- All checks of `validStoredEvent`. -/
structure AcceptedEvent (sha256 : Bytes → Digest) (event : PageEvent) : Prop extends
    AcceptedFields event where
  finalize : event.kind = .finalize → event.questionId = [] ∧ event.answer = []
  clear : event.kind = .clear → event.answer = []
  question : event.kind ≠ .finalize → event.questionId ≠ []
  hash : event.eventHashHex = eventHashHex sha256 event
  hashed : event.eventHashHex ≠ []

lemma toLowerCase_codes (text : Utf16) :
    (toLowerCase text).map toNat = (text.map toNat).map lowerCase := by
  simp only [toLowerCase, List.map_map]
  refine List.map_congr_left fun unit _ => ?_
  have hu := unit.toNat_lt
  simp only [Function.comp_apply]
  rw [UInt16.toNat_ofNat_of_lt']
  simp only [lowerCase, UInt16.size]
  split <;> omega

lemma normalizeHex_eq {text : Utf16} {bytes : ℕ} (h : normalizeHex text bytes ≠ []) :
    normalizeHex text bytes = toLowerCase text ∧ text.length = bytes * 2 ∧
      ∀ unit ∈ text, (hexDigit unit.toNat).isSome := by
  simp only [normalizeHex] at h ⊢
  split at h
  · rename_i hc
    rw [if_pos hc]
    simp only [and_eq_true, beq_iff_eq, List.all_eq_true] at hc
    exact ⟨rfl, hc⟩
  · exact absurd rfl h

lemma mem_hexString {bytes : Bytes} {unit : UInt16} (h : unit ∈ hexString bytes) :
    ∃ value < 16, unit.toNat = hexChar value := by
  obtain ⟨code, hc, rfl⟩ := mem_map.mp h
  obtain ⟨byte, -, hm⟩ := mem_flatMap.mp hc
  have hb := byte.toNat_lt
  have hs : ∀ value < 16, (ofNat (hexChar value)).toNat = hexChar value := by
    intro value hv
    refine UInt16.toNat_ofNat_of_lt' ?_
    simp only [hexChar, UInt16.size]
    split <;> omega
  simp only [mem_cons, not_mem_nil, or_false] at hm
  rcases hm with rfl | rfl
  · exact ⟨byte.toNat / 16, by omega, hs _ (by omega)⟩
  · exact ⟨byte.toNat % 16, by omega, hs _ (by omega)⟩

lemma length_hexString (bytes : Bytes) : (hexString bytes).length = bytes.length * 2 := by
  rw [hexString, length_map, length_hexCodes, Nat.mul_comm]

lemma normalizeHex_hexString {n : ℕ} (block : Block n) :
    normalizeHex (hexString block.toList) n = hexString block.toList := by
  have hc : ((hexString block.toList).length == n * 2 &&
      (hexString block.toList).all fun unit => (hexDigit unit.toNat).isSome) := by
    simp only [length_hexString, block.length_toList, beq_self_eq_true, Bool.true_and, List.all_eq_true]
    intro unit hu
    obtain ⟨value, hv, hco⟩ := mem_hexString hu
    rw [hco, hexDigit_hexChar hv]
    rfl
  rw [normalizeHex, if_pos hc, toLowerCase]
  refine (List.map_congr_left fun unit hu => ?_).trans (map_id _)
  obtain ⟨value, hv, hco⟩ := mem_hexString hu
  have hl : lowerCase unit.toNat = unit.toNat := by
    rw [hco]
    simp only [lowerCase, hexChar]
    split_ifs <;> omega
  rw [hl]
  simp

lemma all_hexString_iff {bytes : Bytes} : (hexString bytes).all (· == 48) ↔ allZero bytes := by
  have hc : ∀ value < 16, ofNat (hexChar value) = 48 ↔ value = 0 := by decide
  induction bytes with
  | nil => simp [hexString, hexCodes, allZero]
  | cons byte rest ih =>
    have hb := byte.toNat_lt
    have hd : hexString (byte :: rest) = ofNat (hexChar (byte.toNat / 16)) ::
        ofNat (hexChar (byte.toNat % 16)) :: hexString rest := by
      simp [hexString, hexCodes]
    have hz : byte = 0 ↔ byte.toNat / 16 = 0 ∧ byte.toNat % 16 = 0 := by
      rw [← UInt8.toNat_inj]
      simp only [UInt8.reduceToNat]
      omega
    rw [hd]
    simp only [all_cons, and_eq_true, beq_iff_eq, ih, allZero, all_cons,
      hc _ (by omega : byte.toNat / 16 < 16), hc _ (by omega : byte.toNat % 16 < 16), hz,
      and_assoc]

lemma normalizeNonZeroHex_hexString {n : ℕ} (block : Block n) : normalizeNonZeroHex (hexString block.toList) n =
      if allZero block.toList then [] else hexString block.toList := by
  rw [normalizeNonZeroHex, normalizeHex_hexString]
  cases hz : allZero block.toList with
  | true =>
    rw [all_hexString_iff.mpr hz]
    simp
  | false =>
    have ha : (hexString block.toList).all (· == 48) = false := by
      rw [← Bool.not_eq_true, all_hexString_iff, hz]
      simp
    have he : hexString block.toList ≠ [] := by
      intro hn
      rw [hn] at ha
      cases ha
    rw [ha, if_pos (by simpa using he)]
    rfl

lemma nonZeroHex_of_normalize {text : Utf16} {bytes : ℕ} (h : normalizeNonZeroHex text bytes ≠ []) :
    NonZeroHex bytes (normalizeNonZeroHex text bytes) := by
  simp only [normalizeNonZeroHex] at h ⊢
  split at h
  · rename_i hcheck
    rw [if_pos hcheck]
    simp only [and_eq_true, not_eq_true', List.isEmpty_eq_false_iff,
      List.all_eq_false, beq_iff_eq] at hcheck
    obtain ⟨hne, unit, hunit, hnonZ⟩ := hcheck
    obtain ⟨heq, hleng, hdigi⟩ := normalizeHex_eq hne
    rw [heq] at hunit ⊢
    refine ⟨by simp [toLowerCase, hleng], fun found hfound => ?_, fun hall => ?_⟩
    · have hcode : found.toNat ∈ (toLowerCase text).map toNat := mem_map_of_mem hfound
      rw [toLowerCase_codes, List.map_map] at hcode
      obtain ⟨original, horig, hlower⟩ := mem_map.mp hcode
      rw [← hlower, Function.comp_apply, hexDigit_lowerCase]
      exact hdigi original horig
    · exact hnonZ (hall unit hunit)
  · exact absurd rfl h

lemma toLowerCase_idem (text : Utf16) : toLowerCase (toLowerCase text) = toLowerCase text := by
  refine (List.map_inj_right (f := toNat) fun _ _ => UInt16.toNat_inj.mp).mp ?_
  rw [toLowerCase_codes (toLowerCase text), toLowerCase_codes text, List.map_map]
  refine List.map_congr_left fun code _ => ?_
  simp only [Function.comp_apply, lowerCase]
  split_ifs <;> omega

lemma normalizeNonZeroHex_idem (text : Utf16) (bytes : ℕ) :
    normalizeNonZeroHex (normalizeNonZeroHex text bytes) bytes = normalizeNonZeroHex text bytes := by
  by_cases he : normalizeNonZeroHex text bytes = []
  · rw [he]
    simp [normalizeNonZeroHex, normalizeHex, toLowerCase]
  · have hh := nonZeroHex_of_normalize he
    have hl : toLowerCase (normalizeNonZeroHex text bytes) = normalizeNonZeroHex text bytes := by
      simp only [normalizeNonZeroHex] at he ⊢
      split
      · rename_i hc
        simp only [and_eq_true, not_eq_true', List.isEmpty_eq_false_iff] at hc
        rw [(normalizeHex_eq hc.1).1, toLowerCase_idem]
      · rfl
    generalize normalizeNonZeroHex text bytes = normal at he hh hl ⊢
    have hn : normalizeHex normal bytes = normal := by
      rw [normalizeHex, if_pos, hl]
      simp only [and_eq_true, beq_iff_eq, List.all_eq_true]
      exact ⟨hh.length, hh.digits⟩
    rw [normalizeNonZeroHex, hn, if_pos]
    simpa [he] using hh.nonZero

lemma NonZeroHex.hexBytes_isSome {bytes : ℕ} {text : Utf16} (h : NonZeroHex bytes text)
    (hn : text ≠ []) : (hexBytes text bytes).isSome := by
  have hno : normalizeHex text bytes = toLowerCase text := by
    rw [normalizeHex, if_pos]
    simp only [and_eq_true, beq_iff_eq, List.all_eq_true]
    exact ⟨h.length, h.digits⟩
  have hd : ∀ code ∈ text.map toNat, (hexDigit code).isSome := by
    intro code hc
    obtain ⟨unit, hu, rfl⟩ := mem_map.mp hc
    exact h.digits unit hu
  obtain ⟨decoded, hde, -⟩ := hexPairs_of_digits (by rw [length_map, h.length, Nat.mul_comm]) hd
  have he : (toLowerCase text).isEmpty = false := by
    rw [List.isEmpty_eq_false_iff, toLowerCase]
    simpa using hn
  simp only [hexBytes, hno, he, Bool.false_eq_true, if_false]
  rw [toLowerCase_codes, hexPairs_lowerCase, hde]
  rfl

lemma nonZeroHexOf_eq_some {value : JsValue} {bytes : ℕ} {text : Utf16}
    (h : nonZeroHexOf value bytes = some text) : NonZeroHex bytes text := by
  simp only [nonZeroHexOf, filter_eq_some_iff, map_eq_some_iff, not_eq_true',
    List.isEmpty_eq_false_iff] at h
  obtain ⟨⟨original, -, rfl⟩, hn⟩ := h
  exact nonZeroHex_of_normalize hn

lemma validIdentifier_eq_some {value : JsValue} {maximum : ℕ} {allowEmpty : Bool} {text : Utf16}
    (h : validIdentifier value maximum allowEmpty = some text) :
    (allowEmpty ∨ text ≠ []) ∧ 0 ∉ text ∧ utf8ByteLength text ≤ maximum := by
  simp only [validIdentifier, filter_eq_some_iff, and_eq_true, Bool.or_eq_true,
    not_eq_true', List.isEmpty_eq_false_iff, List.any_eq_false, beq_iff_eq,
    decide_eq_true_eq] at h
  obtain ⟨-, ⟨he, hz⟩, hl⟩ := h
  exact ⟨he, fun hm => hz 0 hm rfl, hl⟩

lemma safePositive_eq_some {value : JsValue} {number : ℕ} (h : safePositive value = some number) :
    0 < number ∧ number ≤ maxSafeInteger := by
  simp only [safePositive] at h
  split at h
  · split at h
    · rename_i hr
      cases h
      omega
    · cases h
  · cases h

lemma storedPrevious_eq_some {value : JsValue} {text : Utf16} (h : storedPrevious value = some text) :
    text = [] ∨ NonZeroHex 32 text := by
  simp only [storedPrevious] at h
  split at h
  · cases h
    exact .inl rfl
  · exact .inr (nonZeroHexOf_eq_some h)

lemma nonZeroHexOf_normal {value : JsValue} {bytes : ℕ} {text : Utf16}
    (h : nonZeroHexOf value bytes = some text) : normalizeNonZeroHex text bytes = text := by
  simp only [nonZeroHexOf, filter_eq_some_iff, map_eq_some_iff] at h
  obtain ⟨⟨original, -, rfl⟩, -⟩ := h
  exact normalizeNonZeroHex_idem _ _

lemma storedPrevious_normal {value : JsValue} {text : Utf16} (h : storedPrevious value = some text) :
    normalizeNonZeroHex text 32 = text := by
  simp only [storedPrevious] at h
  split at h
  · cases h
    rfl
  · exact nonZeroHexOf_normal h

lemma storedFields_spec {value : StoredValue} {event : PageEvent} (h : storedFields value = some event) :
    AcceptedFields event ∧ normalizeNonZeroHex event.packageDigestHex 32 = event.packageDigestHex ∧
      normalizeNonZeroHex event.clientIdHex 16 = event.clientIdHex ∧
      normalizeNonZeroHex event.sessionIdHex 16 = event.sessionIdHex ∧
      normalizeNonZeroHex event.previousEventHashHex 32 = event.previousEventHashHex := by
  unfold storedFields at h
  obtain ⟨sequence, hsequ, h⟩ := bind_eq_some_iff.mp h
  obtain ⟨packageId, hpack, h⟩ := bind_eq_some_iff.mp h
  obtain ⟨packageDigestHex, hdige, h⟩ := bind_eq_some_iff.mp h
  obtain ⟨clientIdHex, hclie, h⟩ := bind_eq_some_iff.mp h
  obtain ⟨sessionIdHex, hsess, h⟩ := bind_eq_some_iff.mp h
  obtain ⟨candidateId, hcand, h⟩ := bind_eq_some_iff.mp h
  obtain ⟨questionId, hques, h⟩ := bind_eq_some_iff.mp h
  obtain ⟨revision, hrevi, h⟩ := bind_eq_some_iff.mp h
  obtain ⟨time, htime, h⟩ := bind_eq_some_iff.mp h
  obtain ⟨kind, hkind, h⟩ := bind_eq_some_iff.mp h
  obtain ⟨answer, hansw, h⟩ := bind_eq_some_iff.mp h
  obtain ⟨supplied, hsupp, h⟩ := bind_eq_some_iff.mp h
  obtain ⟨previous, hprev, h⟩ := bind_eq_some_iff.mp h
  cases h
  rw [filter_eq_some_iff] at hsequ hrevi hansw
  have hposi := safePositive_eq_some hsequ.1
  have hpacka := validIdentifier_eq_some hpack
  have hcand := validIdentifier_eq_some hcand
  refine ⟨?_, nonZeroHexOf_normal hdige, nonZeroHexOf_normal hclie, nonZeroHexOf_normal hsess,
    storedPrevious_normal hprev⟩
  exact
    { packageId := ⟨hpacka.1.resolve_left (by simp), hpacka.2⟩
      packageDigestHex := nonZeroHexOf_eq_some hdige
      clientIdHex := nonZeroHexOf_eq_some hclie
      sessionIdHex := nonZeroHexOf_eq_some hsess
      candidateId := ⟨hcand.1.resolve_left (by simp), hcand.2⟩
      questionId := (validIdentifier_eq_some hques).2
      questionRevision := ⟨(safePositive_eq_some hrevi.1).1, of_decide_eq_true hrevi.2⟩
      sequence := ⟨hposi.1, Nat.lt_of_le_of_ne hposi.2 (bne_iff_ne.mp hsequ.2)⟩
      clientTime := safePositive_eq_some htime
      answer := of_decide_eq_true hansw.2
      previousEventHashHex := storedPrevious_eq_some hprev }

/-- **What `validStoredEvent` returns passes all its checks.** -/
lemma acceptedEvent_of_validStoredEvent {sha256 : Bytes → Digest} {value : StoredValue}
    {event : PageEvent} (h : validStoredEvent sha256 value = some event) :
    AcceptedEvent sha256 event := by
  simp only [validStoredEvent] at h
  split at h
  · cases h
  rename_i fields hfiel
  split_ifs at h with hkinds hhash hsize
  cases h
  have hacce := (storedFields_spec hfiel).1
  simp only [kindMismatch, Bool.or_eq_true, and_eq_true, beq_iff_eq, not_eq_true',
    bne_iff_ne, ne_eq, List.isEmpty_eq_false_iff, List.isEmpty_iff, not_or, not_and,
    not_not] at hkinds hhash
  obtain ⟨⟨⟨hansw, hques⟩, hclear⟩, hother⟩ := hkinds
  exact
    { hacce with
      finalize := fun hkind => ⟨hques hkind, hansw hkind⟩
      clear := hclear
      question := hother
      hash := rfl
      hashed := hhash.1 }

lemma AcceptedFields.canonicalFields {event : PageEvent} (h : AcceptedFields event)
    (hfina : event.kind = .finalize → event.questionId = [] ∧ event.answer = [])
    (hclear : event.kind = .clear → event.answer = [])
    (hkind : event.kind ≠ .finalize → event.questionId ≠ []) :
    Web.canonicalFields event := by
  have hpack := h.packageId.2.2
  have hcand := h.candidateId.2.2
  have hques := h.questionId.2
  have hansw := h.answer
  have hrevi := h.questionRevision
  have hsequ := h.sequence
  have htime := h.clientTime
  simp only [utf8ByteLength, MAX_ANSWER_BYTES] at hpack hcand hques hansw
  simp only [Web.canonicalFields, and_eq_true, isSafePositive_iff, decide_eq_true_eq,
    not_eq_true', Bool.and_eq_false_iff, Bool.or_eq_false_iff, beq_eq_false_iff_ne,
    bne_eq_false_iff_eq, List.isEmpty_iff, List.length_eq_zero_iff, utf8_eq_nil_iff,
    Bool.not_eq_false', List.isEmpty_eq_false_iff]
  refine ⟨⟨⟨⟨⟨⟨⟨⟨⟨by omega, by omega⟩, by omega⟩, by omega⟩, hrevi.1, ?_⟩, hsequ.1, ?_⟩,
    htime⟩, ?_⟩, ?_⟩, ?_⟩
  · exact hrevi.2.trans (by decide)
  · exact hsequ.2.le
  · exact (Decidable.em (event.kind = .finalize)).symm.imp_right hfina
  · exact (Decidable.em (event.kind = .clear)).symm.imp_right hclear
  · exact (Decidable.em (event.kind = .finalize)).imp_right hkind

end Nstu.Web
