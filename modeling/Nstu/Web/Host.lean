import Nstu.Exam.EventCodec
import Nstu.Web.Event

/-!
# Answer events between the page and the host

The page posts an event as a JSON message, and `parse_answer_event` in `client/src/exam_host.cpp`
builds an `AnswerEvent` from it.  The two sides serialise the event on their own, the page to hash it
and the host to send it, and both hashes have to be the same one.

The message passes through the WebView and the host's JSON reader.  `receive` says what arrives: the
value that was posted, with its strings as UTF-8 and its numbers as text.  A string with a lone
surrogate does not arrive at all.
-/

namespace Nstu.Web

open Wire Text List
open UInt64 (toNat_ofNat_of_lt' toNat_inj reduceToNat)

/-! ## The message in the host -/

inductive JsonValue where
  | null
  | boolean (value : Bool)
  | number (scalar : Bytes)
  | string (scalar : Bytes)
  | object (members : List (Bytes × JsonValue))
  | array (items : List JsonValue)

mutual

/-- What the host reads when a value is posted. -/
def receive : Json → Option JsonValue
  | .null => some .null
  | .boolean value => some (.boolean value)
  | .number text => some (.number (utf8 text))
  | .string text => if wellFormed text then some (.string (utf8 text)) else none
  | .array items => (receiveItems items).map .array
  | .object members => (receiveMembers members).map .object

def receiveItems : List Json → Option (List JsonValue)
  | [] => some []
  | item :: rest => do
    let first ← receive item
    let items ← receiveItems rest
    some (first :: items)

def receiveMembers : List (Utf16 × Json) → Option (List (Bytes × JsonValue))
  | [] => some []
  | (key, value) :: rest => do
    let first ← receive value
    let members ← receiveMembers rest
    some ((utf8 key, first) :: members)

end

/-- The bytes of a member name. -/
def memberName (name : String) : Bytes := utf8 (ascii name)

def member (value : JsonValue) (name : String) : Option JsonValue :=
  match value with
  | .object members => members.lookup (memberName name)
  | _ => none

/-- `string_member`, where `output` was empty. -/
def stringMember (object : JsonValue) (name : String) (required : Bool) : Option Bytes :=
  match member object name with
  | none => if required then none else some []
  | some (.string scalar) => some scalar
  | some _ => none

/-- `std::from_chars` into a `std::uint64_t` that has to take all characters. -/
def fromChars (scalar : Bytes) : Option UInt64 :=
  match decimalValue (scalar.map UInt8.toNat) with
  | some value => if value < 2 ^ 64 then some (UInt64.ofNat value) else none
  | none => none

/-- `uint64_member` of a required member. -/
def uint64Member (object : JsonValue) (name : String) : Option UInt64 :=
  match member object name with
  | some (.number scalar) => fromChars scalar
  | _ => none

def parseHex (n : ℕ) (value : Bytes) : Option (Block n) :=
  if value.length != n * 2 then none
  else match hexPairs (value.map UInt8.toNat) with
  | some bytes => if h : bytes.length = n then some ⟨bytes, h⟩ else none
  | none => none

structure ContextIdentity where
  packageId : Bytes
  packageDigest : Digest
  clientId : ClientId
  sessionId : SessionId
  candidateId : Bytes

def sameContext (event : AnswerEvent) (context : ContextIdentity) : Bool :=
  event.packageId == context.packageId && event.packageDigest == context.packageDigest &&
    event.clientId == context.clientId && event.sessionId == context.sessionId &&
    event.candidateId == context.candidateId

/-- The kind names `parse_answer_event` knows. -/
def parseKind (kind : Bytes) : Option AnswerKind :=
  if kind == memberName "upsert" then some .upsert
  else if kind == memberName "clear" then some .clear
  else if kind == memberName "finalize" then some .finalize
  else none

/-- The members that `parse_answer_event` reads. -/
structure AnswerMembers where
  packageId : Bytes
  digest : Bytes
  client : Bytes
  session : Bytes
  candidate : Bytes
  questionId : Bytes
  revision : UInt64
  sequence : UInt64
  clientTime : UInt64
  kind : Bytes
  answer : Bytes
  previousHash : Bytes

def answerMembers (event : JsonValue) : Option AnswerMembers := do
  let packageId ← stringMember event "packageId" true
  let digest ← stringMember event "packageDigestHex" true
  let client ← stringMember event "clientIdHex" true
  let session ← stringMember event "sessionIdHex" true
  let candidate ← stringMember event "candidateId" true
  let questionId ← stringMember event "questionId" false
  let revision ← uint64Member event "questionRevision"
  let sequence ← uint64Member event "sequence"
  let clientTime ← uint64Member event "clientTimeUnixMilliseconds"
  let kind ← stringMember event "kind" true
  let answer ← stringMember event "answer" false
  let previousHash ← stringMember event "previousEventHashHex" false
  some ⟨packageId, digest, client, session, candidate, questionId, revision, sequence, clientTime,
    kind, answer, previousHash⟩

/-- The event that `parse_answer_event` builds, before it looks at its context. -/
def buildAnswerEvent (members : AnswerMembers) : Except String AnswerEvent :=
  if members.revision == 0 || members.revision.toNat > 2 ^ 32 - 1 then
    .error "exam answer question revision is out of range"
  else match parseHex 32 members.digest, parseHex 16 members.client, parseHex 16 members.session with
  | some packageDigest, some clientId, some sessionId =>
    match parseKind members.kind with
    | none => .error "exam answer event kind is invalid"
    | some kind =>
      let event : AnswerEvent := ⟨members.packageId, packageDigest, clientId, sessionId,
        members.candidate, members.questionId, UInt32.ofNat members.revision.toNat,
        members.sequence, members.clientTime, kind, members.answer, Block.zero 32⟩
      match parseHex 32 members.previousHash with
      | some previousEventHash => .ok { event with previousEventHash }
      | none =>
        if members.previousHash.isEmpty then .ok event
        else .error "exam answer predecessor hash is invalid"
  | _, _, _ => .error "exam answer event identity is not valid hex"

section Parse

variable (sha256 : Bytes → Digest)

/-- The check of a supplied event hash. -/
def checkSuppliedHash (event : JsonValue) (output : AnswerEvent) : Except String AnswerEvent :=
  match stringMember event "eventHashHex" false with
  | none => .error "exam answer event hash field is invalid"
  | some supplied =>
    match hashAnswerEvent sha256 output with
    | none => .error "exam answer event could not be hashed"
    | some calculated =>
      if !supplied.isEmpty && parseHex 32 supplied != some calculated then
        .error "exam answer event hash does not match"
      else .ok output

def parseAnswerEvent (root : JsonValue) (context : ContextIdentity) : Except String AnswerEvent :=
  let event := (member root "event").getD root
  match answerMembers event with
  | none => .error "exam answer event fields are invalid"
  | some members =>
    match buildAnswerEvent members with
    | .error error => .error error
    | .ok output =>
      if !sameContext output context then .error "exam answer event context does not match"
      else if !validateAnswerEvent output then .error invalidAnswerEvent
      else checkSuppliedHash sha256 event output

end Parse

/-- The message `flushAnswerBridge` posts. -/
def answerMessage (event : PageEvent) : Json :=
  .object [(ascii "type", .string (ascii "exam_answer_event")), (ascii "event", event.json)]

/-! ## The two serialisers -/

lemma ofNat_congr {a b : ℕ} (h : a % 256 = b % 256) : UInt8.ofNat a = UInt8.ofNat b := by
  rw [← UInt8.toNat_inj]
  simpa using h

lemma lowByte (value : ℕ) : UInt8.ofNat (value &&& 0xff) = UInt8.ofNat value := by
  have hm : value &&& 0xff = value % 256 := Nat.and_two_pow_sub_one_eq_mod value 8
  rw [hm, ofNat_congr (Nat.mod_mod value 256)]

lemma pushUint16_eq (value : ℕ) : pushUint16 value = leBytes 2 value := by
  simp only [pushUint16, toUint32, lowByte, Nat.shiftRight_eq_div_pow, leBytes]
  rw [ofNat_congr (show value % 2 ^ 32 / 2 ^ 8 % 256 = value / 256 % 256 by omega)]

lemma pushUint32_eq (value : ℕ) : pushUint32 value = leBytes 4 value := by
  simp only [pushUint32, toUint32, lowByte, Nat.shiftRight_eq_div_pow, leBytes]
  rw [ofNat_congr (show value % 2 ^ 32 % 256 = value % 256 by omega),
    ofNat_congr (show value % 2 ^ 32 / 2 ^ 8 % 256 = value / 256 % 256 by omega),
    ofNat_congr (show value % 2 ^ 32 / 2 ^ 16 % 256 = value / 256 / 256 % 256 by omega),
    ofNat_congr (show value % 2 ^ 32 / 2 ^ 24 % 256 = value / 256 / 256 / 256 % 256 by omega)]

lemma pushUint32_toUint32 (value : ℕ) : pushUint32 (toUint32 value) = pushUint32 value := by
  simp [pushUint32, toUint32]

lemma pushUint64_eq (value : ℕ) : pushUint64 value = leBytes 8 value := by
  rw [pushUint64, pushUint32_toUint32, pushUint32_toUint32, pushUint32_eq, pushUint32_eq]
  simp only [leBytes, Nat.div_div_eq_div_mul, cons_append, nil_append]

lemma NonZeroHex.decoded {n : ℕ} {text : Utf16} (h : NonZeroHex n text) (hn : 0 < n) :
    ∃ block : Block n, hexBytes text n = some block.toList ∧
      parseHex n (utf8 text) = some block ∧ allZero block.toList = false ∧
      wellFormed text := by
  have hascii : ∀ unit ∈ text, unit.toNat < 0x80 := fun unit hunit =>
    hexDigit_lt_ascii (h.digits unit hunit)
  have hcodes := codes_utf8 hascii
  have hleng : (text.map UInt16.toNat).length = 2 * n := by
    rw [length_map, h.length, Nat.mul_comm]
  have hdigi : ∀ code ∈ text.map UInt16.toNat, (hexDigit code).isSome := by
    intro code hcode
    obtain ⟨unit, hunit, rfl⟩ := mem_map.mp hcode
    exact h.digits unit hunit
  obtain ⟨bytes, hbytes, hcount, hzero⟩ := hexPairs_of_digits hleng hdigi
  have hnorm : normalizeHex text n = toLowerCase text := by
    simp only [normalizeHex]
    rw [if_pos]
    simp only [Bool.and_eq_true, beq_iff_eq, all_eq_true]
    exact ⟨h.length, h.digits⟩
  have hempty : (toLowerCase text).isEmpty = false := by
    rw [isEmpty_eq_false_iff, ← length_pos_iff, toLowerCase, length_map, h.length]
    omega
  refine ⟨⟨bytes, hcount⟩, ?_, ?_, ?_, ?_⟩
  · simp only [hexBytes, hnorm, hempty, Bool.false_eq_true, if_false]
    rw [toLowerCase_codes, hexPairs_lowerCase, hbytes]
  · have hutf8 : (utf8 text).length = n * 2 := by
      rw [← length_map (f := UInt8.toNat), hcodes, hleng, Nat.mul_comm]
    simp [parseHex, hutf8, hcodes, hbytes, hcount]
  · rw [← Bool.not_eq_true, allZero, all_eq_true]
    intro hall
    refine h.nonZero fun unit hunit => ?_
    have := (hzero.mp fun byte hbyte => by simpa using hall byte hbyte) unit.toNat
      (mem_map_of_mem hunit)
    rw [← UInt16.toNat_inj, this]
    rfl
  · exact wellFormed_of_ascii hascii

/-- The members of the event object that arrives. -/
def receivedEvent (event : PageEvent) : JsonValue :=
  .object [(memberName "packageId", .string (utf8 event.packageId)),
    (memberName "packageDigestHex", .string (utf8 event.packageDigestHex)),
    (memberName "clientIdHex", .string (utf8 event.clientIdHex)),
    (memberName "sessionIdHex", .string (utf8 event.sessionIdHex)),
    (memberName "candidateId", .string (utf8 event.candidateId)),
    (memberName "questionId", .string (utf8 event.questionId)),
    (memberName "questionRevision", .number (utf8 ((decimal event.questionRevision).map UInt16.ofNat))),
    (memberName "sequence", .number (utf8 ((decimal event.sequence).map UInt16.ofNat))),
    (memberName "clientTimeUnixMilliseconds",
      .number (utf8 ((decimal event.clientTimeUnixMilliseconds).map UInt16.ofNat))),
    (memberName "kind", .string (utf8 event.kind.name)),
    (memberName "answer", .string (utf8 event.answer)),
    (memberName "eventHashHex", .string (utf8 event.eventHashHex)),
    (memberName "previousEventHashHex", .string (utf8 event.previousEventHashHex))]

/-- The strings of an event have no lone surrogates. -/
structure PageEvent.WellFormed (event : PageEvent) : Prop where
  packageId : wellFormed event.packageId = true
  candidateId : wellFormed event.candidateId = true
  questionId : wellFormed event.questionId = true
  answer : wellFormed event.answer = true

lemma wellFormed_name (kind : PageKind) : wellFormed kind.name := by
  cases kind <;> decide

lemma receive_answerMessage {event : PageEvent} (h : event.WellFormed)
    (hd : wellFormed event.packageDigestHex)
    (hc : wellFormed event.clientIdHex)
    (hs : wellFormed event.sessionIdHex)
    (hh : wellFormed event.eventHashHex)
    (hp : wellFormed event.previousEventHashHex) :
    receive (answerMessage event) = some (.object [(memberName "type", .string (memberName "exam_answer_event")),
        (memberName "event", receivedEvent event)]) := by
  have ht : wellFormed (ascii "exam_answer_event") := by decide
  simp only [answerMessage, PageEvent.json, receive, receiveMembers, h.packageId, h.candidateId,
    h.questionId, h.answer, hd, hc, hs, hh, hp, ht, wellFormed_name,
    if_true, Option.map_some, Option.bind_eq_bind, Option.bind_some]
  rfl

lemma fromChars_decimal {value : ℕ} (h : value < 2 ^ 64) :
    fromChars (utf8 ((decimal value).map UInt16.ofNat)) = some (UInt64.ofNat value) := by
  have hc : ∀ code ∈ decimal value, (UInt16.ofNat code).toNat = code := by
    intro code hc
    have := decimal_digit hc
    exact UInt16.toNat_ofNat_of_lt' (by simp only [UInt16.size]; omega)
  have ha : ∀ unit ∈ (decimal value).map UInt16.ofNat, unit.toNat < 0x80 := by
    intro unit hu
    obtain ⟨code, hm, rfl⟩ := mem_map.mp hu
    rw [hc code hm]
    have := decimal_digit hm
    omega
  have hco : ((decimal value).map UInt16.ofNat).map UInt16.toNat = decimal value := by
    rw [map_map]
    exact (map_congr_left fun code hm => hc code hm).trans (map_id _)
  rw [fromChars, codes_utf8 ha, hco, decimalValue_decimal]
  simp only [h, if_true]

lemma answerMembers_receivedEvent {event : PageEvent} (hr : event.questionRevision < 2 ^ 64)
    (hs : event.sequence < 2 ^ 64) (ht : event.clientTimeUnixMilliseconds < 2 ^ 64) :
    answerMembers (receivedEvent event) = some
      { packageId := utf8 event.packageId
        digest := utf8 event.packageDigestHex
        client := utf8 event.clientIdHex
        session := utf8 event.sessionIdHex
        candidate := utf8 event.candidateId
        questionId := utf8 event.questionId
        revision := UInt64.ofNat event.questionRevision
        sequence := UInt64.ofNat event.sequence
        clientTime := UInt64.ofNat event.clientTimeUnixMilliseconds
        kind := utf8 event.kind.name
        answer := utf8 event.answer
        previousHash := utf8 event.previousEventHashHex } := by
  have h1 : uint64Member (receivedEvent event) "questionRevision" =
      some (UInt64.ofNat event.questionRevision) := fromChars_decimal hr
  have h2 : uint64Member (receivedEvent event) "sequence" =
      some (UInt64.ofNat event.sequence) := fromChars_decimal hs
  have h3 : uint64Member (receivedEvent event) "clientTimeUnixMilliseconds" =
      some (UInt64.ofNat event.clientTimeUnixMilliseconds) := fromChars_decimal ht
  simp only [answerMembers, h1, h2, h3]
  rfl

/-! ## Agreement -/

/-- The kind of a native event. -/
def PageKind.answerKind : PageKind → AnswerKind
  | upsert => .upsert
  | clear => .clear
  | finalize => .finalize

lemma parseKind_name (kind : PageKind) : parseKind (utf8 kind.name) = some kind.answerKind := by
  cases kind <;> decide

/-- The event the host builds from an event of the page. -/
def hostEvent (event : PageEvent) : Option AnswerEvent := do
  let root ← receive (answerMessage event)
  let members ← answerMembers ((member root "event").getD root)
  (buildAnswerEvent members).toOption

section Agreement

variable {pageSha256 sha256 : Bytes → Digest} {event : PageEvent}

lemma previousHash_decoded (h : event.previousEventHashHex = [] ∨ NonZeroHex 32 event.previousEventHashHex) :
    ∃ previous : Digest, (if event.previousEventHashHex.isEmpty then some (replicate 32 0)
        else hexBytes event.previousEventHashHex 32) = some previous.toList ∧
      (parseHex 32 (utf8 event.previousEventHashHex) = some previous ∨
        parseHex 32 (utf8 event.previousEventHashHex) = none ∧ previous = Block.zero 32 ∧
          utf8 event.previousEventHashHex = []) ∧
      (event.previousEventHashHex = [] → previous = Block.zero 32) ∧
      wellFormed event.previousEventHashHex := by
  rcases h with h | h
  · rw [h]
    exact ⟨Block.zero 32, rfl, .inr ⟨rfl, rfl, rfl⟩, fun _ => rfl, rfl⟩
  · obtain ⟨previous, hp, hh, -, hw⟩ := h.decoded (by omega)
    have hn : event.previousEventHashHex ≠ [] := by
      intro hni
      have := h.length
      rw [hni] at this
      simp at this
    refine ⟨previous, ?_, .inl hh, fun hni => absurd hni hn, hw⟩
    rw [if_neg (by simpa using hn)]
    exact hp

lemma le_uint16 {value : ℕ} (h : value < 2 ^ 16) : le (UInt16.ofNat value) = leBytes 2 value := by
  rw [le]
  exact congrArg (leBytes 2) (UInt16.toNat_ofNat_of_lt' h)

lemma le_uint32 {value : ℕ} (h : value < 2 ^ 32) : le (UInt32.ofNat value) = leBytes 4 value := by
  rw [le]
  exact congrArg (leBytes 4) (UInt32.toNat_ofNat_of_lt' h)

lemma le_uint64 {value : ℕ} (h : value < 2 ^ 64) : le (UInt64.ofNat value) = leBytes 8 value := by
  rw [le]
  exact congrArg (leBytes 8) (toNat_ofNat_of_lt' h)

lemma AcceptedEvent.canonicalFields (h : AcceptedEvent pageSha256 event) : canonicalFields event :=
  h.toAcceptedFields.canonicalFields h.finalize h.clear h.question

/-- What the host builds, in its fields. -/
structure Builds (event : PageEvent) (output : AnswerEvent) : Prop where
  packageId : output.packageId = utf8 event.packageId
  packageDigest : hexBytes event.packageDigestHex 32 = some output.packageDigest.toList ∧
    allZero output.packageDigest.toList = false
  clientId : hexBytes event.clientIdHex 16 = some output.clientId.toList ∧ allZero output.clientId.toList = false
  sessionId : hexBytes event.sessionIdHex 16 = some output.sessionId.toList ∧ allZero output.sessionId.toList = false
  candidateId : output.candidateId = utf8 event.candidateId
  questionId : output.questionId = utf8 event.questionId
  questionRevision : output.questionRevision = UInt32.ofNat event.questionRevision
  sequence : output.sequence = UInt64.ofNat event.sequence
  clientTime : output.clientTimeUnixMilliseconds = UInt64.ofNat event.clientTimeUnixMilliseconds
  kind : output.kind = event.kind.answerKind
  answer : output.answer = utf8 event.answer
  previous : (if event.previousEventHashHex.isEmpty then some (List.replicate 32 0)
    else hexBytes event.previousEventHashHex 32) = some output.previousEventHash.toList
  first : event.previousEventHashHex = [] → output.previousEventHash = Block.zero 32

lemma AcceptedFields.numbers (h : AcceptedFields event) : event.questionRevision < 2 ^ 32 ∧
    event.sequence < 2 ^ 64 ∧ event.clientTimeUnixMilliseconds < 2 ^ 64 := by
  have hr := h.questionRevision.2
  have hs := h.sequence.2
  have ht := h.clientTime.2
  simp only [maxSafeInteger] at hs ht
  omega

lemma Builds.canonicalEventBytes {output : AnswerEvent} (h : Builds event output)
    (hacce : AcceptedEvent pageSha256 event) :
    canonicalEventBytes event = some (answerEventWire output) := by
  have hpack := hacce.packageId.2.2
  have hcand := hacce.candidateId.2.2
  have hques := hacce.questionId.2
  have hansw := hacce.answer
  obtain ⟨hrevi, hsequ, htime⟩ := hacce.numbers
  simp only [utf8ByteLength, MAX_ANSWER_BYTES] at hpack hcand hques hansw
  have hkind : [event.kind.code, 0] = le output.kind.raw ++ le (0 : UInt8) := by
    rw [h.kind]
    cases event.kind <;> rfl
  simp only [Web.canonicalEventBytes, h.packageDigest.1, h.clientId.1, h.sessionId.1, h.previous,
    hacce.canonicalFields, Bool.not_true, Bool.false_eq_true, if_false, pushUint16_eq,
    pushUint32_eq, pushUint64_eq, hkind, answerEventWire, h.packageId, h.candidateId, h.questionId,
    h.questionRevision, h.sequence, h.clientTime, h.answer, le_uint32 hrevi,
    le_uint64 hsequ, le_uint64 htime]
  rw [le_uint16 (by omega), le_uint16 (by omega), le_uint16 (by omega), le_uint32 (by omega)]
  simp only [flatten_cons, append_assoc]
  rfl

/-- **What the host builds from an accepted event is valid**, as long as the first event has no
predecessor. -/
lemma Builds.valid {output : AnswerEvent} (h : Builds event output) (hacce : AcceptedEvent pageSha256 event)
    (hfirst : event.sequence = 1 → event.previousEventHashHex = []) : ValidAnswerEvent output := by
  obtain ⟨hrevi, hsequ, htime⟩ := hacce.numbers
  have hkind : ∀ {kind : PageKind}, output.kind = kind.answerKind → event.kind = kind := by
    intro kind hkind
    rw [h.kind] at hkind
    revert hkind
    cases event.kind <;> cases kind <;> simp [PageKind.answerKind]
  have htext : ∀ {text : Utf16}, text ≠ [] ∧ 0 ∉ text ∧ utf8ByteLength text ≤ 128 →
      validText (utf8 text) 128 false := by
    rintro text ⟨hne, hzero, hleng⟩
    exact validText_iff.mpr ⟨.inr (by simpa using hne), hleng, by rwa [zero_mem_utf8]⟩
  constructor
  · rw [h.packageId]
    exact htext hacce.packageId
  · exact h.packageDigest.2
  · rw [validIdentity, h.clientId.2, h.sessionId.2]
    rfl
  · rw [h.candidateId]
    exact htext hacce.candidateId
  · rw [h.kind]
    cases event.kind <;> rfl
  · rw [h.questionRevision, ne_eq, ← UInt32.toNat_inj, UInt32.toNat_ofNat_of_lt' hrevi]
    have := hacce.questionRevision.1
    simp only [UInt32.reduceToNat]
    omega
  · rw [h.sequence, ne_eq, ← toNat_inj, toNat_ofNat_of_lt' hsequ]
    have := hacce.sequence.1
    simp only [reduceToNat]
    omega
  · rw [h.clientTime, ne_eq, ← toNat_inj, toNat_ofNat_of_lt' htime]
    have := hacce.clientTime.1
    simp only [reduceToNat]
    omega
  · rw [h.answer]
    exact hacce.answer
  · intro hne
    rw [h.questionId]
    have hother : event.kind ≠ .finalize := by
      intro hfinal
      exact hne (by rw [h.kind, hfinal]; rfl)
    exact htext ⟨hacce.question hother, hacce.questionId⟩
  · intro hfinal
    obtain ⟨hques, hansw⟩ := hacce.finalize (@hkind .finalize hfinal)
    rw [h.questionId, h.answer, hques, hansw]
    exact ⟨rfl, rfl⟩
  · intro hclear
    rw [h.answer, hacce.clear (@hkind .clear hclear)]
    rfl
  · intro hone
    have hseque : event.sequence = 1 := by
      rw [h.sequence, ← toNat_inj, toNat_ofNat_of_lt' hsequ] at hone
      exact hone
    rw [h.first (hfirst hseque)]
    rfl

lemma hexString_decoded (digest : Digest) : parseHex 32 (utf8 (hexString digest.toList)) = some digest ∧
      wellFormed (hexString digest.toList) := by
  have hc : ∀ code ∈ hexCodes digest.toList, code < 0x80 := by
    intro code hc
    obtain ⟨byte, -, hm⟩ := mem_flatMap.mp hc
    have hb := byte.toNat_lt
    rcases mem_cons.mp hm with rfl | hm
    · exact hexDigit_lt_ascii (by rw [hexDigit_hexChar (by omega)]; rfl)
    · rw [mem_singleton] at hm
      exact hm ▸ hexDigit_lt_ascii (by rw [hexDigit_hexChar (by omega)]; rfl)
  have hu : ∀ code ∈ hexCodes digest.toList, (UInt16.ofNat code).toNat = code := by
    intro code hm
    have := hc code hm
    exact UInt16.toNat_ofNat_of_lt' (by simp only [UInt16.size]; omega)
  have ha : ∀ unit ∈ hexString digest.toList, unit.toNat < 0x80 := by
    intro unit hm
    obtain ⟨code, hd, rfl⟩ := mem_map.mp hm
    rw [hu code hd]
    exact hc code hd
  have hco : (utf8 (hexString digest.toList)).map UInt8.toNat = hexCodes digest.toList := by
    rw [codes_utf8 ha, hexString, map_map]
    exact (map_congr_left fun code hm => hu code hm).trans (map_id _)
  have hl : (utf8 (hexString digest.toList)).length = 32 * 2 := by
    rw [← length_map (f := UInt8.toNat), hco, length_hexCodes, digest.length_toList]
  refine ⟨?_, wellFormed_of_ascii ha⟩
  rw [parseHex, hco, hexPairs_hexCodes, hl]
  simp

/-- **The host builds the event.** -/
lemma exists_builds (hacce : AcceptedEvent pageSha256 event) (hwell : event.WellFormed) :
    ∃ output, Builds event output ∧ receive (answerMessage event) = some (.object
        [(memberName "type", .string (memberName "exam_answer_event")), (memberName "event", receivedEvent event)]) ∧
      ∃ members, answerMembers (receivedEvent event) = some members ∧ buildAnswerEvent members = .ok output := by
  obtain ⟨digest, hdige, hdige', hdiges, hdigestW⟩ :=
    hacce.packageDigestHex.decoded (by omega)
  obtain ⟨client, hclie, hclie', hclien, hclientW⟩ :=
    hacce.clientIdHex.decoded (by omega)
  obtain ⟨session, hsess, hsess', hsessi, hsessio⟩ :=
    hacce.sessionIdHex.decoded (by omega)
  obtain ⟨previous, hprev, hprev', hzero, hprevi⟩ :=
    previousHash_decoded hacce.previousEventHashHex
  have hhash : wellFormed event.eventHashHex := by
    rw [hacce.hash, eventHashHex]
    split
    · exact (hexString_decoded _).2
    · rfl
  obtain ⟨hrevi, hsequ, htime⟩ := hacce.numbers
  have hrevision64 : (UInt64.ofNat event.questionRevision).toNat = event.questionRevision :=
    toNat_ofNat_of_lt' (by simp only [UInt64.size]; omega)
  refine ⟨⟨utf8 event.packageId, digest, client, session, utf8 event.candidateId,
    utf8 event.questionId, UInt32.ofNat event.questionRevision, UInt64.ofNat event.sequence,
    UInt64.ofNat event.clientTimeUnixMilliseconds, event.kind.answerKind, utf8 event.answer,
    previous⟩, ⟨rfl, ⟨hdige, hdiges⟩, ⟨hclie, hclien⟩, ⟨hsess, hsessi⟩, rfl,
    rfl, rfl, rfl, rfl, rfl, rfl, hprev, hzero⟩,
    receive_answerMessage hwell hdigestW hclientW hsessio hhash hprevi,
    _, answerMembers_receivedEvent (by omega) hsequ htime, ?_⟩
  have hposi := hacce.questionRevision.1
  have hnonZ : (UInt64.ofNat event.questionRevision == 0) = false := by
    rw [beq_eq_false_iff_ne, ne_eq, ← toNat_inj, hrevision64]
    simp only [reduceToNat]
    omega
  have hrange : ¬event.questionRevision > 2 ^ 32 - 1 := by omega
  simp only [buildAnswerEvent, hnonZ, hrevision64, hrange, decide_false, Bool.or_false,
    Bool.false_eq_true, if_false, hdige', hclie', hsess', parseKind_name]
  rcases hprev' with hpars | ⟨hnone, rfl, hempty⟩
  · rw [hpars]
  · rw [hnone, hempty]
    rfl

/-- **Browser and native code hash the same bytes.**  For every event the page accepts, with
well-formed strings and without a predecessor for the first event, the host builds an event whose
encoding is, byte for byte, what the page hashes.  If the page's digest function is that of the host,
the hashes agree and `parse_answer_event` accepts the event in its own context. -/
theorem canonicalEventBytes_eq_encode {value : StoredValue}
    (haccepted : validStoredEvent pageSha256 value = some event) (hwell : event.WellFormed)
    (hfirst : event.sequence = 1 → event.previousEventHashHex = []) :
    ∃ output, hostEvent event = some output ∧ canonicalEventBytes event = some (encodeAnswerEvent output) ∧
      encodeAnswerEvent output ≠ [] ∧
      (pageSha256 = sha256 → ∃ hash, hashAnswerEvent sha256 output = some hash ∧
        eventHashHex pageSha256 event = hexString hash.toList ∧
        ∀ context, sameContext output context = true → ∃ root, receive (answerMessage event) = some root ∧
          parseAnswerEvent sha256 root context = .ok output) := by
  have h := acceptedEvent_of_validStoredEvent haccepted
  obtain ⟨output, hbuilds, hreceive, members, hmembers, hbuild⟩ := exists_builds h hwell
  have hvalid := hbuilds.valid h hfirst
  have hbytes := hbuilds.canonicalEventBytes h
  refine ⟨output, ?_, ?_, ?_, ?_⟩
  · simp only [hostEvent, hreceive, Option.bind_eq_bind, Option.bind_some]
    exact (congrArg (Option.bind · fun members => (buildAnswerEvent members).toOption)
      hmembers).trans (congrArg Except.toOption hbuild)
  · rw [hbytes, encodeAnswerEvent_of_valid hvalid]
  · rw [encodeAnswerEvent_of_valid hvalid]
    exact answerEventWire_ne_nil output
  · rintro rfl
    have hhash : eventHashHex pageSha256 event = hexString (pageSha256 (answerEventWire output)).toList := by
      rw [eventHashHex, hbytes]
    refine ⟨pageSha256 (answerEventWire output), hashAnswerEvent_of_valid hvalid, hhash, ?_⟩
    intro context hcontext
    refine ⟨_, hreceive, ?_⟩
    have hsupplied : stringMember (receivedEvent event) "eventHashHex" false =
        some (utf8 (hexString (pageSha256 (answerEventWire output)).toList)) := by
      rw [← hhash, ← h.hash]
      rfl
    have hevent : (member (.object [(memberName "type", .string (memberName "exam_answer_event")),
        (memberName "event", receivedEvent event)]) "event").getD (.object
        [(memberName "type", .string (memberName "exam_answer_event")),
        (memberName "event", receivedEvent event)]) = receivedEvent event := rfl
    simp only [parseAnswerEvent, hevent, hmembers, hbuild, hcontext,
      validateAnswerEvent_iff.mpr hvalid, checkSuppliedHash, hsupplied,
      hashAnswerEvent_of_valid hvalid, (hexString_decoded _).1]
    simp

end Agreement

/-- `firstAnswer` as the page has it. -/
def firstPageEvent : PageEvent where
  packageId := ascii "p"
  packageDigestHex := hexString firstAnswer.packageDigest.toList
  clientIdHex := hexString firstAnswer.clientId.toList
  sessionIdHex := hexString firstAnswer.sessionId.toList
  candidateId := ascii "c"
  questionId := ascii "q"
  questionRevision := 1
  sequence := 1
  clientTimeUnixMilliseconds := 1
  kind := .upsert
  answer := ascii "A"
  eventHashHex := hexString firstAnswerHash.toList
  previousEventHashHex := []

/-- The same as a stored object. -/
def firstStoredValue : StoredValue where
  packageId := .string firstPageEvent.packageId
  packageDigestHex := .string firstPageEvent.packageDigestHex
  clientIdHex := .string firstPageEvent.clientIdHex
  sessionIdHex := .string firstPageEvent.sessionIdHex
  candidateId := .string firstPageEvent.candidateId
  questionId := .string firstPageEvent.questionId
  questionRevision := .number (.integer 1)
  sequence := .number (.integer 1)
  clientTimeUnixMilliseconds := .number (.integer 1)
  kind := .string (ascii "upsert")
  answer := .string firstPageEvent.answer
  eventHashHex := .string firstPageEvent.eventHashHex
  previousEventHashHex := .string []

/-- The page and the host agree on `firstAnswer`. -/
theorem canonicalEventBytes_eq_encode_firstAnswer :
    validStoredEvent firstSha256 firstStoredValue = some firstPageEvent ∧
      ∃ output, hostEvent firstPageEvent = some output ∧ output = firstAnswer ∧
        canonicalEventBytes firstPageEvent = some (encodeAnswerEvent output) := by
  have haccepted : validStoredEvent firstSha256 firstStoredValue = some firstPageEvent := by
    decide +kernel
  have hwell : firstPageEvent.WellFormed :=
    ⟨by decide, by decide, by decide, by decide⟩
  obtain ⟨output, hhost, hbytes, -⟩ := @canonicalEventBytes_eq_encode firstSha256 firstSha256 _ _
    haccepted hwell fun _ => rfl
  have hfirst : hostEvent firstPageEvent = some firstAnswer := by decide +kernel
  exact ⟨haccepted, output, hhost, Option.some.inj (hhost.symm.trans hfirst), hbytes⟩

end Nstu.Web
