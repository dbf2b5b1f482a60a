import Nstu.Core.JsonSize
import Nstu.Web.Load

/-!
# What storage holds of the durable state

`persistDurableState` of `exam/web/app.js` writes the durable state as JSON, and what is read back
has the same strings, numbers and lists.  `PageEvent.stored`, `Draft.stored` and `Durable.stored` are
the values the loader finds.

An event that passes the checks of `validStoredEvent` in normal form is taken as it is
(`validStoredEvent_stored`), and so is a draft (`validStoredDraft_stored`).  Both are far too small for
the limit on their JSON.
-/

namespace Nstu.Web

open Wire Text Option

/-! ## The stored values -/

/-- A number as JSON has it. -/
def JsValue.natural (value : ℕ) : JsValue := .number (.integer value)

/-- An event as it is read back. -/
def PageEvent.stored (event : PageEvent) : StoredValue where
  packageId := .string event.packageId
  packageDigestHex := .string event.packageDigestHex
  clientIdHex := .string event.clientIdHex
  sessionIdHex := .string event.sessionIdHex
  candidateId := .string event.candidateId
  questionId := .string event.questionId
  questionRevision := .natural event.questionRevision
  sequence := .natural event.sequence
  clientTimeUnixMilliseconds := .natural event.clientTimeUnixMilliseconds
  kind := .string event.kind.name
  answer := .string event.answer
  eventHashHex := .string event.eventHashHex
  previousEventHashHex := .string event.previousEventHashHex

/-- A draft as it is read back. -/
def Draft.stored (draft : Draft) : StoredDraft where
  value := some draft.value
  questionRevision := .natural draft.questionRevision
  contextKey := .string draft.contextKey

/-- What `persistDurableState()` writes, as it is read back. -/
def Durable.stored (durable : Durable) : StoredState where
  nextSequence := .natural durable.nextSequence
  previousEventHashHex := .string durable.previousEventHashHex
  serverHighestSequence := .natural durable.serverHighestSequence
  serverLastEventHashHex := .string durable.serverLastEventHashHex
  serverStateHashHex := .string durable.serverStateHashHex
  serverFinalized := .boolean durable.serverFinalized
  contextKey := .string durable.contextKey
  pending := durable.pending.map fun event => some event.stored
  drafts := durable.drafts.map fun entry => (entry.1, some entry.2.stored)
  finalizeRequested := .boolean durable.finalizeRequested

/-! ## Single fields -/

variable {value : ℕ}

lemma safePositive_natural (h : 0 < value ∧ value ≤ maxSafeInteger) : safePositive (.natural value) = some value := by
  simp only [safePositive, JsValue.natural, Int.natCast_pos, Nat.cast_le, if_pos h, Int.toNat_natCast]

lemma safeOrZero_natural (h : value ≤ maxSafeInteger) : safeOrZero (.natural value) = value := by
  rcases Nat.eq_zero_or_pos value with rfl | hp
  · rfl
  · rw [safeOrZero, safePositive_natural ⟨hp, h⟩, getD_some]

variable {text : Utf16}

lemma validIdentifier_string {maximum : ℕ} {allowEmpty : Bool} :
    validIdentifier (.string text) maximum allowEmpty = some text ↔
      (allowEmpty ∨ text ≠ []) ∧ 0 ∉ text ∧ utf8ByteLength text ≤ maximum := by
  constructor
  · exact validIdentifier_eq_some
  · rintro ⟨he, hz, hl⟩
    simp only [validIdentifier, asString, filter_some]
    rw [if_pos]
    simp only [Bool.and_eq_true, Bool.or_eq_true, Bool.not_eq_true', List.isEmpty_eq_false_iff,
      List.any_eq_false, beq_iff_eq, decide_eq_true_eq]
    refine ⟨⟨he, ?_⟩, hl⟩
    rintro unit hu rfl
    exact hz hu

variable {bytes : ℕ}

lemma nonZeroHexOf_string (h : normalizeNonZeroHex text bytes = text)
    (hn : text ≠ []) : nonZeroHexOf (.string text) bytes = some text := by
  simp only [nonZeroHexOf, asString, map_some, h, filter_some]
  exact if_pos (by simpa using hn)

lemma hashOrEmpty_string (h : normalizeNonZeroHex text 32 = text) : hashOrEmpty (.string text) = text := by
  by_cases hn : text = []
  · rw [hn]
    rfl
  · rw [hashOrEmpty, nonZeroHexOf_string h hn, getD_some]

lemma storedPrevious_string (h : normalizeNonZeroHex text 32 = text) : storedPrevious (.string text) = some text := by
  by_cases hn : text = []
  · rw [hn]
    rfl
  · have he : text.isEmpty = false := by simpa using hn
    simp only [storedPrevious, asString, getD_some, he, Bool.false_eq_true, if_false]
    exact nonZeroHexOf_string h hn

lemma ofName_name (kind : PageKind) : PageKind.ofName kind.name = some kind := by
  cases kind <;> decide

/-! ## Events -/

/-- An event that passes the checks of `validStoredEvent`, in the form it gives an event. -/
structure StorableEvent (sha256 : Bytes → Digest) (event : PageEvent) : Prop extends
    AcceptedEvent sha256 event where
  packageDigestNormal : normalizeNonZeroHex event.packageDigestHex 32 = event.packageDigestHex
  clientIdNormal : normalizeNonZeroHex event.clientIdHex 16 = event.clientIdHex
  sessionIdNormal : normalizeNonZeroHex event.sessionIdHex 16 = event.sessionIdHex
  previousNormal : normalizeNonZeroHex event.previousEventHashHex 32 = event.previousEventHashHex
  hashNormal : normalizeNonZeroHex event.eventHashHex 32 = event.eventHashHex

lemma NonZeroHex.ne_nil (h : NonZeroHex bytes text) (hb : 0 < bytes) : text ≠ [] := by
  rintro rfl
  have hl := h.length
  simp only [List.length_nil] at hl
  omega

lemma memberLength_string_le {key text : Utf16} {n : ℕ} (hk : key.length ≤ 32)
    (h : utf8ByteLength text ≤ n) : memberLength (key, .string text) ≤ 6 * n + 200 := by
  have ht := (length_utf8 text).1.trans h
  have hn := length_quote_le key
  have hq := length_quote_le text
  simp only [memberLength, Json.stringify]
  omega

lemma memberLength_number_le {key : Utf16} {value : ℕ} (hk : key.length ≤ 32) (h : value ≤ maxSafeInteger) :
    memberLength (key, .number ((decimal value).map UInt16.ofNat)) ≤ 220 := by
  have hn := length_quote_le key
  have hd : (decimal value).length ≤ 16 :=
    length_decimal_le (by omega) (h.trans_lt (by decide))
  simp only [memberLength, Json.stringify, List.length_map]
  omega

lemma utf8ByteLength_le (text : Utf16) : utf8ByteLength text ≤ 3 * text.length := (length_utf8 text).2

lemma utf8ByteLength_nonZeroHex (h : NonZeroHex bytes text) : utf8ByteLength text ≤ 6 * bytes := by
  have hb := utf8ByteLength_le text
  have hl := h.length
  omega

lemma utf8ByteLength_eventHashHex (sha256 : Bytes → Digest) (event : PageEvent) :
    utf8ByteLength (eventHashHex sha256 event) ≤ 192 := by
  have hb := utf8ByteLength_le (eventHashHex sha256 event)
  have hl : (eventHashHex sha256 event).length ≤ 64 := by
    simp only [eventHashHex]
    split
    · rw [length_hexString, Block.length_toList]
    · exact Nat.zero_le _
  omega

variable {sha256 : Bytes → Digest} {event : PageEvent}

lemma AcceptedEvent.boundedJsonSize_le
    (h : AcceptedEvent sha256 event) : boundedJsonSize event.json ≤ MAX_DURABLE_BYTES := by
  have hkind : utf8ByteLength event.kind.name ≤ 8 := by cases event.kind <;> decide
  have hhash : utf8ByteLength event.eventHashHex ≤ 192 :=
    h.hash ▸ utf8ByteLength_eventHashHex sha256 event
  have hprev : utf8ByteLength event.previousEventHashHex ≤ 192 := by
    rcases h.previousEventHashHex with hnil | hhex
    · rw [hnil]
      exact Nat.zero_le _
    · exact utf8ByteLength_nonZeroHex hhex
  have hrevi : event.questionRevision ≤ maxSafeInteger :=
    h.questionRevision.2.trans (by decide)
  have hmemb : (event.json.stringify).length ≤ 110000 := by
    refine (length_stringify_object_le _).trans ?_
    simp only [List.map_cons, List.map_nil, List.sum_cons, List.sum_nil]
    have hpack := @memberLength_string_le (ascii "packageId") _ _ (by decide) h.packageId.2.2
    have hpacka := @memberLength_string_le (ascii "packageDigestHex") _ _ (by decide)
      (utf8ByteLength_nonZeroHex h.packageDigestHex)
    have hclie := @memberLength_string_le (ascii "clientIdHex") _ _ (by decide)
      (utf8ByteLength_nonZeroHex h.clientIdHex)
    have hsess := @memberLength_string_le (ascii "sessionIdHex") _ _ (by decide)
      (utf8ByteLength_nonZeroHex h.sessionIdHex)
    have hcand := @memberLength_string_le (ascii "candidateId") _ _ (by decide)
      h.candidateId.2.2
    have hques := @memberLength_string_le (ascii "questionId") _ _ (by decide) h.questionId.2
    have hquest := @memberLength_number_le (ascii "questionRevision") _ (by decide)
      hrevi
    have hsequ := @memberLength_number_le (ascii "sequence") _ (by decide) h.sequence.2.le
    have htime := @memberLength_number_le (ascii "clientTimeUnixMilliseconds") _ (by decide)
      h.clientTime.2
    have hkindN := @memberLength_string_le (ascii "kind") _ _ (by decide) hkind
    have hansw := @memberLength_string_le (ascii "answer") _ _ (by decide) h.answer
    have heven := @memberLength_string_le (ascii "eventHashHex") _ _ (by decide) hhash
    have hprevi := @memberLength_string_le (ascii "previousEventHashHex") _ _ (by decide)
      hprev
    simp only [MAX_ANSWER_BYTES] at hansw
    omega
  have hsize := utf8ByteLength_le event.json.stringify
  simp only [boundedJsonSize, MAX_DURABLE_BYTES]
  omega

lemma normalizeNonZeroHex_eventHashHex (hs : ∀ bytes, sha256 bytes ≠ Block.zero 32) (event : PageEvent) :
    normalizeNonZeroHex (eventHashHex sha256 event) 32 = eventHashHex sha256 event := by
  simp only [eventHashHex]
  split
  · rename_i bytes hb
    have hn : allZero (sha256 bytes).toList ≠ true := by
      rw [ne_eq, allZero_iff]
      exact hs bytes
    rw [normalizeNonZeroHex_hexString, if_neg hn]
  · rfl

lemma storedFields_stored (h : StorableEvent sha256 event) : storedFields event.stored = some event := by
  have hsequ : (safePositive event.stored.sequence).filter (· != maxSafeInteger) = some event.sequence := by
    rw [PageEvent.stored, safePositive_natural ⟨h.sequence.1, h.sequence.2.le⟩, filter_some]
    exact if_pos (bne_iff_ne.mpr (Nat.ne_of_lt h.sequence.2))
  have hrevi : (safePositive event.stored.questionRevision).filter (· ≤ 0xffffffff) =
      some event.questionRevision := by
    rw [PageEvent.stored, safePositive_natural
      ⟨h.questionRevision.1, h.questionRevision.2.trans (by decide)⟩, filter_some]
    exact if_pos (decide_eq_true h.questionRevision.2)
  have hansw : (asString event.stored.answer).filter (utf8ByteLength · ≤ MAX_ANSWER_BYTES) = some event.answer := by
    simp only [PageEvent.stored, asString, filter_some]
    exact if_pos (decide_eq_true h.answer)
  have hkind : (asString event.stored.kind).bind PageKind.ofName = some event.kind :=
    ofName_name event.kind
  have hhash : storedHash event.stored.eventHashHex = some event.eventHashHex :=
    nonZeroHexOf_string h.hashNormal h.hashed
  have hpack : validIdentifier event.stored.packageId 128 false = some event.packageId :=
    validIdentifier_string.mpr ⟨.inr h.packageId.1, h.packageId.2⟩
  have hcand : validIdentifier event.stored.candidateId 128 false = some event.candidateId :=
    validIdentifier_string.mpr ⟨.inr h.candidateId.1, h.candidateId.2⟩
  have hques : validIdentifier event.stored.questionId 128 true = some event.questionId :=
    validIdentifier_string.mpr ⟨.inl rfl, h.questionId⟩
  have hdige : nonZeroHexOf event.stored.packageDigestHex 32 = some event.packageDigestHex :=
    nonZeroHexOf_string h.packageDigestNormal (h.packageDigestHex.ne_nil (by decide))
  have hclie : nonZeroHexOf event.stored.clientIdHex 16 = some event.clientIdHex :=
    nonZeroHexOf_string h.clientIdNormal (h.clientIdHex.ne_nil (by decide))
  have hsess : nonZeroHexOf event.stored.sessionIdHex 16 = some event.sessionIdHex :=
    nonZeroHexOf_string h.sessionIdNormal (h.sessionIdHex.ne_nil (by decide))
  have htime : safePositive event.stored.clientTimeUnixMilliseconds =
      some event.clientTimeUnixMilliseconds := safePositive_natural h.clientTime
  have hprev : storedPrevious event.stored.previousEventHashHex =
      some event.previousEventHashHex := storedPrevious_string h.previousNormal
  simp only [storedFields, hsequ, hpack, hdige, hclie, hsess, hcand, hques,
    hrevi, htime, hkind, hansw, hhash, hprev, bind_eq_bind, bind_some]

/-- **An event in normal form that passes the checks is read back as it is.** -/
lemma validStoredEvent_stored (h : StorableEvent sha256 event) : validStoredEvent sha256 event.stored = some event := by
  have hk : kindMismatch event = false := by
    have hf := h.finalize
    have hc := h.clear
    have hq := h.question
    cases hki : event.kind <;> simp_all [kindMismatch]
  have hh : eventHashHex sha256 event ≠ [] := h.hash ▸ h.hashed
  have ho : { event with eventHashHex := eventHashHex sha256 event } = event := by
    rw [← h.hash]
  have hch : ((eventHashHex sha256 event).isEmpty || (!event.eventHashHex.isEmpty &&
      event.eventHashHex != eventHashHex sha256 event)) = false := by
    simp [hh, h.hash]
  simp only [validStoredEvent, storedFields_stored h, hk, hch, ho, Bool.false_eq_true,
    if_false, if_pos h.boundedJsonSize_le]

/-! ## Drafts -/

/-- A draft that passes the checks of `validStoredDraft`. -/
structure StorableDraft (id : Utf16) (draft : Draft) : Prop where
  id : id ≠ [] ∧ 0 ∉ id ∧ utf8ByteLength id ≤ 128
  questionRevision : 0 < draft.questionRevision ∧ draft.questionRevision ≤ 0xffffffff
  contextKey : draft.contextKey.length ≤ 512
  answer : utf8ByteLength (answerText draft.value) ≤ MAX_ANSWER_BYTES

lemma length_stringify_le (value : Json) : value.stringify.length ≤ 6 * (answerText value).length + 5 := by
  cases value with
  | null => decide
  | boolean value => cases value <;> decide
  | number text =>
    simp only [Json.stringify, answerText]
    omega
  | string text =>
    have hq := length_quote_le text
    simp only [Json.stringify, answerText]
    omega
  | array items | object members =>
    simp only [answerText]
    omega

/-- **A draft that passes the checks is read back as it is.** -/
lemma validStoredDraft_stored {id : Utf16} {draft : Draft} (h : StorableDraft id draft) :
    validStoredDraft id draft.stored = some draft := by
  have hid : validIdentifier (.string id) 128 false = some id :=
    validIdentifier_string.mpr ⟨.inr h.id.1, h.id.2⟩
  have hrevi : (safePositive draft.stored.questionRevision).filter (· ≤ 0xffffffff) =
      some draft.questionRevision := by
    rw [Draft.stored, safePositive_natural
      ⟨h.questionRevision.1, h.questionRevision.2.trans (by decide)⟩, filter_some]
    exact if_pos (decide_eq_true h.questionRevision.2)
  have hkey : ((asString draft.stored.contextKey).filter (·.length ≤ 512)).getD [] =
      draft.contextKey := by
    simp only [Draft.stored, asString, filter_some]
    rw [if_pos (decide_eq_true h.contextKey), getD_some]
  have hsize : boundedJsonSize (.object [(ascii "value", draft.value),
      (ascii "questionRevision", .number ((decimal draft.questionRevision).map UInt16.ofNat)),
      (ascii "contextKey", .string draft.contextKey)]) ≤ MAX_DURABLE_BYTES := by
    have hvalue := length_stringify_le draft.value
    have hansw := (length_utf8 (answerText draft.value)).1.trans h.answer
    have hnumb := @memberLength_number_le (ascii "questionRevision") _ (by decide)
      (h.questionRevision.2.trans (by decide))
    have hcont := @memberLength_string_le (ascii "contextKey") _ _ (by decide)
      ((utf8ByteLength_le draft.contextKey).trans (Nat.mul_le_mul_left 3 h.contextKey))
    have hname : (quote (ascii "value")).length = 7 := by decide
    have hleng := length_stringify_object_le [(ascii "value", draft.value),
      (ascii "questionRevision", .number ((decimal draft.questionRevision).map UInt16.ofNat)),
      (ascii "contextKey", .string draft.contextKey)]
    refine (utf8ByteLength_le _).trans ?_
    simp only [List.map_cons, List.map_nil, List.sum_cons, List.sum_nil] at hleng
    have hmemb : memberLength (ascii "value", draft.value) =
        7 + draft.value.stringify.length + 2 := by rw [memberLength, hname]
    simp only [MAX_ANSWER_BYTES] at hansw
    simp only [MAX_DURABLE_BYTES]
    omega
  have hchec : (utf8ByteLength (answerText draft.value) > MAX_ANSWER_BYTES ||
      boundedJsonSize (.object [(ascii "value", draft.value),
        (ascii "questionRevision", .number ((decimal draft.questionRevision).map UInt16.ofNat)),
        (ascii "contextKey", .string draft.contextKey)]) > MAX_DURABLE_BYTES) = false := by
    simp only [Bool.or_eq_false_iff, decide_eq_false_iff_not, gt_iff_lt, Nat.not_lt]
    exact ⟨h.answer, hsize⟩
  simp only [validStoredDraft, hid, hrevi, bind_eq_bind, bind_some]
  rw [show draft.stored.value = some draft.value from rfl, bind_some, hkey]
  simp only [hchec, Bool.false_eq_true, if_false]

end Nstu.Web
