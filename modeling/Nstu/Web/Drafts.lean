import Nstu.Web.LateState
import Nstu.Web.Stored

/-!
# Drafts that become events

`queueAnswerDraft` of `exam/web/app.js` takes an answer, `durableEventForDraft` makes an event of it,
and `flushAnswerBridge` queues the event in the place of the first draft.

The three do not agree on every answer.  `answerIsEmpty` calls a string of white space and an empty
array empty, so that they are sent as a `clear`, but `answerText` still gives them a text, and a
`clear` with a text has no canonical bytes.  And an id that `normalizeManifest` accepts may be too long
in UTF-8, or have a zero character, for `validStoredEvent`.  For all other answers a draft never
blocks the queue (`draft_never_blocks_iff`).
-/

namespace Nstu.Web

open Wire Text

section Events

variable {sha256 : Bytes → Digest} {page : ExamPage}

/-! ## New events -/

/-- What an event of the page has to have for `validStoredEvent`, beside the cursor and the time. -/
structure EventParts (id : Utf16) (revision : ℕ) (kind : PageKind) (text : Utf16) : Prop where
  questionId : 0 ∉ id ∧ utf8ByteLength id ≤ 128
  questionRevision : 0 < revision ∧ revision ≤ 0xffffffff
  answer : utf8ByteLength text ≤ MAX_ANSWER_BYTES
  finalize : kind = .finalize → id = [] ∧ text = []
  clear : kind = .clear → text = []
  question : kind ≠ .finalize → id ≠ []

lemma nonZeroHex_of_normal {text : Utf16} {bytes : ℕ} (h : normalizeNonZeroHex text bytes = text)
    (hn : text ≠ []) : NonZeroHex bytes text := by
  rw [← h] at hn ⊢
  exact nonZeroHex_of_normalize hn

/-- **A new event of a bound page passes the checks of `validStoredEvent`.** -/
lemma newEvent_storable (hsha : ∀ bytes, sha256 bytes ≠ Block.zero 32)
    (hready : page.bridgeReady) {durable : Durable}
    (hnext : 0 < durable.nextSequence ∧ durable.nextSequence < maxSafeInteger)
    (hprev : normalizeNonZeroHex durable.previousEventHashHex 32 = durable.previousEventHashHex)
    {now : ℕ} (hnow : isSafePositive now) {questionId : Utf16} {questionRevision : ℕ}
    {kind : PageKind} {answer : Utf16} (h : EventParts questionId questionRevision kind answer) :
    ∃ event, newEvent sha256 page durable now questionId questionRevision kind answer = some event ∧
      StorableEvent sha256 event := by
  simp only [ExamPage.bridgeReady, Bool.and_eq_true, Bool.not_eq_true', List.isEmpty_eq_false_iff,
    beq_iff_eq] at hready
  obtain ⟨⟨⟨⟨⟨hpack, hmani⟩, hdige⟩, hclie⟩, hsess⟩, hcand⟩ := hready
  let event : PageEvent := {
    packageId := page.manifestId
    packageDigestHex := page.context.packageDigestHex
    clientIdHex := page.context.clientIdHex
    sessionIdHex := page.context.sessionIdHex
    candidateId := page.context.candidateId
    questionId, questionRevision
    sequence := durable.nextSequence
    clientTimeUnixMilliseconds := now
    kind, answer
    eventHashHex := []
    previousEventHashHex := durable.previousEventHashHex }
  have hfiel : AcceptedFields event :=
    { packageId := by
        show page.manifestId ≠ [] ∧ 0 ∉ page.manifestId ∧ utf8ByteLength page.manifestId ≤ 128
        rw [← hmani]
        exact ⟨hpack, page.context.packageIdFits⟩
      packageDigestHex := nonZeroHex_of_normal page.context.packageDigestNormal hdige
      clientIdHex := nonZeroHex_of_normal page.context.clientIdNormal hclie
      sessionIdHex := nonZeroHex_of_normal page.context.sessionIdNormal hsess
      candidateId := ⟨hcand, page.context.candidateIdFits⟩
      questionId := h.questionId
      questionRevision := h.questionRevision
      sequence := hnext
      clientTime := isSafePositive_iff.mp hnow
      answer := h.answer
      previousEventHashHex := (Decidable.em (durable.previousEventHashHex = [])).imp_right
        fun hne => nonZeroHex_of_normal hprev hne }
  have hhash : eventHashHex sha256 event ≠ [] := by
    rw [eventHashHex_ne_nil_iff, canonicalEventBytes_isSome_iff]
    exact ⟨hfiel.packageDigestHex.hexBytes_isSome hdige,
      hfiel.clientIdHex.hexBytes_isSome hclie, hfiel.sessionIdHex.hexBytes_isSome hsess,
      (Decidable.em (durable.previousEventHashHex = [])).imp_right fun hne =>
        (nonZeroHex_of_normal hprev hne).hexBytes_isSome hne,
      hfiel.canonicalFields h.finalize h.clear h.question⟩
  have hempty : (eventHashHex sha256 event).isEmpty = false := by simpa using hhash
  refine ⟨{ event with eventHashHex := eventHashHex sha256 event }, ?_, ?_⟩
  · show (if (eventHashHex sha256 event).isEmpty then none
      else some { event with eventHashHex := eventHashHex sha256 event }) = _
    rw [hempty]
    rfl
  · exact
      { packageId := hfiel.packageId
        packageDigestHex := hfiel.packageDigestHex
        clientIdHex := hfiel.clientIdHex
        sessionIdHex := hfiel.sessionIdHex
        candidateId := hfiel.candidateId
        questionId := hfiel.questionId
        questionRevision := hfiel.questionRevision
        sequence := hfiel.sequence
        clientTime := hfiel.clientTime
        answer := hfiel.answer
        previousEventHashHex := hfiel.previousEventHashHex
        finalize := h.finalize
        clear := h.clear
        question := h.question
        hash := rfl
        hashed := hhash
        packageDigestNormal := page.context.packageDigestNormal
        clientIdNormal := page.context.clientIdNormal
        sessionIdNormal := page.context.sessionIdNormal
        previousNormal := hprev
        hashNormal := normalizeNonZeroHex_eventHashHex hsha event }

/-! ## Drafts -/

/-- The draft that `queueAnswerDraft` makes of an answer it accepts. -/
def acceptedDraft (page : ExamPage) (id : Utf16) (value : Json) : Option Draft :=
  (page.questionById id).bind fun item =>
    if utf8ByteLength (answerText value) > MAX_ANSWER_BYTES then none
    else some ⟨value, item.revision, page.contextKey⟩

lemma queueAnswerDraft_eq (stored : Bool) (state : PageState) (id : Utf16) (value : Json) :
    queueAnswerDraft page stored state id value =
      match acceptedDraft page id value with
      | none => state
      | some draft =>
        if stored then { state with durable := { state.durable with
          drafts := setDraft id draft state.durable.drafts } }
        else state := by
  simp only [queueAnswerDraft, acceptedDraft]
  cases page.questionById id with
  | none => rfl
  | some item =>
    simp only [Option.bind_some]
    by_cases hs : utf8ByteLength (answerText value) > MAX_ANSWER_BYTES
    · simp [hs]
    · cases stored <;> simp [hs]

/-- A cursor that can give an event its number. -/
structure UsableCursor (durable : Durable) : Prop where
  next : 0 < durable.nextSequence ∧ durable.nextSequence < maxSafeInteger
  fresh : ∀ event ∈ durable.pending, event.sequence ≠ durable.nextSequence
  previous : normalizeNonZeroHex durable.previousEventHashHex 32 = durable.previousEventHashHex

/-- The answer and its question go into an event: what is called empty is empty, and the id is short
enough and has no zero character. -/
def FitsEvent (id : Utf16) (value : Json) : Prop :=
  (answerIsEmpty value = true → answerText value = []) ∧ 0 ∉ id ∧ utf8ByteLength id ≤ 128

lemma durableEventForDraft_accepted (hready : page.bridgeReady) {durable : Durable}
    (hcurs : UsableCursor durable) {now : ℕ} {id : Utf16} {value : Json} {draft : Draft}
    (hacce : acceptedDraft page id value = some draft) :
    ∃ item : Question, item.id = id ∧ durableEventForDraft sha256 page durable now id draft =
        newEvent sha256 page durable now id item.revision
          (if answerIsEmpty value then .clear else .upsert) (answerText value) ∧
      utf8ByteLength (answerText value) ≤ MAX_ANSWER_BYTES := by
  simp only [acceptedDraft, Option.bind_eq_some_iff] at hacce
  obtain ⟨item, hitem, hacce⟩ := hacce
  split at hacce
  · cases hacce
  rename_i hsize
  cases hacce
  have hfound := List.find?_some hitem
  have hid : item.id = id := beq_iff_eq.mp hfound
  refine ⟨item, hid, ?_, Nat.not_lt.mp hsize⟩
  have hfresh : durable.pending.any (fun event => event.sequence == durable.nextSequence) = false := by
    rw [List.any_eq_false]
    intro event hevent
    simpa using hcurs.fresh event hevent
  have hzero : (durable.nextSequence == 0) = false :=
    beq_eq_false_iff_ne.mpr (Nat.ne_of_gt hcurs.next.1)
  have hmaxi : decide (durable.nextSequence ≥ maxSafeInteger) = false :=
    decide_eq_false (Nat.not_le.mpr hcurs.next.2)
  simp only [durableEventForDraft, hitem, hready, hsize, hfresh, hzero, hmaxi, hid, decide_false,
    bne_self_eq_false, Bool.and_false, Bool.not_true, Bool.or_false, Bool.false_eq_true, if_false]

lemma newEvent_answer {durable : Durable} {now : ℕ} {questionId : Utf16} {questionRevision : ℕ}
    {kind : PageKind} {answer : Utf16} {event : PageEvent}
    (h : newEvent sha256 page durable now questionId questionRevision kind answer = some event) :
    event.kind = kind ∧ event.answer = answer := by
  simp only [newEvent] at h
  split at h
  · cases h
  · cases h
    exact ⟨rfl, rfl⟩

/-- **An accepted draft becomes an event that storage keeps if and only if it fits one.** -/
lemma event_of_draft_iff (hsha : ∀ bytes, sha256 bytes ≠ Block.zero 32)
    (hready : page.bridgeReady) {durable : Durable} (hcurs : UsableCursor durable) {now : ℕ}
    (hnow : isSafePositive now) {id : Utf16} {value : Json} {draft : Draft}
    (hacce : acceptedDraft page id value = some draft) :
    (∃ event, durableEventForDraft sha256 page durable now id draft = some event ∧
      validStoredEvent sha256 event.stored = some event) ↔ FitsEvent id value := by
  obtain ⟨item, hid, hevent, hsize⟩ :=
    @durableEventForDraft_accepted sha256 page hready durable hcurs now id value draft hacce
  rw [hevent]
  constructor
  · rintro ⟨event, hnew, hvalid⟩
    have hacce := acceptedEvent_of_validStoredEvent hvalid
    obtain ⟨-, hques, hansw⟩ := newEvent_spec hready hnew
    have hkind := (newEvent_answer hnew).1
    refine ⟨fun hempty => ?_, hques ▸ hacce.questionId⟩
    rw [hempty, if_pos rfl] at hkind
    exact hansw ▸ hacce.clear hkind
  · rintro ⟨hempty, hfits⟩
    obtain ⟨event, hnew, hstor⟩ := newEvent_storable hsha hready hcurs.next hcurs.previous
      hnow (show EventParts id item.revision (if answerIsEmpty value then .clear else .upsert) (answerText value) from
      { questionId := hfits
        questionRevision := item.revisionBounds
        answer := hsize
        finalize := fun hkind => by split at hkind <;> cases hkind
        clear := fun hkind => hempty (by by_contra hfull; rw [if_neg hfull] at hkind; cases hkind)
        question := fun _ => hid ▸ item.idBounds.1 })
    exact ⟨event, hnew, validStoredEvent_stored hstor⟩

/-! ## The head of the queue -/

/-- Nothing is pending and nothing keeps the page from sending. -/
structure ReadyToSend (page : ExamPage) (state : PageState) : Prop where
  contextKey : state.durable.contextKey = page.contextKey
  pending : state.durable.pending = []
  running : state.durable.serverFinalized = false
  conflict : state.recoveryConflict = false
  awaiting : state.awaitingStateReconcile = false
  cursor : UsableCursor state.durable
  known : state.durable.nextSequence = 1 ∨ state.durable.previousEventHashHex ≠ []

/-- The page is in its host, and storage takes what it is given. -/
structure BrowserWorks (calls : FlushCalls) : Prop where
  webView : calls.webView = true
  now : isSafePositive calls.now = true
  quarantineStored : calls.quarantineStored = true
  durableFits : calls.durableFits = true
  queueStored : calls.queueStored = true

/-- The first draft has become the event that is pending, and the other drafts of the context are
there. -/
def Dequeued (page : ExamPage) (event : PageEvent) (rest : List (Utf16 × Draft)) (after : Durable) :
    Prop :=
  (after.pending.filter (eventMatchesContext page)).map PageEvent.content = [event.content] ∧
    ∀ entry, entry ∈ currentDrafts page.contextKey after.drafts ↔ entry ∈ currentDrafts page.contextKey rest

lemma acceptedDraft_spec {id : Utf16} {value : Json} {draft : Draft} (h : acceptedDraft page id value = some draft) :
    draft.value = value ∧ draft.contextKey = page.contextKey := by
  simp only [acceptedDraft, Option.bind_eq_some_iff] at h
  obtain ⟨item, -, h⟩ := h
  split at h
  · cases h
  · cases h
    exact ⟨rfl, rfl⟩

lemma currentDrafts_cons {id : Utf16} {draft : Draft} {rest : List (Utf16 × Draft)}
    (h : draft.contextKey = page.contextKey) :
    currentDrafts page.contextKey ((id, draft) :: rest) = (id, draft) :: currentDrafts page.contextKey rest := by
  have hk : (draft.contextKey.isEmpty || draft.contextKey == page.contextKey) := by
    simp [h]
  have hs : { draft with contextKey := page.contextKey } = draft := by
    rw [← h]
  simp only [currentDrafts, List.filter_cons, hk, if_true, List.map_cons, hs]

lemma queueEvent_works {calls : FlushCalls} (hc : BrowserWorks calls) {durable : Durable}
    (hn : durable.pending = []) (event : PageEvent) :
    ∃ queued, queuedEvent calls durable event = some queued ∧ queued.contextKey = durable.contextKey ∧
      queued.pending = [event] ∧ queued.drafts = durable.drafts := by
  simp only [queuedEvent, hn, hc.durableFits, hc.queueStored, MAX_DURABLE_EVENTS]
  exact ⟨_, rfl, rfl, rfl, rfl⟩

lemma quarantine_works {calls : FlushCalls} {state : PageState} (hb : page.bridgeReady)
    (hr : ReadyToSend page state) (hc : BrowserWorks calls) :
    ∃ settled : PageState, quarantineMismatchedDurableEntries page calls.quarantineStored state = (settled, true) ∧
        settled.durable = state.durable.quarantined page ∧
        settled.serverFinalized = (state.durable.quarantined page).serverFinalized ∧
        settled.recoveryConflict = false ∧ settled.awaitingStateReconcile = false := by
  simp only [quarantineMismatchedDurableEntries_eq, hb, hr.contextKey, hc.quarantineStored,
    beq_self_eq_true, Bool.not_true, Bool.and_false, Bool.false_eq_true, if_false, if_true]
  exact ⟨_, rfl, rfl, rfl, hr.conflict, hr.awaiting⟩

lemma flushPass_queues {calls : FlushCalls} {again : PageState → PageState} {state : PageState}
    (hbound : page.bridgeReady) (hready : ReadyToSend page state) (hcalls : BrowserWorks calls)
    {id : Utf16} {draft : Draft} {rest : List (Utf16 × Draft)}
    (hdraf : state.durable.drafts = (id, draft) :: rest)
    (hkey : draft.contextKey = page.contextKey) {event : PageEvent}
    (hevent : durableEventForDraft sha256 page state.durable calls.now id draft = some event)
    (hsize : boundedJsonSize event.json ≤ MAX_DURABLE_BYTES) :
    ∃ queued : PageState, flushPass sha256 page calls again state = again queued ∧
      queued.durable.contextKey = page.contextKey ∧ queued.durable.pending = [event] ∧
      queued.durable.drafts = currentDrafts page.contextKey rest := by
  have hquar : state.durable.quarantined page = { state.durable with
      pending := [], drafts := (id, draft) :: currentDrafts page.contextKey rest } := by
    simp only [Durable.quarantined, hready.contextKey, beq_self_eq_true, if_true, hready.pending,
      List.filter_nil, hdraf, currentDrafts_cons hkey]
  -- the event depends on the cursor only
  have hsame : durableEventForDraft sha256 page (state.durable.quarantined page) calls.now id draft =
      some event := by
    rw [← hevent, hquar]
    simp only [durableEventForDraft, hready.pending]
    rfl
  have hwaits : (decide ((state.durable.quarantined page).nextSequence > 1) &&
      (state.durable.quarantined page).previousEventHashHex.isEmpty) = false := by
    rw [hquar]
    rcases hready.known with hfirst | hknown
    · simp [hfirst]
    · simp [hknown]
  have hopen : (state.durable.quarantined page).serverFinalized = false := by
    rw [hquar]
    exact hready.running
  have hcont : (state.durable.quarantined page).contextKey = page.contextKey := by
    rw [hquar]
    exact hready.contextKey
  have hpend : (state.durable.quarantined page).pending = [] := by rw [hquar]
  have hdraft : (state.durable.quarantined page).drafts =
      (id, draft) :: currentDrafts page.contextKey rest := by rw [hquar]
  obtain ⟨settled, hsett, hdura, hfinal, hconf, hawai⟩ :=
    quarantine_works hbound hready hcalls
  generalize state.durable.quarantined page = quarantined
    at hsame hwaits hopen hcont hpend hdraft hdura hfinal
  obtain ⟨queued, hqueue, hqueu, hqueued, hqueuedD⟩ := @queueEvent_works calls hcalls
    { quarantined with drafts := currentDrafts page.contextKey rest } hpend event
  refine ⟨{ settled with durable := queued }, ?_, hqueu.trans hcont, hqueued, hqueuedD⟩
  simp only [hpend, hopen] at hqueue
  simp only [flushPass_eq, hbound, hcalls.webView, hsett, hdura, hopen, hfinal, hconf,
    hawai, hpend, hdraft, hwaits, hsame, Nat.not_lt.mpr hsize, Bool.not_true,
    Bool.or_false, Bool.false_eq_true, if_false, gt_iff_lt, hqueue]

/-- **Where the first draft has an event, the flush queues it.** -/
lemma flushAnswerBridge_dequeues {calls : FlushCalls × FlushCalls} {state : PageState}
    (hbound : page.bridgeReady) (hready : ReadyToSend page state)
    (hcalls : BrowserWorks calls.1) {key : Utf16} {draft : Draft} {rest : List (Utf16 × Draft)}
    (hdraf : state.durable.drafts = (key, draft) :: rest)
    (hkey : draft.contextKey = page.contextKey) {event : PageEvent}
    (hevent : durableEventForDraft sha256 page state.durable calls.1.now key draft = some event)
    (hsize : boundedJsonSize event.json ≤ MAX_DURABLE_BYTES) :
    Dequeued page event rest (flushAnswerBridge sha256 page calls state).durable := by
  obtain ⟨queued, hpass, hcont, hpend, hqueu⟩ :=
    @flushPass_queues sha256 page calls.1 (flushPass sha256 page calls.2 id) state hbound hready hcalls
      key draft rest hdraf hkey event hevent hsize
  have hcurr : queued.durable.pending.filter (eventMatchesContext page) = [event] := by
    rw [hpend, List.filter_singleton, (durableEventForDraft_spec hbound hevent).1]
    rfl
  obtain ⟨hconti, -⟩ := @sends_flushPass sha256 page calls.2 queued hcont
    (by rw [hcurr]; exact List.cons_ne_nil _ _)
  rw [flushAnswerBridge, hpass]
  refine ⟨by rw [hconti.pending, hcurr]; rfl, fun entry => ?_⟩
  have hsame : currentDrafts page.contextKey queued.durable.drafts =
      currentDrafts page.contextKey rest := by rw [hqueu, currentDrafts_idem]
  constructor
  · intro hentry
    exact hsame ▸ hconti.noDraft entry hentry
  · intro hentry
    rcases hconti.drafted entry (hsame ▸ hentry) with hkept | ⟨event, hnone, -⟩
    · exact hkept
    · cases hnone

/-! ## A draft that has no event -/

lemma durableEventForDraft_eq_none {draft : Draft} (hempty : answerIsEmpty draft.value)
    (htext : answerText draft.value ≠ []) (durable : Durable) (now : ℕ) (id : Utf16) :
    durableEventForDraft sha256 page durable now id draft = none := by
  simp only [durableEventForDraft]
  split
  · rfl
  rename_i item hitem
  split
  · rfl
  cases hevent : newEvent sha256 page durable now item.id item.revision .clear (answerText draft.value) with
  | none => rfl
  | some event =>
    obtain ⟨hkind, hansw⟩ := newEvent_answer hevent
    obtain ⟨hhash, hhashe⟩ := newEvent_hashed hevent
    -- the bytes of a `clear` have no answer
    have hfiel := (canonicalEventBytes_isSome_iff.mp (eventHashHex_ne_nil_iff.mp (hhash ▸ hhashe))).2.2.2.2
    simp only [canonicalFields, Bool.and_eq_true] at hfiel
    have hnone : utf8 event.answer = [] := by simpa [hkind] using hfiel.1.2
    exact absurd (utf8_eq_nil_iff.mp hnone) (hansw ▸ htext)

/-- Nothing is pending behind the draft, which is the first one. -/
structure Heads (page : ExamPage) (id : Utf16) (draft : Draft) (state : PageState) : Prop where
  contextKey : state.durable.contextKey = page.contextKey
  pending : state.durable.pending = []
  first : state.durable.drafts.head? = some (id, draft)

lemma flushPass_heads {calls : FlushCalls} {again : PageState → PageState} {state : PageState}
    {id : Utf16} {draft : Draft} (hk : draft.contextKey = page.contextKey)
    (hn : ∀ durable now, durableEventForDraft sha256 page durable now id draft = none)
    (h : Heads page id draft state) : Heads page id draft (flushPass sha256 page calls again state) := by
  have hq : Heads page id draft
      (quarantineMismatchedDurableEntries page calls.quarantineStored state).1 := by
    obtain ⟨rest, hr⟩ := List.head?_eq_some_iff.mp h.first
    simp only [quarantineMismatchedDurableEntries_eq, h.contextKey, beq_self_eq_true, if_true]
    split
    · exact h
    split
    · exact h
    · refine ⟨?_, ?_, ?_⟩ <;>
        simp [Durable.quarantined, h.contextKey, h.pending, hr, currentDrafts_cons hk]
  simp only [flushPass_eq]
  split
  · exact h
  generalize quarantineMismatchedDurableEntries page calls.quarantineStored state = settled at hq ⊢
  obtain ⟨rest, hr⟩ := List.head?_eq_some_iff.mp hq.first
  split
  · exact hq
  split
  · exact ⟨hq.contextKey, hq.pending, hq.first⟩
  split
  · exact hq
  simp only [hq.pending, hr, hn]
  split <;> exact hq

/-- **A draft that has no event stays the first one.** -/
lemma flushAnswerBridge_heads (calls : FlushCalls × FlushCalls) {state : PageState} {id : Utf16}
    {draft : Draft} (hk : draft.contextKey = page.contextKey)
    (hn : ∀ durable now, durableEventForDraft sha256 page durable now id draft = none)
    (h : Heads page id draft state) :
    Heads page id draft (flushAnswerBridge sha256 page calls state) :=
  flushPass_heads hk hn h

end Events

/-- The draft becomes an event of its own, whatever time it is, and the page that is ready to send
queues it in the place of the draft. -/
structure NeverBlocks (sha256 : Bytes → Digest) (page : ExamPage) (id : Utf16) (draft : Draft)
    (durable : Durable) (now : ℕ) : Prop where
  event : ∃ event, durableEventForDraft sha256 page durable now id draft = some event ∧
    validStoredEvent sha256 event.stored = some event
  flush : ∀ (calls : FlushCalls × FlushCalls) (state : PageState) (rest : List (Utf16 × Draft)),
    ReadyToSend page state → BrowserWorks calls.1 → state.durable.drafts = (id, draft) :: rest →
      ∃ event, durableEventForDraft sha256 page state.durable calls.1.now id draft = some event ∧
        Dequeued page event rest (flushAnswerBridge sha256 page calls state).durable

/-- **A draft never blocks the queue if and only if what is called empty is empty and its id is short
enough.**  For every answer that `queueAnswerDraft` accepts in a bound page, with any cursor that can
be used. -/
theorem draft_never_blocks_iff {sha256 : Bytes → Digest} (hsha : ∀ bytes, sha256 bytes ≠ Block.zero 32)
    {page : ExamPage} (hbound : page.bridgeReady = true) {durable : Durable}
    (hcursor : UsableCursor durable) {now : ℕ} (hnow : isSafePositive now = true) {id : Utf16}
    {value : Json} {draft : Draft} (haccepted : acceptedDraft page id value = some draft) :
    NeverBlocks sha256 page id draft durable now ↔
      (answerIsEmpty value = true → answerText value = []) ∧ 0 ∉ id ∧ utf8ByteLength id ≤ 128 := by
  constructor
  · intro h
    exact (event_of_draft_iff hsha hbound hcursor hnow haccepted).mp h.event
  · intro hfits
    refine ⟨(event_of_draft_iff hsha hbound hcursor hnow haccepted).mpr hfits, ?_⟩
    intro calls state rest hready hcalls hdrafts
    obtain ⟨event, hevent, hvalid⟩ :=
      (event_of_draft_iff hsha hbound hready.cursor hcalls.now haccepted).mpr hfits
    exact ⟨event, hevent, flushAnswerBridge_dequeues hbound hready hcalls hdrafts
      (acceptedDraft_spec haccepted).2 hevent
      (acceptedEvent_of_validStoredEvent hvalid).boundedJsonSize_le⟩

/-! ## Two answers on the first page -/

/-- A page that has drafted a string for its question and wants to finish. -/
def finishingPage (answer : String) : PageState :=
  requestFinalization firstPage true
    (queueAnswerDraft firstPage true (startPage firstSha256 firstPage none) (ascii "q") (.string (ascii answer)))

/-- The answer `A` does not block. -/
theorem draft_never_blocks_firstAnswer :
    NeverBlocks firstSha256 firstPage (ascii "q") ⟨.string (ascii "A"), 1, firstPage.contextKey⟩
      (startPage firstSha256 firstPage none).durable 1 := by
  have hbound : firstPage.bridgeReady = true := by decide +kernel
  have haccepted : acceptedDraft firstPage (ascii "q") (.string (ascii "A")) =
      some ⟨.string (ascii "A"), 1, firstPage.contextKey⟩ := rfl
  refine (draft_never_blocks_iff firstSha256_ne_zero hbound ⟨?_, ?_, ?_⟩ (by decide) haccepted).mpr
    ⟨?_, ?_, ?_⟩
  · decide +kernel
  · intro event hevent
    cases hevent
  · decide +kernel
  · decide
  · decide
  · decide

/-- A blank does: the page never gets to its finalization. -/
theorem draft_blocks_blank : acceptedDraft firstPage (ascii "q") (.string (ascii " ")) =
        some ⟨.string (ascii " "), 1, firstPage.contextKey⟩ ∧
      firstPage.bridgeReady = true ∧ UsableCursor (startPage firstSha256 firstPage none).durable ∧
      ¬NeverBlocks firstSha256 firstPage (ascii "q") ⟨.string (ascii " "), 1, firstPage.contextKey⟩
        (startPage firstSha256 firstPage none).durable 1 ∧
      (finishingPage " ").durable.finalizeRequested = true ∧
      ∀ calls, (flushAnswerBridge firstSha256 firstPage calls (finishingPage " ")).durable.pending = [] := by
  have hnone : ∀ durable now, durableEventForDraft firstSha256 firstPage durable now (ascii "q")
      ⟨.string (ascii " "), 1, firstPage.contextKey⟩ = none := fun durable now =>
    durableEventForDraft_eq_none (by decide) (by decide) durable now _
  refine ⟨rfl, by decide +kernel, ⟨by decide +kernel, ?_, by decide +kernel⟩, ?_, rfl, fun calls => ?_⟩
  · intro event hevent
    cases hevent
  · rintro ⟨⟨event, hevent, -⟩, -⟩
    rw [hnone] at hevent
    cases hevent
  · have hheads : Heads firstPage (ascii "q") ⟨.string (ascii " "), 1, firstPage.contextKey⟩
        (finishingPage " ") := ⟨rfl, rfl, rfl⟩
    exact (flushAnswerBridge_heads calls rfl hnone hheads).pending

end Nstu.Web
