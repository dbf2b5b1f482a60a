import Nstu.Web.LateState

/-!
# What an acknowledgement does to the queue

`handleAnswerAck` of `exam/web/app.js` takes at most the first pending event out of the queue, and
only if the acknowledgement is for that very event; where the write fails, or the acknowledgement is
for something else, the durable state is as it was.

It does not take every acknowledgement it should.  `cursorMismatch` compares the hash of the event
with the last hash the server is known to have when the acknowledged sequence is the *event's*; the
comparison belongs to the case in which it is the *known* watermark, as in the line for the state
hash below it and in `applyStateResponse`.  So an event right above the watermark is refused whenever
a hash has been recorded for the watermark (`ack_handled_iff`), and the page asks for the state of the
server instead.
-/

namespace Nstu.Web

open Wire Text

section Acknowledge

variable (sha256 : Bytes → Digest) (page : ExamPage)

/-- The acknowledgement takes the event: it is accepted or a duplicate, and names the session, the
sequence and the hash of an event of the current context. -/
structure Acknowledges (ack : AckMessage) (event : PageEvent) : Prop where
  context : eventMatchesContext page event = true
  status : ack.status = .accepted ∨ ack.status = .duplicate
  session : normalizeNonZeroHex ack.sessionIdHex 16 = event.sessionIdHex
  sequence : ack.sequence = event.sequence
  hash : normalizeNonZeroHex ack.eventHashHex 32 = localHash sha256 event

/-- The acknowledgement takes the event and makes it the new watermark, one above the recorded one. -/
structure AdvancesTo (durable : Durable) (ack : AckMessage) (event : PageEvent) : Prop where
  acknowledges : Acknowledges sha256 page ack event
  accepted : ack.status = .accepted
  next : event.sequence = durable.serverHighestSequence + 1
  highest : ack.highestContiguousSequence = ack.sequence
  stateHash : normalizeNonZeroHex ack.stateHashHex 32 ≠ []

/-- The event at the head of the queue is gone, and nothing else. -/
structure Retired (event : PageEvent) (rest : List PageEvent) (before after : Durable) : Prop where
  pending : after.pending = rest
  drafts : after.drafts = before.drafts
  previous : after.previousEventHashHex = localHash sha256 event
  nextSequence : after.nextSequence = before.nextSequence
  contextKey : after.contextKey = before.contextKey

/-- The watermark is that of the event. -/
structure WatermarkAt (ack : AckMessage) (event : PageEvent) (durable : Durable) : Prop where
  highest : durable.serverHighestSequence = event.sequence
  lastHash : durable.serverLastEventHashHex = localHash sha256 event
  stateHash : durable.serverStateHashHex = normalizeNonZeroHex ack.stateHashHex 32

/-- Nothing is removed but the first pending event, by an acknowledgement that takes it; the queue
may be flushed after that. -/
def TakesHeadOnly (calls : AckCalls) (state : PageState) (ack : AckMessage) : Prop :=
  (handleAnswerAck sha256 page calls state ack).durable = state.durable ∨
    ∃ event rest settled, state.durable.pending = event :: rest ∧
      Acknowledges sha256 page ack event ∧ Retired sha256 event rest state.durable settled.durable ∧
      (handleAnswerAck sha256 page calls state ack = settled ∨ handleAnswerAck sha256 page calls state ack =
          flushAnswerBridge sha256 page calls.flush settled)

/-- The event above the watermark is retired, without a look at the state of the server. -/
def TakesNext (calls : AckCalls) (state : PageState) (ack : AckMessage) : Prop :=
  ∀ event rest, state.durable.pending = event :: rest →
    AdvancesTo sha256 page state.durable ack event → calls.stored = true →
      (handleAnswerAck sha256 page calls state ack).awaitingStateReconcile = false ∧
        ∃ settled, Retired sha256 event rest state.durable settled.durable ∧
          WatermarkAt sha256 ack event settled.durable ∧
          handleAnswerAck sha256 page calls state ack = flushAnswerBridge sha256 page calls.flush settled

/-- **What the handling of an acknowledgement owes the queue.**  Where the write fails, or the
acknowledgement is for something else, the durable state is as it was. -/
structure AckHandled (calls : AckCalls) (state : PageState) (ack : AckMessage) : Prop where
  removes : TakesHeadOnly sha256 page calls state ack
  advances : TakesNext sha256 page calls state ack
  unchanged : calls.stored = false ∨ (∀ event ∈ state.durable.pending.head?, ¬Acknowledges sha256 page ack event) →
    (handleAnswerAck sha256 page calls state ack).durable = state.durable

end Acknowledge

section AckLemmas

variable {sha256 : Bytes → Digest} {page : ExamPage}

/-! ## The flush does not start a reconciliation -/

lemma quarantine_awaiting {stored : Bool} {state : PageState} (h : state.awaitingStateReconcile = false) :
    (quarantineMismatchedDurableEntries page stored state).1.awaitingStateReconcile = false := by
  simp only [quarantineMismatchedDurableEntries_eq]
  split
  · exact h
  split <;> split <;> first | exact h | rfl

variable {state : PageState} {event : PageEvent} {rest : List PageEvent}

lemma sendPending_awaiting {calls : FlushCalls} (h : state.awaitingStateReconcile = false) :
    (sendPending sha256 page calls state event rest).awaitingStateReconcile = false := by
  simp only [sendPending]
  split
  · exact h
  split
  · exact h
  split
  · exact h
  split <;> exact h

lemma flushPass_awaiting {calls : FlushCalls} {again : PageState → PageState}
    (ha : ∀ state : PageState, state.awaitingStateReconcile = false →
      (again state).awaitingStateReconcile = false) (h : state.awaitingStateReconcile = false) :
    (flushPass sha256 page calls again state).awaitingStateReconcile = false := by
  simp only [flushPass_eq]
  split
  · exact h
  have hq := @quarantine_awaiting page calls.quarantineStored state h
  generalize quarantineMismatchedDurableEntries page calls.quarantineStored state = settled at hq ⊢
  split
  · exact hq
  split
  · exact hq
  split
  · exact hq
  split
  · exact sendPending_awaiting hq
  split
  · exact hq
  split
  · split
    · exact hq
    split
    · exact hq
    split
    · exact hq
    · exact ha _ hq
  · split
    · exact hq
    split
    · exact hq
    split
    · exact hq
    · exact ha _ hq

lemma flushAnswerBridge_awaiting {calls : FlushCalls × FlushCalls} (h : state.awaitingStateReconcile = false) :
    (flushAnswerBridge sha256 page calls state).awaitingStateReconcile = false :=
  flushPass_awaiting (fun _ => flushPass_awaiting fun _ hi => hi) h

/-! ## One acknowledgement -/

lemma PageEvent.Hashed.canonical (h : event.Hashed sha256) :
    isSafePositive event.sequence ∧ event.sessionIdHex ≠ [] ∧ localHash sha256 event ≠ [] := by
  have hb := eventHashHex_ne_nil_iff.mp (h.1 ▸ h.2)
  obtain ⟨-, -, hs, -, hf⟩ := canonicalEventBytes_isSome_iff.mp hb
  refine ⟨?_, ?_, ?_⟩
  · simp only [canonicalFields, Bool.and_eq_true] at hf
    exact hf.1.1.1.1.2
  · intro he
    rw [he] at hs
    cases hs
  · rw [localHash_of_hashed h.1, ← h.1]
    exact h.2

variable {calls : AckCalls} {ack : AckMessage}

lemma handleAnswerAck_other (h : ∀ event ∈ state.durable.pending.head?, ¬Acknowledges sha256 page ack event) :
    (handleAnswerAck sha256 page calls state ack).durable = state.durable := by
  simp only [handleAnswerAck, restoreHead_retireHead, retireHead_hash]
  split
  · rfl
  rename_i event rest hp
  split
  · rfl
  rename_i he
  split
  · rfl
  rename_i hh
  split
  · -- every check has been passed, so the acknowledgement is for this event
    rename_i hs
    simp only [Bool.or_eq_true, Bool.and_eq_true, bne_iff_ne, ne_eq, beq_iff_eq, Bool.not_eq_true',
      not_or, not_and, not_not] at he hh hs
    obtain ⟨⟨⟨⟨-, hse⟩, hc⟩, -⟩, hses⟩ := he
    have heq : normalizeNonZeroHex ack.eventHashHex 32 = localHash sha256 event := by
      refine (hh.1.1 ?_).2
      rcases hs with hs | hs <;> simp [hs]
    exact absurd ⟨by simpa using hc, hs, hses, hse.symm, heq⟩
      (h event (by rw [hp]; rfl))
  · split <;> rfl

/-- The checks that are left for an acknowledgement that takes the head of the queue. -/
def ackRefused (durable : Durable) (ack : AckMessage) (eventHash : Utf16) : Bool :=
  let stateHash := normalizeNonZeroHex ack.stateHashHex 32
  stateHash.isEmpty || ack.highestContiguousSequence > maxSafeInteger ||
    ack.highestContiguousSequence < ack.sequence ||
    cursorMismatch durable ack.highestContiguousSequence ack.sequence eventHash stateHash

lemma handleAnswerAck_head (hhash : event.Hashed sha256)
    (hpend : state.durable.pending = event :: rest) (h : Acknowledges sha256 page ack event) :
    handleAnswerAck sha256 page calls state ack =
      if ackRefused state.durable ack (localHash sha256 event) then
        if cursorMismatch state.durable ack.highestContiguousSequence ack.sequence
            (localHash sha256 event) (normalizeNonZeroHex ack.stateHashHex 32) then
          state.clearInFlight.beginStateReconcile
        else state.clearInFlight
      else if calls.stored then
        let retired := retireHead state event rest ack.highestContiguousSequence
          (localHash sha256 event) (normalizeNonZeroHex ack.stateHashHex 32)
        if ack.highestContiguousSequence > ack.sequence then retired.beginStateReconcile
        else flushAnswerBridge sha256 page calls.flush retired
      else state.clearInFlight := by
  obtain ⟨hsafe, hsess, hlocal⟩ := hhash.canonical
  have hown : { event with eventHashHex := localHash sha256 event } = event := by
    rw [localHash_of_hashed hhash.1, ← hhash.1]
  have hchec : (!isSafePositive ack.sequence || event.sequence != ack.sequence ||
      !eventMatchesContext page event || (normalizeNonZeroHex ack.sessionIdHex 16).isEmpty ||
      normalizeNonZeroHex ack.sessionIdHex 16 != event.sessionIdHex) = false := by
    simp [h.sequence, h.context, h.session, hsafe, hsess]
  have hstat : (ack.status == .accepted || ack.status == .duplicate) := by
    rcases h.status with hstat | hstat <;> rw [hstat] <;> rfl
  have havai : (ack.status == .unavailable) = false := by
    rcases h.status with hstat | hstat <;> rw [hstat] <;> rfl
  have hempty : (localHash sha256 event).isEmpty = false := by simpa using hlocal
  simp only [handleAnswerAck, restoreHead_retireHead, hpend, hchec, h.hash, hstat, havai,
    hempty, bne_self_eq_false, Bool.false_eq_true, if_false, if_true, Bool.or_false, Bool.false_or, Bool.and_false,
    Bool.false_and, Bool.not_false, Bool.true_and, ackRefused, Bool.not_eq_true', hown]
  split
  · rfl
  · have hkept : { state.clearInFlight with
        durable := { state.durable with pending := event :: rest } } = state.clearInFlight := by
      rw [← hpend]
      rfl
    cases calls.stored with
    | true => rfl
    | false => exact hkept

lemma retireHead_retired {state : PageState} {event : PageEvent} {rest : List PageEvent}
    (highest : ℕ) (stateHash : Utf16) : Retired sha256 event rest state.durable
      (retireHead state event rest highest (localHash sha256 event) stateHash).durable := by
  simp only [retireHead]
  split <;> split <;> exact ⟨rfl, rfl, rfl, rfl, rfl⟩

variable {highest : ℕ}

lemma retireHead_watermark (h : highest = event.sequence) :
    WatermarkAt sha256 ack event (retireHead state event rest highest (localHash sha256 event)
      (normalizeNonZeroHex ack.stateHashHex 32)).durable := by
  simp only [retireHead, beq_iff_eq, if_pos h]
  split <;> exact ⟨rfl, rfl, rfl⟩

lemma retireHead_awaiting {eventHash stateHash : Utf16} :
    (retireHead state event rest highest eventHash stateHash).awaitingStateReconcile = false := by
  simp only [retireHead]
  split <;> rfl

/-- The last hash the server is known to have. -/
def Durable.recordedHash (durable : Durable) : Utf16 :=
  normalizeNonZeroHex durable.serverLastEventHashHex 32

lemma ackRefused_advances {durable : Durable} (hs : durable.Sound sha256) (hh : event.Hashed sha256)
    (h : AdvancesTo sha256 page durable ack event) : (ackRefused durable ack (localHash sha256 event) ↔
      durable.recordedHash ≠ [] ∧ localHash sha256 event ≠ durable.recordedHash) ∧
    (cursorMismatch durable ack.highestContiguousSequence ack.sequence (localHash sha256 event)
        (normalizeNonZeroHex ack.stateHashHex 32) ↔
      durable.recordedHash ≠ [] ∧ localHash sha256 event ≠ durable.recordedHash) := by
  have hse := h.acknowledges.sequence
  have hsa : ack.sequence ≤ maxSafeInteger := by
    rw [hse]
    exact (isSafePositive_iff.mp hh.canonical.1).2
  have ha : durable.serverHighestSequence < ack.sequence := by
    rw [hse, h.next]
    exact Nat.lt_succ_self _
  have hm : cursorMismatch durable ack.highestContiguousSequence ack.sequence
      (localHash sha256 event) (normalizeNonZeroHex ack.stateHashHex 32) ↔
      durable.recordedHash ≠ [] ∧ localHash sha256 event ≠ durable.recordedHash := by
    have ho : (ack.sequence == durable.serverHighestSequence) = false :=
      beq_eq_false_iff_ne.mpr (Nat.ne_of_gt ha)
    simp only [cursorMismatch, h.highest, knownHighest_eq hs.cursor, Nat.not_lt_of_gt ha,
      ho, hsa, decide_true, decide_false, Bool.true_and, Bool.false_or, beq_self_eq_true,
      Bool.false_and, Bool.or_false, Bool.and_eq_true, Bool.not_eq_true', List.isEmpty_eq_false_iff,
      bne_iff_ne, Durable.recordedHash]
  refine ⟨?_, hm⟩
  rw [← hm]
  simp [ackRefused, h.stateHash, h.highest, hsa]

/-! ## Every acknowledgement -/

lemma takesHeadOnly (hs : state.durable.Sound sha256) : TakesHeadOnly sha256 page calls state ack := by
  by_cases ha : ∃ event ∈ state.durable.pending.head?, Acknowledges sha256 page ack event
  · obtain ⟨event, he, ha⟩ := ha
    obtain ⟨rest, hp⟩ := List.head?_eq_some_iff.mp he
    have hh := hs.hashed event (by rw [hp]; exact List.mem_cons_self)
    have hr := @retireHead_retired sha256 state event rest ack.highestContiguousSequence
      (normalizeNonZeroHex ack.stateHashHex 32)
    rw [TakesHeadOnly, handleAnswerAck_head hh hp ha]
    split
    · left
      split <;> rfl
    split
    · simp only
      split
      · exact .inr ⟨event, rest, PageState.beginStateReconcile _, hp, ha, hr, .inl rfl⟩
      · exact .inr ⟨event, rest, _, hp, ha, hr, .inr rfl⟩
    · exact .inl rfl
  · push Not at ha
    exact .inl (handleAnswerAck_other ha)

lemma takesNext_iff (hsound : state.durable.Sound sha256) : TakesNext sha256 page calls state ack ↔
      ∀ event ∈ state.durable.pending.head?, AdvancesTo sha256 page state.durable ack event → calls.stored →
          state.durable.recordedHash = [] ∨ state.durable.recordedHash = localHash sha256 event := by
  constructor
  · intro h event hevent hnext hstor
    obtain ⟨rest, hpend⟩ := List.head?_eq_some_iff.mp hevent
    have hhash := hsound.hashed event (by rw [hpend]; exact List.mem_cons_self)
    have hawai := (h event rest hpend hnext hstor).1
    by_contra hreco
    push Not at hreco
    obtain ⟨hrefu, hmism⟩ := ackRefused_advances hsound hhash hnext
    have hother := And.intro hreco.1 hreco.2.symm
    rw [handleAnswerAck_head hhash hpend hnext.acknowledges, if_pos (hrefu.mpr hother),
      if_pos (hmism.mpr hother)] at hawai
    cases hawai
  · intro h event rest hpend hnext hstor
    have hhash := hsound.hashed event (by rw [hpend]; exact List.mem_cons_self)
    have hreco := h event (by rw [hpend]; rfl) hnext hstor
    have hrefu : ackRefused state.durable ack (localHash sha256 event) ≠ true := by
      rw [ne_eq, (ackRefused_advances hsound hhash hnext).1]
      rintro ⟨hne, hother⟩
      exact hother (hreco.resolve_left hne).symm
    have hhigh : ¬ack.highestContiguousSequence > ack.sequence := by
      rw [hnext.highest]
      exact Nat.lt_irrefl _
    rw [handleAnswerAck_head hhash hpend hnext.acknowledges, if_neg hrefu, if_pos hstor]
    simp only [if_neg hhigh]
    exact ⟨flushAnswerBridge_awaiting retireHead_awaiting, _, retireHead_retired _ _,
      retireHead_watermark (hnext.highest.trans hnext.acknowledges.sequence), rfl⟩

lemma ack_unchanged (hs : state.durable.Sound sha256)
    (h : calls.stored = false ∨ (∀ event ∈ state.durable.pending.head?, ¬Acknowledges sha256 page ack event)) :
    (handleAnswerAck sha256 page calls state ack).durable = state.durable := by
  by_cases ha : ∃ event ∈ state.durable.pending.head?, Acknowledges sha256 page ack event
  · obtain ⟨event, he, ha⟩ := ha
    obtain ⟨rest, hp⟩ := List.head?_eq_some_iff.mp he
    have hh := hs.hashed event (by rw [hp]; exact List.mem_cons_self)
    have hf : ¬calls.stored := by
      rw [Bool.not_eq_true]
      exact h.resolve_right fun ho => ho event he ha
    rw [handleAnswerAck_head hh hp ha, if_neg hf]
    split
    · split <;> rfl
    · rfl
  · push Not at ha
    exact handleAnswerAck_other ha

end AckLemmas

/-- **An acknowledgement is handled as it should be unless it is for the event above a watermark with
another hash.**  In every state of the page and for every acknowledgement: at most the first pending
event is taken out, by an acknowledgement for it; the durable state stays as it was where the write
fails or the acknowledgement is for something else; and the event above the watermark is retired and
becomes the watermark if and only if no last hash is recorded but the event's own. -/
theorem ack_handled_iff {sha256 : Bytes → Digest} {page : ExamPage} {state : PageState}
    (hreach : PageReach sha256 page state) (calls : AckCalls) (ack : AckMessage) :
    AckHandled sha256 page calls state ack ↔
      ∀ event ∈ state.durable.pending.head?, AdvancesTo sha256 page state.durable ack event → calls.stored = true →
          state.durable.recordedHash = [] ∨ state.durable.recordedHash = localHash sha256 event := by
  have hsound := hreach.sound
  rw [← takesNext_iff hsound]
  constructor
  · intro h
    exact h.advances
  · intro h
    exact ⟨takesHeadOnly hsound, h, ack_unchanged hsound⟩

/-! ## Two answers on the first page -/

/-- An acknowledgement of the server for an event of `firstPage` that it has just accepted. -/
def acceptedAck (sequence : ℕ) (eventHashHex : Utf16) : AckMessage where
  status := .accepted
  sessionIdHex := firstPageEvent.sessionIdHex
  sequence := sequence
  highestContiguousSequence := sequence
  eventHashHex := eventHashHex
  stateHashHex := hexString firstStateHash.toList

/-- The page has sent `firstAnswer`. -/
def firstSentPage : PageState :=
  flushAnswerBridge firstSha256 firstPage readyCalls.flush draftedPage

/-- The acknowledgement of `firstAnswer`. -/
def firstAckedPage : PageState :=
  handleAnswerAck firstSha256 firstPage ⟨true, readyCalls.flush⟩ firstSentPage
    (acceptedAck 1 firstPageEvent.eventHashHex)

/-- The page has sent a second answer. -/
def secondSentPage : PageState :=
  flushAnswerBridge firstSha256 firstPage readyCalls.flush
    (queueAnswerDraft firstPage true firstAckedPage (ascii "q") (.string (ascii "B")))

lemma pageReach_firstSentPage : PageReach firstSha256 firstPage firstSentPage :=
  .flushed (.drafted (.started _ _) _ _ _) _

lemma pageReach_secondSentPage : PageReach firstSha256 firstPage secondSentPage :=
  .flushed (.drafted (.received pageReach_firstSentPage
    (.ack ⟨true, readyCalls.flush⟩ (acceptedAck 1 firstPageEvent.eventHashHex))) _ _ _) _

/-- The first acknowledgement of an exam is handled. -/
theorem ack_handled_iff_firstAnswer : firstSentPage.durable.pending = [firstPageEvent] ∧
      AckHandled firstSha256 firstPage ⟨true, readyCalls.flush⟩ firstSentPage
        (acceptedAck 1 firstPageEvent.eventHashHex) := by
  refine ⟨by decide +kernel, (ack_handled_iff pageReach_firstSentPage _ _).mpr ?_⟩
  have hrecorded : firstSentPage.durable.recordedHash = [] := by decide +kernel
  exact fun _ _ _ _ => Or.inl hrecorded

/-- The second one is not: the page keeps the event and waits for the server's state. -/
theorem ack_refused_secondAnswer : ∃ event : PageEvent, secondSentPage.durable.pending = [event] ∧
      PageReach firstSha256 firstPage secondSentPage ∧
      AdvancesTo firstSha256 firstPage secondSentPage.durable (acceptedAck 2 event.eventHashHex) event ∧
      (let after := handleAnswerAck firstSha256 firstPage ⟨true, readyCalls.flush⟩ secondSentPage
        (acceptedAck 2 event.eventHashHex)
      after.durable.pending = [event] ∧ after.durable.serverHighestSequence = 1 ∧
        after.awaitingStateReconcile = true) ∧
      ¬AckHandled firstSha256 firstPage ⟨true, readyCalls.flush⟩ secondSentPage
        (acceptedAck 2 event.eventHashHex) := by
  let event : PageEvent := { firstPageEvent with
    sequence := 2, answer := ascii "B", previousEventHashHex := firstPageEvent.eventHashHex
    eventHashHex := hexString firstStateHash.toList }
  have hadvances : AdvancesTo firstSha256 firstPage secondSentPage.durable
      (acceptedAck 2 event.eventHashHex) event := by
    refine ⟨⟨?_, Or.inl rfl, ?_, rfl, ?_⟩, rfl, ?_, rfl, ?_⟩ <;> decide +kernel
  have hrun : secondSentPage.durable.pending = [event] ∧
      let after := handleAnswerAck firstSha256 firstPage ⟨true, readyCalls.flush⟩ secondSentPage
        (acceptedAck 2 event.eventHashHex)
      after.durable.pending = [event] ∧ after.durable.serverHighestSequence = 1 ∧
        after.awaitingStateReconcile = true := by
    decide +kernel
  obtain ⟨hpending, hafter⟩ := hrun
  refine ⟨event, hpending, pageReach_secondSentPage, hadvances, hafter, fun h => ?_⟩
  have hdone := (h.advances event [] hpending hadvances rfl).1
  rw [hafter.2.2] at hdone
  cases hdone

end Nstu.Web
