import Nstu.Web.Host
import Nstu.Web.Page

/-!
# What a run of the page keeps

`Advances` says what every function of the answer bridge does to the durable state: it stays sound,
and the watermark recorded for a context does not go back.  A context ends only when the page is
bound to another one.

`PageReach` are the states the page can be in, from whatever it finds in storage.
-/

namespace Nstu.Web

open Wire Text

section Advances

variable (sha256 : Bytes → Digest) (page : ExamPage)

/-- The watermark of the recorded context is kept or raised, or the record is one of another context
and gives way to the page's own. -/
def WatermarkKept (before after : Durable) : Prop :=
  (after.contextKey = before.contextKey ∧ before.serverHighestSequence ≤ after.serverHighestSequence) ∨
    (before.contextKey ≠ page.contextKey ∧ after.contextKey = page.contextKey)

/-- A step that keeps the durable state sound and the watermark. -/
def Advances (before after : Durable) : Prop :=
  before.Sound sha256 → after.Sound sha256 ∧ WatermarkKept page before after

end Advances

section Steps

variable {sha256 : Bytes → Digest} {page : ExamPage}

lemma WatermarkKept.refl (durable : Durable) : WatermarkKept page durable durable :=
  .inl ⟨rfl, Nat.le_refl _⟩

variable {first second third : Durable}

lemma WatermarkKept.trans (h : WatermarkKept page first second)
    (h' : WatermarkKept page second third) : WatermarkKept page first third := by
  rcases h with ⟨hk, hl⟩ | ⟨ho, hc⟩
  · rcases h' with ⟨hk', hl'⟩ | ⟨ho', hc'⟩
    · exact .inl ⟨hk'.trans hk, hl.trans hl'⟩
    · exact .inr ⟨hk ▸ ho', hc'⟩
  · rcases h' with ⟨hk', -⟩ | ⟨ho', -⟩
    · exact .inr ⟨ho, hk'.trans hc⟩
    · exact absurd hc ho'

lemma Advances.refl (durable : Durable) : Advances sha256 page durable durable :=
  fun h => ⟨h, .refl durable⟩

lemma Advances.trans (h : Advances sha256 page first second)
    (h' : Advances sha256 page second third) : Advances sha256 page first third := by
  intro hs
  obtain ⟨hse, hk⟩ := h hs
  obtain ⟨ht, hk'⟩ := h' hse
  exact ⟨ht, hk.trans hk'⟩

variable {before after : Durable}

lemma Advances.of_pending (hk : after.contextKey = before.contextKey)
    (hh : after.serverHighestSequence = before.serverHighestSequence)
    (hp : after.previousEventHashHex = before.previousEventHashHex)
    (ho : before.Sound sha256 → after.pending.Pairwise fun left right => left.sequence < right.sequence)
    (hha : before.Sound sha256 → ∀ event ∈ after.pending, event.Hashed sha256) :
    Advances sha256 page before after := by
  intro h
  refine ⟨⟨ho h, hha h, ?_, ?_⟩, .inl ⟨hk, ?_⟩⟩
  · rw [hh]
    exact h.cursor
  · rw [hp]
    exact h.previous
  · rw [hh]

lemma Advances.of_frame (hk : after.contextKey = before.contextKey)
    (hh : after.serverHighestSequence = before.serverHighestSequence)
    (hp : after.previousEventHashHex = before.previousEventHashHex)
    (hpe : after.pending = before.pending) : Advances sha256 page before after :=
  .of_pending hk hh hp (fun h => hpe ▸ h.ordered) fun h => hpe ▸ h.hashed

/-! ## Quarantine -/

lemma quarantined_advances (durable : Durable) : Advances sha256 page durable (durable.quarantined page) := by
  intro h
  have ho := h.ordered.filter (eventMatchesContext page)
  have hh : ∀ event ∈ durable.pending.filter (eventMatchesContext page),
      event.Hashed sha256 := fun event he => h.hashed event (List.mem_of_mem_filter he)
  simp only [Durable.quarantined]
  split
  · exact ⟨⟨ho, hh, h.cursor, h.previous⟩, .inl ⟨rfl, Nat.le_refl _⟩⟩
  · rename_i hk
    exact ⟨⟨ho, hh, Nat.zero_le _, rfl⟩, .inr ⟨by simpa using hk, rfl⟩⟩

lemma quarantine_advances (stored : Bool) (state : PageState) : Advances sha256 page state.durable
      (quarantineMismatchedDurableEntries page stored state).1.durable := by
  simp only [quarantineMismatchedDurableEntries_eq]
  split
  · exact .refl _
  split
  · split <;> exact .refl _
  · split <;> exact quarantined_advances _

/-! ## Sending -/

lemma content_rebaseHead (durable : Durable) (event : PageEvent) :
    (rebaseHead sha256 page durable event).content = event.content := by
  simp only [rebaseHead]
  split
  · rfl
  split <;> rfl

variable {durable : Durable} {event : PageEvent}

lemma hashed_rebaseHead (hp : normalizeNonZeroHex durable.previousEventHashHex 32 = durable.previousEventHashHex)
    (h : event.Hashed sha256) : (rebaseHead sha256 page durable event).Hashed sha256 := by
  simp only [rebaseHead]
  split
  · exact hashed_withPredecessor h hp
  split
  · exact hashed_withPredecessor h rfl
  · exact h

variable {rest : List PageEvent}

lemma replaceHead_advances {output : PageEvent}
    (hp : durable.pending = event :: rest) (hc : output.content = event.content)
    (hh : durable.Sound sha256 → event.Hashed sha256 → output.Hashed sha256) :
    Advances sha256 page durable { durable with pending := output :: rest } := by
  refine .of_pending rfl rfl rfl (fun h => ?_) fun h => ?_
  · have ho := h.ordered
    rw [hp, List.pairwise_cons] at ho
    rw [List.pairwise_cons, sequence_content hc]
    exact ho
  · have ha := h.hashed
    rw [hp, List.forall_mem_cons] at ha
    rw [List.forall_mem_cons]
    exact ⟨hh h ha.1, ha.2⟩

variable {state : PageState}

lemma sendPending_advances (calls : FlushCalls) (hp : state.durable.pending = event :: rest) :
    Advances sha256 page state.durable (sendPending sha256 page calls state event rest).durable := by
  have hr : Advances sha256 page state.durable { state.durable with
      pending := rebaseHead sha256 page state.durable event :: rest } :=
    replaceHead_advances hp (content_rebaseHead state.durable event)
      fun hs => hashed_rebaseHead hs.previous
  simp only [sendPending]
  split
  · exact .refl _
  split
  · exact .refl _
  split
  · exact hr
  split
  · exact hr
  · exact hr

variable {now : ℕ}

lemma newEvent_hashed {questionId : Utf16} {questionRevision : ℕ} {kind : PageKind} {answer : Utf16}
    (h : newEvent sha256 page durable now questionId questionRevision kind answer = some event) :
    event.Hashed sha256 := by
  simp only [newEvent] at h
  split at h
  · cases h
  · rename_i hd
    cases h
    exact ⟨rfl, by simpa using hd⟩

lemma durableEventForDraft_hashed {id : Utf16} {draft : Draft}
    (h : durableEventForDraft sha256 page durable now id draft = some event) : event.Hashed sha256 := by
  simp only [durableEventForDraft] at h
  split at h
  · cases h
  split at h
  · cases h
  · exact newEvent_hashed h

lemma queued_advances (hk : after.contextKey = before.contextKey)
    (hh : after.serverHighestSequence = before.serverHighestSequence)
    (hp : after.previousEventHashHex = before.previousEventHashHex)
    (hpe : after.pending = [event]) (hha : event.Hashed sha256) : Advances sha256 page before after := by
  refine .of_pending hk hh hp (fun _ => ?_) fun _ => ?_
  · rw [hpe]
    exact List.pairwise_singleton _ _
  · rw [hpe]
    simpa using hha

lemma flushPass_advances (calls : FlushCalls) {again : PageState → PageState}
    (ha : ∀ state, Advances sha256 page state.durable (again state).durable) (state : PageState) :
    Advances sha256 page state.durable (flushPass sha256 page calls again state).durable := by
  have hq : Advances sha256 page state.durable
      (quarantineMismatchedDurableEntries page calls.quarantineStored state).1.durable :=
    quarantine_advances calls.quarantineStored state
  simp only [flushPass_eq]
  split
  · exact .refl _
  generalize quarantineMismatchedDurableEntries page calls.quarantineStored state = quarantined at hq ⊢
  obtain ⟨valid, proceeds⟩ := quarantined
  refine hq.trans ?_
  simp only
  split
  · exact .refl _
  split
  · exact .refl _
  split
  · exact .refl _
  split
  · rename_i event rest hp
    exact sendPending_advances calls hp
  rename_i hp
  split
  · exact .refl _
  split
  · rename_i id draft drafts hd
    split
    · exact .refl _
    rename_i event he
    split
    · exact .refl _
    split
    · exact .of_frame rfl rfl rfl rfl
    · rename_i queued hqu
      simp only [queuedEvent] at hqu
      split at hqu
      · cases hqu
      cases hqu
      refine Advances.trans ?_ (ha _)
      exact queued_advances rfl rfl rfl (by simp [hp]) (durableEventForDraft_hashed he)
  · split
    · exact .refl _
    split
    · exact .refl _
    rename_i event he
    split
    · exact .refl _
    · refine Advances.trans ?_ (ha _)
      exact queued_advances rfl rfl rfl (by simp [hp]) (newEvent_hashed he)

lemma flushAnswerBridge_advances (calls : FlushCalls × FlushCalls) (state : PageState) :
    Advances sha256 page state.durable (flushAnswerBridge sha256 page calls state).durable :=
  flushPass_advances calls.1 (flushPass_advances calls.2 fun _ => .refl _) state

/-! ## Acknowledgements -/

/-- The head goes, and the cursor moves to it. -/
lemma retireHead_spec (state : PageState) (event : PageEvent) (rest : List PageEvent) (highest : ℕ)
    (eventHash stateHash : Utf16) :
    let retired := (retireHead state event rest highest eventHash stateHash).durable
    retired.pending = rest ∧ retired.contextKey = state.durable.contextKey ∧
      retired.previousEventHashHex = eventHash ∧
      retired.serverHighestSequence =
        if highest = event.sequence then event.sequence else state.durable.serverHighestSequence := by
  simp only [retireHead, beq_iff_eq]
  split <;> split <;> exact ⟨rfl, rfl, rfl, rfl⟩

lemma knownHighest_eq (h : durable.serverHighestSequence ≤ maxSafeInteger) :
    durable.knownHighest = durable.serverHighestSequence := by
  rw [Durable.knownHighest, if_pos h]

variable {highest : ℕ} {stateHash : Utf16}

lemma retireHead_advances {eventHash : Utf16} (hpend : state.durable.pending = event :: rest)
    (hsafe : event.sequence ≤ maxSafeInteger) (hhigh : state.durable.knownHighest ≤ highest)
    (hhash : normalizeNonZeroHex eventHash 32 = eventHash) :
    Advances sha256 page state.durable (retireHead state event rest highest eventHash stateHash).durable := by
  obtain ⟨hrest, hkey, hprev, hcurs⟩ := retireHead_spec state event rest highest eventHash stateHash
  intro hsound
  have horde := hsound.ordered
  have hhashe := hsound.hashed
  have hknown := hsound.cursor
  rw [hpend] at horde hhashe
  rw [knownHighest_eq hknown] at hhigh
  refine ⟨⟨?_, ?_, ?_, by rw [hprev, hhash]⟩, .inl ⟨hkey, ?_⟩⟩
  · rw [hrest]
    exact (List.pairwise_cons.mp horde).2
  · rw [hrest]
    exact (List.forall_mem_cons.mp hhashe).2
  · rw [hcurs]
    split <;> assumption
  · rw [hcurs]
    split <;> omega

lemma handleAnswerAck_advances (calls : AckCalls) (state : PageState) (ack : AckMessage) :
    Advances sha256 page state.durable (handleAnswerAck sha256 page calls state ack).durable := by
  simp only [handleAnswerAck, restoreHead_retireHead, retireHead_hash]
  split
  · exact .refl _
  rename_i event rest hpend
  split
  · exact .refl _
  rename_i hevent
  split
  · exact .refl _
  rename_i hhash
  split
  · rename_i hstat
    simp only [Bool.or_eq_true, Bool.and_eq_true, bne_iff_ne, ne_eq, beq_iff_eq, Bool.not_eq_true',
      not_or, not_and, not_not] at hevent hhash hstat
    obtain ⟨⟨⟨⟨hsafe, hsequ⟩, -⟩, -⟩, -⟩ := hevent
    rw [Bool.not_eq_false, isSafePositive_iff, ← hsequ] at hsafe
    have hequal : normalizeNonZeroHex ack.eventHashHex 32 = localHash sha256 event := by
      refine (hhash.1.1 ?_).2
      rcases hstat with hstat | hstat <;> simp [hstat]
    split
    · split <;> exact .refl _
    rename_i hcurs
    split
    · -- the hash the server has confirmed is the event's own
      refine replaceHead_advances hpend rfl fun _ hhashe => ?_
      have hown := hequal.trans (localHash_of_hashed hhashe.1)
      exact ⟨hown, fun hempty => hhashe.2 (hhashe.1.trans (hown.symm.trans hempty))⟩
    simp only [cursorMismatch, Bool.or_eq_true, Bool.and_eq_true, decide_eq_true_eq, not_or,
      not_and, Nat.not_lt] at hcurs
    have hreti : ∀ stateHash, Advances sha256 page state.durable (retireHead state event rest
        ack.highestContiguousSequence (normalizeNonZeroHex ack.eventHashHex 32) stateHash).durable :=
      fun _ => retireHead_advances hpend hsafe.2 (hcurs.2 hcurs.1.1.2).1.1
        (normalizeNonZeroHex_idem _ _)
    split
    · exact hreti _
    · exact (hreti _).trans (flushAnswerBridge_advances calls.flush _)
  · split <;> exact .refl _

/-! ## State responses -/

lemma repair_advances {stored : Bool} {lastHash : Utf16} {answers : List RecoveredAnswer}
    (hh : durable.knownHighest ≤ highest)
    (h : repairPendingChain sha256 page stored durable lastHash highest answers stateHash =
      (after, true)) : Advances sha256 page durable after := by
  intro hs
  obtain ⟨-, ha, hw⟩ := repaired_of_repairPendingChain hs h
  obtain ⟨-, -, -, pending, -, rfl⟩ := repairPendingChain_eq_true hs h
  rw [knownHighest_eq hs.cursor] at hh
  exact ⟨ha, .inl ⟨rfl, hh⟩⟩

lemma finalizeState_advances (calls : StateCalls) (state : PageState) (highest : ℕ) :
    Advances sha256 page state.durable (finalizeState page calls state highest).durable := by
  have hq : Advances sha256 page state.durable
      (quarantineMismatchedDurableEntries page calls.quarantineStored state).1.durable :=
    quarantine_advances calls.quarantineStored state
  simp only [finalizeState_eq]
  split
  · exact hq
  · exact hq.trans (.of_frame rfl rfl rfl rfl)

lemma applyCompleteState_advances (calls : StateCalls) (state : PageState) (complete : CompleteState) :
    Advances sha256 page state.durable (applyCompleteState sha256 page calls state complete).durable := by
  simp only [applyCompleteState]
  split
  · exact .refl _
  split
  · split <;> exact .refl _
  rename_i hr
  simp only [refusal, Bool.or_eq_true, Bool.and_eq_true, decide_eq_true_eq, not_or, not_and, Nat.not_lt] at hr
  have hh : state.durable.knownHighest ≤ complete.highestContiguousSequence :=
    hr.1.1.1.2 hr.1.1.1.1
  split
  · exact .refl _
  rename_i durable hre
  have ha := repair_advances hh hre
  let repaired : PageState := { state.clearInFlight with
    durable, awaitingStateReconcile := false, recoveryConflict := false }
  split
  · exact ha.trans (finalizeState_advances calls repaired _)
  split
  · exact ha
  · exact ha.trans (flushAnswerBridge_advances calls.flush repaired)

lemma applyStateResponse_advances (calls : StateCalls) (state : PageState) (response : StateMessage) :
    Advances sha256 page state.durable (applyStateResponse sha256 page calls state response).durable := by
  simp only [applyStateResponse]
  split
  · exact .refl _
  · exact applyCompleteState_advances calls { state with
      stateChunks := (collectStateChunk page calls.now state.stateChunks response).1 } _

end Steps

/-! ## Runs -/

/-- A message of the host about answers, with what the browser answers while it is handled. -/
inductive HostMessage where
  | ack (calls : AckCalls) (message : AckMessage)
  | stateResponse (calls : StateCalls) (message : StateMessage)

section Runs

variable (sha256 : Bytes → Digest) (page : ExamPage)

/-- `handleHostMessage` of a message about answers. -/
def handleHostMessage (state : PageState) : HostMessage → PageState
  | .ack calls message => handleAnswerAck sha256 page calls state message
  | .stateResponse calls message => applyStateResponse sha256 page calls state message

/-- A run of `handleAnswerAck` and `applyStateResponse` calls. -/
def handleMessages (state : PageState) (messages : List HostMessage) : PageState :=
  messages.foldl (handleHostMessage sha256 page) state

/-- The page once it has been loaded. -/
def startPage (value : Option StoredState) : PageState :=
  let durable := adoptTrustedContextCursor page (loadDurableState sha256 page value)
  { durable
    inFlightSequence := 0
    inFlightEventHashHex := []
    inFlightContextKey := []
    awaitingStateReconcile := false
    recoveryConflict := false
    finalizeRequested := durable.finalizeRequested
    serverFinalized := durable.serverFinalized
    stateChunks := none }

/-- `drafts[id] = draft`. -/
def setDraft (id : Utf16) (draft : Draft) (drafts : List (Utf16 × Draft)) : List (Utf16 × Draft) :=
  if drafts.any fun entry => entry.1 == id then
    drafts.map fun entry => if entry.1 == id then (id, draft) else entry
  else addDraft id draft drafts

def queueAnswerDraft (stored : Bool) (state : PageState) (id : Utf16) (value : Json) : PageState :=
  match page.questionById id with
  | none => state
  | some item =>
    if utf8ByteLength (answerText value) > MAX_ANSWER_BYTES || !stored then state
    else { state with durable := { state.durable with
      drafts := setDraft id ⟨value, item.revision, page.contextKey⟩ state.durable.drafts } }

/-- What `submitResponse()` does to the durable state before it flushes the bridge. -/
def requestFinalization (stored : Bool) (state : PageState) : PageState :=
  if !page.bridgeReady || !stored then state
  else { state with
    durable := { state.durable with finalizeRequested := true }, finalizeRequested := true }

/-- `handleHostMessage` of an `exam_context` message that binds the page to `page`: a context
with the key of the last one goes on with the durable state, any other one loads its own. -/
def bindContext (calls : FlushCalls × FlushCalls) (stored : Bool) (lastKey : Utf16)
    (value : Option StoredState) (state : PageState) : PageState :=
  let state :=
    if page.contextKey == lastKey then state
    else { startPage sha256 page none with durable := loadDurableState sha256 page value }
  let state := (quarantineMismatchedDurableEntries page stored state).1
  let durable :=
    if page.contextKey == lastKey then { state.durable with contextKey := page.contextKey }
    else state.durable
  let durable := adoptTrustedContextCursor page durable
  let state := { state with
    durable
    finalizeRequested :=
      if page.contextKey == lastKey then state.finalizeRequested else durable.finalizeRequested
    serverFinalized := durable.serverFinalized }
  flushAnswerBridge sha256 page calls state.beginStateReconcile

/-- The states the page can be in, with the manifest and the context it is bound to. -/
inductive PageReach : ExamPage → PageState → Prop where
  | started (page : ExamPage) (value : Option StoredState) :
      PageReach page (startPage sha256 page value)
  | received {page : ExamPage} {state : PageState} (h : PageReach page state)
      (message : HostMessage) : PageReach page (handleHostMessage sha256 page state message)
  | flushed {page : ExamPage} {state : PageState} (h : PageReach page state)
      (calls : FlushCalls × FlushCalls) :
      PageReach page (flushAnswerBridge sha256 page calls state)
  | reconciling {page : ExamPage} {state : PageState} (h : PageReach page state) :
      PageReach page state.beginStateReconcile
  | ackTimedOut {page : ExamPage} {state : PageState} (h : PageReach page state) :
      PageReach page state.clearInFlight
  | drafted {page : ExamPage} {state : PageState} (h : PageReach page state) (stored : Bool)
      (id : Utf16) (value : Json) : PageReach page (queueAnswerDraft page stored state id value)
  | finalizing {page : ExamPage} {state : PageState} (h : PageReach page state) (stored : Bool) :
      PageReach page (requestFinalization page stored state)
  | bound {page : ExamPage} {state : PageState} (h : PageReach page state) (context : ExamContext)
      (calls : FlushCalls × FlushCalls) (stored : Bool) (value : Option StoredState) :
      PageReach { page with context } (bindContext sha256 { page with context } calls stored
        page.contextKey value state)

end Runs

section RunLemmas

variable {sha256 : Bytes → Digest} {page : ExamPage}

lemma handleHostMessage_advances (state : PageState) (message : HostMessage) :
    Advances sha256 page state.durable (handleHostMessage sha256 page state message).durable := by
  cases message with
  | ack calls message => exact handleAnswerAck_advances calls state message
  | stateResponse calls message => exact applyStateResponse_advances calls state message

/-- **A run of messages keeps the durable state sound and the watermark.** -/
lemma handleMessages_advances (messages : List HostMessage) (state : PageState) :
    Advances sha256 page state.durable (handleMessages sha256 page state messages).durable := by
  induction messages generalizing state with
  | nil => exact .refl _
  | cons message rest ih => exact (handleHostMessage_advances state message).trans (ih _)

lemma Durable.Sound.of_frame {before after : Durable} (h : before.Sound sha256)
    (hp : after.pending = before.pending) (hh : after.serverHighestSequence = before.serverHighestSequence)
    (hpr : after.previousEventHashHex = before.previousEventHashHex) : after.Sound sha256 :=
  ⟨hp ▸ h.ordered, hp ▸ h.hashed, hh ▸ h.cursor, hpr ▸ h.previous⟩

variable {state : PageState}

lemma bindContext_sound (calls : FlushCalls × FlushCalls) (stored : Bool)
    (lastKey : Utf16) (value : Option StoredState) (h : state.durable.Sound sha256) :
    (bindContext sha256 page calls stored lastKey value state).durable.Sound sha256 := by
  simp only [bindContext]
  refine (flushAnswerBridge_advances calls _ ?_).1
  refine adoptTrustedContextCursor_sound page ?_
  split
  · exact (quarantine_advances stored state h).1.of_frame rfl rfl rfl
  · refine (quarantine_advances stored _ ?_).1
    exact loadDurableState_sound page value

/-- **The durable state of the page is sound at any time.** -/
lemma PageReach.sound {page : ExamPage} (h : PageReach sha256 page state) : state.durable.Sound sha256 := by
  induction h with
  | started page value =>
    exact adoptTrustedContextCursor_sound page (loadDurableState_sound page value)
  | received h message ih => exact (handleHostMessage_advances _ message ih).1
  | flushed h calls ih => exact (flushAnswerBridge_advances calls _ ih).1
  | reconciling h ih | ackTimedOut h ih => exact ih
  | drafted h stored id value ih =>
    simp only [queueAnswerDraft]
    split
    · exact ih
    split
    · exact ih
    · exact ih.of_frame rfl rfl rfl
  | finalizing h stored ih =>
    simp only [requestFinalization]
    split
    · exact ih
    · exact ih.of_frame rfl rfl rfl
  | bound h context calls stored value ih => exact bindContext_sound calls stored _ value ih

end RunLemmas

/-- **Chain repair never discards an unconfirmed answer.**  In every state of the page a repair that
returns true has taken out only events of the current context that the server has confirmed by their
very hash, and has relinked the rest, which follows the watermark without a gap; a repair that
returns false has changed nothing.  Over any run of acknowledgements and state responses, the
watermark recorded for a context never decreases. -/
theorem repair_keeps_unconfirmed {sha256 : Bytes → Digest} {page : ExamPage} {state : PageState}
    (h : PageReach sha256 page state) :
    (∀ (stored : Bool) (lastHash : Utf16) (highest : ℕ) (answers : List RecoveredAnswer)
        (stateHash : Utf16) (after : Durable),
      (repairPendingChain sha256 page stored state.durable lastHash highest answers stateHash =
          (after, true) → Repaired sha256 page lastHash highest answers state.durable after) ∧
        (repairPendingChain sha256 page stored state.durable lastHash highest answers stateHash =
          (after, false) → after = state.durable)) ∧ ∀ messages : List HostMessage,
        (handleMessages sha256 page state messages).durable.contextKey = state.durable.contextKey →
          state.durable.serverHighestSequence ≤
            (handleMessages sha256 page state messages).durable.serverHighestSequence := by
  refine ⟨fun stored lastHash highest answers stateHash after => ⟨fun hrepaired => ?_,
    repairPendingChain_eq_false⟩, fun messages hkey => ?_⟩
  · exact (repaired_of_repairPendingChain h.sound hrepaired).1
  · rcases (handleMessages_advances messages state h.sound).2 with ⟨-, hle⟩ | ⟨hother, hcurrent⟩
    · exact hle
    · exact absurd (hkey.symm.trans hcurrent) hother

/-- The page of `firstAnswer`. -/
def firstPage : ExamPage where
  manifestId := ascii "p"
  questions := [⟨ascii "q", 1, by decide, by decide⟩]
  context :=
    { packageId := ascii "p"
      packageDigestHex := firstPageEvent.packageDigestHex
      clientIdHex := firstPageEvent.clientIdHex
      sessionIdHex := firstPageEvent.sessionIdHex
      previousEventHashHex := []
      candidateId := ascii "c"
      nextSequence := 1
      packageDigestNormal := by decide
      clientIdNormal := by decide
      sessionIdNormal := by decide
      previousNormal := by decide
      nextSequenceSafe := by decide
      packageIdFits := by decide
      candidateIdFits := by decide }

/-- What storage holds once `firstAnswer` is pending. -/
def firstStoredState : StoredState where
  nextSequence := .number (.integer 2)
  previousEventHashHex := .string []
  serverHighestSequence := .number (.integer 0)
  serverLastEventHashHex := .string []
  serverStateHashHex := .string []
  serverFinalized := .boolean false
  contextKey := .string firstPage.contextKey
  pending := [some firstStoredValue]
  drafts := []
  finalizeRequested := .boolean false

/-- A page that has lost the acknowledgement of its first answer takes it from the server's state. -/
theorem repair_keeps_unconfirmed_firstAnswer :
    (startPage firstSha256 firstPage (some firstStoredState)).durable.pending = [firstPageEvent] ∧
      ∃ after, repairPendingChain firstSha256 firstPage true
          (startPage firstSha256 firstPage (some firstStoredState)).durable
          firstPageEvent.eventHashHex 1 [] (hexString (Block.fill 32 1).toList) = (after, true) ∧ after.pending = [] ∧
        Repaired firstSha256 firstPage firstPageEvent.eventHashHex 1 []
          (startPage firstSha256 firstPage (some firstStoredState)).durable after := by
  have hloaded : (startPage firstSha256 firstPage (some firstStoredState)).durable.pending =
      [firstPageEvent] := by decide +kernel
  have hresult : (repairPendingChain firstSha256 firstPage true
      (startPage firstSha256 firstPage (some firstStoredState)).durable
      firstPageEvent.eventHashHex 1 [] (hexString (Block.fill 32 1).toList)).2 = true := by
    decide +kernel
  have hempty : (repairPendingChain firstSha256 firstPage true
      (startPage firstSha256 firstPage (some firstStoredState)).durable
      firstPageEvent.eventHashHex 1 [] (hexString (Block.fill 32 1).toList)).1.pending = [] := by
    decide +kernel
  have hreach : PageReach firstSha256 firstPage
      (startPage firstSha256 firstPage (some firstStoredState)) := .started _ _
  have hsafe := (repair_keeps_unconfirmed hreach).1 true firstPageEvent.eventHashHex 1 []
    (hexString (Block.fill 32 1).toList)
  generalize repairPendingChain firstSha256 firstPage true _ _ _ _ _ = result at hresult hempty hsafe ⊢
  obtain ⟨after, repaired⟩ := result
  obtain rfl : repaired = true := hresult
  exact ⟨hloaded, after, rfl, hempty, (hsafe after).1 rfl⟩

end Nstu.Web
