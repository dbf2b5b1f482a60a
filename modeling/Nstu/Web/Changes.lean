import Mathlib.Logic.Relation
import Nstu.Web.Acknowledge
import Nstu.Web.Drafts

/-!
# What changes the durable state

The durable state of the exam page changes in a few ways only (`Change`): entries are put into
quarantine, the first pending event is rebased or retired, a draft or the finalization becomes an
event, a repair follows a state of the server, a draft or a wish to finish is recorded.  Every function
of the page makes a run of such changes, so an invariant has to be shown for each change once.
-/

namespace Nstu.Web

open Wire Text Relation

section Changes

variable (sha256 : Bytes → Digest) (page : ExamPage)

/-- One change of the durable state. -/
inductive Change : Durable → Durable → Prop where
  | quarantined {durable : Durable} (hready : page.bridgeReady = true) :
      Change durable (durable.quarantined page)
  | rebased {durable : Durable} {event : PageEvent} {rest : List PageEvent}
      (hpending : durable.pending = event :: rest) :
      Change durable { durable with pending := rebaseHead sha256 page durable event :: rest }
  | queued {durable : Durable} {id : Utf16} {draft : Draft} {drafts : List (Utf16 × Draft)} {now : ℕ}
      {event : PageEvent} (hready : page.bridgeReady = true) (hpending : durable.pending = [])
      (hdrafts : durable.drafts = (id, draft) :: drafts)
      (hevent : durableEventForDraft sha256 page durable now id draft = some event) :
      Change durable { durable with
        drafts
        pending := durable.pending ++ [event]
        nextSequence := durable.nextSequence + 1 }
  | restored {durable : Durable} {id : Utf16} {draft : Draft} {drafts : List (Utf16 × Draft)}
      (hdrafts : durable.drafts = (id, draft) :: drafts) :
      Change durable { durable with drafts := addDraft id draft drafts }
  | finalQueued {durable : Durable} {now : ℕ} {event : PageEvent} (hready : page.bridgeReady = true)
      (hpending : durable.pending = []) (hnext : durable.nextSequence < maxSafeInteger)
      (hevent : newEvent sha256 page durable now [] 1 .finalize [] = some event) :
      Change durable { durable with
        finalizeRequested := false
        pending := durable.pending ++ [event]
        nextSequence := durable.nextSequence + 1 }
  | retired {state : PageState} {event : PageEvent} {rest : List PageEvent} {highest : ℕ}
      {stateHash : Utf16} (hpending : state.durable.pending = event :: rest)
      (hhashed : event.Hashed sha256)
      (hhash : normalizeNonZeroHex (localHash sha256 event) 32 = localHash sha256 event)
      (hstateHash : normalizeNonZeroHex stateHash 32 = stateHash) (hne : stateHash ≠ []) :
      Change state.durable (retireHead state event rest highest (localHash sha256 event) stateHash).durable
  | repaired {stored : Bool} {durable after : Durable} {lastHash stateHash : Utf16} {highest : ℕ}
      {answers : List RecoveredAnswer}
      (h : repairPendingChain sha256 page stored durable lastHash highest answers stateHash =
        (after, true)) : Change durable after
  | finalized {durable : Durable} :
      Change durable { durable with finalizeRequested := false, serverFinalized := true }
  | drafted {durable : Durable} {id : Utf16} {value : Json} {draft : Draft}
      (haccepted : acceptedDraft page id value = some draft) :
      Change durable { durable with drafts := setDraft id draft durable.drafts }
  | finalizing {durable : Durable} : Change durable { durable with finalizeRequested := true }

/-- A run of changes. -/
abbrev Changes : Durable → Durable → Prop := ReflTransGen (Change sha256 page)

end Changes

section Operations

variable {sha256 : Bytes → Digest} {page : ExamPage}

lemma quarantine_changes (stored : Bool) (state : PageState) : Changes sha256 page state.durable
      (quarantineMismatchedDurableEntries page stored state).1.durable := by
  simp only [quarantineMismatchedDurableEntries_eq]
  split
  · exact .refl
  rename_i hr
  have hr' : page.bridgeReady := by simpa using hr
  split
  · split <;> exact .refl
  · split <;> exact .single (.quarantined hr')

variable {state : PageState} {event : PageEvent}

lemma sendPending_changes (calls : FlushCalls)
    {rest : List PageEvent} (hp : state.durable.pending = event :: rest) :
    Changes sha256 page state.durable (sendPending sha256 page calls state event rest).durable := by
  simp only [sendPending]
  split
  · exact .refl
  split
  · exact .refl
  split
  · exact .single (.rebased hp)
  split <;> exact .single (.rebased hp)

lemma flushPass_changes (calls : FlushCalls) {again : PageState → PageState}
    (ha : ∀ state : PageState, Changes sha256 page state.durable (again state).durable) (state : PageState) :
    Changes sha256 page state.durable (flushPass sha256 page calls again state).durable := by
  have hq := @quarantine_changes sha256 page calls.quarantineStored state
  simp only [flushPass_eq]
  split
  · exact .refl
  rename_i hr
  simp only [Bool.or_eq_true, Bool.not_eq_true', not_or, Bool.not_eq_false] at hr
  generalize quarantineMismatchedDurableEntries page calls.quarantineStored state = settled at hq ⊢
  refine hq.trans ?_
  split
  · exact .refl
  split
  · exact .refl
  split
  · exact .refl
  split
  · rename_i event rest hp
    exact sendPending_changes calls hp
  rename_i hp
  split
  · exact .refl
  split
  · rename_i id draft drafts hd
    split
    · exact .refl
    rename_i event he
    split
    · exact .refl
    split
    · exact .single (.restored hd)
    · rename_i queued hqu
      simp only [queuedEvent] at hqu
      split at hqu
      · cases hqu
      cases hqu
      refine ReflTransGen.trans ?_ (ha _)
      exact .single (.queued hr.1 hp hd he)
  · split
    · exact .refl
    rename_i hre
    simp only [Bool.or_eq_true, not_or, decide_eq_true_eq, Nat.not_le] at hre
    split
    · exact .refl
    rename_i event he
    split
    · exact .refl
    · refine ReflTransGen.trans ?_ (ha _)
      exact .single (.finalQueued hr.1 hp hre.2 he)

lemma flushAnswerBridge_changes (calls : FlushCalls × FlushCalls) (state : PageState) :
    Changes sha256 page state.durable (flushAnswerBridge sha256 page calls state).durable :=
  flushPass_changes calls.1 (flushPass_changes calls.2 fun _ => .refl) state

lemma Acknowledges.normal {ack : AckMessage} (h : Acknowledges sha256 page ack event) :
    normalizeNonZeroHex (localHash sha256 event) 32 = localHash sha256 event := by
  rw [← h.hash]
  exact normalizeNonZeroHex_idem _ _

lemma handleAnswerAck_changes (calls : AckCalls) (ack : AckMessage) (hs : state.durable.Sound sha256) :
    Changes sha256 page state.durable (handleAnswerAck sha256 page calls state ack).durable := by
  by_cases ha : ∃ event ∈ state.durable.pending.head?, Acknowledges sha256 page ack event
  · obtain ⟨event, he, ha⟩ := ha
    obtain ⟨rest, hp⟩ := List.head?_eq_some_iff.mp he
    have hh := hs.hashed event (by rw [hp]; exact List.mem_cons_self)
    rw [handleAnswerAck_head hh hp ha]
    split
    · split <;> exact .refl
    rename_i hr
    simp only [ackRefused, Bool.or_eq_true, not_or, List.isEmpty_iff] at hr
    have hre : Change sha256 page state.durable (retireHead state event rest
        ack.highestContiguousSequence (localHash sha256 event)
        (normalizeNonZeroHex ack.stateHashHex 32)).durable :=
      .retired hp hh ha.normal (normalizeNonZeroHex_idem _ _) hr.1.1.1
    split
    · simp only
      split
      · exact .single hre
      · exact .head hre (flushAnswerBridge_changes calls.flush _)
    · exact .refl
  · push Not at ha
    rw [handleAnswerAck_other ha]

lemma finalizeState_changes (calls : StateCalls) (state : PageState) (highest : ℕ) :
    Changes sha256 page state.durable (finalizeState page calls state highest).durable := by
  have hq := @quarantine_changes sha256 page calls.quarantineStored state
  simp only [finalizeState_eq]
  split
  · exact hq
  · exact hq.tail .finalized

lemma applyCompleteState_changes (calls : StateCalls) (state : PageState) (complete : CompleteState) :
    Changes sha256 page state.durable (applyCompleteState sha256 page calls state complete).durable := by
  simp only [applyCompleteState]
  split
  · exact .refl
  split
  · split <;> exact .refl
  split
  · exact .refl
  rename_i durable hr
  let repaired : PageState := { state.clearInFlight with
    durable, awaitingStateReconcile := false, recoveryConflict := false }
  refine .head (.repaired hr) ?_
  split
  · exact finalizeState_changes calls repaired _
  split
  · exact .refl
  · exact flushAnswerBridge_changes calls.flush repaired

/-- **A message about answers makes a run of changes.** -/
lemma handleHostMessage_changes (message : HostMessage) (hs : state.durable.Sound sha256) :
    Changes sha256 page state.durable (handleHostMessage sha256 page state message).durable := by
  cases message with
  | ack calls message => exact handleAnswerAck_changes calls message hs
  | stateResponse calls message =>
    simp only [handleHostMessage, applyStateResponse]
    split
    · exact .refl
    · exact applyCompleteState_changes calls { state with
        stateChunks := (collectStateChunk page calls.now state.stateChunks message).1 } _

lemma queueAnswerDraft_changes (stored : Bool) (state : PageState) (id : Utf16) (value : Json) :
    Changes sha256 page state.durable (queueAnswerDraft page stored state id value).durable := by
  rw [queueAnswerDraft_eq]
  split
  · exact .refl
  rename_i draft ha
  split
  · exact .single (.drafted ha)
  · exact .refl

lemma requestFinalization_changes (stored : Bool) (state : PageState) :
    Changes sha256 page state.durable (requestFinalization page stored state).durable := by
  simp only [requestFinalization]
  split
  · exact .refl
  · exact .single .finalizing

end Operations

end Nstu.Web
