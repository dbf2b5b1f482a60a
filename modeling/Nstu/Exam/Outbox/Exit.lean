import Nstu.Core.HashChain
import Nstu.Exam.Journal.Invariant
import Nstu.Exam.Outbox.Def

/-!
# The exits of the outbox operations

`enqueue` and `acknowledge` check a great deal and change little.  `EnqueueExit` and
`AcknowledgeExit` list what each of them can do, with everything it has checked by then; every later
result about the outbox is a case analysis over these two, and none of them unfolds the operations
again.
-/

namespace Nstu

open Wire Wire.Reader

section Exits

variable (sha256 : Bytes → Digest) (secrets : MachineSecrets)

/-! ## `enqueue` -/

/-- What the session of an event has to look like for the event to be appended, and what its
watermark becomes. -/
inductive Continues (watermarks : Watermarks) (event : AnswerEvent) : OutboxWatermark → Prop where
  | first : watermarks[sessionKey event]? = none → event.sequence = 1 →
      event.previousEventHash = Block.zero 32 →
      Continues watermarks event (watermarkFor event (eventHash sha256 event) event.sequence)
  | next {saved : OutboxWatermark} : watermarks[sessionKey event]? = some saved →
      sameWatermarkContext saved event = true → saved.finalized = false →
      saved.highestSequence ≠ maxSequence → event.sequence = saved.highestSequence + 1 →
      event.previousEventHash = saved.lastHash →
      Continues watermarks event (saved.advance event (eventHash sha256 event))

/-- What has been checked when a pending event is rebased. -/
structure Rebasable (outbox : AnswerOutbox) (event existing : AnswerEvent) (index : ℕ)
    (watermark : OutboxWatermark) : Prop where
  pending : outbox.events[index]? = some existing
  differs : hashAnswerEvent sha256 existing ≠ some (eventHash sha256 event)
  body : sameEventBodyExceptPredecessor existing event = true
  saved : outbox.watermarks[sessionKey event]? = some watermark
  notFinalized : watermark.finalized = false
  notAcknowledged : watermark.acknowledgedSequence < event.sequence

variable (outbox : AnswerOutbox)

/-- The exits of `enqueue`. -/
inductive EnqueueExit (event : AnswerEvent) : OutboxResult → Prop where
  | refused (error : String) : EnqueueExit event (outbox.refuse error)
  | kept : EnqueueExit event outbox.keep
  | rebased {existing : AnswerEvent} {index : ℕ} {watermark rebased : OutboxWatermark}
      {events : List AnswerEvent} {calls : OutboxCalls} {file : Bytes} :
      ValidAnswerEvent event → Rebasable sha256 outbox event existing index watermark →
      rebaseEvents sha256 outbox.events watermark event index = .ok (events, rebased) →
      saveOutbox secrets calls events (outbox.watermarks.insert (sessionKey event) rebased) = .ok file →
      EnqueueExit event ⟨{ outbox with
            events
            watermarks := outbox.watermarks.insert (sessionKey event) rebased
            file }, true, ""⟩
  | appended {next : OutboxWatermark} {calls : OutboxCalls} {file : Bytes} :
      ValidAnswerEvent event → Continues sha256 outbox.watermarks event next →
      saveOutbox secrets calls (outbox.events ++ [event])
        (outbox.watermarks.insert (sessionKey event) next) = .ok file →
      EnqueueExit event ⟨{ outbox with
            events := outbox.events ++ [event]
            watermarks := outbox.watermarks.insert (sessionKey event) next
            file }, true, ""⟩

/-! ## `acknowledge` -/

/-- The exits of `acknowledge`. -/
inductive AcknowledgeExit (sessionId : SessionId) (sequence : UInt64) (hash : Bytes) :
    OutboxResult → Prop where
  | refused (error : String) : AcknowledgeExit sessionId sequence hash (outbox.refuse error)
  | kept : AcknowledgeExit sessionId sequence hash outbox.keep
  | advanced {key : Bytes} {saved : OutboxWatermark} {calls : OutboxCalls} {file : Bytes} :
      (∀ event ∈ outbox.events, sessionKey event = key → event.sequence ≠ sequence) →
      outbox.watermarks[key]? = some saved → sequence = saved.highestSequence →
      saved.acknowledgedSequence < sequence →
      saveOutbox secrets calls outbox.events (outbox.watermarks.insert key
        { saved with acknowledgedSequence := sequence, acknowledgedHash := saved.lastHash }) =
          .ok file →
      AcknowledgeExit sessionId sequence hash ⟨{ outbox with
            watermarks := outbox.watermarks.insert key
              { saved with acknowledgedSequence := sequence, acknowledgedHash := saved.lastHash }
            file }, true, ""⟩
  | retired {target : AnswerEvent} {saved : OutboxWatermark} {calls : OutboxCalls} {file : Bytes} :
      outbox.selectKey sha256 sessionId sequence hash = .ok (sessionKey target) →
      target ∈ outbox.events → target.sequence = sequence → ValidAnswerEvent target →
      (eventHash sha256 target).toList = hash →
      outbox.watermarks[sessionKey target]? = some saved → sequence ≤ saved.highestSequence →
      saved.acknowledgedSequence < sequence →
      saveOutbox secrets calls (outbox.events.filter fun event =>
          !(sessionKey event == sessionKey target && event.sequence ≤ sequence))
        (outbox.watermarks.insert (sessionKey target) { saved with
          acknowledgedSequence := sequence, acknowledgedHash := eventHash sha256 target }) =
          .ok file →
      AcknowledgeExit sessionId sequence hash ⟨{ outbox with
            events := outbox.events.filter fun event =>
              !(sessionKey event == sessionKey target && event.sequence ≤ sequence)
            watermarks := outbox.watermarks.insert (sessionKey target) { saved with
              acknowledgedSequence := sequence, acknowledgedHash := eventHash sha256 target }
            file }, true, ""⟩

end Exits

variable {sha256 : Bytes → Digest} {secrets : MachineSecrets} {outbox : AnswerOutbox}
  {event : AnswerEvent}

/-! ## Every call takes an exit -/

lemma sameWatermarkContext_iff {watermark : OutboxWatermark} : sameWatermarkContext watermark event ↔
      watermark.key = sessionKey event ∧ watermark.candidateId = event.candidateId := by
  simp only [sameWatermarkContext, Bool.and_eq_true, beq_iff_eq, OutboxWatermark.key, sessionKey,
    sessionKeyOf_inj, and_assoc]

variable {existing : AnswerEvent}

lemma sameEventBodyExceptPredecessor_iff : sameEventBodyExceptPredecessor existing event ↔
      event = { existing with previousEventHash := event.previousEventHash } := by
  simp only [sameEventBodyExceptPredecessor, Bool.and_eq_true, beq_iff_eq, AnswerEvent.ext_iff, and_assoc, and_true]
  simp only [eq_comm]

/-- A commit is refused or leaves the file it wrote. -/
lemma commit_cases (calls : OutboxCalls) (events : List AnswerEvent) (watermarks : Watermarks) :
    (∃ error, outbox.commit secrets calls events watermarks = outbox.refuse error) ∨
      ∃ file, saveOutbox secrets calls events watermarks = .ok file ∧ outbox.commit secrets calls events watermarks =
          ⟨{ outbox with events, watermarks, file }, true, ""⟩ := by
  simp only [AnswerOutbox.commit]
  cases hs : saveOutbox secrets calls events watermarks with
  | error error => exact .inl ⟨error, rfl⟩
  | ok file => exact .inr ⟨file, rfl, rfl⟩

/-- How a session's new event ends. -/
lemma enqueueNew_exit {next : OutboxWatermark} (calls : OutboxCalls)
    (hv : ValidAnswerEvent event) (hn : Continues sha256 outbox.watermarks event next) :
    EnqueueExit sha256 secrets outbox event (outbox.enqueueNew secrets calls event next) := by
  simp only [AnswerOutbox.enqueueNew]
  split
  · exact .refused _
  · rcases commit_cases calls (outbox.events ++ [event])
      (outbox.watermarks.insert (sessionKey event) next) with ⟨error, h⟩ | ⟨file, hs, h⟩
    · exact h ▸ .refused error
    · exact h ▸ .appended hv hn hs

lemma enqueueNext_exit (calls : OutboxCalls) (hv : ValidAnswerEvent event) :
    EnqueueExit sha256 secrets outbox event (outbox.enqueueNext secrets calls event (eventHash sha256 event)) := by
  simp only [AnswerOutbox.enqueueNext]
  split
  · rename_i hn
    split
    · exact .refused _
    rename_i hf
    simp only [Bool.or_eq_true, bne_iff_ne, Bool.not_eq_true', not_or, not_not,
      Bool.not_eq_false, allZero_iff] at hf
    exact enqueueNew_exit calls hv (.first hn hf.1 hf.2)
  · rename_i saved hs
    split
    · exact .refused _
    rename_i hc
    split
    · split
      · exact .kept
      · exact .refused _
    rename_i hfi
    split
    · split
      · exact .kept
      · exact .refused _
    split
    · exact .refused _
    rename_i hse
    split
    · exact .refused _
    rename_i hp
    simp only [Bool.or_eq_true, beq_iff_eq, bne_iff_ne, not_or, not_not] at hse
    exact enqueueNew_exit calls hv (.next hs (by simpa using hc)
      (by simpa using hfi) hse.1 hse.2 (by simpa using hp))

lemma enqueueAgain_exit {index : ℕ} (calls : OutboxCalls)
    (hv : ValidAnswerEvent event) (he : outbox.events[index]? = some existing) :
    EnqueueExit sha256 secrets outbox event
      (outbox.enqueueAgain sha256 secrets calls event (eventHash sha256 event) existing index) := by
  simp only [AnswerOutbox.enqueueAgain]
  split
  · exact .kept
  rename_i hd
  split
  · exact .refused _
  rename_i watermark hw
  split
  · exact .refused _
  rename_i hb
  split
  · exact .refused _
  rename_i ho
  simp only [Bool.or_eq_true, decide_eq_true_eq, not_or, Bool.not_eq_true, UInt64.not_le] at ho
  have hd : hashAnswerEvent sha256 existing ≠ some (eventHash sha256 event) := by
    intro h
    simp [h] at hd
  split
  · exact .refused _
  · rename_i events rebased hr
    rcases commit_cases calls events (outbox.watermarks.insert (sessionKey event) rebased) with
      ⟨error, h⟩ | ⟨file, hs, h⟩
    · exact h ▸ .refused error
    · exact h ▸ .rebased hv
        ⟨he, hd, by simpa using hb, hw, ho.1, ho.2⟩ hr hs

/-- **Every call of `enqueue` takes one of these exits.** -/
theorem enqueue_exit (calls : OutboxCalls) (event : AnswerEvent) :
    EnqueueExit sha256 secrets outbox event (outbox.enqueue sha256 secrets calls event) := by
  simp only [AnswerOutbox.enqueue]
  split
  · exact .refused _
  split
  · exact .refused _
  rename_i hv
  have hv : ValidAnswerEvent event := validateAnswerEvent_iff.mp (by simpa using hv)
  rw [hashAnswerEvent_eq_some_iff.mpr ⟨hv, rfl⟩]
  dsimp only
  split
  · rename_i existing index hf
    have hm := List.mem_of_find?_eq_some hf
    exact enqueueAgain_exit calls hv (List.mem_zipIdx_iff_getElem?.mp hm)
  · exact enqueueNext_exit calls hv

variable {sessionId : SessionId} {sequence : UInt64} {hash key : Bytes}

/-- How acknowledging a retired event ends. -/
lemma acknowledgeRetired_exit (calls : OutboxCalls)
    (hfind : outbox.events.find? (fun event => sessionKey event == key && event.sequence == sequence) = none) :
    AcknowledgeExit sha256 secrets outbox sessionId sequence hash
      (outbox.acknowledgeRetired secrets calls key sequence hash) := by
  have hpend : ∀ event ∈ outbox.events, sessionKey event = key → event.sequence ≠ sequence := by
    intro event hevent hkey hsequ
    have := List.find?_eq_none.mp hfind event hevent
    simp [hkey, hsequ] at this
  simp only [AnswerOutbox.acknowledgeRetired]
  split
  · exact .refused _
  rename_i saved hsaved
  split
  · exact .refused _
  split
  · split
    · exact .kept
    · exact .refused _
  split
  · exact .refused _
  rename_i hhigh
  split
  · exact .refused _
  split
  · rename_i hlater
    simp only [Bool.or_eq_true, decide_eq_true_eq, bne_iff_ne, not_or, not_not] at hhigh
    rcases commit_cases calls outbox.events (outbox.watermarks.insert key
        { saved with acknowledgedSequence := sequence, acknowledgedHash := saved.lastHash }) with
      ⟨error, h⟩ | ⟨file, hsave, h⟩
    · exact h ▸ .refused error
    · exact h ▸ .advanced hpend hsaved hhigh.2 hlater hsave
  · exact .kept

/-- How acknowledging a queued event ends. -/
lemma acknowledgePending_exit {target : AnswerEvent} (calls : OutboxCalls)
    (hkey : outbox.selectKey sha256 sessionId sequence hash = .ok (sessionKey target))
    (hmem : target ∈ outbox.events) (hsequ : target.sequence = sequence) :
    AcknowledgeExit sha256 secrets outbox sessionId sequence hash
      (outbox.acknowledgePending sha256 secrets calls target sequence hash) := by
  unfold AnswerOutbox.acknowledgePending
  split
  · exact .refused _
  rename_i targetHash htarg
  obtain ⟨hvalid, rfl⟩ := hashAnswerEvent_eq_some_iff.mp htarg
  split
  · exact .refused _
  rename_i hsame
  split
  · exact .refused _
  rename_i saved hsaved
  split
  · exact .refused _
  rename_i hhigh
  split
  · exact .refused _
  rename_i hlater
  rcases commit_cases calls (outbox.events.filter fun event =>
      !(sessionKey event == sessionKey target && event.sequence ≤ sequence))
    (outbox.watermarks.insert (sessionKey target)
      { saved with acknowledgedSequence := sequence, acknowledgedHash := eventHash sha256 target })
    with ⟨error, h⟩ | ⟨file, hsave, h⟩
  · exact h ▸ .refused error
  · exact h ▸ .retired hkey hmem hsequ hvalid (by simpa using hsame) hsaved
      (UInt64.not_lt.mp hhigh) (UInt64.not_le.mp hlater) hsave

/-- **Every call of `acknowledge` takes one of these exits.** -/
theorem acknowledge_exit (calls : OutboxCalls) (sessionId : SessionId) (sequence : UInt64) (hash : Bytes) :
    AcknowledgeExit sha256 secrets outbox sessionId sequence hash
      (outbox.acknowledge sha256 secrets calls sessionId sequence hash) := by
  simp only [AnswerOutbox.acknowledge]
  split
  · exact .refused _
  split
  · exact .refused _
  rename_i key hk
  split
  · rename_i hf
    exact acknowledgeRetired_exit calls hf
  · rename_i target hf
    have hm := List.mem_of_find?_eq_some hf
    have ht := List.find?_some hf
    simp only [Bool.and_eq_true, beq_iff_eq] at ht
    obtain ⟨rfl, hs⟩ := ht
    exact acknowledgePending_exit calls hk hm hs

end Nstu
