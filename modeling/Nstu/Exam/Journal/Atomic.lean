import Nstu.Core.Map
import Nstu.Exam.Journal.Invariant

/-!
# Refused events leave the journal as it was

`append` enters a fresh session before it looks at the event, and discards it again on its way out.
`AnswerJournal.appendInPlace` is `append` with these steps written out, exit by exit; two of its
exits discard nothing, because an entry with an event in it cannot be fresh.
`appendInPlace_eq_append` shows that the entry never stays behind, so that everything proved about
`append` holds with these steps too.

`refused_append_changes_nothing` is the result: an event that is not accepted leaves sessions, count
and file alone.  A storage failure closes the journal, and where rolling back the write fails too, a
piece of the record stays at the end of the file for the next `open` to look at.
-/

namespace Nstu

open Wire KeyedMap

section InPlace

variable (sha256 : Bytes → Digest)

/-- `discard_inserted_session()`. -/
def AnswerJournal.discardInserted (journal : AnswerJournal) (inserted : Bool) (event : AnswerEvent) : AnswerJournal :=
  if inserted then { journal with sessions := journal.sessions.erase (sessionKey event) }
  else journal

/-- The part of `append` behind its checks, with the entry in the map. -/
def AnswerJournal.storeInPlace (calls : AppendCalls) (journal : AnswerJournal) (inserted : Bool)
    (event : AnswerEvent) (calculatedHash : Digest) : AppendResult :=
  let session := sessionFor journal.sessions event
  let record := encodeJournalRecord event calculatedHash
  let unavailable : AppendOutcome :=
    ⟨.unavailable, makeAck sha256 calls.now session .unavailable event.sequence calculatedHash⟩
  if record.isEmpty || !calls.sizeKnown || record.length > kMaximumJournalBytes ||
      journal.file.length > kMaximumJournalBytes - record.length then
    ⟨({ journal with isOpen := false } : AnswerJournal).discardInserted inserted event, unavailable, none⟩
  else match calls.writeFailure with
  | some left =>
    ⟨({ journal with isOpen := false, file := journal.file ++ record.take left } :
        AnswerJournal).discardInserted inserted event,
      unavailable, some "journal append failed"⟩
  | none =>
    let written := { journal with file := journal.file ++ record }
    match applyRecovered session event calculatedHash with
    | none => ⟨written.discardInserted inserted event, ⟨.unavailable, AnswerAck.initial⟩,
        some "answer event could not be indexed after append"⟩
    | some next =>
      ⟨{ written with
          sessions := journal.sessions.insert (sessionKey event) next
          eventCount := journal.eventCount + 1 },
        ⟨.accepted, makeAck sha256 calls.now next .accepted event.sequence calculatedHash⟩, none⟩

/-- The part of `append` behind `try_emplace`: the entry is in the map of `journal`. -/
def AnswerJournal.appendEntered (calls : AppendCalls) (journal : AnswerJournal) (inserted : Bool)
    (event : AnswerEvent) (calculatedHash : Digest) : AppendResult :=
  let session := sessionFor journal.sessions event
  let ack := makeAck sha256 calls.now session
  let discarded := journal.discardInserted inserted event
  if session.candidateId != event.candidateId then
    ⟨discarded, ⟨.conflict, ack .conflict event.sequence calculatedHash⟩,
      some "answer candidate identity conflicts with the session"⟩
  else match session.eventHashes[event.sequence]? with
  | some existing =>
    -- the two exits that discard nothing
    if !sameDigest existing.toList calculatedHash.toList then
      ⟨journal, ⟨.conflict, ack .conflict event.sequence existing⟩,
        some "answer sequence conflicts with an existing event"⟩
    else ⟨journal, ⟨.duplicate, ack .duplicate event.sequence existing⟩, none⟩
  | none =>
    if answerQuotaExceeded session event then
      ⟨discarded, ⟨.rejected, ack .rejected event.sequence calculatedHash⟩, some "answer-state quota is exhausted"⟩
    else if session.finalized then
      ⟨discarded, ⟨.rejected, ack .rejected event.sequence calculatedHash⟩, some "exam session is already finalized"⟩
    else if session.highestSequence == maxSequence || event.sequence != session.highestSequence + 1 then
      ⟨discarded, ⟨.gap, ack .gap event.sequence calculatedHash⟩, some "answer event sequence has a gap"⟩
    else if !sameDigest event.previousEventHash.toList session.lastHash.toList then
      ⟨discarded, ⟨.conflict, ack .conflict event.sequence calculatedHash⟩,
        some "answer event hash chain does not match the journal"⟩
    else AnswerJournal.storeInPlace sha256 calls journal inserted event calculatedHash

/-- `AnswerJournal::append`, with the fresh entry in the map from `try_emplace` on. -/
def AnswerJournal.appendInPlace (calls : AppendCalls) (journal : AnswerJournal)
    (event : AnswerEvent) : AppendResult :=
  if !journal.isOpen then
    ⟨journal, ⟨.unavailable, AnswerAck.initial⟩, some "answer journal is not open"⟩
  else if !validateAnswerEvent event then
    ⟨journal, ⟨.rejected, AnswerAck.initial⟩, some invalidAnswerEvent⟩
  else match hashAnswerEvent sha256 event with
  | none => ⟨journal, ⟨.unavailable, AnswerAck.initial⟩, some "answer event hashing failed"⟩
  | some calculatedHash =>
    if sessionQuotaExceeded journal.sessions event then
      ⟨journal, ⟨.unavailable, AnswerAck.initial⟩, some "journal session quota is exhausted"⟩
    else
      let inserted := !journal.sessions.contains (sessionKey event)
      let sessions := journal.sessions.insertIfNew (sessionKey event) (SessionData.fresh event)
      AnswerJournal.appendEntered sha256 calls { journal with sessions := sessions } inserted event
        calculatedHash

end InPlace

variable {sha256 : Bytes → Digest} {calls : AppendCalls} {journal : AnswerJournal}
  {event : AnswerEvent} {log : List AnswerEvent}

/-! ## The entry never stays behind -/

/-- The journal with a fresh entry for the event. -/
def AnswerJournal.entered (journal : AnswerJournal) (event : AnswerEvent) : AnswerJournal :=
  { journal with sessions := journal.sessions.insert (sessionKey event) (SessionData.fresh event) }

lemma sessionFor_entered (hn : journal.sessions[sessionKey event]? = none) :
    sessionFor (journal.entered event).sessions event = sessionFor journal.sessions event := by
  simp [sessionFor, AnswerJournal.entered, hn]

lemma discardInserted_entered (hn : journal.sessions[sessionKey event]? = none) :
    (journal.entered event).discardInserted true event = journal := by
  simp only [AnswerJournal.discardInserted, AnswerJournal.entered, if_true, erase_insert_self hn]

lemma storeInPlace_new (hn : journal.sessions[sessionKey event]? = none) (calculatedHash : Digest) :
    (journal.entered event).storeInPlace sha256 calls true event calculatedHash =
      journal.store sha256 calls event (sessionFor journal.sessions event) calculatedHash := by
  unfold AnswerJournal.storeInPlace AnswerJournal.store
  rw [sessionFor_entered hn]
  simp only [AnswerJournal.discardInserted, AnswerJournal.entered, if_true, erase_insert_self hn,
    insert_insert_self]
  rfl

lemma appendEntered_new (hn : journal.sessions[sessionKey event]? = none) (calculatedHash : Digest) :
    (journal.entered event).appendEntered sha256 calls true event calculatedHash =
      journal.appendTo sha256 calls event (sessionFor journal.sessions event) calculatedHash := by
  -- a fresh entry has no hashes, so the two exits that discard nothing are out of reach
  have hh : (sessionFor journal.sessions event).eventHashes[event.sequence]? = none := by
    simp [sessionFor, hn, SessionData.fresh]
  unfold AnswerJournal.appendEntered AnswerJournal.appendTo
  dsimp only
  rw [sessionFor_entered hn, discardInserted_entered hn, storeInPlace_new hn, hh]

/-- Entering a session that is there changes nothing, and nothing is discarded; entering a new one
is undone on every exit. -/
lemma appendEntered_emplaced (calculatedHash : Digest) : ({ journal with
        sessions := journal.sessions.insertIfNew (sessionKey event) (SessionData.fresh event) } :
      AnswerJournal).appendEntered sha256 calls (!journal.sessions.contains (sessionKey event)) event calculatedHash =
      journal.appendTo sha256 calls event (sessionFor journal.sessions event) calculatedHash := by
  rw [Std.ExtTreeMap.contains_eq_isSome_getElem?]
  cases hl : journal.sessions[sessionKey event]? with
  | some session =>
    rw [insertIfNew_eq_self hl]
    rfl
  | none =>
    rw [insertIfNew_eq_insert hl]
    exact appendEntered_new hl calculatedHash

/-- **The steps written out come to the same.** -/
theorem appendInPlace_eq_append (calls : AppendCalls) (journal : AnswerJournal) (event : AnswerEvent) :
    journal.appendInPlace sha256 calls event = journal.append sha256 calls event := by
  rw [AnswerJournal.appendInPlace]
  simp only [appendEntered_emplaced]
  rfl

/-! ## Refused events -/

/-- The record does not get into the file. -/
def StorageFails (sha256 : Bytes → Digest) (calls : AppendCalls) (journal : AnswerJournal)
    (event : AnswerEvent) : Prop :=
  calls.sizeKnown = false ∨ ¬ RecordFits sha256 journal event ∨ calls.writeFailure ≠ none

/-- The journal after a storage failure that left some bytes of the record in the file. -/
def AnswerJournal.stopped (sha256 : Bytes → Digest) (journal : AnswerJournal) (event : AnswerEvent)
    (left : ℕ) : AnswerJournal :=
  { journal with
    isOpen := false
    file := journal.file ++ (journalRecord sha256 event).take left }

/-- What a call that accepted nothing leaves behind. -/
inductive Refused (sha256 : Bytes → Digest) (calls : AppendCalls) (journal : AnswerJournal)
    (event : AnswerEvent) : AnswerJournal → Prop where
  | untouched : Refused sha256 calls journal event journal
  | rolledBack : StorageFails sha256 calls journal event →
      Refused sha256 calls journal event { journal with isOpen := false }
  | piece (left : ℕ) : calls.writeFailure = some left →
      Refused sha256 calls journal event (journal.stopped sha256 event left)

lemma JournalReach.getElem?_eventHashes_next (h : JournalReach sha256 journal log)
    (ha : Acceptable journal.sessions event) :
    (sessionFor journal.sessions event).eventHashes[event.sequence]? = none := by
  rw [ha.sequence]
  exact (h.sessionsOf.entry event).getElem?_eventHashes_next ha.notFull

lemma JournalReach.storageFails (h : JournalReach sha256 journal log)
    (ho : journal.isOpen) (ha : Acceptable journal.sessions event)
    (hs : (journal.append sha256 calls event).outcome.status ≠ .accepted) :
    StorageFails sha256 calls journal event := by
  by_contra hst
  simp only [StorageFails, not_or, not_not, Bool.not_eq_false] at hst
  obtain ⟨hsi, hf, hw⟩ := hst
  apply hs
  rw [append_of_acceptable ho ha (h.getElem?_eventHashes_next ha) hf hsi hw]

/-- **Refused events leave the journal as it was.**  Whatever `append` answers but `accepted`, the
sessions, their number, the count of events and the file are those from before; where the record
cannot be stored the journal is closed, and where rolling back its write fails as well, some of the
record's bytes stay behind the file. -/
theorem refused_append_changes_nothing (hreach : JournalReach sha256 journal log)
    (hopen : journal.isOpen = true) (calls : AppendCalls) (event : AnswerEvent)
    (hstatus : (journal.appendInPlace sha256 calls event).outcome.status ≠ .accepted) :
    Refused sha256 calls journal event (journal.appendInPlace sha256 calls event).journal := by
  rw [appendInPlace_eq_append] at hstatus ⊢
  have hfails := fun hacceptable => hreach.storageFails hopen hacceptable hstatus
  have hexit := append_exit sha256 calls journal event
  generalize journal.append sha256 calls event = result at hexit hstatus
  cases hexit with
  | notOpen | invalid | sessionQuota | conflict | duplicate | rejected | gap => exact .untouched
  | stopped left error _ hacceptable hleft =>
    rcases hleft with rfl | ⟨hwrite, -⟩
    · rw [List.take_zero, List.append_nil]
      exact .rolledBack (hfails hacceptable)
    · exact .piece left hwrite
  | accepted => exact absurd rfl hstatus

lemma appendInPlace_of_writeFailure (hr : JournalReach sha256 journal log)
    (ho : journal.isOpen) (ha : Acceptable journal.sessions event)
    (hf : RecordFits sha256 journal event) (now : UInt64) (left : ℕ) :
    let result := journal.appendInPlace sha256 ⟨now, true, some left⟩ event
    result.outcome.status = .unavailable ∧ result.journal = journal.stopped sha256 event left := by
  have hs : (⟨now, true, some left⟩ : AppendCalls).sizeKnown := rfl
  have hro := hf.not_refused ha.valid hs
  rw [appendInPlace_eq_append, append_eq_store ho ha (hr.getElem?_eventHashes_next ha)]
  unfold AnswerJournal.store
  dsimp only
  rw [if_neg hro]
  exact ⟨rfl, rfl⟩

lemma firstAnswer_stopped (left : ℕ) : ∃ log, JournalReach firstSha256 newJournal log ∧
      (newJournal.appendInPlace firstSha256 ⟨1, true, some left⟩ firstAnswer).outcome.status = .unavailable ∧
      (newJournal.appendInPlace firstSha256 ⟨1, true, some left⟩ firstAnswer).journal =
        newJournal.stopped firstSha256 firstAnswer left := by
  have hn : JournalReach firstSha256 newJournal _ := .opened (open_absent fun _ => rfl)
  have ha : Acceptable newJournal.sessions firstAnswer :=
    acceptable_of_new validAnswerEvent_firstAnswer (by simp [newJournal]) (by decide) rfl
  have h := appendInPlace_of_writeFailure hn rfl ha recordFits_firstAnswer 1 left
  exact ⟨_, hn, h.1, h.2⟩

/-- A write that fails and is rolled back. -/
theorem refused_append_changes_nothing_rolledBack : Refused firstSha256 ⟨1, true, some 0⟩ newJournal firstAnswer
      (newJournal.appendInPlace firstSha256 ⟨1, true, some 0⟩ firstAnswer).journal := by
  obtain ⟨log, hreach, hstatus, -⟩ := firstAnswer_stopped 0
  exact refused_append_changes_nothing hreach rfl _ _ (by rw [hstatus]; decide)

/-- A write that fails, and whose rollback fails after the first byte of the record: the event is
not accepted, and the file is not what it was. -/
theorem refused_append_changes_file : ∃ log, JournalReach firstSha256 newJournal log ∧ newJournal.isOpen = true ∧
      (newJournal.appendInPlace firstSha256 ⟨1, true, some 1⟩ firstAnswer).outcome.status ≠ .accepted ∧
      (newJournal.appendInPlace firstSha256 ⟨1, true, some 1⟩ firstAnswer).journal.file ≠ newJournal.file := by
  obtain ⟨log, hreach, hstatus, hjournal⟩ := firstAnswer_stopped 1
  have hrecord : journalRecord firstSha256 firstAnswer ≠ [] :=
    (nextRecord_framed validAnswerEvent_firstAnswer).nonempty
  refine ⟨log, hreach, rfl, by rw [hstatus]; decide, ?_⟩
  rw [hjournal]
  simpa [AnswerJournal.stopped, newJournal] using hrecord

end Nstu
