import Nstu.Exam.AckCodec
import Nstu.Exam.Journal.Invariant

/-!
# Acknowledging a decodable event

The control plane encodes whatever acknowledgement `append` returns and drops the connection when
the encoding is empty.  On an open journal every exit but one fills the acknowledgement in from the
event's session, and `encodeAnswerAck_makeAck` shows that the encoder takes
each of these.  The exit for an exhausted session quota returns the acknowledgement it started with,
which has no session id: `appendAck_encodable_iff` says that this is the only way to fail, and
`appendAck_unencodable_fullJournal` fills a journal to show that it happens.
-/

namespace Nstu

open Wire FramedLog

variable {sha256 : Bytes → Digest} {journal : AnswerJournal} {log : List AnswerEvent}
  {event : AnswerEvent} {calls : AppendCalls}

lemma SessionsOf.sessionId_eq {sessions : Sessions} (h : SessionsOf sha256 sessions log)
    (event : AnswerEvent) : (sessionFor sessions event).sessionId = event.sessionId :=
  (sessionKeyOf_inj.mp (h.entry event).context).2.2.2

lemma ValidAnswerEvent.sessionId_ne (h : ValidAnswerEvent event) : allZero event.sessionId.toList = false := by
  have := h.identity
  simp only [validIdentity, Bool.and_eq_true, Bool.not_eq_true'] at this
  exact this.2

lemma encodeAnswerAck_makeAck {session : SessionData} {status : AnswerAckStatus}
    {sequence : UInt64} {hash : Digest} (hs : ∀ bytes, sha256 bytes ≠ Block.zero 32)
    (hn : calls.now ≠ 0) (hi : allZero session.sessionId.toList = false) (hse : sequence ≠ 0)
    (hst : match status with
      | .accepted | .duplicate =>
        sequence ≤ session.highestSequence ∧ allZero hash.toList = false
      | .gap => session.highestSequence < sequence
      | .conflict | .rejected | .unavailable => True
      | .unnamed _ _ => False) :
    encodeAnswerAck (makeAck sha256 calls.now session status sequence hash) ≠ [] := by
  rw [Ne, encodeAnswerAck_eq_nil_iff, Bool.not_eq_false]
  have hsta : allZero (stateHash sha256 session).toList = false :=
    allZero_eq_false_of_ne (hs _)
  cases status with
  | accepted | duplicate =>
    simp [validAckShape, validAckStatus, makeAck, AnswerAckStatus.raw, hi, hn, hse,
      hst.1, hst.2, hsta]
  | gap =>
    simp only at hst
    simp [validAckShape, validAckStatus, makeAck, AnswerAckStatus.raw, hi, hn, hse, hst]
  | conflict | rejected | unavailable =>
    simp [validAckShape, validAckStatus, makeAck, AnswerAckStatus.raw, hi, hn, hse]
  | unnamed => exact hst.elim

lemma encodeAnswerAck_initial : encodeAnswerAck AnswerAck.initial = [] := by
  rw [encodeAnswerAck_eq_nil_iff]
  decide

lemma append_ack_of_sessionQuota (hq : sessionQuotaExceeded journal.sessions event) :
    (journal.append sha256 calls event).outcome.ack = AnswerAck.initial := by
  have he := append_exit sha256 calls journal event
  generalize journal.append sha256 calls event = result at he
  cases he with
  | notOpen | invalid | sessionQuota => rfl
  | conflict _ _ hc | duplicate hc | rejected _ hc | gap hc =>
    rw [hc.sessionRoom] at hq
    cases hq
  | stopped _ _ _ ha | accepted _ ha =>
    rw [ha.sessionRoom] at hq
    cases hq

/-- **Which acknowledgements can be sent.**  On an open reachable journal, a decodable event gets an
encodable acknowledgement unless it would open a session that the quota has no room for. -/
theorem appendAck_encodable_iff (hsha : ∀ bytes, sha256 bytes ≠ Block.zero 32)
    (hreach : JournalReach sha256 journal log) (hopen : journal.isOpen = true) {payload : Bytes}
    (hdecode : decodeAnswerEvent payload = .ok event) (hnow : calls.now ≠ 0) :
    encodeAnswerAck (journal.append sha256 calls event).outcome.ack ≠ [] ↔
      sessionKey event ∈ journal.sessions ∨ journal.sessions.size < kMaximumJournalSessions := by
  obtain ⟨hvalid, -⟩ := decodeAnswerEvent_eq_ok_iff.mp hdecode
  rw [← sessionQuotaExceeded_eq_false_iff]
  have hsessions := hreach.sessionsOf
  have hsession := hsessions.entry event
  have hid : allZero (sessionFor journal.sessions event).sessionId.toList = false := by
    rw [hsessions.sessionId_eq]
    exact hvalid.sessionId_ne
  have hhash : allZero (eventHash sha256 event).toList = false := allZero_eq_false_of_ne (hsha _)
  have hexit := append_exit sha256 calls journal event
  generalize journal.append sha256 calls event = result at hexit
  cases hexit with
  | notOpen hclosed => simp [hopen] at hclosed
  | invalid hinvalid => exact absurd hvalid hinvalid
  | sessionQuota hfull => simp [encodeAnswerAck_initial, hfull]
  | conflict hash error hconsidered =>
    refine iff_of_true ?_ hconsidered.sessionRoom
    exact encodeAnswerAck_makeAck hsha hnow hid hvalid.sequence trivial
  | duplicate hconsidered hexisting =>
    refine iff_of_true ?_ hconsidered.sessionRoom
    have hmem : event.sequence ∈ (sessionFor journal.sessions event).eventHashes :=
      Std.ExtTreeMap.mem_iff_isSome_getElem?.mpr (by rw [hexisting]; rfl)
    exact encodeAnswerAck_makeAck hsha hnow hid hvalid.sequence ⟨(hsession.mem_eventHashes.mp hmem).2, hhash⟩
  | rejected error hconsidered =>
    refine iff_of_true ?_ hconsidered.sessionRoom
    exact encodeAnswerAck_makeAck hsha hnow hid hvalid.sequence trivial
  | gap hconsidered hnew =>
    refine iff_of_true ?_ hconsidered.sessionRoom
    refine encodeAnswerAck_makeAck hsha hnow hid hvalid.sequence ?_
    -- every sequence from one to the highest has a hash, and this one has none
    by_contra hle
    have hmem : event.sequence ∈ (sessionFor journal.sessions event).eventHashes := by
      rw [hsession.mem_eventHashes]
      refine ⟨?_, UInt64.not_lt.mp hle⟩
      have hpos : event.sequence.toNat ≠ 0 :=
        fun hz => hvalid.sequence (UInt64.toNat_inj.mp hz)
      rw [UInt64.le_iff_toNat_le, UInt64.toNat_one]
      omega
    rw [Std.ExtTreeMap.mem_iff_isSome_getElem?, hnew] at hmem
    cases hmem
  | stopped left error _ hacceptable =>
    refine iff_of_true ?_ hacceptable.sessionRoom
    exact encodeAnswerAck_makeAck hsha hnow hid hvalid.sequence trivial
  | accepted _ hacceptable =>
    refine iff_of_true ?_ hacceptable.sessionRoom
    exact encodeAnswerAck_makeAck hsha hnow hid hvalid.sequence ⟨UInt64.le_refl _, hhash⟩

/-- Storing the first answer of a session in an empty journal. -/
theorem appendAck_encodable_firstAnswer : encodeAnswerAck (newJournal.append firstSha256 ⟨1, true, none⟩
      firstAnswer).outcome.ack ≠ [] :=
  (appendAck_encodable_iff firstSha256_ne_zero (.opened (open_absent fun _ => rfl)) rfl
    (decodeAnswerEvent_eq_ok_iff.mpr ⟨validAnswerEvent_firstAnswer, rfl⟩) (by decide)).mpr
      (Or.inr (by decide))

/-! ## A full journal -/

/-- The first answer of the `i`th of many sessions. -/
def answerOfSession (i : ℕ) : AnswerEvent :=
  { firstAnswer with sessionId := ⟨leBytes 16 (i + 1), leBytes_length _ _⟩ }

lemma sessionKey_answerOfSession_inj {i j : ℕ} (hi : i < 2 ^ 16) (hj : j < 2 ^ 16)
    (h : sessionKey (answerOfSession i) = sessionKey (answerOfSession j)) : i = j := by
  have hid := congrArg Block.toList (sessionKeyOf_inj.mp h).2.2.2
  have hv := congrArg leValue hid
  simp only [answerOfSession] at hv
  rw [leValue_leBytes _ _ (by omega), leValue_leBytes _ _ (by omega)] at hv
  omega

lemma validAnswerEvent_answerOfSession {i : ℕ} (hi : i < 2 ^ 16) : ValidAnswerEvent (answerOfSession i) := by
  have hid : (answerOfSession i).sessionId ≠ Block.zero 16 := by
    intro hz
    have hv := congrArg (fun block => leValue block.toList) hz
    simp only [answerOfSession] at hv
    rw [leValue_leBytes _ _ (by omega)] at hv
    have : leValue (Block.zero 16).toList = 0 := by decide
    omega
  refine { validAnswerEvent_firstAnswer with identity := ?_ }
  have hc : allZero (answerOfSession i).clientId.toList = false := rfl
  rw [validIdentity, allZero_eq_false_of_ne hid, hc]
  rfl

lemma exists_journal_of_sessions (sha256 : Bytes → Digest) :
    ∀ n ≤ kMaximumJournalSessions, ∃ journal log, JournalReach sha256 journal log ∧
      journal.isOpen ∧ journal.sessions.size = n ∧ journal.file.length = n * 182 ∧
      ∀ i < 2 ^ 16, sessionKey (answerOfSession i) ∈ journal.sessions → i < n
  | 0, _ => ⟨newJournal, _, .opened (open_absent fun _ => rfl), rfl, rfl, rfl, by simp [newJournal]⟩
  | n + 1, hn => by
    obtain ⟨journal, log, hreach, hopen, hsize, hfile, hkeys⟩ :=
      exists_journal_of_sessions sha256 n (by omega)
    have hsmall : n < 2 ^ 16 := by simp only [kMaximumJournalSessions] at hn; omega
    have hvalid := validAnswerEvent_answerOfSession hsmall
    have hnew : sessionKey (answerOfSession n) ∉ journal.sessions :=
      fun hmem => absurd (hkeys n hsmall hmem) (Nat.lt_irrefl n)
    have hreco : (journalRecord sha256 (answerOfSession n)).length = 182 := by
      rw [length_journalRecord hvalid, length_answerEventWire]
      rfl
    have hfits : RecordFits sha256 journal (answerOfSession n) := by
      simp only [RecordFits, hfile, hreco, kMaximumJournalBytes]
      omega
    refine ⟨_, _, hreach.accepted hopen (acceptable_of_new hvalid hnew (by omega) rfl) hfits, hopen,
      ?_, ?_, ?_⟩
    · simp only [AnswerJournal.accepted, indexEvent, Std.ExtTreeMap.size_insert]
      rw [if_neg (by rwa [Std.ExtTreeMap.contains_iff_mem]), hsize]
    · simp only [AnswerJournal.accepted, List.length_append, hfile, hreco]
      omega
    · intro i hi hmem
      simp only [AnswerJournal.accepted, indexEvent, Std.ExtTreeMap.mem_insert, Std.compare_eq_iff_eq] at hmem
      rcases hmem with hsame | hmem
      · have := sessionKey_answerOfSession_inj hsmall hi hsame
        omega
      · have := hkeys i hi hmem
        omega

/-- **A full journal answers the first event of a new session with an acknowledgement that cannot be
encoded.** -/
theorem appendAck_unencodable_fullJournal :
    ∃ (sha256 : Bytes → Digest) (journal : AnswerJournal) (log : List AnswerEvent)
      (payload : Bytes) (event : AnswerEvent) (calls : AppendCalls),
      (∀ bytes, sha256 bytes ≠ Block.zero 32) ∧ calls.now ≠ 0 ∧
      JournalReach sha256 journal log ∧ journal.isOpen = true ∧ decodeAnswerEvent payload = .ok event ∧
      encodeAnswerAck (journal.append sha256 calls event).outcome.ack = [] := by
  obtain ⟨journal, log, hreach, hopen, hsize, -, hkeys⟩ :=
    exists_journal_of_sessions (fun _ => Block.fill 32 1) kMaximumJournalSessions
      (Nat.le_refl _)
  have hvalid : ValidAnswerEvent (answerOfSession kMaximumJournalSessions) :=
    validAnswerEvent_answerOfSession (by decide)
  have hquota : sessionQuotaExceeded journal.sessions (answerOfSession kMaximumJournalSessions) =
      true := by
    rw [← Bool.not_eq_false, sessionQuotaExceeded_eq_false_iff, hsize]
    rintro (hmem | hlt)
    · exact Nat.lt_irrefl _ (hkeys _ (by decide) hmem)
    · exact Nat.lt_irrefl _ hlt
  refine ⟨_, journal, log, _, _, ⟨1, true, none⟩, fun _ => by decide, by decide, hreach, hopen,
    decodeAnswerEvent_eq_ok_iff.mpr ⟨hvalid, rfl⟩, ?_⟩
  rw [append_ack_of_sessionQuota hquota, encodeAnswerAck_initial]

end Nstu
