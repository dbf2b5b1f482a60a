import Mathlib.Data.List.Induction
import Nstu.Exam.Journal.Def

/-!
# The log of accepted events

The abstract journal: a list of accepted events.  Everything the journal keeps in memory is a
function of it (`replay`), and so is every byte of its file (`logBytes (journalRecord sha256)`).

* `Acceptable` collects the conditions an event has to meet.  Recovery and the live `append` test
  them in different orders and with different code; `recoverEvent_eq_ok_iff` and `append_exit`
  say that both test exactly these.
* `AcceptedLog` holds the logs built from acceptable events.
* `nextRecord_framed` and `nextRecord_canonical` make the record parser an instance of the
  framed logs of `FramedLog`.
-/

namespace Nstu

open Wire Wire.Reader FramedLog List
open AnswerJournal (store appendTo append)
open UInt32 (ofNat)

section Log

variable (sha256 : Bytes → Digest)

/-- The hash of a valid event. -/
def eventHash (event : AnswerEvent) : Digest := sha256 (answerEventWire event)

/-- The record of a valid event. -/
def journalRecord (event : AnswerEvent) : Bytes := encodeJournalRecord event (eventHash sha256 event)

/-- What an event has to satisfy to enter the sessions. -/
structure Acceptable (sessions : Sessions) (event : AnswerEvent) : Prop where
  valid : ValidAnswerEvent event
  sessionRoom : sessionQuotaExceeded sessions event = false
  candidate : (sessionFor sessions event).candidateId = event.candidateId
  answerRoom : answerQuotaExceeded (sessionFor sessions event) event = false
  notFinalized : (sessionFor sessions event).finalized = false
  notFull : (sessionFor sessions event).highestSequence ≠ maxSequence
  sequence : event.sequence = (sessionFor sessions event).highestSequence + 1
  previous : event.previousEventHash = (sessionFor sessions event).lastHash

/-- The sessions after an acceptable event. -/
def indexEvent (sessions : Sessions) (event : AnswerEvent) : Sessions :=
  sessions.insert (sessionKey event) ((sessionFor sessions event).accept event (eventHash sha256 event))

/-- The sessions a log of accepted events amounts to. -/
def replay (log : List AnswerEvent) : Sessions := log.foldl (indexEvent sha256) ∅

/-- Logs every event of which was acceptable when it came. -/
inductive AcceptedLog : List AnswerEvent → Prop where
  | nil : AcceptedLog []
  | snoc {log : List AnswerEvent} {event : AnswerEvent} :
      AcceptedLog log → Acceptable (replay sha256 log) event → AcceptedLog (log ++ [event])

/-- What recovery rebuilds from a log. -/
def indexOf (log : List AnswerEvent) : Index := ⟨replay sha256 log, log.length⟩

end Log

variable {sha256 : Bytes → Digest}

@[simp] lemma replay_nil : replay sha256 [] = ∅ := rfl

@[simp] lemma replay_concat (log : List AnswerEvent) (event : AnswerEvent) :
    replay sha256 (log ++ [event]) = indexEvent sha256 (replay sha256 log) event := by
  simp [replay]

lemma acceptedLog_concat_iff {log : List AnswerEvent} {event : AnswerEvent} : AcceptedLog sha256 (log ++ [event]) ↔
      AcceptedLog sha256 log ∧ Acceptable (replay sha256 log) event := by
  constructor
  · intro h
    generalize he : log ++ [event] = whole at h
    cases h with
    | nil => simp at he
    | snoc hl hev =>
      obtain ⟨rfl, h⟩ := append_inj' he rfl
      cases h
      exact ⟨hl, hev⟩
  · rintro ⟨hl, hev⟩
    exact .snoc hl hev

lemma AcceptedLog.of_append {log rest : List AnswerEvent} (h : AcceptedLog sha256 (log ++ rest)) :
    AcceptedLog sha256 log := by
  induction rest using reverseRecOn with
  | nil => simpa using h
  | append_singleton rest event ih =>
    rw [← append_assoc] at h
    exact ih (acceptedLog_concat_iff.mp h).1

lemma AcceptedLog.take {log : List AnswerEvent} (h : AcceptedLog sha256 log) (n : ℕ) :
    AcceptedLog sha256 (log.take n) := by
  rw [← take_append_drop n log] at h
  exact h.of_append

lemma AcceptedLog.valid {log : List AnswerEvent} (h : AcceptedLog sha256 log) :
    ∀ event ∈ log, ValidAnswerEvent event := by
  induction h with
  | nil => simp
  | snoc _ he ih =>
    intro event hm
    rcases mem_append.mp hm with hm | hm
    · exact ih event hm
    · rw [mem_singleton.mp hm]
      exact he.valid

lemma sessionQuotaExceeded_eq_false_iff {sessions : Sessions} {event : AnswerEvent} :
    sessionQuotaExceeded sessions event = false ↔
      sessionKey event ∈ sessions ∨ sessions.size < kMaximumJournalSessions := by
  rw [sessionQuotaExceeded, Bool.and_eq_false_iff, Bool.not_eq_false', decide_eq_false_iff_not,
    Nat.not_le, Std.ExtTreeMap.contains_iff_mem]

lemma acceptable_of_new {sessions : Sessions} {event : AnswerEvent}
    (hv : ValidAnswerEvent event) (hn : sessionKey event ∉ sessions)
    (hr : sessions.size < kMaximumJournalSessions) (hf : event.sequence = 1) :
    Acceptable sessions event := by
  have hfr : sessionFor sessions event = SessionData.fresh event := by
    rw [sessionFor, Std.ExtTreeMap.getElem?_eq_none hn]
    rfl
  exact
    { valid := hv
      sessionRoom := sessionQuotaExceeded_eq_false_iff.mpr (.inr hr)
      candidate := by rw [hfr]; rfl
      answerRoom := by
        rw [hfr]
        simp [answerQuotaExceeded, SessionData.fresh, kMaximumStateEntries]
      notFinalized := by rw [hfr]; rfl
      notFull := by rw [hfr]; exact (by decide : (0 : UInt64) ≠ maxSequence)
      sequence := by rw [hfr, hf]; rfl
      previous := by
        rw [hfr, allZero_iff.mp (hv.first hf)]
        rfl }

/-! ## Recovery applies acceptable events -/

lemma hashAnswerEvent_eq_some_iff {event : AnswerEvent} {hash : Digest} : hashAnswerEvent sha256 event = some hash ↔
      ValidAnswerEvent event ∧ hash = eventHash sha256 event := by
  by_cases hv : ValidAnswerEvent event
  · rw [hashAnswerEvent_of_valid hv]
    simp [hv, eventHash, eq_comm]
  · have hn := encodeAnswerEvent_eq_nil_iff.mpr hv
    simp [hashAnswerEvent, hn, hv]

lemma applyRecovered_eq_some_iff {session next : SessionData} {event : AnswerEvent} {hash : Digest} :
    applyRecovered session event hash = some next ↔
      (session.highestSequence ≠ maxSequence ∧ event.sequence = session.highestSequence + 1 ∧
        event.previousEventHash = session.lastHash ∧
        (session.candidateId = [] ∨ session.candidateId = event.candidateId) ∧
        session.finalized = false) ∧ next = session.accept event hash := by
  simp only [applyRecovered]
  split
  · rename_i h
    simp only [Bool.or_eq_true, Bool.and_eq_true, beq_iff_eq, bne_iff_ne, Bool.not_eq_true',
      ← Bool.not_eq_true, List.isEmpty_iff, sameDigest_iff, Block.toList_inj] at h
    simp only [reduceCtorEq, false_iff]
    rintro ⟨⟨hf, hs, hp, hc, hfi⟩, -⟩
    rcases h with (((h | h) | h) | ⟨hn, h⟩) | h
    · exact hf h
    · exact h hs
    · exact h hp
    · exact hc.elim hn h
    · simp [hfi] at h
  · rename_i h
    simp only [Bool.or_eq_true, Bool.and_eq_true, beq_iff_eq, bne_iff_ne, Bool.not_eq_true',
      ← Bool.not_eq_true, List.isEmpty_iff, sameDigest_iff, Block.toList_inj, not_or, not_and,
      not_not] at h
    obtain ⟨⟨⟨⟨hf, hs⟩, hp⟩, hc⟩, hfi⟩ := h
    have hc : session.candidateId = [] ∨ session.candidateId = event.candidateId :=
      or_iff_not_imp_left.mpr hc
    simp [hf, hs, hp, hc, hfi, eq_comm]

lemma Acceptable.applyRecovered {sessions : Sessions} {event : AnswerEvent}
    (h : Acceptable sessions event) (hash : Digest) :
    Nstu.applyRecovered (sessionFor sessions event) event hash =
      some ((sessionFor sessions event).accept event hash) :=
  applyRecovered_eq_some_iff.mpr ⟨⟨h.notFull, h.sequence, h.previous, .inr h.candidate, h.notFinalized⟩, rfl⟩

/-- **Recovery accepts exactly the acceptable events.** -/
lemma recoverEvent_eq_ok_iff {index next : Index} {event : AnswerEvent} : recoverEvent sha256 index event = .ok next ↔
      Acceptable index.sessions event ∧
        next = ⟨indexEvent sha256 index.sessions event, index.eventCount + 1⟩ := by
  constructor
  · intro h
    unfold recoverEvent at h
    dsimp only at h
    split at h
    · cases h
    · rename_i hash hhash
      obtain ⟨hvalid, rfl⟩ := hashAnswerEvent_eq_some_iff.mp hhash
      split at h
      · cases h
      · rename_i hroom
        split at h
        · cases h
        · rename_i hcand
          split at h
          · cases h
          · rename_i hquota
            split at h
            · cases h
            · rename_i session hsess
              rw [Except.ok.injEq] at h
              subst h
              obtain ⟨⟨hfull, hseq, hprev, -, hfin⟩, rfl⟩ := applyRecovered_eq_some_iff.mp hsess
              refine ⟨⟨hvalid, by simpa using hroom, by simpa using hcand, by simpa using hquota,
                hfin, hfull, hseq, hprev⟩, rfl⟩
  · rintro ⟨h, rfl⟩
    unfold recoverEvent
    simp [hashAnswerEvent_eq_some_iff.mpr ⟨h.valid, rfl⟩, h.sessionRoom, h.candidate, h.answerRoom,
      h.applyRecovered, indexEvent]

/-- Recovery accepts exactly the logs the appends could write. -/
lemma foldlM_recoverEvent_iff {log rest : List AnswerEvent} {index : Index} (hl : AcceptedLog sha256 log) :
    rest.foldlM (recoverEvent sha256) (indexOf sha256 log) = .ok index ↔
      AcceptedLog sha256 (log ++ rest) ∧ index = indexOf sha256 (log ++ rest) := by
  induction rest generalizing log with
  | nil =>
    simp only [foldlM_nil, append_nil, hl, true_and]
    exact ⟨fun h => (Except.ok.inj h).symm, fun h => h ▸ rfl⟩
  | cons event rest ih =>
    have ha : log ++ event :: rest = log ++ [event] ++ rest := by simp
    have hi : indexOf sha256 (log ++ [event]) = ⟨indexEvent sha256 (indexOf sha256 log).sessions event,
          (indexOf sha256 log).eventCount + 1⟩ := by
      simp [indexOf]
    rw [foldlM_cons, ha]
    cases hs : recoverEvent sha256 (indexOf sha256 log) event with
    | error error =>
      refine ⟨fun h => (by cases h), fun ⟨h, _⟩ => ?_⟩
      have hac := (acceptedLog_concat_iff.mp h.of_append).2
      rw [recoverEvent_eq_ok_iff.mpr ⟨hac, rfl⟩] at hs
      cases hs
    | ok next =>
      obtain ⟨hac, rfl⟩ := recoverEvent_eq_ok_iff.mp hs
      rw [← hi]
      exact ih (acceptedLog_concat_iff.mpr ⟨hl, hac⟩)

/-! ## Records are frames -/

lemma run_readRecordHeader_iff {s r : Bytes} {magic : UInt32} {version reserved : UInt16} {payloadBytes : UInt32} :
    readRecordHeader.run s = some ((magic, version, reserved, payloadBytes), r) ↔
      s = le magic ++ (le version ++ (le reserved ++ (le payloadBytes ++ r))) := by
  simp only [readRecordHeader, run_bind_readLe_iff, run_pure_iff, Prod.mk.injEq]
  constructor
  · rintro ⟨m, s1, rfl, v, s2, rfl, z, s3, rfl, p, s4, rfl, ⟨rfl, rfl, rfl, rfl⟩, rfl⟩
    rfl
  · rintro rfl
    exact ⟨_, _, rfl, _, _, rfl, _, _, rfl, _, _, rfl, ⟨rfl, rfl, rfl, rfl⟩, rfl⟩

/-- The header of the record of an event with `size` payload bytes. -/
def recordHeader (size : ℕ) : Bytes :=
  le kJournalMagic ++ (le kJournalVersion ++ (le (0 : UInt16) ++ le (UInt32.ofNat size)))

@[simp] lemma length_recordHeader (size : ℕ) : (recordHeader size).length = kJournalHeaderBytes := by
  simp [recordHeader, kJournalHeaderBytes]

lemma journalRecord_of_valid {event : AnswerEvent} (h : ValidAnswerEvent event) :
    journalRecord sha256 event = recordHeader (answerEventWire event).length ++
      (answerEventWire event ++ (eventHash sha256 event).toList) := by
  simp [journalRecord, encodeJournalRecord, encodeAnswerEvent_of_valid h, answerEventWire_ne_nil, recordHeader]

lemma length_journalRecord {event : AnswerEvent} (h : ValidAnswerEvent event) : (journalRecord sha256 event).length =
      kJournalRecordOverhead + (answerEventWire event).length := by
  rw [journalRecord_of_valid h]
  simp only [length_append, length_recordHeader, Block.length_toList, kJournalRecordOverhead]
  omega

lemma run_readRecordHeader_recordHeader (size : ℕ) (rest : Bytes) : readRecordHeader.run (recordHeader size ++ rest) =
      some ((kJournalMagic, kJournalVersion, 0, ofNat size), rest) := by
  rw [run_readRecordHeader_iff]
  simp [recordHeader]

lemma ValidAnswerEvent.payloadBytes {event : AnswerEvent} (h : ValidAnswerEvent event) :
    (ofNat (answerEventWire event).length).toNat = (answerEventWire event).length := by
  have := h.length_wire_le
  simp only [kMaximumWireBytes, kMaximumExamPayloadBytes, kMaxCommandPayload, kControlAuthTagBytes] at this
  rw [UInt32.toNat_ofNat', Nat.mod_eq_of_lt (by omega)]

lemma nextRecord_nil : nextRecord sha256 [] = .finished := rfl

lemma ValidAnswerEvent.header_ok {event : AnswerEvent} (h : ValidAnswerEvent event) :
    (kJournalMagic != kJournalMagic || kJournalVersion != kJournalVersion || (0 : UInt16) != 0 ||
      ofNat (answerEventWire event).length == 0 ||
      decide ((answerEventWire event).length > 64 * 1024)) = false := by
  have hl := h.length_wire_le
  have hp := length_pos_iff.mpr (answerEventWire_ne_nil event)
  simp only [kMaximumWireBytes, kMaximumExamPayloadBytes, kMaxCommandPayload, kControlAuthTagBytes] at hl
  have hn : ofNat (answerEventWire event).length ≠ 0 := by
    intro hz
    have := congrArg UInt32.toNat hz
    rw [h.payloadBytes] at this
    rw [UInt32.toNat_zero] at this
    omega
  simp only [bne_self_eq_false, Bool.or_false, Bool.false_or, Bool.or_eq_false_iff,
    beq_eq_false_iff_ne, decide_eq_false_iff_not]
  exact ⟨hn, by omega⟩

/-- **The parser recognises the record of every valid event**, and calls it torn when cut. -/
theorem nextRecord_framed {event : AnswerEvent} (h : ValidAnswerEvent event) :
    Framed (nextRecord sha256) (journalRecord sha256) event where
  nonempty := by
    intro hnil
    have : (journalRecord sha256 event).length = _ := length_journalRecord h
    rw [hnil] at this
    simp [kJournalRecordOverhead, kJournalHeaderBytes] at this
    omega
  whole rest := by
    have hlen : (journalRecord sha256 event).length = _ := length_journalRecord h
    have hne : (journalRecord sha256 event ++ rest).isEmpty = false := by
      rw [journalRecord_of_valid h]
      simp [recordHeader, answerEventWire_ne_nil]
    have hsplit : journalRecord sha256 event ++ rest = recordHeader (answerEventWire event).length ++
          (answerEventWire event ++ ((eventHash sha256 event).toList ++ rest)) := by
      rw [journalRecord_of_valid h]
      simp
    have hpayl : ((journalRecord sha256 event ++ rest).drop kJournalHeaderBytes).take
        (answerEventWire event).length = answerEventWire event := by
      rw [hsplit, drop_left' (by simp), take_left]
    have hhash : ((journalRecord sha256 event ++ rest).drop
        (kJournalHeaderBytes + (answerEventWire event).length)).take 32 = (eventHash sha256 event).toList := by
      rw [hsplit, ← drop_drop, drop_left' (by simp), drop_left,
        take_left' (by simp)]
    have hlong : ¬ (journalRecord sha256 event ++ rest).length < kJournalHeaderBytes := by
      rw [length_append, hlen, kJournalRecordOverhead]
      omega
    have hwhole : ¬ (journalRecord sha256 event ++ rest).length <
        kJournalRecordOverhead + (answerEventWire event).length := by
      rw [length_append, hlen]
      omega
    have hdeco := decodeAnswerEvent_eq_ok_iff.mpr ⟨h, rfl⟩
    have hhead : readRecordHeader.run (journalRecord sha256 event ++ rest) =
        some ((kJournalMagic, kJournalVersion, 0, ofNat (answerEventWire event).length),
          answerEventWire event ++ ((eventHash sha256 event).toList ++ rest)) := by
      rw [hsplit, run_readRecordHeader_recordHeader]
    simp only [nextRecord, hne, hhead, h.header_ok, h.payloadBytes, if_neg hlong, if_neg hwhole,
      hpayl, hhash, hdeco,
      hashAnswerEvent_eq_some_iff.mpr ⟨h, rfl⟩, hlen, Bool.false_eq_true, if_false]
    rw [if_neg (by simp [eventHash])]
  cut n hpos hlt := by
    have hlen : (journalRecord sha256 event).length = _ := length_journalRecord h
    have htake : ((journalRecord sha256 event).take n).length = n := by
      rw [length_take]
      omega
    have hne : ((journalRecord sha256 event).take n).isEmpty = false := by
      rw [isEmpty_eq_false_iff, ← length_pos_iff, htake]
      exact hpos
    by_cases hhead : n < kJournalHeaderBytes
    · simp [nextRecord, hne, htake, hhead]
    · have hsplit : (journalRecord sha256 event).take n = recordHeader (answerEventWire event).length ++
            (answerEventWire event ++ (eventHash sha256 event).toList).take (n - kJournalHeaderBytes) := by
        rw [journalRecord_of_valid h, take_append, length_recordHeader, take_of_length_le (by simp; omega)]
      have hrun : readRecordHeader.run ((journalRecord sha256 event).take n) =
          some ((kJournalMagic, kJournalVersion, 0, ofNat (answerEventWire event).length),
            (answerEventWire event ++ (eventHash sha256 event).toList).take (n - kJournalHeaderBytes)) := by
        rw [hsplit, run_readRecordHeader_recordHeader]
      rw [hlen] at hlt
      simp only [nextRecord, hne, hrun, h.header_ok, h.payloadBytes, htake, if_neg hhead,
        if_pos hlt, Bool.false_eq_true, if_false]

/-- **Nothing but the record of a valid event is taken for one.** -/
theorem nextRecord_canonical : Canonical (nextRecord sha256) (journalRecord sha256) := by
  intro rest event size h
  simp only [nextRecord] at h
  split at h
  · cases h
  split at h
  · cases h
  split at h
  · cases h
  rename_i magic version reserved payloadBytes tail hheade
  split at h
  · cases h
  rename_i hfiel
  split at h
  · cases h
  rename_i hlong
  split at h
  · cases h
  rename_i decoded hdeco
  split at h
  · cases h
  rename_i hash hhash
  split at h
  · cases h
  rename_i hsame
  cases h
  obtain ⟨hvalid, hpayl⟩ := decodeAnswerEvent_eq_ok_iff.mp hdeco
  obtain ⟨-, rfl⟩ := hashAnswerEvent_eq_some_iff.mp hhash
  rw [run_readRecordHeader_iff] at hheade
  simp only [Bool.or_eq_true, bne_iff_ne, beq_iff_eq, decide_eq_true_eq, not_or, not_not] at hfiel
  obtain ⟨⟨⟨⟨rfl, rfl⟩, rfl⟩, -⟩, -⟩ := hfiel
  simp only [Bool.not_eq_true', Bool.not_eq_false, sameDigest_iff] at hsame
  have hbytes : (answerEventWire event).length = payloadBytes.toNat := by
    rw [← hpayl, length_take, length_drop]
    simp only [kJournalRecordOverhead] at hlong
    omega
  have hofNat : ofNat (answerEventWire event).length = payloadBytes := by
    rw [hbytes]
    simp
  refine ⟨by simp only [kJournalRecordOverhead]; omega, by omega, ?_⟩
  -- header, payload and stored hash are consecutive pieces of the input
  have hpiec : rest.take (kJournalRecordOverhead + payloadBytes.toNat) =
      rest.take kJournalHeaderBytes ++ ((rest.drop kJournalHeaderBytes).take payloadBytes.toNat ++
        (rest.drop (kJournalHeaderBytes + payloadBytes.toNat)).take 32) := by
    have hsum : kJournalRecordOverhead + payloadBytes.toNat = kJournalHeaderBytes + (payloadBytes.toNat + 32) := by
      simp only [kJournalRecordOverhead]
      omega
    rw [hsum, take_add, take_add, drop_drop]
  have hhead : rest.take kJournalHeaderBytes = recordHeader (answerEventWire event).length := by
    rw [hheade, recordHeader, hofNat]
    simp only [← append_assoc]
    rw [take_left' (by simp [kJournalHeaderBytes])]
  rw [hpiec, hhead, hpayl, ← hsame, journalRecord_of_valid hvalid]

/-! ## The exits of `append` -/

section Append

variable (sha256 : Bytes → Digest) (calls : AppendCalls) (journal : AnswerJournal)
  (event : AnswerEvent)

/-- The events for which `append` gets as far as looking at a session. -/
structure Considered : Prop where
  isOpen : journal.isOpen = true
  valid : ValidAnswerEvent event
  sessionRoom : sessionQuotaExceeded journal.sessions event = false

/-- The record fits into what the quota leaves of the file. -/
def RecordFits : Prop :=
  journal.file.length + (journalRecord sha256 event).length ≤ kMaximumJournalBytes

/-- The acknowledgement that describes the session before the event. -/
def refusalAck (status : AnswerAckStatus) (hash : Digest) : AnswerAck :=
  makeAck sha256 calls.now (sessionFor journal.sessions event) status event.sequence hash

/-- The journal after an accepted event. -/
def AnswerJournal.accepted : AnswerJournal :=
  { journal with
    file := journal.file ++ journalRecord sha256 event
    sessions := indexEvent sha256 journal.sessions event
    eventCount := journal.eventCount + 1 }

/-- The exits of `append`: what each one requires, answers and leaves behind. -/
inductive AppendExit : AppendResult → Prop where
  | notOpen : journal.isOpen = false →
      AppendExit ⟨journal, ⟨.unavailable, .initial⟩, some "answer journal is not open"⟩
  | invalid : ¬ ValidAnswerEvent event →
      AppendExit ⟨journal, ⟨.rejected, .initial⟩, some invalidAnswerEvent⟩
  | sessionQuota : sessionQuotaExceeded journal.sessions event = true →
      AppendExit ⟨journal, ⟨.unavailable, .initial⟩, some "journal session quota is exhausted"⟩
  | conflict (hash : Digest) (error : String) : Considered journal event →
      AppendExit ⟨journal, ⟨.conflict, refusalAck sha256 calls journal event .conflict hash⟩, some error⟩
  | duplicate : Considered journal event →
      (sessionFor journal.sessions event).eventHashes[event.sequence]? = some (eventHash sha256 event) →
      AppendExit ⟨journal, ⟨.duplicate,
        refusalAck sha256 calls journal event .duplicate (eventHash sha256 event)⟩, none⟩
  | rejected (error : String) : Considered journal event →
      AppendExit ⟨journal, ⟨.rejected,
        refusalAck sha256 calls journal event .rejected (eventHash sha256 event)⟩, some error⟩
  | gap : Considered journal event →
      (sessionFor journal.sessions event).eventHashes[event.sequence]? = none →
      AppendExit ⟨journal, ⟨.gap, refusalAck sha256 calls journal event .gap (eventHash sha256 event)⟩,
        some "answer event sequence has a gap"⟩
  | stopped (left : ℕ) (error : Option String) : journal.isOpen = true →
      Acceptable journal.sessions event →
      left = 0 ∨ calls.writeFailure = some left ∧ RecordFits sha256 journal event →
      AppendExit ⟨{ journal with
          isOpen := false, file := journal.file ++ (journalRecord sha256 event).take left },
        ⟨.unavailable, refusalAck sha256 calls journal event .unavailable (eventHash sha256 event)⟩,
        error⟩
  | accepted : journal.isOpen = true → Acceptable journal.sessions event →
      RecordFits sha256 journal event → calls.writeFailure = none →
      AppendExit ⟨journal.accepted sha256 event, ⟨.accepted, makeAck sha256 calls.now
          ((sessionFor journal.sessions event).accept event (eventHash sha256 event))
          .accepted event.sequence (eventHash sha256 event)⟩, none⟩

variable {calls journal event}

lemma store_exit (ho : journal.isOpen) (ha : Acceptable journal.sessions event) :
    AppendExit sha256 calls journal event (journal.store sha256 calls event
      (sessionFor journal.sessions event) (eventHash sha256 event)) := by
  unfold store
  dsimp only
  split
  · have : AppendExit sha256 calls journal event _ := .stopped 0 none ho ha (.inl rfl)
    simpa only [refusalAck, take_zero, append_nil] using this
  rename_i hr
  simp only [Bool.or_eq_true, decide_eq_true_eq, not_or, Nat.not_lt] at hr
  have hf : RecordFits sha256 journal event := by
    have hre := hr.1.2
    have hfi := hr.2
    simp only [RecordFits, journalRecord]
    omega
  cases hw : calls.writeFailure with
  | some left => exact .stopped _ _ ho ha (.inr ⟨hw, hf⟩)
  | none =>
    dsimp only
    rw [ha.applyRecovered]
    exact .accepted ho ha hf hw

/-- How an append ends once the event is considered. -/
lemma appendTo_exit (hcons : Considered journal event) :
    AppendExit sha256 calls journal event (journal.appendTo sha256 calls event
      (sessionFor journal.sessions event) (eventHash sha256 event)) := by
  unfold appendTo
  dsimp only
  split
  · exact .conflict _ _ hcons
  rename_i hcand
  split
  · rename_i existing hexis
    split
    · exact .conflict _ _ hcons
    · rename_i hsame
      have hhash : existing = eventHash sha256 event := by simpa using hsame
      subst hhash
      exact .duplicate hcons hexis
  · rename_i hnew
    split
    · exact .rejected _ hcons
    rename_i hquota
    split
    · exact .rejected _ hcons
    rename_i hfinal
    split
    · exact .gap hcons hnew
    rename_i hsequ
    split
    · exact .conflict _ _ hcons
    rename_i hprev
    simp only [Bool.or_eq_true, beq_iff_eq, bne_iff_ne, not_or, not_not] at hsequ
    exact store_exit sha256 hcons.isOpen
      ⟨hcons.valid, hcons.sessionRoom, by simpa using hcand, by simpa using hquota,
        by simpa using hfinal, hsequ.1, hsequ.2, by simpa using hprev⟩

variable (calls journal event)

/-- **Every call of `append` takes one of these exits.** -/
theorem append_exit : AppendExit sha256 calls journal event (journal.append sha256 calls event) := by
  simp only [append]
  split
  · rename_i h
    exact .notOpen (by simpa using h)
  rename_i ho
  split
  · rename_i h
    exact .invalid (by simpa [← validateAnswerEvent_iff] using h)
  rename_i hv
  have hv : ValidAnswerEvent event := validateAnswerEvent_iff.mp (by simpa using hv)
  rw [hashAnswerEvent_eq_some_iff.mpr ⟨hv, rfl⟩]
  dsimp only
  split
  · rename_i h
    exact .sessionQuota h
  rename_i hr
  exact appendTo_exit sha256 ⟨by simpa using ho, hv, by simpa using hr⟩

variable {sha256 calls journal event}

lemma append_eq_store (ho : journal.isOpen) (ha : Acceptable journal.sessions event)
    (hn : (sessionFor journal.sessions event).eventHashes[event.sequence]? = none) :
    journal.append sha256 calls event = journal.store sha256 calls event
      (sessionFor journal.sessions event) (eventHash sha256 event) := by
  have hs : ((sessionFor journal.sessions event).highestSequence == maxSequence ||
      event.sequence != (sessionFor journal.sessions event).highestSequence + 1) = false := by
    simp [ha.notFull, ha.sequence]
  simp only [append]
  rw [if_neg (by simp [ho]), if_neg (by simp [validateAnswerEvent_iff.mpr ha.valid]),
    hashAnswerEvent_eq_some_iff.mpr ⟨ha.valid, rfl⟩]
  dsimp only
  rw [if_neg (by simp [ha.sessionRoom])]
  unfold appendTo
  dsimp only
  rw [if_neg (by simp [ha.candidate]), hn]
  dsimp only
  rw [if_neg (by simp [ha.answerRoom]), if_neg (by simp [ha.notFinalized]),
    if_neg (by simp [hs]), if_neg (by simp [ha.previous])]

lemma RecordFits.not_refused (hf : RecordFits sha256 journal event)
    (hv : ValidAnswerEvent event) (hs : calls.sizeKnown) :
    ¬ ((encodeJournalRecord event (eventHash sha256 event)).isEmpty || !calls.sizeKnown ||
      decide ((encodeJournalRecord event (eventHash sha256 event)).length > kMaximumJournalBytes) ||
      decide (journal.file.length >
        kMaximumJournalBytes - (encodeJournalRecord event (eventHash sha256 event)).length)) := by
  have hr : journalRecord sha256 event ≠ [] := (nextRecord_framed hv).nonempty
  simp only [RecordFits, journalRecord] at hf hr
  simp only [isEmpty_eq_false_iff.mpr hr, hs, Bool.or_eq_true, decide_eq_true_eq,
    Bool.not_true, Bool.false_eq_true, false_or, not_or, Nat.not_lt]
  omega

lemma append_of_acceptable (ho : journal.isOpen) (ha : Acceptable journal.sessions event)
    (hn : (sessionFor journal.sessions event).eventHashes[event.sequence]? = none)
    (hf : RecordFits sha256 journal event) (hs : calls.sizeKnown)
    (hw : calls.writeFailure = none) :
    journal.append sha256 calls event = ⟨journal.accepted sha256 event, ⟨.accepted, makeAck sha256 calls.now
        ((sessionFor journal.sessions event).accept event (eventHash sha256 event)) .accepted
        event.sequence (eventHash sha256 event)⟩, none⟩ := by
  rw [append_eq_store ho ha hn]
  unfold store
  dsimp only
  rw [if_neg (hf.not_refused ha.valid hs), hw, ha.applyRecovered]
  rfl

end Append

end Nstu
