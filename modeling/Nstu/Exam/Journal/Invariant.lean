import Nstu.Core.HashChain
import Nstu.Exam.Journal.Recovery

/-!
# What a session of the journal looks like

`SessionInvariant key session events` describes a session by the events accepted into it: their
sequences run from one, each names the hash of the one before, and the answers are the latest
upserts that no clear took back.  `acceptedLog_sessions` proves it for every session of the replay
of an accepted log, and `journal_session_invariant` for every session of every reachable journal.
-/

namespace Nstu

open Wire FramedLog HashChain List Std
open UInt64 (toNat_one le_iff_toNat_le)

/-! ## Map lookups -/

section Lookups

variable {ν : Type}

lemma getElem?_insert {κ : Type} [Ord κ] [TransOrd κ] [LawfulEqOrd κ] [DecidableEq κ]
    (map : OrderedMap κ ν) (k a : κ) (v : ν) :
    (map.insert k v)[a]? = if k = a then some v else map[a]? := by
  rw [ExtTreeMap.getElem?_insert]
  simp

lemma getElem?_erase {κ : Type} [Ord κ] [TransOrd κ] [LawfulEqOrd κ] [DecidableEq κ]
    (map : OrderedMap κ ν) (k a : κ) :
    (map.erase k)[a]? = if k = a then none else map[a]? := by
  rw [ExtTreeMap.getElem?_erase]
  simp

end Lookups

section Spec

variable (sha256 : Bytes → Digest)

/-- The events of one session, in the order they were accepted. -/
def eventsOf (key : Bytes) (log : List AnswerEvent) : List AnswerEvent :=
  log.filter fun event => sessionKey event == key

/-- The event sets or clears the answer to a question. -/
def touches (questionId : Bytes) (event : AnswerEvent) : Bool :=
  (event.kind == .upsert || event.kind == .clear) && event.questionId == questionId

/-- The answer a list of events leaves for a question: the latest upsert, unless a clear came
after it. -/
def latestAnswer (events : List AnswerEvent) (questionId : Bytes) : Option AnswerState :=
  match events.reverse.find? (touches questionId) with
  | some event =>
    if event.kind = .upsert then some (AnswerState.ofEvent event (eventHash sha256 event))
    else none
  | none => none

/-- A session of the journal, described by the events accepted into it. -/
structure SessionInvariant (key : Bytes) (session : SessionData) (events : List AnswerEvent) :
    Prop where
  context : sessionKeyOf session.packageId session.packageDigest session.clientId session.sessionId = key
  keys : ∀ event ∈ events, sessionKey event = key
  candidate : ∀ event ∈ events, event.candidateId = session.candidateId
  highest : session.highestSequence.toNat = events.length
  sequences : ∀ i (h : i < events.length), events[i].sequence.toNat = i + 1
  hashes : ∀ k : UInt64, session.eventHashes[k]? =
    if k = 0 then none else events[k.toNat - 1]?.map (eventHash sha256)
  linked : Linked (eventHash sha256) AnswerEvent.previousEventHash (Block.zero 32) events
  lastHash : session.lastHash = endHash (eventHash sha256) (Block.zero 32) events
  answers : ∀ questionId, session.answers[questionId]? = latestAnswer sha256 events questionId
  answersSize : session.answers.size ≤ kMaximumStateEntries
  finalized : session.finalized = true ↔ ∃ event ∈ events.getLast?, event.kind = .finalize

end Spec

variable {sha256 : Bytes → Digest}

lemma latestAnswer_concat (events : List AnswerEvent) (event : AnswerEvent) (questionId : Bytes) :
    latestAnswer sha256 (events ++ [event]) questionId =
      if touches questionId event then
        if event.kind = .upsert then some (AnswerState.ofEvent event (eventHash sha256 event))
        else none
      else latestAnswer sha256 events questionId := by
  simp only [latestAnswer, reverse_append, reverse_singleton, singleton_append, find?_cons]
  cases touches questionId event <;> rfl

lemma eventsOf_concat (key : Bytes) (log : List AnswerEvent) (event : AnswerEvent) : eventsOf key (log ++ [event]) =
      if sessionKey event = key then eventsOf key log ++ [event] else eventsOf key log := by
  simp only [eventsOf, filter_append, filter_cons, filter_nil, beq_iff_eq]
  split_ifs <;> simp

lemma toNat_succ {n : UInt64} (h : n ≠ maxSequence) : (n + 1).toNat = n.toNat + 1 := by
  have hl : n.toNat < 2 ^ 64 - 1 := by
    have := n.toNat_lt
    have : n.toNat ≠ 2 ^ 64 - 1 := fun hm => h (UInt64.toNat_inj.mp hm)
    omega
  rw [UInt64.toNat_add, toNat_one, Nat.mod_eq_of_lt (by omega)]

namespace SessionInvariant

variable {key : Bytes} {session : SessionData} {events : List AnswerEvent} {event : AnswerEvent}

lemma fresh (event : AnswerEvent) : SessionInvariant sha256 (sessionKey event) (SessionData.fresh event) [] where
  context := rfl
  keys := by simp
  candidate := by simp
  highest := rfl
  sequences := by simp
  hashes k := by simp [SessionData.fresh]
  linked := trivial
  lastHash := rfl
  answers questionId := by simp [SessionData.fresh, latestAnswer]
  answersSize := by simp [SessionData.fresh]
  finalized := by simp [SessionData.fresh]

lemma getElem?_eventHashes (h : SessionInvariant sha256 key session events) {k : UInt64} {hash : Digest} :
    session.eventHashes[k]? = some hash ↔ ∃ event ∈ events, event.sequence = k ∧ eventHash sha256 event = hash := by
  rw [h.hashes]
  constructor
  · intro hk
    split_ifs at hk with hzero
    obtain ⟨event, hevent, rfl⟩ := Option.map_eq_some_iff.mp hk
    obtain ⟨hlt, rfl⟩ := List.getElem?_eq_some_iff.mp hevent
    refine ⟨_, List.getElem_mem hlt, UInt64.toNat_inj.mp ?_, rfl⟩
    have hpos : k.toNat ≠ 0 := fun hz => hzero (UInt64.toNat_inj.mp hz)
    rw [h.sequences _ hlt]
    omega
  · rintro ⟨event, hmem, rfl, rfl⟩
    obtain ⟨i, hi, rfl⟩ := getElem_of_mem hmem
    have hseq := h.sequences i hi
    have hzero : events[i].sequence ≠ 0 := by
      intro hz
      rw [hz] at hseq
      simp at hseq
    rw [if_neg hzero, hseq, Nat.add_sub_cancel, getElem?_eq_getElem hi]
    rfl

lemma mem_eventHashes (h : SessionInvariant sha256 key session events) {k : UInt64} :
    k ∈ session.eventHashes ↔ 1 ≤ k ∧ k ≤ session.highestSequence := by
  rw [ExtTreeMap.mem_iff_isSome_getElem?, h.hashes, le_iff_toNat_le,
    le_iff_toNat_le, h.highest, toNat_one]
  by_cases hze : k = 0
  · simp [hze]
  · have hp : k.toNat ≠ 0 := fun hz => hze (UInt64.toNat_inj.mp hz)
    simp only [if_neg hze, Option.isSome_map, isSome_getElem?]
    omega

lemma getElem?_eventHashes_next (h : SessionInvariant sha256 key session events)
    (hf : session.highestSequence ≠ maxSequence) :
    session.eventHashes[session.highestSequence + 1]? = none := by
  apply ExtTreeMap.getElem?_eq_none
  rw [h.mem_eventHashes, le_iff_toNat_le, le_iff_toNat_le, toNat_succ hf]
  omega

lemma getElem?_accept_answers (h : SessionInvariant sha256 key session events) (questionId : Bytes) :
    (session.accept event (eventHash sha256 event)).answers[questionId]? =
      latestAnswer sha256 (events ++ [event]) questionId := by
  rw [latestAnswer_concat, ← h.answers]
  simp only [SessionData.accept, touches]
  by_cases hu : event.kind = .upsert
  · simp [hu, getElem?_insert]
  · by_cases hc : event.kind = .clear
    · simp [hc, getElem?_erase]
    · simp [hu, hc]

lemma size_accept_answers (h : SessionInvariant sha256 key session events)
    (hr : answerQuotaExceeded session event = false) :
    (session.accept event (eventHash sha256 event)).answers.size ≤ kMaximumStateEntries := by
  have hs := h.answersSize
  simp only [SessionData.accept]
  split_ifs with hu hc
  · rw [ExtTreeMap.size_insert]
    simp only [answerQuotaExceeded, hu, beq_self_eq_true, Bool.true_and, Bool.and_eq_false_iff,
      Bool.not_eq_false', decide_eq_false_iff_not, Nat.not_le, ge_iff_le] at hr
    split_ifs with hm
    · exact hs
    · rcases hr with hr | hr
      · exact absurd hr hm
      · exact hr
  · exact Nat.le_trans ExtTreeMap.size_erase_le hs
  · exact hs

lemma getElem?_accept_eventHashes (h : SessionInvariant sha256 key session events)
    (hfull : session.highestSequence ≠ maxSequence)
    (hsequ : event.sequence = session.highestSequence + 1) (k : UInt64) :
    (session.accept event (eventHash sha256 event)).eventHashes[k]? =
      if k = 0 then none else (events ++ [event])[k.toNat - 1]?.map (eventHash sha256) := by
  have hnext : event.sequence.toNat = events.length + 1 := by
    rw [hsequ, toNat_succ hfull, h.highest]
  have hnew : event.sequence ∉ session.eventHashes := by
    rw [h.mem_eventHashes, le_iff_toNat_le, le_iff_toNat_le, hnext, h.highest]
    omega
  simp only [SessionData.accept, Std.ExtTreeMap.getElem?_insertIfNew, Std.compare_eq_iff_eq]
  by_cases hk : event.sequence = k
  · subst hk
    have hzero : event.sequence ≠ 0 := by
      intro hz
      rw [hz] at hnext
      simp at hnext
    simp [hnew, hzero, hnext]
  · rw [if_neg (fun hand => hk hand.1), h.hashes]
    split_ifs with hzero
    · rfl
    · -- any other index stays on its side of the new event
      have hne : k.toNat - 1 ≠ events.length := by
        intro hlen
        have hpos : k.toNat ≠ 0 := fun hz => hzero (UInt64.toNat_inj.mp hz)
        exact hk (UInt64.toNat_inj.mp (by omega))
      rcases Nat.lt_or_ge (k.toNat - 1) events.length with hlt | hge
      · rw [getElem?_append_left hlt]
      · rw [getElem?_eq_none hge, getElem?_eq_none (by simp; omega)]

lemma accept_finalized (hv : ValidAnswerEvent event) (hf : session.finalized = false) :
    (session.accept event (eventHash sha256 event)).finalized ↔ event.kind = .finalize := by
  have hk := hv.kind
  simp only [validKind, Bool.or_eq_true, beq_iff_eq] at hk
  simp only [SessionData.accept]
  rcases hk with (hk | hk) | hk <;> simp [hk, hf]

/-- **Accepting the next event of the chain.** -/
lemma accept (h : SessionInvariant sha256 key session events) (hkey : sessionKey event = key)
    (hvalid : ValidAnswerEvent event) (hcand : session.candidateId = event.candidateId)
    (hroom : answerQuotaExceeded session event = false) (hfinal : session.finalized = false)
    (hfull : session.highestSequence ≠ maxSequence)
    (hsequ : event.sequence = session.highestSequence + 1)
    (hprev : event.previousEventHash = session.lastHash) :
    SessionInvariant sha256 key (session.accept event (eventHash sha256 event)) (events ++ [event]) := by
  have hnext : event.sequence.toNat = events.length + 1 := by
    rw [hsequ, toNat_succ hfull, h.highest]
  exact
    { context := h.context
      keys := by
        intro e he
        rcases mem_append.mp he with he | he
        · exact h.keys e he
        · rw [mem_singleton.mp he, hkey]
      candidate := by
        intro e he
        have hsame : (session.accept event (eventHash sha256 event)).candidateId =
            session.candidateId := by
          simp [SessionData.accept, hcand]
        rw [hsame]
        rcases mem_append.mp he with he | he
        · exact h.candidate e he
        · rw [mem_singleton.mp he, hcand]
      highest := by
        rw [length_append, length_singleton, ← hnext]
        rfl
      sequences := by
        intro i hi
        rcases Nat.lt_or_ge i events.length with hlt | hge
        · rw [getElem_append_left hlt]
          exact h.sequences i hlt
        · have : i = events.length := by simp at hi; omega
          subst this
          simp [hnext]
      hashes := h.getElem?_accept_eventHashes hfull hsequ
      linked := linked_concat.mpr ⟨h.linked, hprev.trans h.lastHash⟩
      lastHash := by simp [SessionData.accept]
      answers := h.getElem?_accept_answers
      answersSize := h.size_accept_answers hroom
      finalized := by
        rw [getLast?_concat]
        simpa using accept_finalized hvalid hfinal }

/-! ### The invariant, read clause by clause -/

lemma lastHash_of_zero (h : SessionInvariant sha256 key session events)
    (hz : session.highestSequence = 0) : session.lastHash = Block.zero 32 := by
  have hl := h.highest
  rw [hz] at hl
  rw [h.lastHash, eq_nil_of_length_eq_zero hl.symm, endHash_nil]

lemma getElem?_highestSequence (h : SessionInvariant sha256 key session events)
    (hze : session.highestSequence ≠ 0) :
    session.eventHashes[session.highestSequence]? = some session.lastHash := by
  have hp : session.highestSequence.toNat ≠ 0 := fun hz => hze (UInt64.toNat_inj.mp hz)
  rw [h.highest] at hp
  obtain ⟨event, hl⟩ : ∃ event, events.getLast? = some event :=
    ⟨_, getLast?_eq_some_getLast (length_pos_iff.mp (Nat.pos_of_ne_zero hp))⟩
  rw [h.hashes, if_neg hze, h.highest, ← getLast?_eq_getElem?, hl, Option.map_some,
    h.lastHash, endHash_eq_of_getLast? hl]

lemma previous (h : SessionInvariant sha256 key session events) (he : event ∈ events) :
    (event.sequence = 1 → event.previousEventHash = Block.zero 32) ∧ (1 < event.sequence →
        session.eventHashes[event.sequence - 1]? = some event.previousEventHash) := by
  obtain ⟨i, hi, rfl⟩ := getElem_of_mem he
  have hs := h.sequences i hi
  constructor
  · intro ho
    rw [ho, toNat_one] at hs
    obtain rfl : i = 0 := by omega
    exact h.linked.prev_zero hi
  · intro hl
    rw [UInt64.lt_iff_toNat_lt, toNat_one] at hl
    obtain ⟨j, rfl⟩ : ∃ j, i = j + 1 := ⟨i - 1, by omega⟩
    have hp : (events[j + 1].sequence - 1).toNat = j + 1 := by
      rw [UInt64.toNat_sub_of_le _ _ (by rw [le_iff_toNat_le, toNat_one]; omega),
        toNat_one]
      omega
    have hn : events[j + 1].sequence - 1 ≠ 0 := by
      intro hz
      rw [hz] at hp
      simp at hp
    rw [h.hashes, if_neg hn, hp, Nat.add_sub_cancel, getElem?_eq_getElem (by omega),
      Option.map_some, h.linked.prev_eq hi]

lemma identity (h : SessionInvariant sha256 key session events) (he : event ∈ events) :
    event.packageId = session.packageId ∧ event.packageDigest = session.packageDigest ∧
      event.clientId = session.clientId ∧ event.sessionId = session.sessionId ∧
      event.candidateId = session.candidateId := by
  have hk := (h.keys event he).trans h.context.symm
  obtain ⟨hp, hd, hc, hs⟩ := sessionKeyOf_inj.mp hk
  exact ⟨hp, hd, hc, hs, h.candidate event he⟩

lemma finalize_last (h : SessionInvariant sha256 key session events) (hf : session.finalized) :
    ∃ event ∈ events, event.kind = .finalize ∧ event.sequence = session.highestSequence := by
  obtain ⟨event, hl, hk⟩ := h.finalized.mp hf
  obtain ⟨rest, rfl⟩ := getLast?_eq_some_iff.mp hl
  refine ⟨event, by simp, hk, UInt64.toNat_inj.mp ?_⟩
  have hs := h.sequences rest.length (by simp)
  simpa [h.highest] using hs

end SessionInvariant

/-! ## Every session of an accepted log -/

lemma getElem?_indexEvent (sessions : Sessions) (event : AnswerEvent) (key : Bytes) :
    (indexEvent sha256 sessions event)[key]? =
      if sessionKey event = key then
        some ((sessionFor sessions event).accept event (eventHash sha256 event))
      else sessions[key]? := by
  rw [indexEvent, getElem?_insert]

/-- The sessions of a log are those with events, and each satisfies the invariant. -/
structure SessionsOf (sha256 : Bytes → Digest) (sessions : Sessions) (log : List AnswerEvent) :
    Prop where
  present : ∀ key session, sessions[key]? = some session → SessionInvariant sha256 key session (eventsOf key log)
  absent : ∀ key, sessions[key]? = none ↔ eventsOf key log = []

lemma SessionsOf.entry {sessions : Sessions} {log : List AnswerEvent}
    (h : SessionsOf sha256 sessions log) (event : AnswerEvent) :
    SessionInvariant sha256 (sessionKey event) (sessionFor sessions event) (eventsOf (sessionKey event) log) := by
  simp only [sessionFor]
  cases hs : sessions[sessionKey event]? with
  | some session => exact h.present _ _ hs
  | none =>
    rw [(h.absent _).mp hs]
    exact SessionInvariant.fresh event

/-- **The session invariant holds throughout an accepted log.** -/
theorem acceptedLog_sessions {log : List AnswerEvent} (h : AcceptedLog sha256 log) :
    SessionsOf sha256 (replay sha256 log) log := by
  induction h with
  | nil => exact ⟨by simp, by simp [eventsOf]⟩
  | @snoc log event _ he ih =>
    have hn := (ih.entry event).accept rfl he.valid he.candidate he.answerRoom
      he.notFinalized he.notFull he.sequence he.previous
    refine ⟨fun key session hs => ?_, fun key => ?_⟩
    · rw [replay_concat, getElem?_indexEvent] at hs
      rw [eventsOf_concat]
      split_ifs at hs ⊢ with hk
      · cases hs
        exact hk ▸ hn
      · exact ih.present key session hs
    · rw [replay_concat, getElem?_indexEvent, eventsOf_concat]
      split_ifs with hk
      · simp
      · exact ih.absent key

/-! ## Reachable journals -/

/-- The journals that `open` and `append` lead to, each with the events accepted so far: those that
`open` found in the file, and those that `append` reported as accepted. -/
inductive JournalReach (sha256 : Bytes → Digest) : AnswerJournal → List AnswerEvent → Prop where
  | opened {succeeds : OpenStep → Bool} {file : Option Bytes} {journal : AnswerJournal} :
      AnswerJournal.open sha256 succeeds file = .ok journal →
      JournalReach sha256 journal (frames (nextRecord sha256) (file.getD []))
  | appended {journal : AnswerJournal} {log : List AnswerEvent} (calls : AppendCalls)
      (event : AnswerEvent) : JournalReach sha256 journal log →
      JournalReach sha256 (journal.append sha256 calls event).journal
        (logAfter log event (journal.append sha256 calls event).outcome.status)

lemma JournalReach.represents {journal : AnswerJournal} {log : List AnswerEvent}
    (h : JournalReach sha256 journal log) : Represents sha256 journal log := by
  induction h with
  | opened ho => exact (open_represents ho).1
  | appended calls event _ ih => exact append_represents calls event ih

lemma JournalReach.sessionsOf {journal : AnswerJournal} {log : List AnswerEvent}
    (h : JournalReach sha256 journal log) : SessionsOf sha256 journal.sessions log := by
  rw [h.represents.sessions]
  exact acceptedLog_sessions h.represents.acceptedLog

lemma JournalReach.accepted {journal : AnswerJournal} {log : List AnswerEvent}
    {event : AnswerEvent} (h : JournalReach sha256 journal log) (ho : journal.isOpen)
    (ha : Acceptable journal.sessions event) (hf : RecordFits sha256 journal event) :
    JournalReach sha256 (journal.accepted sha256 event) (log ++ [event]) := by
  have hn := (h.sessionsOf.entry event).getElem?_eventHashes_next ha.notFull
  rw [← ha.sequence] at hn
  have hs := h.appended ⟨1, true, none⟩ event
  rw [append_of_acceptable ho ha hn hf rfl rfl] at hs
  exact hs

lemma append_of_finalized {journal : AnswerJournal} {key : Bytes} {session : SessionData}
    (hs : journal.sessions[key]? = some session) (hf : session.finalized)
    (calls : AppendCalls) (event : AnswerEvent) :
    let result := journal.append sha256 calls event
    result.journal.sessions[key]? = some session ∧ (result.outcome.status = .accepted → sessionKey event ≠ key) := by
  have he := append_exit sha256 calls journal event
  generalize journal.append sha256 calls event = result at he
  cases he with
  | notOpen | invalid | sessionQuota | conflict | duplicate | rejected | gap | stopped =>
    exact ⟨hs, by simp⟩
  | accepted ho ha hfi hw =>
    have hn : sessionKey event ≠ key := by
      rintro rfl
      have := ha.notFinalized
      simp [sessionFor, hs, hf] at this
    refine ⟨?_, fun _ => hn⟩
    simp only [AnswerJournal.accepted]
    rw [getElem?_indexEvent, if_neg hn]
    exact hs

lemma acceptedEvents_of_finalized {key : Bytes} {session : SessionData}
    (hf : session.finalized) (run : List (AppendCalls × AnswerEvent)) :
    ∀ {journal : AnswerJournal}, journal.sessions[key]? = some session →
      ∀ event ∈ acceptedEvents sha256 journal run, sessionKey event ≠ key := by
  induction run with
  | nil => simp [acceptedEvents]
  | cons call rest ih =>
    intro journal hs event he
    obtain ⟨calls, first⟩ := call
    obtain ⟨hk, ho⟩ := @append_of_finalized sha256 _ _ _ hs hf calls first
    simp only [acceptedEvents] at he
    split_ifs at he with hst
    · rcases mem_cons.mp he with rfl | he
      · exact ho hst
      · exact ih hk event he
    · exact ih hk event he

/-- **The session invariant.**  In every reachable journal, every session is accounted for by the
events accepted into it. -/
theorem journal_session_invariant {journal : AnswerJournal} {log : List AnswerEvent}
    (hreach : JournalReach sha256 journal log) {key : Bytes} {session : SessionData}
    (hsession : journal.sessions[key]? = some session) :
    let accepted := eventsOf key log
    -- the hashes kept are those of the accepted events 1, …, highest
    (∀ k, k ∈ session.eventHashes ↔ 1 ≤ k ∧ k ≤ session.highestSequence) ∧
    (∀ k hash, session.eventHashes[k]? = some hash ↔
      ∃ event ∈ accepted, event.sequence = k ∧ eventHash sha256 event = hash) ∧
    (session.highestSequence = 0 → session.lastHash = Block.zero 32) ∧
    (session.highestSequence ≠ 0 → session.eventHashes[session.highestSequence]? = some session.lastHash) ∧
    -- the accepted events form one hash chain of one identity
    (∀ event ∈ accepted, (event.sequence = 1 → event.previousEventHash = Block.zero 32) ∧ (1 < event.sequence →
        session.eventHashes[event.sequence - 1]? = some event.previousEventHash)) ∧
    (∀ event ∈ accepted, event.packageId = session.packageId ∧ event.packageDigest = session.packageDigest ∧
      event.clientId = session.clientId ∧ event.sessionId = session.sessionId ∧
      event.candidateId = session.candidateId) ∧
    -- the answers are what the accepted events leave
    (∀ questionId, session.answers[questionId]? = latestAnswer sha256 accepted questionId) ∧
    -- finalization is the last event, for good
    (session.finalized = true →
      (∃ event ∈ accepted, event.kind = .finalize ∧ event.sequence = session.highestSequence) ∧
      ∀ run, ∀ event ∈ acceptedEvents sha256 journal run, sessionKey event ≠ key) := by
  intro accepted
  have h := hreach.sessionsOf.present key session hsession
  exact ⟨fun _ => h.mem_eventHashes, fun _ _ => h.getElem?_eventHashes, h.lastHash_of_zero,
    h.getElem?_highestSequence, fun _ hevent => h.previous hevent,
    fun _ hevent => h.identity hevent, h.answers, fun hfinal => ⟨h.finalize_last hfinal,
      fun run => acceptedEvents_of_finalized hfinal run hsession⟩⟩

lemma validAnswerEvent_firstAnswer : ValidAnswerEvent firstAnswer :=
  validateAnswerEvent_iff.mp (by decide)

lemma recordFits_firstAnswer : RecordFits firstSha256 newJournal firstAnswer := by
  rw [RecordFits, length_journalRecord validAnswerEvent_firstAnswer, length_answerEventWire]
  decide

/-- A journal that holds one answer. -/
theorem journal_session_invariant_firstAnswer : ∃ journal log session, JournalReach firstSha256 journal log ∧
      journal.sessions[sessionKey firstAnswer]? = some session ∧
      ∀ k, k ∈ session.eventHashes ↔ 1 ≤ k ∧ k ≤ session.highestSequence := by
  have hnew : JournalReach firstSha256 newJournal _ :=
    .opened (open_absent fun _ => rfl)
  have hreach := hnew.accepted rfl (acceptable_of_new validAnswerEvent_firstAnswer (by simp [newJournal])
    (by decide) rfl) recordFits_firstAnswer
  exact ⟨_, _, _, hreach, Std.ExtTreeMap.getElem?_insert_self,
    (journal_session_invariant hreach Std.ExtTreeMap.getElem?_insert_self).1⟩

end Nstu
