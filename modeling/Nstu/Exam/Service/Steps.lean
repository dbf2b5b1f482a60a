import Nstu.Exam.Outbox.Reload
import Nstu.Exam.Service.World

/-!
# The steps of the client and of the server

What the operations of `ClientService` do to the outbox, and what the answers of the server promise.
Events from the browser only ever add to the outbox (`Retains`), sending leaves it alone
(`continuePop_spec`), and an acknowledgement acts on it through `acknowledge` with what the
server has promised (`handleAnswerAck_outbox`).  The server keeps every event it has taken, across
failed writes and restarts (`ServerInvariant`), and a durable acknowledgement is only sent for an
event in its log (`append_durable`, `processExamAnswerEvent_spec`).
-/

namespace Nstu

open Wire FramedLog HashChain
open ClientService (releaseExpired handleAnswerAck durableAck)

/-! ## What a client step does to the outbox -/

/-- The events keep their places: nothing leaves. -/
def KeepsPlaces (before after : List AnswerEvent) : Prop :=
  ∀ event ∈ before, ∃ item ∈ after, sessionKey item = sessionKey event ∧ item.sequence = event.sequence

namespace KeepsPlaces

variable {before middle after : List AnswerEvent}

lemma refl (events : List AnswerEvent) : KeepsPlaces events events :=
  fun event he => ⟨event, he, rfl, rfl⟩

lemma leftBehind_eq_nil (h : KeepsPlaces before after) : leftBehind before after = [] := by
  rw [leftBehind, List.filter_eq_nil_iff]
  intro event he
  obtain ⟨item, hi, hk, hs⟩ := h event he
  simp only [Bool.not_eq_true, Bool.not_eq_false', List.any_eq_true, Bool.and_eq_true, beq_iff_eq]
  exact ⟨item, hi, hk, hs⟩

end KeepsPlaces

section Client

variable {sha256 : Bytes → Digest} {secrets : MachineSecrets}

/-- An outbox that keeps the invariant and loses nothing. -/
structure Retains (sha256 : Bytes → Digest) (secrets : MachineSecrets)
    (before after : AnswerOutbox) : Prop where
  invariant : OutboxInvariant sha256 secrets before → OutboxInvariant sha256 secrets after
  places : KeepsPlaces before.events after.events

lemma Retains.refl (outbox : AnswerOutbox) : Retains sha256 secrets outbox outbox :=
  ⟨id, .refl _⟩

lemma enqueue_retains (calls : OutboxCalls) (outbox : AnswerOutbox) (event : AnswerEvent) :
    Retains sha256 secrets outbox (outbox.enqueue sha256 secrets calls event).outbox := by
  have he : EnqueueExit sha256 secrets outbox event _ := enqueue_exit calls event
  refine ⟨he.invariant, ?_⟩
  obtain ⟨kept, added, hev, -, hk⟩ := he.events
  intro old ho
  obtain ⟨i, hi, rfl⟩ := List.getElem_of_mem ho
  have hi' : i < kept.length := hk.length_eq ▸ hi
  have hr := (List.forall₂_iff_get.mp hk).2 i hi hi'
  refine ⟨kept[i], ?_, hr.sessionKey_eq, hr.sequence_eq⟩
  rw [hev]
  exact List.mem_append_left _ (List.getElem_mem hi')

variable (service : ClientService)

lemma enqueueIf_retains (ready : Bool) (calls : OutboxCalls) (event : AnswerEvent) :
    Retains sha256 secrets service.outbox (service.enqueueIf sha256 secrets ready calls event).outbox := by
  unfold ClientService.enqueueIf
  split
  · exact enqueue_retains calls service.outbox event
  · exact .refl _

lemma queueExamEventPayload_retains (calls : OutboxCalls) (payload : Bytes) : Retains sha256 secrets service.outbox
      (service.queueExamEventPayload sha256 secrets calls payload).1.outbox := by
  unfold ClientService.queueExamEventPayload
  split
  · exact .refl _
  split
  · exact .refl _
  dsimp only
  split
  · exact enqueueIf_retains service _ calls _
  · exact enqueueIf_retains service _ calls _

lemma beginDrain_outbox : service.beginDrain.1.outbox = service.outbox := by
  unfold ClientService.beginDrain
  split
  · rfl
  · split
    · rfl
    · rfl

lemma foldl_pushIngress_outbox (retry : List AnswerEvent) :
    (retry.foldl ClientService.pushIngress service).outbox = service.outbox := by
  induction retry generalizing service with
  | nil => rfl
  | cons event rest ih => exact ih (service.pushIngress event)

lemma continueDrain_retains (calls : OutboxCalls) (call : DrainCall) : Retains sha256 secrets service.outbox
      (service.continueDrain sha256 secrets calls call).1.outbox := by
  unfold ClientService.continueDrain
  split
  · rw [foldl_pushIngress_outbox]
    exact .refl _
  split
  · exact .refl _
  · exact enqueueIf_retains service _ calls _

lemma configureClientId_outbox (clientId : Option ClientId) :
    (service.configureClientId clientId).outbox = service.outbox := by
  unfold ClientService.configureClientId
  split <;> rfl

/-! ## What the client sends -/

lemma releaseExpired_outbox (now : ℕ) (contextKey : Bytes) (entries : List (Bytes × Bytes)) :
    (releaseExpired now contextKey service entries).1.outbox = service.outbox := by
  induction entries generalizing service with
  | nil => rfl
  | cons entry rest ih =>
    obtain ⟨key, context⟩ := entry
    rw [releaseExpired]
    split
    · exact ih service
    split
    · exact ih _
    · rfl

/-- Sending keeps the outbox and sends that event only. -/
lemma sendEvent_spec (now : ℕ) (event : AnswerEvent) : (service.sendEvent sha256 now event).1.outbox = service.outbox ∧
      ∀ payload ∈ (service.sendEvent sha256 now event).2, payload = encodeAnswerEvent event := by
  unfold ClientService.sendEvent
  dsimp only
  split
  · exact ⟨rfl, by simp⟩
  split
  · exact ⟨rfl, by simp⟩
  · refine ⟨rfl, fun payload hm => ?_⟩
    cases hm
    rfl

lemma offerEvent_spec (now : ℕ) (event : AnswerEvent) :
    (service.offerEvent sha256 now event).1.outbox = service.outbox ∧
      ∀ payload ∈ (service.offerEvent sha256 now event).2, payload = encodeAnswerEvent event := by
  have hr := releaseExpired_outbox service now (examContextKey event) service.inflight.toList
  unfold ClientService.offerEvent
  dsimp only
  split
  · exact ⟨hr, by simp⟩
  split
  · have hs := @sendEvent_spec sha256 (releaseExpired now (examContextKey event)
      service service.inflight.toList).1 now event
    exact ⟨hs.1.trans hr, hs.2⟩
  split
  · exact ⟨hr, by simp⟩
  · rename_i retryAt _ _
    have hs := fun erased => @sendEvent_spec sha256 { (releaseExpired now
      (examContextKey event) service service.inflight.toList).1 with retryAfter := erased } now event
    exact ⟨(hs _).1.trans hr, (hs _).2⟩

lemma beginPop_pending {now : ℕ} {call : PopCall} (h : service.beginPop now = some call) :
    ∀ event ∈ call.pending, event ∈ service.outbox.events := by
  unfold ClientService.beginPop at h
  split at h
  · cases h
  split at h
  · cases h
  cases h
  intro event he
  dsimp only at he
  unfold AnswerOutbox.pendingForClient at he
  split at he
  · cases he
  · exact (List.mem_filter.mp (List.mem_mergeSort.mp (List.mem_of_mem_take he))).1

/-- **What is sent is an event of the copy**, and sending leaves the outbox alone. -/
lemma continuePop_spec (call : PopCall) : (service.continuePop sha256 call).1.outbox = service.outbox ∧
      (∀ next ∈ (service.continuePop sha256 call).2.1, ∀ event ∈ next.pending, event ∈ call.pending) ∧
      ∀ payload ∈ (service.continuePop sha256 call).2.2, ∃ event ∈ call.pending, payload = encodeAnswerEvent event := by
  unfold ClientService.continuePop
  split
  · exact ⟨rfl, by simp, by simp⟩
  rename_i event pending hp
  have hs := @offerEvent_spec sha256 service call.now event
  rw [hp]
  dsimp only
  split
  · rename_i payload ho
    refine ⟨hs.1, by simp, fun sent hse => ⟨event, by simp, ?_⟩⟩
    cases hse
    exact hs.2 payload ho
  · refine ⟨hs.1, fun next hn item hi => ?_, by simp⟩
    cases hn
    exact List.mem_cons_of_mem event hi

/-! ## What an acknowledgement does -/

lemma settleInflight_outbox (now : ℕ) (ack : AnswerAck) (acknowledged : Bool) :
    (service.settleInflight now ack acknowledged).outbox = service.outbox := by
  unfold ClientService.settleInflight
  dsimp only
  split
  · split
    · rfl
    · rfl
  · rfl

lemma handleAnswerAck_of_decoded (calls : OutboxCalls) (now : ℕ) {payload : Bytes} {ack : AnswerAck}
    (ha : decodeAnswerAck payload = some ack) : (service.handleAnswerAck sha256 secrets calls now payload).1.outbox =
      (service.acknowledgeReady sha256 secrets calls ack).outbox := by
  simp only [handleAnswerAck]
  rw [ha]
  dsimp only
  split
  · exact settleInflight_outbox _ now ack _
  · exact settleInflight_outbox _ now ack _

/-- **Only a durable acknowledgement reaches the outbox**, and it does so through `acknowledge`. -/
lemma handleAnswerAck_outbox (calls : OutboxCalls) (now : ℕ) (payload : Bytes) :
    (service.handleAnswerAck sha256 secrets calls now payload).1.outbox = service.outbox ∨
      ∃ ack, decodeAnswerAck payload = some ack ∧ durableAck ack ∧
        (service.handleAnswerAck sha256 secrets calls now payload).1.outbox =
          (service.outbox.acknowledge sha256 secrets calls ack.sessionId ack.sequence ack.eventHash.toList).outbox := by
  cases ha : decodeAnswerAck payload with
  | none =>
    simp only [handleAnswerAck]
    rw [ha]
    exact .inl rfl
  | some ack =>
    rw [handleAnswerAck_of_decoded service calls now ha]
    simp only [ClientService.acknowledgeReady]
    split
    · rename_i hr
      rw [Bool.and_eq_true] at hr
      exact .inr ⟨ack, rfl, hr.1, rfl⟩
    · exact .inl rfl

end Client

/-! ## What the server answers -/

section Server

variable {sha256 : Bytes → Digest} {journal : AnswerJournal} {log known : List AnswerEvent}

/-- The journal holds `log`, and every event that it or its file knows about is known. -/
structure ServerInvariant (sha256 : Bytes → Digest) (journal : AnswerJournal)
    (log known : List AnswerEvent) : Prop where
  represents : Represents sha256 journal log
  logged : ∀ event ∈ log, event ∈ known
  file : ∃ left, journal.file = logBytes (journalRecord sha256) log ++ left ∧
    (left = [] ∨ ∃ event ∈ known, ValidAnswerEvent event ∧ left <+: journalRecord sha256 event)

lemma ServerInvariant.mono {more : List AnswerEvent} (h : ServerInvariant sha256 journal log known)
    (hm : ∀ event ∈ known, event ∈ more) : ServerInvariant sha256 journal log more := by
  refine ⟨h.represents, fun event he => hm event (h.logged event he), ?_⟩
  obtain ⟨left, hf, hl⟩ := h.file
  refine ⟨left, hf, hl.imp_right ?_⟩
  rintro ⟨event, he, hr⟩
  exact ⟨event, hm event he, hr⟩

variable {event found : AnswerEvent} {status : AppendStatus}

lemma mem_logAfter (h : found ∈ logAfter log event status) : found ∈ log ∨ found = event := by
  simp only [logAfter] at h
  split at h
  · simpa using h
  · exact .inl h

lemma subset_logAfter (h : found ∈ log) : found ∈ logAfter log event status := by
  simp only [logAfter]
  split
  · simp [h]
  · exact h

/-- **`append` keeps the invariant** for a known event. -/
lemma ServerInvariant.append (h : ServerInvariant sha256 journal log known) (calls : AppendCalls)
    (he : event ∈ known) : ServerInvariant sha256 (journal.append sha256 calls event).journal
      (logAfter log event (journal.append sha256 calls event).outcome.status) known := by
  refine ⟨append_represents calls event h.represents, fun found hf => ?_, ?_⟩
  · rcases mem_logAfter hf with hf | rfl
    · exact h.logged found hf
    · exact he
  have hexi := append_exit sha256 calls journal event
  generalize journal.append sha256 calls event = result at hexi
  cases hexi with
  | notOpen | invalid | sessionQuota | conflict | duplicate | rejected | gap => exact h.file
  | stopped left error ho ha hl =>
    refine ⟨(journalRecord sha256 event).take left, ?_, .inr ⟨event, he,
      ha.valid, List.take_prefix _ _⟩⟩
    simp only [h.represents.file_of_isOpen ho, logAfter, reduceCtorEq, if_false]
  | accepted ho ha hfi hw =>
    refine ⟨[], ?_, .inl rfl⟩
    simp [AnswerJournal.accepted, h.represents.file_of_isOpen ho, logAfter]

/-- **Reopening keeps every event.**  A record that a failed write left whole joins the log. -/
lemma ServerInvariant.reopen (h : ServerInvariant sha256 journal log known)
    {succeeds : OpenStep → Bool} {reopened : AnswerJournal}
    (hopen : AnswerJournal.open sha256 succeeds (some journal.file) = .ok reopened) :
    ∃ more, (∀ event ∈ log, event ∈ more) ∧ ServerInvariant sha256 reopened more known := by
  obtain ⟨hrepr, hisOp⟩ := open_represents hopen
  rw [Option.getD_some] at hrepr
  obtain ⟨left, hfile, hleft⟩ := h.file
  have hfram : frames (nextRecord sha256) journal.file = log ++ frames (nextRecord sha256) left := by
    rw [hfile]
    exact frames_logBytes_append fun event hevent =>
      nextRecord_framed (h.represents.acceptedLog.valid event hevent)
  rw [hfram] at hrepr
  refine ⟨_, fun event hevent => List.mem_append_left _ hevent, hrepr, ?_,
    [], by simpa using hrepr.file_of_isOpen hisOp, .inl rfl⟩
  have hnil : frames (nextRecord sha256) [] = [] := by
    rw [frames]
    simp [nextRecord_nil]
  intro event hevent
  rcases List.mem_append.mp hevent with hevent | hevent
  · exact h.logged event hevent
  rcases hleft with rfl | ⟨found, hfound, hvalid, hcut⟩
  · rw [hnil] at hevent
    cases hevent
  · rcases frames_cut nextRecord_nil (nextRecord_framed hvalid) hcut with hframe | hframe
    · rw [hframe] at hevent
      cases hevent
    · rw [hframe, List.mem_singleton] at hevent
      exact hevent ▸ hfound

/-- The log has an event with this sequence and hash. -/
def LoggedHash (sha256 : Bytes → Digest) (log : List AnswerEvent) (sequence : UInt64) (hash : Digest) : Prop :=
  ∃ event ∈ log, event.sequence = sequence ∧ eventHash sha256 event = hash

/-- **A durable answer is about an event in the log.** -/
lemma append_durable (h : Represents sha256 journal log) (calls : AppendCalls) (event : AnswerEvent)
    (hdura : durableAck (journal.append sha256 calls event).outcome.ack) :
    LoggedHash sha256 (logAfter log event (journal.append sha256 calls event).outcome.status)
      (journal.append sha256 calls event).outcome.ack.sequence
      (journal.append sha256 calls event).outcome.ack.eventHash := by
  have hexit := append_exit sha256 calls journal event
  generalize journal.append sha256 calls event = result at hexit hdura
  cases hexit with
  | notOpen | invalid | sessionQuota | conflict | rejected | gap | stopped => cases hdura
  | duplicate hcons hexis =>
    rw [h.sessions] at hexis
    have hentry := (acceptedLog_sessions h.acceptedLog).entry event
    obtain ⟨found, hfound, hsequ, hhash⟩ := hentry.getElem?_eventHashes.mp hexis
    exact ⟨found, subset_logAfter (List.mem_filter.mp hfound).1, hsequ, hhash⟩
  | accepted hopen hacce hfits hwrite =>
    exact ⟨event, by simp [logAfter], rfl, rfl⟩

/-- What an acknowledgement in the channel promises. -/
def AckLogged (sha256 : Bytes → Digest) (log : List AnswerEvent) (payload : Bytes) : Prop :=
  ∀ ack, decodeAnswerAck payload = some ack → ClientService.durableAck ack = true →
    LoggedHash sha256 log ack.sequence ack.eventHash

lemma AckLogged.mono {more : List AnswerEvent} {payload : Bytes} (h : AckLogged sha256 log payload)
    (hm : ∀ event ∈ log, event ∈ more) : AckLogged sha256 more payload := by
  intro ack ha hd
  obtain ⟨event, he, hma⟩ := h ack ha hd
  exact ⟨event, hm event he, hma⟩

/-- The server's journal only grows by known events. -/
lemma appendOrUnavailable_spec (h : ServerInvariant sha256 journal log known) (sawOpen : Bool)
    (calls : AppendCalls) (he : event ∈ known) : ∃ more, (∀ event ∈ log, event ∈ more) ∧
      ServerInvariant sha256 (appendOrUnavailable sha256 sawOpen calls journal event).1 more known ∧
      (durableAck (appendOrUnavailable sha256 sawOpen calls journal event).2 →
        LoggedHash sha256 more (appendOrUnavailable sha256 sawOpen calls journal event).2.sequence
          (appendOrUnavailable sha256 sawOpen calls journal event).2.eventHash) := by
  simp only [appendOrUnavailable]
  split
  · exact ⟨_, fun found hf => subset_logAfter hf, h.append calls he,
      append_durable h.represents calls event⟩
  · exact ⟨log, fun found hf => hf, h, fun hd => by cases hd⟩

/-- **The server only promises what it has.** -/
lemma processExamAnswerEvent_spec (h : ServerInvariant sha256 journal log known)
    (sawOpen : Bool) (calls : AppendCalls) (connection : ExamConnection)
    (hvalid : ValidAnswerEvent event) (hevent : event ∈ known) : ∃ more, (∀ event ∈ log, event ∈ more) ∧
      ServerInvariant sha256
        (processExamAnswerEvent sha256 sawOpen calls connection journal (answerEventWire event)).1 more known ∧
      ∀ payload ∈ (processExamAnswerEvent sha256 sawOpen calls connection journal
        (answerEventWire event)).2, AckLogged sha256 more payload := by
  have hunch : ∃ more, (∀ event ∈ log, event ∈ more) ∧ ServerInvariant sha256 journal more known ∧
      ∀ payload ∈ (none : Option Bytes), AckLogged sha256 more payload :=
    ⟨log, fun found hfound => hfound, h, by simp⟩
  unfold processExamAnswerEvent
  rw [decodeAnswerEvent_eq_ok_iff.mpr ⟨hvalid, rfl⟩]
  split
  · rename_i decoded context hdeco hcont
    cases hdeco
    split
    · exact hunch
    obtain ⟨more, hmore, hserv, hdura⟩ := appendOrUnavailable_spec h sawOpen calls hevent
    dsimp only
    split
    · exact ⟨more, hmore, hserv, by simp⟩
    · rename_i hack
      refine ⟨more, hmore, hserv, ?_⟩
      rintro payload hpayl ack hdecod hdurab
      cases hpayl
      rw [decodeAnswerAck_encodeAnswerAck (by simpa using hack)] at hdecod
      cases hdecod
      exact hdura hdurab
  · exact hunch

end Server

end Nstu
