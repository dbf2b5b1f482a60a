import Nstu.Exam.Service.Steps

/-!
# No answer leaves the client before the server has it

`answers_reach_server`: in every world that the steps of `WorldStep` lead to, an event that has left
the client's outbox is in the server's journal.

The server only sends a durable acknowledgement for an event that is in its log.  The client retires
a whole run of pending events with it; because both the pending events and the server's session are
hash chains, agreement on the last hash is agreement on every event before it
(`mem_log_of_covered`).  Rebases do not disturb this: they change hashes, and an acknowledgement of
an older version no longer matches.

Collisions are excluded among the encodings of events that have been in the outbox, in all their
versions.  Nothing is assumed about other inputs of the digest.
-/

namespace Nstu

open Wire FramedLog HashChain

/-- SHA-256 has no collision among the encodings of these events. -/
def NoCollision (sha256 : Bytes → Digest) (events : List AnswerEvent) : Prop :=
  Set.InjOn sha256 {wire | ∃ event ∈ events, wire = encodeAnswerEvent event}

section Chains

variable {sha256 : Bytes → Digest} {events log : List AnswerEvent} {watermarks : Watermarks}

lemma NoCollision.mono {more : List AnswerEvent} (h : NoCollision sha256 more)
    (hm : ∀ event ∈ events, event ∈ more) : NoCollision sha256 events := by
  apply Set.InjOn.mono _ h
  rintro wire ⟨event, he, hw⟩
  exact ⟨event, hm event he, hw⟩

lemma NoCollision.injOn_eventHash (h : NoCollision sha256 events) :
    Set.InjOn (eventHash sha256) {event | event ∈ events ∧ ValidAnswerEvent event} := by
  rintro left ⟨hl, hv⟩ right ⟨hr, hv'⟩ hh
  apply answerEventWire_injective hv hv'
  exact h ⟨left, hl, (encodeAnswerEvent_of_valid hv).symm⟩
    ⟨right, hr, (encodeAnswerEvent_of_valid hv').symm⟩ hh

/-- **The log has everything an acknowledgement covers.**  A pending event that is in the log has
its session before it in the log too. -/
lemma mem_log_of_covered {known : List AnswerEvent} {target event : AnswerEvent}
    (hcoll : NoCollision sha256 known) (h : Consistent sha256 events watermarks)
    (hlog : AcceptedLog sha256 log) (hpend : ∀ event ∈ events, event ∈ known)
    (hlogg : ∀ event ∈ log, event ∈ known) (htarg : target ∈ events) (hserv : target ∈ log)
    (hevent : event ∈ events) (hkey : sessionKey event = sessionKey target)
    (hsequ : event.sequence ≤ target.sequence) : event ∈ log := by
  obtain ⟨i, hi⟩ := Consistent.getElem?_eventsOf htarg
  obtain ⟨j, hj⟩ := Consistent.getElem?_eventsOf hserv
  obtain ⟨k, hk⟩ := Consistent.getElem?_eventsOf hevent
  rw [hkey] at hk
  have hsess := (acceptedLog_sessions hlog).entry target
  have hjseq : target.sequence.toNat = j + 1 := by
    obtain ⟨hlt, hget⟩ := List.getElem?_eq_some_iff.mp hj
    rw [← hget]
    exact hsess.sequences j hlt
  cases hsaved : watermarks[sessionKey target]? with
  | none =>
    rw [h.absent _ hsaved] at hi
    cases hi
  | some watermark =>
    have hmark := h.present _ _ hsaved
    have hiseq := hmark.sequence_of_getElem? hi
    have hkseq := hmark.sequence_of_getElem? hk
    rw [UInt64.le_iff_toNat_le] at hsequ
    -- The client's chain starts at what was acknowledged before, the server's at the beginning.
    have hmem := hmark.linked.mem_of_mem_take hcoll.injOn_eventHash hsess.linked
      (fun item hitem => ⟨hpend item (List.mem_filter.mp hitem).1,
        h.valid item (List.mem_filter.mp hitem).1⟩)
      (fun item hitem => ⟨hlogg item (List.mem_filter.mp hitem).1,
        hlog.valid item (List.mem_filter.mp hitem).1⟩) hi hj (by omega) event
      (List.mem_of_getElem? ((List.getElem?_take_of_lt (by omega)).trans hk))
    exact (List.mem_filter.mp hmem).1

end Chains

/-! ## The invariant of the world -/

/-- What holds of a world whose server has the events of `log`. -/
structure WorldInvariant (sha256 : Bytes → Digest) (secrets : MachineSecrets) (world : World)
    (log : List AnswerEvent) : Prop where
  outbox : OutboxInvariant sha256 secrets world.service.outbox
  pending : ∀ event ∈ world.service.outbox.events, event ∈ world.offered
  server : ServerInvariant sha256 world.journal log world.offered
  events : ∀ payload ∈ world.sentEvents,
    ∃ event ∈ world.offered, ValidAnswerEvent event ∧ payload = answerEventWire event
  popping : ∀ call ∈ world.popping, ∀ event ∈ call.pending, event ∈ world.offered ∧ ValidAnswerEvent event
  acks : ∀ payload ∈ world.sentAcks, AckLogged sha256 log payload
  departed : ∀ event ∈ world.departed, event ∈ log

section Steps

variable {sha256 : Bytes → Digest} {secrets : MachineSecrets} {world next : World}
  {log : List AnswerEvent}

variable {service : ClientService}

lemma WorldInvariant.withService (h : WorldInvariant sha256 secrets world log)
    (ho : OutboxInvariant sha256 secrets service.outbox)
    (hl : ∀ event ∈ leftBehind world.service.outbox.events service.outbox.events,
      event ∈ log) : WorldInvariant sha256 secrets (world.withService service) log where
  outbox := ho
  pending event he := List.mem_append_right _ he
  server := h.server.mono fun event he => List.mem_append_left _ he
  events payload hp := by
    obtain ⟨event, he, hw⟩ := h.events payload hp
    exact ⟨event, List.mem_append_left _ he, hw⟩
  popping call hc event he := by
    obtain ⟨hof, hv⟩ := h.popping call hc event he
    exact ⟨List.mem_append_left _ hof, hv⟩
  acks := h.acks
  departed event he := by
    rcases List.mem_append.mp he with he | he
    · exact h.departed event he
    · exact hl event he

lemma WorldInvariant.retains (h : WorldInvariant sha256 secrets world log)
    (hr : Retains sha256 secrets world.service.outbox service.outbox) :
    WorldInvariant sha256 secrets (world.withService service) log := by
  apply h.withService (hr.invariant h.outbox)
  rw [hr.places.leftBehind_eq_nil]
  simp

lemma WorldInvariant.sameOutbox (h : WorldInvariant sha256 secrets world log)
    (hs : service.outbox = world.service.outbox) : WorldInvariant sha256 secrets (world.withService service) log :=
  h.retains (hs ▸ Retains.refl _)

lemma mem_of_mem_leftBehind {before after : List AnswerEvent} {event : AnswerEvent}
    (h : event ∈ leftBehind before after) : event ∈ before ∧ event ∉ after := by
  obtain ⟨he, hg⟩ := List.mem_filter.mp h
  refine ⟨he, fun ha => ?_⟩
  simp only [Bool.not_eq_true', List.any_eq_false, Bool.and_eq_true, beq_iff_eq] at hg
  exact hg event ha ⟨rfl, rfl⟩

/-- **What an acknowledgement retires is in the log.** -/
lemma WorldInvariant.acknowledged (h : WorldInvariant sha256 secrets world log)
    (hcoll : NoCollision sha256 world.offered) (calls : OutboxCalls) (sessionId : SessionId)
    {sequence : UInt64} {hash : Digest} (hlogg : LoggedHash sha256 log sequence hash) :
    ∀ event ∈ world.service.outbox.events,
      event ∉ (world.service.outbox.acknowledge sha256 secrets calls sessionId sequence
        hash.toList).outbox.events → event ∈ log := by
  intro event hevent hgone
  rcases (@acknowledge_exit sha256 secrets world.service.outbox calls sessionId sequence
    hash.toList).events with hsame | ⟨target, htarg, -, -, rfl, hvalid, hhash, hleft⟩
  · exact absurd (hsame ▸ hevent) hgone
  rw [hleft, List.mem_filter, not_and] at hgone
  have hcove := hgone hevent
  simp only [Bool.not_eq_true, Bool.not_eq_false', Bool.and_eq_true, beq_iff_eq,
    decide_eq_true_eq] at hcove
  obtain ⟨found, hfound, -, hfoun⟩ := hlogg
  have hsame : found = target := hcoll.injOn_eventHash
    ⟨h.server.logged found hfound, h.server.represents.acceptedLog.valid found hfound⟩
    ⟨h.pending target htarg, hvalid⟩ (hfoun.trans (Block.toList_injective hhash).symm)
  exact mem_log_of_covered hcoll h.outbox.consistent h.server.represents.acceptedLog h.pending
    h.server.logged htarg (hsame ▸ hfound) hevent hcove.1 hcove.2

/-- What was offered once stays offered. -/
lemma WorldStep.offered (hs : WorldStep sha256 secrets world next) :
    ∀ event ∈ world.offered, event ∈ next.offered := by
  intro event he
  cases hs with
  | received | serverRestarted | popBegun => exact he
  | _ => exact List.mem_append_left _ he

/-- **Every step keeps the invariant**, for a log that may have grown. -/
theorem WorldStep.invariant (hsecr : secrets.Sound) (hstep : WorldStep sha256 secrets world next)
    (hcoll : NoCollision sha256 world.offered) (h : WorldInvariant sha256 secrets world log) :
    ∃ more, WorldInvariant sha256 secrets next more := by
  cases hstep with
  | browser calls payload =>
    exact ⟨log, h.retains (queueExamEventPayload_retains world.service calls payload)⟩
  | drainBegun hidle => exact ⟨log, { h.sameOutbox (beginDrain_outbox world.service) with }⟩
  | @drainContinued calls call hcall =>
    exact ⟨log, { h.retains (continueDrain_retains world.service calls call) with }⟩
  | configured clientId hidle =>
    exact ⟨log, h.sameOutbox (configureClientId_outbox world.service clientId)⟩
  | disconnected hidle => exact ⟨log, h.sameOutbox rfl⟩
  | clientRestarted succeeds calls hopen =>
    exact ⟨log, { h.sameOutbox (h.outbox.eq_of_open hsecr hopen) with popping := by simp }⟩
  | popBegun now hidle =>
    refine ⟨log, { h with popping := fun call hcall event hevent => ?_ }⟩
    have hpend := beginPop_pending world.service hcall event hevent
    exact ⟨h.pending event hpend, h.outbox.consistent.valid event hpend⟩
  | @popContinued call hcall =>
    obtain ⟨houtb, hrest, hsent⟩ := @continuePop_spec sha256 world.service call
    have hkept := h.sameOutbox houtb
    refine ⟨log, { hkept with events := fun payload hpayl => ?_, popping := ?_ }⟩
    · rcases List.mem_append.mp hpayl with hpayl | hpayl
      · exact hkept.events payload hpayl
      · obtain ⟨event, hevent, hwire⟩ := hsent payload (Option.mem_toList.mp hpayl)
        obtain ⟨hoffe, hvalid⟩ := hkept.popping call hcall event hevent
        exact ⟨event, hoffe, hvalid, hwire.trans (encodeAnswerEvent_of_valid hvalid)⟩
    · intro next hnext event hevent
      exact hkept.popping call hcall event (hrest next hnext event hevent)
  | received sawOpen calls connection hpayl =>
    obtain ⟨event, hevent, hvalid, rfl⟩ := h.events _ hpayl
    obtain ⟨more, hmore, hserv, hack⟩ :=
      processExamAnswerEvent_spec h.server sawOpen calls connection hvalid hevent
    refine ⟨more, h.outbox, h.pending, hserv, h.events, h.popping, ?_,
      fun event hevent => hmore event (h.departed event hevent)⟩
    intro payload hpayl
    rcases List.mem_append.mp hpayl with hpayl | hpayl
    · exact (h.acks payload hpayl).mono hmore
    · exact hack payload (Option.mem_toList.mp hpayl)
  | answered calls now hidle hpayl =>
    rcases @handleAnswerAck_outbox sha256 secrets world.service calls now _ with
      hsame | ⟨ack, hack, hdura, houtb⟩
    · exact ⟨log, h.sameOutbox hsame⟩
    · refine ⟨log, h.withService ?_ fun event hevent => ?_⟩
      · rw [houtb]
        exact (acknowledge_exit calls ack.sessionId ack.sequence _).invariant h.outbox
      · rw [houtb] at hevent
        obtain ⟨hbefo, hgone⟩ := mem_of_mem_leftBehind hevent
        exact h.acknowledged hcoll calls ack.sessionId (h.acks _ hpayl ack hack hdura)
          event hbefo hgone
  | serverRestarted succeeds hopen =>
    obtain ⟨more, hmore, hserv⟩ := h.server.reopen hopen
    exact ⟨more, h.outbox, h.pending, hserv, h.events, h.popping,
      fun payload hpayl => (h.acks payload hpayl).mono hmore,
      fun event hevent => hmore event (h.departed event hevent)⟩

/-- **The invariant holds in every world that is reached.** -/
theorem WorldReach.invariant (hs : secrets.Sound) (hr : WorldReach sha256 secrets world)
    (hc : NoCollision sha256 world.offered) : ∃ log, WorldInvariant sha256 secrets world log := by
  induction hr with
  | start hcl hse =>
    obtain rfl := eq_newJournal hse
    exact ⟨[], open_absent_invariant hs hcl, fun event he => he,
      ⟨newJournal_represents, by simp, [], rfl, .inl rfl⟩, by simp, by simp, by simp,
      by simp⟩
  | step _ hst ih =>
    have hb := hc.mono hst.offered
    obtain ⟨log, h⟩ := ih hb
    exact hst.invariant hs hb h

end Steps

/-! ## The result -/

/-- The server has an event: its record is in the file, and the session of its context has its hash
at its sequence. -/
structure Delivered (sha256 : Bytes → Digest) (journal : AnswerJournal) (event : AnswerEvent) :
    Prop where
  recorded : event ∈ frames (nextRecord sha256) journal.file
  indexed : ∃ session hash, journal.sessions[sessionKey event]? = some session ∧
    session.packageId = event.packageId ∧ session.packageDigest = event.packageDigest ∧
    session.clientId = event.clientId ∧ session.sessionId = event.sessionId ∧
    hashAnswerEvent sha256 event = some hash ∧ session.eventHashes[event.sequence]? = some hash

section Result

variable {sha256 : Bytes → Digest} {secrets : MachineSecrets}

lemma ServerInvariant.of_delivery {journal : AnswerJournal} {log known : List AnswerEvent}
    {event : AnswerEvent} (h : ServerInvariant sha256 journal log known) (hevent : event ∈ log) :
    Delivered sha256 journal event := by
  have hsess := acceptedLog_sessions h.represents.acceptedLog
  rw [← h.represents.sessions] at hsess
  have hmem : event ∈ eventsOf (sessionKey event) log := by simp [eventsOf, hevent]
  constructor
  · obtain ⟨left, hfile, -⟩ := h.file
    rw [hfile, frames_logBytes_append fun found hfound =>
      nextRecord_framed (h.represents.acceptedLog.valid found hfound)]
    exact List.mem_append_left _ hevent
  · cases hsessi : journal.sessions[sessionKey event]? with
    | none =>
      rw [(hsess.absent _).mp hsessi] at hmem
      cases hmem
    | some session =>
      have hinva := hsess.present _ _ hsessi
      obtain ⟨hpack, hdige, hclie, hid, -⟩ := hinva.identity hmem
      exact ⟨session, eventHash sha256 event, rfl, hpack.symm, hdige.symm, hclie.symm,
        hid.symm, hashAnswerEvent_eq_some_iff.mpr ⟨h.represents.acceptedLog.valid event hevent, rfl⟩,
        hinva.getElem?_eventHashes.mpr ⟨event, hmem, rfl, rfl⟩⟩

/-- **No answer is lost between client and server.**  Let the browser, the client, the server and
the channel take any steps in any order: enqueues and rebases, sends and retries, appends with any
outcome of the writes, acknowledgements that are lost, repeated, late or out of order, and restarts
of either side.  Every event that has left the outbox is in the server's journal, in the session of
its context, at its sequence and with its hash. -/
theorem answers_reach_server (hsecrets : secrets.Sound) {world : World}
    (hreach : WorldReach sha256 secrets world) (hcollision : NoCollision sha256 world.offered) :
    ∀ event ∈ world.departed, Delivered sha256 world.journal event := by
  intro event hevent
  obtain ⟨log, h⟩ := hreach.invariant hsecrets hcollision
  exact h.server.of_delivery (h.departed event hevent)

end Result

/-- The exam that `firstAnswer` belongs to, on the connection of its client. -/
def firstConnection : ExamConnection :=
  ⟨firstAnswer.clientId, some ⟨firstAnswer.clientId, firstAnswer.packageId,
    firstAnswer.packageDigest, firstAnswer.sessionId, firstAnswer.candidateId⟩⟩

/-- `firstAnswer` has been enqueued. -/
def firstQueued : World :=
  let started : World := ⟨.started newOutbox, none, none, newJournal, [], [], newOutbox.events, []⟩
  let configured := started.withService
    (started.service.configureClientId (some firstAnswer.clientId))
  configured.withService (configured.service.queueExamEventPayload firstSha256 saltedSecrets
    ⟨8, true, true⟩ (encodeAnswerEvent firstAnswer)).1

/-- It has been found by `pop_outbound_message`. -/
def firstPopped : World := { firstQueued with popping := firstQueued.service.beginPop 0 }

/-- It has been sent. -/
def firstSent : World :=
  let popped := firstPopped.service.continuePop firstSha256 ⟨0, [firstAnswer]⟩
  { firstPopped.withService popped.1 with
    popping := popped.2.1
    sentEvents := firstPopped.sentEvents ++ popped.2.2.toList }

/-- The server has stored it. -/
def firstStored : World :=
  let answer := processExamAnswerEvent firstSha256 true ⟨1, true, none⟩ firstConnection
    firstSent.journal (encodeAnswerEvent firstAnswer)
  { firstSent with journal := answer.1, sentAcks := firstSent.sentAcks ++ answer.2.toList }

/-- The acknowledgement has retired it. -/
def firstRetired : World :=
  firstStored.withService (firstStored.service.handleAnswerAck firstSha256 saltedSecrets
    ⟨9, true, true⟩ 1 (firstStored.sentAcks.headD [])).1

/-- One answer on its way from the browser to the journal, and out of the outbox. -/
theorem answers_reach_server_firstAnswer :
    WorldReach firstSha256 saltedSecrets firstRetired ∧ firstRetired.departed = [firstAnswer] ∧
      Delivered firstSha256 firstRetired.journal firstAnswer := by
  have hopen : AnswerOutbox.open firstSha256 saltedSecrets (fun _ => true) ⟨7, true, true⟩ none =
      .ok newOutbox := rfl
  have hqueued : WorldReach firstSha256 saltedSecrets firstQueued :=
    .step (.step (.start hopen (open_absent fun _ => rfl)) (.configured _ ⟨rfl, rfl⟩))
      (.browser _ _)
  have hpopped : WorldReach firstSha256 saltedSecrets firstPopped :=
    .step hqueued (.popBegun 0 ⟨rfl, rfl⟩)
  have hpop : firstPopped.popping = some ⟨0, [firstAnswer]⟩ := by decide +kernel
  have hsent : WorldReach firstSha256 saltedSecrets firstSent := .step hpopped (.popContinued hpop)
  have hstored : WorldReach firstSha256 saltedSecrets firstStored :=
    .step hsent (.received true ⟨1, true, none⟩ firstConnection (by decide +kernel))
  have hretired : WorldReach firstSha256 saltedSecrets firstRetired :=
    .step hstored (.answered ⟨9, true, true⟩ 1 ⟨rfl, by decide +kernel⟩ (by decide +kernel))
  have hoffered : ∀ event ∈ firstRetired.offered, event = firstAnswer := by decide +kernel
  have hcollision : NoCollision firstSha256 firstRetired.offered := by
    rintro left ⟨event, hevent, rfl⟩ right ⟨event', hevent', rfl⟩ -
    rw [hoffered event hevent, hoffered event' hevent']
  have hdeparted : firstRetired.departed = [firstAnswer] := by decide +kernel
  exact ⟨hretired, hdeparted, answers_reach_server ⟨fun _ _ _ => rfl⟩ hretired hcollision firstAnswer
    (by simp [hdeparted])⟩

end Nstu
