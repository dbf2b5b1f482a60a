import Nstu.Exam.Control
import Nstu.Exam.EventCodec
import Nstu.Server.Ownership

/-!
# The exam gate

`start_exam`, `stop_exam`, `begin_exam`, `process_exam_ready` and `process_exam_answer_event` of
`control_plane.cpp`, as the server built for use has them.  They share the map of active exams under
`exam_contexts_mutex_`, and the mutex of the connection they work on.

An event is one scope of the locks.  `start_exam` keeps the context lock from the admission to the
answer of the transport, which is two events; a report or an answer of a client is checked in one
scope and used in another, and what it was checked against may have gone in between.

`GateMove` says once what an event can do.  `Gated` is the
invariant that the check is still good when the frame is used; it holds as long as no exam is stopped
under an answer, and none started under a report of another one.
-/

namespace Nstu

open Wire Control

/-- What identifies an exam on a client, as the server has issued it. -/
structure ExamTuple where
  clientId : ClientId
  packageDigest : Digest
  sessionId : SessionId
  packageId : Bytes
  candidateId : Bytes
  deriving DecidableEq

def ExamStartRequest.tuple (request : ExamStartRequest) : ExamTuple :=
  ⟨request.clientId, request.packageDigest, request.sessionId, request.packageId, request.candidateId⟩

def ExamReadyReport.tuple (report : ExamReadyReport) : ExamTuple :=
  ⟨report.clientId, report.packageDigest, report.sessionId, report.packageId, report.candidateId⟩

def AnswerEvent.tuple (event : AnswerEvent) : ExamTuple :=
  ⟨event.clientId, event.packageDigest, event.sessionId, event.packageId, event.candidateId⟩

end Nstu

namespace Nstu.Server

open Wire Control

structure ActiveExamContext where
  tuple : ExamTuple
  instructorId : Bytes := []
  instructorAuthorized : Bool := false
  ready : Bool := false
  begun : Bool := false
  serverStartUnixMilliseconds : UInt64 := 0
  deriving DecidableEq

def ActiveExamContext.readied (context : ActiveExamContext) : ActiveExamContext :=
  { context with ready := true }

def ActiveExamContext.started (context : ActiveExamContext) (nowMs : UInt64) : ActiveExamContext :=
  { context with begun := true, serverStartUnixMilliseconds := nowMs }

/-- The fields of `ServerControlPlaneConfig` that the gate reads, and whether the journal is open. -/
structure ExamConfig where
  instructorKey : Bytes := []
  requireInstructorTicket : Bool := false
  journalOpen : Bool := true

def ExamConfig.requireTicket (config : ExamConfig) : Bool :=
  config.requireInstructorTicket || !config.instructorKey.isEmpty

/-- A frame that has been checked and not been used yet. -/
inductive PendingFrame where
  | ready (report : ExamReadyReport)
  | answer (event : AnswerEvent)
  deriving DecidableEq

def PendingFrame.tuple : PendingFrame → ExamTuple
  | ready report => report.tuple
  | answer event => event.tuple

/-- A `start_exam` between the admission and the answer of the transport. -/
structure StartingExam where
  id : ConnectionId
  client : UInt64
  deriving DecidableEq

/-- The state behind the locks.  `journal` has the events handed to `AnswerJournal::append`. -/
structure ExamGate where
  plane : ControlPlane := {}
  contexts : Std.ExtTreeMap UInt64 ActiveExamContext := ∅
  pending : Std.ExtTreeMap ConnectionId PendingFrame := ∅
  starting : Option StartingExam := none
  journal : List AnswerEvent := []

namespace ExamGate

/-- Someone holds `exam_contexts_mutex_`. -/
def locked (gate : ExamGate) : Bool := gate.starting.isSome

/-- Someone holds the mutex of the connection. -/
def busy (gate : ExamGate) (id : ConnectionId) : Bool :=
  gate.pending.contains id || gate.starting.any fun start => start.id == id

section Admission

variable (hmac : Bytes → Bytes → Digest) (config : ExamConfig)

/-- The instructor an exam is authorised by, and whether there is one. -/
def authorize (ticket : Option InstructorAuthorizationTicket) (request : ExamStartRequest)
    (nowMs : UInt64) : Except String (Bytes × Bool) :=
  match ticket with
  | some ticket =>
    let result := verifyTicketForExam hmac config.instructorKey ticket request nowMs
    if result = .valid then .ok (ticket.instructorId, true)
    else .error ("instructor authorization failed: " ++ ticketVerificationResultToString result)
  | none =>
    if config.requireTicket then .error "exam blocked: instructor authorization ticket required"
    else .ok ([], false)

/-- The registry proves that the client is protected on its current boot. -/
def protectionProven (gate : ExamGate) (client : UInt64) : Bool :=
  (gate.plane.registry.find client).any fun record => record.uwf.provesCurrentProtection

/-- `start_exam` on the connection it has selected, up to the end of its
ownership scope. -/
def admitExam (gate : ExamGate) (id : ConnectionId) (client : UInt64) (request : ExamStartRequest)
    (ticket : Option InstructorAuthorizationTicket) (nowMs : UInt64) : Except String ExamGate :=
  if !validateExamStartRequest request then .error "invalid exam start request"
  else
    match gate.plane.connections[id]? with
    | none => .error "client is not authenticated"
    | some carrier =>
      match authorize hmac config ticket request nowMs with
      | .error error => .error error
      | .ok (instructorId, instructorAuthorized) =>
        if encodeExamStartRequest request = [] then
          .error "exam start request could not be encoded"
        else if !gate.plane.isCurrent id || carrier.registryId != client || carrier.clientId != request.clientId then
          .error "exam request identity does not match client"
        else if !gate.protectionProven client then
          .error "exam blocked: this client has not proven current-session UWF protection"
        else if gate.contexts.contains client then
          .error "client already has an active exam session"
        else
          let context : ActiveExamContext :=
            { tuple := request.tuple, instructorId, instructorAuthorized }
          .ok { gate with
            contexts := gate.contexts.insert client context
            starting := some ⟨id, client⟩ }

end Admission

/-- The end of `start_exam`: what could not be sent has not been started. -/
def finishStart (gate : ExamGate) (sent : Bool) : ExamGate :=
  match gate.starting with
  | none => gate
  | some start =>
    { gate with
      contexts := if sent then gate.contexts else gate.contexts.erase start.client
      starting := none }

/-- `stop_exam` on the connection it has selected. -/
def stopExam (gate : ExamGate) (id : ConnectionId) (sent : Bool) : Except String ExamGate :=
  match gate.plane.connections[id]? with
  | none => .error "client is not authenticated"
  | some carrier =>
    if carrier.stage ≠ .authenticated ∨ carrier.registryId = 0 ∨ !sent then
      .error "authenticated command sequence is unavailable"
    else .ok { gate with contexts := gate.contexts.erase carrier.registryId }

def beginCommand (context : ActiveExamContext) (nowMs : UInt64) (durationSeconds : UInt32) :
    ExamBeginCommand where
  packageId := context.tuple.packageId
  candidateId := context.tuple.candidateId
  packageDigest := context.tuple.packageDigest
  clientId := context.tuple.clientId
  sessionId := context.tuple.sessionId
  serverStartUnixMilliseconds := nowMs
  durationSeconds := durationSeconds

/-- `begin_exam` on the connection it has selected. -/
def beginExam (gate : ExamGate) (id : ConnectionId) (durationSeconds : UInt32) (nowMs : UInt64)
    (sent : Bool) : Except String ExamGate :=
  match gate.plane.connections[id]? with
  | none => .error "client is not authenticated"
  | some carrier =>
    if carrier.stage ≠ .authenticated ∨ carrier.registryId = 0 then
      .error "authenticated command sequence is unavailable"
    else
      match gate.contexts[carrier.registryId]? with
      | none => .error "client has no active exam session"
      | some context =>
        if !context.ready then .error "client is not ready to begin the exam"
        else if context.begun then .error "client exam has already begun"
        else if encodeExamBeginCommand (beginCommand context nowMs durationSeconds) = [] then
          .error "could not encode exam begin command"
        else if !sent then .error "authenticated command sequence is unavailable"
        else
          .ok { gate with
            contexts := gate.contexts.insert carrier.registryId (context.started nowMs) }

def activeExamFor (gate : ExamGate) (registryId : UInt64) : Option ActiveExamContext :=
  if registryId = 0 then none else gate.contexts[registryId]?

/-- The check that `process_exam_ready` and `process_exam_answer_event` begin with: a frame that fails
it is answered with a disconnect. -/
def checkFrame (gate : ExamGate) (id : ConnectionId) (frame : Option PendingFrame) : ExamGate :=
  match gate.plane.connections[id]?, frame with
  | some carrier, some frame =>
    match gate.activeExamFor carrier.registryId with
    | none => gate
    | some context =>
      if carrier.stage = .authenticated ∧ frame.tuple.clientId = carrier.clientId ∧ context.tuple = frame.tuple then
        { gate with pending := gate.pending.insert id frame }
      else gate
  | _, _ => gate

/-- The first scope of `process_exam_ready`. -/
def checkReady (gate : ExamGate) (id : ConnectionId) (payload : Bytes) : ExamGate :=
  gate.checkFrame id ((decodeExamReadyReport payload).map .ready)

/-- The first scope of `process_exam_answer_event`. -/
def checkAnswer (gate : ExamGate) (id : ConnectionId) (payload : Bytes) : ExamGate :=
  gate.checkFrame id ((decodeAnswerEvent payload).toOption.map .answer)

/-- The rest of either: the ready flag is set, or the event is handed to the journal, which has a lock of
its own. -/
def useFrame (config : ExamConfig) (gate : ExamGate) (id : ConnectionId) : ExamGate :=
  match gate.plane.connections[id]?, gate.pending[id]? with
  | some carrier, some (.ready _) =>
    if gate.locked then gate
    else
      { gate with
        contexts := gate.contexts.modify carrier.registryId ActiveExamContext.readied
        pending := gate.pending.erase id }
  | some _, some (.answer event) =>
    { gate with
      journal := if config.journalOpen then gate.journal ++ [event] else gate.journal
      pending := gate.pending.erase id }
  | _, _ => gate

end ExamGate

/-- One scope of the locks. -/
inductive GateEvent where
  | plane (event : Event)
  | admitExam (id : ConnectionId) (client : UInt64) (request : ExamStartRequest)
      (ticket : Option InstructorAuthorizationTicket) (nowMs : UInt64)
  | finishStart (sent : Bool)
  | stopExam (id : ConnectionId) (sent : Bool)
  | beginExam (id : ConnectionId) (durationSeconds : UInt32) (nowMs : UInt64) (sent : Bool)
  | checkReady (id : ConnectionId) (payload : Bytes)
  | checkAnswer (id : ConnectionId) (payload : Bytes)
  | useFrame (id : ConnectionId)

namespace ExamGate

variable (hmac : Bytes → Bytes → Digest) (config : ExamConfig)

/-- A call that fails leaves things as they are. -/
def orSame (gate : ExamGate) (result : Except String ExamGate) : ExamGate := result.toOption.getD gate

/-- A scope is entered once its locks are free. -/
def step (gate : ExamGate) : GateEvent → ExamGate
  | .plane event => { gate with plane := gate.plane.step event }
  | .admitExam id client request ticket nowMs =>
    if gate.locked || gate.busy id then gate
    else gate.orSame (gate.admitExam hmac config id client request ticket nowMs)
  | .finishStart sent => gate.finishStart sent
  | .stopExam id sent =>
    if gate.locked || gate.busy id then gate else gate.orSame (gate.stopExam id sent)
  | .beginExam id durationSeconds nowMs sent =>
    if gate.locked || gate.busy id then gate
    else gate.orSame (gate.beginExam id durationSeconds nowMs sent)
  | .checkReady id payload => if gate.locked || gate.busy id then gate else gate.checkReady id payload
  | .checkAnswer id payload => if gate.locked || gate.busy id then gate else gate.checkAnswer id payload
  | .useFrame id => gate.useFrame config id

def run (gate : ExamGate) (events : List GateEvent) : ExamGate := events.foldl (step hmac config) gate

end ExamGate

/-! ## What a scope does -/

/-- What `start_exam` has found when it admits an exam. -/
structure Admission (hmac : Bytes → Bytes → Digest) (config : ExamConfig) (gate : ExamGate)
    (id : ConnectionId) (client : UInt64) (request : ExamStartRequest)
    (ticket : Option InstructorAuthorizationTicket) (nowMs : UInt64) : Prop where
  current : gate.plane.isCurrent id = true
  identity : ∃ carrier, gate.plane.connections[id]? = some carrier ∧ carrier.registryId = client ∧
    carrier.clientId = request.clientId
  ticket : config.requireTicket = true → ∃ verified, ticket = some verified ∧
    verifyTicketForExam hmac config.instructorKey verified request nowMs = .valid
  proven : ∃ record, gate.plane.registry.find client = some record ∧ record.uwf.provesCurrentProtection = true

/-- Everything one event can do to the gate. -/
inductive GateMove (hmac : Bytes → Bytes → Digest) (config : ExamConfig) (gate : ExamGate) :
    GateEvent → ExamGate → Prop
  | idle (event : GateEvent) (h : ∀ sent, event = .finishStart sent → gate.starting = none) :
      GateMove hmac config gate event gate
  | plane (event : Event) :
      GateMove hmac config gate (.plane event) { gate with plane := gate.plane.step event }
  | admitted {id : ConnectionId} {client : UInt64} {request : ExamStartRequest}
      {ticket : Option InstructorAuthorizationTicket} {nowMs : UInt64} {context : ActiveExamContext}
      (hfree : gate.starting = none) (hadmitted : Admission hmac config gate id client request ticket nowMs)
      (hnone : gate.contexts[client]? = none) (htuple : context.tuple = request.tuple)
      (hready : context.ready = false) (hbegun : context.begun = false) :
      GateMove hmac config gate (.admitExam id client request ticket nowMs)
        { gate with contexts := gate.contexts.insert client context, starting := some ⟨id, client⟩ }
  | finished {start : StartingExam} (sent : Bool) (hstarting : gate.starting = some start) :
      GateMove hmac config gate (.finishStart sent) { gate with
          contexts := if sent then gate.contexts else gate.contexts.erase start.client
          starting := none }
  | stopped {id : ConnectionId} {carrier : Carrier} (hfree : gate.starting = none)
      (hidle : gate.busy id = false) (hcarrier : gate.plane.connections[id]? = some carrier) :
      GateMove hmac config gate (.stopExam id true) { gate with contexts := gate.contexts.erase carrier.registryId }
  | begun {id : ConnectionId} {durationSeconds : UInt32} {nowMs : UInt64} {carrier : Carrier}
      {context : ActiveExamContext} (hfree : gate.starting = none)
      (hcarrier : gate.plane.connections[id]? = some carrier)
      (hcontext : gate.contexts[carrier.registryId]? = some context) (hready : context.ready = true)
      (hbegun : context.begun = false) :
      GateMove hmac config gate (.beginExam id durationSeconds nowMs true)
        { gate with contexts := gate.contexts.insert carrier.registryId (context.started nowMs) }
  | checked {event : GateEvent} {id : ConnectionId} {carrier : Carrier} {frame : PendingFrame}
      {context : ActiveExamContext} (hevent : ∀ sent, event ≠ .finishStart sent)
      (hfree : gate.starting = none) (hcarrier : gate.plane.connections[id]? = some carrier)
      (hstage : carrier.stage = .authenticated) (hclient : frame.tuple.clientId = carrier.clientId)
      (hcontext : gate.contexts[carrier.registryId]? = some context)
      (htuple : context.tuple = frame.tuple) :
      GateMove hmac config gate event { gate with pending := gate.pending.insert id frame }
  | ready {id : ConnectionId} {carrier : Carrier} {report : ExamReadyReport}
      (hfree : gate.starting = none) (hcarrier : gate.plane.connections[id]? = some carrier)
      (hpending : gate.pending[id]? = some (.ready report)) :
      GateMove hmac config gate (.useFrame id) { gate with
          contexts := gate.contexts.modify carrier.registryId ActiveExamContext.readied
          pending := gate.pending.erase id }
  | answered {id : ConnectionId} {event : AnswerEvent}
      (hpending : gate.pending[id]? = some (.answer event)) :
      GateMove hmac config gate (.useFrame id) { gate with
          journal := if config.journalOpen then gate.journal ++ [event] else gate.journal
          pending := gate.pending.erase id }

section Moves

variable {hmac : Bytes → Bytes → Digest} {config : ExamConfig} {gate : ExamGate}

variable {ticket : Option InstructorAuthorizationTicket} {request : ExamStartRequest}
    {nowMs : UInt64}

lemma authorize_ok {authorized : Bytes × Bool}
    (h : ExamGate.authorize hmac config ticket request nowMs = .ok authorized)
    (hr : config.requireTicket) : ∃ verified, ticket = some verified ∧
      verifyTicketForExam hmac config.instructorKey verified request nowMs = .valid := by
  cases ticket with
  | none =>
    rw [ExamGate.authorize, if_pos hr] at h
    cases h
  | some verified =>
    simp only [ExamGate.authorize] at h
    split at h
    · rename_i hv
      exact ⟨verified, rfl, hv⟩
    · cases h

variable {id : ConnectionId}

lemma admitExam_move {client : UInt64} {after : ExamGate} (hfree : gate.starting = none)
    (h : gate.admitExam hmac config id client request ticket nowMs = .ok after) :
    GateMove hmac config gate (.admitExam id client request ticket nowMs) after := by
  rw [ExamGate.admitExam] at h
  split at h
  · cases h
  · split at h
    · cases h
    · rename_i carrier hcarr
      split at h
      · cases h
      · rename_i instructorId instructorAuthorized hauth
        split at h
        · cases h
        · split at h
          · cases h
          · rename_i hiden
            split at h
            · cases h
            · rename_i hprov
              split at h
              · cases h
              · rename_i hcont
                cases h
                simp only [Bool.or_eq_true, Bool.not_eq_true', bne_iff_ne, ne_eq, not_or, not_not,
                  Bool.not_eq_false, Std.ExtTreeMap.contains_iff_mem] at hiden hprov hcont
                obtain ⟨⟨hcurr, hid⟩, hclie⟩ := hiden
                obtain ⟨record, hreco, hprove⟩ := Option.any_eq_true _ _ |>.mp hprov
                refine .admitted hfree ⟨hcurr, ⟨carrier, hcarr, hid, hclie⟩,
                  authorize_ok hauth, record, hreco, hprove⟩ ?_ rfl rfl rfl
                exact Std.ExtTreeMap.getElem?_eq_none hcont

variable {sent : Bool}

lemma stopExam_move {after : ExamGate} (hf : gate.starting = none)
    (hi : gate.busy id = false) (h : gate.stopExam id sent = .ok after) : GateMove hmac config gate (.stopExam id sent) after := by
  rw [ExamGate.stopExam] at h
  split at h
  · cases h
  · rename_i carrier hc
    split at h
    · cases h
    · rename_i hr
      cases h
      have hs : sent := by
        by_contra hu
        exact hr (.inr (.inr (by simpa using hu)))
      rw [hs]
      exact .stopped hf hi hc

lemma beginExam_ok {durationSeconds : UInt32}
    {after : ExamGate} (h : gate.beginExam id durationSeconds nowMs sent = .ok after) :
    ∃ (carrier : Carrier) (context : ActiveExamContext), gate.plane.connections[id]? = some carrier ∧
      gate.contexts[carrier.registryId]? = some context ∧ context.ready ∧ context.begun = false ∧ sent ∧
      after = { gate with
        contexts := gate.contexts.insert carrier.registryId (context.started nowMs) } := by
  rw [ExamGate.beginExam] at h
  split at h
  · cases h
  · rename_i carrier hc
    split at h
    · cases h
    · split at h
      · cases h
      · rename_i context hco
        split at h
        · cases h
        · rename_i hr
          split at h
          · cases h
          · rename_i hb
            split at h
            · cases h
            · split at h
              · cases h
              · rename_i hs
                cases h
                exact ⟨carrier, context, hc, hco, by simpa using hr,
                  by simpa using hb, by simpa using hs, rfl⟩

lemma checkFrame_move {event : GateEvent} (he : ∀ sent, event ≠ .finishStart sent) {frame : Option PendingFrame}
    (hf : gate.starting = none) : GateMove hmac config gate event (gate.checkFrame id frame) := by
  have hi : GateMove hmac config gate event gate := .idle event fun sent h => absurd h (he sent)
  unfold ExamGate.checkFrame
  split
  · rename_i carrier pending hc
    split
    · exact hi
    · rename_i context hco
      rw [ExamGate.activeExamFor] at hco
      split at hco
      · cases hco
      · split
        · rename_i hm
          exact .checked he hf hc hm.1 hm.2.1 hco hm.2.2
        · exact hi
  · exact hi

lemma useFrame_move (id : ConnectionId) : GateMove hmac config gate (.useFrame id) (gate.useFrame config id) := by
  have hi : GateMove hmac config gate (.useFrame id) gate :=
    .idle _ fun sent h => by cases h
  unfold ExamGate.useFrame
  split
  · rename_i carrier report hc hp
    split
    · exact hi
    · rename_i hl
      exact .ready (by simpa [ExamGate.locked] using hl) hc hp
  · rename_i hp
    exact .answered hp
  · exact hi

/-- **Every event is one of the moves.** -/
lemma step_move (event : GateEvent) : GateMove hmac config gate event (gate.step hmac config event) := by
  have hbloc : ∀ {p : Bool}, ¬ (gate.locked || p) → gate.starting = none := by
    intro p h
    simp only [Bool.or_eq_true, not_or, Bool.not_eq_true] at h
    simpa [ExamGate.locked] using h.1
  cases event with
  | plane event => exact .plane event
  | admitExam id client request ticket nowMs =>
    have hidle : GateMove hmac config gate (.admitExam id client request ticket nowMs) gate :=
      .idle _ fun sent h => by cases h
    rw [ExamGate.step]
    split
    · exact hidle
    · rename_i hfree
      cases hresu : gate.admitExam hmac config id client request ticket nowMs with
      | error _ => exact hidle
      | ok after => exact admitExam_move (hbloc hfree) hresu
  | finishStart sent =>
    rw [ExamGate.step, ExamGate.finishStart]
    split
    · rename_i hnone
      exact .idle _ fun _ _ => hnone
    · rename_i start hstar
      exact .finished sent hstar
  | stopExam id sent =>
    have hidle : GateMove hmac config gate (.stopExam id sent) gate := .idle _ fun sent h => by cases h
    rw [ExamGate.step]
    split
    · exact hidle
    · rename_i hfree
      cases hresu : gate.stopExam id sent with
      | error _ => exact hidle
      | ok after =>
        simp only [Bool.or_eq_true, not_or, Bool.not_eq_true] at hfree
        exact stopExam_move (hbloc (by simpa using hfree)) hfree.2 hresu
  | beginExam id durationSeconds nowMs sent =>
    have hidle : GateMove hmac config gate (.beginExam id durationSeconds nowMs sent) gate :=
      .idle _ fun sent h => by cases h
    rw [ExamGate.step]
    split
    · exact hidle
    · rename_i hfree
      cases hresu : gate.beginExam id durationSeconds nowMs sent with
      | error _ => exact hidle
      | ok after =>
        obtain ⟨carrier, context, hcarr, hcont, hready, hbegun, rfl, rfl⟩ := beginExam_ok hresu
        exact .begun (hbloc hfree) hcarr hcont hready hbegun
  | checkReady id payload | checkAnswer id payload =>
    rw [ExamGate.step]
    split
    · exact .idle _ fun sent h => by cases h
    · rename_i hfree
      exact checkFrame_move (fun sent h => by cases h) (hbloc hfree)
  | useFrame id => exact useFrame_move id

end Moves

/-! ## What a frame was checked against -/

/-- An authenticated connection keeps its client. -/
lemma carrier_step {plane : ControlPlane} {log : List (UInt64 × ConnectionId)} (howned : Owned plane log)
    {id : ConnectionId} {carrier : Carrier} (hcarr : plane.connections[id]? = some carrier)
    (hstage : carrier.stage = .authenticated) (event : Event) :
    ∃ after : Carrier, (plane.step event).connections[id]? = some after ∧ after.stage = .authenticated ∧
      after.registryId = carrier.registryId ∧ after.clientId = carrier.clientId := by
  have hsame : ∃ after : Carrier, plane.connections[id]? = some after ∧ after.stage = .authenticated ∧
      after.registryId = carrier.registryId ∧ after.clientId = carrier.clientId :=
    ⟨carrier, hcarr, hstage, rfl, rfl⟩
  cases event with
  | connected source =>
    have hother : plane.nextConnectionId ≠ id := Nat.ne_of_gt (howned.lt_of_some hcarr)
    exact ⟨carrier, (connections_setCarrier _ _ _ _).trans ((if_neg hother).trans hcarr), hstage, rfl, rfl⟩
  | helloAccepted i clientId =>
    simp only [ControlPlane.step, ControlPlane.helloAccepted]
    split
    · exact hsame
    · rename_i other hother
      split
      · rename_i hinit
        have hne : i ≠ id := by
          rintro rfl
          rw [hcarr] at hother
          cases hother
          rw [hstage] at hinit
          cases hinit
        rw [connections_setCarrier, if_neg hne]
        exact hsame
      · exact hsame
  | publish i retired now =>
    simp only [ControlPlane.step, ControlPlane.publish]
    split
    · exact hsame
    · rename_i other hother
      split
      · rename_i hproof
        have hne : i ≠ id := by
          rintro rfl
          rw [hcarr] at hother
          cases hother
          rw [hstage] at hproof
          cases hproof.1
        rw [connections_setCarrier, if_neg hne]
        exact hsame
      · exact hsame
  | report i type payload now allocated =>
    rcases processReport_cases plane i type payload now allocated with hplane | ⟨-, call, hplane⟩
    · rw [ControlPlane.step, hplane]
      exact hsame
    · rw [ControlPlane.step, hplane]
      exact hsame
  | disconnected i now =>
    simp only [ControlPlane.step, ControlPlane.onDisconnected]
    split
    · exact hsame
    · rename_i other hother
      have hgone : ∃ after : Carrier,
          (plane.setCarrier i { other with live := false }).connections[id]? = some after ∧
            after.stage = .authenticated ∧ after.registryId = carrier.registryId ∧
              after.clientId = carrier.clientId := by
        rw [connections_setCarrier]
        by_cases hsame : i = id
        · subst hsame
          rw [hcarr] at hother
          cases hother
          exact ⟨_, if_pos rfl, hstage, rfl, rfl⟩
        · exact ⟨carrier, (if_neg hsame).trans hcarr, hstage, rfl, rfl⟩
      split
      · split
        · exact hgone
        · exact hgone
      · exact hsame
  | registryCall call => exact hsame

/-- The frame is between its check and its use, on this connection. -/
def ExamGate.Waits (gate : ExamGate) (frame : PendingFrame) (carrier : Carrier) : Prop :=
  ∃ id : ConnectionId, gate.pending[id]? = some frame ∧ gate.plane.connections[id]? = some carrier

/-- **The check of a frame is still good** when the frame is used: if its client has an exam it is the one
of the check, and for an answer there is one. -/
structure Gated (gate : ExamGate) : Prop where
  owned : ∃ log, Owned gate.plane log
  matched : ∀ {id : ConnectionId} {frame : PendingFrame}, gate.pending[id]? = some frame →
    ∃ carrier, gate.plane.connections[id]? = some carrier ∧ carrier.stage = .authenticated ∧
      frame.tuple.clientId = carrier.clientId ∧
      ∀ context, gate.contexts[carrier.registryId]? = some context → context.tuple = frame.tuple
  active : ∀ {answer carrier}, gate.Waits (.answer answer) carrier → (gate.contexts[carrier.registryId]?).isSome
  starting : ∀ {start answer carrier}, gate.starting = some start → gate.Waits (.answer answer) carrier →
    carrier.registryId ≠ start.client

/-- An event does not stop an exam while an answer of its client is between its check and its use, and does
not start one while a report of another exam of its client is. -/
structure Undisturbed (hmac : Bytes → Bytes → Digest) (config : ExamConfig) (gate : ExamGate) (event : GateEvent) :
    Prop where
  stopped : ∀ {id carrier answer holder}, event = .stopExam id true → gate.starting = none →
    gate.busy id = false → gate.plane.connections[id]? = some carrier → gate.Waits (.answer answer) holder →
      holder.registryId ≠ carrier.registryId
  started : ∀ {id client request ticket nowMs report holder}, event = .admitExam id client request ticket nowMs →
    Admission hmac config gate id client request ticket nowMs → gate.starting = none →
      gate.contexts[client]? = none → gate.Waits (.ready report) holder → holder.registryId = client →
        report.tuple = request.tuple

section Invariant

variable {hmac : Bytes → Bytes → Digest} {config : ExamConfig} {gate : ExamGate}

lemma not_waits_empty {frame : PendingFrame} {carrier : Carrier} : ¬ ExamGate.Waits {} frame carrier := by
  rintro ⟨id, hframe, -⟩
  rw [Std.ExtTreeMap.getElem?_empty] at hframe
  cases hframe

lemma gated_init : Gated {} where
  owned := ⟨[], owned_init⟩
  matched := fun h => by rw [Std.ExtTreeMap.getElem?_empty] at h; cases h
  active := fun h => absurd h not_waits_empty
  starting := fun h => by cases h

lemma Gated.tuple_eq (h : Gated gate) {frame : PendingFrame} {carrier : Carrier} {context : ActiveExamContext}
    (hw : gate.Waits frame carrier) (hcont : gate.contexts[carrier.registryId]? = some context) :
    context.tuple = frame.tuple := by
  obtain ⟨id, hframe, hcarr⟩ := hw
  obtain ⟨found, hfound, -, -, htuple⟩ := h.matched hframe
  rw [hcarr] at hfound
  cases hfound
  exact htuple context hcont

lemma Gated.withContexts (h : Gated gate) {contexts : Std.ExtTreeMap UInt64 ActiveExamContext}
    (htuple : ∀ {frame carrier} {after : ActiveExamContext}, gate.Waits frame carrier →
      contexts[carrier.registryId]? = some after → after.tuple = frame.tuple)
    (hactive : ∀ {answer carrier}, gate.Waits (.answer answer) carrier → (contexts[carrier.registryId]?).isSome) :
    Gated { gate with contexts } where
  owned := h.owned
  matched := by
    intro id frame hframe
    obtain ⟨carrier, hcarr, hstage, hclie, -⟩ := h.matched hframe
    exact ⟨carrier, hcarr, hstage, hclie, fun after hafter => htuple ⟨id, hframe, hcarr⟩ hafter⟩
  active := hactive
  starting := h.starting

lemma Gated.used (h : Gated gate) (id : ConnectionId) : Gated { gate with pending := gate.pending.erase id } := by
  have hb : ∀ {i : ConnectionId} {frame : PendingFrame}, (gate.pending.erase id)[i]? = some frame →
      gate.pending[i]? = some frame := by
    intro i frame hf
    rw [Std.ExtTreeMap.getElem?_erase] at hf
    split at hf
    · cases hf
    · exact hf
  exact ⟨h.owned, fun hf => h.matched (hb hf), fun ⟨i, hf, hc⟩ => h.active ⟨i, hb hf, hc⟩,
    fun hs ⟨i, hf, hc⟩ => h.starting hs ⟨i, hb hf, hc⟩⟩

lemma Gated.plane (h : Gated gate) (event : Event) : Gated { gate with plane := gate.plane.step event } := by
  obtain ⟨log, howned⟩ := h.owned
  have hwaits : ∀ {frame carrier}, ExamGate.Waits { gate with plane := gate.plane.step event } frame carrier →
      ∃ before : Carrier, gate.Waits frame before ∧ carrier.registryId = before.registryId := by
    rintro frame carrier ⟨id, hframe, hcarr⟩
    obtain ⟨before, hbefo, hstage, -, -⟩ := h.matched hframe
    obtain ⟨after, hafter, -, hid, -⟩ := carrier_step howned hbefo hstage event
    rw [hafter] at hcarr
    cases hcarr
    exact ⟨before, ⟨id, hframe, hbefo⟩, hid⟩
  refine ⟨⟨_, howned.step event⟩, ?_, ?_, ?_⟩
  · intro id frame hframe
    obtain ⟨carrier, hcarr, hstage, hclie, htuple⟩ := h.matched hframe
    obtain ⟨after, hafter, hstage', hid, hclie'⟩ := carrier_step howned hcarr hstage event
    refine ⟨after, hafter, hstage', hclie'.symm ▸ hclie, ?_⟩
    rw [hid]
    exact htuple
  · intro answer carrier hw
    obtain ⟨before, hbefo, hid⟩ := hwaits hw
    rw [hid]
    exact h.active hbefo
  · intro start answer carrier hstart hw
    obtain ⟨before, hbefo, hid⟩ := hwaits hw
    rw [hid]
    exact h.starting hstart hbefo

lemma Gated.admitted (h : Gated gate) {id : ConnectionId} {client : UInt64} {request : ExamStartRequest}
    {ticket : Option InstructorAuthorizationTicket} {nowMs : UInt64} {context : ActiveExamContext}
    (hundi : Undisturbed hmac config gate (.admitExam id client request ticket nowMs))
    (hadmi : Admission hmac config gate id client request ticket nowMs) (hfree : gate.starting = none)
    (hnone : gate.contexts[client]? = none) (htuple : context.tuple = request.tuple) :
    Gated { gate with contexts := gate.contexts.insert client context, starting := some ⟨id, client⟩ } := by
  -- no answer waits for a client that has no exam
  have hother : ∀ {answer carrier}, gate.Waits (.answer answer) carrier → carrier.registryId ≠ client := by
    rintro answer carrier hw rfl
    have hsome := h.active hw
    rw [hnone] at hsome
    cases hsome
  have hgated : Gated { gate with contexts := gate.contexts.insert client context } := by
    refine h.withContexts ?_ ?_
    · intro frame carrier after hw hafter
      simp only [Std.ExtTreeMap.getElem?_insert, Std.compare_eq_iff_eq] at hafter
      split at hafter
      · rename_i heq
        cases hafter
        cases frame with
        | ready report => exact htuple.trans (hundi.started rfl hadmi hfree hnone hw heq.symm).symm
        | answer answer => exact absurd heq.symm (hother hw)
      · exact h.tuple_eq hw hafter
    · intro answer carrier hw
      rw [Std.ExtTreeMap.getElem?_insert, if_neg]
      · exact h.active hw
      · rw [Std.compare_eq_iff_eq]
        exact (hother hw).symm
  refine ⟨hgated.owned, hgated.matched, hgated.active, ?_⟩
  rintro start answer carrier hstart hw
  cases hstart
  exact hother hw

/-- Taking a context away is harmless where no answer waits for it. -/
lemma Gated.erased (h : Gated gate) {client : UInt64}
    (hother : ∀ {answer carrier}, gate.Waits (.answer answer) carrier → carrier.registryId ≠ client) :
    Gated { gate with contexts := gate.contexts.erase client } := by
  refine h.withContexts ?_ ?_
  · intro frame carrier after hw hafter
    rw [Std.ExtTreeMap.getElem?_erase] at hafter
    split at hafter
    · cases hafter
    · exact h.tuple_eq hw hafter
  · intro answer carrier hw
    rw [Std.ExtTreeMap.getElem?_erase, if_neg]
    · exact h.active hw
    · rw [Std.compare_eq_iff_eq]
      exact (hother hw).symm

lemma Gated.move (h : Gated gate) {event : GateEvent} {after : ExamGate}
    (hmove : GateMove hmac config gate event after) (hundi : Undisturbed hmac config gate event) : Gated after := by
  cases hmove with
  | idle => exact h
  | plane event => exact h.plane event
  | admitted hfree hadmi hnone htuple hready hbegun => exact h.admitted hundi hadmi hfree hnone htuple
  | finished sent hstar =>
    rename_i start
    have hgated : Gated { gate with
        contexts := if sent then gate.contexts else gate.contexts.erase start.client } := by
      split
      · exact h
      · exact h.erased fun hw => h.starting hstar hw
    exact ⟨hgated.owned, hgated.matched, hgated.active, fun hstart => by cases hstart⟩
  | stopped hfree hidle hcarr => exact h.erased fun hw => hundi.stopped rfl hfree hidle hcarr hw
  | @begun id durationSeconds nowMs carrier context hfree hcarr hcont hready hbegun =>
    refine h.withContexts ?_ ?_
    · intro frame holder found hw hfound
      simp only [Std.ExtTreeMap.getElem?_insert, Std.compare_eq_iff_eq] at hfound
      split at hfound
      · rename_i heq
        rw [heq] at hcont
        have htuple : context.tuple = frame.tuple := h.tuple_eq hw hcont
        cases hfound
        exact htuple
      · exact h.tuple_eq hw hfound
    · intro answer holder hw
      rw [Std.ExtTreeMap.getElem?_insert]
      split
      · rfl
      · exact h.active hw
  | @checked _ id carrier frame context hevent hfree hcarr hstage hclie hcont htuple =>
    refine ⟨h.owned, ?_, ?_, fun hstart => by rw [hfree] at hstart; cases hstart⟩
    · intro i found hfound
      simp only [Std.ExtTreeMap.getElem?_insert, Std.compare_eq_iff_eq] at hfound
      split at hfound
      · rename_i heq
        cases hfound
        refine ⟨carrier, heq ▸ hcarr, hstage, hclie, fun other hother => ?_⟩
        rw [hcont] at hother
        cases hother
        exact htuple
      · exact h.matched hfound
    · rintro answer holder ⟨i, hfound, hhold⟩
      simp only [Std.ExtTreeMap.getElem?_insert, Std.compare_eq_iff_eq] at hfound
      split at hfound
      · rename_i heq
        rw [← heq, hcarr] at hhold
        cases hhold
        exact Option.isSome_of_eq_some hcont
      · exact h.active ⟨i, hfound, hhold⟩
  | @ready id carrier report hfree hcarr hpend =>
    have hgated : Gated { gate with
        contexts := gate.contexts.modify carrier.registryId ActiveExamContext.readied } := by
      refine h.withContexts ?_ ?_
      · intro frame holder found hw hfound
        simp only [Std.ExtTreeMap.getElem?_modify, Std.compare_eq_iff_eq] at hfound
        split at hfound
        · rename_i heq
          obtain ⟨context, hcont, rfl⟩ := Option.map_eq_some_iff.mp hfound
          have htuple : context.tuple = frame.tuple := h.tuple_eq hw (heq ▸ hcont)
          exact htuple
        · exact h.tuple_eq hw hfound
      · intro answer holder hw
        simp only [Std.ExtTreeMap.getElem?_modify, Std.compare_eq_iff_eq]
        split
        · rename_i heq
          rw [Option.isSome_map, heq]
          exact h.active hw
        · exact h.active hw
    exact hgated.used id
  | @answered id event hpend =>
    exact ⟨(h.used id).owned, (h.used id).matched, (h.used id).active, (h.used id).starting⟩

/-- **Along an undisturbed run every check stays good.** -/
lemma Gated.run (h : Gated gate) {before after : List GateEvent}
    (hu : ∀ earlier event later, before ++ after = earlier ++ event :: later →
      Undisturbed hmac config (gate.run hmac config earlier) event) : Gated (gate.run hmac config before) := by
  induction before generalizing gate with
  | nil => exact h
  | cons event events ih =>
    have hs : Gated (gate.step hmac config event) :=
      h.move (step_move event) (hu [] event (events ++ after) rfl)
    refine ih hs ?_
    intro earlier next later hsp
    exact hu (event :: earlier) next later (by rw [List.cons_append, hsp, List.cons_append])

end Invariant

/-! ## The guarantee -/

/-- What the gate promises of one event, in the state it finds. -/
structure ExamGuarantee (hmac : Bytes → Bytes → Digest) (config : ExamConfig) (gate : ExamGate)
    (event : GateEvent) : Prop where
  /-- An exam becomes active only by an admission. -/
  created : ∀ (client : UInt64) (context : ActiveExamContext), gate.contexts[client]? = none →
    (gate.step hmac config event).contexts[client]? = some context →
    ∃ id request ticket nowMs, event = .admitExam id client request ticket nowMs ∧
      Admission hmac config gate id client request ticket nowMs ∧ context.tuple = request.tuple ∧
      context.ready = false ∧ context.begun = false
  /-- It is not replaced by another one, and stays begun. -/
  kept : ∀ (client : UInt64) (context after : ActiveExamContext), gate.contexts[client]? = some context →
    (gate.step hmac config event).contexts[client]? = some after →
    after.tuple = context.tuple ∧ (context.begun = true → after.begun = true)
  /-- It does not remain if the client could not be told. -/
  unsent : ∀ start, gate.starting = some start → event = .finishStart false →
    (gate.step hmac config event).contexts[start.client]? = none
  /-- It begins only if the client is ready, and only if it has not begun. -/
  begun : ∀ id durationSeconds nowMs sent after, gate.beginExam id durationSeconds nowMs sent = .ok after →
    ∃ (carrier : Carrier) (context : ActiveExamContext), gate.plane.connections[id]? = some carrier ∧
      gate.contexts[carrier.registryId]? = some context ∧ context.ready = true ∧
      context.begun = false ∧ after.contexts[carrier.registryId]? = some (context.started nowMs)
  /-- The client is ready only by a report of this exam. -/
  ready : ∀ (client : UInt64) (context after : ActiveExamContext), gate.contexts[client]? = some context →
    (gate.step hmac config event).contexts[client]? = some after → context.ready = false →
    after.ready = true → ∃ (id : ConnectionId) (report : ExamReadyReport) (carrier : Carrier),
      event = .useFrame id ∧ gate.pending[id]? = some (.ready report) ∧
      gate.plane.connections[id]? = some carrier ∧ carrier.registryId = client ∧
      report.tuple = context.tuple
  /-- An answer reaches the journal only as one of the exam that is active. -/
  appended : (gate.step hmac config event).journal ≠ gate.journal →
    ∃ (id : ConnectionId) (answer : AnswerEvent) (carrier : Carrier) (context : ActiveExamContext),
      event = .useFrame id ∧ (gate.step hmac config event).journal = gate.journal ++ [answer] ∧
      gate.plane.connections[id]? = some carrier ∧ answer.clientId = carrier.clientId ∧
      gate.contexts[carrier.registryId]? = some context ∧ context.tuple = answer.tuple

section Guarantee

variable {hmac : Bytes → Bytes → Digest} {config : ExamConfig} {gate after : ExamGate}
  {event : GateEvent}

variable {client : UInt64} {context : ActiveExamContext}

lemma created_of_move (hmove : GateMove hmac config gate event after) (hnone : gate.contexts[client]? = none)
    (hsome : after.contexts[client]? = some context) :
    ∃ id request ticket nowMs, event = .admitExam id client request ticket nowMs ∧
      Admission hmac config gate id client request ticket nowMs ∧ context.tuple = request.tuple ∧
      context.ready = false ∧ context.begun = false := by
  cases hmove with
  | idle | plane | checked | answered =>
    rw [hnone] at hsome
    cases hsome
  | @admitted id target request ticket nowMs started hfree hadmi hfresh htuple hready hbegun =>
    simp only [Std.ExtTreeMap.getElem?_insert, Std.compare_eq_iff_eq] at hsome
    split at hsome
    · rename_i heq
      subst heq
      cases hsome
      exact ⟨id, request, ticket, nowMs, rfl, hadmi, htuple, hready, hbegun⟩
    · rw [hnone] at hsome
      cases hsome
  | finished sent hstar =>
    simp only at hsome
    split at hsome
    · rw [hnone] at hsome
      cases hsome
    · rw [Std.ExtTreeMap.getElem?_erase, hnone, ite_self] at hsome
      cases hsome
  | stopped hfree hidle hcarr =>
    simp only [Std.ExtTreeMap.getElem?_erase, hnone, ite_self] at hsome
    cases hsome
  | begun hfree hcarr hcont hready hbegun =>
    simp only [Std.ExtTreeMap.getElem?_insert, Std.compare_eq_iff_eq] at hsome
    split at hsome
    · rename_i heq
      rw [heq, hnone] at hcont
      cases hcont
    · rw [hnone] at hsome
      cases hsome
  | ready hfree hcarr hpend =>
    simp only [Std.ExtTreeMap.getElem?_modify, Std.compare_eq_iff_eq] at hsome
    split at hsome
    · rename_i heq
      rw [heq, hnone] at hsome
      cases hsome
    · rw [hnone] at hsome
      cases hsome

lemma context_of_move (hmove : GateMove hmac config gate event after)
    {context' : ActiveExamContext} (hbefo : gate.contexts[client]? = some context)
    (hafter : after.contexts[client]? = some context') :
    context' = context ∨ (∃ nowMs, context' = context.started nowMs) ∨
      context' = context.readied ∧ ∃ (id : ConnectionId) (report : ExamReadyReport) (carrier : Carrier),
        event = .useFrame id ∧ gate.pending[id]? = some (.ready report) ∧
        gate.plane.connections[id]? = some carrier ∧ carrier.registryId = client := by
  cases hmove with
  | idle | plane | checked | answered =>
    rw [hbefo] at hafter
    cases hafter
    exact .inl rfl
  | admitted hfree hadmi hfresh htuple hready hbegun =>
    simp only [Std.ExtTreeMap.getElem?_insert, Std.compare_eq_iff_eq] at hafter
    split at hafter
    · rename_i heq
      rw [heq, hbefo] at hfresh
      cases hfresh
    · rw [hbefo] at hafter
      cases hafter
      exact .inl rfl
  | finished sent hstar =>
    simp only at hafter
    split at hafter
    · rw [hbefo] at hafter
      cases hafter
      exact .inl rfl
    · rw [Std.ExtTreeMap.getElem?_erase] at hafter
      split at hafter
      · cases hafter
      · rw [hbefo] at hafter
        cases hafter
        exact .inl rfl
  | stopped hfree hidle hcarr =>
    simp only [Std.ExtTreeMap.getElem?_erase] at hafter
    split at hafter
    · cases hafter
    · rw [hbefo] at hafter
      cases hafter
      exact .inl rfl
  | @begun id durationSeconds nowMs carrier found hfree hcarr hcont hready hbegun =>
    simp only [Std.ExtTreeMap.getElem?_insert, Std.compare_eq_iff_eq] at hafter
    split at hafter
    · rename_i heq
      rw [heq, hbefo] at hcont
      cases hcont
      cases hafter
      exact .inr (.inl ⟨nowMs, rfl⟩)
    · rw [hbefo] at hafter
      cases hafter
      exact .inl rfl
  | @ready id carrier report hfree hcarr hpend =>
    simp only [Std.ExtTreeMap.getElem?_modify, Std.compare_eq_iff_eq] at hafter
    split at hafter
    · rename_i heq
      rw [heq, hbefo] at hafter
      cases hafter
      exact .inr (.inr ⟨rfl, id, report, carrier, rfl, hpend, hcarr, heq⟩)
    · rw [hbefo] at hafter
      cases hafter
      exact .inl rfl

lemma appended_of_move (h : Gated gate) (hm : GateMove hmac config gate event after)
    (hj : after.journal ≠ gate.journal) :
    ∃ (id : ConnectionId) (answer : AnswerEvent) (carrier : Carrier) (context : ActiveExamContext),
      event = .useFrame id ∧ after.journal = gate.journal ++ [answer] ∧
      gate.plane.connections[id]? = some carrier ∧ answer.clientId = carrier.clientId ∧
      gate.contexts[carrier.registryId]? = some context ∧ context.tuple = answer.tuple := by
  cases hm with
  | @answered id answer hp =>
    obtain ⟨carrier, hc, -, hcl, ht⟩ := h.matched hp
    obtain ⟨context, hco⟩ := Option.isSome_iff_exists.mp (h.active ⟨id, hp, hc⟩)
    refine ⟨id, answer, carrier, context, rfl, ?_, hc, hcl, hco, ht context hco⟩
    simp only at hj ⊢
    split
    · rfl
    · rename_i hclo
      rw [if_neg hclo] at hj
      exact absurd rfl hj
  | _ => exact absurd rfl hj

/-- **While every check is good, the gate keeps its promise.** -/
lemma Gated.guarantee (h : Gated gate) (event : GateEvent) : ExamGuarantee hmac config gate event where
  created := fun _ _ hnone hsome => created_of_move (step_move event) hnone hsome
  kept := by
    intro client context after hbefo hafter
    rcases context_of_move (step_move event) hbefo hafter with rfl | ⟨nowMs, rfl⟩ | ⟨rfl, -⟩
    · exact ⟨rfl, id⟩
    · exact ⟨rfl, fun _ => rfl⟩
    · exact ⟨rfl, id⟩
  unsent := by
    rintro start hstart rfl
    simp only [ExamGate.step, ExamGate.finishStart, hstart, Bool.false_eq_true, if_false]
    exact Std.ExtTreeMap.getElem?_erase_self
  begun := by
    intro id durationSeconds nowMs sent after hbegin
    obtain ⟨carrier, context, hcarr, hcont, hready, hbegun, -, rfl⟩ := beginExam_ok hbegin
    exact ⟨carrier, context, hcarr, hcont, hready, hbegun, Std.ExtTreeMap.getElem?_insert_self⟩
  ready := by
    intro client context after hbefo hafter hready hready'
    rcases context_of_move (step_move event) hbefo hafter with
      rfl | ⟨nowMs, rfl⟩ | ⟨-, id, report, carrier, hevent, hpend, hcarr, hid⟩
    · rw [hready] at hready'
      cases hready'
    · exact absurd (hready.symm.trans hready') (by decide)
    · rw [← hid] at hbefo
      exact ⟨id, report, carrier, hevent, hpend, hcarr, hid, (h.tuple_eq ⟨id, hpend, hcarr⟩ hbefo).symm⟩
  appended := fun hjour => appended_of_move h (step_move event) hjour

end Guarantee

/-- **The exam gate.**  In every run in which no exam is stopped while an answer of its client is between
its check and its use, and none is started while a report of another exam is, every event keeps the
promise. -/
theorem exam_gate (hmac : Bytes → Bytes → Digest) (config : ExamConfig) (events : List GateEvent)
    (hundisturbed : ∀ before event after, events = before ++ event :: after →
      Undisturbed hmac config (ExamGate.run hmac config {} before) event) :
    ∀ before event after, events = before ++ event :: after →
      ExamGuarantee hmac config (ExamGate.run hmac config {} before) event := by
  rintro before event after rfl
  exact (gated_init.run hundisturbed).guarantee event

section Superseded

/-- A request for the exam of one session. -/
def sampleRequest (session : UInt8) : ExamStartRequest where
  packageRoot := [99]
  webRoot := []
  userDataRoot := []
  packageId := [112]
  candidateId := [99]
  packageDigest := Block.fill 32 3
  clientId := Block.fill 16 7
  sessionId := Block.fill 16 session

def sampleReport (session : UInt8) : ExamReadyReport where
  packageId := [112]
  candidateId := [99]
  packageDigest := Block.fill 32 3
  clientId := Block.fill 16 7
  sessionId := Block.fill 16 session

/-- A connection of the client, from its hello to its proof of protection. -/
def protectedConnection (id : ConnectionId) : List GateEvent :=
  [.plane (.connected []), .plane (.helloAccepted id (Block.fill 16 7)), .plane (.publish id 0 0),
    .plane (.report id .uwfFleetStatus (encodeUwfFleetStatusReport (protectedReport (Block.fill 16 1))) 1 true)]

/-- An exam is started on the client, which reports that it is ready. -/
def readyRun : List GateEvent :=
  protectedConnection 1 ++
    [.admitExam 1 (registryIdFor (Block.fill 16 7)) (sampleRequest 1) none 1, .finishStart true,
      .checkReady 1 (encodeExamReadyReport (sampleReport 1))]

/-- The client connects again, and a second exam takes the place of the first. -/
def replacedRun : List GateEvent :=
  readyRun ++ protectedConnection 2 ++
    [.stopExam 2 true, .admitExam 2 (registryIdFor (Block.fill 16 7)) (sampleRequest 2) none 2, .finishStart true]

def sampleDigest (_ _ : Bytes) : Digest := Block.zero 32

/-- The exam is stopped on a second connection while the report is at work on the first one. -/
def stoppedRun : List GateEvent := readyRun ++ protectedConnection 2 ++ [.stopExam 2 true]

/-- The report finds no exam to mark. -/
theorem exam_gate_stoppedRun :
    ExamGuarantee sampleDigest {} (ExamGate.run sampleDigest {} {} stoppedRun) (.useFrame 1) := by
  refine exam_gate sampleDigest {} (stoppedRun ++ [.useFrame 1]) ?_ stoppedRun (.useFrame 1) [] rfl
  intro before event after hsplit
  constructor
  · rintro id carrier answer holder rfl - - - ⟨other, hpend, -⟩
    have hbefore : before = readyRun ++ protectedConnection 2 := by
      simp [stoppedRun, readyRun, protectedConnection, List.cons_eq_append_iff] at hsplit
      exact hsplit.1
    have hpending : (ExamGate.run sampleDigest {} {} before).pending.toList = [(1, .ready (sampleReport 1))] := by
      rw [hbefore]
      decide +kernel
    rw [← Std.ExtTreeMap.mem_toList_iff_getElem?_eq_some, hpending] at hpend
    simp at hpend
  · rintro id client request ticket nowMs report holder rfl - - - ⟨other, hpend, -⟩
    have hbefore : before = protectedConnection 1 := by
      simp [stoppedRun, readyRun, protectedConnection, List.cons_eq_append_iff] at hsplit
      exact hsplit.1
    have hpending : (ExamGate.run sampleDigest {} {} before).pending.toList = [] := by
      rw [hbefore]
      decide +kernel
    rw [← Std.ExtTreeMap.mem_toList_iff_getElem?_eq_some, hpending] at hpend
    cases hpend

/-- The report of the first exam, still at work on the first connection, marks the second one as
ready. -/
theorem exam_gate_not_always :
    ¬ ∀ (hmac : Bytes → Bytes → Digest) (config : ExamConfig) (events before : List GateEvent)
      (event : GateEvent) (after : List GateEvent), events = before ++ event :: after →
        ExamGuarantee hmac config (ExamGate.run hmac config {} before) event := by
  intro h
  have hguarantee := h sampleDigest {} _ replacedRun (.useFrame 1) [] rfl
  have hbefore : (ExamGate.run sampleDigest {} {} replacedRun).contexts[registryIdFor
      (Block.fill 16 7)]? = some { tuple := (sampleRequest 2).tuple } := by
    decide +kernel
  have hafter : ((ExamGate.run sampleDigest {} {} replacedRun).step sampleDigest {}
      (.useFrame 1)).contexts[registryIdFor (Block.fill 16 7)]? =
        some { tuple := (sampleRequest 2).tuple, ready := true } := by
    decide +kernel
  have hpending : (ExamGate.run sampleDigest {} {} replacedRun).pending[(1 : ConnectionId)]? =
      some (.ready (sampleReport 1)) := by
    decide +kernel
  obtain ⟨id, report, carrier, hevent, hreport, -, -, htuple⟩ :=
    hguarantee.ready _ _ _ hbefore hafter rfl rfl
  cases hevent
  rw [hpending] at hreport
  cases hreport
  exact absurd htuple (by decide)

end Superseded

end Nstu.Server
