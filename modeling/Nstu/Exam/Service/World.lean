import Nstu.Exam.Journal.Def
import Nstu.Exam.Service.Client

/-!
# One client, one server and what lies between them

The system the answer protocol runs in: a client service with its outbox, a server with its journal,
and the `exam_answer_event` and `exam_answer_ack` payloads that were ever sent.  A message stays in
the channel once it is sent and may be delivered at any later time, any number of times and in any
order, or never; that covers loss, duplication, delay and reordering across reconnects.

The client's control thread does one thing at a time: the step of a call of its own waits until the
call before it is over, and only the browser comes in between.

Both parties may stop at any moment and start again from their files.  What a stopped process keeps
is its file, because each operation writes the file before it changes anything in memory.
-/

namespace Nstu

open Wire

/-! ## The server's side -/

/-- The exam the server has issued to a client, `ActiveExamContext`. -/
structure ActiveExamContext where
  clientId : ClientId
  packageId : Bytes
  packageDigest : Digest
  sessionId : SessionId
  candidateId : Bytes

def matchesExamContext (context : ActiveExamContext) (event : AnswerEvent) : Bool :=
  context.clientId == event.clientId && context.packageDigest == event.packageDigest &&
    context.sessionId == event.sessionId && context.packageId == event.packageId &&
    context.candidateId == event.candidateId

/-- What the server knows about the connection a command came in on. -/
structure ExamConnection where
  /-- `state.hello.client_id`. -/
  clientId : ClientId
  /-- `active_exam_for(state.registry_id)`. -/
  context : Option ActiveExamContext

section Server

variable (sha256 : Bytes → Digest)

/-- The journal's answer to an event, or the one that stands in for it while the journal is closed.
`is_open()` is a call of its own, and another connection may have come in between. -/
def appendOrUnavailable (sawOpen : Bool) (calls : AppendCalls) (journal : AnswerJournal)
    (event : AnswerEvent) : AnswerJournal × AnswerAck :=
  if sawOpen then
    let result := journal.append sha256 calls event
    (result.journal, result.outcome.ack)
  else
    (journal, { AnswerAck.initial with
      status := .unavailable
      sessionId := event.sessionId
      sequence := event.sequence
      serverTimeUnixMilliseconds := calls.now })

/-- `process_exam_answer_event`, with the payload of the acknowledgement.  Where the source drops
the connection there is none. -/
def processExamAnswerEvent (sawOpen : Bool) (calls : AppendCalls) (connection : ExamConnection)
    (journal : AnswerJournal) (payload : Bytes) : AnswerJournal × Option Bytes :=
  match decodeAnswerEvent payload, connection.context with
  | .ok event, some context =>
    if event.clientId != connection.clientId || !matchesExamContext context event then
      (journal, none)
    else
      let answer := appendOrUnavailable sha256 sawOpen calls journal event
      let ack := encodeAnswerAck answer.2
      if ack.isEmpty then (answer.1, none) else (answer.1, some ack)
  | _, _ => (journal, none)

end Server

/-! ## The world -/

structure World where
  service : ClientService
  /-- The call the control thread is in, if any. -/
  draining : Option DrainCall
  popping : Option PopCall
  journal : AnswerJournal
  /-- Every `exam_answer_event` payload sent so far. -/
  sentEvents : List Bytes
  /-- Every `exam_answer_ack` payload sent so far. -/
  sentAcks : List Bytes
  /-- Every event that has been in the outbox so far, in each version a rebase gave it. -/
  offered : List AnswerEvent
  /-- Every event that has left the outbox, as it was when it left. -/
  departed : List AnswerEvent

/-- The control thread is in no call. -/
def World.ControlIdle (world : World) : Prop := world.draining = none ∧ world.popping = none

/-- The events of `before` whose place, a sequence of a context, `after` no longer has. -/
def leftBehind (before after : List AnswerEvent) : List AnswerEvent :=
  before.filter fun event => !after.any fun item =>
    sessionKey item == sessionKey event && item.sequence == event.sequence

/-- A step of the client: the observations follow what it did to the outbox. -/
def World.withService (world : World) (service : ClientService) : World :=
  { world with
    service
    offered := world.offered ++ service.outbox.events
    departed := world.departed ++ leftBehind world.service.outbox.events service.outbox.events }

section Steps

variable (sha256 : Bytes → Digest) (secrets : MachineSecrets)

/-- What can happen next. -/
inductive WorldStep (world : World) : World → Prop where
  /-- The browser hands an event to the service. -/
  | browser (calls : OutboxCalls) (payload : Bytes) : WorldStep world
      (world.withService (world.service.queueExamEventPayload sha256 secrets calls payload).1)
  /-- The service turns to the events it could not enqueue before. -/
  | drainBegun : world.ControlIdle → WorldStep world
      { world.withService world.service.beginDrain.1 with
        draining := world.service.beginDrain.2 }
  | drainContinued (calls : OutboxCalls) {call : DrainCall} : world.draining = some call →
      WorldStep world { world.withService (world.service.continueDrain sha256 secrets calls call).1 with
          draining := (world.service.continueDrain sha256 secrets calls call).2 }
  /-- The service is provisioned for another client identity, or for none. -/
  | configured (clientId : Option ClientId) : world.ControlIdle → WorldStep world
      (world.withService (world.service.configureClientId clientId))
  /-- The service looks for an event to send, for the first time or again. -/
  | popBegun (now : ℕ) : world.ControlIdle → WorldStep world
      { world with popping := world.service.beginPop now }
  | popContinued {call : PopCall} : world.popping = some call → WorldStep world
      { world.withService (world.service.continuePop sha256 call).1 with
        popping := (world.service.continuePop sha256 call).2.1
        sentEvents := world.sentEvents ++ (world.service.continuePop sha256 call).2.2.toList }
  /-- The server receives an event. -/
  | received (sawOpen : Bool) (calls : AppendCalls) (connection : ExamConnection)
      {payload : Bytes} : payload ∈ world.sentEvents → WorldStep world
      { world with
        journal := (processExamAnswerEvent sha256 sawOpen calls connection world.journal payload).1
        sentAcks := world.sentAcks ++
          (processExamAnswerEvent sha256 sawOpen calls connection world.journal payload).2.toList }
  /-- The client receives an acknowledgement. -/
  | answered (calls : OutboxCalls) (now : ℕ) {payload : Bytes} : world.ControlIdle →
      payload ∈ world.sentAcks → WorldStep world
        (world.withService (world.service.handleAnswerAck sha256 secrets calls now payload).1)
  /-- The control session ends. -/
  | disconnected : world.ControlIdle →
      WorldStep world (world.withService world.service.clearExamInflight)
  /-- The client service stops and starts again from its file. -/
  | clientRestarted (succeeds : OpenStep → Bool) (calls : OutboxCalls) {outbox : AnswerOutbox} :
      AnswerOutbox.open sha256 secrets succeeds calls (some world.service.outbox.file) = .ok outbox →
      WorldStep world { world.withService (.started outbox) with draining := none, popping := none }
  /-- The server stops and starts again from its file. -/
  | serverRestarted (succeeds : OpenStep → Bool) {journal : AnswerJournal} :
      AnswerJournal.open sha256 succeeds (some world.journal.file) = .ok journal →
      WorldStep world { world with journal }

/-- The worlds that any sequence of steps leads to, from a client and a server without files. -/
inductive WorldReach : World → Prop where
  | start {clientSteps serverSteps : OpenStep → Bool} {calls : OutboxCalls}
      {outbox : AnswerOutbox} {journal : AnswerJournal} :
      AnswerOutbox.open sha256 secrets clientSteps calls none = .ok outbox →
      AnswerJournal.open sha256 serverSteps none = .ok journal →
      WorldReach ⟨.started outbox, none, none, journal, [], [], outbox.events, []⟩
  | step {world next : World} : WorldReach world → WorldStep sha256 secrets world next →
      WorldReach next

end Steps

end Nstu
