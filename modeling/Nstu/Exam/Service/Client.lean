import Nstu.Exam.AckCodec
import Nstu.Exam.Outbox.Def

/-!
# The client service

The part of `client/service/main.cpp` that moves exam answers: events come in from the browser
(`queue_exam_event_payload`, `drain_exam_ingress`), go out to the server (`pop_outbound_message`)
and are retired by its acknowledgements (the `exam_answer_ack` case of `handle_server_command`).

`g_exam_inflight` keeps at most one event per exam context on its way, and `g_exam_retry_after` says
when an event may be sent again.  Times are nanoseconds of the steady clock.

Two threads meet here.  The thread of the agent's pipe calls `queue_exam_event_payload`, the control
thread everything else.  `drain_exam_ingress` and `pop_outbound_message` work on copies and take the
locks anew for each event, so the browser may enqueue or rebase in between; they are cut there into a
beginning and a continuation, with their local variables in `DrainCall` and `PopCall`.  The other
functions are one step each: what they do after giving up a lock commutes with the steps of the
other thread, up to the order of the ingress queue.
-/

namespace Nstu

open Wire

def kMaximumQueuedExamIngress : ℕ := 64
def kExamTransientRetryDelay : ℕ := 2 * 10 ^ 9
def kExamRejectedRetryDelay : ℕ := 30 * 10 ^ 9
def kExamAckTimeout : ℕ := 5 * 10 ^ 9

/-! ## In-flight keys -/

section Keys

variable (sha256 : Bytes → Digest)

/-- `exam_inflight_key`: session, sequence and hash at fixed places, then the context. -/
def examInflightKey (event : AnswerEvent) : Bytes :=
  [event.sessionId.toList, le event.sequence,
    match hashAnswerEvent sha256 event with
    | some eventHash => eventHash.toList
    | none => List.replicate 32 0,
    event.packageId, [0], event.packageDigest.toList, event.clientId.toList,
    event.candidateId].flatten

end Keys

/-- `append_text` of `exam_context_key`. -/
def lengthPrefixed (value : Bytes) : Bytes := le (UInt32.ofNat value.length) ++ value

def examContextKey (event : AnswerEvent) : Bytes :=
  [lengthPrefixed event.packageId, event.packageDigest.toList, event.clientId.toList,
    event.sessionId.toList, lengthPrefixed event.candidateId].flatten

def inflightMatchesBoundary (key : Bytes) (sessionId : SessionId) (sequence : UInt64) : Bool :=
  if key.length < 16 + 8 then false
  else key.take 16 == sessionId.toList && (key.drop 16).take 8 == le sequence

def inflightMatchesAck (key : Bytes) (sessionId : SessionId) (sequence : UInt64) (eventHash : Bytes) : Bool :=
  if key.length < 16 + 8 + 32 then false
  else if !inflightMatchesBoundary key sessionId sequence || eventHash.length != 32 then false
  else (key.drop (16 + 8)).take 32 == eventHash

/-! ## The service -/

structure ClientService where
  /-- `configured_client_id()`. -/
  clientId : Option ClientId
  /-- `g_exam_outbox_ready`. -/
  outboxReady : Bool
  outbox : AnswerOutbox
  /-- `g_exam_ingress_queue`, oldest first. -/
  ingress : List AnswerEvent
  /-- `g_exam_inflight`: in-flight key to context key. -/
  inflight : OrderedMap Bytes Bytes
  /-- `g_exam_retry_after`: in-flight key to the time of the next send. -/
  retryAfter : OrderedMap Bytes ℕ

/-- The local variables of a running `drain_exam_ingress`. -/
structure DrainCall where
  clientId : ClientId
  batch : List AnswerEvent
  retry : List AnswerEvent

/-- The local variables of a running `pop_outbound_message`. -/
structure PopCall where
  now : ℕ
  pending : List AnswerEvent
  deriving DecidableEq

namespace ClientService

variable (sha256 : Bytes → Digest) (secrets : MachineSecrets) (service : ClientService)

/-- The service right after its outbox was opened. -/
def started (outbox : AnswerOutbox) : ClientService := ⟨none, true, outbox, [], ∅, ∅⟩

/-- `clear_exam_inflight()`, at the end of every control session. -/
def clearExamInflight : ClientService := { service with inflight := ∅, retryAfter := ∅ }

/-- `set_configured_client_id` and, for `none`, `clear_configured_client_id`.  In-flight records are
scoped to the identity. -/
def configureClientId (clientId : Option ClientId) : ClientService :=
  if service.clientId = clientId then service
  else { service.clearExamInflight with clientId, ingress := [] }

/-! ## Events from the browser -/

/-- A bounded queue that drops its oldest event. -/
def pushIngress (event : AnswerEvent) : ClientService :=
  { service with
    ingress := (if service.ingress.length ≥ kMaximumQueuedExamIngress then service.ingress.tail
      else service.ingress) ++ [event] }

/-- `enqueue` on an outbox that may not be ready. -/
def enqueueIf (ready : Bool) (calls : OutboxCalls) (event : AnswerEvent) : OutboxResult :=
  if ready then service.outbox.enqueue sha256 secrets calls event else service.outbox.refuse ""

def queueExamEventPayload (calls : OutboxCalls) (payload : Bytes) : ClientService × Bool :=
  match decodeAnswerEvent payload with
  | .error _ => (service, false)
  | .ok event =>
    if service.clientId.any (event.clientId != ·) then (service, false)
    else
      let result := service.enqueueIf sha256 secrets
        (service.outboxReady && service.clientId.isSome) calls event
      if result.ok then ({ service with outbox := result.outbox }, true)
      else ({ service with outbox := result.outbox }.pushIngress event, false)

/-- `drain_exam_ingress()` begins: the queue is swapped with an empty one. -/
def beginDrain : ClientService × Option DrainCall :=
  match service.clientId with
  | none => (service, none)
  | some clientId =>
    if service.ingress.isEmpty then (service, none)
    else ({ service with ingress := [] }, some ⟨clientId, service.ingress, []⟩)

/-- `drain_exam_ingress()` works off one event, which is dropped after an identity change, enqueued
or kept for later; behind the last one it puts back what it kept. -/
def continueDrain (calls : OutboxCalls) (call : DrainCall) : ClientService × Option DrainCall :=
  match call.batch with
  | [] => (call.retry.foldl pushIngress service, none)
  | event :: batch =>
    if event.clientId != call.clientId then (service, some { call with batch })
    else
      let result := service.enqueueIf sha256 secrets service.outboxReady calls event
      ({ service with outbox := result.outbox },
        some { call with batch, retry := if result.ok then call.retry else call.retry ++ [event] })

/-! ## Events to the server -/

/-- The scan of `g_exam_inflight` for one context: expired guards are released, and the first one
that is not expired stops the scan.  The result says whether the context is still guarded. -/
def releaseExpired (now : ℕ) (contextKey : Bytes) : ClientService → List (Bytes × Bytes) → ClientService × Bool
  | service, [] => (service, false)
  | service, (key, context) :: rest =>
    if context != contextKey then releaseExpired now contextKey service rest
    else if (service.retryAfter[key]?).any (· ≤ now) then
      releaseExpired now contextKey { service with
          retryAfter := service.retryAfter.erase key
          inflight := service.inflight.erase key } rest
    else (service, true)

/-- Mark an event as sent and encode it. -/
def sendEvent (now : ℕ) (event : AnswerEvent) : ClientService × Option Bytes :=
  let key := examInflightKey sha256 event
  if service.inflight.contains key then (service, none)
  else
    let marked : ClientService :=
      { service with
        inflight := service.inflight.insert key (examContextKey event)
        retryAfter := service.retryAfter.insert key (now + kExamAckTimeout) }
    let payload := encodeAnswerEvent event
    if payload.isEmpty then ({ marked with inflight := marked.inflight.erase key }, none)
    else (marked, some payload)

/-- `pop_outbound_message` for one pending event. -/
def offerEvent (now : ℕ) (event : AnswerEvent) : ClientService × Option Bytes :=
  let released := releaseExpired now (examContextKey event) service service.inflight.toList
  let service := released.1
  let key := examInflightKey sha256 event
  if released.2 then (service, none)
  else match service.retryAfter[key]? with
  | none => service.sendEvent sha256 now event
  | some retryAt =>
    if retryAt > now then (service, none)
    else { service with retryAfter := service.retryAfter.erase key }.sendEvent sha256 now event

/-- The `exam_answer_event` part of `pop_outbound_message()` begins: the pending events are
copied. -/
def beginPop (now : ℕ) : Option PopCall :=
  match service.clientId with
  | none => none
  | some clientId =>
    if !service.outboxReady then none
    else some ⟨now, service.outbox.pendingForClient clientId 8⟩

/-- `pop_outbound_message()` looks at the next event of its copy.  The first one that may be sent is
the message and ends the call. -/
def continuePop (call : PopCall) : ClientService × Option PopCall × Option Bytes :=
  match call.pending with
  | [] => (service, none, none)
  | event :: pending =>
    let offered := service.offerEvent sha256 call.now event
    match offered.2 with
    | some payload => (offered.1, none, some payload)
    | none => (offered.1, some { call with pending }, none)

/-! ## Acknowledgements -/

def examRetryDelay (status : AnswerAckStatus) : ℕ :=
  if status == .rejected || status == .conflict then kExamRejectedRetryDelay
  else kExamTransientRetryDelay

def durableAck (ack : AnswerAck) : Bool := ack.status == .accepted || ack.status == .duplicate

/-- What the outbox makes of an acknowledgement. -/
def acknowledgeReady (calls : OutboxCalls) (ack : AnswerAck) : OutboxResult :=
  if durableAck ack && service.outboxReady then
    service.outbox.acknowledge sha256 secrets calls ack.sessionId ack.sequence ack.eventHash.toList
  else service.outbox.refuse ""

/-- `matching_keys`: the in-flight events an acknowledgement names. -/
def matchingInflight (ack : AnswerAck) : List Bytes :=
  (service.inflight.toList.map Prod.fst).filter fun key =>
    inflightMatchesAck key ack.sessionId ack.sequence ack.eventHash.toList

/-- `boundary_keys`: the in-flight events with the session and sequence of an acknowledgement. -/
def boundaryInflight (ack : AnswerAck) : List Bytes :=
  (service.inflight.toList.map Prod.fst).filter fun key =>
    inflightMatchesBoundary key ack.sessionId ack.sequence

/-- The in-flight and retry maps after an acknowledgement. -/
def settleInflight (now : ℕ) (ack : AnswerAck) (acknowledged : Bool) : ClientService :=
  let matching := service.matchingInflight ack
  if matching.isEmpty then
    match service.boundaryInflight ack with
    | [key] => { service with
        retryAfter := service.retryAfter.insert key (now + examRetryDelay ack.status) }
    | _ => service
  else
    { service with
      inflight := matching.foldl (fun inflight key => inflight.erase key) service.inflight
      retryAfter :=
        if acknowledged then
          matching.foldl (fun retryAfter key => retryAfter.erase key) service.retryAfter
        else
          matching.foldl (fun retryAfter key => retryAfter.insert key
            (now + if durableAck ack then kExamRejectedRetryDelay else examRetryDelay ack.status))
            service.retryAfter }

/-- The `exam_answer_ack` case of `handle_server_command`, with the message that is forwarded to the
browser. -/
def handleAnswerAck (calls : OutboxCalls) (now : ℕ) (payload : Bytes) : ClientService × Option Bytes :=
  match decodeAnswerAck payload with
  | none => (service, none)
  | some ack =>
    let result := service.acknowledgeReady sha256 secrets calls ack
    let settled := { service with outbox := result.outbox }.settleInflight now ack result.ok
    if (service.matchingInflight ack).isEmpty || (durableAck ack && !result.ok) then
      (settled, none)
    else (settled, some payload)

end ClientService

end Nstu
