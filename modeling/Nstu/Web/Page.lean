import Nstu.Web.Chunks
import Nstu.Web.Load

/-!
# The answer bridge of the exam page

The state of the page that takes part in sending answers, and the functions of `exam/web/app.js`
that change it: `flushAnswerBridge` numbers drafts and sends the first pending event,
`handleAnswerAck` retires it, `applyStateResponse` brings the page in line with a state of the
server.

Each function takes, as a record of its own, what the browser answers to its calls: whether a write
to storage succeeds, whether a message is posted, the time.  The texts on the display, the timers,
the telemetry and the answers shown are left out.
-/

namespace Nstu.Web

open Wire Text

structure PageState where
  durable : Durable
  inFlightSequence : ℕ
  inFlightEventHashHex : Utf16
  inFlightContextKey : Utf16
  awaitingStateReconcile : Bool
  recoveryConflict : Bool
  finalizeRequested : Bool
  serverFinalized : Bool
  stateChunks : Option StateChunks

def PageState.clearInFlight (state : PageState) : PageState :=
  { state with inFlightSequence := 0, inFlightEventHashHex := [], inFlightContextKey := [] }

def PageState.beginStateReconcile (state : PageState) : PageState :=
  { state with awaitingStateReconcile := true }

/-! ## Quarantine -/

/-- The largest sequence of the pending events. -/
def maxPendingSequence (pending : List PageEvent) : ℕ :=
  pending.foldl (fun maximum event => max maximum event.sequence) 0

/-- The drafts of the current context; a draft without context joins it. -/
def currentDrafts (currentKey : Utf16) (drafts : List (Utf16 × Draft)) : List (Utf16 × Draft) :=
  (drafts.filter fun entry =>
    entry.2.contextKey.isEmpty || entry.2.contextKey == currentKey).map fun entry =>
      (entry.1, { entry.2 with contextKey := currentKey })

/-- The durable state without what belongs to another context.  Cursors are scoped to one context,
so a new one starts without. -/
def Durable.quarantined (page : ExamPage) (durable : Durable) : Durable :=
  let pending := durable.pending.filter (eventMatchesContext page)
  let drafts := currentDrafts page.contextKey durable.drafts
  if durable.contextKey == page.contextKey then { durable with pending, drafts }
  else
    let maximum := maxPendingSequence pending
    { nextSequence := max page.context.nextSequence
        (if maximum < maxSafeInteger then maximum + 1 else maxSafeInteger)
      previousEventHashHex := []
      serverHighestSequence := 0
      serverLastEventHashHex := []
      serverStateHashHex := []
      serverFinalized := false
      contextKey := page.contextKey
      pending, drafts
      finalizeRequested := false }

/-- Something was put into quarantine. -/
def Durable.mismatched (page : ExamPage) (durable : Durable) : Bool :=
  durable.pending.any (fun event => !eventMatchesContext page event) ||
    durable.drafts.any (fun entry =>
      !entry.2.contextKey.isEmpty && entry.2.contextKey != page.contextKey) ||
    durable.contextKey != page.contextKey

/-- Puts back what a quarantine has kept before it changed it: the durable state and the two marks of
the finalization, but not what had been in flight. -/
def PageState.restoreDurable (state before : PageState) : PageState :=
  { state with
    durable := { state.durable with
      pending := before.durable.pending
      drafts := before.durable.drafts
      contextKey := before.durable.contextKey
      previousEventHashHex := before.durable.previousEventHashHex
      nextSequence := before.durable.nextSequence
      serverHighestSequence := before.durable.serverHighestSequence
      serverLastEventHashHex := before.durable.serverLastEventHashHex
      serverStateHashHex := before.durable.serverStateHashHex
      serverFinalized := before.durable.serverFinalized
      finalizeRequested := before.durable.finalizeRequested }
    finalizeRequested := before.finalizeRequested
    serverFinalized := before.serverFinalized }

/-- `quarantineMismatchedDurableEntries()`.  The flag is false where the source returns `null`, which
it does when the write has failed and the durable state is put back. -/
def quarantineMismatchedDurableEntries (page : ExamPage) (stored : Bool) (state : PageState) : PageState × Bool :=
  if !page.bridgeReady then (state, true)
  else
    let before := state
    let state :=
      if before.durable.contextKey == page.contextKey then
        { before with durable := before.durable.quarantined page }
      else { before.clearInFlight with
        durable := before.durable.quarantined page
        awaitingStateReconcile := false, recoveryConflict := false, stateChunks := none }
    if before.durable.mismatched page && !stored then (state.restoreDurable before, false)
    else
      ({ state with
        finalizeRequested := state.durable.finalizeRequested
        serverFinalized := state.durable.serverFinalized }, true)

/-- **A quarantine that cannot be written leaves the durable state as it was.** -/
lemma quarantineMismatchedDurableEntries_eq (page : ExamPage) (stored : Bool) (state : PageState) :
    quarantineMismatchedDurableEntries page stored state =
      if !page.bridgeReady then (state, true)
      else
        let settled :=
          if state.durable.contextKey == page.contextKey then state
          else { state.clearInFlight with
            awaitingStateReconcile := false, recoveryConflict := false, stateChunks := none }
        if state.durable.mismatched page && !stored then (settled, false)
        else
          let durable := state.durable.quarantined page
          ({ settled with
            durable
            finalizeRequested := durable.finalizeRequested
            serverFinalized := durable.serverFinalized }, true) := by
  simp only [quarantineMismatchedDurableEntries]
  split
  · rfl
  split <;> split <;> rfl

/-! ## Sending -/

section Bridge

variable (sha256 : Bytes → Digest) (page : ExamPage)

/-- An event of the current context that waits for its number, its time and its hash. -/
def newEvent (durable : Durable) (now : ℕ) (questionId : Utf16) (questionRevision : ℕ)
    (kind : PageKind) (answer : Utf16) : Option PageEvent :=
  let event : PageEvent := {
    packageId := page.manifestId
    packageDigestHex := page.context.packageDigestHex
    clientIdHex := page.context.clientIdHex
    sessionIdHex := page.context.sessionIdHex
    candidateId := page.context.candidateId
    questionId, questionRevision
    sequence := durable.nextSequence
    clientTimeUnixMilliseconds := now
    kind, answer
    eventHashHex := []
    previousEventHashHex := durable.previousEventHashHex }
  let digest := eventHashHex sha256 event
  if digest.isEmpty then none else some { event with eventHashHex := digest }

def durableEventForDraft (durable : Durable) (now : ℕ) (id : Utf16) (draft : Draft) :
    Option PageEvent :=
  match page.questionById id with
  | none => none
  | some item =>
    let encodedAnswer := answerText draft.value
    if !page.bridgeReady || (!draft.contextKey.isEmpty && draft.contextKey != page.contextKey) ||
        utf8ByteLength encodedAnswer > MAX_ANSWER_BYTES || durable.nextSequence == 0 ||
        durable.nextSequence ≥ maxSafeInteger ||
        durable.pending.any (fun event => event.sequence == durable.nextSequence) then none
    else newEvent sha256 page durable now item.id item.revision
      (if answerIsEmpty draft.value then .clear else .upsert) encodedAnswer

/-- What the browser answers to one pass of `flushAnswerBridge`. -/
structure FlushCalls where
  webView : Bool
  now : ℕ
  quarantineStored : Bool
  rehashStored : Bool
  /-- `boundedJsonSize(durable) <= MAX_DURABLE_BYTES`. -/
  durableFits : Bool
  queueStored : Bool
  posted : Bool

/-- The key of an object that is an array index comes before the others, in the order of the
numbers. -/
def arrayIndex (key : Utf16) : Option ℕ :=
  (decimalValue (key.map UInt16.toNat)).filter fun index =>
    index < 2 ^ 32 - 1 && (decimal index).map UInt16.ofNat == key

/-- `drafts[id] = draft` where there is no draft of this id. -/
def addDraft (id : Utf16) (draft : Draft) (drafts : List (Utf16 × Draft)) : List (Utf16 × Draft) :=
  match arrayIndex id with
  | none => drafts ++ [(id, draft)]
  | some index =>
    let before := drafts.takeWhile fun entry => (arrayIndex entry.1).any (· < index)
    before ++ (id, draft) :: drafts.drop before.length

/-- The first pending event, with the predecessor the page has for it. -/
def rebaseHead (durable : Durable) (event : PageEvent) : PageEvent :=
  if event.sequence > 1 && eventMatchesContext page event &&
      event.previousEventHashHex != durable.previousEventHashHex then
    withPredecessor sha256 durable.previousEventHashHex event
  else if event.sequence == 1 && !event.previousEventHashHex.isEmpty then
    withPredecessor sha256 [] event
  else event

/-- `flushAnswerBridge()` where an event is pending. -/
def sendPending (calls : FlushCalls) (state : PageState) (event : PageEvent) (rest : List PageEvent) : PageState :=
  if state.inFlightSequence == event.sequence then state
  else if event.sequence > 1 && state.durable.previousEventHashHex.isEmpty then state
  else
    let rebased := rebaseHead sha256 page state.durable event
    let state := { state with durable := { state.durable with pending := rebased :: rest } }
    if rebased != event && (rebased.eventHashHex.isEmpty || !calls.rehashStored) then state
    else if !calls.posted then state
    else { state with
      inFlightSequence := rebased.sequence
      inFlightEventHashHex :=
        if rebased.eventHashHex.isEmpty then eventHashHex sha256 rebased else rebased.eventHashHex
      inFlightContextKey := page.contextKey }

/-- `durable.pending.push(event); durable.nextSequence += 1`. -/
def Durable.pushEvent (durable : Durable) (event : PageEvent) : Durable :=
  { durable with pending := durable.pending ++ [event], nextSequence := durable.nextSequence + 1 }

/-- `durable.pending.pop(); durable.nextSequence -= 1`. -/
def Durable.popEvent (durable : Durable) : Durable :=
  { durable with pending := durable.pending.dropLast, nextSequence := durable.nextSequence - 1 }

@[simp] lemma popEvent_pushEvent (durable : Durable) (event : PageEvent) :
    (durable.pushEvent event).popEvent = durable := by
  simp [Durable.pushEvent, Durable.popEvent]

/-- The event is queued; with the flag false it could not be kept, and is popped again. -/
def queueEvent (calls : FlushCalls) (durable : Durable) (event : PageEvent) : Durable × Bool :=
  let queued := durable.pushEvent event
  if queued.pending.length > MAX_DURABLE_EVENTS || !calls.durableFits || !calls.queueStored then
    (queued.popEvent, false)
  else (queued, true)

/-- The durable state with the event queued; `none` where it cannot be kept. -/
def queuedEvent (calls : FlushCalls) (durable : Durable) (event : PageEvent) : Option Durable :=
  if durable.pending.length + 1 > MAX_DURABLE_EVENTS || !calls.durableFits || !calls.queueStored then
    none
  else some { durable with
    pending := durable.pending ++ [event], nextSequence := durable.nextSequence + 1 }

/-- **An event that cannot be kept leaves the queue as it was.** -/
lemma queueEvent_eq (calls : FlushCalls) (durable : Durable) (event : PageEvent) :
    queueEvent calls durable event =
      match queuedEvent calls durable event with
      | none => (durable, false)
      | some queued => (queued, true) := by
  have hlength : (durable.pushEvent event).pending.length = durable.pending.length + 1 :=
    List.length_append
  simp only [queueEvent, queuedEvent, popEvent_pushEvent, hlength]
  split <;> rfl

/-- One pass of `flushAnswerBridge()`, with the call it ends in where it has queued an event. -/
def flushPass (calls : FlushCalls) (again : PageState → PageState) (state : PageState) :
    PageState :=
  if !page.bridgeReady || !calls.webView then state
  else
    let (state, valid) := quarantineMismatchedDurableEntries page calls.quarantineStored state
    let durable := state.durable
    if !valid then state
    else if state.serverFinalized || durable.serverFinalized then { state with serverFinalized := true }
    else if state.recoveryConflict || state.awaitingStateReconcile then state
    else match durable.pending with
    | event :: rest => sendPending sha256 page calls state event rest
    | [] =>
      if durable.nextSequence > 1 && durable.previousEventHashHex.isEmpty then state
      else match durable.drafts with
      | (id, draft) :: drafts =>
        match durableEventForDraft sha256 page durable calls.now id draft with
        | none => state
        | some event =>
          if boundedJsonSize event.json > MAX_DURABLE_BYTES then state
          else match queueEvent calls { durable with drafts } event with
          | (durable, false) =>
            { state with durable := { durable with drafts := addDraft id draft durable.drafts } }
          | (durable, true) => again { state with durable }
      | [] =>
        if !durable.finalizeRequested || durable.nextSequence ≥ maxSafeInteger then state
        else match newEvent sha256 page durable calls.now [] 1 .finalize [] with
        | none => state
        | some event =>
          let queued := { durable with finalizeRequested := false }.pushEvent event
          if !calls.queueStored then
            { state with durable := { queued.popEvent with finalizeRequested := true } }
          else again { state with durable := queued }

/-- The pass with what a failed write leaves behind: the queue as it was, the draft at its place among
the keys, and the finalization still requested. -/
lemma flushPass_eq (calls : FlushCalls) (again : PageState → PageState) (state : PageState) :
    flushPass sha256 page calls again state =
      if !page.bridgeReady || !calls.webView then state
      else
        let (state, valid) := quarantineMismatchedDurableEntries page calls.quarantineStored state
        let durable := state.durable
        if !valid then state
        else if state.serverFinalized || durable.serverFinalized then { state with serverFinalized := true }
        else if state.recoveryConflict || state.awaitingStateReconcile then state
        else match durable.pending with
        | event :: rest => sendPending sha256 page calls state event rest
        | [] =>
          if durable.nextSequence > 1 && durable.previousEventHashHex.isEmpty then state
          else match durable.drafts with
          | (id, draft) :: drafts =>
            match durableEventForDraft sha256 page durable calls.now id draft with
            | none => state
            | some event =>
              if boundedJsonSize event.json > MAX_DURABLE_BYTES then state
              else match queuedEvent calls { durable with drafts } event with
              | none => { state with durable := { durable with drafts := addDraft id draft drafts } }
              | some durable => again { state with durable }
          | [] =>
            if !durable.finalizeRequested || durable.nextSequence ≥ maxSafeInteger then state
            else match newEvent sha256 page durable calls.now [] 1 .finalize [] with
            | none => state
            | some event =>
              if !calls.queueStored then state
              else again { state with durable := { durable with
                finalizeRequested := false
                pending := durable.pending ++ [event]
                nextSequence := durable.nextSequence + 1 } } := by
  simp only [flushPass, queueEvent_eq, popEvent_pushEvent]
  generalize quarantineMismatchedDurableEntries page calls.quarantineStored state = settled
  obtain ⟨⟨durable, number, hash, key, awaiting, conflict, requested, finalized, chunks⟩, valid⟩ := settled
  iterate 4
    split
    · rfl
  cases hp : durable.pending with
  | cons event rest => rfl
  | nil =>
    dsimp only
    split
    · rfl
    cases hd : durable.drafts with
    | cons entry drafts =>
      dsimp only
      cases durableEventForDraft sha256 page durable calls.now entry.1 entry.2 with
      | none => rfl
      | some event =>
        dsimp only
        split
        · rfl
        cases queuedEvent calls { durable with pending := [], drafts } event <;> rfl
    | nil =>
      dsimp only
      split
      · rfl
      rename_i hopen
      cases newEvent sha256 page durable calls.now [] 1 .finalize [] with
      | none => rfl
      | some event =>
        dsimp only
        split
        · have hrequested : durable.finalizeRequested = true := by
            cases hr : durable.finalizeRequested with
            | true => rfl
            | false => exact absurd (by simp [hr]) hopen
          simp only [← hp, ← hd, ← hrequested]
        · rfl

/-- `flushAnswerBridge()`.  The second pass finds an event pending, so there is no third. -/
def flushAnswerBridge (calls : FlushCalls × FlushCalls) (state : PageState) : PageState :=
  flushPass sha256 page calls.1 (flushPass sha256 page calls.2 id) state

/-! ## Acknowledgements -/

inductive AckStatus where
  | accepted
  | duplicate
  | rejected
  | conflict
  | gap
  | unavailable
  deriving DecidableEq

structure AckMessage where
  status : AckStatus
  sessionIdHex : Utf16
  sequence : ℕ
  highestContiguousSequence : ℕ
  eventHashHex : Utf16
  stateHashHex : Utf16

/-- What the browser answers to one call of `handleAnswerAck`. -/
structure AckCalls where
  stored : Bool
  flush : FlushCalls × FlushCalls

/-- The recorded watermark, where it is a safe integer. -/
def Durable.knownHighest (durable : Durable) : ℕ :=
  if durable.serverHighestSequence ≤ maxSafeInteger then durable.serverHighestSequence else 0

def cursorMismatch (durable : Durable) (highest sequence : ℕ) (eventHash stateHash : Utf16) : Bool :=
  let knownHighest := durable.knownHighest
  let knownLastHash := normalizeNonZeroHex durable.serverLastEventHashHex 32
  let knownStateHash := normalizeNonZeroHex durable.serverStateHashHex 32
  highest ≤ maxSafeInteger && (highest < knownHighest ||
      (highest == sequence && !knownLastHash.isEmpty && eventHash != knownLastHash) ||
      (highest == knownHighest && !knownStateHash.isEmpty && stateHash != knownStateHash))

/-- The state with the first pending event acknowledged; the watermark moves only to its sequence. -/
def retireHead (state : PageState) (event : PageEvent) (rest : List PageEvent) (highest : ℕ)
    (eventHash stateHash : Utf16) : PageState :=
  let durable := { state.durable with pending := rest, previousEventHashHex := eventHash }
  let moved := highest == event.sequence
  let durable :=
    if moved then { durable with
      serverHighestSequence := event.sequence
      serverLastEventHashHex := eventHash
      serverStateHashHex := stateHash }
    else durable
  let cleared := { state.clearInFlight with
    durable, awaitingStateReconcile := false, recoveryConflict := false }
  if event.kind == .finalize && moved then
    { cleared with
      durable := { durable with finalizeRequested := false, serverFinalized := true }
      finalizeRequested := false
      serverFinalized := true }
  else cleared

/-- The acknowledged event goes back to the front, and the fields a retirement changes are put back;
what had been in flight is not. -/
def PageState.restoreHead (state before : PageState) (acknowledged : PageEvent) : PageState :=
  { state.clearInFlight with
    durable := { state.durable with
      pending := acknowledged :: state.durable.pending
      previousEventHashHex := before.durable.previousEventHashHex
      serverHighestSequence := before.durable.serverHighestSequence
      serverLastEventHashHex := before.durable.serverLastEventHashHex
      serverStateHashHex := before.durable.serverStateHashHex
      serverFinalized := before.durable.serverFinalized
      finalizeRequested := before.durable.finalizeRequested }
    serverFinalized := before.serverFinalized
    finalizeRequested := before.finalizeRequested
    awaitingStateReconcile := before.awaitingStateReconcile
    recoveryConflict := before.recoveryConflict }

/-- **A retirement that is taken back keeps the event pending**, with the hash the server has
confirmed. -/
lemma restoreHead_retireHead (state : PageState) (event acknowledged : PageEvent)
    (rest : List PageEvent) (highest : ℕ) (eventHash stateHash : Utf16) :
    (retireHead state event rest highest eventHash stateHash).restoreHead state acknowledged =
      { state.clearInFlight with durable := { state.durable with pending := acknowledged :: rest } } := by
  simp only [retireHead]
  cases highest == event.sequence <;> cases event.kind == .finalize <;> rfl

/-- `handleAnswerAck`.  The event is retired before the write; where that fails, `restoreHead` takes
the retirement back. -/
def handleAnswerAck (calls : AckCalls) (state : PageState) (ack : AckMessage) : PageState :=
  match state.durable.pending with
  | [] => state
  | event :: rest =>
    let ackSessionId := normalizeNonZeroHex ack.sessionIdHex 16
    let eventHash := normalizeNonZeroHex ack.eventHashHex 32
    let pendingEventHash := localHash sha256 event
    let inFlightMatches := state.inFlightSequence == ack.sequence &&
      state.inFlightContextKey == page.contextKey && !pendingEventHash.isEmpty &&
      state.inFlightEventHashHex == pendingEventHash
    if !isSafePositive ack.sequence || event.sequence != ack.sequence ||
        !eventMatchesContext page event || ackSessionId.isEmpty ||
        ackSessionId != event.sessionIdHex then state
    else if (ack.status != .unavailable &&
          (eventHash.isEmpty || pendingEventHash.isEmpty || eventHash != pendingEventHash)) ||
        (ack.status == .unavailable && eventHash.isEmpty && !inFlightMatches) ||
        (!eventHash.isEmpty && !pendingEventHash.isEmpty && eventHash != pendingEventHash) then
      state
    else if ack.status == .accepted || ack.status == .duplicate then
      let highest := ack.highestContiguousSequence
      let stateHash := normalizeNonZeroHex ack.stateHashHex 32
      let mismatch := cursorMismatch state.durable highest ack.sequence eventHash stateHash
      if eventHash.isEmpty || stateHash.isEmpty || highest > maxSafeInteger || highest < ack.sequence || mismatch then
        if mismatch then state.clearInFlight.beginStateReconcile else state.clearInFlight
      else
        -- the hash the server has confirmed stays with the event
        let acknowledged := { event with eventHashHex := eventHash }
        let retired := retireHead state acknowledged rest highest eventHash stateHash
        if !calls.stored then retired.restoreHead state acknowledged
        else if highest > ack.sequence then retired.beginStateReconcile
        else flushAnswerBridge sha256 page calls.flush retired
    else if ack.status == .gap || ack.status == .conflict then
      state.clearInFlight.beginStateReconcile
    else state.clearInFlight

/-- The hash of an event that is retired is not looked at. -/
@[simp] lemma retireHead_hash (state : PageState) (event : PageEvent) (rest : List PageEvent) (highest : ℕ)
    (hash eventHash stateHash : Utf16) :
    retireHead state { event with eventHashHex := hash } rest highest eventHash stateHash =
      retireHead state event rest highest eventHash stateHash :=
  rfl

/-! ## State responses -/

/-- What the browser answers to one call of `applyStateResponse`. -/
structure StateCalls where
  now : ℕ
  repairStored : Bool
  quarantineStored : Bool
  finalizeStored : Bool
  flush : FlushCalls × FlushCalls

/-- Why a complete state may not be taken over. -/
structure Refusal where
  lowerWatermark : Bool
  sameWatermarkConflict : Bool
  finalizedRegression : Bool
  zeroCursorConflict : Bool

/-- The conditions `applyStateResponse` refuses a state for. -/
def refusal (durable : Durable) (highest : ℕ) (lastHash stateHash : Utf16) (finalized : Bool) :
    Refusal :=
  let knownHighest := durable.knownHighest
  let knownLastHash := normalizeNonZeroHex durable.serverLastEventHashHex 32
  let knownStateHash := normalizeNonZeroHex durable.serverStateHashHex 32
  let untrackedPreviousHash := !durable.previousEventHashHex.isEmpty && knownLastHash.isEmpty &&
    knownHighest == 0
  { lowerWatermark := highest ≤ maxSafeInteger && highest < knownHighest
    sameWatermarkConflict := highest ≤ maxSafeInteger && highest == knownHighest && highest > 0 &&
      ((lastHash.isEmpty || (!knownLastHash.isEmpty && lastHash != knownLastHash)) ||
        (!knownStateHash.isEmpty && (stateHash.isEmpty || stateHash != knownStateHash)))
    finalizedRegression := durable.serverFinalized && !finalized
    zeroCursorConflict := highest == 0 && untrackedPreviousHash }

/-- The part of `applyStateResponse` for a finalized state, after the repair. -/
def finalizeState (calls : StateCalls) (state : PageState) (highest : ℕ) : PageState :=
  let state := (quarantineMismatchedDurableEntries page calls.quarantineStored state).1
  let pendingBeyondFinal := state.durable.pending.any fun event =>
    eventMatchesContext page event && event.sequence > highest
  if pendingBeyondFinal || !state.durable.drafts.isEmpty then { state with recoveryConflict := true }
  else
    let finalized := { state with
      durable := { state.durable with finalizeRequested := false, serverFinalized := true }
      finalizeRequested := false
      serverFinalized := true }
    if !calls.finalizeStored then
      { finalized with
        durable := { finalized.durable with
          finalizeRequested := state.durable.finalizeRequested
          serverFinalized := state.durable.serverFinalized }
        finalizeRequested := state.finalizeRequested
        serverFinalized := state.serverFinalized
        recoveryConflict := true }
    else finalized

/-- A finalization that cannot be written leaves the page as it was, for a teacher to look at. -/
lemma finalizeState_eq (calls : StateCalls) (state : PageState) (highest : ℕ) :
    finalizeState page calls state highest =
      let state := (quarantineMismatchedDurableEntries page calls.quarantineStored state).1
      let pendingBeyondFinal := state.durable.pending.any fun event =>
        eventMatchesContext page event && event.sequence > highest
      if pendingBeyondFinal || !state.durable.drafts.isEmpty || !calls.finalizeStored then
        { state with recoveryConflict := true }
      else { state with
        durable := { state.durable with finalizeRequested := false, serverFinalized := true }
        finalizeRequested := false
        serverFinalized := true } := by
  simp only [finalizeState, Bool.or_eq_true]
  generalize (quarantineMismatchedDurableEntries page calls.quarantineStored state).1 = settled
  by_cases hleft : (settled.durable.pending.any fun event =>
      eventMatchesContext page event && event.sequence > highest) = true ∨
      (!settled.durable.drafts.isEmpty) = true
  · rw [if_pos hleft, if_pos (.inl hleft)]
  · rw [if_neg hleft]
    by_cases hw : (!calls.finalizeStored) = true
    · rw [if_pos hw, if_pos (.inr hw)]
    · rw [if_neg hw, if_neg (not_or.mpr ⟨hleft, hw⟩)]

/-- `applyStateResponse` once the state is complete. -/
def applyCompleteState (calls : StateCalls) (state : PageState) (complete : CompleteState) :
    PageState :=
  if (!complete.packageId.isEmpty && (complete.packageId != page.manifestId ||
        complete.packageId != page.context.packageId)) ||
      (!complete.sessionIdHex.isEmpty && complete.sessionIdHex != page.context.sessionIdHex) then
    state
  else
    let highest := complete.highestContiguousSequence
    let lastHash := normalizeNonZeroHex complete.lastEventHashHex 32
    let stateHash := normalizeNonZeroHex complete.stateHashHex 32
    let refused := refusal state.durable highest lastHash stateHash complete.finalized
    if highest > maxSafeInteger || refused.lowerWatermark || refused.zeroCursorConflict ||
        refused.sameWatermarkConflict || refused.finalizedRegression then
      if state.awaitingStateReconcile && (refused.sameWatermarkConflict ||
          refused.finalizedRegression || refused.zeroCursorConflict || highest > maxSafeInteger) then
        { state with recoveryConflict := true }
      else state
    else
      match repairPendingChain sha256 page calls.repairStored state.durable lastHash highest
        complete.answers stateHash with
      | (_, false) => { state with recoveryConflict := true }
      | (durable, true) =>
        let state := { state.clearInFlight with
          durable, awaitingStateReconcile := false, recoveryConflict := false }
        if complete.finalized then finalizeState page calls state highest
        else if state.serverFinalized then state
        else flushAnswerBridge sha256 page calls.flush state

def applyStateResponse (calls : StateCalls) (state : PageState) (response : StateMessage) :
    PageState :=
  let (stateChunks, complete) := collectStateChunk page calls.now state.stateChunks response
  let state := { state with stateChunks }
  match complete with
  | none => state
  | some complete => applyCompleteState sha256 page calls state complete

end Bridge

end Nstu.Web
