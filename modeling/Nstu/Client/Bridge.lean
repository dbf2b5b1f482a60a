import Nstu.Telemetry.Messages
import Mathlib.Data.List.Induction

/-!
# The exam bridge

`exam_bridge.cpp`: how what the service sends about an exam reaches the user interface of the agent.
Responses wait in a queue, commands in another, and the latest telemetry enable in a slot of its own.

Every function of the class takes one lock, so that the calls of all threads come one after the
other; an `Event` is one such call.  The commands are numbered as they are published, and an enable
is kept with the number that was the last one then.
-/

namespace Nstu.Client

open Wire Telemetry List

structure AgentMessageType where
  raw : UInt16
  deriving DecidableEq

namespace AgentMessageType

def examAnswerAck : AgentMessageType := ⟨21⟩
def examStateResponse : AgentMessageType := ⟨22⟩
def examStart : AgentMessageType := ⟨23⟩
def examStop : AgentMessageType := ⟨24⟩
def examBegin : AgentMessageType := ⟨34⟩
def examTelemetryEnable : AgentMessageType := ⟨36⟩

end AgentMessageType

structure AgentMessage where
  type : AgentMessageType
  payload : Bytes
  deriving DecidableEq

def kMaximumAgentPayloadBytes : ℕ := kMaxCommandPayload
def kMaximumExamBridgeMessages : ℕ := kMaximumStateChunks
def kMaximumExamBridgeCommands : ℕ := 4

structure QueuedExamCommand where
  message : AgentMessage
  publication : UInt64
  deriving DecidableEq

def QueuedExamCommand.IsStart (command : QueuedExamCommand) : Prop := command.message.type = .examStart

def QueuedExamCommand.IsStop (command : QueuedExamCommand) : Prop := command.message.type = .examStop

structure ExamBridge where
  messages : List AgentMessage := []
  latestTelemetryEnable : Option AgentMessage := none
  examCommands : List QueuedExamCommand := []
  commandPublication : UInt64 := 0
  enablePublication : UInt64 := 0
  deriving DecidableEq

/-- `std::numeric_limits<std::uint64_t>::max()`. -/
def maximumPublication : UInt64 := 0xffffffffffffffff

namespace ExamBridge

/-! ## Responses -/

def publishTelemetryEnable (bridge : ExamBridge) (message : AgentMessage) : ExamBridge × Bool :=
  if message.type ≠ .examTelemetryEnable ∨ message.payload.length > kMaximumAgentPayloadBytes then
    (bridge, false)
  else if bridge.commandPublication = maximumPublication then (bridge, false)
  else
    ({ bridge with
        latestTelemetryEnable := some message
        enablePublication := bridge.commandPublication }, true)

def publish (bridge : ExamBridge) (message : AgentMessage) : ExamBridge × Bool :=
  if message.type = .examTelemetryEnable then bridge.publishTelemetryEnable message
  else if (message.type ≠ .examAnswerAck ∧ message.type ≠ .examStateResponse ∧
      message.type ≠ .examBegin) ∨ message.payload.length > kMaximumAgentPayloadBytes then
    (bridge, false)
  else
    let messages :=
      if bridge.messages.length ≥ kMaximumExamBridgeMessages then bridge.messages.tail
      else bridge.messages
    ({ bridge with messages := messages ++ [message] }, true)

def tryPop (bridge : ExamBridge) : ExamBridge × Option AgentMessage :=
  match bridge.messages with
  | [] => (bridge, none)
  | message :: messages => ({ bridge with messages }, some message)

def clearResponses (bridge : ExamBridge) : ExamBridge := { bridge with messages := [] }

def clear (bridge : ExamBridge) : ExamBridge :=
  { bridge with messages := [], latestTelemetryEnable := none }

/-! ## Telemetry enable -/

def tryPopTelemetryEnable (bridge : ExamBridge) : ExamBridge × Option AgentMessage :=
  ({ bridge with latestTelemetryEnable := none }, bridge.latestTelemetryEnable)

/-- `try_pop_telemetry_enable`. -/
def tryPopTelemetryEnableFor (bridge : ExamBridge) (commandPublication : UInt64) : ExamBridge × Option AgentMessage :=
  if bridge.latestTelemetryEnable = none ∨ bridge.enablePublication > commandPublication then
    (bridge, none)
  else if bridge.enablePublication < commandPublication then
    ({ bridge with latestTelemetryEnable := none }, none)
  else ({ bridge with latestTelemetryEnable := none }, bridge.latestTelemetryEnable)

/-- The enable is for the exam that is about to start. -/
def matchesContext (message : AgentMessage) (context : StateRequest) : Bool :=
  match decodeTelemetryEnable message.payload with
  | .error _ => false
  | .ok enable =>
    enable.packageId = context.packageId && enable.packageDigest = context.packageDigest &&
      enable.clientId = context.clientId && enable.sessionId = context.sessionId &&
      enable.candidateId = context.candidateId

def prepareForStart (bridge : ExamBridge) (context : StateRequest) (commandPublication : UInt64) :
    ExamBridge :=
  let bridge := { bridge with messages := [] }
  match bridge.latestTelemetryEnable with
  | none => bridge
  | some message =>
    if bridge.enablePublication ≤ commandPublication then
      if bridge.enablePublication < commandPublication ∨ !matchesContext message context then
        { bridge with latestTelemetryEnable := none }
      else bridge
    else bridge

def clearThroughPublication (bridge : ExamBridge) (commandPublication : UInt64) : ExamBridge :=
  let bridge := { bridge with messages := [] }
  if bridge.latestTelemetryEnable.isSome ∧ bridge.enablePublication ≤ commandPublication then
    { bridge with latestTelemetryEnable := none }
  else bridge

/-! ## Commands -/

def publishExamCommand (bridge : ExamBridge) (message : AgentMessage) : ExamBridge × Bool :=
  if (message.type ≠ .examStart ∧ message.type ≠ .examStop) ∨
      message.payload.length > kMaximumAgentPayloadBytes then (bridge, false)
  else if bridge.commandPublication = maximumPublication then
    ({ bridge with latestTelemetryEnable := none, examCommands := [] }, false)
  else
    let publication := bridge.commandPublication + 1
    let commands :=
      if message.type = .examStop then []
      else bridge.examCommands.filter fun command => command.message.type ≠ .examStart
    let commands := if commands.length ≥ kMaximumExamBridgeCommands then commands.tail else commands
    ({ bridge with
        commandPublication := publication
        latestTelemetryEnable := none
        examCommands := commands ++ [⟨message, publication⟩] }, true)

def tryPopExamCommand (bridge : ExamBridge) : ExamBridge × Option QueuedExamCommand :=
  match bridge.examCommands with
  | [] => (bridge, none)
  | command :: examCommands => ({ bridge with examCommands }, some command)

def clearExamCommands (bridge : ExamBridge) : ExamBridge := { bridge with examCommands := [] }

/-! ## Runs -/

/-- A call. -/
inductive Event where
  | publish (message : AgentMessage)
  | tryPop
  | clearResponses
  | clear
  | publishTelemetryEnable (message : AgentMessage)
  | tryPopTelemetryEnable
  | tryPopTelemetryEnableFor (commandPublication : UInt64)
  | prepareForStart (context : StateRequest) (commandPublication : UInt64)
  | clearThroughPublication (commandPublication : UInt64)
  | publishExamCommand (message : AgentMessage)
  | tryPopExamCommand
  | clearExamCommands

/-- What a call returns. -/
inductive Outcome where
  | accepted (value : Bool)
  | message (value : Option AgentMessage)
  | command (value : Option QueuedExamCommand)
  | done

/-- One call, and what it returns. -/
def step (bridge : ExamBridge) : Event → ExamBridge × Outcome
  | .publish message => (bridge.publish message).map id .accepted
  | .tryPop => bridge.tryPop.map id .message
  | .clearResponses => (bridge.clearResponses, .done)
  | .clear => (bridge.clear, .done)
  | .publishTelemetryEnable message => (bridge.publishTelemetryEnable message).map id .accepted
  | .tryPopTelemetryEnable => bridge.tryPopTelemetryEnable.map id .message
  | .tryPopTelemetryEnableFor publication =>
    (bridge.tryPopTelemetryEnableFor publication).map id .message
  | .prepareForStart context publication =>
    (bridge.prepareForStart context publication, .accepted true)
  | .clearThroughPublication publication => (bridge.clearThroughPublication publication, .done)
  | .publishExamCommand message => (bridge.publishExamCommand message).map id .accepted
  | .tryPopExamCommand => bridge.tryPopExamCommand.map id .command
  | .clearExamCommands => (bridge.clearExamCommands, .done)

/-- The bridge after some calls. -/
def afterEvents (bridge : ExamBridge) (events : List Event) : ExamBridge :=
  events.foldl (fun bridge event => (step bridge event).1) bridge

/-- What a call returns that comes after some others, from the start. -/
def outcomeAfter (events : List Event) (event : Event) : Outcome :=
  (step (afterEvents {} events) event).2

/-! ## The queue -/

/-- The commands that may be pending: none, one, or a stop and a start that came after it. -/
inductive Pending : List QueuedExamCommand → Prop where
  | none : Pending []
  | start {command : QueuedExamCommand} (h : command.IsStart) : Pending [command]
  | stop {command : QueuedExamCommand} (h : command.IsStop) : Pending [command]
  | both {first second : QueuedExamCommand} (hfirst : first.IsStop) (hsecond : second.IsStart)
      (horder : first.publication < second.publication) : Pending [first, second]

/-- The queue is as it may be, and its numbers have been given out. -/
structure Queued (bridge : ExamBridge) : Prop where
  pending : Pending bridge.examCommands
  publication_le : ∀ command ∈ bridge.examCommands, command.publication ≤ bridge.commandPublication

variable {bridge : ExamBridge} {message : AgentMessage} {event : Event}

lemma toNat_next (h : bridge.commandPublication ≠ maximumPublication) :
    (bridge.commandPublication + 1).toNat = bridge.commandPublication.toNat + 1 := by
  have hn : bridge.commandPublication.toNat ≠ 0xffffffffffffffff := by
    intro he
    exact h (UInt64.toNat_inj.mp he)
  have hl := bridge.commandPublication.toNat_lt
  rw [UInt64.toNat_add]
  change (bridge.commandPublication.toNat + 1) % 2 ^ 64 = _
  omega

/-- What becomes of the queue when a command is accepted. -/
def enqueue (commands : List QueuedExamCommand) (command : QueuedExamCommand) : List QueuedExamCommand :=
  (if command.message.type = .examStop then []
    else commands.filter fun command => command.message.type ≠ .examStart) ++ [command]

variable {commands : List QueuedExamCommand}

lemma Pending.length_le (h : Pending commands) : commands.length ≤ 2 := by
  cases h <;> simp

variable {command : QueuedExamCommand}

lemma Pending.enqueue (h : Pending commands) (hkind : command.IsStart ∨ command.IsStop)
    (hlater : ∀ other ∈ commands, other.publication < command.publication) : Pending (enqueue commands command) := by
  have hne : (AgentMessageType.examStop = AgentMessageType.examStart) = False := by decide
  rcases hkind with hstart | hstop
  · have hkind : ¬ command.message.type = .examStop := by
      rw [show command.message.type = .examStart from hstart]
      decide
    rw [ExamBridge.enqueue, if_neg hkind]
    cases h with
    | none => exact .start hstart
    | start h => simpa [show _ = _ from h] using Pending.start hstart
    | stop h =>
      have hpair := Pending.both h hstart (hlater _ mem_cons_self)
      simpa [show _ = _ from h, hne] using hpair
    | both hfirst hseco horder =>
      have hpair := Pending.both hfirst hstart (hlater _ mem_cons_self)
      simpa [show _ = _ from hfirst, show _ = _ from hseco, hne] using hpair
  · rw [ExamBridge.enqueue, if_pos (show command.message.type = .examStop from hstop)]
    exact .stop hstop

lemma Pending.tail (h : Pending (command :: commands)) : Pending commands := by
  cases h with
  | start _ | stop _ => exact .none
  | both _ hs _ => exact .start hs

/-- A command is refused, or queued under the next publication. -/
lemma publishExamCommand_cases (h : Queued bridge) (message : AgentMessage) :
    bridge.publishExamCommand message = (bridge, false) ∨ bridge.commandPublication = maximumPublication ∧
        bridge.publishExamCommand message =
          ({ bridge with latestTelemetryEnable := none, examCommands := [] }, false) ∨
      bridge.commandPublication ≠ maximumPublication ∧ (message.type = .examStart ∨ message.type = .examStop) ∧
        bridge.publishExamCommand message = ({ bridge with
              commandPublication := bridge.commandPublication + 1
              latestTelemetryEnable := none
              examCommands :=
                enqueue bridge.examCommands ⟨message, bridge.commandPublication + 1⟩ }, true) := by
  unfold publishExamCommand
  by_cases hr : (message.type ≠ .examStart ∧ message.type ≠ .examStop) ∨
      message.payload.length > kMaximumAgentPayloadBytes
  · exact .inl (if_pos hr)
  rw [if_neg hr]
  by_cases hf : bridge.commandPublication = maximumPublication
  · exact .inr (.inl ⟨hf, if_pos hf⟩)
  rw [if_neg hf]
  have hk : message.type = .examStart ∨ message.type = .examStop := by tauto
  refine .inr (.inr ⟨hf, hk, ?_⟩)
  have hs : ∀ commands : List QueuedExamCommand, commands.length ≤ 2 →
      (if commands.length ≥ kMaximumExamBridgeCommands then commands.tail else commands) = commands := by
    intro commands hc
    refine if_neg ?_
    simp only [kMaximumExamBridgeCommands]
    omega
  have hfi := (length_filter_le (fun command : QueuedExamCommand =>
    decide (command.message.type ≠ .examStart)) bridge.examCommands).trans h.pending.length_le
  simp only
  rw [hs]
  · rfl
  · split
    · exact Nat.zero_le _
    · exact hfi

/-- The event publishes the message as an enable. -/
def PublishesEnable (event : Event) (message : AgentMessage) : Prop :=
  event = .publishTelemetryEnable message ∨ event = .publish message

/-- **What a call does to the queue.** -/
inductive QueueStep (bridge : ExamBridge) : Event → ExamBridge × Outcome → Prop where
  | enqueued {message : AgentMessage} {bridge' : ExamBridge}
      (hroom : bridge.commandPublication ≠ maximumPublication)
      (hkind : message.type = .examStart ∨ message.type = .examStop)
      (hpublication : bridge'.commandPublication = bridge.commandPublication + 1)
      (hcommands : bridge'.examCommands = enqueue bridge.examCommands ⟨message, bridge.commandPublication + 1⟩) :
      QueueStep bridge (.publishExamCommand message) (bridge', .accepted true)
  | cleared {event : Event} {bridge' : ExamBridge} {outcome : Outcome}
      (hevent : event = .clearExamCommands ∨
        ∃ message, event = .publishExamCommand message ∧ outcome = .accepted false)
      (hpublication : bridge'.commandPublication = bridge.commandPublication)
      (hcommands : bridge'.examCommands = []) : QueueStep bridge event (bridge', outcome)
  | popped {bridge' : ExamBridge} {command : QueuedExamCommand}
      (hpublication : bridge'.commandPublication = bridge.commandPublication)
      (hcommands : bridge.examCommands = command :: bridge'.examCommands) :
      QueueStep bridge .tryPopExamCommand (bridge', .command (some command))
  | kept {event : Event} {bridge' : ExamBridge} {outcome : Outcome}
      (hpublication : bridge'.commandPublication = bridge.commandPublication)
      (hcommands : bridge'.examCommands = bridge.examCommands)
      (hpublish : ∀ message, event = .publishExamCommand message → outcome = .accepted false)
      (hpop : ∀ command, outcome ≠ .command (some command)) : QueueStep bridge event (bridge', outcome)

/-- **What a call does to the enable.** -/
inductive EnableStep (bridge : ExamBridge) : Event → ExamBridge × Outcome → Prop where
  | published {event : Event} {message : AgentMessage} {bridge' : ExamBridge}
      (hevent : PublishesEnable event message)
      (henable : bridge'.latestTelemetryEnable = some message)
      (hpublication : bridge'.enablePublication = bridge.commandPublication) :
      EnableStep bridge event (bridge', .accepted true)
  | dropped {event : Event} {bridge' : ExamBridge} {outcome : Outcome}
      (henable : bridge'.latestTelemetryEnable = none) : EnableStep bridge event (bridge', outcome)
  | kept {event : Event} {bridge' : ExamBridge} {outcome : Outcome}
      (henable : bridge'.latestTelemetryEnable = bridge.latestTelemetryEnable)
      (hpublication : bridge'.enablePublication = bridge.enablePublication) :
      EnableStep bridge event (bridge', outcome)

/-- An enable is refused, or replaces the latest one. -/
lemma publishTelemetryEnable_cases (bridge : ExamBridge) (message : AgentMessage) :
    bridge.publishTelemetryEnable message = (bridge, false) ∨ bridge.publishTelemetryEnable message = ({ bridge with
            latestTelemetryEnable := some message
            enablePublication := bridge.commandPublication }, true) := by
  unfold publishTelemetryEnable
  split
  · exact .inl rfl
  · split
    · exact .inl rfl
    · exact .inr rfl

/-- Starting drops the messages, and at most the latest enable too. -/
lemma prepareForStart_cases (bridge : ExamBridge) (context : StateRequest) (publication : UInt64) :
    bridge.prepareForStart context publication = { bridge with messages := [] } ∨
      bridge.prepareForStart context publication = { bridge with messages := [], latestTelemetryEnable := none } := by
  simp only [prepareForStart]
  split
  · exact .inl rfl
  · split_ifs
    · exact .inr rfl
    · exact .inl rfl
    · exact .inl rfl

lemma clearThroughPublication_cases (bridge : ExamBridge) (publication : UInt64) :
    bridge.clearThroughPublication publication = { bridge with messages := [] } ∨
      bridge.clearThroughPublication publication = { bridge with messages := [], latestTelemetryEnable := none } := by
  simp only [clearThroughPublication]
  split_ifs
  · exact .inr rfl
  · exact .inl rfl

lemma tryPopTelemetryEnableFor_cases (bridge : ExamBridge) (publication : UInt64) :
    bridge.tryPopTelemetryEnableFor publication = (bridge, none) ∨ bridge.tryPopTelemetryEnableFor publication =
        ({ bridge with latestTelemetryEnable := none }, none) ∨
      bridge.enablePublication = publication ∧ bridge.tryPopTelemetryEnableFor publication =
          ({ bridge with latestTelemetryEnable := none }, bridge.latestTelemetryEnable) := by
  unfold tryPopTelemetryEnableFor
  split_ifs with hl he
  · exact .inl rfl
  · exact .inr (.inl rfl)
  · rw [not_or, gt_iff_lt, UInt64.not_lt] at hl
    exact .inr (.inr ⟨UInt64.le_antisymm hl.2 (UInt64.not_lt.mp he), rfl⟩)

/-- A message is an enable, refused, or queued. -/
lemma publish_cases (bridge : ExamBridge) (message : AgentMessage) :
    bridge.publish message = bridge.publishTelemetryEnable message ∨ bridge.publish message = (bridge, false) ∨
      ∃ messages, bridge.publish message = ({ bridge with messages }, true) := by
  unfold publish
  split_ifs
  · exact .inl rfl
  · exact .inr (.inl rfl)
  · exact .inr (.inr ⟨_, rfl⟩)
  · exact .inr (.inr ⟨_, rfl⟩)

lemma tryPop_cases (bridge : ExamBridge) : ∃ messages message, bridge.tryPop = ({ bridge with messages }, message) := by
  unfold tryPop
  split
  · exact ⟨_, _, rfl⟩
  · exact ⟨_, _, rfl⟩

lemma QueueStep.of_same {bridge' : ExamBridge} {outcome : Outcome}
    (hp : bridge'.commandPublication = bridge.commandPublication)
    (hc : bridge'.examCommands = bridge.examCommands) (he : ∀ message, event ≠ .publishExamCommand message)
    (hpo : ∀ command, outcome ≠ .command (some command)) : QueueStep bridge event (bridge', outcome) :=
  .kept hp hc (fun message heq => absurd heq (he message)) hpo

/-- What each event does to the command queue. -/
lemma queueStep (h : Queued bridge) (event : Event) : QueueStep bridge event (step bridge event) := by
  cases event with
  | publish message =>
    rw [step]
    rcases publish_cases bridge message with he | he | ⟨messages, he⟩
    · rcases publishTelemetryEnable_cases bridge message with he' | he' <;> rw [he, he']
      · exact .of_same rfl rfl (by simp) (by simp)
      · exact .of_same rfl rfl (by simp) (by simp)
    · rw [he]
      exact .of_same rfl rfl (by simp) (by simp)
    · rw [he]
      exact .of_same rfl rfl (by simp) (by simp)
  | tryPop =>
    obtain ⟨messages, message, he⟩ := tryPop_cases bridge
    rw [step, he]
    exact .of_same rfl rfl (by simp) (by simp)
  | clearResponses | clear => exact .of_same rfl rfl (by simp) (by simp)
  | publishTelemetryEnable message =>
    rw [step]
    rcases publishTelemetryEnable_cases bridge message with he | he <;> rw [he]
    · exact .of_same rfl rfl (by simp) (by simp)
    · exact .of_same rfl rfl (by simp) (by simp)
  | tryPopTelemetryEnable => exact .of_same rfl rfl (by simp) (by simp)
  | tryPopTelemetryEnableFor publication =>
    rw [step]
    rcases tryPopTelemetryEnableFor_cases bridge publication with he | he | ⟨-, he⟩ <;> rw [he]
    · exact .of_same rfl rfl (by simp) (by simp)
    · exact .of_same rfl rfl (by simp) (by simp)
    · exact .of_same rfl rfl (by simp) (by simp)
  | prepareForStart context publication =>
    rw [step]
    rcases prepareForStart_cases bridge context publication with he | he <;> rw [he]
    · exact .of_same rfl rfl (by simp) (by simp)
    · exact .of_same rfl rfl (by simp) (by simp)
  | clearThroughPublication publication =>
    rw [step]
    rcases clearThroughPublication_cases bridge publication with he | he <;> rw [he]
    · exact .of_same rfl rfl (by simp) (by simp)
    · exact .of_same rfl rfl (by simp) (by simp)
  | publishExamCommand message =>
    rw [step]
    rcases publishExamCommand_cases h message with he | ⟨-, he⟩ | ⟨hr, hk, he⟩ <;> rw [he]
    · exact .kept rfl rfl (by simp) (by simp)
    · exact .cleared (.inr ⟨message, rfl, rfl⟩) rfl rfl
    · exact .enqueued hr hk rfl rfl
  | tryPopExamCommand =>
    rw [step, tryPopExamCommand]
    split
    · exact .of_same rfl rfl (by simp) (by simp)
    · rename_i command commands hc
      exact .popped rfl hc
  | clearExamCommands => exact .cleared (.inl rfl) rfl rfl

/-- What each event does to the telemetry enable. -/
lemma enableStep (h : Queued bridge) (event : Event) : EnableStep bridge event (step bridge event) := by
  cases event with
  | publish message =>
    rw [step]
    rcases publish_cases bridge message with he | he | ⟨messages, he⟩
    · rcases publishTelemetryEnable_cases bridge message with he' | he' <;> rw [he, he']
      · exact .kept rfl rfl
      · exact .published (.inr rfl) rfl rfl
    · rw [he]
      exact .kept rfl rfl
    · rw [he]
      exact .kept rfl rfl
  | tryPop =>
    obtain ⟨messages, message, he⟩ := tryPop_cases bridge
    rw [step, he]
    exact .kept rfl rfl
  | clearResponses => exact .kept rfl rfl
  | clear => exact .dropped rfl
  | publishTelemetryEnable message =>
    rw [step]
    rcases publishTelemetryEnable_cases bridge message with he | he <;> rw [he]
    · exact .kept rfl rfl
    · exact .published (.inl rfl) rfl rfl
  | tryPopTelemetryEnable => exact .dropped rfl
  | tryPopTelemetryEnableFor publication =>
    rw [step]
    rcases tryPopTelemetryEnableFor_cases bridge publication with he | he | ⟨-, he⟩ <;> rw [he]
    · exact .kept rfl rfl
    · exact .dropped rfl
    · exact .dropped rfl
  | prepareForStart context publication =>
    rw [step]
    rcases prepareForStart_cases bridge context publication with he | he <;> rw [he]
    · exact .kept rfl rfl
    · exact .dropped rfl
  | clearThroughPublication publication =>
    rw [step]
    rcases clearThroughPublication_cases bridge publication with he | he <;> rw [he]
    · exact .kept rfl rfl
    · exact .dropped rfl
  | publishExamCommand message =>
    rw [step]
    rcases publishExamCommand_cases h message with he | ⟨-, he⟩ | ⟨-, -, he⟩ <;> rw [he]
    · exact .kept rfl rfl
    · exact .dropped rfl
    · exact .dropped rfl
  | tryPopExamCommand =>
    rw [step, tryPopExamCommand]
    split
    · exact .kept rfl rfl
    · exact .kept rfl rfl
  | clearExamCommands => exact .kept rfl rfl

/-! ## The queue in a run -/

lemma Queued.initial : Queued {} := ⟨.none, by simp⟩

/-- Each event keeps the queue in publication order. -/
lemma Queued.step (h : Queued bridge) (event : Event) : Queued (step bridge event).1 := by
  have hstep := queueStep h event
  generalize ExamBridge.step bridge event = result at hstep ⊢
  cases hstep with
  | enqueued hroom hkind hpubl hcomm =>
    have hnext := toNat_next hroom
    have hlater : ∀ command ∈ bridge.examCommands, command.publication < bridge.commandPublication + 1 := by
      intro command hcomma
      have hle := UInt64.le_iff_toNat_le.mp (h.publication_le command hcomma)
      rw [UInt64.lt_iff_toNat_lt, hnext]
      omega
    refine ⟨?_, ?_⟩
    · rw [hcomm]
      exact h.pending.enqueue hkind hlater
    · intro command hcomma
      rw [hcomm, ExamBridge.enqueue, mem_append, mem_singleton] at hcomma
      rw [hpubl]
      rcases hcomma with hcomma | rfl
      · have hmem : command ∈ bridge.examCommands := by
          split at hcomma
          · cases hcomma
          · exact (mem_filter.mp hcomma).1
        exact UInt64.le_of_lt (hlater command hmem)
      · exact UInt64.le_refl _
  | cleared _ hpubl hcomm => exact ⟨hcomm ▸ .none, by simp [hcomm]⟩
  | popped hpubl hcomm =>
    refine ⟨(hcomm ▸ h.pending).tail, ?_⟩
    intro command hcomma
    rw [hpubl]
    exact h.publication_le command (hcomm ▸ mem_cons_of_mem _ hcomma)
  | kept hpubl hcomm _ _ =>
    refine ⟨hcomm ▸ h.pending, ?_⟩
    rw [hcomm, hpubl]
    exact h.publication_le

lemma Queued.afterEvents (h : Queued bridge) (events : List Event) : Queued (afterEvents bridge events) := by
  induction events generalizing bridge with
  | nil => exact h
  | cons event events ih => exact ih (h.step event)

lemma queued_after (events : List Event) : Queued (afterEvents {} events) :=
  Queued.initial.afterEvents events

lemma afterEvents_append (bridge : ExamBridge) (events events' : List Event) :
    afterEvents bridge (events ++ events') = afterEvents (afterEvents bridge events) events' :=
  foldl_append ..

lemma afterEvents_concat (bridge : ExamBridge) (events : List Event) (event : Event) :
    afterEvents bridge (events ++ [event]) = (step (afterEvents bridge events) event).1 := by
  rw [afterEvents_append]
  rfl

/-- A call by which a stop leaves the queue: it is popped, a later stop takes its place, or the queue
is cleared. -/
def Releases (stop : QueuedExamCommand) (events : List Event) (event : Event) : Prop :=
  event = .tryPopExamCommand ∧ outcomeAfter events event = .command (some stop) ∨
    (∃ later, event = .publishExamCommand later ∧ later.type = .examStop ∧
      outcomeAfter events event = .accepted true) ∨
    (afterEvents {} (events ++ [event])).examCommands = [] ∧ (event = .clearExamCommands ∨
        ∃ later, event = .publishExamCommand later ∧ outcomeAfter events event = .accepted false)

variable {stop : QueuedExamCommand}

lemma head_or_releases (hstop : stop.IsStop) (events : List Event)
    (hhead : (afterEvents {} events).examCommands.head? = some stop) (event : Event) :
    (afterEvents {} (events ++ [event])).examCommands.head? = some stop ∨ Releases stop events event := by
  have hstep := queueStep (queued_after events) event
  rw [Releases, outcomeAfter, afterEvents_concat]
  generalize step (afterEvents {} events) event = result at hstep ⊢
  cases hstep with
  | enqueued hroom hkind hpubl hcomm =>
    rcases hkind with hkind | hkind
    · left
      obtain ⟨rest, hrest⟩ := head?_eq_some_iff.mp hhead
      have hne : (stop.message.type ≠ AgentMessageType.examStart) = True := by
        rw [show stop.message.type = .examStop from hstop]
        decide
      have hnotS : ¬ (AgentMessageType.examStart = AgentMessageType.examStop) := by decide
      simp [hcomm, hrest, ExamBridge.enqueue, hkind, hnotS, hne]
    · exact .inr (.inr (.inl ⟨_, rfl, hkind, rfl⟩))
  | cleared hevent hpubl hcomm => exact .inr (.inr (.inr ⟨hcomm, hevent⟩))
  | popped hpubl hcomm =>
    rw [hcomm, head?_cons] at hhead
    exact .inr (.inl ⟨rfl, by rw [Option.some.inj hhead]⟩)
  | kept hpubl hcomm _ _ =>
    left
    rw [hcomm, hhead]

variable {events : List Event}

lemma head_after_stop (hs : stop.IsStop)
    (hh : (afterEvents {} events).examCommands.head? = some stop) (later : List Event) :
    (afterEvents {} (events ++ later)).examCommands.head? = some stop ∨
      ∃ u event v, later = u ++ event :: v ∧ Releases stop (events ++ u) event := by
  induction later generalizing events with
  | nil => exact .inl (by rwa [append_nil])
  | cons event later ih =>
    rcases head_or_releases hs events hh event with hn | hr
    · rw [append_cons]
      rcases ih hn with hl | ⟨u, event', v, rfl, hr⟩
      · exact .inl hl
      · refine .inr ⟨event :: u, event', v, rfl, ?_⟩
        rwa [append_cons]
    · exact .inr ⟨[], event, later, rfl, by rwa [append_nil]⟩

lemma head_of_publish_stop {message : AgentMessage} (hkind : message.type = .examStop)
    (h : outcomeAfter events (.publishExamCommand message) = .accepted true) :
    (afterEvents {} (events ++ [.publishExamCommand message])).examCommands.head? =
      some ⟨message, (afterEvents {} (events ++ [.publishExamCommand message])).commandPublication⟩ := by
  have hstep := queueStep (queued_after events) (.publishExamCommand message)
  rw [outcomeAfter] at h
  rw [afterEvents_concat]
  generalize step (afterEvents {} events) (.publishExamCommand message) = result at hstep h ⊢
  cases hstep with
  | enqueued hroom hkind' hpubl hcomm =>
    simp [hcomm, hpubl, ExamBridge.enqueue, hkind]
  | cleared hevent _ _ =>
    rcases hevent with hevent | ⟨_, -, houtc⟩
    · cases hevent
    · rw [show _ = _ from houtc] at h
      cases h
  | kept _ _ hpubli _ =>
    rw [show _ = _ from hpubli message rfl] at h
    cases h

lemma pop_eq_head (h : outcomeAfter events .tryPopExamCommand = .command (some command)) :
    (afterEvents {} events).examCommands.head? = some command := by
  rw [outcomeAfter, step, tryPopExamCommand] at h
  split at h
  · cases h
  · rename_i front rest hc
    cases h
    rw [hc, head?_cons]

/-! ## The enable in a run -/

/-- The command that a call publishes, with its number. -/
def publishedBy (bridge : ExamBridge) (event : Event) : List QueuedExamCommand :=
  match event, (step bridge event).2 with
  | .publishExamCommand message, .accepted true =>
    [⟨message, (step bridge event).1.commandPublication⟩]
  | _, _ => []

/-- The commands that are published in a run, in their order. -/
def published (bridge : ExamBridge) : List Event → List QueuedExamCommand
  | [] => []
  | event :: events => publishedBy bridge event ++ published (step bridge event).1 events

lemma publishedBy_cases (h : Queued bridge) (event : Event) : publishedBy bridge event = [] ∧
        (step bridge event).1.commandPublication = bridge.commandPublication ∨
      ∃ message, publishedBy bridge event = [⟨message, (step bridge event).1.commandPublication⟩] ∧
        (step bridge event).1.commandPublication.toNat = bridge.commandPublication.toNat + 1 := by
  have hs := queueStep h event
  unfold publishedBy
  generalize step bridge event = result at hs ⊢
  cases hs with
  | enqueued hr hk hp hc =>
    refine .inr ⟨_, rfl, ?_⟩
    rw [hp]
    exact toNat_next hr
  | cleared he hp hc =>
    refine .inl ⟨?_, hp⟩
    rcases he with rfl | ⟨message, rfl, rfl⟩ <;> rfl
  | popped hp hc => exact .inl ⟨rfl, hp⟩
  | kept hp hc hpu _ =>
    refine .inl ⟨?_, hp⟩
    split
    · rename_i message ho
      rw [show _ = _ from hpu message rfl] at ho
      cases ho
    · rfl

/-- **The commands of a run are numbered from one.** -/
lemma published_numbers (h : Queued bridge) (events : List Event) :
    ((published bridge events).map fun command => command.publication.toNat) =
        range' (bridge.commandPublication.toNat + 1) (published bridge events).length ∧
      (afterEvents bridge events).commandPublication.toNat =
        bridge.commandPublication.toNat + (published bridge events).length := by
  induction events generalizing bridge with
  | nil => exact ⟨rfl, rfl⟩
  | cons event events ih =>
    obtain ⟨hn, hl⟩ := ih (h.step event)
    change _ ∧ (afterEvents (ExamBridge.step bridge event).1 events).commandPublication.toNat = _
    rw [published, hl]
    rcases publishedBy_cases h event with ⟨hno, hs⟩ | ⟨message, ho, hne⟩
    · rw [hno, ← hs]
      exact ⟨hn, rfl⟩
    · rw [ho, singleton_append, map_cons, hn, length_cons, range'_succ, hne]
      exact ⟨rfl, by omega⟩

lemma enable_published (events : List Event) {message : AgentMessage}
    (h : (afterEvents {} events).latestTelemetryEnable = some message) :
    ∃ before event between, events = before ++ event :: between ∧ PublishesEnable event message ∧
      outcomeAfter before event = .accepted true ∧
      (afterEvents {} before).commandPublication = (afterEvents {} events).enablePublication := by
  induction events using reverseRecOn with
  | nil => cases h
  | append_singleton events event ih =>
    have hs := enableStep (queued_after events) event
    rw [afterEvents_concat] at h ⊢
    have hr : step (afterEvents {} events) event =
      ((step (afterEvents {} events) event).1, outcomeAfter events event) := rfl
    rw [hr] at hs
    generalize (step (afterEvents {} events) event).1 = bridge' at hs h ⊢
    generalize ho : outcomeAfter events event = outcome at hs
    cases hs with
    | published he hen hp =>
      rw [h] at hen
      cases hen
      exact ⟨events, event, [], rfl, he, ho, hp.symm⟩
    | dropped hen =>
      rw [h] at hen
      cases hen
    | kept hen hp =>
      rw [hen] at h
      obtain ⟨before, first, between, rfl, he, ha, hn⟩ := ih h
      refine ⟨before, first, between ++ [event], by simp, he, ha, ?_⟩
      rw [hp, hn]

lemma enable_of_pop {publication : UInt64} {message : AgentMessage}
    (h : outcomeAfter events (.tryPopTelemetryEnableFor publication) = .message (some message)) :
    (afterEvents {} events).latestTelemetryEnable = some message ∧
      (afterEvents {} events).enablePublication = publication := by
  rw [outcomeAfter, step] at h
  rcases tryPopTelemetryEnableFor_cases (afterEvents {} events) publication with
    he | he | ⟨hp, he⟩
  · rw [he] at h
    cases h
  · rw [he] at h
    cases h
  · rw [he] at h
    exact ⟨by simpa using h, hp⟩

/-- **The exam command queue.**  After any calls in any order, what is pending is nothing, a start, a
stop, or a stop and a later start; a start is popped after a stop has been published only if the stop
has left the queue before, popped, replaced by a later stop or cleared; and an enable that is popped
for a publication was published when exactly that many commands had been, these being numbered from
one. -/
theorem exam_command_queue : (∀ events, Pending (afterEvents {} events).examCommands) ∧
    (∀ before message between start, message.type = .examStop →
      outcomeAfter before (.publishExamCommand message) = .accepted true →
      outcomeAfter (before ++ .publishExamCommand message :: between) .tryPopExamCommand = .command (some start) →
      start.IsStart → ∃ u event v, between = u ++ event :: v ∧ Releases ⟨message,
            (afterEvents {} (before ++ [.publishExamCommand message])).commandPublication⟩
          (before ++ .publishExamCommand message :: u) event) ∧ (∀ events publication message,
      outcomeAfter events (.tryPopTelemetryEnableFor publication) = .message (some message) →
      ∃ before event between, events = before ++ event :: between ∧ PublishesEnable event message ∧
        outcomeAfter before event = .accepted true ∧ (published {} before).length = publication.toNat) ∧
    (∀ events, ((published {} events).map fun command => command.publication.toNat) =
      List.range' 1 (published {} events).length) := by
  refine ⟨?_, ?_, ?_, ?_⟩
  · intro events
    exact (queued_after events).pending
  · intro before message between start hstop hpublish hpop hstart
    rw [List.append_cons] at hpop
    have hhead := head_of_publish_stop hstop hpublish
    have hqueued : QueuedExamCommand.IsStop ⟨message,
        (afterEvents {} (before ++ [.publishExamCommand message])).commandPublication⟩ := hstop
    rcases head_after_stop hqueued hhead between with hlast | ⟨u, event, v, rfl, hreleases⟩
    · rw [pop_eq_head hpop] at hlast
      cases hlast
      exact absurd (hstart.symm.trans hstop) (by decide)
    · refine ⟨u, event, v, rfl, ?_⟩
      rw [List.append_cons before _ u]
      exact hreleases
  · intro events publication message hpop
    obtain ⟨henable, hpublication⟩ := enable_of_pop hpop
    obtain ⟨before, event, between, hevents, hevent, haccepted, hnumber⟩ :=
      enable_published events henable
    refine ⟨before, event, between, hevents, hevent, haccepted, ?_⟩
    have hlast := (published_numbers Queued.initial before).2
    rw [← hpublication, ← hnumber, hlast]
    exact (Nat.zero_add _).symm
  · intro events
    exact (published_numbers Queued.initial events).1

end ExamBridge

end Nstu.Client
