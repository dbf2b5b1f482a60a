import Nstu.Telemetry.Outbox.Run

/-!
# Failed calls

A call that fails leaves the outbox as it was, up to the marks of what was seen to expire: the record
that `enqueue` added and the one that `acknowledge` took out go back, with their bytes and loss entries,
and a pass whose payload is not written merges what it had split.

What a cleanup before the call has taken out stays out.  That includes a cleanup which is on file but
whose barrier could not be removed: the call fails with the message of the barrier, and the records are
gone (`cleanup_of_failed_call`).
-/

namespace Nstu.Telemetry.Outbox

open Wire Reader

lemma Marks.refl (outbox : TelemetryOutbox) : Marks outbox outbox :=
  ⟨rfl, rfl, rfl, rfl, rfl, rfl, forall₂_marked_refl _⟩

lemma Marks.retry {a b : TelemetryOutbox} (h : Marks a b) (pending : Bool) :
    Marks a { b with expiryRetryPending := pending } :=
  ⟨h.isOpen, h.revocationPending, h.path, h.losses, h.activeSessionId, h.totalPayloadBytes, h.records⟩

/-- A cleanup at a time that is on file, and has been reported as failed. -/
def Uncleared (platform : Platform) (calls : PruneCalls) (now : UInt64) (before after : Machine) :
    Prop :=
  ∃ marked seed, calls.payload = .written seed ∧ Marks before.outbox marked ∧
    after.outbox = prunedOutbox calls now marked ∧
    after.files.payload = some (protectedPayload platform seed after.outbox)

/-- A cleanup that took out what has expired: it succeeded, or only the barrier is left. -/
def CleansUp (platform : Platform) (calls : PruneCalls) (now : UInt64) (before after : Machine) :
    Prop :=
  (∃ count, pruneExpiredLocked platform calls now false before = (.ok count, after)) ∨
    ∃ message, pruneExpiredLocked platform calls now false before = (.error message, after) ∧
      Uncleared platform calls (max now before.outbox.expiryBarrierMs) before after

section Fail

variable {platform : Platform} {machine after : Machine} {message : String}

variable {now : UInt64}

lemma marks_observed {result : Except String ℕ} {observed : TelemetryOutbox}
    (h : observeExpired now machine.outbox = (result, observed)) : Marks machine.outbox observed := by
  have := @marks_observeExpired now machine.outbox
  rwa [h] at this

variable {calls : PruneCalls} {count : ℕ}

lemma unremoved {marked : Machine} (hm : Marks machine.outbox marked.outbox)
    (h : RemoveExit platform calls now count marked (.error message, after)) :
    Marks machine.outbox after.outbox ∨ Uncleared platform calls now machine after := by
  cases h with
  | kept message => exact .inl hm
  | uncleared seed hp hq message hd =>
    refine .inr ⟨marked.outbox, seed, hp, hm, rfl, ?_⟩
    have hpa : (prunedOutbox calls now marked.outbox).path = marked.outbox.path := rfl
    rw [hd, files_changeFiles hpa]

/-- **A pass that fails has only set marks**, or is on file. -/
lemma unpruned {calls : PruneCalls} {now : UInt64} {force : Bool}
    (h : pruneExpiredLocked platform calls now force machine = (.error message, after)) :
    Marks machine.outbox after.outbox ∨
      Uncleared platform calls (max now machine.outbox.expiryBarrierMs) machine after := by
  have he := @pruneExpiredLocked_exit platform calls now force machine
  rw [h] at he
  cases he with
  | overflowed ho => exact .inl (.refl _)
  | unobserved hob | barred hob hl hp => exact .inl (marks_observed hob)
  | unsealed hob => exact .inl ((marks_observed hob).retry true)
  | forced hob hl hp hf he =>
    exact unremoved (marks_observed hob) he
  | removed hob hs he =>
    exact unremoved (hs.marks ((marks_observed hob).retry true)) he

variable {batch : TelemetryBatch}

/-- A refusal changes nothing. -/
lemma AdmitExit.unchanged {calls : EnqueueCalls}
    (h : AdmitExit platform calls batch machine (.error message, after)) : after = machine := by
  cases h
  rfl

variable {ack : TelemetryAck} {result : TelemetryAckApplyResult}

lemma AckExit.unchanged {calls : AckCalls} (h : AckExit platform calls now ack machine ((result, message), after))
    (hr : result = .storageFailed ∨ result = .ignoredMismatch) : after = machine := by
  cases h with
  | ignored => rfl
  | failed message => rfl
  | scheduled ho hre hd => rcases hr with hr | hr <;> cases hr
  | settled ho hre ha hs hl hd =>
    simp only [settledResult] at hr
    split at hr
    · rcases hr with hr | hr <;> cases hr
    · rcases hr with hr | hr <;> cases hr

/-- What a call leaves that has failed at its own part, after a cleanup or without one. -/
def LeavesMarks (platform : Platform) (calls : PruneCalls) (now : UInt64) (before after : Machine) :
    Prop :=
  Marks before.outbox after.outbox ∨
    ∃ cleaned, CleansUp platform calls now before cleaned ∧ Marks cleaned.outbox after.outbox

lemma leavesMarks_unpruned (h : pruneExpiredLocked platform calls now false machine = (.error message, after)) :
    LeavesMarks platform calls now machine after := by
  rcases unpruned h with hm | hu
  · exact .inl hm
  · exact .inr ⟨after, .inr ⟨message, h, hu⟩, .refl _⟩

lemma leavesMarks_pruned (h : pruneExpiredLocked platform calls now false machine = (.ok count, after)) :
    LeavesMarks platform calls now machine after :=
  .inr ⟨after, .inl ⟨count, h⟩, .refl _⟩

lemma leavesMarks_enqueue {calls : EnqueueCalls} (h : enqueue platform calls batch machine = (.error message, after)) :
    LeavesMarks platform calls.prune calls.start machine after := by
  have he := @enqueue_exit platform calls batch machine
  rw [h] at he
  cases he with
  | refused message => exact .inl (.refl _)
  | unpruned ho hv hp hpr => exact leavesMarks_unpruned hpr
  | admitted ho hv he =>
    rw [he.unchanged]
    exact .inl (.refl _)
  | pruned ho hv hp hpr he =>
    rw [he.unchanged]
    exact leavesMarks_pruned hpr

lemma leavesMarks_acknowledge {calls : AckCalls}
    (h : acknowledge platform calls ack now machine = ((result, message), after))
    (hr : result = .storageFailed ∨ result = .ignoredMismatch) :
    LeavesMarks platform calls.prune (if now = 0 then calls.start else now) machine after := by
  have he := @acknowledge_exit platform calls now ack machine
  rw [h] at he
  cases he with
  | closed => exact .inl (.refl _)
  | unpruned ho hp hpr => exact leavesMarks_unpruned hpr
  | answered ho he =>
    rw [he.unchanged hr]
    exact .inl (.refl _)
  | pruned ho hp hpr he =>
    rw [he.unchanged hr]
    exact leavesMarks_pruned hpr

end Fail

/-- **Failed calls change nothing**, on any outbox, reachable or not.  An `enqueue` that fails and an
`acknowledge` that fails or ignores its answer leave records, losses, byte counter and session as they
were before the call, or as the cleanup in front of it left them; and so does a pass, whose payload was
not written, for what it found.  Only marks are set. -/
theorem failed_calls_change_nothing (platform : Platform) (machine : Machine) :
    (∀ calls batch message after, enqueue platform calls batch machine = (.error message, after) →
      LeavesMarks platform calls.prune calls.start machine after) ∧
    (∀ calls ack now result message after, acknowledge platform calls ack now machine = ((result, message), after) →
      result = .storageFailed ∨ result = .ignoredMismatch →
      LeavesMarks platform calls.prune (if now = 0 then calls.start else now) machine after) ∧
    ∀ calls now force message after, pruneExpiredLocked platform calls now force machine = (.error message, after) →
      (Marks machine.outbox after.outbox ∨
        Uncleared platform calls (max now machine.outbox.expiryBarrierMs) machine after) ∧
      ∀ failure, calls.payload = .failed failure → Marks machine.outbox after.outbox := by
  refine ⟨?_, ?_, ?_⟩
  · intro calls batch message after h
    exact leavesMarks_enqueue h
  · intro calls ack now result message after h hresult
    exact leavesMarks_acknowledge h hresult
  · intro calls now force message after h
    refine ⟨unpruned h, ?_⟩
    intro failure hfailed
    rcases unpruned h with hmarks | ⟨marked, seed, hwritten, -⟩
    · exact hmarks
    · rw [hfailed] at hwritten
      cases hwritten

/-- A batch whose cleanup could not be written, after thirty days. -/
def markedOps : List OutboxOp :=
  probeOps ++ [.pruneExpired 2592002000 ⟨2592002000, { smoothPrune 2592002000 with payload := .failed "disk full" }⟩]

/-- Every call succeeds but the removal of the barrier. -/
def stuckEnqueue : EnqueueCalls :=
  { smoothEnqueue 2592002000 with prune := { smoothPrune 2592002000 with barrierRemoved := false } }

/-- A failed `enqueue` has taken out the expired batch, and its cleanup has not succeeded. -/
theorem cleanup_of_failed_call :
    let machine := outboxRun plainPlatform markedOps
    machine.outbox.isOpen = true ∧ ∃ message after,
        enqueue plainPlatform stuckEnqueue (probeBatch 2 2592002000) machine = (.error message, after) ∧
        ¬Marks machine.outbox after.outbox ∧
        ∀ count cleaned, pruneExpiredLocked plainPlatform stuckEnqueue.prune stuckEnqueue.start false
          machine ≠ (.ok count, cleaned) := by
  have hprune : (pruneExpiredLocked plainPlatform stuckEnqueue.prune stuckEnqueue.start false
      (outboxRun plainPlatform markedOps)).1.toOption = none := by decide +kernel
  have hfails : (enqueue plainPlatform stuckEnqueue (probeBatch 2 2592002000)
      (outboxRun plainPlatform markedOps)).1.toOption = none := by decide +kernel
  have hgone : (enqueue plainPlatform stuckEnqueue (probeBatch 2 2592002000)
      (outboxRun plainPlatform markedOps)).2.outbox.records.length = 0 := by decide +kernel
  have hone : (outboxRun plainPlatform markedOps).outbox.records.length = 1 := by decide +kernel
  refine ⟨by decide +kernel, ?_⟩
  generalize enqueue plainPlatform stuckEnqueue (probeBatch 2 2592002000)
    (outboxRun plainPlatform markedOps) = outcome at hfails hgone
  obtain ⟨result, after⟩ := outcome
  cases result with
  | ok value => cases hfails
  | error message =>
    refine ⟨message, after, rfl, ?_, ?_⟩
    · intro hmarks
      have hlength := hmarks.records.length_eq
      rw [hone, hgone] at hlength
      cases hlength
    · intro count cleaned hok
      rw [hok] at hprune
      cases hprune

end Nstu.Telemetry.Outbox
