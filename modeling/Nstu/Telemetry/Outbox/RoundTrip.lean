import Nstu.Telemetry.Outbox.Guarded

/-!
# The outbox comes back from its file

An open outbox whose file is opened in a fresh object, by a process that meets no fault, at a time at
which nothing has expired.  What comes back is what was written: the same batches with the same retry
counts and arrival times, with deadlines of at most a minute, and the entries that count a loss.

A file of more than thirty days is removed before it is read, whatever it holds, and the active session
is lost with it.
-/

namespace Nstu.Telemetry.Outbox

open Wire Reader List
open TelemetryOutbox (new withBarrier)

/-! ## A pass that finds nothing -/

section Quiet

variable {now : UInt64}

/-- Nothing in the outbox has been seen to expire, and nothing has expired at a time. -/
structure Quiet (now : UInt64) (outbox : TelemetryOutbox) : Prop where
  records : ∀ record ∈ outbox.records, record.expiryObserved = false ∧ expiredAt record.since now = false
  losses : ∀ loss ∈ outbox.losses, expiredAt loss.firstRecordedUnixMs now = false
  identities : outbox.expiredBatchIdentities = []
  contexts : outbox.expiredLossContexts = []
  pending : outbox.expiryRetryPending = false
  overflow : outbox.expiryObservationOverflow = false

lemma observeRecords_quiet {records : List OutboxRecord}
    (h : ∀ record ∈ records, record.expiryObserved = false ∧ expiredAt record.since now = false) :
    observeRecords now [] records = ⟨records, [], 0, false⟩ := by
  induction records with
  | nil => rfl
  | cons record rest ih =>
    obtain ⟨hs, hl⟩ := h record mem_cons_self
    have ho : record.observe [] now = record := by
      simp only [OutboxRecord.observe, hs, hl, contains_nil, Bool.or_self]
      rw [← hs]
    rw [observeRecords, ho]
    simp only [hs, Bool.false_eq_true, if_false, ih fun other hot => h other (mem_cons_of_mem _ hot)]
    rfl

lemma observeExpired_quiet {outbox : TelemetryOutbox} (h : Quiet now outbox) :
    observeExpired now outbox = (.ok 0, outbox) := by
  have hr := observeRecords_quiet h.records
  have hl := @observeLosses_quiet now outbox.expiredLossContexts outbox.losses h.losses
  rw [observeExpired, h.identities, hr]
  simp only [Bool.false_eq_true, if_false, hl]
  rw [← h.identities]

lemma removeRecords_quiet {clock : ℕ → UInt64} {records : List OutboxRecord}
    (h : ∀ record ∈ records, record.expiryObserved = false) (index : ℕ) (removal : Removal) :
    (removeRecords now clock index records removal).losses = removal.losses ∧
      (removeRecords now clock index records removal).totalPayloadBytes = removal.totalPayloadBytes := by
  induction records generalizing index removal with
  | nil => exact ⟨rfl, rfl⟩
  | cons record rest ih =>
    rw [removeRecords, if_neg (by rw [h record mem_cons_self]; simp)]
    exact ih (fun other ho => h other (mem_cons_of_mem _ ho)) _ _

lemma lossHasExpired_quiet {outbox : TelemetryOutbox} (h : Quiet now outbox)
    {loss : TelemetryOutboxAggregateLoss} (hl : loss ∈ outbox.losses) : outbox.lossHasExpired now loss = false := by
  rw [TelemetryOutbox.lossHasExpired, h.contexts, h.losses loss hl]
  rfl

lemma prunedOutbox_quiet {calls : PruneCalls} {outbox : TelemetryOutbox} (h : Quiet now outbox) :
    prunedOutbox calls now outbox = outbox := by
  have hs : ∀ record ∈ outbox.records, record.expiryObserved = false :=
    fun record hr => (h.records record hr).1
  have hk : unexpired outbox.records = outbox.records := by
    rw [unexpired, filter_eq_self]
    intro record hr
    rw [hs record hr]
    rfl
  have hl : (outbox.losses.filter fun loss => !outbox.lossHasExpired now loss) =
      outbox.losses := by
    rw [filter_eq_self]
    intro loss hlo
    rw [lossHasExpired_quiet h hlo]
    rfl
  obtain ⟨hre, ht⟩ := @removeRecords_quiet now calls.clock outbox.records hs 0
    ⟨[], [], outbox.losses, outbox.totalPayloadBytes⟩
  rw [prunedOutbox, hk, hl, hre, ht, ← h.identities, ← h.contexts, ← h.pending]

lemma incomingContexts_quiet {outbox : TelemetryOutbox} (h : Quiet now outbox) : incomingContexts now outbox = [] := by
  have ha : ∀ (records : List OutboxRecord), (∀ record ∈ records, record.expiryObserved = false) →
      records.foldl (addIncoming now outbox) [] = [] := by
    intro records
    induction records with
    | nil => exact fun _ => rfl
    | cons record rest ih =>
      intro hr
      rw [foldl_cons, addIncoming, if_pos (hr record mem_cons_self)]
      exact ih fun other ho => hr other (mem_cons_of_mem _ ho)
  exact ha _ fun record hre => (h.records record hre).1

end Quiet

/-! ## Opening without a fault -/

/-- No system call of `open` fails, and the file is younger than what it holds may be. -/
structure OpenCalls.Healthy (calls : OpenCalls) : Prop where
  quarantineCleaned : calls.quarantineCleaned = true
  payloadFound : calls.payloadFound = true
  age : calls.age = some false
  expiryFound : calls.expiryFound = true
  expirySized : calls.expirySized = true
  expiryFault : calls.expiryFault = none
  revokedFound : calls.revokedFound = true
  payloadFoundAgain : calls.payloadFoundAgain = true
  readFault : calls.readFault = none
  decryptFault : calls.decryptFault = none
  payload : ∃ seed, calls.prune.payload = .written seed
  barrierRemoved : calls.prune.barrierRemoved = true

section Healthy

variable {platform : Platform} {calls : OpenCalls} {machine : Machine} {now : UInt64}

variable {prune : PruneCalls}

lemma removeExpired_written {count seed : ℕ}
    (hpayl : prune.payload = .written seed) (hremo : prune.barrierRemoved)
    (hopen : machine.outbox.isOpen)
    (hquota : machine.outbox.losses.length - machine.outbox.losses.countP (machine.outbox.lossHasExpired now) +
      (incomingContexts now machine.outbox).length ≤ kMaximumLossContexts)
    (hsound : Sound (prunedOutbox prune now machine.outbox)) : removeExpired platform prune now count machine =
      (.ok count, Machine.unbarred ⟨prunedOutbox prune now machine.outbox,
        machine.changeFiles fun files => { files with
          payload := some (protectedPayload platform seed (prunedOutbox prune now machine.outbox)) }⟩) := by
  have hbound : (outboxPlaintext (prunedOutbox prune now machine.outbox)).length ≤ 0xffffffff :=
    (length_outboxPlaintext_le hsound).trans (by decide)
  simp only [removeExpired, if_neg (Nat.not_lt.mpr hquota), retained_removeRecords, nil_append]
  split
  · rename_i message herror
    have := herror.symm.trans (persistLocked_written hopen hbound hpayl)
    cases this
  · rename_i disk hok
    have hdisk := Except.ok.inj (hok.symm.trans (persistLocked_written hopen hbound hpayl))
    rw [hdisk]
    simp only [clearExpiryBarrier, hremo, if_true]
    rfl

lemma lossesAny_quiet {outbox : TelemetryOutbox} (h : Quiet now outbox) :
    outbox.losses.any (outbox.lossHasExpired now) = false := by
  rw [any_eq_false]
  intro loss hl
  rw [lossHasExpired_quiet h hl]
  exact Bool.false_ne_true

lemma pruneExpiredLocked_idle (hr : prune.barrierRemoved)
    (hq : Quiet (max now machine.outbox.expiryBarrierMs) machine.outbox) :
    pruneExpiredLocked platform prune now false machine =
      (.ok 0, if machine.outbox.expiryBarrierMs ≠ 0 then machine.unbarred else machine) := by
  rw [pruneExpiredLocked, if_neg (by rw [hq.overflow]; exact Bool.false_ne_true),
    observeExpired_quiet hq]
  simp only [lossesAny_quiet hq, hq.pending, and_self, if_true]
  split
  · simp only [clearExpiryBarrier, hr, if_true]
    rfl
  · rfl

lemma pruneExpiredLocked_forced (hq : Quiet (max now machine.outbox.expiryBarrierMs) machine.outbox) :
    pruneExpiredLocked platform prune now true machine =
      removeExpired platform prune (max now machine.outbox.expiryBarrierMs) 0 machine := by
  have hp : { machine.outbox with expiryRetryPending := false } = machine.outbox := by
    rw [← hq.pending]
  rw [pruneExpiredLocked, if_neg (by rw [hq.overflow]; exact Bool.false_ne_true),
    observeExpired_quiet hq]
  simp only [lossesAny_quiet hq, hq.pending, Bool.true_eq_false, false_and, and_false,
    if_false, bne_self_eq_false, Bool.or_self, Bool.false_eq_true, hp]

lemma pruneExpiredLocked_quiet {force : Bool} (hheal : calls.Healthy)
    (hsound : Sound machine.outbox) (hopen : machine.outbox.isOpen)
    (hpayl : machine.files.payload.isSome)
    (hquiet : Quiet (max now machine.outbox.expiryBarrierMs) machine.outbox) :
    ∃ after, pruneExpiredLocked platform calls.prune now force machine = (.ok 0, after) ∧
      after.outbox = { machine.outbox with expiryBarrierMs := 0 } ∧
      (after.disk machine.outbox.path).payload.isSome := by
  cases force with
  | false =>
    refine ⟨_, pruneExpiredLocked_idle hheal.barrierRemoved hquiet, ?_, ?_⟩
    · split
      · rfl
      · rename_i hzero
        rw [not_not] at hzero
        rw [← hzero]
    · split
      · rw [samePayloads_unbarred]
        exact hpayl
      · exact hpayl
  | true =>
    rw [pruneExpiredLocked_forced hquiet]
    generalize max now machine.outbox.expiryBarrierMs = time at hquiet
    have hprun := @prunedOutbox_quiet time calls.prune machine.outbox hquiet
    obtain ⟨seed, hseed⟩ := hheal.payload
    have hquota : machine.outbox.losses.length - machine.outbox.losses.countP (machine.outbox.lossHasExpired time) +
        (incomingContexts time machine.outbox).length ≤ kMaximumLossContexts := by
      have hle := hsound.losses.length_le
      rw [lossSessions, length_map] at hle
      rw [incomingContexts_quiet hquiet]
      exact (Nat.sub_le _ _).trans hle
    have hprune : Sound (prunedOutbox calls.prune time machine.outbox) := by
      rw [hprun]
      exact hsound
    rw [removeExpired_written hseed hheal.barrierRemoved hopen hquota hprune, hprun]
    refine ⟨_, rfl, rfl, ?_⟩
    rw [samePayloads_unbarred ⟨machine.outbox, _⟩]
    simp only [changeFiles_self]
    rfl

end Healthy

/-! ## What comes back -/

/-- A time that is not before anything the outbox stores, and at which nothing of it has expired. -/
structure Timely (time : UInt64) (outbox : TelemetryOutbox) : Prop where
  arrivals : ∀ record ∈ outbox.records, record.localEnqueuedAtUnixMs ≤ time
  dates : ∀ loss ∈ outbox.losses, loss.firstRecordedUnixMs ≤ time ∧ loss.lastUpdatedUnixMs ≤ time
  barrier : outbox.expiryBarrierMs ≤ time
  records : ∀ record ∈ outbox.records, expiredAt record.since time = false
  losses : ∀ loss ∈ outbox.losses, expiredAt loss.firstRecordedUnixMs time = false

/-- A deadline that is more than a minute ahead becomes one of a minute. -/
def restoredDeadline (time deadline : UInt64) : UInt64 :=
  if time < deadline ∧ 60000 < deadline - time then time + 60000 else deadline

/-- A record of the file in the object that has opened it: nothing is in flight or marked. -/
def restoredRecord (time : UInt64) (record : OutboxRecord) : OutboxRecord :=
  { record with
    nextEligibleRetryTimeMs := restoredDeadline time record.nextEligibleRetryTimeMs
    inFlight := false
    inFlightUntilMs := 0
    expiryObserved := false }

/-- The outcome of an `open` that brings back what a machine had.  The records are those of its file,
which differ from those in memory by flags and by deadlines that were clamped after the last write. -/
structure Restored (platform : Platform) (time : UInt64) (machine : Machine)
    (outcome : Except String Unit × Machine) : Prop where
  succeeded : outcome.1 = .ok ()
  isOpen : outcome.2.outbox.isOpen = true
  records : ∃ written seed, machine.files.payload = some (protectedPayload platform seed written) ∧
    Holds written machine.outbox ∧
    outcome.2.outbox.records = written.records.map (restoredRecord time)
  activeSessionId : outcome.2.outbox.activeSessionId = machine.outbox.activeSessionId
  losses : outcome.2.outbox.losses = machine.outbox.losses.filter fun loss => !loss.isEmpty
  payload : (outcome.2.disk machine.outbox.path).payload.isSome = true

section Stored

variable {time : UInt64} {stored outbox : TelemetryOutbox}

/-- What holds of the records in memory holds of those on file, when flags and deadlines do not
matter. -/
lemma forall_stored {Q : OutboxRecord → Prop} (h : Holds stored outbox)
    (hk : ∀ a b, Kept a b → Q b → Q a) (hr : ∀ record ∈ outbox.records, Q record) :
    ∀ record ∈ stored.records, Q record := by
  have ha := h.records
  generalize stored.records = before at ha
  generalize outbox.records = after at ha hr
  induction ha with
  | nil =>
    intro record hre
    cases hre
  | cons hf _ ih =>
    intro record hre
    rcases mem_cons.mp hre with rfl | hres
    · exact hk _ _ hf (hr _ mem_cons_self)
    · exact ih (fun other ho => hr other (mem_cons_of_mem _ ho)) record hres

lemma Kept.since {a b : OutboxRecord} (h : Kept a b) : b.since = a.since := by
  rw [OutboxRecord.since, h.arrival, h.batch]
  rfl

lemma timely_stored (h : Holds stored outbox) (ht : Timely time outbox) :
    (∀ record ∈ stored.records, record.localEnqueuedAtUnixMs ≤ time) ∧
      ∀ record ∈ stored.records, expiredAt record.since time = false := by
  constructor
  · refine forall_stored h ?_ ht.arrivals
    intro a b hk ha
    rwa [← hk.arrival]
  · refine forall_stored h ?_ ht.records
    intro a b hk hl
    rwa [← hk.since]

lemma reloadRecord_timely {record : OutboxRecord} (h : record.localEnqueuedAtUnixMs ≤ time) :
    (reloadRecord time record).1 = restoredRecord time record := by
  simp only [reloadRecord, clampLoaded, if_neg (UInt64.not_lt.mpr h)]
  rfl

lemma reload_records_timely (h : ∀ record ∈ stored.records, record.localEnqueuedAtUnixMs ≤ time) :
    (reload time stored).records = stored.records.map (restoredRecord time) :=
  map_congr_left fun record hr => reloadRecord_timely (h record hr)

lemma reloadLosses_timely {losses : List TelemetryOutboxAggregateLoss}
    (h : ∀ loss ∈ losses, loss.firstRecordedUnixMs ≤ time ∧ loss.lastUpdatedUnixMs ≤ time) :
    reloadLosses time losses = losses.filter fun loss => !loss.isEmpty := by
  have hm : losses.map (fun loss => (clampLoss time loss).1) = losses.map id := by
    refine map_congr_left ?_
    intro loss hl
    obtain ⟨hf, hla⟩ := h loss hl
    simp only [clampLoss, if_neg (UInt64.not_lt.mpr hf), if_neg (UInt64.not_lt.mpr hla), id]
  rw [reloadLosses, hm, map_id]

lemma quiet_reload {blank : TelemetryOutbox} (h : Holds stored outbox) (htime : Timely time outbox)
    (hiden : blank.expiredBatchIdentities = []) (hcont : blank.expiredLossContexts = [])
    (hpend : blank.expiryRetryPending = false) (hover : blank.expiryObservationOverflow = false) :
    Quiet time (loadedOutbox (reload time stored) blank) := by
  obtain ⟨harri, hlive⟩ := timely_stored h htime
  refine ⟨?_, ?_, hiden, hcont, hpend, hover⟩
  · intro record hreco
    simp only [loadedOutbox, reload_records_timely harri] at hreco
    obtain ⟨before, hbefo, rfl⟩ := mem_map.mp hreco
    exact ⟨rfl, hlive before hbefo⟩
  · intro loss hloss
    simp only [loadedOutbox, reload, ← h.losses, reloadLosses_timely htime.dates] at hloss
    exact htime.losses loss (mem_of_mem_filter hloss)

end Stored

/-! ## The stages of `open` -/

section Stages

variable {platform : Platform} {calls : OpenCalls} {machine : Machine}

lemma expireOldPayload_healthy (h : calls.Healthy) (files : OutboxFiles) :
    expireOldPayload calls files = .ok files := by
  simp only [expireOldPayload, h.payloadFound, h.age, Bool.not_true, Bool.false_eq_true, if_false]
  split <;> rfl

variable {blob : Bytes}

lemma readExpiryBarrier_holdsTime (h : calls.Healthy) {files : OutboxFiles}
    {time : UInt64} (hb : files.expiry = some blob) (hn : time ≠ 0) (hh : HoldsTime platform blob time) :
    readExpiryBarrier platform calls files = .ok (some time) := by
  have hs : blob.length ≤ 4096 := by
    obtain ⟨seed, rfl⟩ := hh
    have := platform.length_protect_le seed outboxEntropy (le time)
    rw [le_length, size_uint64] at this
    omega
  have hr : (readLe : Reader UInt64).run (le time) = some (time, []) :=
    run_readLe_iff.mpr (append_nil _).symm
  simp only [readExpiryBarrier, h.expiryFound, hb, h.expirySized, h.expiryFault,
    unprotect_of_holdsTime hh, hr, Bool.not_true, Bool.false_eq_true, if_false,
    Bool.false_or, decide_eq_true_eq, if_neg (Nat.not_lt.mpr hs), isEmpty_nil,
    Bool.true_and, bne_iff_ne, ne_eq, hn, not_false_eq_true, if_true]

lemma readExpiryBarrier_guarded (h : calls.Healthy) (hg : Guarded platform machine)
    (ho : machine.outbox.isOpen) :
    readExpiryBarrier platform calls machine.files = .ok (if machine.outbox.expiryBarrierMs = 0 then none
        else some machine.outbox.expiryBarrierMs) := by
  by_cases hz : machine.outbox.expiryBarrierMs = 0
  · have hn := (hg.current ho).2.1 hz
    simp only [readExpiryBarrier, h.expiryFound, hn, hz, if_true, Bool.not_true, Bool.false_eq_true, if_false]
  · obtain ⟨blob, hb, hh⟩ := hg.barrier hz
    rw [if_neg hz]
    exact readExpiryBarrier_holdsTime h hb hz hh

/-- The fresh object once it has read the barrier. -/
def barredOutbox (machine : Machine) : TelemetryOutbox :=
  { TelemetryOutbox.new with
    path := machine.outbox.path
    expiryBarrierMs := machine.outbox.expiryBarrierMs }

lemma openBarred_guarded (h : calls.Healthy) (hg : Guarded platform machine)
    (ho : machine.outbox.isOpen) {time : UInt64}
    (hb : machine.outbox.expiryBarrierMs ≤ time) :
    openBarred platform calls time ⟨{ new with path := machine.outbox.path },
        machine.disk⟩ =
      openUnrevoked platform calls time ⟨barredOutbox machine, machine.disk⟩ := by
  have hr := readExpiryBarrier_guarded h hg ho
  have hf : Machine.files ⟨{ new with path := machine.outbox.path },
      machine.disk⟩ = machine.files := rfl
  simp only [openBarred, hf, hr]
  by_cases hz : machine.outbox.expiryBarrierMs = 0
  · simp only [hz, if_true, barredTime, withBarrier, barredOutbox]
    rfl
  · have hm : max time machine.outbox.expiryBarrierMs = time := by
      change (if time ≤ machine.outbox.expiryBarrierMs then _ else _) = _
      split
      · rename_i hl
        exact UInt64.le_antisymm hb hl
      · rfl
    simp only [hz, if_false, barredTime, withBarrier, barredOutbox, Option.isSome_some, if_true]
    change openUnrevoked platform calls (max time (max 0 machine.outbox.expiryBarrierMs)) ⟨{ new with
        path := machine.outbox.path
        expiryBarrierMs := max 0 machine.outbox.expiryBarrierMs }, machine.disk⟩ = _
    rw [max_zero_time, hm]

lemma openUnrevoked_guarded (h : calls.Healthy) (hg : Guarded platform machine)
    (ho : machine.outbox.isOpen) {time : UInt64} (hb : machine.files.payload = some blob) :
    openUnrevoked platform calls time ⟨barredOutbox machine, machine.disk⟩ =
      loadPayload platform calls time blob ⟨barredOutbox machine, machine.disk⟩ := by
  have hf : Machine.files ⟨barredOutbox machine, machine.disk⟩ = machine.files := rfl
  have hr : removeRevoked calls machine.files = (.ok (), machine.files) := by
    simp [removeRevoked, h.revokedFound, (hg.current ho).1]
  have hs : Machine.changeFiles ⟨barredOutbox machine, machine.disk⟩
      (fun _ => machine.files) = machine.disk := Function.update_eq_self _ _
  simp only [openUnrevoked, hf, hr, hs, openPayload, h.payloadFoundAgain, Bool.not_true,
    Bool.false_eq_true, if_false, hb]

lemma openOutbox_guarded (h : calls.Healthy) (hg : Guarded platform machine)
    (ho : machine.outbox.isOpen) {now time : UInt64} (ht : (if now = 0 then calls.start else now) = time)
    (hb : machine.outbox.expiryBarrierMs ≤ time) (hbl : machine.files.payload = some blob) :
    openOutbox platform calls machine.outbox.path now ⟨.new, machine.disk⟩ =
      loadPayload platform calls time blob ⟨barredOutbox machine, machine.disk⟩ := by
  have hp := (hg.current ho).2.2
  have hs : Machine.changeFiles ⟨{ new with path := machine.outbox.path },
      machine.disk⟩ (fun _ => machine.files) = machine.disk := Function.update_eq_self _ _
  rw [← openUnrevoked_guarded h hg ho hbl, ← openBarred_guarded h hg ho hb]
  simp only [openOutbox, ht]
  rw [if_neg (by simp [new]), if_neg (by rw [hp]; exact Bool.false_ne_true),
    if_neg (by simp [new]), if_neg (by simp [h.quarantineCleaned])]
  simp only [openPath, expireOldPayload_healthy h]
  change openBarred platform calls time ⟨{ new with path := machine.outbox.path },
    Machine.changeFiles ⟨{ new with path := machine.outbox.path },
      machine.disk⟩ (fun _ => machine.files)⟩ = _
  rw [hs]

end Stages

/-! ## The round trip -/

section Restored

variable {platform : Platform} {calls : OpenCalls} {machine : Machine} {time : UInt64}
  {stored : TelemetryOutbox}

lemma sound_stored {outbox : TelemetryOutbox} (h : Holds stored outbox) (hs : Sound outbox) : Sound stored := by
  constructor
  · rw [← h.payloads, ← h.activeSessionId, ← h.totalPayloadBytes]
    exact hs.records
  · rw [← h.losses]
    exact hs.losses

lemma arrived_stored (h : Holds stored machine.outbox) (ht : Timely time machine.outbox)
    (ha : ∀ record ∈ machine.outbox.records, record.localEnqueuedAtUnixMs ≠ 0) : Arrived time stored := by
  have hn : ∀ record ∈ stored.records, record.localEnqueuedAtUnixMs ≠ 0 := by
    refine forall_stored h ?_ ha
    intro a b hk hne
    rwa [← hk.arrival]
  intro record hr
  rw [reloadRecord_timely ((timely_stored h ht).1 record hr)]
  exact hn record hr

lemma loadPayload_timely {seed : ℕ} (hcalls : calls.Healthy) (hsound : Sound stored)
    (hholds : Holds stored machine.outbox) (htime : Timely time machine.outbox)
    (hpayl : machine.files.payload = some (protectedPayload platform seed stored))
    (harri : Arrived time stored) (hdated : Dated stored) :
    ∃ after, loadPayload platform calls time (protectedPayload platform seed stored)
        ⟨barredOutbox machine, machine.disk⟩ = (.ok (), after) ∧
      after.outbox = { loadedOutbox (reload time stored) (barredOutbox machine) with
        expiryBarrierMs := 0 } ∧
      (after.disk machine.outbox.path).payload.isSome := by
  have hmax : max time machine.outbox.expiryBarrierMs = time := by
    change (if time ≤ machine.outbox.expiryBarrierMs then _ else _) = _
    split
    · rename_i hle
      exact UInt64.le_antisymm htime.barrier hle
    · rfl
  have hload : Sound (loadedOutbox (reload time stored) (barredOutbox machine)) :=
    (@safe_reload (fun _ => True) stored time ⟨hsound, fun _ _ => trivial⟩ _).sound
  have hquiet : Quiet (max time machine.outbox.expiryBarrierMs)
      (loadedOutbox (reload time stored) (barredOutbox machine)) := by
    rw [hmax]
    exact quiet_reload hholds htime rfl rfl rfl rfl
  have hfile : (Machine.files ⟨loadedOutbox (reload time stored) (barredOutbox machine),
      machine.disk⟩).payload.isSome := by
    change machine.files.payload.isSome
    rw [hpayl]
    rfl
  obtain ⟨after, hprune, hafter, hkept⟩ := @pruneExpiredLocked_quiet platform calls
    ⟨loadedOutbox (reload time stored) (barredOutbox machine), machine.disk⟩ time
    (reload time stored).clamped hcalls hload rfl hfile hquiet
  refine ⟨after, ?_, hafter, hkept⟩
  simp only [loadedOutbox] at hprune
  simp only [loadPayload, decryptPayload_protectedPayload hsound hcalls.readFault
    hcalls.decryptFault, loadOutbox_outboxPlaintext hsound, if_pos harri, if_pos hdated, hprune]

end Restored

/-- **The file of an open outbox is read back.**  After any calls, a fresh object that opens the file
without a fault, at a time that is not before anything stored and at which nothing has expired, has
the records of the file in their order with their retry counts and arrivals, the active session, and
the entries that count a loss.  The file must be younger than thirty days, and the times of what it
holds must not be zero. -/
theorem openOutbox_restores (platform : Platform) (ops : List OutboxOp) (calls : OpenCalls)
    (now : UInt64) (hopen : (outboxRun platform ops).outbox.isOpen = true) (hcalls : calls.Healthy)
    (htimely : Timely (if now = 0 then calls.start else now) (outboxRun platform ops).outbox)
    (harrivals : ∀ record ∈ (outboxRun platform ops).outbox.records, record.localEnqueuedAtUnixMs ≠ 0)
    (hdates : ∀ loss ∈ (outboxRun platform ops).outbox.losses, loss.firstRecordedUnixMs = 0 → loss.isEmpty = true) :
    Restored platform (if now = 0 then calls.start else now) (outboxRun platform ops)
      (openOutbox platform calls (outboxRun platform ops).outbox.path now ⟨.new, (outboxRun platform ops).disk⟩) := by
  have hkempt := @kempt_run platform (fun _ => True) ops fun op _ => enqueues_true op
  have hguarded := guarded_run platform ops
  revert hopen htimely harrivals hdates hkempt hguarded
  generalize outboxRun platform ops = machine
  intro hopen htimely harrivals hdates hkempt hguarded
  obtain ⟨hsafe, stored, seed, hpayload, hholds⟩ := hkempt.current hopen
  have hsound := sound_stored hholds hsafe.sound
  have hdated : Dated stored := by
    intro loss hloss
    rw [← hholds.losses] at hloss
    exact hdates loss hloss
  obtain ⟨after, hload, hafter, hkept⟩ := loadPayload_timely hcalls hsound hholds htimely hpayload
    (arrived_stored hholds htimely harrivals) hdated
  rw [openOutbox_guarded hcalls hguarded hopen rfl htimely.barrier hpayload, hload]
  refine ⟨rfl, ?_, ⟨stored, seed, hpayload, hholds, ?_⟩, ?_, ?_, hkept⟩
  · rw [hafter]
    rfl
  · rw [hafter]
    exact reload_records_timely (timely_stored hholds htimely).1
  · rw [hafter]
    exact hholds.activeSessionId.symm
  · rw [hafter]
    change reloadLosses _ stored.losses = _
    rw [← hholds.losses]
    exact reloadLosses_timely htimely.dates

lemma healthy_smoothOpen (time : UInt64) : (smoothOpen time).Healthy :=
  ⟨rfl, rfl, rfl, rfl, rfl, rfl, rfl, rfl, rfl, rfl, ⟨0, rfl⟩, rfl⟩

/-- A probe batch read back after a reopening. -/
theorem openOutbox_restores_probe : (outboxRun plainPlatform probeOps).outbox.records.length = 1 ∧
      Restored plainPlatform 2000 (outboxRun plainPlatform probeOps)
        (openOutbox plainPlatform (smoothOpen 2000) (outboxRun plainPlatform probeOps).outbox.path 2000
          ⟨.new, (outboxRun plainPlatform probeOps).disk⟩) :=
  ⟨by decide +kernel,
    openOutbox_restores plainPlatform probeOps (smoothOpen 2000) 2000 (by decide +kernel)
      (healthy_smoothOpen 2000)
      ⟨by decide +kernel, by decide +kernel, by decide +kernel, by decide +kernel, by decide +kernel⟩
      (by decide +kernel) (by decide +kernel)⟩

/-- Everything that was sent has been accepted. -/
def idleOps : List OutboxOp :=
  probeOps ++ [.acknowledge (probeAck 1 .accepted) 1500 (smoothAck 1500)]

/-- The clock of the process shows the beginning of its era when a batch comes in. -/
def unsetClockOps : List OutboxOp :=
  [.open "outbox" 1000 (smoothOpen 1000), .enqueue (probeBatch 1 1000) (smoothEnqueue 0)]

/-- The file of an idle outbox is removed after thirty days, and a zero arrival is refused. -/
theorem openOutbox_restores_not_always : ((outboxRun plainPlatform idleOps).outbox.isOpen = true ∧
      Timely 2592002000 (outboxRun plainPlatform idleOps).outbox ∧
      ¬Restored plainPlatform 2592002000 (outboxRun plainPlatform idleOps)
        (openOutbox plainPlatform { smoothOpen 2592002000 with age := some true } "outbox" 2592002000
          ⟨.new, (outboxRun plainPlatform idleOps).disk⟩)) ∧
    (outboxRun plainPlatform unsetClockOps).outbox.isOpen = true ∧
      Timely 2000 (outboxRun plainPlatform unsetClockOps).outbox ∧
      ¬Restored plainPlatform 2000 (outboxRun plainPlatform unsetClockOps)
        (openOutbox plainPlatform (smoothOpen 2000) "outbox" 2000
          ⟨.new, (outboxRun plainPlatform unsetClockOps).disk⟩) := by
  refine ⟨⟨by decide +kernel, ⟨?_, ?_, ?_, ?_, ?_⟩, ?_⟩, by decide +kernel, ⟨?_, ?_, ?_, ?_, ?_⟩, ?_⟩
  case refine_6 =>
    intro h
    have hsession := h.activeSessionId
    revert hsession
    decide +kernel
  case refine_12 =>
    intro h
    have hopen := h.isOpen
    revert hopen
    decide +kernel
  all_goals decide +kernel

end Nstu.Telemetry.Outbox
