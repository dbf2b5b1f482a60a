import Nstu.Telemetry.Outbox.Prune

/-!
# What the operations do

One list of exits for each operation.  An operation that fails to write leaves the outbox as it was:
`enqueue` takes the record off again, and `acknowledge` puts it back where it stood.
-/

namespace Nstu.Telemetry.Outbox

open Wire Reader List

section Persist

variable {platform : Platform} {answer : WriteAnswer} {machine : Machine}

lemma persistLocked_ok {disk : Disk} (h : persistLocked platform answer machine = .ok disk) :
    machine.outbox.isOpen ∧ ∃ seed, answer = .written seed ∧ disk = machine.changeFiles fun files =>
        { files with payload := some (protectedPayload platform seed machine.outbox) } := by
  simp only [persistLocked] at h
  split at h
  · cases h
  · rename_i ho
    split at h
    · cases h
    · split at h
      · cases h
      · rename_i seed
        cases h
        exact ⟨by simpa using ho, seed, rfl, rfl⟩

lemma persistLocked_written {seed : ℕ} (ho : machine.outbox.isOpen)
    (hb : (outboxPlaintext machine.outbox).length ≤ 0xffffffff) (ha : answer = .written seed) :
    persistLocked platform answer machine = .ok (machine.changeFiles fun files =>
      { files with payload := some (protectedPayload platform seed machine.outbox) }) := by
  have hs : sha256Of platform.sha256 (outboxPlaintext machine.outbox) =
      some (platform.sha256 (outboxPlaintext machine.outbox)) := by
    rw [sha256Of, if_neg (Nat.not_lt.mpr hb)]
  simp only [persistLocked, ho, hs, ha, Bool.not_true, Bool.false_eq_true, if_false]

end Persist

/-! ## Adding a batch -/

section Enqueue

variable {platform : Platform} {calls : EnqueueCalls} {batch : TelemetryBatch} {machine : Machine}

/-- The outbox with one more batch. -/
def admitted (arrival : UInt64) (batch : TelemetryBatch)
    (losses : List TelemetryOutboxAggregateLoss) (outbox : TelemetryOutbox) : TelemetryOutbox :=
  { outbox with
    losses := losses
    activeSessionId := batch.sessionId
    records := outbox.records ++ [⟨batch, encodeTelemetryBatch batch, 0, 0, arrival, false, 0, false⟩]
    totalPayloadBytes :=
      outbox.totalPayloadBytes + UInt64.ofNat (encodeTelemetryBatch batch).length }

/-- What `enqueue` has checked when it adds a batch. -/
structure Admissible (batch : TelemetryBatch) (outbox : TelemetryOutbox)
    (losses : List TelemetryOutboxAggregateLoss) : Prop where
  context : (outbox.records.head?.any fun active => !sameContext active.batch batch) = false
  slot : reserveSlot batch outbox = some losses
  fresh : (outbox.records.any fun record =>
    record.batch.producerId == batch.producerId && record.batch.sequence == batch.sequence) = false
  encoded : encodeTelemetryBatch batch ≠ []
  batches : outbox.records.length + 1 ≤ kMaximumTelemetryOutboxBatches
  bytes : outbox.totalPayloadBytes + UInt64.ofNat (encodeTelemetryBatch batch).length ≤
    UInt64.ofNat kMaximumTelemetryOutboxBytes

lemma releaseSlot_updateSlot {session new : SessionId} {table : List TelemetryOutboxAggregateLoss}
    (hnew : ∀ loss ∈ table, loss.sessionId ≠ new) (hmem : ∃ loss ∈ table, loss.sessionId = session) :
    let reserved := updateSlot session (fun loss => { loss with sessionId := new }) table
    ∃ old, table[reserved.findIdx fun loss => loss.sessionId == new]? = some old ∧
      reserved.set (reserved.findIdx fun loss => loss.sessionId == new) old = table := by
  induction table with
  | nil =>
    obtain ⟨loss, hloss, -⟩ := hmem
    cases hloss
  | cons loss rest ih =>
    simp only [updateSlot]
    by_cases hsess : loss.sessionId = session
    · rw [if_pos hsess]
      refine ⟨loss, ?_, ?_⟩
      · simp [findIdx_cons]
      · simp [findIdx_cons]
    · rw [if_neg hsess]
      obtain ⟨other, hother, hid⟩ := hmem
      have hrest : other ∈ rest := by
        rcases mem_cons.mp hother with rfl | hrest
        · exact absurd hid hsess
        · exact hrest
      obtain ⟨old, hold, hset⟩ :=
        ih (fun loss hloss => hnew loss (mem_cons_of_mem _ hloss)) ⟨other, hrest, hid⟩
      have hhead : (loss.sessionId == new) = false :=
        beq_eq_false_iff_ne.mpr (hnew loss mem_cons_self)
      simp only [findIdx_cons, hhead, cond_false, getElem?_cons_succ, set_cons_succ]
      exact ⟨old, hold, congrArg _ hset⟩

/-- **A failed write gives the loss entry back**, be it new, reused or the session's own. -/
lemma releaseSlot_reserveSlot {outbox : TelemetryOutbox} {losses : List TelemetryOutboxAggregateLoss}
    (h : reserveSlot batch outbox = some losses) :
    releaseSlot batch.sessionId outbox.losses losses = outbox.losses := by
  simp only [reserveSlot] at h
  split at h
  · rename_i hslot
    cases h
    have hlt : (outbox.losses.findIdx fun loss => loss.sessionId == batch.sessionId) <
        outbox.losses.length := findIdx_lt_length.mpr (any_eq_true.mp hslot)
    simp only [releaseSlot, getElem?_eq_getElem hlt, set_getElem_self]
  · rename_i hslot
    have hnew : ∀ loss ∈ outbox.losses, loss.sessionId ≠ batch.sessionId := by
      intro loss hloss hid
      exact hslot (any_eq_true.mpr ⟨loss, hloss, beq_iff_eq.mpr hid⟩)
    split at h
    · split at h
      · cases h
      · rename_i unused hunus
        cases h
        obtain ⟨old, hold, hset⟩ := releaseSlot_updateSlot hnew ⟨unused, mem_of_find?_eq_some hunus, rfl⟩
        simp only [releaseSlot, hold, hset]
    · cases h
      have hlast : (outbox.losses ++ [TelemetryOutboxAggregateLoss.new batch.sessionId]).findIdx
          (fun loss => loss.sessionId == batch.sessionId) = outbox.losses.length := by
        rw [findIdx_append, if_neg]
        · simp [findIdx_cons, TelemetryOutboxAggregateLoss.new]
        · rw [findIdx_lt_length]
          rintro ⟨loss, hloss, hid⟩
          exact hnew loss hloss (beq_iff_eq.mp hid)
      simp only [releaseSlot, hlast, getElem?_eq_none (le_refl _), dropLast_concat]

/-- How admitting a batch can end. -/
inductive AdmitExit (platform : Platform) (calls : EnqueueCalls) (batch : TelemetryBatch)
    (machine : Machine) : Except String Unit × Machine → Prop where
  | refused (message : String) : AdmitExit platform calls batch machine (.error message, machine)
  | added {losses : List TelemetryOutboxAggregateLoss} {seed : ℕ} {disk : Disk}
      (hopen : machine.outbox.isOpen = true) (hadmissible : Admissible batch machine.outbox losses)
      (hdisk : disk = machine.changeFiles fun files => { files with
        payload := some (protectedPayload platform seed (admitted calls.arrival batch losses machine.outbox)) }) :
      AdmitExit platform calls batch machine (.ok (), ⟨admitted calls.arrival batch losses machine.outbox, disk⟩)

/-- Admitting ends in one of the listed ways. -/
lemma admit_exit : AdmitExit platform calls batch machine (admitBatch platform calls batch machine) := by
  simp only [admitBatch]
  split
  · exact .refused _
  · rename_i hcont
    split
    · exact .refused _
    · rename_i losses hslot
      split
      · exact .refused _
      · rename_i hfresh
        split
        · exact .refused _
        · rename_i henco
          split
          · exact .refused _
          · rename_i hbatc
            split
            · exact .refused _
            · rename_i hbytes
              split
              · -- The write failed: the record, its bytes, the session and the entry go back.
                simp only [dropLast_concat, UInt64.add_sub_cancel, releaseSlot_reserveSlot hslot]
                exact .refused _
              · rename_i disk hpers
                obtain ⟨hopen, seed, hansw, hdisk⟩ := persistLocked_ok hpers
                refine .added hopen ⟨?_, hslot, ?_, ?_, ?_, ?_⟩ hdisk
                · simpa using hcont
                · simpa using hfresh
                · intro hnil
                  simp [hnil] at henco
                · exact Nat.not_lt.mp hbatc
                · exact UInt64.not_lt.mp hbytes

/-- How `enqueue` ends: with what a pass over the expired records left, or after it. -/
inductive EnqueueExit (platform : Platform) (calls : EnqueueCalls) (batch : TelemetryBatch)
    (machine : Machine) : Except String Unit × Machine → Prop where
  | refused (message : String) : EnqueueExit platform calls batch machine (.error message, machine)
  | unpruned {message : String} {pruned : Machine} (hopen : machine.outbox.isOpen = true)
      (hvalid : validateTelemetryBatch batch = true)
      (hpending : (machine.outbox.expiryRetryPending || machine.outbox.expiryBarrierMs != 0) = true)
      (hprune : pruneExpiredLocked platform calls.prune calls.start false machine = (.error message, pruned)) :
      EnqueueExit platform calls batch machine (.error message, pruned)
  | admitted {outcome : Except String Unit × Machine} (hopen : machine.outbox.isOpen = true)
      (hvalid : validateTelemetryBatch batch = true)
      (hexit : AdmitExit platform calls batch machine outcome) :
      EnqueueExit platform calls batch machine outcome
  | pruned {count : ℕ} {pruned : Machine} {outcome : Except String Unit × Machine}
      (hopen : machine.outbox.isOpen = true) (hvalid : validateTelemetryBatch batch = true)
      (hpending : (machine.outbox.expiryRetryPending || machine.outbox.expiryBarrierMs != 0) = true)
      (hprune : pruneExpiredLocked platform calls.prune calls.start false machine = (.ok count, pruned))
      (hexit : AdmitExit platform calls batch pruned outcome) :
      EnqueueExit platform calls batch machine outcome

lemma enqueue_exit : EnqueueExit platform calls batch machine (enqueue platform calls batch machine) := by
  simp only [enqueue]
  split
  · exact .refused _
  · rename_i ho
    have ho : machine.outbox.isOpen := by simpa using ho
    split
    · exact .refused _
    · rename_i hv
      have hv : validateTelemetryBatch batch := by simpa using hv
      split
      · rename_i hp
        split
        · rename_i hpr
          exact .unpruned ho hv hp hpr
        · rename_i hpr
          exact .pruned ho hv hp hpr admit_exit
      · exact .admitted ho hv admit_exit

end Enqueue

/-! ## Answers -/

section Acknowledge

variable {platform : Platform} {calls : AckCalls} {now : UInt64} {ack : TelemetryAck}
  {machine : Machine}

/-- The outbox with another attempt scheduled. -/
def scheduledOutbox (now : UInt64) (index : ℕ) (record : OutboxRecord) (outbox : TelemetryOutbox) :
    TelemetryOutbox :=
  { outbox with records := outbox.records.set index (record.rescheduled now) }

/-- The outbox without a record that was answered for. -/
def settledOutbox (index : ℕ) (record : OutboxRecord) (losses : List TelemetryOutboxAggregateLoss)
    (outbox : TelemetryOutbox) : TelemetryOutbox :=
  { outbox with
    records := outbox.records.eraseIdx index
    totalPayloadBytes := outbox.totalPayloadBytes - UInt64.ofNat record.encodedBytes.length
    losses := losses }

/-- How an acknowledgement can end. -/
inductive AckExit (platform : Platform) (calls : AckCalls) (now : UInt64) (ack : TelemetryAck)
    (machine : Machine) : AckOutcome × Machine → Prop where
  | ignored : AckExit platform calls now ack machine ((.ignoredMismatch, ""), machine)
  | failed (message : String) :
      AckExit platform calls now ack machine ((.storageFailed, message), machine)
  | scheduled {index : ℕ} {record : OutboxRecord} {seed : ℕ} {disk : Disk}
      (hopen : machine.outbox.isOpen = true)
      (hrecord : machine.outbox.records[index]? = some record)
      (hdisk : disk = machine.changeFiles fun files => { files with
        payload := some (protectedPayload platform seed (scheduledOutbox now index record machine.outbox)) }) :
      AckExit platform calls now ack machine
        ((.retryScheduled, ""), ⟨scheduledOutbox now index record machine.outbox, disk⟩)
  | settled {index : ℕ} {record : OutboxRecord} {losses : List TelemetryOutboxAggregateLoss}
      {seed : ℕ} {disk : Disk} (hopen : machine.outbox.isOpen = true)
      (hrecord : machine.outbox.records[index]? = some record)
      (hack : ackMatches ack record = true) (hstatus : ack.status ≠ .unavailable)
      (hlosses : settleLosses ack.status record.batch.sessionId (min now calls.stamp)
        machine.outbox.losses = some losses)
      (hdisk : disk = machine.changeFiles fun files => { files with
        payload := some (protectedPayload platform seed (settledOutbox index record losses machine.outbox)) }) :
      AckExit platform calls now ack machine
        ((settledResult ack.status, ""), ⟨settledOutbox index record losses machine.outbox, disk⟩)

variable {records : List OutboxRecord} {index : ℕ} {record : OutboxRecord}

lemma insertIdx_eraseIdx (h : records[index]? = some record) :
    (records.eraseIdx index).insertIdx index record = records := by
  induction records generalizing index with
  | nil => cases h
  | cons first rest ih =>
    cases index with
    | zero =>
      cases h
      rfl
    | succ index => exact congrArg _ (ih h)

lemma set_set_self {other : OutboxRecord} (h : records[index]? = some record) :
    (records.set index other).set index record = records := by
  obtain ⟨hl, hg⟩ := List.getElem?_eq_some_iff.mp h
  rw [List.set_set, ← hg]
  exact set_getElem_self hl

lemma matchAck_exit : AckExit platform calls now ack machine (matchAck platform calls now ack machine) := by
  simp only [matchAck]
  split
  · exact .ignored
  · rename_i index hindex
    split
    · exact .ignored
    · rename_i record hreco
      have hack : ackMatches ack record := by
        obtain ⟨hlt, hmatch, _⟩ := findIdx?_eq_some_iff_getElem.mp hindex
        rw [getElem?_eq_getElem hlt, Option.some.injEq] at hreco
        rw [← hreco]
        exact hmatch
      split
      · exact .ignored
      · simp only [applyAck]
        split
        · split
          · simp only [set_set_self hreco]
            exact .failed _
          · rename_i disk hpers
            obtain ⟨hopen, seed, hansw, hdisk⟩ := persistLocked_ok hpers
            exact .scheduled hopen hreco hdisk
        · rename_i hstat
          split
          · simp only [insertIdx_eraseIdx hreco]
            exact .failed _
          · rename_i losses hloss
            split
            · simp only [insertIdx_eraseIdx hreco]
              exact .failed _
            · rename_i disk hpers
              obtain ⟨hopen, seed, hansw, hdisk⟩ := persistLocked_ok hpers
              exact .settled hopen hreco hack hstat hloss hdisk

/-- How `acknowledge` ends. -/
inductive AcknowledgeExit (platform : Platform) (calls : AckCalls) (ack : TelemetryAck)
    (now : UInt64) (machine : Machine) : AckOutcome × Machine → Prop where
  | closed : AcknowledgeExit platform calls ack now machine
      ((.ignoredMismatch, "outbox is not open"), machine)
  | unpruned {message : String} {pruned : Machine} (hopen : machine.outbox.isOpen = true)
      (hpending : machine.outbox.expiryRetryPending = true)
      (hprune : pruneExpiredLocked platform calls.prune now false machine = (.error message, pruned)) :
      AcknowledgeExit platform calls ack now machine ((.storageFailed, message), pruned)
  | answered {outcome : AckOutcome × Machine} (hopen : machine.outbox.isOpen = true)
      (hexit : AckExit platform calls now ack machine outcome) :
      AcknowledgeExit platform calls ack now machine outcome
  | pruned {count : ℕ} {pruned : Machine} {outcome : AckOutcome × Machine}
      (hopen : machine.outbox.isOpen = true) (hpending : machine.outbox.expiryRetryPending = true)
      (hprune : pruneExpiredLocked platform calls.prune now false machine = (.ok count, pruned))
      (hexit : AckExit platform calls now ack pruned outcome) :
      AcknowledgeExit platform calls ack now machine outcome

lemma acknowledge_exit : AcknowledgeExit platform calls ack (if now = 0 then calls.start else now) machine
      (acknowledge platform calls ack now machine) := by
  simp only [acknowledge]
  generalize (if now = 0 then calls.start else now) = time
  split
  · exact .closed
  · rename_i ho
    have ho : machine.outbox.isOpen := by simpa using ho
    split
    · rename_i hp
      split
      · rename_i hpr
        exact .unpruned ho hp hpr
      · rename_i hpr
        exact .pruned ho hp hpr matchAck_exit
    · exact .answered ho matchAck_exit

end Acknowledge

/-! ## Offers -/

section Offer

variable {now timeout : UInt64}

/-- What a look at a record for sending can change of it. -/
structure Offered (now : UInt64) (before after : OutboxRecord) : Prop where
  rest : after = { before with
    inFlight := after.inFlight
    inFlightUntilMs := after.inFlightUntilMs
    nextEligibleRetryTimeMs := after.nextEligibleRetryTimeMs }
  deadline : after.nextEligibleRetryTimeMs = before.nextEligibleRetryTimeMs ∨
    after.nextEligibleRetryTimeMs = clampTime before.nextEligibleRetryTimeMs now

lemma Offered.refl (record : OutboxRecord) : Offered now record record := ⟨rfl, .inl rfl⟩

lemma Offered.inFlight {before after : OutboxRecord} (h : Offered now before after)
    (inFlight : Bool) (untilMs : UInt64) :
    Offered now before { after with inFlight := inFlight, inFlightUntilMs := untilMs } where
  rest := by
    rw [h.rest]
  deadline := h.deadline

lemma forall₂_offered_refl : ∀ records : List OutboxRecord, List.Forall₂ (Offered now) records records
  | [] => .nil
  | record :: rest => .cons (.refl record) (forall₂_offered_refl rest)

lemma offered_reclaimed {record reclaimed : OutboxRecord} (h : record.reclaimed now timeout = some reclaimed) :
    Offered now record (reclaimed.clampDeadline now) := by
  have hd : reclaimed.nextEligibleRetryTimeMs = record.nextEligibleRetryTimeMs ∧ reclaimed = { record with
        inFlight := reclaimed.inFlight
        inFlightUntilMs := reclaimed.inFlightUntilMs } := by
    simp only [OutboxRecord.reclaimed] at h
    split at h
    · split at h
      · cases h
        exact ⟨rfl, rfl⟩
      · cases h
    · cases h
      exact ⟨rfl, rfl⟩
  obtain ⟨hd, hr⟩ := hd
  constructor
  · rw [OutboxRecord.clampDeadline, hr]
  · right
    rw [OutboxRecord.clampDeadline, hd]

lemma forall₂_offerRecords (now timeout : UInt64) (records : List OutboxRecord) :
    List.Forall₂ (Offered now) records (offerRecords now timeout records).2 := by
  induction records with
  | nil => exact .nil
  | cons record rest ih =>
    simp only [offerRecords]
    split
    · exact .cons (.refl record) ih
    · split
      · exact .cons (.refl record) ih
      · rename_i reclaimed hr
        have ho := offered_reclaimed hr
        generalize reclaimed.clampDeadline now = clamped at ho
        split
        · exact .cons ho ih
        · exact .cons (ho.inFlight _ _) (forall₂_offered_refl rest)

end Offer

/-! ## What a pass keeps -/

section Keeps

variable {platform : Platform} {machine : Machine} {P : Machine → Prop}

/-- **The rule of `enqueue`**: what the pass and the admission keep. -/
lemma enqueue_keeps {calls : EnqueueCalls} {batch : TelemetryBatch} (h : P machine)
    (hp : machine.outbox.isOpen → ∀ now, P (pruneExpiredLocked platform calls.prune now false machine).2)
    ( ha : ∀ {machine outcome}, P machine → AdmitExit platform calls batch machine outcome → P outcome.2) :
    P (enqueue platform calls batch machine).2 := by
  have he := @enqueue_exit platform calls batch machine
  revert he
  generalize enqueue platform calls batch machine = outcome
  intro he
  cases he with
  | refused message => exact h
  | unpruned ho hv hpe hpr =>
    have := hp ho calls.start
    rwa [hpr] at this
  | admitted ho hv he => exact ha h he
  | pruned ho hv hpe hpr he =>
    have := hp ho calls.start
    rw [hpr] at this
    exact ha this he

lemma acknowledge_keeps {calls : AckCalls} {ack : TelemetryAck} {now : UInt64} (h : P machine)
    (hp : machine.outbox.isOpen → ∀ now, P (pruneExpiredLocked platform calls.prune now false machine).2)
    (ha : ∀ {machine now outcome}, P machine → AckExit platform calls now ack machine outcome → P outcome.2) :
    P (acknowledge platform calls ack now machine).2 := by
  have he := @acknowledge_exit platform calls now ack machine
  revert he
  generalize acknowledge platform calls ack now machine = outcome
  generalize (if now = 0 then calls.start else now) = time
  intro he
  cases he with
  | closed => exact h
  | unpruned ho hpe hpr =>
    have := hp ho time
    rwa [hpr] at this
  | answered ho he => exact ha h he
  | pruned ho hpe hpr he =>
    have := hp ho time
    rw [hpr] at this
    exact ha this he

lemma nextBatchToSend_keeps {calls : OfferCalls} {now timeout : UInt64} (h : P machine)
    (hp : machine.outbox.isOpen → ∀ now, P (pruneExpiredLocked platform calls.prune now false machine).2)
    (ho : ∀ {machine now}, P machine → P { machine with outbox := { machine.outbox with
      records := (offerRecords now timeout machine.outbox.records).2 } }) :
    P (nextBatchToSend platform calls now timeout machine).2 := by
  simp only [nextBatchToSend]
  generalize (if now = 0 then calls.start else now) = time
  split
  · exact h
  · rename_i hc
    have hpr := hp (by simpa using hc) time
    split
    · rename_i hpru
      rwa [hpru] at hpr
    · rename_i hpru
      rw [hpru] at hpr
      exact ho hpr

lemma pruneExpired_keeps {calls : OfferCalls} {now : UInt64} (h : P machine)
    (hp : machine.outbox.isOpen → ∀ now, P (pruneExpiredLocked platform calls.prune now false machine).2) :
    P (pruneExpired platform calls now machine).2 := by
  simp only [pruneExpired]
  split
  · exact h
  · rename_i hc
    exact hp (by simpa using hc) _

/-- A failed write of an emptied outbox leaves its payload, or removes it. -/
lemma payload_unwritten (calls : PurgeCalls) (path : Path) : (machine.changeFiles (fun files => { files with
      payload := if calls.payloadRemoved then none else files.payload
      revoked := files.revoked || calls.marked }) path).payload = (machine.disk path).payload ∨
    (machine.changeFiles (fun files => { files with
      payload := if calls.payloadRemoved then none else files.payload
      revoked := files.revoked || calls.marked }) path).payload = none := by
  by_cases hp : path = machine.outbox.path
  · subst hp
    simp only [Machine.changeFiles, Function.update_self, Machine.files]
    split
    · exact .inr rfl
    · exact .inl rfl
  · left
    simp only [Machine.changeFiles, Function.update_of_ne hp]

end Keeps

end Nstu.Telemetry.Outbox
