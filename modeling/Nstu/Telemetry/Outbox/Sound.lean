import Mathlib.Algebra.Order.BigOperators.Group.List
import Nstu.Telemetry.Outbox.Prune

/-!
# The representation invariant of the outbox

`SoundRecords` is about the batches and the byte counter, `SoundLosses` about the sessions in the
loss table; neither looks at a deadline, a mark or a stamp.  The counter is a machine word that runs
up and down with the records, so each operation has to give back exactly what it took.
-/

namespace Nstu.Telemetry.Outbox

open Wire Reader List

/-- What a record holds of its batch. -/
def OutboxRecord.payload (record : OutboxRecord) : TelemetryBatch × Bytes :=
  (record.batch, record.encodedBytes)

/-- The number of encoded bytes. -/
def payloadSum (payloads : List (TelemetryBatch × Bytes)) : ℕ :=
  (payloads.map fun payload => payload.2.length).sum

/-- What identifies a batch of a producer. -/
def producerKey (payload : TelemetryBatch × Bytes) : ProducerId × UInt64 :=
  (payload.1.producerId, payload.1.sequence)

structure SoundRecords (payloads : List (TelemetryBatch × Bytes)) (active : SessionId)
    (total : UInt64) : Prop where
  encoded : ∀ payload ∈ payloads, payload.2 = encodeTelemetryBatch payload.1 ∧ payload.2 ≠ []
  total : total.toNat = payloadSum payloads
  total_le : payloadSum payloads ≤ kMaximumTelemetryOutboxBytes
  length_le : payloads.length ≤ kMaximumTelemetryOutboxBatches
  context : ∀ a ∈ payloads, ∀ b ∈ payloads, sameContext a.1 b.1 = true
  session : ∀ payload ∈ payloads, payload.1.sessionId = active
  distinct : (payloads.map producerKey).Nodup

structure SoundLosses (sessions : List SessionId) : Prop where
  length_le : sessions.length ≤ kMaximumLossContexts
  nodup : sessions.Nodup
  ne_zero : ∀ session ∈ sessions, session ≠ Block.zero 16

def TelemetryOutbox.payloads (outbox : TelemetryOutbox) : List (TelemetryBatch × Bytes) :=
  outbox.records.map OutboxRecord.payload

def lossSessions (losses : List TelemetryOutboxAggregateLoss) : List SessionId :=
  losses.map TelemetryOutboxAggregateLoss.sessionId

/-- The invariant of an outbox. -/
structure Sound (outbox : TelemetryOutbox) : Prop where
  records : SoundRecords outbox.payloads outbox.activeSessionId outbox.totalPayloadBytes
  losses : SoundLosses (lossSessions outbox.losses)

/-! ## Records -/

variable {batch : TelemetryBatch}

lemma sessionId_ne_zero_of_valid (h : validateTelemetryBatch batch) : batch.sessionId ≠ Block.zero 16 := by
  intro hz
  simp only [validateTelemetryBatch] at h
  split_ifs at h with h1 h2
  simp only [hz, Block.zero, allZero, Bool.or_eq_true, not_or] at h2
  exact absurd (by decide) h2.1.2

lemma sessionId_ne_zero (h : encodeTelemetryBatch batch ≠ []) : batch.sessionId ≠ Block.zero 16 :=
  sessionId_ne_zero_of_valid (encodeTelemetryBatch_form h).1

lemma payloadSum_append (a b : List (TelemetryBatch × Bytes)) : payloadSum (a ++ b) = payloadSum a + payloadSum b := by
  simp [payloadSum]

lemma payloadSum_cons (payload : TelemetryBatch × Bytes) (rest : List (TelemetryBatch × Bytes)) :
    payloadSum (payload :: rest) = payload.2.length + payloadSum rest := by
  simp [payloadSum]

lemma payloadSum_sublist {a b : List (TelemetryBatch × Bytes)} (h : a.Sublist b) : payloadSum a ≤ payloadSum b :=
  (h.map _).sum_le_sum fun _ _ => Nat.zero_le _

lemma toNat_sub_ofNat {total : UInt64} {size : ℕ} (h : size ≤ total.toNat) :
    (total - UInt64.ofNat size).toNat = total.toNat - size := by
  have hl : size < 2 ^ 64 := Nat.lt_of_le_of_lt h total.toNat_lt
  have hs : (UInt64.ofNat size).toNat = size := UInt64.toNat_ofNat_of_lt' hl
  rw [UInt64.toNat_sub_of_le _ _ (by rw [UInt64.le_iff_toNat_le, hs]; exact h), hs]

variable {total : UInt64}

lemma toNat_add_ofNat {size : ℕ} (ht : total.toNat ≤ kMaximumTelemetryOutboxBytes) (hs : size < 2 ^ 32) :
    (total + UInt64.ofNat size).toNat = total.toNat + size := by
  have ho : (UInt64.ofNat size).toNat = size :=
    UInt64.toNat_ofNat_of_lt' (Nat.lt_trans hs (by decide))
  have hm : kMaximumTelemetryOutboxBytes + 2 ^ 32 < 2 ^ 64 := by decide
  rw [UInt64.toNat_add, ho, Nat.mod_eq_of_lt (by omega)]

lemma soundRecords_nil (active : SessionId) : SoundRecords [] active 0 where
  encoded := by simp
  total := rfl
  total_le := Nat.zero_le _
  length_le := Nat.zero_le _
  context := by simp
  session := by simp
  distinct := nodup_nil

lemma SoundRecords.sublist {payloads fewer : List (TelemetryBatch × Bytes)} {active : SessionId}
    {total' : UInt64} (h : SoundRecords payloads active total)
    (hs : fewer.Sublist payloads) (ht : total'.toNat = payloadSum fewer) :
    SoundRecords fewer active total' where
  encoded payload hp := h.encoded payload (hs.subset hp)
  total := ht
  total_le := (payloadSum_sublist hs).trans h.total_le
  length_le := hs.length_le.trans h.length_le
  context a ha b hb := h.context a (hs.subset ha) b (hs.subset hb)
  session payload hp := h.session payload (hs.subset hp)
  distinct := h.distinct.sublist (hs.map _)

lemma payloads_unexpired_sublist (records : List OutboxRecord) :
    ((unexpired records).map OutboxRecord.payload).Sublist (records.map OutboxRecord.payload) :=
  filter_sublist.map _

lemma total_removeRecords {now : UInt64} {clock : ℕ → UInt64} (index : ℕ)
    (records : List OutboxRecord) (removal : Removal)
    (h : payloadSum (records.map OutboxRecord.payload) ≤ removal.totalPayloadBytes.toNat) :
    (removeRecords now clock index records removal).totalPayloadBytes.toNat +
        payloadSum (records.map OutboxRecord.payload) =
      removal.totalPayloadBytes.toNat + payloadSum ((unexpired records).map OutboxRecord.payload) := by
  induction records generalizing index removal with
  | nil => rfl
  | cons record rest ih =>
    rw [map_cons, payloadSum_cons] at h ⊢
    cases hs : record.expiryObserved with
    | true =>
      have hk : unexpired (record :: rest) = unexpired rest := by simp [unexpired, hs]
      have hsu := @toNat_sub_ofNat removal.totalPayloadBytes record.encodedBytes.length
        (le_trans (Nat.le_add_right _ _) h)
      have hp : record.payload.2.length = record.encodedBytes.length := rfl
      rw [hk, removeRecords, if_pos hs]
      have := ih (index + 1) { removal with
        totalPayloadBytes := removal.totalPayloadBytes - UInt64.ofNat record.encodedBytes.length
        losses := recordExpired record.batch.sessionId (min now (clock index)) removal.losses
        expired := removal.expired ++ [(index, record)] } (by rw [hsu]; omega)
      rw [hsu] at this
      omega
    | false =>
      have hk : unexpired (record :: rest) = record :: unexpired rest := by
        simp [unexpired, hs]
      rw [hk, map_cons, payloadSum_cons, removeRecords, if_neg (by simp [hs])]
      have := ih (index + 1) { removal with retained := removal.retained ++ [record] }
        (le_trans (Nat.le_add_left _ _) h)
      dsimp only at this
      omega

/-! ## Losses -/

section Losses

variable {losses : List TelemetryOutboxAggregateLoss} {session : SessionId}

lemma hasSlot_iff : hasSlot session losses ↔ session ∈ lossSessions losses := by
  simp only [hasSlot, lossSessions, any_eq_true, beq_iff_eq, mem_map]

lemma lossSessions_updateSlot {change : TelemetryOutboxAggregateLoss → TelemetryOutboxAggregateLoss}
    (h : ∀ loss, (change loss).sessionId = loss.sessionId) :
    lossSessions (updateSlot session change losses) = lossSessions losses := by
  induction losses with
  | nil => rfl
  | cons loss rest ih =>
    simp only [updateSlot]
    split
    · simp [lossSessions, h]
    · simpa [lossSessions] using ih

lemma lossSessions_withSlot : lossSessions (withSlot session losses) =
      if session ∈ lossSessions losses then lossSessions losses else lossSessions losses ++ [session] := by
  simp only [withSlot, hasSlot_iff]
  split
  · rfl
  · simp [lossSessions, TelemetryOutboxAggregateLoss.new]

lemma lossSessions_recordExpired {stamp : UInt64} : lossSessions (recordExpired session stamp losses) =
      lossSessions (withSlot session losses) :=
  lossSessions_updateSlot fun _ => rfl

lemma sessionId_countRefusal (status : TelemetryAckStatus) (stamp : UInt64) (loss : TelemetryOutboxAggregateLoss) :
    (countRefusal status stamp loss).sessionId = loss.sessionId := by
  simp only [countRefusal]
  split
  · rfl
  · split <;> rfl

variable {sessions : List SessionId}

lemma SoundLosses.sublist {fewer : List SessionId} (h : SoundLosses sessions)
    (hs : fewer.Sublist sessions) : SoundLosses fewer where
  length_le := hs.length_le.trans h.length_le
  nodup := h.nodup.sublist hs
  ne_zero session hse := h.ne_zero session (hs.subset hse)

lemma SoundLosses.append (h : SoundLosses sessions) (hnew : session ∉ sessions) (hne : session ≠ Block.zero 16)
    (hroom : sessions.length < kMaximumLossContexts) : SoundLosses (sessions ++ [session]) where
  length_le := by
    rw [length_append, length_singleton]
    exact hroom
  nodup := by
    refine nodup_append.mpr ⟨h.nodup, by simp, ?_⟩
    intro a ha b hb hab
    rw [mem_singleton] at hb
    exact hnew (hb ▸ hab ▸ ha)
  ne_zero other hother := by
    rcases mem_append.mp hother with hmem | hlast
    · exact h.ne_zero other hmem
    · rw [mem_singleton] at hlast
      rw [hlast]
      exact hne

lemma SoundLosses.withSlot (h : SoundLosses (lossSessions losses)) (hn : session ≠ Block.zero 16)
    (hr : session ∉ lossSessions losses → losses.length < kMaximumLossContexts) :
    SoundLosses (lossSessions (withSlot session losses)) := by
  rw [lossSessions_withSlot]
  split
  · exact h
  · rename_i hnew
    refine h.append hnew hn ?_
    rw [lossSessions, length_map]
    exact hr hnew

end Losses

lemma lossSessions_removeRecords {now : UInt64} {clock : ℕ → UInt64} {active : SessionId}
    (index : ℕ) (records : List OutboxRecord) (removal : Removal)
    (h : ∀ record ∈ records, record.batch.sessionId = active) :
    lossSessions (removeRecords now clock index records removal).losses =
      if records.any (·.expiryObserved) then lossSessions (withSlot active removal.losses)
      else lossSessions removal.losses := by
  induction records generalizing index removal with
  | nil => rfl
  | cons record rest ih =>
    have hr : ∀ other ∈ rest, other.batch.sessionId = active :=
      fun other ho => h other (mem_cons_of_mem _ ho)
    have hre : record.batch.sessionId = active := h record mem_cons_self
    cases hs : record.expiryObserved with
    | true =>
      rw [removeRecords, if_pos hs, ih _ _ hr, hre]
      have hsl : active ∈ lossSessions (withSlot active removal.losses) := by
        rw [lossSessions_withSlot]
        split
        · assumption
        · simp
      have hsa : lossSessions (withSlot active (recordExpired active (min now (clock index)) removal.losses)) =
            lossSessions (withSlot active removal.losses) := by
        rw [lossSessions_withSlot, lossSessions_recordExpired, if_pos hsl]
      simp only [any_cons, hs, Bool.true_or, if_true, hsa, lossSessions_recordExpired, ite_self]
    | false =>
      rw [removeRecords, if_neg (by simp [hs]), ih _ _ hr]
      simp only [any_cons, hs, Bool.false_or]

section Incoming

variable {now : UInt64} {outbox : TelemetryOutbox}

variable {contexts : List SessionId} {record : OutboxRecord}

lemma mem_addIncoming {session : SessionId}
    (h : session ∈ contexts) : session ∈ addIncoming now outbox contexts record := by
  simp only [addIncoming]
  split
  · exact h
  · split
    · exact h
    · exact mem_append_left _ h

lemma mem_foldl_addIncoming {session : SessionId} (records : List OutboxRecord) (h : session ∈ contexts) :
    session ∈ records.foldl (addIncoming now outbox) contexts := by
  induction records generalizing contexts with
  | nil => exact h
  | cons record rest ih => exact ih (mem_addIncoming h)

lemma mem_incomingContexts (hmem : record ∈ outbox.records) (hseen : record.expiryObserved)
    (hnew : record.batch.sessionId ∉ lossSessions (outbox.losses.filter fun loss => !outbox.lossHasExpired now loss)) :
    record.batch.sessionId ∈ incomingContexts now outbox := by
  have hnone : (outbox.losses.any fun loss =>
      loss.sessionId == record.batch.sessionId && !outbox.lossHasExpired now loss) = false := by
    rw [any_eq_false]
    intro loss hloss hboth
    rw [Bool.and_eq_true, beq_iff_eq] at hboth
    exact hnew (mem_map.mpr ⟨loss, mem_filter.mpr ⟨hloss, hboth.2⟩, hboth.1⟩)
  have hmet : ∀ contexts, record.batch.sessionId ∈ addIncoming now outbox contexts record := by
    intro contexts
    rw [addIncoming, if_neg (by simp [hseen]), hnone, Bool.false_or]
    split
    · rename_i hknown
      simpa using hknown
    · simp
  obtain ⟨front, back, hreco⟩ := append_of_mem hmem
  rw [incomingContexts, hreco, foldl_append, foldl_cons]
  exact mem_foldl_addIncoming back (hmet _)

lemma length_unexpiredLosses : (outbox.losses.filter fun loss => !outbox.lossHasExpired now loss).length =
      outbox.losses.length - outbox.losses.countP (outbox.lossHasExpired now) := by
  have ha := @length_eq_countP_add_countP _ (outbox.lossHasExpired now) outbox.losses
  have hn : outbox.losses.countP (fun loss => !outbox.lossHasExpired now loss) =
      outbox.losses.countP (fun loss => ¬outbox.lossHasExpired now loss) :=
    countP_congr fun loss _ => by simp
  rw [← countP_eq_length_filter, hn]
  omega

end Incoming

/-- **Taking out what has expired keeps the invariant.** -/
lemma sound_prunedOutbox {calls : PruneCalls} {now : UInt64} {outbox : TelemetryOutbox} (h : Sound outbox)
    (hquota : outbox.losses.length - outbox.losses.countP (outbox.lossHasExpired now) +
      (incomingContexts now outbox).length ≤ kMaximumLossContexts) : Sound (prunedOutbox calls now outbox) := by
  have hacti : ∀ record ∈ outbox.records, record.batch.sessionId = outbox.activeSessionId := by
    intro record hreco
    exact h.records.session _ (mem_map_of_mem hreco)
  constructor
  · refine h.records.sublist (payloads_unexpired_sublist outbox.records) ?_
    have htotal : outbox.totalPayloadBytes.toNat = payloadSum (outbox.records.map OutboxRecord.payload) :=
      h.records.total
    have := @total_removeRecords now calls.clock 0 outbox.records
      ⟨[], [], outbox.losses.filter fun loss => !outbox.lossHasExpired now loss,
        outbox.totalPayloadBytes⟩ htotal.ge
    change (prunedOutbox calls now outbox).totalPayloadBytes.toNat + _ = outbox.totalPayloadBytes.toNat + _ at this
    change _ = payloadSum ((unexpired outbox.records).map OutboxRecord.payload)
    omega
  · have hkept : SoundLosses (lossSessions (outbox.losses.filter fun loss => !outbox.lossHasExpired now loss)) :=
      h.losses.sublist (filter_sublist.map _)
    simp only [prunedOutbox]
    rw [lossSessions_removeRecords 0 outbox.records _ hacti]
    split
    · rename_i hany
      obtain ⟨record, hreco, hseen⟩ := any_eq_true.mp hany
      have hsess := hacti record hreco
      refine hkept.withSlot ?_ ?_
      · have hpayl := h.records.encoded _ (mem_map_of_mem hreco)
        rw [← hsess]
        exact sessionId_ne_zero (hpayl.1 ▸ hpayl.2)
      · intro hnew
        have hinco := mem_incomingContexts hreco hseen (hsess ▸ hnew)
        have hpos : 0 < (incomingContexts now outbox).length := length_pos_of_mem hinco
        have hleng := @length_unexpiredLosses now outbox
        omega
    · exact hkept

end Nstu.Telemetry.Outbox
