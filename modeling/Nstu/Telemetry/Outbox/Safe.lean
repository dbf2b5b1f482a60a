import Mathlib.Data.List.Nodup
import Nstu.Telemetry.Outbox.Filed

/-!
# The operations keep the invariant

`Safe R` is the invariant of the outbox together with a property `R` that every batch in it has.  Each
operation keeps memory and file safe; only `enqueue` needs to know anything of the batch it is given.
-/

namespace Nstu.Telemetry.Outbox

open Wire Reader List
open OutboxRecord (payload)
open TelemetryOutbox (payloads)

variable {R : TelemetryBatch → Prop}

/-- A sound outbox whose batches all have a property. -/
structure Safe (R : TelemetryBatch → Prop) (outbox : TelemetryOutbox) : Prop where
  sound : Sound outbox
  batches : ∀ payload ∈ outbox.payloads, R payload.1

/-- Memory and files are safe. -/
abbrev Kempt (platform : Platform) (R : TelemetryBatch → Prop) (machine : Machine) : Prop :=
  Filed platform (fun _ => Safe R) machine

lemma safe_of_holds {a b : TelemetryOutbox} (h : Holds a b) (hs : Safe R a) : Safe R b where
  sound := sound_of_holds h hs.sound
  batches := by
    rw [h.payloads]
    exact hs.batches

/-! ## What is written -/

lemma safe_pruned {calls : PruneCalls} {now barrier : UInt64} {outbox marked : TelemetryOutbox}
    (h : Safe R outbox) (hm : Marks outbox marked)
    (hq : marked.losses.length - marked.losses.countP (marked.lossHasExpired now) +
      (incomingContexts now marked).length ≤ kMaximumLossContexts) :
    Safe R { prunedOutbox calls now marked with expiryBarrierMs := barrier } := by
  have hs := safe_of_holds hm.holds h
  have hso := @sound_prunedOutbox calls now marked hs.sound hq
  refine ⟨⟨hso.records, hso.losses⟩, ?_⟩
  intro payload hp
  exact hs.batches payload ((payloads_unexpired_sublist marked.records).subset hp)

variable {a b : TelemetryBatch}

lemma sameContext_iff : sameContext a b ↔ a.sessionId = b.sessionId ∧ a.packageId = b.packageId ∧
      a.packageDigest = b.packageDigest ∧ a.clientId = b.clientId ∧ a.candidateId = b.candidateId := by
  simp only [sameContext, Bool.and_eq_true, beq_iff_eq, and_assoc]

lemma sameContext_symm (h : sameContext a b) : sameContext b a := by
  rw [sameContext_iff] at h ⊢
  exact ⟨h.1.symm, h.2.1.symm, h.2.2.1.symm, h.2.2.2.1.symm, h.2.2.2.2.symm⟩

lemma sameContext_trans {c : TelemetryBatch} (ha : sameContext a b)
    (hb : sameContext b c) : sameContext a c := by
  rw [sameContext_iff] at ha hb ⊢
  exact ⟨ha.1.trans hb.1, ha.2.1.trans hb.2.1, ha.2.2.1.trans hb.2.2.1,
    ha.2.2.2.1.trans hb.2.2.2.1, ha.2.2.2.2.trans hb.2.2.2.2⟩

section Admit

variable {batch : TelemetryBatch} {outbox : TelemetryOutbox} {arrival : UInt64}
  {losses : List TelemetryOutboxAggregateLoss}

lemma Admissible.sameContext (h : Admissible batch outbox losses) (hs : Sound outbox)
    {payload : TelemetryBatch × Bytes} (hp : payload ∈ outbox.payloads) :
    Outbox.sameContext payload.1 batch := by
  have hc := h.context
  have hr := hs.records.context
  simp only [payloads] at hp hr
  cases hl : outbox.records with
  | nil =>
    rw [hl] at hp
    cases hp
  | cons active rest =>
    rw [hl] at hc hr hp
    simp only [head?_cons, Option.any_some, Bool.not_eq_false'] at hc
    exact sameContext_trans (hr payload hp active.payload mem_cons_self) hc

lemma soundRecords_admitted (h : Admissible batch outbox losses) (hsound : Sound outbox) :
    SoundRecords (admitted arrival batch losses outbox).payloads batch.sessionId
      (admitted arrival batch losses outbox).totalPayloadBytes := by
  have hreco := hsound.records
  have hpayl : (admitted arrival batch losses outbox).payloads =
      outbox.payloads ++ [(batch, encodeTelemetryBatch batch)] := by
    simp [admitted, payloads, payload]
  have hsize : (encodeTelemetryBatch batch).length < 2 ^ 32 :=
    Nat.lt_of_le_of_lt (length_encodeTelemetryBatch _) (by decide)
  have hadd := toNat_add_ofNat (hreco.total.le.trans hreco.total_le) hsize
  have hsum : payloadSum (outbox.payloads ++ [(batch, encodeTelemetryBatch batch)]) =
      outbox.totalPayloadBytes.toNat + (encodeTelemetryBatch batch).length := by
    rw [payloadSum_append, payloadSum_cons, hreco.total]
    rfl
  rw [hpayl]
  constructor
  · intro payload hpaylo
    rcases mem_append.mp hpaylo with hold | hnew
    · exact hreco.encoded payload hold
    · rw [mem_singleton] at hnew
      rw [hnew]
      exact ⟨rfl, h.encoded⟩
  · rw [hsum]
    exact hadd
  · have hbytes := h.bytes
    rw [UInt64.le_iff_toNat_le, hadd] at hbytes
    rw [hsum]
    exact hbytes
  · rw [length_append, payloads, length_map]
    exact h.batches
  · intro a ha b hb
    rcases mem_append.mp ha with hold | hnew
    · rcases mem_append.mp hb with hold' | hnew'
      · exact hreco.context a hold b hold'
      · rw [mem_singleton] at hnew'
        rw [hnew']
        exact h.sameContext hsound hold
    · rw [mem_singleton] at hnew
      rw [hnew]
      rcases mem_append.mp hb with hold' | hnew'
      · exact sameContext_symm (h.sameContext hsound hold')
      · rw [mem_singleton] at hnew'
        rw [hnew', sameContext_iff]
        exact ⟨rfl, rfl, rfl, rfl, rfl⟩
  · intro payload hpaylo
    rcases mem_append.mp hpaylo with hold | hnew
    · exact (sameContext_iff.mp (h.sameContext hsound hold)).1
    · rw [mem_singleton] at hnew
      rw [hnew]
  · rw [map_append, nodup_append]
    refine ⟨hreco.distinct, by simp, ?_⟩
    rintro key hkey other hother rfl
    rw [map_singleton, mem_singleton] at hother
    obtain ⟨payload, hpaylo, hpayloa⟩ := mem_map.mp hkey
    obtain ⟨record, hrecor, rfl⟩ := mem_map.mp hpaylo
    have hboth := Prod.mk.injEq _ _ _ _ ▸ hpayloa.trans hother
    have := any_eq_false.mp h.fresh record hrecor
    refine this ?_
    rw [Bool.and_eq_true, beq_iff_eq, beq_iff_eq]
    exact hboth

lemma lossSessions_updateSlot_session {session new : SessionId}
    {table : List TelemetryOutboxAggregateLoss} (h : (lossSessions table).Nodup) :
    lossSessions (updateSlot session (fun loss => { loss with sessionId := new }) table) =
      (lossSessions table).map fun id => if id = session then new else id := by
  induction table with
  | nil => rfl
  | cons loss rest ih =>
    obtain ⟨hh, ht⟩ := nodup_cons.mp h
    simp only [updateSlot]
    split
    · rename_i hs
      -- No other entry is of the session.
      have hr : (lossSessions rest).map (fun id => if id = session then new else id) =
          (lossSessions rest).map id := by
        refine map_congr_left ?_
        intro id hi
        refine if_neg ?_
        intro he
        exact hh (hs.trans he.symm ▸ hi)
      rw [map_id] at hr
      simp only [lossSessions, map_cons, if_pos hs] at hr ⊢
      rw [hr]
    · rename_i hs
      have ih := ih ht
      simp only [lossSessions, map_cons, if_neg hs] at ih ⊢
      rw [ih]

lemma soundLosses_reserveSlot (h : reserveSlot batch outbox = some losses)
    (hsound : SoundLosses (lossSessions outbox.losses)) (hne : batch.sessionId ≠ Block.zero 16) :
    SoundLosses (lossSessions losses) := by
  simp only [reserveSlot] at h
  split at h
  · cases h
    exact hsound
  · rename_i hnew
    rw [hasSlot_iff] at hnew
    split at h
    · split at h
      · cases h
      · rename_i unused hunus
        cases h
        rw [lossSessions_updateSlot_session hsound.nodup]
        constructor
        · rw [length_map]
          exact hsound.length_le
        · refine List.Nodup.map_on ?_ hsound.nodup
          intro a ha b hb hab
          split at hab
          · split at hab
            · rename_i hleft hright
              rw [hleft, hright]
            · exact absurd (hab ▸ hb) hnew
          · split at hab
            · exact absurd (hab ▸ ha) hnew
            · exact hab
        · intro session hsess
          obtain ⟨id, hid, rfl⟩ := mem_map.mp hsess
          split
          · exact hne
          · exact hsound.ne_zero id hid
    · rename_i hroom
      cases h
      rw [lossSessions, map_append]
      refine hsound.append hnew hne ?_
      rw [lossSessions, length_map]
      exact Nat.not_le.mp hroom

lemma safe_admitted (hs : Safe R outbox) (h : Admissible batch outbox losses) (hb : R batch) :
    Safe R (admitted arrival batch losses outbox) := by
  refine ⟨⟨soundRecords_admitted h hs.sound,
    soundLosses_reserveSlot h.slot hs.sound.losses (sessionId_ne_zero h.encoded)⟩, ?_⟩
  intro payload hp
  rw [payloads, admitted, map_append] at hp
  rcases mem_append.mp hp with ho | hn
  · exact hs.batches payload ho
  · rw [map_singleton, mem_singleton] at hn
    rw [hn]
    exact hb

end Admit

section Answer

variable {outbox : TelemetryOutbox} {index : ℕ} {record : OutboxRecord}

lemma payloads_scheduledOutbox {now : UInt64} (h : outbox.records[index]? = some record) :
    (scheduledOutbox now index record outbox).payloads = outbox.payloads := by
  have hp : (record.rescheduled now).payload = record.payload := rfl
  obtain ⟨hl, hg⟩ := List.getElem?_eq_some_iff.mp h
  simp only [payloads, scheduledOutbox, List.map_set, hp]
  rw [← hg, ← List.map_set, set_getElem_self]

lemma safe_scheduledOutbox {now : UInt64} (hs : Safe R outbox)
    (h : outbox.records[index]? = some record) : Safe R (scheduledOutbox now index record outbox) := by
  refine ⟨⟨?_, hs.sound.losses⟩, ?_⟩
  · rw [payloads_scheduledOutbox h]
    exact hs.sound.records
  · rw [payloads_scheduledOutbox h]
    exact hs.batches

lemma payloadSum_eraseIdx {records : List OutboxRecord} (h : records[index]? = some record) :
    payloadSum ((records.eraseIdx index).map payload) + record.encodedBytes.length =
      payloadSum (records.map payload) := by
  induction records generalizing index with
  | nil => cases h
  | cons first rest ih =>
    rw [map_cons, payloadSum_cons]
    cases index with
    | zero =>
      cases h
      rw [eraseIdx_cons_zero]
      exact Nat.add_comm _ _
    | succ index =>
      rw [eraseIdx_cons_succ, map_cons, payloadSum_cons, ← ih h]
      omega

variable {status : TelemetryAckStatus} {stamp : UInt64}

lemma soundLosses_settleLosses {session : SessionId} {losses settled : List TelemetryOutboxAggregateLoss}
    (h : settleLosses status session stamp losses = some settled)
    (hs : SoundLosses (lossSessions losses)) (hn : session ≠ Block.zero 16) :
    SoundLosses (lossSessions settled) := by
  simp only [settleLosses] at h
  split at h
  · cases h
    exact hs
  · split at h
    · cases h
    · rename_i hr
      cases h
      rw [lossSessions_updateSlot (sessionId_countRefusal _ _)]
      refine hs.withSlot hn ?_
      intro hnew
      rw [← hasSlot_iff, Bool.not_eq_true] at hnew
      simpa [hnew] using hr

lemma safe_settledOutbox {losses : List TelemetryOutboxAggregateLoss} (hsafe : Safe R outbox)
    (h : outbox.records[index]? = some record)
    (hloss : settleLosses status record.batch.sessionId stamp outbox.losses = some losses) :
    Safe R (settledOutbox index record losses outbox) := by
  have hreco := hsafe.sound.records
  have hmem : record.payload ∈ outbox.payloads :=
    mem_map_of_mem (mem_of_getElem? h)
  have hsub : (settledOutbox index record losses outbox).payloads.Sublist outbox.payloads :=
    (eraseIdx_sublist _ _).map _
  have henco := hreco.encoded _ hmem
  refine ⟨⟨hreco.sublist hsub ?_, ?_⟩, ?_⟩
  · have hsum := @payloadSum_eraseIdx index record outbox.records h
    have htotal : outbox.totalPayloadBytes.toNat = payloadSum (outbox.records.map payload) :=
      hreco.total
    have hle : record.encodedBytes.length ≤ outbox.totalPayloadBytes.toNat := by omega
    change (outbox.totalPayloadBytes - UInt64.ofNat record.encodedBytes.length).toNat =
      payloadSum ((outbox.records.eraseIdx index).map payload)
    rw [toNat_sub_ofNat hle]
    omega
  · exact soundLosses_settleLosses hloss hsafe.sound.losses (sessionId_ne_zero (henco.1 ▸ henco.2))
  · exact fun payload hpayl => hsafe.batches payload (hsub.subset hpayl)

end Answer

lemma safe_emptied {outbox : TelemetryOutbox} (hr : outbox.records = [])
    (ht : outbox.totalPayloadBytes = 0) (hl : SoundLosses (lossSessions outbox.losses)) : Safe R outbox := by
  have hn : outbox.payloads = [] := by rw [payloads, hr, map_nil]
  refine ⟨⟨?_, hl⟩, ?_⟩
  · rw [hn, ht]
    exact soundRecords_nil _
  · rw [hn]
    simp

/-! ## What is read -/

section Reload

variable {stored : TelemetryOutbox} {now : UInt64}

/-- The outbox that `open` builds from what it has read. -/
def loadedOutbox (loaded : Loaded) (outbox : TelemetryOutbox) : TelemetryOutbox :=
  { outbox with
    activeSessionId := loaded.activeSession
    losses := loaded.losses
    records := loaded.records
    totalPayloadBytes := loaded.payloadBytes
    isOpen := true }

lemma payloads_reload (outbox : TelemetryOutbox) :
    (loadedOutbox (reload now stored) outbox).payloads = stored.payloads := by
  simp only [payloads, loadedOutbox, reload, map_map]
  rfl

lemma lossSessions_reloadLosses (losses : List TelemetryOutboxAggregateLoss) :
    (lossSessions (reloadLosses now losses)).Sublist (lossSessions losses) := by
  have hm : lossSessions (losses.map fun loss => (clampLoss now loss).1) = lossSessions losses := by
    simp only [lossSessions, map_map]
    rfl
  rw [← hm]
  exact filter_sublist.map _

lemma safe_reload (h : Safe R stored) (outbox : TelemetryOutbox) :
    Safe R (loadedOutbox (reload now stored) outbox) := by
  refine ⟨⟨?_, h.sound.losses.sublist (lossSessions_reloadLosses _)⟩, ?_⟩
  · rw [payloads_reload]
    exact h.sound.records
  · rw [payloads_reload]
    exact h.batches

lemma kept_reloadRecord {record : OutboxRecord} (h : (reloadRecord now record).2 = false) :
    Kept record (reloadRecord now record).1 := by
  simp only [reloadRecord, clampLoaded, Bool.or_eq_false_iff, decide_eq_false_iff_not] at h ⊢
  obtain ⟨hl, hf⟩ := h
  rw [if_neg hl, if_neg hf]
  exact ⟨rfl, rfl, rfl, rfl, .refl _⟩

lemma clampLoss_eq {loss : TelemetryOutboxAggregateLoss} (h : (clampLoss now loss).2 = false) :
    (clampLoss now loss).1 = loss := by
  simp only [clampLoss, Bool.or_eq_false_iff, decide_eq_false_iff_not] at h ⊢
  obtain ⟨hf, hl⟩ := h
  rw [if_neg hf, if_neg hl]

lemma holds_reload (h : (reload now stored).clamped = false) (outbox : TelemetryOutbox) :
    Holds stored (loadedOutbox (reload now stored) outbox) := by
  simp only [reload, Bool.or_eq_false_iff, any_eq_false, decide_eq_false_iff_not,
    ne_eq, not_not, Bool.not_eq_true] at h
  obtain ⟨⟨hr, hl⟩, hle⟩ := h
  refine ⟨rfl, ?_, rfl, ?_⟩
  · have hm : stored.losses.map (fun loss => (clampLoss now loss).1) = stored.losses.map id :=
      map_congr_left fun loss hlo => clampLoss_eq (hl loss hlo)
    rw [map_id] at hm
    simp only [loadedOutbox, reload, reloadLosses, hm] at hle ⊢
    exact List.Sublist.eq_of_length filter_sublist hle
  · simp only [loadedOutbox, reload]
    rw [forall₂_map_right_iff, forall₂_same]
    exact fun record hre => kept_reloadRecord (hr record hre)

end Reload

/-! ## Operations -/

section Operations

variable {platform : Platform} {machine : Machine}

lemma kempt_of_pruneEffect {calls : PruneCalls} {now : UInt64}
    {outcome : Except String ℕ × Machine} (h : Kempt platform R machine) (ho : machine.outbox.isOpen)
    (he : PruneEffect platform calls now false machine outcome) :
    Kempt platform R outcome.2 ∧ outcome.2.outbox.isOpen ∧ outcome.2.outbox.path = machine.outbox.path := by
  have hs := (h.current ho).1
  exact h.pass ho (fun hh => safe_of_holds hh hs)
    (fun hm _ hq => safe_pruned hs hm hq) he

lemma kempt_pruneExpiredLocked {calls : PruneCalls} {now : UInt64} (h : Kempt platform R machine)
    (ho : machine.outbox.isOpen) : Kempt platform R (pruneExpiredLocked platform calls now false machine).2 ∧
      (pruneExpiredLocked platform calls now false machine).2.outbox.isOpen ∧
      (pruneExpiredLocked platform calls now false machine).2.outbox.path = machine.outbox.path :=
  kempt_of_pruneEffect h ho (pruneEffect_of_exit pruneExpiredLocked_exit)

lemma kempt_admit {calls : EnqueueCalls} {batch : TelemetryBatch}
    {outcome : Except String Unit × Machine} (h : Kempt platform R machine) (hb : R batch)
    (he : AdmitExit platform calls batch machine outcome) : Kempt platform R outcome.2 := by
  cases he with
  | refused message => exact h
  | added ho ha hd =>
    refine h.write ?_ (fun _ _ _ hs => hs) (hd ▸ payloadWritten_changeFiles rfl)
    exact safe_admitted (h.current ho).1 ha hb

lemma kempt_enqueue {calls : EnqueueCalls} {batch : TelemetryBatch} (h : Kempt platform R machine)
    (hb : R batch) : Kempt platform R (enqueue platform calls batch machine).2 :=
  enqueue_keeps h (fun ho _ => (kempt_pruneExpiredLocked h ho).1) fun h => kempt_admit h hb

variable {ack : TelemetryAck}

lemma kempt_ack {calls : AckCalls} {now : UInt64} {outcome : AckOutcome × Machine}
    (h : Kempt platform R machine) (he : AckExit platform calls now ack machine outcome) :
    Kempt platform R outcome.2 := by
  cases he with
  | ignored | failed message => exact h
  | scheduled ho hr hd =>
    refine h.write ?_ (fun _ _ _ hs => hs) (hd ▸ payloadWritten_changeFiles rfl)
    exact safe_scheduledOutbox (h.current ho).1 hr
  | settled ho hr ha hst hl hd =>
    refine h.write ?_ (fun _ _ _ hs => hs) (hd ▸ payloadWritten_changeFiles rfl)
    exact safe_settledOutbox (h.current ho).1 hr hl

lemma kempt_acknowledge {calls : AckCalls} {now : UInt64} (h : Kempt platform R machine) :
    Kempt platform R (acknowledge platform calls ack now machine).2 :=
  acknowledge_keeps h (fun ho _ => (kempt_pruneExpiredLocked h ho).1) kempt_ack

variable {timeout : UInt64}

lemma holds_offered {outbox : TelemetryOutbox} {now : UInt64} :
    Holds outbox { outbox with records := (offerRecords now timeout outbox.records).2 } :=
  ⟨rfl, rfl, rfl, (forall₂_offerRecords now timeout outbox.records).imp fun _ _ => Offered.kept⟩

lemma kempt_nextBatchToSend {calls : OfferCalls} {now : UInt64} (h : Kempt platform R machine) :
    Kempt platform R (nextBatchToSend platform calls now timeout machine).2 :=
  nextBatchToSend_keeps h (fun ho _ => (kempt_pruneExpiredLocked h ho).1)
    fun h => h.keep (safe_of_holds holds_offered) rfl rfl holds_offered fun _ => rfl

lemma holds_clearInflight : Holds machine.outbox (clearInflight machine).outbox := by
  refine ⟨rfl, rfl, rfl, ?_⟩
  simp only [clearInflight]
  rw [forall₂_map_right_iff, forall₂_same]
  exact fun record _ => ⟨rfl, rfl, rfl, rfl, .refl _⟩

lemma kempt_clearInflight (h : Kempt platform R machine) : Kempt platform R (clearInflight machine) :=
  h.keep (safe_of_holds holds_clearInflight) rfl rfl holds_clearInflight fun _ => rfl

lemma kempt_pruneExpired {calls : OfferCalls} {now : UInt64} (h : Kempt platform R machine) :
    Kempt platform R (pruneExpired platform calls now machine).2 :=
  pruneExpired_keeps h fun ho _ => (kempt_pruneExpiredLocked h ho).1

variable {calls : PurgeCalls}

lemma kempt_persistEmptied {remains failed : String} {emptied : TelemetryOutbox}
    (h : Kempt platform R machine) (hs : Safe R emptied) :
    Kempt platform R (persistEmptied platform calls remains failed { machine with outbox := emptied }).2 := by
  simp only [persistEmptied]
  split
  · rename_i disk hp
    obtain ⟨ho, seed, ha, hd⟩ := persistLocked_ok hp
    exact h.write hs (fun _ _ _ hs => hs) (hd ▸ payloadWritten_changeFiles rfl)
  · exact h.close rfl (payload_unwritten calls)

lemma kempt_purge (h : Kempt platform R machine) : Kempt platform R (purge platform calls machine).2 := by
  simp only [purge]
  split
  · exact h
  · rename_i hc
    have hs := (h.current (by simpa using hc)).1
    exact kempt_persistEmptied h (safe_emptied rfl rfl (hs.sound.losses.sublist (filter_sublist.map _)))

lemma kempt_clear (h : Kempt platform R machine) : Kempt platform R (clear platform calls machine).2 := by
  simp only [clear]
  split
  · exact h
  · exact kempt_persistEmptied h (safe_emptied rfl rfl ⟨Nat.zero_le _, nodup_nil, by simp [lossSessions]⟩)

end Operations

end Nstu.Telemetry.Outbox
