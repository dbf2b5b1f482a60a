import Nstu.Telemetry.Outbox.Sound

/-!
# The payload file is read back

What `persist_locked` writes of a sound outbox passes every check of `open` but two: an arrival time
of zero and a counted loss without a first time are taken for corruption.  `reload` is what is read
otherwise.
-/

namespace Nstu.Telemetry.Outbox

open Wire Reader Loader List
open TelemetryOutbox (payloads)
open UInt32 (ofNat)

/-- A record as it is read back at a time, and whether something of it was clamped. -/
def reloadRecord (now : UInt64) (record : OutboxRecord) : OutboxRecord × Bool :=
  clampLoaded now { record with inFlight := false, inFlightUntilMs := 0, expiryObserved := false }

/-- The table as it is read back at a time. -/
def reloadLosses (now : UInt64) (losses : List TelemetryOutboxAggregateLoss) :
    List TelemetryOutboxAggregateLoss :=
  (losses.map fun loss => (clampLoss now loss).1).filter fun loss => !loss.isEmpty

def reload (now : UInt64) (stored : TelemetryOutbox) : Loaded where
  activeSession := stored.activeSessionId
  losses := reloadLosses now stored.losses
  records := stored.records.map fun record => (reloadRecord now record).1
  payloadBytes := stored.totalPayloadBytes
  clamped := stored.records.any (fun record => (reloadRecord now record).2) ||
    stored.losses.any (fun loss => (clampLoss now loss).2) ||
    decide ((reloadLosses now stored.losses).length ≠ stored.losses.length)

/-- No record has an arrival time of zero at the time of opening. -/
def Arrived (now : UInt64) (stored : TelemetryOutbox) : Prop :=
  ∀ record ∈ stored.records, (reloadRecord now record).1.localEnqueuedAtUnixMs ≠ 0

/-- No entry counts a loss without the time of the first one. -/
def Dated (stored : TelemetryOutbox) : Prop :=
  ∀ loss ∈ stored.losses, loss.firstRecordedUnixMs = 0 → loss.isEmpty = true

instance (now : UInt64) (stored : TelemetryOutbox) : Decidable (Arrived now stored) :=
  inferInstanceAs (Decidable (∀ record ∈ stored.records, _))

instance (stored : TelemetryOutbox) : Decidable (Dated stored) :=
  inferInstanceAs (Decidable (∀ loss ∈ stored.losses, _))

/-! ## Readers -/

section Run

variable {α β : Type} {s r : Bytes} {a : α}

variable {x : Loader α} {f : α → Loader β}

lemma run_bind_ok (h : x.run s = .ok (a, r)) : (x >>= f).run s = (f a).run r := by
  rw [StateT.run_bind, h]
  rfl

lemma run_bind_error {error : LoadError} (h : x.run s = .error error) : (x >>= f).run s = .error error := by
  rw [StateT.run_bind, h]
  rfl

lemma run_orCorrupt {reader : Reader α} {message : String} (h : reader.run s = some (a, r)) :
    (orCorrupt reader message).run s = .ok (a, r) := by
  simp only [StateT.run, orCorrupt] at h ⊢
  rw [h]

end Run

/-! ## Records -/

section Records

variable {now : UInt64} {record : OutboxRecord} {loaded : Loaded} {rest : Bytes}

/-- One more record read. -/
def Loaded.extend (now : UInt64) (loaded : Loaded) (record : OutboxRecord) : Loaded :=
  { loaded with
    records := loaded.records ++ [(reloadRecord now record).1]
    payloadBytes := loaded.payloadBytes + UInt64.ofNat record.encodedBytes.length
    clamped := loaded.clamped || (reloadRecord now record).2 }

lemma length_encoded_lt (h : record.encodedBytes = encodeTelemetryBatch record.batch) :
    record.encodedBytes.length < 2 ^ 32 := by
  rw [h]
  exact Nat.lt_of_le_of_lt (length_encodeTelemetryBatch _) (by decide)

lemma run_readRecord (henco : record.encodedBytes = encodeTelemetryBatch record.batch)
    (hne : record.encodedBytes ≠ []) (hsess : record.batch.sessionId = loaded.activeSession)
    (hquota : record.encodedBytes.length ≤ kMaximumTelemetryOutboxBytes - loaded.payloadBytes.toNat) :
    (readRecord kOutboxVersion now loaded).run (recordBytes record ++ rest) =
      if (reloadRecord now record).1.localEnqueuedAtUnixMs = 0 then .error (.corrupt "outbox arrival time invalid")
      else .ok (loaded.extend now record, rest) := by
  have hlen : (ofNat record.encodedBytes.length).toNat = record.encodedBytes.length :=
    UInt32.toNat_ofNat_of_lt' (length_encoded_lt henco)
  have hspan : readBatchSpan.run (recordBytes record ++ rest) = some (record.encodedBytes,
      le record.retryCount ++ (le record.nextEligibleRetryTimeMs ++ (le record.localEnqueuedAtUnixMs ++ rest))) := by
    simp only [readBatchSpan, run_bind_readLe_iff, run_readBytes_iff]
    refine ⟨UInt32.ofNat record.encodedBytes.length, _, ?_, rfl, hlen.symm⟩
    simp [recordBytes]
  have hretry : (readRetry kOutboxVersion record.batch).run
      (le record.retryCount ++ (le record.nextEligibleRetryTimeMs ++ (le record.localEnqueuedAtUnixMs ++ rest))) =
      some ((record.retryCount, record.nextEligibleRetryTimeMs, record.localEnqueuedAtUnixMs), rest) := by
    simp only [readRetry, run_bind_readLe_iff, if_true, run_pure_iff]
    exact ⟨_, _, rfl, _, _, rfl, _, _, rfl, rfl, rfl⟩
  have hdeco : decodeTelemetryBatch record.encodedBytes = .ok record.batch := by
    rw [henco]
    exact decodeTelemetryBatch_encodeTelemetryBatch (henco ▸ hne)
  have hadopt : adoptSession kOutboxVersion loaded record.batch = loaded.activeSession :=
    if_neg fun h => absurd h.1 (by decide)
  rw [readRecord, run_bind_ok (run_orCorrupt hspan)]
  simp only [hdeco, if_neg (Nat.not_lt.mpr hquota)]
  rw [run_bind_ok (run_orCorrupt hretry)]
  simp only [hadopt, hsess, ne_eq, not_true_eq_false, if_false]
  change StateT.run (if (reloadRecord now record).1.localEnqueuedAtUnixMs = 0 then _ else _) rest = _
  split
  · rfl
  · rfl

/-- What `open` requires of the records it is going to read. -/
structure Readable (loaded : Loaded) (records : List OutboxRecord) : Prop where
  encoded : ∀ record ∈ records, record.encodedBytes = encodeTelemetryBatch record.batch ∧ record.encodedBytes ≠ []
  session : ∀ record ∈ records, record.batch.sessionId = loaded.activeSession
  quota : loaded.payloadBytes.toNat + payloadSum (records.map OutboxRecord.payload) ≤
    kMaximumTelemetryOutboxBytes

variable {records : List OutboxRecord}

lemma Readable.head (h : Readable loaded (record :: records)) :
    record.encodedBytes.length ≤ kMaximumTelemetryOutboxBytes - loaded.payloadBytes.toNat := by
  have := h.quota
  rw [map_cons, payloadSum_cons] at this
  have hl : record.payload.2.length = record.encodedBytes.length := rfl
  omega

lemma toNat_extend (h : Readable loaded (record :: records)) : (loaded.extend now record).payloadBytes.toNat =
      loaded.payloadBytes.toNat + record.encodedBytes.length :=
  toNat_add_ofNat ((Nat.le_add_right _ _).trans h.quota) (length_encoded_lt (h.encoded record mem_cons_self).1)

lemma Readable.tail (h : Readable loaded (record :: records)) : Readable (loaded.extend now record) records where
  encoded other ho := h.encoded other (mem_cons_of_mem _ ho)
  session other ho := h.session other (mem_cons_of_mem _ ho)
  quota := by
    have := h.quota
    rw [map_cons, payloadSum_cons] at this
    have hl : record.payload.2.length = record.encodedBytes.length := rfl
    rw [toNat_extend h]
    omega

lemma run_readRecords (h : Readable loaded records)
    (ha : ∀ record ∈ records, (reloadRecord now record).1.localEnqueuedAtUnixMs ≠ 0) :
    (readRecords kOutboxVersion now records.length loaded).run (records.flatMap recordBytes ++ rest) =
      .ok (records.foldl (Loaded.extend now) loaded, rest) := by
  induction records generalizing loaded with
  | nil => rfl
  | cons record records ih =>
    obtain ⟨he, hn⟩ := h.encoded record mem_cons_self
    have hr := @run_readRecord now record loaded (records.flatMap recordBytes ++ rest)
      he hn (h.session record mem_cons_self) h.head
    rw [if_neg (ha record mem_cons_self)] at hr
    rw [flatMap_cons, append_assoc, length_cons, readRecords, run_bind_ok hr,
      ih h.tail fun other ho => ha other (mem_cons_of_mem _ ho)]
    rfl

lemma run_readRecords_error (h : Readable loaded records)
    (hz : ∃ record ∈ records, (reloadRecord now record).1.localEnqueuedAtUnixMs = 0) :
    (readRecords kOutboxVersion now records.length loaded).run (records.flatMap recordBytes ++ rest) =
      .error (.corrupt "outbox arrival time invalid") := by
  induction records generalizing loaded with
  | nil =>
    obtain ⟨record, hr, _⟩ := hz
    cases hr
  | cons record records ih =>
    obtain ⟨he, hn⟩ := h.encoded record mem_cons_self
    have hre := @run_readRecord now record loaded (records.flatMap recordBytes ++ rest)
      he hn (h.session record mem_cons_self) h.head
    rw [flatMap_cons, append_assoc, length_cons, readRecords]
    by_cases hf : (reloadRecord now record).1.localEnqueuedAtUnixMs = 0
    · rw [if_pos hf] at hre
      exact run_bind_error hre
    · rw [if_neg hf] at hre
      rw [run_bind_ok hre]
      refine ih h.tail ?_
      obtain ⟨other, ho, hother0⟩ := hz
      rcases mem_cons.mp ho with rfl | hl
      · exact absurd hother0 hf
      · exact ⟨other, hl, hother0⟩

lemma foldl_extend (records : List OutboxRecord) (loaded : Loaded) :
    (records.foldl (Loaded.extend now) loaded).activeSession = loaded.activeSession ∧
      (records.foldl (Loaded.extend now) loaded).losses = loaded.losses ∧
      (records.foldl (Loaded.extend now) loaded).records =
        loaded.records ++ records.map (fun record => (reloadRecord now record).1) ∧
      (records.foldl (Loaded.extend now) loaded).clamped =
        (loaded.clamped || records.any fun record => (reloadRecord now record).2) := by
  induction records generalizing loaded with
  | nil => simp
  | cons record records ih =>
    obtain ⟨ha, hl, hr, hc⟩ := ih (loaded.extend now record)
    rw [foldl_cons]
    refine ⟨ha, hl, ?_, ?_⟩
    · rw [hr]
      simp [Loaded.extend]
    · rw [hc]
      simp [Loaded.extend, Bool.or_assoc]

lemma payloadBytes_foldl_extend {records : List OutboxRecord} (h : Readable loaded records) :
    (records.foldl (Loaded.extend now) loaded).payloadBytes.toNat =
      loaded.payloadBytes.toNat + payloadSum (records.map OutboxRecord.payload) := by
  induction records generalizing loaded with
  | nil => rfl
  | cons record records ih =>
    have hl : record.payload.2.length = record.encodedBytes.length := rfl
    rw [foldl_cons, ih h.tail, toNat_extend h, map_cons, payloadSum_cons]
    omega

end Records

/-! ## Losses -/

lemma run_readCounters {loss : TelemetryOutboxAggregateLoss} {rest : Bytes} : (readCounters loss.sessionId).run
      (le loss.rejectedBatches ++ (le loss.conflictBatches ++ (le loss.expiredBatches ++
        (le loss.firstRecordedUnixMs ++ (le loss.lastUpdatedUnixMs ++ rest))))) = some (loss, rest) := by
  simp only [readCounters, run_bind_readLe_iff, run_pure_iff]
  exact ⟨_, _, rfl, _, _, rfl, _, _, rfl, _, _, rfl, _, _, rfl, rfl, rfl⟩

lemma run_readLosses {losses read : List TelemetryOutboxAggregateLoss} {rest : Bytes}
    (h : SoundLosses (lossSessions (read ++ losses))) :
    (readLosses losses.length read).run (losses.flatMap lossBytes ++ rest) = .ok (read ++ losses, rest) := by
  induction losses generalizing read with
  | nil =>
    rw [append_nil]
    rfl
  | cons loss losses ih =>
    have hc : read ++ loss :: losses = read ++ [loss] ++ losses := by simp
    have hb : (loss :: losses).flatMap lossBytes ++ rest =
        loss.sessionId.toList ++ (le loss.rejectedBatches ++ (le loss.conflictBatches ++
          (le loss.expiredBatches ++ (le loss.firstRecordedUnixMs ++
            (le loss.lastUpdatedUnixMs ++ (losses.flatMap lossBytes ++ rest)))))) := by
      simp [lossBytes]
    have hz : loss.sessionId ≠ Block.zero 16 := by
      refine h.ne_zero _ ?_
      simp [lossSessions]
    have hn : hasSlot loss.sessionId read = false := by
      rw [← Bool.not_eq_true, hasSlot_iff]
      have := h.nodup
      rw [lossSessions, map_append, nodup_append] at this
      intro hm
      exact this.2.2 _ hm _ (by simp) rfl
    rw [hb, length_cons, readLosses, run_bind_ok (run_orCorrupt (run_readBlock_iff.mpr rfl)),
      run_bind_ok (run_orCorrupt run_readCounters)]
    rw [if_neg (by simp [hz, hn]), ih (hc ▸ h), hc]

/-! ## The file -/

section File

variable {platform : Platform} {stored : TelemetryOutbox} {now : UInt64}

lemma length_flatMap_recordBytes (records : List OutboxRecord) : (records.flatMap recordBytes).length =
      22 * records.length + payloadSum (records.map OutboxRecord.payload) := by
  induction records with
  | nil => rfl
  | cons record records ih =>
    have hr : (recordBytes record).length = 22 + record.payload.2.length := by
      simp [recordBytes, OutboxRecord.payload]
      omega
    rw [flatMap_cons, length_append, ih, hr, map_cons, payloadSum_cons, length_cons]
    omega

lemma length_flatMap_lossBytes (losses : List TelemetryOutboxAggregateLoss) :
    (losses.flatMap lossBytes).length = 56 * losses.length := by
  induction losses with
  | nil => rfl
  | cons loss losses ih =>
    have hl : (lossBytes loss).length = 56 := by simp [lossBytes]
    rw [flatMap_cons, length_append, ih, hl, length_cons]
    omega

lemma length_outboxPlaintext : (outboxPlaintext stored).length =
      32 + 56 * stored.losses.length + 22 * stored.records.length + payloadSum stored.payloads := by
  have hr := length_flatMap_recordBytes stored.records
  have hl := length_flatMap_lossBytes stored.losses
  simp only [payloads, outboxPlaintext, flatten_cons, flatten_nil,
    length_append, le_length, size_uint16, size_uint32, Block.length_toList, hr, hl,
    length_nil]
  omega

lemma length_outboxPlaintext_le (h : Sound stored) : (outboxPlaintext stored).length ≤ 8500000 := by
  have hl := h.losses.length_le
  have hr := h.records.length_le
  have ht := h.records.total_le
  simp only [lossSessions, payloads, length_map, kMaximumLossContexts,
    kMaximumTelemetryOutboxBatches, kMaximumTelemetryOutboxBytes] at hl hr ht
  rw [length_outboxPlaintext]
  simp only [payloads]
  omega

lemma readable_stored (h : Sound stored) :
    Readable ⟨stored.activeSessionId, stored.losses, [], 0, false⟩ stored.records where
  encoded record hr := h.records.encoded _ (mem_map_of_mem hr)
  session record hr := h.records.session _ (mem_map_of_mem hr)
  quota := by
    change 0 + _ ≤ _
    rw [Nat.zero_add]
    exact h.records.total_le

lemma activeSessionId_ne_zero (h : Sound stored) (hn : stored.records ≠ []) :
    stored.activeSessionId ≠ Block.zero 16 := by
  obtain ⟨record, rest, hr⟩ := exists_cons_of_ne_nil hn
  have hm : record.payload ∈ stored.payloads :=
    mem_map_of_mem (hr ▸ mem_cons_self)
  have hp := h.records.encoded _ hm
  rw [← h.records.session _ hm]
  exact sessionId_ne_zero (hp.1 ▸ hp.2)

lemma run_readContext (h : Sound stored) {rest : Bytes} :
    (readContext kOutboxVersion).run (stored.activeSessionId.toList ++
      (le (ofNat stored.losses.length) ++ (stored.losses.flatMap lossBytes ++ rest))) =
      .ok ((stored.activeSessionId, stored.losses), rest) := by
  have hc := h.losses.length_le
  rw [lossSessions, length_map] at hc
  have hn : (ofNat stored.losses.length).toNat = stored.losses.length :=
    UInt32.toNat_ofNat_of_lt' (Nat.lt_of_le_of_lt hc (by decide))
  rw [readContext, if_neg (by decide), run_bind_ok (run_orCorrupt (run_readBlock_iff.mpr rfl)),
    run_bind_ok (run_orCorrupt (run_readLe_iff.mpr rfl)), hn, if_neg (Nat.not_lt.mpr hc),
    run_bind_ok (@run_readLosses stored.losses [] rest h.losses)]
  rfl

lemma run_readVersion : readVersion.run (outboxPlaintext stored) = some (kOutboxVersion,
      stored.activeSessionId.toList ++ (le (ofNat stored.losses.length) ++
        (stored.losses.flatMap lossBytes ++ (le (ofNat stored.records.length) ++
          (stored.records.flatMap recordBytes ++ []))))) := by
  have hb : outboxPlaintext stored = le kOutboxMagic ++ (le kOutboxVersion ++ (le (0 : UInt16) ++
      (stored.activeSessionId.toList ++ (le (ofNat stored.losses.length) ++
        (stored.losses.flatMap lossBytes ++ (le (ofNat stored.records.length) ++
          (stored.records.flatMap recordBytes ++ []))))))) := by
    simp [outboxPlaintext]
  rw [hb]
  simp only [readVersion, run_bind_readLe_iff, run_bind_require_iff, run_pure_iff]
  exact ⟨_, _, rfl, rfl, _, _, rfl, .inr rfl, _, _, rfl, rfl, rfl, rfl⟩

lemma run_readOutbox (h : Sound stored) : (readOutbox now).run (outboxPlaintext stored) = (do
        let loaded ← readRecords kOutboxVersion now stored.records.length
          ⟨stored.activeSessionId, stored.losses, [], 0, false⟩
        pure (kOutboxVersion, loaded) : Loader (UInt16 × Loaded)).run (stored.records.flatMap recordBytes ++ []) := by
  have hc := h.records.length_le
  rw [payloads, length_map] at hc
  have hn : (ofNat stored.records.length).toNat = stored.records.length :=
    UInt32.toNat_ofNat_of_lt' (Nat.lt_of_le_of_lt hc (by decide))
  rw [readOutbox, run_bind_ok (run_orCorrupt run_readVersion), run_bind_ok (run_readContext h),
    run_bind_ok (run_orCorrupt (run_readLe_iff.mpr rfl)), hn, if_neg (Nat.not_lt.mpr hc)]
  rfl

lemma settleLoaded_stored (h : Sound stored) {loaded : Loaded}
    (hacti : loaded.activeSession = stored.activeSessionId) (hloss : loaded.losses = stored.losses)
    (hreco : loaded.records = stored.records.map fun record => (reloadRecord now record).1) :
    settleLoaded kOutboxVersion now loaded =
      if Dated stored then
        .ok { loaded with
          losses := reloadLosses now stored.losses
          clamped := loaded.clamped || stored.losses.any (fun loss => (clampLoss now loss).2) ||
            decide ((reloadLosses now stored.losses).length ≠ stored.losses.length) }
      else .error (.corrupt "outbox loss retention timestamp missing") := by
  have hcont : ¬(loaded.activeSession = Block.zero 16 ∧ loaded.records ≠ []) := by
    rintro ⟨hzero, hne⟩
    refine activeSessionId_ne_zero h ?_ (hacti ▸ hzero)
    intro hnil
    exact hne (by rw [hreco, hnil]; rfl)
  have hvers : ¬(kOutboxVersion = 1) := by decide
  have hdated : (stored.losses.any fun loss => loss.firstRecordedUnixMs == 0 && !loss.isEmpty) =
      !decide (Dated stored) := by
    rw [Bool.eq_iff_iff, any_eq_true, Bool.not_eq_true', decide_eq_false_iff_not, Dated]
    push Not
    simp
  simp only [settleLoaded, hvers, false_and, if_false, true_and, hcont, hloss, hdated]
  by_cases hall : Dated stored
  · simp only [hall, decide_true, Bool.not_true, Bool.false_eq_true, if_false, if_true]
    rfl
  · simp [hall]

/-- **What is written of a sound outbox passes every check but two.** -/
theorem loadOutbox_outboxPlaintext (h : Sound stored) :
    loadOutbox platform now (outboxPlaintext stored ++ (platform.sha256 (outboxPlaintext stored)).toList) =
      if Arrived now stored then if Dated stored then .ok (reload now stored)
        else .error (.corrupt "outbox loss retention timestamp missing")
      else .error (.corrupt "outbox arrival time invalid") := by
  have hbound := length_outboxPlaintext_le h
  have hleast := @length_outboxPlaintext stored
  have hsize : (outboxPlaintext stored ++ (platform.sha256 (outboxPlaintext stored)).toList).length - 32 =
        (outboxPlaintext stored).length := by simp
  have hsha : sha256Of platform.sha256 (outboxPlaintext stored) =
      some (platform.sha256 (outboxPlaintext stored)) := by
    rw [sha256Of, if_neg (by omega)]
  rw [loadOutbox, if_neg (by simp; omega)]
  simp only [hsize, take_left', drop_left', hsha, ne_eq, not_true_eq_false, if_false, run_readOutbox h]
  by_cases harri : Arrived now stored
  · rw [run_bind_ok (run_readRecords (readable_stored h) harri), if_pos harri]
    obtain ⟨hacti, hloss, hreco, hclam⟩ := @foldl_extend now stored.records
      ⟨stored.activeSessionId, stored.losses, [], 0, false⟩
    have hbytes := @payloadBytes_foldl_extend now _ _ (readable_stored h)
    rw [nil_append] at hreco
    simp only [StateT.run_pure]
    change settleLoaded kOutboxVersion now _ = _
    rw [settleLoaded_stored h hacti hloss hreco]
    split
    · have htotal : (stored.records.foldl (Loaded.extend now)
          ⟨stored.activeSessionId, stored.losses, [], 0, false⟩).payloadBytes =
            stored.totalPayloadBytes := by
        rw [← UInt64.toNat_inj, hbytes, h.records.total]
        exact Nat.zero_add _
      rw [reload, hacti, hreco, hclam, htotal, Bool.false_or]
    · rfl
  · have hzero : ∃ record ∈ stored.records, (reloadRecord now record).1.localEnqueuedAtUnixMs = 0 := by
      simpa [Arrived] using harri
    rw [run_bind_error (run_readRecords_error (readable_stored h) hzero), if_neg harri]

variable {seed : ℕ}

lemma length_protectedPayload_le (h : Sound stored) : (protectedPayload platform seed stored).length ≤ 8600000 := by
  have hl := platform.length_protect_le seed outboxEntropy
    (outboxPlaintext stored ++ (platform.sha256 (outboxPlaintext stored)).toList)
  have hb := length_outboxPlaintext_le h
  rw [length_append, Block.length_toList] at hl
  simp only [protectedPayload]
  omega

lemma decryptPayload_protectedPayload {calls : OpenCalls} (h : Sound stored)
    (hr : calls.readFault = none) (hd : calls.decryptFault = none) :
    decryptPayload platform calls (protectedPayload platform seed stored) =
      .ok (outboxPlaintext stored ++ (platform.sha256 (outboxPlaintext stored)).toList) := by
  have hn : outboxPlaintext stored ++ (platform.sha256 (outboxPlaintext stored)).toList ≠ [] := by
    intro hni
    have := congrArg length hni
    rw [length_append, length_outboxPlaintext, length_nil] at this
    omega
  have hs : ¬maximumFileBytes < (protectedPayload platform seed stored).length :=
    Nat.not_lt.mpr ((length_protectedPayload_le h).trans (by decide))
  have hb : (protectedPayload platform seed stored).isEmpty = false := by
    rw [isEmpty_eq_false_iff]
    exact platform.protect_ne_nil _ _ _
  have hp : platform.unprotect (protectedPayload platform seed stored) outboxEntropy =
      outboxPlaintext stored ++ (platform.sha256 (outboxPlaintext stored)).toList :=
    platform.unprotect_protect _ _ _ hn
  have hf : (outboxPlaintext stored ++ (platform.sha256 (outboxPlaintext stored)).toList).isEmpty = false :=
    isEmpty_eq_false_iff.mpr hn
  simp only [decryptPayload, hs, if_false, hr, hb, Bool.false_eq_true, hd, hp, hf]

end File

end Nstu.Telemetry.Outbox
