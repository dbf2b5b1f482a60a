import Nstu.Telemetry.Outbox.Legacy

/-!
# The loss quota

A run starts with a fresh object and any payload files in the first format.  `Provided` is its
invariant: an open outbox is `Reserved`, and so is the outbox each file was written from that is not
one of those.  `loss_quota_unreached` is what it means for the two places that check the quota after
a batch was accepted.
-/

namespace Nstu.Telemetry.Outbox

open Wire Reader

/-- A protected file in the first format. -/
def LegacyBlob (platform : Platform) (blob : Bytes) : Prop :=
  LegacyPlaintext (platform.unprotect blob outboxEntropy)

/-- An open outbox has room for what may be lost, and so has what its files were written from. -/
structure Provided (platform : Platform) (machine : Machine) : Prop where
  files : ∀ path blob, (machine.disk path).payload = some blob → LegacyBlob platform blob ∨
    ∃ stored seed, Reserved stored ∧ blob = protectedPayload platform seed stored
  current : machine.outbox.isOpen = true → Reserved machine.outbox

section Rules

variable {platform : Platform} {machine after : Machine}

lemma Provided.keep (h : Provided platform machine) (hc : after.outbox.isOpen → Reserved after.outbox)
    (hd : ∀ path, (after.disk path).payload = (machine.disk path).payload ∨
      (after.disk path).payload = none) : Provided platform after where
  files path blob hb := by
    rcases hd path with hs | hn
    · exact h.files path blob (hs.symm.trans hb)
    · rw [hn] at hb
      cases hb
  current := hc

lemma Provided.close (h : Provided platform machine) (hc : after.outbox.isOpen = false)
    (hd : ∀ path, (after.disk path).payload = (machine.disk path).payload ∨
      (after.disk path).payload = none) : Provided platform after := by
  refine h.keep ?_ hd
  intro ho
  rw [hc] at ho
  cases ho

lemma Provided.write {seed : ℕ} (h : Provided platform machine) (hr : Reserved after.outbox)
    (hd : PayloadWritten after.outbox.path (protectedPayload platform seed after.outbox)
      machine.disk after.disk) : Provided platform after where
  files path blob hb := by
    by_cases hp : path = after.outbox.path
    · rw [hp, hd.written, Option.some.injEq] at hb
      exact .inr ⟨after.outbox, seed, hr, hb.symm⟩
    · rw [hd.other path hp] at hb
      exact h.files path blob hb
  current _ := hr

end Rules

/-! ## Calls -/

section Calls

variable {platform : Platform} {machine : Machine}

lemma provided_pass {calls : PruneCalls} {now : UInt64} {force : Bool}
    {outcome : Except String ℕ × Machine} (h : Provided platform machine) (hrese : Reserved machine.outbox)
    (heffe : PruneEffect platform calls now force machine outcome) :
    Provided platform outcome.2 ∧ Reserved outcome.2.outbox := by
  cases heffe with
  | kept hopen hpath hholds hdisk hforce =>
    have hafter := reserved_of_holds hholds hrese
    exact ⟨h.keep (fun _ => hafter) fun path => .inl (hdisk path), hafter⟩
  | @written result marked after seed barrier hmarks hcont hquota hafter hdisk =>
    have hprun : Reserved after.outbox := by
      rw [hafter]
      exact reserved_pruned (reserved_of_holds hmarks.holds hrese)
    have hpath : after.outbox.path = machine.outbox.path :=
      (congrArg TelemetryOutbox.path hafter).trans hmarks.path
    exact ⟨h.write hprun (hpath.symm ▸ hdisk), hprun⟩

lemma provided_prune {calls : PruneCalls} {now : UInt64} {force : Bool}
    (h : Provided platform machine) (hr : Reserved machine.outbox) :
    Provided platform (pruneExpiredLocked platform calls now force machine).2 ∧
      Reserved (pruneExpiredLocked platform calls now force machine).2.outbox :=
  provided_pass h hr (pruneEffect_of_exit pruneExpiredLocked_exit)

variable {batch : TelemetryBatch}

lemma provided_admit {calls : EnqueueCalls} {outcome : Except String Unit × Machine} (h : Provided platform machine)
    (he : AdmitExit platform calls batch machine outcome) : Provided platform outcome.2 := by
  cases he with
  | refused message => exact h
  | added ho ha hd =>
    exact h.write (reserved_admitted (h.current ho) ha) (hd ▸ payloadWritten_changeFiles rfl)

lemma provided_enqueue {calls : EnqueueCalls}
    (h : Provided platform machine) : Provided platform (enqueue platform calls batch machine).2 :=
  enqueue_keeps h (fun ho _ => (provided_prune h (h.current ho)).1) provided_admit

variable {ack : TelemetryAck}

lemma provided_ack {calls : AckCalls} {now : UInt64} {outcome : AckOutcome × Machine} (h : Provided platform machine)
    (he : AckExit platform calls now ack machine outcome) : Provided platform outcome.2 := by
  cases he with
  | ignored | failed message => exact h
  | scheduled ho hr hd =>
    exact h.write (reserved_scheduled (h.current ho) hr) (hd ▸ payloadWritten_changeFiles rfl)
  | settled ho hr ha hs hl hd =>
    exact h.write (reserved_settled (h.current ho) hr hl) (hd ▸ payloadWritten_changeFiles rfl)

lemma provided_acknowledge {calls : AckCalls} {now : UInt64} (h : Provided platform machine) :
    Provided platform (acknowledge platform calls ack now machine).2 :=
  acknowledge_keeps h (fun ho _ => (provided_prune h (h.current ho)).1) provided_ack

lemma provided_nextBatchToSend {calls : OfferCalls} {now timeout : UInt64} (h : Provided platform machine) :
    Provided platform (nextBatchToSend platform calls now timeout machine).2 :=
  nextBatchToSend_keeps h (fun ho _ => (provided_prune h (h.current ho)).1) fun h =>
    h.keep (fun ho => reserved_of_holds holds_offered (h.current ho)) fun _ => .inl rfl

lemma provided_clearInflight (h : Provided platform machine) : Provided platform (clearInflight machine) := by
  refine h.keep ?_ fun _ => .inl rfl
  intro ho
  exact reserved_of_holds holds_clearInflight (h.current ho)

lemma provided_pruneExpired {calls : OfferCalls} {now : UInt64} (h : Provided platform machine) :
    Provided platform (pruneExpired platform calls now machine).2 :=
  pruneExpired_keeps h fun ho _ => (provided_prune h (h.current ho)).1

lemma provided_persistEmptied {calls : PurgeCalls} {remains failed : String}
    {emptied : TelemetryOutbox} (h : Provided platform machine) (hr : Reserved emptied) :
    Provided platform (persistEmptied platform calls remains failed { machine with outbox := emptied }).2 := by
  simp only [persistEmptied]
  split
  · rename_i disk hp
    obtain ⟨ho, seed, ha, hd⟩ := persistLocked_ok hp
    exact h.write hr (hd ▸ payloadWritten_changeFiles rfl)
  · exact h.close rfl (payload_unwritten calls)

lemma provided_purge {calls : PurgeCalls} (h : Provided platform machine) :
    Provided platform (purge platform calls machine).2 := by
  simp only [purge]
  split
  · exact h
  · rename_i hc
    refine provided_persistEmptied h (reserved_emptied rfl ?_)
    exact (List.length_filter_le _ _).trans (h.current (by simpa using hc)).losses

lemma provided_clear {calls : PurgeCalls} (h : Provided platform machine) :
    Provided platform (clear platform calls machine).2 := by
  simp only [clear]
  split
  · exact h
  · exact provided_persistEmptied h (reserved_emptied rfl (Nat.zero_le _))

end Calls

/-! ## Opening -/

section Open

variable {platform : Platform} {calls : OpenCalls} {path : Path} {now time : UInt64}
  {machine ready : Machine} {files : OutboxFiles} {observed : Option UInt64}

lemma provided_ready (h : Provided platform machine)
    (hr : Ready platform calls path now machine time ready files observed) : Provided platform ready := by
  refine h.close hr.isOpen ?_
  intro other
  by_cases ho : other = path
  · rw [ho]
    have hf : ready.disk path = ready.files := by rw [Machine.files, hr.path_eq]
    rw [hf]
    exact hr.payload
  · rw [hr.other ho]
    exact .inl rfl

lemma reserved_loaded {blob plaintext : Bytes} {loaded : Loaded} (h : Provided platform ready)
    (hblob : ready.files.payload = some blob) (hdecr : decryptPayload platform calls blob = .ok plaintext)
    (hload : loadOutbox platform time plaintext = .ok loaded) : Reserved (loadedOutbox loaded ready.outbox) := by
  have hplai := decryptPayload_eq hdecr
  rcases h.files _ blob hblob with hlega | ⟨stored, seed, hstor, rfl⟩
  · exact reserved_legacy _ (hplai ▸ hlega) hload
  · have hwrit : plaintext = outboxPlaintext stored ++ (platform.sha256 (outboxPlaintext stored)).toList := by
      rw [hplai, protectedPayload, platform.unprotect_protect]
      intro hnil
      have hleng := congrArg List.length hnil
      simp at hleng
    exact reserved_written _ hstor (hwrit ▸ hload)

lemma provided_openOutbox (h : Provided platform machine) :
    Provided platform (openOutbox platform calls path now machine).2 := by
  have hexit := @openOutbox_exit platform calls path now machine
  revert hexit
  generalize openOutbox platform calls path now machine = outcome
  generalize (if now = 0 then calls.start else now) = start
  intro hexit
  have hempty : ∀ {time ready files observed}, Ready platform calls path start machine time ready files observed →
      ∀ isOpen barrier, Reserved { ready.outbox with isOpen := isOpen, expiryBarrierMs := barrier } := by
    intro time ready files observed hready isOpen barrier
    refine reserved_emptied hready.blank.records ?_
    change ready.outbox.losses.length ≤ _
    rw [hready.blank.losses]
    exact Nat.zero_le _
  have hpruned : ∀ {time ready files observed blob plaintext loaded},
      Ready platform calls path start machine time ready files observed → ready.files.payload = some blob →
      decryptPayload platform calls blob = .ok plaintext → loadOutbox platform time plaintext = .ok loaded →
      Provided platform (pruneExpiredLocked platform calls.prune time loaded.clamped
        { ready with outbox := loadedOutbox loaded ready.outbox }).2 := by
    intro time ready files observed blob plaintext loaded hready hblob hdecr hload
    have hprov := provided_ready h hready
    have hloade := reserved_loaded hprov hblob hdecr hload
    exact (@provided_prune platform { ready with outbox := loadedOutbox loaded ready.outbox } calls.prune time
      loaded.clamped (hprov.keep (fun _ => hloade) fun _ => .inl rfl) hloade).1
  cases hexit with
  | refused => exact h
  | stopped hclos hother hpayl hexpi =>
    refine h.close hclos ?_
    intro other
    by_cases hpath : other = path
    · rw [hpath]
      exact hpayl
    · rw [hother other hpath]
      exact .inl rfl
  | @uncleared message time ready files observed seed hready hpayl =>
    have hblank := hempty hready ready.outbox.isOpen ready.outbox.expiryBarrierMs
    exact h.write hblank (hready.written hready.path_eq)
  | @created time ready files observed seed hready hpayl =>
    have hwrit := (@Ready.written platform calls path start time machine ready files observed
      { ready.outbox with isOpen := true, expiryBarrierMs := 0 } seed hready
        hready.path_eq).same (samePayloads_unbarred ⟨{ ready.outbox with isOpen := true }, _⟩)
    exact h.write (hempty hready true 0) hwrit
  | unpruned hready _ hblob hdecr hload hprune =>
    have hprov := hpruned hready hblob hdecr hload
    rw [hprune] at hprov
    exact hprov.close rfl fun _ => .inl rfl
  | loaded hready _ hblob hdecr hload hprune =>
    have hprov := hpruned hready hblob hdecr hload
    rw [hprune] at hprov
    exact hprov

end Open

/-! ## Runs -/

/-- The run of a list of calls on a fresh object, over the files that are there. -/
def outboxRunFrom (platform : Platform) (disk : Disk) (ops : List OutboxOp) : Machine :=
  ops.foldl (Machine.step platform) ⟨.new, disk⟩

section Run

variable {platform : Platform} {machine : Machine}

variable {op : OutboxOp}

/-- Each operation leaves a loss slot for each session. -/
lemma provided_step (h : Provided platform machine) : Provided platform (machine.step platform op) := by
  cases op with
  | «open» path now calls => exact provided_openOutbox h
  | close => exact h.close rfl fun _ => .inl rfl
  | enqueue batch calls => exact provided_enqueue h
  | acknowledge ack now calls => exact provided_acknowledge h
  | nextBatchToSend now timeout calls => exact provided_nextBatchToSend h
  | clearInflight => exact provided_clearInflight h
  | pruneExpired now calls => exact provided_pruneExpired h
  | purge calls => exact provided_purge h
  | clear calls => exact provided_clear h
  | restart => exact h.close rfl fun _ => .inl rfl

lemma provided_run {disk : Disk} (ops : List OutboxOp)
    (hd : ∀ path blob, (disk path).payload = some blob → LegacyBlob platform blob) :
    Provided platform (outboxRunFrom platform disk ops) := by
  have hs : ∀ (ops : List OutboxOp) (machine : Machine), Provided platform machine →
      Provided platform (ops.foldl (Machine.step platform) machine) := by
    intro ops
    induction ops with
    | nil => exact fun _ hm => hm
    | cons op ops ih => exact fun _ hm => ih _ (provided_step hm)
  refine hs ops _ ⟨fun path blob hb => .inl (hd path blob hb), ?_⟩
  intro ho
  cases ho

lemma reserved_passes {time : UInt64} {outbox : TelemetryOutbox}
    (h : Provided platform machine) (hp : machine.Passes platform time outbox op) : Reserved outbox := by
  cases op with
  | «open» path now calls =>
    obtain ⟨arrival, ready, files, observed, blob, plaintext, loaded, hr, -, hb, hd,
      hl, rfl, -⟩ := hp
    exact reserved_loaded (provided_ready h hr) hb hd hl
  | enqueue batch calls =>
    obtain ⟨ho, -, -, rfl, -⟩ := hp
    exact h.current ho
  | acknowledge ack now calls =>
    obtain ⟨ho, -, rfl, -⟩ := hp
    exact h.current ho
  | nextBatchToSend now timeout calls | pruneExpired now calls =>
    obtain ⟨ho, rfl, -⟩ := hp
    exact h.current ho
  | close | clearInflight | purge calls | clear calls | restart => exact hp.elim

end Run

/-- **A terminal answer never meets the loss quota.**  Whatever the run, over files in the first format
or none: where a batch is pending, the loss table has an entry for its session or fewer than
sixty-four entries.  So `acknowledge` finds room in the table, with or without a pass before it, and
so does every pass for the records it has marked. -/
theorem loss_quota_unreached (platform : Platform) (disk : Disk) (ops : List OutboxOp)
    (hdisk : ∀ path blob, (disk path).payload = some blob → LegacyBlob platform blob) :
    let machine := outboxRunFrom platform disk ops
    (machine.outbox.isOpen = true → ∀ record ∈ machine.outbox.records,
      hasSlot record.batch.sessionId machine.outbox.losses = true ∨
        machine.outbox.losses.length < kMaximumLossContexts) ∧
    (machine.outbox.isOpen = true → ∀ (status : TelemetryAckStatus) (stamp : UInt64),
      (∀ record ∈ machine.outbox.records,
        settleLosses status record.batch.sessionId stamp machine.outbox.losses ≠ none) ∧
      ∀ (calls : PruneCalls) (now : UInt64) (count : ℕ) (pruned : Machine),
        pruneExpiredLocked platform calls now false machine = (.ok count, pruned) →
        ∀ record ∈ pruned.outbox.records,
          settleLosses status record.batch.sessionId stamp pruned.outbox.losses ≠ none) ∧
    ∀ (op : OutboxOp) (time : UInt64) (outbox : TelemetryOutbox), machine.Passes platform time outbox op →
      ∀ (count : ℕ) (observed : TelemetryOutbox) (pending : Bool) (barrier : UInt64),
        observeExpired time outbox = (.ok count, observed) →
        let marked :=
          { observed with expiryRetryPending := pending, expiryBarrierMs := barrier }
        marked.losses.length - marked.losses.countP (marked.lossHasExpired time) +
          (incomingContexts time marked).length ≤ kMaximumLossContexts := by
  intro machine
  have hprovided : Provided platform machine := provided_run ops hdisk
  refine ⟨?_, ?_, ?_⟩
  · intro hopen record hrecord
    have hreserved := hprovided.current hopen
    have hroom := hreserved.room (List.ne_nil_of_mem hrecord)
    rw [← session_of_record hreserved hrecord, Roomy, ← hasSlot_iff, lossSessions, List.length_map] at hroom
    exact hroom
  · intro hopen status stamp
    have hreserved := hprovided.current hopen
    refine ⟨fun record hrecord => settleLosses_ne_none hreserved hrecord status stamp, ?_⟩
    intro calls now count pruned hprune record hrecord
    have hpruned := @provided_prune platform machine calls now false hprovided hreserved
    rw [hprune] at hpruned
    exact settleLosses_ne_none hpruned.2 hrecord status stamp
  · intro op time outbox hpass count observed pending barrier hobserved
    have hmarks := @marks_observeExpired time outbox
    rw [hobserved] at hmarks
    have hholds : Holds outbox { observed with expiryRetryPending := pending, expiryBarrierMs := barrier } :=
      ⟨hmarks.holds.activeSessionId, hmarks.holds.losses, hmarks.holds.totalPayloadBytes, hmarks.holds.records⟩
    exact incoming_fits (reserved_of_holds hholds (reserved_passes hprovided hpass))

/-- A file in the first format, with a rejected batch and one that is pending. -/
def legacyFile : Bytes :=
  let batch := encodeTelemetryBatch (probeBatch 1 1000)
  let payload := [le kOutboxMagic, le (1 : UInt16), le (0 : UInt16), le (1 : UInt64), le (0 : UInt64),
    le (0 : UInt64), le (900 : UInt64), le (900 : UInt64), le (1 : UInt32),
    le (UInt32.ofNat batch.length), batch, le (0 : UInt16), le (0 : UInt64)].flatten
  plainPlatform.protect 0 outboxEntropy (payload ++ (plainPlatform.sha256 payload).toList)

def legacyDisk : Disk := fun _ => ⟨some legacyFile, none, false⟩

lemma legacyBlob_legacyFile : LegacyBlob plainPlatform legacyFile := by
  intro version rest hr
  have ho : (readVersion.run ((plainPlatform.unprotect legacyFile outboxEntropy).take
      ((plainPlatform.unprotect legacyFile outboxEntropy).length - 32))).map Prod.fst = some 1 := by
    decide +kernel
  rw [hr, Option.map_some, Option.some.injEq] at ho
  exact ho

def migrateOps : List OutboxOp := [.open "outbox" 2000 (smoothOpen 2000)]

/-- A legacy disk migrated on the first opening. -/
theorem loss_quota_unreached_migrated : (outboxRunFrom plainPlatform legacyDisk migrateOps).outbox.records.length = 1 ∧
      ∀ record ∈ (outboxRunFrom plainPlatform legacyDisk migrateOps).outbox.records, hasSlot record.batch.sessionId
            (outboxRunFrom plainPlatform legacyDisk migrateOps).outbox.losses = true ∨
          (outboxRunFrom plainPlatform legacyDisk migrateOps).outbox.losses.length < kMaximumLossContexts :=
  ⟨by decide +kernel, (loss_quota_unreached plainPlatform legacyDisk migrateOps (by
    intro path blob hblob
    cases hblob
    exact legacyBlob_legacyFile)).1 (by decide +kernel)⟩

end Nstu.Telemetry.Outbox
