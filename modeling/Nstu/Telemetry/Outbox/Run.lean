import Nstu.Telemetry.Outbox.Safe

/-!
# Runs of the outbox

A run is a list of calls on the object, with the end of the process among them: the next process has
a fresh object and the files as they are.  It starts with a fresh object and no files.

`kempt_run` is the invariant of every run, and `outbox_representation` says it in the terms of the
object alone.
-/

namespace Nstu.Telemetry.Outbox

open Wire Reader

/-! ## Opening -/

section Open

variable {platform : Platform} {R : TelemetryBatch → Prop} {machine : Machine} {calls : OpenCalls}

variable {files : OutboxFiles}

lemma expireOldPayload_ok {after : OutboxFiles} (h : expireOldPayload calls files = .ok after) :
    after.payload = files.payload ∨ after.payload = none := by
  simp only [expireOldPayload] at h
  split at h
  · cases h
  · split at h
    · cases h
      exact .inl rfl
    · split at h
      · cases h
      · cases h
        exact .inl rfl
      · split at h
        · cases h
          exact .inr rfl
        · cases h

lemma payload_removeRevoked (files : OutboxFiles) : (removeRevoked calls files).2.payload = files.payload ∨
      (removeRevoked calls files).2.payload = none := by
  simp only [removeRevoked]
  split
  · exact .inl rfl
  · split
    · exact .inl rfl
    · split
      · exact .inl rfl
      · split
        · exact .inr rfl
        · exact .inr rfl

variable {outbox : TelemetryOutbox}

lemma kempt_stage (h : Kempt platform R machine) (hc : outbox.isOpen = false)
    (hf : files.payload = machine.files.payload ∨ files.payload = none) :
    Kempt platform R ⟨outbox, machine.changeFiles fun _ => files⟩ := by
  refine h.close hc ?_
  intro path
  by_cases hp : path = machine.outbox.path
  · rw [hp]
    simp only [changeFiles_self]
    exact hf
  · left
    simp only [changeFiles_other hp]

variable {blob plaintext : Bytes}

lemma decryptPayload_ok (h : decryptPayload platform calls blob = .ok plaintext) :
    calls.readFault = none ∧ calls.decryptFault = none := by
  simp only [decryptPayload] at h
  split at h
  · cases h
  · split at h
    · cases h
    · rename_i hr
      split at h
      · cases h
      · split at h
        · cases h
        · rename_i hd
          exact ⟨hr, hd⟩

lemma decryptPayload_eq (h : decryptPayload platform calls blob = .ok plaintext) :
    plaintext = platform.unprotect blob outboxEntropy := by
  obtain ⟨hr, hd⟩ := decryptPayload_ok h
  simp only [decryptPayload, hr, hd] at h
  split_ifs at h
  cases h
  rfl

/-- A closed outbox with nothing in it. -/
structure Blank (outbox : TelemetryOutbox) : Prop where
  isOpen : outbox.isOpen = false
  records : outbox.records = []
  totalPayloadBytes : outbox.totalPayloadBytes = 0
  losses : outbox.losses = []

lemma Blank.withBarrier (h : Blank outbox) (observed : Option UInt64) : Blank (outbox.withBarrier observed) := by
  cases observed with
  | none => exact h
  | some observed => exact ⟨h.isOpen, h.records, h.totalPayloadBytes, h.losses⟩

lemma kempt_createPayload (h : Kempt platform R machine) (hblank : Blank machine.outbox) :
    Kempt platform R (createPayload platform calls machine).2 := by
  have hsafe : Safe R { machine.outbox with isOpen := true } := by
    refine safe_emptied hblank.records hblank.totalPayloadBytes ?_
    simp only [hblank.losses]
    exact ⟨Nat.zero_le _, List.nodup_nil, by simp [lossSessions]⟩
  simp only [createPayload]
  split
  · exact h
  · rename_i disk hpers
    obtain ⟨hopen, seed, hansw, hdisk⟩ := persistLocked_ok hpers
    have hwrit : Kempt platform R ⟨{ machine.outbox with isOpen := true }, disk⟩ :=
      h.write hsafe (fun _ _ _ hsafe => hsafe) (hdisk ▸ payloadWritten_changeFiles rfl)
    split
    · exact hwrit.close hblank.isOpen fun _ => .inl rfl
    · rename_i cleared hclear
      simp only [clearExpiryBarrier] at hclear
      split at hclear
      · cases hclear
        have hholds : Holds { machine.outbox with isOpen := true }
            { machine.outbox with isOpen := true, expiryBarrierMs := 0 } :=
          ⟨rfl, rfl, rfl, forall₂_kept_refl _⟩
        exact hwrit.keep (safe_of_holds hholds) rfl rfl hholds (samePayloads_changeFiles fun _ => rfl)
      · cases hclear

/-- What a file that was read makes of a closed outbox: it is what is on file when nothing had to be
clamped, and is written otherwise. -/
lemma Filed.load {P : Path → TelemetryOutbox → Prop} {now time : UInt64} {stored : TelemetryOutbox}
    {seed : ℕ} (h : Filed platform P machine)
    (hpayl : machine.files.payload = some (protectedPayload platform seed stored))
    (hholds : ∀ {after}, Holds (loadedOutbox (reload now stored) machine.outbox) after → P machine.outbox.path after)
    (hprun : ∀ {marked barrier}, Marks (loadedOutbox (reload now stored) machine.outbox) marked →
      marked.expiredLossContexts = (observeLosses time machine.outbox.expiredLossContexts
        (reload now stored).losses).1 →
      marked.losses.length - marked.losses.countP (marked.lossHasExpired time) +
        (incomingContexts time marked).length ≤ kMaximumLossContexts →
      P machine.outbox.path { prunedOutbox calls.prune time marked with expiryBarrierMs := barrier })
    {outcome : Except String ℕ × Machine}
    (heffe : PruneEffect platform calls.prune time (reload now stored).clamped
      { machine with outbox := loadedOutbox (reload now stored) machine.outbox } outcome) :
    ((∃ count, outcome.1 = .ok count) → Filed platform P outcome.2 ∧
        outcome.2.outbox.isOpen ∧ outcome.2.outbox.path = machine.outbox.path) ∧
      Filed platform P { outcome.2 with outbox := closeLocked outcome.2.outbox } := by
  cases heffe with
  | @kept result after hopen hpath hkept hdisk hforce =>
    constructor
    · rintro ⟨count, rfl⟩
      -- Nothing was clamped, so the file holds what was read.
      have hclam : (reload now stored).clamped = false := by
        rw [← Bool.not_eq_true]
        intro hclam
        obtain ⟨message, hmess⟩ := hforce hclam
        cases hmess
      refine ⟨⟨?_, ?_⟩, hopen, hpath⟩
      · intro path blob hblob
        exact h.files path blob ((hdisk path).symm.trans hblob)
      · intro _
        refine ⟨?_, stored, seed, ?_, (holds_reload hclam machine.outbox).trans hkept⟩
        · rw [hpath]
          exact hholds hkept
        · rw [Machine.files, hpath, hdisk]
          exact hpayl
    · refine h.close rfl ?_
      intro path
      exact .inl (hdisk path)
  | @written result marked after seed barrier hmarks hcont hquota hafter hdisk =>
    have hpath : after.outbox.path = machine.outbox.path :=
      (congrArg TelemetryOutbox.path hafter).trans hmarks.path
    have hwrit : Filed platform P after := by
      refine h.write ?_ (fun _ _ _ hprop => hprop) (hpath.symm ▸ hdisk)
      rw [hpath, hafter]
      exact hprun hmarks hcont hquota
    have hopen : after.outbox.isOpen :=
      (congrArg TelemetryOutbox.isOpen hafter).trans hmarks.isOpen
    exact ⟨fun _ => ⟨hwrit, hopen, hpath⟩, hwrit.close rfl fun _ => .inl rfl⟩

variable {now : UInt64}

lemma kempt_loadPayload (h : Kempt platform R machine)
    (hclos : machine.outbox.isOpen = false) (hblob : machine.files.payload = some blob) :
    Kempt platform R (loadPayload platform calls now blob machine).2 := by
  have hquar : ∀ error message, Kempt platform R (failQuarantine calls error message machine).2 := by
    intro error message
    refine kempt_stage h hclos ?_
    simp only
    split
    · exact .inr rfl
    · exact .inl rfl
  simp only [loadPayload]
  split
  · exact h
  · rename_i plaintext hdecr
    obtain ⟨stored, seed, hstor, rfl⟩ := h.files _ _ hblob
    obtain ⟨hread, hfault⟩ := decryptPayload_ok hdecr
    rw [decryptPayload_protectedPayload hstor.sound hread hfault] at hdecr
    cases hdecr
    split
    · exact hquar _ _
    · exact hquar _ _
    · exact h
    · rename_i loaded hload
      rw [loadOutbox_outboxPlaintext hstor.sound] at hload
      split at hload
      · split at hload
        · cases hload
          have hsafe := @safe_reload R stored now hstor machine.outbox
          obtain ⟨hgood, hbad⟩ := Filed.load h hblob (fun hholds => safe_of_holds hholds hsafe)
            (fun hmarks _ hquota => safe_pruned hsafe hmarks hquota) (pruneEffect_of_exit
              (@pruneExpiredLocked_exit platform calls.prune now (reload now stored).clamped
                { machine with outbox := loadedOutbox (reload now stored) machine.outbox }))
          simp only [loadedOutbox] at hgood hbad
          split
          · rename_i hprune
            rw [hprune] at hbad
            exact hbad
          · rename_i count pruned hprune
            rw [hprune] at hgood
            exact (hgood ⟨count, rfl⟩).1
        · cases hload
      · cases hload

lemma kempt_openPayload (h : Kempt platform R machine) (hb : Blank machine.outbox) :
    Kempt platform R (openPayload platform calls now machine).2 := by
  simp only [openPayload]
  split
  · exact h
  · split
    · exact kempt_createPayload h hb
    · rename_i blob hbl
      exact kempt_loadPayload h hb.isOpen hbl

lemma kempt_openUnrevoked (h : Kempt platform R machine) (hb : Blank machine.outbox) :
    Kempt platform R (openUnrevoked platform calls now machine).2 := by
  have hp := @payload_removeRevoked calls machine.files
  simp only [openUnrevoked]
  split
  · rename_i message files hr
    rw [hr] at hp
    exact kempt_stage h hb.isOpen hp
  · rename_i files hr
    rw [hr] at hp
    exact kempt_openPayload (kempt_stage h hb.isOpen hp) hb

lemma kempt_openBarred (h : Kempt platform R machine) (hb : Blank machine.outbox) :
    Kempt platform R (openBarred platform calls now machine).2 := by
  simp only [openBarred]
  split
  · exact h
  · rename_i observed ho
    have hba := hb.withBarrier observed
    exact kempt_openUnrevoked (h.close hba.isOpen fun _ => .inl rfl) hba

lemma kempt_openPath (h : Kempt platform R machine) (hb : Blank machine.outbox) :
    Kempt platform R (openPath platform calls now machine).2 := by
  simp only [openPath]
  split
  · exact h
  · rename_i files hf
    exact kempt_openBarred (kempt_stage h hb.isOpen (expireOldPayload_ok hf)) hb

lemma isOpen_closed (outbox : TelemetryOutbox) :
    (if outbox.isOpen then closeLocked outbox else outbox).isOpen = false := by
  split
  · rfl
  · rename_i hc
    simpa using hc

lemma kempt_openOutbox {path : Path} (h : Kempt platform R machine) :
    Kempt platform R (openOutbox platform calls path now machine).2 := by
  have hc := isOpen_closed machine.outbox
  have hcl : ∀ outbox : TelemetryOutbox, outbox.isOpen = false → Kempt platform R { machine with outbox } :=
    fun outbox ho => h.close ho fun _ => .inl rfl
  simp only [openOutbox]
  generalize (if machine.outbox.isOpen then closeLocked machine.outbox else machine.outbox) = outbox
    at hc
  split
  · exact h
  · split
    · exact hcl _ hc
    · split
      · exact hcl _ hc
      · split
        · exact hcl _ hc
        · exact kempt_openPath (hcl _ hc) ⟨hc, rfl, rfl, rfl⟩

end Open

/-! ## Runs -/

/-- A call on the object, or the end of the process. -/
inductive OutboxOp where
  | «open» (path : Path) (now : UInt64) (calls : OpenCalls)
  | close
  | enqueue (batch : TelemetryBatch) (calls : EnqueueCalls)
  | acknowledge (ack : TelemetryAck) (now : UInt64) (calls : AckCalls)
  | nextBatchToSend (now timeout : UInt64) (calls : OfferCalls)
  | clearInflight
  | pruneExpired (now : UInt64) (calls : OfferCalls)
  | purge (calls : PurgeCalls)
  | clear (calls : PurgeCalls)
  | restart

/-- One call of the outbox. -/
def Machine.step (platform : Platform) (machine : Machine) : OutboxOp → Machine
  | .open path now calls => (openOutbox platform calls path now machine).2
  | .close => { machine with outbox := closeLocked machine.outbox }
  | .enqueue batch calls => (Outbox.enqueue platform calls batch machine).2
  | .acknowledge ack now calls => (Outbox.acknowledge platform calls ack now machine).2
  | .nextBatchToSend now timeout calls =>
    (Outbox.nextBatchToSend platform calls now timeout machine).2
  | .clearInflight => Outbox.clearInflight machine
  | .pruneExpired now calls => (Outbox.pruneExpired platform calls now machine).2
  | .purge calls => (Outbox.purge platform calls machine).2
  | .clear calls => (Outbox.clear platform calls machine).2
  | .restart => { machine with outbox := .new }

/-- A fresh object, and no files. -/
def Machine.initial : Machine := ⟨.new, fun _ => ⟨none, none, false⟩⟩

def outboxRun (platform : Platform) (ops : List OutboxOp) : Machine :=
  ops.foldl (Machine.step platform) .initial

/-- The batches given to `enqueue` have a property. -/
def OutboxOp.Enqueues (R : TelemetryBatch → Prop) : OutboxOp → Prop
  | .enqueue batch _ => R batch
  | _ => True

section Run

variable {platform : Platform} {R : TelemetryBatch → Prop}

/-- Each operation keeps the outbox kempt. -/
lemma kempt_step {machine : Machine} {op : OutboxOp} (h : Kempt platform R machine)
    (hop : op.Enqueues R) : Kempt platform R (machine.step platform op) := by
  cases op with
  | «open» path now calls => exact kempt_openOutbox h
  | close => exact h.close rfl fun _ => .inl rfl
  | enqueue batch calls => exact kempt_enqueue h hop
  | acknowledge ack now calls => exact kempt_acknowledge h
  | nextBatchToSend now timeout calls => exact kempt_nextBatchToSend h
  | clearInflight => exact kempt_clearInflight h
  | pruneExpired now calls => exact kempt_pruneExpired h
  | purge calls => exact kempt_purge h
  | clear calls => exact kempt_clear h
  | restart => exact h.close rfl fun _ => .inl rfl

lemma kempt_initial : Kempt platform R .initial where
  files _ _ hb := by cases hb
  current ho := by cases ho

lemma kempt_run {ops : List OutboxOp} (h : ∀ op ∈ ops, op.Enqueues R) : Kempt platform R (outboxRun platform ops) := by
  have hs : ∀ (ops : List OutboxOp) (machine : Machine), (∀ op ∈ ops, op.Enqueues R) →
      Kempt platform R machine → Kempt platform R (ops.foldl (Machine.step platform) machine) := by
    intro ops
    induction ops with
    | nil => exact fun _ _ hm => hm
    | cons op ops ih =>
      intro machine ho hm
      exact ih _ (fun other hot => ho other (List.mem_cons_of_mem _ hot))
        (kempt_step hm (ho op List.mem_cons_self))
  exact hs ops .initial h kempt_initial

lemma enqueues_true (op : OutboxOp) : op.Enqueues fun _ => True := by
  cases op <;> trivial

/-- **The representation invariant.**  Whatever the clock shows and whichever writes fail, the byte
counter of an open outbox is the size of what it holds and within the quota, as is the number of
records; they are of one exam context, that of the active session, and no two have the same producer
and sequence; and the loss table has at most sixty-four entries, one for a session at most. -/
theorem outbox_representation (platform : Platform) (ops : List OutboxOp)
    (hopen : (outboxRun platform ops).outbox.isOpen = true) :
    let outbox := (outboxRun platform ops).outbox
    outbox.totalPayloadBytes.toNat = (outbox.records.map fun record => record.encodedBytes.length).sum ∧
      outbox.totalPayloadBytes.toNat ≤ kMaximumTelemetryOutboxBytes ∧
      outbox.records.length ≤ kMaximumTelemetryOutboxBatches ∧
      (∀ a ∈ outbox.records, ∀ b ∈ outbox.records, sameContext a.batch b.batch = true) ∧
      (∀ record ∈ outbox.records, record.batch.sessionId = outbox.activeSessionId) ∧
      (outbox.records.map fun record => (record.batch.producerId, record.batch.sequence)).Nodup ∧
      outbox.losses.length ≤ kMaximumLossContexts ∧
      (outbox.losses.map fun loss => loss.sessionId).Nodup ∧
      ∀ loss ∈ outbox.losses, loss.sessionId ≠ Block.zero 16 := by
  have hkempt := @kempt_run platform (fun _ => True) ops fun op _ => enqueues_true op
  have hsound := (hkempt.current hopen).1.sound
  have hrecords := hsound.records
  have hsum : (outboxRun platform ops).outbox.totalPayloadBytes.toNat =
      ((outboxRun platform ops).outbox.records.map fun record => record.encodedBytes.length).sum := by
    rw [hrecords.total, payloadSum, TelemetryOutbox.payloads, List.map_map]
    rfl
  refine ⟨hsum, hrecords.total.le.trans hrecords.total_le, ?_, ?_, ?_, ?_, ?_, hsound.losses.nodup, ?_⟩
  · simpa [TelemetryOutbox.payloads] using hrecords.length_le
  · intro a ha b hb
    exact hrecords.context _ (List.mem_map_of_mem ha) _ (List.mem_map_of_mem hb)
  · intro record hrecord
    exact hrecords.session _ (List.mem_map_of_mem hrecord)
  · have hdistinct := hrecords.distinct
    rw [TelemetryOutbox.payloads, List.map_map] at hdistinct
    exact hdistinct
  · simpa [lossSessions] using hsound.losses.length_le
  · intro loss hloss
    exact hsound.losses.ne_zero _ (List.mem_map_of_mem hloss)

end Run

/-! ## A run -/

/-- A platform that puts a byte in front of a secret. -/
def plainPlatform : Platform where
  sha256 _ := Block.fill 32 7
  protect _ _ plaintext := 0 :: plaintext
  unprotect blob _ := blob.tail
  unprotect_protect _ _ _ _ := rfl
  protect_ne_nil _ _ _ := List.cons_ne_nil _ _
  length_protect_le _ _ plaintext := by simp

def probeSample : TelemetrySample :=
  ⟨.collectorStarted, .browser, 1, [], 0, 0, 0, 1, 0, 0, .none⟩

def probeBatch (sequence firstEnqueuedAt : UInt64) : TelemetryBatch :=
  ⟨[65], Block.fill 32 1, Block.fill 16 2, Block.fill 16 3, [66], Block.fill 16 4, sequence,
    firstEnqueuedAt, [probeSample]⟩

/-- Every system call succeeds, and the clock shows one time. -/
def smoothPrune (time : UInt64) : PruneCalls := ⟨.written 0, .written 0, true, fun _ => time⟩

def smoothOpen (time : UInt64) : OpenCalls where
  start := time
  quarantineCleaned := true
  payloadFound := true
  age := some false
  agedRemoved := true
  expiryFound := true
  expirySized := true
  expiryFault := none
  revokedFound := true
  revokedPayloadRemoved := true
  revokedMarkerRemoved := true
  payloadFoundAgain := true
  created := .written 0
  barrierRemoved := true
  readFault := none
  decryptFault := none
  quarantine := ⟨true, true⟩
  prune := smoothPrune time

def smoothEnqueue (time : UInt64) : EnqueueCalls := ⟨time, smoothPrune time, time, .written 0⟩

def probeAck (sequence : UInt64) (status : TelemetryAckStatus) : TelemetryAck :=
  ⟨Block.fill 16 3, Block.fill 16 4, sequence, Block.fill 32 7, 1500, status⟩

def smoothAck (time : UInt64) : AckCalls := ⟨time, smoothPrune time, time, .written 0⟩

def probeOps : List OutboxOp :=
  [.open "outbox" 1000 (smoothOpen 1000), .enqueue (probeBatch 1 1000) (smoothEnqueue 1000)]

/-- The representation after a probe's run. -/
theorem outbox_representation_probe : (outboxRun plainPlatform probeOps).outbox.records.length = 1 ∧
      (outboxRun plainPlatform probeOps).outbox.totalPayloadBytes.toNat ≤ kMaximumTelemetryOutboxBytes :=
  ⟨by decide +kernel, (outbox_representation plainPlatform probeOps (by decide +kernel)).2.1⟩

end Nstu.Telemetry.Outbox
