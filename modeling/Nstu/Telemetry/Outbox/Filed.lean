import Nstu.Telemetry.Outbox.Exit
import Nstu.Telemetry.Outbox.Reload

/-!
# What is on file

`Filed` ties an open outbox to its payload file.  The file was written from an outbox that `Holds`
what is in memory: everything but the flags, and deadlines that may have been clamped since.  It is
parameterised by a property of outboxes that both sides have, so each claim about runs adds its own.

There are three ways to keep it (`Filed.keep`, `Filed.write`, `Filed.close`), and every operation
ends in one of them: what fails to be written is not kept in memory either.
-/

namespace Nstu.Telemetry.Outbox

open Wire Reader

/-! ## Memory and file -/

/-- A deadline that has been clamped at some times. -/
def Clamped (deadline after : UInt64) : Prop :=
  ∃ times : List UInt64, after = times.foldl clampTime deadline

lemma Clamped.refl (deadline : UInt64) : Clamped deadline deadline := ⟨[], rfl⟩

lemma Clamped.trans {a b c : UInt64} (ha : Clamped a b) (hb : Clamped b c) : Clamped a c := by
  obtain ⟨first, rfl⟩ := ha
  obtain ⟨second, rfl⟩ := hb
  exact ⟨first ++ second, by rw [List.foldl_append]⟩

/-- A record in memory and the record that was written. -/
structure Kept (stored record : OutboxRecord) : Prop where
  batch : record.batch = stored.batch
  encodedBytes : record.encodedBytes = stored.encodedBytes
  retryCount : record.retryCount = stored.retryCount
  arrival : record.localEnqueuedAtUnixMs = stored.localEnqueuedAtUnixMs
  deadline : Clamped stored.nextEligibleRetryTimeMs record.nextEligibleRetryTimeMs

lemma Kept.refl (record : OutboxRecord) : Kept record record := ⟨rfl, rfl, rfl, rfl, .refl _⟩

lemma Kept.trans {a b c : OutboxRecord} (ha : Kept a b) (hb : Kept b c) : Kept a c :=
  ⟨hb.batch.trans ha.batch, hb.encodedBytes.trans ha.encodedBytes,
    hb.retryCount.trans ha.retryCount, hb.arrival.trans ha.arrival,
    ha.deadline.trans hb.deadline⟩

lemma Kept.payload {a b : OutboxRecord} (h : Kept a b) : b.payload = a.payload := by
  rw [OutboxRecord.payload, h.batch, h.encodedBytes]
  rfl

lemma Marked.kept {a b : OutboxRecord} (h : Marked a b) : Kept a b := by
  obtain ⟨observed, _, rfl⟩ := h
  exact ⟨rfl, rfl, rfl, rfl, .refl _⟩

lemma Offered.kept {a b : OutboxRecord} {now : UInt64} (h : Offered now a b) : Kept a b := by
  have hr := h.rest
  refine ⟨by rw [hr], by rw [hr], by rw [hr], by rw [hr], ?_⟩
  rcases h.deadline with hs | hc
  · rw [hs]
    exact .refl _
  · refine ⟨[now], ?_⟩
    rw [List.foldl_cons, List.foldl_nil, hc]

/-- An outbox in memory and the outbox that was written. -/
structure Holds (stored outbox : TelemetryOutbox) : Prop where
  activeSessionId : outbox.activeSessionId = stored.activeSessionId
  losses : outbox.losses = stored.losses
  totalPayloadBytes : outbox.totalPayloadBytes = stored.totalPayloadBytes
  records : List.Forall₂ Kept stored.records outbox.records

lemma forall₂_kept_refl : ∀ records : List OutboxRecord, List.Forall₂ Kept records records
  | [] => .nil
  | record :: rest => .cons (.refl record) (forall₂_kept_refl rest)

lemma Holds.refl (outbox : TelemetryOutbox) : Holds outbox outbox :=
  ⟨rfl, rfl, rfl, forall₂_kept_refl _⟩

lemma forall₂_kept_trans {a b c : List OutboxRecord} (ha : List.Forall₂ Kept a b)
    (hb : List.Forall₂ Kept b c) : List.Forall₂ Kept a c := by
  induction ha generalizing c with
  | nil =>
    cases hb
    exact .nil
  | cons hf _ ih =>
    cases hb with
    | cons hs hr => exact .cons (hf.trans hs) (ih hr)

variable {a b : TelemetryOutbox}

lemma Holds.trans {c : TelemetryOutbox} (ha : Holds a b) (hb : Holds b c) : Holds a c :=
  ⟨hb.activeSessionId.trans ha.activeSessionId, hb.losses.trans ha.losses,
    hb.totalPayloadBytes.trans ha.totalPayloadBytes, forall₂_kept_trans ha.records hb.records⟩

lemma Holds.payloads (h : Holds a b) : b.payloads = a.payloads := by
  have hr := h.records
  simp only [TelemetryOutbox.payloads]
  generalize a.records = before at hr
  generalize b.records = after at hr
  induction hr with
  | nil => rfl
  | cons hk _ ih => rw [List.map_cons, List.map_cons, hk.payload, ih]

lemma sound_of_holds (h : Holds a b) (hs : Sound a) : Sound b := by
  constructor
  · rw [h.payloads, h.activeSessionId, h.totalPayloadBytes]
    exact hs.records
  · rw [h.losses]
    exact hs.losses

lemma Marks.holds (h : Marks a b) : Holds a b :=
  ⟨h.activeSessionId, h.losses, h.totalPayloadBytes, h.records.imp fun _ _ => Marked.kept⟩

/-! ## The disk -/

/-- No payload file has changed. -/
def SamePayloads (before after : Disk) : Prop := ∀ path, (after path).payload = (before path).payload

/-- One payload file was written. -/
structure PayloadWritten (path : Path) (blob : Bytes) (before after : Disk) : Prop where
  written : (after path).payload = some blob
  other : ∀ other, other ≠ path → (after other).payload = (before other).payload

lemma SamePayloads.written {path : Path} {blob : Bytes} {a b c : Disk} (ha : SamePayloads a b)
    (hb : PayloadWritten path blob b c) : PayloadWritten path blob a c :=
  ⟨hb.written, fun other ho => (hb.other other ho).trans (ha other)⟩

lemma PayloadWritten.same {path : Path} {blob : Bytes} {a b c : Disk}
    (ha : PayloadWritten path blob a b) (hb : SamePayloads b c) : PayloadWritten path blob a c :=
  ⟨(hb path).trans ha.written, fun other ho => (hb other).trans (ha.other other ho)⟩

section Files

variable {machine : Machine} {change : OutboxFiles → OutboxFiles}

lemma changeFiles_self : machine.changeFiles change machine.outbox.path = change machine.files := by
  simp [Machine.changeFiles]

lemma files_changeFiles {outbox : TelemetryOutbox} (h : outbox.path = machine.outbox.path) :
    Machine.files ⟨outbox, machine.changeFiles change⟩ = change machine.files := by
  rw [Machine.files, h]
  exact changeFiles_self

lemma changeFiles_other {path : Path} (h : path ≠ machine.outbox.path) :
    machine.changeFiles change path = machine.disk path := by
  simp [Machine.changeFiles, h]

lemma samePayloads_changeFiles (h : ∀ files, (change files).payload = files.payload) :
    SamePayloads machine.disk (machine.changeFiles change) := by
  intro path
  by_cases hp : path = machine.outbox.path
  · rw [hp, changeFiles_self, h]
    rfl
  · rw [changeFiles_other hp]

lemma payloadWritten_changeFiles {blob : Bytes} (h : (change machine.files).payload = some blob) :
    PayloadWritten machine.outbox.path blob machine.disk (machine.changeFiles change) :=
  ⟨by rw [changeFiles_self, h], fun _ ho => by rw [changeFiles_other ho]⟩

end Files

/-! ## The invariant -/

/-- Every payload file was written from an outbox with a property, and an open outbox has the
property too and is what its file holds. -/
structure Filed (platform : Platform) (P : Path → TelemetryOutbox → Prop) (machine : Machine) :
    Prop where
  files : ∀ path blob, (machine.disk path).payload = some blob →
    ∃ stored seed, P path stored ∧ blob = protectedPayload platform seed stored
  current : machine.outbox.isOpen = true → P machine.outbox.path machine.outbox ∧
    ∃ stored seed, machine.files.payload = some (protectedPayload platform seed stored) ∧ Holds stored machine.outbox

section Rules

variable {platform : Platform} {P : Path → TelemetryOutbox → Prop} {machine after : Machine}

lemma Filed.keep (h : Filed platform P machine)
    (hprop : P machine.outbox.path machine.outbox → P machine.outbox.path after.outbox)
    (hopen : after.outbox.isOpen = machine.outbox.isOpen)
    (hpath : after.outbox.path = machine.outbox.path)
    (hholds : Holds machine.outbox after.outbox) (hdisk : SamePayloads machine.disk after.disk) :
    Filed platform P after where
  files path blob hblob := h.files path blob ((hdisk path).symm.trans hblob)
  current hafter := by
    obtain ⟨hmemo, stored, seed, hpayl, hstor⟩ := h.current (hopen.symm.trans hafter)
    rw [hpath]
    refine ⟨hprop hmemo, stored, seed, ?_, hstor.trans hholds⟩
    rw [Machine.files, hpath, hdisk]
    exact hpayl

lemma Filed.write {Q : Path → TelemetryOutbox → Prop} {seed : ℕ} (h : Filed platform P machine)
    (hp : Q after.outbox.path after.outbox)
    (ho : ∀ path, path ≠ after.outbox.path → ∀ outbox, P path outbox → Q path outbox)
    (hd : PayloadWritten after.outbox.path (protectedPayload platform seed after.outbox) machine.disk after.disk) :
    Filed platform Q after where
  files path blob hb := by
    by_cases hpa : path = after.outbox.path
    · rw [hpa, hd.written, Option.some.injEq] at hb
      rw [hpa]
      exact ⟨after.outbox, seed, hp, hb.symm⟩
    · rw [hd.other path hpa] at hb
      obtain ⟨stored, seed, hs, hb⟩ := h.files path blob hb
      exact ⟨stored, seed, ho path hpa stored hs, hb⟩
  current _ := ⟨hp, after.outbox, seed, hd.written, .refl _⟩

lemma Filed.close (h : Filed platform P machine) (hc : after.outbox.isOpen = false)
    (hd : ∀ path, (after.disk path).payload = (machine.disk path).payload ∨ (after.disk path).payload = none) :
    Filed platform P after where
  files path blob hb := by
    rcases hd path with hs | hn
    · exact h.files path blob (hs.symm.trans hb)
    · rw [hn] at hb
      cases hb
  current ho := by
    rw [hc] at ho
    cases ho

end Rules

/-! ## Expiry passes -/

/-- What an expiry pass does to memory and to the payload files. -/
inductive PruneEffect (platform : Platform) (calls : PruneCalls) (now : UInt64) (force : Bool)
    (machine : Machine) : Except String ℕ × Machine → Prop where
  | kept {result : Except String ℕ} {after : Machine}
      (hopen : after.outbox.isOpen = machine.outbox.isOpen)
      (hpath : after.outbox.path = machine.outbox.path)
      (hholds : Holds machine.outbox after.outbox) (hdisk : SamePayloads machine.disk after.disk)
      (hforce : force = true → ∃ message, result = .error message) :
      PruneEffect platform calls now force machine (result, after)
  | written {result : Except String ℕ} {marked : TelemetryOutbox} {after : Machine} {seed : ℕ}
      {barrier : UInt64} (hmarks : Marks machine.outbox marked)
      (hcontexts : marked.expiredLossContexts =
        (observeLosses now machine.outbox.expiredLossContexts machine.outbox.losses).1)
      (hquota : marked.losses.length - marked.losses.countP (marked.lossHasExpired now) +
        (incomingContexts now marked).length ≤ kMaximumLossContexts)
      (hafter : after.outbox = { prunedOutbox calls now marked with expiryBarrierMs := barrier })
      (hdisk : PayloadWritten machine.outbox.path (protectedPayload platform seed after.outbox)
        machine.disk after.disk) :
      PruneEffect platform calls now force machine (result, after)

section Effect

variable {platform : Platform} {calls : PruneCalls} {now : UInt64} {force : Bool}
  {machine : Machine}

lemma samePayloads_unbarred (machine : Machine) :
    SamePayloads machine.disk machine.unbarred.disk := samePayloads_changeFiles fun _ => rfl

variable {answer : WriteAnswer} {before : Machine}

lemma Sealed.samePayloads {after : Machine}
    (h : Sealed platform answer now before after) : SamePayloads before.disk after.disk := by
  cases h with
  | held hh => exact fun _ => rfl
  | written ha hl => exact samePayloads_changeFiles fun _ => rfl

lemma Sealed.marks {outbox : TelemetryOutbox} {after : Machine}
    (h : Sealed platform answer now before after) (hm : Marks outbox before.outbox) :
    Marks outbox after.outbox := by
  cases h with
  | held hh => exact hm
  | written ha hl =>
    exact ⟨hm.isOpen, hm.revocationPending, hm.path, hm.losses,
      hm.activeSessionId, hm.totalPayloadBytes, hm.records⟩

lemma Sealed.expiredLossContexts {after : Machine} (h : Sealed platform answer now before after) :
    after.outbox.expiredLossContexts = before.outbox.expiredLossContexts := by
  cases h <;> rfl

variable {outcome : Except String ℕ × Machine}

lemma pruneEffect_of_removeExit {count : ℕ} {marked : Machine} (hm : Marks machine.outbox marked.outbox)
    (hc : marked.outbox.expiredLossContexts =
      (observeLosses now machine.outbox.expiredLossContexts machine.outbox.losses).1)
    (hd : SamePayloads machine.disk marked.disk) (h : RemoveExit platform calls now count marked outcome) :
    PruneEffect platform calls now force machine outcome := by
  cases h with
  | kept message =>
    exact .kept hm.isOpen hm.path hm.holds hd fun _ => ⟨message, rfl⟩
  | @uncleared seed hp hq message disk ha =>
    have hw : PayloadWritten marked.outbox.path
        (protectedPayload platform seed (prunedOutbox calls now marked.outbox)) marked.disk disk :=
      ha ▸ payloadWritten_changeFiles rfl
    exact .written hm hc hq rfl (hm.path ▸ hd.written hw)
  | @cleared seed hp hq disk ha =>
    have hw : PayloadWritten marked.outbox.path
        (protectedPayload platform seed (prunedOutbox calls now marked.outbox)) marked.disk disk :=
      ha ▸ payloadWritten_changeFiles rfl
    have hcl := (hd.written hw).same
      (samePayloads_unbarred ⟨prunedOutbox calls now marked.outbox, disk⟩)
    exact .written hm hc hq rfl (hm.path ▸ hcl)

/-- **A pass keeps the records and the file, or takes the marked ones out of both.** -/
lemma pruneEffect_of_exit (h : PruneExit platform calls now force machine outcome) :
    PruneEffect platform calls now force machine outcome := by
  have hmark : ∀ {result observed}, observeExpired now machine.outbox = (result, observed) →
      Marks machine.outbox observed := by
    intro result observed hobse
    have := @marks_observeExpired now machine.outbox
    rwa [hobse] at this
  cases h with
  | overflowed hover =>
    exact .kept rfl rfl (.refl _) (fun _ => rfl) fun _ => ⟨_, rfl⟩
  | unobserved hobse =>
    have hmarks := hmark hobse
    exact .kept hmarks.isOpen hmarks.path hmarks.holds (fun _ => rfl) fun _ => ⟨_, rfl⟩
  | quiet hobse hloss hpend hforce hbarr =>
    have hmarks := hmark hobse
    refine .kept hmarks.isOpen hmarks.path hmarks.holds (fun _ => rfl) ?_
    rw [hforce]
    exact fun hfalse => by cases hfalse
  | @unbarred observed hobse hloss hpend hforce =>
    have hmarks := hmark hobse
    have hholds := hmarks.holds
    refine .kept hmarks.isOpen hmarks.path
      ⟨hholds.activeSessionId, hholds.losses, hholds.totalPayloadBytes, hholds.records⟩
      (samePayloads_unbarred { machine with outbox := observed }) ?_
    rw [hforce]
    exact fun hfalse => by cases hfalse
  | barred hobse hloss hpend =>
    have hmarks := hmark hobse
    exact .kept hmarks.isOpen hmarks.path hmarks.holds (fun _ => rfl) fun _ => ⟨_, rfl⟩
  | unsealed hobse =>
    have hmarks := hmark hobse
    have hholds := hmarks.holds
    exact .kept hmarks.isOpen hmarks.path
      ⟨hholds.activeSessionId, hholds.losses, hholds.totalPayloadBytes, hholds.records⟩
      (fun _ => rfl) fun _ => ⟨_, rfl⟩
  | forced hobse hloss hpend hforce hexit =>
    refine pruneEffect_of_removeExit ?_ (observeExpired_ok hobse).2.2.2 ?_ hexit
    · exact hmark hobse
    · exact fun _ => rfl
  | removed hobse hseal hexit =>
    have hmarks := hmark hobse
    refine pruneEffect_of_removeExit (hseal.marks ?_)
      (hseal.expiredLossContexts.trans (observeExpired_ok hobse).2.2.2)
      hseal.samePayloads hexit
    exact ⟨hmarks.isOpen, hmarks.revocationPending, hmarks.path, hmarks.losses,
      hmarks.activeSessionId, hmarks.totalPayloadBytes, hmarks.records⟩

/-- What a pass leaves has a property that flags and deadlines do not matter for, if taking out the
marked records keeps it. -/
lemma Filed.pass {P : Path → TelemetryOutbox → Prop}
    (h : Filed platform P machine) (hopen : machine.outbox.isOpen)
    (hholds : ∀ {after}, Holds machine.outbox after → P machine.outbox.path after)
    (hprun : ∀ {marked barrier}, Marks machine.outbox marked → marked.expiredLossContexts =
        (observeLosses now machine.outbox.expiredLossContexts machine.outbox.losses).1 →
      marked.losses.length - marked.losses.countP (marked.lossHasExpired now) +
        (incomingContexts now marked).length ≤ kMaximumLossContexts →
      P machine.outbox.path { prunedOutbox calls now marked with expiryBarrierMs := barrier })
    (heffe : PruneEffect platform calls now force machine outcome) :
    Filed platform P outcome.2 ∧ outcome.2.outbox.isOpen ∧ outcome.2.outbox.path = machine.outbox.path := by
  cases heffe with
  | kept hopen' hpath hkept hdisk hforce =>
    exact ⟨h.keep (fun _ => hholds hkept) hopen' hpath hkept hdisk, hopen'.trans hopen, hpath⟩
  | written hmarks hcont hquota hafter hdisk =>
    have hpath := (congrArg TelemetryOutbox.path hafter).trans hmarks.path
    refine ⟨h.write ?_ (fun _ _ _ hprop => hprop) (hpath ▸ hdisk), ?_, hpath⟩
    · rw [hpath, hafter]
      exact hprun hmarks hcont hquota
    · exact (congrArg TelemetryOutbox.isOpen hafter).trans (hmarks.isOpen.trans hopen)

end Effect

end Nstu.Telemetry.Outbox
