import Nstu.Telemetry.Outbox.Open

/-!
# What an expiry pass does

`PruneExit` lists the ways `prune_expired_locked` can end.  Up to the last part it only marks: a
marked outbox is `Marks`-related to the one before, and the payload file is the same.  The last part
either takes exactly the marked records out and writes the payload, or restores everything, which is
what `restoreRecords_expiredFrom` is for.
-/

namespace Nstu.Telemetry.Outbox

open Wire Reader

/-! ## Marks -/

/-- A record that has been marked, or not. -/
def Marked (before after : OutboxRecord) : Prop :=
  ∃ observed, (before.expiryObserved = true → observed = true) ∧ after = { before with expiryObserved := observed }

lemma Marked.refl (record : OutboxRecord) : Marked record record := ⟨_, id, rfl⟩

lemma marked_observe (record : OutboxRecord) (identities : List ExpiredBatchIdentity)
    (now : UInt64) : Marked record (record.observe identities now) := by
  refine ⟨_, ?_, rfl⟩
  intro h
  simp [h]

/-- An outbox in which something has been marked as expired. -/
structure Marks (before after : TelemetryOutbox) : Prop where
  isOpen : after.isOpen = before.isOpen
  revocationPending : after.revocationPending = before.revocationPending
  path : after.path = before.path
  losses : after.losses = before.losses
  activeSessionId : after.activeSessionId = before.activeSessionId
  totalPayloadBytes : after.totalPayloadBytes = before.totalPayloadBytes
  records : List.Forall₂ Marked before.records after.records

lemma forall₂_marked_refl : ∀ records : List OutboxRecord, List.Forall₂ Marked records records
  | [] => .nil
  | record :: rest => .cons (.refl record) (forall₂_marked_refl rest)

section Observe

variable {now : UInt64}

lemma forall₂_observeRecords (identities : List ExpiredBatchIdentity) (records : List OutboxRecord) :
    List.Forall₂ Marked records (observeRecords now identities records).records := by
  induction records generalizing identities with
  | nil => exact .nil
  | cons record rest ih =>
    simp only [observeRecords]
    split
    · split
      · exact .cons (marked_observe ..) (ih _)
      · split
        · exact .cons (marked_observe ..) (forall₂_marked_refl rest)
        · exact .cons (marked_observe ..) (ih _)
    · exact .cons (marked_observe ..) (ih _)

lemma prunedCount_observeRecords {identities : List ExpiredBatchIdentity} {records : List OutboxRecord}
    (h : (observeRecords now identities records).overflow = false) :
    (observeRecords now identities records).prunedCount =
      (observeRecords now identities records).records.countP (·.expiryObserved) := by
  induction records generalizing identities with
  | nil => rfl
  | cons record rest ih =>
    simp only [observeRecords] at h ⊢
    split at h
    · rename_i hs
      rw [if_pos hs]
      split at h
      · rename_i hk
        rw [if_pos hk]
        simp only [ObservedRecords.cons, List.countP_cons_of_pos hs, ih h]
      · rename_i hk
        rw [if_neg hk]
        split at h
        · cases h
        · rename_i hr
          rw [if_neg hr]
          simp only [ObservedRecords.cons, List.countP_cons_of_pos hs, ih h]
    · rename_i hs
      rw [if_neg hs]
      simp only [ObservedRecords.cons, List.countP_cons_of_neg hs, ih h, Nat.add_zero]

lemma observeLosses_quiet {contexts : List SessionId} {losses : List TelemetryOutboxAggregateLoss}
    (h : ∀ loss ∈ losses, expiredAt loss.firstRecordedUnixMs now = false) :
    observeLosses now contexts losses = (contexts, false) := by
  induction losses with
  | nil => rfl
  | cons loss rest ih =>
    rw [observeLosses, h loss List.mem_cons_self]
    exact ih fun other ho => h other (List.mem_cons_of_mem _ ho)

variable {outbox : TelemetryOutbox}

lemma marks_observeExpired : Marks outbox (observeExpired now outbox).2 := by
  have hr := @forall₂_observeRecords now outbox.expiredBatchIdentities outbox.records
  simp only [observeExpired]
  split
  · exact ⟨rfl, rfl, rfl, rfl, rfl, rfl, hr⟩
  · split
    · exact ⟨rfl, rfl, rfl, rfl, rfl, rfl, hr⟩
    · exact ⟨rfl, rfl, rfl, rfl, rfl, rfl, hr⟩

lemma observeExpired_ok {count : ℕ} {observed : TelemetryOutbox}
    (h : observeExpired now outbox = (.ok count, observed)) :
    count = observed.records.countP (·.expiryObserved) ∧ observed.expiryRetryPending = outbox.expiryRetryPending ∧
      observed.expiryBarrierMs = outbox.expiryBarrierMs ∧
      observed.expiredLossContexts = (observeLosses now outbox.expiredLossContexts outbox.losses).1 := by
  simp only [observeExpired] at h
  split at h
  · cases h
  · rename_i hf
    split at h
    · cases h
    · cases h
      exact ⟨prunedCount_observeRecords (by simpa using hf), rfl, rfl, rfl⟩

end Observe

/-! ## Taking records out -/

/-- The marked records with their positions. -/
def expiredFrom : ℕ → List OutboxRecord → List (ℕ × OutboxRecord)
  | _, [] => []
  | index, record :: rest =>
    if record.expiryObserved then (index, record) :: expiredFrom (index + 1) rest
    else expiredFrom (index + 1) rest

/-- The records that stay. -/
def unexpired (records : List OutboxRecord) : List OutboxRecord :=
  records.filter fun record => !record.expiryObserved

section Remove

variable {now : UInt64} {clock : ℕ → UInt64}

lemma retained_removeRecords (index : ℕ) (records : List OutboxRecord) (removal : Removal) :
    (removeRecords now clock index records removal).retained = removal.retained ++ unexpired records := by
  induction records generalizing index removal with
  | nil => simp [removeRecords, unexpired]
  | cons record rest ih =>
    simp only [removeRecords]
    split
    · rename_i hs
      rw [ih]
      simp [unexpired, hs]
    · rename_i hs
      rw [ih]
      simp [unexpired, hs]

lemma expired_removeRecords (index : ℕ) (records : List OutboxRecord) (removal : Removal) :
    (removeRecords now clock index records removal).expired = removal.expired ++ expiredFrom index records := by
  induction records generalizing index removal with
  | nil => simp [removeRecords, expiredFrom]
  | cons record rest ih =>
    simp only [removeRecords, expiredFrom]
    split
    · rw [ih, List.append_assoc]
      rfl
    · rw [ih]

lemma length_unexpired_add (index : ℕ) (records : List OutboxRecord) :
    (unexpired records).length + (expiredFrom index records).length = records.length := by
  induction records generalizing index with
  | nil => rfl
  | cons record rest ih =>
    have := ih (index + 1)
    cases hs : record.expiryObserved with
    | true | false =>
      simp only [unexpired] at this
      simp [unexpired, expiredFrom, hs]
      omega

lemma le_of_mem_expiredFrom {index : ℕ} {records : List OutboxRecord} {entry : ℕ × OutboxRecord}
    (h : entry ∈ expiredFrom index records) : index ≤ entry.1 := by
  induction records generalizing index with
  | nil => cases h
  | cons record rest ih =>
    simp only [expiredFrom] at h
    split at h
    · rcases List.mem_cons.mp h with rfl | hr
      · exact le_refl _
      · exact Nat.le_of_succ_le (ih hr)
    · exact Nat.le_of_succ_le (ih h)

lemma restoreRecords_expiredFrom (index : ℕ) (records : List OutboxRecord) :
    restoreRecords index records.length (unexpired records) (expiredFrom index records) = records := by
  induction records generalizing index with
  | nil => rfl
  | cons record rest ih =>
    have ih := ih (index + 1)
    cases hs : record.expiryObserved with
    | true =>
      have hk : unexpired (record :: rest) = unexpired rest := by simp [unexpired, hs]
      rw [hk, expiredFrom, if_pos hs, List.length_cons]
      simp only [restoreRecords, if_true, ih]
    | false =>
      have hk : unexpired (record :: rest) = record :: unexpired rest := by
        simp [unexpired, hs]
      rw [hk, expiredFrom, if_neg (by simp [hs]), List.length_cons]
      -- The next marked record, if any, stands further back.
      cases he : expiredFrom (index + 1) rest with
      | nil =>
        rw [he] at ih
        rw [restoreRecords, ih]
      | cons entry removed =>
        have hl : index + 1 ≤ entry.1 :=
          le_of_mem_expiredFrom (he ▸ List.mem_cons_self)
        have hn : entry.1 ≠ index := by omega
        rw [he] at ih
        rw [restoreRecords, if_neg hn]
        exact congrArg _ ih

lemma restoreRecords_removeRecords (records : List OutboxRecord)
    (losses : List TelemetryOutboxAggregateLoss) (total : UInt64) :
    let removal := removeRecords now clock 0 records ⟨[], [], losses, total⟩
    restoreRecords 0 (removal.retained.length + removal.expired.length) removal.retained
      removal.expired = records := by
  simp only [retained_removeRecords, expired_removeRecords, List.nil_append, length_unexpired_add,
    restoreRecords_expiredFrom]

end Remove

/-! ## Exits -/

section Exit

variable {platform : Platform}

/-- The outbox after a pass that took out what was marked. -/
def prunedOutbox (calls : PruneCalls) (now : UInt64) (outbox : TelemetryOutbox) :
    TelemetryOutbox :=
  let removal := removeRecords now calls.clock 0 outbox.records
    ⟨[], [], outbox.losses.filter fun loss => !outbox.lossHasExpired now loss,
      outbox.totalPayloadBytes⟩
  { outbox with
    records := unexpired outbox.records
    losses := removal.losses
    totalPayloadBytes := removal.totalPayloadBytes
    expiryRetryPending := false
    expiredLossContexts := []
    expiredBatchIdentities := [] }

/-- A barrier that was written, or need not be. -/
inductive Sealed (platform : Platform) (answer : WriteAnswer) (now : UInt64) (before : Machine) :
    Machine → Prop where
  | held (h : now ≤ before.outbox.expiryBarrierMs) : Sealed platform answer now before before
  | written {seed : ℕ} (hanswer : answer = .written seed)
      (hlater : before.outbox.expiryBarrierMs < now) : Sealed platform answer now before
      ⟨{ before.outbox with expiryBarrierMs := now }, before.changeFiles fun files =>
        { files with expiry := some (platform.protect seed outboxEntropy (le now)) }⟩

lemma sealed_persistExpiryBarrier {answer : WriteAnswer} {now : UInt64} {machine after : Machine}
    (h : persistExpiryBarrier platform answer now machine = .ok after) : Sealed platform answer now machine after := by
  simp only [persistExpiryBarrier] at h
  split at h
  · rename_i hh
    cases h
    exact .held hh
  · rename_i hl
    split at h
    · cases h
    · cases h
      exact .written rfl (UInt64.not_le.mp hl)

/-- The machine without the barrier. -/
def Machine.unbarred (machine : Machine) : Machine :=
  ⟨{ machine.outbox with expiryBarrierMs := 0 }, machine.changeFiles fun files => { files with expiry := none }⟩

/-- How the last part of a pass over a marked outbox ends. -/
inductive RemoveExit (platform : Platform) (calls : PruneCalls) (now : UInt64) (count : ℕ)
    (marked : Machine) : Except String ℕ × Machine → Prop where
  | kept (message : String) : RemoveExit platform calls now count marked (.error message, marked)
  | uncleared (seed : ℕ) (hpayload : calls.payload = .written seed)
      (hquota : marked.outbox.losses.length - marked.outbox.losses.countP (marked.outbox.lossHasExpired now) +
        (incomingContexts now marked.outbox).length ≤ kMaximumLossContexts)
      (message : String) {disk : Disk}
      (hdisk : disk = marked.changeFiles fun files => { files with
        payload := some (protectedPayload platform seed (prunedOutbox calls now marked.outbox)) }) :
      RemoveExit platform calls now count marked (.error message, ⟨prunedOutbox calls now marked.outbox, disk⟩)
  | cleared (seed : ℕ) (hpayload : calls.payload = .written seed)
      (hquota : marked.outbox.losses.length - marked.outbox.losses.countP (marked.outbox.lossHasExpired now) +
        (incomingContexts now marked.outbox).length ≤ kMaximumLossContexts)
      {disk : Disk}
      (hdisk : disk = marked.changeFiles fun files => { files with
        payload := some (protectedPayload platform seed (prunedOutbox calls now marked.outbox)) }) :
      RemoveExit platform calls now count marked
        (.ok count, Machine.unbarred ⟨prunedOutbox calls now marked.outbox, disk⟩)

lemma removeExpired_exit {calls : PruneCalls} {now : UInt64} {count : ℕ} {marked : Machine} :
    RemoveExit platform calls now count marked (removeExpired platform calls now count marked) := by
  simp only [removeExpired]
  split
  · exact .kept _
  · rename_i hq
    have hq := Nat.not_lt.mp hq
    split
    · simp only [restoreRecords_removeRecords]
      exact .kept _
    · rename_i disk hp
      simp only [persistLocked] at hp
      split at hp
      · cases hp
      · split at hp
        · cases hp
        · split at hp
          · cases hp
          · rename_i seed hpa
            cases hp
            simp only [retained_removeRecords, List.nil_append]
            split
            · exact .uncleared seed hpa hq _ rfl
            · rename_i cleared hc
              simp only [clearExpiryBarrier] at hc
              split at hc
              · cases hc
                exact .cleared seed hpa hq rfl
              · cases hc

/-- How `prune_expired_locked` ends at a time, the barrier's at least. -/
inductive PruneExit (platform : Platform) (calls : PruneCalls) (now : UInt64) (force : Bool)
    (machine : Machine) : Except String ℕ × Machine → Prop where
  | overflowed (h : machine.outbox.expiryObservationOverflow = true) :
      PruneExit platform calls now force machine (.error capacityExceeded, machine)
  | unobserved {message : String} {observed : TelemetryOutbox}
      (hobserved : observeExpired now machine.outbox = (.error message, observed)) :
      PruneExit platform calls now force machine (.error message, { machine with outbox := observed })
  | quiet {observed : TelemetryOutbox}
      (hobserved : observeExpired now machine.outbox = (.ok 0, observed))
      (hlosses : observed.losses.any (observed.lossHasExpired now) = false)
      (hpending : observed.expiryRetryPending = false) (hforce : force = false)
      (hbarrier : observed.expiryBarrierMs = 0) :
      PruneExit platform calls now force machine (.ok 0, { machine with outbox := observed })
  | unbarred {observed : TelemetryOutbox}
      (hobserved : observeExpired now machine.outbox = (.ok 0, observed))
      (hlosses : observed.losses.any (observed.lossHasExpired now) = false)
      (hpending : observed.expiryRetryPending = false) (hforce : force = false) :
      PruneExit platform calls now force machine (.ok 0, Machine.unbarred { machine with outbox := observed })
  | barred {observed : TelemetryOutbox} {message : String}
      (hobserved : observeExpired now machine.outbox = (.ok 0, observed))
      (hlosses : observed.losses.any (observed.lossHasExpired now) = false)
      (hpending : observed.expiryRetryPending = false) :
      PruneExit platform calls now force machine (.error message, { machine with outbox := observed })
  | unsealed {count : ℕ} {observed : TelemetryOutbox} {message : String}
      (hobserved : observeExpired now machine.outbox = (.ok count, observed)) :
      PruneExit platform calls now force machine
        (.error message, { machine with outbox := { observed with expiryRetryPending := true } })
  | forced {observed : TelemetryOutbox} {outcome : Except String ℕ × Machine}
      (hobserved : observeExpired now machine.outbox = (.ok 0, observed))
      (hlosses : observed.losses.any (observed.lossHasExpired now) = false)
      (hpending : observed.expiryRetryPending = false) (hforce : force = true)
      (hexit : RemoveExit platform calls now 0 { machine with outbox := observed } outcome) :
      PruneExit platform calls now force machine outcome
  | removed {count : ℕ} {observed : TelemetryOutbox} {sealed : Machine}
      {outcome : Except String ℕ × Machine}
      (hobserved : observeExpired now machine.outbox = (.ok count, observed))
      (hsealed : Sealed platform calls.barrier now
        { machine with outbox := { observed with expiryRetryPending := true } } sealed)
      (hexit : RemoveExit platform calls now count sealed outcome) :
      PruneExit platform calls now force machine outcome

lemma pruneExpiredLocked_exit {calls : PruneCalls} {now : UInt64} {force : Bool} {machine : Machine} :
    PruneExit platform calls (max now machine.outbox.expiryBarrierMs) force machine
      (pruneExpiredLocked platform calls now force machine) := by
  simp only [pruneExpiredLocked]
  split
  · rename_i hover
    exact .overflowed hover
  · split
    · rename_i message observed hobse
      exact .unobserved hobse
    · rename_i count observed hobse
      split
      · rename_i hquiet
        rcases hquiet with ⟨rfl, hloss, hforce, hpend⟩
        split
        · split
          · exact .barred hobse hloss hpend
          · rename_i cleared hclear
            simp only [clearExpiryBarrier] at hclear
            split at hclear
            · cases hclear
              exact .unbarred hobse hloss hpend hforce
            · cases hclear
        · rename_i hbarr
          exact .quiet hobse hloss hpend hforce (by simpa using hbarr)
      · rename_i hquiet
        split
        · rename_i hretry
          rw [hretry]
          split
          · exact .unsealed hobse
          · rename_i sealed hseal
            exact .removed hobse (sealed_persistExpiryBarrier hseal) removeExpired_exit
        · rename_i hretry
          simp only [Bool.or_eq_true, not_or, Bool.not_eq_true, bne_eq_false_iff_eq] at hretry
          obtain ⟨⟨hpend, rfl⟩, hloss⟩ := hretry
          have hforce : force := by
            cases force with
            | true => rfl
            | false => exact absurd ⟨rfl, hloss, rfl, hpend⟩ hquiet
          have hsame : { observed with expiryRetryPending := false } = observed := by
            rw [← hpend]
          simp only [hpend, hloss, bne_self_eq_false, Bool.or_self, hsame]
          exact .forced hobse hloss hpend hforce removeExpired_exit

end Exit

end Nstu.Telemetry.Outbox
