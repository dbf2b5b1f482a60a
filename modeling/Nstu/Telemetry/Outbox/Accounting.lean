import Nstu.Telemetry.Outbox.OpenExit

/-!
# Every batch is accounted for

A batch that `enqueue` took leaves the outbox in one of four ways: it is retired by an answer, it is
refused for good, it conflicts, or it expires; the last three are counted in the entry of its session.
`Balances` says that nothing else becomes of a batch and that none is counted twice.

Counters stop at their bound, so an outbox `Balances` as long as none of its counters has reached it.
That makes the invariant independent of when a counter saturates: a table whose counters are all
below the bound has never had one that was not.
-/

namespace Nstu.Telemetry.Outbox

open Wire Reader List

/-- The batches an entry counts. -/
def TelemetryOutboxAggregateLoss.total (loss : TelemetryOutboxAggregateLoss) : ℕ :=
  loss.rejectedBatches.toNat + loss.conflictBatches.toNat + loss.expiredBatches.toNat

/-- The batches a table counts for a session. -/
def countedLosses (session : SessionId) (losses : List TelemetryOutboxAggregateLoss) : ℕ :=
  (losses.map fun loss => if loss.sessionId = session then loss.total else 0).sum

def pendingCount (session : SessionId) (records : List OutboxRecord) : ℕ :=
  records.countP fun record => record.batch.sessionId == session

/-- A counter that can still count. -/
def Counting (counter : UInt64) : Prop := counter < UInt64.ofNat kMaximumTelemetryOutboxBatches

structure TelemetryOutboxAggregateLoss.Unsaturated (loss : TelemetryOutboxAggregateLoss) : Prop where
  rejected : Counting loss.rejectedBatches
  conflict : Counting loss.conflictBatches
  expired : Counting loss.expiredBatches

/-- No counter of the table has reached its bound. -/
def Unsaturated (losses : List TelemetryOutboxAggregateLoss) : Prop :=
  ∀ loss ∈ losses, loss.Unsaturated

/-- Batches taken, pending, retired and lost agree for every session. -/
def Balances (enqueued retired : SessionId → ℕ) (outbox : TelemetryOutbox) : Prop :=
  Unsaturated outbox.losses → ∀ session, enqueued session =
    pendingCount session outbox.records + retired session + countedLosses session outbox.losses

/-! ## Counters -/

section Counters

variable {session : SessionId} {losses : List TelemetryOutboxAggregateLoss}

lemma countUp_counting {counter : UInt64} (h : Counting (countUp counter)) :
    Counting counter ∧ (countUp counter).toNat = counter.toNat + 1 := by
  simp only [countUp] at h ⊢
  split at h
  · rename_i hl
    rw [if_pos hl]
    refine ⟨hl, ?_⟩
    have hb : counter.toNat < 4096 := UInt64.lt_iff_toNat_lt.mp hl
    rw [UInt64.toNat_add, show (1 : UInt64).toNat = 1 from rfl, Nat.mod_eq_of_lt (by omega)]
  · rename_i hg
    exact absurd h hg

lemma countedLosses_cons (loss : TelemetryOutboxAggregateLoss) : countedLosses session (loss :: losses) =
      (if loss.sessionId = session then loss.total else 0) + countedLosses session losses := by
  simp [countedLosses]

lemma countedLosses_append (more : List TelemetryOutboxAggregateLoss) : countedLosses session (losses ++ more) =
      countedLosses session losses + countedLosses session more := by
  simp [countedLosses]

variable {loss : TelemetryOutboxAggregateLoss}

lemma total_eq_zero (h : loss.isEmpty) : loss.total = 0 := by
  simp only [TelemetryOutboxAggregateLoss.isEmpty, Bool.and_eq_true, beq_iff_eq] at h
  obtain ⟨⟨hr, hc⟩, he⟩ := h
  rw [TelemetryOutboxAggregateLoss.total, hr, hc, he]
  rfl

lemma unsaturated_of_isEmpty (h : loss.isEmpty) : loss.Unsaturated := by
  simp only [TelemetryOutboxAggregateLoss.isEmpty, Bool.and_eq_true, beq_iff_eq] at h
  obtain ⟨⟨hr, hc⟩, he⟩ := h
  refine ⟨?_, ?_, ?_⟩
  · rw [hr, Counting]
    decide
  · rw [hc, Counting]
    decide
  · rw [he, Counting]
    decide

/-- What one more batch in an entry does to it, as long as no counter has reached its bound. -/
structure CountsOne (change : TelemetryOutboxAggregateLoss → TelemetryOutboxAggregateLoss) : Prop where
  session : ∀ loss, (change loss).sessionId = loss.sessionId
  counting : ∀ loss, (change loss).Unsaturated → loss.Unsaturated ∧ (change loss).total = loss.total + 1

lemma countsOne_expired (stamp : UInt64) :
    CountsOne fun loss => { loss with expiredBatches := countUp loss.expiredBatches }.stamped stamp where
  session _ := rfl
  counting loss h := by
    have hc := countUp_counting h.expired
    refine ⟨⟨h.rejected, h.conflict, hc.1⟩, ?_⟩
    simp only [TelemetryOutboxAggregateLoss.total, TelemetryOutboxAggregateLoss.stamped, hc.2]
    omega

lemma countsOne_refusal {status : TelemetryAckStatus} (stamp : UInt64)
    (h : status = .rejected ∨ status = .conflict) : CountsOne (countRefusal status stamp) where
  session := sessionId_countRefusal status stamp
  counting loss hl := by
    rcases h with rfl | rfl
    · have hc := countUp_counting hl.rejected
      refine ⟨⟨hc.1, hl.conflict, hl.expired⟩, ?_⟩
      simp only [countRefusal, TelemetryOutboxAggregateLoss.total,
        TelemetryOutboxAggregateLoss.stamped, if_true, hc.2]
      omega
    · have hc := countUp_counting hl.conflict
      refine ⟨⟨hl.rejected, hc.1, hl.expired⟩, ?_⟩
      simp only [countRefusal, TelemetryOutboxAggregateLoss.total,
        TelemetryOutboxAggregateLoss.stamped, reduceCtorEq, if_true, if_false, hc.2]
      omega

lemma countsOne_updateSlot {change : TelemetryOutboxAggregateLoss → TelemetryOutboxAggregateLoss} (h : CountsOne change)
    {target : SessionId} (hslot : target ∈ lossSessions losses)
    (hafter : Unsaturated (updateSlot target change losses)) :
    Unsaturated losses ∧ countedLosses session (updateSlot target change losses) =
      countedLosses session losses + if target = session then 1 else 0 := by
  induction losses with
  | nil => cases hslot
  | cons loss rest ih =>
    rw [updateSlot] at hafter ⊢
    by_cases htarg : loss.sessionId = target
    · rw [if_pos htarg] at hafter ⊢
      obtain ⟨hbefo, htotal⟩ := h.counting loss (hafter _ mem_cons_self)
      refine ⟨?_, ?_⟩
      · intro other hother
        rcases mem_cons.mp hother with rfl | hrest
        · exact hbefo
        · exact hafter other (mem_cons_of_mem _ hrest)
      · rw [countedLosses_cons, countedLosses_cons, h.session, htotal, htarg]
        split <;> omega
    · rw [if_neg htarg] at hafter ⊢
      have hrest : target ∈ lossSessions rest := by
        rcases mem_cons.mp hslot with hfirst | hrest
        · exact absurd hfirst.symm htarg
        · exact hrest
      obtain ⟨hbefo, hcount⟩ := ih hrest fun other hother =>
        hafter other (mem_cons_of_mem _ hother)
      refine ⟨?_, ?_⟩
      · intro other hother
        rcases mem_cons.mp hother with rfl | hmem
        · exact hafter _ mem_cons_self
        · exact hbefo other hmem
      · rw [countedLosses_cons, countedLosses_cons, hcount]
        omega

lemma countedLosses_withSlot (target : SessionId) :
    countedLosses session (withSlot target losses) = countedLosses session losses := by
  simp only [withSlot]
  split
  · rfl
  · rw [countedLosses_append]
    simp [countedLosses, TelemetryOutboxAggregateLoss.new, TelemetryOutboxAggregateLoss.total]

lemma mem_lossSessions_withSlot (target : SessionId) : target ∈ lossSessions (withSlot target losses) := by
  rw [lossSessions_withSlot]
  split
  · assumption
  · simp

lemma unsaturated_withSlot {target : SessionId} (h : Unsaturated (withSlot target losses)) : Unsaturated losses := by
  simp only [withSlot] at h
  split at h
  · exact h
  · exact fun loss hl => h loss (mem_append_left _ hl)

lemma countsOne_withSlot {change : TelemetryOutboxAggregateLoss → TelemetryOutboxAggregateLoss} (h : CountsOne change)
    {target : SessionId} (ha : Unsaturated (updateSlot target change (withSlot target losses))) :
    Unsaturated losses ∧ countedLosses session (updateSlot target change (withSlot target losses)) =
      countedLosses session losses + if target = session then 1 else 0 := by
  obtain ⟨hb, hc⟩ := @countsOne_updateSlot session _ _ h target (mem_lossSessions_withSlot target) ha
  rw [countedLosses_withSlot] at hc
  exact ⟨unsaturated_withSlot hb, hc⟩

end Counters

/-! ## Operations on an outbox -/

/-- One more batch of a session. -/
def countFor (session : SessionId) (counts : SessionId → ℕ) : SessionId → ℕ :=
  Function.update counts session (counts session + 1)

lemma countFor_apply (target session : SessionId) (counts : SessionId → ℕ) :
    countFor target counts session = counts session + if target = session then 1 else 0 := by
  simp only [countFor, Function.update_apply]
  by_cases h : session = target
  · rw [if_pos h, if_pos h.symm, h]
  · rw [if_neg h, if_neg (Ne.symm h), Nat.add_zero]

section Balances

variable {enqueued retired : SessionId → ℕ} {outbox : TelemetryOutbox} {session : SessionId}

lemma pendingCount_append (records more : List OutboxRecord) : pendingCount session (records ++ more) =
      pendingCount session records + pendingCount session more :=
  countP_append

lemma pendingCount_eq {before after : List OutboxRecord}
    (h : after.map OutboxRecord.payload = before.map OutboxRecord.payload) :
    pendingCount session after = pendingCount session before := by
  have hc : ∀ records : List OutboxRecord, pendingCount session records =
      (records.map OutboxRecord.payload).countP fun payload => payload.1.sessionId == session := by
    intro records
    rw [countP_map]
    rfl
  rw [hc, hc, h]

lemma balances_of_holds {a b : TelemetryOutbox} (h : Holds a b) (hb : Balances enqueued retired a) :
    Balances enqueued retired b := by
  intro hu session
  rw [h.losses] at hu ⊢
  rw [pendingCount_eq h.payloads]
  exact hb hu session

lemma counted_removeRecords {now : UInt64} {clock : ℕ → UInt64} (index : ℕ)
    (records : List OutboxRecord) (removal : Removal)
    (h : Unsaturated (removeRecords now clock index records removal).losses) : Unsaturated removal.losses ∧ ∀ session,
      countedLosses session (removeRecords now clock index records removal).losses +
          pendingCount session (unexpired records) =
        countedLosses session removal.losses + pendingCount session records := by
  induction records generalizing index removal with
  | nil => exact ⟨h, fun _ => rfl⟩
  | cons record rest ih =>
    cases hs : record.expiryObserved with
    | true =>
      rw [removeRecords, if_pos hs] at h ⊢
      obtain ⟨hl, hr⟩ := ih _ _ h
      have ho := fun session => @countsOne_withSlot session removal.losses _
        (countsOne_expired (min now (clock index))) record.batch.sessionId hl
      refine ⟨(ho record.batch.sessionId).1, ?_⟩
      intro session
      have hk : unexpired (record :: rest) = unexpired rest := by simp [unexpired, hs]
      have hc := hr session
      have hst := (ho session).2
      rw [hk, hc]
      simp only [recordExpired, hst, pendingCount, countP_cons, beq_iff_eq]
      omega
    | false =>
      rw [removeRecords, if_neg (by simp [hs])] at h ⊢
      obtain ⟨hb, hr⟩ := ih _ _ h
      refine ⟨hb, ?_⟩
      intro session
      have hk : unexpired (record :: rest) = record :: unexpired rest := by
        simp [unexpired, hs]
      have hc := hr session
      simp only [pendingCount] at hc
      simp only [hk, pendingCount, countP_cons]
      omega

/-- No entry of the table has expired at a time, or was seen to before. -/
def TelemetryOutbox.KeepsLosses (outbox : TelemetryOutbox) (now : UInt64) : Prop :=
  ∀ loss ∈ outbox.losses, outbox.lossHasExpired now loss = false

lemma balances_pruned {calls : PruneCalls} {now : UInt64} (hk : outbox.KeepsLosses now)
    (hb : Balances enqueued retired outbox) : Balances enqueued retired (prunedOutbox calls now outbox) := by
  have hf : (outbox.losses.filter fun loss => !outbox.lossHasExpired now loss) =
      outbox.losses := by
    rw [filter_eq_self]
    intro loss hl
    rw [hk loss hl]
    rfl
  intro hu session
  simp only [prunedOutbox, hf] at hu ⊢
  obtain ⟨hbe, hc⟩ := counted_removeRecords 0 outbox.records
    ⟨[], [], outbox.losses, outbox.totalPayloadBytes⟩ hu
  have hs := hb hbe session
  have := hc session
  dsimp only at this
  omega

lemma counted_reuseSlot {target other : SessionId} {losses : List TelemetryOutboxAggregateLoss}
    (hempty : ∀ loss ∈ losses, loss.sessionId = target → loss.isEmpty)
    (hafter : Unsaturated (updateSlot target (fun loss => { loss with sessionId := other }) losses)) :
    Unsaturated losses ∧ ∀ session, countedLosses session
      (updateSlot target (fun loss => { loss with sessionId := other }) losses) =
        countedLosses session losses := by
  induction losses with
  | nil => exact ⟨hafter, fun _ => rfl⟩
  | cons loss rest ih =>
    rw [updateSlot] at hafter ⊢
    by_cases hfirst : loss.sessionId = target
    · have hloss := hempty loss mem_cons_self hfirst
      have htotal := total_eq_zero hloss
      have hmoved : ({ loss with sessionId := other } : TelemetryOutboxAggregateLoss).total = 0 := htotal
      rw [if_pos hfirst] at hafter ⊢
      refine ⟨?_, ?_⟩
      · intro entry hentry
        rcases mem_cons.mp hentry with rfl | hrest
        · exact unsaturated_of_isEmpty hloss
        · exact hafter entry (mem_cons_of_mem _ hrest)
      · intro session
        rw [countedLosses_cons, countedLosses_cons, htotal, hmoved, ite_self, ite_self]
    · rw [if_neg hfirst] at hafter ⊢
      obtain ⟨hbefo, hcount⟩ := ih (fun entry hentry => hempty entry (mem_cons_of_mem _ hentry))
        (fun entry hentry => hafter entry (mem_cons_of_mem _ hentry))
      refine ⟨?_, ?_⟩
      · intro entry hentry
        rcases mem_cons.mp hentry with rfl | hrest
        · exact hafter _ mem_cons_self
        · exact hbefo entry hrest
      · intro session
        rw [countedLosses_cons, countedLosses_cons, hcount]

variable {batch : TelemetryBatch}

lemma counted_reserveSlot {losses : List TelemetryOutboxAggregateLoss}
    (hs : SoundLosses (lossSessions outbox.losses))
    (h : reserveSlot batch outbox = some losses) (ha : Unsaturated losses) :
    Unsaturated outbox.losses ∧ ∀ session, countedLosses session losses = countedLosses session outbox.losses := by
  simp only [reserveSlot] at h
  split at h
  · cases h
    exact ⟨ha, fun _ => rfl⟩
  · split at h
    · split at h
      · cases h
      · rename_i unused hu
        cases h
        have hf := mem_of_find?_eq_some hu
        have he := find?_some hu
        simp only [unusedSlot, Bool.and_eq_true] at he
        refine counted_reuseSlot ?_ ha
        intro loss hl hse
        rw [inj_on_of_nodup_map hs.nodup hl hf hse]
        exact he.1
    · cases h
      refine ⟨fun loss hl => ha loss (mem_append_left _ hl), ?_⟩
      intro session
      rw [countedLosses_append]
      simp [countedLosses, TelemetryOutboxAggregateLoss.new, TelemetryOutboxAggregateLoss.total]

lemma balances_admitted {losses : List TelemetryOutboxAggregateLoss}
    {arrival : UInt64} (hs : Sound outbox) (ha : Admissible batch outbox losses)
    (hb : Balances enqueued retired outbox) :
    Balances (countFor batch.sessionId enqueued) retired (admitted arrival batch losses outbox) := by
  intro hu session
  obtain ⟨hbe, hc⟩ := counted_reserveSlot hs.losses ha.slot hu
  have hse := hb hbe session
  simp only [admitted, countFor_apply, pendingCount_append, hc, hse]
  simp only [pendingCount, countP_singleton, beq_iff_eq]
  omega

variable {index : ℕ} {record : OutboxRecord}

lemma balances_scheduled {now : UInt64}
    (hr : outbox.records[index]? = some record) (hb : Balances enqueued retired outbox) :
    Balances enqueued retired (scheduledOutbox now index record outbox) := by
  intro hu session
  rw [pendingCount_eq (payloads_scheduledOutbox hr)]
  exact hb hu session

lemma pendingCount_eraseIdx {records : List OutboxRecord} {index : ℕ} {record : OutboxRecord}
    (hr : records[index]? = some record) :
    pendingCount session records = pendingCount session (records.eraseIdx index) +
      if record.batch.sessionId = session then 1 else 0 := by
  induction records generalizing index with
  | nil => cases hr
  | cons first rest ih =>
    cases index with
    | zero =>
      cases hr
      simp only [pendingCount, eraseIdx_cons_zero, countP_cons, beq_iff_eq]
    | succ index =>
      have := ih hr
      simp only [pendingCount] at this
      simp only [pendingCount, eraseIdx_cons_succ, countP_cons]
      omega

lemma balances_settled {status : TelemetryAckStatus} {losses : List TelemetryOutboxAggregateLoss} {stamp : UInt64}
    (hreco : outbox.records[index]? = some record) (hstat : status ≠ .unavailable)
    (hloss : settleLosses status record.batch.sessionId stamp outbox.losses = some losses)
    (hbala : Balances enqueued retired outbox) :
    Balances enqueued (if settledResult status = .retired then countFor record.batch.sessionId retired else retired)
      (settledOutbox index record losses outbox) := by
  intro hunsa session
  have hpend := @pendingCount_eraseIdx session _ _ _ hreco
  simp only [settledOutbox] at hunsa ⊢
  simp only [settleLosses] at hloss
  by_cases hacce : status = .accepted ∨ status = .duplicate
  · rw [if_pos hacce] at hloss
    cases hloss
    have hsess := hbala hunsa session
    simp only [settledResult, if_pos hacce, if_true, countFor_apply]
    omega
  · rw [if_neg hacce] at hloss
    have hrefu : status = .rejected ∨ status = .conflict := by
      cases status <;> simp_all
    split at hloss
    · cases hloss
    · cases hloss
      have hone := fun session => @countsOne_withSlot session outbox.losses _
        (countsOne_refusal stamp hrefu) record.batch.sessionId hunsa
      have hsess := hbala (hone session).1 session
      have hcount := (hone session).2
      simp only [settledResult, if_neg hacce, reduceCtorEq, if_false, hcount]
      omega

lemma balances_reload {now : UInt64} {blank : TelemetryOutbox} (hbala : Balances enqueued retired outbox) :
    Balances enqueued retired (loadedOutbox (reload now outbox) blank) := by
  have hlosse : ∀ losses : List TelemetryOutboxAggregateLoss, Unsaturated (reloadLosses now losses) →
      Unsaturated losses ∧
        ∀ session, countedLosses session (reloadLosses now losses) = countedLosses session losses := by
    intro losses
    induction losses with
    | nil => exact fun h => ⟨h, fun _ => rfl⟩
    | cons loss rest ih =>
      intro h
      have hcoun : (clampLoss now loss).1.total = loss.total ∧ (clampLoss now loss).1.isEmpty = loss.isEmpty ∧
          (clampLoss now loss).1.sessionId = loss.sessionId ∧
          ((clampLoss now loss).1.Unsaturated → loss.Unsaturated) :=
        ⟨rfl, rfl, rfl, fun hloss => ⟨hloss.rejected, hloss.conflict, hloss.expired⟩⟩
      obtain ⟨htotal, hempty, hsess, hcounti⟩ := hcoun
      have hcons : reloadLosses now (loss :: rest) =
          if loss.isEmpty then reloadLosses now rest
          else (clampLoss now loss).1 :: reloadLosses now rest := by
        simp only [reloadLosses, map_cons, filter_cons, hempty]
        cases loss.isEmpty <;> rfl
      rw [hcons] at h ⊢
      by_cases hzero : loss.isEmpty
      · rw [if_pos hzero] at h ⊢
        obtain ⟨hrest, hcount⟩ := ih h
        refine ⟨?_, ?_⟩
        · intro entry hentry
          rcases mem_cons.mp hentry with rfl | hmem
          · exact unsaturated_of_isEmpty hzero
          · exact hrest entry hmem
        · intro session
          rw [countedLosses_cons, hcount, total_eq_zero hzero, ite_self, Nat.zero_add]
      · rw [if_neg hzero] at h ⊢
        obtain ⟨hrest, hcount⟩ := ih fun entry hentry => h entry (mem_cons_of_mem _ hentry)
        refine ⟨?_, ?_⟩
        · intro entry hentry
          rcases mem_cons.mp hentry with rfl | hmem
          · exact hcounti (h _ mem_cons_self)
          · exact hrest entry hmem
        · intro session
          rw [countedLosses_cons, countedLosses_cons, hcount, htotal, hsess]
  intro hunsa session
  obtain ⟨hbefo, hcount⟩ := hlosse outbox.losses hunsa
  have hsess := hbala hbefo session
  have hpend : pendingCount session (loadedOutbox (reload now outbox) blank).records =
      pendingCount session outbox.records := pendingCount_eq (payloads_reload blank)
  rw [hpend, hsess]
  simp only [loadedOutbox, reload, hcount]

end Balances

/-! ## Runs -/

/-- What is on file at a path, or in memory, balances. -/
def Booked (enqueued retired : SessionId → ℕ) (path location : Path) (outbox : TelemetryOutbox) : Prop :=
  Safe (fun _ => True) outbox ∧ (location = path → Balances enqueued retired outbox)

section Booked

variable {platform : Platform} {enqueued retired : SessionId → ℕ} {path : Path} {machine : Machine}

lemma booked_of_holds {location : Path} {a b : TelemetryOutbox} (h : Holds a b)
    (hb : Booked enqueued retired path location a) : Booked enqueued retired path location b :=
  ⟨safe_of_holds h hb.1, fun hp => balances_of_holds h (hb.2 hp)⟩

lemma booked_other {more less : SessionId → ℕ} {after : Path} (ha : after = path) :
    ∀ other, other ≠ after → ∀ outbox, Booked enqueued retired path other outbox →
      Booked more less path other outbox := by
  intro other ho outbox hb
  exact ⟨hb.1, fun hp => absurd (hp.trans ha.symm) ho⟩

lemma keepsLosses_marked {now : UInt64} {outbox marked : TelemetryOutbox} (hm : Marks outbox marked)
    (hc : marked.expiredLossContexts = (observeLosses now outbox.expiredLossContexts outbox.losses).1)
    (h : outbox.KeepsLosses now) : marked.KeepsLosses now := by
  have hl : ∀ loss ∈ outbox.losses, expiredAt loss.firstRecordedUnixMs now = false := by
    intro loss hlo
    have := h loss hlo
    rw [TelemetryOutbox.lossHasExpired, Bool.or_eq_false_iff] at this
    exact this.2
  rw [observeLosses_quiet hl] at hc
  intro loss hlo
  rw [hm.losses] at hlo
  rw [TelemetryOutbox.lossHasExpired, hc]
  exact h loss hlo

lemma booked_pruneEffect {calls : PruneCalls} {now : UInt64} {force : Bool} {outcome : Except String ℕ × Machine}
    (h : Filed platform (Booked enqueued retired path) machine)
    (hopen : machine.outbox.isOpen) (hkeeps : machine.outbox.KeepsLosses now)
    (heffe : PruneEffect platform calls now force machine outcome) :
    Filed platform (Booked enqueued retired path) outcome.2 ∧ outcome.2.outbox.isOpen ∧
      outcome.2.outbox.path = machine.outbox.path := by
  obtain ⟨hsafe, hbala⟩ := (h.current hopen).1
  refine h.pass hopen (fun hholds => booked_of_holds hholds ⟨hsafe, hbala⟩) ?_ heffe
  intro marked barrier hmarks hcont hquota
  refine ⟨safe_pruned hsafe hmarks hquota, ?_⟩
  intro hcoun
  exact balances_pruned (keepsLosses_marked hmarks hcont hkeeps)
    (balances_of_holds hmarks.holds (hbala hcoun))

lemma booked_pruneExpiredLocked {calls : PruneCalls} {now : UInt64} {force : Bool}
    (h : Filed platform (Booked enqueued retired path) machine) (ho : machine.outbox.isOpen)
    (hk : machine.outbox.KeepsLosses (max now machine.outbox.expiryBarrierMs)) :
    Filed platform (Booked enqueued retired path) (pruneExpiredLocked platform calls now force machine).2 ∧
      (pruneExpiredLocked platform calls now force machine).2.outbox.isOpen ∧
      (pruneExpiredLocked platform calls now force machine).2.outbox.path = machine.outbox.path :=
  booked_pruneEffect h ho hk (pruneEffect_of_exit pruneExpiredLocked_exit)

end Booked

/-- A machine, and what has become of the batches that were given to it. -/
structure Account where
  machine : Machine
  enqueued : SessionId → ℕ
  retired : SessionId → ℕ

def Account.initial : Account := ⟨.initial, fun _ => 0, fun _ => 0⟩

/-- A call of `enqueue` that ended. -/
def countEnqueue (batch : TelemetryBatch) (result : Except String Unit) (counts : SessionId → ℕ) : SessionId → ℕ :=
  match result with
  | .ok _ => countFor batch.sessionId counts
  | .error _ => counts

/-- A call of `acknowledge` that ended. -/
def countAck (ack : TelemetryAck) (result : TelemetryAckApplyResult) (counts : SessionId → ℕ) : SessionId → ℕ :=
  if result = .retired then countFor ack.sessionId counts else counts

/-- One operation, and what it enqueues or retires. -/
def Account.step (platform : Platform) (account : Account) (op : OutboxOp) : Account where
  machine := account.machine.step platform op
  enqueued := match op with
    | .enqueue batch calls =>
      countEnqueue batch (enqueue platform calls batch account.machine).1 account.enqueued
    | _ => account.enqueued
  retired := match op with
    | .acknowledge ack now calls =>
      countAck ack (acknowledge platform calls ack now account.machine).1.1 account.retired
    | _ => account.retired

def accountRun (platform : Platform) (ops : List OutboxOp) : Account :=
  ops.foldl (Account.step platform) .initial

/-- An `open` that finds a payload file comes to it, and leaves one. -/
def KeepsPayload (platform : Platform) (calls : OpenCalls) (path : Path) (now : UInt64) (machine : Machine) : Prop :=
  (machine.disk path).payload.isSome = true → (∀ time ready files observed,
      Ready platform calls path (effectiveTime now calls.start) machine time ready files observed →
        ready.files.payload.isSome = true) ∧
    ((openOutbox platform calls path now machine).2.disk path).payload.isSome = true

/-- A call of a run on one path in which nothing is purged or cleared and no pass meets an expired
entry. -/
structure Machine.Counts (platform : Platform) (path : Path) (machine : Machine) (op : OutboxOp) :
    Prop where
  keeps : ∀ time outbox, machine.Passes platform time outbox op → outbox.KeepsLosses time
  unpurged : ∀ calls, op ≠ .purge calls
  uncleared : ∀ calls, op ≠ .clear calls
  samePath : ∀ other now calls, op = .open other now calls → other = path

/-- The calls of a run that is accounted for: when the path is opened again, its payload file is
neither removed nor put into quarantine. -/
structure Machine.Accounts (platform : Platform) (path : Path) (machine : Machine) (op : OutboxOp) : Prop
    extends machine.Counts platform path op where
  opened : ∀ now calls, op = .open path now calls → KeepsPayload platform calls path now machine

structure Accounted (platform : Platform) (path : Path) (account : Account) : Prop where
  filed : Filed platform (Booked account.enqueued account.retired path) account.machine
  opened : account.machine.outbox.isOpen = true → account.machine.outbox.path = path
  blank : (account.machine.disk path).payload = none →
    ∀ session, account.enqueued session = 0 ∧ account.retired session = 0

section Step

variable {platform : Platform} {enqueued retired : SessionId → ℕ} {path : Path} {machine : Machine}

lemma accounted_of_open (hf : Filed platform (Booked enqueued retired path) machine)
    (ho : machine.outbox.isOpen) (hp : machine.outbox.path = path) :
    Accounted platform path ⟨machine, enqueued, retired⟩ where
  filed := hf
  opened _ := hp
  blank hn := by
    obtain ⟨-, stored, seed, hpa, -⟩ := hf.current ho
    rw [Machine.files, hp] at hpa
    exact absurd (hpa.symm.trans hn) (Option.some_ne_none _)

variable {batch : TelemetryBatch}

lemma accounted_admit {calls : EnqueueCalls} {outcome : Except String Unit × Machine}
    (h : Filed platform (Booked enqueued retired path) machine)
    (ho : machine.outbox.isOpen) (hp : machine.outbox.path = path)
    (he : AdmitExit platform calls batch machine outcome) :
    Accounted platform path ⟨outcome.2, countEnqueue batch outcome.1 enqueued, retired⟩ := by
  cases he with
  | refused message => exact accounted_of_open h ho hp
  | @added losses seed disk _ ha hd =>
    obtain ⟨hs, hb⟩ := (h.current ho).1
    refine accounted_of_open (h.write ⟨safe_admitted hs ha trivial, ?_⟩
      (booked_other hp) (hd ▸ payloadWritten_changeFiles rfl)) ho hp
    intro _
    exact balances_admitted hs.sound ha (hb hp)

lemma accounted_enqueue {calls : EnqueueCalls} (h : Accounted platform path ⟨machine, enqueued, retired⟩)
    (hop : machine.Accounts platform path (.enqueue batch calls)) :
    Accounted platform path ⟨(enqueue platform calls batch machine).2,
      countEnqueue batch (enqueue platform calls batch machine).1 enqueued, retired⟩ := by
  have hp := hop.keeps (max calls.start machine.outbox.expiryBarrierMs) machine.outbox
  have he := @enqueue_exit platform calls batch machine
  revert he
  generalize enqueue platform calls batch machine = outcome
  intro he
  cases he with
  | refused message => exact h
  | unpruned ho hv hpe hpr =>
    have hpru := @booked_pruneExpiredLocked platform enqueued retired path machine calls.prune
      calls.start false h.filed ho (hp ⟨ho, hv, hpe, rfl, rfl⟩)
    rw [hpr] at hpru
    exact accounted_of_open hpru.1 hpru.2.1 (hpru.2.2.trans (h.opened ho))
  | admitted ho hv he => exact accounted_admit h.filed ho (h.opened ho) he
  | pruned ho hv hpe hpr he =>
    have hpru := @booked_pruneExpiredLocked platform enqueued retired path machine calls.prune
      calls.start false h.filed ho (hp ⟨ho, hv, hpe, rfl, rfl⟩)
    rw [hpr] at hpru
    exact accounted_admit hpru.1 hpru.2.1 (hpru.2.2.trans (h.opened ho)) he

variable {ack : TelemetryAck}

lemma accounted_ack {calls : AckCalls} {now : UInt64}
    {outcome : AckOutcome × Machine} (h : Filed platform (Booked enqueued retired path) machine)
    (hopen : machine.outbox.isOpen) (hpath : machine.outbox.path = path)
    (hexit : AckExit platform calls now ack machine outcome) :
    Accounted platform path ⟨outcome.2, enqueued, countAck ack outcome.1.1 retired⟩ := by
  have hsame : ∀ result : TelemetryAckApplyResult, result ≠ .retired →
      countAck ack result retired = retired := fun result hresu => if_neg hresu
  obtain ⟨hsafe, hbala⟩ := (h.current hopen).1
  cases hexit with
  | ignored | failed message =>
    rw [hsame _ (by simp)]
    exact accounted_of_open h hopen hpath
  | scheduled _ hreco hdisk =>
    rw [hsame _ (by simp)]
    refine accounted_of_open (h.write ⟨safe_scheduledOutbox hsafe hreco, ?_⟩
      (booked_other hpath) (hdisk ▸ payloadWritten_changeFiles rfl)) hopen hpath
    intro _
    exact balances_scheduled hreco (hbala hpath)
  | @settled index record losses seed disk _ hreco hack hstat hloss hdisk =>
    have hsess : ack.sessionId = record.batch.sessionId := by
      simp only [ackMatches, Bool.and_eq_true, beq_iff_eq] at hack
      exact hack.1.1.symm
    refine accounted_of_open (h.write ⟨safe_settledOutbox hsafe hreco hloss, ?_⟩
      (booked_other hpath) (hdisk ▸ payloadWritten_changeFiles rfl)) hopen hpath
    intro _
    rw [countAck, hsess]
    exact balances_settled hreco hstat hloss (hbala hpath)

lemma accounted_acknowledge {calls : AckCalls} {now : UInt64} (h : Accounted platform path ⟨machine, enqueued, retired⟩)
    (hop : machine.Accounts platform path (.acknowledge ack now calls)) :
    Accounted platform path ⟨(acknowledge platform calls ack now machine).2, enqueued,
      countAck ack (acknowledge platform calls ack now machine).1.1 retired⟩ := by
  have hp : machine.outbox.isOpen → machine.outbox.expiryRetryPending → machine.outbox.KeepsLosses
        (max (effectiveTime now calls.start) machine.outbox.expiryBarrierMs) :=
    fun ho hpe => hop.keeps _ _ ⟨ho, hpe, rfl, rfl⟩
  have he := @acknowledge_exit platform calls now ack machine
  change AcknowledgeExit platform calls ack (effectiveTime now calls.start) machine _ at he
  revert he hp
  generalize acknowledge platform calls ack now machine = outcome
  generalize effectiveTime now calls.start = time
  intro hp he
  have hs : ∀ result : TelemetryAckApplyResult, result ≠ .retired →
      countAck ack result retired = retired := fun result hr => if_neg hr
  cases he with
  | closed =>
    rw [hs _ (by simp)]
    exact h
  | unpruned ho hpe hpr =>
    have hpru := @booked_pruneExpiredLocked platform enqueued retired path machine calls.prune
      time false h.filed ho (hp ho hpe)
    rw [hpr] at hpru
    rw [hs _ (by simp)]
    exact accounted_of_open hpru.1 hpru.2.1 (hpru.2.2.trans (h.opened ho))
  | answered ho he => exact accounted_ack h.filed ho (h.opened ho) he
  | pruned ho hpe hpr he =>
    have hpru := @booked_pruneExpiredLocked platform enqueued retired path machine calls.prune
      time false h.filed ho (hp ho hpe)
    rw [hpr] at hpru
    exact accounted_ack hpru.1 hpru.2.1 (hpru.2.2.trans (h.opened ho)) he

lemma accounted_nextBatchToSend {calls : OfferCalls} {now timeout : UInt64}
    (h : Accounted platform path ⟨machine, enqueued, retired⟩)
    (hop : machine.Accounts platform path (.nextBatchToSend now timeout calls)) :
    Accounted platform path ⟨(nextBatchToSend platform calls now timeout machine).2, enqueued, retired⟩ := by
  have hp : machine.outbox.isOpen → machine.outbox.KeepsLosses
      (max (effectiveTime now calls.start) machine.outbox.expiryBarrierMs) :=
    fun ho => hop.keeps _ _ ⟨ho, rfl, rfl⟩
  simp only [effectiveTime] at hp
  simp only [nextBatchToSend]
  generalize (if now = 0 then calls.start else now) = time at hp
  split
  · exact h
  · rename_i hc
    have ho : machine.outbox.isOpen := by simpa using hc
    have hpr := @booked_pruneExpiredLocked platform enqueued retired path machine calls.prune
      time false h.filed ho (hp ho)
    split
    · rename_i hpru
      rw [hpru] at hpr
      exact accounted_of_open hpr.1 hpr.2.1 (hpr.2.2.trans (h.opened ho))
    · rename_i hpru
      rw [hpru] at hpr
      refine accounted_of_open (hpr.1.keep (booked_of_holds holds_offered) rfl rfl holds_offered
        fun _ => rfl) hpr.2.1 (hpr.2.2.trans (h.opened ho))

lemma accounted_pruneExpired {calls : OfferCalls} {now : UInt64}
    (h : Accounted platform path ⟨machine, enqueued, retired⟩)
    (hop : machine.Accounts platform path (.pruneExpired now calls)) :
    Accounted platform path ⟨(pruneExpired platform calls now machine).2, enqueued, retired⟩ := by
  simp only [pruneExpired]
  split
  · exact h
  · rename_i hc
    have ho : machine.outbox.isOpen := by simpa using hc
    have hp := @booked_pruneExpiredLocked platform enqueued retired path machine calls.prune
      (if now = 0 then calls.start else now) false h.filed ho (hop.keeps _ _ ⟨ho, rfl, rfl⟩)
    exact accounted_of_open hp.1 hp.2.1 (hp.2.2.trans (h.opened ho))

lemma accounted_closed {after : Machine} (h : Accounted platform path ⟨machine, enqueued, retired⟩)
    (hc : after.outbox.isOpen = false) (hd : SamePayloads machine.disk after.disk) :
    Accounted platform path ⟨after, enqueued, retired⟩ where
  filed := h.filed.close hc fun other => .inl (hd other)
  opened ho := absurd (hc.symm.trans ho) Bool.false_ne_true
  blank hn := h.blank ((hd path).symm.trans hn)

lemma booked_empty {outbox : TelemetryOutbox} (hb : Blank outbox)
    (hz : ∀ session, enqueued session = 0 ∧ retired session = 0) : Booked enqueued retired path path outbox := by
  refine ⟨safe_emptied hb.records hb.totalPayloadBytes ?_, ?_⟩
  · rw [hb.losses]
    exact ⟨Nat.zero_le _, nodup_nil, by simp [lossSessions]⟩
  · intro _ _ session
    rw [hb.records, hb.losses, (hz session).1, (hz session).2]
    rfl

section Open

variable {calls : OpenCalls} {now time : UInt64} {ready : Machine} {files : OutboxFiles}
  {observed : Option UInt64}

variable {blob plaintext : Bytes} {loaded : Loaded}

lemma loaded_eq_reload (h : Filed platform (Booked enqueued retired path) machine)
    (hb : (machine.disk path).payload = some blob) (hd : decryptPayload platform calls blob = .ok plaintext)
    (hl : loadOutbox platform time plaintext = .ok loaded) :
    ∃ stored seed, Booked enqueued retired path path stored ∧
      blob = protectedPayload platform seed stored ∧ loaded = reload time stored := by
  obtain ⟨stored, seed, hs, rfl⟩ := h.files path blob hb
  obtain ⟨hr, hf⟩ := decryptPayload_ok hd
  rw [decryptPayload_protectedPayload hs.1.sound hr hf] at hd
  cases hd
  rw [loadOutbox_outboxPlaintext hs.1.sound] at hl
  split at hl
  · split at hl
    · cases hl
      exact ⟨stored, seed, hs, rfl, rfl⟩
    · cases hl
  · cases hl

lemma accounted_ready (h : Filed platform (Booked enqueued retired path) machine)
    (hr : Ready platform calls path now machine time ready files observed) :
    Filed platform (Booked enqueued retired path) ready := by
  refine h.close hr.isOpen ?_
  intro other
  by_cases ho : other = path
  · rw [ho]
    have hf : ready.disk path = ready.files := by rw [Machine.files, hr.path_eq]
    rw [hf]
    exact hr.payload
  · rw [hr.other ho]
    exact .inl rfl

lemma booked_loaded (h : Filed platform (Booked enqueued retired path) machine)
    (hready : Ready platform calls path now machine time ready files observed)
    (hblob : ready.files.payload = some blob)
    (hdecr : decryptPayload platform calls blob = .ok plaintext)
    (hload : loadOutbox platform time plaintext = .ok loaded)
    (hkeeps : (loadedOutbox loaded ready.outbox).KeepsLosses
      (max time (loadedOutbox loaded ready.outbox).expiryBarrierMs))
    {outcome : Except String ℕ × Machine}
    (hprune : pruneExpiredLocked platform calls.prune time loaded.clamped
      { ready with outbox := loadedOutbox loaded ready.outbox } = outcome) :
    ((∃ count, outcome.1 = .ok count) → Filed platform (Booked enqueued retired path) outcome.2 ∧
          outcome.2.outbox.isOpen ∧ outcome.2.outbox.path = path) ∧
      Filed platform (Booked enqueued retired path) { outcome.2 with outbox := closeLocked outcome.2.outbox } := by
  have hfound : (machine.disk path).payload = some blob := by
    rcases hready.payload with hsame | hnone
    · rw [← hsame, hblob]
    · rw [hnone] at hblob
      cases hblob
  obtain ⟨stored, seed, hstor, rfl, rfl⟩ := loaded_eq_reload h hfound hdecr hload
  have hloade : Booked enqueued retired path path (loadedOutbox (reload time stored) ready.outbox) :=
    ⟨safe_reload hstor.1 _, fun hpath => balances_reload (hstor.2 hpath)⟩
  rw [← hready.path_eq]
  rw [← hprune]
  refine Filed.load (hready.path_eq.symm ▸ accounted_ready h hready) hblob ?_ ?_
    (pruneEffect_of_exit pruneExpiredLocked_exit)
  · intro after hholds
    rw [hready.path_eq]
    exact booked_of_holds hholds hloade
  · intro marked barrier hmarks hcont hquota
    rw [hready.path_eq]
    refine ⟨safe_pruned hloade.1 hmarks hquota, ?_⟩
    intro hcoun
    exact balances_pruned (keepsLosses_marked hmarks hcont hkeeps)
      (balances_of_holds hmarks.holds (hloade.2 hcoun))

lemma accounted_openOutbox {other : Path} (h : Accounted platform path ⟨machine, enqueued, retired⟩)
    (hop : machine.Accounts platform path (.open other now calls)) :
    Accounted platform path ⟨(openOutbox platform calls other now machine).2, enqueued, retired⟩ := by
  obtain rfl := hop.samePath _ _ _ rfl
  have hkeeps := hop.opened _ _ rfl
  have hpass := hop.keeps
  have hexit := @openOutbox_exit platform calls other now machine
  change OpenExit platform calls other (effectiveTime now calls.start) machine _ at hexit
  -- Where `open` comes to no payload there was none, and nothing has been counted.
  have hnew : ∀ {time ready files observed},
      Ready platform calls other (effectiveTime now calls.start) machine time ready files observed →
      ready.files.payload = none → ∀ session, enqueued session = 0 ∧ retired session = 0 := by
    intro time ready files observed hready hnone
    refine h.blank ?_
    rw [← Option.not_isSome_iff_eq_none]
    intro hsome
    have := (hkeeps hsome).1 _ _ _ _ hready
    rw [hnone] at this
    cases this
  have hkept : (machine.disk other).payload.isSome →
      ((openOutbox platform calls other now machine).2.disk other).payload.isSome :=
    fun hsome => (hkeeps hsome).2
  revert hexit hkept
  generalize openOutbox platform calls other now machine = outcome
  intro hexit hkept
  cases hexit with
  | refused => exact h
  | stopped hclos hother hpayl hexpi =>
    refine accounted_closed h hclos ?_
    intro path
    by_cases hpath : path = other
    · rw [hpath]
      rcases hpayl with hsame | hnone
      · exact hsame
      · rw [hnone]
        symm
        rw [← Option.not_isSome_iff_eq_none]
        intro hsome
        have := hkept hsome
        rw [hnone] at this
        cases this
    · rw [hother path hpath]
  | uncleared hready hpayl =>
    refine ⟨?_, fun hopen => absurd (hready.isOpen.symm.trans hopen) Bool.false_ne_true, ?_⟩
    · refine h.filed.write ?_ (fun _ _ _ hbook => hbook) (hready.written hready.path_eq)
      rw [hready.path_eq]
      exact booked_empty hready.blank (hnew hready hpayl)
    · exact fun _ => hnew hready hpayl
  | @created time ready files observed seed hready hpayl =>
    have hblank := hready.blank
    have hempty : Booked enqueued retired other other { ready.outbox with isOpen := true, expiryBarrierMs := 0 } := by
      have := @booked_empty enqueued retired other ready.outbox hblank (hnew hready hpayl)
      exact ⟨⟨⟨this.1.sound.records, this.1.sound.losses⟩, this.1.batches⟩, this.2⟩
    have hwrit := (@Ready.written platform calls other _ time machine ready files observed
      { ready.outbox with isOpen := true, expiryBarrierMs := 0 } seed hready
        hready.path_eq).same (samePayloads_unbarred ⟨{ ready.outbox with isOpen := true }, _⟩)
    refine accounted_of_open (h.filed.write ?_ (fun _ _ _ hbook => hbook) hwrit) rfl
      hready.path_eq
    change Booked enqueued retired other ready.outbox.path { ready.outbox with isOpen := true, expiryBarrierMs := 0 }
    rw [hready.path_eq]
    exact hempty
  | unpruned hready hfound hblob hdecr hload hprune =>
    obtain ⟨-, hclos⟩ := booked_loaded h.filed hready hblob hdecr hload
      (hpass _ _ ⟨_, _, _, _, _, _, _, hready, hfound, hblob, hdecr, hload, rfl, rfl⟩) hprune
    refine ⟨hclos, fun hopen => absurd hopen Bool.false_ne_true, ?_⟩
    intro hnone
    have hbefo : (machine.disk other).payload.isSome := by
      rcases hready.payload with hsame | hgone
      · rw [← hsame, hblob]
        rfl
      · rw [hgone] at hblob
        cases hblob
    have := hkept hbefo
    rw [hnone] at this
    cases this
  | @loaded count time ready pruned files observed blob plaintext loaded hready hfound hblob hdecr
      hload hprune =>
      obtain ⟨hgood, -⟩ := booked_loaded h.filed hready hblob hdecr hload
        (hpass _ _ ⟨_, _, _, _, _, _, _, hready, hfound, hblob, hdecr, hload, rfl, rfl⟩) hprune
      obtain ⟨hfiled, hopen, hpath⟩ := hgood ⟨count, rfl⟩
      exact accounted_of_open hfiled hopen hpath

end Open

/-- One operation keeps the account. -/
lemma accounted_step {account : Account} {op : OutboxOp} (h : Accounted platform path account)
    (hop : account.machine.Accounts platform path op) : Accounted platform path (account.step platform op) := by
  cases op with
  | «open» other now calls => exact accounted_openOutbox h hop
  | close => exact accounted_closed h rfl fun _ => rfl
  | enqueue batch calls => exact accounted_enqueue h hop
  | acknowledge ack now calls => exact accounted_acknowledge h hop
  | nextBatchToSend now timeout calls => exact accounted_nextBatchToSend h hop
  | clearInflight =>
    have hh : Holds account.machine.outbox (clearInflight account.machine).outbox := by
      refine ⟨rfl, rfl, rfl, ?_⟩
      simp only [clearInflight]
      rw [forall₂_map_right_iff, forall₂_same]
      exact fun record _ => ⟨rfl, rfl, rfl, rfl, .refl _⟩
    exact ⟨h.filed.keep (booked_of_holds hh) rfl rfl hh fun _ => rfl, h.opened, h.blank⟩
  | pruneExpired now calls => exact accounted_pruneExpired h hop
  | purge calls => exact absurd rfl (hop.unpurged calls)
  | clear calls => exact absurd rfl (hop.uncleared calls)
  | restart => exact accounted_closed h rfl fun _ => rfl

end Step

/-- A run whose calls all meet a condition. -/
def Along (platform : Platform) (condition : Machine → OutboxOp → Prop) (machine : Machine) : List OutboxOp → Prop
  | [] => True
  | op :: rest => condition machine op ∧ Along platform condition (machine.step platform op) rest

/-- A run in which every call is accounted for. -/
def AccountsFrom (platform : Platform) (path : Path) (machine : Machine) (ops : List OutboxOp) : Prop :=
  Along platform (Machine.Accounts platform path) machine ops

lemma accounted_run {platform : Platform} {path : Path} {ops : List OutboxOp}
    (h : AccountsFrom platform path .initial ops) : Accounted platform path (accountRun platform ops) := by
  have hs : ∀ (ops : List OutboxOp) (account : Account), Accounted platform path account →
      AccountsFrom platform path account.machine ops →
      Accounted platform path (ops.foldl (Account.step platform) account) := by
    intro ops
    induction ops with
    | nil => exact fun _ ha _ => ha
    | cons op ops ih =>
      intro account ha ho
      exact ih _ (accounted_step ha ho.1) ho.2
  refine hs ops .initial ⟨⟨?_, ?_⟩, ?_, fun _ _ => ⟨rfl, rfl⟩⟩ h
  · intro path blob hb
    cases hb
  · intro hope
    cases hope
  · intro hope
    cases hope

lemma countedLosses_eq {session : SessionId} {losses : List TelemetryOutboxAggregateLoss}
    (h : (lossSessions losses).Nodup) :
    countedLosses session losses = (losses.find? fun loss => loss.sessionId == session).elim 0
        TelemetryOutboxAggregateLoss.total := by
  induction losses with
  | nil => rfl
  | cons loss rest ih =>
    rw [lossSessions, map_cons, nodup_cons] at h
    rw [countedLosses_cons, find?_cons]
    by_cases hs : loss.sessionId = session
    · have hr : countedLosses session rest = 0 := by
        rw [countedLosses, sum_eq_zero_iff]
        intro count hc
        obtain ⟨other, ho, rfl⟩ := mem_map.mp hc
        refine if_neg ?_
        intro hsa
        exact h.1 (mem_map.mpr ⟨other, ho, hsa.trans hs.symm⟩)
      rw [if_pos hs, hr, beq_iff_eq.mpr hs]
      rfl
    · rw [if_neg hs, ih h.2, beq_eq_false_iff_ne.mpr hs, Nat.zero_add]

/-- **Every batch is accounted for.**  Whichever writes fail and whatever the clock shows, the number
of batches of a session that `enqueue` took is the number of those still pending, of those retired by
an answer, and of those its entry counts as rejected, conflicting or expired. -/
theorem outbox_accounts (platform : Platform) (path : Path) (ops : List OutboxOp)
    (hops : AccountsFrom platform path .initial ops) (hopen : (accountRun platform ops).machine.outbox.isOpen = true)
    (hunsaturated : Unsaturated (accountRun platform ops).machine.outbox.losses) (session : SessionId) :
    (accountRun platform ops).enqueued session = pendingCount session (accountRun platform ops).machine.outbox.records +
        (accountRun platform ops).retired session +
        ((accountRun platform ops).machine.outbox.losses.find? fun loss =>
          loss.sessionId == session).elim 0 fun loss => loss.rejectedBatches.toNat + loss.conflictBatches.toNat +
              loss.expiredBatches.toNat := by
  have haccounted := accounted_run hops
  obtain ⟨⟨hsafe, hbalances⟩, -⟩ := haccounted.filed.current hopen
  rw [hbalances (haccounted.opened hopen) hunsaturated session, countedLosses_eq hsafe.sound.losses.nodup]
  rfl

section Probe

variable {platform : Platform} {path : Path} {machine : Machine}

lemma accounts_enqueue {batch : TelemetryBatch} {calls : EnqueueCalls}
    (h : (machine.outbox.expiryRetryPending || machine.outbox.expiryBarrierMs != 0) = false) :
    machine.Accounts platform path (.enqueue batch calls) := by
  refine ⟨⟨?_, nofun, nofun, fun _ _ _ hop => by cases hop⟩, fun _ _ hop => by cases hop⟩
  rintro time outbox ⟨_, _, hp, _⟩
  exact absurd (h.symm.trans hp) Bool.false_ne_true

lemma accounts_acknowledge {ack : TelemetryAck} {now : UInt64} {calls : AckCalls}
    (h : machine.outbox.expiryRetryPending = false) : machine.Accounts platform path (.acknowledge ack now calls) := by
  refine ⟨⟨?_, nofun, nofun, fun _ _ _ hop => by cases hop⟩, fun _ _ hop => by cases hop⟩
  rintro time outbox ⟨_, hp, _⟩
  exact absurd (h.symm.trans hp) Bool.false_ne_true

lemma accounts_nextBatchToSend {now timeout : UInt64} {calls : OfferCalls}
    (h : ∀ loss ∈ machine.outbox.losses, machine.outbox.lossHasExpired
      (max (effectiveTime now calls.start) machine.outbox.expiryBarrierMs) loss = false) :
    machine.Accounts platform path (.nextBatchToSend now timeout calls) := by
  refine ⟨⟨?_, nofun, nofun, fun _ _ _ hop => by cases hop⟩, fun _ _ hop => by cases hop⟩
  rintro time outbox ⟨_, rfl, rfl⟩
  exact h

lemma accounts_restart : machine.Accounts platform path .restart :=
  ⟨⟨fun _ _ h => h.elim, nofun, nofun, fun _ _ _ hop => by cases hop⟩, fun _ _ hop => by cases hop⟩

/-- An `open` that comes to no payload loads no entries. -/
lemma counts_open {now : UInt64} {calls : OpenCalls} (h : ∀ time ready files observed,
      Ready platform calls path (effectiveTime now calls.start) machine time ready files observed →
        ready.files.payload = none) : machine.Counts platform path (.open path now calls) := by
  refine ⟨?_, nofun, nofun, fun _ _ _ hop => by cases hop; rfl⟩
  rintro time outbox ⟨_, ready, _, _, blob, _, _, hr, _, hb, _⟩
  rw [h _ _ _ _ hr] at hb
  cases hb

lemma accounts_open {now : UInt64} {calls : OpenCalls} (h : (machine.disk path).payload = none) :
    machine.Accounts platform path (.open path now calls) := by
  refine { counts_open ?_ with opened := ?_ }
  · intro _ _ _ _ hr
    rcases hr.payload with hs | hn
    · rw [hs, h]
    · exact hn
  · rintro now calls ⟨⟩ hso
    rw [h] at hso
    cases hso

/-- A payload file that is too old is gone when `open` comes to it. -/
lemma payload_aged {now time : UInt64} {calls : OpenCalls} {ready : Machine} {files : OutboxFiles}
    {observed : Option UInt64} (ha : calls.age = some true)
    (h : Ready platform calls path now machine time ready files observed) : ready.files.payload = none := by
  have hf : files.payload = none := by
    have hr := h.aged
    simp only [expireOldPayload, ha] at hr
    split_ifs at hr with hfound hnone haged
    · rw [Except.ok.injEq] at hr
      rw [← hr]
      exact Option.isNone_iff_eq_none.mp hnone
    · rw [Except.ok.injEq] at hr
      rw [← hr]
  rw [h.files_eq]
  rcases @payload_removeRevoked calls files with hs | hn
  · exact hs.trans hf
  · exact hn

end Probe

/-- A batch whose file is older than thirty days when the path is opened again. -/
def agedOps : List OutboxOp :=
  [.open "outbox" 1000 (smoothOpen 1000), .enqueue (probeBatch 1 1000) (smoothEnqueue 1000), .restart,
    .open "outbox" 2592002000 { smoothOpen 2592002000 with age := some true }]

/-- **The batches of a file that `open` removes are not counted.**  Nothing of this run is purged or
cleared, no entry expires and no counter is full, and yet a batch that was taken is nowhere. -/
theorem outbox_loses_aged : Along plainPlatform (Machine.Counts plainPlatform "outbox") .initial agedOps ∧
    (accountRun plainPlatform agedOps).machine.outbox.isOpen = true ∧
    Unsaturated (accountRun plainPlatform agedOps).machine.outbox.losses ∧
    (accountRun plainPlatform agedOps).enqueued (probeBatch 1 1000).sessionId ≠
      pendingCount (probeBatch 1 1000).sessionId (accountRun plainPlatform agedOps).machine.outbox.records +
        (accountRun plainPlatform agedOps).retired (probeBatch 1 1000).sessionId +
        ((accountRun plainPlatform agedOps).machine.outbox.losses.find? fun loss =>
          loss.sessionId == (probeBatch 1 1000).sessionId).elim 0
            fun loss => loss.rejectedBatches.toNat + loss.conflictBatches.toNat + loss.expiredBatches.toNat := by
  have hsteps : Along plainPlatform (Machine.Counts plainPlatform "outbox") .initial agedOps := by
    simp only [agedOps, Along]
    exact ⟨(accounts_open rfl).toCounts, (accounts_enqueue (by decide +kernel)).toCounts, accounts_restart.toCounts,
      counts_open fun _ _ _ _ hr => payload_aged rfl hr, trivial⟩
  refine ⟨hsteps, ?_⟩
  have hend : (accountRun plainPlatform agedOps).machine.outbox.isOpen = true ∧
      (accountRun plainPlatform agedOps).machine.outbox.losses = [] ∧
      (accountRun plainPlatform agedOps).machine.outbox.records.length = 0 ∧
      (accountRun plainPlatform agedOps).enqueued (probeBatch 1 1000).sessionId = 1 ∧
      (accountRun plainPlatform agedOps).retired (probeBatch 1 1000).sessionId = 0 := by
    decide +kernel
  obtain ⟨hopen, hlosses, hrecords, henqueued, hretired⟩ := hend
  rw [hlosses, henqueued, hretired, length_eq_zero_iff.mp hrecords]
  exact ⟨hopen, fun _ h => absurd h not_mem_nil, by decide⟩

/-- Two batches, of which one is rejected and the other is sent. -/
def accountedOps : List OutboxOp :=
  [.open "outbox" 1000 (smoothOpen 1000), .enqueue (probeBatch 1 1000) (smoothEnqueue 1000),
    .enqueue (probeBatch 2 1000) (smoothEnqueue 1100),
    .acknowledge (probeAck 1 .rejected) 1500 (smoothAck 1500),
    .nextBatchToSend 1600 5000 ⟨1600, smoothPrune 1600⟩]

lemma accountsFrom_accountedOps : AccountsFrom plainPlatform "outbox" .initial accountedOps := by
  simp only [accountedOps, AccountsFrom, Along]
  exact ⟨accounts_open rfl, accounts_enqueue (by decide +kernel), accounts_enqueue (by decide +kernel),
    accounts_acknowledge (by decide +kernel), accounts_nextBatchToSend (by decide +kernel), trivial⟩

lemma unsaturated_accountedOps : Unsaturated (accountRun plainPlatform accountedOps).machine.outbox.losses := by
  have ha : ∀ loss ∈ (accountRun plainPlatform accountedOps).machine.outbox.losses,
      loss.rejectedBatches < UInt64.ofNat kMaximumTelemetryOutboxBatches ∧
        loss.conflictBatches < UInt64.ofNat kMaximumTelemetryOutboxBatches ∧
        loss.expiredBatches < UInt64.ofNat kMaximumTelemetryOutboxBatches := by
    decide +kernel
  intro loss hl
  obtain ⟨hr, hc, he⟩ := ha loss hl
  exact ⟨hr, hc, he⟩

/-- Two batches enqueued, the first of them rejected. -/
theorem outbox_accounts_probe : pendingCount (probeBatch 1 1000).sessionId
        (accountRun plainPlatform accountedOps).machine.outbox.records = 1 ∧
      (accountRun plainPlatform accountedOps).enqueued (probeBatch 1 1000).sessionId =
        pendingCount (probeBatch 1 1000).sessionId (accountRun plainPlatform accountedOps).machine.outbox.records +
          (accountRun plainPlatform accountedOps).retired (probeBatch 1 1000).sessionId +
          ((accountRun plainPlatform accountedOps).machine.outbox.losses.find? fun loss =>
            loss.sessionId == (probeBatch 1 1000).sessionId).elim 0
              fun loss => loss.rejectedBatches.toNat + loss.conflictBatches.toNat + loss.expiredBatches.toNat :=
  ⟨by decide +kernel, outbox_accounts plainPlatform "outbox" accountedOps accountsFrom_accountedOps
    (by decide +kernel) unsaturated_accountedOps (probeBatch 1 1000).sessionId⟩

end Nstu.Telemetry.Outbox
