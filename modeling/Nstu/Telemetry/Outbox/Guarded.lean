import Nstu.Telemetry.Outbox.Run

/-!
# The files beside the payload

`Guarded` is what is known of the expiry file and of the revocation mark: an expiry file holds a time,
the object's barrier is the one on file, and an open outbox has read the file and has no mark.
-/

namespace Nstu.Telemetry.Outbox

open Wire Reader

/-- An expiry file that holds a time. -/
def HoldsTime (platform : Platform) (blob : Bytes) (time : UInt64) : Prop :=
  ∃ seed, blob = platform.protect seed outboxEntropy (le time)

structure Guarded (platform : Platform) (machine : Machine) : Prop where
  expiry : ∀ path blob, (machine.disk path).expiry = some blob → ∃ time, time ≠ 0 ∧ HoldsTime platform blob time
  barrier : machine.outbox.expiryBarrierMs ≠ 0 → ∃ blob, machine.files.expiry = some blob ∧
    HoldsTime platform blob machine.outbox.expiryBarrierMs
  current : machine.outbox.isOpen = true → machine.files.revoked = false ∧
    (machine.outbox.expiryBarrierMs = 0 → machine.files.expiry = none) ∧
    machine.outbox.path.isEmpty = false

section Rules

variable {platform : Platform} {machine after : Machine}

/-- The expiry files and the marks are the same. -/
def SameGuards (before after : Disk) : Prop :=
  ∀ path, (after path).expiry = (before path).expiry ∧ (after path).revoked = (before path).revoked

lemma SameGuards.refl (disk : Disk) : SameGuards disk disk := fun _ => ⟨rfl, rfl⟩

lemma sameGuards_changeFiles {change : OutboxFiles → OutboxFiles}
    (h : ∀ files, (change files).expiry = files.expiry ∧ (change files).revoked = files.revoked) :
    SameGuards machine.disk (machine.changeFiles change) := by
  intro path
  by_cases hp : path = machine.outbox.path
  · rw [hp, changeFiles_self]
    exact h _
  · rw [changeFiles_other hp]
    exact ⟨rfl, rfl⟩

lemma Guarded.keep (h : Guarded platform machine) (ho : after.outbox.isOpen → machine.outbox.isOpen)
    (hp : after.outbox.path = machine.outbox.path)
    (hb : after.outbox.expiryBarrierMs = machine.outbox.expiryBarrierMs)
    (hd : SameGuards machine.disk after.disk) : Guarded platform after where
  expiry path blob hbl := h.expiry path blob ((hd path).1.symm.trans hbl)
  barrier hn := by
    rw [hb] at hn ⊢
    rw [Machine.files, hp, (hd _).1]
    exact h.barrier hn
  current ha := by
    rw [Machine.files, hp, (hd _).1, (hd _).2, hb]
    exact h.current (ho ha)

lemma files_unbarred (machine : Machine) : machine.unbarred.files = { machine.files with expiry := none } :=
  @files_changeFiles machine _ { machine.outbox with expiryBarrierMs := 0 } rfl

lemma Guarded.unbar (h : Guarded platform machine)
    (hr : machine.outbox.isOpen → machine.files.revoked = false) :
    Guarded platform machine.unbarred where
  expiry path blob hb := by
    simp only [Machine.unbarred] at hb
    by_cases hp : path = machine.outbox.path
    · rw [hp, changeFiles_self] at hb
      cases hb
    · rw [changeFiles_other hp] at hb
      exact h.expiry path blob hb
  barrier hn := absurd rfl hn
  current ho := by
    rw [files_unbarred]
    exact ⟨hr ho, fun _ => rfl, (h.current ho).2.2⟩

lemma Guarded.seal {answer : WriteAnswer} {now : UInt64} (h : Guarded platform machine)
    (hseal : Sealed platform answer now machine after) : Guarded platform after := by
  cases hseal with
  | held hheld => exact h
  | @written seed hansw hlater =>
    have hne : now ≠ 0 := by
      rintro rfl
      exact absurd hlater (UInt64.not_lt_zero)
    constructor
    · intro path blob hblob
      by_cases hpath : path = machine.outbox.path
      · simp only [hpath, changeFiles_self, Option.some.injEq] at hblob
        exact ⟨now, hne, seed, hblob.symm⟩
      · simp only [changeFiles_other hpath] at hblob
        exact h.expiry path blob hblob
    · intro _
      rw [@files_changeFiles machine _ { machine.outbox with expiryBarrierMs := now } rfl]
      exact ⟨_, rfl, seed, rfl⟩
    · intro hopen
      rw [@files_changeFiles machine _ { machine.outbox with expiryBarrierMs := now } rfl]
      exact ⟨(h.current hopen).1, fun hzero => absurd hzero hne, (h.current hopen).2.2⟩

end Rules

/-! ## Operations -/

section Operations

variable {platform : Platform} {machine : Machine}

variable {now : UInt64} {outcome : Except String ℕ × Machine}

lemma guarded_removeExit {calls : PruneCalls} {count : ℕ} (h : Guarded platform machine)
    (he : RemoveExit platform calls now count machine outcome) : Guarded platform outcome.2 := by
  cases he with
  | kept message => exact h
  | uncleared seed hp hq message hd =>
    exact h.keep id rfl rfl (hd ▸ sameGuards_changeFiles fun _ => ⟨rfl, rfl⟩)
  | @cleared seed hp hq disk hd =>
    have hw : Guarded platform ⟨prunedOutbox calls now machine.outbox, disk⟩ :=
      h.keep id rfl rfl (hd ▸ sameGuards_changeFiles fun _ => ⟨rfl, rfl⟩)
    exact hw.unbar fun ho => (hw.current ho).1

lemma guarded_observed {result : Except String ℕ} {observed : TelemetryOutbox} (h : Guarded platform machine)
    (ho : observeExpired now machine.outbox = (result, observed)) :
    Guarded platform { machine with outbox := observed } := by
  have hm := @marks_observeExpired now machine.outbox
  have hb : (observeExpired now machine.outbox).2.expiryBarrierMs =
      machine.outbox.expiryBarrierMs := by
    simp only [observeExpired]
    split
    · rfl
    · split <;> rfl
  rw [ho] at hm hb
  exact h.keep (fun hope => hm.isOpen.symm.trans hope) hm.path hb (.refl _)

lemma guarded_pruneExit {calls : PruneCalls} {force : Bool} (h : Guarded platform machine)
    (hexit : PruneExit platform calls now force machine outcome) : Guarded platform outcome.2 := by
  cases hexit with
  | overflowed hover => exact h
  | unobserved hobse | quiet hobse hloss hpend hforce hbarr => exact guarded_observed h hobse
  | unbarred hobse hloss hpend hforce =>
    have hguar := guarded_observed h hobse
    exact hguar.unbar fun hopen => (hguar.current hopen).1
  | barred hobse hloss hpend => exact guarded_observed h hobse
  | unsealed hobse => exact (guarded_observed h hobse).keep id rfl rfl (.refl _)
  | forced hobse hloss hpend hforce hexit =>
    exact guarded_removeExit (guarded_observed h hobse) hexit
  | @removed count observed sealed outcome hobse hseal hexit =>
    have hguar : Guarded platform { machine with outbox := { observed with expiryRetryPending := true } } :=
      (guarded_observed h hobse).keep id rfl rfl (.refl _)
    exact guarded_removeExit (hguar.seal hseal) hexit

lemma guarded_pruneExpiredLocked {calls : PruneCalls} {now : UInt64} {force : Bool} (h : Guarded platform machine) :
    Guarded platform (pruneExpiredLocked platform calls now force machine).2 :=
  guarded_pruneExit h pruneExpiredLocked_exit

variable {batch : TelemetryBatch}

lemma guarded_admit {calls : EnqueueCalls} {outcome : Except String Unit × Machine} (h : Guarded platform machine)
    (he : AdmitExit platform calls batch machine outcome) : Guarded platform outcome.2 := by
  cases he with
  | refused message => exact h
  | added ho ha hd =>
    exact h.keep id rfl rfl (hd ▸ sameGuards_changeFiles fun _ => ⟨rfl, rfl⟩)

lemma guarded_enqueue {calls : EnqueueCalls} (h : Guarded platform machine) :
    Guarded platform (enqueue platform calls batch machine).2 :=
  enqueue_keeps h (fun _ _ => guarded_pruneExpiredLocked h) guarded_admit

variable {ack : TelemetryAck}

lemma guarded_ack {calls : AckCalls} {outcome : AckOutcome × Machine} (h : Guarded platform machine)
    (he : AckExit platform calls now ack machine outcome) : Guarded platform outcome.2 := by
  cases he with
  | ignored | failed message => exact h
  | scheduled ho hr hd | settled ho hr ha hs hl hd =>
    exact h.keep id rfl rfl (hd ▸ sameGuards_changeFiles fun _ => ⟨rfl, rfl⟩)

lemma guarded_acknowledge {calls : AckCalls} (h : Guarded platform machine) :
    Guarded platform (acknowledge platform calls ack now machine).2 :=
  acknowledge_keeps h (fun _ _ => guarded_pruneExpiredLocked h) guarded_ack

lemma guarded_nextBatchToSend {calls : OfferCalls} {timeout : UInt64} (h : Guarded platform machine) :
    Guarded platform (nextBatchToSend platform calls now timeout machine).2 :=
  nextBatchToSend_keeps h (fun _ _ => guarded_pruneExpiredLocked h)
    fun h => h.keep id rfl rfl (.refl _)

lemma guarded_persistEmptied {calls : PurgeCalls} {remains failed : String} (h : Guarded platform machine) :
    Guarded platform (persistEmptied platform calls remains failed machine).2 := by
  simp only [persistEmptied]
  split
  · rename_i disk hp
    obtain ⟨ho, seed, ha, hd⟩ := persistLocked_ok hp
    exact h.keep id rfl rfl (hd ▸ sameGuards_changeFiles fun _ => ⟨rfl, rfl⟩)
  · -- The outbox is closed, so the mark does not matter.
    have he : ∀ path, (machine.changeFiles (fun files => { files with
        payload := if calls.payloadRemoved then none else files.payload
        revoked := files.revoked || calls.marked }) path).expiry = (machine.disk path).expiry := by
      intro path
      by_cases hpa : path = machine.outbox.path
      · rw [hpa, changeFiles_self]
        rfl
      · rw [changeFiles_other hpa]
    constructor
    · intro path blob hb
      exact h.expiry path blob ((he path).symm.trans hb)
    · intro hn
      rw [Machine.files, he]
      exact h.barrier hn
    · intro ho
      cases ho

lemma guarded_purge {calls : PurgeCalls} (h : Guarded platform machine) :
    Guarded platform (purge platform calls machine).2 := by
  simp only [purge]
  split
  · exact h
  · exact guarded_persistEmptied (h.keep id rfl rfl (.refl _))

lemma guarded_clear {calls : PurgeCalls} (h : Guarded platform machine) :
    Guarded platform (clear platform calls machine).2 := by
  simp only [clear]
  split
  · exact h
  · exact guarded_persistEmptied (h.keep id rfl rfl (.refl _))

end Operations

/-! ## Opening -/

section Open

variable {platform : Platform} {machine : Machine} {calls : OpenCalls}

variable {blob : Bytes}

lemma unprotect_of_holdsTime {time : UInt64} (h : HoldsTime platform blob time) :
    platform.unprotect blob outboxEntropy = le time := by
  obtain ⟨seed, rfl⟩ := h
  refine platform.unprotect_protect _ _ _ ?_
  intro hn
  have := le_length time
  rw [hn] at this
  cases this

lemma holdsTime_unique {a b : UInt64} (ha : HoldsTime platform blob a) (hb : HoldsTime platform blob b) : a = b :=
  le_injective ((unprotect_of_holdsTime ha).symm.trans (unprotect_of_holdsTime hb))

variable {files : OutboxFiles}

lemma readExpiryBarrier_none (h : readExpiryBarrier platform calls files = .ok none) : files.expiry = none := by
  simp only [readExpiryBarrier] at h
  split at h
  · cases h
  · split at h
    · assumption
    · split at h
      · cases h
      · split at h
        · cases h
        · split at h
          · cases h
          · split at h <;> cases h

lemma readExpiryBarrier_some {observed : UInt64} (h : readExpiryBarrier platform calls files = .ok (some observed)) :
    ∃ blob, files.expiry = some blob ∧ platform.unprotect blob outboxEntropy = le observed := by
  simp only [readExpiryBarrier] at h
  split at h
  · cases h
  · split at h
    · cases h
    · rename_i blob hb
      split at h
      · cases h
      · split at h
        · cases h
        · split at h
          · cases h
          · rename_i time rest hr
            split at h
            · rename_i hw
              cases h
              rw [Bool.and_eq_true, List.isEmpty_iff] at hw
              have hp := run_readLe_iff.mp hr
              rw [hw.1, List.append_nil] at hp
              exact ⟨blob, hb, hp⟩
            · cases h

/-- The object has read the barrier of its path. -/
structure BarrierRead (platform : Platform) (machine : Machine) : Prop where
  guarded : Guarded platform machine
  read : machine.outbox.expiryBarrierMs = 0 → machine.files.expiry = none

lemma max_zero_time (time : UInt64) : max 0 time = time := by
  change (if (0 : UInt64) ≤ time then time else 0) = time
  rw [if_pos UInt64.zero_le]

lemma max_self_time (time : UInt64) : max time time = time := by
  change (if time ≤ time then time else time) = time
  rw [if_pos UInt64.le_rfl]

lemma barrierRead_withBarrier {observed : Option UInt64} (h : Guarded platform machine)
    (hclos : machine.outbox.isOpen = false)
    (hobse : readExpiryBarrier platform calls machine.files = .ok observed) :
    BarrierRead platform { machine with outbox := machine.outbox.withBarrier observed } := by
  cases observed with
  | none =>
    have hnone := readExpiryBarrier_none hobse
    exact ⟨h, fun _ => hnone⟩
  | some observed =>
    obtain ⟨blob, hblob, hplain⟩ := readExpiryBarrier_some hobse
    obtain ⟨time, hne, hholds⟩ := h.expiry _ _ hblob
    have htime : time = observed :=
      le_injective ((unprotect_of_holdsTime hholds).symm.trans hplain)
    subst htime
    -- A barrier that is held already is the one on file.
    have hmax : max machine.outbox.expiryBarrierMs time = time := by
      by_cases hzero : machine.outbox.expiryBarrierMs = 0
      · rw [hzero, max_zero_time]
      · obtain ⟨blob', hblob', hheld⟩ := h.barrier hzero
        rw [hblob, Option.some.injEq] at hblob'
        rw [holdsTime_unique hheld (hblob' ▸ hholds), max_self_time]
    refine ⟨⟨h.expiry, ?_, ?_⟩, ?_⟩
    · intro _
      refine ⟨blob, hblob, ?_⟩
      simp only [TelemetryOutbox.withBarrier, hmax]
      exact hholds
    · intro hopen
      simp only [TelemetryOutbox.withBarrier, hclos] at hopen
      cases hopen
    · intro hzero
      simp only [TelemetryOutbox.withBarrier, hmax] at hzero
      exact absurd hzero hne

lemma guarded_createPayload (h : BarrierRead platform machine)
    (hpath : machine.outbox.path.isEmpty = false) (hrevo : machine.files.revoked = false) :
    Guarded platform (createPayload platform calls machine).2 := by
  simp only [createPayload]
  split
  · exact h.guarded
  · rename_i disk hpers
    obtain ⟨hopen, seed, hansw, hdisk⟩ := persistLocked_ok hpers
    have hguar : SameGuards machine.disk disk :=
      hdisk ▸ sameGuards_changeFiles fun _ => ⟨rfl, rfl⟩
    split
    · exact h.guarded.keep id rfl rfl hguar
    · rename_i cleared hclear
      simp only [clearExpiryBarrier] at hclear
      split at hclear
      · cases hclear
        have hkept : Guarded platform { machine with disk } := h.guarded.keep id rfl rfl hguar
        have hwrit : Guarded platform ⟨{ machine.outbox with isOpen := true }, disk⟩ := by
          refine ⟨hkept.expiry, hkept.barrier, ?_⟩
          intro _
          refine ⟨(hguar _).2.trans hrevo, ?_, hpath⟩
          intro hzero
          exact (hguar _).1.trans (h.read hzero)
        exact hwrit.unbar fun hopen => (hwrit.current hopen).1
      · cases hclear

variable {now : UInt64}

lemma guarded_loadPayload (h : BarrierRead platform machine)
    (hp : machine.outbox.path.isEmpty = false) (hr : machine.files.revoked = false) :
    Guarded platform (loadPayload platform calls now blob machine).2 := by
  have hq : ∀ error message, Guarded platform (failQuarantine calls error message machine).2 :=
    fun _ _ => h.guarded.keep id rfl rfl (sameGuards_changeFiles fun _ => ⟨rfl, rfl⟩)
  simp only [loadPayload]
  split
  · exact h.guarded
  · split
    · exact hq _ _
    · exact hq _ _
    · exact h.guarded
    · rename_i loaded hl
      have ho : Guarded platform { machine with outbox := loadedOutbox loaded machine.outbox } :=
        ⟨h.guarded.expiry, h.guarded.barrier, fun _ => ⟨hr, h.read, hp⟩⟩
      have hpr := @guarded_pruneExpiredLocked platform _ calls.prune now loaded.clamped ho
      simp only [loadedOutbox] at hpr
      split
      · rename_i hpru
        rw [hpru] at hpr
        refine hpr.keep ?_ rfl rfl (.refl _)
        exact fun hf => by cases hf
      · rename_i hpru
        rw [hpru] at hpr
        exact hpr

lemma guarded_openPayload (h : BarrierRead platform machine)
    (hp : machine.outbox.path.isEmpty = false) (hr : machine.files.revoked = false) :
    Guarded platform (openPayload platform calls now machine).2 := by
  simp only [openPayload]
  split
  · exact h.guarded
  · split
    · exact guarded_createPayload h hp hr
    · exact guarded_loadPayload h hp hr

lemma Guarded.stage (h : Guarded platform machine)
    (hc : machine.outbox.isOpen = false) (hf : files.expiry = machine.files.expiry) :
    Guarded platform { machine with disk := machine.changeFiles fun _ => files } := by
  have he : ∀ path, (machine.changeFiles (fun _ => files) path).expiry =
      (machine.disk path).expiry := by
    intro path
    by_cases hp : path = machine.outbox.path
    · rw [hp, changeFiles_self]
      exact hf
    · rw [changeFiles_other hp]
  constructor
  · intro path blob hb
    exact h.expiry path blob ((he path).symm.trans hb)
  · intro hn
    rw [Machine.files, he]
    exact h.barrier hn
  · intro ho
    rw [hc] at ho
    cases ho

lemma removeRevoked_files (files : OutboxFiles) : (removeRevoked calls files).2.expiry = files.expiry ∧
      ((∃ done, (removeRevoked calls files).1 = .ok done) → (removeRevoked calls files).2.revoked = false) := by
  have hf : ∀ {message : String} {revoked : Bool},
      (∃ done, (.error message : Except String Unit) = .ok done) → revoked = false := by
    rintro message revoked ⟨done, hd⟩
    cases hd
  simp only [removeRevoked]
  split
  · exact ⟨rfl, hf⟩
  · split
    · rename_i hr
      exact ⟨rfl, fun _ => by simpa using hr⟩
    · split
      · exact ⟨rfl, hf⟩
      · split
        · exact ⟨rfl, hf⟩
        · exact ⟨rfl, fun _ => rfl⟩

lemma guarded_openUnrevoked (h : BarrierRead platform machine)
    (hc : machine.outbox.isOpen = false) (hp : machine.outbox.path.isEmpty = false) :
    Guarded platform (openUnrevoked platform calls now machine).2 := by
  have hf := @removeRevoked_files calls machine.files
  simp only [openUnrevoked]
  split
  · rename_i message files hr
    rw [hr] at hf
    exact h.guarded.stage hc hf.1
  · rename_i done files hr
    rw [hr] at hf
    have hs : Machine.files { machine with disk := machine.changeFiles fun _ => files } = files :=
      @files_changeFiles machine (fun _ => files) machine.outbox rfl
    refine guarded_openPayload ⟨h.guarded.stage hc hf.1, ?_⟩ hp ?_
    · intro hz
      rw [hs, hf.1]
      exact h.read hz
    · rw [hs]
      exact hf.2 ⟨done, rfl⟩

lemma isOpen_withBarrier (outbox : TelemetryOutbox) (observed : Option UInt64) :
    (outbox.withBarrier observed).isOpen = outbox.isOpen := by
  cases observed <;> rfl

lemma path_withBarrier (outbox : TelemetryOutbox) (observed : Option UInt64) :
    (outbox.withBarrier observed).path = outbox.path := by
  cases observed <;> rfl

lemma expiry_expireOldPayload {after : OutboxFiles}
    (h : expireOldPayload calls files = .ok after) : after.expiry = files.expiry := by
  simp only [expireOldPayload] at h
  split at h
  · cases h
  · split at h
    · cases h
      rfl
    · split at h
      · cases h
      · cases h
        rfl
      · split at h
        · cases h
          rfl
        · cases h

lemma guarded_openPath (h : Guarded platform machine)
    (hc : machine.outbox.isOpen = false) (hp : machine.outbox.path.isEmpty = false) :
    Guarded platform (openPath platform calls now machine).2 := by
  simp only [openPath]
  split
  · exact h
  · rename_i files hf
    have hs := h.stage hc (expiry_expireOldPayload hf)
    simp only [openBarred]
    split
    · exact hs
    · rename_i observed ho
      refine guarded_openUnrevoked (barrierRead_withBarrier hs hc ho) ?_ ?_
      · exact (isOpen_withBarrier _ _).trans hc
      · rw [path_withBarrier]
        exact hp

lemma guarded_openOutbox {path : Path} (h : Guarded platform machine) :
    Guarded platform (openOutbox platform calls path now machine).2 := by
  have hclos := isOpen_closed machine.outbox
  have hfiel : (if machine.outbox.isOpen then closeLocked machine.outbox
      else machine.outbox).path = machine.outbox.path ∧
      (if machine.outbox.isOpen then closeLocked machine.outbox
        else machine.outbox).expiryBarrierMs = machine.outbox.expiryBarrierMs := by
    split <;> exact ⟨rfl, rfl⟩
  simp only [openOutbox]
  generalize (if machine.outbox.isOpen then closeLocked machine.outbox else machine.outbox) = outbox
    at hclos hfiel
  have hclose : Guarded platform { machine with outbox } := by
    refine h.keep ?_ hfiel.1 hfiel.2 (.refl _)
    intro hopen
    rw [hclos] at hopen
    cases hopen
  split
  · exact h
  · rename_i hsame
    split
    · exact hclose
    · rename_i hempty
      split
      · exact hclose
      · split
        · exact hclose
        · refine guarded_openPath ?_ hclos (by simpa using hempty)
          -- The path changes only when no barrier is held.
          refine ⟨h.expiry, ?_, ?_⟩
          · intro hne
            have hne : machine.outbox.expiryBarrierMs ≠ 0 := hfiel.2 ▸ hne
            have hpath : path = machine.outbox.path := by
              simpa [hne] using hsame
            obtain ⟨blob, hblob, hholds⟩ := h.barrier hne
            refine ⟨blob, ?_, ?_⟩
            · rw [Machine.files, hpath]
              exact hblob
            · simp only [hfiel.2]
              exact hholds
          · intro hopen
            simp only [hclos] at hopen
            cases hopen

end Open

/-- Each operation keeps the guard. -/
lemma guarded_step {platform : Platform} {machine : Machine} (op : OutboxOp)
    (h : Guarded platform machine) : Guarded platform (machine.step platform op) := by
  cases op with
  | «open» path now calls => exact guarded_openOutbox h
  | close => exact h.keep (fun hf => by cases hf) rfl rfl (.refl _)
  | enqueue batch calls => exact guarded_enqueue h
  | acknowledge ack now calls => exact guarded_acknowledge h
  | nextBatchToSend now timeout calls => exact guarded_nextBatchToSend h
  | clearInflight => exact h.keep id rfl rfl (.refl _)
  | pruneExpired now calls =>
    exact pruneExpired_keeps h fun _ _ => guarded_pruneExpiredLocked h
  | purge calls => exact guarded_purge h
  | clear calls => exact guarded_clear h
  | restart => exact ⟨h.expiry, fun hn => absurd rfl hn, fun ho => by cases ho⟩

lemma guarded_run (platform : Platform) (ops : List OutboxOp) : Guarded platform (outboxRun platform ops) := by
  have hs : ∀ (ops : List OutboxOp) (machine : Machine), Guarded platform machine →
      Guarded platform (ops.foldl (Machine.step platform) machine) := by
    intro ops
    induction ops with
    | nil => exact fun _ hm => hm
    | cons op ops ih => exact fun machine hm => ih _ (guarded_step op hm)
  refine hs ops .initial ⟨?_, ?_, ?_⟩
  · intro _ _ hb
    cases hb
  · exact fun hn => absurd rfl hn
  · intro ho
    cases ho

end Nstu.Telemetry.Outbox
