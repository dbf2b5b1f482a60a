import Nstu.Telemetry.Outbox.Guarded

/-!
# How `open` ends

`OpenExit` lists the ways `TelemetryOutbox::open` can end.  It stops before it has an outbox, with the
payload file as it was or gone; it makes an empty payload file where there is none; or it loads the
file and runs a pass over it.  `Ready` is the machine that comes to the payload, and `Machine.Passes`
says which outbox the pass of a call works on, at which time.
-/

namespace Nstu.Telemetry.Outbox

open Wire Reader

section Exit

variable (platform : Platform) (calls : OpenCalls) (path : Path) (now : UInt64) (machine : Machine)

/-- The object at a path before it has read anything. -/
def emptiedOutbox : TelemetryOutbox :=
  { (if machine.outbox.isOpen then closeLocked machine.outbox else machine.outbox) with
    path
    records := []
    totalPayloadBytes := 0
    losses := []
    activeSessionId := Block.zero 16 }

/-- `open` gets as far as the files of the path. -/
structure Enters : Prop where
  settled : ((machine.outbox.expiryRetryPending || machine.outbox.expiryBarrierMs != 0) &&
    path != machine.outbox.path) = false
  nonempty : path.isEmpty = false
  unrevoked : machine.outbox.revocationPending = false
  cleaned : calls.quarantineCleaned = true

/-- What `open` has found when it comes to the payload. -/
structure Ready (time : UInt64) (ready : Machine) (files : OutboxFiles) (observed : Option UInt64) :
    Prop where
  enters : Enters calls path machine
  aged : expireOldPayload calls (machine.disk path) = .ok files
  barrier : readExpiryBarrier platform calls files = .ok observed
  revoked : (removeRevoked calls files).1 = .ok ()
  time : time = barredTime now (emptiedOutbox path machine) observed
  outbox : ready.outbox = (emptiedOutbox path machine).withBarrier observed
  disk : ready.disk = Function.update machine.disk path (removeRevoked calls files).2

/-- How an opening can end. -/
inductive OpenExit : Except String Unit × Machine → Prop where
  | stopped {message : String} {after : Machine} (hclosed : after.outbox.isOpen = false)
      (hother : ∀ other, other ≠ path → after.disk other = machine.disk other)
      (hpayload : (after.disk path).payload = (machine.disk path).payload ∨ (after.disk path).payload = none)
      (hexpiry : (after.disk path).expiry = (machine.disk path).expiry) :
      OpenExit (.error message, after)
  | refused {message : String} : OpenExit (.error message, machine)
  | uncleared {message : String} {time : UInt64} {ready : Machine} {files : OutboxFiles}
      {observed : Option UInt64} {seed : ℕ}
      (hready : Ready platform calls path now machine time ready files observed)
      (hpayload : ready.files.payload = none) :
      OpenExit (.error message, ⟨ready.outbox, ready.changeFiles fun files => { files with
        payload := some (protectedPayload platform seed ready.outbox) }⟩)
  | created {time : UInt64} {ready : Machine} {files : OutboxFiles} {observed : Option UInt64}
      {seed : ℕ} (hready : Ready platform calls path now machine time ready files observed)
      (hpayload : ready.files.payload = none) :
      OpenExit (.ok (), Machine.unbarred ⟨{ ready.outbox with isOpen := true },
        ready.changeFiles fun files => { files with
          payload := some (protectedPayload platform seed ready.outbox) }⟩)
  | unpruned {message : String} {time : UInt64} {ready pruned : Machine} {files : OutboxFiles}
      {observed : Option UInt64} {blob plaintext : Bytes} {loaded : Loaded}
      (hready : Ready platform calls path now machine time ready files observed)
      (hfound : calls.payloadFoundAgain = true) (hblob : ready.files.payload = some blob)
      (hdecrypt : decryptPayload platform calls blob = .ok plaintext)
      (hload : loadOutbox platform time plaintext = .ok loaded)
      (hprune : pruneExpiredLocked platform calls.prune time loaded.clamped
        { ready with outbox := loadedOutbox loaded ready.outbox } = (.error message, pruned)) :
      OpenExit (.error message, { pruned with outbox := closeLocked pruned.outbox })
  | loaded {count : ℕ} {time : UInt64} {ready pruned : Machine} {files : OutboxFiles}
      {observed : Option UInt64} {blob plaintext : Bytes} {loaded : Loaded}
      (hready : Ready platform calls path now machine time ready files observed)
      (hfound : calls.payloadFoundAgain = true) (hblob : ready.files.payload = some blob)
      (hdecrypt : decryptPayload platform calls blob = .ok plaintext)
      (hload : loadOutbox platform time plaintext = .ok loaded)
      (hprune : pruneExpiredLocked platform calls.prune time loaded.clamped
        { ready with outbox := loadedOutbox loaded ready.outbox } = (.ok count, pruned)) :
      OpenExit (.ok (), pruned)

end Exit

section Stages

variable {platform : Platform} {calls : OpenCalls} {path : Path} {now time : UInt64}
  {machine ready : Machine} {files : OutboxFiles} {observed : Option UInt64}

lemma emptiedOutbox_isOpen : (emptiedOutbox path machine).isOpen = false := isOpen_closed _

lemma Ready.path_eq (h : Ready platform calls path now machine time ready files observed) :
    ready.outbox.path = path := by
  rw [h.outbox, path_withBarrier]
  rfl

lemma Ready.isOpen (h : Ready platform calls path now machine time ready files observed) :
    ready.outbox.isOpen = false := by
  rw [h.outbox, isOpen_withBarrier]
  exact emptiedOutbox_isOpen

lemma Ready.blank (h : Ready platform calls path now machine time ready files observed) : Blank ready.outbox := by
  rw [h.outbox]
  exact Blank.withBarrier ⟨emptiedOutbox_isOpen, rfl, rfl, rfl⟩ observed

lemma Ready.files_eq (h : Ready platform calls path now machine time ready files observed) :
    ready.files = (removeRevoked calls files).2 := by
  rw [Machine.files, h.path_eq, h.disk, Function.update_self]

lemma Ready.payload (h : Ready platform calls path now machine time ready files observed) :
    ready.files.payload = (machine.disk path).payload ∨ ready.files.payload = none := by
  rw [h.files_eq]
  rcases @payload_removeRevoked calls files with hs | hn
  · rw [hs]
    exact expireOldPayload_ok h.aged
  · exact .inr hn

lemma Ready.expiry (h : Ready platform calls path now machine time ready files observed) :
    ready.files.expiry = (machine.disk path).expiry := by
  rw [h.files_eq, (@removeRevoked_files calls files).1]
  exact expiry_expireOldPayload h.aged

lemma Ready.other (h : Ready platform calls path now machine time ready files observed) {other : Path}
    (ho : other ≠ path) : ready.disk other = machine.disk other := by
  rw [h.disk, Function.update_of_ne ho]

lemma Ready.written {outbox : TelemetryOutbox} {seed : ℕ}
    (h : Ready platform calls path now machine time ready files observed) (hp : outbox.path = path) :
    PayloadWritten outbox.path (protectedPayload platform seed outbox) machine.disk
      (ready.changeFiles fun files => { files with
        payload := some (protectedPayload platform seed outbox) }) := by
  rw [hp]
  constructor
  · rw [← h.path_eq, changeFiles_self]
  · intro other ho
    rw [changeFiles_other (h.path_eq.symm ▸ ho), h.other ho]

lemma Ready.stopped {message : String} {after : Machine}
    (h : Ready platform calls path now machine time ready files observed) (hc : after.outbox.isOpen = false)
    (ho : ∀ other, other ≠ path → after.disk other = ready.disk other)
    (hp : (after.disk path).payload = ready.files.payload ∨ (after.disk path).payload = none)
    (he : (after.disk path).expiry = ready.files.expiry) :
    OpenExit platform calls path now machine (.error message, after) := by
  refine .stopped hc ?_ ?_ (he.trans h.expiry)
  · intro other hn
    rw [ho other hn, h.other hn]
  · rcases hp with hs | hno
    · rw [hs]
      exact h.payload
    · exact .inr hno

lemma Ready.unchanged {message : String} (h : Ready platform calls path now machine time ready files observed) :
    OpenExit platform calls path now machine (.error message, ready) := by
  have hf : ready.disk path = ready.files := by rw [Machine.files, h.path_eq]
  exact h.stopped h.isOpen (fun _ _ => rfl) (.inl (by rw [hf])) (by rw [hf])

lemma openExit_createPayload (h : Ready platform calls path now machine time ready files observed)
    (hp : ready.files.payload = none) :
    OpenExit platform calls path now machine (createPayload platform calls ready) := by
  simp only [createPayload]
  split
  · exact h.unchanged
  · rename_i disk hpe
    obtain ⟨-, seed, -, hd⟩ := persistLocked_ok hpe
    rw [hd]
    split
    · exact @OpenExit.uncleared platform calls path now machine _ time ready files observed seed h
        hp
    · rename_i cleared hc
      simp only [clearExpiryBarrier] at hc
      split at hc
      · cases hc
        exact @OpenExit.created platform calls path now machine time ready files observed seed h
          hp
      · cases hc

lemma openExit_failQuarantine {error message : String}
    (h : Ready platform calls path now machine time ready files observed) :
    OpenExit platform calls path now machine (failQuarantine calls error message ready) := by
  have hs : ∀ change, ready.changeFiles change path = change ready.files := by
    intro change
    rw [← h.path_eq, changeFiles_self]
  simp only [failQuarantine]
  refine h.stopped h.isOpen ?_ ?_ ?_
  · intro other hn
    simp only [changeFiles_other (h.path_eq.symm ▸ hn)]
  · simp only [hs]
    by_cases hm : calls.quarantine.moved
    · right
      simp [hm]
    · left
      simp [hm]
  · simp only [hs]

lemma openExit_loadPayload {blob : Bytes} (h : Ready platform calls path now machine time ready files observed)
    (hf : calls.payloadFoundAgain) (hb : ready.files.payload = some blob) :
    OpenExit platform calls path now machine (loadPayload platform calls time blob ready) := by
  simp only [loadPayload]
  split
  · exact h.unchanged
  · rename_i plaintext hd
    split
    · exact openExit_failQuarantine h
    · exact openExit_failQuarantine h
    · exact h.unchanged
    · rename_i loaded hl
      split
      · rename_i hp
        exact .unpruned h hf hb hd hl hp
      · rename_i hp
        exact .loaded h hf hb hd hl hp

lemma openExit_openPayload (h : Ready platform calls path now machine time ready files observed) :
    OpenExit platform calls path now machine (openPayload platform calls time ready) := by
  simp only [openPayload]
  split
  · exact h.unchanged
  · rename_i hf
    split
    · rename_i hn
      exact openExit_createPayload h hn
    · rename_i blob hb
      exact openExit_loadPayload h (by simpa using hf) hb

/-- An opening ends in one of these ways. -/
lemma openExit_openPath (hente : Enters calls path machine) : OpenExit platform calls path now machine
      (openPath platform calls now { machine with outbox := emptiedOutbox path machine }) := by
  have hfiles : Machine.files { machine with outbox := emptiedOutbox path machine } =
      machine.disk path := rfl
  have hchan : ∀ {outbox : TelemetryOutbox} {disk : Disk} {files : OutboxFiles},
      outbox.path = path → Machine.changeFiles ⟨outbox, disk⟩ (fun _ => files) =
        Function.update disk path files := by
    intro outbox disk files hpath
    simp only [Machine.changeFiles, hpath]
  have hclos : (emptiedOutbox path machine).isOpen = false := emptiedOutbox_isOpen
  simp only [openPath, hfiles]
  split
  · exact .stopped hclos (fun _ _ => rfl) (.inl rfl) rfl
  · rename_i files haged
    have hpayl := expireOldPayload_ok haged
    have hexpi := expiry_expireOldPayload haged
    rw [hchan rfl]
    simp only [openBarred]
    have hself : Machine.files ⟨emptiedOutbox path machine,
        Function.update machine.disk path files⟩ = files := Function.update_self ..
    rw [hself]
    split
    · refine .stopped hclos (fun other hne => Function.update_of_ne hne _ _) ?_ ?_
      · simp only [Function.update_self]
        exact hpayl
      · simp only [Function.update_self]
        exact hexpi
    · rename_i observed hobse
      have hbarr : ((emptiedOutbox path machine).withBarrier observed).isOpen = false := by
        rw [isOpen_withBarrier]
        exact hclos
      have hbarre : ((emptiedOutbox path machine).withBarrier observed).path = path := by
        rw [path_withBarrier]
        rfl
      have hbarredF : Machine.files ⟨(emptiedOutbox path machine).withBarrier observed,
          Function.update machine.disk path files⟩ = files := by
        simp only [Machine.files, hbarre, Function.update_self]
      simp only [openUnrevoked, hbarredF, hchan hbarre, Function.update_idem]
      split
      · rename_i message revoked hrevo
        have hgone := @payload_removeRevoked calls files
        have hkept := (@removeRevoked_files calls files).1
        rw [hrevo] at hgone hkept
        refine .stopped hbarr (fun other hne => Function.update_of_ne hne _ _) ?_ ?_
        · simp only [Function.update_self]
          rcases hgone with hsame | hnone
          · rw [hsame]
            exact hpayl
          · exact .inr hnone
        · simp only [Function.update_self]
          exact hkept.trans hexpi
      · rename_i after hrevo
        refine openExit_openPayload ⟨hente, haged, hobse, ?_, rfl, rfl, ?_⟩
        · rw [hrevo]
        · rw [hrevo]

/-- **The ends of `open`.** -/
lemma openOutbox_exit : OpenExit platform calls path (if now = 0 then calls.start else now) machine
      (openOutbox platform calls path now machine) := by
  have hc := isOpen_closed machine.outbox
  have hr : (if machine.outbox.isOpen then closeLocked machine.outbox
      else machine.outbox).revocationPending = machine.outbox.revocationPending := by
    split <;> rfl
  simp only [openOutbox]
  generalize (if now = 0 then calls.start else now) = time
  generalize ho : (if machine.outbox.isOpen then closeLocked machine.outbox
    else machine.outbox) = outbox at hc hr
  split
  · exact .refused
  · rename_i hs
    split
    · exact .stopped hc (fun _ _ => rfl) (.inl rfl) rfl
    · rename_i hn
      split
      · exact .stopped hc (fun _ _ => rfl) (.inl rfl) rfl
      · rename_i hu
        split
        · exact .stopped hc (fun _ _ => rfl) (.inl rfl) rfl
        · rename_i hcl
          subst ho
          refine openExit_openPath ⟨?_, ?_, ?_, ?_⟩
          · simpa using hs
          · simpa using hn
          · simpa [hr] using hu
          · simpa using hcl

end Stages

/-! ## Passes -/

/-- The time of a call that may leave it to the clock. -/
def effectiveTime (now clock : UInt64) : UInt64 := if now = 0 then clock else now

/-- A call runs `prune_expired_locked` on an outbox at a time, which is the barrier's at least. -/
def Machine.Passes (platform : Platform) (machine : Machine) (time : UInt64)
    (outbox : TelemetryOutbox) : OutboxOp → Prop
  | .open path now calls =>
    ∃ arrival ready files observed blob plaintext loaded,
      Ready platform calls path (effectiveTime now calls.start) machine arrival ready files observed ∧
        calls.payloadFoundAgain = true ∧ ready.files.payload = some blob ∧
        decryptPayload platform calls blob = .ok plaintext ∧
        loadOutbox platform arrival plaintext = .ok loaded ∧
        outbox = loadedOutbox loaded ready.outbox ∧ time = max arrival outbox.expiryBarrierMs
  | .enqueue batch calls =>
    machine.outbox.isOpen = true ∧ validateTelemetryBatch batch = true ∧
      (machine.outbox.expiryRetryPending || machine.outbox.expiryBarrierMs != 0) = true ∧
      outbox = machine.outbox ∧ time = max calls.start outbox.expiryBarrierMs
  | .acknowledge _ now calls =>
    machine.outbox.isOpen = true ∧ machine.outbox.expiryRetryPending = true ∧ outbox = machine.outbox ∧
      time = max (effectiveTime now calls.start) outbox.expiryBarrierMs
  | .nextBatchToSend now _ calls | .pruneExpired now calls =>
    machine.outbox.isOpen = true ∧ outbox = machine.outbox ∧
      time = max (effectiveTime now calls.start) outbox.expiryBarrierMs
  | .close | .clearInflight | .purge _ | .clear _ | .restart => False

end Nstu.Telemetry.Outbox
