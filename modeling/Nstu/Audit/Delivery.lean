import Nstu.Audit.Spool
import Mathlib.Data.List.Induction

/-!
# What becomes of an audit record

A client with its spool, a server whose audit sink is open, and the uploads and acknowledgements between them, any
of which may get lost.  `popOutboundMessage` is of `main.cpp` of the client service, `processAuditUpload` of
`control_plane.cpp`.

`delivered` is the main result.  Its invariant is about positions: the spool holds all records that were ever
emitted but the first so many, and every acknowledgement under way counts only records that were written or have
overflowed.
-/

namespace Nstu.Audit

open Wire List
open UInt64 (ofNat ofNat_add)

/-! ## The parties -/

/-- What `pop_outbound_message` finds.  The third case goes on with the answers of an exam. -/
inductive Popped (Command : Type)
  | command (command : Command) (queue : List Command)
  | auditUpload (payload : Bytes) (nextUpload : ℕ)
  | examAnswers

/-- `pop_outbound_message`, at a time in milliseconds. -/
def popOutboundMessage {Command : Type} (queue : List Command) (spool : Spool) (nextUpload now : ℕ) :
    Popped Command :=
  match queue with
  | command :: rest => .command command rest
  | [] =>
    if !spool.records.isEmpty && nextUpload ≤ now then
      let chunk := spool.peekChunk kMaximumEventsPerChunk
      if chunk.isEmpty then .examAnswers
      else
        let payload := encodeAuditChunk chunk
        if payload.isEmpty then .examAnswers else .auditUpload payload (now + 5000)
    else .examAnswers

/-- The loop over the records of an upload, with what each call of the sink returns: the last accepted sequence
and the records that are written. -/
def writeRecords : List Bool → UInt64 → List Record → UInt64 × List Record
  | true :: writes, _, record :: rest =>
    let later := writeRecords writes record.sequence rest
    (later.1, record :: later.2)
  | _, lastAccepted, _ => (lastAccepted, [])

/-- What the server does with an `audit_upload`: the records it writes and the `audit_ack` it sends.  Where the
source drops the connection there is none. -/
def processAuditUpload (sinkOpen allowed : Bool) (writes : List Bool) (payload : Bytes) :
    Option (List Record × Bytes) :=
  (decodeAuditChunk payload).map fun records =>
    let accepted :=
      if allowed then
        if sinkOpen then writeRecords writes 0 records
        else (records.foldl (fun last record => max last record.sequence) 0, [])
      else (0, [])
    (accepted.2, encodeAuditAck accepted.1)

/-! ## The world -/

/-- The client, the sink of the server, and what is under way.  The last three fields only keep count: all
records ever emitted, those that had to make room, and those that an acknowledgement has removed. -/
structure World (Command : Type) where
  queue : List Command := []
  spool : Spool
  nextUpload : ℕ := 0
  uploads : List Bytes := []
  acks : List Bytes := []
  written : List Record := []
  emitted : List Record := []
  overflowed : List Record := []
  acknowledged : List Record := []

inductive Action (Command : Type)
  | emit (now : UInt64) (event : Event)
  /-- Other threads have changed the queue of commands. -/
  | enqueue (queue : List Command)
  | pop (now : ℕ)
  | loseUpload (index : ℕ)
  | serveUpload (index : ℕ) (allowed : Bool) (writes : List Bool)
  | loseAck (index : ℕ)
  | receiveAck (index : ℕ)
  | reconnect

namespace World

variable {Command : Type}

def receive (world : World Command) (payload : Bytes) : World Command :=
  match decodeAuditAck payload with
  | none => world
  | some sequence =>
    { world with
      spool := world.spool.acknowledge sequence
      acknowledged :=
        world.acknowledged ++ world.spool.records.takeWhile fun record => record.sequence ≤ sequence }

def serve (world : World Command) (allowed : Bool) (writes : List Bool) (payload : Bytes) : World Command :=
  match processAuditUpload true allowed writes payload with
  | none => { world with uploads := [], acks := [] }
  | some (written, ack) => { world with written := world.written ++ written, acks := world.acks ++ [ack] }

/-- One action of the producer, the spool or the receiver. -/
def step (world : World Command) : Action Command → World Command
  | .emit now event =>
    { world with
      spool := world.spool.emit now event
      emitted := world.emitted ++ [world.spool.stamp now event]
      overflowed := world.overflowed ++ world.spool.records.take world.spool.excess }
  | .enqueue queue => { world with queue := queue }
  | .pop now =>
    match popOutboundMessage world.queue world.spool world.nextUpload now with
    | .command _ queue => { world with queue := queue }
    | .auditUpload payload nextUpload =>
      { world with uploads := world.uploads ++ [payload], nextUpload := nextUpload }
    | .examAnswers => world
  | .loseUpload index => { world with uploads := world.uploads.eraseIdx index }
  | .serveUpload index allowed writes =>
    match world.uploads[index]? with
    | none => world
    | some payload => { world with uploads := world.uploads.eraseIdx index }.serve allowed writes payload
  | .loseAck index => { world with acks := world.acks.eraseIdx index }
  | .receiveAck index =>
    match world.acks[index]? with
    | none => world
    | some payload => { world with acks := world.acks.eraseIdx index }.receive payload
  | .reconnect => { world with uploads := [], acks := [] }

/-- A run from the start of the client service. -/
def run (capacity : ℕ) (actions : List (Action Command)) : World Command :=
  actions.foldl step { spool := .new capacity }

/-- What is expected of a world, and of every step that it may take. -/
structure Delivers (world : World Command) : Prop where
  /-- No record is lost count of. -/
  counted : world.emitted.length = world.spool.records.length + world.acknowledged.length + world.spool.dropped.toNat
  /-- A record leaves as the oldest of a full spool, or after it was written. -/
  leaves : ∀ action, ∀ record ∈ world.spool.records, record ∉ (world.step action).spool.records →
    (∃ now event, action = .emit now event ∧ world.spool.capacity ≤ world.spool.records.length ∧
      world.spool.records.head? = some record) ∨ record.received ∈ world.written
  /-- A spool that is not empty yields an upload as soon as it may, and the upload has the oldest record. -/
  uploads : ∀ head rest, world.spool.records = head :: rest → ∃ payload more,
    decodeAuditChunk payload = some (head.received :: more) ∧ ∀ now, world.queue = [] → world.nextUpload ≤ now →
        popOutboundMessage world.queue world.spool world.nextUpload now = .auditUpload payload (now + 5000)

/-! ## The invariant -/

/-- The first so many records were all written or have overflowed. -/
def Settled (world : World Command) (count : ℕ) : Prop :=
  ∀ record ∈ world.emitted.take count, record ∈ world.overflowed ∨ record.received ∈ world.written

/-- An upload under way: a stretch of the records, with settled ones before it. -/
def Uploading (world : World Command) (payload : Bytes) : Prop :=
  ∃ start count, start + count ≤ world.emitted.length ∧ world.Settled start ∧
    decodeAuditChunk payload = some (((world.emitted.drop start).take count).map Record.received)

/-- An acknowledgement under way counts settled records only. -/
def Acknowledging (world : World Command) (payload : Bytes) : Prop :=
  ∃ count, count ≤ world.emitted.length ∧ world.Settled count ∧ decodeAuditAck payload = some (UInt64.ofNat count)

/-- How many records are not in the spool any more. -/
def removed (world : World Command) : ℕ := world.acknowledged.length + world.overflowed.length

structure Inv (world : World Command) : Prop where
  capacity : 0 < world.spool.capacity
  size : world.spool.records.length ≤ world.spool.capacity
  next : world.spool.nextSequence = UInt64.ofNat (world.emitted.length + 1)
  numbered : ∀ i (h : i < world.emitted.length), world.emitted[i].sequence = UInt64.ofNat (i + 1)
  dropped : world.spool.dropped = UInt64.ofNat world.overflowed.length
  removed_le : world.removed ≤ world.emitted.length
  records : world.spool.records = world.emitted.drop world.removed
  overflowed : world.overflowed ⊆ world.emitted.take world.removed
  settled : world.Settled world.removed
  uploads : ∀ payload ∈ world.uploads, world.Uploading payload
  acks : ∀ payload ∈ world.acks, world.Acknowledging payload

/-! ### What only grows -/

/-- Records are added to the emitted, the overflowed and the written ones, and none is taken away. -/
structure Grows (world next : World Command) : Prop where
  emitted : world.emitted <+: next.emitted
  overflowed : world.overflowed ⊆ next.overflowed
  written : world.written ⊆ next.written

section Grows

variable {world next : World Command}

lemma Settled.mono {count : ℕ} (hs : world.Settled count) (hg : Grows world next)
    (hc : count ≤ world.emitted.length) : next.Settled count := by
  intro record hr
  obtain ⟨later, hl⟩ := hg.emitted
  rw [← hl, take_append_of_le_length hc] at hr
  exact (hs record hr).imp (fun h => hg.overflowed h) (fun h => hg.written h)

lemma Uploading.mono {payload : Bytes} (h : world.Uploading payload) (hg : Grows world next) :
    next.Uploading payload := by
  obtain ⟨start, count, hl, hs, hd⟩ := h
  refine ⟨start, count, hl.trans hg.emitted.length_le, hs.mono hg (by omega), ?_⟩
  obtain ⟨later, hla⟩ := hg.emitted
  rw [hd, ← hla, drop_append_of_le_length (by omega),
    take_append_of_le_length (by rw [length_drop]; omega)]

lemma Acknowledging.mono {payload : Bytes} (h : world.Acknowledging payload) (hg : Grows world next) :
    next.Acknowledging payload := by
  obtain ⟨count, hl, hs, hd⟩ := h
  exact ⟨count, hl.trans hg.emitted.length_le, hs.mono hg hl, hd⟩

end Grows

/-! ### Sequences -/

section Sequences

variable {world : World Command}

lemma toNat_ofNat_of_le {world : World Command} (hf : world.emitted.length < 2 ^ 64) {count : ℕ}
    (hc : count ≤ world.emitted.length) : (ofNat count).toNat = count :=
  UInt64.toNat_ofNat_of_lt' (by
    rw [UInt64.size]
    omega)

lemma span_sequence {records : List Record} {first count : ℕ} (hc : count < 2 ^ 64)
    (hf : first + records.length < 2 ^ 64)
    (hr : ∀ i (h : i < records.length), records[i].sequence = ofNat (first + i + 1)) :
    records.dropWhile (fun record => record.sequence ≤ ofNat count) = records.drop (count - first) ∧
      records.takeWhile (fun record => record.sequence ≤ ofNat count) = records.take (count - first) := by
  induction records generalizing first with
  | nil => simp
  | cons record rest ih =>
    have hh : record.sequence = ofNat (first + 1) := hr 0 (Nat.zero_lt_succ _)
    have hl : record.sequence ≤ ofNat count ↔ first + 1 ≤ count := by
      rw [hh, UInt64.le_iff_toNat_le, UInt64.toNat_ofNat_of_lt', UInt64.toNat_ofNat_of_lt']
      · rw [UInt64.size]
        omega
      · rw [length_cons] at hf
        rw [UInt64.size]
        omega
    rw [length_cons] at hf
    by_cases hb : first + 1 ≤ count
    · have ih := @ih (first + 1) (by omega) fun i hi => by
        rw [Nat.add_right_comm first 1 i]
        exact hr (i + 1) (Nat.succ_lt_succ hi)
      have hs : count - first = (count - (first + 1)) + 1 := by omega
      rw [dropWhile_cons_of_pos (by simpa using hl.mpr hb),
        takeWhile_cons_of_pos (by simpa using hl.mpr hb), ih.1, ih.2, hs]
      exact ⟨rfl, rfl⟩
    · have hs : count - first = 0 := by omega
      rw [dropWhile_cons_of_neg (by simpa using fun h => hb (hl.mp h)),
        takeWhile_cons_of_neg (by simpa using fun h => hb (hl.mp h)), hs]
      exact ⟨rfl, rfl⟩

lemma Inv.notMem_overflowed (hinv : world.Inv) (hfew : world.emitted.length < 2 ^ 64) {record : Record}
    (hreco : record ∈ world.spool.records) : record ∉ world.overflowed := by
  intro hover
  rw [hinv.records] at hreco
  obtain ⟨i, hi, rfl⟩ := mem_iff_getElem.mp hreco
  obtain ⟨j, hj, heq⟩ := mem_iff_getElem.mp (hinv.overflowed hover)
  rw [length_drop] at hi
  rw [length_take] at hj
  rw [getElem_take, getElem_drop] at heq
  have hsequ := congrArg Record.sequence heq
  rw [hinv.numbered _ (by omega), hinv.numbered _ (by omega)] at hsequ
  have hnat := congrArg UInt64.toNat hsequ
  rw [toNat_ofNat_of_le hfew (by omega), toNat_ofNat_of_le hfew (by omega)] at hnat
  omega

end Sequences

/-! ### One step -/

section Steps

variable {world next : World Command}

lemma Inv.channels (hinv : world.Inv) (hspool : next.spool = world.spool) (hemit : next.emitted = world.emitted)
    (hover : next.overflowed = world.overflowed) (hackn : next.acknowledged = world.acknowledged)
    (hwrit : world.written ⊆ next.written)
    (huplo : ∀ payload ∈ next.uploads, payload ∈ world.uploads ∨ next.Uploading payload)
    (hacks : ∀ payload ∈ next.acks, payload ∈ world.acks ∨ next.Acknowledging payload) : next.Inv := by
  have hgrows : Grows world next :=
    ⟨hemit ▸ prefix_rfl, hover ▸ List.Subset.refl _, hwrit⟩
  have hremo : next.removed = world.removed := by rw [removed, removed, hackn, hover]
  refine ⟨?_, ?_, ?_, ?_, ?_, ?_, ?_, ?_, ?_, ?_, ?_⟩
  · rw [hspool]
    exact hinv.capacity
  · rw [hspool]
    exact hinv.size
  · rw [hspool, hemit]
    exact hinv.next
  · rw [hemit]
    exact hinv.numbered
  · rw [hspool, hover]
    exact hinv.dropped
  · rw [hremo, hemit]
    exact hinv.removed_le
  · rw [hspool, hremo, hemit]
    exact hinv.records
  · rw [hover, hremo, hemit]
    exact hinv.overflowed
  · rw [hremo]
    exact hinv.settled.mono hgrows hinv.removed_le
  · intro payload hpayl
    rcases huplo payload hpayl with hold | hnew
    · exact (hinv.uploads payload hold).mono hgrows
    · exact hnew
  · intro payload hpayl
    rcases hacks payload hpayl with hold | hnew
    · exact (hinv.acks payload hold).mono hgrows
    · exact hnew

lemma Inv.excess_le (hi : world.Inv) : world.spool.excess ≤ world.spool.records.length := by
  have := hi.capacity
  rw [Spool.excess]
  omega

lemma Inv.length_records (hi : world.Inv) : world.spool.records.length + world.removed = world.emitted.length := by
  rw [hi.records, length_drop]
  exact Nat.sub_add_cancel hi.removed_le

lemma Inv.emit (hinv : world.Inv) (now : UInt64) (event : Event) : (world.step (.emit now event)).Inv := by
  have hexce := hinv.excess_le
  have hleng := hinv.length_records
  have hle := hinv.removed_le
  have hemit := Spool.emit_eq hinv.capacity now event
  have htake : (world.spool.records.take world.spool.excess).length = world.spool.excess :=
    length_take_of_le hexce
  have hremo : (world.step (.emit now event)).removed = world.removed + world.spool.excess := by
    simp only [step, removed, length_append, htake]
    omega
  have hbegi : (world.emitted ++ [world.spool.stamp now event]).take (world.removed + world.spool.excess) =
      world.emitted.take world.removed ++ world.spool.records.take world.spool.excess := by
    rw [take_append_of_le_length (by omega), take_add, ← hinv.records]
  have hgrows : Grows world (world.step (.emit now event)) :=
    ⟨prefix_append _ _, subset_append_left _ _, fun _ h => h⟩
  refine ⟨?_, ?_, ?_, ?_, ?_, ?_, ?_, ?_, ?_, ?_, ?_⟩
  · simp only [step, hemit]
    exact hinv.capacity
  · have := hinv.capacity
    have := hinv.size
    simp only [step, hemit, length_append, length_drop, length_singleton, Spool.excess]
    omega
  · simp only [step, hemit, length_append, length_singleton, hinv.next]
    rw [ofNat_add (world.emitted.length + 1) 1]
    rfl
  · intro i hi
    change i < (world.emitted ++ [world.spool.stamp now event]).length at hi
    change (world.emitted ++ [world.spool.stamp now event])[i].sequence = _
    rw [length_append, length_singleton] at hi
    rcases Nat.lt_succ_iff_lt_or_eq.mp hi with hold | rfl
    · rw [getElem_append_left hold]
      exact hinv.numbered i hold
    · rw [getElem_concat_length rfl]
      exact hinv.next
  · simp only [step, hemit, length_append, htake, hinv.dropped]
    rw [ofNat_add]
  · rw [hremo]
    simp only [step, length_append, length_singleton]
    omega
  · rw [hremo]
    simp only [step, hemit]
    rw [drop_append_of_le_length (by omega), ← drop_drop, ← hinv.records]
  · rw [hremo]
    change world.overflowed ++ _ ⊆ (world.emitted ++ [world.spool.stamp now event]).take _
    rw [hbegi]
    exact append_subset.mpr
      ⟨List.Subset.trans hinv.overflowed (subset_append_left _ _), subset_append_right _ _⟩
  · rw [hremo]
    intro record hreco
    change record ∈ (world.emitted ++ [world.spool.stamp now event]).take _ at hreco
    rw [hbegi, mem_append] at hreco
    rcases hreco with hreco | hreco
    · exact (hinv.settled record hreco).imp (mem_append_left _) id
    · exact .inl (mem_append_right _ hreco)
  · intro payload hpayl
    exact (hinv.uploads payload hpayl).mono hgrows
  · intro payload hpayl
    exact (hinv.acks payload hpayl).mono hgrows

variable {payload : Bytes}

lemma Inv.receive (hinv : world.Inv) (hfew : world.emitted.length < 2 ^ 64)
    (hpayl : world.Acknowledging payload) : (world.receive payload).Inv := by
  obtain ⟨count, hcount, hsett, hdeco⟩ := hpayl
  have hleng := hinv.length_records
  have hle := hinv.removed_le
  obtain ⟨hdrop, htake⟩ := @span_sequence world.spool.records world.removed count (by omega) (by omega) (by
    intro i hi
    simp only [hinv.records, getElem_drop]
    rw [hinv.numbered _ (by omega)])
  have hrece : world.receive payload = { world with
        spool := { world.spool with records := world.spool.records.drop (count - world.removed) }
        acknowledged := world.acknowledged ++ world.spool.records.take (count - world.removed) } := by
    rw [World.receive, hdeco]
    dsimp only
    rw [htake, Spool.acknowledge, hdrop]
  have hremo : (world.receive payload).removed = max world.removed count := by
    rw [hrece]
    simp only [removed, length_append, length_take] at hleng ⊢
    omega
  have hgrows : Grows world (world.receive payload) := by
    rw [hrece]
    exact ⟨prefix_rfl, fun _ h => h, fun _ h => h⟩
  have hemit : (world.receive payload).emitted = world.emitted := by rw [hrece]
  have hover : (world.receive payload).overflowed = world.overflowed := by rw [hrece]
  refine ⟨?_, ?_, ?_, ?_, ?_, ?_, ?_, ?_, ?_, ?_, ?_⟩
  · rw [hrece]
    exact hinv.capacity
  · rw [hrece]
    rw [length_drop]
    exact (Nat.sub_le _ _).trans hinv.size
  · rw [hrece]
    exact hinv.next
  · rw [hemit]
    exact hinv.numbered
  · rw [hrece]
    exact hinv.dropped
  · rw [hremo, hemit]
    exact max_le hle hcount
  · have hsum : world.removed + (count - world.removed) = max world.removed count := by omega
    rw [hremo, hemit, ← hsum, ← drop_drop, ← hinv.records, hrece]
  · rw [hremo, hemit, hover]
    exact List.Subset.trans hinv.overflowed (take_subset_take_left _ (le_max_left _ _))
  · rw [hremo]
    rcases le_total world.removed count with h | h
    · rw [max_eq_right h]
      exact hsett.mono hgrows hcount
    · rw [max_eq_left h]
      exact hinv.settled.mono hgrows hle
  · intro upload huplo
    refine (hinv.uploads upload ?_).mono hgrows
    rw [hrece] at huplo
    exact huplo
  · intro ack hack
    refine (hinv.acks ack ?_).mono hgrows
    rw [hrece] at hack
    exact hack

lemma writeRecords_eq (writes : List Bool) (lastAccepted : UInt64) (records : List Record) :
    ∃ count, (writeRecords writes lastAccepted records).2 = records.take count ∧
      ((count = 0 ∧ (writeRecords writes lastAccepted records).1 = lastAccepted) ∨
        ∃ i, ∃ h : i < records.length, count = i + 1 ∧
          (writeRecords writes lastAccepted records).1 = records[i].sequence) := by
  fun_induction writeRecords writes lastAccepted records with
  | case1 lastAccepted writes record rest later ih =>
    obtain ⟨count, ht, hl⟩ := ih
    refine ⟨count + 1, congrArg (record :: ·) ht, .inr ?_⟩
    rcases hl with ⟨rfl, hl⟩ | ⟨i, hi, rfl, hl⟩
    · exact ⟨0, Nat.zero_lt_succ _, rfl, hl⟩
    · exact ⟨i + 1, Nat.succ_lt_succ hi, rfl, hl⟩
  | case2 => exact ⟨0, rfl, .inl ⟨rfl, rfl⟩⟩

lemma serve_throttled (world : World Command) {records : List Record}
    (hd : decodeAuditChunk payload = some records) (writes : List Bool) :
    world.serve false writes payload = { world with acks := world.acks ++ [encodeAuditAck 0] } := by
  simp [World.serve, processAuditUpload, hd]

lemma Inv.serve (hinv : world.Inv) (hpayl : world.Uploading payload) (allowed : Bool)
    (writes : List Bool) : (world.serve allowed writes payload).Inv := by
  obtain ⟨start, count, hle, hsett, hdeco⟩ := hpayl
  cases allowed with
  | false =>
    rw [serve_throttled world hdeco]
    refine hinv.channels rfl rfl rfl rfl (List.Subset.refl _) (fun _ h => .inl h) fun ack hack => ?_
    rw [mem_append, mem_singleton] at hack
    refine hack.imp id fun hack => ⟨0, Nat.zero_le _, ?_, ?_⟩
    · simp [Settled]
    · rw [hack]
      exact decodeAuditAck_encode 0
  | true =>
    have hserve : ∃ sequence written, writeRecords writes 0
          (((world.emitted.drop start).take count).map Record.received) = (sequence, written) ∧
        world.serve true writes payload = { world with
            written := world.written ++ written
            acks := world.acks ++ [encodeAuditAck sequence] } := by
      refine ⟨_, _, rfl, ?_⟩
      simp [World.serve, processAuditUpload, hdeco]
    obtain ⟨sequence, written, hwrite, hserve⟩ := hserve
    obtain ⟨accepted, htake, hlast⟩ := writeRecords_eq writes 0
      (((world.emitted.drop start).take count).map Record.received)
    rw [hwrite] at htake hlast
    dsimp only at htake hlast
    rw [hserve]
    refine hinv.channels rfl rfl rfl rfl (subset_append_left _ _) (fun _ h => .inl h) fun ack hack => ?_
    rw [mem_append, mem_singleton] at hack
    refine hack.imp id fun hack => ?_
    rw [hack]
    rcases hlast with ⟨-, hzero⟩ | ⟨i, hi, rfl, hsequ⟩
    · refine ⟨0, Nat.zero_le _, by simp [Settled], ?_⟩
      rw [hzero]
      exact decodeAuditAck_encode 0
    · rw [length_map, length_take, length_drop] at hi
      refine ⟨start + (i + 1), by dsimp only; omega, ?_, ?_⟩
      · -- The records before the chunk were settled, and those of the chunk have just been written.
        intro record hreco
        dsimp only at hreco ⊢
        rw [take_add, mem_append] at hreco
        rcases hreco with hbefo | hchunk
        · exact (hsett record hbefo).imp id (mem_append_left _)
        · refine .inr (mem_append_right _ ?_)
          rw [htake, ← map_take, take_take, min_eq_left (by omega)]
          exact mem_map_of_mem hchunk
      · have hindex : start + i < world.emitted.length := by omega
        have hget : sequence = world.emitted[start + i].sequence := by
          rw [hsequ]
          simp [Record.received, Record.sanitized]
        rw [hget, hinv.numbered _ hindex, Nat.add_assoc]
        exact decodeAuditAck_encode _

lemma popOutboundMessage_upload {queue : List Command} {spool : Spool} {nextUpload now later : ℕ}
    (h : popOutboundMessage queue spool nextUpload now = .auditUpload payload later) :
    payload = encodeAuditChunk (spool.peekChunk kMaximumEventsPerChunk) := by
  cases queue with
  | cons command rest => cases h
  | nil =>
    simp only [popOutboundMessage] at h
    split_ifs at h
    exact (Popped.auditUpload.inj h).1.symm

lemma Inv.uploading_peek (hi : world.Inv) :
    world.Uploading (encodeAuditChunk (world.spool.peekChunk kMaximumEventsPerChunk)) := by
  obtain ⟨count, hc, -, hd⟩ :=
    decodeAuditChunk_encode (world.spool.peekChunk kMaximumEventsPerChunk)
  rw [Spool.peekChunk, length_take] at hc
  have hl := hi.length_records
  refine ⟨world.removed, count, by omega, hi.settled, ?_⟩
  rw [hd, Spool.peekChunk, take_take, min_eq_left (by omega), hi.records]

/-- **One step keeps the invariant.** -/
theorem Inv.step (hi : world.Inv) (hf : world.emitted.length < 2 ^ 64) (action : Action Command) :
    (world.step action).Inv := by
  cases action with
  | emit now event => exact hi.emit now event
  | enqueue queue =>
    exact hi.channels rfl rfl rfl rfl (List.Subset.refl _) (fun _ h => .inl h) (fun _ h => .inl h)
  | pop now =>
    rw [World.step]
    split
    · exact hi.channels rfl rfl rfl rfl (List.Subset.refl _) (fun _ h => .inl h) (fun _ h => .inl h)
    · next payload later hp =>
      refine hi.channels rfl rfl rfl rfl (List.Subset.refl _) (fun upload hu => ?_) (fun _ h => .inl h)
      rw [mem_append, mem_singleton] at hu
      refine hu.imp id fun hu => ?_
      rw [hu, popOutboundMessage_upload hp]
      exact hi.uploading_peek
    · exact hi
  | loseUpload index =>
    exact hi.channels rfl rfl rfl rfl (List.Subset.refl _) (fun _ h => .inl (mem_of_mem_eraseIdx h))
      (fun _ h => .inl h)
  | serveUpload index allowed writes =>
    rw [World.step]
    split
    · exact hi
    · next payload hu =>
      have hi' : Inv { world with uploads := world.uploads.eraseIdx index } :=
        hi.channels rfl rfl rfl rfl (List.Subset.refl _) (fun _ h => .inl (mem_of_mem_eraseIdx h))
          (fun _ h => .inl h)
      exact hi'.serve (hi.uploads payload (mem_of_getElem? hu)) allowed writes
  | loseAck index =>
    exact hi.channels rfl rfl rfl rfl (List.Subset.refl _) (fun _ h => .inl h)
      (fun _ h => .inl (mem_of_mem_eraseIdx h))
  | receiveAck index =>
    rw [World.step]
    split
    · exact hi
    · next payload ha =>
      have hi' : Inv { world with acks := world.acks.eraseIdx index } :=
        hi.channels rfl rfl rfl rfl (List.Subset.refl _) (fun _ h => .inl h)
          (fun _ h => .inl (mem_of_mem_eraseIdx h))
      exact hi'.receive hf (hi.acks payload (mem_of_getElem? ha))
  | reconnect =>
    exact hi.channels rfl rfl rfl rfl (List.Subset.refl _) (fun _ h => by cases h) (fun _ h => by cases h)

/-- One step emits at most one record. -/
lemma length_emitted_step (world : World Command) (action : Action Command) :
    world.emitted.length ≤ (world.step action).emitted.length ∧
      (world.step action).emitted.length ≤ world.emitted.length + 1 := by
  have hs : ∀ {next : World Command}, next.emitted = world.emitted →
      world.emitted.length ≤ next.emitted.length ∧ next.emitted.length ≤ world.emitted.length + 1 := by
    intro next h
    rw [h]
    exact ⟨le_refl _, Nat.le_succ _⟩
  cases action with
  | emit now event => simp [World.step]
  | pop now =>
    rw [World.step]
    split <;> exact hs rfl
  | serveUpload index allowed writes =>
    rw [World.step]
    split
    · exact hs rfl
    · rw [World.serve]
      split <;> exact hs rfl
  | receiveAck index =>
    rw [World.step]
    split
    · exact hs rfl
    · rw [World.receive]
      split <;> exact hs rfl
  | enqueue | loseUpload | loseAck | reconnect => exact hs rfl

end Steps

/-! ### A whole run -/

lemma run_append_singleton (capacity : ℕ) (actions : List (Action Command)) (action : Action Command) :
    run capacity (actions ++ [action]) = (run capacity actions).step action := by
  rw [run, foldl_append]
  rfl

lemma inv_start (capacity : ℕ) : Inv ({ spool := .new capacity } : World Command) where
  capacity := Spool.capacity_new capacity
  size := Nat.zero_le _
  next := rfl
  numbered := fun i hi => absurd hi (Nat.not_lt_zero i)
  dropped := rfl
  removed_le := le_refl 0
  records := rfl
  overflowed := nil_subset _
  settled := by simp [Settled]
  uploads := by simp
  acks := by simp

/-- **A run keeps the invariant** while the sequences do not wrap around. -/
theorem inv_run (capacity : ℕ) (actions : List (Action Command))
    (hf : (run capacity actions).emitted.length < 2 ^ 64) : (run capacity actions).Inv := by
  induction actions using reverseRecOn with
  | nil => exact inv_start capacity
  | append_singleton actions action ih =>
    rw [run_append_singleton] at hf ⊢
    have hb := (length_emitted_step (run capacity actions) action).1.trans_lt hf
    exact (ih hb).step hb action

/-! ### The main result -/

lemma popOutboundMessage_of_ne_nil {spool : Spool} {nextUpload now : ℕ} (hr : spool.records ≠ [])
    (hd : nextUpload ≤ now) : popOutboundMessage ([] : List Command) spool nextUpload now =
      .auditUpload (encodeAuditChunk (spool.peekChunk kMaximumEventsPerChunk)) (now + 5000) := by
  obtain ⟨head, rest, hc⟩ := exists_cons_of_ne_nil hr
  simp [popOutboundMessage, Spool.peekChunk, encodeAuditChunk, le, leBytes, hc, hd, kMaximumEventsPerChunk]

section Main

variable {world : World Command}

/-- Only emitting and acknowledging change the spool's records. -/
lemma records_step {action : Action Command} (he : ∀ now event, action ≠ .emit now event)
    (ha : ∀ index, action ≠ .receiveAck index) : (world.step action).spool.records = world.spool.records := by
  cases action with
  | emit now event => exact absurd rfl (he now event)
  | receiveAck index => exact absurd rfl (ha index)
  | pop now =>
    rw [World.step]
    split <;> rfl
  | serveUpload index allowed writes =>
    rw [World.step]
    split
    · rfl
    · rw [World.serve]
      split <;> rfl
  | enqueue | loseUpload | loseAck | reconnect => rfl

/-- An acknowledgement leaves what was emitted and written. -/
lemma step_receiveAck (index : ℕ) : (world.step (.receiveAck index)).emitted = world.emitted ∧
    (world.step (.receiveAck index)).overflowed = world.overflowed ∧
    (world.step (.receiveAck index)).written = world.written := by
  rw [World.step]
  split
  · exact ⟨rfl, rfl, rfl⟩
  · rw [World.receive]
    split <;> exact ⟨rfl, rfl, rfl⟩

lemma Inv.leaves (hinv : world.Inv) (hfew : world.emitted.length < 2 ^ 64) (action : Action Command) {record : Record}
    (hreco : record ∈ world.spool.records) (hgone : record ∉ (world.step action).spool.records) :
    (∃ now event, action = .emit now event ∧ world.spool.capacity ≤ world.spool.records.length ∧
      world.spool.records.head? = some record) ∨ record.received ∈ world.written := by
  by_cases hemit : ∃ now event, action = .emit now event
  · obtain ⟨now, event, rfl⟩ := hemit
    refine .inl ⟨now, event, rfl, ?_⟩
    simp only [World.step, Spool.emit_eq hinv.capacity, mem_append, not_or] at hgone
    have hsize := hinv.size
    rcases Nat.lt_or_ge world.spool.records.length world.spool.capacity with hroom | hfull
    · have : world.spool.excess = 0 := by
        rw [Spool.excess]
        omega
      rw [this] at hgone
      exact absurd hreco hgone.1
    · have : world.spool.excess = 1 := by
        rw [Spool.excess]
        omega
      rw [this] at hgone
      refine ⟨hfull, ?_⟩
      cases hcases : world.spool.records with
      | nil =>
        rw [hcases] at hreco
        cases hreco
      | cons head rest =>
        rw [hcases] at hreco hgone
        rcases mem_cons.mp hreco with rfl | hrest
        · rfl
        · exact absurd hrest hgone.1
  · by_cases hack : ∃ index, action = .receiveAck index
    · obtain ⟨index, rfl⟩ := hack
      obtain ⟨hemitt, hoverf, hwrit⟩ := @step_receiveAck _ world index
      have hnext := hinv.step hfew (.receiveAck index)
      have hmem : record ∈ (world.step (.receiveAck index)).emitted := by
        rw [hinv.records] at hreco
        rw [hemitt]
        exact mem_of_mem_drop hreco
      rw [hnext.records] at hgone
      rw [← take_append_drop (world.step (.receiveAck index)).removed (world.step (.receiveAck index)).emitted,
        mem_append] at hmem
      rcases hnext.settled record (hmem.resolve_right hgone) with hover | hwrite
      · rw [hoverf] at hover
        exact absurd hover (hinv.notMem_overflowed hfew hreco)
      · rw [hwrit] at hwrite
        exact .inr hwrite
    · have hsame := @records_step _ world action (fun now event h => hemit ⟨now, event, h⟩) fun index h => hack ⟨index, h⟩
      rw [hsame] at hgone
      exact absurd hreco hgone

lemma Inv.delivers (hinv : world.Inv) (hfew : world.emitted.length < 2 ^ 64) : world.Delivers where
  counted := by
    have hleng := hinv.length_records
    rw [hinv.dropped, toNat_ofNat_of_le hfew (by rw [removed] at hleng; omega)]
    rw [removed] at hleng
    omega
  leaves := fun action _ hreco hgone => hinv.leaves hfew action hreco hgone
  uploads := by
    intro head rest hrecor
    have hne : world.spool.records ≠ [] := by simp [hrecor]
    obtain ⟨count, -, hpos, hdeco⟩ :=
      decodeAuditChunk_encode (world.spool.peekChunk kMaximumEventsPerChunk)
    have hpeek : world.spool.peekChunk kMaximumEventsPerChunk =
        head :: rest.take (min kMaximumEventsPerChunk (head :: rest).length - 1) := by
      rw [Spool.peekChunk, hrecor]
      exact take_cons (by simp [kMaximumEventsPerChunk])
    obtain ⟨more, hmore⟩ := Nat.exists_eq_succ_of_ne_zero (hpos (by simp [hpeek]))
    rw [hmore, hpeek, take_succ_cons, map_cons, ← hpeek] at hdeco
    refine ⟨_, _, hdeco, ?_⟩
    intro now hqueue hdue
    rw [hqueue]
    exact popOutboundMessage_of_ne_nil hne hdue

end Main

/-- **Audit records are delivered** in every run in which the sequences do not wrap around: none is lost count of,
each leaves the spool as the oldest of a full one or after the server has written it, and a spool that is not empty
keeps yielding uploads that the server accepts. -/
theorem delivered (capacity : ℕ) (actions : List (Action Command))
    (hfew : (run capacity actions).emitted.length < 2 ^ 64) : (run capacity actions).Delivers :=
  (inv_run capacity actions hfew).delivers hfew

lemma length_emitted_le (capacity : ℕ) (actions : List (Action Command)) :
    (run capacity actions).emitted.length ≤ actions.length := by
  induction actions using reverseRecOn with
  | nil => exact le_refl 0
  | append_singleton actions action ih =>
    have := (length_emitted_step (run capacity actions) action).2
    rw [run_append_singleton, length_append, length_singleton]
    omega

/-- One record whose first upload gets lost. -/
theorem delivered_after_loss :
    (run 4 [.emit 7 {}, .pop 0, .loseUpload 0, .pop 5000, .serveUpload 0 true [true], .receiveAck 0] :
      World Bytes).Delivers :=
  delivered 4 _ ((length_emitted_le _ _).trans_lt (by decide))

/-! ### The wrap -/

lemma run_emits (count : ℕ) : ∃ emitted overflowed, run 1 (replicate (count + 1) (.emit 0 {})) =
    ({ spool := ⟨[⟨UInt64.ofNat (count + 1), 0, sanitizeEvent {}⟩], 1, ofNat (count + 2), ofNat count⟩
       emitted := emitted
       overflowed := overflowed } : World Command) := by
  induction count with
  | zero => exact ⟨_, _, rfl⟩
  | succ count ih =>
    obtain ⟨emitted, overflowed, ih⟩ := ih
    have hn : ofNat (count + 1 + 2) = ofNat (count + 2) + 1 := ofNat_add (count + 2) 1
    have hd : ofNat (count + 1) = ofNat count + 1 := ofNat_add count 1
    rw [replicate_succ', run_append_singleton, ih, hn, hd]
    exact ⟨_, _, rfl⟩

/-- The record with the sequence that has wrapped around to zero leaves with an acknowledgement of nothing. -/
theorem wrapped_leaves_unwritten :
    ¬ (run 1 (List.replicate (2 ^ 64) (.emit 0 {}) ++ [.pop 0, .serveUpload 0 false []]) : World Bytes).Delivers := by
  obtain ⟨emitted, overflowed, hemits⟩ := @run_emits Bytes (2 ^ 64 - 1)
  have hcount : 2 ^ 64 - 1 + 1 = 2 ^ 64 := rfl
  have hzero : UInt64.ofNat (2 ^ 64) = 0 := rfl
  rw [hcount, hzero] at hemits
  obtain ⟨count, -, -, hdecode⟩ := decodeAuditChunk_encode [(⟨0, 0, sanitizeEvent {}⟩ : Record)]
  have hpop : ∀ nextSequence dropped, popOutboundMessage ([] : List Bytes)
      ⟨[⟨0, 0, sanitizeEvent {}⟩], 1, nextSequence, dropped⟩ 0 0 =
        .auditUpload (encodeAuditChunk [⟨0, 0, sanitizeEvent {}⟩]) 5000 := fun _ _ =>
    popOutboundMessage_of_ne_nil (List.cons_ne_nil _ _) (le_refl 0)
  have hrun : ∃ spool : Spool, spool.records = [⟨0, 0, sanitizeEvent {}⟩] ∧
      run 1 (List.replicate (2 ^ 64) (.emit 0 {}) ++ [.pop 0, .serveUpload 0 false []]) =
        ({ spool, nextUpload := 5000, acks := [encodeAuditAck 0], emitted, overflowed } : World Bytes) := by
    refine ⟨⟨[⟨0, 0, sanitizeEvent {}⟩], 1, UInt64.ofNat (2 ^ 64 - 1 + 2), UInt64.ofNat (2 ^ 64 - 1)⟩, rfl, ?_⟩
    rw [run, List.foldl_append, ← run, hemits]
    rw [List.foldl_cons, List.foldl_cons, List.foldl_nil, World.step, hpop]
    exact serve_throttled _ hdecode []
  obtain ⟨spool, hrecords, hrun⟩ := hrun
  rw [hrun]
  intro hdelivers
  have hleaves := hdelivers.leaves (.receiveAck 0) ⟨0, 0, sanitizeEvent {}⟩ (by simp [hrecords]) (by
    simp [World.step, World.receive, decodeAuditAck_encode, Spool.acknowledge, hrecords])
  rcases hleaves with ⟨now, event, haction, -⟩ | hwritten
  · cases haction
  · cases hwritten

end World

end Nstu.Audit
