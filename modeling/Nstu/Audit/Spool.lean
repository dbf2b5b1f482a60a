import Nstu.Audit.Chunk

/-!
# The spool

`Spool` of `audit.cpp`: the queue of records that wait for their upload.
-/

namespace Nstu.Audit

open Wire

structure Spool where
  records : List Record := []
  capacity : ℕ
  nextSequence : UInt64 := 1
  dropped : UInt64 := 0

namespace Spool

/-- `Spool`. -/
def new (capacity : ℕ) : Spool := { capacity := if capacity = 0 then 1 else capacity }

/-- The loop that makes room for one more record, over the records and the counter of the dropped ones. -/
def makeRoom (capacity : ℕ) : List Record → UInt64 → List Record × UInt64
  | [], dropped => ([], dropped)
  | record :: rest, dropped =>
    if capacity ≤ (record :: rest).length then makeRoom capacity rest (dropped + 1) else (record :: rest, dropped)

/-- The record that `emit` enqueues. -/
def stamp (spool : Spool) (now : UInt64) (event : Event) : Record := ⟨spool.nextSequence, now, sanitizeEvent event⟩

def emit (spool : Spool) (now : UInt64) (event : Event) : Spool :=
  let room := makeRoom spool.capacity spool.records spool.dropped
  { spool with
    records := room.1 ++ [spool.stamp now event]
    nextSequence := spool.nextSequence + 1
    dropped := room.2 }

def peekChunk (spool : Spool) (maxEvents : ℕ) : List Record := spool.records.take (min maxEvents spool.records.length)

def acknowledge (spool : Spool) (lastAckedSequence : UInt64) : Spool :=
  { spool with records := spool.records.dropWhile fun record => record.sequence ≤ lastAckedSequence }

/-! ## What an operation does -/

/-- How many records have to go for one more. -/
def excess (spool : Spool) : ℕ := spool.records.length + 1 - spool.capacity

lemma makeRoom_eq {capacity : ℕ} (hc : 0 < capacity) (records : List Record) (dropped : UInt64) :
    makeRoom capacity records dropped =
      (records.drop (records.length + 1 - capacity), dropped + UInt64.ofNat (records.length + 1 - capacity)) := by
  induction records generalizing dropped with
  | nil =>
    have : 0 + 1 - capacity = 0 := by omega
    simp [makeRoom, this]
  | cons record rest ih =>
    rw [makeRoom]
    split_ifs with hf
    · have : (record :: rest).length + 1 - capacity = (rest.length + 1 - capacity) + 1 := by
        rw [List.length_cons] at hf ⊢
        omega
      rw [ih, this, List.drop_succ_cons, UInt64.ofNat_add, UInt64.add_assoc, UInt64.add_comm 1]
      rfl
    · have : (record :: rest).length + 1 - capacity = 0 := by omega
      rw [this]
      simp

lemma emit_eq {spool : Spool} (hc : 0 < spool.capacity) (now : UInt64) (event : Event) : spool.emit now event =
      { spool with
        records := spool.records.drop spool.excess ++ [spool.stamp now event]
        nextSequence := spool.nextSequence + 1
        dropped := spool.dropped + UInt64.ofNat spool.excess } := by
  rw [emit, makeRoom_eq hc]
  rfl

lemma capacity_new (capacity : ℕ) : 0 < (new capacity).capacity := by
  rw [new]
  dsimp only
  split_ifs <;> omega

end Spool

end Nstu.Audit
