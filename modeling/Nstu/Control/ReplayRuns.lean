import Nstu.Control.Replay
import Nstu.Core.Map

/-!
# Replays are refused

A run of one `ReplayProtector`: the hellos it is asked about, each with the time at which it is asked.

* `Tracks` — the key set is that of the queue, and no key stands in the queue twice.
* `Guarded` — an accepted hello is still in the queue, or it is stale, or as many others have been
  accepted since as the queue holds.  **`replay_refused`** follows from it.

Entries are taken from the front of the queue only, and they expire in no particular order.  What is
needed is that an entry does not leave before its own time unless it is pushed out.
-/

namespace Nstu.Control.ReplayProtector

open Wire List Std

/-! ## The queue and its keys -/

/-- The key set is that of the queue, and no key stands in the queue twice. -/
structure Tracks (keys : Std.ExtTreeSet Bytes) (entries : List ReplayEntry) : Prop where
  nodup : (entries.map ReplayEntry.key).Nodup
  mem : ∀ key, key ∈ keys ↔ key ∈ entries.map ReplayEntry.key

lemma Tracks.empty : Tracks ∅ [] := ⟨nodup_nil, by simp⟩

variable {keys : Std.ExtTreeSet Bytes} {entries : List ReplayEntry}

lemma Tracks.tail {entry : ReplayEntry}
    (h : Tracks keys (entry :: entries)) : Tracks (keys.erase entry.key) entries := by
  obtain ⟨hn, hno⟩ := nodup_cons.mp h.nodup
  refine ⟨hno, ?_⟩
  intro key
  rw [ExtTreeSet.mem_erase, h.mem, map_cons, mem_cons]
  constructor
  · rintro ⟨hne, rfl | hm⟩
    · simp at hne
    · exact hm
  · intro hm
    refine ⟨?_, .inr hm⟩
    simp only [ne_eq, LawfulEqCmp.compare_eq_iff_eq]
    rintro rfl
    exact hn hm

lemma Tracks.push {entry : ReplayEntry} (h : Tracks keys entries) (hn : entry.key ∉ keys) :
    Tracks (keys.insert entry.key) (entries ++ [entry]) := by
  rw [h.mem] at hn
  refine ⟨?_, ?_⟩
  · rw [map_append, map_singleton, nodup_append']
    exact ⟨h.nodup, nodup_singleton _, by simpa using hn⟩
  · intro key
    rw [ExtTreeSet.mem_insert, h.mem, LawfulEqCmp.compare_eq_iff_eq, map_append,
      map_singleton, mem_append, mem_singleton, or_comm, eq_comm (a := key)]

lemma Tracks.dropExpired (now : UInt64) (h : Tracks keys entries) :
    Tracks (dropExpired now keys entries).2 (dropExpired now keys entries).1 := by
  induction entries generalizing keys with
  | nil => exact h
  | cons entry rest ih =>
    simp only [ReplayProtector.dropExpired]
    split
    · exact ih h.tail
    · exact h

lemma Tracks.dropOldest (capacity : ℕ) (h : Tracks keys entries) :
    Tracks (dropOldest capacity keys entries).2 (dropOldest capacity keys entries).1 := by
  induction entries generalizing keys with
  | nil => exact h
  | cons entry rest ih =>
    simp only [ReplayProtector.dropOldest]
    split
    · exact ih h.tail
    · exact h

lemma Tracks.size_eq (h : Tracks keys entries) : keys.size = entries.length := by
  have hd : keys.toList.Nodup := by
    refine ExtTreeSet.distinct_toList.imp ?_
    intro a b hn
    simpa using hn
  have hp : keys.toList.Perm (entries.map ReplayEntry.key) := by
    refine (perm_ext_iff_of_nodup hd h.nodup).mpr ?_
    intro key
    rw [ExtTreeSet.mem_toList, h.mem]
  rw [← ExtTreeSet.length_toList, hp.length_eq, length_map]

variable {capacity : ℕ}

lemma length_dropOldest_lt (hc : 0 < capacity) (keys : ExtTreeSet Bytes)
    (entries : List ReplayEntry) : (dropOldest capacity keys entries).1.length < capacity := by
  induction entries generalizing keys with
  | nil => exact hc
  | cons entry rest ih =>
    simp only [dropOldest]
    split
    · exact ih _
    · rename_i hr
      exact Nat.not_le.mp hr

lemma dropOldest_subset (capacity : ℕ) (keys : ExtTreeSet Bytes) (entries : List ReplayEntry) :
    (dropOldest capacity keys entries).1 ⊆ entries := by
  induction entries generalizing keys with
  | nil => exact List.Subset.refl _
  | cons entry rest ih =>
    simp only [dropOldest]
    split
    · exact subset_cons_of_subset _ (ih _)
    · exact List.Subset.refl _

variable {back : List ReplayEntry}

lemma dropExpired_keeps {now : UInt64} {entry : ReplayEntry}
    (hl : ¬ entry.expiresAt < now) (keys : ExtTreeSet Bytes) (front : List ReplayEntry) :
    ∃ front', (dropExpired now keys (front ++ entry :: back)).1 = front' ++ entry :: back := by
  induction front generalizing keys with
  | nil => exact ⟨[], by simp [dropExpired, hl]⟩
  | cons first rest ih =>
    simp only [cons_append, dropExpired]
    split
    · exact ih _
    · exact ⟨first :: rest, rfl⟩

lemma dropOldest_keeps {entry : ReplayEntry}
    (hr : back.length + 1 < capacity) (keys : ExtTreeSet Bytes) (front : List ReplayEntry) :
    ∃ front', (dropOldest capacity keys (front ++ entry :: back)).1 = front' ++ entry :: back := by
  induction front generalizing keys with
  | nil => exact ⟨[], by simp [dropOldest, Nat.not_le.mpr hr]⟩
  | cons first rest ih =>
    simp only [cons_append, dropOldest]
    split
    · exact ih _
    · exact ⟨first :: rest, rfl⟩

/-! ## One call -/

/-- The hello is valid, and its clock close enough. -/
def Fresh (protector : ReplayProtector) (hello : AuthHello) (now : UInt64) : Prop :=
  validateAuthHello hello = true ∧ clockDifference hello.unixTimeSeconds now ≤ protector.maximumClockSkew

/-- The protector without the entries that have expired at the front. -/
def cleaned (protector : ReplayProtector) (now : UInt64) : ReplayProtector :=
  { protector with
    entries := (dropExpired now protector.keys protector.entries).1
    keys := (dropExpired now protector.keys protector.entries).2 }

/-- The entry of an accepted hello. -/
def entryOf (protector : ReplayProtector) (hello : AuthHello) (now : UInt64) : ReplayEntry :=
  ⟨replayKey hello, protector.expiryOf hello now⟩

/-- The protector with room made for the entry, and with the entry. -/
def entered (protector : ReplayProtector) (hello : AuthHello) (now : UInt64) : ReplayProtector :=
  { protector with
    entries := (dropOldest protector.capacity protector.keys protector.entries).1 ++ [protector.entryOf hello now]
    keys := (dropOldest protector.capacity protector.keys protector.entries).2.insert (replayKey hello) }

variable {protector : ReplayProtector} {hello : AuthHello} {now : UInt64}

lemma accept_stale (h : ¬ protector.Fresh hello now) : protector.accept hello now = (protector, false) := by
  unfold accept
  split
  · rfl
  · rename_i hv
    rw [Bool.not_eq_true, Bool.not_eq_false'] at hv
    rw [if_pos (UInt64.not_le.mp fun hn => h ⟨hv, hn⟩)]

lemma accept_known (h : protector.Fresh hello now) (hk : replayKey hello ∈ (protector.cleaned now).keys) :
    protector.accept hello now = (protector.cleaned now, false) := by
  have hc : (dropExpired now protector.keys protector.entries).2.contains (replayKey hello) =
      true := ExtTreeSet.contains_iff_mem.mpr hk
  simp [accept, h.1, UInt64.not_lt.mpr h.2, hc, cleaned]

lemma accept_new (h : protector.Fresh hello now) (hn : replayKey hello ∉ (protector.cleaned now).keys) :
    protector.accept hello now = ((protector.cleaned now).entered hello now, true) := by
  have hc : (dropExpired now protector.keys protector.entries).2.contains (replayKey hello) =
      false := by
    rw [← Bool.not_eq_true, ExtTreeSet.contains_iff_mem]
    exact hn
  simp [accept, h.1, UInt64.not_lt.mpr h.2, hc, cleaned, entered, entryOf, expiryOf]

/-- **What a call does**: nothing for a hello that is not fresh, and the hello enters the queue
exactly if its key is not there. -/
lemma accept_cases (protector : ReplayProtector) (hello : AuthHello) (now : UInt64) :
    protector.accept hello now = (protector, false) ∨ replayKey hello ∈ (protector.cleaned now).keys ∧
        protector.accept hello now = (protector.cleaned now, false) ∨
      protector.Fresh hello now ∧ replayKey hello ∉ (protector.cleaned now).keys ∧
        protector.accept hello now = ((protector.cleaned now).entered hello now, true) := by
  by_cases hf : protector.Fresh hello now
  · by_cases hk : replayKey hello ∈ (protector.cleaned now).keys
    · exact .inr (.inl ⟨hk, accept_known hf hk⟩)
    · exact .inr (.inr ⟨hf, hk, accept_new hf hk⟩)
  · exact .inl (accept_stale hf)

lemma accept_capacity (protector : ReplayProtector) (hello : AuthHello) (now : UInt64) :
    (protector.accept hello now).1.capacity = protector.capacity := by
  rcases accept_cases protector hello now with h | ⟨-, h⟩ | ⟨-, -, h⟩ <;> rw [h] <;> rfl

lemma accept_maximumClockSkew (protector : ReplayProtector) (hello : AuthHello) (now : UInt64) :
    (protector.accept hello now).1.maximumClockSkew = protector.maximumClockSkew := by
  rcases accept_cases protector hello now with h | ⟨-, h⟩ | ⟨-, -, h⟩ <;> rw [h] <;> rfl

/-! ## The state stays in order -/

/-- **The keys are those of the queue**, and the queue is within its capacity. -/
structure Consistent (protector : ReplayProtector) : Prop where
  tracks : Tracks protector.keys protector.entries
  positive : 0 < protector.capacity
  bounded : protector.entries.length ≤ protector.capacity

lemma length_dropExpired_le (now : UInt64) (keys : ExtTreeSet Bytes)
    (entries : List ReplayEntry) : (dropExpired now keys entries).1.length ≤ entries.length := by
  induction entries generalizing keys with
  | nil => exact le_rfl
  | cons entry rest ih =>
    simp only [dropExpired]
    split
    · exact (ih _).trans (Nat.le_succ _)
    · exact le_rfl

lemma Consistent.cleaned (h : protector.Consistent) (now : UInt64) : (protector.cleaned now).Consistent :=
  ⟨h.tracks.dropExpired now, h.positive, (length_dropExpired_le _ _ _).trans h.bounded⟩

lemma Consistent.entered (h : protector.Consistent) (hn : replayKey hello ∉ protector.keys) :
    (protector.entered hello now).Consistent := by
  have hr := length_dropOldest_lt h.positive protector.keys protector.entries
  have ht := h.tracks.dropOldest protector.capacity
  -- room is made by erasing keys, so a new key stays new
  have hs : (protector.entryOf hello now).key ∉
      (dropOldest protector.capacity protector.keys protector.entries).2 := by
    rw [ht.mem]
    rw [h.tracks.mem] at hn
    exact fun hm => hn (map_subset _ (dropOldest_subset _ _ _) hm)
  refine ⟨ht.push hs, h.positive, ?_⟩
  · simpa [ReplayProtector.entered] using Nat.succ_le_of_lt hr

lemma Consistent.accept (h : protector.Consistent) (hello : AuthHello) (now : UInt64) :
    (protector.accept hello now).1.Consistent := by
  rcases accept_cases protector hello now with hc | ⟨-, hc⟩ | ⟨-, hn, hc⟩ <;> rw [hc]
  · exact h
  · exact h.cleaned now
  · exact (h.cleaned now).entered hn

/-! ## An accepted hello is remembered -/

/-- **An accepted hello**, whose entry is given and after which `others` hellos have been accepted,
is still in the queue with at most these behind it, or its entry has expired, or the others fill the
queue. -/
def Guarded (protector : ReplayProtector) (entry : ReplayEntry) (now : UInt64) (others : ℕ) : Prop :=
  (∃ front back, protector.entries = front ++ entry :: back ∧ back.length ≤ others) ∨
    entry.expiresAt < now ∨ protector.capacity ≤ others

variable {entry : ReplayEntry} {others : ℕ} {now' : UInt64}

lemma Guarded.mono {more : ℕ} (h : protector.Guarded entry now others) (hn : now ≤ now')
    (hm : others ≤ more) : protector.Guarded entry now' more := by
  rcases h with ⟨front, back, he, hb⟩ | hexpi | hf
  · exact .inl ⟨front, back, he, hb.trans hm⟩
  · exact .inr (.inl (UInt64.lt_of_lt_of_le hexpi hn))
  · exact .inr (.inr (hf.trans hm))

lemma Guarded.cleaned (h : protector.Guarded entry now others) : (protector.cleaned now).Guarded entry now others := by
  rcases h with ⟨front, back, he, hb⟩ | hexpi | hf
  · by_cases hexpi : entry.expiresAt < now
    · exact .inr (.inl hexpi)
    · have hd : ∃ front', (dropExpired now protector.keys (front ++ entry :: back)).1 =
          front' ++ entry :: back := dropExpired_keeps hexpi protector.keys front
      obtain ⟨front', hk⟩ := hd
      rw [← he] at hk
      exact .inl ⟨front', back, hk, hb⟩
  · exact .inr (.inl hexpi)
  · exact .inr (.inr hf)

lemma Guarded.entered (h : protector.Guarded entry now others) (hello : AuthHello) :
    (protector.entered hello now).Guarded entry now (others + 1) := by
  rcases h with ⟨front, back, he, hb⟩ | hexpi | hf
  · by_cases hr : back.length + 1 < protector.capacity
    · obtain ⟨front', hk⟩ := dropOldest_keeps hr protector.keys front
      rw [← he] at hk
      refine .inl ⟨front', back ++ [protector.entryOf hello now], ?_, ?_⟩
      · simp [ReplayProtector.entered, hk]
      · simpa using hb
    · -- the entry may be pushed out, by as many others as the queue holds
      exact .inr (.inr ((Nat.not_lt.mp hr).trans (Nat.succ_le_succ hb)))
  · exact .inr (.inl hexpi)
  · exact .inr (.inr (hf.trans (Nat.le_succ _)))

lemma Guarded.known (h : protector.Guarded entry now others) (hc : protector.Consistent)
    (hl : ¬ entry.expiresAt < now) (hf : others < protector.capacity) : entry.key ∈ protector.keys := by
  rcases h with ⟨front, back, he, -⟩ | hexpi | hfu
  · rw [hc.tracks.mem, he]
    simp
  · exact absurd hexpi hl
  · omega

/-- How many more of the others there are after a call. -/
def counted (entry : ReplayEntry) (hello : AuthHello) (accepted : Bool) : ℕ :=
  if accepted ∧ replayKey hello ≠ entry.key then 1 else 0

/-- **One call**: the entry stays guarded. -/
lemma Guarded.accept (h : protector.Guarded entry now others) (hcons : protector.Consistent)
    (hnow : now ≤ now') (hello : AuthHello) : (protector.accept hello now').1.Guarded entry now'
      (others + counted entry hello (protector.accept hello now').2) := by
  have hlater : protector.Guarded entry now' others := h.mono hnow le_rfl
  rcases accept_cases protector hello now' with hcase | ⟨-, hcase⟩ | ⟨-, hnew, hcase⟩ <;> rw [hcase]
  · exact hlater.mono (UInt64.le_refl _) (Nat.le_add_right _ _)
  · exact hlater.cleaned.mono (UInt64.le_refl _) (Nat.le_add_right _ _)
  · by_cases hother : replayKey hello = entry.key
    · -- the same key can only come in once the entry is gone
      rw [hother] at hnew
      have hgone : entry.expiresAt < now' ∨ protector.capacity ≤ others := by
        by_contra hnot
        rw [not_or, Nat.not_le] at hnot
        exact hnew (hlater.cleaned.known (hcons.cleaned now') hnot.1 hnot.2)
      rcases hgone with hexpi | hfull
      · exact .inr (.inl hexpi)
      · exact .inr (.inr (hfull.trans (Nat.le_add_right _ _)))
    · simpa [counted, hother] using hlater.cleaned.entered hello

lemma lt_of_expiryOf_lt (h : protector.expiryOf hello now < now') :
    hello.unixTimeSeconds.toNat + protector.maximumClockSkew.toNat < now'.toNat := by
  have hb : hello.unixTimeSeconds.toNat ≤ (max now hello.unixTimeSeconds).toNat := by
    change _ ≤ (if now ≤ hello.unixTimeSeconds then hello.unixTimeSeconds else now).toNat
    split
    · exact le_rfl
    · rename_i hl
      exact (UInt64.lt_iff_toNat_lt.mp (UInt64.not_le.mp hl)).le
  simp only [expiryOf] at h
  generalize max now hello.unixTimeSeconds = base at hb h
  have hla := now'.toNat_lt
  have hb' := base.toNat_lt
  have hr : (0xffffffffffffffff - base : UInt64).toNat = 2 ^ 64 - 1 - base.toNat := by
    rw [UInt64.toNat_sub_of_le]
    · rfl
    · rw [UInt64.le_iff_toNat_le]
      simp only [UInt64.reduceToNat]
      omega
  split at h
  · rw [UInt64.lt_iff_toNat_lt] at h
    simp only [UInt64.reduceToNat] at h
    omega
  · rename_i hro
    rw [gt_iff_lt, UInt64.not_lt, UInt64.le_iff_toNat_le, hr] at hro
    rw [UInt64.lt_iff_toNat_lt, UInt64.toNat_add] at h
    omega

lemma not_fresh_of_expired {again : AuthHello} (he : protector.expiryOf hello now < now')
    (hs : again.unixTimeSeconds = hello.unixTimeSeconds) : ¬ protector.Fresh again now' := by
  rintro ⟨-, hn⟩
  have hst := lt_of_expiryOf_lt he
  rw [clockDifference, hs, if_neg ?_, UInt64.le_iff_toNat_le, UInt64.toNat_sub_of_le] at hn
  · omega
  · rw [UInt64.le_iff_toNat_le]
    omega
  · rw [gt_iff_lt, UInt64.lt_iff_toNat_lt]
    omega

/-! ## Runs -/

/-- A hello, and the time of the call. -/
abbrev Call := AuthHello × UInt64

/-- The protector after the calls. -/
def afterCalls (protector : ReplayProtector) (calls : List Call) : ReplayProtector :=
  calls.foldl (fun protector call => (protector.accept call.1 call.2).1) protector

/-- The hellos among the calls that are accepted, in order. -/
def acceptedFrom : ReplayProtector → List Call → List AuthHello
  | _, [] => []
  | protector, call :: calls =>
    let result := protector.accept call.1 call.2
    (if result.2 then [call.1] else []) ++ acceptedFrom result.1 calls

/-- The accepted hellos with another client or another nonce. -/
def othersAccepted (protector : ReplayProtector) (hello : AuthHello) (calls : List Call) : ℕ :=
  (protector.acceptedFrom calls).countP fun other => replayKey other ≠ replayKey hello

lemma afterCalls_cons (protector : ReplayProtector) (call : Call) (calls : List Call) :
    protector.afterCalls (call :: calls) = (protector.accept call.1 call.2).1.afterCalls calls := rfl

lemma Consistent.afterCalls (h : protector.Consistent) (calls : List Call) :
    (protector.afterCalls calls).Consistent := by
  induction calls generalizing protector with
  | nil => exact h
  | cons call calls ih => exact ih (h.accept call.1 call.2)

lemma consistent_create (capacity : ℕ) (maximumClockSkew : ℤ) : (create capacity maximumClockSkew).Consistent :=
  ⟨Tracks.empty, Nat.lt_of_lt_of_le Nat.zero_lt_one (Nat.le_max_right _ _), Nat.zero_le _⟩

lemma afterCalls_capacity (protector : ReplayProtector) (calls : List Call) :
    (protector.afterCalls calls).capacity = protector.capacity := by
  induction calls generalizing protector with
  | nil => rfl
  | cons call calls ih => rw [afterCalls_cons, ih, accept_capacity]

lemma afterCalls_maximumClockSkew (protector : ReplayProtector) (calls : List Call) :
    (protector.afterCalls calls).maximumClockSkew = protector.maximumClockSkew := by
  induction calls generalizing protector with
  | nil => rfl
  | cons call calls ih => rw [afterCalls_cons, ih, accept_maximumClockSkew]

/-- **Any number of calls**: the entry stays guarded, with the others that were accepted. -/
lemma Guarded.afterCalls (calls : List Call) (hk : entry.key = replayKey hello)
    (h : protector.Guarded entry now others) (hc : protector.Consistent)
    (hcl : ((now : UInt64) :: calls.map Prod.snd).Pairwise (· ≤ ·)) :
    (protector.afterCalls calls).Guarded entry ((calls.map Prod.snd).getLastD now)
      (others + protector.othersAccepted hello calls) := by
  induction calls generalizing protector now others with
  | nil => exact h
  | cons call calls ih =>
    rw [map_cons, pairwise_cons] at hcl
    have hs := h.accept hc (hcl.1 call.2 mem_cons_self) call.1
    have hr := ih hs (hc.accept call.1 call.2) hcl.2
    have ho : protector.othersAccepted hello (call :: calls) =
        counted entry call.1 (protector.accept call.1 call.2).2 +
          (protector.accept call.1 call.2).1.othersAccepted hello calls := by
      rw [othersAccepted, acceptedFrom, countP_append, othersAccepted, counted, hk]
      congr 1
      cases (protector.accept call.1 call.2).2 <;> simp
    rw [afterCalls_cons, ho, ← Nat.add_assoc, map_cons, getLastD_cons]
    exact hr

/-! ## No replay is accepted -/

lemma guarded_of_accepted (h : (protector.accept hello now).2) :
    (protector.accept hello now).1.Guarded (protector.entryOf hello now) now 0 := by
  rcases accept_cases protector hello now with hc | ⟨-, hc⟩ | ⟨-, -, hc⟩ <;>
    rw [hc] at h ⊢
  · contradiction
  · contradiction
  · exact .inl ⟨_, [], rfl, Nat.zero_le _⟩

/-- **Replays are refused.**  The keys are those of the queue after any calls, and no more than its
capacity; and as long as the clock of the calls does not run back, a hello with the client, the
nonce and the time of an accepted one is accepted again only after as many others as the queue
holds. -/
theorem replay_refused (capacity : ℕ) (maximumClockSkew : ℤ) (calls : List Call) :
    ((create capacity maximumClockSkew).afterCalls calls).Consistent ∧
      ((create capacity maximumClockSkew).afterCalls calls).keys.size ≤ max capacity 1 ∧
      ((calls.map Prod.snd).Pairwise (· ≤ ·) →
        ∀ before first between second after, calls = before ++ first :: between ++ second :: after →
          let start := (create capacity maximumClockSkew).afterCalls before
          let middle := (start.accept first.1 first.2).1
          (start.accept first.1 first.2).2 = true →
          ((middle.afterCalls between).accept second.1 second.2).2 = true →
          second.1.clientId = first.1.clientId → second.1.clientNonce = first.1.clientNonce →
          second.1.unixTimeSeconds = first.1.unixTimeSeconds →
          max capacity 1 ≤ middle.othersAccepted first.1 between) := by
  have hconsistent : ((create capacity maximumClockSkew).afterCalls calls).Consistent :=
    (consistent_create capacity maximumClockSkew).afterCalls calls
  refine ⟨hconsistent, ?_, ?_⟩
  · have hbounded := hconsistent.bounded
    rwa [← hconsistent.tracks.size_eq, afterCalls_capacity, create] at hbounded
  rintro hclock before first between second after rfl start middle hfirst hsecond hclient hnonce htime
  have hstart : start.Consistent := (consistent_create _ _).afterCalls before
  have hmiddle : middle.Consistent := hstart.accept first.1 first.2
  have hkeys : replayKey second.1 = replayKey first.1 := by rw [replayKey, hclient, hnonce, replayKey]
  rw [List.map_append, List.map_append, List.map_cons, List.map_cons, List.pairwise_append,
    List.pairwise_append] at hclock
  obtain ⟨⟨-, hbetween, -⟩, -, hlast⟩ := hclock
  have hguarded := (guarded_of_accepted hfirst).afterCalls between rfl hmiddle hbetween
  have hnow : (between.map Prod.snd).getLastD first.2 ≤ second.2 := by
    refine hlast _ (List.mem_append_right _ ?_) _ List.mem_cons_self
    exact List.getLastD_mem_cons
  have hcapacity : (middle.afterCalls between).capacity = max capacity 1 := by
    rw [afterCalls_capacity, accept_capacity, afterCalls_capacity, create]
  have hskew : (middle.afterCalls between).maximumClockSkew = start.maximumClockSkew := by
    rw [afterCalls_maximumClockSkew, accept_maximumClockSkew]
  rw [Nat.zero_add] at hguarded
  have hthere := (hguarded.mono hnow le_rfl).cleaned
  rcases accept_cases (middle.afterCalls between) second.1 second.2 with
    hcase | ⟨-, hcase⟩ | ⟨hfresh, hnew, -⟩
  · rw [hcase] at hsecond
    contradiction
  · rw [hcase] at hsecond
    contradiction
  · by_contra hfew
    rw [hkeys] at hnew
    refine hnew (hthere.known ((hmiddle.afterCalls between).cleaned second.2) ?_ ?_)
    · intro hexpired
      refine not_fresh_of_expired hexpired htime ⟨hfresh.1, ?_⟩
      rw [← hskew]
      exact hfresh.2
    · rw [← hcapacity] at hfew
      exact Nat.not_le.mp hfew

/-- A hello that differs from others in its client alone. -/
def sampleHello (client : UInt8) : AuthHello where
  clientId := Block.fill 16 client
  clientNonce := Block.fill 32 7
  unixTimeSeconds := 1000
  keyId := 1

/-- A queue of one hello forgets the first when the second comes, and then takes it again. -/
theorem replay_refused_pushedOut : 1 ≤ (((create 1 120).accept (sampleHello 1) 1000).1).othersAccepted (sampleHello 1)
      [(sampleHello 2, 1001)] :=
  (replay_refused 1 120 [(sampleHello 1, 1000), (sampleHello 2, 1001), (sampleHello 1, 1002)]).2.2
    (by decide) [] (sampleHello 1, 1000) [(sampleHello 2, 1001)] (sampleHello 1, 1002) [] rfl
    (by decide +kernel) (by decide +kernel) rfl rfl rfl

end Nstu.Control.ReplayProtector
