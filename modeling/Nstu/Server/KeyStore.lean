import Std.Data.ExtTreeMap
import Mathlib.Data.List.Induction
import Nstu.Control.Auth

/-!
# The key store

`KeyStore` of `key_store.cpp`: the keys of all clients, the revoked ones among them with their bytes
wiped.  A refused call leaves the store as it is and says why.

Every operation gets one lemma that says what each lookup finds afterwards (`find_enroll`,
`find_rotate`, `find_revoke`, `find_revokeClient`).  From these come the two facts everything else
rests on: an entry stays for good, and once revoked it stays as it is (`Kept`); and a key id is given
out only where no entry is (`find_of_assigns`).
-/

namespace Nstu.Server

open Wire Control Option
open Std.ExtTreeMap (getElem?_map)

/-- `KeyRecord`, and the store's own `Entry`, which has the same fields. -/
structure KeyRecord where
  clientId : ClientId
  keyId : UInt32
  key : Bytes
  revoked : Bool := false
  deriving DecidableEq

def validKey (key : Bytes) : Bool := decide (kMinimumProtocolKeyBytes ≤ key.length) && !allZero key

def makeLookupKey (clientId : ClientId) (keyId : UInt32) : Bytes := clientId.toList ++ le keyId

lemma makeLookupKey_inj {clientId clientId' : ClientId} {keyId keyId' : UInt32} :
    makeLookupKey clientId keyId = makeLookupKey clientId' keyId' ↔ clientId = clientId' ∧ keyId = keyId' := by
  constructor
  · intro h
    obtain ⟨hc, hk⟩ := List.append_inj h (by simp)
    exact ⟨Block.toList_inj.mp hc, le_injective hk⟩
  · rintro ⟨rfl, rfl⟩
    rfl

namespace KeyRecord

def lookupKey (record : KeyRecord) : Bytes := makeLookupKey record.clientId record.keyId

/-- The entry with its key wiped. -/
def revoke (record : KeyRecord) : KeyRecord :=
  { record with revoked := true, key := List.replicate record.key.length 0 }

/-- An entry that is still active is revoked. -/
def revokeActive (record : KeyRecord) : KeyRecord := if record.revoked then record else record.revoke

/-- The record of an entry in a snapshot, without what is left of a revoked key. -/
def exported (record : KeyRecord) : KeyRecord :=
  if record.revoked then { record with key := [] } else record

end KeyRecord

structure KeyStore where
  entries : Std.ExtTreeMap Bytes KeyRecord := ∅

namespace KeyStore

/-- The entry of a client's key, active or revoked. -/
def find (store : KeyStore) (clientId : ClientId) (keyId : UInt32) : Option KeyRecord :=
  store.entries[makeLookupKey clientId keyId]?

def enroll (store : KeyStore) (clientId : ClientId) (keyId : UInt32) (key : Bytes) :
    Except String KeyStore :=
  if keyId = 0 ∨ validKey key = false then .error "invalid key enrollment"
  else if (store.find clientId keyId).isSome then .error "key ID is already allocated"
  else .ok ⟨store.entries.insert (makeLookupKey clientId keyId) ⟨clientId, keyId, key, false⟩⟩

/-- The highest id that a client has an entry for, the revoked ones included. -/
def highestKeyId (clientId : ClientId) (entries : List (Bytes × KeyRecord)) : UInt32 :=
  entries.foldl (fun highest entry =>
    if entry.2.clientId = clientId ∧ highest < entry.2.keyId then entry.2.keyId else highest) 0

def rotate (store : KeyStore) (clientId : ClientId) (replacementKey : Bytes) : Except String (KeyStore × UInt32) :=
  if validKey replacementKey = false then .error "invalid replacement key"
  else
    let highest := highestKeyId clientId store.entries.toList
    if highest = 0xffffffff then .error "key ID space is exhausted"
    else
      let nextId := highest + 1
      let entries := store.entries.insertIfNew (makeLookupKey clientId nextId)
        ⟨clientId, nextId, replacementKey, false⟩
      .ok (⟨entries.map fun _ entry =>
        if entry.clientId = clientId ∧ entry.keyId ≠ nextId then entry.revokeActive else entry⟩, nextId)

def revoke (store : KeyStore) (clientId : ClientId) (keyId : UInt32) : Except String KeyStore :=
  if keyId = 0 then .error "invalid key ID"
  else
    match store.find clientId keyId with
    | none => .error "key is not active"
    | some entry =>
      if entry.revoked then .error "key is not active"
      else .ok ⟨store.entries.insert (makeLookupKey clientId keyId) entry.revoke⟩

/-- `revoke_client`, with the number of keys it revokes. -/
def revokeClient (store : KeyStore) (clientId : ClientId) : KeyStore × ℕ :=
  (⟨store.entries.map fun _ entry =>
      if entry.clientId = clientId then entry.revokeActive else entry⟩,
    store.entries.toList.countP fun entry => entry.2.clientId = clientId && !entry.2.revoked)

def resolve (store : KeyStore) (clientId : ClientId) (keyId : UInt32) : Option Bytes :=
  if keyId = 0 then none
  else
    match store.find clientId keyId with
    | none => none
    | some entry => if entry.revoked || !validKey entry.key then none else some entry.key

/-- The order of a snapshot: by client, then by key id. -/
def snapshotOrder (left right : KeyRecord) : Bool :=
  (compare left.clientId.toList right.clientId.toList).then (compare left.keyId right.keyId) != .gt

def snapshot (store : KeyStore) : List KeyRecord :=
  (store.entries.toList.map fun entry => entry.2.exported).mergeSort snapshotOrder

/-- What `replace` asks of a record. -/
def acceptable (record : KeyRecord) : Bool :=
  record.keyId != 0 && (if record.revoked then record.key.isEmpty else validKey record.key)

/-- The loop of `replace`. -/
def replaceInto (entries : Std.ExtTreeMap Bytes KeyRecord) :
    List KeyRecord → Except String (Std.ExtTreeMap Bytes KeyRecord)
  | [] => .ok entries
  | record :: records =>
    if !acceptable record then .error "invalid keyring record"
    else if (entries[record.lookupKey]?).isSome then .error "duplicate keyring record"
    else replaceInto (entries.insert record.lookupKey record.exported) records

/-- `replace`.  What the store held before plays no part. -/
def replace (records : List KeyRecord) : Except String KeyStore :=
  (replaceInto ∅ records).map KeyStore.mk

end KeyStore

/-- The calls that change which keys a client has. -/
inductive KeyOp where
  | enroll (clientId : ClientId) (keyId : UInt32) (key : Bytes)
  | rotate (clientId : ClientId) (replacementKey : Bytes)
  | revoke (clientId : ClientId) (keyId : UInt32)
  | revokeClient (clientId : ClientId)

namespace KeyStore

/-- The store after a call. -/
def step (store : KeyStore) : KeyOp → KeyStore
  | .enroll clientId keyId key => (store.enroll clientId keyId key).toOption.getD store
  | .rotate clientId replacementKey =>
    ((store.rotate clientId replacementKey).toOption.map Prod.fst).getD store
  | .revoke clientId keyId => (store.revoke clientId keyId).toOption.getD store
  | .revokeClient clientId => (store.revokeClient clientId).1

def run (store : KeyStore) (ops : List KeyOp) : KeyStore := ops.foldl step store

lemma run_append (store : KeyStore) (ops more : List KeyOp) : store.run (ops ++ more) = (store.run ops).run more := by
  simp only [run, List.foldl_append]

lemma run_nil (store : KeyStore) : store.run [] = store := rfl

lemma run_cons (store : KeyStore) (op : KeyOp) (ops : List KeyOp) :
    store.run (op :: ops) = (store.step op).run ops := rfl

end KeyStore

/-- The call gives the key id of the client to a key. -/
def Assigns (store : KeyStore) (clientId : ClientId) (keyId : UInt32) : KeyOp → Prop
  | .enroll target targetId key =>
    target = clientId ∧ targetId = keyId ∧ ∃ after, store.enroll target targetId key = .ok after
  | .rotate target replacementKey =>
    target = clientId ∧ ∃ after, store.rotate target replacementKey = .ok (after, keyId)
  | _ => False

/-! ## Entries under their own key -/

/-- What every store satisfies. -/
structure KeyStore.Sound (store : KeyStore) : Prop where
  lookupKey : ∀ {lookup : Bytes} {record : KeyRecord}, store.entries[lookup]? = some record →
    lookup = record.lookupKey
  keyId : ∀ {lookup : Bytes} {record : KeyRecord}, store.entries[lookup]? = some record → record.keyId ≠ 0
  valid : ∀ {lookup : Bytes} {record : KeyRecord}, store.entries[lookup]? = some record →
    record.revoked = false → validKey record.key = true

section Revoke

variable (record : KeyRecord)

@[simp] lemma lookupKey_revokeActive : record.revokeActive.lookupKey = record.lookupKey := by
  simp only [KeyRecord.revokeActive]
  split <;> rfl

@[simp] lemma keyId_revokeActive : record.revokeActive.keyId = record.keyId := by
  simp only [KeyRecord.revokeActive]
  split <;> rfl

@[simp] lemma revoked_revokeActive : record.revokeActive.revoked := by
  simp only [KeyRecord.revokeActive]
  split
  · assumption
  · rfl

lemma revokeActive_of_revoked {record : KeyRecord} (h : record.revoked) :
    record.revokeActive = record := if_pos h

end Revoke

namespace KeyStore

variable {store after : KeyStore} {clientId other : ClientId} {keyId otherId : UInt32} {key : Bytes}

lemma Sound.insert (h : store.Sound) (record : KeyRecord) (hi : record.keyId ≠ 0)
    (hv : record.revoked = false → validKey record.key) :
    Sound ⟨store.entries.insert record.lookupKey record⟩ := by
  constructor
  all_goals
    intro lookup found hf
    rw [Std.ExtTreeMap.getElem?_insert] at hf
    split at hf
  · rename_i hs
    rw [Std.compare_eq_iff_eq] at hs
    rw [← hs, ← some.inj hf]
  · exact h.lookupKey hf
  · rw [← some.inj hf]
    exact hi
  · exact h.keyId hf
  · rw [← some.inj hf]
    exact hv
  · exact h.valid hf

lemma Sound.map (h : store.Sound) {change : KeyRecord → KeyRecord}
    (hc : ∀ record, change record = record ∨ change record = record.revokeActive) :
    Sound ⟨store.entries.map fun _ record => change record⟩ := by
  have hm : ∀ {lookup : Bytes} {found : KeyRecord},
      (store.entries.map fun _ record => change record)[lookup]? = some found →
      ∃ record, store.entries[lookup]? = some record ∧ (found = record ∨ found = record.revokeActive) := by
    intro lookup found hf
    rw [getElem?_map] at hf
    obtain ⟨record, hr, rfl⟩ := map_eq_some_iff.mp hf
    exact ⟨record, hr, hc record⟩
  constructor
  · intro lookup found hf
    obtain ⟨record, hr, rfl | rfl⟩ := hm hf
    · exact h.lookupKey hr
    · rw [lookupKey_revokeActive]
      exact h.lookupKey hr
  · intro lookup found hf
    obtain ⟨record, hr, rfl | rfl⟩ := hm hf
    · exact h.keyId hr
    · rw [keyId_revokeActive]
      exact h.keyId hr
  · intro lookup found hf ha
    obtain ⟨record, hr, rfl | rfl⟩ := hm hf
    · exact h.valid hr ha
    · rw [revoked_revokeActive] at ha
      cases ha

lemma Sound.find_clientId (h : store.Sound) {record : KeyRecord} (hf : store.find clientId keyId = some record) :
    record.clientId = clientId ∧ record.keyId = keyId := by
  obtain ⟨hc, hk⟩ := makeLookupKey_inj.mp (h.lookupKey hf)
  exact ⟨hc.symm, hk.symm⟩

/-! ## What each call does to a lookup -/

lemma find_insert {record : KeyRecord} :
    find ⟨store.entries.insert (makeLookupKey clientId keyId) record⟩ other otherId =
      if clientId = other ∧ keyId = otherId then some record else store.find other otherId := by
  simp only [find, Std.ExtTreeMap.getElem?_insert, Std.compare_eq_iff_eq, makeLookupKey_inj]

lemma enroll_ok (h : store.enroll clientId keyId key = .ok after) :
    keyId ≠ 0 ∧ validKey key ∧ store.find clientId keyId = none ∧
      after = ⟨store.entries.insert (makeLookupKey clientId keyId) ⟨clientId, keyId, key, false⟩⟩ := by
  simp only [enroll] at h
  split at h
  · cases h
  · rename_i hv
    rw [not_or, Bool.not_eq_false] at hv
    split at h
    · cases h
    · rename_i hf
      cases h
      exact ⟨hv.1, hv.2, by simpa using hf, rfl⟩

lemma find_enroll (h : store.enroll clientId keyId key = .ok after) : after.find other otherId =
      if clientId = other ∧ keyId = otherId then some ⟨clientId, keyId, key, false⟩ else store.find other otherId := by
  obtain ⟨-, -, -, rfl⟩ := enroll_ok h
  exact find_insert

lemma le_highestKeyId {entries : List (Bytes × KeyRecord)} {entry : Bytes × KeyRecord}
    (h : entry ∈ entries) (hc : entry.2.clientId = clientId) : entry.2.keyId ≤ highestKeyId clientId entries := by
  have hf : ∀ (entries : List (Bytes × KeyRecord)) (start : UInt32), start ≤ entries.foldl (fun highest entry =>
        if entry.2.clientId = clientId ∧ highest < entry.2.keyId then entry.2.keyId else highest) start ∧
      ∀ entry ∈ entries, entry.2.clientId = clientId → entry.2.keyId ≤ entries.foldl (fun highest entry =>
          if entry.2.clientId = clientId ∧ highest < entry.2.keyId then entry.2.keyId else highest)
          start := by
    intro entries
    induction entries with
    | nil =>
      intro start
      exact ⟨UInt32.le_refl _, fun entry he => by cases he⟩
    | cons first rest ih =>
      intro start
      rw [List.foldl_cons]
      by_cases hfi : first.2.clientId = clientId ∧ start < first.2.keyId
      · rw [if_pos hfi]
        obtain ⟨hs, hr⟩ := ih first.2.keyId
        refine ⟨UInt32.le_trans (UInt32.le_of_lt hfi.2) hs, ?_⟩
        intro entry he hen
        rcases List.mem_cons.mp he with rfl | he
        · exact hs
        · exact hr entry he hen
      · rw [if_neg hfi]
        obtain ⟨hs, hr⟩ := ih start
        refine ⟨hs, ?_⟩
        intro entry he hen
        rcases List.mem_cons.mp he with rfl | he
        · exact UInt32.le_trans (UInt32.not_lt.mp fun hl => hfi ⟨hen, hl⟩) hs
        · exact hr entry he hen
  exact (hf entries 0).2 entry h hc

lemma Sound.find_le_highest (h : store.Sound) {record : KeyRecord} (hf : store.find clientId keyId = some record) :
    keyId ≤ highestKeyId clientId store.entries.toList := by
  obtain ⟨hc, hk⟩ := h.find_clientId hf
  rw [← hk]
  exact le_highestKeyId (Std.ExtTreeMap.mem_toList_iff_getElem?_eq_some.mpr hf) hc

lemma lt_succ_of_ne_max {id : UInt32} (h : id ≠ 0xffffffff) : id < id + 1 ∧ id + 1 ≠ 0 := by
  have hn : id.toNat ≠ 2 ^ 32 - 1 := fun he => h (UInt32.toNat_inj.mp he)
  have hl := id.toNat_lt
  have hs : (id + 1).toNat = id.toNat + 1 := by
    rw [UInt32.toNat_add, UInt32.toNat_one, Nat.mod_eq_of_lt (by omega)]
  constructor
  · rw [UInt32.lt_iff_toNat_lt, hs]
    exact Nat.lt_succ_self _
  · intro hz
    have := congrArg UInt32.toNat hz
    rw [hs] at this
    cases this

lemma rotate_ok (h : store.Sound) (hrota : store.rotate clientId key = .ok (after, keyId)) :
    keyId ≠ 0 ∧ validKey key ∧ store.find clientId keyId = none ∧
      after = ⟨(store.entries.insert (makeLookupKey clientId keyId) ⟨clientId, keyId, key, false⟩).map fun _ entry =>
          if entry.clientId = clientId ∧ entry.keyId ≠ keyId then entry.revokeActive else entry⟩ := by
  simp only [rotate] at hrota
  split at hrota
  · cases hrota
  · rename_i hvalid
    split at hrota
    · cases hrota
    · rename_i hspace
      obtain ⟨hlt, hzero⟩ := lt_succ_of_ne_max hspace
      cases hrota
      have hfree : store.find clientId (highestKeyId clientId store.entries.toList + 1) = none := by
        cases hfound : store.find clientId (highestKeyId clientId store.entries.toList + 1) with
        | none => rfl
        | some record => exact absurd hlt (UInt32.not_lt.mpr (h.find_le_highest hfound))
      refine ⟨hzero, Bool.not_eq_false _ ▸ hvalid, hfree, ?_⟩
      have hinse : ∀ record : KeyRecord, store.entries.insertIfNew
            (makeLookupKey clientId (highestKeyId clientId store.entries.toList + 1)) record =
          store.entries.insert (makeLookupKey clientId (highestKeyId clientId store.entries.toList + 1)) record := by
        intro record
        refine Std.ExtTreeMap.ext_getElem? ?_
        intro lookup
        rw [Std.ExtTreeMap.getElem?_insertIfNew, Std.ExtTreeMap.getElem?_insert]
        have hnotM : makeLookupKey clientId (highestKeyId clientId store.entries.toList + 1) ∉ store.entries := by
          rw [Std.ExtTreeMap.mem_iff_isSome_getElem?]
          simp only [find] at hfree
          rw [hfree]
          exact Bool.false_ne_true
        simp only [hnotM, not_false_eq_true, and_true]
      rw [hinse]

lemma find_rotate (h : store.Sound) (hrota : store.rotate clientId key = .ok (after, keyId)) :
    after.find other otherId = if clientId = other then if keyId = otherId then some ⟨clientId, keyId, key, false⟩
        else (store.find other otherId).map KeyRecord.revokeActive else store.find other otherId := by
  obtain ⟨hzero, hvalid, hfree, rfl⟩ := rotate_ok h hrota
  have hlook : ∀ entries : Std.ExtTreeMap Bytes KeyRecord,
      find ⟨entries⟩ other otherId = entries[makeLookupKey other otherId]? := fun _ => rfl
  rw [hlook, getElem?_map, Std.ExtTreeMap.getElem?_insert]
  simp only [Std.compare_eq_iff_eq, makeLookupKey_inj]
  rw [← hlook store.entries]
  by_cases hclie : clientId = other
  · by_cases hkey : keyId = otherId
    · simp [hclie, hkey]
    · rw [if_neg fun hboth => hkey hboth.2, if_pos hclie, if_neg hkey]
      cases hfound : store.find other otherId with
      | none => rfl
      | some record =>
        obtain ⟨hreco, hid⟩ := h.find_clientId hfound
        have hother : record.keyId ≠ keyId := fun heq => hkey (heq.symm.trans hid)
        rw [map_some, map_some, if_pos ⟨hreco.trans hclie.symm, hother⟩]
  · rw [if_neg fun hboth => hclie hboth.1, if_neg hclie]
    cases hfound : store.find other otherId with
    | none => rfl
    | some record =>
      obtain ⟨hreco, -⟩ := h.find_clientId hfound
      rw [map_some, if_neg]
      exact fun hboth => hclie (hboth.1.symm.trans hreco)

lemma find_revoke (hr : store.revoke clientId keyId = .ok after) : after.find other otherId =
      if clientId = other ∧ keyId = otherId then (store.find other otherId).map KeyRecord.revokeActive
      else store.find other otherId := by
  simp only [revoke] at hr
  split at hr
  · cases hr
  · split at hr
    · cases hr
    · rename_i entry hf
      split at hr
      · cases hr
      · rename_i ha
        cases hr
        rw [find_insert]
        split
        · rename_i hs
          obtain ⟨rfl, rfl⟩ := hs
          rw [hf, map_some, KeyRecord.revokeActive, if_neg ha]
        · rfl

lemma find_revokeClient (h : store.Sound) : (store.revokeClient clientId).1.find other otherId =
      if clientId = other then (store.find other otherId).map KeyRecord.revokeActive else store.find other otherId := by
  have hl : ∀ entries : Std.ExtTreeMap Bytes KeyRecord,
      find ⟨entries⟩ other otherId = entries[makeLookupKey other otherId]? := fun _ => rfl
  rw [revokeClient, hl, getElem?_map, ← hl store.entries]
  cases hf : store.find other otherId with
  | none => simp
  | some record =>
    obtain ⟨hr, -⟩ := h.find_clientId hf
    rw [map_some, map_some, hr]
    by_cases hc : clientId = other
    · rw [if_pos hc.symm, if_pos hc]
    · rw [if_neg fun he => hc he.symm, if_neg hc]

/-! ## Steps and runs -/

/-- Each key operation keeps the store sound. -/
lemma Sound.step (h : store.Sound) (op : KeyOp) : (store.step op).Sound := by
  cases op with
  | enroll target targetId key =>
    simp only [KeyStore.step]
    cases he : store.enroll target targetId key with
    | error message => exact h
    | ok after =>
      obtain ⟨hi, hv, -, rfl⟩ := enroll_ok he
      exact h.insert ⟨target, targetId, key, false⟩ hi fun _ => hv
  | rotate target key =>
    simp only [KeyStore.step]
    cases hr : store.rotate target key with
    | error message => exact h
    | ok result =>
      obtain ⟨after, keyId⟩ := result
      obtain ⟨hi, hv, -, rfl⟩ := rotate_ok h hr
      refine Sound.map (h.insert ⟨target, keyId, key, false⟩ hi fun _ => hv) ?_
      intro record
      split
      · exact .inr rfl
      · exact .inl rfl
  | revoke target targetId =>
    simp only [KeyStore.step]
    cases hre : store.revoke target targetId with
    | error message => exact h
    | ok after =>
      simp only [KeyStore.revoke] at hre
      split at hre
      · cases hre
      · split at hre
        · cases hre
        · rename_i entry hf
          split at hre
          · cases hre
          · cases hre
            have hl : makeLookupKey target targetId = entry.lookupKey := h.lookupKey hf
            have hi : entry.keyId ≠ 0 := h.keyId hf
            rw [hl]
            exact h.insert entry.revoke hi fun ha => by cases ha
  | revokeClient target =>
    refine h.map ?_
    intro record
    split
    · exact .inr rfl
    · exact .inl rfl

lemma Sound.run (h : store.Sound) (ops : List KeyOp) : (store.run ops).Sound := by
  induction ops generalizing store with
  | nil => exact h
  | cons op ops ih => exact ih (h.step op)

/-- An entry is still there, as it was or revoked since. -/
def Kept (store after : KeyStore) : Prop :=
  ∀ clientId keyId record, store.find clientId keyId = some record → after.find clientId keyId = some record ∨
      after.find clientId keyId = some record.revokeActive

lemma Kept.trans {middle : KeyStore} (h : Kept store middle) (h' : Kept middle after) : Kept store after := by
  intro clientId keyId record hf
  rcases h clientId keyId record hf with hs | hr
  · exact h' clientId keyId record hs
  · rcases h' clientId keyId _ hr with hs | ht
    · exact .inr hs
    · rw [revokeActive_of_revoked (revoked_revokeActive record)] at ht
      exact .inr ht

lemma kept_refl (store : KeyStore) : Kept store store := fun _ _ _ hf => .inl hf

/-- **No call takes an entry away.** -/
lemma kept_step (h : store.Sound) (op : KeyOp) : Kept store (store.step op) := by
  intro other otherId record hf
  cases op with
  | enroll target targetId key =>
    simp only [KeyStore.step]
    cases he : store.enroll target targetId key with
    | error message => exact .inl hf
    | ok after =>
      rw [Except.toOption, getD_some, find_enroll he]
      split
      · rename_i hs
        obtain ⟨rfl, rfl⟩ := hs
        rw [(enroll_ok he).2.2.1] at hf
        cases hf
      · exact .inl hf
  | rotate target key =>
    simp only [KeyStore.step]
    cases hr : store.rotate target key with
    | error message => exact .inl hf
    | ok result =>
      obtain ⟨after, keyId⟩ := result
      rw [Except.toOption, map_some, getD_some, find_rotate h hr]
      split
      · rename_i ht
        split
        · rename_i hi
          rw [← ht, ← hi, (rotate_ok h hr).2.2.1] at hf
          cases hf
        · rw [hf]
          exact .inr rfl
      · exact .inl hf
  | revoke target targetId =>
    simp only [KeyStore.step]
    cases hre : store.revoke target targetId with
    | error message => exact .inl hf
    | ok after =>
      rw [Except.toOption, getD_some, find_revoke hre]
      split
      · rw [hf]
        exact .inr rfl
      · exact .inl hf
  | revokeClient target =>
    simp only [KeyStore.step, find_revokeClient h]
    split
    · rw [hf]
      exact .inr rfl
    · exact .inl hf

/-- Along a run an entry stays, if only as a revoked one. -/
lemma kept_run (h : store.Sound) (ops : List KeyOp) : Kept store (store.run ops) := by
  induction ops generalizing store with
  | nil => exact kept_refl store
  | cons op ops ih => exact (kept_step h op).trans (ih (h.step op))

/-! ## What a lookup means for `resolve` -/

lemma resolve_eq_some_iff (h : store.Sound) : store.resolve clientId keyId = some key ↔
      ∃ record, store.find clientId keyId = some record ∧ record.revoked = false ∧ record.key = key := by
  simp only [resolve]
  constructor
  · intro hr
    split at hr
    · cases hr
    · split at hr
      · cases hr
      · rename_i record hf
        split at hr
        · cases hr
        · rename_i ha
          simp only [Bool.or_eq_true, not_or, Bool.not_eq_true] at ha
          exact ⟨record, hf, ha.1, some.inj hr⟩
  · rintro ⟨record, hf, ha, rfl⟩
    have hi : keyId ≠ 0 := by
      rw [← (h.find_clientId hf).2]
      exact h.keyId hf
    rw [if_neg hi, hf]
    simp only [ha, h.valid hf ha, Bool.not_true, Bool.or_self, Bool.false_eq_true, if_false]

lemma resolve_congr {other' : KeyStore} (h : store.Sound) (h' : other'.Sound)
    (hf : ∀ record, record.revoked = false →
      (store.find clientId keyId = some record ↔ other'.find clientId keyId = some record)) :
    store.resolve clientId keyId = other'.resolve clientId keyId := by
  refine ext ?_
  intro key
  rw [resolve_eq_some_iff h, resolve_eq_some_iff h']
  constructor
  · rintro ⟨record, hfo, ha, hk⟩
    exact ⟨record, (hf record ha).mp hfo, ha, hk⟩
  · rintro ⟨record, hfo, ha, hk⟩
    exact ⟨record, (hf record ha).mpr hfo, ha, hk⟩

lemma resolve_of_revoked {record : KeyRecord}
    (hfind : store.find clientId keyId = some record) (hrevo : record.revoked)
    (hkept : Kept store after) (hafter : after.Sound) : after.resolve clientId keyId = none := by
  have hfound : after.find clientId keyId = some record := by
    rcases hkept clientId keyId record hfind with hsame | hrevok
    · exact hsame
    · rwa [revokeActive_of_revoked hrevo] at hrevok
  rw [← not_isSome_iff_eq_none, isSome_iff_exists]
  rintro ⟨key, hkey⟩
  obtain ⟨other, hother, hacti, -⟩ := (resolve_eq_some_iff hafter).mp hkey
  rw [hfound] at hother
  cases hother
  rw [hrevo] at hacti
  cases hacti

lemma find_of_assigns (h : store.Sound) {op : KeyOp} (ha : Assigns store clientId keyId op) :
    store.find clientId keyId = none ∧ ∃ record, (store.step op).find clientId keyId = some record := by
  cases op with
  | enroll target targetId key =>
    obtain ⟨rfl, rfl, after, he⟩ := ha
    refine ⟨(enroll_ok he).2.2.1, ⟨target, targetId, key, false⟩, ?_⟩
    simp only [KeyStore.step, he, Except.toOption, getD_some, find_enroll he, and_self, if_true]
  | rotate target key =>
    obtain ⟨rfl, after, hr⟩ := ha
    refine ⟨(rotate_ok h hr).2.2.1, ⟨target, keyId, key, false⟩, ?_⟩
    simp only [KeyStore.step, hr, Except.toOption, map_some, getD_some,
      find_rotate h hr, if_true]
  | revoke target targetId | revokeClient target => exact ha.elim

lemma not_assigns_of_find {record : KeyRecord}
    (hf : store.find clientId keyId = some record) (hk : Kept store after) (ha : after.Sound)
    (op : KeyOp) : ¬ Assigns after clientId keyId op := by
  intro hass
  have hn := (find_of_assigns ha hass).1
  rcases hk clientId keyId record hf with hs | hs <;>
  · rw [hn] at hs
    cases hs

end KeyStore

end Nstu.Server
