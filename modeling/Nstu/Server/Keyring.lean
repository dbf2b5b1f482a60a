import Nstu.Server.KeyStore

/-!
# The keyring

`keyring.cpp`: the form a key store has in a file, and what a store is after it has been saved and
loaded.

The store has no limit on its entries, the file has: `encode_keyring` takes `kMaximumKeyringRecords`
records and no key of more than a 32-bit length.  `decodeKeyring_encodeKeyring` is the round trip of
what it takes, `replace_snapshot` the one of a store through its snapshot, and `keyStore_lifecycle`
puts them together with what holds over every run.
-/

namespace Nstu.Server

open Wire Reader Control List Std
open KeyRecord (exported)

def kKeyringMagic : UInt32 := 0x31524b4e
def kKeyringVersion : UInt16 := 1
def kKeyringHeaderBytes : ℕ := 12
def kRevokedFlag : UInt32 := 1
def kMaximumKeyringRecords : ℕ := 100000

/-- `kClientIdBytes + sizeof(std::uint32_t) * 3`. -/
def fixedRecordBytes : ℕ := 16 + 4 * 3

/-- `std::numeric_limits<std::size_t>::max()`. -/
def maximumSize : ℕ := 2 ^ 64 - 1

/-! ## The codec -/

/-- What the encoder asks of the length of a key. -/
def validRecordKey (record : KeyRecord) : Bool :=
  if record.revoked then record.key.isEmpty
  else decide (kMinimumProtocolKeyBytes ≤ record.key.length)

/-- The first loop of `encode_keyring`: every record is checked and the sizes are added up. -/
def keyringBytes (totalBytes : ℕ) : List KeyRecord → Except String ℕ
  | [] => .ok totalBytes
  | record :: records =>
    if record.keyId = 0 ∨ record.key.length > 2 ^ 32 - 1 ∨ validRecordKey record = false then
      .error "invalid keyring record"
    else if record.key.length > maximumSize - fixedRecordBytes ∨
        fixedRecordBytes + record.key.length > maximumSize - totalBytes then
      .error "keyring size overflow"
    else keyringBytes (totalBytes + (fixedRecordBytes + record.key.length)) records

def keyRecordWire (record : KeyRecord) : Bytes :=
  [record.clientId.toList, le record.keyId, le (if record.revoked then kRevokedFlag else 0),
    le (UInt32.ofNat record.key.length), record.key].flatten

def encodeKeyring (records : List KeyRecord) : Except String Bytes :=
  if records.length > kMaximumKeyringRecords ∨ records.length > 2 ^ 32 - 1 then
    .error "keyring record limit exceeded"
  else
    match keyringBytes kKeyringHeaderBytes records with
    | .error message => .error message
    | .ok _ =>
      .ok ([le kKeyringMagic, le kKeyringVersion, le (UInt16.ofNat kKeyringHeaderBytes),
        le (UInt32.ofNat records.length)].flatten ++ records.flatMap keyRecordWire)

def readKeyringHeader : Reader UInt32 := do
  let magic : UInt32 ← readLe
  let version : UInt16 ← readLe
  let headerBytes : UInt16 ← readLe
  let recordCount : UInt32 ← readLe
  require (magic = kKeyringMagic)
  require (version = kKeyringVersion)
  require (headerBytes.toNat = kKeyringHeaderBytes)
  require (recordCount.toNat ≤ kMaximumKeyringRecords)
  pure recordCount

/-- The part of a record that has a fixed size is there. -/
def readFixedRecord : Reader Unit := do
  let left ← remaining
  require (fixedRecordBytes ≤ left)
  pure ()

/-- A record without its key, and the length its key has. -/
def readRecordHeader : Reader (KeyRecord × ℕ) := do
  let clientId ← readBlock 16
  let keyId : UInt32 ← readLe
  let flags : UInt32 ← readLe
  let keyBytes : UInt32 ← readLe
  require (flags &&& ~~~kRevokedFlag = 0)
  require (keyId ≠ 0)
  let left ← remaining
  require (keyBytes.toNat ≤ left)
  pure (⟨clientId, keyId, [], flags &&& kRevokedFlag != 0⟩, keyBytes.toNat)

def readRecordKey (record : KeyRecord) (keyBytes : ℕ) : Reader KeyRecord := do
  require (record.revoked = true → keyBytes = 0)
  require (record.revoked = false → kMinimumProtocolKeyBytes ≤ keyBytes)
  let key ← readBytes keyBytes
  pure { record with key := key }

def readKeyRecords : ℕ → Parser (List KeyRecord)
  | 0 => pure []
  | count + 1 => do
    Parser.orFail readFixedRecord "keyring record is truncated"
    let header ← Parser.orFail readRecordHeader "invalid keyring record"
    let record ← Parser.orFail (readRecordKey header.1 header.2) "invalid keyring key length"
    let records ← readKeyRecords count
    pure (record :: records)

def readKeyring : Parser (List KeyRecord) := do
  let recordCount ← Parser.orFail readKeyringHeader "invalid keyring header"
  readKeyRecords recordCount.toNat

def decodeKeyring (wire : Bytes) : Except String (List KeyRecord) :=
  if wire.length < kKeyringHeaderBytes then .error "keyring header is truncated"
  else match readKeyring.run wire with
    | .error message => .error message
    | .ok (records, rest) =>
      if !rest.isEmpty then .error "keyring has trailing data" else .ok records

/-! ## Round trip of the codec -/

/-- A record that the encoder takes. -/
structure KeyRecord.Encodable (record : KeyRecord) : Prop where
  keyId : record.keyId ≠ 0
  length : record.key.length ≤ 2 ^ 32 - 1
  key : validRecordKey record = true

lemma keyringBytes_eq_ok {records : List KeyRecord} (h : ∀ record ∈ records, record.Encodable) :
    ∀ {totalBytes : ℕ}, totalBytes + records.length * 2 ^ 33 ≤ maximumSize →
      ∃ total, keyringBytes totalBytes records = .ok total := by
  induction records with
  | nil =>
    intro totalBytes _
    exact ⟨totalBytes, rfl⟩
  | cons record records ih =>
    intro totalBytes hr
    have hre := h record mem_cons_self
    have hl := hre.length
    rw [length_cons] at hr
    simp only [maximumSize] at hr
    have hv : ¬ (record.keyId = 0 ∨ record.key.length > 2 ^ 32 - 1 ∨ validRecordKey record = false) := by
      rw [hre.key]
      simp only [Bool.true_eq_false, or_false, not_or, gt_iff_lt, Nat.not_lt]
      exact ⟨hre.keyId, hl⟩
    have hf : ¬ (record.key.length > maximumSize - fixedRecordBytes ∨
        fixedRecordBytes + record.key.length > maximumSize - totalBytes) := by
      simp only [maximumSize, fixedRecordBytes]
      omega
    rw [keyringBytes, if_neg hv, if_neg hf]
    refine ih (fun other ho => h other (mem_cons_of_mem _ ho)) ?_
    simp only [maximumSize, fixedRecordBytes]
    omega

variable {records : List KeyRecord}

lemma encodeKeyring_of_encodable
    (hc : records.length ≤ kMaximumKeyringRecords) (h : ∀ record ∈ records, record.Encodable) :
    encodeKeyring records = .ok ([le kKeyringMagic, le kKeyringVersion, le (UInt16.ofNat kKeyringHeaderBytes),
        le (UInt32.ofNat records.length)].flatten ++ records.flatMap keyRecordWire) := by
  have hl : ¬ (records.length > kMaximumKeyringRecords ∨ records.length > 2 ^ 32 - 1) := by
    simp only [kMaximumKeyringRecords] at hc ⊢
    omega
  obtain ⟨total, ht⟩ := @keyringBytes_eq_ok records h kKeyringHeaderBytes (by
    simp only [kMaximumKeyringRecords] at hc
    simp only [kKeyringHeaderBytes, maximumSize]
    omega)
  rw [encodeKeyring, if_neg hl, ht]

lemma revokedFlag_cases (revoked : Bool) : (if revoked then kRevokedFlag else 0) &&& ~~~kRevokedFlag = 0 ∧
      ((if revoked then kRevokedFlag else 0) &&& kRevokedFlag != 0) = revoked := by
  cases revoked <;> decide

variable {record : KeyRecord}

lemma run_readRecordHeader (h : record.Encodable) (rest : Bytes) : readRecordHeader.run (keyRecordWire record ++ rest) =
      some ((⟨record.clientId, record.keyId, [], record.revoked⟩, record.key.length), record.key ++ rest) := by
  have hl : (UInt32.ofNat record.key.length).toNat = record.key.length := by
    refine UInt32.toNat_ofNat_of_lt' ?_
    have := h.length
    rw [UInt32.size]
    omega
  obtain ⟨hf, hr⟩ := revokedFlag_cases record.revoked
  simp only [keyRecordWire, flatten_cons, flatten_nil, append_assoc, nil_append,
    readRecordHeader, run_bind_readBlock_iff, run_bind_readLe_iff, run_bind_require_iff,
    run_bind_remaining_iff, run_pure_iff]
  refine ⟨_, _, rfl, _, _, rfl, _, _, rfl, _, _, rfl, hf, h.keyId, ?_, ?_, rfl⟩
  · rw [hl, length_append]
    exact Nat.le_add_right _ _
  · rw [hl, hr]

lemma run_readRecordKey (h : record.Encodable) (rest : Bytes) :
    (readRecordKey ⟨record.clientId, record.keyId, [], record.revoked⟩ record.key.length).run
      (record.key ++ rest) = some (record, rest) := by
  have hk := h.key
  simp only [readRecordKey, run_bind_require_iff, run_bind_readBytes_iff, run_pure_iff]
  refine ⟨?_, ?_, record.key, rest, rfl, rfl, rfl, rfl⟩
  · intro hr
    simp only [validRecordKey, hr, if_true, List.isEmpty_iff] at hk
    rw [hk]
    rfl
  · intro ha
    simpa only [validRecordKey, ha, Bool.false_eq_true, if_false, decide_eq_true_eq] using hk

lemma length_keyRecordWire (record : KeyRecord) :
    (keyRecordWire record).length = fixedRecordBytes + record.key.length := by
  simp only [keyRecordWire, flatten_cons, flatten_nil, length_append, length_nil,
    Block.length_toList, le_length, size_uint32, fixedRecordBytes]
  omega

lemma run_readKeyRecords (rest : Bytes) : ∀ {records : List KeyRecord}, (∀ record ∈ records, record.Encodable) →
      (readKeyRecords records.length).run (records.flatMap keyRecordWire ++ rest) = .ok (records, rest)
  | [], _ => rfl
  | record :: records, h => by
    have hr := h record mem_cons_self
    have ih := @run_readKeyRecords rest records fun other ho =>
      h other (mem_cons_of_mem _ ho)
    have hf : readFixedRecord.run ((record :: records).flatMap keyRecordWire ++ rest) =
        some ((), (record :: records).flatMap keyRecordWire ++ rest) := by
      have hl := length_keyRecordWire record
      simp only [readFixedRecord, run_bind_remaining_iff, run_bind_require_iff, run_pure_iff, and_true]
      rw [flatMap_cons, length_append, length_append, hl]
      omega
    rw [length_cons, readKeyRecords, Parser.run_bind_iff]
    refine ⟨(), _, Parser.run_orFail_iff.mpr hf, ?_⟩
    rw [flatMap_cons, append_assoc, Parser.run_bind_iff]
    refine ⟨_, _, Parser.run_orFail_iff.mpr (run_readRecordHeader hr _), ?_⟩
    rw [Parser.run_bind_iff]
    refine ⟨record, _, Parser.run_orFail_iff.mpr (run_readRecordKey hr _), ?_⟩
    rw [Parser.run_bind_iff]
    exact ⟨records, rest, ih, rfl⟩

/-- **A keyring is read back from its wire form.** -/
theorem decodeKeyring_encodeKeyring
    (hc : records.length ≤ kMaximumKeyringRecords) (h : ∀ record ∈ records, record.Encodable) :
    ∃ wire, encodeKeyring records = .ok wire ∧ decodeKeyring wire = .ok records := by
  have hn : (UInt32.ofNat records.length).toNat = records.length := by
    refine UInt32.toNat_ofNat_of_lt' ?_
    simp only [kMaximumKeyringRecords] at hc
    rw [UInt32.size]
    omega
  refine ⟨_, encodeKeyring_of_encodable hc h, ?_⟩
  have hh : readKeyringHeader.run ([le kKeyringMagic, le kKeyringVersion,
      le (UInt16.ofNat kKeyringHeaderBytes), le (UInt32.ofNat records.length)].flatten ++
        records.flatMap keyRecordWire) =
      some (UInt32.ofNat records.length, records.flatMap keyRecordWire) := by
    simp only [readKeyringHeader, flatten_cons, flatten_nil, append_assoc,
      nil_append, run_bind_readLe_iff, run_bind_require_iff, run_pure_iff]
    exact ⟨_, _, rfl, _, _, rfl, _, _, rfl, _, _, rfl, rfl, rfl, rfl, Nat.le_trans (Nat.le_of_eq hn) hc,
      rfl, rfl⟩
  have hr : readKeyring.run ([le kKeyringMagic, le kKeyringVersion,
      le (UInt16.ofNat kKeyringHeaderBytes), le (UInt32.ofNat records.length)].flatten ++
        records.flatMap keyRecordWire) = .ok (records, []) := by
    rw [readKeyring, Parser.run_bind_iff]
    refine ⟨_, _, Parser.run_orFail_iff.mpr hh, ?_⟩
    have hre := run_readKeyRecords [] h
    rwa [append_nil, ← hn] at hre
  rw [decodeKeyring, if_neg, hr]
  · rfl
  · simp only [length_append, flatten_cons, flatten_nil, length_nil, le_length,
      size_uint32, size_uint16, kKeyringHeaderBytes]
    omega

/-! ## A store through its snapshot -/

lemma exported_of_acceptable (h : KeyStore.acceptable record) : record.exported = record := by
  simp only [KeyStore.acceptable, Bool.and_eq_true] at h
  cases hr : record.revoked with
  | false => simp only [exported, hr, Bool.false_eq_true, if_false]
  | true =>
    have hk := h.2
    simp only [hr, if_true, List.isEmpty_iff] at hk
    obtain ⟨clientId, keyId, key, revoked⟩ := record
    simp only at hk hr
    simp only [exported, hr, hk, if_true]

@[simp] lemma lookupKey_exported (record : KeyRecord) : record.exported.lookupKey = record.lookupKey := by
  simp only [exported]
  split <;> rfl

@[simp] lemma revoked_exported (record : KeyRecord) : record.exported.revoked = record.revoked := by
  simp only [exported]
  split <;> rfl

lemma replaceInto_ok {entries result : ExtTreeMap Bytes KeyRecord}
    (h : KeyStore.replaceInto entries records = .ok result) :
    (∀ record ∈ records, KeyStore.acceptable record) ∧ ∀ lookup record, result[lookup]? = some record ↔
        entries[lookup]? = some record ∨ (record ∈ records ∧ record.lookupKey = lookup) := by
  induction records generalizing entries with
  | nil =>
    cases h
    simp
  | cons first records ih =>
    simp only [KeyStore.replaceInto] at h
    split at h
    · cases h
    · rename_i hacce
      rw [Bool.not_eq_true', Bool.not_eq_false] at hacce
      split at h
      · cases h
      · rename_i hfree
        rw [Option.not_isSome_iff_eq_none] at hfree
        rw [exported_of_acceptable hacce] at h
        obtain ⟨hall, hlook⟩ := ih h
        refine ⟨?_, ?_⟩
        · intro record hreco
          rcases mem_cons.mp hreco with rfl | hreco
          · exact hacce
          · exact hall record hreco
        · intro lookup record
          rw [hlook, ExtTreeMap.getElem?_insert, mem_cons]
          by_cases hsame : first.lookupKey = lookup
          · subst hsame
            simp only [Std.compare_eq_iff_eq, if_true, hfree, Option.some.injEq, reduceCtorEq, false_or]
            constructor
            · rintro (rfl | ⟨hmem, hkey⟩)
              · exact ⟨.inl rfl, rfl⟩
              · exact ⟨.inr hmem, hkey⟩
            · rintro ⟨rfl | hmem, hkey⟩
              · exact .inl rfl
              · exact .inr ⟨hmem, hkey⟩
          · simp only [Std.compare_eq_iff_eq, hsame, if_false]
            constructor
            · rintro (hentry | ⟨hmem, hkey⟩)
              · exact .inl hentry
              · exact .inr ⟨.inr hmem, hkey⟩
            · rintro (hentry | ⟨rfl | hmem, hkey⟩)
              · exact .inl hentry
              · exact absurd hkey hsame
              · exact .inr ⟨hmem, hkey⟩

lemma replaceInto_of_nodup {records : List KeyRecord} {entries : ExtTreeMap Bytes KeyRecord}
    (ha : ∀ record ∈ records, KeyStore.acceptable record) (hn : (records.map KeyRecord.lookupKey).Nodup)
    (hf : ∀ record ∈ records, entries[record.lookupKey]? = none) :
    ∃ result, KeyStore.replaceInto entries records = .ok result := by
  induction records generalizing entries with
  | nil => exact ⟨entries, rfl⟩
  | cons first records ih =>
    rw [map_cons, nodup_cons] at hn
    have hfi := ha first mem_cons_self
    simp only [KeyStore.replaceInto, hfi, hf first mem_cons_self, Bool.not_true,
      Bool.false_eq_true, if_false, Option.isSome_none]
    refine ih (fun record hr => ha record (mem_cons_of_mem _ hr)) hn.2 ?_
    intro record hr
    have ho : first.lookupKey ≠ record.lookupKey := by
      intro hs
      exact hn.1 (mem_map.mpr ⟨record, hr, hs.symm⟩)
    rw [ExtTreeMap.getElem?_insert, if_neg (by simpa using ho)]
    exact hf record (mem_cons_of_mem _ hr)

variable {after : KeyStore}

lemma replace_ok (h : KeyStore.replace records = .ok after) :
    (∀ record ∈ records, KeyStore.acceptable record) ∧ ∀ lookup record, after.entries[lookup]? = some record ↔
        record ∈ records ∧ record.lookupKey = lookup := by
  rw [KeyStore.replace] at h
  cases hi : KeyStore.replaceInto ∅ records with
  | error message =>
    rw [hi] at h
    cases h
  | ok result =>
    rw [hi] at h
    cases h
    obtain ⟨ha, hl⟩ := replaceInto_ok hi
    refine ⟨ha, ?_⟩
    intro lookup record
    rw [hl]
    simp

lemma sound_replace (h : KeyStore.replace records = .ok after) : after.Sound := by
  obtain ⟨ha, hl⟩ := replace_ok h
  constructor
  · intro lookup record hf
    exact ((hl lookup record).mp hf).2.symm
  · intro lookup record hf
    have hac := ha record ((hl lookup record).mp hf).1
    simp only [KeyStore.acceptable, Bool.and_eq_true, bne_iff_ne] at hac
    exact hac.1
  · intro lookup record hf hact
    have hac := ha record ((hl lookup record).mp hf).1
    simp only [KeyStore.acceptable, hact, Bool.and_eq_true, Bool.false_eq_true, if_false]
      at hac
    exact hac.2

namespace KeyStore

variable {store : KeyStore}

lemma mem_snapshot {record : KeyRecord} : record ∈ store.snapshot ↔ ∃ (lookup : Bytes) (entry : KeyRecord),
      store.entries[lookup]? = some entry ∧ entry.exported = record := by
  rw [snapshot, mem_mergeSort, mem_map]
  constructor
  · rintro ⟨⟨lookup, entry⟩, he, rfl⟩
    exact ⟨lookup, entry, ExtTreeMap.mem_toList_iff_getElem?_eq_some.mp he, rfl⟩
  · rintro ⟨lookup, entry, he, rfl⟩
    exact ⟨(lookup, entry), ExtTreeMap.mem_toList_iff_getElem?_eq_some.mpr he, rfl⟩

lemma length_snapshot : store.snapshot.length = store.entries.size := by
  rw [snapshot, length_mergeSort, length_map, ExtTreeMap.length_toList]

variable {lookup : Bytes} {entry : KeyRecord}

lemma Sound.acceptable_exported (h : store.Sound)
    (he : store.entries[lookup]? = some entry) : acceptable entry.exported := by
  have hi := h.keyId he
  cases hr : entry.revoked with
  | true =>
    simp only [acceptable, exported, hr, if_true, isEmpty_nil, Bool.and_true, bne_iff_ne]
    exact hi
  | false =>
    simp only [acceptable, exported, hr, Bool.false_eq_true, if_false,
      h.valid he hr, Bool.and_true, bne_iff_ne]
    exact hi

lemma Sound.nodup_snapshot (h : store.Sound) : (store.snapshot.map KeyRecord.lookupKey).Nodup := by
  have hp : (store.snapshot.map KeyRecord.lookupKey).Perm
      ((store.entries.toList.map fun entry => entry.2.exported).map KeyRecord.lookupKey) :=
    (mergeSort_perm _ _).map _
  have hk : (store.entries.toList.map fun entry => entry.2.exported).map KeyRecord.lookupKey =
      store.entries.keys := by
    rw [map_map, ← ExtTreeMap.map_fst_toList_eq_keys]
    refine map_congr_left ?_
    intro entry he
    have hl := h.lookupKey (ExtTreeMap.mem_toList_iff_getElem?_eq_some.mp he)
    rw [Function.comp_apply, lookupKey_exported]
    exact hl.symm
  rw [hp.nodup_iff, hk]
  exact ExtTreeMap.nodup_keys

/-- **A store is given back by its snapshot**, but for what is left of revoked keys. -/
lemma replace_snapshot (h : store.Sound) : ∃ after, replace store.snapshot = .ok after ∧
      ∀ clientId keyId, after.find clientId keyId = (store.find clientId keyId).map exported := by
  obtain ⟨result, hr⟩ := @replaceInto_of_nodup store.snapshot ∅ (by
    intro record hre
    obtain ⟨lookup, entry, he, rfl⟩ := mem_snapshot.mp hre
    exact h.acceptable_exported he) h.nodup_snapshot (by simp)
  have hrep : replace store.snapshot = .ok ⟨result⟩ := by
    rw [replace, hr]
    rfl
  refine ⟨⟨result⟩, hrep, ?_⟩
  intro clientId keyId
  refine Option.ext ?_
  intro record
  rw [show (find ⟨result⟩ clientId keyId = some record) = _ from
    propext ((replace_ok hrep).2 _ record), mem_snapshot, Option.map_eq_some_iff]
  constructor
  · rintro ⟨⟨lookup, entry, he, rfl⟩, hk⟩
    refine ⟨entry, ?_, rfl⟩
    rw [lookupKey_exported, ← h.lookupKey he] at hk
    rw [find, ← hk]
    exact he
  · rintro ⟨entry, he, rfl⟩
    refine ⟨⟨_, entry, he, rfl⟩, ?_⟩
    rw [lookupKey_exported]
    exact (h.lookupKey he).symm

lemma Sound.encodable_exported (h : store.Sound) (he : store.entries[lookup]? = some entry)
    (hl : entry.revoked = false → entry.key.length ≤ 2 ^ 32 - 1) : entry.exported.Encodable := by
  have hi : entry.keyId ≠ 0 := h.keyId he
  cases hr : entry.revoked with
  | true =>
    simp only [exported, hr, if_true]
    refine ⟨hi, Nat.zero_le _, ?_⟩
    simp only [validRecordKey, if_true, isEmpty_nil]
  | false =>
    simp only [exported, hr, Bool.false_eq_true, if_false]
    refine ⟨hi, hl hr, ?_⟩
    have hv := h.valid he hr
    simp only [validKey, Bool.and_eq_true] at hv
    simp only [validRecordKey, hr, Bool.false_eq_true, if_false]
    exact hv.1

variable {after : KeyStore} {clientId : ClientId} {keyId : UInt32}

lemma resolve_of_exported (ha : after.Sound) (h : store.Sound)
    (hf : after.find clientId keyId = (store.find clientId keyId).map exported) :
    after.resolve clientId keyId = store.resolve clientId keyId := by
  refine resolve_congr ha h fun record hac => ?_
  rw [hf, Option.map_eq_some_iff]
  constructor
  · rintro ⟨entry, he, rfl⟩
    rw [revoked_exported] at hac
    rw [he, exported, hac]
    rfl
  · intro he
    refine ⟨record, he, ?_⟩
    rw [exported, hac]
    rfl

/-- **Saved and loaded, a store answers as before**, if the keyring has room for it. -/
lemma reload (h : store.Sound) (hcount : store.entries.size ≤ kMaximumKeyringRecords)
    (hleng : ∀ clientId keyId key, store.resolve clientId keyId = some key → key.length ≤ 2 ^ 32 - 1) :
    ∃ wire records after, encodeKeyring store.snapshot = .ok wire ∧ decodeKeyring wire = .ok records ∧
      replace records = .ok after ∧ ∀ clientId keyId, after.resolve clientId keyId = store.resolve clientId keyId ∧
          (after.find clientId keyId).map KeyRecord.revoked = (store.find clientId keyId).map KeyRecord.revoked := by
  have henco : ∀ record ∈ store.snapshot, record.Encodable := by
    intro record hreco
    obtain ⟨lookup, entry, hentry, rfl⟩ := mem_snapshot.mp hreco
    refine h.encodable_exported hentry ?_
    intro hacti
    have hfind : store.find entry.clientId entry.keyId = some entry := by
      rw [h.lookupKey hentry] at hentry
      exact hentry
    exact hleng _ _ _ ((resolve_eq_some_iff h).mpr ⟨entry, hfind, hacti, rfl⟩)
  obtain ⟨wire, hwire, hdeco⟩ :=
    decodeKeyring_encodeKeyring (Nat.le_trans (Nat.le_of_eq length_snapshot) hcount) henco
  obtain ⟨after, hrepl, hfind⟩ := replace_snapshot h
  refine ⟨wire, store.snapshot, after, hwire, hdeco, hrepl, ?_⟩
  intro clientId keyId
  refine ⟨resolve_of_exported (sound_replace hrepl) h (hfind clientId keyId), ?_⟩
  rw [hfind, Option.map_map]
  exact Option.map_congr fun entry _ => revoked_exported entry

lemma resolve_rotate (h : store.Sound) {key : Bytes} (hr : store.rotate clientId key = .ok (after, keyId))
    (ha : after.Sound) (other : ClientId) (otherId : UInt32) : after.resolve other otherId =
      if clientId = other then (if keyId = otherId then some key else none) else store.resolve other otherId := by
  have hf := @find_rotate store after clientId other keyId otherId key h hr
  by_cases hc : clientId = other
  · rw [if_pos hc] at hf
    rw [if_pos hc]
    by_cases hi : keyId = otherId
    · rw [if_pos hi] at hf
      rw [if_pos hi]
      exact (resolve_eq_some_iff ha).mpr ⟨_, hf, rfl, rfl⟩
    · rw [if_neg hi] at hf
      rw [if_neg hi, ← Option.not_isSome_iff_eq_none, Option.isSome_iff_exists]
      rintro ⟨found, hfo⟩
      obtain ⟨record, hre, hac, -⟩ := (resolve_eq_some_iff ha).mp hfo
      rw [hf, Option.map_eq_some_iff] at hre
      obtain ⟨entry, -, rfl⟩ := hre
      rw [revoked_revokeActive] at hac
      cases hac
  · rw [if_neg hc] at hf
    rw [if_neg hc]
    exact resolve_congr ha h fun record _ => by rw [hf]

end KeyStore

/-! ## The life of a store -/

/-- **The life of a key store.**  In every run from a store that `replace` has filled, an empty one
included: a revoked pair never resolves again; no key id is given out twice; after a rotation the
client has the new key and no other, and the other clients have what they had; and a store of at most
as many entries as a keyring holds, with no key too long for it, answers as before when it is saved and
loaded. -/
theorem keyStore_lifecycle {loaded : List KeyRecord} {start : KeyStore}
    (hstart : KeyStore.replace loaded = .ok start) (ops : List KeyOp) :
    (∀ before after clientId keyId record, ops = before ++ after →
      (start.run before).find clientId keyId = some record → record.revoked = true →
      (start.run ops).resolve clientId keyId = none) ∧
    (∀ before first middle second after clientId keyId, ops = before ++ first :: (middle ++ second :: after) →
      Assigns (start.run before) clientId keyId first →
      ¬ Assigns (start.run (before ++ first :: middle)) clientId keyId second) ∧
    (∀ clientId key after keyId, (start.run ops).rotate clientId key = .ok (after, keyId) →
      ∀ other otherId, after.resolve other otherId =
        if clientId = other then (if keyId = otherId then some key else none)
        else (start.run ops).resolve other otherId) ∧ ((start.run ops).entries.size ≤ kMaximumKeyringRecords →
      (∀ clientId keyId key, (start.run ops).resolve clientId keyId = some key → key.length ≤ 2 ^ 32 - 1) →
      ∃ wire records after, encodeKeyring (start.run ops).snapshot = .ok wire ∧
        decodeKeyring wire = .ok records ∧ KeyStore.replace records = .ok after ∧
        ∀ clientId keyId, after.resolve clientId keyId = (start.run ops).resolve clientId keyId ∧
          (after.find clientId keyId).map KeyRecord.revoked =
            ((start.run ops).find clientId keyId).map KeyRecord.revoked) := by
  have hsound := sound_replace hstart
  refine ⟨?_, ?_, ?_, ?_⟩
  · intro before after clientId keyId record hops hfind hrevoked
    have hbefore := hsound.run before
    rw [hops, KeyStore.run_append]
    exact KeyStore.resolve_of_revoked hfind hrevoked (KeyStore.kept_run hbefore after) (hbefore.run after)
  · intro before first middle second after clientId keyId _ hassigns
    have hbefore := hsound.run before
    obtain ⟨record, hfind⟩ := (KeyStore.find_of_assigns hbefore hassigns).2
    rw [KeyStore.run_append, KeyStore.run_cons]
    exact KeyStore.not_assigns_of_find hfind (KeyStore.kept_run (hbefore.step first) middle)
      ((hbefore.step first).run middle) second
  · intro clientId key after keyId hrotate
    have hops := hsound.run ops
    have hafter : after.Sound := by
      have hstep := hops.step (.rotate clientId key)
      simpa only [KeyStore.step, hrotate, Except.toOption, Option.map_some, Option.getD_some]
        using hstep
    exact KeyStore.resolve_rotate hops hrotate hafter
  · exact KeyStore.reload (hsound.run ops)

/-- A key of the shortest length that is accepted. -/
def sampleKey : Bytes := List.replicate 32 1

/-- A revoked key stays unresolved after a rotation. -/
theorem keyStore_lifecycle_revoked : ((⟨∅⟩ : KeyStore).run
      [.enroll (Block.fill 16 1) 1 sampleKey, .revoke (Block.fill 16 1) 1,
        .rotate (Block.fill 16 1) sampleKey]).resolve (Block.fill 16 1) 1 = none :=
  (@keyStore_lifecycle [] ⟨∅⟩ rfl [.enroll (Block.fill 16 1) 1 sampleKey, .revoke (Block.fill 16 1) 1,
      .rotate (Block.fill 16 1) sampleKey]).1
    [.enroll (Block.fill 16 1) 1 sampleKey, .revoke (Block.fill 16 1) 1]
    [.rotate (Block.fill 16 1) sampleKey] (Block.fill 16 1) 1
    ⟨Block.fill 16 1, 1, List.replicate 32 0, true⟩ rfl (by decide) rfl

/-- Ever more keys of one client. -/
def crowdingOps (count : ℕ) : List KeyOp :=
  (List.range count).map fun index => .enroll (Block.fill 16 1) (UInt32.ofNat (index + 1)) sampleKey

lemma size_crowdingOps {count : ℕ} (h : count < 2 ^ 32) :
    ((⟨∅⟩ : KeyStore).run (crowdingOps count)).entries.size = count ∧ ∀ keyId : UInt32, count < keyId.toNat →
        ((⟨∅⟩ : KeyStore).run (crowdingOps count)).find (Block.fill 16 1) keyId = none := by
  induction count with
  | zero =>
    refine ⟨rfl, ?_⟩
    intro keyId _
    rw [KeyStore.find]
    exact ExtTreeMap.getElem?_empty
  | succ count ih =>
    obtain ⟨hs, hf⟩ := ih (by omega)
    have hn : (UInt32.ofNat (count + 1)).toNat = count + 1 :=
      UInt32.toNat_ofNat_of_lt' (by rw [UInt32.size]; omega)
    have hne := hf (UInt32.ofNat (count + 1)) (by omega)
    have hz : UInt32.ofNat (count + 1) ≠ 0 := by
      intro hz
      rw [hz] at hn
      cases hn
    have he : ((⟨∅⟩ : KeyStore).run (crowdingOps count)).enroll (Block.fill 16 1)
        (UInt32.ofNat (count + 1)) sampleKey =
        .ok ⟨((⟨∅⟩ : KeyStore).run (crowdingOps count)).entries.insert
          (makeLookupKey (Block.fill 16 1) (UInt32.ofNat (count + 1)))
          ⟨Block.fill 16 1, UInt32.ofNat (count + 1), sampleKey, false⟩⟩ := by
      rw [KeyStore.enroll, if_neg, hne]
      · rfl
      · rw [not_or]
        exact ⟨hz, by decide⟩
    have hr : (⟨∅⟩ : KeyStore).run (crowdingOps (count + 1)) =
        ⟨((⟨∅⟩ : KeyStore).run (crowdingOps count)).entries.insert
          (makeLookupKey (Block.fill 16 1) (UInt32.ofNat (count + 1)))
          ⟨Block.fill 16 1, UInt32.ofNat (count + 1), sampleKey, false⟩⟩ := by
      rw [crowdingOps, range_succ, map_append, KeyStore.run_append, ← crowdingOps]
      simp only [map_singleton, KeyStore.run_cons, KeyStore.run_nil, KeyStore.step, he,
        Except.toOption, Option.getD_some]
    rw [hr]
    constructor
    · rw [ExtTreeMap.size_insert, if_neg, hs]
      rw [KeyStore.find] at hne
      rw [ExtTreeMap.contains_eq_isSome_getElem?, hne]
      exact Bool.false_ne_true
    · intro keyId hk
      rw [KeyStore.find_insert, if_neg]
      · exact hf keyId (by omega)
      · rintro ⟨-, rfl⟩
        omega

/-- A store of one entry more than a keyring holds cannot be saved. -/
theorem keyring_not_always_saved : ¬ ∀ ops : List KeyOp, ∃ wire records after,
      encodeKeyring ((⟨∅⟩ : KeyStore).run ops).snapshot = .ok wire ∧ decodeKeyring wire = .ok records ∧
        KeyStore.replace records = .ok after ∧ ∀ clientId keyId,
          after.resolve clientId keyId = ((⟨∅⟩ : KeyStore).run ops).resolve clientId keyId := by
  intro h
  obtain ⟨wire, -, -, hwire, -⟩ := h (crowdingOps 100001)
  have hlength := KeyStore.length_snapshot.trans (@size_crowdingOps 100001 (by decide)).1
  rw [encodeKeyring, if_pos] at hwire
  · cases hwire
  · left
    rw [hlength]
    decide

end Nstu.Server
