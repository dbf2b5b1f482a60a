import Nstu.Web.Sha256
import Nstu.Core.Utf8

/-!
# The archives of the exam studio

`NstuZipWriter` and `NstuZipReader` of `exam/studio/zip.js`.  The writer stores files without compression; the reader
takes what the end record and the central directory say and does not look at checksums.

What the browser does is a parameter: `TextDecoder`, and the inflation of a compressed file.
-/

namespace Nstu.Web.Zip

open Wire Text Script List

/-! ## Writing -/

/-- `setUint16(…, true)` and `setUint32(…, true)`. -/
def uint (width : ℕ) (value : ℤ) : Bytes := leBytes width (toWord value).toNat

/-- The fields of a record: how many bytes each has, and its value. -/
def encode (fields : List (ℕ × ℤ)) : Bytes := fields.flatMap fun field => uint field.1 field.2

def CRC_TABLE : List Sha256.Word :=
  (List.range 256).map fun i : ℕ => toWord ((List.range 8).foldl
    (fun c _ => if band c 1 ≠ 0 then bxor 0xedb88320 (ushr c 1) else ushr c 1) (i : ℤ))

def crc32 (bytes : Bytes) : ℤ :=
  ushr (bxor (bytes.foldl (fun crc byte =>
    bxor (num (CRC_TABLE.getD (band (bxor crc byte.toNat) 0xff).toNat 0)) (ushr crc 8)) 0xffffffff) 0xffffffff) 0

/-- What the getters of a `Date` give. -/
structure LocalDate where
  hours : ℤ
  minutes : ℤ
  seconds : ℤ
  fullYear : ℤ
  month : ℤ
  date : ℤ

def dosTime (d : LocalDate) : ℤ :=
  band (bor (bor (shl d.hours 11) (shl d.minutes 5)) ((toWord d.seconds).sshiftRight 1).toInt) 0xffff

def dosDate (d : LocalDate) : ℤ :=
  band (bor (bor (shl (d.fullYear - 1980) 9) (shl (d.month + 1) 5)) d.date) 0xffff

inductive Data where
  | text (text : Utf16)
  | bytes (bytes : Bytes)

def Data.toBytes : Data → Bytes
  | .text units => utf8 units
  | .bytes content => content

structure Entry where
  path : Utf16
  bytes : Bytes
  crc : ℤ
  date : LocalDate

/-- `path.replace(/\\/g, "/").replace(/^\/+/, "")`. -/
def normalizedPath (path : Utf16) : Utf16 :=
  (path.map fun unit => if unit = 0x5c then 0x2f else unit).dropWhile (· == 0x2f)

/-- A call of `add`, with the time of it. -/
structure Added where
  path : Utf16
  data : Data
  now : LocalDate

def Added.entry (added : Added) : Entry :=
  ⟨normalizedPath added.path, added.data.toBytes, crc32 added.data.toBytes, added.now⟩

def add (entries : List Entry) (added : Added) : List Entry := entries ++ [added.entry]

def localFields (entry : Entry) : List (ℕ × ℤ) :=
  [(4, 0x04034b50), (2, 20), (2, 0x0800), (2, 0), (2, dosTime entry.date), (2, dosDate entry.date), (4, entry.crc),
    (4, entry.bytes.length), (4, entry.bytes.length), (2, (utf8 entry.path).length), (2, 0)]

/-- The local header and the data. -/
def localRecord (entry : Entry) : Bytes := encode (localFields entry) ++ (utf8 entry.path ++ entry.bytes)

def centralFields (entry : Entry) (offset : ℕ) : List (ℕ × ℤ) :=
  [(4, 0x02014b50), (2, 20), (2, 20), (2, 0x0800), (2, 0), (2, dosTime entry.date), (2, dosDate entry.date),
    (4, entry.crc), (4, entry.bytes.length), (4, entry.bytes.length), (2, (utf8 entry.path).length), (2, 0), (2, 0),
    (2, 0), (2, 0), (4, 0), (4, offset)]

/-- The central headers of entries whose local records begin here. -/
def centralHeaders : ℕ → List Entry → Bytes
  | _, [] => []
  | offset, entry :: rest =>
    encode (centralFields entry offset) ++ (utf8 entry.path ++ centralHeaders (offset + (localRecord entry).length) rest)

def endFields (count size offset : ℕ) : List (ℕ × ℤ) :=
  [(4, 0x06054b50), (2, 0), (2, 0), (2, count), (2, count), (4, size), (4, offset), (2, 0)]

/-- The bytes of the blob that `build()` makes. -/
def build (entries : List Entry) : Bytes :=
  let locals := entries.flatMap localRecord
  let central := centralHeaders 0 entries
  locals ++ (central ++ encode (endFields entries.length central.length locals.length))

/-! ## Reading -/

inductive ZipError where
  /-- A `RangeError` of a view of the buffer. -/
  | range
  /-- The browser could not inflate the data. -/
  | stream
  | message (text : Utf16)

/-- `new TextDecoder().decode(bytes)`: what an encoder has written is read back, but for a mark at its start. -/
structure TextDecoder where
  decode : Bytes → Utf16
  decode_utf8 : ∀ text, wellFormed text = true → text.head? ≠ some 0xFEFF → decode (utf8 text) = text

structure ReadEntry where
  path : Utf16
  bytes : Bytes
  size : ℕ

/-- `getUint16` and `getUint32`. -/
def getUint (buffer : Bytes) (width offset : ℕ) : Except ZipError ℕ :=
  if offset + width ≤ buffer.length then .ok (leValue ((buffer.drop offset).take width)) else .error .range

/-- `new Uint8Array(buffer, offset, length)`. -/
def slice (buffer : Bytes) (offset length : ℕ) : Except ZipError Bytes :=
  if offset + length ≤ buffer.length then .ok ((buffer.drop offset).take length) else .error .range

/-- `_findEOCD()`.  The places before the last 22 bytes are looked at from the last one down. -/
def findEOCD (buffer : Bytes) : Option ℕ :=
  if buffer.length < 22 then none
  else ((List.range (min buffer.length 65557 - 21)).map (buffer.length - 22 - ·)).find? fun i =>
    match getUint buffer 4 i with
    | .ok value => value == 0x06054b50
    | .error _ => false

section Reader

variable (decoder : TextDecoder) (inflate : Option (Bytes → Option Bytes))

/-- The data of an entry.  `inflate` is there when the browser has a `DecompressionStream`. -/
def inflated (method : ℕ) (rawData : Bytes) (filename : Utf16) : Except ZipError Bytes :=
  if method = 0 then .ok rawData
  else if method = 8 then
    match inflate with
    | none => .error (.message (ascii "DecompressionStream is not supported in this browser."))
    | some inflate =>
      match inflate rawData with
      | none => .error .stream
      | some data => .ok data
  else .error (.message (ascii "Unsupported compression method " ++ (decimal method).map UInt16.ofNat ++
    ascii " for " ++ filename))

/-- One pass of the loop of `readEntries()`: where the next header begins, and the entry unless it is a directory. -/
def readEntry (buffer : Bytes) (offset : ℕ) : Except ZipError (ℕ × Option ReadEntry) := do
  let signature ← getUint buffer 4 offset
  if signature ≠ 0x02014b50 then
    throw (.message (ascii "Invalid Central Directory header at offset " ++ (decimal offset).map UInt16.ofNat))
  let method ← getUint buffer 2 (offset + 10)
  let compressedSize ← getUint buffer 4 (offset + 20)
  let uncompressedSize ← getUint buffer 4 (offset + 24)
  let nameLength ← getUint buffer 2 (offset + 28)
  let extraLength ← getUint buffer 2 (offset + 30)
  let commentLength ← getUint buffer 2 (offset + 32)
  let localOffset ← getUint buffer 4 (offset + 42)
  let nameBytes ← slice buffer (offset + 46) nameLength
  let filename := decoder.decode nameBytes
  let next := offset + (46 + nameLength + extraLength + commentLength)
  if filename.getLast? = some 0x2f then return (next, none)
  let localSignature ← getUint buffer 4 localOffset
  if localSignature ≠ 0x04034b50 then
    throw (.message (ascii "Invalid Local File header for: " ++ filename))
  let localNameLength ← getUint buffer 2 (localOffset + 26)
  let localExtraLength ← getUint buffer 2 (localOffset + 28)
  let rawData ← slice buffer (localOffset + 30 + localNameLength + localExtraLength) compressedSize
  let data ← inflated inflate method rawData filename
  return (next, some ⟨filename, data, uncompressedSize⟩)

def readCentral (buffer : Bytes) : ℕ → ℕ → Except ZipError (List ReadEntry)
  | 0, _ => pure []
  | count + 1, offset => do
    let (next, entry) ← readEntry decoder inflate buffer offset
    let rest ← readCentral buffer count next
    return entry.toList ++ rest

def readEntries (buffer : Bytes) : Except ZipError (List ReadEntry) :=
  match findEOCD buffer with
  | none => .error (.message (ascii "Invalid .nstuexam package: End of Central Directory record not found."))
  | some eocd => do
    let totalEntries ← getUint buffer 2 (eocd + 10)
    let centralDirOffset ← getUint buffer 4 (eocd + 16)
    readCentral decoder inflate buffer totalEntries centralDirOffset

end Reader

/-! ## Fields -/

@[simp] lemma length_uint (width : ℕ) (value : ℤ) : (uint width value).length = width := leBytes_length ..

/-- The place of a field, and the length of a record. -/
@[simp] lemma length_encode (fields : List (ℕ × ℤ)) : (encode fields).length = (fields.map Prod.fst).sum := by
  simp [encode, length_flatMap]

lemma length_localFields (entry : Entry) : (encode (localFields entry)).length = 30 := by
  simp [localFields]

lemma length_centralFields (entry : Entry) (offset : ℕ) : (encode (centralFields entry offset)).length = 46 := by
  simp [centralFields]

/-- A number is read where it was written. -/
lemma getUint_append (before after : Bytes) {width value : ℕ} (hw : width ≤ 4) (hv : value < 256 ^ width) :
    getUint (before ++ (uint width value ++ after)) width before.length = .ok value := by
  have hwo : value < 2 ^ 32 := hv.trans_le (by
    rw [show (2 : ℕ) ^ 32 = 256 ^ 4 by norm_num]
    exact Nat.pow_le_pow_right (by omega) hw)
  have ht : (uint width value ++ after).take width = uint width value := by
    rw [take_append_of_le_length (by simp), take_of_length_le (by simp)]
  rw [getUint, if_pos (by simp), drop_left, ht, uint, toNat_toWord hwo, leValue_leBytes _ _ hv]

/-- **A field of a record** is read at its place. -/
lemma getUint_field {buffer before after : Bytes} {fields : List (ℕ × ℤ)}
    (hbuff : buffer = before ++ (encode fields ++ after)) (i place : ℕ) {width value : ℕ}
    (hfield : fields[i]? = some (width, (value : ℤ))) (hplace : ((fields.take i).map Prod.fst).sum = place)
    (hwidth : width ≤ 4) (hvalue : value < 256 ^ width) : getUint buffer width (before.length + place) = .ok value := by
  obtain ⟨hi, hget⟩ := List.getElem?_eq_some_iff.mp hfield
  have hsplit : encode fields = encode (fields.take i) ++ (uint width value ++ encode (fields.drop (i + 1))) := by
    have hfiel : fields.take i ++ (width, (value : ℤ)) :: fields.drop (i + 1) = fields := by
      rw [← hget, ← drop_eq_getElem_cons hi, take_append_drop]
    conv_lhs => rw [← hfiel]
    simp [encode]
  have hfront : (before ++ encode (fields.take i)).length = before.length + place := by
    rw [length_append, length_encode, hplace]
  have hread := getUint_append (before ++ encode (fields.take i)) (encode (fields.drop (i + 1)) ++ after) hwidth hvalue
  rwa [hfront, append_assoc, ← append_assoc (uint _ _), ← append_assoc (encode _), ← hsplit,
    ← hbuff] at hread

lemma slice_append (before inside after : Bytes) :
    slice (before ++ (inside ++ after)) before.length inside.length = .ok inside := by
  rw [slice, if_pos (by simp), drop_left, take_left]

/-! ## Round trip -/

/-- What the fields of an entry hold. -/
structure Entry.Fits (entry : Entry) : Prop where
  wellFormed : wellFormed entry.path = true
  notMark : entry.path.head? ≠ some 0xFEFF
  notDirectory : entry.path.getLast? ≠ some 0x2f
  path : (utf8 entry.path).length < 65536
  bytes : entry.bytes.length < 2 ^ 32

def Entry.read (entry : Entry) : ReadEntry := ⟨entry.path, entry.bytes, entry.bytes.length⟩

variable {decoder : TextDecoder} {inflate : Option (Bytes → Option Bytes)}

/-- **One entry is read back**, wherever its two records stand. -/
lemma readEntry_eq {entry : Entry} (h : entry.Fits) {buffer before after front behind : Bytes}
    (hcent : buffer = before ++ (encode (centralFields entry front.length) ++ (utf8 entry.path ++ after)))
    (hlocal : buffer = front ++ (localRecord entry ++ behind)) (hfront : front.length < 2 ^ 32) :
    readEntry decoder inflate buffer before.length =
      .ok (before.length + (46 + (utf8 entry.path).length), some entry.read) := by
  have hpath : (utf8 entry.path).length < 256 ^ 2 := h.path
  have hbytes : entry.bytes.length < 256 ^ 4 := h.bytes
  have hhead : buffer = front ++ (encode (localFields entry) ++ (utf8 entry.path ++ entry.bytes ++ behind)) := by
    rw [hlocal, localRecord]
    simp only [append_assoc]
  have hname : slice buffer (before.length + 46) (utf8 entry.path).length = .ok (utf8 entry.path) := by
    have hread := slice_append (before ++ encode (centralFields entry front.length)) (utf8 entry.path) after
    rwa [append_assoc, ← hcent, length_append, length_centralFields] at hread
  have hdata : slice buffer (front.length + 30 + (utf8 entry.path).length) entry.bytes.length = .ok entry.bytes := by
    have hread := slice_append (front ++ (encode (localFields entry) ++ utf8 entry.path)) entry.bytes behind
    rwa [append_assoc, append_assoc, ← append_assoc (utf8 entry.path), ← hhead, length_append,
      length_append, length_localFields, ← add_assoc] at hread
  have hsign : getUint buffer 4 (before.length + 0) = .ok 0x02014b50 :=
    getUint_field hcent 0 0 rfl (by simp [centralFields]) le_rfl (by norm_num)
  have hmeth : getUint buffer 2 (before.length + 10) = .ok 0 :=
    getUint_field hcent 4 10 rfl (by simp [centralFields]) (by norm_num) (by norm_num)
  have hcomp : getUint buffer 4 (before.length + 20) = .ok entry.bytes.length :=
    getUint_field hcent 8 20 rfl (by simp [centralFields]) le_rfl hbytes
  have hsize : getUint buffer 4 (before.length + 24) = .ok entry.bytes.length :=
    getUint_field hcent 9 24 rfl (by simp [centralFields]) le_rfl hbytes
  have hleng : getUint buffer 2 (before.length + 28) = .ok (utf8 entry.path).length :=
    getUint_field hcent 10 28 rfl (by simp [centralFields]) (by norm_num) hpath
  have hextra : getUint buffer 2 (before.length + 30) = .ok 0 :=
    getUint_field hcent 11 30 rfl (by simp [centralFields]) (by norm_num) (by norm_num)
  have hcomm : getUint buffer 2 (before.length + 32) = .ok 0 :=
    getUint_field hcent 12 32 rfl (by simp [centralFields]) (by norm_num) (by norm_num)
  have hoffs : getUint buffer 4 (before.length + 42) = .ok front.length :=
    getUint_field hcent 16 42 rfl (by simp [centralFields]) le_rfl hfront
  have hstart : getUint buffer 4 (front.length + 0) = .ok 0x04034b50 :=
    getUint_field hhead 0 0 rfl (by simp [localFields]) le_rfl (by norm_num)
  have hloca : getUint buffer 2 (front.length + 26) = .ok (utf8 entry.path).length :=
    getUint_field hhead 9 26 rfl (by simp [localFields]) (by norm_num) hpath
  have hlocalE : getUint buffer 2 (front.length + 28) = .ok 0 :=
    getUint_field hhead 10 28 rfl (by simp [localFields]) (by norm_num) (by norm_num)
  rw [add_zero] at hsign hstart
  simp only [readEntry, bind, Except.bind, pure, Except.pure, hsign, hmeth, hcomp, hsize, hleng, hextra,
    hcomm, hoffs, hname, decoder.decode_utf8 _ h.wellFormed h.notMark, if_neg h.notDirectory, hstart, hloca,
    hlocalE, hdata, inflated, ne_eq, not_true_eq_false, ↓reduceIte, add_zero, Entry.read]

/-- By induction on the entries: every directory entry that is read moves both places behind its records. -/
lemma readCentral_eq (entries : List Entry) (h : ∀ entry ∈ entries, entry.Fits) {buffer before after front behind : Bytes}
    (hc : buffer = before ++ (centralHeaders front.length entries ++ after))
    (hl : buffer = front ++ (entries.flatMap localRecord ++ behind)) (hs : buffer.length < 2 ^ 32) :
    readCentral decoder inflate buffer entries.length before.length = .ok (entries.map Entry.read) := by
  induction entries generalizing before front with
  | nil => rfl
  | cons entry rest ih =>
    have hf : front.length < 2 ^ 32 := lt_of_le_of_lt (by rw [hl, length_append]; omega) hs
    have he := @readEntry_eq decoder inflate entry (h entry mem_cons_self) buffer before
      (centralHeaders (front.length + (localRecord entry).length) rest ++ after) front
      (rest.flatMap localRecord ++ behind) (by rw [hc, centralHeaders]; simp only [append_assoc])
      (by rw [hl, flatMap_cons, append_assoc]) hf
    have hn : (before ++ (encode (centralFields entry front.length) ++ utf8 entry.path)).length =
        before.length + (46 + (utf8 entry.path).length) := by
      rw [length_append, length_append, length_centralFields]
    have hr := @ih (fun later hla => h later (mem_cons_of_mem _ hla))
      (before ++ (encode (centralFields entry front.length) ++ utf8 entry.path)) (front ++ localRecord entry)
      (by rw [hc, centralHeaders, length_append]; simp only [append_assoc])
      (by rw [hl, flatMap_cons]; simp only [append_assoc])
    rw [hn] at hr
    simp only [length_cons, readCentral, bind, Except.bind, he, hr, pure, Except.pure]
    rfl

/-- The end record is at the first place that is looked at. -/
lemma findEOCD_eq {buffer records : Bytes} {count size offset : ℕ}
    (hb : buffer = records ++ (encode (endFields count size offset) ++ [])) :
    findEOCD buffer = some records.length := by
  have hl : buffer.length = records.length + 22 := by
    rw [hb]
    simp [endFields]
  have hs : getUint buffer 4 (records.length + 0) = .ok 0x06054b50 :=
    getUint_field hb 0 0 rfl (by simp [endFields]) le_rfl (by norm_num)
  obtain ⟨places, hp⟩ : ∃ places, min buffer.length 65557 - 21 = places + 1 := ⟨min buffer.length 65557 - 22, by omega⟩
  rw [findEOCD, if_neg (by omega), hp, range_succ_eq_map, map_cons, find?_cons_of_pos]
  · rw [hl, Nat.add_sub_cancel, Nat.sub_zero]
  · rw [hl, Nat.add_sub_cancel, Nat.sub_zero, ← add_zero records.length, hs]
    rfl

lemma foldl_add (files : List Added) (before : List Entry) :
    files.foldl add before = before ++ files.map Added.entry := by
  induction files generalizing before with
  | nil => rw [foldl_nil, map_nil, append_nil]
  | cons file rest ih => rw [foldl_cons, ih, add, append_assoc, map_cons, singleton_append]

/-- A path that the archive can hold. -/
structure GoodPath (path : Utf16) : Prop where
  nonempty : path ≠ []
  wellFormed : wellFormed path = true
  size : (utf8 path).length < 65536
  notDirectory : path.getLast? ≠ some 0x2f
  notMark : path.head? ≠ some 0xFEFF

lemma length_le_build {entries : List Entry} {entry : Entry} (h : entry ∈ entries) :
    entry.bytes.length ≤ (build entries).length := by
  obtain ⟨before, after, rfl⟩ := append_of_mem h
  simp [build, localRecord]
  omega

/-- **The archives come back as they were written**, whatever bytes the files hold. -/
theorem readEntries_build {decoder : TextDecoder} {inflate : Option (Bytes → Option Bytes)} {files : List Added}
    (hcount : files.length < 65536) (hpaths : ∀ file ∈ files, GoodPath (normalizedPath file.path))
    (hsize : (build (files.foldl add [])).length < 2 ^ 32) :
    readEntries decoder inflate (build (files.foldl add [])) = .ok (files.map fun file =>
      ⟨normalizedPath file.path, file.data.toBytes, file.data.toBytes.length⟩) := by
  rw [foldl_add, List.nil_append] at hsize ⊢
  set entries := files.map Added.entry with hentries
  have hfits : ∀ entry ∈ entries, entry.Fits := by
    intro entry hentry
    obtain ⟨file, hfile, rfl⟩ := List.mem_map.mp hentry
    have hpath := hpaths file hfile
    exact ⟨hpath.wellFormed, hpath.notMark, hpath.notDirectory, hpath.size, (length_le_build hentry).trans_lt hsize⟩
  set locals := entries.flatMap localRecord
  set central := centralHeaders 0 entries
  have hbuffer : build entries = (locals ++ central) ++
      (encode (endFields entries.length central.length locals.length) ++ []) := by
    simp only [build, List.append_assoc, List.append_nil]
    rfl
  have hlocals : locals.length < 256 ^ 4 := lt_of_le_of_lt (by rw [hbuffer]; simp) hsize
  have htotal : getUint (build entries) 2 ((locals ++ central).length + 10) = .ok entries.length :=
    getUint_field hbuffer 4 10 rfl (by simp [endFields]) (by norm_num) (by rw [hentries, List.length_map]; exact hcount)
  have hoffset : getUint (build entries) 4 ((locals ++ central).length + 16) = .ok locals.length :=
    getUint_field hbuffer 6 16 rfl (by simp [endFields]) le_rfl hlocals
  have hread := @readCentral_eq decoder inflate entries hfits (build entries) locals
    (encode (endFields entries.length central.length locals.length)) []
    (central ++ encode (endFields entries.length central.length locals.length)) rfl rfl hsize
  simp only [readEntries, findEOCD_eq hbuffer, bind, Except.bind, htotal, hoffset, hread]
  rw [hentries, List.map_map]
  rfl

/-- A decoder of well-formed texts. -/
def wellFormedDecoder : TextDecoder := ⟨fun bytes => (ofUtf8 bytes).getD [], fun text h _ => by rw [ofUtf8_utf8 h]; rfl⟩

/-- A file whose bytes look like an end record, and a directory separator of Windows in a path. -/
def exampleFiles : List Added :=
  [⟨ascii "/a\\b", .bytes [0x50, 0x4b, 0x05, 0x06], ⟨9, 30, 0, 2026, 10, 19⟩⟩,
    ⟨ascii "c", .text (ascii "d"), ⟨9, 30, 2, 2026, 10, 19⟩⟩]

/-- Two files, one holding the end record's signature. -/
theorem readEntries_build_two : readEntries wellFormedDecoder none (build (exampleFiles.foldl add [])) = .ok
      [⟨ascii "a/b", [0x50, 0x4b, 0x05, 0x06], 4⟩, ⟨ascii "c", [0x64], 1⟩] := by
  have hpaths : ∀ file ∈ exampleFiles, GoodPath (normalizedPath file.path) := by
    intro file hfile
    simp only [exampleFiles, List.mem_cons, List.not_mem_nil, or_false] at hfile
    rcases hfile with rfl | rfl <;>
      exact ⟨by decide, by decide, by decide, by decide, by decide⟩
  exact (readEntries_build (by decide) hpaths (by decide +kernel)).trans rfl

end Nstu.Web.Zip
