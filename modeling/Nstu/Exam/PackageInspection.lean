import Nstu.Exam.PackageDigest
import Nstu.Telemetry.Batch
import Mathlib.Data.Set.Function

/-!
# The files of a package under one digest

`inspect_exam_package` of `exam_host.cpp` from the enumeration of the files on: it collects the regular
files with their relative names, sorts them by name, frames names and contents into one byte string
and compares the SHA-256 digest of that string with the pin.

The digest stands for the list of files: the framing is injective on what may be collected
(**`canonical_injective`**), and so is the digest as far as no two canonical strings collide.
-/

namespace Nstu.Exam.PackageInspection

open Wire Text

def kMaximumPackageBytes : ℕ := 128 * 1024 * 1024
def kMaximumPackageFiles : ℕ := 4096

/-- A path as `read_file_bounded` finds it. -/
structure StoredFile where
  regular : Bool := true
  size : Option ℕ
  opens : Bool := true
  bytes : Bytes

def readFileBounded (file : StoredFile) (limit : ℕ) : Except String Bytes :=
  if !file.regular then .error "exam package file is unavailable"
  else match file.size with
  | none => .error "exam package file is too large"
  | some size =>
    if size > limit then .error "exam package file is too large"
    else if !file.opens then .error "exam package file could not be opened"
    else if file.bytes.length < size then .error "exam package file read failed"
    else .ok (file.bytes.take size)

/-- What `is_regular_file` says. -/
inductive EntryKind where
  | regular
  | other
  | failed
  deriving DecidableEq

/-- One entry of the enumeration.  `relative` and `size` are absent where the call for them fails; a name
is a `std::string`, so its size has 64 bits. -/
structure PackageEntry where
  reparse : Bool := false
  kind : EntryKind := .regular
  relative : Option Bytes
  size : Option ℕ
  file : StoredFile
  relative_lt : ∀ name ∈ relative, name.length < 2 ^ 64

/-- What a package shows when it is enumerated; `failed` says that the enumeration breaks off. -/
structure Listing where
  entries : List PackageEntry
  failed : Bool := false

structure PackageFile where
  relative : Bytes
  path : StoredFile
  relative_lt : relative.length < 2 ^ 64

/-- `relative.generic_string().find("..") == 0`. -/
def beginsWithDots (name : Bytes) : Bool := name.take 2 == [46, 46]

/-- The loop over the entries: the files so far, and their sizes together. -/
def collectEntries : List PackageEntry → List PackageFile → ℕ → Except String (List PackageFile × Bool)
  | [], files, _ => .ok (files, false)
  | entry :: entries, files, totalBytes =>
    if entry.reparse then .error "exam package contains a reparse point"
    else match entry.kind with
    | .failed => .ok (files, true)
    | .other => collectEntries entries files totalBytes
    | .regular =>
      match hname : entry.relative with
      | none => .error "exam package contains an invalid relative path"
      | some name =>
        if name.isEmpty || beginsWithDots name then
          .error "exam package contains an invalid relative path"
        else match entry.size with
        | none => .error "exam package exceeds its bounded file quota"
        | some size =>
          if size > kMaximumPackageBytes || totalBytes > kMaximumPackageBytes - size ||
              files.length ≥ kMaximumPackageFiles then
            .error "exam package exceeds its bounded file quota"
          else collectEntries entries (files ++ [⟨name, entry.file, entry.relative_lt name (by simp [hname])⟩])
            (totalBytes + size)

/-- `left.relative < right.relative` puts the files in this order; no two of them have one name. -/
def relativeLe (left right : PackageFile) : Bool := !decide (right.relative < left.relative)

/-- The files in the order of their names. -/
def sortedFiles (listing : Listing) : Except String (List PackageFile) := do
  let (files, broken) ← collectEntries listing.entries [] 0
  if broken || listing.failed || files.isEmpty then .error "exam package enumeration failed"
  else .ok (files.mergeSort relativeLe)

/-- The names with the contents that are read. -/
def collectPackage (listing : Listing) : Except String (List (Bytes × Bytes)) := do
  let files ← sortedFiles listing
  files.mapM fun file => do
    let bytes ← readFileBounded file.path kMaximumPackageBytes
    pure (file.relative, bytes)

def canonical (files : List (Bytes × Bytes)) : Bytes := files.flatMap frame

def hexString (digest : Digest) : Bytes := (hexCodes digest.toList).map UInt8.ofNat

def parseHex (value : Bytes) : Option Bytes :=
  if value.length ≠ 64 then none else hexPairs (value.map UInt8.toNat)

/-- `inspect_exam_package` from the enumeration on: the digest it reports. -/
def inspectExamPackage (sha256 : Bytes → Digest) (listing : Listing) (expectedDigestHex : Bytes)
    (requireDigest : Bool) : Except String Bytes := do
  let files ← collectPackage listing
  match Telemetry.sha256Of sha256 (canonical files) with
  | none => .error "exam package digest calculation failed"
  | some digest =>
    if requireDigest && expectedDigestHex.isEmpty then .error "exam package digest pin is required"
    else if !expectedDigestHex.isEmpty && parseHex expectedDigestHex != some digest.toList then
      .error "exam package digest does not match its pin"
    else .ok (hexString digest)

/-! ## What is collected -/

variable {bytes : Bytes}

lemma length_readFileBounded {file : StoredFile} {limit : ℕ}
    (h : readFileBounded file limit = .ok bytes) : bytes.length ≤ limit := by
  unfold readFileBounded at h
  split at h
  · cases h
  · split at h
    · cases h
    · rename_i size hs
      split_ifs at h with hl ho hsh
      cases h
      rw [List.length_take]
      omega

variable {files : List PackageFile}

/-- **Names and contents** are short enough for their lengths. -/
lemma frameable_mapM {items : List (Bytes × Bytes)} (h : (files.mapM fun file => do
      let bytes ← readFileBounded file.path kMaximumPackageBytes
      pure (file.relative, bytes)) = .ok items) : ∀ item ∈ items, Frameable item := by
  induction files generalizing items with
  | nil =>
    cases h
    simp
  | cons file files ih =>
    rw [List.mapM_cons, Parser.bind_eq_ok_iff] at h
    obtain ⟨item, hi, h⟩ := h
    rw [Parser.bind_eq_ok_iff] at h
    obtain ⟨rest, hr, h⟩ := h
    cases h
    rw [Parser.bind_eq_ok_iff] at hi
    obtain ⟨bytes, hb, hi⟩ := hi
    cases hi
    have hl := length_readFileBounded hb
    rw [List.forall_mem_cons]
    exact ⟨⟨file.relative_lt, hl.trans_lt (by decide)⟩, ih hr⟩

variable {listing : Listing}

lemma frameable_collectPackage {files : List (Bytes × Bytes)}
    (h : collectPackage listing = .ok files) : ∀ item ∈ files, Frameable item := by
  unfold collectPackage at h
  rw [Parser.bind_eq_ok_iff] at h
  obtain ⟨sorted, -, h⟩ := h
  exact frameable_mapM h

lemma hexCodes_lt {code : ℕ} (h : code ∈ hexCodes bytes) : code < 256 := by
  have hc : ∀ value < 16, hexChar value < 256 := by decide
  obtain ⟨byte, -, hco⟩ := List.mem_flatMap.mp h
  have hb := byte.toNat_lt
  simp only [List.mem_cons, List.not_mem_nil, or_false] at hco
  rcases hco with rfl | rfl
  · exact hc _ (by omega)
  · exact hc _ (by omega)

lemma hexString_injective : Function.Injective hexString := by
  intro digest digest' h
  have hr : ∀ digest : Digest, hexPairs ((hexString digest).map UInt8.toNat) = some digest.toList := by
    intro digest
    have hc : (hexString digest).map UInt8.toNat = hexCodes digest.toList := by
      rw [hexString, List.map_map]
      refine (List.map_congr_left ?_).trans (List.map_id _)
      intro code hco
      exact UInt8.toNat_ofNat_of_lt' (hexCodes_lt hco)
    rw [hc, hexPairs_hexCodes]
  have hs := hr digest
  rw [h, hr digest'] at hs
  exact Block.toList_injective (Option.some.inj hs).symm

lemma inspectExamPackage_ok {sha256 : Bytes → Digest} {pin reported : Bytes}
    {required : Bool} (h : inspectExamPackage sha256 listing pin required = .ok reported) :
    ∃ files, collectPackage listing = .ok files ∧ reported = hexString (sha256 (canonical files)) := by
  unfold inspectExamPackage at h
  rw [Parser.bind_eq_ok_iff] at h
  obtain ⟨files, hf, h⟩ := h
  refine ⟨files, hf, ?_⟩
  split at h
  · cases h
  · rename_i digest hd
    unfold Telemetry.sha256Of at hd
    split_ifs at hd h
    cases hd
    cases h
    rfl

/-- **The digest stands for the files.**  Packages with one canonical string have the same files with the
same contents, and so have packages with one digest, where the two canonical strings do not collide. -/
theorem canonical_injective {listing listing' : Listing} {files files' : List (Bytes × Bytes)}
    (h : collectPackage listing = .ok files) (h' : collectPackage listing' = .ok files') :
    (canonical files = canonical files' → files = files') ∧
      ∀ (sha256 : Bytes → Digest) (pin pin' reported : Bytes) (required required' : Bool),
        Set.InjOn sha256 {canonical files, canonical files'} →
        inspectExamPackage sha256 listing pin required = .ok reported →
        inspectExamPackage sha256 listing' pin' required' = .ok reported → files = files' := by
  have hframed : canonical files = canonical files' → files = files' :=
    frames_inj (frameable_collectPackage h) (frameable_collectPackage h')
  refine ⟨hframed, ?_⟩
  intro sha256 pin pin' reported required required' hfree hreported hreported'
  obtain ⟨found, hfound, hdigest⟩ := inspectExamPackage_ok hreported
  obtain ⟨found', hfound', hdigest'⟩ := inspectExamPackage_ok hreported'
  rw [h] at hfound
  rw [h'] at hfound'
  cases hfound
  cases hfound'
  refine hframed (hfree (by simp) (by simp) (hexString_injective ?_))
  rw [← hdigest, ← hdigest']

/-- A file of one letter that holds its own name. -/
def letterEntry (letter : UInt8) : PackageEntry where
  relative := some [letter]
  size := some 1
  file := { size := some 1, bytes := [letter] }
  relative_lt := by simp

def letterFile (letter : UInt8) : PackageFile := ⟨[letter], (letterEntry letter).file, by simp⟩

lemma collectPackage_letters {entries : List PackageEntry} (hc : collectEntries entries [] 0 = .ok (files, false))
    (hs : files.mergeSort relativeLe = [letterFile 97, letterFile 98]) :
    collectPackage ⟨entries, false⟩ = .ok [([97], [97]), ([98], [98])] := by
  have hso : sortedFiles ⟨entries, false⟩ = .ok [letterFile 97, letterFile 98] := by
    have hn : files.isEmpty = false := by
      cases files with
      | nil => simp at hs
      | cons file files => rfl
    simp only [sortedFiles, hc, bind, Except.bind, hn, Bool.or_self, Bool.false_eq_true, if_false, hs]
  rw [collectPackage, hso]
  rfl

lemma inspectExamPackage_unpinned (sha256 : Bytes → Digest) {files : List (Bytes × Bytes)}
    (h : collectPackage listing = .ok files) (hl : (canonical files).length ≤ 0xffffffff) :
    inspectExamPackage sha256 listing [] false = .ok (hexString (sha256 (canonical files))) := by
  simp [inspectExamPackage, h, Telemetry.sha256Of, Nat.not_lt.mpr hl, bind, Except.bind]

/-- SHA-256 on the package of both letters. -/
def lettersSha256 (message : Bytes) : Digest :=
  if message = canonical [([97], [97]), ([98], [98])] then
    ⟨leBytes 32 0x56fbf2b302a763de356c1ad38b8d3df135240a5670b35b100b6b3adb8d79fe02, leBytes_length _ _⟩
  else Block.zero 32

/-- Two enumerations of one package, in different orders, have one digest. -/
theorem canonical_injective_letters : collectPackage ⟨[letterEntry 97, letterEntry 98], false⟩ =
      collectPackage ⟨[letterEntry 98, letterEntry 97], false⟩ ∧
    inspectExamPackage lettersSha256 ⟨[letterEntry 98, letterEntry 97], false⟩ [] false =
      .ok (hexString (lettersSha256 (canonical [([97], [97]), ([98], [98])]))) := by
  have h : collectPackage ⟨[letterEntry 97, letterEntry 98], false⟩ = .ok [([97], [97]), ([98], [98])] :=
    collectPackage_letters rfl (List.mergeSort_of_pairwise (by decide))
  have h' : collectPackage ⟨[letterEntry 98, letterEntry 97], false⟩ = .ok [([97], [97]), ([98], [98])] :=
    collectPackage_letters rfl (by
      have hlt : ([97] : Bytes) < [98] := by decide
      simp [List.mergeSort, relativeLe, letterFile, hlt])
  have hfree : Set.InjOn lettersSha256
      {canonical [([97], [97]), ([98], [98])], canonical [([97], [97]), ([98], [98])]} := by
    rw [Set.pair_eq_singleton]
    exact Set.injOn_singleton _ _
  have hsame := (canonical_injective h h').2 lettersSha256 [] [] _ false false hfree
    (inspectExamPackage_unpinned _ h (by decide)) (inspectExamPackage_unpinned _ h' (by decide))
  exact ⟨by rw [h, h', hsame], inspectExamPackage_unpinned _ h' (by decide)⟩

end Nstu.Exam.PackageInspection
