import Nstu.Core.StableSort
import Nstu.Core.Text
import Nstu.Core.Wire
import Mathlib.Data.List.Lex
import Mathlib.Data.List.Nodup

/-!
# The digest of an exam package

Two programs frame the files of a package into one byte string and hash it: the studio
(`computeContentDigest` of `zip.js`) when a package is written, the exam host
(`inspect_exam_package` of `exam_host.cpp`) when it is started.

The studio sorts the paths as they are given, by the collation of the browser's language, and writes
them in UTF-8.  The host sorts the names it finds on the disk, in the narrow encoding of the platform,
byte by byte.  `digestBytes_eq_iff` says when the two byte strings are the same.

The collation and the narrow encoding are parameters.
-/

namespace Nstu.Exam

open Wire Text List

/-- A file of a package, as the studio has it.  No string or array of a browser is longer than the
numbers it counts with. -/
structure PackageFile where
  path : Utf16
  bytes : Bytes
  path_lt : path.length < 2 ^ 53
  bytes_lt : bytes.length < 2 ^ 53

/-- `localeCompare`: a comparison that orders all strings, where some may be equal for it. -/
structure Collator where
  compare : Utf16 → Utf16 → ℤ
  total : ∀ a b, compare a b ≤ 0 ∨ compare b a ≤ 0
  trans : ∀ a b c, compare a b ≤ 0 → compare b c ≤ 0 → compare a c ≤ 0

/-- The narrow encoding that `generic_string` converts a path to.  It throws on a character that the
encoding cannot give back, so it never gives two paths one name; a `std::string` has a 64-bit size. -/
structure Narrow where
  encode : Utf16 → Option Bytes
  injective : ∀ {a b : Utf16} {name : Bytes}, encode a = some name → encode b = some name → a = b
  length_lt : ∀ {path : Utf16} {name : Bytes}, encode path = some name → name.length < 2 ^ 64

/-- `path.replace(/\\\\/g, "/")`, and likewise the separators of `generic_string`. -/
def normalized (path : Utf16) : Utf16 := path.map fun unit => if unit = 0x5c then 0x2f else unit

/-- A name and a content, each behind its length. -/
def frame (item : Bytes × Bytes) : Bytes :=
  [le (UInt64.ofNat item.1.length), item.1, le (UInt64.ofNat item.2.length), item.2].flatten

/-! ## The two sides -/

def studioName (file : PackageFile) : Bytes := utf8 (normalized file.path)

/-- What the studio frames of a file. -/
def studioItem (file : PackageFile) : Bytes × Bytes := (studioName file, file.bytes)

/-- The comparison of the studio's sort. -/
def collates (collator : Collator) (a b : PackageFile) : Bool := collator.compare a.path b.path ≤ 0

/-- What `computeContentDigest` hashes. -/
def studioDigestBytes (collator : Collator) (files : List PackageFile) : Bytes :=
  ((files.mergeSort (collates collator)).map studioItem).flatMap frame

/-- What the host frames of a file. -/
def nativeItem (narrow : Narrow) (file : PackageFile) : Option (Bytes × Bytes) :=
  (narrow.encode (normalized file.path)).map fun name => (name, file.bytes)

/-- The comparison of the host's sort. -/
def nameLe (a b : Bytes × Bytes) : Bool := !decide (b.1 < a.1)

/-- What `inspect_exam_package` hashes, of a package that it does not refuse before; the files are in
the order in which the disk enumerates them. -/
def nativeDigestBytes (narrow : Narrow) (files : List PackageFile) : Option Bytes :=
  (files.mapM (nativeItem narrow)).map fun items => (items.mergeSort nameLe).flatMap frame

/-! ## Framing -/

lemma length_utf8Char_le (c : ℕ) : (utf8Char c).length ≤ 4 := by
  unfold utf8Char
  split_ifs <;> simp

lemma length_utf8Char_loneScalar (unit : UInt16) : (utf8Char (loneScalar unit)).length ≤ 3 := by
  have hl : loneScalar unit < 0x10000 := by
    unfold loneScalar
    split
    · decide
    · exact unit.toNat_lt
  unfold utf8Char
  split_ifs <;> simp

lemma length_utf8_le (text : Utf16) : (utf8 text).length ≤ 3 * text.length := by
  rw [utf8]
  fun_induction scalarValues text with
  | case1 => simp
  | case2 unit =>
    have := length_utf8Char_loneScalar unit
    simpa using this
  | case3 high low rest hp ih =>
    have := length_utf8Char_le (surrogatePair high low)
    simp only [flatMap_cons, length_append, length_cons]
    omega
  | case4 high low rest hp ih =>
    have := length_utf8Char_loneScalar high
    simp only [flatMap_cons, length_append, length_cons] at ih ⊢
    omega

/-- Both parts are short enough for their lengths. -/
def Frameable (item : Bytes × Bytes) : Prop := item.1.length < 2 ^ 64 ∧ item.2.length < 2 ^ 64

variable {a b : Bytes × Bytes}

lemma frame_append_inj {rest rest' : Bytes} (ha : Frameable a) (hb : Frameable b)
    (h : frame a ++ rest = frame b ++ rest') : a = b ∧ rest = rest' := by
  have hleng : ∀ {x y : ℕ}, x < 2 ^ 64 → y < 2 ^ 64 → le (UInt64.ofNat x) = le (UInt64.ofNat y) → x = y := by
    intro x y hx hy heq
    have heq := congrArg UInt64.toNat (le_injective heq)
    rwa [UInt64.toNat_ofNat_of_lt' hx, UInt64.toNat_ofNat_of_lt' hy] at heq
  simp only [frame, flatten_cons, flatten_nil, append_nil, append_assoc] at h
  obtain ⟨hsize, h⟩ := append_inj h (by simp)
  obtain ⟨hname, h⟩ := append_inj h (hleng ha.1 hb.1 hsize)
  obtain ⟨hsize', h⟩ := append_inj h (by simp)
  obtain ⟨hcont, hrest⟩ := append_inj h (hleng ha.2 hb.2 hsize')
  exact ⟨Prod.ext hname hcont, hrest⟩

variable {items : List (Bytes × Bytes)}

/-- **The framing says which items it frames.** -/
lemma frames_inj {items' : List (Bytes × Bytes)} (h : ∀ item ∈ items, Frameable item)
    (h' : ∀ item ∈ items', Frameable item) (he : items.flatMap frame = items'.flatMap frame) : items = items' := by
  have hn : ∀ item : Bytes × Bytes, ∀ rest, frame item ++ rest ≠ [] := by
    intro item rest hni
    have := congrArg length hni
    simp [frame] at this
  induction items generalizing items' with
  | nil =>
    cases items' with
    | nil => rfl
    | cons item items' => exact absurd he.symm (hn item _)
  | cons item items ih =>
    cases items' with
    | nil => exact absurd he (hn item _)
    | cons item' items' =>
      rw [forall_mem_cons] at h h'
      obtain ⟨rfl, hr⟩ := frame_append_inj h.1 h'.1 he
      rw [ih h.2 h'.2 hr]

/-! ## Agreement -/

lemma nameLe_iff : nameLe a b ↔ a.1 ≤ b.1 := by
  rw [nameLe, Bool.not_eq_true', decide_eq_false_iff_not, List.not_lt]

lemma nameLe_trans (a b c : Bytes × Bytes) (ha : nameLe a b) (hb : nameLe b c) : nameLe a c := by
  rw [nameLe_iff] at *
  exact List.le_trans ha hb

lemma nameLe_total (a b : Bytes × Bytes) : (nameLe a b || nameLe b a) := by
  rw [Bool.or_eq_true, nameLe_iff, nameLe_iff]
  exact List.le_total a.1 b.1

lemma collates_trans (collator : Collator) (a b c : PackageFile) (ha : collates collator a b)
    (hb : collates collator b c) : collates collator a c := by
  simp only [collates, decide_eq_true_eq] at *
  exact collator.trans _ _ _ ha hb

lemma collates_total (collator : Collator) (a b : PackageFile) :
    (collates collator a b || collates collator b a) := by
  simp only [collates, Bool.or_eq_true, decide_eq_true_eq]
  exact collator.total _ _

/-- On every pair of files, the order that the studio puts them in is the byte order of their names:
the collation decides, and where it allows the order in which they are given, that order stands. -/
def OrdersAgree (collator : Collator) (files : List PackageFile) : Prop :=
  files.Pairwise (StableSort.Agrees (collates collator) fun a b => studioName a ≤ studioName b)

lemma frameable_studioItem (file : PackageFile) : Frameable (studioItem file) := by
  have hn := length_utf8_le (normalized file.path)
  have hp := file.path_lt
  have hb := file.bytes_lt
  refine ⟨?_, by simp only [studioItem]; omega⟩
  simp only [studioItem, studioName]
  rw [normalized, length_map, ← normalized] at hn
  omega

variable {file : PackageFile} {item : Bytes × Bytes}

lemma name_of_nativeItem {narrow : Narrow} (h : nativeItem narrow file = some item) :
    narrow.encode (normalized file.path) = some item.1 ∧ item.2 = file.bytes := by
  obtain ⟨name, hn, rfl⟩ := Option.map_eq_some_iff.mp h
  exact ⟨hn, rfl⟩

lemma frameable_nativeItem {narrow : Narrow} (h : nativeItem narrow file = some item) : Frameable item := by
  obtain ⟨hn, hb⟩ := name_of_nativeItem h
  have hl := file.bytes_lt
  exact ⟨narrow.length_lt hn, by rw [hb]; omega⟩

lemma frameable_nativeItems {narrow : Narrow} {files : List PackageFile}
    (h : files.mapM (nativeItem narrow) = some items) : ∀ item ∈ items, Frameable item := by
  induction files generalizing items with
  | nil =>
    cases h
    simp
  | cons file files ih =>
    rw [mapM_cons] at h
    obtain ⟨item, hi, h⟩ := Option.bind_eq_some_iff.mp h
    obtain ⟨rest, hr, h⟩ := Option.bind_eq_some_iff.mp h
    cases h
    rw [forall_mem_cons]
    exact ⟨frameable_nativeItem hi, ih hr⟩

lemma nodup_nativeItems {narrow : Narrow} {files : List PackageFile}
    (hdist : (files.map fun file => normalized file.path).Nodup) (h : files.mapM (nativeItem narrow) = some items) :
    (items.map Prod.fst).Nodup ∧
      ∀ name ∈ items.map Prod.fst, ∃ file ∈ files, narrow.encode (normalized file.path) = some name := by
  induction files generalizing items with
  | nil =>
    cases h
    simp
  | cons file files ih =>
    rw [mapM_cons] at h
    obtain ⟨item, hitem, h⟩ := Option.bind_eq_some_iff.mp h
    obtain ⟨rest, hrest, h⟩ := Option.bind_eq_some_iff.mp h
    cases h
    rw [map_cons, nodup_cons] at hdist
    obtain ⟨hnodup, hnames⟩ := ih hdist.2 hrest
    obtain ⟨hname, -⟩ := name_of_nativeItem hitem
    rw [map_cons, nodup_cons, forall_mem_cons]
    refine ⟨⟨?_, hnodup⟩, ⟨file, mem_cons_self, hname⟩, ?_⟩
    · intro hmem
      obtain ⟨other, hother, hsame⟩ := hnames _ hmem
      rw [narrow.injective hname hsame] at hdist
      exact hdist.1 (mem_map_of_mem hother)
    · intro name hmem
      obtain ⟨other, hother, hsame⟩ := hnames name hmem
      exact ⟨other, mem_cons_of_mem _ hother, hsame⟩

section Agreement

variable (collator : Collator) (narrow : Narrow) {files disk : List PackageFile}

lemma digestBytes_eq_iff_items : nativeDigestBytes narrow disk = some (studioDigestBytes collator files) ↔
      ∃ items, disk.mapM (nativeItem narrow) = some items ∧
        items.mergeSort nameLe = (files.mergeSort (collates collator)).map studioItem := by
  rw [nativeDigestBytes, Option.map_eq_some_iff]
  constructor
  · rintro ⟨items, hi, h⟩
    refine ⟨items, hi, frames_inj ?_ ?_ h⟩
    · intro item hit
      exact frameable_nativeItems hi item (mem_mergeSort.mp hit)
    · intro item hit
      obtain ⟨file, -, rfl⟩ := mem_map.mp hit
      exact frameable_studioItem file
  · rintro ⟨items, hi, h⟩
    exact ⟨items, hi, congrArg (flatMap frame) h⟩

lemma pairwise_studioItems_iff :
    ((files.mergeSort (collates collator)).map studioItem).Pairwise (fun a b => nameLe a b) ↔
      OrdersAgree collator files := by
  rw [pairwise_map]
  simp only [nameLe_iff]
  exact StableSort.pairwise_mergeSort_iff (collates_trans collator) (collates_total collator)

lemma ordersAgree_of_digestBytes_eq (h : nativeDigestBytes narrow disk = some (studioDigestBytes collator files)) :
    OrdersAgree collator files := by
  obtain ⟨items, -, h⟩ := (digestBytes_eq_iff_items collator narrow).mp h
  rw [← pairwise_studioItems_iff, ← h]
  exact pairwise_mergeSort nameLe_trans nameLe_total items

/-- **The digests agree.**  For files with distinct paths, which the disk enumerates in any order, the
host hashes the bytes that the studio hashes exactly when, taken together, its names are the studio's,
each with its content, and on every pair of files the studio's order is the byte order of the names. -/
theorem digestBytes_eq_iff (hdistinct : (files.map fun file => normalized file.path).Nodup) (hdisk : disk.Perm files) :
    nativeDigestBytes narrow disk = some (studioDigestBytes collator files) ↔
      (∃ items, disk.mapM (nativeItem narrow) = some items ∧ items.Perm (files.map studioItem)) ∧
        OrdersAgree collator files := by
  have hstudio : ((files.mergeSort (collates collator)).map studioItem).Perm (files.map studioItem) :=
    (List.mergeSort_perm _ _).map _
  constructor
  · intro heq
    obtain ⟨items, hitems, h⟩ := (digestBytes_eq_iff_items collator narrow).mp heq
    have hnative := List.mergeSort_perm items nameLe
    rw [h] at hnative
    exact ⟨⟨items, hitems, hnative.symm.trans hstudio⟩, ordersAgree_of_digestBytes_eq collator narrow heq⟩
  · rintro ⟨⟨items, hitems, hperm⟩, horder⟩
    rw [digestBytes_eq_iff_items]
    rw [← pairwise_studioItems_iff] at horder
    have hnative := List.mergeSort_perm items nameLe
    have hsame := hnative.trans (hperm.trans hstudio.symm)
    have hnodup := (hdisk.map fun file => normalized file.path).nodup_iff.mpr hdistinct
    refine ⟨items, hitems, hsame.eq_of_pairwise ?_ (List.pairwise_mergeSort nameLe_trans nameLe_total items) horder⟩
    intro a b ha hb hab hba
    have hname : a.1 = b.1 := List.le_antisymm (nameLe_iff.mp hab) (nameLe_iff.mp hba)
    exact List.inj_on_of_nodup_map (nodup_nativeItems hnodup hitems).1 (hnative.mem_iff.mp ha)
      (hnative.mem_iff.mp (hsame.mem_iff.mpr hb)) hname

end Agreement

/-! ## Names of ASCII letters -/

/-- Without the difference of case. -/
def foldCase (text : Utf16) : List ℕ := text.map fun unit => lowerCase unit.toNat

def letterCompare (a b : Utf16) : ℤ :=
  if foldCase a < foldCase b then -1 else if foldCase b < foldCase a then 1 else 0

lemma letterCompare_le_zero_iff {a b : Utf16} : letterCompare a b ≤ 0 ↔ foldCase a ≤ foldCase b := by
  have hl : foldCase a ≤ foldCase b ↔ ¬ foldCase b < foldCase a := not_lt.symm
  rw [letterCompare, hl]
  by_cases hlt : foldCase b < foldCase a
  · simp [hlt, lt_asymm hlt]
  · split_ifs <;> simp [hlt]

/-- The collation of texts of ASCII letters that differ in more than their case. -/
def letterCollator : Collator where
  compare := letterCompare
  total a b := by
    rw [letterCompare_le_zero_iff, letterCompare_le_zero_iff]
    exact le_total _ _
  trans a b c hab hbc := by
    rw [letterCompare_le_zero_iff] at *
    exact le_trans hab hbc

def asciiName (path : Utf16) : Option Bytes :=
  if path.all (fun unit => unit.toNat < 0x80) && path.length < 2 ^ 64 then
    some (path.map fun unit => UInt8.ofNat unit.toNat)
  else none

lemma path_of_asciiName {path : Utf16} {name : Bytes} (h : asciiName path = some name) :
    name.length < 2 ^ 64 ∧ path = name.map fun byte => UInt16.ofNat byte.toNat := by
  rw [asciiName] at h
  split at h
  · rename_i ha
    cases h
    simp only [Bool.and_eq_true, all_eq_true, decide_eq_true_eq] at ha
    rw [length_map, map_map]
    refine ⟨ha.2, (map_id path).symm.trans (map_congr_left ?_)⟩
    intro unit hu
    have hl := ha.1 unit hu
    rw [Function.comp_apply, UInt8.toNat_ofNat_of_lt' (by simp only [UInt8.size]; omega),
      UInt16.ofNat_toNat, id]
  · cases h

/-- The narrow encoding of ASCII. -/
def asciiNarrow : Narrow where
  encode := asciiName
  injective ha hb := (path_of_asciiName ha).2.trans (path_of_asciiName hb).2.symm
  length_lt h := (path_of_asciiName h).1

/-- A file of one letter and an extension. -/
def letterFile (letter : UInt16) : PackageFile :=
  { path := [letter, 46, 116, 120, 116], bytes := [1], path_lt := by simp, bytes_lt := by simp }

/-- `a.txt` and `b.txt` are hashed alike, though the disk enumerates them the other way round. -/
theorem digestBytes_agree_lower : nativeDigestBytes asciiNarrow [letterFile 98, letterFile 97] =
      some (studioDigestBytes letterCollator [letterFile 97, letterFile 98]) :=
  (digestBytes_eq_iff letterCollator asciiNarrow (by decide) (List.Perm.swap _ _ _)).mpr
    ⟨⟨[([98, 46, 116, 120, 116], [1]), ([97, 46, 116, 120, 116], [1])], by decide, List.Perm.swap _ _ _⟩,
      by simp [OrdersAgree, StableSort.Agrees]; decide⟩

/-- The studio puts `a.txt` before `B.txt`, the host after it: the bytes differ. -/
theorem digestBytes_differ_upper : ([letterFile 97, letterFile 66].map fun file => normalized file.path).Nodup ∧
      (nativeDigestBytes asciiNarrow [letterFile 97, letterFile 66]).isSome = true ∧
      nativeDigestBytes asciiNarrow [letterFile 97, letterFile 66] ≠
        some (studioDigestBytes letterCollator [letterFile 97, letterFile 66]) := by
  refine ⟨by decide, by decide, ?_⟩
  intro h
  have horder := ordersAgree_of_digestBytes_eq letterCollator asciiNarrow h
  rw [OrdersAgree, List.pairwise_cons] at horder
  have hpair : studioName (letterFile 97) ≤ studioName (letterFile 66) := by
    simpa [StableSort.Agrees, show collates letterCollator (letterFile 97) (letterFile 66) = true by decide]
      using horder.1 (letterFile 66) (by simp)
  exact absurd hpair (by decide)

end Nstu.Exam
