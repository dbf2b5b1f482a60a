import Mathlib.Data.List.DropRight
import Nstu.Client.FileDistributionRuns

/-!
# Names of distributed files

`sanitize_filename` of `file_distribution.cpp`, and what a safe name is safe from.

The check looks for a device's name as it stands before the first dot, while the disk first takes the spaces off its end.
`spacedDevice` are the names that get through for that reason, and there are no others (**`fileNameSafety_iff`**).
-/

namespace Nstu.Client.FileDistribution

open Wire CType List

def fallbackFilename : Bytes := literal "received_file.bin"

def sanitizeFilename (filename : Bytes) : Bytes :=
  let name := filename.rtakeWhile (! isSeparator ·)
  if name.isEmpty then fallbackFilename
  else
    let sanitized := name.map fun byte => if isForbidden byte then 0x5f else byte
    let sanitized := (sanitized.dropWhile isSpaceOrDot).rdropWhile isSpaceOrDot
    if sanitized.isEmpty then fallbackFilename
    else
      let sanitized :=
        if sanitized.length > kMaxFilenameLength then
          (sanitized.take kMaxFilenameLength).rdropWhile isSpaceOrDot
        else sanitized
      if sanitized.isEmpty then fallbackFilename
      else
        let sanitized :=
          if isReservedDosDevice (sanitized.takeWhile (· != 0x2e)) then
            (literal "safe_" ++ sanitized).take kMaxFilenameLength
          else sanitized
        if isSafeFilename sanitized then sanitized else fallbackFilename

/-- The part of a name before the first dot, as the disk reads it. -/
def deviceStem (filename : Bytes) : Bytes := (filename.takeWhile (· != 0x2e)).rdropWhile (· == 0x20)

/-- What is promised of a name, and of what `sanitize_filename` makes of it. -/
structure FileNameSafety (filename : Bytes) : Prop where
  safe : isSafeFilename (sanitizeFilename filename) = true
  unchanged : isSafeFilename filename = true → sanitizeFilename filename = filename
  idempotent : sanitizeFilename (sanitizeFilename filename) = sanitizeFilename filename
  characters : isSafeFilename filename = true → ∀ byte ∈ filename, isForbidden byte = false
  ends : isSafeFilename filename = true → filename.head?.any isSpaceOrDot = false ∧
    filename.getLast?.any isSpaceOrDot = false
  device : isSafeFilename filename = true → isReservedDosDevice (deviceStem filename) = false
  child : isSafeFilename filename = true → ∀ baseDir,
    computeStagingPath baseDir filename = some (baseDir ++ [filename])

/-- A device's name with spaces behind it, then a dot or nothing more; with no other fault in the name. -/
def spacedDevice (filename : Bytes) : Prop :=
  (∃ device ∈ reservedDevices, ∃ spaces, (filename.takeWhile (· != 0x2e)).map lower =
    device.map lower ++ List.replicate (spaces + 1) 0x20) ∧
  filename.length ≤ kMaxFilenameLength ∧ filename.head?.any isSpaceOrDot = false ∧
  filename.getLast?.any isSpaceOrDot = false ∧ filename.any isForbidden = false

lemma isSafeFilename_iff {filename : Bytes} : isSafeFilename filename ↔ filename ≠ [] ∧
    filename.length ≤ kMaxFilenameLength ∧ filename.head?.any isSpaceOrDot = false ∧
    filename.getLast?.any isSpaceOrDot = false ∧ filename.any isForbidden = false ∧
    isReservedDosDevice (filename.takeWhile (· != 0x2e)) = false := by
  have hd : filename.head?.any isSpaceOrDot = false → (filename == literal "." || filename == literal "..") = false := by
    intro hh
    rw [Bool.or_eq_false_iff, beq_eq_false_iff_ne, beq_eq_false_iff_ne]
    constructor
    · rintro rfl
      exact absurd hh (by decide)
    · rintro rfl
      exact absurd hh (by decide)
  rw [isSafeFilename]
  split_ifs with hs he hf hdo
  · simp only [Bool.or_eq_true, List.isEmpty_iff, decide_eq_true_eq] at hs
    grind
  · grind
  · grind
  · grind
  · simp only [Bool.or_eq_true, List.isEmpty_iff, decide_eq_true_eq] at hs
    grind

lemma sanitizeFilename_of_safe {filename : Bytes} (h : isSafeFilename filename) :
    sanitizeFilename filename = filename := by
  have hcomp := component_of_safe h
  obtain ⟨hne, hleng, hhead, hlast, hforb, hdevi⟩ := isSafeFilename_iff.mp h
  have hname : filename.rtakeWhile (! isSeparator ·) = filename :=
    rtakeWhile_eq_self_iff.mpr fun byte hbyte => by simp [hcomp.no_separator byte hbyte]
  have hmap : (filename.map fun byte => if isForbidden byte then 0x5f else byte) = filename := by
    conv_rhs => rw [← map_id filename]
    refine map_congr_left fun byte hbyte => if_neg ?_
    exact any_eq_false.mp hforb byte hbyte
  have hdrop : filename.dropWhile isSpaceOrDot = filename := by
    cases filename with
    | nil => rfl
    | cons first rest => exact dropWhile_cons_of_neg (by simpa using hhead)
  have hrdrop : filename.rdropWhile isSpaceOrDot = filename := by
    refine rdropWhile_eq_self_iff.mpr fun hl => ?_
    simpa [getLast?_eq_getLast_of_ne_nil hl] using hlast
  simp only [sanitizeFilename, hname, hmap, hdrop, hrdrop, List.isEmpty_iff, hne, if_false, gt_iff_lt, hleng.not_gt,
    hdevi, h, if_true, Bool.false_eq_true]

/-- Whatever stands before it, the last check decides. -/
lemma isSafeFilename_sanitizeFilename (filename : Bytes) : isSafeFilename (sanitizeFilename filename) := by
  have hf : isSafeFilename fallbackFilename := by decide
  simp only [sanitizeFilename]
  split_ifs
  all_goals assumption

/-! ## Devices -/

lemma lower_eq_space {byte : UInt8} : (lower byte == 0x20) = (byte == 0x20) := by
  rw [lower]
  split_ifs with hu
  · have hn : byte ≠ 0x20 := by
      rintro rfl
      exact absurd hu (by decide)
    have hn' : byte + 0x20 ≠ 0x20 := by
      intro hs
      obtain rfl : byte = 0 := by simpa using hs
      exact absurd hu (by decide)
    rw [beq_eq_false_iff_ne.mpr hn, beq_eq_false_iff_ne.mpr hn']
  · rfl

lemma rdropWhile_map_lower (text : Bytes) :
    (text.map lower).rdropWhile (· == 0x20) = (text.rdropWhile (· == 0x20)).map lower := by
  rw [rdropWhile, ← map_reverse, dropWhile_map, ← map_reverse, rdropWhile]
  congr 3
  exact funext fun byte => lower_eq_space

lemma rdropWhile_append_spaces (text : Bytes) :
    ∀ spaces, (text ++ replicate spaces 0x20).rdropWhile (· == 0x20) = text.rdropWhile (· == 0x20)
  | 0 => by simp
  | spaces + 1 => by
    rw [replicate_succ', ← append_assoc, rdropWhile_concat_pos _ _ _ rfl, rdropWhile_append_spaces text spaces]

lemma eq_append_spaces (text : Bytes) :
    ∃ spaces, text = text.rdropWhile (· == 0x20) ++ replicate spaces 0x20 := by
  refine ⟨(text.rtakeWhile (· == 0x20)).length, ?_⟩
  have hs : text.rtakeWhile (· == 0x20) = replicate (text.rtakeWhile (· == 0x20)).length 0x20 :=
    eq_replicate_of_mem fun byte hb => by simpa using mem_rtakeWhile_imp hb
  rw [← hs, rdropWhile_append_rtakeWhile]

/-- No device's name ends in a space. -/
lemma device_trimmed {device : Bytes} (h : device ∈ reservedDevices) :
    (device.map lower).rdropWhile (· == 0x20) = device.map lower := by
  have ha : (reservedDevices.all fun device =>
      (device.map lower).rdropWhile (· == 0x20) == device.map lower) := by decide
  simpa using all_eq_true.mp ha device h

lemma isReservedDosDevice_iff {stem : Bytes} : isReservedDosDevice stem ↔
    ∃ device ∈ reservedDevices, stem.map lower = device.map lower := by
  simp [isReservedDosDevice, any_eq_true]

lemma spacedDevice_of_reserved {filename : Bytes} (h : isSafeFilename filename)
    (hrese : isReservedDosDevice (deviceStem filename)) : spacedDevice filename := by
  obtain ⟨-, hleng, hhead, hlast, hforb, hdevi⟩ := isSafeFilename_iff.mp h
  obtain ⟨device, hmem, heq⟩ := isReservedDosDevice_iff.mp hrese
  obtain ⟨spaces, hspac⟩ := eq_append_spaces (filename.takeWhile (· != 0x2e))
  have hstem : (filename.takeWhile (· != 0x2e)).map lower = device.map lower ++ replicate spaces 0x20 := by
    rw [hspac, map_append, ← heq, map_replicate]
    rfl
  cases spaces with
  | zero =>
    rw [replicate_zero, append_nil] at hstem
    exact absurd (isReservedDosDevice_iff.mpr ⟨device, hmem, hstem⟩) (by simp [hdevi])
  | succ spaces => exact ⟨⟨device, hmem, spaces, hstem⟩, hleng, hhead, hlast, hforb⟩

lemma safe_of_spacedDevice {filename : Bytes} (h : spacedDevice filename) :
    isSafeFilename filename ∧ isReservedDosDevice (deviceStem filename) := by
  obtain ⟨⟨device, hmem, spaces, hstem⟩, hleng, hhead, hlast, hforb⟩ := h
  refine ⟨isSafeFilename_iff.mpr ⟨?_, hleng, hhead, hlast, hforb, ?_⟩, ?_⟩
  · rintro rfl
    simp at hstem
  · refine Bool.eq_false_iff.mpr fun hrese => ?_
    obtain ⟨other, hother, heq⟩ := isReservedDosDevice_iff.mp hrese
    have htrim := device_trimmed hother
    rw [← heq, hstem, rdropWhile_append_spaces, device_trimmed hmem] at htrim
    simp at htrim
  · refine isReservedDosDevice_iff.mpr ⟨device, hmem, ?_⟩
    rw [deviceStem, ← rdropWhile_map_lower, hstem, rdropWhile_append_spaces, device_trimmed hmem]

lemma computeStagingPath_of_safe {filename : Bytes} (h : isSafeFilename filename) (baseDir : Path) :
    computeStagingPath baseDir filename = some (baseDir ++ [filename]) := by
  have hd : (literal "..").isPrefixOf filename = false := by
    obtain ⟨hn, -, hh, -⟩ := isSafeFilename_iff.mp h
    cases filename with
    | nil => exact absurd rfl hn
    | cons first rest =>
      refine Bool.eq_false_iff.mpr fun hp => ?_
      obtain ⟨tail, ht⟩ := isPrefixOf_iff_prefix.mp hp
      obtain rfl : 0x2e = first := (cons.inj ht).1
      exact absurd (show isSpaceOrDot 0x2e = false from hh) (by decide)
  simp [computeStagingPath, h, (component_of_safe h).components_eq, lexicallyRelative_append, hd]

/-- **File name safety**, exactly where no spaces stand between a device's name and the dot. -/
theorem fileNameSafety_iff (filename : Bytes) : FileNameSafety filename ↔ ¬ spacedDevice filename := by
  constructor
  · intro hsafety hspaced
    obtain ⟨hsafe, hreserved⟩ := safe_of_spacedDevice hspaced
    exact absurd hreserved (by simp [hsafety.device hsafe])
  · intro hspaced
    exact {
      safe := isSafeFilename_sanitizeFilename filename
      unchanged := sanitizeFilename_of_safe
      idempotent := sanitizeFilename_of_safe (isSafeFilename_sanitizeFilename filename)
      characters := fun h => (not_isForbidden_of_safe h).2.2
      ends := fun h => ⟨(isSafeFilename_iff.mp h).2.2.1, (isSafeFilename_iff.mp h).2.2.2.1⟩
      device := fun h => Bool.eq_false_iff.mpr fun hreserved => hspaced (spacedDevice_of_reserved h hreserved)
      child := computeStagingPath_of_safe }

/-- `con .txt` passes the check. -/
theorem fileNameSafety_con : ¬ FileNameSafety (literal "con .txt") := by
  intro hsafety
  exact absurd (hsafety.device (by decide)) (by decide)

end Nstu.Client.FileDistribution
