import Nstu.Update.Reader
import Nstu.Exam.Types

/-!
# Versions and update manifests

The declarations of `update_manifest.hpp` and what parses and prints them.
-/

namespace Nstu.Update

open Wire CType Text JsonText

inductive PackageRole where
  | client
  | server
  deriving DecidableEq

def PackageRole.toText : PackageRole → Bytes
  | .client => literal "client"
  | .server => literal "server"

def parsePackageRole (text : Bytes) : Option PackageRole :=
  if text = literal "client" then some .client
  else if text = literal "server" then some .server
  else none

inductive ReleaseChannel where
  | ltscStable
  | security
  | pilot
  deriving DecidableEq

def ReleaseChannel.toText : ReleaseChannel → Bytes
  | .ltscStable => literal "ltsc-stable"
  | .security => literal "security"
  | .pilot => literal "pilot"

def parseReleaseChannel (text : Bytes) : Option ReleaseChannel :=
  if text = literal "ltsc-stable" then some .ltscStable
  else if text = literal "security" then some .security
  else if text = literal "pilot" then some .pilot
  else none

/-! ## Versions -/

structure SemanticVersion where
  major : UInt32 := 0
  minor : UInt32 := 0
  patch : UInt32 := 0
  deriving DecidableEq

namespace SemanticVersion

/-- `<` of the default comparison, field by field. -/
def isLess (version other : SemanticVersion) : Bool :=
  version.major < other.major || (version.major = other.major &&
      (version.minor < other.minor || (version.minor = other.minor && version.patch < other.patch)))

/-- `to_string()`. -/
def toText (version : SemanticVersion) : Bytes :=
  decimalText version.major.toNat ++ 0x2e :: (decimalText version.minor.toNat ++
    0x2e :: decimalText version.patch.toNat)

/-- The loop of `parse`: the parts that are complete, the digits read since, and whether there are any. -/
def scan : List UInt32 → ℕ → Bool → Bytes → Option SemanticVersion
  | parts, current, hasDigit, [] =>
    match hasDigit, parts with
    | true, [major, minor] => some ⟨major, minor, UInt32.ofNat current⟩
    | _, _ => none
  | parts, current, hasDigit, byte :: rest =>
    if isDigit byte then
      match addDigit (2 ^ 32 - 1) current byte with
      | none => none
      | some current => scan parts current true rest
    else if byte = 0x2e then
      if !hasDigit || 2 ≤ parts.length then none
      else scan (parts ++ [UInt32.ofNat current]) 0 false rest
    else none

def parse (text : Bytes) : Option SemanticVersion := if text.isEmpty then none else scan [] 0 false text

lemma scan_digits {digits : Bytes} (hd : ∀ byte ∈ digits, isDigit byte) {current value : ℕ}
    (hf : digits.foldlM (addDigit (2 ^ 32 - 1)) current = some value) (parts : List UInt32) (ha : Bool)
    (rest : Bytes) : scan parts current ha (digits ++ rest) = scan parts value (ha || !digits.isEmpty) rest := by
  induction digits generalizing current ha with
  | nil =>
    obtain rfl := Option.some.inj hf
    simp
  | cons byte digits ih =>
    rw [List.foldlM_cons, Option.bind_eq_bind, Option.bind_eq_some_iff] at hf
    obtain ⟨next, had, hf⟩ := hf
    rw [List.cons_append, scan, if_pos (hd byte (List.mem_cons_self ..)), had]
    dsimp only
    rw [ih (fun byte hb => hd byte (List.mem_cons_of_mem _ hb)) hf]
    simp

lemma scan_decimalText (part : UInt32) (parts : List UInt32) (rest : Bytes) :
    scan parts 0 false (decimalText part.toNat ++ rest) = scan parts part.toNat true rest := by
  have hd : ∀ byte ∈ decimalText part.toNat, isDigit byte := fun byte h => isDigit_of_mem_decimalText h
  have hv : digitsValue (decimalText part.toNat) ≤ 2 ^ 32 - 1 := by
    rw [digitsValue_decimalText]
    exact Nat.le_sub_one_of_lt part.toNat_lt
  have hf := foldlM_addDigit hd 0 hv
  rw [← digitsValue, digitsValue_decimalText] at hf
  have hn : (decimalText part.toNat).isEmpty = false :=
    List.isEmpty_eq_false_iff.mpr (decimalText_ne_nil part.toNat)
  rw [scan_digits hd hf, hn]
  rfl

/-- **A version is read back from its text.** -/
lemma parse_toText (version : SemanticVersion) : parse version.toText = some version := by
  have hn : version.toText.isEmpty = false := by simp [toText]
  rw [parse, hn, if_neg (by decide), toText, scan_decimalText, scan, if_neg (by decide), if_pos rfl,
    if_neg (by decide), scan_decimalText, scan, if_neg (by decide), if_pos rfl, if_neg (by simp),
    ← List.append_nil (decimalText version.patch.toNat), scan_decimalText]
  change some (SemanticVersion.mk _ _ _) = _
  simp only [UInt32.ofNat_toNat]

end SemanticVersion

/-! ## Manifests -/

structure UpdateManifest where
  schemaVersion : Bytes := literal "1.0"
  packageRole : PackageRole := .client
  version : SemanticVersion := {}
  minSupportedVersion : SemanticVersion := {}
  packageUrl : Bytes := []
  byteLength : UInt64 := 0
  sha256Hex : Bytes := []
  channel : ReleaseChannel := .ltscStable
  releaseTimestampUtc : UInt64 := 0
  rolloutPercentage : UInt32 := 100
  minWindowsBuild : UInt32 := 17763
  requiresReboot : Bool := true
  keyId : UInt32 := 1
  signatureHex : Bytes := []
  deriving DecidableEq

structure ClientEnvironment where
  installedRole : PackageRole := .client
  currentVersion : SemanticVersion := {}
  currentWindowsBuild : UInt32 := 19045
  machineGuid : Bytes
  allowSameVersion : Bool := false
  allowInsecureHttp : Bool := false

inductive ManifestVerificationError where
  | ok
  | invalidJson
  | unsupportedSchema
  | roleMismatch
  | downgradeDetected
  | belowMinimumSupportedVersion
  | incompatibleOsBuild
  | invalidDigest
  | invalidSignature
  | rolloutDeferred
  | invalidUrl
  | invalidRolloutPercentage
  | oversizedManifest
  | missingRequiredField
  | alreadyUpToDate
  deriving DecidableEq

structure ManifestVerificationResult where
  error : ManifestVerificationError := .ok
  errorMessage : Bytes := []
  deriving DecidableEq

end Nstu.Update
