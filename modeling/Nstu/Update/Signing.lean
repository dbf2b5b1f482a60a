import Nstu.Update.Manifest

/-!
# Signed update manifests

`build_canonical_manifest_signing_payload`, `verify_manifest_signature` and
`verify_manifest_against_environment` of `update_manifest.cpp`.

The payload is a line for each field, and nothing in it is escaped.  One of the lines holds a URL, which
may be any text.  The lines in front of it are read from the front and those behind it from the back, so
that a payload belongs to one manifest only (`signingPayload_inj`).

What BCrypt does is a parameter.
-/

namespace Nstu.Update

open Wire CType Text JsonText List

/-- The operations of BCrypt on manifests. -/
structure Cryptography where
  sha256 : Bytes → Option Digest
  /-- A public key is imported, and a signature checked for a digest under it. -/
  verifySignature : Bytes → Digest → Bytes → Bool

/-! ## The payload -/

/-- The lines of the payload in front of the URL. -/
def leadingLines (manifest : UpdateManifest) : List Bytes :=
  [literal "schema:" ++ manifest.schemaVersion, literal "role:" ++ manifest.packageRole.toText,
    literal "version:" ++ manifest.version.toText,
    literal "min_supported_version:" ++ manifest.minSupportedVersion.toText]

/-- The lines of the payload behind the URL. -/
def trailingLines (manifest : UpdateManifest) : List Bytes :=
  [literal "byte_length:" ++ decimalText manifest.byteLength.toNat, literal "sha256:" ++ manifest.sha256Hex,
    literal "channel:" ++ manifest.channel.toText,
    literal "timestamp:" ++ decimalText manifest.releaseTimestampUtc.toNat,
    literal "rollout_percentage:" ++ decimalText manifest.rolloutPercentage.toNat,
    literal "min_windows_build:" ++ decimalText manifest.minWindowsBuild.toNat,
    literal "requires_reboot:" ++ literal (if manifest.requiresReboot then "1" else "0"),
    literal "key_id:" ++ decimalText manifest.keyId.toNat]

def buildCanonicalManifestSigningPayload (manifest : UpdateManifest) : Bytes :=
  (leadingLines manifest).flatMap endLine ++
    (endLine (literal "package_url:" ++ manifest.packageUrl) ++ (trailingLines manifest).flatMap endLine)

/-! ## Verification -/

def hexToBytes (hex : Bytes) : Option Bytes := hexPairs (hex.map UInt8.toNat)

section Verification

variable (cryptography : Cryptography)

def verifyManifestSignature (manifest : UpdateManifest) (publicKey : Bytes) : Bool :=
  if publicKey.isEmpty || manifest.signatureHex.isEmpty then false
  else match hexToBytes manifest.signatureHex with
  | none => false
  | some signature =>
    if signature.length ≠ 64 then false
    else match cryptography.sha256 (buildCanonicalManifestSigningPayload manifest) with
    | none => false
    | some digest => cryptography.verifySignature publicKey digest signature

/-- `compute_canary_bucket`: the first four bytes of the digest, most significant first. -/
def computeCanaryBucket (machineGuid : Bytes) : Option ℕ :=
  if machineGuid.isEmpty then none
  else (cryptography.sha256 machineGuid).map fun digest => leValue (digest.toList.take 4).reverse % 100

def isSha256Hex (hex : Bytes) : Bool := hex.length == 64 && hex.all fun byte => (hexDigit byte.toNat).isSome

/-- The gate of a rollout that is not complete. -/
def checkRollout (percentage : UInt32) (machineGuid : Bytes) : Option ManifestVerificationResult :=
  if percentage < 100 then
    match computeCanaryBucket cryptography machineGuid with
    | none =>
      some ⟨.rolloutDeferred, literal "Client machine GUID is missing or invalid for canary bucket determination"⟩
    | some bucket =>
      if percentage.toNat ≤ bucket then
        some ⟨.rolloutDeferred, literal "Client canary bucket (" ++ decimalText bucket ++
          literal ") is above release rollout percentage (" ++ decimalText percentage.toNat ++ literal "%)"⟩
      else none
  else none

def checkDigest (hex : Bytes) : Option ManifestVerificationResult :=
  if hex.length ≠ 64 then some ⟨.invalidDigest, literal "SHA-256 digest hex length must be exactly 64"⟩
  else if hex.all fun byte => (hexDigit byte.toNat).isSome then none
  else some ⟨.invalidDigest, literal "SHA-256 digest contains non-hexadecimal character"⟩

def verifyManifestAgainstEnvironment (manifest : UpdateManifest) (env : ClientEnvironment) (publicKey : Bytes) :
    ManifestVerificationResult :=
  if !verifyManifestSignature cryptography manifest publicKey then
    ⟨.invalidSignature, literal "Manifest signature is invalid or does not match public key"⟩
  else if manifest.packageRole ≠ env.installedRole then
    ⟨.roleMismatch, literal "Package role does not match installed role"⟩
  else if manifest.version.isLess env.currentVersion then
    ⟨.downgradeDetected, literal "Candidate version is lower than installed version (downgrade rejected)"⟩
  else if manifest.version = env.currentVersion ∧ env.allowSameVersion = false then
    ⟨.alreadyUpToDate,
      literal "Candidate version equals installed version (already up to date, reinstallation rejected)"⟩
  else if env.currentVersion.isLess manifest.minSupportedVersion then
    ⟨.belowMinimumSupportedVersion, literal "Installed version is below candidate minimum supported version"⟩
  else if env.currentWindowsBuild < manifest.minWindowsBuild then
    ⟨.incompatibleOsBuild, literal "Current Windows build is below candidate minimum requirement"⟩
  else if manifest.rolloutPercentage > 100 then
    ⟨.invalidRolloutPercentage, literal "Rollout percentage must be in [0, 100]"⟩
  else match checkRollout cryptography manifest.rolloutPercentage env.machineGuid with
  | some result => result
  | none =>
    match checkDigest manifest.sha256Hex with
    | some result => result
    | none =>
      if !(literal "https://").isPrefixOf manifest.packageUrl &&
          (!env.allowInsecureHttp || !(literal "http://").isPrefixOf manifest.packageUrl) then
        ⟨.invalidUrl, literal "Package URL must use secure https:// transport"⟩
      else ⟨.ok, []⟩

end Verification

/-! ## The lines are free of line feeds -/

lemma lineFeed_not_mem_toText (version : SemanticVersion) : lineFeed ∉ version.toText := by
  simp [SemanticVersion.toText, not_mem_decimalText (show isDigit lineFeed = false from rfl),
    show lineFeed ≠ 0x2e from by decide]

variable {hex : Bytes}

lemma lineFeed_not_mem_hex (h : isSha256Hex hex) : lineFeed ∉ hex := by
  intro hm
  rw [isSha256Hex, Bool.and_eq_true] at h
  have := all_eq_true.mp h.2 lineFeed hm
  simp [hexDigit, lineFeed] at this

lemma lineFeed_not_mem_append {label value : Bytes} (hl : lineFeed ∉ label) (hv : lineFeed ∉ value) :
    lineFeed ∉ label ++ value := by
  simp [hl, hv]

variable {manifest : UpdateManifest}

lemma leadingLines_free (h : manifest.schemaVersion = literal "1.0") :
    ∀ line ∈ leadingLines manifest, lineFeed ∉ line := by
  simp only [leadingLines, mem_cons, not_mem_nil, or_false, forall_eq_or_imp, forall_eq]
  refine ⟨?_, ?_, ?_, ?_⟩
  · rw [h]
    decide
  · cases manifest.packageRole <;> decide
  · exact lineFeed_not_mem_append (by decide) (lineFeed_not_mem_toText _)
  · exact lineFeed_not_mem_append (by decide) (lineFeed_not_mem_toText _)

lemma trailingLines_free (h : isSha256Hex manifest.sha256Hex) :
    ∀ line ∈ trailingLines manifest, lineFeed ∉ line := by
  have hn : ∀ value, lineFeed ∉ decimalText value := not_mem_decimalText rfl
  simp only [trailingLines, mem_cons, not_mem_nil, or_false, forall_eq_or_imp, forall_eq]
  refine ⟨?_, ?_, ?_, ?_, ?_, ?_, ?_, ?_⟩
  · exact lineFeed_not_mem_append (by decide) (hn _)
  · exact lineFeed_not_mem_append (by decide) (lineFeed_not_mem_hex h)
  · cases manifest.channel <;> decide
  · exact lineFeed_not_mem_append (by decide) (hn _)
  · exact lineFeed_not_mem_append (by decide) (hn _)
  · exact lineFeed_not_mem_append (by decide) (hn _)
  · cases manifest.requiresReboot <;> decide
  · exact lineFeed_not_mem_append (by decide) (hn _)

/-! ## A payload belongs to one manifest -/

lemma toText_injective : Function.Injective SemanticVersion.toText := by
  intro version version' h
  have hd : ∀ value, (0x2e : UInt8) ∉ decimalText value := not_mem_decimalText rfl
  simp only [SemanticVersion.toText] at h
  obtain ⟨hm, h⟩ := append_separator_inj (hd _) (hd _) h
  obtain ⟨hmi, hp⟩ := append_separator_inj (hd _) (hd _) h
  cases version
  cases version'
  simpa [UInt32.toNat_inj] using And.intro (decimalText_injective hm)
    (And.intro (decimalText_injective hmi) (decimalText_injective hp))

lemma packageRole_toText_injective : Function.Injective PackageRole.toText := by
  intro role role' h
  cases role <;> cases role' <;> first | rfl | exact absurd h (by decide)

lemma channel_toText_injective : Function.Injective ReleaseChannel.toText := by
  intro channel channel' h
  cases channel <;> cases channel' <;> first | rfl | exact absurd h (by decide)

lemma flag_injective : Function.Injective fun flag : Bool => literal (if flag then "1" else "0") := by
  intro flag flag' h
  cases flag <;> cases flag' <;> first | rfl | exact absurd h (by decide)

/-- **The payload says everything but the signature.** -/
theorem signingPayload_inj {manifest' : UpdateManifest}
    (hsche : manifest.schemaVersion = literal "1.0") (hsche' : manifest'.schemaVersion = literal "1.0")
    (hdige : isSha256Hex manifest.sha256Hex) (hdige' : isSha256Hex manifest'.sha256Hex)
    (h : buildCanonicalManifestSigningPayload manifest = buildCanonicalManifestSigningPayload manifest') :
    { manifest with signatureHex := [] } = { manifest' with signatureHex := [] } := by
  have hfree : ∀ line ∈ leadingLines manifest ++ trailingLines manifest, lineFeed ∉ line :=
    forall_mem_append.mpr ⟨leadingLines_free hsche, trailingLines_free hdige⟩
  have hfree' : ∀ line ∈ leadingLines manifest' ++ trailingLines manifest', lineFeed ∉ line :=
    forall_mem_append.mpr ⟨leadingLines_free hsche', trailingLines_free hdige'⟩
  have hlead : (leadingLines manifest).length = (leadingLines manifest').length := rfl
  have htrai : (trailingLines manifest).length = (trailingLines manifest').length := rfl
  obtain ⟨hleadi, hurl, htrail⟩ := printedLines_inj hlead htrai hfree hfree' h
  simp only [leadingLines, cons.injEq, append_cancel_left_eq, and_true] at hleadi
  simp only [trailingLines, cons.injEq, append_cancel_left_eq, and_true] at htrail
  obtain ⟨-, hrole, hvers, hmini⟩ := hleadi
  obtain ⟨hleng, hhex, hchan, htime, hroll, hbuild, hrebo, hkey⟩ := htrail
  cases manifest
  cases manifest'
  simp only [UpdateManifest.mk.injEq, and_true]
  exact ⟨hsche.trans hsche'.symm, packageRole_toText_injective hrole, toText_injective hvers,
    toText_injective hmini, append_cancel_left hurl, UInt64.toNat_inj.mp (decimalText_injective hleng), hhex,
    channel_toText_injective hchan, UInt64.toNat_inj.mp (decimalText_injective htime),
    UInt32.toNat_inj.mp (decimalText_injective hroll), UInt32.toNat_inj.mp (decimalText_injective hbuild),
    flag_injective hrebo, UInt32.toNat_inj.mp (decimalText_injective hkey)⟩

/-! ## A signature covers one manifest -/

variable {result : ManifestVerificationResult}

lemma checkRollout_error_ne_ok {cryptography : Cryptography} {percentage : UInt32} {machineGuid : Bytes}
    (h : checkRollout cryptography percentage machineGuid = some result) : result.error ≠ .ok := by
  rw [checkRollout] at h
  split at h
  · split at h
    · simp [← Option.some.inj h]
    · split_ifs at h
      simp [← Option.some.inj h]
  · contradiction

lemma checkDigest_error_ne_ok (h : checkDigest hex = some result) : result.error ≠ .ok := by
  rw [checkDigest] at h
  split_ifs at h
  all_goals simp [← Option.some.inj h]

lemma isSha256Hex_of_checkDigest (h : checkDigest hex = none) : isSha256Hex hex := by
  rw [checkDigest] at h
  split_ifs at h with hl ha
  simp only [isSha256Hex, ha, Bool.and_true, beq_iff_eq]
  exact not_not.mp hl

variable {publicKey : Bytes}

lemma verified_of_ok {cryptography : Cryptography} {env : ClientEnvironment}
    (h : (verifyManifestAgainstEnvironment cryptography manifest env publicKey).error = .ok) :
    verifyManifestSignature cryptography manifest publicKey ∧ isSha256Hex manifest.sha256Hex := by
  rw [verifyManifestAgainstEnvironment] at h
  by_cases hs : verifyManifestSignature cryptography manifest publicKey
  · refine ⟨hs, ?_⟩
    rw [hs] at h
    iterate 7
      split at h
      · contradiction
    split at h
    · rename_i hr
      exact absurd h (checkRollout_error_ne_ok hr)
    · split at h
      · rename_i hd
        exact absurd h (checkDigest_error_ne_ok hd)
      · rename_i hd
        exact isSha256Hex_of_checkDigest hd
  · rw [Bool.not_eq_true] at hs
    rw [hs] at h
    contradiction

lemma exists_of_verifyManifestSignature {cryptography : Cryptography}
    (h : verifyManifestSignature cryptography manifest publicKey) :
    ∃ signature digest, hexToBytes manifest.signatureHex = some signature ∧
      cryptography.sha256 (buildCanonicalManifestSigningPayload manifest) = some digest ∧
      cryptography.verifySignature publicKey digest signature := by
  rw [verifyManifestSignature] at h
  split at h
  · contradiction
  · split at h
    · contradiction
    · rename_i signature hs
      split at h
      · contradiction
      · split at h
        · contradiction
        · rename_i digest hd
          exact ⟨signature, digest, hs, hd, h⟩

/-- A signature made for the first manifest: it verifies for the digest of that one, and for the digest
of the second only where this is the same. -/
structure MadeFor (cryptography : Cryptography) (publicKey : Bytes) (manifest manifest' : UpdateManifest)
    (signature : Bytes) : Prop where
  signs : ∃ digest, cryptography.sha256 (buildCanonicalManifestSigningPayload manifest) = some digest ∧
    cryptography.verifySignature publicKey digest signature = true
  unforged : ∀ digest digest', cryptography.sha256 (buildCanonicalManifestSigningPayload manifest) = some digest →
    cryptography.sha256 (buildCanonicalManifestSigningPayload manifest') = some digest' →
    cryptography.verifySignature publicKey digest' signature = true → digest' = digest

/-- The two payloads are not a collision of the digest. -/
def NoCollision (cryptography : Cryptography) (payload payload' : Bytes) : Prop :=
  ∀ digest, cryptography.sha256 payload = some digest → cryptography.sha256 payload' = some digest →
    payload = payload'

/-- **A signature covers one manifest only.**  Imported manifests of one payload are the same but for the
signature, whatever their URLs hold; and a signature made for one of them is accepted for no other. -/
theorem signature_covers_one {json json' : Bytes} {manifest manifest' : UpdateManifest}
    (himport : importUpdateManifestJson json = .ok manifest) (himport' : importUpdateManifestJson json' = .ok manifest')
    (hdigest : isSha256Hex manifest.sha256Hex = true) (hdigest' : isSha256Hex manifest'.sha256Hex = true) :
    (buildCanonicalManifestSigningPayload manifest = buildCanonicalManifestSigningPayload manifest' →
      { manifest with signatureHex := [] } = { manifest' with signatureHex := [] }) ∧
    ∀ (cryptography : Cryptography) (publicKey signature : Bytes) (env : ClientEnvironment),
      NoCollision cryptography (buildCanonicalManifestSigningPayload manifest)
        (buildCanonicalManifestSigningPayload manifest') →
      MadeFor cryptography publicKey manifest manifest' signature → hexToBytes manifest'.signatureHex = some signature →
      (verifyManifestAgainstEnvironment cryptography manifest' env publicKey).error = .ok →
      { manifest with signatureHex := [] } = { manifest' with signatureHex := [] } := by
  have hinj := signingPayload_inj (importUpdateManifestJson_schemaVersion himport)
    (importUpdateManifestJson_schemaVersion himport') hdigest hdigest'
  refine ⟨hinj, ?_⟩
  intro cryptography publicKey signature env hcollision hmade hsignature haccepted
  obtain ⟨signature', digest, hsignature', hsha, hverified⟩ :=
    exists_of_verifyManifestSignature (verified_of_ok haccepted).1
  obtain rfl := Option.some.inj (hsignature.symm.trans hsignature')
  obtain ⟨made, hmade', -⟩ := hmade.signs
  obtain rfl := hmade.unforged made digest hmade' hsha hverified
  exact hinj (hcollision digest hmade' hsha)

/-! ## A release and its signature in capitals -/

section Release

/-- A manifest with the given signature, for a URL with a line feed in it. -/
def releaseJson (signature : Bytes) : Bytes :=
  literal "\x7b\"package_role\":\"client\",\"version\":\"1.2.3\",\"package_url\":\"https://a\\nb\",\"byte_length\":7," ++
    literal "\"sha256_hex\":\"" ++ List.replicate 64 0x61 ++ literal "\",\"channel\":\"pilot\"," ++
    literal "\"min_windows_build\":17763,\"release_timestamp_utc\":9,\"signature_hex\":\"" ++ signature ++
    literal "\"\x7d"

def release (signature : Bytes) : UpdateManifest :=
  { version := ⟨1, 2, 3⟩
    packageUrl := literal "https://a\nb"
    byteLength := 7
    sha256Hex := List.replicate 64 0x61
    channel := .pilot
    releaseTimestampUtc := 9
    signatureHex := signature }

/-- The public key of the release, X in front of Y, as a little-endian number. -/
def releaseKey : Bytes := leBytes 64 <|
  0x5ca0ac4595fb6ce9e85408ed64135b007668ad6f37ea56e5b7fcdda3b8240d1a * 2 ^ 256 +
    0xadf3f03fb5284add02adb75ba878fc3064a5c819cba950c33147d7360928c466

/-- The signature of the release under that key, r in front of s. -/
def releaseSignature : Bytes := leBytes 64 <|
  0xe998707fb188ba1ac81d385f8aea5ee7d7ea6e8b142c360a353f6cc7440d6d25 * 2 ^ 256 +
    0x3d0ee44fa7aae78a271b54a697650566dce75482cb73caf5c77dc46fe2de6b5f

/-- That signature in hexadecimal. -/
def signatureHex : Bytes :=
  literal "5f6bdee26fc47dc7f5ca73cb8254e7dc66056597a6541b278ae7aaa74fe40e3d" ++
    literal "256d0d44c76c3f350a362c148b6eead7e75eea8a5f381dc81aba88b17f7098e9"

/-- The same in capitals. -/
def capitalHex : Bytes :=
  literal "5F6BDEE26FC47DC7F5CA73CB8254E7DC66056597A6541B278AE7AAA74FE40E3D" ++
    literal "256D0D44C76C3F350A362C148B6EEAD7E75EEA8A5F381DC81ABA88B17F7098E9"

lemma import_release : importUpdateManifestJson (releaseJson signatureHex) = .ok (release signatureHex) ∧
      importUpdateManifestJson (releaseJson capitalHex) = .ok (release capitalHex) := by
  decide +kernel

/-- SHA-256 of the payload of the release. -/
def releaseDigest : Digest :=
  ⟨leBytes 32 0x36951fb08c5d90ec03c8008006d07c5e193bf7b5b9327c598770b14049036ee9, leBytes_length _ _⟩

/-- SHA-256 of that payload, and ECDSA P-256 for that digest and signature. -/
def releaseCryptography : Cryptography where
  sha256 text := if text = buildCanonicalManifestSigningPayload (release []) then some releaseDigest else none
  verifySignature publicKey digest signature :=
    publicKey == releaseKey && digest == releaseDigest && signature == releaseSignature

lemma signingPayload_release (signature : Bytes) : buildCanonicalManifestSigningPayload (release signature) =
    buildCanonicalManifestSigningPayload (release []) := by
  simp only [buildCanonicalManifestSigningPayload, leadingLines, trailingLines, release]

lemma sha256_release (signature : Bytes) :
    releaseCryptography.sha256 (buildCanonicalManifestSigningPayload (release signature)) = some releaseDigest := by
  rw [signingPayload_release]
  simp only [releaseCryptography, if_true]

/-- The signature of a release is accepted in capitals, for a manifest that says the same. -/
theorem signature_covers_one_release : { release signatureHex with signatureHex := [] } =
        { release capitalHex with signatureHex := [] } ∧
      (verifyManifestAgainstEnvironment releaseCryptography (release capitalHex)
        { machineGuid := literal "guid" } releaseKey).error = .ok := by
  have haccepted : (verifyManifestAgainstEnvironment releaseCryptography (release capitalHex)
      { machineGuid := literal "guid" } releaseKey).error = .ok := by decide +kernel
  have hcovers := (signature_covers_one import_release.1 import_release.2 rfl rfl).2 releaseCryptography
    releaseKey releaseSignature { machineGuid := literal "guid" }
  refine ⟨hcovers ?_ ⟨⟨releaseDigest, sha256_release _, by decide +kernel⟩, ?_⟩ (by decide +kernel)
    haccepted, haccepted⟩
  · intro digest _ _
    rw [signingPayload_release signatureHex, signingPayload_release capitalHex]
  · intro digest digest' hdigest hdigest' _
    rw [sha256_release] at hdigest hdigest'
    exact Option.some.inj (hdigest'.symm.trans hdigest)

end Release

end Nstu.Update
