import Nstu.Update.Types

/-!
# The import of an update manifest

`import_update_manifest_json` of `update_manifest.cpp`.
-/

namespace Nstu.Update

open Wire CType Text JsonText

def kMaxManifestBytes : ℕ := 64 * 1024

/-! ## One member -/

/-- Which of the required members have been read. -/
structure SeenFields where
  role : Bool := false
  version : Bool := false
  url : Bool := false
  sha256 : Bool := false
  byteLength : Bool := false
  channel : Bool := false
  minWindowsBuild : Bool := false
  releaseTimestampUtc : Bool := false

/-- What the loop of the import carries along. -/
structure ImportState where
  manifest : UpdateManifest := {}
  seen : SeenFields := {}

def invalidJson (message : Bytes) : ManifestVerificationResult := ⟨.invalidJson, message⟩

def orInvalid {α : Type} (message : Bytes) : Option α → Except ManifestVerificationResult α
  | none => .error (invalidJson message)
  | some value => .ok value

open JsonReader

/-- A member whose value is a string that the given function has to take. -/
def readText {α : Type} (parse : Bytes → Except ManifestVerificationResult α) (set : α → ImportState)
    (input : Bytes) : Except ManifestVerificationResult (ImportState × Bytes) := do
  let (text, rest) ← orInvalid [] (parseString input)
  let value ← parse text
  return (set value, rest)

/-- A member whose value one of the readers takes. -/
def readWith {α : Type} (reader : Bytes → Option (α × Bytes)) (set : α → ImportState)
    (input : Bytes) : Except ManifestVerificationResult (ImportState × Bytes) := do
  let (value, rest) ← orInvalid [] (reader input)
  return (set value, rest)

def checkSchemaVersion (text : Bytes) : Except ManifestVerificationResult Bytes :=
  if text ≠ literal "1.0" then .error ⟨.unsupportedSchema, literal "Unsupported schema_version: " ++ text⟩
  else .ok text

def checkPackageRole (text : Bytes) : Except ManifestVerificationResult PackageRole :=
  orInvalid (literal "Invalid package_role: " ++ text) (parsePackageRole text)

def checkVersion (text : Bytes) : Except ManifestVerificationResult SemanticVersion :=
  orInvalid (literal "Invalid version format: " ++ text) (SemanticVersion.parse text)

def checkChannel (text : Bytes) : Except ManifestVerificationResult ReleaseChannel :=
  orInvalid (literal "Invalid channel: " ++ text) (parseReleaseChannel text)

/-- The members that the import knows. -/
inductive ManifestField where
  | schemaVersion
  | packageRole
  | version
  | minSupportedVersion
  | packageUrl
  | byteLength
  | sha256Hex
  | channel
  | releaseTimestampUtc
  | rolloutPercentage
  | minWindowsBuild
  | requiresReboot
  | keyId
  | signatureHex
  deriving DecidableEq

/-- The member that a key names, by the comparisons of the import in their order. -/
def manifestField (key : Bytes) : Option ManifestField :=
  if key = literal "schema_version" then some .schemaVersion
  else if key = literal "package_role" then some .packageRole
  else if key = literal "version" then some .version
  else if key = literal "min_supported_version" then some .minSupportedVersion
  else if key = literal "package_url" then some .packageUrl
  else if key = literal "byte_length" then some .byteLength
  else if key = literal "sha256_hex" then some .sha256Hex
  else if key = literal "channel" then some .channel
  else if key = literal "release_timestamp_utc" then some .releaseTimestampUtc
  else if key = literal "rollout_percentage" then some .rolloutPercentage
  else if key = literal "min_windows_build" then some .minWindowsBuild
  else if key = literal "requires_reboot" then some .requiresReboot
  else if key = literal "key_id" then some .keyId
  else if key = literal "signature_hex" then some .signatureHex
  else none

/-- The value of a member. -/
def readField (state : ImportState) (input : Bytes) :
    ManifestField → Except ManifestVerificationResult (ImportState × Bytes)
  | .schemaVersion =>
    readText checkSchemaVersion (fun text => ⟨{ state.manifest with schemaVersion := text }, state.seen⟩) input
  | .packageRole =>
    readText checkPackageRole
      (fun role => ⟨{ state.manifest with packageRole := role }, { state.seen with role := true }⟩) input
  | .version =>
    readText checkVersion
      (fun version => ⟨{ state.manifest with version := version }, { state.seen with version := true }⟩) input
  | .minSupportedVersion =>
    readText checkVersion (fun version => ⟨{ state.manifest with minSupportedVersion := version }, state.seen⟩) input
  | .packageUrl =>
    readWith parseString
      (fun url => ⟨{ state.manifest with packageUrl := url }, { state.seen with url := true }⟩) input
  | .byteLength =>
    readWith parseUint64
      (fun length => ⟨{ state.manifest with byteLength := length }, { state.seen with byteLength := true }⟩) input
  | .sha256Hex =>
    readWith parseString
      (fun hex => ⟨{ state.manifest with sha256Hex := hex }, { state.seen with sha256 := true }⟩) input
  | .channel =>
    readText checkChannel
      (fun channel => ⟨{ state.manifest with channel := channel }, { state.seen with channel := true }⟩) input
  | .releaseTimestampUtc =>
    readWith parseUint64 (fun time => ⟨{ state.manifest with releaseTimestampUtc := time },
        { state.seen with releaseTimestampUtc := true }⟩) input
  | .rolloutPercentage =>
    readWith parseUint32
      (fun percentage => ⟨{ state.manifest with rolloutPercentage := percentage }, state.seen⟩) input
  | .minWindowsBuild =>
    readWith parseUint32 (fun build => ⟨{ state.manifest with minWindowsBuild := build },
        { state.seen with minWindowsBuild := true }⟩) input
  | .requiresReboot =>
    readWith parseBool (fun reboot => ⟨{ state.manifest with requiresReboot := reboot }, state.seen⟩) input
  | .keyId =>
    readWith parseUint32 (fun id => ⟨{ state.manifest with keyId := id }, state.seen⟩) input
  | .signatureHex =>
    readWith parseString (fun hex => ⟨{ state.manifest with signatureHex := hex }, state.seen⟩) input

/-- The value behind a key. -/
def readValue (state : ImportState) (key input : Bytes) : Except ManifestVerificationResult (ImportState × Bytes) :=
  match manifestField key with
  | some field => readField state input field
  | none => do
    let rest ← orInvalid (literal "Malformed value for unknown key") (skipValue input)
    return (state, rest)

/-- A key with its value. -/
def readEntry (state : ImportState) (input : Bytes) : Except ManifestVerificationResult (ImportState × Bytes) := do
  let (key, rest) ← orInvalid (literal "Failed to parse key") (parseString input)
  let rest ← orInvalid (literal "Failed to parse key") (matchChar 0x3a rest)
  readValue state key rest

/-- What has to follow behind a member. -/
def readSeparator (input : Bytes) : Except ManifestVerificationResult Bytes :=
  match matchChar 0x2c input with
  | some rest =>
    if (skipWhitespace rest).head? = some 0x7d then
      .error (invalidJson (literal "Trailing comma not allowed in manifest JSON"))
    else .ok rest
  | none =>
    match skipWhitespace input with
    | [] => .ok []
    | byte :: rest =>
      if byte ≠ 0x7d then
        .error (invalidJson (literal "Missing comma separator between object entries"))
      else .ok (byte :: rest)

/-! ## Reading goes forward -/

/-- What the reader leaves is no longer than its input. -/
def Forward {α : Type} (reader : Bytes → Option (α × Bytes)) : Prop :=
  ∀ input value rest, reader input = some (value, rest) → rest.length ≤ input.length

lemma forward_parseString : Forward parseString :=
  fun _ _ _ h => (length_parseString h).le

lemma forward_parseUint64 : Forward parseUint64 := by
  intro input value rest h
  simp only [parseUint64, Option.map_eq_some_iff, Prod.mk.injEq, Prod.exists] at h
  obtain ⟨_, _, hd, _, rfl⟩ := h
  exact (length_parseDigits hd).trans (length_skipWhitespace input)

lemma forward_parseUint32 : Forward parseUint32 := by
  intro input value rest h
  rw [parseUint32] at h
  split at h
  · contradiction
  · rename_i hr
    split_ifs at h
    obtain ⟨_, rfl⟩ := Prod.mk.inj (Option.some.inj h)
    exact forward_parseUint64 _ _ _ hr

lemma forward_parseBool : Forward parseBool := by
  intro input value rest h
  have hl := length_skipWhitespace input
  simp only [parseBool] at h
  split_ifs at h
  all_goals
    obtain ⟨_, rfl⟩ := Prod.mk.inj (Option.some.inj h)
    rw [List.length_drop]
    omega

variable {α : Type}

lemma orInvalid_eq_ok {message : Bytes} {result : Option α} {value : α} :
    orInvalid message result = .ok value ↔ result = some value := by
  cases result <;> simp [orInvalid]

variable {input rest : Bytes} {state : ImportState}

lemma readText_eq_ok {parse : Bytes → Except ManifestVerificationResult α} {set : α → ImportState} :
    readText parse set input = .ok (state, rest) ↔
      ∃ text value, parseString input = some (text, rest) ∧ parse text = .ok value ∧ set value = state := by
  simp only [readText, Parser.bind_eq_ok_iff, orInvalid_eq_ok, Prod.exists, Pure.pure, Except.pure, Except.ok.injEq,
    Prod.mk.injEq]
  constructor
  · rintro ⟨text, _, hr, value, hp, hs, rfl⟩
    exact ⟨text, value, hr, hp, hs⟩
  · rintro ⟨text, value, hr, hp, hs⟩
    exact ⟨text, rest, hr, value, hp, hs, rfl⟩

lemma readWith_eq_ok {reader : Bytes → Option (α × Bytes)} {set : α → ImportState} :
    readWith reader set input = .ok (state, rest) ↔ ∃ value, reader input = some (value, rest) ∧ set value = state := by
  simp only [readWith, Parser.bind_eq_ok_iff, orInvalid_eq_ok, Prod.exists, Pure.pure, Except.pure, Except.ok.injEq,
    Prod.mk.injEq]
  constructor
  · rintro ⟨value, _, hr, hs, rfl⟩
    exact ⟨value, hr, hs⟩
  · rintro ⟨value, hr, hs⟩
    exact ⟨value, rest, hr, hs, rfl⟩

lemma length_readText {parse : Bytes → Except ManifestVerificationResult α} {set : α → ImportState}
    (h : readText parse set input = .ok (state, rest)) : rest.length ≤ input.length := by
  obtain ⟨text, value, hr, -, -⟩ := readText_eq_ok.mp h
  exact forward_parseString _ _ _ hr

lemma length_readWith {reader : Bytes → Option (α × Bytes)} {set : α → ImportState}
    (h : readWith reader set input = .ok (state, rest)) (hr : Forward reader) : rest.length ≤ input.length := by
  obtain ⟨value, hre, -⟩ := readWith_eq_ok.mp h
  exact hr _ _ _ hre

variable {state' : ImportState} {field : ManifestField}

lemma length_readField (h : readField state input field = .ok (state', rest)) : rest.length ≤ input.length := by
  cases field with
  | schemaVersion | packageRole | version | minSupportedVersion | channel => exact length_readText h
  | packageUrl | sha256Hex | signatureHex =>
    rw [readField] at h
    exact length_readWith h forward_parseString
  | byteLength | releaseTimestampUtc =>
    rw [readField] at h
    exact length_readWith h forward_parseUint64
  | rolloutPercentage | minWindowsBuild | keyId =>
    rw [readField] at h
    exact length_readWith h forward_parseUint32
  | requiresReboot =>
    rw [readField] at h
    exact length_readWith h forward_parseBool

variable {key : Bytes}

lemma readValue_eq_ok (h : readValue state key input = .ok (state', rest)) :
    (∃ field, readField state input field = .ok (state', rest)) ∨
      (skipValue input = some rest ∧ state' = state) := by
  rw [readValue] at h
  split at h
  · exact .inl ⟨_, h⟩
  · simp only [Parser.bind_eq_ok_iff, orInvalid_eq_ok, Pure.pure, Except.pure, Except.ok.injEq, Prod.mk.injEq] at h
    obtain ⟨_, hs, hst, rfl⟩ := h
    exact .inr ⟨hs, hst.symm⟩

lemma length_readValue (h : readValue state key input = .ok (state', rest)) : rest.length ≤ input.length := by
  rcases readValue_eq_ok h with ⟨field, hf⟩ | ⟨hs, -⟩
  · exact length_readField hf
  · exact length_skipValue hs

lemma length_readEntry (h : readEntry state input = .ok (state', rest)) : rest.length < input.length := by
  simp only [readEntry, Parser.bind_eq_ok_iff, orInvalid_eq_ok, Prod.exists] at h
  obtain ⟨key, behindKey, hk, behindColon, hc, hv⟩ := h
  have := length_parseString hk
  have := length_matchChar hc
  have := length_readValue hv
  omega

lemma length_readSeparator (h : readSeparator input = .ok rest) : rest.length ≤ input.length := by
  have hl := length_skipWhitespace input
  rw [readSeparator] at h
  split at h
  · rename_i behind hc
    split_ifs at h
    rw [← Except.ok.inj h]
    exact (length_matchChar hc).le
  · split at h
    · simp [← Except.ok.inj h]
    · rename_i byte tail hi
      split_ifs at h
      rw [← Except.ok.inj h, ← hi]
      exact hl

/-! ## The whole manifest -/

/-- The loop of the import. -/
def importEntries (state : ImportState) (input : Bytes) : Except ManifestVerificationResult (ImportState × Bytes) :=
  match matchChar 0x7d input with
  | some rest => .ok (state, rest)
  | none =>
    match _hentry : readEntry state input with
    | .error result => .error result
    | .ok (state, behind) =>
      match _hseparator : readSeparator behind with
      | .error result => .error result
      | .ok rest => importEntries state rest
  termination_by input.length
  decreasing_by
    exact (length_readSeparator _hseparator).trans_lt (length_readEntry _hentry)

def SeenFields.all (seen : SeenFields) : Bool :=
  seen.role && seen.version && seen.url && seen.sha256 && seen.byteLength && seen.channel && seen.minWindowsBuild &&
    seen.releaseTimestampUtc

def importUpdateManifestJson (json : Bytes) : Except ManifestVerificationResult UpdateManifest :=
  if json.length > kMaxManifestBytes then
    .error ⟨.oversizedManifest, literal "Manifest size exceeds maximum limit of 64 KiB"⟩
  else do
    let rest ← orInvalid (literal "Expected '\x7b' at start of JSON manifest") (matchChar 0x7b json)
    let (state, rest) ← importEntries {} rest
    if skipWhitespace rest ≠ [] then
      .error (invalidJson (literal "Unexpected trailing data after closing JSON object"))
    else if !state.seen.all then
      .error ⟨.missingRequiredField, literal "Missing required manifest field"⟩
    else .ok state.manifest

/-! ## The schema -/

lemma readField_schemaVersion
    (h : readField state input field = .ok (state', rest)) (hs : state.manifest.schemaVersion = literal "1.0") :
    state'.manifest.schemaVersion = literal "1.0" := by
  cases field with
  | schemaVersion =>
    obtain ⟨text, value, -, hc, rfl⟩ := readText_eq_ok.mp h
    rw [checkSchemaVersion] at hc
    split_ifs at hc with ht
    rw [← Except.ok.inj hc]
    exact not_not.mp ht
  | packageRole | version | minSupportedVersion | channel =>
    obtain ⟨text, value, -, -, rfl⟩ := readText_eq_ok.mp h
    exact hs
  | packageUrl | byteLength | sha256Hex | releaseTimestampUtc | rolloutPercentage | minWindowsBuild
  | requiresReboot | keyId | signatureHex =>
    rw [readField] at h
    obtain ⟨value, -, rfl⟩ := readWith_eq_ok.mp h
    exact hs

lemma readValue_schemaVersion
    (h : readValue state key input = .ok (state', rest)) (hs : state.manifest.schemaVersion = literal "1.0") :
    state'.manifest.schemaVersion = literal "1.0" := by
  rcases readValue_eq_ok h with ⟨field, hf⟩ | ⟨-, rfl⟩
  · exact readField_schemaVersion hf hs
  · exact hs

lemma importEntries_schemaVersion
    (h : importEntries state input = .ok (state', rest)) (hs : state.manifest.schemaVersion = literal "1.0") :
    state'.manifest.schemaVersion = literal "1.0" := by
  fun_induction importEntries state input with
  | case1 => simp_all
  | case2 | case3 => contradiction
  | case4 state input hb state1 behind he behind' hse ih =>
    simp only [readEntry, Parser.bind_eq_ok_iff, orInvalid_eq_ok, Prod.exists] at he
    obtain ⟨_, _, _, _, _, hv⟩ := he
    exact ih h (readValue_schemaVersion hv hs)

/-- **Every imported manifest is of schema 1.0.** -/
theorem importUpdateManifestJson_schemaVersion {json : Bytes} {manifest : UpdateManifest}
    (h : importUpdateManifestJson json = .ok manifest) : manifest.schemaVersion = literal "1.0" := by
  rw [importUpdateManifestJson] at h
  split_ifs at h
  simp only [Parser.bind_eq_ok_iff, orInvalid_eq_ok, Prod.exists] at h
  obtain ⟨rest, -, state, rest', he, h⟩ := h
  split_ifs at h
  rw [← Except.ok.inj h]
  exact importEntries_schemaVersion he rfl

end Nstu.Update
