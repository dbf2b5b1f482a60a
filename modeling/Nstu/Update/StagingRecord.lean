import Nstu.Update.RecordReader

/-!
# Staging records

`StagingRecord` of `update_staging.hpp`, and what exports and imports it in `update_staging.cpp`.

A record is imported from its own text (`import_export`), and from no other piece of that text but the one where
only the last line feed is missing (`import_take_export`): the import wants the closing brace, and what stands
behind the first closing brace that it takes may not go on.
-/

namespace Nstu.Update

open Wire CType Text JsonText MiniJsonReader Option
open List (cons_append append_assoc flatten_cons flatten_nil append_nil length_append)

inductive UpdateState where
  | idle
  | checking
  | deferred
  | downloading
  | verifying
  | staged
  | applyPendingReboot
  | validating
  | committed
  | rollingBack
  | failed
  deriving DecidableEq

/-- `to_string`. -/
def UpdateState.toText : UpdateState → Bytes
  | .idle => literal "idle"
  | .checking => literal "checking"
  | .deferred => literal "deferred"
  | .downloading => literal "downloading"
  | .verifying => literal "verifying"
  | .staged => literal "staged"
  | .applyPendingReboot => literal "apply_pending_reboot"
  | .validating => literal "validating"
  | .committed => literal "committed"
  | .rollingBack => literal "rolling_back"
  | .failed => literal "failed"

def parseUpdateState (text : Bytes) : Option UpdateState :=
  if text = literal "idle" then some .idle
  else if text = literal "checking" then some .checking
  else if text = literal "deferred" then some .deferred
  else if text = literal "downloading" then some .downloading
  else if text = literal "verifying" then some .verifying
  else if text = literal "staged" then some .staged
  else if text = literal "apply_pending_reboot" then some .applyPendingReboot
  else if text = literal "validating" then some .validating
  else if text = literal "committed" then some .committed
  else if text = literal "rolling_back" then some .rollingBack
  else if text = literal "failed" then some .failed
  else none

lemma parseUpdateState_toText (state : UpdateState) : parseUpdateState state.toText = some state := by
  cases state <;> decide

structure StagingRecord where
  schemaVersion : Bytes := literal "1.0"
  activeVersion : SemanticVersion := {}
  targetVersion : SemanticVersion := {}
  targetSha256Hex : Bytes := []
  expectedBytes : UInt64 := 0
  stagedBytes : UInt64 := 0
  currentState : UpdateState := .idle
  lastError : Bytes := []
  stateTimestampUtc : UInt64 := 0
  requiresReboot : Bool := true
  backupPath : Bytes := []
  stagedPackagePath : Bytes := []
  deriving DecidableEq

def kMaximumStagingRecordBytes : ℕ := 64 * 1024

/-- The members of a record, in the order of `kStagingRecordFields`. -/
inductive RecordField where
  | schemaVersion
  | activeVersion
  | targetVersion
  | targetSha256Hex
  | expectedBytes
  | stagedBytes
  | currentState
  | lastError
  | stateTimestampUtc
  | requiresReboot
  | backupPath
  | stagedPackagePath
  deriving DecidableEq

namespace RecordField

def name : RecordField → Bytes
  | .schemaVersion => literal "schema_version"
  | .activeVersion => literal "active_version"
  | .targetVersion => literal "target_version"
  | .targetSha256Hex => literal "target_sha256_hex"
  | .expectedBytes => literal "expected_bytes"
  | .stagedBytes => literal "staged_bytes"
  | .currentState => literal "current_state"
  | .lastError => literal "last_error"
  | .stateTimestampUtc => literal "state_timestamp_utc"
  | .requiresReboot => literal "requires_reboot"
  | .backupPath => literal "backup_path"
  | .stagedPackagePath => literal "staged_package_path"

/-- `kStagingRecordFields`. -/
def all : List RecordField :=
  [.schemaVersion, .activeVersion, .targetVersion, .targetSha256Hex, .expectedBytes, .stagedBytes, .currentState,
    .lastError, .stateTimestampUtc, .requiresReboot, .backupPath, .stagedPackagePath]

/-- The member that a key names. -/
def find (key : Bytes) : Option RecordField := all.find? fun field => field.name = key

lemma find_name (field : RecordField) : find field.name = some field := by
  cases field <;> decide

lemma plain_name (field : RecordField) : Plain field.name := by
  have ha : ∀ field ∈ all, field.name.all (fun byte => escapeByte byte = [byte]) := by decide
  intro byte hb
  have hm : field ∈ all := by cases field <;> decide
  simpa using List.all_eq_true.mp (ha field hm) byte hb

end RecordField

namespace StagingRecord

/-! ## The export -/

def emitRecordString (text : Bytes) : List Bytes := [literal "\""] ++ text.map escapeByte ++ [literal "\""]

def emitRecordNumber (value : UInt64) : List Bytes := [decimalText value.toNat]

def emitRecordVersion (version : SemanticVersion) : List Bytes :=
  [literal "\"", decimalText version.major.toNat, literal ".", decimalText version.minor.toNat, literal ".",
    decimalText version.patch.toNat, literal "\""]

def emitRecordValue (record : StagingRecord) : RecordField → List Bytes
  | .schemaVersion => emitRecordString record.schemaVersion
  | .activeVersion => emitRecordVersion record.activeVersion
  | .targetVersion => emitRecordVersion record.targetVersion
  | .targetSha256Hex => emitRecordString record.targetSha256Hex
  | .expectedBytes => emitRecordNumber record.expectedBytes
  | .stagedBytes => emitRecordNumber record.stagedBytes
  | .currentState => emitRecordString record.currentState.toText
  | .lastError => emitRecordString record.lastError
  | .stateTimestampUtc => emitRecordNumber record.stateTimestampUtc
  | .requiresReboot => [literal (if record.requiresReboot then "true" else "false")]
  | .backupPath => emitRecordString record.backupPath
  | .stagedPackagePath => emitRecordString record.stagedPackagePath

def emitRecordField (record : StagingRecord) (field : RecordField) (last : Bool) : List Bytes :=
  [literal "  \"", field.name, literal "\": "] ++ emitRecordValue record field ++
    [literal (if last then "\n" else ",\n")]

open RecordField

/-- What `emit_record` appends, one after the other. -/
def emitRecord (record : StagingRecord) : List Bytes :=
  [literal "\x7b\n"] ++ (all.flatMap fun field => emitRecordField record field (field = .stagedPackagePath)) ++
    [literal "\x7d\n"]

/-- `RecordTextSink::append`. -/
def appendPart (text part : Bytes) : Option Bytes :=
  if kMaximumStagingRecordBytes - text.length < part.length then none else some (text ++ part)

/-- `CappedRecordSize::append`. -/
def appendSize (bytes : ℕ) (part : Bytes) : Option ℕ :=
  if kMaximumStagingRecordBytes - bytes < part.length then none else some (bytes + part.length)

section Sink

variable {σ : Type} (append : σ → Bytes → Option σ)

/-- `emit_record_string` into a sink: a text that is too long is refused before the sink sees it. -/
def emitStringTo (sink : σ) (text : Bytes) : Option σ :=
  if kMaximumStagingRecordBytes < text.length then none else (emitRecordString text).foldlM append sink

def emitValueTo (sink : σ) (record : StagingRecord) : RecordField → Option σ
  | .schemaVersion => emitStringTo append sink record.schemaVersion
  | .targetSha256Hex => emitStringTo append sink record.targetSha256Hex
  | .currentState => emitStringTo append sink record.currentState.toText
  | .lastError => emitStringTo append sink record.lastError
  | .backupPath => emitStringTo append sink record.backupPath
  | .stagedPackagePath => emitStringTo append sink record.stagedPackagePath
  | field => (emitRecordValue record field).foldlM append sink

/-- `emit_record_field` into a sink. -/
def emitFieldTo (record : StagingRecord) (sink : σ) (field : RecordField) : Option σ := do
  let sink ← [literal "  \"", field.name, literal "\": "].foldlM append sink
  let sink ← emitValueTo append sink record field
  append sink (literal (if field = .stagedPackagePath then "\n" else ",\n"))

/-- `emit_record` into a sink. -/
def emitRecordTo (record : StagingRecord) (sink : σ) : Option σ := do
  let sink ← append sink (literal "\x7b\n")
  let sink ← all.foldlM (emitFieldTo append record) sink
  append sink (literal "\x7d\n")

end Sink

/-- `export_staging_record_json`: the record is counted before it is written.  Where the source throws
there is no text. -/
def toJson (record : StagingRecord) : Option Bytes := do
  let _ ← emitRecordTo appendSize record 0
  emitRecordTo appendPart record []

/-! ## The import -/

/-- A member whose value one of the readers takes. -/
def readWith {α : Type} (reader : Bytes → Option (α × Bytes)) (set : α → StagingRecord) (input : Bytes) :
    Option (StagingRecord × Bytes) :=
  (reader input).map fun (value, rest) => (set value, rest)

/-- A member whose value is a string that the given function has to take. -/
def readText {α : Type} (parse : Bytes → Option α) (set : α → StagingRecord) (input : Bytes) :
    Option (StagingRecord × Bytes) := do
  let (text, rest) ← parseString input
  let value ← parse text
  return (set value, rest)

def readValue (record : StagingRecord) (input : Bytes) : RecordField → Option (StagingRecord × Bytes)
  | .schemaVersion => readWith parseString (fun text => { record with schemaVersion := text }) input
  | .activeVersion => readText SemanticVersion.parse (fun version => { record with activeVersion := version }) input
  | .targetVersion => readText SemanticVersion.parse (fun version => { record with targetVersion := version }) input
  | .targetSha256Hex => readWith parseString (fun text => { record with targetSha256Hex := text }) input
  | .expectedBytes => readWith parseUint64 (fun value => { record with expectedBytes := value }) input
  | .stagedBytes => readWith parseUint64 (fun value => { record with stagedBytes := value }) input
  | .currentState => readText parseUpdateState (fun state => { record with currentState := state }) input
  | .lastError => readWith parseString (fun text => { record with lastError := text }) input
  | .stateTimestampUtc => readWith parseUint64 (fun value => { record with stateTimestampUtc := value }) input
  | .requiresReboot => readWith parseBool (fun value => { record with requiresReboot := value }) input
  | .backupPath => readWith parseString (fun text => { record with backupPath := text }) input
  | .stagedPackagePath => readWith parseString (fun text => { record with stagedPackagePath := text }) input

/-- One round of the loop up to the value, with the members that were seen before. -/
def readEntry (seen : List RecordField) (record : StagingRecord) (input : Bytes) :
    Option (RecordField × StagingRecord × Bytes) := do
  let (key, rest) ← parseString input
  let rest ← matchChar 0x3a rest
  let field ← find key
  if field ∈ seen then none
  else
    let (record, rest) ← readValue record rest field
    return (field, record, rest)

lemma token_readWith {α : Type} {reader : Bytes → Option (α × Bytes)} (h : Token reader) (set : α → StagingRecord) :
    Token (readWith reader set) where
  forward := by
    intro input record rest hr
    obtain ⟨⟨value, rest'⟩, hv, he⟩ := map_eq_some_iff.mp hr
    obtain ⟨-, rfl⟩ := Prod.mk.inj he
    exact h.forward hv
  extends_ := by
    intro input record rest more hr hre
    obtain ⟨⟨value, rest'⟩, hv, he⟩ := map_eq_some_iff.mp hr
    obtain ⟨rfl, rfl⟩ := Prod.mk.inj he
    rw [readWith, h.extends_ _ _ _ more hv hre]
    rfl

lemma token_readText {α : Type} (parse : Bytes → Option α) (set : α → StagingRecord) :
    Token (readText parse set) where
  forward := by
    intro input record rest hr
    simp only [readText, bind_eq_bind, bind_eq_some_iff, pure_def, some.injEq,
      Prod.mk.injEq, Prod.exists] at hr
    obtain ⟨text, rest', hs, value, -, -, rfl⟩ := hr
    exact (length_parseString hs).le
  extends_ := by
    intro input record rest more hr hre
    simp only [readText, bind_eq_bind, bind_eq_some_iff, pure_def, some.injEq,
      Prod.mk.injEq, Prod.exists] at hr ⊢
    obtain ⟨text, rest', hs, value, hp, rfl, rfl⟩ := hr
    exact ⟨text, _, extends_parseString _ _ _ more hs hre, value, hp, rfl, rfl⟩

lemma token_readValue (record : StagingRecord) (field : RecordField) :
    Token fun input => readValue record input field := by
  cases field with
  | activeVersion | targetVersion | currentState => exact token_readText _ _
  | expectedBytes | stagedBytes | stateTimestampUtc =>
    simp only [readValue]
    exact token_readWith token_parseUint64 _
  | requiresReboot =>
    simp only [readValue]
    exact token_readWith token_parseBool _
  | schemaVersion | targetSha256Hex | lastError | backupPath | stagedPackagePath =>
    simp only [readValue]
    exact token_readWith token_parseString _

lemma length_readEntry {seen : List RecordField} {record record' : StagingRecord} {field : RecordField}
    {input rest : Bytes} (h : readEntry seen record input = some (field, record', rest)) :
    rest.length < input.length := by
  simp only [readEntry, bind_eq_bind, bind_eq_some_iff, Prod.exists] at h
  obtain ⟨key, behind, hk, value, hc, field', -, h⟩ := h
  have hk := length_parseString hk
  have hc := length_matchChar hc
  split_ifs at h
  simp only [bind_eq_some_iff, pure_def, some.injEq, Prod.mk.injEq, Prod.exists] at h
  obtain ⟨_, _, hv, -, -, rfl⟩ := h
  have := (token_readValue record field').forward hv
  omega

/-- The loop of the import, behind the opening brace. -/
def readFields (seen : List RecordField) (record : StagingRecord) (input : Bytes) :
    Option (List RecordField × StagingRecord × Bytes) :=
  match matchChar 0x7d input with
  | some rest => some (seen, record, rest)
  | none =>
    match _hentry : readEntry seen record input with
    | none => none
    | some (field, record, rest) =>
      match _hcomma : matchChar 0x2c rest with
      | some rest =>
        if (skipWhitespace rest).head? = some 0x7d then none else readFields (field :: seen) record rest
      | none => (matchChar 0x7d rest).map fun rest => (field :: seen, record, rest)
  termination_by input.length
  decreasing_by exact (length_matchChar _hcomma).trans (length_readEntry _hentry)

section Rounds

variable {seen : List RecordField} {record record' : StagingRecord} {field : RecordField} {input rest rest' : Bytes}

lemma readFields_comma (hb : matchChar 0x7d input = none)
    (he : readEntry seen record input = some (field, record', rest)) (hc : matchChar 0x2c rest = some rest')
    (ht : (skipWhitespace rest').head? ≠ some 0x7d) :
    readFields seen record input = readFields (field :: seen) record' rest' := by
  rw [readFields, hb]
  dsimp only
  split
  · rename_i hn
    rw [he] at hn
    contradiction
  · rename_i hs
    rw [he] at hs
    cases hs
    split
    · rename_i hs
      rw [hc] at hs
      cases hs
      exact if_neg ht
    · rename_i hn
      rw [hc] at hn
      contradiction

lemma readFields_last (hb : matchChar 0x7d input = none)
    (he : readEntry seen record input = some (field, record', rest)) (hc : matchChar 0x2c rest = none) :
    readFields seen record input = (matchChar 0x7d rest).map fun rest => (field :: seen, record', rest) := by
  rw [readFields, hb]
  dsimp only
  split
  · rename_i hn
    rw [he] at hn
    contradiction
  · rename_i hs
    rw [he] at hs
    cases hs
    split
    · rename_i hs
      rw [hc] at hs
      contradiction
    · rfl

lemma skipWhitespace_ne_nil_of_readEntry (h : readEntry seen record input = some (field, record', rest)) :
    skipWhitespace input ≠ [] := by
  intro hn
  rw [readEntry, parseString, matchChar, hn] at h
  contradiction

lemma skipWhitespace_ne_nil_of_readFields {result : List RecordField × StagingRecord × Bytes}
    (h : readFields seen record input = some result) : skipWhitespace input ≠ [] := by
  intro hn
  rw [readFields, matchChar, hn] at h
  dsimp only at h
  split at h
  · contradiction
  · rename_i hr
    exact skipWhitespace_ne_nil_of_readEntry hr hn

end Rounds

/-- The checks at the end of the import. -/
def accepts (seen : List RecordField) (record : StagingRecord) : Bool :=
  all.all (· ∈ seen) && record.schemaVersion == literal "1.0" && record.stagedBytes ≤ record.expectedBytes

/-- `import_staging_record_json`. -/
def ofJson (text : Bytes) : Option StagingRecord :=
  if text.isEmpty || kMaximumStagingRecordBytes < text.length then none
  else
    match matchChar 0x7b text with
    | none => none
    | some rest =>
      match readFields [] {} rest with
      | none => none
      | some (seen, record, rest) =>
        if (skipWhitespace rest).isEmpty && accepts seen record then some record else none

/-! ## More input -/

lemma readEntry_append {seen : List RecordField} {record record' : StagingRecord} {field : RecordField}
    {input rest : Bytes} (h : readEntry seen record input = some (field, record', rest)) (hr : rest ≠ [])
    (more : Bytes) : readEntry seen record (input ++ more) = some (field, record', rest ++ more) := by
  simp only [readEntry, bind_eq_bind, bind_eq_some_iff, Prod.exists] at h ⊢
  obtain ⟨key, behind, hk, value, hc, field', hf, h⟩ := h
  split_ifs at h with hs
  simp only [bind_eq_some_iff, pure_def, some.injEq, Prod.mk.injEq, Prod.exists] at h
  obtain ⟨_, _, hv, rfl, rfl, rfl⟩ := h
  have hb : behind ≠ [] := by
    rintro rfl
    contradiction
  refine ⟨key, _, extends_parseString _ _ _ more hk hb, _, matchChar_append_of_some hc more, field', hf, ?_⟩
  have hm := (token_readValue record field').extends_ _ _ _ more hv hr
  rw [if_neg hs, hm]
  rfl

/-- **The loop does not see what comes behind the brace it ends at.** -/
lemma readFields_append {seen seen' : List RecordField} {record record' : StagingRecord} {input rest : Bytes}
    (h : readFields seen record input = some (seen', record', rest)) (more : Bytes) :
    readFields seen record (input ++ more) = some (seen', record', rest ++ more) := by
  fun_induction readFields seen record input with
  | case1 seen record input behind hbrace =>
    cases h
    rw [readFields, matchChar_append_of_some hbrace]
  | case2 | case3 => contradiction
  | case4 seen record input hbrace field read behind hentry behind' hcomma htrai ih =>
    have hskip : skipWhitespace behind' ≠ [] := skipWhitespace_ne_nil_of_readFields h
    have hbehi : behind ≠ [] := by
      rintro rfl
      contradiction
    have hbrace' : matchChar 0x7d (input ++ more) = none := by
      rw [matchChar_append (skipWhitespace_ne_nil_of_readEntry hentry), hbrace]
      rfl
    have htrai' : (skipWhitespace (behind' ++ more)).head? ≠ some 0x7d := by
      rw [skipWhitespace_append hskip, List.head?_append, or_of_isSome (by simpa using hskip)]
      exact htrai
    rw [readFields_comma hbrace' (readEntry_append hentry hbehi more) (matchChar_append_of_some hcomma more)
      htrai']
    exact ih h
  | case5 seen record input hbrace field read behind hentry hcomma =>
    obtain ⟨last, hlast, heq⟩ := map_eq_some_iff.mp h
    cases heq
    have hbehi : behind ≠ [] := by
      rintro rfl
      contradiction
    have hbrace' : matchChar 0x7d (input ++ more) = none := by
      rw [matchChar_append (skipWhitespace_ne_nil_of_readEntry hentry), hbrace]
      rfl
    have hcomma' : matchChar 0x2c (behind ++ more) = none := by
      rw [matchChar_append (skipWhitespace_ne_nil_of_matchChar hlast), hcomma]
      rfl
    rw [readFields_last hbrace' (readEntry_append hentry hbehi more) hcomma', matchChar_append_of_some hlast]
    rfl

/-! ## A record and its own text -/

/-- The target with one member of the source. -/
def copyField (source target : StagingRecord) : RecordField → StagingRecord
  | .schemaVersion => { target with schemaVersion := source.schemaVersion }
  | .activeVersion => { target with activeVersion := source.activeVersion }
  | .targetVersion => { target with targetVersion := source.targetVersion }
  | .targetSha256Hex => { target with targetSha256Hex := source.targetSha256Hex }
  | .expectedBytes => { target with expectedBytes := source.expectedBytes }
  | .stagedBytes => { target with stagedBytes := source.stagedBytes }
  | .currentState => { target with currentState := source.currentState }
  | .lastError => { target with lastError := source.lastError }
  | .stateTimestampUtc => { target with stateTimestampUtc := source.stateTimestampUtc }
  | .requiresReboot => { target with requiresReboot := source.requiresReboot }
  | .backupPath => { target with backupPath := source.backupPath }
  | .stagedPackagePath => { target with stagedPackagePath := source.stagedPackagePath }

lemma foldl_copyField_all (source target : StagingRecord) : all.foldl (copyField source) target = source := by
  simp only [all, List.foldl_cons, List.foldl_nil, copyField]

lemma escapeByte_of_isDigit {byte : UInt8} (h : isDigit byte) : escapeByte byte = [byte] := by
  simp only [isDigit, Bool.and_eq_true, decide_eq_true_eq, UInt8.le_iff_toNat_le] at h
  have hl : (0x30 : UInt8).toNat = 48 := rfl
  have hh : (0x39 : UInt8).toNat = 57 := rfl
  have hn : ∀ other : UInt8, (other.toNat < 48 ∨ 57 < other.toNat) → byte ≠ other := by
    rintro other ho rfl
    omega
  have hc : ¬ byte < 0x20 := by
    rw [UInt8.lt_iff_toNat_lt]
    have : (0x20 : UInt8).toNat = 32 := rfl
    omega
  rw [escapeByte, if_neg (hn _ (by decide)), if_neg (hn _ (by decide)), if_neg (hn _ (by decide)),
    if_neg (hn _ (by decide)), if_neg (hn _ (by decide)), if_neg (hn _ (by decide)), if_neg (hn _ (by decide)),
    if_neg hc]

lemma plain_toText (version : SemanticVersion) : Plain version.toText := by
  have hd : ∀ value, Plain (decimalText value) := fun value byte hb =>
    escapeByte_of_isDigit (isDigit_of_mem_decimalText hb)
  have hdo : escapeByte 0x2e = [0x2e] := by decide
  intro byte hb
  simp only [SemanticVersion.toText, List.mem_append, List.mem_cons] at hb
  rcases hb with hm | rfl | hmi | rfl | hp
  · exact hd _ byte hm
  · exact hdo
  · exact hd _ byte hmi
  · exact hdo
  · exact hd _ byte hp

lemma flatten_emitRecordString (text : Bytes) :
    (emitRecordString text).flatten = 0x22 :: (text.flatMap escapeByte ++ [0x22]) := by
  have hq : literal "\"" = [0x22] := rfl
  simp [emitRecordString, hq, List.flatMap_def]

def valueText (record : StagingRecord) (field : RecordField) : Bytes := (emitRecordValue record field).flatten

section Values

variable {rest : Bytes}

lemma parseString_emitted (text : Bytes) :
    parseString (0x20 :: ((emitRecordString text).flatten ++ rest)) = some (text, rest) := by
  rw [flatten_emitRecordString, cons_append, append_assoc]
  exact parseString_quoted text rest

lemma parseString_version (version : SemanticVersion) :
    parseString (0x20 :: ((emitRecordVersion version).flatten ++ rest)) = some (version.toText, rest) := by
  have hq : literal "\"" = [0x22] := rfl
  have hd : literal "." = [0x2e] := rfl
  have ht : (emitRecordVersion version).flatten ++ rest = (emitRecordString version.toText).flatten ++ rest := by
    rw [flatten_emitRecordString, (plain_toText version).flatMap]
    simp [emitRecordVersion, SemanticVersion.toText, hq, hd]
  rw [ht, parseString_emitted]

lemma readValue_valueText (source target : StagingRecord) (field : RecordField)
    (hr : rest.head?.all fun byte => !isDigit byte) :
    readValue target (0x20 :: (valueText source field ++ rest)) field = some (copyField source target field, rest) := by
  have hn : ∀ value : UInt64, parseUint64 (0x20 :: ((emitRecordNumber value).flatten ++ rest)) =
      some (value, rest) := by
    intro value
    rw [emitRecordNumber, flatten_cons, flatten_nil, append_nil]
    exact parseUint64_decimalText value hr
  cases field with
  | activeVersion | targetVersion =>
    simp only [readValue, readText, valueText, emitRecordValue, parseString_version, bind_eq_bind,
      bind_some, SemanticVersion.parse_toText]
    rfl
  | currentState =>
    simp only [readValue, readText, valueText, emitRecordValue, parseString_emitted, bind_eq_bind,
      bind_some, parseUpdateState_toText]
    rfl
  | expectedBytes | stagedBytes | stateTimestampUtc =>
    simp only [readValue, readWith, valueText, emitRecordValue, hn]
    rfl
  | requiresReboot =>
    cases hre : source.requiresReboot <;>
      simp only [readValue, readWith, valueText, emitRecordValue, hre, copyField] <;> rfl
  | schemaVersion | targetSha256Hex | lastError | backupPath | stagedPackagePath =>
    simp only [readValue, readWith, valueText, emitRecordValue, parseString_emitted]
    rfl

end Values

/-- A member with the line feed before it. -/
def entryText (record : StagingRecord) (field : RecordField) : Bytes :=
  literal "\n  \"" ++ (field.name ++ (literal "\": " ++ valueText record field))

/-- Members with commas between them. -/
def entriesText (record : StagingRecord) : List RecordField → Bytes
  | [] => []
  | [field] => entryText record field
  | field :: next :: rest => entryText record field ++ 0x2c :: entriesText record (next :: rest)

lemma readEntry_entryText {seen : List RecordField} {field : RecordField} (hs : field ∉ seen)
    (source target : StagingRecord) {rest : Bytes} (hr : rest.head?.all fun byte => !isDigit byte) :
    readEntry seen target (entryText source field ++ rest) = some (field, copyField source target field, rest) := by
  have hk : parseString (entryText source field ++ rest) =
      some (field.name, 0x3a :: 0x20 :: (valueText source field ++ rest)) := by
    have hc := parseChars_flatMap field.name (0x3a :: 0x20 :: (valueText source field ++ rest))
    rw [(plain_name field).flatMap] at hc
    rw [entryText, append_assoc, append_assoc, append_assoc]
    exact hc
  have hco : matchChar 0x3a (0x3a :: 0x20 :: (valueText source field ++ rest)) =
      some (0x20 :: (valueText source field ++ rest)) := rfl
  simp only [readEntry, hk, hco, find_name, bind_eq_bind, bind_some]
  rw [if_neg hs, readValue_valueText source target field hr]
  rfl

/-- **The members are read back**, up to the brace behind them. -/
lemma readFields_entriesText (source target : StagingRecord) {seen fields : List RecordField} (hne : fields ≠ [])
    (hfiel : fields.Nodup) (hseen : ∀ field ∈ fields, field ∉ seen) (tail : Bytes) :
    readFields seen target (entriesText source fields ++ 0x0a :: 0x7d :: tail) =
      some (fields.reverse ++ seen, fields.foldl (copyField source) target, tail) := by
  induction fields generalizing seen target with
  | nil => contradiction
  | cons field fields ih =>
    have hfield := hseen field (List.mem_cons_self ..)
    cases fields with
    | nil =>
      have hentry := @readEntry_entryText seen field hfield source target (0x0a :: 0x7d :: tail) rfl
      rw [entriesText, readFields_last rfl hentry rfl]
      rfl
    | cons next fields =>
      obtain ⟨hnotin, hnodup⟩ := List.nodup_cons.mp hfiel
      have hseen' : ∀ other ∈ next :: fields, other ∉ field :: seen := by
        intro other hother hmem
        rcases List.mem_cons.mp hmem with rfl | hmem
        · exact hnotin hother
        · exact hseen other (List.mem_cons_of_mem _ hother) hmem
      have ih := @ih (copyField source target field) (field :: seen) (List.cons_ne_nil _ _) hnodup hseen'
      have hentry := @readEntry_entryText seen field hfield source target
        (0x2c :: (entriesText source (next :: fields) ++ 0x0a :: 0x7d :: tail)) rfl
      have hquote : ∃ more, entriesText source (next :: fields) ++ 0x0a :: 0x7d :: tail =
          0x0a :: 0x20 :: 0x20 :: 0x22 :: more := by
        cases fields with
        | nil | cons => exact ⟨_, rfl⟩
      obtain ⟨more, hmore⟩ := hquote
      rw [entriesText, append_assoc, cons_append, readFields_comma rfl hentry rfl (by
        rw [hmore]
        exact (by decide : some (0x22 : UInt8) ≠ some 0x7d)), ih]
      simp

/-- The text of a record, without regard to its length. -/
def jsonText (record : StagingRecord) : Bytes :=
  0x7b :: (entriesText record all ++ [0x0a, 0x7d, 0x0a])

lemma flatten_emitRecordField (record : StagingRecord) (field : RecordField) (last : Bool) :
    0x0a :: (emitRecordField record field last).flatten =
      entryText record field ++ (if last then [0x0a] else [0x2c, 0x0a]) := by
  cases last with
  | true | false =>
    simp only [emitRecordField, entryText, valueText, List.flatten_append, flatten_cons, flatten_nil,
      append_nil, append_assoc]
    rfl

lemma flatten_emitRecordFields (record : StagingRecord) {fields : List RecordField} (hn : fields ≠ [])
    (hl : fields.getLast hn = .stagedPackagePath) (hf : fields.Nodup) :
    0x0a :: (fields.flatMap fun field => emitRecordField record field (field = .stagedPackagePath)).flatten =
      entriesText record fields ++ [0x0a] := by
  induction fields with
  | nil => contradiction
  | cons field fields ih =>
    cases fields with
    | nil =>
      obtain rfl : field = .stagedPackagePath := hl
      rw [List.flatMap_cons, List.flatMap_nil, append_nil, flatten_emitRecordField]
      rfl
    | cons next fields =>
      obtain ⟨hno, hnod⟩ := List.nodup_cons.mp hf
      have hl' : (next :: fields).getLast (List.cons_ne_nil _ _) = .stagedPackagePath := hl
      have hfi : decide (field = .stagedPackagePath) = false := by
        rw [decide_eq_false_iff_not]
        rintro rfl
        exact hno (hl' ▸ List.getLast_mem _)
      have ih := ih (List.cons_ne_nil _ _) hl' hnod
      rw [List.flatMap_cons, List.flatten_append, ← cons_append, flatten_emitRecordField, hfi,
        entriesText, append_assoc, append_assoc, cons_append, ← ih]
      rfl

lemma flatten_emitRecord (record : StagingRecord) : (emitRecord record).flatten = jsonText record := by
  have hf := flatten_emitRecordFields record (by decide : all ≠ []) rfl (by decide)
  have ho : literal "\x7b\n" = [0x7b, 0x0a] := rfl
  have hc : literal "\x7d\n" = [0x7d, 0x0a] := rfl
  rw [emitRecord, List.flatten_append, List.flatten_append, ho, hc, jsonText]
  simp only [flatten_cons, flatten_nil, append_nil, cons_append, List.nil_append]
  rw [← cons_append, hf, append_assoc]
  rfl

lemma foldlM_appendPart (parts : List Bytes) {text : Bytes} (ht : text.length ≤ kMaximumStagingRecordBytes) :
    parts.foldlM appendPart text =
      if (text ++ parts.flatten).length ≤ kMaximumStagingRecordBytes then some (text ++ parts.flatten) else none := by
  induction parts generalizing text with
  | nil =>
    rw [flatten_nil, append_nil, if_pos ht]
    rfl
  | cons part parts ih =>
    rw [List.foldlM_cons, appendPart]
    split_ifs with hr ha ha
    · rw [flatten_cons, length_append, length_append] at ha
      omega
    · rfl
    · rw [bind_eq_bind, bind_some, ih (by rw [length_append]; omega), append_assoc,
        ← flatten_cons, if_pos ha]
    · rw [bind_eq_bind, bind_some, ih (by rw [length_append]; omega), append_assoc,
        ← flatten_cons, if_neg ha]

lemma foldlM_appendSize (parts : List Bytes) {bytes : ℕ} (hb : bytes ≤ kMaximumStagingRecordBytes) :
    parts.foldlM appendSize bytes =
      if bytes + parts.flatten.length ≤ kMaximumStagingRecordBytes then some (bytes + parts.flatten.length)
      else none := by
  induction parts generalizing bytes with
  | nil =>
    rw [flatten_nil, List.length_nil, Nat.add_zero, if_pos hb]
    rfl
  | cons part parts ih =>
    rw [List.foldlM_cons, appendSize, flatten_cons, length_append, ← Nat.add_assoc]
    split_ifs with hr ha ha
    · omega
    · rfl
    · rw [bind_eq_bind, bind_some, ih (by omega), if_pos ha]
    · rw [bind_eq_bind, bind_some, ih (by omega), if_neg ha]

/-- Both sinks take a part exactly as long as it fits behind what they have. -/
structure Capped {σ : Type} (append : σ → Bytes → Option σ) (size : σ → ℕ) : Prop where
  taken : ∀ {sink part after}, append sink part = some after →
    part.length ≤ kMaximumStagingRecordBytes - size sink ∧ size after = size sink + part.length

lemma capped_appendPart : Capped appendPart List.length where
  taken := by
    intro text part after h
    rw [appendPart] at h
    split_ifs at h with hroom
    obtain rfl := some.inj h
    exact ⟨Nat.not_lt.mp hroom, length_append⟩

lemma capped_appendSize : Capped appendSize id where
  taken := by
    intro bytes part after h
    rw [appendSize] at h
    split_ifs at h with hroom
    obtain rfl := some.inj h
    exact ⟨Nat.not_lt.mp hroom, rfl⟩

lemma length_le_emitRecordString (text : Bytes) : text.length ≤ (emitRecordString text).flatten.length := by
  have hescape : ∀ byte, 1 ≤ (escapeByte byte).length := by
    intro byte
    rw [escapeByte]
    split_ifs <;> simp [literal]
  have htext : text.length ≤ (text.map escapeByte).flatten.length := by
    induction text with
    | nil => exact Nat.zero_le _
    | cons byte rest ih =>
      have hbyte := hescape byte
      rw [List.map_cons, flatten_cons, length_append, List.length_cons]
      omega
  rw [emitRecordString, List.flatten_append, List.flatten_append, length_append, length_append]
  omega

section Capped

variable {σ : Type} {append : σ → Bytes → Option σ} {size : σ → ℕ}

lemma Capped.flatten_le (h : Capped append size) {parts : List Bytes} {sink after : σ}
    (hp : parts.foldlM append sink = some after) :
    parts.flatten.length ≤ kMaximumStagingRecordBytes - size sink := by
  induction parts generalizing sink with
  | nil => exact Nat.zero_le _
  | cons part parts ih =>
    rw [List.foldlM_cons, bind_eq_bind, bind_eq_some_iff] at hp
    obtain ⟨next, hnext, hrest⟩ := hp
    obtain ⟨hpart, hsize⟩ := h.taken hnext
    have hle := ih hrest
    rw [flatten_cons, length_append]
    omega

/-- A text that is too long for its own check is too long for the sink. -/
lemma Capped.emitStringTo_eq (h : Capped append size) (sink : σ) (text : Bytes) :
    emitStringTo append sink text = (emitRecordString text).foldlM append sink := by
  rw [emitStringTo]
  split_ifs with hlong
  · cases hp : (emitRecordString text).foldlM append sink with
    | none => rfl
    | some after =>
      have hfits := h.flatten_le hp
      have htext := length_le_emitRecordString text
      omega
  · rfl

lemma Capped.emitValueTo_eq (h : Capped append size) (sink : σ) (record : StagingRecord) (field : RecordField) :
    emitValueTo append sink record field = (emitRecordValue record field).foldlM append sink := by
  cases field with
  | schemaVersion | targetSha256Hex | currentState | lastError | backupPath | stagedPackagePath =>
    exact h.emitStringTo_eq sink _
  | activeVersion | targetVersion | expectedBytes | stagedBytes | stateTimestampUtc | requiresReboot => rfl

lemma Capped.emitFieldTo_eq (h : Capped append size) (record : StagingRecord) (sink : σ) (field : RecordField) :
    emitFieldTo append record sink field =
      (emitRecordField record field (field = .stagedPackagePath)).foldlM append sink := by
  simp only [emitFieldTo, h.emitValueTo_eq, emitRecordField, List.foldlM_append, LawfulMonad.bind_assoc, List.foldlM_cons,
    List.foldlM_nil, bind_pure, decide_eq_true_eq]

lemma Capped.emitRecordTo_eq (h : Capped append size) (record : StagingRecord) (sink : σ) :
    emitRecordTo append record sink = (emitRecord record).foldlM append sink := by
  have hfields : ∀ (fields : List RecordField) (sink : σ), fields.foldlM (emitFieldTo append record) sink =
      (fields.flatMap fun field => emitRecordField record field (field = .stagedPackagePath)).foldlM append sink := by
    intro fields
    induction fields with
    | nil => exact fun _ => rfl
    | cons field fields ih =>
      intro sink
      simp only [List.foldlM_cons, List.flatMap_cons, List.foldlM_append, h.emitFieldTo_eq, ih]
  simp only [emitRecordTo, emitRecord, hfields, List.foldlM_append, LawfulMonad.bind_assoc, List.foldlM_cons, List.foldlM_nil,
    bind_pure]

end Capped

lemma toJson_eq (record : StagingRecord) : toJson record =
    if (jsonText record).length ≤ kMaximumStagingRecordBytes then some (jsonText record) else none := by
  rw [toJson, capped_appendSize.emitRecordTo_eq, capped_appendPart.emitRecordTo_eq,
    foldlM_appendSize _ (Nat.zero_le _), foldlM_appendPart _ (Nat.zero_le _), List.nil_append, Nat.zero_add,
    flatten_emitRecord]
  split_ifs <;> rfl

/-- What the import wants of a record beyond its form. -/
structure Fits (record : StagingRecord) : Prop where
  schema : record.schemaVersion = literal "1.0"
  staged : record.stagedBytes ≤ record.expectedBytes

lemma readFields_jsonText (record : StagingRecord) (tail : Bytes) :
    readFields [] {} (entriesText record all ++ 0x0a :: 0x7d :: tail) =
      some (all.reverse, record, tail) := by
  have hr := readFields_entriesText record {} (by decide : all ≠ []) (by decide)
    (fun _ _ => List.not_mem_nil) tail
  rw [foldl_copyField_all, append_nil] at hr
  exact hr

lemma accepts_of_fits {record : StagingRecord} (hf : record.Fits) :
    accepts all.reverse record := by
  have ha : all.all (· ∈ all.reverse) := by decide
  rw [accepts, ha, hf.schema]
  simpa using hf.staged

/-- **A record is imported from its own text**, with or without the line feed at the end. -/
theorem ofJson_jsonText {record : StagingRecord} (hf : record.Fits) {tail : Bytes} (ht : skipWhitespace tail = [])
    (hs : (0x7b :: (entriesText record all ++ 0x0a :: 0x7d :: tail)).length ≤
      kMaximumStagingRecordBytes) :
    ofJson (0x7b :: (entriesText record all ++ 0x0a :: 0x7d :: tail)) = some record := by
  have hb : matchChar 0x7b (0x7b :: (entriesText record all ++ 0x0a :: 0x7d :: tail)) =
      some (entriesText record all ++ 0x0a :: 0x7d :: tail) := rfl
  rw [ofJson, if_neg (by simpa using hs), hb]
  dsimp only
  rw [readFields_jsonText]
  dsimp only
  rw [ht, accepts_of_fits hf]
  rfl

lemma length_drop_of_ofJson {record record' : StagingRecord} {kept : ℕ}
    (h : ofJson ((jsonText record).take kept) = some record') : ((jsonText record).drop kept).length ≤ 1 := by
  rw [ofJson] at h
  split_ifs at h
  split at h
  · contradiction
  · rename_i rest hb
    split at h
    · contradiction
    · rename_i seen read rest' hr
      have hf := matchChar_append_of_some hb ((jsonText record).drop kept)
      rw [List.take_append_drop] at hf
      obtain hre := some.inj ((rfl : matchChar 0x7b (jsonText record) =
        some (entriesText record all ++ 0x0a :: 0x7d :: [0x0a])).symm.trans hf)
      have hm := readFields_append hr ((jsonText record).drop kept)
      rw [← hre, readFields_jsonText] at hm
      have ht := congrArg (fun result => result.2.2.length) (some.inj hm)
      simp only [length_append, List.length_singleton] at ht
      omega

/-- **A piece of the text is imported exactly if no more than its last line feed is missing.** -/
theorem ofJson_take {record : StagingRecord} (hfits : record.Fits)
    (hsize : (jsonText record).length ≤ kMaximumStagingRecordBytes) (kept : ℕ) :
    ofJson ((jsonText record).take kept) = if (jsonText record).length ≤ kept + 1 then some record else none := by
  split_ifs with hkept
  · rcases Nat.lt_or_ge kept (jsonText record).length with hlt | hge
    · have hcut : (jsonText record).take kept =
          0x7b :: (entriesText record all ++ 0x0a :: 0x7d :: []) := by
        have hleng : kept = (0x7b :: (entriesText record all ++ 0x0a :: 0x7d :: [])).length := by
          simp only [jsonText, List.length_cons, length_append, List.length_nil] at hkept hlt ⊢
          omega
        have hsplit : jsonText record =
            (0x7b :: (entriesText record all ++ 0x0a :: 0x7d :: [])) ++ [0x0a] := by
          simp [jsonText]
        rw [hsplit, hleng, List.take_left]
      rw [hcut]
      refine ofJson_jsonText hfits rfl (le_trans ?_ hsize)
      rw [jsonText]
      simp
    · rw [List.take_of_length_le hge]
      exact ofJson_jsonText hfits rfl hsize
  · cases himpo : ofJson ((jsonText record).take kept) with
    | none => rfl
    | some record' =>
      have := length_drop_of_ofJson himpo
      rw [List.length_drop] at this
      omega

end StagingRecord

end Nstu.Update
