import Nstu.Maintenance.Intent

/-!
# The codec of maintenance intents

`decode_maintenance_intent`, `encode_signed_maintenance_intent` and
`decode_signed_maintenance_intent` of `maintenance_intent.cpp`, against the encoder.

The decoder is lax in one place and strict in another: it makes enumerators out of any byte, and
then asks the validator that the encoder asks.  What it accepts is therefore the encoding of a valid
intent and nothing else (**`decodeMaintenanceIntent_iff`**), and an intent has one wire form, signed
or not (**`maintenanceIntent_codec`**).
-/

namespace Nstu.Maintenance

open Wire Reader Control Option List

/-! ## Parameters -/

def kRestartParameterBytes : ℕ := 8
def kDecommissionParameterBytes : ℕ := 4
def kTransferParameterBytes : ℕ := 16 + 4 + 32
def kMaintenanceAuthTagBytes : ℕ := 32

/-- A whole span that is read at once, after a look at its size. -/
def decodeSized {α : Type} (size : ℕ) (reader : Reader α) (wire : Bytes) : Option α :=
  if wire.length ≠ size then none else reader.run' wire

def readRestartParameters : Reader MaintenanceParameters := do
  let path : UInt8 ← readLe
  let reservedOne : UInt8 ← readLe
  let reservedTwo : UInt8 ← readLe
  let reservedThree : UInt8 ← readLe
  let graceSeconds : UInt32 ← readLe
  require (reservedOne = 0 ∧ reservedTwo = 0 ∧ reservedThree = 0)
  pure (.restart ⟨path⟩ graceSeconds)

def readDecommissionParameters : Reader MaintenanceParameters := do
  let disposition : UInt8 ← readLe
  let reservedOne : UInt8 ← readLe
  let reservedTwo : UInt8 ← readLe
  let reservedThree : UInt8 ← readLe
  require (reservedOne = 0 ∧ reservedTwo = 0 ∧ reservedThree = 0)
  pure (.decommission ⟨disposition⟩)

def readTransferParameters : Reader MaintenanceParameters := do
  let newAuthorityId ← readBlock 16
  let newKeyId : UInt32 ← readLe
  let newKeyDigest ← readBlock 32
  pure (.transfer newAuthorityId newKeyId newKeyDigest)

def decodeParameters (operation : MaintenanceOperation) (wire : Bytes) :
    Option MaintenanceParameters :=
  if noParameterOperation operation then
    if !wire.isEmpty then none else some .none
  else if operation = .protectVolume ∨ operation = .unprotectVolume then
    decodeSized 16 (.volume <$> readBlock 16) wire
  else if operation = .applyRestorePolicy then
    decodeSized 32 (.policy <$> readBlock 32) wire
  else if operation = .restartClient then
    decodeSized kRestartParameterBytes readRestartParameters wire
  else if operation = .decommissionClient then
    decodeSized kDecommissionParameterBytes readDecommissionParameters wire
  else if operation = .transferManagement then
    decodeSized kTransferParameterBytes readTransferParameters wire
  else none

/-- The alternative that an operation asks for. -/
def MaintenanceParameters.suits (operation : MaintenanceOperation) : MaintenanceParameters → Bool
  | .none => noParameterOperation operation
  | .volume _ => operation = .protectVolume || operation = .unprotectVolume
  | .policy _ => operation = .applyRestorePolicy
  | .restart _ _ => operation = .restartClient
  | .decommission _ => operation = .decommissionClient
  | .transfer _ _ _ => operation = .transferManagement

/-- The bytes of an alternative. -/
def MaintenanceParameters.wire : MaintenanceParameters → Bytes
  | .none => []
  | .volume volumeId => volumeId.toList
  | .policy policyDigest => policyDigest.toList
  | .restart path graceSeconds =>
    le path.raw ++ (le (0 : UInt8) ++ (le (0 : UInt8) ++ (le (0 : UInt8) ++ le graceSeconds)))
  | .decommission disposition =>
    le disposition.raw ++ (le (0 : UInt8) ++ (le (0 : UInt8) ++ le (0 : UInt8)))
  | .transfer newAuthorityId newKeyId newKeyDigest =>
    newAuthorityId.toList ++ (le newKeyId ++ newKeyDigest.toList)

variable {operation : MaintenanceOperation} {parameters : MaintenanceParameters}
  {intent : MaintenanceIntent} {signedIntent : SignedMaintenanceIntent} {wire : Bytes}

lemma encodeParameters_eq (h : validOperationParameters intent) :
    encodeParameters intent = some intent.parameters.wire := by
  rw [encodeParameters, h]
  cases intent.parameters with
  | _ => simp [MaintenanceParameters.wire]

lemma parameters_wire_length (parameters : MaintenanceParameters) :
    parameters.wire.length ≤ kMaximumMaintenanceParameterBytes := by
  cases parameters with
  | _ => simp [MaintenanceParameters.wire, kMaximumMaintenanceParameterBytes]

lemma parameters_wire_count (parameters : MaintenanceParameters) :
    (UInt32.ofNat parameters.wire.length).toNat = parameters.wire.length :=
  UInt32.toNat_ofNat_of_lt' (Nat.lt_of_le_of_lt (parameters_wire_length parameters) (by decide))

lemma run'_eq_some_iff {α : Type} {reader : Reader α} {s : Bytes} {value : α} :
    reader.run' s = some value ↔ ∃ r, reader.run s = some (value, r) := by
  change Option.map Prod.fst (reader.run s) = some value ↔ _
  rw [Option.map_eq_some_iff, Prod.exists]
  constructor
  · rintro ⟨_, r, h, rfl⟩
    exact ⟨r, h⟩
  · rintro ⟨r, h⟩
    exact ⟨value, r, h, rfl⟩

/-- A reader of one shape reads the bytes of the alternatives that suit the operation. -/
def ReadsFor (operation : MaintenanceOperation) (reader : Reader MaintenanceParameters) : Prop :=
  ∀ s r parameters, reader.run s = some (parameters, r) ↔ s = parameters.wire ++ r ∧ parameters.suits operation = true

lemma decodeSized_iff {size : ℕ} {reader : Reader MaintenanceParameters} (hr : ReadsFor operation reader)
    (hs : ∀ parameters : MaintenanceParameters, parameters.suits operation →
      parameters.wire.length = size) :
    decodeSized size reader wire = some parameters ↔ wire = parameters.wire ∧ parameters.suits operation := by
  simp only [decodeSized, ne_eq, ite_not, ite_none_right_eq_some, run'_eq_some_iff, hr _ _ _]
  constructor
  · rintro ⟨hl, r, rfl, hsu⟩
    have hn : r = [] := by
      rw [length_append, hs parameters hsu, Nat.add_eq_left] at hl
      exact length_eq_zero_iff.mp hl
    rw [hn, append_nil]
    exact ⟨rfl, hsu⟩
  · rintro ⟨rfl, hsu⟩
    exact ⟨hs parameters hsu, [], by simp, hsu⟩

lemma readsFor_readBlock {n : ℕ} {f : Block n → MaintenanceParameters} (hw : ∀ b, (f b).wire = b.toList)
    (hs : ∀ parameters, parameters.suits operation ↔ ∃ b, parameters = f b) :
    ReadsFor operation (f <$> readBlock n) := by
  intro s r parameters
  rw [map_eq_pure_bind, run_bind_readBlock_iff]
  simp only [run_pure_iff, hs]
  constructor
  · rintro ⟨b, _, rfl, rfl, rfl⟩
    exact ⟨by rw [hw], b, rfl⟩
  · rintro ⟨rfl, b, rfl⟩
    exact ⟨b, r, by rw [hw], rfl, rfl⟩

lemma readsFor_restart : ReadsFor .restartClient readRestartParameters := by
  intro s r parameters
  simp only [readRestartParameters, run_bind_readLe_iff, run_bind_require_iff, run_pure_iff]
  constructor
  · rintro ⟨path, _, rfl, _, _, rfl, _, _, rfl, _, _, rfl, graceSeconds, _, rfl, ⟨rfl, rfl, rfl⟩, rfl, rfl⟩
    exact ⟨by simp [MaintenanceParameters.wire], rfl⟩
  · rintro ⟨rfl, hs⟩
    cases parameters with
    | restart path graceSeconds =>
      exact ⟨_, _, by simp [MaintenanceParameters.wire], _, _, rfl, _, _, rfl, _, _, rfl, _, _, rfl,
        ⟨rfl, rfl, rfl⟩, rfl, rfl⟩
    | _ => exact absurd hs (by simp +decide [MaintenanceParameters.suits])

lemma readsFor_decommission : ReadsFor .decommissionClient readDecommissionParameters := by
  intro s r parameters
  simp only [readDecommissionParameters, run_bind_readLe_iff, run_bind_require_iff, run_pure_iff]
  constructor
  · rintro ⟨disposition, _, rfl, _, _, rfl, _, _, rfl, _, _, rfl, ⟨rfl, rfl, rfl⟩, rfl, rfl⟩
    exact ⟨by simp [MaintenanceParameters.wire], rfl⟩
  · rintro ⟨rfl, hs⟩
    cases parameters with
    | decommission disposition =>
      exact ⟨_, _, by simp [MaintenanceParameters.wire], _, _, rfl, _, _, rfl, _, _, rfl,
        ⟨rfl, rfl, rfl⟩, rfl, rfl⟩
    | _ => exact absurd hs (by simp +decide [MaintenanceParameters.suits])

lemma readsFor_transfer : ReadsFor .transferManagement readTransferParameters := by
  intro s r parameters
  simp only [readTransferParameters, run_bind_readLe_iff, run_bind_readBlock_iff, run_pure_iff]
  constructor
  · rintro ⟨newAuthorityId, _, rfl, newKeyId, _, rfl, newKeyDigest, _, rfl, rfl, rfl⟩
    exact ⟨by simp [MaintenanceParameters.wire], rfl⟩
  · rintro ⟨rfl, hs⟩
    cases parameters with
    | transfer newAuthorityId newKeyId newKeyDigest =>
      exact ⟨_, _, by simp [MaintenanceParameters.wire], _, _, rfl, _, _, rfl, rfl, rfl⟩
    | _ => exact absurd hs (by simp +decide [MaintenanceParameters.suits])

lemma suits_volume (h : operation = .protectVolume ∨ operation = .unprotectVolume) :
    parameters.suits operation ↔ ∃ volumeId, parameters = .volume volumeId := by
  have hn : noParameterOperation operation = false := by
    rcases h with rfl | rfl <;> decide
  cases parameters with
  | volume volumeId => simpa [MaintenanceParameters.suits] using h
  | none => simp [MaintenanceParameters.suits, hn]
  | _ => rcases h with rfl | rfl <;> simp +decide [MaintenanceParameters.suits]

lemma suits_policy : parameters.suits .applyRestorePolicy ↔ ∃ digest, parameters = .policy digest := by
  cases parameters with
  | policy digest => simp [MaintenanceParameters.suits]
  | _ => simp +decide [MaintenanceParameters.suits]

lemma suits_none (h : noParameterOperation operation) :
    parameters.suits operation ↔ parameters = .none := by
  cases parameters with
  | none => simpa [MaintenanceParameters.suits] using h
  | _ =>
    simp only [MaintenanceParameters.suits, reduceCtorEq, iff_false]
    intro ho
    revert h
    simp only [Bool.or_eq_true, decide_eq_true_eq] at ho
    rcases ho with rfl | rfl <;> decide

/-- **What is decoded** are the bytes of an alternative that the operation asks for. -/
lemma decodeParameters_iff : decodeParameters operation wire = some parameters ↔
    wire = parameters.wire ∧ parameters.suits operation := by
  unfold decodeParameters
  split
  · rename_i hn
    rw [suits_none hn]
    constructor
    · intro h
      cases wire with
      | nil =>
        cases h
        exact ⟨rfl, rfl⟩
      | cons byte rest => cases h
    · rintro ⟨rfl, rfl⟩
      rfl
  split
  · rename_i _ hv
    refine decodeSized_iff (readsFor_readBlock (fun _ => rfl) fun _ => suits_volume hv) ?_
    intro other ho
    obtain ⟨volumeId, rfl⟩ := (suits_volume hv).mp ho
    exact volumeId.length_toList
  split
  · rename_i hp
    subst hp
    refine decodeSized_iff (readsFor_readBlock (fun _ => rfl) fun _ => suits_policy) ?_
    intro other ho
    obtain ⟨digest, rfl⟩ := suits_policy.mp ho
    exact digest.length_toList
  split
  · rename_i hr
    subst hr
    refine decodeSized_iff readsFor_restart ?_
    intro other ho
    cases other with
    | restart path graceSeconds => simp [MaintenanceParameters.wire, kRestartParameterBytes]
    | _ => exact absurd ho (by simp +decide [MaintenanceParameters.suits])
  split
  · rename_i hd
    subst hd
    refine decodeSized_iff readsFor_decommission ?_
    intro other ho
    cases other with
    | decommission disposition => simp [MaintenanceParameters.wire, kDecommissionParameterBytes]
    | _ => exact absurd ho (by simp +decide [MaintenanceParameters.suits])
  split
  · rename_i ht
    subst ht
    refine decodeSized_iff readsFor_transfer ?_
    intro other ho
    cases other with
    | transfer newAuthorityId newKeyId newKeyDigest =>
      simp [MaintenanceParameters.wire, kTransferParameterBytes]
    | _ => exact absurd ho (by simp +decide [MaintenanceParameters.suits])
  · rename_i hn hv hp hr hd ht
    simp only [reduceCtorEq, false_iff, not_and]
    rintro -
    cases parameters with
    | _ => simp_all [MaintenanceParameters.suits]

/-! ## The header -/

/-- The fields in front of the parameters: their number of bytes, and the intent without them. -/
def readIntentHeader : Reader (UInt32 × MaintenanceIntent) := do
  let magic : UInt32 ← readLe
  let version : UInt16 ← readLe
  let headerBytes : UInt16 ← readLe
  let operation : UInt16 ← readLe
  let flags : UInt16 ← readLe
  let parameterBytes : UInt32 ← readLe
  let deploymentKeyId : UInt32 ← readLe
  let intentId ← readBlock 16
  let targetClient ← readBlock 16
  let nonce ← readBlock 32
  let issuedAtUnixSeconds : UInt64 ← readLe
  let expiresAtUnixSeconds : UInt64 ← readLe
  let policyRevision : UInt64 ← readLe
  let expectedPolicyRevision : UInt64 ← readLe
  let feature : UInt8 ← readLe
  let currentFilter : UInt8 ← readLe
  let nextFilter : UInt8 ← readLe
  let servicing : UInt8 ← readLe
  let reserved : UInt32 ← readLe
  require (magic = kMaintenanceIntentMagic)
  require (version = kMaintenanceIntentVersion)
  require (headerBytes.toNat = kMaintenanceIntentHeaderBytes)
  require (flags = kMaintenanceIntentFlags)
  require (reserved = 0)
  pure (parameterBytes,
    { intentId, targetClient, nonce, deploymentKeyId, issuedAtUnixSeconds, expiresAtUnixSeconds,
      policyRevision
      expectedState :=
        { feature := ⟨feature⟩
          currentFilter := ⟨currentFilter⟩
          nextFilter := ⟨nextFilter⟩
          servicing := ⟨servicing⟩
          policyRevision := expectedPolicyRevision }
      operation := ⟨operation⟩
      parameters := .none })

def decodeMaintenanceIntent (wire : Bytes) : Option MaintenanceIntent :=
  if wire.length < kMaintenanceIntentHeaderBytes ∨
      wire.length > kMaintenanceIntentHeaderBytes + kMaximumMaintenanceParameterBytes then none
  else do
    let ((parameterBytes, header), rest) ← readIntentHeader.run wire
    if parameterBytes.toNat > kMaximumMaintenanceParameterBytes ∨
        wire.length - kMaintenanceIntentHeaderBytes ≠ parameterBytes.toNat ∨
        wire.length - rest.length ≠ kMaintenanceIntentHeaderBytes then none
    else do
      let parameters ← decodeParameters header.operation (wire.drop kMaintenanceIntentHeaderBytes)
      let intent := { header with parameters }
      if !validateMaintenanceIntentShape intent then none else some intent

def encodeSignedMaintenanceIntent (signedIntent : SignedMaintenanceIntent) : Bytes :=
  let output := encodeMaintenanceIntent signedIntent.intent
  if output.isEmpty then [] else output ++ signedIntent.tag.toList

def decodeSignedMaintenanceIntent (wire : Bytes) : Option SignedMaintenanceIntent :=
  if wire.length < kMaintenanceIntentHeaderBytes + kMaintenanceAuthTagBytes then none
  else do
    let parameterBytes ← (readLe : Reader UInt32).run' (wire.drop 12)
    if parameterBytes.toNat > kMaximumMaintenanceParameterBytes then none
    else do
      let intentBytes := kMaintenanceIntentHeaderBytes + parameterBytes.toNat
      if wire.length ≠ intentBytes + kMaintenanceAuthTagBytes then none
      else do
        let intent ← decodeMaintenanceIntent (wire.take intentBytes)
        let tag ← (readBlock 32).run' (wire.drop intentBytes)
        some { intent, tag }

lemma encodeIntentHeader_length (intent : MaintenanceIntent) (parameterBytes : UInt32) :
    (encodeIntentHeader intent parameterBytes).length = kMaintenanceIntentHeaderBytes := by
  simp [encodeIntentHeader, kMaintenanceIntentHeaderBytes]

lemma run_readIntentHeader_iff {s r : Bytes} {parameterBytes : UInt32} :
    readIntentHeader.run s = some ((parameterBytes, intent), r) ↔
      s = encodeIntentHeader intent parameterBytes ++ r ∧ intent.parameters = .none := by
  simp only [readIntentHeader, run_bind_readLe_iff, run_bind_readBlock_iff, run_bind_require_iff,
    run_pure_iff, Prod.mk.injEq]
  constructor
  · rintro ⟨_, _, rfl, _, _, rfl, he, _, rfl, _, _, rfl, _, _, rfl, _, _, rfl, _, _, rfl,
      _, _, rfl, _, _, rfl, _, _, rfl, _, _, rfl, _, _, rfl, _, _, rfl, _, _, rfl, _, _, rfl,
      _, _, rfl, _, _, rfl, _, _, rfl, _, _, rfl, rfl, rfl, hh, rfl, rfl, ⟨rfl, rfl⟩, rfl⟩
    have hhe : he = UInt16.ofNat kMaintenanceIntentHeaderBytes := by
      rw [← hh, UInt16.ofNat_toNat]
    subst hhe
    exact ⟨by simp [encodeIntentHeader], rfl⟩
  · rintro ⟨rfl, hn⟩
    obtain ⟨intentId, targetClient, nonce, deploymentKeyId, issuedAt, expiresAt, policyRevision,
      expectedState, operation, parameters⟩ := intent
    subst hn
    exact ⟨_, _, by simp [encodeIntentHeader], _, _, rfl,
      UInt16.ofNat kMaintenanceIntentHeaderBytes, _, rfl, _, _, rfl, _, _, rfl, _, _, rfl,
      _, _, rfl, _, _, rfl, _, _, rfl, _, _, rfl, _, _, rfl, _, _, rfl, _, _, rfl, _, _, rfl,
      _, _, rfl, _, _, rfl, _, _, rfl, _, _, rfl, _, _, rfl, rfl, rfl, rfl, rfl, rfl, ⟨rfl, rfl⟩, rfl⟩

/-! ## The two directions -/

lemma validOperationParameters_of_shape (h : validateMaintenanceIntentShape intent) :
    validOperationParameters intent := by
  unfold validateMaintenanceIntentShape at h
  split at h
  · cases h
  · exact h

lemma suits_of_validOperationParameters (h : validOperationParameters intent) :
    intent.parameters.suits intent.operation := by
  unfold validOperationParameters at h
  cases hp : intent.parameters with
  | _ =>
    simp only [hp] at h
    split_ifs at h
    simp_all [MaintenanceParameters.suits]

lemma encodeMaintenanceIntent_eq (h : validateMaintenanceIntentShape intent) : encodeMaintenanceIntent intent =
      encodeIntentHeader intent (UInt32.ofNat intent.parameters.wire.length) ++
        intent.parameters.wire := by
  have hm := parameters_wire_length intent.parameters
  rw [encodeMaintenanceIntent, h, encodeParameters_eq (validOperationParameters_of_shape h)]
  simp [hm]

/-- **What is decoded** is the encoding of a valid intent. -/
lemma decodeMaintenanceIntent_iff : decodeMaintenanceIntent wire = some intent ↔
    validateMaintenanceIntentShape intent ∧ wire = encodeMaintenanceIntent intent := by
  have hh : ∀ r : Bytes, (encodeIntentHeader intent (UInt32.ofNat intent.parameters.wire.length) ++
      r).length = kMaintenanceIntentHeaderBytes + r.length := by
    intro r
    rw [length_append, encodeIntentHeader_length]
  constructor
  · intro h
    unfold decodeMaintenanceIntent at h
    split at h
    · cases h
    simp only [bind_eq_bind, bind_eq_some_iff, Prod.exists] at h
    obtain ⟨parameterBytes, header, rest, hr, h⟩ := h
    split at h
    · cases h
    rename_i hs
    rw [bind_eq_some_iff] at h
    obtain ⟨parameters, hp, h⟩ := h
    split at h
    · cases h
    rename_i hv
    cases h
    rw [Bool.not_eq_true', Bool.not_eq_false] at hv
    obtain ⟨rfl, -⟩ := run_readIntentHeader_iff.mp hr
    rw [drop_left' (encodeIntentHeader_length header parameterBytes)] at hp
    obtain ⟨rfl, -⟩ := decodeParameters_iff.mp hp
    refine ⟨hv, ?_⟩
    rw [encodeMaintenanceIntent_eq hv]
    have hc : UInt32.ofNat parameters.wire.length = parameterBytes := by
      have hl : parameters.wire.length = parameterBytes.toNat := by
        rw [length_append, encodeIntentHeader_length] at hs
        omega
      rw [hl, UInt32.ofNat_toNat]
    rw [hc]
    rfl
  · rintro ⟨hv, rfl⟩
    rw [encodeMaintenanceIntent_eq hv]
    have hm := parameters_wire_length intent.parameters
    have hc := parameters_wire_count intent.parameters
    have hr : readIntentHeader.run (encodeIntentHeader intent
        (UInt32.ofNat intent.parameters.wire.length) ++ intent.parameters.wire) =
          some ((UInt32.ofNat intent.parameters.wire.length, { intent with parameters := .none }),
            intent.parameters.wire) :=
      run_readIntentHeader_iff.mpr ⟨rfl, rfl⟩
    have hp : decodeParameters intent.operation intent.parameters.wire = some intent.parameters :=
      decodeParameters_iff.mpr ⟨rfl, suits_of_validOperationParameters (validOperationParameters_of_shape hv)⟩
    rw [decodeMaintenanceIntent, if_neg (by rw [hh]; omega), hr]
    simp only [bind_eq_bind, bind_some]
    rw [if_neg (by rw [hh, hc]; omega),
      drop_left' (encodeIntentHeader_length intent _), hp]
    simp [hv]

/-! ## The signed form -/

lemma encodeMaintenanceIntent_ne_nil (h : validateMaintenanceIntentShape intent) :
    encodeMaintenanceIntent intent ≠ [] := by
  rw [encodeMaintenanceIntent_eq h]
  intro hn
  have hl := congrArg length hn
  rw [length_append, encodeIntentHeader_length] at hl
  simp [kMaintenanceIntentHeaderBytes] at hl

lemma encodeSignedMaintenanceIntent_eq (h : validateMaintenanceIntentShape signedIntent.intent) :
    encodeSignedMaintenanceIntent signedIntent =
      encodeMaintenanceIntent signedIntent.intent ++ signedIntent.tag.toList := by
  simp [encodeSignedMaintenanceIntent, encodeMaintenanceIntent_ne_nil h]

lemma encodeMaintenanceIntent_length (h : validateMaintenanceIntentShape intent) :
    (encodeMaintenanceIntent intent).length = kMaintenanceIntentHeaderBytes + intent.parameters.wire.length := by
  rw [encodeMaintenanceIntent_eq h, length_append, encodeIntentHeader_length]

lemma encodeIntentHeader_split (intent : MaintenanceIntent) : ∃ before after : Bytes, before.length = 12 ∧
      ∀ parameterBytes, encodeIntentHeader intent parameterBytes = before ++ (le parameterBytes ++ after) := by
  refine ⟨[le kMaintenanceIntentMagic, le kMaintenanceIntentVersion,
    le (UInt16.ofNat kMaintenanceIntentHeaderBytes), le intent.operation.raw,
    le kMaintenanceIntentFlags].flatten, [le intent.deploymentKeyId,
    intent.intentId.toList, intent.targetClient.toList, intent.nonce.toList,
    le intent.issuedAtUnixSeconds, le intent.expiresAtUnixSeconds, le intent.policyRevision,
    le intent.expectedState.policyRevision, le intent.expectedState.feature.raw,
    le intent.expectedState.currentFilter.raw, le intent.expectedState.nextFilter.raw,
    le intent.expectedState.servicing.raw, le (0 : UInt32)].flatten, rfl, ?_⟩
  intro parameterBytes
  simp only [encodeIntentHeader, flatten_cons, append_assoc, flatten_nil, nil_append]

lemma run_readLe_drop_twelve (h : validateMaintenanceIntentShape intent) (rest : Bytes) :
    (readLe : Reader UInt32).run' ((encodeMaintenanceIntent intent ++ rest).drop 12) =
      some (UInt32.ofNat intent.parameters.wire.length) := by
  obtain ⟨before, after, ht, hh⟩ := encodeIntentHeader_split intent
  rw [encodeMaintenanceIntent_eq h, hh, append_assoc, append_assoc,
    drop_left' ht, append_assoc, run'_eq_some_iff]
  exact ⟨_, run_readLe_iff.mpr rfl⟩

/-- **What is decoded in the signed form** is the encoding of a valid intent, followed by a tag. -/
lemma decodeSignedMaintenanceIntent_iff : decodeSignedMaintenanceIntent wire = some signedIntent ↔
    validateMaintenanceIntentShape signedIntent.intent ∧
      wire = encodeSignedMaintenanceIntent signedIntent := by
  constructor
  · intro h
    unfold decodeSignedMaintenanceIntent at h
    split at h
    · cases h
    simp only [bind_eq_bind, bind_eq_some_iff] at h
    obtain ⟨parameterBytes, -, h⟩ := h
    split at h
    · cases h
    split at h
    · cases h
    rename_i hleng
    simp only [bind_eq_some_iff] at h
    obtain ⟨intent, hinte, tag, htag, h⟩ := h
    cases h
    obtain ⟨hvalid, htake⟩ := decodeMaintenanceIntent_iff.mp hinte
    obtain ⟨r, hdrop⟩ := run'_eq_some_iff.mp htag
    rw [run_readBlock_iff] at hdrop
    have hnil : r = [] := by
      have hrest := congrArg length hdrop
      rw [length_drop, length_append, tag.length_toList] at hrest
      unfold kMaintenanceAuthTagBytes at hleng
      apply length_eq_zero_iff.mp
      omega
    rw [hnil, append_nil] at hdrop
    refine ⟨hvalid, ?_⟩
    calc wire = wire.take (kMaintenanceIntentHeaderBytes + parameterBytes.toNat) ++
          wire.drop (kMaintenanceIntentHeaderBytes + parameterBytes.toNat) :=
        (take_append_drop _ wire).symm
      _ = encodeMaintenanceIntent intent ++ tag.toList := by rw [htake, hdrop]
      _ = encodeSignedMaintenanceIntent { intent, tag } :=
        (@encodeSignedMaintenanceIntent_eq { intent, tag } hvalid).symm
  · rintro ⟨hvalid, rfl⟩
    have hmost := parameters_wire_length signedIntent.intent.parameters
    have hcount := parameters_wire_count signedIntent.intent.parameters
    have hleng := encodeMaintenanceIntent_length hvalid
    have hwire : (encodeMaintenanceIntent signedIntent.intent ++ signedIntent.tag.toList).length =
        kMaintenanceIntentHeaderBytes + signedIntent.intent.parameters.wire.length +
          kMaintenanceAuthTagBytes := by
      rw [length_append, hleng, signedIntent.tag.length_toList]
      rfl
    have htag : (readBlock 32).run' signedIntent.tag.toList = some signedIntent.tag := by
      rw [run'_eq_some_iff]
      exact ⟨[], run_readBlock_iff.mpr (by simp)⟩
    rw [encodeSignedMaintenanceIntent_eq hvalid, decodeSignedMaintenanceIntent,
      if_neg (by rw [hwire]; omega), run_readLe_drop_twelve hvalid]
    simp only [bind_eq_bind, bind_some, hcount]
    rw [if_neg (by omega), if_neg (by rw [hwire]; omega), take_left' hleng,
      drop_left' hleng, decodeMaintenanceIntent_iff.mpr ⟨hvalid, rfl⟩, htag]
    rfl

section Tags

variable (hmac : Bytes → Bytes → Digest)

/-- **The codec of maintenance intents.**  A valid intent is read back from its encoding, what is
read is encoded as it came, signed or not, and the tag of a signed intent that came in is computed
over the very bytes in front of it. -/
theorem maintenanceIntent_codec : (∀ intent, validateMaintenanceIntentShape intent = true →
      decodeMaintenanceIntent (encodeMaintenanceIntent intent) = some intent) ∧
    (∀ wire intent, decodeMaintenanceIntent wire = some intent → encodeMaintenanceIntent intent = wire) ∧
    (∀ signedIntent : SignedMaintenanceIntent, validateMaintenanceIntentShape signedIntent.intent = true →
      decodeSignedMaintenanceIntent (encodeSignedMaintenanceIntent signedIntent) = some signedIntent) ∧
    (∀ wire signedIntent, decodeSignedMaintenanceIntent wire = some signedIntent →
      encodeSignedMaintenanceIntent signedIntent = wire ∧
        ∀ credential tag, computeMaintenanceIntentTag hmac credential signedIntent.intent = some tag →
          hmacSha256 hmac credential.key (labelBytes maintenanceIntentLabel ++
            wire.take (wire.length - kMaintenanceAuthTagBytes)) = some tag) := by
  refine ⟨?_, ?_, ?_, ?_⟩
  · intro intent hvalid
    exact decodeMaintenanceIntent_iff.mpr ⟨hvalid, rfl⟩
  · intro wire intent hread
    exact (decodeMaintenanceIntent_iff.mp hread).2.symm
  · intro signedIntent hvalid
    exact decodeSignedMaintenanceIntent_iff.mpr ⟨hvalid, rfl⟩
  · intro wire signedIntent hread
    obtain ⟨hvalid, rfl⟩ := decodeSignedMaintenanceIntent_iff.mp hread
    refine ⟨rfl, ?_⟩
    intro credential tag htag
    have htake : (encodeSignedMaintenanceIntent signedIntent).take
        ((encodeSignedMaintenanceIntent signedIntent).length - kMaintenanceAuthTagBytes) =
          encodeMaintenanceIntent signedIntent.intent := by
      rw [encodeSignedMaintenanceIntent_eq hvalid]
      apply List.take_left'
      rw [List.length_append, signedIntent.tag.length_toList]
      exact (Nat.add_sub_cancel _ _).symm
    rw [htake]
    unfold computeMaintenanceIntentTag at htag
    split at htag
    · cases htag
    · simpa [encodeMaintenanceIntent_ne_nil hvalid] using htag

end Tags

/-- An order to restart through the filter within a minute, with a tag of fives. -/
def restartOrder : SignedMaintenanceIntent where
  intent :=
    { intentId := .fill 16 1
      targetClient := .fill 16 2
      nonce := .fill 32 3
      deploymentKeyId := 1
      issuedAtUnixSeconds := 1000
      expiresAtUnixSeconds := 1100
      policyRevision := 4
      operation := .restartClient
      parameters := .restart .uwf 60 }
  tag := .fill 32 5

/-- A signed restart order, there and back. -/
theorem maintenanceIntent_codec_restart :
    decodeMaintenanceIntent (encodeMaintenanceIntent restartOrder.intent) = some restartOrder.intent ∧
      decodeSignedMaintenanceIntent (encodeSignedMaintenanceIntent restartOrder) = some restartOrder ∧
      (encodeSignedMaintenanceIntent restartOrder).length = 124 + 8 + 32 := by
  have hcodec := maintenanceIntent_codec fun _ _ => Block.zero 32
  have hvalid : validateMaintenanceIntentShape restartOrder.intent = true := by decide
  exact ⟨hcodec.1 _ hvalid, hcodec.2.2.1 _ hvalid, by decide +kernel⟩

end Nstu.Maintenance
