import Nstu.Control.Auth

/-!
# Maintenance intents

The first half of `maintenance_intent.cpp`: what an intent is, which intents are well formed, the
bytes of an intent and the tag over them.

An enumeration of the source is kept as its raw value.  The decoder makes such values out of any
byte, and the functions of this file are the ones that tell the enumerators from the rest.
-/

namespace Nstu.Maintenance

open Wire Control

def kMaintenanceIntentHeaderBytes : ℕ := 124
def kMaximumMaintenanceParameterBytes : ℕ := 64
def kMaximumMaintenanceIntentLifetimeSeconds : UInt64 := 900
def kMaintenanceClockSkewSeconds : UInt64 := 120
def kMaximumRestartGraceSeconds : UInt32 := 300
def kMaximumMaintenanceReplayEntries : ℕ := 65536
def kMaintenanceIntentMagic : UInt32 := 0x31494d4e
def kMaintenanceIntentVersion : UInt16 := 1
def kMaintenanceIntentFlags : UInt16 := 0

/-! ## Enumerations -/

structure MaintenanceOperation where
  raw : UInt16
  deriving DecidableEq

namespace MaintenanceOperation

def installUwfFeature : MaintenanceOperation := ⟨1⟩
def removeUwfFeature : MaintenanceOperation := ⟨2⟩
def protectVolume : MaintenanceOperation := ⟨3⟩
def unprotectVolume : MaintenanceOperation := ⟨4⟩
def enableFilter : MaintenanceOperation := ⟨5⟩
def disableFilter : MaintenanceOperation := ⟨6⟩
def applyRestorePolicy : MaintenanceOperation := ⟨7⟩
def enterServicingMode : MaintenanceOperation := ⟨8⟩
def leaveServicingMode : MaintenanceOperation := ⟨9⟩
def restartClient : MaintenanceOperation := ⟨10⟩
def decommissionClient : MaintenanceOperation := ⟨11⟩
def transferManagement : MaintenanceOperation := ⟨12⟩

end MaintenanceOperation

structure UwfFeatureState where
  raw : UInt8
  deriving DecidableEq

namespace UwfFeatureState

def disabled : UwfFeatureState := ⟨1⟩
def enabled : UwfFeatureState := ⟨2⟩

end UwfFeatureState

structure UwfFilterState where
  raw : UInt8
  deriving DecidableEq

namespace UwfFilterState

def notApplicable : UwfFilterState := ⟨0⟩
def disabled : UwfFilterState := ⟨1⟩
def enabled : UwfFilterState := ⟨2⟩

end UwfFilterState

structure UwfServicingState where
  raw : UInt8
  deriving DecidableEq

namespace UwfServicingState

def notApplicable : UwfServicingState := ⟨0⟩
def inactive : UwfServicingState := ⟨1⟩
def active : UwfServicingState := ⟨2⟩

end UwfServicingState

structure RestartPath where
  raw : UInt8
  deriving DecidableEq

namespace RestartPath

def windows : RestartPath := ⟨1⟩
def uwf : RestartPath := ⟨2⟩

end RestartPath

structure DecommissionDisposition where
  raw : UInt8
  deriving DecidableEq

namespace DecommissionDisposition

def retainUwfConfiguration : DecommissionDisposition := ⟨1⟩
def disableProtection : DecommissionDisposition := ⟨2⟩
def removeUwfFeature : DecommissionDisposition := ⟨3⟩

end DecommissionDisposition

/-! ## Intents -/

structure RestoreState where
  feature : UwfFeatureState := .disabled
  currentFilter : UwfFilterState := .notApplicable
  nextFilter : UwfFilterState := .notApplicable
  servicing : UwfServicingState := .notApplicable
  policyRevision : UInt64 := 0
  deriving DecidableEq

/-- The variant `MaintenanceParameters`. -/
inductive MaintenanceParameters where
  | none
  | volume (volumeId : Block 16)
  | policy (policyDigest : Digest)
  | restart (path : RestartPath) (graceSeconds : UInt32)
  | decommission (disposition : DecommissionDisposition)
  | transfer (newAuthorityId : Block 16) (newKeyId : UInt32) (newKeyDigest : Digest)
  deriving DecidableEq

structure MaintenanceIntent where
  intentId : Block 16 := Block.zero 16
  targetClient : ClientId := Block.zero 16
  nonce : Nonce := Block.zero 32
  deploymentKeyId : UInt32 := 0
  issuedAtUnixSeconds : UInt64 := 0
  expiresAtUnixSeconds : UInt64 := 0
  policyRevision : UInt64 := 0
  expectedState : RestoreState := {}
  operation : MaintenanceOperation := .installUwfFeature
  parameters : MaintenanceParameters := .none
  deriving DecidableEq

structure SignedMaintenanceIntent where
  intent : MaintenanceIntent
  tag : Digest := Block.zero 32
  deriving DecidableEq

structure DeploymentAdminCredentialView where
  keyId : UInt32
  key : Bytes
  deriving DecidableEq

/-! ## Well-formedness -/

def nonZero (value : Bytes) : Bool := !value.isEmpty && value.any fun byte => byte != 0

def validFeatureState (state : UwfFeatureState) : Bool := state = .disabled || state = .enabled

def validFilterState (state : UwfFilterState) : Bool :=
  state = .notApplicable || state = .disabled || state = .enabled

def validServicingState (state : UwfServicingState) : Bool :=
  state = .notApplicable || state = .inactive || state = .active

def validRestartPath (path : RestartPath) : Bool := path = .windows || path = .uwf

def validDecommissionDisposition (disposition : DecommissionDisposition) : Bool :=
  disposition = .retainUwfConfiguration || disposition = .disableProtection || disposition = .removeUwfFeature

def validCredential (credential : DeploymentAdminCredentialView) : Bool :=
  credential.keyId != 0 && credential.key.length ≥ kMinimumProtocolKeyBytes

def noParameterOperation (operation : MaintenanceOperation) : Bool :=
  operation = .installUwfFeature || operation = .removeUwfFeature || operation = .enableFilter ||
    operation = .disableFilter || operation = .enterServicingMode || operation = .leaveServicingMode

def validOperationParameters (intent : MaintenanceIntent) : Bool :=
  if noParameterOperation intent.operation then
    match intent.parameters with
    | .none => true
    | _ => false
  else if intent.operation = .protectVolume ∨ intent.operation = .unprotectVolume then
    match intent.parameters with
    | .volume volumeId => nonZero volumeId.toList
    | _ => false
  else if intent.operation = .applyRestorePolicy then
    match intent.parameters with
    | .policy policyDigest => nonZero policyDigest.toList
    | _ => false
  else if intent.operation = .restartClient then
    match intent.parameters with
    | .restart path graceSeconds => validRestartPath path && graceSeconds ≤ kMaximumRestartGraceSeconds
    | _ => false
  else if intent.operation = .decommissionClient then
    match intent.parameters with
    | .decommission disposition => validDecommissionDisposition disposition
    | _ => false
  else if intent.operation = .transferManagement then
    match intent.parameters with
    | .transfer newAuthorityId newKeyId newKeyDigest =>
      nonZero newAuthorityId.toList && newKeyId != 0 && nonZero newKeyDigest.toList
    | _ => false
  else false

def validateRestoreState (state : RestoreState) : Bool :=
  if !validFeatureState state.feature || !validFilterState state.currentFilter ||
      !validFilterState state.nextFilter || !validServicingState state.servicing then false
  else if state.feature = .disabled then
    state.currentFilter = .notApplicable && state.nextFilter = .notApplicable && state.servicing = .notApplicable
  else
    state.currentFilter != .notApplicable && state.nextFilter != .notApplicable && state.servicing != .notApplicable

def validateMaintenanceIntentShape (intent : MaintenanceIntent) : Bool :=
  if !nonZero intent.intentId.toList || !nonZero intent.targetClient.toList ||
      !nonZero intent.nonce.toList || intent.deploymentKeyId = 0 || intent.issuedAtUnixSeconds = 0 ||
      intent.expiresAtUnixSeconds < intent.issuedAtUnixSeconds ||
      intent.expiresAtUnixSeconds - intent.issuedAtUnixSeconds > kMaximumMaintenanceIntentLifetimeSeconds ||
      intent.policyRevision = 0 || intent.policyRevision < intent.expectedState.policyRevision ||
      !validateRestoreState intent.expectedState then false
  else validOperationParameters intent

/-! ## Bytes and tag -/

/-- `encode_parameters`.  After the check the alternative held is the one that the operation's
case of the `switch` asks for, so that no `std::get` throws and the alternative says which bytes
follow. -/
def encodeParameters (intent : MaintenanceIntent) : Option Bytes :=
  if !validOperationParameters intent then none
  else
    match intent.parameters with
    | .none => some []
    | .volume volumeId => some volumeId.toList
    | .policy policyDigest => some policyDigest.toList
    | .restart path graceSeconds =>
      some [le path.raw, le (0 : UInt8), le (0 : UInt8), le (0 : UInt8), le graceSeconds].flatten
    | .decommission disposition =>
      some [le disposition.raw, le (0 : UInt8), le (0 : UInt8), le (0 : UInt8)].flatten
    | .transfer newAuthorityId newKeyId newKeyDigest =>
      some [newAuthorityId.toList, le newKeyId, newKeyDigest.toList].flatten

/-- The fields in front of the parameters. -/
def encodeIntentHeader (intent : MaintenanceIntent) (parameterBytes : UInt32) : Bytes :=
  [le kMaintenanceIntentMagic, le kMaintenanceIntentVersion,
    le (UInt16.ofNat kMaintenanceIntentHeaderBytes), le intent.operation.raw,
    le kMaintenanceIntentFlags, le parameterBytes, le intent.deploymentKeyId,
    intent.intentId.toList, intent.targetClient.toList, intent.nonce.toList,
    le intent.issuedAtUnixSeconds, le intent.expiresAtUnixSeconds, le intent.policyRevision,
    le intent.expectedState.policyRevision, le intent.expectedState.feature.raw,
    le intent.expectedState.currentFilter.raw, le intent.expectedState.nextFilter.raw,
    le intent.expectedState.servicing.raw, le (0 : UInt32)].flatten

/-- `encode_maintenance_intent`, empty where the intent has no encoding. -/
def encodeMaintenanceIntent (intent : MaintenanceIntent) : Bytes :=
  if !validateMaintenanceIntentShape intent then []
  else
    match encodeParameters intent with
    | none => []
    | some parameters =>
      if parameters.length > kMaximumMaintenanceParameterBytes then []
      else encodeIntentHeader intent (UInt32.ofNat parameters.length) ++ parameters

def maintenanceIntentLabel : String := "NSTU-DEPLOYMENT-MAINTENANCE-INTENT-V1"

section Tags

variable (hmac : Bytes → Bytes → Digest)

def computeMaintenanceIntentTag (credential : DeploymentAdminCredentialView)
    (intent : MaintenanceIntent) : Option Digest :=
  if !validCredential credential || credential.keyId ≠ intent.deploymentKeyId then none
  else
    let wire := encodeMaintenanceIntent intent
    if wire.isEmpty then none
    else hmacSha256 hmac credential.key (labelBytes maintenanceIntentLabel ++ wire)

def verifyMaintenanceIntentTag (credential : DeploymentAdminCredentialView)
    (signedIntent : SignedMaintenanceIntent) : Bool :=
  match computeMaintenanceIntentTag hmac credential signedIntent.intent with
  | none => false
  | some expected => expected = signedIntent.tag

end Tags

end Nstu.Maintenance
