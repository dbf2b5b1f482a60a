import Nstu.Control.Protocol

/-!
# Control messages

The messages of `control_messages.hpp` that a client reports itself with, and their encoders and
decoders from `control_messages.cpp`.

`UwfConfigureOutcome` and `UwfFleetPhase` have a fixed underlying type, so a value may be none of the
named ones; such a value is kept as `unnamed`, and no encoder puts it on the wire.
-/

namespace Nstu.Control

open Wire Reader

/-- `control::BootId`. -/
abbrev BootId := Block 16

def kMaximumHostnameBytes : ℕ := 255
def kMaximumUwfDetailBytes : ℕ := 256
def kMaximumHelpMessageBytes : ℕ := 256
def kMaximumClientVersionBytes : ℕ := 32
def kMinimumSnapshotIntervalSeconds : UInt16 := 5
def kMaximumSnapshotIntervalSeconds : UInt16 := 10
def kMaximumSnapshotWidth : UInt16 := 1280
def kMaximumSnapshotHeight : UInt16 := 720
def kMaximumSnapshotJpegBytes : ℕ := 512 * 1024
def kStatusVersion : UInt16 := 2
def kSnapshotFrameVersion : UInt16 := 1
def kFleetMetadataVersion : UInt16 := 1

/-- A flag word with one bit, or none. -/
def flag {T : Type} [Word T] (set : Bool) (bit : ℕ) : T := Word.ofNat (if set then bit else 0)

/-! ## Enumerations -/

inductive VideoDeliveryMode where
  | multicast
  | unicast
  deriving DecidableEq

def VideoDeliveryMode.raw : VideoDeliveryMode → UInt8
  | multicast => 0
  | unicast => 1

inductive WolSupportState where
  | unknown
  | supported
  | unsupported
  | missingMac
  deriving DecidableEq

namespace WolSupportState

def raw : WolSupportState → UInt8
  | unknown => 0
  | supported => 1
  | unsupported => 2
  | missingMac => 3

def ofRaw (value : UInt8) : Option WolSupportState :=
  [unknown, supported, unsupported, missingMac].find? fun state => state.raw == value

end WolSupportState

inductive UwfConfigureOutcome where
  | armed
  | alreadyEnabled
  | unsupportedEdition
  | featureMissing
  | probeUnavailable
  | providerUnavailable
  | rebootPending
  | invalidDataRoot
  | readinessFailed
  | checkpointRequired
  | accessDenied
  | failed
  | busy
  | unnamed (value : UInt8) (h : value = 0 ∨ 13 < value)
  deriving DecidableEq

namespace UwfConfigureOutcome

def raw : UwfConfigureOutcome → UInt8
  | armed => 1
  | alreadyEnabled => 2
  | unsupportedEdition => 3
  | featureMissing => 4
  | probeUnavailable => 5
  | providerUnavailable => 6
  | rebootPending => 7
  | invalidDataRoot => 8
  | readinessFailed => 9
  | checkpointRequired => 10
  | accessDenied => 11
  | failed => 12
  | busy => 13
  | unnamed value _ => value

/-- The outcomes that have a name, in the order of their values. -/
def named : List UwfConfigureOutcome :=
  [armed, alreadyEnabled, unsupportedEdition, featureMissing, probeUnavailable, providerUnavailable,
    rebootPending, invalidDataRoot, readinessFailed, checkpointRequired, accessDenied, failed, busy]

def ofRaw (value : UInt8) : Option UwfConfigureOutcome := named.find? fun outcome => outcome.raw == value

end UwfConfigureOutcome

inductive UwfFleetPhase where
  | idle
  | requested
  | configuring
  | awaitingRestart
  | restarting
  | verifying
  | verifiedProtected
  | failed
  | unsupported
  | unnamed (value : UInt8) (h : value = 0 ∨ 9 < value)
  deriving DecidableEq

namespace UwfFleetPhase

def raw : UwfFleetPhase → UInt8
  | idle => 1
  | requested => 2
  | configuring => 3
  | awaitingRestart => 4
  | restarting => 5
  | verifying => 6
  | verifiedProtected => 7
  | failed => 8
  | unsupported => 9
  | unnamed value _ => value

/-- The phases that have a name, in the order of their values. -/
def named : List UwfFleetPhase :=
  [idle, requested, configuring, awaitingRestart, restarting, verifying, verifiedProtected, failed, unsupported]

def ofRaw (value : UInt8) : Option UwfFleetPhase := named.find? fun phase => phase.raw == value

end UwfFleetPhase

/-! ## Messages -/

structure ClientStatusReport where
  hostname : Bytes
  locked : Bool := false
  streaming : Bool := false
  snapshotting : Bool := false
  viewingBroadcast : Bool := false
  framesPerSecond : UInt8 := 0
  snapshotIntervalSeconds : UInt16 := 0
  sessionId : UInt32 := 0
  latencyMs : UInt32 := 0
  packetLossPerMille : UInt32 := 0
  packetLossSampleSize : UInt64 := 0
  delivery : VideoDeliveryMode := .multicast
  deriving DecidableEq

structure SnapshotFrame where
  width : UInt16
  height : UInt16
  capturedAtUnixMilliseconds : UInt64
  jpeg : Bytes
  deriving DecidableEq

structure UwfConfigureReport where
  outcome : UwfConfigureOutcome := .failed
  rebootRequired : Bool := false
  dataExclusionReady : Bool := false
  registryExclusionReady : Bool := false
  detail : Bytes
  deriving DecidableEq

structure UwfProtectionProbe where
  probeSucceeded : Bool := false
  filterCurrentEnabled : Bool := false
  filterNextEnabled : Bool := false
  systemVolumeCurrentProtected : Bool := false
  dataExclusionPresent : Bool := false
  registryExclusionPresent : Bool := false
  deriving DecidableEq

/-- `probe_proves_protection`.  What is to happen at the next boot is no part of it. -/
def probeProvesProtection (probe : UwfProtectionProbe) : Bool :=
  probe.probeSucceeded && probe.filterCurrentEnabled && probe.systemVolumeCurrentProtected

structure UwfFleetStatusReport where
  operationId : UInt64 := 0
  bootId : BootId := Block.zero 16
  phase : UwfFleetPhase := .idle
  probe : UwfProtectionProbe := {}
  detail : Bytes
  deriving DecidableEq

structure HelpRequestMessage where
  active : Bool := true
  timestampUnixMs : UInt64 := 0
  message : Bytes
  deriving DecidableEq

structure WolReportMessage where
  mac : Block 6
  support : WolSupportState
  deriving DecidableEq

structure FleetMetadataMessage where
  clientVersion : Bytes
  agentConnected : Bool
  deriving DecidableEq

def printableAscii (text : Bytes) : Bool := text.all fun byte => 0x20 ≤ byte && byte < 0x7f

/-! ## Status reports -/

/-- The rates and intervals a status report may have beside its two flags. -/
def validCadence (report : ClientStatusReport) : Bool :=
  !((report.streaming && (report.framesPerSecond < 5 || report.framesPerSecond > 15)) ||
    (!report.streaming && report.framesPerSecond != 0) ||
    (report.snapshotting && (report.snapshotIntervalSeconds < kMinimumSnapshotIntervalSeconds ||
        report.snapshotIntervalSeconds > kMaximumSnapshotIntervalSeconds)) ||
    (!report.snapshotting && report.snapshotIntervalSeconds != 0))

def encodeStatusReport (report : ClientStatusReport) : Bytes :=
  if report.hostname.isEmpty || report.hostname.length > kMaximumHostnameBytes ||
      report.packetLossPerMille > 1000 || !validCadence report then []
  else
    let flags : UInt16 := flag report.locked 1 ||| flag report.streaming 2 |||
      flag report.snapshotting 4 ||| flag report.viewingBroadcast 8
    [le kStatusVersion, le flags, le report.sessionId, le report.latencyMs,
      le report.packetLossPerMille, le report.packetLossSampleSize, le report.delivery.raw,
      le report.framesPerSecond, le report.snapshotIntervalSeconds,
      le (UInt16.ofNat report.hostname.length), report.hostname].flatten

/-- The two fields that the second version of the report has and the first has not. -/
def readCadence (version : UInt16) : Reader (UInt8 × UInt16) :=
  if version = kStatusVersion then do
    let framesPerSecond : UInt8 ← readLe
    let snapshotIntervalSeconds : UInt16 ← readLe
    pure (framesPerSecond, snapshotIntervalSeconds)
  else pure (0, 0)

def readStatusReport : Reader ClientStatusReport := do
  let version : UInt16 ← readLe
  require (version = 1 ∨ version = kStatusVersion)
  let flags : UInt16 ← readLe
  require (flags &&& ~~~15 = 0)
  let sessionId : UInt32 ← readLe
  let latencyMs : UInt32 ← readLe
  let packetLossPerMille : UInt32 ← readLe
  require (packetLossPerMille ≤ 1000)
  let packetLossSampleSize : UInt64 ← readLe
  let delivery : UInt8 ← readLe
  require (delivery ≤ 1)
  let cadence ← readCadence version
  let hostnameBytes : UInt16 ← readLe
  require (hostnameBytes ≠ 0)
  require (hostnameBytes.toNat ≤ kMaximumHostnameBytes)
  let left ← remaining
  require (left = hostnameBytes.toNat)
  let hostname ← readBytes hostnameBytes.toNat
  let report : ClientStatusReport :=
    { hostname := hostname
      locked := flags &&& 1 != 0
      streaming := flags &&& 2 != 0
      snapshotting := flags &&& 4 != 0
      viewingBroadcast := flags &&& 8 != 0
      framesPerSecond := cadence.1
      snapshotIntervalSeconds := cadence.2
      sessionId := sessionId
      latencyMs := latencyMs
      packetLossPerMille := packetLossPerMille
      packetLossSampleSize := packetLossSampleSize
      delivery := if delivery = 0 then .multicast else .unicast }
  require (validCadence report = true)
  pure report

def decodeStatusReport (payload : Bytes) : Option ClientStatusReport :=
  (readStatusReport.run payload).map Prod.fst

/-! ## Managed mode -/

def decodeFreezeState : Bytes → Option Bool
  | [value] => if value ≤ 1 then some (value != 0) else none
  | _ => none

/-! ## Reports of the write filter -/

/-- The text at the end of a report: its length, and printable bytes up to the end. -/
def readDetail : Reader Bytes := do
  let detailBytes : UInt16 ← readLe
  require (detailBytes ≠ 0)
  require (detailBytes.toNat ≤ kMaximumUwfDetailBytes)
  let left ← remaining
  require (left = detailBytes.toNat)
  let detail ← readBytes detailBytes.toNat
  require (printableAscii detail = true)
  pure detail

def readUwfConfigureReport : Reader UwfConfigureReport := do
  let rawOutcome : UInt8 ← readLe
  let outcome ← ofOption (UwfConfigureOutcome.ofRaw rawOutcome)
  let flags : UInt8 ← readLe
  require (flags &&& ~~~0x07 = 0)
  let detail ← readDetail
  pure ⟨outcome, flags &&& 1 != 0, flags &&& 2 != 0, flags &&& 4 != 0, detail⟩

def decodeUwfConfigureReport (payload : Bytes) : Option UwfConfigureReport :=
  (readUwfConfigureReport.run payload).map Prod.fst

def probeFlags (probe : UwfProtectionProbe) : UInt8 :=
  flag probe.probeSucceeded 0x01 ||| flag probe.filterCurrentEnabled 0x02 |||
    flag probe.filterNextEnabled 0x04 ||| flag probe.systemVolumeCurrentProtected 0x08 |||
    flag probe.dataExclusionPresent 0x10 ||| flag probe.registryExclusionPresent 0x20

def probeOfFlags (flags : UInt8) : UwfProtectionProbe :=
  ⟨flags &&& 0x01 != 0, flags &&& 0x02 != 0, flags &&& 0x04 != 0, flags &&& 0x08 != 0,
    flags &&& 0x10 != 0, flags &&& 0x20 != 0⟩

def encodeUwfFleetStatusReport (report : UwfFleetStatusReport) : Bytes :=
  if report.phase.raw < 1 || report.phase.raw > 9 || report.detail.isEmpty ||
      report.detail.length > kMaximumUwfDetailBytes || !printableAscii report.detail then []
  else
    [le report.operationId, report.bootId.toList, le report.phase.raw, le (probeFlags report.probe),
      le (UInt16.ofNat report.detail.length), report.detail].flatten

def readUwfFleetStatusReport : Reader UwfFleetStatusReport := do
  let operationId : UInt64 ← readLe
  let bootId ← readBlock 16
  let rawPhase : UInt8 ← readLe
  let phase ← ofOption (UwfFleetPhase.ofRaw rawPhase)
  let flags : UInt8 ← readLe
  require (flags &&& ~~~0x3f = 0)
  let detail ← readDetail
  -- a probe that was not completed has observed nothing
  require (flags &&& 0x01 = 0 → flags &&& ~~~0x01 = 0)
  require (phase = .verifiedProtected → probeProvesProtection (probeOfFlags flags) = true)
  pure ⟨operationId, bootId, phase, probeOfFlags flags, detail⟩

def decodeUwfFleetStatusReport (payload : Bytes) : Option UwfFleetStatusReport :=
  (readUwfFleetStatusReport.run payload).map Prod.fst

/-! ## Snapshots -/

/-- The frames that `encode_snapshot_frame` and `update_snapshot` both accept. -/
def validSnapshotFrame (frame : SnapshotFrame) : Bool :=
  !(frame.width == 0 || frame.height == 0 || frame.width > kMaximumSnapshotWidth ||
    frame.height > kMaximumSnapshotHeight || frame.capturedAtUnixMilliseconds == 0 ||
    frame.jpeg.isEmpty || frame.jpeg.length > kMaximumSnapshotJpegBytes)

def encodeSnapshotFrame (frame : SnapshotFrame) : Bytes :=
  if !validSnapshotFrame frame then []
  else
    [le kSnapshotFrameVersion, le frame.width, le frame.height, le (0 : UInt16),
      le frame.capturedAtUnixMilliseconds, le (UInt32.ofNat frame.jpeg.length), frame.jpeg].flatten

def readSnapshotFrame : Reader SnapshotFrame := do
  let version : UInt16 ← readLe
  require (version = kSnapshotFrameVersion)
  let width : UInt16 ← readLe
  require (width ≠ 0 ∧ width ≤ kMaximumSnapshotWidth)
  let height : UInt16 ← readLe
  require (height ≠ 0 ∧ height ≤ kMaximumSnapshotHeight)
  let reserved : UInt16 ← readLe
  require (reserved = 0)
  let capturedAtUnixMilliseconds : UInt64 ← readLe
  require (capturedAtUnixMilliseconds ≠ 0)
  let jpegBytes : UInt32 ← readLe
  require (jpegBytes ≠ 0)
  require (jpegBytes.toNat ≤ kMaximumSnapshotJpegBytes)
  let left ← remaining
  require (left = jpegBytes.toNat)
  let jpeg ← readBytes jpegBytes.toNat
  pure ⟨width, height, capturedAtUnixMilliseconds, jpeg⟩

def decodeSnapshotFrame (payload : Bytes) : Option SnapshotFrame :=
  (readSnapshotFrame.run payload).map Prod.fst

/-! ## Help requests -/

def encodeHelpRequest (message : HelpRequestMessage) : Bytes :=
  if message.message.length > kMaximumHelpMessageBytes then []
  else
    [[if message.active then 1 else 0], le message.timestampUnixMs,
      le (UInt16.ofNat message.message.length), message.message].flatten

def readHelpRequest : Reader HelpRequestMessage := do
  let active : UInt8 ← readLe
  let timestampUnixMs : UInt64 ← readLe
  let messageBytes : UInt16 ← readLe
  require (messageBytes.toNat ≤ kMaximumHelpMessageBytes)
  let left ← remaining
  require (left = messageBytes.toNat)
  let message ← readBytes messageBytes.toNat
  pure ⟨active != 0, timestampUnixMs, message⟩

def decodeHelpRequest (payload : Bytes) : Option HelpRequestMessage :=
  (readHelpRequest.run payload).map Prod.fst

/-! ## Wake-on-LAN and fleet metadata -/

def readWolReport : Reader WolReportMessage := do
  let mac ← readBlock 6
  let rawSupport : UInt8 ← readLe
  let support ← ofOption (WolSupportState.ofRaw rawSupport)
  let reserved : UInt8 ← readLe
  require (reserved = 0)
  let left ← remaining
  require (left = 0)
  pure ⟨mac, support⟩

def decodeWolReport (payload : Bytes) : Option WolReportMessage :=
  (readWolReport.run payload).map Prod.fst

def readFleetMetadata : Reader FleetMetadataMessage := do
  let version : UInt16 ← readLe
  require (version = kFleetMetadataVersion)
  let agent : UInt8 ← readLe
  require (agent ≤ 1)
  let versionBytes : UInt16 ← readLe
  require (versionBytes ≠ 0)
  require (versionBytes.toNat ≤ kMaximumClientVersionBytes)
  let left ← remaining
  require (left = versionBytes.toNat)
  let clientVersion ← readBytes versionBytes.toNat
  pure ⟨clientVersion, agent != 0⟩

def decodeFleetMetadata (payload : Bytes) : Option FleetMetadataMessage :=
  (readFleetMetadata.run payload).map Prod.fst

end Nstu.Control
