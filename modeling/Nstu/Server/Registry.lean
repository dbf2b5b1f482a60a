import Std.Data.ExtTreeMap
import Mathlib.Data.List.Induction
import Nstu.Control.Auth
import Nstu.Control.Messages

/-!
# The client registry

`client_registry.hpp` and `client_registry.cpp`: what the server knows of each client.  The part that
matters most is the state of the write filter, since an exam may start only on a client whose
`UwfFleetState::proves_current_protection()` holds.

A call of the registry is one of `Call`, with the reading of the clock it makes.  `uwf_step` says once
what every call does to the write-filter state of one client, and both results rest on it.

**A proof has a report behind it.**  `protection_reported` traces a proof of protection back to the
report that gave it, with nothing after it that should have taken it away.

**Whether a restart is missed.**  `restart_enforced_iff` says when a client that has to restart
cannot be taken for protected on the boot it was on.
-/

namespace Nstu.Server

open Wire Control

inductive ClientStatus where
  | connecting
  | online
  | degraded
  | locked
  | offline
  deriving DecidableEq

/-- `UwfFleetState`.  Times are readings of the steady clock. -/
structure UwfFleetState where
  phase : UwfFleetPhase := .idle
  operationId : UInt64 := 0
  restartRequested : Bool := false
  restartExpected : Bool := false
  reported : Bool := false
  configureBootId : BootId := Block.zero 16
  observedBootId : BootId := Block.zero 16
  verifiedBootId : BootId := Block.zero 16
  probe : UwfProtectionProbe := {}
  detail : Bytes := []
  requestedAt : ℤ := 0
  updatedAt : ℤ := 0

/-- `proves_current_protection()`: the only predicate an exam may be started on. -/
def UwfFleetState.provesCurrentProtection (uwf : UwfFleetState) : Bool :=
  uwf.phase = .verifiedProtected && probeProvesProtection uwf.probe &&
    uwf.verifiedBootId != Block.zero 16 && uwf.verifiedBootId == uwf.observedBootId

structure ClientRecord where
  id : UInt64 := 0
  hostname : Bytes := []
  address : Bytes := []
  status : ClientStatus := .connecting
  delivery : VideoDeliveryMode := .multicast
  latencyMs : UInt32 := 0
  packetLossPerMille : UInt32 := 0
  packetLossSampleSize : UInt64 := 0
  streaming : Bool := false
  snapshotting : Bool := false
  viewingBroadcast : Bool := false
  frozen : Bool := false
  uwf : UwfFleetState := {}
  framesPerSecond : UInt8 := 0
  snapshotIntervalSeconds : UInt16 := 0
  snapshotWidth : UInt16 := 0
  snapshotHeight : UInt16 := 0
  snapshotCapturedAtUnixMilliseconds : UInt64 := 0
  snapshotGeneration : UInt64 := 0
  snapshotJpeg : Option Bytes := none
  badLossWindows : UInt8 := 0
  goodLossWindows : UInt8 := 0
  lastSeen : ℤ := 0
  helpRequested : Bool := false
  helpMessage : Bytes := []
  helpRequestedAtUnixMs : UInt64 := 0
  macAddress : Bytes := []
  wolSupport : WolSupportState := .unknown
  clientVersion : Bytes := []
  agentConnected : Bool := false

def bootIdIsSet (id : BootId) : Bool := id != Block.zero 16

def phaseForConfigureOutcome : UwfConfigureOutcome → UwfFleetPhase
  | .armed => .awaitingRestart
  | .rebootPending => .awaitingRestart
  | .alreadyEnabled => .verifying
  | .unsupportedEdition => .unsupported
  | _ => .failed

/-! ## What the calls do to a record -/

namespace UwfFleetState

def retireUwfProof (uwf : UwfFleetState) (detail : Bytes) (now : ℤ) : UwfFleetState :=
  { uwf with
    phase := .verifying
    verifiedBootId := Block.zero 16
    probe := {}
    detail := detail
    updatedAt := now }

def setUwfReport (uwf : UwfFleetState) (report : UwfConfigureReport) (now : ℤ) : UwfFleetState :=
  let phase := phaseForConfigureOutcome report.outcome
  let awaiting := phase = .awaitingRestart
  { uwf with
    reported := true
    phase := phase
    restartExpected := if awaiting then true else uwf.restartExpected
    configureBootId :=
      if awaiting ∧ ¬ bootIdIsSet uwf.configureBootId then uwf.observedBootId else uwf.configureBootId
    probe := {}
    verifiedBootId := Block.zero 16
    detail := report.detail
    updatedAt := now }

def beginUwfFleetOperation (uwf : UwfFleetState) (operationId : UInt64) (restartRequested : Bool)
    (now : ℤ) : UwfFleetState :=
  { uwf with
    operationId := operationId
    restartRequested := restartRequested
    restartExpected := false
    reported := false
    phase := .requested
    configureBootId := uwf.observedBootId
    verifiedBootId := Block.zero 16
    probe := {}
    detail := labelBytes "reboot-to-restore operation requested"
    requestedAt := now
    updatedAt := now }

/-- A late report, of an operation that another one has taken the place of. -/
def superseded (uwf : UwfFleetState) (report : UwfFleetStatusReport) : Bool :=
  report.operationId != 0 && uwf.operationId != 0 && report.operationId != uwf.operationId

/-- The phases that only a restart can leave. -/
def expectsRestart (phase : UwfFleetPhase) : Bool := phase = .awaitingRestart || phase = .restarting

/-- The phase a report is taken to be in, and the text that goes with it.  `uwf` has the restart the
report may itself have announced. -/
def settledPhase (uwf : UwfFleetState) (report : UwfFleetStatusReport) : UwfFleetPhase × Bytes :=
  if report.phase = .verifiedProtected then
    if !probeProvesProtection report.probe then
      (.failed, labelBytes "UWF protection was claimed without evidence")
    else if uwf.restartExpected && bootIdIsSet uwf.configureBootId && report.bootId == uwf.configureBootId then
      (.verifying, labelBytes "UWF protection was claimed without the expected restart")
    else (report.phase, report.detail)
  else (report.phase, report.detail)

/-- `set_uwf_fleet_status` on the state of the client. -/
def setUwfFleetStatus (uwf : UwfFleetState) (report : UwfFleetStatusReport) (now : ℤ) :
    UwfFleetState :=
  if uwf.superseded report then uwf
  else
    let restarting := expectsRestart report.phase
    let uwf := { uwf with
      operationId := if report.operationId != 0 then report.operationId else uwf.operationId
      reported := true
      observedBootId := report.bootId
      probe := report.probe
      updatedAt := now
      restartExpected := if restarting then true else uwf.restartExpected
      configureBootId :=
        if restarting && !bootIdIsSet uwf.configureBootId then report.bootId
        else uwf.configureBootId }
    let settled := uwf.settledPhase report
    { uwf with
      phase := settled.1
      detail := settled.2
      verifiedBootId := if settled.1 = .verifiedProtected then report.bootId else Block.zero 16 }

/-- `demote_uwf_verification` on the state of the client. -/
def demoteUwfVerification (uwf : UwfFleetState) (now : ℤ) : UwfFleetState :=
  if uwf.phase ≠ .verifiedProtected then uwf
  else uwf.retireUwfProof (labelBytes "re-checking UWF protection after reconnect") now

end UwfFleetState

namespace ClientRecord

/-- The record `upsert` stores where there is one already: what other reports carry is kept. -/
def mergedInto (record existing : ClientRecord) : ClientRecord :=
  let record := { record with
    frozen := existing.frozen
    uwf := existing.uwf
    helpRequested := existing.helpRequested
    helpMessage := existing.helpMessage
    helpRequestedAtUnixMs := existing.helpRequestedAtUnixMs
    macAddress := if record.macAddress.isEmpty then existing.macAddress else record.macAddress
    wolSupport := if record.wolSupport = .unknown then existing.wolSupport else record.wolSupport
    clientVersion :=
      if record.clientVersion.isEmpty then existing.clientVersion else record.clientVersion
    agentConnected := existing.agentConnected }
  if record.snapshotJpeg = none ∨ record.snapshotJpeg = some [] then
    { record with
      snapshotWidth := existing.snapshotWidth
      snapshotHeight := existing.snapshotHeight
      snapshotCapturedAtUnixMilliseconds := existing.snapshotCapturedAtUnixMilliseconds
      snapshotGeneration := existing.snapshotGeneration
      snapshotJpeg := existing.snapshotJpeg }
  else record

def touch (record : ClientRecord) (now : ℤ) : ClientRecord :=
  { record with
    lastSeen := now
    status :=
      if record.status = .connecting ∨ record.status = .offline then .online else record.status }

def setHelpRequest (record : ClientRecord) (active : Bool) (message : Bytes)
    (timestampUnixMs : UInt64) (now : ℤ) : ClientRecord :=
  { record with
    helpRequested := active
    helpMessage := if active then message else []
    helpRequestedAtUnixMs := if active then timestampUnixMs else 0
    lastSeen := now }

/-- One digit of `format_mac_address`, in upper case. -/
def macDigit (value : UInt8) : UInt8 := if value < 10 then 48 + value else 55 + value

def formatMacAddress (mac : Block 6) : Bytes :=
  ((mac.toList.map fun (octet : UInt8) => [macDigit (octet >>> 4), macDigit (octet &&& 0x0f)]).intersperse
    [58]).flatten

def setWolReport (record : ClientRecord) (mac : Block 6) (support : WolSupportState) (now : ℤ) :
    ClientRecord :=
  { record with
    macAddress := if mac = Block.zero 6 then record.macAddress else formatMacAddress mac
    wolSupport := support
    lastSeen := now }

def setFleetMetadata (record : ClientRecord) (version : Bytes) (agentConnected : Bool) (now : ℤ) :
    ClientRecord :=
  { record with
    clientVersion := if version.isEmpty then record.clientVersion else version
    agentConnected := agentConnected
    lastSeen := now }

def updateSnapshot (record : ClientRecord) (frame : SnapshotFrame) (now : ℤ) : ClientRecord :=
  { record with
    snapshotWidth := frame.width
    snapshotHeight := frame.height
    snapshotCapturedAtUnixMilliseconds := frame.capturedAtUnixMilliseconds
    snapshotJpeg := some frame.jpeg
    snapshotGeneration := record.snapshotGeneration + 1
    lastSeen := now }

/-- The windows of good and bad loss after one more sample. -/
def lossWindows (record : ClientRecord) (lossPerMille : UInt32) (finalizedSampleSize : UInt64) : UInt8 × UInt8 :=
  if finalizedSampleSize ≥ 200 then
    if lossPerMille ≥ 50 then (UInt8.ofNat (min (record.badLossWindows.toNat + 1) 3), 0)
    else if lossPerMille ≤ 20 then (0, UInt8.ofNat (min (record.goodLossWindows.toNat + 1) 5))
    else (0, 0)
  else (record.badLossWindows, record.goodLossWindows)

def updateHealth (record : ClientRecord) (latencyMs lossPerMille : UInt32)
    (finalizedSampleSize : UInt64) (delivery : VideoDeliveryMode) (now : ℤ) : ClientRecord :=
  let windows := record.lossWindows lossPerMille finalizedSampleSize
  { record with
    latencyMs := latencyMs
    packetLossPerMille := lossPerMille
    packetLossSampleSize := finalizedSampleSize
    delivery := delivery
    lastSeen := now
    badLossWindows := windows.1
    goodLossWindows := windows.2
    status :=
      if record.status ≠ .locked ∧ record.status ≠ .offline then
        if windows.1 ≥ 3 then .degraded else if windows.2 ≥ 5 then .online else record.status
      else record.status }

/-- The client has not been heard of for too long. -/
def expires (record : ClientRecord) (now timeout : ℤ) : Bool :=
  record.status ≠ .offline && now - record.lastSeen > timeout

/-- The loop body of `expire`, which reads the clock once more as `retired`. -/
def expire (record : ClientRecord) (now timeout retired : ℤ) : ClientRecord :=
  if record.expires now timeout then
    { record with
      status := .offline
      uwf :=
        if record.uwf.phase = .verifiedProtected then
          record.uwf.retireUwfProof (labelBytes "re-checking UWF protection after the client went offline") retired
        else record.uwf }
  else record

end ClientRecord

/-! ## The registry -/

structure ClientRegistry where
  clients : Std.ExtTreeMap UInt64 ClientRecord := ∅

namespace ClientRegistry

def find (registry : ClientRegistry) (id : UInt64) : Option ClientRecord := registry.clients[id]?

/-- The form all setters have: an unknown client is refused, a known one is changed. -/
def modify (registry : ClientRegistry) (id : UInt64) (change : ClientRecord → ClientRecord) : ClientRegistry × Bool :=
  match registry.find id with
  | none => (registry, false)
  | some client => (⟨registry.clients.insert id (change client)⟩, true)

def upsert (registry : ClientRegistry) (record : ClientRecord) : ClientRegistry :=
  match registry.find record.id with
  | none => ⟨registry.clients.insert record.id record⟩
  | some existing => ⟨registry.clients.insert record.id (record.mergedInto existing)⟩

def setStatus (registry : ClientRegistry) (id : UInt64) (status : ClientStatus) :=
  registry.modify id fun client => { client with status := status }

def touch (registry : ClientRegistry) (id : UInt64) (now : ℤ) :=
  registry.modify id fun client => client.touch now

def setFrozen (registry : ClientRegistry) (id : UInt64) (frozen : Bool) (now : ℤ) :=
  registry.modify id fun client => { client with frozen := frozen, lastSeen := now }

def setHelpRequest (registry : ClientRegistry) (id : UInt64) (active : Bool) (message : Bytes)
    (timestampUnixMs : UInt64) (now : ℤ) :=
  registry.modify id fun client => client.setHelpRequest active message timestampUnixMs now

def setWolReport (registry : ClientRegistry) (id : UInt64) (mac : Block 6) (support : WolSupportState) (now : ℤ) :=
  registry.modify id fun client => client.setWolReport mac support now

def setFleetMetadata (registry : ClientRegistry) (id : UInt64) (version : Bytes) (agentConnected : Bool) (now : ℤ) :=
  registry.modify id fun client => client.setFleetMetadata version agentConnected now

def setUwfReport (registry : ClientRegistry) (id : UInt64) (report : UwfConfigureReport) (now : ℤ) :=
  registry.modify id fun client =>
    { client with uwf := client.uwf.setUwfReport report now, lastSeen := now }

def beginUwfFleetOperation (registry : ClientRegistry) (id operationId : UInt64)
    (restartRequested : Bool) (now : ℤ) : ClientRegistry × Bool :=
  if operationId = 0 then (registry, false)
  else
    registry.modify id fun client =>
      { client with uwf := client.uwf.beginUwfFleetOperation operationId restartRequested now }

def setUwfFleetStatus (registry : ClientRegistry) (id : UInt64) (report : UwfFleetStatusReport) (now : ℤ) :=
  registry.modify id fun client =>
    { client with uwf := client.uwf.setUwfFleetStatus report now, lastSeen := now }

/-- `demote_uwf_verification`, which says whether there was a proof to retire. -/
def demoteUwfVerification (registry : ClientRegistry) (id : UInt64) (now : ℤ) : ClientRegistry × Bool :=
  ((registry.modify id fun client =>
      { client with uwf := client.uwf.demoteUwfVerification now }).1,
    (registry.find id).any fun client => client.uwf.phase = .verifiedProtected)

/-- `update_snapshot`, where the copy of the image can be allocated or cannot. -/
def updateSnapshot (registry : ClientRegistry) (id : UInt64) (frame : SnapshotFrame)
    (allocated : Bool) (now : ℤ) : ClientRegistry × Bool :=
  if !validSnapshotFrame frame || !allocated then (registry, false)
  else registry.modify id fun client => client.updateSnapshot frame now

def updateHealth (registry : ClientRegistry) (id : UInt64) (latencyMs lossPerMille : UInt32)
    (finalizedSampleSize : UInt64) (delivery : VideoDeliveryMode) (now : ℤ) :=
  registry.modify id fun client =>
    client.updateHealth latencyMs lossPerMille finalizedSampleSize delivery now

/-- `expire`, with the number of clients that went offline. -/
def expire (registry : ClientRegistry) (now timeout retired : ℤ) : ClientRegistry × ℕ :=
  (⟨registry.clients.map fun _ client => client.expire now timeout retired⟩,
    registry.clients.toList.countP fun entry => entry.2.expires now timeout)

end ClientRegistry

/-- A call of the registry, with the reading of the clock it makes. -/
inductive Call where
  | upsert (record : ClientRecord)
  | setStatus (id : UInt64) (status : ClientStatus)
  | touch (id : UInt64) (now : ℤ)
  | setFrozen (id : UInt64) (frozen : Bool) (now : ℤ)
  | setHelpRequest (id : UInt64) (active : Bool) (message : Bytes) (timestampUnixMs : UInt64) (now : ℤ)
  | setWolReport (id : UInt64) (mac : Block 6) (support : WolSupportState) (now : ℤ)
  | setFleetMetadata (id : UInt64) (version : Bytes) (agentConnected : Bool) (now : ℤ)
  | setUwfReport (id : UInt64) (report : UwfConfigureReport) (now : ℤ)
  | beginUwfFleetOperation (id operationId : UInt64) (restartRequested : Bool) (now : ℤ)
  | setUwfFleetStatus (id : UInt64) (report : UwfFleetStatusReport) (now : ℤ)
  | demoteUwfVerification (id : UInt64) (now : ℤ)
  | updateSnapshot (id : UInt64) (frame : SnapshotFrame) (allocated : Bool) (now : ℤ)
  | updateHealth (id : UInt64) (latencyMs lossPerMille : UInt32) (finalizedSampleSize : UInt64)
      (delivery : VideoDeliveryMode) (now : ℤ)
  | expire (now timeout retired : ℤ)

namespace ClientRegistry

/-- One call of the registry. -/
def step (registry : ClientRegistry) : Call → ClientRegistry
  | .upsert record => registry.upsert record
  | .setStatus id status => (registry.setStatus id status).1
  | .touch id now => (registry.touch id now).1
  | .setFrozen id frozen now => (registry.setFrozen id frozen now).1
  | .setHelpRequest id active message timestampUnixMs now =>
    (registry.setHelpRequest id active message timestampUnixMs now).1
  | .setWolReport id mac support now => (registry.setWolReport id mac support now).1
  | .setFleetMetadata id version agentConnected now =>
    (registry.setFleetMetadata id version agentConnected now).1
  | .setUwfReport id report now => (registry.setUwfReport id report now).1
  | .beginUwfFleetOperation id operationId restartRequested now =>
    (registry.beginUwfFleetOperation id operationId restartRequested now).1
  | .setUwfFleetStatus id report now => (registry.setUwfFleetStatus id report now).1
  | .demoteUwfVerification id now => (registry.demoteUwfVerification id now).1
  | .updateSnapshot id frame allocated now => (registry.updateSnapshot id frame allocated now).1
  | .updateHealth id latencyMs lossPerMille finalizedSampleSize delivery now =>
    (registry.updateHealth id latencyMs lossPerMille finalizedSampleSize delivery now).1
  | .expire now timeout retired => (registry.expire now timeout retired).1

/-- The registry after a run of calls. -/
def run (registry : ClientRegistry) (calls : List Call) : ClientRegistry := calls.foldl step registry

lemma run_append (registry : ClientRegistry) (calls more : List Call) :
    registry.run (calls ++ more) = (registry.run calls).run more := by
  simp only [run, List.foldl_append]

lemma run_nil (registry : ClientRegistry) : registry.run [] = registry := rfl

lemma run_cons (registry : ClientRegistry) (call : Call) (calls : List Call) :
    registry.run (call :: calls) = (registry.step call).run calls := rfl

end ClientRegistry

/-! ## What a call does to the state of one client -/

section Find

variable (registry : ClientRegistry) (id a : UInt64)

lemma find_modify (change : ClientRecord → ClientRecord) : (registry.modify id change).1.find a =
      if id = a then (registry.find a).map change else registry.find a := by
  simp only [ClientRegistry.modify]
  split
  · rename_i hn
    split
    · rename_i he
      rw [← he, hn]
      rfl
    · rfl
  · rename_i client hs
    simp only [ClientRegistry.find, Std.ExtTreeMap.getElem?_insert, Std.compare_eq_iff_eq]
    split
    · rename_i he
      subst he
      simp only [ClientRegistry.find] at hs
      rw [hs]
      rfl
    · rfl

lemma find_upsert (record : ClientRecord) : (registry.upsert record).find a =
      if record.id = a then some ((registry.find a).elim record record.mergedInto)
      else registry.find a := by
  simp only [ClientRegistry.upsert]
  split
  · rename_i hn
    simp only [ClientRegistry.find, Std.ExtTreeMap.getElem?_insert, Std.compare_eq_iff_eq]
    split
    · rename_i he
      subst he
      simp only [ClientRegistry.find] at hn
      rw [hn]
      rfl
    · rfl
  · rename_i existing hs
    simp only [ClientRegistry.find, Std.ExtTreeMap.getElem?_insert, Std.compare_eq_iff_eq]
    split
    · rename_i he
      subst he
      simp only [ClientRegistry.find] at hs
      rw [hs]
      rfl
    · rfl

lemma find_expire (now timeout retired : ℤ) : (registry.expire now timeout retired).1.find a =
      (registry.find a).map fun client => client.expire now timeout retired := by
  simp only [ClientRegistry.expire, ClientRegistry.find, Std.ExtTreeMap.getElem?_map]

end Find

lemma uwf_mergedInto (record existing : ClientRecord) : (record.mergedInto existing).uwf = existing.uwf := by
  simp only [ClientRecord.mergedInto]
  split
  · rfl
  · rfl

/-- The write-filter state that a call leaves at a client the registry knows. -/
def ClientRecord.uwfAfter (client : ClientRecord) (id : UInt64) : Call → UwfFleetState
  | .setUwfReport target report now =>
    if target = id then client.uwf.setUwfReport report now else client.uwf
  | .beginUwfFleetOperation target operationId restartRequested now =>
    if target = id ∧ operationId ≠ 0 then
      client.uwf.beginUwfFleetOperation operationId restartRequested now
    else client.uwf
  | .setUwfFleetStatus target report now =>
    if target = id then client.uwf.setUwfFleetStatus report now else client.uwf
  | .demoteUwfVerification target now =>
    if target = id then client.uwf.demoteUwfVerification now else client.uwf
  | .expire now timeout retired => (client.expire now timeout retired).uwf
  | _ => client.uwf

section Step

variable {registry : ClientRegistry} {id : UInt64} {client : ClientRecord}

lemma uwf_modify {target : UInt64} {change : ClientRecord → ClientRecord} {uwf : UwfFleetState}
    (h : registry.find id = some client) (hc : target = id → (change client).uwf = uwf)
    (ho : target ≠ id → client.uwf = uwf) :
    ∃ after, (registry.modify target change).1.find id = some after ∧ after.uwf = uwf := by
  rw [find_modify, h]
  by_cases ht : target = id
  · rw [if_pos ht]
    exact ⟨_, rfl, hc ht⟩
  · rw [if_neg ht]
    exact ⟨_, rfl, ho ht⟩

/-- **What a call does to the write-filter state of a client.**  A known client stays known. -/
lemma uwf_step (h : registry.find id = some client) (call : Call) :
    ∃ after, (registry.step call).find id = some after ∧ after.uwf = client.uwfAfter id call := by
  cases call with
  | upsert record =>
    simp only [ClientRegistry.step, find_upsert, h]
    by_cases ht : record.id = id
    · rw [if_pos ht]
      exact ⟨_, rfl, uwf_mergedInto _ _⟩
    · rw [if_neg ht]
      exact ⟨_, rfl, rfl⟩
  | setUwfReport target report now =>
    exact uwf_modify h (fun ht => (if_pos ht).symm) fun ht => (if_neg ht).symm
  | beginUwfFleetOperation target operationId restartRequested now =>
    simp only [ClientRegistry.step, ClientRegistry.beginUwfFleetOperation, ClientRecord.uwfAfter]
    by_cases hz : operationId = 0
    · rw [if_pos hz, if_neg fun hb => hb.2 hz]
      exact ⟨_, h, rfl⟩
    · rw [if_neg hz]
      exact uwf_modify h (fun ht => (if_pos ⟨ht, hz⟩).symm)
        fun ht => (if_neg fun hb => ht hb.1).symm
  | setUwfFleetStatus target report now | demoteUwfVerification target now =>
    exact uwf_modify h (fun ht => (if_pos ht).symm) fun ht => (if_neg ht).symm
  | updateSnapshot target frame allocated now =>
    simp only [ClientRegistry.step, ClientRegistry.updateSnapshot, ClientRecord.uwfAfter]
    split
    · exact ⟨_, h, rfl⟩
    · exact uwf_modify h (fun _ => rfl) fun _ => rfl
  | expire now timeout retired =>
    simp only [ClientRegistry.step, find_expire, h]
    exact ⟨_, rfl, rfl⟩
  | setStatus | touch | setFrozen | setHelpRequest | setWolReport | setFleetMetadata | updateHealth =>
    exact uwf_modify h (fun _ => rfl) fun _ => rfl

/-- Only an upsert brings a new client. -/
lemma find_step_of_none (h : registry.find id = none) {call : Call} {after : ClientRecord}
    (ha : (registry.step call).find id = some after) : call = .upsert after ∧ after.id = id := by
  have hm : ∀ target change, (registry.modify target change).1.find id ≠ some after := by
    intro target change
    rw [find_modify, h]
    split <;> simp
  cases call with
  | upsert record =>
    simp only [ClientRegistry.step, find_upsert, h] at ha
    split at ha
    · rename_i hid
      cases ha
      exact ⟨rfl, hid⟩
    · cases ha
  | beginUwfFleetOperation target operationId restartRequested now =>
    simp only [ClientRegistry.step, ClientRegistry.beginUwfFleetOperation] at ha
    split at ha
    · rw [h] at ha
      cases ha
    · exact absurd ha (hm _ _)
  | updateSnapshot target frame allocated now =>
    simp only [ClientRegistry.step, ClientRegistry.updateSnapshot] at ha
    split at ha
    · rw [h] at ha
      cases ha
    · exact absurd ha (hm _ _)
  | expire now timeout retired =>
    simp only [ClientRegistry.step, find_expire, h] at ha
    cases ha
  | _ => exact absurd ha (hm _ _)

end Step

/-! ## A proof has a report behind it -/

section Uwf

variable {uwf : UwfFleetState}

lemma provesCurrentProtection_iff : uwf.provesCurrentProtection ↔
      uwf.phase = .verifiedProtected ∧ probeProvesProtection uwf.probe ∧
        uwf.verifiedBootId ≠ Block.zero 16 ∧ uwf.verifiedBootId = uwf.observedBootId := by
  simp only [UwfFleetState.provesCurrentProtection, Bool.and_eq_true, decide_eq_true_eq, bne_iff_ne,
    beq_iff_eq, and_assoc]

lemma not_proves_of_phase (h : uwf.phase ≠ .verifiedProtected) : uwf.provesCurrentProtection ≠ true :=
  fun hp => h (provesCurrentProtection_iff.mp hp).1

lemma not_proves_of_probe (h : probeProvesProtection uwf.probe = false) : uwf.provesCurrentProtection ≠ true := by
  intro hp
  rw [(provesCurrentProtection_iff.mp hp).2.1] at h
  cases h

lemma not_proves_setUwfReport (report : UwfConfigureReport) (now : ℤ) :
    (uwf.setUwfReport report now).provesCurrentProtection ≠ true := not_proves_of_probe rfl

lemma not_proves_beginUwfFleetOperation (operationId : UInt64) (restartRequested : Bool) (now : ℤ) :
    (uwf.beginUwfFleetOperation operationId restartRequested now).provesCurrentProtection ≠ true :=
  not_proves_of_probe rfl

lemma not_proves_retireUwfProof (detail : Bytes) (now : ℤ) :
    (uwf.retireUwfProof detail now).provesCurrentProtection ≠ true := not_proves_of_probe rfl

lemma not_proves_demoteUwfVerification (now : ℤ) :
    (uwf.demoteUwfVerification now).provesCurrentProtection ≠ true := by
  simp only [UwfFleetState.demoteUwfVerification]
  split
  · rename_i hp
    exact not_proves_of_phase hp
  · exact not_proves_retireUwfProof _ _

lemma settledPhase_verified {report : UwfFleetStatusReport} (h : (uwf.settledPhase report).1 = .verifiedProtected) :
    report.phase = .verifiedProtected ∧ probeProvesProtection report.probe ∧
      ¬ (uwf.restartExpected ∧ bootIdIsSet uwf.configureBootId ∧
        report.bootId = uwf.configureBootId) := by
  simp only [UwfFleetState.settledPhase] at h
  split at h
  · rename_i hp
    split at h
    · cases h
    · rename_i hpr
      split at h
      · cases h
      · rename_i hb
        simp only [Bool.not_eq_true', Bool.not_eq_false] at hpr
        simp only [Bool.and_eq_true, beq_iff_eq, and_assoc] at hb
        exact ⟨hp, hpr, hb⟩
  · rename_i hp
    exact absurd h hp

lemma proves_setUwfFleetStatus {report : UwfFleetStatusReport} {now : ℤ} (ha : uwf.superseded report = false)
    (h : (uwf.setUwfFleetStatus report now).provesCurrentProtection) :
    report.phase = .verifiedProtected ∧ probeProvesProtection report.probe ∧ report.bootId ≠ Block.zero 16 ∧
      report.bootId = (uwf.setUwfFleetStatus report now).observedBootId := by
  obtain ⟨hp, -, hs, -⟩ := provesCurrentProtection_iff.mp h
  simp only [UwfFleetState.setUwfFleetStatus, ha, Bool.false_eq_true, if_false] at hp hs ⊢
  obtain ⟨hc, hpr, -⟩ := settledPhase_verified hp
  rw [if_pos hp] at hs
  exact ⟨hc, hpr, hs, trivial⟩

end Uwf

/-- A fleet status report that is not dropped: the client is known, and the operation is its own. -/
def Applied (registry : ClientRegistry) (id : UInt64) (report : UwfFleetStatusReport) : Prop :=
  ∃ client, registry.find id = some client ∧ client.uwf.superseded report = false

/-- The calls after which a proof of protection has to be given anew. -/
def Retires (registry : ClientRegistry) (id : UInt64) : Call → Prop
  | .setUwfReport target _ _ => target = id
  | .beginUwfFleetOperation target operationId _ _ => target = id ∧ operationId ≠ 0
  | .demoteUwfVerification target _ => target = id
  | .expire now timeout _ => ∃ client, registry.find id = some client ∧ client.expires now timeout = true
  | .setUwfFleetStatus target report _ => target = id ∧ Applied registry id report
  | _ => False

lemma proves_step {registry : ClientRegistry} {id : UInt64} {client : ClientRecord}
    (h : registry.find id = some client) {call : Call}
    (hprov : (client.uwfAfter id call).provesCurrentProtection) :
    (¬ Retires registry id call ∧ client.uwfAfter id call = client.uwf) ∨
      ∃ report now, call = .setUwfFleetStatus id report now ∧ Applied registry id report ∧
        report.phase = .verifiedProtected ∧ probeProvesProtection report.probe ∧
        report.bootId ≠ Block.zero 16 ∧ report.bootId = (client.uwfAfter id call).observedBootId := by
  cases call with
  | setUwfReport target report now =>
    simp only [ClientRecord.uwfAfter] at hprov ⊢
    split at hprov
    · exact absurd hprov (not_proves_setUwfReport report now)
    · rename_i htarg
      exact .inl ⟨htarg, if_neg htarg⟩
  | beginUwfFleetOperation target operationId restartRequested now =>
    simp only [ClientRecord.uwfAfter] at hprov ⊢
    split at hprov
    · exact absurd hprov (not_proves_beginUwfFleetOperation operationId restartRequested now)
    · rename_i htarg
      exact .inl ⟨htarg, if_neg htarg⟩
  | demoteUwfVerification target now =>
    simp only [ClientRecord.uwfAfter] at hprov ⊢
    split at hprov
    · exact absurd hprov (not_proves_demoteUwfVerification now)
    · rename_i htarg
      exact .inl ⟨htarg, if_neg htarg⟩
  | expire now timeout retired =>
    simp only [ClientRecord.uwfAfter, ClientRecord.expire] at hprov ⊢
    by_cases hexpi : client.expires now timeout
    · rw [if_pos hexpi] at hprov
      simp only at hprov
      split at hprov
      · exact absurd hprov (not_proves_retireUwfProof _ _)
      · rename_i hphase
        exact absurd hprov (not_proves_of_phase hphase)
    · rw [if_neg hexpi]
      left
      refine ⟨?_, rfl⟩
      rintro ⟨other, hother, hexpir⟩
      rw [h] at hother
      cases hother
      exact hexpi hexpir
  | setUwfFleetStatus target report now =>
    simp only [ClientRecord.uwfAfter] at hprov ⊢
    split at hprov
    · rename_i htarg
      subst htarg
      rw [if_pos rfl]
      cases happl : client.uwf.superseded report with
      | true =>
        left
        refine ⟨?_, by simp only [UwfFleetState.setUwfFleetStatus, happl, if_true]⟩
        rintro ⟨-, other, hother, hcurr⟩
        rw [h] at hother
        cases hother
        rw [happl] at hcurr
        cases hcurr
      | false =>
        exact .inr ⟨report, now, rfl, ⟨client, h, happl⟩, proves_setUwfFleetStatus happl hprov⟩
    · rename_i htarg
      exact .inl ⟨fun hreti => htarg hreti.1, if_neg htarg⟩
  | _ => exact .inl ⟨not_false, rfl⟩

lemma append_singleton_cases {α : Type} {items front rest : List α} {last item : α}
    (h : items ++ [last] = front ++ item :: rest) :
    (front = items ∧ item = last) ∨ ∃ more, items = front ++ item :: more := by
  cases rest using List.reverseRecOn with
  | nil =>
    obtain ⟨hf, hi⟩ := List.append_inj' h rfl
    exact .inl ⟨hf.symm, (List.singleton_inj.mp hi).symm⟩
  | append_singleton more _ =>
    rw [← List.cons_append, ← List.append_assoc] at h
    exact .inr ⟨more, (List.append_inj' h rfl).1⟩

/-- **A proof of protection has a report behind it.**  Where a client counts as protected, the last
fleet status report that was applied to it claimed protection with evidence, on a boot that is set and
is still the one the client is on; and since then no other report, no operation, no demotion and no
expiry has come to it.  The record a client is first known by is taken as it is, and proves nothing where
both callers of `upsert` make it. -/
theorem protection_reported {calls : List Call} {id : UInt64} {client : ClientRecord}
    (hupserts : ∀ front record rest, calls = front ++ .upsert record :: rest →
      (ClientRegistry.run {} front).find record.id = none → record.uwf.provesCurrentProtection = false)
    (hclient : (ClientRegistry.run {} calls).find id = some client)
    (hproves : client.uwf.provesCurrentProtection = true) :
    ∃ before report now after, calls = before ++ .setUwfFleetStatus id report now :: after ∧
      Applied (ClientRegistry.run {} before) id report ∧
      report.phase = .verifiedProtected ∧ probeProvesProtection report.probe = true ∧
      report.bootId ≠ Block.zero 16 ∧ report.bootId = client.uwf.observedBootId ∧
      ∀ quiet call rest, after = quiet ++ call :: rest →
        ¬ Retires (ClientRegistry.run {} (before ++ .setUwfFleetStatus id report now :: quiet)) id
          call := by
  induction calls using List.reverseRecOn generalizing client with
  | nil =>
    simp [ClientRegistry.run, ClientRegistry.find] at hclient
  | append_singleton calls call ih =>
    rw [ClientRegistry.run_append, ClientRegistry.run_cons, ClientRegistry.run_nil] at hclient
    cases hfound : (ClientRegistry.run {} calls).find id with
    | none =>
      obtain ⟨rfl, rfl⟩ := find_step_of_none hfound hclient
      have hsilent := hupserts calls client [] rfl hfound
      rw [hproves] at hsilent
      cases hsilent
    | some known =>
      obtain ⟨reached, hreached, huwf⟩ := uwf_step hfound call
      rw [hclient] at hreached
      cases hreached
      rw [huwf] at hproves
      rcases proves_step hfound hproves with ⟨hquiet, hsame⟩ | ⟨report, now, rfl, hreport⟩
      · rw [hsame] at hproves huwf
        obtain ⟨before, report, now, after, rfl, happlied, hphase, hprobe, hset, hboot, hafter⟩ :=
          ih (fun front record rest hsplit => hupserts front record (rest ++ [call]) (by simp [hsplit])) hfound
            hproves
        refine ⟨before, report, now, after ++ [call], by simp, happlied, hphase, hprobe, hset, ?_,
          ?_⟩
        · rw [huwf]
          exact hboot
        · intro quiet last rest hsplit
          rcases append_singleton_cases hsplit with ⟨rfl, rfl⟩ | ⟨more, hsplit⟩
          · exact hquiet
          · exact hafter _ _ _ hsplit
      · obtain ⟨happlied, hphase, hprobe, hset, hboot⟩ := hreport
        refine ⟨calls, report, now, [], by simp, happlied, hphase, hprobe, hset, ?_, ?_⟩
        · rw [huwf]
          exact hboot
        · intro quiet last rest hsplit
          simp at hsplit

/-- A client that reports its boot, is told to arm its filter, restarts and reports protection. -/
def armedRun : List Call :=
  [.upsert { id := 7, status := .online },
    .setUwfFleetStatus 7 { bootId := Block.fill 16 1, phase := .idle, detail := [111] } 1,
    .beginUwfFleetOperation 7 1 true 2,
    .setUwfFleetStatus 7
      { operationId := 1, bootId := Block.fill 16 1, phase := .awaitingRestart, detail := [111] } 3,
    .setUwfFleetStatus 7
      { bootId := Block.fill 16 2
        phase := .verifiedProtected
        probe := ⟨true, true, true, true, true, true⟩
        detail := [111] } 4]

lemma isSome_find_armedRun : ((ClientRegistry.run {} armedRun).find 7).isSome := by
  decide +kernel

/-- Armed on one boot, protected on the next. -/
theorem protection_reported_armedRun :
    ∃ before report now after, armedRun = before ++ .setUwfFleetStatus 7 report now :: after ∧
      report.phase = .verifiedProtected ∧ report.bootId ≠ Block.zero 16 := by
  obtain ⟨before, report, now, after, hsplit, -, hphase, -, hset, -, -⟩ :=
    @protection_reported armedRun 7 (((ClientRegistry.run {} armedRun).find 7).get isSome_find_armedRun) (by
        intro front record rest hsplit _
        have hmem : .upsert record ∈ armedRun := hsplit ▸ by simp
        simp only [armedRun, List.mem_cons, Call.upsert.injEq, reduceCtorEq, List.not_mem_nil, or_false] at hmem
        subst hmem
        rfl)
      (Option.some_get _).symm (by decide +kernel)
  exact ⟨before, report, now, after, hsplit, hphase, hset⟩

/-- A record that proves protection, although nothing has been reported for the client. -/
def provenRecord : ClientRecord where
  id := 7
  status := .online
  uwf :=
    { phase := .verifiedProtected
      observedBootId := Block.fill 16 2
      verifiedBootId := Block.fill 16 2
      probe := ⟨true, true, true, true, true, true⟩ }

/-- A new client is what `upsert` is told that it is, and counts as protected without any report. -/
theorem protection_unreported : (ClientRegistry.run {} [.upsert provenRecord]).find 7 = some provenRecord ∧
    provenRecord.uwf.provesCurrentProtection = true ∧ ¬ ∃ before report now after,
      [Call.upsert provenRecord] = before ++ .setUwfFleetStatus 7 report now :: after := by
  refine ⟨?_, by decide, ?_⟩
  · rw [ClientRegistry.run_cons, ClientRegistry.run_nil, ClientRegistry.step, find_upsert]
    rfl
  · rintro ⟨before, report, now, after, hsplit⟩
    have hmem : Call.setUwfFleetStatus 7 report now ∈ [Call.upsert provenRecord] := by
      rw [hsplit]
      simp
    cases List.mem_singleton.mp hmem

/-! ## No protection without the restart -/

/-- The client is taken for protected on a boot. -/
def VerifiedOn (registry : ClientRegistry) (id : UInt64) (boot : BootId) : Bool :=
  (registry.find id).any fun client =>
    client.uwf.phase = .verifiedProtected && client.uwf.verifiedBootId == boot

/-- No operation of the client begins among the calls. -/
def NoOperation (id : UInt64) (calls : List Call) : Prop :=
  ∀ operationId restartRequested now,
    .beginUwfFleetOperation id operationId restartRequested now ∈ calls → operationId = 0

/-- A restart from this boot is expected, and the client is not taken for protected on it. -/
structure Pinned (boot : BootId) (uwf : UwfFleetState) : Prop where
  restartExpected : uwf.restartExpected = true
  configureBootId : uwf.configureBootId = boot
  unverified : uwf.phase = .verifiedProtected → uwf.verifiedBootId ≠ boot

section Restart

variable {uwf : UwfFleetState} {boot : BootId}

lemma Pinned.retireUwfProof (h : Pinned boot uwf) (detail : Bytes) (now : ℤ) :
    Pinned boot (uwf.retireUwfProof detail now) where
  restartExpected := h.restartExpected
  configureBootId := h.configureBootId
  unverified := fun hp => by cases hp

lemma Pinned.setUwfReport (h : Pinned boot uwf) (hb : bootIdIsSet boot)
    (report : UwfConfigureReport) (now : ℤ) : Pinned boot (uwf.setUwfReport report now) where
  restartExpected := by simp only [UwfFleetState.setUwfReport, h.restartExpected, ite_self]
  configureBootId := by
    simp only [UwfFleetState.setUwfReport, h.configureBootId, hb, not_true, and_false, if_false]
  unverified := by
    intro hp
    simp only [UwfFleetState.setUwfReport, phaseForConfigureOutcome] at hp
    split at hp <;> cases hp

lemma Pinned.setUwfFleetStatus (h : Pinned boot uwf) (hb : bootIdIsSet boot)
    (report : UwfFleetStatusReport) (now : ℤ) : Pinned boot (uwf.setUwfFleetStatus report now) := by
  cases hc : uwf.superseded report with
  | true =>
    simp only [UwfFleetState.setUwfFleetStatus, hc, if_true]
    exact h
  | false =>
    simp only [UwfFleetState.setUwfFleetStatus, hc, Bool.false_eq_true, if_false,
      h.restartExpected, h.configureBootId, hb, Bool.not_true, Bool.and_false, ite_self]
    refine ⟨rfl, rfl, ?_⟩
    intro hp
    simp only at hp ⊢
    rw [if_pos hp]
    intro hs
    exact (settledPhase_verified hp).2.2 ⟨rfl, hb, hs⟩

lemma Pinned.uwfAfter {client : ClientRecord} {id : UInt64} (h : Pinned boot client.uwf)
    (hb : bootIdIsSet boot) {call : Call} (hc : NoOperation id [call]) :
    Pinned boot (client.uwfAfter id call) := by
  cases call with
  | setUwfReport target report now =>
    simp only [ClientRecord.uwfAfter]
    split
    · exact h.setUwfReport hb report now
    · exact h
  | beginUwfFleetOperation target operationId restartRequested now =>
    simp only [ClientRecord.uwfAfter]
    split
    · rename_i hbe
      obtain ⟨rfl, hs⟩ := hbe
      exact absurd (hc _ _ _ List.mem_cons_self) hs
    · exact h
  | setUwfFleetStatus target report now =>
    simp only [ClientRecord.uwfAfter]
    split
    · exact h.setUwfFleetStatus hb report now
    · exact h
  | demoteUwfVerification target now =>
    simp only [ClientRecord.uwfAfter, UwfFleetState.demoteUwfVerification]
    split
    · split
      · exact h
      · exact h.retireUwfProof _ _
    · exact h
  | expire now timeout retired =>
    simp only [ClientRecord.uwfAfter, ClientRecord.expire]
    split
    · simp only
      split
      · exact h.retireUwfProof _ _
      · exact h
    · exact h
  | _ => exact h

lemma Pinned.run {registry : ClientRegistry} {id : UInt64} {client : ClientRecord}
    (hb : bootIdIsSet boot) (hc : registry.find id = some client)
    (h : Pinned boot client.uwf) {calls : List Call} (hca : NoOperation id calls) :
    VerifiedOn (registry.run calls) id boot = false := by
  induction calls generalizing registry client with
  | nil =>
    rw [ClientRegistry.run_nil, VerifiedOn, hc, Option.any_some, ← Bool.not_eq_true]
    simp only [Bool.and_eq_true, decide_eq_true_eq, beq_iff_eq, not_and]
    exact h.unverified
  | cons call calls ih =>
    rw [ClientRegistry.run_cons]
    obtain ⟨after, ha, hu⟩ := uwf_step hc call
    refine ih ha ?_ fun _ _ _ hm => hca _ _ _ (List.mem_cons_of_mem _ hm)
    rw [hu]
    refine h.uwfAfter hb ?_
    intro operationId restartRequested now hm
    obtain rfl := List.mem_singleton.mp hm
    exact hca _ _ _ List.mem_cons_self

/-- The boot a restart is then expected from: the one pinned before, or else the one reported. -/
def pinnedBoot (uwf : UwfFleetState) (report : UwfFleetStatusReport) : BootId :=
  if bootIdIsSet uwf.configureBootId then uwf.configureBootId else report.bootId

lemma setUwfFleetStatus_restart {report : UwfFleetStatusReport} (now : ℤ) (hc : uwf.superseded report = false)
    (hr : UwfFleetState.expectsRestart report.phase) :
    (uwf.setUwfFleetStatus report now).restartExpected ∧
      (uwf.setUwfFleetStatus report now).configureBootId = pinnedBoot uwf report ∧
      (uwf.setUwfFleetStatus report now).phase ≠ .verifiedProtected := by
  have hp : report.phase ≠ .verifiedProtected := by
    intro he
    rw [he] at hr
    cases hr
  simp only [UwfFleetState.setUwfFleetStatus, hc, Bool.false_eq_true, if_false, hr, if_true,
    Bool.true_and, pinnedBoot, UwfFleetState.settledPhase, if_neg hp]
  refine ⟨trivial, ?_, hp⟩
  cases bootIdIsSet uwf.configureBootId <;> rfl

/-- A report of protection on a boot, of no operation in particular. -/
def protectedReport (boot : BootId) : UwfFleetStatusReport where
  bootId := boot
  phase := .verifiedProtected
  probe := ⟨true, true, true, true, true, true⟩
  detail := [111]

lemma verified_protectedReport (hs : ¬ (bootIdIsSet uwf.configureBootId ∧
    boot = uwf.configureBootId)) (now : ℤ) :
    (uwf.setUwfFleetStatus (protectedReport boot) now).phase = .verifiedProtected ∧
      (uwf.setUwfFleetStatus (protectedReport boot) now).verifiedBootId = boot := by
  have hc : uwf.superseded (protectedReport boot) = false := rfl
  have hse : ∀ state : UwfFleetState, state.configureBootId = uwf.configureBootId →
      (state.settledPhase (protectedReport boot)).1 = .verifiedProtected := by
    intro state hst
    simp only [UwfFleetState.settledPhase, protectedReport, probeProvesProtection, if_true,
      Bool.and_self, Bool.not_true, Bool.false_eq_true, if_false, hst]
    rw [if_neg]
    simp only [Bool.and_eq_true, beq_iff_eq, not_and]
    exact fun he heq => hs ⟨he.2, heq⟩
  simp only [UwfFleetState.setUwfFleetStatus, hc, Bool.false_eq_true, if_false]
  constructor
  · exact hse _ rfl
  · exact if_pos (hse _ rfl)

end Restart

/-- **When a restart cannot be missed.**  After a client has reported that it has to restart, it is
never taken for protected on the boot it reported, until an operation begins, exactly if that boot is
set and the registry has not pinned the operation to another one. -/
theorem restart_enforced_iff {calls : List Call} {id : UInt64} {client : ClientRecord}
    {report : UwfFleetStatusReport} {now : ℤ}
    (hclient : (ClientRegistry.run {} calls).find id = some client)
    (hcurrent : client.uwf.superseded report = false)
    (hrestart : UwfFleetState.expectsRestart report.phase = true) :
    (∀ after, NoOperation id after →
        VerifiedOn (ClientRegistry.run {} (calls ++ .setUwfFleetStatus id report now :: after)) id
          report.bootId = false) ↔
      bootIdIsSet report.bootId = true ∧ (bootIdIsSet client.uwf.configureBootId = false ∨
          client.uwf.configureBootId = report.bootId) := by
  obtain ⟨reported, hreported, huwf⟩ := uwf_step hclient (.setUwfFleetStatus id report now)
  obtain ⟨hexpected, hpinned, hphase⟩ := setUwfFleetStatus_restart now hcurrent hrestart
  have hstate : reported.uwf = client.uwf.setUwfFleetStatus report now := by
    rw [huwf]
    exact if_pos rfl
  rw [← hstate] at hexpected hpinned hphase
  simp only [ClientRegistry.run_append, ClientRegistry.run_cons]
  constructor
  · intro hnever
    by_contra hstale
    have hclaim := hnever [.setUwfFleetStatus id (protectedReport report.bootId) 0] (by simp [NoOperation])
    obtain ⟨after, hafter, hverified⟩ := uwf_step hreported (.setUwfFleetStatus id (protectedReport report.bootId) 0)
    have hother : ¬ (bootIdIsSet reported.uwf.configureBootId = true ∧
        report.bootId = reported.uwf.configureBootId) := by
      rintro ⟨hset, hsame⟩
      refine hstale ⟨by rw [hsame]; exact hset, ?_⟩
      rw [hpinned, pinnedBoot] at hsame
      split at hsame
      · exact Or.inr hsame.symm
      · rename_i hunset
        exact Or.inl (Bool.not_eq_true _ ▸ hunset)
    obtain ⟨hdone, hboot⟩ := verified_protectedReport hother 0
    have hafterUwf : after.uwf = reported.uwf.setUwfFleetStatus (protectedReport report.bootId) 0 := by
      rw [hverified]
      exact if_pos rfl
    rw [ClientRegistry.run_cons, ClientRegistry.run_nil, VerifiedOn, hafter, Option.any_some, hafterUwf, hdone, hboot] at hclaim
    simp at hclaim
  · rintro ⟨hset, hconfigured⟩ after hafter
    have hboot : reported.uwf.configureBootId = report.bootId := by
      rw [hpinned, pinnedBoot]
      rcases hconfigured with hunset | hsame
      · rw [hunset]
        rfl
      · rw [hsame, ite_self]
    exact Pinned.run hset hreported ⟨hexpected, hboot, fun hverified => absurd hverified hphase⟩ hafter

/-- An operation that begins while the client is known to be on its first boot. -/
def pinnedRun : List Call := armedRun.take 3

/-- The report that the client has to restart, from a boot. -/
def awaitingReport (boot : BootId) : UwfFleetStatusReport where
  operationId := 1
  bootId := boot
  phase := .awaitingRestart
  detail := [111]

lemma isSome_find_pinnedRun : ((ClientRegistry.run {} pinnedRun).find 7).isSome := by
  decide +kernel

/-- Reported from the boot the operation is pinned to: a report of protection from that boot is not
believed. -/
theorem restart_enforced_firstBoot : VerifiedOn (ClientRegistry.run {}
      (pinnedRun ++ .setUwfFleetStatus 7 (awaitingReport (Block.fill 16 1)) 3 ::
        [.setUwfFleetStatus 7 (protectedReport (Block.fill 16 1)) 4])) 7 (Block.fill 16 1) = false :=
  (@restart_enforced_iff pinnedRun 7 (((ClientRegistry.run {} pinnedRun).find 7).get isSome_find_pinnedRun)
    (awaitingReport (Block.fill 16 1)) 3 (Option.some_get _).symm (by decide +kernel) rfl).mpr
    (by decide +kernel) _ (by simp [NoOperation])

/-- Reported from a later boot, the restart is not asked for: the next report of protection from that
boot is believed. -/
theorem restart_not_always_enforced :
    ¬ ∀ (calls : List Call) (id : UInt64) (client : ClientRecord) (report : UwfFleetStatusReport)
      (now : ℤ), (ClientRegistry.run {} calls).find id = some client →
      client.uwf.superseded report = false → UwfFleetState.expectsRestart report.phase = true →
      ∀ after, NoOperation id after →
        VerifiedOn (ClientRegistry.run {} (calls ++ .setUwfFleetStatus id report now :: after)) id
          report.bootId = false := by
  intro h
  have hnever := h pinnedRun 7 (((ClientRegistry.run {} pinnedRun).find 7).get isSome_find_pinnedRun)
    (awaitingReport (Block.fill 16 2)) 3 (Option.some_get _).symm (by decide +kernel) rfl
    [.setUwfFleetStatus 7 (protectedReport (Block.fill 16 2)) 4] (by simp [NoOperation])
  have hverified : VerifiedOn (ClientRegistry.run {}
      (pinnedRun ++ .setUwfFleetStatus 7 (awaitingReport (Block.fill 16 2)) 3 ::
        [.setUwfFleetStatus 7 (protectedReport (Block.fill 16 2)) 4])) 7 (Block.fill 16 2) = true := by
    decide +kernel
  rw [show (awaitingReport (Block.fill 16 2)).bootId = Block.fill 16 2 from rfl, hverified] at hnever
  cases hnever

end Nstu.Server
