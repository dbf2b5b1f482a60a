import Nstu.Core.Text
import Nstu.Server.Connection
import Nstu.Server.Registry

/-!
# Which connection speaks for a client

The part of `control_plane.cpp` under `states_mutex_`: a connection that has proved who it is takes the
place of the client's earlier one, and from then on only its reports reach the registry.

An event is what one thread does under the lock; the events of several connections come in any order.
A connection that has been taken off `states_` can still be at work on a frame, so it keeps its state
here and is only marked.  `Owned` is the invariant: the entry of a client in `client_connections_` is
the connection that was published last, for as long as that one is there.
-/

namespace Nstu.Control.CommandType

def hello : CommandType := ⟨1⟩
def statusReport : CommandType := ⟨18⟩
def snapshotFrame : CommandType := ⟨24⟩
def freezeReport : CommandType := ⟨44⟩
def uwfReport : CommandType := ⟨46⟩
def uwfFleetStatus : CommandType := ⟨48⟩
def helpRequest : CommandType := ⟨58⟩
def wolReport : CommandType := ⟨62⟩
def fleetMetadata : CommandType := ⟨69⟩

end Nstu.Control.CommandType

namespace Nstu.Server

open Wire Control

/-- The dispatcher counts its connections and never uses a number again. -/
abbrev ConnectionId := ℕ

def registryIdFor (identity : ClientId) : UInt64 :=
  let hash := identity.toList.foldl (fun (hash : UInt64) value => (hash ^^^ value.toUInt64) * 1099511628211)
    14695981039346656037
  if hash = 0 then 1 else hash

/-- `fallback_hostname`: the low half of the number in eight digits. -/
def fallbackHostname (registryId : UInt64) : Bytes :=
  labelBytes "Client-" ++
    (List.range 8).map fun place => UInt8.ofNat (Text.hexChar (registryId.toNat / 16 ^ (7 - place) % 16))

/-- The part of a `ConnectionState` that decides whom it speaks for.  `live` says whether `states_` has
it. -/
structure Carrier where
  source : Bytes
  stage : Stage := .initial
  clientId : ClientId := Block.zero 16
  registryId : UInt64 := 0
  live : Bool := true

structure ControlPlane where
  nextConnectionId : ConnectionId := 1
  connections : Std.ExtTreeMap ConnectionId Carrier := ∅
  clientConnections : Std.ExtTreeMap UInt64 ConnectionId := ∅
  registry : ClientRegistry := {}

/-! ## Reports -/

/-- What a command of a client asks of the registry: nothing, nothing because it cannot be read, or a
call, which it may be an error to refuse. -/
inductive Reported where
  | ignored
  | malformed
  | change (call : Call) (required : Bool)

def Reported.ofDecoded {α : Type} (decoded : Option α) (call : α → Call) : Reported :=
  decoded.elim .malformed fun report => .change (call report) true

/-- The record that a status report stands for. -/
def statusRecord (id : UInt64) (source : Bytes) (report : ClientStatusReport) (now : ℤ) : ClientRecord :=
  { id
    hostname := report.hostname
    address := source
    status := if report.locked then .locked else .online
    delivery := report.delivery
    latencyMs := report.latencyMs
    packetLossPerMille := report.packetLossPerMille
    packetLossSampleSize := report.packetLossSampleSize
    streaming := report.streaming
    snapshotting := report.snapshotting
    viewingBroadcast := report.viewingBroadcast
    framesPerSecond := report.framesPerSecond
    snapshotIntervalSeconds := report.snapshotIntervalSeconds
    lastSeen := now }

/-- The commands of `process_authenticated` that go to the registry.  `allocated` says whether the copy
of a snapshot can be allocated. -/
def reported (id : UInt64) (source : Bytes) (type : CommandType) (payload : Bytes) (now : ℤ)
    (allocated : Bool) : Reported :=
  if type = .heartbeat then .change (.touch id now) false
  else if type = .uwfReport then
    .ofDecoded (decodeUwfConfigureReport payload) fun report => .setUwfReport id report now
  else if type = .uwfFleetStatus then
    .ofDecoded (decodeUwfFleetStatusReport payload) fun report => .setUwfFleetStatus id report now
  else if type = .freezeReport then
    .ofDecoded (decodeFreezeState payload) fun frozen => .setFrozen id frozen now
  else if type = .helpRequest then
    .ofDecoded (decodeHelpRequest payload) fun help =>
      .setHelpRequest id help.active help.message help.timestampUnixMs now
  else if type = .wolReport then
    .ofDecoded (decodeWolReport payload) fun wol => .setWolReport id wol.mac wol.support now
  else if type = .fleetMetadata then
    .ofDecoded (decodeFleetMetadata payload) fun metadata =>
      .setFleetMetadata id metadata.clientVersion metadata.agentConnected now
  else if type = .statusReport ∨ type = .hello then
    match decodeStatusReport payload with
    | none => .malformed
    | some report => .change (.upsert (statusRecord id source report now)) false
  else if type = .snapshotFrame then
    .ofDecoded (decodeSnapshotFrame payload) fun frame => .updateSnapshot id frame allocated now
  else .ignored

/-- What the registry answers to a call. -/
def ClientRegistry.answer (registry : ClientRegistry) : Call → Bool
  | .upsert _ => true
  | .setStatus id status => (registry.setStatus id status).2
  | .touch id now => (registry.touch id now).2
  | .setFrozen id frozen now => (registry.setFrozen id frozen now).2
  | .setHelpRequest id active message timestampUnixMs now =>
    (registry.setHelpRequest id active message timestampUnixMs now).2
  | .setWolReport id mac support now => (registry.setWolReport id mac support now).2
  | .setFleetMetadata id version agentConnected now =>
    (registry.setFleetMetadata id version agentConnected now).2
  | .setUwfReport id report now => (registry.setUwfReport id report now).2
  | .beginUwfFleetOperation id operationId restartRequested now =>
    (registry.beginUwfFleetOperation id operationId restartRequested now).2
  | .setUwfFleetStatus id report now => (registry.setUwfFleetStatus id report now).2
  | .demoteUwfVerification id now => (registry.demoteUwfVerification id now).2
  | .updateSnapshot id frame allocated now => (registry.updateSnapshot id frame allocated now).2
  | .updateHealth id latencyMs lossPerMille finalizedSampleSize delivery now =>
    (registry.updateHealth id latencyMs lossPerMille finalizedSampleSize delivery now).2
  | .expire _ _ _ => true

/-! ## The control plane -/

namespace ControlPlane

/-- `is_live_state_locked`. -/
def isLive (plane : ControlPlane) (id : ConnectionId) : Bool :=
  plane.connections[id]?.any fun carrier => carrier.live

/-- `is_current_state_locked`. -/
def isCurrent (plane : ControlPlane) (id : ConnectionId) : Bool :=
  plane.connections[id]?.any fun carrier =>
    carrier.live && carrier.stage = .authenticated && carrier.registryId != 0 &&
      carrier.registryId == registryIdFor carrier.clientId &&
      plane.clientConnections[carrier.registryId]? == some id

def setCarrier (plane : ControlPlane) (id : ConnectionId) (carrier : Carrier) : ControlPlane :=
  { plane with connections := plane.connections.insert id carrier }

/-- `on_connected`. -/
def connected (plane : ControlPlane) (source : Bytes) : ControlPlane :=
  { plane.setCarrier plane.nextConnectionId { source } with
    nextConnectionId := plane.nextConnectionId + 1 }

/-- A preamble and an `auth_hello` that `process_auth_hello` accepts. -/
def helloAccepted (plane : ControlPlane) (id : ConnectionId) (clientId : ClientId) : ControlPlane :=
  match plane.connections[id]? with
  | none => plane
  | some carrier =>
    if carrier.stage = .initial then
      plane.setCarrier id { carrier with stage := .authProof, clientId }
    else plane

/-- The registry while a client is published: an earlier proof is retired first. -/
def publishedRegistry (plane : ControlPlane) (registryId : UInt64) (source : Bytes) (retired now : ℤ) :
    ClientRegistry :=
  let record : ClientRecord :=
    { id := registryId
      hostname := fallbackHostname registryId
      address := source
      status := .online
      lastSeen := now }
  (plane.registry.demoteUwfVerification registryId retired).1.upsert record

/-- The last scope of `process_auth_proof`, once the proof has been verified. -/
def publish (plane : ControlPlane) (id : ConnectionId) (retired now : ℤ) : ControlPlane :=
  match plane.connections[id]? with
  | none => plane
  | some carrier =>
    if carrier.stage = .authProof ∧ carrier.live then
      let registryId := registryIdFor carrier.clientId
      { plane.setCarrier id { carrier with stage := .authenticated, registryId } with
        clientConnections := plane.clientConnections.insert registryId id
        registry := plane.publishedRegistry registryId carrier.source retired now }
    else plane

/-- `mutate_current_registry`, with what it returns. -/
def mutateCurrentRegistry (plane : ControlPlane) (id : ConnectionId) (call : Call) : ControlPlane × Bool :=
  if plane.isCurrent id then
    ({ plane with registry := plane.registry.step call }, plane.registry.answer call)
  else (plane, false)

/-- `process_authenticated` on a command for the registry; `false` means that it disconnects. -/
def processReport (plane : ControlPlane) (id : ConnectionId) (type : CommandType) (payload : Bytes)
    (now : ℤ) (allocated : Bool) : ControlPlane × Bool :=
  match plane.connections[id]? with
  | none => (plane, false)
  | some carrier =>
    if carrier.stage = .authenticated then
      match reported carrier.registryId carrier.source type payload now allocated with
      | .ignored => (plane, true)
      | .malformed => (plane, false)
      | .change call required =>
        let result := plane.mutateCurrentRegistry id call
        (result.1, result.2 || !required)
    else (plane, false)

/-- The registry once the connection that speaks for a client is gone. -/
def offlineRegistry (plane : ControlPlane) (registryId : UInt64) (now : ℤ) : ClientRegistry :=
  ((plane.registry.setStatus registryId .offline).1.demoteUwfVerification registryId now).1

def onDisconnected (plane : ControlPlane) (id : ConnectionId) (now : ℤ) : ControlPlane :=
  match plane.connections[id]? with
  | none => plane
  | some carrier =>
    if carrier.live then
      let gone := plane.setCarrier id { carrier with live := false }
      if carrier.registryId ≠ 0 ∧ plane.clientConnections[carrier.registryId]? = some id then
        { gone with
          clientConnections := plane.clientConnections.erase carrier.registryId
          registry := plane.offlineRegistry carrier.registryId now }
      else gone
    else plane

end ControlPlane

/-- What a thread does under the lock.  `registryCall` is a call of the registry from elsewhere: by the
operator, or to let clients expire. -/
inductive Event where
  | connected (source : Bytes)
  | helloAccepted (id : ConnectionId) (clientId : ClientId)
  | publish (id : ConnectionId) (retired now : ℤ)
  | report (id : ConnectionId) (type : CommandType) (payload : Bytes) (now : ℤ) (allocated : Bool)
  | disconnected (id : ConnectionId) (now : ℤ)
  | registryCall (call : Call)

namespace ControlPlane

/-- One call of the plane or of its registry. -/
def step (plane : ControlPlane) : Event → ControlPlane
  | .connected source => plane.connected source
  | .helloAccepted id clientId => plane.helloAccepted id clientId
  | .publish id retired now => plane.publish id retired now
  | .report id type payload now allocated => (plane.processReport id type payload now allocated).1
  | .disconnected id now => plane.onDisconnected id now
  | .registryCall call => { plane with registry := plane.registry.step call }

def run (plane : ControlPlane) (events : List Event) : ControlPlane := events.foldl step plane

/-- The publication that an event makes: the client, and the connection that now speaks for it. -/
def publication (plane : ControlPlane) : Event → Option (UInt64 × ConnectionId)
  | .publish id _ _ =>
    match plane.connections[id]? with
    | none => none
    | some carrier =>
      if carrier.stage = .authProof ∧ carrier.live then some (registryIdFor carrier.clientId, id)
      else none
  | _ => none

/-- The publications of a run, the last one first. -/
def publications (plane : ControlPlane) : List Event → List (UInt64 × ConnectionId)
  | [] => []
  | event :: events =>
    (plane.step event).publications events ++ (plane.publication event).toList

end ControlPlane

/-- The connection that was published last for a client. -/
def lastPublished (log : List (UInt64 × ConnectionId)) (client : UInt64) : Option ConnectionId :=
  (log.find? fun entry => entry.1 == client).map Prod.snd

/-! ## What the events do -/

section Lookup

variable (plane : ControlPlane) (id other : ConnectionId) (carrier : Carrier)

lemma connections_setCarrier : (plane.setCarrier id carrier).connections[other]? =
      if id = other then some carrier else plane.connections[other]? := by
  simp only [ControlPlane.setCarrier, Std.ExtTreeMap.getElem?_insert, Std.compare_eq_iff_eq]

lemma isLive_setCarrier :
    (plane.setCarrier id carrier).isLive other = if id = other then carrier.live else plane.isLive other := by
  rw [ControlPlane.isLive, connections_setCarrier]
  split
  · rfl
  · rfl

end Lookup

lemma registryIdFor_ne_zero (identity : ClientId) : registryIdFor identity ≠ 0 := by
  simp only [registryIdFor]
  split
  · decide
  · assumption

lemma isSome_find_step {registry : ClientRegistry} {id : UInt64} (h : (registry.find id).isSome)
    (call : Call) : ((registry.step call).find id).isSome := by
  obtain ⟨client, hc⟩ := Option.isSome_iff_exists.mp h
  obtain ⟨after, ha, -⟩ := uwf_step hc call
  rw [ha]
  rfl

variable {client : UInt64}

lemma isSome_find_publishedRegistry {plane : ControlPlane} (id : UInt64) (source : Bytes) (retired now : ℤ)
    (h : (plane.registry.find client).isSome ∨ client = id) :
    ((plane.publishedRegistry id source retired now).find client).isSome := by
  rw [ControlPlane.publishedRegistry, find_upsert]
  split
  · rfl
  · rename_i ho
    rcases h with hk | hs
    · exact isSome_find_step hk (.demoteUwfVerification id retired)
    · exact absurd hs.symm ho

lemma isSome_find_offlineRegistry {plane : ControlPlane} (id : UInt64) (now : ℤ)
    (h : (plane.registry.find client).isSome) : ((plane.offlineRegistry id now).find client).isSome := by
  have hs := isSome_find_step h (.setStatus id .offline)
  exact isSome_find_step hs (.demoteUwfVerification id now)

/-- A report reaches the registry as a call, on the connection that speaks for the client, or not at
all. -/
lemma processReport_cases (plane : ControlPlane) (id : ConnectionId) (type : CommandType)
    (payload : Bytes) (now : ℤ) (allocated : Bool) :
    (plane.processReport id type payload now allocated).1 = plane ∨ plane.isCurrent id ∧ ∃ call,
        (plane.processReport id type payload now allocated).1 =
          { plane with registry := plane.registry.step call } := by
  rw [ControlPlane.processReport]
  split
  · exact .inl rfl
  · split
    · split
      · exact .inl rfl
      · exact .inl rfl
      · simp only [ControlPlane.mutateCurrentRegistry]
        split
        · rename_i call _ _ hc
          exact .inr ⟨hc, call, rfl⟩
        · exact .inl rfl
    · exact .inl rfl

/-! ## The invariant -/

lemma mem_of_lastPublished {log : List (UInt64 × ConnectionId)} {id : ConnectionId}
    (h : lastPublished log client = some id) : (client, id) ∈ log := by
  rw [lastPublished, Option.map_eq_some_iff] at h
  obtain ⟨entry, hf, rfl⟩ := h
  have hc := List.find?_some hf
  rw [beq_iff_eq] at hc
  rw [← hc]
  exact List.mem_of_find?_eq_some hf

/-- **The connection that speaks for a client** is the one published last, while it is there. -/
structure Owned (plane : ControlPlane) (log : List (UInt64 × ConnectionId)) : Prop where
  fresh : ∀ id, plane.nextConnectionId ≤ id → plane.connections[id]? = none
  carriers : ∀ {client id}, (client, id) ∈ log → client ≠ 0 ∧ ∃ carrier : Carrier,
    plane.connections[id]? = some carrier ∧ carrier.stage = .authenticated ∧ carrier.registryId = client
  mapping : ∀ client, plane.clientConnections[client]? = (lastPublished log client).filter plane.isLive
  known : ∀ {client id}, (client, id) ∈ log → (plane.registry.find client).isSome = true

section Preservation

variable {plane : ControlPlane} {log : List (UInt64 × ConnectionId)}

lemma owned_init : Owned {} [] where
  fresh := fun _ _ => Std.ExtTreeMap.getElem?_empty
  carriers := fun h => absurd h List.not_mem_nil
  mapping := fun _ => Std.ExtTreeMap.getElem?_empty
  known := fun h => absurd h List.not_mem_nil

lemma filter_isLive_congr {other : ControlPlane} {client : UInt64}
    (h : ∀ id, (client, id) ∈ log → other.isLive id = plane.isLive id) :
    (lastPublished log client).filter other.isLive = (lastPublished log client).filter plane.isLive := by
  cases hl : lastPublished log client with
  | none => rfl
  | some id =>
    rw [Option.filter_some, Option.filter_some, h id (mem_of_lastPublished hl)]

lemma Owned.withRegistry (h : Owned plane log) {registry : ClientRegistry}
    (hk : ∀ client, (plane.registry.find client).isSome →
      (registry.find client).isSome) : Owned { plane with registry } log where
  fresh := h.fresh
  carriers := h.carriers
  mapping := h.mapping
  known := fun hm => hk _ (h.known hm)

lemma Owned.setCarrier (h : Owned plane log) {id : ConnectionId} {carrier : Carrier}
    (ho : id < plane.nextConnectionId) (hf : ∀ client, (client, id) ∉ log) :
    Owned (plane.setCarrier id carrier) log := by
  have hot : ∀ {client i}, (client, i) ∈ log → id ≠ i := by
    rintro client i hm rfl
    exact hf client hm
  constructor
  · intro i hi
    rw [connections_setCarrier, if_neg]
    · exact h.fresh i hi
    · exact fun he => absurd (he ▸ hi) (Nat.not_le.mpr ho)
  · intro client i hm
    rw [connections_setCarrier, if_neg (hot hm)]
    exact h.carriers hm
  · intro client
    refine (h.mapping client).trans (filter_isLive_congr ?_).symm
    intro i hm
    rw [isLive_setCarrier, if_neg (hot hm)]
  · exact h.known

lemma Owned.lt_of_some (h : Owned plane log) {id : ConnectionId} {carrier : Carrier}
    (hc : plane.connections[id]? = some carrier) : id < plane.nextConnectionId := by
  by_contra hl
  rw [h.fresh id (Nat.not_lt.mp hl)] at hc
  cases hc

lemma Owned.not_mem_of_stage (h : Owned plane log) {id : ConnectionId} {carrier : Carrier}
    (hc : plane.connections[id]? = some carrier) (hs : carrier.stage ≠ .authenticated)
    (client : UInt64) : (client, id) ∉ log := by
  intro hm
  obtain ⟨-, found, hf, ha, -⟩ := h.carriers hm
  rw [hc] at hf
  cases hf
  exact hs ha

lemma Owned.connected (h : Owned plane log) (source : Bytes) : Owned (plane.connected source) log := by
  have hn := h.fresh _ (Nat.le_refl _)
  have hr : Owned { plane with nextConnectionId := plane.nextConnectionId + 1 } log :=
    ⟨fun id hi => h.fresh id (Nat.le_of_succ_le hi), h.carriers, h.mapping, h.known⟩
  refine hr.setCarrier (Nat.lt_succ_self _) ?_
  intro client hm
  obtain ⟨-, carrier, hc, -, -⟩ := h.carriers hm
  rw [hn] at hc
  cases hc

lemma Owned.helloAccepted (h : Owned plane log) (id : ConnectionId) (clientId : ClientId) :
    Owned (plane.helloAccepted id clientId) log := by
  rw [ControlPlane.helloAccepted]
  split
  · exact h
  · rename_i carrier hc
    split
    · rename_i hs
      refine h.setCarrier (h.lt_of_some hc) (h.not_mem_of_stage hc ?_)
      rw [hs]
      decide
    · exact h

lemma lastPublished_cons (client : UInt64) (id : ConnectionId) (a : UInt64) :
    lastPublished ((client, id) :: log) a = if client = a then some id else lastPublished log a := by
  by_cases h : client = a
  · rw [if_pos h, lastPublished, List.find?_cons_of_pos (by simpa using h), Option.map_some]
  · rw [if_neg h, lastPublished, List.find?_cons_of_neg (by simpa using h), lastPublished]

lemma Owned.published (h : Owned plane log) {id : ConnectionId} {carrier : Carrier} (retired now : ℤ)
    (hcarr : plane.connections[id]? = some carrier) (hstage : carrier.stage = .authProof)
    (hlive : carrier.live) :
    Owned (plane.publish id retired now) ((registryIdFor carrier.clientId, id) :: log) := by
  have hfree : ∀ client, (client, id) ∉ log := by
    refine h.not_mem_of_stage hcarr ?_
    rw [hstage]
    decide
  have hplane : Owned (plane.setCarrier id
      { carrier with stage := .authenticated, registryId := registryIdFor carrier.clientId }) log :=
    h.setCarrier (h.lt_of_some hcarr) hfree
  have hready : carrier.stage = .authProof ∧ carrier.live := ⟨hstage, hlive⟩
  simp only [ControlPlane.publish, hcarr, if_pos hready]
  constructor
  · exact hplane.fresh
  · intro client i hmem
    rcases List.mem_cons.mp hmem with heq | hmem
    · cases heq
      have hfound := (connections_setCarrier plane id id { carrier with
        stage := .authenticated, registryId := registryIdFor carrier.clientId }).trans (if_pos rfl)
      exact ⟨registryIdFor_ne_zero _, _, hfound, rfl, rfl⟩
    · exact hplane.carriers hmem
  · intro client
    rw [lastPublished_cons]
    simp only [Std.ExtTreeMap.getElem?_insert, Std.compare_eq_iff_eq]
    split
    · rw [Option.filter_some, if_pos]
      exact (isLive_setCarrier _ _ _ _).trans (by rw [if_pos rfl, hlive])
    · exact hplane.mapping client
  · intro client i hmem
    refine isSome_find_publishedRegistry _ _ _ _ ?_
    rcases List.mem_cons.mp hmem with heq | hmem
    · cases heq
      exact .inr rfl
    · exact .inl (h.known hmem)

lemma Owned.publish (h : Owned plane log) (id : ConnectionId) (retired now : ℤ) : Owned (plane.publish id retired now)
      ((plane.publication (.publish id retired now)).toList ++ log) := by
  cases hc : plane.connections[id]? with
  | none =>
    simp only [ControlPlane.publish, ControlPlane.publication, hc]
    exact h
  | some carrier =>
    by_cases hr : carrier.stage = .authProof ∧ carrier.live
    · have hp := h.published retired now hc hr.1 hr.2
      simp only [ControlPlane.publication, hc, if_pos hr]
      exact hp
    · simp only [ControlPlane.publish, ControlPlane.publication, hc, if_neg hr]
      exact h

lemma Owned.onDisconnected (h : Owned plane log) (id : ConnectionId) (now : ℤ) :
    Owned (plane.onDisconnected id now) log := by
  cases hcarr : plane.connections[id]? with
  | none =>
    simp only [ControlPlane.onDisconnected, hcarr]
    exact h
  | some carrier =>
    cases hlive : carrier.live with
    | false =>
      simp only [ControlPlane.onDisconnected, hcarr, hlive, Bool.false_eq_true, if_false]
      exact h
    | true =>
      have hgone : ∀ i, (plane.setCarrier id { carrier with live := false }).isLive i =
          if id = i then false else plane.isLive i := by
        intro i
        rw [isLive_setCarrier]
      have hcarri : ∀ {client i}, (client, i) ∈ log → client ≠ 0 ∧ ∃ found : Carrier,
          (plane.setCarrier id { carrier with live := false }).connections[i]? = some found ∧
            found.stage = .authenticated ∧ found.registryId = client := by
        intro client i hmem
        obtain ⟨hclie, found, hfound, hstage, hid⟩ := h.carriers hmem
        rw [connections_setCarrier]
        by_cases hsame : id = i
        · subst hsame
          rw [hcarr] at hfound
          cases hfound
          exact ⟨hclie, _, if_pos rfl, hstage, hid⟩
        · exact ⟨hclie, found, (if_neg hsame).trans hfound, hstage, hid⟩
      have hfresh : ∀ i, plane.nextConnectionId ≤ i →
          (plane.setCarrier id { carrier with live := false }).connections[i]? = none := by
        intro i hi
        rw [connections_setCarrier, if_neg]
        · exact h.fresh i hi
        · exact fun heq => absurd (heq ▸ hi) (Nat.not_le.mpr (h.lt_of_some hcarr))
      -- the entry goes exactly if it names this connection
      have hlast : ∀ client, lastPublished log client = some id →
          carrier.registryId = client ∧ carrier.registryId ≠ 0 ∧ plane.clientConnections[client]? = some id := by
        intro client hclie
        obtain ⟨hne, found, hfound, -, hid⟩ := h.carriers (mem_of_lastPublished hclie)
        rw [hcarr] at hfound
        cases hfound
        refine ⟨hid, hid ▸ hne, ?_⟩
        rw [h.mapping, hclie, Option.filter_some, if_pos]
        rw [ControlPlane.isLive, hcarr, Option.any_some, hlive]
      have hothe : ∀ client, lastPublished log client ≠ some id → (lastPublished log client).filter
              (plane.setCarrier id { carrier with live := false }).isLive =
            plane.clientConnections[client]? := by
        intro client hclie
        rw [h.mapping]
        cases hlastP : lastPublished log client with
        | none => rfl
        | some i =>
          have hne : id ≠ i := fun heq => hclie (heq ▸ hlastP)
          rw [Option.filter_some, Option.filter_some, hgone, if_neg hne]
      simp only [ControlPlane.onDisconnected, hcarr, if_pos hlive]
      by_cases howner : carrier.registryId ≠ 0 ∧ plane.clientConnections[carrier.registryId]? = some id
      · rw [if_pos howner]
        refine ⟨hfresh, hcarri, ?_, fun hmem => isSome_find_offlineRegistry _ _ (h.known hmem)⟩
        intro client
        simp only [Std.ExtTreeMap.getElem?_erase, Std.compare_eq_iff_eq]
        by_cases hclie : carrier.registryId = client
        · rw [if_pos hclie]
          have howned := howner.2
          rw [hclie, h.mapping, Option.filter_eq_some_iff] at howned
          rw [howned.1, Option.filter_some]
          refine (if_neg ?_).symm
          intro hstill
          have hfalse := (hgone id).symm.trans hstill
          rw [if_pos rfl] at hfalse
          cases hfalse
        · rw [if_neg hclie]
          exact (hothe client fun hlastP => hclie (hlast client hlastP).1).symm
      · rw [if_neg howner]
        refine ⟨hfresh, hcarri, ?_, h.known⟩
        intro client
        refine (hothe client fun hlastP => howner ?_).symm
        obtain ⟨hid, hne, howned⟩ := hlast client hlastP
        exact ⟨hne, hid ▸ howned⟩

/-- Each event keeps the log of owners. -/
lemma Owned.step (h : Owned plane log) (event : Event) :
    Owned (plane.step event) ((plane.publication event).toList ++ log) := by
  cases event with
  | connected source => exact h.connected source
  | helloAccepted id clientId => exact h.helloAccepted id clientId
  | publish id retired now => exact h.publish id retired now
  | report id type payload now allocated =>
    rcases processReport_cases plane id type payload now allocated with hs | ⟨-, call, hc⟩
    · rw [ControlPlane.step, hs]
      exact h
    · rw [ControlPlane.step, hc]
      exact h.withRegistry fun _ hk => isSome_find_step hk call
  | disconnected id now => exact h.onDisconnected id now
  | registryCall call => exact h.withRegistry fun _ hk => isSome_find_step hk call

lemma Owned.run (h : Owned plane log) (events : List Event) :
    Owned (plane.run events) (plane.publications events ++ log) := by
  induction events generalizing plane log with
  | nil => exact h
  | cons event events ih =>
    rw [ControlPlane.publications, List.append_assoc]
    exact ih (h.step event)

end Preservation

/-! ## Ownership -/

/-- The events of one connection's own: its frames and its end. -/
def Event.of (id : ConnectionId) : Event → Prop
  | .report i _ _ _ _ => i = id
  | .disconnected i _ => i = id
  | _ => False

/-- A connection that another one has taken the place of, or that has never spoken for its client. -/
def ControlPlane.Superseded (plane : ControlPlane) (id : ConnectionId) : Prop :=
  ∀ carrier : Carrier, plane.connections[id]? = some carrier → plane.clientConnections[carrier.registryId]? ≠ some id

lemma isCurrent_iff {plane : ControlPlane} {id : ConnectionId} :
    plane.isCurrent id ↔ ∃ carrier : Carrier, plane.connections[id]? = some carrier ∧
      carrier.live ∧ carrier.stage = .authenticated ∧ carrier.registryId ≠ 0 ∧
      carrier.registryId = registryIdFor carrier.clientId ∧ plane.clientConnections[carrier.registryId]? = some id := by
  simp only [ControlPlane.isCurrent, Option.any_eq_true, Bool.and_eq_true, decide_eq_true_eq, bne_iff_ne,
    beq_iff_eq, and_assoc]

/-- A superseded connection changes nothing. -/
lemma registry_step_of_superseded {plane : ControlPlane} {id : ConnectionId}
    (h : plane.Superseded id) {event : Event} (he : event.of id) :
    (plane.step event).registry = plane.registry := by
  cases event with
  | report i type payload now allocated =>
    obtain rfl : i = id := he
    rcases processReport_cases plane i type payload now allocated with hs | ⟨hc, -⟩
    · rw [ControlPlane.step, hs]
    · obtain ⟨carrier, hca, -, -, -, -, hm⟩ := isCurrent_iff.mp hc
      exact absurd hm (h carrier hca)
  | disconnected i now =>
    obtain rfl : i = id := he
    rw [ControlPlane.step, ControlPlane.onDisconnected]
    split
    · rfl
    · rename_i carrier hca
      simp only [h carrier hca, and_false, if_false]
      split
      · rfl
      · rfl
  | connected _ | helloAccepted _ _ | publish _ _ _ | registryCall _ => exact False.elim he

lemma not_proves_demote (uwf : UwfFleetState) (now : ℤ) :
    (uwf.demoteUwfVerification now).provesCurrentProtection = false := by
  rw [UwfFleetState.demoteUwfVerification]
  split
  · rename_i hp
    simp only [UwfFleetState.provesCurrentProtection, hp, decide_false, Bool.false_and]
  · rfl

lemma Owned.disconnect_owner {plane : ControlPlane} {log : List (UInt64 × ConnectionId)}
    (h : Owned plane log) {id : ConnectionId} (now : ℤ) (howner : plane.clientConnections[client]? = some id) :
    (plane.onDisconnected id now).clientConnections[client]? = none ∧
      ∃ record, (plane.onDisconnected id now).registry.find client = some record ∧
        record.status = .offline ∧ record.uwf.provesCurrentProtection = false := by
  have hmapp := howner
  rw [h.mapping, Option.filter_eq_some_iff] at hmapp
  have hmem := mem_of_lastPublished hmapp.1
  obtain ⟨hclie, carrier, hcarr, -, hid⟩ := h.carriers hmem
  obtain ⟨record, hreco⟩ := Option.isSome_iff_exists.mp (h.known hmem)
  have hlive : carrier.live := by
    have hlive := hmapp.2
    rw [ControlPlane.isLive, hcarr, Option.any_some] at hlive
    exact hlive
  have howned : client ≠ 0 ∧ plane.clientConnections[client]? = some id := ⟨hclie, howner⟩
  simp only [ControlPlane.onDisconnected, hcarr, if_pos hlive, hid, if_pos howned]
  constructor
  · exact Std.ExtTreeMap.getElem?_erase_self
  · have hfound : (plane.offlineRegistry client now).find client = some { record with
        status := .offline, uwf := record.uwf.demoteUwfVerification now } := by
      simp only [ControlPlane.offlineRegistry, ClientRegistry.demoteUwfVerification,
        ClientRegistry.setStatus, find_modify, if_true, hreco, Option.map_some]
    exact ⟨_, hfound, rfl, not_proves_demote _ _⟩

/-- **Who speaks for a client.**  In any order of the events of any number of connections, the entry of a
client is the connection that was published for it last, and is gone with it.  The reports and the end
of any other connection leave the registry as it is; the end of this one takes the client offline and
retires its proof. -/
theorem connection_ownership (events : List Event) :
    (∀ client, (ControlPlane.run {} events).clientConnections[client]? =
      (lastPublished (ControlPlane.publications {} events) client).filter (ControlPlane.run {} events).isLive) ∧
    (∀ id event, (ControlPlane.run {} events).Superseded id → event.of id →
      ((ControlPlane.run {} events).step event).registry = (ControlPlane.run {} events).registry) ∧
    (∀ client id now, (ControlPlane.run {} events).clientConnections[client]? = some id →
      ((ControlPlane.run {} events).step (.disconnected id now)).clientConnections[client]? = none ∧
      ∃ record, ((ControlPlane.run {} events).step (.disconnected id now)).registry.find client =
        some record ∧ record.status = .offline ∧ record.uwf.provesCurrentProtection = false) := by
  have howned : Owned (ControlPlane.run {} events) (ControlPlane.publications {} events) := by
    have hrun := owned_init.run events
    rw [List.append_nil] at hrun
    exact hrun
  refine ⟨howned.mapping, fun _ _ hold hevent => registry_step_of_superseded hold hevent, ?_⟩
  intro client id now howner
  exact howned.disconnect_owner now howner

/-- A client connects again before its first connection is closed, and the second one is lost at once. -/
def lostAgain : List Event :=
  [.connected [], .helloAccepted 1 (Block.fill 16 7), .publish 1 0 0,
    .connected [], .helloAccepted 2 (Block.fill 16 7), .publish 2 1 1, .disconnected 2 2]

/-- Until then the second connection speaks for the client, and the end of the first changes nothing. -/
theorem connection_ownership_reconnected :
    ((ControlPlane.run {} (lostAgain.take 6)).step (.disconnected 1 2)).registry =
        (ControlPlane.run {} (lostAgain.take 6)).registry ∧ ((ControlPlane.run {} (lostAgain.take 6)).step
        (.disconnected 2 2)).clientConnections[registryIdFor (Block.fill 16 7)]? = none := by
  have howner : (ControlPlane.run {} (lostAgain.take 6)).clientConnections[registryIdFor
      (Block.fill 16 7)]? = some 2 := by
    decide +kernel
  have hfirst : ((ControlPlane.run {} (lostAgain.take 6)).connections[1]?.map Carrier.registryId) =
      some (registryIdFor (Block.fill 16 7)) := by
    decide +kernel
  obtain ⟨-, hsuperseded, hlost⟩ := connection_ownership (lostAgain.take 6)
  refine ⟨hsuperseded 1 (.disconnected 1 2) ?_ rfl, (hlost _ 2 2 howner).1⟩
  intro carrier hcarrier
  rw [hcarrier, Option.map_some, Option.some.injEq] at hfirst
  rw [hfirst, howner]
  decide

/-- The first connection is still there, but does not speak for the client again. -/
theorem connection_ownership_not_latest_live : ¬ ∀ (events : List Event) (client : UInt64),
      (ControlPlane.run {} events).clientConnections[client]? =
        lastPublished ((ControlPlane.publications {} events).filter fun entry =>
          (ControlPlane.run {} events).isLive entry.2) client := by
  intro h
  exact absurd (h lostAgain (registryIdFor (Block.fill 16 7))) (by decide +kernel)

end Nstu.Server
