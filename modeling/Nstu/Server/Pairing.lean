import Nstu.Control.Pairing
import Nstu.Server.KeyStore
import Nstu.Server.Ownership
import Mathlib.Data.List.Induction
import Mathlib.Data.List.Infix
import Mathlib.Tactic.IntervalCases

/-!
# Pairing on the server

The part of `control_plane.cpp` under `pairing_mutex_`: requests come in by `process_pairing_hello`,
are confirmed by `process_pairing_confirm` and wait for the operator, who approves or rejects them.  A
request leaves the table when it is answered, when it expires, when its connection ends and when the
window is closed.

An event is one scope of the lock.  `approve_pairing` takes the record out in one and installs the key
in another.

`Granted` is what is known of a request that waits and has not expired: it was admitted while the
window was open, has been in the table ever since and has never expired.  It holds as long as no
confirmation comes after the deadline, which `process_pairing_confirm` does not look at.
-/

namespace Nstu.Control.CommandType

def pairingConfirm : CommandType := ⟨40⟩

end Nstu.Control.CommandType

namespace Nstu.Server

open Wire Control Control.Pairing

def kMaximumPendingPairings : ℕ := 16

/-- Three minutes, in nanoseconds. -/
def kPairingApprovalWindow : ℤ := 180 * 10 ^ 9

structure PendingPairingRecord where
  connectionId : ConnectionId
  requestId : UInt64
  address : Bytes
  transcript : PairingTranscript
  secrets : PairingSecrets
  expiresAt : ℤ
  clientConfirmed : Bool := false
  deriving DecidableEq

/-- What the platform and the random source give to one hello: a key pair, a nonce, and the secret
agreed with the peer's key. -/
structure PairingDraw where
  agreement : KeyAgreement
  serverPublicKey : Bytes
  serverNonce : Nonce
  shared : Option Bytes
  deriving DecidableEq

/-- The stage of a connection that pairs.  `offering` is a hello whose offer has not been sent yet. -/
inductive PairingStage where
  | offering (pairingId : ℕ) (requestId : UInt64)
  | offered (pairingId : ℕ) (requestId : UInt64)
  | pending
  | failed
  deriving DecidableEq

/-- A key that pairing has put into the key store. -/
structure Installation where
  pairingId : ℕ
  clientId : ClientId
  keyId : UInt32
  key : Bytes
  deriving DecidableEq

/-- The state of pairing.  `approved` has the records that an approval has taken out and not installed
yet; `installed` is a log. -/
structure PairingPlane where
  now : ℤ := 0
  pairingWindowOpen : Bool := false
  nextPairingId : ℕ := 1
  pendingPairings : Std.ExtTreeMap ℕ PendingPairingRecord := ∅
  stages : Std.ExtTreeMap ConnectionId PairingStage := ∅
  settled : List ConnectionId := []
  closed : List ConnectionId := []
  approved : List (ℕ × PendingPairingRecord) := []
  keyStore : KeyStore := {}
  installed : List Installation := []

inductive PairingEvent where
  | tick (elapsed : ℕ)
  | hello (id : ConnectionId) (requestId : UInt64) (source payload : Bytes) (draw : Option PairingDraw)
      (elapsed : ℕ)
  | offerSent (id : ConnectionId) (sent : Bool)
  | frame (id : ConnectionId) (frame : TcpFrame) (elapsed : ℕ)
  | disconnected (id : ConnectionId)
  | setPairingWindow (isOpen : Bool)
  | approvePairing (pairingId : ℕ)
  | installApproved (pairingId : ℕ) (saved : Bool)
  | rejectPairing (pairingId : ℕ)
  | expirePendingPairings

namespace PairingPlane

/-- `settle_pairing_connection`, for each of them. -/
def settle (plane : PairingPlane) (ids : List ConnectionId) : PairingPlane :=
  { plane with settled := plane.settled ++ ids }

def setStage (plane : PairingPlane) (id : ConnectionId) (stage : PairingStage) : PairingPlane :=
  { plane with stages := plane.stages.insert id stage }

/-- `take_expired_locked`, with what is done to the connections afterwards. -/
def takeExpired (plane : PairingPlane) : PairingPlane :=
  let gone := plane.pendingPairings.filter fun _ record => record.expiresAt ≤ plane.now
  { plane.settle (gone.toList.map fun entry => entry.2.connectionId) with
    pendingPairings := plane.pendingPairings.filter fun _ record => plane.now < record.expiresAt }

section Steps

variable (sha256 : Bytes → Digest) (hmac : Bytes → Bytes → Digest)

/-- `process_pairing_hello` before it takes the lock: the transcript, the secrets and the offer. -/
def prepare (payload : Bytes) (draw : Option PairingDraw) : Option (PairingTranscript × PairingSecrets) := do
  let hello ← decodePairingHello payload
  let draw ← draw
  guard (draw.agreement = hello.agreement)
  let offer : PairingOffer :=
    { agreement := draw.agreement, serverPublicKey := draw.serverPublicKey,
      serverNonce := draw.serverNonce }
  let transcript ← makeTranscript hello offer
  let shared ← draw.shared
  let secrets ← derivePairingSecrets sha256 hmac shared transcript
  guard (encodePairingOffer offer ≠ [])
  pure (transcript, secrets)

/-- `process_pairing_hello`, up to the end of its scope. -/
def processPairingHello (plane : PairingPlane) (id : ConnectionId) (requestId : UInt64)
    (source payload : Bytes) (draw : Option PairingDraw) (elapsed : ℕ) : PairingPlane :=
  if (plane.stages[id]?).isSome then plane
  else
    match prepare sha256 hmac payload draw with
    | none => plane.setStage id .failed
    | some (transcript, secrets) =>
      let swept := plane.takeExpired
      if !swept.pairingWindowOpen then swept.setStage id .failed
      else if swept.pendingPairings.size ≥ kMaximumPendingPairings then swept.setStage id .failed
      else
        let now := swept.now + elapsed
        let record : PendingPairingRecord :=
          { connectionId := id
            requestId
            address := source
            transcript
            secrets
            expiresAt := now + kPairingApprovalWindow }
        { swept.setStage id (.offering swept.nextPairingId requestId) with
          now
          nextPairingId := swept.nextPairingId + 1
          pendingPairings := swept.pendingPairings.insert swept.nextPairingId record }

/-- The end of `process_pairing_hello`.  Nothing can be sent on a connection that has ended. -/
def offerSent (plane : PairingPlane) (id : ConnectionId) (sent : Bool) : PairingPlane :=
  match plane.stages[id]? with
  | some (.offering pairingId requestId) =>
    if sent && !plane.closed.contains id then plane.setStage id (.offered pairingId requestId)
    else
      { plane.setStage id .failed with pendingPairings := plane.pendingPairings.erase pairingId }
  | _ => plane

/-- `answer_pairing_heartbeat`: a heartbeat with a payload fails the connection. -/
def answerPairingHeartbeat (plane : PairingPlane) (id : ConnectionId) (frame : TcpFrame) : PairingPlane :=
  if frame.payload = [] then plane else plane.setStage id .failed

/-- The tag in a confirmation is the one the request calls for. -/
def verified (record : PendingPairingRecord) (payload : Bytes) : Bool :=
  (decodePairingConfirm payload).any fun tag =>
    verifyConfirmationTag hmac record.secrets record.transcript .client tag

def processPairingConfirm (plane : PairingPlane) (id : ConnectionId) (pairingId : ℕ)
    (requestId : UInt64) (frame : TcpFrame) (elapsed : ℕ) : PairingPlane :=
  if frame.envelope.type = .heartbeat then plane.answerPairingHeartbeat id frame
  else if frame.envelope.type ≠ .pairingConfirm ∨ frame.envelope.requestId ≠ requestId then
    plane.setStage id .failed
  else
    match plane.pendingPairings[pairingId]? with
    | none => plane.setStage id .failed
    | some record =>
      if verified hmac record frame.payload then
        let now := plane.now + elapsed
        let confirmed :=
          { record with clientConfirmed := true, expiresAt := now + kPairingApprovalWindow }
        { plane.setStage id .pending with
          now
          pendingPairings := plane.pendingPairings.insert pairingId confirmed }
      else
        { plane.setStage id .failed with pendingPairings := plane.pendingPairings.erase pairingId }

def processPairingWait (plane : PairingPlane) (id : ConnectionId) (frame : TcpFrame) : PairingPlane :=
  if plane.settled.contains id then plane.setStage id .failed
  else if frame.envelope.type ≠ .heartbeat then plane.setStage id .failed
  else plane.answerPairingHeartbeat id frame

/-- `process_frame` on a connection that pairs. -/
def processPairingFrame (plane : PairingPlane) (id : ConnectionId) (frame : TcpFrame) (elapsed : ℕ) :
    PairingPlane :=
  match plane.stages[id]? with
  | some (.offered pairingId requestId) =>
    plane.processPairingConfirm hmac id pairingId requestId frame elapsed
  | some .pending => plane.processPairingWait id frame
  | _ => plane

/-- `drop_pending_pairings_for`, at the end of `on_disconnected`. -/
def dropPendingPairingsFor (plane : PairingPlane) (id : ConnectionId) : PairingPlane :=
  { plane with
    closed := id :: plane.closed
    pendingPairings := plane.pendingPairings.filter fun _ record => record.connectionId != id }

def setPairingWindow (plane : PairingPlane) (isOpen : Bool) : PairingPlane :=
  if isOpen then { plane with pairingWindowOpen := true }
  else
    { plane.settle (plane.pendingPairings.toList.map fun entry => entry.2.connectionId) with
      pairingWindowOpen := false
      pendingPairings := ∅ }

/-- The scope of `approve_pairing`: a confirmed request is taken out. -/
def approvePairing (plane : PairingPlane) (pairingId : ℕ) : PairingPlane :=
  let swept := plane.takeExpired
  match swept.pendingPairings[pairingId]? with
  | none => swept
  | some record =>
    if record.clientConfirmed then
      { swept with
        approved := (pairingId, record) :: swept.approved
        pendingPairings := swept.pendingPairings.erase pairingId }
    else swept

/-- The key an approved record stands for, and whose it is. -/
def approvedKey (record : PendingPairingRecord) : Option (ClientId × Bytes) :=
  match clientIdFromUuid sha256 record.transcript.clientUuid,
      confirmationTag hmac record.secrets record.transcript .server with
  | some clientId, some _ => some (clientId, record.secrets.enrolledKey.toList)
  | _, _ => none

/-- The rest of `approve_pairing`: the key is installed, unless it cannot be saved. -/
def installApproved (plane : PairingPlane) (pairingId : ℕ) (saved : Bool) : PairingPlane :=
  match plane.approved.find? fun entry => entry.1 == pairingId with
  | none => plane
  | some (_, record) =>
    let taken :=
      { plane with approved := plane.approved.filter fun entry => entry.1 != pairingId }
    match approvedKey sha256 hmac record with
    | none => taken
    | some (clientId, key) =>
      match plane.keyStore.rotate clientId key with
      | .error _ => taken
      | .ok (keyStore, keyId) =>
        if saved then
          { taken.settle [record.connectionId] with
            keyStore
            installed := ⟨pairingId, clientId, keyId, key⟩ :: plane.installed }
        else taken

def rejectPairing (plane : PairingPlane) (pairingId : ℕ) : PairingPlane :=
  match plane.pendingPairings[pairingId]? with
  | none => plane
  | some record =>
    { plane.settle [record.connectionId] with
      pendingPairings := plane.pendingPairings.erase pairingId }

/-- One frame, call or passing of time. -/
def step (plane : PairingPlane) : PairingEvent → PairingPlane
  | .tick elapsed => { plane with now := plane.now + elapsed }
  | .hello id requestId source payload draw elapsed =>
    plane.processPairingHello sha256 hmac id requestId source payload draw elapsed
  | .offerSent id sent => plane.offerSent id sent
  | .frame id frame elapsed => plane.processPairingFrame hmac id frame elapsed
  | .disconnected id => plane.dropPendingPairingsFor id
  | .setPairingWindow isOpen => plane.setPairingWindow isOpen
  | .approvePairing pairingId => plane.approvePairing pairingId
  | .installApproved pairingId saved => plane.installApproved sha256 hmac pairingId saved
  | .rejectPairing pairingId => plane.rejectPairing pairingId
  | .expirePendingPairings => plane.takeExpired

def run (plane : PairingPlane) (events : List PairingEvent) : PairingPlane :=
  events.foldl (step sha256 hmac) plane

end Steps

/-! ## What a step can do -/

/-- A request leaves the table with this event, whatever its deadline. -/
def Ends (event : PairingEvent) (pairingId : ℕ) (record : PendingPairingRecord) : Prop :=
  event = .rejectPairing pairingId ∨ event = .disconnected record.connectionId ∨ event = .setPairingWindow false

/-- The parts of the state that only an approval changes. -/
structure SameKeys (plane next : PairingPlane) : Prop where
  approved : next.approved = plane.approved
  keyStore : next.keyStore = plane.keyStore
  installed : next.installed = plane.installed

lemma getElem?_takeExpired {plane : PairingPlane} {pairingId : ℕ} {record : PendingPairingRecord} :
    plane.takeExpired.pendingPairings[pairingId]? = some record ↔
      plane.pendingPairings[pairingId]? = some record ∧ plane.now < record.expiresAt := by
  have hf : plane.takeExpired.pendingPairings
      = plane.pendingPairings.filter fun _ record => plane.now < record.expiresAt := rfl
  rw [hf, Std.ExtTreeMap.getElem?_filter', Option.filter_eq_some_iff, decide_eq_true_eq]

lemma size_takeExpired (plane : PairingPlane) : plane.takeExpired.pendingPairings.size ≤ plane.pendingPairings.size :=
  Std.ExtTreeMap.size_filter_le_size

section Transitions

variable (sha256 : Bytes → Digest) (hmac : Bytes → Bytes → Digest)

/-- This event admits the request, under this id. -/
structure Admitted (plane : PairingPlane) (event : PairingEvent) (pairingId : ℕ)
    (record : PendingPairingRecord) : Prop where
  windowOpen : plane.pairingWindowOpen = true
  fresh : pairingId = plane.nextPairingId
  hello : ∃ payload draw elapsed,
    event = .hello record.connectionId record.requestId record.address payload draw elapsed ∧
      prepare sha256 hmac payload draw = some (record.transcript, record.secrets)

/-- This event confirms the waiting request: the tag of the client verifies. -/
structure Confirms (plane : PairingPlane) (event : PairingEvent) (pairingId : ℕ)
    (record : PendingPairingRecord) : Prop where
  pending : plane.pendingPairings[pairingId]? = some record
  frame : ∃ id requestId frame elapsed,
    event = .frame id frame elapsed ∧ plane.stages[id]? = some (.offered pairingId requestId) ∧
      frame.envelope.type = .pairingConfirm ∧ frame.envelope.requestId = requestId ∧
      verified hmac record frame.payload = true

/-- Everything that one event can do to the requests and to the keys. -/
inductive Transition (plane : PairingPlane) (event : PairingEvent) (next : PairingPlane) : Prop where
  | kept
      (pending : ∀ {pairingId : ℕ} {record : PendingPairingRecord},
        next.pendingPairings[pairingId]? = some record →
          plane.pendingPairings[pairingId]? = some record ∧ ¬ Ends event pairingId record)
      (size : next.pendingPairings.size ≤ plane.pendingPairings.size)
      (now : plane.now ≤ next.now)
      (nextPairingId : next.nextPairingId = plane.nextPairingId)
      (same : SameKeys plane next)
  | admitted {record : PendingPairingRecord}
      (admitted : Admitted sha256 hmac plane event plane.nextPairingId record)
      (unconfirmed : record.clientConfirmed = false)
      (space : plane.takeExpired.pendingPairings.size < kMaximumPendingPairings)
      (pending : next.pendingPairings = plane.takeExpired.pendingPairings.insert plane.nextPairingId record)
      (now : plane.now ≤ next.now)
      (nextPairingId : next.nextPairingId = plane.nextPairingId + 1)
      (same : SameKeys plane next)
  | confirmed {pairingId : ℕ} {record : PendingPairingRecord}
      (confirms : Confirms hmac plane event pairingId record)
      (pending : next.pendingPairings = plane.pendingPairings.insert pairingId
        { record with clientConfirmed := true, expiresAt := next.now + kPairingApprovalWindow })
      (now : plane.now ≤ next.now)
      (nextPairingId : next.nextPairingId = plane.nextPairingId)
      (same : SameKeys plane next)
  | approved {pairingId : ℕ} {record : PendingPairingRecord}
      (event : event = .approvePairing pairingId)
      (found : plane.pendingPairings[pairingId]? = some record)
      (unexpired : plane.now < record.expiresAt)
      (clientConfirmed : record.clientConfirmed = true)
      (pending : next.pendingPairings = plane.takeExpired.pendingPairings.erase pairingId)
      (approved : next.approved = (pairingId, record) :: plane.approved)
      (now : next.now = plane.now)
      (nextPairingId : next.nextPairingId = plane.nextPairingId)
      (keyStore : next.keyStore = plane.keyStore)
      (installed : next.installed = plane.installed)
  | given {pairingId : ℕ} {record : PendingPairingRecord}
      (event : ∃ saved, event = .installApproved pairingId saved)
      (found : (pairingId, record) ∈ plane.approved)
      (approved : next.approved = plane.approved.filter fun entry => entry.1 != pairingId)
      (pending : next.pendingPairings = plane.pendingPairings)
      (now : next.now = plane.now)
      (nextPairingId : next.nextPairingId = plane.nextPairingId)
      (keys : (next.keyStore = plane.keyStore ∧ next.installed = plane.installed) ∨
        ∃ installation : Installation, installation.pairingId = pairingId ∧
          approvedKey sha256 hmac record = some (installation.clientId, installation.key) ∧
          plane.keyStore.rotate installation.clientId installation.key = .ok (next.keyStore, installation.keyId) ∧
          next.installed = installation :: plane.installed)

variable {sha256 : Bytes → Digest} {hmac : Bytes → Bytes → Digest}
variable {plane next : PairingPlane} {event : PairingEvent}

lemma Transition.unchanged (hp : next.pendingPairings = plane.pendingPairings)
    (he : ∀ pairingId record, ¬ Ends event pairingId record) (hn : plane.now ≤ next.now)
    (hne : next.nextPairingId = plane.nextPairingId) (hs : SameKeys plane next) :
    Transition sha256 hmac plane event next := by
  refine .kept (fun hr => ⟨hp ▸ hr, he _ _⟩) ?_ hn hne hs
  rw [hp]

lemma Transition.erased {gone : ℕ} (hp : next.pendingPairings = plane.pendingPairings.erase gone)
    (he : ∀ pairingId record, pairingId ≠ gone → ¬ Ends event pairingId record)
    (hn : next.now = plane.now) (hne : next.nextPairingId = plane.nextPairingId)
    (hs : SameKeys plane next) : Transition sha256 hmac plane event next := by
  refine .kept ?_ ?_ hn.ge hne hs
  · intro pairingId record hr
    simp only [hp, Std.ExtTreeMap.getElem?_erase, Std.compare_eq_iff_eq] at hr
    by_cases hi : gone = pairingId
    · rw [if_pos hi] at hr
      cases hr
    · rw [if_neg hi] at hr
      exact ⟨hr, he pairingId record (Ne.symm hi)⟩
  · rw [hp]
    exact Std.ExtTreeMap.size_erase_le

lemma Transition.swept (hp : next.pendingPairings = plane.takeExpired.pendingPairings)
    (he : ∀ pairingId record, ¬ Ends event pairingId record) (hn : next.now = plane.now)
    (hne : next.nextPairingId = plane.nextPairingId) (hs : SameKeys plane next) :
    Transition sha256 hmac plane event next := by
  refine .kept ?_ ?_ hn.ge hne hs
  · intro pairingId record hr
    rw [hp, getElem?_takeExpired] at hr
    exact ⟨hr.1, he pairingId record⟩
  · rw [hp]
    exact plane.size_takeExpired

variable {id : ConnectionId} {requestId : UInt64} {elapsed : ℕ}

lemma transition_hello {source payload : Bytes} {draw : Option PairingDraw} :
    Transition sha256 hmac plane (.hello id requestId source payload draw elapsed)
      (plane.processPairingHello sha256 hmac id requestId source payload draw elapsed) := by
  have he : ∀ pairingId record,
      ¬ Ends (.hello id requestId source payload draw elapsed) pairingId record := by simp [Ends]
  unfold processPairingHello
  split
  · exact .unchanged rfl he le_rfl rfl ⟨rfl, rfl, rfl⟩
  · split
    · exact .unchanged rfl he le_rfl rfl ⟨rfl, rfl, rfl⟩
    next transcript secrets hp =>
      dsimp only
      split
      · exact .swept rfl he rfl rfl ⟨rfl, rfl, rfl⟩
      next ho =>
        split
        · exact .swept rfl he rfl rfl ⟨rfl, rfl, rfl⟩
        next hs =>
          have hw : plane.takeExpired.pairingWindowOpen := by simpa using ho
          refine .admitted ⟨hw, rfl, payload, draw, elapsed, rfl, hp⟩ rfl
            (Nat.lt_of_not_le hs) rfl ?_ rfl ⟨rfl, rfl, rfl⟩
          exact Int.le_add_of_nonneg_right (Int.natCast_nonneg elapsed)

lemma transition_offerSent {sent : Bool} :
    Transition sha256 hmac plane (.offerSent id sent) (plane.offerSent id sent) := by
  have he : ∀ pairingId record, ¬ Ends (.offerSent id sent) pairingId record := by simp [Ends]
  unfold offerSent
  split
  · split
    · exact .unchanged rfl he le_rfl rfl ⟨rfl, rfl, rfl⟩
    · exact .erased rfl (fun _ _ _ => he _ _) rfl rfl ⟨rfl, rfl, rfl⟩
  · exact .unchanged rfl he le_rfl rfl ⟨rfl, rfl, rfl⟩

variable {frame : TcpFrame}

lemma transition_heartbeat (he : ∀ pairingId record, ¬ Ends event pairingId record) :
    Transition sha256 hmac plane event (plane.answerPairingHeartbeat id frame) := by
  unfold answerPairingHeartbeat
  split
  · exact .unchanged rfl he le_rfl rfl ⟨rfl, rfl, rfl⟩
  · exact .unchanged rfl he le_rfl rfl ⟨rfl, rfl, rfl⟩

lemma transition_wait (he : ∀ pairingId record, ¬ Ends event pairingId record) :
    Transition sha256 hmac plane event (plane.processPairingWait id frame) := by
  unfold processPairingWait
  split
  · exact .unchanged rfl he le_rfl rfl ⟨rfl, rfl, rfl⟩
  · split
    · exact .unchanged rfl he le_rfl rfl ⟨rfl, rfl, rfl⟩
    · exact transition_heartbeat he

variable {pairingId : ℕ}

lemma transition_confirm (hs : plane.stages[id]? = some (.offered pairingId requestId)) :
    Transition sha256 hmac plane (.frame id frame elapsed)
      (plane.processPairingConfirm hmac id pairingId requestId frame elapsed) := by
  have he : ∀ pairingId record, ¬ Ends (.frame id frame elapsed) pairingId record := by
    simp [Ends]
  unfold processPairingConfirm
  split
  · exact transition_heartbeat he
  · split
    · exact .unchanged rfl he le_rfl rfl ⟨rfl, rfl, rfl⟩
    next hf =>
      obtain ⟨ht, hr⟩ := not_or.1 hf
      split
      · exact .unchanged rfl he le_rfl rfl ⟨rfl, rfl, rfl⟩
      next record hre =>
        split
        next hv =>
          refine .confirmed ⟨hre, id, requestId, frame, elapsed, rfl, hs, not_not.1 ht,
            not_not.1 hr, hv⟩ rfl ?_ rfl ⟨rfl, rfl, rfl⟩
          exact Int.le_add_of_nonneg_right (Int.natCast_nonneg elapsed)
        · exact .erased rfl (fun _ _ _ => he _ _) rfl rfl ⟨rfl, rfl, rfl⟩

lemma transition_frame : Transition sha256 hmac plane (.frame id frame elapsed)
      (plane.processPairingFrame hmac id frame elapsed) := by
  have he : ∀ pairingId record, ¬ Ends (.frame id frame elapsed) pairingId record := by
    simp [Ends]
  unfold processPairingFrame
  split
  next hs => exact transition_confirm hs
  · exact transition_wait he
  · exact .unchanged rfl he le_rfl rfl ⟨rfl, rfl, rfl⟩

lemma transition_disconnected : Transition sha256 hmac plane (.disconnected id) (plane.dropPendingPairingsFor id) := by
  refine .kept ?_ Std.ExtTreeMap.size_filter_le_size le_rfl rfl ⟨rfl, rfl, rfl⟩
  intro pairingId record hr
  have hf : (plane.dropPendingPairingsFor id).pendingPairings
      = plane.pendingPairings.filter fun _ record => record.connectionId != id := rfl
  rw [hf, Std.ExtTreeMap.getElem?_filter', Option.filter_eq_some_iff, bne_iff_ne] at hr
  obtain ⟨ho, hot⟩ := hr
  refine ⟨ho, ?_⟩
  simp only [Ends, reduceCtorEq, false_or, or_false, PairingEvent.disconnected.injEq]
  exact hot.symm

lemma transition_window {isOpen : Bool} :
    Transition sha256 hmac plane (.setPairingWindow isOpen) (plane.setPairingWindow isOpen) := by
  cases isOpen with
  | true => exact .unchanged rfl (by simp [Ends]) le_rfl rfl ⟨rfl, rfl, rfl⟩
  | false =>
    refine .kept ?_ (Nat.zero_le _) le_rfl rfl ⟨rfl, rfl, rfl⟩
    intro pairingId record hr
    exact absurd hr (by simp [setPairingWindow])

lemma transition_approve :
    Transition sha256 hmac plane (.approvePairing pairingId) (plane.approvePairing pairingId) := by
  have he : ∀ gone record, ¬ Ends (.approvePairing pairingId) gone record := by simp [Ends]
  unfold approvePairing
  dsimp only
  split
  · exact .swept rfl he rfl rfl ⟨rfl, rfl, rfl⟩
  next record hr =>
    split
    next hc =>
      obtain ⟨hf, hl⟩ := getElem?_takeExpired.1 hr
      exact .approved rfl hf hl hc rfl rfl rfl rfl rfl rfl
    · exact .swept rfl he rfl rfl ⟨rfl, rfl, rfl⟩

lemma transition_install {saved : Bool} : Transition sha256 hmac plane (.installApproved pairingId saved)
      (plane.installApproved sha256 hmac pairingId saved) := by
  unfold installApproved
  split
  · exact .unchanged rfl (by simp [Ends]) le_rfl rfl ⟨rfl, rfl, rfl⟩
  next found record hf =>
    have hm := List.mem_of_find?_eq_some hf
    obtain rfl : found = pairingId := by simpa using List.find?_some hf
    dsimp only
    split
    · exact .given ⟨saved, rfl⟩ hm rfl rfl rfl rfl (.inl ⟨rfl, rfl⟩)
    next clientId key hk =>
      split
      · exact .given ⟨saved, rfl⟩ hm rfl rfl rfl rfl (.inl ⟨rfl, rfl⟩)
      next keyStore keyId hr =>
        split
        · exact .given ⟨saved, rfl⟩ hm rfl rfl rfl rfl
            (.inr ⟨⟨found, clientId, keyId, key⟩, rfl, hk, hr, rfl⟩)
        · exact .given ⟨saved, rfl⟩ hm rfl rfl rfl rfl (.inl ⟨rfl, rfl⟩)

lemma transition_reject : Transition sha256 hmac plane (.rejectPairing pairingId) (plane.rejectPairing pairingId) := by
  have he : ∀ other record, other ≠ pairingId → ¬ Ends (.rejectPairing pairingId) other record := by
    intro other record ho
    simpa [Ends] using ho.symm
  unfold rejectPairing
  split
  next hn =>
    refine .kept ?_ le_rfl le_rfl rfl ⟨rfl, rfl, rfl⟩
    intro other record hr
    refine ⟨hr, he other record ?_⟩
    rintro rfl
    rw [hn] at hr
    cases hr
  · exact .erased rfl he rfl rfl ⟨rfl, rfl, rfl⟩

/-- Every event is one of the transitions. -/
lemma transition_step (plane : PairingPlane) (event : PairingEvent) :
    Transition sha256 hmac plane event (plane.step sha256 hmac event) := by
  cases event with
  | tick elapsed =>
    refine .unchanged rfl (by simp [Ends]) ?_ rfl ⟨rfl, rfl, rfl⟩
    exact Int.le_add_of_nonneg_right (Int.natCast_nonneg elapsed)
  | hello id requestId source payload draw elapsed => exact transition_hello
  | offerSent id sent => exact transition_offerSent
  | frame id frame elapsed => exact transition_frame
  | disconnected id => exact transition_disconnected
  | setPairingWindow isOpen => exact transition_window
  | approvePairing pairingId => exact transition_approve
  | installApproved pairingId saved => exact transition_install
  | rejectPairing pairingId => exact transition_reject
  | expirePendingPairings => exact .swept rfl (by simp [Ends]) rfl rfl ⟨rfl, rfl, rfl⟩

lemma now_le_step (plane : PairingPlane) (event : PairingEvent) : plane.now ≤ (plane.step sha256 hmac event).now := by
  cases @transition_step sha256 hmac plane event with
  | kept _ _ hn _ _ | admitted _ _ _ _ hn _ _ | confirmed _ _ hn _ _ => exact hn
  | approved _ _ _ _ _ _ hn _ _ _ | given _ _ _ _ hn _ _ => exact hn.ge

lemma nextPairingId_le_step (plane : PairingPlane) (event : PairingEvent) :
    plane.nextPairingId ≤ (plane.step sha256 hmac event).nextPairingId := by
  cases @transition_step sha256 hmac plane event with
  | kept _ _ _ hn _ => exact hn.ge
  | admitted _ _ _ _ _ hn _ => exact hn ▸ Nat.le_succ _
  | confirmed _ _ _ hn _ | approved _ _ _ _ _ _ _ hn _ _ | given _ _ _ _ _ hn _ => exact hn.ge

variable {record : PendingPairingRecord}

/-- Where a pending pairing comes from. -/
lemma pending_step (hr : (plane.step sha256 hmac event).pendingPairings[pairingId]? = some record) :
    (plane.pendingPairings[pairingId]? = some record ∧ ¬ Ends event pairingId record) ∨
      (Admitted sha256 hmac plane event pairingId record ∧ record.clientConfirmed = false ∧
        (plane.step sha256 hmac event).nextPairingId = plane.nextPairingId + 1) ∨
      ∃ old, Confirms hmac plane event pairingId old ∧ record = { old with
          clientConfirmed := true
          expiresAt := (plane.step sha256 hmac event).now + kPairingApprovalWindow } := by
  cases @transition_step sha256 hmac plane event with
  | kept hp _ _ _ _ => exact .inl (hp hr)
  | admitted ha hu _ hp _ hn _ =>
    simp only [hp, Std.ExtTreeMap.getElem?_insert, Std.compare_eq_iff_eq] at hr
    split at hr
    next hi =>
      cases hr
      exact .inr (.inl ⟨hi ▸ ha, hu, hn⟩)
    · obtain ⟨payload, draw, elapsed, he, _⟩ := ha.hello
      exact .inl ⟨(getElem?_takeExpired.1 hr).1, by simp [Ends, he]⟩
  | confirmed hc hp _ _ _ =>
    simp only [hp, Std.ExtTreeMap.getElem?_insert, Std.compare_eq_iff_eq] at hr
    split at hr
    next hi =>
      cases hr
      exact .inr (.inr ⟨_, hi ▸ hc, rfl⟩)
    · obtain ⟨id, requestId, frame, elapsed, he, _⟩ := hc.frame
      exact .inl ⟨hr, by simp [Ends, he]⟩
  | approved he _ _ _ hp _ _ _ _ _ =>
    simp only [hp, Std.ExtTreeMap.getElem?_erase, Std.compare_eq_iff_eq] at hr
    split at hr
    · cases hr
    · exact .inl ⟨(getElem?_takeExpired.1 hr).1, by simp [Ends, he]⟩
  | given he _ _ hp _ _ _ =>
    obtain ⟨saved, rfl⟩ := he
    exact .inl ⟨hp ▸ hr, by simp [Ends]⟩

/-- What every state satisfies: the table is bounded, ids are not used again, and a request that has
been answered is not in the table. -/
structure Orderly (plane : PairingPlane) : Prop where
  bounded : plane.pendingPairings.size ≤ kMaximumPendingPairings
  fresh : ∀ {pairingId : ℕ} {record : PendingPairingRecord},
    plane.pendingPairings[pairingId]? = some record → pairingId < plane.nextPairingId
  answered : ∀ pairingId ∈ plane.installed.map Installation.pairingId ++ plane.approved.map Prod.fst,
    plane.pendingPairings[pairingId]? = none ∧ pairingId < plane.nextPairingId
  nodup : (plane.installed.map Installation.pairingId ++ plane.approved.map Prod.fst).Nodup

/-- A pairing that is over stays over. -/
lemma pending_none_step (hn : plane.pendingPairings[pairingId]? = none) (hi : pairingId < plane.nextPairingId) :
    (plane.step sha256 hmac event).pendingPairings[pairingId]? = none := by
  by_contra hs
  obtain ⟨record, hr⟩ := Option.ne_none_iff_exists'.1 hs
  rcases pending_step hr with ⟨ho, _⟩ | ⟨ha, _⟩ | ⟨old, hc, _⟩
  · rw [hn] at ho
    cases ho
  · exact absurd ha.fresh hi.ne
  · have ho := hc.pending
    rw [hn] at ho
    cases ho

lemma Orderly.fresh_step (ho : Orderly plane)
    (hr : (plane.step sha256 hmac event).pendingPairings[pairingId]? = some record) :
    pairingId < (plane.step sha256 hmac event).nextPairingId := by
  have hl := @nextPairingId_le_step sha256 hmac plane event
  rcases pending_step hr with ⟨hol, _⟩ | ⟨ha, _, hn⟩ | ⟨old, hc, _⟩
  · exact (ho.fresh hol).trans_le hl
  · rw [hn, ha.fresh]
    exact Nat.lt_succ_self _
  · exact (ho.fresh hc.pending).trans_le hl

lemma Orderly.bounded_step (ho : Orderly plane) :
    (plane.step sha256 hmac event).pendingPairings.size ≤ kMaximumPendingPairings := by
  have hs := plane.size_takeExpired.trans ho.bounded
  cases @transition_step sha256 hmac plane event with
  | kept _ hsi _ _ _ => exact hsi.trans ho.bounded
  | admitted _ _ hsp hp _ _ _ =>
    rw [hp]
    exact Std.ExtTreeMap.size_insert_le.trans hsp
  | @confirmed pairingId record hc hp _ _ _ =>
    -- The request is in the table already.
    have hco : plane.pendingPairings.contains pairingId := by
      rw [Std.ExtTreeMap.contains_eq_isSome_getElem?, hc.pending]
      rfl
    rw [hp, Std.ExtTreeMap.size_insert, if_pos hco]
    exact ho.bounded
  | approved _ _ _ _ hp _ _ _ _ _ =>
    rw [hp]
    exact Std.ExtTreeMap.size_erase_le.trans hs
  | given _ _ _ hp _ _ _ => exact hp ▸ ho.bounded

lemma answered_step (hansw : pairingId ∈ (plane.step sha256 hmac event).installed.map Installation.pairingId
      ++ (plane.step sha256 hmac event).approved.map Prod.fst) :
    pairingId ∈ plane.installed.map Installation.pairingId ++ plane.approved.map Prod.fst ∨
      ((plane.step sha256 hmac event).pendingPairings[pairingId]? = none ∧
        ∃ record, plane.pendingPairings[pairingId]? = some record) := by
  cases @transition_step sha256 hmac plane event with
  | kept _ _ _ _ hsame => exact .inl (by rwa [hsame.installed, hsame.approved] at hansw)
  | admitted _ _ _ _ _ _ hsame
  | confirmed _ _ _ _ hsame => exact .inl (by rwa [hsame.installed, hsame.approved] at hansw)
  | approved _ hfound _ _ hpend happr _ _ _ hinst =>
    rw [hinst, happr, List.map_cons, List.mem_append, List.mem_cons] at hansw
    rcases hansw with hin | rfl | hin
    · exact .inl (List.mem_append_left _ hin)
    · refine .inr ⟨?_, _, hfound⟩
      rw [hpend, Std.ExtTreeMap.getElem?_erase_self]
    · exact .inl (List.mem_append_right _ hin)
  | given _ hfound happr _ _ _ hkeys =>
    have hkept : ∀ entry ∈ (plane.step sha256 hmac event).approved, entry ∈ plane.approved := by
      intro entry hentry
      rw [happr] at hentry
      exact (List.mem_filter.1 hentry).1
    rw [List.mem_append, List.mem_map, List.mem_map] at hansw ⊢
    left
    rcases hansw with ⟨installation, hin, rfl⟩ | ⟨entry, hentry, rfl⟩
    · rcases hkeys with ⟨_, hinst⟩ | ⟨installed, hid, _, _, hinst⟩
      · exact .inl ⟨installation, hinst ▸ hin, rfl⟩
      · rw [hinst, List.mem_cons] at hin
        rcases hin with rfl | hin
        · exact .inr ⟨_, hfound, hid.symm⟩
        · exact .inl ⟨installation, hin, rfl⟩
    · exact .inr ⟨entry, hkept entry hentry, rfl⟩

lemma Orderly.answered_none_step (ho : Orderly plane)
    (ha : pairingId ∈ (plane.step sha256 hmac event).installed.map Installation.pairingId
      ++ (plane.step sha256 hmac event).approved.map Prod.fst) :
    (plane.step sha256 hmac event).pendingPairings[pairingId]? = none ∧
      pairingId < (plane.step sha256 hmac event).nextPairingId := by
  have hl := @nextPairingId_le_step sha256 hmac plane event
  rcases answered_step ha with hb | ⟨hn, record, hr⟩
  · obtain ⟨hn, hi⟩ := ho.answered pairingId hb
    exact ⟨pending_none_step hn hi, hi.trans_le hl⟩
  · exact ⟨hn, (ho.fresh hr).trans_le hl⟩

lemma Orderly.nodup_step (horde : Orderly plane) :
    ((plane.step sha256 hmac event).installed.map Installation.pairingId
      ++ (plane.step sha256 hmac event).approved.map Prod.fst).Nodup := by
  cases @transition_step sha256 hmac plane event with
  | kept _ _ _ _ hsame
  | admitted _ _ _ _ _ _ hsame | confirmed _ _ _ _ hsame => rw [hsame.installed, hsame.approved]; exact horde.nodup
  | @approved pairingId record _ hfound _ _ _ happr _ _ _ hinst =>
    rw [hinst, happr, List.map_cons]
    refine (List.perm_middle.nodup_iff).2 (List.nodup_cons.2 ⟨?_, horde.nodup⟩)
    intro hansw
    rw [(horde.answered _ hansw).1] at hfound
    cases hfound
  | @given pairingId record _ hfound happr _ _ _ hkeys =>
    have hsub : (plane.step sha256 hmac event).approved.Sublist plane.approved := by
      rw [happr]
      exact List.filter_sublist
    have hsub := hsub.map Prod.fst
    rcases hkeys with ⟨_, hinst⟩ | ⟨installed, hid, _, _, hinst⟩
    · rw [hinst]
      exact horde.nodup.sublist (hsub.append_left _)
    · rw [hinst, List.map_cons, List.cons_append, List.nodup_cons]
      refine ⟨?_, horde.nodup.sublist (hsub.append_left _)⟩
      rw [List.mem_append, not_or]
      constructor
      · intro hin
        have hdisj := (List.nodup_append.1 horde.nodup).2.2
        exact hdisj _ hin _ (List.mem_map_of_mem hfound) hid
      · rw [happr, List.mem_map]
        rintro ⟨entry, hentry, hentr⟩
        have hne := (List.mem_filter.1 hentry).2
        rw [bne_iff_ne, hentr] at hne
        exact hne hid

lemma Orderly.step (ho : Orderly plane) : Orderly (plane.step sha256 hmac event) where
  bounded := ho.bounded_step
  fresh := ho.fresh_step
  answered _ := ho.answered_none_step
  nodup := ho.nodup_step

end Transitions

/-! ## Runs -/

section Runs

variable (sha256 : Bytes → Digest) (hmac : Bytes → Bytes → Digest)

/-- A server that starts, with the keys it has loaded. -/
def initial (now : ℤ) (keyStore : KeyStore) : PairingPlane := { now, keyStore }

/-- The request was admitted while the window was open, and since then it has neither been rejected nor
abandoned nor cleared; whenever it was in the table its deadline was still to come; and if it counts as
confirmed, the client's tag for it has verified. -/
structure Granted (start : PairingPlane) (events : List PairingEvent) (pairingId : ℕ)
    (record : PendingPairingRecord) : Prop where
  admitted : ∃ before event after, events = before ++ event :: after ∧
    Admitted sha256 hmac (start.run sha256 hmac before) event pairingId record ∧
    ∀ later ∈ after, ¬ Ends later pairingId record
  unexpired : ∀ earlier old, earlier <+: events →
    (start.run sha256 hmac earlier).pendingPairings[pairingId]? = some old →
      (start.run sha256 hmac earlier).now < old.expiresAt
  confirmed : record.clientConfirmed = true → ∃ before event after old, events = before ++ event :: after ∧
      Confirms hmac (start.run sha256 hmac before) event pairingId old ∧
      old.transcript = record.transcript ∧ old.secrets = record.secrets

/-- A key comes from an approval.  At most sixteen requests wait; a key that pairing installs belongs to
a confirmed request that was granted when the operator approved it, and it is the key derived from the
transcript of this request; no request installs two keys; and nothing else in a run touches the key
store. -/
structure OnApproval (start : PairingPlane) (events : List PairingEvent) : Prop where
  bounded : (start.run sha256 hmac events).pendingPairings.size ≤ kMaximumPendingPairings
  approved : ∀ installation ∈ (start.run sha256 hmac events).installed, ∃ before after record,
    events = before ++ .approvePairing installation.pairingId :: after ∧
      (start.run sha256 hmac before).pendingPairings[installation.pairingId]? = some record ∧
      record.clientConfirmed = true ∧
      Granted sha256 hmac start before installation.pairingId record ∧
      clientIdFromUuid sha256 record.transcript.clientUuid = some installation.clientId ∧
      (∃ shared, derivePairingSecrets sha256 hmac shared record.transcript = some record.secrets) ∧
      installation.key = record.secrets.enrolledKey.toList
  once : ((start.run sha256 hmac events).installed.map Installation.pairingId).Nodup
  keys : ∀ before event after, events = before ++ event :: after →
    (start.run sha256 hmac (before ++ [event])).keyStore = (start.run sha256 hmac before).keyStore ∨
      ∃ installation ∈ (start.run sha256 hmac events).installed,
        (start.run sha256 hmac before).keyStore.rotate installation.clientId installation.key
          = .ok ((start.run sha256 hmac (before ++ [event])).keyStore, installation.keyId)

/-- No request is confirmed after its deadline. -/
def Timely (start : PairingPlane) (events : List PairingEvent) : Prop :=
  ∀ before event after pairingId record, events = before ++ event :: after →
    Confirms hmac (start.run sha256 hmac before) event pairingId record →
      (start.run sha256 hmac before).now < record.expiresAt

variable {sha256 : Bytes → Digest} {hmac : Bytes → Bytes → Digest}
variable {now : ℤ} {keyStore : KeyStore} {start : PairingPlane}

lemma run_concat (start : PairingPlane) (events : List PairingEvent) (event : PairingEvent) :
    start.run sha256 hmac (events ++ [event]) = (start.run sha256 hmac events).step sha256 hmac event := by
  rw [run, List.foldl_append]
  rfl

lemma orderly_initial (now : ℤ) (keyStore : KeyStore) : Orderly (initial now keyStore) where
  bounded := by simp [initial]
  fresh := by simp [initial]
  answered := by simp [initial]
  nodup := by simp [initial]

/-- Along every run the plane is orderly. -/
lemma orderly_run (events : List PairingEvent) : Orderly ((initial now keyStore).run sha256 hmac events) := by
  induction events using List.reverseRecOn with
  | nil => exact orderly_initial now keyStore
  | append_singleton events event ih =>
    rw [run_concat]
    exact ih.step

variable {earlier events : List PairingEvent}

lemma nextPairingId_mono (h : earlier <+: events) :
    (start.run sha256 hmac earlier).nextPairingId ≤ (start.run sha256 hmac events).nextPairingId := by
  induction events using List.reverseRecOn with
  | nil => rw [List.prefix_nil.1 h]
  | append_singleton events event ih =>
    rcases List.prefix_concat_iff.1 h with rfl | he
    · exact le_rfl
    · rw [run_concat]
      exact (ih he).trans (nextPairingId_le_step _ _)

lemma Timely.init {event : PairingEvent}
    (h : Timely sha256 hmac start (events ++ [event])) : Timely sha256 hmac start events := by
  rintro before earlier after pairingId record rfl hc
  refine h before earlier (after ++ [event]) pairingId record ?_ hc
  rw [List.append_assoc, List.cons_append]

variable {pairingId : ℕ} {record : PendingPairingRecord}

lemma Granted.concat {event : PairingEvent}
    {old : PendingPairingRecord} (hgran : Granted sha256 hmac start events pairingId old)
    (hends : ¬ Ends event pairingId record)
    (hsame : old.connectionId = record.connectionId ∧ old.requestId = record.requestId ∧
      old.address = record.address ∧ old.transcript = record.transcript ∧ old.secrets = record.secrets)
    (hreco : (start.run sha256 hmac (events ++ [event])).pendingPairings[pairingId]? = some record)
    (hlive : (start.run sha256 hmac (events ++ [event])).now < record.expiresAt)
    (hconf : record.clientConfirmed → old.clientConfirmed ∨
      Confirms hmac (start.run sha256 hmac events) event pairingId old) :
    Granted sha256 hmac start (events ++ [event]) pairingId record := by
  obtain ⟨hconn, hrequ, haddr, htran, hsecr⟩ := hsame
  constructor
  · obtain ⟨before, hello, after, rfl, hadmi, hafter⟩ := hgran.admitted
    refine ⟨before, hello, after ++ [event], by simp, ⟨hadmi.windowOpen, hadmi.fresh, ?_⟩, ?_⟩
    · rw [← hconn, ← hrequ, ← haddr, ← htran, ← hsecr]
      exact hadmi.hello
    · intro later hlater
      rcases List.mem_append.1 hlater with hlater | hlater
      · unfold Ends
        rw [← hconn]
        exact hafter later hlater
      · exact List.mem_singleton.1 hlater ▸ hends
  · intro earlier found hearl hfound
    rcases List.prefix_concat_iff.1 hearl with rfl | hearl
    · rw [hreco] at hfound
      cases hfound
      exact hlive
    · exact hgran.unexpired earlier found hearl hfound
  · intro hclie
    rcases hconf hclie with hclie | hconfi
    · obtain ⟨before, confirm, after, first, rfl, hconfi, hfirst, hfirst'⟩ :=
        hgran.confirmed hclie
      exact ⟨before, confirm, after ++ [event], first, by simp, hconfi, hfirst.trans htran,
        hfirst'.trans hsecr⟩
    · exact ⟨events, event, [], old, rfl, hconfi, htran, hsecr⟩

lemma granted_of_pending (htime : Timely sha256 hmac (initial now keyStore) events)
    (hreco : ((initial now keyStore).run sha256 hmac events).pendingPairings[pairingId]? = some record)
    (hlive : ((initial now keyStore).run sha256 hmac events).now < record.expiresAt) :
    Granted sha256 hmac (initial now keyStore) events pairingId record := by
  induction events using List.reverseRecOn generalizing record with
  | nil => simp [run, initial] at hreco
  | append_singleton events event ih =>
    have hstep := hreco
    rw [run_concat] at hstep
    rcases pending_step hstep with ⟨hold, hends⟩ | ⟨hadmi, hunco, _⟩ | ⟨old, hconf, rfl⟩
    · have hbefo := @now_le_step sha256 hmac ((initial now keyStore).run sha256 hmac events) event
      rw [run_concat] at hlive
      have hgran := ih htime.init hold (hbefo.trans_lt hlive)
      exact hgran.concat hends ⟨rfl, rfl, rfl, rfl, rfl⟩ hreco (by rwa [run_concat]) .inl
    · refine ⟨⟨events, event, [], rfl, hadmi, by simp⟩, ?_, by simp [hunco]⟩
      intro earlier old hearl hold
      rcases List.prefix_concat_iff.1 hearl with rfl | hearl
      · rw [hreco] at hold
        cases hold
        exact hlive
      · -- The id was not in use before.
        have hid := (orderly_run earlier).fresh hold
        exact absurd hadmi.fresh (hid.trans_le (nextPairingId_mono hearl)).ne
    · have hinti := htime events event [] pairingId old rfl hconf
      have hgran := ih htime.init hconf.pending hinti
      obtain ⟨id, requestId, frame, elapsed, hevent, _⟩ := hconf.frame
      exact hgran.concat (by simp [Ends, hevent]) ⟨rfl, rfl, rfl, rfl, rfl⟩ hreco hlive
        fun _ => .inr hconf

/-- What is approved was pending at its approval. -/
lemma approved_run (hentry : (pairingId, record) ∈ (start.run sha256 hmac events).approved)
    (hstart : start.approved = []) : ∃ before after, events = before ++ .approvePairing pairingId :: after ∧
      (start.run sha256 hmac before).pendingPairings[pairingId]? = some record ∧
      (start.run sha256 hmac before).now < record.expiresAt ∧ record.clientConfirmed := by
  induction events using List.reverseRecOn with
  | nil =>
    rw [run, List.foldl_nil, hstart] at hentry
    cases hentry
  | append_singleton events event ih =>
    have hearl : (pairingId, record) ∈ (start.run sha256 hmac events).approved →
        ∃ before after, events ++ [event] = before ++ .approvePairing pairingId :: after ∧
          (start.run sha256 hmac before).pendingPairings[pairingId]? = some record ∧
          (start.run sha256 hmac before).now < record.expiresAt ∧ record.clientConfirmed := by
      intro hold
      obtain ⟨before, after, rfl, hfound⟩ := ih hold
      exact ⟨before, after ++ [event], by simp, hfound⟩
    rw [run_concat] at hentry
    cases @transition_step sha256 hmac (start.run sha256 hmac events) event with
    | kept _ _ _ _ hsame
    | admitted _ _ _ _ _ _ hsame | confirmed _ _ _ _ hsame => exact hearl (hsame.approved ▸ hentry)
    | approved hevent hfound hlive hconf _ happr _ _ _ _ =>
      rw [happr, List.mem_cons] at hentry
      rcases hentry with hentry | hentry
      · cases hentry
        exact ⟨events, [], by rw [hevent], hfound, hlive, hconf⟩
      · exact hearl hentry
    | given _ _ happr _ _ _ _ =>
      rw [happr] at hentry
      exact hearl (List.mem_filter.1 hentry).1

/-- An event installs at most one key, of an approved pairing. -/
lemma installed_step (plane : PairingPlane) (event : PairingEvent) :
    ((plane.step sha256 hmac event).keyStore = plane.keyStore ∧
      (plane.step sha256 hmac event).installed = plane.installed) ∨
    ∃ (installation : Installation) (record : PendingPairingRecord), (installation.pairingId, record) ∈ plane.approved ∧
      approvedKey sha256 hmac record = some (installation.clientId, installation.key) ∧
      plane.keyStore.rotate installation.clientId installation.key
        = .ok ((plane.step sha256 hmac event).keyStore, installation.keyId) ∧
      (plane.step sha256 hmac event).installed = installation :: plane.installed := by
  cases @transition_step sha256 hmac plane event with
  | kept _ _ _ _ hs
  | admitted _ _ _ _ _ _ hs | confirmed _ _ _ _ hs => exact .inl ⟨hs.keyStore, hs.installed⟩
  | approved _ _ _ _ _ _ _ _ hk hi => exact .inl ⟨hk, hi⟩
  | given _ hf _ _ _ _ hke =>
    rcases hke with hke | ⟨installation, rfl, hkey, hr, hi⟩
    · exact .inl hke
    · exact .inr ⟨installation, _, hf, hkey, hr, hi⟩

variable {installation : Installation}

lemma installed_mono (h : earlier <+: events) (hi : installation ∈ (start.run sha256 hmac earlier).installed) :
    installation ∈ (start.run sha256 hmac events).installed := by
  induction events using List.reverseRecOn with
  | nil => rwa [List.prefix_nil.1 h] at hi
  | append_singleton events event ih =>
    rcases List.prefix_concat_iff.1 h with rfl | he
    · exact hi
    · rw [run_concat]
      rcases @installed_step sha256 hmac (start.run sha256 hmac events) event
        with ⟨_, hs⟩ | ⟨_, _, _, _, _, hm⟩
      · rw [hs]
        exact ih he
      · rw [hm]
        exact List.mem_cons_of_mem _ (ih he)

/-- What is installed was approved before. -/
lemma installed_run (hinst : installation ∈ (start.run sha256 hmac events).installed)
    (hstart : start.installed = []) : ∃ earlier record, earlier <+: events ∧
      (installation.pairingId, record) ∈ (start.run sha256 hmac earlier).approved ∧
      approvedKey sha256 hmac record = some (installation.clientId, installation.key) := by
  induction events using List.reverseRecOn with
  | nil =>
    rw [run, List.foldl_nil, hstart] at hinst
    cases hinst
  | append_singleton events event ih =>
    have hearl (hold : installation ∈ (start.run sha256 hmac events).installed) :
        ∃ earlier record, earlier <+: events ++ [event] ∧
          (installation.pairingId, record) ∈ (start.run sha256 hmac earlier).approved ∧
          approvedKey sha256 hmac record = some (installation.clientId, installation.key) := by
      obtain ⟨earlier, record, hleq, hreco⟩ := ih hold
      exact ⟨earlier, record, hleq.trans (List.prefix_append _ _), hreco⟩
    rw [run_concat] at hinst
    rcases @installed_step sha256 hmac (start.run sha256 hmac events) event
      with ⟨_, hsame⟩ | ⟨latest, record, hfound, hkey, _, hmore⟩
    · exact hearl (hsame ▸ hinst)
    · rw [hmore, List.mem_cons] at hinst
      rcases hinst with rfl | hold
      · exact ⟨events, record, List.prefix_append _ _, hfound, hkey⟩
      · exact hearl hold

lemma approvedKey_eq_some {clientId : ClientId} {key : Bytes}
    (h : approvedKey sha256 hmac record = some (clientId, key)) :
    clientIdFromUuid sha256 record.transcript.clientUuid = some clientId ∧ key = record.secrets.enrolledKey.toList := by
  unfold approvedKey at h
  split at h
  next hc _ =>
    cases h
    exact ⟨hc, rfl⟩
  · cases h

lemma prepare_derives {payload : Bytes} {draw : Option PairingDraw} {transcript : PairingTranscript}
    {secrets : PairingSecrets} (h : prepare sha256 hmac payload draw = some (transcript, secrets)) :
    ∃ shared, derivePairingSecrets sha256 hmac shared transcript = some secrets := by
  simp only [prepare, Option.bind_eq_bind, Option.bind_eq_some_iff, Option.pure_def,
    Option.some.injEq, Prod.mk.injEq] at h
  obtain ⟨_, _, _, _, _, _, _, _, shared, _, _, hd, _, _, rfl, rfl⟩ := h
  exact ⟨shared, hd⟩

/-- **Pairing installs a key only on approval.**  In every run of a server in which no request is
confirmed after its deadline. -/
theorem pairing_on_approval (now : ℤ) (keyStore : KeyStore) (events : List PairingEvent)
    (htimely : Timely sha256 hmac (initial now keyStore) events) :
    OnApproval sha256 hmac (initial now keyStore) events where
  bounded := (orderly_run events).bounded
  approved := by
    intro installation hinstalled
    obtain ⟨earlier, record, ⟨more, rfl⟩, happroved, hkey⟩ := installed_run hinstalled rfl
    obtain ⟨before, after, rfl, hfound, hlive, hconfirmed⟩ := approved_run happroved rfl
    have hgranted : Granted sha256 hmac (initial now keyStore) before installation.pairingId record := by
      refine granted_of_pending ?_ hfound hlive
      rintro first event rest pairingId old rfl hconfirms
      exact htimely first event (rest ++ .approvePairing installation.pairingId :: after ++ more)
        pairingId old (by simp) hconfirms
    obtain ⟨hclient, hderived⟩ := approvedKey_eq_some hkey
    obtain ⟨_, _, _, _, hadmitted, _⟩ := hgranted.admitted
    obtain ⟨_, _, _, _, hprepare⟩ := hadmitted.hello
    exact ⟨before, after ++ more, record, by simp, hfound, hconfirmed, hgranted, hclient,
      prepare_derives hprepare, hderived⟩
  once := (List.nodup_append.1 (orderly_run events).nodup).1
  keys := by
    rintro before event after rfl
    rw [run_concat]
    rcases @installed_step sha256 hmac ((initial now keyStore).run sha256 hmac before) event
      with ⟨hsame, _⟩ | ⟨installation, _, _, _, hrotate, hmore⟩
    · exact .inl hsame
    · have hearlier : before ++ [event] <+: before ++ event :: after := ⟨after, by simp⟩
      refine .inr ⟨installation, installed_mono hearlier ?_, hrotate⟩
      rw [run_concat, hmore]
      exact List.mem_cons_self

lemma timely_of_live (h : ∀ earlier ∈ events.inits, ∀ entry ∈ (start.run sha256 hmac earlier).pendingPairings.toList,
        (start.run sha256 hmac earlier).now < entry.2.expiresAt) : Timely sha256 hmac start events := by
  rintro before event after pairingId record rfl hc
  have hb : before ∈ (before ++ event :: after).inits :=
    List.mem_inits _ _ |>.2 (List.prefix_append _ _)
  exact h before hb (pairingId, record) (Std.ExtTreeMap.mem_toList_iff_getElem?_eq_some.2 hc.pending)

end Runs

/-- A request of connection 1 that is confirmed after the given time, and then approved. -/
def confirmedAfter (elapsed : ℕ) : List PairingEvent :=
  let hello : PairingHello :=
    { agreement := .x25519, clientUuid := [65], clientHostname := [66], clientPublicKey := [1]
      clientNonce := Block.fill 32 1 }
  let draw : PairingDraw :=
    { agreement := .x25519, serverPublicKey := [2], serverNonce := Block.fill 32 2
      shared := some (List.replicate 32 3) }
  [.setPairingWindow true, .hello 1 7 [] (encodePairingHello hello) (some draw) 0, .offerSent 1 true,
    .tick elapsed, .frame 1 ⟨⟨1, .pairingConfirm, 32, 7⟩, List.replicate 32 4⟩ 0, .approvePairing 1,
    .installApproved 1 true]

/-- The digests of the runs below. -/
def constantDigest : Digest := Block.fill 32 4

/-- A pairing confirmed before its deadline. -/
theorem pairing_on_approval_confirmed :
    Timely (fun _ => constantDigest) (fun _ _ => constantDigest) (initial 0 {}) (confirmedAfter 5) ∧
      ((initial 0 {}).run (fun _ => constantDigest) (fun _ _ => constantDigest)
        (confirmedAfter 5)).installed.length = 1 ∧
      OnApproval (fun _ => constantDigest) (fun _ _ => constantDigest) (initial 0 {}) (confirmedAfter 5) := by
  have htimely : Timely (fun _ => constantDigest) (fun _ _ => constantDigest) (initial 0 {})
      (confirmedAfter 5) := timely_of_live (by decide +kernel)
  exact ⟨htimely, by decide +kernel, pairing_on_approval 0 {} (confirmedAfter 5) htimely⟩

/-- A confirmation that comes too late. -/
def late : List PairingEvent := confirmedAfter (200 * 10 ^ 9)

/-- **An expired request can be approved.**  The client waits for more than three minutes with its
confirmation, which then gives the request three minutes more. -/
theorem pairing_on_approval_not_always :
    ¬ ∀ (sha256 : Bytes → Digest) (hmac : Bytes → Bytes → Digest) (now : ℤ) (keyStore : KeyStore)
      (events : List PairingEvent), OnApproval sha256 hmac (initial now keyStore) events := by
  intro h
  have hall := h (fun _ => constantDigest) (fun _ _ => constantDigest) 0 {} late
  have hids : (run (fun _ => constantDigest) (fun _ _ => constantDigest) (initial 0 {})
      late).installed.map Installation.pairingId = [1] := by decide +kernel
  have hexpired : ((run (fun _ => constantDigest) (fun _ _ => constantDigest) (initial 0 {})
      (late.take 4)).pendingPairings[1]?).any (fun record => record.expiresAt ≤
        (run (fun _ => constantDigest) (fun _ _ => constantDigest) (initial 0 {}) (late.take 4)).now)
      = true := by decide +kernel
  obtain ⟨old, hold, hpast⟩ := (Option.any_eq_true _ _).1 hexpired
  obtain ⟨installation, hinstalled, hid⟩ := List.mem_map.1 (hids ▸ List.mem_singleton_self 1)
  obtain ⟨before, after, record, hevents, _, _, hgranted, _⟩ := hall.approved installation hinstalled
  rw [hid] at hevents hgranted
  -- The approval is the sixth event, so the request has to be unexpired after the fourth.
  have hearlier : late.take 4 <+: before := by
    have happroval : late[before.length]? = some (.approvePairing 1) := by
      rw [hevents]
      simp
    refine List.prefix_of_prefix_length_le (List.take_prefix _ _) ⟨_, hevents.symm⟩ ?_
    rw [List.length_take]
    refine (min_le_left _ _).trans (Nat.le_of_not_lt fun hshort => ?_)
    interval_cases before.length <;> simp [late, confirmedAfter] at happroval
  exact absurd (hgranted.unexpired _ old hearlier hold) (not_lt.2 (of_decide_eq_true hpast))

end PairingPlane

end Nstu.Server
