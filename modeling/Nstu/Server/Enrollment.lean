import Nstu.Control.Replay
import Nstu.Server.Keyring
import Nstu.Server.Pairing

/-!
# Keys that cannot be saved

A key comes into the store by `approve_pairing` or by `process_enrollment`.  Both take a snapshot of the
whole store, install the key and save the keyring, and both put the snapshot back if it cannot be saved.
Enrollments exclude each other; an approval excludes nothing.

The calls are interleaved step by step.  For calls of different clients a step concerns the keys of its
own client, except that a snapshot that is put back takes everything back that other calls have done
since.  `Undisturbed` says that there is no such thing; the keys are then what the calls have reported.
-/

namespace Nstu.Control.CommandType

def enrollmentRequest : CommandType := ⟨12⟩

end Nstu.Control.CommandType

namespace Nstu.Server

open Wire Reader Control

/-! ## The authority -/

def kEnrollmentRequestBytes : ℕ := 16 + 4 + 32 + 8 + 32

structure EnrollmentRequest where
  clientId : ClientId
  keyId : UInt32
  nonce : Nonce
  unixTimeSeconds : UInt64
  authenticator : Digest
  deriving DecidableEq

namespace EnrollmentRequest

/-- `enrollment_message`. -/
def message (label : String) (request : EnrollmentRequest) : Bytes :=
  [labelBytes label, request.clientId.toList, le request.keyId, request.nonce.toList,
    le request.unixTimeSeconds].flatten

/-- `valid_request_fields`. -/
def validFields (request : EnrollmentRequest) : Bool :=
  request.keyId != 0 && request.unixTimeSeconds != 0 && !allZero request.clientId.toList &&
    !allZero request.nonce.toList

/-- The request as the replay protector sees it. -/
def replayIdentity (request : EnrollmentRequest) : AuthHello :=
  ⟨request.clientId, request.nonce, request.unixTimeSeconds, request.keyId⟩

end EnrollmentRequest

def encodeEnrollmentRequest (request : EnrollmentRequest) : Bytes :=
  if !request.validFields then []
  else
    [request.clientId.toList, le request.keyId, request.nonce.toList, le request.unixTimeSeconds,
      request.authenticator.toList].flatten

def readEnrollmentRequest : Reader EnrollmentRequest := do
  let clientId ← readBlock 16
  let keyId : UInt32 ← readLe
  let nonce ← readBlock 32
  let unixTimeSeconds : UInt64 ← readLe
  let authenticator ← readBlock 32
  pure ⟨clientId, keyId, nonce, unixTimeSeconds, authenticator⟩

def decodeEnrollmentRequest (wire : Bytes) : Option EnrollmentRequest :=
  if wire.length ≠ kEnrollmentRequestBytes then none
  else ((readEnrollmentRequest.run wire).map Prod.fst).filter EnrollmentRequest.validFields

structure EnrollmentAuthority where
  secret : Bytes
  replayProtector : ReplayProtector
  maximumClockSkew : UInt64

section Authority

variable (hmac : Bytes → Bytes → Digest)

def deriveEnrolledKey (secret : Bytes) (request : EnrollmentRequest) : Option Digest :=
  if secret.length < kMinimumProtocolKeyBytes || !request.validFields then none
  else hmacSha256 hmac secret (request.message "NSTU-ENROLLED-KEY-V1")

/-- `accept`, with the key that it installs. -/
def EnrollmentAuthority.accept (authority : EnrollmentAuthority) (request : EnrollmentRequest)
    (now : UInt64) (store : KeyStore) : EnrollmentAuthority × Except String (KeyStore × Bytes) :=
  if authority.secret.length < kMinimumProtocolKeyBytes || !request.validFields then
    (authority, .error "invalid enrollment request")
  else if clockDifference request.unixTimeSeconds now > authority.maximumClockSkew then
    (authority, .error "enrollment request is outside the clock window")
  else if hmacSha256 hmac authority.secret (request.message "NSTU-ENROLLMENT-AUTH-V1")
      ≠ some request.authenticator then
    (authority, .error "enrollment authentication failed")
  else
    let (replayProtector, fresh) := authority.replayProtector.accept request.replayIdentity now
    let after := { authority with replayProtector }
    if !fresh then (after, .error "enrollment request was replayed")
    else
      match deriveEnrolledKey hmac authority.secret request with
      | none => (after, .error "enrollment key derivation failed")
      | some key =>
        (after, (store.enroll request.clientId request.keyId key.toList).map fun enrolled =>
          (enrolled, key.toList))

end Authority

/-! ## The calls -/

/-- A call that installs a key: the rest of `approve_pairing` once the record has been taken out, or
`process_enrollment`. -/
inductive KeyCall where
  | approvePairing (record : PendingPairingRecord)
  | processEnrollment (frame : TcpFrame) (now : UInt64)

abbrev CallId := ℕ

/-- How a call has ended.  An installed key is saved, and the client may have been told or not. -/
inductive KeyReport where
  | refused
  | installed (clientId : ClientId) (keyId : UInt32) (key : Bytes) (told : Bool)
  | unpersisted (clientId : ClientId) (keyId : UInt32)
  deriving DecidableEq

/-- Where a call is.  `previous` is the snapshot that it may put back. -/
inductive KeyPhase where
  | waiting
  | snapshotted (previous : List KeyRecord)
  | installed (previous : List KeyRecord) (clientId : ClientId) (keyId : UInt32) (key : Bytes)
  | unsaved (previous : List KeyRecord) (clientId : ClientId) (keyId : UInt32)
  | reported (report : KeyReport)
  deriving DecidableEq

/-- The snapshot of a call that is under way. -/
def KeyPhase.previous : KeyPhase → Option (List KeyRecord)
  | .snapshotted previous | .installed previous _ _ _ | .unsaved previous _ _ => some previous
  | _ => none

structure KeyPlane where
  keyStore : KeyStore
  authority : Option EnrollmentAuthority
  enrollmentMutex : Option CallId := none
  phases : CallId → KeyPhase := fun _ => .waiting

/-- One step of a call, with what the save and the sending come to if it is their turn.  Without a
keyring path the save succeeds. -/
structure KeyStep where
  call : CallId
  saved : Bool
  told : Bool
  deriving DecidableEq

namespace KeyPlane

def setPhase (plane : KeyPlane) (id : CallId) (phase : KeyPhase) : KeyPlane :=
  { plane with phases := Function.update plane.phases id phase }

/-- A call that ends lets go of the mutex if it has it. -/
def report (plane : KeyPlane) (id : CallId) (report : KeyReport) : KeyPlane :=
  { plane.setPhase id (.reported report) with
    enrollmentMutex := if plane.enrollmentMutex = some id then none else plane.enrollmentMutex }

section Steps

variable (sha256 : Bytes → Digest) (hmac : Bytes → Bytes → Digest)

/-- The start of a call, up to its snapshot. -/
def start (plane : KeyPlane) (id : CallId) : KeyCall → KeyPlane
  | .approvePairing record =>
    match PairingPlane.approvedKey sha256 hmac record with
    | none => plane.report id .refused
    | some _ => plane.setPhase id (.snapshotted plane.keyStore.snapshot)
  | .processEnrollment frame _ =>
    if plane.enrollmentMutex.isSome then plane
    else
      let held := { plane with enrollmentMutex := some id }
      if plane.authority.isNone || frame.envelope.type != .enrollmentRequest then
        held.report id .refused
      else
        match decodeEnrollmentRequest frame.payload with
        | none => held.report id .refused
        | some _ => held.setPhase id (.snapshotted plane.keyStore.snapshot)

/-- The call to `rotate` or to `accept`. -/
def install (plane : KeyPlane) (id : CallId) (previous : List KeyRecord) : KeyCall → KeyPlane
  | .approvePairing record =>
    match PairingPlane.approvedKey sha256 hmac record with
    | none => plane.report id .refused
    | some (clientId, key) =>
      match plane.keyStore.rotate clientId key with
      | .error _ => plane.report id .refused
      | .ok (keyStore, keyId) =>
        { plane.setPhase id (.installed previous clientId keyId key) with keyStore }
  | .processEnrollment frame now =>
    match plane.authority, decodeEnrollmentRequest frame.payload with
    | some authority, some request =>
      match authority.accept hmac request now plane.keyStore with
      | (authority, .error _) => { plane.report id .refused with authority := some authority }
      | (authority, .ok (keyStore, key)) =>
        { plane.setPhase id (.installed previous request.clientId request.keyId key) with
          keyStore, authority := some authority }
    | _, _ => plane.report id .refused

/-- One call goes on to its next phase. -/
def step (calls : CallId → KeyCall) (plane : KeyPlane) (step : KeyStep) : KeyPlane :=
  match plane.phases step.call with
  | .waiting => plane.start sha256 hmac step.call (calls step.call)
  | .snapshotted previous => plane.install sha256 hmac step.call previous (calls step.call)
  | .installed previous clientId keyId key =>
    if step.saved then plane.report step.call (.installed clientId keyId key step.told)
    else plane.setPhase step.call (.unsaved previous clientId keyId)
  | .unsaved previous clientId keyId =>
    { plane.report step.call (.unpersisted clientId keyId) with
      keyStore := (KeyStore.replace previous).toOption.getD plane.keyStore }
  | .reported _ => plane

def run (calls : CallId → KeyCall) (plane : KeyPlane) (steps : List KeyStep) : KeyPlane :=
  steps.foldl (step sha256 hmac calls) plane

end Steps

/-- The client a call is for. -/
def clientOf (sha256 : Bytes → Digest) : KeyCall → Option ClientId
  | .approvePairing record => Pairing.clientIdFromUuid sha256 record.transcript.clientUuid
  | .processEnrollment frame _ => (decodeEnrollmentRequest frame.payload).map EnrollmentRequest.clientId

end KeyPlane

/-! ## What a step can do -/

/-- The key is new, and it is all that changes for the other clients to see. -/
structure Installs (store : KeyStore) (clientId : ClientId) (keyId : UInt32) (key : Bytes)
    (after : KeyStore) : Prop where
  sound : after.Sound
  free : store.resolve clientId keyId = none
  resolves : after.resolve clientId keyId = some key
  others : ∀ {other : ClientId} {otherId : UInt32}, other ≠ clientId →
    after.resolve other otherId = store.resolve other otherId

section Stores

variable {store after : KeyStore} {clientId : ClientId} {keyId : UInt32} {key : Bytes}

lemma resolve_of_find_none (h : store.find clientId keyId = none) : store.resolve clientId keyId = none := by
  unfold KeyStore.resolve
  rw [h]
  simp

lemma installs_rotate (h : store.Sound) (hr : store.rotate clientId key = .ok (after, keyId)) :
    Installs store clientId keyId key after := by
  have ha : after.Sound := by
    have hs := h.step (.rotate clientId key)
    simp only [KeyStore.step, hr] at hs
    exact hs
  have hre := KeyStore.resolve_rotate h hr ha
  refine ⟨ha, resolve_of_find_none (KeyStore.rotate_ok h hr).2.2.1, ?_, ?_⟩
  · rw [hre, if_pos rfl, if_pos rfl]
  · intro other otherId ho
    rw [hre, if_neg ho.symm]

lemma installs_enroll (h : store.Sound) (he : store.enroll clientId keyId key = .ok after) :
    Installs store clientId keyId key after := by
  have ha : after.Sound := by
    have hs := h.step (.enroll clientId keyId key)
    simp only [KeyStore.step, he] at hs
    exact hs
  refine ⟨ha, resolve_of_find_none (KeyStore.enroll_ok he).2.2.1, ?_, ?_⟩
  · refine (KeyStore.resolve_eq_some_iff ha).2 ⟨⟨clientId, keyId, key, false⟩, ?_, rfl, rfl⟩
    rw [KeyStore.find_enroll he, if_pos ⟨rfl, rfl⟩]
  · intro other otherId ho
    refine KeyStore.resolve_congr ha h fun record _ => ?_
    rw [KeyStore.find_enroll he, if_neg fun hb => ho hb.1.symm]

lemma restores_snapshot (h : store.Sound) : ∃ restored, KeyStore.replace store.snapshot = .ok restored ∧
      ∀ clientId keyId, restored.resolve clientId keyId = store.resolve clientId keyId := by
  obtain ⟨restored, hr, hf⟩ := KeyStore.replace_snapshot h
  exact ⟨restored, hr, fun clientId keyId =>
    KeyStore.resolve_of_exported (sound_replace hr) h (hf clientId keyId)⟩

lemma installs_accept {hmac : Bytes → Bytes → Digest} {authority next : EnrollmentAuthority}
    {request : EnrollmentRequest} {now : UInt64} (h : store.Sound)
    (ha : authority.accept hmac request now store = (next, .ok (after, key))) :
    Installs store request.clientId request.keyId key after := by
  unfold EnrollmentAuthority.accept at ha
  split at ha
  · cases ha
  · split at ha
    · cases ha
    · split at ha
      · cases ha
      · dsimp only at ha
        split at ha
        · cases ha
        · split at ha
          · cases ha
          next derived hd =>
            cases he : store.enroll request.clientId request.keyId derived.toList with
            | error message =>
              rw [he] at ha
              cases ha
            | ok enrolled =>
              rw [he] at ha
              cases ha
              exact installs_enroll h he

end Stores

namespace KeyPlane

/-- Everything that a step of a call can do, to the store and to its own phase. -/
inductive Progress (plane : KeyPlane) (id : CallId) (client : Option ClientId) (next : KeyPlane) :
    Prop where
  | idle (keyStore : next.keyStore = plane.keyStore) (phases : next.phases = plane.phases)
  | refused (keyStore : next.keyStore = plane.keyStore)
      (phases : next.phases = Function.update plane.phases id (.reported .refused))
  | snapshot {clientId : ClientId} (waiting : plane.phases id = .waiting)
      (client : client = some clientId) (keyStore : next.keyStore = plane.keyStore)
      (phases : next.phases = Function.update plane.phases id (.snapshotted plane.keyStore.snapshot))
  | install {previous : List KeyRecord} {clientId : ClientId} {keyId : UInt32} {key : Bytes}
      (phase : plane.phases id = .snapshotted previous) (client : client = some clientId)
      (installs : Installs plane.keyStore clientId keyId key next.keyStore)
      (phases : next.phases = Function.update plane.phases id (.installed previous clientId keyId key))
  | saved {previous : List KeyRecord} {clientId : ClientId} {keyId : UInt32} {key : Bytes} {told : Bool}
      (phase : plane.phases id = .installed previous clientId keyId key)
      (keyStore : next.keyStore = plane.keyStore)
      (phases : next.phases = Function.update plane.phases id (.reported (.installed clientId keyId key told)))
  | unsaved {previous : List KeyRecord} {clientId : ClientId} {keyId : UInt32} {key : Bytes}
      (phase : plane.phases id = .installed previous clientId keyId key)
      (keyStore : next.keyStore = plane.keyStore)
      (phases : next.phases = Function.update plane.phases id (.unsaved previous clientId keyId))
  | restore {previous : List KeyRecord} {clientId : ClientId} {keyId : UInt32}
      (phase : plane.phases id = .unsaved previous clientId keyId)
      (keyStore : next.keyStore = (KeyStore.replace previous).toOption.getD plane.keyStore)
      (phases : next.phases = Function.update plane.phases id (.reported (.unpersisted clientId keyId)))

section Runs

variable {sha256 : Bytes → Digest} {hmac : Bytes → Bytes → Digest} {calls : CallId → KeyCall}

lemma approvedKey_client {record : PendingPairingRecord} {clientId : ClientId} {key : Bytes}
    (h : PairingPlane.approvedKey sha256 hmac record = some (clientId, key)) :
    clientOf sha256 (.approvePairing record) = some clientId :=
  (PairingPlane.approvedKey_eq_some h).1

variable {plane : KeyPlane} {id : CallId} {call : KeyCall}

lemma progress_start (hw : plane.phases id = .waiting) :
    Progress plane id (clientOf sha256 call) (plane.start sha256 hmac id call) := by
  cases call with
  | approvePairing record =>
    rw [start]
    split
    · exact .refused rfl rfl
    next key hk => exact .snapshot hw (approvedKey_client hk) rfl rfl
  | processEnrollment frame now =>
    rw [start]
    split
    · exact .idle rfl rfl
    · dsimp only
      split
      · exact .refused rfl rfl
      · split
        · exact .refused rfl rfl
        next request hr =>
          have hc : clientOf sha256 (.processEnrollment frame now) = some request.clientId := by
            rw [clientOf, hr, Option.map_some]
          exact .snapshot hw hc rfl rfl

lemma progress_install {previous : List KeyRecord}
    (hs : plane.keyStore.Sound) (hp : plane.phases id = .snapshotted previous) :
    Progress plane id (clientOf sha256 call) (plane.install sha256 hmac id previous call) := by
  cases call with
  | approvePairing record =>
    rw [install]
    split
    · exact .refused rfl rfl
    next clientId key hk =>
      split
      · exact .refused rfl rfl
      next keyStore keyId hr =>
        exact .install hp (approvedKey_client hk) (installs_rotate hs hr) rfl
  | processEnrollment frame now =>
    rw [install]
    split
    next authority request _ hre =>
      split
      · exact .refused rfl rfl
      next after keyStore key ha =>
        have hc : clientOf sha256 (.processEnrollment frame now) = some request.clientId := by
          rw [clientOf, hre, Option.map_some]
        exact .install hp hc (installs_accept hs ha) rfl
    · exact .refused rfl rfl

/-- How far a call's phase gets in one turn. -/
lemma progress_step {plane : KeyPlane} {turn : KeyStep} (hs : plane.keyStore.Sound) :
    Progress plane turn.call (clientOf sha256 (calls turn.call)) (plane.step sha256 hmac calls turn) := by
  unfold step
  split
  next hp => exact progress_start hp
  next hp => exact progress_install hs hp
  next hp =>
    split
    · exact .saved hp rfl rfl
    · exact .unsaved hp rfl rfl
  next hp => exact .restore hp rfl rfl
  · exact .idle rfl rfl

variable {turn : KeyStep}

/-- Each turn keeps the key store sound. -/
lemma sound_step (hs : plane.keyStore.Sound) : (plane.step sha256 hmac calls turn).keyStore.Sound := by
  cases @progress_step sha256 hmac calls plane turn hs with
  | idle hst _ | refused hst _ | snapshot _ _ hst _ => rwa [hst]
  | install _ _ hi _ => exact hi.sound
  | saved _ hst _ | unsaved _ hst _ => rwa [hst]
  | @restore previous _ _ _ hst _ =>
    rw [hst]
    cases hr : KeyStore.replace previous with
    | error _ => exact hs
    | ok restored => exact sound_replace hr

lemma phases_step_of_ne (hi : turn.call ≠ id) (hs : plane.keyStore.Sound) :
    (plane.step sha256 hmac calls turn).phases id = plane.phases id := by
  cases @progress_step sha256 hmac calls plane turn hs with
  | idle _ hp => rw [hp]
  | refused _ hp | snapshot _ _ _ hp => rw [hp, Function.update_of_ne hi.symm]
  | install _ _ _ hp
  | saved _ _ hp | unsaved _ _ hp | restore _ _ hp => rw [hp, Function.update_of_ne hi.symm]

/-- The snapshot of a call that is under way has the keys of the other clients as they are. -/
def Agrees (plane : KeyPlane) (id : CallId) (client : Option ClientId) : Prop :=
  ∀ previous restored, (plane.phases id).previous = some previous →
    KeyStore.replace previous = .ok restored → ∀ other otherId, client ≠ some other →
      restored.resolve other otherId = plane.keyStore.resolve other otherId

/-- A call agrees with the store after its own turn. -/
lemma Agrees.step {plane : KeyPlane} {turn : KeyStep} (hsound : plane.keyStore.Sound)
    (hagre : Agrees plane turn.call (clientOf sha256 (calls turn.call))) :
    Agrees (plane.step sha256 hmac calls turn) turn.call (clientOf sha256 (calls turn.call)) := by
  intro previous restored hprev hrepl other otherId hother
  cases @progress_step sha256 hmac calls plane turn hsound with
  | idle hstore hphas =>
    rw [hphas] at hprev
    rw [hstore]
    exact hagre previous restored hprev hrepl other otherId hother
  | refused _ hphas =>
    rw [hphas, Function.update_self] at hprev
    cases hprev
  | snapshot _ _ hstore hphas =>
    rw [hphas, Function.update_self] at hprev
    cases hprev
    obtain ⟨restored', hrepl', hreso⟩ := restores_snapshot hsound
    rw [hrepl] at hrepl'
    cases hrepl'
    rw [hstore, hreso]
  | install hphase hclie hinst hphas =>
    rw [hphas, Function.update_self] at hprev
    cases hprev
    have hne : other ≠ _ := fun heq => hother (heq ▸ hclie)
    rw [hinst.others hne]
    exact hagre _ restored (by rw [hphase]; rfl) hrepl other otherId hother
  | saved _ _ hphas =>
    rw [hphas, Function.update_self] at hprev
    cases hprev
  | unsaved hphase hstore hphas =>
    rw [hphas, Function.update_self] at hprev
    cases hprev
    rw [hstore]
    exact hagre _ restored (by rw [hphase]; rfl) hrepl other otherId hother
  | restore _ _ hphas =>
    rw [hphas, Function.update_self] at hprev
    cases hprev

/-- What other clients resolve stays as it is. -/
lemma resolve_step (hsound : plane.keyStore.Sound)
    (hagre : ∀ previous clientId keyId, plane.phases turn.call = .unsaved previous clientId keyId →
      Agrees plane turn.call (clientOf sha256 (calls turn.call)))
    {other : ClientId} (hother : clientOf sha256 (calls turn.call) ≠ some other) (otherId : UInt32) :
    (plane.step sha256 hmac calls turn).keyStore.resolve other otherId = plane.keyStore.resolve other otherId := by
  cases @progress_step sha256 hmac calls plane turn hsound with
  | idle hstore _ | refused hstore _ | snapshot _ _ hstore _ => rw [hstore]
  | install _ hclie hinst _ =>
    exact hinst.others fun heq => hother (heq ▸ hclie)
  | saved _ hstore _ | unsaved _ hstore _ => rw [hstore]
  | @restore previous _ _ hphase hstore _ =>
    rw [hstore]
    cases hrepl : KeyStore.replace previous with
    | error _ => rfl
    | ok restored =>
      exact hagre _ _ _ hphase previous restored (by rw [hphase]; rfl) hrepl other otherId hother

/-! ## What the calls know -/

/-- What holds of the keys of a call's client, in each of its phases. -/
def Holds (store : KeyStore) (client : Option ClientId) : KeyPhase → Prop
  | .waiting | .reported .refused => True
  | .snapshotted previous => ∃ clientId restored, client = some clientId ∧
      KeyStore.replace previous = .ok restored ∧
      ∀ keyId, restored.resolve clientId keyId = store.resolve clientId keyId
  | .installed previous clientId keyId key => client = some clientId ∧
      store.resolve clientId keyId = some key ∧
      ∃ restored, KeyStore.replace previous = .ok restored ∧ restored.resolve clientId keyId = none
  | .unsaved previous clientId keyId => client = some clientId ∧
      ∃ restored, KeyStore.replace previous = .ok restored ∧ restored.resolve clientId keyId = none
  | .reported (.installed clientId keyId key _) => client = some clientId ∧
      store.resolve clientId keyId = some key
  | .reported (.unpersisted clientId keyId) => client = some clientId ∧
      store.resolve clientId keyId = none

lemma Holds.congr {store after : KeyStore} {client : Option ClientId} {phase : KeyPhase}
    (hh : Holds store client phase) (hs : ∀ clientId keyId, client = some clientId →
      after.resolve clientId keyId = store.resolve clientId keyId) : Holds after client phase := by
  cases phase with
  | waiting => trivial
  | snapshotted previous =>
    obtain ⟨clientId, restored, hc, hr, hre⟩ := hh
    exact ⟨clientId, restored, hc, hr, fun keyId =>
      (hre keyId).trans (hs clientId keyId hc).symm⟩
  | installed previous clientId keyId key =>
    obtain ⟨hc, hre, hp⟩ := hh
    exact ⟨hc, (hs clientId keyId hc).trans hre, hp⟩
  | unsaved previous clientId keyId => exact hh
  | reported report =>
    cases report with
    | refused => trivial
    | installed clientId keyId key told
    | unpersisted clientId keyId => exact ⟨hh.1, (hs _ _ hh.1).trans hh.2⟩

/-- A call's own turn keeps what its phase promises. -/
lemma holds_step_self (hsound : plane.keyStore.Sound)
    (hholds : Holds plane.keyStore (clientOf sha256 (calls turn.call)) (plane.phases turn.call)) :
    Holds (plane.step sha256 hmac calls turn).keyStore (clientOf sha256 (calls turn.call))
      ((plane.step sha256 hmac calls turn).phases turn.call) := by
  cases @progress_step sha256 hmac calls plane turn hsound with
  | idle hstore hphas => rwa [hstore, hphas]
  | refused _ hphas =>
    rw [hphas, Function.update_self]
    trivial
  | snapshot _ hclie hstore hphas =>
    obtain ⟨restored, hrepl, hreso⟩ := restores_snapshot hsound
    rw [hstore, hphas, Function.update_self]
    exact ⟨_, restored, hclie, hrepl, hreso _⟩
  | install hphase hclie hinst hphas =>
    rw [hphase] at hholds
    obtain ⟨clientId, restored, hclie', hrepl, hreso⟩ := hholds
    rw [hclie] at hclie'
    cases hclie'
    rw [hphas, Function.update_self]
    exact ⟨hclie, hinst.resolves, restored, hrepl, (hreso _).trans hinst.free⟩
  | saved hphase hstore hphas =>
    rw [hphase] at hholds
    rw [hstore, hphas, Function.update_self]
    exact ⟨hholds.1, hholds.2.1⟩
  | unsaved hphase hstore hphas =>
    rw [hphase] at hholds
    rw [hphas, Function.update_self]
    exact ⟨hholds.1, hholds.2.2⟩
  | restore hphase hstore hphas =>
    rw [hphase] at hholds
    obtain ⟨hclie, restored, hrepl, hreso⟩ := hholds
    rw [hstore, hphas, Function.update_self, hrepl]
    exact ⟨hclie, hreso⟩

/-! ## Runs -/

variable (sha256 hmac calls) in
/-- Between the snapshot of a call and the moment it puts it back, no step of another call changes the
store. -/
def Undisturbed (plane : KeyPlane) (steps : List KeyStep) : Prop :=
  ∀ before turn middle undo after previous clientId keyId,
    steps = before ++ turn :: (middle ++ undo :: after) → turn.call ≠ undo.call →
    ((plane.run sha256 hmac calls before).phases undo.call).previous.isSome = true →
    (plane.run sha256 hmac calls (before ++ turn :: middle)).phases undo.call = .unsaved previous clientId keyId →
    (plane.run sha256 hmac calls (before ++ [turn])).keyStore = (plane.run sha256 hmac calls before).keyStore

variable (sha256 hmac calls) in
/-- The keys are what the calls have reported: an installed key resolves, and one that could not be saved
does not. -/
def AsReported (plane : KeyPlane) (steps : List KeyStep) : Prop :=
  ∀ id clientId keyId, (∀ key told,
      (plane.run sha256 hmac calls steps).phases id = .reported (.installed clientId keyId key told) →
        (plane.run sha256 hmac calls steps).keyStore.resolve clientId keyId = some key) ∧
    ((plane.run sha256 hmac calls steps).phases id = .reported (.unpersisted clientId keyId) →
      (plane.run sha256 hmac calls steps).keyStore.resolve clientId keyId = none)

lemma run_concat (plane : KeyPlane) (steps : List KeyStep) (turn : KeyStep) :
    plane.run sha256 hmac calls (steps ++ [turn])
      = (plane.run sha256 hmac calls steps).step sha256 hmac calls turn := by
  rw [run, List.foldl_append]
  rfl

lemma sound_run {plane : KeyPlane} (hs : plane.keyStore.Sound) (steps : List KeyStep) :
    (plane.run sha256 hmac calls steps).keyStore.Sound := by
  induction steps using List.reverseRecOn with
  | nil => exact hs
  | append_singleton steps turn ih =>
    rw [run_concat]
    exact sound_step ih

variable {steps : List KeyStep}

/-- Undisturbed while unsaved, a call agrees with the store. -/
lemma agrees_run (hsound : plane.keyStore.Sound) (hwait : plane.phases id = .waiting)
    (hquiet : ∀ before turn middle, steps = before ++ turn :: middle → turn.call ≠ id →
      ((plane.run sha256 hmac calls before).phases id).previous.isSome →
      (plane.run sha256 hmac calls (before ++ [turn])).keyStore = (plane.run sha256 hmac calls before).keyStore) :
    Agrees (plane.run sha256 hmac calls steps) id (clientOf sha256 (calls id)) := by
  induction steps using List.reverseRecOn with
  | nil =>
    intro previous restored hprev
    rw [run, List.foldl_nil, hwait] at hprev
    cases hprev
  | append_singleton steps turn ih =>
    have hagre := ih fun before earlier middle hsteps =>
      hquiet before earlier (middle ++ [turn]) (by rw [hsteps, List.append_assoc, List.cons_append])
    by_cases hid : turn.call = id
    · subst hid
      rw [run_concat]
      exact hagre.step (sound_run hsound steps)
    · intro previous restored hprev hrepl other otherId hother
      have hphas : (plane.run sha256 hmac calls (steps ++ [turn])).phases id
          = (plane.run sha256 hmac calls steps).phases id := by
        rw [run_concat]
        exact phases_step_of_ne hid (sound_run hsound steps)
      rw [hphas] at hprev
      rw [hquiet steps turn [] rfl hid (by rw [hprev]; rfl)]
      exact hagre previous restored hprev hrepl other otherId hother

lemma Undisturbed.init (h : Undisturbed sha256 hmac calls plane (steps ++ [turn])) :
    Undisturbed sha256 hmac calls plane steps := by
  intro before earlier middle undo after previous clientId keyId hs
  refine h before earlier middle undo (after ++ [turn]) previous clientId keyId ?_
  rw [hs]
  simp

/-- Undisturbed calls for different clients keep their promises. -/
lemma holds_run {store : KeyStore} {authority : Option EnrollmentAuthority} (hsound : store.Sound)
    (hclie : ∀ {id other : CallId} {clientId : ClientId},
      clientOf sha256 (calls id) = some clientId → clientOf sha256 (calls other) = some clientId → id = other)
    (hundi : Undisturbed sha256 hmac calls { keyStore := store, authority } steps) (id : CallId) :
    Holds (run sha256 hmac calls { keyStore := store, authority } steps).keyStore (clientOf sha256 (calls id))
      ((run sha256 hmac calls { keyStore := store, authority } steps).phases id) := by
  induction steps using List.reverseRecOn with
  | nil => trivial
  | append_singleton steps turn ih =>
    have hbefo := ih hundi.init
    have hreac := @sound_run sha256 hmac calls { keyStore := store, authority } hsound steps
    rw [run_concat]
    by_cases hid : turn.call = id
    · subst hid
      exact holds_step_self hreac hbefo
    · rw [phases_step_of_ne hid hreac]
      refine hbefo.congr fun clientId keyId hclien => resolve_step hreac ?_ ?_ keyId
      · intro previous gone goneId hunsa
        refine agrees_run hsound rfl fun before earlier middle hsteps hne hopen => ?_
        refine hundi before earlier middle turn [] previous gone goneId ?_ hne hopen ?_
        · rw [hsteps]
          simp
        · rw [← hsteps]
          exact hunsa
      · exact fun hother => hid (hclie hother hclien)

/-- **A rollback takes no other client's key back.**  In every interleaving of calls for different
clients in which a call that puts its snapshot back has been alone with the store since it took it. -/
theorem rollback_keeps_keys {loaded : List KeyRecord} {store : KeyStore}
    (hloaded : KeyStore.replace loaded = .ok store) (authority : Option EnrollmentAuthority)
    (hclients : ∀ {id other : CallId} {clientId : ClientId},
      clientOf sha256 (calls id) = some clientId → clientOf sha256 (calls other) = some clientId → id = other)
    (steps : List KeyStep)
    (hundisturbed : Undisturbed sha256 hmac calls { keyStore := store, authority } steps) :
    AsReported sha256 hmac calls { keyStore := store, authority } steps := by
  intro id clientId keyId
  have hholds := holds_run (sound_replace hloaded) hclients hundisturbed id
  constructor
  · intro key told hphase
    rw [hphase] at hholds
    exact hholds.2
  · intro hphase
    rw [hphase] at hholds
    exact hholds.2

lemma undisturbed_of_serial
    (h : ∀ count < steps.length, ∀ other ∈ steps, steps[count]?.map KeyStep.call ≠ some other.call →
      ((plane.run sha256 hmac calls (steps.take count)).phases other.call).previous.isNone) :
    Undisturbed sha256 hmac calls plane steps := by
  rintro before turn middle undo after previous clientId keyId rfl hn ho _
  have hc := h before.length (by simp) undo (by simp) (by simpa using hn)
  rw [List.take_left, Option.isNone_iff_eq_none] at hc
  rw [hc] at ho
  cases ho

end Runs

def sampleRecord (uuid : Bytes) : PendingPairingRecord :=
  { connectionId := 1, requestId := 7, address := []
    transcript := ⟨1, .x25519, uuid, [66], [1], [2], Block.fill 32 1, Block.fill 32 2⟩
    secrets := ⟨Block.fill 32 3, Block.fill 32 5, []⟩
    expiresAt := 0, clientConfirmed := true }

def sampleRequest : EnrollmentRequest :=
  ⟨Block.fill 16 9, 1, Block.fill 32 1, 1000, PairingPlane.constantDigest⟩

/-- An approval for one client, an enrollment for another, and calls that are refused. -/
def sampleCalls : CallId → KeyCall
  | 0 => .approvePairing (sampleRecord [65])
  | 1 => .processEnrollment ⟨⟨1, .enrollmentRequest, 92, 3⟩, encodeEnrollmentRequest sampleRequest⟩ 1000
  | _ => .approvePairing (sampleRecord [])

def samplePlane : KeyPlane :=
  { keyStore := {}, authority := some ⟨List.replicate 32 8, .create 16 120, 120⟩ }

lemma clientOf_sampleCalls {id other : CallId} {clientId : ClientId}
    (hi : clientOf (fun _ => PairingPlane.constantDigest) (sampleCalls id) = some clientId)
    (ho : clientOf (fun _ => PairingPlane.constantDigest) (sampleCalls other) = some clientId) : id = other := by
  have ha : clientOf (fun _ => PairingPlane.constantDigest) (sampleCalls 0)
      = some (Block.fill 16 4) := by decide +kernel
  have he : clientOf (fun _ => PairingPlane.constantDigest) (sampleCalls 1)
      = some (Block.fill 16 9) := by decide +kernel
  have hr (more : ℕ) : clientOf (fun _ => PairingPlane.constantDigest) (sampleCalls (more + 2))
      = none := rfl
  have hd : (Block.fill 16 4 : ClientId) ≠ Block.fill 16 9 := by decide
  match id, other with
  | 0, 0 => rfl
  | 1, 1 => rfl
  | 0, 1 =>
    rw [ha] at hi
    rw [he] at ho
    exact absurd (Option.some.inj (hi.trans ho.symm)) hd
  | 1, 0 =>
    rw [he] at hi
    rw [ha] at ho
    exact absurd (Option.some.inj (ho.trans hi.symm)) hd
  | more + 2, _ => cases (hr more).symm.trans hi
  | 0, more + 2 => cases (hr more).symm.trans ho
  | 1, more + 2 => cases (hr more).symm.trans ho

/-- The approval fails and is over before the enrollment begins. -/
def oneAfterTheOther : List KeyStep :=
  [⟨0, false, false⟩, ⟨0, false, false⟩, ⟨0, false, false⟩, ⟨0, false, false⟩,
    ⟨1, true, true⟩, ⟨1, true, true⟩, ⟨1, true, true⟩]

/-- One enrolment after the other. -/
theorem rollback_keeps_keys_oneAfterTheOther :
    (run (fun _ => PairingPlane.constantDigest) (fun _ _ => PairingPlane.constantDigest) sampleCalls
        samplePlane oneAfterTheOther).phases 1 = .reported (.installed (Block.fill 16 9) 1 (List.replicate 32 4) true) ∧
    AsReported (fun _ => PairingPlane.constantDigest) (fun _ _ => PairingPlane.constantDigest) sampleCalls
      samplePlane oneAfterTheOther := by
  have hloaded : KeyStore.replace [] = .ok {} := rfl
  refine ⟨by decide +kernel, rollback_keeps_keys hloaded _ clientOf_sampleCalls _ ?_⟩
  exact undisturbed_of_serial (by decide +kernel)

/-- The enrollment comes between the snapshot of the approval and its rollback. -/
def acrossTheEnrollment : List KeyStep :=
  [⟨0, false, false⟩, ⟨1, true, true⟩, ⟨1, true, true⟩, ⟨1, true, true⟩, ⟨0, false, false⟩,
    ⟨0, false, false⟩, ⟨0, false, false⟩]

/-- **A rollback can take another client's key back.** -/
theorem rollback_keeps_keys_not_always :
    ¬ ∀ (sha256 : Bytes → Digest) (hmac : Bytes → Bytes → Digest) (calls : CallId → KeyCall)
      (loaded : List KeyRecord) (store : KeyStore) (authority : Option EnrollmentAuthority)
      (steps : List KeyStep), KeyStore.replace loaded = .ok store →
        (∀ {id other : CallId} {clientId : ClientId}, clientOf sha256 (calls id) = some clientId →
          clientOf sha256 (calls other) = some clientId → id = other) →
        AsReported sha256 hmac calls { keyStore := store, authority } steps := by
  intro h
  have hreported := h (fun _ => PairingPlane.constantDigest) (fun _ _ => PairingPlane.constantDigest)
    sampleCalls [] {} samplePlane.authority acrossTheEnrollment rfl clientOf_sampleCalls
  have hkey := (hreported 1 (Block.fill 16 9) 1).1 (List.replicate 32 4) true (by decide +kernel)
  exact absurd hkey (by decide +kernel)

end KeyPlane

end Nstu.Server
