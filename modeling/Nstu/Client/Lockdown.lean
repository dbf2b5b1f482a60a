import Nstu.Exam.Types
import Mathlib.Data.List.Induction

/-!
# The network lockdown of an exam

`exam_network_lockdown.hpp` and `ExamLockdownController` of `exam_lockdown_controller.cpp`: when the
firewall block of an exam is put up and when it is taken down.

Everything a function does happens under one lock, except that `disarm` calls the clear function
between two such scopes.  An `Event` is one scope, or that call; so other functions may come in
between, and several calls of `disarm` may be under way.  Whether a callback succeeds is part of the
event.

A `World` is the controller together with what an observer has seen: the calls of `disarm` that are
under way, the last successful arm, the last sign of life, and the filter in force.
-/

namespace Nstu.Client.Lockdown

open Wire

/-- `net::Ipv6Address`. -/
abbrev Ipv6Address := Block 16

structure WfpAllowlistConfig where
  allowedIpv4 : List UInt32 := []
  allowedIpv6 : List Ipv6Address := []
  serverIpv4 : UInt32 := 0
  serverIpv6 : Ipv6Address := Block.zero 16
  serverPort : UInt16 := 0
  defaultDeny : Bool := true
  permitLoopback : Bool := true
  permitDnsDhcp : Bool := true
  blockHttp : Bool := true
  blockHttps : Bool := true
  deriving DecidableEq

inductive LockdownAction where
  | none
  | apply
  | clear
  deriving DecidableEq

def kMaxActiveCapMs : UInt64 := 25 * 3600 * 1000
def kDefaultStaleAfterMs : UInt64 := 90000
def kMaxApplyRetries : UInt32 := 5

/-! ## The wanted state -/

structure ExamNetworkLockdown where
  config : WfpAllowlistConfig := {}
  maxActiveMs : UInt64
  staleAfterMs : UInt64
  startMs : UInt64 := 0
  lastHeartbeatMs : UInt64 := 0
  desired : Bool := false
  applied : Bool := false

namespace ExamNetworkLockdown

def arm (lockdown : ExamNetworkLockdown) (config : WfpAllowlistConfig) (nowMs : UInt64) :
    ExamNetworkLockdown :=
  { lockdown with config, desired := true, startMs := nowMs, lastHeartbeatMs := nowMs }

def heartbeat (lockdown : ExamNetworkLockdown) (nowMs : UInt64) : ExamNetworkLockdown :=
  { lockdown with lastHeartbeatMs := nowMs }

def disarm (lockdown : ExamNetworkLockdown) : ExamNetworkLockdown := { lockdown with desired := false }

/-- The time since an instant, none where the clock is behind it. -/
def elapsed (nowMs instant : UInt64) : UInt64 := if nowMs ≥ instant then nowMs - instant else 0

def shouldBlock (lockdown : ExamNetworkLockdown) (nowMs : UInt64) : Bool :=
  lockdown.desired && elapsed nowMs lockdown.startMs ≤ lockdown.maxActiveMs &&
    elapsed nowMs lockdown.lastHeartbeatMs ≤ lockdown.staleAfterMs

def poll (lockdown : ExamNetworkLockdown) (nowMs : UInt64) : ExamNetworkLockdown × LockdownAction :=
  let want := lockdown.shouldBlock nowMs
  if want && !lockdown.applied then ({ lockdown with applied := true }, .apply)
  else if !want && lockdown.applied then ({ lockdown with applied := false }, .clear)
  else (lockdown, .none)

end ExamNetworkLockdown

/-! ## The controller -/

structure ExamLockdownArmParams where
  sessionId : SessionId
  clientId : ClientId
  packageVerified : Bool
  durationSeconds : UInt32
  allowedIpv4 : List UInt32 := []
  allowedIpv6 : List Ipv6Address := []
  serverIpv4 : UInt32 := 0
  serverIpv6 : Ipv6Address := Block.zero 16
  serverPort : UInt16 := 0
  defaultDeny : Bool := true
  permitLoopback : Bool := true
  permitDnsDhcp : Bool := true

structure ExamLockdownController where
  currentEpoch : UInt64 := 0
  armed : Bool := false
  actuallyBlocked : Bool := false
  applyRetries : UInt32 := 0
  lastApplyFailed : Bool := false
  startMs : UInt64 := 0
  lastHeartbeatMs : UInt64 := 0
  durationSeconds : UInt32 := 0
  lockdown : ExamNetworkLockdown :=
    { maxActiveMs := kMaxActiveCapMs, staleAfterMs := kDefaultStaleAfterMs }
  lastError : String := ""

/-- What a callback answers: nothing where it succeeds, else its error. -/
abbrev Answer := Option String

/-- The longest that a block may stay up. -/
def maxActive (durationSeconds : UInt32) : UInt64 :=
  let maxActiveMs := (durationSeconds.toUInt64 + 30 * 60) * 1000
  if maxActiveMs > kMaxActiveCapMs then kMaxActiveCapMs else maxActiveMs

/-- The filter that an exam asks for. -/
def configOf (params : ExamLockdownArmParams) : WfpAllowlistConfig where
  allowedIpv4 := params.allowedIpv4
  allowedIpv6 := params.allowedIpv6
  serverIpv4 := params.serverIpv4
  serverIpv6 := params.serverIpv6
  serverPort := params.serverPort
  defaultDeny := params.defaultDeny
  permitLoopback := params.permitLoopback
  permitDnsDhcp := params.permitDnsDhcp
  blockHttp := true
  blockHttps := true

namespace ExamLockdownController

def beginAttempt (controller : ExamLockdownController) : ExamLockdownController × UInt64 :=
  let epoch := controller.currentEpoch + 1
  ({ controller with currentEpoch := epoch }, epoch)

/-- The guards of `arm`: the error of the first that fails. -/
def armRefusal (controller : ExamLockdownController) (token : UInt64) (params : ExamLockdownArmParams)
    (configuredClientId : ClientId) : Option String :=
  if token ≠ controller.currentEpoch then some "stale or invalid arm token"
  else if allZero params.sessionId.toList then some "session_id is zero"
  else if params.clientId ≠ configuredClientId then
    some "client_id does not match configured service identity"
  else if !params.packageVerified then some "package has not been verified"
  else if params.allowedIpv4.isEmpty ∧ params.allowedIpv6.isEmpty ∧ params.serverIpv4 = 0 ∧
      params.serverIpv6 = Block.zero 16 then some "allowed IP set is empty"
  else none

def arm (controller : ExamLockdownController) (token : UInt64) (params : ExamLockdownArmParams)
    (configuredClientId : ClientId) (nowMs : UInt64) : Except String ExamLockdownController :=
  match controller.armRefusal token params configuredClientId with
  | some error => .error error
  | none =>
    let lockdown : ExamNetworkLockdown :=
      { maxActiveMs := maxActive params.durationSeconds, staleAfterMs := kDefaultStaleAfterMs }
    .ok { controller with
      durationSeconds := params.durationSeconds
      lockdown := lockdown.arm (configOf params) nowMs
      armed := true
      startMs := nowMs
      lastHeartbeatMs := nowMs
      applyRetries := 0
      lastApplyFailed := false }

def updateDuration (controller : ExamLockdownController) (durationSeconds : UInt32) :
    ExamLockdownController :=
  if !controller.armed || durationSeconds = 0 then controller
  else
    let fresh : ExamNetworkLockdown :=
      { maxActiveMs := maxActive durationSeconds, staleAfterMs := kDefaultStaleAfterMs }
    let lockdown := fresh.arm controller.lockdown.config controller.startMs
    { controller with
      durationSeconds
      lockdown :=
        if controller.lastHeartbeatMs > controller.startMs then
          lockdown.heartbeat controller.lastHeartbeatMs
        else lockdown }

def heartbeat (controller : ExamLockdownController) (nowMs : UInt64) : ExamLockdownController :=
  if !controller.armed then controller
  else
    { controller with
      lastHeartbeatMs := nowMs
      lockdown := controller.lockdown.heartbeat nowMs }

/-- The first scope of `disarm`, and whether the clear function is to be called. -/
def disarm (controller : ExamLockdownController) : ExamLockdownController × Bool :=
  ({ controller with
      currentEpoch := controller.currentEpoch + 1
      armed := false
      lockdown := controller.lockdown.disarm }, controller.actuallyBlocked)

/-- The second scope of `disarm`, after the clear function has succeeded. -/
def settleDisarm (controller : ExamLockdownController) : ExamLockdownController :=
  { controller with actuallyBlocked := false, applyRetries := 0 }

/-- `tick`, with the answer of the callback that it may call. -/
def tick (controller : ExamLockdownController) (nowMs : UInt64) (answer : Answer) :
    ExamLockdownController × LockdownAction :=
  let controller := { controller with lockdown := (controller.lockdown.poll nowMs).1 }
  if controller.lockdown.applied && !controller.actuallyBlocked then
    if !controller.lastApplyFailed && controller.applyRetries < kMaxApplyRetries then
      let controller := { controller with applyRetries := controller.applyRetries + 1 }
      match answer with
      | none => ({ controller with actuallyBlocked := true }, .apply)
      | some error =>
        ({ controller with
            lastError := error
            lastApplyFailed :=
              if controller.applyRetries ≥ kMaxApplyRetries then true
              else controller.lastApplyFailed }, .none)
    else (controller, .none)
  else if !controller.lockdown.applied && controller.actuallyBlocked then
    match answer with
    | none => ({ controller with actuallyBlocked := false, applyRetries := 0 }, .clear)
    | some error => ({ controller with lastError := error }, .none)
  else (controller, .none)

end ExamLockdownController

/-! ## Runs -/

/-- A scope of a call, or the clear function that `disarm` calls between its two. -/
inductive Event where
  | beginAttempt
  | arm (token : UInt64) (params : ExamLockdownArmParams) (configuredClientId : ClientId)
      (nowMs : UInt64)
  | updateDuration (durationSeconds : UInt32)
  | heartbeat (nowMs : UInt64)
  | disarm
  | disarmClear (answer : Answer)
  | disarmSettle
  | tick (nowMs : UInt64) (answer : Answer)

/-- The time that a call is given. -/
def Event.time? : Event → Option UInt64
  | arm _ _ _ nowMs => some nowMs
  | heartbeat nowMs => some nowMs
  | tick nowMs _ => some nowMs
  | _ => none

structure World where
  controller : ExamLockdownController := {}
  /-- Calls of `disarm` that are going to call the clear function. -/
  clearing : ℕ := 0
  /-- Calls of `disarm` whose clear function has succeeded. -/
  settling : ℕ := 0
  /-- What the last successful apply was given, while no clear has succeeded since. -/
  inForce : Option WfpAllowlistConfig := none
  /-- The filter of the last successful arm. -/
  armedConfig : WfpAllowlistConfig := {}
  /-- The time of the last successful arm. -/
  armedAt : UInt64 := 0
  /-- The time of the last successful arm or of a heartbeat since. -/
  aliveAt : UInt64 := 0
  /-- The duration of the last successful arm, or of an update since. -/
  duration : UInt32 := 0

namespace World

/-- One call of the controller, with the filters it installs. -/
def step (world : World) : Event → World
  | .beginAttempt => { world with controller := world.controller.beginAttempt.1 }
  | .arm token params configuredClientId nowMs =>
    match world.controller.arm token params configuredClientId nowMs with
    | .error _ => world
    | .ok controller =>
      { world with
        controller
        armedConfig := configOf params
        armedAt := nowMs
        aliveAt := nowMs
        duration := params.durationSeconds }
  | .updateDuration durationSeconds =>
    { world with
      controller := world.controller.updateDuration durationSeconds
      duration :=
        if world.controller.armed ∧ durationSeconds ≠ 0 then durationSeconds else world.duration }
  | .heartbeat nowMs =>
    { world with
      controller := world.controller.heartbeat nowMs
      aliveAt := if world.controller.armed then nowMs else world.aliveAt }
  | .disarm =>
    { world with
      controller := world.controller.disarm.1
      clearing := world.clearing + if world.controller.disarm.2 then 1 else 0 }
  | .disarmClear answer =>
    if world.clearing = 0 then world
    else
      match answer with
      | none =>
        { world with
          clearing := world.clearing - 1
          settling := world.settling + 1
          inForce := none }
      | some _ => { world with clearing := world.clearing - 1 }
  | .disarmSettle =>
    if world.settling = 0 then world
    else { world with settling := world.settling - 1, controller := world.controller.settleDisarm }
  | .tick nowMs answer =>
    let result := world.controller.tick nowMs answer
    { world with
      controller := result.1
      inForce :=
        match result.2 with
        | .apply => some result.1.lockdown.config
        | .clear => none
        | .none => world.inForce }

end World

/-- The world after some events. -/
def worldAfter (events : List Event) : World := events.foldl World.step {}

lemma worldAfter_concat (events : List Event) (event : Event) :
    worldAfter (events ++ [event]) = (worldAfter events).step event := by
  rw [worldAfter, List.foldl_append]
  rfl

/-! ## Ticks -/

section Ticks

variable {controller : ExamLockdownController} {nowMs : UInt64} {answer : Answer}

lemma poll_fst (lockdown : ExamNetworkLockdown) (nowMs : UInt64) :
    (lockdown.poll nowMs).1 = { lockdown with applied := lockdown.shouldBlock nowMs } := by
  obtain ⟨config, maxActiveMs, staleAfterMs, startMs, lastHeartbeatMs, desired, applied⟩ := lockdown
  unfold ExamNetworkLockdown.poll
  generalize ExamNetworkLockdown.shouldBlock _ nowMs = want
  cases want <;> cases applied <;> rfl

/-- A tick calls the clear function. -/
def callsClear (controller : ExamLockdownController) (nowMs : UInt64) : Bool :=
  !controller.lockdown.shouldBlock nowMs && controller.actuallyBlocked

/-- What a tick leaves as it is: all but the flags about the filter. -/
structure SameExam (before after : ExamLockdownController) : Prop where
  epoch : after.currentEpoch = before.currentEpoch
  armed : after.armed = before.armed
  start : after.startMs = before.startMs
  heartbeat : after.lastHeartbeatMs = before.lastHeartbeatMs
  duration : after.durationSeconds = before.durationSeconds
  lockdown : ∃ applied, after.lockdown = { before.lockdown with applied }

/-- **What a tick does.**  It puts the filter up where it is wanted and takes it down where it is not,
if the callback succeeds; the filter is up afterwards only where it was before or has just been put
up. -/
lemma tick_cases (controller : ExamLockdownController) (nowMs : UInt64) (answer : Answer) :
    SameExam controller (controller.tick nowMs answer).1 ∧ ((controller.tick nowMs answer).2 = .apply ∧
          (controller.tick nowMs answer).1.actuallyBlocked ∨
        (controller.tick nowMs answer).2 = .clear ∧ (controller.tick nowMs answer).1.actuallyBlocked = false ∨
        (controller.tick nowMs answer).2 = .none ∧
          (controller.tick nowMs answer).1.actuallyBlocked = controller.actuallyBlocked) ∧
      ((callsClear controller nowMs → answer = none) → (controller.tick nowMs answer).1.actuallyBlocked →
        controller.lockdown.shouldBlock nowMs) := by
  simp only [ExamLockdownController.tick, poll_fst, callsClear]
  generalize hw : controller.lockdown.shouldBlock nowMs = want
  cases hb : controller.actuallyBlocked with
  | false =>
    cases want with
    | false => exact ⟨⟨rfl, rfl, rfl, rfl, rfl, _, rfl⟩, by simp, by simp⟩
    | true =>
      simp only [Bool.not_false, Bool.and_self, if_true]
      split
      · cases answer with
        | none => exact ⟨⟨rfl, rfl, rfl, rfl, rfl, _, rfl⟩, by simp, by simp⟩
        | some error =>
          exact ⟨⟨rfl, rfl, rfl, rfl, rfl, _, rfl⟩, by simp, by simp⟩
      · exact ⟨⟨rfl, rfl, rfl, rfl, rfl, _, rfl⟩, by simp, by simp⟩
  | true =>
    cases want with
    | false =>
      cases answer with
      | none | some error => exact ⟨⟨rfl, rfl, rfl, rfl, rfl, _, rfl⟩, by simp, by simp⟩
    | true => exact ⟨⟨rfl, rfl, rfl, rfl, rfl, _, rfl⟩, by simp, by simp⟩

end Ticks

end Nstu.Client.Lockdown
