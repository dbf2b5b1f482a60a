import Mathlib.Data.List.Induction
import Nstu.Telemetry.Messages

/-!
# The life of a telemetry context

`ExamTelemetryLifecycle`, in `exam_telemetry_lifecycle.cpp`: for which exam telemetry may be collected, and whether it
may now.  A value outside an enumeration of the source is `none`.

An explicit stop is final: whatever comes after it, also when other exams have been taken in between, the exam stopped is
never collected for again (**`revoked_of_stopped`**).  Nothing is collected before the server enables it, nor
after an interruption until it enables it anew (**`enabled_of_canCollect`**).
-/

namespace Nstu.Telemetry

open Wire

inductive TelemetryLifecycleState where
  | disabled
  | enabled
  | suspended
  | revoked
  deriving DecidableEq

inductive TelemetryLifecycleEvent where
  | enable
  | disconnect
  | explicitStop
  | serviceRestart
  deriving DecidableEq

structure TelemetryContextIdentity where
  packageId : Bytes
  packageDigest : Digest
  clientId : ClientId
  sessionId : SessionId
  candidateId : Bytes
  deriving DecidableEq

namespace TelemetryContextIdentity

def matchesEnable (identity : TelemetryContextIdentity) (enable : TelemetryEnable) : Bool :=
  identity.packageId == enable.packageId && identity.packageDigest == enable.packageDigest &&
    identity.clientId == enable.clientId && identity.sessionId == enable.sessionId &&
    identity.candidateId == enable.candidateId

def bound (identity : TelemetryContextIdentity) : Bool :=
  !identity.packageId.isEmpty && !identity.candidateId.isEmpty && !allZero identity.packageDigest.toList &&
    !allZero identity.clientId.toList && !allZero identity.sessionId.toList

end TelemetryContextIdentity

structure LifecycleTransitionResult where
  accepted : Bool
  stateChanged : Bool
  previousState : TelemetryLifecycleState
  currentState : TelemetryLifecycleState
  clearInflight : Bool
  purgeOutbox : Bool

def kMaximumRevokedTelemetryIdentities : ℕ := 16

/-- The array of revoked identities is a list of those in use. -/
structure ExamTelemetryLifecycle where
  context : TelemetryContextIdentity
  state : TelemetryLifecycleState
  revoked : List TelemetryContextIdentity

namespace ExamTelemetryLifecycle

def new (context : TelemetryContextIdentity) : Option TelemetryLifecycleState → ExamTelemetryLifecycle
  | none => ⟨context, .revoked, []⟩
  | some initialState =>
    if !context.bound && (initialState == .enabled || initialState == .suspended) then ⟨context, .disabled, []⟩
    else ⟨context, initialState, []⟩

variable (lifecycle : ExamTelemetryLifecycle)

def canCollect : Bool := lifecycle.state == .enabled

def archived (id : TelemetryContextIdentity) : Bool := lifecycle.revoked.contains id

def isIdentityRevoked (id : TelemetryContextIdentity) : Bool :=
  lifecycle.archived id || lifecycle.state == .revoked && lifecycle.context == id

def archiveCurrent : ExamTelemetryLifecycle :=
  if lifecycle.state == .revoked && lifecycle.context.bound && !lifecycle.archived lifecycle.context &&
      lifecycle.revoked.length < kMaximumRevokedTelemetryIdentities then
    { lifecycle with revoked := lifecycle.revoked ++ [lifecycle.context] }
  else lifecycle

def setContext (context : TelemetryContextIdentity) : Bool × ExamTelemetryLifecycle :=
  if context == lifecycle.context then (true, lifecycle)
  else
    let needsArchive := lifecycle.state == .revoked && lifecycle.context.bound && !lifecycle.archived lifecycle.context
    if lifecycle.revoked.length == kMaximumRevokedTelemetryIdentities &&
        (needsArchive || !lifecycle.archived context) then (false, lifecycle)
    else
      let lifecycle := if needsArchive then lifecycle.archiveCurrent else lifecycle
      (true, { lifecycle with context, state := if lifecycle.archived context then .revoked else .disabled })

/-- The state that an event leaves, with its result: `state_changed` compares the states in every handler. -/
def settle (state : TelemetryLifecycleState) (accepted clearInflight purgeOutbox : Bool) :
    LifecycleTransitionResult × ExamTelemetryLifecycle :=
  (⟨accepted, state != lifecycle.state, lifecycle.state, state, clearInflight, purgeOutbox⟩, { lifecycle with state })

def onEnable (enable : TelemetryEnable) : LifecycleTransitionResult × ExamTelemetryLifecycle :=
  if !lifecycle.context.bound then lifecycle.settle lifecycle.state false false false
  else if !lifecycle.context.matchesEnable enable then lifecycle.settle lifecycle.state false false false
  else if lifecycle.state == .revoked then lifecycle.settle lifecycle.state false false false
  else lifecycle.settle .enabled true false false

def onDisconnect : LifecycleTransitionResult × ExamTelemetryLifecycle :=
  if lifecycle.state == .enabled then lifecycle.settle .suspended true true false
  else lifecycle.settle lifecycle.state true false false

def onServiceShutdown : LifecycleTransitionResult × ExamTelemetryLifecycle := lifecycle.onDisconnect

def onExplicitStop : LifecycleTransitionResult × ExamTelemetryLifecycle :=
  if lifecycle.state != .revoked then lifecycle.settle .revoked true false true
  else lifecycle.settle lifecycle.state true false false

def onServiceRestart : Option TelemetryLifecycleState → LifecycleTransitionResult × ExamTelemetryLifecycle
  | none => lifecycle.settle .revoked false true false
  | some persistedState =>
    if lifecycle.state == .revoked then lifecycle.settle lifecycle.state true false false
    else
      match persistedState with
      | .revoked => lifecycle.settle .revoked true false false
      | .enabled | .suspended => lifecycle.settle .suspended true true false
      | .disabled => lifecycle.settle .disabled true false false

def dispatchEvent (event : Option TelemetryLifecycleEvent) (enable : Option TelemetryEnable)
    (restartPersistedState : Option TelemetryLifecycleState) : LifecycleTransitionResult × ExamTelemetryLifecycle :=
  match event, enable with
  | some .enable, some enable => lifecycle.onEnable enable
  | some .disconnect, _ => lifecycle.onDisconnect
  | some .explicitStop, _ => lifecycle.onExplicitStop
  | some .serviceRestart, _ => lifecycle.onServiceRestart restartPersistedState
  | _, _ => lifecycle.settle lifecycle.state false false false

end ExamTelemetryLifecycle

/-- A call of a public operation. -/
inductive LifecycleCall where
  | setContext (context : TelemetryContextIdentity)
  | dispatchEvent (event : Option TelemetryLifecycleEvent) (enable : Option TelemetryEnable)
    (restartPersistedState : Option TelemetryLifecycleState)

/-- The events after which the exam is not enabled. -/
def LifecycleCall.interrupts : LifecycleCall → Bool
  | .dispatchEvent (some .disconnect) _ _ | .dispatchEvent (some .explicitStop) _ _ => true
  | .dispatchEvent (some .serviceRestart) _ _ => true
  | _ => false

namespace ExamTelemetryLifecycle

def call (lifecycle : ExamTelemetryLifecycle) : LifecycleCall → ExamTelemetryLifecycle
  | .setContext context => (lifecycle.setContext context).2
  | .dispatchEvent event enable restartPersistedState => (lifecycle.dispatchEvent event enable restartPersistedState).2

def run (lifecycle : ExamTelemetryLifecycle) (calls : List LifecycleCall) : ExamTelemetryLifecycle :=
  calls.foldl call lifecycle

variable {lifecycle : ExamTelemetryLifecycle} {identity : TelemetryContextIdentity}

/-! ## One call -/

lemma isIdentityRevoked_iff : lifecycle.isIdentityRevoked identity ↔
    identity ∈ lifecycle.revoked ∨ lifecycle.state = .revoked ∧ lifecycle.context = identity := by
  simp [isIdentityRevoked, archived]

/-- What holds of every lifecycle: there is room for what is archived, and an archived exam is not taken up again. -/
structure Sound (lifecycle : ExamTelemetryLifecycle) : Prop where
  count : lifecycle.revoked.length ≤ kMaximumRevokedTelemetryIdentities
  state_of_archived : lifecycle.context ∈ lifecycle.revoked → lifecycle.state = .revoked

lemma sound_new (context : TelemetryContextIdentity) (initialState : Option TelemetryLifecycleState) :
    (new context initialState).Sound := by
  cases initialState with
  | none => exact ⟨Nat.zero_le _, fun _ => rfl⟩
  | some initialState =>
    rw [new]
    split_ifs <;> exact ⟨Nat.zero_le _, by simp⟩

/-- **What `set_context` does**: nothing, or the exam before is archived if it was revoked, and the next one is disabled
unless it is archived. -/
lemma setContext_cases (hc : lifecycle.revoked.length ≤ kMaximumRevokedTelemetryIdentities)
    (context : TelemetryContextIdentity) :
    (lifecycle.setContext context).2 = lifecycle ∨ ∃ revoked, lifecycle.revoked ⊆ revoked ∧
      revoked.length ≤ kMaximumRevokedTelemetryIdentities ∧
      (lifecycle.state = .revoked → lifecycle.context.bound → lifecycle.context ∈ revoked) ∧
      (lifecycle.setContext context).2 = ⟨context, if context ∈ revoked then .revoked else .disabled, revoked⟩ := by
  rw [setContext]
  by_cases hs : (context == lifecycle.context)
  · exact .inl (by rw [if_pos hs])
  rw [if_neg hs]
  cases hn : lifecycle.state == .revoked && lifecycle.context.bound && !lifecycle.archived lifecycle.context with
  | false =>
    by_cases hf : (lifecycle.revoked.length == kMaximumRevokedTelemetryIdentities && !lifecycle.archived context)
    · exact .inl (congrArg Prod.snd (if_pos hf))
    · refine .inr ⟨lifecycle.revoked, List.Subset.refl _, hc, fun hst hb => ?_,
        (congrArg Prod.snd (if_neg hf)).trans (by simp [archived])⟩
      simpa [hst, hb, archived] using hn
  | true =>
    by_cases hf : (lifecycle.revoked.length == kMaximumRevokedTelemetryIdentities)
    · exact .inl (congrArg Prod.snd (if_pos (by rw [hf]; rfl)))
    · have hr : lifecycle.revoked.length < kMaximumRevokedTelemetryIdentities := lt_of_le_of_ne hc (by simpa using hf)
      have ha : lifecycle.archiveCurrent = { lifecycle with revoked := lifecycle.revoked ++ [lifecycle.context] } := by
        rw [archiveCurrent, hn, if_pos (by simpa using hr)]
      refine .inr ⟨lifecycle.revoked ++ [lifecycle.context], List.subset_append_left _ _, ?_, fun _ _ => by simp,
        (congrArg Prod.snd (if_neg (by simpa using hf))).trans (by simp [ha, archived])⟩
      rwa [List.length_append, List.length_singleton]

/-- **What an event does**: it sets the state alone, revoked stays revoked, and only the server enables. -/
lemma dispatchEvent_cases (lifecycle : ExamTelemetryLifecycle) (event : Option TelemetryLifecycleEvent)
    (enable : Option TelemetryEnable) (persisted : Option TelemetryLifecycleState) :
    ∃ state, (lifecycle.dispatchEvent event enable persisted).2 = { lifecycle with state } ∧
      (lifecycle.state = .revoked → state = .revoked) ∧ (state = .enabled →
        (LifecycleCall.dispatchEvent event enable persisted).interrupts = false ∧ state = lifecycle.state ∨
        ∃ request, event = some .enable ∧ enable = some request ∧ lifecycle.context.bound ∧
          lifecycle.context.matchesEnable request) := by
  rcases event with _ | _ | _ | _ | _
  · exact ⟨_, rfl, id, fun _ => .inl ⟨rfl, rfl⟩⟩
  · cases enable with
    | none => exact ⟨_, rfl, id, fun _ => .inl ⟨rfl, rfl⟩⟩
    | some enable =>
      simp only [dispatchEvent, onEnable]
      split_ifs with hb hm hs
      · exact ⟨_, rfl, id, fun _ => .inl ⟨rfl, rfl⟩⟩
      · exact ⟨_, rfl, id, fun _ => .inl ⟨rfl, rfl⟩⟩
      · exact ⟨_, rfl, id, fun _ => .inl ⟨rfl, rfl⟩⟩
      · exact ⟨_, rfl, fun h => absurd h (by simpa using hs),
          fun _ => .inr ⟨enable, trivial, rfl, by simpa using hb, by simpa using hm⟩⟩
  · simp only [dispatchEvent, onDisconnect]
    split_ifs with hs
    · exact ⟨_, rfl, fun h => absurd (h.symm.trans (beq_iff_eq.mp hs)) (by decide), nofun⟩
    · exact ⟨_, rfl, id, fun h => absurd h (by simpa using hs)⟩
  · simp only [dispatchEvent, onExplicitStop]
    split_ifs with hs
    · exact ⟨_, rfl, fun _ => rfl, nofun⟩
    · have hr : lifecycle.state = .revoked := by simpa using hs
      exact ⟨_, rfl, id, by simp [hr]⟩
  · cases persisted with
    | none => exact ⟨_, rfl, fun _ => rfl, nofun⟩
    | some persisted =>
      simp only [dispatchEvent, onServiceRestart]
      split_ifs with hs
      · exact ⟨_, rfl, id, by simp [beq_iff_eq.mp hs]⟩
      · cases persisted <;> exact ⟨_, rfl, fun h => absurd h (by simpa using hs), nofun⟩

lemma Sound.call (h : lifecycle.Sound) (call : LifecycleCall) : (lifecycle.call call).Sound := by
  cases call with
  | setContext context =>
    rcases setContext_cases h.count context with he | ⟨revoked, -, hc, -, he⟩ <;> rw [ExamTelemetryLifecycle.call, he]
    · exact h
    · exact ⟨hc, fun ha => if_pos ha⟩
  | dispatchEvent event enable persisted =>
    obtain ⟨state, he, hs, -⟩ := dispatchEvent_cases lifecycle event enable persisted
    rw [ExamTelemetryLifecycle.call, he]
    exact ⟨h.count, fun ha => hs (h.state_of_archived ha)⟩

lemma isIdentityRevoked_call (h : lifecycle.Sound) (hb : identity.bound)
    (hr : lifecycle.isIdentityRevoked identity) (call : LifecycleCall) :
    (lifecycle.call call).isIdentityRevoked identity := by
  rw [isIdentityRevoked_iff] at hr ⊢
  cases call with
  | setContext context =>
    rcases setContext_cases h.count context with he | ⟨revoked, hs, -, hc, he⟩ <;>
      rw [ExamTelemetryLifecycle.call, he]
    · exact hr
    · rcases hr with ha | ⟨hst, rfl⟩
      · exact .inl (hs ha)
      · exact .inl (hc hst hb)
  | dispatchEvent event enable persisted =>
    obtain ⟨state, he, hst, -⟩ := dispatchEvent_cases lifecycle event enable persisted
    rw [ExamTelemetryLifecycle.call, he]
    exact hr.imp_right (And.imp_left hst)

/-! ## Runs -/

lemma run_of_call {holds : ExamTelemetryLifecycle → Prop} (hc : ∀ lifecycle call, holds lifecycle → holds (lifecycle.call call))
    (h : holds lifecycle) (calls : List LifecycleCall) : holds (lifecycle.run calls) := by
  induction calls generalizing lifecycle with
  | nil => exact h
  | cons call calls ih => exact ih (hc lifecycle call h)

/-- Along every run of calls the lifecycle is sound. -/
lemma sound_run (context : TelemetryContextIdentity) (initialState : Option TelemetryLifecycleState) (calls : List LifecycleCall) :
    ((new context initialState).run calls).Sound :=
  run_of_call (fun _ call h => h.call call) (sound_new context initialState) calls

/-- **A stop is final**: after it the exam stays revoked in every run, is never collected for, and cannot be enabled. -/
theorem revoked_of_stopped (context : TelemetryContextIdentity) (initialState : Option TelemetryLifecycleState)
    (before after : List LifecycleCall) (hbound : ((new context initialState).run before).context.bound) :
    let stopped := (new context initialState).run before
    let later := stopped.onExplicitStop.2.run after
    later.isIdentityRevoked stopped.context ∧ later.revoked.length ≤ kMaximumRevokedTelemetryIdentities ∧
      (later.context = stopped.context → later.canCollect = false ∧
        ∀ enable, (later.onEnable enable).1.accepted = false ∧ (later.onEnable enable).2 = later) := by
  intro stopped later
  have hstop : stopped.onExplicitStop.2 = { stopped with state := .revoked } := by
    rw [onExplicitStop]
    split_ifs with hstate
    · rfl
    · rw [← show stopped.state = .revoked by simpa using hstate]
      rfl
  have hfinal : stopped.onExplicitStop.2.Sound ∧ stopped.onExplicitStop.2.isIdentityRevoked stopped.context := by
    rw [hstop, isIdentityRevoked_iff]
    exact ⟨⟨(sound_run context initialState before).count, fun _ => rfl⟩, .inr ⟨rfl, rfl⟩⟩
  obtain ⟨hlater, hrevoked⟩ := run_of_call (fun lifecycle call (h : lifecycle.Sound ∧
    lifecycle.isIdentityRevoked stopped.context) => And.intro (h.1.call call)
      (isIdentityRevoked_call h.1 hbound h.2 call)) hfinal after
  refine ⟨hrevoked, hlater.count, fun hcontext => ?_⟩
  have hstate : later.state = .revoked := by
    rw [isIdentityRevoked_iff, ← hcontext] at hrevoked
    exact hrevoked.elim hlater.state_of_archived And.left
  refine ⟨by simp [canCollect, hstate], fun enable => ?_⟩
  rw [onEnable]
  split_ifs with hunbound hmatch hnot
  · exact ⟨rfl, rfl⟩
  · exact ⟨rfl, rfl⟩
  · exact ⟨rfl, rfl⟩
  · exact absurd hstate (by simpa using hnot)

def sampleIdentity : TelemetryContextIdentity := ⟨[1], Block.fill 32 1, Block.fill 16 1, Block.fill 16 1, [1]⟩

def sampleEnable : TelemetryEnable := ⟨[1], Block.fill 32 1, Block.fill 16 1, Block.fill 16 1, [1], 0⟩

def sampleEnabling : LifecycleCall := .dispatchEvent (some .enable) (some sampleEnable) none

/-- Another exam is taken, its telemetry is enabled, and then the first one is current again. -/
def sampleDetour : List LifecycleCall :=
  [.setContext { sampleIdentity with packageId := [2] },
    .dispatchEvent (some .enable) (some { sampleEnable with packageId := [2] }) none, .setContext sampleIdentity]

/-- An exam collected for is stopped.  Nothing enables it again, not even after a detour. -/
theorem revoked_of_stopped_sample : ((new sampleIdentity (some .disabled)).run [sampleEnabling]).canCollect ∧
    (((new sampleIdentity (some .disabled)).run [sampleEnabling]).onExplicitStop.2.run
      (sampleEnabling :: sampleDetour)).isIdentityRevoked sampleIdentity ∧
    ((((new sampleIdentity (some .disabled)).run [sampleEnabling]).onExplicitStop.2.run
      (sampleEnabling :: sampleDetour)).onEnable sampleEnable).1.accepted = false := by
  obtain ⟨hrevoked, -, hcurrent⟩ := revoked_of_stopped sampleIdentity (some .disabled) [sampleEnabling]
    (sampleEnabling :: sampleDetour) (by decide)
  exact ⟨by decide, hrevoked, ((hcurrent (by decide)).2 sampleEnable).1⟩

/-- A call that collects on: one that enables the exam, or one that changes nothing. -/
lemma canCollect_call (h : lifecycle.Sound) {call : LifecycleCall} (hc : (lifecycle.call call).canCollect) :
    (lifecycle.call call).context = lifecycle.context ∧ (call.interrupts = false ∧ lifecycle.canCollect ∨
      ∃ enable persisted, call = .dispatchEvent (some .enable) (some enable) persisted ∧ lifecycle.context.bound ∧
        lifecycle.context.matchesEnable enable) := by
  cases call with
  | setContext context =>
    rcases setContext_cases h.count context with he | ⟨revoked, -, -, -, he⟩ <;>
      rw [ExamTelemetryLifecycle.call, he] at hc ⊢
    · exact ⟨rfl, .inl ⟨rfl, hc⟩⟩
    · rw [canCollect] at hc
      dsimp only at hc
      split_ifs at hc <;> cases hc
  | dispatchEvent event enable persisted =>
    obtain ⟨state, he, -, hen⟩ := dispatchEvent_cases lifecycle event enable persisted
    rw [ExamTelemetryLifecycle.call, he] at hc ⊢
    rcases hen (beq_iff_eq.mp hc) with ⟨hq, rfl⟩ | ⟨request, rfl, rfl, hr⟩
    · exact ⟨rfl, .inl ⟨hq, hc⟩⟩
    · exact ⟨rfl, .inr ⟨request, persisted, rfl, hr⟩⟩

/-- **Nothing is collected unasked**: when telemetry is collected, the server has enabled it for this very exam, and nothing
has interrupted it since. -/
theorem enabled_of_canCollect (context : TelemetryContextIdentity) (initialState : Option TelemetryLifecycleState)
    (calls : List LifecycleCall) (hinitial : initialState ≠ some .enabled)
    (hcollect : ((new context initialState).run calls).canCollect) :
    ∃ before enable persisted after, calls = before ++ .dispatchEvent (some .enable) (some enable) persisted :: after ∧
      (∀ call ∈ after, call.interrupts = false) ∧
      ((new context initialState).run before).context = ((new context initialState).run calls).context ∧
      ((new context initialState).run calls).context.bound ∧
      ((new context initialState).run calls).context.matchesEnable enable := by
  induction calls using List.reverseRecOn with
  | nil =>
    exfalso
    cases initialState with
    | none => cases hcollect
    | some initialState =>
      simp only [run, List.foldl_nil, new] at hcollect
      split_ifs at hcollect
      · cases hcollect
      · exact hinitial (congrArg some (beq_iff_eq.mp hcollect))
  | append_singleton calls call ih =>
    have hrun : (new context initialState).run (calls ++ [call]) = ((new context initialState).run calls).call call := by
      simp [run]
    rw [hrun] at hcollect ⊢
    obtain ⟨hcontext, ⟨hquiet, hbefore⟩ | ⟨enable, persisted, rfl, hbound, hmatch⟩⟩ :=
      canCollect_call (sound_run context initialState calls) hcollect <;> rw [hcontext]
    · obtain ⟨before, enable, persisted, after, rfl, hafter, hrest⟩ := ih hbefore
      refine ⟨before, enable, persisted, after ++ [call], by simp, ?_, hrest⟩
      simpa [or_imp, forall_and] using ⟨hafter, hquiet⟩
    · exact ⟨calls, enable, persisted, [], rfl, by simp, rfl, hbound, hmatch⟩

/-- Enabled, disconnected, enabled anew after a detour, and enabled once more. -/
def sampleCalls : List LifecycleCall :=
  sampleEnabling :: .dispatchEvent (some .disconnect) none none :: sampleDetour ++ [sampleEnabling, sampleEnabling]

/-- Enabling, collecting and a lost connection between. -/
theorem enabled_of_canCollect_sample : ∃ before enable persisted after,
    sampleCalls = before ++ .dispatchEvent (some .enable) (some enable) persisted :: after ∧
      (∀ call ∈ after, call.interrupts = false) ∧
      ((new sampleIdentity (some .disabled)).run sampleCalls).context.matchesEnable enable := by
  obtain ⟨before, enable, persisted, after, hcalls, hquiet, -, -, hmatch⟩ :=
    enabled_of_canCollect sampleIdentity (some .disabled) sampleCalls (by decide) (by decide)
  exact ⟨before, enable, persisted, after, hcalls, hquiet, hmatch⟩

end ExamTelemetryLifecycle

end Nstu.Telemetry
