import Nstu.Client.LockdownRuns

/-!
# The lockdown fails safe

While an exam is armed, the inner machine has the start, the last sign of life and the limits that
the calls have set (`Timed`); `update_duration` builds it again with the same ones.  So a tick takes
the block down as soon as the exam has been stopped, has run out or is silent.

A token is good for an arm until the next `begin_attempt` or `disarm`.  The epoch is a number of 64
bits, so that a token is good again after as many of these calls as there are such numbers
(`token_returns`).
-/

namespace Nstu.Client.Lockdown

open Wire List
open World (step)

variable {world : World} {event : Event}

/-! ## Times -/

/-- The times that the calls of a run are given. -/
def times (events : List Event) : List UInt64 := events.filterMap Event.time?

/-- The time does not go back. -/
def Clocked (events : List Event) : Prop := (times events).Pairwise (· ≤ ·)

instance (events : List Event) : Decidable (Clocked events) :=
  inferInstanceAs (Decidable ((times events).Pairwise (· ≤ ·)))

lemma toNat_elapsed (nowMs instant : UInt64) :
    (ExamNetworkLockdown.elapsed nowMs instant).toNat = nowMs.toNat - instant.toNat := by
  unfold ExamNetworkLockdown.elapsed
  split
  next hl => rw [UInt64.toNat_sub_of_le _ _ hl]
  next he =>
    have hlt := UInt64.lt_iff_toNat_lt.mp (UInt64.not_le.mp he)
    change 0 = _
    omega

/-- The longest that a block may stay up, in milliseconds. -/
def activeLimit (durationSeconds : UInt32) : ℕ :=
  min ((durationSeconds.toNat + 30 * 60) * 1000) (25 * 3600 * 1000)

lemma toNat_maxActive (durationSeconds : UInt32) : (maxActive durationSeconds).toNat = activeLimit durationSeconds := by
  have hl := durationSeconds.toNat_lt
  have hs : ((durationSeconds.toUInt64 + 30 * 60) * 1000).toNat = (durationSeconds.toNat + 30 * 60) * 1000 := by
    rw [UInt64.toNat_mul, UInt64.toNat_add, UInt32.toNat_toUInt64]
    change (durationSeconds.toNat + 1800) % 2 ^ 64 * 1000 % 2 ^ 64 = _
    omega
  simp only [maxActive, activeLimit]
  rw [← hs]
  split
  next hc =>
    have := UInt64.lt_iff_toNat_lt.mp hc
    exact (Nat.min_eq_right (Nat.le_of_lt this)).symm
  next hb =>
    have := UInt64.le_iff_toNat_le.mp (UInt64.not_lt.mp hb)
    exact (Nat.min_eq_left this).symm

/-! ## The inner machine -/

/-- The inner machine of a controller that is armed. -/
structure Timed (seen : List UInt64) (world : World) : Prop where
  start : world.controller.startMs = world.armedAt
  heartbeat : world.controller.lastHeartbeatMs = world.aliveAt
  innerStart : world.controller.lockdown.startMs = world.armedAt
  innerHeartbeat : world.controller.lockdown.lastHeartbeatMs = world.aliveAt
  limit : world.controller.lockdown.maxActiveMs = maxActive world.duration
  stale : world.controller.lockdown.staleAfterMs = kDefaultStaleAfterMs
  order : world.armedAt ≤ world.aliveAt
  seen : world.armedAt ∈ seen

/-- The inner machine wants a block only while the controller is armed, and is then as it should be. -/
structure Inner (seen : List UInt64) (world : World) : Prop where
  desired : world.controller.lockdown.desired = world.controller.armed
  timed : world.controller.armed = true → Timed seen world

variable {seen : List UInt64}

lemma Inner.of_not_armed (hd : world.controller.lockdown.desired = false)
    (ha : world.controller.armed = false) : Inner seen world := by
  refine ⟨hd.trans ha.symm, ?_⟩
  intro h
  rw [ha] at h
  cases h

lemma Inner.of_same {seen' : List UInt64} {world' : World} (h : Inner seen world)
    (hcont : ∃ applied, world'.controller.lockdown = { world.controller.lockdown with applied })
    (harmed : world'.controller.armed = world.controller.armed)
    (hstart : world'.controller.startMs = world.controller.startMs)
    (hhear : world'.controller.lastHeartbeatMs = world.controller.lastHeartbeatMs)
    (hghos : world'.armedAt = world.armedAt ∧ world'.aliveAt = world.aliveAt ∧
      world'.duration = world.duration) (hsubs : seen ⊆ seen') : Inner seen' world' := by
  obtain ⟨applied, hlock⟩ := hcont
  obtain ⟨harme, haliv, hdura⟩ := hghos
  refine ⟨?_, ?_⟩
  · rw [hlock, harmed]
    exact h.desired
  · intro hnow
    have htimed := h.timed (harmed ▸ hnow)
    constructor
    · rw [hstart, harme, htimed.start]
    · rw [hhear, haliv, htimed.heartbeat]
    · rw [hlock, harme]
      exact htimed.innerStart
    · rw [hlock, haliv]
      exact htimed.innerHeartbeat
    · rw [hlock, hdura]
      exact htimed.limit
    · rw [hlock]
      exact htimed.stale
    · rw [harme, haliv]
      exact htimed.order
    · rw [harme]
      exact hsubs htimed.seen

/-- **One step**, at a time that is not before the last arm. -/
lemma Inner.step {seen : List UInt64} (h : Inner seen world)
    (hclock : ∀ earlier ∈ seen, ∀ now ∈ times [event], earlier ≤ now) :
    Inner (seen ++ times [event]) (world.step event) := by
  have hsubs : seen ⊆ seen ++ times [event] := subset_append_left ..
  cases event with
  | beginAttempt => exact h.of_same ⟨_, rfl⟩ rfl rfl rfl ⟨rfl, rfl, rfl⟩ hsubs
  | arm token params client nowMs =>
    rw [step, ExamLockdownController.arm]
    cases hrefu : world.controller.armRefusal token params client with
    | some error => exact h.of_same ⟨_, rfl⟩ rfl rfl rfl ⟨rfl, rfl, rfl⟩ hsubs
    | none =>
      have hseen : nowMs ∈ seen ++ times [.arm token params client nowMs] := by
        simp [times, Event.time?]
      constructor
      · simp only [ExamNetworkLockdown.arm]
      · intro _
        constructor <;> simp only [ExamNetworkLockdown.arm]
        · exact UInt64.le_refl _
        · exact hseen
  | updateDuration durationSeconds =>
    rw [step]
    rcases updateDuration_cases world.controller durationSeconds with ⟨hnone, heq⟩ | ⟨hcond, heq⟩
    · rw [heq, if_neg hnone]
      exact h.of_same ⟨_, rfl⟩ rfl rfl rfl ⟨rfl, rfl, rfl⟩ hsubs
    · rw [heq, if_pos hcond]
      have htimed := h.timed hcond.1
      have hrebu : (if world.controller.lastHeartbeatMs > world.controller.startMs then
          world.controller.lastHeartbeatMs else world.controller.startMs) = world.aliveAt := by
        rw [htimed.heartbeat, htimed.start]
        split
        next => rfl
        next hnot => exact UInt64.le_antisymm htimed.order (UInt64.not_lt.mp hnot)
      refine ⟨hcond.1.symm, fun _ => ⟨htimed.start, htimed.heartbeat, ?_, ?_, ?_, ?_,
        htimed.order, hsubs htimed.seen⟩⟩
      · simp only [rebuilt]
        exact htimed.start
      · simp only [rebuilt]
        exact hrebu
      · simp only [rebuilt]
      · simp only [rebuilt]
  | heartbeat nowMs =>
    rw [step, ExamLockdownController.heartbeat]
    cases harmed : world.controller.armed with
    | false =>
      refine h.of_same ⟨_, rfl⟩ ?_ rfl rfl ⟨rfl, rfl, rfl⟩ hsubs
      rfl
    | true =>
      have htimed := h.timed harmed
      refine ⟨h.desired.trans harmed, fun _ => ⟨htimed.start, rfl, htimed.innerStart, rfl, htimed.limit,
        htimed.stale, ?_, hsubs htimed.seen⟩⟩
      exact hclock _ htimed.seen nowMs (by simp [times, Event.time?])
  | disarm => exact .of_not_armed rfl rfl
  | disarmClear answer =>
    simp only [step]
    split
    · exact h.of_same ⟨_, rfl⟩ rfl rfl rfl ⟨rfl, rfl, rfl⟩ hsubs
    · cases answer <;> exact h.of_same ⟨_, rfl⟩ rfl rfl rfl ⟨rfl, rfl, rfl⟩ hsubs
  | disarmSettle =>
    simp only [step]
    split <;> exact h.of_same ⟨_, rfl⟩ rfl rfl rfl ⟨rfl, rfl, rfl⟩ hsubs
  | tick nowMs answer =>
    obtain ⟨hsame, -, -⟩ := tick_cases world.controller nowMs answer
    rw [step]
    exact h.of_same hsame.lockdown hsame.armed hsame.start hsame.heartbeat ⟨rfl, rfl, rfl⟩ hsubs

/-- **Every run** whose time does not go back. -/
lemma inner_after {events : List Event} (hc : Clocked events) : Inner (times events) (worldAfter events) := by
  induction events using reverseRecOn with
  | nil => exact .of_not_armed rfl rfl
  | append_singleton events event ih =>
    rw [Clocked, times, filterMap_append, pairwise_append] at hc
    rw [worldAfter_concat, times, filterMap_append]
    exact (ih hc.1).step hc.2.2

lemma Inner.of_shouldBlock (h : Inner seen world) {nowMs : UInt64}
    (hb : world.controller.lockdown.shouldBlock nowMs) :
    world.controller.armed ∧ nowMs.toNat ≤ world.armedAt.toNat + activeLimit world.duration ∧
      nowMs.toNat ≤ world.aliveAt.toNat + 90000 := by
  simp only [ExamNetworkLockdown.shouldBlock, Bool.and_eq_true, decide_eq_true_eq] at hb
  obtain ⟨⟨hd, ha⟩, hal⟩ := hb
  have har := h.desired ▸ hd
  have ht := h.timed har
  rw [UInt64.le_iff_toNat_le, toNat_elapsed, ht.innerStart, ht.limit, toNat_maxActive] at ha
  rw [UInt64.le_iff_toNat_le, toNat_elapsed, ht.innerHeartbeat, ht.stale] at hal
  have hs : kDefaultStaleAfterMs.toNat = 90000 := rfl
  refine ⟨har, ?_, ?_⟩ <;> omega

/-! ## Tokens -/

/-- A call after which an older token is no longer the current one. -/
def Event.bumpsEpoch : Event → Bool
  | beginAttempt => true
  | disarm => true
  | _ => false

/-- The number of such calls. -/
def bumps (events : List Event) : ℕ := events.countP Event.bumpsEpoch

lemma bumps_cons (event : Event) (events : List Event) :
    bumps (event :: events) = bumps events + if event.bumpsEpoch then 1 else 0 := countP_cons ..

/-- The epoch moves exactly at the events that bump it. -/
lemma epoch_step (world : World) (event : Event) : (world.step event).controller.currentEpoch =
      world.controller.currentEpoch + if event.bumpsEpoch then 1 else 0 := by
  have hs : world.controller.currentEpoch = world.controller.currentEpoch + 0 :=
    (UInt64.add_zero _).symm
  cases event with
  | beginAttempt => rfl
  | arm token params client nowMs =>
    rw [step, ExamLockdownController.arm]
    cases world.controller.armRefusal token params client <;> exact hs
  | updateDuration durationSeconds =>
    rw [step]
    rcases updateDuration_cases world.controller durationSeconds with ⟨-, he⟩ | ⟨-, he⟩
    · rw [he]
      exact hs
    · rw [he]
      exact hs
  | heartbeat nowMs =>
    rw [step, ExamLockdownController.heartbeat]
    split <;> exact hs
  | disarm => rfl
  | disarmClear answer =>
    simp only [step]
    split
    · exact hs
    · cases answer <;> exact hs
  | disarmSettle =>
    simp only [step]
    split <;> exact hs
  | tick nowMs answer =>
    rw [step]
    exact (tick_cases world.controller nowMs answer).1.epoch.trans hs

lemma epoch_foldl (world : World) (events : List Event) :
    (events.foldl step world).controller.currentEpoch.toNat =
      (world.controller.currentEpoch.toNat + bumps events) % 2 ^ 64 := by
  induction events generalizing world with
  | nil => exact (Nat.mod_eq_of_lt (UInt64.toNat_lt _)).symm
  | cons event events ih =>
    rw [foldl_cons, ih, epoch_step, bumps_cons, UInt64.toNat_add]
    cases event.bumpsEpoch with
    | true =>
      change ((_ + 1) % 2 ^ 64 + _) % 2 ^ 64 = (_ + (_ + 1)) % 2 ^ 64
      omega
    | false =>
      change ((_ + 0) % 2 ^ 64 + _) % 2 ^ 64 = (_ + (_ + 0)) % 2 ^ 64
      omega

lemma token_eq_iff (before between : List Event) : (worldAfter before).controller.beginAttempt.2 =
        (worldAfter (before ++ .beginAttempt :: between)).controller.currentEpoch ↔ 2 ^ 64 ∣ bumps between := by
  have he := epoch_foldl ((worldAfter before).step .beginAttempt) between
  have ht : ((worldAfter before).step .beginAttempt).controller.currentEpoch =
      (worldAfter before).controller.beginAttempt.2 := rfl
  rw [ht] at he
  have ha : worldAfter (before ++ .beginAttempt :: between) =
      between.foldl step ((worldAfter before).step .beginAttempt) := by
    rw [worldAfter, foldl_append]
    rfl
  rw [ha, ← UInt64.toNat_inj, he]
  have hl := (worldAfter before).controller.beginAttempt.2.toNat_lt
  omega

lemma arm_stale {controller : ExamLockdownController} {token : UInt64} (h : token ≠ controller.currentEpoch)
    (params : ExamLockdownArmParams) (client : ClientId) (nowMs : UInt64) :
    controller.arm token params client nowMs = .error "stale or invalid arm token" := by
  rw [ExamLockdownController.arm, ExamLockdownController.armRefusal, if_pos h]

/-- **The lockdown fails safe**, on every run whose time does not go back.  After a tick whose clear
function succeeds if it is called, nothing is blocked when no exam is armed, when the exam has run out
or when it has shown no sign of life for 90 seconds; `update_duration` does not move the start; and a
token that has been followed by a `begin_attempt` or a `disarm` is refused, unless the number of these
calls is a multiple of `2 ^ 64`. -/
theorem lockdown_fails_safe (events : List Event) (hclocked : Clocked events) :
    (∀ before nowMs answer after, events = before ++ .tick nowMs answer :: after →
      (callsClear (worldAfter before).controller nowMs = true → answer = none) →
      ((worldAfter before).controller.armed = false ∨
        (worldAfter before).armedAt.toNat + activeLimit (worldAfter before).duration < nowMs.toNat ∨
        (worldAfter before).aliveAt.toNat + 90000 < nowMs.toNat) →
      (worldAfter (before ++ [.tick nowMs answer])).controller.actuallyBlocked = false) ∧
    (∀ before durationSeconds after, events = before ++ .updateDuration durationSeconds :: after →
      (worldAfter (before ++ [.updateDuration durationSeconds])).controller.lockdown.startMs =
        (worldAfter before).controller.lockdown.startMs ∧ ((worldAfter before).controller.armed = true →
        (worldAfter before).controller.lockdown.startMs = (worldAfter before).armedAt)) ∧
    (∀ before between params client nowMs after, events = before ++ .beginAttempt :: (between ++ .arm
        (worldAfter before).controller.beginAttempt.2 params client nowMs :: after) → ¬ 2 ^ 64 ∣ bumps between →
      (worldAfter (before ++ .beginAttempt :: between)).controller.arm
        (worldAfter before).controller.beginAttempt.2 params client nowMs = .error "stale or invalid arm token") := by
  have hinner : ∀ before after, events = before ++ after → Inner (times before) (worldAfter before) := by
    rintro before after rfl
    refine inner_after ?_
    rw [Clocked, times, List.filterMap_append] at hclocked
    exact (List.pairwise_append.mp hclocked).1
  refine ⟨?_, ?_, ?_⟩
  · intro before nowMs answer after hevents hanswer hover
    rw [worldAfter_concat, World.step]
    by_contra hblocked
    have hblock := (tick_cases _ nowMs answer).2.2 hanswer (by simpa using hblocked)
    obtain ⟨harmed, hactive, halive⟩ := (hinner before _ hevents).of_shouldBlock hblock
    rcases hover with hover | hover | hover
    · rw [harmed] at hover
      cases hover
    · omega
    · omega
  · intro before durationSeconds after hevents
    have h := hinner before _ hevents
    refine ⟨?_, fun harmed => (h.timed harmed).innerStart⟩
    rw [worldAfter_concat, World.step]
    rcases updateDuration_cases (worldAfter before).controller durationSeconds with
      ⟨-, heq⟩ | ⟨hcondition, heq⟩
    · rw [heq]
    · have htimed := h.timed hcondition.1
      rw [heq, htimed.innerStart, ← htimed.start]
      simp only [rebuilt]
  · intro before between params client nowMs after _ hbumps
    exact arm_stale (fun heq => hbumps ((token_eq_iff before between).mp heq)) params client nowMs

/-- An exam that shows no sign of life for more than 90 seconds is no longer blocked. -/
theorem lockdown_fails_safe_silent :
    (worldAfter ([.beginAttempt, .arm 1 (examFor 1) (Block.fill 16 2) 1000, .tick 2000 none] ++
        [.tick 200000 none])).controller.actuallyBlocked = false :=
  (lockdown_fails_safe [.beginAttempt, .arm 1 (examFor 1) (Block.fill 16 2) 1000, .tick 2000 none,
    .tick 200000 none] (by decide +kernel)).1 _ 200000 none [] rfl (fun _ => rfl)
      (Or.inr (Or.inr (by decide +kernel)))

lemma bumps_replicate_disarm (n : ℕ) : bumps (replicate n .disarm) = n := by
  rw [bumps, countP_replicate]
  rfl

/-- A token that is older than `2 ^ 64` calls of `disarm` arms. -/
theorem token_returns : ¬ ∀ before between params client nowMs, Clocked (before ++ .beginAttempt :: (between ++ [.arm
        (worldAfter before).controller.beginAttempt.2 params client nowMs])) → 0 < bumps between →
      ∃ error, (worldAfter (before ++ .beginAttempt :: between)).controller.arm
        (worldAfter before).controller.beginAttempt.2 params client nowMs = .error error := by
  intro h
  have hclocked : ∀ n : ℕ, Clocked ([] ++ .beginAttempt :: (List.replicate n .disarm ++ [.arm
      (worldAfter []).controller.beginAttempt.2 (examFor 1) (Block.fill 16 2) 1000])) := by
    intro n
    have hnone : times (List.replicate n .disarm) = [] := by
      rw [times, List.filterMap_eq_nil_iff]
      intro event hevent
      rw [List.eq_of_mem_replicate hevent]
      rfl
    rw [times] at hnone
    rw [Clocked, times, List.nil_append, List.filterMap_cons_none rfl, List.filterMap_append, hnone]
    exact List.pairwise_singleton _ _
  obtain ⟨error, herror⟩ := h [] (List.replicate (2 ^ 64) .disarm) (examFor 1) (Block.fill 16 2) 1000
    (hclocked _) (by rw [bumps_replicate_disarm]; decide)
  have hcurrent := (token_eq_iff [] (List.replicate (2 ^ 64) .disarm)).mpr (by rw [bumps_replicate_disarm])
  generalize (worldAfter ([] ++ .beginAttempt :: List.replicate (2 ^ 64) .disarm)).controller =
    controller at herror hcurrent
  generalize (worldAfter []).controller.beginAttempt.2 = token at herror hcurrent
  have hrefusal : controller.armRefusal token (examFor 1) (Block.fill 16 2) = none := by
    rw [ExamLockdownController.armRefusal, if_neg (not_not.mpr hcurrent)]
    decide +kernel
  rw [ExamLockdownController.arm, hrefusal] at herror
  cases herror

end Nstu.Client.Lockdown
