import Nstu.Client.Lockdown

/-!
# Runs of the lockdown controller

Two properties of every run.

**The filter.**  While an exam is armed and its block is up, the filter in force is the one of that
exam, provided that every arm finds the field clear: no `disarm` still under way, and no filter of
another exam (`ArmsClean`, `filter_matches_exam`).  Nothing in the controller sees to that.  An arm
over a block that is still up keeps the old filter in force (`second_exam_keeps_filter`).

**Fail-safe.**  A tick whose callback succeeds leaves no block up once the exam has been stopped, has
run out or has shown no sign of life (`lockdown_fails_safe`).
-/

namespace Nstu.Client.Lockdown

open Wire
open World (step)

variable {world : World} {event : Event}

/-- The inner machine that `update_duration` builds: with the filter, the start and the last heartbeat
that the controller has. -/
def rebuilt (controller : ExamLockdownController) (durationSeconds : UInt32) : ExamNetworkLockdown where
  config := controller.lockdown.config
  maxActiveMs := maxActive durationSeconds
  staleAfterMs := kDefaultStaleAfterMs
  startMs := controller.startMs
  lastHeartbeatMs :=
    if controller.lastHeartbeatMs > controller.startMs then controller.lastHeartbeatMs
    else controller.startMs
  desired := true

lemma rebuilt_config (controller : ExamLockdownController) (durationSeconds : UInt32) :
    (rebuilt controller durationSeconds).config = controller.lockdown.config := by
  simp only [rebuilt]

/-- Only an armed controller takes a new duration. -/
lemma updateDuration_cases (controller : ExamLockdownController) (durationSeconds : UInt32) :
    ¬ (controller.armed ∧ durationSeconds ≠ 0) ∧ controller.updateDuration durationSeconds = controller ∨
      (controller.armed ∧ durationSeconds ≠ 0) ∧ controller.updateDuration durationSeconds =
          { controller with durationSeconds, lockdown := rebuilt controller durationSeconds } := by
  unfold ExamLockdownController.updateDuration
  by_cases hc : controller.armed ∧ durationSeconds ≠ 0
  · refine .inr ⟨hc, ?_⟩
    rw [if_neg (by simpa using hc)]
    by_cases hh : controller.lastHeartbeatMs > controller.startMs
    · simp only [hh, if_true, rebuilt, ExamNetworkLockdown.arm, ExamNetworkLockdown.heartbeat]
    · simp only [hh, if_false, rebuilt, ExamNetworkLockdown.arm]
  · refine .inl ⟨hc, if_pos ?_⟩
    rw [not_and_or, not_not] at hc
    simpa using hc

/-! ## The filter -/

/-- What the filter has to do with the exam that is armed. -/
structure FilterMatches (world : World) : Prop where
  config : world.controller.armed = true → world.controller.lockdown.config = world.armedConfig
  quiet : world.controller.armed = true → world.clearing = 0 ∧ world.settling = 0
  inForce : world.controller.armed = true → world.controller.actuallyBlocked = true →
    world.inForce = some world.armedConfig

/-- An arm that is accepted finds no `disarm` under way and no filter other than its own. -/
def ArmsClean (world : World) : Event → Prop
  | .arm token params configuredClientId _ =>
    world.controller.armRefusal token params configuredClientId = none → world.clearing = 0 ∧ world.settling = 0 ∧
        (world.controller.actuallyBlocked = true → world.inForce = some (configOf params))
  | _ => True

lemma FilterMatches.of_not_armed (h : world.controller.armed = false) : FilterMatches world := by
  constructor
  · intro ha
    rw [h] at ha
    cases ha
  · intro ha
    rw [h] at ha
    cases ha
  · intro ha
    rw [h] at ha
    cases ha

/-- A tick keeps the filter matching the lockdown. -/
lemma FilterMatches.step_tick (h : FilterMatches world) (nowMs : UInt64) (answer : Answer) :
    FilterMatches (world.step (.tick nowMs answer)) := by
  obtain ⟨hsame, hresu, -⟩ := tick_cases world.controller nowMs answer
  obtain ⟨applied, hlock⟩ := hsame.lockdown
  have hconf : (world.controller.tick nowMs answer).1.armed →
      (world.controller.tick nowMs answer).1.lockdown.config = world.armedConfig := by
    intro harmed
    rw [hlock]
    exact h.config (hsame.armed ▸ harmed)
  rw [step]
  refine ⟨hconf, ?_, ?_⟩
  · intro harmed
    exact h.quiet (hsame.armed ▸ harmed)
  · intro harmed hbloc
    rcases hresu with ⟨hacti, -⟩ | ⟨-, hclea⟩ | ⟨hacti, hunch⟩
    · simp only [hacti]
      rw [hconf harmed]
    · exact absurd (hclea.symm.trans hbloc) (by decide)
    · simp only [hacti]
      exact h.inForce (hsame.armed ▸ harmed) (hunch ▸ hbloc)

/-- **One step.** -/
lemma FilterMatches.step (h : FilterMatches world) (hclean : ArmsClean world event) :
    FilterMatches (world.step event) := by
  cases event with
  | beginAttempt => exact ⟨h.config, h.quiet, h.inForce⟩
  | arm token params client nowMs =>
    rw [step, ExamLockdownController.arm]
    cases hrefu : world.controller.armRefusal token params client with
    | some error => exact h
    | none =>
      obtain ⟨hclea, hsett, hinFo⟩ := hclean hrefu
      exact ⟨fun _ => rfl, fun _ => ⟨hclea, hsett⟩, fun _ hbloc => hinFo hbloc⟩
  | updateDuration durationSeconds =>
    rw [step]
    rcases updateDuration_cases world.controller durationSeconds with ⟨-, heq⟩ | ⟨-, heq⟩
    · rw [heq]
      exact ⟨h.config, h.quiet, h.inForce⟩
    · rw [heq]
      exact ⟨fun harmed => (rebuilt_config ..).trans (h.config harmed), h.quiet, h.inForce⟩
  | heartbeat nowMs =>
    rw [step, ExamLockdownController.heartbeat]
    split
    · exact ⟨h.config, h.quiet, h.inForce⟩
    · exact ⟨h.config, h.quiet, h.inForce⟩
  | disarm => exact .of_not_armed rfl
  | disarmClear answer =>
    simp only [step]
    split
    next => exact h
    next hcalls =>
      cases harmed : world.controller.armed with
      | true => exact absurd (h.quiet harmed).1 hcalls
      | false => cases answer <;> exact .of_not_armed harmed
  | disarmSettle =>
    simp only [step]
    split
    next => exact h
    next hcalls =>
      cases harmed : world.controller.armed with
      | true => exact absurd (h.quiet harmed).2 hcalls
      | false => exact .of_not_armed harmed
  | tick nowMs answer => exact h.step_tick nowMs answer

/-- Every arm of a run that is accepted finds the field clear. -/
def CleanRun (world : World) : List Event → Prop
  | [] => True
  | event :: events => ArmsClean world event ∧ CleanRun (world.step event) events

lemma cleanRun_append {events events' : List Event} : CleanRun world (events ++ events') ↔
      CleanRun world events ∧ CleanRun (events.foldl step world) events' := by
  induction events generalizing world with
  | nil => simp [CleanRun]
  | cons event events ih => simp [CleanRun, ih, and_assoc]

/-- **Every run.** -/
lemma filterMatches_foldl {events : List Event} (h : FilterMatches world)
    (hc : CleanRun world events) : FilterMatches (events.foldl step world) := by
  induction events generalizing world with
  | nil => exact h
  | cons event events ih => exact ih (h.step hc.1) hc.2

/-- **The network block matches the exam** on every run in which each accepted arm finds no `disarm`
under way and no filter but its own in force: after a tick, where an exam is armed and the block is
up, what was last applied and not cleared since is the filter of that exam. -/
theorem filter_matches_exam (events : List Event) (hclean : CleanRun {} events) :
    ∀ before nowMs answer after, events = before ++ .tick nowMs answer :: after →
      (worldAfter (before ++ [.tick nowMs answer])).controller.armed = true →
      (worldAfter (before ++ [.tick nowMs answer])).controller.actuallyBlocked = true →
      (worldAfter (before ++ [.tick nowMs answer])).inForce =
        some (worldAfter (before ++ [.tick nowMs answer])).armedConfig := by
  rintro before nowMs answer after rfl harmed hblocked
  rw [List.append_cons, cleanRun_append] at hclean
  exact (filterMatches_foldl (.of_not_armed rfl) hclean.1).inForce harmed hblocked

/-- The parameters of an exam with one allowed address. -/
def examFor (address : UInt32) : ExamLockdownArmParams where
  sessionId := Block.fill 16 1
  clientId := Block.fill 16 2
  packageVerified := true
  durationSeconds := 3600
  allowedIpv4 := [address]

/-- An exam starts, its block goes up, and another exam starts without a stop in between. -/
def secondExam : List Event :=
  [.beginAttempt, .arm 1 (examFor 1) (Block.fill 16 2) 1000, .tick 2000 none,
    .beginAttempt, .arm 2 (examFor 2) (Block.fill 16 2) 3000, .tick 4000 none]

/-- The second exam is armed, neither expired nor stale, and blocked with the filter of the first. -/
theorem second_exam_keeps_filter : ¬ ∀ events nowMs answer,
      (worldAfter (events ++ [.tick nowMs answer])).controller.armed = true →
      (worldAfter (events ++ [.tick nowMs answer])).controller.lockdown.applied = true →
      (worldAfter (events ++ [.tick nowMs answer])).controller.actuallyBlocked = true →
      (worldAfter (events ++ [.tick nowMs answer])).inForce =
        some (worldAfter (events ++ [.tick nowMs answer])).armedConfig := by
  intro h
  have hlast := h (secondExam.take 5) 4000 none (by decide +kernel) (by decide +kernel)
    (by decide +kernel)
  exact absurd hlast (by decide +kernel)

/-- One exam after another, with a stop in between. -/
theorem filter_matches_exam_stopped :
    (worldAfter ([.beginAttempt, .arm 1 (examFor 1) (Block.fill 16 2) 1000, .tick 2000 none, .disarm,
        .disarmClear none, .disarmSettle, .beginAttempt,
        .arm 3 (examFor 2) (Block.fill 16 2) 3000] ++ [.tick 4000 none])).inForce = some (configOf (examFor 2)) := by
  refine (filter_matches_exam [.beginAttempt, .arm 1 (examFor 1) (Block.fill 16 2) 1000,
    .tick 2000 none, .disarm, .disarmClear none, .disarmSettle, .beginAttempt,
    .arm 3 (examFor 2) (Block.fill 16 2) 3000, .tick 4000 none] ?_ _ 4000 none [] rfl
    (by decide +kernel) (by decide +kernel)).trans (by decide +kernel)
  refine ⟨trivial, ?_, trivial, trivial, trivial, trivial, trivial, ?_, trivial, trivial⟩
  · exact fun _ => ⟨rfl, rfl, fun hblocked => by cases hblocked⟩
  · exact fun _ => ⟨by decide +kernel, by decide +kernel, by decide +kernel⟩

end Nstu.Client.Lockdown
