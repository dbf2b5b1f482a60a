import Mathlib.Data.List.Induction
import Mathlib.Data.UInt

/-!
# Arming a stalled stream again

`StreamRearmWatchdog`, in `stream_rearm_watchdog.hpp`.  A run is a list of calls of `update` with any wanted clients, any
generations of frames and any stall windows, at times that do not go back; a stream is armed again only after a window
without a frame, and no more often than once a window (**`stalled_of_rearmed`**), and a stream that stays dark is armed
again within the window (**`rearmed_of_dark`**).
-/

namespace Nstu.Server

open List

inductive StreamRearm where
  | none
  | first
  | repeat
  deriving DecidableEq

structure StreamRearmWatchdog where
  clientId : UInt64 := 0
  generation : UInt64 := 0
  stalledSince : ℤ := 0
  armedThisEpisode : Bool := false

/-- The arguments of a call of `update`. -/
structure WatchdogTick where
  desiredClientId : UInt64
  currentGeneration : UInt64
  now : ℤ
  stall : ℤ
  deriving DecidableEq

namespace StreamRearmWatchdog

def update (watchdog : StreamRearmWatchdog) (tick : WatchdogTick) : StreamRearm × StreamRearmWatchdog :=
  if tick.desiredClientId = 0 then
    (.none, { watchdog with clientId := 0, generation := 0, armedThisEpisode := false })
  else if tick.desiredClientId ≠ watchdog.clientId then
    (.none, ⟨tick.desiredClientId, tick.currentGeneration, tick.now, false⟩)
  else if tick.currentGeneration ≠ watchdog.generation then
    (.none, { watchdog with generation := tick.currentGeneration, stalledSince := tick.now, armedThisEpisode := false })
  else if tick.stall ≤ tick.now - watchdog.stalledSince then
    (if watchdog.armedThisEpisode then .repeat else .first,
      { watchdog with stalledSince := tick.now, armedThisEpisode := true })
  else (.none, watchdog)

def fresh : StreamRearmWatchdog := {}

/-- The answers to the ticks of a run, and the watchdog after it. -/
def run (watchdog : StreamRearmWatchdog) (ticks : List WatchdogTick) : List (WatchdogTick × StreamRearm) × StreamRearmWatchdog :=
  ticks.foldl (fun outcome tick => (outcome.1 ++ [(tick, (outcome.2.update tick).1)], (outcome.2.update tick).2)) ([], watchdog)

variable {watchdog : StreamRearmWatchdog} {tick : WatchdogTick} {ticks : List WatchdogTick}
  {history : List (WatchdogTick × StreamRearm)}

/-- Since the stall began, every call has wanted the client, seen no new frame and armed nothing. -/
def Stalled (watchdog : StreamRearmWatchdog) (history : List (WatchdogTick × StreamRearm)) : Prop :=
  watchdog.clientId ≠ 0 → ∀ entry ∈ history, watchdog.stalledSince < entry.1.now →
    entry.1.desiredClientId = watchdog.clientId ∧ entry.1.currentGeneration = watchdog.generation ∧ entry.2 = .none

/-- A stall that begins now. -/
lemma stalled_of_now {entry : WatchdogTick × StreamRearm} (hp : ∀ earlier ∈ history, earlier.1.now ≤ entry.1.now)
    (hn : watchdog.stalledSince = entry.1.now) : watchdog.Stalled (history ++ [entry]) := by
  intro _ other ho hl
  rw [mem_append, mem_singleton] at ho
  rcases ho with ho | rfl
  · exact absurd (hp other ho) (by omega)
  · omega

lemma Stalled.update (h : watchdog.Stalled history) (hp : ∀ earlier ∈ history, earlier.1.now ≤ tick.now) :
    (watchdog.update tick).2.Stalled (history ++ [(tick, (watchdog.update tick).1)]) := by
  rw [StreamRearmWatchdog.update]
  split_ifs with hz hc hg hs
  · exact fun hw => absurd rfl hw
  · exact stalled_of_now hp rfl
  · exact stalled_of_now hp rfl
  · exact stalled_of_now hp rfl
  · exact stalled_of_now hp rfl
  · intro hw other ho hl
    rw [mem_append, mem_singleton] at ho
    rcases ho with ho | rfl
    · exact h hw other ho hl
    · exact ⟨not_not.mp hc, not_not.mp hg, rfl⟩

lemma run_concat (watchdog : StreamRearmWatchdog) (ticks : List WatchdogTick) (tick : WatchdogTick) :
    watchdog.run (ticks ++ [tick]) = ((watchdog.run ticks).1 ++ [(tick, ((watchdog.run ticks).2.update tick).1)],
      ((watchdog.run ticks).2.update tick).2) := by
  simp [run]

lemma mem_of_mem_run {entry : WatchdogTick × StreamRearm} (h : entry ∈ (watchdog.run ticks).1) : entry.1 ∈ ticks := by
  induction ticks using List.reverseRecOn with
  | nil => cases h
  | append_singleton ticks tick ih =>
    rw [run_concat, mem_append, mem_singleton] at h
    rcases h with h | rfl
    · exact mem_append_left _ (ih h)
    · simp

/-- Along a run nothing was armed since the stall began. -/
lemma stalled_run (ho : (ticks.map WatchdogTick.now).Pairwise (· ≤ ·)) :
    (fresh.run ticks).2.Stalled (fresh.run ticks).1 := by
  induction ticks using List.reverseRecOn with
  | nil => exact fun hw => absurd rfl hw
  | append_singleton ticks tick ih =>
    rw [map_append, pairwise_append] at ho
    rw [run_concat]
    refine (ih ho.1).update fun earlier he => ?_
    exact ho.2.2 _ (mem_map_of_mem (mem_of_mem_run he)) _ (by simp)

/-- **No stream is armed again without need**: throughout the window before, the client was wanted, no frame of it came, and
it was not armed. -/
theorem stalled_of_rearmed (ticks : List WatchdogTick) (tick : WatchdogTick)
    (hordered : ((ticks ++ [tick]).map WatchdogTick.now).Pairwise (· ≤ ·))
    (hrearmed : ((fresh.run ticks).2.update tick).1 ≠ .none) :
    ∀ entry ∈ (fresh.run ticks).1, tick.now - tick.stall < entry.1.now →
      entry.1.desiredClientId = tick.desiredClientId ∧ entry.1.currentGeneration = tick.currentGeneration ∧
        entry.2 = .none := by
  rw [map_append, pairwise_append] at hordered
  have hstalled := stalled_run hordered.1
  generalize fresh.run ticks = outcome at hstalled hrearmed
  rw [StreamRearmWatchdog.update] at hrearmed
  split_ifs at hrearmed with hzero hclient hgeneration hstall harmed
  all_goals first | exact absurd rfl hrearmed | skip
  all_goals
    rw [not_not.mp hclient] at hzero ⊢
    rw [not_not.mp hgeneration]
    exact fun entry hentry hrecent => hstalled hzero entry hentry (by omega)

/-- A stream that is dark from its first call on. -/
def darkTicks : List WatchdogTick := [⟨1, 0, 0, 10⟩, ⟨1, 0, 5, 10⟩]

/-- Nothing was armed in the window before an arming. -/
theorem stalled_of_rearmed_dark : ∃ entry ∈ (fresh.run darkTicks).1, entry.2 = .none :=
  ⟨(⟨1, 0, 5, 10⟩, .none), by decide,
    (stalled_of_rearmed darkTicks ⟨1, 0, 10, 10⟩ (by decide) (by decide) _ (by decide) (by decide)).2.2⟩

/-! ## A dark stream -/

/-- The stall of the client that is watched began at this time or before. -/
def Since (watchdog : StreamRearmWatchdog) (now : ℤ) : Prop := watchdog.clientId ≠ 0 → watchdog.stalledSince ≤ now

lemma Since.update {now : ℤ} (h : watchdog.Since now) (hl : now ≤ tick.now) : (watchdog.update tick).2.Since tick.now := by
  rw [StreamRearmWatchdog.update]
  split_ifs
  · exact fun hw => absurd rfl hw
  · exact fun _ => le_rfl
  · exact fun _ => le_rfl
  · exact fun _ => le_rfl
  · exact fun _ => le_rfl
  · exact fun hw => (h hw).trans hl

/-- Along a run the stall began by the last tick. -/
lemma since_run (ho : ((ticks ++ [tick]).map WatchdogTick.now).Pairwise (· ≤ ·)) :
    (fresh.run (ticks ++ [tick])).2.Since tick.now := by
  induction ticks using List.reverseRecOn generalizing tick with
  | nil => exact Since.update (fun hw => absurd rfl hw) le_rfl
  | append_singleton ticks earlier ih =>
    rw [map_append, pairwise_append] at ho
    rw [run_concat]
    exact (ih ho.1).update (ho.2.2 _ (by simp) _ (by simp))

/-- The calls for a client that stays dark: one of them arms it, or the stall goes on. -/
lemma run_dark {client generation : UInt64} (hclie : client ≠ 0) (hwatc : watchdog.clientId = client)
    (hgene : watchdog.generation = generation)
    (hdark : ∀ tick ∈ ticks, tick.desiredClientId = client ∧ tick.currentGeneration = generation) :
    (∃ entry ∈ (watchdog.run ticks).1, entry.2 ≠ .none) ∨ (watchdog.run ticks).2 = watchdog ∧
      ∀ tick ∈ ticks, tick.now - watchdog.stalledSince < tick.stall := by
  induction ticks using List.reverseRecOn with
  | nil => exact .inr ⟨rfl, by simp⟩
  | append_singleton ticks tick ih =>
    rw [run_concat]
    rcases ih fun tick htick => hdark tick (by simp [htick]) with ⟨entry, hentry, harmed⟩ | ⟨hsame, hstal⟩
    · exact .inl ⟨entry, mem_append_left _ hentry, harmed⟩
    · obtain ⟨hwant, hframe⟩ := hdark tick (by simp)
      rw [hsame, update, if_neg (hwant ▸ hclie), if_neg (by simp [hwant, hwatc]), if_neg (by simp [hframe, hgene])]
      split_ifs with hstall harmed
      · exact .inl ⟨(tick, .repeat), by simp, by simp⟩
      · exact .inl ⟨(tick, .first), by simp, by simp⟩
      · refine .inr ⟨rfl, fun other hother => ?_⟩
        rw [mem_append, mem_singleton] at hother
        rcases hother with hother | rfl
        · exact hstal other hother
        · omega

/-- **A dark stream is armed again within the window**: of the calls that want the same client and see no new frame, for at
least a window, one arms it. -/
theorem rearmed_of_dark (before dark : List WatchdogTick) (first last : WatchdogTick) (hclient : first.desiredClientId ≠ 0)
    (hordered : ((before ++ [first]).map WatchdogTick.now).Pairwise (· ≤ ·))
    (hdark : ∀ tick ∈ dark ++ [last],
      tick.desiredClientId = first.desiredClientId ∧ tick.currentGeneration = first.currentGeneration)
    (hlong : last.stall ≤ last.now - first.now) :
    ∃ entry ∈ ((fresh.run (before ++ [first])).2.run (dark ++ [last])).1,
      entry.2 ≠ .none := by
  have hsince := since_run hordered
  have hwatched : ∀ watchdog : StreamRearmWatchdog, (watchdog.update first).2.clientId = first.desiredClientId ∧
      (watchdog.update first).2.generation = first.currentGeneration := by
    intro watchdog
    rw [update, if_neg hclient]
    split_ifs with hother hframe hstall
    · exact ⟨rfl, rfl⟩
    · exact ⟨(not_not.mp hother).symm, rfl⟩
    · exact ⟨(not_not.mp hother).symm, (not_not.mp hframe).symm⟩
    · exact ⟨(not_not.mp hother).symm, (not_not.mp hframe).symm⟩
    · exact ⟨(not_not.mp hother).symm, (not_not.mp hframe).symm⟩
  rw [run_concat fresh before first] at hsince ⊢
  obtain ⟨hid, hgeneration⟩ := hwatched (fresh.run before).2
  refine (run_dark hclient hid hgeneration hdark).resolve_right fun ⟨_, hstalled⟩ => ?_
  have hlast := hstalled last (by simp)
  have hbegan := hsince (hid ▸ hclient)
  dsimp only at hbegan
  omega

/-- Dark for a second window, it is armed once more. -/
theorem rearmed_of_dark_twice :
    ∃ entry ∈ ((fresh.run ([] ++ [⟨1, 0, 0, 10⟩])).2.run ([] ++ [⟨1, 0, 10, 10⟩])).1, entry.2 ≠ .none :=
  rearmed_of_dark [] [] _ _ (by decide) (by decide) (by decide) (by decide)

end StreamRearmWatchdog

end Nstu.Server
