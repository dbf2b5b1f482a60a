import Nstu.Core.Wire
import Nstu.Core.Map

/-!
# The limit on handshakes

`HandshakeRateLimiter` of `rate_limiter.cpp`: a source whose handshakes fail too often within a window
is blocked for a while.

A time is what `steady_clock` shows, in nanoseconds since its start.  The sources are in an unordered
map; in which order it is gone through is part of the call that does so.

A block is honoured unless a failure of the blocked source comes after its window (`blocks_iff`):
that failure opens a new window, and the block goes with the old one.
-/

namespace Nstu.Control.RateLimiter

open Wire Std Option List

def nanoseconds (seconds : ℕ) : ℕ := seconds * 1000000000

/-- `HandshakeRateLimitPolicy`, with the window and the block in seconds. -/
structure Policy where
  maximumSources : ℕ := 4096
  maximumFailures : ℕ := 5
  window : ℤ := 60
  block : ℤ := 300

structure Entry where
  failures : ℕ := 0
  windowStart : ℕ := 0
  blockedUntil : ℕ := 0
  lastSeen : ℕ := 0
  deriving DecidableEq

abbrev Sources := ExtTreeMap Bytes Entry

/-- An order in which the map is gone through: every source once. -/
structure Iteration where
  order : Sources → List (Bytes × Entry)
  perm : ∀ sources, (order sources).Perm sources.toList

/-- The policy as the constructor leaves it: at least one source and one failure, and a second. -/
structure Limits where
  maximumSources : ℕ
  maximumFailures : ℕ
  window : ℕ
  block : ℕ
  sources_pos : 0 < maximumSources
  failures_pos : 0 < maximumFailures
  window_pos : 0 < window
  block_pos : 0 < block

/-- The constructor. -/
def Limits.ofPolicy (policy : Policy) : Limits where
  maximumSources := max policy.maximumSources 1
  maximumFailures := max policy.maximumFailures 1
  window := nanoseconds (max policy.window 1).toNat
  block := nanoseconds (max policy.block 1).toNat
  sources_pos := by omega
  failures_pos := by omega
  window_pos := by simp only [nanoseconds]; omega
  block_pos := by simp only [nanoseconds]; omega

variable (limits : Limits)

/-- `reset_window_locked`. -/
def resetWindow (entry : Entry) (now : ℕ) : Entry :=
  let entry :=
    if entry.windowStart = 0 || now - entry.windowStart ≥ limits.window then
      { entry with failures := 0, windowStart := now, blockedUntil := 0 }
    else entry
  if entry.blockedUntil ≤ now then { entry with blockedUntil := 0 } else entry

/-- The failure is counted, and the last one that is let pass begins a block. -/
def counted (entry : Entry) (now : ℕ) : Entry :=
  let entry := { entry with lastSeen := now }
  let entry :=
    if entry.failures < limits.maximumFailures then { entry with failures := entry.failures + 1 }
    else entry
  if entry.failures ≥ limits.maximumFailures then { entry with blockedUntil := now + limits.block }
  else entry

/-- What `record_failure` makes of the source's entry, which is empty for a new one. -/
def failed (found : Option Entry) (now : ℕ) : Entry :=
  match found with
  | none => counted limits { windowStart := now } now
  | some entry => counted limits (resetWindow limits entry now) now

/-- The first of those seen the longest time ago. -/
def oldest : List (Bytes × Entry) → Option Bytes
  | [] => none
  | first :: rest =>
    some (rest.foldl (fun best item => if item.2.lastSeen < best.2.lastSeen then item else best)
      first).1

/-- `trim_locked`; every round takes one source away, so there are no more rounds than sources. -/
def trimFrom (iteration : Iteration) : ℕ → Sources → Sources
  | 0, sources => sources
  | rounds + 1, sources =>
    if sources.size > limits.maximumSources then
      match oldest (iteration.order sources) with
      | none => sources
      | some victim => trimFrom iteration rounds (sources.erase victim)
    else sources

def trim (iteration : Iteration) (sources : Sources) : Sources :=
  trimFrom limits iteration sources.size sources

def allow (sources : Sources) (source : Bytes) (now : ℕ) : Sources × Bool :=
  if source.isEmpty then (sources, false)
  else match sources[source]? with
  | none => (sources, true)
  | some entry =>
    let entry := { entry with lastSeen := now }
    if entry.blockedUntil > now then (sources.insert source entry, false)
    else
      let entry := resetWindow limits entry now
      (sources.insert source entry, entry.failures < limits.maximumFailures)

def recordFailure (iteration : Iteration) (sources : Sources) (source : Bytes) (now : ℕ) : Sources :=
  if source.isEmpty then sources
  else trim limits iteration (sources.insert source (failed limits sources[source]? now))

def recordSuccess (sources : Sources) (source : Bytes) : Sources :=
  if source.isEmpty then sources else sources.erase source

/-! ## Runs -/

inductive Event where
  | allow (source : Bytes) (now : ℕ)
  | failure (source : Bytes) (now : ℕ) (iteration : Iteration)
  | success (source : Bytes)

/-- The time of a call that has one. -/
def Event.time : Event → Option ℕ
  | .allow _ now => some now
  | .failure _ now _ => some now
  | .success _ => none

/-- One query or outcome recorded for a source. -/
def step (sources : Sources) : Event → Sources
  | .allow source now => (allow limits sources source now).1
  | .failure source now iteration => recordFailure limits iteration sources source now
  | .success source => recordSuccess sources source

def afterEvents (sources : Sources) (events : List Event) : Sources :=
  events.foldl (step limits) sources

/-- **Blocks are honoured.**  A failure of a blocked source never brings the end of the block forward,
and a source that a failure has left blocked is not allowed before the end of the block, as long as
its entry is there: it goes when the source succeeds, or is evicted. -/
structure HonoursBlocks (events : List Event) : Prop where
  prolongs : ∀ before source now iteration after,
    events = before ++ .failure source now iteration :: after → ∀ entry entry',
      (afterEvents limits ∅ before)[source]? = some entry → now < entry.blockedUntil →
      (recordFailure limits iteration (afterEvents limits ∅ before) source now)[source]? =
        some entry' → entry.blockedUntil ≤ entry'.blockedUntil
  refuses : ∀ before source now iteration middle later after,
    events = before ++ .failure source now iteration :: (middle ++ .allow source later :: after) →
      let start := recordFailure limits iteration (afterEvents limits ∅ before) source now
      ∀ entry, start[source]? = some entry → now < entry.blockedUntil →
        (∀ events', events' <+: middle → source ∈ afterEvents limits start events') →
        later < entry.blockedUntil →
        (allow limits (afterEvents limits start middle) source later).2 = false

/-- A failure of a blocked source comes within its window, or is enough for a block of its own.  A
window that starts with the clock itself is over at once. -/
def InWindow (sources : Sources) : Event → Prop
  | .failure source now _ => ∀ entry, sources[source]? = some entry → now < entry.blockedUntil →
      limits.maximumFailures = 1 ∨ entry.windowStart ≠ 0 ∧ now - entry.windowStart < limits.window
  | _ => True

/-- Every failure of a run does. -/
def FailsInWindow (events : List Event) : Prop :=
  ∀ before event after, events = before ++ event :: after → InWindow limits (afterEvents limits ∅ before) event

variable {limits}

/-! ## Eviction -/

variable {iteration : Iteration}

lemma getElem?_trimFrom {source : Bytes} {entry : Entry} (rounds : ℕ)
    {sources : Sources} (h : (trimFrom limits iteration rounds sources)[source]? = some entry) :
    sources[source]? = some entry := by
  induction rounds generalizing sources with
  | zero => exact h
  | succ rounds ih =>
    rw [trimFrom] at h
    split at h
    · split at h
      · exact h
      · have he := ih h
        rw [ExtTreeMap.getElem?_erase] at he
        split at he
        · contradiction
        · exact he
    · exact h

lemma oldest_mem {items : List (Bytes × Entry)} {victim : Bytes} (h : oldest items = some victim) :
    ∃ entry, (victim, entry) ∈ items := by
  have hf : ∀ (rest : List (Bytes × Entry)) (first : Bytes × Entry),
      rest.foldl (fun best item => if item.2.lastSeen < best.2.lastSeen then item else best)
        first ∈ first :: rest := by
    intro rest
    induction rest with
    | nil => simp
    | cons item rest ih =>
      intro first
      rw [foldl_cons]
      by_cases hl : item.2.lastSeen < first.2.lastSeen
      · rw [if_pos hl]
        exact mem_cons_of_mem _ (ih item)
      · rw [if_neg hl]
        rcases mem_cons.mp (ih first) with he | hm
        · exact mem_cons.mpr (.inl he)
        · exact mem_cons_of_mem _ (mem_cons_of_mem _ hm)
  cases items with
  | nil => contradiction
  | cons first rest =>
    rw [oldest, some.injEq] at h
    subst h
    exact ⟨_, hf rest first⟩

lemma oldest_of_pos (iteration : Iteration) {sources : Sources} (h : 0 < sources.size) :
    ∃ victim ∈ sources, oldest (iteration.order sources) = some victim := by
  have hp := iteration.perm sources
  have hl := hp.length_eq
  rw [ExtTreeMap.length_toList] at hl
  cases ho : iteration.order sources with
  | nil =>
    rw [ho] at hl
    simp only [length_nil] at hl
    omega
  | cons first rest =>
    refine ⟨_, ?_, rfl⟩
    obtain ⟨entry, hm⟩ := oldest_mem (show oldest (first :: rest) = some _ from rfl)
    rw [← ho, hp.mem_iff] at hm
    rw [ExtTreeMap.mem_iff_isSome_getElem?, KeyedMap.getElem?_of_mem_toList hm]
    rfl

/-- **No more sources stay than there may be.** -/
lemma size_trimFrom_le (iteration : Iteration) (rounds : ℕ) {sources : Sources}
    (h : sources.size ≤ limits.maximumSources + rounds) :
    (trimFrom limits iteration rounds sources).size ≤ limits.maximumSources := by
  induction rounds generalizing sources with
  | zero => exact h
  | succ rounds ih =>
    rw [trimFrom]
    split
    · rename_i hm
      obtain ⟨victim, ht, hv⟩ := oldest_of_pos iteration (Nat.zero_lt_of_lt hm)
      rw [hv]
      refine ih ?_
      rw [ExtTreeMap.size_erase, if_pos (ExtTreeMap.contains_iff_mem.mpr ht)]
      omega
    · rename_i hf
      exact Nat.not_lt.mp hf

lemma size_trim_le (iteration : Iteration) (sources : Sources) :
    (trim limits iteration sources).size ≤ limits.maximumSources :=
  size_trimFrom_le iteration _ (Nat.le_add_left _ _)

lemma trim_of_le (iteration : Iteration) {sources : Sources}
    (h : sources.size ≤ limits.maximumSources) : trim limits iteration sources = sources := by
  rw [trim]
  cases sources.size with
  | zero => rfl
  | succ rounds => rw [trimFrom, if_neg (Nat.not_lt.mpr h)]

/-! ## What a call does to an entry -/

variable {sources : Sources} {source other : Bytes} {entry : Entry} {now : ℕ}

variable {entry' : Entry}

lemma getElem?_recordFailure (h : (recordFailure limits iteration sources source now)[other]? = some entry') :
    sources[other]? = some entry' ∨ other = source ∧ source ≠ [] ∧ entry' = failed limits sources[source]? now := by
  unfold recordFailure at h
  split at h
  · exact .inl h
  · rename_i hn
    have hb := getElem?_trimFrom _ h
    rw [ExtTreeMap.getElem?_insert] at hb
    split at hb
    · rename_i hs
      refine .inr ⟨(LawfulEqCmp.eq_of_compare hs).symm, ?_, (some.inj hb).symm⟩
      simpa using hn
    · exact .inl hb

lemma blockedUntil_counted (entry : Entry) (now : ℕ) : (counted limits entry now).blockedUntil =
    if limits.maximumFailures ≤ entry.failures + 1 then now + limits.block else entry.blockedUntil := by
  by_cases hf : entry.failures < limits.maximumFailures
  · simp only [counted, if_pos hf, ge_iff_le]
    split <;> rfl
  · have hm : limits.maximumFailures ≤ entry.failures := Nat.not_lt.mp hf
    simp only [counted, if_neg hf, ge_iff_le, if_pos hm]
    rw [if_pos (hm.trans (Nat.le_succ _))]

lemma resetWindow_within (hb : now < entry.blockedUntil)
    (hw : entry.windowStart ≠ 0 ∧ now - entry.windowStart < limits.window) :
    resetWindow limits entry now = entry := by
  have hs : ¬ (entry.windowStart = 0 || now - entry.windowStart ≥ limits.window) := by
    simp [hw.1, hw.2]
  simp only [resetWindow, if_neg hs]
  rw [if_neg (Nat.not_le.mpr hb)]

lemma resetWindow_late (hl : ¬ (entry.windowStart ≠ 0 ∧ now - entry.windowStart < limits.window)) :
    (resetWindow limits entry now).failures = 0 ∧ (resetWindow limits entry now).blockedUntil = 0 := by
  have ho : (entry.windowStart = 0 || now - entry.windowStart ≥ limits.window) := by
    rw [Bool.or_eq_true, decide_eq_true_eq, decide_eq_true_eq]
    by_contra hn
    rw [not_or, ge_iff_le, Nat.not_le] at hn
    exact hl hn
  simp [resetWindow, ho]

lemma blockedUntil_resetWindow_le (entry : Entry) (now : ℕ) :
    (resetWindow limits entry now).blockedUntil ≤ entry.blockedUntil := by
  unfold resetWindow
  dsimp only
  split <;> split <;> simp

/-- The entry of a blocked source after a failure: the block is prolonged within the window, or
where one failure is enough. -/
lemma le_blockedUntil_failed (hb : now < entry.blockedUntil) (hk : entry.blockedUntil ≤ now + limits.block)
    (hw : limits.maximumFailures = 1 ∨ entry.windowStart ≠ 0 ∧ now - entry.windowStart < limits.window) :
    entry.blockedUntil ≤ (failed limits (some entry) now).blockedUntil := by
  rw [failed, blockedUntil_counted]
  rcases hw with ho | hwi
  · rwa [if_pos (by omega)]
  · rw [resetWindow_within hb hwi]
    split
    · exact hk
    · exact le_rfl

lemma blockedUntil_failed_of_late (hf : limits.maximumFailures ≠ 1)
    (hl : ¬ (entry.windowStart ≠ 0 ∧ now - entry.windowStart < limits.window)) :
    (failed limits (some entry) now).blockedUntil = 0 := by
  have hp := limits.failures_pos
  obtain ⟨hc, hb⟩ := resetWindow_late hl
  rw [failed, blockedUntil_counted, hc, hb, if_neg (by omega)]

lemma blockedUntil_failed_le {found : Option Entry}
    (h : ∀ entry, found = some entry → entry.blockedUntil ≤ now + limits.block) :
    (failed limits found now).blockedUntil ≤ now + limits.block := by
  cases found with
  | none =>
    rw [failed, blockedUntil_counted]
    split <;> simp
  | some entry =>
    rw [failed, blockedUntil_counted]
    split
    · exact le_rfl
    · exact (blockedUntil_resetWindow_le entry now).trans (h entry rfl)

/-- A query prolongs no block. -/
lemma allow_cases (limits : Limits) (sources : Sources) (source : Bytes) (now : ℕ) :
    (allow limits sources source now).1 = sources ∨ ∃ entry entry', source ≠ [] ∧ sources[source]? = some entry ∧
        (allow limits sources source now).1 = sources.insert source entry' ∧ entry'.blockedUntil ≤ entry.blockedUntil ∧
        (now < entry.blockedUntil → entry'.blockedUntil = entry.blockedUntil) := by
  by_cases hn : source.isEmpty
  · exact .inl (by simp [allow, hn])
  cases hf : sources[source]? with
  | none => exact .inl (by simp [allow, hn, hf])
  | some entry =>
    refine .inr ⟨entry, ?_⟩
    by_cases hb : now < entry.blockedUntil
    · refine ⟨{ entry with lastSeen := now }, by simpa using hn, rfl, ?_, le_rfl, fun _ => rfl⟩
      simp [allow, hn, hf, hb]
    · refine ⟨resetWindow limits { entry with lastSeen := now } now, by simpa using hn, rfl, ?_,
        blockedUntil_resetWindow_le _ _, fun h => absurd h hb⟩
      simp [allow, hn, hf, hb]

lemma allow_of_blocked (hf : sources[source]? = some entry) (hb : now < entry.blockedUntil) :
    (allow limits sources source now).2 = false := by
  by_cases hn : source.isEmpty
  · simp [allow, hn]
  · simp [allow, hn, hf, hb]

/-! ## The invariant of a run -/

/-- **What holds after any calls**, the last of them at the given time. -/
structure InOrder (limits : Limits) (sources : Sources) (now : ℕ) : Prop where
  size : sources.size ≤ limits.maximumSources
  named : sources[([] : Bytes)]? = none
  blocks : ∀ (source : Bytes) (entry : Entry), sources[source]? = some entry → entry.blockedUntil ≤ now + limits.block

lemma inOrder_empty (limits : Limits) (now : ℕ) : InOrder limits ∅ now :=
  ⟨Nat.zero_le _, by simp, by simp⟩

lemma InOrder.later {later : ℕ} (h : InOrder limits sources now) (hn : now ≤ later) : InOrder limits sources later :=
  ⟨h.size, h.named, fun source entry hf => (h.blocks source entry hf).trans (by omega)⟩

lemma InOrder.allow (h : InOrder limits sources now) (source : Bytes) :
    InOrder limits (allow limits sources source now).1 now := by
  rcases allow_cases limits sources source now with
    hs | ⟨entry, entry', hn, hf, hst, hl, -⟩
  · rwa [hs]
  · rw [hst]
    refine ⟨?_, ?_, ?_⟩
    · rw [ExtTreeMap.size_insert, if_pos]
      · exact h.size
      · rw [ExtTreeMap.contains_eq_isSome_getElem?, hf]
        rfl
    · rw [ExtTreeMap.getElem?_insert, if_neg ?_, h.named]
      rwa [LawfulEqCmp.compare_eq_iff_eq]
    · intro other found ho
      rw [ExtTreeMap.getElem?_insert] at ho
      split at ho
      · rw [← some.inj ho]
        exact hl.trans (h.blocks source entry hf)
      · exact h.blocks other found ho

lemma InOrder.failure (h : InOrder limits sources now) (iteration : Iteration) (source : Bytes) :
    InOrder limits (recordFailure limits iteration sources source now) now := by
  refine ⟨?_, ?_, ?_⟩
  · unfold recordFailure
    split
    · exact h.size
    · exact size_trim_le iteration _
  · rw [eq_none_iff_forall_ne_some]
    intro entry he
    rcases getElem?_recordFailure he with hb | ⟨rfl, hn, -⟩
    · rw [h.named] at hb
      contradiction
    · exact hn rfl
  · intro other entry he
    rcases getElem?_recordFailure he with hb | ⟨rfl, -, rfl⟩
    · exact h.blocks other entry hb
    · exact blockedUntil_failed_le fun entry => h.blocks other entry

lemma InOrder.success (h : InOrder limits sources now) (source : Bytes) :
    InOrder limits (recordSuccess sources source) now := by
  unfold recordSuccess
  split
  · exact h
  · refine ⟨ExtTreeMap.size_erase_le.trans h.size, ?_, ?_⟩
    · rw [ExtTreeMap.getElem?_erase, h.named, ite_self]
    · intro other entry he
      rw [ExtTreeMap.getElem?_erase] at he
      split at he
      · contradiction
      · exact h.blocks other entry he

/-- The times of the calls, from a time on, do not run back. -/
def Clocked (now : ℕ) (events : List Event) : Prop :=
  (now :: events.filterMap Event.time).Pairwise (· ≤ ·)

/-- The time of the last call that has one. -/
def lastTime (now : ℕ) (events : List Event) : ℕ := (events.filterMap Event.time).getLastD now

lemma clocked_append {before after : List Event} (h : Clocked now (before ++ after)) :
    Clocked now before ∧ Clocked (lastTime now before) after := by
  unfold Clocked lastTime at *
  rw [filterMap_append, ← cons_append, pairwise_append] at h
  obtain ⟨hb, ha, hc⟩ := h
  refine ⟨hb, pairwise_cons.mpr ⟨?_, ha⟩⟩
  intro time ht
  exact hc _ getLastD_mem_cons time ht

lemma clocked_cons {event : Event} {events : List Event} (h : Clocked now (event :: events)) :
    now ≤ event.time.getD now ∧ Clocked (event.time.getD now) events := by
  unfold Clocked at *
  cases ht : event.time with
  | none =>
    rw [filterMap_cons_none ht] at h
    exact ⟨le_rfl, h⟩
  | some later =>
    rw [filterMap_cons_some ht, pairwise_cons] at h
    exact ⟨h.1 later mem_cons_self, h.2⟩

lemma lastTime_cons (now : ℕ) (event : Event) (events : List Event) :
    lastTime now (event :: events) = lastTime (event.time.getD now) events := by
  unfold lastTime
  cases ht : event.time with
  | none => rw [filterMap_cons_none ht, getD_none]
  | some later => rw [filterMap_cons_some ht, getLastD_cons, getD_some]

lemma afterEvents_append (sources : Sources) (before after : List Event) :
    afterEvents limits sources (before ++ after) = afterEvents limits (afterEvents limits sources before) after :=
  foldl_append ..

/-- Events in the order of time keep the entries so. -/
lemma InOrder.step (h : InOrder limits sources now) {event : Event} (hn : now ≤ event.time.getD now) :
    InOrder limits (step limits sources event) (event.time.getD now) := by
  cases event with
  | allow source later => exact (h.later hn).allow source
  | failure source later iteration => exact (h.later hn).failure iteration source
  | success source => exact h.success source

lemma InOrder.afterEvents {events : List Event} (h : InOrder limits sources now) (hc : Clocked now events) :
    InOrder limits (afterEvents limits sources events) (lastTime now events) := by
  induction events generalizing sources now with
  | nil => exact h
  | cons event events ih =>
    obtain ⟨hn, hl⟩ := clocked_cons hc
    rw [lastTime_cons]
    exact ih (h.step hn) hl

/-! ## A block is held -/

/-- The source has an entry that is blocked until the given time, if that is still to come. -/
def Held (sources : Sources) (source : Bytes) (until_ now : ℕ) : Prop :=
  ∃ entry, sources[source]? = some entry ∧ (until_ ≤ entry.blockedUntil ∨ until_ ≤ now)

variable {until_ : ℕ} {event : Event}

/-- **One call** holds the block, if it leaves the entry there. -/
lemma Held.step (h : Held sources source until_ now) (horder : InOrder limits sources now)
    (hnow : now ≤ event.time.getD now) (hwind : InWindow limits sources event)
    (hthere : source ∈ step limits sources event) :
    Held (step limits sources event) source until_ (event.time.getD now) := by
  obtain ⟨entry, hfound, huntil⟩ := h
  have hkept : until_ ≤ entry.blockedUntil ∨ until_ ≤ event.time.getD now :=
    huntil.imp_right fun hpast => hpast.trans hnow
  rw [ExtTreeMap.mem_iff_isSome_getElem?, isSome_iff_exists] at hthere
  obtain ⟨entry'', hafter⟩ := hthere
  refine ⟨entry'', hafter, ?_⟩
  cases event with
  | allow other later =>
    rcases allow_cases limits sources other later with
      hsame | ⟨found, entry', -, hother, hstor, -, hbloc⟩
    · rw [RateLimiter.step, hsame, hfound, some.injEq] at hafter
      rwa [← hafter]
    · rw [RateLimiter.step, hstor, ExtTreeMap.getElem?_insert] at hafter
      split at hafter
      · rename_i hcomp
        obtain rfl := LawfulEqCmp.eq_of_compare hcomp
        rw [hfound, some.injEq] at hother
        subst hother
        obtain rfl := some.inj hafter
        by_cases hlasts : later < entry.blockedUntil
        · rwa [hbloc hlasts]
        · exact .inr (hkept.elim (fun h => h.trans (Nat.not_lt.mp hlasts)) id)
      · rw [hfound, some.injEq] at hafter
        rwa [← hafter]
  | failure other later iteration =>
    rcases getElem?_recordFailure hafter with hbefo | ⟨rfl, -, rfl⟩
    · rw [hfound, some.injEq] at hbefo
      rwa [← hbefo]
    · rw [hfound]
      by_cases hlasts : later < entry.blockedUntil
      · have hlimit := (horder.later hnow).blocks source entry hfound
        exact hkept.imp_left fun h =>
          h.trans (le_blockedUntil_failed hlasts hlimit (hwind entry hfound hlasts))
      · exact .inr (hkept.elim (fun h => h.trans (Nat.not_lt.mp hlasts)) id)
  | success other =>
    have hbefo : sources[source]? = some entry'' := by
      change (recordSuccess sources other)[source]? = some entry'' at hafter
      unfold recordSuccess at hafter
      split at hafter
      · exact hafter
      · rw [ExtTreeMap.getElem?_erase] at hafter
        split at hafter
        · contradiction
        · exact hafter
    rw [hfound, some.injEq] at hbefo
    rwa [← hbefo]

/-- **Any calls** hold it, as long as the entry is there. -/
lemma Held.afterEvents {events : List Event} (h : Held sources source until_ now)
    (horder : InOrder limits sources now) (hclock : Clocked now events)
    (hwind : ∀ before event after, events = before ++ event :: after →
      InWindow limits (afterEvents limits sources before) event)
    (hthere : ∀ events', events' <+: events → source ∈ afterEvents limits sources events') :
    Held (afterEvents limits sources events) source until_ (lastTime now events) := by
  induction events generalizing sources now with
  | nil => exact h
  | cons event events ih =>
    obtain ⟨hnow, hlater⟩ := clocked_cons hclock
    have hstep := h.step horder hnow (hwind [] event events rfl)
      (hthere [event] (prefix_append [event] events))
    rw [lastTime_cons]
    refine ih hstep (horder.step hnow) hlater ?_ ?_
    · intro before event' after hsplit
      exact hwind (event :: before) event' after (by rw [hsplit, cons_append])
    · intro events' hbegi
      exact hthere (event :: events') ((prefix_cons_inj event).mpr hbegi)

/-! ## When blocks are honoured -/

lemma recordFailure_tracked (ho : InOrder limits sources now) (hf : sources[source]? = some entry)
    (iteration : Iteration) :
    (recordFailure limits iteration sources source now)[source]? = some (failed limits (some entry) now) := by
  have hn : ¬ source.isEmpty := by
    rw [List.isEmpty_iff]
    rintro rfl
    rw [ho.named] at hf
    contradiction
  have hs : (sources.insert source (failed limits sources[source]? now)).size ≤
      limits.maximumSources := by
    rw [ExtTreeMap.size_insert, if_pos]
    · exact ho.size
    · rw [ExtTreeMap.contains_eq_isSome_getElem?, hf]
      rfl
  rw [recordFailure, if_neg hn, trim_of_le iteration hs, ExtTreeMap.getElem?_insert_self, hf]

lemma prolongs_of_inWindow (ho : InOrder limits sources now)
    (hw : InWindow limits sources (.failure source now iteration))
    (hf : sources[source]? = some entry) (hb : now < entry.blockedUntil)
    (ha : (recordFailure limits iteration sources source now)[source]? = some entry') :
    entry.blockedUntil ≤ entry'.blockedUntil := by
  rw [recordFailure_tracked ho hf, some.injEq] at ha
  rw [← ha]
  exact le_blockedUntil_failed hb (ho.blocks source entry hf) (hw entry hf hb)

lemma inWindow_of_prolongs (ho : InOrder limits sources now)
    (h : ∀ entry entry', sources[source]? = some entry → now < entry.blockedUntil →
      (recordFailure limits iteration sources source now)[source]? = some entry' →
        entry.blockedUntil ≤ entry'.blockedUntil) : InWindow limits sources (.failure source now iteration) := by
  intro entry hf hb
  by_contra hl
  rw [not_or] at hl
  have hp := h entry _ hf hb (recordFailure_tracked ho hf iteration)
  rw [blockedUntil_failed_of_late hl.1 hl.2] at hp
  omega

section Runs

variable {events : List Event}

lemma inOrder_before (limits : Limits) {before after : List Event} {iteration : Iteration}
    (hc : Clocked 0 events) (hs : events = before ++ .failure source now iteration :: after) :
    InOrder limits (afterEvents limits ∅ before) now ∧ Clocked now after := by
  rw [hs] at hc
  obtain ⟨hb, hr⟩ := clocked_append hc
  obtain ⟨hn, ha⟩ := clocked_cons hr
  exact ⟨((inOrder_empty limits 0).afterEvents hb).later hn, ha⟩

lemma prolongs_of_failsInWindow (hc : Clocked 0 events) (hw : FailsInWindow limits events)
    (before : List Event) (source : Bytes) (now : ℕ) (iteration : Iteration) (after : List Event)
    (hs : events = before ++ .failure source now iteration :: after) (entry entry' : Entry)
    (hf : (afterEvents limits ∅ before)[source]? = some entry) (hb : now < entry.blockedUntil)
    (ha : (recordFailure limits iteration (afterEvents limits ∅ before) source now)[source]? = some entry') :
    entry.blockedUntil ≤ entry'.blockedUntil :=
  prolongs_of_inWindow (inOrder_before limits hc hs).1 (hw before _ after hs) hf hb
    ha

lemma refuses_of_failsInWindow (hclock : Clocked 0 events) (hwind : FailsInWindow limits events)
    (before : List Event) (source : Bytes) (now : ℕ) (iteration : Iteration) (middle : List Event)
    (later : ℕ) (after : List Event)
    (hsplit : events = before ++ .failure source now iteration :: (middle ++ .allow source later :: after))
    (entry : Entry)
    (hfound : (recordFailure limits iteration (afterEvents limits ∅ before) source now)[source]? = some entry)
    (hthere : ∀ events', events' <+: middle → source ∈ afterEvents limits
      (recordFailure limits iteration (afterEvents limits ∅ before) source now) events')
    (hlater : later < entry.blockedUntil) : (allow limits (afterEvents limits
      (recordFailure limits iteration (afterEvents limits ∅ before) source now) middle) source later).2 = false := by
  obtain ⟨horder, hrest⟩ := inOrder_before limits hclock hsplit
  obtain ⟨hmidd, hlast⟩ := clocked_append hrest
  have hlate : lastTime now middle ≤ later := (clocked_cons hlast).1
  have hstate : ∀ middle', afterEvents limits ∅ (before ++ .failure source now iteration :: middle') =
      afterEvents limits (recordFailure limits iteration (afterEvents limits ∅ before) source now)
        middle' := by
    intro middle'
    rw [afterEvents_append]
    rfl
  have hheld : Held _ source entry.blockedUntil now := ⟨entry, hfound, .inl le_rfl⟩
  obtain ⟨entry', hfound', hlasts | hpast⟩ :=
    hheld.afterEvents (horder.failure iteration source) hmidd (by
      intro middle' event rest hparts
      rw [← hstate]
      refine hwind _ event (rest ++ .allow source later :: after) ?_
      rw [hsplit, hparts]
      simp only [append_assoc, cons_append]) hthere
  · exact allow_of_blocked hfound' (hlater.trans_le hlasts)
  · omega

/-- **When the limiter honours its blocks**: if and only if no failure of a blocked source comes after
its window, unless one failure is enough to be blocked. -/
theorem blocks_iff (hclock : Clocked 0 events) : HonoursBlocks limits events ↔ FailsInWindow limits events := by
  constructor
  · intro h before event after hsplit
    cases event with
    | failure source now iteration =>
      exact inWindow_of_prolongs (inOrder_before limits hclock hsplit).1
        (h.prolongs before source now iteration after hsplit)
    | allow | success => trivial
  · intro hwindow
    constructor
    · exact prolongs_of_failsInWindow hclock hwindow
    · intro before source now iteration middle later after hsplit start entry hfound _ hthere hlater
      exact refuses_of_failsInWindow hclock hwindow before source now iteration middle later after
        hsplit entry hfound hthere hlater

lemma failsInWindow_concat {event : Event} : FailsInWindow limits (events ++ [event]) ↔
    FailsInWindow limits events ∧ InWindow limits (afterEvents limits ∅ events) event := by
  constructor
  · intro h
    refine ⟨?_, h events event [] rfl⟩
    rintro before other after rfl
    exact h before other (after ++ [event]) (by simp)
  · rintro ⟨he, hl⟩ before other after hs
    rcases eq_nil_or_concat after with rfl | ⟨after', last, rfl⟩
    · obtain ⟨rfl, hsa⟩ := append_inj' hs rfl
      rwa [← head_eq_of_cons_eq hsa]
    · rw [concat_eq_append, ← cons_append, ← append_assoc] at hs
      exact he before other after' (append_inj' hs rfl).1

lemma failsInWindow_nil : FailsInWindow limits [] :=
  fun before event after h => absurd h (by simp)

end Runs

lemma inWindow_of_getElem? (found : Option Entry)
    (hf : sources[source]? = found) (h : ∀ entry, found = some entry → now < entry.blockedUntil →
      entry.windowStart ≠ 0 ∧ now - entry.windowStart < limits.window) :
    InWindow limits sources (.failure source now iteration) := by
  intro entry he hb
  rw [hf] at he
  exact .inr (h entry he hb)

/-- The order of the keys, one of those in which the map may be gone through. -/
def byKey : Iteration := ⟨fun sources => sources.toList, fun _ => .refl _⟩

def failuresAt (seconds : List ℕ) : List Event :=
  seconds.map fun second => .failure [65] (nanoseconds second) byKey

/-- Two failures block the source, and the third comes within the window. -/
theorem blocks_promptFailures : HonoursBlocks (.ofPolicy { maximumFailures := 2 })
    (failuresAt [1, 2] ++ failuresAt [30] ++ [.allow [65] (nanoseconds 100)]) := by
  refine (blocks_iff (by unfold Clocked; decide)).mpr ?_
  refine failsInWindow_concat.mpr ⟨failsInWindow_concat.mpr ⟨?_, ?_⟩, trivial⟩
  · change FailsInWindow _ ([] ++ failuresAt [1] ++ failuresAt [2])
    refine failsInWindow_concat.mpr ⟨failsInWindow_concat.mpr ⟨failsInWindow_nil, ?_⟩, ?_⟩
    · refine inWindow_of_getElem? none rfl ?_
      simp
    · refine inWindow_of_getElem? (some ⟨1, 1000000000, 0, 1000000000⟩) (by decide +kernel) ?_
      simp
  · refine inWindow_of_getElem? (some ⟨2, 1000000000, 302000000000, 2000000000⟩) (by decide +kernel) ?_
    simp [nanoseconds, Limits.ofPolicy]

/-- Five failures block a source for five minutes under the default policy; one more after the
window, and it is allowed. -/
theorem lateFailure_unblocks : ¬ ∀ (limits : Limits) (events : List Event), Clocked 0 events →
    HonoursBlocks limits events := by
  intro h
  have hrefused := (h (.ofPolicy {}) (failuresAt [1, 2, 3, 4] ++ .failure [65] (nanoseconds 5) byKey ::
      (failuresAt [61] ++ [.allow [65] (nanoseconds 62)]))
    (by unfold Clocked; decide)).refuses (failuresAt [1, 2, 3, 4]) [65] (nanoseconds 5) byKey
      (failuresAt [61]) (nanoseconds 62) [] rfl ⟨5, nanoseconds 1, nanoseconds 305, nanoseconds 5⟩
      (by decide +kernel) (by decide) ?_ (by decide)
  · revert hrefused
    decide +kernel
  · intro events' hbegins
    rcases List.prefix_cons_iff.mp hbegins with rfl | ⟨rest, rfl, hrest⟩
    · rw [ExtTreeMap.mem_iff_isSome_getElem?]
      decide +kernel
    · rw [List.prefix_nil.mp hrest, ExtTreeMap.mem_iff_isSome_getElem?]
      decide +kernel

end Nstu.Control.RateLimiter
