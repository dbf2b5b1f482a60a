import Nstu.Exam.Journal.State
import Nstu.Web.Recovery

/-!
# Late state responses

A state response may be for an older prefix of the server's log than the one the page knows about.
It is then ignored.  A response for the very prefix the page knows about lets the page go on: the
pending events get their predecessors, and the next answer is numbered and sent (`Continues`).

The server's session is a log of accepted events that only grows; `stateOf` is what the journal
answers for a prefix of it.
-/

namespace Nstu

open Wire

section Server

variable (sha256 : Bytes → Digest)

/-- The state of a session, as `AnswerJournal::state` gives it for a log. -/
def stateOf (log : List AnswerEvent) (request : StateRequest) : StateResponse :=
  match (replay sha256 log)[requestKey request]? with
  | none => request.emptyResponse
  | some session => session.response sha256

variable {sha256}

lemma replay_append_other {key : Bytes} {log rest : List AnswerEvent} (h : eventsOf key rest = []) :
    (replay sha256 (log ++ rest))[key]? = (replay sha256 log)[key]? := by
  induction rest using List.reverseRecOn with
  | nil => rw [List.append_nil]
  | append_singleton rest event ih =>
    rw [eventsOf_concat] at h
    split at h
    · simp at h
    · rename_i ho
      rw [← List.append_assoc, replay_concat, getElem?_indexEvent, if_neg ho, ih h]

lemma stateOf_highest {log : List AnswerEvent} (h : AcceptedLog sha256 log)
    (request : StateRequest) : (stateOf sha256 log request).highestContiguousSequence.toNat =
      (eventsOf (requestKey request) log).length := by
  have hs := acceptedLog_sessions h
  simp only [stateOf]
  split
  · rename_i hn
    rw [(hs.absent _).mp hn]
    rfl
  · rename_i session hse
    exact (hs.present _ _ hse).highest

lemma stateOf_of_highest_zero {log : List AnswerEvent} (h : AcceptedLog sha256 log) {request : StateRequest}
    (hz : (stateOf sha256 log request).highestContiguousSequence.toNat = 0) :
    stateOf sha256 log request = request.emptyResponse := by
  rw [stateOf_highest h, List.length_eq_zero_iff] at hz
  rw [stateOf, ((acceptedLog_sessions h).absent _).mpr hz]

/-- **An older state is a lower one, or the same.** -/
lemma stateOf_prefix {log rest : List AnswerEvent} (h : AcceptedLog sha256 (log ++ rest)) (request : StateRequest) :
    (stateOf sha256 log request).highestContiguousSequence.toNat <
        (stateOf sha256 (log ++ rest) request).highestContiguousSequence.toNat ∨
      stateOf sha256 log request = stateOf sha256 (log ++ rest) request := by
  rw [stateOf_highest h, stateOf_highest h.of_append]
  have he : eventsOf (requestKey request) (log ++ rest) =
      eventsOf (requestKey request) log ++ eventsOf (requestKey request) rest :=
    List.filter_append ..
  rw [he, List.length_append]
  by_cases hr : eventsOf (requestKey request) rest = []
  · right
    rw [stateOf, stateOf, replay_append_other hr]
  · left
    have := List.length_pos_iff.mpr hr
    omega

end Server

end Nstu

namespace Nstu.Web

open Wire Text

/-! ## What the page knows of the server -/

/-- The recorded cursor is that of a state of the server. -/
structure GenuineCursor (response : StateResponse) (durable : Durable) : Prop where
  highest : durable.serverHighestSequence = response.highestContiguousSequence.toNat
  lastHash : durable.serverLastEventHashHex = normalizeNonZeroHex (hexString response.lastEventHash.toList) 32
  stateHash : durable.serverStateHashHex = normalizeNonZeroHex (hexString response.stateHash.toList) 32
  finalized : durable.serverFinalized = response.finalized

/-- A complete state in the page is one of the server. -/
structure CompleteFor (response : StateResponse) (complete : CompleteState) : Prop where
  highest : complete.highestContiguousSequence = response.highestContiguousSequence.toNat
  finalized : complete.finalized = response.finalized
  stateHash : complete.stateHashHex = hexString response.stateHash.toList
  lastHash : complete.lastEventHashHex = hexString response.lastEventHash.toList

/-- The durable state after the page has gone on: the cursor, the pending events of the context and
its drafts are as before, but for hashes and for the answers that have been numbered. -/
structure Continues (page : ExamPage) (added : List PageEvent) (before after : Durable) : Prop where
  contextKey : after.contextKey = before.contextKey
  highest : after.serverHighestSequence = before.serverHighestSequence
  lastHash : after.serverLastEventHashHex = before.serverLastEventHashHex
  stateHash : after.serverStateHashHex = before.serverStateHashHex
  finalized : after.serverFinalized = before.serverFinalized
  pending : (after.pending.filter (eventMatchesContext page)).map PageEvent.content =
    (before.pending.filter (eventMatchesContext page)).map PageEvent.content ++ added.map PageEvent.content
  nextSequence : after.nextSequence = before.nextSequence + added.length
  drafted : ∀ entry ∈ currentDrafts page.contextKey before.drafts,
    entry ∈ currentDrafts page.contextKey after.drafts ∨
      ∃ event ∈ added, event.questionId = entry.1 ∧ event.answer = answerText entry.2.value
  noDraft : ∀ entry ∈ currentDrafts page.contextKey after.drafts, entry ∈ currentDrafts page.contextKey before.drafts

section Continuing

variable {sha256 : Bytes → Digest} {page : ExamPage}

lemma Continues.refl (durable : Durable) : Continues page [] durable durable where
  contextKey := rfl
  highest := rfl
  lastHash := rfl
  stateHash := rfl
  finalized := rfl
  pending := by simp
  nextSequence := rfl
  drafted := fun _ h => .inl h
  noDraft := fun _ h => h

lemma Continues.trans {added added' : List PageEvent} {first second third : Durable}
    (h : Continues page added first second) (h' : Continues page added' second third) :
    Continues page (added ++ added') first third where
  contextKey := h'.contextKey.trans h.contextKey
  highest := h'.highest.trans h.highest
  lastHash := h'.lastHash.trans h.lastHash
  stateHash := h'.stateHash.trans h.stateHash
  finalized := h'.finalized.trans h.finalized
  pending := by rw [h'.pending, h.pending, List.map_append, List.append_assoc]
  nextSequence := by rw [h'.nextSequence, h.nextSequence, List.length_append, Nat.add_assoc]
  drafted := by
    intro entry he
    rcases h.drafted entry he with hk | ⟨event, hev, hd⟩
    · rcases h'.drafted entry hk with hk | ⟨event, hev, hd⟩
      · exact .inl hk
      · exact .inr ⟨event, List.mem_append_right _ hev, hd⟩
    · exact .inr ⟨event, List.mem_append_left _ hev, hd⟩
  noDraft := fun entry he => h.noDraft entry (h'.noDraft entry he)

lemma Continues.current_eq_nil_iff {before after : Durable} (h : Continues page [] before after) :
    after.pending.filter (eventMatchesContext page) = [] ↔ before.pending.filter (eventMatchesContext page) = [] := by
  have hc := h.pending
  rw [List.map_nil, List.append_nil] at hc
  rw [← List.map_eq_nil_iff (f := PageEvent.content), hc, List.map_eq_nil_iff]

lemma currentDrafts_idem (key : Utf16) (drafts : List (Utf16 × Draft)) :
    currentDrafts key (currentDrafts key drafts) = currentDrafts key drafts := by
  simp only [currentDrafts, List.filter_map, List.map_map]
  rw [List.filter_eq_self.mpr]
  · rfl
  · intro entry _
    simp

lemma mem_currentDrafts_congr {key : Utf16} {left right : List (Utf16 × Draft)}
    (h : ∀ entry, entry ∈ left ↔ entry ∈ right) (entry : Utf16 × Draft) :
    entry ∈ currentDrafts key left ↔ entry ∈ currentDrafts key right := by
  simp only [currentDrafts, List.mem_map, List.mem_filter, h]

lemma quarantined_continues {durable : Durable} (hk : durable.contextKey = page.contextKey) :
    Continues page [] durable (durable.quarantined page) := by
  simp only [Durable.quarantined, hk, beq_self_eq_true, if_true]
  refine ⟨hk.symm, rfl, rfl, rfl, rfl, ?_, rfl, ?_, ?_⟩
  · simp [List.filter_filter]
  · intro entry he
    left
    rwa [currentDrafts_idem]
  · intro entry he
    rwa [currentDrafts_idem] at he

lemma quarantine_continues {state : PageState} (stored : Bool) (hk : state.durable.contextKey = page.contextKey) :
    Continues page [] state.durable (quarantineMismatchedDurableEntries page stored state).1.durable ∧
      (quarantineMismatchedDurableEntries page stored state).1.recoveryConflict = state.recoveryConflict ∧
      ((quarantineMismatchedDurableEntries page stored state).2 → page.bridgeReady →
        (quarantineMismatchedDurableEntries page stored state).1.durable = state.durable.quarantined page) := by
  simp only [quarantineMismatchedDurableEntries_eq, hk, beq_self_eq_true, if_true]
  split
  · rename_i hr
    refine ⟨.refl _, rfl, fun _ ht => ?_⟩
    simp [ht] at hr
  split
  · exact ⟨.refl _, rfl, fun hf => by cases hf⟩
  · exact ⟨quarantined_continues hk, rfl, fun _ _ => rfl⟩

lemma Continues.of_content {durable : Durable} {pending : List PageEvent}
    (h : pending.map PageEvent.content = durable.pending.map PageEvent.content) :
    Continues page [] durable { durable with pending } :=
  { Continues.refl durable with
    pending := by
      rw [List.map_nil, List.append_nil]
      exact map_content_filter (fun _ => rfl) h }

lemma sendPending_continues (calls : FlushCalls) {state : PageState} {event : PageEvent}
    {rest : List PageEvent} (hp : state.durable.pending = event :: rest) :
    Continues page [] state.durable (sendPending sha256 page calls state event rest).durable ∧
      (sendPending sha256 page calls state event rest).recoveryConflict = state.recoveryConflict := by
  have hr : Continues page [] state.durable { state.durable with
      pending := rebaseHead sha256 page state.durable event :: rest } := by
    refine .of_content ?_
    rw [hp, List.map_cons, List.map_cons, content_rebaseHead]
  simp only [sendPending]
  split
  · exact ⟨.refl _, rfl⟩
  split
  · exact ⟨.refl _, rfl⟩
  split
  · exact ⟨hr, rfl⟩
  split <;> exact ⟨hr, rfl⟩

/-- A new event is of the page's context. -/
lemma newEvent_spec {durable : Durable} {now : ℕ} {questionId : Utf16} {questionRevision : ℕ}
    {kind : PageKind} {answer : Utf16} {event : PageEvent} (hr : page.bridgeReady)
    (h : newEvent sha256 page durable now questionId questionRevision kind answer = some event) :
    eventMatchesContext page event ∧ event.questionId = questionId ∧ event.answer = answer := by
  simp only [ExamPage.bridgeReady, Bool.and_eq_true, beq_iff_eq] at hr
  simp only [newEvent] at h
  split at h
  · cases h
  · cases h
    simp [eventMatchesContext, hr.1.1.1.1.2]

lemma durableEventForDraft_spec {durable : Durable} {now : ℕ} {id : Utf16} {draft : Draft}
    {event : PageEvent} (hr : page.bridgeReady)
    (h : durableEventForDraft sha256 page durable now id draft = some event) :
    eventMatchesContext page event ∧ event.questionId = id ∧ event.answer = answerText draft.value := by
  simp only [durableEventForDraft] at h
  split at h
  · cases h
  rename_i item hi
  split at h
  · cases h
  obtain ⟨hm, hq, ha⟩ := newEvent_spec hr h
  have hid := List.find?_some hi
  exact ⟨hm, hq.trans (beq_iff_eq.mp hid), ha⟩

lemma mem_addDraft {id : Utf16} {draft : Draft} {drafts : List (Utf16 × Draft)} (entry : Utf16 × Draft) :
    entry ∈ addDraft id draft drafts ↔ entry ∈ (id, draft) :: drafts := by
  simp only [addDraft]
  split
  · simp [or_comm]
  · rename_i index hi
    generalize hb : drafts.takeWhile (fun entry => (arrayIndex entry.1).any (· < index)) = before
    have hs : before ++ drafts.drop before.length = drafts := by
      obtain ⟨after, ha⟩ := hb ▸ List.takeWhile_prefix (l := drafts)
        fun entry => (arrayIndex entry.1).any (· < index)
      rw [← ha]
      simp
    rw [List.mem_append, List.mem_cons, List.mem_cons]
    conv_rhs => rw [← hs, List.mem_append]
    exact or_left_comm

/-- What follows the push of an event sends it and adds no other. -/
def Sends (page : ExamPage) (again : PageState → PageState) : Prop :=
  ∀ state : PageState, state.durable.contextKey = page.contextKey →
    state.durable.pending.filter (eventMatchesContext page) ≠ [] →
      Continues page [] state.durable (again state).durable ∧ (again state).recoveryConflict = state.recoveryConflict

lemma Continues.of_draft {durable : Durable} {id : Utf16} {draft : Draft}
    {drafts : List (Utf16 × Draft)} {event : PageEvent}
    (hd : durable.drafts = (id, draft) :: drafts)
    (hm : eventMatchesContext page event) (hq : event.questionId = id)
    (ha : event.answer = answerText draft.value) :
    Continues page [event] durable { durable with
      drafts
      pending := durable.pending ++ [event]
      nextSequence := durable.nextSequence + 1 } where
  contextKey := rfl
  highest := rfl
  lastHash := rfl
  stateHash := rfl
  finalized := rfl
  pending := by simp [List.filter_append, hm]
  nextSequence := rfl
  drafted := by
    intro entry he
    obtain ⟨original, ho, rfl⟩ := List.mem_map.mp he
    obtain ⟨hme, hc⟩ := List.mem_filter.mp ho
    rw [hd] at hme
    rcases List.mem_cons.mp hme with rfl | hme
    · exact .inr ⟨event, List.mem_singleton_self _, hq, ha⟩
    · exact .inl (List.mem_map.mpr ⟨original, List.mem_filter.mpr ⟨hme, hc⟩, rfl⟩)
  noDraft := by
    intro entry he
    obtain ⟨original, ho, rfl⟩ := List.mem_map.mp he
    obtain ⟨hme, hc⟩ := List.mem_filter.mp ho
    refine List.mem_map.mpr ⟨original, List.mem_filter.mpr ⟨?_, hc⟩, rfl⟩
    rw [hd]
    exact List.mem_cons_of_mem _ hme

lemma Continues.of_finalization {durable : Durable} {event : PageEvent}
    (hm : eventMatchesContext page event) :
    Continues page [event] durable { durable with
      finalizeRequested := false
      pending := durable.pending ++ [event]
      nextSequence := durable.nextSequence + 1 } where
  contextKey := rfl
  highest := rfl
  lastHash := rfl
  stateHash := rfl
  finalized := rfl
  pending := by simp [List.filter_append, hm]
  nextSequence := rfl
  drafted := fun _ h => .inl h
  noDraft := fun _ h => h

/-- The page has gone on and numbered at most one answer, and none where one is pending. -/
def GoesOn (page : ExamPage) (before after : PageState) : Prop :=
  ∃ added : List PageEvent, added.length ≤ 1 ∧
    (before.durable.pending.filter (eventMatchesContext page) ≠ [] → added = []) ∧
    Continues page added before.durable after.durable ∧
    after.recoveryConflict = before.recoveryConflict

lemma GoesOn.of_continues {before after : PageState} (h : Continues page [] before.durable after.durable)
    (hc : after.recoveryConflict = before.recoveryConflict) : GoesOn page before after :=
  ⟨[], by simp, fun _ => rfl, h, hc⟩

lemma GoesOn.after {first second third : PageState} (h : Continues page [] first.durable second.durable)
    (hc : second.recoveryConflict = first.recoveryConflict)
    (h' : GoesOn page second third) : GoesOn page first third := by
  obtain ⟨added, hl, hn, hco, hc'⟩ := h'
  refine ⟨added, hl, fun hp => hn ?_, ?_, hc'.trans hc⟩
  · rwa [ne_eq, h.current_eq_nil_iff]
  · simpa using h.trans hco

lemma GoesOn.queued {before : PageState} {durable : Durable} {event : PageEvent}
    {again : PageState → PageState} (hagain : Sends page again)
    (hnone : before.durable.pending = [])
    (hkey : before.durable.contextKey = page.contextKey)
    (h : Continues page [event] before.durable durable) :
    GoesOn page before (again { before with durable }) := by
  have hpend : durable.pending.filter (eventMatchesContext page) ≠ [] := by
    have hcont := h.pending
    rw [hnone] at hcont
    intro hempty
    simp [hempty] at hcont
  obtain ⟨hconti, hconf⟩ :=
    hagain { before with durable } (h.contextKey.trans hkey) hpend
  refine ⟨[event], Nat.le_refl _, fun hsome => ?_, h.trans hconti, hconf⟩
  rw [hnone] at hsome
  exact absurd rfl hsome

lemma flushPass_goesOn (calls : FlushCalls) {again : PageState → PageState}
    (hagain : Sends page again) {state : PageState}
    (hkey : state.durable.contextKey = page.contextKey) :
    GoesOn page state (flushPass sha256 page calls again state) := by
  obtain ⟨hquar, hconf, hdura⟩ := quarantine_continues calls.quarantineStored hkey
  simp only [flushPass_eq]
  split
  · exact .of_continues (.refl _) rfl
  rename_i hready
  simp only [Bool.or_eq_true, Bool.not_eq_true', not_or, Bool.not_eq_false] at hready
  generalize quarantineMismatchedDurableEntries page calls.quarantineStored state = quarantined
    at hquar hconf hdura ⊢
  obtain ⟨valid, proceeds⟩ := quarantined
  refine .after hquar hconf ?_
  have hcurr := hquar.contextKey.trans hkey
  simp only at hdura hcurr ⊢
  split
  · exact .of_continues (.refl _) rfl
  split
  · exact .of_continues (.refl _) rfl
  split
  · exact .of_continues (.refl _) rfl
  split
  · rename_i event rest hpend
    exact .of_continues (sendPending_continues calls hpend).1 (sendPending_continues calls hpend).2
  rename_i hpend
  split
  · exact .of_continues (.refl _) rfl
  split
  · rename_i id draft drafts hdraf
    split
    · exact .of_continues (.refl _) rfl
    rename_i event hevent
    split
    · exact .of_continues (.refl _) rfl
    obtain ⟨hmatc, hques, hansw⟩ := durableEventForDraft_spec hready.1 hevent
    split
    · refine .of_continues { Continues.refl valid.durable with
        drafted := fun entry hentry => .inl ?_, noDraft := fun entry hentry => ?_ } rfl
      · rw [mem_currentDrafts_congr mem_addDraft, ← hdraf]
        exact hentry
      · rw [mem_currentDrafts_congr mem_addDraft, ← hdraf] at hentry
        exact hentry
    · rename_i queued hqueu
      simp only [queuedEvent] at hqueu
      split at hqueu
      · cases hqueu
      cases hqueu
      exact .queued hagain hpend hcurr (.of_draft hdraf hmatc hques hansw)
  · split
    · exact .of_continues (.refl _) rfl
    split
    · exact .of_continues (.refl _) rfl
    rename_i event hevent
    split
    · exact .of_continues (.refl _) rfl
    · exact .queued hagain hpend hcurr (.of_finalization (newEvent_spec hready.1 hevent).1)

lemma sends_flushPass (calls : FlushCalls) : Sends page (flushPass sha256 page calls id) := by
  intro state hk hp
  have hi : Sends page id := fun state _ _ => ⟨.refl _, rfl⟩
  obtain ⟨added, -, hn, hc, hco⟩ := flushPass_goesOn calls hi hk
  rw [hn hp] at hc
  exact ⟨hc, hco⟩

lemma flushAnswerBridge_goesOn (calls : FlushCalls × FlushCalls) {state : PageState}
    (hk : state.durable.contextKey = page.contextKey) :
    GoesOn page state (flushAnswerBridge sha256 page calls state) :=
  flushPass_goesOn calls.1 (sends_flushPass calls.2) hk

/-! ## The same state again -/

lemma contiguousFrom_le {pending : List PageEvent} : ∀ {expected : ℕ}, contiguousFrom expected pending →
      ∀ event ∈ pending, expected ≤ event.sequence := by
  induction pending with
  | nil => simp
  | cons event rest ih =>
    intro expected h found hf
    simp only [contiguousFrom, Bool.and_eq_true, beq_iff_eq] at h
    rcases List.mem_cons.mp hf with rfl | hf
    · omega
    · have := ih h.2 found hf
      omega

section Repair

variable {durable : Durable} {lastHash stateHash : Utf16} {highest : ℕ}
variable {answers : List RecoveredAnswer}

/-- The watermark is the page's own, and the events behind it are pending. -/
structure OwnWatermark (page : ExamPage) (durable : Durable) (highest : ℕ)
    (lastHash stateHash : Utf16) : Prop where
  known : durable.serverHighestSequence = highest
  knownLast : normalizeNonZeroHex lastHash 32 = durable.serverLastEventHashHex
  knownState : normalizeNonZeroHex stateHash 32 = durable.serverStateHashHex
  zero : highest = 0 → durable.serverLastEventHashHex = [] ∧ durable.serverStateHashHex = []
  positive : highest ≠ 0 → durable.serverLastEventHashHex ≠ [] ∧ durable.serverStateHashHex ≠ []
  contiguous : contiguousFrom (highest + 1) (durable.pending.filter (eventMatchesContext page)) = true

lemma OwnWatermark.beyond (h : OwnWatermark page durable highest lastHash stateHash) :
    ∀ event ∈ durable.pending, eventMatchesContext page event → highest < event.sequence :=
  fun event he hm =>
    contiguousFrom_le h.contiguous event (List.mem_filter.mpr ⟨he, hm⟩)

lemma repairPendingChain_of_own (hsound : durable.Sound sha256)
    (h : OwnWatermark page durable highest lastHash stateHash) :
    (repairPendingChain sha256 page true durable lastHash highest answers stateHash).2 := by
  have horde := hsound.ordered.filter (eventMatchesContext page)
  have hrange : ¬(decide (highest > maxSafeInteger) ||
      decide (highest > 0) && (durable.serverLastEventHashHex.isEmpty || durable.serverStateHashHex.isEmpty) ||
      highest == 0 && (!durable.serverLastEventHashHex.isEmpty || !durable.serverStateHashHex.isEmpty)) := by
    have hcurs := h.known ▸ hsound.cursor
    by_cases hzero : highest = 0
    · simp [hzero, h.zero hzero]
    · simp [hzero, h.positive hzero, hcurs]
  have hveri : (durable.pending.filter (eventMatchesContext page)).filter
      (fun event => decide (event.sequence ≤ highest)) = [] := by
    rw [List.filter_eq_nil_iff]
    intro event hevent
    have := contiguousFrom_le h.contiguous event hevent
    simp only [decide_eq_true_eq]
    omega
  have hrema : (durable.pending.filter (eventMatchesContext page)).filter
      (fun event => decide (event.sequence > highest)) =
      durable.pending.filter (eventMatchesContext page) := by
    rw [List.filter_eq_self]
    intro event hevent
    have := contiguousFrom_le h.contiguous event hevent
    simp only [decide_eq_true_eq]
    omega
  obtain ⟨pending, hpend⟩ : ∃ pending, relinkPending sha256 page durable.serverLastEventHashHex
      highest true (durable.pending.filter fun event =>
        !eventMatchesContext page event || event.sequence > highest) = some pending := by
    refine Option.isSome_iff_exists.mp (relinkPending_isSome (fun event hevent =>
      hsound.hashed event (List.mem_of_mem_filter hevent)) ?_)
    rw [← h.knownLast, normalizeNonZeroHex_idem]
  simp only [repairPendingChain_eq, sortBySequence_of_ordered horde,
    sortBySequence_of_ordered (hsound.ordered.filter _), h.knownLast, h.knownState]
  rw [if_neg hrange, hveri, hrema, h.contiguous]
  simp [hpend]

lemma repair_continues {stored : Bool} {after : Durable} (hs : durable.Sound sha256)
    (h : OwnWatermark page durable highest lastHash stateHash)
    (hr : repairPendingChain sha256 page stored durable lastHash highest answers stateHash = (after, true)) :
    durable.nextSequence ≤ after.nextSequence ∧ after.nextSequence ≤ max durable.nextSequence (highest + 1) ∧
      after.drafts = durable.drafts ∧
      Continues page [] { durable with nextSequence := after.nextSequence } after := by
  obtain ⟨-, -, -, pending, hre, rfl⟩ := repairPendingChain_eq_true hs hr
  obtain ⟨hl, -⟩ := relinkPending_spec hre
  have ha : durable.pending.filter (staysPending page highest) = durable.pending := by
    rw [List.filter_eq_self]
    intro event he
    cases hm : eventMatchesContext page event with
    | true => simp [staysPending, h.beyond event he hm]
    | false => simp [staysPending, hm]
  have hc := map_content_of_relinks hl
  rw [ha] at hc
  refine ⟨Nat.le_max_left _ _, ?_, rfl, ?_⟩
  · simp only
    split <;> omega
  · exact
      { Continues.of_content hc with
        nextSequence := rfl
        highest := h.known.symm
        lastHash := h.knownLast
        stateHash := h.knownState }

end Repair

/-- What the page refuses the state of its own watermark for, by design: it could not be stored, the
page has a predecessor it cannot place, or the exam is over while local data is left. -/
def ConflictReason (page : ExamPage) (calls : StateCalls) (state : PageState) (highest : ℕ)
    (finalized : Bool) : Prop :=
  calls.repairStored = false ∨ (highest = 0 ∧ state.durable.previousEventHashHex ≠ []) ∨
    (finalized = true ∧ (calls.finalizeStored = false ∨ state.durable.drafts ≠ [] ∨
      state.durable.pending.filter (eventMatchesContext page) ≠ []))

/-- The page has taken a state of its own watermark. -/
structure Resumes (page : ExamPage) (calls : StateCalls) (highest : ℕ) (finalized : Bool)
    (before after : PageState) : Prop where
  continues : ∃ next added, before.durable.nextSequence ≤ next ∧
    next ≤ max before.durable.nextSequence (highest + 1) ∧ added.length ≤ 1 ∧
    (before.durable.pending.filter (eventMatchesContext page) ≠ [] → added = []) ∧
    Continues page added { before.durable with nextSequence := next } after.durable
  conflict : after.recoveryConflict = true → before.recoveryConflict = true ∨
    ConflictReason page calls before highest finalized

lemma Resumes.of_unchanged {calls : StateCalls} {highest : ℕ} {finalized : Bool}
    {before after : PageState} (hd : after.durable = before.durable)
    (hc : after.recoveryConflict → before.recoveryConflict ∨
      ConflictReason page calls before highest finalized) :
    Resumes page calls highest finalized before after :=
  ⟨⟨before.durable.nextSequence, [], Nat.le_refl _, Nat.le_max_left _ _, Nat.zero_le _,
    fun _ => rfl, hd ▸ .refl _⟩, hc⟩

lemma finalizeState_continues {calls : StateCalls} {state : PageState} {highest : ℕ}
    (hkey : state.durable.contextKey = page.contextKey)
    (hfina : state.durable.serverFinalized) :
    Continues page [] state.durable (finalizeState page calls state highest).durable ∧
      ((finalizeState page calls state highest).recoveryConflict →
        state.recoveryConflict ∨ calls.finalizeStored = false ∨ state.durable.drafts ≠ [] ∨
          state.durable.pending.filter (eventMatchesContext page) ≠ []) := by
  obtain ⟨hquar, hconf, -⟩ := quarantine_continues calls.quarantineStored hkey
  have hdraf : (quarantineMismatchedDurableEntries page calls.quarantineStored
      state).1.durable.drafts ≠ [] → state.durable.drafts ≠ [] := by
    simp only [quarantineMismatchedDurableEntries_eq]
    split
    · exact fun h => h
    split
    · split <;> exact fun h => h
    · simp only [Durable.quarantined, currentDrafts, hkey, beq_self_eq_true, if_true]
      intro h hnone
      simp [hnone] at h
  simp only [finalizeState_eq]
  generalize (quarantineMismatchedDurableEntries page calls.quarantineStored state).1 = quarantined
    at hquar hconf hdraf ⊢
  split
  · rename_i hleft
    refine ⟨hquar, fun _ => .inr ?_⟩
    simp only [Bool.or_eq_true, List.any_eq_true, Bool.and_eq_true, Bool.not_eq_true',
      List.isEmpty_eq_false_iff] at hleft
    rcases hleft with (⟨event, hevent, hmatc, -⟩ | hleft) | hfail
    · right
      right
      rw [ne_eq, ← hquar.current_eq_nil_iff]
      exact List.ne_nil_of_mem (List.mem_filter.mpr ⟨hevent, hmatc⟩)
    · exact .inr (.inl (hdraf hleft))
    · exact .inl hfail
  · refine ⟨{ hquar with finalized := hfina.symm }, fun h => .inl ?_⟩
    rw [← hconf]
    exact h

lemma refusal_of_own {durable : Durable} {highest : ℕ} {lastHash stateHash : Utf16}
    {finalized : Bool} (hs : durable.Sound sha256)
    (h : OwnWatermark page durable highest lastHash stateHash)
    (hl : normalizeNonZeroHex lastHash 32 = lastHash)
    (hst : normalizeNonZeroHex stateHash 32 = stateHash)
    (hf : durable.serverFinalized = finalized) :
    let refused := refusal durable highest lastHash stateHash finalized
    refused.lowerWatermark = false ∧ refused.sameWatermarkConflict = false ∧ refused.finalizedRegression = false ∧
      (refused.zeroCursorConflict → highest = 0 ∧ durable.previousEventHashHex ≠ []) := by
  have hk : durable.knownHighest = highest := by rw [knownHighest_eq hs.cursor, h.known]
  simp only [refusal, hk, ← h.knownLast, ← h.knownState, hl, hst]
  refine ⟨by simp, ?_, by simp [hf], ?_⟩
  · by_cases hz : highest = 0
    · simp [hz]
    · have hp := h.positive hz
      rw [← h.knownLast, ← h.knownState, hl, hst] at hp
      simp [hp]
  · simp only [Bool.and_eq_true, beq_iff_eq, Bool.not_eq_true', List.isEmpty_eq_false_iff]
    exact fun hr => ⟨hr.1, hr.2.1.1⟩

/-- **A state of the page's own watermark lets it go on.** -/
lemma applyCompleteState_own {state : PageState} {complete : CompleteState} (calls : StateCalls)
    (hsound : state.durable.Sound sha256) (hkey : state.durable.contextKey = page.contextKey)
    (h : OwnWatermark page state.durable complete.highestContiguousSequence
      (normalizeNonZeroHex complete.lastEventHashHex 32)
      (normalizeNonZeroHex complete.stateHashHex 32))
    (hfina : state.durable.serverFinalized = complete.finalized) :
    Resumes page calls complete.highestContiguousSequence complete.finalized state
      (applyCompleteState sha256 page calls state complete) := by
  have hhighe : ¬complete.highestContiguousSequence > maxSafeInteger :=
    Nat.not_lt.mpr (h.known ▸ hsound.cursor)
  obtain ⟨hlower, hsame, hregr, hzero⟩ := refusal_of_own hsound h
    (normalizeNonZeroHex_idem _ _) (normalizeNonZeroHex_idem _ _) hfina
  simp only [applyCompleteState, hlower, hsame, hregr, hhighe, decide_false, Bool.or_false, Bool.false_or]
  split
  · exact .of_unchanged rfl .inl
  split
  · rename_i hrefu
    split
    · exact .of_unchanged rfl fun _ => .inr (.inr (.inl (hzero hrefu)))
    · exact .of_unchanged rfl .inl
  split
  · rename_i durable hfail
    refine .of_unchanged rfl fun _ => .inr (.inl ?_)
    by_contra hstor
    rw [Bool.not_eq_false] at hstor
    have hrepa : (repairPendingChain sha256 page true state.durable _ _ complete.answers _).2 =
      true := repairPendingChain_of_own hsound h
    rw [hstor] at hfail
    rw [hfail] at hrepa
    cases hrepa
  rename_i durable hrepa
  obtain ⟨hlow, hhigh, hdraf, hcont⟩ := repair_continues hsound h hrepa
  have hkey' := hcont.contextKey.trans hkey
  let repaired : PageState := { state.clearInFlight with
    durable, awaitingStateReconcile := false, recoveryConflict := false }
  split
  · rename_i hfinal
    obtain ⟨hfinalS, hconf⟩ := @finalizeState_continues page calls repaired
      complete.highestContiguousSequence hkey'
      (hcont.finalized.trans (hfina.trans hfinal))
    refine ⟨⟨durable.nextSequence, [], hlow, hhigh, Nat.zero_le _, fun _ => rfl,
      hcont.trans hfinalS⟩, fun hset => .inr (.inr (.inr ⟨hfinal, ?_⟩))⟩
    rcases hconf hset with hfalse | hreas | hreas | hreas
    · cases hfalse
    · exact .inl hreas
    · exact .inr (.inl (hdraf ▸ hreas))
    · exact .inr (.inr (mt hcont.current_eq_nil_iff.mpr hreas))
  split
  · exact ⟨⟨durable.nextSequence, [], hlow, hhigh, Nat.zero_le _, fun _ => rfl, hcont⟩,
      fun hset => by cases hset⟩
  · obtain ⟨added, hleng, hnone, hflush, hconf⟩ :=
      @flushAnswerBridge_goesOn sha256 page calls.flush repaired hkey'
    refine ⟨⟨durable.nextSequence, added, hlow, hhigh, hleng, fun hpend => hnone ?_,
      hcont.trans hflush⟩, fun hset => ?_⟩
    · exact mt hcont.current_eq_nil_iff.mp hpend
    · rw [hconf] at hset
      cases hset

/-! ## An older state -/

lemma applyCompleteState_lower {state : PageState} {complete : CompleteState} (calls : StateCalls)
    (hsound : state.durable.Sound sha256)
    (hlower : complete.highestContiguousSequence < state.durable.serverHighestSequence)
    (hregr : ¬(state.awaitingStateReconcile ∧ state.durable.serverFinalized)) :
    applyCompleteState sha256 page calls state complete = state := by
  have hcurs := hsound.cursor
  have hsafe : complete.highestContiguousSequence ≤ maxSafeInteger := by omega
  have hnone : state.durable.serverHighestSequence ≠ 0 := by omega
  have hother : complete.highestContiguousSequence ≠ state.durable.serverHighestSequence := by omega
  simp only [applyCompleteState, refusal, knownHighest_eq hcurs]
  split
  · rfl
  rw [if_pos (by simp [hlower, hsafe])]
  refine if_neg ?_
  simp only [hother, hnone, Nat.not_lt.mpr hsafe, beq_eq_false_iff_ne.mpr, ne_eq,
    not_false_eq_true, Bool.and_false, Bool.false_and, Bool.false_or, Bool.or_false, decide_false,
    gt_iff_lt, Bool.and_eq_true, not_and]
  intro hawai hfina
  exact absurd ⟨hawai, hfina⟩ hregr

lemma ownWatermark_of_genuine {log : List AnswerEvent} (hlog : AcceptedLog sha256 log)
    {request : StateRequest} {durable : Durable} {complete : CompleteState}
    (hsent : encodeStateResponseChunks (stateOf sha256 log request) ≠ [])
    (hcurs : GenuineCursor (stateOf sha256 log request) durable)
    (hgenu : CompleteFor (stateOf sha256 log request) complete)
    (hpend : contiguousFrom (durable.serverHighestSequence + 1)
      (durable.pending.filter (eventMatchesContext page))) :
    OwnWatermark page durable complete.highestContiguousSequence (normalizeNonZeroHex complete.lastEventHashHex 32)
      (normalizeNonZeroHex complete.stateHashHex 32) := by
  have hequal : durable.serverHighestSequence = complete.highestContiguousSequence :=
    hcurs.highest.trans hgenu.highest.symm
  have hhead := (encodeStateResponseChunks_ne_nil_iff.mp hsent).header.cursor
  refine ⟨hequal, ?_, ?_, fun hzero => ?_, fun hposi => ?_, hequal ▸ hpend⟩
  · rw [normalizeNonZeroHex_idem, hgenu.lastHash, hcurs.lastHash]
  · rw [normalizeNonZeroHex_idem, hgenu.stateHash, hcurs.stateHash]
  · rw [hgenu.highest] at hzero
    rw [hcurs.lastHash, hcurs.stateHash, stateOf_of_highest_zero hlog hzero,
      normalizeNonZeroHex_hexString, normalizeNonZeroHex_hexString]
    simp [StateRequest.emptyResponse, allZero_iff]
  · have hne : (stateOf sha256 log request).highestContiguousSequence ≠ 0 := by
      rintro hzero
      rw [hgenu.highest, hzero] at hposi
      exact hposi rfl
    rw [if_neg hne] at hhead
    have hnone : ∀ block : Digest, hexString block.toList ≠ [] := by
      intro block
      rw [← List.length_pos_iff, length_hexString, block.length_toList]
      omega
    rw [hcurs.lastHash, hcurs.stateHash, normalizeNonZeroHex_hexString,
      normalizeNonZeroHex_hexString, hhead.1, hhead.2]
    exact ⟨hnone _, hnone _⟩

end Continuing

/-- **A late state is harmless.**  Let the page's cursor be that of a log the server has accepted, and
let a complete state for a prefix of that log arrive.  If the prefix is shorter, nothing changes but
the collection of chunks, unless the page waits for a state after the end of the exam.  If it is the
same state, the cursor and the drafts and pending events of the context are kept, but for the hashes
of the events and for one draft or finalization that is numbered where nothing is pending; a conflict
is raised for the reasons of `ConflictReason` only. -/
theorem late_state_harmless {sha256 : Bytes → Digest} {page : ExamPage} {state : PageState}
    (hreach : PageReach sha256 page state) {log rest : List AnswerEvent}
    (hlog : AcceptedLog sha256 (log ++ rest)) {request : StateRequest}
    (hcursor : GenuineCursor (stateOf sha256 (log ++ rest) request) state.durable)
    (hkey : state.durable.contextKey = page.contextKey)
    (hpending : contiguousFrom (state.durable.serverHighestSequence + 1)
      (state.durable.pending.filter (eventMatchesContext page)) = true)
    (hsent : encodeStateResponseChunks (stateOf sha256 log request) ≠ []) (calls : StateCalls)
    {message : StateMessage} {complete : CompleteState}
    (hcomplete : (collectStateChunk page calls.now state.stateChunks message).2 = some complete)
    (hgenuine : CompleteFor (stateOf sha256 log request) complete) :
    let after := applyStateResponse sha256 page calls state message
    (complete.highestContiguousSequence < state.durable.serverHighestSequence →
      ¬(state.awaitingStateReconcile = true ∧ state.durable.serverFinalized = true) →
      after = { state with
        stateChunks := (collectStateChunk page calls.now state.stateChunks message).1 }) ∧
    (¬complete.highestContiguousSequence < state.durable.serverHighestSequence →
      Resumes page calls complete.highestContiguousSequence complete.finalized state after) := by
  intro after
  have hafter : after = applyCompleteState sha256 page calls { state with
      stateChunks := (collectStateChunk page calls.now state.stateChunks message).1 } complete := by
    simp only [after, applyStateResponse, hcomplete]
  rw [hafter]
  refine ⟨fun hlower hregression => applyCompleteState_lower calls hreach.sound hlower hregression,
    fun hnotLower => ?_⟩
  rcases stateOf_prefix hlog request with hshorter | hsame
  · rw [← hgenuine.highest, ← hcursor.highest] at hshorter
    exact absurd hshorter hnotLower
  · rw [hsame] at hsent hgenuine
    have hown := ownWatermark_of_genuine hlog hsent hcursor hgenuine hpending
    have hresumes := @applyCompleteState_own sha256 page { state with
      stateChunks := (collectStateChunk page calls.now state.stateChunks message).1 } complete calls
      hreach.sound hkey hown (hcursor.finalized.trans hgenuine.finalized.symm)
    exact ⟨hresumes.continues, hresumes.conflict⟩

/-! ## The page of `firstAnswer` -/

/-- The state of a session without events, as the page gets it. -/
def emptyStateMessage : StateMessage where
  packageId := ascii "p"
  packageDigestHex := firstPageEvent.packageDigestHex
  clientIdHex := firstPageEvent.clientIdHex
  sessionIdHex := firstPageEvent.sessionIdHex
  candidateId := ascii "c"
  highestContiguousSequence := 0
  finalized := false
  stateHashHex := hexString (Block.zero 32).toList
  lastEventHashHex := hexString (Block.zero 32).toList
  chunkIndex := 0
  chunkCount := 1
  answers := []

/-- The same state once it is complete. -/
def emptyState : CompleteState where
  packageId := ascii "p"
  packageDigestHex := firstPageEvent.packageDigestHex
  clientIdHex := firstPageEvent.clientIdHex
  sessionIdHex := firstPageEvent.sessionIdHex
  candidateId := ascii "c"
  highestContiguousSequence := 0
  finalized := false
  stateHashHex := hexString (Block.zero 32).toList
  lastEventHashHex := hexString (Block.zero 32).toList
  answers := []

/-- A browser in which everything succeeds. -/
def readyCalls : StateCalls :=
  ⟨1, true, true, true, ⟨true, 1, true, true, true, true, true⟩, ⟨true, 1, true, true, true, true, true⟩⟩

lemma stateOf_nil (sha256 : Bytes → Digest) (request : StateRequest) :
    stateOf sha256 [] request = request.emptyResponse := by
  simp [stateOf]

lemma completeFor_emptyState : CompleteFor firstRequest.emptyResponse emptyState :=
  ⟨rfl, rfl, rfl, rfl⟩

/-- What storage holds once `firstAnswer` has been acknowledged. -/
def acknowledgedStoredState : StoredState :=
  { firstStoredState with
    previousEventHashHex := .string firstPageEvent.eventHashHex
    serverHighestSequence := .number (.integer 1)
    serverLastEventHashHex := .string firstPageEvent.eventHashHex
    serverStateHashHex := .string (hexString firstStateHash.toList)
    pending := [] }

/-- A page that knows of `firstAnswer` and waits for a state. -/
def waitingPage : PageState :=
  (startPage firstSha256 firstPage (some acknowledgedStoredState)).beginStateReconcile

lemma stateOf_firstAnswer :
    let response := stateOf firstSha256 [firstAnswer] firstRequest
    response.highestContiguousSequence = 1 ∧ response.lastEventHash = firstAnswerHash ∧
      response.stateHash = firstStateHash ∧ response.finalized = false := by
  have hs : (replay firstSha256 [firstAnswer])[requestKey firstRequest]? =
      some ((SessionData.fresh firstAnswer).accept firstAnswer (eventHash firstSha256 firstAnswer)) := by
    have hk : sessionKey firstAnswer = requestKey firstRequest := rfl
    rw [← List.nil_append [firstAnswer], replay_concat, getElem?_indexEvent, if_pos hk]
    simp [sessionFor]
  have hw : answerEventWire firstAnswer = encodeAnswerEvent firstAnswer :=
    (encodeAnswerEvent_of_valid validAnswerEvent_firstAnswer).symm
  simp only [stateOf, hs, SessionData.response]
  refine ⟨rfl, ?_, ?_, rfl⟩
  · simp only [SessionData.accept, eventHash, hw, firstSha256, if_true]
  · -- the state begins with the number of events, the event with its magic number
    simp only [stateHash, firstSha256]
    refine if_neg fun he => ?_
    have hst : ∀ rest : Bytes, (le firstAnswer.sequence ++ rest).head? = some 1 := fun _ => rfl
    have hev : (encodeAnswerEvent firstAnswer).head? = some 0x4e := by decide +kernel
    have hh := congrArg List.head? he
    rw [List.append_assoc, hev] at hh
    exact absurd ((hst _).symm.trans hh) (by decide)

/-- An empty state does not disturb a page that has an answer acknowledged. -/
theorem late_state_harmless_firstAnswer :
    stateMessageOf (stateOf firstSha256 [] firstRequest) = some emptyStateMessage ∧
      applyStateResponse firstSha256 firstPage readyCalls waitingPage emptyStateMessage =
        waitingPage := by
  have hlog : AcceptedLog firstSha256 ([] ++ [firstAnswer]) :=
    .snoc .nil (acceptable_of_new validAnswerEvent_firstAnswer (by simp) (by decide) rfl)
  obtain ⟨hhighest, hlast, hstate, hfinalized⟩ := stateOf_firstAnswer
  have hcursor : GenuineCursor (stateOf firstSha256 ([] ++ [firstAnswer]) firstRequest)
      waitingPage.durable := by
    rw [List.nil_append]
    refine ⟨?_, ?_, ?_, ?_⟩
    · rw [hhighest]
      decide +kernel
    · rw [hlast]
      decide +kernel
    · rw [hstate]
      decide +kernel
    · rw [hfinalized]
      rfl
  have hreach : PageReach firstSha256 firstPage waitingPage := .reconciling (.started _ _)
  have hkey : waitingPage.durable.contextKey = firstPage.contextKey := by decide +kernel
  have hpending : contiguousFrom (waitingPage.durable.serverHighestSequence + 1)
      (waitingPage.durable.pending.filter (eventMatchesContext firstPage)) = true := by
    decide +kernel
  have hsent : encodeStateResponseChunks (stateOf firstSha256 [] firstRequest) ≠ [] := by
    rw [stateOf_nil]
    decide +kernel
  have hcomplete : collectStateChunk firstPage 1 none emptyStateMessage = (none, some emptyState) :=
    rfl
  have hgenuine : CompleteFor (stateOf firstSha256 [] firstRequest) emptyState := by
    rw [stateOf_nil]
    exact completeFor_emptyState
  refine ⟨by rw [stateOf_nil]; rfl, ?_⟩
  have hlate := (late_state_harmless hreach hlog hcursor hkey hpending hsent readyCalls
    (congrArg Prod.snd hcomplete) hgenuine).1 (by decide +kernel) (by decide +kernel)
  exact hlate.trans (congrArg (fun chunks => { waitingPage with stateChunks := chunks })
    (congrArg Prod.fst hcomplete))

/-- A page with a draft for its only question. -/
def draftedPage : PageState :=
  queueAnswerDraft firstPage true (startPage firstSha256 firstPage none) (ascii "q") (.string (ascii "A"))

/-- The state the page already knows about sets its first draft going: the draft becomes a pending
event and takes a number. -/
theorem late_state_numbers_draft : PageReach firstSha256 firstPage draftedPage ∧
      GenuineCursor (stateOf firstSha256 [] firstRequest) draftedPage.durable ∧
      draftedPage.durable.contextKey = firstPage.contextKey ∧ draftedPage.durable.pending = [] ∧
      stateMessageOf (stateOf firstSha256 [] firstRequest) = some emptyStateMessage ∧
      collectStateChunk firstPage 1 draftedPage.stateChunks emptyStateMessage = (none, some emptyState) ∧
      CompleteFor (stateOf firstSha256 [] firstRequest) emptyState ∧
      draftedPage.durable.drafts.length = 1 ∧ draftedPage.durable.nextSequence = 1 ∧
      let after := applyStateResponse firstSha256 firstPage readyCalls draftedPage emptyStateMessage
      after.durable.pending = [firstPageEvent] ∧ after.durable.drafts.length = 0 ∧
        after.durable.nextSequence = 2 := by
  rw [stateOf_nil]
  refine ⟨.drafted (.started _ _) _ _ _, ⟨?_, ?_, ?_, rfl⟩, ?_, ?_, rfl, rfl,
    completeFor_emptyState, ?_, ?_, ?_, ?_, ?_⟩
  · decide +kernel
  · decide +kernel
  · decide +kernel
  · decide +kernel
  · decide +kernel
  · decide +kernel
  · decide +kernel
  · decide +kernel
  · decide +kernel
  · decide +kernel

end Nstu.Web
