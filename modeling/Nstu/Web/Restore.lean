import Nstu.Web.Changes

/-!
# The durable state after a reload

Whether `loadDurableState` of `exam/web/app.js` gives back what `persistDurableState` has written.

`Kept` is what holds of the durable state at any time in the page (`PageReach.kept`): every event passes
the checks of the loader except, perhaps, the one on its question's id, there are not too many events,
and the cursor is either empty or complete.

That is not enough.  The loader cuts the context key after 512 code units, which the key of a context
may exceed, and drops the key of a draft that is longer; it refuses ids that `normalizeManifest` lets
through; it takes 512 drafts; and where no cursor is recorded it infers one from the predecessor hash,
though an acknowledgement for a later sequence has just set that hash.  In all other states the durable
state survives (`durable_survives_iff`).
-/

namespace Nstu.Web

open Wire Text Relation List Option

/-! ## What holds at any time -/

/-- The id of a question passes `validIdentifier`. -/
def IdFits (id : Utf16) : Prop := 0 ∉ id ∧ utf8ByteLength id ≤ 128

instance (id : Utf16) : Decidable (IdFits id) := inferInstanceAs (Decidable (_ ∧ _))

section Kept

variable (sha256 : Bytes → Digest) (page : ExamPage)

/-- What holds of a draft at any time. -/
structure KeptDraft (entry : Utf16 × Draft) : Prop where
  id : entry.1 ≠ []
  questionRevision : 0 < entry.2.questionRevision ∧ entry.2.questionRevision ≤ 0xffffffff
  answer : utf8ByteLength (answerText entry.2.value) ≤ MAX_ANSWER_BYTES

/-- There is no cursor, or one with a hash. -/
def CursorKept (durable : Durable) : Prop :=
  (durable.serverHighestSequence = 0 ∧ durable.serverLastEventHashHex = [] ∧ durable.serverStateHashHex = []) ∨
    (durable.serverHighestSequence ≠ 0 ∧ durable.serverLastEventHashHex ≠ [])

/-- **What holds of the durable state at any time.** -/
structure Kept (durable : Durable) : Prop where
  sound : durable.Sound sha256
  events : ∀ event ∈ durable.pending, IdFits event.questionId → StorableEvent sha256 event
  length : durable.pending.length ≤ MAX_DURABLE_EVENTS
  next : 0 < durable.nextSequence ∧ durable.nextSequence ≤ maxSafeInteger
  drafts : ∀ entry ∈ durable.drafts, KeptDraft entry
  cursor : CursorKept durable
  lastHash : normalizeNonZeroHex durable.serverLastEventHashHex 32 = durable.serverLastEventHashHex
  stateHash : normalizeNonZeroHex durable.serverStateHashHex 32 = durable.serverStateHashHex
  contextKey : page.contextKey ≠ [] → durable.contextKey ≠ []

end Kept

section Events

variable {sha256 : Bytes → Digest} {page : ExamPage}

lemma storable_withPredecessor (hs : ∀ bytes, sha256 bytes ≠ Block.zero 32) {previous : Utf16}
    {event : PageEvent} (hp : normalizeNonZeroHex previous 32 = previous)
    (h : StorableEvent sha256 event) : StorableEvent sha256 (withPredecessor sha256 previous event) where
  packageId := h.packageId
  packageDigestHex := h.packageDigestHex
  clientIdHex := h.clientIdHex
  sessionIdHex := h.sessionIdHex
  candidateId := h.candidateId
  questionId := h.questionId
  questionRevision := h.questionRevision
  sequence := h.sequence
  clientTime := h.clientTime
  answer := h.answer
  previousEventHashHex := (Decidable.em (previous = [])).imp_right fun hn => nonZeroHex_of_normal hp hn
  finalize := h.finalize
  clear := h.clear
  question := h.question
  hash := rfl
  hashed := (hashed_withPredecessor ⟨h.hash, h.hashed⟩ hp).2
  packageDigestNormal := h.packageDigestNormal
  clientIdNormal := h.clientIdNormal
  sessionIdNormal := h.sessionIdNormal
  previousNormal := hp
  hashNormal := normalizeNonZeroHex_eventHashHex hs _

lemma storable_rebaseHead (hs : ∀ bytes, sha256 bytes ≠ Block.zero 32) {durable : Durable} {event : PageEvent}
    (hp : normalizeNonZeroHex durable.previousEventHashHex 32 = durable.previousEventHashHex)
    (h : StorableEvent sha256 event) :
    StorableEvent sha256 (rebaseHead sha256 page durable event) := by
  simp only [rebaseHead]
  split
  · exact storable_withPredecessor hs hp h
  split
  · exact storable_withPredecessor hs rfl h
  · exact h

lemma relinkEvent_cases (previous : Utf16) (event : PageEvent) : relinkEvent sha256 previous event = event ∨
      relinkEvent sha256 previous event = withPredecessor sha256 previous event := by
  simp only [relinkEvent]
  split
  · exact .inr rfl
  · exact .inl rfl

lemma mem_relinkPending {lastHash : Utf16} {highest : ℕ} {first : Bool} {pending : List PageEvent}
    (hl : normalizeNonZeroHex lastHash 32 = lastHash) :
    ∀ {output}, relinkPending sha256 page lastHash highest first pending = some output →
      ∀ event ∈ output, ∃ original ∈ pending, event = original ∨
        ∃ previous, normalizeNonZeroHex previous 32 = previous ∧
          event = withPredecessor sha256 previous original := by
  fun_induction relinkPending sha256 page lastHash highest first pending with
  | case1 first =>
    intro output h
    cases h
    simp
  | case2 first event rest hs ih =>
    intro output h
    obtain ⟨tail, ht, rfl⟩ := map_eq_some_iff.mp h
    rw [forall_mem_cons]
    refine ⟨⟨event, mem_cons_self, .inl rfl⟩, fun found hf => ?_⟩
    obtain ⟨original, ho, hsa⟩ := ih ht found hf
    exact ⟨original, mem_cons_of_mem _ ho, hsa⟩
  | case3 first event rest hs linked =>
    intro output h
    cases h
  | case4 first event rest hs linked he =>
    rename_i ih
    intro output h
    obtain ⟨tail, ht, rfl⟩ := map_eq_some_iff.mp h
    rw [forall_mem_cons]
    refine ⟨⟨event, mem_cons_self, ?_⟩, fun found hf => ?_⟩
    · refine (relinkEvent_cases _ event).imp_right fun hli => ⟨_, ?_, hli⟩
      split
      · exact hl
      · rfl
    · obtain ⟨original, ho, hsa⟩ := ih ht found hf
      exact ⟨original, mem_cons_of_mem _ ho, hsa⟩

lemma storable_of_newEvent (hsha : ∀ bytes, sha256 bytes ≠ Block.zero 32)
    (hready : page.bridgeReady) {durable : Durable}
    (hnext : 0 < durable.nextSequence ∧ durable.nextSequence < maxSafeInteger)
    (hprev : normalizeNonZeroHex durable.previousEventHashHex 32 = durable.previousEventHashHex)
    {now : ℕ} {questionId : Utf16} {questionRevision : ℕ} {kind : PageKind} {answer : Utf16}
    {event : PageEvent}
    (hevent : newEvent sha256 page durable now questionId questionRevision kind answer = some event)
    (hid : IdFits questionId) (hrevi : 0 < questionRevision ∧ questionRevision ≤ 0xffffffff)
    (hansw : utf8ByteLength answer ≤ MAX_ANSWER_BYTES) : StorableEvent sha256 event := by
  obtain ⟨hhash, hhashe⟩ := newEvent_hashed hevent
  have hfiel := (canonicalEventBytes_isSome_iff.mp (eventHashHex_ne_nil_iff.mp (hhash ▸ hhashe))).2.2.2.2
  have hparts : isSafePositive now ∧ EventParts questionId questionRevision kind answer := by
    have hcont : event.questionId = questionId ∧ event.kind = kind ∧ event.answer = answer ∧
        event.clientTimeUnixMilliseconds = now := by
      simp only [newEvent] at hevent
      split at hevent
      · cases hevent
      · cases hevent
        exact ⟨rfl, rfl, rfl, rfl⟩
    obtain ⟨rfl, rfl, rfl, rfl⟩ := hcont
    simp only [canonicalFields, Bool.and_eq_true, Bool.not_eq_true', Bool.and_eq_false_iff,
      Bool.or_eq_false_iff, beq_eq_false_iff_ne, bne_eq_false_iff_eq, Bool.not_eq_false',
      List.isEmpty_iff, List.isEmpty_eq_false_iff, List.length_eq_zero_iff, utf8_eq_nil_iff] at hfiel
    obtain ⟨⟨⟨⟨-, hnow⟩, hfina⟩, hclear⟩, hques⟩ := hfiel
    exact ⟨hnow, hid, hrevi, hansw, fun hkind => hfina.resolve_left fun hne => hne hkind,
      fun hkind => hclear.resolve_left fun hne => hne hkind,
      fun hkind => hques.resolve_left hkind⟩
  obtain ⟨same, hsame, hstor⟩ := newEvent_storable hsha hready hnext hprev hparts.1 hparts.2
  rw [hevent] at hsame
  exact some.inj hsame ▸ hstor

/-! ## One change -/

lemma mem_currentDrafts {key : Utf16} {drafts : List (Utf16 × Draft)} {entry : Utf16 × Draft}
    (h : entry ∈ currentDrafts key drafts) :
    ∃ original ∈ drafts, entry = (original.1, { original.2 with contextKey := key }) := by
  obtain ⟨original, ho, rfl⟩ := mem_map.mp h
  exact ⟨original, mem_of_mem_filter ho, rfl⟩

lemma currentDrafts_kept {key : Utf16} {drafts : List (Utf16 × Draft)}
    (h : ∀ entry ∈ drafts, KeptDraft entry) : ∀ entry ∈ currentDrafts key drafts, KeptDraft entry := by
  intro entry he
  obtain ⟨original, ho, rfl⟩ := mem_currentDrafts he
  exact ⟨(h original ho).id, (h original ho).questionRevision, (h original ho).answer⟩

lemma maxPendingSequence_next {pending : List PageEvent} {next : ℕ} (hn : 0 < next ∧ next ≤ maxSafeInteger) :
    let maximum := maxPendingSequence pending
    0 < max next (if maximum < maxSafeInteger then maximum + 1 else maxSafeInteger) ∧
      max next (if maximum < maxSafeInteger then maximum + 1 else maxSafeInteger) ≤
        maxSafeInteger := by
  intro maximum
  refine ⟨lt_max_of_lt_left hn.1, max_le hn.2 ?_⟩
  split <;> omega

lemma quarantined_kept {durable : Durable} (h : Kept sha256 page durable) :
    Kept sha256 page (durable.quarantined page) := by
  have hs := (@quarantined_advances sha256 page durable h.sound).1
  have he : ∀ event ∈ durable.pending.filter (eventMatchesContext page),
      IdFits event.questionId → StorableEvent sha256 event :=
    fun event hev => h.events event (mem_of_mem_filter hev)
  have hl : (durable.pending.filter (eventMatchesContext page)).length ≤ MAX_DURABLE_EVENTS :=
    (length_filter_le _ _).trans h.length
  have hd := @currentDrafts_kept page.contextKey durable.drafts h.drafts
  simp only [Durable.quarantined] at hs ⊢
  split
  · rename_i hk
    rw [if_pos hk] at hs
    exact { h with sound := hs, events := he, length := hl, drafts := hd }
  · rename_i hk
    rw [if_neg hk] at hs
    exact
      { sound := hs
        events := he
        length := hl
        next := maxPendingSequence_next (isSafePositive_iff.mp page.context.nextSequenceSafe)
        drafts := hd
        cursor := .inl ⟨rfl, rfl, rfl⟩
        lastHash := rfl
        stateHash := rfl
        contextKey := fun hn => hn }

lemma rebased_kept (hs : ∀ bytes, sha256 bytes ≠ Block.zero 32) {durable : Durable}
    {event : PageEvent} {rest : List PageEvent} (hp : durable.pending = event :: rest)
    (h : Kept sha256 page durable) :
    Kept sha256 page { durable with pending := rebaseHead sha256 page durable event :: rest } := by
  have hr : Advances sha256 page durable { durable with
      pending := rebaseHead sha256 page durable event :: rest } :=
    replaceHead_advances hp (content_rebaseHead durable event) fun hso => hashed_rebaseHead hso.previous
  have he := h.events
  have hl := h.length
  rw [hp] at he hl
  rw [forall_mem_cons] at he
  have hi : (rebaseHead sha256 page durable event).questionId = event.questionId := by
    show (rebaseHead sha256 page durable event).content.questionId = event.content.questionId
    rw [content_rebaseHead]
  refine { h with sound := (hr h.sound).1, events := ?_, length := hl }
  rw [forall_mem_cons, hi]
  exact ⟨fun hf => storable_rebaseHead hs h.sound.previous (he.1 hf), he.2⟩

lemma queued_kept {before after : Durable} {event : PageEvent} (h : Kept sha256 page before)
    (hnone : before.pending = []) (hnext : before.nextSequence < maxSafeInteger)
    (hhash : event.Hashed sha256)
    (hevent : IdFits event.questionId → StorableEvent sha256 event)
    (hdraf : ∀ entry ∈ after.drafts, entry ∈ before.drafts)
    (hafter : after = { before with
      drafts := after.drafts, finalizeRequested := after.finalizeRequested
      pending := before.pending ++ [event], nextSequence := before.nextSequence + 1 }) :
    Kept sha256 page after := by
  have hpend : after.pending = [event] := by rw [hafter, hnone]; rfl
  have hsound : Advances sha256 page before after := by
    refine queued_advances ?_ ?_ ?_ hpend hhash <;> rw [hafter]
  have hsequ : after.nextSequence = before.nextSequence + 1 := by rw [hafter]
  have hcurs := h.cursor
  refine
    { sound := (hsound h.sound).1
      events := by
        rw [hpend]
        simpa using hevent
      length := by
        rw [hpend, length_singleton]
        decide
      next := by
        rw [hsequ]
        exact ⟨Nat.succ_pos _, hnext⟩
      drafts := fun entry hentry => h.drafts entry (hdraf entry hentry)
      cursor := ?_
      lastHash := ?_
      stateHash := ?_
      contextKey := ?_ }
  · rw [hafter]
    exact h.cursor
  · rw [hafter]
    exact h.lastHash
  · rw [hafter]
    exact h.stateHash
  · rw [hafter]
    exact h.contextKey

lemma retired_kept {state : PageState} {event : PageEvent} {rest : List PageEvent} {highest : ℕ}
    {stateHash : Utf16} (h : Kept sha256 page state.durable)
    (hpend : state.durable.pending = event :: rest) (hhashe : event.Hashed sha256)
    (hhash : normalizeNonZeroHex (localHash sha256 event) 32 = localHash sha256 event)
    (hstat : normalizeNonZeroHex stateHash 32 = stateHash) :
    Kept sha256 page (retireHead state event rest highest (localHash sha256 event) stateHash).durable := by
  obtain ⟨hsafe, -, hlocal⟩ := hhashe.canonical
  rw [isSafePositive_iff] at hsafe
  have horde := h.sound.ordered
  have hall := h.sound.hashed
  have heven := h.events
  have hleng := h.length
  rw [hpend] at horde hall heven hleng
  have hrest : rest.length ≤ MAX_DURABLE_EVENTS := (Nat.le_succ _).trans hleng
  have horde' := (pairwise_cons.mp horde).2
  have hall' := (forall_mem_cons.mp hall).2
  have heven' := (forall_mem_cons.mp heven).2
  simp only [retireHead]
  -- the watermark moves to the event, or stays
  have hmoved : CursorKept { state.durable with
      serverHighestSequence := event.sequence, serverLastEventHashHex := localHash sha256 event
      serverStateHashHex := stateHash } := .inr ⟨Nat.ne_of_gt hsafe.1, hlocal⟩
  split <;> split
  · exact { h with
      sound := ⟨horde', hall', hsafe.2, hhash⟩, events := heven', length := hrest
      cursor := hmoved, lastHash := hhash, stateHash := hstat }
  · rename_i hfinal hstays
    exact absurd (Bool.and_eq_true_iff.mp hfinal).2 hstays
  · exact { h with
      sound := ⟨horde', hall', hsafe.2, hhash⟩, events := heven', length := hrest
      cursor := hmoved, lastHash := hhash, stateHash := hstat }
  · exact { h with
      sound := ⟨horde', hall', h.sound.cursor, hhash⟩, events := heven', length := hrest }

lemma repair_range {stored : Bool} {durable after : Durable} {lastHash stateHash : Utf16}
    {highest : ℕ} {answers : List RecoveredAnswer}
    (h : repairPendingChain sha256 page stored durable lastHash highest answers stateHash = (after, true)) :
    (highest = 0 ∧ normalizeNonZeroHex lastHash 32 = [] ∧ normalizeNonZeroHex stateHash 32 = []) ∨
      (highest ≠ 0 ∧ normalizeNonZeroHex lastHash 32 ≠ []) := by
  simp only [repairPendingChain_eq] at h
  split at h
  · cases (Prod.mk.inj h).2
  rename_i hr
  simp only [Bool.or_eq_true, Bool.and_eq_true, decide_eq_true_eq, beq_iff_eq, Bool.not_eq_true',
    List.isEmpty_iff, List.isEmpty_eq_false_iff, not_or, not_and, not_not] at hr
  obtain ⟨⟨-, hp⟩, hz⟩ := hr
  rcases Nat.eq_zero_or_pos highest with hn | hs
  · exact .inl ⟨hn, hz hn⟩
  · exact .inr ⟨Nat.ne_of_gt hs, (hp hs).1⟩

lemma repaired_kept (hsha : ∀ bytes, sha256 bytes ≠ Block.zero 32) {stored : Bool}
    {durable after : Durable} {lastHash stateHash : Utf16} {highest : ℕ}
    {answers : List RecoveredAnswer} (h : Kept sha256 page durable)
    (hrepa : repairPendingChain sha256 page stored durable lastHash highest answers stateHash =
      (after, true)) : Kept sha256 page after := by
  have hrange := repair_range hrepa
  obtain ⟨-, hsound, -⟩ := repaired_of_repairPendingChain h.sound hrepa
  obtain ⟨hhigh, -, -, pending, hreli, rfl⟩ := repairPendingChain_eq_true h.sound hrepa
  have hnorm := normalizeNonZeroHex_idem lastHash 32
  have hleng : pending.length ≤ MAX_DURABLE_EVENTS := by
    rw [← (relinkPending_spec hreli).1.length_eq]
    exact (length_filter_le _ _).trans h.length
  refine
    { sound := hsound
      events := fun event hevent hfits => ?_
      length := hleng
      next := ⟨lt_max_of_lt_left h.next.1, max_le h.next.2 ?_⟩
      drafts := h.drafts
      cursor := hrange
      lastHash := hnorm
      stateHash := normalizeNonZeroHex_idem stateHash 32
      contextKey := h.contextKey }
  · obtain ⟨original, horig, hsame⟩ := mem_relinkPending hnorm hreli event hevent
    have hkept := h.events original (mem_of_mem_filter horig)
    rcases hsame with rfl | ⟨previous, hprev, rfl⟩
    · exact hkept hfits
    · exact storable_withPredecessor hsha hprev (hkept hfits)
  · split
    · exact hhigh
    · rename_i hbelow
      rw [beq_iff_eq] at hbelow
      omega

lemma setDraft_kept {id : Utf16} {draft : Draft} {drafts : List (Utf16 × Draft)}
    (h : ∀ entry ∈ drafts, KeptDraft entry) (hn : KeptDraft (id, draft)) :
    ∀ entry ∈ setDraft id draft drafts, KeptDraft entry := by
  intro entry he
  simp only [setDraft] at he
  split at he
  · obtain ⟨original, ho, rfl⟩ := mem_map.mp he
    split
    · exact hn
    · exact h original ho
  · rw [mem_addDraft, mem_cons] at he
    rcases he with rfl | he
    · exact hn
    · exact h entry he

lemma keptDraft_of_accepted {id : Utf16} {value : Json} {draft : Draft}
    (h : acceptedDraft page id value = some draft) : KeptDraft (id, draft) := by
  simp only [acceptedDraft, bind_eq_some_iff] at h
  obtain ⟨item, hi, h⟩ := h
  have hf := find?_some hi
  split at h
  · cases h
  rename_i hs
  cases h
  exact ⟨(beq_iff_eq.mp hf : item.id = id) ▸ item.idBounds.1, item.revisionBounds, Nat.not_lt.mp hs⟩

lemma storable_of_draft (hsha : ∀ bytes, sha256 bytes ≠ Block.zero 32)
    (hready : page.bridgeReady) {durable : Durable} (h : Kept sha256 page durable) {now : ℕ}
    {id : Utf16} {draft : Draft} {event : PageEvent}
    (hevent : durableEventForDraft sha256 page durable now id draft = some event) :
    durable.nextSequence < maxSafeInteger ∧ (IdFits event.questionId → StorableEvent sha256 event) := by
  have hques := (durableEventForDraft_spec hready hevent).2.1
  simp only [durableEventForDraft] at hevent
  split at hevent
  · cases hevent
  rename_i item hitem
  split at hevent
  · cases hevent
  rename_i hchec
  have hfound := find?_some hitem
  simp only [Bool.or_eq_true, decide_eq_true_eq, not_or, Nat.not_lt, Nat.not_le] at hchec
  obtain ⟨⟨⟨⟨⟨-, -⟩, hsize⟩, -⟩, hnext⟩, -⟩ := hchec
  refine ⟨hnext, fun hfits => ?_⟩
  rw [hques, ← beq_iff_eq.mp hfound] at hfits
  exact storable_of_newEvent hsha hready ⟨h.next.1, hnext⟩ h.sound.previous hevent hfits item.revisionBounds hsize

/-- **A change keeps what holds of the durable state.** -/
lemma Change.kept (hsha : ∀ bytes, sha256 bytes ≠ Block.zero 32) {before after : Durable}
    (h : Change sha256 page before after) (hkept : Kept sha256 page before) :
    Kept sha256 page after := by
  cases h with
  | quarantined hready => exact quarantined_kept hkept
  | rebased hpend => exact rebased_kept hsha hpend hkept
  | queued hready hpend hdraf hevent =>
    obtain ⟨hnext, hstor⟩ := storable_of_draft hsha hready hkept hevent
    refine queued_kept hkept hpend hnext (durableEventForDraft_hashed hevent) hstor ?_ rfl
    intro entry hentry
    rw [hdraf]
    exact mem_cons_of_mem _ hentry
  | restored hdraf =>
    refine { hkept with sound := hkept.sound.of_frame rfl rfl rfl, drafts := ?_ }
    intro entry hentry
    rw [mem_addDraft, ← hdraf] at hentry
    exact hkept.drafts entry hentry
  | finalQueued hready hpend hnext hevent =>
    have hfits : IdFits [] := ⟨not_mem_nil, Nat.zero_le _⟩
    have hstor := storable_of_newEvent hsha hready ⟨hkept.next.1, hnext⟩ hkept.sound.previous
      hevent hfits (by decide) (Nat.zero_le _)
    exact queued_kept hkept hpend hnext (newEvent_hashed hevent) (fun _ => hstor)
      (fun _ hentry => hentry) rfl
  | retired hpend hhashe hhash hstat =>
    exact retired_kept hkept hpend hhashe hhash hstat
  | repaired hrepa => exact repaired_kept hsha hkept hrepa
  | finalized => exact { hkept with sound := hkept.sound.of_frame rfl rfl rfl }
  | drafted hacce =>
    exact { hkept with
      sound := hkept.sound.of_frame rfl rfl rfl
      drafts := setDraft_kept hkept.drafts (keptDraft_of_accepted hacce) }
  | finalizing => exact { hkept with sound := hkept.sound.of_frame rfl rfl rfl }

lemma Changes.kept (hs : ∀ bytes, sha256 bytes ≠ Block.zero 32) {before after : Durable}
    (h : Changes sha256 page before after) (hk : Kept sha256 page before) :
    Kept sha256 page after := by
  induction h with
  | refl => exact hk
  | tail _ hc ih => exact hc.kept hs ih

/-! ## Loading -/

/-- **What `validStoredEvent` returns passes its checks again.** -/
lemma storable_of_validStoredEvent (hs : ∀ bytes, sha256 bytes ≠ Block.zero 32)
    {value : StoredValue} {event : PageEvent} (h : validStoredEvent sha256 value = some event) :
    StorableEvent sha256 event := by
  have ha := acceptedEvent_of_validStoredEvent h
  have hn := normalizeNonZeroHex_eventHashHex hs event
  rw [← ha.hash] at hn
  simp only [validStoredEvent] at h
  split at h
  · cases h
  rename_i fields hf
  obtain ⟨hd, hc, hse, hp⟩ := (storedFields_spec hf).2
  split_ifs at h
  cases h
  exact
    { ha with
      packageDigestNormal := hd
      clientIdNormal := hc
      sessionIdNormal := hse
      previousNormal := hp
      hashNormal := hn }

lemma mem_foldl_loadEvent (values : List (Option StoredValue)) {pending : List PageEvent}
    {P : PageEvent → Prop} (hv : ∀ value event, validStoredEvent sha256 value = some event → P event)
    (h : ∀ event ∈ pending, P event) :
    ∀ event ∈ values.foldl (loadEvent sha256) pending, P event := by
  induction values generalizing pending with
  | nil => exact h
  | cons value rest ih =>
    refine ih ?_
    intro event he
    simp only [loadEvent] at he
    split at he
    · exact h event he
    rename_i stored hs
    obtain ⟨found, -, hf⟩ := bind_eq_some_iff.mp hs
    split at he
    · rcases mem_append.mp he with he | he
      · exact h event he
      · rw [mem_singleton.mp he]
        exact hv found stored hf
    split at he
    · exact h event (mem_of_mem_eraseP he)
    · exact h event he

lemma storableDraft_of_validStoredDraft {id : Utf16} {value : StoredDraft} {draft : Draft}
    (h : validStoredDraft id value = some draft) : StorableDraft id draft := by
  simp only [validStoredDraft, bind_eq_bind, bind_eq_some_iff] at h
  obtain ⟨identifier, hi, revision, hr, stored, -, h⟩ := h
  obtain rfl : id = identifier := by
    simp only [validIdentifier, asString, filter_eq_some_iff, some.injEq] at hi
    exact hi.1
  have hf := validIdentifier_eq_some hi
  rw [filter_eq_some_iff] at hr
  split at h
  · cases h
  rename_i hc
  simp only [Bool.or_eq_true, decide_eq_true_eq, not_or, gt_iff_lt, Nat.not_lt] at hc
  cases h
  refine ⟨⟨hf.1.resolve_left (by simp), hf.2⟩,
    ⟨(safePositive_eq_some hr.1).1, of_decide_eq_true hr.2⟩, ?_, hc.1⟩
  cases hk : (asString value.contextKey).filter (·.length ≤ 512) with
  | none => exact Nat.zero_le _
  | some key => exact of_decide_eq_true (filter_eq_some_iff.mp hk).2

lemma inferCursor_cases (highest : ℕ) (lastHash previousHash : Utf16) (pending : List PageEvent) (nextSequence : ℕ) :
    inferCursor highest lastHash previousHash pending nextSequence = (highest, lastHash) ∨
      ((inferCursor highest lastHash previousHash pending nextSequence).1 ≠ 0 ∧
        (inferCursor highest lastHash previousHash pending nextSequence).2 = previousHash ∧
        previousHash ≠ []) := by
  simp only [inferCursor]
  split
  · rename_i hi
    simp only [Bool.and_eq_true, Bool.not_eq_true', List.isEmpty_eq_false_iff] at hi
    exact .inr ⟨Nat.ne_of_gt (isSafePositive_iff.mp hi.2).1, rfl, hi.1.2⟩
  · exact .inl rfl

/-- **Whatever storage holds, the loaded state is kept.** -/
lemma loadDurableState_kept (hsha : ∀ bytes, sha256 bytes ≠ Block.zero 32)
    (value : Option StoredState) : Kept sha256 page (loadDurableState sha256 page value) := by
  have hsound := @loadDurableState_sound sha256 page value
  have hcont := isSafePositive_iff.mp page.context.nextSequenceSafe
  cases value with
  | none =>
    exact
      { sound := hsound
        events := fun _ hevent => by cases hevent
        length := Nat.zero_le _
        next := hcont
        drafts := fun _ hentry => by cases hentry
        cursor := .inl ⟨rfl, rfl, rfl⟩
        lastHash := rfl
        stateHash := rfl
        contextKey := fun hne => hne }
  | some value =>
    refine
      { sound := hsound
        events := fun event hevent _ => ?_
        length := length_take_le _ _
        next := ?_
        drafts := fun entry hentry => ?_
        cursor := ?_
        lastHash := ?_
        stateHash := ?_
        contextKey := fun hne => ?_ }
    · exact mem_foldl_loadEvent _ (fun _ _ hvalid => storable_of_validStoredEvent hsha hvalid)
        (fun _ hnone => by cases hnone) event
        ((mem_insertionSort _).mp (mem_of_mem_take hevent))
    · simp only [loadDurableState]
      cases hnext : safePositive value.nextSequence with
      | none => exact hcont
      | some next => exact safePositive_eq_some hnext
    · obtain ⟨stored, -, hdraft⟩ := mem_filterMap.mp hentry
      obtain ⟨draft, hfound, rfl⟩ := map_eq_some_iff.mp hdraft
      obtain ⟨found, -, hvalid⟩ := bind_eq_some_iff.mp hfound
      have hstor := storableDraft_of_validStoredDraft hvalid
      exact ⟨hstor.id.1, hstor.questionRevision, hstor.answer⟩
    · simp only [CursorKept, loadDurableState]
      split
      · rename_i htrac
        simp only [Bool.and_eq_true, bne_iff_ne, ne_eq, Bool.not_eq_true', List.isEmpty_eq_false_iff] at htrac
        exact .inr htrac
      · exact .inl ⟨rfl, rfl, rfl⟩
    · simp only [loadDurableState]
      split
      · rcases inferCursor_cases (safeOrZero value.serverHighestSequence)
          (hashOrEmpty value.serverLastEventHashHex) (hashOrEmpty value.previousEventHashHex) _ _
          with hsame | ⟨-, hprev, -⟩
        · rw [hsame]
          exact hashOrEmpty_normal _
        · rw [hprev]
          exact hashOrEmpty_normal _
      · rfl
    · simp only [loadDurableState]
      split
      · exact hashOrEmpty_normal _
      · rfl
    · simp only [loadDurableState]
      split
      · rename_i key hkey
        split
        · exact hne
        · rename_i hfull
          cases key with
          | nil => exact absurd rfl hfull
          | cons unit rest => exact cons_ne_nil _ _
      · exact hne

lemma adoptTrustedContextCursor_kept {durable : Durable} (h : Kept sha256 page durable) :
    Kept sha256 page (adoptTrustedContextCursor page durable) := by
  have hc := isSafePositive_iff.mp page.context.nextSequenceSafe
  have hp : normalizeNonZeroHex (if durable.previousEventHashHex.isEmpty then
      page.context.previousEventHashHex else durable.previousEventHashHex) 32 =
      if durable.previousEventHashHex.isEmpty then page.context.previousEventHashHex
      else durable.previousEventHashHex := by
    split
    · exact page.context.previousNormal
    · exact h.sound.previous
  have hca := inferCursor_cases durable.serverHighestSequence durable.serverLastEventHashHex
    (if durable.previousEventHashHex.isEmpty then page.context.previousEventHashHex
      else durable.previousEventHashHex) durable.pending page.context.nextSequence
  refine { h with
    sound := adoptTrustedContextCursor_sound page h.sound
    next := ⟨lt_max_of_lt_left h.next.1, max_le h.next.2 hc.2⟩
    cursor := ?_
    lastHash := ?_ }
  · simp only [CursorKept, adoptTrustedContextCursor]
    rcases hca with hs | ⟨hh, hha, hn⟩
    · rw [hs]
      exact h.cursor
    · rw [hha]
      exact .inr ⟨hh, hn⟩
  · simp only [adoptTrustedContextCursor]
    rcases hca with hs | ⟨-, hha, -⟩
    · rw [hs]
      exact h.lastHash
    · rw [hha]
      exact hp

lemma bindContext_kept (hs : ∀ bytes, sha256 bytes ≠ Block.zero 32) {old : ExamPage}
    {state : PageState} (calls : FlushCalls × FlushCalls) (stored : Bool)
    (value : Option StoredState) (h : Kept sha256 old state.durable) :
    Kept sha256 page (bindContext sha256 page calls stored old.contextKey value state).durable := by
  simp only [bindContext]
  refine (flushAnswerBridge_changes calls _).kept hs ?_
  refine adoptTrustedContextCursor_kept ?_
  split
  · rename_i hk
    have hc : Kept sha256 page state.durable :=
      { h with contextKey := beq_iff_eq.mp hk ▸ h.contextKey }
    have hq := (quarantine_changes stored state).kept hs hc
    exact { hq with
      sound := hq.sound.of_frame rfl rfl rfl, contextKey := fun hn => hn }
  · exact (quarantine_changes stored _).kept hs (loadDurableState_kept hs value)

/-- **The durable state of the page is kept at any time.** -/
lemma PageReach.kept (hs : ∀ bytes, sha256 bytes ≠ Block.zero 32) {page : ExamPage}
    {state : PageState} (h : PageReach sha256 page state) : Kept sha256 page state.durable := by
  induction h with
  | started page value => exact adoptTrustedContextCursor_kept (loadDurableState_kept hs value)
  | received h message ih => exact (handleHostMessage_changes message h.sound).kept hs ih
  | flushed h calls ih => exact (flushAnswerBridge_changes calls _).kept hs ih
  | reconciling h ih | ackTimedOut h ih => exact ih
  | drafted h stored id value ih =>
    exact (queueAnswerDraft_changes stored _ id value).kept hs ih
  | finalizing h stored ih => exact (requestFinalization_changes stored _).kept hs ih
  | bound h context calls stored value ih => exact bindContext_kept hs calls stored value ih

/-! ## Reading back -/

lemma foldl_loadEvent_stored {rest : List PageEvent} : ∀ {done : List PageEvent},
    (done ++ rest).Pairwise (fun left right => left.sequence < right.sequence) →
    (∀ event ∈ rest, StorableEvent sha256 event) →
    (rest.map fun event => some event.stored).foldl (loadEvent sha256) done = done ++ rest := by
  induction rest with
  | nil =>
    intro done ho hs
    simp
  | cons event rest ih =>
    intro done ho hs
    rw [forall_mem_cons] at hs
    have hn : done.find? (fun candidate => candidate.sequence == event.sequence) = none := by
      rw [find?_eq_none]
      intro candidate hc
      have hb := (pairwise_append.mp ho).2.2 candidate hc event mem_cons_self
      simpa using Nat.ne_of_lt hb
    have hl : loadEvent sha256 done (some event.stored) = done ++ [event] := by
      simp only [loadEvent, bind_some, validStoredEvent_stored hs.1, hn]
    rw [append_cons] at ho ⊢
    rw [map_cons, foldl_cons, hl]
    exact ih ho hs.2

lemma loadedEvents_stored {durable : Durable} (h : Kept sha256 page durable)
    (hi : ∀ event ∈ durable.pending, IdFits event.questionId) :
    (durable.stored.pending.take (MAX_DURABLE_EVENTS * 2)).foldl (loadEvent sha256) [] =
      durable.pending := by
  have ht : durable.stored.pending.take (MAX_DURABLE_EVENTS * 2) =
      durable.pending.map fun event => some event.stored := by
    refine take_of_length_le ?_
    have hl := h.length
    simp only [Durable.stored, length_map, MAX_DURABLE_EVENTS] at hl ⊢
    omega
  rw [ht]
  exact @foldl_loadEvent_stored sha256 _ [] h.sound.ordered
    fun event he => h.events event he (hi event he)

lemma filterMap_validStoredDraft {drafts : List (Utf16 × Draft)}
    (h : ∀ entry ∈ drafts, StorableDraft entry.1 entry.2) :
    (drafts.map fun entry => (entry.1, some entry.2.stored)).filterMap (fun entry =>
      (entry.2.bind (validStoredDraft entry.1)).map fun draft => (entry.1, draft)) = drafts := by
  induction drafts with
  | nil => rfl
  | cons entry rest ih =>
    rw [forall_mem_cons] at h
    simp only [map_cons, filterMap_cons, bind_some, validStoredDraft_stored h.1, map_some]
    rw [ih h.2]

end Events

/-- The durable state has nothing that the loader cuts, drops or makes up. -/
structure ReloadFits (durable : Durable) : Prop where
  contextKey : durable.contextKey.length ≤ 512
  draftKeys : ∀ entry ∈ durable.drafts, entry.2.contextKey.length ≤ 512
  draftCount : durable.drafts.length ≤ MAX_DURABLE_EVENTS * 2
  pendingIds : ∀ event ∈ durable.pending, IdFits event.questionId
  draftIds : ∀ entry ∈ durable.drafts, IdFits entry.1
  cursor : ¬(durable.serverHighestSequence = 0 ∧ durable.previousEventHashHex ≠ [] ∧
    isSafePositive (inferredHighest durable.pending durable.nextSequence) = true)

section Reload

variable {sha256 : Bytes → Digest} {page : ExamPage}

lemma contextKey_ne_nil (h : page.bridgeReady) : page.contextKey ≠ [] := by
  simp only [ExamPage.bridgeReady, Bool.and_eq_true, Bool.not_eq_true', beq_iff_eq] at h
  obtain ⟨⟨⟨⟨⟨-, hm⟩, hd⟩, hc⟩, hs⟩, hca⟩ := h
  simp only [ExamPage.contextKey, hm, hd, hc, hs, hca,
    bne_self_eq_false, Bool.or_false, Bool.false_eq_true, if_false, Json.stringify, ascii]
  exact cons_ne_nil _ _

/-- **A state that fits is loaded as it was written.** -/
lemma loadDurableState_stored {durable : Durable} (h : Kept sha256 page durable)
    (hbound : page.bridgeReady) (hfits : ReloadFits durable) :
    loadDurableState sha256 page (some durable.stored) = durable := by
  have hkey : (if durable.contextKey.isEmpty then page.contextKey
      else durable.contextKey.take 512) = durable.contextKey := by
    have hne := h.contextKey (contextKey_ne_nil hbound)
    rw [if_neg (by simpa using hne), take_of_length_le hfits.contextKey]
  have hpend := loadedEvents_stored h hfits.pendingIds
  have hsort : (sortBySequence durable.pending).take MAX_DURABLE_EVENTS = durable.pending := by
    rw [sortBySequence_of_ordered h.sound.ordered, take_of_length_le h.length]
  have hdraf : (durable.stored.drafts.take (MAX_DURABLE_EVENTS * 2)).filterMap (fun entry =>
      (entry.2.bind (validStoredDraft entry.1)).map fun draft => (entry.1, draft)) =
        durable.drafts := by
    rw [take_of_length_le (by simpa [Durable.stored] using hfits.draftCount)]
    exact filterMap_validStoredDraft fun entry hentry =>
      ⟨⟨(h.drafts entry hentry).id, hfits.draftIds entry hentry⟩,
        (h.drafts entry hentry).questionRevision, hfits.draftKeys entry hentry,
        (h.drafts entry hentry).answer⟩
  have hnext : safePositive durable.stored.nextSequence = some durable.nextSequence :=
    safePositive_natural h.next
  have hprev : hashOrEmpty durable.stored.previousEventHashHex = durable.previousEventHashHex :=
    hashOrEmpty_string h.sound.previous
  have hhigh : safeOrZero durable.stored.serverHighestSequence = durable.serverHighestSequence :=
    safeOrZero_natural h.sound.cursor
  have hlast : hashOrEmpty durable.stored.serverLastEventHashHex = durable.serverLastEventHashHex :=
    hashOrEmpty_string h.lastHash
  have hstate : hashOrEmpty durable.stored.serverStateHashHex = durable.serverStateHashHex :=
    hashOrEmpty_string h.stateHash
  have hcurs : inferCursor durable.serverHighestSequence durable.serverLastEventHashHex
      durable.previousEventHashHex durable.pending durable.nextSequence =
        (durable.serverHighestSequence, durable.serverLastEventHashHex) := by
    refine if_neg fun hinfe => hfits.cursor ?_
    simp only [Bool.and_eq_true, beq_iff_eq, Bool.not_eq_true', List.isEmpty_eq_false_iff] at hinfe
    exact ⟨hinfe.1.1.1, hinfe.1.2, hinfe.2⟩
  have htrac : (if (durable.serverHighestSequence != 0 &&
        !durable.serverLastEventHashHex.isEmpty) then durable.serverHighestSequence else 0) =
          durable.serverHighestSequence ∧
      (if (durable.serverHighestSequence != 0 && !durable.serverLastEventHashHex.isEmpty) then
        durable.serverLastEventHashHex else []) = durable.serverLastEventHashHex ∧
      (if (durable.serverHighestSequence != 0 && !durable.serverLastEventHashHex.isEmpty) then
        durable.serverStateHashHex else []) = durable.serverStateHashHex := by
    rcases h.cursor with ⟨hnone, hnoLa, hnoSt⟩ | ⟨hsome, hsomeL⟩
    · simp [hnone, hnoLa, hnoSt]
    · simp [hsome, hsomeL]
  have hwrit : asString durable.stored.contextKey = some durable.contextKey := rfl
  simp only [loadDurableState, hpend, hsort, hdraf, hnext, hprev, hhigh, hlast, hstate,
    hcurs, hwrit, hkey, htrac, getD_some]
  rfl

lemma loaded_fits {value : StoredState} :
    let loaded := loadDurableState sha256 page (some value)
    (∀ entry ∈ loaded.drafts, StorableDraft entry.1 entry.2) ∧ loaded.drafts.length ≤ MAX_DURABLE_EVENTS * 2 ∧
      ∀ event ∈ loaded.pending, IdFits event.questionId := by
  refine ⟨fun entry he => ?_, ?_, fun event hev => ?_⟩
  · obtain ⟨stored, -, hd⟩ := mem_filterMap.mp he
    obtain ⟨draft, hf, rfl⟩ := map_eq_some_iff.mp hd
    obtain ⟨found, -, hv⟩ := bind_eq_some_iff.mp hf
    exact storableDraft_of_validStoredDraft hv
  · exact (length_filterMap_le _ _).trans (length_take_le _ _)
  · refine mem_foldl_loadEvent (P := fun event => IdFits event.questionId) _
      (fun _ _ hv => (acceptedEvent_of_validStoredEvent hv).questionId)
      (fun _ hn => by cases hn) event
      ((mem_insertionSort _).mp (mem_of_mem_take hev))

lemma reloadFits_of_loaded {durable : Durable} (h : Kept sha256 page durable) (hbound : page.bridgeReady)
    (hload : loadDurableState sha256 page (some durable.stored) = durable) : ReloadFits durable := by
  obtain ⟨hdraf, hcount, hids⟩ := @loaded_fits sha256 page durable.stored
  rw [hload] at hdraf hcount hids
  refine ⟨?_, fun entry hentry => (hdraf entry hentry).contextKey, hcount, hids,
    fun entry hentry => (hdraf entry hentry).id.2, ?_⟩
  · have hne := h.contextKey (contextKey_ne_nil hbound)
    have hkey : (if durable.contextKey.isEmpty then page.contextKey
        else durable.contextKey.take 512) = durable.contextKey := congrArg Durable.contextKey hload
    rw [if_neg (by simpa using hne)] at hkey
    rw [← hkey]
    exact length_take_le _ _
  · rintro ⟨hnone, hprev, hinfe⟩
    have hcurs := h.cursor.resolve_right fun hsome => hsome.1 hnone
    have hlast : hashOrEmpty durable.stored.serverLastEventHashHex = [] :=
      (hashOrEmpty_string h.lastHash).trans hcurs.2.1
    have hzero : safeOrZero durable.stored.serverHighestSequence = 0 :=
      (safeOrZero_natural h.sound.cursor).trans hnone
    have hfull : durable.previousEventHashHex.isEmpty = false := by simpa using hprev
    have hposi := Nat.ne_of_gt (isSafePositive_iff.mp hinfe).1
    have hhigh := congrArg Durable.serverHighestSequence hload
    -- the loader records the inferred cursor
    simp only [loadDurableState, loadedEvents_stored h hids, hlast, hzero,
      show hashOrEmpty durable.stored.previousEventHashHex = durable.previousEventHashHex from
        hashOrEmpty_string h.sound.previous,
      show safePositive durable.stored.nextSequence = some durable.nextSequence from
        safePositive_natural h.next, getD_some, inferCursor, hfull, hinfe] at hhigh
    rw [hnone] at hhigh
    simp [hposi, hfull] at hhigh

end Reload

/-- **The durable state of a bound page survives a reload if and only if it fits the loader.**  What
`persistDurableState` writes in a state the page can be in is loaded as that very state, with its
context key, its pending events in their order, its drafts and its cursor, unless a key is longer than
512 code units, there are more than 512 drafts, an id has a zero character or more than 128 bytes, or
the loader infers a cursor where none is recorded. -/
theorem durable_survives_iff {sha256 : Bytes → Digest} (hsha : ∀ bytes, sha256 bytes ≠ Block.zero 32)
    {page : ExamPage} {state : PageState} (hreach : PageReach sha256 page state)
    (hbound : page.bridgeReady = true) :
    loadDurableState sha256 page (some state.durable.stored) = state.durable ↔ ReloadFits state.durable := by
  have hkept := hreach.kept hsha
  constructor
  · intro hloaded
    exact reloadFits_of_loaded hkept hbound hloaded
  · intro hfits
    exact loadDurableState_stored hkept hbound hfits

/-- A page with `firstAnswer` pending comes back as it was. -/
theorem durable_survives_firstAnswer :
    (startPage firstSha256 firstPage (some firstStoredState)).durable.pending.length = 1 ∧
      loadDurableState firstSha256 firstPage
          (some (startPage firstSha256 firstPage (some firstStoredState)).durable.stored) =
        (startPage firstSha256 firstPage (some firstStoredState)).durable := by
  refine ⟨by decide +kernel, (durable_survives_iff firstSha256_ne_zero (.started _ _)
    (by decide)).mpr ⟨?_, ?_, ?_, ?_, ?_, ?_⟩⟩ <;> decide +kernel

/-- A candidate whose id is all control characters. -/
def longKeyPage : ExamPage :=
  { firstPage with
    context := { firstPage.context with
      candidateId := List.replicate 128 1, candidateIdFits := by decide +kernel } }

/-- The key of that context is cut. -/
theorem long_key_does_not_survive : longKeyPage.bridgeReady = true ∧
      PageReach firstSha256 longKeyPage (startPage firstSha256 longKeyPage none) ∧
      (startPage firstSha256 longKeyPage none).durable.contextKey = longKeyPage.contextKey ∧
      loadDurableState firstSha256 longKeyPage (some (startPage firstSha256 longKeyPage none).durable.stored) ≠
        (startPage firstSha256 longKeyPage none).durable := by
  refine ⟨by decide, .started _ _, rfl, fun hloaded => ?_⟩
  have hlength := congrArg (fun durable : Durable => durable.contextKey.length) hloaded
  revert hlength
  decide +kernel

end Nstu.Web
