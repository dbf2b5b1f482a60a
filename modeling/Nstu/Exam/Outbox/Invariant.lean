import Nstu.Exam.Outbox.Rebase

/-!
# What a session of the outbox looks like

`WatermarkInvariant key watermark pending` relates a watermark to the pending events of its session:
their sequences run from the acknowledged one to the highest one, they form a hash chain between the
two hashes the watermark keeps, and a final event is the last of them.

`Consistent` is this for every session, and the step lemmas show that appending, rebasing and
acknowledging keep it.  An all-zero digest would break it, because zero marks a session in which
nothing has been acknowledged; `encode_outbox` refuses to write such a watermark, so no change that
reached the file has one (`saveOutbox_valid`).
-/

namespace Nstu

open Wire HashChain List

section Spec

variable (sha256 : Bytes → Digest)

/-- A watermark, described by the pending events of its session. -/
structure WatermarkInvariant (key : Bytes) (watermark : OutboxWatermark)
    (pending : List AnswerEvent) : Prop where
  context : watermark.key = key
  packageId : validText watermark.packageId kMaximumPackageIdBytes false = true
  packageDigest : allZero watermark.packageDigest.toList = false
  identity : validIdentity watermark.clientId watermark.sessionId = true
  candidateId : validText watermark.candidateId kMaximumCandidateIdBytes false = true
  candidates : ∀ event ∈ pending, event.candidateId = watermark.candidateId
  sequences : ∀ i (h : i < pending.length), pending[i].sequence.toNat = watermark.acknowledgedSequence.toNat + i + 1
  highest : watermark.highestSequence.toNat = watermark.acknowledgedSequence.toNat + pending.length
  positive : watermark.highestSequence ≠ 0
  linked : Linked (eventHash sha256) (·.previousEventHash) watermark.acknowledgedHash pending
  lastHash : watermark.lastHash = endHash (eventHash sha256) watermark.acknowledgedHash pending
  boundary : watermark.acknowledgedSequence = 0 ↔ watermark.acknowledgedHash = Block.zero 32
  finalize : ∀ i (h : i < pending.length),
    pending[i].kind = .finalize ↔ watermark.finalized = true ∧ i + 1 = pending.length

/-- Every session of the outbox is described by its pending events. -/
structure Consistent (events : List AnswerEvent) (watermarks : Watermarks) : Prop where
  valid : ∀ event ∈ events, ValidAnswerEvent event
  present : ∀ (key : Bytes) (watermark : OutboxWatermark), watermarks[key]? = some watermark →
    WatermarkInvariant sha256 key watermark (eventsOf key events)
  absent : ∀ key : Bytes, watermarks[key]? = none → eventsOf key events = []

end Spec

variable {sha256 : Bytes → Digest}

namespace WatermarkInvariant

variable {key : Bytes} {watermark : OutboxWatermark} {pending : List AnswerEvent}
  {event : AnswerEvent}

lemma sequence_of_getElem? (h : WatermarkInvariant sha256 key watermark pending) {i : ℕ}
    (hi : pending[i]? = some event) :
    event.sequence.toNat = watermark.acknowledgedSequence.toNat + i + 1 := by
  obtain ⟨hl, rfl⟩ := List.getElem?_eq_some_iff.mp hi
  exact h.sequences i hl

lemma pairwise (h : WatermarkInvariant sha256 key watermark pending) :
    pending.Pairwise fun left right => left.sequence < right.sequence := by
  rw [pairwise_iff_getElem]
  intro i j hi hj hij
  rw [UInt64.lt_iff_toNat_lt, h.sequences i hi, h.sequences j hj]
  omega

lemma pairwise_le (h : WatermarkInvariant sha256 key watermark pending) :
    pending.Pairwise fun left right => left.sequence ≤ right.sequence :=
  h.pairwise.imp fun hl => UInt64.le_of_lt hl

/-! ## Appending -/

lemma first (hv : ValidAnswerEvent event) (hs : event.sequence = 1)
    (hp : event.previousEventHash = Block.zero 32) :
    WatermarkInvariant sha256 (sessionKey event)
      (watermarkFor event (eventHash sha256 event) event.sequence) [event] where
  context := rfl
  packageId := hv.packageId
  packageDigest := hv.packageDigest
  identity := hv.identity
  candidateId := hv.candidateId
  candidates := by simp [watermarkFor]
  sequences i hi := by
    obtain rfl : i = 0 := by simpa using hi
    simp [watermarkFor, hs]
  highest := by simp [watermarkFor, hs]
  positive := by simpa [watermarkFor] using hv.sequence
  linked := ⟨hp, linked_nil⟩
  lastHash := rfl
  boundary := by simp [watermarkFor]
  finalize i hi := by
    obtain rfl : i = 0 := by simpa using hi
    simp [watermarkFor]

lemma advance (h : WatermarkInvariant sha256 key watermark pending)
    (hc : watermark.candidateId = event.candidateId)
    (hf : watermark.finalized = false) (hfu : watermark.highestSequence ≠ maxSequence)
    (hs : event.sequence = watermark.highestSequence + 1)
    (hp : event.previousEventHash = watermark.lastHash) :
    WatermarkInvariant sha256 key (watermark.advance event (eventHash sha256 event)) (pending ++ [event]) where
  context := h.context
  packageId := h.packageId
  packageDigest := h.packageDigest
  identity := h.identity
  candidateId := h.candidateId
  candidates item hit := by
    rcases mem_append.mp hit with hit | hit
    · exact h.candidates item hit
    · rw [mem_singleton.mp hit]
      exact hc.symm
  sequences i hi := by
    rw [length_append, length_singleton] at hi
    simp only [OutboxWatermark.advance]
    rcases Nat.lt_succ_iff_lt_or_eq.mp hi with hi | rfl
    · rw [getElem_append_left hi]
      exact h.sequences i hi
    · rw [getElem_append_right (Nat.le_refl _)]
      simp only [Nat.sub_self, getElem_cons_zero]
      rw [hs, toNat_succ hfu, h.highest]
  highest := by
    simp only [OutboxWatermark.advance, length_append, length_singleton]
    rw [hs, toNat_succ hfu, h.highest, Nat.add_assoc]
  positive := by
    simp only [OutboxWatermark.advance]
    intro hz
    have := congrArg UInt64.toNat hz
    rw [hs, toNat_succ hfu] at this
    simp at this
  linked := linked_concat.mpr ⟨h.linked, hp.trans h.lastHash⟩
  lastHash := by simp [OutboxWatermark.advance]
  boundary := h.boundary
  finalize i hi := by
    rw [length_append, length_singleton] at hi
    simp only [OutboxWatermark.advance, hf, length_append, length_singleton, beq_iff_eq]
    rcases Nat.lt_succ_iff_lt_or_eq.mp hi with hi | rfl
    · rw [getElem_append_left hi, h.finalize i hi, hf]
      simp only [Bool.false_eq_true, false_and, false_iff]
      omega
    · rw [getElem_append_right (Nat.le_refl _)]
      simp

/-! ## Acknowledging -/

lemma filter_pending (h : WatermarkInvariant sha256 key watermark pending) {i : ℕ}
    {sequence : UInt64} (hs : sequence.toNat = watermark.acknowledgedSequence.toNat + i) :
    (pending.filter fun event => !decide (event.sequence ≤ sequence)) = pending.drop i := by
  have hc : ∀ event ∈ pending.take i, event.sequence ≤ sequence := by
    intro event he
    obtain ⟨j, hj⟩ := mem_iff_getElem?.mp he
    have hl : j < i := by
      by_contra hg
      rw [getElem?_take_eq_none (by omega)] at hj
      cases hj
    rw [getElem?_take_of_lt hl] at hj
    rw [UInt64.le_iff_toNat_le, h.sequence_of_getElem? hj]
    omega
  have hk : ∀ event ∈ pending.drop i, ¬ event.sequence ≤ sequence := by
    intro event he
    obtain ⟨j, hj⟩ := mem_iff_getElem?.mp he
    rw [getElem?_drop] at hj
    rw [UInt64.le_iff_toNat_le, h.sequence_of_getElem? hj]
    omega
  calc (pending.filter fun event => !decide (event.sequence ≤ sequence))
      = (pending.take i ++ pending.drop i).filter (fun event => !decide (event.sequence ≤ sequence)) := by
        rw [take_append_drop]
    _ = pending.drop i := by
        rw [filter_append, filter_eq_nil_iff.mpr (by simpa using hc),
          filter_eq_self.mpr (by simpa using hk), nil_append]

lemma acknowledge (h : WatermarkInvariant sha256 key watermark pending) {i : ℕ}
    (hi : pending[i]? = some event) (hhash : eventHash sha256 event ≠ Block.zero 32) :
    WatermarkInvariant sha256 key { watermark with
        acknowledgedSequence := event.sequence, acknowledgedHash := eventHash sha256 event }
      (pending.drop (i + 1)) := by
  obtain ⟨hlt, hget⟩ := List.getElem?_eq_some_iff.mp hi
  have hsequ := h.sequence_of_getElem? hi
  have hlast : (pending.take (i + 1)).getLast? = some event := by
    rw [take_succ_eq_append_getElem hlt, getLast?_concat, hget]
  have hsplit : pending.take (i + 1) ++ pending.drop (i + 1) = pending :=
    take_append_drop _ _
  have hlink := h.linked
  have hend := h.lastHash
  rw [← hsplit, linked_append, endHash_eq_of_getLast? hlast] at hlink
  rw [← hsplit, endHash_append, endHash_eq_of_getLast? hlast] at hend
  exact
    { context := h.context
      packageId := h.packageId
      packageDigest := h.packageDigest
      identity := h.identity
      candidateId := h.candidateId
      candidates := fun item hitem => h.candidates item (mem_of_mem_drop hitem)
      sequences := by
        intro j hj
        rw [getElem_drop, h.sequences, hsequ]
        omega
      highest := by
        simp only [length_drop]
        rw [h.highest, hsequ]
        omega
      positive := h.positive
      linked := hlink.2
      lastHash := hend
      boundary := by
        refine ⟨fun hzero => ?_, fun hzero => absurd hzero hhash⟩
        simp only at hzero
        rw [hzero] at hsequ
        simp at hsequ
      finalize := by
        intro j hj
        rw [getElem_drop, h.finalize, length_drop]
        rw [length_drop] at hj
        constructor
        · rintro ⟨hfinal, hposi⟩
          exact ⟨hfinal, by omega⟩
        · rintro ⟨hfinal, hposi⟩
          exact ⟨hfinal, by omega⟩ }

/-! ## Rebasing -/

lemma relink {other : Bytes} (h : WatermarkInvariant sha256 key watermark pending)
    {relinked : List AnswerEvent} {start : Digest}
    (hreli : List.Forall₂ (Relinked other) pending relinked)
    (hlink : Linked (eventHash sha256) (·.previousEventHash) start relinked)
    (hstart : watermark.acknowledgedSequence = 0 ↔ start = Block.zero 32) :
    WatermarkInvariant sha256 key { watermark with
        acknowledgedHash := start, lastHash := endHash (eventHash sha256) start relinked }
      relinked := by
  have hleng := hreli.length_eq
  have hold : ∀ i (hi : i < relinked.length), ∃ old, pending[i]? = some old ∧ Relinked other old relinked[i] := by
    intro i hi
    exact relinkedAll_getElem? hreli (getElem?_eq_getElem hi)
  exact
    { context := h.context
      packageId := h.packageId
      packageDigest := h.packageDigest
      identity := h.identity
      candidateId := h.candidateId
      candidates := by
        intro event hevent
        obtain ⟨i, hi, rfl⟩ := getElem_of_mem hevent
        obtain ⟨old, hget, hrel⟩ := hold i hi
        rw [hrel.candidateId_eq]
        exact h.candidates old (mem_of_getElem? hget)
      sequences := by
        intro i hi
        obtain ⟨old, hget, hrel⟩ := hold i hi
        rw [hrel.sequence_eq]
        exact h.sequence_of_getElem? hget
      highest := hleng ▸ h.highest
      positive := h.positive
      linked := hlink
      lastHash := rfl
      boundary := hstart
      finalize := by
        intro i hi
        obtain ⟨old, hget, hrel⟩ := hold i hi
        obtain ⟨hlt, rfl⟩ := List.getElem?_eq_some_iff.mp hget
        rw [hrel.kind_eq, h.finalize i hlt, hleng] }

end WatermarkInvariant

/-! ## The steps of the outbox -/

namespace Consistent

variable {events : List AnswerEvent} {watermarks : Watermarks} {event : AnswerEvent}

lemma empty : Consistent sha256 [] ∅ where
  valid := by simp
  present key watermark h := by simp at h
  absent key _ := rfl

lemma replace (h : Consistent sha256 events watermarks) {key : Bytes} {watermark : OutboxWatermark}
    {events' : List AnswerEvent} (hv : ∀ event ∈ events', ValidAnswerEvent event)
    (ho : ∀ other, other ≠ key → eventsOf other events' = eventsOf other events)
    (hk : WatermarkInvariant sha256 key watermark (eventsOf key events')) :
    Consistent sha256 events' (watermarks.insert key watermark) where
  valid := hv
  present other found hf := by
    rw [getElem?_insert] at hf
    split_ifs at hf with he
    · cases hf
      exact he ▸ hk
    · rw [ho other (Ne.symm he)]
      exact h.present other found hf
  absent other hn := by
    rw [getElem?_insert] at hn
    split_ifs at hn with he
    rw [ho other (Ne.symm he)]
    exact h.absent other hn

/-- **Appending an event keeps every session consistent.** -/
lemma append {next : OutboxWatermark} (h : Consistent sha256 events watermarks)
    (hvalid : ValidAnswerEvent event) (hnext : Continues sha256 watermarks event next) :
    Consistent sha256 (events ++ [event]) (watermarks.insert (sessionKey event) next) := by
  refine h.replace ?_ ?_ ?_
  · intro item hitem
    rcases mem_append.mp hitem with hitem | hitem
    · exact h.valid item hitem
    · exact mem_singleton.mp hitem ▸ hvalid
  · intro other hother
    rw [eventsOf_concat, if_neg (Ne.symm hother)]
  · rw [eventsOf_concat, if_pos rfl]
    cases hnext with
    | first hnone hsequ hprev =>
      rw [h.absent _ hnone]
      exact .first hvalid hsequ hprev
    | next hsaved hcont hfinal hfull hsequ hprev =>
      exact (h.present _ _ hsaved).advance (sameWatermarkContext_iff.mp hcont).2 hfinal hfull
        hsequ hprev

lemma getElem?_eventsOf {target : AnswerEvent} (ht : target ∈ events) :
    ∃ i : ℕ, (eventsOf (sessionKey target) events)[i]? = some target := by
  apply mem_iff_getElem?.mp
  simp [eventsOf, ht]

/-- **Acknowledging an event keeps every session consistent.** -/
lemma acknowledge {target : AnswerEvent} {saved : OutboxWatermark}
    (h : Consistent sha256 events watermarks) (htarg : target ∈ events)
    (hhash : eventHash sha256 target ≠ Block.zero 32)
    (hsaved : watermarks[sessionKey target]? = some saved) :
    Consistent sha256 (events.filter fun event =>
        !(sessionKey event == sessionKey target && event.sequence ≤ target.sequence))
      (watermarks.insert (sessionKey target) { saved with
        acknowledgedSequence := target.sequence, acknowledgedHash := eventHash sha256 target }) := by
  have hsess := h.present _ _ hsaved
  obtain ⟨i, hi⟩ := getElem?_eventsOf htarg
  have hkept : eventsOf (sessionKey target) (events.filter fun event =>
      !(sessionKey event == sessionKey target && event.sequence ≤ target.sequence)) =
        (eventsOf (sessionKey target) events).drop (i + 1) := by
    rw [← hsess.filter_pending (hsess.sequence_of_getElem? hi), eventsOf, eventsOf,
      filter_filter, filter_filter]
    apply filter_congr
    intro event _
    cases hkey : sessionKey event == sessionKey target <;> simp
  refine h.replace ?_ ?_ (hkept ▸ hsess.acknowledge hi hhash)
  · intro event hevent
    exact h.valid event (mem_filter.mp hevent).1
  · intro other hother
    rw [eventsOf, eventsOf, filter_filter]
    apply filter_congr
    intro event _
    by_cases hkey : sessionKey event = other
    · simp [hkey, hother]
    · simp [hkey]

lemma getElem?_of_position {key : Bytes} {i position : ℕ} {event : AnswerEvent}
    (hp : (sessionPositions key events)[i]? = some position)
    (he : events[position]? = some event) : (eventsOf key events)[i]? = some event := by
  have hr := congrArg (·[i]?) (map_getElem?_sessionPositions key events)
  simp only [getElem?_map, hp, Option.map_some, he] at hr
  cases hf : (eventsOf key events)[i]? with
  | none => simp [hf] at hr
  | some found => simpa [hf] using hr.symm

/-- Behind another pending event there is nothing to rebase: the only admissible predecessor is the
one that is there. -/
lemma rebase_only_first {existing : AnswerEvent} {watermark boundary : OutboxWatermark}
    {before : ℕ} (h : Consistent sha256 events watermarks)
    (hsaved : watermarks[sessionKey event]? = some watermark)
    (hexis : (eventsOf (sessionKey event) events)[before + 1]? = some existing)
    (hbody : event = { existing with previousEventHash := event.previousEventHash })
    (hindi : sessionIndices events (sessionKey event) = sessionPositions (sessionKey event) events)
    (hboun : rebaseBoundary sha256 events (sessionIndices events (sessionKey event)) watermark
      event (before + 1) = .ok boundary) :
    event = existing := by
  obtain ⟨⟨position, previous, hposi, hprev, hhash⟩, -⟩ := rebaseBoundary_succ hboun
  rw [hindi] at hposi
  obtain ⟨hlt, hget⟩ := List.getElem?_eq_some_iff.mp hexis
  obtain ⟨_, hbefo⟩ := List.getElem?_eq_some_iff.mp (getElem?_of_position hposi hprev)
  have hlink : existing.previousEventHash = eventHash sha256 previous := by
    have := (h.present _ _ hsaved).linked.prev_eq hlt
    rwa [hget, hbefo] at this
  calc event = { existing with previousEventHash := event.previousEventHash } := hbody
    _ = existing := by rw [hhash, ← hlink]

/-- **A rebase keeps every session consistent.** -/
lemma rebase {outbox : AnswerOutbox} {existing : AnswerEvent} {index : ℕ}
    {watermark rebased : OutboxWatermark} {events' : List AnswerEvent}
    (h : Consistent sha256 outbox.events outbox.watermarks) (hvalid : ValidAnswerEvent event)
    (hreba : Rebasable sha256 outbox event existing index watermark)
    (hrebas : rebaseEvents sha256 outbox.events watermark event index = .ok (events', rebased)) :
    Consistent sha256 events' (outbox.watermarks.insert (sessionKey event) rebased) := by
  have hbody := sameEventBodyExceptPredecessor_iff.mp hreba.body
  have hsess := h.present _ _ hreba.saved
  have hindi := sessionIndices_eq_sessionPositions hsess.pairwise_le
  have hreli := rebaseEvents_relinked hrebas hreba.pending hbody
  obtain ⟨offset, boundary, lastHash, hoffs, hboun, hsuff, rfl⟩ := rebaseEvents_eq_ok hrebas
  have hposi : (sessionPositions (sessionKey event) outbox.events)[offset]? = some index := by
    rw [hindi, findIdx?_eq_some_iff_getElem] at hoffs
    obtain ⟨hlt, hfound, -⟩ := hoffs
    rw [getElem?_eq_getElem hlt, beq_iff_eq.mp hfound]
  cases offset with
  | succ before =>
    have hexis := getElem?_of_position hposi hreba.pending
    have hsame := h.rebase_only_first hreba.saved hexis hbody hindi hboun
    exact absurd (hsame ▸ hashAnswerEvent_eq_some_iff.mpr ⟨hvalid, rfl⟩) hreba.differs
  | zero =>
    obtain ⟨⟨hfull, hsequ, hzero⟩, rfl⟩ := rebaseBoundary_zero hboun
    obtain ⟨rest, hrest⟩ : ∃ rest, sessionPositions (sessionKey event) outbox.events = index :: rest :=
      head?_eq_some_iff.mp (head?_eq_getElem? ▸ hposi)
    have hnodup := nodup_sessionPositions (sessionKey event) outbox.events
    rw [hrest, nodup_cons] at hnodup
    rw [hindi, hrest, Nat.zero_add, drop_one, tail_cons] at hsuff
    obtain ⟨relinked, hread, hlink, rfl, hvali, hother⟩ :=
      rebaseSuffix_linked hnodup.2 hsuff
    have hindex : events'[index]? = some event := by
      rw [hother index hnodup.1, List.getElem?_set_self (List.getElem?_eq_some_iff.mp hreba.pending).1]
    have hpend : eventsOf (sessionKey event) events' = event :: relinked := by
      apply map_injective_iff.mpr (Option.some_injective _)
      rw [← map_getElem?_sessionPositions, sessionPositions_eq hreli, hrest, map_cons,
        map_cons, hindex, hread]
    have hstart : watermark.acknowledgedSequence = 0 ↔ event.previousEventHash = Block.zero 32 := by
      rw [← hzero, hsequ, ← UInt64.toNat_inj, ← UInt64.toNat_inj, toNat_succ hfull]
      simp
    refine h.replace ?_ (fun other hne => eventsOf_of_relinkedAll hreli hne) ?_
    · intro item hitem
      have hmem : item ∈ eventsOf (sessionKey item) events' := by simp [eventsOf, hitem]
      by_cases hkey : sessionKey item = sessionKey event
      · rw [hkey, hpend] at hmem
        rcases mem_cons.mp hmem with rfl | hmem
        · exact hvalid
        · exact hvali item hmem
      · rw [eventsOf_of_relinkedAll hreli hkey] at hmem
        exact h.valid item (mem_filter.mp hmem).1
    · have hrelin := relinkedAll_eventsOf hreli (sessionKey event)
      rw [hpend] at hrelin ⊢
      exact hsess.relink hrelin ⟨rfl, hlink⟩ hstart

end Consistent

/-! ## The invariant of the outbox -/

/-- An open outbox whose sessions are consistent and whose file was written from them. -/
structure OutboxInvariant (sha256 : Bytes → Digest) (secrets : MachineSecrets)
    (outbox : AnswerOutbox) : Prop where
  isOpen : outbox.isOpen = true
  consistent : Consistent sha256 outbox.events outbox.watermarks
  stored : ∃ calls, saveOutbox secrets calls outbox.events outbox.watermarks = .ok outbox.file

section Steps

variable {secrets : MachineSecrets} {outbox : AnswerOutbox} {result : OutboxResult}

lemma exists_of_mapM_eq_some {α β : Type} {f : α → Option β} {items : List α} {results : List β}
    (h : items.mapM f = some results) : ∀ item ∈ items, ∃ result, f item = some result := by
  induction items generalizing results with
  | nil => simp
  | cons item rest ih =>
    simp only [mapM_cons, Option.bind_eq_bind, Option.bind_eq_some_iff] at h
    obtain ⟨result, hr, others, ho, -⟩ := h
    intro found hf
    rcases mem_cons.mp hf with rfl | hf
    · exact ⟨result, hr⟩
    · exact ih ho found hf

/-- **Only valid watermarks reach the file.** -/
lemma saveOutbox_valid {calls : OutboxCalls} {events : List AnswerEvent} {watermarks : Watermarks}
    {file : Bytes} (h : saveOutbox secrets calls events watermarks = .ok file) :
    ∀ (key : Bytes) (watermark : OutboxWatermark), watermarks[key]? = some watermark →
      validWatermark watermark := by
  intro key watermark hw
  have he : watermark ∈ watermarks.toList.map Prod.snd :=
    mem_map.mpr ⟨_, Std.ExtTreeMap.mem_toList_iff_getElem?_eq_some.mpr hw, rfl⟩
  unfold saveOutbox at h
  dsimp only at h
  split at h
  · cases h
  rename_i hn
  simp only [encodeOutbox] at hn
  split at hn
  · exact absurd rfl hn
  split at hn
  · rename_i wires _ hwi _
    obtain ⟨wire, hwir⟩ := exists_of_mapM_eq_some hwi watermark he
    simp only [encodeWatermark] at hwir
    split at hwir
    · cases hwir
    · rename_i hv
      simpa using hv
  · exact absurd rfl hn

lemma acknowledgedHash_ne_zero {watermark : OutboxWatermark} (h : validWatermark watermark)
    (hs : watermark.acknowledgedSequence ≠ 0) :
    watermark.acknowledgedHash ≠ Block.zero 32 := by
  intro hz
  have hb := (Bool.and_eq_true _ _ ▸ h).2
  rw [if_neg (by simpa using hs), hz, allZero_iff.mpr rfl] at hb
  cases hb

/-- **`enqueue` keeps the invariant.** -/
lemma EnqueueExit.invariant {event : AnswerEvent} (he : EnqueueExit sha256 secrets outbox event result)
    (h : OutboxInvariant sha256 secrets outbox) : OutboxInvariant sha256 secrets result.outbox := by
  cases he with
  | refused | kept => exact h
  | rebased hv hr hre hs =>
    exact ⟨h.isOpen, h.consistent.rebase hv hr hre, _, hs⟩
  | appended hv hn hs => exact ⟨h.isOpen, h.consistent.append hv hn, _, hs⟩

lemma WatermarkInvariant.exists_highest {key : Bytes} {watermark : OutboxWatermark}
    {pending : List AnswerEvent} (h : WatermarkInvariant sha256 key watermark pending)
    (hl : watermark.acknowledgedSequence < watermark.highestSequence) :
    ∃ event ∈ pending, event.sequence = watermark.highestSequence := by
  have hh := h.highest
  rw [UInt64.lt_iff_toNat_lt] at hl
  have hla : pending.length - 1 < pending.length := by omega
  refine ⟨_, getElem_mem hla, ?_⟩
  rw [← UInt64.toNat_inj, h.sequences _ hla]
  omega

/-- **`acknowledge` keeps the invariant.** -/
lemma AcknowledgeExit.invariant {sessionId : SessionId} {sequence : UInt64} {hash : Bytes}
    (hexit : AcknowledgeExit sha256 secrets outbox sessionId sequence hash result)
    (h : OutboxInvariant sha256 secrets outbox) : OutboxInvariant sha256 secrets result.outbox := by
  cases hexit with
  | refused | kept => exact h
  | advanced hpend hsaved hhigh hlater hsave =>
    subst hhigh
    obtain ⟨event, hevent, hsequ⟩ := (h.consistent.present _ _ hsaved).exists_highest hlater
    simp only [eventsOf, mem_filter, beq_iff_eq] at hevent
    exact absurd hsequ (hpend event hevent.1 hevent.2)
  | @retired target saved _ _ _ htarg hsequ hvalid _ hsaved _ _ hsave =>
    subst hsequ
    have hwrit := saveOutbox_valid hsave (sessionKey target) _ (by rw [getElem?_insert, if_pos rfl])
    have hhash : eventHash sha256 target ≠ Block.zero 32 :=
      acknowledgedHash_ne_zero hwrit hvalid.sequence
    exact ⟨h.isOpen, h.consistent.acknowledge htarg hhash hsaved, _, hsave⟩

end Steps

end Nstu
