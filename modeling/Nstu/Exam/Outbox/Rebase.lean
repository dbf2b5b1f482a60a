import Nstu.Exam.Outbox.Exit

/-!
# Rebasing pending events

A rebase gives a pending event a new predecessor and relinks every later event of its session in
place.  Two views of the result are proved here, for any list of events:

* `rebaseEvents_relinked` — position by position, nothing but predecessors of the session changed;
* `rebaseSuffix_linked` — read in sequence order, the relinked events form a chain.
-/

namespace Nstu

open Wire Wire.Parser HashChain List

/-- `new` is `old` up to its predecessor, and the same event unless it belongs to session `key`. -/
structure Relinked (key : Bytes) (old new : AnswerEvent) : Prop where
  body : new = { old with previousEventHash := new.previousEventHash }
  own : sessionKey old ≠ key → new = old

namespace Relinked

variable {key : Bytes} {a b c : AnswerEvent}

lemma refl (key : Bytes) (a : AnswerEvent) : Relinked key a a := ⟨rfl, fun _ => rfl⟩

lemma sessionKey_eq (h : Relinked key a b) : sessionKey b = sessionKey a := by rw [h.body]; rfl

lemma sequence_eq (h : Relinked key a b) : b.sequence = a.sequence := by rw [h.body]

lemma candidateId_eq (h : Relinked key a b) : b.candidateId = a.candidateId := by rw [h.body]

lemma kind_eq (h : Relinked key a b) : b.kind = a.kind := by rw [h.body]

lemma trans (ha : Relinked key a b) (hb : Relinked key b c) : Relinked key a c where
  body := by
    rw [hb.body, ha.body]
  own hk := by
    rw [hb.own (ha.sessionKey_eq.symm ▸ hk), ha.own hk]

lemma relink (hk : sessionKey a = key) (previous : Digest) :
    Relinked key a { a with previousEventHash := previous } :=
  ⟨rfl, fun hn => absurd hk hn⟩

end Relinked

/-! ## Lists of relinked events -/

section Lists

variable {key : Bytes} {events events' events'' : List AnswerEvent}

lemma relinkedAll_refl (key : Bytes) (events : List AnswerEvent) : List.Forall₂ (Relinked key) events events :=
  forall₂_same.mpr fun event _ => Relinked.refl key event

lemma relinkedAll_trans (h : List.Forall₂ (Relinked key) events events')
    (h' : List.Forall₂ (Relinked key) events' events'') : List.Forall₂ (Relinked key) events events'' := by
  induction h generalizing events'' with
  | nil => exact h'
  | cons ha _ ih =>
    cases h' with
    | cons hb hr => exact .cons (ha.trans hb) (ih hr)

variable {new : AnswerEvent}

lemma relinkedAll_set {index : ℕ} {old : AnswerEvent} (ho : events[index]? = some old)
    (hn : Relinked key old new) : List.Forall₂ (Relinked key) events (events.set index new) := by
  induction events generalizing index with
  | nil => simp at ho
  | cons head rest ih =>
    cases index with
    | zero =>
      simp only [getElem?_cons_zero, Option.some.injEq] at ho
      subst ho
      exact .cons hn (relinkedAll_refl key rest)
    | succ index => exact .cons (.refl key head) (ih ho)

lemma relinkedAll_getElem? (h : List.Forall₂ (Relinked key) events events') {index : ℕ}
    (hn : events'[index]? = some new) : ∃ old, events[index]? = some old ∧ Relinked key old new := by
  induction h generalizing index with
  | nil => simp at hn
  | cons ha _ ih =>
    cases index with
    | zero =>
      simp only [getElem?_cons_zero, Option.some.injEq] at hn
      exact ⟨_, rfl, hn ▸ ha⟩
    | succ index => exact ih hn

lemma relinkedAll_eventsOf (h : List.Forall₂ (Relinked key) events events') (other : Bytes) :
    List.Forall₂ (Relinked key) (eventsOf other events) (eventsOf other events') := by
  induction h with
  | nil => exact .nil
  | cons ha _ ih =>
    simp only [eventsOf, filter_cons, ha.sessionKey_eq]
    split
    · exact .cons ha ih
    · exact ih

lemma eventsOf_of_relinkedAll (h : List.Forall₂ (Relinked key) events events') {other : Bytes}
    (ho : other ≠ key) : eventsOf other events' = eventsOf other events := by
  induction h with
  | nil => rfl
  | @cons old new _ _ ha _ ih =>
    simp only [eventsOf, filter_cons, ha.sessionKey_eq, beq_iff_eq] at ih ⊢
    split
    · rename_i hk
      rw [ha.own (hk ▸ ho), ih]
    · exact ih

end Lists

/-! ## The positions of a session -/

/-- Where the events of a session stand in the list. -/
def sessionPositions (key : Bytes) (events : List AnswerEvent) : List ℕ :=
  (events.zipIdx.filter fun item => sessionKey item.1 == key).map Prod.snd

section Positions

variable {key : Bytes} {events events' : List AnswerEvent}

lemma map_fst_zipIdx_filter (key : Bytes) (events : List AnswerEvent) :
    (events.zipIdx.filter fun item => sessionKey item.1 == key).map Prod.fst = eventsOf key events := by
  have hf : events.zipIdx.map Prod.fst = events := zipIdx_map_fst 0 events
  calc (events.zipIdx.filter fun item => sessionKey item.1 == key).map Prod.fst
      = (events.zipIdx.map Prod.fst).filter (fun event => sessionKey event == key) := by
        rw [filter_map]
        rfl
    _ = eventsOf key events := by rw [hf, eventsOf]

lemma map_getElem?_sessionPositions (key : Bytes) (events : List AnswerEvent) :
    (sessionPositions key events).map (events[·]?) = (eventsOf key events).map some := by
  rw [sessionPositions, ← map_fst_zipIdx_filter, map_map, map_map]
  apply map_congr_left
  intro item hi
  exact mem_zipIdx_iff_getElem?.mp (mem_filter.mp hi).1

lemma nodup_sessionPositions (key : Bytes) (events : List AnswerEvent) : (sessionPositions key events).Nodup := by
  have ha : (events.zipIdx.map Prod.snd).Nodup := by
    rw [zipIdx_map_snd]
    exact nodup_range'
  exact ha.sublist (filter_sublist.map _)

lemma sessionPositions_eq (h : List.Forall₂ (Relinked key) events events') (other : Bytes) :
    sessionPositions other events' = sessionPositions other events := by
  simp only [sessionPositions]
  generalize 0 = start
  induction h generalizing start with
  | nil => rfl
  | cons ha _ ih =>
    simp only [zipIdx_cons, filter_cons, ha.sessionKey_eq]
    split
    · simp only [map_cons, ih]
    · exact ih _

lemma mem_sessionIndices {index : ℕ} (h : index ∈ sessionIndices events key) :
    ∃ event, events[index]? = some event ∧ sessionKey event = key := by
  simp only [sessionIndices, mem_map, mem_mergeSort, mem_filter, beq_iff_eq] at h
  obtain ⟨⟨event, position⟩, ⟨hm, hk⟩, rfl⟩ := h
  exact ⟨event, mem_zipIdx_iff_getElem?.mp hm, hk⟩

lemma sessionIndices_eq_sessionPositions
    (h : (eventsOf key events).Pairwise fun left right => left.sequence ≤ right.sequence) :
    sessionIndices events key = sessionPositions key events := by
  rw [← map_fst_zipIdx_filter, pairwise_map] at h
  rw [sessionIndices, mergeSort_of_pairwise (h.imp fun hl => by simpa using hl),
    sessionPositions]

end Positions

/-! ## The loop over the later events -/

section Suffix

variable {sha256 : Bytes → Digest} {events events' : List AnswerEvent} {previousIndex : ℕ}
  {previousHash lastHash : Digest}

lemma rebaseSuffix_nil : rebaseSuffix sha256 events previousIndex previousHash [] = .ok (events', lastHash) ↔
      events' = events ∧ lastHash = previousHash := by
  simp only [rebaseSuffix, Except.ok.injEq, Prod.mk.injEq, eq_comm]

lemma rebaseSuffix_cons {index : ℕ} {rest : List ℕ}
    (h : rebaseSuffix sha256 events previousIndex previousHash (index :: rest) = .ok (events', lastHash)) :
    ∃ current relinked, events[index]? = some current ∧
      relinked = { current with previousEventHash := previousHash } ∧ ValidAnswerEvent relinked ∧
      rebaseSuffix sha256 (events.set index relinked) index (eventHash sha256 relinked) rest =
        .ok (events', lastHash) := by
  simp only [rebaseSuffix] at h
  split at h
  · cases h
  rename_i stepped hash hs
  unfold rebaseStep at hs
  split at hs
  · rename_i previous current _ hc
    split at hs
    · cases hs
    dsimp only at hs
    split at hs
    · cases hs
    · rename_i newHash hh
      cases hs
      obtain ⟨hv, rfl⟩ := hashAnswerEvent_eq_some_iff.mp hh
      exact ⟨current, _, hc, rfl, hv, h⟩
  · cases hs

variable {indices : List ℕ}

lemma rebaseSuffix_relinked {key : Bytes}
    (h : rebaseSuffix sha256 events previousIndex previousHash indices = .ok (events', lastHash))
    (hkeys : ∀ index ∈ indices, ∀ event, events[index]? = some event → sessionKey event = key) :
    List.Forall₂ (Relinked key) events events' := by
  induction indices generalizing events previousIndex previousHash with
  | nil =>
    obtain ⟨rfl, -⟩ := rebaseSuffix_nil.mp h
    exact relinkedAll_refl key _
  | cons index rest ih =>
    obtain ⟨current, relinked, hcurr, rfl, -, hrest⟩ := rebaseSuffix_cons h
    have hkey := hkeys index (by simp) current hcurr
    have hset := relinkedAll_set hcurr (Relinked.relink hkey previousHash)
    refine relinkedAll_trans hset (ih hrest ?_)
    intro position hposi event hevent
    obtain ⟨old, hold, hreli⟩ := relinkedAll_getElem? hset hevent
    rw [hreli.sessionKey_eq]
    exact hkeys position (by simp [hposi]) old hold

/-- **The loop builds a chain**: the events at `indices` are linked behind `previousHash`, and the
hash it returns is the end of that chain.  By induction on the positions, each of which is written
once. -/
lemma rebaseSuffix_linked (hnodup : indices.Nodup)
    (h : rebaseSuffix sha256 events previousIndex previousHash indices = .ok (events', lastHash)) :
    ∃ relinked, indices.map (events'[·]?) = relinked.map some ∧
      Linked (eventHash sha256) (·.previousEventHash) previousHash relinked ∧
      lastHash = endHash (eventHash sha256) previousHash relinked ∧ (∀ event ∈ relinked, ValidAnswerEvent event) ∧
      ∀ index, index ∉ indices → events'[index]? = events[index]? := by
  induction indices generalizing events previousIndex previousHash with
  | nil =>
    obtain ⟨rfl, rfl⟩ := rebaseSuffix_nil.mp h
    exact ⟨[], rfl, linked_nil, rfl, by simp, fun _ _ => rfl⟩
  | cons index rest ih =>
    obtain ⟨hfresh, hnodup⟩ := nodup_cons.mp hnodup
    obtain ⟨current, first, hcurr, hfirst, hvalid, hrest⟩ := rebaseSuffix_cons h
    obtain ⟨relinked, hread, hlink, hend, hvali, hother⟩ := ih hnodup hrest
    have hlt : index < events.length := (List.getElem?_eq_some_iff.mp hcurr).1
    have hhead : events'[index]? = some first := by
      rw [hother index hfresh, getElem?_set_self hlt]
    have hprev : first.previousEventHash = previousHash := by rw [hfirst]
    refine ⟨first :: relinked, by simp [hhead, hread], ⟨hprev, hlink⟩, hend, ?_, ?_⟩
    · intro event hevent
      rcases mem_cons.mp hevent with rfl | hevent
      · exact hvalid
      · exact hvali event hevent
    · intro position hposi
      simp only [mem_cons, not_or] at hposi
      rw [hother position hposi.2, getElem?_set_ne (Ne.symm hposi.1)]

end Suffix

/-! ## The whole rebase -/

section Rebase

variable {sha256 : Bytes → Digest} {events events' : List AnswerEvent} {event : AnswerEvent}
  {watermark rebased : OutboxWatermark} {index : ℕ}

variable {indices : List ℕ} {boundary : OutboxWatermark}

lemma rebaseBoundary_zero (h : rebaseBoundary sha256 events indices watermark event 0 = .ok boundary) :
    (watermark.acknowledgedSequence ≠ maxSequence ∧ event.sequence = watermark.acknowledgedSequence + 1 ∧
      (event.sequence = 1 ↔ event.previousEventHash = Block.zero 32)) ∧
    boundary = { watermark with acknowledgedHash := event.previousEventHash } := by
  unfold rebaseBoundary at h
  dsimp only at h
  split at h
  · cases h
  rename_i hc
  cases h
  simp only [invalidPredecessor, Bool.or_eq_true, beq_iff_eq, bne_iff_ne, not_or, not_not] at hc
  refine ⟨⟨hc.1.1, hc.1.2, ?_⟩, rfl⟩
  have hz := hc.2
  rw [← allZero_iff]
  split_ifs at hz with ho
  · simpa [ho] using hz
  · simpa [ho] using hz

lemma rebaseBoundary_succ {before : ℕ}
    (h : rebaseBoundary sha256 events indices watermark event (before + 1) = .ok boundary) :
    (∃ position previous, indices[before]? = some position ∧ events[position]? = some previous ∧
      event.previousEventHash = eventHash sha256 previous) ∧ boundary = watermark := by
  unfold rebaseBoundary at h
  dsimp only at h
  split at h
  · cases h
  rename_i previousHash hp
  split at h
  · cases h
  rename_i hs
  cases h
  simp only [Option.bind_eq_bind, Option.bind_eq_some_iff] at hp
  obtain ⟨previous, ⟨position, hpo, he⟩, hh⟩ := hp
  obtain ⟨-, rfl⟩ := hashAnswerEvent_eq_some_iff.mp hh
  exact ⟨⟨position, previous, hpo, he, by simpa using hs⟩, rfl⟩

lemma rebaseEvents_eq_ok (h : rebaseEvents sha256 events watermark event index = .ok (events', rebased)) :
    ∃ offset boundary lastHash, (sessionIndices events (sessionKey event)).findIdx? (· == index) = some offset ∧
      rebaseBoundary sha256 events (sessionIndices events (sessionKey event)) watermark event offset = .ok boundary ∧
      rebaseSuffix sha256 (events.set index event) index (eventHash sha256 event)
        ((sessionIndices events (sessionKey event)).drop (offset + 1)) = .ok (events', lastHash) ∧
      rebased = { boundary with lastHash } := by
  unfold rebaseEvents at h
  dsimp only at h
  split at h
  · cases h
  rename_i offset ho
  obtain ⟨boundary, hb, h⟩ := bind_eq_ok_iff.mp h
  split at h
  · cases h
  rename_i hash hh
  obtain ⟨-, rfl⟩ := hashAnswerEvent_eq_some_iff.mp hh
  obtain ⟨⟨suffixed, lastHash⟩, hs, h⟩ := bind_eq_ok_iff.mp h
  cases h
  exact ⟨offset, boundary, lastHash, ho, hb, hs, rfl⟩

/-- **A rebase changes predecessors of its own session and nothing else.** -/
theorem rebaseEvents_relinked {existing : AnswerEvent}
    (h : rebaseEvents sha256 events watermark event index = .ok (events', rebased))
    (hexis : events[index]? = some existing)
    (hbody : event = { existing with previousEventHash := event.previousEventHash }) :
    List.Forall₂ (Relinked (sessionKey event)) events events' := by
  obtain ⟨offset, boundary, lastHash, -, -, hsuff, -⟩ := rebaseEvents_eq_ok h
  have hkey : sessionKey existing = sessionKey event := by rw [hbody]; rfl
  have hset : List.Forall₂ (Relinked (sessionKey event)) events (events.set index event) :=
    relinkedAll_set hexis ⟨hbody, fun hne => absurd hkey hne⟩
  refine relinkedAll_trans hset (rebaseSuffix_relinked hsuff ?_)
  intro position hposi current hcurr
  obtain ⟨old, hold, hreli⟩ := relinkedAll_getElem? hset hcurr
  obtain ⟨found, hfound, hfoun⟩ := mem_sessionIndices (mem_of_mem_drop hposi)
  rw [hold] at hfound
  cases hfound
  rw [hreli.sessionKey_eq, hfoun]

end Rebase

end Nstu
