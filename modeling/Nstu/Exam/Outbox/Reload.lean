import Nstu.Core.Map
import Nstu.Exam.Outbox.Frame
import Nstu.Exam.Outbox.Invariant

/-!
# The outbox can always be reopened

`open` repeats about fifteen checks over what it reads.  Here they are met one after the other, for
the file of any outbox that is `Settled`: every session is described by its pending events in
sequence order, in whatever order they are filed.

* `decryptOutbox_saved` and the `run_read…` lemmas follow the bytes back to events and watermarks;
* `loadEvent_settled`, `checkPending_consistent` and `settleAcknowledged_consistent` say that no
  check objects and none changes a watermark;
* `open_saved` puts them together, and `outbox_reopen` is the result for every run.
-/

namespace Nstu

open Wire Wire.Reader Wire.Parser HashChain List Std

/-! ## Maps -/

section Maps

variable {ν : Type}

lemma insert_of_getElem? {map : OrderedMap Bytes ν} {key : Bytes} {value : ν}
    (h : map[key]? = some value) : map.insert key value = map := by
  apply ExtTreeMap.ext_getElem?
  intro other
  rw [getElem?_insert]
  split_ifs with he
  · rw [← he, h]
  · rfl

lemma insertMany_toList (map : OrderedMap Bytes ν) : (∅ : OrderedMap Bytes ν).insertMany map.toList = map := by
  apply ExtTreeMap.ext_getElem?
  intro key
  cases h : map[key]? with
  | some value =>
    exact ExtTreeMap.getElem?_insertMany_list_of_mem (by simp)
      ExtTreeMap.distinct_keys_toList (ExtTreeMap.mem_toList_iff_getElem?_eq_some.mpr h)
  | none =>
    rw [ExtTreeMap.getElem?_insertMany_list_of_contains_eq_false]
    · simp
    · rw [← Bool.not_eq_true, contains_iff_mem, mem_map]
      rintro ⟨⟨_, value⟩, he, rfl⟩
      rw [ExtTreeMap.mem_toList_iff_getElem?_eq_some, h] at he
      cases he

end Maps

/-! ## Settled outboxes -/

/-- Every session of the outbox is described by its pending events in sequence order. -/
structure Settled (sha256 : Bytes → Digest) (events : List AnswerEvent) (watermarks : Watermarks) :
    Prop where
  valid : ∀ event ∈ events, ValidAnswerEvent event
  present : ∀ (key : Bytes) (watermark : OutboxWatermark), watermarks[key]? = some watermark →
    WatermarkInvariant sha256 key watermark (sortBySequence (eventsOf key events))
  absent : ∀ key : Bytes, watermarks[key]? = none → eventsOf key events = []

lemma mem_sortBySequence {event : AnswerEvent} {events : List AnswerEvent} :
    event ∈ sortBySequence events ↔ event ∈ events :=
  mem_mergeSort

lemma sortBySequence_eq_nil_iff {events : List AnswerEvent} : sortBySequence events = [] ↔ events = [] := by
  rw [← length_eq_zero_iff, sortBySequence, length_mergeSort, length_eq_zero_iff]

lemma Consistent.settled {sha256 : Bytes → Digest} {events : List AnswerEvent}
    {watermarks : Watermarks} (h : Consistent sha256 events watermarks) :
    Settled sha256 events watermarks where
  valid := h.valid
  present key watermark hw := by
    have hsession := h.present key watermark hw
    have hs : sortBySequence (eventsOf key events) = eventsOf key events :=
      mergeSort_of_pairwise (hsession.pairwise_le.imp fun hl => by simpa using hl)
    rw [hs]
    exact hsession
  absent := h.absent

lemma WatermarkInvariant.pairwise_ne {sha256 : Bytes → Digest} {key : Bytes}
    {watermark : OutboxWatermark} {pending : List AnswerEvent}
    (h : WatermarkInvariant sha256 key watermark (sortBySequence pending)) :
    pending.Pairwise fun left right => left.sequence ≠ right.sequence := by
  have hn := h.pairwise.imp fun hl => UInt64.ne_of_lt hl
  exact (mergeSort_perm pending _).pairwise hn fun hn he => hn he.symm

/-! ## Watermarks on the wire -/

variable {value : Bytes} {maximum : ℕ}

lemma run_readBoundedString {rest : Bytes} (ht : validText value maximum false) (hm : maximum ≤ 128) :
    (readBoundedString maximum).run (le (UInt16.ofNat value.length) ++ (value ++ rest)) = some (value, rest) := by
  obtain ⟨hn, hl, hz⟩ := validText_iff.mp ht
  simp only [Bool.false_eq_true, false_or] at hn
  have hs := toNat_uint16_length (Nat.le_trans hl hm)
  simp only [readBoundedString, run_bind_readLe_iff, run_bind_require_iff, run_bind_readBytes_iff,
    Reader.run_pure_iff]
  refine ⟨_, _, rfl, ?_, hs.symm ▸ hl, value, rest, rfl, hs.symm, hz, rfl, rfl⟩
  intro hno
  have := congrArg UInt16.toNat hno
  rw [hs] at this
  exact hn (length_eq_zero_iff.mp this)

lemma boundedString_of_valid (ht : validText value maximum false) (hm : maximum ≤ 128) :
    boundedString value maximum = some (le (UInt16.ofNat value.length) ++ value) := by
  obtain ⟨hn, hl, -⟩ := validText_iff.mp ht
  simp only [Bool.false_eq_true, false_or] at hn
  rw [boundedString, if_neg]
  simp only [Bool.or_eq_true, List.isEmpty_iff, decide_eq_true_eq, not_or]
  exact ⟨⟨hn, by omega⟩, by omega⟩

/-- What the readers need of a watermark. -/
structure ReadableWatermark (watermark : OutboxWatermark) : Prop where
  packageId : validText watermark.packageId kMaximumPackageIdBytes false = true
  candidateId : validText watermark.candidateId kMaximumCandidateIdBytes false = true
  valid : validWatermark watermark = true

/-- The bytes of a readable watermark. -/
def watermarkWire (watermark : OutboxWatermark) : Bytes :=
  [le (UInt16.ofNat watermark.packageId.length) ++ watermark.packageId,
    le (UInt16.ofNat watermark.candidateId.length) ++ watermark.candidateId,
    watermark.packageDigest.toList, watermark.clientId.toList, watermark.sessionId.toList,
    le watermark.highestSequence, watermark.lastHash.toList, le watermark.acknowledgedSequence,
    watermark.acknowledgedHash.toList, le (if watermark.finalized then 1 else 0 : UInt8)].flatten

section Watermarks

variable {watermark : OutboxWatermark} {rest : Bytes}

lemma encodeWatermark_of_readable (h : ReadableWatermark watermark) :
    encodeWatermark watermark = some (watermarkWire watermark) := by
  rw [encodeWatermark, if_neg (by simp [h.valid]), boundedString_of_valid h.packageId (by decide),
    boundedString_of_valid h.candidateId (by decide)]
  rfl

lemma run_readWatermarkFields (h : ReadableWatermark watermark) :
    readWatermarkFields.run (watermarkWire watermark ++ rest) = some ({ watermark with
          acknowledgedSequence := 0, acknowledgedHash := Block.zero 32, finalized := false },
        le watermark.acknowledgedSequence ++ (watermark.acknowledgedHash.toList ++
          (le (if watermark.finalized then 1 else 0 : UInt8) ++ rest))) := by
  simp only [watermarkWire, flatten_cons, flatten_nil, append_nil, append_assoc,
    readWatermarkFields]
  rw [Reader.run_bind_iff]
  refine ⟨_, _, run_readBoundedString h.packageId (by decide), ?_⟩
  rw [Reader.run_bind_iff]
  refine ⟨_, _, run_readBoundedString h.candidateId (by decide), ?_⟩
  simp only [run_bind_readBlock_iff, run_bind_readLe_iff, Reader.run_pure_iff]
  exact ⟨_, _, rfl, _, _, rfl, _, _, rfl, _, _, rfl, _, _, rfl, rfl, rfl⟩

lemma run_readBoundary (sequence : UInt64) (hash : Digest) :
    (readBoundary kOutboxVersion watermark).run (le sequence ++ (hash.toList ++ rest)) =
      some ({ watermark with acknowledgedSequence := sequence, acknowledgedHash := hash }, rest) := by
  rw [readBoundary, if_pos (by decide), run_bind_readLe_iff]
  simp only [run_bind_readBlock_iff, Reader.run_pure_iff]
  exact ⟨_, _, rfl, _, _, rfl, rfl, rfl⟩

lemma run_readMarker (finalized : Bool) :
    (readMarker kOutboxVersion watermark).run (le (if finalized then 1 else 0 : UInt8) ++ rest) =
      some ({ watermark with finalized }, rest) := by
  rw [readMarker, if_pos (by decide), run_bind_readLe_iff]
  simp only [run_bind_require_iff, Reader.run_pure_iff]
  refine ⟨_, _, rfl, ?_, ?_, rfl⟩
  · cases finalized <;> decide
  · cases finalized <;> rfl

/-- **A watermark is read back as it was written.** -/
lemma run_readWatermark (h : ReadableWatermark watermark) :
    (readWatermark kOutboxVersion).run (watermarkWire watermark ++ rest) = .ok (watermark, rest) := by
  simp only [readWatermark]
  rw [Parser.run_bind_iff]
  refine ⟨_, _, run_orFail_iff.mpr (run_readWatermarkFields h), ?_⟩
  rw [Parser.run_bind_iff]
  refine ⟨_, _, run_orFail_iff.mpr (run_readBoundary _ _), ?_⟩
  rw [Parser.run_bind_iff]
  refine ⟨_, _, run_orFail_iff.mpr (run_readMarker _), ?_⟩
  rw [Parser.run_bind_iff]
  exact ⟨(), _, run_orFail_iff.mpr (if_pos h.valid), rfl⟩

end Watermarks

lemma run_readWatermarks {entries : List (Bytes × OutboxWatermark)} {watermarks : Watermarks}
    {rest : Bytes} (hr : ∀ entry ∈ entries, ReadableWatermark entry.2)
    (hk : ∀ entry ∈ entries, entry.2.key = entry.1) (hd : entries.Pairwise fun left right => left.1 ≠ right.1)
    (hn : ∀ entry ∈ entries, entry.1 ∉ watermarks) : (readWatermarks kOutboxVersion entries.length watermarks).run
        ((entries.map fun entry => watermarkWire entry.2).flatten ++ rest) =
      .ok (watermarks.insertMany entries, rest) := by
  induction entries generalizing watermarks with
  | nil => simp only [ExtTreeMap.insertMany_nil]; rfl
  | cons entry entries ih =>
    obtain ⟨key, watermark⟩ := entry
    obtain ⟨hh, hd⟩ := pairwise_cons.mp hd
    have hke : watermark.key = key := hk (key, watermark) (by simp)
    simp only [map_cons, flatten_cons, append_assoc, length_cons, readWatermarks]
    rw [Parser.run_bind_iff]
    refine ⟨_, _, run_readWatermark (hr (key, watermark) (by simp)), ?_⟩
    rw [Parser.run_bind_iff]
    have ha : watermarks.contains watermark.key = false := by
      rw [hke, ← Bool.not_eq_true, ExtTreeMap.contains_iff_mem]
      exact hn (key, watermark) (by simp)
    refine ⟨(), _, run_orFail_iff.mpr (if_pos ha), ?_⟩
    rw [ExtTreeMap.insertMany_cons, hke]
    refine ih (fun item hi => hr item (by simp [hi]))
      (fun item hi => hk item (by simp [hi])) hd ?_
    intro item hi
    rw [ExtTreeMap.mem_insert, not_or]
    refine ⟨?_, hn item (by simp [hi])⟩
    simpa using hh item hi

/-! ## Events on the wire -/

/-- The bytes of a valid pending event. -/
def outboxEventWire (event : AnswerEvent) : Bytes :=
  le (UInt32.ofNat (answerEventWire event).length) ++ answerEventWire event

section Events

variable {sha256 : Bytes → Digest} {event : AnswerEvent} {events done todo : List AnswerEvent}
  {watermarks : Watermarks}

lemma encodeOutboxEvent_of_valid (h : ValidAnswerEvent event) :
    encodeOutboxEvent event = some (outboxEventWire event) := by
  have hn := isEmpty_eq_false_iff.mpr (answerEventWire_ne_nil event)
  have hl := h.length_wire_le
  unfold encodeOutboxEvent
  dsimp only
  rw [encodeAnswerEvent_of_valid h, if_neg (by simp only [hn, Bool.false_or, decide_eq_true_eq]; omega)]
  rfl

lemma run_readOutboxRecord {rest : Bytes} (h : ValidAnswerEvent event) :
    readOutboxRecord.run (outboxEventWire event ++ rest) = some (answerEventWire event, rest) := by
  have hs := h.payloadBytes
  simp only [outboxEventWire, append_assoc, readOutboxRecord, run_bind_readLe_iff,
    run_bind_require_iff, run_readBytes_iff]
  refine ⟨_, _, rfl, ?_, hs.symm ▸ h.length_wire_le, rfl, hs.symm⟩
  intro hz
  have := congrArg UInt32.toNat hz
  rw [hs] at this
  exact answerEventWire_ne_nil event (length_eq_zero_iff.mp this)

lemma eventsOf_split (hs : events = done ++ event :: todo) :
    eventsOf (sessionKey event) events = eventsOf (sessionKey event) done ++
      event :: eventsOf (sessionKey event) todo := by
  rw [hs, eventsOf, filter_append, filter_cons, if_pos (by simp)]
  rfl

/-- **No check of the event loop objects**, and none changes a watermark. -/
lemma loadEvent_settled (h : Settled sha256 events watermarks) (hsplit : events = done ++ event :: todo) :
    loadEvent sha256 kOutboxVersion ⟨done, watermarks⟩ event = .ok ⟨done ++ [event], watermarks⟩ := by
  have hmem : event ∈ events := by simp [hsplit]
  have hown : event ∈ eventsOf (sessionKey event) events := by simp [eventsOf, hmem]
  cases hwate : watermarks[sessionKey event]? with
  | none =>
    rw [h.absent _ hwate] at hown
    cases hown
  | some watermark =>
    have hsession := h.present _ _ hwate
    have hsort := mem_sortBySequence.mpr hown
    have hfresh : (done.any fun item =>
        sessionKey item == sessionKey event && item.sequence == event.sequence) = false := by
      rw [any_eq_false]
      intro item hitem
      simp only [Bool.and_eq_true, beq_iff_eq, not_and]
      intro hkey
      have hpair := hsession.pairwise_ne
      rw [eventsOf_split hsplit, pairwise_append] at hpair
      exact hpair.2.2 item (by simp [eventsOf, hitem, hkey]) event (by simp)
    have hcont : sameWatermarkContext watermark event :=
      sameWatermarkContext_iff.mpr ⟨hsession.context, (hsession.candidates event hsort).symm⟩
    have hhigh : ¬ event.sequence > watermark.highestSequence := by
      obtain ⟨i, hi, hget⟩ := getElem_of_mem hsort
      have hsequ := hsession.sequences i hi
      have htop := hsession.highest
      rw [hget] at hsequ
      rw [gt_iff_lt, UInt64.lt_iff_toNat_lt]
      omega
    have hload : watermark.loaded kOutboxVersion event (eventHash sha256 event) = watermark := by
      rw [OutboxWatermark.loaded, if_neg (by simp [kOutboxVersion, kOutboxFinalizationVersion]),
        if_neg (by simp [kOutboxVersion, kOutboxLegacyVersion])]
    unfold loadEvent
    rw [hashAnswerEvent_eq_some_iff.mpr ⟨h.valid event hmem, rfl⟩]
    dsimp only
    rw [if_neg (by simp [hfresh]), hwate]
    dsimp only
    rw [if_neg (by simp [hcont, hhigh]), hload, insert_of_getElem? hwate]

lemma run_readEvents {rest : Bytes} (h : Settled sha256 events watermarks) (hs : events = done ++ todo) :
    (readEvents sha256 kOutboxVersion todo.length ⟨done, watermarks⟩).run
        ((todo.map outboxEventWire).flatten ++ rest) = .ok (⟨events, watermarks⟩, rest) := by
  induction todo generalizing done with
  | nil =>
    rw [append_nil] at hs
    subst hs
    rfl
  | cons event todo ih =>
    have hv := h.valid event (by simp [hs])
    simp only [map_cons, flatten_cons, append_assoc, length_cons, readEvents]
    rw [Parser.run_bind_iff]
    refine ⟨_, _, run_orFail_iff.mpr (run_readOutboxRecord hv), ?_⟩
    rw [decodeAnswerEvent_eq_ok_iff.mpr ⟨hv, rfl⟩]
    dsimp only
    rw [Parser.run_bind_iff]
    refine ⟨_, _, run_noInput_iff.mpr ⟨loadEvent_settled h hs, rfl⟩, ?_⟩
    exact ih (by simp [hs])

end Events

/-! ## The session checks -/

/-- Every watermark passes `valid_watermark`. -/
def AllValid (watermarks : Watermarks) : Prop :=
  ∀ (key : Bytes) (watermark : OutboxWatermark), watermarks[key]? = some watermark → validWatermark watermark = true

lemma getElem?_pendingBySession (events : List AnswerEvent) (key : Bytes) : (pendingBySession events)[key]? =
      if eventsOf key events = [] then none else some (eventsOf key events) := by
  induction events using reverseRecOn with
  | nil => simp [pendingBySession, eventsOf]
  | append_singleton events event ih =>
    have hs : pendingBySession (events ++ [event]) = (pendingBySession events).insert (sessionKey event)
          (((pendingBySession events)[sessionKey event]?).getD [] ++ [event]) := by
      simp [pendingBySession]
    rw [hs, getElem?_insert, eventsOf_concat]
    split_ifs with hk hn hn
    · simp at hn
    · rw [hk, ih]
      split_ifs with he
      · simp [he]
      · rfl
    · rw [ih, if_pos hn]
    · rw [ih, if_neg hn]

section Sessions

variable {sha256 : Bytes → Digest} {key : Bytes} {saved : OutboxWatermark} {first : AnswerEvent}
  {rest pending : List AnswerEvent}

lemma pendingFinalized_eq {finalized : Bool} (hn : pending ≠ []) (h : ∀ i (hi : i < pending.length),
      pending[i].kind = .finalize ↔ finalized ∧ i + 1 = pending.length) :
    pendingFinalized false pending = .ok finalized := by
  induction pending with
  | nil => exact absurd rfl hn
  | cons event rest ih =>
    have hh := h 0 (by simp)
    cases rest with
    | nil =>
      simp only [getElem_cons_zero, length_singleton, and_true] at hh
      cases finalized with
      | true => simp [pendingFinalized, hh]
      | false => simpa [pendingFinalized] using hh
    | cons next rest =>
      have hk : (event.kind == .finalize) = false := by
        simpa using hh
      rw [pendingFinalized, hk]
      apply ih (by simp)
      intro i hi
      have hnex := h (i + 1) (by simpa using hi)
      simpa using hnex

lemma settleFinalization_self (saved : OutboxWatermark) :
    settleFinalization kOutboxVersion saved saved.finalized = .ok saved := by
  simp only [settleFinalization]
  rw [if_neg (by decide)]
  cases hf : saved.finalized <;> simp

variable (hsession : WatermarkInvariant sha256 key saved (first :: rest))
include hsession

lemma checkBoundary_consistent (hwrit : validWatermark saved) : checkBoundary saved first = .ok () := by
  have hsequ := hsession.sequences 0 (by simp)
  simp only [getElem_cons_zero, Nat.add_zero] at hsequ
  have hfull : saved.acknowledgedSequence ≠ maxSequence := by
    intro hmax
    have hlt := first.sequence.toNat_lt
    rw [hmax] at hsequ
    simp only [maxSequence, UInt64.reduceToNat] at hsequ
    omega
  have hnext : saved.acknowledgedSequence + 1 = first.sequence := by
    rw [← UInt64.toNat_inj, toNat_succ hfull, hsequ]
  have hprev : first.previousEventHash = saved.acknowledgedHash := hsession.linked.1
  simp only [checkBoundary]
  rw [if_neg (by simp [hwrit]), if_neg (by simp [hfull, hnext])]
  split_ifs with hzero hnonz hnonz
  · have hboun : allZero first.previousEventHash.toList :=
      allZero_iff.mpr (hprev.trans (hsession.boundary.mp (by simpa using hzero)))
    simp [hboun] at hnonz
  · rfl
  · have hboun := sameDigest_iff.mpr (congrArg Block.toList hprev)
    simp [hboun] at hnonz
  · rfl

end Sessions

lemma checkChain_linked {sha256 : Bytes → Digest} {first : AnswerEvent} {rest : List AnswerEvent}
    (hvalid : ∀ event ∈ first :: rest, ValidAnswerEvent event)
    (hsequ : ∀ i (hi : i < rest.length), rest[i].sequence.toNat = first.sequence.toNat + i + 1)
    (hlinke : Linked (eventHash sha256) (·.previousEventHash) (eventHash sha256 first) rest) :
    checkChain sha256 first rest = .ok ((first :: rest).getLast (by simp)) := by
  induction rest generalizing first with
  | nil => rfl
  | cons current rest ih =>
    have hseque : current.sequence.toNat = first.sequence.toNat + 1 := hsequ 0 (by simp)
    have hfull : first.sequence ≠ maxSequence := by
      intro hmax
      have hlt := current.sequence.toNat_lt
      rw [hmax] at hseque
      simp only [maxSequence, UInt64.reduceToNat] at hseque
      omega
    have hnext : current.sequence = first.sequence + 1 := by
      rw [← UInt64.toNat_inj, toNat_succ hfull, hseque]
    have hlink : checkLink sha256 first current = .ok () := by
      rw [checkLink, if_neg (by simp [hfull, hnext]),
        hashAnswerEvent_eq_some_iff.mpr ⟨hvalid first (by simp), rfl⟩]
      dsimp only
      rw [if_neg (by simp [sameDigest_iff.mpr (congrArg Block.toList hlinke.1)])]
    simp only [checkChain, hlink]
    rw [ih (fun event hevent => hvalid event (by simp [hevent])) ?_ hlinke.2]
    · rw [getLast_cons_cons]
    · intro i hi
      have := hsequ (i + 1) (by simpa using hi)
      simp only [getElem_cons_succ] at this
      omega

section Sessions

variable {sha256 : Bytes → Digest} {key : Bytes} {saved : OutboxWatermark} {first : AnswerEvent}
  {rest : List AnswerEvent} {events : List AnswerEvent} {watermarks : Watermarks}

lemma checkLast_consistent (hsession : WatermarkInvariant sha256 key saved (first :: rest))
    (hv : ∀ event ∈ first :: rest, ValidAnswerEvent event) :
    checkLast sha256 saved ((first :: rest).getLast (by simp)) = .ok () := by
  have hl : (first :: rest).getLast? = some ((first :: rest).getLast (by simp)) :=
    getLast?_eq_some_getLast _
  have hm : (first :: rest).getLast (by simp) ∈ first :: rest := getLast_mem _
  have hs : ((first :: rest).getLast (by simp)).sequence = saved.highestSequence := by
    rw [← UInt64.toNat_inj, hsession.highest, getLast_eq_getElem, hsession.sequences]
    simp only [length_cons, Nat.add_sub_cancel]
    omega
  have hh : saved.lastHash = eventHash sha256 ((first :: rest).getLast (by simp)) :=
    hsession.lastHash.trans (endHash_eq_of_getLast? hl)
  unfold checkLast
  rw [hashAnswerEvent_eq_some_iff.mpr ⟨hv _ hm, rfl⟩]
  dsimp only
  rw [if_neg (by simp [hs, sameDigest_iff.mpr (congrArg Block.toList hh)])]

/-- **No check of a session with pending events objects**, and none changes its watermark. -/
lemma checkPending_consistent (hsession : WatermarkInvariant sha256 key saved (first :: rest))
    (hv : ∀ event ∈ first :: rest, ValidAnswerEvent event) (hw : validWatermark saved) :
    checkPending sha256 kOutboxVersion saved first rest = .ok saved := by
  have hin : inferBoundary kOutboxVersion saved first = saved := by
    rw [inferBoundary, if_neg (by decide)]
  have hc : checkChain sha256 first rest = .ok ((first :: rest).getLast (by simp)) := by
    refine checkChain_linked hv (fun i hi => ?_) hsession.linked.2
    have hh := hsession.sequences 0 (by simp)
    have hit := hsession.sequences (i + 1) (by simpa using hi)
    simp only [getElem_cons_zero, getElem_cons_succ] at hh hit
    omega
  simp only [checkPending]
  rw [bind_eq_ok_iff]
  refine ⟨_, pendingFinalized_eq (by simp) hsession.finalize, ?_⟩
  rw [bind_eq_ok_iff]
  refine ⟨_, settleFinalization_self saved, ?_⟩
  rw [hin, bind_eq_ok_iff]
  refine ⟨_, checkBoundary_consistent hsession hw, ?_⟩
  rw [bind_eq_ok_iff]
  refine ⟨_, hc, ?_⟩
  rw [bind_eq_ok_iff]
  exact ⟨_, checkLast_consistent hsession hv, rfl⟩

lemma checkSession_settled (h : Settled sha256 events watermarks)
    (hw : AllValid watermarks) (hp : eventsOf key events ≠ []) :
    checkSession sha256 kOutboxVersion watermarks (key, eventsOf key events) = .ok watermarks := by
  cases hs : watermarks[key]? with
  | none => exact absurd (h.absent key hs) hp
  | some saved =>
    have hsession := h.present key saved hs
    have hv : ∀ event ∈ sortBySequence (eventsOf key events), ValidAnswerEvent event :=
      fun event he => h.valid event (mem_filter.mp (mem_sortBySequence.mp he)).1
    simp only [checkSession]
    rw [hs]
    dsimp only
    generalize sortBySequence (eventsOf key events) = pending at hsession hv
    cases pending with
    | nil => rfl
    | cons first rest =>
      dsimp only
      rw [bind_eq_ok_iff]
      exact ⟨saved, checkPending_consistent hsession hv (hw _ _ hs),
        congrArg Except.ok (insert_of_getElem? hs)⟩

lemma settleAcknowledged_consistent (hsession : WatermarkInvariant sha256 key saved []) :
    settleAcknowledged kOutboxVersion saved = .ok saved := by
  have hs : saved.acknowledgedSequence = saved.highestSequence := by
    rw [← UInt64.toNat_inj, hsession.highest, length_nil, Nat.add_zero]
  have hh : saved.lastHash = saved.acknowledgedHash := hsession.lastHash
  rw [settleAcknowledged, if_neg (by simp [hs, hh, sameDigest])]

lemma foldlM_const {α β ε : Type} {f : β → α → Except ε β} {items : List α} {b : β}
    (h : ∀ item ∈ items, f b item = .ok b) : items.foldlM f b = .ok b := by
  induction items with
  | nil => rfl
  | cons item rest ih =>
    rw [foldlM_cons, h item (by simp)]
    exact ih fun item hi => h item (by simp [hi])

/-- **The session checks accept a settled outbox as it is.** -/
lemma checkSessions_settled (h : Settled sha256 events watermarks) (hw : AllValid watermarks) :
    checkSessions sha256 kOutboxVersion ⟨events, watermarks⟩ = .ok ⟨events, watermarks⟩ := by
  unfold checkSessions
  dsimp only
  rw [bind_eq_ok_iff]
  refine ⟨watermarks, foldlM_const fun session hsession => ?_, ?_⟩
  · obtain ⟨key, pending⟩ := session
    rw [ExtTreeMap.mem_toList_iff_getElem?_eq_some, getElem?_pendingBySession] at hsession
    split_ifs at hsession with hn
    cases hsession
    exact checkSession_settled h hw hn
  · rw [bind_eq_ok_iff]
    refine ⟨watermarks, foldlM_const fun entry he => ?_, rfl⟩
    obtain ⟨key, saved⟩ := entry
    have hs := ExtTreeMap.mem_toList_iff_getElem?_eq_some.mp he
    simp only [checkAcknowledged]
    split
    · rfl
    · rename_i ha
      have hp : eventsOf key events = [] := by
        by_contra hne
        apply ha
        rw [ExtTreeMap.contains_eq_isSome_getElem?, getElem?_pendingBySession, if_neg hne]
        rfl
      have hsession := h.present key saved hs
      rw [hp, sortBySequence, mergeSort_nil] at hsession
      rw [bind_eq_ok_iff]
      exact ⟨saved, settleAcknowledged_consistent hsession,
        congrArg Except.ok (insert_of_getElem? hs)⟩

end Sessions

/-! ## The whole file -/

/-- The bytes of an outbox with readable watermarks and valid events. -/
def outboxWire (events : List AnswerEvent) (watermarks : Watermarks) : Bytes :=
  le kOutboxMagic ++ (le kOutboxVersion ++ (le (0 : UInt16) ++
    (le (UInt32.ofNat events.length) ++ (le (UInt32.ofNat watermarks.size) ++
      ((watermarks.toList.map fun entry => watermarkWire entry.2).flatten ++
        (events.map outboxEventWire).flatten)))))

lemma mapM_eq_some_map {α β : Type} {f : α → Option β} {g : α → β} {items : List α}
    (h : ∀ item ∈ items, f item = some (g item)) : items.mapM f = some (items.map g) := by
  induction items with
  | nil => rfl
  | cons item rest ih =>
    rw [mapM_cons, h item (by simp), ih fun item hi => h item (by simp [hi])]
    rfl

section File

variable {sha256 : Bytes → Digest} {events : List AnswerEvent} {watermarks : Watermarks}

lemma Settled.readable (h : Settled sha256 events watermarks) (hw : AllValid watermarks) :
    ∀ entry ∈ watermarks.toList, ReadableWatermark entry.2 := by
  rintro ⟨key, watermark⟩ he
  have hwa := ExtTreeMap.mem_toList_iff_getElem?_eq_some.mp he
  have hsession := h.present key watermark hwa
  exact ⟨hsession.packageId, hsession.candidateId, hw key watermark hwa⟩

lemma encodeOutbox_of_settled (h : Settled sha256 events watermarks)
    (hwrit : AllValid watermarks) (hne : encodeOutbox events watermarks ≠ []) :
    encodeOutbox events watermarks = outboxWire events watermarks ∧
      events.length ≤ kMaximumOutboxEvents ∧ watermarks.size ≤ kMaximumOutboxWatermarks ∧
      (encodeOutbox events watermarks).length ≤ kMaximumOutboxBytes := by
  have hwate : (watermarks.toList.map Prod.snd).mapM encodeWatermark =
      some ((watermarks.toList.map Prod.snd).map watermarkWire) := by
    apply mapM_eq_some_map
    intro watermark hwater
    obtain ⟨entry, hentry, rfl⟩ := mem_map.mp hwater
    exact encodeWatermark_of_readable (h.readable hwrit entry hentry)
  have heven : events.mapM encodeOutboxEvent = some (events.map outboxEventWire) :=
    mapM_eq_some_map fun event hevent => encodeOutboxEvent_of_valid (h.valid event hevent)
  unfold encodeOutbox at hne ⊢
  split at hne
  · exact absurd rfl hne
  rename_i hquota
  simp only [Bool.or_eq_true, decide_eq_true_eq, not_or, Nat.not_lt] at hquota
  rw [hwate, heven] at hne ⊢
  dsimp only at hne ⊢
  split at hne
  · rename_i hfits
    rw [if_neg (by simp [hquota.1, hquota.2]), if_pos hfits]
    refine ⟨?_, hquota.1, hquota.2, hfits⟩
    simp only [outboxWire, flatten_cons, flatten_nil, append_nil, map_map]
    rfl
  · exact absurd rfl hne

variable {count : UInt32}

lemma run_readOutboxHeader {rest : Bytes} (hc : count.toNat ≤ kMaximumOutboxEvents) :
    readOutboxHeader.run (le kOutboxMagic ++ (le kOutboxVersion ++ (le (0 : UInt16) ++
      (le count ++ rest)))) = some ((kOutboxVersion, count), rest) := by
  simp only [readOutboxHeader, run_bind_readLe_iff, run_bind_require_iff]
  refine ⟨_, _, rfl, rfl, _, _, rfl, by decide, by decide, ?_⟩
  rw [Reader.run_bind_iff]
  refine ⟨(), le count ++ rest, ?_, ?_⟩
  · rw [readReserved, if_pos (by decide), run_bind_readLe_iff]
    simp only [run_bind_require_iff, Reader.run_pure_iff]
    exact ⟨_, _, rfl, rfl, trivial, rfl⟩
  · simp only [run_bind_readLe_iff, run_bind_require_iff, Reader.run_pure_iff]
    exact ⟨_, _, rfl, hc, rfl, rfl⟩

lemma run_readWatermarkCount {rest : Bytes} (hc : count.toNat ≤ kMaximumOutboxWatermarks) :
    (readWatermarkCount kOutboxVersion).run (le count ++ rest) = some (count, rest) := by
  rw [readWatermarkCount, if_pos (by decide), run_bind_readLe_iff]
  simp only [run_bind_require_iff, Reader.run_pure_iff]
  exact ⟨_, _, rfl, hc, rfl, rfl⟩

/-- **What was written for a settled outbox is read back as it was.** -/
lemma run_readOutbox (h : Settled sha256 events watermarks)
    (hw : AllValid watermarks) (he : events.length ≤ kMaximumOutboxEvents)
    (hwa : watermarks.size ≤ kMaximumOutboxWatermarks) :
    (readOutbox sha256).run (outboxWire events watermarks) = .ok ((kOutboxVersion, ⟨events, watermarks⟩), []) := by
  have hc : (UInt32.ofNat events.length).toNat = events.length := by
    rw [kMaximumOutboxEvents] at he
    rw [UInt32.toNat_ofNat', Nat.mod_eq_of_lt (by omega)]
  have hs : (UInt32.ofNat watermarks.size).toNat = watermarks.size := by
    rw [kMaximumOutboxWatermarks] at hwa
    rw [UInt32.toNat_ofNat', Nat.mod_eq_of_lt (by omega)]
  have hr : (readWatermarks kOutboxVersion watermarks.size ∅).run
      ((watermarks.toList.map fun entry => watermarkWire entry.2).flatten ++
        (events.map outboxEventWire).flatten) =
      .ok (watermarks, (events.map outboxEventWire).flatten) := by
    rw [← ExtTreeMap.length_toList, run_readWatermarks (h.readable hw) ?_ ?_ (by simp),
      insertMany_toList]
    · intro entry hen
      exact (h.present _ _ (ExtTreeMap.mem_toList_iff_getElem?_eq_some.mp hen)).context
    · exact KeyedMap.pairwise_ne_toList _
  unfold readOutbox outboxWire
  rw [Parser.run_bind_iff]
  refine ⟨_, _, run_orFail_iff.mpr (run_readOutboxHeader (hc.symm ▸ he)), ?_⟩
  rw [Parser.run_bind_iff]
  refine ⟨_, _, run_orFail_iff.mpr (run_readWatermarkCount (hs.symm ▸ hwa)), ?_⟩
  rw [Parser.run_bind_iff]
  refine ⟨_, _, hs.symm ▸ hr, ?_⟩
  rw [Parser.run_bind_iff]
  refine ⟨⟨events, watermarks⟩, [], ?_, ?_⟩
  · have hl := @run_readEvents _ _ _ _ _ [] h (nil_append events).symm
    rw [append_nil] at hl
    exact hc.symm ▸ hl
  rw [Parser.run_bind_iff]
  refine ⟨_, _, run_noInput_iff.mpr ⟨checkSessions_settled h hw, rfl⟩, ?_⟩
  rfl

end File

/-! ## The wrapper -/

section Wrapper

variable {secrets : MachineSecrets} {events : List AnswerEvent} {watermarks : Watermarks}
  {file : Bytes}

variable {calls : OutboxCalls}

lemma saveOutbox_eq_ok (h : saveOutbox secrets calls events watermarks = .ok file) :
    encodeOutbox events watermarks ≠ [] ∧ (encodeOutbox events watermarks).length ≤ kMaximumOutboxBytes ∧
      secrets.protect calls.salt (encodeOutbox events watermarks) ≠ [] ∧ file.length ≤ kMaximumStoredOutboxBytes ∧
      file = storedOutbox (encodeOutbox events watermarks).length
        (secrets.protect calls.salt (encodeOutbox events watermarks)) := by
  unfold saveOutbox at h
  dsimp only at h
  split at h
  · cases h
  rename_i hn
  simp only [writeOutboxFile] at h
  split at h
  · cases h
  rename_i stored hp
  split at h
  case isFalse => cases h
  cases h
  unfold protectOutboxWire at hp
  split at hp
  · cases hp
  rename_i hq
  split at hp
  · cases hp
  dsimp only at hp
  split at hp
  · cases hp
  rename_i hb
  split at hp
  · cases hp
  split at hp
  · cases hp
  rename_i hs
  cases hp
  simp only [Bool.or_eq_true, decide_eq_true_eq, not_or, Nat.not_lt, gt_iff_lt] at hq hs
  exact ⟨by simpa using hn, hq.1.2, by simpa using hb, hs, rfl⟩

lemma run_readStoredHeader {size : ℕ} {blob : Bytes} (hs : size ≠ 0)
    (hq : size ≤ kMaximumOutboxBytes) (hb : blob ≠ []) :
    readStoredHeader.run (storedOutbox size blob) = some (UInt32.ofNat size, blob) := by
  have hw : (UInt32.ofNat size).toNat = size := by
    rw [kMaximumOutboxBytes] at hq
    rw [UInt32.toNat_ofNat', Nat.mod_eq_of_lt (by omega)]
  simp only [storedOutbox, flatten_cons, flatten_nil, append_nil, readStoredHeader,
    run_bind_readLe_iff, run_bind_require_iff, run_bind_remaining_iff, Reader.run_pure_iff]
  refine ⟨_, _, rfl, rfl, _, _, rfl, rfl, _, _, rfl, rfl, _, _, rfl, ?_, hw.symm ▸ hq,
    length_pos_iff.mpr hb, rfl, rfl⟩
  intro hz
  have := congrArg UInt32.toNat hz
  rw [hw] at this
  exact hs this

/-- **The file is decrypted to what was encoded.** -/
lemma decryptOutbox_saved (hsecr : secrets.Sound) (h : saveOutbox secrets calls events watermarks = .ok file) :
    decryptOutbox secrets file = .ok (encodeOutbox events watermarks, true) := by
  obtain ⟨hne, hquota, hblob, hstor, rfl⟩ := saveOutbox_eq_ok h
  have hhead := run_readStoredHeader (fun hzero => hne (length_eq_zero_iff.mp hzero)) hquota
    hblob
  have hleng : 12 ≤ (storedOutbox (encodeOutbox events watermarks).length
      (secrets.protect calls.salt (encodeOutbox events watermarks))).length := by
    simp only [storedOutbox, flatten_cons, flatten_nil, append_nil,
      length_append, le_length, size_uint32, size_uint16]
    omega
  have hword : (UInt32.ofNat (encodeOutbox events watermarks).length).toNat =
      (encodeOutbox events watermarks).length := by
    rw [kMaximumOutboxBytes] at hquota
    rw [UInt32.toNat_ofNat', Nat.mod_eq_of_lt (by omega)]
  have hmagic : (readLe : Reader UInt32).run (storedOutbox (encodeOutbox events watermarks).length
      (secrets.protect calls.salt (encodeOutbox events watermarks))) = some (kEncryptedOutboxMagic,
        le (1 : UInt16) ++ (le (0 : UInt16) ++ (le (UInt32.ofNat (encodeOutbox events watermarks).length) ++
            secrets.protect calls.salt (encodeOutbox events watermarks)))) := by
    rw [run_readLe_iff]
    simp [storedOutbox]
  have hunpr : unprotectOutboxWire secrets (storedOutbox (encodeOutbox events watermarks).length
      (secrets.protect calls.salt (encodeOutbox events watermarks))) = .ok (encodeOutbox events watermarks) := by
    simp only [unprotectOutboxWire]
    rw [if_neg (by simp only [Bool.or_eq_true, decide_eq_true_eq]; omega), hhead]
    dsimp only
    rw [hsecr.inverse _ _ hne, if_neg (by simp only [hword, bne_self_eq_false, Bool.false_eq_true,
      not_false_eq_true])]
  simp only [decryptOutbox]
  rw [if_neg (by omega), hmagic]
  dsimp only
  rw [if_pos (by simp), hunpr]
  dsimp only
  rw [if_neg (by simp [hne])]

variable {sha256 : Bytes → Digest}

/-- **The file of a settled outbox opens to that outbox.** -/
lemma load_saved (hs : secrets.Sound) (h : Settled sha256 events watermarks)
    (hsa : saveOutbox secrets calls events watermarks = .ok file) (loadCalls : OutboxCalls) :
    AnswerOutbox.load sha256 secrets loadCalls file = .ok ⟨true, events, watermarks, file⟩ := by
  obtain ⟨hn, -⟩ := saveOutbox_eq_ok hsa
  have hw := saveOutbox_valid hsa
  obtain ⟨hwi, he, hwa, -⟩ := encodeOutbox_of_settled h hw hn
  simp only [AnswerOutbox.load]
  rw [bind_eq_ok_iff]
  refine ⟨_, decryptOutbox_saved hs hsa, ?_⟩
  dsimp only
  rw [bind_eq_ok_iff]
  refine ⟨_, hwi ▸ run_readOutbox h hw he hwa, ?_⟩
  rfl

variable {succeeds : OpenStep → Bool}

lemma open_saved (hs : secrets.Sound) (h : Settled sha256 events watermarks)
    (hsa : saveOutbox secrets calls events watermarks = .ok file)
    (hsu : ∀ step, succeeds step) (openCalls : OutboxCalls) :
    AnswerOutbox.open sha256 secrets succeeds openCalls (some file) = .ok ⟨true, events, watermarks, file⟩ := by
  obtain ⟨-, -, -, hst, -⟩ := saveOutbox_eq_ok hsa
  simp only [AnswerOutbox.open]
  iterate 4 rw [if_neg (by simp [hsu])]
  rw [bind_eq_ok_iff]
  refine ⟨file, rfl, ?_⟩
  rw [if_neg (by simp [hsu]), if_neg (by omega)]
  exact load_saved hs h hsa openCalls

variable {outbox : AnswerOutbox}

lemma open_absent_invariant (hs : secrets.Sound)
    (h : AnswerOutbox.open sha256 secrets succeeds calls none = .ok outbox) :
    OutboxInvariant sha256 secrets outbox := by
  simp only [AnswerOutbox.open] at h
  iterate 4 (split at h; · cases h)
  obtain ⟨stored, hsa, h⟩ := bind_eq_ok_iff.mp h
  split at h
  · cases h
  split at h
  · cases h
  rw [load_saved hs Consistent.empty.settled hsa] at h
  cases h
  exact ⟨rfl, .empty, _, hsa⟩

lemma OutboxRun.invariant {initial : AnswerOutbox} (hr : OutboxRun sha256 secrets initial outbox)
    (h : OutboxInvariant sha256 secrets initial) : OutboxInvariant sha256 secrets outbox := by
  induction hr with
  | start => exact h
  | enqueued calls event _ ih => exact (enqueue_exit calls event).invariant ih
  | acknowledged calls sessionId sequence hash _ ih =>
    exact (acknowledge_exit calls sessionId sequence hash).invariant ih

lemma OutboxInvariant.reopen (hs : secrets.Sound) (h : OutboxInvariant sha256 secrets outbox)
    (hsu : ∀ step, succeeds step) (calls : OutboxCalls) :
    AnswerOutbox.open sha256 secrets succeeds calls (some outbox.file) = .ok outbox := by
  obtain ⟨saveCalls, hsa⟩ := h.stored
  rw [open_saved hs h.consistent.settled hsa hsu calls, ← h.isOpen]

lemma OutboxInvariant.eq_of_open (hs : secrets.Sound) {reopened : AnswerOutbox}
    (h : OutboxInvariant sha256 secrets outbox)
    (ho : AnswerOutbox.open sha256 secrets succeeds calls (some outbox.file) = .ok reopened) :
    reopened = outbox := by
  obtain ⟨saveCalls, hsa⟩ := h.stored
  simp only [AnswerOutbox.open] at ho
  iterate 4 (split at ho; · cases ho)
  obtain ⟨stored, hst, ho⟩ := bind_eq_ok_iff.mp ho
  cases hst
  split at ho
  · cases ho
  split at ho
  · cases ho
  rw [load_saved hs h.consistent.settled hsa, ← h.isOpen] at ho
  cases ho
  rfl

end Wrapper

/-- **The outbox can always be reopened.**  Start from an absent file and call `enqueue` and
`acknowledge` with any arguments, any number of times, with writes that succeed or fail.  The file
is then accepted by `open`, and what it opens to has the same events in the same order, the same
watermarks and the same file as the live outbox. -/
theorem outbox_reopen {sha256 : Bytes → Digest} {secrets : MachineSecrets}
    (hsecrets : secrets.Sound) {succeeds : OpenStep → Bool} {openCalls : OutboxCalls} {initial outbox : AnswerOutbox}
    (hopen : AnswerOutbox.open sha256 secrets succeeds openCalls none = .ok initial)
    (hrun : OutboxRun sha256 secrets initial outbox) {succeedsAgain : OpenStep → Bool}
    (hsucceeds : ∀ step, succeedsAgain step = true) (calls : OutboxCalls) :
    AnswerOutbox.open sha256 secrets succeedsAgain calls (some outbox.file) = .ok outbox :=
  (hrun.invariant (open_absent_invariant hsecrets hopen)).reopen hsecrets hsucceeds calls

/-- Stopping after the first answer and starting again brings it back. -/
theorem outbox_reopen_firstAnswer : AnswerOutbox.open firstSha256 saltedSecrets (fun _ => true) ⟨9, true, true⟩
        (some (newOutbox.enqueue firstSha256 saltedSecrets ⟨8, true, true⟩ firstAnswer).outbox.file) =
      .ok (newOutbox.enqueue firstSha256 saltedSecrets ⟨8, true, true⟩ firstAnswer).outbox := by
  have hopen : AnswerOutbox.open firstSha256 saltedSecrets (fun _ => true)
      ⟨7, true, true⟩ none = .ok newOutbox := rfl
  exact outbox_reopen ⟨fun _ _ _ => rfl⟩ hopen
    (.enqueued ⟨8, true, true⟩ firstAnswer .start) (fun _ => rfl) ⟨9, true, true⟩

end Nstu
