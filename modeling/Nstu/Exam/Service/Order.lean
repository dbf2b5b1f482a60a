import Nstu.Exam.Service.Steps

/-!
# The order of the sends

`pop_outbound_message` is meant never to send an event while an earlier one of its exam context is
pending.  Within one call that rests on three things.

**The copy is in order.**  `pending_for_client` sorts by session and sequence before it cuts the list
off, so a copied event comes behind all pending events of its context with lower sequences.

**The guard covers a context.**  As long as an in-flight record of a context has not expired, every
event of the context is skipped, and no step of the call lifts the guard (`Guarded.offer`).

**An unguarded event is sent, or it waits.**  Behind a released guard the event itself is free
unless its own retry time is still to come (`offer_cases`).

The third point is where the order can break: a refused event loses its in-flight record and gets a
retry time, and the events behind it are then free to be sent.
-/

namespace Nstu

open Wire List Std
open ClientService (releaseExpired sendEvent beginPop pushIngress)

/-- The events belong to one exam: package, digest, client, session and candidate. -/
structure SameExam (left right : AnswerEvent) : Prop extends SameContext left right where
  candidateId : left.candidateId = right.candidateId

namespace SameExam

variable {a b c : AnswerEvent}

lemma refl (a : AnswerEvent) : SameExam a a := ⟨⟨rfl, rfl, rfl, rfl⟩, rfl⟩

lemma symm (h : SameExam a b) : SameExam b a :=
  ⟨⟨h.packageId.symm, h.packageDigest.symm, h.clientId.symm, h.sessionId.symm⟩, h.candidateId.symm⟩

lemma trans (h : SameExam a b) (h' : SameExam b c) : SameExam a c :=
  ⟨⟨h.packageId.trans h'.packageId, h.packageDigest.trans h'.packageDigest,
    h.clientId.trans h'.clientId, h.sessionId.trans h'.sessionId⟩,
    h.candidateId.trans h'.candidateId⟩

lemma sessionKey_eq (h : SameExam a b) : sessionKey a = sessionKey b :=
  sessionKey_eq_iff.mpr h.toSameContext

lemma contextKey_eq (h : SameExam a b) : examContextKey a = examContextKey b := by
  simp only [examContextKey, h.packageId, h.packageDigest, h.clientId, h.sessionId, h.candidateId]

end SameExam

lemma Relinked.sameExam {key : Bytes} {old new : AnswerEvent} (h : Relinked key old new) : SameExam new old := by
  rw [h.body]
  exact ⟨⟨rfl, rfl, rfl, rfl⟩, rfl⟩

/-! ## The copy -/

section Copy

variable {sha256 : Bytes → Digest} {secrets : MachineSecrets} {outbox : AnswerOutbox}

lemma pendingOrder_trans (a b c : AnswerEvent) (ha : pendingOrder a b)
    (hb : pendingOrder b c) : pendingOrder a c := by
  simp only [pendingOrder, bne_iff_ne, ne_eq, ite_not] at *
  split_ifs at ha hb with h1 h2 h2
  · rw [if_pos (h1.trans h2)]
    simp only [decide_eq_true_eq] at *
    exact UInt64.le_trans ha hb
  · rw [if_neg (h1 ▸ h2), h1]
    exact hb
  · rw [if_neg (h2 ▸ h1), ← h2]
    exact ha
  · rw [beq_iff_eq] at ha hb
    have hac := TransCmp.lt_trans ha hb
    have hn : sessionKey a ≠ sessionKey c := by
      intro he
      rw [he, ReflOrd.compare_self] at hac
      cases hac
    rw [if_neg hn, hac]
    rfl

lemma pendingOrder_total (a b : AnswerEvent) : (pendingOrder a b || pendingOrder b a) := by
  simp only [pendingOrder, bne_iff_ne, ne_eq, ite_not, Bool.or_eq_true]
  by_cases h : sessionKey a = sessionKey b
  · rw [if_pos h, if_pos h.symm]
    simp only [decide_eq_true_eq]
    exact UInt64.le_total _ _
  · rw [if_neg h, if_neg (Ne.symm h)]
    simp only [beq_iff_eq]
    cases hc : compare (sessionKey a) (sessionKey b) with
    | lt => exact .inl rfl
    | eq => exact absurd (LawfulEqCmp.eq_of_compare hc) h
    | gt => exact .inr (OrientedCmp.lt_of_gt hc)

lemma Consistent.pairwise {events : List AnswerEvent} {watermarks : Watermarks}
    (h : Consistent sha256 events watermarks) : events.Pairwise fun left right => sessionKey left = sessionKey right →
      left.sequence < right.sequence := by
  rw [pairwise_iff_forall_sublist]
  intro left right hs hk
  cases hw : watermarks[sessionKey right]? with
  | none =>
    have hn := h.absent _ hw
    have hm : right ∈ eventsOf (sessionKey right) events :=
      mem_filter.mpr ⟨hs.subset (by simp), by simp⟩
    rw [hn] at hm
    cases hm
  | some watermark =>
    have hp := (h.present _ _ hw).pairwise
    have hs' := hs.filter fun event => sessionKey event == sessionKey right
    rw [filter_cons_of_pos (by simpa using hk), filter_cons_of_pos (by simp),
      filter_nil] at hs'
    exact (pairwise_cons.mp (hp.sublist hs')).1 right (by simp)

/-- **The copy is in order**, and with an event it has the earlier ones of its exam. -/
lemma pendingForClient_ordered (h : OutboxInvariant sha256 secrets outbox) (clientId : ClientId) (maximum : ℕ) :
    ((outbox.pendingForClient clientId maximum).Pairwise fun left right =>
      sessionKey left = sessionKey right → left.sequence < right.sequence) ∧
    ∀ event ∈ outbox.pendingForClient clientId maximum, event ∈ outbox.events ∧
      ∀ other ∈ outbox.events, SameExam other event → other.sequence < event.sequence →
        other ∈ outbox.pendingForClient clientId maximum := by
  simp only [AnswerOutbox.pendingForClient]
  split
  · exact ⟨List.Pairwise.nil, by simp⟩
  generalize hmine : outbox.events.filter (fun event => event.clientId == clientId) = mine
  have hmem : ∀ {event}, event ∈ mine.mergeSort pendingOrder ↔ event ∈ outbox.events ∧ event.clientId = clientId := by
    intro event
    rw [mem_mergeSort, ← hmine, mem_filter, beq_iff_eq]
  have hsort : (mine.mergeSort pendingOrder).Pairwise fun left right =>
      pendingOrder left right := pairwise_mergeSort pendingOrder_trans pendingOrder_total _
  have hdist : (mine.mergeSort pendingOrder).Pairwise fun left right =>
      sessionKey left = sessionKey right → left.sequence ≠ right.sequence := by
    have hpair : mine.Pairwise fun left right =>
        sessionKey left = sessionKey right → left.sequence ≠ right.sequence := by
      rw [← hmine]
      refine (h.consistent.pairwise.imp fun hlt hkey => ?_).filter _
      exact UInt64.ne_of_lt (hlt hkey)
    refine (mergeSort_perm mine pendingOrder).symm.pairwise hpair ?_
    intro left right hne hkey
    exact (hne hkey.symm).symm
  have horde : (mine.mergeSort pendingOrder).Pairwise fun left right =>
      sessionKey left = sessionKey right → left.sequence < right.sequence := by
    refine (hsort.and hdist).imp ?_
    rintro left right ⟨hle, hne⟩ hkey
    simp only [pendingOrder, hkey, bne_self_eq_false, Bool.false_eq_true, if_false,
      decide_eq_true_eq] at hle
    exact UInt64.lt_of_le_of_ne hle (hne hkey)
  refine ⟨horde.sublist (take_sublist _ _), fun event hevent => ?_⟩
  obtain ⟨hpend, hclie⟩ := hmem.mp (mem_of_mem_take hevent)
  refine ⟨hpend, fun other hother hsame hlower => ?_⟩
  have hother' := hmem.mpr ⟨hother, hsame.clientId.trans hclie⟩
  rw [← take_append_drop maximum (mine.mergeSort pendingOrder), mem_append] at hother'
  refine hother'.resolve_right fun hdrop => ?_
  rw [← take_append_drop maximum (mine.mergeSort pendingOrder), pairwise_append] at horde
  have hlt := horde.2.2 event hevent other hdrop hsame.sessionKey_eq.symm
  exact UInt64.lt_asymm hlt hlower

end Copy

/-! ## The guard of a context -/

section Guard

variable (sha256 : Bytes → Digest) (service : ClientService)

/-- An in-flight record of the context has not expired. -/
def Guarded (now : ℕ) (contextKey : Bytes) : Prop :=
  ∃ key : Bytes, service.inflight[key]? = some contextKey ∧ ¬(service.retryAfter[key]?).any (· ≤ now)

/-- The retry time of an event is still to come. -/
def Waits (now : ℕ) (event : AnswerEvent) : Prop :=
  ∃ retryAt, service.retryAfter[examInflightKey sha256 event]? = some retryAt ∧ now < retryAt

/-- Every in-flight record is one of a valid event. -/
def InflightRecords : Prop :=
  ∀ key contextKey : Bytes, service.inflight[key]? = some contextKey →
    ∃ event, ValidAnswerEvent event ∧ examInflightKey sha256 event = key ∧ examContextKey event = contextKey

end Guard

section Guard

variable {sha256 : Bytes → Digest} {service : ClientService} {now : ℕ}

lemma contextKey_of_inflightKey {a b : AnswerEvent} (ha : ValidAnswerEvent a)
    (hb : ValidAnswerEvent b) (h : examInflightKey sha256 a = examInflightKey sha256 b) :
    examContextKey a = examContextKey b := by
  simp only [examInflightKey, hashAnswerEvent_of_valid ha, hashAnswerEvent_of_valid hb,
    flatten_cons, flatten_nil, append_nil, cons_append, nil_append] at h
  obtain ⟨hs, h⟩ := append_inj h (by simp)
  obtain ⟨-, h⟩ := append_inj h (by simp)
  obtain ⟨-, h⟩ := append_inj h (by simp)
  -- the package identifier has no zero byte, so the first one ends it
  obtain ⟨hp, h⟩ := append_separator_inj (validText_iff.mp ha.packageId).2.2
    (validText_iff.mp hb.packageId).2.2 h
  obtain ⟨hd, h⟩ := append_inj h (by simp)
  obtain ⟨hc, hca⟩ := append_inj h (by simp)
  exact SameExam.contextKey_eq ⟨⟨hp, Block.toList_injective hd,
    Block.toList_injective hc, Block.toList_injective hs⟩, hca⟩

/-- What a scan for expired records leaves of the maps: it takes out keys whose time has come. -/
structure Released (now : ℕ) (before after : ClientService) : Prop where
  outbox : after.outbox = before.outbox
  kept : ∀ key : Bytes, (after.inflight[key]? = before.inflight[key]? ∧
      after.retryAfter[key]? = before.retryAfter[key]?) ∨
    (after.inflight[key]? = none ∧ after.retryAfter[key]? = none ∧ (before.retryAfter[key]?).any (· ≤ now) = true)

namespace Released

variable {before middle after : ClientService}

lemma refl (service : ClientService) : Released now service service :=
  ⟨rfl, fun _ => .inl ⟨rfl, rfl⟩⟩

lemma trans (h : Released now before middle) (h' : Released now middle after) : Released now before after := by
  refine ⟨h'.outbox.trans h.outbox, fun key => ?_⟩
  rcases h'.kept key with ⟨hi, hr⟩ | ⟨hi, hr, hd⟩
  · rw [hi, hr]
    exact h.kept key
  · rcases h.kept key with ⟨-, hr'⟩ | ⟨-, hr', -⟩
    · exact .inr ⟨hi, hr, hr' ▸ hd⟩
    · rw [hr'] at hd
      cases hd

lemma guarded (h : Released now before after) {contextKey : Bytes} :
    Guarded after now contextKey ↔ Guarded before now contextKey := by
  constructor
  · rintro ⟨key, hi, hr⟩
    rcases h.kept key with ⟨hi', hr'⟩ | ⟨hi', -⟩
    · exact ⟨key, hi' ▸ hi, hr' ▸ hr⟩
    · rw [hi'] at hi
      cases hi
  · rintro ⟨key, hi, hr⟩
    rcases h.kept key with ⟨hi', hr'⟩ | ⟨-, -, hd⟩
    · exact ⟨key, hi' ▸ hi, hr' ▸ hr⟩
    · exact absurd hd hr

lemma waits (h : Released now before after) {event : AnswerEvent} :
    Waits sha256 after now event ↔ Waits sha256 before now event := by
  simp only [Waits]
  rcases h.kept (examInflightKey sha256 event) with ⟨-, hr⟩ | ⟨-, hr, hd⟩
  · rw [hr]
  · rw [hr]
    obtain ⟨retryAt, hre, hp⟩ := (Option.any_eq_true _ _).mp hd
    rw [hre]
    simp only [reduceCtorEq, false_and, exists_false, Option.some.injEq, false_iff, not_exists, not_and]
    rintro _ rfl
    simpa using hp

lemma records (h : Released now before after) (hr : InflightRecords sha256 before) :
    InflightRecords sha256 after := by
  intro key contextKey hi
  rcases h.kept key with ⟨hs, -⟩ | ⟨hn, -⟩
  · exact hr key contextKey (hs ▸ hi)
  · rw [hn] at hi
    cases hi

end Released

/-- What the scan for expired records of a context leaves, and what it says. -/
structure ScanResult (now : ℕ) (contextKey : Bytes) (service : ClientService)
    (scanned : ClientService × Bool) : Prop where
  released : Released now service scanned.1
  guarded : scanned.2 = true ↔ Guarded service now contextKey
  free : scanned.2 = false → ∀ key : Bytes, scanned.1.inflight[key]? ≠ some contextKey

/-- Exactly the expired contexts are released. -/
lemma releaseExpired_spec {contextKey : Bytes} {entries : List (Bytes × Bytes)}
    (hall : ∀ key : Bytes, service.inflight[key]? = some contextKey → (key, contextKey) ∈ entries)
    (hentr : ∀ entry ∈ entries, service.inflight[entry.1]? = some entry.2) (hnodup : (entries.map Prod.fst).Nodup) :
    ScanResult now contextKey service (releaseExpired now contextKey service entries) := by
  induction entries generalizing service with
  | nil =>
    refine ⟨.refl service, ⟨by simp [releaseExpired], ?_⟩, ?_⟩
    · rintro ⟨key, hinfl, -⟩
      cases hall key hinfl
    · rintro - key hinfl
      cases hall key hinfl
  | cons entry rest ih =>
    obtain ⟨key, context⟩ := entry
    simp only [map_cons, nodup_cons, mem_map, not_exists, not_and] at hnodup
    obtain ⟨hfresh, hnodup⟩ := hnodup
    simp only [releaseExpired]
    split
    · rename_i hother
      refine ih (fun found hfound => ?_) (fun found hfound => ?_) hnodup
      · rcases mem_cons.mp (hall found hfound) with heq | hmem
        · cases heq
          simp at hother
        · exact hmem
      · exact hentr found (mem_cons_of_mem _ hfound)
    rename_i hcont
    obtain rfl : context = contextKey := by simpa using hcont
    split
    · rename_i hdue
      have hrele : Released now service { service with
            retryAfter := service.retryAfter.erase key
            inflight := service.inflight.erase key } := by
        refine ⟨rfl, fun found => ?_⟩
        simp only [getElem?_erase]
        by_cases hfound : key = found
        · rw [if_pos hfound, if_pos hfound]
          exact .inr ⟨rfl, rfl, hfound ▸ hdue⟩
        · rw [if_neg hfound, if_neg hfound]
          exact .inl ⟨rfl, rfl⟩
      have hscan := @ih { service with
          retryAfter := service.retryAfter.erase key
          inflight := service.inflight.erase key } (fun found hfound => ?_)
        (fun found hfound => ?_) hnodup
      · exact ⟨hrele.trans hscan.released, hscan.guarded.trans hrele.guarded, hscan.free⟩
      · simp only [getElem?_erase] at hfound
        split at hfound
        · cases hfound
        · rename_i hne
          rcases mem_cons.mp (hall found hfound) with heq | hmem
          · cases heq
            exact absurd rfl hne
          · exact hmem
      · have hne : key ≠ found.1 := fun heq => hfresh found hfound heq.symm
        simp only [getElem?_erase, if_neg hne]
        exact hentr found (mem_cons_of_mem _ hfound)
    · rename_i hdue
      refine ⟨.refl service, ⟨fun _ => ?_, fun _ => rfl⟩, by simp⟩
      exact ⟨key, hentr (key, context) (by simp), hdue⟩

lemma releaseExpired_inflight (service : ClientService) (contextKey : Bytes) : ScanResult now contextKey service
      (releaseExpired now contextKey service service.inflight.toList) := by
  refine releaseExpired_spec (fun key hk => ?_) (fun entry he => ?_) ?_
  · exact ExtTreeMap.mem_toList_iff_getElem?_eq_some.mpr hk
  · exact ExtTreeMap.mem_toList_iff_getElem?_eq_some.mp he
  · rw [ExtTreeMap.map_fst_toList_eq_keys]
    exact ExtTreeMap.nodup_keys

/-- What `pop_outbound_message` does with one event. -/
inductive OfferExit (sha256 : Bytes → Digest) (now : ℕ) (service : ClientService)
    (event : AnswerEvent) : ClientService × Option Bytes → Prop where
  | guarded {after : ClientService} : Guarded service now (examContextKey event) →
      Released now service after → OfferExit sha256 now service event (after, none)
  | waiting {after : ClientService} : Waits sha256 service now event →
      Released now service after → OfferExit sha256 now service event (after, none)
  | sent {after : ClientService} : ¬Guarded service now (examContextKey event) →
      ¬Waits sha256 service now event → after.outbox = service.outbox →
      InflightRecords sha256 after →
      OfferExit sha256 now service event (after, some (answerEventWire event))

lemma sendEvent_of_free {event : AnswerEvent} (hv : ValidAnswerEvent event)
    (hr : InflightRecords sha256 service) (hf : service.inflight[examInflightKey sha256 event]? = none) :
    (service.sendEvent sha256 now event).2 = some (answerEventWire event) ∧
      (service.sendEvent sha256 now event).1.outbox = service.outbox ∧
      InflightRecords sha256 (service.sendEvent sha256 now event).1 := by
  have hc : service.inflight.contains (examInflightKey sha256 event) = false := by
    rw [ExtTreeMap.contains_eq_isSome_getElem?, hf]
    rfl
  have hw : (answerEventWire event).isEmpty = false := by
    rw [isEmpty_eq_false_iff]
    exact answerEventWire_ne_nil event
  simp only [sendEvent, hc, encodeAnswerEvent_of_valid hv, hw,
    Bool.false_eq_true, if_false, true_and]
  intro key contextKey hi
  simp only [getElem?_insert] at hi
  split at hi
  · rename_i hk
    exact ⟨event, hv, hk, Option.some.inj hi⟩
  · exact hr key contextKey hi

/-- **An event is sent unless its context is guarded or it waits.** -/
lemma offerEvent_exit {event : AnswerEvent} (hvalid : ValidAnswerEvent event)
    (hreco : InflightRecords sha256 service) :
    OfferExit sha256 now service event (service.offerEvent sha256 now event) := by
  have hscan := @releaseExpired_inflight now service (examContextKey event)
  simp only [ClientService.offerEvent]
  generalize releaseExpired now (examContextKey event) service
    service.inflight.toList = scanned at hscan
  obtain ⟨after, guarded⟩ := scanned
  have hrele : Released now service after := hscan.released
  cases guarded with
  | true => exact .guarded (hscan.guarded.mp rfl) hrele
  | false =>
    have hopen : ¬Guarded service now (examContextKey event) := by
      intro hguar
      cases hscan.guarded.mpr hguar
    have hreco' := hrele.records hreco
    -- a record under the key of the event would be one of its context
    have hfree : after.inflight[examInflightKey sha256 event]? = none := by
      cases hinfl : after.inflight[examInflightKey sha256 event]? with
      | none => rfl
      | some contextKey =>
        obtain ⟨other, hother, hkey, rfl⟩ := hreco' _ _ hinfl
        rw [contextKey_of_inflightKey hother hvalid hkey] at hinfl
        exact absurd hinfl (hscan.free rfl _)
    simp only [Bool.false_eq_true, if_false]
    split
    · rename_i hretry
      have hidle : ¬Waits sha256 service now event := by
        rw [← hrele.waits]
        rintro ⟨retryAt, hretr, -⟩
        rw [hretry] at hretr
        cases hretr
      have hsent := @sendEvent_of_free sha256 after now event hvalid hreco' hfree
      generalize after.sendEvent sha256 now event = sent at hsent
      obtain ⟨marked, payload⟩ := sent
      obtain ⟨rfl, houtb, hmark⟩ := hsent
      exact .sent hopen hidle (houtb.trans hrele.outbox) hmark
    split
    · rename_i retryAt hretry hfutu
      exact .waiting (hrele.waits.mp ⟨retryAt, hretry, hfutu⟩) hrele
    · rename_i retryAt hretry hpast
      have hidle : ¬Waits sha256 service now event := by
        rw [← hrele.waits]
        rintro ⟨found, hfound, hfutu⟩
        rw [hretry] at hfound
        exact hpast (Option.some.inj hfound ▸ hfutu)
      have hsent := @sendEvent_of_free sha256
        { after with retryAfter := after.retryAfter.erase (examInflightKey sha256 event) }
        now event hvalid hreco' hfree
      generalize sendEvent sha256 { after with
        retryAfter := after.retryAfter.erase (examInflightKey sha256 event) } now event = sent
        at hsent
      obtain ⟨marked, payload⟩ := sent
      obtain ⟨rfl, houtb, hmark⟩ := hsent
      exact .sent hopen hidle (houtb.trans hrele.outbox) hmark

end Guard

/-! ## A call of `pop_outbound_message` -/

section Call

variable {sha256 : Bytes → Digest} {secrets : MachineSecrets} {service after : ClientService}
  {call : PopCall}

/-- The outbox grows at the ends of its exams only. -/
structure Grows (before after : List AnswerEvent) : Prop where
  kept : ∀ event ∈ before, ∃ item ∈ after, SameExam item event ∧ item.sequence = event.sequence
  old : ∀ event ∈ before, ∀ item ∈ after, SameExam item event → item.sequence < event.sequence →
    ∃ found ∈ before, SameExam found item ∧ found.sequence = item.sequence

lemma Grows.refl (events : List AnswerEvent) : Grows events events where
  kept event he := ⟨event, he, .refl _, rfl⟩
  old _ _ item hi _ _ := ⟨item, hi, .refl _, rfl⟩

/-- **What `enqueue` adds comes last** in its exam. -/
lemma enqueue_grows {outbox : AnswerOutbox} (h : OutboxInvariant sha256 secrets outbox)
    (calls : OutboxCalls) (event : AnswerEvent) :
    Grows outbox.events (outbox.enqueue sha256 secrets calls event).outbox.events := by
  have hexit : EnqueueExit sha256 secrets outbox event _ := enqueue_exit calls event
  have hafter := (hexit.invariant h).consistent.pairwise
  obtain ⟨kept, added, heven, hadded, hkept⟩ := hexit.events
  rw [heven] at hafter ⊢
  have hold : ∀ found ∈ outbox.events, ∃ item ∈ kept, SameExam item found ∧ item.sequence = found.sequence := by
    intro found hfound
    obtain ⟨i, hi, rfl⟩ := getElem_of_mem hfound
    have hi' : i < kept.length := hkept.length_eq ▸ hi
    have hreli := (forall₂_iff_get.mp hkept).2 i hi hi'
    exact ⟨kept[i], getElem_mem hi', hreli.sameExam, hreli.sequence_eq⟩
  constructor
  · intro found hfound
    obtain ⟨item, hitem, hsame⟩ := hold found hfound
    exact ⟨item, mem_append_left _ hitem, hsame⟩
  · intro found hfound item hitem hsame hlower
    rcases mem_append.mp hitem with hitem | hitem
    · obtain ⟨i, hi', rfl⟩ := getElem_of_mem hitem
      have hi : i < outbox.events.length := hkept.length_eq ▸ hi'
      have hreli := (forall₂_iff_get.mp hkept).2 i hi hi'
      exact ⟨outbox.events[i], getElem_mem hi, hreli.sameExam.symm, hreli.sequence_eq.symm⟩
    · obtain ⟨place, hplace, hplac, hsequ⟩ := hold found hfound
      have hlt := (pairwise_append.mp hafter).2.2 place hplace item hitem
        ((hplac.trans hsame.symm).sessionKey_eq)
      rw [hsequ] at hlt
      exact absurd hlower (UInt64.lt_asymm hlt)

/-- What a running call relies on.  A pending event that comes before a copied one of its exam is in
the copy as well, or it was passed over for a reason that holds for the later one too. -/
structure PopInvariant (sha256 : Bytes → Digest) (service : ClientService) (call : PopCall) :
    Prop where
  valid : ∀ event ∈ call.pending, ValidAnswerEvent event
  ordered : call.pending.Pairwise fun left right =>
    sessionKey left = sessionKey right → left.sequence < right.sequence
  placed : ∀ event ∈ call.pending, ∃ item ∈ service.outbox.events,
    SameExam item event ∧ item.sequence = event.sequence
  earlier : ∀ event ∈ call.pending, ∀ item ∈ service.outbox.events, SameExam item event →
    item.sequence < event.sequence →
    Guarded service call.now (examContextKey event) ∨ Waits sha256 service call.now event ∨
      ∃ found ∈ call.pending, SameExam found event ∧ found.sequence = item.sequence

/-- No event of the copy waits for its retry time while its context is unguarded and a later event of
its exam is free to be sent. -/
def NoneLeftWaiting (sha256 : Bytes → Digest) (service : ClientService) (call : PopCall) : Prop :=
  ∀ event ∈ call.pending, ∀ later ∈ call.pending, SameExam later event →
    event.sequence < later.sequence → Waits sha256 service call.now event →
    Guarded service call.now (examContextKey event) ∨ Waits sha256 service call.now later

lemma beginPop_invariant (h : OutboxInvariant sha256 secrets service.outbox) {now : ℕ}
    (hc : service.beginPop now = some call) : PopInvariant sha256 service call := by
  simp only [beginPop] at hc
  split at hc
  · cases hc
  rename_i clientId _
  split at hc
  · cases hc
  cases hc
  obtain ⟨ho, hm⟩ := pendingForClient_ordered h clientId 8
  constructor
  · intro event he
    exact h.consistent.valid event (hm event he).1
  · exact ho
  · intro event he
    exact ⟨event, (hm event he).1, .refl _, rfl⟩
  · intro event he item hi hs hl
    exact .inr (.inr ⟨item, (hm event he).2 item hi hs hl, hs, rfl⟩)

lemma PopInvariant.grows (h : PopInvariant sha256 service call)
    (hgrows : Grows service.outbox.events after.outbox.events)
    (hinfl : after.inflight = service.inflight)
    (hretry : after.retryAfter = service.retryAfter) : PopInvariant sha256 after call where
  valid := h.valid
  ordered := h.ordered
  placed event hevent := by
    obtain ⟨item, hitem, hsame, hsequ⟩ := h.placed event hevent
    obtain ⟨place, hplace, hplac, hsequ'⟩ := hgrows.kept item hitem
    exact ⟨place, hplace, hplac.trans hsame, hsequ'.trans hsequ⟩
  earlier event hevent item hitem hsame hlower := by
    obtain ⟨place, hplace, hplac, hsequ⟩ := h.placed event hevent
    obtain ⟨found, hfound, hfoun, hfoundS⟩ := hgrows.old place hplace item hitem
      (hsame.trans hplac.symm) (hsequ ▸ hlower)
    rw [← hfoundS] at hlower ⊢
    simp only [Guarded, Waits, hinfl, hretry]
    exact h.earlier event hevent found hfound (hfoun.trans hsame) hlower

variable {event : AnswerEvent} {pending : List AnswerEvent}

/-- **Passing over an event keeps the invariant**, if none is left waiting. -/
lemma PopInvariant.skip (h : PopInvariant sha256 service call) (hpend : call.pending = event :: pending)
    (hwait : NoneLeftWaiting sha256 service call) (hrele : Released call.now service after)
    (hskip : Guarded service call.now (examContextKey event) ∨ Waits sha256 service call.now event) :
    PopInvariant sha256 after { call with pending } := by
  have hmem : ∀ {found}, found ∈ pending → found ∈ call.pending := by
    intro found hfound
    rw [hpend]
    exact mem_cons_of_mem event hfound
  have horde := h.ordered
  rw [hpend, pairwise_cons] at horde
  refine ⟨fun found hfound => h.valid found (hmem hfound), horde.2, ?_, ?_⟩
  · intro found hfound
    rw [hrele.outbox]
    exact h.placed found (hmem hfound)
  · intro found hfound item hitem hsame hlower
    rw [hrele.outbox] at hitem
    rw [hrele.guarded, hrele.waits]
    rcases h.earlier found (hmem hfound) item hitem hsame hlower with hguar | hwaits |
      ⟨place, hplace, hplac, hsequ⟩
    · exact .inl hguar
    · exact .inr (.inl hwaits)
    · rw [hpend] at hplace
      rcases mem_cons.mp hplace with rfl | hplace
      · -- the event before is the one that was passed over
        have hcont := hplac.contextKey_eq
        rcases hskip with hguar | hwaits
        · exact .inl (hcont ▸ hguar)
        · have hrest := hwait place (by simp [hpend]) found (hmem hfound) hplac.symm
            (hsequ ▸ hlower) hwaits
          rw [hcont] at hrest
          exact hrest.imp_right .inl
      · exact .inr (.inr ⟨place, hplace, hplac, hsequ⟩)

lemma PopInvariant.first (h : PopInvariant sha256 service call) (hpend : call.pending = event :: pending)
    (hguar : ¬Guarded service call.now (examContextKey event)) (hwaits : ¬Waits sha256 service call.now event) :
    ∀ item ∈ service.outbox.events, SameExam item event → event.sequence ≤ item.sequence := by
  intro item hitem hsame
  rw [← UInt64.not_lt]
  intro hlower
  have hevent : event ∈ call.pending := by simp [hpend]
  rcases h.earlier event hevent item hitem hsame hlower with hguard | hwait | ⟨found, hfound, hsame', hsequ⟩
  · exact hguar hguard
  · exact hwaits hwait
  · rw [← hsequ] at hlower
    rw [hpend] at hfound
    rcases mem_cons.mp hfound with rfl | hfound
    · exact UInt64.lt_irrefl _ hlower
    · have horde := h.ordered
      rw [hpend, pairwise_cons] at horde
      exact UInt64.lt_asymm hlower (horde.1 found hfound hsame'.sessionKey_eq.symm)

/-- What a step of the call does: the message, if there is one, is the earliest pending event of its
exam. -/
structure PopStep (sha256 : Bytes → Digest) (service : ClientService)
    (popped : ClientService × Option PopCall × Option Bytes) : Prop where
  outbox : popped.1.outbox = service.outbox
  records : InflightRecords sha256 popped.1
  popping : ∀ next ∈ popped.2.1, PopInvariant sha256 popped.1 next
  sent : ∀ payload ∈ popped.2.2, ∃ event, decodeAnswerEvent payload = .ok event ∧
    ∀ item ∈ service.outbox.events, SameExam item event → event.sequence ≤ item.sequence

/-- **The step lemma of the call.** -/
lemma continuePop_order (hreco : InflightRecords sha256 service)
    (h : PopInvariant sha256 service call) (hwait : NoneLeftWaiting sha256 service call) :
    PopStep sha256 service (service.continuePop sha256 call) := by
  simp only [ClientService.continuePop]
  split
  · exact ⟨rfl, hreco, by simp, by simp⟩
  rename_i event pending hpend
  have hvalid := h.valid event (by simp [hpend])
  have hoffer := @offerEvent_exit sha256 service call.now event hvalid hreco
  generalize service.offerEvent sha256 call.now event = offered at hoffer
  cases hoffer with
  | guarded hguar hrele =>
    refine ⟨hrele.outbox, hrele.records hreco, ?_, by simp⟩
    rintro _ ⟨⟩
    exact h.skip hpend hwait hrele (.inl hguar)
  | waiting hwaits hrele =>
    refine ⟨hrele.outbox, hrele.records hreco, ?_, by simp⟩
    rintro _ ⟨⟩
    exact h.skip hpend hwait hrele (.inr hwaits)
  | sent hopen hidle houtb hmark =>
    refine ⟨houtb, hmark, by simp, ?_⟩
    rintro _ ⟨⟩
    exact ⟨event, decodeAnswerEvent_eq_ok_iff.mpr ⟨hvalid, rfl⟩, h.first hpend hopen hidle⟩

end Call

/-! ## The steps of the world -/

section Steps

variable {sha256 : Bytes → Digest} {secrets : MachineSecrets} {service : ClientService}
  {world next : World}

/-- What the service does with an event from the browser: the outbox may grow, and the maps stay. -/
structure TakesEvents (sha256 : Bytes → Digest) (secrets : MachineSecrets)
    (before after : ClientService) : Prop where
  outbox : OutboxInvariant sha256 secrets before.outbox →
    OutboxInvariant sha256 secrets after.outbox ∧ Grows before.outbox.events after.outbox.events
  inflight : after.inflight = before.inflight
  retryAfter : after.retryAfter = before.retryAfter

lemma TakesEvents.refl (service : ClientService) : TakesEvents sha256 secrets service service :=
  ⟨fun h => ⟨h, .refl _⟩, rfl, rfl⟩

lemma enqueueIf_takes (ready : Bool) (calls : OutboxCalls) (event : AnswerEvent)
    (h : OutboxInvariant sha256 secrets service.outbox) :
    OutboxInvariant sha256 secrets (service.enqueueIf sha256 secrets ready calls event).outbox ∧
      Grows service.outbox.events (service.enqueueIf sha256 secrets ready calls event).outbox.events := by
  simp only [ClientService.enqueueIf]
  split
  · exact ⟨(enqueue_exit calls event).invariant h, enqueue_grows h calls event⟩
  · exact ⟨h, .refl _⟩

lemma queueExamEventPayload_takes (calls : OutboxCalls) (payload : Bytes) :
    TakesEvents sha256 secrets service (service.queueExamEventPayload sha256 secrets calls payload).1 := by
  simp only [ClientService.queueExamEventPayload]
  split
  · exact .refl _
  split
  · exact .refl _
  split
  · exact ⟨enqueueIf_takes _ calls _, rfl, rfl⟩
  · exact ⟨enqueueIf_takes _ calls _, rfl, rfl⟩

lemma foldl_pushIngress_takes (retry : List AnswerEvent) :
    TakesEvents sha256 secrets service (retry.foldl pushIngress service) := by
  suffices h : ∀ service : ClientService, (retry.foldl pushIngress service).outbox = service.outbox ∧
        (retry.foldl pushIngress service).inflight = service.inflight ∧
        (retry.foldl pushIngress service).retryAfter = service.retryAfter by
    obtain ⟨ho, hi, hr⟩ := h service
    exact ⟨fun hin => by rw [ho]; exact ⟨hin, .refl _⟩, hi, hr⟩
  induction retry with
  | nil => exact fun service => ⟨rfl, rfl, rfl⟩
  | cons event rest ih => exact fun service => ih (service.pushIngress event)

lemma continueDrain_takes (calls : OutboxCalls) (call : DrainCall) :
    TakesEvents sha256 secrets service (service.continueDrain sha256 secrets calls call).1 := by
  simp only [ClientService.continueDrain]
  split
  · exact foldl_pushIngress_takes _
  split
  · exact .refl _
  · exact ⟨enqueueIf_takes _ calls _, rfl, rfl⟩

lemma getElem?_foldl_erase {keys : List Bytes} {map : OrderedMap Bytes Bytes} {key value : Bytes}
    (h : (keys.foldl (fun map key => map.erase key) map)[key]? = some value) : map[key]? = some value := by
  induction keys generalizing map with
  | nil => exact h
  | cons first rest ih =>
    have he := ih h
    rw [getElem?_erase] at he
    split at he
    · cases he
    · exact he

lemma handleAnswerAck_records (h : InflightRecords sha256 service) (calls : OutboxCalls) (now : ℕ) (payload : Bytes) :
    InflightRecords sha256 (service.handleAnswerAck sha256 secrets calls now payload).1 := by
  have hs : ∀ (outbox : AnswerOutbox) (ack : AnswerAck) (acknowledged : Bool),
      InflightRecords sha256 ({ service with outbox }.settleInflight now ack acknowledged) := by
    intro outbox ack acknowledged
    simp only [ClientService.settleInflight]
    split
    · split
      · exact h
      · exact h
    · intro key contextKey hi
      exact h key contextKey (getElem?_foldl_erase hi)
  simp only [ClientService.handleAnswerAck]
  split
  · exact h
  · split
    · exact hs _ _ _
    · exact hs _ _ _

lemma InflightRecords.empty (h : service.inflight = ∅) : InflightRecords sha256 service := by
  intro key contextKey hi
  rw [h, ExtTreeMap.getElem?_empty] at hi
  cases hi

lemma beginDrain_records (h : InflightRecords sha256 service) : InflightRecords sha256 service.beginDrain.1 := by
  simp only [ClientService.beginDrain]
  split
  · exact h
  · split
    · exact h
    · exact h

lemma configureClientId_records (h : InflightRecords sha256 service) (clientId : Option ClientId) :
    InflightRecords sha256 (service.configureClientId clientId) := by
  simp only [ClientService.configureClientId]
  split
  · exact h
  · exact .empty rfl

lemma handleAnswerAck_invariant (h : OutboxInvariant sha256 secrets service.outbox)
    (calls : OutboxCalls) (now : ℕ) (payload : Bytes) :
    OutboxInvariant sha256 secrets (service.handleAnswerAck sha256 secrets calls now payload).1.outbox := by
  rcases handleAnswerAck_outbox service calls now payload with hs | ⟨ack, -, -, ho⟩
  · exact hs ▸ h
  · rw [ho]
    exact (acknowledge_exit calls ack.sessionId ack.sequence _).invariant h

/-- The invariant behind the order of the sends. -/
structure OrderInvariant (sha256 : Bytes → Digest) (secrets : MachineSecrets) (world : World) :
    Prop where
  outbox : OutboxInvariant sha256 secrets world.service.outbox
  records : InflightRecords sha256 world.service
  popping : ∀ call ∈ world.popping, PopInvariant sha256 world.service call

/-- The calls in which an event may be overtaken are left out. -/
def World.NoneLeftWaiting (sha256 : Bytes → Digest) (world : World) : Prop :=
  ∀ call ∈ world.popping, Nstu.NoneLeftWaiting sha256 world.service call

lemma OrderInvariant.takes (h : OrderInvariant sha256 secrets world)
    (ht : TakesEvents sha256 secrets world.service service) :
    OrderInvariant sha256 secrets (world.withService service) where
  outbox := (ht.outbox h.outbox).1
  records := by
    have hr := h.records
    simp only [InflightRecords, ← ht.inflight] at hr
    exact hr
  popping call hc :=
    (h.popping call hc).grows (ht.outbox h.outbox).2 ht.inflight ht.retryAfter

/-- **Every step keeps the invariant**, from a world in which none is left waiting. -/
lemma WorldStep.orderInvariant (hsecr : secrets.Sound)
    (hstep : WorldStep sha256 secrets world next) (hwait : world.NoneLeftWaiting sha256)
    (h : OrderInvariant sha256 secrets world) : OrderInvariant sha256 secrets next := by
  -- while the control thread is idle there is no call to look after
  have hidleC : world.ControlIdle → ∀ service : ClientService, ∀ call ∈ world.popping,
      PopInvariant sha256 service call := by
    intro hidle service call hcall
    rw [hidle.2] at hcall
    cases hcall
  cases hstep with
  | browser calls payload => exact h.takes (queueExamEventPayload_takes calls payload)
  | drainBegun hidle =>
    refine ⟨?_, beginDrain_records h.records, hidleC hidle _⟩
    exact beginDrain_outbox world.service ▸ h.outbox
  | @drainContinued calls call hcall =>
    exact { h.takes (continueDrain_takes calls call) with }
  | configured clientId hidle =>
    refine ⟨?_, configureClientId_records h.records clientId, hidleC hidle _⟩
    exact configureClientId_outbox world.service clientId ▸ h.outbox
  | popBegun now hidle =>
    exact ⟨h.outbox, h.records, fun call hcall => beginPop_invariant h.outbox hcall⟩
  | @popContinued call hcall =>
    have hpop := continuePop_order h.records (h.popping call hcall) (hwait call hcall)
    exact ⟨hpop.outbox ▸ h.outbox, hpop.records, hpop.popping⟩
  | received sawOpen calls connection hpayl => exact ⟨h.outbox, h.records, h.popping⟩
  | answered calls now hidle hpayl =>
    exact ⟨handleAnswerAck_invariant h.outbox calls now _,
      handleAnswerAck_records h.records calls now _, hidleC hidle _⟩
  | disconnected hidle => exact ⟨h.outbox, .empty rfl, hidleC hidle _⟩
  | clientRestarted succeeds calls hopen =>
    obtain rfl := h.outbox.eq_of_open hsecr hopen
    exact ⟨h.outbox, .empty rfl, by simp⟩
  | serverRestarted succeeds hopen => exact ⟨h.outbox, h.records, h.popping⟩

end Steps

/-! ## The result -/

section Result

variable (sha256 : Bytes → Digest) (secrets : MachineSecrets)

/-- The worlds of `WorldReach` whose runs only step on from worlds with a property. -/
inductive WorldReachWhile (P : World → Prop) : World → Prop where
  | start {clientSteps serverSteps : OpenStep → Bool} {calls : OutboxCalls}
      {outbox : AnswerOutbox} {journal : AnswerJournal} :
      AnswerOutbox.open sha256 secrets clientSteps calls none = .ok outbox →
      AnswerJournal.open sha256 serverSteps none = .ok journal →
      WorldReachWhile P ⟨.started outbox, none, none, journal, [], [], outbox.events, []⟩
  | step {world next : World} : WorldReachWhile P world → P world →
      WorldStep sha256 secrets world next → WorldReachWhile P next

/-- The message `pop_outbound_message` returns next, if any, is an event that comes before all other
pending events of its exam. -/
def SendsInOrder (world : World) : Prop :=
  ∀ call ∈ world.popping, ∀ payload ∈ (world.service.continuePop sha256 call).2.2,
    ∃ event, decodeAnswerEvent payload = .ok event ∧
      ∀ item ∈ world.service.outbox.events, SameExam item event → event.sequence ≤ item.sequence

variable {sha256 secrets}

lemma WorldReachWhile.invariant (hs : secrets.Sound) {world : World}
    (hr : WorldReachWhile sha256 secrets (World.NoneLeftWaiting sha256) world) :
    OrderInvariant sha256 secrets world := by
  induction hr with
  | start hc hse =>
    exact ⟨open_absent_invariant hs hc, .empty rfl, by simp⟩
  | step _ hw hst ih => exact hst.orderInvariant hs hw ih

/-- **No event overtakes an earlier one of its exam**, in any run in which no call of
`pop_outbound_message` meets an event that waits for its retry time behind a lifted guard, with a
later event of its exam free to be sent. -/
theorem sends_in_order (hsecrets : secrets.Sound) {world : World}
    (hreach : WorldReachWhile sha256 secrets (World.NoneLeftWaiting sha256) world)
    (hwaiting : world.NoneLeftWaiting sha256) : SendsInOrder sha256 world := by
  have h := hreach.invariant hsecrets
  intro call hcall
  exact (continuePop_order h.records (h.popping call hcall) (hwaiting call hcall)).sent

end Result

/-! ## Two events of one exam -/

/-- The answer that follows `firstAnswer`. -/
def secondAnswer : AnswerEvent :=
  { firstAnswer with
    sequence := 2
    clientTimeUnixMilliseconds := 2
    answer := [66]
    previousEventHash := firstAnswerHash }

/-- SHA-256 of the encoding of `secondAnswer`, as a little-endian number. -/
def secondAnswerHash : Digest :=
  ⟨leBytes 32 0xf93c24035025fdfff866f224626a518d0c36099aaf7e839a4ef99e189aa5354c, leBytes_length _ _⟩

/-- SHA-256 of the state of a session without events, as a little-endian number. -/
def emptyStateHash : Digest :=
  ⟨leBytes 32 0x7d5c60855cbc1ca3d056f39a977cca2dbf375bcfa7e6cee089d6662ffd77703e, leBytes_length _ _⟩

/-- What SHA-256 computes as long as no answer but these two is sent and none is stored. -/
def secondSha256 (bytes : Bytes) : Digest :=
  if bytes = encodeAnswerEvent secondAnswer then secondAnswerHash
  else if bytes = List.replicate 9 0 then emptyStateHash
  else firstSha256 bytes

/-- The world after a step of a running `pop_outbound_message`. -/
def World.afterPop (sha256 : Bytes → Digest) (world : World) (call : PopCall) : World :=
  { world.withService (world.service.continuePop sha256 call).1 with
    popping := (world.service.continuePop sha256 call).2.1
    sentEvents := world.sentEvents ++ (world.service.continuePop sha256 call).2.2.toList }

/-- Both answers have been enqueued. -/
def pairQueued : World :=
  let started : World := ⟨.started newOutbox, none, none, newJournal, [], [], newOutbox.events, []⟩
  let configured := started.withService
    (started.service.configureClientId (some firstAnswer.clientId))
  let queued := configured.withService (configured.service.queueExamEventPayload secondSha256
    saltedSecrets ⟨8, true, true⟩ (encodeAnswerEvent firstAnswer)).1
  queued.withService (queued.service.queueExamEventPayload secondSha256
    saltedSecrets ⟨9, true, true⟩ (encodeAnswerEvent secondAnswer)).1

/-- `pop_outbound_message` has copied them. -/
def pairPopped : World := { pairQueued with popping := pairQueued.service.beginPop 0 }

/-- The first one has been sent. -/
def pairSent : World := pairPopped.afterPop secondSha256 ⟨0, [firstAnswer, secondAnswer]⟩

/-- The server could not write it and has answered that its journal is unavailable. -/
def pairRefused : World :=
  let answer := processExamAnswerEvent secondSha256 true ⟨1, true, some 0⟩
    ⟨firstAnswer.clientId, some ⟨firstAnswer.clientId, firstAnswer.packageId,
      firstAnswer.packageDigest, firstAnswer.sessionId, firstAnswer.candidateId⟩⟩
    pairSent.journal (encodeAnswerEvent firstAnswer)
  { pairSent with journal := answer.1, sentAcks := pairSent.sentAcks ++ answer.2.toList }

/-- The answer has put the first event on hold. -/
def pairHeld : World :=
  pairRefused.withService (pairRefused.service.handleAnswerAck secondSha256 saltedSecrets
    ⟨10, true, true⟩ 1 (pairRefused.sentAcks.headD [])).1

/-- The next `pop_outbound_message` has begun. -/
def pairPoppedAgain : World := { pairHeld with popping := pairHeld.service.beginPop 2 }

/-- It has passed over the first event and comes to the second. -/
def pairPassed : World := pairPoppedAgain.afterPop secondSha256 ⟨2, [firstAnswer, secondAnswer]⟩

lemma beginPop_pair {service : ClientService} (now : ℕ)
    (hc : service.clientId = some firstAnswer.clientId) (hr : service.outboxReady)
    (ho : service.outbox.isOpen) (he : service.outbox.events = [firstAnswer, secondAnswer]) :
    service.beginPop now = some ⟨now, [firstAnswer, secondAnswer]⟩ := by
  have hs : [firstAnswer, secondAnswer].mergeSort pendingOrder = [firstAnswer, secondAnswer] :=
    mergeSort_of_pairwise (by decide)
  have hm : service.outbox.events.filter (fun event => event.clientId == firstAnswer.clientId) =
      [firstAnswer, secondAnswer] := by
    rw [he]
    rfl
  have hz : allZero firstAnswer.clientId.toList = false := by decide
  simp [beginPop, AnswerOutbox.pendingForClient, hc, hr, ho, hm, hs, hz]

/-- The first of two events is sent while both are pending. -/
theorem sends_in_order_pair : SendsInOrder secondSha256 pairPopped ∧
      (pairPopped.service.continuePop secondSha256 ⟨0, [firstAnswer, secondAnswer]⟩).2.2 =
        some (encodeAnswerEvent firstAnswer) := by
  have hopen : AnswerOutbox.open secondSha256 saltedSecrets (fun _ => true) ⟨7, true, true⟩ none =
      .ok newOutbox := rfl
  have hidle : ∀ {world : World}, world.popping = none → world.NoneLeftWaiting secondSha256 := by
    intro world hnone call hcall
    rw [hnone] at hcall
    cases hcall
  have hreach : WorldReachWhile secondSha256 saltedSecrets (World.NoneLeftWaiting secondSha256)
      pairPopped :=
    .step (.step (.step (.step (.start hopen (open_absent fun _ => rfl)) (hidle rfl)
      (.configured _ ⟨rfl, rfl⟩)) (hidle rfl) (.browser _ _)) (hidle rfl) (.browser _ _))
      (hidle rfl) (.popBegun 0 ⟨rfl, rfl⟩)
  have hretry : pairPopped.service.retryAfter = ∅ := by decide +kernel
  refine ⟨sends_in_order ⟨fun _ _ _ => rfl⟩ hreach ?_, by decide +kernel⟩
  rintro call - event - later - - - ⟨retryAt, hretryAt, -⟩
  rw [hretry, Std.ExtTreeMap.getElem?_empty] at hretryAt
  cases hretryAt

/-- **An event that waits is overtaken.** -/
theorem sends_out_of_order :
    WorldReach secondSha256 saltedSecrets pairPassed ∧ ¬SendsInOrder secondSha256 pairPassed := by
  have hopen : AnswerOutbox.open secondSha256 saltedSecrets (fun _ => true) ⟨7, true, true⟩ none =
      .ok newOutbox := rfl
  have hqueued : WorldReach secondSha256 saltedSecrets pairQueued :=
    .step (.step (.step (.start hopen (open_absent fun _ => rfl)) (.configured _ ⟨rfl, rfl⟩))
      (.browser _ _)) (.browser _ _)
  have hpopped : WorldReach secondSha256 saltedSecrets pairPopped :=
    .step hqueued (.popBegun 0 ⟨rfl, rfl⟩)
  have hpop : pairPopped.popping = some ⟨0, [firstAnswer, secondAnswer]⟩ := by
    simp only [pairPopped]
    exact beginPop_pair 0 (by decide +kernel) (by decide +kernel) (by decide +kernel)
      (by decide +kernel)
  have hsent : WorldReach secondSha256 saltedSecrets pairSent := .step hpopped (.popContinued hpop)
  have hrefused : WorldReach secondSha256 saltedSecrets pairRefused :=
    .step hsent (.received true ⟨1, true, some 0⟩ _ (by decide +kernel))
  have hheld : WorldReach secondSha256 saltedSecrets pairHeld :=
    .step hrefused (.answered ⟨10, true, true⟩ 1 ⟨rfl, by decide +kernel⟩ (by decide +kernel))
  have hagain : WorldReach secondSha256 saltedSecrets pairPoppedAgain :=
    .step hheld (.popBegun 2 ⟨rfl, by decide +kernel⟩)
  have hpop' : pairPoppedAgain.popping = some ⟨2, [firstAnswer, secondAnswer]⟩ := by
    simp only [pairPoppedAgain]
    exact beginPop_pair 2 (by decide +kernel) (by decide +kernel) (by decide +kernel)
      (by decide +kernel)
  refine ⟨.step hagain (.popContinued hpop'), fun horder => ?_⟩
  have hpop'' : pairPassed.popping = some ⟨2, [secondAnswer]⟩ := by decide +kernel
  have hpayload : (pairPassed.service.continuePop secondSha256 ⟨2, [secondAnswer]⟩).2.2 =
      some (encodeAnswerEvent secondAnswer) := by decide +kernel
  have hpending : firstAnswer ∈ pairPassed.service.outbox.events := by decide +kernel
  obtain ⟨event, hevent, hfirst⟩ := horder _ hpop'' _ hpayload
  have hdecode : decodeAnswerEvent (encodeAnswerEvent secondAnswer) = .ok secondAnswer := by
    decide +kernel
  obtain rfl : event = secondAnswer := Except.ok.inj (hevent.symm.trans hdecode)
  have hle := hfirst firstAnswer hpending ⟨⟨rfl, rfl, rfl, rfl⟩, rfl⟩
  revert hle
  decide

end Nstu
