import Nstu.Exam.Outbox.Rebase

/-!
# Nothing is lost or altered in the outbox

`outbox_frame` says what the operations leave alone, in every outbox that any file and any run lead
to: an event leaves only through an acknowledgement that names the hash of a pending event of the
same context, `enqueue` changes nothing but predecessors of its own context, and a call that returns
`false` changes nothing.

An acknowledgement carries a session identifier and no context.  What ties the identifier to the
context it selects is `KeyedByContext`: every watermark is stored under the key of its own fields.
-/

namespace Nstu

open Wire Wire.Reader Wire.Parser

/-! ## Runs -/

/-- The outboxes that calls of `enqueue` and `acknowledge` lead to, with any arguments, any results
of the system calls and in any order. -/
inductive OutboxRun (sha256 : Bytes → Digest) (secrets : MachineSecrets) (initial : AnswerOutbox) :
    AnswerOutbox → Prop where
  | start : OutboxRun sha256 secrets initial initial
  | enqueued {outbox : AnswerOutbox} (calls : OutboxCalls) (event : AnswerEvent) :
      OutboxRun sha256 secrets initial outbox →
      OutboxRun sha256 secrets initial (outbox.enqueue sha256 secrets calls event).outbox
  | acknowledged {outbox : AnswerOutbox} (calls : OutboxCalls) (sessionId : SessionId)
      (sequence : UInt64) (hash : Bytes) : OutboxRun sha256 secrets initial outbox →
      OutboxRun sha256 secrets initial (outbox.acknowledge sha256 secrets calls sessionId sequence hash).outbox

/-! ## Watermarks under their own keys -/

/-- Every watermark is stored under the key of its own fields. -/
def KeyedByContext (watermarks : Watermarks) : Prop :=
  ∀ (key : Bytes) (watermark : OutboxWatermark), watermarks[key]? = some watermark → watermark.key = key

section Keys

variable {watermarks : Watermarks}

lemma KeyedByContext.empty : KeyedByContext ∅ := by
  intro key watermark h
  simp at h

variable {watermark : OutboxWatermark}

lemma KeyedByContext.insert (h : KeyedByContext watermarks) {key : Bytes} (hk : watermark.key = key) :
    KeyedByContext (watermarks.insert key watermark) := by
  intro other found hf
  rw [getElem?_insert] at hf
  split_ifs at hf with ho
  · cases hf
    exact hk.trans ho
  · exact h other found hf

variable {sha256 : Bytes → Digest} {version : UInt16}

variable {count : ℕ} {s r : Bytes}

lemma readWatermarks_keyed {result : Watermarks}
    (hr : (readWatermarks version count watermarks).run s = .ok (result, r))
    (h : KeyedByContext watermarks) : KeyedByContext result := by
  induction count generalizing watermarks s with
  | zero =>
    obtain ⟨rfl, -⟩ := Parser.run_pure_iff.mp hr
    exact h
  | succ count ih =>
    obtain ⟨watermark, _, -, hr⟩ := Parser.run_bind_iff.mp hr
    obtain ⟨_, _, -, hr⟩ := Parser.run_bind_iff.mp hr
    exact ih hr (h.insert rfl)

lemma OutboxWatermark.key_loaded (watermark : OutboxWatermark) (event : AnswerEvent)
    (hash : Digest) : (watermark.loaded version event hash).key = watermark.key := by
  unfold OutboxWatermark.loaded
  dsimp only
  split <;> split <;> rfl

variable {contents : OutboxContents} {event : AnswerEvent}

lemma loadEvent_keyed {result : OutboxContents} (hl : loadEvent sha256 version contents event = .ok result)
    (h : KeyedByContext contents.watermarks) : KeyedByContext result.watermarks := by
  unfold loadEvent at hl
  split at hl
  · cases hl
  split at hl
  · cases hl
  split at hl
  · cases hl
    exact h.insert rfl
  · rename_i watermark hw
    split at hl
    · cases hl
    · cases hl
      exact h.insert ((watermark.key_loaded event _).trans (h _ _ hw))

lemma readEvents_keyed {result : OutboxContents}
    (hr : (readEvents sha256 version count contents).run s = .ok (result, r))
    (h : KeyedByContext contents.watermarks) : KeyedByContext result.watermarks := by
  induction count generalizing contents s with
  | zero =>
    obtain ⟨rfl, -⟩ := Parser.run_pure_iff.mp hr
    exact h
  | succ count ih =>
    obtain ⟨record, rest, -, hr⟩ := Parser.run_bind_iff.mp hr
    cases he : decodeAnswerEvent record with
    | error error =>
      simp only [he] at hr
      cases (Parser.run_noInput_iff.mp hr).1
    | ok event =>
      simp only [he] at hr
      obtain ⟨loaded, _, hl, hr⟩ := Parser.run_bind_iff.mp hr
      exact ih hr (loadEvent_keyed (Parser.run_noInput_iff.mp hl).1 h)

lemma foldlM_preserves {α β ε : Type} {f : β → α → Except ε β} (P : β → Prop) {items : List α}
    (hs : ∀ item ∈ items, ∀ b b', P b → f b item = .ok b' → P b') {b b' : β} (hb : P b)
    (h : items.foldlM f b = .ok b') : P b' := by
  induction items generalizing b with
  | nil =>
    cases h
    exact hb
  | cons item rest ih =>
    rw [List.foldlM_cons] at h
    cases hi : f b item with
    | error error => rw [hi] at h; cases h
    | ok next =>
      rw [hi] at h
      exact ih (fun x hx => hs x (by simp [hx])) (hs item (by simp) b next hb hi) h

variable {saved settled : OutboxWatermark}

lemma settleFinalization_key {finalized : Bool}
    (h : settleFinalization version saved finalized = .ok settled) : settled.key = saved.key := by
  simp only [settleFinalization] at h
  split_ifs at h <;> cases h <;> rfl

lemma inferBoundary_key (saved : OutboxWatermark) (first : AnswerEvent) :
    (inferBoundary version saved first).key = saved.key := by
  simp only [inferBoundary]
  split_ifs <;> rfl

lemma checkPending_key {first : AnswerEvent} {rest : List AnswerEvent}
    (h : checkPending sha256 version saved first rest = .ok settled) : settled.key = saved.key := by
  simp only [checkPending] at h
  obtain ⟨finalized, -, h⟩ := bind_eq_ok_iff.mp h
  obtain ⟨marked, hm, h⟩ := bind_eq_ok_iff.mp h
  obtain ⟨_, -, h⟩ := bind_eq_ok_iff.mp h
  obtain ⟨last, -, h⟩ := bind_eq_ok_iff.mp h
  obtain ⟨_, -, h⟩ := bind_eq_ok_iff.mp h
  cases h
  rw [inferBoundary_key, settleFinalization_key hm]

lemma checkSession_keyed {session : Bytes × List AnswerEvent} {result : Watermarks}
    (hc : checkSession sha256 version watermarks session = .ok result)
    (h : KeyedByContext watermarks) : KeyedByContext result := by
  simp only [checkSession] at hc
  split at hc
  · cases hc
  rename_i saved hs
  split at hc
  · cases hc
    exact h
  · rename_i first rest _
    obtain ⟨settled, hse, hc⟩ := bind_eq_ok_iff.mp hc
    cases hc
    exact h.insert ((checkPending_key hse).trans (h _ _ hs))

lemma checkAcknowledged_keyed {pending : OrderedMap Bytes (List AnswerEvent)}
    {entry : Bytes × OutboxWatermark} {result : Watermarks} (he : entry.2.key = entry.1)
    (hc : checkAcknowledged version pending watermarks entry = .ok result)
    (h : KeyedByContext watermarks) : KeyedByContext result := by
  simp only [checkAcknowledged] at hc
  split at hc
  · cases hc
    exact h
  · obtain ⟨settled, hs, hc⟩ := bind_eq_ok_iff.mp hc
    cases hc
    simp only [settleAcknowledged] at hs
    split_ifs at hs <;> cases hs <;> exact h.insert he

lemma checkSessions_keyed {result : OutboxContents} (hc : checkSessions sha256 version contents = .ok result)
    (h : KeyedByContext contents.watermarks) : KeyedByContext result.watermarks := by
  simp only [checkSessions] at hc
  obtain ⟨checked, hp, hc⟩ := bind_eq_ok_iff.mp hc
  obtain ⟨settled, ha, hc⟩ := bind_eq_ok_iff.mp hc
  cases hc
  have hch : KeyedByContext checked :=
    foldlM_preserves KeyedByContext (fun _ _ _ _ hb hf => checkSession_keyed hf hb) h hp
  refine foldlM_preserves KeyedByContext (fun entry he b b' hb hf => ?_) hch ha
  exact checkAcknowledged_keyed (hch _ _ (Std.ExtTreeMap.mem_toList_iff_getElem?_eq_some.mp he)) hf hb

lemma readOutbox_keyed (h : (readOutbox sha256).run s = .ok ((version, contents), r)) :
    KeyedByContext contents.watermarks := by
  obtain ⟨⟨foundVersion, count⟩, _, -, h⟩ := Parser.run_bind_iff.mp h
  obtain ⟨watermarkCount, _, -, h⟩ := Parser.run_bind_iff.mp h
  obtain ⟨watermarks, _, hw, h⟩ := Parser.run_bind_iff.mp h
  obtain ⟨read, _, he, h⟩ := Parser.run_bind_iff.mp h
  obtain ⟨checked, _, hc, h⟩ := Parser.run_bind_iff.mp h
  obtain ⟨left, _, -, h⟩ := Parser.run_bind_iff.mp h
  obtain ⟨_, _, -, h⟩ := Parser.run_bind_iff.mp h
  obtain ⟨hr, -⟩ := Parser.run_pure_iff.mp h
  cases hr
  exact checkSessions_keyed (Parser.run_noInput_iff.mp hc).1
    (readEvents_keyed he (readWatermarks_keyed hw .empty))

variable {secrets : MachineSecrets} {outbox : AnswerOutbox}

variable {calls : OutboxCalls}

lemma load_keyed {stored : Bytes} (h : AnswerOutbox.load sha256 secrets calls stored = .ok outbox) :
    KeyedByContext outbox.watermarks := by
  simp only [AnswerOutbox.load] at h
  obtain ⟨⟨bytes, encrypted⟩, -, h⟩ := bind_eq_ok_iff.mp h
  obtain ⟨⟨⟨foundVersion, contents⟩, rest⟩, hr, h⟩ := bind_eq_ok_iff.mp h
  obtain ⟨file, -, h⟩ := bind_eq_ok_iff.mp h
  cases h
  exact readOutbox_keyed hr

lemma open_keyed {succeeds : OpenStep → Bool} {file : Option Bytes}
    (h : AnswerOutbox.open sha256 secrets succeeds calls file = .ok outbox) : KeyedByContext outbox.watermarks := by
  simp only [AnswerOutbox.open] at h
  iterate 4 (split at h; · cases h)
  obtain ⟨stored, -, h⟩ := bind_eq_ok_iff.mp h
  split at h
  · cases h
  split at h
  · cases h
  exact load_keyed h

lemma rebaseEvents_key {events events' : List AnswerEvent} {rebased : OutboxWatermark} {index : ℕ}
    (h : rebaseEvents sha256 events watermark event index = .ok (events', rebased)) : rebased.key = watermark.key := by
  obtain ⟨offset, boundary, lastHash, -, hb, -, rfl⟩ := rebaseEvents_eq_ok h
  cases offset with
  | zero => rw [(rebaseBoundary_zero hb).2]; rfl
  | succ before => rw [(rebaseBoundary_succ hb).2]; rfl

/-- Every way to enqueue keeps watermarks under their contexts. -/
lemma EnqueueExit.keyed {result : OutboxResult} (he : EnqueueExit sha256 secrets outbox event result)
    (h : KeyedByContext outbox.watermarks) : KeyedByContext result.outbox.watermarks := by
  cases he with
  | refused | kept => exact h
  | rebased _ hr hre _ =>
    exact h.insert ((rebaseEvents_key hre).trans (h _ _ hr.saved))
  | appended _ hn _ =>
    cases hn with
    | first => exact h.insert rfl
    | next hs =>
      have hk := h _ _ hs
      exact h.insert hk

lemma AcknowledgeExit.keyed {sessionId : SessionId} {sequence : UInt64} {hash : Bytes} {result : OutboxResult}
    (he : AcknowledgeExit sha256 secrets outbox sessionId sequence hash result)
    (h : KeyedByContext outbox.watermarks) : KeyedByContext result.outbox.watermarks := by
  cases he with
  | refused | kept => exact h
  | advanced _ hs | retired _ _ _ _ _ hs =>
    have hk := h _ _ hs
    exact h.insert hk

lemma OutboxRun.keyed {initial : AnswerOutbox} (hr : OutboxRun sha256 secrets initial outbox)
    (h : KeyedByContext initial.watermarks) : KeyedByContext outbox.watermarks := by
  induction hr with
  | start => exact h
  | enqueued calls event _ ih => exact (enqueue_exit calls event).keyed ih
  | acknowledged calls sessionId sequence hash _ ih =>
    exact (acknowledge_exit calls sessionId sequence hash).keyed ih

end Keys

/-! ## Which context an acknowledgement selects -/

section Select

variable {sha256 : Bytes → Digest} {outbox : AnswerOutbox} {sessionId : SessionId}
  {sequence : UInt64} {hash key : Bytes}

/-- A pending event or a watermark under `key` has the session identifier. -/
def UsesSession (outbox : AnswerOutbox) (sessionId : SessionId) (key : Bytes) : Prop :=
  (∃ event ∈ outbox.events, event.sessionId = sessionId ∧ sessionKey event = key) ∨
    ∃ watermark, outbox.watermarks[key]? = some watermark ∧ watermark.sessionId = sessionId

lemma usesSession_of_mem_matchingKeys (h : key ∈ outbox.matchingKeys sessionId) : UsesSession outbox sessionId key := by
  simp only [AnswerOutbox.matchingKeys, List.mem_dedup, List.mem_append, List.mem_map,
    List.mem_filter, beq_iff_eq] at h
  rcases h with ⟨event, ⟨he, hs⟩, hk⟩ | ⟨⟨_, watermark⟩, ⟨hen, hs⟩, rfl⟩
  · exact .inl ⟨event, he, hs, hk⟩
  · exact .inr ⟨watermark, Std.ExtTreeMap.mem_toList_iff_getElem?_eq_some.mp hen, hs⟩

lemma usesSession_of_mem_exactKeys (h : key ∈ outbox.exactKeys sha256 sessionId sequence hash) :
    UsesSession outbox sessionId key := by
  simp only [AnswerOutbox.exactKeys, List.mem_dedup, List.mem_append, List.mem_map,
    List.mem_filter, Bool.and_eq_true, beq_iff_eq] at h
  rcases h with ⟨event, ⟨he, ⟨hs, -⟩, -⟩, hk⟩ | ⟨⟨_, watermark⟩, ⟨hen, hs, -⟩, rfl⟩
  · exact .inl ⟨event, he, hs, hk⟩
  · exact .inr ⟨watermark, Std.ExtTreeMap.mem_toList_iff_getElem?_eq_some.mp hen, hs⟩

lemma usesSession_of_selectKey (h : outbox.selectKey sha256 sessionId sequence hash = .ok key) :
    UsesSession outbox sessionId key := by
  simp only [AnswerOutbox.selectKey] at h
  split at h
  · cases h
  · cases h
  · rename_i he _
    cases h
    exact usesSession_of_mem_exactKeys (he ▸ List.mem_singleton_self _)
  · rename_i hm _
    cases h
    exact usesSession_of_mem_matchingKeys (hm ▸ List.mem_singleton_self _)
  · cases h

/-- **The context an acknowledgement selects has its session identifier.** -/
lemma sessionId_of_selectKey {target : AnswerEvent} (hk : KeyedByContext outbox.watermarks)
    (h : outbox.selectKey sha256 sessionId sequence hash = .ok (sessionKey target)) : target.sessionId = sessionId := by
  rcases usesSession_of_selectKey h with ⟨event, -, rfl, hke⟩ | ⟨watermark, hw, rfl⟩
  · exact (sessionKeyOf_inj.mp hke).2.2.2.symm
  · exact (sessionKeyOf_inj.mp (hk _ _ hw)).2.2.2.symm

end Select

/-! ## The frame -/

/-- The same package, digest, client and session identifier. -/
structure SameContext (left right : AnswerEvent) : Prop where
  packageId : left.packageId = right.packageId
  packageDigest : left.packageDigest = right.packageDigest
  clientId : left.clientId = right.clientId
  sessionId : left.sessionId = right.sessionId

lemma sessionKey_eq_iff {left right : AnswerEvent} : sessionKey left = sessionKey right ↔ SameContext left right :=
  sessionKeyOf_inj.trans ⟨fun ⟨h1, h2, h3, h4⟩ => ⟨h1, h2, h3, h4⟩,
    fun h => ⟨h.packageId, h.packageDigest, h.clientId, h.sessionId⟩⟩

section Frame

variable {sha256 : Bytes → Digest} {secrets : MachineSecrets} {outbox : AnswerOutbox}
  {result : OutboxResult}

variable {event : AnswerEvent}

/-- A refused event changes nothing. -/
lemma EnqueueExit.unchanged (he : EnqueueExit sha256 secrets outbox event result) (ho : result.ok = false) :
    result.outbox = outbox := by
  cases he with
  | refused | kept => rfl
  | rebased | appended => cases ho

/-- A refused acknowledgement changes nothing. -/
lemma AcknowledgeExit.unchanged {sessionId : SessionId} {sequence : UInt64} {hash : Bytes}
    (he : AcknowledgeExit sha256 secrets outbox sessionId sequence hash result)
    (ho : result.ok = false) : result.outbox = outbox := by
  cases he with
  | refused | kept => rfl
  | advanced | retired => cases ho

/-- The events stay, relinked at most, and the new one may join. -/
lemma EnqueueExit.events (he : EnqueueExit sha256 secrets outbox event result) :
    ∃ kept added, result.outbox.events = kept ++ added ∧ (added = [] ∨ added = [event]) ∧
      List.Forall₂ (Relinked (sessionKey event)) outbox.events kept := by
  cases he with
  | refused | kept => exact ⟨outbox.events, [], by simp [AnswerOutbox.refuse, AnswerOutbox.keep],
      .inl rfl, relinkedAll_refl _ _⟩
  | @rebased existing index watermark rebased events calls file _ hr hre _ =>
    exact ⟨events, [], by simp, .inl rfl, rebaseEvents_relinked hre hr.pending
      (sameEventBodyExceptPredecessor_iff.mp hr.body)⟩
  | appended => exact ⟨outbox.events, [event], rfl, .inr rfl, relinkedAll_refl _ _⟩

/-- At most the acknowledged event goes. -/
lemma AcknowledgeExit.events {sessionId : SessionId} {sequence : UInt64} {hash : Bytes}
    (he : AcknowledgeExit sha256 secrets outbox sessionId sequence hash result) :
    result.outbox.events = outbox.events ∨ ∃ target ∈ outbox.events, result.ok ∧
        outbox.selectKey sha256 sessionId sequence hash = .ok (sessionKey target) ∧
        target.sequence = sequence ∧ ValidAnswerEvent target ∧ (eventHash sha256 target).toList = hash ∧
        result.outbox.events = outbox.events.filter fun event =>
          !(sessionKey event == sessionKey target && event.sequence ≤ sequence) := by
  cases he with
  | refused | kept | advanced => exact .inl rfl
  | @retired target _ _ _ hk hm hs hv hh =>
    exact .inr ⟨target, hm, rfl, hk, hs, hv, hh, rfl⟩

end Frame

/-- What the operations leave alone. -/
structure OutboxFrame (sha256 : Bytes → Digest) (secrets : MachineSecrets)
    (outbox : AnswerOutbox) : Prop where
  /-- An event leaves the pending list only through a successful acknowledgement, and then a pending
  event of the same context has the acknowledged session, sequence and hash, at or behind it. -/
  removed : ∀ (calls : OutboxCalls) (sessionId : SessionId) (sequence : UInt64) (hash : Bytes),
    ∀ event ∈ outbox.events, event ∉ (outbox.acknowledge sha256 secrets calls sessionId sequence hash).outbox.events →
      (outbox.acknowledge sha256 secrets calls sessionId sequence hash).ok = true ∧
      ∃ target ∈ outbox.events, SameContext event target ∧ target.sessionId = sessionId ∧ target.sequence = sequence ∧
        (hashAnswerEvent sha256 target).map Block.toList = some hash ∧
        event.sequence ≤ target.sequence
  /-- What `acknowledge` keeps it keeps unchanged and in order. -/
  retained : ∀ (calls : OutboxCalls) (sessionId : SessionId) (sequence : UInt64) (hash : Bytes),
    (outbox.acknowledge sha256 secrets calls sessionId sequence hash).outbox.events.Sublist outbox.events
  /-- `enqueue` keeps every pending event in its place, changes at most predecessors in its own
  context, and adds at most its own event, at the end. -/
  enqueued : ∀ (calls : OutboxCalls) (event : AnswerEvent),
    ∃ kept added, (outbox.enqueue sha256 secrets calls event).outbox.events = kept ++ added ∧
      (added = [] ∨ added = [event]) ∧
      List.Forall₂ (fun old new =>
        new = { old with previousEventHash := new.previousEventHash } ∧
          (new ≠ old → SameContext old event)) outbox.events kept
  /-- A call that returns `false` changes nothing: events, watermarks and file stay. -/
  acknowledgeFailed : ∀ (calls : OutboxCalls) (sessionId : SessionId) (sequence : UInt64)
    (hash : Bytes), (outbox.acknowledge sha256 secrets calls sessionId sequence hash).ok = false →
      (outbox.acknowledge sha256 secrets calls sessionId sequence hash).outbox = outbox
  enqueueFailed : ∀ (calls : OutboxCalls) (event : AnswerEvent),
    (outbox.enqueue sha256 secrets calls event).ok = false →
      (outbox.enqueue sha256 secrets calls event).outbox = outbox

/-- **Nothing is lost or altered in the outbox**, whatever file it was opened from and whatever was
called since. -/
theorem outbox_frame {sha256 : Bytes → Digest} {secrets : MachineSecrets}
    {succeeds : OpenStep → Bool} {openCalls : OutboxCalls} {file : Option Bytes} {initial outbox : AnswerOutbox}
    (hopen : AnswerOutbox.open sha256 secrets succeeds openCalls file = .ok initial)
    (hrun : OutboxRun sha256 secrets initial outbox) : OutboxFrame sha256 secrets outbox where
  removed calls sessionId sequence hash event hevent hgone := by
    have hkeyed : KeyedByContext outbox.watermarks := hrun.keyed (open_keyed hopen)
    rcases (@acknowledge_exit sha256 secrets outbox calls sessionId sequence hash).events with
      hsame | ⟨target, htarget, hok, hkey, hsequence, hvalid, hhash, hleft⟩
    · exact absurd (hsame ▸ hevent) hgone
    · rw [hleft, List.mem_filter, not_and] at hgone
      have hcovered := hgone hevent
      simp only [Bool.not_eq_true, Bool.not_eq_false', Bool.and_eq_true, beq_iff_eq,
        decide_eq_true_eq] at hcovered
      refine ⟨hok, target, htarget, sessionKey_eq_iff.mp hcovered.1,
        sessionId_of_selectKey hkeyed hkey, hsequence, ?_, hsequence ▸ hcovered.2⟩
      rw [hashAnswerEvent_eq_some_iff.mpr ⟨hvalid, rfl⟩, Option.map_some, hhash]
  retained calls sessionId sequence hash := by
    rcases (@acknowledge_exit sha256 secrets outbox calls sessionId sequence hash).events with
      hsame | ⟨target, _, _, _, _, _, _, hleft⟩
    · rw [hsame]
    · rw [hleft]
      exact List.filter_sublist
  enqueued calls event := by
    obtain ⟨kept, added, hevents, hadded, hkept⟩ :=
      (@enqueue_exit sha256 secrets outbox calls event).events
    refine ⟨kept, added, hevents, hadded, hkept.imp fun old new h => ⟨h.body, fun hne => ?_⟩⟩
    by_contra hcontext
    exact hne (h.own fun hkey => hcontext (sessionKey_eq_iff.mp hkey))
  acknowledgeFailed calls sessionId sequence hash :=
    (acknowledge_exit calls sessionId sequence hash).unchanged
  enqueueFailed calls event := (enqueue_exit calls event).unchanged

/-- A provider that puts one random byte in front. -/
def saltedSecrets : MachineSecrets where
  protect salt plaintext := UInt8.ofNat salt :: plaintext
  unprotect blob := blob.drop 1

/-- The outbox that `open` creates with it. -/
def newOutbox : AnswerOutbox :=
  ⟨true, [], ∅, storedOutbox 16 (7 :: encodeOutbox [] ∅)⟩

/-- A fresh outbox and its first answer. -/
theorem outbox_frame_firstAnswer : AnswerOutbox.open firstSha256 saltedSecrets (fun _ => true) ⟨7, true, true⟩ none =
        .ok newOutbox ∧
      (newOutbox.enqueue firstSha256 saltedSecrets ⟨8, true, true⟩ firstAnswer).outbox.events = [firstAnswer] ∧
      OutboxFrame firstSha256 saltedSecrets (newOutbox.enqueue firstSha256 saltedSecrets ⟨8, true, true⟩
          firstAnswer).outbox := by
  have hopen : AnswerOutbox.open firstSha256 saltedSecrets (fun _ => true)
      ⟨7, true, true⟩ none = .ok newOutbox := rfl
  exact ⟨hopen, by decide +kernel, outbox_frame hopen (.enqueued ⟨8, true, true⟩ firstAnswer .start)⟩

end Nstu
