import Nstu.Exam.Outbox.Reload

/-!
# Outboxes of the older formats

A plaintext file of version 1, 2 or 3 is read by the same `open` as the latest one, which leaves out
what an older version does not have and infers it from the pending events.

* `run_readWatermark_legacy` and `run_readEvents_legacy` follow what has been read back to the bytes
  of the file, `legacyWire`;
* `checkPending_legacy` says what the checks of a session with pending events establish, and
  `settled_of_checkSessions` that they leave a settled outbox;
* `legacy_outbox_migrates` is the result: whatever is accepted is kept, and is rewritten to a file
  that opens to the same outbox.
-/

namespace Nstu

open Wire Wire.Reader Wire.Parser HashChain KeyedMap List

/-! ## The bytes of a legacy file -/

/-- The bytes of a watermark in a version before the latest. -/
def savedWire (version : UInt16) (watermark : OutboxWatermark) : Bytes :=
  [le (UInt16.ofNat watermark.packageId.length) ++ watermark.packageId,
    le (UInt16.ofNat watermark.candidateId.length) ++ watermark.candidateId,
    watermark.packageDigest.toList, watermark.clientId.toList, watermark.sessionId.toList,
    le watermark.highestSequence, watermark.lastHash.toList,
    if kOutboxAcknowledgementVersion ≤ version then
      le watermark.acknowledgedSequence ++ watermark.acknowledgedHash.toList
    else []].flatten

/-- A plaintext outbox file of a version before the latest. -/
def legacyWire (version : UInt16) (saved : List OutboxWatermark) (events : List AnswerEvent) :
    Bytes :=
  let counted := kOutboxWatermarkVersion ≤ version
  [le kOutboxMagic, le version, if counted then le (0 : UInt16) else [], le (UInt32.ofNat events.length),
    if counted then le (UInt32.ofNat saved.length) else [],
    (saved.map (savedWire version)).flatten, (events.map outboxEventWire).flatten].flatten

/-- A watermark as an older version keeps it. -/
structure LegacyWatermark (version : UInt16) (watermark : OutboxWatermark) : Prop where
  readable : ReadableWatermark watermark
  unmarked : watermark.finalized = false
  unbounded : version < kOutboxAcknowledgementVersion →
    watermark.acknowledgedSequence = 0 ∧ watermark.acknowledgedHash = Block.zero 32

section Reading

variable {version : UInt16} {watermark : OutboxWatermark} {s r : Bytes}

lemma eq_of_run_readBoundedString {maximum : ℕ} {value : Bytes}
    (h : (readBoundedString maximum).run s = some (value, r)) :
    s = le (UInt16.ofNat value.length) ++ value ++ r ∧ validText value maximum false := by
  simp only [readBoundedString, run_bind_readLe_iff, run_bind_require_iff, run_bind_readBytes_iff,
    Reader.run_pure_iff] at h
  obtain ⟨length, _, rfl, hn, hm, _, _, rfl, hl, hz, rfl, rfl⟩ := h
  refine ⟨?_, validText_iff.mpr ⟨.inr ?_, by omega, hz⟩⟩
  · rw [hl, UInt16.ofNat_toNat, append_assoc]
  · rintro rfl
    apply hn
    rw [← UInt16.toNat_inj, ← hl]
    rfl

lemma eq_of_run_readWatermarkFields (h : readWatermarkFields.run s = some (watermark, r)) :
    s = [le (UInt16.ofNat watermark.packageId.length) ++ watermark.packageId,
        le (UInt16.ofNat watermark.candidateId.length) ++ watermark.candidateId,
        watermark.packageDigest.toList, watermark.clientId.toList, watermark.sessionId.toList,
        le watermark.highestSequence, watermark.lastHash.toList].flatten ++ r ∧
      validText watermark.packageId kMaximumPackageIdBytes false ∧
      validText watermark.candidateId kMaximumCandidateIdBytes false ∧
      watermark.acknowledgedSequence = 0 ∧ watermark.acknowledgedHash = Block.zero 32 ∧
      watermark.finalized = false := by
  obtain ⟨packageId, _, hp, h⟩ := Reader.run_bind_iff.mp h
  obtain ⟨candidateId, _, hc, h⟩ := Reader.run_bind_iff.mp h
  simp only [run_bind_readBlock_iff, run_bind_readLe_iff, Reader.run_pure_iff] at h
  obtain ⟨_, _, rfl, _, _, rfl, _, _, rfl, _, _, rfl, _, _, rfl, rfl, rfl⟩ := h
  obtain ⟨rfl, hpa⟩ := eq_of_run_readBoundedString hp
  obtain ⟨rfl, hca⟩ := eq_of_run_readBoundedString hc
  refine ⟨?_, hpa, hca, rfl, rfl, rfl⟩
  simp only [flatten_cons, flatten_nil, append_nil, append_assoc]

/-- **A watermark of an older version is what its bytes say.** -/
lemma run_readWatermark_legacy (hvers : version < kOutboxFinalizationVersion)
    (h : (readWatermark version).run s = .ok (watermark, r)) :
    s = savedWire version watermark ++ r ∧ LegacyWatermark version watermark := by
  simp only [readWatermark] at h
  obtain ⟨fields, _, hfiel, h⟩ := Parser.run_bind_iff.mp h
  obtain ⟨bounded, _, hboun, h⟩ := Parser.run_bind_iff.mp h
  obtain ⟨marked, _, hmark, h⟩ := Parser.run_bind_iff.mp h
  obtain ⟨_, _, hvalid, h⟩ := Parser.run_bind_iff.mp h
  obtain ⟨rfl, rfl⟩ := Parser.run_pure_iff.mp h
  obtain ⟨rfl, hpack, hcand, hsequ, hhash, hfinal⟩ :=
    eq_of_run_readWatermarkFields (run_orFail_iff.mp hfiel)
  have hmark := run_orFail_iff.mp hmark
  rw [readMarker, if_neg (UInt16.not_le.mpr hvers), Reader.run_pure_iff] at hmark
  obtain ⟨rfl, rfl⟩ := hmark
  have hvalid := run_orFail_iff.mp hvalid
  simp only [require, StateT.run] at hvalid
  split at hvalid
  case isFalse => cases hvalid
  rename_i hvalid'
  cases hvalid
  have hboun := run_orFail_iff.mp hboun
  rw [readBoundary] at hboun
  split at hboun
  · rename_i hbound
    simp only [run_bind_readLe_iff, run_bind_readBlock_iff, Reader.run_pure_iff] at hboun
    obtain ⟨sequence, _, rfl, hash, _, rfl, rfl, rfl⟩ := hboun
    refine ⟨?_, ⟨hpack, hcand, hvalid'⟩, hfinal, fun hlt => absurd hbound ?_⟩
    · simp only [savedWire, if_pos hbound, flatten_cons, flatten_nil, append_nil, append_assoc]
    · exact UInt16.not_le.mpr hlt
  · rename_i hbound
    obtain ⟨rfl, rfl⟩ := Reader.run_pure_iff.mp hboun
    refine ⟨?_, ⟨hpack, hcand, hvalid'⟩, hfinal, fun _ => ⟨hsequ, hhash⟩⟩
    simp only [savedWire, if_neg hbound, flatten_cons, flatten_nil, append_nil, append_assoc]

/-- What the loop over the watermarks has made of a map. -/
structure WatermarksRead (version : UInt16) (saved : List OutboxWatermark)
    (watermarks result : Watermarks) : Prop where
  legacy : ∀ watermark ∈ saved, LegacyWatermark version watermark
  added : ∀ watermark ∈ saved, result[watermark.key]? = some watermark
  source : ∀ (key : Bytes) (watermark : OutboxWatermark), result[key]? = some watermark →
    watermarks[key]? = some watermark ∨ watermark ∈ saved
  kept : ∀ (key : Bytes) (watermark : OutboxWatermark), watermarks[key]? = some watermark →
    result[key]? = some watermark

lemma run_readWatermarks_legacy (hvers : version < kOutboxFinalizationVersion) {count : ℕ}
    {watermarks result : Watermarks}
    (h : (readWatermarks version count watermarks).run s = .ok (result, r)) :
    ∃ saved : List OutboxWatermark, s = (saved.map (savedWire version)).flatten ++ r ∧
      saved.length = count ∧ WatermarksRead version saved watermarks result := by
  induction count generalizing watermarks s with
  | zero =>
    obtain ⟨rfl, rfl⟩ := Parser.run_pure_iff.mp h
    exact ⟨[], rfl, rfl, by simp, by simp, fun _ _ => .inl, fun _ _ => id⟩
  | succ count ih =>
    simp only [readWatermarks] at h
    obtain ⟨watermark, _, hwate, h⟩ := Parser.run_bind_iff.mp h
    obtain ⟨_, _, hnew, h⟩ := Parser.run_bind_iff.mp h
    obtain ⟨rfl, hlega⟩ := run_readWatermark_legacy hvers hwate
    have hnew := run_orFail_iff.mp hnew
    simp only [require, StateT.run] at hnew
    split at hnew
    case isFalse => cases hnew
    rename_i habse
    cases hnew
    obtain ⟨saved, rfl, rfl, hread⟩ := ih h
    refine ⟨watermark :: saved, ?_, rfl, ?_, ?_, ?_, ?_⟩
    · rw [map_cons, flatten_cons, append_assoc]
    · intro found hfound
      rcases mem_cons.mp hfound with rfl | hfound
      · exact hlega
      · exact hread.legacy found hfound
    · intro found hfound
      rcases mem_cons.mp hfound with rfl | hfound
      · exact hread.kept _ _ (by rw [getElem?_insert, if_pos rfl])
      · exact hread.added found hfound
    · intro key found hfound
      rcases hread.source key found hfound with hinse | hmem
      · rw [getElem?_insert] at hinse
        split_ifs at hinse with hkey
        · cases hinse
          exact .inr mem_cons_self
        · exact .inl hinse
      · exact .inr (mem_cons_of_mem _ hmem)
    · intro key found hfound
      apply hread.kept
      rw [getElem?_insert, if_neg, hfound]
      rintro rfl
      rw [Std.ExtTreeMap.contains_eq_isSome_getElem?, hfound] at habse
      cases habse

end Reading

/-! ## Loading the events -/

/-- What the event loop has made of the watermarks it started from. -/
structure EventsLoaded (initial : Watermarks) (contents : OutboxContents) : Prop where
  valid : ∀ event ∈ contents.events, ValidAnswerEvent event
  keyed : KeyedByContext contents.watermarks
  packageId : ∀ (key : Bytes) (watermark : OutboxWatermark), contents.watermarks[key]? = some watermark →
      validText watermark.packageId kMaximumPackageIdBytes false = true
  candidateId : ∀ (key : Bytes) (watermark : OutboxWatermark), contents.watermarks[key]? = some watermark →
      validText watermark.candidateId kMaximumCandidateIdBytes false = true
  owned : ∀ event ∈ contents.events, ∃ watermark, contents.watermarks[sessionKey event]? = some watermark ∧
      event.candidateId = watermark.candidateId
  idle : ∀ key, eventsOf key contents.events = [] → contents.watermarks[key]? = initial[key]?

section Loading

variable {sha256 : Bytes → Digest} {version : UInt16} {initial : Watermarks}
  {contents loaded : OutboxContents} {event : AnswerEvent} {s r : Bytes}

lemma OutboxWatermark.candidateId_loaded (watermark : OutboxWatermark) (event : AnswerEvent)
    (hash : Digest) : (watermark.loaded version event hash).candidateId = watermark.candidateId := by
  unfold OutboxWatermark.loaded
  dsimp only
  split <;> split <;> rfl

lemma OutboxWatermark.packageId_loaded (watermark : OutboxWatermark) (event : AnswerEvent)
    (hash : Digest) : (watermark.loaded version event hash).packageId = watermark.packageId := by
  unfold OutboxWatermark.loaded
  dsimp only
  split <;> split <;> rfl

lemma loadEvent_eq_ok (h : loadEvent sha256 version contents event = .ok loaded) :
    ValidAnswerEvent event ∧ ∃ watermark, loaded = ⟨contents.events ++ [event],
        contents.watermarks.insert (sessionKey event) watermark⟩ ∧
      watermark.candidateId = event.candidateId ∧ watermark.packageId = event.packageId ∧
      watermark.key = sessionKey event ∧
      ∀ former, contents.watermarks[sessionKey event]? = some former → former.candidateId = event.candidateId := by
  unfold loadEvent at h
  split at h
  · cases h
  rename_i hash hh
  have hv := (hashAnswerEvent_eq_some_iff.mp hh).1
  split at h
  · cases h
  split at h
  · rename_i hn
    cases h
    refine ⟨hv, _, rfl, rfl, rfl, rfl, ?_⟩
    intro former hf
    rw [hn] at hf
    cases hf
  · rename_i watermark hw
    split at h
    · cases h
    rename_i hc
    simp only [Bool.or_eq_true, not_or, Bool.not_eq_true', Bool.not_eq_false] at hc
    obtain ⟨hk, hca⟩ := sameWatermarkContext_iff.mp hc.1
    cases h
    refine ⟨hv, _, rfl, (watermark.candidateId_loaded event hash).trans hca,
      (watermark.packageId_loaded event hash).trans (sessionKeyOf_inj.mp hk).1,
      (watermark.key_loaded event hash).trans hk, ?_⟩
    intro former hf
    rw [hw] at hf
    cases hf
    exact hca

/-- A loaded event joins the events and its watermark. -/
lemma EventsLoaded.step (h : EventsLoaded initial contents)
    (hload : loadEvent sha256 version contents event = .ok loaded) :
    EventsLoaded initial loaded := by
  obtain ⟨hvalid, watermark, rfl, hcand, hpack, hkey, hform⟩ := loadEvent_eq_ok hload
  exact
    { valid := by
        intro item hitem
        rcases mem_append.mp hitem with hitem | hitem
        · exact h.valid item hitem
        · rw [mem_singleton.mp hitem]
          exact hvalid
      keyed := h.keyed.insert hkey
      packageId := by
        intro key found hfound
        rw [getElem?_insert] at hfound
        split_ifs at hfound
        · cases hfound
          exact hpack ▸ hvalid.packageId
        · exact h.packageId key found hfound
      candidateId := by
        intro key found hfound
        rw [getElem?_insert] at hfound
        split_ifs at hfound
        · cases hfound
          exact hcand ▸ hvalid.candidateId
        · exact h.candidateId key found hfound
      owned := by
        intro item hitem
        dsimp only
        rw [getElem?_insert]
        split_ifs with hsame
        · refine ⟨watermark, rfl, ?_⟩
          rcases mem_append.mp hitem with hitem | hitem
          · obtain ⟨former, hfound, hitem⟩ := h.owned item hitem
            rw [hitem, hcand, hform former (hsame ▸ hfound)]
          · rw [mem_singleton.mp hitem, hcand]
        · rcases mem_append.mp hitem with hitem | hitem
          · exact h.owned item hitem
          · exact absurd (congrArg sessionKey (mem_singleton.mp hitem)).symm hsame
      idle := by
        intro key hnone
        dsimp only at hnone ⊢
        rw [eventsOf_concat] at hnone
        split_ifs at hnone with hsame
        · simp at hnone
        · rw [getElem?_insert, if_neg hsame]
          exact h.idle key hnone }

lemma run_readEvents_legacy {count : ℕ} (h : (readEvents sha256 version count contents).run s = .ok (loaded, r))
    (hcont : EventsLoaded initial contents) :
    ∃ events : List AnswerEvent, s = (events.map outboxEventWire).flatten ++ r ∧
      events.length = count ∧ loaded.events = contents.events ++ events ∧
      EventsLoaded initial loaded := by
  induction count generalizing contents s with
  | zero =>
    obtain ⟨rfl, rfl⟩ := Parser.run_pure_iff.mp h
    exact ⟨[], rfl, rfl, (append_nil _).symm, hcont⟩
  | succ count ih =>
    simp only [readEvents] at h
    obtain ⟨record, rest, hreco, h⟩ := Parser.run_bind_iff.mp h
    cases hdeco : decodeAnswerEvent record with
    | error error =>
      simp only [hdeco] at h
      cases (Parser.run_noInput_iff.mp h).1
    | ok event =>
      simp only [hdeco] at h
      obtain ⟨hvalid, rfl⟩ := decodeAnswerEvent_eq_ok_iff.mp hdeco
      obtain ⟨next, _, hnext, h⟩ := Parser.run_bind_iff.mp h
      obtain ⟨hload, rfl⟩ := Parser.run_noInput_iff.mp hnext
      obtain ⟨events, rfl, rfl, heven, hloade⟩ := ih h (hcont.step hload)
      have hreco := run_orFail_iff.mp hreco
      simp only [readOutboxRecord, run_bind_readLe_iff, run_bind_require_iff, run_readBytes_iff] at hreco
      obtain ⟨size, _, rfl, -, -, rfl, hsize⟩ := hreco
      refine ⟨event :: events, ?_, rfl, ?_, hloade⟩
      · rw [map_cons, flatten_cons, outboxEventWire, hsize, UInt32.ofNat_toNat]
        simp only [append_assoc]
      · obtain ⟨-, watermark, rfl, -⟩ := loadEvent_eq_ok hload
        rw [heven, append_assoc]
        rfl

end Loading

/-! ## Checking the sessions -/

section Checking

variable {sha256 : Bytes → Digest} {version : UInt16} {saved settled : OutboxWatermark}
  {first : AnswerEvent} {rest pending : List AnswerEvent}

lemma validWatermark_spec (h : validWatermark saved) : allZero saved.packageDigest.toList = false ∧
      validIdentity saved.clientId saved.sessionId ∧ saved.highestSequence ≠ 0 ∧
      (saved.acknowledgedSequence = 0 ↔ saved.acknowledgedHash = Block.zero 32) := by
  simp only [validWatermark, Bool.and_eq_true, Bool.not_eq_true', bne_iff_ne, ne_eq] at h
  obtain ⟨⟨⟨⟨⟨⟨⟨⟨-, -⟩, hd⟩, hc⟩, hs⟩, hh⟩, -⟩, -⟩, hb⟩ := h
  refine ⟨hd, by simp [validIdentity, hc, hs], hh, ?_⟩
  split at hb
  · rename_i hz
    exact iff_of_true (by simpa using hz) (allZero_iff.mp hb)
  · rename_i hz
    refine iff_of_false (by simpa using hz) fun he => ?_
    rw [allZero_iff.mpr he] at hb
    cases hb

lemma kind_of_pendingFinalized {finalized : Bool} (hn : pending ≠ [])
    (h : pendingFinalized false pending = .ok finalized) :
    ∀ i (hi : i < pending.length), pending[i].kind = .finalize ↔ finalized ∧ i + 1 = pending.length := by
  induction pending with
  | nil => exact absurd rfl hn
  | cons event rest ih =>
    rw [pendingFinalized] at h
    cases rest with
    | nil =>
      intro i hi
      obtain rfl : i = 0 := by simpa using hi
      cases h
      simp
    | cons next rest =>
      cases hk : event.kind == .finalize with
      | true =>
        rw [hk] at h
        cases h
      | false =>
        rw [hk] at h
        have hr := ih (by simp) h
        intro i hi
        cases i with
        | zero => simpa using hk
        | succ i => simpa using hr i (by simpa using hi)

lemma linked_of_checkChain {last : AnswerEvent} (h : checkChain sha256 first rest = .ok last) :
    Linked (eventHash sha256) (·.previousEventHash) (eventHash sha256 first) rest ∧ (∀ i (hi : i < rest.length),
        rest[i].sequence.toNat = first.sequence.toNat + i + 1) ∧
      last = (first :: rest).getLast (by simp) := by
  induction rest generalizing first with
  | nil =>
    cases h
    exact ⟨trivial, by simp, rfl⟩
  | cons current rest ih =>
    rw [checkChain] at h
    split at h
    · cases h
    rename_i hl
    obtain ⟨hli, hs, rfl⟩ := ih h
    unfold checkLink at hl
    split at hl
    · cases hl
    rename_i hse
    simp only [Bool.or_eq_true, beq_iff_eq, bne_iff_ne, ne_eq, not_or, not_not] at hse
    split at hl
    · cases hl
    rename_i hash hh
    obtain ⟨-, rfl⟩ := hashAnswerEvent_eq_some_iff.mp hh
    split at hl
    · cases hl
    rename_i hsa
    have hn : current.sequence.toNat = first.sequence.toNat + 1 := by
      rw [hse.2, toNat_succ hse.1]
    refine ⟨⟨by simpa using hsa, hli⟩, ?_, by rw [getLast_cons_cons]⟩
    intro i hi
    cases i with
    | zero => simpa using hn
    | succ i =>
      have := hs i (by simpa using hi)
      simp only [getElem_cons_succ]
      omega

lemma boundary_of_checkBoundary (h : checkBoundary saved first = .ok ()) : validWatermark saved ∧
      first.sequence.toNat = saved.acknowledgedSequence.toNat + 1 ∧
      first.previousEventHash = saved.acknowledgedHash := by
  unfold checkBoundary at h
  split at h
  · cases h
  rename_i hv
  have hv : validWatermark saved := by simpa using hv
  split at h
  · cases h
  rename_i hs
  simp only [Bool.or_eq_true, beq_iff_eq, bne_iff_ne, ne_eq, not_or, not_not] at hs
  refine ⟨hv, by rw [← hs.2, toNat_succ hs.1], ?_⟩
  split at h
  · rename_i hz
    split at h
    · cases h
    rename_i hp
    rw [((validWatermark_spec hv).2.2.2).mp (by simpa using hz)]
    exact allZero_iff.mp (by simpa using hp)
  · split at h
    · cases h
    rename_i hp
    simpa using hp

lemma last_of_checkLast {last : AnswerEvent} (h : checkLast sha256 saved last = .ok ()) :
    last.sequence = saved.highestSequence ∧ saved.lastHash = eventHash sha256 last := by
  unfold checkLast at h
  split at h
  · cases h
  rename_i hash hh
  obtain ⟨-, rfl⟩ := hashAnswerEvent_eq_some_iff.mp hh
  split at h
  · cases h
  rename_i hl
  simpa using hl

lemma inferBoundary_eq (version : UInt16) (saved : OutboxWatermark) (first : AnswerEvent) :
    ∃ sequence hash, inferBoundary version saved first =
      { saved with acknowledgedSequence := sequence, acknowledgedHash := hash } := by
  simp only [inferBoundary]
  split_ifs
  · exact ⟨_, _, rfl⟩
  · exact ⟨_, _, rfl⟩
  · exact ⟨saved.acknowledgedSequence, saved.acknowledgedHash, rfl⟩

/-- **The checks of a session with pending events describe it.** -/
lemma checkPending_legacy (hvers : version < kOutboxFinalizationVersion)
    (hpack : validText saved.packageId kMaximumPackageIdBytes false)
    (hcand : validText saved.candidateId kMaximumCandidateIdBytes false)
    (hcandi : ∀ event ∈ first :: rest, event.candidateId = saved.candidateId)
    (h : checkPending sha256 version saved first rest = .ok settled) :
    WatermarkInvariant sha256 saved.key settled (first :: rest) := by
  simp only [checkPending] at h
  obtain ⟨finalized, hfinal, h⟩ := bind_eq_ok_iff.mp h
  obtain ⟨marked, hmark, h⟩ := bind_eq_ok_iff.mp h
  obtain ⟨_, hboun, h⟩ := bind_eq_ok_iff.mp h
  obtain ⟨last, hchain, h⟩ := bind_eq_ok_iff.mp h
  obtain ⟨_, hlast, h⟩ := bind_eq_ok_iff.mp h
  rw [settleFinalization, if_pos hvers] at hmark
  cases hmark
  obtain ⟨sequence, hash, hbound⟩ := inferBoundary_eq version { saved with finalized } first
  rw [hbound] at hboun hlast h
  cases h
  obtain ⟨hvalid, hfirst, hprev⟩ := boundary_of_checkBoundary hboun
  obtain ⟨hlink, hsequ, rfl⟩ := linked_of_checkChain hchain
  obtain ⟨hhigh, hhash⟩ := last_of_checkLast hlast
  obtain ⟨hdige, hiden, hposi, hzero⟩ := validWatermark_spec hvalid
  have hall : ∀ i (hi : i < (first :: rest).length), (first :: rest)[i].sequence.toNat = sequence.toNat + i + 1 := by
    intro i hi
    cases i with
    | zero => exact hfirst
    | succ i =>
      have := hsequ i (by simpa using hi)
      simp only [getElem_cons_succ]
      dsimp only at hfirst
      omega
  exact
    { context := rfl
      packageId := hpack
      packageDigest := hdige
      identity := hiden
      candidateId := hcand
      candidates := hcandi
      sequences := hall
      highest := by
        rw [← hhigh, getLast_eq_getElem, hall]
        simp only [length_cons, Nat.add_sub_cancel]
        omega
      positive := hposi
      linked := ⟨hprev, hlink⟩
      lastHash := hhash.trans (endHash_eq_of_getLast? (getLast?_eq_some_getLast _)).symm
      boundary := hzero
      finalize := kind_of_pendingFinalized (by simp) hfinal }

/-- A session without pending events is described by a watermark that ends where it is
acknowledged. -/
lemma WatermarkInvariant.of_acknowledged (hvalid : validWatermark saved)
    (hpack : validText saved.packageId kMaximumPackageIdBytes false)
    (hcand : validText saved.candidateId kMaximumCandidateIdBytes false)
    (hsequ : saved.acknowledgedSequence = saved.highestSequence)
    (hhash : saved.acknowledgedHash = saved.lastHash) :
    WatermarkInvariant sha256 saved.key saved [] := by
  obtain ⟨hdige, hiden, hposi, hzero⟩ := validWatermark_spec hvalid
  exact
    { context := rfl
      packageId := hpack
      packageDigest := hdige
      identity := hiden
      candidateId := hcand
      candidates := by simp
      sequences := by simp
      highest := by simp [hsequ]
      positive := hposi
      linked := trivial
      lastHash := hhash.symm
      boundary := hzero
      finalize := by simp }

lemma settleAcknowledged_eq_ok (h : settleAcknowledged version saved = .ok settled) :
    settled = { saved with
      acknowledgedSequence := saved.highestSequence, acknowledgedHash := saved.lastHash } := by
  unfold settleAcknowledged at h
  split at h
  · split at h
    · cases h
      rfl
    · cases h
  · rename_i hs
    simp only [Bool.or_eq_true, bne_iff_ne, ne_eq, Bool.not_eq_true', not_or, not_not, Bool.not_eq_false] at hs
    cases h
    exact OutboxWatermark.ext rfl rfl rfl rfl rfl rfl rfl hs.1 (by simpa using hs.2) rfl

/-- What one round of the loop over the pending sessions does to its key. -/
def PendingChecked (sha256 : Bytes → Digest) (version : UInt16) (pending : List AnswerEvent)
    (old new : Option OutboxWatermark) : Prop :=
  ∃ saved, old = some saved ∧ ∀ first rest, sortBySequence pending = first :: rest →
    ∃ settled, checkPending sha256 version saved first rest = .ok settled ∧ new = some settled

lemma checkSession_round {watermarks result : Watermarks} {session : Bytes × List AnswerEvent}
    (h : checkSession sha256 version watermarks session = .ok result) :
    PendingChecked sha256 version session.2 watermarks[session.1]? result[session.1]? ∧
      ∀ key, session.1 ≠ key → result[key]? = watermarks[key]? := by
  unfold checkSession at h
  split at h
  · cases h
  rename_i saved hs
  split at h
  · rename_i hn
    cases h
    exact ⟨⟨saved, hs, fun first rest hc => absurd (hn.symm.trans hc) (by simp)⟩,
      fun _ _ => rfl⟩
  · rename_i first rest hc
    obtain ⟨settled, hse, h⟩ := bind_eq_ok_iff.mp h
    cases h
    refine ⟨⟨saved, hs, fun first' rest' hc' => ⟨settled, ?_, ?_⟩⟩, ?_⟩
    · rw [hc] at hc'
      cases hc'
      exact hse
    · rw [getElem?_insert, if_pos rfl]
    · intro key hk
      rw [getElem?_insert, if_neg hk]

/-- What one round of the loop over the watermarks does to its key. -/
structure AcknowledgedChecked (version : UInt16) (pending : OrderedMap Bytes (List AnswerEvent))
    (key : Bytes) (saved : OutboxWatermark) (old new : Option OutboxWatermark) : Prop where
  skipped : pending.contains key = true → new = old
  settled : pending.contains key = false →
    ∃ settled, settleAcknowledged version saved = .ok settled ∧ new = some settled

lemma checkAcknowledged_round {watermarks result : Watermarks}
    {pending : OrderedMap Bytes (List AnswerEvent)} {entry : Bytes × OutboxWatermark}
    (h : checkAcknowledged version pending watermarks entry = .ok result) :
    AcknowledgedChecked version pending entry.1 entry.2 watermarks[entry.1]? result[entry.1]? ∧
      ∀ key, entry.1 ≠ key → result[key]? = watermarks[key]? := by
  unfold checkAcknowledged at h
  split at h
  · rename_i hp
    cases h
    exact ⟨⟨fun _ => rfl, fun hi => absurd (hp.symm.trans hi) (by simp)⟩,
      fun _ _ => rfl⟩
  · rename_i hi
    obtain ⟨settled, hs, h⟩ := bind_eq_ok_iff.mp h
    cases h
    refine ⟨⟨fun hp => absurd hp hi,
      fun _ => ⟨settled, hs, by rw [getElem?_insert, if_pos rfl]⟩⟩, ?_⟩
    intro key hk
    rw [getElem?_insert, if_neg hk]

lemma contains_pendingBySession (events : List AnswerEvent) (key : Bytes) :
    (pendingBySession events).contains key ↔ eventsOf key events ≠ [] := by
  rw [Std.ExtTreeMap.contains_eq_isSome_getElem?, getElem?_pendingBySession]
  split_ifs with hn <;> simp [hn]

/-- What the checks leave at the key of a session with pending events, and of one without. -/
structure SessionsChecked (sha256 : Bytes → Digest) (version : UInt16)
    (contents result : OutboxContents) : Prop where
  events : result.events = contents.events
  pending : ∀ key, eventsOf key contents.events ≠ [] →
    PendingChecked sha256 version (eventsOf key contents.events) contents.watermarks[key]? result.watermarks[key]?
  idle : ∀ key saved, eventsOf key contents.events = [] → contents.watermarks[key]? = some saved → ∃ settled,
      settleAcknowledged version saved = .ok settled ∧ result.watermarks[key]? = some settled
  none : ∀ key : Bytes, eventsOf key contents.events = [] → contents.watermarks[key]? = none →
    result.watermarks[key]? = none

lemma checkSessions_eq_ok {contents result : OutboxContents}
    (h : checkSessions sha256 version contents = .ok result) :
    SessionsChecked sha256 version contents result := by
  simp only [checkSessions] at h
  obtain ⟨checked, hpend, h⟩ := bind_eq_ok_iff.mp h
  obtain ⟨settled, hall, h⟩ := bind_eq_ok_iff.mp h
  cases h
  obtain ⟨hround, hothe⟩ := foldlM_of_keyed
    (R := fun _ => PendingChecked sha256 version) (fun _ _ _ => checkSession_round)
    (pairwise_ne_toList _) hpend
  obtain ⟨hlast, hrest⟩ := foldlM_of_keyed (R := AcknowledgedChecked version (pendingBySession contents.events))
    (fun _ _ _ => checkAcknowledged_round) (pairwise_ne_toList _) hall
  have hskip : ∀ key, eventsOf key contents.events ≠ [] → settled[key]? = checked[key]? := by
    intro key hne
    cases hchec : checked[key]? with
    | some saved =>
      rw [← hchec]
      exact (hlast (key, saved) (Std.ExtTreeMap.mem_toList_iff_getElem?_eq_some.mpr
        hchec)).skipped ((contains_pendingBySession _ _).mpr hne)
    | none =>
      rw [hrest key ?_, hchec]
      rintro ⟨other, saved⟩ hentry rfl
      rw [Std.ExtTreeMap.mem_toList_iff_getElem?_eq_some] at hentry
      cases hentry.symm.trans hchec
  have hunch : ∀ key, eventsOf key contents.events = [] → checked[key]? = contents.watermarks[key]? := by
    intro key hnil
    apply hothe key
    rintro ⟨other, events⟩ hentry rfl
    rw [Std.ExtTreeMap.mem_toList_iff_getElem?_eq_some, getElem?_pendingBySession, if_pos hnil] at hentry
    cases hentry
  refine ⟨rfl, ?_, ?_, ?_⟩
  · intro key hne
    dsimp only
    rw [hskip key hne]
    refine hround (key, eventsOf key contents.events) ?_
    rw [Std.ExtTreeMap.mem_toList_iff_getElem?_eq_some, getElem?_pendingBySession, if_neg hne]
  · intro key saved hnil hsaved
    rw [← hunch key hnil] at hsaved
    refine (hlast (key, saved) (Std.ExtTreeMap.mem_toList_iff_getElem?_eq_some.mpr hsaved)).settled ?_
    rw [← Bool.not_eq_true, contains_pendingBySession]
    simpa using hnil
  · intro key hnil hnone
    rw [← hunch key hnil] at hnone
    dsimp only
    rw [hrest key ?_, hnone]
    rintro ⟨other, saved⟩ hentry rfl
    rw [Std.ExtTreeMap.mem_toList_iff_getElem?_eq_some] at hentry
    cases hentry.symm.trans hnone

/-- **What passes the checks of a legacy file is settled**, once its watermarks are valid. -/
lemma settled_of_checkSessions (hvers : version < kOutboxFinalizationVersion)
    {initial : Watermarks} {contents result : OutboxContents}
    (hload : EventsLoaded initial contents)
    (h : checkSessions sha256 version contents = .ok result) (hvalid : AllValid result.watermarks) :
    Settled sha256 result.events result.watermarks := by
  have hchec := checkSessions_eq_ok h
  refine ⟨hchec.events ▸ hload.valid, ?_, ?_⟩
  · intro key watermark hwate
    rw [hchec.events]
    by_cases hnil : eventsOf key contents.events = []
    · rw [hnil, sortBySequence, mergeSort_nil]
      cases hsaved : contents.watermarks[key]? with
      | none =>
        rw [hchec.none key hnil hsaved] at hwate
        cases hwate
      | some saved =>
        obtain ⟨settled, hsett, hresu⟩ := hchec.idle key saved hnil hsaved
        rw [hresu] at hwate
        cases hwate
        have hkey := hload.keyed key saved hsaved
        have hpack := hload.packageId key saved hsaved
        have hcand := hload.candidateId key saved hsaved
        obtain rfl := settleAcknowledged_eq_ok hsett
        have := @WatermarkInvariant.of_acknowledged sha256 _ (hvalid _ _ hresu) hpack
          hcand rfl rfl
        exact hkey ▸ this
    · obtain ⟨saved, hsaved, hround⟩ := hchec.pending key hnil
      cases hsort : sortBySequence (eventsOf key contents.events) with
      | nil => exact absurd (sortBySequence_eq_nil_iff.mp hsort) hnil
      | cons first rest =>
        obtain ⟨settled, hsett, hresu⟩ := hround first rest hsort
        rw [hresu] at hwate
        cases hwate
        have hkey := hload.keyed key saved hsaved
        rw [← hkey]
        refine checkPending_legacy hvers (hload.packageId key saved hsaved)
          (hload.candidateId key saved hsaved) ?_ hsett
        intro event hevent
        rw [← hsort, mem_sortBySequence, eventsOf, mem_filter, beq_iff_eq] at hevent
        obtain ⟨hmem, rfl⟩ := hevent
        obtain ⟨owner, howner, hcand⟩ := hload.owned event hmem
        cases hsaved.symm.trans howner
        exact hcand
  · intro key hnone
    rw [hchec.events]
    by_contra hne
    obtain ⟨saved, -, hround⟩ := hchec.pending key hne
    cases hsort : sortBySequence (eventsOf key contents.events) with
    | nil => exact hne (sortBySequence_eq_nil_iff.mp hsort)
    | cons first rest =>
      obtain ⟨settled, -, hresu⟩ := hround first rest hsort
      cases hnone.symm.trans hresu

end Checking

/-! ## The whole file -/

section File

variable {sha256 : Bytes → Digest} {version : UInt16} {s r : Bytes}

lemma eq_of_run_readOutboxHeader {count : UInt32} (h : readOutboxHeader.run s = some ((version, count), r)) :
    s = le kOutboxMagic ++ (le version ++
      ((if kOutboxWatermarkVersion ≤ version then le (0 : UInt16) else []) ++ (le count ++ r))) := by
  simp only [readOutboxHeader, run_bind_readLe_iff, run_bind_require_iff] at h
  obtain ⟨_, _, rfl, rfl, found, _, rfl, -, -, h⟩ := h
  obtain ⟨_, _, hr, h⟩ := Reader.run_bind_iff.mp h
  simp only [run_bind_readLe_iff, run_bind_require_iff, Reader.run_pure_iff] at h
  obtain ⟨_, _, rfl, -, hp, rfl⟩ := h
  cases hp
  rw [readReserved] at hr
  split at hr
  · rename_i hc
    simp only [run_bind_readLe_iff, run_bind_require_iff, Reader.run_pure_iff] at hr
    obtain ⟨_, _, rfl, rfl, -, rfl⟩ := hr
    rw [if_pos hc]
  · rename_i hc
    obtain ⟨-, rfl⟩ := Reader.run_pure_iff.mp hr
    rw [if_neg hc, nil_append]

lemma eq_of_run_readWatermarkCount {count : UInt32} (h : (readWatermarkCount version).run s = some (count, r)) :
    s = (if kOutboxWatermarkVersion ≤ version then le count else []) ++ r := by
  rw [readWatermarkCount] at h
  split at h
  · rename_i hc
    simp only [run_bind_readLe_iff, run_bind_require_iff, Reader.run_pure_iff] at h
    obtain ⟨_, _, rfl, -, rfl, rfl⟩ := h
    rw [if_pos hc]
  · rename_i hc
    obtain ⟨-, rfl⟩ := Reader.run_pure_iff.mp h
    rw [if_neg hc, nil_append]

lemma version_of_run_readOutbox {contents : OutboxContents}
    (h : (readOutbox sha256).run s = .ok ((version, contents), r)) :
    le kOutboxMagic ++ le version <+: s := by
  simp only [readOutbox] at h
  obtain ⟨⟨found, count⟩, _, hh, h⟩ := Parser.run_bind_iff.mp h
  obtain ⟨watermarkCount, _, -, h⟩ := Parser.run_bind_iff.mp h
  obtain ⟨watermarks, _, -, h⟩ := Parser.run_bind_iff.mp h
  obtain ⟨loaded, _, -, h⟩ := Parser.run_bind_iff.mp h
  obtain ⟨checked, _, -, h⟩ := Parser.run_bind_iff.mp h
  obtain ⟨left, _, -, h⟩ := Parser.run_bind_iff.mp h
  obtain ⟨_, _, -, h⟩ := Parser.run_bind_iff.mp h
  obtain ⟨hr, rfl⟩ := Parser.run_pure_iff.mp h
  cases hr
  rw [eq_of_run_readOutboxHeader (run_orFail_iff.mp hh), ← append_assoc]
  exact prefix_append _ _

/-- **What is read from a legacy file is what the file says.** -/
lemma run_readOutbox_legacy (hvers : version < kOutboxFinalizationVersion)
    {contents : OutboxContents} (h : (readOutbox sha256).run s = .ok ((version, contents), r)) :
    ∃ (saved : List OutboxWatermark) (watermarks : Watermarks) (loaded : OutboxContents),
      s = legacyWire version saved contents.events ∧ WatermarksRead version saved ∅ watermarks ∧
        EventsLoaded watermarks loaded ∧ checkSessions sha256 version loaded = .ok contents := by
  simp only [readOutbox] at h
  obtain ⟨⟨found, count⟩, _, hhead, h⟩ := Parser.run_bind_iff.mp h
  obtain ⟨watermarkCount, _, hcount, h⟩ := Parser.run_bind_iff.mp h
  obtain ⟨watermarks, _, hwate, h⟩ := Parser.run_bind_iff.mp h
  obtain ⟨loaded, _, heven, h⟩ := Parser.run_bind_iff.mp h
  obtain ⟨checked, _, hnoIn, h⟩ := Parser.run_bind_iff.mp h
  obtain ⟨left, rest, hleft, h⟩ := Parser.run_bind_iff.mp h
  obtain ⟨_, _, hrequ, h⟩ := Parser.run_bind_iff.mp h
  obtain ⟨hresu, rfl⟩ := Parser.run_pure_iff.mp h
  cases hresu
  obtain ⟨hchec, rfl⟩ := Parser.run_noInput_iff.mp hnoIn
  obtain ⟨saved, rfl, hsaved, hread⟩ := run_readWatermarks_legacy hvers hwate
  have hinit : EventsLoaded watermarks ⟨[], watermarks⟩ :=
    { valid := by simp
      keyed := readWatermarks_keyed hwate .empty
      packageId := by
        intro key watermark hwater
        rcases hread.source key watermark hwater with hnone | hmem
        · simp at hnone
        · exact (hread.legacy watermark hmem).readable.packageId
      candidateId := by
        intro key watermark hwater
        rcases hread.source key watermark hwater with hnone | hmem
        · simp at hnone
        · exact (hread.legacy watermark hmem).readable.candidateId
      owned := by simp
      idle := fun _ _ => rfl }
  obtain ⟨events, rfl, hleng, hload, heven⟩ := run_readEvents_legacy heven hinit
  have hfiled : contents.events = events := by
    rw [(checkSessions_eq_ok hchec).events, hload]
    rfl
  refine ⟨saved, watermarks, loaded, ?_, hread, heven, hchec⟩
  have hrema := run_orFail_iff.mp hleft
  have hzero := run_orFail_iff.mp hrequ
  simp only [remaining, require, StateT.run] at hrema hzero
  cases hrema
  split at hzero
  case isFalse => cases hzero
  rename_i hnil
  rw [length_eq_zero_iff] at hnil
  subst hnil
  rw [eq_of_run_readOutboxHeader (run_orFail_iff.mp hhead),
    eq_of_run_readWatermarkCount (run_orFail_iff.mp hcount), hfiled, legacyWire]
  simp only [hleng, hsaved, UInt32.ofNat_toNat, flatten_cons, flatten_nil, append_nil]

end File

/-! ## Migration -/

section Migration

variable {sha256 : Bytes → Digest} {secrets : MachineSecrets} {version : UInt16} {file : Bytes}
  {outbox : AnswerOutbox} {calls : OutboxCalls}

lemma decryptOutbox_plain (hp : le kOutboxMagic ++ le version <+: file) :
    decryptOutbox secrets file = .ok (file, false) := by
  obtain ⟨rest, rfl⟩ := hp
  have hm : (readLe : Reader UInt32).run (le kOutboxMagic ++ le version ++ rest) =
      some (kOutboxMagic, le version ++ rest) := by
    rw [run_readLe_iff, append_assoc]
  unfold decryptOutbox
  rw [if_neg (by simp only [length_append, le_length, size_uint32]; omega), hm]
  rfl

lemma open_plain_eq_ok {succeeds : OpenStep → Bool} (hvers : version < kOutboxVersion)
    (hplain : le kOutboxMagic ++ le version <+: file)
    (h : AnswerOutbox.open sha256 secrets succeeds calls (some file) = .ok outbox) :
    outbox.isOpen ∧ (∃ rest, (readOutbox sha256).run file =
        .ok ((version, ⟨outbox.events, outbox.watermarks⟩), rest)) ∧
      saveOutbox secrets calls outbox.events outbox.watermarks = .ok outbox.file := by
  simp only [AnswerOutbox.open] at h
  iterate 4 (split at h; · cases h)
  obtain ⟨stored, hstor, h⟩ := bind_eq_ok_iff.mp h
  cases hstor
  split at h
  · cases h
  split at h
  · cases h
  simp only [AnswerOutbox.load] at h
  obtain ⟨⟨bytes, encrypted⟩, hdecr, h⟩ := bind_eq_ok_iff.mp h
  cases (decryptOutbox_plain hplain).symm.trans hdecr
  obtain ⟨⟨⟨found, contents⟩, rest⟩, hread, h⟩ := bind_eq_ok_iff.mp h
  obtain ⟨written, hwrit, h⟩ := bind_eq_ok_iff.mp h
  cases h
  have hfound : found = version := by
    obtain ⟨after, hafter⟩ := version_of_run_readOutbox hread
    obtain ⟨after', rfl⟩ := hplain
    simp only [append_assoc] at hafter
    have hbytes := append_cancel_left hafter
    exact le_injective (append_inj hbytes (by simp)).1
  subst hfound
  exact ⟨rfl, ⟨rest, hread⟩, hwrit⟩

/-- What an accepted file of an older version has become. -/
structure Migrated (sha256 : Bytes → Digest) (secrets : MachineSecrets) (version : UInt16)
    (file : Bytes) (outbox : AnswerOutbox) (saved : List OutboxWatermark) : Prop where
  /-- The events of the outbox are those of the file, in its order. -/
  events : file = legacyWire version saved outbox.events
  /-- The file is an encrypted one of the latest version now. -/
  rewritten : decryptOutbox secrets outbox.file = .ok (outboxWire outbox.events outbox.watermarks, true)
  reopens : ∀ succeeds : OpenStep → Bool, (∀ step, succeeds step = true) → ∀ calls,
    AnswerOutbox.open sha256 secrets succeeds calls (some outbox.file) = .ok outbox
  pending : ∀ key first rest, sortBySequence (eventsOf key outbox.events) = first :: rest →
    ∃ watermark, outbox.watermarks[key]? = some watermark ∧ watermark.acknowledgedSequence = first.sequence - 1 ∧
      watermark.acknowledgedHash = first.previousEventHash
  idle : ∀ key watermark, eventsOf key outbox.events = [] →
    (outbox.watermarks[key]? = some watermark ↔ ∃ former ∈ saved, former.key = key ∧
      watermark = { former with
        acknowledgedSequence := former.highestSequence, acknowledgedHash := former.lastHash })

lemma Settled.first_pending {events : List AnswerEvent} {watermarks : Watermarks}
    (h : Settled sha256 events watermarks) {key : Bytes} {first : AnswerEvent}
    {rest : List AnswerEvent} (hs : sortBySequence (eventsOf key events) = first :: rest) :
    ∃ watermark, watermarks[key]? = some watermark ∧ watermark.acknowledgedSequence = first.sequence - 1 ∧
      watermark.acknowledgedHash = first.previousEventHash := by
  cases hw : watermarks[key]? with
  | none =>
    rw [h.absent key hw, sortBySequence, mergeSort_nil] at hs
    cases hs
  | some watermark =>
    have hse := h.present key watermark hw
    rw [hs] at hse
    have hf : first.sequence.toNat = watermark.acknowledgedSequence.toNat + 1 :=
      hse.sequences 0 (by simp)
    refine ⟨watermark, rfl, ?_, hse.linked.1.symm⟩
    rw [← UInt64.toNat_inj, UInt64.toNat_sub_of_le _ _
      (by rw [UInt64.le_iff_toNat_le, UInt64.toNat_one]; omega), UInt64.toNat_one]
    omega

/-- **Legacy outboxes migrate.**  Whatever plaintext file of version 1, 2 or 3 `open` accepts, the
outbox holds the file's events in the file's order, its file has been rewritten in the latest format
and opens to the same outbox again.  A session with pending events is acknowledged up to the one
before the first of them; one without is acknowledged to the end of its watermark. -/
theorem legacy_outbox_migrates (hsecrets : secrets.Sound) {succeeds : OpenStep → Bool}
    (hversion : version < kOutboxVersion) (hplain : le kOutboxMagic ++ le version <+: file)
    (hopen : AnswerOutbox.open sha256 secrets succeeds calls (some file) = .ok outbox) :
    ∃ saved, Migrated sha256 secrets version file outbox saved := by
  obtain ⟨hisOpen, ⟨rest, hread⟩, hsave⟩ := open_plain_eq_ok hversion hplain hopen
  obtain ⟨saved, watermarks, loaded, hfile, hwatermarks, hloaded, hchecked⟩ :=
    run_readOutbox_legacy hversion hread
  have hvalid : AllValid outbox.watermarks := saveOutbox_valid hsave
  have hsettled := settled_of_checkSessions hversion hloaded hchecked hvalid
  obtain ⟨hne, -⟩ := saveOutbox_eq_ok hsave
  refine ⟨saved, hfile, ?_, ?_, fun _ _ _ => hsettled.first_pending, ?_⟩
  · rw [decryptOutbox_saved hsecrets hsave, (encodeOutbox_of_settled hsettled hvalid hne).1]
  · intro succeeds hsucceeds calls
    rw [open_saved hsecrets hsettled hsave hsucceeds calls, ← hisOpen]
  · intro key watermark hnil
    have hsessions := checkSessions_eq_ok hchecked
    have hidle : eventsOf key loaded.events = [] := by
      rw [← hsessions.events]
      exact hnil
    have hinitial := hloaded.idle key hidle
    constructor
    · intro hwatermark
      cases hformer : loaded.watermarks[key]? with
      | none =>
        rw [hsessions.none key hidle hformer] at hwatermark
        cases hwatermark
      | some former =>
        obtain ⟨settled, hsettled, hresult⟩ := hsessions.idle key former hidle hformer
        cases hwatermark.symm.trans hresult
        refine ⟨former, ?_, hloaded.keyed key former hformer, settleAcknowledged_eq_ok hsettled⟩
        rcases hwatermarks.source key former (hinitial ▸ hformer) with hempty | hmem
        · simp at hempty
        · exact hmem
    · rintro ⟨former, hmem, rfl, rfl⟩
      have hformer := hinitial.trans (hwatermarks.added former hmem)
      obtain ⟨settled, hsettled, hresult⟩ := hsessions.idle _ former hidle hformer
      rw [← settleAcknowledged_eq_ok hsettled]
      exact hresult

end Migration

/-- A file of the first version with one answer in it. -/
def firstVersionFile : Bytes := legacyWire 1 [] [firstAnswer]

lemma firstVersionFile_accepted : (AnswerOutbox.open firstSha256 saltedSecrets (fun _ => true)
    ⟨7, true, true⟩ (some firstVersionFile)).isOk := by
  decide +kernel

/-- The file of the first version migrates. -/
theorem legacy_outbox_migrates_firstAnswer :
    ∃ outbox saved, Migrated firstSha256 saltedSecrets 1 firstVersionFile outbox saved := by
  have haccepted := firstVersionFile_accepted
  cases hopen : AnswerOutbox.open firstSha256 saltedSecrets (fun _ => true) ⟨7, true, true⟩
      (some firstVersionFile) with
  | error error =>
    rw [hopen] at haccepted
    cases haccepted
  | ok outbox =>
    have hplain : le kOutboxMagic ++ le (1 : UInt16) <+: firstVersionFile := by decide
    exact ⟨outbox, legacy_outbox_migrates ⟨fun _ _ _ => rfl⟩ (by decide) hplain hopen⟩

end Nstu
