import Nstu.Telemetry.Journal.Restart

/-!
# One accept for each batch

Three things keep a batch from being accepted again: the map of tracked sequences, the replay floor
that takes over what is removed from it, and the table of conflicts.  A producer *covers* a sequence
that is tracked or not above the floor.  What is covered stays covered and what is in conflict stays
in conflict, through evictions by sequence and by age, until the session is stopped or removed
(`Continues`).  The metadata file carries both over a restart.
-/

namespace Nstu.Telemetry

open Wire Reader FramedLog KeyedMap Std
open Store (step process)

/-! ## Producers -/

/-- The sequence will not be accepted. -/
def ProducerRecord.Covers (producer : ProducerRecord) (sequence : UInt64) : Prop :=
  producer.trackedSequences.contains sequence = true ∨ sequence ≤ producer.replayFloor

/-- Nothing of what a producer answers from is lost. -/
structure ProducerRecord.Extends (before after : ProducerRecord) : Prop where
  covers : ∀ sequence, before.admitted = true → before.Covers sequence → after.admitted = true ∧ after.Covers sequence
  conflicts : ∀ sequence, before.conflicts.contains sequence = true → after.conflicts.contains sequence = true

section Producers

variable {before after producer : ProducerRecord} {sequence : UInt64}

lemma ProducerRecord.Extends.refl (producer : ProducerRecord) : producer.Extends producer :=
  ⟨fun _ ha hc => ⟨ha, hc⟩, fun _ h => h⟩

lemma ProducerRecord.Extends.trans {last : ProducerRecord} (h : before.Extends after)
    (h' : after.Extends last) : before.Extends last := by
  refine ⟨?_, fun sequence hc => h'.conflicts _ (h.conflicts _ hc)⟩
  intro sequence ha hco
  obtain ⟨ha', hc'⟩ := h.covers sequence ha hco
  exact h'.covers sequence ha' hc'

lemma floor_le_max (a b : UInt64) : a ≤ max a b := by
  show a ≤ if a ≤ b then b else a
  split
  · assumption
  · exact UInt64.le_refl a

lemma sequence_le_max (a b : UInt64) : b ≤ max a b := by
  show b ≤ if a ≤ b then b else a
  split
  · exact UInt64.le_refl b
  · rename_i h
    exact UInt64.le_of_lt (UInt64.not_le.mp h)

lemma ProducerRecord.Covers.forget (h : producer.Covers sequence) (other : UInt64) :
    (producer.forget other).Covers sequence := by
  rcases h with ht | hf
  · by_cases he : other = sequence
    · right
      rw [← he]
      exact sequence_le_max _ _
    · left
      rw [ProducerRecord.forget, ExtTreeMap.contains_erase, ht]
      simpa using he
  · right
    exact UInt64.le_trans hf (floor_le_max _ _)

lemma Forgets.covers (h : Forgets before after) (hc : before.Covers sequence) : after.Covers sequence := by
  induction h with
  | refl => exact hc
  | tail _ hl ih =>
    obtain ⟨other, rfl⟩ := hl
    exact ih.forget other

lemma Forgets.extends (h : Forgets before after) : before.Extends after := by
  refine ⟨fun sequence ha hc => ⟨?_, h.covers hc⟩, fun sequence hco => ?_⟩
  · rw [h.frame]
    exact ha
  · rw [h.frame]
    exact hco

variable {hash : Digest}

lemma covers_track {now : UInt64} : (producer.track sequence hash now).Covers sequence ∧
      (producer.track sequence hash now).admitted = producer.admitted := by
  rw [ProducerRecord.track, ProducerRecord.enforceQuota]
  constructor
  · refine (forgets_evictOldest _ _).covers ?_
    left
    simp
  · rw [(forgets_evictOldest _ _).frame]

lemma extends_track {now : UInt64} : producer.Extends (producer.track sequence hash now) := by
  rw [ProducerRecord.track, ProducerRecord.enforceQuota]
  refine ProducerRecord.Extends.trans ?_ (forgets_evictOldest _ _).extends
  refine ⟨?_, fun _ hc => hc⟩
  intro other ha hco
  refine ⟨ha, ?_⟩
  rcases hco with ht | hf
  · left
    simp [ht]
  · exact .inr hf

end Producers

/-! ## Contexts -/

/-- What the index has of a session is still there. -/
def Continues (sessionId : SessionId) (before after : Contexts) : Prop :=
  ∀ (context : ContextRecord), before[sessionId]? = some context → ∃ context', after[sessionId]? = some context' ∧
      ∀ (producerId : ProducerId) (producer : ProducerRecord), context.producers[producerId]? = some producer →
          ∃ producer', context'.producers[producerId]? = some producer' ∧ producer.Extends producer'

/-- A producer of a session has something. -/
def Marked (mark : ProducerRecord → Prop) (sessionId : SessionId) (producerId : ProducerId)
    (contexts : Contexts) : Prop :=
  ∃ context producer, contexts[sessionId]? = some context ∧
    context.producers[producerId]? = some producer ∧ mark producer

section Contexts

variable {before after contexts : Contexts} {sessionId : SessionId} {producerId : ProducerId}
  {mark : ProducerRecord → Prop} {context other admitted : ContextRecord} {producer : ProducerRecord}
  {batch : TelemetryBatch}

lemma Continues.refl (contexts : Contexts) : Continues sessionId contexts contexts := by
  intro context hl
  exact ⟨context, hl, fun producerId producer hp => ⟨producer, hp, .refl _⟩⟩

lemma Marked.continues (h : Marked mark sessionId producerId before) (hcont : Continues sessionId before after)
    (hmark : ∀ producer producer', producer.Extends producer' → mark producer → mark producer') :
    Marked mark sessionId producerId after := by
  obtain ⟨context, producer, hlook, hprod, hmarke⟩ := h
  obtain ⟨context', hlook', hprodu⟩ := hcont context hlook
  obtain ⟨producer', hprod', hexte⟩ := hprodu producerId producer hprod
  exact ⟨context', producer', hlook', hprod', hmark _ _ hexte hmarke⟩

variable {session : SessionId}

lemma Continues.insert (hl : contexts[session]? = some context)
    (hp : ∀ (producerId : ProducerId) (producer : ProducerRecord),
      context.producers[producerId]? = some producer →
        ∃ producer', other.producers[producerId]? = some producer' ∧ producer.Extends producer') :
    Continues sessionId contexts (contexts.insert session other) := by
  intro found hf
  by_cases he : session = sessionId
  · subst he
    rw [hl] at hf
    cases hf
    exact ⟨other, ExtTreeMap.getElem?_insert_self, hp⟩
  · refine ⟨found, ?_, fun producerId producer hpr => ⟨producer, hpr, .refl _⟩⟩
    rw [getElem?_insert, if_neg he]
    exact hf

lemma Continues.insert_of_ne (hn : session ≠ sessionId) :
    Continues sessionId contexts (contexts.insert session other) := by
  intro found hf
  refine ⟨found, ?_, fun producerId producer hp => ⟨producer, hp, .refl _⟩⟩
  rw [getElem?_insert, if_neg hn]
  exact hf

variable {change : ProducerRecord}

lemma extends_insert (hc : ∀ known, context.producers[producerId]? = some known → known.Extends change)
    (id : ProducerId) (known : ProducerRecord) (hk : context.producers[id]? = some known) :
    ∃ producer', (context.producers.insert producerId change)[id]? = some producer' ∧ known.Extends producer' := by
  rw [getElem?_insert]
  split
  · rename_i he
    subst he
    exact ⟨change, rfl, hc known hk⟩
  · exact ⟨known, hk, .refl _⟩

lemma continues_pruneContexts (threshold : UInt64) :
    Continues sessionId contexts (pruneContexts threshold contexts) := by
  intro context hl
  refine ⟨context.prune threshold, ?_, ?_⟩
  · simp [pruneContexts, hl]
  · intro producerId producer hp
    refine ⟨producer.prune threshold, ?_, (forgets_prune threshold producer).extends⟩
    simp [ContextRecord.prune, hp]

lemma admitProducer_extends (h : admitProducer context batch = .ok (admitted, producer)) :
    admitted.producers = context.producers ∧ producer.admitted ∧
      ∀ known, context.producers[batch.producerId]? = some known →
        known.Extends producer ∧ producer.conflicts = known.conflicts ∧ (known.admitted → producer = known) := by
  rcases admitProducer_eq_ok h with ⟨rfl, hl, ha⟩ | ⟨ha, -, -, -, rfl, rfl⟩
  · refine ⟨rfl, ha, ?_⟩
    intro known hk
    rw [hl] at hk
    cases hk
    exact ⟨.refl _, rfl, fun _ => rfl⟩
  · refine ⟨rfl, rfl, ?_⟩
    intro known hk
    rw [hk, Option.getD_some] at ha ⊢
    have hf : known.admitted ≠ true := by
      rw [ha]
      exact Bool.false_ne_true
    exact ⟨⟨fun _ h => absurd h hf, fun _ h => h⟩, rfl, fun h => absurd h hf⟩

lemma Continues.setProducer (hl : contexts[batch.sessionId]? = some context)
    (hp : admitProducer context batch = .ok (admitted, producer)) (hc : producer.Extends change) :
    Continues sessionId contexts (contexts.insert batch.sessionId
      { admitted with producers := admitted.producers.insert batch.producerId change }) := by
  obtain ⟨hpr, -, hk⟩ := admitProducer_extends hp
  refine Continues.insert hl ?_
  rw [hpr]
  exact extends_insert fun known hl => (hk known hl).1.trans hc

/-- A sequence of a producer is in conflict. -/
def Disputed (sessionId : SessionId) (producerId : ProducerId) (sequence : UInt64) : Contexts → Prop :=
  Marked (fun producer => producer.conflicts.contains sequence = true) sessionId producerId

/-- Every conflict of the second index is one of the first. -/
def NoNewDispute (before after : Contexts) : Prop :=
  ∀ sessionId producerId sequence, Disputed sessionId producerId sequence after →
    Disputed sessionId producerId sequence before

lemma NoNewDispute.refl (contexts : Contexts) : NoNewDispute contexts contexts :=
  fun _ _ _ h => h

lemma NoNewDispute.trans {last : Contexts} (h : NoNewDispute before after)
    (h' : NoNewDispute after last) : NoNewDispute before last :=
  fun sessionId producerId sequence hl => h _ _ _ (h' sessionId producerId sequence hl)

lemma NoNewDispute.insert (hp : ∀ (producerId : ProducerId) (producer : ProducerRecord) (sequence : UInt64),
      other.producers[producerId]? = some producer → producer.conflicts.contains sequence →
        Disputed session producerId sequence contexts) : NoNewDispute contexts (contexts.insert session other) := by
  rintro sessionId producerId sequence ⟨found, producer, hl, hpr, hc⟩
  rw [getElem?_insert] at hl
  split at hl
  · rename_i he
    subst he
    cases hl
    exact hp producerId producer sequence hpr hc
  · exact ⟨found, producer, hl, hpr, hc⟩

lemma noNewDispute_erase (session : SessionId) : NoNewDispute contexts (contexts.erase session) := by
  rintro sessionId producerId sequence ⟨found, producer, hl, hp, hc⟩
  rw [ExtTreeMap.getElem?_erase] at hl
  split at hl
  · cases hl
  · exact ⟨found, producer, hl, hp, hc⟩

lemma noNewDispute_pruneContexts (threshold : UInt64) : NoNewDispute contexts (pruneContexts threshold contexts) := by
  rintro sessionId producerId sequence ⟨found, producer, hl, hp, hc⟩
  simp only [pruneContexts, ExtTreeMap.getElem?_map, Option.map_eq_some_iff] at hl
  obtain ⟨context, hl, rfl⟩ := hl
  simp only [ContextRecord.prune, ExtTreeMap.getElem?_map, Option.map_eq_some_iff] at hp
  obtain ⟨producer, hp, rfl⟩ := hp
  rw [(forgets_prune threshold producer).frame] at hc
  exact ⟨context, producer, hl, hp, hc⟩

lemma NoNewDispute.setProducer (hl : contexts[batch.sessionId]? = some context)
    (hp : admitProducer context batch = .ok (admitted, producer))
    (hc : change.conflicts = producer.conflicts) : NoNewDispute contexts (contexts.insert batch.sessionId
      { admitted with producers := admitted.producers.insert batch.producerId change }) := by
  refine NoNewDispute.insert ?_
  intro producerId found sequence hf hco
  rcases admitProducer_eq_ok hp with ⟨rfl, hk, -⟩ | ⟨-, -, -, -, rfl, rfl⟩
  · simp only [getElem?_insert] at hf
    split at hf
    · rename_i he
      subst he
      cases hf
      rw [hc] at hco
      exact ⟨admitted, producer, hl, hk, hco⟩
    · exact ⟨admitted, found, hl, hf, hco⟩
  · simp only [getElem?_insert] at hf
    split at hf
    · rename_i he
      subst he
      cases hf
      rw [hc] at hco
      cases hk : context.producers[batch.producerId]? with
      | none =>
        rw [hk] at hco
        exact absurd hco Bool.false_ne_true
      | some known =>
        rw [hk] at hco
        exact ⟨context, known, hl, hk, hco⟩
    · exact ⟨context, found, hl, hf, hco⟩

end Contexts

/-! ## Operations -/

/-- The operation ends the authorization of a session. -/
def JournalOp.Ends (sessionId : SessionId) : JournalOp → Prop
  | .stopAuthorization session _ => session = sessionId
  | .removeContext session _ => session = sessionId
  | _ => False

def ProcessOp.Ends (sessionId : SessionId) : ProcessOp → Prop
  | .call op => op.Ends sessionId
  | .restart => False

section Operations

variable {sha256 : Bytes → Digest} {iteration : Iteration} {store : Store} {sessionId : SessionId}

variable {op : JournalOp}

/-- Only a reopening opens a journal. -/
lemma isOpen_step (hop : ∀ now calls, op ≠ .reopen now calls)
    (h : (store.step sha256 iteration op).journal.isOpen) : store.journal.isOpen := by
  by_contra hc
  rw [Bool.not_eq_true] at hc
  cases op with
  | recordBatch batch now calls =>
    simp only [step, recordBatch, hc, Bool.not_false, if_true] at h
    exact absurd h Bool.false_ne_true
  | reopen now calls => exact hop now calls rfl
  | setDiskFailureInjection enable
  | setSegmentSizeLimitForTesting bytes => exact absurd (hc.symm.trans h) Bool.false_ne_true
  | _ =>
    simp [step, authorizeContext, stopAuthorization, removeContext, retireProducer,
      pruneExpiredLocked, closeLocked, hc] at h

lemma continues_recordBatch {calls : RecordCalls} {batch : TelemetryBatch} {now : UInt64} :
    Continues sessionId store.journal.contexts
      (recordBatch sha256 iteration calls store.journal store.directory batch now).journal.contexts := by
  have hexit := @recordBatch_exit sha256 iteration calls store.journal store.directory batch now
  revert hexit
  generalize recordBatch sha256 iteration calls store.journal store.directory batch now = outcome
  intro hexit
  cases hexit with
  | refused hstat => exact .refl _
  | answered hpass hansw => exact .setProducer hpass.lookup hpass.producerOk (.refl _)
  | conflicted hpass hreti hconf htrac hne hstat =>
    simp only [contexts_setProducer, insert_insert_self]
    refine .setProducer hpass.lookup hpass.producerOk ⟨fun _ ha hc => ⟨ha, hc⟩, ?_⟩
    intro sequence hknown
    simp [hknown]
  | unopened hpass hunse hstat | torn hpass hunse hflus hstat =>
    simp only [roomFor, contexts_makeRoom]
    exact .setProducer hpass.lookup hpass.producerOk (.refl _)
  | accepted hpass hunse hinje hsucc hstat =>
    rw [contexts_storedJournal]
    exact .setProducer hpass.lookup hpass.producerOk extends_track

/-- **What the index has of a session stays until the session is ended.** -/
lemma continues_step (hop : ∀ now calls, op ≠ .reopen now calls) (hends : ¬ op.Ends sessionId) :
    Continues sessionId store.journal.contexts (store.step sha256 iteration op).journal.contexts := by
  cases op with
  | authorizeContext session time answer =>
    simp only [step, authorizeContext]
    split
    · exact .refl _
    · split
      · exact .refl _
      · rw [journal_persistOutcome]
        cases hlook : store.journal.contexts[session]? with
        | some context =>
          exact .insert hlook fun _ producer hprod => ⟨producer, hprod, .refl _⟩
        | none =>
          intro context hcont
          by_cases heq : session = sessionId
          · rw [← heq, hlook] at hcont
            cases hcont
          · exact Continues.insert_of_ne heq context hcont
  | stopAuthorization session answer =>
    simp only [step, stopAuthorization]
    split
    · exact .refl _
    · split
      · exact .refl _
      · rw [journal_persistOutcome]
        exact .insert_of_ne hends
  | removeContext session answer =>
    simp only [step, removeContext]
    split
    · exact .refl _
    · rw [journal_persistOutcome]
      intro context hlook
      refine ⟨context, ?_, fun _ producer hprod => ⟨producer, hprod, .refl _⟩⟩
      have hne : ¬ session = sessionId := hends
      simp only [ExtTreeMap.getElem?_erase]
      rw [if_neg (by simpa using hne)]
      exact hlook
  | retireProducer session producerId answer =>
    simp only [step, retireProducer]
    split
    · exact .refl _
    · split
      · exact .refl _
      · rename_i context hlook
        split
        · exact .refl _
        · rename_i producer hprod
          rw [journal_persistOutcome]
          refine .insert hlook (extends_insert ?_)
          intro known hknown
          rw [hprod] at hknown
          cases hknown
          exact ⟨fun _ ha hc => ⟨ha, hc⟩, fun _ hconf => hconf⟩
  | recordBatch batch now calls => exact continues_recordBatch
  | pruneExpired now answer =>
    rcases @contexts_pruneExpiredLocked sha256 iteration answer store.journal store.directory now with
      hsame | hprun
    · simp only [step, hsame]
      exact .refl _
    · simp only [step, hprun]
      exact continues_pruneContexts _
  | close answer =>
    simp only [step, contexts_closeLocked]
    exact .refl _
  | reopen now calls => exact absurd rfl (hop now calls)
  | setDiskFailureInjection enable | setSegmentSizeLimitForTesting bytes => exact .refl _

/-- Only a batch brings a new dispute. -/
lemma noNewDispute_step (hop : ∀ now calls, op ≠ .reopen now calls)
    (hb : ∀ batch now calls, op ≠ .recordBatch batch now calls) :
    NoNewDispute store.journal.contexts (store.step sha256 iteration op).journal.contexts := by
  cases op with
  | authorizeContext session time answer =>
    simp only [step, authorizeContext]
    split
    · exact .refl _
    · split
      · exact .refl _
      · rw [journal_persistOutcome]
        refine .insert ?_
        intro producerId producer sequence hp hc
        cases hl : store.journal.contexts[session]? with
        | none =>
          rw [hl] at hp
          cases hp
        | some context =>
          rw [hl] at hp
          exact ⟨context, producer, hl, hp, hc⟩
  | stopAuthorization session answer =>
    simp only [step, stopAuthorization]
    split
    · exact .refl _
    · split
      · exact .refl _
      · rw [journal_persistOutcome]
        refine .insert ?_
        intro producerId producer sequence hp hc
        simp only [ContextRecord.stop, ExtTreeMap.getElem?_map, Option.map_eq_some_iff] at hp
        obtain ⟨known, -, rfl⟩ := hp
        exact absurd hc Bool.false_ne_true
  | removeContext session answer =>
    simp only [step, removeContext]
    split
    · exact .refl _
    · rw [journal_persistOutcome]
      exact noNewDispute_erase session
  | retireProducer session producerId answer =>
    simp only [step, retireProducer]
    split
    · exact .refl _
    · split
      · exact .refl _
      · rename_i context hl
        split
        · exact .refl _
        · rename_i producer hp
          rw [journal_persistOutcome]
          refine .insert ?_
          intro id found sequence hf hc
          simp only [getElem?_insert] at hf
          split at hf
          · rename_i he
            subst he
            cases hf
            exact ⟨context, producer, hl, hp, hc⟩
          · exact ⟨context, found, hl, hf, hc⟩
  | recordBatch batch now calls => exact absurd rfl (hb batch now calls)
  | pruneExpired now answer =>
    rcases @contexts_pruneExpiredLocked sha256 iteration answer store.journal store.directory now with
      hs | hpr
    · simp only [step, hs]
      exact .refl _
    · simp only [step, hpr]
      exact noNewDispute_pruneContexts _
  | close answer =>
    simp only [step, contexts_closeLocked]
    exact .refl _
  | reopen now calls => exact absurd rfl (hop now calls)
  | setDiskFailureInjection enable | setSegmentSizeLimitForTesting bytes => exact .refl _

lemma disputed_iff_of_passed {journal : TelemetryJournal} {batch : TelemetryBatch} {now : UInt64}
    {context admitted : ContextRecord} {producer : ProducerRecord} {hash : Digest}
    (hp : Passed sha256 journal batch now context admitted producer hash) :
    Disputed batch.sessionId batch.producerId batch.sequence journal.contexts ↔
      producer.conflicts.contains batch.sequence := by
  obtain ⟨-, -, hk⟩ := admitProducer_extends hp.producerOk
  constructor
  · rintro ⟨found, known, hl, hpr, hc⟩
    rw [hp.lookup] at hl
    cases hl
    rw [(hk known hpr).2.1]
    exact hc
  · intro hc
    rcases admitProducer_eq_ok hp.producerOk with ⟨rfl, hl, -⟩ | ⟨-, -, -, -, rfl, rfl⟩
    · exact ⟨admitted, producer, hp.lookup, hl, hc⟩
    · cases hl : context.producers[batch.producerId]? with
      | none =>
        rw [hl] at hc
        exact absurd hc Bool.false_ne_true
      | some known =>
        rw [hl] at hc
        exact ⟨context, known, hp.lookup, hl, hc⟩

end Operations

/-! ## Writes that succeed -/

/-- The metadata writes that matter succeed, and what is opened again loads: a batch that is accepted
or that makes a new conflict is written to the index file, and the file of a reopening can be read. -/
def JournalOp.Durable (sha256 : Bytes → Digest) (iteration : Iteration) (store : Store) : JournalOp → Prop
  | .recordBatch batch now calls =>
    let outcome := Telemetry.recordBatch sha256 iteration calls store.journal store.directory batch now
    outcome.value.status = .accepted ∨ outcome.value.status = .conflict ∧
          ¬ Disputed batch.sessionId batch.producerId batch.sequence store.journal.contexts →
      ∃ after, persistMetadata sha256 iteration calls.persist outcome.journal store.directory = .ok after
  | .reopen _ calls =>
    calls.metadataReadable = true ∧ ∀ wire, (closeLocked sha256 iteration calls.closePersist store.journal
          store.directory).2.metadata = some wire →
        wire.length ≤ kMaximumIndexSizeBytes
  | _ => True

def DurableFrom (sha256 : Bytes → Digest) (iteration : Iteration) : Store → List ProcessOp → Prop
  | _, [] => True
  | store, .call op :: ops =>
    op.Durable sha256 iteration store ∧ DurableFrom sha256 iteration (store.step sha256 iteration op) ops
  | store, .restart :: ops =>
    DurableFrom sha256 iteration (store.process sha256 iteration .restart) ops

/-- What a fresh process finds in the metadata file. -/
def Filed (sha256 : Bytes → Digest) (iteration : Iteration) (directory : Directory) (contexts : Contexts) : Prop :=
  directory.metadata = none ∧ contexts = ∅ ∨
    ∃ stored, directory.Holds sha256 iteration stored ∧ stored.contexts = contexts

section Durable

variable {sha256 : Bytes → Digest} {iteration : Iteration} {store before after : Store}
  {journal : TelemetryJournal} {directory other : Directory} {filed : Contexts}

lemma holds_persistIgnored {answer : PersistAnswer}
    (h : ∃ after, persistMetadata sha256 iteration answer journal directory = .ok after) :
    (persistIgnored sha256 iteration answer journal other).Holds sha256 iteration journal := by
  obtain ⟨after, hp⟩ := h
  have ha : answer = .written ∧ journal.diskFailureInjection = false := by
    simp only [persistMetadata] at hp
    split at hp
    · cases hp
    · rename_i hi
      split at hp
      · cases hp
      · cases answer <;> cases hp
        exact ⟨rfl, by simpa using hi⟩
  obtain ⟨rfl, hi⟩ := ha
  have hw := @persistMetadata_written sha256 iteration journal other hi
    (persistMetadata_eq_ok hp).1
  simp only [persistIgnored, hw]
  rfl

lemma Filed.of_metadata (h : Filed sha256 iteration directory filed)
    (hs : other.metadata = directory.metadata) : Filed sha256 iteration other filed := by
  simp only [Filed, Directory.Holds, hs] at *
  exact h

lemma Filed.fileStep (h : Filed sha256 iteration before.directory filed)
    (hs : FileStep sha256 iteration before after) :
    Filed sha256 iteration after.directory filed ∨ before.journal.isOpen ∧
        Filed sha256 iteration after.directory before.journal.contexts ∨
      after.journal.isOpen ∧ Filed sha256 iteration after.directory after.journal.contexts := by
  rcases hs with hsa | ⟨stored, hh, ⟨ho, hc⟩ | ⟨ho, hc⟩⟩
  · exact .inl (h.of_metadata hsa)
  · exact .inr (.inl ⟨ho, .inr ⟨stored, hh, hc⟩⟩)
  · exact .inr (.inr ⟨ho, .inr ⟨stored, hh, hc⟩⟩)

lemma Filed.close (h : Filed sha256 iteration store.directory filed) (answer : PersistAnswer) :
    ∃ kept, (kept = filed ∨ store.journal.isOpen ∧ kept = store.journal.contexts) ∧
      Filed sha256 iteration (closeLocked sha256 iteration answer store.journal store.directory).2 kept := by
  rcases @metadata_closeLocked sha256 iteration answer store.journal store.directory with
    hs | ⟨ho, hh⟩
  · exact ⟨filed, .inl rfl, h.of_metadata hs⟩
  · exact ⟨_, .inr ⟨ho, rfl⟩, .inr ⟨_, hh, rfl⟩⟩

lemma Filed.load (h : Filed sha256 iteration directory filed) (hk : Keyed filed)
    (hs : ∀ wire, directory.metadata = some wire → wire.length ≤ kMaximumIndexSizeBytes) :
    (loadMetadata sha256 true directory journal).contexts = filed ∨
      filed = ∅ ∧ (loadMetadata sha256 true directory journal).contexts = journal.contexts := by
  rcases h with ⟨hn, rfl⟩ | ⟨stored, hh, rfl⟩
  · right
    simp only [loadMetadata, hn, and_self]
  · left
    refine hh.load hk ?_
    rw [← @length_metadata sha256 iteration]
    exact hs _ hh

lemma isOpen_closeLocked {answer : PersistAnswer} :
    (closeLocked sha256 iteration answer journal directory).1.isOpen = false := by
  simp only [closeLocked]
  split
  · rename_i h
    simpa using h
  · rfl

lemma Filed.reopen {kept : Contexts} {now : UInt64} {calls : OpenCalls} (h : Filed sha256 iteration
      (closeLocked sha256 iteration calls.closePersist store.journal store.directory).2 kept)
    (hkeyed : Keyed kept)
    (hdura : (JournalOp.reopen now calls).Durable sha256 iteration store) :
    let after := store.step sha256 iteration (.reopen now calls)
    after.journal.isOpen = false ∧ after.journal.contexts = store.journal.contexts ∧
        Filed sha256 iteration after.directory kept ∨
      ∃ loaded, (loaded = kept ∨ kept = ∅ ∧ loaded = store.journal.contexts) ∧ (after.journal.contexts = loaded ∨
          ∃ threshold, after.journal.contexts = pruneContexts threshold loaded) ∧
        (Filed sha256 iteration after.directory kept ∨
          Filed sha256 iteration after.directory after.journal.contexts) := by
  have hclos := @contexts_closeLocked sha256 iteration calls.closePersist store.journal store.directory
  have hisCl := @isOpen_closeLocked sha256 iteration store.journal store.directory calls.closePersist
  obtain ⟨hread, hsize⟩ := hdura
  simp only [step, Telemetry.reopen]
  generalize closeLocked sha256 iteration calls.closePersist store.journal store.directory = closed at *
  obtain ⟨journal, directory⟩ := closed
  simp only at h hclos hisCl hsize ⊢
  have hfile := @metadata_openDirectory sha256 iteration journal directory calls now
  simp only at hfile
  have hfiled : Filed sha256 iteration (openDirectory sha256 iteration calls now journal directory).directory kept ∨
        Filed sha256 iteration (openDirectory sha256 iteration calls now journal directory).directory
          (openDirectory sha256 iteration calls now journal directory).journal.contexts := by
    rcases hfile with hsame | ⟨stored, hholds, -, hcont⟩
    · exact .inl (h.of_metadata hsame)
    · exact .inr (.inr ⟨stored, hholds, hcont⟩)
  have hload := @Filed.load sha256 iteration journal directory kept h hkeyed hsize
  cases hcrea : calls.createError with
  | some message =>
    left
    simp only [openDirectory, hcrea]
    exact ⟨hisCl, hclos, h⟩
  | none =>
    right
    refine ⟨(loadMetadata sha256 true directory journal).contexts, ?_, ?_, hfiled⟩
    · rw [← hclos]
      exact hload
    · simp only [openDirectory, hcrea]
      split
      · rcases @contexts_pruneExpiredLocked sha256 iteration calls.prunePersist
          (openFiles sha256 calls journal directory).1 (openFiles sha256 calls journal directory).2
          now with hsame | hprun
        · left
          rw [hsame, contexts_openFiles, hread]
        · right
          refine ⟨retentionThreshold now, ?_⟩
          rw [hprun, contexts_openFiles, hread]
      · left
        rw [contexts_openFiles, hread]

lemma keyed_process (h : Keyed store.journal.contexts) (op : ProcessOp) :
    Keyed (store.process sha256 iteration op).journal.contexts := by
  cases op with
  | call op =>
    exact IndexSteps.preserve (fun _ _ hk hs => hk.indexStep hs) (steps_step op) h
  | restart =>
    intro sessionId context hl
    cases hl

/-! ## Every conflict is on the disk -/

/-- The file has every conflict of the index. -/
structure Recorded (sha256 : Bytes → Digest) (iteration : Iteration) (store : Store) : Prop where
  keyed : Keyed store.journal.contexts
  file : ∃ filed, Filed sha256 iteration store.directory filed ∧ Keyed filed ∧
    NoNewDispute filed store.journal.contexts

lemma noNewDispute_recordBatch {batch : TelemetryBatch} {now : UInt64} {calls : RecordCalls}
    (hdura : (JournalOp.recordBatch batch now calls).Durable sha256 iteration store) :
    let outcome := recordBatch sha256 iteration calls store.journal store.directory batch now
    NoNewDispute store.journal.contexts outcome.journal.contexts ∨
      outcome.directory.Holds sha256 iteration outcome.journal := by
  have hexit := @recordBatch_exit sha256 iteration calls store.journal store.directory batch now
  simp only [JournalOp.Durable] at hdura
  revert hexit hdura
  generalize recordBatch sha256 iteration calls store.journal store.directory batch now = outcome
  intro hdura hexit
  cases hexit with
  | refused hstat => exact .inl (.refl _)
  | answered hpass hansw => exact .inl (.setProducer hpass.lookup hpass.producerOk rfl)
  | conflicted hpass hreti hconf htrac hne hstat =>
    right
    refine holds_persistIgnored (hdura (.inr ⟨hstat, ?_⟩))
    rw [disputed_iff_of_passed hpass, hconf]
    exact Bool.false_ne_true
  | unopened hpass hunse hstat | torn hpass hunse hflus hstat =>
    simp only [roomFor, contexts_makeRoom]
    exact .inl (.setProducer hpass.lookup hpass.producerOk rfl)
  | accepted hpass hunse hinje hsucc hstat =>
    left
    show NoNewDispute _ (storedJournal sha256 calls store.journal store.directory batch now _ _ _).contexts
    rw [contexts_storedJournal]
    exact .setProducer hpass.lookup hpass.producerOk conflicts_track

lemma Recorded.reopen (h : Recorded sha256 iteration store) {now : UInt64} {calls : OpenCalls}
    (hdura : (JournalOp.reopen now calls).Durable sha256 iteration store) :
    Recorded sha256 iteration (store.step sha256 iteration (.reopen now calls)) := by
  have hkeyed' := @keyed_process sha256 iteration store h.keyed (.call (.reopen now calls))
  obtain ⟨filed, hfiled, hkeyed, hnone⟩ := h.file
  obtain ⟨kept, hkept, hclos⟩ := hfiled.close calls.closePersist
  have hkeye : Keyed kept := by
    rcases hkept with rfl | ⟨-, rfl⟩
    · exact hkeyed
    · exact h.keyed
  have hnoneK : NoNewDispute kept store.journal.contexts := by
    rcases hkept with rfl | ⟨-, rfl⟩
    · exact hnone
    · exact .refl _
  refine ⟨hkeyed', ?_⟩
  rcases hclos.reopen hkeye hdura with
    ⟨-, hcont, hafter⟩ | ⟨loaded, hload, hcont, hafter⟩
  · exact ⟨kept, hafter, hkeye, hcont ▸ hnoneK⟩
  · have hnoneL : NoNewDispute kept loaded := by
      rcases hload with rfl | ⟨-, rfl⟩
      · exact .refl _
      · exact hnoneK
    have hnoneA : NoNewDispute kept (store.step sha256 iteration (.reopen now calls)).journal.contexts := by
      rcases hcont with hsame | ⟨threshold, hprun⟩
      · rw [hsame]
        exact hnoneL
      · rw [hprun]
        exact hnoneL.trans (noNewDispute_pruneContexts threshold)
    rcases hafter with hafter | hafter
    · exact ⟨kept, hafter, hkeye, hnoneA⟩
    · exact ⟨_, hafter, hkeyed', .refl _⟩

/-- A durable operation keeps the index recorded. -/
lemma Recorded.step (h : Recorded sha256 iteration store) {op : JournalOp}
    (hdura : op.Durable sha256 iteration store) : Recorded sha256 iteration (store.step sha256 iteration op) := by
  by_cases hop : ∃ now calls, op = .reopen now calls
  · obtain ⟨now, calls, rfl⟩ := hop
    exact h.reopen hdura
  · have hkeyed' := @keyed_process sha256 iteration store h.keyed (.call op)
    obtain ⟨filed, hfiled, hkeyed, hnone⟩ := h.file
    have hnew : NoNewDispute store.journal.contexts (store.step sha256 iteration op).journal.contexts ∨
        Filed sha256 iteration (store.step sha256 iteration op).directory
          (store.step sha256 iteration op).journal.contexts := by
      by_cases hbatch : ∃ batch now calls, op = .recordBatch batch now calls
      · obtain ⟨batch, now, calls, rfl⟩ := hbatch
        rcases noNewDispute_recordBatch hdura with hbefo | hholds
        · exact .inl hbefo
        · exact .inr (.inr ⟨_, hholds, rfl⟩)
      · left
        refine noNewDispute_step (fun now calls heq => hop ⟨now, calls, heq⟩) ?_
        exact fun batch now calls heq => hbatch ⟨batch, now, calls, heq⟩
    refine ⟨hkeyed', ?_⟩
    rcases hnew with hbefo | hafter
    · rcases hfiled.fileStep (fileStep_step op) with hsame | ⟨-, hold⟩ | ⟨-, hafter⟩
      · exact ⟨filed, hsame, hkeyed, hnone.trans hbefo⟩
      · exact ⟨_, hold, h.keyed, hbefo⟩
      · exact ⟨_, hafter, hkeyed', .refl _⟩
    · exact ⟨_, hafter, hkeyed', .refl _⟩

lemma Recorded.foldl (ops : List ProcessOp) (h : Recorded sha256 iteration store)
    (hd : DurableFrom sha256 iteration store ops) :
    Recorded sha256 iteration (ops.foldl (process sha256 iteration) store) := by
  induction ops generalizing store with
  | nil => exact h
  | cons op ops ih =>
    cases op with
    | call op => exact ih (h.step hd.1) hd.2
    | restart =>
      obtain ⟨filed, hf, hk, -⟩ := h.file
      refine ih ⟨keyed_process h.keyed .restart, filed, hf, hk, ?_⟩ hd
      rintro sessionId producerId sequence ⟨context, producer, hl, -, -⟩
      cases hl

lemma recorded_initial : Recorded sha256 iteration .initial := by
  have he : Keyed ∅ := by
    intro sessionId context hl
    cases hl
  exact ⟨he, ∅, .inl ⟨rfl, rfl⟩, he, .refl _⟩

/-! ## Marks are kept -/

/-- A mark of a producer is in the index of an open journal, and in the file. -/
structure Kept (sha256 : Bytes → Digest) (iteration : Iteration) (mark : ProducerRecord → Prop)
    (sessionId : SessionId) (producerId : ProducerId) (store : Store) : Prop where
  keyed : Keyed store.journal.contexts
  memory : store.journal.isOpen = true → Marked mark sessionId producerId store.journal.contexts
  file : ∃ filed, Filed sha256 iteration store.directory filed ∧ Keyed filed ∧
    Marked mark sessionId producerId filed

section Kept

variable {mark : ProducerRecord → Prop} {sessionId : SessionId} {producerId : ProducerId}
  (hmark : ∀ producer producer', producer.Extends producer' → mark producer → mark producer')

lemma not_marked_empty : ¬ Marked mark sessionId producerId ∅ := by
  rintro ⟨context, producer, hl, -, -⟩
  cases hl

include hmark in
lemma Kept.reopen (h : Kept sha256 iteration mark sessionId producerId store) {now : UInt64}
    {calls : OpenCalls} (hdura : (JournalOp.reopen now calls).Durable sha256 iteration store) :
    Kept sha256 iteration mark sessionId producerId (store.step sha256 iteration (.reopen now calls)) := by
  have hkeyed' := @keyed_process sha256 iteration store h.keyed (.call (.reopen now calls))
  obtain ⟨filed, hfiled, hkeyed, hmarke⟩ := h.file
  obtain ⟨kept, hkept, hclos⟩ := hfiled.close calls.closePersist
  have hkeptM : Keyed kept ∧ Marked mark sessionId producerId kept := by
    rcases hkept with rfl | ⟨hopen, rfl⟩
    · exact ⟨hkeyed, hmarke⟩
    · exact ⟨h.keyed, h.memory hopen⟩
  rcases hclos.reopen hkeptM.1 hdura with
    ⟨hisCl, -, hafter⟩ | ⟨loaded, hload, hcont, hafter⟩
  · refine ⟨hkeyed', ?_, kept, hafter, hkeptM⟩
    intro hopen
    rw [hisCl] at hopen
    cases hopen
  · have hloade : Marked mark sessionId producerId loaded := by
      rcases hload with rfl | ⟨rfl, -⟩
      · exact hkeptM.2
      · exact absurd hkeptM.2 not_marked_empty
    have hafte : Marked mark sessionId producerId
        (store.step sha256 iteration (.reopen now calls)).journal.contexts := by
      rcases hcont with hsame | ⟨threshold, hprun⟩
      · rw [hsame]
        exact hloade
      · rw [hprun]
        exact hloade.continues (continues_pruneContexts threshold) hmark
    refine ⟨hkeyed', fun _ => hafte, ?_⟩
    rcases hafter with hafter | hafter
    · exact ⟨kept, hafter, hkeptM⟩
    · exact ⟨_, hafter, hkeyed', hafte⟩

include hmark in
/-- A mark outlives a durable operation, but not its session's end. -/
lemma Kept.step (h : Kept sha256 iteration mark sessionId producerId store) {op : JournalOp}
    (hends : ¬ op.Ends sessionId) (hdura : op.Durable sha256 iteration store) :
    Kept sha256 iteration mark sessionId producerId (store.step sha256 iteration op) := by
  by_cases hop : ∃ now calls, op = .reopen now calls
  · obtain ⟨now, calls, rfl⟩ := hop
    exact h.reopen hmark hdura
  · have hkeyed' := @keyed_process sha256 iteration store h.keyed (.call op)
    have hop' : ∀ now calls, op ≠ .reopen now calls := fun now calls heq => hop ⟨now, calls, heq⟩
    have hmemo : (store.step sha256 iteration op).journal.isOpen →
        Marked mark sessionId producerId (store.step sha256 iteration op).journal.contexts := by
      intro hopen
      exact (h.memory (isOpen_step hop' hopen)).continues (continues_step hop' hends) hmark
    obtain ⟨filed, hfiled, hkeyed, hmarke⟩ := h.file
    refine ⟨hkeyed', hmemo, ?_⟩
    rcases hfiled.fileStep (fileStep_step op) with hsame | ⟨hopen, hold⟩ | ⟨hopen, hafter⟩
    · exact ⟨filed, hsame, hkeyed, hmarke⟩
    · exact ⟨_, hold, h.keyed, h.memory hopen⟩
    · exact ⟨_, hafter, hkeyed', hmemo hopen⟩

include hmark in
lemma Kept.foldl (ops : List ProcessOp) (h : Kept sha256 iteration mark sessionId producerId store)
    (he : ∀ op ∈ ops, ¬ op.Ends sessionId) (hd : DurableFrom sha256 iteration store ops) :
    Kept sha256 iteration mark sessionId producerId (ops.foldl (process sha256 iteration) store) := by
  induction ops generalizing store with
  | nil => exact h
  | cons op ops ih =>
    have hr : ∀ op ∈ ops, ¬ op.Ends sessionId :=
      fun op hm => he op (List.mem_cons_of_mem _ hm)
    cases op with
    | call op => exact ih (h.step hmark (he _ List.mem_cons_self) hd.1) hr hd.2
    | restart =>
      refine ih ⟨keyed_process h.keyed .restart, ?_, h.file⟩ hr hd
      intro ho
      cases ho

end Kept

/-! ## What a batch leaves behind -/

/-- The producer is admitted and will not have the sequence accepted. -/
def ProducerRecord.Settled (sequence : UInt64) (producer : ProducerRecord) : Prop :=
  producer.admitted = true ∧ producer.Covers sequence

lemma ProducerRecord.Settled.extends {sequence : UInt64} (producer producer' : ProducerRecord)
    (he : producer.Extends producer') (h : producer.Settled sequence) :
    producer'.Settled sequence := he.covers sequence h.1 h.2

lemma marked_insert {mark : ProducerRecord → Prop} {contexts : Contexts} {sessionId : SessionId}
    {context : ContextRecord} {producerId : ProducerId} {producer : ProducerRecord} (h : mark producer) :
    Marked mark sessionId producerId (contexts.insert sessionId
      { context with producers := context.producers.insert producerId producer }) :=
  ⟨_, producer, ExtTreeMap.getElem?_insert_self, ExtTreeMap.getElem?_insert_self, h⟩

section Batches

variable {batch : TelemetryBatch} {now : UInt64} {calls : RecordCalls}

lemma kept_of_accepted (hkeyed : Keyed store.journal.contexts)
    (hdura : (JournalOp.recordBatch batch now calls).Durable sha256 iteration store)
    (hstat : (recordBatch sha256 iteration calls store.journal store.directory batch now).value.status = .accepted) :
    Kept sha256 iteration (ProducerRecord.Settled batch.sequence) batch.sessionId batch.producerId
      (store.step sha256 iteration (.recordBatch batch now calls)) := by
  have hkeyed' := @keyed_process sha256 iteration store hkeyed (.call (.recordBatch batch now calls))
  have hpers := hdura (.inl hstat)
  obtain ⟨context, admitted, producer, hash, hpass, hunse, hjour, hdire⟩ :=
    recordBatch_accepted hstat
  have hmarke : Marked (ProducerRecord.Settled batch.sequence) batch.sessionId batch.producerId
      (store.step sha256 iteration (.recordBatch batch now calls)).journal.contexts := by
    simp only [step, hjour, contexts_storedJournal]
    refine marked_insert ⟨?_, covers_track.1⟩
    rw [covers_track.2]
    exact (admitProducer_extends hpass.producerOk).2.1
  refine ⟨hkeyed', fun _ => hmarke, _, .inr ⟨_, ?_, rfl⟩, hkeyed', hmarke⟩
  simp only [process, step, hdire, hjour] at hpers ⊢
  exact holds_persistIgnored hpers

lemma disputed_of_conflict (hstat : (recordBatch sha256 iteration calls store.journal store.directory batch
      now).value.status = .conflict) : Disputed batch.sessionId batch.producerId batch.sequence
      (recordBatch sha256 iteration calls store.journal store.directory batch now).journal.contexts := by
  have hexit := @recordBatch_exit sha256 iteration calls store.journal store.directory batch now
  revert hstat hexit
  generalize recordBatch sha256 iteration calls store.journal store.directory batch now = outcome
  intro hstat hexit
  cases hexit with
  | refused hrefu =>
    rcases hrefu with h | h <;> rw [h] at hstat <;> cases hstat
  | answered hpass hansw =>
    rw [hstat] at hansw
    cases hansw with
    | conflict hreti hconf => exact marked_insert hconf
  | conflicted hpass hreti hconf htrac hne hconfl =>
    refine marked_insert ?_
    simp
  | unopened hpass hunse hunav | torn hpass hunse hflus hunav =>
    rw [hunav] at hstat
    cases hstat
  | accepted hpass hunse hinje hsucc hacce =>
    rw [hacce] at hstat
    cases hstat

lemma not_accepted_of_settled (hsett : store.journal.isOpen → Marked (ProducerRecord.Settled batch.sequence)
      batch.sessionId batch.producerId store.journal.contexts) :
    (recordBatch sha256 iteration calls store.journal store.directory batch now).value.status ≠ .accepted := by
  intro hstat
  obtain ⟨found, admitted, known, hash, hpass, hunse, -, -⟩ := recordBatch_accepted hstat
  obtain ⟨context, producer, hlook, hprod, hadmi, hcove⟩ := hsett hpass.isOpen
  rw [hpass.lookup] at hlook
  cases hlook
  have hsame := ((admitProducer_extends hpass.producerOk).2.2 producer hprod).2.2 hadmi
  subst hsame
  rcases hcove with htrac | hfloor
  · rw [ExtTreeMap.contains_eq_isSome_getElem?, hunse.untracked] at htrac
    cases htrac
  · exact absurd hunse.aboveFloor (UInt64.not_lt.mpr hfloor)

lemma not_accepted_of_disputed (hdisp : store.journal.isOpen → Disputed batch.sessionId batch.producerId
      batch.sequence store.journal.contexts) :
    let status := (recordBatch sha256 iteration calls store.journal store.directory batch
      now).value.status
    status ≠ .accepted ∧ status ≠ .duplicate := by
  have hexit := @recordBatch_exit sha256 iteration calls store.journal store.directory batch now
  revert hexit
  generalize recordBatch sha256 iteration calls store.journal store.directory batch now = outcome
  intro hexit
  have hconf : ∀ {context admitted producer hash},
      Passed sha256 store.journal batch now context admitted producer hash →
        producer.conflicts.contains batch.sequence := by
    intro context admitted producer hash hpass
    exact (disputed_iff_of_passed hpass).mp (hdisp hpass.isOpen)
  cases hexit with
  | refused hrefu =>
    rcases hrefu with h | h <;> simp [h]
  | answered hpass hansw =>
    constructor
    · intro hstat
      rw [hstat] at hansw
      cases hansw
    · intro hstat
      rw [hstat] at hansw
      cases hansw with
      | duplicate hreti hnone htrac =>
        rw [hconf hpass] at hnone
        cases hnone
  | conflicted hpass hreti hnone htrac hne hconfl =>
    rw [hconf hpass] at hnone
    cases hnone
  | unopened hpass hunse hunav | torn hpass hunse hflus hunav => simp [hunav]
  | accepted hpass hunse hinje hsucc hacce =>
    have hnone := hunse.noConflict
    rw [hconf hpass] at hnone
    cases hnone

end Batches

lemma DurableFrom.append {ops more : List ProcessOp} (h : DurableFrom sha256 iteration store (ops ++ more)) :
    DurableFrom sha256 iteration store ops ∧
      DurableFrom sha256 iteration (ops.foldl (process sha256 iteration) store) more := by
  induction ops generalizing store with
  | nil => exact ⟨trivial, h⟩
  | cons op ops ih =>
    cases op with
    | call op =>
      obtain ⟨ho, hm⟩ := ih h.2
      exact ⟨⟨h.1, ho⟩, hm⟩
    | restart => exact ih h

end Durable

/-- **A batch is accepted at most once.**  Two calls with the same session, producer and sequence, with
anything in between but the end of the session's authorization, are not both answered with an accept;
and once the answer is a conflict, it is never an accept or a duplicate again. -/
theorem accepted_at_most_once (sha256 : Bytes → Digest) (iteration : Iteration)
    (before between : List ProcessOp) (first second : TelemetryBatch) (now now' : UInt64)
    (calls calls' : RecordCalls)
    (hdurable : DurableFrom sha256 iteration .initial (before ++ .call (.recordBatch first now calls) :: between))
    (hsession : second.sessionId = first.sessionId) (hproducer : second.producerId = first.producerId)
    (hsequence : second.sequence = first.sequence)
    (hbetween : ∀ op ∈ between, ¬ op.Ends first.sessionId) :
    let start := processRun sha256 iteration before
    let later := processRun sha256 iteration (before ++ .call (.recordBatch first now calls) :: between)
    let earlier := (recordBatch sha256 iteration calls start.journal start.directory first
      now).value.status
    let answer := (recordBatch sha256 iteration calls' later.journal later.directory second
      now').value.status
    (earlier = .accepted → answer ≠ .accepted) ∧
      (earlier = .conflict → answer ≠ .accepted ∧ answer ≠ .duplicate) := by
  obtain ⟨hbefore, hfirst, hrest⟩ := hdurable.append
  have hstart : Recorded sha256 iteration (processRun sha256 iteration before) :=
    Recorded.foldl before recorded_initial hbefore
  have hafter := hstart.step hfirst
  have hlater : processRun sha256 iteration (before ++ .call (.recordBatch first now calls) :: between) =
        between.foldl (Store.process sha256 iteration) ((processRun sha256 iteration before).step sha256
          iteration (.recordBatch first now calls)) := by
    rw [processRun, List.foldl_append]
    rfl
  simp only [hlater]
  constructor
  · intro hstatus
    have hkept := kept_of_accepted hstart.keyed hfirst hstatus
    rw [← hsequence] at hkept
    have hrun := hkept.foldl ProducerRecord.Settled.extends between hbetween hrest
    refine not_accepted_of_settled ?_
    rw [hsession, hproducer]
    exact hrun.memory
  · intro hstatus
    have hdisputed := disputed_of_conflict hstatus
    obtain ⟨filed, hfiled, hkeyed, hnone⟩ := hafter.file
    have hkept : Kept sha256 iteration
        (fun producer => producer.conflicts.contains first.sequence = true) first.sessionId
        first.producerId ((processRun sha256 iteration before).step sha256 iteration
          (.recordBatch first now calls)) :=
      ⟨hafter.keyed, fun _ => hdisputed, filed, hfiled, hkeyed, hnone _ _ _ hdisputed⟩
    have hrun := hkept.foldl (fun _ _ hextends h => hextends.conflicts _ h) between hbetween hrest
    refine not_accepted_of_disputed ?_
    rw [hsession, hproducer, hsequence]
    exact hrun.memory

section Sample

variable (sha256 : Bytes → Digest)

lemma journal_sampleRun : (processRun sha256 .byKey (sampleStart.map .call)).journal = sampleOpened := by
  rw [processRun_map_call, Store.initial, journal_sampleStart]

/-- The context once the sequence is tracked. -/
def sampleTracked : ContextRecord :=
  { sampleAdmitted with
    producers := (∅ : Producers).insert (Block.fill 16 4) (sampleProducer.track 1 (sampleHash sha256) 1000) }

lemma recordBatch_sampleRun :
    let start := processRun sha256 .byKey (sampleStart.map .call)
    let outcome := recordBatch sha256 .byKey (sampleRecordCalls true) start.journal start.directory
      (sampleBatch sampleSession 1) 1000
    outcome.value.status = .accepted ∧
      ∃ after, persistMetadata sha256 .byKey .written outcome.journal start.directory = .ok after := by
  simp only [journal_sampleRun]
  rw [recordBatch_stored (passed_sampleOpened sha256) unseen_sampleProducer rfl succeed_sampleRecordCalls]
  refine ⟨rfl, _, persistMetadata_written diskFailureInjection_storedJournal ?_⟩
  have hb := @length_encodeMetadata .byKey (storedJournal sha256 (sampleRecordCalls true)
    sampleOpened (processRun sha256 .byKey (sampleStart.map .call)).directory
    (sampleBatch sampleSession 1) 1000 sampleAdmitted sampleProducer (sampleHash sha256))
  have hc : (storedJournal sha256 (sampleRecordCalls true)
      sampleOpened (processRun sha256 .byKey (sampleStart.map .call)).directory
      (sampleBatch sampleSession 1) 1000 sampleAdmitted sampleProducer (sampleHash sha256)).contexts =
        (∅ : Contexts).insert sampleSession (sampleTracked sha256) := by
    rw [contexts_storedJournal]
    exact insert_insert_self _ _ _ _
  have hs : metadataBytes ((∅ : Contexts).insert sampleSession (sampleTracked sha256)) = 186 := by
    have hsi := @size_track sampleProducer 1 1000 (sampleHash sha256) rfl
    rw [metadataBytes, total_insert, erase_eq_self ExtTreeMap.getElem?_empty, contextBytes,
      sampleTracked, total_insert, erase_eq_self ExtTreeMap.getElem?_empty, producerBytes, hsi,
      conflicts_track]
    rfl
  rw [hc, hs] at hb
  show (encodeMetadata .byKey (storedJournal sha256 _ _ _ _ _ _ _ _)).length ≤ _
  omega

lemma durable_sampleRun : DurableFrom sha256 .byKey .initial (sampleStart.map .call ++
    [.call (.recordBatch (sampleBatch sampleSession 1) 1000 (sampleRecordCalls true))]) := by
  refine ⟨⟨rfl, ?_⟩, trivial, fun _ => ?_, trivial⟩
  · intro wire hw
    cases hw
  · exact (recordBatch_sampleRun sha256).2

end Sample

/-- The batch is accepted, and sent again it is not. -/
theorem accepted_at_most_once_sample : (Set.univ : Set (Bytes → Digest)) ⊆ {sha256 |
      let start := processRun sha256 .byKey (sampleStart.map .call)
      let later := processRun sha256 .byKey (sampleStart.map .call ++
        [.call (.recordBatch (sampleBatch sampleSession 1) 1000 (sampleRecordCalls true))])
      (recordBatch sha256 .byKey (sampleRecordCalls true) start.journal start.directory
          (sampleBatch sampleSession 1) 1000).value.status = .accepted ∧
        (recordBatch sha256 .byKey (sampleRecordCalls true) later.journal later.directory
          (sampleBatch sampleSession 1) 1001).value.status ≠ .accepted} := by
  intro sha256 _
  have haccepted := (recordBatch_sampleRun sha256).1
  refine ⟨haccepted, ?_⟩
  exact (accepted_at_most_once sha256 .byKey (sampleStart.map .call) [] _ _ 1000 1001 _
    (sampleRecordCalls true) (durable_sampleRun sha256) rfl rfl rfl (by simp)).1 haccepted

end Nstu.Telemetry
