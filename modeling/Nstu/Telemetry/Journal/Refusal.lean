import Nstu.Telemetry.Journal.Once

/-!
# Refused calls

`record_batch` admits a new producer before it knows whether the batch can be stored, and
`authorize_context` authorizes before it writes the metadata; neither is undone when the write fails.
`recordBatch_unchanged_iff` and `authorizeContext_unchanged_iff` say exactly when a refused call has
left the index as it was, and `refused_unchanged_iff` says it for every call of every run.
-/

namespace Nstu.Telemetry

open Wire Reader FramedLog KeyedMap

/-! ## Admission -/

/-- The producer of a batch is in the context, and admitted. -/
def ContextRecord.Admitted (context : ContextRecord) (producerId : ProducerId) : Prop :=
  ((context.producers[producerId]?).getD .new).admitted = true

section Admission

variable {context admitted : ContextRecord} {producer : ProducerRecord} {batch : TelemetryBatch}

lemma admitProducer_known (h : admitProducer context batch = .ok (admitted, producer))
    (hk : context.Admitted batch.producerId) :
    admitted = context ∧ context.producers[batch.producerId]? = some producer := by
  simp only [admitProducer, ContextRecord.Admitted] at h hk
  rw [if_pos hk] at h
  cases h
  refine ⟨rfl, ?_⟩
  cases hl : context.producers[batch.producerId]? with
  | none =>
    rw [hl] at hk
    cases hk
  | some producer => rfl

lemma admitProducer_new (h : admitProducer context batch = .ok (admitted, producer))
    (hn : ¬context.Admitted batch.producerId) :
    admitted.lifetimeGenerations = context.lifetimeGenerations + 1 ∧ producer.retired = false ∧
      producer.replayFloor = 0 ∧ batch.sequence = 1 := by
  simp only [admitProducer, ContextRecord.Admitted] at h hn
  rw [if_neg hn] at h
  split at h
  · cases h
  · split at h
    · cases h
    · split at h
      · cases h
      · rename_i hs
        cases h
        exact ⟨rfl, rfl, rfl, by simpa using hs⟩

end Admission

/-! ## Batches -/

/-- The record of a batch does not get into a segment. -/
structure RecordCalls.Stores (calls : RecordCalls) (journal : TelemetryJournal) : Prop where
  noInjection : journal.diskFailureInjection = false
  recordHashed : calls.recordHashed = true
  opened : calls.opened = true
  flushed : calls.flushed = true

section Record

variable (sha256 : Bytes → Digest)

/-- A batch registers its producer, and its record cannot be stored. -/
def AdmitsUnstored (calls : RecordCalls) (journal : TelemetryJournal) (batch : TelemetryBatch)
    (now : UInt64) : Prop :=
  calls.batchHashed = true ∧ ¬calls.Stores journal ∧ ∃ context admitted producer hash,
    Passed sha256 journal batch now context admitted producer hash ∧
      ¬context.Admitted batch.producerId ∧ Unseen producer batch

variable {sha256} {iteration : Iteration} {calls : RecordCalls} {journal : TelemetryJournal}
  {directory : Directory} {batch : TelemetryBatch} {now : UInt64}
  {context admitted : ContextRecord} {producer : ProducerRecord} {hash : Digest}

lemma setProducer_known (hp : Passed sha256 journal batch now context admitted producer hash)
    (hk : context.Admitted batch.producerId) :
    (journal.setProducer batch.sessionId admitted batch.producerId producer).contexts = journal.contexts := by
  obtain ⟨rfl, hl⟩ := admitProducer_known hp.producerOk hk
  rw [contexts_setProducer]
  have hpr : admitted.producers.insert batch.producerId producer = admitted.producers :=
    insert_eq_self hl
  rw [hpr]
  exact insert_eq_self hp.lookup

lemma setProducer_new (hp : Passed sha256 journal batch now context admitted producer hash)
    (hn : ¬context.Admitted batch.producerId) :
    (journal.setProducer batch.sessionId admitted batch.producerId producer).contexts ≠ journal.contexts := by
  intro hs
  have hl := congrArg (·[batch.sessionId]?) hs
  rw [contexts_setProducer] at hl
  simp only [Std.ExtTreeMap.getElem?_insert_self, hp.lookup, Option.some.injEq] at hl
  have hg := congrArg ContextRecord.lifetimeGenerations hl
  simp only [(admitProducer_new hp.producerOk hn).1] at hg
  have := congrArg UInt32.toBitVec hg
  simp at this

lemma refused_batchHashed (h : calls.batchHashed = false) :
    (recordBatch sha256 iteration calls journal directory batch now).journal = journal := by
  simp only [recordBatch, h, Bool.false_eq_true, if_false]
  split
  · rfl
  · split <;> rfl

lemma recordBatch_unstored (hpass : Passed sha256 journal batch now context admitted producer hash)
    (hunse : Unseen producer batch) (hbatch : calls.batchHashed) (hfails : ¬calls.Stores journal) :
    (recordBatch sha256 iteration calls journal directory batch now).value.status = .unavailable ∧
      (recordBatch sha256 iteration calls journal directory batch now).journal.contexts =
        (journal.setProducer batch.sessionId admitted batch.producerId producer).contexts := by
  cases hinje : journal.diskFailureInjection with
  | true =>
    have hfloor : ¬ batch.sequence ≤ producer.replayFloor := UInt64.not_le.mpr hunse.aboveFloor
    have hinje' : (journal.setProducer batch.sessionId admitted batch.producerId
      producer).diskFailureInjection := hinje
    simp only [recordBatch_of_passed hpass hbatch, recordForProducer, hunse.notRetired,
      hunse.noConflict, hunse.untracked, hfloor, hinje', Bool.false_eq_true, if_false,
      if_true, and_self]
  | false =>
    rw [recordBatch_of_unseen hpass hunse hinje hbatch]
    simp only [storeBatch, encodeTelemetryBatch_ne_nil hpass.hashed, Bool.false_eq_true, if_false]
    split
    · exact ⟨rfl, rfl⟩
    · rename_i hreco
      split
      · exact ⟨rfl, contexts_makeRoom⟩
      · rename_i hopen
        split
        · exact ⟨rfl, contexts_makeRoom⟩
        · rename_i hflus
          exact absurd ⟨hinje, by simpa using hreco, by simpa using hopen,
            by simpa using hflus⟩ hfails

/-- The batch is answered with `unavailable` or `rejected`. -/
def RefusedBatch (ack : TelemetryAck) : Prop := ack.status = .unavailable ∨ ack.status = .rejected

lemma refused_or_admits
    (hrefu : RefusedBatch (recordBatch sha256 iteration calls journal directory batch now).value) :
    (recordBatch sha256 iteration calls journal directory batch now).journal.contexts = journal.contexts ∨
      AdmitsUnstored sha256 calls journal batch now := by
  cases hbatch : calls.batchHashed with
  | false =>
    rw [refused_batchHashed hbatch]
    exact .inl rfl
  | true =>
    -- What has passed and is refused without its producer known has not been stored.
    have hunst : ∀ {context admitted producer hash},
        Passed sha256 journal batch now context admitted producer hash → Unseen producer batch →
        ¬context.Admitted batch.producerId → AdmitsUnstored sha256 calls journal batch now := by
      intro context admitted producer hash hpass hunse hnew
      refine ⟨hbatch, ?_, context, admitted, producer, hash, hpass, hnew, hunse⟩
      intro hstor
      rw [recordBatch_stored hpass hunse hstor.noInjection
        ⟨hbatch, hstor.recordHashed, hstor.opened, hstor.flushed⟩] at hrefu
      rcases hrefu with h | h <;> cases h
    have hexit := @recordBatch_exit sha256 iteration calls journal directory batch now
    revert hrefu hexit
    generalize recordBatch sha256 iteration calls journal directory batch now = outcome
    intro hrefu hexit
    cases hexit with
    | refused hack => exact .inl rfl
    | @answered context admitted producer hash ack error hpass hansw =>
      by_cases hknown : context.Admitted batch.producerId
      · exact .inl (setProducer_known hpass hknown)
      · obtain ⟨-, hreti, hfloor, hsequ⟩ := admitProducer_new hpass.producerOk hknown
        change ack.status = .unavailable ∨ ack.status = .rejected at hrefu
        generalize ack.status = status at hansw hrefu
        cases hansw with
        | retired h => exact absurd (hreti.symm.trans h) Bool.false_ne_true
        | conflict h hconf | duplicate h hconf htrac => rcases hrefu with h | h <;> cases h
        | replayed h hconf htrac hle =>
          rw [hfloor, hsequ] at hle
          exact absurd hle (by decide)
        | unavailable hunse => exact .inr (hunst hpass hunse hknown)
    | conflicted hpass hreti hconf htrac hne hack =>
      rcases hrefu with h | h <;> rw [hack] at h <;> cases h
    | unopened hpass hunse hack | torn hpass hunse hflus hack =>
      rename_i context admitted producer hash ack error
      by_cases hknown : context.Admitted batch.producerId
      · exact .inl (contexts_makeRoom.trans (setProducer_known hpass hknown))
      · exact .inr (hunst hpass hunse hknown)
    | accepted hpass hunse hinje hsucc hack =>
      rcases hrefu with h | h <;> rw [hack] at h <;> cases h

/-- **When a refused batch leaves the index alone.** -/
lemma recordBatch_unchanged_iff : (RefusedBatch (recordBatch sha256 iteration calls journal directory batch now).value →
      (recordBatch sha256 iteration calls journal directory batch now).journal.contexts =
        journal.contexts) ↔ ¬AdmitsUnstored sha256 calls journal batch now := by
  constructor
  · rintro hunch ⟨hbatch, hfails, context, admitted, producer, hash, hpass, hnew, hunse⟩
    obtain ⟨hstat, hcont⟩ :=
      @recordBatch_unstored sha256 iteration calls journal directory batch now _ _ _ _ hpass hunse
        hbatch hfails
    exact setProducer_new hpass hnew (hcont.symm.trans (hunch (.inl hstat)))
  · intro hstor hrefu
    exact (refused_or_admits hrefu).resolve_right hstor

end Record

/-! ## Contexts -/

section Authorize

variable {sha256 : Bytes → Digest} {iteration : Iteration} {answer : PersistAnswer}
  {journal : TelemetryJournal} {directory : Directory} {sessionId : SessionId} {time : UInt64}

/-- The context of a session once it is authorized at a time. -/
def authorizedContext (journal : TelemetryJournal) (sessionId : SessionId) (time : UInt64) :
    ContextRecord :=
  { (journal.contexts[sessionId]?).getD .new with
    sessionId, authorizedAtUnixMs := time, authorized := true, stopped := false }

/-- A metadata write that succeeds. -/
structure Writes (iteration : Iteration) (answer : PersistAnswer) (journal : TelemetryJournal) :
    Prop where
  noInjection : journal.diskFailureInjection = false
  answer : answer = .written
  hashed : (encodeMetadata iteration journal).length ≤ 0xffffffff

lemma persistOutcome_value_iff : (persistOutcome sha256 iteration answer journal directory).value ↔
      Writes iteration answer journal := by
  constructor
  · intro h
    simp only [persistOutcome] at h
    split at h
    · rename_i after hp
      refine ⟨?_, ?_, (persistMetadata_eq_ok hp).1⟩
      · simp only [persistMetadata] at hp
        split at hp
        · cases hp
        · rename_i hi
          exact Bool.eq_false_iff.mpr hi
      · simp only [persistMetadata] at hp
        split at hp
        · cases hp
        · split at hp
          · cases hp
          · cases answer <;> first | rfl | cases hp
    · cases h
  · rintro ⟨hi, rfl, hl⟩
    simp only [persistOutcome, persistMetadata_written hi hl]

/-- The context is authorized at this time already. -/
def AuthorizedAlready (journal : TelemetryJournal) (sessionId : SessionId) (time : UInt64) : Prop :=
  journal.contexts[sessionId]? = some (authorizedContext journal sessionId time)

/-- What `authorize_context` does without harm: it is refused before it changes the index, it writes
the metadata, or there is nothing to change. -/
def AuthorizesStored (iteration : Iteration) (answer : PersistAnswer) (journal : TelemetryJournal)
    (sessionId : SessionId) (time : UInt64) : Prop :=
  journal.isOpen = false ∨
    (kMaximumActiveContexts ≤ journal.contexts.size ∧ journal.contexts.contains sessionId = false) ∨
    Writes iteration answer { journal with
      contexts := journal.contexts.insert sessionId (authorizedContext journal sessionId time) } ∨
    AuthorizedAlready journal sessionId time

/-- **When a refused authorization leaves the index alone.** -/
lemma authorizeContext_unchanged_iff :
    ((authorizeContext sha256 iteration answer journal directory sessionId time).value = false →
      (authorizeContext sha256 iteration answer journal directory sessionId time).journal.contexts =
        journal.contexts) ↔ AuthorizesStored iteration answer journal sessionId time := by
  simp only [authorizeContext, AuthorizesStored]
  split
  · rename_i hclos
    simp only [Bool.not_eq_true', ← Bool.not_eq_true] at hclos
    simp [hclos]
  · rename_i hopen
    split
    · rename_i hfull
      simp only [Bool.and_eq_true, decide_eq_true_eq, Bool.not_eq_true'] at hfull
      simp [hfull]
    · rename_i hroom
      simp only [Bool.and_eq_true, decide_eq_true_eq, Bool.not_eq_true'] at hopen hroom
      have hvalue := @persistOutcome_value_iff sha256 iteration answer { journal with
        contexts := journal.contexts.insert sessionId (authorizedContext journal sessionId time) }
        directory
      simp only [journal_persistOutcome]
      change ((persistOutcome sha256 iteration answer { journal with
          contexts := journal.contexts.insert sessionId (authorizedContext journal sessionId time) }
          directory).value = false →
        journal.contexts.insert sessionId (authorizedContext journal sessionId time) = journal.contexts) ↔ _
      rw [← Bool.not_eq_true, hvalue]
      constructor
      · intro hunch
        by_cases hwrit : Writes iteration answer { journal with
            contexts := journal.contexts.insert sessionId (authorizedContext journal sessionId time) }
        · exact .inr (.inr (.inl hwrit))
        · right
          right
          right
          have hlook := congrArg (·[sessionId]?) (hunch hwrit)
          simp only [Std.ExtTreeMap.getElem?_insert_self] at hlook
          exact hlook.symm
      · rintro (hclos | hfull | hwrit | halre) hfails
        · exact absurd hclos hopen
        · exact absurd hfull hroom
        · exact absurd hwrit hfails
        · exact insert_eq_self halre

end Authorize

/-! ## Runs -/

section Run

variable (sha256 : Bytes → Digest) (iteration : Iteration) (store : Store)

/-- `record_batch` answers `unavailable` or `rejected`, or `authorize_context` returns false. -/
def RefusedCall : ProcessOp → Prop
  | .call (.recordBatch batch now calls) =>
    RefusedBatch (recordBatch sha256 iteration calls store.journal store.directory batch now).value
  | .call (.authorizeContext sessionId time answer) =>
    (authorizeContext sha256 iteration answer store.journal store.directory sessionId time).value =
      false
  | _ => False

/-- The call leaves no producer and no authorization behind that is not stored. -/
def StoredCall : ProcessOp → Prop
  | .call (.recordBatch batch now calls) => ¬AdmitsUnstored sha256 calls store.journal batch now
  | .call (.authorizeContext sessionId time answer) =>
    AuthorizesStored iteration answer store.journal sessionId time
  | _ => True

end Run

/-- **When a refused call changes nothing.**  In every state of every run, restarts included, the index
after a refused call is the one before it exactly when the call did not admit a producer whose batch
could not be stored, and did not authorize a context that could not be written. -/
theorem refused_unchanged_iff (sha256 : Bytes → Digest) (iteration : Iteration)
    (ops : List ProcessOp) (op : ProcessOp) :
    let store := processRun sha256 iteration ops
    (RefusedCall sha256 iteration store op →
      (store.process sha256 iteration op).journal.contexts = store.journal.contexts) ↔
      StoredCall sha256 iteration store op := by
  intro store
  cases op with
  | restart => exact ⟨fun _ => trivial, fun _ hrefused => hrefused.elim⟩
  | call op =>
    cases op with
    | recordBatch batch now calls => exact recordBatch_unchanged_iff
    | authorizeContext sessionId time answer => exact authorizeContext_unchanged_iff
    | stopAuthorization => exact ⟨fun _ => trivial, fun _ hrefused => hrefused.elim⟩
    | removeContext
    | retireProducer | pruneExpired | close | reopen => exact ⟨fun _ => trivial, fun _ hrefused => hrefused.elim⟩
    | setDiskFailureInjection
    | setSegmentSizeLimitForTesting => exact ⟨fun _ => trivial, fun _ hrefused => hrefused.elim⟩

section Sample

variable (sha256 : Bytes → Digest)

lemma admitsUnstored_sample : AdmitsUnstored sha256 (sampleRecordCalls false) sampleOpened
    (sampleBatch sampleSession 1) 1000 := by
  refine ⟨rfl, ?_, sampleContext, sampleAdmitted, sampleProducer, sampleHash sha256,
    passed_sampleOpened sha256, by simp [ContextRecord.Admitted, sampleContext, ProducerRecord.new],
    unseen_sampleProducer⟩
  intro hs
  exact Bool.false_ne_true hs.flushed

lemma not_authorizesStored_sample : ¬AuthorizesStored .byKey .writeError sampleOpened (Block.fill 16 5) 2000 := by
  rintro (hc | hf | hw | ha)
  · cases hc
  · exact absurd hf.1 (by decide)
  · cases hw.answer
  · have hn : sampleOpened.contexts[(Block.fill 16 5 : SessionId)]? = none := by decide
    rw [AuthorizedAlready, hn] at ha
    cases ha

end Sample

/-- A batch that is cut off has used a generation, and an authorization that was not written stands. -/
theorem refused_changes_index : (Set.univ : Set (Bytes → Digest)) ⊆ {sha256 |
      let store := processRun sha256 .byKey (sampleStart.map .call)
      ∀ op ∈ [ProcessOp.call (.recordBatch (sampleBatch sampleSession 1) 1000 (sampleRecordCalls false)),
          .call (.authorizeContext (Block.fill 16 5) 2000 .writeError)],
        RefusedCall sha256 .byKey store op ∧
          (store.process sha256 .byKey op).journal.contexts ≠ store.journal.contexts} := by
  intro sha256 _ op hop
  have hjournal := journal_sampleRun sha256
  generalize processRun sha256 .byKey (sampleStart.map .call) = store at hjournal ⊢
  have hchanged : ∀ {P : Prop} {before after : Contexts}, ¬(P → after = before) →
      P ∧ after ≠ before := fun h => Classical.not_imp.mp h
  simp only [List.mem_cons, List.not_mem_nil, or_false] at hop
  rcases hop with rfl | rfl
  · refine hchanged ?_
    intro hunchanged
    have hstored := recordBatch_unchanged_iff.mp hunchanged
    rw [hjournal] at hstored
    exact hstored (admitsUnstored_sample sha256)
  · refine hchanged ?_
    intro hunchanged
    have hstored := authorizeContext_unchanged_iff.mp hunchanged
    rw [hjournal] at hstored
    exact not_authorizesStored_sample hstored

end Nstu.Telemetry
