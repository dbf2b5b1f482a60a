import Nstu.Telemetry.Outbox.OpenExit

/-!
# Room for what may be lost

A batch that is pending may end in the loss table, which has room for sixty-four sessions.  `Reserved`
says that the table has an entry for the session of the pending batches, or room for one: `enqueue`
reserves the entry, `open` drops it while it counts nothing and so makes room, and an expiry pass
drops it with what has expired.  `incoming_fits` and `settleLosses_ne_none` are what this is for.
-/

namespace Nstu.Telemetry.Outbox

open Wire Reader Loader List

/-! ## Room in the table -/

/-- A table of sessions that has a session, or room for one more. -/
def Roomy (session : SessionId) (sessions : List SessionId) : Prop :=
  session ∈ sessions ∨ sessions.length < kMaximumLossContexts

variable {session : SessionId}

lemma Roomy.sublist {sessions fewer : List SessionId} (h : Roomy session sessions) (hs : fewer.Sublist sessions)
    (hl : sessions.length ≤ kMaximumLossContexts) : Roomy session fewer := by
  by_cases hlen : fewer.length = sessions.length
  · rw [hs.eq_of_length hlen]
    exact h
  · right
    exact Nat.lt_of_lt_of_le (Nat.lt_of_le_of_ne hs.length_le hlen) hl

lemma length_withSlot {losses : List TelemetryOutboxAggregateLoss}
    (h : Roomy session (lossSessions losses)) (hl : losses.length ≤ kMaximumLossContexts) :
    (lossSessions (withSlot session losses)).length ≤ kMaximumLossContexts := by
  rw [lossSessions_withSlot]
  split
  · rw [lossSessions, length_map]
    exact hl
  · rename_i hn
    rw [length_append, length_singleton]
    exact h.resolve_left hn

lemma mem_withSlot (session : SessionId) (losses : List TelemetryOutboxAggregateLoss) :
    session ∈ lossSessions (withSlot session losses) := by
  rw [lossSessions_withSlot]
  split
  · assumption
  · exact mem_append_right _ (mem_singleton_self _)

/-- The pending batches are of the active session, and their losses can be counted. -/
structure Reserved (outbox : TelemetryOutbox) : Prop where
  session : ∀ payload ∈ outbox.payloads, payload.1.sessionId = outbox.activeSessionId
  losses : outbox.losses.length ≤ kMaximumLossContexts
  room : outbox.records ≠ [] → Roomy outbox.activeSessionId (lossSessions outbox.losses)

lemma payloads_ne_nil {outbox : TelemetryOutbox} : outbox.payloads ≠ [] ↔ outbox.records ≠ [] := by
  rw [TelemetryOutbox.payloads, ne_eq, map_eq_nil_iff]

lemma reserved_of_holds {a b : TelemetryOutbox} (h : Holds a b) (hr : Reserved a) :
    Reserved b where
  session := by
    rw [h.payloads, h.activeSessionId]
    exact hr.session
  losses := by
    rw [h.losses]
    exact hr.losses
  room hre := by
    rw [h.activeSessionId, h.losses]
    refine hr.room ?_
    rw [← payloads_ne_nil, ← h.payloads, payloads_ne_nil]
    exact hre

lemma reserved_emptied {outbox : TelemetryOutbox} (hr : outbox.records = [])
    (hl : outbox.losses.length ≤ kMaximumLossContexts) : Reserved outbox where
  session := by
    rw [TelemetryOutbox.payloads, hr]
    intro payload hp
    cases hp
  losses := hl
  room hn := absurd hr hn

/-! ## Expiry passes -/

section Prune

variable {now : UInt64} {outbox : TelemetryOutbox}

lemma session_of_record (h : Reserved outbox) {record : OutboxRecord}
    (hr : record ∈ outbox.records) : record.batch.sessionId = outbox.activeSessionId :=
  h.session _ (mem_map_of_mem hr)

lemma Reserved.unexpired (h : Reserved outbox) (hn : outbox.records ≠ []) : Roomy outbox.activeSessionId
      (lossSessions (outbox.losses.filter fun loss => !outbox.lossHasExpired now loss)) := by
  refine (h.room hn).sublist (filter_sublist.map _) ?_
  rw [lossSessions, length_map]
  exact h.losses

lemma foldl_addIncoming_session {active : SessionId} (records : List OutboxRecord)
    (h : ∀ record ∈ records, record.batch.sessionId = active) :
    let retained := lossSessions (outbox.losses.filter fun loss => !outbox.lossHasExpired now loss)
    ∀ {contexts}, contexts = [] ∨ contexts = [active] ∧ active ∉ retained →
      records.foldl (addIncoming now outbox) contexts = [] ∨
        records.foldl (addIncoming now outbox) contexts = [active] ∧ active ∉ retained := by
  intro retained
  induction records with
  | nil => exact fun hcont => hcont
  | cons record rest ih =>
    intro contexts hcont
    refine ih (fun other hother => h other (mem_cons_of_mem _ hother)) ?_
    have hsess := h record mem_cons_self
    simp only [addIncoming]
    split
    · exact hcont
    · split
      · exact hcont
      · rename_i hnew
        rw [hsess, Bool.or_eq_true, not_or] at hnew
        obtain ⟨hnone, habse⟩ := hnew
        rcases hcont with rfl | ⟨rfl, -⟩
        · right
          refine ⟨by rw [hsess]; rfl, ?_⟩
          intro hmem
          obtain ⟨loss, hloss, hid⟩ := mem_map.mp hmem
          obtain ⟨hin, hlast⟩ := mem_filter.mp hloss
          refine hnone (any_eq_true.mpr ⟨loss, hin, ?_⟩)
          rw [Bool.and_eq_true, beq_iff_eq]
          exact ⟨hid, hlast⟩
        · simp at habse

/-- **The table has room for what an expiry pass finds.** -/
lemma incoming_fits (h : Reserved outbox) : outbox.losses.length - outbox.losses.countP (outbox.lossHasExpired now) +
      (incomingContexts now outbox).length ≤ kMaximumLossContexts := by
  have hle := h.losses
  have hkept := @length_unexpiredLosses now outbox
  rw [← hkept]
  have hinco := @foldl_addIncoming_session now outbox _ outbox.records
    (fun record hreco => session_of_record h hreco) [] (.inl rfl)
  change incomingContexts now outbox = [] ∨ incomingContexts now outbox = _ ∧ _ at hinco
  rcases hinco with hnone | ⟨hone, hnew⟩
  · rw [hnone]
    exact (length_filter_le _ _).trans hle
  · have hne : outbox.records ≠ [] := by
      intro hnil
      rw [incomingContexts, hnil] at hone
      cases hone
    have hroom := (@Reserved.unexpired now outbox h hne).resolve_left hnew
    rw [lossSessions, length_map] at hroom
    rw [hone]
    exact hroom

lemma reserved_pruned {calls : PruneCalls} {barrier : UInt64} (h : Reserved outbox) :
    Reserved { prunedOutbox calls now outbox with expiryBarrierMs := barrier } := by
  have hacti : ∀ record ∈ outbox.records, record.batch.sessionId = outbox.activeSessionId :=
    fun record hreco => session_of_record h hreco
  have hsess : lossSessions (prunedOutbox calls now outbox).losses = _ :=
    @lossSessions_removeRecords now calls.clock outbox.activeSessionId 0 outbox.records
      ⟨[], [], outbox.losses.filter fun loss => !outbox.lossHasExpired now loss,
        outbox.totalPayloadBytes⟩ hacti
  have hfilt : (outbox.losses.filter fun loss => !outbox.lossHasExpired now loss).length ≤
      kMaximumLossContexts := (length_filter_le _ _).trans h.losses
  refine ⟨?_, ?_, ?_⟩
  · intro payload hpayl
    exact h.session payload ((payloads_unexpired_sublist outbox.records).subset hpayl)
  · have hleng : (prunedOutbox calls now outbox).losses.length =
        (lossSessions (prunedOutbox calls now outbox).losses).length := by
      rw [lossSessions, length_map]
    change (prunedOutbox calls now outbox).losses.length ≤ _
    rw [hleng, hsess]
    split
    · rename_i hany
      obtain ⟨record, hreco, -⟩ := any_eq_true.mp hany
      exact length_withSlot (h.unexpired (ne_nil_of_mem hreco)) hfilt
    · rw [lossSessions, length_map]
      exact hfilt
  · intro hne
    change Roomy outbox.activeSessionId (lossSessions (prunedOutbox calls now outbox).losses)
    rw [hsess]
    split
    · exact .inl (mem_withSlot _ _)
    · refine h.unexpired ?_
      intro hnil
      exact hne (by simp [prunedOutbox, hnil, unexpired])

end Prune

/-! ## Batches and answers -/

section Calls

variable {batch : TelemetryBatch} {outbox : TelemetryOutbox}
  {losses : List TelemetryOutboxAggregateLoss}

lemma reserveSlot_some (h : reserveSlot batch outbox = some losses)
    (hle : outbox.losses.length ≤ kMaximumLossContexts) :
    batch.sessionId ∈ lossSessions losses ∧ losses.length ≤ kMaximumLossContexts := by
  have hupda : ∀ (session : SessionId) (table : List TelemetryOutboxAggregateLoss), session ∈ lossSessions table →
      batch.sessionId ∈ lossSessions
          (updateSlot session (fun loss => { loss with sessionId := batch.sessionId }) table) ∧
        (updateSlot session (fun loss => { loss with sessionId := batch.sessionId }) table).length =
          table.length := by
    intro session table
    induction table with
    | nil =>
      intro hmem
      cases hmem
    | cons loss rest ih =>
      intro hmem
      simp only [updateSlot]
      split
      · exact ⟨mem_cons_self, rfl⟩
      · rename_i hother
        rcases mem_cons.mp hmem with hhead | hrest
        · exact absurd hhead.symm hother
        · obtain ⟨hin, hleng⟩ := ih hrest
          exact ⟨mem_cons_of_mem _ hin, congrArg (· + 1) hleng⟩
  simp only [reserveSlot] at h
  split at h
  · rename_i hslot
    cases h
    exact ⟨hasSlot_iff.mp hslot, hle⟩
  · split at h
    · split at h
      · cases h
      · rename_i unused hunus
        cases h
        obtain ⟨hin, hleng⟩ := hupda unused.sessionId outbox.losses
          (mem_map_of_mem (mem_of_find?_eq_some hunus))
        exact ⟨hin, hleng ▸ hle⟩
    · rename_i hroom
      cases h
      refine ⟨?_, ?_⟩
      · simp [lossSessions, TelemetryOutboxAggregateLoss.new]
      · rw [length_append, length_singleton]
        exact Nat.not_le.mp hroom

lemma reserved_admitted {arrival : UInt64} (h : Reserved outbox) (hadmi : Admissible batch outbox losses) :
    Reserved (admitted arrival batch losses outbox) := by
  obtain ⟨hin, hle⟩ := reserveSlot_some hadmi.slot h.losses
  refine ⟨?_, hle, fun _ => .inl hin⟩
  intro payload hpayl
  rw [TelemetryOutbox.payloads, admitted, map_append] at hpayl
  rcases mem_append.mp hpayl with hold | hnew
  · -- The first record has the session of all of them, and of the batch.
    have hsess : outbox.activeSessionId = batch.sessionId := by
      have hcont := hadmi.context
      cases hlist : outbox.records with
      | nil =>
        rw [hlist] at hold
        cases hold
      | cons active rest =>
        rw [hlist] at hcont
        simp only [head?_cons, Option.any_some, Bool.not_eq_false'] at hcont
        rw [← session_of_record h (hlist ▸ mem_cons_self : active ∈ outbox.records)]
        simp only [sameContext, Bool.and_eq_true, beq_iff_eq] at hcont
        exact hcont.1.1.1.1
    exact (h.session payload hold).trans hsess
  · rw [map_singleton, mem_singleton] at hnew
    rw [hnew]
    rfl

variable {index : ℕ} {record : OutboxRecord}

lemma reserved_scheduled {now : UInt64} (h : Reserved outbox) (hr : outbox.records[index]? = some record) :
    Reserved (scheduledOutbox now index record outbox) where
  session := by
    rw [payloads_scheduledOutbox hr]
    exact h.session
  losses := h.losses
  room _ := h.room (ne_nil_of_mem (mem_of_getElem? hr))

lemma settleLosses_ne_none (h : Reserved outbox)
    (hr : record ∈ outbox.records) (status : TelemetryAckStatus) (stamp : UInt64) :
    settleLosses status record.batch.sessionId stamp outbox.losses ≠ none := by
  have hro := h.room (ne_nil_of_mem hr)
  rw [← session_of_record h hr, Roomy, ← hasSlot_iff, lossSessions, length_map] at hro
  simp only [settleLosses]
  split
  · exact Option.some_ne_none _
  · rw [if_neg]
    · exact Option.some_ne_none _
    · intro hf
      simp only [Bool.and_eq_true, Bool.not_eq_true', decide_eq_true_eq] at hf
      rcases hro with hs | hl
      · exact Bool.false_ne_true (hf.1.symm.trans hs)
      · exact absurd hf.2 (Nat.not_le.mpr hl)

lemma reserved_settled {status : TelemetryAckStatus} {stamp : UInt64} (h : Reserved outbox)
    (hr : outbox.records[index]? = some record)
    (hl : settleLosses status record.batch.sessionId stamp outbox.losses = some losses) :
    Reserved (settledOutbox index record losses outbox) := by
  have hm := mem_of_getElem? hr
  have hro := h.room (ne_nil_of_mem hm)
  have ht : losses.length ≤ kMaximumLossContexts ∧ Roomy outbox.activeSessionId (lossSessions losses) := by
    simp only [settleLosses] at hl
    split at hl
    · cases hl
      exact ⟨h.losses, hro⟩
    · split at hl
      · cases hl
      · cases hl
        have hs := @lossSessions_updateSlot
          (withSlot record.batch.sessionId outbox.losses) record.batch.sessionId _
          (sessionId_countRefusal status stamp)
        have hle := length_withSlot hro h.losses
        rw [← session_of_record h hm] at hle ⊢
        rw [← hs, lossSessions, length_map] at hle
        refine ⟨hle, .inl ?_⟩
        rw [hs]
        exact mem_withSlot _ _
  refine ⟨?_, ht.1, fun _ => ht.2⟩
  intro payload hp
  exact h.session payload (((eraseIdx_sublist _ _).map _).subset hp)

end Calls

end Nstu.Telemetry.Outbox
