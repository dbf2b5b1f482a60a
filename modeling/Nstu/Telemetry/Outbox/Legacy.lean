import Nstu.Telemetry.Outbox.Reserve

/-!
# Files of both formats

What `open` makes of a payload file: of one the outbox has written (`reserved_written`), and of one in
the first format, which has one loss and no session (`reserved_legacy`).  Either way the losses of the
pending batches can be counted.
-/

namespace Nstu.Telemetry.Outbox

open Wire Reader Loader

/-! ## Readers -/

section Run

variable {α β : Type} {s r : Bytes} {a : α} {b : β}

lemma run_bind_eq_ok {x : Loader α} {f : α → Loader β} (h : (x >>= f).run s = .ok (b, r)) :
    ∃ a t, x.run s = .ok (a, t) ∧ (f a).run t = .ok (b, r) := by
  rw [StateT.run_bind] at h
  cases hx : x.run s with
  | error error =>
    rw [hx] at h
    cases h
  | ok pair =>
    rw [hx] at h
    exact ⟨pair.1, pair.2, rfl, h⟩

lemma run_orCorrupt_eq_ok {reader : Reader α} {message : String}
    (h : (orCorrupt reader message).run s = .ok (a, r)) : reader.run s = some (a, r) := by
  simp only [StateT.run, orCorrupt] at h ⊢
  split at h
  · rename_i hr
    cases h
    exact hr
  · cases h

lemma run_fail_ne_ok {error : LoadError} (h : (fail error : Loader α).run s = .ok (a, r)) : False := by
  simp only [StateT.run, fail] at h
  cases h

end Run

/-! ## Records -/

/-- The records that have been read are of the active session. -/
structure Consistent (loaded : Loaded) : Prop where
  session : ∀ record ∈ loaded.records, record.batch.sessionId = loaded.activeSession
  active : loaded.records ≠ [] → loaded.activeSession ≠ Block.zero 16

section Records

variable {version : UInt16} {now : UInt64} {loaded result : Loaded} {s r : Bytes}

lemma valid_of_decodeTelemetryBatch {wire : Bytes} {batch : TelemetryBatch}
    (h : decodeTelemetryBatch wire = .ok batch) : validateTelemetryBatch batch := by
  simp only [decodeTelemetryBatch] at h
  split at h
  · cases h
  · split at h
    · cases h
    · split at h
      · cases h
      · split at h
        · cases h
        · rename_i hv
          cases h
          simpa using hv

lemma consistent_readRecord (h : (readRecord version now loaded).run s = .ok (result, r))
    (hload : Consistent loaded) : Consistent result ∧ result.losses = loaded.losses ∧
      (version ≠ 1 → result.activeSession = loaded.activeSession) := by
  obtain ⟨span, t, -, h⟩ := run_bind_eq_ok h
  split at h
  · exact (run_fail_ne_ok h).elim
  · rename_i batch hdeco
    have hne := sessionId_ne_zero_of_valid (valid_of_decodeTelemetryBatch hdeco)
    split at h
    · exact (run_fail_ne_ok h).elim
    · obtain ⟨retry, t', -, h⟩ := run_bind_eq_ok h
      dsimp only at h
      split at h
      · exact (run_fail_ne_ok h).elim
      · split at h
        · exact (run_fail_ne_ok h).elim
        · rename_i hsess
          cases h
          have hsess : batch.sessionId = adoptSession version loaded batch :=
            not_ne_iff.mp hsess
          -- A session is adopted only before there is a record.
          have hsame : loaded.records ≠ [] → adoptSession version loaded batch = loaded.activeSession := by
            intro hreco
            rw [adoptSession, if_neg]
            exact fun hadop => hload.active hreco hadop.2
          refine ⟨⟨?_, ?_⟩, rfl, ?_⟩
          · intro record hrecor
            rcases List.mem_append.mp hrecor with hold | hnew
            · exact (hload.session record hold).trans (hsame (List.ne_nil_of_mem hold)).symm
            · rw [List.mem_singleton] at hnew
              rw [hnew]
              exact hsess
          · intro _ hzero
            exact hne (hsess.trans hzero)
          · intro hvers
            change adoptSession version loaded batch = _
            rw [adoptSession, if_neg]
            exact fun hadop => hvers hadop.1

lemma consistent_readRecords {count : ℕ} (h : (readRecords version now count loaded).run s = .ok (result, r))
    (hload : Consistent loaded) : Consistent result ∧ result.losses = loaded.losses ∧
      (version ≠ 1 → result.activeSession = loaded.activeSession) := by
  induction count generalizing loaded s with
  | zero =>
    cases h
    exact ⟨hload, rfl, fun _ => rfl⟩
  | succ more ih =>
    obtain ⟨next, t, hnext, h⟩ := run_bind_eq_ok h
    obtain ⟨hcons, hloss, hacti⟩ := consistent_readRecord hnext hload
    obtain ⟨hresu, hloss', hacti'⟩ := ih h hcons
    exact ⟨hresu, hloss'.trans hloss, fun hvers =>
      (hacti' hvers).trans (hacti hvers)⟩

end Records

/-! ## What is loaded -/

section Load

variable {version : UInt16} {now : UInt64} {loaded : Loaded} {s r : Bytes}
  {platform : Platform} {plaintext : Bytes}

/-- The entries that are kept have room for the session, when there is one entry or when there was
room before. -/
lemma reserved_settleLoaded {result : Loaded} (outbox : TelemetryOutbox)
    (h : settleLoaded version now loaded = .ok result) (hconsi : Consistent loaded)
    (hleng : loaded.losses.length ≤ kMaximumLossContexts) (hlega : version = 1 → loaded.losses.length ≤ 1)
    (hroom : version ≠ 1 → loaded.records ≠ [] → Roomy loaded.activeSession (lossSessions loaded.losses)) :
    Reserved (loadedOutbox result outbox) := by
  unfold settleLoaded at h
  extract_lets losses at h
  have hsame : losses.length = loaded.losses.length := by
    unfold losses
    split
    · split
      · rename_i hnil
        rw [hnil]
      · rename_i hcons
        rw [hcons]
        rfl
    · rfl
  have hsub : (lossSessions (reloadLosses now losses)).Sublist (lossSessions losses) :=
    lossSessions_reloadLosses losses
  have hlist : (lossSessions losses).length = loaded.losses.length := by
    rw [lossSessions, List.length_map, hsame]
  have hkept : (reloadLosses now losses).length ≤ loaded.losses.length := by
    have := hsub.length_le
    rw [hlist, lossSessions, List.length_map] at this
    exact this
  split at h
  · cases h
  · split at h
    · cases h
    · split at h
      · cases h
      · cases h
        refine ⟨?_, hkept.trans hleng, ?_⟩
        · intro payload hpayl
          obtain ⟨record, hreco, rfl⟩ := List.mem_map.mp hpayl
          exact hconsi.session record hreco
        · intro hne
          change Roomy loaded.activeSession (lossSessions (reloadLosses now losses))
          by_cases hvers : version = 1
          · right
            rw [lossSessions, List.length_map]
            exact Nat.lt_of_le_of_lt (hkept.trans (hlega hvers)) (by decide)
          · have hloss : losses = loaded.losses := by
              exact if_neg fun hboth => hvers hboth.1
            rw [hloss] at hsub hlist ⊢
            exact (hroom hvers hne).sublist hsub (hlist ▸ hleng)

/-- The plaintext of a file, without its digest, has the header of the first format. -/
def LegacyPlaintext (plaintext : Bytes) : Prop :=
  ∀ version rest, readVersion.run (plaintext.take (plaintext.length - 32)) = some (version, rest) → version = 1

lemma loadOutbox_ok (h : loadOutbox platform now plaintext = .ok loaded) : ∃ version read rest,
      (readOutbox now).run (plaintext.take (plaintext.length - 32)) = .ok ((version, read), rest) ∧
        settleLoaded version now read = .ok loaded := by
  simp only [loadOutbox] at h
  split at h
  · cases h
  · split at h
    · cases h
    · split at h
      · cases h
      · split at h
        · cases h
        · rename_i version read rest hr
          split at h
          · cases h
          · exact ⟨version, read, rest, hr, h⟩

lemma reserved_legacy (outbox : TelemetryOutbox) (hlega : LegacyPlaintext plaintext)
    (h : loadOutbox platform now plaintext = .ok loaded) : Reserved (loadedOutbox loaded outbox) := by
  obtain ⟨version, read, rest, hread, hsett⟩ := loadOutbox_ok h
  obtain ⟨version', t, hvers, hread⟩ := run_bind_eq_ok hread
  have hone := hlega _ _ (run_orCorrupt_eq_ok hvers)
  obtain ⟨context, t', hcont, hread⟩ := run_bind_eq_ok hread
  obtain ⟨count, t'', -, hread⟩ := run_bind_eq_ok hread
  rw [readContext, if_pos hone] at hcont
  obtain ⟨loss, t₃, -, hcont⟩ := run_bind_eq_ok hcont
  cases hcont
  split at hread
  · exact (run_fail_ne_ok hread).elim
  · obtain ⟨result, t₄, hreco, hread⟩ := run_bind_eq_ok hread
    cases hread
    have hempty : Consistent ⟨Block.zero 16, [loss], [], 0, decide (version = 1)⟩ :=
      ⟨by simp, fun hne => absurd rfl hne⟩
    obtain ⟨hcons, hloss, -⟩ := consistent_readRecords hreco hempty
    refine reserved_settleLoaded outbox hsett hcons ?_ ?_ fun hother => absurd hone hother
    · rw [hloss]
      exact Nat.succ_le_of_lt (Nat.succ_pos 63)
    · rw [hloss]
      exact fun _ => le_refl _

lemma readLosses_written {losses read result : List TelemetryOutboxAggregateLoss} {rest : Bytes}
    (h : (readLosses losses.length read).run (losses.flatMap lossBytes ++ rest) = .ok (result, r)) :
    result = read ++ losses ∧ r = rest := by
  induction losses generalizing read with
  | nil =>
    cases h
    exact ⟨(List.append_nil _).symm, rfl⟩
  | cons loss losses ih =>
    have hb : (loss :: losses).flatMap lossBytes ++ rest =
        loss.sessionId.toList ++ (le loss.rejectedBatches ++ (le loss.conflictBatches ++
          (le loss.expiredBatches ++ (le loss.firstRecordedUnixMs ++
            (le loss.lastUpdatedUnixMs ++ (losses.flatMap lossBytes ++ rest)))))) := by
      simp [lossBytes]
    rw [hb, List.length_cons, readLosses, run_bind_ok (run_orCorrupt (run_readBlock_iff.mpr rfl)),
      run_bind_ok (run_orCorrupt run_readCounters)] at h
    split at h
    · exact (run_fail_ne_ok h).elim
    · obtain ⟨hr, hre⟩ := ih h
      rw [hr]
      exact ⟨by simp, hre⟩

lemma reserved_written {stored : TelemetryOutbox} (outbox : TelemetryOutbox) (hstor : Reserved stored)
    (h : loadOutbox platform now
      (outboxPlaintext stored ++ (platform.sha256 (outboxPlaintext stored)).toList) = .ok loaded) :
    Reserved (loadedOutbox loaded outbox) := by
  have hcount := hstor.losses
  have hnat : (UInt32.ofNat stored.losses.length).toNat = stored.losses.length :=
    UInt32.toNat_ofNat_of_lt' (Nat.lt_of_le_of_lt hcount (by decide))
  obtain ⟨version, read, rest, hread, hsett⟩ := loadOutbox_ok h
  rw [show (outboxPlaintext stored ++ (platform.sha256 (outboxPlaintext stored)).toList).take
      ((outboxPlaintext stored ++ (platform.sha256 (outboxPlaintext stored)).toList).length - 32) =
        outboxPlaintext stored by simp, readOutbox,
    run_bind_ok (run_orCorrupt run_readVersion)] at hread
  obtain ⟨context, t, hcont, hread⟩ := run_bind_eq_ok hread
  rw [readContext, if_neg (by decide), run_bind_ok (run_orCorrupt (run_readBlock_iff.mpr rfl)),
    run_bind_ok (run_orCorrupt (run_readLe_iff.mpr rfl)), hnat,
    if_neg (Nat.not_lt.mpr hcount)] at hcont
  obtain ⟨losses, t', hrun, hcont⟩ := run_bind_eq_ok hcont
  obtain ⟨hloss, ht⟩ := readLosses_written hrun
  rw [List.nil_append] at hloss
  cases hcont
  rw [hloss, ht] at hread
  rw [run_bind_ok (run_orCorrupt (run_readLe_iff.mpr rfl))] at hread
  split at hread
  · exact (run_fail_ne_ok hread).elim
  · obtain ⟨result, t'', hreco, hread⟩ := run_bind_eq_ok hread
    cases hread
    have hempty : Consistent ⟨stored.activeSessionId, stored.losses, [], 0,
        decide (kOutboxVersion = 1)⟩ := ⟨by simp, fun hne => absurd rfl hne⟩
    obtain ⟨hcons, hkept, hacti⟩ := consistent_readRecords hreco hempty
    have hvers : kOutboxVersion ≠ 1 := by decide
    refine reserved_settleLoaded outbox hsett hcons ?_ (fun hone => absurd hone hvers) ?_
    · rw [hkept]
      exact hcount
    · intro _ hne
      rw [hkept, hacti hvers]
      refine hstor.room ?_
      -- No records are written of an outbox without any.
      intro hnil
      rw [hnil] at hreco
      cases hreco
      exact hne rfl

end Load

end Nstu.Telemetry.Outbox
