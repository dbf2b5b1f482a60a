import Nstu.Exam.Journal.Log

/-!
# Crash recovery of the answer journal

`Represents journal log` ties an `AnswerJournal` to the abstract log of accepted events: the
sessions are the replay of the log, and the file is the records of the log, possibly followed by
part of one more record when a failed write closed the journal.

* `open_represents`: opening any file gives a journal that represents the records found in it.
* `append_represents` is the step lemma and `appendRun_represents` the run lemma.
* `open_cut` opens every byte prefix of a log.
* `journal_crash_recovery` puts them together.
-/

namespace Nstu

open Wire FramedLog List

/-! ## Runs of `append` -/

section Runs

variable (sha256 : Bytes → Digest)

/-- The journal after a run of `append` calls. -/
def appendRun : AnswerJournal → List (AppendCalls × AnswerEvent) → AnswerJournal
  | journal, [] => journal
  | journal, (calls, event) :: rest => appendRun (journal.append sha256 calls event).journal rest

/-- The events a run of `append` calls reported as accepted, in order. -/
def acceptedEvents : AnswerJournal → List (AppendCalls × AnswerEvent) → List AnswerEvent
  | _, [] => []
  | journal, (calls, event) :: rest =>
    let result := journal.append sha256 calls event
    if result.outcome.status = .accepted then event :: acceptedEvents result.journal rest
    else acceptedEvents result.journal rest

/-- Part of a record that a failed write left behind, in a journal that this closed. -/
def Leftover (journal : AnswerJournal) (log : List AnswerEvent) (left : Bytes) : Prop :=
  left = [] ∨ journal.isOpen = false ∧
    ∃ event, Acceptable (replay sha256 log) event ∧ left <+: journalRecord sha256 event

/-- The journal holds the accepted events `log`, in memory and in its file. -/
structure Represents (journal : AnswerJournal) (log : List AnswerEvent) : Prop where
  acceptedLog : AcceptedLog sha256 log
  sessions : journal.sessions = replay sha256 log
  eventCount : journal.eventCount = log.length
  file : ∃ left, journal.file = logBytes (journalRecord sha256) log ++ left ∧
    Leftover sha256 journal log left
  size : journal.file.length ≤ kMaximumJournalBytes

end Runs

variable {sha256 : Bytes → Digest} {journal : AnswerJournal} {log : List AnswerEvent}

lemma Represents.file_of_isOpen (h : Represents sha256 journal log) (ho : journal.isOpen) :
    journal.file = logBytes (journalRecord sha256) log := by
  obtain ⟨left, hf, hl⟩ := h.file
  rcases hl with rfl | ⟨hc, -⟩
  · simpa using hf
  · rw [ho] at hc
    cases hc

/-! ## Opening a file -/

/-- What `open` makes of a successful scan. -/
def recoveredJournal (bytes : Bytes) (recovered : Recovered Index) : AnswerJournal :=
  ⟨true, recovered.torn, recovered.state.eventCount, recovered.state.sessions,
    bytes.take (bytes.length - recovered.left.length)⟩

lemma eq_nil_of_nextRecord_finished {rest : Bytes} (h : nextRecord sha256 rest = .finished) : rest = [] := by
  unfold nextRecord at h
  dsimp only at h
  split at h
  · rename_i he
    simpa using he
  · exfalso
    repeat' (split at h)
    all_goals cases h

lemma scan_left_nil_of_not_torn {bytes : Bytes} {recovered : Recovered Index}
    (h : scan (nextRecord sha256) (recoverEvent sha256) ⟨∅, 0⟩ bytes = .ok recovered)
    (hto : ¬ (recovered.torn ∧ bytes.length - recovered.left.length < bytes.length)) :
    bytes.take (bytes.length - recovered.left.length) = bytes := by
  have hb := (scan_frames nextRecord_canonical h).2
  by_cases ht : recovered.torn
  · have : ¬ bytes.length - recovered.left.length < bytes.length := fun hl => hto ⟨ht, hl⟩
    exact take_of_length_le (by omega)
  · have hn := scan_left_eq_nil (fun _ => eq_nil_of_nextRecord_finished) h (by simpa using ht)
    exact take_of_length_le (by simp [hn])

lemma open_of_scan {succeeds : OpenStep → Bool} (hs : ∀ step, succeeds step)
    {file : Option Bytes} (hsi : (file.getD []).length ≤ kMaximumJournalBytes) {recovered : Recovered Index}
    (h : scan (nextRecord sha256) (recoverEvent sha256) ⟨∅, 0⟩ (file.getD []) = .ok recovered) :
    AnswerJournal.open sha256 succeeds file = .ok (recoveredJournal (file.getD []) recovered) := by
  simp only [AnswerJournal.open]
  simp only [hs, Bool.not_true, Bool.false_eq_true, Bool.and_false, if_false, if_neg (Nat.not_lt.mpr hsi), h]
  split
  · rfl
  · rename_i ht
    simp only [Bool.and_eq_true, decide_eq_true_eq] at ht
    rw [recoveredJournal, scan_left_nil_of_not_torn h ht]

variable {succeeds : OpenStep → Bool} {file : Option Bytes}

lemma open_eq_ok (h : AnswerJournal.open sha256 succeeds file = .ok journal) :
    (file.getD []).length ≤ kMaximumJournalBytes ∧ ∃ recovered,
      scan (nextRecord sha256) (recoverEvent sha256) ⟨∅, 0⟩ (file.getD []) = .ok recovered ∧
      journal = recoveredJournal (file.getD []) recovered := by
  unfold AnswerJournal.open at h
  dsimp only at h
  iterate 6 (split at h; · cases h)
  split at h
  · cases h
  rename_i hs
  refine ⟨Nat.not_lt.mp hs, ?_⟩
  split at h
  · cases h
  rename_i recovered hsc
  refine ⟨recovered, hsc, ?_⟩
  split at h
  · split at h
    · cases h
    · exact (Except.ok.inj h).symm
  · rename_i ht
    simp only [Bool.and_eq_true, decide_eq_true_eq] at ht
    rw [recoveredJournal, scan_left_nil_of_not_torn hsc ht]
    exact (Except.ok.inj h).symm

/-- **Whatever file `open` accepts, the journal represents the records found in it.** -/
theorem open_represents (h : AnswerJournal.open sha256 succeeds file = .ok journal) :
    Represents sha256 journal (frames (nextRecord sha256) (file.getD [])) ∧ journal.isOpen := by
  obtain ⟨hs, recovered, hsc, rfl⟩ := open_eq_ok h
  obtain ⟨hf, hb⟩ := scan_frames nextRecord_canonical hsc
  generalize hl : frames (nextRecord sha256) (file.getD []) = log at hf hb
  have hfi : (file.getD []).take ((file.getD []).length - recovered.left.length) =
      logBytes (journalRecord sha256) log := by
    rw [hb, length_append, Nat.add_sub_cancel, take_left]
  obtain ⟨ha, hst⟩ := (foldlM_recoverEvent_iff .nil).mp hf
  rw [nil_append] at ha hst
  refine ⟨⟨ha, ?_, ?_, ⟨[], ?_, .inl rfl⟩, ?_⟩, rfl⟩
  · simp only [recoveredJournal, hst, indexOf]
  · simp only [recoveredJournal, hst, indexOf]
  · simp only [recoveredJournal, hfi, append_nil]
  · simp only [recoveredJournal, length_take]
    omega

/-- The accepted events whose records lie wholly inside a cut of the file. -/
def wholeRecords (sha256 : Bytes → Digest) (log : List AnswerEvent) (cut : Bytes) :
    List AnswerEvent :=
  log.take (wholeFrames (journalRecord sha256) log cut.length)

variable {cut : Bytes}

lemma logBytes_wholeRecords_inside (hc : cut <+: logBytes (journalRecord sha256) log) :
    logBytes (journalRecord sha256) (wholeRecords sha256 log cut) <+: cut := by
  refine prefix_of_prefix_length_le (logBytes_mono ( take_prefix _ _)) hc ?_
  exact (wholeFrames_spec (journalRecord sha256) log cut.length).1

lemma not_logBytes_concat_wholeRecords_inside {event : AnswerEvent}
    (he : wholeRecords sha256 log cut ++ [event] <+: log) :
    ¬ logBytes (journalRecord sha256) (wholeRecords sha256 log cut ++ [event]) <+: cut := by
  obtain ⟨-, hn⟩ := wholeFrames_spec (journalRecord sha256) log cut.length
  have hl : (wholeRecords sha256 log cut).length = wholeFrames (journalRecord sha256) log cut.length := by
    rw [wholeRecords, length_take]
    exact Nat.min_eq_left (wholeFrames_le _ _ _)
  have hlt := he.length_le
  rw [length_append, length_singleton, hl] at hlt
  have ht : wholeRecords sha256 log cut ++ [event] =
      log.take (wholeFrames (journalRecord sha256) log cut.length + 1) := by
    have := prefix_iff_eq_take.mp he
    rwa [length_append, length_singleton, hl] at this
  intro hi
  have hle := hi.length_le
  rw [ht] at hle
  have := hn hlt
  omega

lemma eq_logBytes_wholeRecords_iff (hc : cut <+: logBytes (journalRecord sha256) log) :
    cut = logBytes (journalRecord sha256) (wholeRecords sha256 log cut) ↔
      ∃ events, events <+: log ∧ cut = logBytes (journalRecord sha256) events := by
  have h := @take_eq_logBytes_wholeFrames_iff _ (journalRecord sha256) log cut.length
  rwa [← prefix_iff_eq_take.mp hc] at h

/-- **Opening a byte prefix of a log.**  The journal holds the events whose records are whole. -/
theorem open_cut (hlog : AcceptedLog sha256 log)
    (hcut : cut <+: logBytes (journalRecord sha256) log) (hsize : cut.length ≤ kMaximumJournalBytes)
    (hsucc : ∀ step, succeeds step) :
    let whole := wholeRecords sha256 log cut
    AnswerJournal.open sha256 succeeds (some cut) =
      .ok ⟨true, decide (cut ≠ logBytes (journalRecord sha256) whole), whole.length,
        replay sha256 whole, logBytes (journalRecord sha256) whole⟩ := by
  intro whole
  have hfram : ∀ event ∈ log, Framed (nextRecord sha256) (journalRecord sha256) event :=
    fun event hevent => nextRecord_framed (hlog.valid event hevent)
  have hfold : whole.foldlM (recoverEvent sha256) (indexOf sha256 []) =
      .ok (indexOf sha256 whole) := (foldlM_recoverEvent_iff .nil).mpr ⟨hlog.take _, rfl⟩
  have hscan := scan_take nextRecord_nil hfram hfold
  rw [← prefix_iff_eq_take.mp hcut] at hscan
  set left := (logBytes (journalRecord sha256) (log.drop (wholeFrames (journalRecord sha256) log cut.length))).take
      (cut.length - (logBytes (journalRecord sha256)
        (log.take (wholeFrames (journalRecord sha256) log cut.length))).length)
  have hsplit : cut = logBytes (journalRecord sha256) whole ++ left := by
    conv_lhs =>
      rw [prefix_iff_eq_take.mp hcut,
        ← take_append_drop (wholeFrames (journalRecord sha256) log cut.length) log]
    rw [logBytes_append, take_append, take_of_length_le]
    · rfl
    · exact (logBytes_wholeRecords_inside hcut).length_le
  have htake : cut.take (cut.length - left.length) = logBytes (journalRecord sha256) whole := by
    rw [hsplit, length_append, Nat.add_sub_cancel, take_left]
  have htorn : left ≠ [] ↔ cut ≠ logBytes (journalRecord sha256) whole := by
    rw [hsplit]
    simp
  have hopen := @open_of_scan sha256 succeeds hsucc (some cut) hsize _ hscan
  rw [hopen, recoveredJournal, Option.getD_some, htake, decide_eq_decide.mpr htorn, indexOf]

/-- A journal created where no file was. -/
def newJournal : AnswerJournal := ⟨true, false, 0, ∅, []⟩

lemma open_absent (hs : ∀ step, succeeds step) :
    AnswerJournal.open sha256 succeeds none = .ok newJournal :=
  @open_of_scan sha256 succeeds hs none (Nat.zero_le _) _ (scan_nil nextRecord_nil)

lemma eq_newJournal (h : AnswerJournal.open sha256 succeeds none = .ok journal) : journal = newJournal := by
  obtain ⟨-, recovered, hs, rfl⟩ := open_eq_ok h
  rw [Option.getD_none, scan_nil nextRecord_nil] at hs
  cases hs
  rfl

lemma newJournal_represents : Represents sha256 newJournal [] :=
  ⟨.nil, rfl, rfl, ⟨[], rfl, .inl rfl⟩, Nat.zero_le _⟩

/-! ## Appending -/

/-- The log after one call of `append`. -/
def logAfter (log : List AnswerEvent) (event : AnswerEvent) (status : AppendStatus) :
    List AnswerEvent :=
  if status = .accepted then log ++ [event] else log

/-- **One call of `append` keeps the journal and its log in step.** -/
theorem append_represents (calls : AppendCalls) (event : AnswerEvent) (h : Represents sha256 journal log) :
    let result := journal.append sha256 calls event
    Represents sha256 result.journal (logAfter log event result.outcome.status) := by
  have he := append_exit sha256 calls journal event
  generalize journal.append sha256 calls event = result at he
  cases he with
  | notOpen | invalid | sessionQuota | conflict | duplicate | rejected | gap => exact h
  | stopped left error ho ha hl =>
    rw [h.sessions] at ha
    refine ⟨h.acceptedLog, h.sessions, h.eventCount, ⟨(journalRecord sha256 event).take left, ?_,
        .inr ⟨rfl, event, ha, take_prefix _ _⟩⟩, ?_⟩
    · simp only [h.file_of_isOpen ho, logAfter, reduceCtorEq, if_false]
    have hs := h.size
    rcases hl with rfl | ⟨-, hf⟩
    · simpa using hs
    · simp only [RecordFits] at hf
      simp only [length_append, length_take]
      omega
  | accepted ho ha hf hw =>
    rw [h.sessions] at ha
    refine ⟨.snoc h.acceptedLog ha, ?_, ?_, ⟨[], ?_, .inl rfl⟩, ?_⟩
    · simp only [AnswerJournal.accepted, h.sessions, logAfter, if_true, replay_concat]
    · simp [AnswerJournal.accepted, h.eventCount, logAfter]
    · simp [AnswerJournal.accepted, h.file_of_isOpen ho, logAfter]
    · simp only [AnswerJournal.accepted, length_append]
      exact hf

/-- A run of `append` calls extends the log by the events it accepted. -/
theorem appendRun_represents (run : List (AppendCalls × AnswerEvent)) (h : Represents sha256 journal log) :
    Represents sha256 (appendRun sha256 journal run) (log ++ acceptedEvents sha256 journal run) := by
  induction run generalizing journal log with
  | nil => simpa [appendRun, acceptedEvents] using h
  | cons call rest ih =>
    obtain ⟨calls, event⟩ := call
    have hr := ih (append_represents calls event h)
    simp only [appendRun, acceptedEvents]
    by_cases hs : (journal.append sha256 calls event).outcome.status = .accepted
    · simpa [logAfter, hs] using hr
    · simpa [logAfter, hs] using hr

lemma append_file {calls : AppendCalls} (hw : calls.writeFailure = none) (event : AnswerEvent)
    (hf : journal.file = logBytes (journalRecord sha256) log) :
    let result := journal.append sha256 calls event
    result.journal.file = logBytes (journalRecord sha256) (logAfter log event result.outcome.status) := by
  have he := append_exit sha256 calls journal event
  generalize journal.append sha256 calls event = result at he
  cases he with
  | notOpen | invalid | sessionQuota | conflict | duplicate | rejected | gap => exact hf
  | stopped left error ho ha hl =>
    rcases hl with rfl | ⟨hfa, -⟩
    · simpa [logAfter] using hf
    · rw [hw] at hfa
      cases hfa
  | accepted ho ha hfi => simp [AnswerJournal.accepted, hf, logAfter]

lemma appendRun_file (run : List (AppendCalls × AnswerEvent)) (hw : ∀ call ∈ run, call.1.writeFailure = none)
    (hf : journal.file = logBytes (journalRecord sha256) log) : (appendRun sha256 journal run).file =
      logBytes (journalRecord sha256) (log ++ acceptedEvents sha256 journal run) := by
  induction run generalizing journal log with
  | nil => simpa [appendRun, acceptedEvents] using hf
  | cons call rest ih =>
    obtain ⟨calls, event⟩ := call
    have hr := ih (fun call hc => hw call (mem_cons_of_mem _ hc))
      (append_file (hw (calls, event) (by simp)) event hf)
    simp only [appendRun, acceptedEvents]
    by_cases hs : (journal.append sha256 calls event).outcome.status = .accepted
    · simpa [logAfter, hs] using hr
    · simpa [logAfter, hs] using hr

/-! ## Crash recovery -/

/-- **Crash recovery.**  After any run of `append` calls on a new journal, every byte prefix of the
file opens: to the events whose records are whole inside the prefix, with the rest cut off. -/
theorem journal_crash_recovery {succeeds : OpenStep → Bool}
    (hopen : AnswerJournal.open sha256 succeeds none = .ok journal)
    (run : List (AppendCalls × AnswerEvent))
    (hwrites : ∀ call ∈ run, call.1.writeFailure = none) :
    let live := appendRun sha256 journal run
    let accepted := acceptedEvents sha256 journal run
    (∀ cut, cut <+: live.file → ∃ whole recovered,
      -- the accepted events whose records lie wholly inside the cut
      whole <+: accepted ∧ logBytes (journalRecord sha256) whole <+: cut ∧
      (∀ event, whole ++ [event] <+: accepted → ¬ logBytes (journalRecord sha256) (whole ++ [event]) <+: cut) ∧
      AnswerJournal.open sha256 (fun _ => true) (some cut) = .ok recovered ∧
      recovered.isOpen = true ∧
      recovered.sessions = replay sha256 whole ∧
      recovered.eventCount = whole.length ∧
      recovered.file = logBytes (journalRecord sha256) whole ∧
      (recovered.recoveredTail = true ↔
        ¬ ∃ events, events <+: accepted ∧ cut = logBytes (journalRecord sha256) events)) ∧
    AnswerJournal.open sha256 (fun _ => true) (some live.file) =
      .ok { live with isOpen := true, recoveredTail := false } := by
  intro live accepted
  obtain rfl := eq_newJournal hopen
  have hrepresents : Represents sha256 live accepted := appendRun_represents run newJournal_represents
  have hfile : live.file = logBytes (journalRecord sha256) accepted := by
    have hnew : newJournal.file = logBytes (journalRecord sha256) [] := rfl
    exact appendRun_file run hwrites hnew
  have hsize := hrepresents.size
  refine ⟨fun cut hcut => ?_, ?_⟩
  · have hlen := hcut.length_le
    rw [hfile] at hcut
    refine ⟨wholeRecords sha256 accepted cut, _, List.take_prefix _ _,
      logBytes_wholeRecords_inside hcut, fun event => not_logBytes_concat_wholeRecords_inside,
      open_cut hrepresents.acceptedLog hcut (by omega) (fun _ => rfl), rfl, rfl, rfl, rfl, ?_⟩
    rw [decide_eq_true_iff, ← eq_logBytes_wholeRecords_iff hcut]
  · have hall : wholeRecords sha256 accepted live.file = accepted := by
      rw [wholeRecords, wholeFrames_of_length_le _ _ _ (Nat.le_of_eq (by rw [hfile])),
        List.take_length]
    rw [open_cut hrepresents.acceptedLog (hfile ▸ List.prefix_rfl) hsize (fun _ => rfl), hall,
      ← hfile, ← hrepresents.sessions, ← hrepresents.eventCount]
    simp

/-- A run that stores one answer, reopened. -/
theorem journal_crash_recovery_firstAnswer :
    let live := appendRun firstSha256 newJournal [(⟨1, true, none⟩, firstAnswer)]
    AnswerJournal.open firstSha256 (fun _ => true) (some live.file) =
      .ok { live with isOpen := true, recoveredTail := false } :=
  (journal_crash_recovery (open_absent fun _ => rfl) [(⟨1, true, none⟩, firstAnswer)]
    (by simp)).2

end Nstu
