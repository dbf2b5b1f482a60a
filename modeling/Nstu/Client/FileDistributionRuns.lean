import Nstu.Client.FileDistribution
import Mathlib.Data.List.Induction

/-!
# Runs of the file distribution

A run handles any commands with any answers of the system.  `AllOrNothing` says what one step may do: a
target changes only by a finish that has the whole file, whatever else ends a session leaves no part file
behind, and nothing is written outside the staging directory.

The service does not keep to it everywhere.  The finish removes the old target before it renames the new
one, and does not notice when the stream's last bytes are lost; a start overwrites a target whose name is
that of its part file.  `Sound` excludes these steps, and `all_or_nothing` shows that nothing else goes
wrong.
-/

namespace Nstu.Client.FileDistribution

open Wire CType Reader List
open Function (update update_self update_of_ne)

/-! ## Safe names -/

/-- A name that is one component of a path, and no step to a directory. -/
structure Component (name : Bytes) : Prop where
  ne_nil : name ≠ []
  no_separator : ∀ byte ∈ name, isSeparator byte = false
  no_colon : (0x3a : UInt8) ∉ name
  not_dots : name ≠ literal "." ∧ name ≠ literal ".."

lemma not_isForbidden_of_safe {filename : Bytes} (h : isSafeFilename filename) :
    filename ≠ [] ∧ filename.head?.any isSpaceOrDot = false ∧ ∀ byte ∈ filename, isForbidden byte = false := by
  rw [isSafeFilename] at h
  split_ifs at h with he hen hf
  simp only [Bool.or_eq_true, not_or, List.isEmpty_iff] at he
  simp only [Bool.or_eq_true, not_or, Bool.not_eq_true] at hen
  refine ⟨he.1, hen.1, ?_⟩
  intro byte hb
  simp only [any_eq_true, not_exists, not_and, Bool.not_eq_true] at hf
  exact hf byte hb

lemma isSeparator_of_not_isForbidden {byte : UInt8} (h : isForbidden byte = false) :
    isSeparator byte = false ∧ byte ≠ 0x3a := by
  constructor
  · rw [isSeparator, Bool.or_eq_false_iff, beq_eq_false_iff_ne, beq_eq_false_iff_ne]
    constructor
    · rintro rfl
      exact absurd h (by decide)
    · rintro rfl
      exact absurd h (by decide)
  · rintro rfl
    exact absurd h (by decide)

lemma component_of {name : Bytes} (hn : name ≠ []) (hh : name.head?.any isSpaceOrDot = false)
    (h : ∀ byte ∈ name, isForbidden byte = false) : Component name where
  ne_nil := hn
  no_separator byte hb := (isSeparator_of_not_isForbidden (h byte hb)).1
  no_colon hc := (isSeparator_of_not_isForbidden (h _ hc)).2 rfl
  not_dots := by
    constructor
    · rintro rfl
      exact absurd hh (by decide)
    · rintro rfl
      exact absurd hh (by decide)

lemma component_of_safe {filename : Bytes} (h : isSafeFilename filename) : Component filename :=
  have hs := not_isForbidden_of_safe h
  component_of hs.1 hs.2.1 hs.2.2

lemma component_part {filename : Bytes} (h : isSafeFilename filename) :
    Component (filename ++ literal ".nstu_part") := by
  obtain ⟨hn, hh, hb⟩ := not_isForbidden_of_safe h
  refine component_of (by simp [hn]) ?_ ?_
  · cases filename with
    | nil => exact absurd rfl hn
    | cons first rest => exact hh
  · intro byte hby
    rcases mem_append.mp hby with hby | hby
    · exact hb byte hby
    · have hp : (literal ".nstu_part").all (! isForbidden ·) := by decide
      simpa using all_eq_true.mp hp byte hby

lemma Component.components_eq {name : Bytes} (h : Component name) : components name = [name] := by
  have hs : name.splitOnP isSeparator = [name] := by
    rw [splitOnP_eq_singleton]
    intro byte hb
    simpa using h.no_separator byte hb
  rw [components, hs]
  simp [h.ne_nil]

lemma lexicallyRelative_append (base : Path) {path : Path} (hp : path ≠ []) :
    lexicallyRelative (base ++ path) base = path := by
  induction base with
  | nil =>
    cases path with
    | nil => exact absurd rfl hp
    | cons first rest => simp [lexicallyRelative, relativeFrom, levels]
  | cons first base ih => simpa [lexicallyRelative] using ih

/-- **The staging path of a safe name** is the name in the directory. -/
lemma computeStagingPath_eq_some {directory target : Path} {filename : Bytes}
    (h : computeStagingPath directory filename = some target) :
    isSafeFilename filename ∧ target = directory ++ [filename] := by
  rw [computeStagingPath] at h
  split at h
  · cases h
  · rename_i hs
    rw [Bool.not_eq_true', Bool.not_eq_false] at hs
    rw [(component_of_safe hs).components_eq] at h
    simp only [lexicallyRelative_append directory (cons_ne_nil filename [])] at h
    refine ⟨hs, ?_⟩
    split at h
    · cases h
    · cases h
      rfl

lemma partPathOf_append (directory : Path) (name : Bytes) :
    partPathOf (directory ++ [name]) = directory ++ [name ++ literal ".nstu_part"] := by
  simp [partPathOf]

/-- A path that is one component below a directory. -/
def Inside (directory path : Path) : Prop := ∃ name, Component name ∧ path = directory ++ [name]

/-! ## Runs -/

/-- A command, with what the system answers while it is handled. -/
structure Step where
  command : Command
  answers : Answers

/-- The path that a step starts a session for. -/
def Step.target (step : Step) : Option Path :=
  match step.command with
  | .start payload =>
    (decodeWith readStart payload).bind fun message => (admitStart message step.answers).toOption
  | _ => none

/-- The paths that the steps have started sessions for. -/
def targets (steps : List Step) : List Path := steps.filterMap Step.target

/-- The staging directories that the steps have used. -/
def directories (steps : List Step) : List Path := steps.map (·.answers.stagingDirectory)

section Runs

variable {Id : Type} [DecidableEq Id] (ident : Path → Id) (sha256 : Bytes → Option (Block 32))

/-- The received bytes and their part file after one step. -/
def Staging.step (staging : Staging Id) (step : Step) : Staging Id :=
  (handleServerCommand ident sha256 staging step.command step.answers).1

def Staging.run (staging : Staging Id) (steps : List Step) : Staging Id :=
  steps.foldl (Staging.step ident sha256) staging

/-- The step carries a message for the session. -/
def Addressed (step : Step) (session : ActiveFileReceiveSession) : Prop :=
  match step.command with
  | .start _ => False
  | .chunk payload => (decodeWith readChunk payload).map (·.sessionId) = some session.sessionId
  | .finish payload => decodeWith readFinish payload = some session.sessionId
  | .cancel payload => decodeWith readCancel payload = some session.sessionId

/-- The step finishes the session. -/
def Finishes (step : Step) (session : ActiveFileReceiveSession) : Prop :=
  ∃ payload, step.command = .finish payload ∧ decodeWith readFinish payload = some session.sessionId

/-- The chunk of the step goes on with the session: it begins where the last one ended and fits the
announced size. -/
def Progressed (step : Step) (session : ActiveFileReceiveSession) (after : Staging Id) : Prop :=
  ∃ payload message, step.command = .chunk payload ∧ decodeWith readChunk payload = some message ∧
    message.sessionId = session.sessionId ∧ step.answers.armed = false ∧
    message.offset.toNat = session.outFile.length ∧
    session.outFile.length + message.data.length ≤ session.totalSize ∧
    after.session = some (received session message.data)

/-- The step puts the file in its place: the chunks have the announced size and digest. -/
structure Committed (step : Step) (session : ActiveFileReceiveSession) (after : Staging Id) : Prop where
  finishes : Finishes step session
  unarmed : step.answers.armed = false
  size : session.outFile.length = session.totalSize
  digest : sha256 session.outFile = some session.expectedSha256
  target : after.files (ident session.targetPath) = some session.outFile
  part : after.files (ident session.partPath) = none
  ended : after.session = none

/-- The step starts the session, with no bytes yet. -/
def Starts (step : Step) (session : ActiveFileReceiveSession) (after : Staging Id) : Prop :=
  ∃ payload message, step.command = .start payload ∧ decodeWith readStart payload = some message ∧
    step.target = some session.targetPath ∧ session = openedSession message session.targetPath ∧
    after.session = some session ∧ after.files (ident session.partPath) = some []

/-- The session is over, and its part file gone.  Only a start may have begun another session, and then
the part file may be that of the new one. -/
structure Ended (step : Step) (session : ActiveFileReceiveSession) (after : Staging Id) : Prop where
  part : after.files (ident session.partPath) = none ∨
    ∃ next, Starts ident step next after ∧ ident next.partPath = ident session.partPath
  ended : after.session = none ∨ ∃ next, Starts ident step next after

/-- **What a step may do**, after the sessions of `targets` were started in `directories`. -/
structure AllOrNothing (targets directories : List Path) (before : Staging Id) (step : Step)
    (after : Staging Id) : Prop where
  target : ∀ path ∈ targets, after.files (ident path) ≠ before.files (ident path) →
    ∃ session, before.session = some session ∧ ident session.targetPath = ident path ∧
      Committed ident sha256 step session after
  outcome : ∀ session, before.session = some session →
    (¬ Addressed step session ∧ after = before) ∨ Progressed step session after ∨
      Committed ident sha256 step session after ∨ Ended ident step session after
  inside : ∀ id, after.files id ≠ before.files id →
    ∃ directory ∈ directories, ∃ path, Inside directory path ∧ ident path = id

/-- A step that the service is prepared for.  Part files can be removed; what was written is in the part
file when it is finished; a rename fails only where it leaves the old target, because there is none or
it could not be removed; and the part file of a start is no target, nor its target a part file. -/
structure Sound (targets : List Path) (before : Staging Id) (step : Step) : Prop where
  removes : ∀ path, step.answers.removed (partPathOf path) = true
  stores : ∀ session, before.session = some session → Finishes step session →
    session.outFile.length ≤ step.answers.stored
  renames : ∀ session, before.session = some session → Finishes step session →
    step.answers.renamed = true ∨ step.answers.removed session.targetPath = false ∨
      before.files (ident session.targetPath) = none
  apart : ∀ path, step.target = some path → (∀ other ∈ path :: targets, ident (partPathOf path) ≠ ident other) ∧
      ∀ session, before.session = some session → ident session.partPath ≠ ident path

/-- What is known of the active session. -/
structure WellPlaced (targets directories : List Path) (session : ActiveFileReceiveSession) : Prop where
  part : session.partPath = partPathOf session.targetPath
  counted : session.bytesReceived = session.outFile.length
  place : ∃ directory ∈ directories, ∃ filename, isSafeFilename filename = true ∧
    session.targetPath = directory ++ [filename]
  apart : ∀ path ∈ targets, ident session.partPath ≠ ident path
  listed : session.targetPath ∈ targets

/-- The invariant of a run. -/
def Invariant (targets directories : List Path) (staging : Staging Id) : Prop :=
  ∀ session, staging.session = some session → WellPlaced ident targets directories session

/-! ## What a step does -/

/-- The effects of sound steps. -/
inductive Effect (before : Staging Id) (step : Step) : Staging Id → Prop where
  | ignored (haddressed : ∀ session, before.session = some session → ¬ Addressed step session)
      (htarget : step.target = none ) : Effect before step before
  | started {payload : Bytes} {target : Path} {message : FileDistStartMessage} {files : Id → Option Bytes}
      (hcommand : step.command = .start payload) (hmessage : decodeWith readStart payload = some message)
      (htarget : step.target = some target)
      (hkept : ∀ id, files id ≠ before.files id →
        ∃ session, before.session = some session ∧ id = ident session.partPath)
      (hpart : ∀ session, before.session = some session → files (ident session.partPath) = none) :
      Effect before step
        { files := Function.update files (ident (partPathOf target)) (some []),
          session := some (openedSession message target) }
  | notOpened {target : Path} {files : Id → Option Bytes} (htarget : step.target = some target)
      (hkept : ∀ id, files id ≠ before.files id →
        ∃ session, before.session = some session ∧ id = ident session.partPath)
      (hpart : ∀ session, before.session = some session → files (ident session.partPath) = none) :
      Effect before step { files := Function.update files (ident (partPathOf target)) none, session := none }
  | progressed {session : ActiveFileReceiveSession} {data content : Bytes}
      (hsession : before.session = some session) (htarget : step.target = none)
      (hprogress : Progressed step session
        ({ files := Function.update before.files (ident session.partPath) (some content),
           session := some (received session data) } : Staging Id)) :
      Effect before step
        { files := Function.update before.files (ident session.partPath) (some content),
          session := some (received session data) }
  | abandoned {session : ActiveFileReceiveSession} (hsession : before.session = some session)
      (htarget : step.target = none) :
      Effect before step { files := Function.update before.files (ident session.partPath) none, session := none }
  | committed {session : ActiveFileReceiveSession} (hsession : before.session = some session)
      (htarget : step.target = none) (hfinishes : Finishes step session)
      (hunarmed : step.answers.armed = false) (hsize : session.outFile.length = session.totalSize)
      (hdigest : sha256 session.outFile = some session.expectedSha256) :
      Effect before step
        { files := Function.update (Function.update before.files (ident session.partPath) none)
            (ident session.targetPath) (some session.outFile),
          session := none }

section Effects

variable {ident} {sha256} {steps : List Step} {step : Step} {before : Staging Id}
  {session : ActiveFileReceiveSession}

lemma remove_part (hp : session.partPath = partPathOf session.targetPath)
    (hr : ∀ path, step.answers.removed (partPathOf path)) (files : Id → Option Bytes) :
    remove ident step.answers files session.partPath = update files (ident session.partPath) none := by
  rw [remove, hp, if_pos (hr session.targetPath)]

lemma effect_abandon (hs : before.session = some session) (ht : step.target = none)
    (hp : session.partPath = partPathOf session.targetPath)
    (hr : ∀ path, step.answers.removed (partPathOf path)) {files : Id → Option Bytes}
    (hf : ∀ id, id ≠ ident session.partPath → files id = before.files id) (status : FileDistStatus) :
    Effect ident sha256 before step (abandon ident step.answers files session status).1 := by
  have he : update files (ident session.partPath) none =
      update before.files (ident session.partPath) none := by
    funext id
    by_cases hi : id = ident session.partPath
    · rw [hi, update_self, update_self]
    · rw [update_of_ne hi, update_of_ne hi, hf id hi]
  rw [abandon, remove_part hp hr, he]
  exact .abandoned hs ht

lemma effect_start {payload : Bytes} (hcomm : step.command = .start payload)
    (hinv : Invariant ident (targets steps) (directories steps) before)
    (hsound : Sound ident (targets steps) before step) :
    Effect ident sha256 before step (before.step ident sha256 step) := by
  have haddr : ∀ session, before.session = some session → ¬ Addressed step session := by
    intro session _ h
    rwa [Addressed, hcomm] at h
  rw [Staging.step, hcomm]
  cases hdeco : decodeWith readStart payload with
  | none =>
    simp only [handleServerCommand, hdeco]
    exact .ignored haddr (by simp [Step.target, hcomm, hdeco])
  | some message =>
    simp only [handleServerCommand, hdeco, handleStart]
    cases hadmit : admitStart message step.answers with
    | error status =>
      exact .ignored haddr (by simp [Step.target, hcomm, hdeco, hadmit, Except.toOption])
    | ok target =>
      have htarg : step.target = some target := by
        simp [Step.target, hcomm, hdeco, hadmit, Except.toOption]
      have hkept : ∀ id, preempt ident step.answers before id ≠ before.files id →
          ∃ session, before.session = some session ∧ id = ident session.partPath := by
        intro id hid
        rw [preempt] at hid
        cases hsess : before.session with
        | none =>
          rw [hsess] at hid
          exact absurd rfl hid
        | some session =>
          simp only [hsess] at hid
          rw [remove_part (hinv session hsess).part hsound.removes] at hid
          refine ⟨session, rfl, ?_⟩
          by_contra hne
          exact hid (update_of_ne hne _ _)
      have hpart : ∀ session, before.session = some session →
          preempt ident step.answers before (ident session.partPath) = none := by
        intro session hsess
        rw [preempt, hsess]
        simp only
        rw [remove_part (hinv session hsess).part hsound.removes, update_self]
      simp only
      rw [remove, if_pos (hsound.removes target)]
      split
      · exact .notOpened htarg hkept hpart
      · rw [Function.update_idem]
        exact .started hcomm hdeco htarg hkept hpart

lemma effect_forSession {sessionId : UInt64}
    {handler : ActiveFileReceiveSession → Staging Id × Option FileDistStatusMessage}
    (ht : step.target = none)
    (ha : ∀ session, Addressed step session → sessionId = session.sessionId)
    (hh : ∀ session, before.session = some session → session.sessionId = sessionId →
      Effect ident sha256 before step (handler session).1) :
    Effect ident sha256 before step (forSession before sessionId handler).1 := by
  rw [forSession]
  cases hs : before.session with
  | none =>
    refine .ignored ?_ ht
    intro session h
    rw [hs] at h
    cases h
  | some session =>
    by_cases hi : session.sessionId = sessionId
    · simp only [hi, ne_eq, not_true_eq_false, if_false]
      exact hh session hs hi
    · simp only [ne_eq, hi, not_false_eq_true, if_true]
      refine .ignored ?_ ht
      intro other ho h
      rw [hs] at ho
      cases ho
      exact hi (ha session h).symm

lemma effect_chunk {payload : Bytes} (hcomm : step.command = .chunk payload)
    (hinv : Invariant ident (targets steps) (directories steps) before)
    (hsound : Sound ident (targets steps) before step) :
    Effect ident sha256 before step (before.step ident sha256 step) := by
  have htarg : step.target = none := by rw [Step.target, hcomm]
  rw [Staging.step, hcomm]
  cases hdeco : decodeWith readChunk payload with
  | none =>
    simp only [handleServerCommand, hdeco]
    refine .ignored ?_ htarg
    intro session _ h
    rw [Addressed, hcomm] at h
    simp [hdeco] at h
  | some message =>
    simp only [handleServerCommand, hdeco]
    refine effect_forSession htarg ?_ ?_
    · intro session h
      rw [Addressed, hcomm] at h
      simpa [hdeco] using h
    · intro session hsess hid
      have hplac := hinv session hsess
      have haban : ∀ status, Effect ident sha256 before step
          (abandon ident step.answers before.files session status).1 :=
        effect_abandon hsess htarg hplac.part hsound.removes fun _ _ => rfl
      rw [handleChunk]
      split_ifs with harmed hfits hwrote
      · exact haban _
      · exact haban _
      · exact haban _
      · refine .progressed hsess htarg
          ⟨payload, message, hcomm, hdeco, hid.symm, by simpa using harmed, ?_, ?_, rfl⟩
        · rw [← hplac.counted]
          omega
        · rw [← hplac.counted]
          omega

lemma readBuffer_self (content : Bytes) : readBuffer content.length content = content := by
  simp [readBuffer]

lemma remove_of_none {answers : Answers} {files : Id → Option Bytes} {path : Path}
    (h : files (ident path) = none) : remove ident answers files path = files := by
  rw [remove]
  split
  · exact Function.update_eq_self_iff.mpr h.symm
  · rfl

lemma renamePart_remove {answers : Answers} {files : Id → Option Bytes} {content : Bytes}
    (hn : ident session.partPath ≠ ident session.targetPath) :
    renamePart ident (remove ident answers
        (update files (ident session.partPath) (some content)) session.targetPath) session =
      update (update files (ident session.partPath) none)
        (ident session.targetPath) (some content) := by
  funext id
  rw [renamePart, remove]
  by_cases ht : id = ident session.targetPath
  · subst ht
    rw [update_self, update_self]
    split
    · rw [update_of_ne hn, update_self]
    · rw [update_self]
  · rw [update_of_ne ht, update_of_ne ht]
    by_cases hp : id = ident session.partPath
    · rw [hp, update_self, update_self]
    · rw [update_of_ne hp, update_of_ne hp]
      split
      · rw [update_of_ne ht, update_of_ne hp]
      · rw [update_of_ne hp]

lemma effect_finish {payload : Bytes} (hcomm : step.command = .finish payload)
    (hinv : Invariant ident (targets steps) (directories steps) before)
    (hsound : Sound ident (targets steps) before step) :
    Effect ident sha256 before step (before.step ident sha256 step) := by
  have htarg : step.target = none := by rw [Step.target, hcomm]
  rw [Staging.step, hcomm]
  cases hdeco : decodeWith readFinish payload with
  | none =>
    simp only [handleServerCommand, hdeco]
    refine .ignored ?_ htarg
    intro session _ h
    rw [Addressed, hcomm] at h
    simp [hdeco] at h
  | some sessionId =>
    simp only [handleServerCommand, hdeco]
    refine effect_forSession htarg ?_ ?_
    · intro session h
      rw [Addressed, hcomm] at h
      simpa [hdeco] using h
    · intro session hsess hid
      have hplac := hinv session hsess
      have hfini : Finishes step session := ⟨payload, hcomm, by rw [hdeco, hid]⟩
      have hstor := take_of_length_le (hsound.stores session hsess hfini)
      have hne := hplac.apart _ hplac.listed
      have haban : ∀ (files : Id → Option Bytes) status,
          (∀ id, id ≠ ident session.partPath → files id = before.files id) →
          Effect ident sha256 before step (abandon ident step.answers files session status).1 :=
        fun files status hfiles => effect_abandon hsess htarg hplac.part hsound.removes hfiles status
      have hwrit : ∀ id, id ≠ ident session.partPath →
          update before.files (ident session.partPath) (some session.outFile) id =
            before.files id := fun id hid => update_of_ne hid _ _
      simp only [handleFinish, hstor]
      split_ifs with harmed hsize hreop hread hdige hrena
      · exact haban _ _ fun _ _ => rfl
      · exact haban _ _ hwrit
      · exact haban _ _ hwrit
      · exact haban _ _ hwrit
      · exact haban _ _ hwrit
      · -- the rename fails: nothing was at the target, or it could not be removed
        refine haban _ _ fun id hid => ?_
        rcases hsound.renames session hsess hfini with h | h | h
        · simp [h] at hrena
        · rw [remove, h]
          exact hwrit id hid
        · rw [remove_of_none (by rw [update_of_ne hne.symm, h])]
          exact hwrit id hid
      · rw [not_not, hplac.counted] at hsize
        rw [not_not, ← hsize, readBuffer_self] at hdige
        rw [renamePart_remove hne]
        exact .committed hsess htarg hfini (by simpa using harmed) hsize hdige

lemma effect_cancel {payload : Bytes} (hc : step.command = .cancel payload)
    (hi : Invariant ident (targets steps) (directories steps) before)
    (hs : Sound ident (targets steps) before step) :
    Effect ident sha256 before step (before.step ident sha256 step) := by
  have ht : step.target = none := by rw [Step.target, hc]
  rw [Staging.step, hc]
  cases hd : decodeWith readCancel payload with
  | none =>
    simp only [handleServerCommand, hd]
    refine .ignored ?_ ht
    intro session _ h
    rw [Addressed, hc] at h
    simp [hd] at h
  | some sessionId =>
    simp only [handleServerCommand, hd]
    refine effect_forSession ht ?_ ?_
    · intro session h
      rw [Addressed, hc] at h
      simpa [hd] using h
    · intro session hse _
      exact effect_abandon hse ht (hi session hse).part hs.removes (fun _ _ => rfl) _

/-- **Every sound step has one of the effects.** -/
lemma effect (hi : Invariant ident (targets steps) (directories steps) before)
    (hs : Sound ident (targets steps) before step) :
    Effect ident sha256 before step (before.step ident sha256 step) := by
  cases hc : step.command with
  | start payload => exact effect_start hc hi hs
  | chunk payload => exact effect_chunk hc hi hs
  | finish payload => exact effect_finish hc hi hs
  | cancel payload => exact effect_cancel hc hi hs

/-! ## Runs of sound steps -/

lemma mem_targets_append {path : Path} :
    path ∈ targets (steps ++ [step]) ↔ path ∈ targets steps ∨ step.target = some path := by
  rw [targets, targets, filterMap_append, mem_append]
  simp

lemma mem_directories_append {directory : Path} : directory ∈ directories (steps ++ [step]) ↔
      directory ∈ directories steps ∨ directory = step.answers.stagingDirectory := by
  rw [directories, directories, map_append, mem_append]
  simp

lemma place_of_target {target : Path} (h : step.target = some target) :
    ∃ filename, isSafeFilename filename ∧ target = step.answers.stagingDirectory ++ [filename] := by
  rw [Step.target] at h
  split at h
  · obtain ⟨message, -, h⟩ := Option.bind_eq_some_iff.mp h
    rw [admitStart] at h
    split_ifs at h
    · cases h
    · cases h
    · cases h
    · cases hp : computeStagingPath step.answers.stagingDirectory message.filename with
      | none =>
        rw [hp] at h
        cases h
      | some path =>
        rw [hp] at h
        cases h
        exact ⟨message.filename, computeStagingPath_eq_some hp⟩
  · cases h

omit [DecidableEq Id] in
lemma wellPlaced_openedSession {message : FileDistStartMessage} {target : Path}
    (hs : Sound ident (targets steps) before step) (ht : step.target = some target) :
    WellPlaced ident (targets (steps ++ [step])) (directories (steps ++ [step])) (openedSession message target) where
  part := rfl
  counted := rfl
  place := ⟨step.answers.stagingDirectory, mem_directories_append.mpr (.inr rfl), place_of_target ht⟩
  apart := by
    intro path hp
    refine (hs.apart target ht).1 path (mem_cons.mpr ?_)
    rcases mem_targets_append.mp hp with hp | hp
    · exact .inr hp
    · rw [ht] at hp
      cases hp
      exact .inl rfl
  listed := mem_targets_append.mpr (.inr ht)

omit [DecidableEq Id] in
lemma WellPlaced.append (h : WellPlaced ident (targets steps) (directories steps) session)
    (ht : step.target = none) :
    WellPlaced ident (targets (steps ++ [step])) (directories (steps ++ [step])) session where
  part := h.part
  counted := h.counted
  place := by
    obtain ⟨directory, hd, hp⟩ := h.place
    exact ⟨directory, mem_directories_append.mpr (.inl hd), hp⟩
  apart := by
    intro path hpa
    rcases mem_targets_append.mp hpa with hpa | hpa
    · exact h.apart path hpa
    · rw [ht] at hpa
      cases hpa
  listed := mem_targets_append.mpr (.inl h.listed)

omit [DecidableEq Id] in
lemma WellPlaced.received (h : WellPlaced ident (targets steps) (directories steps) session) (data : Bytes) :
    WellPlaced ident (targets steps) (directories steps) (received session data) where
  part := h.part
  counted := by simp only [FileDistribution.received, h.counted, length_append]
  place := h.place
  apart := h.apart
  listed := h.listed

lemma invariant_of_effect {after : Staging Id} (hi : Invariant ident (targets steps) (directories steps) before)
    (hs : Sound ident (targets steps) before step) (he : Effect ident sha256 before step after) :
    Invariant ident (targets (steps ++ [step])) (directories (steps ++ [step])) after := by
  intro session hse
  cases he with
  | ignored _ ht => exact (hi session hse).append ht
  | started _ _ ht _ _ =>
    cases hse
    exact wellPlaced_openedSession hs ht
  | notOpened _ _ _ => cases hse
  | progressed hb ht _ =>
    cases hse
    exact ((hi _ hb).received _).append ht
  | abandoned _ _ | committed _ _ _ _ _ _ => cases hse

omit [DecidableEq Id] in
lemma WellPlaced.inside (h : WellPlaced ident (targets steps) (directories steps) session) (step : Step) :
    ∃ directory ∈ directories (steps ++ [step]),
      Inside directory session.partPath ∧ Inside directory session.targetPath := by
  obtain ⟨directory, hd, filename, hs, ht⟩ := h.place
  refine ⟨directory, mem_directories_append.mpr (.inl hd), ?_, ?_⟩
  · refine ⟨filename ++ literal ".nstu_part", component_part hs, ?_⟩
    rw [h.part, ht, partPathOf_append]
  · exact ⟨filename, component_of_safe hs, ht⟩

lemma inside_of_target {target : Path} (h : step.target = some target) (steps : List Step) :
    ∃ directory ∈ directories (steps ++ [step]), Inside directory (partPathOf target) := by
  obtain ⟨filename, hs, rfl⟩ := place_of_target h
  refine ⟨step.answers.stagingDirectory, mem_directories_append.mpr (.inr rfl), ?_⟩
  exact ⟨filename ++ literal ".nstu_part", component_part hs, partPathOf_append _ _⟩

lemma changed_by_start {target : Path} {files : Id → Option Bytes} {content : Option Bytes} {id : Id}
    (hk : ∀ id, files id ≠ before.files id →
      ∃ session, before.session = some session ∧ id = ident session.partPath)
    (hi : update files (ident (partPathOf target)) content id ≠ before.files id) :
    id = ident (partPathOf target) ∨ ∃ session, before.session = some session ∧ id = ident session.partPath := by
  by_cases hp : id = ident (partPathOf target)
  · exact .inl hp
  · rw [update_of_ne hp] at hi
    exact .inr (hk id hi)

lemma target_of_start {target path : Path} {files : Id → Option Bytes} {content : Option Bytes}
    (hinv : Invariant ident (targets steps) (directories steps) before)
    (hsound : Sound ident (targets steps) before step) (htarg : step.target = some target)
    (hkept : ∀ id, files id ≠ before.files id →
      ∃ session, before.session = some session ∧ id = ident session.partPath)
    (hpath : path ∈ targets (steps ++ [step])) :
    update files (ident (partPathOf target)) content (ident path) = before.files (ident path) := by
  obtain ⟨hpart, hacti⟩ := hsound.apart target htarg
  by_contra hid
  rcases changed_by_start hkept hid with h | ⟨session, hsess, h⟩
  · refine hpart path (mem_cons.mpr ?_) h.symm
    rcases mem_targets_append.mp hpath with hpath | hpath
    · exact .inr hpath
    · rw [htarg] at hpath
      cases hpath
      exact .inl rfl
  · rcases mem_targets_append.mp hpath with hpath | hpath
    · exact (hinv session hsess).apart path hpath h.symm
    · rw [htarg] at hpath
      cases hpath
      exact hacti session hsess h.symm

lemma inside_of_part {files : Id → Option Bytes} {content : Option Bytes} {id : Id}
    (hp : WellPlaced ident (targets steps) (directories steps) session)
    (hi : update files (ident session.partPath) content id ≠ files id) :
    ∃ directory ∈ directories (steps ++ [step]), ∃ path, Inside directory path ∧ ident path = id := by
  obtain ⟨directory, hd, hpa, -⟩ := hp.inside step
  refine ⟨directory, hd, session.partPath, hpa, ?_⟩
  by_contra hn
  exact hi (update_of_ne (Ne.symm hn) _ _)

lemma target_of_part {path : Path} {content : Option Bytes}
    (hp : WellPlaced ident (targets steps) (directories steps) session)
    (ht : step.target = none) (hpa : path ∈ targets (steps ++ [step])) :
    update before.files (ident session.partPath) content (ident path) = before.files (ident path) := by
  rcases mem_targets_append.mp hpa with hpa | hpa
  · exact update_of_ne (hp.apart path hpa).symm _ _
  · rw [ht] at hpa
    cases hpa

lemma inside_of_start {target : Path} {files : Id → Option Bytes} {content : Option Bytes} {id : Id}
    (hi : Invariant ident (targets steps) (directories steps) before)
    (ht : step.target = some target)
    (hk : ∀ id, files id ≠ before.files id →
      ∃ session, before.session = some session ∧ id = ident session.partPath)
    (hid : update files (ident (partPathOf target)) content id ≠ before.files id) :
    ∃ directory ∈ directories (steps ++ [step]), ∃ path, Inside directory path ∧ ident path = id := by
  rcases changed_by_start hk hid with rfl | ⟨session, hs, rfl⟩
  · obtain ⟨directory, hd, hin⟩ := inside_of_target ht steps
    exact ⟨directory, hd, partPathOf target, hin, rfl⟩
  · obtain ⟨directory, hd, hp, -⟩ := (hi session hs).inside step
    exact ⟨directory, hd, session.partPath, hp, rfl⟩

lemma allOrNothing_of_effect {after : Staging Id} (hinv : Invariant ident (targets steps) (directories steps) before)
    (hsound : Sound ident (targets steps) before step) (heffe : Effect ident sha256 before step after) :
    AllOrNothing ident sha256 (targets (steps ++ [step])) (directories (steps ++ [step])) before step
      after := by
  cases heffe with
  | ignored haddr _ =>
    exact ⟨fun path _ h => absurd rfl h, fun session hsess => .inl ⟨haddr session hsess, rfl⟩,
      fun id h => absurd rfl h⟩
  | @started payload target message files hcomm hmess htarg hkept hpart =>
    have hstarts : Starts ident step (openedSession message target)
        ⟨update files (ident (partPathOf target)) (some []), some (openedSession message target)⟩ :=
      ⟨payload, message, hcomm, hmess, htarg, rfl, rfl, update_self ..⟩
    refine ⟨?_, ?_, fun id hid => inside_of_start hinv htarg hkept hid⟩
    · intro path hpath h
      exact absurd (target_of_start hinv hsound htarg hkept hpath) h
    · intro session hsess
      refine .inr (.inr (.inr ⟨?_, ?_⟩))
      · by_cases hsame : ident session.partPath = ident (partPathOf target)
        · exact .inr ⟨_, hstarts, hsame.symm⟩
        · exact .inl ((update_of_ne hsame _ _).trans (hpart session hsess))
      · exact .inr ⟨_, hstarts⟩
  | @notOpened target files htarg hkept hpart =>
    refine ⟨?_, ?_, fun id hid => inside_of_start hinv htarg hkept hid⟩
    · intro path hpath h
      exact absurd (target_of_start hinv hsound htarg hkept hpath) h
    · intro session hsess
      refine .inr (.inr (.inr ⟨.inl ?_, ?_⟩))
      · by_cases hsame : ident session.partPath = ident (partPathOf target)
        · simp only [hsame, update_self]
        · exact (update_of_ne hsame _ _).trans (hpart session hsess)
      · exact .inl rfl
  | @progressed session data content hsess htarg hprog =>
    refine ⟨?_, ?_, fun id hid => inside_of_part (hinv session hsess) hid⟩
    · intro path hpath h
      exact absurd (target_of_part (hinv session hsess) htarg hpath) h
    · intro other hother
      rw [hsess] at hother
      cases hother
      exact .inr (.inl hprog)
  | @abandoned session hsess htarg =>
    refine ⟨?_, ?_, fun id hid => inside_of_part (hinv session hsess) hid⟩
    · intro path hpath h
      exact absurd (target_of_part (hinv session hsess) htarg hpath) h
    · intro other hother
      rw [hsess] at hother
      cases hother
      exact .inr (.inr (.inr ⟨.inl (update_self ..), .inl rfl⟩))
  | @committed session hsess htarg hfini hunar hsize hdige =>
    have hplac := hinv session hsess
    have hcomm : Committed ident sha256 step session
        ({ files := update (update before.files (ident session.partPath) none)
             (ident session.targetPath) (some session.outFile),
           session := none } : Staging Id) :=
      { finishes := hfini, unarmed := hunar, size := hsize, digest := hdige
        target := update_self ..
        part := (update_of_ne (hplac.apart _ hplac.listed) _ _).trans (update_self ..)
        ended := rfl }
    refine ⟨?_, ?_, ?_⟩
    · intro path hpath h
      refine ⟨session, hsess, ?_, hcomm⟩
      by_contra hne
      simp only [update_of_ne (Ne.symm hne)] at h
      exact h (target_of_part hplac htarg hpath)
    · intro other hother
      rw [hsess] at hother
      cases hother
      exact .inr (.inr (.inl hcomm))
    · intro id hid
      by_cases hsame : id = ident session.targetPath
      · obtain ⟨directory, hdire, -, hinsi⟩ := hplac.inside step
        exact ⟨directory, hdire, session.targetPath, hinsi, hsame.symm⟩
      · simp only [update_of_ne hsame] at hid
        exact inside_of_part hplac hid

/-- **Distribution is all or nothing.**  In a run of sound steps, from any files and no session, every
step leaves the targets as they are or puts a whole file in its place. -/
theorem all_or_nothing (before : Staging Id) (hidle : before.session = none) (steps : List Step)
    (hsound : ∀ first step rest, steps = first ++ step :: rest →
      Sound ident (targets first) (before.run ident sha256 first) step) :
    ∀ first step rest, steps = first ++ step :: rest →
      AllOrNothing ident sha256 (targets (first ++ [step])) (directories (first ++ [step]))
        (before.run ident sha256 first) step (before.run ident sha256 (first ++ [step])) := by
  have hinv : ∀ first rest, steps = first ++ rest →
      Invariant ident (targets first) (directories first) (before.run ident sha256 first) := by
    intro first
    induction first using List.reverseRecOn with
    | nil =>
      intro rest _ session hsession
      rw [Staging.run, List.foldl_nil, hidle] at hsession
      cases hsession
    | append_singleton first step ih =>
      intro rest hrest
      have hsplit : steps = first ++ step :: rest := by rw [hrest, List.append_assoc]; rfl
      have hstep := hsound first step rest hsplit
      rw [Staging.run, List.foldl_append, List.foldl_cons, List.foldl_nil, ← Staging.run]
      exact invariant_of_effect (ih _ hsplit) hstep (effect (ih _ hsplit) hstep)
  intro first step rest hsplit
  have hstep := hsound first step rest hsplit
  rw [Staging.run, Staging.run, List.foldl_append, List.foldl_cons, List.foldl_nil, ← Staging.run]
  exact allOrNothing_of_effect (hinv first _ hsplit) hstep (effect (hinv first _ hsplit) hstep)

end Effects

end Runs

/-! ## A file of one byte -/

/-- The digest of the byte `a`. -/
def letterDigest : Block 32 where
  toList := [0xca, 0x97, 0x81, 0x12, 0xca, 0x1b, 0xbd, 0xca, 0xfa, 0xc2, 0x31, 0xb3, 0x9a, 0x23, 0xdc, 0x4d,
    0xa7, 0x86, 0xef, 0xf8, 0x14, 0x7c, 0x4e, 0x72, 0xb9, 0x80, 0x77, 0x85, 0xaf, 0xee, 0x48, 0xbb]
  length_toList := rfl

/-- SHA-256, as far as it is needed here. -/
def letterSha256 (content : Bytes) : Option (Block 32) :=
  if content = [0x61] then some letterDigest else none

/-- The directory `C:/Users/Public/Documents/NSTU_Received`. -/
def publicDirectory : Path := ["C:", "Users", "Public", "Documents", "NSTU_Received"].map literal

/-- A system that does all it is asked, but for the renaming. -/
def letterAnswers (renamed : Bool) : Answers where
  armed := false
  stagingDirectory := publicDirectory
  opened := true
  wrote := true
  stored := 1
  reopened := true
  read := true
  renamed
  removed _ := true

/-- A file `x` with the byte `a`. -/
def letterSteps (renamed : Bool) : List Step :=
  [⟨.start (le (7 : UInt64) ++ le (1 : UInt64) ++ letterDigest.toList ++ le (1 : UInt16) ++ literal "x"),
      letterAnswers true⟩,
    ⟨.chunk (le (7 : UInt64) ++ le (0 : UInt64) ++ le (1 : UInt32) ++ literal "a"), letterAnswers true⟩,
    ⟨.finish (le (7 : UInt64)), letterAnswers renamed⟩]

/-- The disk has an old file `x`. -/
def oldFile : Staging Path where
  files path := if path = publicDirectory ++ [literal "x"] then some (literal "old") else none
  session := none

lemma forall_split_cons {α : Type} {P : List α → α → Prop} {a : α} {l : List α} (hf : P [] a)
    (hr : ∀ first step rest, l = first ++ step :: rest → P (a :: first) step) :
    ∀ first step rest, a :: l = first ++ step :: rest → P first step := by
  intro first step rest h
  cases first with
  | nil =>
    cases h
    exact hf
  | cons head first =>
    cases h
    exact hr first step rest rfl

lemma sound_letterSteps : ∀ first step rest, letterSteps true = first ++ step :: rest →
    Sound id (targets first) (oldFile.run id letterSha256 first) step := by
  refine forall_split_cons ?_ (forall_split_cons ?_ (forall_split_cons ?_ (by simp)))
  · refine ⟨fun _ => rfl, ?_, ?_, ?_⟩
    · rintro session - ⟨payload, hc, -⟩
      cases hc
    · rintro session - ⟨payload, hc, -⟩
      cases hc
    · intro path hp
      obtain rfl : publicDirectory ++ [literal "x"] = path := by
        rw [← Option.some.injEq, ← hp]
        decide
      refine ⟨by decide, ?_⟩
      rintro session ⟨⟩
  · refine ⟨fun _ => rfl, ?_, ?_, ?_⟩
    · rintro session - ⟨payload, hc, -⟩
      cases hc
    · rintro session - ⟨payload, hc, -⟩
      cases hc
    · rintro path ⟨⟩
  · refine ⟨fun _ => rfl, ?_, fun _ _ _ => .inl rfl, ?_⟩
    · intro session hs _
      have hl : (oldFile.run id letterSha256 ((letterSteps true).take 2)).session.map
          (·.outFile.length) = some 1 := by decide
      have hs := congrArg (Option.map (·.outFile.length)) hs
      exact (Option.some.inj (hs.symm.trans hl)).le
    · rintro path ⟨⟩

/-- The old file gives way to the new one. -/
theorem letter_replaces_old :
    AllOrNothing id letterSha256 (targets (letterSteps true)) (directories (letterSteps true))
        (oldFile.run id letterSha256 ((letterSteps true).take 2))
        ⟨.finish (le (7 : UInt64)), letterAnswers true⟩ (oldFile.run id letterSha256 (letterSteps true)) ∧
      (oldFile.run id letterSha256 (letterSteps true)).files (publicDirectory ++ [literal "x"]) =
        some (literal "a") :=
  ⟨all_or_nothing oldFile rfl (letterSteps true) sound_letterSteps ((letterSteps true).take 2) _ [] rfl,
    by decide⟩

/-- The rename fails after the old file was removed: neither file is there. -/
theorem failed_rename_loses_old : ¬ (∀ first step rest, letterSteps false = first ++ step :: rest →
      AllOrNothing id letterSha256 (targets (first ++ [step])) (directories (first ++ [step]))
        (oldFile.run id letterSha256 first) step (oldFile.run id letterSha256 (first ++ [step]))) := by
  intro h
  have hfinish := h ((letterSteps false).take 2) ⟨.finish (le (7 : UInt64)), letterAnswers false⟩ [] rfl
  obtain ⟨session, -, htarget, hcommitted⟩ :=
    hfinish.target (publicDirectory ++ [literal "x"]) (by decide) (by decide)
  have hcontent := hcommitted.target
  rw [htarget] at hcontent
  have hlost : (oldFile.run id letterSha256 (letterSteps false)).files (publicDirectory ++ [literal "x"]) =
      none := by decide
  cases hcontent.symm.trans hlost

end Nstu.Client.FileDistribution
