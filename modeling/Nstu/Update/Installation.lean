import Nstu.Update.SavedRecord

/-!
# The last good installation

What the operations of the staging controller do to the active directory and to the backup.  `Installation` keeps
the contents of the installation that was last good beside the system: what was there at the start, and what is
active whenever a commit succeeds.

An update is careful if nothing takes the only copy of it away (`Careful`).  In a run of careful steps it is never
lost (`protected_of_run`).
-/

namespace Nstu.Update

open Wire CType Text JsonText

namespace System

/-! ## What leaves the directories alone -/

/-- Another content of the file of the record. -/
def withRecord (system : System) (record : Option Bytes) : System :=
  { system with disk := { system.disk with record := record } }

lemma saveRecordToDisk_eq (calls : Calls) (system : System) :
    ∃ record, system.saveRecordToDisk calls = system.withRecord record := by
  rw [saveRecordToDisk]
  split
  · exact ⟨system.disk.record, rfl⟩
  · split
    · exact ⟨_, rfl⟩
    · exact ⟨system.disk.record, rfl⟩

/-- Neither the directories nor what the record says of the backup have changed, and no validation begins. -/
structure Untouched (system next : System) : Prop where
  config : next.controller.config = system.controller.config
  active : next.disk.active = system.disk.active
  backup : next.disk.backup = system.disk.backup
  path : next.controller.record.backupPath = system.controller.record.backupPath
  state : next.controller.record.currentState = .validating → system.controller.record.currentState = .validating

section Untouched

variable {system : System} (calls : Calls)

lemma Untouched.refl (system : System) : Untouched system system := ⟨rfl, rfl, rfl, rfl, id⟩

lemma Untouched.hasRecordBackup {next : System} (h : Untouched system next) :
    next.hasRecordBackup = system.hasRecordBackup := by
  rw [System.hasRecordBackup, System.hasRecordBackup, h.path, h.config, h.backup]

lemma untouched_saveRecordToDisk (system : System) : Untouched system (system.saveRecordToDisk calls) ∧
    (system.saveRecordToDisk calls).controller = system.controller := by
  rw [saveRecordToDisk]
  split
  · exact ⟨.refl system, rfl⟩
  · split
    · exact ⟨⟨rfl, rfl, rfl, rfl, id⟩, rfl⟩
    · exact ⟨.refl system, rfl⟩

lemma untouched_abortStaging (reason : Bytes) : Untouched system (system.abortStaging calls reason).system :=
  ⟨rfl, rfl, rfl, rfl, fun h => by cases h⟩

lemma untouched_beginStaging (manifest : UpdateManifest) (currentVersion : SemanticVersion) (isExamActive : Bool) :
    Untouched system (system.beginStaging calls manifest currentVersion isExamActive).system := by
  rw [beginStaging]
  dsimp only
  split_ifs
  any_goals exact ⟨rfl, rfl, rfl, rfl, id⟩
  exact ⟨rfl, rfl, rfl, rfl, fun h => by cases h⟩

lemma untouched_appendChunk (chunk : Bytes) : Untouched system (system.appendChunk calls chunk).system := by
  rw [appendChunk.eq_def]
  dsimp only
  generalize (if calls.fails .writePart || calls.fails .flushPart then chunk.take calls.written else chunk) = arrived
  split
  · exact .refl system
  · split_ifs
    · exact .refl system
    · exact untouched_abortStaging calls _
    · exact untouched_abortStaging calls _
    · exact ⟨rfl, rfl, rfl, rfl, fun h => by cases h⟩
    · exact ⟨rfl, rfl, rfl, rfl, fun h => by cases h⟩
    · exact ⟨rfl, rfl, rfl, rfl, id⟩

lemma untouched_finalizeStaging (sha256 : Bytes → Digest) :
    Untouched system (system.finalizeStaging sha256 calls).system := by
  rw [finalizeStaging.eq_def]
  dsimp only
  split
  · exact .refl system
  · split
    · exact .refl system
    · split_ifs
      all_goals exact ⟨rfl, rfl, rfl, rfl, fun h => by cases h⟩

end Untouched

/-! ## The configuration stays -/

section Config

variable (calls : Calls) (system : System)

lemma config_recoverApply : (system.recoverApply calls).system.controller.config = system.controller.config := by
  rw [recoverApply]
  dsimp only
  split_ifs <;> rfl

lemma config_promote (name package : Bytes) :
    (system.promote calls name package).system.controller.config = system.controller.config := by
  rw [promote]
  split
  · exact config_recoverApply calls system
  · split
    · exact config_recoverApply calls _
    · rfl

lemma config_backUpAndPromote (name package : Bytes) :
    (system.backUpAndPromote calls name package).system.controller.config = system.controller.config := by
  rw [backUpAndPromote]
  split
  · exact config_recoverApply calls system
  · split
    · exact config_promote calls system name package
    · split
      · exact config_recoverApply calls system
      · exact config_promote calls _ name package

lemma config_applyStagedUpdate (name : Bytes) :
    (system.applyStagedUpdate calls name).system.controller.config = system.controller.config := by
  rw [applyStagedUpdate.eq_def]
  dsimp only
  repeat' split
  any_goals rfl
  any_goals exact config_recoverApply calls _
  all_goals exact config_backUpAndPromote calls _ name _

lemma config_commitUpdate : (system.commitUpdate calls).system.controller.config = system.controller.config := by
  rw [commitUpdate]
  dsimp only
  have hf : ∀ system : System,
      (system.finishCommit calls).system.controller.config = system.controller.config := by
    intro system
    rw [finishCommit]
    dsimp only
    split <;> rfl
  split_ifs
  any_goals rfl
  all_goals exact hf _

lemma config_rollbackUpdate : (system.rollbackUpdate calls).system.controller.config = system.controller.config := by
  rw [rollbackUpdate]
  dsimp only
  split_ifs <;> rfl

end Config

/-! ## How far an application gets -/

/-- An application gets as far as removing the backup. -/
def RemovesBackup (calls : Calls) (system : System) : Prop :=
  calls.fails .existsStaged = false ∧ system.hasStagedPackage = true ∧
    system.controller.config.backupDirectory ≠ [] ∧ calls.fails .existsBackup = false ∧
    system.disk.backup.isSome = true

/-- An application gets as far as copying the package. -/
def CopiesPackage (system : System) : Prop :=
  system.hasStagedPackage = true ∧ (system.disk.active = none ∨ system.controller.config.backupDirectory ≠ [])

end System

/-! ## Installations -/

/-- A system, with the contents of the installation that was last good. -/
structure Installation where
  system : System
  good : Option Tree

namespace Installation

def run (environment : Environment) (calls : Calls) (operation : Operation) (installation : Installation) :
    Installation where
  system := installation.system.run environment calls operation
  good :=
    if operation = .commitUpdate ∧ (operation.outcome environment calls installation.system).ok = true then
      (installation.system.run environment calls operation).disk.active
    else installation.good

/-- The last good installation is there. -/
def Protected (installation : Installation) : Prop :=
  ∀ tree, installation.good = some tree →
    installation.system.disk.active = some tree ∨ installation.system.disk.backup = some tree

/-- What is expected of one step. -/
structure StepHolds (environment : Environment) (calls : Calls) (operation : Operation)
    (installation : Installation) : Prop where
  /-- The last good installation is there afterwards. -/
  kept : (installation.run environment calls operation).Protected
  /-- What fails to apply leaves the active directory as it was. -/
  failed : ∀ name, operation = .applyStagedUpdate name →
    (operation.outcome environment calls installation.system).ok = false →
      (installation.run environment calls operation).system.disk.active = installation.system.disk.active
  /-- A rollback restores the last good installation. -/
  restored : operation = .rollbackUpdate → (operation.outcome environment calls installation.system).ok = true →
    ∀ tree, installation.good = some tree →
      (installation.run environment calls operation).system.disk.active = some tree

/-! ### Careful steps -/

/-- What an application may find and what may fail in it. -/
structure ApplyCareful (calls : Calls) (installation : Installation) : Prop where
  /-- The backup that is removed is not the only copy of the last good installation. -/
  removes : System.RemovesBackup calls installation.system → ∀ tree, installation.good = some tree →
    installation.system.disk.active = some tree ∨ (calls.fails .removeBackup = true ∧ calls.remains = some tree)
  /-- The copying does not fail. -/
  copies : System.CopiesPackage installation.system → calls.fails .copyFile = false
  /-- Nothing makes the handler of exceptions put the backup where no active directory has been. -/
  active : installation.system.disk.active = none → installation.system.hasRecordBackup = true →
    calls.fails .existsStaged = false ∧ (installation.system.hasStagedPackage = true →
      calls.fails .existsBackup = false ∧ (calls.fails .removeBackup = true → calls.remains = none))

/-- What may fail in a commit that removes a backup. -/
structure CommitCareful (calls : Calls) (installation : Installation) : Prop where
  /-- A backup that cannot be removed stays as it is. -/
  removes : calls.fails .removeBackup = true → calls.remains = installation.system.disk.backup
  /-- Nothing fails behind the removal. -/
  existsPackage : calls.fails .existsPackage = true → installation.system.controller.record.stagedPackagePath = []
  removePackage : calls.fails .removePackage = true → installation.system.hasStagedPackage = false

/-- A step that does not take the only copy of the last good installation away. -/
def Careful (calls : Calls) (installation : Installation) : Operation → Prop
  | .applyStagedUpdate _ =>
    installation.system.controller.record.currentState = .staged ∨
      installation.system.controller.record.currentState = .applyPendingReboot → ApplyCareful calls installation
  | .commitUpdate =>
    installation.system.controller.record.currentState = .validating → installation.good ≠ none →
      installation.system.hasRecordBackup = true → CommitCareful calls installation
  | _ => True

/-- At most one of the calls fails. -/
def OneFailure (calls : Calls) : Prop :=
  ∀ call other, calls.fails call = true → calls.fails other = true → call = other

/-- What steps that meet a condition lead to, from a reachable state in which no update is being validated.  In
each of them at most one call fails. -/
inductive Run (environment : Environment) (condition : Calls → Installation → Operation → Prop) :
    Installation → Prop where
  | start {system : System} (hreachable : system.Reachable environment)
      (hstate : system.controller.record.currentState ≠ .validating) :
      Run environment condition ⟨system, system.disk.active⟩
  | step {installation : Installation} (hrun : Run environment condition installation) (calls : Calls)
      (operation : Operation) (hoperation : operation ≠ .init) (hfailure : OneFailure calls)
      (hcondition : condition calls installation operation) :
      Run environment condition (installation.run environment calls operation)

/-! ### The invariant -/

structure Inv (installation : Installation) : Prop where
  bound : installation.system.Bound
  kept : installation.Protected
  /-- While an update is being validated, the backup is the last good installation. -/
  validating : installation.system.controller.record.currentState = .validating →
    ∀ tree, installation.good = some tree →
      installation.system.hasRecordBackup = true ∧ installation.system.disk.backup = some tree
  /-- Without a place for the backup, the last good installation stays active. -/
  place : installation.system.controller.config.backupDirectory = [] → ∀ tree, installation.good = some tree →
    installation.system.disk.active = some tree

/-! ### An application -/

section Apply

variable {calls : Calls} {system : System} {good : Option Tree}

/-- The handler of exceptions, where its own calls do not fail: nothing changes, or the backup goes back to where
the active directory was. -/
lemma recoverApply_spec (hb : calls.fails .existsRecordBackup = false)
    (ha : calls.fails .existsActiveAgain = false) (hr : calls.fails .renameBackup = false) :
    (system.recoverApply calls).ok = false ∧ (system.recoverApply calls).saves = false ∧
      ((system.disk.active = none ∧ system.hasRecordBackup ∧
          (system.recoverApply calls).system.disk.active = system.disk.backup ∧
          (system.recoverApply calls).system.controller.config = system.controller.config ∧
          (system.recoverApply calls).system.controller.record.currentState = system.controller.record.currentState) ∨
        (¬ (system.disk.active = none ∧ system.hasRecordBackup) ∧
          (system.recoverApply calls).system = system)) := by
  rw [System.recoverApply, hb, ha, hr]
  dsimp only
  rw [if_neg Bool.false_ne_true, if_neg Bool.false_ne_true, Bool.or_false]
  split_ifs with hp ht hpr
  · refine ⟨rfl, rfl, .inr ⟨fun h => ?_, rfl⟩⟩
    simp only [System.hasRecordBackup, hp, Bool.not_true, Bool.false_and] at h
    exact absurd h.2 (by decide)
  · exact ⟨rfl, rfl, .inr ⟨fun h => by simp [h.2] at ht, rfl⟩⟩
  · refine ⟨rfl, rfl, .inr ⟨fun h => ?_, rfl⟩⟩
    rw [h.1] at hpr
    exact absurd hpr (by decide)
  · have hn : system.disk.active = none := by simpa using hpr
    exact ⟨rfl, rfl, .inl ⟨hn, by simpa using ht, rfl, rfl, rfl⟩⟩

lemma OneFailure.other (h : OneFailure calls) {call other : Call} (hc : calls.fails call)
    (hn : call ≠ other) : calls.fails other = false := by
  rw [← Bool.not_eq_true]
  exact fun ho => hn (h call other hc ho)

lemma recoverApply_unchanged (hfail : OneFailure calls) (h : system.controller.record.backupPath = [] ∨
      (∃ call, calls.fails call ∧ call ≠ .existsRecordBackup ∧ call ≠ .existsActiveAgain ∧ call ≠ .renameBackup) ∧
        ¬ (system.disk.active = none ∧ system.hasRecordBackup)) :
    (system.recoverApply calls).ok = false ∧ (system.recoverApply calls).saves = false ∧
      (system.recoverApply calls).system = system := by
  rcases h with hpath | ⟨⟨call, hcall, hback, hacti, hrena⟩, hnot⟩
  · rw [System.recoverApply, hpath]
    exact ⟨rfl, rfl, rfl⟩
  · obtain ⟨hok, hsaves, hcases⟩ := @recoverApply_spec calls system (hfail.other hcall hback)
      (hfail.other hcall hacti) (hfail.other hcall hrena)
    rcases hcases with ⟨hnone, hthere, -⟩ | ⟨-, hsyst⟩
    · exact absurd ⟨hnone, hthere⟩ hnot
    · exact ⟨hok, hsaves, hsyst⟩

/-- What an application has done.  Either it has failed, with the active directory as it was and the last good
installation still there, or the last good installation is in the backup. -/
def Applied (system : System) (good : Option Tree) (outcome : Outcome) : Prop :=
  (outcome.ok = false ∧ outcome.saves = false ∧ outcome.system.disk.active = system.disk.active ∧
      outcome.system.controller.record.currentState = system.controller.record.currentState ∧
      ∀ tree, good = some tree → outcome.system.disk.active = some tree ∨ outcome.system.disk.backup = some tree) ∨
    (outcome.ok = true ∧ ∀ tree, good = some tree →
      outcome.system.hasRecordBackup = true ∧ outcome.system.disk.backup = some tree)

lemma applied_of_unchanged {outcome : Outcome} (hk : ∀ tree, good = some tree →
      system.disk.active = some tree ∨ system.disk.backup = some tree)
    (h : outcome.ok = false ∧ outcome.saves = false ∧ outcome.system = system) : Applied system good outcome := by
  obtain ⟨ho, hs, hsy⟩ := h
  rw [Applied, hsy]
  exact .inl ⟨ho, hs, rfl, rfl, hk⟩

lemma promote_cases (hc : calls.fails .copyFile = false) (name package : Bytes) :
    (calls.fails .createActive ∧ system.promote calls name package = system.recoverApply calls) ∨
      ((system.promote calls name package).ok ∧
        (system.promote calls name package).system.disk.backup = system.disk.backup ∧
        (system.promote calls name package).system.hasRecordBackup = system.hasRecordBackup) := by
  rw [System.promote, hc]
  split
  · exact .inl ⟨‹_›, rfl⟩
  · exact .inr ⟨rfl, rfl, rfl⟩

lemma applied_backUpAndPromote (hfail : OneFailure calls) (hbound : system.Bound)
    (hacti : ∀ tree, good = some tree → system.disk.active = some tree) (hbacku : system.hasRecordBackup = false)
    (hcopy : system.disk.active = none ∨ system.controller.config.backupDirectory ≠ [] →
      calls.fails .copyFile = false) (name package : Bytes) :
    Applied system good (system.backUpAndPromote calls name package) := by
  have hkept : ∀ tree, good = some tree → system.disk.active = some tree ∨ system.disk.backup = some tree :=
    fun tree htree => .inl (hacti tree htree)
  have hnot : ¬ (system.disk.active = none ∧ system.hasRecordBackup) := by
    rw [hbacku]
    exact fun h => absurd h.2 (by decide)
  rw [System.backUpAndPromote]
  split
  · rename_i hfails
    exact applied_of_unchanged hkept (recoverApply_unchanged hfail
      (.inr ⟨⟨.existsActive, hfails, by decide, by decide, by decide⟩, hnot⟩))
  · split
    · rename_i hnone
      have hnone : system.disk.active = none := by simpa using hnone
      rcases promote_cases (hcopy (.inl hnone)) name package with ⟨hfails, heq⟩ | ⟨hok, -, -⟩
      · rw [heq]
        exact applied_of_unchanged hkept (recoverApply_unchanged hfail
          (.inr ⟨⟨.createActive, hfails, by decide, by decide, by decide⟩, hnot⟩))
      · refine .inr ⟨hok, fun tree htree => ?_⟩
        rw [hacti tree htree] at hnone
        contradiction
    · rename_i hsome
      split
      · rename_i hrefu
        refine applied_of_unchanged hkept (recoverApply_unchanged hfail ?_)
        rw [Bool.or_eq_true, Bool.or_eq_true, List.isEmpty_iff] at hrefu
        rcases hrefu with (hfails | hfails) | hempty
        · exact .inr ⟨⟨.createBackupParent, hfails, by decide, by decide, by decide⟩, hnot⟩
        · exact .inr ⟨⟨.renameActive, hfails, by decide, by decide, by decide⟩, hnot⟩
        · rw [← hempty]
          refine .inl (hbound.backup.elim (fun h => ?_) id)
          rw [h, hempty]
      · rename_i hrefu
        simp only [Bool.or_eq_true, not_or, List.isEmpty_iff] at hrefu
        obtain ⟨tree, htree⟩ := Option.ne_none_iff_exists'.mp (by simpa using hsome : system.disk.active ≠ none)
        have hthere : system.moveActive.hasRecordBackup := by
          simp [System.moveActive, System.hasRecordBackup, System.setRecord, htree, hrefu.2]
        rcases @promote_cases calls system.moveActive (hcopy (.inr hrefu.2)) name package with
          ⟨hfails, heq⟩ | ⟨hok, hsame, hreco⟩
        · rw [heq]
          obtain ⟨hfaile, hsaves, hcases⟩ := @recoverApply_spec calls system.moveActive
            (hfail.other hfails (by decide)) (hfail.other hfails (by decide))
            (hfail.other hfails (by decide))
          rcases hcases with ⟨-, -, hback, hconf, hstate⟩ | ⟨hnoth, -⟩
          · refine .inl ⟨hfaile, hsaves, hback, hstate, fun tree' htree' => .inl ?_⟩
            rw [hback]
            exact hacti tree' htree'
          · exact absurd ⟨rfl, hthere⟩ hnoth
        · refine .inr ⟨hok, fun tree' htree' => ⟨hreco.trans hthere, ?_⟩⟩
          rw [hsame]
          exact hacti tree' htree'

lemma applied_applyStagedUpdate (hfail : OneFailure calls) {installation : Installation} (hinv : installation.Inv)
    (hcare : ApplyCareful calls installation) (name : Bytes) :
    Applied installation.system installation.good (installation.system.applyStagedUpdate calls name) := by
  obtain ⟨system, good⟩ := installation
  have hkept := hinv.kept
  rw [System.applyStagedUpdate.eq_def]
  dsimp only
  split
  · exact applied_of_unchanged hkept ⟨rfl, rfl, rfl⟩
  · split
    · rename_i hfails
      refine applied_of_unchanged hkept (recoverApply_unchanged hfail
        (.inr ⟨⟨.existsStaged, hfails, by decide, by decide, by decide⟩, fun h => ?_⟩))
      exact absurd ((hcare.active h.1 h.2).1.symm.trans hfails) (by decide)
    · rename_i hstag
      split
      · exact applied_of_unchanged hkept ⟨rfl, rfl, rfl⟩
      · rename_i package _
        split
        · exact applied_of_unchanged hkept ⟨rfl, rfl, rfl⟩
        · rename_i hpack
          have hpack : system.hasStagedPackage := by simpa using hpack
          have hcopy : system.disk.active = none ∨ system.controller.config.backupDirectory ≠ [] →
              calls.fails .copyFile = false := fun h => hcare.copies ⟨hpack, h⟩
          split
          · rename_i hempty
            have hempty := List.isEmpty_iff.mp hempty
            have hback : system.hasRecordBackup = false := by
              have hpath : system.controller.record.backupPath = [] := by
                rcases hinv.bound.backup with h | h
                · exact h
                · exact h.trans hempty
              rw [System.hasRecordBackup, hpath]
              rfl
            exact applied_backUpAndPromote hfail hinv.bound (hinv.place hempty) hback hcopy name package
          · rename_i hplace
            have hplace : system.controller.config.backupDirectory ≠ [] := by simpa using hplace
            split
            · rename_i hfails
              refine applied_of_unchanged hkept (recoverApply_unchanged hfail
                (.inr ⟨⟨.existsBackup, hfails, by decide, by decide, by decide⟩, fun h => ?_⟩))
              exact absurd (((hcare.active h.1 h.2).2 hpack).1.symm.trans hfails) (by decide)
            · rename_i hexis
              have hremo : system.disk.backup.isSome → System.RemovesBackup calls system := fun hsome =>
                ⟨by simpa using hstag, hpack, hplace, by simpa using hexis, hsome⟩
              split
              · rename_i hfails
                rw [Bool.and_eq_true] at hfails
                -- the backup is gone in part, and what was last good is active or in what stays of it
                have hpart : ∀ tree, good = some tree → system.disk.active = some tree ∨ calls.remains = some tree :=
                  fun tree htree => (hcare.removes (hremo hfails.1) tree htree).imp id And.right
                have hthere : System.hasRecordBackup { system with disk := { system.disk with backup := calls.remains } } =
                    true → system.hasRecordBackup := by
                  simp only [System.hasRecordBackup, Bool.and_eq_true]
                  exact fun h => ⟨h.1, hfails.1⟩
                have hnoth : ¬ (system.disk.active = none ∧
                    System.hasRecordBackup { system with disk := { system.disk with backup := calls.remains } } =
                      true) := by
                  rintro ⟨hnone, hrest⟩
                  have hrema := ((hcare.active hnone (hthere hrest)).2 hpack).2 hfails.2
                  rw [System.hasRecordBackup, hrema, Option.isSome_none, Bool.and_false] at hrest
                  contradiction
                obtain ⟨hok, hsaves, hsyst⟩ := @recoverApply_unchanged calls
                  { system with disk := { system.disk with backup := calls.remains } } hfail
                  (.inr ⟨⟨.removeBackup, hfails.2, by decide, by decide, by decide⟩, hnoth⟩)
                rw [Applied, hsyst]
                exact .inl ⟨hok, hsaves, rfl, rfl, hpart⟩
              · rename_i hremov
                have hacti : ∀ tree, good = some tree → system.disk.active = some tree := by
                  intro tree htree
                  cases hback : system.disk.backup with
                  | none =>
                    refine (hkept tree htree).resolve_right fun h => ?_
                    rw [hback] at h
                    contradiction
                  | some other =>
                    refine (hcare.removes (hremo (by rw [hback]; rfl)) tree htree).resolve_right fun h => ?_
                    rw [hback, h.1] at hremov
                    exact hremov rfl
                exact @applied_backUpAndPromote calls { system with disk := { system.disk with backup := none } } good
                  hfail (hinv.bound.withDisk _) hacti (by simp [System.hasRecordBackup]) hcopy name package

end Apply

/-! ### A commit and a rollback -/

section Decide

variable {calls : Calls} {system : System}

lemma finishCommit_cases : ((system.finishCommit calls).ok ∧
        (system.finishCommit calls).system.controller.record.currentState ≠ .validating) ∨
      ((system.finishCommit calls).ok = false ∧ (system.finishCommit calls).system.disk.active = system.disk.active ∧
        system.controller.record.stagedPackagePath ≠ [] ∧
        (calls.fails .existsPackage ∨ (system.hasStagedPackage ∧ calls.fails .removePackage))) := by
  rw [System.finishCommit]
  dsimp only
  split
  · rename_i hf
    rw [Bool.and_eq_true, Bool.or_eq_true, Bool.and_eq_true] at hf
    exact .inr ⟨rfl, rfl, by simpa using hf.1, hf.2⟩
  · exact .inl ⟨rfl, fun h => by cases h⟩

/-- How a careful commit ends. -/
lemma commitUpdate_cases {good : Option Tree} (hinv : Inv ⟨system, good⟩)
    (hcare : Careful calls ⟨system, good⟩ .commitUpdate) : ((system.commitUpdate calls).ok ∧
        (system.commitUpdate calls).system.controller.record.currentState ≠ .validating) ∨
      ((system.commitUpdate calls).ok = false ∧ (system.commitUpdate calls).system.disk.active = system.disk.active ∧
        ((system.commitUpdate calls).system.controller.record.currentState = .validating →
          system.controller.record.currentState = .validating) ∧
        ∀ tree, good = some tree → (system.commitUpdate calls).system.disk.backup = system.disk.backup ∧
          (system.commitUpdate calls).system.hasRecordBackup = system.hasRecordBackup) := by
  rw [System.commitUpdate]
  dsimp only
  split
  · exact .inr ⟨rfl, rfl, id, fun _ _ => ⟨rfl, rfl⟩⟩
  · rename_i hstate
    have hstate : system.controller.record.currentState = .validating := by simpa using hstate
    split
    · exact .inr ⟨rfl, rfl, id, fun _ _ => ⟨rfl, rfl⟩⟩
    · split
      · rename_i hnoth
        rcases @finishCommit_cases calls system with ⟨hok, hnext⟩ | ⟨hok, hacti, -⟩
        · exact .inl ⟨hok, hnext⟩
        · refine .inr ⟨hok, hacti, fun _ => hstate, fun tree htree => ?_⟩
          rw [(hinv.validating hstate tree htree).1] at hnoth
          exact absurd hnoth (by decide)
      · rename_i hthere
        have hthere : system.hasRecordBackup := by simpa using hthere
        split
        · rename_i hfails
          refine .inr ⟨rfl, rfl, fun _ => hstate, fun tree htree => ?_⟩
          have hrema : calls.remains = system.disk.backup :=
            (hcare hstate (by rw [htree]; exact Option.some_ne_none _) hthere).removes hfails
          simp only [System.failed, System.hasRecordBackup, hrema, and_self]
        · rcases @finishCommit_cases calls { system with disk := { system.disk with backup := none } } with
            ⟨hok, hnext⟩ | ⟨hok, hacti, hpath, hfails⟩
          · exact .inl ⟨hok, hnext⟩
          · refine .inr ⟨hok, hacti, fun _ => hstate, fun tree htree => ?_⟩
            have hcomm := hcare hstate (by rw [htree]; exact Option.some_ne_none _) hthere
            rcases hfails with hexis | ⟨hpack, hremo⟩
            · exact absurd (hcomm.existsPackage hexis) hpath
            · have hnot := hcomm.removePackage hremo
              exact absurd (hnot.symm.trans hpack) (by decide)

/-- How a rollback ends. -/
lemma rollbackUpdate_cases (hs : system.controller.record.currentState = .validating) :
    (system.rollbackUpdate calls).system.controller.record.currentState ≠ .validating ∧
      (((system.rollbackUpdate calls).ok ∧ system.hasRecordBackup ∧
          (system.rollbackUpdate calls).system.disk.active = system.disk.backup) ∨
        ((system.rollbackUpdate calls).ok = false ∧
          (system.rollbackUpdate calls).system.disk.backup = system.disk.backup ∧ (system.hasRecordBackup ∨
            (system.rollbackUpdate calls).system.disk.active = system.disk.active))) := by
  rw [System.rollbackUpdate, hs]
  dsimp only
  split
  · rename_i hn
    exact absurd rfl hn
  · split
    · exact ⟨fun h => (by cases h), .inr ⟨rfl, rfl, .inr rfl⟩⟩
    · split
      · exact ⟨fun h => (by cases h), .inr ⟨rfl, rfl, .inr rfl⟩⟩
      · rename_i ht
        have ht : system.hasRecordBackup := by simpa using ht
        split
        · exact ⟨fun h => (by cases h), .inr ⟨rfl, rfl, .inr rfl⟩⟩
        · split
          · exact ⟨fun h => (by cases h), .inr ⟨rfl, rfl, .inl ht⟩⟩
          · split
            · exact ⟨fun h => (by cases h), .inr ⟨rfl, rfl, .inl ht⟩⟩
            · exact ⟨fun h => (by cases h), .inl ⟨rfl, ht, rfl⟩⟩

lemma rollbackUpdate_refused (hs : system.controller.record.currentState ≠ .validating) :
    (system.rollbackUpdate calls).ok = false ∧ (system.rollbackUpdate calls).system = system := by
  rw [System.rollbackUpdate]
  dsimp only
  rw [if_pos hs]
  exact ⟨rfl, rfl⟩

end Decide

/-! ### One step -/

section Step

variable {environment : Environment} {calls : Calls} {installation : Installation}

lemma Inv.untouched (hi : installation.Inv) {next : System} (h : System.Untouched installation.system next)
    (hb : next.Bound) : Inv ⟨next, installation.good⟩ where
  bound := hb
  kept := by
    intro tree ht
    rw [h.active, h.backup]
    exact hi.kept tree ht
  validating := by
    intro hs tree ht
    rw [h.hasRecordBackup, h.backup]
    exact hi.validating (h.state hs) tree ht
  place := by
    intro he tree ht
    rw [h.active]
    exact hi.place (by rw [← h.config]; exact he) tree ht

lemma untouched_finish (outcome : Outcome) : System.Untouched outcome.system (outcome.finish calls) := by
  rw [Outcome.finish]
  split
  · exact (System.untouched_saveRecordToDisk calls outcome.system).1
  · exact .refl _

lemma Inv.finish {outcome : Outcome} {good : Option Tree} (h : Inv ⟨outcome.system, good⟩) :
    Inv ⟨outcome.finish calls, good⟩ := by
  refine h.untouched (untouched_finish outcome) ?_
  rw [Outcome.finish]
  split
  · exact h.bound.saveRecordToDisk calls
  · exact h.bound

lemma active_finish (outcome : Outcome) : (outcome.finish calls).disk.active = outcome.system.disk.active :=
  (untouched_finish outcome).active

variable {operation : Operation}

/-- What leaves both trees keeps the invariant. -/
lemma step_of_untouched (hinv : installation.Inv) (hcomm : operation ≠ .commitUpdate)
    (hroll : operation ≠ .rollbackUpdate) (happly : ∀ name, operation ≠ .applyStagedUpdate name)
    (h : System.Untouched installation.system (operation.outcome environment calls installation.system).system) :
    StepHolds environment calls operation installation ∧ (installation.run environment calls operation).Inv := by
  have hrun : (installation.run environment calls operation) =
      ⟨(operation.outcome environment calls installation.system).finish calls, installation.good⟩ := by
    rw [Installation.run, if_neg fun hboth => hcomm hboth.1]
    rfl
  have hnext : (installation.run environment calls operation).Inv := by
    rw [hrun]
    exact (hinv.untouched h (hinv.bound.outcome environment calls operation)).finish
  exact ⟨⟨hnext.kept, fun name hname => absurd hname (happly name), fun hback => absurd hback hroll⟩, hnext⟩

/-- An apply keeps the invariant and a bootable tree. -/
lemma step_apply (hinv : installation.Inv) (hfail : OneFailure calls) (name : Bytes)
    (hcare : Careful calls installation (.applyStagedUpdate name)) :
    StepHolds environment calls (.applyStagedUpdate name) installation ∧
      (installation.run environment calls (.applyStagedUpdate name)).Inv := by
  have hrun : (installation.run environment calls (.applyStagedUpdate name)) =
      ⟨(installation.system.applyStagedUpdate calls name).finish calls, installation.good⟩ := by
    rw [Installation.run, if_neg fun hboth => by cases hboth.1]
    rfl
  have hbound := hinv.bound.applyStagedUpdate calls name
  by_cases hstate : installation.system.controller.record.currentState = .staged ∨
      installation.system.controller.record.currentState = .applyPendingReboot
  · rcases applied_applyStagedUpdate hfail hinv (hcare hstate) name with
      ⟨hok, -, hacti, hsame, hkept⟩ | ⟨hok, hbacku⟩
    · have hnext : (installation.run environment calls (.applyStagedUpdate name)).Inv := by
        rw [hrun]
        refine Inv.finish ⟨hbound, hkept, fun hvali => ?_, fun hempty tree htree => ?_⟩
        · rw [hsame] at hvali
          rw [hvali] at hstate
          exact hstate.elim (fun h => by cases h) (fun h => by cases h)
        · rw [hacti]
          exact hinv.place (by rw [← System.config_applyStagedUpdate calls _ name]; exact hempty) tree htree
      refine ⟨⟨hnext.kept, fun _ _ _ => ?_, fun hback => by cases hback⟩, hnext⟩
      rw [hrun]
      exact (active_finish _).trans hacti
    · have hnext : (installation.run environment calls (.applyStagedUpdate name)).Inv := by
        rw [hrun]
        refine Inv.finish ⟨hbound, fun tree htree => .inr (hbacku tree htree).2, fun _ => hbacku,
          fun hempty tree htree => ?_⟩
        have hthere := (hbacku tree htree).1
        rw [System.hasRecordBackup, Bool.and_eq_true, Bool.and_eq_true, beq_iff_eq] at hthere
        rw [hthere.1.2, hempty] at hthere
        exact absurd hthere.1.1 (by decide)
      refine ⟨⟨hnext.kept, fun name' hname' hfaile => ?_, fun hback => by cases hback⟩, hnext⟩
      cases hname'
      exact absurd (hok.symm.trans hfaile) (by decide)
  · have hsyst : (installation.system.applyStagedUpdate calls name).system = installation.system := by
      rw [not_or] at hstate
      rw [System.applyStagedUpdate.eq_def]
      dsimp only
      rw [if_pos (by simp [hstate.1, hstate.2])]
      rfl
    have hnext : (installation.run environment calls (.applyStagedUpdate name)).Inv := by
      rw [hrun]
      refine Inv.finish ?_
      rw [hsyst]
      exact hinv
    refine ⟨⟨hnext.kept, fun _ _ _ => ?_, fun hback => by cases hback⟩, hnext⟩
    rw [hrun]
    exact (active_finish _).trans (by rw [hsyst])

lemma step_commit (hinv : installation.Inv) (hcare : Careful calls installation .commitUpdate) :
    StepHolds environment calls .commitUpdate installation ∧
      (installation.run environment calls .commitUpdate).Inv := by
  have hbound := hinv.bound.commitUpdate calls
  have hnext : (installation.run environment calls .commitUpdate).Inv := by
    rw [Installation.run]
    change Inv ⟨(installation.system.commitUpdate calls).finish calls,
      if Operation.commitUpdate = .commitUpdate ∧ (installation.system.commitUpdate calls).ok then
        ((installation.system.commitUpdate calls).finish calls).disk.active else installation.good⟩
    rcases commitUpdate_cases hinv hcare with ⟨hok, hstate⟩ | ⟨hok, hacti, hstate, hbacku⟩
    · rw [if_pos ⟨rfl, hok⟩, active_finish]
      exact Inv.finish ⟨hbound, fun _ htree => .inl htree, fun hvali => absurd hvali hstate,
        fun _ _ htree => htree⟩
    · rw [if_neg fun hboth => absurd (hok.symm.trans hboth.2) (by decide)]
      refine Inv.finish ⟨hbound, fun tree htree => ?_, fun hvali tree htree => ?_, fun hempty tree htree => ?_⟩
      · have hbacku := (hbacku tree htree).1
        simp only
        rw [hacti, hbacku]
        exact hinv.kept tree htree
      · obtain ⟨hbacku, hthere⟩ := hbacku tree htree
        simp only
        rw [hthere, hbacku]
        exact hinv.validating (hstate hvali) tree htree
      · simp only
        rw [hacti]
        exact hinv.place (by rw [← System.config_commitUpdate calls]; exact hempty) tree htree
  exact ⟨⟨hnext.kept, fun name hname => (by cases hname), fun hback => by cases hback⟩, hnext⟩

lemma step_rollback (hinv : installation.Inv) : StepHolds environment calls .rollbackUpdate installation ∧
      (installation.run environment calls .rollbackUpdate).Inv := by
  have hbound := hinv.bound.rollbackUpdate calls
  have hrun : (installation.run environment calls .rollbackUpdate) =
      ⟨(installation.system.rollbackUpdate calls).finish calls, installation.good⟩ := by
    rw [Installation.run, if_neg fun hboth => by cases hboth.1]
    rfl
  by_cases hstate : installation.system.controller.record.currentState = .validating
  · have hgood := hinv.validating hstate
    obtain ⟨hleft, hcases⟩ := @rollbackUpdate_cases calls installation.system hstate
    have hnext : (installation.run environment calls .rollbackUpdate).Inv := by
      rw [hrun]
      refine Inv.finish ⟨hbound, fun tree htree => ?_, fun hvali => absurd hvali hleft,
        fun hempty tree htree => ?_⟩
      · simp only
        rcases hcases with ⟨-, -, hacti⟩ | ⟨-, hback, -⟩
        · rw [hacti]
          exact .inl (hgood tree htree).2
        · rw [hback]
          exact .inr (hgood tree htree).2
      · have hthere := (hgood tree htree).1
        rw [System.hasRecordBackup, Bool.and_eq_true, Bool.and_eq_true, beq_iff_eq] at hthere
        have hempty : installation.system.controller.config.backupDirectory = [] := by
          rw [← System.config_rollbackUpdate calls]
          exact hempty
        rw [hthere.1.2, hempty] at hthere
        exact absurd hthere.1.1 (by decide)
    refine ⟨⟨hnext.kept, fun name hname => (by cases hname), fun _ hok tree htree => ?_⟩, hnext⟩
    rw [hrun]
    rcases hcases with ⟨-, -, hacti⟩ | ⟨hfail, -, -⟩
    · exact (active_finish _).trans (hacti.trans (hgood tree htree).2)
    · exact absurd (hfail.symm.trans hok) (by decide)
  · obtain ⟨hfail, hsyst⟩ := @rollbackUpdate_refused calls installation.system hstate
    have hnext : (installation.run environment calls .rollbackUpdate).Inv := by
      rw [hrun]
      refine Inv.finish ?_
      rw [hsyst]
      exact hinv
    exact ⟨⟨hnext.kept, fun name hname => (by cases hname),
      fun _ hok => absurd (hfail.symm.trans hok) (by decide)⟩, hnext⟩

/-- **A careful step keeps the invariant**, and does what is expected of it. -/
theorem step_of_careful (hi : installation.Inv) (ho : operation ≠ .init)
    (hf : OneFailure calls) (hc : Careful calls installation operation) :
    StepHolds environment calls operation installation ∧ (installation.run environment calls operation).Inv := by
  cases operation with
  | init => exact absurd rfl ho
  | applyStagedUpdate name => exact step_apply hi hf name hc
  | commitUpdate => exact step_commit hi hc
  | rollbackUpdate => exact step_rollback hi
  | setDeferred reason =>
    exact step_of_untouched hi (by simp) (by simp) (by simp) ⟨rfl, rfl, rfl, rfl, fun h => by cases h⟩
  | beginStaging manifest currentVersion isExamActive =>
    exact step_of_untouched hi (by simp) (by simp) (by simp)
      (System.untouched_beginStaging calls manifest currentVersion isExamActive)
  | appendChunk chunk =>
    exact step_of_untouched hi (by simp) (by simp) (by simp) (System.untouched_appendChunk calls chunk)
  | finalizeStaging =>
    exact step_of_untouched hi (by simp) (by simp) (by simp)
      (System.untouched_finalizeStaging calls environment.sha256)
  | abortStaging reason =>
    exact step_of_untouched hi (by simp) (by simp) (by simp) (System.untouched_abortStaging calls reason)

end Step

/-! ### Runs -/

/-- The invariant holds along every careful run. -/
lemma inv_of_run {environment : Environment} {installation : Installation}
    (h : Run environment Careful installation) : installation.Inv := by
  induction h with
  | start hr hs =>
    exact ⟨hr.bound, fun _ ht => .inl ht, fun hv => absurd hv hs,
      fun _ _ ht => ht⟩
  | step _ calls operation ho hf hc ih =>
    exact (step_of_careful ih ho hf hc).2

/-- **Careful steps keep the last good installation.**  Wherever a run of them has led, it is there, and the next
careful step keeps it there, leaves the active directory alone if it fails to apply an update, and restores it if
it rolls one back. -/
theorem protected_of_run {environment : Environment} {installation : Installation}
    (h : Run environment Careful installation) :
    installation.Protected ∧ ∀ (calls : Calls) (operation : Operation), operation ≠ .init → OneFailure calls →
        Careful calls installation operation → StepHolds environment calls operation installation := by
  have hinv := inv_of_run h
  exact ⟨hinv.kept, fun _ _ hoperation hfailure hcareful => (step_of_careful hinv hoperation hfailure hcareful).1⟩

/-! ### An installation of one file -/

lemma run_of_outcome {environment : Environment} {calls : Calls} {operation : Operation} {system next : System}
    {good : Option Tree} (ho : operation ≠ .commitUpdate)
    (h : (operation.outcome environment calls system).system = next) :
    ∃ record, run environment calls operation ⟨system, good⟩ = ⟨System.withRecord next record, good⟩ := by
  rw [run, if_neg fun hb => ho hb.1, System.run, Outcome.finish, h]
  split
  · obtain ⟨record, hr⟩ := System.saveRecordToDisk_eq calls next
    exact ⟨record, by rw [hr]⟩
  · exact ⟨next.disk.record, rfl⟩

/-- An installation of one file. -/
def freshInstallation : Installation where
  system := { freshSystem with disk := { active := some [(literal "nstu.exe", [1])] } }
  good := some [(literal "nstu.exe", [1])]

/-- The manifest of a package of one byte. -/
def byteManifest (sha256 : Bytes → Digest) : UpdateManifest where
  byteLength := 1
  sha256Hex := System.hexText (sha256 [2])

/-- The copy of the package breaks off. -/
def brokenCopy : Calls where
  fails := fun call => call == .copyFile

lemma oneFailure_default : OneFailure {} := fun _ _ h => by cases h

lemma oneFailure_brokenCopy : OneFailure brokenCopy := by
  intro call other hc ho
  simp only [brokenCopy, beq_iff_eq] at hc ho
  rw [hc, ho]

/-- The system of the update as it is being received. -/
def receivingSystem (sha256 : Bytes → Digest) (chunk : Bytes) (part record : Option Bytes) : System where
  controller := { freshSystem.controller with
    record := { System.downloadRecord {} (byteManifest sha256) {} freshSystem.controller with
      stagedBytes := UInt64.ofNat chunk.length }
    hashed := some chunk
    isStreaming := true }
  disk := { record, part, active := some [(literal "nstu.exe", [1])] }

/-- The system of the update once it is staged. -/
def stagedSystem (sha256 : Bytes → Digest) (currentState : UpdateState) (backupPath package : Bytes)
    (active backup : Option Tree) (record : Option Bytes) : System where
  controller := { freshSystem.controller with
    record := { System.downloadRecord {} (byteManifest sha256) {} freshSystem.controller with
      stagedBytes := 1
      backupPath := backupPath
      currentState := currentState } }
  disk := { record, package := some package, active, backup }

lemma appendChunk_receiving (sha256 : Bytes → Digest) (record : Option Bytes) :
    (System.appendChunk {} [2] (receivingSystem sha256 [] none record)).system =
      receivingSystem sha256 [2] (some [2]) record := by
  simp [System.appendChunk.eq_def, receivingSystem, System.downloadRecord, byteManifest]

lemma finalizeStaging_receiving (sha256 : Bytes → Digest) (part : Bytes) (record : Option Bytes) :
    (System.finalizeStaging sha256 {} (receivingSystem sha256 [2] (some part) record)).system =
      stagedSystem sha256 .applyPendingReboot [] part (some [(literal "nstu.exe", [1])]) none record := by
  simp [System.finalizeStaging.eq_def, receivingSystem, System.downloadRecord, byteManifest, System.cleanupHashContext,
    System.saved, System.setRecord, stagedSystem, freshSystem]

lemma applyStagedUpdate_brokenCopy (sha256 : Bytes → Digest) (record : Option Bytes) :
    (System.applyStagedUpdate brokenCopy (literal "nstu.exe")
        (stagedSystem sha256 .applyPendingReboot [] [2] (some [(literal "nstu.exe", [1])]) none record)).system =
      stagedSystem sha256 .applyPendingReboot freshSystem.controller.config.backupDirectory [2] (some [])
        (some [(literal "nstu.exe", [1])]) record :=
  rfl

lemma applyStagedUpdate_again (sha256 : Bytes → Digest) (record : Option Bytes) :
    (System.applyStagedUpdate {} (literal "nstu.exe") (stagedSystem sha256 .applyPendingReboot
        freshSystem.controller.config.backupDirectory [2] (some []) (some [(literal "nstu.exe", [1])]) record)).system =
      stagedSystem sha256 .validating freshSystem.controller.config.backupDirectory [2]
        (some [(literal "nstu.exe", [2])]) (some []) record :=
  rfl

lemma run_freshInstallation {environment : Environment} {condition : Calls → Installation → Operation → Prop} :
    Run environment condition freshInstallation :=
  .start (.start freshSystem.controller.config { active := some [(literal "nstu.exe", [1])] }) (by decide)

/-- The fresh installation with the package of one byte staged. -/
def stagedInstallation (environment : Environment) : Installation :=
  ((freshInstallation.run environment {} (.beginStaging (byteManifest environment.sha256) {} false)).run
    environment {} (.appendChunk [2])).run environment {} .finalizeStaging

lemma stagedInstallation_eq (environment : Environment) : ∃ record, stagedInstallation environment =
    ⟨System.withRecord (stagedSystem environment.sha256 .applyPendingReboot [] [2] (some [(literal "nstu.exe", [1])])
      none none) record, freshInstallation.good⟩ := by
  obtain ⟨first, hf⟩ := @run_of_outcome environment {} (.beginStaging (byteManifest environment.sha256) {} false)
    freshInstallation.system (receivingSystem environment.sha256 [] none none) freshInstallation.good (by simp) rfl
  obtain ⟨second, hs⟩ := @run_of_outcome environment {} (.appendChunk [2])
    (System.withRecord (receivingSystem environment.sha256 [] none none) first) _ freshInstallation.good (by simp)
    (appendChunk_receiving environment.sha256 first)
  obtain ⟨third, ht⟩ := @run_of_outcome environment {} .finalizeStaging
    (System.withRecord (receivingSystem environment.sha256 [2] (some [2]) first) second) _ freshInstallation.good (by simp)
    (finalizeStaging_receiving environment.sha256 [2] second)
  refine ⟨third, ?_⟩
  rw [stagedInstallation, show run environment {} _ freshInstallation = _ from hf, hs, ht]
  rfl

lemma run_stagedInstallation {environment : Environment} {condition : Calls → Installation → Operation → Prop}
    (hb : ∀ installation manifest version active, condition {} installation (.beginStaging manifest version active))
    (ha : ∀ installation chunk, condition {} installation (.appendChunk chunk))
    (hf : ∀ installation, condition {} installation .finalizeStaging) :
    Run environment condition (stagedInstallation environment) :=
  ((run_freshInstallation.step {} _ (by simp) oneFailure_default (hb _ _ _ _)).step {} _ (by simp)
    oneFailure_default (ha _ _)).step {} _ (by simp) oneFailure_default (hf _)

/-! ### An update that is rolled back -/

/-- The first look at the package breaks off. -/
def brokenCheck : Calls where
  fails := fun call => call == .existsStaged

lemma oneFailure_brokenCheck : OneFailure brokenCheck := by
  intro call other hc ho
  simp only [brokenCheck, beq_iff_eq] at hc ho
  rw [hc, ho]

/-- The digest of the byte, and a comparison that takes the same paths only. -/
def byteEnvironment : Environment where
  sha256 := fun _ => ⟨[219, 193, 180, 201, 0, 255, 228, 141, 87, 91, 93, 165, 198, 56, 4, 1, 37, 246, 93, 176, 254, 62,
    36, 73, 75, 118, 234, 152, 100, 87, 217, 134], rfl⟩
  samePath := fun _ path other => path == other

/-- The staged installation after two attempts to apply the package.  The first one fails. -/
def updatedInstallation : Installation :=
  ((stagedInstallation byteEnvironment).run byteEnvironment brokenCheck (.applyStagedUpdate (literal "nstu.exe"))).run
    byteEnvironment {} (.applyStagedUpdate (literal "nstu.exe"))

lemma attempt_eq : ∃ record, (stagedInstallation byteEnvironment).run byteEnvironment brokenCheck
      (.applyStagedUpdate (literal "nstu.exe")) =
    ⟨System.withRecord (stagedSystem byteEnvironment.sha256 .applyPendingReboot [] [2]
      (some [(literal "nstu.exe", [1])]) none none) record, freshInstallation.good⟩ := by
  obtain ⟨record, hr⟩ := stagedInstallation_eq byteEnvironment
  exact ⟨record, by rw [hr]; rfl⟩

lemma updatedInstallation_eq : ∃ record, updatedInstallation =
    ⟨System.withRecord (stagedSystem byteEnvironment.sha256 .validating freshSystem.controller.config.backupDirectory
      [2] (some [(literal "nstu.exe", [2])]) (some [(literal "nstu.exe", [1])]) none) record,
      freshInstallation.good⟩ := by
  obtain ⟨record, hr⟩ := attempt_eq
  obtain ⟨next, hn⟩ := @run_of_outcome byteEnvironment {} (.applyStagedUpdate (literal "nstu.exe"))
    (System.withRecord (stagedSystem byteEnvironment.sha256 .applyPendingReboot [] [2]
      (some [(literal "nstu.exe", [1])]) none none) record)
    (stagedSystem byteEnvironment.sha256 .validating freshSystem.controller.config.backupDirectory [2]
      (some [(literal "nstu.exe", [2])]) (some [(literal "nstu.exe", [1])]) record) freshInstallation.good (by simp) rfl
  exact ⟨next, by rw [updatedInstallation, hr, hn]; rfl⟩

/-- There is no backup yet, and the installation is active. -/
lemma applyCareful_fresh {calls : Calls} {installation : Installation} {tree : Tree}
    (hb : installation.system.disk.backup = none) (ha : installation.system.disk.active = some tree)
    (hc : calls.fails .copyFile = false) : ApplyCareful calls installation where
  removes h := by
    have hs := h.2.2.2.2
    rw [hb] at hs
    cases hs
  copies _ := hc
  active h := by
    rw [ha] at h
    cases h

lemma run_updatedInstallation : Run byteEnvironment Careful updatedInstallation := by
  have hs : Run byteEnvironment Careful (stagedInstallation byteEnvironment) :=
    run_stagedInstallation (fun _ _ _ _ => trivial) (fun _ _ => trivial) fun _ => trivial
  refine (hs.step brokenCheck (.applyStagedUpdate (literal "nstu.exe")) (by simp) oneFailure_brokenCheck
    fun _ => ?_).step {} (.applyStagedUpdate (literal "nstu.exe")) (by simp) oneFailure_default fun _ => ?_
  · obtain ⟨record, hr⟩ := stagedInstallation_eq byteEnvironment
    rw [hr]
    exact applyCareful_fresh rfl rfl rfl
  · obtain ⟨record, hr⟩ := attempt_eq
    rw [hr]
    exact applyCareful_fresh rfl rfl rfl

/-- A package is staged and applied at the second attempt, and then it is rolled back. -/
theorem protected_of_run_rolledBack : updatedInstallation.Protected ∧
      updatedInstallation.system.disk.active = some [(literal "nstu.exe", [2])] ∧
      (updatedInstallation.run byteEnvironment {} .rollbackUpdate).system.disk.active =
        some [(literal "nstu.exe", [1])] := by
  obtain ⟨hprotected, hsteps⟩ := protected_of_run run_updatedInstallation
  obtain ⟨record, hupdated⟩ := updatedInstallation_eq
  have hok : (Operation.rollbackUpdate.outcome byteEnvironment {} updatedInstallation.system).ok = true := by
    rw [hupdated]
    rfl
  refine ⟨hprotected, by rw [hupdated]; rfl, ?_⟩
  exact (hsteps {} .rollbackUpdate (by simp) oneFailure_default trivial).restored rfl hok _ (by rw [hupdated]; rfl)

/-! ### A second attempt that goes wrong -/

/-- A repeated application removes the backup that the first one has made, and moves the broken copy there. -/
theorem not_protected_of_repeated :
    ¬ ∃ environment, ∀ installation, Run environment (fun _ _ _ => True) installation → installation.Protected := by
  rintro ⟨environment, hkept⟩
  obtain ⟨third, hthird⟩ := stagedInstallation_eq environment
  obtain ⟨fourth, hfourth⟩ := @run_of_outcome environment brokenCopy (.applyStagedUpdate (literal "nstu.exe"))
    (System.withRecord (stagedSystem environment.sha256 .applyPendingReboot [] [2] (some [(literal "nstu.exe", [1])]) none none)
      third) _ freshInstallation.good (by simp) (applyStagedUpdate_brokenCopy environment.sha256 third)
  obtain ⟨fifth, hfifth⟩ := @run_of_outcome environment {} (.applyStagedUpdate (literal "nstu.exe"))
    (System.withRecord (stagedSystem environment.sha256 .applyPendingReboot freshSystem.controller.config.backupDirectory [2]
      (some []) (some [(literal "nstu.exe", [1])]) third) fourth) _ freshInstallation.good (by simp)
    (applyStagedUpdate_again environment.sha256 fourth)
  have hrun : Run environment (fun _ _ _ => True) (stagedInstallation environment) :=
    run_stagedInstallation (fun _ _ _ _ => trivial) (fun _ _ => trivial) fun _ => trivial
  have hrun := hrun.step brokenCopy (.applyStagedUpdate (literal "nstu.exe")) (by simp) oneFailure_brokenCopy trivial
  have hrun := hrun.step {} (.applyStagedUpdate (literal "nstu.exe")) (by simp) oneFailure_default trivial
  have hkept := hkept _ hrun
  rw [hthird, hfourth, hfifth] at hkept
  rcases hkept [(literal "nstu.exe", [1])] rfl with hactive | hbackup
  · have hactive : (some [(literal "nstu.exe", [2])] : Option Tree) = some [(literal "nstu.exe", [1])] := hactive
    exact absurd hactive (by decide)
  · have hbackup : (some [] : Option Tree) = some [(literal "nstu.exe", [1])] := hbackup
    exact absurd hbackup (by decide)

end Installation

end Nstu.Update
