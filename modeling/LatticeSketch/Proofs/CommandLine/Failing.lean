/-
# LatticeSketch.Proofs.CommandLine.Failing -- what a run that fails leaves of the files

A run succeeds, or it ends with a failure in one of two ways (`Ending`): what was asked for is
refused before any file is touched, or the file system refuses an operation while a lattice is
saved.  Saving asks for nothing but operations on files, so it fails with a refusal by the file
system and with nothing else (`isRefusal_of_save`); every other fault is found before the saving
begins.

A report is never that of a refusal and of another fault as well, so it tells which of the two
has happened (`unchanged_of_failed_run`).
-/
import LatticeSketch.Proofs.CommandLine.Reports
import LatticeSketch.Proofs.Files.Editing

namespace LatticeSketch

set_option autoImplicit false

/-! ## Operations on files -/

namespace FileTree

variable {tree : FileTree} {home : Place} {path : String} {fault : FileFault}

theorem isRefusal_of_start (failed : start home path = .error fault) : fault.isRefusal = true := by
  unfold start at failed
  split at failed
  · cases failed
    rfl
  split at failed
  · cases failed
    rfl
  split at failed
  · cases failed
    rfl
  · cases failed

theorem isRefusal_of_follow {place : Place} {names : List String}
    (failed : tree.follow place names = .error fault) : fault.isRefusal = true := by
  fun_induction follow tree place names <;> simp_all
  all_goals subst failed; rfl

theorem isRefusal_of_resolve (failed : tree.resolve home path = .error fault) :
    fault.isRefusal = true := by
  unfold resolve at failed
  cases started : start home path with
  | error other =>
      simp only [started, Except.error.injEq] at failed
      subst failed
      exact isRefusal_of_start started
  | ok place =>
      simp only [started] at failed
      exact isRefusal_of_follow failed

theorem isRefusal_of_find (failed : tree.find home path = .error fault) :
    fault.isRefusal = true := by
  unfold find at failed
  cases resolved : tree.resolve home path with
  | error other =>
      simp only [resolved, Except.error.injEq] at failed
      subst failed
      exact isRefusal_of_resolve resolved
  | ok place =>
      simp only [resolved] at failed
      split at failed
      · cases failed
        rfl
      · cases failed

theorem isRefusal_of_read (failed : tree.read home path = .error fault) :
    fault.isRefusal = true := by
  unfold read at failed
  split at failed
  · rename_i found
    cases failed
    exact isRefusal_of_find found
  · cases failed
    rfl
  · cases failed

theorem isRefusal_of_write {content : ByteArray}
    (failed : tree.write home path content = .error fault) : fault.isRefusal = true := by
  unfold write at failed
  split at failed
  · rename_i other resolved
    cases failed
    unfold writeFault
    split
    · rename_i started
      exact isRefusal_of_start started
    · split
      · rfl
      · exact isRefusal_of_resolve resolved
  · split at failed
    · cases failed
      rfl
    · cases failed

theorem isRefusal_of_ensureDirectory (failed : tree.ensureDirectory home path = .error fault) :
    fault.isRefusal = true := by
  unfold ensureDirectory at failed
  split at failed
  · rename_i resolved
    cases failed
    exact isRefusal_of_resolve resolved
  · split at failed <;> cases failed
    rfl

theorem isRefusal_of_copy {target : String} (failed : tree.copy home path target = .error fault) :
    fault.isRefusal = true := by
  unfold copy at failed
  split at failed
  · cases failed
    rfl
  · rename_i read
    cases failed
    exact isRefusal_of_read read
  · exact isRefusal_of_write failed

end FileTree

/-! ## Saving -/

namespace Archive

variable {archive after : Archive} {name text : String} {fault : Fault}

theorem isRefusal_of_backUp (failed : archive.backUp name = (.error fault, after)) :
    fault.isRefusal = true := by
  unfold backUp at failed
  split at failed
  · split at failed
    · rename_i made
      cases failed
      exact FileTree.isRefusal_of_ensureDirectory made
    · dsimp only at failed
      split at failed
      · rename_i copied
        cases failed
        exact FileTree.isRefusal_of_copy copied
      · cases failed
  · cases failed

/-- Only the file system can keep a lattice from being saved. -/
theorem isRefusal_of_save (failed : archive.save name text = (.error fault, after)) :
    fault.isRefusal = true := by
  unfold save at failed
  split at failed
  · rename_i stored
    cases failed
    exact isRefusal_of_backUp stored
  · split at failed
    · rename_i written
      cases failed
      exact FileTree.isRefusal_of_write written
    · cases failed

theorem isRefusal_of_keep {crystal : Crystal}
    (failed : (crystal.keep archive).result = .error fault) : fault.isRefusal = true :=
  isRefusal_of_save (Prod.ext failed rfl)

theorem isRefusal_of_expand {crystal : Crystal} {sites : Nat}
    (failed : (crystal.expand archive sites).result = .error fault) :
    fault.isRefusal = true := by
  unfold Crystal.expand at failed
  split at failed
  · cases failed
  · exact isRefusal_of_keep failed

/-- A reduction fails before the lattice is saved, or because it cannot be. -/
theorem reduce_of_error {crystal : Crystal} {sites : Nat}
    (failed : (crystal.reduce archive sites).result = .error fault) :
    fault.isRefusal = true ∨ (crystal.reduce archive sites).store = archive := by
  unfold Crystal.reduce at failed ⊢
  split at failed
  · cases failed
  · split at failed
    · exact .inr (by simp_all)
    · exact .inl (isRefusal_of_keep failed)

theorem isRefusal_of_generate {grid : Grid} {columns height : Nat}
    (failed : (grid.generate archive name columns height).result = .error fault) :
    fault.isRefusal = true := by
  unfold Grid.generate at failed
  dsimp only at failed
  split at failed
  · rename_i saved
    cases failed
    exact isRefusal_of_save saved
  · cases failed

end Archive

namespace CommandLine

/-! ## Runs -/

/-- How a run on `files` can end. -/
inductive Ending (files : FileTree) : Exit → Prop where
  | succeeded {exit : Exit} (code : exit.code = 0) : Ending files exit
  /-- Some operation on files is refused; those before it stay done. -/
  | refused (after : FileTree) {failure : Failure} (refusal : failure.fault.isRefusal = true) :
      Ending files (fail after failure)
  | unchanged (failure : Failure) : Ending files (fail files failure)

/-- A run that fails reports a failure, and changes files only if that is a refusal. -/
theorem Ending.report {files : FileTree} {exit : Exit} (ending : Ending files exit)
    (failed : exit.code ≠ 0) :
    exit.code = 1 ∧ ∃ failure : Failure, exit.errors = failure.report ∧
      (failure.fault.isRefusal = false → exit.files = files) := by
  cases ending with
  | succeeded code => exact absurd code failed
  | refused after refusal => exact ⟨rfl, _, rfl, fun other => absurd refusal (by simp [other])⟩
  | unchanged failure => exact ⟨rfl, failure, rfl, fun _ => rfl⟩

section Tasks

variable {archive : Archive}

theorem ending_finish {α : Type} (context? : Option String) {written : Written Archive α}
    (failing : ∀ fault, written.result = .error fault →
      fault.isRefusal = true ∨ written.store = archive) :
    Ending archive.files (finish context? written) := by
  unfold finish
  cases result : written.result with
  | ok done => exact .succeeded rfl
  | error fault =>
      rcases failing fault result with refusal | same
      · exact .refused _ refusal
      · rw [same]
        exact .unchanged _

theorem ending_edit (settings : Settings) (name : String)
    {change : Crystal → Written Archive Crystal}
    (failing : ∀ crystal fault, (change crystal).result = .error fault →
      fault.isRefusal = true ∨ (change crystal).store = archive) :
    Ending archive.files (edit archive settings name change) := by
  unfold edit
  split
  · exact .unchanged _
  · exact ending_finish none (failing _)

theorem ending_writeScript (output script : String) :
    Ending archive.files (writeScript archive.files archive.home output script) := by
  unfold writeScript
  split
  · exact .unchanged _
  · exact .succeeded rfl

theorem files_writeScript {files : FileTree} {home : Place} {output script : String}
    (failed : (writeScript files home output script).code ≠ 0) :
    (writeScript files home output script).files = files := by
  unfold writeScript at failed ⊢
  cases written : files.write home output script.toUTF8 with
  | error fault => rfl
  | ok after =>
      rw [written] at failed
      exact absurd rfl failed

/-- Each task ends in one of the three ways. -/
theorem ending_task (settings : Settings) (time : String) (task : Task) :
    Ending archive.files (task.run archive settings time) := by
  cases task with
  | create name columns height evenShifted =>
      exact ending_finish _ fun _ failed => .inl (Archive.isRefusal_of_generate failed)
  | display name =>
      unfold Task.run
      dsimp only
      split
      · exact .unchanged _
      · exact .succeeded rfl
  | expand name sites =>
      exact ending_edit settings name fun _ _ failed => .inl (Archive.isRefusal_of_expand failed)
  | reduce name sites =>
      exact ending_edit settings name fun _ _ failed => Archive.reduce_of_error failed
  | compile names output toStandardOutput boundary? parts =>
      unfold Task.run
      dsimp only
      split
      · exact .unchanged _
      · split
        · exact .succeeded rfl
        · exact ending_writeScript output _

/-- To show a lattice changes no file. -/
theorem files_run_display (settings : Settings) (time name : String) :
    ((Task.display name).run archive settings time).files = archive.files := by
  unfold Task.run
  dsimp only
  split <;> rfl

/-- To compile changes a file only when the script is written to one and nothing fails. -/
theorem files_run_compile (settings : Settings) (time : String) (names : List String)
    (output : String) {toStandardOutput : Bool} (boundary? : Option Boundary) (parts : SceneParts)
    (spared : toStandardOutput = true ∨
      ((Task.compile names output toStandardOutput boundary? parts).run archive settings
        time).code ≠ 0) :
    ((Task.compile names output toStandardOutput boundary? parts).run archive settings
      time).files = archive.files := by
  unfold Task.run at spared ⊢
  dsimp only at spared ⊢
  split
  · rfl
  · rename_i script made
    cases toStandardOutput with
    | true => rfl
    | false =>
        simp only [made, Bool.false_eq_true, if_false, false_or] at spared
        exact files_writeScript spared

end Tasks

theorem ending_run (invocation : Invocation) (files : FileTree) (home : Place) (time : String) :
    Ending files (invocation.run files home time) := by
  unfold Invocation.run
  split
  · exact .unchanged _
  · rename_i settings read
    let archive : Archive := ⟨files, home, invocation.directory⟩
    have ending : Ending archive.files _ := ending_task settings time invocation.task
    exact ending

/-- A run that fails changes no file, unless its report is that of a refusal by the file system: a
command line that is not understood changes none, and neither does a failure with any other
fault.  A compilation that fails changes none at all.  To show a lattice, and to compile to the
standard output, change no file whether they fail or not. -/
theorem unchanged_of_failed_run (arguments : List String) (files : FileTree) (home : Place)
    (time : String) :
    let exit := run arguments files home time
    (exit.code ≠ 0 →
      Invocation.ofArguments arguments = .error .usage ∧ exit.files = files ∨
      exit.code = 1 ∧ ∃ failure : Failure, exit.errors = failure.report ∧
        (failure.fault.isRefusal = false → exit.files = files)) ∧
    (∀ failure : Failure, exit.code ≠ 0 → exit.errors = failure.report →
      failure.fault.isRefusal = false → exit.files = files) ∧
    ∀ invocation, Invocation.ofArguments arguments = .ok invocation →
      (∀ name, invocation.task = .display name → exit.files = files) ∧
      ∀ names output toStandardOutput boundary? parts,
        invocation.task = .compile names output toStandardOutput boundary? parts →
        toStandardOutput = true ∨ exit.code ≠ 0 → exit.files = files := by
  intro exit
  cases read : Invocation.ofArguments arguments with
  | error reason =>
      have same : exit = reason.exit files := by
        simp only [exit, run, read]
      clear_value exit
      have spared : exit.files = files := by
        rw [same]
        cases reason <;> rfl
      refine ⟨fun failed => .inl ⟨?_, spared⟩, fun _ _ _ _ => spared, fun _ carried => ?_⟩
      · cases reason with
        | usage => rfl
        | help | version => exact absurd (congrArg Exit.code same) failed
      · cases carried
  | ok invocation =>
      have same : exit = invocation.run files home time := by
        simp only [exit, run, read]
      clear_value exit
      have ending : Ending files exit := same ▸ ending_run invocation files home time
      refine ⟨fun failed => .inr (ending.report failed), fun failure failed report other => ?_, ?_⟩
      · obtain ⟨-, cause, told, spared⟩ := ending.report failed
        exact spared ((isRefusal_of_report_eq (told.symm.trans report)).trans other)
      · rintro _ ⟨⟩
        rw [same]
        unfold Invocation.run
        cases invocation.settings files home with
        | error failure => exact ⟨fun _ _ => rfl, fun _ _ _ _ _ _ _ => rfl⟩
        | ok settings =>
            constructor
            · intro name shown
              dsimp only
              rw [shown]
              exact files_run_display settings time name
            · intro names output toStandardOutput boundary? parts asked
              dsimp only
              rw [asked]
              exact files_run_compile settings time names output boundary? parts

/-- A reduction by more sites than there are changes nothing, and a lattice is only shown. -/
theorem unchanged_of_failed_run_narrow :
    let files := (Archive.holding "0 0 \n").files
    (run ["reduce", "pc", "-n", "5"] files [] "").code = 1 ∧
    (run ["reduce", "pc", "-n", "5"] files [] "").files = files ∧
    (run ["show", "pc"] files [] "").files = files := by
  intro files
  obtain ⟨-, failed, -⟩ := unchanged_of_failed_run ["reduce", "pc", "-n", "5"] files [] ""
  obtain ⟨-, -, reading⟩ := unchanged_of_failed_run ["show", "pc"] files [] ""
  have code : (run ["reduce", "pc", "-n", "5"] files [] "").code = 1 := by decide +kernel
  have report : (run ["reduce", "pc", "-n", "5"] files [] "").errors =
      Failure.report ⟨none, .tooNarrow 5 0 4⟩ := by
    decide +kernel
  have shown : Invocation.ofArguments ["show", "pc"] =
      .ok ⟨".", none, none, none, .nanometer, .display "pc"⟩ := by
    rfl
  exact ⟨code, failed _ (by rw [code]; decide) report rfl, (reading _ shown).1 "pc" rfl⟩

end CommandLine

end LatticeSketch
