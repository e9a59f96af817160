import Overseer.Proofs.Script.Creation
import Overseer.Proofs.Supervision.Programs
import Overseer.Script.Runner

/-!
# A call to run a script

Running a script has three parts: its file is written, the interpreter runs on it, and the directory is
removed again.  The equations of this module take a call apart into these parts, so that each of them can
be looked at by itself: `after_of_noTime` and `after_of_notWritten` for the calls that get no further,
`after_of_written` for all others.
-/

namespace Overseer.Script

open Overseer.Host Overseer.Os Overseer.Text Overseer.Time

/-- A call to run a script, and the system on which it is made. -/
structure ScriptCall (σ : Type) where
  /-- failures of the system -/
  faults : Faults
  /-- the system -/
  platform : Platform (FileTree × σ)
  /-- the interpreter and where its files go -/
  runner : ScriptRunner
  /-- the source text -/
  source : String
  /-- the deadline, in seconds -/
  timeoutSecs : UInt64
  /-- the arguments behind the script -/
  args : List String
  /-- the files when the call is made -/
  files : FileTree
  /-- the rest of the system when the call is made -/
  rest : σ

theorem run_onFiles {σ α : Type} (m : StateM FileTree α) (files : FileTree) (rest : σ) :
    (onFiles m).run (files, rest) = ((m.run files).1, (m.run files).2, rest) :=
  rfl

namespace EphemeralScript

variable {faults : Faults} {files : FileTree} {script : EphemeralScript}

/-- Cleaning up removes the directory as far as that can be done, and uses the handle up. -/
theorem run_cleanup (live : script.live = true) :
    (script.cleanup faults).run files =
      (((remove faults script.dir files).map fun _ => (), { script with live := false }),
        discard faults script.dir files) := by
  simp only [cleanup, discard, StateT.run, live, if_true]
  cases remove faults script.dir files <;> rfl

/-- A script whose handle is used up is cleaned up without a trace. -/
theorem run_cleanup_of_not_live (used : script.live = false) :
    (script.cleanup faults).run files = ((.ok (), script), files) := by
  simp [cleanup, StateT.run, used]

/-- A script whose handle is used up is dropped without a trace. -/
theorem run_drop_of_not_live (used : script.live = false) :
    (script.drop faults).run files = ((), files) := by
  simp [drop, StateT.run, used]

end EphemeralScript

namespace ScriptCall

variable {σ : Type} (call : ScriptCall σ)

/-- The result of a call, and the system behind it. -/
def after : Except ScriptError String × FileTree × σ :=
  (call.runner.run call.faults call.platform call.source call.timeoutSecs call.args).run
    (call.files, call.rest)

/-- The script in its file, and the files then. -/
def written : Except OsError EphemeralScript × FileTree :=
  (EphemeralScript.create call.faults call.runner.root call.runner.extension call.source).run
    call.files

/-- What the interpreter is given to run a script. -/
def arguments (script : EphemeralScript) : List OsText :=
  script.pathText :: call.args.map .ofString

/-- What came of running the interpreter on a script, and the system then. -/
def ran (script : EphemeralScript) (files : FileTree) :
    Except ScriptError CapturedOutput × FileTree × σ :=
  (runProgram call.platform call.runner.interpreter (call.arguments script)
    (.ofSecs call.timeoutSecs)).run (files, call.rest)

variable {call} {script : EphemeralScript} {files : FileTree} {cause : OsError}

theorem after_of_noTime (none : call.timeoutSecs = 0) :
    call.after = (.error .invalidTimeout, call.files, call.rest) := by
  unfold after ScriptRunner.run
  rw [if_pos none]
  rfl

theorem after_of_notWritten (time : call.timeoutSecs ≠ 0)
    (fails : call.written = (.error cause, files)) :
    call.after = (.error (.io cause), files, call.rest) := by
  unfold after ScriptRunner.run
  rw [if_neg time, run_bind, run_onFiles]
  unfold written at fails
  rw [fails]
  rfl

/-- **The parts of a call.**  The result is that of the interpreter, judged, and the directory of the
script is removed behind the run. -/
theorem after_of_written (time : call.timeoutSecs ≠ 0) (made : call.written = (.ok script, files)) :
    call.after = ((call.ran script files).1.bind judge,
      EphemeralScript.discard call.faults script.dir (call.ran script files).2.1,
      (call.ran script files).2.2) := by
  unfold written at made
  unfold after ScriptRunner.run
  rw [if_neg time, run_bind, run_onFiles, made]
  dsimp only [ScriptRunner.runFile]
  rw [run_bind, run_bind, run_bind]
  have ran : (runProgram call.platform call.runner.interpreter
      (script.pathText :: call.args.map .ofString) (.ofSecs call.timeoutSecs)).run
        (files, call.rest) = call.ran script files := rfl
  rw [ran]
  obtain ⟨result, behind, rest⟩ := call.ran script files
  rw [run_onFiles (script.cleanup call.faults),
    EphemeralScript.run_cleanup (EphemeralScript.live_of_create made), run_onFiles,
    EphemeralScript.run_drop_of_not_live rfl]
  cases result <;> rfl

end ScriptCall

end Overseer.Script
