import Overseer.Script.Collect
import Overseer.Script.Ephemeral

/-!
# Running source text through an interpreter

The source is written to a file of its own, the interpreter is run on that file, and the file is
removed before anything is said about the run.  A run counts as good when the interpreter ends with
code 0 and has written nothing to its standard error output.

## Main definitions

* `ScriptRunner` — an interpreter and where its files go
* `judge` — what the end of a run means
* `ScriptRunner.run` — runs source text
-/

namespace Overseer.Script

open Overseer.Host Overseer.Os Overseer.Text Overseer.Time

/-- The interpreter of scripts unless another one is named. -/
def defaultInterpreter : String := "python3"

/-- What the names of script files end in unless something else is named. -/
def defaultExtension : String := ".py"

/-- An interpreter and where the files for it go. -/
structure ScriptRunner where
  /-- the interpreter, a path or a name to search for -/
  interpreter : OsText := .ofString defaultInterpreter
  /-- what the names of script files end in -/
  extension : String := defaultExtension
  /-- where script directories are made -/
  root : String := systemRoot
  deriving Inhabited

/-- What the end of a run means. -/
def judge (output : CapturedOutput) : Except ScriptError String :=
  if output.exitCode ≠ 0 then .error (.executionFailed output.exitCode output.stderr)
  else if output.stderr ≠ "" then .error (.errorOutput output.stderr)
  else .ok output.stdout

section

variable {σ : Type}

/-- Does something with the files of a system. -/
def onFiles {α : Type} (m : StateM FileTree α) : StateM (FileTree × σ) α := fun (files, rest) =>
  let (a, files) := m.run files
  (a, files, rest)

namespace ScriptRunner

/-- Runs an interpreter on a script, removes the script, and says what came of it. -/
def runFile (faults : Faults) (platform : Platform (FileTree × σ)) (runner : ScriptRunner)
    (script : EphemeralScript) (timeout : Duration) (args : List String) :
    StateM (FileTree × σ) (Except ScriptError String) := do
  let arguments := script.pathText :: args.map .ofString
  let result ← runProgram platform runner.interpreter arguments timeout
  let (_, script) ← onFiles (script.cleanup faults)
  onFiles (script.drop faults)
  match result with
  | .error e => pure (.error e)
  | .ok output => pure (judge output)

/-- Runs source text with a deadline of so many seconds. -/
def run (faults : Faults) (platform : Platform (FileTree × σ)) (runner : ScriptRunner)
    (source : String) (timeoutSecs : UInt64) (args : List String) :
    StateM (FileTree × σ) (Except ScriptError String) := do
  if timeoutSecs = 0 then pure (.error .invalidTimeout)
  else
    match ← onFiles (EphemeralScript.create faults runner.root runner.extension source) with
    | .error e => pure (.error (.io e))
    | .ok script => runFile faults platform runner script (.ofSecs timeoutSecs) args

end ScriptRunner

end

end Overseer.Script
