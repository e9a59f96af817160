import Overseer.Script.Error
import Overseer.Text.Blank
import Overseer.Text.Quoted
import Overseer.Text.Unsigned

/-!
# Readings of the processor load

A sampling script prints the load as a whole percentage, or one fixed word when it cannot tell.

## Main definitions

* `SampleError` — why a source has no value
* `parseLoad` — the load that a script printed
-/

namespace Overseer.Load

open Overseer.Script Overseer.Text

/-- Why a source has no value. -/
inductive SampleError where
  /-- the sampling script did not run cleanly -/
  | script (cause : ScriptError)
  /-- the sampling script printed that it cannot tell -/
  | sentinel
  /-- the sampling script printed something else than a number -/
  | parse (text : String)
  /-- the system itself could not tell -/
  | native (reason : String)
  deriving DecidableEq, Repr

namespace SampleError

/-- The text of the error. -/
def message : SampleError → String
  | script cause => "sampling script failed: " ++ cause.message
  | sentinel => "sampling script reported failure"
  | parse text => "unparseable CPU load: " ++ quote text
  | native reason => "native CPU sampling failed: " ++ reason

/-- The error below this one, if there is one. -/
def cause? : SampleError → Option ScriptError
  | script cause => some cause
  | _ => none

end SampleError

/-- What a sampling script prints when it cannot tell the load. -/
def failureSentinel : String := "pyerror"

/-- Loads fit into 32 bits. -/
def loadBound : Nat := 4294967296

/-- The load that a script printed, blank characters around it aside. -/
def parseLoad (output : String) : Except SampleError Nat :=
  let text := trim output
  if text = failureSentinel then .error .sentinel
  else match unsigned? loadBound text with
    | some n => .ok n
    | none => .error (.parse text)

end Overseer.Load
