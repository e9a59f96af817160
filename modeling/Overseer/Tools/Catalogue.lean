import Overseer.Shell.Invocation
import Overseer.Tools.Exchange
import Overseer.Tools.Expr
import Overseer.Tools.Lines
import Overseer.Tools.Processes
import Overseer.Tools.Regex
import Overseer.Tools.Streams

/-!
# The programs of the host

## Main definitions

* `tools` — the tools by their names
* `loader` — all programs
-/

namespace Overseer.Tools

open Overseer.Host Overseer.Shell

/-- The tools of the host by their names. -/
def tools : List (String × Tool) := [
  ("true", trueTool), ("false", falseTool), ("echo", echoTool), ("printf", printfTool),
  ("test", testTool false), ("[", testTool true), ("cat", cat), ("tee", tee), ("yes", yes),
  ("head", head), ("tail", tail), ("tr", tr), ("wc", wc), ("seq", seq), ("sort", sort),
  ("uniq", uniq), ("cut", cut), ("rev", rev), ("tac", tac), ("nl", nl), ("grep", grep),
  ("expr", expr), ("ls", ls),
  ("touch", touch), ("mkdir", mkdir), ("rmdir", rmdir), ("rm", rm), ("cp", cp), ("mv", mv),
  ("ln", ln), ("chmod", chmod), ("readlink", readlink), ("mktemp", mktemp), ("basename", basename),
  ("dirname", dirname), ("sleep", sleep), ("kill", kill), ("env", env), ("nohup", nohup),
  ("setsid", setsid), ("timeout", timeout), ("xargs", xargs), ("printenv", printenv),
  ("pwd", pwdTool), ("id", idTool), ("whoami", fixed "root"), ("hostname", fixed "localhost"),
  ("nproc", fixed "1"), ("uname", uname), ("dd", dd), ("which", which), ("tty", tty)]

/-- The shells of the host by their names. -/
def shells : List (String × Dialect) := [("bash", .bash), ("dash", .dash), ("sh", .dash)]

/-- The programs of the host. -/
def loader : Loader := fun name arguments environment =>
  match shells.lookup name with
  | some d => some (shellProgram d arguments environment)
  | none => (tools.lookup name).map fun tool => Act.program (tool arguments environment)

end Overseer.Tools
