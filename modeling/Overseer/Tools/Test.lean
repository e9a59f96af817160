import Overseer.Host.Streams
import Overseer.Tools.Escapes
import Overseer.Tools.Integers
import Overseer.Tools.Quoting

/-!
# Conditions on arguments

The command `test` decides a condition that its arguments spell out.  Up to four arguments are
understood by their number; more of them are read as an expression.

## Main definitions

* `testUnary`, `testBinary` — conditions on one or two arguments
* `testArguments` — the condition that arguments spell out
-/

namespace Overseer.Tools

open Overseer.Host Overseer.Os

/-- The outcome of a condition, or why it is none. -/
abbrev Verdict := Except String Bool

/-- Conditions on one argument. -/
def unaryOperators : List String :=
  ["-e", "-f", "-d", "-r", "-w", "-x", "-s", "-L", "-h", "-p", "-b", "-c", "-S", "-t", "-n", "-z",
    "-g", "-k", "-u", "-O", "-G", "-N", "-a", "-o", "-v"]

/-- Conditions on two arguments. -/
def binaryOperators (manner : Manner) : List String :=
  ["=", "!=", "-eq", "-ne", "-lt", "-le", "-gt", "-ge", "-nt", "-ot", "-ef", "<", ">"] ++
    if manner == Manner.plain then [] else ["=="]

/-- Whether a file is of a kind. -/
def isOfKind (op : String) (s : FileStatus) : Bool :=
  match op, s.identity with
  | "-f", .file _ | "-f", .program _ | "-f", .report _ => true
  | "-d", .directory _ => true
  | "-L", .link _ | "-h", .link _ => true
  | "-p", .pipe _ => true
  | "-c", .device _ => true
  | "-x", .directory _ | "-x", .program _ => true
  | "-x", _ => s.mode &&& 0o111 != 0
  | "-s", .directory _ | "-s", .program _ => true
  | "-s", _ => s.size != 0
  | "-g", _ => s.mode &&& 0o2000 != 0
  | "-u", _ => s.mode &&& 0o4000 != 0
  | "-k", _ => s.mode &&& 0o1000 != 0
  | op, _ => ["-e", "-r", "-w", "-O", "-G", "-N", "-a"].contains op

/-- How an argument that is no integer is reported. -/
def noInteger (manner : Manner) (text : String) : String :=
  match manner with
  | .full => text ++ ": integer expression expected"
  | .plain => "Illegal number: " ++ text
  | .tool => "invalid integer " ++ quotedArgument text

/-- A condition on one argument. -/
def testUnary (op argument : String) : Act Verdict := do
  if op = "-n" then return .ok !argument.isEmpty
  else if op = "-z" then return .ok argument.isEmpty
  else if op = "-t" ∨ op = "-o" ∨ op = "-v" then return .ok false
  else
    match ← Act.call (.status argument (op != "-L" && op != "-h")) with
    | .error _ => return .ok false
    | .ok s => return .ok (isOfKind op s)

/-- What two numbers are to each other. -/
def compareIntegers (op : String) (a b : Int) : Bool :=
  match op with
  | "-eq" => a == b
  | "-ne" => a != b
  | "-lt" => decide (a < b)
  | "-le" => decide (a ≤ b)
  | "-gt" => decide (b < a)
  | _ => decide (b ≤ a)

/-- A condition on two arguments. -/
def testBinary (manner : Manner) (op a b : String) : Act Verdict := do
  match op with
  | "=" | "==" => return .ok (a == b)
  | "!=" => return .ok (a != b)
  | "<" => return .ok (decide (a < b))
  | ">" => return .ok (decide (b < a))
  | "-ef" | "-nt" | "-ot" =>
    let x ← Act.call (.status a true)
    let y ← Act.call (.status b true)
    match x, y with
    | .ok s, .ok t => return .ok (op == "-ef" && s.identity == t.identity)
    | .ok _, .error _ => return .ok (op == "-nt" && manner != .plain)
    | .error _, .ok _ => return .ok (op == "-ot" && manner != .plain)
    | .error _, .error _ => return .ok false
  | op =>
    let read := if manner = .tool then integerOf? else wordOf?
    match read a, read b with
    | some m, some n => return .ok (compareIntegers op m n)
    | none, _ => return .error (noInteger manner a)
    | _, none => return .error (noInteger manner b)

/-- The opposite of an outcome. -/
def opposite : Verdict → Verdict
  | .ok b => .ok !b
  | e => e

/-- An outcome in an expression and the arguments behind what it is the outcome of. -/
abbrev Reading := Except String (Bool × List String)

/-- A condition that the first arguments spell out, at most so deep. -/
def testExpression (manner : Manner) : Nat → List String → Act Reading
  | 0, _ => return .error "argument expected"
  | n + 1, arguments => do
    match ← conjunction n arguments with
    | .error e => return .error e
    | .ok (a, "-o" :: rest) =>
      match ← testExpression manner n rest with
      | .error e => return .error e
      | .ok (b, rest) => return .ok (a || b, rest)
    | r => return r
where
  /-- Conditions joined by `-a`. -/
  conjunction : Nat → List String → Act Reading
    | 0, _ => return .error "argument expected"
    | n + 1, arguments => do
      match ← negation n arguments with
      | .error e => return .error e
      | .ok (a, "-a" :: rest) =>
        match ← conjunction n rest with
        | .error e => return .error e
        | .ok (b, rest) => return .ok (a && b, rest)
      | r => return r
  /-- A condition with its negations. -/
  negation : Nat → List String → Act Reading
    | 0, _ => return .error "argument expected"
    | n + 1, arguments => do
      match arguments with
      | "!" :: rest@(_ :: _) =>
        match ← negation n rest with
        | .error e => return .error e
        | .ok (a, rest) => return .ok (!a, rest)
      | a :: op :: b :: rest =>
        if (binaryOperators manner).contains op then
          match ← testBinary manner op a b with
          | .error e => return .error e
          | .ok v => return .ok (v, rest)
        else short n arguments
      | _ => short n arguments
  /-- A condition on at most one argument. -/
  short : Nat → List String → Act Reading
    | n, "(" :: rest => do
      match ← testExpression manner n rest with
      | .ok (a, ")" :: rest) => return .ok (a, rest)
      | .ok _ => return .error "closing paren expected"
      | .error e => return .error e
    | _, op :: a :: rest => do
      if unaryOperators.contains op then
        match ← testUnary op a with
        | .error e => return .error e
        | .ok v => return .ok (v, rest)
      else return .ok (!op.isEmpty, a :: rest)
    | _, [a] => return .ok (!a.isEmpty, [])
    | _, [] => return .error "argument expected"

/-- What is reported when arguments spell nothing out. -/
def tooMany (manner : Manner) (lastRead extra : String) : String :=
  match manner with
  | .full => "too many arguments"
  | .plain => lastRead ++ ": unexpected operator"
  | .tool => "extra argument " ++ quotedArgument extra

/-- The condition that arguments spell out as an expression. -/
def testLong (manner : Manner) (arguments : List String) : Act Verdict := do
  match ← testExpression manner (arguments.length + 2) arguments with
  | .error e => return .error e
  | .ok (v, []) => return .ok v
  | .ok (_, extra :: more) =>
    let lastRead := arguments.getD (arguments.length - more.length - 2) ""
    return .error (tooMany manner lastRead extra)

/-- The condition that two arguments spell out. -/
def testTwo (manner : Manner) (a b : String) : Act Verdict := do
  if a = "!" then return .ok b.isEmpty
  else if unaryOperators.contains a then testUnary a b
  else return .error (match manner with
    | .full => a ++ ": unary operator expected"
    | .plain => if (binaryOperators manner).contains b then b ++ ": argument expected"
      else a ++ ": unexpected operator"
    | .tool => "missing argument after " ++ quotedArgument b)

/-- The condition that three arguments spell out. -/
def testThree (manner : Manner) (a op b : String) : Act Verdict := do
  if (binaryOperators manner).contains op then testBinary manner op a b
  else if op = "-a" then return .ok (!a.isEmpty && !b.isEmpty)
  else if op = "-o" then return .ok (!a.isEmpty || !b.isEmpty)
  else if a = "!" then return opposite (← testTwo manner op b)
  else if a = "(" ∧ b = ")" then return .ok !op.isEmpty
  else return .error (match manner with
    | .full => op ++ ": binary operator expected"
    | .plain => a ++ ": unexpected operator"
    | .tool => quotedArgument op ++ ": binary operator expected")

/-- The condition that arguments spell out. -/
def testArguments (manner : Manner) : List String → Act Verdict
  | [] => return .ok false
  | [a] => return .ok !a.isEmpty
  | [a, b] => testTwo manner a b
  | [a, op, b] => testThree manner a op b
  | ["!", a, op, b] => do return opposite (← testThree manner a op b)
  | ["(", a, b, ")"] => testTwo manner a b
  | arguments => testLong manner arguments

end Overseer.Tools
