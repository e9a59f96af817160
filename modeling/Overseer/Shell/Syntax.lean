/-!
# The syntax of shell commands

A word is a list of parts, some of which stand for something else.  Commands are trees.  Texts are
octet strings.

## Main definitions

* `Dialect` — the two shells of the host
* `Part`, `Word` — words
* `Redirection` — where a descriptor is to lead
* `Command` — commands
-/

namespace Overseer.Shell

/-- The two shells of the host. -/
inductive Dialect where
  /-- the full shell -/
  | bash
  /-- the plain shell -/
  | dash
  deriving DecidableEq, Repr, Inhabited

/-- How a parameter is tested: only for being set, or also for being empty. -/
inductive TestKind where
  | unset | unsetOrEmpty
  deriving DecidableEq, Repr, Inhabited

/-- Where a descriptor is to lead. -/
inductive RedirectionKind where
  /-- from a file -/
  | input
  /-- to a file -/
  | output
  /-- to a file, even if files are not to be overwritten -/
  | overwrite
  /-- to the end of a file -/
  | append
  /-- to and from a file -/
  | inputOutput
  /-- where another descriptor leads, for reading -/
  | copyInput
  /-- where another descriptor leads, for writing -/
  | copyOutput
  /-- both output streams to a file -/
  | outputBoth
  /-- both output streams to the end of a file -/
  | appendBoth
  /-- from a text -/
  | text
  deriving DecidableEq, Repr, Inhabited

mutual

/-- A part of a word. -/
inductive Part where
  /-- text outside quotes -/
  | plain (text : String)
  /-- text that stands for itself -/
  | quoted (text : String)
  /-- parts between weak quotes -/
  | weak (parts : List Part)
  /-- the value of a parameter -/
  | parameter (name : String) (use : ParameterUse)
  /-- the output of a command; the line `start` of its text counts as the line that the word
  is in -/
  | output (start : Nat) (command : Command)
  /-- the value of an arithmetic expression -/
  | arithmetic (expression : List Part)

/-- What is made of the value of a parameter. -/
inductive ParameterUse where
  /-- the value -/
  | value
  /-- its length -/
  | length
  /-- another text if there is no value -/
  | orElse (kind : TestKind) (word : List Part)
  /-- another text, which becomes the value, if there is none -/
  | orAssign (kind : TestKind) (word : List Part)
  /-- an error if there is no value -/
  | orFail (kind : TestKind) (word : List Part)
  /-- another text if there is a value -/
  | andThen (kind : TestKind) (word : List Part)
  /-- the value without a beginning -/
  | trimStart (longest : Bool) (pattern : List Part)
  /-- the value without an ending -/
  | trimEnd (longest : Bool) (pattern : List Part)
  /-- the value with something in place of what matches -/
  | replace (all : Bool) (anchor : Option Bool) (pattern replacement : List Part)
  /-- a part of the value -/
  | slice (start : List Part) (length : Option (List Part))
  /-- the value in upper or lower case -/
  | changeCase (upper all : Bool)
  /-- the value of the parameter that the value names -/
  | indirect
  /-- something that makes no sense; the name is all of it -/
  | senseless

/-- A redirection. -/
inductive Redirection where
  | mk (fd : Option Nat) (kind : RedirectionKind) (target : List Part)

/-- One case of a choice: patterns, a command, and whether the next command follows. -/
inductive Choice where
  | mk (patterns : List (List Part)) (body : Command) (fallThrough : Bool)

/-- A condition of the full shell. -/
inductive Condition where
  | unary (op : String) (word : List Part)
  | binary (op : String) (left right : List Part)
  | not (c : Condition)
  | both (a b : Condition)
  | either (a b : Condition)

/-- A command. -/
inductive Command where
  /-- does nothing -/
  | skip
  /-- assignments, words and redirections, and the line that they begin in -/
  | simple (line : Nat) (assignments : List (String × Bool × List Part)) (words : List (List Part))
      (redirections : List Redirection)
  /-- commands that hand their output on, perhaps with the opposite status -/
  | pipeline (negated : Bool) (commands : List Command)
  /-- one after another -/
  | sequence (first second : Command)
  /-- the second if the first succeeds -/
  | andThen (first second : Command)
  /-- the second if the first fails -/
  | orElse (first second : Command)
  /-- in the background -/
  | background (command : Command)
  /-- in the same shell -/
  | group (body : Command)
  /-- in a copy of the shell -/
  | subshell (body : Command)
  /-- with redirections -/
  | redirected (line : Nat) (body : Command) (redirections : List Redirection)
  /-- a condition and two ways to go on -/
  | cond (test yes no : Command)
  /-- as long as a command succeeds, or fails -/
  | loop (until_ : Bool) (test body : Command)
  /-- for each word, or each argument -/
  | forEach (line : Nat) (name : String) (words : Option (List (List Part))) (body : Command)
  /-- for each word of a file or a text counted by expressions -/
  | forCount (start test step : List Part) (body : Command)
  /-- the first choice that matches -/
  | select (line : Nat) (word : List Part) (choices : List Choice)
  /-- a function -/
  | define (name : String) (body : Command)
  /-- a condition -/
  | test (line : Nat) (condition : Condition)
  /-- an arithmetic command -/
  | compute (line : Nat) (expression : List Part)

end

/-- A word. -/
abbrev Word := List Part

instance : Inhabited Part := ⟨.plain ""⟩
instance : Inhabited ParameterUse := ⟨.value⟩
instance : Inhabited Redirection := ⟨.mk none .input []⟩
instance : Inhabited Choice := ⟨.mk [] .skip false⟩
instance : Inhabited Condition := ⟨.unary "-n" []⟩
instance : Inhabited Command := ⟨.skip⟩

/-- The text of a word that stands for itself throughout. -/
def literalWord? (w : Word) : Option String :=
  (w.mapM fun
    | Part.plain t => some t
    | _ => none).map String.join

end Overseer.Shell
