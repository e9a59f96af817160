import Overseer.Tools.Escapes

/-!
# Echo

## Main definitions

* `echoText` — what is written for some arguments
-/

namespace Overseer.Tools

/-- The escapes of `echo`. -/
def echoRules : Manner → EscapeRules
  | .full => ⟨false, true, true, false, true⟩
  | .plain => ⟨true, true, false, false, true⟩
  | .tool => ⟨true, true, true, false, true⟩

/-- Whether an argument is an option of `echo`. -/
def isEchoOption (manner : Manner) (argument : String) : Bool :=
  match manner, argument.toList with
  | .plain, chars => chars == ['-', 'n']
  | _, '-' :: c :: rest => (c :: rest).all fun c => c == 'n' || c == 'e' || c == 'E'
  | _, _ => false

/-- The last of the two letters that say whether escapes are replaced. -/
def lastEscapeLetter (options : List String) (usual : Bool) : Bool :=
  (options.flatMap String.toList).foldl (fun replaced c =>
    if c == 'e' then true else if c == 'E' then false else replaced) usual

/-- Texts joined by blanks, up to an escape that ends the output. -/
def joinEscaped (rules : EscapeRules) : List String → String × Bool
  | [] => ("", false)
  | [a] => unescape rules a
  | a :: rest =>
    let (text, ends) := unescape rules a
    if ends then (text, true)
    else
      let (more, ends) := joinEscaped rules rest
      (text ++ " " ++ more, ends)

/-- What `echo` writes for some arguments. -/
def echoText (manner : Manner) (arguments : List String) : String :=
  let options := match manner with
    | .plain => (arguments.take 1).filter (isEchoOption manner)
    | _ => arguments.takeWhile (isEchoOption manner)
  let words := arguments.drop options.length
  let newline := if options.any (·.toList.contains 'n') then "" else "\n"
  if lastEscapeLetter options (manner == .plain) then
    let (text, ends) := joinEscaped (echoRules manner) words
    if ends then text else text ++ newline
  else " ".intercalate words ++ newline

end Overseer.Tools
