import Overseer.Tools.Console
import Overseer.Tools.Escapes
import Overseer.Tools.Quoting

/-!
# Tools for files

Tools that look at the tree of files and change it.

## Main definitions

* `ls`, `touch`, `mkdir`, `rmdir`, `rm`, `cp`, `mv`, `ln`, `chmod`, `readlink`, `mktemp` — the tools
* `basename`, `dirname` — the parts of a path
-/

namespace Overseer.Tools

open Overseer.Host Overseer.Os

/-- The file at a path is a directory. -/
def isDirectoryAt (path : String) (follow : Bool) : Act Bool := do
  match ← Act.call (.status path follow) with
  | .ok { identity := .directory _, .. } => return true
  | _ => return false

/-- The last name of a path text, behind which slashes do not count. -/
def lastName (path : String) : String :=
  let kept := path.toList.reverse.dropWhile (· == '/')
  if kept.isEmpty then if path.isEmpty then "" else "/"
  else String.ofList (kept.takeWhile (· != '/')).reverse

/-- A path text without its last name. -/
def withoutLast (path : String) : String :=
  let kept := path.toList.reverse.dropWhile (· == '/')
  let rest := kept.dropWhile (· != '/')
  if kept.isEmpty then if path.isEmpty then "." else "/"
  else if rest.isEmpty then "."
  else
    let parent := rest.dropWhile (· == '/')
    if parent.isEmpty then "/" else String.ofList parent.reverse

/-- A path in a directory. -/
def joinPath (dir name : String) : String :=
  if dir.endsWith "/" then dir ++ name else dir ++ "/" ++ name

/-- Does a change, and reports it if it fails. -/
def changeOr (name : String) (c : Change) (failure : Errno → String) : Act Nat := do
  match ← Act.call (.change c) with
  | .ok () => return 0
  | .error e => do
    report name (failure e)
    return 1

/-! ## Names -/

/-- Writes the last names of paths. -/
def basename : Tool := fun arguments _ =>
  withOptions { flags := "az", valued := "s", anywhere := false } 1 arguments fun name s => do
    let cutSuffix (suffix n : String) : String :=
      if n.endsWith suffix ∧ n ≠ suffix then
        String.ofList (n.toList.take (n.length - suffix.length))
      else n
    match s.operands with
    | [] => usageError name "missing operand" 1
    | operands =>
      if s.has 'a' ∨ s.has 's' then
        say name (String.join (operands.map fun o =>
          cutSuffix ((s.value? 's').getD "") (lastName o) ++ "\n")) 0
      else match operands with
        | [path] => say name (lastName path ++ "\n") 0
        | [path, suffix] => say name (cutSuffix suffix (lastName path) ++ "\n") 0
        | _ => usageError name ("extra operand " ++ quotedArgument (operands.getD 2 "")) 1

/-- Writes paths without their last names. -/
def dirname : Tool := fun arguments _ =>
  withOptions { flags := "z" } 1 arguments fun name s =>
    if s.operands.isEmpty then usageError name "missing operand" 1
    else say name (String.join (s.operands.map fun o => withoutLast o ++ "\n")) 0

/-! ## Listing -/

/-- The names in a directory that are to be shown, in order. -/
def shownNames (s : Settings) (names : List String) : List String :=
  let names := if s.has 'a' then "." :: ".." :: names
    else if s.has 'A' then names
    else names.filter (!·.startsWith ".")
  let sorted := names.mergeSort fun a b => decide (a ≤ b)
  if s.has 'r' then sorted.reverse else sorted

/-- Writes the names in directories. -/
def ls : Tool := fun arguments _ =>
  withOptions
    { flags := "aA1rdCtpFhqsSU"
      long := [("all", 'a'), ("almost-all", 'A'), ("reverse", 'r'), ("directory", 'd')] }
    2 arguments fun name s => do
      let operands := if s.operands.isEmpty then ["."] else s.operands
      let rec sortOut : List String → Act (List String × List String × Nat)
        | [] => return ([], [], 0)
        | path :: rest => do
          let (files, dirs, code) ← sortOut rest
          match ← Act.call (.status path true) with
          | .ok { identity := .directory _, .. } =>
            if s.has 'd' then return (path :: files, dirs, code)
            else return (files, path :: dirs, code)
          | .ok _ => return (path :: files, dirs, code)
          | .error e => do
            report name ("cannot access " ++ quotedName path ++ ": " ++ e.text)
            return (files, dirs, 2)
      let (files, dirs, code) ← sortOut operands
      let sorted (names : List String) : List String := names.mergeSort fun a b => decide (a ≤ b)
      let rec listAll (first : Bool) : List String → Nat → Act Nat
        | [], code => return code
        | dir :: rest, code => do
          let gap := if first then "" else "\n"
          let title := if operands.length > 1 then gap ++ dir ++ ":\n" else ""
          match ← Act.call (.list dir) with
          | .ok names => do
            let code ← say name (title ++ unlines (shownNames s names)) code
            listAll false rest code
          | .error e => do
            report name ("cannot open directory " ++ quotedName dir ++ ": " ++ e.text)
            listAll false rest 2
      let code ← if files.isEmpty then pure code else say name (unlines (sorted files)) code
      listAll files.isEmpty (sorted dirs) code

/-! ## Making and removing -/

/-- Makes files that are missing. -/
def touch : Tool := fun arguments _ =>
  withOptions { flags := "acmh", valued := "rdt" } 1 arguments fun name s =>
    if s.operands.isEmpty then usageError name "missing file operand" 1
    else eachOf (fun path => do
      match ← Act.call (.status path true) with
      | .ok _ => return 0
      | .error _ =>
        if s.has 'c' then return 0
        match ← Act.call (.openFile path { write := true, create := true }) with
        | .ok fd => do
          let _ ← Act.call (.close fd)
          return 0
        | .error e => do
          report name ("cannot touch " ++ quotedName path ++ ": " ++ e.text)
          return 1) s.operands 0

/-- Makes the directories above a path and the one at it. -/
def makeAbove (name : String) : Nat → (path : String) → Act Nat
  | 0, _ => return 1
  | n + 1, path => do
    match ← Act.call (.change (.makeDirectory path)) with
    | .ok () => return 0
    | .error .alreadyThere =>
      if ← isDirectoryAt path true then return 0
      report name ("cannot create directory " ++ quotedArgument path ++ ": File exists")
      return 1
    | .error .noEntry =>
      if withoutLast path = path then return 1
      let code ← makeAbove name n (withoutLast path)
      if code ≠ 0 then return code
      changeOr name (.makeDirectory path) fun e =>
        "cannot create directory " ++ quotedArgument path ++ ": " ++ e.text
    | .error e => do
      report name ("cannot create directory " ++ quotedArgument path ++ ": " ++ e.text)
      return 1

/-- Makes directories. -/
def mkdir : Tool := fun arguments _ =>
  withOptions { flags := "pv", valued := "m", long := [("parents", 'p'), ("mode", 'm')] }
    1 arguments fun name s =>
      if s.operands.isEmpty then usageError name "missing operand" 1
      else eachOf (fun path =>
        if s.has 'p' then makeAbove name (path.length + 1) path
        else changeOr name (.makeDirectory path) fun e =>
          "cannot create directory " ++ quotedArgument path ++ ": " ++ e.text) s.operands 0

/-- Removes empty directories. -/
def rmdir : Tool := fun arguments _ =>
  withOptions { flags := "pv" } 1 arguments fun name s =>
    if s.operands.isEmpty then usageError name "missing operand" 1
    else eachOf (fun path => changeOr name (.removeDirectory path) fun e =>
      "failed to remove " ++ quotedName path ++ ": " ++ e.text) s.operands 0

/-- Removes what stands at a path, at most so deep. -/
def removeAll (name : String) (force : Bool) : Nat → (path : String) → Act Nat
  | 0, _ => return 1
  | n + 1, path => do
    if ← isDirectoryAt path false then
      match ← Act.call (.list path) with
      | .error e => do
        report name ("cannot remove " ++ quotedName path ++ ": " ++ e.text)
        return 1
      | .ok names => do
        let code ← eachOf (fun inside => removeAll name force n (joinPath path inside)) names 0
        if code ≠ 0 then return code
        changeOr name (.removeDirectory path) fun e =>
          "cannot remove " ++ quotedName path ++ ": " ++ e.text
    else removeOne name force path
where
  /-- Removes a name. -/
  removeOne (name : String) (force : Bool) (path : String) : Act Nat := do
    match ← Act.call (.change (.unlink path)) with
    | .ok () => return 0
    | .error .noEntry =>
      if force then return 0
      report name ("cannot remove " ++ quotedName path ++ ": No such file or directory")
      return 1
    | .error e => do
      report name ("cannot remove " ++ quotedName path ++ ": " ++ e.text)
      return 1

/-- Directories are nested at most so deep. -/
def maxDirectories : Nat := 2048

/-- Removes files and directories. -/
def rm : Tool := fun arguments _ =>
  withOptions
    { flags := "rRfdvi"
      long := [("recursive", 'r'), ("force", 'f'), ("dir", 'd'), ("verbose", 'v')] } 1 arguments
    fun name s =>
      let force := s.has 'f'
      if s.operands.isEmpty then
        if force then return 0 else usageError name "missing operand" 1
      else eachOf (fun path => do
        if s.has 'r' ∨ s.has 'R' then
          match ← Act.call (.status path false) with
          | .error e => do
            if force ∧ (e = .noEntry ∨ e = .notDirectory) then return 0
            report name ("cannot remove " ++ quotedName path ++ ": " ++ e.text)
            return 1
          | .ok _ => removeAll name force maxDirectories path
        else if ← isDirectoryAt path false then
          if s.has 'd' then
            changeOr name (.removeDirectory path) fun e =>
              "cannot remove " ++ quotedName path ++ ": " ++ e.text
          else do
            report name ("cannot remove " ++ quotedName path ++ ": Is a directory")
            return 1
        else removeAll.removeOne name force path) s.operands 0

/-! ## Copying and moving -/

/-- The place that something goes to: a path, or a name in a directory. -/
def destinationOf (source target : String) : Act String := do
  if ← isDirectoryAt target true then return joinPath target (lastName source) else return target

/-- Copies a file. -/
def copyFile (name source target : String) : Act Nat := do
  match ← Act.call (.openFile source { read := true }) with
  | .error e => do
    report name ("cannot open " ++ quotedName source ++ " for reading: " ++ e.text)
    return 1
  | .ok input => do
    let flags : OpenFlags := { write := true, create := true, truncate := true }
    match ← Act.call (.openFile target flags) with
    | .error e => do
      let _ ← Act.call (.close input)
      report name ("cannot create regular file " ++ quotedName target ++ ": " ++ e.text)
      return 1
    | .ok output => do
      let r ← copyStream (fun (_ : Unit) bytes => (bytes, ())) input output ()
      let _ ← Act.call (.close input)
      let _ ← Act.call (.close output)
      match r with
      | .ok () =>
        match ← Act.call (.status source true) with
        | .ok status =>
          if status.mode &&& 0o111 ≠ 0 then
            let _ ← Act.call (.change (.setMode target status.mode))
          return 0
        | .error _ => return 0
      | .error e => do
        report name ("error writing " ++ quotedName target ++ ": " ++ e.text)
        return 1

/-- Copies what stands at a path, at most so deep. -/
def copyAll (name : String) (recursive : Bool) : Nat → (source target : String) → Act Nat
  | 0, _, _ => return 1
  | n + 1, source, target => do
    match ← Act.call (.status source true) with
    | .error e => do
      report name ("cannot stat " ++ quotedName source ++ ": " ++ e.text)
      return 1
    | .ok { identity := .directory _, .. } =>
      if !recursive then
        report name ("-r not specified; omitting directory " ++ quotedName source)
        return 1
      let made ← Act.call (.change (.makeDirectory target))
      match made with
      | .error .alreadyThere | .ok () =>
        match ← Act.call (.list source) with
        | .ok names =>
          let copyInside (inside : String) :=
            copyAll name recursive n (joinPath source inside) (joinPath target inside)
          eachOf copyInside names 0
        | .error _ => return 1
      | .error e => do
        report name ("cannot create directory " ++ quotedName target ++ ": " ++ e.text)
        return 1
    | .ok _ => copyFile name source target

/-- Works on all operands but the last one, and the place where each of them goes. -/
def towardsLast (name verb : String) (s : Settings) (work : String → String → Act Nat) :
    Act Nat := do
  match s.operands with
  | [] => usageError name "missing file operand" 1
  | [only] => usageError name ("missing destination file operand after " ++ quotedName only) 1
  | operands =>
    let target := operands.getLast?.getD ""
    let sources := operands.dropLast
    if sources.length > 1 ∧ !(← isDirectoryAt target true) then
      report name ("target " ++ quotedName target ++ verb)
      return 1
    eachOf (fun source => do work source (← destinationOf source target)) sources 0

/-- Copies files and directories. -/
def cp : Tool := fun arguments _ =>
  withOptions { flags := "rRapfvTiL", long := [("recursive", 'r'), ("archive", 'a')] } 1 arguments
    fun name s =>
      towardsLast name ": No such file or directory" s fun source target =>
        copyAll name (s.has 'r' || s.has 'R' || s.has 'a') maxDirectories source target

/-- Gives files and directories other names. -/
def mv : Tool := fun arguments _ =>
  withOptions { flags := "fivnT" } 1 arguments fun name s =>
    towardsLast name ": No such file or directory" s fun source target => do
      match ← Act.call (.status source false) with
      | .error e => do
        report name ("cannot stat " ++ quotedName source ++ ": " ++ e.text)
        return 1
      | .ok _ => changeOr name (.rename source target) fun e =>
        "cannot move " ++ quotedName source ++ " to " ++ quotedName target ++ ": " ++ e.text

/-- Makes links. -/
def ln : Tool := fun arguments _ =>
  withOptions { flags := "sfnvT", long := [("symbolic", 's'), ("force", 'f')] }
    1 arguments fun name s => do
    let link (source target : String) : Act Nat := do
      if !s.has 's' then
        if let .error e ← Act.call (.status source false) then
          report name ("failed to access " ++ quotedName source ++ ": " ++ e.text)
          return 1
      if s.has 'f' then
        let _ ← Act.call (.change (.unlink target))
      let kind := if s.has 's' then "symbolic link " else "hard link "
      changeOr name (if s.has 's' then .link source target else .hardLink source target) fun e =>
        "failed to create " ++ kind ++ quotedName target ++ ": " ++ e.text
    match s.operands with
    | [source] => link source (lastName source)
    | _ => towardsLast name ": No such file or directory" s link

/-- The permission bits that a mode asks for, given those that there are. -/
def modeOf? (mode : String) (old : Nat) : Option Nat :=
  let chars := mode.toList
  if !chars.isEmpty ∧ chars.all fun c => (digitOf? 8 c).isSome then
    some (digitsFrom 8 0 chars.length chars).1
  else (mode.splitOn ",").foldlM clause old
where
  /-- Applies one part of a mode. -/
  clause (old : Nat) (text : String) : Option Nat := do
    let who := text.toList.takeWhile fun c => "ugoa".toList.contains c
    let (op, letters) ← match text.toList.drop who.length with
      | op :: letters => some (op, letters)
      | [] => none
    let bit : Char → Option Nat
      | 'r' => some 4
      | 'w' => some 2
      | 'x' | 'X' => some 1
      | _ => none
    let bits ← letters.foldlM (fun n c => (bit c).map (n ||| ·)) 0
    let everyone := who.isEmpty || who.contains 'a'
    let has (c : Char) : Bool := everyone || who.contains c
    let spread (n : Nat) : Nat :=
      let part (class_ : Char) (shift : Nat) := if has class_ then n <<< shift else 0
      part 'u' 6 ||| part 'g' 3 ||| part 'o' 0
    match op with
    | '+' => some (old ||| spread bits)
    | '-' => some (old &&& (0o7777 - spread bits))
    | '=' => some ((old &&& (0o7777 - spread 7)) ||| spread bits)
    | _ => none

/-- Changes permission bits. -/
def chmod : Tool := fun arguments _ => do
  let name := arguments.headD ""
  let words := (arguments.drop 1).filter fun a => a != "-v" && a != "-f" && a != "-R" && a != "--"
  match words with
  | mode :: files@(_ :: _) =>
    if (modeOf? mode 0).isNone then
      return ← usageError name ("invalid mode: " ++ quotedArgument mode) 1
    eachOf (fun path => do
      match ← Act.call (.status path true) with
      | .error e => do
        report name ("cannot access " ++ quotedName path ++ ": " ++ e.text)
        return 1
      | .ok status =>
        match modeOf? mode status.mode with
        | none => usageError name ("invalid mode: " ++ quotedArgument mode) 1
        | some bits => changeOr name (.setMode path bits) fun e =>
          "changing permissions of " ++ quotedName path ++ ": " ++ e.text) files 0
  | [only] => usageError name ("missing operand after " ++ quotedArgument only) 1
  | [] => usageError name "missing operand" 1

/-- Writes where links go. -/
def readlink : Tool := fun arguments _ =>
  withOptions { flags := "femnqsvz" } 1 arguments fun name s => do
    let ending := if s.has 'n' then "" else "\n"
    eachOf (fun path => do
      if s.has 'f' ∨ s.has 'e' ∨ s.has 'm' then
        match ← Act.call (.status path true) with
        | .ok { identity := .directory place, .. } => say name (Path.text place ++ ending) 0
        | .ok _ => do
          let here : String ← Act.call .here
          say name ((if path.startsWith "/" then path else joinPath here path) ++ ending) 0
        | .error _ => return 1
      else
        match ← Act.call (.readLink path) with
        | .ok target => say name (target ++ ending) 0
        | .error _ => return 1) s.operands 0

/-- Makes a file or a directory with a fresh name. -/
def mktemp : Tool := fun arguments environment =>
  withOptions { flags := "dqut", valued := "p" } 1 arguments fun name s => do
    let dir := (s.value? 'p').getD ((environment.lookup "TMPDIR").getD "/tmp")
    let template := s.operands.headD "tmp.XXXXXXXXXX"
    let stem := template.toList.reverse.dropWhile (· == 'X')
    let count := template.length - stem.length
    let inPlace := !s.operands.isEmpty && (s.value? 'p').isNone && !s.has 't'
    let rec attempt : Nat → Nat → Act Nat
      | 0, _ => return 1
      | n + 1, number => do
        let digits := toString number
        let tag := "".pushn 'a' (count - digits.length) ++ digits
        let file := String.ofList stem.reverse ++ tag
        let path := if inPlace then file else joinPath dir file
        let made ← if s.has 'd' then Act.call (.change (.makeDirectory path))
          else do
            let flags : OpenFlags := { write := true, create := true, exclusive := true }
            match ← Act.call (.openFile path flags) with
            | .ok fd => Act.call (.close fd)
            | .error e => pure (.error e)
        match made with
        | .ok () => say name (path ++ "\n") 0
        | .error .alreadyThere => attempt n (number + 1)
        | .error e => do
          report name
            ("failed to create file via template " ++ quotedArgument template ++ ": " ++ e.text)
          return 1
    if count < 3 then
      report name ("too few X's in template " ++ quotedArgument template)
      return 1
    attempt 10000 1000

end Overseer.Tools
