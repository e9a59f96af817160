import Overseer.Tools.Regex
import Overseer.Tools.Test

/-!
# Expressions in arguments

The tool `expr` computes the value of an expression whose every piece is an argument of its own.

## Main definitions

* `evaluateWords` — the value of an expression
* `expr` — the tool
-/

namespace Overseer.Tools

open Overseer.Host

/-- Why words have no value. -/
inductive ExprFault where
  | wrong | noInteger | divisionByZero
  | unexpected (word : String)
  | missingAfter (word : String)
  deriving Repr

/-- A step of computing with words. -/
abbrev ExprReader (α : Type) := StateT (List String) (Except ExprFault) α

/-- Whether a value counts as none. -/
def isNull (value : String) : Bool :=
  value.isEmpty || (integerOf? value == some 0)

/-- The operators by how tightly they bind. -/
def exprLevels : List (List String) :=
  [["|"], ["&"], ["<", "<=", "=", "==", "!=", ">=", ">"], ["+", "-"], ["*", "/", "%"], [":"]]

/-- What a text matches of another one. -/
def matchText (text pattern : String) : String :=
  match readRegex false pattern with
  | none => ""
  | some e =>
    match findMatch? false (.seq .start e) 0 text.toList with
    | some { start := 0, behind } =>
      match behind.parts.lookup 1 with
      | some part => String.ofList part
      | none => if pattern.splitOn "\\(" |>.length |> (· > 1) then "" else toString behind.position
    | _ => if (pattern.splitOn "\\(").length > 1 then "" else "0"

/-- The value of two operands. -/
def applyWord (op a b : String) : Except ExprFault String := do
  let flag (b : Bool) : String := if b then "1" else "0"
  let ordering : Ordering := match integerOf? a, integerOf? b with
    | some x, some y => compare x y
    | _, _ => compare a b
  let both (f : Int → Int → Except ExprFault Int) : Except ExprFault String :=
    match integerOf? a, integerOf? b with
    | some x, some y => (f x y).map toString
    | _, _ => .error .noInteger
  match op with
  | "|" => return if isNull a then (if isNull b then "0" else b) else a
  | "&" => return if isNull a || isNull b then "0" else a
  | "<" => return flag (ordering == .lt)
  | "<=" => return flag (ordering != .gt)
  | "=" | "==" => return flag (ordering == .eq)
  | "!=" => return flag (ordering != .eq)
  | ">=" => return flag (ordering != .lt)
  | ">" => return flag (ordering == .gt)
  | "+" => both fun x y => .ok (x + y)
  | "-" => both fun x y => .ok (x - y)
  | "*" => both fun x y => .ok (x * y)
  | "/" => both fun x y => if y = 0 then .error .divisionByZero else .ok (Int.tdiv x y)
  | "%" => both fun x y => if y = 0 then .error .divisionByZero else .ok (Int.tmod x y)
  | _ => return matchText a b

mutual

/-- The value of operands between operators of some levels; each step takes from the
first argument. -/
def readLevel : Nat → List (List String) → ExprReader String
  | 0, _ => throw .wrong
  | n + 1, [] => readPrimary n
  | n + 1, level :: more => do
    let a ← readLevel n more
    readFurther n level more a

/-- The value when more operands of a level follow. -/
def readFurther : Nat → List String → List (List String) → String → ExprReader String
  | 0, _, _, _ => throw .wrong
  | n + 1, level, more, a => do
    match ← get with
    | op :: rest =>
      if level.contains op then
        if rest.isEmpty then throw (.missingAfter op)
        set rest
        let b ← readLevel n more
        readFurther n level more (← liftM (applyWord op a b))
      else return a
    | [] => return a

/-- The value of an operand. -/
def readPrimary : Nat → ExprReader String
  | 0 => throw .wrong
  | n + 1 => do
    match ← get with
    | [] => throw .wrong
    | "(" :: rest =>
      set rest
      let v ← readLevel n exprLevels
      match ← get with
      | ")" :: rest =>
        set rest
        return v
      | _ => throw .wrong
    | "length" :: rest@(_ :: _) =>
      set rest
      return toString (← readPrimary n).length
    | "match" :: rest@(_ :: _ :: _) =>
      set rest
      let text ← readPrimary n
      return matchText text (← readPrimary n)
    | "index" :: rest@(_ :: _ :: _) =>
      set rest
      let text ← readPrimary n
      let chars := (← readPrimary n).toList
      let found := text.toList.takeWhile fun c => !chars.contains c
      return toString (if found.length = text.length then 0 else found.length + 1)
    | "substr" :: rest@(_ :: _ :: _ :: _) =>
      set rest
      let text ← readPrimary n
      let start := (integerOf? (← readPrimary n)).getD 0
      let length := (integerOf? (← readPrimary n)).getD 0
      if start < 1 ∨ length < 1 then return ""
      return String.ofList ((text.toList.drop (start.toNat - 1)).take length.toNat)
    | "+" :: word :: rest =>
      set rest
      return word
    | word :: rest =>
      set rest
      return word

end

/-- The value of an expression that words spell out. -/
def evaluateWords (words : List String) : Except ExprFault String := do
  let (v, rest) ← (readLevel (20 * words.length + 20) exprLevels).run words
  match rest with
  | [] => return v
  | word :: _ => throw (.unexpected word)

/-- Computes the value of an expression. -/
def expr : Tool := fun arguments _ => do
  let name := arguments.headD ""
  let words := if (arguments.drop 1).head? = some "--" then arguments.drop 2 else arguments.drop 1
  if words.isEmpty then return ← usageError name "missing operand" 2
  match evaluateWords words with
  | .ok v => say name (v ++ "\n") (if isNull v then 1 else 0)
  | .error fault => do
    report name (match fault with
      | .wrong => "syntax error"
      | .noInteger => "non-integer argument"
      | .divisionByZero => "division by zero"
      | .unexpected word => "syntax error: unexpected argument " ++ quotedArgument word
      | .missingAfter word => "syntax error: missing argument after " ++ quotedArgument word)
    return 2

end Overseer.Tools
