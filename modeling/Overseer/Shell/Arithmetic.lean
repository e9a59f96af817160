import Overseer.Shell.Reader

/-!
# Arithmetic

Expressions compute with integers of 64 bits.  They read variables and can change them.

## Main definitions

* `Expression` — expressions
* `readExpression` — the expression that a text is
* `Store`, `compute` — the value of an expression
-/

namespace Overseer.Shell.Arithmetic

/-- An operator between two operands. -/
inductive Operator where
  | add | subtract | multiply | divide | remainder | power | shiftLeft | shiftRight
  | less | lessEqual | greater | greaterEqual | equal | unequal | bitAnd | bitOr | bitXor
  deriving DecidableEq, Repr

/-- An expression. -/
inductive Expression where
  | number (n : Int64)
  | variable (name : String)
  | negate (e : Expression)
  | complement (e : Expression)
  | not (e : Expression)
  /-- two operands; with the text from the second one on -/
  | binary (op : Operator) (a b : Expression) (text : String)
  | both (a b : Expression)
  | either (a b : Expression)
  | choose (test yes no : Expression)
  /-- a variable gets a value, perhaps one computed from its own -/
  | assign (name : String) (op : Option Operator) (e : Expression) (text : String)
  /-- a variable is counted up or down; the value is the new one or the old one -/
  | step (name : String) (up new : Bool)
  | after (first second : Expression)
  deriving Inhabited, Repr

/-- Why an expression has no value. -/
inductive Mistake where
  /-- an operand is missing where this text stands -/
  | operandExpected (text : String)
  /-- this text makes no sense -/
  | unexpected (text : String)
  /-- this text was divided by and is zero -/
  | divisionByZero (text : String)
  /-- a parenthesis is missing where this text stands -/
  | unclosed (text : String)
  /-- the digits of this number do not belong to its base -/
  | badNumber (text : String)
  /-- the value of a variable is no number -/
  | noNumber (value : String)
  /-- this text has a value given to it and is no variable -/
  | noVariable (text : String)
  deriving DecidableEq, Repr, Inhabited

/-! ## Reading -/

/-- A step of reading an expression. -/
abbrev Read (α : Type) := StateT (List Char) (Except Mistake) α

/-- Blanks of expressions. -/
def isBlank (c : Char) : Bool := c == ' ' || c == '\t' || c == '\n'

/-- Goes past blanks, and gives what is left. -/
def next : Read (List Char) := do
  modify (·.dropWhile isBlank)
  get

/-- The text that is left. -/
def left : Read String := return String.ofList (← get)

/-- The operators between operands, by how tightly they bind. -/
def levels (d : Dialect) : List (List (String × Operator)) :=
  let power : List (List (String × Operator)) := if d = .bash then [[("**", .power)]] else []
  [[("|", .bitOr)], [("^", .bitXor)], [("&", .bitAnd)], [("==", .equal), ("!=", .unequal)],
    [("<=", .lessEqual), (">=", .greaterEqual), ("<", .less), (">", .greater)],
    [("<<", .shiftLeft), (">>", .shiftRight)], [("+", .add), ("-", .subtract)],
    [("*", .multiply), ("/", .divide), ("%", .remainder)]] ++ power

/-- The operators that change a variable. -/
def assignments : List (String × Option Operator) :=
  [("<<=", some .shiftLeft), (">>=", some .shiftRight), ("+=", some .add), ("-=", some .subtract),
    ("*=", some .multiply), ("/=", some .divide), ("%=", some .remainder), ("&=", some .bitAnd),
    ("^=", some .bitXor), ("|=", some .bitOr), ("=", none)]

/-- All operators, the longer ones first. -/
def tokens (d : Dialect) : List String :=
  let shared := ["<<=", ">>=", "&&", "||", "==", "!=", "<=", ">=", "<<", ">>", "+=", "-=", "*=",
    "/=", "%=", "&=", "^=", "|=", "=", "<", ">", "+", "-", "*", "/", "%", "&", "|", "^", "!", "~",
    "?", ":", "(", ")"]
  match d with
  | .bash => ["**", "++", "--", ","] ++ shared
  | .dash => shared

/-- The operator that a text begins with. -/
def leadingToken? (d : Dialect) (text : List Char) : Option String :=
  (tokens d).find? fun t => t.toList.isPrefixOf text

/-- The operator that comes next. -/
def token? (d : Dialect) : Read (Option String) := return leadingToken? d (← next)

/-- Goes past an operator if it comes next. -/
def accept (d : Dialect) (text : String) : Read Bool := do
  if (← token? d) = some text then
    modify (·.drop text.length)
    return true
  else return false

/-- The value of digits to a base up to 64. -/
def digitsValue? (base : Nat) (digits : List Char) : Option Nat :=
  digits.foldlM (fun value c => do
    let digit ← if c.isDigit then some (c.toNat - '0'.toNat)
      else if c.isLower then some (c.toNat - 'a'.toNat + 10)
      else if c.isUpper then some (c.toNat - 'A'.toNat + if base ≤ 36 then 10 else 36)
      else none
    if digit < base then some (value * base + digit) else none) 0

/-- The number that a text of digits and letters is. -/
def number? (text : List Char) : Option Int64 :=
  (match text with
    | '0' :: 'x' :: rest | '0' :: 'X' :: rest => digitsValue? 16 rest
    | '0' :: rest => digitsValue? 8 rest
    | text =>
      match text.splitOn '#' with
      | [digits] => digitsValue? 10 digits
      | [base, digits] => do
        let base ← digitsValue? 10 base
        if 2 ≤ base ∧ base ≤ 64 then digitsValue? base digits else none
      | _ => none).map (Int64.ofInt ·)

mutual

/-- Reads an expression, with commas; each level of nesting takes from the first argument. -/
def readComma (d : Dialect) : Nat → Read Expression
  | 0 => do throw (.unexpected (← left))
  | n + 1 => do
    let e ← readAssignment d n
    if ← accept d "," then return .after e (← readComma d n) else return e

/-- Reads an assignment or what binds more tightly. -/
def readAssignment (d : Dialect) : Nat → Read Expression
  | 0 => do throw (.unexpected (← left))
  | n + 1 => do
    let rest ← next
    let name := rest.takeWhile isNameChar
    let behind := (rest.drop name.length).dropWhile isBlank
    let found := leadingToken? d behind
    match isName (String.ofList name), found.bind fun t => (assignments.lookup t).map (t, ·) with
    | true, some (t, op) =>
      set (behind.drop t.length)
      let text := String.ofList ((← get).dropWhile isBlank)
      return .assign (String.ofList name) op (← readAssignment d n) text
    | _, _ =>
      let test ← readEither d n
      if ← accept d "?" then
        let yes ← readComma d n
        if !(← accept d ":") then throw (.unexpected (← left))
        return .choose test yes (← readAssignment d n)
      else
        let rest ← next
        let comparison := "==".toList.isPrefixOf rest
        if assignments.any fun (t, _) => t.toList.isPrefixOf rest && !comparison then
          throw (.noVariable (String.ofList rest))
        return test

/-- Reads alternatives. -/
def readEither (d : Dialect) : Nat → Read Expression
  | 0 => do throw (.unexpected (← left))
  | n + 1 => do
    let a ← readBoth d n
    if ← accept d "||" then return .either a (← readEither d n) else return a

/-- Reads conditions that all have to hold. -/
def readBoth (d : Dialect) : Nat → Read Expression
  | 0 => do throw (.unexpected (← left))
  | n + 1 => do
    let a ← readLevels d n (levels d)
    if ← accept d "&&" then return .both a (← readBoth d n) else return a

/-- Reads operands between operators of some levels. -/
def readLevels (d : Dialect) : Nat → List (List (String × Operator)) → Read Expression
  | 0, _ => do throw (.unexpected (← left))
  | n + 1, [] => readUnary d n
  | n + 1, level :: more => do
    let a ← readLevels d n more
    readMore d n level more a

/-- Reads more operands of a level. -/
def readMore (d : Dialect) :
    Nat → List (String × Operator) → List (List (String × Operator)) → Expression → Read Expression
  | 0, _, _, _ => do throw (.unexpected (← left))
  | n + 1, level, more, a => do
    match level.find? (some ·.1 == (← token? d)) with
    | none => return a
    | some (t, op) =>
      modify (·.drop t.length)
      let text := String.ofList (← next)
      let b ← readLevels d n (if op = .power then level :: more else more)
      readMore d n level more (.binary op a b text)

/-- Reads an operand. -/
def readUnary (d : Dialect) : Nat → Read Expression
  | 0 => do throw (.unexpected (← left))
  | n + 1 => do
    let rest ← next
    let counts : Bool := d = .bash
    match ← token? d with
    | some "++" =>
      if counts then
        modify (·.drop 2)
        let name := String.ofList ((← next).takeWhile isNameChar)
        if isName name then
          modify (·.drop name.length)
          return .step name true true
        else readUnary d n
      else
        modify (·.drop 1)
        readUnary d n
    | some "--" =>
      if counts then
        modify (·.drop 2)
        let name := String.ofList ((← next).takeWhile isNameChar)
        if isName name then
          modify (·.drop name.length)
          return .step name false true
        else readUnary d n
      else
        modify (·.drop 1)
        return .negate (← readUnary d n)
    | some "+" =>
      modify (·.drop 1)
      readUnary d n
    | some "-" =>
      modify (·.drop 1)
      return .negate (← readUnary d n)
    | some "!" =>
      modify (·.drop 1)
      return .not (← readUnary d n)
    | some "~" =>
      modify (·.drop 1)
      return .complement (← readUnary d n)
    | some "(" =>
      modify (·.drop 1)
      let e ← readComma d n
      if ← accept d ")" then return e else throw (.unclosed (← left))
    | some _ => throw (.operandExpected (String.ofList rest))
    | none =>
      match rest with
      | [] => throw (.operandExpected "")
      | c :: _ =>
        if c.isDigit then
          let text := rest.takeWhile fun c => c.isAlphanum || (c == '#' && d = .bash)
          modify (·.drop text.length)
          match number? text with
          | some v => return .number v
          | none => throw (.badNumber (String.ofList text))
        else if isNameStart c then
          let name := String.ofList (rest.takeWhile isNameChar)
          modify (·.drop name.length)
          if counts then
            if ← accept d "++" then return .step name true false
            if ← accept d "--" then return .step name false false
          return .variable name
        else throw (.operandExpected (String.ofList rest))

end

/-- The expression that a text is; nothing has the value zero. -/
def readExpression (d : Dialect) (text : String) : Except Mistake Expression := do
  let chars := text.toList.dropWhile isBlank
  if chars.isEmpty then return .number 0
  let (e, rest) ← (readComma d (20 * chars.length + 20)).run chars
  let rest := rest.dropWhile isBlank
  if rest.isEmpty then return e else throw (.unexpected (String.ofList rest))

/-! ## Values -/

/-- How expressions read and change variables. -/
structure Store (σ : Type) where
  /-- the value of a variable, if it has one -/
  lookup : σ → String → Option String
  /-- gives a value to a variable -/
  assign : String → String → σ → σ

/-- One or zero. -/
def truth (b : Bool) : Int64 := if b then 1 else 0

/-- A power whose exponent is not negative. -/
def power (base : Int64) : Nat → Int64
  | 0 => 1
  | n + 1 => power base n * base

/-- The value of two operands. -/
def applyOperator (op : Operator) (a b : Int64) (text : String) : Except Mistake Int64 :=
  match op with
  | .add => .ok (a + b)
  | .subtract => .ok (a - b)
  | .multiply => .ok (a * b)
  | .divide => if b = 0 then .error (.divisionByZero text) else .ok (a / b)
  | .remainder => if b = 0 then .error (.divisionByZero text) else .ok (a % b)
  | .power => .ok (power a (min b.toNatClampNeg 64))
  | .shiftLeft => .ok (a <<< b)
  | .shiftRight => .ok (a >>> b)
  | .less => .ok (truth (a < b))
  | .lessEqual => .ok (truth (a ≤ b))
  | .greater => .ok (truth (b < a))
  | .greaterEqual => .ok (truth (b ≤ a))
  | .equal => .ok (truth (a == b))
  | .unequal => .ok (truth (a != b))
  | .bitAnd => .ok (a &&& b)
  | .bitOr => .ok (a ||| b)
  | .bitXor => .ok (a ^^^ b)

/-- The value of a variable whose value is an expression again, or has to be a number. -/
def variableValue {σ : Type} (d : Dialect) (store : Store σ)
    (deeper : Expression → StateT σ (Except Mistake) Int64) (name : String) :
    StateT σ (Except Mistake) Int64 := do
  let value := (store.lookup (← get) name).getD ""
  match d with
  | .bash => deeper (← readExpression d value)
  | .dash =>
    let trimmed := (value.toList.dropWhile isBlank).reverse.dropWhile isBlank |>.reverse
    match trimmed with
    | [] => return 0
    | '-' :: digits =>
      match number? digits with
      | some n => return -n
      | none => throw (.noNumber value)
    | digits =>
      match number? (if digits.head? = some '+' then digits.drop 1 else digits) with
      | some n => return n
      | none => throw (.noNumber value)

/-- The value of an expression, where variables are looked up by `look`. -/
def Expression.value {σ : Type} (store : Store σ)
    (look : String → StateT σ (Except Mistake) Int64) :
    Expression → StateT σ (Except Mistake) Int64
  | number n => return n
  | .variable name => look name
  | negate e => return -(← e.value store look)
  | complement e => return ~~~(← e.value store look)
  | not e => return truth ((← e.value store look) == 0)
  | binary op a b text => do
    let x ← a.value store look
    let y ← b.value store look
    liftM (applyOperator op x y text)
  | both a b => do
    if (← a.value store look) = 0 then return 0
    return truth ((← b.value store look) != 0)
  | either a b => do
    if (← a.value store look) ≠ 0 then return 1
    return truth ((← b.value store look) != 0)
  | choose test yes no => do
    if (← test.value store look) ≠ 0 then yes.value store look
    else no.value store look
  | assign name op e text => do
    let v ← e.value store look
    let v ← match op with
      | none => pure v
      | some op =>
        let old ← look name
        liftM (applyOperator op old v text)
    modify (store.assign name (toString v.toInt))
    return v
  | step name up new => do
    let old ← look name
    let v := if up then old + 1 else old - 1
    modify (store.assign name (toString v.toInt))
    return if new then v else old
  | after first second => do
    let _ ← first.value store look
    second.value store look

/-- The value of an expression.  A variable may stand for an expression, so many times at most. -/
def evaluate {σ : Type} (d : Dialect) (store : Store σ) :
    Nat → Expression → StateT σ (Except Mistake) Int64
  | 0, _ => return 0
  | n + 1, e => e.value store (variableValue d store (evaluate d store n))

/-- Variables stand for expressions so many times at most. -/
def maxDepth : Nat := 100

/-- The value of the expression that a text is, and what it makes of the variables. -/
def compute {σ : Type} (d : Dialect) (store : Store σ) (text : String) (s : σ) :
    Except Mistake (Int64 × σ) := do
  (evaluate d store maxDepth (← readExpression d text)).run s

/-! ## Mistakes -/

/-- How a mistake in an expression is reported. -/
def Mistake.message (d : Dialect) (expression : String) (m : Mistake) : String :=
  let quoted (s : String) : String := "\"" ++ s ++ "\""
  let token (s : String) : String := " (error token is " ++ quoted s ++ ")"
  let whole := String.ofList (expression.toList.dropWhile isBlank)
  let orLast (text : String) : String := if text.isEmpty then lastToken whole else text
  match d with
  | .bash =>
    match m with
    | operandExpected text => whole ++ ": syntax error: operand expected" ++ token (orLast text)
    | unexpected text => whole ++ ": syntax error in expression" ++ token text
    | divisionByZero text => whole ++ ": division by 0" ++ token text
    | unclosed text => whole ++ ": missing `)'" ++ token (orLast text)
    | badNumber text => whole ++ ": value too great for base" ++ token text
    | noNumber value => whole ++ ": syntax error in expression" ++ token value
    | noVariable text => whole ++ ": attempted assignment to non-variable" ++ token text
  | .dash =>
    match m with
    | operandExpected _ => "arithmetic expression: expecting primary: " ++ quoted expression
    | unexpected _ | badNumber _ | noVariable _ =>
      "arithmetic expression: expecting EOF: " ++ quoted expression
    | divisionByZero _ => "arithmetic expression: division by zero: " ++ quoted expression
    | unclosed _ => "arithmetic expression: expecting ')': " ++ quoted expression
    | noNumber value => "Illegal number: " ++ value
where
  /-- The operator that a text ends with. -/
  lastToken (text : String) : String :=
    let end_ := text.toList.reverse.dropWhile isBlank
    let blanks := text.toList.reverse.takeWhile isBlank
    match (tokens .bash).find? fun t => t.toList.reverse.isPrefixOf end_ with
    | some t => t ++ String.ofList blanks
    | none => ""

end Overseer.Shell.Arithmetic
