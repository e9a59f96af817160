import Overseer.Shell.Syntax

/-!
# Alternatives in braces

The full shell makes several words of a word with alternatives in braces, before anything else is
done with it.

## Main definitions

* `sequenceOf?` — the texts from one number or letter to another
* `expandBraces` — the words that a word with alternatives stands for
-/

namespace Overseer.Shell

/-- A character outside quotes, or a part that is taken as a whole. -/
inductive Atom where
  | char (c : Char)
  | part (p : Part)

/-- The atoms of a word. -/
def atomsOf (w : Word) : List Atom :=
  w.flatMap fun
    | .plain text => text.toList.map Atom.char
    | p => [Atom.part p]

/-- The word that some atoms make, behind characters that have been collected. -/
def wordOfAtoms (sofar : List Char) : List Atom → Word
  | [] => if sofar.isEmpty then [] else [.plain (String.ofList sofar.reverse)]
  | .char c :: rest => wordOfAtoms (c :: sofar) rest
  | .part p :: rest =>
    let others := p :: wordOfAtoms [] rest
    if sofar.isEmpty then others else .plain (String.ofList sofar.reverse) :: others

/-- The text of atoms that are all characters. -/
def textOfAtoms? (atoms : List Atom) : Option String :=
  (atoms.mapM fun
    | Atom.char c => some c
    | Atom.part _ => none).map String.ofList

/-- The alternatives up to the closing brace, and what is behind it. -/
def alternatives (depth : Nat) (current : List Atom) :
    List Atom → Option (List (List Atom) × List Atom)
  | [] => none
  | .char c :: rest =>
    if c = '\x7b' then alternatives (depth + 1) (.char c :: current) rest
    else if c = '\x7d' then
      match depth with
      | 0 => some ([current.reverse], rest)
      | depth + 1 => alternatives depth (.char c :: current) rest
    else if c = ',' ∧ depth = 0 then
      (alternatives 0 [] rest).map fun (others, behind) => (current.reverse :: others, behind)
    else alternatives depth (.char c :: current) rest
  | .part p :: rest => alternatives depth (.part p :: current) rest

/-- The integers from one to another, by steps of a size, at most so many. -/
def integersTo (last step : Int) : Nat → Int → List Int
  | 0, _ => []
  | n + 1, i =>
    if (0 < step ∧ last < i) ∨ (step < 0 ∧ i < last) then []
    else i :: integersTo last step n (i + step)

/-- The number of texts that a sequence may have. -/
def maxSequence : Nat := 1000000

/-- The integers from one to another. -/
def integersFrom (first last : Int) (step : Nat) : List Int :=
  let size : Int := if step = 0 then 1 else step
  integersTo last (if first ≤ last then size else -size) maxSequence first

/-- A number with zeros before it up to a width. -/
def paddedNumber (width : Nat) (n : Int) : String :=
  let digits := toString n.natAbs
  let sign := if n < 0 then "-" else ""
  sign ++ "".pushn '0' (width - digits.length - sign.length) ++ digits

/-- The texts that two ends with two dots between them stand for. -/
def sequenceOf? (text : String) : Option (List String) :=
  let make (first last : String) (step : Nat) : Option (List String) :=
    match first.toInt?, last.toInt?, first.toList, last.toList with
    | some a, some b, _, _ =>
      let isPadded (s : String) : Bool :=
        (s.startsWith "0" && s.length > 1) || (s.startsWith "-0" && s.length > 2)
      let width := if isPadded first || isPadded last then max first.length last.length else 0
      some ((integersFrom a b step).map (paddedNumber width))
    | _, _, [a], [b] =>
      if a.isAlpha ∧ b.isAlpha then
        some ((integersFrom a.toNat b.toNat step).map fun n => (Char.ofNat n.toNat).toString)
      else none
    | _, _, _, _ => none
  match text.splitOn ".." with
  | [first, last] => make first last 1
  | [first, last, step] => (step.toInt?).bind fun n => make first last n.natAbs
  | _ => none

/-- The lists of atoms that a list of atoms with alternatives stands for, at most so deep. -/
def expandAtoms : Nat → List Atom → List (List Atom)
  | 0, atoms => [atoms]
  | n + 1, atoms =>
    match atoms with
    | [] => [[]]
    | .char c :: rest =>
      let asItIs := (expandAtoms n rest).map (.char c :: ·)
      if c = '\x7b' then
        match alternatives 0 [] rest with
        | none => asItIs
        | some ([single], behind) =>
          match (textOfAtoms? single).bind sequenceOf? with
          | none => asItIs
          | some texts =>
            let tails := expandAtoms n behind
            texts.flatMap fun t => tails.map (t.toList.map Atom.char ++ ·)
        | some (choices, behind) =>
          let tails := expandAtoms n behind
          (choices.flatMap (expandAtoms n)).flatMap fun head => tails.map (head ++ ·)
      else asItIs
    | .part p :: rest => (expandAtoms n rest).map (.part p :: ·)

/-- The words that a word with alternatives in braces stands for. -/
def expandBraces (w : Word) : List Word :=
  let atoms := atomsOf w
  let open_ := atoms.any fun
    | Atom.char c => c == '\x7b'
    | Atom.part _ => false
  if open_ then (expandAtoms atoms.length atoms).map (wordOfAtoms []) else [w]

end Overseer.Shell
