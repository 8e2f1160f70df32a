import PerlLint.Shell.Machine
import PerlLint.Shell.Pattern
import PerlLint.Text.Numeral

/-!
# Expansion

What a parameter stands for, and what becomes of a word in which it stands.  There
are the values of variables, of arguments and of the parameters that the shell keeps
itself, and a word in braces may make something else of a value.

An expanded word is a list of pieces, and becomes any number of fields.  What an
unquoted expansion gives is split at blanks; everything else stays in one field.

The arithmetic of the shell has integers, names of variables, the four operations,
remainders, comparisons and parentheses.  A name without a number as its value is
0.  Division rounds toward zero; by zero it has no value.

Its functions take a bound on the depth, which the length of the text provides.
-/

namespace PerlLint.Shell

open Host

/-! ## Values -/

/-- The value of a variable, if it is set. -/
def State.variable? (s : State) (name : List Char) : Option (List Char) :=
  match s.bindings.get? name with
  | some value => some value
  | none =>
      if name = ['P', 'W', 'D'] then some (Text.Bytes.ofString (Files.pathOf s.directory))
      else none

/-- The value of a parameter, if it is set. -/
def State.parameter? (s : State) (name : List Char) : Option (List Char) :=
  match name with
  | ['@'] | ['*'] =>
      if s.arguments.isEmpty then none else some (s.arguments.intersperse [' ']).flatten
  | ['#'] => some (Text.natDigits s.arguments.length)
  | ['?'] => some (Text.natDigits s.status)
  | ['0'] => some s.name
  | ['$'] => some ['1']
  | _ =>
      if !name.isEmpty && name.all Text.isDigit then
        s.arguments[Text.digitsValue name - 1]?
      else s.variable? name

/-- The number that a variable holds, or 0. -/
def numberIn (bindings : Table (List Char) (List Char)) (name : List Char) : Int :=
  (Text.wholeInt? ((bindings.get? name).getD [])).getD 0

/-! ## Adjustments -/

/-- Whether a value counts as missing. -/
def isMissing (orEmpty : Bool) : Option (List Char) → Bool
  | none => true
  | some value => orEmpty && value.isEmpty

/-- The first or last of the numbers up to `n` that satisfy `p`. -/
def findSize? (last : Bool) (p : Nat → Bool) (n : Nat) : Option Nat :=
  let sizes := List.range (n + 1)
  (if last then sizes.reverse else sizes).find? p

/-- A text without the shortest or longest front that a pattern matches. -/
def dropFront (longest : Bool) (p : List Glob) (s : List Char) : List Char :=
  match findSize? longest (fun n => Glob.matchesAll p (s.take n)) s.length with
  | some n => s.drop n
  | none => s

/-- A text without the shortest or longest end that a pattern matches. -/
def dropBack (longest : Bool) (p : List Glob) (s : List Char) : List Char :=
  match findSize? longest (fun n => Glob.matchesAll p (s.drop (s.length - n))) s.length with
  | some n => s.take (s.length - n)
  | none => s

/-! ## Fields -/

/-- A piece of an expanded word. -/
inductive Chunk where
  /-- Characters that stay together. -/
  | whole (s : List Char)
  /-- Characters that are split at blanks. -/
  | split (s : List Char)
  /-- The end of a field. -/
  | stop
deriving Repr, DecidableEq

/-- A text that stays together if `whole` says so. -/
def Chunk.ofText (whole : Bool) (s : List Char) : Chunk := if whole then .whole s else .split s

/-- What fields are split at. -/
def isFieldBlank (c : Char) : Bool := c == ' ' || c == '\t' || c == '\n'

/-- Ends the current field, if there is one. -/
def endField (done : List (List Char)) : Option (List Char) → List (List Char)
  | some field => field.reverse :: done
  | none => done

/-- Takes the characters of a piece that is split. -/
def splitField (done : List (List Char)) (current : Option (List Char)) :
    List Char → List (List Char) × Option (List Char)
  | [] => (done, current)
  | c :: cs =>
      if isFieldBlank c then splitField (endField done current) none cs
      else splitField done (some (c :: current.getD [])) cs

/-- The fields that pieces make.  `done` holds the fields, last first, and
`current` the characters of the current one, last first. -/
def fieldsFrom (done : List (List Char)) (current : Option (List Char)) :
    List Chunk → List (List Char)
  | [] => (endField done current).reverse
  | .whole s :: rest => fieldsFrom done (some (s.reverse ++ current.getD [])) rest
  | .split s :: rest =>
      let (done, current) := splitField done current s
      fieldsFrom done current rest
  | .stop :: rest => fieldsFrom (endField done current) none rest

/-- The pieces of several texts, each in fields of its own. -/
def separateChunks (quoted : Bool) (texts : List (List Char)) : List Chunk :=
  ((texts.map fun t => [if quoted then Chunk.whole t else .split t]).intersperse
    [.stop]).flatten

/-- The text of pieces that are not split. -/
def joinChunks (chunks : List Chunk) : List Char :=
  chunks.flatMap fun chunk =>
    match chunk with
    | .whole s | .split s => s
    | .stop => [' ']

end PerlLint.Shell

/-! ## Sums -/

namespace PerlLint.Shell.Arithmetic

/-- The text without blanks in front. -/
def skip (cs : List Char) : List Char := cs.dropWhile fun c => c == ' ' || c == '\t' || c == '\n'

/-- The binary operators of a level, the loosest first, and what they do. -/
def operators : (level : Nat) → List (List Char × (Int → Int → Option Int))
  | 0 => [(['=', '='], fun a b => some (if a = b then 1 else 0)),
      (['!', '='], fun a b => some (if a = b then 0 else 1)),
      (['<', '='], fun a b => some (if a ≤ b then 1 else 0)),
      (['>', '='], fun a b => some (if b ≤ a then 1 else 0)),
      (['<'], fun a b => some (if a < b then 1 else 0)),
      (['>'], fun a b => some (if b < a then 1 else 0))]
  | 1 => [(['+'], fun a b => some (a + b)), (['-'], fun a b => some (a - b))]
  | _ => [(['*'], fun a b => some (a * b)),
      (['/'], fun a b => if b = 0 then none else some (a.tdiv b)),
      (['%'], fun a b => if b = 0 then none else some (a.tmod b))]

/-- The number of levels of binary operators. -/
def levels : Nat := 3

/-- The operator at the front of a text. -/
def operator? (level : Nat) (cs : List Char) :
    Option ((Int → Int → Option Int) × List Char) :=
  (operators level).findSome? fun (name, f) =>
    if name.isPrefixOf cs then some (f, cs.drop name.length) else none

mutual

/-- The value of the operations of a level at the front, and the rest. -/
def sum (value : List Char → Int) : (bound : Nat) → (level : Nat) → List Char →
    Option (Int × List Char)
  | 0, _, _ => none
  | n + 1, level, cs => do
      let (a, rest) ← if level < levels then sum value n (level + 1) cs else atom value n cs
      if level < levels then sumRest value n level a rest else return (a, rest)

/-- What follows a first operand. -/
def sumRest (value : List Char → Int) : (bound : Nat) → (level : Nat) → Int → List Char →
    Option (Int × List Char)
  | 0, _, _, _ => none
  | n + 1, level, a, cs =>
      match operator? level (skip cs) with
      | none => some (a, cs)
      | some (f, rest) => do
          let (b, rest) ← sum value n (level + 1) rest
          sumRest value n level (← f a b) rest

/-- The value of a single operand at the front, and the rest. -/
def atom (value : List Char → Int) : (bound : Nat) → List Char → Option (Int × List Char)
  | 0, _ => none
  | n + 1, cs =>
      match skip cs with
      | '(' :: rest => do
          let (a, rest) ← sum value n 0 rest
          match skip rest with
          | ')' :: rest => return (a, rest)
          | _ => none
      | '-' :: rest => do
          let (a, rest) ← atom value n rest
          return (-a, rest)
      | c :: rest =>
          let isName (d : Char) := d.isAlphanum || d == '_'
          if Text.isDigit c then
            let ds := (c :: rest).takeWhile Text.isDigit
            some (Text.digitsValue ds, (c :: rest).drop ds.length)
          else if isName c then
            let name := (c :: rest).takeWhile isName
            some (value name, (c :: rest).drop name.length)
          else none
      | [] => none

end

/-- The value of a text. -/
def evaluate? (value : List Char → Int) (source : List Char) : Option Int :=
  match sum value (8 * source.length + 8) 0 source with
  | some (a, rest) => if (skip rest).isEmpty then some a else none
  | none => none

end PerlLint.Shell.Arithmetic
