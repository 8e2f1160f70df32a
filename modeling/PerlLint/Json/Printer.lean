import PerlLint.Decimal.Shortest
import PerlLint.Json.Basic

/-!
# JSON text

Two layouts of the same tokens.

* `compact` puts nothing between the tokens.
* `pretty` puts each item of an array and each member of an object on a line of
  its own, two spaces deeper than the brackets, and a space after the colon.
  Empty arrays and objects are written `[]` and `{}`.

In a string only what JSON demands is escaped: the quote, the backslash and the
controls below U+0020, with the short escapes where JSON has them.  All else is
written as it is.

## Numbers

A *numeral* is what a lexer hands over: a sign, the digits before the point, the
digits after it if there is a point, and the exponent if there is one.

A numeral with neither point nor exponent is an integer if 64 bits hold it:
unsigned if there is no minus sign, signed if there is one.  Every other numeral
is a double, and so is minus zero.  Its value is `n · 10^e`, where `n` is made of
the leading digits.  Digits are taken into `n` while it stays below 2^64.  After
that a digit before the point only raises `e`, and a digit after the point is
dropped.  A numeral beyond the greatest double has no value.
-/

namespace PerlLint.Json

open PerlLint.Decimal

/-! ## Numbers -/

/-- A decimal numeral, as read. -/
structure Numeral where
  /-- Whether there is a minus sign. -/
  negative : Bool
  /-- The digits before the point. -/
  whole : List Char
  /-- The digits after the point, if there is one. -/
  part : Option (List Char)
  /-- The exponent, if there is one. -/
  exponent : Option Int
deriving Repr, DecidableEq

namespace Numeral

/-- The numbers below it fit 64 bits. -/
def digitBound : Nat := 18446744073709551616

/-- Takes digits into `n` while it stays below the bound.  Gives the number and
the digits left over. -/
def absorb (n : Nat) : List Char → Nat × List Char
  | [] => (n, [])
  | d :: ds =>
      let m := 10 * n + Text.digitValue d
      if m < digitBound then absorb m ds else (n, d :: ds)
termination_by structural ds => ds

/-- The number a numeral stands for, if it is within range. -/
def toNumber? (x : Numeral) : Option Number :=
  let (n, excess) := absorb 0 x.whole
  let asDouble (n : Nat) (e : Int) : Option Number :=
    (Double.ofScaled x.negative n e).map .double
  match x.part, x.exponent with
  | none, none =>
      if !excess.isEmpty then asDouble n excess.length
      else if !x.negative then some (.int n)
      else if n = 0 ∨ Text.wordBound < n then asDouble n 0
      else some (.int (-(n : Int)))
  | part, exponent =>
      let ds := part.getD []
      let (n, rest) := absorb n ds
      let e : Int := (excess.length : Int) - (ds.length - rest.length : Nat)
      asDouble n (e + exponent.getD 0)

end Numeral

/-- The text of a number. -/
def Number.write : Number → List Char
  | .int n => Text.intDigits n
  | .double x => x.write

/-! ## Strings -/

/-- A hexadecimal digit, in lower case. -/
def hexDigit (n : Nat) : Char := if n < 10 then Char.ofNat (48 + n) else Char.ofNat (87 + n)

/-- A character inside a string. -/
def escapeChar (c : Char) : List Char :=
  if c = '"' then ['\\', '"']
  else if c = '\\' then ['\\', '\\']
  else if c = '\n' then ['\\', 'n']
  else if c = '\r' then ['\\', 'r']
  else if c = '\t' then ['\\', 't']
  else if c.toNat = 8 then ['\\', 'b']
  else if c.toNat = 12 then ['\\', 'f']
  else if c.toNat < 32 then
    ['\\', 'u', '0', '0', hexDigit (c.toNat / 16), hexDigit (c.toNat % 16)]
  else [c]

/-- A text as a string of JSON. -/
def quote (s : List Char) : List Char := '"' :: s.flatMap escapeChar ++ ['"']

/-- A value that holds no other value. -/
def writeScalar : Json → List Char
  | .null => ['n', 'u', 'l', 'l']
  | .bool true => ['t', 'r', 'u', 'e']
  | .bool false => ['f', 'a', 'l', 's', 'e']
  | .number n => n.write
  | .string s => quote s.toList
  | .array _ => []
  | .object _ => []

/-! ## Nothing between the tokens -/

mutual

/-- The text without any space. -/
def compact : Json → List Char
  | .null => writeScalar .null
  | .bool b => writeScalar (.bool b)
  | .number n => writeScalar (.number n)
  | .string s => writeScalar (.string s)
  | .array xs => '[' :: compactItems xs ++ [']']
  | .object ms => '{' :: compactMembers ms ++ ['}']
termination_by structural v => v

/-- Items with commas between them. -/
def compactItems : List Json → List Char
  | [] => []
  | x :: xs => compact x ++ (if xs.isEmpty then [] else ',' :: compactItems xs)
termination_by structural xs => xs

/-- Members with commas between them. -/
def compactMembers : List (String × Json) → List Char
  | [] => []
  | (k, x) :: ms =>
      quote k.toList ++ ':' :: compact x ++ (if ms.isEmpty then [] else ',' :: compactMembers ms)
termination_by structural ms => ms

end

/-! ## One line per item -/

/-- A line feed and the indentation of a depth. -/
def newLine (depth : Nat) : List Char := '\n' :: List.replicate (2 * depth) ' '

mutual

/-- The text with one line per item, inside brackets that are `depth` deep. -/
def pretty (depth : Nat) : Json → List Char
  | .null => writeScalar .null
  | .bool b => writeScalar (.bool b)
  | .number n => writeScalar (.number n)
  | .string s => writeScalar (.string s)
  | .array [] => ['[', ']']
  | .array (x :: xs) => '[' :: prettyItems (depth + 1) (x :: xs) ++ newLine depth ++ [']']
  | .object [] => ['{', '}']
  | .object (m :: ms) => '{' :: prettyMembers (depth + 1) (m :: ms) ++ newLine depth ++ ['}']
termination_by structural v => v

/-- Items, each on a line of its own. -/
def prettyItems (depth : Nat) : List Json → List Char
  | [] => []
  | x :: xs =>
      newLine depth ++ pretty depth x ++ (if xs.isEmpty then [] else ',' :: prettyItems depth xs)
termination_by structural xs => xs

/-- Members, each on a line of its own. -/
def prettyMembers (depth : Nat) : List (String × Json) → List Char
  | [] => []
  | (k, x) :: ms =>
      newLine depth ++ quote k.toList ++ ':' :: ' ' :: pretty depth x
        ++ (if ms.isEmpty then [] else ',' :: prettyMembers depth ms)
termination_by structural ms => ms

end

/-- The compact text as a string. -/
def toCompactString (v : Json) : String := String.ofList v.compact

end PerlLint.Json
