import PerlLint.Text.Basic

/-!
# Numerals

Two readers for signed 64-bit numbers in text, both over the decimal digits of
ASCII only.

* `leadingInt?` reads the number a text begins with and ignores what follows
  it.  Blanks may stand in front, then one sign, then digits.
* `wholeInt?` reads a text that is a number and nothing else.

A magnitude of 2^63 or more is no number for `leadingInt?`, whatever the sign.
`wholeInt?` takes -2^63 as well.

Hexadecimal digits are read in either case by `Hex.digit?` and `Hex.value`, and
`Hex.lowerDigits` writes a number in small ones.

A table whose rows are irregular is written as text, with its numbers in
hexadecimal.  Such a table is a list of lines, and a line holds rows between
semicolons.  A row is a number, a space, and texts between commas: the texts of
that number, of the next number, and so on.  A text is given by the numbers of
its characters, with `+` between them.  `Hex.textRows` reads a table of this
kind.
-/

namespace PerlLint.Text

/-! ## Decimal digits -/

/-- The ten ASCII digits. -/
def isDigit (c : Char) : Bool := '0' ≤ c && c ≤ '9'

/-- The value of an ASCII digit. -/
def digitValue (c : Char) : Nat := c.toNat - '0'.toNat

/-- The value of a digit sequence, most significant digit first. -/
def digitsValue (ds : List Char) : Nat := ds.foldl (fun n d => 10 * n + digitValue d) 0

/-- The least number whose magnitude no signed 64-bit integer has. -/
def wordBound : Nat := 9223372036854775808

/-- Splits off one sign in front. -/
def splitSign : List Char → Bool × List Char
  | '-' :: cs => (true, cs)
  | '+' :: cs => (false, cs)
  | cs => (false, cs)

/-- The signed number that a text begins with. -/
def leadingInt? (s : List Char) : Option Int :=
  let (negative, rest) := splitSign (trimStart s)
  let ds := rest.takeWhile isDigit
  if ds.isEmpty then none
  else
    let n := digitsValue ds
    if n < wordBound then some (if negative then -(n : Int) else n) else none

/-- The signed number that a text is. -/
def wholeInt? (s : List Char) : Option Int :=
  let (negative, ds) := splitSign s
  if ds.isEmpty || !ds.all isDigit then none
  else
    let n := digitsValue ds
    if negative then (if n ≤ wordBound then some (-(n : Int)) else none)
    else if n < wordBound then some n
    else none

/-- The decimal digits of a number. -/
def natDigits (n : Nat) : List Char := Nat.toDigits 10 n

/-- The decimal form of a number, with a minus sign if it is negative. -/
def intDigits : Int → List Char
  | .ofNat n => natDigits n
  | .negSucc n => '-' :: natDigits (n + 1)

end PerlLint.Text

namespace PerlLint.Text.Hex

/-! ## Hexadecimal digits -/

/-- A hexadecimal digit. -/
def digit? (c : Char) : Option Nat :=
  if '0' ≤ c ∧ c ≤ '9' then some (c.toNat - 48)
  else if 'a' ≤ c ∧ c ≤ 'f' then some (c.toNat - 87)
  else if 'A' ≤ c ∧ c ≤ 'F' then some (c.toNat - 55)
  else none

/-- The value of hexadecimal digits, most significant first. -/
def value (ds : List Char) : Nat := ds.foldl (fun n d => 16 * n + (digit? d).getD 0) 0

/-- The digits of a number, in small letters and without zeros in front. -/
def lowerDigits (n : Nat) : List Char := Nat.toDigits 16 n

/-! ## Tables -/

/-- The text that a table gives by its numbers. -/
def rowText (s : List Char) : List Char := (splitOn ['+'] s).map fun n => Char.ofNat (value n)

/-- The numbers of a row with their texts. -/
def readRow (row : List Char) : List (Nat × List Char) :=
  match splitOn [' '] row with
  | [first, texts] =>
      ((splitOn [','] texts).zipIdx (value first)).map fun p => (p.2, rowText p.1)
  | _ => []

/-- The numbers of a table with their texts. -/
def textRows (lines : List String) : List (Nat × List Char) :=
  lines.flatMap fun line => (splitOn [';'] line.toList).flatMap readRow

end PerlLint.Text.Hex
