import PerlLint.Shell.Format
import PerlLint.Shell.Pattern
import PerlLint.Text.Basic

/-!
# Filters

What the utilities make of their input: parts of it (`head`, `tail`), other
characters (`tr`), other orders (`sort`), and counts (`wc`).  Also the lines of `seq`
and the values of `expr`.

The texts are bytes written as characters.
-/

namespace PerlLint.Shell

/-! ## Characters -/

/-- The characters of a set of `tr`: ranges and single ones, after its escapes
are replaced. -/
def setChars : (bound : Nat) → List Char → List Char
  | 0, _ => []
  | _ + 1, [] => []
  | n + 1, a :: '-' :: b :: cs =>
      (List.range (b.toNat + 1 - a.toNat)).map (fun i => Char.ofNat (a.toNat + i)) ++ setChars n cs
  | n + 1, c :: cs => c :: setChars n cs

/-- The characters of a set of `tr` as it is written. -/
def setOf (s : List Char) : List Char :=
  let s := unescape false [] (s.length + 1) s
  setChars (s.length + 1) s

/-- The character at the same place in another set.  The last one stands for all
that are missing. -/
def exchangeChar (source target : List Char) (c : Char) : Char :=
  match source.findIdx? (· == c) with
  | some i => (target[i]?.or target.getLast?).getD c
  | none => c

/-- What `tr` makes of its input, and its exit status. -/
def exchange (args : List (List Char)) (input : List Char) : List Char × Nat :=
  match args with
  | [['-', 'd'], s] =>
      let set := setOf s
      (input.filter fun c => !set.contains c, 0)
  | [s, t] =>
      let source := setOf s
      let target := setOf t
      (input.map (exchangeChar source target), 0)
  | _ => ([], 1)

/-! ## Parts -/

/-- A number of characters or lines. -/
inductive Amount where
  | chars (n : Nat)
  | lines (n : Nat)
  /-- The lines from the one with a number on. -/
  | linesFrom (n : Nat)
deriving Repr, DecidableEq

/-- The front of an input. -/
def Amount.front (a : Amount) (input : List Char) : List Char :=
  match a with
  | .chars n => input.take n
  | .lines n | .linesFrom n => ((Text.segments '\n' input).take n).flatten

/-- The end of an input. -/
def Amount.back (a : Amount) (input : List Char) : List Char :=
  match a with
  | .chars n => input.drop (input.length - n)
  | .lines n =>
      let ls := Text.segments '\n' input
      (ls.drop (ls.length - n)).flatten
  | .linesFrom n => ((Text.segments '\n' input).drop (n - 1)).flatten

/-- The amount and the files of `head` and `tail`. -/
def amountOf (args : List (List Char)) : Amount × List (List Char) :=
  match args with
  | ['-', 'c'] :: n :: rest => (.chars (numberOf n).toNat, rest)
  | ('-' :: 'c' :: n) :: rest => (.chars (numberOf n).toNat, rest)
  | ['-', 'n'] :: ('+' :: n) :: rest => (.linesFrom (numberOf n).toNat, rest)
  | ['-', 'n'] :: n :: rest => (.lines (numberOf n).toNat, rest)
  | ('-' :: 'n' :: n) :: rest => (.lines (numberOf n).toNat, rest)
  | ('-' :: n) :: rest =>
      if n.isEmpty then (.lines 10, args) else (.lines (numberOf n).toNat, rest)
  | rest => (.lines 10, rest)

/-! ## Numbers -/

/-- The lines of `seq`. -/
def seqText (args : List (List Char)) : List Char :=
  let line (n : Int) := Text.intDigits n ++ ['\n']
  let between (a b : Int) := (List.range (b - a + 1).toNat).flatMap fun i : Nat => line (a + i)
  match args.map numberOf with
  | [b] => between 1 b
  | [a, b] => between a b
  | _ => []

/-- The number of words. -/
def countWords (input : List Char) : Nat :=
  let isBlank (c : Char) := c == ' ' || c == '\t' || c == '\n' || c == '\r'
  (input.splitBy fun a b => isBlank a == isBlank b).countP fun w => !w.any isBlank

/-- The one count that `wc` prints, for the letter of its option. -/
def countOf (option : List Char) (input : List Char) : Nat :=
  match option with
  | ['-', 'l'] => input.count '\n'
  | ['-', 'w'] => countWords input
  | _ => input.length

/-- What `expr` prints for an operation on two numbers, and its exit status. -/
def exprText (args : List (List Char)) : List Char × Nat :=
  let value : Option Int :=
    match args with
    | [a, op, b] =>
        match Text.wholeInt? a, Text.wholeInt? b, String.ofList op with
        | some x, some y, "+" => some (x + y)
        | some x, some y, "-" => some (x - y)
        | some x, some y, "*" => some (x * y)
        | some x, some y, "/" => if y = 0 then none else some (x.tdiv y)
        | some x, some y, "%" => if y = 0 then none else some (x.tmod y)
        | _, _, _ => none
    | _ => none
  match value with
  | some v => (Text.intDigits v ++ ['\n'], if v = 0 then 1 else 0)
  | none => ([], 2)

/-! ## Orders -/

/-- Whether a text comes before another, byte for byte. -/
def comesBefore : (a b : List Char) → Bool
  | [], _ => true
  | _ :: _, [] => false
  | a :: as, b :: bs => if a = b then comesBefore as bs else a < b
termination_by structural a => a

/-- Every text without the next ones that are equal to it. -/
def dropRepeats : List (List Char) → List (List Char)
  | a :: b :: rest => if a = b then dropRepeats (b :: rest) else a :: dropRepeats (b :: rest)
  | rest => rest

/-- The lines of an input without their line feeds. -/
def bareLines (input : List Char) : List (List Char) :=
  (Text.segments '\n' input).map (Text.dropOneEnd '\n')

/-- What `sort` makes of its input. -/
def sortText (options : List Char) (input : List Char) : List Char :=
  let ls := ((bareLines input).mergeSort comesBefore)
  let ls := if options.contains 'u' then dropRepeats ls else ls
  let ls := if options.contains 'r' then ls.reverse else ls
  ls.flatMap fun l => l ++ ['\n']

/-! ## Searching -/

/-- Whether a line matches a pattern of `grep`.  Only `^` in front and `$` at the end
have a meaning. -/
def lineMatches (pattern line : List Char) : Bool :=
  let (front, pattern) := match pattern with
    | '^' :: rest => (true, rest)
    | p => (false, p)
  let (back, pattern) := match pattern.reverse with
    | '$' :: rest => (true, rest.reverse)
    | _ => (false, pattern)
  match front, back with
  | true, true => pattern == line
  | true, false => pattern.isPrefixOf line
  | false, true => pattern.isSuffixOf line
  | false, false => Glob.anyTail pattern.isPrefixOf line

/-- What `grep` prints, and its exit status. -/
def searchText (options pattern input : List Char) : List Char × Nat :=
  let numbered := (bareLines input).mapIdx fun i l => (i + 1, l)
  let found := numbered.filter fun e => lineMatches pattern e.2 != options.contains 'v'
  let line (e : Nat × List Char) : List Char :=
    (if options.contains 'n' then Text.natDigits e.1 ++ [':'] else []) ++ e.2 ++ ['\n']
  let text :=
    if options.contains 'q' then []
    else if options.contains 'c' then Text.natDigits found.length ++ ['\n']
    else found.flatMap line
  (text, if found.isEmpty then 1 else 0)

end PerlLint.Shell
