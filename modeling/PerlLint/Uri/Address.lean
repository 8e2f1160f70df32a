import PerlLint.Text.Basic
import PerlLint.Text.Numeral

/-!
# Addresses of hosts

A host may be named by its address in the Internet.

An IPv4 address is a number below 2^32.  It is written as up to four numbers with full
stops between them, in decimal, octal behind `0` or hexadecimal digits behind `0x`.
The last number fills all the bytes that the others leave.  The normal form is four
decimal numbers.

An IPv6 address is a list of eight *pieces* below 2^16.  They are written in hexadecimal
with colons between them.  Two colons once stand for the pieces that are missing, and
the last two pieces may be written as an IPv4 address in normal form.  In the normal
form two colons stand for the longest run of zeros, the first of several, if there are
at least two of them.
-/

namespace PerlLint.Uri

/-! ## IPv4 -/

namespace IPv4

/-- The number that a part of an address is. -/
def part? (s : List Char) : Option Nat :=
  match s with
  | [] => none
  | '0' :: c :: ds =>
      if c == 'x' || c == 'X' then
        if ds.all fun d => (Text.Hex.digit? d).isSome then some (Text.Hex.value ds) else none
      else if (c :: ds).all fun d => '0' ≤ d && d ≤ '7' then
        some ((c :: ds).foldl (fun n d => 8 * n + Text.digitValue d) 0)
      else none
  | ds => if ds.all Text.isDigit then some (Text.digitsValue ds) else none

/-- The parts of a name, without an empty one at the end. -/
def parts (s : List Char) : List (List Char) :=
  match (Text.splitOn ['.'] s).reverse with
  | [] :: rest => rest.reverse
  | all => all.reverse

/-- Whether a name ends like an address: its last part is a number. -/
def isMeant (s : List Char) : Bool :=
  match (parts s).getLast? with
  | some last => (!last.isEmpty && last.all Text.isDigit) || (part? last).isSome
  | none => false

/-- The number that parts make.  The last one fills the bytes that are left. -/
def number? (value left : Nat) : List Nat → Option Nat
  | [] => none
  | [n] => if n < Nat.pow 256 left then some (value * Nat.pow 256 left + n) else none
  | n :: ns =>
      if n < 256 then number? (256 * value + n) (left - 1) ns else none

/-- The address that a name is. -/
def ofText? (s : List Char) : Option Nat := do
  let ns ← (parts s).mapM part?
  if 4 < ns.length then none else number? 0 4 ns

/-- The normal form of an address. -/
def text (n : Nat) : List Char :=
  Text.joinWith ['.']
    ([n / 16777216, n / 65536 % 256, n / 256 % 256, n % 256].map Text.natDigits)

end IPv4

/-! ## IPv6 -/

namespace IPv6

/-- The piece that hexadecimal digits are. -/
def piece? (s : List Char) : Option Nat :=
  if s.isEmpty || 4 < s.length || !s.all fun c => (Text.Hex.digit? c).isSome then none
  else some (Text.Hex.value s)

/-- A number of the normal form of an IPv4 address. -/
def byte? (s : List Char) : Option Nat :=
  if s.isEmpty || !s.all Text.isDigit || (s.head? == some '0' && 1 < s.length)
      || 255 < Text.digitsValue s then none
  else some (Text.digitsValue s)

/-- The two pieces that an IPv4 address in normal form is. -/
def lastPieces? (s : List Char) : Option (List Nat) := do
  match ← (Text.splitOn ['.'] s).mapM byte? with
  | [a, b, c, d] => some [256 * a + b, 256 * c + d]
  | _ => none

/-- The pieces that are written with colons between them.  Only at the end of the address
may two of them be written as an IPv4 address. -/
def pieces? (atEnd : Bool) : List (List Char) → Option (List Nat)
  | [] => some []
  | [s] => if atEnd && s.contains '.' then lastPieces? s else (piece? s).map fun n => [n]
  | s :: rest => do
      let n ← piece? s
      let ns ← pieces? atEnd rest
      return n :: ns

/-- The pieces of a part of an address, which may be empty. -/
def group? (atEnd : Bool) (s : List Char) : Option (List Nat) :=
  if s.isEmpty then some [] else pieces? atEnd (Text.splitOn [':'] s)

/-- The text in front of the first two colons, and the text after them. -/
def splitGap? : List Char → Option (List Char × List Char)
  | ':' :: ':' :: rest => some ([], rest)
  | c :: rest => (splitGap? rest).map fun p => (c :: p.1, p.2)
  | [] => none

/-- The pieces of the address that a text is. -/
def ofText? (s : List Char) : Option (List Nat) :=
  match splitGap? s with
  | none =>
      match pieces? true (Text.splitOn [':'] s) with
      | some ns => if ns.length = 8 then some ns else none
      | none => none
  | some (front, back) => do
      let xs ← group? false front
      let ys ← group? true back
      if xs.length + ys.length ≤ 7 then
        some (xs ++ List.replicate (8 - xs.length - ys.length) 0 ++ ys)
      else none

/-- The longest run of zeros: where it starts, and its length.  `place` is that of the
first piece, and `run` the length of the run in front of it. -/
def longestRun (place run : Nat) (best : Nat × Nat) : List Nat → Nat × Nat
  | [] => best
  | n :: ns =>
      if n = 0 then
        longestRun (place + 1) (run + 1)
          (if best.2 < run + 1 then (place - run, run + 1) else best) ns
      else longestRun (place + 1) 0 best ns

/-- Pieces with colons between them. -/
def join (ns : List Nat) : List Char := Text.joinWith [':'] (ns.map Text.Hex.lowerDigits)

/-- The normal form of an address. -/
def text (ns : List Nat) : List Char :=
  let (start, length) := longestRun 0 0 (0, 0) ns
  if length < 2 then join ns
  else join (ns.take start) ++ [':', ':'] ++ join (ns.drop (start + length))

end IPv6

end PerlLint.Uri
