/-!
# Cutting texts

A text is a list of characters.  It is cut in three ways: at the blanks at its
ends, behind its line feeds, and at a token.

A character is *blank* if Unicode gives it the property White_Space.  There are
twenty-five of them: six ASCII controls and the space, and eighteen beyond
ASCII.  The zero width space U+200B and the byte order mark U+FEFF are not
blank.  Numbers in a record, tier names, paths and lines of output are all
trimmed with this one class.  Trimming keeps the middle untouched: `trimStart`
and `trimEnd` each drop the longest blank run at one end.

A line ends at a line feed.  The last line may lack it, and an empty rest after
the last line feed is no line.

* `segments` cuts any sequence after each line feed and keeps the line feed, so
  the pieces put together are the sequence.
* `lines` gives the lines of a text without their ends.  A carriage return
  right before a line feed belongs to the end, and only one does.  On a last
  line without line feed a carriage return is part of the line.

`splitOn sep s` cuts `s` at every occurrence of the token `sep`, scanning from
the left and never counting a character twice.  There is always one more piece
than there are cuts, so a text without the token is its own only piece.
`joinWith sep` puts the pieces back together.  `eraseFirst tok s` takes out the
first occurrence of `tok` and leaves the rest of the text as it is.  Both scan
with `matchToken?`, which removes the token from the front of a text if it
stands there.  `splitOn` counts the characters of the token that are still to be
skipped, so its recursion is on the text.
-/

namespace PerlLint.Text

/-! ## Blank characters -/

/-- The property White_Space. -/
def isBlank (c : Char) : Bool :=
  let n := c.toNat
  (9 ≤ n && n ≤ 13) || n == 0x20 || n == 0x85 || n == 0xA0 || n == 0x1680
    || (0x2000 ≤ n && n ≤ 0x200A) || n == 0x2028 || n == 0x2029 || n == 0x202F
    || n == 0x205F || n == 0x3000

/-- A list of characters with no character that is not blank. -/
def allBlank (cs : List Char) : Bool := cs.all isBlank

/-! ## Trimming -/

/-- The characters from the first that fails `p` on. -/
def dropStart (p : Char → Bool) (cs : List Char) : List Char := cs.dropWhile p

/-- The characters up to the last that fails `p`. -/
def dropEnd (p : Char → Bool) (cs : List Char) : List Char := (cs.reverse.dropWhile p).reverse

/-- Drops the blanks in front. -/
def trimStart (cs : List Char) : List Char := dropStart isBlank cs

/-- Drops the blanks at the end. -/
def trimEnd (cs : List Char) : List Char := dropEnd isBlank cs

/-- Drops the blanks at both ends. -/
def trim (cs : List Char) : List Char := trimEnd (trimStart cs)

/-! ## Segments -/

/-- Scans on for the end of a segment.  `seg` is the current segment, last
element first, and `done` holds the finished ones, last first. -/
def segmentsFrom {α : Type} [DecidableEq α] (lf : α) (done : List (List α)) (seg : List α) :
    List α → List (List α)
  | [] => (if seg.isEmpty then done else seg.reverse :: done).reverse
  | a :: as =>
      if a = lf then segmentsFrom lf ((a :: seg).reverse :: done) [] as
      else segmentsFrom lf done (a :: seg) as
termination_by structural s => s

/-- The sequence cut after each `lf`. -/
def segments {α : Type} [DecidableEq α] (lf : α) (s : List α) : List (List α) :=
  segmentsFrom lf [] [] s

/-! ## Lines -/

/-- The text without one `c` at its end. -/
def dropOneEnd (c : Char) (s : List Char) : List Char :=
  match s.reverse with
  | [] => []
  | d :: ds => if d = c then ds.reverse else s

/-- A segment without its end: the line feed, and one carriage return in front
of it. -/
def chomp (s : List Char) : List Char :=
  match s.reverse with
  | '\n' :: '\r' :: r => r.reverse
  | '\n' :: r => r.reverse
  | _ => s

/-- The lines of a text. -/
def lines (s : List Char) : List (List Char) := (segments '\n' s).map chomp

/-! ## Pieces between tokens -/

/-- The rest of `s` after `tok`, if `s` starts with `tok`. -/
def matchToken? : (tok s : List Char) → Option (List Char)
  | [], s => some s
  | _ :: _, [] => none
  | t :: ts, c :: cs => if c = t then matchToken? ts cs else none
termination_by structural tok => tok

/-- Scans on for `sep`.  `skip` characters of a token already found are passed
over first.  `piece` is the current piece, last character first, and `done`
holds the finished pieces, last first. -/
def splitFrom (sep : List Char) (done : List (List Char)) (piece : List Char) :
    (skip : Nat) → List Char → List (List Char)
  | _, [] => (piece.reverse :: done).reverse
  | k + 1, _ :: cs => splitFrom sep done piece k cs
  | 0, c :: cs =>
      if (matchToken? sep (c :: cs)).isSome then
        splitFrom sep (piece.reverse :: done) [] (sep.length - 1) cs
      else splitFrom sep done (c :: piece) 0 cs
termination_by structural _ s => s

/-- The pieces of `s` between the occurrences of the nonempty token `sep`. -/
def splitOn (sep s : List Char) : List (List Char) := splitFrom sep [] [] 0 s

/-- The pieces with `sep` between each two. -/
def joinWith (sep : List Char) : List (List Char) → List Char
  | [] => []
  | [p] => p
  | p :: q :: ps => p ++ sep ++ joinWith sep (q :: ps)
termination_by structural ps => ps

/-- Scans on for `tok`.  The characters passed are on `acc`, last first. -/
def eraseFrom (tok acc : List Char) : List Char → List Char
  | [] => acc.reverse
  | c :: cs =>
      match matchToken? tok (c :: cs) with
      | some rest => acc.reverseAux rest
      | none => eraseFrom tok (c :: acc) cs
termination_by structural s => s

/-- The text without the first occurrence of the nonempty token `tok`. -/
def eraseFirst (tok s : List Char) : List Char := eraseFrom tok [] s

end PerlLint.Text
