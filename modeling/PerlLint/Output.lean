import PerlLint.Violation
import PerlLint.Text.Utf8

/-!
# Output of a run

The critic's output comes as bytes and is read line by line as it arrives.  A
line ends at a line feed, and every line is decoded on its own.  All carriage
returns and line feeds at its end are dropped.

A line that is a record is kept.  A line that is none is counted as discarded,
unless it is blank.

The bytes come in chunks that may end anywhere, also inside a character.  A reader
takes one chunk after the other, and keeps the bytes of the line that is not
complete yet.  `Output.ofBytes` is for bytes that are all there.
-/

namespace PerlLint

/-- What a run gave. -/
structure Output where
  /-- The records, in order. -/
  records : List Record
  /-- The number of lines that are neither records nor blank. -/
  discarded : Nat
  /-- The exit code, once there is one. -/
  exitCode : Option Nat
deriving Repr, DecidableEq

namespace Output

/-- The output of a run that printed nothing. -/
def empty : Output := ⟨[], 0, none⟩

/-- A character that ends lines. -/
def isLineEnd (c : Char) : Bool := c == '\n' || c == '\r'

/-- The text of a line of bytes. -/
def lineText (line : List UInt8) : List Char :=
  Text.dropEnd isLineEnd (Text.Utf8.decodeLossy line)

/-- Takes one more line.  Records are collected last first. -/
def takeLine (out : Output) (line : List UInt8) : Output :=
  let text := lineText line
  match Record.ofLine? text with
  | some r => { out with records := r :: out.records }
  | none => if Text.allBlank text then out else { out with discarded := out.discarded + 1 }

/-- The output that some lines make. -/
def ofLines (lines : List (List UInt8)) : Output :=
  let out := lines.foldl takeLine empty
  { out with records := out.records.reverse }

/-- The output that a stream of bytes makes. -/
def ofBytes (bytes : List UInt8) : Output := ofLines (Text.segments 10 bytes)

/-! ## Chunks -/

/-- What has been read of a stream. -/
structure Reader where
  /-- What the complete lines have given, the last record first. -/
  out : Output
  /-- The bytes of the line that is not complete. -/
  line : List UInt8

namespace Reader

/-- A reader at first. -/
def start : Reader := ⟨.empty, []⟩

/-- Takes a piece of a line.  A line feed at its end completes the line. -/
def takePiece (rd : Reader) (piece : List UInt8) : Reader :=
  let line := rd.line ++ piece
  if piece.getLast? = some 10 then ⟨rd.out.takeLine line, []⟩ else ⟨rd.out, line⟩

/-- Takes a chunk, up to one line feed after the other. -/
def takeChunk (rd : Reader) (chunk : List UInt8) : Reader :=
  (Text.segments 10 chunk).foldl takePiece rd

/-- The output at the end of the stream.  The last line need not be complete. -/
def finish (rd : Reader) : Output :=
  let out := if rd.line.isEmpty then rd.out else rd.out.takeLine rd.line
  { out with records := out.records.reverse }

end Reader

/-- The output that chunks of bytes make. -/
def collect (chunks : List (List UInt8)) : Output :=
  (chunks.foldl Reader.takeChunk .start).finish

end Output

end PerlLint
