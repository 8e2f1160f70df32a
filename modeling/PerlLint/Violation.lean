import PerlLint.Text.Basic
import PerlLint.Text.Numeral

/-!
# Violation records

The critic is asked to print each violation on one line, after a template with
six fields: severity, line, column, message, explanation and policy.

```text
5~|~10~|~3~|~Useless use of a variable~|~See page 208 of PBP~|~Variables::Foo~||~
```

The fields are joined by the *separator* `~|~`, and the line ends with the *end
marker* `~||~`.

`Record.ofLine?` reads one line.  A carriage return at the end is dropped
first, then the first end marker wherever it stands, and the rest must split
into exactly six fields.  Anything else is no record.  The three numbers are
read as far as they go and are missing if there is none; the three texts are
kept as they are.

`Record.print` writes a line after the template.  It is the other direction of
`Record.ofLine?`, for texts that hold neither token and join with neither.
-/

namespace PerlLint

/-! ## The format -/

/-- The token between two fields. -/
def fieldSeparator : String := "~|~"

/-- The token at the end of a record. -/
def endMarker : String := "~||~"

/-- The template the critic is given.  It ends with the critic's own escape for
a line feed. -/
def outputTemplate : String := "%s~|~%l~|~%c~|~%m~|~%e~|~%p~||~%n"

/-- The separator as characters. -/
def separatorChars : List Char := ['~', '|', '~']

/-- The end marker as characters. -/
def markerChars : List Char := ['~', '|', '|', '~']

example : fieldSeparator = String.ofList separatorChars
    ∧ endMarker = String.ofList markerChars := by decide

/-- One violation as the critic prints it.  A number is missing if the critic
printed something else in its place. -/
structure Record where
  /-- The score, 1 to 5. -/
  severityCode : Option Int
  /-- The line, counted from 1. -/
  line : Option Int
  /-- The column, counted from 1. -/
  column : Option Int
  /-- What is wrong. -/
  message : String
  /-- Why, or where to read about it. -/
  explanation : String
  /-- The policy that found it. -/
  policy : String
deriving Repr, DecidableEq

namespace Record

/-! ## Reading -/

/-- The record with these six fields. -/
def ofFields? : List (List Char) → Option Record
  | [s, l, c, m, e, p] =>
      some ⟨Text.leadingInt? s, Text.leadingInt? l, Text.leadingInt? c, String.ofList m,
        String.ofList e, String.ofList p⟩
  | _ => none

/-- A line without one carriage return at its end and without its first end
marker. -/
def body (line : List Char) : List Char :=
  Text.eraseFirst markerChars (Text.dropOneEnd '\r' line)

/-- The record on a line. -/
def ofLine? (line : List Char) : Option Record :=
  ofFields? (Text.splitOn separatorChars (body line))

/-- The records of a whole output, in order.  Lines that are no record are
passed over. -/
def ofOutput (output : List Char) : List Record := (Text.lines output).filterMap ofLine?

/-! ## Printing -/

/-- A number that may be missing; a missing one is printed as nothing. -/
def printNumber : Option Int → List Char
  | some n => Text.intDigits n
  | none => []

/-- The six fields as they are printed. -/
def fields (r : Record) : List (List Char) :=
  [printNumber r.severityCode, printNumber r.line, printNumber r.column, r.message.toList,
    r.explanation.toList, r.policy.toList]

/-- The line that the template gives for a record, without the line feed. -/
def print (r : Record) : List Char := Text.joinWith separatorChars r.fields ++ markerChars

/-- The output that the template gives for some records. -/
def printAll (rs : List Record) : List Char := rs.flatMap fun r => r.print ++ ['\n']

end Record

/-- A record with nothing missing, as reading gives it. -/
def sampleRecord : Record := ⟨some 5, some 10, some 3, "Bad", "See page 1", "Foo::Bar"⟩

end PerlLint
