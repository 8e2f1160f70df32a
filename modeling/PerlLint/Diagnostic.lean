import PerlLint.Config.Basic
import PerlLint.Json.Basic
import PerlLint.Violation

/-!
# Diagnostics

A diagnostic is a violation in the form in which editors and reports show it:
with a range of the document, a level, and the tier in front of the message.

Records count lines and columns from 1, ranges count from 0.  A range starts at
the reported place and ends at column 300 of the same line, because the critic
reports no end.  A number that is missing, not positive, or more than 2^32 stands
for the first line or column.

As JSON a diagnostic has two forms.  The *report form* holds all of it, with names
for level and tier, and `ofJson?` reads it back.  The *editor form* is the one that
editors know: a number for the level, the policy as a code, which is left out if it
is empty, and no tier.
-/

namespace PerlLint

/-- A place in a document, counted from 0. -/
structure Position where
  /-- The line. -/
  line : Nat
  /-- The column. -/
  column : Nat
deriving Repr, DecidableEq

/-- A range of a document. -/
structure Range where
  /-- Where it starts. -/
  start : Position
  /-- Where it ends. -/
  stop : Position
deriving Repr, DecidableEq

/-- The column at which every range ends. -/
def endColumn : Nat := 300

/-- The numbers of lines and columns are below this. -/
def positionBound : Nat := 4294967296

/-- A number counted from 1 as one counted from 0, or 0 if that is none. -/
def zeroBased : Option Int → Nat
  | some n => if 1 ≤ n ∧ n - 1 < positionBound then (n - 1).toNat else 0
  | none => 0

/-- The range of a violation reported at a line and column, counted from 1. -/
def Range.ofReported (line column : Option Int) : Range :=
  ⟨⟨zeroBased line, zeroBased column⟩, ⟨zeroBased line, endColumn⟩⟩

/-- A violation as it is shown. -/
structure Diagnostic where
  /-- The range. -/
  range : Range
  /-- The message, after the name of the tier in capitals. -/
  message : String
  /-- The level. -/
  level : Level
  /-- The tier. -/
  tier : Tier
  /-- The policy that found it. -/
  policy : String
deriving Repr, DecidableEq

namespace Diagnostic

/-- The diagnostic of a record. -/
def ofRecord (c : Config) (r : Record) : Diagnostic :=
  let tier := Tier.ofCode? r.severityCode
  { range := .ofReported r.line r.column
    message := tier.heading ++ ": " ++ r.message
    level := c.level tier
    tier := tier
    policy := r.policy }

/-- The diagnostics of a whole output, in order. -/
def ofOutput (c : Config) (output : List Char) : List Diagnostic :=
  (Record.ofOutput output).map (ofRecord c)

/-- The line as reports show it, counted from 1. -/
def displayLine (d : Diagnostic) : Nat := d.range.start.line + 1

/-- The column as reports show it, counted from 1. -/
def displayColumn (d : Diagnostic) : Nat := d.range.start.column + 1

end Diagnostic

/-! ## The report form -/

/-- A position with its column under the name `columnKey`. -/
def Position.toJson (columnKey : String) (p : Position) : Json :=
  .ofMembers [("line", .nat p.line), (columnKey, .nat p.column)]

/-- A range with its columns under the name `columnKey`. -/
def Range.toJson (columnKey : String) (r : Range) : Json :=
  .ofMembers [("start", r.start.toJson columnKey), ("end", r.stop.toJson columnKey)]

/-- The name of columns in reports. -/
def reportColumnKey : String := "column"

/-- The name of columns in the protocol of editors. -/
def editorColumnKey : String := "character"

/-- The report form. -/
def Diagnostic.toJson (d : Diagnostic) : Json :=
  .ofMembers [("range", d.range.toJson reportColumnKey), ("message", .string d.message),
    ("level", .string d.level.name), ("tier", .string d.tier.name),
    ("policy", .string d.policy)]

/-! ## Reading the report form -/

/-- The level with this name. -/
def Level.ofName? (s : String) : Option Level :=
  [Level.error, .warning, .information, .hint].find? fun l => l.name == s

/-- Reads the number of a line or column. -/
def Position.number? (v : Json) : Option Nat := v.toNat?.filter (· < positionBound)

/-- Reads a position. -/
def Position.ofJson? (v : Json) : Option Position := do
  let line ← number? (← v.get? "line")
  let column ← number? (← v.get? reportColumnKey)
  return ⟨line, column⟩

/-- Reads a range. -/
def Range.ofJson? (v : Json) : Option Range := do
  let start ← Position.ofJson? (← v.get? "start")
  let stop ← Position.ofJson? (← v.get? "end")
  return ⟨start, stop⟩

/-- Reads the report form.  A tier is read as in settings. -/
def Diagnostic.ofJson? (v : Json) : Option Diagnostic := do
  let range ← Range.ofJson? (← v.get? "range")
  let message ← (← v.get? "message").toText?
  let level ← Level.ofName? (← (← v.get? "level").toText?)
  let tier ← Tier.ofString? (← (← v.get? "tier").toText?)
  let policy ← (← v.get? "policy").toText?
  return ⟨range, message, level, tier, policy⟩

/-! ## The editor form -/

/-- What editors show as the source of every diagnostic. -/
def diagnosticSource : String := "perlcritic"

/-- The editor form. -/
def Diagnostic.toEditorJson (d : Diagnostic) : Json :=
  let code := if d.policy.isEmpty then [] else [("code", Json.string d.policy)]
  .ofMembers (code ++ [("range", d.range.toJson editorColumnKey),
    ("severity", .nat d.level.number), ("source", .string diagnosticSource),
    ("message", .string d.message)])

end PerlLint
