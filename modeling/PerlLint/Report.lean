import PerlLint.Diagnostic
import PerlLint.Json.Reader

/-!
# Reports

A report shows the diagnostics of some files, in one of two formats.

The text format has one line per diagnostic: the path as it was given, line and
column, the level, the policy in brackets unless it is empty, and the message.
An empty line and a summary follow.

The JSON format is an array with one object per file, which holds the path and the
diagnostics.  `ofJsonText?` reads it back.
-/

namespace PerlLint

/-- The diagnostics of one file. -/
structure FileReport where
  /-- The path as it was given. -/
  path : String
  /-- The diagnostics, in order. -/
  diagnostics : List Diagnostic
deriving Repr, DecidableEq

/-- A format of reports. -/
inductive ReportFormat where
  | text
  | json
deriving Repr, DecidableEq

namespace FileReport

/-! ## Text -/

/-- The line of a diagnostic, without its end. -/
def line (path : String) (d : Diagnostic) : String :=
  path ++ ":" ++ toString d.displayLine ++ ":" ++ toString d.displayColumn ++ " "
    ++ d.level.shortName ++ (if d.policy.isEmpty then "" else " [" ++ d.policy ++ "]") ++ ": "
    ++ d.message

/-- The lines of a file. -/
def lines (r : FileReport) : List String := r.diagnostics.map (line r.path)

/-- The number of diagnostics. -/
def issues (rs : List FileReport) : Nat := (rs.flatMap FileReport.diagnostics).length

/-- The summary. -/
def summary (rs : List FileReport) : String :=
  "Checked " ++ toString rs.length ++ " files, found " ++ toString (issues rs) ++ " issues"

/-- The report in the text format. -/
def toText (rs : List FileReport) : String :=
  String.join ((rs.flatMap lines ++ ["", summary rs]).map (· ++ "\n"))

/-! ## JSON -/

/-- The object of a file. -/
def toJson (r : FileReport) : Json :=
  .ofMembers [("path", .string r.path),
    ("diagnostics", .array (r.diagnostics.map Diagnostic.toJson))]

/-- Reads the object of a file. -/
def ofJson? (v : Json) : Option FileReport := do
  let path ← (← v.get? "path").toText?
  let diagnostics ← (← (← v.get? "diagnostics").toItems?).mapM Diagnostic.ofJson?
  return ⟨path, diagnostics⟩

/-- The report in the JSON format. -/
def toJsonText (rs : List FileReport) : String :=
  String.ofList (Json.pretty 0 (.array (rs.map toJson)) ++ ['\n'])

/-- Reads a report in the JSON format. -/
def ofJsonText? (text : String) : Option (List FileReport) := do
  let v ← (Json.read text.toList).toOption
  (← v.toItems?).mapM ofJson?

/-- A report. -/
def render (format : ReportFormat) (rs : List FileReport) : String :=
  match format with
  | .text => toText rs
  | .json => toJsonText rs

theorem render_json (rs : List FileReport) : render .json rs = toJsonText rs := rfl

end FileReport

end PerlLint
