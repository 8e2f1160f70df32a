import Mathlib.Data.List.Forall2
import PerlLint.Diagnostic
import PerlLint.Proofs.Json.Pretty

/-!
# Where diagnostics are

A number of a record, counted from 1, becomes a line or column counted from 0.  `zeroBased` does it
for every number, so lines and columns are bounded (`zeroBased_lt`), and only one number leads to
the greatest of them (`zeroBased_succ_lt_iff`).

The range of a diagnostic begins where the record says and ends at column 300 of the same line,
whatever the record says.  So a violation far to the right has a range that ends before it begins:
`ofOutput_ranges` says for which columns this is not so, and that editors are sent the same range.
-/

namespace PerlLint

/-! ## Numbers counted from 0 -/

section Numbers

variable {n : Option Int}

theorem zeroBased_lt (n : Option Int) : zeroBased n < positionBound := by
  cases n with
  | none => decide
  | some n =>
      rw [zeroBased]
      split
      · omega
      · decide

theorem endColumn_lt : endColumn < positionBound := by decide

/-- Only one number has no line or column after it. -/
theorem zeroBased_succ_lt_iff :
    zeroBased n + 1 < positionBound ↔ n ≠ some (positionBound : Int) := by
  have hbound : positionBound = 4294967296 := rfl
  cases n with
  | none => exact iff_of_true (by decide) (by simp)
  | some n =>
      rw [zeroBased, ne_eq, Option.some.injEq]
      split <;> omega

/-- A number is no column behind the end of a range if it is small, or so large that it counts as
the first column. -/
theorem zeroBased_le_endColumn_iff :
    zeroBased n ≤ endColumn ↔ ∀ k, n = some k → k ≤ 301 ∨ 4294967296 < k := by
  have hbound : positionBound = 4294967296 := rfl
  have hend : endColumn = 300 := rfl
  cases n with
  | none => exact iff_of_true (by decide) (by simp)
  | some n =>
      rw [zeroBased]
      simp only [Option.some.injEq, forall_eq']
      split <;> omega

end Numbers

/-! ## Ranges -/

/-- The value that some keys lead to, one after the other. -/
def Json.at? (v : Json) (path : List String) : Option Json := path.foldlM get? v

/-- An editor sees the range in a value. -/
structure EditorRange (v : Json) (r : Range) : Prop where
  startLine : v.at? ["range", "start", "line"] = some (.nat r.start.line)
  startColumn : v.at? ["range", "start", "character"] = some (.nat r.start.column)
  stopLine : v.at? ["range", "end", "line"] = some (.nat r.stop.line)
  stopColumn : v.at? ["range", "end", "character"] = some (.nat r.stop.column)

namespace Diagnostic

theorem get?_toEditorJson (d : Diagnostic) :
    d.toEditorJson.get? "range" = some (d.range.toJson editorColumnKey) := by
  rw [toEditorJson, Json.get?_ofMembers]
  split <;> rfl

theorem editorRange_toEditorJson (d : Diagnostic) : EditorRange d.toEditorJson d.range := by
  have hrange := d.get?_toEditorJson
  have hstart : (d.range.toJson editorColumnKey).get? "start"
      = some (d.range.start.toJson editorColumnKey) := Json.get?_ofMembers _ _
  have hstop : (d.range.toJson editorColumnKey).get? "end"
      = some (d.range.stop.toJson editorColumnKey) := Json.get?_ofMembers _ _
  have hline (p : Position) : (p.toJson editorColumnKey).get? "line" = some (.nat p.line) :=
    Json.get?_ofMembers _ _
  have hcolumn (p : Position) :
      (p.toJson editorColumnKey).get? "character" = some (.nat p.column) := Json.get?_ofMembers _ _
  constructor <;> simp [Json.at?, hrange, hstart, hstop, hline, hcolumn]

/-- Where the diagnostic of a record is. -/
structure Placed (r : Record) (d : Diagnostic) : Prop where
  /-- It ends on the line where it begins, and always at the same column. -/
  stop : d.range.stop = ⟨d.range.start.line, 300⟩
  /-- Editors see the same range. -/
  editor : EditorRange d.toEditorJson d.range
  /-- It does not begin after its end just if the column is missing, or at most 301, or more than
  2^32. -/
  ordered : d.range.start.column ≤ d.range.stop.column ↔
    ∀ n, r.column = some n → n ≤ 301 ∨ 4294967296 < n

theorem placed_ofRecord (c : Config) (r : Record) : Placed r (ofRecord c r) :=
  ⟨rfl, editorRange_toEditorJson _, zeroBased_le_endColumn_iff⟩

/-- The diagnostics of an output are where the records of the output say. -/
theorem ofOutput_ranges (c : Config) (output : List Char) :
    List.Forall₂ Placed (Record.ofOutput output) (ofOutput c output) := by
  rw [ofOutput, List.forall₂_map_right_iff, List.forall₂_same]
  exact fun r _ => placed_ofRecord c r

/-- An output with a violation at column 302. -/
def wideOutput : List Char := "5~|~1~|~302~|~m~|~e~|~p~||~\n".toList

theorem not_ordered_wideOutput :
    ∃ d ∈ ofOutput .standard wideOutput, ¬ d.range.start.column ≤ d.range.stop.column := by
  decide +kernel

end Diagnostic

end PerlLint
