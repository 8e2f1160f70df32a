import PerlLint.Proofs.Diagnostic.Position
import PerlLint.Proofs.Json.Numbers
import PerlLint.Proofs.Json.Pretty
import PerlLint.Report

/-!
# Nothing is lost in a report

A report in the JSON format holds all that is known of the files: `ofJsonText?_render_json` reads the
reports of all files back from it, each with its path and its diagnostics, in order.  Texts may hold
any characters.  The numbers of lines and columns are bounded, as they are in every diagnostic of a
record (`fits_ofRecord`).

Each kind of value is read back from its object, from positions up to files, and each of these
objects is one that the reader takes as it was written (`Json.Faithful`).
-/

namespace PerlLint

open Json (Members Faithful Spaced)

/-! ## Positions and ranges -/

/-- The numbers of a position are in bounds. -/
structure Position.Fits (p : Position) : Prop where
  line_lt : p.line < positionBound
  column_lt : p.column < positionBound

/-- The positions of a range are in bounds. -/
structure Range.Fits (r : Range) : Prop where
  start : r.start.Fits
  stop : r.stop.Fits

instance (p : Position) : Decidable p.Fits :=
  decidable_of_iff (p.line < positionBound ∧ p.column < positionBound)
    ⟨fun h => ⟨h.1, h.2⟩, fun h => ⟨h.1, h.2⟩⟩

instance (r : Range) : Decidable r.Fits :=
  decidable_of_iff (r.start.Fits ∧ r.stop.Fits) ⟨fun h => ⟨h.1, h.2⟩, fun h => ⟨h.1, h.2⟩⟩

/-- The diagnostics of records have ranges in bounds. -/
theorem Diagnostic.fits_ofRecord (c : Config) (r : Record) : (ofRecord c r).range.Fits where
  start := ⟨zeroBased_lt r.line, zeroBased_lt r.column⟩
  stop := ⟨zeroBased_lt r.line, endColumn_lt⟩

theorem Position.number?_nat {n : Nat} (h : n < positionBound) : number? (.nat n) = some n := by
  have htoNat : (Json.nat n).toNat? = some n := rfl
  rw [number?, htoNat, Option.filter_some, if_pos (decide_eq_true h)]

theorem faithful_positionNumber {n : Nat} (h : n < positionBound) : Faithful (.nat n) :=
  Json.faithful_nat (h.trans (by decide))

variable {p : Position} {r : Range} {d : Diagnostic}

theorem Position.ofJson?_toJson (h : p.Fits) : ofJson? (p.toJson reportColumnKey) = some p := by
  have hline : (p.toJson reportColumnKey).get? "line" = some (.nat p.line) :=
    Json.get?_ofMembers _ _
  have hcolumn : (p.toJson reportColumnKey).get? reportColumnKey = some (.nat p.column) :=
    Json.get?_ofMembers _ _
  simp only [ofJson?, hline, hcolumn, number?_nat h.line_lt, number?_nat h.column_lt,
    Option.bind_eq_bind, Option.bind_some]
  rfl

theorem Position.faithful_toJson (h : p.Fits) (columnKey : String) :
    Faithful (p.toJson columnKey) := by
  refine Json.faithful_ofMembers fun m hm => ?_
  simp only [List.mem_cons, List.not_mem_nil, or_false] at hm
  obtain rfl | rfl := hm
  · exact faithful_positionNumber h.line_lt
  · exact faithful_positionNumber h.column_lt

theorem Range.ofJson?_toJson (h : r.Fits) : ofJson? (r.toJson reportColumnKey) = some r := by
  have hstart : (r.toJson reportColumnKey).get? "start"
      = some (r.start.toJson reportColumnKey) := Json.get?_ofMembers _ _
  have hstop : (r.toJson reportColumnKey).get? "end"
      = some (r.stop.toJson reportColumnKey) := Json.get?_ofMembers _ _
  simp only [ofJson?, hstart, hstop, Position.ofJson?_toJson h.start,
    Position.ofJson?_toJson h.stop, Option.bind_eq_bind, Option.bind_some]
  rfl

theorem Range.faithful_toJson (h : r.Fits) (columnKey : String) :
    Faithful (r.toJson columnKey) := by
  refine Json.faithful_ofMembers fun m hm => ?_
  simp only [List.mem_cons, List.not_mem_nil, or_false] at hm
  obtain rfl | rfl := hm
  · exact Position.faithful_toJson h.start columnKey
  · exact Position.faithful_toJson h.stop columnKey

/-! ## Diagnostics -/

/-- The names of levels are read back. -/
theorem Level.ofName?_name (l : Level) : ofName? l.name = some l := by
  cases l <;> decide +kernel

/-- The names of tiers are read back. -/
theorem Tier.ofString?_name (t : Tier) : ofString? t.name = some t := by
  cases t <;> decide +kernel

theorem Diagnostic.ofJson?_toJson (h : d.range.Fits) : ofJson? d.toJson = some d := by
  have hrange : d.toJson.get? "range" = some (d.range.toJson reportColumnKey) :=
    Json.get?_ofMembers _ _
  have hmessage : d.toJson.get? "message" = some (.string d.message) := Json.get?_ofMembers _ _
  have hlevel : d.toJson.get? "level" = some (.string d.level.name) := Json.get?_ofMembers _ _
  have htier : d.toJson.get? "tier" = some (.string d.tier.name) := Json.get?_ofMembers _ _
  have hpolicy : d.toJson.get? "policy" = some (.string d.policy) := Json.get?_ofMembers _ _
  simp only [ofJson?, hrange, hmessage, hlevel, htier, hpolicy, Range.ofJson?_toJson h,
    Json.toText?, Level.ofName?_name, Tier.ofString?_name, Option.bind_eq_bind, Option.bind_some]
  rfl

theorem Diagnostic.faithful_toJson (h : d.range.Fits) : Faithful d.toJson := by
  refine Json.faithful_ofMembers fun m hm => ?_
  simp only [List.mem_cons, List.not_mem_nil, or_false] at hm
  obtain rfl | rfl | rfl | rfl | rfl := hm
  · exact Range.faithful_toJson h reportColumnKey
  all_goals exact Json.faithful_string _

/-! ## Files -/

/-- What is written for each item of a list is read back item by item. -/
theorem mapM_map_eq_some {α β : Type} {write : α → β} {read? : β → Option α} {xs : List α}
    (h : ∀ x ∈ xs, read? (write x) = some x) : (xs.map write).mapM read? = some xs := by
  induction xs with
  | nil => rfl
  | cons x xs ih =>
      rw [List.map_cons, List.mapM_cons, h x (.head _), ih fun x' hx' => h x' (.tail _ hx')]
      rfl

namespace FileReport

variable {f : FileReport} {fs : List FileReport}

theorem ofJson?_toJson (h : ∀ d ∈ f.diagnostics, d.range.Fits) : ofJson? f.toJson = some f := by
  have hpath : f.toJson.get? "path" = some (.string f.path) := Json.get?_ofMembers _ _
  have hdiagnostics : f.toJson.get? "diagnostics"
      = some (.array (f.diagnostics.map Diagnostic.toJson)) := Json.get?_ofMembers _ _
  have hmapM := mapM_map_eq_some fun d hd => Diagnostic.ofJson?_toJson (h d hd)
  simp only [ofJson?, hpath, hdiagnostics, Json.toText?, Json.toItems?, hmapM,
    Option.bind_eq_bind, Option.bind_some]
  rfl

theorem faithful_toJson (h : ∀ d ∈ f.diagnostics, d.range.Fits) : Faithful f.toJson := by
  refine Json.faithful_ofMembers fun m hm => ?_
  simp only [List.mem_cons, List.not_mem_nil, or_false] at hm
  obtain rfl | rfl := hm
  · exact Json.faithful_string f.path
  · refine Json.faithful_array fun v hv => ?_
    obtain ⟨d, hd, rfl⟩ := List.mem_map.1 hv
    exact Diagnostic.faithful_toJson (h d hd)

theorem faithful_map_toJson (h : ∀ f ∈ fs, ∀ d ∈ f.diagnostics, d.range.Fits) :
    Faithful (.array (fs.map toJson)) := by
  refine Json.faithful_array fun v hv => ?_
  obtain ⟨f, hf, rfl⟩ := List.mem_map.1 hv
  exact faithful_toJson (h f hf)

/-- The report in the JSON format is plain JSON, the array of the files. -/
theorem spaced_toJsonText (h : ∀ f ∈ fs, ∀ d ∈ f.diagnostics, d.range.Fits) :
    Spaced ((Json.array (fs.map toJson)).tokens fun _ => false) (toJsonText fs).toList := by
  have hplain := (faithful_map_toJson h).plainNumbers
  have hend : Spaced [] ['\n'] := .nil (List.forall_mem_singleton.2 rfl)
  have hall := Json.spaced_pretty (.array (fs.map toJson)) 0 hplain hend
  rw [List.append_nil] at hall
  rw [toJsonText, String.toList_ofList]
  exact hall

/-- A report in the JSON format is plain JSON, and all files are read back from it: in order, each
with its path and its diagnostics. -/
theorem ofJsonText?_render_json (fs : List FileReport)
    (h : ∀ f ∈ fs, ∀ d ∈ f.diagnostics, d.range.Fits) :
    (∃ v : Json, Spaced (v.tokens fun _ => false) (render .json fs).toList ∧
      Json.read (render .json fs).toList = .ok v) ∧
    ofJsonText? (render .json fs) = some fs := by
  rw [render_json]
  have hspaced := spaced_toJsonText h
  have hread := Json.read_faithful (faithful_map_toJson h) hspaced
  refine ⟨⟨_, hspaced, hread⟩, ?_⟩
  have hitems := mapM_map_eq_some fun f hf => ofJson?_toJson (h f hf)
  simp only [ofJsonText?, hread, Except.toOption, Json.toItems?, hitems, Option.bind_eq_bind,
    Option.bind_some]

/-- A file that is reported twice, with the largest numbers, and with quotes, backslashes and
controls in all texts. -/
def unusual : List FileReport :=
  let d : Diagnostic :=
    { range := ⟨⟨4294967295, 0⟩, ⟨4294967295, 4294967295⟩⟩, message := "GENTLE: \u0000\t\"é\"\n"
      level := .information, tier := .gentle, policy := "\\\u001f\r" }
  [⟨"a\n.pl", [d, d]⟩, ⟨"", []⟩, ⟨"a\n.pl", [d]⟩]

theorem ofJsonText?_render_json_unusual :
    (∀ f ∈ unusual, ∀ d ∈ f.diagnostics, d.range.Fits) ∧
    ofJsonText? (render .json unusual) = some unusual := by
  have hfits : ∀ f ∈ unusual, ∀ d ∈ f.diagnostics, d.range.Fits := by decide
  exact ⟨hfits, (ofJsonText?_render_json unusual hfits).2⟩

end FileReport

end PerlLint
