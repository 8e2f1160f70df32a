import PerlLint.Proofs.Output.Reader
import PerlLint.Proofs.Record.Template

/-!
# Printing and reading

What the template prints for some records is read as these records, both as a whole output
(`Record.ofOutput`) and as a stream of bytes (`Output.collect`).  The bytes of a record are one
line, and on this line there is the record (`recordOn?_lineBytes`).
-/

namespace PerlLint.Output

open Record (Printable)

variable {r : Record} {rs : List Record}

theorem printAll_cons (r : Record) (rs : List Record) :
    Record.printAll (r :: rs) = r.print ++ '\n' :: Record.printAll rs := by
  simp [Record.printAll]

/-- The text gives the records. -/
theorem ofOutput_printAll (h : ∀ r ∈ rs, Printable r) :
    Record.ofOutput (Record.printAll rs) = rs := by
  induction rs with
  | nil => rfl
  | cons r rs ih =>
      obtain ⟨hr, hrs⟩ := List.forall_mem_cons.1 h
      have hlast : r.print.getLast? ≠ some '\r' := by rw [Record.getLast?_print]; decide
      rw [printAll_cons, Record.ofOutput_append_cons hr.not_mem_print, Text.dropOneEnd_of_ne hlast,
        hr.ofLine?, ih hrs]
      rfl

/-- The bytes of a record's line. -/
def lineBytes (r : Record) : List UInt8 := Text.Utf8.encode r.print ++ [10]

theorem segments_printAll (h : ∀ r ∈ rs, Printable r) :
    Text.segments 10 (Text.Utf8.encode (Record.printAll rs)) = rs.map lineBytes := by
  induction rs with
  | nil => rfl
  | cons r rs ih =>
      obtain ⟨hr, hrs⟩ := List.forall_mem_cons.1 h
      have hline : 10 ∉ Text.Utf8.encode r.print :=
        mt (Text.Utf8.mem_of_mem_encode (b := 10) (by decide)) hr.not_mem_print
      have hcut : Text.Utf8.encode (Record.printAll (r :: rs))
          = Text.Utf8.encode r.print ++ 10 :: Text.Utf8.encode (Record.printAll rs) := by
        rw [printAll_cons, Text.Utf8.encode_append]
        rfl
      rw [hcut, Text.segments_append_cons hline, ih hrs, List.map_cons, lineBytes]

theorem lineText_lineBytes (r : Record) : lineText (lineBytes r) = r.print := by
  have hbytes : lineBytes r = Text.Utf8.encode (r.print ++ ['\n']) := by
    rw [lineBytes, Text.Utf8.encode_append]
    rfl
  rw [lineText, hbytes, Text.Utf8.decodeLossy_encode, Text.dropEnd_append (by simp [isLineEnd])]
  apply Text.dropEnd_of_getLast?
  intro c hc
  rw [Record.getLast?_print] at hc
  cases hc
  decide

theorem recordOn?_lineBytes (h : r.Printable) : recordOn? (lineBytes r) = some r := by
  rw [recordOn?, lineText_lineBytes, h.ofLine?]

/-- The bytes give the records, and no line is discarded. -/
theorem ofBytes_printAll (h : ∀ r ∈ rs, Printable r) :
    ofBytes (Text.Utf8.encode (Record.printAll rs)) = ⟨rs, 0, none⟩ := by
  have hrecords : ∀ r ∈ rs, (recordOn? ∘ lineBytes) r = some r := by
    intro r hr
    rw [Function.comp_apply, recordOn?_lineBytes (h r hr)]
  have hkept : (rs.map lineBytes).filterMap recordOn? = rs := by
    rw [List.filterMap_map, List.filterMap_congr hrecords, List.filterMap_some]
  have hdiscarded : (rs.map lineBytes).countP isDiscarded = 0 := by
    rw [List.countP_eq_zero, List.forall_mem_map]
    intro r hr
    simp [isDiscarded, recordOn?_lineBytes (h r hr)]
  rw [ofBytes, segments_printAll h, ofLines_eq, hkept, hdiscarded]

/-- Reading undoes printing: the text that the template gives for some records is read as these
records, and so are its bytes, wherever they are cut.  No line is discarded. -/
theorem template_read_back (rs : List Record) (h : ∀ r ∈ rs, Printable r) :
    let text := rs.flatMap fun r => r.expand outputTemplate.toList
    Record.ofOutput text = rs ∧
    ∀ chunks : List (List UInt8), chunks.flatten = Text.Utf8.encode text →
      collect chunks = ⟨rs, 0, none⟩ := by
  rw [Record.flatMap_expand]
  refine ⟨ofOutput_printAll h, fun chunks hchunks => ?_⟩
  rw [collect_eq_ofBytes, hchunks, ofBytes_printAll h]

/-- Records with parts of both tokens in their texts, also at the ends. -/
def edgeRecords : List Record :=
  [⟨some 5, some (-1), some 9223372036854775807, "a~|b||~c", "~", "|~|"⟩,
    ⟨some 0, some 10, some 3, "|", "", "é~"⟩]

theorem template_read_back_edgeRecords :
    (∀ r ∈ edgeRecords, Printable r) ∧
    Record.ofOutput (edgeRecords.flatMap fun r => r.expand outputTemplate.toList) = edgeRecords ∧
    collect [Text.Utf8.encode (edgeRecords.flatMap fun r => r.expand outputTemplate.toList)]
      = ⟨edgeRecords, 0, none⟩ := by
  have h : ∀ r ∈ edgeRecords, Printable r := by decide +kernel
  obtain ⟨htext, hstream⟩ := template_read_back edgeRecords h
  exact ⟨h, htext, hstream _ (by rw [List.flatten_cons, List.flatten_nil, List.append_nil])⟩

end PerlLint.Output
