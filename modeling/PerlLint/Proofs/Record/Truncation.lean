import PerlLint.Proofs.Record.Grammar
import PerlLint.Proofs.Record.Template

/-!
# Truncated lines

The output of a run may end anywhere, and then the last line is only the beginning of what was
printed for a record.  Reading it gives nothing, or the record with a part of its policy, and
maybe with a part of the end marker after that (`ofLine?_truncated`).

A line that ends before its end marker does has no end marker, so it is its own body, but for a
carriage return at its end.  If it ends before its fifth separator does it has five pieces at most,
since a scan finds no more in the beginning of a text than in the text (`Printable.ofLine?_short`).
Otherwise the first five fields are there, and the policy is what is left of the rest, unless that
makes a separator (`Printable.ofLine?_front_append`).
-/

namespace PerlLint.Record

variable {r : Record} {x q : List Char} {fs : List (List Char)}

theorem ofFields?_eq_none (h : fs.length ≠ 6) : ofFields? fs = none := by
  rw [← Option.not_isSome_iff_eq_none, isSome_ofFields?_iff]
  exact h

/-! ## The parts of a printed line -/

/-- The line of a record up to the end of its fifth separator. -/
def front (r : Record) : List Char := (r.fields.take 5).flatMap (· ++ separatorChars)

theorem print_eq (r : Record) : r.print = r.front ++ (r.policy.toList ++ markerChars) := by
  simp [print, front, fields, Text.joinWith]

/-- The first five fields, with the fifth separator up to its last character. -/
def shortFields (r : Record) : List (List Char) :=
  r.fields.take 4 ++ [r.explanation.toList ++ ['~', '|']]

theorem front_eq (r : Record) :
    r.front = Text.joinWith separatorChars r.shortFields ++ ['~'] := by
  simp [front, shortFields, fields, Text.joinWith, separatorChars]

theorem getLast?_front (r : Record) : r.front.getLast? = some '~' := by
  rw [front_eq, List.getLast?_concat]

theorem Printable.firstAfter (h : r.Printable) :
    ∀ f ∈ r.fields.take 5, Text.FirstAfter separatorChars f := h.pieces.firstAfter

theorem Printable.pieces_shortFields (h : r.Printable) :
    Text.Pieces separatorChars (Text.joinWith separatorChars r.shortFields) r.shortFields := by
  have hexplanation : Text.FirstAfter separatorChars r.explanation.toList :=
    h.firstAfter _ (by simp [fields])
  apply Text.pieces_joinWith
  · intro f hf
    exact h.firstAfter f (List.mem_of_mem_take (i := 4) (by simpa [List.take_take] using hf))
  · exact hexplanation.not_infix_of_isPrefix ⟨['~'], by simp [separatorChars]⟩
      (by simp [separatorChars])

/-! ## The beginning of a printed line -/

/-- A line that ends before the end marker does is its own body. -/
theorem Printable.body_eq (h : r.Printable) (hx : x <+: r.print) (hne : x ≠ r.print) :
    Record.body x = Text.dropOneEnd '\r' x := by
  have hfirst := (guarded_joinWith h.guarded).firstAfter
  have hdrop := Text.dropOneEnd_isPrefix '\r' x
  have hne' : Text.dropOneEnd '\r' x ≠ r.print := by
    intro heq
    exact hne (hx.eq_of_length_le (heq ▸ hdrop.length_le))
  exact Text.eraseFirst_of_absent (hfirst.not_infix_of_isPrefix (hdrop.trans hx) hne')

/-- A line that ends before its fifth separator does is no record. -/
theorem Printable.ofLine?_short (h : r.Printable) (hx : x <+: r.front) (hne : x ≠ r.front) :
    Record.ofLine? x = none := by
  have hprint : r.front <+: r.print := r.print_eq ▸ List.prefix_append _ _
  have hne' : x ≠ r.print := fun heq => hne (hx.eq_of_length_le (heq ▸ hprint.length_le))
  have hshort : x <+: Text.joinWith separatorChars r.shortFields := by
    rw [front_eq] at hx hne
    exact (List.prefix_concat_iff.1 hx).resolve_left hne
  obtain ⟨rest, hrest⟩ := (Text.dropOneEnd_isPrefix '\r' x).trans hshort
  have hpieces : Text.Pieces separatorChars (Text.dropOneEnd '\r' x)
      (Text.splitOn separatorChars (Text.dropOneEnd '\r' x)) :=
    (Text.splitOn_eq_iff (by decide)).1 rfl
  have hcount := hpieces.length_le (by decide) (hrest ▸ h.pieces_shortFields)
  have hfive : r.shortFields.length = 5 := rfl
  rw [Record.ofLine?, h.body_eq (hx.trans hprint) hne', ofFields?_eq_none (by omega)]

/-- After the fifth separator there are the policy and a part of the end marker. -/
theorem prefix_of_front_append (hq : r.front ++ q <+: r.print) (hne : r.front ++ q ≠ r.print) :
    q <+: r.policy.toList ++ ['~', '|', '|'] := by
  rw [print_eq] at hq hne
  have hq' : q <+: r.policy.toList ++ ['~', '|', '|'] ++ ['~'] := by
    simpa [markerChars] using (List.prefix_append_right_inj _).1 hq
  refine (List.prefix_concat_iff.1 hq').resolve_left fun heq => hne ?_
  rw [heq, List.append_assoc]
  rfl

theorem Printable.ofFields?_concat (h : r.Printable) (q : List Char) :
    Record.ofFields? (r.fields.take 5 ++ [q]) = some { r with policy := String.ofList q } := by
  simp [fields, Record.ofFields?, h.severityCode.leadingInt?, h.line.leadingInt?,
    h.column.leadingInt?]

/-- What comes after the fifth separator is the policy, if it has no separator itself. -/
theorem Printable.ofFields?_splitOn (h : r.Printable) (q : List Char) :
    Record.ofFields? (Text.splitOn separatorChars (r.front ++ q))
      = if separatorChars <:+: q then none else some { r with policy := String.ofList q } := by
  obtain ⟨ps, hps⟩ : ∃ ps, Text.Pieces separatorChars q ps := Text.exists_pieces (by decide) q
  rw [front, (Text.splitOn_eq_iff (by decide)).2 (hps.prepend h.firstAfter)]
  cases hps with
  | last hfree => rw [if_neg hfree, h.ofFields?_concat]
  | @cut p s ps _ hps =>
      have hsep : separatorChars <:+: p ++ (separatorChars ++ s) := ⟨p, s, by simp⟩
      have hpos := List.length_pos_iff.2 hps.ne_nil
      have hcount : (r.fields.take 5 ++ p :: ps).length ≠ 6 := by
        have hfive : (r.fields.take 5).length = 5 := rfl
        rw [List.length_append, List.length_cons, hfive]
        omega
      rw [if_pos hsep, ofFields?_eq_none hcount]

/-- A line that ends after its fifth separator does is the record with what is left of the policy
and the end marker, unless that makes a separator. -/
theorem Printable.ofLine?_front_append (h : r.Printable) (hq : r.front ++ q <+: r.print)
    (hne : r.front ++ q ≠ r.print) :
    Record.ofLine? (r.front ++ q)
      = if separatorChars <:+: Text.dropOneEnd '\r' q then none
        else some { r with policy := String.ofList (Text.dropOneEnd '\r' q) } := by
  have hlast : r.front.getLast? ≠ some '\r' := by rw [getLast?_front]; decide
  rw [Record.ofLine?, h.body_eq hq hne, Text.dropOneEnd_append hlast, h.ofFields?_splitOn]

/-- The beginning of what is printed for a record is read as nothing, or as the record with the
beginning of its policy, after which there may be a part of the end marker.  If it ends before the
fifth separator does it is read as nothing, and if it ends in the policy it is a record. -/
theorem ofLine?_truncated (h : r.Printable) (hx : x <+: r.expand outputTemplate.toList)
    (hne : x ≠ r.expand outputTemplate.toList) :
    (ofLine? x = none ∨ ∃ q, q <+: r.policy.toList ++ ['~', '|', '|'] ∧
      ofLine? x = some { r with policy := String.ofList q }) ∧
    (x.length < r.front.length → ofLine? x = none) ∧
    ∀ q, q <+: r.policy.toList → x = r.front ++ q → (ofLine? x).isSome := by
  rw [expand_outputTemplate] at hx hne
  replace hx := (List.prefix_concat_iff.1 hx).resolve_left hne
  have hfront : r.front <+: r.print := r.print_eq ▸ List.prefix_append _ _
  by_cases hwhole : x = r.print
  · -- Only the line feed is missing.
    subst hwhole
    rw [h.ofLine?]
    refine ⟨.inr ⟨r.policy.toList, List.prefix_append _ _, by simp⟩, fun hlen => ?_,
      fun _ _ _ => rfl⟩
    exact absurd hfront.length_le (Nat.not_le.2 hlen)
  by_cases hfive : r.front <+: x
  · obtain ⟨q, rfl⟩ := hfive
    have hread := h.ofLine?_front_append hx hwhole
    have hdrop := Text.dropOneEnd_isPrefix '\r' q
    refine ⟨?_, fun hlen => absurd hlen (by simp), fun q' hq' heq => ?_⟩
    · rw [hread]
      split
      · exact .inl rfl
      · exact .inr ⟨_, hdrop.trans (prefix_of_front_append hx hwhole), rfl⟩
    · obtain rfl := List.append_cancel_left heq
      have hfree : ¬ separatorChars <:+: Text.dropOneEnd '\r' q := fun hsep =>
        h.policy.separator (hsep.trans (hdrop.trans hq').isInfix)
      rw [hread, if_neg hfree]
      rfl
  · have hshort : x <+: r.front := (List.prefix_or_prefix_of_prefix hx hfront).resolve_right hfive
    have hnone := h.ofLine?_short hshort fun heq => hfive (heq ▸ List.prefix_rfl)
    exact ⟨.inl hnone, fun _ => hnone, fun q _ heq => absurd ⟨q, heq.symm⟩ hfive⟩

/-- A line that ends inside the end marker: the rest of the marker is in the policy. -/
theorem ofLine?_truncated_inMarker :
    let x := sampleRecord.print.dropLast
    (sampleRecord.Printable ∧ x <+: sampleRecord.expand outputTemplate.toList ∧
      x ≠ sampleRecord.expand outputTemplate.toList) ∧
    (ofLine? x = none ∨ ∃ q, q <+: sampleRecord.policy.toList ++ ['~', '|', '|'] ∧
      ofLine? x = some { sampleRecord with policy := String.ofList q }) ∧
    ofLine? x = some { sampleRecord with policy := "Foo::Bar~||" } := by
  have h : sampleRecord.Printable := by decide +kernel
  have hx : sampleRecord.print.dropLast <+: sampleRecord.expand outputTemplate.toList := by
    decide +kernel
  have hne : sampleRecord.print.dropLast ≠ sampleRecord.expand outputTemplate.toList := by
    decide +kernel
  exact ⟨⟨h, hx, hne⟩, (ofLine?_truncated h hx hne).1, by decide +kernel⟩

end PerlLint.Record
