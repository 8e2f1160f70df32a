import PerlLint.Proofs.Text.Lines
import PerlLint.Proofs.Text.Split
import PerlLint.Violation

/-!
# Reading records

A whole output is read line by line (`Record.ofOutput_append_cons`).  Carriage returns at the end
of a line do not change whether it is a record: the first of them is dropped, and the others go
to the end of the policy (`Record.ofLine?_append_replicate`).
-/

namespace PerlLint.Record

variable {l x cs f : List Char}

/-! ## Lines of an output -/

theorem ofOutput_append_cons (h : '\n' ∉ l) (s : List Char) :
    ofOutput (l ++ '\n' :: s)
      = (ofLine? (Text.dropOneEnd '\r' l)).toList ++ ofOutput s := by
  simp [ofOutput, Text.lines_append_cons h, List.filterMap_eq_flatMap_toList]

theorem ofOutput_of_not_mem (h : '\n' ∉ l) (hne : l ≠ []) :
    ofOutput l = (ofLine? l).toList := by
  simp [ofOutput, Text.lines_of_not_mem h hne, List.filterMap_eq_flatMap_toList]

/-! ## Where the separator stands -/

/-- The separator occurs first after a field if the field neither holds nor begins one. -/
theorem firstAfter_separator_iff :
    Text.FirstAfter separatorChars f ↔ ¬ separatorChars <:+: f ∧ ¬ ['~', '|'] <:+ f := by
  constructor
  · intro h
    refine ⟨h.not_infix (by decide), ?_⟩
    rintro ⟨q, rfl⟩
    -- The field and the separator end in `~|~|~`, so the separator stands two characters earlier.
    have hearlier : q ++ separatorChars <+: q ++ ['~', '|'] ++ separatorChars :=
      ⟨['|', '~'], by simp [separatorChars]⟩
    have hq : q = q ++ ['~', '|'] := h q hearlier
    simp at hq
  · rintro ⟨hfree, hback⟩
    exact Text.firstAfter_of_border ['~', '|'] hfree (by decide) hback

/-! ## Characters after a record -/

/-- The record with characters at the end of its policy. -/
def addToPolicy (cs : List Char) (r : Record) : Record :=
  { r with policy := r.policy ++ String.ofList cs }

@[simp] theorem addToPolicy_nil (r : Record) : r.addToPolicy [] = r := by
  simp [addToPolicy]

theorem ofFields?_append (init : List (List Char)) (last cs : List Char) :
    ofFields? (init ++ [last ++ cs]) = (ofFields? (init ++ [last])).map (addToPolicy cs) := by
  rcases init with _ | ⟨s, _ | ⟨n, _ | ⟨c, _ | ⟨m, _ | ⟨e, _ | ⟨p, init⟩⟩⟩⟩⟩⟩
  case cons.cons.cons.cons.cons.nil => simp [ofFields?, addToPolicy]
  all_goals simp [ofFields?]

/-- Carriage returns at the end of a line, but for one, go to the policy. -/
theorem ofLine?_append_replicate (h : x.getLast? ≠ some '\r') (k : Nat) :
    ofLine? (x ++ List.replicate k '\r')
      = (ofLine? x).map (addToPolicy (List.replicate (k - 1) '\r')) := by
  have hreturn {tok : List Char} (htok : '\r' ∉ tok) :
      ∀ c ∈ List.replicate (k - 1) '\r', c ∉ tok := by
    intro c hc
    rwa [List.eq_of_mem_replicate hc]
  have hbody : body (x ++ List.replicate k '\r') = body x ++ List.replicate (k - 1) '\r' := by
    rw [body, body, Text.dropOneEnd_append_replicate h, Text.dropOneEnd_of_ne h,
      Text.eraseFirst_append (by decide) (hreturn (by decide))]
  obtain ⟨ps, hps⟩ : ∃ ps, Text.Pieces separatorChars (body x) ps :=
    Text.exists_pieces (by decide) _
  obtain ⟨init, last, rfl, happ⟩ := hps.append (by decide) (hreturn (by decide))
  rw [ofLine?, ofLine?, hbody, (Text.splitOn_eq_iff (by decide)).2 happ,
    (Text.splitOn_eq_iff (by decide)).2 hps, ofFields?_append]

end PerlLint.Record
