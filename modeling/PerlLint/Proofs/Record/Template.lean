import PerlLint.Proofs.Record.Reading
import PerlLint.Proofs.Text.Numeral

/-!
# Records after the template

The template prints the six fields of a record (`expand_outputTemplate`), and reading the line
gives the record back (`Printable.ofLine?`).

Both tokens begin and end with `~`, so a token may also be made of the end of a field and the
token after it, or of the token before a field and its beginning.  A text is `Separable` if
neither happens.  For the end marker this is one condition: between two `~` it does not occur
(`Guarded`).  It carries over from two texts to the texts with the separator between them
(`Guarded.join`), so the marker at the end of the line is the first one in it.
-/

namespace PerlLint.Record

variable {f g : List Char} {fs : List (List Char)} {r : Record}

/-! ## The template -/

/-- What is printed for an escape. -/
def escape (r : Record) : Char → List Char
  | 's' => printNumber r.severityCode
  | 'l' => printNumber r.line
  | 'c' => printNumber r.column
  | 'm' => r.message.toList
  | 'e' => r.explanation.toList
  | 'p' => r.policy.toList
  | 'n' => ['\n']
  | c => ['%', c]

/-- What is printed after a template: the escapes of a record, and all other characters as they
are. -/
def expand (r : Record) : List Char → List Char
  | '%' :: c :: cs => r.escape c ++ r.expand cs
  | c :: cs => c :: r.expand cs
  | [] => []

/-- The template prints the fields with the separator between them, and the end marker. -/
theorem expand_outputTemplate (r : Record) :
    r.expand outputTemplate.toList = r.print ++ ['\n'] := by
  simp [outputTemplate, expand, escape, print, fields, Text.joinWith, separatorChars, markerChars]

theorem flatMap_expand (rs : List Record) :
    (rs.flatMap fun r => r.expand outputTemplate.toList) = printAll rs := by
  simp only [printAll, expand_outputTemplate]

/-! ## The end marker -/

/-- Between two `~` the end marker does not occur. -/
def Guarded (f : List Char) : Prop := ¬ markerChars <:+: '~' :: (f ++ ['~'])

theorem guarded_of_not_mem (h : '|' ∉ f) : Guarded f := by
  intro hf
  have hmem : '|' ∈ '~' :: (f ++ ['~']) := hf.subset (by decide)
  exact h (by simpa using hmem)

/-- The marker is not in the text, nor begun by it, nor ended by it, nor made by it alone. -/
theorem guarded_of (hin : ¬ markerChars <:+: f) (hfront : ¬ ['|', '|', '~'] <+: f)
    (hwhole : f ≠ ['|', '|']) (hback : ¬ ['~', '|', '|'] <:+ f) : Guarded f := by
  intro hf
  rcases List.infix_cons_iff.1 hf with hf | hf
  · have hrest := (List.cons_prefix_cons.1 hf).2
    rcases List.prefix_concat_iff.1 hrest with heq | hpre
    · have heq' : ['|', '|'] ++ ['~'] = f ++ ['~'] := heq
      exact hwhole (List.append_cancel_right heq').symm
    · exact hfront hpre
  · rcases List.infix_concat_iff.1 hf with hsuf | hf
    · rcases List.suffix_concat_iff.1 hsuf with hnil | ⟨t, ht, hsuf⟩
      · cases hnil
      · have ht' : ['~', '|', '|'] ++ ['~'] = t ++ ['~'] := ht
        exact hback (List.append_cancel_right ht' ▸ hsuf)
    · exact hin hf

/-- No marker reaches over a `|` that stands between two `~`. -/
theorem infix_or_infix_of_bar {xs ys : List Char}
    (h : markerChars <:+: (xs ++ ['~']) ++ '|' :: '~' :: ys) :
    markerChars <:+: xs ++ ['~'] ∨ markerChars <:+: '~' :: ys := by
  rcases List.infix_append_iff_ne_nil.1 h with h | h | ⟨u, v, hu, hv, heq, hsuf, hpre⟩
  · exact .inl h
  · refine .inr ((List.infix_cons_iff.1 h).resolve_left fun hpre => ?_)
    exact absurd (List.cons_prefix_cons.1 hpre).1 (by decide)
  · exfalso
    have hlast : u.getLast? = some '~' := by
      obtain ⟨t, ht⟩ := hsuf
      rw [← List.getLast?_append_of_ne_nil t hu, ht, List.getLast?_concat]
    -- Only the first `~` of the marker is followed by a `|`, and then comes another one.
    have hafter : ∀ cut ∈ markerChars.inits.zip markerChars.tails,
        cut.1.getLast? = some '~' → cut.2 ≠ [] → cut.2 = ['|', '|', '~'] := by decide
    have hrest : v = ['|', '|', '~'] :=
      hafter (u, v) (List.mem_zip_inits_tails.2 heq.symm) hlast hv
    simp [hrest] at hpre

theorem Guarded.join (hf : Guarded f) (hg : Guarded g) :
    Guarded (f ++ separatorChars ++ g) := by
  intro h
  have hcut : '~' :: (f ++ separatorChars ++ g ++ ['~'])
      = ('~' :: f ++ ['~']) ++ '|' :: '~' :: (g ++ ['~']) := by
    simp [separatorChars]
  rw [hcut] at h
  rcases infix_or_infix_of_bar h with h | h
  · exact hf h
  · exact hg h

theorem guarded_joinWith (h : ∀ f ∈ fs, Guarded f) : Guarded (Text.joinWith separatorChars fs) := by
  induction fs with
  | nil => exact guarded_of_not_mem (by simp [Text.joinWith])
  | cons f fs ih =>
      cases fs with
      | nil => exact h f (.head _)
      | cons g fs => exact (h f (.head _)).join (ih fun p hp => h p (.tail _ hp))

/-- After a guarded text the marker occurs for the first time. -/
theorem Guarded.firstAfter (h : Guarded f) : Text.FirstAfter markerChars f := by
  refine Text.firstAfter_of_border ['~', '|', '|'] (fun hf => h ?_) (by decide)
    fun hback => h ?_
  · exact List.infix_cons (hf.trans (List.prefix_append f ['~']).isInfix)
  · obtain ⟨t, rfl⟩ := hback
    exact ⟨'~' :: t, [], by simp [markerChars]⟩

/-! ## The line of a record -/

/-- The number is there: any signed 64-bit integer but the least one, whose magnitude is not
read. -/
def Fits (number : Option Int) : Prop := ∃ n, number = some n ∧ n.natAbs < Text.wordBound

/-- A text that stands for itself in a line: it holds neither token, and makes none with what is
around it. -/
structure Separable (f : List Char) : Prop where
  /-- It is on one line. -/
  line : '\n' ∉ f
  /-- It does not hold the separator. -/
  separator : ¬ separatorChars <:+: f
  /-- It does not hold the end marker. -/
  marker : ¬ markerChars <:+: f
  /-- It does not end a marker. -/
  front : ¬ ['|', '|', '~'] <+: f
  /-- It is not the middle of a marker. -/
  whole : f ≠ ['|', '|']
  /-- It does not begin a marker. -/
  back : ¬ ['~', '|', '|'] <:+ f

/-- A record that is read back from the line that the template gives for it. -/
structure Printable (r : Record) : Prop where
  /-- The numbers are there. -/
  severityCode : Fits r.severityCode
  line : Fits r.line
  column : Fits r.column
  /-- The texts stand for themselves. -/
  message : Separable r.message.toList
  explanation : Separable r.explanation.toList
  policy : Separable r.policy.toList
  /-- A text with a separator after it does not begin one. -/
  message_back : ¬ ['~', '|'] <:+ r.message.toList
  explanation_back : ¬ ['~', '|'] <:+ r.explanation.toList

instance (number : Option Int) : Decidable (Fits number) :=
  match number with
  | none => isFalse nofun
  | some n => decidable_of_iff (n.natAbs < Text.wordBound)
      ⟨fun h => ⟨n, rfl, h⟩, fun ⟨_, hn, h⟩ => Option.some.inj hn ▸ h⟩

instance (f : List Char) : Decidable (Separable f) :=
  decidable_of_iff ('\n' ∉ f ∧ ¬ separatorChars <:+: f ∧ ¬ markerChars <:+: f
      ∧ ¬ ['|', '|', '~'] <+: f ∧ f ≠ ['|', '|'] ∧ ¬ ['~', '|', '|'] <:+ f)
    ⟨fun ⟨h₁, h₂, h₃, h₄, h₅, h₆⟩ => ⟨h₁, h₂, h₃, h₄, h₅, h₆⟩,
      fun h => ⟨h.line, h.separator, h.marker, h.front, h.whole, h.back⟩⟩

instance (r : Record) : Decidable r.Printable :=
  decidable_of_iff ((Fits r.severityCode ∧ Fits r.line ∧ Fits r.column)
      ∧ (Separable r.message.toList ∧ Separable r.explanation.toList ∧ Separable r.policy.toList)
      ∧ ¬ ['~', '|'] <:+ r.message.toList ∧ ¬ ['~', '|'] <:+ r.explanation.toList)
    ⟨fun ⟨⟨h₁, h₂, h₃⟩, ⟨h₄, h₅, h₆⟩, h₇, h₈⟩ => ⟨h₁, h₂, h₃, h₄, h₅, h₆, h₇, h₈⟩,
      fun h => ⟨⟨h.severityCode, h.line, h.column⟩, ⟨h.message, h.explanation, h.policy⟩,
        h.message_back, h.explanation_back⟩⟩

theorem Separable.guarded (h : Separable f) : Guarded f :=
  guarded_of h.marker h.front h.whole h.back

section Numbers

variable {number : Option Int}

theorem Fits.leadingInt? (h : Fits number) : Text.leadingInt? (printNumber number) = number := by
  obtain ⟨n, rfl, hn⟩ := h
  exact Text.leadingInt?_intDigits hn

/-- A number has no character of a token, and no line feed. -/
theorem not_mem_printNumber {c : Char} (hc : c ∈ ['~', '|', '\n']) (number : Option Int) :
    c ∉ printNumber number := by
  intro hmem
  cases number with
  | none => cases hmem
  | some n =>
      have hnot : ∀ c ∈ ['~', '|', '\n'], ¬ (Text.isDigit c ∨ c = '-') := by simp [Text.isDigit]
      exact hnot c hc (Text.isDigit_of_mem_intDigits hmem)

theorem guarded_printNumber (number : Option Int) : Guarded (printNumber number) :=
  guarded_of_not_mem (not_mem_printNumber (by decide) number)

theorem firstAfter_printNumber (number : Option Int) :
    Text.FirstAfter separatorChars (printNumber number) := by
  have hbar : '|' ∉ printNumber number := not_mem_printNumber (by decide) number
  exact firstAfter_separator_iff.2 ⟨fun h => hbar (h.subset (by decide)),
    fun h => hbar (h.subset (by decide))⟩

end Numbers

theorem Printable.ofFields? (h : r.Printable) : ofFields? r.fields = some r := by
  rw [fields, Record.ofFields?, h.severityCode.leadingInt?, h.line.leadingInt?,
    h.column.leadingInt?]
  simp

theorem Printable.guarded (h : r.Printable) : ∀ f ∈ r.fields, Guarded f := by
  simp only [fields, List.forall_mem_cons]
  exact ⟨guarded_printNumber _, guarded_printNumber _, guarded_printNumber _, h.message.guarded,
    h.explanation.guarded, h.policy.guarded, by simp⟩

theorem getLast?_print (r : Record) : r.print.getLast? = some '~' := by
  rw [print, List.getLast?_append_of_ne_nil _ (by decide)]
  rfl

/-- Without the end marker the fields are left. -/
theorem Printable.body (h : r.Printable) :
    body r.print = Text.joinWith separatorChars r.fields := by
  have hlast : r.print.getLast? ≠ some '\r' := by rw [getLast?_print]; decide
  have hfirst := (guarded_joinWith h.guarded).firstAfter
  rw [Record.body, Text.dropOneEnd_of_ne hlast, print]
  simpa using Text.eraseFirst_of_firstAfter (by decide) hfirst []

/-- Splitting finds the separators that are between the fields. -/
theorem Printable.pieces (h : r.Printable) :
    Text.Pieces separatorChars (Text.joinWith separatorChars r.fields) r.fields := by
  refine Text.pieces_joinWith r.fields.dropLast ?_ h.policy.separator
  simp only [fields, List.dropLast, List.forall_mem_cons]
  exact ⟨firstAfter_printNumber _, firstAfter_printNumber _, firstAfter_printNumber _,
    firstAfter_separator_iff.2 ⟨h.message.separator, h.message_back⟩,
    firstAfter_separator_iff.2 ⟨h.explanation.separator, h.explanation_back⟩, by simp⟩

/-- The line of a record gives the record. -/
theorem Printable.ofLine? (h : r.Printable) : ofLine? r.print = some r := by
  rw [Record.ofLine?, h.body, (Text.splitOn_eq_iff (by decide)).2 h.pieces, h.ofFields?]

theorem Printable.not_mem_fields (h : r.Printable) : ∀ f ∈ r.fields, '\n' ∉ f := by
  simp only [fields, List.forall_mem_cons]
  exact ⟨not_mem_printNumber (by decide) _, not_mem_printNumber (by decide) _,
    not_mem_printNumber (by decide) _, h.message.line, h.explanation.line, h.policy.line, by simp⟩

/-- The line of a record is one line. -/
theorem Printable.not_mem_print (h : r.Printable) : '\n' ∉ r.print := by
  rw [print, List.mem_append, not_or]
  refine ⟨fun hmem => ?_, by decide⟩
  rcases Text.mem_joinWith hmem with hmem | ⟨f, hf, hmem⟩
  · exact absurd hmem (by decide)
  · exact h.not_mem_fields f hf hmem

end PerlLint.Record
