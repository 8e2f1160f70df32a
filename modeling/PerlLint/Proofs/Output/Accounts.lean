import PerlLint.Proofs.Output.Reader
import PerlLint.Proofs.Text.Split

/-!
# Every line is accounted for

Three things can become of a line.  A blank line leaves no trace, a record is kept, and anything
else is counted as discarded.  `Accounts` has one rule for each, and no two of them fit the same
line: a blank line is no record, since a record has separators (`recordOn?_of_blank`), and
whether a line is blank does not depend on its end (`allBlank_lineText`).

So the records that a stream gives and the number of its discarded lines account for all its lines,
and together they are as many as the lines that are not blank (`Accounts.length_add`).  Streams
that are cut behind a line feed are accounted for one by one.
-/

namespace PerlLint

/-! ## Blank lines -/

/-- A record has separators. -/
theorem Record.ofLine?_of_not_mem {line : List Char} (h : '~' ∉ line) :
    Record.ofLine? line = none := by
  have hbody : '~' ∉ Record.body line := fun hmem =>
    h (Text.dropOneEnd_subset '\r' line (Text.eraseFirst_subset (by decide) _ hmem))
  have habsent : ¬ separatorChars <:+: Record.body line := fun hsep =>
    hbody (hsep.subset (by decide))
  rw [Record.ofLine?, (Text.splitOn_eq_iff (by decide)).2 (.last habsent)]
  rfl

namespace Output

open Text.Utf8 (decodeLossy)

variable {line : List UInt8} {lines lines' : List (List UInt8)} {rs rs' : List Record} {n n' : Nat}

/-- Nothing but blanks is on the line. -/
def isBlankLine (line : List UInt8) : Bool := Text.allBlank (decodeLossy line)

/-- The end of a line is blank. -/
theorem allBlank_lineText (line : List UInt8) :
    Text.allBlank (lineText line) = isBlankLine line := by
  apply Text.allBlank_dropEnd
  intro c hc
  rcases isLineEnd_iff.1 hc with rfl | rfl <;> rfl

theorem recordOn?_of_blank (h : isBlankLine line) : recordOn? line = none := by
  apply Record.ofLine?_of_not_mem
  intro hmem
  rw [← allBlank_lineText, Text.allBlank, List.all_eq_true] at h
  exact absurd (h '~' hmem) (by decide)

/-! ## Accounts -/

/-- The records and the number are what becomes of the lines, each of which counts once. -/
inductive Accounts : List (List UInt8) → List Record → Nat → Prop where
  | nil : Accounts [] [] 0
  | blank {line : List UInt8} {lines : List (List UInt8)} {rs : List Record} {n : Nat} :
    isBlankLine line →
    Accounts lines rs n →
    Accounts (line :: lines) rs n
  | kept {line : List UInt8} {lines : List (List UInt8)} {r : Record} {rs : List Record} {n : Nat} :
    ¬ isBlankLine line →
    recordOn? line = some r →
    Accounts lines rs n →
    Accounts (line :: lines) (r :: rs) n
  | discarded {line : List UInt8} {lines : List (List UInt8)} {rs : List Record} {n : Nat} :
    ¬ isBlankLine line →
    recordOn? line = none →
    Accounts lines rs n →
    Accounts (line :: lines) rs (n + 1)

/-- What is kept and what is discarded are together as many as the lines that are not blank. -/
theorem Accounts.length_add (h : Accounts lines rs n) :
    rs.length + n = lines.countP fun line => !isBlankLine line := by
  induction h with
  | nil => rfl
  | blank hblank _ ih => rw [ih, List.countP_cons_of_neg (by simp [hblank])]
  | kept hblank _ _ ih =>
      rw [List.countP_cons_of_pos (by simp [hblank]), ← ih, List.length_cons]
      omega
  | discarded hblank _ _ ih =>
      rw [List.countP_cons_of_pos (by simp [hblank]), ← ih]
      omega

/-- The output of some lines accounts for them. -/
theorem accounts_lines (lines : List (List UInt8)) :
    Accounts lines (lines.filterMap recordOn?) (lines.countP isDiscarded) := by
  induction lines with
  | nil => exact .nil
  | cons line lines ih =>
      have hdiscarded : isDiscarded line = ((recordOn? line).isNone && !isBlankLine line) := by
        rw [isDiscarded, allBlank_lineText]
      rw [List.filterMap_cons, List.countP_cons, hdiscarded]
      by_cases hblank : isBlankLine line
      · simpa [recordOn?_of_blank hblank, hblank] using Accounts.blank hblank ih
      · cases hrecord : recordOn? line with
        | some r => simpa using Accounts.kept hblank hrecord ih
        | none => simpa [hblank] using Accounts.discarded hblank hrecord ih

/-! ## Streams -/

theorem accounts_collect (chunks : List (List UInt8)) :
    Accounts (Text.segments 10 chunks.flatten) (collect chunks).records
      (collect chunks).discarded := by
  rw [collect_eq]
  exact accounts_lines _

/-- Behind a line feed a stream can be cut, and its parts are read one by one. -/
theorem collect_append {chunks front back : List (List UInt8)}
    (hend : front.flatten = [] ∨ front.flatten.getLast? = some 10)
    (hchunks : chunks.flatten = front.flatten ++ back.flatten) :
    (collect chunks).records = (collect front).records ++ (collect back).records ∧
    (collect chunks).discarded = (collect front).discarded + (collect back).discarded := by
  rw [collect_eq, collect_eq, collect_eq, hchunks, Text.segments_append hend]
  exact ⟨List.filterMap_append, List.countP_append⟩

/-- However a stream comes, it is cut into lines in one way, and its output accounts for each of
them: for as many in all as are not blank.  If it is cut behind a line feed, the output is that of
both parts. -/
theorem collect_accounts (chunks : List (List UInt8)) :
    (∀ front back : List (List UInt8),
      (front.flatten = [] ∨ front.flatten.getLast? = some 10) →
      chunks.flatten = front.flatten ++ back.flatten →
      (collect chunks).records = (collect front).records ++ (collect back).records ∧
      (collect chunks).discarded = (collect front).discarded + (collect back).discarded) ∧
    ∃ lines, (∀ lines', Text.IsLines 10 chunks.flatten lines' ↔ lines' = lines) ∧
      Accounts lines (collect chunks).records (collect chunks).discarded ∧
      (collect chunks).records.length + (collect chunks).discarded
        = lines.countP fun line => !isBlankLine line := by
  refine ⟨fun front back hend hchunks => collect_append hend hchunks, ?_⟩
  have haccounts := accounts_collect chunks
  exact ⟨_, fun lines' => Text.isLines_iff, haccounts, haccounts.length_add⟩

/-- A line with a record, in two parts. -/
def recordLine : List (List UInt8) := [Text.Utf8.encode sampleRecord.print, [0x0D, 0x0A]]

/-- A blank line, and the beginning of another one. -/
def otherLines : List (List UInt8) := [[0x20], [0x0A, 0x78]]

/-- Of three lines one is kept, one is blank and one is discarded. -/
theorem collect_accounts_threeLines :
    let chunks := recordLine ++ otherLines
    recordLine.flatten.getLast? = some 10 ∧
    (collect chunks).records = (collect recordLine).records ++ (collect otherLines).records ∧
    (collect chunks).discarded = (collect recordLine).discarded + (collect otherLines).discarded ∧
    (collect chunks).records = [sampleRecord] ∧ (collect chunks).discarded = 1 := by
  have hend : recordLine.flatten.getLast? = some 10 := by decide +kernel
  obtain ⟨hrecords, hdiscarded⟩ := (collect_accounts (recordLine ++ otherLines)).1 recordLine
    otherLines (.inr hend) List.flatten_append
  exact ⟨hend, hrecords, hdiscarded, by decide +kernel, by decide +kernel⟩

end Output

end PerlLint
