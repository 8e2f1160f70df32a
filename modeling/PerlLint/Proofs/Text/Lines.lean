import PerlLint.Text.Basic

/-!
# Lines

A sequence is a number of lines, each with a line feed after it, and a last one without
(`lines_induction`).  What `segments` and `lines` make of it is said line by line: `IsLines` says
without a scan which lines they are, and behind a line feed a sequence can be cut
(`segments_append`).

The characters at the end of a line that are dropped are counted off: a text is what is left
without them, and a number of them (`exists_eq_append_replicate`).
-/

namespace PerlLint.Text

/-! ## Segments -/

section Segments

variable {α : Type} [DecidableEq α] {lf : α} {l : List α}

theorem segmentsFrom_eq_append (lf : α) (done : List (List α)) (seg s : List α) :
    segmentsFrom lf done seg s = done.reverse ++ segmentsFrom lf [] seg s := by
  induction s generalizing done seg with
  | nil =>
      rw [segmentsFrom, segmentsFrom]
      split <;> simp
  | cons a s ih =>
      rw [segmentsFrom, segmentsFrom]
      split
      · rw [ih, ih [_]]
        simp
      · exact ih done _

theorem segmentsFrom_append (h : lf ∉ l) (done : List (List α)) (seg s : List α) :
    segmentsFrom lf done seg (l ++ s) = segmentsFrom lf done (l.reverse ++ seg) s := by
  induction l generalizing seg with
  | nil => rfl
  | cons a l ih =>
      obtain ⟨ha, hl⟩ : lf ≠ a ∧ lf ∉ l := by simpa using h
      rw [List.cons_append, segmentsFrom, if_neg ha.symm, ih hl]
      simp

@[simp] theorem segments_nil (lf : α) : segments lf [] = [] := rfl

theorem segments_of_not_mem (h : lf ∉ l) (hne : l ≠ []) : segments lf l = [l] := by
  have hl := segmentsFrom_append h [] [] []
  rw [List.append_nil] at hl
  rw [segments, hl]
  simp [segmentsFrom, hne]

theorem segments_append_cons (h : lf ∉ l) (s : List α) :
    segments lf (l ++ lf :: s) = (l ++ [lf]) :: segments lf s := by
  rw [segments, segmentsFrom_append h, segmentsFrom, if_pos rfl, segmentsFrom_eq_append]
  simp [segments]

/-- A sequence is lines with their line feeds, and a last line without. -/
@[elab_as_elim]
theorem lines_induction {P : List α → Prop} (lf : α) (nil : P [])
    (last : ∀ l, l ≠ [] → lf ∉ l → P l) (line : ∀ l s, lf ∉ l → P s → P (l ++ lf :: s))
    (s : List α) : P s := by
  -- The induction is on the length, since a line may be as long as one likes.
  induction hn : s.length using Nat.strongRecOn generalizing s with
  | ind n ih =>
      by_cases h : lf ∈ s
      · obtain ⟨l, rest, rfl, hl⟩ := List.eq_append_cons_of_mem h
        refine line l rest hl (ih rest.length ?_ rest rfl)
        rw [← hn, List.length_append, List.length_cons]
        omega
      · by_cases hne : s = []
        · exact hne ▸ nil
        · exact last s hne h

/-- Behind a line feed the sequence may be cut, and the parts have the segments of the whole. -/
theorem segments_append {s : List α} (h : s = [] ∨ s.getLast? = some lf) (t : List α) :
    segments lf (s ++ t) = segments lf s ++ segments lf t := by
  induction s using lines_induction lf with
  | nil => rfl
  | last l hne hl => exact absurd (List.mem_of_getLast? (h.resolve_left hne)) hl
  | line l s hl ih =>
      have hs : s = [] ∨ s.getLast? = some lf := by
        cases s with
        | nil => exact .inl rfl
        | cons a s =>
            right
            rw [← h.resolve_left (by simp), List.getLast?_append, List.getLast?_cons_cons]
            exact (Option.or_of_isSome (by simp)).symm
      rw [List.append_assoc, List.cons_append, segments_append_cons hl, segments_append_cons hl,
        ih hs, List.cons_append]

/-- The second list has the lines of the sequence: those up to a line feed, and what is left behind
the last one, if there is anything. -/
inductive IsLines (lf : α) : List α → List (List α) → Prop where
  | nil : IsLines lf [] []
  | last {l : List α} :
    l ≠ [] → lf ∉ l →
    IsLines lf l [l]
  | line {l s : List α} {ls : List (List α)} :
    lf ∉ l →
    IsLines lf s ls →
    IsLines lf (l ++ lf :: s) ((l ++ [lf]) :: ls)

theorem isLines_iff {s : List α} {ls : List (List α)} :
    IsLines lf s ls ↔ ls = segments lf s := by
  constructor
  · intro h
    induction h with
    | nil => rfl
    | last hne hl => exact (segments_of_not_mem hl hne).symm
    | line hl _ ih => rw [segments_append_cons hl, ih]
  · rintro rfl
    induction s using lines_induction lf with
    | nil => exact .nil
    | last l hne hl =>
        rw [segments_of_not_mem hl hne]
        exact .last hne hl
    | line l s hl ih =>
        rw [segments_append_cons hl]
        exact .line hl ih

end Segments

/-! ## Ends of lines -/

section Ends

variable {p : Char → Bool} {c : Char} {l x : List Char}

/-- A text is counted off from its end. -/
theorem exists_eq_append_replicate {α : Type} [DecidableEq α] (a : α) (l : List α) :
    ∃ x k, l = x ++ List.replicate k a ∧ x.getLast? ≠ some a := by
  suffices h : ∀ r : List α, ∃ x k, r.reverse = x ++ List.replicate k a ∧ x.getLast? ≠ some a by
    simpa using h l.reverse
  intro r
  induction r with
  | nil => exact ⟨[], 0, rfl, nofun⟩
  | cons b r ih =>
      by_cases hb : b = a
      · subst hb
        obtain ⟨x, k, hr, hx⟩ := ih
        exact ⟨x, k + 1, by rw [List.reverse_cons, hr, List.replicate_succ', List.append_assoc], hx⟩
      · exact ⟨r.reverse ++ [b], 0, by simp, by simpa using hb⟩

theorem lt_of_not_suffix {α : Type} {a : α} {x : List α} {k n : Nat}
    (h : ¬ List.replicate n a <:+ x ++ List.replicate k a) : k < n := by
  refine Nat.lt_of_not_le fun hk => ?_
  obtain ⟨j, rfl⟩ : ∃ j, k = j + n := ⟨k - n, by omega⟩
  exact h ⟨x ++ List.replicate j a, by rw [List.append_assoc, List.replicate_append_replicate]⟩

theorem dropOneEnd_of_ne (h : l.getLast? ≠ some c) : dropOneEnd c l = l := by
  rw [← List.head?_reverse] at h
  unfold dropOneEnd
  split
  case h_1 hnil => exact (List.reverse_eq_nil_iff.1 hnil).symm
  case h_2 d ds hcons =>
    rw [hcons, List.head?_cons] at h
    rw [if_neg fun hd => h (congrArg some hd)]

@[simp] theorem dropOneEnd_append_singleton (c : Char) (x : List Char) :
    dropOneEnd c (x ++ [c]) = x := by
  simp [dropOneEnd]

/-- Of the same characters at the end one less is left. -/
theorem dropOneEnd_append_replicate (h : x.getLast? ≠ some c) (k : Nat) :
    dropOneEnd c (x ++ List.replicate k c) = x ++ List.replicate (k - 1) c := by
  cases k with
  | zero =>
      rw [List.replicate_zero, List.append_nil]
      exact dropOneEnd_of_ne h
  | succ k => rw [List.replicate_succ', ← List.append_assoc, dropOneEnd_append_singleton]; rfl

theorem dropOneEnd_isPrefix (c : Char) (s : List Char) : dropOneEnd c s <+: s := by
  by_cases hs : s.getLast? = some c
  · obtain ⟨t, rfl⟩ := List.getLast?_eq_some_iff.1 hs
    rw [dropOneEnd_append_singleton]
    exact List.prefix_append t [c]
  · exact ⟨[], by rw [List.append_nil, dropOneEnd_of_ne hs]⟩

theorem dropOneEnd_subset (c : Char) (s : List Char) : dropOneEnd c s ⊆ s :=
  (dropOneEnd_isPrefix c s).subset

/-- Behind another character only the end counts. -/
theorem dropOneEnd_append (hx : x.getLast? ≠ some c) (s : List Char) :
    dropOneEnd c (x ++ s) = x ++ dropOneEnd c s := by
  by_cases hs : s.getLast? = some c
  · obtain ⟨t, rfl⟩ := List.getLast?_eq_some_iff.1 hs
    rw [← List.append_assoc, dropOneEnd_append_singleton, dropOneEnd_append_singleton]
  · have hlast : (x ++ s).getLast? ≠ some c := by
      rw [List.getLast?_append]
      cases hlast : s.getLast? with
      | none => simpa using hx
      | some d => simpa [hlast] using hs
    rw [dropOneEnd_of_ne hlast, dropOneEnd_of_ne hs]

theorem dropEnd_append (h : ∀ c ∈ l, p c) (x : List Char) : dropEnd p (x ++ l) = dropEnd p x := by
  rw [dropEnd, List.reverse_append, List.dropWhile_append_of_pos]
  · rfl
  · simpa using h

theorem dropEnd_of_getLast? (h : ∀ c, x.getLast? = some c → ¬ p c) : dropEnd p x = x := by
  rw [← List.head?_reverse] at h
  unfold dropEnd
  cases hr : x.reverse with
  | nil => exact (List.reverse_eq_nil_iff.1 hr).symm
  | cons d ds =>
      have hd : ¬ p d := h d (by rw [hr]; rfl)
      rw [List.dropWhile_cons_of_neg hd, ← hr, List.reverse_reverse]

/-- A text is as blank with blanks at its end as without. -/
theorem allBlank_dropEnd (h : ∀ c, p c → isBlank c) (x : List Char) :
    allBlank (dropEnd p x) = allBlank x := by
  have hdropped : (x.reverse.takeWhile p).all isBlank = true := by
    rw [List.all_eq_true]
    intro c hc
    exact h c (List.all_eq_true.1 List.all_takeWhile c hc)
  calc allBlank (dropEnd p x)
      = (x.reverse.dropWhile p).all isBlank := List.all_reverse
    _ = (x.reverse.takeWhile p ++ x.reverse.dropWhile p).all isBlank := by
        rw [List.all_append, hdropped, Bool.true_and]
    _ = allBlank x := by rw [List.takeWhile_append_dropWhile, List.all_reverse, allBlank]

/-- A line feed goes with one carriage return in front of it. -/
theorem chomp_append_singleton (l : List Char) : chomp (l ++ ['\n']) = dropOneEnd '\r' l := by
  have hrev : (l ++ ['\n']).reverse = '\n' :: l.reverse := by simp
  rw [chomp, hrev, dropOneEnd]
  cases hl : l.reverse with
  | nil => rfl
  | cons d ds =>
      by_cases hd : d = '\r'
      · subst hd
        rfl
      · have hback : l = (d :: ds).reverse := by rw [← hl, List.reverse_reverse]
        dsimp only
        rw [if_neg hd, hback]
        split
        case h_1 heq => exact absurd (by simpa using heq : d = '\r' ∧ _).1 hd
        case h_2 heq => rw [← List.tail_eq_of_cons_eq heq]
        case h_3 hno => exact absurd rfl (hno _)

theorem chomp_of_not_mem (h : '\n' ∉ l) : chomp l = l := by
  rw [← List.mem_reverse] at h
  unfold chomp
  split
  case h_1 heq => simp [heq] at h
  case h_2 heq => simp [heq] at h
  case h_3 => rfl

theorem lines_append_cons (h : '\n' ∉ l) (s : List Char) :
    lines (l ++ '\n' :: s) = dropOneEnd '\r' l :: lines s := by
  rw [lines, segments_append_cons h, List.map_cons, chomp_append_singleton]
  rfl

theorem lines_of_not_mem (h : '\n' ∉ l) (hne : l ≠ []) : lines l = [l] := by
  rw [lines, segments_of_not_mem h hne, List.map_cons, chomp_of_not_mem h]
  rfl

end Ends

end PerlLint.Text
