import Mathlib.Data.List.Basic
import PerlLint.Proofs.Text.Lines

/-!
# Blanks around a text

A text is cut in three: the blanks in front, the blanks at the end, and what is between them, which
neither begins nor ends with a blank.  If there is nothing between them, it does not matter where the
blanks are cut.  `Trimmed` says this without scanning the text, and trimming gives the part in the
middle (`trimmed_iff`).
-/

namespace PerlLint.Text

variable {s cs mid blanks : List Char}

/-! ## Cutting -/

theorem trimStart_append (hblanks : ∀ c ∈ blanks, isBlank c)
    (hcs : ∀ c, cs.head? = some c → ¬ isBlank c) : trimStart (blanks ++ cs) = cs := by
  rw [trimStart, dropStart, List.dropWhile_append_of_pos hblanks]
  cases cs with
  | nil => rfl
  | cons c cs => exact List.dropWhile_cons_of_neg (hcs c rfl)

/-- A text is cut before its first character that fails `p`. -/
theorem exists_cut (p : Char → Bool) (s : List Char) :
    ∃ front back, (∀ c ∈ front, p c) ∧ (∀ c, back.head? = some c → ¬ p c) ∧ s = front ++ back ∧
      s.takeWhile p = front ∧ s.dropWhile p = back := by
  refine ⟨s.takeWhile p, s.dropWhile p, List.all_eq_true.1 List.all_takeWhile, ?_,
    List.takeWhile_append_dropWhile.symm, rfl, rfl⟩
  intro c hc
  have hhead := List.head?_dropWhile_not p s
  simpa [hc] using hhead

/-- A text is cut after its leading blanks. -/
theorem exists_blanks (s : List Char) :
    ∃ blanks cs, (∀ c ∈ blanks, isBlank c) ∧ (∀ c, cs.head? = some c → ¬ isBlank c) ∧
      s = blanks ++ cs ∧ trimStart s = cs := by
  obtain ⟨blanks, cs, hblanks, hcs, hs, -, hdrop⟩ := exists_cut isBlank s
  exact ⟨blanks, cs, hblanks, hcs, hs, hdrop⟩

/-- A text is cut before its trailing blanks. -/
theorem exists_trailing_blanks (s : List Char) :
    ∃ cs blanks, (∀ c ∈ blanks, isBlank c) ∧ (∀ c, cs.getLast? = some c → ¬ isBlank c) ∧
      s = cs ++ blanks ∧ trimEnd s = cs := by
  obtain ⟨blanks, cs, hblanks, hcs, hs, htrim⟩ := exists_blanks s.reverse
  refine ⟨cs.reverse, blanks.reverse, ?_, ?_, ?_, ?_⟩
  · simpa using hblanks
  · simpa using hcs
  · rw [← List.reverse_append, ← hs, List.reverse_reverse]
  · rw [← htrim]
    rfl

/-! ## Trimming -/

/-- The second text is the first one without the blanks at its two ends. -/
inductive Trimmed : List Char → List Char → Prop where
  | intro {front mid back : List Char} :
    (∀ c ∈ front, isBlank c) →
    (∀ c ∈ back, isBlank c) →
    (∀ c, mid.head? = some c → ¬ isBlank c) →
    (∀ c, mid.getLast? = some c → ¬ isBlank c) →
    Trimmed (front ++ (mid ++ back)) mid

theorem trim_append {front back : List Char} (hfront : ∀ c ∈ front, isBlank c)
    (hback : ∀ c ∈ back, isBlank c) (hhead : ∀ c, mid.head? = some c → ¬ isBlank c)
    (hlast : ∀ c, mid.getLast? = some c → ¬ isBlank c) : trim (front ++ (mid ++ back)) = mid := by
  cases mid with
  | nil =>
      -- All of the text is blank, and nothing is left for the end.
      have hall : ∀ c ∈ front ++ back, isBlank c := by
        intro c hc
        exact (List.mem_append.1 hc).elim (hfront c) (hback c)
      have hstart : trimStart (front ++ back) = [] := by
        rw [← List.append_nil (front ++ back)]
        exact trimStart_append hall nofun
      rw [List.nil_append, trim, hstart]
      rfl
  | cons c mid =>
      have hstart : trimStart (front ++ (c :: mid ++ back)) = c :: mid ++ back :=
        trimStart_append hfront hhead
      rw [trim, hstart, trimEnd, dropEnd_append hback]
      exact dropEnd_of_getLast? hlast

/-- Trimming leaves what is between the blanks. -/
theorem trimmed_iff : Trimmed s mid ↔ mid = trim s := by
  constructor
  · intro h
    cases h with
    | intro hfront hback hhead hlast => exact (trim_append hfront hback hhead hlast).symm
  · rintro rfl
    obtain ⟨front, cs, hfront, hhead, hs, hstart⟩ := exists_blanks s
    obtain ⟨mid, back, hback, hlast, rfl, hend⟩ := exists_trailing_blanks cs
    have hmid : trim s = mid := by rw [trim, hstart, hend]
    rw [hmid, hs]
    refine .intro hfront hback ?_ hlast
    intro c hc
    apply hhead c
    rw [List.head?_append, hc]
    rfl

end PerlLint.Text
