import PerlLint.Proofs.Diagnostic.FixedWidth
import PerlLint.Proofs.Record.Marker

/-!
# What becomes of the numbers of a record

The first three fields of a record are texts in which anything may stand.  `Scored` says which tier
the first of them means, and `Shown` which line or column is shown for each of the other two.  Both
go by the number that the text begins with, if there is one.

`numbers_exact` says that diagnostics go by these rules, and that words of fixed width are enough to
compute what they hold.  For the number 2^32 there is no rule: it has no word where it is shown.
-/

namespace PerlLint

open Text (HasNumber leadingInt?_eq_some_iff)

variable {s l c m e p line b : List Char}

/-! ## Rules -/

/-- What is shown for the text of a line or column. -/
inductive Shown (s : List Char) : Nat → Prop where
  | number {n : Nat} :
    HasNumber s n →
    1 ≤ n →
    n < 4294967296 →
    Shown s n
  | first :
    (∀ n, HasNumber s n → n ≤ 0 ∨ 4294967296 < n) →
    Shown s 1

/-- The tier for the text of a score. -/
inductive Scored (s : List Char) : Tier → Prop where
  | cruel : HasNumber s 2 → Scored s .cruel
  | harsh : HasNumber s 3 → Scored s .harsh
  | stern : HasNumber s 4 → Scored s .stern
  | gentle : HasNumber s 5 → Scored s .gentle
  | brutal : (∀ n, HasNumber s n → n < 2 ∨ 5 < n) → Scored s .brutal

/-- For each text but one there is a rule, and it gives what is counted from 0, and one more. -/
theorem shown_iff (s : List Char) (k : Nat) :
    Shown s k ↔ zeroBased (Text.leadingInt? s) + 1 = k ∧ ¬ HasNumber s 4294967296 := by
  have hbound : positionBound = 4294967296 := rfl
  constructor
  · intro h
    cases h with
    | number hn hpos hlt =>
        rw [← leadingInt?_eq_some_iff] at hn ⊢
        rw [hn, zeroBased, if_pos (by omega), Option.some.injEq]
        omega
    | first h =>
        refine ⟨?_, fun hlast => by have := h _ hlast; omega⟩
        cases hread : Text.leadingInt? s with
        | none => rfl
        | some n =>
            have hn := h n (leadingInt?_eq_some_iff.1 hread)
            rw [zeroBased, if_neg (by omega)]
  · rintro ⟨rfl, hlast⟩
    cases hread : Text.leadingInt? s with
    | none =>
        refine .first fun n hn => ?_
        rw [leadingInt?_eq_some_iff.2 hn] at hread
        cases hread
    | some n =>
        rw [← leadingInt?_eq_some_iff, hread, Option.some.injEq] at hlast
        rw [zeroBased]
        split
        case isTrue h =>
          refine .number ?_ (by omega) (by omega)
          rw [← leadingInt?_eq_some_iff, hread, Option.some.injEq]
          omega
        case isFalse h =>
          refine .first fun k hk => ?_
          rw [← leadingInt?_eq_some_iff, hread, Option.some.injEq] at hk
          omega

/-- For each text there is one tier. -/
theorem scored_iff (s : List Char) (t : Tier) :
    Scored s t ↔ Tier.ofCode? (Text.leadingInt? s) = t := by
  constructor
  · intro h
    cases h with
    | cruel h | harsh h | stern h | gentle h =>
        rw [leadingInt?_eq_some_iff.2 h]
        rfl
    | brutal h =>
        cases hread : Text.leadingInt? s with
        | none => rfl
        | some n =>
            have hn := h n (leadingInt?_eq_some_iff.1 hread)
            rw [Tier.ofCode?, Tier.ofCode, if_neg (by omega), if_neg (by omega),
              if_neg (by omega), if_neg (by omega)]
  · rintro rfl
    have hread : ∀ n, HasNumber s n ↔ Text.leadingInt? s = some n := fun n =>
      leadingInt?_eq_some_iff.symm
    cases hs : Text.leadingInt? s with
    | none => exact .brutal fun n hn => by simp [hread, hs] at hn
    | some n =>
        rw [Tier.ofCode?, Tier.ofCode]
        split
        case isTrue h => exact .gentle ((hread 5).2 (h ▸ hs))
        split
        case isTrue h => exact .stern ((hread 4).2 (h ▸ hs))
        split
        case isTrue h => exact .harsh ((hread 3).2 (h ▸ hs))
        split
        case isTrue h => exact .cruel ((hread 2).2 (h ▸ hs))
        case isFalse =>
          refine .brutal fun k hk => ?_
          rw [hread, hs, Option.some.injEq] at hk
          omega

/-! ## Diagnostics of lines -/

/-- A line or column for the text of a field: what is counted from 0 is computed in words without a
fault, and what is shown follows the rule, and is computed without a fault, too. -/
structure Reported (s : List Char) (start display : Nat) : Prop where
  start : UInt32.toNat <$> FixedWidth.start s = .ok start
  shown : ∀ k, Shown s k ↔ display = k ∧ ¬ HasNumber s 4294967296
  display : ¬ HasNumber s 4294967296 → UInt32.toNat <$> FixedWidth.shown s = .ok display

theorem reported (s : List Char) :
    Reported s (zeroBased (Text.leadingInt? s)) (zeroBased (Text.leadingInt? s) + 1) where
  start := FixedWidth.start_eq s
  shown := shown_iff s
  display h := by
    rw [FixedWidth.shown_eq, if_neg (mt leadingInt?_eq_some_iff.1 h)]

/-- The diagnostic of a line goes by the numbers that its first three fields begin with.  Computing
them in words never faults, and gives the same numbers. -/
theorem numbers_exact (cfg : Config) (hbody : Record.IsBody line b)
    (hfields : Record.SixFields b [s, l, c, m, e, p]) :
    ∃ r d, Record.ofLine? line = some r ∧ d = Diagnostic.ofRecord cfg r ∧
      Reported l d.range.start.line d.displayLine ∧
      Reported c d.range.start.column d.displayColumn ∧
      (∀ t, Scored s t ↔ d.tier = t) ∧
      Option.map Int64.toInt <$> FixedWidth.leading? s = .ok r.severityCode := by
  obtain rfl := Record.isBody_iff.1 hbody
  exact ⟨_, _, hfields.ofLine?_eq, rfl, reported l, reported c, scored_iff s,
    FixedWidth.leading?_eq s⟩

/-- The line has no word, and the column is the greatest one that there is.  Characters beyond ASCII
stand around the numbers. -/
def edgeFields : List (List Char) :=
  ["\u3000+0004é".toList, "-9223372036854775808".toList, " 4294967295\u0663".toList, "m".toList,
    "e".toList, "p".toList]

theorem numbers_exact_edgeFields :
    Record.SixFields (Text.joinWith separatorChars edgeFields) edgeFields ∧
    ∃ r d, Record.ofLine? (Text.joinWith separatorChars edgeFields ++ markerChars) = some r ∧
      d = Diagnostic.ofRecord .standard r ∧
      d.displayLine = 1 ∧ d.displayColumn = 4294967295 ∧ d.tier = .stern := by
  have hbody : Record.IsBody (Text.joinWith separatorChars edgeFields ++ markerChars)
      (Text.joinWith separatorChars edgeFields) := Record.isBody_iff.2 (by decide +kernel)
  have hfields : Record.SixFields (Text.joinWith separatorChars edgeFields) edgeFields :=
    ⟨by decide, rfl, by decide +kernel, by decide +kernel⟩
  obtain ⟨r, d, hr, hd, hline, hcolumn, htier, -⟩ := numbers_exact .standard hbody hfields
  have hl : Shown "-9223372036854775808".toList 1 :=
    (shown_iff _ _).2 ⟨by decide +kernel, by
      rw [← leadingInt?_eq_some_iff]
      decide +kernel⟩
  have hc : Shown " 4294967295\u0663".toList 4294967295 :=
    .number (leadingInt?_eq_some_iff.1 (by decide +kernel)) (by decide) (by decide)
  have hs : Scored "\u3000+0004é".toList .stern :=
    .stern (leadingInt?_eq_some_iff.1 (by decide +kernel))
  exact ⟨hfields, r, d, hr, hd, ((hline.shown 1).1 hl).1, ((hcolumn.shown _).1 hc).1,
    (htier _).1 hs⟩

end PerlLint
