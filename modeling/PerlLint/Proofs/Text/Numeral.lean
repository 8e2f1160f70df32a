import PerlLint.Proofs.Text.Blank
import PerlLint.Text.Numeral

/-!
# Numerals

`HasNumber` says which number a text begins with, without reading it, and the reader gives just
this number (`leadingInt?_eq_some_iff`).  `IsNumber` says which number a text is
(`wholeInt?_eq_some_iff`): it has no blanks and nothing behind the digits.

A number that is written is read again, as long as its magnitude fits
(`leadingInt?_intDigits`).
-/

namespace PerlLint.Text

variable {n : Nat} {c : Char} {cs ds rest : List Char}

/-! ## Digits -/

theorem isDigit_iff : isDigit c ↔ 48 ≤ c.toNat ∧ c.toNat ≤ 57 := by
  simp [isDigit, Char.le_def, UInt32.le_iff_toNat_le]

theorem isDigit_of_mem_natDigits (h : c ∈ natDigits n) : isDigit c := by
  have hc := Nat.isDigit_of_mem_toDigits (by decide) (by decide) h
  simpa [Char.isDigit, isDigit, Char.le_def] using hc

theorem natDigits_ne_nil (n : Nat) : natDigits n ≠ [] := Nat.toDigits_ne_nil

theorem digitsValue_eq_ofDigitChars (ds : List Char) :
    digitsValue ds = Nat.ofDigitChars 10 ds 0 := Nat.ofDigitChars_eq_foldl.symm

theorem digitsValue_natDigits (n : Nat) : digitsValue (natDigits n) = n := by
  rw [digitsValue_eq_ofDigitChars]
  exact Nat.ofDigitChars_ten_toDigits

/-- With more digits a number does not get smaller. -/
theorem le_foldl_digitValue (ds : List Char) (n : Nat) :
    n ≤ ds.foldl (fun n d => 10 * n + digitValue d) n := by
  induction ds generalizing n with
  | nil => exact Nat.le_refl n
  | cons d ds ih =>
      have hrest := ih (10 * n + digitValue d)
      rw [List.foldl_cons]
      omega

/-- Digits up to a character that is none are what is taken. -/
theorem takeWhile_isDigit (hds : ∀ d ∈ ds, isDigit d)
    (hrest : ∀ c, rest.head? = some c → ¬ isDigit c) : (ds ++ rest).takeWhile isDigit = ds := by
  have hnone : rest.takeWhile isDigit = [] := by
    cases rest with
    | nil => rfl
    | cons c rest => exact List.takeWhile_cons_of_neg (hrest c rfl)
  rw [List.takeWhile_append_of_pos hds, hnone, List.append_nil]

theorem takeWhile_natDigits (n : Nat) : (natDigits n).takeWhile isDigit = natDigits n := by
  have h : (natDigits n ++ []).takeWhile isDigit = natDigits n :=
    takeWhile_isDigit (fun _ => isDigit_of_mem_natDigits) (by simp)
  rwa [List.append_nil] at h

/-- A digit is not blank. -/
theorem isBlank_of_isDigit (h : isDigit c) : isBlank c = false := by
  rw [isDigit_iff] at h
  simp [isBlank]
  omega

/-- A text begins with a sign, or nothing is split off. -/
theorem splitSign_cases (cs : List Char) :
    (∃ rest, cs = '-' :: rest ∧ splitSign cs = (true, rest)) ∨
    (∃ rest, cs = '+' :: rest ∧ splitSign cs = (false, rest)) ∨
    cs.head? ≠ some '-' ∧ cs.head? ≠ some '+' ∧ splitSign cs = (false, cs) := by
  unfold splitSign
  split
  case h_1 rest => exact .inl ⟨rest, rfl, rfl⟩
  case h_2 rest => exact .inr (.inl ⟨rest, rfl, rfl⟩)
  case h_3 hminus hplus =>
    refine .inr (.inr ⟨fun h => ?_, fun h => ?_, rfl⟩)
    · obtain ⟨rest, hrest⟩ := List.head?_eq_some_iff.1 h
      exact hminus rest hrest
    · obtain ⟨rest, hrest⟩ := List.head?_eq_some_iff.1 h
      exact hplus rest hrest

/-- Digits in front are no sign. -/
theorem splitSign_of_isDigit (h : isDigit c) (cs : List Char) :
    splitSign (c :: cs) = (false, c :: cs) := by
  obtain ⟨rest, hc, -⟩ | ⟨rest, hc, -⟩ | ⟨-, -, heq⟩ := splitSign_cases (c :: cs)
  · cases hc
    exact absurd h (by decide)
  · cases hc
    exact absurd h (by decide)
  · exact heq

/-! ## Numbers that texts begin with -/

/-- A sign in front of digits, and what it makes of their number. -/
inductive Sign : List Char → Int → Prop where
  | plus : Sign ['+'] 1
  | minus : Sign ['-'] (-1)
  | none : Sign [] 1

/-- A text begins with a number: blanks come first, then a sign, and then digits up to the first
character that is none.  The magnitude is at most 2^63 - 1. -/
inductive HasNumber : List Char → Int → Prop where
  | intro {blanks sign digits rest : List Char} {u : Int} :
    (∀ c ∈ blanks, isBlank c) →
    Sign sign u →
    digits ≠ [] →
    (∀ d ∈ digits, isDigit d) →
    (∀ c, rest.head? = some c → ¬ isDigit c) →
    Nat.ofDigitChars 10 digits 0 ≤ 9223372036854775807 →
    HasNumber (blanks ++ (sign ++ (digits ++ rest))) (u * Nat.ofDigitChars 10 digits 0)

theorem Sign.splitSign_eq {sign : List Char} {u : Int} (h : Sign sign u) (hc : isDigit c)
    (cs : List Char) : splitSign (sign ++ c :: cs) = (decide (u < 0), c :: cs) := by
  cases h with
  | plus => rfl
  | minus => rfl
  | none => exact splitSign_of_isDigit hc cs

theorem Sign.ite_eq {sign : List Char} {u : Int} (h : Sign sign u) (n : Int) :
    (if u < 0 then -n else n) = u * n := by
  cases h with
  | minus => simp
  | plus | none => simp

theorem Sign.not_isBlank {sign : List Char} {u : Int} (h : Sign sign u) (hc : isDigit c)
    (cs : List Char) : ∀ d, (sign ++ c :: cs).head? = some d → ¬ isBlank d := by
  intro d hd
  cases h with
  | plus =>
      cases hd
      decide
  | minus =>
      cases hd
      decide
  | none =>
      cases hd
      simp [isBlank_of_isDigit hc]

/-- What a sign is split off from is the sign and the rest. -/
theorem exists_sign (cs : List Char) :
    ∃ sign u rest, Sign sign u ∧ cs = sign ++ rest ∧ splitSign cs = (decide (u < 0), rest) := by
  obtain ⟨rest, hcs, heq⟩ | ⟨rest, hcs, heq⟩ | ⟨-, -, heq⟩ := splitSign_cases cs
  · exact ⟨['-'], -1, rest, .minus, hcs, heq⟩
  · exact ⟨['+'], 1, rest, .plus, hcs, heq⟩
  · exact ⟨[], 1, cs, .none, rfl, heq⟩

/-- A text is cut after its leading digits. -/
theorem exists_digits (cs : List Char) :
    ∃ ds rest, (∀ d ∈ ds, isDigit d) ∧ (∀ c, rest.head? = some c → ¬ isDigit c) ∧
      cs = ds ++ rest ∧ cs.takeWhile isDigit = ds := by
  obtain ⟨ds, rest, hdigits, hrest, hcs, htake, -⟩ := exists_cut isDigit cs
  exact ⟨ds, rest, hdigits, hrest, hcs, htake⟩

/-- The reader reads the number that the text begins with. -/
theorem leadingInt?_eq_some_iff {s : List Char} {n : Int} :
    leadingInt? s = some n ↔ HasNumber s n := by
  constructor
  · intro h
    obtain ⟨blanks, cs, hblanks, -, rfl, htrim⟩ := exists_blanks s
    obtain ⟨sign, u, cs', hsign, rfl, hsplit⟩ := exists_sign cs
    obtain ⟨ds, rest, hdigits, hrest, rfl, htake⟩ := exists_digits cs'
    rw [leadingInt?, htrim, hsplit] at h
    dsimp only at h
    rw [htake, digitsValue_eq_ofDigitChars] at h
    split at h
    case isTrue => cases h
    case isFalse hne =>
      split at h
      case isFalse => cases h
      case isTrue hbound =>
        simp only [decide_eq_true_eq, hsign.ite_eq, Option.some.injEq] at h
        subst h
        exact .intro hblanks hsign (by simpa using hne) hdigits hrest (Nat.le_of_lt_succ hbound)
  · intro h
    cases h with
    | @intro blanks sign ds rest u hblanks hsign hne hdigits hrest hbound =>
        obtain ⟨d, ds, rfl⟩ := List.exists_cons_of_ne_nil hne
        have hd : isDigit d := hdigits d (.head ds)
        have hbound' : Nat.ofDigitChars 10 (d :: ds) 0 < wordBound := Nat.lt_succ_of_le hbound
        rw [leadingInt?, List.cons_append, trimStart_append hblanks (hsign.not_isBlank hd _),
          hsign.splitSign_eq hd]
        dsimp only
        rw [← List.cons_append, takeWhile_isDigit hdigits hrest, digitsValue_eq_ofDigitChars,
          if_pos hbound']
        simp [hsign.ite_eq]

/-- The greatest magnitude read is 2^63 - 1. -/
example : leadingInt? "9223372036854775807".toList = some 9223372036854775807
    ∧ leadingInt? "-9223372036854775808".toList = none := by decide +kernel

/-! ## Numbers that texts are -/

/-- A text is a number: a sign, and then only digits.  The number has a signed word of 64 bits. -/
inductive IsNumber : List Char → Int → Prop where
  | intro {sign digits : List Char} {u : Int} :
    Sign sign u →
    digits ≠ [] →
    (∀ d ∈ digits, isDigit d) →
    -9223372036854775808 ≤ u * Nat.ofDigitChars 10 digits 0 →
    u * Nat.ofDigitChars 10 digits 0 ≤ 9223372036854775807 →
    IsNumber (sign ++ digits) (u * Nat.ofDigitChars 10 digits 0)

/-- Digits behind a sign are a number if it has a word. -/
theorem Sign.wholeInt?_eq {sign : List Char} {u : Int} (h : Sign sign u) (hne : ds ≠ [])
    (hds : ∀ d ∈ ds, isDigit d) (n : Int) :
    wholeInt? (sign ++ ds) = some n ↔
      u * Nat.ofDigitChars 10 ds 0 = n ∧ -9223372036854775808 ≤ n ∧ n ≤ 9223372036854775807 := by
  obtain ⟨d, ds, rfl⟩ := List.exists_cons_of_ne_nil hne
  have hall : (d :: ds).all isDigit = true := List.all_eq_true.2 hds
  have hbound : wordBound = 9223372036854775808 := rfl
  rw [wholeInt?, h.splitSign_eq (hds d (.head ds))]
  dsimp only
  rw [hall, digitsValue_eq_ofDigitChars]
  generalize Nat.ofDigitChars 10 (d :: ds) 0 = value
  -- What is left to show is that the bound on the magnitude is the one on the number.
  cases h with
  | plus | none =>
      simp only [List.isEmpty_cons, Bool.not_true, Bool.or_self, Bool.false_eq_true, if_false,
        Int.reduceLT, decide_false, Option.ite_none_right_eq_some, Option.some.injEq, Int.one_mul]
      omega
  | minus =>
      simp only [List.isEmpty_cons, Bool.not_true, Bool.or_self, Bool.false_eq_true, if_false,
        Int.reduceNeg, Int.reduceLT, decide_true, if_true, Option.ite_none_right_eq_some,
        Option.some.injEq, Int.neg_one_mul]
      omega

/-- The reader reads the number that the text is. -/
theorem wholeInt?_eq_some_iff {s : List Char} {n : Int} :
    wholeInt? s = some n ↔ IsNumber s n := by
  constructor
  · intro h
    obtain ⟨sign, u, ds, hsign, rfl, hsplit⟩ := exists_sign s
    have hdigits : ds ≠ [] ∧ ∀ d ∈ ds, isDigit d := by
      rw [wholeInt?, hsplit] at h
      dsimp only at h
      split at h
      case isTrue => cases h
      case isFalse hgood => simpa using hgood
    obtain ⟨rfl, hmin, hmax⟩ := (hsign.wholeInt?_eq hdigits.1 hdigits.2 n).1 h
    exact .intro hsign hdigits.1 hdigits.2 hmin hmax
  · intro h
    cases h with
    | intro hsign hne hds hmin hmax =>
        exact (hsign.wholeInt?_eq hne hds _).2 ⟨rfl, hmin, hmax⟩

/-! ## Numbers that are written -/

/-- Digits in front are no sign. -/
theorem splitSign_natDigits (n : Nat) : splitSign (natDigits n) = (false, natDigits n) := by
  obtain ⟨d, ds, hd⟩ := List.exists_cons_of_ne_nil (natDigits_ne_nil n)
  rw [hd]
  exact splitSign_of_isDigit (isDigit_of_mem_natDigits (n := n) (hd ▸ .head _)) ds

theorem trimStart_intDigits (n : Int) : trimStart (intDigits n) = intDigits n := by
  cases n with
  | ofNat n =>
      obtain ⟨d, ds, hd⟩ := List.exists_cons_of_ne_nil (natDigits_ne_nil n)
      have hdigit : isDigit d := isDigit_of_mem_natDigits (n := n) (hd ▸ .head _)
      rw [intDigits, hd, trimStart, dropStart,
        List.dropWhile_cons_of_neg (by simp [isBlank_of_isDigit hdigit])]
  | negSucc n => rfl

theorem splitSign_intDigits (n : Int) :
    splitSign (intDigits n) = (decide (n < 0), natDigits n.natAbs) := by
  cases n with
  | ofNat n =>
      rw [intDigits, splitSign_natDigits]
      simp
  | negSucc n =>
      rw [intDigits, splitSign, Int.natAbs_negSucc, decide_eq_true (Int.negSucc_lt_zero n)]

/-- A number that is written is read, unless it is too large. -/
theorem leadingInt?_intDigits {n : Int} (h : n.natAbs < wordBound) :
    leadingInt? (intDigits n) = some n := by
  have hne : (natDigits n.natAbs).isEmpty = false := by simp [natDigits_ne_nil]
  rw [leadingInt?, trimStart_intDigits, splitSign_intDigits]
  dsimp only
  rw [takeWhile_natDigits, hne, digitsValue_natDigits]
  simp only [Bool.false_eq_true, if_false, if_pos h, decide_eq_true_eq, Option.some.injEq]
  split <;> omega

/-- A number has no other characters than digits and a minus sign. -/
theorem isDigit_of_mem_intDigits {n : Int} (h : c ∈ intDigits n) : isDigit c ∨ c = '-' := by
  cases n with
  | ofNat n => exact .inl (isDigit_of_mem_natDigits h)
  | negSucc n =>
      rcases List.mem_cons.1 h with rfl | h
      · exact .inr rfl
      · exact .inl (isDigit_of_mem_natDigits h)

end PerlLint.Text
