import Mathlib.Tactic.IntervalCases
import PerlLint.Proofs.Json.Spacing
import PerlLint.Proofs.Text.Numeral

/-!
# Numbers as tokens

A natural number that fits 64 bits is a token that the scanner knows (`legible_nat`): its digits are
read up to what ends them, and they have the value that was written.

A zero in front of other digits would be a token of its own, and one in front of an `x` would make
the number hexadecimal.  So it counts that no number but zero begins with a zero.
-/

namespace PerlLint

namespace Text

variable {n : Nat} {c : Char}

theorem natDigits_of_le (h : 10 ≤ n) :
    natDigits n = natDigits (n / 10) ++ [Nat.digitChar (n % 10)] :=
  Nat.toDigits_of_base_le (by decide) h

/-- A number does not begin with a zero, unless it is zero. -/
theorem head?_natDigits_ne (h : n ≠ 0) : (natDigits n).head? ≠ some '0' := by
  induction n using Nat.strongRecOn with
  | ind n ih =>
      rcases Nat.lt_or_ge n 10 with hlt | hge
      · have hdigits : ∀ d < 10, d ≠ 0 → (Nat.toDigits 10 d).head? ≠ some '0' := by decide
        exact hdigits n hlt h
      · rw [natDigits_of_le hge, List.head?_append_of_ne_nil _ (natDigits_ne_nil _)]
        exact ih (n / 10) (by omega) (by omega)

theorem mem_digits_of_isDigit (h : isDigit c) :
    c ∈ ['0', '1', '2', '3', '4', '5', '6', '7', '8', '9'] := by
  rw [isDigit_iff] at h
  obtain ⟨h1, h2⟩ := h
  rw [← Char.ofNat_toNat c]
  interval_cases c.toNat <;> decide

end Text

namespace Json

/-- Digits are taken into a number as long as it stays below the bound. -/
theorem Numeral.absorb_eq {m : Nat} {ds : List Char}
    (h : ds.foldl (fun n d => 10 * n + Text.digitValue d) m < digitBound) :
    absorb m ds = (ds.foldl (fun n d => 10 * n + Text.digitValue d) m, []) := by
  induction ds generalizing m with
  | nil => rfl
  | cons d ds ih =>
      have hm := Text.le_foldl_digitValue ds (10 * m + Text.digitValue d)
      rw [List.foldl_cons] at h ⊢
      rw [absorb, if_pos (by omega), ih h]

theorem Numeral.toNumber?_natDigits {n : Nat} (h : n < digitBound) :
    (Numeral.mk false (Text.natDigits n) none none).toNumber? = some (.int n) := by
  have hvalue : (Text.natDigits n).foldl (fun n d => 10 * n + Text.digitValue d) 0 = n :=
    Text.digitsValue_natDigits n
  have habsorb : absorb 0 (Text.natDigits n) = (n, []) := by
    rw [absorb_eq (by rwa [hvalue]), hvalue]
  simp only [toNumber?, habsorb]
  rfl

variable {rest : List Char}

/-- What ends a number is no part of one. -/
theorem isDelimiter_of_part : ∀ c ∈ ['0', '1', '2', '3', '4', '5', '6', '7', '8', '9', '.', 'e',
    'E', 'x', 'X'], isDelimiter c = false := by
  intro c hc
  simp only [List.mem_cons, List.not_mem_nil, or_false] at hc
  rcases hc with rfl | rfl | rfl | rfl | rfl | rfl | rfl | rfl | rfl | rfl | rfl | rfl | rfl | rfl |
    rfl
  all_goals rfl

theorem Delimited.head_ne (h : Delimited rest) {c : Char} {cs : List Char} (hrest : rest = c :: cs)
    {d : Char} (hd : isDelimiter d = false) : c ≠ d := by
  rintro rfl
  subst hrest
  rw [h c rfl] at hd
  cases hd

theorem scanExponent_of_delimited (h : Delimited rest) (used : Nat) :
    scanExponent used rest = .ok none := by
  cases rest with
  | nil => rfl
  | cons c cs =>
      have he : c ≠ 'e' := h.head_ne rfl (by decide)
      have hE : c ≠ 'E' := h.head_ne rfl (by decide)
      rw [scanExponent, if_neg (by simp [he, hE])]

theorem scanDecimal_of_delimited (h : Delimited rest) (negative : Bool) (ds : List Char) :
    scanDecimal (ds ++ rest) negative ds ds.length rest
      = .some (.number ds (decimalNumber ds ⟨negative, ds, none, none⟩)) ds.length := by
  have hdot : ∀ cs, rest ≠ '.' :: cs := fun cs hrest => h.head_ne hrest (by decide) rfl
  unfold scanDecimal
  split
  case h_1 cs => exact absurd rfl (hdot cs)
  case h_2 =>
    dsimp only
    rw [scanExponent_of_delimited h]
    simp

theorem takeWhile_isDigit_append (h : Delimited rest) {ds : List Char}
    (hds : ∀ c ∈ ds, Text.isDigit c) : (ds ++ rest).takeWhile Text.isDigit = ds := by
  refine Text.takeWhile_isDigit hds fun c hc hdigit => ?_
  have hd : isDelimiter c = false :=
    isDelimiter_of_part c (List.mem_append_left _ (Text.mem_digits_of_isDigit hdigit))
  rw [h c hc] at hd
  cases hd

/-- A text that begins with a digit begins with a number. -/
theorem piece_digit {c : Char} (hc : Text.isDigit c) (cs : List Char) :
    piece (c :: cs) = pieceOfToken (numberToken (c :: cs)) := by
  have hmem := Text.mem_digits_of_isDigit hc
  simp only [List.mem_cons, List.not_mem_nil, or_false] at hmem
  obtain rfl | rfl | rfl | rfl | rfl | rfl | rfl | rfl | rfl | rfl := hmem <;> rfl

theorem numberToken_of_ne_zero {c : Char} (hc : Text.isDigit c) (hne : c ≠ '0') (cs : List Char) :
    numberToken (c :: cs) = scanDecimal (c :: cs) false (c :: cs.takeWhile Text.isDigit)
      (c :: cs.takeWhile Text.isDigit).length (cs.drop (cs.takeWhile Text.isDigit).length) := by
  have hmem := Text.mem_digits_of_isDigit hc
  simp only [List.mem_cons, List.not_mem_nil, or_false] at hmem
  rw [← Nat.zero_add (c :: cs.takeWhile Text.isDigit).length]
  obtain rfl | rfl | rfl | rfl | rfl | rfl | rfl | rfl | rfl | rfl := hmem
  · exact absurd rfl hne
  all_goals rfl

theorem numberToken_zero (h : Delimited rest) :
    numberToken ('0' :: rest) = scanDecimal ('0' :: rest) false ['0'] 1 rest := by
  cases rest with
  | nil => rfl
  | cons c cs =>
      have hx : c ≠ 'x' := h.head_ne rfl (by decide)
      have hX : c ≠ 'X' := h.head_ne rfl (by decide)
      simp [numberToken, hx, hX]

theorem numberToken_natDigits (h : Delimited rest) (n : Nat) :
    numberToken (Text.natDigits n ++ rest)
      = .some (.number (Text.natDigits n) (decimalNumber (Text.natDigits n)
          ⟨false, Text.natDigits n, none, none⟩)) (Text.natDigits n).length := by
  by_cases hn : n = 0
  · subst hn
    exact (numberToken_zero h).trans (scanDecimal_of_delimited h false ['0'])
  · obtain ⟨d, ds, hds⟩ := List.exists_cons_of_ne_nil (Text.natDigits_ne_nil n)
    have hall : ∀ c ∈ d :: ds, Text.isDigit c := by
      intro c hc
      exact Text.isDigit_of_mem_natDigits (hds ▸ hc)
    have hd : d ≠ '0' := by
      rintro rfl
      exact Text.head?_natDigits_ne hn (by rw [hds]; rfl)
    have htake := takeWhile_isDigit_append h fun c hc => hall c (.tail d hc)
    rw [hds, List.cons_append, numberToken_of_ne_zero (hall d (.head ds)) hd, htake,
      List.drop_left]
    exact scanDecimal_of_delimited h false (d :: ds)

theorem legible_nat {n : Nat} (hn : n < Numeral.digitBound) :
    (Token.number (Number.write (.int n)) (.nat n)).Legible := by
  intro rest h
  have hpiece : piece (Text.natDigits n ++ rest)
      = pieceOfToken (numberToken (Text.natDigits n ++ rest)) := by
    obtain ⟨d, ds, hds⟩ := List.exists_cons_of_ne_nil (Text.natDigits_ne_nil n)
    rw [hds]
    exact piece_digit (Text.isDigit_of_mem_natDigits (n := n) (hds ▸ .head ds)) (ds ++ rest)
  have hnumber : decimalNumber (Text.natDigits n) ⟨false, Text.natDigits n, none, none⟩
      = .nat n := by
    rw [decimalNumber, Numeral.toNumber?_natDigits hn]
    rfl
  refine hpiece.trans ?_
  rw [numberToken_natDigits (h rfl), hnumber]
  rfl

end Json
end PerlLint
