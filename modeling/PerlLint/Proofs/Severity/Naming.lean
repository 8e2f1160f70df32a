import Mathlib.Data.List.Forall2
import PerlLint.Proofs.Config.Fields
import PerlLint.Proofs.Text.Numeral
import PerlLint.Proofs.Text.Utf8

/-!
# Texts that name a tier

A text names a tier by a word with blanks around it.  The word is the name of the tier, in any mix
of capitals and small letters (`IsName`), or its score: a plus sign or none, and then digits, with as
many zeros in front as one likes (`IsScore`).  Only ASCII letters have capitals here, and only ASCII
digits count.  No word is both, since no name has a digit in it.

`named_exactly` says that a tier is read from these texts and from no others, and that the settings
and everything else that holds tiers read them alike.
-/

namespace PerlLint.Tier

variable {c d : Char} {w s : List Char} {t t' : Tier}

/-! ## Names -/

/-- Two characters are the same, but one may be a capital and the other one its small letter. -/
inductive SameLetter : Char → Char → Prop where
  | same (c : Char) : SameLetter c c
  | capital {c d : Char} : 'A' ≤ c → c ≤ 'Z' → d.toNat = c.toNat + 32 → SameLetter c d
  | small {c d : Char} : 'A' ≤ d → d ≤ 'Z' → c.toNat = d.toNat + 32 → SameLetter c d

theorem isCapital_iff : 'A' ≤ c ∧ c ≤ 'Z' ↔ 65 ≤ c.toNat ∧ c.toNat ≤ 90 := by
  simp [Char.le_def, UInt32.le_iff_toNat_le]

theorem toNat_lower (c : Char) :
    (lower c).toNat = if 65 ≤ c.toNat ∧ c.toNat ≤ 90 then c.toNat + 32 else c.toNat := by
  rw [lower]
  by_cases hc : 'A' ≤ c ∧ c ≤ 'Z'
  · have hcode := isCapital_iff.1 hc
    rw [if_pos hc, if_pos hcode, Text.Utf8.toNat_ofNat_of_lt (by omega)]
  · rw [if_neg hc, if_neg (mt isCapital_iff.2 hc)]

/-- They are the same letter if they have the same small letter. -/
theorem sameLetter_iff : SameLetter c d ↔ lower c = lower d := by
  rw [← Char.toNat_inj, toNat_lower, toNat_lower]
  constructor
  · intro h
    cases h with
    | same => rfl
    | capital hA hZ hd =>
        have hcode := isCapital_iff.1 ⟨hA, hZ⟩
        rw [if_pos hcode, if_neg (by omega), hd]
    | small hA hZ hc =>
        have hcode := isCapital_iff.1 ⟨hA, hZ⟩
        rw [if_neg (by omega), if_pos hcode, hc]
  · intro h
    by_cases hc : 65 ≤ c.toNat ∧ c.toNat ≤ 90
    · by_cases hd : 65 ≤ d.toNat ∧ d.toNat ≤ 90
      · rw [if_pos hc, if_pos hd, Nat.add_right_cancel_iff, Char.toNat_inj] at h
        exact h ▸ .same c
      · rw [if_pos hc, if_neg hd] at h
        obtain ⟨hA, hZ⟩ := isCapital_iff.2 hc
        exact .capital hA hZ h.symm
    · by_cases hd : 65 ≤ d.toNat ∧ d.toNat ≤ 90
      · rw [if_neg hc, if_pos hd] at h
        obtain ⟨hA, hZ⟩ := isCapital_iff.2 hd
        exact .small hA hZ h
      · rw [if_neg hc, if_neg hd, Char.toNat_inj] at h
        exact h ▸ .same c

/-- The word is the name of the tier, in some mix of capitals and small letters. -/
def IsName (w : List Char) (t : Tier) : Prop := List.Forall₂ SameLetter w t.name.toList

/-- Names are written in small letters. -/
theorem map_lower_name (t : Tier) : t.name.toList.map lower = t.name.toList := by
  cases t <;> decide

theorem isName_iff : IsName w t ↔ t.name.toList = w.map lower := by
  have hsame : SameLetter = fun c d => lower c = lower d := by
    funext c d
    exact propext sameLetter_iff
  calc IsName w t
    _ ↔ List.Forall₂ (fun c d => c = lower d) (w.map lower) t.name.toList := by
        rw [IsName, hsame, List.forall₂_map_left_iff]
    _ ↔ List.Forall₂ (· = ·) (w.map lower) (t.name.toList.map lower) :=
        List.forall₂_map_right_iff.symm
    _ ↔ t.name.toList = w.map lower := by rw [List.forall₂_eq_eq_eq, map_lower_name, eq_comm]

/-- A word is the name of one tier. -/
theorem IsName.unique (h : IsName w t) (h' : IsName w t') : t = t' := by
  have hname : t.name.toList = t'.name.toList := by rw [isName_iff.1 h, isName_iff.1 h']
  revert hname
  cases t <;> cases t' <;> decide

/-- No name has a digit in it. -/
theorem IsName.not_isDigit (h : IsName w t) (hc : c ∈ w) : ¬ Text.isDigit c := by
  have hsmall : t.name.toList.all (fun d => !Text.isDigit d) = true := by cases t <;> rfl
  have hmem : lower c ∈ t.name.toList := isName_iff.1 h ▸ List.mem_map_of_mem hc
  have hlower : ¬ Text.isDigit (lower c) := by simpa using List.all_eq_true.1 hsmall _ hmem
  rw [Text.isDigit_iff, toNat_lower] at hlower
  rw [Text.isDigit_iff]
  split at hlower
  case isTrue => omega
  case isFalse => exact hlower

/-! ## Scores -/

/-- The word is the score of the tier. -/
inductive IsScore : List Char → Tier → Prop where
  | intro {sign digits : List Char} {t : Tier} :
    sign = [] ∨ sign = ['+'] →
    digits ≠ [] →
    (∀ d ∈ digits, '0' ≤ d ∧ d ≤ '9') →
    Nat.ofDigitChars 10 digits 0 = t.code →
    IsScore (sign ++ digits) t

theorem code_bounds (t : Tier) : 1 ≤ t.code ∧ t.code ≤ 5 := by
  cases t <;> decide

/-- From 1 to 5 each number is the score of a tier. -/
theorem ofCode_eq_iff {n : Int} (h₁ : 1 ≤ n) (h₅ : n ≤ 5) : ofCode n = t ↔ n = t.code := by
  obtain rfl | rfl | rfl | rfl | rfl : n = 1 ∨ n = 2 ∨ n = 3 ∨ n = 4 ∨ n = 5 := by omega
  all_goals cases t <;> decide

theorem isScore_iff : IsScore w t ↔ Text.wholeInt? w = some (t.code : Int) := by
  have hcode := t.code_bounds
  constructor
  · intro h
    cases h with
    | @intro sign digits _ hsign hne hdigits hvalue =>
        have hplus : Text.Sign sign 1 := by
          obtain rfl | rfl := hsign
          · exact .none
          · exact .plus
        have hds : ∀ d ∈ digits, Text.isDigit d := by simpa [Text.isDigit] using hdigits
        rw [hplus.wholeInt?_eq hne hds, hvalue]
        omega
  · intro h
    generalize hn : (t.code : Int) = n at h
    cases Text.wholeInt?_eq_some_iff.1 h with
    | @intro sign digits u hsign hne hds _ _ =>
        have hdigits : ∀ d ∈ digits, '0' ≤ d ∧ d ≤ '9' := by simpa [Text.isDigit] using hds
        cases hsign with
        | plus => exact .intro (.inr rfl) hne hdigits (by omega)
        | minus => omega
        | none => exact .intro (.inl rfl) hne hdigits (by omega)

/-- A score has a digit in it. -/
theorem IsScore.not_isName (h : IsScore w t) : ¬ IsName w t' := by
  intro hname
  cases h with
  | @intro sign digits _ _ hne hdigits _ =>
      obtain ⟨d, ds, rfl⟩ := List.exists_cons_of_ne_nil hne
      apply hname.not_isDigit (List.mem_append_right sign (.head ds))
      simpa [Text.isDigit] using hdigits d (.head ds)

/-! ## Texts -/

/-- The text is a word for the tier, with blanks around it. -/
def Named (s : List Char) (t : Tier) : Prop :=
  ∃ w, Text.Trimmed s w ∧ (IsName w t ∨ IsScore w t)

theorem ofChars?_eq_some_iff : ofChars? s = some t ↔ Named s t := by
  simp only [Named, Text.trimmed_iff, exists_eq_left]
  rw [ofChars?]
  generalize Text.trim s = w
  have hfound : ∀ t : Tier, (t.name.toList == w.map lower) = true ↔ IsName w t := by
    intro t
    rw [beq_iff_eq, isName_iff]
  -- A name is looked for first, and a score only if there is none.  Since no word is both, this
  -- does not matter.
  split
  case h_1 t' ht' =>
    have hequal := List.find?_some ht'
    have hname : IsName w t' := (hfound t').1 hequal
    rw [Option.some_inj]
    constructor
    · rintro rfl
      exact .inl hname
    · rintro (h | h)
      · exact hname.unique h
      · exact absurd hname h.not_isName
  case h_2 hnone =>
    have hno : ¬ IsName w t := by
      rw [← hfound]
      exact List.find?_eq_none.1 hnone t (by cases t <;> decide)
    rw [or_iff_right hno, isScore_iff]
    have hcode := t.code_bounds
    split
    case h_1 n hn =>
      rw [hn, Option.some_inj]
      split
      case isTrue hrange => rw [Option.some_inj, ofCode_eq_iff hrange.1 hrange.2]
      case isFalse hrange => exact iff_of_false nofun (by omega)
    case h_2 hn =>
      rw [hn]
      exact iff_of_false nofun nofun

theorem readTier_of_none {s : String} (h : ofString? s = none) :
    Setting.readTier (.string s) = .error (.unknownTier s) := by
  simp only [Setting.readTier, Setting.readText, bind, Except.bind, h]

/-- A text is read as a tier if it names the tier, and else not at all.  In settings, too, a tier is
read from a text, and from the same ones. -/
theorem named_exactly (s : String) :
    (∀ t, ofString? s = some t ↔ Named s.toList t) ∧
    (ofString? s = none ↔ ∀ t, ¬ Named s.toList t) ∧
    (∀ t, Setting.readTier (.string s) = .ok t ↔ Named s.toList t) ∧
    (Setting.readTier (.string s) = .error (.unknownTier s) ↔ ∀ t, ¬ Named s.toList t) := by
  have hread : ∀ t, ofString? s = some t ↔ Named s.toList t := fun t => ofChars?_eq_some_iff
  have hnone : ofString? s = none ↔ ∀ t, ¬ Named s.toList t := by
    simp only [← hread, Option.eq_none_iff_forall_ne_some]
  refine ⟨hread, hnone, fun t => ?_, ?_⟩
  · rw [Setting.readTier_eq_ok, ← hread]
    constructor
    · rintro ⟨htier⟩
      exact htier
    · exact .tier
  · rw [← hnone]
    cases h : ofString? s with
    | none => simp [readTier_of_none h]
    | some t => simp [Setting.readTier_eq_ok.2 (.tier h)]

/-- Zeros in front do not count, and letters and digits beyond ASCII are neither. -/
example : ofString? "\u3000+000000000000000000000000003" = some .harsh ∧
    ofString? "\u017ftern" = none ∧ ofString? "\uff13" = none ∧ ofString? "-3" = none := by
  decide +kernel

end PerlLint.Tier
