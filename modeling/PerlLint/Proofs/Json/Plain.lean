import PerlLint.Proofs.Json.Numbers
import PerlLint.Proofs.Json.RoundTrip

/-!
# Plain JSON

The reader takes commented JSON, which has liberties that JSON has not.  A text is plain JSON if
its tokens are spelled as JSON wants them (`Spells`) and nothing but spaces and line ends stands
between them (`Spaced`).  In a string of plain JSON the quote, the backslash and the controls below
U+0020 are written as escapes, and a number has no zero in front.

What the printer writes for a text is spelled so, whatever the text is (`spells_string`).
-/

namespace PerlLint.Json

/-! ## The spelling of tokens -/

/-- The escapes of one character, each with the character that it means. -/
def shortEscapes : List (Char × Char) :=
  [('"', '"'), ('\\', '\\'), ('/', '/'), ('b', '\x08'), ('f', '\x0c'), ('n', '\n'), ('r', '\r'),
    ('t', '\t')]

/-- What stands between the quotes of a string, and the text that it means. -/
inductive SpellsText : List Char → List Char → Prop where
  | nil : SpellsText [] []
  /-- A character that means itself. -/
  | plain {c : Char} {body s : List Char} :
    c ≠ '"' → c ≠ '\\' → 32 ≤ c.toNat →
    SpellsText body s →
    SpellsText (c :: body) (c :: s)
  /-- A backslash and a letter or mark. -/
  | short {e c : Char} {body s : List Char} :
    (e, c) ∈ shortEscapes →
    SpellsText body s →
    SpellsText ('\\' :: e :: body) (c :: s)
  /-- A backslash, a `u` and four hexadecimal digits. -/
  | hex {digits : List Char} {c : Char} {body s : List Char} :
    digits.length = 4 → (∀ d ∈ digits, (Text.Hex.digit? d).isSome) →
    Text.Hex.value digits = c.toNat →
    SpellsText body s →
    SpellsText ('\\' :: 'u' :: (digits ++ body)) (c :: s)

/-- How tokens of plain JSON are spelled. -/
inductive Spells : Token → List Char → Prop where
  | openBrace : Spells .openBrace ['{']
  | closeBrace : Spells .closeBrace ['}']
  | openBracket : Spells .openBracket ['[']
  | closeBracket : Spells .closeBracket [']']
  | comma : Spells .comma [',']
  | colon : Spells .colon [':']
  | null : Spells .null ['n', 'u', 'l', 'l']
  | true : Spells (.bool true) ['t', 'r', 'u', 'e']
  | false : Spells (.bool false) ['f', 'a', 'l', 's', 'e']
  | string {body s : List Char} :
    SpellsText body s →
    Spells (.string s) ('"' :: (body ++ ['"']))
  /-- Digits, without a zero in front of others. -/
  | number {ds : List Char} :
    ds ≠ [] → (∀ d ∈ ds, Text.isDigit d) → (ds.head? = some '0' → ds = ['0']) →
    Spells (.number ds (.nat (Text.digitsValue ds))) ds

theorem mem_shortEscapes : ('"', '"') ∈ shortEscapes ∧ ('\\', '\\') ∈ shortEscapes ∧
    ('n', '\n') ∈ shortEscapes ∧ ('r', '\r') ∈ shortEscapes ∧ ('t', '\t') ∈ shortEscapes ∧
    ('b', Char.ofNat 8) ∈ shortEscapes ∧ ('f', Char.ofNat 12) ∈ shortEscapes := by
  decide

/-- The printer writes a character as JSON wants it. -/
theorem SpellsText.escapeChar {body s : List Char} (h : SpellsText body s) (c : Char) :
    SpellsText (escapeChar c ++ body) (c :: s) := by
  obtain ⟨mquote, mback, mline, mreturn, mtab, mbell, mfeed⟩ := mem_shortEscapes
  unfold Json.escapeChar
  split_ifs with hquote hback hline hreturn htab hbell hfeed hcontrol
  · subst hquote
    exact .short mquote h
  · subst hback
    exact .short mback h
  · subst hline
    exact .short mline h
  · subst hreturn
    exact .short mreturn h
  · subst htab
    exact .short mtab h
  · rw [eq_ofNat_of_toNat_eq hbell]
    exact .short mbell h
  · rw [eq_ofNat_of_toNat_eq hfeed]
    exact .short mfeed h
  · have hdigits : ∀ d ∈ ['0', '0', hexDigit (c.toNat / 16), hexDigit (c.toNat % 16)],
        (Text.Hex.digit? d).isSome := by
      intro d hd
      simp only [List.mem_cons, List.not_mem_nil, or_false] at hd
      obtain rfl | rfl | rfl | rfl := hd
      · rfl
      · rfl
      · exact isSome_digit?_hexDigit _ (by omega)
      · exact isSome_digit?_hexDigit _ (by omega)
    exact .hex rfl hdigits (value_controlDigits c.toNat hcontrol) h
  · exact .plain hquote hback (by omega) h

theorem spells_string (s : List Char) : Spells (.string s) (Token.string s).spelling := by
  have htext : SpellsText (s.flatMap escapeChar) s := by
    induction s with
    | nil => exact .nil
    | cons c s ih => exact ih.escapeChar c
  exact .string htext

theorem spells_nat (n : Nat) :
    Spells (.number (Number.write (.int n)) (.nat n)) (Number.write (.int n)) := by
  have hzero : (Text.natDigits n).head? = some '0' → Text.natDigits n = ['0'] := by
    intro h
    by_cases hn : n = 0
    · subst hn
      rfl
    · exact absurd h (Text.head?_natDigits_ne hn)
  have hnumber : Spells _ (Text.natDigits n) :=
    .number (Text.natDigits_ne_nil n) (fun _ => Text.isDigit_of_mem_natDigits) hzero
  rwa [Text.digitsValue_natDigits] at hnumber

/-! ## Spaces between tokens -/

/-- A character that may stand between the tokens of plain JSON. -/
def isSpace (c : Char) : Bool := c == ' ' || c == '\n' || c == '\r' || c == '\t'

/-- Tokens of plain JSON with nothing but spaces around them. -/
inductive Spaced : List Token → List Char → Prop where
  | nil {g : List Char} :
    (∀ c ∈ g, isSpace c) →
    Spaced [] g
  | cons {g text : List Char} {t : Token} {ts : List Token} :
    (∀ c ∈ g, isSpace c) →
    Spells t t.spelling →
    Spaced ts text →
    Spaced (t :: ts) (g ++ (t.spelling ++ text))

variable {g text : List Char} {t : Token} {ts : List Token}

theorem isBlank_of_isSpace {c : Char} (hc : isSpace c) : Text.isBlank c := by
  simp only [isSpace, Bool.or_eq_true, beq_iff_eq] at hc
  obtain ((rfl | rfl) | rfl) | rfl := hc <;> rfl

theorem gap_of_spaces (hg : ∀ c ∈ g, isSpace c) : Gap g := by
  induction g with
  | nil => exact .nil
  | cons c g ih =>
      have hc : Text.isBlank c := isBlank_of_isSpace (hg c (.head g))
      exact .blank hc (ih fun c' hc' => hg c' (.tail c hc'))

/-- Spaces are gaps. -/
theorem Spaced.spread (h : Spaced ts text) : Spread ts text := by
  induction h with
  | nil hg => exact .nil (gap_of_spaces hg)
  | cons hg _ _ ih => exact .cons (gap_of_spaces hg) ih

/-- A token may be put in front. -/
theorem Spaced.token (h : Spaced ts text) (ht : Spells t t.spelling) :
    Spaced (t :: ts) (t.spelling ++ text) := by
  have hnone : ∀ c ∈ ([] : List Char), isSpace c := nofun
  exact .cons hnone ht h

/-- Spaces may be put in front. -/
theorem Spaced.spaces (hg : ∀ c ∈ g, isSpace c) (h : Spaced ts text) : Spaced ts (g ++ text) := by
  have happend : ∀ {g'}, (∀ c ∈ g', isSpace c) → ∀ c ∈ g ++ g', isSpace c := by
    intro g' hg' c hc
    rcases List.mem_append.1 hc with hc | hc
    · exact hg c hc
    · exact hg' c hc
  cases h with
  | nil hg' => exact .nil (happend hg')
  | cons hg' ht hts =>
      rw [← List.append_assoc]
      exact .cons (happend hg') ht hts

end PerlLint.Json
