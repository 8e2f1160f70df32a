import PerlLint.Proofs.Text.Utf8
import PerlLint.Shell.Words
import PerlLint.Text.Utf8

/-!
# Quoting and splitting

A quoted word is one word to the shell, the word itself, whatever its characters are
(`splitFrom?_quote`): between single quotes every character stands for itself, and a word without
quotes has no character that is special.  So the words of a line made from words are these words
(`split?_joinWords`).

A shell reads bytes, and a special character is one byte that is part of no other character.  So
it makes no difference whether words are quoted as characters or as bytes
(`bytesOf_joinWords`).
-/

namespace PerlLint.Shell

variable {w : List Char} {c : Char}

/-! ## Characters of a word -/

/-- A character that is not special is a character of a word, at the front and inside. -/
theorem plain_of_not_special (h : specials.contains c = false) :
    isSeparator c = false ∧ isActive c = false ∧ isActiveInFront c = false
      ∧ c ≠ '\\' ∧ c ≠ '\'' ∧ c ≠ '"' := by
  simp only [specials, List.contains_cons, List.contains_nil, Bool.or_eq_false_iff,
    beq_eq_false_iff_ne] at h
  simp [isSeparator, isActiveInFront, isActive, h]

theorem splitFrom?_bare (h : ∀ c ∈ w, specials.contains c = false)
    (done : List (List Char)) (word rest : List Char) :
    splitFrom? done word .bare (w ++ rest) = splitFrom? done (w.reverse ++ word) .bare rest := by
  induction w generalizing word with
  | nil => rfl
  | cons c w ih =>
      obtain ⟨hsep, hactive, -, hbackslash, hquote, hdouble⟩ := plain_of_not_special (h c (.head _))
      rw [List.cons_append, splitFrom?, hsep, hactive, if_neg hbackslash, if_neg hquote,
        if_neg hdouble]
      simp only [Bool.false_eq_true, if_false]
      rw [ih fun d hd => h d (.tail _ hd)]
      simp

/-- Between single quotes every character stands for itself.  A single quote ends the quotes,
stands after a backslash, and begins them again. -/
theorem splitFrom?_single (w : List Char) (done : List (List Char)) (word rest : List Char) :
    splitFrom? done word .single (w.flatMap quoteChar ++ rest)
      = splitFrom? done (w.reverse ++ word) .single rest := by
  induction w generalizing word with
  | nil => rfl
  | cons c w ih =>
      rw [List.flatMap_cons, List.append_assoc, quoteChar]
      split
      case isTrue hc =>
        subst hc
        simp [splitFrom?, isSeparator, isActive, ih]
      case isFalse hc =>
        rw [List.singleton_append, splitFrom?, if_neg hc, ih]
        simp

/-! ## Words of a line -/

/-- A quoted word is one word. -/
theorem splitFrom?_quote (w : List Char) (done : List (List Char)) (word rest : List Char) :
    splitFrom? done word .between (quote w ++ rest) = splitFrom? done w.reverse .bare rest := by
  unfold quote
  split
  case isTrue =>
    have hquote : isSeparator '\'' = false ∧ isActiveInFront '\'' = false := by decide
    rw [List.append_assoc, List.cons_append, splitFrom?, hquote.1, hquote.2]
    simp [splitFrom?_single, splitFrom?]
  case isFalse h =>
    rw [needsQuotes, Bool.or_eq_true, not_or] at h
    obtain ⟨hne, hplain⟩ := h
    have hplain : ∀ c ∈ w, specials.contains c = false := by simpa using hplain
    obtain ⟨c, w, rfl⟩ := List.exists_cons_of_ne_nil (by simpa using hne)
    obtain ⟨hsep, -, hfront, hbackslash, hquote, hdouble⟩ :=
      plain_of_not_special (hplain c (.head _))
    rw [List.cons_append, splitFrom?, hsep, hfront, if_neg hbackslash, if_neg hquote,
      if_neg hdouble]
    simp [splitFrom?_bare fun d hd => hplain d (.tail _ hd)]

theorem joinWords_cons_cons (w w' : List Char) (ws : List (List Char)) :
    joinWords (w :: w' :: ws) = quote w ++ ' ' :: joinWords (w' :: ws) := rfl

theorem splitFrom?_joinWords (ws : List (List Char)) (done : List (List Char))
    (word : List Char) :
    splitFrom? done word .between (joinWords ws) = some (done.reverse ++ ws) := by
  induction ws generalizing done word with
  | nil => simp [joinWords, splitFrom?]
  | cons w ws ih =>
      cases ws with
      | nil =>
          rw [joinWords, ← List.append_nil (quote w), splitFrom?_quote, splitFrom?]
          simp
      | cons w' ws =>
          rw [joinWords_cons_cons, splitFrom?_quote, splitFrom?, if_pos (by decide), ih]
          simp

/-- Splitting undoes joining, for any words. -/
theorem split?_joinWords (ws : List (List Char)) : split? (joinWords ws) = some ws :=
  splitFrom?_joinWords ws [] []

/-! ## Bytes -/

/-- The bytes of characters, as characters. -/
def bytesOf (cs : List Char) : List Char := Text.Bytes.ofBytes (Text.Utf8.encode cs)

@[simp] theorem bytesOf_nil : bytesOf [] = [] := rfl

@[simp] theorem bytesOf_append (cs ds : List Char) :
    bytesOf (cs ++ ds) = bytesOf cs ++ bytesOf ds := by
  simp [bytesOf, Text.Bytes.ofBytes, Text.Utf8.encode]

theorem bytesOf_cons (c : Char) (cs : List Char) : bytesOf (c :: cs) = bytesOf [c] ++ bytesOf cs :=
  bytesOf_append [c] cs

/-- A character below 0x80 is one byte. -/
theorem bytesOf_singleton (h : c.toNat < 0x80) : bytesOf [c] = [c] := by
  have hbyte : c.toNat.toUInt8.toNat = c.toNat := Text.Utf8.toNat_toUInt8 (by omega)
  simp [bytesOf, Text.Bytes.ofBytes, Text.Utf8.encode, Text.Utf8.encodeChar_of_lt h, hbyte]

/-- No other character has a byte below 0x80. -/
theorem le_of_mem_bytesOf_singleton {d : Char} (h : 0x80 ≤ c.toNat) (hd : d ∈ bytesOf [c]) :
    0x80 ≤ d.toNat := by
  obtain ⟨b, hb, rfl⟩ := List.mem_map.1 hd
  rw [Text.Utf8.toNat_ofNat_byte]
  exact Text.Utf8.le_of_mem_encodeChar h (by simpa [Text.Utf8.encode] using hb)

theorem mem_bytesOf_iff (h : c.toNat < 0x80) : c ∈ bytesOf w ↔ c ∈ w := by
  induction w with
  | nil => simp
  | cons d w ih =>
      rw [bytesOf_cons, List.mem_append, List.mem_cons, ih]
      refine or_congr_left ?_
      rcases Nat.lt_or_ge d.toNat 0x80 with hd | hd
      · rw [bytesOf_singleton hd, List.mem_singleton]
      · refine ⟨fun hmem => ?_, ?_⟩
        · have hle := le_of_mem_bytesOf_singleton hd hmem
          omega
        · rintro rfl
          omega

theorem bytesOf_eq_nil_iff : bytesOf w = [] ↔ w = [] := by
  constructor
  · intro h
    have hbytes : Text.Utf8.encode w = [] := List.map_eq_nil_iff.1 h
    rw [← Text.Utf8.decodeLossy_encode w, hbytes]
    rfl
  · rintro rfl
    rfl

theorem needsQuotes_bytesOf (w : List Char) : needsQuotes (bytesOf w) = needsQuotes w := by
  have hsmall : ∀ c ∈ specials, c.toNat < 0x80 := by simp [specials]
  rw [Bool.eq_iff_iff]
  simp only [needsQuotes, Bool.or_eq_true, List.isEmpty_iff, bytesOf_eq_nil_iff, List.any_eq_true,
    List.contains_iff_mem]
  refine or_congr_right (exists_congr fun c => and_congr_left fun hc => ?_)
  exact mem_bytesOf_iff (hsmall c hc)

theorem flatMap_quoteChar_of_not_mem (h : '\'' ∉ w) : w.flatMap quoteChar = w := by
  induction w with
  | nil => rfl
  | cons c w ih =>
      obtain ⟨hc, hw⟩ : '\'' ≠ c ∧ '\'' ∉ w := by simpa using h
      rw [List.flatMap_cons, ih hw, quoteChar, if_neg hc.symm]
      rfl

theorem bytesOf_quoteChar (c : Char) : bytesOf (quoteChar c) = (bytesOf [c]).flatMap quoteChar := by
  by_cases hc : c = '\''
  · subst hc
    decide
  · have hnot : '\'' ∉ bytesOf [c] := by
      rw [mem_bytesOf_iff (by decide)]
      exact fun h => hc (List.mem_singleton.1 h).symm
    rw [quoteChar, if_neg hc, flatMap_quoteChar_of_not_mem hnot]

theorem bytesOf_flatMap_quoteChar (w : List Char) :
    bytesOf (w.flatMap quoteChar) = (bytesOf w).flatMap quoteChar := by
  induction w with
  | nil => rfl
  | cons c w ih =>
      rw [List.flatMap_cons, bytesOf_append, bytesOf_quoteChar, ih, bytesOf_cons c w,
        List.flatMap_append]

theorem bytesOf_quote (w : List Char) : bytesOf (quote w) = quote (bytesOf w) := by
  have hmark : bytesOf ['\''] = ['\''] := bytesOf_singleton (by decide)
  rw [quote, quote, needsQuotes_bytesOf]
  split
  · rw [bytesOf_append, bytesOf_cons, hmark, bytesOf_flatMap_quoteChar]
    rfl
  · rfl

/-- Quoting words and taking their bytes commute. -/
theorem bytesOf_joinWords (ws : List (List Char)) :
    bytesOf (joinWords ws) = joinWords (ws.map bytesOf) := by
  induction ws with
  | nil => rfl
  | cons w ws ih =>
      cases ws with
      | nil => exact bytesOf_quote w
      | cons w' ws =>
          have hspace : bytesOf [' '] = [' '] := bytesOf_singleton (by decide)
          rw [joinWords_cons_cons, bytesOf_append, bytesOf_cons, hspace, ih, bytesOf_quote]
          rfl

/-! ## Texts -/

/-- The words of a line made from words are the words. -/
theorem split?_lineOfWords (ws : List String) :
    split? (lineOfWords ws).toList = some (ws.map String.toList) := by
  rw [lineOfWords, String.toList_ofList, split?_joinWords]

example : lineOfWords ["a", "", "b c", "it's"] = "a '' 'b c' 'it'\\''s'" := by decide +kernel

/-- The words that the shell sees, which reads bytes, are the bytes of the words. -/
theorem split?_ofString_lineOfWords (ws : List String) :
    split? (Text.Bytes.ofString (lineOfWords ws)) = some (ws.map Text.Bytes.ofString) := by
  have hbytes : Text.Bytes.ofString (lineOfWords ws)
      = joinWords ((ws.map String.toList).map bytesOf) := by
    rw [← bytesOf_joinWords, bytesOf, Text.Bytes.ofString, lineOfWords, String.toList_ofList]
  rw [hbytes, split?_joinWords, List.map_map]
  rfl

end PerlLint.Shell
