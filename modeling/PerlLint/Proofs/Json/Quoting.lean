import Mathlib.Tactic.SplitIfs
import PerlLint.Json.Token

/-!
# Quoted texts

What is written between double quotes is read back, whatever the text is: the scanner undoes the
escapes of the printer, character by character (`scanText_escapeChar`).
-/

namespace PerlLint.Json

/-- A character is the one with its number. -/
theorem eq_ofNat_of_toNat_eq {c : Char} {n : Nat} (h : c.toNat = n) : c = Char.ofNat n := by
  rw [← h, Char.ofNat_toNat]

/-! ## Hexadecimal escapes -/

theorem isSome_digit?_hexDigit : ∀ n < 16, (Text.Hex.digit? (hexDigit n)).isSome := by decide

theorem value_controlDigits :
    ∀ n < 32, Text.Hex.value ['0', '0', hexDigit (n / 16), hexDigit (n % 16)] = n := by
  decide

/-- Four digits stand for a character, if they are no half of a surrogate pair. -/
theorem scanText_hex {w x y z : Char} {n : Nat} (hw : (Text.Hex.digit? w).isSome)
    (hx : (Text.Hex.digit? x).isSome) (hy : (Text.Hex.digit? y).isSome)
    (hz : (Text.Hex.digit? z).isSome) (hvalue : Text.Hex.value [w, x, y, z] = n)
    (hn : n < 0xD800) (used start : Nat) (acc cs : List Char) :
    scanText '"' used acc (.hex start [] none) (w :: x :: y :: z :: cs)
      = scanText '"' (used + 4) (Char.ofNat n :: acc) .plain cs := by
  obtain ⟨dw, hw⟩ := Option.isSome_iff_exists.1 hw
  obtain ⟨dx, hx⟩ := Option.isSome_iff_exists.1 hx
  obtain ⟨dy, hy⟩ := Option.isSome_iff_exists.1 hy
  obtain ⟨dz, hz⟩ := Option.isSome_iff_exists.1 hz
  have hhigh : isHighSurrogate n = false := by simp [isHighSurrogate]; omega
  have hlow : isLowSurrogate n = false := by simp [isLowSurrogate]; omega
  have hclose : closeHex start [w, x, y, z] none = .ok (some (Char.ofNat n), .plain) := by
    simp only [closeHex, hvalue, hhigh, hlow]
    rfl
  simp [scanText, hw, hx, hy, hz, hclose]

/-! ## Texts -/

/-- The scanner undoes the escape of a character. -/
theorem scanText_escapeChar (c : Char) (used : Nat) (acc cs : List Char) :
    scanText '"' used acc .plain (escapeChar c ++ cs)
      = scanText '"' (used + (escapeChar c).length) (c :: acc) .plain cs := by
  unfold escapeChar
  split_ifs with hquote hback hline hreturn htab hbell hfeed hcontrol
  · subst hquote; rfl
  · subst hback; rfl
  · subst hline; rfl
  · subst hreturn; rfl
  · subst htab; rfl
  · rw [eq_ofNat_of_toNat_eq hbell]; rfl
  · rw [eq_ofNat_of_toNat_eq hfeed]; rfl
  · have h₁ := isSome_digit?_hexDigit (c.toNat / 16) (by omega)
    have h₂ := isSome_digit?_hexDigit (c.toNat % 16) (by omega)
    have hvalue := value_controlDigits c.toNat hcontrol
    have hescape : scanText '"' used acc .plain
          (['\\', 'u', '0', '0', hexDigit (c.toNat / 16), hexDigit (c.toNat % 16)] ++ cs)
        = scanText '"' (used + 2) acc (.hex used [] none)
            ('0' :: '0' :: hexDigit (c.toNat / 16) :: hexDigit (c.toNat % 16) :: cs) := rfl
    rw [hescape, scanText_hex rfl rfl h₁ h₂ hvalue (by omega), Char.ofNat_toNat]
    rfl
  · simp [scanText, hquote, hback]

/-- The scanner undoes the quoting of a text. -/
theorem scanText_flatMap_escapeChar (s : List Char) (used : Nat) (acc rest : List Char) :
    scanText '"' used acc .plain (s.flatMap escapeChar ++ '"' :: rest)
      = .some (acc.reverse ++ s) (used + (s.flatMap escapeChar).length + 1) := by
  induction s generalizing used acc with
  | nil => simp [scanText]
  | cons c s ih =>
      rw [List.flatMap_cons, List.append_assoc, scanText_escapeChar, ih, List.length_append,
        List.reverse_cons, List.append_assoc, List.singleton_append, Nat.add_assoc used]

end PerlLint.Json
