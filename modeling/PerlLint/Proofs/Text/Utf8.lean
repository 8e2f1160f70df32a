import PerlLint.Text.Utf8

/-!
# Decoding in parts

A byte below 0x80 is a character by itself wherever it stands: it can neither be in the middle of
a sequence nor be lost with an ill-formed one.  So a byte sequence may be cut before or after such
a byte and decoded in parts (`decodeLossy_append_cons`), and such a character comes from such a
byte only (`mem_of_mem_decodeLossy`).  This holds for any bytes, well-formed or not.

On well-formed sequences the reader undoes the writer (`decodeLossy_encode`).

The reader is taken byte by byte.  `step` says what one byte gives and where it leads, and
`decodeFrom_cons` that the reader takes these steps.
-/

namespace PerlLint.Text.Utf8

variable {b : UInt8} {bs xs ys : List UInt8} {p : Partial} {st : Option Partial} {c : Char}

/-! ## Characters by their numbers -/

theorem toNat_ofNat {n : Nat} (h : n.isValidChar) : (Char.ofNat n).toNat = n := by
  rw [Char.ofNat, dif_pos h]
  rfl

theorem toNat_ofNat_of_lt {n : Nat} (h : n < 0xD800) : (Char.ofNat n).toNat = n :=
  toNat_ofNat (.inl h)

theorem toNat_ofNat_byte (b : UInt8) : (Char.ofNat b.toNat).toNat = b.toNat :=
  toNat_ofNat_of_lt (by have := b.toNat_lt; omega)

/-- A number from 0x80 on gives no character below 0x80, but for the one with the number 0. -/
theorem le_toNat_ofNat {n : Nat} (hn : 0x80 ≤ n) (h₀ : 0 < (Char.ofNat n).toNat) :
    0x80 ≤ (Char.ofNat n).toNat := by
  by_cases h : n.isValidChar
  · rwa [toNat_ofNat h]
  · rw [Char.ofNat, dif_neg h] at h₀
    cases h₀

/-! ## One byte -/

/-- What a byte gives at a place, and the place after it. -/
def step : Option Partial → UInt8 → List Char × Option Partial
  | none, b =>
      match lead b with
      | .char c => ([c], none)
      | .more p => ([], some p)
      | .bad => ([replacement], none)
  | some p, b =>
      if p.lo ≤ b.toNat ∧ b.toNat ≤ p.hi then
        let v := p.value * 64 + (b.toNat - 0x80)
        match p.need with
        | 0 => ([Char.ofNat v], none)
        | k + 1 => ([], some ⟨k, 0x80, 0xBF, v⟩)
      else
        match lead b with
        | .char c => ([replacement, c], none)
        | .more q => ([replacement], some q)
        | .bad => ([replacement, replacement], none)

/-- What the end of the bytes gives at a place. -/
def atEnd : Option Partial → List Char
  | none => []
  | some _ => [replacement]

theorem decodeFrom_eq_step (acc : List Char) (st : Option Partial) (b : UInt8)
    (bs : List UInt8) :
    decodeFrom acc st (b :: bs) = decodeFrom ((step st b).1.reverse ++ acc) (step st b).2 bs := by
  cases st with
  | none =>
      rw [decodeFrom, step]
      cases lead b <;> rfl
  | some p =>
      rw [decodeFrom, step]
      split
      case isTrue =>
        dsimp only
        cases p.need <;> rfl
      case isFalse => cases lead b <;> rfl

theorem decodeFrom_eq_append (acc : List Char) (st : Option Partial) (bs : List UInt8) :
    decodeFrom acc st bs = acc.reverse ++ decodeFrom [] st bs := by
  induction bs generalizing acc st with
  | nil => cases st <;> simp [decodeFrom]
  | cons b bs ih =>
      rw [decodeFrom_eq_step, ih, decodeFrom_eq_step, ih (_ ++ [])]
      simp

theorem decodeFrom_nil (st : Option Partial) : decodeFrom [] st [] = atEnd st := by
  cases st <;> rfl

theorem decodeFrom_cons (st : Option Partial) (b : UInt8) (bs : List UInt8) :
    decodeFrom [] st (b :: bs) = (step st b).1 ++ decodeFrom [] (step st b).2 bs := by
  rw [decodeFrom_eq_step, decodeFrom_eq_append]
  simp

/-! ## Places inside a sequence -/

/-- A place that a lead byte leads to: what comes next is no byte below 0x80, and the character
at the end is none below 0x80 either. -/
structure Partial.Sound (p : Partial) : Prop where
  /-- The next byte is a continuation byte. -/
  lo : 0x80 ≤ p.lo
  /-- With the last byte the number reaches 0x80. -/
  last : p.need = 0 → 2 ≤ p.value
  /-- So it does if there are more. -/
  more : p.need ≠ 0 → 2 ≤ p.value * 64 + (p.lo - 0x80)

/-- Between characters there is nothing to be asked for. -/
theorem sound_none : ∀ p, (none : Option Partial) = some p → p.Sound := nofun

/-- A byte below 0x80 is a character.  Any other byte starts a longer sequence, or nothing. -/
theorem lead_cases (b : UInt8) :
    (b.toNat < 0x80 ∧ lead b = .char (Char.ofNat b.toNat)) ∨
    (0x80 ≤ b.toNat ∧ lead b = .bad) ∨
    ∃ p, 0x80 ≤ b.toNat ∧ lead b = .more p ∧ p.Sound := by
  generalize hlead : lead b = row
  simp only [lead, beq_iff_eq] at hlead
  split at hlead
  case isTrue hb => exact .inl ⟨hb, hlead.symm⟩
  case isFalse hb =>
    have hb : 0x80 ≤ b.toNat := Nat.le_of_not_lt hb
    right
    -- One case for each row of the table, and one for the bytes after the last row.
    repeat' split at hlead
    all_goals
      subst hlead
      first
      | exact .inl ⟨hb, rfl⟩
      | exact .inr ⟨_, hb, rfl, ⟨by simp, by simp; try omega, by simp; try omega⟩⟩

theorem Partial.Sound.next (h : p.Sound) {k : Nat} (hk : p.need = k + 1) (hb : p.lo ≤ b.toNat) :
    Partial.Sound ⟨k, 0x80, 0xBF, p.value * 64 + (b.toNat - 0x80)⟩ := by
  have hmore := h.more (by omega)
  exact ⟨Nat.le_refl _, fun _ => by dsimp only; omega, fun _ => by dsimp only; omega⟩

/-- Every place that is reached is sound. -/
theorem sound_step (h : ∀ p, st = some p → p.Sound) : ∀ p, (step st b).2 = some p → p.Sound := by
  intro q hq
  cases st with
  | none =>
      obtain ⟨-, hlead⟩ | ⟨-, hlead⟩ | ⟨p, -, hlead, hp⟩ := lead_cases b
      all_goals
        rw [step, hlead] at hq
        cases hq
      exact hp
  | some p =>
      have hp := h p rfl
      rw [step] at hq
      split at hq
      case isTrue hrange =>
        dsimp only at hq
        split at hq
        case h_1 => cases hq
        case h_2 k hk =>
          cases hq
          exact hp.next hk hrange.1
      case isFalse =>
        obtain ⟨-, hlead⟩ | ⟨-, hlead⟩ | ⟨p', -, hlead, hp'⟩ := lead_cases b
        all_goals
          rw [hlead] at hq
          cases hq
        exact hp'

/-- A byte below 0x80 ends what is before it, and is a character. -/
theorem step_of_lt (h : ∀ p, st = some p → p.Sound) (hb : b.toNat < 0x80) :
    step st b = (atEnd st ++ [Char.ofNat b.toNat], none) := by
  have hlead : lead b = .char (Char.ofNat b.toNat) := by simp [lead, hb]
  cases st with
  | none =>
      rw [step, hlead]
      rfl
  | some p =>
      have hlo := (h p rfl).lo
      rw [step, if_neg (by omega), hlead]
      rfl

/-- A character below 0x80 that a byte gives is the byte. -/
theorem eq_of_mem_step (h : ∀ p, st = some p → p.Sound) (hc : c ∈ (step st b).1)
    (h₀ : 0 < c.toNat) (hlt : c.toNat < 0x80) : c = Char.ofNat b.toNat := by
  have hrep : c ≠ replacement := by
    rintro rfl
    exact absurd hlt (by decide)
  have hlead (hmem : ∃ x, lead b = .char x ∧ c = x) : c = Char.ofNat b.toNat := by
    obtain ⟨x, hx, rfl⟩ := hmem
    obtain ⟨-, hl⟩ | ⟨-, hl⟩ | ⟨p, -, hl, -⟩ := lead_cases b
    all_goals
      rw [hl] at hx
      cases hx
    rfl
  cases st with
  | none =>
      rw [step] at hc
      split at hc
      case h_1 x hx => exact hlead ⟨x, hx, by simpa using hc⟩
      case h_2 => simp at hc
      case h_3 => exact absurd (by simpa using hc) hrep
  | some p =>
      have hp := h p rfl
      rw [step] at hc
      split at hc
      case isTrue hrange =>
        dsimp only at hc
        split at hc
        case h_1 hneed =>
          have hvalue := hp.last hneed
          rw [List.mem_singleton.1 hc] at h₀ hlt
          have hle := le_toNat_ofNat (by omega) h₀
          omega
        case h_2 => simp at hc
      case isFalse =>
        split at hc
        case h_1 x hx =>
          rcases List.mem_cons.1 hc with hc | hc
          · exact absurd hc hrep
          · exact hlead ⟨x, hx, by simpa using hc⟩
        case h_2 => exact absurd (by simpa using hc) hrep
        case h_3 => exact absurd (by simpa using hc) hrep

/-! ## Any bytes -/

theorem decodeFrom_append_cons (h : ∀ p, st = some p → p.Sound) (hb : b.toNat < 0x80)
    (xs ys : List UInt8) :
    decodeFrom [] st (xs ++ b :: ys)
      = decodeFrom [] st xs ++ Char.ofNat b.toNat :: decodeLossy ys := by
  induction xs generalizing st with
  | nil =>
      rw [List.nil_append, decodeFrom_cons, step_of_lt h hb, decodeFrom_nil]
      simp [decodeLossy]
  | cons x xs ih =>
      rw [List.cons_append, decodeFrom_cons, ih (sound_step h), decodeFrom_cons st x xs,
        List.append_assoc]

/-- Bytes may be decoded in parts, before and after a byte below 0x80. -/
theorem decodeLossy_append_cons (hb : b.toNat < 0x80) (xs ys : List UInt8) :
    decodeLossy (xs ++ b :: ys) = decodeLossy xs ++ Char.ofNat b.toNat :: decodeLossy ys :=
  decodeFrom_append_cons sound_none hb xs ys

/-- A sequence that such a byte cuts off is one subpart. -/
example : decodeLossy [0xF0, 0x9F, 0x98, 0x0A] = ['\ufffd', '\n'] := by decide

theorem mem_of_mem_decodeFrom (h : ∀ p, st = some p → p.Sound) (hc : c ∈ decodeFrom [] st bs)
    (h₀ : 0 < c.toNat) (hlt : c.toNat < 0x80) : ∃ b ∈ bs, c = Char.ofNat b.toNat := by
  induction bs generalizing st with
  | nil =>
      rw [decodeFrom_nil] at hc
      cases st with
      | none => cases hc
      | some p =>
          cases List.mem_singleton.1 hc
          exact absurd hlt (by decide)
  | cons b bs ih =>
      rw [decodeFrom_cons, List.mem_append] at hc
      rcases hc with hc | hc
      · exact ⟨b, .head _, eq_of_mem_step h hc h₀ hlt⟩
      · obtain ⟨b', hb', heq⟩ := ih (sound_step h) hc
        exact ⟨b', .tail _ hb', heq⟩

/-- A character below 0x80 comes from the byte that is this character. -/
theorem mem_of_mem_decodeLossy (hb : b.toNat < 0x80) (h₀ : 0 < b.toNat)
    (h : Char.ofNat b.toNat ∈ decodeLossy bs) : b ∈ bs := by
  obtain ⟨b', hb', heq⟩ := mem_of_mem_decodeFrom sound_none h
    (by rwa [toNat_ofNat_byte]) (by rwa [toNat_ofNat_byte])
  have hn := congrArg Char.toNat heq
  rw [toNat_ofNat_byte, toNat_ofNat_byte] at hn
  rwa [UInt8.toNat_inj.1 hn]

theorem step_snd_ne_none (h : (step st b).1 = []) : (step st b).2 ≠ none := by
  unfold step at h ⊢
  repeat' split at h
  all_goals simp_all

theorem decodeFrom_ne_nil (h : st = none → bs ≠ []) : decodeFrom [] st bs ≠ [] := by
  induction bs generalizing st with
  | nil =>
      cases st with
      | none => exact absurd rfl (h rfl)
      | some p => exact List.cons_ne_nil replacement []
  | cons b bs ih =>
      rw [decodeFrom_cons]
      by_cases hgives : (step st b).1 = []
      · rw [hgives, List.nil_append]
        exact ih fun hnext => absurd hnext (step_snd_ne_none hgives)
      · exact List.append_ne_nil_of_left_ne_nil hgives _

/-- No bytes are lost altogether. -/
theorem decodeLossy_ne_nil (h : bs ≠ []) : decodeLossy bs ≠ [] := decodeFrom_ne_nil fun _ => h

theorem decodeLossy_append_replicate (hb : b.toNat < 0x80) (xs : List UInt8) (k : Nat) :
    decodeLossy (xs ++ List.replicate k b)
      = decodeLossy xs ++ List.replicate k (Char.ofNat b.toNat) := by
  induction k generalizing xs with
  | zero => simp
  | succ k ih =>
      rw [List.replicate_succ', ← List.append_assoc, decodeLossy_append_cons hb, ih,
        List.replicate_succ', ← List.append_assoc]
      rfl

/-- The last character is one below 0x80 only if the last byte is this character. -/
theorem getLast?_decodeLossy (hb : b.toNat < 0x80) (h₀ : 0 < b.toNat) (h : bs.getLast? ≠ some b) :
    (decodeLossy bs).getLast? ≠ some (Char.ofNat b.toNat) := by
  intro hlast
  -- The bytes are cut at the last `b`; what comes after it gives the last character.
  have hmem : b ∈ bs := mem_of_mem_decodeLossy hb h₀ (List.mem_of_getLast? hlast)
  obtain ⟨ys, xs, hrev, hys⟩ := List.eq_append_cons_of_mem (List.mem_reverse.2 hmem)
  have hcut : bs = xs.reverse ++ b :: ys.reverse := by
    rw [← bs.reverse_reverse, hrev]
    simp
  rw [hcut] at h hlast
  cases hnil : ys.reverse with
  | nil => simp [hnil] at h
  | cons y ys' =>
      have hne : decodeLossy ys.reverse ≠ [] := decodeLossy_ne_nil (by simp [hnil])
      rw [decodeLossy_append_cons hb, List.getLast?_append, List.getLast?_cons,
        List.getLast?_eq_some_getLast hne] at hlast
      have heq := Option.some.inj hlast
      have hback := List.getLast_mem hne
      rw [Option.getD_some] at heq
      rw [heq] at hback
      exact hys (List.mem_reverse.1 (mem_of_mem_decodeLossy hb h₀ hback))

/-! ## Well-formed bytes -/

theorem encode_cons (c : Char) (cs : List Char) :
    encode (c :: cs) = encodeChar c ++ encode cs := rfl

theorem encode_append (xs ys : List Char) :
    encode (xs ++ ys) = encode xs ++ encode ys := List.flatMap_append

theorem toNat_toUInt8 {n : Nat} (h : n < 256) : n.toUInt8.toNat = n :=
  UInt8.toNat_ofNat_of_lt' h

theorem lead_two {m : Nat} (h₂ : 2 ≤ m) (h : m < 32) :
    lead (0xC0 + m).toUInt8 = .more ⟨0, 0x80, 0xBF, m⟩ := by
  have hb : (0xC0 + m).toUInt8.toNat = 0xC0 + m := toNat_toUInt8 (by omega)
  simp only [lead, hb, beq_iff_eq]
  rw [if_neg (by omega), if_neg (by omega), if_pos (by omega), Nat.add_sub_cancel_left]

theorem lead_three {m : Nat} (h : m < 16) :
    lead (0xE0 + m).toUInt8
      = .more ⟨1, if m = 0 then 0xA0 else 0x80, if m = 13 then 0x9F else 0xBF, m⟩ := by
  have hb : (0xE0 + m).toUInt8.toNat = 0xE0 + m := toNat_toUInt8 (by omega)
  simp only [lead, hb, beq_iff_eq]
  rw [if_neg (by omega), if_neg (by omega), if_neg (by omega)]
  by_cases h₀ : m = 0
  · subst h₀
    rfl
  by_cases h₁₃ : m = 13
  · subst h₁₃
    rfl
  rw [if_neg (by omega), if_neg (by omega), if_pos (by omega), if_neg h₀, if_neg h₁₃,
    Nat.add_sub_cancel_left]

theorem lead_four {m : Nat} (h : m < 5) :
    lead (0xF0 + m).toUInt8
      = .more ⟨2, if m = 0 then 0x90 else 0x80, if m = 4 then 0x8F else 0xBF, m⟩ := by
  match m, h with
  | 0, _ | 1, _ | 2, _ | 3, _ | 4, _ => rfl

/-- A continuation byte with bits of a number. -/
theorem step_continuation {lo hi value n : Nat} (hn : n < 64) (hlo : lo ≤ 0x80 + n)
    (hhi : 0x80 + n ≤ hi) (k : Nat) :
    step (some ⟨k, lo, hi, value⟩) (0x80 + n).toUInt8 =
      match k with
      | 0 => ([Char.ofNat (value * 64 + n)], none)
      | k + 1 => ([], some ⟨k, 0x80, 0xBF, value * 64 + n⟩) := by
  have hb : (0x80 + n).toUInt8.toNat = 0x80 + n := toNat_toUInt8 (by omega)
  rw [step, hb, if_pos ⟨hlo, hhi⟩, Nat.add_sub_cancel_left]

theorem step_none_of_lead (h : lead b = .more p) : step none b = ([], some p) := by
  rw [step, h]

/-- The bytes of a character give the character. -/
theorem decodeFrom_encodeChar (c : Char) (bs : List UInt8) :
    decodeFrom [] none (encodeChar c ++ bs) = c :: decodeFrom [] none bs := by
  have hvalid : c.toNat < 0xD800 ∨ 0xDFFF < c.toNat ∧ c.toNat < 0x110000 := c.valid
  have hmod : c.toNat % 64 < 64 := Nat.mod_lt _ (by decide)
  have hmid : c.toNat / 64 % 64 < 64 := Nat.mod_lt _ (by decide)
  have htop : c.toNat / 4096 % 64 < 64 := Nat.mod_lt _ (by decide)
  unfold encodeChar
  dsimp only
  split
  case isTrue h =>
    have hb : c.toNat.toUInt8.toNat = c.toNat := toNat_toUInt8 (by omega)
    rw [List.singleton_append, decodeFrom_cons, step_of_lt sound_none (by omega), hb,
      Char.ofNat_toNat]
    rfl
  split
  case isTrue h =>
    have hvalue : c.toNat / 64 * 64 + c.toNat % 64 = c.toNat := by omega
    simp only [List.cons_append, List.nil_append]
    rw [decodeFrom_cons, step_none_of_lead (lead_two (by omega) (by omega)), decodeFrom_cons,
      step_continuation hmod (by omega) (by omega), hvalue, Char.ofNat_toNat]
    rfl
  split
  case isTrue h =>
    have hvalue : (c.toNat / 4096 * 64 + c.toNat / 64 % 64) * 64 + c.toNat % 64 = c.toNat := by
      omega
    simp only [List.cons_append, List.nil_append]
    rw [decodeFrom_cons, step_none_of_lead (lead_three (by omega)), decodeFrom_cons,
      step_continuation hmid (by split <;> omega) (by split <;> omega), decodeFrom_cons,
      step_continuation hmod (by omega) (by omega), hvalue, Char.ofNat_toNat]
    rfl
  case isFalse h =>
    have hvalue : ((c.toNat / 262144 * 64 + c.toNat / 4096 % 64) * 64 + c.toNat / 64 % 64) * 64
        + c.toNat % 64 = c.toNat := by omega
    simp only [List.cons_append, List.nil_append]
    rw [decodeFrom_cons, step_none_of_lead (lead_four (by omega)), decodeFrom_cons,
      step_continuation htop (by split <;> omega) (by split <;> omega), decodeFrom_cons,
      step_continuation hmid (by omega) (by omega), decodeFrom_cons,
      step_continuation hmod (by omega) (by omega), hvalue, Char.ofNat_toNat]
    rfl

/-- Reading undoes writing. -/
theorem decodeLossy_encode (cs : List Char) : decodeLossy (encode cs) = cs := by
  induction cs with
  | nil => rfl
  | cons c cs ih =>
      rw [encode_cons, decodeLossy, decodeFrom_encodeChar]
      exact congrArg (c :: ·) ih

/-! ## Bytes of a character -/

theorem encodeChar_of_lt (h : c.toNat < 0x80) : encodeChar c = [c.toNat.toUInt8] := by
  simp only [encodeChar, if_pos h]

/-- A character from 0x80 on has no byte below 0x80. -/
theorem le_of_mem_encodeChar (h : 0x80 ≤ c.toNat) (hb : b ∈ encodeChar c) : 0x80 ≤ b.toNat := by
  have hvalid : c.toNat < 0xD800 ∨ 0xDFFF < c.toNat ∧ c.toNat < 0x110000 := c.valid
  have hbyte {n : Nat} (hlo : 0x80 ≤ n) (hhi : n < 256) : 0x80 ≤ n.toUInt8.toNat := by
    rwa [toNat_toUInt8 hhi]
  unfold encodeChar at hb
  simp only [if_neg (Nat.not_lt.2 h)] at hb
  repeat' split at hb
  all_goals
    simp only [List.mem_cons, List.not_mem_nil, or_false] at hb
    rcases hb with rfl | rfl | rfl | rfl <;> exact hbyte (by omega) (by omega)

/-- The first byte of a character below 0x80 is this character.  That of any other one is neither
such a character nor a continuation. -/
theorem exists_encodeChar_eq_cons (c : Char) :
    ∃ b bs, encodeChar c = b :: bs ∧
      (c.toNat < 0x80 ∧ b.toNat = c.toNat ∨ 0x80 ≤ c.toNat ∧ 0xC0 ≤ b.toNat) := by
  have hvalid : c.toNat < 0xD800 ∨ 0xDFFF < c.toNat ∧ c.toNat < 0x110000 := c.valid
  have hbyte {n : Nat} (hlo : 0xC0 ≤ n) (hhi : n < 256) : 0xC0 ≤ n.toUInt8.toNat := by
    rwa [toNat_toUInt8 hhi]
  rcases Nat.lt_or_ge c.toNat 0x80 with hlt | hle
  · exact ⟨_, _, encodeChar_of_lt hlt, .inl ⟨hlt, toNat_toUInt8 (by omega)⟩⟩
  · unfold encodeChar
    simp only [if_neg (Nat.not_lt.2 hle)]
    repeat' split
    all_goals exact ⟨_, _, rfl, .inr ⟨hle, hbyte (by omega) (by omega)⟩⟩

/-- A text has the byte of a character below 0x80 only if it has the character. -/
theorem mem_of_mem_encode {cs : List Char} (hb : b.toNat < 0x80) (h : b ∈ encode cs) :
    Char.ofNat b.toNat ∈ cs := by
  obtain ⟨c, hc, hmem⟩ := List.mem_flatMap.1 h
  rcases Nat.lt_or_ge c.toNat 0x80 with hlt | hle
  · rw [encodeChar_of_lt hlt, List.mem_singleton] at hmem
    rw [hmem, toNat_toUInt8 (by omega), Char.ofNat_toNat]
    exact hc
  · exact absurd (le_of_mem_encodeChar hle hmem) (by omega)

/-- The first byte is an ASCII character just if the first character is. -/
theorem head?_encode (h : c.toNat < 0x80) (cs : List Char) :
    (encode cs).head? = some c.toNat.toUInt8 ↔ cs.head? = some c := by
  have hc : c.toNat.toUInt8.toNat = c.toNat := toNat_toUInt8 (by omega)
  cases cs with
  | nil => simp [encode]
  | cons d ds =>
      obtain ⟨b, bs, hd, hb⟩ := exists_encodeChar_eq_cons d
      simp only [encode_cons, hd, List.cons_append, List.head?_cons, Option.some.injEq,
        ← UInt8.toNat_inj, hc, ← Char.toNat_inj]
      omega

theorem isEmpty_encode (cs : List Char) : (encode cs).isEmpty = cs.isEmpty := by
  cases cs with
  | nil => rfl
  | cons c cs =>
      obtain ⟨b, bs, hc, -⟩ := exists_encodeChar_eq_cons c
      simp [encode_cons, hc]

end PerlLint.Text.Utf8
