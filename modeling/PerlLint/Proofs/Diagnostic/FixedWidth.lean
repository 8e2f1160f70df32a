import PerlLint.Proofs.Diagnostic.Position
import PerlLint.Proofs.Text.Numeral
import PerlLint.Proofs.Text.Utf8

/-!
# Numbers in words of fixed width

The readers of numbers work on characters and have integers of any size.  Here the same is computed
with less.  A text is its bytes in UTF-8, a number is a signed word of 64 bits, and a line or column
is an unsigned word of 32 bits.  Such a computation can fault (`Fault`): a text may be cut only
where a character ends, and not every result has a word.

`leading?` reads a number in this way.  It cuts off the sign and then the digits, parses the digits,
and multiplies with the sign.  None of this faults, and the number is the one that `leadingInt?`
reads (`leading?_eq`).  Digits whose number has no word are no fault: they are no number.

`start` counts from 0 what is counted from 1, and `shown` counts it from 1 again.  Only the second
one can fault, and only for the greatest word of 32 bits (`shown_eq`).
-/

namespace PerlLint.FixedWidth

open Text

variable {c : Char} {cs ds : List Char} {w : Int64} {n : Int}

/-- What makes a computation fault. -/
inductive Fault where
  /-- A text is cut inside a character. -/
  | cut
  /-- A result has no word. -/
  | overflow
deriving Repr, DecidableEq

/-! ## Cutting texts -/

/-- A byte that belongs to the character in front of it. -/
def isContinuation (b : UInt8) : Bool := 0x80 ≤ b.toNat && b.toNat < 0xC0

/-- A text may be cut in front of a byte that begins a character, and at its end. -/
def isBoundary (bs : List UInt8) (k : Nat) : Bool :=
  match bs[k]? with
  | some b => !isContinuation b
  | none => k == bs.length

/-- The two parts of a text, cut after so many bytes. -/
def cutAt (k : Nat) (bs : List UInt8) : Except Fault (List UInt8 × List UInt8) :=
  if isBoundary bs k then .ok (bs.take k, bs.drop k) else .error .cut

/-- A text may be cut between its characters. -/
theorem cutAt_encode (xs ys : List Char) :
    cutAt (Utf8.encode xs).length (Utf8.encode (xs ++ ys))
      = .ok (Utf8.encode xs, Utf8.encode ys) := by
  have hboundary : isBoundary (Utf8.encode (xs ++ ys)) (Utf8.encode xs).length := by
    rw [isBoundary, Utf8.encode_append, List.getElem?_append_right (Nat.le_refl _), Nat.sub_self]
    cases ys with
    | nil => simp [Utf8.encode]
    | cons y ys =>
        obtain ⟨b, bs, hy, hb⟩ := Utf8.exists_encodeChar_eq_cons y
        simp [Utf8.encode_cons, hy, isContinuation]
        omega
  rw [cutAt, if_pos hboundary, Utf8.encode_append, List.take_left, List.drop_left]

/-- Inside a character a text may not be cut. -/
example : cutAt 1 (Utf8.encode ['é', 'a']) = .error .cut := by decide +kernel

/-! ## Signs and digits -/

/-- A byte that is an ASCII digit. -/
def isDigitByte (b : UInt8) : Bool := 48 ≤ b.toNat && b.toNat ≤ 57

/-- Cuts off one sign in front, which is 1 or -1. -/
def cutSign (bs : List UInt8) : Except Fault (Int64 × List UInt8) :=
  if bs.head? = some 45 then (fun parts => (-1, parts.2)) <$> cutAt 1 bs
  else if bs.head? = some 43 then (fun parts => (1, parts.2)) <$> cutAt 1 bs
  else .ok (1, bs)

/-- Cuts off the digits in front. -/
def cutDigits (bs : List UInt8) : Except Fault (List UInt8) :=
  Prod.fst <$> cutAt (bs.findIdx fun b => !isDigitByte b) bs

theorem cutSign_encode (cs : List Char) :
    cutSign (Utf8.encode cs)
      = .ok (if (splitSign cs).1 then -1 else 1, Utf8.encode (splitSign cs).2) := by
  have hminus : (Utf8.encode cs).head? = some 45 ↔ cs.head? = some '-' :=
    Utf8.head?_encode (c := '-') (by decide) cs
  have hplus : (Utf8.encode cs).head? = some 43 ↔ cs.head? = some '+' :=
    Utf8.head?_encode (c := '+') (by decide) cs
  have hcut : ∀ {c : Char}, c.toNat < 0x80 → ∀ cs, cutAt 1 (Utf8.encode (c :: cs))
      = .ok ([c.toNat.toUInt8], Utf8.encode cs) := by
    intro c hc cs
    have h := cutAt_encode [c] cs
    rwa [Utf8.encode, List.flatMap_singleton, Utf8.encodeChar_of_lt hc] at h
  unfold cutSign
  obtain ⟨rest, rfl, heq⟩ | ⟨rest, rfl, heq⟩ | ⟨hnotMinus, hnotPlus, heq⟩ := splitSign_cases cs
  · rw [if_pos (hminus.2 rfl), hcut (by decide), heq]
    rfl
  · rw [if_neg (mt hminus.1 (by simp)), if_pos (hplus.2 rfl), hcut (by decide), heq]
    rfl
  · rw [if_neg (mt hminus.1 hnotMinus), if_neg (mt hplus.1 hnotPlus), heq]
    rfl

/-- The digit bytes are the digits. -/
theorem findIdx_encode (hds : ∀ d ∈ ds, isDigit d)
    (hcs : ∀ c, cs.head? = some c → ¬ isDigit c) :
    (Utf8.encode (ds ++ cs)).findIdx (fun b => !isDigitByte b) = (Utf8.encode ds).length := by
  have hall : ∀ b ∈ Utf8.encode ds, isDigitByte b := by
    intro b hb
    obtain ⟨d, hd, hmem⟩ := List.mem_flatMap.1 hb
    have hdigit := isDigit_iff.1 (hds d hd)
    rw [Utf8.encodeChar_of_lt (by omega), List.mem_singleton] at hmem
    rw [hmem]
    have hbyte : d.toNat.toUInt8.toNat = d.toNat := Utf8.toNat_toUInt8 (by omega)
    simp [isDigitByte, hbyte, hdigit]
  have hfirst : (Utf8.encode cs).findIdx (fun b => !isDigitByte b) = 0 := by
    cases cs with
    | nil => rfl
    | cons c cs =>
        have hc := mt isDigit_iff.2 (hcs c rfl)
        obtain ⟨b, bs, hchar, hb⟩ := Utf8.exists_encodeChar_eq_cons c
        have hbyte : isDigitByte b = false := by
          simp [isDigitByte]
          omega
        simp [Utf8.encode_cons, hchar, List.findIdx_cons, hbyte]
  have hnone : (Utf8.encode ds).findIdx (fun b => !isDigitByte b) = (Utf8.encode ds).length :=
    List.findIdx_eq_length.2 fun b hb => by simp [hall b hb]
  rw [Utf8.encode_append, List.findIdx_append, hnone, if_neg (Nat.lt_irrefl _), hfirst,
    Nat.zero_add]

theorem cutDigits_encode (cs : List Char) :
    cutDigits (Utf8.encode cs) = .ok (Utf8.encode (cs.takeWhile isDigit)) := by
  obtain ⟨ds, rest, hdigits, hrest, rfl, htake⟩ := exists_digits cs
  rw [cutDigits, findIdx_encode hdigits hrest, cutAt_encode, htake]
  rfl

/-! ## Words -/

/-- The word of a number, if it has one. -/
def word? (n : Int) : Option Int64 :=
  if Int64.minValue.toInt ≤ n ∧ n ≤ Int64.maxValue.toInt then some (.ofInt n) else none

theorem bounds (w : Int64) :
    -9223372036854775808 ≤ w.toInt ∧ w.toInt ≤ 9223372036854775807 :=
  ⟨w.minValue_le_toInt, w.toInt_le⟩

theorem word?_eq_some_iff : word? n = some w ↔ w.toInt = n := by
  unfold word?
  constructor
  · intro h
    split at h
    case isTrue hrange =>
      cases h
      exact Int64.toInt_ofInt_of_le hrange.1 (Int.lt_of_le_of_lt hrange.2 (by decide))
    case isFalse => cases h
  · rintro rfl
    rw [if_pos ⟨w.minValue_le_toInt, w.toInt_le⟩, Int64.ofInt_toInt]

theorem exists_toInt_eq (hmin : -9223372036854775808 ≤ n) (hmax : n ≤ 9223372036854775807) :
    ∃ w : Int64, w.toInt = n :=
  ⟨.ofInt n, word?_eq_some_iff.1 (if_pos ⟨hmin, hmax⟩)⟩

/-- One more digit behind a number. -/
def pushDigit (n : Int64) (b : UInt8) : Option Int64 := do
  let tens ← word? (n.toInt * 10)
  word? (tens.toInt + (b.toNat - 48))

/-- The word of some digits, if they have one. -/
def parse? (ds : List UInt8) : Option Int64 := ds.foldlM pushDigit 0

theorem pushDigit_eq_some_iff {d : Char} (hd : isDigit d) {m : Nat} (hw : w.toInt = m)
    {v : Int64} :
    pushDigit w d.toNat.toUInt8 = some v ↔ v.toInt = (10 * m + digitValue d : Nat) := by
  have hdigit := isDigit_iff.1 hd
  have hvalue : (digitValue d : Int) = d.toNat - 48 := by
    unfold digitValue
    have hzero : '0'.toNat = 48 := rfl
    omega
  have hbyte : d.toNat.toUInt8.toNat = d.toNat := Utf8.toNat_toUInt8 (by omega)
  rw [pushDigit, hw, hbyte]
  simp only [Option.bind_eq_bind, Option.bind_eq_some_iff, word?_eq_some_iff]
  constructor
  · rintro ⟨tens, htens, hv⟩
    omega
  · intro hv
    have hmax := (bounds v).2
    obtain ⟨tens, htens⟩ := exists_toInt_eq (n := m * 10) (by omega) (by omega)
    exact ⟨tens, htens, by omega⟩

/-- The digits have just the word of their value. -/
theorem foldlM_pushDigit_eq_some_iff (hds : ∀ d ∈ ds, isDigit d) {m : Nat} (hw : w.toInt = m)
    {v : Int64} : (Utf8.encode ds).foldlM pushDigit w = some v ↔
      v.toInt = (ds.foldl (fun n d => 10 * n + digitValue d) m : Nat) := by
  induction ds generalizing w m with
  | nil =>
      rw [List.foldl_nil, ← hw, Int64.toInt_inj]
      exact Option.some_inj.trans eq_comm
  | cons d ds ih =>
      have hd : isDigit d := hds d (.head ds)
      have hchar := Utf8.encodeChar_of_lt (c := d) (by have := isDigit_iff.1 hd; omega)
      have hmono := le_foldl_digitValue ds (10 * m + digitValue d)
      rw [Utf8.encode_cons, hchar, List.singleton_append, List.foldlM_cons, List.foldl_cons]
      simp only [Option.bind_eq_bind, Option.bind_eq_some_iff, pushDigit_eq_some_iff hd hw]
      constructor
      · rintro ⟨u, hu, hv⟩
        exact (ih (fun e he => hds e (.tail d he)) hu).1 hv
      · intro hv
        have hmax := (bounds v).2
        obtain ⟨u, hu⟩ := exists_toInt_eq (n := (10 * m + digitValue d : Nat))
          (by omega) (by omega)
        exact ⟨u, hu, (ih (fun e he => hds e (.tail d he)) hu).2 hv⟩

theorem parse?_eq_some_iff (hds : ∀ d ∈ ds, isDigit d) :
    parse? (Utf8.encode ds) = some w ↔ w.toInt = digitsValue ds :=
  foldlM_pushDigit_eq_some_iff hds rfl

/-- Digits have a word if their value is below the bound. -/
theorem parse?_eq_none_iff (hds : ∀ d ∈ ds, isDigit d) :
    parse? (Utf8.encode ds) = none ↔ ¬ digitsValue ds < wordBound := by
  have hbound : wordBound = 9223372036854775808 := rfl
  constructor
  · intro hnone hlt
    obtain ⟨w, hw⟩ := exists_toInt_eq (n := digitsValue ds) (by omega) (by omega)
    rw [(parse?_eq_some_iff hds).2 hw] at hnone
    cases hnone
  · intro hlt
    cases hparse : parse? (Utf8.encode ds) with
    | none => rfl
    | some w =>
        have hw := (parse?_eq_some_iff hds).1 hparse
        have hmax := (bounds w).2
        omega

/-! ## Reading a number -/

/-- A product of words. -/
def times (a b : Int64) : Except Fault Int64 :=
  match word? (a.toInt * b.toInt) with
  | some n => .ok n
  | none => .error .overflow

/-- The number that a text begins with. -/
def leading? (s : List Char) : Except Fault (Option Int64) := do
  let (sign, bs) ← cutSign (Utf8.encode (trimStart s))
  let ds ← cutDigits bs
  if ds.isEmpty then return none
  match parse? ds with
  | some n => some <$> times sign n
  | none => return none

/-- A word that is not negative may be given a sign. -/
theorem times_sign (hw : 0 ≤ w.toInt) (negative : Bool) :
    ∃ v, times (if negative then -1 else 1) w = .ok v ∧
      v.toInt = if negative then -w.toInt else w.toInt := by
  have hmax := (bounds w).2
  obtain ⟨v, hv⟩ : ∃ v : Int64, v.toInt = if negative then -w.toInt else w.toInt :=
    exists_toInt_eq (by split <;> omega) (by split <;> omega)
  refine ⟨v, ?_, hv⟩
  have hproduct : (if negative then -1 else 1 : Int64).toInt * w.toInt = v.toInt := by
    rw [hv]
    cases negative with
    | false => exact Int.one_mul _
    | true => exact Int.neg_one_mul _
  rw [times, hproduct, word?_eq_some_iff.2 rfl]

/-- Without a fault the same number is read. -/
theorem leading?_eq (s : List Char) :
    Option.map Int64.toInt <$> leading? s = .ok (leadingInt? s) := by
  generalize hsign : splitSign (trimStart s) = parts
  obtain ⟨negative, cs⟩ := parts
  have hdigits : ∀ d ∈ cs.takeWhile isDigit, isDigit d := List.all_eq_true.1 List.all_takeWhile
  rw [leading?, leadingInt?, cutSign_encode, hsign]
  simp only [bind, Except.bind, cutDigits_encode, Utf8.isEmpty_encode]
  split
  case isTrue => rfl
  case isFalse =>
    split
    case h_1 w hw =>
      have hvalue := (parse?_eq_some_iff hdigits).1 hw
      have hbound := Decidable.not_not.1 (mt (parse?_eq_none_iff hdigits).2 (by simp [hw]))
      obtain ⟨v, hv, hint⟩ := times_sign (w := w) (by omega) negative
      rw [hv, if_pos hbound, ← hvalue, ← hint]
      rfl
    case h_2 hnone =>
      rw [if_neg ((parse?_eq_none_iff hdigits).1 hnone)]
      rfl

/-! ## Lines and columns -/

/-- The number before a word, which is the word itself if there is none. -/
def before (n : Int64) : Int64 := if n = .minValue then n else n - 1

/-- The unsigned word of a signed one, if it has one. -/
def narrow? (n : Int64) : Option UInt32 :=
  if 0 ≤ n.toInt ∧ n.toInt < 4294967296 then some (.ofNat n.toInt.toNat) else none

/-- A number counted from 1 as one counted from 0, or 0 if that is none. -/
def zeroBased : Option Int64 → UInt32
  | some n => (narrow? (before n)).getD 0
  | none => 0

/-- The number after a word. -/
def after (n : UInt32) : Except Fault UInt32 :=
  if n.toNat + 1 < 4294967296 then .ok (n + 1) else .error .overflow

/-- The line or column where a range starts, for the text of its field. -/
def start (s : List Char) : Except Fault UInt32 := zeroBased <$> leading? s

/-- The line or column that is shown, for the text of its field. -/
def shown (s : List Char) : Except Fault UInt32 := do after (← start s)

theorem toInt_before (h : w ≠ .minValue) : (before w).toInt = w.toInt - 1 := by
  have hrange := bounds w
  have hne : w.toInt ≠ -9223372036854775808 := mt (Int64.toInt_inj (y := .minValue)).1 h
  rw [before, if_neg h, Int64.toInt_sub]
  exact Int.bmod_eq_of_le (by simp; omega) (by simp; omega)

theorem toNat_zeroBased (w : Option Int64) :
    (zeroBased w).toNat = PerlLint.zeroBased (w.map Int64.toInt) := by
  cases w with
  | none => rfl
  | some w =>
      by_cases hw : w = .minValue
      · subst hw
        decide
      · rw [zeroBased, narrow?, toInt_before hw, Option.map_some, PerlLint.zeroBased]
        split
        case isTrue h =>
          have hfits : (w.toInt - 1).toNat < 4294967296 := by omega
          rw [if_pos ⟨by omega, by unfold positionBound; omega⟩]
          exact UInt32.toNat_ofNat_of_lt' hfits
        case isFalse h =>
          rw [if_neg (by unfold positionBound; omega)]
          rfl

/-- Without a fault the same line or column is the start of the range. -/
theorem start_eq (s : List Char) :
    UInt32.toNat <$> start s = .ok (PerlLint.zeroBased (leadingInt? s)) := by
  have h := leading?_eq s
  unfold start
  generalize leading? s = result at h
  cases result with
  | error fault => cases h
  | ok w =>
      have hw : w.map Int64.toInt = leadingInt? s := Except.ok.inj h
      rw [← hw, ← toNat_zeroBased]
      rfl

/-- The line or column that is shown is the start and one more.  Only after the greatest word there
is none. -/
theorem shown_eq (s : List Char) :
    UInt32.toNat <$> shown s = if leadingInt? s = some 4294967296 then .error .overflow
      else .ok (PerlLint.zeroBased (leadingInt? s) + 1) := by
  have h := start_eq s
  unfold shown
  generalize start s = result at h
  cases result with
  | error fault => cases h
  | ok n =>
      have hn : n.toNat = PerlLint.zeroBased (leadingInt? s) := Except.ok.inj h
      have hlast : n.toNat + 1 < 4294967296 ↔ leadingInt? s ≠ some 4294967296 := by
        rw [hn]
        exact zeroBased_succ_lt_iff
      rw [← hn]
      change UInt32.toNat <$> after n = _
      rw [after]
      by_cases hfits : n.toNat + 1 < 4294967296
      · rw [if_pos hfits, if_neg (hlast.1 hfits)]
        exact congrArg Except.ok ((UInt32.toNat_add n 1).trans (Nat.mod_eq_of_lt hfits))
      · rw [if_neg hfits, if_pos (Decidable.not_not.1 (mt hlast.2 hfits))]
        rfl

example : shown "4294967295".toList = .ok 4294967295
    ∧ shown "4294967296".toList = .error .overflow := by decide +kernel

end PerlLint.FixedWidth
