/-!
# UTF-8 text in byte streams

A program's output is bytes, and the rest of the library works on characters.
`encode` writes characters as UTF-8.  `decodeLossy` reads any byte sequence
whatever.  It replaces each *maximal subpart* of an ill-formed sequence by one
U+FFFD, as the Unicode standard recommends.  A maximal subpart is the longest
start of a well-formed sequence that the bytes offer, and at least one byte.
`decode?` reads well-formed sequences only.

The reader is a machine with one state per place in a sequence.  A lead byte
fixes how many continuation bytes follow, and the range of the first of them.
That range is what rules out overlong forms, surrogates and numbers above
U+10FFFF (the table of well-formed sequences of the standard).  A byte outside
the range ends the subpart and is read again as a lead byte.

All three take one pass.  The accumulator is in reverse order, so that very
long lines do not use the stack.

A shell does not care for the encoding of what passes through it: it works on
bytes.  For it a byte is written as the character with its number, so that a
shell text is a list of characters all the same.  `Bytes.ofString` gives the
bytes of a text in this form, and `Bytes.toString` reads them back.
-/

namespace PerlLint.Text.Utf8

/-! ## Writing -/

/-- The UTF-8 form of one character: one to four bytes. -/
def encodeChar (c : Char) : List UInt8 :=
  let n := c.toNat
  if n < 0x80 then [n.toUInt8]
  else if n < 0x800 then [(0xC0 + n / 64).toUInt8, (0x80 + n % 64).toUInt8]
  else if n < 0x10000 then
    [(0xE0 + n / 4096).toUInt8, (0x80 + n / 64 % 64).toUInt8, (0x80 + n % 64).toUInt8]
  else
    [(0xF0 + n / 262144).toUInt8, (0x80 + n / 4096 % 64).toUInt8, (0x80 + n / 64 % 64).toUInt8,
      (0x80 + n % 64).toUInt8]

/-- The UTF-8 form of a text. -/
def encode (cs : List Char) : List UInt8 := cs.flatMap encodeChar

/-! ## Reading -/

/-- The character that stands for an ill-formed subpart. -/
def replacement : Char := '\ufffd'

/-- A place inside a sequence: `need + 1` continuation bytes are still due, the
next of them between `lo` and `hi`, and `value` holds the bits read so far. -/
structure Partial where
  /-- Continuation bytes due after the next one. -/
  need : Nat
  /-- The least next byte. -/
  lo : Nat
  /-- The greatest next byte. -/
  hi : Nat
  /-- The bits read so far. -/
  value : Nat
deriving Repr, DecidableEq

/-- What a lead byte starts. -/
inductive Lead where
  /-- A whole character. -/
  | char (c : Char)
  /-- A longer sequence. -/
  | more (p : Partial)
  /-- Nothing: the byte starts no sequence. -/
  | bad

/-- The table of lead bytes. -/
def lead (b : UInt8) : Lead :=
  let n := b.toNat
  if n < 0x80 then .char (Char.ofNat n)
  else if n < 0xC2 then .bad
  else if n < 0xE0 then .more ⟨0, 0x80, 0xBF, n - 0xC0⟩
  else if n == 0xE0 then .more ⟨1, 0xA0, 0xBF, 0⟩
  else if n == 0xED then .more ⟨1, 0x80, 0x9F, 0xD⟩
  else if n < 0xF0 then .more ⟨1, 0x80, 0xBF, n - 0xE0⟩
  else if n == 0xF0 then .more ⟨2, 0x90, 0xBF, 0⟩
  else if n < 0xF4 then .more ⟨2, 0x80, 0xBF, n - 0xF0⟩
  else if n == 0xF4 then .more ⟨2, 0x80, 0x8F, 4⟩
  else .bad

/-- Reads on from a place inside a sequence (`some`) or between characters
(`none`).  The characters read are on `acc`, last first. -/
def decodeFrom (acc : List Char) : Option Partial → List UInt8 → List Char
  | none, [] => acc.reverse
  | some _, [] => (replacement :: acc).reverse
  | none, b :: bs =>
      match lead b with
      | .char c => decodeFrom (c :: acc) none bs
      | .more p => decodeFrom acc (some p) bs
      | .bad => decodeFrom (replacement :: acc) none bs
  | some p, b :: bs =>
      if p.lo ≤ b.toNat ∧ b.toNat ≤ p.hi then
        let v := p.value * 64 + (b.toNat - 0x80)
        match p.need with
        | 0 => decodeFrom (Char.ofNat v :: acc) none bs
        | k + 1 => decodeFrom acc (some ⟨k, 0x80, 0xBF, v⟩) bs
      else
        match lead b with
        | .char c => decodeFrom (c :: replacement :: acc) none bs
        | .more q => decodeFrom (replacement :: acc) (some q) bs
        | .bad => decodeFrom (replacement :: replacement :: acc) none bs
termination_by structural _ bs => bs

/-- The text of a byte sequence, one U+FFFD per maximal ill-formed subpart. -/
def decodeLossy (bs : List UInt8) : List Char := decodeFrom [] none bs

/-- An overlong form and a surrogate are one subpart per byte. -/
example : decodeLossy [0xC0, 0xAF] = ['\ufffd', '\ufffd']
    ∧ decodeLossy [0xED, 0xA0, 0x80] = ['\ufffd', '\ufffd', '\ufffd'] := by decide

/-- Reads on like `decodeFrom`, but gives up at an ill-formed subpart. -/
def decodeFrom? (acc : List Char) : Option Partial → List UInt8 → Option (List Char)
  | none, [] => some acc.reverse
  | some _, [] => none
  | none, b :: bs =>
      match lead b with
      | .char c => decodeFrom? (c :: acc) none bs
      | .more p => decodeFrom? acc (some p) bs
      | .bad => none
  | some p, b :: bs =>
      if p.lo ≤ b.toNat ∧ b.toNat ≤ p.hi then
        let v := p.value * 64 + (b.toNat - 0x80)
        match p.need with
        | 0 => decodeFrom? (Char.ofNat v :: acc) none bs
        | k + 1 => decodeFrom? acc (some ⟨k, 0x80, 0xBF, v⟩) bs
      else none
termination_by structural _ bs => bs

/-- The text of a well-formed byte sequence. -/
def decode? (bs : List UInt8) : Option (List Char) := decodeFrom? [] none bs

end PerlLint.Text.Utf8

namespace PerlLint.Text.Bytes

/-- Bytes as characters. -/
def ofBytes (bs : List UInt8) : List Char := bs.map fun b => Char.ofNat b.toNat

/-- Characters as bytes. -/
def toBytes (cs : List Char) : List UInt8 := cs.map fun c => c.toNat.toUInt8

/-- The bytes of a text, as characters. -/
def ofString (s : String) : List Char := ofBytes (Utf8.encode s.toList)

/-- The text that bytes stand for. -/
def toString (cs : List Char) : String := String.ofList (Utf8.decodeLossy (toBytes cs))

end PerlLint.Text.Bytes
