/-!
# Punycode

A text of any script is written in ASCII as follows.  Its ASCII characters come
first, in their order, and then a hyphen if there are any.  The other characters
follow as *insertions* into what is there already: the least character first, and
equal ones from left to right.

A decoder goes through all characters, and for each through all places of the text
that is there.  An insertion is written as the number of steps from the insertion in
front of it.  The number is written in digits of base 36, the least first.  Every
digit has a *threshold*, and the first digit below its threshold is the last.  The
thresholds depend on a *bias*, which follows the size of the numbers seen.
-/

namespace PerlLint.Text.Punycode

/-! ## Numbers -/

/-- The digit with a value. -/
def digit (n : Nat) : Char := if n < 26 then Char.ofNat (97 + n) else Char.ofNat (22 + n)

/-- The value of a digit. -/
def digitValue? (c : Char) : Option Nat :=
  if 'a' ≤ c ∧ c ≤ 'z' then some (c.toNat - 97)
  else if 'A' ≤ c ∧ c ≤ 'Z' then some (c.toNat - 65)
  else if '0' ≤ c ∧ c ≤ '9' then some (c.toNat - 22)
  else none

/-- The threshold of a digit.  `k` is 36 for the first digit, 72 for the second, and so
on. -/
def threshold (bias k : Nat) : Nat := min 26 (max 1 (k - bias))

theorem threshold_pos (bias k : Nat) : 0 < threshold bias k := by unfold threshold; omega

/-- A number in digits from the one at `k` on. -/
def digits (bias k n : Nat) : List Char :=
  let t := threshold bias k
  if n < t then [digit n]
  else digit (t + (n - t) % (36 - t)) :: digits bias (k + 36) ((n - t) / (36 - t))
termination_by n
decreasing_by
  have := threshold_pos bias k
  have := Nat.div_le_self (n - threshold bias k) (36 - threshold bias k)
  omega

/-- Brings a number down below a bound, and gives the bias that follows from it. -/
def settle (k n : Nat) : Nat :=
  if 455 < n then settle (k + 36) (n / 35) else k + 36 * n / (n + 38)
termination_by n

/-- The bias after the number `n`, when the text has `size` characters. -/
def nextBias (n size : Nat) (isFirst : Bool) : Nat :=
  let n := if isFirst then n / 700 else n / 2
  settle 0 (n + n / size)

/-- Reads a number from the digit at `k` on.  `weight` is what the digit counts, and
`n` what the digits in front of it make.  Gives the number and the rest. -/
def number? (bias k weight n : Nat) : List Char → Option (Nat × List Char)
  | [] => none
  | c :: cs =>
      match digitValue? c with
      | none => none
      | some d =>
          let t := threshold bias k
          if d < t then some (n + d * weight, cs)
          else number? bias (k + 36) (weight * (36 - t)) (n + d * weight) cs

theorem length_lt_of_number? {bias k weight n m : Nat} {cs rest : List Char}
    (h : number? bias k weight n cs = some (m, rest)) : rest.length < cs.length := by
  induction cs generalizing k weight n with
  | nil => simp [number?] at h
  | cons c cs ih =>
    simp only [number?] at h
    split at h
    · simp at h
    · split at h
      · simp only [Option.some.injEq, Prod.mk.injEq] at h
        simp [← h.2]
      · exact Nat.lt_succ_of_lt (ih h)

/-! ## Writing -/

/-- A character and the place where it goes. -/
structure Insertion where
  /-- The number of the character. -/
  code : Nat
  /-- How many characters stand in front of it when it comes. -/
  place : Nat
deriving Repr, DecidableEq

/-- Adds an insertion to others in order, in front of those with the same
character. -/
def Insertion.add (x : Insertion) : List Insertion → List Insertion
  | [] => [x]
  | y :: ys => if x.code ≤ y.code then x :: y :: ys else y :: x.add ys

/-- The insertions of the characters that follow `front`. -/
def insertionsAfter (front : List Char) : List Char → List Insertion
  | [] => []
  | c :: cs =>
      let later := insertionsAfter (front ++ [c]) cs
      if c.toNat < 0x80 then later
      else Insertion.add ⟨c.toNat, (front.filter fun d => d.toNat ≤ c.toNat).length⟩ later

/-- Writes insertions.  `code` and `place` say how far the decoder has come, and `size`
is the length of the text that is there. -/
def writeInsertions (code place bias size : Nat) (isFirst : Bool) : List Insertion → List Char
  | [] => []
  | x :: xs =>
      let n := (x.code - code) * (size + 1) + x.place - place
      digits bias 36 n
        ++ writeInsertions x.code (x.place + 1) (nextBias n (size + 1) isFirst) (size + 1) false xs

/-- The form of a text in ASCII. -/
def encode (cs : List Char) : List Char :=
  let basic := cs.filter fun c => c.toNat < 0x80
  basic ++ (if basic.isEmpty then [] else ['-'])
    ++ writeInsertions 0x80 0 72 basic.length true (insertionsAfter [] cs)

example : encode "他们为什么不说中文".toList = "ihqwcrb4cv8a8dqg056pqjye".toList := by
  decide +kernel

/-! ## Reading -/

/-- A number of a character that is not in ASCII. -/
def isCharacter (n : Nat) : Bool := n < 0xD800 || (0xDFFF < n && n < 0x110000)

/-- Reads insertions into `text`. -/
def readInsertions (code place bias : Nat) (isFirst : Bool) (text cs : List Char) :
    Option (List Char) :=
  if cs.isEmpty then some text
  else
    match _h : number? bias 36 1 0 cs with
    | none => none
    | some (n, rest) =>
        let size := text.length + 1
        let code := code + (place + n) / size
        let here := (place + n) % size
        if isCharacter code then
          readInsertions code (here + 1) (nextBias n size isFirst) false
            (text.take here ++ Char.ofNat code :: text.drop here) rest
        else none
termination_by cs.length
decreasing_by exact length_lt_of_number? (by assumption)

/-- The text in front of the last hyphen, and the text after it. -/
def splitLast (cs : List Char) : List Char × List Char :=
  let back := cs.reverse.takeWhile (· != '-')
  match cs.reverse.drop back.length with
  | _ :: c :: front => ((c :: front).reverse, back.reverse)
  | _ => ([], cs)

/-- The text that a form in ASCII stands for. -/
def decode? (cs : List Char) : Option (List Char) :=
  let (basic, rest) := splitLast cs
  readInsertions 0x80 0 72 true basic rest

end PerlLint.Text.Punycode
