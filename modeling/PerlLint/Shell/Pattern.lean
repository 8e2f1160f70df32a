/-!
# Patterns

A pattern is matched against a whole text.  `*` stands for any characters, `?`
for one, and a set for one of some.
-/

namespace PerlLint.Shell

/-- An element of a pattern. -/
inductive Glob where
  /-- Any characters. -/
  | many
  /-- Any one character. -/
  | one
  /-- A character that stands for itself. -/
  | char (c : Char)
  /-- One character of some ranges, or none of them if `negated` says so. -/
  | set (negated : Bool) (ranges : List (Char × Char))
deriving Repr, DecidableEq

namespace Glob

/-- Whether one of the ends of a text satisfies `p`. -/
def anyTail (p : List Char → Bool) : List Char → Bool
  | [] => p []
  | c :: cs => p (c :: cs) || anyTail p cs
termination_by structural cs => cs

/-- Whether a pattern matches a text. -/
def matchesAll : (pattern : List Glob) → List Char → Bool
  | [], cs => cs.isEmpty
  | many :: ps, cs => anyTail (matchesAll ps) cs
  | one :: ps, cs => match cs with
      | [] => false
      | _ :: cs => matchesAll ps cs
  | char d :: ps, cs => match cs with
      | [] => false
      | c :: cs => c == d && matchesAll ps cs
  | set negated ranges :: ps, cs => match cs with
      | [] => false
      | c :: cs => (negated != ranges.any fun r => r.1 ≤ c && c ≤ r.2) && matchesAll ps cs
termination_by structural pattern => pattern

/-- The ranges of a set, and what follows its closing bracket. -/
def setRanges (acc : List (Char × Char)) : (bound : Nat) → List (Char × Bool) →
    Option (List (Char × Char) × List (Char × Bool))
  | 0, _ => none
  | _ + 1, [] => none
  | n + 1, (c, quoted) :: cs =>
      if c = ']' ∧ !quoted ∧ !acc.isEmpty then some (acc, cs)
      else
        match cs with
        | ('-', false) :: (d, q) :: rest =>
            if d = ']' ∧ !q then setRanges ((c, c) :: acc) n cs
            else setRanges ((c, d) :: acc) n rest
        | _ => setRanges ((c, c) :: acc) n cs

/-- The pattern that characters are, each with whether it is quoted. -/
def ofChars (acc : List Glob) : (bound : Nat) → List (Char × Bool) → List Glob
  | 0, _ => acc.reverse
  | _ + 1, [] => acc.reverse
  | n + 1, (c, quoted) :: cs =>
      if quoted then ofChars (char c :: acc) n cs
      else if c = '*' then ofChars (many :: acc) n cs
      else if c = '?' then ofChars (one :: acc) n cs
      else if c = '[' then
        let negated := match cs with
          | ('!', false) :: _ => true
          | _ => false
        match setRanges [] (cs.length + 1) (if negated then cs.drop 1 else cs) with
        | some (ranges, rest) => ofChars (set negated ranges :: acc) n rest
        | none => ofChars (char c :: acc) n cs
      else ofChars (char c :: acc) n cs

/-- The pattern that characters are. -/
def ofWord (cs : List (Char × Bool)) : List Glob := ofChars [] (cs.length + 1) cs

end Glob

end PerlLint.Shell
