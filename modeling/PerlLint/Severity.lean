import PerlLint.Text.Numeral

/-!
# Tiers and levels

The critic scores a violation from 1 to 5.  The five scores have names, and a
score with its name is a *tier*.  Tier 1, `brutal`, is the most severe; tier 5,
`gentle`, the mildest.  A score that is missing or not one of 2, 3, 4, 5 is
brutal.

An editor shows a diagnostic at one of four *levels*.  Which level a tier is
shown at is set by a string, the level setting of the tier.  Three strings name
a level and every other string means `error`, so a setting is never wrong.

Tiers are read from text in two ways: by name, in any mix of upper and lower
case ASCII, or by score.  Blanks around either are ignored.
-/

namespace PerlLint

/-! ## Tiers -/

/-- A tier of severity, most severe first. -/
inductive Tier where
  | brutal
  | cruel
  | harsh
  | stern
  | gentle
deriving Repr, DecidableEq, Inhabited

namespace Tier

/-- All tiers, most severe first. -/
def all : List Tier := [.brutal, .cruel, .harsh, .stern, .gentle]

/-- The score of a tier. -/
def code : Tier → Nat
  | brutal => 1
  | cruel => 2
  | harsh => 3
  | stern => 4
  | gentle => 5

/-- The tier of a score. -/
def ofCode (n : Int) : Tier :=
  if n = 5 then gentle
  else if n = 4 then stern
  else if n = 3 then harsh
  else if n = 2 then cruel
  else brutal

/-- The tier of a score that may be missing. -/
def ofCode? : Option Int → Tier
  | some n => ofCode n
  | none => brutal

/-- The lowercase name. -/
def name : Tier → String
  | brutal => "brutal"
  | cruel => "cruel"
  | harsh => "harsh"
  | stern => "stern"
  | gentle => "gentle"

/-- The name in capitals, which opens the message of a diagnostic. -/
def heading : Tier → String
  | brutal => "BRUTAL"
  | cruel => "CRUEL"
  | harsh => "HARSH"
  | stern => "STERN"
  | gentle => "GENTLE"

/-- The option that makes the critic report this tier and the more severe
ones. -/
def flag (t : Tier) : String := "--" ++ t.name

/-- The tier used when nothing is set. -/
def standard : Tier := gentle

/-- Severe before mild. -/
def le (a b : Tier) : Bool := a.code ≤ b.code

/-- An ASCII capital becomes small and all else stays. -/
def lower (c : Char) : Char := if 'A' ≤ c ∧ c ≤ 'Z' then Char.ofNat (c.toNat + 32) else c

/-- The tier that a text names, by name or by score.  `none` for any other
text. -/
def ofChars? (s : List Char) : Option Tier :=
  let s := Text.trim s
  match all.find? fun t => t.name.toList == s.map lower with
  | some t => some t
  | none =>
      match Text.wholeInt? s with
      | some n => if 1 ≤ n ∧ n ≤ 5 then some (ofCode n) else none
      | none => none

/-- The tier that a text names. -/
def ofString? (s : String) : Option Tier := ofChars? s.toList

end Tier

/-! ## Levels -/

/-- A display level, most urgent first. -/
inductive Level where
  | error
  | warning
  | information
  | hint
deriving Repr, DecidableEq, Inhabited

namespace Level

/-- The level that a level setting means. -/
def ofSetting (s : String) : Level :=
  if s = "hint" then hint
  else if s = "info" then information
  else if s = "warning" then warning
  else error

/-- The name in reports for people. -/
def shortName : Level → String
  | error => "error"
  | warning => "warning"
  | information => "info"
  | hint => "hint"

/-- The name in reports for programs. -/
def name : Level → String
  | error => "error"
  | warning => "warning"
  | information => "information"
  | hint => "hint"

/-- The number editors use. -/
def number : Level → Nat
  | error => 1
  | warning => 2
  | information => 3
  | hint => 4

/-- The level used when nothing is set. -/
def standard : Level := error

/-- Urgent before mild. -/
def le (a b : Level) : Bool := a.number ≤ b.number

end Level

end PerlLint
