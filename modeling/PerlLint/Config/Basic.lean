import PerlLint.Severity

/-!
# Configuration

A configuration says whether linting is on, which program to run and where, what
to report, and at which level each tier is shown.

The five level settings are plain strings.  What they mean is decided when a
diagnostic is made, and every string means something, so they are never wrong.
-/

namespace PerlLint

/-- A configuration. -/
structure Config where
  /-- Whether linting is on. -/
  enabled : Bool
  /-- The mildest tier to report. -/
  severity : Tier
  /-- Whether the critic reads the user's own profile. -/
  useProfile : Bool
  /-- Policies to leave out, in order. -/
  excludedPolicies : List String
  /-- The working directory of the critic.  A blank one is none. -/
  path : String
  /-- The program to run. -/
  executable : String
  /-- The level setting of the tier `brutal`. -/
  brutal : String
  /-- The level setting of the tier `cruel`. -/
  cruel : String
  /-- The level setting of the tier `harsh`. -/
  harsh : String
  /-- The level setting of the tier `stern`. -/
  stern : String
  /-- The level setting of the tier `gentle`. -/
  gentle : String
deriving Repr, DecidableEq

namespace Config

/-- The program that runs when none is configured. -/
def standardExecutable : String := "perlcritic"

/-- The configuration when nothing is set. -/
def standard : Config where
  enabled := true
  severity := .standard
  useProfile := true
  excludedPolicies := []
  path := ""
  executable := standardExecutable
  brutal := "error"
  cruel := "error"
  harsh := "warning"
  stern := "warning"
  gentle := "info"

/-- The level setting of a tier. -/
def levelSetting (c : Config) : Tier → String
  | .brutal => c.brutal
  | .cruel => c.cruel
  | .harsh => c.harsh
  | .stern => c.stern
  | .gentle => c.gentle

/-- The level at which a tier is shown. -/
def level (c : Config) (t : Tier) : Level := .ofSetting (c.levelSetting t)

/-- The working directory for a run, or `fallback` if none is configured. -/
def workingDirectory? (c : Config) (fallback : Option String) : Option String :=
  if Text.allBlank c.path.toList then fallback else some c.path

end Config

end PerlLint
