/-!
# Scripts

The commands of a small POSIX shell: enough for the scripts that stand in for a
critic.  There are no background jobs, no patterns for file names and no fields of
`IFS` other than blanks.

A word is a list of parts.  A part is *quoted* if it stood between quotes; then
what it expands to is not split into fields and holds no pattern.  What stands
inside an expansion is kept as it is written, and read when it is expanded.
-/

namespace PerlLint.Shell

/-- How a word changes the value of a parameter. -/
inductive Adjustment where
  /-- The number of its characters. -/
  | size
  /-- The word instead of a missing value, or of an empty one if `orEmpty` says so. -/
  | instead (orEmpty : Bool)
  /-- The same, and the parameter keeps the word. -/
  | keep (orEmpty : Bool)
  /-- The word instead of any other value, and nothing instead of a missing one. -/
  | replace (orEmpty : Bool)
  /-- The end of the script instead of a missing value. -/
  | demand (orEmpty : Bool)
  /-- Without the shortest or longest front that the word matches. -/
  | dropFront (longest : Bool)
  /-- Without the shortest or longest end that the word matches. -/
  | dropBack (longest : Bool)
deriving Repr, DecidableEq

/-- A part of a word. -/
inductive Part where
  /-- Characters that stand for themselves. -/
  | text (s : List Char) (quoted : Bool)
  /-- The value of a variable or parameter. -/
  | parameter (name : List Char) (quoted : Bool)
  /-- The value of a variable or parameter, changed by a word. -/
  | adjusted (name : List Char) (a : Adjustment) (source : List Char) (quoted : Bool)
  /-- What a script prints. -/
  | output (source : List Char) (quoted : Bool)
  /-- The value of a sum. -/
  | arithmetic (source : List Char) (quoted : Bool)
deriving Repr, DecidableEq

/-- Whether a part stood between quotes. -/
def Part.isQuoted : Part → Bool
  | text _ quoted | parameter _ quoted | adjusted _ _ _ quoted | output _ quoted
  | arithmetic _ quoted => quoted

/-- A word. -/
abbrev Word := List Part

/-- A change of where input comes from or output goes, for one command. -/
inductive Redirection where
  /-- The output numbered `fd` goes to a file, at its end if `append` says so. -/
  | toFile (fd : Nat) (append : Bool) (path : Word)
  /-- The input comes from a file. -/
  | fromFile (path : Word)
  /-- The output numbered `fd` goes where that numbered `target` goes, or nowhere. -/
  | duplicate (fd : Nat) (target : Option Nat)
  /-- The input is the text of a word. -/
  | fromText (body : Word)
deriving Repr, DecidableEq

/-- A command. -/
inductive Command where
  /-- Nothing. -/
  | skip
  /-- Assignments, or a program with its arguments. -/
  | simple (assignments : List (List Char × Word)) (words : List Word)
      (redirections : List Redirection)
  /-- One command, and what it prints as the input of another. -/
  | pipe (first second : Command)
  /-- A command whose success counts as failure. -/
  | negate (c : Command)
  /-- One command after another. -/
  | seq (first second : Command)
  /-- A second command if the first succeeds. -/
  | andThen (first second : Command)
  /-- A second command if the first fails. -/
  | orElse (first second : Command)
  /-- A command in a shell of its own. -/
  | subshell (c : Command)
  /-- A command with redirections around it. -/
  | redirected (c : Command) (redirections : List Redirection)
  /-- One of two commands. -/
  | ifElse (condition yes no : Command)
  /-- A command as long as another succeeds, or fails if `negated` says so. -/
  | loop (negated : Bool) (condition body : Command)
  /-- A command for each of some words.  `none` stands for the arguments. -/
  | each (name : List Char) (words : Option (List Word)) (body : Command)
  /-- The command behind the first pattern that a word matches. -/
  | choose (subject : Word) (arms : List (List Word × Command))
  /-- The definition of a function. -/
  | define (name : List Char) (body : Command)
deriving Inhabited

end PerlLint.Shell
