/-!
# Words of a plain line

A *plain line* is one command whose words hold nothing that the shell would
replace.  `split?` gives its words after the quoting rules of the POSIX shell.
Blanks separate words.  A backslash takes the meaning from the next character,
single quotes from all characters up to the next one, and double quotes from all
but a few.  A word may be made of several quoted and unquoted parts, and is there
even if all its parts are empty.  A backslash before a line feed is no part of a
word: the two are nothing at all.

A line is not plain if there is an operator, the start of an expansion, a pattern
or a comment in it outside quotes, or if a quote is not closed.

In the other direction a command line is made from words so that the shell splits
it into the same words again.  A word without any special character stays bare.
Every other word is put between single quotes, inside which nothing is special; a
single quote itself is written `'\''`, which ends the quotes, adds the character
and starts them again.
-/

namespace PerlLint.Shell

/-! ## Splitting -/

/-- A place in a line. -/
inductive Place where
  /-- Between two words. -/
  | between
  /-- After a backslash between two words. -/
  | betweenEscaped
  /-- In a word, outside quotes. -/
  | bare
  /-- After a backslash outside quotes. -/
  | escaped
  /-- Between single quotes. -/
  | single
  /-- Between double quotes. -/
  | double
  /-- After a backslash between double quotes. -/
  | doubleEscaped
deriving Repr, DecidableEq

/-- What separates words. -/
def isSeparator (c : Char) : Bool := c == ' ' || c == '\t'

/-- What makes a line not plain, outside quotes. -/
def isActive (c : Char) : Bool :=
  ['|', '&', ';', '<', '>', '(', ')', '$', '\x60', '\n', '*', '?', '['].contains c

/-- What makes a line not plain at the start of a word. -/
def isActiveInFront (c : Char) : Bool := isActive c || c == '#' || c == '~'

/-- What a backslash takes the meaning from between double quotes. -/
def isDoubleEscape (c : Char) : Bool := ['$', '\x60', '"', '\\'].contains c

/-- Scans on.  `done` holds the words, last first, and `word` the characters of
the current word, last first. -/
def splitFrom? (done : List (List Char)) (word : List Char) :
    Place → List Char → Option (List (List Char))
  | .between, [] => some done.reverse
  | .bare, [] => some (word.reverse :: done).reverse
  | .betweenEscaped, [] | .escaped, [] | .single, [] | .double, [] | .doubleEscaped, [] => none
  | .between, c :: cs =>
      if isSeparator c then splitFrom? done word .between cs
      else if isActiveInFront c then none
      else if c = '\\' then splitFrom? done word .betweenEscaped cs
      else if c = '\'' then splitFrom? done [] .single cs
      else if c = '"' then splitFrom? done [] .double cs
      else splitFrom? done [c] .bare cs
  | .betweenEscaped, c :: cs =>
      if c = '\n' then splitFrom? done word .between cs
      else splitFrom? done [c] .bare cs
  | .bare, c :: cs =>
      if isSeparator c then splitFrom? (word.reverse :: done) [] .between cs
      else if isActive c then none
      else if c = '\\' then splitFrom? done word .escaped cs
      else if c = '\'' then splitFrom? done word .single cs
      else if c = '"' then splitFrom? done word .double cs
      else splitFrom? done (c :: word) .bare cs
  | .escaped, c :: cs =>
      if c = '\n' then splitFrom? done word .bare cs
      else splitFrom? done (c :: word) .bare cs
  | .single, c :: cs =>
      if c = '\'' then splitFrom? done word .bare cs
      else splitFrom? done (c :: word) .single cs
  | .double, c :: cs =>
      if c = '"' then splitFrom? done word .bare cs
      else if c = '\\' then splitFrom? done word .doubleEscaped cs
      else if c = '$' ∨ c = '\x60' then none
      else splitFrom? done (c :: word) .double cs
  | .doubleEscaped, c :: cs =>
      if isDoubleEscape c then splitFrom? done (c :: word) .double cs
      else if c = '\n' then splitFrom? done word .double cs
      else splitFrom? done (c :: '\\' :: word) .double cs
termination_by structural _ cs => cs

/-- The words of a plain line. -/
def split? (line : List Char) : Option (List (List Char)) := splitFrom? [] [] .between line

/-! ## Quoting -/

/-- The characters that mean something to the shell. -/
def specials : List Char :=
  ['|', '&', ';', '<', '>', '(', ')', '$', '\x60', '\\', '"', '\'', ' ', '\t', '\n', '*', '?',
    '[', '#', '~', '=', '%']

/-- Whether a word has to be quoted. -/
def needsQuotes (w : List Char) : Bool := w.isEmpty || w.any fun c => specials.contains c

/-- A character between single quotes. -/
def quoteChar (c : Char) : List Char := if c = '\'' then ['\'', '\\', '\'', '\''] else [c]

/-- A word as the shell has to see it. -/
def quote (w : List Char) : List Char :=
  if needsQuotes w then '\'' :: w.flatMap quoteChar ++ ['\''] else w

/-- Words as one command line, one space between two. -/
def joinWords : List (List Char) → List Char
  | [] => []
  | [w] => quote w
  | w :: ws => quote w ++ ' ' :: joinWords ws

/-- Words as one command line. -/
def lineOfWords (ws : List String) : String := String.ofList (joinWords (ws.map String.toList))

end PerlLint.Shell
