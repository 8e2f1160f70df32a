import PerlLint.Shell.Syntax
import PerlLint.Shell.Words
import PerlLint.Text.Numeral

/-!
# Tokens of a script

A script is cut into words, operators and redirections.  The text that follows a
`<<` on the next lines is taken out of the script and kept with the token.

The functions here take a bound on the number of steps, which the length of the
script provides.
-/

namespace PerlLint.Shell

/-! ## Tokens -/

/-- An operator between commands. -/
inductive Operator where
  | newline | semicolon | doubleSemicolon | and | or | pipe | ampersand | openParen | closeParen
deriving Repr, DecidableEq

/-- A token. -/
inductive Token where
  | word (w : Word)
  | operator (o : Operator)
  /-- A redirection to the file that the next word names. -/
  | toFile (fd : Nat) (append : Bool)
  /-- A redirection from the file that the next word names. -/
  | fromFile
  /-- A redirection to another output, or to none. -/
  | duplicate (fd : Nat) (target : Option Nat)
  /-- A redirection from a text. -/
  | fromText (body : Word)
deriving Repr, DecidableEq

/-! ## Inside words -/

/-- The place after one more character of an expansion. -/
def Place.next : Place → Char → Place
  | .betweenEscaped, _ | .escaped, _ => .bare
  | .doubleEscaped, _ => .double
  | .single, c => if c = '\'' then .bare else .single
  | .double, c =>
      if c = '"' then .bare else if c = '\\' then .doubleEscaped else .double
  | .between, c | .bare, c =>
      if c = '\\' then .escaped
      else if c = '\'' then .single
      else if c = '"' then .double
      else .bare

/-- The text up to the bracket that closes an expansion, and the rest after it.
`depth` counts the brackets open. -/
def scanNested (opener closer : Char) (acc : List Char) : (depth : Nat) → (place : Place) →
    List Char → Option (List Char × List Char)
  | _, _, [] => none
  | depth, place, c :: cs =>
      if place = .bare ∧ c = closer then
        match depth with
        | 0 => some (acc.reverse, cs)
        | d + 1 => scanNested opener closer (c :: acc) d place cs
      else
        scanNested opener closer (c :: acc)
          (if place = .bare ∧ c = opener then depth + 1 else depth) (place.next c) cs
termination_by structural _ _ cs => cs

/-- The text in front of the first `c` and the rest after it. -/
def scanTo (c : Char) (cs : List Char) : Option (List Char × List Char) :=
  match cs.dropWhile (· != c) with
  | _ :: rest => some (cs.takeWhile (· != c), rest)
  | [] => none

/-- The first character of a variable's name. -/
def isNameStart (c : Char) : Bool := c.isAlpha || c == '_'

/-- A character of a variable's name. -/
def isNameChar (c : Char) : Bool := c.isAlphanum || c == '_'

/-- A parameter whose name is one character. -/
def isSpecialParameter (c : Char) : Bool :=
  Text.isDigit c || ['@', '*', '#', '?', '$', '!', '-'].contains c

/-- The adjustment that follows a name, and the word after it. -/
def adjustment? : List Char → Option (Adjustment × List Char)
  | ':' :: '-' :: w => some (.instead true, w)
  | '-' :: w => some (.instead false, w)
  | ':' :: '=' :: w => some (.keep true, w)
  | '=' :: w => some (.keep false, w)
  | ':' :: '+' :: w => some (.replace true, w)
  | '+' :: w => some (.replace false, w)
  | ':' :: '?' :: w => some (.demand true, w)
  | '?' :: w => some (.demand false, w)
  | '#' :: '#' :: w => some (.dropFront true, w)
  | '#' :: w => some (.dropFront false, w)
  | '%' :: '%' :: w => some (.dropBack true, w)
  | '%' :: w => some (.dropBack false, w)
  | _ => none

/-- The name at the front of an expansion, and the rest after it. -/
def scanName (cs : List Char) : List Char × List Char :=
  match cs with
  | c :: rest =>
      if isNameStart c then (cs.takeWhile isNameChar, cs.dropWhile isNameChar)
      else if Text.isDigit c then (cs.takeWhile Text.isDigit, cs.dropWhile Text.isDigit)
      else if isSpecialParameter c then ([c], rest)
      else ([], cs)
  | [] => ([], [])

/-- The part that stands between braces. -/
def bracedPart? (quoted : Bool) (inside : List Char) : Option Part :=
  let sized := match inside with
    | '#' :: rest =>
        match scanName rest with
        | (c :: cs, []) => some (Part.adjusted (c :: cs) .size [] quoted)
        | _ => none
    | _ => none
  match sized, scanName inside with
  | some part, _ => some part
  | none, ([], _) => none
  | none, (name, []) => some (.parameter name quoted)
  | none, (name, rest) =>
      (adjustment? rest).map fun (a, source) => .adjusted name a source quoted

/-- The part that follows a dollar sign, and the rest after it. -/
def scanDollar (quoted : Bool) (cs : List Char) : Option (Part × List Char) :=
  match cs with
  | '(' :: rest =>
      match scanNested '(' ')' [] 0 .bare rest with
      | none => none
      | some (inside, rest) =>
          match inside, inside.reverse with
          | '(' :: body, ')' :: _ => some (.arithmetic body.dropLast quoted, rest)
          | _, _ => some (.output inside quoted, rest)
  | '\x7b' :: rest =>
      match scanNested '\x7b' '\x7d' [] 0 .bare rest with
      | some (inside, rest) => (bracedPart? quoted inside).map fun part => (part, rest)
      | none => none
  | c :: rest =>
      if isNameStart c then
        some (.parameter (c :: rest.takeWhile isNameChar) quoted, rest.dropWhile isNameChar)
      else if isSpecialParameter c then some (.parameter [c] quoted, rest)
      else some (.text ['$'] quoted, cs)
  | [] => some (.text ['$'] quoted, cs)

/-- Where a word is being read. -/
inductive WordPlace where
  /-- Outside quotes.  A blank or operator ends the word if `ends` says so. -/
  | bare (ends : Bool)
  /-- Between double quotes, outside which `ends` holds. -/
  | double (ends : Bool)
  /-- In the text of a redirection. -/
  | body
deriving Repr, DecidableEq

/-- What ends a word. -/
def endsWord (c : Char) : Bool :=
  [' ', '\t', '\n', ';', '&', '|', '<', '>', '(', ')'].contains c

/-- Whether a backslash takes the meaning from a character. -/
def WordPlace.escapes (place : WordPlace) (c : Char) : Bool :=
  match place with
  | .bare _ => true
  | .double _ => isDoubleEscape c
  | .body => isDoubleEscape c && c != '"'

/-- Reads the part of a word that starts with a dollar sign, a backquote or a
backslash.  Gives the parts it is and the rest after it.  `none` if nothing of the
kind is there, and `some none` if it does not end. -/
def scanActive (place : WordPlace) (quoted : Bool) (c : Char) (cs : List Char) :
    Option (Option (List Part × List Char)) :=
  if c = '$' then some ((scanDollar quoted cs).map fun (part, rest) => ([part], rest))
  else if c = '\x60' then
    some ((scanTo '\x60' cs).map fun (inside, rest) => ([.output inside quoted], rest))
  else if c = '\\' then
    match cs with
    | d :: rest =>
        if d = '\n' then some (some ([], rest))
        else if place.escapes d then some (some ([.text [d] true], rest))
        else none
    | [] => none
  else none

/-- Reads the parts of a word, and gives the rest after it.  The parts so far are
on `acc`, last first. -/
def scanWord (acc : List Part) : (bound : Nat) → WordPlace → List Char →
    Option (Word × List Char)
  | 0, _, _ => none
  | _ + 1, .double _, [] => none
  | _ + 1, _, [] => some (acc.reverse, [])
  | n + 1, place, c :: cs =>
      let quoted := match place with
        | .bare _ => false
        | _ => true
      match scanActive place quoted c cs with
      | some (some (parts, rest)) => scanWord (parts.reverse ++ acc) n place rest
      | some none => none
      | none =>
          match place with
          | .bare ends =>
              if ends && endsWord c then some (acc.reverse, c :: cs)
              else if c = '\'' then
                match scanTo '\'' cs with
                | some (inside, rest) => scanWord (.text inside true :: acc) n place rest
                | none => none
              else if c = '"' then scanWord (.text [] true :: acc) n (.double ends) cs
              else scanWord (.text [c] false :: acc) n place cs
          | .double ends =>
              if c = '"' then scanWord acc n (.bare ends) cs
              else scanWord (.text [c] true :: acc) n place cs
          | .body => scanWord (.text [c] true :: acc) n place cs

/-- The word at the front of a script, and the rest after it. -/
def frontWord? (cs : List Char) : Option (Word × List Char) :=
  scanWord [] (2 * cs.length + 1) (.bare true) cs

/-- The word that a whole text is, outside quotes or as if between them. -/
def wholeWord? (quoted : Bool) (cs : List Char) : Option Word :=
  (scanWord [] (2 * cs.length + 1) (if quoted then .body else .bare false) cs).map Prod.fst

/-! ## Texts of redirections -/

/-- The characters of a word, and whether any of them is quoted. -/
def plainWord (w : Word) : List Char × Bool :=
  w.foldr (fun p (s, quoted) =>
    match p with
    | .text t q => (t ++ s, q || quoted)
    | _ => (s, quoted)) ([], false)

/-- The lines up to one that is `stop`, and the rest after that.  Tabs in front of
a line are dropped if `tabs` says so. -/
def scanLines (tabs : Bool) (stop : List Char) (acc : List Char) : (bound : Nat) →
    List Char → List Char × List Char
  | 0, cs => (acc.reverse, cs)
  | _ + 1, [] => (acc.reverse, [])
  | n + 1, cs =>
      let line := cs.takeWhile (· != '\n')
      let line := if tabs then line.dropWhile (· == '\t') else line
      let rest := (cs.dropWhile (· != '\n')).drop 1
      if line = stop then (acc.reverse, rest)
      else scanLines tabs stop ('\n' :: (line.reverse ++ acc)) n rest

/-- Takes the text that ends with the line `stop` out of a script.  It starts on
the next line. -/
def takeText (tabs : Bool) (stop : List Char) (cs : List Char) : List Char × List Char :=
  let line := cs.takeWhile (· != '\n')
  let next := (cs.dropWhile (· != '\n')).drop 1
  let (body, rest) := scanLines tabs stop [] (cs.length + 1) next
  (body, line ++ '\n' :: rest)

/-- Reads the word and the text that belong to a `<<`, and gives the text as a
word and the rest of the script. -/
def scanText (tabs : Bool) (cs : List Char) : Option (Word × List Char) := do
  let (w, rest) ← frontWord? (cs.dropWhile (· == ' '))
  let (stop, quoted) := plainWord w
  let (body, rest) := takeText tabs stop rest
  if quoted then return ([.text body true], rest) else return (← wholeWord? true body, rest)

/-! ## The whole script -/

/-- The operator at the front of a script, and the rest after it. -/
def scanOperator : List Char → Option (Operator × List Char)
  | '\n' :: cs => some (.newline, cs)
  | ';' :: ';' :: cs => some (.doubleSemicolon, cs)
  | ';' :: cs => some (.semicolon, cs)
  | '&' :: '&' :: cs => some (.and, cs)
  | '&' :: cs => some (.ampersand, cs)
  | '|' :: '|' :: cs => some (.or, cs)
  | '|' :: cs => some (.pipe, cs)
  | '(' :: cs => some (.openParen, cs)
  | ')' :: cs => some (.closeParen, cs)
  | _ => none

/-- The redirection at the front of a script, without the word that belongs to
it, and the rest after it. -/
def scanRedirection (fd : Option Nat) : List Char → Option (Token × List Char)
  | '>' :: '>' :: cs => some (.toFile (fd.getD 1) true, cs)
  | '>' :: '&' :: d :: cs =>
      if Text.isDigit d then some (.duplicate (fd.getD 1) (some (Text.digitValue d)), cs)
      else if d = '-' then some (.duplicate (fd.getD 1) none, cs)
      else none
  | '>' :: '|' :: cs => some (.toFile (fd.getD 1) false, cs)
  | '>' :: cs => some (.toFile (fd.getD 1) false, cs)
  | '<' :: cs => some (.fromFile, cs)
  | _ => none

/-- The tokens of a script.  Those so far are on `acc`, last first. -/
def tokens (acc : List Token) : (bound : Nat) → List Char → Option (List Token)
  | 0, _ => none
  | _ + 1, [] => some acc.reverse
  | n + 1, c :: cs =>
      if c = ' ' ∨ c = '\t' then tokens acc n cs
      else if c = '#' then tokens acc n (cs.dropWhile (· != '\n'))
      else
        let (fd, text) :=
          match c, cs with
          | d, '>' :: _ | d, '<' :: _ =>
              if Text.isDigit d then (some (Text.digitValue d), cs) else (none, c :: cs)
          | _, _ => (none, c :: cs)
        match text with
        | '<' :: '<' :: rest =>
            let (tabs, rest) := match rest with
              | '-' :: rest => (true, rest)
              | rest => (false, rest)
            match scanText tabs rest with
            | some (body, rest) => tokens (.fromText body :: acc) n rest
            | none => none
        | _ =>
            match scanRedirection fd text with
            | some (t, rest) => tokens (t :: acc) n rest
            | none =>
                match scanOperator text with
                | some (o, rest) => tokens (.operator o :: acc) n rest
                | none =>
                    match frontWord? text with
                    | some (w, rest) => tokens (.word w :: acc) n rest
                    | none => none

/-- The tokens of a script, if it can be read. -/
def tokensOf? (script : List Char) : Option (List Token) :=
  tokens [] (2 * script.length + 2) script

end PerlLint.Shell
