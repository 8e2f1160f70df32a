import PerlLint.Config.Settings
import PerlLint.Store
import PerlLint.Text.Basic
import PerlLint.Uri.Basic

/-!
# The server

The server knows which documents are open and in which language each of them is,
and holds the configuration in force, the settings that the client sent last, the
directory of the workspace and the store.  It also remembers whether the user has
been told that the critic cannot be started.

The language of a document is known from its opening to its closing.

A document is linted if it is Perl.  An editor that opens a document says which
language it is in, and then only that counts.  If the language is not known, the
ending of the name in the URI's path decides.

The name is the last component of the path.  Slashes at the end are passed over,
and so are components that are a single dot.  The name has an ending if it holds
a dot behind its first character: what follows the last dot.  Percent-encoding
is not undone for this.
-/

namespace PerlLint

/-! ## Perl documents -/

/-- The language identifier of Perl. -/
def perlLanguage : String := "perl"

/-- The endings of Perl files. -/
def perlEndings : List (List Char) :=
  [['p', 'l'], ['p', 'm'], ['t'], ['p', 's', 'g', 'i'], ['c', 'g', 'i']]

/-- The last component of a path, if there is one and it is not `..`. -/
def fileName? (path : List Char) : Option (List Char) :=
  match ((Text.splitOn ['/'] path).filter fun s => !(s.isEmpty || s == ['.'])).getLast? with
  | some name => if name = ['.', '.'] then none else some name
  | none => none

/-- The text after the last dot of a name, unless that dot comes first. -/
def ending? (name : List Char) : Option (List Char) :=
  let back := name.reverse.takeWhile (· != '.')
  let front := name.reverse.dropWhile (· != '.')
  if 2 ≤ front.length then some back.reverse else none

/-- Whether the ending of a path is that of a Perl file. -/
def hasPerlEnding (path : List Char) : Bool :=
  match (fileName? path).bind ending? with
  | some e => perlEndings.contains e
  | none => false

/-- Whether a document is Perl. -/
def isPerl (language : Option String) (u : Uri) : Bool :=
  match language with
  | some l => l == perlLanguage
  | none => hasPerlEnding u.path.toList

/-! ## The state of a server -/

/-- The state of a server. -/
structure Server where
  /-- The open documents and their languages. -/
  documents : Table Uri String
  /-- The configuration in force. -/
  config : Config
  /-- The settings that the client sent last, if it sent any. -/
  clientSettings : Option Json
  /-- The directory of the workspace, if there is one. -/
  root : Option String
  /-- The current diagnostics. -/
  store : Store
  /-- Whether the user knows that the critic cannot be started. -/
  warned : Bool

namespace Server

/-- A server at first. -/
def empty : Server := ⟨.empty, .standard, none, none, .empty, false⟩

/-- The language of a document, if it is open. -/
def language? (s : Server) (u : Uri) : Option String := s.documents.get? u

/-- Opens a document. -/
def openDocument (s : Server) (u : Uri) (language : String) : Server :=
  { s with documents := s.documents.set u language }

/-- Closes a document and forgets its diagnostics. -/
def closeDocument (s : Server) (u : Uri) : Server :=
  { s with documents := s.documents.erase u, store := (s.store.clear u).2 }

/-- Forgets all diagnostics. -/
def dispose (s : Server) : Server := { s with store := s.store.dispose }

end Server

end PerlLint
