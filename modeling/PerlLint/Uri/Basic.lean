import PerlLint.Text.Basic
import PerlLint.Text.Numeral
import PerlLint.Text.Utf8

/-!
# URIs

Documents are named by URIs.  A `Uri` is kept in the normal form in which its
parser leaves it, so two names of one document that differ only in writing are
equal values.

The path is a text.  It is *hierarchical* if it starts with a slash.  All of the
URI counts for identity, the query and the fragment as well.

A URI names a file if its path is hierarchical and it has no host.  The file's
path is the URI's path with percent-encoding undone.

## Percent-encoding

A URI is written in ASCII.  A character that must not stand for itself is
replaced by the bytes of its UTF-8 form, each written as `%` and two hexadecimal
digits in capitals.  Which characters are replaced depends on the part of the
URI; characters beyond ASCII and controls always are.  The percent sign is never
replaced, so what is encoded already stays as it is.

`Percent.decode` turns every `%` with two hexadecimal digits after it into a byte.  Any
other `%` stands for itself.

## Schemes

The scheme stands in front of the first colon.  Six schemes are *special*: `file`,
`http`, `https`, `ws`, `wss`, `ftp`.  In them a backslash is as good as a slash and the
path is hierarchical in any case.  All but `file` need a host.
-/

namespace PerlLint.Uri.Percent

/-! ## Sets of characters -/

/-- Controls and characters beyond ASCII. -/
def isControl (c : Char) : Bool := c.toNat < 0x20 || 0x7F ≤ c.toNat

/-- What is encoded in a fragment. -/
def inFragment (c : Char) : Bool := isControl c || [' ', '"', '<', '>', '\x60'].contains c

/-- What is encoded in a path. -/
def inPath (c : Char) : Bool := inFragment c || ['#', '?', '\x7b', '\x7d'].contains c

/-- What is encoded in a user name or password. -/
def inUser (c : Char) : Bool :=
  inPath c || ['/', ':', ';', '=', '@', '[', '\\', ']', '^', '|'].contains c

/-- What is encoded in a query. -/
def inQuery (special : Bool) (c : Char) : Bool :=
  isControl c || [' ', '"', '#', '<', '>'].contains c || (special && c == '\'')

/-! ## Encoding and decoding -/

/-- A hexadecimal digit, in capitals. -/
def digit (n : Nat) : Char := if n < 10 then Char.ofNat (48 + n) else Char.ofNat (55 + n)

/-- A byte, encoded. -/
def encodeByte (b : UInt8) : List Char := ['%', digit (b.toNat / 16), digit (b.toNat % 16)]

/-- The text with the characters of a set encoded. -/
def encode (inSet : Char → Bool) (s : List Char) : List Char :=
  s.flatMap fun c => if inSet c then (Text.Utf8.encodeChar c).flatMap encodeByte else [c]

/-- Decodes bytes. -/
def decodeBytes : List UInt8 → List UInt8
  | [] => []
  | [a] => [a]
  | [a, b] => [a, b]
  | a :: b :: c :: rest =>
      if a = 37 then
        match Text.Hex.digit? (Char.ofNat b.toNat), Text.Hex.digit? (Char.ofNat c.toNat) with
        | some x, some y => (16 * x + y).toUInt8 :: decodeBytes rest
        | _, _ => a :: decodeBytes (b :: c :: rest)
      else a :: decodeBytes (b :: c :: rest)
termination_by bs => bs.length

/-- The bytes that an encoded text stands for. -/
def decode (s : List Char) : List UInt8 := decodeBytes (Text.Utf8.encode s)

end PerlLint.Uri.Percent

namespace PerlLint

/-- The part of a URI that names a server. -/
structure Authority where
  /-- The user name. -/
  user : String
  /-- The password. -/
  password : String
  /-- The host, empty if there is none. -/
  host : String
  /-- The port number, if it is not the usual one of the scheme. -/
  portNumber : Option Nat
deriving Repr, DecidableEq

/-- A URI in normal form. -/
structure Uri where
  /-- The scheme, in lower case. -/
  scheme : String
  /-- The server, if there are two slashes in front of the path. -/
  authority : Option Authority
  /-- The path. -/
  path : String
  /-- What follows a question mark, if there is one. -/
  query : Option String
  /-- What follows a number sign, if there is one. -/
  fragment : Option String
deriving Repr, DecidableEq

namespace Uri

/-! ## Writing -/

/-- The user name and password with the sign after them. -/
def writeUser (a : Authority) : String :=
  if a.user.isEmpty && a.password.isEmpty then ""
  else a.user ++ (if a.password.isEmpty then "" else ":" ++ a.password) ++ "@"

/-- The server. -/
def writeAuthority (a : Authority) : String :=
  writeUser a ++ a.host ++ (match a.portNumber with | some p => ":" ++ toString p | none => "")

/-- The text of a URI. -/
def write (u : Uri) : String :=
  u.scheme ++ ":"
    ++ (match u.authority with
      | some a => "//" ++ writeAuthority a
      | none => if (Text.matchToken? ['/', '/'] u.path.toList).isSome then "/." else "")
    ++ u.path
    ++ (match u.query with | some q => "?" ++ q | none => "")
    ++ (match u.fragment with | some f => "#" ++ f | none => "")

/-! ## Files -/

/-- The host, if there is one. -/
def host (u : Uri) : Option String :=
  match u.authority with
  | some a => if a.host.isEmpty then none else some a.host
  | none => none

/-- Whether the path starts with a slash. -/
def isHierarchical (u : Uri) : Bool := u.path.toList.head? == some '/'

/-- Whether the server is this machine. -/
def isLocal (u : Uri) : Bool := u.host == none || u.host == some "localhost"

/-- Whether bytes end with a letter and a colon or bar: the name of a drive. -/
def endsWithDrive (bs : List UInt8) : Bool :=
  match bs.reverse with
  | mark :: letter :: _ :: _ =>
      (mark == 58 || mark == 124) && (Char.ofNat letter.toNat).isAlpha
  | _ => false

/-- The path of the file that a URI names, as bytes. -/
def fileBytes? (u : Uri) : Option (List UInt8) :=
  if u.isHierarchical && u.isLocal then
    let bs := Percent.decode u.path.toList
    some (if endsWithDrive bs then bs ++ [47] else bs)
  else none

/-- The path of the file that a URI names.  Bytes that are no UTF-8 are
replaced. -/
def filePath? (u : Uri) : Option String :=
  u.fileBytes?.map fun bs => String.ofList (Text.Utf8.decodeLossy bs)

/-! ## Schemes -/

/-- The kinds of schemes. -/
inductive SchemeKind where
  /-- `file`, whose URIs name files. -/
  | file
  /-- A special scheme whose URIs name what a server has. -/
  | server
  /-- Any other scheme. -/
  | other
deriving Repr, DecidableEq

/-- The usual port number of a special scheme, if it has one. -/
def usualPortNumber? (scheme : String) : Option Nat :=
  if scheme = "http" ∨ scheme = "ws" then some 80
  else if scheme = "https" ∨ scheme = "wss" then some 443
  else if scheme = "ftp" then some 21
  else none

/-- The kind of a scheme. -/
def SchemeKind.ofScheme (scheme : String) : SchemeKind :=
  if scheme = "file" then file else if (usualPortNumber? scheme).isSome then server else other

/-- Whether schemes of a kind are special. -/
def SchemeKind.isSpecial (k : SchemeKind) : Bool := k != other

/-- What separates the segments of a path. -/
def SchemeKind.isSlash (k : SchemeKind) (c : Char) : Bool := c == '/' || (k.isSpecial && c == '\\')

/-- A character of a scheme. -/
def isSchemeChar (c : Char) : Bool := c.isAlphanum || c == '+' || c == '-' || c == '.'

/-- The scheme in small letters, and what follows the colon. -/
def splitScheme? (s : List Char) : Option (String × List Char) :=
  let scheme := s.takeWhile isSchemeChar
  match scheme, s.drop scheme.length with
  | c :: cs, ':' :: rest =>
      if c.isAlpha then some (String.ofList ((c :: cs).map Char.toLower), rest) else none
  | _, _ => none

/-! ## Errors -/

/-- Why a text is no URI. -/
inductive ParseError where
  /-- There is no scheme. -/
  | noScheme
  /-- A host is missing. -/
  | emptyHost
  /-- The host is no domain name. -/
  | badDomain
  /-- The host holds a character that no host may hold. -/
  | badHost
  /-- The host ends like an IPv4 address and is none. -/
  | badIPv4
  /-- The host stands in brackets and is no IPv6 address. -/
  | badIPv6
  /-- The port number is none, or too great. -/
  | badPort
deriving Repr, DecidableEq

/-- The wording of an error. -/
def ParseError.message : ParseError → String
  | noScheme => "relative URL without a base"
  | emptyHost => "empty host"
  | badDomain => "invalid international domain name"
  | badHost => "invalid domain character"
  | badIPv4 => "invalid IPv4 address"
  | badIPv6 => "invalid IPv6 address"
  | badPort => "invalid port number"

end Uri

end PerlLint
