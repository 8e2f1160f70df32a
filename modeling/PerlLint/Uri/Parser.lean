import PerlLint.Text.Basic
import PerlLint.Text.Numeral
import PerlLint.Text.Utf8
import PerlLint.Uri.Address
import PerlLint.Uri.Basic
import PerlLint.Uri.Domain.Basic

/-!
# Reading URIs

`Uri.parse` reads a URI and brings it into normal form, after the rules of the URL
standard for an address that stands alone.

Controls and spaces at both ends and line ends and tabs anywhere are dropped.  The scheme
comes first; a text without one is no URI.  What follows the first `#` is the fragment,
and what follows the first `?` in front of that the query.

In a special scheme a server and a path follow.  A `file` URI may do without the server,
and then without slashes as well; its host `localhost` is no host.  In any other scheme
there is a server only behind two slashes, and a path that does not begin with a slash is
kept as it is.

## Servers

Behind two slashes stands the server: a user name and a password, with an `@` behind
them, then the host, and a port number behind a colon.  All but the host may be missing.
In a scheme that is not special the host may be empty as well, but only if nothing else
of the server is there.

A host in brackets is an IPv6 address in every scheme.  Any other host of a special
scheme is a domain name, or an IPv4 address if it ends like one; percent-encoding in it
is undone.  The hosts of other schemes mean nothing here and are only encoded.

## Hierarchical paths

A hierarchical path is a list of *segments* with a slash in front of each.  The segments
`.` and `..` are not kept but carried out, also where their dots are percent-encoded: the
first is nothing, the second takes away the segment in front of it.  At the end of a path
both leave an empty segment.

A segment may be the name of a drive, a letter and a colon or bar.  It is never taken
away again, in any scheme.  In a `file` URI a drive right at the front gets a colon for
its bar, and what follows its colon at once is a segment of its own.  A path with a drive
needs no host.
-/

namespace PerlLint.Uri

/-! ## Hosts -/

/-- The host that a text behind an opening bracket is. -/
def readBracketed (s : List Char) : Except ParseError String :=
  match s.reverse with
  | ']' :: back =>
      match IPv6.ofText? back.reverse with
      | some ns => .ok (String.ofList ('[' :: IPv6.text ns ++ [']']))
      | none => .error .badIPv6
  | _ => .error .badIPv6

/-- The host of a special scheme. -/
def readDomain (s : List Char) : Except ParseError String :=
  match s with
  | '[' :: rest => readBracketed rest
  | _ =>
      match Domain.ofText? (Text.Utf8.decodeLossy (Percent.decode s)) with
      | none => .error .badDomain
      | some [] => .error .emptyHost
      | some name =>
          if IPv4.isMeant name then
            match IPv4.ofText? name with
            | some n => .ok (String.ofList (IPv4.text n))
            | none => .error .badIPv4
          else .ok (String.ofList name)

/-- A character that no host of another scheme may hold. -/
def isForbiddenInHost (c : Char) : Bool :=
  ['\x00', ' ', '#', '/', ':', '<', '>', '?', '@', '[', '\\', ']', '^', '|'].contains c

/-- The host of another scheme. -/
def readOpaqueHost (s : List Char) : Except ParseError String :=
  match s with
  | '[' :: rest => readBracketed rest
  | _ =>
      if s.any isForbiddenInHost then .error .badHost
      else .ok (String.ofList (Percent.encode Percent.isControl s))

/-! ## Parts of a server -/

/-- The text in front of the first character in a set, and the text from there on. -/
def cut (stops : Char → Bool) (s : List Char) : List Char × List Char :=
  (s.takeWhile fun c => !stops c, s.dropWhile fun c => !stops c)

/-- The text in front of the first `c`, and the text after it if there is one. -/
def cutAt (c : Char) (s : List Char) : List Char × Option (List Char) :=
  match cut (· == c) s with
  | (front, _ :: rest) => (front, some rest)
  | (front, []) => (front, none)

/-- What stands in front of the last `@`, if there is one, and what follows. -/
def splitUser (s : List Char) : Option (List Char) × List Char :=
  match cutAt '@' s.reverse with
  | (back, some front) => (some front.reverse, back.reverse)
  | (_, none) => (none, s)

/-- The host, and what follows the first colon outside of brackets.  `inside` says whether
a bracket is open. -/
def splitPort (inside : Bool) : List Char → List Char × Option (List Char)
  | [] => ([], none)
  | ':' :: cs =>
      if inside then
        let (host, rest) := splitPort inside cs
        (':' :: host, rest)
      else ([], some cs)
  | c :: cs =>
      let (host, rest) := splitPort (c == '[' || (inside && c != ']')) cs
      (c :: host, rest)

/-! ## Reading a server -/

/-- The port number that a text is, unless it is the usual one. -/
def readPortNumber (scheme : String) (s : List Char) : Except ParseError (Option Nat) :=
  if !s.all Text.isDigit || 65535 < Text.digitsValue s then .error .badPort
  else if s.isEmpty || usualPortNumber? scheme == some (Text.digitsValue s) then .ok none
  else .ok (some (Text.digitsValue s))

/-- Reads the server that a text begins with.  Gives the text after it, too.  `isLast` says
that the URI ends with the text; only then an `@` may stand alone. -/
def readServer (scheme : String) (isLast : Bool) (s : List Char) :
    Except ParseError (Authority × List Char) := do
  let k := SchemeKind.ofScheme scheme
  let (server, path) := cut k.isSlash s
  let (user, rest) := splitUser server
  let (name, password) := cutAt ':' (user.getD [])
  let encoded (t : List Char) := String.ofList (Percent.encode Percent.inUser t)
  let (hostText, portText) := splitPort false rest
  let hasUser := !name.isEmpty || !(password.getD []).isEmpty
  let standsAlone := user == some [] && rest.isEmpty && !(isLast && path.isEmpty)
  if hostText.isEmpty && (k.isSpecial || hasUser || portText.isSome || standsAlone) then
    throw .emptyHost
  let host ← if k.isSpecial then readDomain hostText else readOpaqueHost hostText
  let (digits, more) := cut (· == '\\') (portText.getD [])
  let portNumber ← readPortNumber scheme digits
  return (⟨encoded name, encoded (password.getD []), host, portNumber⟩, more ++ path)

/-! ## Segments -/

/-- The segment `.`. -/
def isDot (s : List Char) : Bool := [['.'], ['%', '2', 'e']].contains (s.map Char.toLower)

/-- The segment `..`. -/
def isDotDot (s : List Char) : Bool :=
  [['.', '.'], ['.', '%', '2', 'e'], ['%', '2', 'e', '.'], ['%', '2', 'e', '%', '2', 'e']].contains
    (s.map Char.toLower)

/-- The name of a drive: a letter and a colon or bar. -/
def isDrive : List Char → Bool
  | [c, d] => c.isAlpha && (d == ':' || d == '|')
  | _ => false

/-- Whether a segment stays when `..` follows.  A drive stays, also with a backslash
behind it. -/
def isKeptSegment (s : List Char) : Bool := isDrive (s.takeWhile (· != '\\'))

/-- The segments between slashes.  There is always at least one. -/
def segments (k : SchemeKind) (s : List Char) : List (List Char) :=
  Text.splitOn ['/'] (s.map fun c => if k.isSlash c then '/' else c)

/-! ## Carrying out segments -/

/-- A path that is being read. -/
structure PathState where
  /-- The segments so far, last first. -/
  done : List (List Char)
  /-- Whether there is a drive at the front that stands alone in its segment. -/
  hasDrive : Bool

/-- A path with one more segment. -/
def PathState.push (p : PathState) (s : List Char) : PathState := { p with done := s :: p.done }

/-- A path without its last segment, unless that one is kept. -/
def PathState.pop (p : PathState) : PathState :=
  match p.done with
  | s :: done => if isKeptSegment s then p else { p with done }
  | [] => p

/-- Takes the first segment that stays in the path of a `file` URI. -/
def PathState.pushFirst (s : List Char) : PathState :=
  match s with
  | [c, d] => if isDrive [c, d] then ⟨[[c, ':']], true⟩ else ⟨[[c, d]], false⟩
  | c :: ':' :: rest => if c.isAlpha then ⟨[rest, [c, ':']], false⟩ else ⟨[c :: ':' :: rest], false⟩
  | _ => ⟨[s], false⟩

/-- Carries out the segments of a path. -/
def PathState.walk (k : SchemeKind) (p : PathState) : List (List Char) → PathState
  | [] => p
  | s :: rest =>
      let close (p : PathState) := if rest.isEmpty then p.push [] else p
      if isDotDot s then walk k (close p.pop) rest
      else if isDot s then walk k (close p) rest
      else if k == .file && p.done.isEmpty then walk k (pushFirst s) rest
      else walk k (p.push s) rest

/-- A hierarchical path in normal form, and whether there is a drive at its front.  `s` is
what follows the first slash.  The path of a `file` URI begins with one slash only. -/
def hierarchical (k : SchemeKind) (s : List Char) : List Char × Bool :=
  let p := PathState.walk k ⟨[], false⟩ (segments k (Percent.encode Percent.inPath s))
  let path := Text.joinWith ['/'] p.done.reverse
  ('/' :: (if k = .file then path.dropWhile (· == '/') else path), p.hasDrive)

/-! ## URIs -/

/-- A control or space. -/
def isEdge (c : Char) : Bool := c.toNat ≤ 0x20

/-- A line end or tab. -/
def isDropped (c : Char) : Bool := c == '\t' || c == '\n' || c == '\r'

/-- The characters that count. -/
def strip (s : List Char) : List Char :=
  (Text.dropEnd isEdge (Text.dropStart isEdge s)).filter fun c => !isDropped c

/-- A `file` URI without a host. -/
def noHost : Authority := ⟨"", "", "", none⟩

/-- Reads what follows `file:`.  After two slashes stands the host, unless a drive
stands there.  The slash in front of the path counts as a segment of its own if there is
no host in front of it. -/
def parseFile (s : List Char) : Except ParseError (Authority × List Char) :=
  let isSlash := SchemeKind.file.isSlash
  let withoutHost (path : List Char) := (noHost, (hierarchical .file path).1)
  match s with
  | a :: b :: rest =>
      if isSlash a && isSlash b then
        let (hostText, path) := cut isSlash rest
        if isDrive hostText then .ok (withoutHost rest)
        else if hostText.isEmpty then .ok (withoutHost path)
        else do
          let host ← readDomain hostText
          if host = "localhost" then return withoutHost path
          let (path, hasDrive) := hierarchical .file (path.drop 1)
          return (if hasDrive then noHost else { noHost with host }, path)
      else .ok (withoutHost (if isSlash a then b :: rest else s))
  | [a] => .ok (withoutHost (if isSlash a then [] else s))
  | [] => .ok (withoutHost s)

/-- Reads what follows the colon of another special scheme. -/
def parseSpecial (scheme : String) (isLast : Bool) (s : List Char) :
    Except ParseError (Authority × List Char) := do
  let (a, path) ← readServer scheme isLast (s.dropWhile SchemeKind.server.isSlash)
  return (a, (hierarchical .server (path.drop 1)).1)

/-- Reads what follows the colon of a scheme that is not special. -/
def parseOther (scheme : String) (isLast : Bool) (s : List Char) :
    Except ParseError (Option Authority × List Char) :=
  match s with
  | '/' :: '/' :: rest => do
      let (a, path) ← readServer scheme isLast rest
      match path with
      | [] => return (some a, [])
      | '/' :: path => return (some a, (hierarchical .other path).1)
      | path => return (some a, (hierarchical .other path).1)
  | '/' :: rest => .ok (none, (hierarchical .other rest).1)
  | _ => .ok (none, Percent.encode Percent.isControl s)

/-- The URI that a text is. -/
def parse (text : String) : Except ParseError Uri :=
  match splitScheme? (strip text.toList) with
  | none => .error .noScheme
  | some (scheme, rest) => do
      let (rest, fragment) := cutAt '#' rest
      let (rest, query) := cutAt '?' rest
      let isLast := query.isNone && fragment.isNone
      let k := SchemeKind.ofScheme scheme
      let (authority, path) ← match k with
        | .file => (parseFile rest).map fun p => (some p.1, p.2)
        | .server => (parseSpecial scheme isLast rest).map fun p => (some p.1, p.2)
        | .other => parseOther scheme isLast rest
      let encoded (inSet : Char → Bool) (t : List Char) :=
        String.ofList (Percent.encode inSet t)
      let query := query.map (encoded (Percent.inQuery k.isSpecial))
      return ⟨scheme, authority, String.ofList path, query,
        fragment.map (encoded Percent.inFragment)⟩

example : (parse "FILE:///tmp/x/../a b.pl#é").toOption.map write
    = some "file:///tmp/a%20b.pl#%C3%A9" := by decide +kernel
/-- A drive right at the front takes the place of the host. -/
example : (parse "file://host/C|/a").toOption.map write = some "file:///C:/a" := by
  decide +kernel

end PerlLint.Uri
