import PerlLint.Text.Basic
import PerlLint.Text.Composite
import PerlLint.Text.Direction
import PerlLint.Text.Punycode
import PerlLint.Uri.Domain.Mapping

/-!
# Domain names

`Domain.ofText?` gives the form in ASCII of a domain name that is written in any script
and with capitals or without.  The characters of the name are replaced first, then the
text is composed, and then its labels are read one by one.

A domain name is made of labels with full stops between them.  A label that is not in
ASCII is written there in Punycode behind `xn--`.

`readLabel?` reads a label in either form, and `writeLabel?` writes it.  A label may hold only
characters that are kept and signs that a host may hold, must not begin with a mark,
and must be in composed form.  An invisible joiner may stand only behind a virama; the
one that keeps letters apart may stand between letters that would be joined, too.

If some label of a name has characters that run from right to left, then every label
of the name must have a clear direction, which `isDirected` checks.
-/

namespace PerlLint.Uri.Domain

/-! ## Characters -/

/-- A sign or control of ASCII that no name holds. -/
def isForbidden (c : Char) : Bool :=
  c.toNat ≤ 0x20 || c.toNat == 0x7F
    || ['#', '%', '/', ':', '<', '>', '?', '@', '[', '\\', ']', '^', '|'].contains c

/-- Whether the last character in front is a virama.  The characters in front are
given last first. -/
def isAfterVirama (front : List Char) : Bool := (front.head?.map Text.combiningClass) == some 9

/-- Whether the letters around a place would be joined. -/
def isJoint (front back : List Char) : Bool :=
  ((front.dropWhile Text.isJoinedAcross).head?.any Text.joinsNext)
    && (back.dropWhile Text.isJoinedAcross).head?.any Text.joinsLast

/-- Whether the joiners in a text stand where they may.  `front` is what stands in
front of it, last first. -/
def joinersFit (front : List Char) : List Char → Bool
  | [] => true
  | c :: cs =>
      (if c == '\u200c' then isAfterVirama front || isJoint front cs
        else if c == '\u200d' then isAfterVirama front
        else true)
        && joinersFit (c :: front) cs

/-- Whether characters beyond ASCII make a label. -/
def isLabel (cs : List Char) : Bool :=
  cs.all (fun c => isKept c && !isForbidden c) && !cs.head?.any Text.isMark
    && joinersFit [] cs && Text.composed cs == cs

/-! ## Directions -/

/-- Whether a text has characters that run from right to left. -/
def runsRight (cs : List Char) : Bool :=
  cs.any fun c => [Text.Direction.right, .arabic].contains (Text.Direction.ofChar c)

/-- Whether the last character that is no mark has one of some directions. -/
def endsWith (allowed : List Text.Direction) (ds : List Text.Direction) : Bool :=
  (ds.reverse.dropWhile (· == .mark)).head?.any allowed.contains

/-- Whether a label has a clear direction: it begins with a letter, ends with a letter or
digit, and holds no letter of the other direction.  From right to left it may not hold
digits of both kinds. -/
def isDirected (cs : List Char) : Bool :=
  let ds := cs.map Text.Direction.ofChar
  match ds with
  | [] => true
  | .left :: _ =>
      ds.all (fun d => d != .right && d != .arabic) && endsWith [.left, .european] ds
  | .right :: _ =>
      !ds.contains .left && endsWith [.right, .european, .arabic] ds
        && !(ds.contains .european && ds.contains .arabic)
  | _ => false

/-! ## Labels in ASCII -/

/-- Whether a text is in ASCII. -/
def isAscii (cs : List Char) : Bool := cs.all fun c => c.toNat < 0x80

/-- The longest label that is written in Punycode, in characters. -/
def encodeBound : Nat := 1000

/-- The longest Punycode that is read. -/
def decodeBound : Nat := 2000

/-- The label that a text in small letters stands for. -/
def readLabel? (cs : List Char) : Option (List Char) :=
  match cs with
  | 'x' :: 'n' :: '-' :: '-' :: code =>
      if !isAscii code || decodeBound < code.length then none
      else
        match Text.Punycode.decode? code with
        | some label => if !isAscii label && isLabel label then some label else none
        | none => none
  | _ => if isLabel cs then some cs else none

/-- A label in ASCII. -/
def writeLabel? (label : List Char) : Option (List Char) :=
  if isAscii label then some label
  else if encodeBound < label.length then none
  else some ("xn--".toList ++ Text.Punycode.encode label)

/-! ## Names -/

/-- The name in ASCII that a text stands for. -/
def ofText? (s : List Char) : Option (List Char) := do
  let texts ← s.mapM mapChar?
  let labels ← (Text.splitOn ['.'] (Text.composed texts.flatten)).mapM readLabel?
  if labels.any runsRight && !labels.all isDirected then none
  else
    let names ← labels.mapM writeLabel?
    return Text.joinWith ['.'] names

end PerlLint.Uri.Domain
