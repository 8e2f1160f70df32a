import PerlLint.Json.Printer
import PerlLint.Text.Basic
import PerlLint.Text.Letter
import PerlLint.Text.Numeral

/-!
# Tokens of commented JSON

Settings files are written in a dialect of JSON for people.  It has comments,
strings between single quotes as well, bare words as keys, signs in front of
numbers and hexadecimal numbers.  This module cuts a text into tokens; what may
follow what is decided by the reader.

Blanks (of any script) and comments stand between tokens.  A comment `//` ends
before the next line feed.  A comment `/*` ends with the first `*/` after it, and
comments do not nest.

A token may follow another with nothing between them, so `01` is two numbers.
Only bare words reach on: a word ends at a blank, at a colon or at the end, and
any character in it that is neither a letter, a numeral, `-` nor `_` is an error
at the start of the word.  The names `true`, `false` and `null` are tokens of
their own unless a letter or numeral follows.

Scanning stops at the first error.  The tokens before it are kept, so that the
reader can find an error of its own in them first.

* `TextScan` reads the inside of a string, one state per place in an escape.
* `numberToken` reads a number.
* `scan` puts it together.  It counts the characters of a token that are still to be
  passed over, so its recursion is on the text.
-/

namespace PerlLint.Json

/-! ## Errors -/

/-- What is wrong with a text. -/
inductive Fault where
  | unexpectedToken
  | unexpectedTokenInObject
  | unexpectedWord
  | unexpectedCloseBrace
  | unexpectedCloseBracket
  | unexpectedComma
  | unexpectedColon
  | missingColon
  | missingValue
  | secondValue
  | unterminatedObject
  | unterminatedArray
  | unterminatedComment
  | unterminatedString
  | badEscape
  | badEscapeInDouble
  | badEscapeInSingle
  | missingHexDigits
  /-- A high surrogate with no escape after it. -/
  | unpairedHigh (hex : List Char)
  /-- A high surrogate with another escape after it than a low one. -/
  | brokenPair (hex : List Char)
  /-- A low surrogate with no high one in front of it. -/
  | unpairedLow (hex : List Char)
  | missingDigit
  | missingDigitAfterSign
  | missingExponent
deriving Repr, DecidableEq

namespace Fault

/-- The wording for a surrogate that stands for no character. -/
def surrogateMessage (hex : List Char) (why : String) : String :=
  "Invalid unicode escape sequence. '" ++ String.ofList hex ++ " (" ++ why
    ++ ")' is not a valid UTF8 character"

/-- The wording of a fault. -/
def message : Fault → String
  | unexpectedToken => "Unexpected token"
  | unexpectedTokenInObject => "Unexpected token in object"
  | unexpectedWord => "Unexpected word"
  | unexpectedCloseBrace => "Unexpected close brace"
  | unexpectedCloseBracket => "Unexpected close bracket"
  | unexpectedComma => "Unexpected comma"
  | unexpectedColon => "Unexpected colon"
  | missingColon => "Expected colon after the string or word in object property"
  | missingValue => "Expected value after colon in object property"
  | secondValue => "Text cannot contain more than one JSON value"
  | unterminatedObject => "Unterminated object"
  | unterminatedArray => "Unterminated array"
  | unterminatedComment => "Unterminated comment block"
  | unterminatedString => "Unterminated string literal"
  | badEscape => "Invalid escape"
  | badEscapeInDouble => "Invalid escape in double quote string"
  | badEscapeInSingle => "Invalid escape in single quote string"
  | missingHexDigits => "Expected four hex digits"
  | unpairedHigh hex => surrogateMessage hex "unpaired high surrogate"
  | brokenPair hex => surrogateMessage hex "high surrogate not followed by low surrogate"
  | unpairedLow hex => surrogateMessage hex "unpaired low surrogate"
  | missingDigit => "Expected digit"
  | missingDigitAfterSign => "Expected digit following negative sign"
  | missingExponent => "Expected plus, minus, or digit in number literal"

end Fault

/-! ## Tokens -/

/-- A token. -/
inductive Token where
  | openBrace
  | closeBrace
  | openBracket
  | closeBracket
  | comma
  | colon
  | string (s : List Char)
  | word (s : List Char)
  /-- A number: as written, and the value it has. -/
  | number (s : List Char) (value : Json)
  | bool (b : Bool)
  | null
deriving DecidableEq

/-- What was found at the front of a text. -/
inductive Found (α : Type) where
  /-- Something that uses up `used` characters. -/
  | some (a : α) (used : Nat)
  /-- A fault, `offset` characters from the front. -/
  | fault (f : Fault) (offset : Nat)

/-! ## Strings -/

/-- A place inside a string. -/
inductive TextScan where
  /-- Between characters. -/
  | plain
  /-- After the backslash at `start`. -/
  | escape (start : Nat)
  /-- Inside the four digits of the escape at `start`: the digits so far, last
  first, and the digits of the high surrogate in front of it, if there is one. -/
  | hex (start : Nat) (digits : List Char) (high : Option (List Char))
  /-- After a high surrogate, whose escape is at `start`. -/
  | high (start : Nat) (digits : List Char)
  /-- After a high surrogate and a backslash. -/
  | highEscape (start : Nat) (digits : List Char)

/-- The character of an escape other than `\u`, in a string that ends with
`quote`. -/
def simpleEscape (quote c : Char) : Except Fault Char :=
  if c = '"' then (if quote = '"' then .ok '"' else .error .badEscapeInSingle)
  else if c = '\'' then (if quote = '\'' then .ok '\'' else .error .badEscapeInDouble)
  else if c = '\\' then .ok '\\'
  else if c = '/' then .ok '/'
  else if c = 'b' then .ok '\x08'
  else if c = 'f' then .ok '\x0c'
  else if c = 'n' then .ok '\n'
  else if c = 'r' then .ok '\r'
  else if c = 't' then .ok '\t'
  else .error .badEscape

/-- The first half of a surrogate pair. -/
def isHighSurrogate (n : Nat) : Bool := 0xD800 ≤ n && n < 0xDC00

/-- The second half of a surrogate pair. -/
def isLowSurrogate (n : Nat) : Bool := 0xDC00 ≤ n && n < 0xE000

/-- The next place after the fourth digit of an escape, and the character it
completes if it does. -/
def closeHex (start : Nat) (digits : List Char) :
    (high : Option (List Char)) → Except Fault (Option Char × TextScan)
  | some h =>
      let m := Text.Hex.value h
      let n := Text.Hex.value digits
      if isLowSurrogate n then
        .ok (some (Char.ofNat (0x10000 + (m - 0xD800) * 1024 + (n - 0xDC00))), .plain)
      else .error (.brokenPair h)
  | none =>
      let n := Text.Hex.value digits
      if isHighSurrogate n then .ok (none, .high start digits)
      else if isLowSurrogate n then .error (.unpairedLow digits)
      else .ok (some (Char.ofNat n), .plain)

/-- Reads the rest of a string that ends with `quote`.  `used` characters of the
token are behind, the quote in front among them, and `acc` holds the text so
far, last character first. -/
def scanText (quote : Char) (used : Nat) (acc : List Char) :
    TextScan → List Char → Found (List Char)
  | .plain, [] => .fault .unterminatedString 0
  | .escape _, [] => .fault .unterminatedString 0
  | .hex start _ _, [] => .fault .missingHexDigits start
  | .high start ds, [] => .fault (.unpairedHigh ds) start
  | .highEscape start ds, [] => .fault (.unpairedHigh ds) start
  | .plain, c :: cs =>
      if c = quote then .some acc.reverse (used + 1)
      else if c = '\\' then scanText quote (used + 1) acc (.escape used) cs
      else scanText quote (used + 1) (c :: acc) .plain cs
  | .escape start, c :: cs =>
      if c = 'u' then scanText quote (used + 1) acc (.hex start [] none) cs
      else
        match simpleEscape quote c with
        | .ok d => scanText quote (used + 1) (d :: acc) .plain cs
        | .error f => .fault f start
  | .hex start ds high, c :: cs =>
      match Text.Hex.digit? c with
      | none => .fault .missingHexDigits start
      | some _ =>
          if ds.length < 3 then scanText quote (used + 1) acc (.hex start (c :: ds) high) cs
          else
            match closeHex start (c :: ds).reverse high with
            | .ok (some d, next) => scanText quote (used + 1) (d :: acc) next cs
            | .ok (none, next) => scanText quote (used + 1) acc next cs
            | .error f => .fault f start
  | .high start ds, c :: cs =>
      if c = '\\' then scanText quote (used + 1) acc (.highEscape start ds) cs
      else .fault (.unpairedHigh ds) start
  | .highEscape start ds, c :: cs =>
      if c = 'u' then scanText quote (used + 1) acc (.hex start [] (some ds)) cs
      else .fault (.unpairedHigh ds) start
termination_by structural _ cs => cs

/-! ## Numbers -/

/-- The value of a hexadecimal number: an integer if 64 bits with a sign hold
its digits, the token as a text if not. -/
def hexNumber (token : List Char) (negative : Bool) (ds : List Char) : Json :=
  let n := Text.Hex.value ds
  if n < Text.wordBound then .number (.int (if negative then -(n : Int) else n))
  else .string (String.ofList token)

/-- The value of a decimal number: a number if it is within range, the token as
a text if not. -/
def decimalNumber (token : List Char) (x : Numeral) : Json :=
  match x.toNumber? with
  | some n => .number n
  | none => .string (String.ofList token)

/-- Reads an exponent, `used` characters into the token.  `none` if there is
none. -/
def scanExponent (used : Nat) : List Char → Except (Fault × Nat) (Option (Int × Nat))
  | c :: cs =>
      if c = 'e' ∨ c = 'E' then
        let signed := cs.head? = some '-' ∨ cs.head? = some '+'
        let negative := cs.head? = some '-'
        let rest := if signed then cs.drop 1 else cs
        let start := if signed then used + 2 else used + 1
        let ds := rest.takeWhile Text.isDigit
        if ds.isEmpty then
          .error (if signed then .missingDigit else .missingExponent, start)
        else
          let n := Text.digitsValue ds
          .ok (some (if negative then -(n : Int) else n, start + ds.length))
      else .ok none
  | [] => .ok none

/-- Reads what follows the digits before the point. -/
def scanDecimal (token : List Char) (negative : Bool) (whole : List Char) (used : Nat)
    (cs : List Char) : Found Token :=
  let finish (part : Option (List Char)) (used : Nat) (cs : List Char) : Found Token :=
    match scanExponent used cs with
    | .error (f, offset) => .fault f offset
    | .ok none =>
        let s := token.take used
        .some (.number s (decimalNumber s ⟨negative, whole, part, none⟩)) used
    | .ok (some (e, used)) =>
        let s := token.take used
        .some (.number s (decimalNumber s ⟨negative, whole, part, some e⟩)) used
  match cs with
  | '.' :: rest =>
      let ds := rest.takeWhile Text.isDigit
      if ds.isEmpty then .fault .missingDigit (used + 1)
      else finish (some ds) (used + 1 + ds.length) (rest.drop ds.length)
  | _ => finish none used cs

/-- Reads the number at the front of a text that starts with a sign or a
digit. -/
def numberToken (text : List Char) : Found Token :=
  let negative := text.head? = some '-'
  let signed := negative ∨ text.head? = some '+'
  let start := if signed then 1 else 0
  match text.drop start with
  | '0' :: 'x' :: cs => hexToken text negative (start + 2) cs
  | '0' :: 'X' :: cs => hexToken text negative (start + 2) cs
  | '0' :: cs => scanDecimal text negative ['0'] (start + 1) cs
  | cs =>
      let ds := cs.takeWhile Text.isDigit
      if ds.isEmpty then .fault .missingDigitAfterSign start
      else scanDecimal text negative ds (start + ds.length) (cs.drop ds.length)
where
  /-- The digits of a hexadecimal number, `used` characters into the token. -/
  hexToken (text : List Char) (negative : Bool) (used : Nat) (cs : List Char) : Found Token :=
    let ds := cs.takeWhile fun c => (Text.Hex.digit? c).isSome
    if ds.isEmpty then .fault .missingDigit used
    else
      let s := text.take (used + ds.length)
      .some (.number s (hexNumber s negative ds)) (used + ds.length)

/-! ## Words -/

/-- A character that a bare word may hold. -/
def isWordChar (c : Char) : Bool := Text.isAlphanumeric c || c == '-' || c == '_'

/-- Reads a bare word. -/
def wordToken (text : List Char) : Found Token :=
  let s := text.takeWhile fun c => !(Text.isBlank c || c == ':')
  if s.isEmpty || !s.all isWordChar then .fault .unexpectedToken 0 else .some (.word s) s.length

/-- Whether a text starts with a name that no letter or numeral follows. -/
def startsWithName (name text : List Char) : Bool :=
  match Text.matchToken? name text with
  | some (c :: _) => !Text.isAlphanumeric c
  | some [] => true
  | none => false

/-- Reads the token at the front of a text that starts neither with a blank nor
with a comment. -/
def token (text : List Char) : Found Token :=
  match text with
  | '{' :: _ => .some .openBrace 1
  | '}' :: _ => .some .closeBrace 1
  | '[' :: _ => .some .openBracket 1
  | ']' :: _ => .some .closeBracket 1
  | ',' :: _ => .some .comma 1
  | ':' :: _ => .some .colon 1
  | '"' :: cs => ofText (scanText '"' 1 [] .plain cs)
  | '\'' :: cs => ofText (scanText '\'' 1 [] .plain cs)
  | '/' :: _ => .fault .unexpectedToken 0
  | c :: _ =>
      if c = '-' ∨ c = '+' ∨ Text.isDigit c then numberToken text
      else if startsWithName ['t', 'r', 'u', 'e'] text then .some (.bool true) 4
      else if startsWithName ['f', 'a', 'l', 's', 'e'] text then .some (.bool false) 5
      else if startsWithName ['n', 'u', 'l', 'l'] text then .some .null 4
      else wordToken text
  | [] => .fault .unexpectedToken 0
where
  /-- A string token. -/
  ofText : Found (List Char) → Found Token
    | .some s used => .some (.string s) used
    | .fault f offset => .fault f offset

/-! ## Blanks and comments -/

/-- The number of characters before the next line feed. -/
def lineLength (cs : List Char) : Nat := (cs.takeWhile (· != '\n')).length

/-- The number of characters up to and with the next `*/`. -/
def blockLength? (used : Nat) : List Char → Option Nat
  | '*' :: '/' :: _ => some (used + 2)
  | _ :: cs => blockLength? (used + 1) cs
  | [] => none
termination_by structural cs => cs

/-- What stands at one place of a text. -/
inductive Piece where
  /-- A blank or a comment, of `used` characters. -/
  | gap (used : Nat)
  /-- A token of `used` characters. -/
  | token (t : Token) (used : Nat)
  /-- A fault, `offset` characters further on. -/
  | fault (f : Fault) (offset : Nat)

/-- What stands at the front of a text. -/
def piece (text : List Char) : Piece :=
  match text with
  | '/' :: '/' :: rest => .gap (lineLength rest + 2)
  | '/' :: '*' :: rest =>
      match blockLength? 2 rest with
      | some n => .gap n
      | none => .fault .unterminatedComment 0
  | c :: _ =>
      if Text.isBlank c then .gap 1
      else
        match token text with
        | .some t used => .token t used
        | .fault f offset => .fault f offset
  | [] => .gap 0

/-! ## The whole text -/

/-- How a scan ends. -/
inductive ScanEnd where
  /-- At the end of the text. -/
  | text
  /-- At a fault. -/
  | fault (f : Fault)
deriving DecidableEq

/-- The tokens of a text, each with its place, and how and where they end. -/
structure Scan where
  /-- The tokens and their places. -/
  tokens : List (Nat × Token)
  /-- How the scan ends. -/
  stop : ScanEnd
  /-- Where it ends. -/
  stopAt : Nat
deriving DecidableEq

/-- The scan of a text whose first character is at `place`.  `skip` characters
of a piece already found are passed over first.  `done` holds the tokens in
front, last first. -/
def scanFrom (done : List (Nat × Token)) (place : Nat) : (skip : Nat) → List Char → Scan
  | _, [] => ⟨done.reverse, .text, place⟩
  | k + 1, _ :: cs => scanFrom done (place + 1) k cs
  | 0, c :: cs =>
      match piece (c :: cs) with
      | .gap used => scanFrom done (place + 1) (used - 1) cs
      | .token t used => scanFrom ((place, t) :: done) (place + 1) (used - 1) cs
      | .fault f offset => ⟨done.reverse, .fault f, place + offset⟩
termination_by structural _ cs => cs

/-- The scan of a text. -/
def scan (text : List Char) : Scan := scanFrom [] 0 0 text

end PerlLint.Json
