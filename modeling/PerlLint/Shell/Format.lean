import PerlLint.Text.Numeral

/-!
# Escapes and formats

The utilities `echo` and `printf` read escapes with a backslash, and so does `tr`
in its sets.  `printf` fills a format with its arguments; it goes through the
format again as long as arguments are left, and takes empty ones when there are
none.

The texts are bytes written as characters.
-/

namespace PerlLint.Shell

/-- An octal digit. -/
def isOctal (c : Char) : Bool := '0' ≤ c && c ≤ '7'

/-- The character with an octal number. -/
def octalChar (ds : List Char) : Char :=
  Char.ofNat (ds.foldl (fun n d => 8 * n + Text.digitValue d) 0 % 256)

/-- The character of an escape with a letter. -/
def letterEscape? (c : Char) : Option Char :=
  if c = 'a' then some '\x07'
  else if c = 'b' then some '\x08'
  else if c = 'f' then some '\x0c'
  else if c = 'n' then some '\n'
  else if c = 'r' then some '\r'
  else if c = 't' then some '\t'
  else if c = 'v' then some '\x0b'
  else if c = '\\' then some '\\'
  else none

/-- Reads the escape after a backslash: a letter, or up to three octal digits,
after a zero as many more if `leadingZero` says so.  Gives the characters it
stands for and the rest. -/
def escape (leadingZero : Bool) (cs : List Char) : List Char × List Char :=
  match cs with
  | [] => (['\\'], [])
  | c :: rest =>
      match letterEscape? c with
      | some d => ([d], rest)
      | none =>
          if leadingZero then
            if c = '0' then
              let ds := (rest.take 3).takeWhile isOctal
              ([octalChar ds], rest.drop ds.length)
            else (['\\', c], rest)
          else if isOctal c then
            let ds := ((c :: rest).take 3).takeWhile isOctal
            ([octalChar ds], (c :: rest).drop ds.length)
          else (['\\', c], rest)

/-- A text with its escapes replaced. -/
def unescape (leadingZero : Bool) (acc : List Char) : (bound : Nat) → List Char → List Char
  | 0, _ => acc.reverse
  | _ + 1, [] => acc.reverse
  | n + 1, '\\' :: cs =>
      let (ds, rest) := escape leadingZero cs
      unescape leadingZero (ds.reverse ++ acc) n rest
  | n + 1, c :: cs => unescape leadingZero (c :: acc) n cs

/-- What `echo` prints. -/
def echoText (args : List (List Char)) : List Char :=
  let (newline, args) := match args with
    | ['-', 'n'] :: rest => (false, rest)
    | args => (true, args)
  let line := (args.intersperse [' ']).flatten
  unescape true [] (line.length + 1) line ++ (if newline then ['\n'] else [])

/-- The whole number that an argument is, or 0. -/
def numberOf (s : List Char) : Int := (Text.wholeInt? s).getD 0

/-- A text padded with blanks or zeros to a width. -/
def pad (left zero : Bool) (width : Nat) (s : List Char) : List Char :=
  let fill := List.replicate (width - s.length) (if zero && !left then '0' else ' ')
  if left then s ++ fill else fill ++ s

/-- The digits of a number in some base. -/
def baseDigits (base : Nat) (n : Int) : List Char := Nat.toDigits base n.toNat

/-- Goes through a format once.  Gives the text, the arguments left, and whether
any was taken. -/
def formatOnce (acc : List Char) (taken : Bool) : (bound : Nat) → List Char → List (List Char) →
    List Char × List (List Char) × Bool
  | 0, _, args => (acc, args, taken)
  | _ + 1, [], args => (acc, args, taken)
  | n + 1, '\\' :: cs, args =>
      let (ds, rest) := escape false cs
      formatOnce (ds.reverse ++ acc) taken n rest args
  | n + 1, '%' :: '%' :: cs, args => formatOnce ('%' :: acc) taken n cs args
  | n + 1, '%' :: cs, args =>
      let marks := cs.takeWhile fun c => c == '-' || c == '0'
      let rest := cs.drop marks.length
      let width := rest.takeWhile Text.isDigit
      let rest := rest.drop width.length
      let arg := args.headD []
      let put (s : List Char) :=
        (pad (marks.contains '-') (marks.contains '0') (Text.digitsValue width) s).reverse ++ acc
      match rest with
      | 's' :: rest => formatOnce (put arg) true n rest args.tail
      | 'b' :: rest =>
          formatOnce (put (unescape true [] (arg.length + 1) arg)) true n rest args.tail
      | 'c' :: rest => formatOnce (put (arg.take 1)) true n rest args.tail
      | 'd' :: rest | 'i' :: rest | 'u' :: rest =>
          formatOnce (put (Text.intDigits (numberOf arg))) true n rest args.tail
      | 'x' :: rest => formatOnce (put (baseDigits 16 (numberOf arg))) true n rest args.tail
      | 'o' :: rest => formatOnce (put (baseDigits 8 (numberOf arg))) true n rest args.tail
      | _ => formatOnce ('%' :: acc) taken n cs args
  | n + 1, c :: cs, args => formatOnce (c :: acc) taken n cs args

/-- Goes through a format as long as arguments are left.  The text so far is on
`acc`, last character first. -/
def formatAll (acc : List Char) (format : List Char) : (bound : Nat) → List (List Char) →
    List Char
  | 0, _ => acc.reverse
  | n + 1, args =>
      match formatOnce acc false (format.length + 1) format args with
      | (acc, [], _) | (acc, _, false) => acc.reverse
      | (acc, args, true) => formatAll acc format n args

/-- What `printf` prints. -/
def printfText : (args : List (List Char)) → List Char
  | [] => []
  | format :: args => formatAll [] format (args.length + 1) args

end PerlLint.Shell
