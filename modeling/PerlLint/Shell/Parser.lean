import PerlLint.Shell.Token

/-!
# Reading scripts

Tokens become commands by recursive descent.  A word is reserved if it stands
where a command may start and none of it is quoted.  Every function takes the
tokens that are left and gives those left after it, and `none` if the script is
wrong.

The functions take a bound on the depth, which the number of tokens provides.
-/

namespace PerlLint.Shell

/-- The characters of a word that is not quoted and holds no expansion. -/
def bareWord? : Word → Option (List Char)
  | [] => some []
  | .text s false :: rest => (bareWord? rest).map (s ++ ·)
  | _ => none

/-- Whether a token is a reserved word. -/
def Token.isReserved (t : Token) (name : String) : Bool :=
  match t with
  | .word w => bareWord? w == some name.toList
  | _ => false

/-- The words that end a list of commands. -/
def closers : List String := ["then", "do", "done", "fi", "else", "elif", "esac", "\x7d"]

/-- Whether a token ends a list of commands. -/
def Token.closes (t : Token) : Bool :=
  match t with
  | .operator .closeParen | .operator .doubleSemicolon => true
  | t => closers.any t.isReserved

/-- The tokens from the first that is no line end on. -/
def skipNewlines (ts : List Token) : List Token :=
  ts.dropWhile fun t => t == .operator .newline

/-- The tokens after a reserved word. -/
def expect? (name : String) : List Token → Option (List Token)
  | t :: ts => if t.isReserved name then some ts else none
  | [] => none

/-- A name and what is assigned to it, if a word is an assignment. -/
def assignment? (w : Word) : Option (List Char × Word) :=
  let front := w.takeWhile fun p => match p with
    | .text [c] false => c != '='
    | _ => false
  match bareWord? front, w.drop front.length with
  | some (c :: cs), .text ['='] false :: value =>
      if isNameStart c && cs.all isNameChar then some (c :: cs, value) else none
  | _, _ => none

/-- The redirection at the front. -/
def redirection? : List Token → Option (Redirection × List Token)
  | .toFile fd append :: .word w :: ts => some (.toFile fd append w, ts)
  | .fromFile :: .word w :: ts => some (.fromFile w, ts)
  | .duplicate fd target :: ts => some (.duplicate fd target, ts)
  | .fromText body :: ts => some (.fromText body, ts)
  | _ => none

/-- The redirections at the front. -/
def redirections : (bound : Nat) → List Token → List Redirection × List Token
  | 0, ts => ([], ts)
  | n + 1, ts =>
      match redirection? ts with
      | some (r, rest) =>
          let (rs, rest) := redirections n rest
          (r :: rs, rest)
      | none => ([], ts)

/-- The words and redirections of a simple command, in front of which come the
assignments so far. -/
def simpleCommand (assignments : List (List Char × Word)) (words : List Word)
    (rs : List Redirection) : (bound : Nat) → List Token → Command × List Token
  | 0, ts => (.simple assignments.reverse words.reverse rs.reverse, ts)
  | n + 1, ts =>
      match redirection? ts with
      | some (r, rest) => simpleCommand assignments words (r :: rs) n rest
      | none =>
          match ts with
          | .word w :: rest =>
              match words, assignment? w with
              | [], some a => simpleCommand (a :: assignments) words rs n rest
              | _, _ => simpleCommand assignments (w :: words) rs n rest
          | _ => (.simple assignments.reverse words.reverse rs.reverse, ts)

/-- The words up to a line end or semicolon, and the tokens after it. -/
def wordsOfFor (acc : List Word) : List Token → List Word × List Token
  | .word w :: ts => wordsOfFor (w :: acc) ts
  | .operator _ :: ts => (acc.reverse, ts)
  | ts => (acc.reverse, ts)

/-- The patterns in front of a closing parenthesis. -/
def patterns (acc : List Word) : List Token → Option (List Word × List Token)
  | .word w :: .operator .pipe :: ts => patterns (w :: acc) ts
  | .word w :: .operator .closeParen :: ts => some ((w :: acc).reverse, ts)
  | _ => none

mutual

/-- A list of commands, up to a token that ends it. -/
def commandList : (bound : Nat) → List Token → Option (Command × List Token)
  | 0, _ => none
  | n + 1, ts =>
      match skipNewlines ts with
      | [] => some (.skip, [])
      | t :: rest =>
          if t.closes then some (.skip, t :: rest)
          else do
            let (c, rest) ← andOr n (t :: rest)
            match rest with
            | .operator .newline :: rest | .operator .semicolon :: rest
            | .operator .ampersand :: rest =>
                let (d, rest) ← commandList n rest
                return (.seq c d, rest)
            | rest => return (c, rest)

/-- Pipelines joined by `&&` and `||`. -/
def andOr : (bound : Nat) → List Token → Option (Command × List Token)
  | 0, _ => none
  | n + 1, ts => do
      let (c, rest) ← pipeline n ts
      andOrRest n c rest

/-- What follows a pipeline. -/
def andOrRest : (bound : Nat) → Command → List Token → Option (Command × List Token)
  | 0, _, _ => none
  | n + 1, c, ts =>
      match ts with
      | .operator .and :: rest => do
          let (d, rest) ← pipeline n (skipNewlines rest)
          andOrRest n (.andThen c d) rest
      | .operator .or :: rest => do
          let (d, rest) ← pipeline n (skipNewlines rest)
          andOrRest n (.orElse c d) rest
      | ts => some (c, ts)

/-- Commands joined by pipes. -/
def pipeline : (bound : Nat) → List Token → Option (Command × List Token)
  | 0, _ => none
  | n + 1, ts =>
      match expect? "!" ts with
      | some rest => do
          let (c, rest) ← pipeline n rest
          return (.negate c, rest)
      | none => do
          let (c, rest) ← command n ts
          match rest with
          | .operator .pipe :: rest =>
              let (d, rest) ← pipeline n (skipNewlines rest)
              return (.pipe c d, rest)
          | rest => return (c, rest)

/-- One command with the redirections after it. -/
def command : (bound : Nat) → List Token → Option (Command × List Token)
  | 0, _ => none
  | n + 1, ts =>
      let redirect (c : Command) (ts : List Token) : Option (Command × List Token) :=
        match redirections n ts with
        | ([], rest) => some (c, rest)
        | (rs, rest) => some (.redirected c rs, rest)
      match ts with
      | .operator .openParen :: rest => do
          let (c, rest) ← commandList n rest
          match rest with
          | .operator .closeParen :: rest => redirect (.subshell c) rest
          | _ => none
      | .word w :: .operator .openParen :: .operator .closeParen :: rest => do
          let (c, rest) ← command n (skipNewlines rest)
          return (.define (← bareWord? w) c, rest)
      | t :: rest =>
          if t.isReserved "\x7b" then do
            let (c, rest) ← commandList n rest
            redirect c (← expect? "\x7d" rest)
          else if t.isReserved "if" then do
            let (c, rest) ← branches n rest
            redirect c rest
          else if t.isReserved "while" || t.isReserved "until" then do
            let (c, rest) ← commandList n rest
            let (d, rest) ← commandList n (← expect? "do" rest)
            redirect (.loop (t.isReserved "until") c d) (← expect? "done" rest)
          else if t.isReserved "for" then
            match rest with
            | .word w :: rest => do
                let name ← bareWord? w
                let (ws, rest) :=
                  match expect? "in" (skipNewlines rest) with
                  | some rest =>
                      let (ws, rest) := wordsOfFor [] rest
                      (some ws, rest)
                  | none =>
                      (none, rest.dropWhile fun t => t == .operator .semicolon)
                let (d, rest) ← commandList n (← expect? "do" (skipNewlines rest))
                redirect (.each name ws d) (← expect? "done" rest)
            | _ => none
          else if t.isReserved "case" then
            match rest with
            | .word w :: rest => do
                let (arms, rest) ← caseArms n (← expect? "in" (skipNewlines rest))
                redirect (.choose w arms) rest
            | _ => none
          else if t.closes then none
          else
            match simpleCommand [] [] [] (ts.length + 1) ts with
            | (.simple [] [] [], _) => none
            | (c, rest) => some (c, rest)
      | [] => none

/-- What follows `if` or `elif`. -/
def branches : (bound : Nat) → List Token → Option (Command × List Token)
  | 0, _ => none
  | n + 1, ts => do
      let (c, rest) ← commandList n ts
      let (yes, rest) ← commandList n (← expect? "then" rest)
      match rest with
      | t :: rest =>
          if t.isReserved "fi" then return (.ifElse c yes .skip, rest)
          else if t.isReserved "else" then do
            let (no, rest) ← commandList n rest
            return (.ifElse c yes no, ← expect? "fi" rest)
          else if t.isReserved "elif" then do
            let (no, rest) ← branches n rest
            return (.ifElse c yes no, rest)
          else none
      | [] => none

/-- The arms of a `case`, up to `esac`. -/
def caseArms : (bound : Nat) → List Token → Option (List (List Word × Command) × List Token)
  | 0, _ => none
  | n + 1, ts =>
      let ts := skipNewlines ts
      match expect? "esac" ts with
      | some rest => some ([], rest)
      | none => do
          let ts := match ts with
            | .operator .openParen :: rest => rest
            | ts => ts
          let (ps, rest) ← patterns [] ts
          let (c, rest) ← commandList n rest
          let rest := match rest with
            | .operator .doubleSemicolon :: rest => rest
            | rest => rest
          let (arms, rest) ← caseArms n rest
          return ((ps, c) :: arms, rest)

end

/-- The command that a script is, if it can be read. -/
def parseScript? (script : List Char) : Option Command := do
  let ts ← tokensOf? script
  match ← commandList (8 * ts.length + 8) ts with
  | (c, []) => some c
  | _ => none

end PerlLint.Shell
