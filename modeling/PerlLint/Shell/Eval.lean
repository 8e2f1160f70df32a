import PerlLint.Shell.Builtin
import PerlLint.Shell.Expansion
import PerlLint.Shell.Parser
import PerlLint.Shell.Utility

/-!
# Running scripts

Words are expanded before a command runs.  The first field names the command: a
function, one of the shell's own, or a program that is looked for as a path or in
the search path.

A program that is not there gives the exit status 127, and one that may not be
executed 126.  A file is run by the program that its first line names after `#!`,
and by the shell if it names none.

A redirection changes where the input of a command comes from or where its outputs
go.  After the command everything is as it was before, except that a command that
reads the input of the shell has used it up.

The functions take a bound on the depth of their recursion, turns of loops
included.  A script that goes beyond it ends with the exit status 255.
-/

namespace PerlLint.Shell

open Host

/-! ## Redirections -/

/-- Opens a file for writing. -/
def openFile (append : Bool) (path : List Char) : Act (Option Target) := do
  let s ← get
  match ← locationOf path with
  | none => return none
  | some l =>
      match s.files.node? l with
      | some .directory => return none
      | some (.device _) => return some .dropped
      | some (.file _ _) =>
          if !append then set { s with files := s.files.setContent l [] }
          return some (.file l)
      | some (.utility _) => return none
      | none =>
          set { s with files := s.files.setContent l [] }
          return some (.file l)

/-- Lets an output go elsewhere. -/
def setOutput (fd : Nat) (target : Target) : Act Unit :=
  modify fun s =>
    if fd = 1 then { s with out := target } else if fd = 2 then { s with err := target } else s

/-- Where the output with a number goes. -/
def State.target (s : State) : Option Nat → Target
  | some 1 => s.out
  | some 2 => s.err
  | _ => .dropped

/-- Runs an action, and then restores the outputs, and the input too if
`withInput` says so. -/
def restoring (withInput : Bool) (a : Act Unit) : Act Unit := do
  let before ← get
  a.andFinally <| modify fun s =>
    { s with out := before.out, err := before.err,
             input := if withInput then before.input else s.input }

/-- Whether a redirection changes the input. -/
def Redirection.isInput : Redirection → Bool
  | .fromFile _ | .fromText _ => true
  | _ => false

/-! ## Programs -/

/-- The path of a program, if it is there. -/
def programPath? (name : List Char) : Act (Option String) := do
  let s ← get
  let path := Text.Bytes.toString name
  if name.contains '/' then return some path
  else
    return (s.search.map fun entry => joinPath entry path).find? fun p =>
      s.files.isProgram s.directory p

/-- The variables at the start of a script. -/
def firstVariables (search : List String) : Table (List Char) (List Char) :=
  (Table.empty.set "PATH".toList (Text.Bytes.ofString (":".intercalate search))).set "IFS".toList
    " \t\n".toList

/-- Gives the exit status of a program that cannot be run. -/
def refuse (name : List Char) (status : Nat) : Act Unit := do
  Act.complain (Text.Bytes.toString name ++ ": cannot run")
  Act.finish status

/-- The words of the first line of a script after `#!`. -/
def interpreter? (content : List Char) : Option (List (List Char)) :=
  match content with
  | '#' :: '!' :: rest =>
      some (fieldsFrom [] none [.split (rest.takeWhile (· != '\n'))])
  | _ => none

/-- The text without line feeds at its end. -/
def dropNewlines (s : List Char) : List Char := (s.reverse.dropWhile (· == '\n')).reverse

/-- Whether a word prints something on its way. -/
def Word.hasOutput (w : Word) : Bool :=
  w.any fun p => match p with
    | .output _ _ => true
    | _ => false

/-! ## Commands -/

mutual

/-- The pieces that a word expands to.  Text outside quotes is split if `splits`
says so. -/
def expand : (bound : Nat) → (splits : Bool) → Word → Act (List Chunk)
  | 0, _, _ => throw (.exit 255)
  | _ + 1, _, [] => return []
  | n + 1, splits, part :: rest => do
      let chunks ← expandPart n splits part
      return chunks ++ (← expand n splits rest)

/-- The pieces that a part of a word expands to. -/
def expandPart : (bound : Nat) → (splits : Bool) → Part → Act (List Chunk)
  | 0, _, _ => throw (.exit 255)
  | n + 1, splits, part => do
      match part with
      | .text s quoted => return [.ofText (!splits || quoted) s]
      | .parameter ['@'] quoted => return separateChunks quoted (← get).arguments
      | .parameter ['*'] false => return separateChunks false (← get).arguments
      | .parameter name quoted => return [.ofText quoted (((← get).parameter? name).getD [])]
      | .adjusted name a source quoted => adjust n name a source quoted
      | .output source quoted =>
          let text ← Act.captured (runSource n source)
          return [.ofText quoted (dropNewlines text)]
      | .arithmetic source quoted =>
          let sum := joinChunks (← expandInside n true source)
          match Arithmetic.evaluate? (numberIn (← get).bindings) sum with
          | some value => return [.ofText quoted (Text.intDigits value)]
          | none => throw (.exit 2)

/-- The pieces that the inside of an expansion expands to. -/
def expandInside : (bound : Nat) → (quoted : Bool) → List Char → Act (List Chunk)
  | 0, _, _ => throw (.exit 255)
  | n + 1, quoted, source =>
      match wholeWord? quoted source with
      | some w => expand n true w
      | none => throw (.exit 2)

/-- The pieces that an adjusted parameter expands to. -/
def adjust : (bound : Nat) → (name : List Char) → Adjustment → (source : List Char) →
    (quoted : Bool) → Act (List Chunk)
  | 0, _, _, _, _ => throw (.exit 255)
  | n + 1, name, a, source, quoted => do
      let value := (← get).parameter? name
      let text := value.getD []
      let pattern : Act (List Glob) :=
        match wholeWord? false source with
        | some w => return Glob.ofWord (← expandPattern n w)
        | none => throw (.exit 2)
      match a with
      | .size => return [.ofText quoted (Text.natDigits text.length)]
      | .instead orEmpty =>
          if isMissing orEmpty value then expandInside n quoted source
          else return [.ofText quoted text]
      | .keep orEmpty =>
          if isMissing orEmpty value then
            let word := joinChunks (← expandInside n quoted source)
            Act.assign name word
            return [.ofText quoted word]
          else return [.ofText quoted text]
      | .replace orEmpty =>
          if isMissing orEmpty value then return [] else expandInside n quoted source
      | .demand orEmpty =>
          if isMissing orEmpty value then misuse "parameter not set"
          else return [.ofText quoted text]
      | .dropFront longest => return [.ofText quoted (dropFront longest (← pattern) text)]
      | .dropBack longest => return [.ofText quoted (dropBack longest (← pattern) text)]

/-- The fields that words expand to. -/
def expandAll : (bound : Nat) → List Word → Act (List (List Char))
  | 0, _ => throw (.exit 255)
  | _ + 1, [] => return []
  | n + 1, w :: ws => do
      let fields ←
        if w = [.text [] true, .parameter ['@'] true] then pure (← get).arguments
        else pure (fieldsFrom [] none (← expand n false w))
      return fields ++ (← expandAll n ws)

/-- The text that a word expands to, without splitting. -/
def expandText : (bound : Nat) → Word → Act (List Char)
  | 0, _ => throw (.exit 255)
  | n + 1, w => do return joinChunks (← expand n false w)

/-- The pattern that a word expands to. -/
def expandPattern : (bound : Nat) → Word → Act (List (Char × Bool))
  | 0, _ => throw (.exit 255)
  | _ + 1, [] => return []
  | n + 1, part :: rest => do
      let text ← expandText n [part]
      return text.map (fun c => (c, part.isQuoted)) ++ (← expandPattern n rest)

/-- Carries out redirections.  Says whether all could be. -/
def redirectAll : (bound : Nat) → List Redirection → Act Bool
  | 0, _ => throw (.exit 255)
  | _ + 1, [] => return true
  | n + 1, r :: rs => do
      match r with
      | .toFile fd append path =>
          match ← openFile append (← expandText n path) with
          | some target => setOutput fd target
          | none => return false
      | .fromFile path =>
          let p ← expandText n path
          let s ← get
          match s.files.read s.directory (Text.Bytes.toString p) with
          | .ok content => set { s with input := Text.Bytes.ofBytes content }
          | .error _ => return false
      | .duplicate fd target => setOutput fd ((← get).target target)
      | .fromText body =>
          let text ← expandText n body
          modify fun s => { s with input := text }
      redirectAll n rs

/-- Runs a command with redirections around it.  If they fail, the script ends if
`special` says so. -/
def redirected : (bound : Nat) → (special : Bool) → List Redirection → Act Unit → Act Unit
  | 0, _, _, _ => throw (.exit 255)
  | n + 1, special, rs, a =>
      if rs.isEmpty then a
      else
        restoring (rs.any Redirection.isInput) do
          if ← redirectAll n rs then a
          else if special then throw (.exit 2)
          else Act.finish 2

/-- Runs a command. -/
def eval : (bound : Nat) → Command → Act Unit
  | 0, _ => throw (.exit 255)
  | n + 1, c => do
      match c with
      | .skip => pure ()
      | .simple assignments words rs =>
          evalSimple n assignments words rs
          Act.heed
      | .pipe first second =>
          let text ← Act.captured (eval n first)
          let input := (← get).input
          modify fun s => { s with input := text }
          Act.isolated (eval n second)
          modify fun s => { s with input }
          Act.heed
      | .negate c =>
          Act.guarding (eval n c)
          Act.finish (if (← get).status = 0 then 1 else 0)
      | .seq first second =>
          eval n first
          eval n second
      | .andThen first second =>
          Act.guarding (eval n first)
          if (← get).status = 0 then eval n second
      | .orElse first second =>
          Act.guarding (eval n first)
          if (← get).status ≠ 0 then eval n second
      | .subshell c =>
          Act.isolated (eval n c)
          Act.heed
      | .redirected c rs => redirected n false rs (eval n c)
      | .ifElse condition yes no =>
          Act.guarding (eval n condition)
          if (← get).status = 0 then eval n yes
          else
            Act.finish 0
            eval n no
      | .loop negated condition body => evalLoop n 0 negated condition body
      | .each name words body =>
          let items ← match words with
            | some ws => expandAll n ws
            | none => pure (← get).arguments
          Act.finish 0
          evalEach n name items body
      | .choose subject arms =>
          let text ← expandText n subject
          Act.finish 0
          evalArms n text arms
      | .define name body =>
          modify fun s => { s with functions := s.functions.set name body, status := 0 }

/-- Runs a simple command. -/
def evalSimple : (bound : Nat) → List (List Char × Word) → List Word → List Redirection → Act Unit
  | 0, _, _, _ => throw (.exit 255)
  | n + 1, assignments, words, rs => do
      let fields ← expandAll n words
      assign n assignments
      match fields with
      | [] =>
          if !(words.any Word.hasOutput || assignments.any fun a => a.2.hasOutput) then
            Act.finish 0
          redirected n false rs (pure ())
      | [['e', 'x', 'e', 'c']] => if !(← redirectAll n rs) then throw (.exit 2)
      | name :: args =>
          redirected n (specialCommands.contains (String.ofList name)) rs (call n name args)

/-- Carries out assignments. -/
def assign : (bound : Nat) → List (List Char × Word) → Act Unit
  | 0, _ => throw (.exit 255)
  | _ + 1, [] => pure ()
  | n + 1, (name, value) :: rest => do
      Act.assign name (← expandText n value)
      assign n rest

/-- Runs a loop whose last turn had the exit status `last`. -/
def evalLoop : (bound : Nat) → (last : Nat) → Bool → Command → Command → Act Unit
  | 0, _, _, _, _ => throw (.exit 255)
  | n + 1, last, negated, condition, body => do
      Act.guarding (eval n condition)
      if ((← get).status == 0) != negated then
        let goOn ← turn n body
        let status := (← get).status
        if goOn then evalLoop n status negated condition body
      else Act.finish last

/-- Runs one turn of a loop, and says whether the loop goes on. -/
def turn : (bound : Nat) → Command → Act Bool
  | 0, _ => throw (.exit 255)
  | n + 1, body =>
      tryCatch (do eval n body; return true) fun e =>
        match e with
        | .leaveLoop => do Act.finish 0; return false
        | .nextTurn => do Act.finish 0; return true
        | e => throw e

/-- Runs a command for each of some values of a variable. -/
def evalEach : (bound : Nat) → List Char → List (List Char) → Command → Act Unit
  | 0, _, _, _ => throw (.exit 255)
  | _ + 1, _, [], _ => pure ()
  | n + 1, name, item :: items, body => do
      Act.assign name item
      if ← turn n body then evalEach n name items body

/-- Runs the command behind the first pattern that a text matches. -/
def evalArms : (bound : Nat) → List Char → List (List Word × Command) → Act Unit
  | 0, _, _ => throw (.exit 255)
  | _ + 1, _, [] => pure ()
  | n + 1, text, (ps, c) :: arms => do
      if ← matchesAny n text ps then eval n c else evalArms n text arms

/-- Whether a text matches one of some patterns. -/
def matchesAny : (bound : Nat) → List Char → List Word → Act Bool
  | 0, _, _ => throw (.exit 255)
  | _ + 1, _, [] => return false
  | n + 1, text, p :: ps => do
      if Glob.matchesAll (Glob.ofWord (← expandPattern n p)) text then return true
      else matchesAny n text ps

/-- Runs a command by its name. -/
def call : (bound : Nat) → List Char → List (List Char) → Act Unit
  | 0, _, _ => throw (.exit 255)
  | n + 1, name, args => do
      match (← get).functions.get? name with
      | some body => callFunction n body args
      | none =>
          match String.ofList name, args with
          | "exec", name :: args =>
              runProgram n name args
              throw (.exit (← get).status)
          | "command", ['-', 'v'] :: name :: _ =>
              match ← programPath? name with
              | some path =>
                  Act.print (Text.Bytes.ofString (path ++ "\n"))
                  Act.finish 0
              | none => Act.finish 127
          | "command", name :: args => call n name args
          | "eval", args => evalSource n (args.intersperse [' ']).flatten
          | ".", path :: _ => runHere n path
          | own, args => if !(← runOwn own args) then runProgram n name args

/-- Runs a function with arguments of its own. -/
def callFunction : (bound : Nat) → Command → List (List Char) → Act Unit
  | 0, _, _ => throw (.exit 255)
  | n + 1, body, args => do
      let before := (← get).arguments
      modify fun s => { s with arguments := args }
      let run : Act Unit := tryCatch (eval n body) fun e =>
        match e with
        | .leaveFunction status => Act.finish status
        | e => throw e
      run.andFinally (modify fun s => { s with arguments := before })

/-- Runs a file as a part of the script. -/
def runHere : (bound : Nat) → List Char → Act Unit
  | 0, _ => throw (.exit 255)
  | n + 1, name => do
      let path := (← programPath? name).getD ""
      let s ← get
      match s.files.read s.directory path with
      | .ok content => evalSource n (Text.Bytes.ofBytes content)
      | .error _ => misuse ".: cannot open"

/-- Runs a program by its name. -/
def runProgram : (bound : Nat) → List Char → List (List Char) → Act Unit
  | 0, _, _ => throw (.exit 255)
  | n + 1, name, args => do
      match ← programPath? name with
      | none => refuse name 127
      | some path =>
          let s ← get
          match s.files.lookUp s.directory path with
          | .error _ => refuse name 127
          | .ok .directory | .ok (.device _) => refuse name 126
          | .ok (.utility .sh) => runShell n args
          | .ok (.utility .env) =>
              match args with
              | [] => Act.finish 0
              | name :: args =>
                  if isLongOption name then runUtility .env [name] else runProgram n name args
          | .ok (.utility u) => runUtility u args
          | .ok (.file content executable) =>
              if !executable then refuse name 126
              else runFile n (Text.Bytes.ofString path) (Text.Bytes.ofBytes content) args

/-- Runs a file that may be executed. -/
def runFile : (bound : Nat) → List Char → List Char → List (List Char) → Act Unit
  | 0, _, _, _ => throw (.exit 255)
  | n + 1, path, content, args => do
      match interpreter? content with
      | none => runScript n path content args
      | some [] => refuse path 126
      | some (program :: options) =>
          let s ← get
          match s.files.lookUp s.directory (Text.Bytes.toString program) with
          | .ok (.utility .sh) => runScript n path content args
          | .ok (.utility .env) =>
              match options with
              | name :: _ =>
                  if name ∈ ["sh".toList, "dash".toList, "bash".toList] then
                    runScript n path content args
                  else runProgram n name (path :: args)
              | [] => refuse path 126
          | .ok (.utility _) => runProgram n program (options ++ path :: args)
          | .ok _ => refuse path 126
          | .error _ => refuse path 127

/-- Runs a script in a shell of its own. -/
def runScript : (bound : Nat) → List Char → List Char → List (List Char) → Act Unit
  | 0, _, _, _ => throw (.exit 255)
  | n + 1, name, content, args =>
      Act.isolated do
        modify fun s =>
          { s with bindings := firstVariables s.search, functions := .empty, strict := false,
                   guarded := false, farewell := [], name, arguments := args, status := 0 }
        Act.catchStop (evalSource n content)
        sayFarewell n

/-- Runs what a script has left for its end, and keeps the exit status. -/
def sayFarewell : (bound : Nat) → Act Unit
  | 0 => throw (.exit 255)
  | n + 1 => do
      let s ← get
      if !s.farewell.isEmpty then
        set { s with farewell := [] }
        evalSource n s.farewell
        Act.finish s.status

/-- Runs the shell as a program. -/
def runShell : (bound : Nat) → List (List Char) → Act Unit
  | 0, _ => throw (.exit 255)
  | n + 1, args => do
      match args with
      | ['-', 'c'] :: source :: rest => runScript n (rest.headD ['s', 'h']) source rest.tail
      | [] => runScript n ['s', 'h'] (← Act.takeInput) []
      | path :: rest =>
          if isLongOption path then runUtility .sh [path]
          else
            let s ← get
            match s.files.read s.directory (Text.Bytes.toString path) with
            | .ok content => runScript n path (Text.Bytes.ofBytes content) rest
            | .error _ => refuse path 127

/-- Runs a text as a script in a shell of its own. -/
def runSource : (bound : Nat) → List Char → Act Unit
  | 0, _ => throw (.exit 255)
  | n + 1, source => Act.isolated (evalSource n source)

/-- Runs a text as a script. -/
def evalSource : (bound : Nat) → List Char → Act Unit
  | 0, _ => throw (.exit 255)
  | n + 1, source =>
      match parseScript? source with
      | some c => eval n c
      | none => do
          Act.complain "syntax error"
          Act.finish 2

end

end PerlLint.Shell
