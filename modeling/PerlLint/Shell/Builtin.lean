import PerlLint.Shell.Expansion
import PerlLint.Shell.Utility

/-!
# Commands of the shell itself

These commands need no program.  Some of them are *special*: an error in one of
them ends the script.
-/

namespace PerlLint.Shell

open Host

/-- The special commands. -/
def specialCommands : List String :=
  [":", ".", "break", "continue", "eval", "exec", "exit", "export", "readonly", "return", "set",
    "shift", "times", "trap", "unset"]

/-- Ends the script because of an error. -/
def misuse {α : Type} (text : String) : Act α := do
  Act.complain text
  throw (.exit 2)

/-! ## Reading -/

/-- A line without its backslashes, each of which keeps the next character. -/
def dropBackslashes (acc : List Char) : (bound : Nat) → List Char → List Char
  | 0, _ => acc.reverse
  | _ + 1, [] => acc.reverse
  | n + 1, '\\' :: c :: cs => dropBackslashes (c :: acc) n cs
  | n + 1, c :: cs => dropBackslashes (c :: acc) n cs

/-- Whether a character separates what is read. -/
def isReadBlank (c : Char) : Bool := c == ' ' || c == '\t'

/-- A text without blanks at its ends. -/
def trimBlanks (s : List Char) : List Char :=
  (((s.dropWhile isReadBlank).reverse).dropWhile isReadBlank).reverse

/-- Assigns the words of a line to names; the last name gets all that is left. -/
def assignWords (line : List Char) : List (List Char) → Act Unit
  | [] => pure ()
  | [name] => Act.assign name (trimBlanks line)
  | name :: names => do
      let line := line.dropWhile isReadBlank
      Act.assign name (line.takeWhile fun c => !isReadBlank c)
      assignWords (line.dropWhile fun c => !isReadBlank c) names

/-- Reads one line of the input into variables. -/
def readLine (args : List (List Char)) : Act Unit := do
  let input := (← get).input
  let line := input.takeWhile (· != '\n')
  modify fun s => { s with input := (input.dropWhile (· != '\n')).drop 1 }
  let line := if args.contains ['-', 'r'] then line else dropBackslashes [] (line.length + 1) line
  assignWords line (args.filter (· != ['-', 'r']))
  Act.finish (if input.contains '\n' then 0 else 1)

/-! ## Changing the state -/

/-- Changes the working directory. -/
def changeDirectory (path : List Char) : Act Unit := do
  let s ← get
  match s.files.locate s.directory (Text.Bytes.toString path) with
  | .ok l =>
      if s.files.isDirectoryAt l then
        set { s with directory := l, status := 0 }
      else Act.finish 2
  | .error _ => Act.finish 2

/-- Takes arguments of the form `name=value` as assignments. -/
def assignAll (args : List (List Char)) : Act Unit := do
  for a in args do
    if a.contains '=' then
      Act.assign (a.takeWhile (· != '=')) ((a.dropWhile (· != '=')).drop 1)
  Act.finish 0

/-- Takes options, and then arguments. -/
def setAll : List (List Char) → Act Unit
  | [] => Act.finish 0
  | ['-', '-'] :: rest => modify fun s => { s with arguments := rest, status := 0 }
  | ['-', 'o'] :: _ :: rest => setAll rest
  | (mark :: letters) :: rest => do
      if mark = '-' ∨ mark = '+' then
        if letters.contains 'e' then modify fun s => { s with strict := mark == '-' }
        setAll rest
      else modify fun s => { s with arguments := (mark :: letters) :: rest, status := 0 }
  | rest => modify fun s => { s with arguments := rest, status := 0 }

/-- Drops arguments. -/
def shiftBy (n : Nat) : Act Unit := do
  let s ← get
  if s.arguments.length < n then misuse "shift: too many"
  else set { s with arguments := s.arguments.drop n, status := 0 }

/-- The exit status that an argument names, or the last one if there is none. -/
def statusOf (args : List (List Char)) : Act Nat := do
  match args with
  | [] => return (← get).status
  | a :: _ =>
      if !a.isEmpty && a.all Text.isDigit then return Text.digitsValue a % 256
      else misuse "illegal number"

/-- Remembers what is run at the end of the script. -/
def setTrap (args : List (List Char)) : Act Unit := do
  match args with
  | [source, event] =>
      if event = "EXIT".toList ∨ event = ['0'] then
        modify fun s => { s with farewell := if source = ['-'] then [] else source }
  | _ => pure ()
  Act.finish 0

/-! ## Signals -/

/-- The signals that end a script, in the order of their numbers. -/
def deadlySignals : List String :=
  ["HUP", "INT", "QUIT", "ILL", "TRAP", "ABRT", "BUS", "FPE", "KILL", "USR1", "SEGV", "USR2",
    "PIPE", "ALRM", "TERM"]

/-- The number of a signal that is named or written as a number. -/
def signalNumber? (s : List Char) : Option Nat :=
  if !s.isEmpty && s.all Text.isDigit then
    some (Text.digitsValue s)
  else (deadlySignals.findIdx? fun name => name.toList == s).map (· + 1)

/-- The signal that is sent and the process that gets it.  Without a name the signal is
the one that asks to end. -/
def signalOf : List (List Char) → Option Nat × List Char
  | ['-', 's'] :: name :: pid :: _ => (signalNumber? name, pid)
  | ('-' :: name) :: pid :: _ => (signalNumber? name, pid)
  | pid :: _ => (some 15, pid)
  | [] => (none, [])

/-- Sends a signal.  One that goes to the script itself ends it at once, without the
commands that were to be run at its end, and its exit status is 128 more than the number.
Of other processes there are none. -/
def sendSignal (args : List (List Char)) : Act Unit := do
  match signalOf args with
  | (none, _) => Act.finish 2
  | (some n, pid) =>
      if (← get).parameter? ['$'] != some pid then Act.finish 1
      else if n = 0 then Act.finish 0
      else
        modify fun s => { s with farewell := [] }
        throw (.exit (128 + n))

/-! ## The commands -/

/-- Runs a command of the shell itself.  Says whether there is one of this
name. -/
def runOwn (name : String) (args : List (List Char)) : Act Bool := do
  match name with
  | ":" | "times" | "umask" | "wait" | "true" => Act.finish 0; return true
  | "false" => Act.finish 1; return true
  | "exit" => throw (.exit (← statusOf args))
  | "return" => throw (.leaveFunction (← statusOf args))
  | "break" => throw .leaveLoop
  | "continue" => throw .nextTurn
  | "cd" => changeDirectory (args.headD []); return true
  | "echo" => Act.print (echoText args); Act.finish 0; return true
  | "printf" => runUtility .printf args; return true
  | "pwd" => runUtility .pwd args; return true
  | "test" => runUtility .test args; return true
  | "[" => runUtility .test args.dropLast; return true
  | "read" => readLine args; return true
  | "export" | "readonly" | "local" => assignAll args; return true
  | "set" => setAll args; return true
  | "shift" => shiftBy (match args with
      | [] => 1
      | n :: _ => (numberOf n).toNat); return true
  | "trap" => setTrap args; return true
  | "kill" => sendSignal args; return true
  | "unset" =>
      modify fun s => { s with bindings := args.foldl Table.erase s.bindings, status := 0 }
      return true
  | _ => return false

end PerlLint.Shell
