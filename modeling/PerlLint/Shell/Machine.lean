import PerlLint.Host.Files
import PerlLint.Shell.Syntax
import PerlLint.Text.Utf8

/-!
# The state of a shell

A shell has variables, arguments and a working directory; it reads an input and
writes to two outputs, each of which is collected, dropped, or goes to a file.

An *action* of the shell changes this state.  It may sleep, and it may end early,
with the whole script, a function or a loop.

A *strict* shell ends with the first command that fails, unless the failure is
*guarded* because it decides what is done next.
-/

namespace PerlLint.Shell

open Host

/-- Where an output goes. -/
inductive Target where
  /-- It is collected. -/
  | collected
  /-- Nobody sees it. -/
  | dropped
  /-- To the end of a file. -/
  | file (l : Location)
deriving Repr, DecidableEq

/-- Why an action ends early. -/
inductive Stop where
  /-- The script ends. -/
  | exit (status : Nat)
  /-- The function around ends. -/
  | leaveFunction (status : Nat)
  /-- The loop around ends. -/
  | leaveLoop
  /-- The loop around goes on with its next turn. -/
  | nextTurn
deriving Repr, DecidableEq

/-- The state of a shell.  All texts are bytes written as characters. -/
structure State where
  /-- The files of the machine. -/
  files : Files
  /-- The pieces of output collected, last first. -/
  collected : List (List Char)
  /-- The input that is left. -/
  input : List Char
  /-- The first output. -/
  out : Target
  /-- The second output, for messages. -/
  err : Target
  /-- The variables. -/
  bindings : Table (List Char) (List Char)
  /-- The functions. -/
  functions : Table (List Char) Command := .empty
  /-- Whether the shell is strict. -/
  strict : Bool := false
  /-- Whether failures are guarded now. -/
  guarded : Bool := false
  /-- What is run at the end of the script. -/
  farewell : List Char := []
  /-- The name of the script. -/
  name : List Char
  /-- The arguments. -/
  arguments : List (List Char)
  /-- The working directory. -/
  directory : Location
  /-- The directories in which programs are looked for. -/
  search : List String
  /-- The exit status of the last command. -/
  status : Nat

/-- An action of the shell. -/
abbrev Act (α : Type) := ExceptT Stop (StateT State Activity) α

namespace Act

/-- Sets the exit status. -/
def finish (status : Nat) : Act Unit := modify fun s => { s with status }

/-- Writes to an output. -/
def writeTo (target : Target) (text : List Char) : Act Unit :=
  modify fun s =>
    match target with
    | .collected => { s with collected := text :: s.collected }
    | .dropped => s
    | .file l =>
        match s.files.node? l with
        | some (.file content _) =>
            { s with files := s.files.setContent l (content ++ Text.Bytes.toBytes text) }
        | _ => s

/-- Writes to the first output. -/
def print (text : List Char) : Act Unit := do writeTo (← get).out text

/-- Writes a line to the second output. -/
def complain (text : String) : Act Unit := do
  writeTo (← get).err (Text.Bytes.ofString (text ++ "\n"))

/-- Sleeps once. -/
def sleep : Act Unit :=
  ExceptT.mk fun s => .asleep s.files fun fs => .done (.ok (), { s with files := fs })

/-- Takes all of the input. -/
def takeInput : Act (List Char) := modifyGet fun s => (s.input, { s with input := [] })

/-- Runs an action to its end, however that comes. -/
def catchStop (a : Act Unit) : Act Unit :=
  tryCatch a fun e => match e with
    | .exit status | .leaveFunction status => finish status
    | .leaveLoop | .nextTurn => finish 0

/-- Runs an action, and then another one even if the first ends early. -/
def andFinally (a b : Act Unit) : Act Unit := do
  tryCatch a fun e => do
    b
    throw e
  b

/-- Runs an action whose failure is guarded. -/
def guarding (a : Act Unit) : Act Unit := do
  let before := (← get).guarded
  modify fun s => { s with guarded := true }
  a.andFinally (modify fun s => { s with guarded := before })

/-- Ends a strict script after a failure that is not guarded. -/
def heed : Act Unit := do
  let s ← get
  if s.strict && !s.guarded && s.status != 0 then throw (.exit s.status)

/-- Runs an action and undoes its changes to all but the files, the outputs'
content and the exit status. -/
def isolated (a : Act Unit) : Act Unit := do
  let before ← get
  catchStop a
  modify fun s =>
    { before with files := s.files, collected := s.collected, status := s.status,
                  input := s.input }

/-- What an action prints to the first output. -/
def captured (a : Act Unit) : Act (List Char) := do
  let before ← get
  set { before with collected := [], out := .collected }
  isolated a
  let text := (← get).collected.reverse.flatten
  modify fun s => { s with collected := before.collected, out := before.out }
  return text

/-- Sets a variable. -/
def assign (name value : List Char) : Act Unit :=
  modify fun s => { s with bindings := s.bindings.set name value }

end Act

end PerlLint.Shell
