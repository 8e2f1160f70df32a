import PerlLint.Check

/-!
# The command line

There are three commands: `check` with the files to check, `lsp`, which serves an
editor, and `help`, behind which the name of one command may stand.  Some options may
stand in front of `check` and `lsp` and behind them; if both are there, the one behind
counts.

An option may be given only once at each place.  A value follows its option as the
next argument, after `=`, or at once after a short option.  Short options without a
value may be run together.  After `--` there are only files.  A value or file must
not be empty, and a value that is an argument of its own must not look like an
option.

`Request.ofArguments` says what a command line asks for.
-/

namespace PerlLint

/-- The version. -/
def version : String := "0.1.0"

/-- The name of the program. -/
def programName : String := "criticlint"

/-- What a command line asks for. -/
inductive Request where
  /-- To check files. -/
  | check (q : CheckRequest)
  /-- To serve an editor. -/
  | serve
  /-- To show the version. -/
  | version
  /-- To show how the program is used. -/
  | help
deriving Repr, DecidableEq

namespace CommandLine

/-! ## Options -/

/-- A part of the command line. -/
inductive Part where
  /-- In front of the command. -/
  | front
  /-- Behind `check`. -/
  | check
  /-- Behind `lsp`. -/
  | lsp
deriving Repr, DecidableEq

/-- An option. -/
inductive Flag where
  | config
  | verbose
  | format
  | help
  | version
deriving Repr, DecidableEq

/-- Whether an option may be given at a level. -/
def Flag.allowed (l : Part) : Flag → Bool
  | config | verbose | help => true
  | format => l == .check
  | version => l == .front

/-- Whether an option takes a value. -/
def Flag.takesValue : Flag → Bool
  | config | format => true
  | _ => false

/-- The option with a long name. -/
def Flag.ofLong? (name : String) : Option Flag :=
  [("config", config), ("verbose", verbose), ("format", format), ("help", help),
    ("version", version)].lookup name

/-- The option with a letter. -/
def Flag.ofLetter? (c : Char) : Option Flag :=
  [('c', config), ('v', verbose), ('f', format), ('h', help), ('V', version)].lookup c

/-- What has been given at a level. -/
structure Given where
  /-- The configuration file. -/
  config : Option String := none
  /-- Whether more is to be logged. -/
  verbose : Bool := false
  /-- The format of the report. -/
  format : Option ReportFormat := none
  /-- The files, last first. -/
  files : List String := []
deriving Repr, DecidableEq

/-- How reading goes on after an option. -/
inductive Next where
  /-- With the next argument. -/
  | goOn (g : Given)
  /-- Not at all: an option asks for something else. -/
  | instead (q : Request)

/-- Takes an option without a value. -/
def Given.setFlag (g : Given) : Flag → Option Next
  | .verbose => if g.verbose then none else some (.goOn { g with verbose := true })
  | .help => some (.instead .help)
  | .version => some (.instead .version)
  | .config | .format => none

/-- Takes an option with a value. -/
def Given.setValue (g : Given) (f : Flag) (value : String) : Option Given :=
  match f with
  | .config =>
      if value.isEmpty || g.config.isSome then none else some { g with config := some value }
  | .format =>
      match value, g.format with
      | "text", none => some { g with format := some .text }
      | "json", none => some { g with format := some .json }
      | _, _ => none
  | _ => none

/-! ## Arguments -/

/-- An argument by its form. -/
inductive Argument where
  /-- `--`. -/
  | stop
  /-- A long option, with the value after `=` if there is one. -/
  | long (name : String) (value : Option String)
  /-- Short options, as letters. -/
  | short (letters : List Char)
  /-- Anything else. -/
  | plain (s : String)
deriving Repr, DecidableEq

/-- The form of an argument. -/
def Argument.ofString (s : String) : Argument :=
  match s.toList with
  | ['-', '-'] => .stop
  | '-' :: '-' :: cs =>
      match cs.dropWhile (· != '=') with
      | _ :: value => .long (String.ofList (cs.takeWhile (· != '='))) (some (String.ofList value))
      | [] => .long (String.ofList cs) none
  | '-' :: c :: cs => .short (c :: cs)
  | _ => .plain s

/-- Whether an argument may be the value of the option in front of it. -/
def isValue (s : String) : Bool :=
  match Argument.ofString s with
  | .plain _ => true
  | _ => false

/-- Takes short options.  Gives what is given then, and the option that still
waits for its value. -/
def takeLetters (l : Part) (g : Given) : List Char → Option (Next × Option Flag)
  | [] => some (.goOn g, none)
  | c :: cs =>
      match Flag.ofLetter? c with
      | none => none
      | some f =>
          if !f.allowed l then none
          else if f.takesValue then
            match cs with
            | [] => some (.goOn g, some f)
            | '=' :: value => (g.setValue f (String.ofList value)).map fun g => (.goOn g, none)
            | value => (g.setValue f (String.ofList value)).map fun g => (.goOn g, none)
          else
            match g.setFlag f with
            | none => none
            | some (.instead q) => some (.instead q, none)
            | some (.goOn g) => takeLetters l g cs

/-- Takes a long option.  Gives what is given then, and the option that still waits
for its value. -/
def takeLong (l : Part) (g : Given) (name : String) (value : Option String) :
    Option (Next × Option Flag) :=
  match Flag.ofLong? name with
  | none => none
  | some f =>
      if !f.allowed l then none
      else
        match f.takesValue, value with
        | true, some value => (g.setValue f value).map fun g => (.goOn g, none)
        | true, none => some (.goOn g, some f)
        | false, none => (g.setFlag f).map fun next => (next, none)
        | false, some _ => none

/-- Takes files. -/
def takeFiles (g : Given) (files : List String) : Option Given :=
  if files.any String.isEmpty then none else some { g with files := files.reverse ++ g.files }

/-! ## The whole line -/

/-- Takes an argument that may be the value of `f`. -/
def takeValueOf (g : Given) (f : Flag) (s : String) : Option Given :=
  if isValue s then g.setValue f s else none

/-- The request that is made behind a command. -/
def finish (front : Given) (l : Part) (g : Given) : Option Request :=
  match l with
  | .check =>
      if g.files.isEmpty then none
      else some (.check ⟨g.config.or front.config, g.files.reverse, g.format.getD .text⟩)
  | .lsp => if g.files.isEmpty then some .serve else none
  | .front => none

/-- Reads the arguments behind a command.  `waiting` is the option that waits for its
value. -/
def readCommand (front : Given) (l : Part) (g : Given) (waiting : Option Flag) :
    List String → Option Request
  | [] =>
      match waiting with
      | some _ => none
      | none => finish front l g
  | s :: rest =>
      match waiting with
      | some f =>
          match takeValueOf g f s with
          | some g => readCommand front l g none rest
          | none => none
      | none =>
          let goOn : Option (Next × Option Flag) → Option Request
            | some (.goOn g, waiting) => readCommand front l g waiting rest
            | some (.instead q, _) => some q
            | none => none
          match Argument.ofString s with
          | .stop =>
              match takeFiles g rest with
              | some g => finish front l g
              | none => none
          | .long name value => goOn (takeLong l g name value)
          | .short letters => goOn (takeLetters l g letters)
          | .plain s =>
              if l == .check then
                match takeFiles g [s] with
                | some g => readCommand front l g none rest
                | none => none
              else none

/-- Reads the arguments behind `help`: nothing, or the name of one command. -/
def readHelp : List String → Option Request
  | [] | ["check"] | ["lsp"] | ["help"] => some .help
  | _ => none

/-- Reads the arguments in front of the command, and then the command. -/
def readFront (g : Given) (waiting : Option Flag) : List String → Option Request
  | [] => none
  | s :: rest =>
      match waiting with
      | some f =>
          match takeValueOf g f s with
          | some g => readFront g none rest
          | none => none
      | none =>
          let goOn : Option (Next × Option Flag) → Option Request
            | some (.goOn g, waiting) => readFront g waiting rest
            | some (.instead q, _) => some q
            | none => none
          match Argument.ofString s with
          | .stop => none
          | .long name value => goOn (takeLong .front g name value)
          | .short letters => goOn (takeLetters .front g letters)
          | .plain "check" => readCommand g .check {} none rest
          | .plain "lsp" => readCommand g .lsp {} none rest
          | .plain "help" => readHelp rest
          | .plain _ => none

end CommandLine

/-- What a command line asks for, if it is right. -/
def Request.ofArguments? (args : List String) : Option Request :=
  CommandLine.readFront {} none args

example : Request.ofArguments? ["-vc", "x", "check", "a", "-fjson", "--", "-b"]
    = some (.check ⟨some "x", ["a", "-b"], .json⟩) := by decide +kernel

/-! ## Carrying a line out -/

/-- How the program is used. -/
def usageText : String :=
  "Usage: " ++ programName ++ " [-c FILE] [-v] check [-f text|json] FILE...\n"
    ++ "       " ++ programName ++ " [-c FILE] [-v] lsp\n"

/-- Carries out a request.  `serve` says how serving an editor ends. -/
def Request.run (r : Runner) (fs : Host.Files) (serve : Finish) : Request → Finish
  | .check q => q.run r fs
  | .serve => serve
  | .version => ⟨0, programName ++ " " ++ PerlLint.version ++ "\n"⟩
  | .help => ⟨0, usageText⟩

/-- Carries out a command line while nobody writes to the server.  A line that is wrong
means status 2. -/
def runCommandLine (r : Runner) (fs : Host.Files) (args : List String) : Finish :=
  match Request.ofArguments? args with
  | some q => q.run r fs ⟨0, ""⟩
  | none => ⟨2, ""⟩

end PerlLint
